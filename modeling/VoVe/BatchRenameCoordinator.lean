import VoVe.BatchRenamePlan
import VoVe.BatchTransactionCodec
import VoVe.CurrentOperationJournal
import VoVe.OperationRequest

set_option autoImplicit false

/-! The run loop of `batch_rename_coordinator.cpp`. Its calls on the journal,
  on the file-operation service and on the stop token are operations; leases,
  progress reports and worker threads are left out. -/

namespace VoVe.BatchRenameCoordinator
open ByteCodec AsciiText PosixPath EffectProgram CurrentOperationJournal
open FileOperation OperationRequest BatchTransaction BatchTransactionCodec

inductive BatchRunStatus where
 | success
 | rolledBack
 | invalidRequest
 | busy
 | unsupported
 | journalError
 | recoveryRequired
 | stopped
 deriving DecidableEq

structure BatchRenameResult where
 status : BatchRunStatus := .invalidRequest
 operationStatus : OperationStatus := .success
 completed : ℕ := 0
 total : ℕ := 0
 destinations : List Path := []
 detailUtf8 : Bytes := []
 deriving DecidableEq

inductive BatchOp where
 | persist (transaction : BatchRenameTransaction)
 | submit (request : RenameRequest) (reconcile : Bool)
 | stopRequested
 | removeJournal
 | readJournal

/-- `persist` and `removeJournal` give the detail where they fail. -/
def BatchReply : BatchOp → Type
 | .persist _=>Except Bytes Unit
 | .submit _ _=>OperationResult
 | .stopRequested=>Bool
 | .removeJournal=>Except Bytes Unit
 | .readJournal=>CurrentOperationJournalReadResult

abbrev BatchProg := Prog BatchOp BatchReply

def persist (transaction : BatchRenameTransaction) : BatchProg (Except Bytes Unit):=
 Prog.issue (BatchOp.persist transaction)

def submitAndWait (request : RenameRequest) (reconcile : Bool) : BatchProg OperationResult:=
 Prog.issue (BatchOp.submit request reconcile)

def stopRequested : BatchProg Bool := Prog.issue BatchOp.stopRequested

def removeJournal : BatchProg (Except Bytes Unit) := Prog.issue BatchOp.removeJournal

def readJournal : BatchProg CurrentOperationJournalReadResult := Prog.issue BatchOp.readJournal

variable (item : BatchTransactionItem)

def stepDestination : BatchStepKind → Path
 | .evacuate=>item.temporary
 | .rollback=>item.source
 | .publish=>item.destination
 | .none=>⟨[]⟩

def stepLocation : BatchStepKind → BatchItemLocation
 | .evacuate=>.temporary
 | .rollback=>.source
 | .publish=>.destination
 | .none=>.source

def stepName : BatchStepKind → Bytes
 | .evacuate=>utf8 "evacuate"
 | .rollback=>utf8 "rollback"
 | _=>utf8 "publish"

variable (transaction : BatchRenameTransaction) (index : ℕ)

def itemAt : BatchTransactionItem:=
 transaction.items.getD index ⟨⟨[]⟩,⟨[]⟩,⟨[]⟩,⟨[]⟩,{},.source,.regularFile⟩

variable (step : BatchStepKind)

def stepOperationId (index : ℕ) : UInt64:=
 let mix : UInt64 := 0x9e3779b97f4a7c15
 let value:=transaction.operationId ^^^ (mix*UInt64.ofNat (index+1)) ^^^
  ((enumCode step).toUInt64 <<< 56)
 if value = 0 then transaction.operationId else value

def countLocation (location : BatchItemLocation) : ℕ:=
 transaction.items.countP fun item=>item.location = location

def requestFor : RenameRequest where
 operationId:=stepOperationId transaction step index
 action:=.execute
 mode:=.batchInternal
 objectKind:=(itemAt transaction index).objectKind
 source:=(itemAt transaction index).current
 destination:=stepDestination (itemAt transaction index) step
 expectedSource:=(itemAt transaction index).currentSnapshot

def moved (confirmed : SourceSnapshot) : BatchTransactionItem:=
 { item with
   current:=stepDestination item step
   currentSnapshot:=confirmed
   location:=stepLocation step }

def setItem (item : BatchTransactionItem) : BatchRenameTransaction:=
 { transaction with items:=transaction.items.set index item }

def clearActive : BatchRenameTransaction:=
 { transaction with activeStep:=.none,activeIndex:=0,activeEvidence:=.none }

def forgetFailure : BatchRenameTransaction:=
 if transaction.phase = .rollback then transaction
 else { transaction with failureStatus:=.success,failureDetailUtf8:=[] }

def recordFailure (status : OperationStatus)
  (evidence : OperationEvidence) (detail : Bytes) : BatchRenameTransaction:=
 { transaction with
   failureStatus:=status,activeEvidence := evidence,failureDetailUtf8 := detail }

variable (result : OperationResult)

/-- A success counts only with a snapshot of the same object. -/
def trustworthy : Bool:=
 result.ok && physicalId item≠[] &&
  stableObjectIdentity result.confirmedSnapshot.sourceRevisionUtf8 = physicalId item

def applySuccess : Option BatchRenameTransaction:=
 let item:=itemAt transaction index
 if trustworthy item result then
  some (forgetFailure (clearActive
   (setItem transaction index (moved item step result.confirmedSnapshot))))
 else none

def untrustworthyDetail : Bytes:=
 utf8 "batch step succeeded without a trustworthy object snapshot"

def record (detailOf : Bytes → Bytes)
  (stopped settled : StepResult) : BatchProg (BatchRenameTransaction × StepResult) := do
 match ← persist transaction with
 | .error detail=>pure (transaction,.journalError (detailOf detail))
 | .ok ()=>
  if ← stopRequested then pure (transaction,stopped) else pure (transaction,settled)

def stoppedWith (status : OperationStatus) (detail : String) : StepResult:=
 { outcome:=.stopped,status:=status,detailUtf8:=utf8 detail }

def settleSuccess (stopDetail : String) : BatchProg (BatchRenameTransaction × StepResult):=
 match applySuccess transaction index step result with
 | some applied=>record applied id (stoppedWith .success stopDetail) .committed
 | none=>do
  let failed:=recordFailure transaction .unknownOutcome result.evidence untrustworthyDetail
  match ← persist failed with
  | .error detail=>pure (failed,.journalError detail)
  | .ok ()=>
   pure (failed,{ outcome:=.recoveryRequired,status:=.unknownOutcome,
                  detailUtf8:=failed.failureDetailUtf8 })

def settleEvidence
  (stopDetail : String) : BatchProg (BatchRenameTransaction × StepResult):=
 record (recordFailure transaction result.status result.evidence result.detailUtf8)
  (fun detail=>result.detailUtf8++utf8 "; " ++ detail) (stoppedWith result.status stopDetail)
  { outcome:=.recoveryRequired,status:=result.status,detailUtf8:=result.detailUtf8 }

/-- A first evacuation that did not commit turns the operation back. -/
def refused : BatchRenameTransaction:=
 clearActive { transaction with
  failureStatus:=result.status
  failureDetailUtf8:=result.detailUtf8
  phase:=if step = .evacuate then .rollback else transaction.phase }

def settleExecution : BatchProg (BatchRenameTransaction × StepResult):=
 if result.ok then
  settleSuccess transaction index step result
   "batch rename stopped after recording the completed step"
 else if result.evidence = .noCommit then
  record (refused transaction step result) id
   (stoppedWith result.status "batch rename stopped after recording the non-commit")
   { outcome:=.noCommit,status:=result.status,detailUtf8:=result.detailUtf8 }
 else
  settleEvidence transaction result "batch rename stopped after recording operation evidence"

def beginStep : BatchRenameTransaction:=
 { transaction with
   activeStep:=step,activeIndex := UInt32.ofNat index,activeEvidence := .none }

/-- A failure names its step and its item, counted from one. -/
def describe (index : ℕ) (result : OperationResult) : OperationResult:=
 if result.ok then result
 else { result with
  detailUtf8:=utf8 "batch " ++ stepName step++utf8 " item " ++ toChars 10 (index+1) ++
   utf8 ": " ++ result.detailUtf8 }

/-- A source that the attempt did not find is looked at once more. -/
def attempt (request : RenameRequest) : BatchProg OperationResult := do
 let attempted ← submitAndWait request false
 if attempted.status = .notFound then do
  if ← stopRequested then pure attempted else submitAndWait request true
 else pure attempted

def executeStep : BatchProg (BatchRenameTransaction × StepResult) := do
 let active:=beginStep transaction index step
 match ← persist active with
 | .error detail=>pure (active,.journalError detail)
 | .ok ()=>
  let result ← attempt (requestFor active index step)
  settleExecution active index step (describe step index result)

def recordedAttempt (request : RenameRequest) : OperationResult where
 operationId:=request.operationId
 status:=transaction.failureStatus
 evidence:=transaction.activeEvidence
 detailUtf8:=transaction.failureDetailUtf8

def settleReconciliation : BatchProg (BatchRenameTransaction × StepResult):=
 if result.ok then
  settleSuccess transaction index step result
   "batch recovery stopped after recording the reconciled step"
 else if result.evidence = .noCommit then
  record (forgetFailure (clearActive transaction)) id
   (stoppedWith result.status "batch recovery stopped after recording the reconciled non-commit")
   { outcome:=.noCommit,status:=result.status,detailUtf8:=result.detailUtf8 }
 else
  settleEvidence transaction result
   "batch recovery stopped after recording reconciliation evidence"

def reconcileActive : BatchProg (BatchRenameTransaction × StepResult) := do
 let index:=transaction.activeIndex.toNat
 let step:=transaction.activeStep
 let request:=requestFor transaction index step
 let observed ← submitAndWait request true
 let result:=if transaction.activeEvidence≠.none then
   mergeReconciliation (recordedAttempt transaction request) observed
  else observed
 settleReconciliation transaction index step result

def recoveryResult (step : StepResult) : BatchRenameResult where
 status:=match step.outcome with
  | .journalError=>.journalError
  | .stopped=>.stopped
  | _=>.recoveryRequired
 operationStatus:=step.status
 completed:=countLocation transaction .destination
 total:=transaction.items.length
 detailUtf8:=step.detailUtf8

/-- What a loop over the items does with one of them. -/
inductive LoopTurn where
 | skip
 | run
 | refuse (result : StepResult)

def stepItems (step : BatchStepKind) (turn : BatchItemLocation → LoopTurn):
  List ℕ → BatchRenameTransaction → BatchProg (BatchRenameTransaction × StepResult)
 | [], transaction=>pure (transaction,.committed)
 | index::rest, transaction=>
  match turn (itemAt transaction index).location with
  | .skip=>stepItems step turn rest transaction
  | .refuse result=>pure (transaction,result)
  | .run=>do
   let (stepped,result) ← executeStep transaction index step
   if result.outcome = .committed then stepItems step turn rest stepped
   else pure (stepped,result)

variable (location : BatchItemLocation)

def evacuateTurn : LoopTurn:=
 if location≠.source then .skip else .run

def rollbackTurn : LoopTurn:=
 if location≠.temporary then .skip else .run

def impossibleLocation : StepResult where
 outcome:=.recoveryRequired
 status:=.sourceChanged
 detailUtf8:=utf8 "published batch journal contains an impossible item location"

def publishTurn : LoopTurn:=
 if location = .destination then .skip
 else if location≠.temporary then .refuse impossibleLocation
 else .run

def rollback (transaction : BatchRenameTransaction) : BatchProg BatchRenameResult := do
 let total:=transaction.items.length
 let (last,result) ←
  stepItems .rollback rollbackTurn (List.range total).reverse transaction
 if result.outcome≠.committed then pure (recoveryResult last result)
 else
  match ← removeJournal with
  | .error detail=>pure { status:=.journalError,operationStatus:=.ioError,
                          completed:=total,total := total,detailUtf8 := detail }
  | .ok ()=>
   pure { status:=.rolledBack,operationStatus:=transaction.failureStatus,
          completed:=total,total := total,
          detailUtf8:=if transaction.failureDetailUtf8 = [] then
            utf8 "batch rename was rolled back"
           else transaction.failureDetailUtf8 }

def publish (transaction : BatchRenameTransaction) : BatchProg BatchRenameResult := do
 let total:=transaction.items.length
 let (last,result) ← stepItems .publish publishTurn (List.range total) transaction
 if result.outcome≠.committed then pure (recoveryResult last result)
 else
  let destinations:=last.items.map (·.destination)
  match ← removeJournal with
  | .error detail=>pure { status:=.journalError,operationStatus:=.ioError,
                          completed:=total,total := total,destinations := destinations,
                          detailUtf8:=detail }
  | .ok ()=>pure { status:=.success,operationStatus:=.success,completed:=total,
                   total:=total,destinations := destinations }

/-- Enter a phase, persist it and go on. -/
def movePhase (phase : BatchTransactionPhase)
  (next : BatchRenameTransaction → BatchProg BatchRenameResult):
  BatchProg BatchRenameResult := do
 let entered:={ transaction with phase:=phase }
 match ← persist entered with
 | .error detail=>pure (recoveryResult entered (.journalError detail))
 | .ok ()=>next entered

def finishPhases : BatchProg BatchRenameResult:=
 match transaction.phase with
 | .publishing=>publish transaction
 | .rollback=>rollback transaction
 | _=>pure { status:=.recoveryRequired,operationStatus:=.ioError,
             total:=transaction.items.length,
             detailUtf8:=utf8 "batch rename transaction phase is not recoverable" }

def fromCommitIntent : BatchProg BatchRenameResult:=
 if transaction.phase = .commitIntent then movePhase transaction .publishing finishPhases
 else finishPhases transaction

def evacuate (transaction : BatchRenameTransaction) : BatchProg BatchRenameResult := do
 let (last,result) ←
  stepItems .evacuate evacuateTurn (List.range transaction.items.length) transaction
 match result.outcome with
 | .committed=>movePhase last .commitIntent fromCommitIntent
 | .noCommit=>rollback last
 | _=>pure (recoveryResult last result)

def fromEvacuating : BatchProg BatchRenameResult:=
 if transaction.phase = .evacuating then evacuate transaction else fromCommitIntent transaction

def fromPrepared : BatchProg BatchRenameResult:=
 if transaction.phase = .prepared then movePhase transaction .evacuating fromEvacuating
 else fromEvacuating transaction

def recoverActive : BatchProg BatchRenameResult:=
 if transaction.activeStep≠.none then do
  let (reconciled,result) ← reconcileActive transaction
  match result.outcome with
  | .committed | .noCommit=>fromPrepared reconciled
  | _=>pure (recoveryResult reconciled result)
 else fromPrepared transaction

def continueTransaction : BatchProg BatchRenameResult:=
 if transaction.activeStep = .none ∧ transaction.phase = .evacuating ∧
   transaction.failureStatus≠.success then
  movePhase transaction .rollback recoverActive
 else recoverActive transaction

def journalFailure (total : ℕ) (detail : Bytes) : BatchRenameResult where
 status:=.journalError
 operationStatus:=.ioError
 total:=total
 detailUtf8:=detail

def runPrepared : BatchProg BatchRenameResult := do
 if transaction.items = [] then pure { status:=.success,operationStatus:=.success }
 else
  match ← persist transaction with
  | .error detail=>pure (journalFailure transaction.items.length detail)
  | .ok ()=>continueTransaction transaction

def resumeFrom (loaded : CurrentOperationJournalReadResult) : BatchProg BatchRenameResult:=
 if ¬loaded.ok then
  pure (journalFailure 0 (if loaded.status = .notFound then
   utf8 "there is no batch rename to recover" else utf8 "batch rename journal is unreadable"))
 else if loaded.encoding = .typed ∧ loaded.kind≠.batchRename then
  pure (journalFailure 0 (utf8 "current operation journal belongs to another operation"))
 else
  match decodeBatchTransaction loaded.payload [] with
  | .error detail=>pure (journalFailure 0 detail)
  | .ok transaction=>
   if loaded.encoding = .legacyUntyped then do
    match ← persist transaction with
    | .error detail=>pure (journalFailure transaction.items.length detail)
    | .ok ()=>continueTransaction transaction
   else continueTransaction transaction

def runResume : BatchProg BatchRenameResult := do
 let loaded ← readJournal
 resumeFrom loaded

end VoVe.BatchRenameCoordinator
