import VoVe.CurrentOperationJournal
import VoVe.DeleteTransaction
import VoVe.OperationRequest

set_option autoImplicit false

/-! The run loop of `permanent_delete_coordinator.cpp`, with the operations of the
  batch-rename coordinator and one more for the erase step. -/

namespace VoVe.PermanentDeleteCoordinator
open ByteCodec AsciiText PosixPath EffectProgram CurrentOperationJournal
open FileOperation OperationRequest DeleteTransaction

inductive PermanentDeleteRunStatus where
 | success
 | rolledBack
 | invalidRequest
 | unsupported
 | failed
 | recoveryRequired
 | journalError
 | stopped
 deriving DecidableEq

structure PermanentDeleteResult where
 status : PermanentDeleteRunStatus := .recoveryRequired
 operationStatus : OperationStatus := .ioError
 completed : ℕ := 0
 total : ℕ := 0
 detailUtf8 : Bytes := []
 deriving DecidableEq

inductive DeleteOp where
 | persist (transaction : PermanentDeleteTransaction)
 | submitRename (request : RenameRequest) (reconcile : Bool)
 | submitDelete (request : DeleteRequest) (reconcile : Bool)
 | stopRequested
 | removeJournal
 | readJournal

def DeleteReply : DeleteOp → Type
 | .persist _=>Except Bytes Unit
 | .submitRename _ _=>OperationResult
 | .submitDelete _ _=>OperationResult
 | .stopRequested=>Bool
 | .removeJournal=>Except Bytes Unit
 | .readJournal=>CurrentOperationJournalReadResult

abbrev DeleteProg := Prog DeleteOp DeleteReply

def persist (transaction : PermanentDeleteTransaction) : DeleteProg (Except Bytes Unit):=
 Prog.issue (DeleteOp.persist transaction)

def waitForRename (request : RenameRequest) (reconcile : Bool) : DeleteProg OperationResult:=
 Prog.issue (DeleteOp.submitRename request reconcile)

def waitForDelete (request : DeleteRequest) (reconcile : Bool) : DeleteProg OperationResult:=
 Prog.issue (DeleteOp.submitDelete request reconcile)

def stopRequested : DeleteProg Bool := Prog.issue DeleteOp.stopRequested

def removeJournal : DeleteProg (Except Bytes Unit) := Prog.issue DeleteOp.removeJournal

def readJournal : DeleteProg CurrentOperationJournalReadResult := Prog.issue DeleteOp.readJournal

variable (transaction : PermanentDeleteTransaction)

def countLocation
  (location : PermanentDeleteItemLocation) : ℕ:=
 transaction.items.countP fun item=>item.location = location

variable (step : PermanentDeleteStep)

def stepOperationId
  (index : ℕ) : UInt64:=
 let mix : UInt64 := 0x9e3779b97f4a7c15
 let value:=transaction.operationId ^^^ (mix*UInt64.ofNat (index+1)) ^^^
  ((enumCode step).toUInt64 <<< 56)
 if value = 0 then transaction.operationId else value

variable (index : ℕ)

def itemAt : PermanentDeleteItem:=
 transaction.items.getD index { source:=⟨[]⟩,temporary:=⟨[]⟩,current:=⟨[]⟩ }

variable (item : PermanentDeleteItem)

def renameTarget (step : PermanentDeleteStep) : Path:=
 if step = .evacuate then item.temporary else item.source

def renameRequest
  (step : PermanentDeleteStep) : RenameRequest where
 operationId:=stepOperationId transaction step index
 action:=.execute
 mode:=.batchInternal
 source:=(itemAt transaction index).current
 destination:=renameTarget (itemAt transaction index) step
 expectedSource:=(itemAt transaction index).currentSnapshot

def deleteRequest : DeleteRequest where
 operationId:=stepOperationId transaction .erase index
 action:=.execute
 mode:=.permanentRemote
 source:=(itemAt transaction index).current
 expectedSource:=(itemAt transaction index).currentSnapshot

def submitStep (step : PermanentDeleteStep)
  (reconcile : Bool) : DeleteProg OperationResult:=
 if step = .erase then waitForDelete (deleteRequest transaction index) reconcile
 else waitForRename (renameRequest transaction index step) reconcile

def applyRenameSuccess (step : PermanentDeleteStep)
  (result : OperationResult) : Except Bytes PermanentDeleteItem:=
 let expected:=stableObjectIdentity item.currentSnapshot.sourceRevisionUtf8
 let confirmed:=stableObjectIdentity result.confirmedSnapshot.sourceRevisionUtf8
 if ¬result.ok ∨ expected = [] ∨ confirmed≠expected then
  .error (utf8 "delete rename step succeeded without a trustworthy snapshot")
 else
  .ok { item with
   current:=renameTarget item step
   currentSnapshot:=result.confirmedSnapshot
   location:=if step = .evacuate then .temporary else .source }

variable (result : OperationResult)

/-- An erased item keeps the snapshot it had and loses its path. -/
def applyEraseSuccess : Except Bytes PermanentDeleteItem:=
 if ¬result.ok ∨ result.evidence≠.committed then
  .error (utf8 "delete step succeeded without committed evidence")
 else .ok { item with current:=⟨[]⟩,location:=.deleted }

def setItem : PermanentDeleteTransaction:=
 { transaction with items:=transaction.items.set index item }

/-- No step is under way; only a rollback keeps the failure it answers. -/
def clearActive : PermanentDeleteTransaction:=
 { transaction with
   activeStep:=.none
   activeIndex:=0
   activeEvidence:=.none
   failureStatus:=
    if transaction.phase = .rollback then transaction.failureStatus else .success
   failureDetailUtf8:=
    if transaction.phase = .rollback then transaction.failureDetailUtf8 else [] }

def applySuccess (index : ℕ)
  (step : PermanentDeleteStep) (result : OperationResult):
  Except Bytes PermanentDeleteTransaction := do
 let item:=itemAt transaction index
 let applied ←
  if step = .erase then applyEraseSuccess item result else applyRenameSuccess item step result
 pure (clearActive (setItem transaction index applied))

def beginStep
  (step : PermanentDeleteStep) : PermanentDeleteTransaction:=
 { transaction with
   activeStep:=step,activeIndex := UInt32.ofNat index,activeEvidence := .none }

variable (status : OperationStatus)

def recordFailure
  (evidence : OperationEvidence) (detail : Bytes) : PermanentDeleteTransaction:=
 { transaction with
   failureStatus:=status,activeEvidence := evidence,failureDetailUtf8 := detail }

/-- An evacuation that did not commit turns the operation back. -/
def refused : PermanentDeleteTransaction:=
 { transaction with
   failureStatus:=result.status
   failureDetailUtf8:=result.detailUtf8
   phase:=if step = .evacuate then .rollback else transaction.phase
   activeStep:=.none
   activeIndex:=0
   activeEvidence:=.none }

def record (detailOf : Bytes → Bytes)
  (settled : StepResult) : DeleteProg (PermanentDeleteTransaction × StepResult) := do
 match ← persist transaction with
 | .error detail=>pure (transaction,.journalError (detailOf detail))
 | .ok ()=>pure (transaction,settled)

/-- A step that was recorded ends early where a stop was asked for. -/
def orStopped (stopDetail : String)
  (recorded : DeleteProg (PermanentDeleteTransaction × StepResult)):
  DeleteProg (PermanentDeleteTransaction × StepResult) := do
 let (transaction,settled) ← recorded
 if settled.outcome = .journalError then pure (transaction,settled)
 else if ← stopRequested then
  pure (transaction,{ outcome:=.stopped,status:=status,detailUtf8:=utf8 stopDetail })
 else pure (transaction,settled)

def recordEvidence : DeleteProg (PermanentDeleteTransaction × StepResult):=
 record (recordFailure transaction result.status result.evidence result.detailUtf8)
  (fun detail=>result.detailUtf8++utf8 "; " ++ detail)
  { outcome:=.recoveryRequired,status:=result.status,detailUtf8:=result.detailUtf8 }

def recordRefusal : DeleteProg (PermanentDeleteTransaction × StepResult):=
 record (refused transaction step result) id
  { outcome:=.noCommit,status:=result.status,detailUtf8:=result.detailUtf8 }

def settleExecution
  (step : PermanentDeleteStep) (result : OperationResult):
  DeleteProg (PermanentDeleteTransaction × StepResult):=
 if result.ok then
  match applySuccess transaction index step result with
  | .ok applied=>
   orStopped .success "permanent delete stopped after recording a completed step"
    (record applied id .committed)
  | .error detail=>
   record (recordFailure transaction .unknownOutcome result.evidence detail) id
    { outcome:=.recoveryRequired,status:=.unknownOutcome,detailUtf8:=detail }
 else if result.evidence = .noCommit then
  orStopped result.status "permanent delete stopped after recording a non-commit"
   (recordRefusal transaction step result)
 else
  orStopped result.status "permanent delete stopped after recording operation evidence"
   (recordEvidence transaction result)

/-- A source that the attempt did not find is looked at once more. -/
def attempt (step : PermanentDeleteStep) : DeleteProg OperationResult := do
 let attempted ← submitStep transaction index step false
 if attempted.status = .notFound then do
  if ← stopRequested then pure attempted else submitStep transaction index step true
 else pure attempted

def executeStep
  (step : PermanentDeleteStep) : DeleteProg (PermanentDeleteTransaction × StepResult) := do
 let active:=beginStep transaction index step
 match ← persist active with
 | .error detail=>pure (active,.journalError detail)
 | .ok ()=>
  let result ← attempt active index step
  settleExecution active index step result

def recordedAttempt (operationId : UInt64) : OperationResult where
 operationId:=operationId
 status:=transaction.failureStatus
 evidence:=transaction.activeEvidence
 detailUtf8:=transaction.failureDetailUtf8

/-- A success that cannot be applied is reported, and nothing is persisted. -/
def settleReconciliation
  (step : PermanentDeleteStep) (result : OperationResult):
  DeleteProg (PermanentDeleteTransaction × StepResult):=
 if result.ok then
  match applySuccess transaction index step result with
  | .error detail=>pure (transaction,.journalError detail)
  | .ok applied=>
   orStopped .success "delete recovery stopped after recording reconciliation"
    (record applied id .committed)
 else if result.evidence = .noCommit then recordRefusal transaction step result
 else recordEvidence transaction result

def reconcileActive : DeleteProg (PermanentDeleteTransaction × StepResult) := do
 let index:=transaction.activeIndex.toNat
 let step:=transaction.activeStep
 let observed ← submitStep transaction index step true
 let result:=if transaction.activeEvidence≠.none then
   mergeReconciliation (recordedAttempt transaction observed.operationId) observed
  else observed
 settleReconciliation transaction index step result

def recoveryResult (step : StepResult) : PermanentDeleteResult where
 status:=match step.outcome with
  | .journalError=>.journalError
  | .stopped=>.stopped
  | _=>.recoveryRequired
 operationStatus:=step.status
 completed:=countLocation transaction .deleted
 total:=transaction.items.length
 detailUtf8:=step.detailUtf8

/-- What a loop over the items does with one of them. -/
inductive ItemTurn where
 | skip
 | run
 | refuse (result : StepResult)

def stepItems (step : PermanentDeleteStep) (turn : PermanentDeleteItemLocation → ItemTurn):
  List ℕ → PermanentDeleteTransaction → DeleteProg (PermanentDeleteTransaction × StepResult)
 | [], transaction=>pure (transaction,.committed)
 | index::rest, transaction=>
  match turn (itemAt transaction index).location with
  | .skip=>stepItems step turn rest transaction
  | .refuse result=>pure (transaction,result)
  | .run=>do
   let (stepped,result) ← executeStep transaction index step
   if result.outcome = .committed then stepItems step turn rest stepped
   else pure (stepped,result)

variable (location : PermanentDeleteItemLocation)

def evacuateTurn : ItemTurn:=
 if location≠.source then .skip else .run

def rollbackTurn : ItemTurn:=
 if location≠.temporary then .skip else .run

def impossibleLocation : StepResult where
 outcome:=.recoveryRequired
 status:=.sourceChanged
 detailUtf8:=utf8 "delete journal contains an impossible item location"

def eraseTurn : ItemTurn:=
 if location = .deleted then .skip
 else if location≠.temporary then .refuse impossibleLocation
 else .run

/-- The end of a run: the journal goes before the result is reported. -/
def finish (completed total : ℕ) (finished : PermanentDeleteResult):
  DeleteProg PermanentDeleteResult := do
 match ← removeJournal with
 | .error detail=>pure { status:=.journalError,operationStatus:=.ioError,
                         completed:=completed,total := total,detailUtf8 := detail }
 | .ok ()=>pure finished

def rollback (transaction : PermanentDeleteTransaction) : DeleteProg PermanentDeleteResult := do
 let total:=transaction.items.length
 let (last,result) ← stepItems .rollback rollbackTurn (List.range total).reverse transaction
 if result.outcome≠.committed then pure (recoveryResult last result)
 else
  finish 0 total
   { status:=.rolledBack,operationStatus:=transaction.failureStatus,completed:=0,
     total:=total,
     detailUtf8:=if transaction.failureDetailUtf8 = [] then
       utf8 "permanent delete was rolled back"
      else transaction.failureDetailUtf8 }

def erase (transaction : PermanentDeleteTransaction) : DeleteProg PermanentDeleteResult := do
 let total:=transaction.items.length
 let (last,result) ← stepItems .erase eraseTurn (List.range total) transaction
 if result.outcome≠.committed then pure (recoveryResult last result)
 else
  finish total total
   { status:=.success,operationStatus:=.success,completed:=total,total:=total,
     detailUtf8:=[] }

/-- Enter a phase, persist it and go on. -/
def movePhase (phase : PermanentDeletePhase)
  (next : PermanentDeleteTransaction → DeleteProg PermanentDeleteResult):
  DeleteProg PermanentDeleteResult := do
 let entered:={ transaction with phase:=phase }
 match ← persist entered with
 | .error detail=>pure (recoveryResult entered (.journalError detail))
 | .ok ()=>next entered

def finishPhases : DeleteProg PermanentDeleteResult:=
 match transaction.phase with
 | .deleting=>erase transaction
 | .rollback=>rollback transaction
 | _=>pure { status:=.recoveryRequired,operationStatus:=.ioError,
             completed:=countLocation transaction .deleted,
             total:=transaction.items.length,
             detailUtf8:=utf8 "permanent-delete phase is not recoverable" }

def fromIntent : DeleteProg PermanentDeleteResult:=
 if transaction.phase = .permanentDeleteIntent then movePhase transaction .deleting finishPhases
 else finishPhases transaction

def evacuate (transaction : PermanentDeleteTransaction) : DeleteProg PermanentDeleteResult := do
 let (last,result) ←
  stepItems .evacuate evacuateTurn (List.range transaction.items.length) transaction
 match result.outcome with
 | .committed=>movePhase last .permanentDeleteIntent fromIntent
 | .noCommit=>rollback last
 | _=>pure (recoveryResult last result)

def fromEvacuating : DeleteProg PermanentDeleteResult:=
 if transaction.phase = .evacuating then evacuate transaction else fromIntent transaction

def fromPrepared : DeleteProg PermanentDeleteResult:=
 if transaction.phase = .prepared then movePhase transaction .evacuating fromEvacuating
 else fromEvacuating transaction

/-- Whether recovery goes on after a reconciliation that found no commit: an
  evacuation turns back, an erase in conflict is tried again. -/
def resumable : Bool := step = .evacuate ∨ (step = .erase ∧ status = .conflict)

def continueTransaction : DeleteProg PermanentDeleteResult:=
 if transaction.activeStep≠.none then do
  let (reconciled,result) ← reconcileActive transaction
  match result.outcome with
  | .committed=>fromPrepared reconciled
  | .noCommit=>
   if resumable transaction.activeStep result.status then fromPrepared reconciled
   else pure (recoveryResult reconciled result)
  | _=>pure (recoveryResult reconciled result)
 else fromPrepared transaction

def journalFailure (total : ℕ) (detail : Bytes) : PermanentDeleteResult where
 status:=.journalError
 operationStatus:=.ioError
 total:=total
 detailUtf8:=detail

def runPrepared : DeleteProg PermanentDeleteResult := do
 match ← persist transaction with
 | .error detail=>pure (journalFailure transaction.items.length detail)
 | .ok ()=>continueTransaction transaction

def resumeFrom (loaded : CurrentOperationJournalReadResult) : DeleteProg PermanentDeleteResult:=
 if ¬loaded.ok ∨ loaded.encoding≠.typed ∨ loaded.kind≠.permanentDelete then
  pure (journalFailure 0 (if loaded.status = .notFound then
   utf8 "there is no permanent delete to recover"
   else utf8 "current operation journal is not a permanent delete"))
 else
  match decodePermanentDeleteTransaction loaded.payload [] with
  | .error detail=>pure (journalFailure 0 detail)
  | .ok transaction=>continueTransaction transaction

def runResume : DeleteProg PermanentDeleteResult := do
 let loaded ← readJournal
 resumeFrom loaded

end VoVe.PermanentDeleteCoordinator
