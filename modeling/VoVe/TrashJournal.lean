import VoVe.FileOperationProtocol
import VoVe.TrashRecordCodec

set_option autoImplicit false

/-! The transactions that a trash operation of `trash_coordinator.cpp` gives to the
  encoder, for its journal and its manifest, step by step in the POSIX build. -/

namespace VoVe.TrashJournal
open ByteCodec AsciiText PosixPath Checks DestinationFilename FileOperation OperationRequest
 OperationValidation FileOperationProtocol CurrentOperationJournal TransactionCodec TrashRecord
 TrashRecordCodec

inductive TrashRunStatus where
 | success
 | rolledBack
 | invalidRequest
 | unsupported
 | storageUnavailable
 | insufficientSpace
 | recoveryRequired
 | journalError
 | stopped
 deriving DecidableEq

structure TrashResult where
 status : TrashRunStatus := .recoveryRequired
 operationStatus : OperationStatus := .ioError
 completed : ℕ := 0
 total : ℕ := 0
 manifestPath : Path := ⟨[]⟩
 storedPaths : List Path := []
 detailUtf8 : Bytes := []
 deriving DecidableEq

def budgetExceeded (totalItems : ℕ) : TrashResult where
 status:=.unsupported
 operationStatus:=.unsupported
 total:=totalItems
 detailUtf8:=utf8 "trash metadata exceeds the bounded journal budget"

variable (transaction : TrashTransaction)

/-- Only `std::length_error` is caught. -/
def verifyTransactionJournalBudget (totalItems : ℕ) : Except Thrown (Option TrashResult):=
 match encodeTrashTransaction transaction with
 | .ok encoded=>
  if encoded.length ≤ kMaximumCurrentOperationPayloadBytes - kMaximumOperationPayloadBytes then
   .ok none
  else .ok (some (budgetExceeded totalItems))
 | .error (.lengthError _)=>.ok (some (budgetExceeded totalItems))
 | .error thrown=>.error thrown

def trashMove : CurrentOperationKind := ⟨3⟩
def trashRestore : CurrentOperationKind := ⟨4⟩
def trashPurge : CurrentOperationKind := ⟨5⟩

def phaseKind : TrashPhase → CurrentOperationKind
 | .prepared | .moving | .rollback | .rollbackContainerRemoveIntent | .manifestIntent
 | .published | .cancelRemainingIntent | .cancelContainerRemoveIntent=>trashMove
 | .restorePrepared | .restoring | .restoreRollback | .manifestRemoveIntent
 | .restoreContainerRemoveIntent | .restored=>trashRestore
 | .purgePrepared | .purging | .purgeManifestRemoveIntent | .purgeContainerRemoveIntent
 | .purged=>trashPurge

def operationKind : CurrentOperationKind := phaseKind transaction.phase

def mix : UInt64 := 0x9e3779b97f4a7c15
def cursorMix : UInt64 := 0xd6e8feb86659fd93

def stepOperationId (step : TrashStep) (index : ℕ) : UInt64:=
 let base:=transaction.operationId ^^^ (mix*UInt64.ofNat (index+1)) ^^^
  ((enumCode step).toUInt64 <<< 56)
 let value:=
  match transaction.items[index]? with
  | some item=>
   if step = .purge ∧ item.kind = .directory then
    base ^^^ (cursorMix*(item.directoryPurgeCursor.toUInt64+1))
   else base
  | none=>base
 if value = 0 then transaction.operationId else value

variable (item : TrashItem)

def purgeSource : Path:=
 match item.kind, item.directoryEntries[item.directoryPurgeCursor.toNat]? with
 | .directory, some entry=>item.current / entry.relativePath
 | _, _=>item.current

variable (index : ℕ)

def setItem (item : TrashItem) : TrashTransaction:=
 { transaction with items:=transaction.items.set index item }

def trustworthyIdentity (confirmed : SourceSnapshot) : Bool:=
 let expected:=stableObjectIdentity item.currentSnapshot.sourceRevisionUtf8
 (expected≠[] && expected = stableObjectIdentity confirmed.sourceRevisionUtf8) ||
  samePrivateTrashPayloadAfterRemount item.currentSnapshot confirmed item.storageIdentityUtf8
   item.storageIdentityUtf8

/-- A directory loses its entries one by one and itself at last. -/
def purgedItem : TrashItem:=
 if item.kind = .directory ∧ item.directoryPurgeCursor.toNat < item.directoryEntries.length then
  { item with directoryPurgeCursor:=item.directoryPurgeCursor+1 }
 else { item with current:=⟨[]⟩,location:=.deleted,directoryPurgeCursor:=0 }

def movedItem (step : TrashStep) (confirmed : SourceSnapshot) : TrashItem:=
 { item with
   current:=if step = .store then item.stored else item.restorePath
   currentSnapshot:=confirmed
   location:=if step = .store then .stored else .source
   securityState:=.original }

def applySuccess (step : TrashStep)
  (result : OperationResult) : Except Bytes TrashTransaction := do
 let item ← found transaction.items[index]? []
 if step = .purge then
  require (result.ok ∧ result.evidence = .committed)
   (utf8 "trash purge succeeded without committed evidence")
  pure (setItem transaction index (purgedItem item))
 else
  require (result.ok ∧ trustworthyIdentity item result.confirmedSnapshot)
   (utf8 "trash rename succeeded without a trustworthy physical identity")
  pure (setItem transaction index (movedItem item step result.confirmedSnapshot))

def clearActive (clearFailure : Bool) : TrashTransaction:=
 { transaction with
   activeStep:=.none
   activeIndex:=0
   activeEvidence:=.none
   failureStatus:=if clearFailure then .success else transaction.failureStatus
   failureDetailUtf8:=if clearFailure then [] else transaction.failureDetailUtf8 }

/-- The phases of a retreat keep the failure they answer. -/
def retreating : Bool := transaction.phase = .rollback ∨ transaction.phase = .restoreRollback

def beginStep (step : TrashStep) : TrashTransaction:=
 { transaction with
   activeStep:=step,activeIndex := UInt32.ofNat index,activeEvidence := .none }

/-- A step that did not commit turns a move or a restore back. -/
def turnedBack : TrashTransaction:=
 let phase:=
  if transaction.phase = .moving ∧ transaction.activeStep = .store then .rollback
  else if transaction.phase = .restoring ∧ transaction.activeStep = .restore then
   .restoreRollback
  else transaction.phase
 clearActive { transaction with phase:=phase } false

def recordFailure (status : OperationStatus)
  (evidence : OperationEvidence) (detail : Bytes) : TrashTransaction:=
 { transaction with
   failureStatus:=status,activeEvidence := evidence,failureDetailUtf8 := detail }

/-- A failure of a purge names what it was to remove. -/
def describe (detail : Bytes) : Bytes:=
 match transaction.activeStep, transaction.items[transaction.activeIndex.toNat]? with
 | .purge, some item=>detail++utf8 ": " ++ (purgeSource item).native
 | _, _=>detail

def settleFailure (result : OperationResult) : TrashTransaction:=
 let failed:=recordFailure transaction result.status result.evidence result.detailUtf8
 if result.evidence = .noCommit then turnedBack failed else failed

/-- What `execute_step` gives to the journal for the result of its step. -/
def settleExecution (result : OperationResult) : TrashTransaction:=
 let active:={ transaction with activeEvidence:=result.evidence }
 if result.ok then
  match applySuccess active active.activeIndex.toNat active.activeStep result with
  | .ok applied=>clearActive applied (!retreating applied)
  | .error detail=>recordFailure active .unknownOutcome result.evidence detail
 else
  settleFailure transaction
   { result with detailUtf8:=describe transaction result.detailUtf8 }

def recordedAttempt : OperationResult where
 operationId:=stepOperationId transaction transaction.activeStep transaction.activeIndex.toNat
 status:=transaction.failureStatus
 evidence:=transaction.activeEvidence
 detailUtf8:=transaction.failureDetailUtf8

/-- What `reconcile_active` gives to the journal; a success that cannot be trusted is
  not recorded. -/
def settleReconciliation (observed : OperationResult) : Option TrashTransaction:=
 let result:=if transaction.activeEvidence≠.none then
   mergeReconciliation (recordedAttempt transaction) observed
  else observed
 if result.ok then
  match applySuccess transaction transaction.activeIndex.toNat transaction.activeStep result with
  | .ok applied=>some (clearActive applied (!retreating applied))
  | .error _=>none
 else some (settleFailure transaction result)

variable (location : TrashItemLocation)

def hasLocation : Bool := transaction.items.any (·.location = location)

def firstAt : Option ℕ := transaction.items.findIdx? (·.location = location)

/-- The first item a loop from the last item down takes. -/
def lastAt : Option ℕ:=
 (transaction.items.reverse.findIdx? (·.location = location)).map
  (transaction.items.length - 1 - ·)

/-- The step that the loop of a phase executes next. -/
def nextStep : Option (ℕ × TrashStep):=
 if transaction.activeStep≠.none then none
 else
  match transaction.phase with
  | .moving=>(firstAt transaction .source).map (·,.store)
  | .rollback=>(lastAt transaction .stored).map (·,.restore)
  | .restoring=>(firstAt transaction .stored).map (·,.restore)
  | .restoreRollback=>(lastAt transaction .source).map (·,.store)
  | .purging=>(firstAt transaction .stored).map (·,.purge)
  | _=>none

def publishedOf : TrashTransaction := clearActive { transaction with phase:=.published } true

/-- The phase that follows once nothing is left to do in the one recorded. -/
def advance (manifest : Option TrashTransaction) : Option TrashTransaction:=
 let done (location : TrashItemLocation) (next : TrashPhase):=
  if hasLocation transaction location then none else some { transaction with phase:=next }
 if transaction.activeStep≠.none then none
 else
  match transaction.phase with
  | .prepared=>some { transaction with phase:=.moving }
  | .moving=>done .source .manifestIntent
  | .rollback=>
   (done .stored .rollbackContainerRemoveIntent).map (clearActive · false)
  | .manifestIntent=>
   if manifest = some (publishedOf transaction) then some (publishedOf transaction) else none
  | .restorePrepared=>some { transaction with phase:=.restoring }
  | .restoring=>done .stored .manifestRemoveIntent
  | .manifestRemoveIntent=>some { transaction with phase:=.restoreContainerRemoveIntent }
  | .restoreContainerRemoveIntent=>some { transaction with phase:=.restored }
  | .purgePrepared=>some { transaction with phase:=.purging }
  | .purging=>done .stored .purgeManifestRemoveIntent
  | .purgeManifestRemoveIntent=>some { transaction with phase:=.purgeContainerRemoveIntent }
  | .purgeContainerRemoveIntent=>some { transaction with phase:=.purged }
  | .cancelRemainingIntent | .cancelContainerRemoveIntent=>
   some (clearActive transaction true)
  | _=>none

def cancelling : Bool:=
 transaction.phase = .cancelRemainingIntent ∨ transaction.phase = .cancelContainerRemoveIntent

/-- A cancellation that has reconciled its step and confirmed its items. -/
def confirmed : Bool := cancelling transaction && transaction = clearActive transaction true

/-- The items a cancellation leaves in the trash. -/
def retained : TrashTransaction:=
 { transaction with
   phase:=.published,items := transaction.items.filter (·.location = .stored) }

/-- Whether nothing is left but to remove the journal. -/
def finishing : Bool:=
 match transaction.phase with
 | .prepared | .published | .rollbackContainerRemoveIntent | .restored | .purged=>true
 | .restoreRollback=>transaction.activeStep = .none ∧ !hasLocation transaction .source
 | .cancelRemainingIntent=>confirmed transaction ∧ hasLocation transaction .stored
 | .cancelContainerRemoveIntent=>confirmed transaction
 | _=>false

def rebaseRestorePaths (destinationDirectory : Path) : Option TrashTransaction:=
 let rebased:={ transaction with
  items:=transaction.items.map fun item =>
   { item with
     restorePath:=(destinationDirectory / item.original.filename).lexicallyNormal } }
 if transaction.items = [] ∨ destinationDirectory.isEmpty ∨ !destinationDirectory.isAbsolute ∨
   destinationDirectory.components.names.any isTrashFilename then none
 else if validTrashTransaction rebased = .ok () then some rebased
 else none

/-- A record as a reader of its file gets it. -/
def readBack : Option TrashTransaction := do
 let payload ← (encodeTrashTransaction transaction).toOption
 (decodeTrashTransaction payload []).toOption

def restorePlan (manifest : TrashTransaction) (destination : Option Path):
  Option TrashTransaction := do
 let loaded ← readBack manifest
 let rebased ← destination.elim (some loaded) (rebaseRestorePaths loaded)
 if loaded.phase = .published then some (clearActive { rebased with phase:=.restorePrepared } true)
 else none

def purgePlan (loaded : TrashTransaction) : Option TrashTransaction:=
 if loaded.phase = .published then some (clearActive { loaded with phase:=.purgePrepared } true)
 else none

structure Records where
 journal : Option TrashTransaction := none
 manifest : Option TrashTransaction := none
 /-- Every transaction given to the encoder so far. -/
 written : List TrashTransaction := []

/-- Whether the journal takes the record of a transaction. -/
def fits : Bool:=
 match encodeTrashTransaction transaction with
 | .ok payload=>payload.length ≤ kMaximumCurrentOperationPayloadBytes
 | .error _=>false

variable (stored : Bool)

/-- `stored` tells whether the file system did its part. -/
def persist (transaction : TrashTransaction) (records : Records) : Records:=
 { records with
   journal:=if stored ∧ fits transaction then some transaction else records.journal
   written:=records.written++[transaction] }

def publishManifest (transaction : TrashTransaction) (records : Records) : Records:=
 { records with
   manifest:=
    if stored ∧ (encodeTrashTransaction transaction).isOk then some transaction
    else records.manifest
   written:=records.written++[transaction] }

inductive Event where
 /-- `execute_step` records its step. -/
 | begin (stored : Bool)
 | execute (stored : Bool) (result : OperationResult)
 | reconcile (stored : Bool) (observed : OperationResult)
 | advance (stored : Bool)
 | publish (stored : Bool)
 | cancel (stored : Bool)
 /-- The manifest is cut to the items a cancellation leaves in the trash. -/
 | retain (stored : Bool)
 /-- A cancellation that leaves no item removes the container. -/
 | discard (stored : Bool)
 | finish
 /-- A later run reads the journal. -/
 | reload
 | restore (stored : Bool) (destination : Option Path)
 | purge (stored : Bool)

def active (records : Records) : Option TrashTransaction:=
 records.journal.filter (·.activeStep≠.none)

def step (event : Event) (records : Records) : Option Records:=
 match event with
 | .begin stored=>do
  let transaction ← records.journal
  let (index,step) ← nextStep transaction
  pure (persist stored (beginStep transaction index step) records)
 | .execute stored result=>do
  let transaction ← active records
  pure (persist stored (settleExecution transaction result) records)
 | .reconcile stored observed=>do
  let transaction ← active records
  let settled ← settleReconciliation transaction observed
  pure (persist stored settled records)
 | .advance stored=>do
  let transaction ← records.journal
  let next ← advance transaction records.manifest
  let removes:=transaction.phase = .manifestRemoveIntent ∨
   transaction.phase = .purgeManifestRemoveIntent
  pure (persist stored next
   { records with manifest:=if removes then none else records.manifest })
 | .publish stored=>do
  let transaction ← records.journal
  match transaction.phase with
  | .manifestIntent=>some (publishManifest stored (publishedOf transaction) records)
  | .published=>some (publishManifest stored transaction records)
  | _=>none
 | .cancel stored=>do
  let transaction ← records.journal
  if operationKind transaction = trashMove ∧ !cancelling transaction then
   some (persist stored { transaction with phase:=.cancelRemainingIntent } records)
  else none
 | .retain stored=>do
  let transaction ← records.journal
  if ¬confirmed transaction then none
  else if hasLocation transaction .stored then
   some (publishManifest stored (retained transaction) records)
  else some { records with manifest:=none }
 | .discard stored=>do
  let transaction ← records.journal
  if confirmed transaction ∧ !hasLocation transaction .stored then
   some (persist stored { transaction with phase:=.cancelContainerRemoveIntent } records)
  else none
 | .finish=>do
  let transaction ← records.journal
  if finishing transaction then some { records with journal:=none } else none
 | .reload=>do
  let transaction ← records.journal
  let loaded ← readBack transaction
  pure { records with journal:=some loaded }
 | .restore stored destination=>do
  let manifest ← records.manifest
  let plan ← restorePlan manifest destination
  if records.journal≠none then none
  else if destination = none then do
   let loaded ← readBack manifest
   some (persist stored plan (publishManifest stored loaded records))
  else some (persist stored plan records)
 | .purge stored=>do
  let manifest ← records.manifest
  let loaded ← readBack manifest
  let plan ← purgePlan loaded
  if records.journal≠none then none
  else some (persist stored plan (publishManifest stored loaded records))

/-- The records that runs leave whose every event is allowed. -/
inductive Steps (allowed : Event → Records → Prop) : Records → Records → Prop where
 | refl (records : Records) : Steps allowed records records
 | next {start before after : Records} (event : Event) (earlier : Steps allowed start before)
   (allows : allowed event before) (turn : step event before = some after):
   Steps allowed start after

/-- The run starts with the prepared transaction in the journal. -/
def prepared (transaction : TrashTransaction) : Records := persist stored transaction {}

end VoVe.TrashJournal
