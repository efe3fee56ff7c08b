import VoVe.FileTransferClient
import VoVe.OperationRequest
import VoVe.TransferTransactionCodec

set_option autoImplicit false

/-! The run loop of `file_transfer_coordinator.cpp` for plain file transfers. Its
  calls on the journal, on the two services, on the user and on the stop token
  are operations; leases, progress reports and worker threads are left out. -/

namespace VoVe.FileTransferCoordinator
open ByteCodec AsciiText PosixPath Checks EffectProgram
open CurrentOperationJournal FileOperation OperationRequest TransferTransaction
open TransferTransactionCodec FileTransferProtocol
open FileTransferClient (FileTransferAuditCommitOutcome)

inductive FileTransferRunStatus where
 | success
 | partialFailure
 | invalidRequest
 | unsupported
 | recoveryRequired
 | journalError
 | stopped
 | cancelled
 deriving DecidableEq

structure FileTransferResult where
 status : FileTransferRunStatus := .recoveryRequired
 operationStatus : OperationStatus := .ioError
 evidence : OperationEvidence := .none
 completed : ℕ := 0
 total : ℕ := 0
 failedIndex : Option ℕ := none
 destinations : List Path := []
 detailUtf8 : Bytes := []
 deriving DecidableEq

inductive FileTransferConflictDecision where
 | createCopy
 | overwrite
 | cancel
 deriving DecidableEq

structure FileTransferConflictItem where
 source : Path
 destination : Path
 deriving DecidableEq

inductive StepOutcome where
 | committed
 | cleanFailure
 | recoveryRequired
 | journalError
 | stopped
 deriving DecidableEq

structure StepResult where
 outcome : StepOutcome := .recoveryRequired
 status : OperationStatus := .ioError
 evidence : OperationEvidence := .none
 detailUtf8 : Bytes := []
 deriving DecidableEq

/-- What a rename is submitted for; all but the first are read-only reconciliations. -/
inductive RenameUse where
 | execute
 | recover
 | observeConflict
 | tryCopyName
 deriving DecidableEq

/-- What a delete is submitted for; all but the first are read-only reconciliations. -/
inductive DeleteUse where
 | execute
 | recover
 | probeTemp
 | probeStagedSource
 deriving DecidableEq

/-- A stream request is refused, ends without a reservation, or reserves and
  waits for the commit. -/
inductive StreamAnswer where
 | rejected
 | finished (result : FileTransferStreamResult)
 | reserved (reservation : FileTransferReservation)

/-- An audit is refused, ends early, or waits for the commit of its result. -/
inductive AuditAnswer where
 | rejected
 | finished (result : FileTransferStreamResult)
 | audited (result : FileTransferStreamResult)

inductive TransferOp where
 | persist (transaction : FileTransferTransaction)
 | removeJournal
 | readJournal
 | stopRequested
 | submitRename (request : RenameRequest) (use : RenameUse)
 | submitDelete (request : DeleteRequest) (use : DeleteUse)
 | submitStream (request : FileTransferStreamRequest)
 | acknowledgeReservation (request : FileTransferStreamRequest)
   (reservation : FileTransferReservation) (accepted : Bool)
 | submitAudit (request : FileTransferStreamRequest)
 | acknowledgeAudit (request : FileTransferStreamRequest) (outcome : FileTransferAuditCommitOutcome)
 | awaitConflictDecision (question : List FileTransferConflictItem)
 | randomDevice

/-- `persist` and `removeJournal` give the detail where they fail; there is no
  decision where a stop was asked for. -/
def TransferReply : TransferOp → Type
 | .persist _=>Except Bytes Unit
 | .removeJournal=>Except Bytes Unit
 | .readJournal=>CurrentOperationJournalReadResult
 | .stopRequested=>Bool
 | .submitRename _ _=>OperationResult
 | .submitDelete _ _=>OperationResult
 | .submitStream _=>StreamAnswer
 | .acknowledgeReservation _ _ _=>FileTransferStreamResult
 | .submitAudit _=>AuditAnswer
 | .acknowledgeAudit _ _=>FileTransferStreamResult
 | .awaitConflictDecision _=>Option FileTransferConflictDecision
 | .randomDevice=>RequestToken

abbrev TransferProg := Prog TransferOp TransferReply

def persist (transaction : FileTransferTransaction) : TransferProg (Except Bytes Unit):=
 Prog.issue (TransferOp.persist transaction)

def removeJournal : TransferProg (Except Bytes Unit) := Prog.issue TransferOp.removeJournal

def readJournal : TransferProg CurrentOperationJournalReadResult:=
 Prog.issue TransferOp.readJournal

def stopRequested : TransferProg Bool := Prog.issue TransferOp.stopRequested

def submitRename (request : RenameRequest) (use : RenameUse) : TransferProg OperationResult:=
 Prog.issue (TransferOp.submitRename request use)

def submitDelete (request : DeleteRequest) (use : DeleteUse) : TransferProg OperationResult:=
 Prog.issue (TransferOp.submitDelete request use)

def submitStream (request : FileTransferStreamRequest) : TransferProg StreamAnswer:=
 Prog.issue (TransferOp.submitStream request)

def acknowledgeReservation (request : FileTransferStreamRequest)
  (reservation : FileTransferReservation) (accepted : Bool):
  TransferProg FileTransferStreamResult:=
 Prog.issue (TransferOp.acknowledgeReservation request reservation accepted)

def submitAudit (request : FileTransferStreamRequest) : TransferProg AuditAnswer:=
 Prog.issue (TransferOp.submitAudit request)

def acknowledgeAudit (request : FileTransferStreamRequest)
  (outcome : FileTransferAuditCommitOutcome) : TransferProg FileTransferStreamResult:=
 Prog.issue (TransferOp.acknowledgeAudit request outcome)

def awaitConflictDecision (question : List FileTransferConflictItem):
  TransferProg (Option FileTransferConflictDecision):=
 Prog.issue (TransferOp.awaitConflictDecision question)

def randomDevice : TransferProg RequestToken := Prog.issue TransferOp.randomDevice

variable (transaction : FileTransferTransaction)

/-- Finished items at the start of the list. -/
def completedPrefix : ℕ := (transaction.items.takeWhile (finalItem transaction.kind)).length

def completedDestinations : List Path:=
 (transaction.items.take (completedPrefix transaction)).map (·.destination)

def stepOperationId (step : FileTransferStep)
  (index : ℕ) : UInt64:=
 let mix : UInt64 := 0x9e3779b97f4a7c15
 let value:=transaction.operationId ^^^ (mix*UInt64.ofNat (index+1)) ^^^
  ((enumCode step).toUInt64 <<< 56)
 if value = 0 then transaction.operationId else value

variable (result : OperationResult)

def confirmedNoCommit : Bool := result.evidence = .noCommit

def mutationCommitted : Bool := result.status = .success ∧ result.evidence = .committed

def snapshotIdentityMatches (expected confirmed : SourceSnapshot) : Bool:=
 let expectedIdentity:=stableObjectIdentity expected.sourceRevisionUtf8
 expectedIdentity≠[] ∧ (expectedIdentity = stableObjectIdentity confirmed.sourceRevisionUtf8 ∨
   sameObjectAfterRename expected confirmed)

def snapshotExactMatches (expected confirmed : SourceSnapshot) : Bool:=
 sameSnapshot expected confirmed

def transferPathKey (path : Path) : Bytes := path.lexicallyNormal.native

def copyMark : Bytes := [0x5f,0xd0,0xba,0xd0,0xbe,0xd0,0xbf,0xd0,0xb8,0xd1,0x8f]

def copyDestinationPath (destination : Path) (ordinal : ℕ) : Path:=
 destination.parentPath / ⟨destination.stem.native++(copyMark ++
  ((if ordinal > 1 then utf8 "_" ++ toChars 10 ordinal else []) ++
  destination.extension.native))⟩

variable (item : FileTransferItem)

def clearDestinationProof : FileTransferItem:=
 { item with
   destinationSnapshot:={}
   contentSha256:=.zero _
   requestToken:=.zero _
   contentBytes:=0
   contentProofPresent:=false
   destinationState:=.absent }

structure ProbeResult where
 status : OperationStatus := .ioError
 snapshot : SourceSnapshot := {}
 detailUtf8 : Bytes := []
 deriving DecidableEq

structure ReservationMarkerProbe where
 file : ProbeResult
 owned : Bool
 deriving DecidableEq

def clearActive : FileTransferTransaction:=
 { transaction with activeStep:=.none,activeIndex:=0,activeEvidence:=.none }

def clearFailure : FileTransferTransaction:=
 { transaction with
   failureStatus:=.success,failureEvidence := .none,failureDetailUtf8 := [] }

def clearOverwrite : FileTransferItem:=
 { item with
   overwriteDestinationSnapshot:={},overwriteBackupSnapshot := {},overwriteState := .none }

variable (index : ℕ)

def itemAt : FileTransferItem:=
 transaction.items.getD index ⟨⟨[]⟩,⟨[]⟩,⟨[]⟩,⟨[]⟩,⟨[]⟩,{},{},{},[],[],[],[],.zero _,
  .zero _,0,.none,false,.copyStream,.original,.absent,{},{},.none⟩

def setItem (item : FileTransferItem) : FileTransferTransaction:=
 { transaction with items:=transaction.items.set index item }

def resultFor (status : FileTransferRunStatus)
  (operationStatus : OperationStatus) (evidence : OperationEvidence) (detail : Bytes):
  FileTransferResult:=
 let completed:=completedPrefix transaction
 { status:=status
   operationStatus:=operationStatus
   evidence:=evidence
   completed:=completed
   total:=transaction.items.length
   failedIndex:=if completed < transaction.items.length then some completed else none
   destinations:=completedDestinations transaction
   detailUtf8:=detail }

/-- A raw token is tied to the operation and the item, and never all zero. -/
def newRequestToken (random : RequestToken) : RequestToken:=
 let mixed:=(random.bytes.zipIdx.map fun (value,offset) =>
  if offset < 8 then value ^^^ (transaction.operationId >>> UInt64.ofNat (offset*8)).toUInt8
  else if offset = 15 then value ^^^ UInt8.ofNat index
  else value)
 if mixed.all (· = 0) then
  ⟨1::List.replicate 15 0,rfl⟩
 else ⟨mixed,by simp [mixed,random.length_eq]⟩

lemma newRequestToken_nonempty
 (random : RequestToken) : tokenEmpty (newRequestToken transaction index random)=false:=by
 unfold newRequestToken
 simp only
 split
 · decide
 · next h => simpa [tokenEmpty] using h

section Requests
variable (transaction : FileTransferTransaction) (index : ℕ)

/-- Versions before 6 replace the destination instead of moving it away. -/
def replaces : Bool:=
 transaction.version < 6 ∧ (itemAt transaction index).overwriteState = .authorized

def renameRequest (step : FileTransferStep) : RenameRequest:=
 let item:=itemAt transaction index
 let request : RenameRequest := { operationId:=stepOperationId transaction step index }
 let expectedDestination:=
  if transaction.version < 6 then item.overwriteDestinationSnapshot else {}
 match step with
 | .atomicMove=>{ request with
   mode:=if replaces transaction index then .transferAtomicReplace else .transferAtomic
   expectedDestination:=expectedDestination
   source:=item.source
   destination:=item.destination
   expectedSource:=item.currentSourceSnapshot
   sourceParentIdentityUtf8:=item.sourceParentIdentityUtf8
   destinationParentIdentityUtf8:=item.destinationParentIdentityUtf8 }
 | .stageSource=>{ request with
   mode:=.transferStage
   source:=item.source
   destination:=item.stagedSource
   expectedSource:=item.currentSourceSnapshot
   sourceParentIdentityUtf8:=item.sourceParentIdentityUtf8
   destinationParentIdentityUtf8:=item.sourceParentIdentityUtf8 }
 | .publishTemp=>{ request with
   mode:=if replaces transaction index then .transferPublishReplace else .transferPublish
   expectedDestination:=expectedDestination
   source:=item.tempDestination
   destination:=item.destination
   expectedSource:=item.destinationSnapshot
   sourceParentIdentityUtf8:=item.destinationParentIdentityUtf8
   destinationParentIdentityUtf8:=item.destinationParentIdentityUtf8 }
 | .restoreStagedSource=>{ request with
   mode:=.transferRestore
   source:=item.stagedSource
   destination:=item.source
   expectedSource:=item.currentSourceSnapshot
   sourceParentIdentityUtf8:=item.sourceParentIdentityUtf8
   destinationParentIdentityUtf8:=item.sourceParentIdentityUtf8 }
 | .evacuateOverwriteDestination=>{ request with
   mode:=.transferOverwriteStage
   source:=item.destination
   destination:=item.overwriteBackup
   expectedSource:=item.overwriteDestinationSnapshot
   sourceParentIdentityUtf8:=item.destinationParentIdentityUtf8
   destinationParentIdentityUtf8:=item.destinationParentIdentityUtf8 }
 | .restoreOverwriteDestination=>{ request with
   mode:=.transferOverwriteRestore
   source:=item.overwriteBackup
   destination:=item.destination
   expectedSource:=item.overwriteBackupSnapshot
   sourceParentIdentityUtf8:=item.destinationParentIdentityUtf8
   destinationParentIdentityUtf8:=item.destinationParentIdentityUtf8 }
 | _=>request

/-- The look for a free name moves nothing and replaces nothing. -/
def copyNameRequest (candidate : Path) : RenameRequest:=
 { renameRequest transaction index .atomicMove with
   mode:=.transferAtomic,destination := candidate,expectedDestination := {} }

def deleteRequest (step : FileTransferStep) : DeleteRequest:=
 let item:=itemAt transaction index
 let request : DeleteRequest := { operationId:=stepOperationId transaction step index }
 match step with
 | .cleanupTemp=>{ request with
   mode:=.transferTempCleanup
   source:=item.tempDestination
   expectedSource:=item.destinationSnapshot
   sourceParentIdentityUtf8:=item.destinationParentIdentityUtf8 }
 | .deleteSource=>{ request with
   mode:=.transferSourceCommit
   source:=item.stagedSource
   expectedSource:=item.currentSourceSnapshot
   sourceParentIdentityUtf8:=item.sourceParentIdentityUtf8
   guardPath:=item.destination
   expectedGuard:=item.destinationSnapshot
   guardParentIdentityUtf8:=item.destinationParentIdentityUtf8 }
 | .cleanupOverwriteDestination=>{ request with
   mode:=.transferOverwriteCleanup
   source:=item.overwriteBackup
   expectedSource:=item.overwriteBackupSnapshot
   sourceParentIdentityUtf8:=item.destinationParentIdentityUtf8 }
 | _=>request

def itemAddress : FrameAddress where
 operationId:=transaction.operationId
 itemIndex:=UInt32.ofNat index
 requestToken:=(itemAt transaction index).requestToken

def streamRequest (mode : FileTransferStreamMode) : FileTransferStreamRequest:=
 let item:=itemAt transaction index
 { toFrameAddress:=itemAddress transaction index
   mode:=mode
   source:=if item.sourceLocation = .staged then item.stagedSource else item.source
   tempDestination:=item.tempDestination
   expectedSource:=item.currentSourceSnapshot
   expectedTemp:=if mode = .resumeExisting then item.destinationSnapshot else {}
   sourceParentIdentityUtf8:=item.sourceParentIdentityUtf8
   destinationParentIdentityUtf8:=item.destinationParentIdentityUtf8 }

def probeRequest : FileTransferStreamRequest:=
 let item:=itemAt transaction index
 { toFrameAddress:=itemAddress transaction index
   mode:=.probeReservation
   source:=item.tempDestination
   sourceParentIdentityUtf8:=item.destinationParentIdentityUtf8 }

def stagedSourceAuditRequest (observed : SourceSnapshot) : FileTransferStreamRequest:=
 let item:=itemAt transaction index
 { toFrameAddress:=itemAddress transaction index
   mode:=.auditExisting
   source:=item.stagedSource
   expectedSource:=observed
   sourceParentIdentityUtf8:=item.sourceParentIdentityUtf8
   destinationAnchorPath:=item.stagedSource.parentPath
   destinationAnchorIdentityUtf8:=item.sourceParentIdentityUtf8 }

end Requests

abbrev TransferStep := TransferProg (FileTransferTransaction × StepResult)

variable (evidence : OperationEvidence)

def journalErrorResult (detail : Bytes) : StepResult:=
 { outcome:=.journalError,status:=.ioError,evidence:=evidence,detailUtf8:=detail }

variable (status : OperationStatus)

def stoppedResult (evidence : OperationEvidence) (detail : String) : StepResult:=
 { outcome:=.stopped,status:=status,evidence:=evidence,detailUtf8:=utf8 detail }

/-- Persist, and go on only if that worked. -/
def persistThen
  (next : TransferStep) : TransferStep := do
 match ← persist transaction with
 | .error detail=>pure (transaction,journalErrorResult evidence detail)
 | .ok ()=>next

def beginStep (step : FileTransferStep) : FileTransferTransaction:=
 { transaction with
   activeStep:=step,activeIndex := UInt32.ofNat index,activeEvidence := .none }

/-- The failure is forgotten and the phase recomputed, except during a cleanup. -/
def advance : FileTransferTransaction:=
 let transaction:=clearActive transaction
 if transaction.phase = .prepublishCleanup then transaction
 else
  { clearFailure transaction with
    phase:=if completedPrefix transaction = transaction.items.length then .completed
     else .processing }

/-- The snapshot a rename step has to confirm. -/
def expectedSnapshot : FileTransferStep → SourceSnapshot
 | .publishTemp=>item.destinationSnapshot
 | .evacuateOverwriteDestination=>item.overwriteDestinationSnapshot
 | .restoreOverwriteDestination=>item.overwriteBackupSnapshot
 | _=>item.currentSourceSnapshot

/-- Versions before 6 have replaced the destination by publishing. -/
def forgetReplaced (version : UInt32) (item : FileTransferItem) : FileTransferItem:=
 if version < 6 ∧ item.overwriteState = .authorized then clearOverwrite item else item

def renamedItem (version : UInt32) (item : FileTransferItem) (confirmed : SourceSnapshot):
  FileTransferStep → Option FileTransferItem
 | .atomicMove=>some (forgetReplaced version { item with
   strategy:=.moveAtomic,sourceLocation := .removed,destinationState := .published
   destinationSnapshot:=confirmed })
 | .stageSource=>some { item with sourceLocation:=.staged,currentSourceSnapshot:=confirmed }
 | .publishTemp=>some (forgetReplaced version { item with
   destinationState:=.published,destinationSnapshot := confirmed })
 | .restoreStagedSource=>some { item with
   sourceLocation:=.original,currentSourceSnapshot := confirmed }
 | .evacuateOverwriteDestination=>some { item with
   overwriteBackupSnapshot:=confirmed,overwriteState := .evacuated }
 | .restoreOverwriteDestination=>some (clearOverwrite item)
 | _=>none

def applyRenameSuccess
  (step : FileTransferStep) (result : OperationResult) : Except Bytes FileTransferTransaction:=
 let item:=itemAt transaction index
 if ¬mutationCommitted result ∨
   ¬snapshotIdentityMatches (expectedSnapshot item step) result.confirmedSnapshot then
  .error (utf8 "transfer rename succeeded without the expected object identity")
 else
  match renamedItem transaction.version item result.confirmedSnapshot step with
  | none=>.error (utf8 "transfer rename step is invalid")
  | some item=>.ok (advance (setItem transaction index item))

def deletedItem : FileTransferStep → Option FileTransferItem
 | .cleanupTemp=>some (clearDestinationProof item)
 | .deleteSource=>some { item with sourceLocation:=.removed }
 | .cleanupOverwriteDestination=>some (clearOverwrite item)
 | _=>none

def applyDeleteSuccess
  (step : FileTransferStep) (result : OperationResult) : Except Bytes FileTransferTransaction:=
 if ¬mutationCommitted result then
  .error (utf8 "transfer delete succeeded without committed evidence")
 else
  match deletedItem (itemAt transaction index) step with
  | none=>.error (utf8 "transfer delete step is invalid")
  | some item=>.ok (advance (setItem transaction index item))

/-- An evacuation that moved another object than the one authorised. -/
def unexpectedEvacuation (step : FileTransferStep) (result : OperationResult)
  (recovered : Bool) : Bool:=
 step = .evacuateOverwriteDestination ∧ result.evidence = .committed ∧ result.destinationPresent ∧
  stableObjectIdentity result.confirmedSnapshot.sourceRevisionUtf8≠[] ∧
  (recovered ∨ ¬result.destinationMatchesSource)

def recordUnexpectedEvacuation
  (result : OperationResult) : FileTransferTransaction:=
 clearActive (setItem transaction index { itemAt transaction index with
  overwriteBackupSnapshot:=result.confirmedSnapshot
  overwriteState:=.evacuatedUnexpected })

def persistCommitted : TransferStep:=
 persistThen transaction .committed do
  if ← stopRequested then
   pure (transaction,stoppedResult .success .committed
    "file transfer stopped after recording a completed step")
  else
   pure (transaction,{ outcome:=.committed,status:=.success,evidence:=.committed })

def recordFailure
  (evidence : OperationEvidence) (detail : Bytes) : FileTransferTransaction:=
 { transaction with
   failureStatus:=status,failureEvidence := evidence,failureDetailUtf8 := detail }

def preserveUncertain
  (evidence : OperationEvidence) (detail : Bytes) : TransferStep:=
 let kept:={ recordFailure transaction status evidence detail with activeEvidence:=evidence }
 persistThen kept evidence (pure (kept,{ outcome:=.recoveryRequired,status:=status
                                         evidence:=evidence,detailUtf8 := detail }))

def preserveCleanupUncertain
  (evidence : OperationEvidence) (detail : Bytes) : TransferStep:=
 let kept:={ transaction with activeEvidence:=evidence }
 persistThen kept evidence (pure (kept,{ outcome:=.recoveryRequired,status:=status
                                         evidence:=evidence,detailUtf8 := detail }))

def enterCleanup
  (evidence : OperationEvidence) (detail : Bytes) : TransferStep:=
 let kept:=recordFailure { clearActive transaction with phase:=.prepublishCleanup }
  status evidence detail
 persistThen kept evidence (pure (kept,{ outcome:=.cleanFailure,status:=status
                                         evidence:=evidence,detailUtf8 := detail }))

/-- Whether the failure counts as the transaction's own depends on the phase. -/
def preserveResult : TransferStep:=
 if transaction.phase = .prepublishCleanup then
  preserveCleanupUncertain transaction result.status result.evidence result.detailUtf8
 else preserveUncertain transaction result.status result.evidence result.detailUtf8

def probeTemp (transaction : FileTransferTransaction) (index : ℕ) : TransferProg ProbeResult := do
 let result ← submitDelete (deleteRequest transaction index .cleanupTemp) .probeTemp
 if mutationCommitted result ∧ ¬result.sourcePresent then pure { status:=.notFound }
 else if result.sourcePresent ∧
   stableObjectIdentity result.confirmedSnapshot.sourceRevisionUtf8≠[] then
  pure { status:=.success,snapshot:=result.confirmedSnapshot }
 else pure { status:=result.status,detailUtf8:=result.detailUtf8 }

def probeStagedSource (transaction : FileTransferTransaction) (index : ℕ):
  TransferProg ProbeResult := do
 let result ← submitDelete (deleteRequest transaction index .deleteSource) .probeStagedSource
 if result.sourcePresent ∧ stableObjectIdentity result.confirmedSnapshot.sourceRevisionUtf8≠[] then
  pure { status:=result.status,snapshot:=result.confirmedSnapshot
         detailUtf8:=result.detailUtf8 }
 else pure { status:=result.status,detailUtf8:=result.detailUtf8 }

def reservationMarkerMagic : Bytes := utf8 "VOVE-RSV"
def reservationMarkerVersion : UInt32 := 1

def reservationMarker (address : FrameAddress) : Bytes:=
 reservationMarkerMagic++(appendInteger reservationMarkerVersion ++
  (appendInteger address.operationId++(appendInteger address.itemIndex ++
  address.requestToken.bytes)))

section Probes
variable (sha256 : Bytes → ContentDigest)

/-- The marker belongs to this item if its digest is the one expected. -/
def markerOwned (request : FileTransferStreamRequest) (result : FileTransferStreamResult) : Bool:=
 result.bytesWritten.toNat = (reservationMarker request.toFrameAddress).length ∧
  result.contentSha256 = sha256 (reservationMarker request.toFrameAddress)

def probeReservation (transaction : FileTransferTransaction) (index : ℕ):
  TransferProg ReservationMarkerProbe := do
 let request:=probeRequest transaction index
 match ← submitStream request with
 | .rejected=>
  pure ⟨{ status:=.ioError
          detailUtf8:=utf8 "file-transfer service rejected the reservation probe" },false⟩
 | .finished result=>pure ⟨{ status:=result.status,detailUtf8:=result.detailUtf8 },false⟩
 | .reserved reservation=>
  let marked:=decide (reservation.tempSnapshot.sizeBytes = kFileTransferReservationMarkerBytes)
  let result ← acknowledgeReservation request reservation marked
  if ¬marked then pure ⟨{ status:=.success,snapshot:=reservation.tempSnapshot },false⟩
  else if ¬result.ok then
   pure ⟨{ status:=result.status,snapshot:=reservation.tempSnapshot
           detailUtf8:=result.detailUtf8 },false⟩
  else
   pure ⟨{ status:=.success,snapshot:=reservation.tempSnapshot },
    markerOwned sha256 request result⟩

end Probes

def occupiedKeys : List Bytes:=
 (transaction.items.zipIdx.flatMap fun (item,other) =>
  (if other≠index then [transferPathKey item.destination] else []) ++
   [transferPathKey item.source])

def copiedItem (candidate : Path) : FileTransferItem:=
 clearOverwrite { itemAt transaction index with
  destination:=candidate
  tempDestination:=fileTransferTempDestinationPath candidate transaction.operationId index
  overwriteBackup:=fileTransferOverwriteBackupPath candidate transaction.operationId index }

/-- Names from the given ordinal on; `none` where none is free or a stop was asked for. -/
def assignCopyFrom (transaction : FileTransferTransaction) (index : ℕ):
  ℕ → ℕ → TransferProg (Option FileTransferTransaction)
 | 0, _=>pure none
 | remaining+1, ordinal=>do
  if ← stopRequested then pure none
  else
   let candidate:=copyDestinationPath (itemAt transaction index).destination ordinal
   if transferPathKey candidate ∈ occupiedKeys transaction index then
    assignCopyFrom transaction index remaining (ordinal+1)
   else
    let observed ← submitRename (copyNameRequest transaction index candidate) .tryCopyName
    if observed.status = .conflict then
     assignCopyFrom transaction index remaining (ordinal+1)
    else pure (some (setItem transaction index (copiedItem transaction index candidate)))

def assignCopyDestination : TransferProg (Option FileTransferTransaction):=
 assignCopyFrom transaction index kMaximumFileTransferItems 1

/-- A destination somebody else owns, and that is no source of this transfer. -/
def conflictObserved (observed : OperationResult) : Bool:=
 observed.status = .conflict ∧ confirmedNoCommit observed ∧
  stableObjectIdentity observed.confirmedSnapshot.sourceRevisionUtf8≠[] ∧
  ¬transaction.items.any fun other =>
   sameObjectIdentity observed.confirmedSnapshot.sourceRevisionUtf8
    other.originalSourceSnapshot.sourceRevisionUtf8

variable (item : FileTransferItem)

def overwrittenItem (destination : SourceSnapshot) : FileTransferItem:=
 { item with overwriteDestinationSnapshot:=destination,overwriteState:=.authorized }

def overwriteUndecided : Bool := item.overwriteDestinationSnapshot.sourceRevisionUtf8 = []

def conflictItem : FileTransferConflictItem:=
 { source:=item.source,destination:=item.destination }

/-- The conflicts of the items from `index` on; `none` where a stop was asked for. -/
def observeConflicts (transaction : FileTransferTransaction):
  List ℕ → TransferProg (Option (List (ℕ × SourceSnapshot)))
 | []=>pure (some [])
 | index::rest=>
  if overwriteUndecided (itemAt transaction index) then do
   if ← stopRequested then pure none
   else
    let observed ← submitRename (renameRequest transaction index .atomicMove) .observeConflict
    let found:=if conflictObserved transaction observed then
     [(index,observed.confirmedSnapshot)] else []
    match ← observeConflicts transaction rest with
    | none=>pure none
    | some others=>pure (some (found++others))
  else observeConflicts transaction rest

def assignCopies (transaction : FileTransferTransaction):
  List ℕ → TransferProg (FileTransferTransaction × Bool)
 | []=>pure (transaction,true)
 | index::rest=>do
  match ← assignCopyDestination transaction index with
  | none=>pure (transaction,false)
  | some assigned=>assignCopies assigned rest

def cancelled (transaction : FileTransferTransaction) : FileTransferTransaction:=
 { transaction with cancelled:=true }

def upgraded : FileTransferTransaction:=
 { transaction with version:=kFileTransferTransactionVersion }

def cancelByUser : TransferStep:=
 enterCleanup (cancelled transaction) .conflict .noCommit (utf8 "file transfer cancelled by user")

def noCopyName : TransferStep:=
 enterCleanup transaction .conflict .noCommit
  (utf8 "a unique copy destination could not be selected")

/-- Whether the user may be asked; there may be nobody to ask. -/
def requestOverwrite (canAsk : Bool) (transaction : FileTransferTransaction) (index : ℕ)
  (probeStep : FileTransferStep):
  TransferProg (FileTransferTransaction × Option StepResult) := do
 if ← stopRequested then
  pure (transaction,some (stoppedResult .success .none
   "file transfer stopped before conflict check"))
 else if ¬canAsk ∨ ¬overwriteUndecided (itemAt transaction index) then pure (transaction,none)
 else
  let observed ← submitRename (renameRequest transaction index probeStep) .observeConflict
  if ¬conflictObserved transaction observed then pure (transaction,none)
  else
   let (transaction,result) ← overwriteDecision transaction index observed.confirmedSnapshot
   pure (transaction,some result)
where
 /-- A pending question is no authorisation, so the journal holds none. -/
 overwriteDecision (transaction : FileTransferTransaction) (index : ℕ)
   (destination : SourceSnapshot) : TransferStep:=
  let waiting:=clearFailure (clearActive transaction)
  let upgradedWaiting:=upgraded waiting
  persistThen waiting .noCommit do
   match ← awaitConflictDecision [conflictItem (itemAt waiting index)] with
   | none=>pure (waiting,stoppedResult .success .noCommit
     "file transfer stopped while awaiting conflict decision")
   | some .cancel=>cancelByUser upgradedWaiting
   | some .createCopy=>
    match ← assignCopyDestination upgradedWaiting index with
    | none=>noCopyName upgradedWaiting
    | some assigned=>persistCommitted assigned
   | some .overwrite=>
    persistCommitted (setItem upgradedWaiting index
     (overwrittenItem (itemAt upgradedWaiting index) destination))

section Steps
variable (sha256 : Bytes → ContentDigest) (canAsk : Bool)

def unexpectedDetail : Bytes:=
 utf8 "overwrite destination changed during evacuation; the unexpected object will be restored"

variable (transaction : FileTransferTransaction) (index : ℕ) (step : FileTransferStep)

/-- A rename that is known to have happened. -/
def settleRename
  (result : OperationResult) : TransferStep:=
 match applyRenameSuccess transaction index step result with
 | .error detail=>preserveUncertain transaction .unknownOutcome .committed detail
 | .ok applied=>persistCommitted applied

def streamInstead : TransferStep:=
 let streamed:=clearFailure (clearActive (setItem transaction index
  { itemAt transaction index with
    strategy:=.moveStream,moveStreamReason := .crossDeviceNoCommit }))
 persistThen streamed .noCommit (pure (streamed,
  { outcome:=.committed,status:=.crossDevice,evidence:=.noCommit }))

/-- A rename that was refused may turn into a question about the destination. -/
def settleRefusedRename (result : OperationResult) : TransferStep:=
 if (step = .atomicMove ∨ step = .publishTemp) ∧ result.status = .conflict then do
  match ← requestOverwrite canAsk transaction index step with
  | (asked,some decided)=>pure (asked,decided)
  | (asked,none)=>enterCleanup asked result.status result.evidence result.detailUtf8
 else enterCleanup transaction result.status result.evidence result.detailUtf8

def settleRenameAttempt (result : OperationResult) : TransferStep:=
 if unexpectedEvacuation step result false then
  enterCleanup (recordUnexpectedEvacuation transaction index result) .sourceChanged .committed
   unexpectedDetail
 else if mutationCommitted result then settleRename transaction index step result
 else if step = .atomicMove ∧ result.status = .crossDevice ∧ confirmedNoCommit result then
  streamInstead transaction index
 else if transaction.phase = .prepublishCleanup then
  preserveCleanupUncertain transaction result.status result.evidence result.detailUtf8
 else if confirmedNoCommit result then settleRefusedRename canAsk transaction index step result
 else preserveUncertain transaction result.status result.evidence result.detailUtf8

def executeRenameStep : TransferStep:=
 let begun:=beginStep transaction index step
 persistThen begun .none do
  if ← stopRequested then
   pure (begun,stoppedResult .success .none "file transfer stopped before rename")
  else
   let result ← submitRename (renameRequest begun index step) .execute
   settleRenameAttempt canAsk begun index step result

def recoverRenameStep : TransferStep := do
 let result ← submitRename (renameRequest transaction index step) .recover
 if unexpectedEvacuation step result (step = .evacuateOverwriteDestination) then
  enterCleanup (recordUnexpectedEvacuation transaction index result) .sourceChanged .committed
   unexpectedDetail
 else if mutationCommitted result then settleRename transaction index step result
 else if ¬confirmedNoCommit result then preserveResult transaction result
 else
  let cleared:=clearActive transaction
  let cleared:=if cleared.phase = .prepublishCleanup then cleared else clearFailure cleared
  persistThen cleared .noCommit (executeRenameStep canAsk cleared index step)

def settleDelete
  (result : OperationResult) : TransferStep:=
 match applyDeleteSuccess transaction index step result with
 | .error detail=>preserveUncertain transaction .unknownOutcome .committed detail
 | .ok applied=>persistCommitted applied

variable (item : FileTransferItem) (snapshot : SourceSnapshot)

def verifiedSource : FileTransferItem:=
 { item with originalSourceSnapshot:=snapshot,currentSourceSnapshot:=snapshot }

variable (expected : SourceSnapshot)

/-- What an audit has to find for the staged source to count as verified. -/
def auditMatches
  (result : FileTransferStreamResult) : Bool:=
 snapshotExactMatches expected result.sourceSnapshot ∧
  snapshotExactMatches result.sourceSnapshot result.tempSnapshot ∧
  result.bytesWritten = item.contentBytes ∧ result.contentSha256 = item.contentSha256

/-- The commit of an audit: the snapshots found become the recorded ones. -/
def commitSourceAudit (result : FileTransferStreamResult):
  TransferProg (FileTransferTransaction × FileTransferAuditCommitOutcome):=
 if ¬auditMatches (itemAt transaction index) expected result then
  pure (transaction,.rejectedNoCommit)
 else do
  let candidate:=setItem transaction index
   (verifiedSource (itemAt transaction index) result.sourceSnapshot)
  match ← persist candidate with
  | .error _=>pure (transaction,.recoveryRequired)
  | .ok ()=>pure (candidate,.accepted)

def sourceChangedDetail : Bytes := utf8 "staged source changed after destination publication"
def sourceContentChangedDetail : Bytes:=
 utf8 "staged source content changed after destination publication"

abbrev TransferCheck := TransferProg (FileTransferTransaction × Option StepResult)

def ended (step : TransferStep) : TransferCheck := do
 let (transaction,result) ← step
 pure (transaction,some result)

def settleSourceAudit
  (result : FileTransferStreamResult) : TransferCheck:=
 if ¬result.ok then
  ended (preserveUncertain transaction result.status .none
   (if result.detailUtf8 = [] then sourceContentChangedDetail else result.detailUtf8))
 else do
  if ← stopRequested then
   pure (transaction,some (stoppedResult .success .none
    "file transfer stopped after source verification"))
  else pure (transaction,none)

def auditStagedSource
  (observed : SourceSnapshot) : TransferCheck := do
 let request:=stagedSourceAuditRequest transaction index observed
 match ← submitAudit request with
 | .rejected=>
  ended (preserveUncertain transaction .ioError .none
   (utf8 "file-transfer service rejected source verification"))
 | .finished result=>settleSourceAudit transaction result
 | .audited result=>
  let (verified,outcome) ← commitSourceAudit transaction index observed result
  let result ← acknowledgeAudit request outcome
  settleSourceAudit verified result

def refreshStagedSourceForDelete (transaction : FileTransferTransaction) (index : ℕ):
  TransferCheck:=do
 if ← stopRequested then
  pure (transaction,some (stoppedResult .unknownOutcome .none
   "file transfer stopped before source verification"))
 else
  let item:=itemAt transaction index
  let observed ← probeStagedSource transaction index
  if snapshotExactMatches item.currentSourceSnapshot observed.snapshot then
   pure (transaction,none)
  else if item.currentSourceSnapshot.sizeBytes≠observed.snapshot.sizeBytes ∨
    ¬sameObjectIdentity item.currentSourceSnapshot.sourceRevisionUtf8
     observed.snapshot.sourceRevisionUtf8 ∨
    ¬item.contentProofPresent ∨ item.contentBytes≠observed.snapshot.sizeBytes then
   ended (preserveUncertain transaction
    (if observed.status = .success then .sourceChanged else observed.status) .none
    (if observed.detailUtf8 = [] then sourceChangedDetail else observed.detailUtf8))
  else auditStagedSource transaction index observed.snapshot

def submitDeleteStep : TransferStep:=
 let begun:=beginStep transaction index step
 persistThen begun .none do
  let result ← submitDelete (deleteRequest begun index step) .execute
  if mutationCommitted result then settleDelete begun index step result
  else preserveResult begun result

def executeDeleteStep : TransferStep:=
 if step = .deleteSource then do
  match ← refreshStagedSourceForDelete transaction index with
  | (refreshed,some result)=>pure (refreshed,result)
  | (refreshed,none)=>
   if ← stopRequested then
    pure (refreshed,stoppedResult .success .none
     "file transfer stopped before source deletion")
   else submitDeleteStep refreshed index step
 else submitDeleteStep transaction index step

def recoverDeleteStep : TransferStep := do
 let result ← submitDelete (deleteRequest transaction index step) .recover
 if mutationCommitted result then settleDelete transaction index step result
 else if ¬confirmedNoCommit result then preserveResult transaction result
 else
  let cleared:=clearActive transaction
  persistThen cleared .noCommit
   (if step = .cleanupTemp ∨ step = .cleanupOverwriteDestination then
    pure (cleared,{ outcome:=.committed,status:=.success,evidence:=.noCommit })
   else executeDeleteStep cleared index step)

def streamMode : FileTransferStreamMode:=
 if item.destinationState = .tempReserved then .resumeExisting else .reserveNew

/-- The journal entry before streaming; a new temporary object gets a new token. -/
def beginStream : TransferProg FileTransferTransaction:=
 if streamMode (itemAt transaction index) = .reserveNew then do
  let random ← randomDevice
  pure (beginStep (setItem transaction index { itemAt transaction index with
   requestToken:=newRequestToken transaction index random }) index .reserveTemp)
 else pure (beginStep transaction index .streamTemp)

def reservedItem (reservation : FileTransferReservation) : FileTransferItem:=
 { item with
   destinationSnapshot:=reservation.tempSnapshot
   destinationParentRevisionUtf8:=reservation.destinationParentRevisionUtf8
   destinationState:=.tempReserved }

/-- The commit of a reservation; a resumed one is in the journal already. -/
def commitReservation (transaction : FileTransferTransaction) (index : ℕ)
  (mode : FileTransferStreamMode) (reservation : FileTransferReservation):
  TransferProg (FileTransferTransaction × Bool):=
 let item:=itemAt transaction index
 if item.requestToken≠reservation.requestToken then pure (transaction,false)
 else if mode = .resumeExisting then
  pure (transaction,transaction.activeStep = .streamTemp ∧ item.destinationState = .tempReserved ∧
   sameSourceRevision item.destinationSnapshot.sourceRevisionUtf8
    reservation.tempSnapshot.sourceRevisionUtf8)
 else if transaction.activeStep≠.reserveTemp ∨ item.destinationState≠.absent then
  pure (transaction,false)
 else do
  let candidate:={ setItem transaction index (reservedItem item reservation) with
   activeStep:=.streamTemp,activeEvidence := .none }
  match ← persist candidate with
  | .error _=>pure (transaction,false)
  | .ok ()=>pure (candidate,true)

variable (result : FileTransferStreamResult)

def streamMatches : Bool:=
 result.ok ∧ result.evidence = .committed ∧
  snapshotIdentityMatches item.currentSourceSnapshot result.sourceSnapshot ∧
  snapshotIdentityMatches item.destinationSnapshot result.tempSnapshot ∧
  result.bytesWritten = item.originalSourceSnapshot.sizeBytes

def streamedItem : FileTransferItem:=
 { item with
   destinationSnapshot:=result.tempSnapshot
   contentSha256:=result.contentSha256
   contentBytes:=result.bytesWritten
   contentProofPresent:=true
   destinationState:=.contentReady }

def detailOr (detail : Bytes) (otherwise : String) : Bytes:=
 if detail = [] then utf8 otherwise else detail

def settleStream (transaction : FileTransferTransaction) (index : ℕ)
  (result : FileTransferStreamResult) : TransferStep:=
 let item:=itemAt transaction index
 if streamMatches item result then
  persistCommitted (clearFailure (clearActive
   (setItem transaction index (streamedItem item result))))
 else do
  if ← stopRequested then
   preserveUncertain transaction result.status result.evidence
    (detailOr result.detailUtf8 "file transfer stopped during streaming")
  else if result.evidence = .noCommit ∨ item.destinationState≠.absent then
   enterCleanup transaction result.status result.evidence
    (detailOr result.detailUtf8 "file streaming did not complete")
  else preserveUncertain transaction result.status result.evidence result.detailUtf8

def executeStreamStep (transaction : FileTransferTransaction) (index : ℕ) : TransferStep := do
 let mode:=streamMode (itemAt transaction index)
 let begun ← beginStream transaction index
 persistThen begun .none do
  let request:=streamRequest begun index mode
  match ← submitStream request with
  | .rejected=>
   preserveUncertain begun .ioError .none
    (utf8 "file-transfer service rejected the stream step")
  | .finished result=>settleStream begun index result
  | .reserved reservation=>
   let (committed,accepted) ← commitReservation begun index mode reservation
   let result ← acknowledgeReservation request reservation accepted
   settleStream committed index result

def foundReservation : FileTransferTransaction:=
 setItem transaction index { itemAt transaction index with
  destinationSnapshot:=snapshot,destinationState := .tempReserved }

/-- Where nothing but another object can be seen, the source counts as changed. -/
def probeStatus (probe : ProbeResult) : OperationStatus:=
 if probe.status = .success then .sourceChanged else probe.status

def probeDetail (probe : ProbeResult) (otherwise : String) : Bytes:=
 if probe.status = .success then utf8 otherwise else probe.detailUtf8

def recoverReservation : TransferStep := do
 let reservation ← probeReservation sha256 transaction index
 if reservation.file.status = .notFound then
  let cleared:=clearFailure (clearActive (setItem transaction index
   { itemAt transaction index with requestToken:=.zero _ }))
  persistThen cleared .none (executeStreamStep cleared index)
 else if reservation.file.status = .success ∧ reservation.owned then
  enterCleanup (foundReservation transaction index reservation.file.snapshot) .ioError .none
   (utf8 "an unacknowledged transfer reservation was recovered")
 else
  preserveUncertain transaction (probeStatus reservation.file) .none
   (probeDetail reservation.file
    "an unowned temporary object occupies the reserved transfer path")

def seenTemp : FileTransferTransaction:=
 clearFailure { setItem transaction index { itemAt transaction index with
  destinationSnapshot:=snapshot } with activeEvidence := .none }

def tempRecognized (observed : ProbeResult) : Bool:=
 observed.status = .success ∧ sameObjectIdentity observed.snapshot.sourceRevisionUtf8
   item.destinationSnapshot.sourceRevisionUtf8

def recoverStream : TransferStep := do
 let observed ← probeTemp transaction index
 if observed.status = .notFound then
  let cleared:=clearFailure (clearActive (setItem transaction index
   (clearDestinationProof (itemAt transaction index))))
  persistThen cleared .none (executeStreamStep cleared index)
 else if ¬tempRecognized (itemAt transaction index) observed then
  preserveUncertain transaction (probeStatus observed) .none
   (probeDetail observed "the reserved temporary object changed physical identity")
 else
  let seen:=seenTemp transaction index observed.snapshot
  persistThen seen .none (executeStreamStep seen index)

def recoverStreamStep : TransferStep:=
 if transaction.activeStep = .reserveTemp then recoverReservation sha256 transaction index
 else recoverStream transaction index

def recoverActiveStep : TransferStep:=
 let index:=transaction.activeIndex.toNat
 match transaction.activeStep with
 | .atomicMove | .stageSource | .publishTemp | .restoreStagedSource
 | .evacuateOverwriteDestination | .restoreOverwriteDestination=>
  recoverRenameStep canAsk transaction index transaction.activeStep
 | .reserveTemp | .streamTemp=>recoverStreamStep sha256 transaction index
 | .deleteSource | .cleanupTemp | .cleanupOverwriteDestination=>
  recoverDeleteStep transaction index transaction.activeStep
 | .none=>pure (transaction,{ outcome:=.recoveryRequired,status:=.invalidRequest
                              detailUtf8:=utf8 "file-transfer recovery has no active step" })

/-- The old destination is moved away once the new content is at hand. -/
def readyForEvacuation : Bool:=
 item.overwriteState = .authorized ∧ ((transaction.kind = .move ∧ item.strategy = .moveUndecided) ∨
   item.destinationState = .contentReady)

def sourceFinal (kind : FileTransferKind) (item : FileTransferItem) : Bool:=
 (kind = .copy ∧ item.sourceLocation = .original) ∨ (kind = .move ∧ item.sourceLocation = .removed)

def nextItemStep (transaction : FileTransferTransaction) (index : ℕ) : TransferStep:=
 let item:=itemAt transaction index
 if item.overwriteState = .evacuatedUnexpected then
  enterCleanup transaction .sourceChanged .committed
   (utf8 "an unexpected overwrite destination is awaiting restoration")
 else if readyForEvacuation transaction item then
  executeRenameStep canAsk (upgraded transaction) index .evacuateOverwriteDestination
 else if transaction.kind = .move ∧ item.strategy = .moveUndecided then
  executeRenameStep canAsk transaction index .atomicMove
 else if transaction.kind = .move ∧ item.strategy = .moveStream ∧
   item.sourceLocation = .original then
  executeRenameStep canAsk transaction index .stageSource
 else if item.destinationState = .absent ∨ item.destinationState = .tempReserved then
  executeStreamStep transaction index
 else if item.destinationState = .contentReady then
  executeRenameStep canAsk transaction index .publishTemp
 else if transaction.kind = .move ∧ item.destinationState = .published ∧
   item.sourceLocation = .staged then
  executeDeleteStep transaction index .deleteSource
 else if item.destinationState = .published ∧ sourceFinal transaction.kind item ∧
   item.overwriteState = .evacuated then
  executeDeleteStep transaction index .cleanupOverwriteDestination
 else
  preserveUncertain transaction .unknownOutcome .none
   (utf8 "file-transfer item has no deterministic next step")

def nextProcessingStep : TransferStep:=
 let index:=completedPrefix transaction
 if index ≥ transaction.items.length then
  persistCommitted (clearFailure (clearActive { transaction with phase:=.completed }))
 else nextItemStep canAsk transaction index

end Steps

section Runs
variable (sha256 : Bytes → ContentDigest) (canAsk : Bool)

/-- How one turn of a run loop ends. -/
inductive Turn where
 | again
 | cleanup
 | finished (result : FileTransferResult)

def runStatusOf : StepOutcome → FileTransferRunStatus
 | .journalError=>.journalError
 | .stopped=>.stopped
 | _=>.recoveryRequired

variable (transaction : FileTransferTransaction)

def stepEnds (step : StepResult) : Turn:=
 .finished (resultFor transaction (runStatusOf step.outcome) step.status step.evidence
  step.detailUtf8)

/-- The failure a cleanup was entered for is what it reports at its end. -/
structure Failure where
 status : OperationStatus
 evidence : OperationEvidence
 detailUtf8 : Bytes

def failureOf : Failure where
 status:=transaction.failureStatus
 evidence:=transaction.failureEvidence
 detailUtf8:=transaction.failureDetailUtf8

abbrev TransferTurn := TransferProg (FileTransferTransaction × Turn)

variable (failure : Failure)

def cleanupPersist (transaction : FileTransferTransaction)
  (next : TransferTurn) : TransferTurn := do
 match ← persist transaction with
 | .error detail=>pure (transaction,.finished
   (resultFor transaction .journalError .ioError failure.evidence detail))
 | .ok ()=>next

def afterCleanupStep (step : TransferStep) : TransferTurn := do
 let (transaction,result) ← step
 pure (transaction,if result.outcome = .committed then .again else stepEnds transaction result)

def retire (transaction : FileTransferTransaction) : TransferTurn := do
 match ← removeJournal with
 | .error detail=>pure (transaction,.finished
   (resultFor transaction .journalError .ioError failure.evidence detail))
 | .ok ()=>pure (transaction,.finished
   (resultFor transaction (if transaction.cancelled then .cancelled else .partialFailure)
    failure.status failure.evidence failure.detailUtf8))

variable (index : ℕ)

def recordedTemp (snapshot : SourceSnapshot) : FileTransferTransaction:=
 setItem transaction index { itemAt transaction index with
  destinationSnapshot:=snapshot
  contentSha256:=.zero _
  contentBytes:=0
  contentProofPresent:=false
  destinationState:=.tempReserved }

def cleanupTemp (failure : Failure) (index : ℕ) (transaction : FileTransferTransaction):
  TransferTurn:=do
 let observed ← probeTemp transaction index
 if observed.status = .notFound then
  let cleared:=setItem transaction index (clearDestinationProof (itemAt transaction index))
  cleanupPersist failure cleared (pure (cleared,.again))
 else if ¬tempRecognized (itemAt transaction index) observed then
  pure (transaction,.finished (resultFor transaction .recoveryRequired (probeStatus observed)
   .none (probeDetail observed
    "the owned transfer temporary object changed physical identity")))
 else
  let recorded:=recordedTemp transaction index observed.snapshot
  cleanupPersist failure recorded do
   if ← stopRequested then
    pure (recorded,.finished (resultFor recorded .stopped failure.status failure.evidence
     (utf8 "file transfer stopped after recording the current temporary file")))
   else afterCleanupStep (executeDeleteStep recorded index .cleanupTemp)

/-- What is left once there is no temporary object: the source, the destination. -/
def cleanupRest (transaction : FileTransferTransaction) : TransferTurn:=
 let item:=itemAt transaction index
 if item.destinationState = .tempReserved ∨ item.destinationState = .contentReady then
  cleanupTemp failure index transaction
 else if transaction.kind = .move ∧ item.sourceLocation = .staged then
  afterCleanupStep (executeRenameStep canAsk transaction index .restoreStagedSource)
 else if item.overwriteState = .evacuated ∨ item.overwriteState = .evacuatedUnexpected then
  afterCleanupStep (executeRenameStep canAsk transaction index .restoreOverwriteDestination)
 else retire failure transaction

/-- A token without a temporary object may stand for one that was never acknowledged. -/
def cleanupIdle (transaction : FileTransferTransaction) : TransferTurn:=
 let item:=itemAt transaction index
 if item.destinationState = .absent ∧ ¬tokenEmpty item.requestToken then do
  let reservation ← probeReservation sha256 transaction index
  if reservation.file.status = .success ∧ reservation.owned then
   let found:=foundReservation transaction index reservation.file.snapshot
   cleanupPersist failure found (pure (found,.again))
  else if reservation.file.status≠.notFound then
   pure (transaction,.finished (resultFor transaction .recoveryRequired
    (probeStatus reservation.file) .none (probeDetail reservation.file
     "an unowned object occupies the unacknowledged transfer path")))
  else cleanupRest canAsk failure index transaction
 else cleanupRest canAsk failure index transaction

def cleanupTurn (transaction : FileTransferTransaction) : TransferTurn := do
 if ← stopRequested then
  pure (transaction,.finished (resultFor transaction .stopped failure.status failure.evidence
   (utf8 "file transfer stopped before cleanup completed")))
 else if transaction.activeStep≠.none then
  afterCleanupStep (recoverActiveStep sha256 canAsk transaction)
 else cleanupIdle sha256 canAsk failure index transaction

/-- The cleanup loop; a run that takes more turns than it is given has no result. -/
def cleanupLoop (failure : Failure) (index : ℕ):
  ℕ → FileTransferTransaction → TransferProg (Option FileTransferResult)
 | 0, _=>pure none
 | turns+1, transaction=>do
  match ← cleanupTurn sha256 canAsk failure index transaction with
  | (_,.finished result)=>pure (some result)
  | (next,_)=>cleanupLoop failure index turns next

variable (turns : ℕ)

def continueCleanup (transaction : FileTransferTransaction):
  TransferProg (Option FileTransferResult):=
 let index:=completedPrefix transaction
 if index ≥ transaction.items.length then
  pure (some (resultFor transaction .recoveryRequired .unknownOutcome .none
   (utf8 "file-transfer cleanup has no unfinished item")))
 else cleanupLoop sha256 canAsk (failureOf transaction) index turns transaction

def completeRun : TransferTurn := do
 match ← removeJournal with
 | .error detail=>pure (transaction,.finished
   (resultFor transaction .journalError .ioError .committed detail))
 | .ok ()=>pure (transaction,.finished
   (resultFor transaction .success .success .committed []))

def processingTurn : TransferTurn:=
 if transaction.phase = .completed then completeRun transaction
 else do
  if ← stopRequested then
   pure (transaction,.finished (resultFor transaction .stopped .success .none
    (utf8 "file transfer stopped at a durable boundary")))
  else
   let (next,step) ← if transaction.activeStep = .none
    then nextProcessingStep canAsk transaction
    else recoverActiveStep sha256 canAsk transaction
   pure (next,match step.outcome with
    | .committed=>.again
    | .cleanFailure=>.cleanup
    | _=>stepEnds next step)

/-- The processing loop; what remains of the turns is left to a cleanup. -/
def processingLoop : ℕ → FileTransferTransaction → TransferProg (Option FileTransferResult)
 | 0, _=>pure none
 | turns+1, transaction=>do
  match ← processingTurn sha256 canAsk transaction with
  | (_,.finished result)=>pure (some result)
  | (next,.cleanup)=>continueCleanup sha256 canAsk turns next
  | (next,.again)=>processingLoop turns next

def continueActive (transaction : FileTransferTransaction):
  TransferProg (Option FileTransferResult):=
 if transaction.phase = .prepublishCleanup then continueCleanup sha256 canAsk turns transaction
 else processingLoop sha256 canAsk turns transaction

def continueTransaction (transaction : FileTransferTransaction):
  TransferProg (Option FileTransferResult):=
 if transaction.phase = .prepared then do
  let started:=clearFailure { transaction with phase:=.processing }
  match ← persist started with
  | .error detail=>pure (some (resultFor started .journalError .ioError .none detail))
  | .ok ()=>continueActive sha256 canAsk turns started
 else continueActive sha256 canAsk turns transaction

/-- The cleanup that follows a decision not to transfer. -/
def cleanupAfter (step : TransferStep) : TransferProg (Option FileTransferResult) := do
 let (transaction,result) ← step
 if result.outcome = .journalError then
  pure (some (resultFor transaction .journalError result.status result.evidence
   result.detailUtf8))
 else continueCleanup sha256 canAsk turns transaction

def authorizeAll (conflicts : List (ℕ × SourceSnapshot)) : FileTransferTransaction:=
 conflicts.foldl (fun transaction conflict =>
  setItem transaction conflict.1 (overwrittenItem (itemAt transaction conflict.1) conflict.2))
  (upgraded transaction)

def persistDecision (transaction : FileTransferTransaction):
  TransferProg (Option FileTransferResult) := do
 match ← persist transaction with
 | .error detail=>pure (some (resultFor transaction .journalError .ioError .noCommit detail))
 | .ok ()=>continueTransaction sha256 canAsk turns transaction

/-- The journal contains no authorisation while the user is deciding. -/
def decideInitialConflicts (transaction : FileTransferTransaction)
  (conflicts : List (ℕ × SourceSnapshot)) : TransferProg (Option FileTransferResult) := do
 let waiting:=clearFailure (clearActive transaction)
 match ← persist waiting with
 | .error detail=>pure (some (resultFor waiting .journalError .ioError .noCommit detail))
 | .ok ()=>
  match ← awaitConflictDecision (conflicts.map fun conflict =>
    conflictItem (itemAt waiting conflict.1)) with
  | none=>pure (some (resultFor waiting .stopped .success .noCommit
    (utf8 "file transfer stopped while awaiting conflict decision")))
  | some .cancel=>cleanupAfter sha256 canAsk turns (cancelByUser waiting)
  | some .overwrite=>persistDecision sha256 canAsk turns (authorizeAll waiting conflicts)
  | some .createCopy=>
   let (assigned,complete) ← assignCopies waiting (conflicts.map Prod.fst)
   if complete then persistDecision sha256 canAsk turns assigned
   else cleanupAfter sha256 canAsk turns (noCopyName assigned)

/-- `request_initial_conflicts`, then the transaction itself. -/
def continueFrom (transaction : FileTransferTransaction):
  TransferProg (Option FileTransferResult):=
 if canAsk ∧ transaction.phase = .prepared then do
  match ← observeConflicts transaction (List.range transaction.items.length) with
  | none=>pure (some (resultFor transaction .stopped .success .noCommit
    (utf8 "file transfer stopped before conflict check")))
  | some []=>continueTransaction sha256 canAsk turns transaction
  | some (first::rest)=>
   decideInitialConflicts sha256 canAsk turns transaction (first::rest)
 else continueTransaction sha256 canAsk turns transaction

/-- The overwrites a user has approved beforehand. -/
def authorizeApproved
  (sources : List FileTransferSource) : FileTransferTransaction:=
 { transaction with
   items:=List.zipWith (fun (item : FileTransferItem) (source : FileTransferSource) =>
    if source.authorizedOverwriteDestination.sourceRevisionUtf8 = [] then item
    else overwrittenItem item source.authorizedOverwriteDestination) transaction.items sources }

def runPrepared (prepared : FileTransferTransaction)
  (sources : List FileTransferSource) : TransferProg (Option FileTransferResult) := do
 let transaction:=authorizeApproved prepared sources
 match ← persist transaction with
 | .error detail=>pure (some (resultFor transaction .journalError .ioError .noCommit detail))
 | .ok ()=>continueFrom sha256 canAsk turns transaction

def journalProblem (detail : Bytes) : FileTransferResult:=
 { status:=.journalError,operationStatus:=.ioError,detailUtf8:=detail }

def resumeFrom (loaded : CurrentOperationJournalReadResult):
  TransferProg (Option FileTransferResult):=
 if ¬loaded.ok ∨ loaded.encoding≠.typed ∨ loaded.kind≠.fileTransfer then
  pure (some (journalProblem (if loaded.status = .notFound
   then utf8 "there is no file transfer to recover"
   else utf8 "current operation journal is not the expected file transfer")))
 else
  match decodeFileTransferTransaction loaded.payload [] with
  | .error detail=>pure (some (journalProblem detail))
  | .ok transaction=>continueFrom sha256 canAsk turns transaction

def runResume : TransferProg (Option FileTransferResult) := do
 let loaded ← readJournal
 resumeFrom sha256 canAsk turns loaded

end Runs

end VoVe.FileTransferCoordinator
