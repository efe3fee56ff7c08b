import VoVe.DestinationFilename
import VoVe.FileOperation
import VoVe.CurrentOperationJournal

set_option autoImplicit false

/-! The file-transfer transaction of `file_transfer_transaction.cpp`: its
  preparation and its validity. -/

namespace VoVe.TransferTransaction
open ByteCodec AsciiText PosixPath Checks DestinationFilename FileOperation

def kFileTransferTransactionVersion : UInt32 := 6
def kMaximumFileTransferItems : ℕ := 10000
def kFileTransferDigestBytes : ℕ := 32
def kFileTransferRequestTokenBytes : ℕ := 16

inductive FileTransferKind where
 | copy
 | move
 deriving DecidableEq

instance : WireEnum FileTransferKind where
 values:=[.copy,.move]
 complete a := by cases a<;>decide
 small:=by decide

inductive FileTransferPhase where
 | prepared
 | processing
 | prepublishCleanup
 | completed
 deriving DecidableEq

instance : WireEnum FileTransferPhase where
 values:=[.prepared,.processing,.prepublishCleanup,.completed]
 complete a := by cases a<;>decide
 small:=by decide

inductive FileTransferStrategy where
 | copyStream
 | moveUndecided
 | moveStream
 | moveAtomic
 deriving DecidableEq

instance : WireEnum FileTransferStrategy where
 values:=[.copyStream,.moveUndecided,.moveStream,.moveAtomic]
 complete a := by cases a<;>decide
 small:=by decide

inductive MoveStreamReason where
 | none
 | crossDeviceNoCommit
 deriving DecidableEq

instance : WireEnum MoveStreamReason where
 values:=[.none,.crossDeviceNoCommit]
 complete a := by cases a<;>decide
 small:=by decide

inductive FileTransferSourceLocation where
 | original
 | staged
 | removed
 deriving DecidableEq

instance : WireEnum FileTransferSourceLocation where
 values:=[.original,.staged,.removed]
 complete a := by cases a<;>decide
 small:=by decide

inductive FileTransferDestinationState where
 | absent
 | tempReserved
 | contentReady
 | published
 deriving DecidableEq

instance : WireEnum FileTransferDestinationState where
 values:=[.absent,.tempReserved,.contentReady,.published]
 complete a := by cases a<;>decide
 small:=by decide

inductive OverwriteDestinationState where
 | none
 | authorized
 | evacuated
 | evacuatedUnexpected
 deriving DecidableEq

instance : WireEnum OverwriteDestinationState where
 values:=[.none,.authorized,.evacuated,.evacuatedUnexpected]
 complete a := by cases a<;>decide
 small:=by decide

inductive FileTransferStep where
 | none
 | atomicMove
 | stageSource
 | reserveTemp
 | streamTemp
 | publishTemp
 | deleteSource
 | restoreStagedSource
 | cleanupTemp
 | evacuateOverwriteDestination
 | restoreOverwriteDestination
 | cleanupOverwriteDestination
 deriving DecidableEq

instance : WireEnum FileTransferStep where
 values:=[.none,.atomicMove,.stageSource,.reserveTemp,.streamTemp,.publishTemp,
  .deleteSource,.restoreStagedSource,.cleanupTemp,.evacuateOverwriteDestination,
  .restoreOverwriteDestination,.cleanupOverwriteDestination]
 complete a := by cases a<;>decide
 small:=by decide

structure FileTransferSource where
 path : Path
 destination : Path
 snapshot : SourceSnapshot
 sourceParentRevisionUtf8 : Bytes
 destinationParentRevisionUtf8 : Bytes
 authorizedOverwriteDestination : SourceSnapshot := {}

structure FileTransferItem where
 source : Path
 stagedSource : Path
 tempDestination : Path
 overwriteBackup : Path
 destination : Path
 originalSourceSnapshot : SourceSnapshot := {}
 currentSourceSnapshot : SourceSnapshot := {}
 destinationSnapshot : SourceSnapshot := {}
 sourceParentIdentityUtf8 : Bytes := []
 destinationParentIdentityUtf8 : Bytes := []
 sourceParentRevisionUtf8 : Bytes := []
 destinationParentRevisionUtf8 : Bytes := []
 contentSha256 : FixedBytes kFileTransferDigestBytes := .zero _
 requestToken : FixedBytes kFileTransferRequestTokenBytes := .zero _
 contentBytes : UInt64 := 0
 moveStreamReason : MoveStreamReason := .none
 contentProofPresent : Bool := false
 strategy : FileTransferStrategy := .copyStream
 sourceLocation : FileTransferSourceLocation := .original
 destinationState : FileTransferDestinationState := .absent
 overwriteDestinationSnapshot : SourceSnapshot := {}
 overwriteBackupSnapshot : SourceSnapshot := {}
 overwriteState : OverwriteDestinationState := .none
 deriving DecidableEq

structure FileTransferTransaction where
 version : UInt32 := kFileTransferTransactionVersion
 operationId : UInt64 := 0
 kind : FileTransferKind := .copy
 phase : FileTransferPhase := .prepared
 activeStep : FileTransferStep := .none
 activeIndex : UInt32 := 0
 activeEvidence : OperationEvidence := .none
 failureStatus : OperationStatus := .success
 failureEvidence : OperationEvidence := .none
 failureDetailUtf8 : Bytes := []
 items : List FileTransferItem := []
 cancelled : Bool := false
 deriving DecidableEq

def transferPath (userPath : Path) (start : Bytes) (operationId : UInt64) (index : ℕ) : Path:=
 userPath.parentPath / ⟨start++(toChars 16 operationId.toNat ++
  (45::(toChars 16 index++utf8 ".part")))⟩

def fileTransferStagedSourcePath (source : Path) (operationId : UInt64) (index : ℕ) : Path:=
 transferPath source kTransferSourceFilenamePrefix operationId index

def fileTransferTempDestinationPath (destination : Path) (operationId : UInt64) (index : ℕ) : Path:=
 transferPath destination kTransferDestinationFilenamePrefix operationId index

def fileTransferOverwriteBackupPath (destination : Path) (operationId : UInt64) (index : ℕ) : Path:=
 transferPath destination kTransferOverwriteBackupFilenamePrefix operationId index

variable (snapshot : SourceSnapshot)

def snapshotEmpty : Bool:=
 snapshot.sizeBytes = 0 ∧ snapshot.modifiedUnixNs = 0 ∧ snapshot.sourceRevisionUtf8 = []

def validSnapshot : Bool := stableObjectIdentity snapshot.sourceRevisionUtf8≠[]

def digestEmpty (digest : FixedBytes kFileTransferDigestBytes) : Bool := digest.bytes.all (· = 0)

def tokenEmpty (token : FixedBytes kFileTransferRequestTokenBytes) : Bool := token.bytes.all (· = 0)

def sameSnapshot (left right : SourceSnapshot) : Bool:=
 left.sizeBytes = right.sizeBytes ∧ left.modifiedUnixNs = right.modifiedUnixNs ∧
  sameSourceRevision left.sourceRevisionUtf8 right.sourceRevisionUtf8

def streamedStrategy (strategy : FileTransferStrategy) : Bool:=
 strategy = .copyStream ∨ strategy = .moveStream

variable (kind : FileTransferKind) (item : FileTransferItem)

def finalItem : Bool:=
 item.destinationState = .published ∧ item.overwriteState = .none ∧
  ((kind = .copy ∧ item.sourceLocation = .original) ∨
   (kind = .move ∧ item.sourceLocation = .removed))

def pristineItem : Bool:=
 item.strategy = (if kind = .copy then .copyStream else .moveUndecided) ∧
  item.sourceLocation = .original ∧ item.destinationState = .absent ∧
  item.overwriteState≠.evacuated ∧ item.overwriteState≠.evacuatedUnexpected ∧
  snapshotEmpty item.overwriteBackupSnapshot ∧ snapshotEmpty item.destinationSnapshot ∧
  item.contentBytes = 0 ∧ digestEmpty item.contentSha256 ∧ tokenEmpty item.requestToken ∧
  item.moveStreamReason = .none ∧ ¬item.contentProofPresent

def strategyAndLocationsValid : Bool:=
 match kind with
 | .copy=>item.strategy = .copyStream ∧ item.moveStreamReason = .none ∧
   item.sourceLocation = .original
 | .move=>
  match item.strategy with
  | .copyStream=>false
  | .moveUndecided=>item.moveStreamReason = .none ∧ item.sourceLocation = .original ∧
    item.destinationState = .absent
  | .moveAtomic=>item.moveStreamReason = .none ∧ item.sourceLocation = .removed ∧
    item.destinationState = .published
  | .moveStream=>
   item.moveStreamReason = .crossDeviceNoCommit &&
    match item.destinationState with
    | .absent=>item.sourceLocation = .original ∨ item.sourceLocation = .staged
    | .published=>item.sourceLocation = .staged ∨ item.sourceLocation = .removed
    | _=>item.sourceLocation = .staged

variable (item : FileTransferItem)

def destinationProofValid : Bool:=
 let noContent:=item.contentBytes = 0 ∧ digestEmpty item.contentSha256 ∧
  ¬item.contentProofPresent
 if item.destinationState = .absent then snapshotEmpty item.destinationSnapshot ∧ noContent
 else if ¬validSnapshot item.destinationSnapshot then false
 else if item.strategy = .moveAtomic then
  item.destinationState = .published ∧ noContent ∧
   sameObjectIdentity item.originalSourceSnapshot.sourceRevisionUtf8
    item.destinationSnapshot.sourceRevisionUtf8
 else if item.destinationState = .tempReserved then noContent ∧ ¬tokenEmpty item.requestToken
 else
  streamedStrategy item.strategy ∧ item.contentBytes = item.originalSourceSnapshot.sizeBytes ∧
   item.destinationSnapshot.sizeBytes = item.contentBytes ∧ item.contentProofPresent

/-- The overwritten destination is out of the way, or the version never moved it. -/
def overwriteSettled (version : UInt32) (item : FileTransferItem) : Bool:=
 item.overwriteState = .none ∨ item.overwriteState = .evacuated ∨
  (version < 6 ∧ item.overwriteState = .authorized)

variable (transaction : FileTransferTransaction)

def itemStepMatches (item : FileTransferItem) : Bool:=
 match transaction.activeStep with
 | .none=>false
 | .atomicMove=>transaction.kind = .move ∧ item.strategy = .moveUndecided ∧
   item.sourceLocation = .original ∧ item.destinationState = .absent ∧
   overwriteSettled transaction.version item
 | .stageSource=>transaction.kind = .move ∧ item.strategy = .moveStream ∧
   item.sourceLocation = .original ∧ item.destinationState = .absent
 | .reserveTemp=>streamedStrategy item.strategy ∧ item.destinationState = .absent ∧
   ¬tokenEmpty item.requestToken ∧
   (transaction.kind = .copy ∨ item.sourceLocation = .staged)
 | .streamTemp=>streamedStrategy item.strategy ∧ item.destinationState = .tempReserved
 | .publishTemp=>streamedStrategy item.strategy ∧ item.destinationState = .contentReady ∧
   overwriteSettled transaction.version item
 | .deleteSource=>transaction.kind = .move ∧ item.strategy = .moveStream ∧
   item.sourceLocation = .staged ∧ item.destinationState = .published
 | .restoreStagedSource=>transaction.kind = .move ∧ item.strategy = .moveStream ∧
   item.sourceLocation = .staged ∧ item.destinationState≠.published ∧
   transaction.phase = .prepublishCleanup
 | .cleanupTemp=>streamedStrategy item.strategy ∧ transaction.phase = .prepublishCleanup ∧
   (item.destinationState = .tempReserved ∨ item.destinationState = .contentReady)
 | .evacuateOverwriteDestination=>transaction.version ≥ 6 ∧
   item.overwriteState = .authorized ∧ item.destinationState≠.published
 | .restoreOverwriteDestination=>transaction.version ≥ 6 ∧
   transaction.phase = .prepublishCleanup ∧
   (item.overwriteState = .evacuated ∨ item.overwriteState = .evacuatedUnexpected) ∧
   item.destinationState≠.published
 | .cleanupOverwriteDestination=>transaction.version ≥ 6 ∧
   item.overwriteState = .evacuated ∧ item.destinationState = .published ∧
   ((transaction.kind = .copy ∧ item.sourceLocation = .original) ∨
    (transaction.kind = .move ∧ item.sourceLocation = .removed))

def activeStepMatches : Bool:=
 if transaction.activeStep = .none then transaction.activeIndex = 0
 else
  match transaction.items[transaction.activeIndex.toNat]? with
  | none=>false
  | some item=>itemStepMatches transaction item

def validTransactionVersion (version : UInt32) : Bool:=
 version = 4 ∨ version = 5 ∨ version = kFileTransferTransactionVersion

def overwriteStateValid : Bool:=
 let authorized:=!snapshotEmpty item.overwriteDestinationSnapshot
 let backup:=!snapshotEmpty item.overwriteBackupSnapshot
 match item.overwriteState with
 | .none=>!authorized && !backup
 | .authorized=>authorized && !backup
 | .evacuated=>authorized && backup &&
   sameObjectAfterRename item.overwriteDestinationSnapshot item.overwriteBackupSnapshot
 | .evacuatedUnexpected=>authorized && backup

/-- An overwrite snapshot needs a version that stores it, a strong identity and a
  text the decoder will accept. -/
def overwriteSnapshotValid (version least : UInt32) (snapshot : SourceSnapshot) : Bool:=
 snapshotEmpty snapshot ∨ (version ≥ least ∧ validSnapshot snapshot ∧
  ¬startsWith snapshot.sourceRevisionUtf8 winFile ∧
  validUtf8WithoutNul snapshot.sourceRevisionUtf8)

def ownedPaths : List Bytes:=
 [item.source.lexicallyNormal.native,item.stagedSource.lexicallyNormal.native,
  item.tempDestination.lexicallyNormal.native,item.overwriteBackup.lexicallyNormal.native,
  item.destination.lexicallyNormal.native]

def itemPathsValid (operationId : UInt64) (before : List FileTransferItem)
  (item : FileTransferItem) : Bool:=
 item.source.isAbsolute && item.stagedSource.isAbsolute && item.tempDestination.isAbsolute &&
  item.overwriteBackup.isAbsolute && item.destination.isAbsolute &&
  !item.source.same item.destination &&
  item.stagedSource.same (fileTransferStagedSourcePath item.source operationId before.length) &&
  item.tempDestination.same
   (fileTransferTempDestinationPath item.destination operationId before.length) &&
  item.overwriteBackup.same
   (fileTransferOverwriteBackupPath item.destination operationId before.length) &&
  !isTransferFilename item.source.filename.native &&
  !isTransferFilename item.destination.filename.native &&
  !item.source.filename.native.contains colon &&
  decide ((ownedPaths item).Nodup ∧ ∀text ∈ ownedPaths item,text ∉ before.flatMap ownedPaths)

def sourceIdentity : Bytes := stableObjectIdentity item.originalSourceSnapshot.sourceRevisionUtf8

/-- A source still in place, unless a streamed move put it back there, has to be
  exactly the one that was recorded. -/
def sourceSnapshotValid : Bool:=
 let restoredStreamedMove:=kind = .move ∧ item.strategy = .moveStream ∧
  item.sourceLocation = .original
 if item.sourceLocation = .original ∧ ¬restoredStreamedMove then
  sameSnapshot item.originalSourceSnapshot item.currentSourceSnapshot
 else sameObjectAfterRename item.originalSourceSnapshot item.currentSourceSnapshot

def parentIdentityValid : Bool:=
 !startsWith item.sourceParentIdentityUtf8 winFile &&
  !startsWith item.destinationParentIdentityUtf8 winFile &&
  item.sourceParentIdentityUtf8≠[] && item.destinationParentIdentityUtf8≠[] &&
  stableObjectIdentity item.sourceParentRevisionUtf8 = item.sourceParentIdentityUtf8 &&
  stableObjectIdentity item.destinationParentRevisionUtf8 = item.destinationParentIdentityUtf8

/-- One turn of the item loop; `before` holds the items already accepted. -/
def checkItem (before : List FileTransferItem)
  (item : FileTransferItem) : Except Bytes Unit := do
 require (overwriteStateValid item) (utf8 "file-transfer overwrite state is invalid")
 require (overwriteSnapshotValid transaction.version 5 item.overwriteDestinationSnapshot)
  (utf8 "file-transfer overwrite authorization is invalid")
 require (overwriteSnapshotValid transaction.version 6 item.overwriteBackupSnapshot)
  (utf8 "file-transfer overwrite backup proof is invalid")
 require (itemPathsValid transaction.operationId before item)
  (utf8 "file-transfer paths are invalid or duplicated")
 validDestinationFilename item.destination.filename
 validDestinationFilename item.stagedSource.filename
 validDestinationFilename item.tempDestination.filename
 validDestinationFilename item.overwriteBackup.filename
 require (sourceIdentity item≠[] ∧ sourceIdentity item ∉ before.map sourceIdentity)
  (utf8 "file-transfer source object identity is invalid or duplicated")
 require (validSnapshot item.currentSourceSnapshot)
  (utf8 "file-transfer current source identity is invalid")
 require (sourceSnapshotValid transaction.kind item)
  (utf8 "file-transfer current source snapshot no longer matches its origin")
 require (!startsWith item.originalSourceSnapshot.sourceRevisionUtf8 winFile &&
   !startsWith item.currentSourceSnapshot.sourceRevisionUtf8 winFile &&
   (snapshotEmpty item.destinationSnapshot ||
    !startsWith item.destinationSnapshot.sourceRevisionUtf8 winFile))
  (utf8 "file-transfer snapshot uses a weak Windows identity")
 require (parentIdentityValid item) (utf8 "file-transfer parent identity is invalid")
 require (strategyAndLocationsValid transaction.kind item)
  (utf8 "file-transfer strategy or source location is invalid")
 require (destinationProofValid item) (utf8 "file-transfer destination proof is invalid")
 require (!(transaction.phase = .prepublishCleanup ∧ item.destinationState = .published ∧
   ¬finalItem transaction.kind item))
  (utf8 "file-transfer cleanup cannot restore a published move")
 require (!(streamedStrategy item.strategy ∧ item.destinationState≠.absent ∧
   tokenEmpty item.requestToken))
  (utf8 "file-transfer temporary object has no request token")
 let sawNonFinal:=before.any fun other=>!finalItem transaction.kind other
 require (!(finalItem transaction.kind item && sawNonFinal))
  (utf8 "file-transfer completed items are not a prefix")
 require (!sawNonFinal || pristineItem transaction.kind item)
  (utf8 "file-transfer has more than one in-progress item")

def firstNonFinal : ℕ:=
 (transaction.items.findIdx? fun item=>!finalItem transaction.kind item).getD 0

def validFileTransferTransaction : Except Bytes Unit := do
 require (validTransactionVersion transaction.version ∧ transaction.operationId≠0 ∧
   (transaction.cancelled → transaction.version ≥ 5 ∧ transaction.phase = .prepublishCleanup) ∧
   transaction.items≠[] ∧ transaction.items.length ≤ kMaximumFileTransferItems)
  (utf8 "file-transfer transaction header is invalid")
 require (activeStepMatches transaction ∧
   (transaction.activeStep = .none → transaction.activeEvidence = .none) ∧
   (transaction.failureStatus = .success → transaction.activeEvidence = .none ∧
    transaction.failureEvidence = .none ∧ transaction.failureDetailUtf8 = []))
  (utf8 "file-transfer active step or evidence is inconsistent")
 require ((transaction.phase = .prepared ∨ transaction.phase = .completed) →
   transaction.activeStep = .none)
  (utf8 "file-transfer terminal phase has an active step")
 checkEach (checkItem transaction) [] transaction.items
 require (transaction.items.all fun item=>snapshotEmpty item.overwriteDestinationSnapshot ||
   !(transaction.items.map sourceIdentity).contains
    (stableObjectIdentity item.overwriteDestinationSnapshot.sourceRevisionUtf8))
  (utf8 "file-transfer overwrite destination aliases a source")
 require (transaction.phase = .prepared → transaction.items.all (pristineItem transaction.kind))
  (utf8 "prepared file-transfer transaction is not pristine")
 require (transaction.phase = .completed ↔ transaction.items.all (finalItem transaction.kind))
  (utf8 "file-transfer completion phase does not match item state")
 require (transaction.activeStep≠.none → transaction.activeIndex.toNat = firstNonFinal transaction)
  (utf8 "file-transfer active item is not the first unfinished item")

def TransferValid : Prop := validFileTransferTransaction transaction = .ok ()

def preparedItem (operationId : UInt64) (index : ℕ)
  (source : FileTransferSource) : FileTransferItem where
 source:=source.path
 stagedSource:=fileTransferStagedSourcePath source.path operationId index
 tempDestination:=fileTransferTempDestinationPath source.destination operationId index
 overwriteBackup:=fileTransferOverwriteBackupPath source.destination operationId index
 destination:=source.destination
 originalSourceSnapshot:=source.snapshot
 currentSourceSnapshot:=source.snapshot
 sourceParentIdentityUtf8:=stableObjectIdentity source.sourceParentRevisionUtf8
 destinationParentIdentityUtf8:=stableObjectIdentity source.destinationParentRevisionUtf8
 sourceParentRevisionUtf8:=source.sourceParentRevisionUtf8
 destinationParentRevisionUtf8:=source.destinationParentRevisionUtf8
 strategy:=if kind = .copy then .copyStream else .moveUndecided

end VoVe.TransferTransaction
