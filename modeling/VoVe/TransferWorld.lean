import VoVe.FileTransferCoordinator
import VoVe.OperationWorld

set_option autoImplicit false

/-! The journal and the files a transfer works on, and what truthful services may
  do to them and say of them. -/

namespace VoVe.TransferWorld
open ByteCodec PosixPath EffectProgram JournalDisk JournalAtomicity
open FileOperation TransferTransactionCodec
open FileTransferProtocol FileTransferCoordinator ObjectDirectory OperationWorld
open OperationRequest (RenameRequest DeleteRequest RenameMode DeleteMode)

structure FileObject where
 identity : Bytes
 content : Bytes
 deriving DecidableEq

/-- Which file each normalized path stands for. -/
abbrev Files := Directory Bytes FileObject

def identityOf (snapshot : SourceSnapshot) : Bytes:=
 stableObjectIdentity snapshot.sourceRevisionUtf8

variable (files : Files)

def Shows (path : Path) (identity : Bytes) : Prop:=
 ∃ object,files (transferPathKey path) = some object ∧ object.identity = identity

def Fresh (identity : Bytes) : Prop:=
 ∀key object,files key = some object → object.identity≠identity

/-- The modes of versions before 6 take a name that is in use. -/
def replacing (mode : RenameMode) : Bool:=
 mode = .transferPublishReplace ∨ mode = .transferAtomicReplace

section Operations
variable (before : Files)

inductive RenameLeaves (request : RenameRequest) (use : RenameUse) : Files → Prop where
 | kept : RenameLeaves request use before
 | moved (object : FileObject) (after : Files) (huse:use=.execute)
  (hexpected:object.identity=request.expectedIdentity)
  (hmoves:Renames object (transferPathKey request.source)
   (transferPathKey request.destination) before after) : RenameLeaves request use after
 | replaced (object : FileObject) (huse:use=.execute) (hmode:replacing request.mode=true)
  (hexpected:object.identity=request.expectedIdentity)
  (hheld:before (transferPathKey request.source)=some object):
  RenameLeaves request use (Function.update
   (Function.update before (transferPathKey request.source) none)
   (transferPathKey request.destination) (some object))

/-- A removal of the file expected, while the file that guards it is in place. -/
inductive DeleteLeaves (request : DeleteRequest) (use : DeleteUse) : Files → Prop where
 | kept : DeleteLeaves request use before
 | removed (object : FileObject) (after : Files) (huse:use=.execute)
  (hexpected:object.identity=request.expectedIdentity)
  (hguard:request.mode=.transferSourceCommit →
   Shows before request.guardPath (identityOf request.expectedGuard))
  (hremoves:Removes object (transferPathKey request.source) before after):
  DeleteLeaves request use after

def copying (mode : FileTransferStreamMode) : Bool := mode = .reserveNew ∨ mode = .resumeExisting

inductive StreamLeaves (request : FileTransferStreamRequest) (owned : Bytes) : Files → Prop where
 | kept : StreamLeaves request owned before
 | created (object : FileObject) (hmode:request.mode=.reserveNew)
  (hfree:before (transferPathKey request.tempDestination)=none)
  (hfresh:Fresh before object.identity) : StreamLeaves request owned
   (Function.update before (transferPathKey request.tempDestination) (some object))
 | written (content : Bytes) (hmode:copying request.mode=true)
  (hheld:Shows before request.tempDestination owned) : StreamLeaves request owned
   (Function.update before (transferPathKey request.tempDestination) (some ⟨owned,content⟩))
 | removed (hmode:copying request.mode=true)
  (hheld:Shows before request.tempDestination owned) : StreamLeaves request owned
   (Function.update before (transferPathKey request.tempDestination) none)

variable (after : Files)

/-- What a truthful service says of a rename: where the file expected is now, or
  that it did not move; of a file at the destination, which one it is. -/
structure RenameTruth (request : RenameRequest) (use : RenameUse) (result : OperationResult):
  Prop where
 effect : RenameLeaves before request use after
 success : mutationCommitted result=true →
  Shows after request.destination request.expectedIdentity ∧
  ¬Shows after request.source request.expectedIdentity ∧
  identityOf result.confirmedSnapshot=request.expectedIdentity
 refusal : result.evidence=.noCommit → (use=.execute → after=before) ∧
  (use≠.execute → Shows after request.source request.expectedIdentity ∧
   ¬Shows after request.destination request.expectedIdentity)
 arrival : result.evidence=.committed → result.destinationPresent=true →
  identityOf result.confirmedSnapshot≠[] →
  Shows after request.destination (identityOf result.confirmedSnapshot)
 occupied : result.status=.conflict → result.evidence=.noCommit →
  identityOf result.confirmedSnapshot≠[] →
  Shows after request.destination (identityOf result.confirmedSnapshot)

structure DeleteTruth (request : DeleteRequest) (use : DeleteUse) (result : OperationResult):
  Prop where
 effect : DeleteLeaves before request use after
 success : mutationCommitted result=true → after (transferPathKey request.source)=none
 refusal : result.evidence=.noCommit → (use=.execute → after=before) ∧
  (use≠.execute → Shows after request.source request.expectedIdentity)

/-- A copy that succeeded holds what the source expected holds, byte for byte. -/
def Copied (request : FileTransferStreamRequest) (owned : Bytes)
  (result : FileTransferStreamResult) : Prop:=
 copying request.mode = true → result.ok = true → ∃ source,
  before (transferPathKey request.source) = some source ∧
  source.identity = identityOf request.expectedSource ∧
  identityOf result.tempSnapshot = owned ∧
  after (transferPathKey request.tempDestination) = some ⟨owned,source.content⟩

/-- A reservation names the temporary file: a new one nobody had, or the one expected. -/
inductive StreamTruth (request : FileTransferStreamRequest) : StreamAnswer → Prop where
 | rejected (hsame:after=before) : StreamTruth request .rejected
 | finished (result : FileTransferStreamResult)
  (heffect:StreamLeaves before request (identityOf request.expectedTemp) after)
  (hcopied:Copied before after request (identityOf request.expectedTemp) result):
  StreamTruth request (.finished result)
 | probed (reservation : FileTransferReservation) (hmode:copying request.mode=false)
  (hsame:after=before) : StreamTruth request (.reserved reservation)
 | resumed (reservation : FileTransferReservation) (hmode:request.mode=.resumeExisting)
  (htemp:identityOf reservation.tempSnapshot=identityOf request.expectedTemp)
  (hsame:after=before) : StreamTruth request (.reserved reservation)
 | created (reservation : FileTransferReservation) (content : Bytes)
  (hmode:request.mode=.reserveNew)
  (hfree:before (transferPathKey request.tempDestination)=none)
  (hfresh:Fresh before (identityOf reservation.tempSnapshot))
  (hafter:after=Function.update before (transferPathKey request.tempDestination)
   (some ⟨identityOf reservation.tempSnapshot,content⟩)):
  StreamTruth request (.reserved reservation)

end Operations

structure TransferState where
 journal : Generations
 files : Files
 /-- The files the user gave up, each by its path and its identity. -/
 approved : List (Bytes × Bytes)

def givenUp (question : List FileTransferConflictItem) : List (Bytes × Bytes):=
 question.filterMap fun asked=>(files (transferPathKey asked.destination)).map fun object =>
  (transferPathKey asked.destination,object.identity)

def decided (before : TransferState) (question : List FileTransferConflictItem):
  Option FileTransferConflictDecision → TransferState
 | some .overwrite=>{ before with approved:=before.approved++givenUp before.files question }
 | _=>before

/-- Only the files change. -/
structure FilesOnly (before after : TransferState) : Prop where
 journal : after.journal=before.journal
 approved : after.approved=before.approved

/-- Only the journal changes. -/
structure JournalOnly (before after : TransferState) : Prop where
 files : after.files=before.files
 approved : after.approved=before.approved

/-- A store that may fail or be cut, truthful services and a user who may decide
  anything. -/
def transferWorld : World TransferOp TransferReply TransferState where
 answers o before reply after:=
  match o, reply with
  | .persist transaction, reply=>JournalOnly before after ∧
    Persists .fileTransfer (encodeFileTransferTransaction transaction) before.journal reply
     after.journal
  | .removeJournal, reply=>JournalOnly before after ∧
    RemovesJournal before.journal reply after.journal
  | .readJournal, loaded=>after = before ∧ ReadsJournal before.journal loaded
  | .submitRename request use, result=>FilesOnly before after ∧
    RenameTruth before.files after.files request use result
  | .submitDelete request use, result=>FilesOnly before after ∧
    DeleteTruth before.files after.files request use result
  | .submitStream request, answer=>FilesOnly before after ∧
    StreamTruth before.files after.files request answer
  | .acknowledgeReservation request reservation _, result=>FilesOnly before after ∧
    StreamLeaves before.files request (identityOf reservation.tempSnapshot) after.files ∧
    Copied before.files after.files request (identityOf reservation.tempSnapshot) result
  | .submitAudit request, .audited result=>after = before ∧
    Shows before.files request.source (identityOf result.sourceSnapshot)
  | .awaitConflictDecision question, decision=>after = decided before question decision
  | _, _=>after = before
 cut o before after:=
  match o with
  | .persist transaction=>JournalOnly before after ∧
    PersistLeaves .fileTransfer (encodeFileTransferTransaction transaction) before.journal
     after.journal
  | .removeJournal=>JournalOnly before after ∧ RemoveStep before.journal after.journal
  | .submitRename request use=>FilesOnly before after ∧
    RenameLeaves before.files request use after.files
  | .submitDelete request use=>FilesOnly before after ∧
    DeleteLeaves before.files request use after.files
  | .submitStream request=>FilesOnly before after ∧
    StreamLeaves before.files request (identityOf request.expectedTemp) after.files
  | .acknowledgeReservation request reservation _=>FilesOnly before after ∧
    StreamLeaves before.files request (identityOf reservation.tempSnapshot) after.files
  | _=>after = before

end VoVe.TransferWorld
