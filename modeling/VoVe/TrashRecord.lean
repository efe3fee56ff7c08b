import VoVe.CurrentOperationJournal
import VoVe.DestinationFilename
import VoVe.FileOperation

set_option autoImplicit false

/-! The trash transaction of `trash_transaction.cpp` as the POSIX build checks it. -/

namespace VoVe.TrashRecord
open ByteCodec AsciiText PosixPath Checks DestinationFilename FileOperation

def kTrashTransactionVersion : UInt32 := 11
def kMaximumTrashItems : ℕ := 10000
def kMaximumTrashDirectoryEntries : ℕ := 10000
def kBasicDirectoryTransferMaximumDepth : UInt16 := 128

inductive BasicDirectoryTransferEntryKind where
 | directory
 | regularFile
 deriving DecidableEq

instance : WireEnum BasicDirectoryTransferEntryKind where
 values:=[.directory,.regularFile]
 complete a := by cases a<;>decide
 small:=by decide

structure BasicDirectoryTransferEntry where
 relativePath : Path
 sizeBytes : UInt64 := 0
 modifiedUnixNs : Int64 := 0
 sourceRevisionUtf8 : Bytes := []
 depth : UInt16 := 1
 kind : BasicDirectoryTransferEntryKind := .regularFile
 deriving DecidableEq

inductive TrashPayloadPolicy where
 | strict
 | preservePermissions
 deriving DecidableEq

instance : WireEnum TrashPayloadPolicy where
 values:=[.strict,.preservePermissions]
 complete a := by cases a<;>decide
 small:=by decide

inductive TrashItemKind where
 | regularFile
 | directory
 deriving DecidableEq

instance : WireEnum TrashItemKind where
 values:=[.regularFile,.directory]
 complete a := by cases a<;>decide
 small:=by decide

inductive TrashPhase where
 | prepared
 | moving
 | rollback
 | rollbackContainerRemoveIntent
 | manifestIntent
 | published
 | restorePrepared
 | restoring
 | restoreRollback
 | manifestRemoveIntent
 | restoreContainerRemoveIntent
 | restored
 | purgePrepared
 | purging
 | purgeManifestRemoveIntent
 | purgeContainerRemoveIntent
 | purged
 | cancelRemainingIntent
 | cancelContainerRemoveIntent
 deriving DecidableEq

instance : WireEnum TrashPhase where
 values:=[.prepared,.moving,.rollback,.rollbackContainerRemoveIntent,.manifestIntent,
  .published,.restorePrepared,.restoring,.restoreRollback,.manifestRemoveIntent,
  .restoreContainerRemoveIntent,.restored,.purgePrepared,.purging,
  .purgeManifestRemoveIntent,.purgeContainerRemoveIntent,.purged,.cancelRemainingIntent,
  .cancelContainerRemoveIntent]
 complete a := by cases a<;>decide
 small:=by decide

inductive TrashItemLocation where
 | source
 | stored
 | deleted
 deriving DecidableEq

instance : WireEnum TrashItemLocation where
 values:=[.source,.stored,.deleted]
 complete a := by cases a<;>decide
 small:=by decide

inductive TrashSecurityState where
 | original
 | hardened
 deriving DecidableEq

instance : WireEnum TrashSecurityState where
 values:=[.original,.hardened]
 complete a := by cases a<;>decide
 small:=by decide

inductive TrashStep where
 | none
 | store
 | restore
 | purge
 deriving DecidableEq

instance : WireEnum TrashStep where
 values:=[.none,.store,.restore,.purge]
 complete a := by cases a<;>decide
 small:=by decide

structure TrashSource where
 path : Path
 snapshot : SourceSnapshot
 kind : TrashItemKind := .regularFile
 payloadBytes : UInt64 := 0
 directoryEntries : List BasicDirectoryTransferEntry := []
 directorySecurityDescriptorsSddlUtf8 : List Bytes := []
 storageIdentityUtf8 : Bytes := []
 originalSecurityDescriptorSddlUtf8 : Bytes := []
 restorePath : Path := ⟨[]⟩
 payloadPolicy : TrashPayloadPolicy := .strict

structure TrashItem where
 /-- User-facing path, exactly as selected; mutations use `restorePath`. -/
 original : Path
 restorePath : Path
 stored : Path
 current : Path
 currentSnapshot : SourceSnapshot
 kind : TrashItemKind := .regularFile
 payloadBytes : UInt64 := 0
 directoryEntries : List BasicDirectoryTransferEntry := []
 directorySecurityDescriptorsSddlUtf8 : List Bytes := []
 directoryPurgeCursor : UInt32 := 0
 storageIdentityUtf8 : Bytes := []
 location : TrashItemLocation := .source
 securityState : TrashSecurityState := .original
 originalSecurityDescriptorSddlUtf8 : Bytes := []
 payloadPolicy : TrashPayloadPolicy := .strict
 storageIndex : UInt32 := 0
 deriving DecidableEq

structure TrashTransaction where
 version : UInt32 := kTrashTransactionVersion
 operationId : UInt64 := 0
 createdUnixNs : Int64 := 0
 phase : TrashPhase := .prepared
 activeStep : TrashStep := .none
 activeIndex : UInt32 := 0
 activeEvidence : OperationEvidence := .none
 failureStatus : OperationStatus := .success
 failureDetailUtf8 : Bytes := []
 items : List TrashItem := []
 deriving DecidableEq

def kTrashItemFilenamePrefix : Bytes := utf8 "item-"

def trashContainerPath (sourceParent : Path) (operationId : UInt64) : Path:=
 sourceParent / ⟨kTrashFilenamePrefix++toChars 16 operationId.toNat⟩

def storedPath (source : Path) (operationId : UInt64) (vaultRoot : Path) (index : ℕ) : Path:=
 trashContainerPath (if vaultRoot.isEmpty then source.parentPath else vaultRoot) operationId /
  ⟨kTrashItemFilenamePrefix++toChars 16 index⟩

variable (item : TrashItem)

def expectedCurrent : Bool:=
 match item.location with
 | .source=>item.current.same item.restorePath
 | .stored=>item.current.same item.stored
 | .deleted=>item.current.isEmpty

def locationAllowed (phase : TrashPhase) (location : TrashItemLocation) : Bool:=
 match phase with
 | .prepared=>location = .source
 | .moving | .rollback | .cancelRemainingIntent=>location = .source ∨ location = .stored
 | .rollbackContainerRemoveIntent | .cancelContainerRemoveIntent=>location = .source
 | .manifestIntent | .published | .restorePrepared=>location = .stored
 | .restoring | .restoreRollback=>location = .source ∨ location = .stored
 | .manifestRemoveIntent | .restoreContainerRemoveIntent | .restored=>location = .source
 | .purgePrepared=>location = .stored
 | .purging=>location = .stored ∨ location = .deleted
 | .purgeManifestRemoveIntent | .purgeContainerRemoveIntent | .purged=>location = .deleted

variable (transaction : TrashTransaction)

def activeStepMatches : Bool:=
 if transaction.activeStep = .none then transaction.activeIndex = 0
 else
  match transaction.items[transaction.activeIndex.toNat]? with
  | none=>false
  | some item=>
   match transaction.activeStep with
   | .none=>false
   | .store=>(transaction.phase = .moving ∨ transaction.phase = .cancelRemainingIntent ∨
     transaction.phase = .restoreRollback) ∧ item.location = .source
   | .restore=>(transaction.phase = .rollback ∨ transaction.phase = .cancelRemainingIntent ∨
     transaction.phase = .restoring) ∧ item.location = .stored
   | .purge=>transaction.phase = .purging ∧ item.location = .stored

def validRelativeDirectoryEntryPath (path : Path) : Bool:=
 !path.isEmpty && !path.isAbsolute && !path.components.trailing &&
  path.components.names.all fun component=>component≠[dot] ∧ component≠dotDot

/-- The text of a path with one slash between its names. -/
def genericText (path : Path) : Bytes := Path.textOf path.components

def purgeOrderBefore (left right : BasicDirectoryTransferEntry) : Bool:=
 if left.depth≠right.depth then left.depth > right.depth
 else genericText right.relativePath < genericText left.relativePath

variable (entry : BasicDirectoryTransferEntry)

def relativeText : Bytes := entry.relativePath.lexicallyNormal.native

def entryIdentity : Bytes := stableObjectIdentity entry.sourceRevisionUtf8

def totalBytes (entries : List BasicDirectoryTransferEntry) : UInt64:=
 entries.foldl (fun total entry =>
  if entry.kind = .directory then total else total+entry.sizeBytes) 0

/-- One turn of the loop over a directory's entries. -/
def checkEntry (before : List BasicDirectoryTransferEntry) (entry : BasicDirectoryTransferEntry):
  Except Bytes Unit:=
 require (validRelativeDirectoryEntryPath entry.relativePath && relativeText entry≠[] &&
   validUtf8WithoutNul (relativeText entry) && entry.depth≠0 &&
   decide (entry.depth ≤ kBasicDirectoryTransferMaximumDepth) && entryIdentity entry≠[] &&
   !(before.map entryIdentity).contains (entryIdentity entry) &&
   !(before.map relativeText).contains (relativeText entry) &&
   (if entry.kind = .directory then entry.sizeBytes = 0
    else entry.sizeBytes ≤ UInt64.ofNat (2 ^ 64 - 1) - totalBytes before) &&
   before.getLast?.all (purgeOrderBefore · entry))
  (utf8 "trash directory manifest is invalid or not in purge order")

def validDirectoryPayload : Except Bytes Unit:=
 match item.kind with
 | .regularFile=>
  require (item.directoryEntries = [] ∧ item.directorySecurityDescriptorsSddlUtf8 = [] ∧
    item.directoryPurgeCursor = 0 ∧ item.payloadBytes = item.currentSnapshot.sizeBytes)
   (utf8 "regular trash item carries directory state")
 | .directory=>do
  require (item.currentSnapshot.sizeBytes = 0 ∧
    item.directoryEntries.length ≤ kMaximumTrashDirectoryEntries ∧
    (item.directorySecurityDescriptorsSddlUtf8 = [] ∨
     item.directorySecurityDescriptorsSddlUtf8.length = item.directoryEntries.length) ∧
    item.directoryPurgeCursor.toNat ≤ item.directoryEntries.length)
   (utf8 "trash directory state exceeds its bounds")
  require (item.location = .stored ∨ item.directoryPurgeCursor = 0)
   (utf8 "trash directory purge cursor is inconsistent with its location")
  checkEach checkEntry [] item.directoryEntries
  require (totalBytes item.directoryEntries = item.payloadBytes)
   (utf8 "trash directory byte count is inconsistent")

/-- The normalized parents every item has to share. -/
structure Parents where
 parent : Path
 restoreParent : Path
 container : Path

def parentsOf : Parents where
 parent:=item.original.parentPath.lexicallyNormal
 restoreParent:=item.restorePath.parentPath.lexicallyNormal
 container:=item.stored.parentPath.lexicallyNormal

def itemPathsValid (parents : Parents) (before : List TrashItem)
  (item : TrashItem) : Bool:=
 item.original.isAbsolute && item.restorePath.isAbsolute && item.stored.isAbsolute &&
  item.original.parentPath.lexicallyNormal.same parents.parent &&
  item.restorePath.parentPath.lexicallyNormal.same parents.restoreParent &&
  item.original.filename.same item.restorePath.filename &&
  decide (item.storageIndex.toNat < kMaximumTrashItems) &&
  before.getLast?.all (fun other=>other.storageIndex < item.storageIndex) &&
  item.stored.same (storedPath item.restorePath transaction.operationId
   parents.container.parentPath item.storageIndex.toNat) &&
  expectedCurrent item && locationAllowed transaction.phase item.location &&
  !isTrashFilename item.original.filename.native

def linuxSmb : Bytes := utf8 "linux-smb:"

def securityStateValid : Bool:=
 item.payloadPolicy = .strict ∧ item.originalSecurityDescriptorSddlUtf8 = [] ∧
  item.securityState = .original ∧ validUtf8WithoutNul item.storageIdentityUtf8 ∧
  (item.storageIdentityUtf8 = [] ∨ startsWith item.storageIdentityUtf8 linuxSmb)

def originalText : Bytes := item.original.lexicallyNormal.native
def restoreText : Bytes := item.restorePath.lexicallyNormal.native
def storedText : Bytes := item.stored.lexicallyNormal.native
def itemIdentity : Bytes := stableObjectIdentity item.currentSnapshot.sourceRevisionUtf8

/-- One turn of the item loop; `before` holds the items already accepted. -/
def checkItem (parents : Parents) (before : List TrashItem)
  (item : TrashItem) : Except Bytes Unit := do
 require (itemPathsValid transaction parents before item)
  (utf8 "trash transaction item path or location is inconsistent")
 require (item.currentSnapshot.sourceRevisionUtf8≠[] &&
   (startsWith item.currentSnapshot.sourceRevisionUtf8 posix1 ||
    startsWith item.currentSnapshot.sourceRevisionUtf8 posix2) &&
   itemIdentity item≠[])
  (utf8 "trash transaction item identity is inconsistent")
 validDirectoryPayload item
 require (securityStateValid item)
  (utf8 "POSIX trash transaction carries a foreign security state")
 require (validUtf8WithoutNul (originalText item) && validUtf8WithoutNul (restoreText item) &&
   validUtf8WithoutNul (storedText item) &&
   !(before.map originalText).contains (originalText item) &&
   !(before.map restoreText).contains (restoreText item) &&
   !(before.map storedText).contains (storedText item) &&
   !(before.map itemIdentity).contains (itemIdentity item))
  (utf8 "trash transaction contains duplicate or invalid items")

def validTrashTransaction : Except Bytes Unit := do
 let first ← found transaction.items.head? (utf8 "trash transaction header is invalid")
 require (transaction.version = kTrashTransactionVersion ∧ transaction.operationId≠0 ∧
   transaction.createdUnixNs > 0 ∧ transaction.items.length ≤ kMaximumTrashItems)
  (utf8 "trash transaction header is invalid")
 require (activeStepMatches transaction) (utf8 "trash transaction active step is invalid")
 require (validUtf8WithoutNul transaction.failureDetailUtf8)
  (utf8 "trash transaction detail is invalid")
 require ((transaction.activeStep = .none → transaction.activeEvidence = .none) ∧
   (transaction.failureStatus = .success → transaction.activeEvidence = .none))
  (utf8 "trash transaction evidence is inconsistent")
 let parents:=parentsOf first
 require (parents.container.same
   (trashContainerPath parents.container.parentPath transaction.operationId))
  (utf8 "trash transaction container is inconsistent")
 checkEach (checkItem transaction parents) [] transaction.items

def TrashValid : Prop := validTrashTransaction transaction = .ok ()

def preparedItem (operationId : UInt64) (vaultRoot : Path) (index : ℕ) (source : TrashSource):
  TrashItem:=
 let restorePath:=if source.restorePath.isEmpty then source.path else source.restorePath
 { original:=source.path
   restorePath:=restorePath
   stored:=storedPath restorePath operationId vaultRoot index
   current:=restorePath
   currentSnapshot:=source.snapshot
   kind:=source.kind
   payloadBytes:=
    if source.kind = .regularFile then source.snapshot.sizeBytes else source.payloadBytes
   directoryEntries:=source.directoryEntries
   directorySecurityDescriptorsSddlUtf8:=source.directorySecurityDescriptorsSddlUtf8
   storageIdentityUtf8:=source.storageIdentityUtf8
   originalSecurityDescriptorSddlUtf8:=source.originalSecurityDescriptorSddlUtf8
   payloadPolicy:=source.payloadPolicy
   storageIndex:=UInt32.ofNat index }

end VoVe.TrashRecord
