import VoVe.DestinationFilename
import VoVe.OperationRequest

set_option autoImplicit false

namespace VoVe.OperationValidation
open ByteCodec AsciiText PosixPath Checks DestinationFilename FileOperation OperationRequest

inductive CreateDirectoryAction where
 | execute
 | reconcileOnly
 deriving DecidableEq

inductive CreateDirectoryMode where
 | userVisible
 | trashInternal
 | trashInternalRemoveEmpty
 deriving DecidableEq

structure CreateDirectoryRequest where
 operationId : UInt64 := 0
 action : CreateDirectoryAction := .execute
 mode : CreateDirectoryMode := .userVisible
 destination : Path := ⟨[]⟩
 destinationParentRevisionUtf8 : Bytes := []
 deriving DecidableEq

variable (mode : RenameMode)

def preservesTrashPermissions : Bool:=
 mode = .trashStorePreservePermissions ∨ mode = .trashRestorePreservePermissions

def isTrashStoreMode : Bool := mode = .trashInternal ∨ mode = .trashStorePreservePermissions

def isTrashRestoreMode : Bool := mode = .trashRestore ∨ mode = .trashRestorePreservePermissions

def isTrashPurgeMode (mode : DeleteMode) : Bool:=
 mode = .trashPurge ∨ mode = .trashPurgePreservePermissions

def transferRenameMode : Bool:=
 mode = .transferAtomic ∨ mode = .transferStage ∨ mode = .transferPublish ∨
  mode = .transferRestore ∨ mode = .transferPublishReplace ∨ mode = .transferAtomicReplace ∨
  mode = .transferOverwriteStage ∨ mode = .transferOverwriteRestore

def transferDeleteMode (mode : DeleteMode) : Bool:=
 mode = .transferTempCleanup ∨ mode = .transferSourceCommit ∨ mode = .transferOverwriteCleanup

/-- What an object of a remounted share still shows of the one that was recorded. -/
def samePrivateTrashPayloadAfterRemount (before after : SourceSnapshot)
  (expectedStorageIdentity observedStorageIdentity : Bytes) : Bool:=
 expectedStorageIdentity≠[] ∧ startsWith expectedStorageIdentity (utf8 "linux-smb:") ∧
  expectedStorageIdentity = observedStorageIdentity ∧ before.sizeBytes = after.sizeBytes ∧
  isPosixRevision before.sourceRevisionUtf8 ∧ isPosixRevision after.sourceRevisionUtf8 ∧
  timestampsWithinTolerance before.modifiedUnixNs after.modifiedUnixNs timestampToleranceNs

def samePathSpelling (source destination : Path) : Bool:=
 source.lexicallyNormal.native = destination.lexicallyNormal.native

def sameExtension (source destination : Path) : Bool:=
 source.extension.native = destination.extension.native

def trashItemPrefix : Bytes := utf8 "item-"

def lowerHexDigit (character : UInt8) : Bool:=
 (48 ≤ character ∧ character ≤ 57) ∨ (97 ≤ character ∧ character ≤ 102)

variable (path : Path)

def isTrashContainer : Bool:=
 let filename:=path.filename.native
 isTrashFilename filename && decide (filename.length > kTrashFilenamePrefix.length) &&
  (filename.drop kTrashFilenamePrefix.length).all lowerHexDigit

def isTrashItem : Bool:=
 let filename:=path.filename.native
 startsWith filename trashItemPrefix && decide (filename.length > trashItemPrefix.length) &&
  isTrashContainer path.parentPath && (filename.drop trashItemPrefix.length).all lowerHexDigit

/-- The loop over a path and its parents, with the number of its turns. -/
def hasTrashItem : ℕ → Path → Bool
 | 0, _=>false
 | turns+1, candidate=>
  if candidate.isEmpty then false
  else if isTrashItem candidate then true
  else if candidate.parentPath.same candidate then false
  else hasTrashItem turns candidate.parentPath

def isOwnedTrashPayloadPath : Bool:=
 let normalized:=path.lexicallyNormal
 samePathSpelling path normalized && hasTrashItem (normalized.native.length+1) normalized

def transferSourceName : Bool := startsWith path.filename.native kTransferSourceFilenamePrefix

def transferDestinationName : Bool:=
 startsWith path.filename.native kTransferDestinationFilenamePrefix

def transferOverwriteBackupName : Bool:=
 startsWith path.filename.native kTransferOverwriteBackupFilenamePrefix

def isReplacement : Bool := mode = .transferPublishReplace ∨ mode = .transferAtomicReplace

def isSingleMode : Bool := mode = .singlePreserveExtension ∨ mode = .singleAllowExtensionChange

/-- An identity is typed: it is its own stable part, and not the weak Windows form. -/
def typedIdentity (identity : Bytes) : Bool:=
 stableObjectIdentity identity = identity ∧ ¬startsWith identity winFile

def hasColon : Bool := path.filename.native.contains colon

variable (request : RenameRequest)

/-- The reserved names a transfer step may take its object between. -/
def transferShape : Bool:=
 let sameParent:=samePathSpelling request.source.parentPath request.destination.parentPath
 let visibleSource:=!isTransferFilename request.source.filename.native
 let visibleDestination:=!isTransferFilename request.destination.filename.native
 match request.mode with
 | .transferAtomic | .transferAtomicReplace=>visibleSource && visibleDestination
 | .transferStage=>sameParent && visibleSource && transferSourceName request.destination
 | .transferPublish | .transferPublishReplace=>
  sameParent && transferDestinationName request.source && visibleDestination
 | .transferRestore=>sameParent && transferSourceName request.source && visibleDestination
 | .transferOverwriteStage=>
  sameParent && visibleSource && transferOverwriteBackupName request.destination
 | .transferOverwriteRestore=>
  sameParent && transferOverwriteBackupName request.source && visibleDestination
 | _=>false

def trashShape : Bool:=
 (isTrashStoreMode request.mode && !isTrashItem request.source && isTrashItem request.destination) ||
  (isTrashRestoreMode request.mode && isTrashItem request.source &&
   !isTrashItem request.destination)

def replacementAuthorized : Bool:=
 let expected:=request.expectedDestination.sourceRevisionUtf8
 if isReplacement request.mode then
  expected≠[] ∧ request.destinationAnchorPath.isEmpty ∧ stableObjectIdentity expected≠[] ∧
   ¬startsWith expected winFile ∧
   ¬sameObjectIdentity request.expectedSource.sourceRevisionUtf8 expected
 else expected = []

def anchorSafe : Bool:=
 let hasPath:=!request.destinationAnchorPath.isEmpty
 let identity:=request.destinationAnchorIdentityUtf8
 hasPath = decide (identity≠[]) ∧
  (hasPath → transferRenameMode request.mode ∧ request.destinationAnchorPath.isAbsolute ∧
   validUtf8 request.destinationAnchorPath.native ∧ typedIdentity identity)

def trashStorageConsistent (identity : Bytes) : Bool:=
 identity = [] ∨ (validUtf8WithoutNul identity ∧ startsWith identity (utf8 "linux-smb:"))

def validRenameRequest : Except Bytes Unit := do
 let single:=isSingleMode request.mode
 let ordinary:=single || decide (request.mode = .batchInternal)
 let trash:=isTrashStoreMode request.mode || isTrashRestoreMode request.mode
 let directory:=decide (request.objectKind = .directory)
 let expected:=request.expectedSource.sourceRevisionUtf8
 require (!preservesTrashPermissions request.mode)
  (utf8 "preserved Trash permissions require Windows")
 require (request.trashSecurityBaselineSddlUtf8 = [])
  (utf8 "security baseline is incompatible with rename mode")
 require (replacementAuthorized request)
  (utf8 "replacement requires a distinct authorized destination snapshot")
 require (ordinary || trash || transferRenameMode request.mode) (utf8 "rename mode is invalid")
 require (!directory || ordinary || trash)
  (utf8 "directory rename requires same-parent rename or VO-VE Trash")
 require (request.operationId≠0 ∧ request.source.isEmpty = false ∧
   request.destination.isEmpty = false ∧ expected≠[]) (utf8 "rename request is incomplete")
 require (request.source.isAbsolute && request.destination.isAbsolute)
  (utf8 "rename paths must be absolute")
 require (validUtf8 request.source.native && validUtf8 request.destination.native)
  (utf8 "rename paths must contain valid UTF-8")
 require (anchorSafe request) (utf8 "rename destination anchor is incomplete or unsafe")
 require (!request.source.same request.destination)
  (utf8 "source and destination paths are identical")
 if ordinary then
  require (samePathSpelling request.source.parentPath request.destination.parentPath)
   (utf8 "single rename must stay inside the current directory")
 else
  require (trashShape request || transferShape request)
   (utf8 "internal rename has an invalid reserved-path shape")
 validDestinationFilename request.destination.filename
 require (!single || !isInternalFilename request.destination.filename.native)
  (utf8 "rename destination uses a reserved VO-VE filename")
 require (directory || decide (request.mode≠.singlePreserveExtension) ||
   sameExtension request.source request.destination)
  (utf8 "rename cannot change the file extension")
 require (!trash || isPosixRevision expected)
  (utf8 "VO-VE Trash requires a typed POSIX source identity")
 require (!trash || trashStorageConsistent request.sourceParentIdentityUtf8)
  (utf8 "rename request storage identity is inconsistent with its mode")
 require (!transferRenameMode request.mode || (typedIdentity request.sourceParentIdentityUtf8 &&
   typedIdentity request.destinationParentIdentityUtf8 && !hasColon request.source &&
   !hasColon request.destination && !startsWith expected winFile))
  (utf8 "file transfer rename requires typed source and parent identities")
 require (stableObjectIdentity expected≠[]) (utf8 "rename request has no stable source identity")

def transferDeleteGuarded (request : DeleteRequest) : Bool:=
 let cleanup:=request.mode = .transferTempCleanup ∨ request.mode = .transferOverwriteCleanup
 let shape:=
  if request.mode = .transferTempCleanup then transferDestinationName request.source
  else if request.mode = .transferOverwriteCleanup then transferOverwriteBackupName request.source
  else transferSourceName request.source && !request.guardPath.isEmpty &&
   request.guardPath.isAbsolute && !isTransferFilename request.guardPath.filename.native
 shape && typedIdentity request.sourceParentIdentityUtf8 && !hasColon request.source &&
  !startsWith request.expectedSource.sourceRevisionUtf8 winFile &&
  decide (cleanup ∨ (stableObjectIdentity request.expectedGuard.sourceRevisionUtf8≠[] ∧
   typedIdentity request.guardParentIdentityUtf8 ∧ ¬hasColon request.guardPath ∧
   ¬startsWith request.expectedGuard.sourceRevisionUtf8 winFile ∧
   validUtf8 request.guardPath.native))

/-- A cleanup carries no guard. -/
def unguarded (request : DeleteRequest) : Bool:=
 request.guardPath.isEmpty ∧ request.expectedGuard = {} ∧ request.guardParentIdentityUtf8 = []

def validDeleteRequest (request : DeleteRequest) : Except Bytes Unit := do
 let purge:=isTrashPurgeMode request.mode
 let transfer:=transferDeleteMode request.mode
 let expected:=request.expectedSource.sourceRevisionUtf8
 require (request.mode≠.trashPurgePreservePermissions)
  (utf8 "preserved Trash permissions require Windows")
 require (request.trashSecurityBaselineSddlUtf8 = [])
  (utf8 "security baseline is incompatible with delete mode")
 require (request.mode = .permanentRemote || purge || transfer) (utf8 "delete mode is invalid")
 require (request.objectKind≠.directory || purge)
  (utf8 "directory deletion is restricted to VO-VE Trash purge")
 require (request.operationId≠0 ∧ request.source.isEmpty = false ∧ expected≠[])
  (utf8 "delete request is incomplete")
 require request.source.isAbsolute (utf8 "delete source path must be absolute")
 require (validUtf8 request.source.native) (utf8 "delete source path must contain valid UTF-8")
 require (!transfer || transferDeleteGuarded request)
  (utf8 "file transfer delete has invalid ownership guards")
 require (decide (request.mode≠.transferTempCleanup ∧ request.mode≠.transferOverwriteCleanup) ||
   unguarded request) (utf8 "transfer cleanup cannot carry a publication guard")
 require (stableObjectIdentity expected≠[]) (utf8 "delete request has no stable source identity")
 require (!purge || (isOwnedTrashPayloadPath request.source && isPosixRevision expected))
  (utf8 "trash purge requires an owned item and a typed POSIX identity")
 require (!purge || trashStorageConsistent request.sourceParentIdentityUtf8)
  (utf8 "delete request storage identity is inconsistent with its mode")

def validCreateDirectoryRequest (request : CreateDirectoryRequest) : Except Bytes Unit := do
 let userVisible:=decide (request.mode = .userVisible)
 let parent:=request.destinationParentRevisionUtf8
 let filename:=request.destination.filename
 require (request.operationId≠0 ∧ request.destination.isEmpty = false ∧
   (request.mode = .userVisible → parent≠[])) (utf8 "create-directory request is incomplete")
 require (request.destination.isAbsolute && !request.destination.parentPath.isEmpty)
  (utf8 "create-directory destination must be absolute and have a parent")
 require (validUtf8 request.destination.native && validUtf8 parent)
  (utf8 "create-directory request text must contain valid UTF-8")
 validDestinationFilename filename
 require (parent = [] ∨ stableObjectIdentity parent≠[])
  (utf8 "create-directory request has an invalid name or parent identity")
 require (!userVisible || !isInternalFilename filename.native)
  (utf8 "create-directory request uses a reserved VO-VE name")
 require (userVisible ||
   decide (filename.native = kTrashFilenamePrefix++toChars 16 request.operationId.toNat))
  (utf8 "trash container name does not match its operation")

def RenameAccepted : Prop := validRenameRequest request = .ok ()
def DeleteAccepted (request : DeleteRequest) : Prop := validDeleteRequest request = .ok ()
def CreateDirectoryAccepted (request : CreateDirectoryRequest) : Prop:=
 validCreateDirectoryRequest request = .ok ()

instance (request : RenameRequest) : Decidable (RenameAccepted request):=
 inferInstanceAs (Decidable (_ = _))
instance (request : DeleteRequest) : Decidable (DeleteAccepted request):=
 inferInstanceAs (Decidable (_ = _))
instance (request : CreateDirectoryRequest) : Decidable (CreateDirectoryAccepted request):=
 inferInstanceAs (Decidable (_ = _))

end VoVe.OperationValidation
