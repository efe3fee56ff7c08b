import VoVe.FileTransferProtocolExact
import VoVe.OperationValidation

set_option autoImplicit false

namespace VoVe.FileOperationProtocol
open ByteCodec AsciiText Checks TransactionCodec FileOperation OperationRequest OperationValidation
open FileTransferProtocol (appendSnapshot readSnapshot)
open FileTransferProtocolExact (snapshot_bind takes_snapshot)

def kFileOperationProtocolVersion : UInt32 := 17
def kMaximumOperationPayloadBytes : ℕ := 64*1024

def requestMagic : UInt32 := 0x31524f46
def deleteRequestMagic : UInt32 := 0x31444f46
def createDirectoryRequestMagic : UInt32 := 0x31434f46
def resultMagic : UInt32 := 0x31534f46

inductive OperationRequestKind where
 | rename
 | permanentDelete
 | createDirectory
 deriving DecidableEq

instance : WireEnum RenameAction where
 values:=[.execute,.reconcileOnly]
 complete a := by cases a<;>decide
 small:=by decide

instance : WireEnum RenameMode where
 values:=[.singlePreserveExtension,.batchInternal,.trashInternal,.trashRestore,
  .transferAtomic,.transferStage,.transferPublish,.transferRestore,
  .singleAllowExtensionChange,.transferPublishReplace,.transferAtomicReplace,
  .transferOverwriteStage,.transferOverwriteRestore,.trashStorePreservePermissions,
  .trashRestorePreservePermissions]
 complete a := by cases a<;>decide
 small:=by decide

instance : WireEnum DeleteAction where
 values:=[.execute,.reconcileOnly]
 complete a := by cases a<;>decide
 small:=by decide

instance : WireEnum DeleteMode where
 values:=[.permanentRemote,.trashPurge,.transferTempCleanup,.transferSourceCommit,
  .transferOverwriteCleanup,.trashPurgePreservePermissions]
 complete a := by cases a<;>decide
 small:=by decide

instance : WireEnum CreateDirectoryAction where
 values:=[.execute,.reconcileOnly]
 complete a := by cases a<;>decide
 small:=by decide

instance : WireEnum CreateDirectoryMode where
 values:=[.userVisible,.trashInternal,.trashInternalRemoveEmpty]
 complete a := by cases a<;>decide
 small:=by decide

def frameLimit (payloadTooLarge : String) : PayloadLimit where
 maximumPayloadBytes:=kMaximumOperationPayloadBytes
 stringTooLarge:=utf8 "catalog protocol string is too large"
 payloadTooLarge:=utf8 payloadTooLarge

/-- The fields rename and delete requests begin with, as they stand in a frame. -/
structure RequestFields where
 magic : UInt32
 version : UInt32 := kFileOperationProtocolVersion
 operationId : UInt64
 action : UInt8
 mode : UInt8
 objectKind : UInt8
 reserved : UInt8 := 0
 sizeBytes : UInt64
 modifiedUnixNs : Int64

def appendFields (fields : RequestFields) : Bytes:=
 appendInteger fields.magic++(appendInteger fields.version ++
  (appendInteger fields.operationId++(appendInteger fields.action ++
  (appendInteger fields.mode++(appendInteger fields.objectKind ++
  (appendInteger fields.reserved++(appendInteger fields.sizeBytes ++
  appendInteger fields.modifiedUnixNs)))))))

def readFields : Reader RequestFields := do
 let magic ← Reader.readInteger UInt32
 let version ← Reader.readInteger UInt32
 let operationId ← Reader.readInteger UInt64
 let action ← Reader.readInteger UInt8
 let mode ← Reader.readInteger UInt8
 let objectKind ← Reader.readInteger UInt8
 let reserved ← Reader.readInteger UInt8
 let sizeBytes ← Reader.readInteger UInt64
 let modifiedUnixNs ← Reader.readInteger Int64
 pure { magic:=magic,version:=version,operationId:=operationId,action:=action,
        mode:=mode,objectKind := objectKind,reserved := reserved,sizeBytes := sizeBytes,
        modifiedUnixNs:=modifiedUnixNs }

/-- The enumerators of a frame that is compatible and read to its end. -/
def compatible (Action Mode : Type) [DecidableEq Action] [WireEnum Action] [DecidableEq Mode]
  [WireEnum Mode] (magic : UInt32) (fields : RequestFields) (rest : Bytes):
  Option (Action × Mode × OperationObjectKind) := do
 let action ← enumOfCode fields.action
 let mode ← enumOfCode fields.mode
 let objectKind ← enumOfCode fields.objectKind
 if fields.magic = magic ∧ fields.version = kFileOperationProtocolVersion ∧
   fields.reserved = 0 ∧ rest = [] then some (action,mode,objectKind)
 else none

variable (request : RenameRequest)

def renameFields : RequestFields where
 magic:=requestMagic
 operationId:=request.operationId
 action:=enumCode request.action
 mode:=enumCode request.mode
 objectKind:=enumCode request.objectKind
 sizeBytes:=request.expectedSource.sizeBytes
 modifiedUnixNs:=request.expectedSource.modifiedUnixNs

def renameTexts : List Bytes:=
 [request.source.native,request.destination.native,request.expectedSource.sourceRevisionUtf8,
  request.sourceParentIdentityUtf8,request.destinationParentIdentityUtf8,
  request.destinationAnchorPath.native,request.destinationAnchorIdentityUtf8]

def appendReplacement : Bytes:=
 if isReplacement request.mode then appendSnapshot request.expectedDestination else []

def replacementTexts : List Bytes:=
 if isReplacement request.mode then [request.expectedDestination.sourceRevisionUtf8] else []

def renamePayload : Bytes:=
 appendFields (renameFields request)++((renameTexts request).flatMap appendString ++
  (appendReplacement request++appendString request.trashSecurityBaselineSddlUtf8))

def encodeRenameRequest : Except Thrown Bytes:=
 (frameLimit "file operation request exceeds the protocol limit").finish
  (renameTexts request++(replacementTexts request++[request.trashSecurityBaselineSddlUtf8]))
  (renamePayload request)

/-- A request whose enumerators and replacement are still to be read. -/
def readRename : Reader (RequestFields × RenameRequest) := do
 let fields ← readFields
 let source ← Reader.readString
 let destination ← Reader.readString
 let sourceRevisionUtf8 ← Reader.readString
 let sourceParentIdentityUtf8 ← Reader.readString
 let destinationParentIdentityUtf8 ← Reader.readString
 let destinationAnchor ← Reader.readString
 let destinationAnchorIdentityUtf8 ← Reader.readString
 pure (fields,
  { operationId:=fields.operationId,source:=⟨source⟩,destination:=⟨destination⟩,
    expectedSource:={ sizeBytes:=fields.sizeBytes,modifiedUnixNs:=fields.modifiedUnixNs,
                      sourceRevisionUtf8:=sourceRevisionUtf8 },
    sourceParentIdentityUtf8:=sourceParentIdentityUtf8,
    destinationParentIdentityUtf8:=destinationParentIdentityUtf8,
    destinationAnchorPath:=⟨destinationAnchor⟩,
    destinationAnchorIdentityUtf8:=destinationAnchorIdentityUtf8 })

def readReplacement (mode : UInt8) : Reader SourceSnapshot:=
 if (enumOfCode mode : Option RenameMode).any isReplacement then readSnapshot else pure {}

def renameTextsValid : Bool:=
 (renameTexts request++[request.expectedDestination.sourceRevisionUtf8]).all
  validUtf8WithoutNul

variable (payload : Bytes)

def decodeRenameRequest : Except Bytes RenameRequest := do
 require (payload.length ≤ kMaximumOperationPayloadBytes)
  (utf8 "file operation request exceeds the protocol limit")
 let ((fields,request),rest) ← found (readRename.run payload)
  (utf8 "file operation request is truncated")
 let (expectedDestination,rest) ← found ((readReplacement fields.mode).run rest)
  (utf8 "file replacement authorization is truncated")
 let (baseline,rest) ← found (Reader.readString.run rest)
  (utf8 "Trash security baseline is truncated")
 let (action,mode,objectKind) ← found
  (compatible RenameAction RenameMode requestMagic fields rest)
  (utf8 "file operation request is incompatible")
 let decoded:={ request with
  action:=action,mode := mode,objectKind := objectKind,
  expectedDestination:=expectedDestination,trashSecurityBaselineSddlUtf8 := baseline }
 require (renameTextsValid decoded) (utf8 "file operation request text is invalid UTF-8")
 validRenameRequest decoded
 pure decoded

def deleteFields (request : DeleteRequest) : RequestFields where
 magic:=deleteRequestMagic
 operationId:=request.operationId
 action:=enumCode request.action
 mode:=enumCode request.mode
 objectKind:=enumCode request.objectKind
 sizeBytes:=request.expectedSource.sizeBytes
 modifiedUnixNs:=request.expectedSource.modifiedUnixNs

def deleteTexts (request : DeleteRequest) : List Bytes:=
 [request.source.native,request.expectedSource.sourceRevisionUtf8,
  request.sourceParentIdentityUtf8,request.guardPath.native,
  request.expectedGuard.sourceRevisionUtf8,request.guardParentIdentityUtf8]

def deletePayload (request : DeleteRequest) : Bytes:=
 appendFields (deleteFields request)++(appendString request.source.native ++
  (appendString request.expectedSource.sourceRevisionUtf8 ++
  (appendString request.sourceParentIdentityUtf8++(appendString request.guardPath.native ++
  (appendSnapshot request.expectedGuard++(appendString request.guardParentIdentityUtf8 ++
  appendString request.trashSecurityBaselineSddlUtf8))))))

def encodeDeleteRequest (request : DeleteRequest) : Except Thrown Bytes:=
 (frameLimit "delete request exceeds the protocol limit").finish
  (deleteTexts request++[request.trashSecurityBaselineSddlUtf8]) (deletePayload request)

def readDelete : Reader (RequestFields × DeleteRequest) := do
 let fields ← readFields
 let source ← Reader.readString
 let sourceRevisionUtf8 ← Reader.readString
 let sourceParentIdentityUtf8 ← Reader.readString
 let guardPath ← Reader.readString
 let expectedGuard ← readSnapshot
 let guardParentIdentityUtf8 ← Reader.readString
 let baseline ← Reader.readString
 pure (fields,
  { operationId:=fields.operationId,source:=⟨source⟩,
    expectedSource:={ sizeBytes:=fields.sizeBytes,modifiedUnixNs:=fields.modifiedUnixNs,
                      sourceRevisionUtf8:=sourceRevisionUtf8 },
    sourceParentIdentityUtf8:=sourceParentIdentityUtf8,guardPath := ⟨guardPath⟩,
    expectedGuard:=expectedGuard,guardParentIdentityUtf8 := guardParentIdentityUtf8,
    trashSecurityBaselineSddlUtf8:=baseline })

def decodeDeleteRequest : Except Bytes DeleteRequest := do
 require (payload.length ≤ kMaximumOperationPayloadBytes)
  (utf8 "delete request exceeds the protocol limit")
 let ((fields,request),rest) ← found (readDelete.run payload)
  (utf8 "delete request is truncated")
 let (action,mode,objectKind) ← found
  (compatible DeleteAction DeleteMode deleteRequestMagic fields rest)
  (utf8 "delete request is incompatible")
 let decoded:={ request with action:=action,mode:=mode,objectKind:=objectKind }
 require ((deleteTexts decoded).all validUtf8WithoutNul)
  (utf8 "delete request text is invalid UTF-8")
 validDeleteRequest decoded
 pure decoded

def createDirectoryTexts (request : CreateDirectoryRequest) : List Bytes:=
 [request.destination.native,request.destinationParentRevisionUtf8]

def createDirectoryPayload (request : CreateDirectoryRequest) : Bytes:=
 appendInteger createDirectoryRequestMagic++(appendInteger kFileOperationProtocolVersion ++
  (appendInteger request.operationId++(appendEnum request.action ++
  (appendEnum request.mode++(appendInteger (0 : UInt16) ++
  (createDirectoryTexts request).flatMap appendString)))))

def encodeCreateDirectoryRequest (request : CreateDirectoryRequest) : Except Thrown Bytes:=
 (frameLimit "create-directory request exceeds the protocol limit").finish
  (createDirectoryTexts request) (createDirectoryPayload request)

structure CreateDirectoryFields where
 magic : UInt32
 version : UInt32
 operationId : UInt64
 action : UInt8
 mode : UInt8
 reserved : UInt16
 destination : Bytes
 destinationParentRevisionUtf8 : Bytes

def readCreateDirectory : Reader CreateDirectoryFields := do
 let magic ← Reader.readInteger UInt32
 let version ← Reader.readInteger UInt32
 let operationId ← Reader.readInteger UInt64
 let action ← Reader.readInteger UInt8
 let mode ← Reader.readInteger UInt8
 let reserved ← Reader.readInteger UInt16
 let destination ← Reader.readString
 let destinationParentRevisionUtf8 ← Reader.readString
 pure { magic:=magic,version:=version,operationId:=operationId,action:=action,
        mode:=mode,reserved := reserved,destination := destination,
        destinationParentRevisionUtf8:=destinationParentRevisionUtf8 }

def compatibleDirectory (fields : CreateDirectoryFields) (rest : Bytes):
  Option CreateDirectoryRequest := do
 let action ← enumOfCode fields.action
 let mode ← enumOfCode fields.mode
 if fields.magic = createDirectoryRequestMagic ∧
   fields.version = kFileOperationProtocolVersion ∧ fields.reserved = 0 ∧ rest = [] then
  some { operationId:=fields.operationId,action:=action,mode:=mode,
         destination:=⟨fields.destination⟩,
         destinationParentRevisionUtf8:=fields.destinationParentRevisionUtf8 }
 else none

def decodeCreateDirectoryRequest : Except Bytes CreateDirectoryRequest := do
 require (payload.length ≤ kMaximumOperationPayloadBytes)
  (utf8 "create-directory request exceeds the protocol limit")
 let (fields,rest) ← found (readCreateDirectory.run payload)
  (utf8 "create-directory request is truncated")
 let decoded ← found (compatibleDirectory fields rest)
  (utf8 "create-directory request is incompatible")
 require ((createDirectoryTexts decoded).all validUtf8WithoutNul)
  (utf8 "create-directory request text is invalid UTF-8")
 validCreateDirectoryRequest decoded
 pure decoded

def kindOfMagic (magic : UInt32) : Option OperationRequestKind:=
 if magic = requestMagic then some .rename
 else if magic = deleteRequestMagic then some .permanentDelete
 else if magic = createDirectoryRequestMagic then some .createDirectory
 else none

def readRequestHeader : Reader (UInt32 × UInt32) := do
 let magic ← Reader.readInteger UInt32
 let version ← Reader.readInteger UInt32
 pure (magic,version)

def decodeOperationRequestKind : Except Bytes OperationRequestKind := do
 require (payload.length ≤ kMaximumOperationPayloadBytes)
  (utf8 "file operation request exceeds the protocol limit")
 let ((magic,version),_) ← found (readRequestHeader.run payload)
  (utf8 "file operation request is truncated")
 require (version = kFileOperationProtocolVersion)
  (utf8 "file operation request version is incompatible")
 found (kindOfMagic magic) (utf8 "file operation request kind is unknown")

/-- Two bits of the flags stand for the evidence. -/
def evidenceFlags : OperationEvidence → UInt8
 | .none=>0
 | .committed=>0x10
 | .noCommit=>0x20
 | .conflicting=>0x30

def evidenceOfFlags (flags : UInt8) : OperationEvidence:=
 if flags &&& 0x30 = 0x10 then .committed
 else if flags &&& 0x30 = 0x20 then .noCommit
 else if flags &&& 0x30 = 0x30 then .conflicting
 else .none

variable (result : OperationResult)

def resultFlags : UInt8:=
 (if result.sourcePresent then 0x01 else 0) ||| (if result.destinationPresent then 0x02 else 0) |||
  (if result.destinationMatchesSource then 0x04 else 0) |||
  (if result.sourceMatchesExpected then 0x08 else 0) ||| evidenceFlags result.evidence

def operationResultTexts : List Bytes:=
 [result.confirmedSnapshot.sourceRevisionUtf8,result.detailUtf8]

def operationResultPayload : Bytes:=
 appendInteger resultMagic++(appendInteger kFileOperationProtocolVersion ++
  (appendInteger result.operationId++(appendEnum result.status ++
  (appendInteger (resultFlags result)++(appendInteger (0 : UInt16) ++
  (appendInteger result.platformCode++(appendSnapshot result.confirmedSnapshot ++
  appendString result.detailUtf8)))))))

def encodeOperationResult : Except Thrown Bytes:=
 (frameLimit "file operation result exceeds the protocol limit").finish
  (operationResultTexts result) (operationResultPayload result)

structure OperationResultFields where
 magic : UInt32
 version : UInt32
 operationId : UInt64
 status : UInt8
 flags : UInt8
 reserved : UInt16
 platformCode : Int64
 confirmedSnapshot : SourceSnapshot
 detailUtf8 : Bytes

def readOperationResult : Reader OperationResultFields := do
 let magic ← Reader.readInteger UInt32
 let version ← Reader.readInteger UInt32
 let operationId ← Reader.readInteger UInt64
 let status ← Reader.readInteger UInt8
 let flags ← Reader.readInteger UInt8
 let reserved ← Reader.readInteger UInt16
 let platformCode ← Reader.readInteger Int64
 let confirmedSnapshot ← readSnapshot
 let detailUtf8 ← Reader.readString
 pure { magic:=magic,version:=version,operationId:=operationId,status:=status,
        flags:=flags,reserved := reserved,platformCode := platformCode,
        confirmedSnapshot:=confirmedSnapshot,detailUtf8 := detailUtf8 }

def resultOfFields (fields : OperationResultFields) (rest : Bytes) : Option OperationResult := do
 let status ← enumOfCode fields.status
 if fields.magic = resultMagic ∧ fields.version = kFileOperationProtocolVersion ∧
   fields.reserved = 0 ∧ fields.flags &&& 0xc0 = 0 ∧ rest = [] then
  some { operationId:=fields.operationId
         status:=status
         evidence:=evidenceOfFlags fields.flags
         platformCode:=fields.platformCode
         sourcePresent:=fields.flags &&& 0x01≠0
         sourceMatchesExpected:=fields.flags &&& 0x08≠0
         destinationPresent:=fields.flags &&& 0x02≠0
         destinationMatchesSource:=fields.flags &&& 0x04≠0
         confirmedSnapshot:=fields.confirmedSnapshot
         detailUtf8:=fields.detailUtf8 }
 else none

def decodeOperationResult : Except Bytes OperationResult := do
 require (payload.length ≤ kMaximumOperationPayloadBytes)
  (utf8 "file operation result exceeds the protocol limit")
 let (fields,rest) ← found (readOperationResult.run payload)
  (utf8 "file operation result is truncated")
 let decoded ← found (resultOfFields fields rest) (utf8 "file operation result is invalid")
 require ((operationResultTexts decoded).all validUtf8WithoutNul)
  (utf8 "file operation result text is invalid UTF-8")
 pure decoded

end VoVe.FileOperationProtocol
