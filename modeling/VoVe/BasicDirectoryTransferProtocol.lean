import VoVe.BasicDirectoryPlan
import VoVe.FileTransferProtocol

set_option autoImplicit false

namespace VoVe.BasicDirectoryTransferProtocol
open ByteCodec AsciiText PosixPath Checks TransactionCodec
open BasicDirectoryPlan (BasicDirectoryTransferStatus)
open FileTransferProtocol (whole)

def kBasicDirectoryTransferProtocolVersion : UInt32 := 5
def kMaximumBasicDirectoryTransferProtocolBytes : ℕ := 64*1024

def requestMagic : UInt32 := 0x31514442
def progressMagic : UInt32 := 0x31504442
def resultMagic : UInt32 := 0x31534442
def completionAckMagic : UInt32 := 0x31414442

inductive BasicDirectoryTransferCommand where
 | copy
 | move
 | resume
 | discoverAndResume
 | discoverAndDiscard
 | discard
 deriving DecidableEq

instance : WireEnum BasicDirectoryTransferCommand where
 values:=[.copy,.move,.resume,.discoverAndResume,.discoverAndDiscard,.discard]
 complete a := by cases a<;>decide
 small:=by decide

inductive BasicDirectoryTransferPhase where
 | enumerating
 | stagingReady
 | copying
 | verifying
 | publishing
 | retiringSource
 | deletingSource
 | completed
 deriving DecidableEq

instance : WireEnum BasicDirectoryTransferPhase where
 values:=[.enumerating,.stagingReady,.copying,.verifying,.publishing,.retiringSource,
  .deletingSource,.completed]
 complete a := by cases a<;>decide
 small:=by decide

instance : WireEnum BasicDirectoryTransferStatus where
 values:=[.success,.movePendingPublication,.invalidRequest,.notFound,.conflict,
  .sourceChanged,.stagingChanged,.permissionDenied,.authenticationRequired,.disconnected,
  .timedOut,.unsupported,.recoveryRequired,.unknownOutcome,.ioError,.fileInUse]
 complete a := by cases a<;>decide
 small:=by decide

inductive BasicDirectoryTransferMessageKind where
 | progress
 | complete
 deriving DecidableEq

structure BasicDirectoryTransferStreamRequest where
 requestId : UInt64 := 0
 operationId : UInt64 := 0
 command : BasicDirectoryTransferCommand := .copy
 source : Path := ⟨[]⟩
 destination : Path := ⟨[]⟩
 manifestPath : Path := ⟨[]⟩
 expectedSourceRevisionUtf8 : Bytes := []
 deriving DecidableEq

structure BasicDirectoryTransferCompletionAck where
 requestId : UInt64 := 0
 deriving DecidableEq

structure BasicDirectoryTransferProgress where
 phase : BasicDirectoryTransferPhase := .enumerating
 completedEntries : UInt64 := 0
 totalEntries : UInt64 := 0
 completedBytes : UInt64 := 0
 totalBytes : UInt64 := 0
 currentPath : Path := ⟨[]⟩
 deriving DecidableEq

structure BasicDirectoryTransferProgressFrame where
 requestId : UInt64 := 0
 progress : BasicDirectoryTransferProgress := {}
 deriving DecidableEq

inductive ErrorCategory where
 | generic
 | system
 | other (name : Bytes)
 deriving DecidableEq

structure ErrorCode where
 value : Int32 := 0
 category : ErrorCategory := .system
 deriving DecidableEq

structure BasicDirectoryTransferResult where
 status : BasicDirectoryTransferStatus := .ioError
 error : ErrorCode := {}
 platformCode : Int64 := 0
 completedEntries : UInt64 := 0
 completedBytes : UInt64 := 0
 stagingDestination : Path := ⟨[]⟩
 destination : Path := ⟨[]⟩
 manifestPath : Path := ⟨[]⟩
 detailUtf8 : Bytes := []
 recoveryAvailable : Bool := false
 deriving DecidableEq

structure BasicDirectoryTransferResultFrame where
 requestId : UInt64 := 0
 result : BasicDirectoryTransferResult := {}
 deriving DecidableEq

def validText (text : Bytes) : Bool:=
 text.length ≤ kMaximumBasicDirectoryTransferProtocolBytes ∧ validUtf8WithoutNul text

def absolutePathOrEmpty (path : Path) : Bool := path.isEmpty ∨ path.isAbsolute

variable (magic : UInt32)

def appendHeader : Bytes:=
 appendInteger magic++appendInteger kBasicDirectoryTransferProtocolVersion

def header : Reader Unit := do
 let found ← Reader.readInteger UInt32
 let version ← Reader.readInteger UInt32
 Reader.check (found = magic ∧ version = kBasicDirectoryTransferProtocolVersion)

def frameLimit (payloadTooLarge : String) : PayloadLimit where
 maximumPayloadBytes:=kMaximumBasicDirectoryTransferProtocolBytes
 stringTooLarge:=utf8 "catalog protocol string is too large"
 payloadTooLarge:=utf8 payloadTooLarge

variable (request : BasicDirectoryTransferStreamRequest)

def requestTexts : List Bytes:=
 [request.source.native,request.destination.native,request.manifestPath.native,
  request.expectedSourceRevisionUtf8]

def validBasicDirectoryTransferStreamRequest:
  Except Bytes Unit:=
 let exact:=request.command = .resume ∨ request.command = .discard
 require (request.requestId≠0 ∧ request.operationId≠0 ∧ request.source.isAbsolute ∧
   request.destination.isAbsolute ∧ request.expectedSourceRevisionUtf8≠[] ∧
   (exact → request.manifestPath.isAbsolute) ∧ (¬exact → request.manifestPath.isEmpty) ∧
   (requestTexts request).all validText)
  (utf8 "basic-directory-transfer request is incomplete or unsafe")

def requestPayload : Bytes:=
 appendHeader requestMagic++(appendInteger request.requestId ++
  (appendInteger request.operationId++(appendEnum request.command ++
  (appendInteger (0 : UInt8)++(appendInteger (0 : UInt16) ++
  (requestTexts request).flatMap appendString)))))

def encodeBasicDirectoryTransferStreamRequest:
  Except Thrown Bytes := do
 throwInvalid (validBasicDirectoryTransferStreamRequest request)
 (frameLimit "basic-directory-transfer request exceeds its protocol limit").finish
  (requestTexts request) (requestPayload request)

def readRequest : Reader BasicDirectoryTransferStreamRequest := do
 header requestMagic
 let requestId ← Reader.readInteger UInt64
 let operationId ← Reader.readInteger UInt64
 let command ← Reader.readEnum BasicDirectoryTransferCommand
 let reserved8 ← Reader.readInteger UInt8
 let reserved16 ← Reader.readInteger UInt16
 let source ← readText validUtf8WithoutNul
 let destination ← readText validUtf8WithoutNul
 let manifest ← readText validUtf8WithoutNul
 let expectedSourceRevision ← Reader.readString
 Reader.check (reserved8 = 0 ∧ reserved16 = 0)
 pure { requestId:=requestId,operationId:=operationId,command:=command,
        source:=⟨source⟩,destination := ⟨destination⟩,manifestPath := ⟨manifest⟩,
        expectedSourceRevisionUtf8:=expectedSourceRevision }

variable (payload : Bytes)

def decodeBasicDirectoryTransferStreamRequest:
  Except Bytes BasicDirectoryTransferStreamRequest := do
 require (payload.length ≤ kMaximumBasicDirectoryTransferProtocolBytes)
  (utf8 "basic-directory-transfer request exceeds its protocol limit")
 let decoded ← found (whole readRequest payload)
  (utf8 "basic-directory-transfer request is invalid or truncated")
 validBasicDirectoryTransferStreamRequest decoded
 pure decoded

variable (ack : BasicDirectoryTransferCompletionAck)

def ackPayload : Bytes := appendHeader completionAckMagic++appendInteger ack.requestId

def encodeBasicDirectoryTransferCompletionAck:
  Except Thrown Bytes := do
 require (ack.requestId≠0)
  (.invalidArgument (utf8 "basic-directory-transfer completion ack is invalid"))
 pure (ackPayload ack)

def readAck : Reader BasicDirectoryTransferCompletionAck := do
 header completionAckMagic
 let requestId ← Reader.readInteger UInt64
 Reader.check (requestId≠0)
 pure { requestId:=requestId }

def decodeBasicDirectoryTransferCompletionAck:
  Except Bytes BasicDirectoryTransferCompletionAck:=
 found (whole readAck payload)
  (utf8 "basic-directory-transfer completion ack is invalid or truncated")

variable (frame : BasicDirectoryTransferProgressFrame)

def progressConsistent : Bool:=
 frame.requestId≠0 ∧ frame.progress.completedEntries ≤ frame.progress.totalEntries ∧
  frame.progress.completedBytes ≤ frame.progress.totalBytes ∧
  absolutePathOrEmpty frame.progress.currentPath

def progressValid : Bool := progressConsistent frame ∧ validText frame.progress.currentPath.native

def progressPayload : Bytes:=
 appendHeader progressMagic++(appendInteger frame.requestId ++
  (appendEnum frame.progress.phase++(appendInteger (0 : UInt8) ++
  (appendInteger (0 : UInt16)++(appendInteger frame.progress.completedEntries ++
  (appendInteger frame.progress.totalEntries++(appendInteger frame.progress.completedBytes ++
  (appendInteger frame.progress.totalBytes ++
  appendString frame.progress.currentPath.native))))))))

/-- The other encoders refuse a payload past the protocol's limit; this one has no
  such check. -/
def encodeBasicDirectoryTransferProgressFrame:
  Except Thrown Bytes := do
 require (progressValid frame)
  (.invalidArgument (utf8 "basic-directory-transfer progress is invalid"))
 pure (progressPayload frame)

def readProgress : Reader BasicDirectoryTransferProgressFrame := do
 header progressMagic
 let requestId ← Reader.readInteger UInt64
 let phase ← Reader.readEnum BasicDirectoryTransferPhase
 let reserved8 ← Reader.readInteger UInt8
 let reserved16 ← Reader.readInteger UInt16
 let completedEntries ← Reader.readInteger UInt64
 let totalEntries ← Reader.readInteger UInt64
 let completedBytes ← Reader.readInteger UInt64
 let totalBytes ← Reader.readInteger UInt64
 let currentPath ← readText validUtf8WithoutNul
 Reader.check (reserved8 = 0 ∧ reserved16 = 0)
 pure { requestId:=requestId,
        progress:={ phase:=phase,completedEntries:=completedEntries,
                    totalEntries:=totalEntries,completedBytes := completedBytes,
                    totalBytes:=totalBytes,currentPath := ⟨currentPath⟩ } }

def decodeBasicDirectoryTransferProgressFrame:
  Except Bytes BasicDirectoryTransferProgressFrame := do
 require (payload.length ≤ kMaximumBasicDirectoryTransferProtocolBytes)
  (utf8 "basic-directory-transfer progress exceeds its protocol limit")
 let decoded ← found (whole readProgress payload)
  (utf8 "basic-directory-transfer progress is invalid or truncated")
 require (progressConsistent decoded)
  (utf8 "basic-directory-transfer progress fields are inconsistent")
 pure decoded

variable (result : BasicDirectoryTransferResult)

def resultTexts : List Bytes:=
 [result.stagingDestination.native,result.destination.native,result.manifestPath.native,
  result.detailUtf8]

def validResult : Bool:=
 absolutePathOrEmpty result.stagingDestination ∧ absolutePathOrEmpty result.destination ∧
  absolutePathOrEmpty result.manifestPath ∧ (resultTexts result).all validText

def resultPayload (frame : BasicDirectoryTransferResultFrame) : Bytes:=
 appendHeader resultMagic++(appendInteger frame.requestId ++
  (appendEnum frame.result.status ++
  (appendInteger (if frame.result.recoveryAvailable then 1 else 0 : UInt8) ++
  (appendInteger (0 : UInt16)++(appendInteger frame.result.platformCode ++
  (appendInteger frame.result.error.value++(appendInteger (0 : UInt32) ++
  (appendInteger frame.result.completedEntries++(appendInteger frame.result.completedBytes ++
  (resultTexts frame.result).flatMap appendString)))))))))

def encodeBasicDirectoryTransferResultFrame (frame : BasicDirectoryTransferResultFrame):
  Except Thrown Bytes := do
 require (frame.requestId≠0 ∧ validResult frame.result)
  (.invalidArgument (utf8 "basic-directory-transfer result is invalid"))
 (frameLimit "basic-directory-transfer result exceeds its protocol limit").finish
  (resultTexts frame.result) (resultPayload frame)

def readResult : Reader BasicDirectoryTransferResultFrame := do
 header resultMagic
 let requestId ← Reader.readInteger UInt64
 let status ← Reader.readEnum BasicDirectoryTransferStatus
 let recovery ← Reader.readInteger UInt8
 let reserved16 ← Reader.readInteger UInt16
 let platformCode ← Reader.readInteger Int64
 let errorValue ← Reader.readInteger Int32
 let reserved32 ← Reader.readInteger UInt32
 let completedEntries ← Reader.readInteger UInt64
 let completedBytes ← Reader.readInteger UInt64
 let staging ← readText validUtf8WithoutNul
 let destination ← readText validUtf8WithoutNul
 let manifest ← readText validUtf8WithoutNul
 let detailUtf8 ← readText validUtf8WithoutNul
 Reader.check (reserved16 = 0 ∧ reserved32 = 0 ∧ recovery ≤ 1)
 pure { requestId:=requestId,
        result:={ status:=status,error:={ value:=errorValue,category:=.generic },
                  platformCode:=platformCode,completedEntries := completedEntries,
                  completedBytes:=completedBytes,stagingDestination := ⟨staging⟩,
                  destination:=⟨destination⟩,manifestPath := ⟨manifest⟩,
                  detailUtf8:=detailUtf8,recoveryAvailable := recovery≠0 } }

def decodeBasicDirectoryTransferResultFrame:
  Except Bytes BasicDirectoryTransferResultFrame := do
 require (payload.length ≤ kMaximumBasicDirectoryTransferProtocolBytes)
  (utf8 "basic-directory-transfer result exceeds its protocol limit")
 let decoded ← found (whole readResult payload)
  (utf8 "basic-directory-transfer result is invalid or truncated")
 require (decoded.requestId≠0 ∧ validResult decoded.result)
  (utf8 "basic-directory-transfer result fields are inconsistent")
 pure decoded

def kindOfMagic : Option BasicDirectoryTransferMessageKind:=
 if magic = progressMagic then some .progress
 else if magic = resultMagic then some .complete
 else none

def readMessageHeader : Reader UInt32 := do
 let magic ← Reader.readInteger UInt32
 let version ← Reader.readInteger UInt32
 Reader.check (version = kBasicDirectoryTransferProtocolVersion)
 pure magic

def decodeBasicDirectoryTransferMessageKind:
  Except Bytes BasicDirectoryTransferMessageKind := do
 let invalid:=utf8 "basic-directory-transfer helper message header is invalid"
 require (8 ≤ payload.length ∧ payload.length ≤ kMaximumBasicDirectoryTransferProtocolBytes)
  invalid
 let (magic,_) ← found (readMessageHeader.run payload) invalid
 found (kindOfMagic magic) (utf8 "basic-directory-transfer helper message kind is unknown")

end VoVe.BasicDirectoryTransferProtocol
