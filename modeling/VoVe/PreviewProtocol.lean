import VoVe.Scanner
import VoVe.ThumbnailScheduler
import VoVe.TransactionCodec

set_option autoImplicit false

/-! The frames between the preview client and its helper process, as `helper_protocol.cpp` writes
and reads them. -/

namespace VoVe.PreviewProtocol
open ByteCodec AsciiText Checks ScanCodec TransactionCodec
open ThumbnailQueue (ThumbnailPriority RequestGeneration)

abbrev RequestId := UInt64

def kMagic : UInt32 := 0x48564F56
def kProtocolMajor : UInt16 := 1
def kProtocolMinor : UInt16 := 19
def kMaximumFrameBytes : ℕ := 17*1024*1024
def kMaximumFramePayloadBytes : ℕ := kMaximumFrameBytes - frameHeaderBytes
def kMaximumPathBytes : ℕ := 32*1024
def kMaximumBuildIdBytes : ℕ := 96
def kMaximumAuthTokenBytes : ℕ := 256
def kMaximumColorModelBytes : ℕ := 32
def kMaximumColorProfileBytes : ℕ := 160
def kMaximumSourceRevisionBytes : ℕ := 160
def kMaximumPasswordBytes : ℕ := 512
def kProfileFingerprintBytes : ℕ := 64
def kMaximumCanonicalEdge : UInt16 := 2048
def kMaximumRgbaBytes : ℕ := 16*1024*1024
def kMaximumPageCount : UInt32 := 1000000

inductive MessageType where
 | hello
 | helloAck
 | previewRequest
 | cancelGeneration
 | previewResponse
 | jobStarted
 | cacheRequest
 | cacheResponse
 deriving DecidableEq

def MessageType.code : MessageType → UInt16
 | .hello=>1
 | .helloAck=>2
 | .previewRequest=>3
 | .cancelGeneration=>4
 | .previewResponse=>5
 | .jobStarted=>6
 | .cacheRequest=>7
 | .cacheResponse=>8

/-- `valid_message_type` of a number on the wire. -/
def MessageType.ofCode (code : UInt16) : Option MessageType:=
 [.hello,.helloAck,.previewRequest,.cancelGeneration,.previewResponse,.jobStarted,
  .cacheRequest,.cacheResponse].find? fun type=>type.code = code

inductive CacheOperation where
 | inspect
 | clear
 deriving DecidableEq

inductive CacheStatus where
 | success
 | failed
 deriving DecidableEq

inductive ResponseStatus where
 | successCached
 | successDecoded
 | unsupported
 | malformed
 | disconnected
 | authenticationFailed
 | permissionDenied
 | notFound
 | tooLarge
 | timedOut
 | internalError
 | cancelled
 | queueBusy
 | sourceUnavailable
 | colorProfileRequired
 | passwordRequired
 | ghostscriptRequired
 | embeddedPreviewUnavailable
 | successOfflineCached
 | sourceChanged
 | documentPasswordIncorrect
 | pdfInputTooLarge
 | memoryLimit
 | processingTimedOut
 | workerStartFailed
 deriving DecidableEq

inductive PreviewProvenance where
 | primaryRender
 | embeddedPreview
 deriving DecidableEq

inductive PreviewWorker where
 | none
 | raster
 | document
 | cdr
 | svg
 | xcf
 deriving DecidableEq

inductive WorkerStartupStage where
 | none
 | configuration
 | launch
 | handshake
 | compatibility
 | containment
 deriving DecidableEq

instance : WireEnum CacheOperation where
 values:=[.inspect,.clear]
 complete a := by cases a<;>decide
 small:=by decide

instance : WireEnum CacheStatus where
 values:=[.success,.failed]
 complete a := by cases a<;>decide
 small:=by decide

instance : WireEnum ResponseStatus where
 values:=[.successCached,.successDecoded,.unsupported,.malformed,.disconnected,
  .authenticationFailed,.permissionDenied,.notFound,.tooLarge,.timedOut,.internalError,
  .cancelled,.queueBusy,.sourceUnavailable,.colorProfileRequired,.passwordRequired,
  .ghostscriptRequired,.embeddedPreviewUnavailable,.successOfflineCached,.sourceChanged,
  .documentPasswordIncorrect,.pdfInputTooLarge,.memoryLimit,.processingTimedOut,
  .workerStartFailed]
 complete a := by cases a<;>decide
 small:=by decide

instance : WireEnum PreviewProvenance where
 values:=[.primaryRender,.embeddedPreview]
 complete a := by cases a<;>decide
 small:=by decide

instance : WireEnum PreviewWorker where
 values:=[.none,.raster,.document,.cdr,.svg,.xcf]
 complete a := by cases a<;>decide
 small:=by decide

instance : WireEnum WorkerStartupStage where
 values:=[.none,.configuration,.launch,.handshake,.compatibility,.containment]
 complete a := by cases a<;>decide
 small:=by decide

instance : WireEnum ThumbnailPriority where
 values:=[.visibleSelected,.visible,.folder,.nearby,.rest]
 complete a := by cases a<;>decide
 small:=by decide

inductive DecodeErrorCode where
 | truncated
 | badMagic
 | incompatibleVersion
 | unknownMessageType
 | unexpectedMessageType
 | frameTooLarge
 | frameSizeMismatch
 | invalidValue
 | invalidUtf8
 | limitExceeded
 | payloadSizeMismatch
 | trailingBytes
 deriving DecidableEq

structure DecodeError where
 code : DecodeErrorCode
 message : Bytes
 deriving DecidableEq

def fail (code : DecodeErrorCode) (message : String) : DecodeError := ⟨code,utf8 message⟩

structure Hello where
 buildIdUtf8 : Bytes
 authTokenUtf8 : Bytes
 deriving DecidableEq

structure PreviewRequest where
 requestId : RequestId
 generation : RequestGeneration
 pathUtf8 : Bytes
 sourceSize : UInt64
 modifiedUnixNs : Int64
 sourceRevisionUtf8 : Bytes
 canonicalEdge : UInt16
 priority : ThumbnailPriority
 pageIndex : UInt32
 passwordUtf8 : Bytes
 offlineCacheOnly : Bool
 allowOfflineFallback : Bool
 selectedView : Bool
 extendedLimits : Bool
 deriving DecidableEq

structure CancelGeneration where
 generation : RequestGeneration
 deriving DecidableEq

structure JobStarted where
 requestId : RequestId
 deriving DecidableEq

structure WorkerStartupDiagnostic where
 stage : WorkerStartupStage := .none
 worker : PreviewWorker := .none
 systemError : UInt32 := 0
 exitCode : UInt32 := 0
 deriving DecidableEq

structure PreviewResponse where
 requestId : RequestId := 0
 status : ResponseStatus := .internalError
 width : UInt16 := 0
 height : UInt16 := 0
 sourceColorModelUtf8 : Bytes := []
 sourceColorProfileUtf8 : Bytes := []
 sourceProfileFingerprint : Bytes := []
 provenance : PreviewProvenance := .primaryRender
 pageIndex : UInt32 := 0
 pageCount : UInt32 := 0
 rgba8 : Bytes := []
 startupDiagnostic : WorkerStartupDiagnostic := {}
 deriving DecidableEq

structure CacheRequest where
 requestId : RequestId
 operation : CacheOperation
 deriving DecidableEq

structure CacheResponse where
 requestId : RequestId
 status : CacheStatus
 entries : UInt64
 bytes : UInt64
 deriving DecidableEq

variable (diagnostic : WorkerStartupDiagnostic)

def WorkerStartupDiagnostic.present : Bool := diagnostic.stage≠.none

def WorkerStartupDiagnostic.valid : Bool:=
 if diagnostic.present then diagnostic.worker≠.none
 else diagnostic.worker = .none ∧ diagnostic.systemError = 0 ∧ diagnostic.exitCode = 0

def isSuccess (status : ResponseStatus) : Bool:=
 status = .successCached ∨ status = .successOfflineCached ∨ status = .successDecoded

def validFingerprint (fingerprint : Bytes) : Bool:=
 fingerprint = [] ∨ (fingerprint.length = kProfileFingerprintBytes ∧
   fingerprint.all fun character =>
    (48 ≤ character ∧ character ≤ 57) ∨ (97 ≤ character ∧ character ≤ 102))

def validText (text : Bytes) (maximum : ℕ) (allowEmpty : Bool) : Bool:=
 (allowEmpty ∨ text≠[]) ∧ text.length ≤ maximum ∧ validUtf8WithoutNul text

variable (hello:Hello)

def validHelloFields : Bool:=
 validText hello.buildIdUtf8 kMaximumBuildIdBytes false ∧
  validText hello.authTokenUtf8 kMaximumAuthTokenBytes false

variable (request : PreviewRequest)

def validRequest : Bool:=
 request.requestId≠0 ∧ request.generation≠0 ∧
  validText request.pathUtf8 kMaximumPathBytes false ∧ request.canonicalEdge≠0 ∧
  request.canonicalEdge ≤ kMaximumCanonicalEdge ∧
  validText request.sourceRevisionUtf8 kMaximumSourceRevisionBytes true ∧
  request.pageIndex < kMaximumPageCount ∧
  validText request.passwordUtf8 kMaximumPasswordBytes true

def expectedRgbaSize (width height : UInt16) : Option ℕ:=
 if width = 0 ∨ height = 0 ∨ width > kMaximumCanonicalEdge ∨ height > kMaximumCanonicalEdge then
  none
 else if width.toNat*height.toNat > kMaximumRgbaBytes / 4 then none
 else some (width.toNat*height.toNat*4)

variable (response : PreviewResponse)

/-- A response that is no success carries no image and no metadata. -/
def bareResponse : Bool:=
 response.width = 0 ∧ response.height = 0 ∧ response.pageIndex < kMaximumPageCount ∧
  response.pageCount = 0 ∧ response.sourceColorModelUtf8 = [] ∧
  response.sourceColorProfileUtf8 = [] ∧ response.sourceProfileFingerprint = [] ∧
  response.rgba8 = [] ∧ response.provenance = .primaryRender

def validResponse : Bool:=
 response.startupDiagnostic.valid ∧
  (response.startupDiagnostic.present = true ↔ response.status = .workerStartFailed) ∧
  response.requestId≠0 ∧ response.width ≤ kMaximumCanonicalEdge ∧
  response.height ≤ kMaximumCanonicalEdge ∧ response.pageCount ≤ kMaximumPageCount ∧
  validText response.sourceColorModelUtf8 kMaximumColorModelBytes true ∧
  validText response.sourceColorProfileUtf8 kMaximumColorProfileBytes true ∧
  validFingerprint response.sourceProfileFingerprint ∧
  response.rgba8.length ≤ kMaximumRgbaBytes ∧
  if isSuccess response.status then
   response.pageCount≠0 ∧ response.pageIndex < response.pageCount ∧
    expectedRgbaSize response.width response.height = some response.rgba8.length
  else bareResponse response

def frameVersion : FrameVersion := ⟨kMagic,kProtocolMajor,kProtocolMinor⟩

def makeFrame (type : MessageType) (requestId : RequestId) (payload : Bytes):
  Except Thrown Bytes := do
 require (payload.length ≤ kMaximumFramePayloadBytes)
  (.lengthError (utf8 "helper protocol frame exceeds 2 MiB"))
 require (frameHeaderBytes+payload.length ≤ 2 ^ 32 - 1)
  (.lengthError (utf8 "helper protocol frame size cannot be represented"))
 pure (appendHeader (frameVersion.header type.code requestId payload)++payload)

variable (bytes : Bytes)

def decodeHeader : Except DecodeError FrameHeader := do
 require (frameHeaderBytes ≤ bytes.length)
  (fail .truncated "helper protocol header is truncated")
 let (header,_) ← (scanHeader (fail .truncated "helper protocol header is truncated")).run
  (bytes.take frameHeaderBytes)
 require (header.magic = kMagic) (fail .badMagic "helper protocol magic does not match")
 require (header.major = kProtocolMajor ∧ header.minor = kProtocolMinor)
  (fail .incompatibleVersion "helper protocol version is incompatible")
 require (MessageType.ofCode header.kind).isSome
  (fail .unknownMessageType "helper protocol message type is unknown")
 require (header.flags = 0) (fail .invalidValue "helper protocol reserved flags are non-zero")
 require (frameHeaderBytes ≤ header.totalSize.toNat)
  (fail .frameSizeMismatch "helper protocol frame is smaller than its header")
 require (header.totalSize.toNat ≤ kMaximumFrameBytes)
  (fail .frameTooLarge "helper protocol frame exceeds 2 MiB")
 pure header

def parseFrame (expectedType : MessageType) : Except DecodeError (RequestId × Bytes) := do
 let header ← decodeHeader bytes
 require (MessageType.ofCode header.kind = some expectedType)
  (fail .unexpectedMessageType "helper protocol frame has the wrong message type")
 require (header.totalSize.toNat ≤ bytes.length)
  (fail .truncated "helper protocol frame is truncated")
 require (bytes.length ≤ header.totalSize.toNat)
  (fail .trailingBytes "helper protocol frame has trailing bytes")
 pure (header.id,bytes.drop frameHeaderBytes)

def payloadTrailing : DecodeError:=
 fail .trailingBytes "helper protocol payload has trailing bytes"

def encodeHelloLike (type : MessageType) : Except Thrown Bytes := do
 require (validHelloFields hello)
  (.invalidArgument (utf8 "helper protocol hello fields are invalid"))
 makeFrame type 0 (appendString16 hello.buildIdUtf8++appendString16 hello.authTokenUtf8)

variable (requestId : RequestId)

def scanHelloLike : Scanner DecodeError Hello := do
 ensure (requestId = 0)
  (fail .invalidValue "helper protocol hello request id must be zero")
 let buildId ← sizedText (fun size=>size≠0 ∧ size ≤ kMaximumBuildIdBytes)
  (fail .truncated "helper build id length is truncated")
  (fail .limitExceeded "helper build id length is invalid")
  (fail .truncated "helper hello fields are truncated")
 let authToken ← sizedText (fun size=>size≠0 ∧ size ≤ kMaximumAuthTokenBytes)
  (fail .truncated "helper hello fields are truncated")
  (fail .limitExceeded "helper auth token length is invalid")
  (fail .truncated "helper auth token is truncated")
 finish payloadTrailing
 ensure (validUtf8WithoutNul buildId ∧ validUtf8WithoutNul authToken)
  (fail .invalidUtf8 "helper hello text is invalid UTF-8")
 pure ⟨buildId,authToken⟩

def encodeHello : Except Thrown Bytes := encodeHelloLike hello .hello

def decodeHello : Except DecodeError Hello := scanFrame (parseFrame bytes .hello) scanHelloLike

def encodeHelloAck (ack : Hello) : Except Thrown Bytes := encodeHelloLike ack .helloAck

def decodeHelloAck : Except DecodeError Hello:=
 scanFrame (parseFrame bytes .helloAck) scanHelloLike

def optionBits (offlineCacheOnly allowOfflineFallback selectedView extendedLimits : Bool):
  UInt8:=
 (if offlineCacheOnly then 1 else 0) ||| (if allowOfflineFallback then 2 else 0) |||
  (if selectedView then 4 else 0) ||| (if extendedLimits then 8 else 0)

def requestPayload : Bytes:=
 appendInteger request.generation++(appendInteger request.sourceSize ++
  (appendInteger request.modifiedUnixNs++(appendInteger request.canonicalEdge ++
  (appendInteger (enumCode request.priority) ++
  (appendInteger (optionBits request.offlineCacheOnly request.allowOfflineFallback
   request.selectedView request.extendedLimits) ++
  (appendInteger request.pageIndex ++
  (appendInteger (UInt32.ofNat request.pathUtf8.length)++(request.pathUtf8 ++
  (appendString16 request.sourceRevisionUtf8++appendString16 request.passwordUtf8)))))))))

def encodePreviewRequest : Except Thrown Bytes := do
 require (validRequest request) (.invalidArgument (utf8 "helper preview request is invalid"))
 makeFrame .previewRequest request.requestId (requestPayload request)

def scanRequest : Scanner DecodeError PreviewRequest := do
 let truncated:=fail .truncated "helper preview request is truncated"
 let generation ← integer UInt64 truncated
 let sourceSize ← integer UInt64 truncated
 let modifiedUnixNs ← integer Int64 truncated
 let canonicalEdge ← integer UInt16 truncated
 let encodedPriority ← integer UInt8 truncated
 let requestOptions ← integer UInt8 truncated
 let pageIndex ← integer UInt32 truncated
 let pathSize ← integer UInt32 truncated
 ensure (requestOptions &&& ~~~15 = 0)
  (fail .invalidValue "helper preview request options are invalid")
 let priority ← present (enumOfCode encodedPriority)
  (fail .invalidValue "helper preview priority is unknown")
 ensure (pathSize.toNat≠0 ∧ pathSize.toNat ≤ kMaximumPathBytes)
  (fail .limitExceeded "helper preview path length is invalid")
 let path ← octets pathSize.toNat (fail .truncated "helper preview path is truncated")
 let revision ← sizedText (fun size=>size ≤ kMaximumSourceRevisionBytes)
  (fail .truncated "helper preview source revision length is truncated")
  (fail .limitExceeded "helper preview source revision length is invalid")
  (fail .truncated "helper preview source revision is truncated")
 let password ← sizedText (fun size=>size ≤ kMaximumPasswordBytes)
  (fail .truncated "helper preview password length is truncated")
  (fail .limitExceeded "helper preview password length is invalid")
  (fail .truncated "helper preview password is truncated")
 finish payloadTrailing
 ensure (validUtf8WithoutNul path ∧ validUtf8WithoutNul revision ∧ validUtf8WithoutNul password)
  (fail .invalidUtf8 "helper preview path is invalid UTF-8 or contains NUL")
 let decoded : PreviewRequest := {
  requestId:=requestId,generation := generation,pathUtf8 := path,sourceSize := sourceSize,
  modifiedUnixNs:=modifiedUnixNs,sourceRevisionUtf8 := revision,
  canonicalEdge:=canonicalEdge,priority := priority,pageIndex := pageIndex,
  passwordUtf8:=password,offlineCacheOnly := requestOptions &&& 1≠0,
  allowOfflineFallback:=requestOptions &&& 2≠0,selectedView := requestOptions &&& 4≠0,
  extendedLimits:=requestOptions &&& 8≠0 }
 ensure (validRequest decoded)
  (fail .invalidValue "helper preview request values are invalid")
 pure decoded

def decodePreviewRequest : Except DecodeError PreviewRequest:=
 scanFrame (parseFrame bytes .previewRequest) scanRequest

def encodeCancelGeneration (cancel : CancelGeneration) : Except Thrown Bytes := do
 require (cancel.generation≠0)
  (.invalidArgument (utf8 "helper cancelled generation must be non-zero"))
 makeFrame .cancelGeneration 0 (appendInteger cancel.generation)

def scanCancelGeneration : Scanner DecodeError CancelGeneration := do
 ensure (requestId = 0) (fail .invalidValue "helper cancellation request id must be zero")
 let generation ← integer UInt64 (fail .truncated "helper cancellation is truncated")
 finish payloadTrailing
 ensure (generation≠0)
  (fail .invalidValue "helper cancelled generation must be non-zero")
 pure ⟨generation⟩

def decodeCancelGeneration : Except DecodeError CancelGeneration:=
 scanFrame (parseFrame bytes .cancelGeneration) scanCancelGeneration

def encodeJobStarted (started : JobStarted) : Except Thrown Bytes := do
 require (started.requestId≠0)
  (.invalidArgument (utf8 "helper started request id must be non-zero"))
 makeFrame .jobStarted started.requestId []

def scanJobStarted : Scanner DecodeError JobStarted := do
 let invalid:=fail .invalidValue "helper started frame must contain only a non-zero request id"
 ensure (requestId≠0) invalid
 finish invalid
 pure ⟨requestId⟩

def decodeJobStarted : Except DecodeError JobStarted:=
 scanFrame (parseFrame bytes .jobStarted) scanJobStarted

def encodeCacheRequest (request : CacheRequest) : Except Thrown Bytes := do
 require (request.requestId≠0) (.invalidArgument (utf8 "helper cache request is invalid"))
 makeFrame .cacheRequest request.requestId (appendInteger (enumCode request.operation))

def scanCacheRequest : Scanner DecodeError CacheRequest := do
 let invalid:=fail .invalidValue "helper cache request is invalid"
 ensure (requestId≠0) invalid
 let code ← integer UInt8 invalid
 finish payloadTrailing
 let operation ← present (enumOfCode code)
  (fail .invalidValue "helper cache operation is unknown")
 pure ⟨requestId,operation⟩

def decodeCacheRequest : Except DecodeError CacheRequest:=
 scanFrame (parseFrame bytes .cacheRequest) scanCacheRequest

def encodeCacheResponse (response : CacheResponse) : Except Thrown Bytes := do
 require (response.requestId≠0) (.invalidArgument (utf8 "helper cache response is invalid"))
 makeFrame .cacheResponse response.requestId
  (appendInteger (enumCode response.status) ++
   (appendInteger response.entries++appendInteger response.bytes))

def scanCacheResponse : Scanner DecodeError CacheResponse := do
 let invalid:=fail .invalidValue "helper cache response is invalid"
 ensure (requestId≠0) invalid
 let code ← integer UInt8 invalid
 let entries ← integer UInt64 invalid
 let bytes ← integer UInt64 invalid
 finish payloadTrailing
 let status ← present (enumOfCode code) (fail .invalidValue "helper cache status is unknown")
 pure ⟨requestId,status,entries,bytes⟩

def decodeCacheResponse : Except DecodeError CacheResponse:=
 scanFrame (parseFrame bytes .cacheResponse) scanCacheResponse

/-- The fixed part of a response payload. -/
structure ResponseFields where
 encodedStatus : UInt8
 encodedProvenance : UInt8
 width : UInt16
 height : UInt16
 modelSize : UInt16
 profileSize : UInt16
 fingerprintSize : UInt16
 pageIndex : UInt32
 pageCount : UInt32
 rgbaSize : UInt32
 startupStage : UInt8
 startupWorker : UInt8
 systemError : UInt32
 exitCode : UInt32

def appendFields (fields : ResponseFields) : Bytes:=
 appendInteger fields.encodedStatus++(appendInteger fields.encodedProvenance ++
  (appendInteger fields.width++(appendInteger fields.height ++
  (appendInteger fields.modelSize++(appendInteger fields.profileSize ++
  (appendInteger fields.fingerprintSize++(appendInteger fields.pageIndex ++
  (appendInteger fields.pageCount++(appendInteger fields.rgbaSize ++
  (appendInteger fields.startupStage++(appendInteger fields.startupWorker ++
  (appendInteger fields.systemError++appendInteger fields.exitCode))))))))))))

def responseFields : ResponseFields where
 encodedStatus:=enumCode response.status
 encodedProvenance:=enumCode response.provenance
 width:=response.width
 height:=response.height
 modelSize:=UInt16.ofNat response.sourceColorModelUtf8.length
 profileSize:=UInt16.ofNat response.sourceColorProfileUtf8.length
 fingerprintSize:=UInt16.ofNat response.sourceProfileFingerprint.length
 pageIndex:=response.pageIndex
 pageCount:=response.pageCount
 rgbaSize:=UInt32.ofNat response.rgba8.length
 startupStage:=enumCode response.startupDiagnostic.stage
 startupWorker:=enumCode response.startupDiagnostic.worker
 systemError:=response.startupDiagnostic.systemError
 exitCode:=response.startupDiagnostic.exitCode

def responsePayload : Bytes:=
 appendFields (responseFields response)++(response.sourceColorModelUtf8 ++
  (response.sourceColorProfileUtf8++(response.sourceProfileFingerprint++response.rgba8)))

def encodePreviewResponse : Except Thrown Bytes := do
 require (validResponse response) (.invalidArgument (utf8 "helper preview response is invalid"))
 makeFrame .previewResponse response.requestId (responsePayload response)

def scanFields : Scanner DecodeError ResponseFields := do
 let truncated:=fail .truncated "helper preview response is truncated"
 let encodedStatus ← integer UInt8 truncated
 let encodedProvenance ← integer UInt8 truncated
 let width ← integer UInt16 truncated
 let height ← integer UInt16 truncated
 let modelSize ← integer UInt16 truncated
 let profileSize ← integer UInt16 truncated
 let fingerprintSize ← integer UInt16 truncated
 let pageIndex ← integer UInt32 truncated
 let pageCount ← integer UInt32 truncated
 let rgbaSize ← integer UInt32 truncated
 let startupStage ← integer UInt8 truncated
 let startupWorker ← integer UInt8 truncated
 let systemError ← integer UInt32 truncated
 let exitCode ← integer UInt32 truncated
 pure ⟨encodedStatus,encodedProvenance,width,height,modelSize,profileSize,fingerprintSize,
  pageIndex,pageCount,rgbaSize,startupStage,startupWorker,systemError,exitCode⟩

def scanResponse : Scanner DecodeError PreviewResponse := do
 let fields ← scanFields
 let provenance ← present (enumOfCode fields.encodedProvenance)
  (fail .invalidValue "helper preview response provenance is unknown")
 let status ← present (enumOfCode fields.encodedStatus)
  (fail .invalidValue "helper preview response status is unknown")
 ensure (fields.modelSize.toNat ≤ kMaximumColorModelBytes ∧
   fields.profileSize.toNat ≤ kMaximumColorProfileBytes ∧
   fields.fingerprintSize.toNat ≤ kProfileFingerprintBytes ∧ fields.rgbaSize.toNat ≤ kMaximumRgbaBytes)
  (fail .limitExceeded "helper preview response field exceeds its size limit")
 let payloadTruncated:=fail .truncated "helper preview response payload is truncated"
 let model ← octets fields.modelSize.toNat payloadTruncated
 let profile ← octets fields.profileSize.toNat payloadTruncated
 let fingerprint ← octets fields.fingerprintSize.toNat payloadTruncated
 let rgba8 ← octets fields.rgbaSize.toNat payloadTruncated
 finish payloadTrailing
 ensure (validUtf8WithoutNul model ∧ validUtf8WithoutNul profile)
  (fail .invalidUtf8 "helper preview response metadata is invalid UTF-8")
 ensure (validFingerprint fingerprint)
  (fail .invalidValue "helper preview response profile fingerprint is invalid")
 -- An unknown stage or worker is kept until here and makes no response valid.
 let decoded : Option PreviewResponse := do
  let stage ← enumOfCode fields.startupStage
  let worker ← enumOfCode fields.startupWorker
  some {
   requestId:=requestId,status := status,width := fields.width,height := fields.height,
   sourceColorModelUtf8:=model,sourceColorProfileUtf8 := profile,
   sourceProfileFingerprint:=fingerprint,provenance := provenance,pageIndex := fields.pageIndex,
   pageCount:=fields.pageCount,rgba8 := rgba8,
   startupDiagnostic:=⟨stage,worker,fields.systemError,fields.exitCode⟩ }
 ensure (isSuccess status → expectedRgbaSize fields.width fields.height = some rgba8.length)
  (fail .payloadSizeMismatch "helper RGBA payload does not match its dimensions")
 ensure (isSuccess status → fields.pageCount≠0 ∧ fields.pageCount ≤ kMaximumPageCount ∧
   fields.pageIndex < fields.pageCount ∧ requestId≠0)
  (fail .invalidValue "helper successful response metadata is invalid")
 ensure (isSuccess status ∨ decoded.any validResponse)
  (fail .invalidValue "helper failed response must not carry image data or metadata")
 present (decoded.filter validResponse)
  (fail .invalidValue "helper preview response values are invalid")

def decodePreviewResponse : Except DecodeError PreviewResponse:=
 scanFrame (parseFrame bytes .previewResponse) scanResponse

inductive Message where
 | hello (hello:Hello)
 | helloAck (ack : Hello)
 | previewRequest (request : PreviewRequest)
 | cancelGeneration (cancel : CancelGeneration)
 | previewResponse (response : PreviewResponse)
 | jobStarted (started : JobStarted)
 | cacheRequest (request : CacheRequest)
 | cacheResponse (response : CacheResponse)
 deriving DecidableEq

def Message.type : Message → MessageType
 | .hello _=>.hello
 | .helloAck _=>.helloAck
 | .previewRequest _=>.previewRequest
 | .cancelGeneration _=>.cancelGeneration
 | .previewResponse _=>.previewResponse
 | .jobStarted _=>.jobStarted
 | .cacheRequest _=>.cacheRequest
 | .cacheResponse _=>.cacheResponse

def encode : Message → Except Thrown Bytes
 | .hello hello=>encodeHello hello
 | .helloAck ack=>encodeHelloAck ack
 | .previewRequest request=>encodePreviewRequest request
 | .cancelGeneration cancel=>encodeCancelGeneration cancel
 | .previewResponse response=>encodePreviewResponse response
 | .jobStarted started=>encodeJobStarted started
 | .cacheRequest request=>encodeCacheRequest request
 | .cacheResponse response=>encodeCacheResponse response

def decode (type : MessageType) (bytes : Bytes) : Except DecodeError Message:=
 match type with
 | .hello=>Message.hello <$> decodeHello bytes
 | .helloAck=>Message.helloAck <$> decodeHelloAck bytes
 | .previewRequest=>Message.previewRequest <$> decodePreviewRequest bytes
 | .cancelGeneration=>Message.cancelGeneration <$> decodeCancelGeneration bytes
 | .previewResponse=>Message.previewResponse <$> decodePreviewResponse bytes
 | .jobStarted=>Message.jobStarted <$> decodeJobStarted bytes
 | .cacheRequest=>Message.cacheRequest <$> decodeCacheRequest bytes
 | .cacheResponse=>Message.cacheResponse <$> decodeCacheResponse bytes

end VoVe.PreviewProtocol
