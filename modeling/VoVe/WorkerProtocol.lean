import VoVe.Scanner
import VoVe.TransactionCodec

set_option autoImplicit false

/-! The frames between the supervisor and a preview worker, as `worker/protocol.cpp` writes and
reads them. -/

namespace VoVe.WorkerProtocol
open ByteCodec AsciiText Checks ScanCodec TransactionCodec

abbrev JobId := UInt64
abbrev RequestGeneration := UInt64
abbrev OpaqueToken := UInt64
abbrev CapabilitySet := UInt64

def kProtocolMagic : UInt32 := 0x45564F56
def kProtocolMajor : UInt16 := 1
def kProtocolMinor : UInt16 := 19
def kMaximumPayloadBytes : ℕ := 2*1024*1024
def kMaximumFrameBytes : ℕ := frameHeaderBytes+kMaximumPayloadBytes
def kMaximumBuildIdBytes : ℕ := 64
def kMaximumProfileNameBytes : ℕ := 96
def kProfileFingerprintBytes : ℕ := 64
def kMaximumDiagnosticBytes : ℕ := 512
def kMaximumPasswordBytes : ℕ := 512
def kMaximumThumbnailEdge : UInt32 := 4096
def kMaximumPageCount : UInt32 := 1000000
def kMaximumInputBytes : UInt64 := 1*1024*1024*1024*1024*1024
def kMaximumOutputBytes : UInt64 := 24*1024*1024
def kMaximumWorkerMemoryBytes : UInt64 := 8*1024*1024*1024
def kMaximumWallTimeoutMs : UInt32 := 120000
def kMaximumDelayMs : UInt32 := 655350

inductive MessageKind where
 | handshake
 | handshakeAcknowledgement
 | workerJob
 | workerResult
 | cancelGeneration
 | animationFrame
 | animationAdvance
 deriving DecidableEq

def MessageKind.code : MessageKind → UInt16
 | .handshake=>1
 | .handshakeAcknowledgement=>2
 | .workerJob=>3
 | .workerResult=>4
 | .cancelGeneration=>5
 | .animationFrame=>6
 | .animationAdvance=>7

/-- `valid_message_kind` of a number on the wire. -/
def MessageKind.ofCode (code : UInt16) : Option MessageKind:=
 [.handshake,.handshakeAcknowledgement,.workerJob,.workerResult,.cancelGeneration,
  .animationFrame,.animationAdvance].find? fun kind=>kind.code = code

inductive ResultStatus where
 | success
 | unsupported
 | malformedSource
 | timedOut
 | cancelled
 | resourceLimit
 | internalError
 | sourceUnavailable
 | disconnected
 | colorProfileRequired
 | passwordRequired
 | reservedSourceAuthenticationFailure
 | ghostscriptRequired
 | embeddedPreviewUnavailable
 | sourceChanged
 | documentPasswordIncorrect
 | memoryLimit
 deriving DecidableEq

inductive ColorModel where
 | unknown
 | grayscale
 | rgb
 | cmyk
 | lab
 | mixed
 deriving DecidableEq

inductive PreviewProvenance where
 | primaryRender
 | embeddedPreview
 deriving DecidableEq

inductive SourceFormatHint where
 | autoDetect
 | cameraRaw
 | layeredArchive
 | hpgl
 | dxf
 | idml
 | xcf
 | gifAnimation
 deriving DecidableEq

instance : WireEnum ResultStatus where
 values:=[.success,.unsupported,.malformedSource,.timedOut,.cancelled,.resourceLimit,
  .internalError,.sourceUnavailable,.disconnected,.colorProfileRequired,.passwordRequired,
  .reservedSourceAuthenticationFailure,.ghostscriptRequired,.embeddedPreviewUnavailable,
  .sourceChanged,.documentPasswordIncorrect,.memoryLimit]
 complete a := by cases a<;>decide
 small:=by decide

instance : WireEnum ColorModel where
 values:=[.unknown,.grayscale,.rgb,.cmyk,.lab,.mixed]
 complete a := by cases a<;>decide
 small:=by decide

instance : WireEnum PreviewProvenance where
 values:=[.primaryRender,.embeddedPreview]
 complete a := by cases a<;>decide
 small:=by decide

instance : WireEnum SourceFormatHint where
 values:=[.autoDetect,.cameraRaw,.layeredArchive,.hpgl,.dxf,.idml,.xcf,.gifAnimation]
 complete a := by cases a<;>decide
 small:=by decide

inductive DecodeErrorCode where
 | truncated
 | badMagic
 | incompatibleVersion
 | unknownMessageKind
 | frameTooLarge
 | frameSizeMismatch
 | unexpectedMessageKind
 | invalidValue
 | limitExceeded
 | trailingBytes
 deriving DecidableEq

structure DecodeError where
 code : DecodeErrorCode
 message : Bytes
 deriving DecidableEq

def fail (code : DecodeErrorCode) (message : String) : DecodeError := ⟨code,utf8 message⟩

/-- An encoder throws, or writes past the buffer it made. -/
inductive EncodeFailure where
 | thrown (thrown : Thrown)
 | overrun
 deriving DecidableEq

def invalidArgument (what : String) : EncodeFailure := .thrown (.invalidArgument (utf8 what))

structure Handshake where
 buildId : Bytes
 capabilities : CapabilitySet
 deriving DecidableEq

structure JobLimits where
 maximumInputBytes : UInt64 := kMaximumInputBytes
 maximumOutputBytes : UInt64 := kMaximumOutputBytes
 memoryLimitBytes : UInt64 := 512*1024*1024
 wallTimeoutMs : UInt32 := 30000
 canonicalEdge : UInt32 := 512
 deriving DecidableEq

structure WorkerJob where
 jobId : JobId := 0
 generation : RequestGeneration := 0
 sourceToken : OpaqueToken := 0
 outputToken : OpaqueToken := 0
 profileToken : OpaqueToken := 0
 limits : JobLimits := {}
 pageIndex : UInt32 := 0
 sourceFormatHint : SourceFormatHint := .autoDetect
 passwordUtf8 : Bytes := []
 deriving DecidableEq

structure WorkerResult where
 jobId : JobId := 0
 status : ResultStatus := .internalError
 width : UInt32 := 0
 height : UInt32 := 0
 colorModel : ColorModel := .unknown
 provenance : PreviewProvenance := .primaryRender
 colorProfileUtf8 : Bytes := []
 sourceProfileFingerprint : Bytes := []
 pageIndex : UInt32 := 0
 pageCount : UInt32 := 0
 bytesWritten : UInt64 := 0
 diagnosticUtf8 : Bytes := []
 deriving DecidableEq

structure CancelGeneration where
 generation : RequestGeneration
 deriving DecidableEq

structure AnimationFrame where
 image : WorkerResult
 delayMs : UInt32
 sequence : UInt64
 animated : Bool
 deriving DecidableEq

structure AnimationAdvance where
 jobId : JobId
 proceed : Bool
 deriving DecidableEq

def validResultStatus (status : ResultStatus) : Bool := status≠.reservedSourceAuthenticationFailure

def validFingerprint (fingerprint : Bytes) : Bool:=
 fingerprint = [] ∨ (fingerprint.length = kProfileFingerprintBytes ∧
   fingerprint.all fun character =>
    (48 ≤ character ∧ character ≤ 57) ∨ (97 ≤ character ∧ character ≤ 102))

def validBuildId (buildId : Bytes) : Bool:=
 buildId≠[] ∧ buildId.length ≤ kMaximumBuildIdBytes ∧
  buildId.all fun character=>0x21 ≤ character ∧ character ≤ 0x7E

def validLimits (limits : JobLimits) : Bool:=
 limits.maximumInputBytes≠0 ∧ limits.maximumInputBytes ≤ kMaximumInputBytes ∧
  limits.maximumOutputBytes≠0 ∧ limits.maximumOutputBytes ≤ kMaximumOutputBytes ∧
  limits.memoryLimitBytes≠0 ∧ limits.memoryLimitBytes ≤ kMaximumWorkerMemoryBytes ∧
  limits.wallTimeoutMs≠0 ∧ limits.wallTimeoutMs ≤ kMaximumWallTimeoutMs ∧
  limits.canonicalEdge≠0 ∧ limits.canonicalEdge ≤ kMaximumThumbnailEdge

variable (job : WorkerJob)

def validJob : Bool:=
 job.jobId≠0 ∧ job.generation≠0 ∧ job.sourceToken≠0 ∧ job.outputToken≠0 ∧
  job.sourceToken≠job.outputToken ∧
  (job.profileToken = 0 ∨ (job.profileToken≠job.sourceToken ∧ job.profileToken≠job.outputToken)) ∧
  job.pageIndex < kMaximumPageCount ∧ job.passwordUtf8.length ≤ kMaximumPasswordBytes ∧
  validUtf8WithoutNul job.passwordUtf8 ∧ validLimits job.limits

def validResult (result : WorkerResult) : Bool:=
 result.jobId≠0 ∧ validResultStatus result.status ∧ result.width ≤ kMaximumThumbnailEdge ∧
  result.height ≤ kMaximumThumbnailEdge ∧ result.bytesWritten ≤ kMaximumOutputBytes ∧
  result.pageCount ≤ kMaximumPageCount ∧
  result.colorProfileUtf8.length ≤ kMaximumProfileNameBytes ∧
  validFingerprint result.sourceProfileFingerprint ∧
  result.diagnosticUtf8.length ≤ kMaximumDiagnosticBytes ∧
  validUtf8 result.colorProfileUtf8 ∧ validUtf8 result.diagnosticUtf8 ∧
  (result.pageCount = 0 → result.pageIndex = 0) ∧
  (result.pageCount≠0 → result.pageIndex < result.pageCount) ∧
  if result.status = .success then
   result.width≠0 ∧ result.height≠0 ∧ result.bytesWritten≠0 ∧ result.pageCount≠0
  else result.provenance = .primaryRender

def frameVersion : FrameVersion := ⟨kProtocolMagic,kProtocolMajor,kProtocolMinor⟩

def makeFrame (kind : MessageKind) (jobId : JobId) (payload : Bytes):
  Except EncodeFailure Bytes := do
 require (payload.length ≤ kMaximumPayloadBytes)
  (.thrown (.lengthError (utf8 "worker protocol payload exceeds the size limit")))
 require (frameHeaderBytes+payload.length ≤ 2 ^ 32 - 1)
  (.thrown (.lengthError (utf8 "worker protocol frame cannot be represented")))
 pure (appendHeader (frameVersion.header kind.code jobId payload)++payload)

variable (bytes : Bytes)

def decodeFrame : Except DecodeError (FrameHeader × Bytes) := do
 require (frameHeaderBytes ≤ bytes.length)
  (fail .truncated "worker protocol header is truncated")
 let (header,_) ← (scanHeader (fail .truncated "worker protocol header is truncated")).run
  (bytes.take frameHeaderBytes)
 require (header.magic = kProtocolMagic)
  (fail .badMagic "worker protocol magic is invalid")
 require (header.major = kProtocolMajor ∧ header.minor = kProtocolMinor)
  (fail .incompatibleVersion "worker protocol version is incompatible")
 require (MessageKind.ofCode header.kind).isSome
  (fail .unknownMessageKind "worker protocol message kind is unknown")
 require (header.flags = 0) (fail .invalidValue "worker protocol header flags are not zero")
 require (header.totalSize.toNat ≤ kMaximumFrameBytes)
  (fail .frameTooLarge "worker protocol frame exceeds the size limit")
 require (frameHeaderBytes ≤ header.totalSize.toNat ∧ header.totalSize.toNat = bytes.length)
  (fail .frameSizeMismatch "worker protocol frame size does not match its bytes")
 pure (header,bytes.drop frameHeaderBytes)

variable (expectedKind : MessageKind)

def decodeTypedFrame : Except DecodeError (JobId × Bytes) := do
 let (header,payload) ← decodeFrame bytes
 require (MessageKind.ofCode header.kind = some expectedKind)
  (fail .unexpectedMessageKind "worker protocol message kind does not match the decoder")
 pure (header.id,payload)

def payloadTrailing : DecodeError:=
 fail .trailingBytes "worker protocol payload has trailing bytes"

/-- `read_string` of the cursor. -/
def fieldText (maximumBytes : ℕ) (field : String) : Scanner DecodeError Bytes:=
 sizedText (fun size=>size ≤ maximumBytes)
  ⟨.truncated,utf8 field++utf8 " length is truncated"⟩
  ⟨.limitExceeded,utf8 field++utf8 " exceeds its byte limit"⟩
  ⟨.truncated,utf8 field++utf8 " bytes are truncated"⟩

def encodeHandshake (handshake:Handshake) (kind : MessageKind) : Except EncodeFailure Bytes := do
 require (kind = .handshake ∨ kind = .handshakeAcknowledgement)
  (invalidArgument "handshake requires a handshake message kind")
 require (validBuildId handshake.buildId) (invalidArgument "worker build id is invalid")
 makeFrame kind 0 (appendInteger handshake.capabilities++appendString16 handshake.buildId)

variable (jobId : JobId)

def scanHandshake : Scanner DecodeError Handshake := do
 ensure (jobId = 0) (fail .invalidValue "handshake job id must be zero")
 let capabilities ← integer UInt64 (fail .truncated "handshake payload is truncated")
 let buildId ← fieldText kMaximumBuildIdBytes "build id"
 finish payloadTrailing
 ensure (validBuildId buildId) (fail .invalidValue "worker build id is invalid")
 pure ⟨buildId,capabilities⟩

def decodeHandshake : Except DecodeError Handshake:=
 scanFrame (decodeTypedFrame bytes expectedKind) scanHandshake

def jobPayload : Bytes:=
 appendInteger job.generation++(appendInteger job.sourceToken ++
  (appendInteger job.outputToken++(appendInteger job.profileToken ++
  (appendInteger job.pageIndex++(appendInteger (enumCode job.sourceFormatHint) ++
  (appendString16 job.passwordUtf8++(appendInteger job.limits.maximumInputBytes ++
  (appendInteger job.limits.maximumOutputBytes++(appendInteger job.limits.memoryLimitBytes ++
  (appendInteger job.limits.wallTimeoutMs ++
  appendInteger job.limits.canonicalEdge))))))))))

def encodeWorkerJob : Except EncodeFailure Bytes := do
 require (validJob job) (invalidArgument "worker job is invalid")
 makeFrame .workerJob job.jobId (jobPayload job)

def scanJob : Scanner DecodeError WorkerJob := do
 let truncated:=fail .truncated "worker job payload is truncated"
 let generation ← integer UInt64 truncated
 let sourceToken ← integer UInt64 truncated
 let outputToken ← integer UInt64 truncated
 let profileToken ← integer UInt64 truncated
 let pageIndex ← integer UInt32 truncated
 let hint ← integer UInt8 truncated
 let password ← fieldText kMaximumPasswordBytes "password"
 let maximumInputBytes ← integer UInt64 truncated
 let maximumOutputBytes ← integer UInt64 truncated
 let memoryLimitBytes ← integer UInt64 truncated
 let wallTimeoutMs ← integer UInt32 truncated
 let canonicalEdge ← integer UInt32 truncated
 finish payloadTrailing
 -- An unknown hint is kept until here and makes no job valid.
 let decoded : Option WorkerJob := (enumOfCode hint).map fun sourceFormatHint=>{
  jobId:=jobId,generation := generation,sourceToken := sourceToken,
  outputToken:=outputToken,profileToken := profileToken,
  limits:=⟨maximumInputBytes,maximumOutputBytes,memoryLimitBytes,wallTimeoutMs, canonicalEdge⟩,
  pageIndex:=pageIndex,sourceFormatHint := sourceFormatHint,passwordUtf8 := password }
 present (decoded.filter validJob)
  (fail .limitExceeded "worker job contains an invalid token or limit")

def decodeWorkerJob : Except DecodeError WorkerJob:=
 scanFrame (decodeTypedFrame bytes .workerJob) scanJob

def resultParts (result : WorkerResult) : List Bytes:=
 [appendInteger (enumCode result.status),appendInteger (enumCode result.colorModel),
  appendInteger (enumCode result.provenance),appendInteger (0 : UInt8),
  appendInteger result.width,appendInteger result.height,appendInteger result.pageIndex,
  appendInteger result.pageCount,appendInteger result.bytesWritten,
  appendString16 result.colorProfileUtf8,appendString16 result.sourceProfileFingerprint,
  appendString16 result.diagnosticUtf8]

/-- The size of the buffer the parts are written into. -/
def resultPayloadSize (result : WorkerResult) : ℕ:=
 34+result.colorProfileUtf8.length+result.sourceProfileFingerprint.length +
  result.diagnosticUtf8.length

def resultPayload (result : WorkerResult) : Option (Bytes × ℕ):=
 fillBuffer (resultPayloadSize result) (resultParts result)

def encodeWorkerResult (result : WorkerResult) : Except EncodeFailure Bytes := do
 require (validResult result) (invalidArgument "worker result is invalid")
 let (payload,_) ← found (resultPayload result) .overrun
 makeFrame .workerResult result.jobId payload

def scanResult : Scanner DecodeError WorkerResult := do
 let truncated:=fail .truncated "worker result payload is truncated"
 let encodedStatus ← integer UInt8 truncated
 let encodedColorModel ← integer UInt8 truncated
 let encodedProvenance ← integer UInt8 truncated
 let reserved ← integer UInt8 truncated
 let width ← integer UInt32 truncated
 let height ← integer UInt32 truncated
 let pageIndex ← integer UInt32 truncated
 let pageCount ← integer UInt32 truncated
 let bytesWritten ← integer UInt64 truncated
 let colorProfile ← fieldText kMaximumProfileNameBytes "color profile"
 let fingerprint ← fieldText kProfileFingerprintBytes "source profile fingerprint"
 let diagnostic ← fieldText kMaximumDiagnosticBytes "diagnostic"
 finish payloadTrailing
 let decoded : Option WorkerResult := do
  let status ← enumOfCode encodedStatus
  let colorModel ← enumOfCode encodedColorModel
  let provenance ← enumOfCode encodedProvenance
  some {
   jobId:=jobId,status := status,width := width,height := height,
   colorModel:=colorModel,provenance := provenance,colorProfileUtf8 := colorProfile,
   sourceProfileFingerprint:=fingerprint,pageIndex := pageIndex,pageCount := pageCount,
   bytesWritten:=bytesWritten,diagnosticUtf8 := diagnostic }
 let invalid:=fail .invalidValue "worker result metadata is invalid or exceeds a limit"
 ensure (reserved = 0) invalid
 present (decoded.filter validResult) invalid

def decodeWorkerResult : Except DecodeError WorkerResult:=
 scanFrame (decodeTypedFrame bytes .workerResult) scanResult

def validDelay (delayMs : UInt32) : Bool := delayMs≠0 ∧ delayMs ≤ kMaximumDelayMs

def shownImage (image : WorkerResult) : Bool:=
 image.status = .success ∧ image.width≠0 ∧ image.height≠0 ∧ image.bytesWritten≠0

def encodeAnimationFrame (frame : AnimationFrame) : Except EncodeFailure Bytes := do
 require (shownImage frame.image ∧ validDelay frame.delayMs)
  (invalidArgument "invalid animation frame")
 let result ← encodeWorkerResult frame.image
 makeFrame .animationFrame frame.image.jobId
  (appendInteger frame.delayMs++(appendInteger frame.sequence ++
   (appendInteger (if frame.animated then 1 else 0 : UInt8)++result)))

/-- The rest of the input, decoded as a result frame of its own. -/
def nestedResult : Scanner DecodeError WorkerResult where
 run input := (decodeWorkerResult input).map fun result=>(result,[])

def scanAnimationFrame : Scanner DecodeError AnimationFrame := do
 let truncated:=fail .truncated "animation metadata is truncated"
 let delayMs ← integer UInt32 truncated
 let sequence ← integer UInt64 truncated
 let animated ← integer UInt8 truncated
 let invalid:=fail .invalidValue "invalid animation metadata"
 ensure (animated ≤ 1 ∧ validDelay delayMs) invalid
 let image ← nestedResult
 ensure (image.jobId = jobId ∧ shownImage image) invalid
 pure ⟨image,delayMs,sequence,animated≠0⟩

def decodeAnimationFrame : Except DecodeError AnimationFrame:=
 scanFrame (decodeTypedFrame bytes .animationFrame) scanAnimationFrame

def encodeAnimationAdvance (advance : AnimationAdvance) : Except EncodeFailure Bytes := do
 require (advance.jobId≠0) (invalidArgument "animation acknowledgement needs a job id")
 makeFrame .animationAdvance advance.jobId
  (appendInteger (if advance.proceed then 1 else 0 : UInt8))

def scanAnimationAdvance : Scanner DecodeError AnimationAdvance := do
 let invalid:=fail .invalidValue "invalid animation acknowledgement"
 ensure (jobId≠0) invalid
 let proceed ← integer UInt8 invalid
 finish invalid
 ensure (proceed ≤ 1) invalid
 pure ⟨jobId,proceed≠0⟩

def decodeAnimationAdvance : Except DecodeError AnimationAdvance:=
 scanFrame (decodeTypedFrame bytes .animationAdvance) scanAnimationAdvance

def encodeCancelGeneration (cancel : CancelGeneration) : Except EncodeFailure Bytes := do
 require (cancel.generation≠0) (invalidArgument "cancelled generation must be non-zero")
 makeFrame .cancelGeneration 0 (appendInteger cancel.generation)

def scanCancelGeneration : Scanner DecodeError CancelGeneration := do
 ensure (jobId = 0) (fail .invalidValue "generation cancellation job id must be zero")
 let generation ← integer UInt64
  (fail .truncated "generation cancellation payload is truncated")
 finish payloadTrailing
 ensure (generation≠0) (fail .invalidValue "cancelled generation must be non-zero")
 pure ⟨generation⟩

def decodeCancelGeneration : Except DecodeError CancelGeneration:=
 scanFrame (decodeTypedFrame bytes .cancelGeneration) scanCancelGeneration

inductive Message where
 | handshake (handshake:Handshake)
 | handshakeAcknowledgement (handshake:Handshake)
 | workerJob (job : WorkerJob)
 | workerResult (result : WorkerResult)
 | cancelGeneration (cancel : CancelGeneration)
 | animationFrame (frame : AnimationFrame)
 | animationAdvance (advance : AnimationAdvance)
 deriving DecidableEq

def Message.kind : Message → MessageKind
 | .handshake _=>.handshake
 | .handshakeAcknowledgement _=>.handshakeAcknowledgement
 | .workerJob _=>.workerJob
 | .workerResult _=>.workerResult
 | .cancelGeneration _=>.cancelGeneration
 | .animationFrame _=>.animationFrame
 | .animationAdvance _=>.animationAdvance

/-- The result whose buffer an encoder makes. -/
def Message.result : Message → Option WorkerResult
 | .workerResult result=>some result
 | .animationFrame frame=>some frame.image
 | _=>none

def encode : Message → Except EncodeFailure Bytes
 | .handshake handshake=>encodeHandshake handshake .handshake
 | .handshakeAcknowledgement handshake=>encodeHandshake handshake .handshakeAcknowledgement
 | .workerJob job=>encodeWorkerJob job
 | .workerResult result=>encodeWorkerResult result
 | .cancelGeneration cancel=>encodeCancelGeneration cancel
 | .animationFrame frame=>encodeAnimationFrame frame
 | .animationAdvance advance=>encodeAnimationAdvance advance

def decode (kind : MessageKind) (bytes : Bytes) : Except DecodeError Message:=
 match kind with
 | .handshake=>Message.handshake <$> decodeHandshake bytes .handshake
 | .handshakeAcknowledgement=>
  Message.handshakeAcknowledgement <$> decodeHandshake bytes .handshakeAcknowledgement
 | .workerJob=>Message.workerJob <$> decodeWorkerJob bytes
 | .workerResult=>Message.workerResult <$> decodeWorkerResult bytes
 | .cancelGeneration=>Message.cancelGeneration <$> decodeCancelGeneration bytes
 | .animationFrame=>Message.animationFrame <$> decodeAnimationFrame bytes
 | .animationAdvance=>Message.animationAdvance <$> decodeAnimationAdvance bytes

end VoVe.WorkerProtocol
