import VoVe.ArtifactCodec
import VoVe.PreviewProtocol

set_option autoImplicit false

namespace VoVe.ThumbnailTypes
open AsciiText ByteCodec CacheKeys
open ArtifactCodec (ColorModel PreviewProvenance ArtifactMetadata)
open PreviewProtocol (WorkerStartupDiagnostic)

def kRasterThumbnailHandlerId : Bytes := utf8 "raster.qt"
def kRasterThumbnailHandlerVersion : UInt32 := 7
def kDefaultColorPolicyFingerprint : Bytes := utf8 "sRGB-v1|cmyk:none"

inductive ThumbnailPipelineStatus where
 | success
 | unsupported
 | malformedSource
 | timedOut
 | cancelled
 | resourceLimit
 | sourceUnavailable
 | sourceChanged
 | sourceNotFound
 | permissionDenied
 | authenticationFailed
 | disconnected
 | colorProfileRequired
 | passwordRequired
 | documentPasswordIncorrect
 | ghostscriptRequired
 | embeddedPreviewUnavailable
 | internalError
 | pdfInputTooLarge
 | memoryLimit
 | processingTimedOut
 | workerStartFailed
 deriving DecidableEq

inductive PreviewFreshness where
 | verified
 | offlineUnverified
 deriving DecidableEq

structure ThumbnailPipelineRequest where
 source : SourceStamp
 accessUnixNs : Int64 := 0
 canonicalEdge : UInt32 := kThumbnailCanonicalEdge
 handlerId : Bytes := kRasterThumbnailHandlerId
 handlerVersion : UInt32 := kRasterThumbnailHandlerVersion
 pageIndex : UInt32 := 0
 passwordUtf8 : Bytes := []
 colorPolicyFingerprint : Bytes := kDefaultColorPolicyFingerprint
 offlineCacheOnly : Bool := false
 allowOfflineFallback : Bool := true
 selectedView : Bool := false
 extendedLimits : Bool := false
 deriving DecidableEq

structure RenderedThumbnail where
 status : ThumbnailPipelineStatus := .internalError
 metadata : ArtifactMetadata := {}
 qoiPayload : Bytes := []
 sourceProfileName : Bytes := []
 sourceProfileFingerprint : Bytes := []
 diagnostic : Bytes := []
 startupDiagnostic : WorkerStartupDiagnostic := {}

structure ThumbnailPipelineResult where
 status : ThumbnailPipelineStatus := .internalError
 width : UInt32 := 0
 height : UInt32 := 0
 pageIndex : UInt32 := 0
 pageCount : UInt32 := 0
 sourceColorModel : ColorModel := .unknown
 provenance : PreviewProvenance := .primaryRender
 sourceProfileName : Bytes := []
 sourceProfileFingerprint : Bytes := []
 rgba8 : Bytes := []
 diagnostic : Bytes := []
 fromCache : Bool := false
 freshness : PreviewFreshness := .verified
 startupDiagnostic : WorkerStartupDiagnostic := {}

def ThumbnailPipelineResult.ok (result : ThumbnailPipelineResult) : Bool:=
 result.status = .success

structure ResolvedThumbnailSource where
 status : ThumbnailPipelineStatus := .success
 source : SourceStamp
 handlerId : Bytes := kRasterThumbnailHandlerId
 handlerVersion : UInt32 := kRasterThumbnailHandlerVersion
 colorPolicyFingerprint : Bytes := kDefaultColorPolicyFingerprint
 diagnostic : Bytes := []

def ResolvedThumbnailSource.ok (resolved : ResolvedThumbnailSource) : Bool:=
 resolved.status = .success

end VoVe.ThumbnailTypes
