import VoVe.CallLog
import VoVe.CatalogOrder
import VoVe.ThumbnailCache
import VoVe.ThumbnailTypes

set_option autoImplicit false

/-! The thumbnail pipeline of `thumbnail_pipeline.cpp`, over the persistent cache: the cached
preview of a source, the rendered one where there is none, and what is shown while the source is
offline. -/

namespace VoVe.ThumbnailPipeline
open AsciiText ByteCodec CacheKeys CallLog ThumbnailCache ThumbnailTypes
open ArtifactCodec (ArtifactData ArtifactMetadata kMaxArtifactBytes kMaxArtifactDimension
 kMaxArtifactPageCount kVvt1HeaderBytes)
open CatalogOrder (asciiIequal)

def kThumbnailRenderPolicyVersion : UInt32 := 1
def kThumbnailColorPolicyVersion : UInt32 := 1
def kThumbnailRoutingPolicyVersion : UInt32 := 2

def isTemporaryPreviewSource (path : Bytes) : Bool:=
 (utf8 ".tmp").length ≤ path.length ∧
  asciiIequal (path.drop (path.length - (utf8 ".tmp").length)) (utf8 ".tmp")

structure ScaledRgbaImage where
 width : UInt32 := 0
 height : UInt32 := 0
 rgba8 : Bytes := []
 error : Bytes := []

def ScaledRgbaImage.ok (scaled : ScaledRgbaImage) : Bool:=
 scaled.error = [] ∧ scaled.width≠0 ∧ scaled.height≠0 ∧ scaled.rgba8≠[]

/-- An image within the edge, with four bytes for each of its pixels. -/
def ScaledRgbaImage.Fits (scaled : ScaledRgbaImage) (edge : UInt32) : Prop:=
 scaled.width ≤ edge ∧ scaled.height ≤ edge ∧
  scaled.rgba8.length = scaled.width.toNat*scaled.height.toNat*4

/-- The cache and the image code of a pipeline. The steps of a call of the cache come out as the
number of the calls before it says. -/
structure Workings where
 libraries : Libraries
 limits : MemoryCacheLimits := {}
 faults : ℕ → Faults := fun _=>{}
 /-- `qoi_encode` of the QOI library. -/
 qoiEncode : QoiImage → Option Bytes
 scaleRgba8ToEdge : Bytes → UInt32 → UInt32 → UInt32 → ScaledRgbaImage
 decoded_whole : ∀bytes image,libraries.qoiDecode bytes=some image →
  image.rgba8.length=image.width.toNat*image.height.toNat*4
 scaled_fits : ∀source width height edge,(scaleRgba8ToEdge source width height edge).ok →
  (scaleRgba8ToEdge source width height edge).Fits edge

/-- A request, and what the resolvers and the renderer answer during its fetch. -/
structure Fetch where
 request : ThumbnailPipelineRequest
 colorPolicyResolver : Option (ThumbnailPipelineRequest → Bytes) := none
 sourceResolver : Option (ThumbnailPipelineRequest → ResolvedThumbnailSource) := none
 renderer : Option (ThumbnailPipelineRequest → RenderedThumbnail) := none

/-- No edge takes more turns of a loop than it has bits. -/
def edgeTurns : ℕ := 32

/-- The edges a doubling loop goes through. -/
def edgesUp (goesOn : UInt32 → Bool) : ℕ → UInt32 → List UInt32
 | 0, _=>[]
 | turns+1, edge=>if goesOn edge then edge::edgesUp goesOn turns (edge*2) else []

/-- The edges a halving loop goes through. -/
def edgesDown (goesOn : UInt32 → Bool) : ℕ → UInt32 → List UInt32
 | 0, _=>[]
 | turns+1, edge=>if goesOn edge then edge::edgesDown goesOn turns (edge / 2) else []

def cacheEdgeFrom (presentationEdge : UInt32) : ℕ → UInt32 → UInt32
 | 0, edge=>edge
 | turns+1, edge=>
  if edge < presentationEdge ∧ edge < kMaxArtifactDimension then
   cacheEdgeFrom presentationEdge turns (edge*2)
  else edge

def cacheEdge (presentationEdge : UInt32) : UInt32:=
 cacheEdgeFrom presentationEdge edgeTurns kThumbnailCanonicalEdge

/-- The edges the locators of one preview are bound with. -/
def edgeTiers : List UInt32:=
 edgesUp (· ≤ kMaxArtifactDimension) edgeTurns kThumbnailCanonicalEdge

variable (status : ThumbnailPipelineStatus)

def failure (diagnostic : Bytes) (fromCache : Bool := false)
  (freshness : PreviewFreshness := .verified) : ThumbnailPipelineResult where
 status:=status
 diagnostic:=diagnostic
 fromCache:=fromCache
 freshness:=freshness

def cacheSaveFailed (result : ThumbnailPipelineResult) (diagnostic : Bytes):
  ThumbnailPipelineResult:=
 { result with
   fromCache:=false
   diagnostic:=if diagnostic = [] then utf8 "preview cache persistence failed" else diagnostic }

def permitsOfflineFallback : Bool := status = .disconnected ∨ status = .timedOut

def revokesOfflineLocator : Bool:=
 status = .sourceChanged ∨ status = .sourceNotFound ∨ status = .permissionDenied ∨
  status = .authenticationFailed

section Keys
variable (request : ThumbnailPipelineRequest)

def makeCacheKey : CacheKey where
 source:=request.source
 handlerId:=request.handlerId
 handlerVersion:=request.handlerVersion
 renderPolicyVersion:=kThumbnailRenderPolicyVersion
 colorPolicyVersion:=⟨kThumbnailColorPolicyVersion,request.colorPolicyFingerprint⟩
 canonicalEdge:=cacheEdge request.canonicalEdge
 pageIndex:=request.pageIndex

def makeCacheLocator : CacheLocatorKey where
 catalogSource:=request.source
 routingPolicyVersion:=kThumbnailRoutingPolicyVersion
 renderPolicyVersion:=kThumbnailRenderPolicyVersion
 colorPolicyVersion:=⟨kThumbnailColorPolicyVersion,request.colorPolicyFingerprint⟩
 pageIndex:=request.pageIndex
 canonicalEdge:=cacheEdge request.canonicalEdge

end Keys

structure MaterializeOptions where
 presentationEdge : UInt32
 pageIndex : UInt32
 fromCache : Bool := false
 freshness : PreviewFreshness := .verified

section Images
variable (workings : Workings)

/-- Rows of pixels are packed where the stride leaves bytes between them. -/
def encodeQoiRgba8 (rgba8 : Bytes) (width height : UInt32) (stride : ℕ) : Except Bytes Bytes:=
 let rowBytes:=width.toNat*4
 let precedingRows:=height.toNat - 1
 if !validDimensions width height then .error (utf8 "QOI dimensions are outside cache limits")
 else if stride < rowBytes ∨ (2 ^ 64 - 1 - rowBytes) / stride < precedingRows ∨
   rgba8.length < precedingRows*stride+rowBytes then
  .error (utf8 "RGBA8 source buffer is truncated")
 else
  let packed:=(List.range height.toNat).flatMap fun row=>(rgba8.drop (stride*row)).take rowBytes
  match workings.qoiEncode ⟨width,height,packed⟩ with
  | none | some []=>.error (utf8 "QOI encoder rejected RGBA8 pixels")
  | some bytes=>
   if kMaxArtifactBytes - kVvt1HeaderBytes < bytes.length then
    .error (utf8 "QOI payload exceeds cache artifact limit")
   else .ok bytes

/-- A decoded image, made to fit the presentation edge. -/
def fitted (image : QoiImage) (edge : UInt32) : Except Bytes QoiImage:=
 if edge < image.width ∨ edge < image.height then
  let scaled:=workings.scaleRgba8ToEdge image.rgba8 image.width image.height edge
  if scaled.ok then .ok ⟨scaled.width,scaled.height,scaled.rgba8⟩ else .error scaled.error
 else .ok image

def pixels (artifact : ArtifactData) (edge : UInt32) (validated : Option (Except Bytes QoiImage)):
  Except Bytes QoiImage:=
 match validated.getD (decodeQoiRgba8 workings.libraries artifact.payload) with
 | .error message=>.error message
 | .ok decoded=>
  if decoded.width≠artifact.metadata.width ∨ decoded.height≠artifact.metadata.height then
   .error (utf8 "cached QOI dimensions do not match metadata")
  else fitted workings decoded edge

def materialize (artifact : ArtifactData) (options : MaterializeOptions)
  (validated : Option (Except Bytes QoiImage)) : ThumbnailPipelineResult:=
 match pixels workings artifact options.presentationEdge validated with
 | .error message=>failure .internalError message options.fromCache options.freshness
 | .ok image=>
  { status:=.success
    width:=image.width
    height:=image.height
    pageIndex:=options.pageIndex
    pageCount:=artifact.metadata.pageCount
    sourceColorModel:=artifact.metadata.sourceColorModel
    provenance:=artifact.metadata.provenance
    sourceProfileName:=artifact.colorIdentity.sourceProfileName
    sourceProfileFingerprint:=artifact.colorIdentity.sourceProfileFingerprint
    rgba8:=image.rgba8
    fromCache:=options.fromCache
    freshness:=options.freshness }

end Images

section Calls
variable (workings : Workings)

def perform {α : Type} (made : Call)
  (answer : PersistentThumbnailCache → Faults → Option α) : Session Step α:=
 call fun steps =>
  let faults:=workings.faults steps.length
  (⟨made,faults⟩,answer (run workings.libraries workings.limits steps) faults)

def lookup (key : CacheKey) (accessUnixNs : ℤ) : Session Step CacheLookupResult:=
 perform workings (.lookup key accessUnixNs) fun cache faults =>
  (cache.lookup workings.libraries faults key accessUnixNs).1

def lookupLocator (locator : CacheLocatorKey) (accessUnixNs : ℤ):
  Session Step CacheLookupResult:=
 perform workings (.lookupLocator locator accessUnixNs) fun cache faults =>
  (cache.lookupLocator workings.libraries faults locator accessUnixNs).1

def publish (request : CachePublishRequest) : Session Step CachePublishResult:=
 perform workings (.publish request) fun cache faults =>
  some (cache.publish workings.libraries faults request).1

def bindLocator (locator : CacheLocatorKey) (key : CacheKey) : Session Step Bool:=
 perform workings (.bindLocator locator key) fun cache faults =>
  some (cache.bindLocator workings.libraries faults locator key).1

def eraseLocator (locator : CacheLocatorKey) : Session Step Bool:=
 perform workings (.eraseLocator locator) fun cache faults =>
  some (cache.eraseLocator workings.libraries faults locator).1

def erase (key : CacheKey) : Session Step Bool:=
 perform workings (.erase key) fun cache faults=>(cache.erase workings.libraries faults key).1

end Calls

section Pipeline
variable (workings : Workings)

def eraseTiers (locator : CacheLocatorKey) : List UInt32 → Session Step Unit
 | []=>pure ()
 | edge::edges=>do
  let _ ← eraseLocator workings { locator with canonicalEdge:=edge }
  eraseTiers locator edges

variable (locator : CacheLocatorKey)

def revokeLocatorTiers : Session Step Unit := eraseTiers workings locator edgeTiers

/-- The loops over the other tiers go on while the lookups miss. -/
def lookupTiers (accessUnixNs : ℤ) (locator : CacheLocatorKey) (cached : CacheLookupResult):
  List UInt32 → Session Step (CacheLocatorKey × CacheLookupResult)
 | []=>pure (locator,cached)
 | edge::edges=>
  if cached.kind = .miss then do
   let offlineLocator:={ locator with canonicalEdge:=edge }
   let cached ← lookupLocator workings offlineLocator accessUnixNs
   lookupTiers accessUnixNs offlineLocator cached edges
  else pure (locator,cached)

def lookupOffline (accessUnixNs : ℤ) : Session Step (CacheLocatorKey × CacheLookupResult) := do
 let cached ← lookupLocator workings locator accessUnixNs
 let (offlineLocator,cached) ← lookupTiers workings accessUnixNs locator cached
  (edgesUp (· ≤ kMaxArtifactDimension) edgeTurns (locator.canonicalEdge*2))
 lookupTiers workings accessUnixNs offlineLocator cached
  (edgesDown (kThumbnailCanonicalEdge ≤ ·) edgeTurns (locator.canonicalEdge / 2))

variable (request : ThumbnailPipelineRequest)

def materializeOffline (locator : CacheLocatorKey) : Session Step ThumbnailPipelineResult := do
 let (offlineLocator,cached) ← lookupOffline workings locator request.accessUnixNs.toInt
 if cached.kind = .error then
  pure (failure .internalError
   (if cached.error = [] then utf8 "offline cache lookup failed" else cached.error))
 else if cached.kind≠.memoryHit ∧ cached.kind≠.diskHit then
  pure (failure .disconnected
   (utf8 "verified source is offline and no local preview is available"))
 else
  match cached.thumbnail with
  | none=>
   pure (failure .disconnected
    (utf8 "verified source is offline and no local preview is available"))
  | some thumbnail=>
   let result:=materialize workings thumbnail.artifact
    { presentationEdge:=request.canonicalEdge
      pageIndex:=request.pageIndex
      fromCache:=true
      freshness:=.offlineUnverified } (thumbnail.decoded.map .ok)
   if !result.ok then do
    let _ ← eraseLocator workings offlineLocator
    pure result
   else pure result

variable (key : CacheKey)

/-- The rendered preview goes to the cache; what comes back is its pixels and the error text of
what failed. -/
def persist (locator : CacheLocatorKey)
  (rendered : RenderedThumbnail) : Session Step (Option QoiImage × Bytes) := do
 let published ← publish workings
  { key:=key
    metadata:=rendered.metadata
    payload:=rendered.qoiPayload
    sourceProfileName:=rendered.sourceProfileName
    sourceProfileFingerprint:=rendered.sourceProfileFingerprint
    accessUnixNs:=request.accessUnixNs.toInt }
 if !published.published ∨ !published.indexPublished then do
  revokeLocatorTiers workings locator
  pure (published.decoded,if published.error = [] then
   utf8 "thumbnail cache publication failed" else published.error)
 else do
  let bound ← bindLocator workings locator key
  if !bound then do
   revokeLocatorTiers workings locator
   pure (published.decoded,utf8 "thumbnail cache locator publication failed")
  else pure (published.decoded,[])

def presentRendered (rendered : RenderedThumbnail)
  (decoded : Option (Except Bytes QoiImage)) (persistenceError : Bytes):
  ThumbnailPipelineResult:=
 match decoded with
 | none=>
  failure .internalError (if persistenceError = [] then
   utf8 "renderer returned an invalid QOI preview" else persistenceError)
 | some decoded=>
  let artifact : ArtifactData:=
   { metadata:=rendered.metadata
     cacheKeyDigest:=⟨List.replicate 32 0,rfl⟩
     colorIdentity:=⟨rendered.sourceProfileName,rendered.sourceProfileFingerprint⟩
     payload:=[] }
  let result:=materialize workings artifact
   { presentationEdge:=request.canonicalEdge,pageIndex:=request.pageIndex } (some decoded)
  if result.ok ∧ persistenceError≠[] then cacheSaveFailed result persistenceError else result

def renderAndPublish (renderer : Option (ThumbnailPipelineRequest → RenderedThumbnail))
  (request : ThumbnailPipelineRequest) (key : CacheKey) (locator : CacheLocatorKey)
  (allowPersistentCache : Bool) : Session Step ThumbnailPipelineResult:=
 match renderer with
 | none=>pure (failure .internalError (utf8 "thumbnail renderer is unavailable"))
 | some renderer=>
  let rendered:=renderer { request with canonicalEdge:=key.canonicalEdge }
  if rendered.status≠.success then
   let result:=failure rendered.status rendered.diagnostic
   if rendered.status = .workerStartFailed then
    pure { result with startupDiagnostic:=rendered.startupDiagnostic }
   else pure result
  else if rendered.metadata.encoding≠.qoiRgba8 ∨ rendered.metadata.pageCount = 0 ∨
    kMaxArtifactPageCount < rendered.metadata.pageCount then
   pure (failure .internalError (utf8 "renderer returned inconsistent metadata"))
  else if allowPersistentCache then do
   let (decoded,persistenceError) ← persist workings request key locator rendered
   pure (presentRendered workings request rendered (decoded.map .ok) persistenceError)
  else
   let decoded:=decodeQoiRgba8 workings.libraries rendered.qoiPayload
   pure (presentRendered workings request rendered (some decoded) [])

/-- The grid and the smaller pane tiers are derived from the pixels of a large one. -/
def deriveTiers (request : ThumbnailPipelineRequest) (key : CacheKey) (locator : CacheLocatorKey)
  (result : ThumbnailPipelineResult) : List UInt32 → Session Step ThumbnailPipelineResult
 | []=>pure result
 | edge::edges=>
  let scaled:=workings.scaleRgba8ToEdge result.rgba8 result.width result.height edge
  if !scaled.ok then do
   revokeLocatorTiers workings locator
   pure (cacheSaveFailed result scaled.error)
  else
   match encodeQoiRgba8 workings scaled.rgba8 scaled.width scaled.height
     (scaled.width.toNat*4) with
   | .error message=>do
    revokeLocatorTiers workings locator
    pure (cacheSaveFailed result message)
   | .ok encoded=>do
    let canonicalKey:={ key with canonicalEdge:=edge }
    let canonicalLocator:={ locator with canonicalEdge:=edge }
    let published ← publish workings
     { key:=canonicalKey
       metadata:=
        { width:=scaled.width
          height:=scaled.height
          pageCount:=result.pageCount
          sourceColorModel:=result.sourceColorModel
          provenance:=result.provenance }
       payload:=encoded
       sourceProfileName:=result.sourceProfileName
       sourceProfileFingerprint:=result.sourceProfileFingerprint
       accessUnixNs:=request.accessUnixNs.toInt }
    let failed:=cacheSaveFailed result (if published.error = [] then
     utf8 "canonical thumbnail publication failed" else published.error)
    if !published.published ∨ !published.indexPublished then do
     revokeLocatorTiers workings locator
     pure failed
    else do
     let bound ← bindLocator workings canonicalLocator canonicalKey
     if !bound then do
      revokeLocatorTiers workings locator
      pure failed
     else deriveTiers request key locator result edges

def finish (locator : CacheLocatorKey)
  (result : ThumbnailPipelineResult) : Session Step ThumbnailPipelineResult:=
 if !result.ok ∨ !request.extendedLimits ∨ key.canonicalEdge ≤ kThumbnailCanonicalEdge then
  pure result
 else
  deriveTiers workings request key locator result
   (edgesUp (· < key.canonicalEdge) edgeTurns kThumbnailCanonicalEdge)

def renderAndFinish (fetch : Fetch) (request : ThumbnailPipelineRequest) (key : CacheKey)
  (locator : CacheLocatorKey) : Session Step ThumbnailPipelineResult := do
 let rendered ← renderAndPublish workings fetch.renderer request key locator true
 if revokesOfflineLocator rendered.status then do
  revokeLocatorTiers workings locator
  finish workings request key locator rendered
 else finish workings request key locator rendered

/-- The preview of a hit is bound to the locator. -/
def finishHit (locator : CacheLocatorKey)
  (cached : CacheLookupResult) (thumbnail : CachedThumbnail)
  (result : ThumbnailPipelineResult) : Session Step ThumbnailPipelineResult:=
 let failed:=cacheSaveFailed result (if cached.error = [] then
  utf8 "thumbnail cache locator publication failed" else cached.error)
 if thumbnail.indexRecord = none then do
  revokeLocatorTiers workings locator
  finish workings request key locator failed
 else do
  let bound ← bindLocator workings locator key
  if !bound then do
   revokeLocatorTiers workings locator
   finish workings request key locator failed
  else finish workings request key locator result

def fetchResolved (fetch : Fetch) (request : ThumbnailPipelineRequest)
  (locator : CacheLocatorKey) : Session Step ThumbnailPipelineResult:=
 let key:=makeCacheKey request
 if request.passwordUtf8≠[] then
  renderAndPublish workings fetch.renderer request key locator false
 else do
  let cached ← lookup workings key request.accessUnixNs.toInt
  if cached.kind = .memoryHit ∨ cached.kind = .diskHit then
   match cached.thumbnail with
   | none=>pure (failure .internalError (utf8 "cache hit did not contain an artifact"))
   | some thumbnail=>
    let result:=materialize workings thumbnail.artifact
     { presentationEdge:=request.canonicalEdge
       pageIndex:=request.pageIndex
       fromCache:=true } (thumbnail.decoded.map .ok)
    if result.ok then finishHit workings request key locator cached thumbnail result
    else do
     let _ ← erase workings key
     renderAndFinish workings fetch request key locator
  else renderAndFinish workings fetch request key locator

/-- A source that is not resolved may be offline, and may have taken its previews with it. -/
def fetchUnresolved (locator : CacheLocatorKey)
  (resolved : ResolvedThumbnailSource) : Session Step ThumbnailPipelineResult:=
 let failed:=failure resolved.status resolved.diagnostic
 if request.allowOfflineFallback ∧ request.passwordUtf8 = [] ∧
   permitsOfflineFallback resolved.status then do
  let offline ← materializeOffline workings request locator
  if offline.ok then pure offline else pure failed
 else if revokesOfflineLocator resolved.status then do
  revokeLocatorTiers workings locator
  pure failed
 else pure failed

def invalidRequest : Bool:=
 request.source.sourceIdentityUtf8 = [] ∨ request.handlerId = [] ∨ request.handlerVersion = 0 ∨
  kMaxArtifactPageCount ≤ request.pageIndex ∨ request.canonicalEdge = 0 ∨
  kMaxArtifactDimension < request.canonicalEdge

def Fetch.colored (fetch : Fetch) : ThumbnailPipelineRequest:=
 match fetch.colorPolicyResolver with
 | none=>fetch.request
 | some resolver=>
  if resolver fetch.request = [] then fetch.request
  else { fetch.request with colorPolicyFingerprint:=resolver fetch.request }

def withSource (resolved : ResolvedThumbnailSource) : ThumbnailPipelineRequest:=
 { request with
   source:=resolved.source
   handlerId:=resolved.handlerId
   handlerVersion:=resolved.handlerVersion
   colorPolicyFingerprint:=resolved.colorPolicyFingerprint }

def fetch (fetch : Fetch) : Session Step ThumbnailPipelineResult:=
 let request:=fetch.request
 if invalidRequest request then
  pure (failure .internalError (utf8 "thumbnail request is invalid"))
 else if isTemporaryPreviewSource request.source.sourceIdentityUtf8 then
  pure (failure .unsupported (utf8 "temporary files have no preview"))
 else
  let locator:=makeCacheLocator fetch.colored
  if request.offlineCacheOnly then
   if request.passwordUtf8≠[] then
    pure (failure .disconnected
     (utf8 "password-protected previews are not persisted for offline use"))
   else materializeOffline workings request locator
  else
   match fetch.sourceResolver with
   | none=>fetchResolved workings fetch fetch.colored locator
   | some resolver=>
    let resolved:=resolver fetch.colored
    if !resolved.ok then fetchUnresolved workings request locator resolved
    else if resolved.handlerId = [] ∨ resolved.handlerVersion = 0 then
     pure (failure .internalError
      (utf8 "thumbnail source resolver returned an invalid handler identity"))
    else fetchResolved workings fetch (withSource fetch.colored resolved) locator

end Pipeline

/-- The calls of the cache once some fetches are over, one after the other. -/
def callsAfter (workings : Workings) (before : List Step) (fetches : List Fetch) : List Step:=
 fetches.foldl (fun steps made=>(fetch workings made steps).2) before

/-- What a fetch comes to after some others; nothing where it throws. -/
def answerAfter (workings : Workings) (before : List Step) (fetches : List Fetch) (asked : Fetch):
  Option ThumbnailPipelineResult:=
 (fetch workings asked (callsAfter workings before fetches)).1

end VoVe.ThumbnailPipeline
