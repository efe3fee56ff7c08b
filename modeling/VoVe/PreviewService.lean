import Mathlib.Data.List.Sort
import VoVe.CachePrune
import VoVe.ThumbnailTypes

set_option autoImplicit false

/-! The helper's side of a preview session, `helper/service.cpp`: what each event of the event loop
does to the queue, to the table of waiting requests and to the connection. -/

namespace VoVe.PreviewService
open AsciiText ByteCodec PreviewProtocol ThumbnailTypes
open CachePrune (DiskCacheLimits PruneResult)
open ThumbnailQueue (JobId ThumbnailRequest ThumbnailScheduler)
open TransactionCodec (Thrown)

def kMaximumQueuedRequests : ℕ := 128
def kMaximumQueuedOutputBytes : ℕ := kMaximumFrameBytes*2

def constantTimeEqual (left right : Bytes) (maximum : ℕ) : Bool:=
 let difference:=(List.range maximum).foldl
  (fun difference index=>difference ||| (left.getD index 0 ^^^ right.getD index 0).toNat)
  (left.length ^^^ right.length)
 difference = 0

def colorModelName : ArtifactCodec.ColorModel → Bytes
 | .unknown=>[]
 | .gray=>utf8 "GRAY"
 | .rgb=>utf8 "RGB"
 | .cmyk=>utf8 "CMYK"
 | .lab=>utf8 "LAB"
 | .mixed=>utf8 "MIXED"
 | .indexed=>utf8 "INDEXED"

def mapProvenance : ArtifactCodec.PreviewProvenance → PreviewProvenance
 | .embeddedPreview=>.embeddedPreview
 | .primaryRender=>.primaryRender

def mapStatus : ThumbnailPipelineStatus → ResponseStatus
 | .success=>.successDecoded
 | .unsupported=>.unsupported
 | .malformedSource=>.malformed
 | .timedOut=>.timedOut
 | .processingTimedOut=>.processingTimedOut
 | .cancelled=>.cancelled
 | .resourceLimit=>.tooLarge
 | .pdfInputTooLarge=>.pdfInputTooLarge
 | .memoryLimit=>.memoryLimit
 | .sourceUnavailable=>.sourceUnavailable
 | .sourceChanged=>.sourceChanged
 | .sourceNotFound=>.notFound
 | .permissionDenied=>.permissionDenied
 | .authenticationFailed=>.authenticationFailed
 | .disconnected=>.disconnected
 | .colorProfileRequired=>.colorProfileRequired
 | .passwordRequired=>.passwordRequired
 | .documentPasswordIncorrect=>.documentPasswordIncorrect
 | .ghostscriptRequired=>.ghostscriptRequired
 | .embeddedPreviewUnavailable=>.embeddedPreviewUnavailable
 | .internalError=>.internalError
 | .workerStartFailed=>.workerStartFailed

def failureResponse (requestId : RequestId) (status : ResponseStatus) (pageIndex : UInt32):
  PreviewResponse:=
 { requestId,status,pageIndex }

variable (request : PreviewRequest)

/-- What `dispatch_frame` submits to the scheduler. -/
def scheduled : ThumbnailRequest where
 jobId:=request.requestId
 generation:=request.generation
 sourceId:=request.requestId
 canonicalEdge:=request.canonicalEdge.toUInt32
 priority:=request.priority

def pipelineRequest (accessUnixNs : Int64) : ThumbnailPipelineRequest where
 source:={
  sourceIdentityUtf8:=request.pathUtf8
  sizeBytes:=request.sourceSize
  modifiedUnixNs:=request.modifiedUnixNs
  stableFileId:=
   if request.sourceRevisionUtf8 = [] then none else some request.sourceRevisionUtf8 }
 accessUnixNs:=accessUnixNs
 canonicalEdge:=request.canonicalEdge.toUInt32
 pageIndex:=request.pageIndex
 passwordUtf8:=request.passwordUtf8
 offlineCacheOnly:=request.offlineCacheOnly
 allowOfflineFallback:=request.allowOfflineFallback
 selectedView:=request.selectedView
 extendedLimits:=request.extendedLimits

variable (result : ThumbnailPipelineResult)

def responseStatus : ResponseStatus:=
 if result.ok ∧ result.freshness = .offlineUnverified then .successOfflineCached
 else if result.fromCache ∧ result.ok then .successCached
 else mapStatus result.status

/-- The widths and heights are cut to 16 bits. -/
def pipelineResponse : PreviewResponse:=
 let failed : PreviewResponse := {
  requestId:=request.requestId
  status:=responseStatus result
  pageIndex:=request.pageIndex
  startupDiagnostic:=
   if result.status = .workerStartFailed then result.startupDiagnostic else {} }
 if result.ok then
  { failed with
    width:=result.width.toUInt16
    height:=result.height.toUInt16
    sourceColorModelUtf8:=colorModelName result.sourceColorModel
    sourceColorProfileUtf8:=result.sourceProfileName
    sourceProfileFingerprint:=result.sourceProfileFingerprint
    provenance:=mapProvenance result.provenance
    pageIndex:=result.pageIndex
    pageCount:=result.pageCount
    rgba8:=result.rgba8 }
 else failed

/-- The constructor throws on texts the handshake cannot carry. -/
structure ServiceOptions where
 buildIdUtf8 : Bytes
 authTokenUtf8 : Bytes
 diskCacheLimits : DiskCacheLimits
 valid : validHelloFields ⟨buildIdUtf8,authTokenUtf8⟩=true

/-- What one connection has brought and taken: the ids of the preview requests read from it and the
frames written to it. -/
structure Connection where
 received : List RequestId := []
 sent : List Bytes := []

structure Service where
 socket : Option Connection := none
 authenticated : Bool := false
 scheduler : ThumbnailScheduler := .new kMaximumQueuedRequests
 pendingRequests : List (RequestId × PreviewRequest) := []
 processingScheduled : Bool := false
 publishedSincePrune : UInt8 := 0
 sessionEpoch : UInt64 := 0
 cacheMaintenanceError : String := ""
 disconnectNotices : ℕ := 0

/-- The bytes waiting in the socket before a write, and whether it takes the whole frame. -/
structure Write where
 unsent : ℕ
 taken : Bool

structure DiskCacheStats where
 entries : UInt64
 bytes : UInt64
 error : String

/-- What the code around the service answers during one event. -/
structure Surroundings where
 /-- By the number of frames written on the connection. -/
 writes : ℕ → Write
 /-- The bytes waiting when processing is scheduled, by the number of requests received. -/
 backlog : ℕ → ℕ
 /-- The connection outlives `flush`. -/
 flushed : Bool
 accessUnixNs : Int64
 /-- Nothing where `fetch` throws. -/
 fetch : ThumbnailPipelineRequest → Option ThumbnailPipelineResult
 prune : DiskCacheLimits → Bool → PruneResult
 diskStats : DiskCacheStats
 /-- Where the hash table has an id in its iteration order. -/
 bucket : RequestId → ℕ

/-- What leaves a handler other than by its return. -/
inductive Fault where
 | thrown (exception : Thrown)
 | outOfRange
 | invalidIterator
 deriving DecidableEq

def liftThrown {α : Type} : Except Thrown α → Except Fault α
 | .ok value=>.ok value
 | .error exception=>.error (.thrown exception)

namespace Service
variable (around : Surroundings) (service : Service)

def keys : List RequestId := service.pendingRequests.map Prod.fst

def find (requestId : RequestId) : Option (RequestId × PreviewRequest):=
 service.pendingRequests.find? (·.1 = requestId)

def erase (requestId : RequestId) : Service:=
 { service with pendingRequests:=service.pendingRequests.filter (·.1≠requestId) }

/-- An iterator stays valid until its own entry is erased. -/
def eraseEntry (entry : RequestId × PreviewRequest) : Except Fault Service:=
 if entry ∈ service.pendingRequests then .ok (service.erase entry.1)
 else .error .invalidIterator

def insertOrAssign (requestId : RequestId) (request : PreviewRequest) : Service:=
 let others:=(service.erase requestId).pendingRequests
 { service with pendingRequests:=(requestId,request)::others }

def notifyClientDisconnected : Service:=
 { service with disconnectNotices:=service.disconnectNotices+1 }

def resetClient : Service:=
 { service with
   sessionEpoch:=service.sessionEpoch+1
   socket:=none
   authenticated:=false
   scheduler:=.new kMaximumQueuedRequests
   pendingRequests:=[]
   processingScheduled:=false }

def closeClient (notifyOwner : Bool) : Service:=
 let ownerSession:=service.socket.isSome && service.authenticated
 if ownerSession && notifyOwner then service.resetClient.notifyClientDisconnected
 else service.resetClient

def writeFrame (frame : Bytes) : Bool × Service:=
 match service.socket with
 | none=>(false,service.closeClient true)
 | some connection=>
  let write:=around.writes connection.sent.length
  if write.unsent+frame.length > kMaximumQueuedOutputBytes then
   (false,service.closeClient true)
  else if !write.taken then (false,service.closeClient true)
  else
   (true,{ service with socket:=some { connection with sent:=connection.sent++[frame] } })

/-- A response that cannot be encoded is replaced by an internal error, once. -/
def writeResponse (response : PreviewResponse) : Bool × Service:=
 match encodePreviewResponse response with
 | .ok frame=>service.writeFrame around frame
 | .error _=>
  if response.status = .internalError then (false,service.closeClient true)
  else
   match encodePreviewResponse
     (failureResponse response.requestId .internalError response.pageIndex) with
   | .ok frame=>service.writeFrame around frame
   | .error _=>(false,service.closeClient true)

def recordCacheMaintenance (result : PruneResult) : Service:=
 let error:=
  if result.ok then ""
  else if result.error = "" then "preview cache maintenance failed"
  else result.error
 { service with cacheMaintenanceError:=error }

def scheduleProcessing : Service:=
 match service.socket with
 | none=>service
 | some connection=>
  if !service.authenticated ∨ service.scheduler.pending = [] ∨ service.processingScheduled ∨
    around.backlog connection.received.length > kMaximumQueuedOutputBytes / 2 then service
  else { service with processingScheduled:=true }

section Frames
variable (options : ServiceOptions)

/-- The request's arrival, for the connection's account of them. -/
def received (requestId : RequestId) : Service:=
 { service with
   socket:=service.socket.map fun connection =>
    { connection with received:=connection.received++[requestId] } }

def answerEvicted (evictedJob : Option JobId) : Except Fault Service:=
 match evictedJob with
 | none=>.ok service
 | some job=>
  match service.find job with
  | none=>.ok service
  | some evicted=>
   let answered:=(service.writeResponse around
    (failureResponse evicted.1 .cancelled evicted.2.pageIndex)).2
   answered.eraseEntry evicted

def acceptRequest (request : PreviewRequest) : Except Fault (Bool × Service) := do
 let (submitted,scheduler) := service.scheduler.submit (scheduled request)
 let service:={ service with scheduler }
 if !submitted.accepted then
  let status:=if submitted.status = .cancelledGeneration then .cancelled else .queueBusy
  pure (service.writeResponse around
   (failureResponse request.requestId status request.pageIndex))
 else
  let service ← service.answerEvicted around submitted.evictedJob
  pure (true, (service.insertOrAssign request.requestId request).scheduleProcessing around)

variable (generation : ThumbnailQueue.RequestGeneration)

/-- The ids with the generation, in the table's iteration order. -/
def cancelledRequests : List RequestId:=
 ((service.pendingRequests.filter (·.2.generation = generation)).map Prod.fst).insertionSort
  fun left right=>around.bucket left ≤ around.bucket right

/-- The loop of `cancel_generation`; `at` throws when the id is no longer in the table. -/
def answerCancelled : List RequestId → Service → Except Fault Service
 | [], service=>.ok service
 | requestId::rest, service=>
  match service.find requestId with
  | none=>.error .outOfRange
  | some cancelled=>
   answerCancelled rest ((service.erase requestId).writeResponse around
    (failureResponse requestId .cancelled cancelled.2.pageIndex)).2

def cancelRequests : Except Fault Service:=
 let service:=
  { service with scheduler:=(service.scheduler.cancelGeneration generation).2 }
 service.answerCancelled around (service.cancelledRequests around generation)

def answerCacheRequest (request : CacheRequest) : Except Fault (Bool × Service) := do
 let limits:=
  if request.operation = .clear then
   { options.diskCacheLimits with maximumEntries:=0,maximumBytes:=0 }
  else options.diskCacheLimits
 let service:=service.recordCacheMaintenance (around.prune limits true)
 let error:=
  if service.cacheMaintenanceError ≠ "" then service.cacheMaintenanceError
  else around.diskStats.error
 let frame ← liftThrown <| encodeCacheResponse {
  requestId:=request.requestId
  status:=if error = "" then .success else .failed
  entries:=around.diskStats.entries
  bytes:=around.diskStats.bytes }
 pure (service.writeFrame around frame)

def authenticate (frame : Bytes) : Except Fault (Bool × Service):=
 match decodeHello frame with
 | .error _=>.ok (false,service)
 | .ok hello=>
  if !constantTimeEqual hello.buildIdUtf8 options.buildIdUtf8 kMaximumBuildIdBytes ∨
    !constantTimeEqual hello.authTokenUtf8 options.authTokenUtf8 kMaximumAuthTokenBytes then
   .ok (false,service)
  else do
   let ack ← liftThrown (encodeHelloAck ⟨options.buildIdUtf8,options.authTokenUtf8⟩)
   pure ({ service with authenticated:=true }.writeFrame around ack)

def dispatchFrame (type : MessageType) (frame : Bytes) : Except Fault (Bool × Service):=
 if !service.authenticated then
  if type = .hello then service.authenticate around options frame else .ok (false,service)
 else
  match type with
  | .previewRequest=>
   match decodePreviewRequest frame with
   | .error _=>.ok (false,service)
   | .ok request=>(service.received request.requestId).acceptRequest around request
  | .cancelGeneration=>
   match decodeCancelGeneration frame with
   | .error _=>.ok (false,service)
   | .ok cancel=>do
    let service ← service.cancelRequests around cancel.generation
    pure (true,service)
  | .cacheRequest=>
   match decodeCacheRequest frame with
   | .error _=>.ok (false,service)
   | .ok request=>service.answerCacheRequest around options request
  | .hello | .helloAck | .previewResponse | .jobStarted | .cacheResponse=>.ok (false,service)

/-- One turn of `consume_frames`, with the frame it cuts from the buffer. -/
def consumeFrame (frame : Bytes) : Except Fault Service := do
 match decodeHeader frame with
 | .error _=>pure (service.closeClient true)
 | .ok header=>
  match MessageType.ofCode header.kind with
  | none=>pure (service.closeClient true)
  | some type=>
   let (accepted,service) ← service.dispatchFrame around options type frame
   pure (if accepted then service else service.closeClient true)

end Frames

section Processing
variable (options : ServiceOptions)

def published (result : ThumbnailPipelineResult) : Service:=
 if result.ok ∧ !result.fromCache then
  let count:=service.publishedSincePrune+1
  if count ≥ 32 then
   { service.recordCacheMaintenance (around.prune options.diskCacheLimits false) with
     publishedSincePrune:=0 }
  else { service with publishedSincePrune:=count }
 else service

def fetchPreview (request : PreviewRequest) : PreviewResponse × Service:=
 match around.fetch (pipelineRequest request around.accessUnixNs) with
 | none=>(failureResponse request.requestId .internalError request.pageIndex,service)
 | some result=>(pipelineResponse request result,service.published around options result)

def disconnected : Service:=
 match service.socket with
 | none=>service
 | some _=>
  if service.authenticated then service.resetClient.notifyClientDisconnected
  else service.resetClient

def processRequest (request : PreviewRequest) : Except Fault Service := do
 let started ← liftThrown (encodeJobStarted ⟨request.requestId⟩)
 let (written,service) := service.writeFrame around started
 if !written then pure service
 else
  let service:=if around.flushed then service else service.disconnected
  let (response,service) := service.fetchPreview around options request
  pure ((service.writeResponse around response).2.scheduleProcessing around)

def processNext : Except Fault Service:=
 let service:={ service with processingScheduled:=false }
 if !service.authenticated ∨ service.socket.isNone ∨ service.scheduler.pending = [] then
  .ok service
 else
  match service.scheduler.takeNext with
  | (none,scheduler)=>.ok { service with scheduler }
  | (some taken,scheduler)=>
   let service:={ service with scheduler }
   match service.find taken.jobId with
   | none=>.ok (service.scheduleProcessing around)
   | some found=>(service.erase found.1).processRequest around options found.2

end Processing

end Service

inductive Event where
 | connected (trusted : Bool)
 | frame (frame : Bytes)
 /-- The receive buffer is full, or the read returns nothing. -/
 | readFailed
 | bytesWritten
 | disconnected
 | authenticationTimeout (epoch : UInt64)
 | process (epoch : UInt64)
 | closed

namespace Service
variable (options : ServiceOptions)

/-- A second connection is refused. -/
def acceptConnection (service : Service) (trusted : Bool) : Service:=
 if service.socket.isSome ∨ !trusted then service
 else { service.resetClient with socket:=some {} }

def step (around : Surroundings) (service : Service) : Event → Except Fault Service
 | .connected trusted=>.ok (service.acceptConnection trusted)
 | .frame frame=>
  if service.socket.isSome then service.consumeFrame around options frame else .ok service
 | .readFailed=>.ok (if service.socket.isSome then service.closeClient true else service)
 | .bytesWritten=>.ok (service.scheduleProcessing around)
 | .disconnected=>.ok service.disconnected
 | .authenticationTimeout epoch=>
  .ok (if service.sessionEpoch = epoch ∧ service.socket.isSome ∧ !service.authenticated then
   service.closeClient true else service)
 | .process epoch=>
  if service.sessionEpoch = epoch then service.processNext around options else .ok service
 | .closed=>.ok (service.closeClient false)

def run (service : Service) (steps : List (Surroundings × Event)) : Except Fault Service:=
 steps.foldlM (fun service (around,event)=>service.step options around event) service

end Service
end VoVe.PreviewService
