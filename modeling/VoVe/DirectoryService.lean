import VoVe.CatalogTypes
import Mathlib.Logic.Function.Basic

set_option autoImplicit false

/-!
The listing service of `directory_service.cpp`. The caller, and for every request a
monitor thread and a transport thread, share the fields under the mutex. Every section
under the mutex is one step, every access to an atomic outside of them another.
-/

namespace VoVe.DirectoryService
open ByteCodec AsciiText CatalogOrder CatalogTypes

/-- How `run_request` goes on after `publish_failure`. -/
inductive Ending where
 | drain
 | finish
 deriving DecidableEq

/-- The two callers of `publish_batch` in `run_request`. -/
inductive Publisher where
 | frame
 | failure (ending : Ending)
 deriving DecidableEq

/-- Where the transport thread stands in `run_request`. -/
inductive WorkerPhase where
 | notStarted
 | starting
 | attaching
 | writing
 | looping
 | reading
 | publishing (batch : CatalogBatch) (publisher : Publisher)
 | waiting (isFinal : Bool) (publisher : Publisher)
 | failing (error : CatalogError) (ending : Ending)
 | drafting (error : CatalogError) (ending : Ending)
 | draining (receivedFinal : Bool)
 | finishing
 | retiring
 | ended
 deriving DecidableEq

inductive MonitorPhase where
 | notStarted
 | watching
 | ended
 deriving DecidableEq

/-- `EnumerationAttempt`, with the local state of its two threads. -/
structure Attempt where
 request : CatalogRequest
 done : Bool := false
 timedOut : Bool := false
 cancelled : Bool := false
 terminalPublished : Bool := false
 receivedFiles : Bool := false
 directoriesVisited : UInt32 := 0
 pendingBatch : Option CatalogBatch := none
 monitor : MonitorPhase := .notStarted
 worker : WorkerPhase := .notStarted
 receivedEntries : ℕ := 0
 receivedMetadataBytes : ℕ := 0
 deriving DecidableEq

def Attempt.generation (attempt : Attempt) : RequestGeneration := attempt.request.generation

def Attempt.recursive (attempt : Attempt) : Bool := attempt.request.recursive

/-- The fields of `DirectoryServiceState` that the mutex protects. -/
structure Shared where
 batches : List CatalogBatch := []
 terminalBatch : Option CatalogBatch := none
 progressBatch : Option CatalogBatch := none
 attempts : List RequestGeneration := []
 activeWorkers : ℕ := 0
 deriving DecidableEq

variable (active : RequestGeneration)

def attemptIsCurrent (attempt : Attempt) : Bool:=
 !attempt.timedOut && !attempt.cancelled && active = attempt.generation

def ioError (text : Bytes) : CatalogError := { kind:=.ioError,messageUtf8:=text }

variable (inactivityTimeoutMs : ℕ)

def timeoutError (totalTimeout : Bool) : CatalogError:=
 { kind:=.timedOut
   messageUtf8:=
    if totalTimeout then utf8 "Recursive catalog total time limit reached"
    else utf8 "Directory helper timed out after " ++ toChars 10 inactivityTimeoutMs ++
     utf8 " milliseconds without progress" }

/-- A recursive batch of this kind only tells how far the traversal is. -/
def progressReport (batch : CatalogBatch) : Bool:=
 batch.entries = [] && !batch.isFinal && !batch.error.isError && !batch.truncated

def publishTimeout (active : RequestGeneration) (shared : Shared)
  (attempt : Attempt) (totalTimeout : Bool) : Shared × Attempt:=
 if active≠attempt.generation then (shared,attempt)
 else
  let batch : CatalogBatch := { attempt.pendingBatch.getD {} with
   generation:=attempt.generation
   isFinal:=true
   truncated:=attempt.recursive
   rootFailed:=false
   directoriesVisited:=attempt.directoriesVisited
   error:=timeoutError inactivityTimeoutMs totalTimeout }
  ({ shared with terminalBatch:=some batch,progressBatch:=none },
   { attempt with pendingBatch:=none,terminalPublished:=true })

/-- Where the transport thread goes once `publish_batch` has returned. -/
def afterPublish (publisher : Publisher) (isFinal published : Bool) : WorkerPhase:=
 match publisher with
 | .frame=>
  if !published then .draining false else if isFinal then .draining true else .looping
 | .failure .drain=>.draining false
 | .failure .finish=>.finishing

/-- `publish_batch` behind its wait. A current attempt still holds its pending batch. -/
def enqueuePending (shared : Shared) (attempt : Attempt)
  (isFinal : Bool) (publisher : Publisher) : Shared × Attempt:=
 if !attemptIsCurrent active attempt then
  (shared,{ attempt with
   pendingBatch:=none
   worker:=afterPublish publisher isFinal false })
 else
  match attempt.pendingBatch with
  | none=>(shared,{ attempt with worker:=afterPublish publisher isFinal false })
  | some batch=>
   ({ shared with
       batches:=shared.batches++[batch]
       progressBatch:=if batch.isFinal then none else shared.progressBatch },
    { attempt with
      pendingBatch:=none
      terminalPublished:=attempt.terminalPublished || batch.isFinal
      worker:=afterPublish publisher isFinal true })

def waitForSpace (shared : Shared) (attempt : Attempt)
  (isFinal : Bool) (publisher : Publisher) : Shared × Attempt:=
 if !attemptIsCurrent active attempt || shared.batches.length < kCatalogQueueCapacity then
  enqueuePending active shared attempt isFinal publisher
 else (shared,{ attempt with worker:=.waiting isFinal publisher })

variable (attempt : Attempt)

/-- The batch with the largest number of directories reported so far. -/
def stamped (batch : CatalogBatch) : CatalogBatch:=
 { batch with directoriesVisited:=max attempt.directoriesVisited batch.directoriesVisited }

/-- The attempt once it has noted such a batch. -/
def observed (batch : CatalogBatch) : Attempt:=
 { attempt with
   receivedFiles:=attempt.receivedFiles || batch.entries≠[]
   directoriesVisited:=(stamped attempt batch).directoriesVisited }

/-- The first section of `publish_batch`; `late` tells that the deadline has passed. -/
def publishBatch (active : RequestGeneration) (shared : Shared)
  (attempt : Attempt) (batch : CatalogBatch) (publisher : Publisher) (late : Bool):
  Shared × Attempt:=
 if !attemptIsCurrent active attempt || attempt.terminalPublished then
  (shared,{ attempt with worker:=afterPublish publisher batch.isFinal false })
 else if attempt.recursive && late then
  publishTimeout inactivityTimeoutMs active shared
   { attempt with
     pendingBatch:=some batch
     timedOut:=true
     worker:=afterPublish publisher batch.isFinal false } true
 else
  let stamp:=stamped attempt batch
  if attempt.recursive && progressReport stamp then
   ({ shared with progressBatch:=some stamp },
    { observed attempt batch with worker:=afterPublish publisher batch.isFinal true })
  else
   waitForSpace active { shared with progressBatch:=none }
    { observed attempt batch with pendingBatch:=some stamp } batch.isFinal publisher

/-- `sizeof(core::DirectoryEntry)` on a 64 bit target. -/
def directoryEntrySize : ℕ := 160

def recursiveMetadataCost (entry : DirectoryEntry) : ℕ:=
 directoryEntrySize+256+2*(entry.nameUtf8.length+entry.pathUtf8.length +
  entry.sourceRevisionUtf8.length)

/-- The entries of a recursive batch within the bounds, and the two counters after them. -/
def entriesWithinBounds (limit : UInt64):
  ℕ → ℕ → List DirectoryEntry → List DirectoryEntry × ℕ × ℕ
 | received, metadata, []=>([],received,metadata)
 | received, metadata, entry::rest=>
  let cost:=recursiveMetadataCost entry
  if entry.kind≠.file ∨ limit.toNat ≤ received ∨
    kRecursiveCatalogMaximumMetadataBytes - metadata < cost then
   ([],received,metadata)
  else
   let within:=entriesWithinBounds limit (received+1) (metadata+cost) rest
   (entry::within.1,within.2)

/-- What `run_request` does with a decoded frame before it is published. -/
def receiveBatch (batch : CatalogBatch) : Attempt:=
 if batch.generation≠attempt.generation then
  { attempt with
    worker:=.failing (ioError (utf8 "catalog helper returned the wrong generation")) .drain }
 else if attempt.recursive then
  let within:=entriesWithinBounds (recursiveEntryLimit attempt.request)
   attempt.receivedEntries attempt.receivedMetadataBytes batch.entries
  let cut:=within.1.length≠batch.entries.length
  let bounded : CatalogBatch := { batch with
   entries:=within.1
   isFinal:=batch.isFinal || cut
   truncated:=batch.truncated || cut || batch.error.isError }
  { attempt with
    receivedEntries:=within.2.1
    receivedMetadataBytes:=within.2.2
    worker:=.publishing bounded .frame }
 else { attempt with worker:=.publishing batch .frame }

def failureBatch (error : CatalogError) : CatalogBatch:=
 { generation:=attempt.generation
   isFinal:=true
   truncated:=attempt.recursive
   rootFailed:=attempt.recursive && attempt.directoriesVisited = 0 && !attempt.receivedFiles
   directoriesVisited:=attempt.directoriesVisited
   error:=error }

/-- What the transport thread learns of its helper, the clock and a thrown exception. -/
inductive WorkerInput where
 | proceed
 | started (error : Option CatalogError)
 | written (transportError : Option Bytes)
 | unreadable (transportError : Bytes)
 | decoded (batch : CatalogBatch)
 | clock (late : Bool)
 | exited (exitCode : Int64) (waitError : Bytes)
 | thrown (what : Option Bytes)
 deriving DecidableEq

def thrownError (what : Option Bytes) : CatalogError:=
 ioError (what.getD (utf8 "Directory helper transport failed"))

variable (shared : Shared)

/-- `finish_worker`, its section. -/
def retire (attempt : Attempt) : Shared:=
 { shared with
   activeWorkers:=shared.activeWorkers - 1
   attempts:=shared.attempts.filter (·≠attempt.generation) }

def workerStep (active : RequestGeneration) (shared : Shared)
  (attempt : Attempt) (input : WorkerInput) : Option (Shared × Attempt):=
 match attempt.worker, input with
 | .starting, .started none=>some (shared,{ attempt with worker:=.attaching })
 | .starting, .started (some error)=>
  some (shared,{ attempt with worker:=.failing error .finish })
 | .attaching, .proceed=>
  some (shared,{ attempt with
   worker:=if attemptIsCurrent active attempt then .writing else .finishing })
 | .writing, .written none=>some (shared,{ attempt with worker:=.looping })
 | .writing, .written (some transportError)=>
  some (shared,{ attempt with worker:=.failing (ioError transportError) .finish })
 | .looping, .proceed=>
  some (shared,{ attempt with
   worker:=if attemptIsCurrent active attempt then .reading else .draining false })
 | .reading, .unreadable transportError=>
  some (shared,{ attempt with worker:=.failing (ioError transportError) .drain })
 | .reading, .decoded batch=>some (shared,receiveBatch attempt batch)
 | .publishing batch publisher, .clock late=>
  some (publishBatch inactivityTimeoutMs active shared attempt batch publisher late)
 | .waiting isFinal publisher, .proceed=>
  some (waitForSpace active shared attempt isFinal publisher)
 | .failing error ending, .proceed=>
  some (shared,{ attempt with
   worker:=
    if attemptIsCurrent active attempt then .drafting error ending
    else afterPublish (.failure ending) true false })
 | .drafting error ending, .proceed=>
  some (shared,{ attempt with
   worker:=.publishing (failureBatch attempt error) (.failure ending) })
 | .draining receivedFinal, .exited exitCode waitError=>
  some (shared,{ attempt with
   worker:=
    if !receivedFinal && attemptIsCurrent active attempt && exitCode≠0 && waitError≠[] then
     .failing { kind:=.ioError,messageUtf8:=waitError,platformCode:=exitCode } .finish
    else .finishing })
 | .finishing, .proceed=>some (shared,{ attempt with done:=true,worker:=.retiring })
 | .retiring, .proceed=>some (retire shared attempt,{ attempt with worker:=.ended })
 | .starting, .thrown what | .attaching, .thrown what | .writing, .thrown what
 | .reading, .thrown what | .draining _, .thrown what=>
  some (shared,{ attempt with worker:=.failing (thrownError what) .finish })
 | _, _=>none

/-- One turn of `monitor_attempt`. `expired` gives the clock: no deadline has passed, or
one has, the total one or not. -/
def monitorStep (active : RequestGeneration) (shared : Shared)
  (attempt : Attempt) (expired : Option Bool) : Option (Shared × Attempt):=
 if attempt.monitor≠.watching then none
 else if !attemptIsCurrent active attempt || attempt.done || attempt.terminalPublished then
  some (shared,{ attempt with monitor:=.ended })
 else
  match expired with
  | none=>some (shared,attempt)
  | some total=>
   some (publishTimeout inactivityTimeoutMs active shared
    { attempt with timedOut:=true,monitor:=.ended } (attempt.recursive && total))

/-- Which call stores `cancelled` in the attempts it has collected. -/
inductive StopCall where
 | submit (request : CatalogRequest)
 | cancel (generation : RequestGeneration)
 deriving DecidableEq

/-- Where the caller's thread stands. -/
inductive CallerPhase where
 | idle
 | collecting (call : StopCall)
 | stopping (left : List RequestGeneration) (call : StopCall)
 | startingMonitor (generation : RequestGeneration)
 | startingWorker (generation : RequestGeneration)
 | startFailed (generation : RequestGeneration)
 | reportingStart (generation : RequestGeneration)
 | finishing (generation : RequestGeneration)
 | retiring (generation : RequestGeneration)
 deriving DecidableEq

/-- `attempts` are all the attempts a thread may still hold. -/
structure Service where
 shared : Shared := {}
 activeGeneration : RequestGeneration := 0
 attempts : RequestGeneration → Option Attempt := fun _=>none
 inactivityTimeoutMs : ℕ
 caller : CallerPhase := .idle

variable (service : Service)

def Service.setAttempt (generation : RequestGeneration)
  (attempt : Attempt) : Service:=
 { service with attempts:=Function.update service.attempts generation (some attempt) }

def Service.modifyAttempt (generation : RequestGeneration)
  (change : Attempt → Attempt) : Service:=
 { service with
   attempts:=
    Function.update service.attempts generation ((service.attempts generation).map change) }

variable (request : CatalogRequest)

/-- The batch that `submit` queues for a request it does not start. -/
def refusalBatch : CatalogBatch:=
 { generation:=request.generation
   isFinal:=true
   truncated:=request.recursive
   rootFailed:=request.recursive
   error:=
    if validRecursiveRequest request then
     { kind:=.networkDisconnected
       messageUtf8:=utf8 "Directory helper cleanup is still in progress" }
    else ioError (utf8 "Invalid recursive catalog bounds") }

/-- The batch that `submit` queues when a thread does not start. -/
def startFailureBatch : CatalogBatch:=
 { generation:=attempt.generation
   isFinal:=true
   truncated:=attempt.recursive
   rootFailed:=attempt.recursive
   error:=ioError (utf8 "Cannot start directory helper transport") }

/-- The request as the transport thread gets it. -/
def boundedRequest : CatalogRequest:=
 if request.recursive && validRecursiveRequest request then
  { request with maximumEntries:=recursiveEntryLimit request }
 else request

/-- The section of `submit` that registers the attempt. -/
def register : Service:=
 let cleared:={ service.shared with
  batches:=[]
  terminalBatch:=none
  progressBatch:=none }
 if !validRecursiveRequest request ||
   kCatalogMaxConcurrentEnumerations ≤ service.shared.activeWorkers then
  { service with
    shared:={ cleared with batches:=[refusalBatch request] }
    caller:=.idle }
 else
  { service.setAttempt request.generation { request:=boundedRequest request } with
    shared:={ cleared with
     activeWorkers:=cleared.activeWorkers+1
     attempts:=cleared.attempts++[request.generation] }
    caller:=.startingMonitor request.generation }

/-- The last section of `cancel`. -/
def eraseGeneration (generation : RequestGeneration) : Shared:=
 { shared with
   batches:=shared.batches.filter (·.generation≠generation)
   terminalBatch:=shared.terminalBatch.filter (·.generation≠generation)
   progressBatch:=shared.progressBatch.filter (·.generation≠generation) }

def collectAttempts : StopCall → List RequestGeneration
 | .submit _=>shared.attempts
 | .cancel generation=>shared.attempts.filter (· = generation)

/-- The next step of the call under way; `starts` tells whether a thread starts. -/
def callerStep (starts : Bool) : Option Service:=
 match service.caller with
 | .idle=>none
 | .collecting call=>
  some { service with caller:=.stopping (collectAttempts service.shared call) call }
 | .stopping (generation::left) call=>
  some { service.modifyAttempt generation ({ · with cancelled:=true }) with
   caller:=.stopping left call }
 | .stopping [] (.submit request)=>some (register service request)
 | .stopping [] (.cancel generation)=>
  some { service with
   shared:=eraseGeneration service.shared generation
   caller:=.idle }
 | .startingMonitor generation=>
  if starts then
   some { service.modifyAttempt generation ({ · with monitor:=.watching }) with
    caller:=.startingWorker generation }
  else some { service with caller:=.startFailed generation }
 | .startingWorker generation=>
  if starts then
   some { service.modifyAttempt generation ({ · with worker:=.starting }) with
    caller:=.idle }
  else some { service with caller:=.startFailed generation }
 | .startFailed generation=>
  some { service.modifyAttempt generation ({ · with cancelled:=true }) with
   caller:=.reportingStart generation }
 | .reportingStart generation=>
  some { service with
   shared:={ service.shared with
    batches:=service.shared.batches ++
     ((service.attempts generation).map startFailureBatch).toList }
   caller:=.finishing generation }
 | .finishing generation=>
  some { service.modifyAttempt generation ({ · with done:=true }) with
   caller:=.retiring generation }
 | .retiring generation=>
  some { service with
   shared:=((service.attempts generation).map (retire service.shared)).getD service.shared
   caller:=.idle }

def poll : Option CatalogBatch × Shared:=
 match shared.batches with
 | []=>
  match shared.terminalBatch with
  | some batch=>(some batch,{ shared with terminalBatch:=none })
  | none=>(shared.progressBatch,{ shared with progressBatch:=none })
 | batch::rest=>(some batch,{ shared with batches:=rest })

/-- The steps of the caller, the monitors and the transport threads. -/
inductive Event where
 | submit (request : CatalogRequest)
 | cancel (generation : RequestGeneration)
 | poll
 | caller (starts : Bool)
 | monitor (generation : RequestGeneration) (expired : Option Bool)
 | worker (generation : RequestGeneration) (input : WorkerInput)
 deriving DecidableEq

/-- A service with what happened so far. `used` holds the generations that were given out, and
zero, which stands for no request; `current` is the generation submitted last, unless it was
cancelled; `produced` are the batches of the helpers, `accepted` those that `publish_batch` took
while their request was current, `delivered` the results of `poll`. -/
structure History where
 service : Service
 used : List RequestGeneration := [0]
 current : Option RequestGeneration := none
 produced : List CatalogBatch := []
 accepted : List CatalogBatch := []
 delivered : List CatalogBatch := []

def producedBy : WorkerInput → List CatalogBatch
 | .decoded batch=>
  if attempt.worker = .reading ∧ batch.generation = attempt.generation then [batch] else []
 | _=>[]

def acceptedBy : List CatalogBatch:=
 match attempt.worker with
 | .publishing batch _=>
  if attemptIsCurrent active attempt && !attempt.terminalPublished then [stamped attempt batch]
  else []
 | _=>[]

def History.withAttempt (history:History) (generation : RequestGeneration)
  (result : Shared × Attempt) : History:=
 { history with
   service:={ history.service.setAttempt generation result.2 with shared:=result.1 } }

def History.step (history:History) : Event → Option History
 | .submit request=>
  if history.service.caller = .idle ∧ request.generation ∉ history.used then
   some { history with
    service:={ history.service with
     activeGeneration:=request.generation
     caller:=.collecting (.submit request) }
    used:=request.generation::history.used
    current:=some request.generation }
  else none
 | .cancel generation=>
  if history.service.caller≠.idle then none
  else if history.service.activeGeneration≠generation then some history
  else
   some { history with
    service:={ history.service with
     activeGeneration:=0
     caller:=.collecting (.cancel generation) }
    current:=none }
 | .poll=>
  if history.service.caller≠.idle then none
  else
   some { history with
    service:={ history.service with shared:=(poll history.service.shared).2 }
    delivered:=history.delivered++(poll history.service.shared).1.toList }
 | .caller starts=>
  (callerStep history.service starts).map ({ history with service:=· })
 | .monitor generation expired=>do
  let attempt ← history.service.attempts generation
  let result ← monitorStep history.service.inactivityTimeoutMs
   history.service.activeGeneration history.service.shared attempt expired
  some (history.withAttempt generation result)
 | .worker generation input=>do
  let attempt ← history.service.attempts generation
  let result ← workerStep history.service.inactivityTimeoutMs
   history.service.activeGeneration history.service.shared attempt input
  some { history.withAttempt generation result with
   produced:=history.produced++producedBy attempt input
   accepted:=history.accepted++acceptedBy history.service.activeGeneration attempt }

/-- The history after a number of steps, where each is possible. -/
def History.run (history:History) : List Event → Option History
 | []=>some history
 | event::rest=>(history.step event).bind (·.run rest)

def start : History:=
 { service:={ inactivityTimeoutMs:=inactivityTimeoutMs } }

end VoVe.DirectoryService
