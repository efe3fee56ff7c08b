import VoVe.WorkerSupervisor

set_option autoImplicit false

/-! `run_worker_once` and `run_external_renderer_once` of `worker/posix/supervisor.cpp`. -/

namespace VoVe.WorkerRun
open ByteCodec AsciiText ScanCodec WorkerSupervisor
open WorkerProtocol (EncodeFailure Handshake JobLimits WorkerJob WorkerResult ResultStatus
 AnimationFrame MessageKind encodeHandshake decodeHandshake encodeWorkerJob decodeWorkerResult
 decodeFrame decodeAnimationFrame encodeAnimationAdvance kMaximumWallTimeoutMs kMaximumInputBytes
 kMaximumDelayMs validBuildId validLimits CapabilitySet)

def validObject (object : ℤ) : Bool := 0 ≤ object ∧ object ≤ maximumInt

variable (descriptor : ℤ)

def opensWith (mode : AccessMode) : Supervision Bool := do
 if !(← perform (.isOpen descriptor)) then
  return false
 let found : Option AccessMode ← perform (.accessMode descriptor)
 return found = some mode

def emptyRegularOutput : Supervision (Option Bytes) := do
 match ← perform (.fileStatus descriptor) with
 | none=>return some (← errnoMessage "querying output descriptor failed")
 | some status=>
  if !status.regular || status.size≠0 then
   return some (utf8 "output descriptor must refer to an empty regular file")
  return none

def validTimeout (timeout : ℤ) : Bool := 0 < timeout ∧ timeout ≤ kMaximumWallTimeoutMs.toNat

variable (request : SupervisorRequest)

def validRequest : Supervision (Option Bytes) := do
 if (request.job.sourceFormatHint = .gifAnimation)≠request.animationFrameHandler then
  return some (utf8 "only GIF animation jobs require and accept an animation frame handler")
 if !validObject request.sourceObject || !validObject request.outputObject ||
   (request.profileObject≠kInvalidNativeObject && !validObject request.profileObject) then
  return some (utf8 "source and output objects must be valid POSIX file descriptors")
 if request.sourceObject = request.outputObject then
  return some (utf8 "source and output descriptors must be distinct")
 if !(← opensWith request.sourceObject .readOnly) then
  return some (utf8 "source descriptor must be open read-only")
 if !(← opensWith request.outputObject .writeOnly) then
  return some (utf8 "output descriptor must be open write-only")
 if request.profileObject≠kInvalidNativeObject then
  if request.profileObject = request.sourceObject ||
    request.profileObject = request.outputObject then
   return some (utf8 "profile descriptor must be distinct, open, and read-only")
  if !(← opensWith request.profileObject .readOnly) then
   return some (utf8 "profile descriptor must be distinct, open, and read-only")
 if let some detail ← emptyRegularOutput request.outputObject then
  return some detail
 if !validTimeout request.timeout then
  return some (utf8 "supervisor timeout is outside the protocol limits")
 if !validBuildId request.expectedBuildId then
  return some (utf8 "expected worker build id is invalid")
 if request.job.jobId = 0 || request.job.generation = 0 || !validLimits request.job.limits then
  return some (utf8 "worker job limits are invalid")
 return none

def outputMatchesResult (result : WorkerResult) (maximumBytes : UInt64):
  Supervision (Option Bytes) := do
 let found : Option FileStatus ← perform (.fileStatus descriptor)
 match found with
 | none=>return some (← errnoMessage "validating worker output failed")
 | some status=>
  if !status.regular || status.size < 0 then
   return some (← errnoMessage "validating worker output failed")
  if (maximumBytes.toNat : ℤ) < status.size || maximumBytes < result.bytesWritten ||
    status.size≠result.bytesWritten.toNat then
   return some (utf8 "worker output size does not match its bounded result metadata")
  return none

def animationFrameFits (frame : AnimationFrame)
  (expectedSequence : UInt64) : Bool:=
 frame.image.jobId = request.job.jobId ∧ frame.sequence = expectedSequence ∧
  expectedSequence.toNat≠2 ^ 64 - 1 ∧ 1 ≤ frame.delayMs ∧ frame.delayMs ≤ kMaximumDelayMs ∧
  frame.image.status = .success ∧ frame.image.width≠0 ∧ frame.image.height≠0 ∧
  frame.image.width ≤ request.job.limits.canonicalEdge ∧
  frame.image.height ≤ request.job.limits.canonicalEdge ∧ frame.image.bytesWritten≠0

def animationFrameMatchesRequest (frame : AnimationFrame)
  (expectedSequence : UInt64) : Supervision (Option Bytes) := do
 if !animationFrameFits request frame expectedSequence then
  return some (utf8 "invalid animation frame metadata")
 outputMatchesResult request.outputObject frame.image request.job.limits.maximumOutputBytes

/-- How a run ends: with a result, or with what an encoder threw. -/
abbrev Returned := Except EncodeFailure SupervisorResult

/-- `io_failure` -/
def ioFailure (result : SupervisorResult) (failure : IoFailure)
  (ordinaryError : SupervisorError) : Supervision SupervisorResult := do
 if failure.status = .cancelled then
  setCancelledResult result request.job
 else
  return { result with
   error:=if failure.status = .timedOut then .timedOut else ordinaryError
   detail:=failure.detail }

def streaming : Bool := request.job.sourceFormatHint = .gifAnimation

def frameTimeout : ℤ := min request.timeout request.job.limits.wallTimeoutMs.toNat

def offeredCapabilities : CapabilitySet:=
 readOnlySourceToken ||| writeOnlyOutputToken ||| sandboxActive

def requiredCapabilities : CapabilitySet:=
 if request.profileObject = kInvalidNativeObject then offeredCapabilities
 else offeredCapabilities ||| readOnlyProfileToken

/-- A child that is there ends, and the run with it. -/
def abandon {α : Type} (pid : Pid) (result : SupervisorResult):
  Supervision (Except Returned α) := do
 terminateProcessGroup pid
 return .error (.ok result)

def abandonCancelled {α : Type} (request : SupervisorRequest) (pid : Pid)
  (result : SupervisorResult) : Supervision (Except Returned α) := do
 terminateProcessGroup pid
 return .error (.ok (← setCancelledResult result request.job))

/-- A transfer has failed: the run ends with what it says. -/
def abandonIo {α : Type} (request : SupervisorRequest) (pid : Pid) (result : SupervisorResult)
  (failure : IoFailure) : Supervision (Except Returned α) := do
 let result ← ioFailure request result failure .transportError
 abandon pid result

/-- The worker ended, or not, before it acknowledged. -/
def handshakeLost {α : Type} (request : SupervisorRequest) (pid : Pid) (deadline : ℤ)
  (result : SupervisorResult) (failure : IoFailure) : Supervision (Except Returned α) := do
 let result ← ioFailure request result failure .handshakeFailed
 let held ← get
 if held.cancel.stopped then
  abandon pid result
 else
  match ← waitForProcess false pid (min deadline 100) with
  | none=>abandon pid result
  | some exit=>
   if exit≠0 && exit≠3 then
    return .error (.ok { result with
     exitCode:=exit
     error:=.workerCrashed
     detail:=utf8 "worker exited before completing the handshake" })
   return .error (.ok { result with exitCode:=exit })

variable (pid : Pid) (deadline : ℤ)

/-- The exchange of build ids and capabilities. -/
def shakeHands
  (result : SupervisorResult) : Supervision (Except Returned Unit) := do
 match encodeHandshake ⟨request.expectedBuildId,offeredCapabilities⟩ .handshake with
 | .error thrown=>return .error (.error thrown)
 | .ok handshake=>
  match ← sendAll request.cancelled handshake deadline with
  | .error failure=>abandonIo request pid result failure
  | .ok ()=>
   match ← receiveFrame request.cancelled deadline with
   | .error failure=>handshakeLost request pid deadline result failure
   | .ok frame=>
    match decodeHandshake frame .handshakeAcknowledgement with
    | .error error=>
     abandon pid { result with
      error:=.handshakeFailed
      detail:=utf8 "worker handshake acknowledgement is invalid: " ++ error.message }
    | .ok acknowledgement=>
     if acknowledgement.buildId≠request.expectedBuildId ||
       acknowledgement.capabilities &&& requiredCapabilities request ≠
        requiredCapabilities request then
      abandon pid { result with
       error:=.incompatibleWorker
       detail:=utf8 "worker build id or required handle capabilities are incompatible" }
     else
      return .ok ()

/-- The job as the child is given it: its objects are descriptors of its own. -/
def childJob : WorkerJob:=
 { request.job with
   sourceToken:=kWorkerSourceFd
   outputToken:=kWorkerOutputFd
   profileToken:=if request.profileObject = kInvalidNativeObject then 0 else kWorkerProfileFd
   limits:=if streaming request then
     { request.job.limits with wallTimeoutMs:=UInt32.ofNat (frameTimeout request).toNat }
    else request.job.limits }

def sentObjects : List ℤ:=
 [request.sourceObject,request.outputObject] ++
  if request.profileObject = kInvalidNativeObject then [] else [request.profileObject]

def sendWorkerObjects : Supervision (Option Bytes) := do
 let sent : Option ℕ ← perform (.sendObjects (sentObjects request))
 match sent with
 | none=>return some (← errnoMessage "sending worker objects failed")
 | some count=>
  return if count = 1 then none else some (utf8 "sending worker objects made no progress")

def closeCommands (result : SupervisorResult) : Supervision (Except Returned Unit) := do
 let closed : Bool ← perform .shutdown
 if closed then
  return .ok ()
 let detail ← errnoMessage "closing worker command stream failed"
 abandon pid { result with error:=.transportError,detail:=detail }

/-- The commands of an animation end with its frames. -/
def closeAnimation (result : SupervisorResult) : Supervision (Except Returned Unit):=
 if streaming request then closeCommands pid result else pure (.ok ())

/-- The objects and the job are sent, and the deadline for what comes back. -/
def submitJob
  (result : SupervisorResult) : Supervision (Except Returned ℤ) := do
 if ← poll request.cancelled then
  abandonCancelled request pid result
 else
  match ← sendWorkerObjects request with
  | some detail=>abandon pid { result with error:=.transportError,detail:=detail }
  | none=>
   let deadline:=if streaming request then frameTimeout request else deadline
   match encodeWorkerJob (childJob request) with
   | .error thrown=>return .error (.error thrown)
   | .ok job=>
    match ← sendAll request.cancelled job deadline with
    | .error failure=>abandonIo request pid result failure
    | .ok ()=>
     if streaming request then
      return .ok deadline
     match ← closeCommands pid result with
     | .error returned=>return .error returned
     | .ok ()=>return .ok deadline

/-- What the frames of an animation leave: the first frame of another kind, the number of frames
before it, the bytes of the last one, and the deadline. -/
structure Streamed where
 frame : Bytes
 expectedSequence : UInt64
 lastFrameBytes : UInt64
 deadline : ℤ

/-- One frame of the loop is shown and acknowledged. -/
def showFrame (request : SupervisorRequest) (pid : Pid) (result : SupervisorResult)
  (frame : AnimationFrame) : Supervision (Except Returned Unit) := do
 if ← poll request.cancelled then
  abandonCancelled request pid result
 else
  match ← perform (.showFrame frame) with
  | none=>
   abandon pid { result with
    error:=.transportError
    detail:=utf8 "animation frame callback threw an exception" }
  | some proceed=>
   if ← poll request.cancelled then
    abandonCancelled request pid result
   else if !proceed then
    abandonCancelled request pid result
   else
    match encodeAnimationAdvance ⟨request.job.jobId,true⟩ with
    | .error thrown=>return .error (.error thrown)
    | .ok advance=>
     match ← sendAll request.cancelled advance (frameTimeout request) with
     | .error failure=>abandonIo request pid result failure
     | .ok ()=>return .ok ()

/-- The loop over the worker's frames. No sequence number is expected twice, and the last one is
refused, so it has fewer turns than there are numbers. -/
def receiveFrames (request : SupervisorRequest) (pid : Pid) (result : SupervisorResult):
  ℕ → UInt64 → UInt64 → ℤ → Supervision (Except Returned Streamed)
 | 0, _, _, _=>abandon pid result
 | turns+1, expectedSequence, lastFrameBytes, deadline=>do
  match ← receiveFrame request.cancelled deadline with
  | .error failure=>abandonIo request pid result failure
  | .ok bytes=>
   match decodeFrame bytes with
   | .error error=>
    abandon pid { result with
     error:=.transportError
     detail:=utf8 "worker returned an invalid frame: " ++ error.message }
   | .ok (header,_)=>
    if !streaming request || MessageKind.ofCode header.kind≠some .animationFrame then
     return .ok ⟨bytes,expectedSequence,lastFrameBytes,deadline⟩
    let unfit:={ result with
     error:=.transportError
     detail:=utf8 "invalid animation frame metadata or output slot" }
    match decodeAnimationFrame bytes with
    | .error _=>abandon pid unfit
    | .ok frame=>
     match ← animationFrameMatchesRequest request frame expectedSequence with
     | some _=>abandon pid unfit
     | none=>
      match ← showFrame request pid result frame with
      | .error returned=>return .error returned
      | .ok ()=>
       receiveFrames request pid result turns (expectedSequence+1)
        frame.image.bytesWritten (frameTimeout request)

def endsAnimation (result : WorkerResult) (streamed : Streamed) : Bool:=
 result.status = .success → streamed.expectedSequence≠0 ∧
  (result.bytesWritten = 0 ∨ result.bytesWritten = streamed.lastFrameBytes)

/-- The worker's exit decides. -/
def awaitExit
  (result : SupervisorResult) : Supervision SupervisorResult := do
 match ← waitForProcess request.cancelled pid deadline with
 | none=>
  terminateProcessGroup pid
  let held ← get
  if held.cancel.stopped then
   setCancelledResult result request.job
  else
   return { result with
    error:=.timedOut
    detail:=utf8 "worker did not exit before the wall-time limit" }
 | some exit=>
  if exit≠0 then
   return { result with
    exitCode:=exit
    error:=.workerCrashed
    detail:=utf8 "worker exited abnormally after returning a result" }
  return { result with exitCode:=exit,error:=.none,detail:=[] }

def acceptResult (streamed : Streamed)
  (result : SupervisorResult) : Supervision (Except Returned SupervisorResult) := do
 match decodeWorkerResult streamed.frame with
 | .error error=>
  abandon pid { result with
   error:=.transportError
   detail:=utf8 "worker result is invalid: " ++ error.message }
 | .ok workerResult=>
  let result:={ result with workerResult:=workerResult }
  if workerResult.jobId≠(childJob request).jobId then
   abandon pid { result with
    error:=.transportError
    detail:=utf8 "worker result job id does not match the request" }
  else if streaming request && !endsAnimation workerResult streamed then
   abandon pid { result with
    error:=.transportError
    detail:=utf8 "animation terminal result does not match the last output slot" }
  else
   match ← outputMatchesResult request.outputObject workerResult
    request.job.limits.maximumOutputBytes with
   | some detail=>abandon pid { result with error:=.transportError,detail:=detail }
   | none=>return .ok (← awaitExit request pid streamed.deadline result)

/-- The conversation with a launched child. -/
def converse
  (result : SupervisorResult) : Supervision Returned := do
 match ← shakeHands request pid deadline result with
 | .error returned=>return returned
 | .ok ()=>
  let result:={ result with handshakeCompleted:=true }
  match ← submitJob request pid deadline result with
  | .error returned=>return returned
  | .ok deadline=>
   match ← receiveFrames request pid result (2 ^ 64) 0 0 deadline with
   | .error returned=>return returned
   | .ok streamed=>
    match ← closeAnimation request pid result with
    | .error returned=>return returned
    | .ok ()=>
     match ← acceptResult request pid streamed result with
     | .error returned=>return returned
     | .ok result=>return .ok result

def launchDeadline : ℤ:=
 if streaming request then frameTimeout request else request.timeout

/-- A run that holds a reservation. -/
def superviseWorker : Supervision Returned := do
 let sandbox ← chooseSandbox request.cancelled
 let result : SupervisorResult := { sandbox:=sandbox }
 if ← poll request.cancelled then
  return .ok (← setCancelledResult result request.job)
 let held ← get
 if !held.active then
  return .ok { result with
   error:=.launchFailed
   detail:=utf8 "bubblewrap probe did not terminate promptly and was deferred for cleanup" }
 if request.requireMinimumSandbox && sandbox.level.code < SandboxLevel.minimum.code then
  return .ok { result with error:=.sandboxUnavailable,detail:=sandbox.detail }
 match ← launchWorker request (launchDeadline request) result with
 | .error result=>return .ok result
 | .ok pid=>
  let result:=if streaming request then
    { result with sandbox:={ sandbox with
      detail:=sandbox.detail++utf8 "; GIF CPU lifetime capped at 3600 seconds" } }
   else result
  converse request pid (launchDeadline request) result

/-- The end of a reservation: it is released where it has not been handed over. -/
def endReservation : Supervision Unit := do
 let held ← get
 if held.active then
  perform .release
  set { held with active:=false }

def tryReserve (exhausted : String) : Supervision (Option Bytes) := do
 let reserved : Except Bytes Bool ← perform .reserve
 match reserved with
 | .error what=>
  return some (utf8 "starting the bounded process reaper failed: " ++ what)
 | .ok false=>return some (utf8 exhausted)
 | .ok true=>
  let held ← get
  set { held with active:=true }
  return none

def runWorkerOnce : Supervision Returned := do
 if ← poll request.cancelled then
  return .ok (← setCancelledResult {} request.job)
 if let some detail ← validRequest request then
  return .ok { error:=.invalidRequest,detail:=detail }
 let worker : Option Bytes ← perform (.executablePath request.workerExecutable)
 if worker.isNone then
  return .ok {
   error:=.invalidRequest
   detail:=utf8 "worker executable does not name an executable regular file" }
 if let some detail ← tryReserve
   "worker process capacity is exhausted while prior children await cleanup" then
  return .ok { error:=.launchFailed,detail:=detail }
 let returned ← superviseWorker request
 endReservation
 return returned

def fileSizeExceeded : ℤ := 128+25

def validExternalRequest (request : ExternalRendererRequest):
  Supervision (Option (SupervisorError × Bytes)) := do
 if !validObject request.sourceObject || !validObject request.outputObject then
  return some (.invalidRequest,
   utf8 "external renderer objects must be valid POSIX file descriptors")
 let unfit : SupervisorError × Bytes := (.invalidRequest,
  utf8 "external renderer requires distinct read-only source and write-only output")
 if request.sourceObject = request.outputObject then
  return some unfit
 if !(← opensWith request.sourceObject .readOnly) then
  return some unfit
 if !(← opensWith request.outputObject .writeOnly) then
  return some unfit
 let found : Option FileStatus ← perform (.fileStatus request.sourceObject)
 match found.filter fun status=>status.regular && 0 ≤ status.size with
 | none=>
  return some (.invalidRequest,utf8 "external renderer source must be a regular file")
 | some source=>
  if let some detail ← emptyRegularOutput request.outputObject then
   return some (.invalidRequest,detail)
  if !validTimeout request.timeout then
   return some (.invalidRequest, utf8 "external renderer timeout is outside the protocol limits")
  if 32 < request.argumentsUtf8.length ||
    request.argumentsUtf8.any fun argument=>1024 < argument.length || argument.contains 0 then
   return some (.invalidRequest, utf8 "external renderer arguments exceed the fixed-command limit")
  if request.limits.maximumInputBytes≠0 && request.limits.maximumInputBytes ≤ kMaximumInputBytes &&
    (request.limits.maximumInputBytes.toNat : ℤ) < source.size then
   return some (.resourceLimit, utf8 "external renderer source exceeds the configured input limit")
  if !validLimits request.limits then
   return some (.invalidRequest,utf8 "external renderer limits are invalid")
  return none

def boundaryViolated (actual maximum : ℕ) : Bytes:=
 utf8 "external renderer output boundary violated: actual=" ++ utf8 (toString actual) ++
  utf8 ", maximum=" ++ utf8 (toString maximum)

/-- A child that is there ends, its output is discarded, and the run ends. -/
def abandonRenderer (output : ℤ) (result : ExternalRendererResult):
  Supervision ExternalRendererResult := do
 terminateProcessGroup pid
 perform (.discard output)
 return result

def acceptOutput (request : ExternalRendererRequest) (result : ExternalRendererResult):
  Supervision ExternalRendererResult := do
 let found : Option FileStatus ← perform (.fileStatus request.outputObject)
 match found.filter fun status=>status.regular && 0 ≤ status.size with
 | none=>
  let detail ← errnoMessage "validating external renderer output failed"
  perform (.discard request.outputObject)
  return { result with error:=.transportError,detail:=detail }
 | some status=>
  let bytes:=status.size.toNat
  if bytes = 0 then
   perform (.discard request.outputObject)
   return { result with
    error:=.transportError
    detail:=boundaryViolated 0 request.limits.maximumOutputBytes.toNat }
  if request.limits.maximumOutputBytes.toNat < bytes then
   perform (.discard request.outputObject)
   return { result with
    error:=.resourceLimit
    detail:=boundaryViolated bytes request.limits.maximumOutputBytes.toNat }
  return { result with bytesWritten:=bytes,error:=.none,detail:=[] }

def awaitRenderer (request : ExternalRendererRequest) (pid : Pid) (deadline : ℤ)
  (result : ExternalRendererResult) : Supervision ExternalRendererResult := do
 match ← waitForProcess false pid deadline with
 | none=>
  abandonRenderer pid request.outputObject { result with
   error:=.timedOut
   detail:=utf8 "external renderer did not exit before the wall-time limit" }
 | some exit=>
  if exit = 0 then
   acceptOutput request { result with exitCode:=exit }
  else
   perform (.discard request.outputObject)
   if exit = fileSizeExceeded then
    return { result with
     exitCode:=exit
     error:=.resourceLimit
     detail:=utf8 "external renderer exceeded the output limit" }
   return { result with
    exitCode:=exit
    error:=.workerCrashed
    detail:=utf8 "external renderer exited unsuccessfully" }

/-- A run that holds a reservation. -/
def superviseRenderer (request : ExternalRendererRequest):
  Supervision ExternalRendererResult := do
 let sandbox ← chooseSandbox false
 let result : ExternalRendererResult := { sandbox:=sandbox }
 let held ← get
 if !held.active then
  return { result with
   error:=.launchFailed
   detail:=utf8 "bubblewrap probe did not terminate promptly and was deferred for cleanup" }
 if request.requireMinimumSandbox && sandbox.level.code < SandboxLevel.minimum.code then
  return { result with error:=.sandboxUnavailable,detail:=sandbox.detail }
 let piped : Bool ← perform .makePipe
 if !piped then
  return { result with error:=.launchFailed,detail:=← errnoMessage "pipe2 failed" }
 let deadline:=min request.timeout request.limits.wallTimeoutMs.toNat
 match ← perform (.fork .renderer) with
 | none=>
  return { result with
   error:=.launchFailed
   detail:=← errnoMessage "forking external renderer failed" }
 | some pid=>
  let status ← readChildStatus false deadline
  if status.timedOut then
   abandonRenderer pid request.outputObject { result with
    error:=.timedOut
    detail:=utf8 "external renderer launch exceeded the wall-time limit" }
  else
   match status.failure with
   | some failure=>
    let detail ← setupDetail "external renderer setup failed at stage " failure
    abandonRenderer pid request.outputObject { result with
     error:=setupError failure
     detail:=detail }
   | none=>
    if status.detail≠[] then
     abandonRenderer pid request.outputObject { result with
      error:=.launchFailed
      detail:=status.detail }
    else
     awaitRenderer request pid deadline result

def runExternalRendererOnce (request : ExternalRendererRequest):
  Supervision ExternalRendererResult := do
 if let some (error,detail) ← validExternalRequest request then
  return { error:=error,detail:=detail }
 let executable : Option Bytes ← perform (.executablePath request.executable)
 if executable.isNone then
  return {
   error:=.invalidRequest
   detail:=utf8 "external renderer executable does not name an executable regular file" }
 let rewound : Bool ← perform (.rewind request.sourceObject request.outputObject)
 if !rewound then
  return {
   error:=.invalidRequest
   detail:=← errnoMessage "rewinding external renderer files failed" }
 if let some detail ← tryReserve
   "renderer process capacity is exhausted while prior children await cleanup" then
  return { error:=.launchFailed,detail:=detail }
 let result ← superviseRenderer request
 endReservation
 return result

end VoVe.WorkerRun
