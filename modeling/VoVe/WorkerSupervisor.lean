import VoVe.TracedProgram
import VoVe.WorkerProtocol

set_option autoImplicit false

/-! One job in a worker process, as `worker/posix/supervisor.cpp` runs it. Every call to the system,
to the process reaper and to the requests callbacks is an operation of the program; what the
worker process does is what the operations on its socket, its output file and its pid reply. -/

namespace VoVe.WorkerSupervisor
open ByteCodec AsciiText ScanCodec TracedProgram
open WorkerProtocol (EncodeFailure Handshake JobLimits WorkerJob WorkerResult ResultStatus
 AnimationFrame MessageKind encodeHandshake decodeHandshake encodeWorkerJob decodeWorkerResult
 decodeFrame decodeAnimationFrame encodeAnimationAdvance kMaximumFrameBytes kMaximumWallTimeoutMs
 kMaximumInputBytes validBuildId validLimits CapabilitySet)

def kWorkerSourceFd : UInt64 := 3
def kWorkerOutputFd : UInt64 := 4
def kWorkerProfileFd : UInt64 := 5
def kChildFailureMagic : UInt32 := 0x5245564F
def kBubblewrapProbeTimeout : ℤ := 2000
def kInvalidNativeObject : ℤ := -1
def maximumInt : ℤ := 2147483647

def readOnlySourceToken : CapabilitySet := 1
def writeOnlyOutputToken : CapabilitySet := 2
def sandboxActive : CapabilitySet := 4
def readOnlyProfileToken : CapabilitySet := 256

inductive SandboxLevel where
 | none
 | degraded
 | minimum
 | strict
 deriving DecidableEq

def SandboxLevel.code : SandboxLevel → ℕ
 | .none=>0
 | .degraded=>1
 | .minimum=>2
 | .strict=>3

structure SandboxReport where
 level : SandboxLevel := .none
 processContained : Bool := false
 identityRestricted : Bool := false
 noNewPrivileges : Bool := false
 networkIsolated : Bool := false
 filesystemIsolated : Bool := false
 memoryLimited : Bool := false
 cpuLimited : Bool := false
 detail : Bytes := []
 deriving DecidableEq

inductive SupervisorError where
 | none
 | invalidRequest
 | sandboxUnavailable
 | launchFailed
 | transportError
 | handshakeFailed
 | incompatibleWorker
 | timedOut
 | resourceLimit
 | workerCrashed
 deriving DecidableEq

/-- Times are in milliseconds. A callback is given by whether there is one: its answers are
replies to operations. -/
structure SupervisorRequest where
 workerExecutable : Bytes := []
 sourceObject : ℤ := kInvalidNativeObject
 outputObject : ℤ := kInvalidNativeObject
 profileObject : ℤ := kInvalidNativeObject
 job : WorkerJob := {}
 expectedBuildId : Bytes := []
 timeout : ℤ := 30000
 requireMinimumSandbox : Bool := true
 animationFrameHandler : Bool := false
 cancelled : Bool := false
 deriving DecidableEq

structure SupervisorResult where
 error : SupervisorError := .none
 detail : Bytes := []
 workerResult : WorkerResult := {}
 sandbox : SandboxReport := {}
 exitCode : ℤ := 0
 handshakeCompleted : Bool := false
 deriving DecidableEq

structure ExternalRendererRequest where
 executable : Bytes := []
 argumentsUtf8 : List Bytes := []
 sourceObject : ℤ := kInvalidNativeObject
 outputObject : ℤ := kInvalidNativeObject
 limits : JobLimits := {}
 timeout : ℤ := 30000
 requireMinimumSandbox : Bool := true
 deriving DecidableEq

structure ExternalRendererResult where
 error : SupervisorError := .none
 detail : Bytes := []
 sandbox : SandboxReport := {}
 exitCode : ℤ := 0
 bytesWritten : ℕ := 0
 deriving DecidableEq

abbrev Pid := ℕ+

inductive AccessMode where
 | readOnly
 | writeOnly
 | readWrite
 deriving DecidableEq

structure FileStatus where
 regular : Bool
 size : ℤ
 deriving DecidableEq

/-- What a process came to: its own exit code, or the signal that ended it. -/
inductive WaitStatus where
 | exited (code : UInt8)
 | signaled (signal : ℕ+)
 deriving DecidableEq

/-- What `waitpid` with `WNOHANG` says of a child. -/
inductive Waited where
 | reaped (status : WaitStatus)
 | running
 | noChild
 deriving DecidableEq

/-- What one turn of waiting for a descriptor and then using it comes to. A turn with nothing to
do yet, an interrupted call and an event that was not asked for all leave things as they were. -/
inductive Turn (α : Type) where
 | waiting
 | moved (a : α)
 | closed
 | pollFailed
 | failed
 deriving DecidableEq

/-- Which program a child is forked for. -/
inductive Program where
 | probe
 | worker
 | renderer
 deriving DecidableEq

inductive SupervisorOp where
 | cancelled
 | isOpen (descriptor : ℤ)
 | accessMode (descriptor : ℤ)
 | fileStatus (descriptor : ℤ)
 | executablePath (candidate : Bytes)
 | errno
 | strerror (error : Int32)
 | reserve
 | release
 | defer (pid : Pid)
 | makeSocketPair
 | makePipe
 | fork (program : Program)
 | waitpid (pid : Pid)
 | kill (pid : Pid)
 | turns (deadline : ℤ)
 | readStatus (size : ℕ)
 | send (bytes : Bytes)
 | receive (size : ℕ)
 | sendObjects (objects : List ℤ)
 | shutdown
 | showFrame (frame : AnimationFrame)
 | rewind (source output : ℤ)
 | discard (output : ℤ)
 deriving DecidableEq

/-- The replies. `none` and `false` stand for a call that failed, and for a callback that threw.
The reaper refuses a reservation, or cannot be started and says why. The turns are those before a
deadline passes. -/
def SupervisorReply : SupervisorOp → Type
 | .cancelled | .showFrame _=>Option Bool
 | .isOpen _ | .makeSocketPair | .makePipe | .shutdown | .rewind _ _=>Bool
 | .accessMode _=>Option AccessMode
 | .fileStatus _=>Option FileStatus
 | .executablePath _=>Option Bytes
 | .errno=>Int32 × Bytes
 | .strerror _=>Bytes
 | .reserve=>Except Bytes Bool
 | .release | .defer _ | .kill _ | .discard _=>Unit
 | .fork _=>Option Pid
 | .waitpid _=>Waited
 | .turns _=>ℕ
 | .readStatus _ | .receive _=>Turn Bytes
 | .send _=>Turn ℕ
 | .sendObjects _=>Option ℕ

abbrev SupervisorLog := Log SupervisorOp SupervisorReply

structure CancellationState where
 stopped : Bool := false
 callbackFailed : Bool := false
 deriving DecidableEq

/-- The objects that one run shares by reference: the state of its cancellation, and whether its
reservation is still its own. -/
structure Held where
 cancel : CancellationState := {}
 active : Bool := false
 deriving DecidableEq

abbrev Supervision := Traced Held SupervisorOp SupervisorReply

def perform (op : SupervisorOp) : Supervision (SupervisorReply op) := ask op

def errnoMessage (operation : String) : Supervision Bytes := do
 let (error,text) ← perform .errno
 pure (utf8 operation++utf8 ": " ++ text++utf8 " (" ++ utf8 (toString error)++utf8 ")")

variable (cancellable : Bool)

/-- `CancellationState::poll`. A run without a predicate, or one that passes no state, never asks. -/
def poll : Supervision Bool := do
 let held ← get
 if !cancellable || held.cancel.stopped then
  return cancellable && held.cancel.stopped
 match ← perform .cancelled with
 | some stopped=>
  set { held with cancel:={ held.cancel with stopped:=stopped } }
  return stopped
 | none=>
  set { held with cancel:={ stopped:=true,callbackFailed:=true } }
  return true

def setCancelledResult (result : SupervisorResult) (job : WorkerJob):
  Supervision SupervisorResult := do
 let held ← get
 if held.cancel.callbackFailed then
  return { result with
   error:=.transportError
   detail:=utf8 "worker cancellation callback threw an exception"
   workerResult:={ jobId:=job.jobId,status:=.internalError } }
 return { result with
  error:=.none
  detail:=utf8 "worker request cancelled"
  workerResult:={ jobId:=job.jobId,status:=.cancelled } }

inductive IoStatus where
 | timedOut
 | closed
 | failed
 | cancelled
 deriving DecidableEq

structure IoFailure where
 status : IoStatus
 detail : Bytes
 deriving DecidableEq

def requestCancelled : IoFailure := ⟨.cancelled,utf8 "worker request cancelled"⟩
def wallTimeExceeded : IoFailure := ⟨.timedOut,utf8 "worker IPC exceeded the wall-time limit"⟩
def closedUnexpectedly : IoFailure := ⟨.closed,utf8 "worker IPC closed unexpectedly"⟩

/-- How a turn of `wait_until` begins: a request may be cancelled, and its deadline may pass. -/
def beginTurn (turns : ℕ) : Supervision (Option IoFailure) := do
 if ← poll cancellable then
  return some requestCancelled
 return if turns = 0 then some wallTimeExceeded else none

def sendTurns (cancellable : Bool) : ℕ → Bytes → Supervision (Except IoFailure Unit)
 | 0, bytes=>do
  if bytes = [] then
   return .ok ()
  match ← beginTurn cancellable 0 with
  | some failure=>return .error failure
  | none=>return .error wallTimeExceeded
 | turns+1, bytes=>do
  if bytes = [] then
   return .ok ()
  if let some failure ← beginTurn cancellable (turns+1) then
   return .error failure
  match ← perform (.send bytes) with
  | .waiting=>sendTurns cancellable turns bytes
  | .moved 0=>return .error ⟨.failed,utf8 "worker IPC write made no progress"⟩
  | .moved count=>sendTurns cancellable turns (bytes.drop count)
  | .closed=>return .error closedUnexpectedly
  | .pollFailed=>return .error ⟨.closed,←errnoMessage "poll failed"⟩
  | .failed=>return .error ⟨.failed,←errnoMessage "worker IPC write failed"⟩

variable (bytes : Bytes) (deadline : ℤ)

def sendAll : Supervision (Except IoFailure Unit) := do
 let turns ← perform (.turns deadline)
 sendTurns cancellable turns bytes

/-- The bytes already there are the first argument after the turns. -/
def receiveTurns (cancellable : Bool) (size : ℕ) : ℕ → Bytes → Supervision (Except IoFailure Bytes)
 | 0, bytes=>do
  if size ≤ bytes.length then
   return .ok bytes
  match ← beginTurn cancellable 0 with
  | some failure=>return .error failure
  | none=>return .error wallTimeExceeded
 | turns+1, bytes=>do
  if size ≤ bytes.length then
   return .ok bytes
  if let some failure ← beginTurn cancellable (turns+1) then
   return .error failure
  match ← perform (.receive (size - bytes.length)) with
  | .waiting=>receiveTurns cancellable size turns bytes
  | .moved []=>return .error ⟨.closed,utf8 "worker IPC reached end of stream"⟩
  | .moved more=>receiveTurns cancellable size turns (bytes++more.take (size - bytes.length))
  | .closed=>return .error closedUnexpectedly
  | .pollFailed=>return .error ⟨.closed,←errnoMessage "poll failed"⟩
  | .failed=>return .error ⟨.failed,←errnoMessage "worker IPC read failed"⟩

def receiveExact (size : ℕ) (deadline : ℤ) : Supervision (Except IoFailure Bytes) := do
 let turns ← perform (.turns deadline)
 receiveTurns cancellable size turns []

def decodeU32Le (offset : ℕ) : ℕ := leValue ((bytes.drop offset).take 4)

def frameSizeOffset : ℕ := 12

def receiveFrame : Supervision (Except IoFailure Bytes) := do
 match ← receiveExact cancellable frameHeaderBytes deadline with
 | .error failure=>return .error failure
 | .ok header=>
  let frameSize:=decodeU32Le header frameSizeOffset
  if frameSize < frameHeaderBytes ∨ kMaximumFrameBytes < frameSize then
   return .error ⟨.failed,utf8 "worker returned a frame with an invalid size"⟩
  match ← receiveExact cancellable (frameSize - frameHeaderBytes) deadline with
  | .error failure=>return .error failure
  | .ok payload=>
   match decodeFrame (header++payload) with
   | .error error=>
    return .error ⟨.failed,utf8 "worker returned an invalid frame: " ++ error.message⟩
   | .ok _=>return .ok (header++payload)

def decodedExitCode : WaitStatus → ℤ
 | .exited code=>code.toNat
 | .signaled signal=>128+(signal : ℕ)

def terminateTurns (pid : Pid) : ℕ → Supervision Unit
 | 0=>do
  -- `Reservation::defer`
  let held ← get
  if held.active then
   perform (.defer pid)
   set { held with active:=false }
 | turns+1=>do
  match ← perform (.waitpid pid) with
  | .reaped _ | .noChild=>return ()
  | .running=>terminateTurns pid turns

def terminateProcessGroup (pid : Pid) : Supervision Unit := do
 perform (.kill pid)
 let turns ← perform (.turns 250)
 terminateTurns pid turns

def waitTurns (cancellable : Bool) (pid : Pid) : ℕ → Supervision (Option ℤ)
 | 0=>do
  if ← poll cancellable then
   return none
  match ← perform (.waitpid pid) with
  | .reaped status=>return some (decodedExitCode status)
  | .noChild | .running=>return none
 | turns+1=>do
  if ← poll cancellable then
   return none
  match ← perform (.waitpid pid) with
  | .reaped status=>return some (decodedExitCode status)
  | .noChild=>return none
  | .running=>waitTurns cancellable pid turns

def waitForProcess (pid : Pid) (deadline : ℤ) : Supervision (Option ℤ) := do
 let turns ← perform (.turns deadline)
 waitTurns cancellable pid turns

def findFirst : List Bytes → Supervision (Option Bytes)
 | []=>return none
 | candidate::candidates=>do
  if let some executable ← perform (.executablePath candidate) then
   return some executable
  findFirst candidates

def findBubblewrap : Supervision (Option Bytes):=
 findFirst [utf8 "/usr/bin/bwrap",utf8 "/bin/bwrap",utf8 "/usr/local/bin/bwrap"]

def probeBubblewrap : Supervision Bool := do
 match ← perform (.executablePath (utf8 "/bin/true")) with
 | none=>return false
 | some _=>
  match ← perform (.fork .probe) with
  | none=>return false
  | some pid=>
   match ← waitForProcess cancellable pid kBubblewrapProbeTimeout with
   | some exit=>return exit = 0
   | none=>
    terminateProcessGroup pid
    return false

def degradedReport : SandboxReport where
 level:=.degraded
 noNewPrivileges:=true
 memoryLimited:=true
 cpuLimited:=true
 detail:=
  utf8 "degraded POSIX controls: process group, parent-death signal, no_new_privs and rlimits"

def strictReport : SandboxReport where
 level:=.strict
 processContained:=true
 identityRestricted:=true
 noNewPrivileges:=true
 networkIsolated:=true
 filesystemIsolated:=true
 memoryLimited:=true
 cpuLimited:=true
 detail:=utf8 ("strict bubblewrap sandbox: user/network/mount namespaces plus process and " ++
  "resource limits")

def chooseSandbox : Supervision SandboxReport := do
 match ← findBubblewrap with
 | none=>
  return { degradedReport with
   detail:=degradedReport.detail++utf8 "; bubblewrap was not installed" }
 | some _=>
  if ← probeBubblewrap cancellable then
   return strictReport
  return { degradedReport with
   detail:=degradedReport.detail ++
    utf8 "; bubblewrap was installed but its namespace probe failed" }

def childStageNoNewPrivileges : Int32 := 3
def childStageResourceLimits : Int32 := 4
def childStageExecute : Int32 := 10
def kProtocolErrorCode : Int32 := 71

structure ChildFailure where
 stage : Int32
 error : Int32
 deriving DecidableEq

def childFailureBytes : ℕ := 12

/-- The status record of a child that could not be set up, where its magic is right. -/
def decodeChildFailure : Option ChildFailure:=
 if UInt32.ofNat (decodeU32Le bytes 0) = kChildFailureMagic then
  some ⟨(UInt32.ofNat (decodeU32Le bytes 4)).toInt32,(UInt32.ofNat (decodeU32Le bytes 8)).toInt32⟩
 else none

/-- What `read_child_status` leaves: its value, and what it sets. -/
structure ChildStatus where
 failure : Option ChildFailure := none
 timedOut : Bool := false
 detail : Bytes := []

def statusTurns (cancellable : Bool) : ℕ → Bytes → Supervision ChildStatus
 | 0, _=>do
  match ← beginTurn cancellable 0 with
  | some failure=>return { timedOut:=failure.status = .timedOut,detail:=failure.detail }
  | none=>return { timedOut:=true,detail:=wallTimeExceeded.detail }
 | turns+1, bytes=>do
  if let some failure ← beginTurn cancellable (turns+1) then
   return { timedOut:=failure.status = .timedOut,detail:=failure.detail }
  match ← perform (.readStatus (childFailureBytes - bytes.length)) with
  | .waiting=>statusTurns cancellable turns bytes
  | .moved []=>
   if bytes = [] then
    return {}
   return {
    failure:=some ⟨childStageExecute,kProtocolErrorCode⟩
    detail:=utf8 "child setup status was truncated" }
  | .moved more=>
   let bytes:=bytes++more.take (childFailureBytes - bytes.length)
   if bytes.length < childFailureBytes then
    statusTurns cancellable turns bytes
   else
    match decodeChildFailure bytes with
    | some failure=>return { failure:=some failure }
    | none=>
     return {
      failure:=some ⟨childStageExecute,kProtocolErrorCode⟩
      detail:=utf8 "child setup returned an invalid status record" }
  | .closed=>return {}
  | .pollFailed=>return { detail:=← errnoMessage "poll failed" }
  | .failed=>
   let (error,_) ← perform .errno
   let detail ← errnoMessage "reading child setup status failed"
   return { failure:=some ⟨childStageExecute,error⟩,detail:=detail }

def readChildStatus : Supervision ChildStatus := do
 let turns ← perform (.turns deadline)
 statusTurns cancellable turns []

def setupError (failure : ChildFailure) : SupervisorError:=
 if failure.stage = childStageResourceLimits ∨ failure.stage = childStageNoNewPrivileges then
  .sandboxUnavailable
 else .launchFailed

def setupDetail (what : String) (failure : ChildFailure) : Supervision Bytes := do
 let text : Bytes ← perform (.strerror failure.error)
 return utf8 what++utf8 (toString failure.stage)++utf8 ": " ++ text++utf8 " (" ++
  utf8 (toString failure.error)++utf8 ")"

def launchWorker (request : SupervisorRequest) (deadline : ℤ) (result : SupervisorResult):
  Supervision (Except SupervisorResult Pid) := do
 if !(← perform .makeSocketPair) then
  let detail ← errnoMessage "socketpair failed"
  return .error { result with error:=.launchFailed,detail:=detail }
 if !(← perform .makePipe) then
  let detail ← errnoMessage "pipe2 failed"
  return .error { result with error:=.launchFailed,detail:=detail }
 if ← poll request.cancelled then
  return .error (← setCancelledResult result request.job)
 match ← perform (.fork .worker) with
 | none=>
  let detail ← errnoMessage "fork failed"
  return .error { result with error:=.launchFailed,detail:=detail }
 | some pid=>
  let status ← readChildStatus request.cancelled deadline
  let held ← get
  if held.cancel.stopped then
   terminateProcessGroup pid
   return .error (← setCancelledResult result request.job)
  if status.timedOut then
   terminateProcessGroup pid
   return .error { result with
    error:=.timedOut
    detail:=utf8 "worker launch exceeded the wall-time limit" }
  match status.failure with
  | some failure=>
   terminateProcessGroup pid
   let detail ← setupDetail "worker child setup failed at stage " failure
   return .error { result with error:=setupError failure,detail:=detail }
  | none=>
   if status.detail≠[] then
    terminateProcessGroup pid
    return .error { result with error:=.launchFailed,detail:=status.detail }
   return .ok pid

end VoVe.WorkerSupervisor
