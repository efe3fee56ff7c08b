import VoVe.Playback
import VoVe.ThumbnailCache
import VoVe.WorkerProtocol

set_option autoImplicit false

/-! The client of the GIF playback helper, `gif_animation_client.cpp`: the calls of its owner and
the events of its process and timers. -/

namespace VoVe.GifAnimation
open AsciiText ByteCodec Playback WorkerProtocol
open ScanCodec (frameHeaderBytes)
open ThumbnailCache (Libraries QoiImage decodeQoiRgba8 readBe32)

/-- The UTF-16 code units. -/
abbrev QString := List UInt16

def kMaximumSourceBytes : UInt64 := 64*1024*1024
def kMaximumQoiBytes : UInt64 := 24*1024*1024
def kMaximumEdge : UInt32 := 2048
def kMaximumMetadataBytes : ℕ := 2*1024*1024
def kMaximumTimerInterval : ℕ := 2 ^ 31 - 1

structure Request where
 path : QString
 size : UInt64
 modified : Int64
 revision : QString
 key : QString

inductive ReadState where
 | header
 | metadata
 | image
 | staged
 | acknowledgement
 deriving DecidableEq

/-- The two reasons to hold the playback. -/
inductive HoldFlag where
 | paused
 | suspended

/-- What the owner calls. -/
inductive Command where
 | start (request : Request)
 | stop
 | setPaused (paused : Bool)
 | setSuspended (suspended : Bool)

inductive Reaction where
 | done
 | call (command : Command) (inside : Reaction) (rest : Reaction)

def nullImage : QoiImage := ⟨0,0,[]⟩

def noFrame : AnimationFrame := ⟨{},0,0,false⟩

abbrev Seen := Happening QString QoiImage Bytes

structure Client where
 pending : Option Request := none
 key : QString := []
 buffer : Bytes := []
 stagedImage : QoiImage := nullImage
 frame : AnimationFrame := noFrame
 readState : ReadState := .header
 needed : ℕ := frameHeaderBytes
 generation : ℕ := 0
 runningGeneration : ℕ := 0
 nextSequence : UInt64 := 0
 frameDeadline : ℕ := 0
 holdStarted : ℕ := 0
 watchdogRemaining : ℕ := 20000
 active : Bool := false
 retiring : Bool := false
 startScheduled : Bool := false
 paused : Bool := false
 suspended : Bool := false
 haveFrame : Bool := false
 /-- The intervals the active timers were started with. -/
 frameTimer : Option ℕ := none
 watchdog : Option ℕ := none
 /-- The helper process is starting or running. -/
 running : Bool := false
 /-- The standard output of the helper that is not read yet. -/
 available : Bytes := []
 /-- The clock when it was last read, and how often it has been read. -/
 clock : ℕ := 0
 readings : ℕ := 0
 callbacks : ℕ := 0
 log : List Seen := []

/-- What is around the client in a run. -/
structure World where
 libraries : Libraries
 /-- The image of a decoded frame can be allocated. -/
 allocated : Bytes → Bool
 /-- The time from one reading of the clock to the next. -/
 ticks : ℕ → ℕ
 /-- The time left to the watchdog, by the number of clock readings. -/
 remainingTime : ℕ → ℕ
 /-- What the owner does inside its callbacks, by their number. -/
 reaction : ℕ → Reaction

namespace Client
variable (world : World) (client : Client)

def receiving : Bool:=
 client.active ∧ !client.retiring ∧ client.runningGeneration = client.generation

def held : Bool := client.paused || client.suspended

def note (happening:Seen) : Client:=
 { client with log:=client.log++[happening] }

def elapsed : ℕ × Client:=
 let now:=client.clock+world.ticks client.readings
 (now,{ client with clock:=now,readings:=client.readings+1 })

def updateTimers : Client:=
 let client:={ client with frameTimer:=none }
 if !client.receiving ∨ client.held ∨ client.readState = .staged then
  { client with watchdog:=none }
 else if client.readState = .acknowledgement then
  let (now,client) := client.elapsed world
  { client with
    watchdog:=none
    frameTimer:=some (min (client.frameDeadline - now) kMaximumTimerInterval) }
 else if client.watchdog.isNone then
  { client with watchdog:=some client.watchdogRemaining }
 else client

/-- The helper, when there is one, is killed. -/
def stop : Client:=
 { client with
   generation:=client.generation+1
   active:=false
   pending:=none
   frameTimer:=none
   watchdog:=none
   buffer:=[]
   stagedImage:=nullImage
   frame:=noFrame
   key:=[]
   haveFrame:=false
   retiring:=client.running }

def scheduleStart : Client:=
 if client.pending.isNone ∨ client.startScheduled ∨ client.running then client
 else { client with startScheduled:=true }

variable (request : Request)

def start : Client:=
 let stopped:=client.stop
 { stopped with
   paused:=false
   active:=true
   pending:=some request }.scheduleStart

section Callbacks
variable (callback : Client → Client)

/-- Whether the owner has left the playback as it was, and the timers then. -/
def afterCallback (generation : ℕ) : Bool × Client:=
 if generation≠client.generation ∨ !client.receiving then (false,client)
 else (true,client.updateTimers world)

def presentFrame (image : QoiImage) (restartDelay : Bool) : Bool × Client:=
 let (now,client) := client.elapsed world
 let frame:=client.frame
 -- The deadline is carried forward, so that transport and decoding time does not accumulate.
 let deadline:=
  if client.haveFrame && !restartDelay then
   max (client.frameDeadline+frame.delayMs.toNat) now
  else now+frame.delayMs.toNat
 let presented:={ client with
  frameDeadline:=deadline
  haveFrame:=true
  readState:=.acknowledgement
  holdStarted:=if client.held then now else client.holdStarted }
 let noted:=presented.note
  (.presented client.key frame.sequence.toNat frame.delayMs.toNat image client.held now)
 (callback noted).afterCallback world client.generation

def complete (success : Bool) (detail : Bytes) : Client:=
 if !client.receiving then client
 else callback (client.stop.note (.finished success detail))

def flag : HoldFlag → Bool
 | .paused=>client.paused
 | .suspended=>client.suspended

def withFlag (value : Bool) : HoldFlag → Client
 | .paused=>{ client with paused:=value }
 | .suspended=>{ client with suspended:=value }

/-- What a hold that begins or ends does to the deadlines. -/
def turnHold : Client:=
 let (now,client) := client.elapsed world
 let client:=client.note (.hold client.held now)
 if client.held then
  { client with
    holdStarted:=now
    watchdogRemaining:=
     if client.watchdog.isSome then max 1 (world.remainingTime client.readings)
     else client.watchdogRemaining }
 else if client.haveFrame then
  { client with frameDeadline:=client.frameDeadline+(now - client.holdStarted) }
 else client

def changeHold (flag : HoldFlag) (value : Bool) : Client:=
 if client.flag flag = value then client
 else
  let changed:=client.withFlag value flag
  let client:=if changed.held≠client.held then changed.turnHold world else changed
  if !client.held ∧ client.receiving ∧ client.readState = .staged then
   ({ client with stagedImage:=nullImage }.presentFrame world callback client.stagedImage
    true).2
  else client.updateTimers world

def perform : Command → Client
 | .start request=>(client.start request).note (.started request.key)
 | .stop=>client.stop.note .stopped
 | .setPaused paused=>client.changeHold world callback .paused paused
 | .setSuspended suspended=>client.changeHold world callback .suspended suspended

end Callbacks

def react (world : World) : Reaction → Client → Client
 | .done, client=>client
 | .call command inside rest, client=>
  react world rest (client.perform world (react world inside) command)

/-- The owner inside its next callback. -/
def owner : Client:=
 react world (world.reaction client.callbacks)
  { client with callbacks:=client.callbacks+1 }

def announcedSize (header:Bytes) : Option ℕ:=
 let field (offset width : ℕ) := leValue ((header.drop offset).take width)
 let kind:=UInt16.ofNat (field 8 2)
 let size:=field 12 4
 if field 0 4≠kProtocolMagic.toNat ∨ field 4 2≠kProtocolMajor.toNat ∨
   field 6 2≠kProtocolMinor.toNat ∨ field 10 2≠0 ∨ field 16 8≠1 ∨
   (kind≠MessageKind.animationFrame.code ∧ kind≠MessageKind.workerResult.code) ∨
   size ≤ frameHeaderBytes ∨ size > kMaximumMetadataBytes then none
 else some size

def consumeResult (result : WorkerResult) : Client:=
 let succeeded : Bool := result.status = .success
 let success:=succeeded && client.haveFrame
 let detail:=
  if !success ∧ result.diagnosticUtf8 = [] then utf8 "GIF playback failed"
  else result.diagnosticUtf8
 (client.note (.terminated succeeded)).complete (owner world) success detail

def consumeFrame (frame : AnimationFrame) : Bool × Client:=
 let client:={ client with frame }
 if frame.image.width > kMaximumEdge ∨ frame.image.height > kMaximumEdge ∨
   frame.image.bytesWritten < 22 ∨ frame.image.bytesWritten > kMaximumQoiBytes ∨
   frame.sequence≠client.nextSequence ∨ client.nextSequence = UInt64.ofNat (2 ^ 64 - 1) then
  (false,client.complete (owner world) false
   (utf8 "GIF frame metadata exceeds playback limits"))
 else
  (true,
   { client.note (.accepted frame.sequence.toNat frame.delayMs.toNat) with
     nextSequence:=client.nextSequence+1
     needed:=frame.image.bytesWritten.toNat
     buffer:=[]
     readState:=.image })

def consumeMetadata : Bool × Client:=
 match decodeFrame client.buffer with
 | .error _=>
  (false,client.complete (owner world) false (utf8 "GIF stream metadata is invalid"))
 | .ok (header,_)=>
  if MessageKind.ofCode header.kind = some .workerResult then
   match decodeWorkerResult client.buffer with
   | .error _=>
    (false,client.complete (owner world) false (utf8 "GIF terminal result is invalid"))
   | .ok result=>(false,client.consumeResult world result)
  else
   match decodeAnimationFrame client.buffer with
   | .error _=>
    (false,client.complete (owner world) false
     (utf8 "GIF frame metadata exceeds playback limits"))
   | .ok frame=>client.consumeFrame world frame

def matchesMetadata (buffer : Bytes) (image : WorkerResult) : Bool:=
 buffer.take 4 = utf8 "qoif" ∧ readBe32 buffer 4 = image.width ∧
  readBe32 buffer 8 = image.height ∧ buffer.getD 12 0 = 4 ∧ buffer.getD 13 0 ≤ 1

def displayFrame : Bool × Client:=
 let image:=client.frame.image
 if !matchesMetadata client.buffer image then
  (false,client.complete (owner world) false
   (utf8 "GIF QOI header does not match its metadata"))
 else
  let encoded:=client.buffer
  let client:={ client with buffer:=[] }
  let malformed:=(false,client.complete (owner world) false (utf8 "GIF QOI frame is malformed"))
  match decodeQoiRgba8 world.libraries encoded with
  | .error _=>malformed
  | .ok decoded=>
   if decoded.width≠image.width ∨ decoded.height≠image.height ∨
     decoded.rgba8.length≠decoded.width.toNat*decoded.height.toNat*4 then malformed
   else if !world.allocated decoded.rgba8 then
    (false,client.complete (owner world) false (utf8 "GIF frame allocation failed"))
   else
    let client:={ client with watchdog:=none }
    -- The first frame is shown in a hold too; a later one never replaces what is shown.
    if client.haveFrame && client.held then
     (true,{ client with stagedImage:=decoded,readState:=.staged })
    else client.presentFrame world (owner world) decoded false

/-- What the loop does with a complete header, frame or image; it goes on unless it completes. -/
def readPart : Bool × Client:=
 match client.readState with
 | .header=>
  match announcedSize client.buffer with
  | none=>
   (false,client.complete (owner world) false (utf8 "GIF stream header is invalid"))
  | some size=>(true,{ client with needed:=size,readState:=.metadata })
 | .metadata=>client.consumeMetadata world
 | .image=>client.displayFrame world
 | .staged | .acknowledgement=>(true,client)

/-- The loop of `read_stdout`, for so many turns at most. -/
def readTurns : ℕ → Client → Client
 | 0, client=>client
 | turns+1, client=>
  if !client.receiving ∨ client.available = [] then client
  else if client.readState = .acknowledgement ∨ client.readState = .staged then
   client.complete (owner world) false (utf8 "GIF helper sent an unrequested frame")
  else
   let count:=min (client.needed - client.buffer.length) client.available.length
   let client:={ client with
    buffer:=client.buffer++client.available.take count
    available:=client.available.drop count }
   if client.buffer.length≠client.needed then client
   else
    match client.readPart world with
    | (true,client)=>readTurns turns client
    | (false,client)=>client

/-- A turn reads a byte at least. -/
def readStdout : Client:=
 if !client.receiving then { client with available:=client.available.drop (64*1024) }
 else client.readTurns world client.available.length

def processError (failedToStart stillRunning : Bool) : Client:=
 let client:={ client with running:=stillRunning && !failedToStart }
 let client:=client.complete (owner world) false (utf8 "GIF helper process failed")
 if failedToStart then { client with retiring:=false }.scheduleStart else client

def processFinished : Client:=
 let client:={ client with running:=false }.readStdout world
 let client:=client.complete (owner world) false (utf8 "GIF helper stream ended early")
 { client with retiring:=false }.scheduleStart

def invalidSource : Bool:=
 request.path = [] ∨ request.path.contains 0 ∨ request.size = 0 ∨
  request.size > kMaximumSourceBytes ∨ request.revision = [] ∨
  request.revision.length > 4096 ∨ request.revision.contains 0

/-- A helper that cannot be started says so inside the call that starts it. -/
def launch (spawned : Bool) : Client:=
 let client:={ client with
  pending:=none
  retiring:=false
  runningGeneration:=client.generation }
 if invalidSource request then
  client.complete (owner world) false (utf8 "GIF source identity is invalid")
 else
  let (now,client) := client.elapsed world
  let client:={ client with
   key:=request.key
   buffer:=[]
   frame:=noFrame
   readState:=.header
   needed:=frameHeaderBytes
   nextSequence:=0
   haveFrame:=false
   frameDeadline:=0
   holdStarted:=now
   watchdogRemaining:=20000
   available:=[] }
  let client:=
   if spawned then { client with running:=true } else client.processError world true false
  client.updateTimers world

def startTimeout (spawned : Bool) : Client:=
 let client:={ client with startScheduled:=false }
 match client.pending with
 | none=>client
 | some request=>if client.running then client else client.launch world request spawned

def acknowledge (written : Bool) : Client:=
 if !client.receiving ∨ client.held ∨ client.readState≠.acknowledgement then client
 else
  let (now,client) := client.elapsed world
  if now < client.frameDeadline then client.updateTimers world
  else if !written then
   client.complete (owner world) false (utf8 "GIF acknowledgement failed")
  else
   { client.note (.acknowledged client.held now) with
     frame:=noFrame
     readState:=.header
     needed:=frameHeaderBytes
     watchdogRemaining:=15000 }.updateTimers world

end Client

/-- A timer event carries what the system call inside it answers. -/
inductive Event where
 | command (command : Command)
 | readyRead (bytes : Bytes)
 | frameTimeout (written : Bool)
 | watchdogTimeout
 | startTimeout (spawned : Bool)
 | processError (failedToStart stillRunning : Bool)
 | processFinished

namespace Client
variable (world : World)

def step (client : Client) : Event → Client
 | .command command=>client.perform world (owner world) command
 | .readyRead bytes=>
  { client with available:=client.available++bytes }.readStdout world
 | .frameTimeout written=>{ client with frameTimer:=none }.acknowledge world written
 | .watchdogTimeout=>
  { client with watchdog:=none }.complete (owner world) false (utf8 "GIF frame timed out")
 | .startTimeout spawned=>client.startTimeout world spawned
 | .processError failedToStart stillRunning=>
  client.processError world failedToStart stillRunning
 | .processFinished=>client.processFinished world

def run (client : Client) (events : List Event) : Client := events.foldl (step world) client

end Client
end VoVe.GifAnimation
