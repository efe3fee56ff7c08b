import VoVe.CallLog
import VoVe.WorkerRun

set_option autoImplicit false

namespace VoVe.WorkerRunRules
open ByteCodec EffectProgram TracedProgram WorkerSupervisor WorkerRun
open WorkerProtocol (Handshake WorkerResult AnimationFrame decodeHandshake decodeAnimationFrame
 decodeWorkerResult encodeHandshake encodeWorkerJob encodeAnimationAdvance)

abbrev SupervisorEvent := Event SupervisorOp SupervisorReply

section Ledger

/-- The bytes sent to the worker and received from it, the frames shown, whether one was refused,
the file looked at since the last byte was received, the children neither reaped nor handed over,
the worker's process with what it came to, and the reservations made. -/
structure Ledger where
 sent : Bytes := []
 received : Bytes := []
 shown : List AnimationFrame := []
 refused : Bool := false
 checked : Option (ℤ × FileStatus) := none
 children : List Pid := []
 worker : Option (Pid × Option WaitStatus) := none
 reserved : ℕ := 0

def Ledger.step (L : Ledger) : SupervisorEvent → Ledger
 | ⟨.send bytes,.moved count⟩=>{ L with sent:=L.sent++bytes.take count }
 | ⟨.receive size,.moved bytes⟩=>
  { L with received:=L.received++bytes.take size,checked:=none }
 | ⟨.showFrame frame,some false⟩=>{ L with shown:=L.shown++[frame],refused:=true }
 | ⟨.showFrame frame,_⟩=>{ L with shown:=L.shown++[frame] }
 | ⟨.fileStatus descriptor,some status⟩=>{ L with checked:=some (descriptor,status) }
 | ⟨.fork program,some pid⟩=>
  { L with
    children:=pid::L.children
    worker:=if program = .worker then some (pid,none) else L.worker }
 | ⟨.waitpid pid,.reaped status⟩=>
  { L with
    children:=L.children.erase pid
    worker:=L.worker.map fun worker =>
     if worker.1 = pid then (worker.1,some status) else worker }
 | ⟨.waitpid pid,.noChild⟩=>{ L with children:=L.children.erase pid }
 | ⟨.defer pid,_⟩=>{ L with children:=L.children.erase pid }
 | ⟨.reserve,.ok true⟩=>{ L with reserved:=L.reserved+1 }
 | _=>L

variable (log : SupervisorLog)

def ledger : Ledger := log.foldl Ledger.step {}

/-- What an event changes about the reservations a run holds. -/
def reservations : SupervisorEvent → ℤ
 | ⟨.reserve,.ok true⟩=>1
 | ⟨.release,_⟩=>-1
 | ⟨.defer _,_⟩=>-1
 | _=>0

def holding : ℤ := (log.map reservations).sum

/-- The request was cancelled, or its frame callback refused to go on. -/
def Cancelled : Prop := ⟨.cancelled,some true⟩ ∈ log ∨ (ledger log).refused = true

variable {log : SupervisorLog} {event : SupervisorEvent}

lemma ledger_append (log : SupervisorLog) (event : SupervisorEvent):
 ledger (log++[event])=(ledger log).step event:=by
 rw [ledger,List.foldl_append]
 rfl

lemma holding_append (log : SupervisorLog) (event : SupervisorEvent):
 holding (log++[event])=holding log+reservations event:=by
 rw [holding,List.map_append,List.sum_append]
 exact congrArg _ (by simp)

lemma reserved_step (L : Ledger) (h:reservations event=0):
 (L.step event).reserved=L.reserved:=by
 unfold Ledger.step
 split
 case h_10 => exact absurd h one_ne_zero
 all_goals rfl

lemma refused_step {L : Ledger} (h:L.refused=true) (event : SupervisorEvent):
 (L.step event).refused=true:=by
 obtain ⟨op,y⟩:=event
 unfold Ledger.step
 split
 case h_3 => rfl
 all_goals exact h

lemma Cancelled.append (h:Cancelled log) (event : SupervisorEvent):
 Cancelled (log++[event]):=by
 refine h.imp (List.mem_append_left _) ?_
 intro hrefused
 rw [ledger_append]
 exact refused_step hrefused event

/-- The operations that leave the ledger and the reservations as they are. -/
def quiet : SupervisorOp → Bool
 | .cancelled | .isOpen _ | .accessMode _ | .executablePath _ | .errno | .strerror _
 | .makeSocketPair | .makePipe | .kill _ | .turns _ | .readStatus _ | .sendObjects _
 | .shutdown | .rewind _ _ | .discard _=>true
 | _=>false

def showsFrame : SupervisorOp → Bool
 | .showFrame _=>true
 | _=>false

lemma not_frame {op : SupervisorOp} (h:showsFrame op=false) (frame : AnimationFrame):
 op≠.showFrame frame:=by
 intro hop
 rw [hop] at h
 exact Bool.false_ne_true h.symm

lemma quiet_op {op : SupervisorOp} (h:quiet op=true) (frame : AnimationFrame):
 op≠.showFrame frame:=by
 intro hop
 rw [hop] at h
 exact Bool.false_ne_true h

lemma step_quiet {op : SupervisorOp} (h:quiet op=true) (L : Ledger)
 (y : SupervisorReply op) : L.step ⟨op,y⟩=L:=by
 cases op<;>first | rfl | cases h

lemma reservations_quiet {op : SupervisorOp} (h:quiet op=true)
 (y : SupervisorReply op) : reservations ⟨op,y⟩=0:=by
 cases op<;>first | rfl | cases h

end Ledger

section Promises

variable (request : SupervisorRequest)

def Acknowledges (bytes : Bytes) : Prop:=
 ∃ acknowledgement : Handshake,
  decodeHandshake bytes .handshakeAcknowledgement = .ok acknowledgement ∧
   acknowledgement.buildId = request.expectedBuildId ∧
   acknowledgement.capabilities &&& requiredCapabilities request = requiredCapabilities request

def Decodes (bytes : Bytes) (frame : AnimationFrame) : Prop := decodeAnimationFrame bytes = .ok frame

def Streams (received : Bytes) (frames : List AnimationFrame) : Prop:=
 ∃ acknowledgement parts,Acknowledges request acknowledgement ∧
  received = acknowledgement++parts.flatten ∧ List.Forall₂ Decodes parts frames

def Commands (sent : Bytes) (count : ℕ) : Prop:=
 ∃ (handshake job : Bytes) (advances : List Bytes),
  encodeHandshake ⟨request.expectedBuildId,offeredCapabilities⟩ .handshake = .ok handshake ∧
   encodeWorkerJob (childJob request) = .ok job ∧
   (∀advance ∈ advances, encodeAnimationAdvance ⟨request.job.jobId,true⟩ = .ok advance) ∧
   advances.length = count ∧ sent = handshake++job++advances.flatten

/-- The output file was a regular file of the size a result declares, and within the limit. -/
def OutputHas (L : Ledger) (image : WorkerResult) : Prop:=
 L.checked = some (request.outputObject,⟨true,image.bytesWritten.toNat⟩) ∧
  image.bytesWritten ≤ request.job.limits.maximumOutputBytes

/-- What the frame callback is promised of a frame. -/
structure Shows (request : SupervisorRequest) (L : Ledger) (frame : AnimationFrame) : Prop where
 sequence : frame.sequence.toNat=L.shown.length
 fits : animationFrameFits request frame frame.sequence=true
 output : OutputHas request L frame.image
 streams : Streams request L.received (L.shown++[frame])
 commands : Commands request L.sent L.shown.length

def Paced (log : SupervisorLog) : Prop:=
 ∀before frame answer after,log = before++⟨.showFrame frame,answer⟩::after →
  Shows request (ledger before) frame

variable {r request : SupervisorRequest} {log : SupervisorLog} {event : SupervisorEvent}

lemma paced_nil : Paced r []:=by
 intro before frame answer after h
 exact absurd h.symm (List.append_ne_nil_of_right_ne_nil before (List.cons_ne_nil _ after))

lemma Paced.append (h:Paced r log)
 (hshow:∀frame,event.1=.showFrame frame → Shows r (ledger log) frame):
 Paced r (log++[event]):=by
 intro before frame answer after hsplit
 obtain ⟨middle,hlog,-⟩ | ⟨first,hbefore,hlast⟩:=CallLog.split_cases hsplit
 · exact h before frame answer middle hlog
 · cases first with
   | nil=>
    rw [List.append_nil] at hbefore
    rw [hbefore]
    exact hshow frame (congrArg Sigma.fst (List.cons.inj hlast).1)
   | cons head tail=>simp at hlast

/-- What is true at every point of a run. -/
structure Sound (request : SupervisorRequest) (log : SupervisorLog) : Prop where
 paced : Paced request log
 held : 0≤holding log ∧ holding log≤1

/-- A point of a run: its ledger, whether it holds its reservation, and why it was stopped. -/
structure Point (request : SupervisorRequest) (active : Bool) (held:Held) (log : SupervisorLog)
  (L : Ledger) : Prop where
 paced : Paced request log
 ledger_eq : ledger log=L
 active_eq : held.active=active
 holding_eq : holding log=if active then 1 else 0
 once : L.reserved≤1
 stopped : held.cancel.stopped=true → held.cancel.callbackFailed=true ∨ Cancelled log

variable {held : Held} {L : Ledger} {active : Bool}

lemma Point.sound (h:Point r active held log L) : Sound r log:=by
 refine ⟨h.paced,?_⟩
 rw [h.holding_eq]
 cases active<;>decide

lemma Point.append (h:Point r active held log L) (event : SupervisorEvent)
 (hreservations:reservations event=0)
 (hshow:∀frame,event.1=.showFrame frame → Shows r L frame):
 Point r active held (log++[event]) (L.step event):=by
 constructor
 · refine h.paced.append ?_
   rw [h.ledger_eq]
   exact hshow
 · rw [ledger_append,h.ledger_eq]
 · exact h.active_eq
 · rw [holding_append,h.holding_eq,hreservations,Int.add_zero]
 · rw [reserved_step L hreservations]
   exact h.once
 · intro hstopped
   exact (h.stopped hstopped).imp_right fun hcancelled=>hcancelled.append event

end Promises

section Steps
variable {r request : SupervisorRequest} {active : Bool} {held : Held} {log : SupervisorLog}
 {L : Ledger} {α β : Type}

/-- `post` holds at the end of every run of `m` from here, and the run is sound throughout. -/
abbrev Leads (request : SupervisorRequest) (m : Supervision α) (held:Held) (log : SupervisorLog)
  (post : α → Held → SupervisorLog → Prop) : Prop:=
 Runs (Sound request) m held log post

lemma leads_pure {a : α} {post : α → Held → SupervisorLog → Prop}
 (h:Point r active held log L) (hpost:post a held log):
 Leads r (pure a) held log post:=
 runs_pure h.sound hpost

lemma leads_get {f : Held → Supervision β} {post : β → Held → SupervisorLog → Prop}
 (h:Point r active held log L) (hrest:Leads r (f held) held log post):
 Leads r (get >>= f) held log post:=
 runs_bind (runs_get h.sound hrest)

lemma leads_perform {op : SupervisorOp} {f : SupervisorReply op → Supervision β}
 {post : β → Held → SupervisorLog → Prop} (h:Point r active held log L)
 (hop:∀frame,op≠.showFrame frame) (hreservations:∀y,reservations ⟨op,y⟩=0)
 (hrest:∀y log,Point r active held log (L.step ⟨op,y⟩) → Leads r (f y) held log post):
 Leads r (perform op >>= f) held log post:=by
 refine runs_bind (runs_ask h.sound ?_)
 intro y
 have hnext:Point r active held (log++[⟨op,y⟩]) (L.step ⟨op,y⟩):=
  h.append ⟨op,y⟩ (hreservations y) fun frame hframe=>absurd hframe (hop frame)
 exact ⟨hnext.sound,hrest y _ hnext⟩

lemma leads_quiet {op : SupervisorOp} {f : SupervisorReply op → Supervision β}
 {post : β → Held → SupervisorLog → Prop} (h:Point r active held log L)
 (hquiet:quiet op=true)
 (hrest:∀y log,Point r active held log L → Leads r (f y) held log post):
 Leads r (perform op >>= f) held log post:=by
 refine leads_perform h (quiet_op hquiet) (reservations_quiet hquiet) ?_
 intro y next hnext
 rw [step_quiet hquiet] at hnext
 exact hrest y next hnext

/-- A function that leaves the ledger as it is, and the rest from there. -/
def Passes (request : SupervisorRequest) (active : Bool) (L : Ledger) (also : α → Held → Prop)
  (m : Supervision α) : Prop:=
 ∀held log,Point request active held log L →
  Leads request m held log fun a held log=>Point request active held log L ∧ also a held

lemma leads_passes {m : Supervision α} {f : α → Supervision β} {also : α → Held → Prop}
 {post : β → Held → SupervisorLog → Prop} (hm:Passes r active L also m)
 (h:Point r active held log L)
 (hrest:∀a held log,Point r active held log L → also a held →
  Leads r (f a) held log post) : Leads r (m >>= f) held log post:=
 runs_step (hm held log h) fun a held log _ hend=>hrest a held log hend.1 hend.2

lemma errnoMessage_passes (operation : String):
 Passes r active L (fun _ _=>True) (errnoMessage operation):=by
 intro held log h
 refine leads_quiet h rfl ?_
 intro y log h
 exact leads_pure h ⟨h,trivial⟩

lemma poll_passes (c : Bool):
 Passes r active L (fun stopped held=>stopped=true → held.cancel.stopped=true)
  (poll c):=by
 intro held log h
 refine leads_get h ?_
 by_cases hdone:(!c || held.cancel.stopped)=true
 · rw [if_pos hdone]
   refine leads_pure h ⟨h,?_⟩
   intro hstopped
   exact (Bool.and_eq_true_iff.mp hstopped).2
 · rw [if_neg hdone]
   refine runs_bind (runs_ask h.sound ?_)
   intro y
   have hnext:=h.append ⟨.cancelled,y⟩ (reservations_quiet rfl y)
    fun frame hframe=>absurd hframe (not_frame rfl frame)
   refine ⟨hnext.sound,?_⟩
   cases y with
   | none=>
    have hset:Point r active
      { held with cancel:={ stopped:=true,callbackFailed:=true } }
      (log++[⟨.cancelled,none⟩]) L:=
     { hnext with stopped:=fun _=>.inl rfl }
    refine runs_bind (runs_set hnext.sound ?_)
    exact leads_pure hset ⟨hset,fun _=>rfl⟩
   | some stopped=>
    have hset:Point r active
      { held with cancel:={ held.cancel with stopped:=stopped } }
      (log++[⟨.cancelled,some stopped⟩]) L:=by
     refine { hnext with stopped:=?_ }
     intro hstopped
     have hlast:stopped=true:=hstopped
     rw [hlast]
     exact .inr (.inl (List.mem_append_right _ (List.mem_singleton_self _)))
    refine runs_bind (runs_set hnext.sound ?_)
    exact leads_pure hset ⟨hset,id⟩

end Steps

section Conclusions

/-- The result that a worker gave was checked in every respect. -/
structure Accepted (request : SupervisorRequest) (result : SupervisorResult) (L : Ledger):
  Prop where
 streams : ∃ acknowledgement parts last,Acknowledges request acknowledgement ∧
  L.received=acknowledgement++parts.flatten++last ∧
  List.Forall₂ Decodes parts L.shown ∧ decodeWorkerResult last=.ok result.workerResult
 jobId : result.workerResult.jobId=request.job.jobId
 output : OutputHas request L result.workerResult
 exited : ∃ pid,L.worker=some (pid,some (.exited 0))
 exitCode : result.exitCode=0

variable (request : SupervisorRequest) (result : SupervisorResult)

/-- What a result without an error stands for. -/
def Rightful (log : SupervisorLog) : Prop:=
 result.error = .none →
  (Cancelled log ∧ result.workerResult = { jobId:=request.job.jobId,status:=.cancelled }) ∨
   Accepted request result (ledger log)

/-- A run that is over but for its reservation. -/
def Concludes (held:Held)
  (log : SupervisorLog) : Prop:=
 ∃ active L,Point request active held log L ∧ L.children = [] ∧ Rightful request result log

variable {r request : SupervisorRequest} {active : Bool} {held : Held} {log : SupervisorLog}
 {L : Ledger} {result : SupervisorResult}

lemma rightful_of_error (h:result.error≠.none) : Rightful r result log:=
 fun hnone=>absurd hnone h

lemma Point.stops (h:Point r active held log L)
 (hstopped:held.cancel.stopped=true ∨ L.refused=true):
 held.cancel.callbackFailed=true ∨ Cancelled log:=by
 obtain hstopped | hrefused:=hstopped
 · exact h.stopped hstopped
 · rw [←h.ledger_eq] at hrefused
   exact .inr (.inr hrefused)

/-- A result without an error, before the worker has given one, is that of a cancelled run. -/
def Excused (request : SupervisorRequest) (held:Held) (L : Ledger) (result : SupervisorResult):
  Prop:=
 result.error = .none → held.cancel.callbackFailed = false ∧
  (held.cancel.stopped = true ∨ L.refused = true) ∧
  result.workerResult = { jobId:=request.job.jobId,status:=.cancelled }

lemma excused_of_error (h:result.error≠.none) : Excused r held L result:=
 fun hnone=>absurd hnone h

lemma Excused.rightful (h:Excused r held L result)
 (hpoint:Point r active held log L) : Rightful r result log:=by
 intro hnone
 obtain ⟨hfailed,hstopped,hresult⟩:=h hnone
 refine .inl ⟨(hpoint.stops hstopped).resolve_left ?_,hresult⟩
 rw [hfailed]
 exact Bool.false_ne_true

lemma setCancelledResult_leads (h:Point r active held log L)
 (hstopped:held.cancel.stopped=true ∨ L.refused=true) (result : SupervisorResult):
 Leads r (setCancelledResult result r.job) held log fun result held' log' =>
  held'=held ∧ log'=log ∧ Excused r held L result:=by
 refine leads_get h ?_
 by_cases hfailed:held.cancel.callbackFailed=true
 · rw [if_pos hfailed]
   exact leads_pure h ⟨rfl,rfl,excused_of_error nofun⟩
 · rw [if_neg hfailed]
   refine leads_pure h ⟨rfl,rfl,?_⟩
   intro _
   exact ⟨Bool.eq_false_iff.mpr hfailed,hstopped,rfl⟩

end Conclusions

section Streams
variable {r request : SupervisorRequest} {active : Bool} {held : Held} {log : SupervisorLog}
 {L : Ledger} {α β : Type}

variable (c : Bool)

lemma beginTurn_passes (t : ℕ) : Passes r active L
  (fun failure held=>∀why,failure=some why → why.status=.cancelled →
   held.cancel.stopped=true) (beginTurn c t):=by
 intro held log h
 refine leads_passes (poll_passes c) h ?_
 intro stopped held log h hstopped
 cases stopped with
 | true=>
  refine leads_pure h ⟨h,?_⟩
  intro why _ _
  exact hstopped rfl
 | false=>
  refine leads_pure h ⟨h,?_⟩
  intro why hwhy hcancelled
  split at hwhy
  · rw [←Option.some.inj hwhy] at hcancelled
    cases hcancelled
  · cases hwhy

def Transfers (request : SupervisorRequest) (active : Bool) (L : Ledger)
  (done : α → Held → SupervisorLog → Prop):
  Except IoFailure α → Held → SupervisorLog → Prop
 | .ok a, held, log=>done a held log
 | .error failure, held, log=>(failure.status = .cancelled → held.cancel.stopped = true) ∧
   ∃ next,Point request active held log next ∧ next.children = L.children

lemma transfers_failed {done : α → Held → SupervisorLog → Prop} {failure : IoFailure}
 {start : Ledger} (h:Point r active held log L) (hchildren:L.children=start.children)
 (hfailure:failure.status=.cancelled → held.cancel.stopped=true):
 Leads r (pure (.error failure)) held log (Transfers r active start done):=
 leads_pure h ⟨hfailure,L,h,hchildren⟩

lemma transfers_errno {done : α → Held → SupervisorLog → Prop} {status : IoStatus}
 {operation : String} {start : Ledger} (h:Point r active held log L)
 (hchildren:L.children=start.children) (hstatus:status≠.cancelled):
 Leads r (do return .error ⟨status,←errnoMessage operation⟩) held log
  (Transfers r active start done):=by
 refine leads_passes (errnoMessage_passes operation) h ?_
 intro detail held log h _
 exact transfers_failed h hchildren fun hcancelled=>absurd hcancelled hstatus

abbrev Sent (request : SupervisorRequest) (active : Bool) (L : Ledger) (bytes : Bytes):
  Except IoFailure Unit → Held → SupervisorLog → Prop:=
 Transfers request active L fun _ held log =>
  Point request active held log { L with sent:=L.sent++bytes }

lemma sent_nothing (h:Point r active held log L):
 Leads r (pure (.ok ())) held log (Sent r active L []):=by
 refine leads_pure h ?_
 change Point r active held log { L with sent:=L.sent++[] }
 rw [List.append_nil]
 exact h

lemma sendTurns_leads (t : ℕ) (bytes : Bytes)
 (h:Point r active held log L):
 Leads r (sendTurns c t bytes) held log (Sent r active L bytes):=by
 induction t generalizing bytes held log L with
 | zero=>
  unfold sendTurns
  by_cases hdone:bytes=[]
  · rw [if_pos hdone]
    rw [hdone]
    exact sent_nothing h
  · rw [if_neg hdone]
    refine leads_passes (beginTurn_passes c 0) h ?_
    intro failure held log h hfailure
    cases failure with
    | none=>exact transfers_failed h rfl nofun
    | some why=>exact transfers_failed h rfl (hfailure why rfl)
 | succ t ih=>
  unfold sendTurns
  by_cases hdone:bytes=[]
  · rw [if_pos hdone]
    rw [hdone]
    exact sent_nothing h
  · rw [if_neg hdone]
    refine leads_passes (beginTurn_passes c (t+1)) h ?_
    intro failure held log h hfailure
    cases failure with
    | some why=>exact transfers_failed h rfl (hfailure why rfl)
    | none=>
     refine leads_perform h (not_frame rfl) (fun y=>rfl) ?_
     intro y log h
     cases y with
     | waiting=>exact ih bytes h
     | closed=>exact transfers_failed h rfl nofun
     | pollFailed=>exact transfers_errno h rfl nofun
     | failed=>exact transfers_errno h rfl nofun
     | moved count=>
      cases count with
      | zero=>exact transfers_failed h rfl nofun
      | succ count=>
       refine runs_mono (ih (bytes.drop (count+1)) h) ?_
       intro outcome held log _ hend
       cases outcome with
       | error failure=>exact hend
       | ok sent=>
        change Point r active held log
         { L with sent:=L.sent++bytes.take (count+1)++bytes.drop (count+1) } at hend
        rw [List.append_assoc,List.take_append_drop] at hend
        exact hend

lemma sendAll_leads (bytes : Bytes) (d : ℤ)
 (h:Point r active held log L):
 Leads r (sendAll c bytes d) held log (Sent r active L bytes):=by
 refine leads_quiet h rfl ?_
 intro t log h
 exact sendTurns_leads c t bytes h

/-- After bytes have been received: those of the result that were not there before. -/
abbrev Received (request : SupervisorRequest) (active : Bool) (L : Ledger) (before : Bytes):
  Except IoFailure Bytes → Held → SupervisorLog → Prop:=
 Transfers request active L fun bytes held log=>∃ more checked,bytes = before++more ∧
  Point request active held log { L with received:=L.received++more,checked:=checked }

lemma received_enough (h:Point r active held log L) (bytes : Bytes):
 Leads r (pure (.ok bytes)) held log (Received r active L bytes):=by
 refine leads_pure h ⟨[],L.checked,(List.append_nil bytes).symm,?_⟩
 rw [List.append_nil]
 exact h

lemma receiveTurns_leads (size t : ℕ) (bytes : Bytes)
 (h:Point r active held log L):
 Leads r (receiveTurns c size t bytes) held log
  (Received r active L bytes):=by
 induction t generalizing bytes held log L with
 | zero=>
  unfold receiveTurns
  by_cases hdone:size≤bytes.length
  · rw [if_pos hdone]
    exact received_enough h bytes
  · rw [if_neg hdone]
    refine leads_passes (beginTurn_passes c 0) h ?_
    intro failure held log h hfailure
    cases failure with
    | none=>exact transfers_failed h rfl nofun
    | some why=>exact transfers_failed h rfl (hfailure why rfl)
 | succ t ih=>
  unfold receiveTurns
  by_cases hdone:size≤bytes.length
  · rw [if_pos hdone]
    exact received_enough h bytes
  · rw [if_neg hdone]
    refine leads_passes (beginTurn_passes c (t+1)) h ?_
    intro failure held log h hfailure
    cases failure with
    | some why=>exact transfers_failed h rfl (hfailure why rfl)
    | none=>
     refine leads_perform h (not_frame rfl) (fun y=>rfl) ?_
     intro y log h
     cases y with
     | waiting=>exact ih bytes h
     | closed=>exact transfers_failed h rfl nofun
     | pollFailed=>exact transfers_errno h rfl nofun
     | failed=>exact transfers_errno h rfl nofun
     | moved more=>
      cases more with
      | nil=>exact transfers_failed h rfl nofun
      | cons first rest=>
       refine runs_mono (ih (bytes++(first::rest).take (size - bytes.length)) h) ?_
       intro outcome held log _ hend
       cases outcome with
       | error failure=>exact hend
       | ok all=>
        obtain ⟨last,checked,hall,hpoint⟩:=hend
        refine ⟨(first::rest).take (size - bytes.length)++last,checked,?_,?_⟩
        · rw [hall,List.append_assoc]
        · rw [←List.append_assoc]
          exact hpoint

lemma receiveExact_leads (size : ℕ) (d : ℤ)
 (h:Point r active held log L):
 Leads r (receiveExact c size d) held log
  (Received r active L []):=by
 refine leads_quiet h rfl ?_
 intro t log h
 exact receiveTurns_leads c size t [] h

lemma receiveFrame_leads (d : ℤ)
 (h:Point r active held log L):
 Leads r (receiveFrame c d) held log (Received r active L []):=by
 refine runs_step (receiveExact_leads c ScanCodec.frameHeaderBytes d h) ?_
 intro outcome held log _ hheader
 cases outcome with
 | error failure=>
  obtain ⟨hfailure,next,h,hchildren⟩:=hheader
  exact transfers_failed h hchildren hfailure
 | ok header=>
  obtain ⟨more,checked,hmore,h⟩:=hheader
  rw [List.nil_append] at hmore
  subst hmore
  dsimp only
  split
  · exact transfers_failed h rfl nofun
  refine runs_step (receiveExact_leads c _ d h) ?_
  intro outcome held log _ hpayload
  cases outcome with
  | error failure=>
   obtain ⟨hfailure,next,h,hchildren⟩:=hpayload
   exact transfers_failed h hchildren hfailure
  | ok payload=>
   obtain ⟨more,checked,hmore,h⟩:=hpayload
   rw [List.nil_append] at hmore
   subst hmore
   dsimp only
   split
   · exact transfers_failed h rfl nofun
   · refine leads_pure h ⟨header++payload,checked,rfl,?_⟩
     rw [←List.append_assoc]
     exact h

end Streams

section Children
variable {r request : SupervisorRequest} {active : Bool} {held : Held} {log : SupervisorLog}
 {L : Ledger} {α β : Type}

def Left (request : SupervisorRequest) (L : Ledger) (children : List Pid) (active : Bool)
  (held:Held) (log : SupervisorLog) : Prop:=
 ∃ worker,Point request active held log { L with children:=children,worker:=worker }

lemma Left.trans {children last : List Pid} {worker : Option (Pid × Option WaitStatus)}
 (h:Left r { L with children:=children,worker:=worker } last active held log):
 Left r L last active held log := h

lemma Point.left (h:Point r active held log L) : Left r L L.children active held log:=
 ⟨L.worker,h⟩

lemma Point.defer (h:Point r true held log L) (pid : Pid):
 Point r false { held with active:=false } (log++[⟨.defer pid,()⟩])
  { L with children:=L.children.erase pid }:=by
 constructor
 · exact h.paced.append fun frame hframe=>absurd hframe (not_frame rfl frame)
 · rw [ledger_append,h.ledger_eq]
   rfl
 · rfl
 · rw [holding_append,h.holding_eq]
   rfl
 · exact h.once
 · intro hstopped
   exact (h.stopped hstopped).imp_right fun hcancelled=>hcancelled.append _

lemma terminateTurns_leads (pid : Pid) (t : ℕ) (h:Point r true held log L)
 (hpid:L.children.erase pid=[]):
 Leads r (terminateTurns pid t) held log fun _ held' log' =>
  held'.cancel=held.cancel ∧ ∃ active,Left r L [] active held' log':=by
 induction t generalizing log L with
 | zero=>
  refine leads_get h ?_
  rw [if_pos h.active_eq]
  refine runs_bind (runs_ask h.sound ?_)
  intro y
  have hdeferred:=h.defer pid
  rw [hpid] at hdeferred
  have hsound:Sound r (log++[⟨.defer pid,y⟩]):=hdeferred.sound
  refine ⟨hsound,runs_set hsound ?_⟩
  exact ⟨rfl,false,L.worker,hdeferred⟩
 | succ t ih=>
  refine leads_perform h (not_frame rfl) (fun y=>rfl) ?_
  intro y log h
  cases y with
  | running=>exact ih h hpid
  | reaped status=>
   refine leads_pure h ⟨rfl,true,?_⟩
   have hleft:=h.left
   change Left r _ (L.children.erase pid) true held log at hleft
   rw [hpid] at hleft
   exact hleft.trans
  | noChild=>
   refine leads_pure h ⟨rfl,true,?_⟩
   have hleft:=h.left
   change Left r _ (L.children.erase pid) true held log at hleft
   rw [hpid] at hleft
   exact hleft

lemma terminateProcessGroup_leads (pid : Pid) (h:Point r true held log L)
 (hpid:L.children.erase pid=[]):
 Leads r (terminateProcessGroup pid) held log fun _ held' log' =>
  held'.cancel=held.cancel ∧ ∃ active,Left r L [] active held' log':=by
 refine leads_quiet h rfl ?_
 intro _ log h
 refine leads_quiet h rfl ?_
 intro t log h
 exact terminateTurns_leads pid t h hpid

def cameTo (worker : Option (Pid × Option WaitStatus)) (pid : Pid) (status : WaitStatus):
  Option (Pid × Option WaitStatus):=
 worker.map fun worker=>if worker.1 = pid then (worker.1,some status) else worker

/-- What awaiting the only child leaves: its exit, or a child that may still be there. -/
def Awaited (request : SupervisorRequest) (active : Bool) (L : Ledger) (pid : Pid):
  Option ℤ → Held → SupervisorLog → Prop
 | some exit, held, log=>∃ status,exit = decodedExitCode status ∧
   Point request active held log
    { L with children:=[],worker:=cameTo L.worker pid status }
 | none, held, log=>∃ children,children.erase pid = [] ∧
   Left request L children active held log

lemma Awaited.reaped {status : WaitStatus} {pid : Pid} (hpid:L.children.erase pid=[])
 (h:Point r active held log (L.step ⟨.waitpid pid,.reaped status⟩)):
 Awaited r active L pid (some (decodedExitCode status)) held log:=by
 refine ⟨status,rfl,?_⟩
 change Point r active held log
  { L with children:=L.children.erase pid,worker:=cameTo L.worker pid status } at h
 rw [hpid] at h
 exact h

lemma Awaited.noChild {pid : Pid} (hpid:L.children.erase pid=[])
 (h:Point r active held log (L.step ⟨.waitpid pid,.noChild⟩)):
 Awaited r active L pid none held log:=by
 refine ⟨[],List.erase_nil pid,L.worker,?_⟩
 rw [←hpid]
 exact h

lemma waitTurns_leads (c : Bool) (pid : Pid) (t : ℕ)
 (h:Point r active held log L) (hpid:L.children.erase pid=[]):
 Leads r (waitTurns c pid t) held log (Awaited r active L pid):=by
 induction t generalizing held log L with
 | zero=>
  refine leads_passes (poll_passes c) h ?_
  intro stopped held log h _
  cases stopped with
  | true=>exact leads_pure h ⟨L.children,hpid,h.left⟩
  | false=>
   refine leads_perform h (not_frame rfl) (fun y=>rfl) ?_
   intro y log h
   cases y with
   | reaped status=>exact leads_pure h (Awaited.reaped hpid h)
   | running=>exact leads_pure h ⟨L.children,hpid,h.left⟩
   | noChild=>exact leads_pure h (Awaited.noChild hpid h)
 | succ t ih=>
  refine leads_passes (poll_passes c) h ?_
  intro stopped held log h _
  cases stopped with
  | true=>exact leads_pure h ⟨L.children,hpid,h.left⟩
  | false=>
   refine leads_perform h (not_frame rfl) (fun y=>rfl) ?_
   intro y log h
   cases y with
   | reaped status=>exact leads_pure h (Awaited.reaped hpid h)
   | running=>exact ih h hpid
   | noChild=>exact leads_pure h (Awaited.noChild hpid h)

lemma waitForProcess_leads (c : Bool) (pid : Pid) (d : ℤ)
 (h:Point r active held log L) (hpid:L.children.erase pid=[]):
 Leads r (waitForProcess c pid d) held log
  (Awaited r active L pid):=by
 refine leads_quiet h rfl ?_
 intro t log h
 exact waitTurns_leads c pid t h hpid

end Children

section Launch
variable {r request : SupervisorRequest} {active : Bool} {held : Held} {log : SupervisorLog}
 {L : Ledger} {α β : Type}

lemma findFirst_passes (candidates : List Bytes):
 Passes r active L (fun _ _=>True) (findFirst candidates):=by
 induction candidates with
 | nil=>
  intro held log h
  exact leads_pure h ⟨h,trivial⟩
 | cons candidate candidates ih=>
  intro held log h
  refine leads_quiet h rfl ?_
  intro y log h
  cases y with
  | none=>exact ih held log h
  | some executable=>exact leads_pure h ⟨h,trivial⟩

variable (c : Bool)

lemma probeBubblewrap_leads (h:Point r true held log L)
 (hchildren:L.children=[]):
 Leads r (probeBubblewrap c) held log fun _ held log =>
  ∃ active,Left r L [] active held log:=by
 refine leads_quiet h rfl ?_
 intro y log h
 have hleft {log : SupervisorLog} (h:Point r true held log L):
   ∃ active,Left r L [] active held log:=by
  refine ⟨true,?_⟩
  rw [←hchildren]
  exact h.left
 cases y with
 | none=>exact leads_pure h (hleft h)
 | some executable=>
  refine leads_perform h (not_frame rfl) ?_ ?_
  · intro y
    cases y<;>rfl
  intro y log h
  cases y with
  | none=>exact leads_pure h (hleft h)
  | some pid=>
   have hpid:(pid::L.children).erase pid=[]:=by
    rw [hchildren]
    exact List.erase_cons_head pid []
   refine runs_step (waitForProcess_leads c pid kBubblewrapProbeTimeout h hpid) ?_
   intro exit held log _ hexit
   cases exit with
   | some exit=>
    obtain ⟨status,-,h⟩:=hexit
    exact leads_pure h ⟨true,cameTo L.worker pid status,h⟩
   | none=>
    obtain ⟨children,hchildren,worker,h⟩:=hexit
    refine runs_step (terminateProcessGroup_leads pid h hchildren) ?_
    intro _ held log _ hend
    obtain ⟨-,active,worker,h⟩:=hend
    exact leads_pure h ⟨active,worker,h⟩

lemma chooseSandbox_leads (h:Point r true held log L)
 (hchildren:L.children=[]):
 Leads r (chooseSandbox c) held log fun _ held log =>
  ∃ active,Left r L [] active held log:=by
 refine leads_passes (findFirst_passes _) h ?_
 intro bubblewrap held log h _
 cases bubblewrap with
 | none=>
  refine leads_pure h ⟨true,?_⟩
  rw [←hchildren]
  exact h.left
 | some _=>
  refine runs_step (probeBubblewrap_leads c h hchildren) ?_
  intro probed held log _ hprobe
  obtain ⟨active,worker,h⟩:=hprobe
  cases probed with
  | true=>exact leads_pure h ⟨active,worker,h⟩
  | false=>exact leads_pure h ⟨active,worker,h⟩

lemma statusTurns_passes (t : ℕ) (bytes : Bytes):
 Passes r active L (fun _ _=>True) (statusTurns c t bytes):=by
 induction t generalizing bytes with
 | zero=>
  intro held log h
  refine leads_passes (beginTurn_passes c 0) h ?_
  intro failure held log h _
  cases failure with
  | none=>exact leads_pure h ⟨h,trivial⟩
  | some why=>exact leads_pure h ⟨h,trivial⟩
 | succ t ih=>
  intro held log h
  refine leads_passes (beginTurn_passes c (t+1)) h ?_
  intro failure held log h _
  cases failure with
  | some why=>exact leads_pure h ⟨h,trivial⟩
  | none=>
   refine leads_quiet h rfl ?_
   intro y log h
   cases y with
   | waiting=>exact ih bytes held log h
   | closed=>exact leads_pure h ⟨h,trivial⟩
   | pollFailed=>
    refine leads_passes (errnoMessage_passes _) h ?_
    intro detail held log h _
    exact leads_pure h ⟨h,trivial⟩
   | failed=>
    refine leads_quiet h rfl ?_
    intro error log h
    refine leads_passes (errnoMessage_passes _) h ?_
    intro detail held log h _
    exact leads_pure h ⟨h,trivial⟩
   | moved more=>
    cases more with
    | nil=>
     dsimp only
     split<;>exact leads_pure h ⟨h,trivial⟩
    | cons first rest=>
     dsimp only
     split
     · exact ih _ held log h
     · split<;>exact leads_pure h ⟨h,trivial⟩

lemma readChildStatus_passes (d : ℤ):
 Passes r active L (fun _ _=>True) (readChildStatus c d):=by
 intro held log h
 refine leads_quiet h rfl ?_
 intro t log h
 exact statusTurns_passes c t [] held log h

lemma setupDetail_passes (what : String) (failure : ChildFailure):
 Passes r active L (fun _ _=>True) (setupDetail what failure):=by
 intro held log h
 refine leads_quiet h rfl ?_
 intro text log h
 exact leads_pure h ⟨h,trivial⟩

lemma leads_terminate {pid : Pid} {f : Unit → Supervision β}
 {post : β → Held → SupervisorLog → Prop} (h:Point r true held log L)
 (hpid:L.children.erase pid=[])
 (hrest:∀active held' log worker,held'.cancel=held.cancel →
  Point r active held' log { L with children:=[],worker:=worker } →
  Leads r (f ()) held' log post):
 Leads r (terminateProcessGroup pid >>= f) held log post:=by
 refine runs_step (terminateProcessGroup_leads pid h hpid) ?_
 intro _ held' log _ hend
 obtain ⟨hcancel,active,worker,h⟩:=hend
 exact hrest active held' log worker hcancel h

lemma concludes_failed {result : SupervisorResult} (h:Point r active held log L)
 (hchildren:L.children=[]) (herror:result.error≠.none):
 Concludes r result held log:=
 ⟨active,L,h,hchildren,rightful_of_error herror⟩

lemma leads_cancelled {f : SupervisorResult → Supervision β}
 {post : β → Held → SupervisorLog → Prop} (h:Point r active held log L)
 (hchildren:L.children=[]) (hstopped:held.cancel.stopped=true ∨ L.refused=true)
 (result : SupervisorResult)
 (hrest:∀result,Concludes r result held log → Leads r (f result) held log post):
 Leads r (setCancelledResult result r.job >>= f) held log post:=by
 refine runs_step (setCancelledResult_leads h hstopped result) ?_
 intro result held' log' _ hend
 obtain ⟨rfl,rfl,hresult⟩:=hend
 exact hrest result ⟨active,L,h,hchildren,hresult.rightful h⟩

lemma setupError_ne_none (failure : ChildFailure) : setupError failure≠.none:=by
 unfold setupError
 split<;>exact nofun

/-- What launching the worker leaves: a run that is over, or a child. -/
def Launched (request : SupervisorRequest) (L : Ledger):
  Except SupervisorResult Pid → Held → SupervisorLog → Prop
 | .error result, held, log=>Concludes request result held log
 | .ok pid, held, log=>
  Point request true held log { L with children:=[pid],worker:=some (pid,none) }

lemma launchWorker_leads (d : ℤ) (result : SupervisorResult)
 (h:Point r true held log L) (hchildren:L.children=[]):
 Leads r (launchWorker r d result) held log (Launched r L):=by
 refine leads_quiet h rfl ?_
 intro paired log h
 cases paired with
 | false=>
  refine leads_passes (errnoMessage_passes _) h ?_
  intro detail held log h _
  exact leads_pure h (concludes_failed h hchildren nofun)
 | true=>
  refine leads_quiet h rfl ?_
  intro piped log h
  cases piped with
  | false=>
   refine leads_passes (errnoMessage_passes _) h ?_
   intro detail held log h _
   exact leads_pure h (concludes_failed h hchildren nofun)
  | true=>
   refine leads_passes (poll_passes r.cancelled) h ?_
   intro stopped held log h hstopped
   cases stopped with
   | true=>
    refine leads_cancelled h hchildren (.inl (hstopped rfl)) result ?_
    intro result hresult
    exact leads_pure h hresult
   | false=>
    refine leads_perform h (not_frame rfl) ?_ ?_
    · intro y
      cases y<;>rfl
    intro y log h
    cases y with
    | none=>
     refine leads_passes (errnoMessage_passes _) h ?_
     intro detail held log h _
     exact leads_pure h (concludes_failed h hchildren nofun)
    | some pid=>
     change Point r true held log
      { L with children:=pid::L.children,worker:=some (pid,none) } at h
     rw [hchildren] at h
     have hpid:[pid].erase pid=[]:=List.erase_cons_head pid []
     refine leads_passes (readChildStatus_passes r.cancelled d) h ?_
     intro status held log h _
     refine leads_get h ?_
     by_cases hstopped:held.cancel.stopped=true
     · rw [if_pos hstopped]
       refine leads_terminate h hpid ?_
       intro active held' log worker hcancel h
       rw [←hcancel] at hstopped
       refine leads_cancelled h rfl (.inl hstopped) result ?_
       intro result hresult
       exact leads_pure h hresult
     rw [if_neg hstopped]
     by_cases htimeout:status.timedOut=true
     · rw [if_pos htimeout]
       refine leads_terminate h hpid ?_
       intro active held' log worker _ h
       exact leads_pure h (concludes_failed h rfl nofun)
     rw [if_neg htimeout]
     cases hfailure:status.failure with
     | some failure=>
      refine leads_terminate h hpid ?_
      intro active held' log worker _ h
      refine leads_passes (setupDetail_passes _ failure) h ?_
      intro detail held log h _
      exact leads_pure h (concludes_failed h rfl (setupError_ne_none failure))
     | none=>
      by_cases hdetail:status.detail=[]
      · dsimp only
        rw [if_neg (not_not.mpr hdetail)]
        exact leads_pure h h
      · dsimp only
        rw [if_pos hdetail]
        refine leads_terminate h hpid ?_
        intro active held' log worker _ h
        exact leads_pure h (concludes_failed h rfl nofun)

end Launch

end VoVe.WorkerRunRules
