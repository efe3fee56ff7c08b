import Mathlib.Algebra.Order.BigOperators.Group.List
import VoVe.WorkerRunSafety

set_option autoImplicit false

/-! The process reaper that every run of a worker or of an external renderer shares, and what its
reservations count. -/

namespace VoVe.ProcessReaper
open ByteCodec EffectProgram TracedProgram WorkerSupervisor WorkerRun WorkerRunRules
open WorkerRunSafety
open WorkerProtocol (AnimationFrame encodeHandshake encodeAnimationFrame)

section Renderers
variable {r request : SupervisorRequest} {active : Bool} {held : Held} {log : SupervisorLog}
 {L : Ledger} {α β : Type} {pid : Pid} {reserved : ℕ}

/-- No child is left; the reservation may have gone with one. -/
def Idle (request : SupervisorRequest) (held:Held) (log : SupervisorLog) : Prop:=
 ∃ active reserved,Fresh request active reserved held log

lemma looks_idle {m : Supervision α} (hm:Looks r m) (h:Idle r held log):
 Leads r m held log fun _ held log=>Idle r held log:=by
 obtain ⟨active,reserved,h⟩:=h
 exact runs_mono (hm active reserved held log h)
  fun a held log _ hend=>⟨active,reserved,hend⟩

variable (e : ExternalRendererRequest)

lemma validExternalRequest_looks : Looks r (validExternalRequest e):=by
 unfold validExternalRequest
 refine looks_ite (looks_pure _) (looks_ite (looks_pure _) ?_)
 refine looks_bind (opensWith_looks _ _) fun source=>looks_ite (looks_pure _) ?_
 refine looks_bind (opensWith_looks _ _) fun output=>looks_ite (looks_pure _) ?_
 refine looks_bind (fileStatus_looks _) ?_
 intro found
 split
 · exact looks_pure _
 · refine looks_bind (emptyRegularOutput_looks _) ?_
   intro detail
   cases detail with
   | some detail=>exact looks_pure _
   | none=>
    exact looks_ite (looks_pure _) (looks_ite (looks_pure _)
     (looks_ite (looks_pure _) (looks_ite (looks_pure _) (looks_pure _))))

lemma acceptOutput_looks (result : ExternalRendererResult):
 Looks r (acceptOutput e result):=by
 have hdiscard (result : ExternalRendererResult) : Looks r (do
   perform (.discard e.outputObject)
   return result):=
  looks_bind (looks_quiet rfl) fun _=>looks_pure result
 refine looks_bind (fileStatus_looks _) ?_
 intro found
 dsimp only
 split
 · exact looks_bind (errnoMessage_looks _) fun detail=>hdiscard _
 · exact looks_ite (hdiscard _) (looks_ite (hdiscard _) (looks_pure _))

lemma abandonRenderer_leads {output : ℤ} {result : ExternalRendererResult}
 {checked : Option (ℤ × FileStatus)} {worker : Option (Pid × Option WaitStatus)}
 {children : List Pid} (hpid:children.erase pid=[])
 (h:Point r true held log
  { checked:=checked,worker:=worker,children:=children,reserved:=reserved }):
 Leads r (abandonRenderer pid output result) held log
  fun _ held log=>Idle r held log:=by
 refine leads_terminate h hpid ?_
 intro active held' log worker _ h
 refine leads_quiet h rfl ?_
 intro _ log h
 exact leads_pure h ⟨active,reserved,checked,worker,h⟩

lemma awaitRenderer_leads {e : ExternalRendererRequest} {deadline : ℤ}
 {result : ExternalRendererResult} {checked : Option (ℤ × FileStatus)}
 {worker : Option (Pid × Option WaitStatus)}
 (h:Point r true held log { checked:=checked,worker:=worker,children:=[pid],reserved:=reserved }):
 Leads r (awaitRenderer e pid deadline result) held log
  fun _ held log=>Idle r held log:=by
 have hpid:[pid].erase pid=[]:=List.erase_cons_head pid []
 refine runs_step (waitForProcess_leads false pid deadline h hpid) ?_
 intro exit held log _ hexit
 cases exit with
 | none=>
  obtain ⟨children,hchildren,worker,h⟩:=hexit
  exact abandonRenderer_leads hchildren h
 | some exit=>
  obtain ⟨status,-,h⟩:=hexit
  have hidle:Idle r held log:=⟨true,reserved,checked,_,h⟩
  dsimp only
  split
  · exact looks_idle (acceptOutput_looks e _) hidle
  · refine looks_idle ?_ hidle
    exact looks_bind (looks_quiet rfl) fun _=>looks_ite (looks_pure _) (looks_pure _)

lemma superviseRenderer_leads
 (h:Fresh r true reserved held log):
 Leads r (superviseRenderer e) held log
  fun _ held log=>Idle r held log:=by
 obtain ⟨checked,worker,h⟩:=h
 refine runs_step (chooseSandbox_leads false h rfl) ?_
 intro sandbox held log _ hchosen
 obtain ⟨active,worker,h⟩:=hchosen
 refine leads_get h ?_
 cases active with
 | false=>
  have hdeferred:(!held.active)=true:=by
   rw [h.active_eq]
   rfl
  rw [if_pos hdeferred]
  exact leads_pure h ⟨false,reserved,checked,worker,h⟩
 | true=>
  have hactive:¬(!held.active)=true:=by
   rw [h.active_eq]
   exact Bool.false_ne_true
  rw [if_neg hactive]
  dsimp only
  split
  · exact leads_pure h ⟨true,reserved,checked,worker,h⟩
  refine leads_quiet h rfl ?_
  intro piped log h
  split
  · refine leads_passes (errnoMessage_passes _) h ?_
    intro detail held log h _
    exact leads_pure h ⟨true,reserved,checked,worker,h⟩
  refine leads_perform h (not_frame rfl) ?_ ?_
  · intro reply
    cases reply<;>rfl
  intro reply log h
  cases reply with
  | none=>
   refine leads_passes (errnoMessage_passes _) h ?_
   intro detail held log h _
   exact leads_pure h ⟨true,reserved,checked,worker,h⟩
  | some pid=>
   have hpid:[pid].erase pid=[]:=List.erase_cons_head pid []
   refine leads_passes (readChildStatus_passes false _) h ?_
   intro status held log h _
   split
   · exact abandonRenderer_leads hpid h
   split
   · refine leads_passes (setupDetail_passes _ _) h ?_
     intro detail held log h _
     exact abandonRenderer_leads hpid h
   · split
     · exact abandonRenderer_leads hpid h
     · exact awaitRenderer_leads h

lemma runExternalRendererOnce_leads : Leads r (runExternalRendererOnce e) {} []
  fun _ _ log=>holding log=0 ∧ (ledger log).children=[]:=by
 have hover {result : ExternalRendererResult} {held : Held} {log : SupervisorLog}
   (hsound:Sound r log) (h:Fresh r false 0 held log):
   Leads r (pure result) held log
    fun _ _ log=>holding log=0 ∧ (ledger log).children=[]:=by
  obtain ⟨checked,worker,h⟩:=h
  refine runs_pure hsound ⟨h.holding_eq,?_⟩
  rw [h.ledger_eq]
 refine runs_step (validExternalRequest_looks e false 0 {} [] fresh_nil) ?_
 intro refusal held log hsound h
 cases refusal with
 | some refusal=>exact hover hsound h
 | none=>
  refine runs_step (looks_quiet rfl false 0 held log h) ?_
  intro executable held log hsound h
  split
  · exact hover hsound h
  refine runs_step (looks_quiet rfl false 0 held log h) ?_
  intro rewound held log hsound h
  split
  · refine runs_step (errnoMessage_looks _ false 0 held log h) ?_
    intro detail held log hsound h
    exact hover hsound h
  refine runs_step (tryReserve_leads _ h) ?_
  intro detail held log hsound h
  cases detail with
  | some detail=>exact hover hsound h
  | none=>
   refine runs_step (superviseRenderer_leads e h) ?_
   intro result held log _ hidle
   obtain ⟨active,reserved,checked,worker,h⟩:=hidle
   refine runs_step (endReservation_leads h) ?_
   intro _ held log hsound hend
   obtain ⟨-,hholding,hledger,-⟩:=hend
   refine runs_pure hsound ⟨hholding,?_⟩
   rw [hledger]

end Renderers

section Reaper

def kMaximumOutstandingChildren : ℕ := 16

/-- `BoundedProcessReaper`: the children that await cleanup, and the reservations given out. -/
structure Reaper where
 pending : List Pid := []
 outstanding : ℕ := 0

namespace Reaper

variable (reaper : Reaper)

def tryReserve : Bool × Reaper:=
 if kMaximumOutstandingChildren ≤ reaper.outstanding then (false,reaper)
 else (true,{ reaper with outstanding:=reaper.outstanding+1 })

def deferReserved (pid : Pid) : Reaper:=
 if reaper.pending.length < kMaximumOutstandingChildren then
  { reaper with pending:=reaper.pending++[pid] }
 else { reaper with outstanding:=reaper.outstanding - 1 }

def releaseReserved : Reaper:=
 { reaper with outstanding:=reaper.outstanding - 1 }

/-- The last pending child takes the place of one that has come to something. -/
def remove (index : ℕ) (last : Pid) : Reaper where
 pending:=(reaper.pending.set index last).dropLast
 outstanding:=reaper.outstanding - 1

/-- One pass of `reap_loop`: whether a child has come to something is what `waitpid` says then. -/
def reapTurns (waited : ℕ → Pid → Bool) : ℕ → ℕ → Reaper → Reaper
 | 0, _, reaper=>reaper
 | turns+1, index, reaper=>
  match reaper.pending[index]?, reaper.pending.getLast? with
  | some pid, some last=>
   if waited turns pid then reapTurns waited turns index (reaper.remove index last)
   else reapTurns waited turns (index+1) reaper
  | _, _=>reaper

def reap (waited : ℕ → Pid → Bool) (reaper : Reaper) : Reaper:=
 reapTurns waited reaper.pending.length 0 reaper

/-- What the reaper makes of an operation, where it answers so. -/
def takes : SupervisorEvent → Option Reaper
 | ⟨.reserve,.ok answer⟩=>
  if reaper.tryReserve.1 = answer then some reaper.tryReserve.2 else none
 | ⟨.release,_⟩=>some reaper.releaseReserved
 | ⟨.defer pid,_⟩=>some (reaper.deferReserved pid)
 | _=>some reaper

end Reaper

/-- A run that uses the reaper. -/
inductive Client where
 | worker (request : SupervisorRequest)
 | renderer (request : ExternalRendererRequest)

/-- The log of a run as far as it has come. -/
def Client.Running (log : SupervisorLog) : Client → Prop
 | .worker request=>Leaves anyReply ((runWorkerOnce request).run {}) [] log
 | .renderer request=>Leaves anyReply ((runExternalRendererOnce request).run {}) [] log

def Client.Returned (log : SupervisorLog) : Client → Prop
 | .worker request=>∃ ended,Completes anyReply ((runWorkerOnce request).run {}) [] ended log
 | .renderer request=>
  ∃ ended,Completes anyReply ((runExternalRendererOnce request).run {}) [] ended log

lemma Client.Running.holding {c : Client} {log : SupervisorLog} (h:c.Running log):
 0≤holding log:=by
 cases c with
 | worker r=>exact ((@runWorkerOnce_leads r).leaves h).held.1
 | renderer e=>
  exact ((@runExternalRendererOnce_leads {} e).leaves h).held.1

lemma Client.Returned.holding {c : Client} {log : SupervisorLog}
 (h:c.Returned log) : holding log=0:=by
 cases c with
 | worker r=>
  obtain ⟨ended,h⟩:=h
  exact ((@runWorkerOnce_leads r).completes h).2.holds
 | renderer e=>
  obtain ⟨ended,h⟩:=h
  exact ((@runExternalRendererOnce_leads {} e).completes h).2.1

structure Supervisors where
 reaper : Reaper := {}
 runs : List (Client × SupervisorLog) := []

/-- Runs go on in any order, and the reaper makes its passes between them. -/
inductive Step : Supervisors → Supervisors → Prop
 | starts (S : Supervisors) (client : Client):
  Step S { S with runs:=S.runs++[(client,[])] }
 | goesOn (S : Supervisors) {index : ℕ} {client : Client} {log : SupervisorLog}
   {event : SupervisorEvent} {reaper : Reaper} (run : S.runs[index]? = some (client,log))
   (running : client.Running (log++[event])) (takes : S.reaper.takes event = some reaper):
  Step S { reaper:=reaper,runs:=S.runs.set index (client,log++[event]) }
 | reaps (S : Supervisors) (waited : ℕ → Pid → Bool):
  Step S { S with reaper:=S.reaper.reap waited }

inductive Reachable : Supervisors → Prop
 | start : Reachable {}
 | step {S T : Supervisors} (reachable : Reachable S) (step : Step S T) : Reachable T

def holders (S : Supervisors) : ℤ := (S.runs.map fun run=>holding run.2).sum

/-- Every reservation is held by a run or accounts for a child that awaits cleanup. -/
structure Accounted (S : Supervisors) : Prop where
 balance : (S.reaper.outstanding : ℤ)=holders S+S.reaper.pending.length
 bounded : S.reaper.outstanding≤kMaximumOutstandingChildren
 running : ∀run∈S.runs,0≤holding run.2

lemma remove_length (reaper : Reaper) (i : ℕ) (last : Pid):
 (reaper.remove i last).pending.length=reaper.pending.length - 1:=by
 unfold Reaper.remove
 rw [List.length_dropLast,List.length_set]

lemma reapTurns_balance (w : ℕ → Pid → Bool) (turns i : ℕ) (reaper : Reaper)
 (h:reaper.pending.length ≤ reaper.outstanding):
 (reaper.reapTurns w turns i).pending.length+reaper.outstanding=
   reaper.pending.length+(reaper.reapTurns w turns i).outstanding ∧
  (reaper.reapTurns w turns i).outstanding ≤ reaper.outstanding:=by
 induction turns generalizing i reaper with
 | zero=>exact ⟨rfl,le_refl _⟩
 | succ turns ih=>
  unfold Reaper.reapTurns
  split
  case h_2 => exact ⟨rfl,le_refl _⟩
  case h_1 pid last hpid hlast =>
   split
   · have hindex:i < reaper.pending.length:=(List.getElem?_eq_some_iff.mp hpid).1
     have hlength:=remove_length reaper i last
     have houtstanding:(reaper.remove i last).outstanding=reaper.outstanding - 1:=rfl
     have hrest:=ih i (reaper.remove i last) (by omega)
     omega
   · exact ih (i+1) reaper h

lemma reapTurns_all {w : ℕ → Pid → Bool} (hall:∀turn pid,w turn pid=true)
 (turns : ℕ) (reaper : Reaper) (h:reaper.pending.length≤turns):
 (reaper.reapTurns w turns 0).pending=[]:=by
 induction turns generalizing reaper with
 | zero=>exact List.length_eq_zero_iff.mp (Nat.le_zero.mp h)
 | succ turns ih=>
  unfold Reaper.reapTurns
  split
  case h_1 pid last hpid hlast =>
   rw [if_pos (hall turns pid)]
   refine ih (reaper.remove 0 last) ?_
   have hlength:=remove_length reaper 0 last
   omega
  case h_2 hnone =>
   cases hpending:reaper.pending with
   | nil=>rfl
   | cons first rest=>
    refine absurd ?_ (hnone first ((first::rest).getLast (List.cons_ne_nil first rest)) ?_)
    · rw [hpending]
      exact List.getLast?_eq_getLast_of_ne_nil (List.cons_ne_nil first rest)
    · rw [hpending]
      rfl

lemma takes_balance {reaper next : Reaper} {event : SupervisorEvent} {others : ℤ}
 (htakes:reaper.takes event=some next) (hafter:0≤others+reservations event)
 (hbalance:(reaper.outstanding : ℤ)=others+reaper.pending.length)
 (hbounded:reaper.outstanding≤kMaximumOutstandingChildren):
 (next.outstanding : ℤ)=others+reservations event+next.pending.length ∧
  next.outstanding≤kMaximumOutstandingChildren:=by
 unfold Reaper.takes at htakes
 split at htakes
 case h_1 answer =>
  unfold Reaper.tryReserve at htakes
  by_cases hfull:kMaximumOutstandingChildren ≤ reaper.outstanding
  · rw [if_pos hfull] at htakes
    cases answer with
    | true=>cases htakes
    | false=>
     obtain rfl:=Option.some.inj htakes
     have hnone:reservations ⟨.reserve,.ok false⟩=0:=rfl
     rw [hnone]
     refine ⟨?_,hbounded⟩
     change (reaper.outstanding : ℤ)=others+0+reaper.pending.length
     omega
  · rw [if_neg hfull] at htakes
    cases answer with
    | false=>cases htakes
    | true=>
     obtain rfl:=Option.some.inj htakes
     have hone:reservations ⟨.reserve,.ok true⟩=1:=rfl
     refine ⟨?_,?_⟩
     · change ((reaper.outstanding+1 : ℕ) : ℤ)=_
       rw [hone]
       push_cast
       change (reaper.outstanding : ℤ)+1=others+1+reaper.pending.length
       omega
     · change reaper.outstanding+1≤_
       omega
 case h_2 reply =>
  obtain rfl:=Option.some.inj htakes
  have hone:reservations ⟨.release,reply⟩ = -1:=rfl
  rw [hone] at hafter ⊢
  unfold Reaper.releaseReserved
  dsimp only
  omega
 case h_3 pid reply =>
  obtain rfl:=Option.some.inj htakes
  have hone:reservations ⟨.defer pid,reply⟩ = -1:=rfl
  rw [hone] at hafter ⊢
  unfold Reaper.deferReserved
  have hspace:reaper.pending.length<kMaximumOutstandingChildren:=by omega
  rw [if_pos hspace]
  refine ⟨?_,hbounded⟩
  change (reaper.outstanding : ℤ)=others + -1+((reaper.pending++[pid]).length : ℕ)
  rw [List.length_append]
  push_cast
  change (reaper.outstanding : ℤ)=others + -1+(reaper.pending.length+1)
  omega
 case h_4 hreserve hrelease hdefer =>
  obtain rfl:=Option.some.inj htakes
  have hnone:reservations event=0:=by
   unfold reservations
   split
   · exact (hreserve true rfl).elim
   · exact (hrelease _ rfl).elim
   · exact (hdefer _ _ rfl).elim
   · rfl
  rw [hnone]
  omega

lemma holders_set {S : Supervisors} {i : ℕ} {c : Client} {log next : SupervisorLog}
 {reaper : Reaper} (hrun:S.runs[i]?=some (c,log)):
 holders { reaper:=reaper,runs:=S.runs.set i (c,next) }=
  holders S - holding log+holding next:=by
 obtain ⟨hindex,hrun⟩:=List.getElem?_eq_some_iff.mp hrun
 unfold holders
 rw [List.map_set,List.sum_set']
 have hmapped:i<(S.runs.map fun run=>holding run.2).length:=by
  rw [List.length_map]
  exact hindex
 rw [dif_pos hmapped,List.getElem_map,hrun]
 ring

lemma holding_le_holders {S : Supervisors} {run : Client × SupervisorLog}
 (hrunning:∀run∈S.runs,0≤holding run.2) (hrun:run∈S.runs):
 holding run.2≤holders S:=by
 have hmem:holding run.2∈S.runs.map fun run=>holding run.2:=List.mem_map.mpr ⟨run,hrun,rfl⟩
 refine List.single_le_sum ?_ _ hmem
 intro count hcount
 obtain ⟨other,hother,rfl⟩:=List.mem_map.mp hcount
 exact hrunning other hother

lemma accounted_step {S T : Supervisors} (hstep:Step S T) (h:Accounted S) : Accounted T:=by
 cases hstep with
 | starts c=>
  constructor
  · have hsame:holders { S with runs:=S.runs++[(c,[])] }=holders S:=by
     unfold holders
     rw [List.map_append,List.sum_append]
     exact Int.add_zero _
    rw [hsame]
    exact h.balance
  · exact h.bounded
  · intro run hrun
    obtain hrun | hrun:=List.mem_append.mp hrun
    · exact h.running run hrun
    · rw [List.mem_singleton.mp hrun]
      exact le_refl _
 | @goesOn i c log event reaper hrun hrunning htakes=>
  have hafter:=hrunning.holding
  rw [holding_append] at hafter
  have hsum:holding log≤holders S:=holding_le_holders h.running (List.mem_of_getElem? hrun)
  have hleft:0≤holders S+reservations event:=by omega
  obtain ⟨hbalance,hbounded⟩:=takes_balance htakes hleft h.balance h.bounded
  constructor
  · rw [holders_set hrun,holding_append]
    change (reaper.outstanding : ℤ)=_+(reaper.pending.length : ℤ)
    omega
  · exact hbounded
  · intro run hmem
    obtain hmem | rfl:=List.mem_or_eq_of_mem_set hmem
    · exact h.running run hmem
    · exact hrunning.holding
 | reaps w=>
  have hnonneg:0≤holders S:=by
   refine List.sum_nonneg ?_
   intro count hcount
   obtain ⟨run,hrun,rfl⟩:=List.mem_map.mp hcount
   exact h.running run hrun
  have hbalance:=h.balance
  have hpending:S.reaper.pending.length≤S.reaper.outstanding:=by omega
  obtain ⟨hpass,hless⟩:=reapTurns_balance w S.reaper.pending.length 0 S.reaper hpending
  constructor
  · change ((S.reaper.reap w).outstanding : ℤ)=holders S+(S.reaper.reap w).pending.length
    unfold Reaper.reap
    omega
  · exact le_trans hless h.bounded
  · exact h.running

lemma reachable_accounted {S : Supervisors} (h:Reachable S) : Accounted S:=by
 induction h with
 | start=>exact ⟨rfl,Nat.zero_le _,fun _ hrun=>absurd hrun List.not_mem_nil⟩
 | step _ hstep ih=>exact accounted_step hstep ih

lemma reaps_all {S : Supervisors} (h:Reachable S)
 (hreturned:∀run∈S.runs,run.1.Returned run.2) {w : ℕ → Pid → Bool}
 (hall:∀turn pid,w turn pid=true) : (S.reaper.reap w).outstanding=0:=by
 have hnone:holders S=0:=by
  refine List.sum_eq_zero ?_
  intro count hcount
  obtain ⟨run,hrun,rfl⟩:=List.mem_map.mp hcount
  exact (hreturned run hrun).holding
 have hafter:=reachable_accounted (.step h (.reaps S w))
 have hempty:=reapTurns_all hall S.reaper.pending.length S.reaper (le_refl _)
 have hbalance:=hafter.balance
 change ((S.reaper.reap w).outstanding : ℤ)=
  holders S+(S.reaper.reap w).pending.length at hbalance
 unfold Reaper.reap at hbalance ⊢
 rw [hnone,hempty] at hbalance
 exact Int.ofNat_eq_zero.mp hbalance

end Reaper

section Supervision

def gifRequest : SupervisorRequest where
 workerExecutable:=[47]
 sourceObject:=8
 outputObject:=9
 job:={ jobId:=1,generation:=1,sourceFormatHint:=.gifAnimation }
 expectedBuildId:=[49]
 requireMinimumSandbox:=false
 animationFrameHandler:=true

def gifFrame : AnimationFrame where
 image:=
  { jobId:=1,status:=.success,width:=1,height:=1,pageCount:=1,bytesWritten:=4 }
 delayMs:=10
 sequence:=0
 animated:=true

def gifStream : Bytes:=
 (encodeHandshake ⟨[49],offeredCapabilities⟩ .handshakeAcknowledgement).toOption.getD [] ++
  (encodeAnimationFrame gifFrame).toOption.getD []

/-- A worker that acknowledges and gives one frame, and a callback that refuses it. -/
def refusing (log : SupervisorLog) : (op : SupervisorOp) → SupervisorReply op
 | .cancelled | .showFrame _=>some false
 | .isOpen _ | .makeSocketPair | .makePipe | .shutdown | .rewind _ _=>true
 | .accessMode descriptor=>some (if descriptor = 8 then .readOnly else .writeOnly)
 | .fileStatus _=>some ⟨true,if (ledger log).received = [] then 0 else 4⟩
 | .executablePath _=>if log.any fun event=>event.1 == .reserve then none else some [47]
 | .errno=>(0,[])
 | .strerror _=>[]
 | .reserve=>.ok true
 | .release | .defer _ | .kill _ | .discard _=>()
 | .fork _=>some 7
 | .waitpid _=>.reaped (.signaled 9)
 | .turns _=>(9 : ℕ)
 | .readStatus _=>.moved []
 | .receive _=>.moved (gifStream.drop (ledger log).received.length)
 | .send bytes=>.moved bytes.length
 | .sendObjects _=>some 1

def answering (answer : SupervisorLog → (op : SupervisorOp) → SupervisorReply op)
  (op : SupervisorOp) (log : SupervisorLog) : SupervisorReply op × SupervisorLog:=
 (answer log op,log++[⟨op,answer log op⟩])

def refusedRun : (Returned × Held) × SupervisorLog:=
 ((runWorkerOnce gifRequest).run {}).run (answering refusing) []

lemma refusedRun_ends : (match refusedRun.1.1 with
 | .ok result=>decide (result.error=.none) &&
   decide ((ledger refusedRun.2).worker=some (7,some (.signaled 9)))
 | .error _=>false)=true:=by
 decide +kernel

end Supervision

end VoVe.ProcessReaper
