import VoVe.ThumbnailSchedulerSafety

set_option autoImplicit false

namespace VoVe.ThumbnailQueue
variable {call : Call} {rest calls : List Call}

namespace ThumbnailScheduler
variable {s scheduler : ThumbnailScheduler}

def dispatchedBy : Reply → ℕ
 | .taken (some _)=>1
 | _=>0

/-- How many requests the calls return. -/
def dispatches : ThumbnailScheduler → List Call → ℕ
 | _, []=>0
 | scheduler, call::rest=>
  dispatchedBy (scheduler.step call).1+dispatches (scheduler.step call).2 rest

/-- How many requests the calls return before the call with which this one leaves. -/
def passes (request : ThumbnailRequest) : ThumbnailScheduler → List Call → ℕ
 | _, []=>0
 | scheduler, call::rest=>
  if request ∈ scheduler.leaving call then 0
  else dispatchedBy (scheduler.step call).1+passes request (scheduler.step call).2 rest

def elders (limit : ℕ) (pending : List PendingRequest) : List PendingRequest:=
 pending.filter (·.dispatchCountAtSubmit.toNat ≤ limit)

section Steps
variable {call : Call} {reply : Reply} {after : ThumbnailScheduler}

lemma moves_dispatchCount (h:Moves s call reply after):
 after.dispatchCount=s.dispatchCount+UInt64.ofNat (dispatchedBy reply):=by
 cases h with
 | taken=>rfl
 | cancelled generation=>
  exact (s.rememberCancelled_pending generation).2.2.2.trans
   (UInt64.add_zero _).symm
 | _=>exact (UInt64.add_zero _).symm

lemma moves_pending (hconsistent:Consistent s)
 (h:Moves s call reply after) {waiting : PendingRequest}
 (hwaiting:waiting∈after.pending):
 waiting∈s.pending ∨ (waiting.dispatchCountAtSubmit=s.dispatchCount ∧
   waiting.request.jobId∉s.jobIds):=by
 cases h with
 | refused=>exact .inl hwaiting
 | idle=>exact .inl hwaiting
 | released=>exact .inl hwaiting
 | queued r hlive hfresh=>
  cases List.mem_append.mp hwaiting with
  | inl hold=>exact .inl hold
  | inr hnew=>
   rw [List.mem_singleton.mp hnew]
   exact .inr ⟨rfl,(not_congr (hconsistent.ids _)).mp hfresh⟩
 | evicted r front back worst hlive hfresh hpending=>
  cases List.mem_append.mp hwaiting with
  | inl hold=>
   rw [hpending]
   exact .inl ((List.sublist_cons_self worst back |>.append_left front).subset hold)
  | inr hnew=>
   rw [List.mem_singleton.mp hnew]
   exact .inr ⟨rfl,(not_congr (hconsistent.ids _)).mp hfresh⟩
 | taken front back taken hpending=>
  rw [hpending]
  exact .inl ((List.sublist_cons_self taken back |>.append_left front).subset hwaiting)
 | cancelled generation=>
  rw [cancelGeneration_pending] at hwaiting
  exact .inl (List.mem_filter.mp hwaiting).1

lemma moves_stays (hconsistent:Consistent s) (h:Moves s call reply after)
 {waiting : PendingRequest} (hwaiting:waiting∈s.pending)
 (hstays:waiting.request∉left s after) : waiting∈after.pending:=by
 have hrequest:waiting.request∈after.requests:=by
  by_contra hgone
  exact hstays (List.mem_filter.mpr ⟨List.mem_map_of_mem hwaiting,decide_eq_true hgone⟩)
 obtain ⟨other,hother,hsame⟩:=List.mem_map.mp hrequest
 have hid:other.request.jobId=waiting.request.jobId:=congrArg (·.jobId) hsame
 cases moves_pending hconsistent h hother with
 | inl hold=>
  rw [←List.inj_on_of_nodup_map hconsistent.distinct hold hwaiting hid]
  exact hother
 | inr hnew=>
  have hmem:waiting.request.jobId∈s.jobIds:=List.mem_map_of_mem hwaiting
  exact absurd (hid ▸ hmem) hnew.2

lemma elders_append (limit : ℕ) (first second : List PendingRequest):
 elders limit (first++second)=elders limit first++elders limit second:=
 List.filter_append ..

lemma elders_gone (limit : ℕ) (front back : List PendingRequest) (gone : PendingRequest):
 (elders limit (front++gone::back)).length=
  (elders limit (front++back)).length+(elders limit [gone]).length:=by
 rw [←List.singleton_append,elders_append,elders_append,elders_append]
 simp only [List.length_append]
 omega

/-- Each dispatch past a starved request takes one that was submitted no later, and no call adds
such a one. -/
lemma moves_elders (h:Moves s call reply after) {waiting : PendingRequest}
 (hwaiting:waiting∈s.pending) (hstarved:s.starved waiting=true)
 (hpassed:waiting.dispatchCountAtSubmit.toNat<s.dispatchCount.toNat):
 (elders waiting.dispatchCountAtSubmit.toNat after.pending).length+dispatchedBy reply ≤
  (elders waiting.dispatchCountAtSubmit.toNat s.pending).length:=by
 have hnew:∀r sequence,elders waiting.dispatchCountAtSubmit.toNat
   [⟨r,sequence,s.dispatchCount⟩]=[]:=by
  intro r sequence
  simp only [elders,List.filter_cons,List.filter_nil]
  rw [if_neg (by simpa using hpassed)]
 cases h with
 | refused=>exact le_refl _
 | idle=>exact le_refl _
 | released=>exact le_refl _
 | queued r=>
  simp only [pushBack]
  rw [elders_append,hnew,List.append_nil]
  exact le_refl _
 | evicted r front back worst hlive hfresh hpending=>
  rw [hpending,elders_gone]
  simp only [pushBack,without]
  rw [elders_append,hnew,List.append_nil]
  exact Nat.le_add_right _ _
 | taken front back taken hpending holdest=>
  have hage:=holdest waiting hwaiting hstarved
  have hle:taken.dispatchCountAtSubmit.toNat≤waiting.dispatchCountAtSubmit.toNat:=by
   simp only [ageKey,Prod.Lex.le_iff,ofLex_toLex] at hage
   omega
  have hone:(elders waiting.dispatchCountAtSubmit.toNat [taken]).length=1:=by
   simp [elders,hle]
  rw [hpending,elders_gone,hone]
  exact le_refl _
 | cancelled generation=>
  rw [cancelGeneration_pending]
  exact (List.filter_sublist.filter _).length_le

end Steps

/-- The counter has not wrapped around, and nothing waits from a later dispatch. -/
structure Timely (scheduler : ThumbnailScheduler) (calls : List Call) : Prop where
 consistent : Consistent scheduler
 counts : scheduler.dispatchCount.toNat+dispatches scheduler calls<2 ^ 64
 past : ∀waiting∈scheduler.pending,
  waiting.dispatchCountAtSubmit.toNat ≤ scheduler.dispatchCount.toNat

lemma timely_count (h:Timely s (call::rest)) : (s.step call).2.dispatchCount.toNat=
  s.dispatchCount.toNat+dispatchedBy (s.step call).1:=by
 have hcounts:=h.counts
 rw [moves_dispatchCount (step_moves h.consistent call),UInt64.toNat_add,UInt64.toNat_ofNat']
 simp only [dispatches] at hcounts
 omega

lemma timely_step (h:Timely s (call::rest)) : Timely (s.step call).2 rest where
 consistent:=consistent_step h.consistent call
 counts:=by
  have hcounts:=h.counts
  rw [timely_count h]
  simp only [dispatches] at hcounts
  omega
 past:=by
  intro waiting hwaiting
  rw [timely_count h]
  cases moves_pending h.consistent (step_moves h.consistent call) hwaiting with
  | inl hold=>exact (h.past waiting hold).trans (Nat.le_add_right _ _)
  | inr hnew=>
   rw [hnew.1]
   exact Nat.le_add_right _ _

lemma starved_iff (h:Timely s calls) {waiting : PendingRequest}
 (hwaiting:waiting∈s.pending):
 s.starved waiting=true ↔
  waiting.dispatchCountAtSubmit.toNat+(bypassLimit waiting.request.priority).toNat ≤
   s.dispatchCount.toNat:=by
 have hpast:=h.past waiting hwaiting
 simp only [starved,decide_eq_true_eq,UInt64.lt_iff_toNat_lt,
  UInt64.toNat_sub_of_le _ _ (UInt64.le_iff_toNat_le.mpr hpast)]
 omega

lemma bypassLimit_pos (priority : ThumbnailPriority) : 0<(bypassLimit priority).toNat:=by
 cases priority<;>decide

lemma passes_starved (h:Timely s calls) {waiting : PendingRequest}
 (hwaiting:waiting∈s.pending) (hstarved:s.starved waiting=true):
 passes waiting.request s calls+1 ≤
  (elders waiting.dispatchCountAtSubmit.toNat s.pending).length:=by
 have hself:0<(elders waiting.dispatchCountAtSubmit.toNat s.pending).length:=
  List.length_pos_of_mem (List.mem_filter.mpr ⟨hwaiting,decide_eq_true (le_refl _)⟩)
 induction calls generalizing s with
 | nil=>exact hself
 | cons call rest ih=>
  rw [passes]
  by_cases hleaving:waiting.request∈s.leaving call
  · rw [if_pos hleaving]
    exact hself
  rw [if_neg hleaving]
  have hmoves:=step_moves h.consistent call
  have hstays:=moves_stays h.consistent hmoves hwaiting hleaving
  have hlimit:=(starved_iff h hwaiting).mp hstarved
  have hpos:=bypassLimit_pos waiting.request.priority
  have hstarvedAfter:(s.step call).2.starved waiting=true:=by
   rw [starved_iff (timely_step h) hstays,timely_count h]
   omega
  have helders:=moves_elders hmoves hwaiting hstarved (by omega)
  have hrest:=ih (timely_step h) hstays hstarvedAfter
   (List.length_pos_of_mem (List.mem_filter.mpr ⟨hstays,decide_eq_true (le_refl _)⟩))
  omega

lemma passes_waiting (h:Timely s calls) {waiting : PendingRequest}
 (hwaiting:waiting∈s.pending):
 passes waiting.request s calls+1 ≤
  (waiting.dispatchCountAtSubmit.toNat+(bypassLimit waiting.request.priority).toNat
   - s.dispatchCount.toNat)+s.capacity:=by
 induction calls generalizing s with
 | nil=>
  have hpos:=List.length_pos_of_mem hwaiting
  have hbounded:=h.consistent.bounded
  rw [passes]
  omega
 | cons call rest ih=>
  by_cases hstarved:s.starved waiting=true
  · have hpasses:=passes_starved h hwaiting hstarved
    have helders:(elders waiting.dispatchCountAtSubmit.toNat s.pending).length ≤
      s.pending.length := List.length_filter_le _ _
    have hbounded:=h.consistent.bounded
    omega
  · have hlimit:=(not_congr (starved_iff h hwaiting)).mp hstarved
    have hpos:=List.length_pos_of_mem hwaiting
    have hbounded:=h.consistent.bounded
    rw [passes]
    by_cases hleaving:waiting.request∈s.leaving call
    · rw [if_pos hleaving]
      omega
    · rw [if_neg hleaving]
      have hmoves:=step_moves h.consistent call
      have hrest:=ih (timely_step h) (moves_stays h.consistent hmoves hwaiting hleaving)
      rw [timely_count h,capacity_moves hmoves] at hrest
      have hone:dispatchedBy (s.step call).1≤1:=by
       unfold dispatchedBy
       split
       · exact le_refl _
       · exact Nat.zero_le _
      omega

lemma timely_after {later : List Call} (h:Timely s (calls++later)):
 Timely (s.after calls) later:=by
 induction calls generalizing s with
 | nil=>exact h
 | cons call rest ih=>exact ih (timely_step h)

lemma accepted_pending (hconsistent:Consistent s) {r : ThumbnailRequest}
 (haccepted:(s.submit r).1.accepted=true):
 ⟨r,s.nextSequence,s.dispatchCount⟩∈(s.submit r).2.pending:=by
 have hmoves:=submit_moves hconsistent r
 generalize s.submit r=submitted at haccepted hmoves
 obtain ⟨result,after⟩:=submitted
 cases hmoves with
 | refused _ _ hresult=>
  rw [hresult.1] at haccepted
  cases haccepted
 | queued=>exact List.mem_append_right _ (List.mem_singleton_self _)
 | evicted=>exact List.mem_append_right _ (List.mem_singleton_self _)

/-- No request starves: of those that wait with it or come after it, at most its limit and all but
one of the capacity are dispatched first. -/
theorem no_request_starves (capacity : ℕ) (earlier later : List Call) (request : ThumbnailRequest)
 (haccepted:(((new capacity).after earlier).submit request).1.accepted=true)
 (hcounts:dispatches (new capacity) (earlier++.submit request::later)<2 ^ 64):
 passes request (((new capacity).after earlier).submit request).2 later ≤
  (bypassLimit request.priority).toNat+capacity - 1:=by
 have hnew:Timely (new capacity) (earlier++.submit request::later):=
  ⟨consistent_new capacity,by simpa [new] using hcounts,fun _ hwaiting=>by cases hwaiting⟩
 have hbefore:=timely_after hnew
 have hafter:=timely_step hbefore
 have hcount:=timely_count hbefore
 have hcapacity:=(capacity_moves (step_moves hbefore.consistent (.submit request))).trans
  (capacity_after (consistent_new capacity) earlier)
 have hpasses:=passes_waiting hafter (accepted_pending hbefore.consistent haccepted)
 rw [hcount,hcapacity] at hpasses
 change passes request (((new capacity).after earlier).step (.submit request)).2 later≤_
 simp only [show (new capacity).capacity=capacity from rfl] at hpasses
 omega

theorem no_request_starves_behind_one:
 passes ⟨1,1,1,512,.rest⟩ (((new 2).after []).submit ⟨1,1,1,512,.rest⟩).2
   [.submit ⟨2,1,1,512,.visible⟩,.takeNext,.takeNext] ≤
  (bypassLimit .rest).toNat+2 - 1:=
 no_request_starves 2 [] [.submit ⟨2,1,1,512,.visible⟩,.takeNext,.takeNext]
  ⟨1,1,1,512,.rest⟩ (by decide) (by decide)

end ThumbnailScheduler
end VoVe.ThumbnailQueue
