import Mathlib.Data.List.Nodup
import VoVe.ThumbnailScheduler

set_option autoImplicit false

namespace VoVe.ThumbnailQueue
open BestScan

variable {after : ThumbnailScheduler} {front back : List PendingRequest} {gone : PendingRequest}

namespace ThumbnailScheduler
variable {scheduler : ThumbnailScheduler}

structure Consistent (scheduler : ThumbnailScheduler) : Prop where
 bounded : scheduler.pending.length ≤ scheduler.capacity
 ids : ∀id,id∈scheduler.pendingJobIds ↔ id∈scheduler.jobIds
 distinct : scheduler.jobIds.Nodup
 remembered : ∀generation,generation∈scheduler.cancelledGenerations ↔
   generation∈scheduler.cancelledGenerationOrder
 rememberedDistinct : scheduler.cancelledGenerationOrder.Nodup
 rememberedBounded:
  scheduler.cancelledGenerationOrder.length≤kMaximumRememberedCancelledGenerations
 live : ∀waiting∈scheduler.pending, waiting.request.generation∉scheduler.cancelledGenerations

/-- The queue with one request gone and these left. -/
def without (scheduler : ThumbnailScheduler) (erased : PendingRequest)
  (left : List PendingRequest) : ThumbnailScheduler:=
 { scheduler with
   pendingJobIds:=scheduler.pendingJobIds.erase erased.request.jobId
   pending:=left }

def dispatched (scheduler : ThumbnailScheduler) (taken : PendingRequest)
  (left : List PendingRequest) : ThumbnailScheduler:=
 { scheduler.without taken left with dispatchCount:=scheduler.dispatchCount+1 }

def ageKey (waiting : PendingRequest) : ℕ ×ₗ ℕ:=
 toLex (waiting.dispatchCountAtSubmit.toNat,waiting.sequence.toNat)

lemma older_iff (candidate current : PendingRequest):
 older candidate current=true ↔ ageKey candidate<ageKey current:=by
 simp [older,ageKey,Prod.Lex.lt_iff,UInt64.lt_iff_toNat_lt,UInt64.toNat_inj]

def Oldest (scheduler : ThumbnailScheduler) (taken : PendingRequest) : Prop:=
 ∀other ∈ scheduler.pending,scheduler.starved other = true → ageKey taken ≤ ageKey other

inductive Moves (scheduler : ThumbnailScheduler) : Call → Reply → ThumbnailScheduler → Prop
 | refused (request : ThumbnailRequest) (result : SubmitResult)
   (hresult:result.accepted=false ∧ result.evictedJob=none):
   Moves scheduler (.submit request) (.submitted result) scheduler
 | queued (request : ThumbnailRequest)
   (hlive:request.generation∉scheduler.cancelledGenerations)
   (hfresh:request.jobId∉scheduler.pendingJobIds)
   (hroom:scheduler.pending.length<scheduler.capacity):
   Moves scheduler (.submit request) (.submitted ⟨.queued,none⟩) (scheduler.pushBack request)
 | evicted (request : ThumbnailRequest) (front back : List PendingRequest)
   (worst : PendingRequest)
   (hlive:request.generation∉scheduler.cancelledGenerations)
   (hfresh:request.jobId∉scheduler.pendingJobIds)
   (hpending:scheduler.pending=front++worst::back):
   Moves scheduler (.submit request)
    (.submitted ⟨.queuedAfterEviction,some worst.request.jobId⟩)
    ((scheduler.without worst (front++back)).pushBack request)
 | idle (hpending:scheduler.pending=[]) : Moves scheduler .takeNext (.taken none) scheduler
 | taken (front back : List PendingRequest) (taken : PendingRequest)
   (hpending:scheduler.pending=front++taken::back)
   (holdest:scheduler.Oldest taken):
   Moves scheduler .takeNext (.taken (some taken.request))
    (scheduler.dispatched taken (front++back))
 | cancelled (generation : RequestGeneration):
   Moves scheduler (.cancelGeneration generation)
    (.cancelled (scheduler.cancelGeneration generation).1)
    (scheduler.cancelGeneration generation).2
 | released (generation : RequestGeneration):
   Moves scheduler (.releaseGeneration generation) .released
    (scheduler.releaseGeneration generation)

lemma bestIndex_found (better : PendingRequest → PendingRequest → Bool)
 {pending : List PendingRequest} (h:pending≠[]):
 ∃ chosen,pending[bestIndex better pending]?=some chosen:=by
 cases pending with
 | nil=>exact absurd rfl h
 | cons first rest=>
  have hsome:(scan (fun _=>true) better rest 1 (some (0,first))).isSome:=
   scan_isSome rest 1 _ (.inl rfl)
  obtain ⟨⟨index,chosen⟩,hscan⟩:=Option.isSome_iff_exists.mp hsome
  rw [bestIndex,hscan]
  cases scan_found rest 1 _ hscan with
  | inl hfirst=>
   cases hfirst
   exact ⟨first,rfl⟩
  | inr hrest=>
   obtain ⟨k,hindex,hk,_⟩:=hrest
   subst hindex
   exact ⟨chosen,by simpa [Nat.add_comm 1 k] using hk⟩

lemma nextIndex_found (h:scheduler.pending≠[]):
 ∃ taken,scheduler.pending[scheduler.nextIndex]?=some taken ∧ scheduler.Oldest taken:=by
 rw [nextIndex]
 cases hscan:scan scheduler.starved older scheduler.pending 0 none with
 | none=>
  obtain ⟨taken,htaken⟩:=bestIndex_found ahead h
  refine ⟨taken,htaken,?_⟩
  intro other hother hstarved
  have hsome:(scan scheduler.starved older scheduler.pending 0 none).isSome:=
   scan_isSome scheduler.pending 0 none (.inr ⟨other,hother,hstarved⟩)
  rw [hscan] at hsome
  cases hsome
 | some found=>
  have hleast:=(scan_least older_iff scheduler.pending 0 none hscan).2
  cases scan_found scheduler.pending 0 none hscan with
  | inl hnone=>cases hnone
  | inr hfound=>
   obtain ⟨k,hindex,hk,_⟩:=hfound
   refine ⟨found.2,?_,hleast⟩
   change scheduler.pending[found.1]?=some found.2
   rw [hindex,Nat.zero_add]
   exact hk

lemma eraseAt_found {index : ℕ} {e : PendingRequest}
 (h:scheduler.pending[index]?=some e):
 ∃ front back,scheduler.pending=front++e::back ∧
  scheduler.eraseAt index=(some e,scheduler.without e (front++back)):=by
 obtain ⟨front,back,hpending,herased⟩:=eraseIdx_split scheduler.pending h
 refine ⟨front,back,hpending,?_⟩
 rw [eraseAt,h]
 exact congrArg (fun left=>(some e,scheduler.without e left)) herased

lemma submit_moves (hconsistent:Consistent scheduler) (r : ThumbnailRequest):
 Moves scheduler (.submit r) (.submitted (scheduler.submit r).1)
  (scheduler.submit r).2:=by
 unfold submit
 by_cases hvalid:(!validRequest r)=true
 · rw [if_pos hvalid]
   exact .refused r _ ⟨rfl,rfl⟩
 rw [if_neg hvalid]
 by_cases hlive:r.generation∈scheduler.cancelledGenerations
 · rw [if_pos hlive]
   exact .refused r _ ⟨rfl,rfl⟩
 rw [if_neg hlive]
 by_cases hfresh:r.jobId∈scheduler.pendingJobIds
 · rw [if_pos hfresh]
   exact .refused r _ ⟨rfl,rfl⟩
 rw [if_neg hfresh]
 by_cases hzero:scheduler.capacity=0
 · rw [if_pos hzero]
   exact .refused r _ ⟨rfl,rfl⟩
 rw [if_neg hzero]
 by_cases hfull:scheduler.pending.length=scheduler.capacity
 · rw [if_pos hfull]
   have hpending:scheduler.pending≠[]:=by
    intro hempty
    rw [hempty] at hfull
    exact hzero hfull.symm
   obtain ⟨worst,hworst⟩:=bestIndex_found behind hpending
   obtain ⟨front,back,hsplit,herase⟩:=eraseAt_found hworst
   rw [worstIndex,herase]
   by_cases hrank:priorityRank r.priority≥priorityRank worst.request.priority
   · simp only [if_pos hrank]
     exact .refused r _ ⟨rfl,rfl⟩
   · simp only [if_neg hrank]
     exact .evicted r front back worst hlive hfresh hsplit
 · rw [if_neg hfull]
   exact .queued r hlive hfresh (lt_of_le_of_ne hconsistent.bounded hfull)

lemma takeNext_moves (scheduler : ThumbnailScheduler):
 Moves scheduler .takeNext (.taken scheduler.takeNext.1) scheduler.takeNext.2:=by
 unfold takeNext
 by_cases hpending:scheduler.pending=[]
 · rw [if_pos hpending]
   exact .idle hpending
 · rw [if_neg hpending]
   obtain ⟨taken,htaken,holdest⟩:=nextIndex_found hpending
   obtain ⟨front,back,hsplit,herase⟩:=eraseAt_found htaken
   rw [herase]
   exact .taken front back taken hsplit holdest

lemma step_moves (hconsistent:Consistent scheduler) (call : Call):
 Moves scheduler call (scheduler.step call).1 (scheduler.step call).2:=by
 cases call with
 | submit r=>exact submit_moves hconsistent r
 | takeNext=>exact takeNext_moves scheduler
 | cancelGeneration generation=>exact .cancelled generation
 | releaseGeneration generation=>exact .released generation

lemma consistent_new (capacity : ℕ) : Consistent (new capacity) where
 bounded:=Nat.zero_le _
 ids:=by simp [new,jobIds]
 distinct:=List.nodup_nil
 remembered:=by simp [new]
 rememberedDistinct:=List.nodup_nil
 rememberedBounded:=Nat.zero_le _
 live:=fun _ hwaiting=>by cases hwaiting

lemma consistent_without (hconsistent:Consistent scheduler) {e : PendingRequest}
 {front back : List PendingRequest} (hpending:scheduler.pending=front++e::back):
 Consistent (scheduler.without e (front++back)) := { hconsistent with
  bounded:=by
   have hbounded:=hconsistent.bounded
   rw [hpending] at hbounded
   simp only [without,List.length_append,List.length_cons] at hbounded ⊢
   omega
  ids:=by
   intro id
   have hids:=hconsistent.ids id
   have hdistinct:=hconsistent.distinct
   simp only [jobIds,hpending,List.map_append,List.map_cons,List.mem_append, List.mem_cons] at hids
   simp only [jobIds,hpending,List.map_append,List.map_cons,List.nodup_middle,
    List.nodup_cons,List.mem_append] at hdistinct
   simp only [without,jobIds,Finset.mem_erase,List.map_append,List.mem_append,hids]
   by_cases hsame:id=e.request.jobId
   · subst hsame
     simp only [ne_eq,not_true_eq_false,false_and,false_iff]
     exact hdistinct.1
   · simp [hsame]
  distinct:=by
   have hdistinct:=hconsistent.distinct
   simp only [jobIds,hpending,List.map_append,List.map_cons,List.nodup_middle,
    List.nodup_cons] at hdistinct
   simpa only [without,jobIds,List.map_append] using hdistinct.2
  live:=by
   intro waiting hwaiting
   apply hconsistent.live
   rw [hpending]
   exact (List.sublist_cons_self e back |>.append_left front).subset hwaiting }

lemma nodup_pushed {α : Type} {items : List α} {item : α} (hdistinct:items.Nodup)
 (hfresh:item∉items) : (items++[item]).Nodup:=by
 rw [←List.concat_eq_append]
 exact List.Nodup.concat hfresh hdistinct

lemma consistent_pushBack (hconsistent:Consistent scheduler) {r : ThumbnailRequest}
 (hlive:r.generation∉scheduler.cancelledGenerations)
 (hfresh:r.jobId∉scheduler.pendingJobIds)
 (hroom:scheduler.pending.length<scheduler.capacity):
 Consistent (scheduler.pushBack r) := { hconsistent with
  bounded:=by
   simp only [pushBack,List.length_append,List.length_singleton]
   omega
  ids:=by
   intro id
   have hids:=hconsistent.ids id
   simp only [pushBack,jobIds,Finset.mem_insert,List.map_append,List.mem_append,hids]
   simp [or_comm]
  distinct:=by
   have hnot:=(not_congr (hconsistent.ids _)).mp hfresh
   simp only [pushBack,jobIds,List.map_append,List.map_cons,List.map_nil]
   exact nodup_pushed hconsistent.distinct hnot
  live:=by
   intro waiting hwaiting
   cases List.mem_append.mp hwaiting with
   | inl hold=>exact hconsistent.live waiting hold
   | inr hnew=>
    rw [List.mem_singleton.mp hnew]
    exact hlive }

lemma consistent_remember (hconsistent:Consistent scheduler)
 (generation : RequestGeneration):
 let after:=scheduler.rememberCancelled generation
 (∀other,other∈after.cancelledGenerations ↔ other∈after.cancelledGenerationOrder) ∧
  after.cancelledGenerationOrder.Nodup ∧
  after.cancelledGenerationOrder.length≤kMaximumRememberedCancelledGenerations ∧
  ∀other∈after.cancelledGenerations,
   other=generation ∨ other∈scheduler.cancelledGenerations:=by
 unfold rememberCancelled
 by_cases hknown:generation∈scheduler.cancelledGenerations
 · rw [if_pos hknown]
   exact ⟨hconsistent.remembered,hconsistent.rememberedDistinct,
    hconsistent.rememberedBounded,fun other hother=>.inr hother⟩
 rw [if_neg hknown]
 have hremembered:=hconsistent.remembered
 have hdistinct:=nodup_pushed hconsistent.rememberedDistinct
  ((not_congr (hremembered generation)).mp hknown)
 have hbounded:=hconsistent.rememberedBounded
 have hmem:∀other,other∈insert generation scheduler.cancelledGenerations ↔
   other∈scheduler.cancelledGenerationOrder++[generation]:=by
  intro other
  simp only [Finset.mem_insert,List.mem_append,List.mem_singleton,hremembered,or_comm]
 have hlength:(scheduler.cancelledGenerationOrder++[generation]).length=
   scheduler.cancelledGenerationOrder.length+1 := List.length_append
 revert hdistinct hmem hlength
 generalize scheduler.cancelledGenerationOrder++[generation]=order
 intro hdistinct hmem hlength
 cases order with
 | nil=>cases hlength
 | cons expired rest=>
  rw [List.length_cons] at hlength
  rw [List.nodup_cons] at hdistinct
  by_cases hlong:(expired::rest).length>kMaximumRememberedCancelledGenerations
  · simp only [if_pos hlong]
    refine ⟨?_,hdistinct.2,by omega,?_⟩
    · intro other
      rw [Finset.mem_erase,hmem,List.mem_cons]
      by_cases hsame:other=expired
      · subst hsame
        simp [hdistinct.1]
      · simp [hsame]
    · intro other hother
      exact Finset.mem_insert.mp (Finset.mem_of_mem_erase hother)
  · simp only [if_neg hlong]
    exact ⟨hmem,List.nodup_cons.mpr hdistinct,Nat.le_of_not_lt hlong,
     fun other hother=>Finset.mem_insert.mp hother⟩

lemma mem_erased (cancelled : List PendingRequest) (ids : Finset JobId) (id : JobId):
 id∈cancelled.foldl (fun ids pending=>ids.erase pending.request.jobId) ids ↔
  id∈ids ∧ id∉cancelled.map (·.request.jobId):=by
 induction cancelled generalizing ids with
 | nil=>simp
 | cons first rest ih=>
  rw [List.foldl_cons,ih,Finset.mem_erase,List.map_cons,List.mem_cons,not_or]
  exact ⟨fun h=>⟨h.1.2,h.1.1,h.2⟩,fun h=>⟨⟨h.2.1,h.1⟩,h.2.2⟩⟩

lemma rememberCancelled_pending (scheduler : ThumbnailScheduler) (generation : RequestGeneration):
 (scheduler.rememberCancelled generation).pending=scheduler.pending ∧
  (scheduler.rememberCancelled generation).pendingJobIds=scheduler.pendingJobIds ∧
  (scheduler.rememberCancelled generation).capacity=scheduler.capacity ∧
  (scheduler.rememberCancelled generation).dispatchCount=scheduler.dispatchCount:=by
 unfold rememberCancelled
 by_cases hknown:generation∈scheduler.cancelledGenerations
 · rw [if_pos hknown]
   exact ⟨rfl,rfl,rfl,rfl⟩
 rw [if_neg hknown]
 cases scheduler.cancelledGenerationOrder++[generation] with
 | nil=>exact ⟨rfl,rfl,rfl,rfl⟩
 | cons expired rest=>
  by_cases hlong:(expired::rest).length>kMaximumRememberedCancelledGenerations
  · simp only [if_pos hlong,and_self]
  · simp only [if_neg hlong,and_self]

lemma cancelGeneration_pending (scheduler : ThumbnailScheduler) (generation : RequestGeneration):
 (scheduler.cancelGeneration generation).2.pending=
  scheduler.pending.filter (·.request.generation≠generation):=by
 simp only [cancelGeneration,(scheduler.rememberCancelled_pending generation).1]

section
variable (hconsistent:Consistent scheduler)
include hconsistent

variable (generation : RequestGeneration)

lemma consistent_cancel : Consistent (scheduler.cancelGeneration generation).2:=by
 have hremember:=consistent_remember hconsistent generation
 obtain ⟨hpending,hids,hcapacity,-⟩:=scheduler.rememberCancelled_pending generation
 have hkept:=scheduler.cancelGeneration_pending generation
 constructor
 · change (scheduler.cancelGeneration generation).2.pending.length ≤
    (scheduler.rememberCancelled generation).capacity
   rw [hkept,hcapacity]
   exact (List.length_filter_le _ _).trans hconsistent.bounded
 · intro id
   rw [jobIds,hkept]
   simp only [cancelGeneration,mem_erased,hpending,hids,hconsistent.ids,jobIds,
    List.mem_map,List.mem_filter,decide_eq_true_eq]
   constructor
   · intro h
     obtain ⟨⟨waiting,hwaiting,hid⟩,hnot⟩:=h
     refine ⟨waiting,⟨hwaiting,?_⟩,hid⟩
     intro hgeneration
     exact hnot ⟨waiting,⟨hwaiting,hgeneration⟩,hid⟩
   · intro h
     obtain ⟨waiting,⟨hwaiting,hgeneration⟩,hid⟩:=h
     refine ⟨⟨waiting,hwaiting,hid⟩,?_⟩
     intro hcancelled
     obtain ⟨other,⟨hother,hsame⟩,hotherId⟩:=hcancelled
     have heq:other=waiting:=
      List.inj_on_of_nodup_map hconsistent.distinct hother hwaiting (hotherId.trans hid.symm)
     exact hgeneration (heq ▸ hsame)
 · rw [jobIds,hkept]
   exact (List.filter_sublist.map _).nodup hconsistent.distinct
 · exact hremember.1
 · exact hremember.2.1
 · exact hremember.2.2.1
 · intro waiting hwaiting hcancelled
   rw [hkept,List.mem_filter,decide_eq_true_eq] at hwaiting
   cases hremember.2.2.2 _ hcancelled with
   | inl hsame=>exact hwaiting.2 hsame
   | inr hold=>exact hconsistent.live waiting hwaiting.1 hold

lemma consistent_release : Consistent (scheduler.releaseGeneration generation) where
 bounded:=hconsistent.bounded
 ids:=hconsistent.ids
 distinct:=hconsistent.distinct
 remembered:=by
  intro other
  simp only [releaseGeneration,Finset.mem_erase,List.mem_filter,decide_eq_true_eq,
   hconsistent.remembered,and_comm]
 rememberedDistinct:=hconsistent.rememberedDistinct.filter _
 rememberedBounded:=(List.length_filter_le _ _).trans hconsistent.rememberedBounded
 live:=fun waiting hwaiting hcancelled =>
  hconsistent.live waiting hwaiting (Finset.mem_of_mem_erase hcancelled)

lemma consistent_moves {call : Call} {reply : Reply}
 {after : ThumbnailScheduler} (h:Moves scheduler call reply after) : Consistent after:=by
 cases h with
 | refused=>exact hconsistent
 | idle=>exact hconsistent
 | queued r hlive hfresh hroom=>exact consistent_pushBack hconsistent hlive hfresh hroom
 | evicted r front back worst hlive hfresh hpending=>
  apply consistent_pushBack (consistent_without hconsistent hpending) hlive
  · exact fun hmem=>hfresh (Finset.mem_of_mem_erase hmem)
  · have hbounded:=hconsistent.bounded
    rw [hpending] at hbounded
    simp only [without,List.length_append,List.length_cons] at hbounded ⊢
    omega
 | taken front back taken hpending=>
  have hwithout:=consistent_without hconsistent hpending
  exact ⟨hwithout.bounded,hwithout.ids,hwithout.distinct,hwithout.remembered,
   hwithout.rememberedDistinct,hwithout.rememberedBounded,hwithout.live⟩
 | cancelled generation=>exact consistent_cancel hconsistent generation
 | released generation=>exact consistent_release hconsistent generation

lemma consistent_step (call : Call) : Consistent (scheduler.step call).2:=
 consistent_moves hconsistent (step_moves hconsistent call)

lemma consistent_after (c : List Call) : Consistent (scheduler.after c):=by
 induction c generalizing scheduler with
 | nil=>exact hconsistent
 | cons call rest ih=>exact ih (consistent_step hconsistent call)

end

lemma capacity_moves {call : Call} {reply : Reply} (h:Moves scheduler call reply after):
 after.capacity=scheduler.capacity:=by
 cases h with
 | cancelled generation=>exact (scheduler.rememberCancelled_pending generation).2.2.1
 | _=>rfl

lemma capacity_after (hconsistent:Consistent scheduler) (c : List Call):
 (scheduler.after c).capacity=scheduler.capacity:=by
 induction c generalizing scheduler with
 | nil=>rfl
 | cons call rest ih=>
  exact (ih (consistent_step hconsistent call)).trans
   (capacity_moves (step_moves hconsistent call))

section Departures

/-- The requests that wait before a call and not after it. -/
def left (before after : ThumbnailScheduler) : List ThumbnailRequest:=
 before.requests.filter (· ∉ after.requests)

def entered : Call → Reply → List ThumbnailRequest
 | .submit request, .submitted result=>if result.accepted then [request] else []
 | _, _=>[]

/-- The reply names the requests that left: the one returned, the one evicted, or how many of the
generation were cancelled. -/
def Accounts : Call → Reply → List ThumbnailRequest → Prop
 | .submit _, .submitted result, left=>left.map (·.jobId) = result.evictedJob.toList
 | .takeNext, .taken request, left=>left = request.toList
 | .cancelGeneration generation, .cancelled count, left=>
  left.length = count ∧ ∀request ∈ left,request.generation = generation
 | .releaseGeneration _, .released, left=>left = []
 | _, _, _=>False

variable (scheduler)

def leaving (call : Call) : List ThumbnailRequest := left scheduler (scheduler.step call).2

def entering (call : Call) : List ThumbnailRequest := entered call (scheduler.step call).1

def accepted : ThumbnailScheduler → List Call → List ThumbnailRequest
 | _, []=>[]
 | scheduler, call::rest=>scheduler.entering call++accepted (scheduler.step call).2 rest

def departed : ThumbnailScheduler → List Call → List ThumbnailRequest
 | _, []=>[]
 | scheduler, call::rest=>scheduler.leaving call++departed (scheduler.step call).2 rest

/-- How many of the calls let the request go, up to the next acceptance of its job id. -/
def exits (request : ThumbnailRequest) : ThumbnailScheduler → List Call → ℕ
 | _, []=>0
 | scheduler, call::rest=>
  if request.jobId ∈ (scheduler.entering call).map (·.jobId) then 0
  else
   (if request ∈ scheduler.leaving call then 1 else 0)
    + exits request (scheduler.step call).2 rest

def waits (request : ThumbnailRequest) : ThumbnailScheduler → List Call → Bool
 | scheduler, []=>request ∈ scheduler.requests
 | scheduler, call::rest=>
  request ∈ scheduler.requests && waits request (scheduler.step call).2 rest

end Departures

lemma requests_jobIds : scheduler.requests.map (·.jobId)=scheduler.jobIds:=by
 simp [jobIds,requests]

lemma request_unique (hconsistent:Consistent scheduler) {first second : ThumbnailRequest}
 (hfirst:first∈scheduler.requests) (hsecond:second∈scheduler.requests)
 (hid:first.jobId=second.jobId) : first=second:=by
 have hdistinct:=hconsistent.distinct
 rw [←requests_jobIds] at hdistinct
 exact List.inj_on_of_nodup_map hdistinct hfirst hsecond hid

lemma jobId_mem {r : ThumbnailRequest} (h:r∈scheduler.requests):
 r.jobId∈scheduler.jobIds:=by
 rw [←requests_jobIds]
 exact List.mem_map_of_mem h

lemma left_none (h:∀r∈scheduler.requests,r∈after.requests) : left scheduler after=[]:=by
 rw [left,List.filter_eq_nil_iff]
 intro r hrequest
 simpa using h r hrequest

lemma left_one (hpending:scheduler.pending=front++gone::back)
 (hgone:gone.request∉after.requests)
 (hkept:∀waiting∈front++back,waiting.request∈after.requests):
 left scheduler after=[gone.request]:=by
 have hnone:∀some : List PendingRequest,(∀waiting∈some,waiting.request∈after.requests) →
   (some.map PendingRequest.request).filter (·∉after.requests)=[]:=by
  intro some hsome
  rw [List.filter_eq_nil_iff]
  intro r hrequest
  obtain ⟨waiting,hwaiting,rfl⟩:=List.mem_map.mp hrequest
  simpa using hsome waiting hwaiting
 have hrequests:scheduler.requests=
   front.map (·.request)++gone.request::back.map (·.request):=by
  simp [requests,hpending]
 rw [left,hrequests,List.filter_append,
  hnone front fun waiting h=>hkept waiting (List.mem_append_left back h),
  List.filter_cons_of_pos (by simpa using hgone),
  hnone back fun waiting h=>hkept waiting (List.mem_append_right front h),List.nil_append]

lemma gone_fresh (hconsistent:Consistent scheduler) {front back : List PendingRequest}
 {gone : PendingRequest} (hpending:scheduler.pending=front++gone::back):
 gone.request∉(front++back).map (·.request):=by
 have hdistinct:=hconsistent.distinct
 rw [jobIds,hpending,List.map_append,List.map_cons,List.nodup_middle,List.nodup_cons,
  ← List.map_append] at hdistinct
 intro hstill
 obtain ⟨waiting,hwaiting,hsame⟩:=List.mem_map.mp hstill
 exact hdistinct.1 (List.mem_map.mpr ⟨waiting,hwaiting,by rw [hsame]⟩)

lemma gone_perm (hpending:scheduler.pending=front++gone::back):
 scheduler.requests.Perm ([gone.request]++(front++back).map (·.request)):=by
 rw [requests,hpending]
 exact List.perm_middle.map _

lemma left_cancelled (generation : RequestGeneration):
 left scheduler (scheduler.cancelGeneration generation).2=
  (scheduler.pending.filter (·.request.generation=generation)).map (·.request):=by
 change (scheduler.pending.map (·.request)).filter _=_
 rw [List.filter_map]
 congr 1
 apply List.filter_congr
 intro waiting hwaiting
 simp only [Function.comp_apply,requests,cancelGeneration_pending,decide_eq_decide]
 by_cases hgeneration:waiting.request.generation=generation
 · simp only [hgeneration,iff_true]
   intro hkept
   obtain ⟨other,hother,hsame⟩:=List.mem_map.mp hkept
   rw [List.mem_filter,decide_eq_true_eq,hsame] at hother
   exact hother.2 hgeneration
 · simp only [hgeneration,iff_false,not_not]
   exact List.mem_map.mpr
    ⟨waiting,List.mem_filter.mpr ⟨hwaiting,by simpa using hgeneration⟩,rfl⟩

lemma cancelled_perm (scheduler : ThumbnailScheduler) (generation : RequestGeneration):
 scheduler.pending.Perm (scheduler.pending.filter (·.request.generation=generation)
  ++ (scheduler.cancelGeneration generation).2.pending):=by
 rw [cancelGeneration_pending]
 have hperm:=List.filter_append_perm
  (fun waiting : PendingRequest=>decide (waiting.request.generation=generation))
  scheduler.pending
 simpa using hperm.symm

section
variable (hconsistent:Consistent scheduler)
include hconsistent

lemma moves_accounts {call : Call} {reply : Reply}
 {after : ThumbnailScheduler} (h:Moves scheduler call reply after):
 Accounts call reply (left scheduler after) ∧
  (entered call reply++scheduler.requests).Perm (left scheduler after++after.requests) ∧
  ∀r∈entered call reply,r.jobId∉scheduler.jobIds:=by
 cases h with
 | refused r result hresult=>
  rw [left_none fun r h=>h,entered,if_neg (by simp [hresult.1])]
  refine ⟨?_,List.Perm.refl _,fun r h=>by cases h⟩
  rw [Accounts,hresult.2]
  rfl
 | idle hpending=>
  rw [left_none fun r h=>h]
  exact ⟨rfl,List.Perm.refl _,fun r h=>by cases h⟩
 | released generation=>
  have hleft:left scheduler (scheduler.releaseGeneration generation)=[]:=left_none fun r h=>h
  rw [hleft]
  exact ⟨rfl,List.Perm.refl _,fun r h=>by cases h⟩
 | queued r hlive hfresh hroom=>
  have hrequests:(scheduler.pushBack r).requests=scheduler.requests++[r]:=by
   simp [pushBack,requests]
  rw [left_none (fun other h=>by rw [hrequests]; exact List.mem_append_left _ h),hrequests]
  refine ⟨rfl,List.perm_append_comm,?_⟩
  intro other hother
  rw [List.mem_singleton.mp hother]
  exact (not_congr (hconsistent.ids _)).mp hfresh
 | evicted r front back worst hlive hfresh hpending=>
  have hnew:=(not_congr (hconsistent.ids _)).mp hfresh
  have hrequests:((scheduler.without worst (front++back)).pushBack r).requests=
    (front++back).map (·.request)++[r]:=by
   simp [pushBack,requests,without]
  have hworst:worst.request∈scheduler.requests:=by simp [requests,hpending]
  have hleft:left scheduler ((scheduler.without worst (front++back)).pushBack r)=
    [worst.request]:=by
   apply left_one hpending
   · rw [hrequests,List.mem_append,List.mem_singleton]
     intro hstill
     cases hstill with
     | inl hkept=>exact gone_fresh hconsistent hpending hkept
     | inr hsame=>exact hnew (hsame ▸ jobId_mem hworst)
   · intro waiting hwaiting
     rw [hrequests]
     exact List.mem_append_left _ (List.mem_map_of_mem hwaiting)
  rw [hleft,hrequests,←List.append_assoc]
  refine ⟨rfl,?_,?_⟩
  · exact List.perm_append_comm.trans ((gone_perm hpending).append_right _)
  · intro other hother
    rw [List.mem_singleton.mp hother]
    exact hnew
 | taken front back taken hpending holdest=>
  have hleft:left scheduler (scheduler.dispatched taken (front++back))=[taken.request]:=by
   apply left_one hpending
   · exact gone_fresh hconsistent hpending
   · intro waiting hwaiting
     exact List.mem_map_of_mem hwaiting
  rw [hleft]
  exact ⟨rfl,gone_perm hpending,fun r h=>by cases h⟩
 | cancelled generation=>
  have hperm:=scheduler.cancelled_perm generation
  rw [left_cancelled]
  refine ⟨⟨?_,?_⟩,?_,fun r h=>by cases h⟩
  · have hlength:=hperm.length_eq
    have hcount:(scheduler.cancelGeneration generation).1=scheduler.pending.length
       - (scheduler.cancelGeneration generation).2.pending.length:=by
     simp only [cancelGeneration,(scheduler.rememberCancelled_pending generation).1]
    rw [List.length_append] at hlength
    rw [hcount,List.length_map]
    omega
  · intro r hrequest
    obtain ⟨waiting,hwaiting,rfl⟩:=List.mem_map.mp hrequest
    exact of_decide_eq_true (List.mem_filter.mp hwaiting).2
  · have hrequests:=hperm.map (·.request)
    rw [List.map_append] at hrequests
    exact hrequests

lemma step_accounts (call : Call):
 Accounts call (scheduler.step call).1 (scheduler.leaving call) ∧
  (scheduler.entering call++scheduler.requests).Perm
   (scheduler.leaving call++(scheduler.step call).2.requests) ∧
  ∀r∈scheduler.entering call,r.jobId∉scheduler.jobIds:=
 moves_accounts hconsistent (step_moves hconsistent call)

lemma books_balance (c : List Call) : (accepted scheduler c++scheduler.requests).Perm
  (departed scheduler c++(scheduler.after c).requests):=by
 induction c generalizing scheduler with
 | nil=>exact List.Perm.refl _
 | cons call rest ih=>
  have hstep:=(step_accounts hconsistent call).2.1
  have hrest:=ih (consistent_step hconsistent call)
  simp only [accepted,departed,List.append_assoc]
  calc
   scheduler.entering call++(accepted (scheduler.step call).2 rest++scheduler.requests)
   _ |>.Perm (accepted (scheduler.step call).2 rest
      ++ (scheduler.entering call++scheduler.requests)):=by
    rw [←List.append_assoc,←List.append_assoc]
    exact List.perm_append_comm.append_right _
   _ |>.Perm (accepted (scheduler.step call).2 rest
      ++ (scheduler.leaving call++(scheduler.step call).2.requests)):=
    hstep.append_left _
   _ |>.Perm (scheduler.leaving call
      ++ (accepted (scheduler.step call).2 rest++(scheduler.step call).2.requests)):=by
    rw [←List.append_assoc,←List.append_assoc]
    exact List.perm_append_comm.append_right _
   _ |>.Perm (scheduler.leaving call
      ++ (departed (scheduler.step call).2 rest
       ++ (scheduler.after (call::rest)).requests)):=
    hrest.append_left _

lemma exits_absent {r : ThumbnailRequest}
 (habsent:r.jobId∉scheduler.jobIds) (c : List Call):
 exits r scheduler c=0:=by
 induction c generalizing scheduler with
 | nil=>rfl
 | cons call rest ih=>
  rw [exits]
  by_cases haccepted:r.jobId∈(scheduler.entering call).map (·.jobId)
  · rw [if_pos haccepted]
  rw [if_neg haccepted]
  have hnotLeaving:r∉scheduler.leaving call:=by
   intro hleaving
   exact habsent (jobId_mem (List.mem_filter.mp hleaving).1)
  have hafter:r.jobId∉(scheduler.step call).2.jobIds:=by
   intro hid
   rw [←requests_jobIds] at hid
   obtain ⟨other,hother,hsame⟩:=List.mem_map.mp hid
   have hmem:=(step_accounts hconsistent call).2.1.mem_iff.mpr
    (List.mem_append_right _ hother)
   cases List.mem_append.mp hmem with
   | inl hnew=>exact haccepted (List.mem_map.mpr ⟨other,hnew,hsame⟩)
   | inr hold=>exact habsent (hsame ▸ jobId_mem hold)
  rw [if_neg hnotLeaving,ih (consistent_step hconsistent call) hafter]

lemma exits_waiting {r : ThumbnailRequest}
 (hwaiting:r∈scheduler.requests) (c : List Call):
 exits r scheduler c=if waits r scheduler c then 0 else 1:=by
 induction c generalizing scheduler with
 | nil=>simp [exits,waits,hwaiting]
 | cons call rest ih=>
  obtain ⟨-,hperm,hfresh⟩:=step_accounts hconsistent call
  have hnotAccepted:r.jobId∉(scheduler.entering call).map (·.jobId):=by
   intro hmem
   obtain ⟨other,hother,hsame⟩:=List.mem_map.mp hmem
   exact hfresh other hother (hsame ▸ jobId_mem hwaiting)
  have hafter:=consistent_step hconsistent call
  simp only [exits,waits,if_neg hnotAccepted,hwaiting,decide_true,Bool.true_and]
  by_cases hstill:r∈(scheduler.step call).2.requests
  · have hnotLeaving:r∉scheduler.leaving call:=by
     intro hleaving
     exact of_decide_eq_true (List.mem_filter.mp hleaving).2 hstill
    rw [if_neg hnotLeaving,Nat.zero_add,ih hafter hstill]
  · have hleaving:r∈scheduler.leaving call:=
     List.mem_filter.mpr ⟨hwaiting,decide_eq_true hstill⟩
    have habsent:r.jobId∉(scheduler.step call).2.jobIds:=by
     intro hid
     rw [←requests_jobIds] at hid
     obtain ⟨other,hother,hsame⟩:=List.mem_map.mp hid
     have hmem:=hperm.mem_iff.mpr (List.mem_append_right _ hother)
     cases List.mem_append.mp hmem with
     | inl hnew=>exact hfresh other hnew (hsame ▸ jobId_mem hwaiting)
     | inr hold=>exact hstill (request_unique hconsistent hold hwaiting hsame ▸ hother)
    have hnot:waits r (scheduler.step call).2 rest=false:=by
     cases rest<;>simp [waits,hstill]
    rw [if_pos hleaving,exits_absent hafter habsent,hnot]
    rfl

lemma submit_waits {r : ThumbnailRequest}
 (haccepted:(scheduler.submit r).1.accepted=true):
 r∈(scheduler.submit r).2.requests:=by
 obtain ⟨-,hperm,hfresh⟩:=step_accounts hconsistent (.submit r)
 have hentering:r∈scheduler.entering (.submit r):=by
  change r∈if (scheduler.submit r).1.accepted then [r] else []
  rw [if_pos haccepted]
  exact List.mem_singleton_self _
 have hmem:=hperm.mem_iff.mp (List.mem_append_left _ hentering)
 cases List.mem_append.mp hmem with
 | inr hafter=>exact hafter
 | inl hleaving=>
  exact absurd (jobId_mem (List.mem_filter.mp hleaving).1) (hfresh r hentering)

lemma takeNext_live {r : ThumbnailRequest}
 (htaken:scheduler.takeNext.1=some r):
 scheduler.isGenerationCancelled r.generation=false:=by
 have hmoves:=takeNext_moves scheduler
 rw [htaken] at hmoves
 generalize scheduler.takeNext.2=after at hmoves
 cases hmoves with
 | taken front back taken hpending=>
  have hlive:=hconsistent.live taken (by simp [hpending])
  simpa [isGenerationCancelled] using hlive

end

/-- The queue loses and duplicates nothing, whatever is called. -/
theorem scheduler_loses_nothing (capacity : ℕ) (calls : List Call):
 let scheduler:=(new capacity).after calls
 scheduler.capacity=capacity ∧ scheduler.size ≤ capacity ∧
  scheduler.pendingJobIds=scheduler.jobIds.toFinset ∧ scheduler.jobIds.Nodup ∧
  scheduler.cancelledGenerations=scheduler.cancelledGenerationOrder.toFinset ∧
  scheduler.cancelledGenerationOrder.Nodup ∧
  scheduler.cancelledGenerationOrder.length≤kMaximumRememberedCancelledGenerations ∧
  (accepted (new capacity) calls).Perm
   (departed (new capacity) calls++scheduler.requests) ∧
  (∀call,Accounts call (scheduler.step call).1 (scheduler.leaving call)) ∧
  (∀request later,(scheduler.submit request).1.accepted=true →
   request∈(scheduler.submit request).2.requests ∧
    exits request (scheduler.submit request).2 later=
     if waits request (scheduler.submit request).2 later then 0 else 1) ∧
  ∀request,scheduler.takeNext.1=some request →
   scheduler.isGenerationCancelled request.generation=false:=by
 intro scheduler
 have hconsistent:Consistent scheduler:=consistent_after (consistent_new capacity) calls
 have hcapacity:scheduler.capacity=capacity:=capacity_after (consistent_new capacity) calls
 refine ⟨hcapacity,hcapacity ▸ hconsistent.bounded,?_,hconsistent.distinct,?_,
  hconsistent.rememberedDistinct,hconsistent.rememberedBounded,?_,?_,?_,?_⟩
 · ext id
   rw [List.mem_toFinset,hconsistent.ids]
 · ext generation
   rw [List.mem_toFinset,hconsistent.remembered]
 · have hbalance:=books_balance (consistent_new capacity) calls
   rwa [show (new capacity).requests=[] from rfl,List.append_nil] at hbalance
 · intro call
   exact (step_accounts hconsistent call).1
 · intro request later haccepted
   have hwaiting:=submit_waits hconsistent haccepted
   exact ⟨hwaiting,exits_waiting (consistent_step hconsistent (.submit request)) hwaiting later⟩
 · intro request htaken
   exact takeNext_live hconsistent htaken

end ThumbnailScheduler
end VoVe.ThumbnailQueue
