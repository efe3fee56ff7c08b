import Mathlib.Data.List.TakeWhile
import VoVe.FolderMosaic

set_option autoImplicit false

namespace VoVe.FolderMosaicTiming
open FolderMosaic

/-- The ids of the regular files among the children, each at its first arrival; an id that has
arrived before counts for nothing. -/
def arrivals (seen : List FolderMosaicChildId) : List FolderMosaicChild → List FolderMosaicChildId
 | []=>[]
 | child::rest=>
  if seen.contains child.id || child.kind≠.regularFile then arrivals (seen++[child.id]) rest
  else child.id::arrivals (seen++[child.id]) rest

def MosaicCall.child : MosaicCall → Option FolderMosaicChild
 | .pushChild child _=>some child
 | _=>none

def MosaicCall.finishes : MosaicCall → Bool
 | .finishChildren _=>true
 | _=>false

variable (calls : List MosaicCall)

def pushed : List FolderMosaicChild:=
 (calls.takeWhile fun call=>!MosaicCall.finishes call).filterMap MosaicCall.child

def taken : List FolderMosaicChild := (pushed calls).take kMaximumFolderMosaicEntries

/-- The regular files among the first children pushed. -/
def files : List FolderMosaicChildId := arrivals [] (taken calls)

/-- No further child counts. -/
def closed : Bool:=
 calls.any MosaicCall.finishes || kMaximumFolderMosaicEntries ≤ (pushed calls).length

/-- The files that a probe finds to be images, in the order of their arrival. -/
def images (outcomes : FolderMosaicChildId → FolderMosaicProbeOutcome) (calls : List MosaicCall):
  List FolderMosaicChildId:=
 (files calls).filter fun id=>outcomes id = .image

lemma arrivals_append (seen : List FolderMosaicChildId) (children : List FolderMosaicChild)
 (child : FolderMosaicChild):
 arrivals seen (children++[child])=arrivals seen children ++
  if (seen++children.map FolderMosaicChild.id).contains child.id ||
   child.kind≠.regularFile then [] else [child.id]:=by
 induction children generalizing seen with
 | nil=>
  rw [List.map_nil,List.append_nil,List.nil_append]
  unfold arrivals
  split<;>rfl
 | cons head rest ih=>
  rw [List.cons_append,List.map_cons]
  unfold arrivals
  rw [ih,List.append_assoc,List.singleton_append]
  split
  · rfl
  · rfl

variable {calls : List MosaicCall} {children next : List ProbeChild} {id : FolderMosaicChildId}
 {probe : FolderMosaicProbeResult} {result : FolderMosaicResult}

lemma pushed_open (h:calls.any MosaicCall.finishes=false) (call : MosaicCall):
 pushed (calls++[call])=pushed calls++(MosaicCall.child call).toList:=by
 have hall:∀other∈calls,(!MosaicCall.finishes other)=true:=by
  intro other hother
  rw [List.any_eq_false] at h
  simpa using h other hother
 unfold pushed
 rw [List.takeWhile_append_of_pos hall,List.filterMap_append,List.takeWhile_eq_self_iff.mpr hall]
 cases call<;>rfl

lemma pushed_closed (h:calls.any MosaicCall.finishes=true) (call : MosaicCall):
 pushed (calls++[call])=pushed calls:=by
 unfold pushed
 rw [List.takeWhile_append,if_neg]
 intro hlength
 obtain ⟨other,hother,hfinishes⟩:=List.any_eq_true.mp h
 have hself:=(List.takeWhile_prefix fun call=>!MosaicCall.finishes call).eq_of_length hlength
 have hkept:=List.takeWhile_eq_self_iff.mp hself other hother
 rw [hfinishes] at hkept
 cases hkept

lemma taken_closed (h:closed calls=true) (call : MosaicCall):
 taken (calls++[call])=taken calls:=by
 unfold taken
 cases hfinishes:calls.any MosaicCall.finishes with
 | true=>rw [pushed_closed hfinishes]
 | false=>
  have hfull:kMaximumFolderMosaicEntries≤(pushed calls).length:=by
   simpa [closed,hfinishes] using h
  rw [pushed_open hfinishes,List.take_append_of_le_length hfull]

lemma taken_open (h:closed calls=false):
 taken calls=pushed calls ∧ (pushed calls).length<kMaximumFolderMosaicEntries ∧
  calls.any MosaicCall.finishes=false:=by
 obtain ⟨hfinishes,hlength⟩:=Bool.or_eq_false_iff.mp h
 have hless:(pushed calls).length<kMaximumFolderMosaicEntries:=by
  simpa using hlength
 exact ⟨List.take_of_length_le hless.le,hless,hfinishes⟩

lemma taken_append (h:closed calls=false) (call : MosaicCall):
 taken (calls++[call])=taken calls++(MosaicCall.child call).toList:=by
 obtain ⟨htaken,hless,hfinishes⟩:=taken_open h
 rw [htaken]
 unfold taken
 rw [pushed_open hfinishes]
 refine List.take_of_length_le ?_
 rw [List.length_append]
 cases MosaicCall.child call with
 | none=>exact hless.le
 | some child=>exact hless

lemma closed_append (h:closed calls=false) (call : MosaicCall):
 closed (calls++[call])=(MosaicCall.finishes call ||
  decide ((taken calls++(MosaicCall.child call).toList).length=
   kMaximumFolderMosaicEntries)):=by
 obtain ⟨htaken,hless,hfinishes⟩:=taken_open h
 unfold closed
 rw [List.any_append,hfinishes,pushed_open hfinishes,htaken,List.any_cons,List.any_nil,
  Bool.or_false,Bool.false_or,List.length_append]
 congr 1
 have hone:(MosaicCall.child call).toList.length≤1:=by
  cases MosaicCall.child call<;>simp
 rw [decide_eq_decide]
 omega

lemma closed_stays (h:closed calls=true) (call : MosaicCall):
 closed (calls++[call])=true:=by
 unfold closed at h ⊢
 cases hfinishes:calls.any MosaicCall.finishes with
 | true=>
  rw [List.any_append,hfinishes]
  rfl
 | false=>
  rw [hfinishes,Bool.false_or] at h
  have hfull:=of_decide_eq_true h
  rw [Bool.or_eq_true_iff]
  right
  rw [decide_eq_true_eq,pushed_open hfinishes,List.length_append]
  omega

lemma files_append (calls : List MosaicCall) (call : MosaicCall):
 ∃ more,files (calls++[call])=files calls++more:=by
 unfold files
 cases h:closed calls with
 | true=>
  rw [taken_closed h]
  exact ⟨[],(List.append_nil _).symm⟩
 | false=>
  rw [taken_append h]
  cases MosaicCall.child call with
  | none=>exact ⟨[],by simp⟩
  | some child=>exact ⟨_,arrivals_append [] (taken calls) child⟩

lemma inState_append (state : ProbeState) (children more : List ProbeChild):
 inState state (children++more)=inState state children++inState state more:=
 List.filter_append children more

lemma startFirst_eq_some (h:startFirst children=some (id,next)) : ∃ before child rest,
  children=before++child::rest ∧ child.state=.available ∧ child.id=id ∧
   (∀other∈before,other.state≠.available) ∧
   next=before++{ child with state:=.pending }::rest:=by
 induction children generalizing next with
 | nil=>cases h
 | cons head tail ih=>
  unfold startFirst at h
  by_cases havailable:head.state=.available
  · rw [if_pos havailable] at h
    obtain ⟨rfl,rfl⟩:=Prod.mk.inj (Option.some.inj h)
    exact ⟨[],head,tail,rfl,havailable,rfl,List.forall_mem_nil _,rfl⟩
  · rw [if_neg havailable] at h
    obtain ⟨⟨id',next'⟩,hstarted,hnext⟩:=Option.map_eq_some_iff.mp h
    obtain ⟨rfl,rfl⟩:=Prod.mk.inj hnext
    obtain ⟨before,child,rest,rfl,hchild,hid,hbefore,rfl⟩:=ih hstarted
    refine ⟨head::before,child,rest,rfl,hchild,hid,?_,rfl⟩
    intro other hother
    obtain rfl | hother:=List.mem_cons.mp hother
    · exact havailable
    · exact hbefore other hother

lemma startFirst_eq_none (h:startFirst children=none):
 ∀child∈children,child.state≠.available:=by
 induction children with
 | nil=>exact List.forall_mem_nil _
 | cons head tail ih=>
  unfold startFirst at h
  by_cases havailable:head.state=.available
  · rw [if_pos havailable] at h
    cases h
  · rw [if_neg havailable] at h
    intro child hchild
    obtain rfl | hchild:=List.mem_cons.mp hchild
    · exact havailable
    · exact ih (Option.map_eq_none_iff.mp h) child hchild

lemma answerFirst_eq_some (h:answerFirst probe children=some next) : ∃ before child rest,
  children=before++child::rest ∧ child.state=.pending ∧ child.id=probe.childId ∧
   next=before++{ child with state:=probe.outcome.state }::rest:=by
 induction children generalizing next with
 | nil=>cases h
 | cons head tail ih=>
  unfold answerFirst at h
  by_cases hid:head.id=probe.childId
  · rw [if_pos hid] at h
    by_cases hpending:head.state=.pending
    · rw [if_pos hpending] at h
      exact ⟨[],head,tail,rfl,hpending,hid,(Option.some.inj h).symm⟩
    · rw [if_neg hpending] at h
      cases h
  · rw [if_neg hid] at h
    obtain ⟨next',hanswered,rfl⟩:=Option.map_eq_some_iff.mp h
    obtain ⟨before,child,rest,rfl,hchild,hchildId,rfl⟩:=ih hanswered
    exact ⟨head::before,child,rest,rfl,hchild,hchildId,rfl⟩

/-- Images found and probes outstanding. -/
def window (children : List ProbeChild) : ℕ:=
 (inState .image children).length+(inState .pending children).length

lemma window_append (children more : List ProbeChild):
 window (children++more)=window children+window more:=by
 unfold window
 rw [inState_append,inState_append,List.length_append,List.length_append]
 omega

lemma window_cons (child : ProbeChild) (rest : List ProbeChild) : window (child::rest)=
  (if child.state=.image ∨ child.state=.pending then 1 else 0)+window rest:=by
 obtain ⟨id,state⟩:=child
 have hrest:=window_append [⟨id,state⟩] rest
 rw [List.singleton_append] at hrest
 rw [hrest]
 congr 1
 cases state<;>rfl

lemma window_started (h:startFirst children=some (id,next)):
 window next=window children+1:=by
 obtain ⟨before,child,rest,rfl,havailable,-,-,rfl⟩:=startFirst_eq_some h
 rw [window_append,window_append,window_cons,window_cons,havailable]
 simp
 omega

lemma window_answered (h:answerFirst probe children=some next):
 window next≤window children:=by
 obtain ⟨before,child,rest,rfl,hpending,-,rfl⟩:=answerFirst_eq_some h
 rw [window_append,window_append,window_cons,window_cons,hpending]
 split<;>simp

section Window
variable {builder : FolderMosaicBuilder} {now : TimePoint}

lemma settle_probeChildren (builder : FolderMosaicBuilder):
 builder.settle.probeChildren=builder.probeChildren:=by
 unfold FolderMosaicBuilder.settle
 dsimp only
 split
 · rfl
 split
 · rfl
 split<;>rfl

lemma expire_probeChildren (builder : FolderMosaicBuilder) (now : TimePoint):
 (builder.expire now).2.probeChildren=builder.probeChildren:=by
 unfold FolderMosaicBuilder.expire
 dsimp only
 split<;>rfl

lemma window_available (children : List ProbeChild) (id : FolderMosaicChildId):
 window (children++[⟨id,.available⟩])=window children:=by
 rw [window_append]
 rfl

/-- A call gives up at the deadline, or changes the children so that the window stays, and
  settles the builder. -/
lemma takes_keeps {P : FolderMosaicBuilder → Prop}
 (hexpire:∀ {builder : FolderMosaicBuilder} now,P builder → P (builder.expire now).2)
 (hsettle:∀ {builder : FolderMosaicBuilder},P builder → P builder.settle)
 (hchange:∀ {builder : FolderMosaicBuilder} {observed children started finished},P builder →
  (window builder.probeChildren≤kMaximumFolderMosaicCandidates →
   window children≤kMaximumFolderMosaicCandidates) →
  P ⟨builder.deadline,observed,children,started,finished,builder.result⟩)
 (h:P builder) (call : MosaicCall) : P (builder.takes call):=by
 cases call with
 | nextProbe now=>
  change P (builder.nextProbe now).2
  unfold FolderMosaicBuilder.nextProbe
  split
  · exact h
  replace h:=hexpire now h
  generalize builder.expire now=expired at h
  obtain ⟨expired,builder⟩:=expired
  dsimp only at h ⊢
  split
  · exact h
  split
  · exact h
  rename_i hroom
  split
  · exact hsettle h
  · rename_i childId children hstarted
    refine hchange h fun _=>?_
    rw [window_started hstarted]
    unfold window
    simp only [Bool.or_eq_true,decide_eq_true_eq,not_or,not_le] at hroom
    omega
 | pushChild child now=>
  change P (builder.pushChild child now).2
  unfold FolderMosaicBuilder.pushChild
  split
  · exact h
  replace h:=hexpire now h
  generalize builder.expire now=expired at h
  obtain ⟨expired,builder⟩:=expired
  dsimp only at h ⊢
  split
  · exact h
  split
  · exact h
  split
  · exact hsettle (hchange h id)
  split
  · exact hsettle (hchange h id)
  · refine hsettle (hchange h fun hwindow=>?_)
    rwa [window_available]
 | submitProbe probe now=>
  change P (builder.submitProbe probe now).2
  unfold FolderMosaicBuilder.submitProbe
  split
  · exact h
  replace h:=hexpire now h
  generalize builder.expire now=expired at h
  obtain ⟨expired,builder⟩:=expired
  dsimp only at h ⊢
  split
  · exact h
  split
  · exact h
  · rename_i children hanswered
    exact hsettle (hchange h (le_trans (window_answered hanswered)))
 | finishChildren now=>
  change P (builder.finishChildren now)
  unfold FolderMosaicBuilder.finishChildren
  split
  · exact h
  replace h:=hexpire now h
  generalize builder.expire now=expired at h
  obtain ⟨expired,builder⟩:=expired
  dsimp only at h ⊢
  split
  · exact h
  · exact hsettle (hchange h id)
 | result now=>
  change P (builder.resultAt now).2
  unfold FolderMosaicBuilder.resultAt
  dsimp only
  split
  · exact hsettle (hexpire now h)
  · exact h

lemma takes_window (h:window builder.probeChildren≤kMaximumFolderMosaicCandidates)
 (call : MosaicCall):
 window (builder.takes call).probeChildren≤kMaximumFolderMosaicCandidates:=by
 apply takes_keeps (P := fun builder=>window builder.probeChildren≤_) _ _ _ h
 · intro builder now h
   rwa [expire_probeChildren]
 · intro builder h
   rwa [settle_probeChildren]
 · intro builder observed children started finished h hwindow
   exact hwindow h

lemma after_append (deadline : TimePoint) (calls : List MosaicCall) (call : MosaicCall):
 after deadline (calls++[call])=(after deadline calls).takes call:=by
 unfold after
 rw [List.foldl_append]
 rfl

lemma after_window (deadline : TimePoint) (calls : List MosaicCall):
 window (after deadline calls).probeChildren≤kMaximumFolderMosaicCandidates:=by
 induction calls using List.reverseRecOn with
 | nil=>exact Nat.zero_le _
 | append_singleton calls call ih=>
  rw [after_append]
  exact takes_window ih call

end Window

section Images
variable {outcomes : FolderMosaicChildId → FolderMosaicProbeOutcome}

def Answered (outcomes : FolderMosaicChildId → FolderMosaicProbeOutcome) (child : ProbeChild):
  Prop:=
 (child.state = .image → outcomes child.id = .image) ∧
  (child.state = .rejected → outcomes child.id≠.image)

/-- Probes are started in the order of arrival. -/
def InOrder (children : List ProbeChild) : Prop:=
 children.Pairwise fun earlier later=>earlier.state = .available → later.state = .available

def found (outcomes : FolderMosaicChildId → FolderMosaicProbeOutcome)
  (children : List ProbeChild) : List FolderMosaicChildId:=
 (children.map ProbeChild.id).filter fun id=>outcomes id = .image

lemma found_cons (child : ProbeChild) (rest : List ProbeChild) : found outcomes (child::rest)=
  if outcomes child.id=.image then child.id::found outcomes rest
  else found outcomes rest:=by
 unfold found
 rw [List.map_cons,List.filter_cons]
 by_cases h:outcomes child.id=.image
 · rw [if_pos h,if_pos (decide_eq_true h)]
 · rw [if_neg h,if_neg]
   rw [decide_eq_true_eq]
   exact h

lemma inState_image_cons (child : ProbeChild) (rest : List ProbeChild):
 (inState .image (child::rest)).map ProbeChild.id=
  if child.state=.image then child.id::(inState .image rest).map ProbeChild.id
  else (inState .image rest).map ProbeChild.id:=by
 unfold inState
 rw [List.filter_cons]
 by_cases h:child.state=.image
 · rw [if_pos h,if_pos (decide_eq_true h),List.map_cons]
 · rw [if_neg h,if_neg]
   rw [decide_eq_true_eq]
   exact h

lemma images_prefix (horder:InOrder children)
 (hanswered:∀child∈children,Answered outcomes child)
 (hpending:∀child∈children,child.state≠.pending):
 (inState .image children).map ProbeChild.id <+: found outcomes children:=by
 induction children with
 | nil=>exact List.prefix_refl _
 | cons child rest ih=>
  obtain ⟨hhead,htail⟩:=List.pairwise_cons.mp horder
  have hrest:=ih htail (fun other hother=>hanswered other (List.mem_cons_of_mem _ hother))
   fun other hother=>hpending other (List.mem_cons_of_mem _ hother)
  have hchild:=hanswered child List.mem_cons_self
  rw [inState_image_cons,found_cons]
  cases hstate:child.state with
  | pending=>exact absurd hstate (hpending child List.mem_cons_self)
  | image=>
   rw [if_pos rfl,if_pos (hchild.1 hstate)]
   exact (List.prefix_cons_inj child.id).mpr hrest
  | rejected=>
   rw [if_neg nofun,if_neg (hchild.2 hstate)]
   exact hrest
  | available=>
   have hnone:inState .image rest=[]:=by
    refine List.filter_eq_nil_iff.mpr ?_
    intro other hother
    rw [hhead other hother hstate]
    decide
   rw [if_neg nofun,hnone]
   exact List.nil_prefix

lemma images_resolved (hanswered:∀child∈children,Answered outcomes child)
 (hresolved:∀child∈children,child.unresolved=false):
 (inState .image children).map ProbeChild.id=found outcomes children:=by
 induction children with
 | nil=>rfl
 | cons child rest ih=>
  have hrest:=ih (fun other hother=>hanswered other (List.mem_cons_of_mem _ hother))
   fun other hother=>hresolved other (List.mem_cons_of_mem _ hother)
  have hchild:=hanswered child List.mem_cons_self
  have hstate:=hresolved child List.mem_cons_self
  rw [inState_image_cons,found_cons,hrest]
  obtain ⟨id,state⟩:=child
  cases state with
  | available=>cases hstate
  | pending=>cases hstate
  | image=>rw [if_pos rfl,if_pos (hchild.1 rfl)]
  | rejected=>rw [if_neg nofun,if_neg (hchild.2 rfl)]

end Images

section Stages
variable {outcomes : FolderMosaicChildId → FolderMosaicProbeOutcome} {calls : List MosaicCall}
 {builder : FolderMosaicBuilder} {now : TimePoint}

structure Ready (outcomes : FolderMosaicChildId → FolderMosaicProbeOutcome)
  (calls : List MosaicCall) (builder : FolderMosaicBuilder) : Prop where
 result : builder.result=none
 arrived : builder.probeChildren.map ProbeChild.id=files calls
 observed : builder.observedChildIds=(taken calls).map FolderMosaicChild.id
 finished : builder.childrenFinished=closed calls
 answered : ∀child∈builder.probeChildren,Answered outcomes child
 inOrder : InOrder builder.probeChildren
 narrow : window builder.probeChildren≤kMaximumFolderMosaicCandidates

def Settled (outcomes : FolderMosaicChildId → FolderMosaicProbeOutcome) (calls : List MosaicCall)
  (result : FolderMosaicResult) : Prop:=
 (result.outcome = .complete ∧ kMaximumFolderMosaicCandidates ≤ (images outcomes calls).length ∧
  result.candidates = (images outcomes calls).take kMaximumFolderMosaicCandidates) ∨
 (closed calls = true ∧ (images outcomes calls).length < kMaximumFolderMosaicCandidates ∧
  result.candidates = images outcomes calls ∧
  result.outcome = if (images outcomes calls).length = 0 then .noCandidates else .partialResult)

/-- Between two calls before the deadline. -/
def Stage (outcomes : FolderMosaicChildId → FolderMosaicProbeOutcome) (calls : List MosaicCall)
  (builder : FolderMosaicBuilder) : Prop:=
 (Ready outcomes calls builder ∧
   (inState .image builder.probeChildren).length < kMaximumFolderMosaicCandidates) ∨
  ∃ result,builder.result = some result ∧ Settled outcomes calls result

section
variable (h:Ready outcomes calls builder)
include h

lemma Ready.found_eq : found outcomes builder.probeChildren=images outcomes calls:=by
 unfold found images
 rw [h.arrived]

lemma Ready.complete
 (hfour:kMaximumFolderMosaicCandidates≤(inState .image builder.probeChildren).length):
 Settled outcomes calls {
  outcome:=.complete
  entriesExamined:=builder.observedChildIds.length
  candidates:=((inState .image builder.probeChildren).map ProbeChild.id).take
   kMaximumFolderMosaicCandidates
  layout:=makeLayout (((inState .image builder.probeChildren).map ProbeChild.id).take
   kMaximumFolderMosaicCandidates).length }:=by
 have hnarrow:=h.narrow
 unfold window at hnarrow
 have hnone:inState .pending builder.probeChildren=[]:=by
  refine List.length_eq_zero_iff.mp ?_
  omega
 have hpending:∀child∈builder.probeChildren,child.state≠.pending:=by
  intro child hchild hstate
  have hmem:child∈inState .pending builder.probeChildren:=
   List.mem_filter.mpr ⟨hchild,decide_eq_true hstate⟩
  rw [hnone] at hmem
  cases hmem
 have hprefix := images_prefix h.inOrder h.answered hpending
 rw [h.found_eq] at hprefix
 have hlength:((inState .image builder.probeChildren).map ProbeChild.id).length=
   kMaximumFolderMosaicCandidates:=by
  rw [List.length_map]
  omega
 refine .inl ⟨rfl,?_,?_⟩
 · rw [←hlength]
   exact hprefix.length_le
 · change ((inState .image builder.probeChildren).map ProbeChild.id).take _=_
   have htake:=List.prefix_iff_eq_take.mp hprefix
   rw [hlength] at htake
   rw [←htake,List.take_of_length_le hlength.le]

lemma Ready.exhausted
 (hfew:(inState .image builder.probeChildren).length<kMaximumFolderMosaicCandidates)
 (hfinished:builder.childrenFinished=true)
 (hresolved:builder.probeChildren.any ProbeChild.unresolved=false):
 Settled outcomes calls {
  outcome:=if (inState .image builder.probeChildren).length=0 then .noCandidates
   else .partialResult
  entriesExamined:=builder.observedChildIds.length
  candidates:=((inState .image builder.probeChildren).map ProbeChild.id).take
   kMaximumFolderMosaicCandidates
  layout:=makeLayout (((inState .image builder.probeChildren).map ProbeChild.id).take
   kMaximumFolderMosaicCandidates).length }:=by
 have hall:∀child∈builder.probeChildren,child.unresolved=false:=by
  intro child hchild
  exact Bool.eq_false_iff.mpr (List.any_eq_false.mp hresolved child hchild)
 have hfound:=images_resolved h.answered hall
 rw [h.found_eq] at hfound
 have hlength:(images outcomes calls).length=(inState .image builder.probeChildren).length:=by
  rw [←hfound,List.length_map]
 refine .inr ⟨?_,?_,?_,?_⟩
 · rw [←h.finished]
   exact hfinished
 · rw [hlength]
   exact hfew
 · change ((inState .image builder.probeChildren).map ProbeChild.id).take _=_
   rw [hfound]
   refine List.take_of_length_le ?_
   rw [hlength]
   exact hfew.le
 · rw [hlength]

lemma Ready.settles : Stage outcomes calls builder.settle:=by
 have hresult:¬builder.result.isSome=true:=by
  rw [h.result]
  exact Bool.false_ne_true
 unfold FolderMosaicBuilder.settle
 dsimp only
 rw [if_neg hresult]
 by_cases hfour:kMaximumFolderMosaicCandidates≤(inState .image builder.probeChildren).length
 · rw [if_pos hfour]
   exact .inr ⟨_,rfl,h.complete hfour⟩
 rw [if_neg hfour]
 by_cases hopen:(!builder.childrenFinished ||
   builder.probeChildren.any ProbeChild.unresolved)=true
 · rw [if_pos hopen]
   exact .inl ⟨h,not_le.mp hfour⟩
 · rw [if_neg hopen]
   obtain ⟨hfinished,hresolved⟩:=Bool.or_eq_false_iff.mp (Bool.eq_false_iff.mpr hopen)
   refine .inr ⟨_,rfl,h.exhausted (not_le.mp hfour) ?_ hresolved⟩
   simpa using hfinished

end

/-- A result stays what it is, whatever is called then. -/
lemma Settled.append (h:Settled outcomes calls result) (call : MosaicCall):
 Settled outcomes (calls++[call]) result:=by
 obtain ⟨houtcome,hfour,hcandidates⟩ | ⟨hclosed,hrest⟩:=h
 · obtain ⟨more,hmore⟩:=files_append calls call
   have himages:images outcomes (calls++[call])=
     images outcomes calls++more.filter fun id=>outcomes id=.image:=by
    unfold images
    rw [hmore,List.filter_append]
   refine .inl ⟨houtcome,?_,?_⟩
   · rw [himages,List.length_append]
     omega
   · rw [himages,List.take_append_of_le_length hfour]
     exact hcandidates
 · have himages:images outcomes (calls++[call])=images outcomes calls:=by
    unfold images files
    rw [taken_closed hclosed]
   rw [Settled,himages]
   exact .inr ⟨closed_stays hclosed call,hrest⟩

lemma takes_decided (h:builder.result=some result) (call : MosaicCall):
 builder.takes call=builder:=by
 obtain ⟨deadline,observed,children,started,finished,_⟩:=builder
 obtain rfl : _=some result:=h
 cases call<;>rfl

lemma expire_before (hresult:builder.result=none) (hnow:now<builder.deadline):
 builder.expire now=(false,builder):=by
 unfold FolderMosaicBuilder.expire
 have hearly:¬(builder.result.isNone && decide (builder.deadline≤now))=true:=by
  rw [decide_eq_false (not_le.mpr hnow),Bool.and_false]
  exact Bool.false_ne_true
 dsimp only
 rw [if_neg hearly,hresult]
 rfl

lemma call_idle {call : MosaicCall} (hchild:MosaicCall.child call=none)
 (hfinishes:MosaicCall.finishes call=false):
 taken (calls++[call])=taken calls ∧ closed (calls++[call])=closed calls:=by
 cases h:closed calls with
 | true=>exact ⟨taken_closed h call,closed_stays h call⟩
 | false=>
  obtain ⟨htaken,hless,-⟩:=taken_open h
  rw [taken_append h,closed_append h,hchild,hfinishes,Option.toList_none,List.append_nil,
   Bool.false_or,htaken]
  exact ⟨rfl,decide_eq_false hless.ne⟩

section
variable (h:Ready outcomes calls builder)
include h

lemma Ready.append {call : MosaicCall}
 (htaken:taken (calls++[call])=taken calls)
 (hclosed:closed (calls++[call])=closed calls):
 Ready outcomes (calls++[call]) builder:=by
 constructor
 · exact h.result
 · rw [h.arrived,files,files,htaken]
 · rw [h.observed,htaken]
 · rw [h.finished,hclosed]
 · exact h.answered
 · exact h.inOrder
 · exact h.narrow

lemma Ready.idle {call : MosaicCall}
 (hchild:MosaicCall.child call=none) (hfinishes:MosaicCall.finishes call=false):
 Ready outcomes (calls++[call]) builder:=
 h.append (call_idle hchild hfinishes).1 (call_idle hchild hfinishes).2

lemma Ready.closed_stays (hclosed:closed calls=true)
 (call : MosaicCall) : Ready outcomes (calls++[call]) builder:=by
 refine h.append (taken_closed hclosed call) ?_
 rw [hclosed]
 exact FolderMosaicTiming.closed_stays hclosed call

lemma pushChild_stage
 (hfew:(inState .image builder.probeChildren).length<kMaximumFolderMosaicCandidates)
 (hnow:now<builder.deadline) (child : FolderMosaicChild):
 Stage outcomes (calls++[.pushChild child now]) (builder.pushChild child now).2:=by
 unfold FolderMosaicBuilder.pushChild
 rw [h.result]
 dsimp only
 rw [expire_before h.result hnow]
 dsimp only
 rw [if_neg Bool.false_ne_true]
 cases hclosed:closed calls with
 | true=>
  rw [h.finished,hclosed,if_pos rfl]
  exact .inl ⟨h.closed_stays hclosed _,hfew⟩
 | false=>
  rw [h.finished,hclosed,if_neg Bool.false_ne_true]
  have htaken:=taken_append hclosed (.pushChild child now)
  have hclosed':=closed_append hclosed (.pushChild child now)
  change taken _=taken calls++[child] at htaken
  change closed _=decide ((taken calls++[child]).length=kMaximumFolderMosaicEntries)
   at hclosed'
  have hfiles:files (calls++[.pushChild child now])=files calls ++
    if builder.observedChildIds.contains child.id || child.kind≠.regularFile then []
    else [child.id]:=by
   rw [files,htaken,arrivals_append,h.observed,List.nil_append]
   rfl
  have hobserved:builder.observedChildIds++[child.id]=
    (taken (calls++[.pushChild child now])).map FolderMosaicChild.id:=by
   rw [htaken,h.observed,List.map_append]
   rfl
  have hfinished:decide ((builder.observedChildIds++[child.id]).length=
    kMaximumFolderMosaicEntries)=closed (calls++[.pushChild child now]):=by
   rw [hclosed',h.observed,List.length_append,List.length_append,List.length_map]
   rfl
  by_cases hduplicate:builder.observedChildIds.contains child.id=true
  · rw [if_pos hduplicate]
    refine Ready.settles ⟨h.result,?_,hobserved,hfinished,h.answered,h.inOrder,h.narrow⟩
    rw [hfiles,hduplicate,Bool.true_or,if_pos rfl,List.append_nil]
    exact h.arrived
  rw [if_neg hduplicate]
  by_cases hkind:child.kind≠.regularFile
  · rw [if_pos hkind]
    refine Ready.settles ⟨h.result,?_,hobserved,hfinished,h.answered,h.inOrder,h.narrow⟩
    rw [hfiles,decide_eq_true hkind,Bool.or_true,if_pos rfl,List.append_nil]
    exact h.arrived
  · rw [if_neg hkind]
    refine Ready.settles ⟨h.result,?_,hobserved,hfinished,?_,?_,?_⟩
    · rw [hfiles,Bool.eq_false_iff.mpr hduplicate,decide_eq_false hkind,Bool.or_false,
       if_neg Bool.false_ne_true]
      change (builder.probeChildren++[ProbeChild.mk child.id .available]).map ProbeChild.id=_
      rw [List.map_append,h.arrived]
      rfl
    · intro other hother
      obtain hother | hother:=List.mem_append.mp hother
      · exact h.answered other hother
      · rw [List.mem_singleton.mp hother]
        exact ⟨nofun,nofun⟩
    · refine List.pairwise_append.mpr ⟨h.inOrder,List.pairwise_singleton _ _,?_⟩
      intro earlier _ later hlater _
      rw [List.mem_singleton.mp hlater]
    · change window (builder.probeChildren++[⟨child.id,.available⟩])≤_
      rw [window_available]
      exact h.narrow

lemma nextProbe_stage
 (hfew:(inState .image builder.probeChildren).length<kMaximumFolderMosaicCandidates)
 (hnow:now<builder.deadline):
 Stage outcomes (calls++[.nextProbe now]) (builder.nextProbe now).2:=by
 have hwindow:window (builder.nextProbe now).2.probeChildren≤_:=
  takes_window h.narrow (.nextProbe now)
 have hresult:¬builder.result.isSome=true:=by
  rw [h.result]
  exact Bool.false_ne_true
 have hidle:Ready outcomes (calls++[.nextProbe now]) builder:=h.idle rfl rfl
 unfold FolderMosaicBuilder.nextProbe at hwindow ⊢
 rw [if_neg hresult,expire_before h.result hnow] at hwindow ⊢
 dsimp only at hwindow ⊢
 rw [if_neg Bool.false_ne_true] at hwindow ⊢
 split at hwindow
 · rename_i hfull
   rw [if_pos hfull]
   exact .inl ⟨hidle,hfew⟩
 · rename_i hroom
   rw [if_neg hroom]
   cases hstarted:startFirst builder.probeChildren with
   | none=>exact hidle.settles
   | some started=>
    obtain ⟨id,children⟩:=started
    rw [hstarted] at hwindow
    obtain ⟨before,child,rest,hchildren,havailable,-,hbefore,rfl⟩:=startFirst_eq_some hstarted
    have hinOrder:=h.inOrder
    have hanswered:=h.answered
    have harrived:=hidle.arrived
    rw [hchildren] at hinOrder hanswered harrived hfew
    obtain ⟨hfirst,hlast,hcross⟩:=List.pairwise_append.mp hinOrder
    refine .inl ⟨⟨h.result,?_,hidle.observed,hidle.finished,?_,?_,hwindow⟩,?_⟩
    · rw [←harrived,List.map_append,List.map_append]
      rfl
    · intro other hother
      obtain hother | hother:=List.mem_append.mp hother
      · exact hanswered other (List.mem_append_left _ hother)
      obtain rfl | hother:=List.mem_cons.mp hother
      · exact ⟨nofun,nofun⟩
      · exact hanswered other (List.mem_append_right _ (List.mem_cons_of_mem _ hother))
    · refine List.pairwise_append.mpr ⟨hfirst,?_,?_⟩
      · refine List.pairwise_cons.mpr ⟨?_,(List.pairwise_cons.mp hlast).2⟩
        intro other _ hpending
        cases hpending
      · intro earlier hearlier later _ hstate
        exact absurd hstate (hbefore earlier hearlier)
    · change (inState .image (before++{ child with state:=.pending }::rest)).length<_
      have himages:inState .image (before++{ child with state:=.pending }::rest)=
        inState .image (before++child::rest):=by
       rw [inState_append,inState_append]
       congr 1
       unfold inState
       rw [List.filter_cons_of_neg,List.filter_cons_of_neg]
       · rw [havailable]
         decide
       · exact Bool.false_ne_true
      rw [himages]
      exact hfew

lemma submitProbe_stage
 (hfew:(inState .image builder.probeChildren).length<kMaximumFolderMosaicCandidates)
 (hnow:now<builder.deadline) {probe : FolderMosaicProbeResult}
 (hprobe:probe.outcome=outcomes probe.childId):
 Stage outcomes (calls++[.submitProbe probe now]) (builder.submitProbe probe now).2:=by
 have hidle:Ready outcomes (calls++[.submitProbe probe now]) builder:=h.idle rfl rfl
 unfold FolderMosaicBuilder.submitProbe
 rw [h.result]
 dsimp only
 rw [expire_before h.result hnow]
 dsimp only
 rw [if_neg Bool.false_ne_true]
 cases hanswer:answerFirst probe builder.probeChildren with
 | none=>exact .inl ⟨hidle,hfew⟩
 | some children=>
  have hnarrow:=le_trans (window_answered hanswer) h.narrow
  obtain ⟨before,child,rest,hchildren,hpending,hid,rfl⟩:=answerFirst_eq_some hanswer
  have hinOrder:=h.inOrder
  have hanswered:=h.answered
  have harrived:=hidle.arrived
  rw [hchildren] at hinOrder hanswered harrived
  obtain ⟨hfirst,hlast,hcross⟩:=List.pairwise_append.mp hinOrder
  have hstarted:∀earlier∈before,earlier.state≠.available:=by
   intro earlier hearlier hstate
   have hnext:=hcross earlier hearlier child List.mem_cons_self hstate
   rw [hpending] at hnext
   cases hnext
  refine Ready.settles ⟨h.result,?_,hidle.observed,hidle.finished,?_,?_,hnarrow⟩
  · rw [←harrived,List.map_append,List.map_append]
    rfl
  · intro other hother
    obtain hother | hother:=List.mem_append.mp hother
    · exact hanswered other (List.mem_append_left _ hother)
    obtain rfl | hother:=List.mem_cons.mp hother
    · unfold Answered
      change (probe.outcome.state=.image → outcomes child.id=.image) ∧
       (probe.outcome.state=.rejected → outcomes child.id≠.image)
      rw [hid,←hprobe]
      cases probe.outcome<;>decide
    · exact hanswered other (List.mem_append_right _ (List.mem_cons_of_mem _ hother))
  · refine List.pairwise_append.mpr ⟨hfirst,?_,?_⟩
    · refine List.pairwise_cons.mpr ⟨?_,(List.pairwise_cons.mp hlast).2⟩
      intro other _ hstate
      change probe.outcome.state=.available at hstate
      cases houtcome:probe.outcome<;>rw [houtcome] at hstate<;>cases hstate
    · intro earlier hearlier later _ hstate
      exact absurd hstate (hstarted earlier hearlier)

lemma finishChildren_stage
 (hnow:now<builder.deadline):
 Stage outcomes (calls++[.finishChildren now]) (builder.finishChildren now):=by
 have hresult:¬builder.result.isSome=true:=by
  rw [h.result]
  exact Bool.false_ne_true
 unfold FolderMosaicBuilder.finishChildren
 rw [if_neg hresult,expire_before h.result hnow]
 dsimp only
 rw [if_neg Bool.false_ne_true]
 have hclosed:closed (calls++[.finishChildren now])=true:=by
  unfold closed
  rw [List.any_append]
  change ((calls.any MosaicCall.finishes || true) || _)=true
  rw [Bool.or_true,Bool.true_or]
 have htaken:taken (calls++[.finishChildren now])=taken calls:=by
  cases hbefore:closed calls with
  | true=>exact taken_closed hbefore _
  | false=>
   rw [taken_append hbefore]
   exact List.append_nil _
 refine Ready.settles ⟨h.result,?_,?_,hclosed.symm,h.answered,h.inOrder,h.narrow⟩
 · rw [files,htaken]
   exact h.arrived
 · rw [htaken]
   exact h.observed

lemma resultAt_stage (hnow:now<builder.deadline):
 Stage outcomes (calls++[.result now]) (builder.resultAt now).2:=by
 have hidle:Ready outcomes (calls++[.result now]) builder:=h.idle rfl rfl
 unfold FolderMosaicBuilder.resultAt
 dsimp only
 have hnone:builder.result.isNone=true:=by
  rw [h.result]
  rfl
 rw [expire_before h.result hnow,if_pos hnone]
 exact hidle.settles

end

/-- The answers that the calls give to probes are those of the children. -/
def Truthful (outcomes : FolderMosaicChildId → FolderMosaicProbeOutcome) : MosaicCall → Prop
 | .submitProbe probe _=>probe.outcome = outcomes probe.childId
 | _=>True

lemma takes_stage (h:Stage outcomes calls builder) {call : MosaicCall}
 (hnow:call.now<builder.deadline) (htruthful:Truthful outcomes call):
 Stage outcomes (calls++[call]) (builder.takes call):=by
 obtain ⟨hready,hfew⟩ | ⟨result,hresult,hsettled⟩:=h
 · cases call with
   | pushChild child now=>exact pushChild_stage hready hfew hnow child
   | nextProbe now=>exact nextProbe_stage hready hfew hnow
   | submitProbe probe now=>exact submitProbe_stage hready hfew hnow htruthful
   | finishChildren now=>exact finishChildren_stage hready hnow
   | result now=>exact resultAt_stage hready hnow
 · rw [takes_decided hresult]
   exact .inr ⟨result,hresult,hsettled.append call⟩

lemma settle_deadline (builder : FolderMosaicBuilder):
 builder.settle.deadline=builder.deadline:=by
 unfold FolderMosaicBuilder.settle
 dsimp only
 split
 · rfl
 split
 · rfl
 split<;>rfl

lemma expire_deadline (builder : FolderMosaicBuilder) (now : TimePoint):
 (builder.expire now).2.deadline=builder.deadline:=by
 unfold FolderMosaicBuilder.expire
 dsimp only
 split<;>rfl

lemma takes_deadline (builder : FolderMosaicBuilder) (call : MosaicCall):
 (builder.takes call).deadline=builder.deadline:=by
 apply takes_keeps (P := fun builder'=>builder'.deadline=builder.deadline) _ _ _ rfl
 · intro builder' now h
   rwa [expire_deadline]
 · intro builder' h
   rwa [settle_deadline]
 · intro builder' observed children started finished h _
   exact h

lemma after_stage {deadline : TimePoint} (hnow:∀call∈calls,call.now<deadline)
 (htruthful:∀call∈calls,Truthful outcomes call):
 Stage outcomes calls (after deadline calls) ∧ (after deadline calls).deadline=deadline:=by
 induction calls using List.reverseRecOn with
 | nil=>
  refine ⟨.inl ⟨⟨rfl,rfl,rfl,rfl,List.forall_mem_nil _,.nil,Nat.zero_le _⟩,?_⟩,rfl⟩
  exact Nat.zero_lt_succ 3
 | append_singleton calls call ih=>
  have hcall:call∈calls++[call]:=List.mem_append_right _ (List.mem_singleton_self call)
  obtain ⟨hstage,hdeadline⟩:=ih
   (fun other hother=>hnow other (List.mem_append_left _ hother))
   fun other hother=>htruthful other (List.mem_append_left _ hother)
  rw [after_append,takes_deadline]
  refine ⟨takes_stage hstage ?_ (htruthful call hcall),hdeadline⟩
  rw [hdeadline]
  exact hnow call hcall

lemma offers_none (h:Stage outcomes calls builder) (hclosed:closed calls=true)
 (hpending:builder.pendingProbes=[]) (hnow:now<builder.deadline)
 (hnone:(builder.nextProbe now).1=none):
 ∃ result,(builder.nextProbe now).2.result=some result ∧ Settled outcomes calls result:=by
 obtain ⟨hready,hfew⟩ | ⟨result,hresult,hsettled⟩:=h
 · have hresult:¬builder.result.isSome=true:=by
    rw [hready.result]
    exact Bool.false_ne_true
   have hlength:(inState .pending builder.probeChildren).length=0:=by
    have hlist:=congrArg List.length hpending
    unfold FolderMosaicBuilder.pendingProbes at hlist
    rw [List.length_take,List.length_map,List.length_nil] at hlist
    unfold kMaximumFolderMosaicCandidates at hlist
    omega
   have hroom:¬(decide (kMaximumFolderMosaicCandidates ≤
     (inState .image builder.probeChildren).length) ||
     decide (kMaximumFolderMosaicCandidates - (inState .image builder.probeChildren).length ≤
      (inState .pending builder.probeChildren).length))=true:=by
    rw [Bool.or_eq_true_iff,decide_eq_true_eq,decide_eq_true_eq]
    omega
   unfold FolderMosaicBuilder.nextProbe at hnone ⊢
   rw [if_neg hresult,expire_before hready.result hnow] at hnone ⊢
   dsimp only at hnone ⊢
   rw [if_neg Bool.false_ne_true,if_neg hroom] at hnone ⊢
   cases hstarted:startFirst builder.probeChildren with
   | some started=>
    rw [hstarted] at hnone
    cases hnone
   | none=>
    have hresolved:builder.probeChildren.any ProbeChild.unresolved=false:=by
     refine List.any_eq_false.mpr ?_
     intro child hchild hunresolved
     have havailable:=startFirst_eq_none hstarted child hchild
     have hmem:child∉inState .pending builder.probeChildren:=by
      rw [List.length_eq_zero_iff.mp hlength]
      exact List.not_mem_nil
     refine hmem (List.mem_filter.mpr ⟨hchild,?_⟩)
     obtain hstate | hstate:=Bool.or_eq_true_iff.mp hunresolved
     · exact absurd (of_decide_eq_true hstate) havailable
     · exact hstate
    have hfinished:builder.childrenFinished=true:=hready.finished.trans hclosed
    have hopen:¬(!builder.childrenFinished ||
      builder.probeChildren.any ProbeChild.unresolved)=true:=by
     rw [hfinished,hresolved]
     exact Bool.false_ne_true
    dsimp only
    unfold FolderMosaicBuilder.settle
    dsimp only
    rw [if_neg hresult,if_neg (not_le.mpr hfew),if_neg hopen]
    exact ⟨_,rfl,hready.exhausted hfew hfinished hresolved⟩
 · have hsame:(builder.nextProbe now).2=builder:=takes_decided hresult (.nextProbe now)
   rw [hsame]
   exact ⟨result,hresult,hsettled⟩

end Stages

def outcomeOf (count : ℕ) : FolderMosaicOutcome:=
 if kMaximumFolderMosaicCandidates ≤ count then .complete
 else if count = 0 then .noCandidates
 else .partialResult

/-- Whatever is called and when, images found and probes outstanding are never more than four.
Before the deadline, once the children are finished, every probe started is answered and no further
probe is offered, the candidates are the first four images among the files that counted. -/
theorem mosaic_of_first_images (deadline : TimePoint)
 (outcomes : FolderMosaicChildId → FolderMosaicProbeOutcome) (calls : List MosaicCall)
 (last : TimePoint):
 window (after deadline calls).probeChildren≤kMaximumFolderMosaicCandidates ∧
  ((∀call∈calls,call.now<deadline) → last<deadline →
   (∀probe now,.submitProbe probe now∈calls → probe.outcome=outcomes probe.childId) →
   (∃ now,.finishChildren now∈calls) → (after deadline calls).pendingProbes=[] →
   ((after deadline calls).nextProbe last).1=none →
   ∃ result,((after deadline calls).nextProbe last).2.result=some result ∧
    result.candidates=(images outcomes calls).take kMaximumFolderMosaicCandidates ∧
    result.outcome=outcomeOf (images outcomes calls).length):=by
 refine ⟨after_window deadline calls,?_⟩
 intro hnow hlast hprobes hfinish hpending hnone
 have htruthful:∀call∈calls,Truthful outcomes call:=by
  intro call hcall
  cases call with
  | submitProbe probe now=>exact hprobes probe now hcall
  | pushChild child now=>trivial
  | nextProbe now=>trivial
  | finishChildren now=>trivial
  | result now=>trivial
 obtain ⟨hstage,hdeadline⟩:=after_stage hnow htruthful
 have hclosed:closed calls=true:=by
  obtain ⟨now,hmem⟩:=hfinish
  unfold closed
  rw [Bool.or_eq_true_iff]
  exact .inl (List.any_eq_true.mpr ⟨_,hmem,rfl⟩)
 rw [←hdeadline] at hlast
 obtain ⟨result,hresult,hsettled⟩:=offers_none hstage hclosed hpending hlast hnone
 refine ⟨result,hresult,?_⟩
 unfold outcomeOf
 obtain ⟨houtcome,hfour,hcandidates⟩ | ⟨-,hfew,hcandidates,houtcome⟩:=hsettled
 · rw [if_pos hfour]
   exact ⟨hcandidates,houtcome⟩
 · rw [if_neg (not_le.mpr hfew),List.take_of_length_le hfew.le]
   exact ⟨hcandidates,houtcome⟩

def photoCalls : List MosaicCall:=
 [.pushChild ⟨1,.regularFile⟩ 0,.pushChild ⟨2,.directory⟩ 0,.pushChild ⟨3,.regularFile⟩ 0,
  .nextProbe 1,.nextProbe 1,.submitProbe ⟨3,.image⟩ 2,.submitProbe ⟨9,.image⟩ 2,
  .finishChildren 2,.submitProbe ⟨1,.image⟩ 3]

theorem mosaic_of_photos : ∃ result,((after 10 photoCalls).nextProbe 4).2.result=some result ∧
  result.candidates=[1,3] ∧ result.outcome=.partialResult:=
 (mosaic_of_first_images 10 (fun _=>.image) photoCalls 4).2 (by decide) (by decide)
  (by
   intro probe now hmem
   simp only [photoCalls,List.mem_cons,reduceCtorEq,MosaicCall.submitProbe.injEq,
    List.not_mem_nil,or_false,false_or] at hmem
   obtain ⟨rfl,-⟩ | ⟨rfl,-⟩ | ⟨rfl,-⟩:=hmem<;>rfl)
  ⟨2,by decide⟩ (by decide) (by decide)

/-- A file pushed after the children are finished counts for nothing. -/
theorem late_file_ignored : ∃ (deadline last : TimePoint) (calls : List MosaicCall),
 (∀call∈calls,call.now<deadline) ∧ last<deadline ∧
  (∀probe now,.submitProbe probe now∈calls → probe.outcome=.image) ∧
  (∃ now,.finishChildren now∈calls) ∧ (after deadline calls).pendingProbes=[] ∧
  ((after deadline calls).nextProbe last).1=none ∧
  ∃ result,((after deadline calls).nextProbe last).2.result=some result ∧
   result.candidates≠(arrivals [] ((calls.filterMap MosaicCall.child).take
    kMaximumFolderMosaicEntries)).take kMaximumFolderMosaicCandidates:=by
 refine ⟨10,4,[.pushChild ⟨1,.regularFile⟩ 0,.finishChildren 0,
  .pushChild ⟨2,.regularFile⟩ 0,.nextProbe 1,.submitProbe ⟨1,.image⟩ 2],
  by decide,by decide,?_,⟨0,by decide⟩,by decide,by decide,?_⟩
 · intro probe now hmem
   simp only [List.mem_cons,reduceCtorEq,MosaicCall.submitProbe.injEq,List.not_mem_nil,
    or_false,false_or] at hmem
   rw [hmem.1]
 · exact ⟨⟨.partialResult,1,[1],makeLayout 1⟩,by decide,by decide⟩

end VoVe.FolderMosaicTiming
