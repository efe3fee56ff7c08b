import Mathlib.Data.List.Induction
import Mathlib.Data.List.Nodup
import VoVe.CachePrune

set_option autoImplicit false

namespace VoVe.CachePruneTruth
open ByteCodec CachePrune

variable {a b oldest : ArtifactIndexRecord} {rest : List ArtifactIndexRecord} {digest : Bytes}
 {result : PruneResult} {state next : State} {events : List Event} {head : Head}

section Ages
variable {index : ArtifactIndex}

lemma notAfter_iff {lhs rhs : ArtifactIndexRecord} : notAfter lhs rhs=true ↔
 lhs.lastAccessUnixNs < rhs.lastAccessUnixNs ∨
  lhs.lastAccessUnixNs=rhs.lastAccessUnixNs ∧ lhs.digestHex ≤ rhs.digestHex:=by
 rw [notAfter,decide_eq_true_eq]

lemma notAfter_trans {c : ArtifactIndexRecord} (hab:notAfter a b=true)
 (hbc:notAfter b c=true) : notAfter a c=true:=by
 rw [notAfter_iff] at hab hbc ⊢
 obtain hlt | ⟨heq,hle⟩:=hab
 · left
   omega
 · obtain hlt | ⟨heq',hle'⟩:=hbc
   · left
     omega
   · exact .inr ⟨heq.trans heq',List.le_trans hle hle'⟩

lemma notAfter_total (a b : ArtifactIndexRecord) : (notAfter a b || notAfter b a)=true:=by
 rw [Bool.or_eq_true,notAfter_iff,notAfter_iff]
 obtain h | h | h:=lt_trichotomy a.lastAccessUnixNs b.lastAccessUnixNs
 · exact .inl (.inl h)
 · exact (List.le_total a.digestHex b.digestHex).imp (fun hle=>.inr ⟨h,hle⟩)
    (fun hle=>.inr ⟨h.symm,hle⟩)
 · exact .inr (.inl h)

lemma digest_of_notAfter (hab:notAfter a b=true) (hba:notAfter b a=true):
 a.digestHex=b.digestHex:=by
 rw [notAfter_iff] at hab hba
 have hle:a.digestHex≤b.digestHex ∧ b.digestHex≤a.digestHex:=by
  constructor
  · obtain h | h:=hab
    · omega
    · exact h.2
  · obtain h | h:=hba
    · omega
    · exact h.2
 exact List.le_antisymm hle.1 hle.2

lemma byAge_perm (index : ArtifactIndex) : index.byAge.Perm index.records:=
 List.mergeSort_perm _ _

lemma byAge_pairwise (index : ArtifactIndex):
 index.byAge.Pairwise fun lhs rhs=>notAfter lhs rhs=true:=by
 apply List.pairwise_mergeSort
 · intro a b c
   exact notAfter_trans
 · exact notAfter_total

lemma byAge_distinct (index : ArtifactIndex):
 (index.byAge.map ArtifactIndexRecord.digestHex).Nodup:=
 ((byAge_perm index).map _).nodup_iff.mpr index.distinct

lemma eq_of_digest (ha:a∈index.records) (hb:b∈index.records)
 (h:a.digestHex=b.digestHex) : a=b:=
 List.inj_on_of_nodup_map index.distinct ha hb h

lemma byAge_erase (index : ArtifactIndex) (digest : Bytes):
 (index.erase digest).byAge=index.byAge.filter (·.digestHex≠digest):=by
 apply List.Perm.eq_of_pairwise _ (byAge_pairwise _) ((byAge_pairwise index).filter _)
 · exact (byAge_perm _).trans ((byAge_perm index).symm.filter _)
 · intro a b ha hb hab hba
   have hleft:=(List.mem_filter.mp ((byAge_perm _).mem_iff.mp ha)).1
   have hright:=(byAge_perm index).mem_iff.mp (List.mem_filter.mp hb).1
   exact eq_of_digest hleft hright (digest_of_notAfter hab hba)

lemma byAge_erase_oldest (h:index.byAge=oldest::rest):
 (index.erase oldest.digestHex).byAge=rest:=by
 have hdistinct:=byAge_distinct index
 rw [h,List.map_cons,List.nodup_cons] at hdistinct
 rw [byAge_erase,h,List.filter_cons_of_neg (by simp only [ne_eq,not_true,decide_false,
  Bool.false_eq_true,not_false_eq_true]),List.filter_eq_self]
 intro record hrecord
 rw [decide_eq_true_eq]
 intro heq
 exact hdistinct.1 (heq ▸ List.mem_map_of_mem hrecord)

lemma length_byAge (index : ArtifactIndex) : index.byAge.length=index.records.length:=
 (byAge_perm index).length_eq

end Ages

variable {event : Event} {code : PruneErrorCode} {m : String} {last : Head}
 {i incomplete : Bool}

section Events
variable {events : List Event}

/-- The digests of the deleted rows, in the order they went. -/
def erasedDigests (events : List Event) : List Bytes:=
 events.filterMap fun
  | .recordErased digest=>some digest
  | _=>none

def lastProbe (events : List Event) : Option ℕ:=
 (events.filterMap fun
  | .probed available=>some available
  | _=>none).getLast?

/-- No row goes before its artifact. -/
def ArtifactsFirst (events : List Event) : Prop:=
 ∀before digest after,events = before++.recordErased digest::after → .artifactGone digest ∈ before

lemma artifactsFirst_snoc (h:ArtifactsFirst events)
 (hevent:∀digest,event=.recordErased digest → .artifactGone digest∈events):
 ArtifactsFirst (events++[event]):=by
 intro before digest after hsplit
 cases after using List.reverseRecOn with
 | nil=>
  obtain ⟨rfl,hlast⟩:=List.append_inj' hsplit rfl
  exact hevent digest (List.head_eq_of_cons_eq hlast)
 | append_singleton after last=>
  rw [←List.cons_append,←List.append_assoc] at hsplit
  exact h before digest after (List.append_inj' hsplit rfl).1

lemma artifactsFirst_other (h:ArtifactsFirst events)
 (hevent:∀digest,event≠.recordErased digest) : ArtifactsFirst (events++[event]):=
 artifactsFirst_snoc h fun digest heq=>absurd heq (hevent digest)

lemma erasedDigests_snoc (digest : Bytes):
 erasedDigests (events++[.recordErased digest])=erasedDigests events++[digest]:=by
 rw [erasedDigests,List.filterMap_append]
 rfl

lemma erasedDigests_gone (digest : Bytes):
 erasedDigests (events++[.artifactGone digest])=erasedDigests events:=by
 rw [erasedDigests,List.filterMap_append]
 exact List.append_nil _

lemma erasedDigests_probed (available : ℕ):
 erasedDigests (events++[.probed available])=erasedDigests events:=by
 rw [erasedDigests,List.filterMap_append]
 exact List.append_nil _

lemma lastProbe_probed (available : ℕ):
 lastProbe (events++[.probed available])=some available:=by
 rw [lastProbe,List.filterMap_append]
 exact List.getLast?_concat

end Events

/-- A prune of an index has deleted its oldest rows so far, each after its artifact. -/
structure Kept (start : ArtifactIndex) (world : World) : Prop where
 oldest : ∃ gone,start.byAge=gone++world.index.byAge ∧
  erasedDigests world.events=gone.map ArtifactIndexRecord.digestHex
 first : ArtifactsFirst world.events

section Calls
variable {env : Environment} {start : ArtifactIndex} {world next : World}

/-- A call that leaves the index and what was done as they are. -/
structure Quiet (world next : World) : Prop where
 index : next.index=world.index
 events : next.events=world.events

lemma Quiet.trans {last : World} (h:Quiet world next) (hnext:Quiet next last):
 Quiet world last:=
 ⟨hnext.index.trans h.index,hnext.events.trans h.events⟩

lemma kept_quiet (h:Kept start world) (hquiet:Quiet world next) : Kept start next:=by
 obtain ⟨holdest,hfirst⟩:=h
 rw [←hquiet.index,←hquiet.events] at holdest
 rw [←hquiet.events] at hfirst
 exact ⟨holdest,hfirst⟩

lemma quiet_call {α : Type} {failed : α} {call : World → α × World}
 (hcall:∀called,Quiet called (call called).2):
 Quiet world (world.indexCall env failed call).2:=by
 unfold World.indexCall
 split
 · exact ⟨rfl,rfl⟩
 · exact ⟨(hcall _).index,(hcall _).events⟩

lemma quiet_find (digest : Bytes) : Quiet world (world.find env digest).2:=
 quiet_call fun _=>⟨rfl,rfl⟩

lemma quiet_count : Quiet world (world.count env).2 := quiet_call fun _=>⟨rfl,rfl⟩

lemma quiet_totalBytes : Quiet world (world.totalBytes env).2 := quiet_call fun _=>⟨rfl,rfl⟩

lemma quiet_oldest (limit : ℕ) : Quiet world (world.oldest env limit).2:=
 quiet_call fun _=>⟨rfl,rfl⟩

lemma quiet_scan (limit : ℕ) : Quiet world (world.scanDigestArtifacts env limit).2:=by
 unfold World.scanDigestArtifacts
 dsimp only
 split
 · exact ⟨rfl,rfl⟩
 · split<;>exact ⟨rfl,rfl⟩

lemma quiet_readCounters (state : State):
 Quiet state.world (readCounters env state).state.world:=
 quiet_count.trans quiet_totalBytes

/-- What a removal in the store leaves: the index, and an entry of what was done where it
succeeded. -/
lemma removal_cases {status : World.RemoveStatus}
 (h:world.removeDigestChecked env digest=(status,next)):
 (∃ m,status=.error m ∧ m ≠ "" ∧ Quiet world next) ∨
  (status=.removed ∨ status=.notFound) ∧ next.index=world.index ∧
   next.events=world.events++[.artifactGone digest]:=by
 unfold World.removeDigestChecked at h
 cases hfailure:world.failure env with
 | some m=>
  rw [hfailure,Prod.mk.injEq] at h
  obtain ⟨rfl,rfl⟩:=h
  exact .inl ⟨m,rfl,env.failure_text _ _ hfailure,rfl,rfl⟩
 | none=>
  simp only [hfailure,Prod.mk.injEq] at h
  obtain ⟨rfl,rfl⟩:=h
  refine .inr ⟨?_,rfl,rfl⟩
  split
  · exact .inl rfl
  · exact .inr rfl

lemma erase_cases {erased : Bool} {record : ArtifactIndexRecord}
 (h:world.erase env record.digestHex=(erased,next))
 (hrecord:record∈world.index.records):
 erased=false ∧ Quiet world next ∨
  erased=true ∧ next.index=world.index.erase record.digestHex ∧
   next.events=world.events++[.recordErased record.digestHex]:=by
 unfold World.erase World.indexCall at h
 cases hfailure:world.failure env with
 | some text=>
  simp only [hfailure,Prod.mk.injEq] at h
  obtain ⟨rfl,rfl⟩:=h
  exact .inl ⟨rfl,rfl,rfl⟩
 | none=>
  have hany:world.index.records.any (·.digestHex=record.digestHex)=true:=
   List.any_eq_true.mpr ⟨record,hrecord,decide_eq_true rfl⟩
  simp only [hfailure,hany,if_true,Prod.mk.injEq] at h
  obtain ⟨rfl,rfl⟩:=h
  exact .inr ⟨rfl,rfl,rfl⟩

lemma kept_gone (h:Kept start world) {digest : Bytes} (hindex:next.index=world.index)
 (hevents:next.events=world.events++[.artifactGone digest]) : Kept start next:=by
 obtain ⟨⟨gone,hages,hgone⟩,hfirst⟩:=h
 refine ⟨⟨gone,by rw [hindex,hages],?_⟩,?_⟩
 · rw [hevents,erasedDigests_gone,hgone]
 · rw [hevents]
   exact artifactsFirst_other hfirst nofun

lemma kept_probed (h:Kept start world) {available : ℕ} (hindex:next.index=world.index)
 (hevents:next.events=world.events++[.probed available]) : Kept start next:=by
 obtain ⟨⟨gone,hages,hgone⟩,hfirst⟩:=h
 refine ⟨⟨gone,by rw [hindex,hages],?_⟩,?_⟩
 · rw [hevents,erasedDigests_probed,hgone]
 · rw [hevents]
   exact artifactsFirst_other hfirst nofun

lemma kept_erased (h:Kept start world) {oldest : ArtifactIndexRecord}
 {rest : List ArtifactIndexRecord} (hages:world.index.byAge=oldest::rest)
 (hgone:.artifactGone oldest.digestHex∈world.events)
 (hindex:next.index=world.index.erase oldest.digestHex)
 (hevents:next.events=world.events++[.recordErased oldest.digestHex]):
 Kept start next:=by
 obtain ⟨⟨before,hbefore,herased⟩,hfirst⟩:=h
 refine ⟨⟨before++[oldest],?_,?_⟩,?_⟩
 · rw [hindex,byAge_erase_oldest hages,hbefore,hages,List.append_assoc,List.singleton_append]
 · rw [hevents,erasedDigests_snoc,herased,List.map_append,List.map_singleton]
 · rw [hevents]
   apply artifactsFirst_snoc hfirst
   intro digest heq
   rw [←Event.recordErased.inj heq]
   exact hgone

end Calls

section Probes
variable {env : Environment} {limits : DiskCacheLimits} {start : ArtifactIndex} {state : State}

def Clean (result : PruneResult) : Prop := result.errorCode = .none ∧ result.error = ""

/-- With a reserve, the flag tells what the last probe found. -/
def Observed (limits : DiskCacheLimits) (state : State) : Prop:=
 limits.minimumFreeBytes≠0 → ∃ available,lastProbe state.world.events = some available ∧
  state.result.minimumFreeSpaceReached = decide (limits.minimumFreeBytes ≤ available)

lemma not_clean (hcode:code≠.none) : ¬Clean (setError result code m):=
 fun h=>hcode h.1

lemma observeSpace_cases (env : Environment) (limits : DiskCacheLimits) {start : ArtifactIndex}
 {state : State} (hkept:Kept start state.world):
 Kept start (observeSpace env limits state).2.world ∧
  (observeSpace env limits state).2.world.index=state.world.index ∧
   ((observeSpace env limits state).1=false ∧ ¬Clean (observeSpace env limits state).2.result ∨
    (observeSpace env limits state).1=true ∧
     (Clean state.result → Clean (observeSpace env limits state).2.result) ∧
      Observed limits (observeSpace env limits state).2):=by
 unfold observeSpace World.probe
 split
 · exact ⟨hkept,rfl,.inl ⟨rfl,not_clean nofun⟩⟩
 · cases herror:(env.spaceProbe state.world).error with
   | some m=>
    simp only [herror]
    exact ⟨kept_quiet hkept ⟨rfl,rfl⟩,trivial,.inl ⟨trivial,not_clean nofun⟩⟩
   | none=>
    simp only [herror]
    refine ⟨kept_probed hkept rfl rfl,trivial,.inr ⟨trivial,?_,?_⟩⟩
    · intro hclean
      split<;>exact hclean
    · intro _
      exact ⟨_,lastProbe_probed _,rfl⟩

end Probes

section Removals
variable {env : Environment} {limits : DiskCacheLimits} {start : ArtifactIndex}

/-- What the removals of a loop keep. -/
structure Progress (start : ArtifactIndex) (limits : DiskCacheLimits) (state next : State):
  Prop where
 kept : Kept start state.world → Kept start next.world
 observed : Observed limits state → Observed limits next
 reached : next.result.minimumFreeSpaceReached=state.result.minimumFreeSpaceReached

lemma Progress.trans {last : State} (h:Progress start limits state next)
 (hnext:Progress start limits next last) : Progress start limits state last:=
 ⟨hnext.kept ∘ h.kept,hnext.observed ∘ h.observed,hnext.reached.trans h.reached⟩

lemma observed_events (hprobe:lastProbe next.world.events=lastProbe state.world.events)
 (hreached:next.result.minimumFreeSpaceReached=state.result.minimumFreeSpaceReached)
 (h:Observed limits state) : Observed limits next:=by
 intro hreserve
 rw [hprobe,hreached]
 exact h hreserve

lemma progress_quiet (h:Quiet state.world next.world)
 (hreached:next.result.minimumFreeSpaceReached=state.result.minimumFreeSpaceReached):
 Progress start limits state next:=
 ⟨fun hkept=>kept_quiet hkept h,observed_events (by rw [h.events]) hreached,hreached⟩

lemma lastProbe_gone (digest : Bytes):
 lastProbe (events++[.artifactGone digest])=lastProbe events:=by
 rw [lastProbe,List.filterMap_append]
 exact congrArg List.getLast? (List.append_nil _)

lemma lastProbe_erased (digest : Bytes):
 lastProbe (events++[.recordErased digest])=lastProbe events:=by
 rw [lastProbe,List.filterMap_append]
 exact congrArg List.getLast? (List.append_nil _)

lemma progress_gone (hindex:next.world.index=state.world.index)
 (hevents:next.world.events=state.world.events++[.artifactGone digest])
 (hreached:next.result.minimumFreeSpaceReached=state.result.minimumFreeSpaceReached):
 Progress start limits state next:=
 ⟨fun hkept=>kept_gone hkept hindex hevents,
  observed_events (by rw [hevents,lastProbe_gone]) hreached,hreached⟩

/-- A part of the prune that deletes no row: it goes on without an error, or stops with one. -/
structure Cleared (start : ArtifactIndex) (limits : DiskCacheLimits) (state : State)
  (outcome : Bool × State) : Prop where
 progress : Progress start limits state outcome.2
 index : outcome.2.world.index=state.world.index
 stops : outcome.1=false → ¬Clean outcome.2.result
 goes : outcome.1=true → Clean state.result → Clean outcome.2.result

lemma Cleared.after {outcome : Bool × State} (h:Progress start limits state next)
 (hindex:next.world.index=state.world.index)
 (hclean:Clean state.result → Clean next.result) (hnext:Cleared start limits next outcome):
 Cleared start limits state outcome:=
 ⟨h.trans hnext.progress,hnext.index.trans hindex,hnext.stops,
  fun hgo hstate=>hnext.goes hgo (hclean hstate)⟩

lemma cleared_stop (h:Progress start limits state next)
 (hindex:next.world.index=state.world.index) (hclean:¬Clean next.result):
 Cleared start limits state (false,next) := ⟨h,hindex,fun _=>hclean,nofun⟩

lemma removeOrphans_cleared (artifacts : List DigestArtifact) (state : State):
 Cleared start limits state (removeOrphans env artifacts state):=by
 induction artifacts generalizing state with
 | nil=>exact ⟨⟨id,id,rfl⟩,rfl,nofun,fun _ h=>h⟩
 | cons artifact rest ih=>
  obtain ⟨found,world,hfound⟩ : ∃ found world,
   state.world.find env artifact.digestHex=(found,world) := ⟨_,_,rfl⟩
  obtain ⟨status,next,hremoval⟩ : ∃ status next,
   world.removeDigestChecked env artifact.digestHex=(status,next) := ⟨_,_,rfl⟩
  have hquiet:Quiet state.world world:=by
   have h:Quiet state.world (state.world.find env artifact.digestHex).2:=quiet_find _
   rwa [hfound] at h
  simp only [removeOrphans,hfound,hremoval]
  split
  · have hprogress:Progress start limits state ⟨world,state.result⟩:=
     progress_quiet hquiet rfl
    exact .after hprogress hquiet.index id (ih _)
  · split
    · exact cleared_stop (progress_quiet hquiet rfl) hquiet.index (not_clean nofun)
    · obtain ⟨m,rfl,-,hfailed⟩ | ⟨hstatus,hindex,hevents⟩:=removal_cases hremoval
      · have hall:=hquiet.trans hfailed
        exact cleared_stop (progress_quiet hall rfl) hall.index (not_clean nofun)
      · have hindex:=hindex.trans hquiet.index
        rw [hquiet.events] at hevents
        have hprogress:∀result : PruneResult,
          result.minimumFreeSpaceReached=state.result.minimumFreeSpaceReached →
           Progress start limits state ⟨next,result⟩:=
         fun _ hreached=>progress_gone hindex hevents hreached
        obtain rfl | rfl:=hstatus
        · refine .after ?_ ?_ ?_ (ih _)
          · exact hprogress _ rfl
          · exact hindex
          · exact id
        · refine .after ?_ ?_ ?_ (ih _)
          · exact hprogress _ rfl
          · exact hindex
          · exact id

/-- The victims of a batch are the oldest rows; what is gone of them is gone artifact first. -/
structure Batch (start : ArtifactIndex) (limits : DiskCacheLimits) (state : State)
  (victims removed : ℕ) (outcome : ℕ × State) : Prop where
 progress : Progress start limits state outcome.2
 records : outcome.2.world.index.records.length+outcome.1=
  state.world.index.records.length+removed
 stops : outcome.2.result.error ≠ "" → ¬Clean outcome.2.result
 goes : outcome.2.result.error = "" → Clean outcome.2.result ∧ outcome.1=removed+victims

lemma batch_stop {removed v : ℕ} (h:Progress start limits state next)
 (hindex:next.world.index=state.world.index) (hcode:code≠.none) (hmessage:m ≠ "")
 :
 Batch start limits state v removed
  (removed,{ next with result:=setError next.result code m }):=
 ⟨⟨h.kept,h.observed,h.reached⟩,by rw [hindex],fun _=>not_clean hcode,
  fun hempty=>absurd hempty hmessage⟩

lemma length_erase {index : ArtifactIndex} (h:index.byAge=oldest::rest):
 (index.erase oldest.digestHex).records.length+1=index.records.length:=by
 rw [←length_byAge,←length_byAge,byAge_erase_oldest h,h,List.length_cons]

lemma removeVictims_batch (v : List ArtifactIndexRecord) (removed : ℕ) (state : State)
 (hclean:Clean state.result) (hvictims:v <+: state.world.index.byAge):
 Batch start limits state v.length removed (removeVictims env v removed state):=by
 induction v generalizing removed state with
 | nil=>exact ⟨⟨id,id,rfl⟩,rfl,fun h _=>h hclean.2,fun _=>⟨hclean,rfl⟩⟩
 | cons victim rest ih=>
  obtain ⟨status,world,hremoval⟩ : ∃ status world,
   state.world.removeDigestChecked env victim.digestHex=(status,world) := ⟨_,_,rfl⟩
  obtain ⟨erased,next,herase⟩ : ∃ erased next,
   world.erase env victim.digestHex=(erased,next) := ⟨_,_,rfl⟩
  obtain ⟨others,hages⟩:=hvictims
  rw [List.cons_append] at hages
  simp only [removeVictims,hremoval,herase]
  obtain ⟨m,rfl,hmessage,hfailed⟩ | ⟨hstatus,hindex,hevents⟩:=removal_cases hremoval
  · dsimp only
    have hprogress:Progress start limits state
      ⟨world,{ state.result with inspected:=state.result.inspected+1 }⟩:=
     progress_quiet hfailed rfl
    exact batch_stop hprogress hfailed.index nofun hmessage
  · have hgone:∀result : PruneResult,
      result.minimumFreeSpaceReached=state.result.minimumFreeSpaceReached →
       Progress start limits state ⟨world,result⟩:=
     fun _ hreached=>progress_gone hindex hevents hreached
    have hrest:∀result : PruneResult,Clean result →
      result.minimumFreeSpaceReached=state.result.minimumFreeSpaceReached →
       Batch start limits state (rest.length+1) removed
        (if erased=true then
         removeVictims env rest (removed+1)
          ⟨next,{ result with indexRecordsRemoved:=result.indexRecordsRemoved+1 }⟩
        else
         (removed,⟨next,setError result .indexRemovalFailed
          (if next.lastError = "" then "failed to erase a selected cache index record"
          else next.lastError)⟩)):=by
     intro result hresult hreached
     have hworld:world.index.byAge=victim::(rest++others):=by rw [hindex,hages]
     have hmember:victim∈world.index.records:=
      (byAge_perm _).mem_iff.mp (hworld ▸ List.mem_cons_self)
     obtain ⟨rfl,hfailed⟩ | ⟨rfl,hnext,hdone⟩:=erase_cases herase hmember
     · have hprogress:Progress start limits state ⟨next,result⟩:=
        (hgone result hreached).trans (progress_quiet hfailed rfl)
       rw [if_neg Bool.false_ne_true]
       refine batch_stop hprogress (hfailed.index.trans hindex) ?_ ?_
       · nofun
       · split
         · nofun
         · assumption
     · have hevent:.artifactGone victim.digestHex∈world.events:=by
        rw [hevents]
        exact List.mem_append_right _ (List.mem_singleton_self _)
       have hprogress:Progress start limits ⟨world,result⟩ ⟨next,{ result with
         indexRecordsRemoved:=result.indexRecordsRemoved+1 }⟩:=
        ⟨fun hkept=>kept_erased hkept hworld hevent hnext hdone,
         observed_events (by rw [hdone,lastProbe_erased]) rfl,rfl⟩
       have hprefix:rest <+: next.index.byAge:=by
        rw [hnext,byAge_erase_oldest hworld]
        exact List.prefix_append _ _
       have hlength:=length_erase hworld
       rw [←hnext,hindex] at hlength
       obtain ⟨hbatch,hrecords,hstops,hgoes⟩:=ih (removed+1) ⟨next,{ result with
        indexRecordsRemoved:=result.indexRecordsRemoved+1 }⟩ hresult hprefix
       refine ⟨((hgone result hreached).trans hprogress).trans hbatch,?_,hstops,?_⟩
       · dsimp only at hrecords
         rw [if_pos rfl,hrecords]
         omega
       · intro hempty
         obtain ⟨hend,hremoved⟩:=hgoes hempty
         refine ⟨hend,?_⟩
         rw [if_pos rfl,hremoved]
         omega
    obtain rfl | rfl:=hstatus
    · exact hrest _ hclean rfl
    · exact hrest _ hclean rfl

end Removals

section Loop
variable {env : Environment} {limits : DiskCacheLimits} {start : ArtifactIndex} {batchLimit : ℕ}

/-- What holds where the loop tests its limits. -/
structure AtHead (start : ArtifactIndex) (limits : DiskCacheLimits) (head:Head) : Prop where
 kept : Kept start head.state.world
 clean : Clean head.state.result
 observed : Observed limits head.state
 read : head.readAt.index=head.state.world.index

lemma noVictims_not_clean (state : State) : ¬Clean (noVictims state).result:=by
 unfold noVictims
 split
 · exact not_clean nofun
 · split<;>exact not_clean nofun

lemma noVictims_world (state : State) : (noVictims state).world=state.world:=by
 unfold noVictims
 split
 · rfl
 · split<;>rfl

/-- What a turn of the loop may come to. -/
inductive Turn (start : ArtifactIndex) (limits : DiskCacheLimits) (head:Head) : Round → Prop
 | leave {state : State} (kept : Kept start state.world) (error : ¬Clean state.result):
   Turn start limits head (.leave state)
 | again {next : Head} (at_head : AtHead start limits next)
   (fewer : next.state.world.index.records.length < head.state.world.index.records.length):
   Turn start limits head (.again next)

lemma oldest_prefix (env : Environment) (world : World) (limit : ℕ):
 (world.oldest env limit).1 <+: (world.oldest env limit).2.index.byAge:=by
 unfold World.oldest World.indexCall
 split
 · exact List.nil_prefix
 · exact List.take_prefix _ _

lemma pruneRound_turn (env : Environment) (batchLimit : ℕ) {head : Head}
 (h:AtHead start limits head):
 Turn start limits head (pruneRound env limits batchLimit head):=by
 unfold pruneRound
 dsimp only
 generalize (if head.entries env - limits.maximumEntries=0 then batchLimit
  else min batchLimit (max 1 (head.entries env - limits.maximumEntries)))=requested
 obtain ⟨v,world,holdest⟩ : ∃ v world,
  head.state.world.oldest env requested=(v,world) := ⟨_,_,rfl⟩
 have hquiet:Quiet head.state.world (head.state.world.oldest env requested).2:=
  quiet_oldest requested
 have hvictims := oldest_prefix env head.state.world requested
 rw [holdest] at hquiet hvictims ⊢
 dsimp only at hquiet hvictims ⊢
 have hkept:=kept_quiet h.kept hquiet
 split
 · exact .leave (by rw [noVictims_world]; exact hkept) (noVictims_not_clean _)
 · rename_i hsome
   obtain ⟨removed,state,hremoved⟩ : ∃ removed state,
    removeVictims env v 0 ⟨world,head.state.result⟩=(removed,state) := ⟨_,_,rfl⟩
   have hbatch:Batch start limits ⟨world,head.state.result⟩ v.length 0
     (removeVictims env v 0 ⟨world,head.state.result⟩):=
    removeVictims_batch v 0 _ h.clean hvictims
   rw [hremoved] at hbatch ⊢
   obtain ⟨hprogress,hrecords,hstops,hgoes⟩:=hbatch
   dsimp only at hprogress hrecords hstops hgoes ⊢
   split
   · exact .leave (hprogress.kept hkept) (hstops ‹_›)
   · rename_i hempty
     obtain ⟨hclean,hall⟩:=hgoes (not_not.mp hempty)
     split
     · exact .leave (hprogress.kept hkept) (not_clean nofun)
     · rename_i hnonzero
       have hread:Quiet state.world (readCounters env state).state.world:=quiet_readCounters state
       have hkept:=kept_quiet (hprogress.kept hkept) hread
       have hworld:Progress start limits head.state ⟨world,head.state.result⟩:=
        progress_quiet hquiet rfl
       have hreading:Progress start limits state (readCounters env state).state:=
        progress_quiet hread rfl
       have hobserved:=hreading.observed (hprogress.observed (hworld.observed h.observed))
       have hfewer:state.world.index.records.length<head.state.world.index.records.length:=by
        rw [hquiet.index] at hrecords
        omega
       split
       · exact .again ⟨hkept,hclean,hobserved,hread.index.symm⟩ (by rwa [hread.index])
       · obtain ⟨hlast,hindex,houtcome⟩:=observeSpace_cases env limits hkept
         obtain ⟨hobserve,herror⟩ | ⟨hobserve,hfine,hprobe⟩:=houtcome
         · rw [hobserve,if_neg Bool.false_ne_true]
           exact .leave hlast herror
         · rw [hobserve,if_pos rfl]
           refine .again ⟨hlast,hfine hclean,hprobe,?_⟩ ?_
           · exact hread.index.symm.trans hindex.symm
           · dsimp only
             rwa [hindex,hread.index]

/-- The tests of the limits a run of the loop comes to. -/
inductive Reached (env : Environment) (limits : DiskCacheLimits) (batchLimit : ℕ):
  Head → Head → Prop
 | here (head:Head) : Reached env limits batchLimit head head
 | later {head next last : Head} (exceeds : head.exceeds env limits = true)
   (round : pruneRound env limits batchLimit head = .again next)
   (rest : Reached env limits batchLimit next last) : Reached env limits batchLimit head last

/-- The loop ends within as many turns as there are rows; without an error it ends at a test that
finds the limits kept. -/
lemma pruneLoop_ends (env : Environment) (batchLimit : ℕ) {head : Head}
 (h:AtHead start limits head) : ∃ final,
 (∀t,head.state.world.index.records.length<t →
  pruneLoop env limits batchLimit t head=some final) ∧
 Kept start final.world ∧
 (Clean final.result → ∃ last,Reached env limits batchLimit head last ∧
  last.exceeds env limits=false ∧ AtHead start limits last ∧ final=last.state):=by
 induction hn : head.state.world.index.records.length using Nat.strong_induction_on
  generalizing head with
 | _ n ih=>
  cases hexceeds:head.exceeds env limits with
  | false=>
   refine ⟨head.state,?_,h.kept,fun _=>⟨head,.here head,hexceeds,h,rfl⟩⟩
   intro t hturns
   obtain ⟨t,rfl⟩:=Nat.exists_eq_add_of_lt hturns
   rw [pruneLoop,hexceeds,if_neg Bool.false_ne_true]
  | true=>
   have hturn:=pruneRound_turn env batchLimit h
   cases hround:pruneRound env limits batchLimit head with
   | leave state=>
    rw [hround] at hturn
    cases hturn with
    | leave kept error=>
     refine ⟨state,?_,kept,fun hclean=>absurd hclean error⟩
     intro t hturns
     obtain ⟨t,rfl⟩:=Nat.exists_eq_add_of_lt hturns
     rw [pruneLoop,hexceeds,if_pos rfl,hround]
   | again next=>
    rw [hround] at hturn
    cases hturn with
    | again hnext fewer=>
     rw [hn] at fewer
     obtain ⟨final,hfinal,hkept,hclean⟩:=ih _ fewer hnext rfl
     refine ⟨final,?_,hkept,?_⟩
     · intro t hturns
       obtain ⟨more,rfl⟩:=Nat.exists_eq_add_of_lt hturns
       rw [pruneLoop,hexceeds,if_pos rfl,hround]
       exact hfinal _ (by omega)
     · intro hfine
       obtain ⟨last,hreached,hend⟩:=hclean hfine
       exact ⟨last,.later hexceeds hround hreached,hend⟩

lemma pruneLoop_reached (h:Reached env limits batchLimit head last)
 (hlast:last.exceeds env limits=false) : ∃ enough,∀t,enough<t →
  pruneLoop env limits batchLimit t head=some last.state:=by
 induction h with
 | here head=>
  refine ⟨0,?_⟩
  intro t hturns
  obtain ⟨t,rfl⟩:=Nat.exists_eq_add_of_lt hturns
  rw [pruneLoop,hlast,if_neg Bool.false_ne_true]
 | later exceeds round rest ih=>
  obtain ⟨enough,hloop⟩:=ih hlast
  refine ⟨enough+1,?_⟩
  intro t hturns
  obtain ⟨more,rfl⟩:=Nat.exists_eq_add_of_lt hturns
  rw [pruneLoop,exceeds,if_pos rfl,round]
  exact hloop _ (by omega)

lemma reached_head (h:Reached env limits batchLimit head last)
 (hhead:AtHead start limits head) : AtHead start limits last:=by
 induction h with
 | here head=>exact hhead
 | later exceeds round rest ih=>
  have hturn:=pruneRound_turn env batchLimit hhead
  rw [round] at hturn
  cases hturn with
  | again hnext _=>exact ih hnext

end Loop

section Reads
variable {env : Environment} {limits : DiskCacheLimits} {start : ArtifactIndex} {head : Head}

/-- The reading of a counter that a failed call answers with zero. -/
def countLost (env : Environment) (head:Head) : Bool := (head.readAt.failure env).isSome

def totalLost (env : Environment) (head:Head) : Bool:=
 ((head.readAt.count env).2.failure env).isSome

/-- Every limit that the rows exceed is hidden by a failed read, and nothing else keeps the loop
going. -/
structure Deceived (env : Environment) (limits : DiskCacheLimits) (head:Head) : Prop where
 entries : countLost env head=true ∨
  head.state.world.index.records.length≤limits.maximumEntries
 bytes : totalLost env head=true ∨ head.state.world.index.artifactBytes≤limits.maximumBytes
 exceeded : limits.maximumEntries<head.state.world.index.records.length ∨
  limits.maximumBytes<head.state.world.index.artifactBytes
 reserve : head.state.result.minimumFreeSpaceReached=true

lemma entries_eq : head.entries env=
 if countLost env head then 0 else head.readAt.index.records.length:=by
 unfold Head.entries World.count World.indexCall countLost
 cases head.readAt.failure env<;>rfl

lemma bytes_eq : head.bytes env=
 if totalLost env head then 0 else head.readAt.index.artifactBytes:=by
 have hindex:(head.readAt.count env).2.index=head.readAt.index:=quiet_count.index
 unfold Head.bytes World.totalBytes totalLost
 rw [World.indexCall,←hindex]
 cases (head.readAt.count env).2.failure env<;>rfl

lemma exceeds_false (h:AtHead start limits head) : head.exceeds env limits=false ↔
 (countLost env head=true ∨ head.state.world.index.records.length≤limits.maximumEntries) ∧
 (totalLost env head=true ∨ head.state.world.index.artifactBytes≤limits.maximumBytes) ∧
 head.state.result.minimumFreeSpaceReached=true:=by
 unfold Head.exceeds
 rw [decide_eq_false_iff_not,not_or,not_or,not_lt,not_lt,entries_eq,bytes_eq,h.read,
  Bool.not_eq_false]
 apply and_congr
 · cases countLost env head<;>simp
 · apply and_congr_left'
   cases totalLost env head<;>simp

end Reads

section Whole
variable (env : Environment) (limits : DiskCacheLimits) (ready : Bool) (batchLimit : ℕ)
 (scanOrphans : Bool) (index : ArtifactIndex) (tree : List TreeEntry) (lastError : String)

/-- The cache a prune finds. -/
def found : World:=
 { index:=index,tree:=tree,lastError:=lastError }

lemma kept_found : Kept index (found index tree lastError):=by
 refine ⟨⟨[],rfl,rfl⟩,?_⟩
 intro before digest after hsplit
 exact absurd hsplit (List.append_ne_nil_of_right_ne_nil _ (List.cons_ne_nil _ _)).symm

variable {env limits ready batchLimit scanOrphans index tree lastError}

/-- The preparation returns early with an error, or comes to the loop. -/
inductive Prepared (start : ArtifactIndex) (limits : DiskCacheLimits) : Preparation → Prop
 | returned {state : State} (kept : Kept start state.world) (error : ¬Clean state.result):
   Prepared start limits (.returned state)
 | looping {head : Head} {incomplete : Bool} (at_head : AtHead start limits head)
   (index : head.state.world.index = start) : Prepared start limits (.looping head incomplete)

lemma configurationError_code
 (h:configurationError limits ready batchLimit scanOrphans lastError=some (code,m)):
 code≠.none:=by
 unfold configurationError at h
 split_ifs at h <;>
 · rw [Option.some.injEq,Prod.mk.injEq] at h
   rw [←h.1]
   nofun

lemma observeWhen_cases {needed go : Bool} (h:observeWhen env limits needed state=(go,next))
 (hkept:Kept index state.world) (hobserved:needed=false → Observed limits state):
 Kept index next.world ∧ next.world.index=state.world.index ∧ (go=false ∧ ¬Clean next.result ∨
   go=true ∧ (Clean state.result → Clean next.result) ∧ Observed limits next):=by
 cases needed with
 | false=>
  obtain ⟨rfl,rfl⟩:=Prod.mk.inj h
  exact ⟨hkept,rfl,.inr ⟨rfl,id,hobserved rfl⟩⟩
 | true=>
  have hcases:=observeSpace_cases env limits hkept
  rw [show observeSpace env limits state=(go,next) from h] at hcases
  exact hcases

lemma startLoop_head (hkept:Kept index state.world) (hclean:Clean state.result)
 (hobserved:Observed limits state) : AtHead index limits (startLoop env state):=by
 have hread:Quiet state.world (readCounters env state).state.world:=quiet_readCounters state
 have hprogress:Progress index limits state (startLoop env state).state:=progress_quiet hread rfl
 exact ⟨hprogress.kept hkept,hclean,hprogress.observed hobserved,hread.index.symm⟩

lemma quiet_scanStore (world : World) : Quiet world (scanStore env limits scanOrphans world).2:=by
 unfold scanStore
 split
 · exact quiet_scan _
 · exact ⟨rfl,rfl⟩

lemma prepareOrphans_prepared (hkept:Kept index state.world)
 (hindex:state.world.index=index) (hclean:Clean state.result)
 (hobserved:Observed limits state):
 Prepared index limits (prepareOrphans env limits scanOrphans state):=by
 obtain ⟨scanned,world,hscan⟩ : ∃ scanned world,
  scanStore env limits scanOrphans state.world=(scanned,world) := ⟨_,_,rfl⟩
 have hquiet:Quiet state.world (scanStore env limits scanOrphans state.world).2:=quiet_scanStore _
 rw [hscan] at hquiet
 have hscanned:Progress index limits state ⟨world,state.result⟩:=progress_quiet hquiet rfl
 unfold prepareOrphans
 rw [hscan]
 dsimp only
 split
 · exact .returned (hscanned.kept hkept) (not_clean nofun)
 have hcleared:Cleared index limits ⟨world,state.result⟩
   (removeOrphans env scanned.artifacts ⟨world,state.result⟩) := removeOrphans_cleared _ _
 cases hremoved:removeOrphans env scanned.artifacts ⟨world,state.result⟩ with
 | mk cleared next=>
  rw [hremoved] at hcleared
  have hprogress:=hscanned.trans hcleared.progress
  cases cleared with
  | false=>exact .returned (hprogress.kept hkept) (hcleared.stops rfl)
  | true=>
   have hfine:=hcleared.goes rfl hclean
   dsimp only
   cases hobserve:observeWhen env limits (limits.minimumFreeBytes≠0 ∧
     next.result.orphanArtifactsRemoved≠0 ∧ next.result.minimumFreeSpaceReached=false) next with
   | mk go last=>
    obtain ⟨hlast,hsame,hgo⟩:=observeWhen_cases hobserve (hprogress.kept hkept)
     (fun _=>hprogress.observed hobserved)
    obtain ⟨rfl,herror⟩ | ⟨rfl,hgoes,hprobe⟩:=hgo
    · exact .returned hlast herror
    · have hread:Quiet last.world (startLoop env last).state.world:=quiet_readCounters last
      refine .looping (startLoop_head hlast (hgoes hfine) hprobe) ?_
      rw [hread.index,hsame,hcleared.index,hquiet.index,hindex]

lemma preparePrune_prepared : Prepared index limits
 (preparePrune env limits ready batchLimit scanOrphans (found index tree lastError)):=by
 have hfound:=kept_found index tree lastError
 unfold preparePrune
 split
 · rename_i hconfiguration
   exact .returned hfound (not_clean (configurationError_code hconfiguration))
 · cases hobserve:observeWhen env limits (limits.minimumFreeBytes≠0)
     ⟨found index tree lastError,{}⟩ with
   | mk go next=>
    obtain ⟨hnext,hsame,hgo⟩:=observeWhen_cases hobserve hfound
     (fun hneeded hreserve=>absurd hreserve (of_decide_eq_false hneeded))
    obtain ⟨rfl,herror⟩ | ⟨rfl,hgoes,hprobe⟩:=hgo
    · exact .returned hnext herror
    · exact prepareOrphans_prepared hnext hsame (hgoes ⟨rfl,rfl⟩) hprobe

lemma finishPrune_quiet (i : Bool) (state : State):
 Quiet state.world (finishPrune env i state).world:=
 quiet_count.trans quiet_totalBytes

lemma ok_iff : result.ok=true ↔ Clean result:=by
 rw [PruneResult.ok,decide_eq_true_eq,Clean]

lemma finishPrune_clean : Clean (finishPrune env i state).result ↔
  i=false ∧ Clean state.result:=by
 unfold finishPrune
 dsimp only
 split
 · rename_i h
   constructor
   · exact fun hclean=>absurd hclean (not_clean nofun)
   · intro hclean
     rw [hclean.1] at h
     exact absurd h.1 nofun
 · rename_i h
   constructor
   · intro hclean
     refine ⟨?_,hclean⟩
     by_contra hincomplete
     exact h ⟨Bool.not_eq_false _ ▸ hincomplete,ok_iff.mpr hclean⟩
   · exact fun hclean=>hclean.2

/-- The limits are kept by what is really left. -/
structure LimitsKept (limits : DiskCacheLimits) (world : World) : Prop where
 entries : world.index.records.length≤limits.maximumEntries
 bytes : world.index.artifactBytes≤limits.maximumBytes
 reserve : limits.minimumFreeBytes≠0 →
  ∃ available,lastProbe world.events=some available ∧ limits.minimumFreeBytes≤available

/-- A prune ends; it has deleted the oldest rows, each after its artifact; and where its result is
without an error the limits are kept. -/
def Truthful (env : Environment) (limits : DiskCacheLimits) (ready : Bool) (batchLimit : ℕ)
  (scanOrphans : Bool) (index : ArtifactIndex) (tree : List TreeEntry) (lastError : String):
  Prop:=
 ∃ final : State, (∀turns,index.records.length < turns →
   pruneDiskCache env limits ready batchLimit scanOrphans (found index tree lastError) turns=
    some final) ∧
  ArtifactsFirst final.world.events ∧
  (∃ gone,index.byAge = gone++final.world.index.byAge ∧
   erasedDigests final.world.events = gone.map ArtifactIndexRecord.digestHex) ∧
  (final.result.ok = true → LimitsKept limits final.world)

/-- Some test of the loop is deceived, and nothing after the loop reports an error. -/
def DeceivedRun (env : Environment) (limits : DiskCacheLimits) (ready : Bool) (batchLimit : ℕ)
  (scanOrphans : Bool) (world : World) : Prop:=
 ∃ head last,preparePrune env limits ready batchLimit scanOrphans world = .looping head false ∧
  Reached env limits batchLimit head last ∧ Deceived env limits last

lemma limitsKept_iff {start : ArtifactIndex} (h:AtHead start limits last)
 (hexceeds:last.exceeds env limits=false):
 LimitsKept limits last.state.world ↔ ¬Deceived env limits last:=by
 obtain ⟨hentries,hbytes,hreserve⟩:=(exceeds_false h).mp hexceeds
 constructor
 · intro hkept hdeceived
   obtain hmore | hmore:=hdeceived.exceeded
   · exact absurd hkept.entries (not_le.mpr hmore)
   · exact absurd hkept.bytes (not_le.mpr hmore)
 · intro hnot
   have hwithin:last.state.world.index.records.length≤limits.maximumEntries ∧
     last.state.world.index.artifactBytes≤limits.maximumBytes:=by
    by_contra hmore
    rw [not_and_or,not_le,not_le] at hmore
    exact hnot ⟨hentries,hbytes,hmore,hreserve⟩
   refine ⟨hwithin.1,hwithin.2,?_⟩
   intro hconfigured
   obtain ⟨available,hprobe,hreached⟩:=h.observed hconfigured
   rw [hreserve] at hreached
   exact ⟨available,hprobe,of_decide_eq_true hreached.symm⟩

lemma limitsKept_quiet {world next : World} (h:Quiet world next):
 LimitsKept limits next ↔ LimitsKept limits world:=by
 constructor
 · intro hkept
   obtain ⟨hentries,hbytes,hreserve⟩:=hkept
   rw [h.index] at hentries hbytes
   rw [h.events] at hreserve
   exact ⟨hentries,hbytes,hreserve⟩
 · intro hkept
   obtain ⟨hentries,hbytes,hreserve⟩:=hkept
   rw [←h.index] at hentries hbytes
   rw [←h.events] at hreserve
   exact ⟨hentries,hbytes,hreserve⟩

lemma prune_looping {enough : ℕ} {final : State}
 (h:preparePrune env limits ready batchLimit scanOrphans (found index tree lastError)=
  .looping head i) (hloop:∀t,enough<t →
  pruneLoop env limits batchLimit t head=some final):
 ∀t,enough<t → pruneDiskCache env limits ready batchLimit scanOrphans
  (found index tree lastError) t=some (finishPrune env i final):=by
 intro t hturns
 rw [pruneDiskCache,h]
 dsimp only
 rw [hloop t hturns,Option.map_some]

lemma truthful_of_not_deceived
 (h:¬DeceivedRun env limits ready batchLimit scanOrphans (found index tree lastError)):
 Truthful env limits ready batchLimit scanOrphans index tree lastError:=by
 have hprepared:Prepared index limits (preparePrune env limits ready batchLimit scanOrphans
  (found index tree lastError)) := preparePrune_prepared
 cases hrun:preparePrune env limits ready batchLimit scanOrphans
   (found index tree lastError) with
 | returned state=>
  rw [hrun] at hprepared
  cases hprepared with
  | returned kept error=>
   refine ⟨state,?_,kept.first,kept.oldest,fun hok=>absurd (ok_iff.mp hok) error⟩
   intro t _
   rw [pruneDiskCache,hrun]
 | looping head i=>
  rw [hrun] at hprepared
  cases hprepared with
  | looping hhead hindex=>
   obtain ⟨final,hloop,hkept,hend⟩:=pruneLoop_ends env batchLimit hhead
   rw [hindex] at hloop
   have hquiet:Quiet final.world (finishPrune env i final).world:=finishPrune_quiet i final
   have hkept:=kept_quiet hkept hquiet
   refine ⟨_,prune_looping hrun hloop,hkept.first,hkept.oldest,?_⟩
   intro hok
   obtain ⟨rfl,hclean⟩:=finishPrune_clean.mp (ok_iff.mp hok)
   obtain ⟨last,hreached,hexceeds,hlast,rfl⟩:=hend hclean
   rw [limitsKept_quiet hquiet,limitsKept_iff hlast hexceeds]
   intro hdeceived
   exact h ⟨head,last,hrun,hreached,hdeceived⟩

lemma not_truthful_of_deceived
 (h:DeceivedRun env limits ready batchLimit scanOrphans (found index tree lastError)):
 ¬Truthful env limits ready batchLimit scanOrphans index tree lastError:=by
 intro htruthful
 obtain ⟨head,last,hrun,hreached,hdeceived⟩:=h
 have hprepared:Prepared index limits (preparePrune env limits ready batchLimit scanOrphans
  (found index tree lastError)) := preparePrune_prepared
 rw [hrun] at hprepared
 cases hprepared with
 | looping hhead hindex=>
  have hlast:=reached_head hreached hhead
  have hexceeds:last.exceeds env limits=false:=
   (exceeds_false hlast).mpr ⟨hdeceived.entries,hdeceived.bytes,hdeceived.reserve⟩
  obtain ⟨enough,hloop⟩:=pruneLoop_reached hreached hexceeds
  obtain ⟨final,hfinal,-,-,hok⟩:=htruthful
  have hturns:=hfinal (max enough index.records.length+1) (by omega)
  rw [prune_looping hrun hloop _ (by omega),Option.some.injEq] at hturns
  have hclean:Clean (finishPrune env false last.state).result:=
   finishPrune_clean.mpr ⟨rfl,hlast.clean⟩
  have hkept:=hok (by rw [←hturns]; exact ok_iff.mpr hclean)
  rw [←hturns,limitsKept_quiet (finishPrune_quiet false last.state),
   limitsKept_iff hlast hexceeds] at hkept
  exact hkept hdeceived

/-- The result of a prune may be believed exactly where no failed read of a counter deceives the
test of the loop. -/
theorem prune_truthful_iff (env : Environment) (limits : DiskCacheLimits) (ready : Bool)
 (batchLimit : ℕ) (scanOrphans : Bool) (index : ArtifactIndex) (tree : List TreeEntry)
 (lastError : String):
 Truthful env limits ready batchLimit scanOrphans index tree lastError ↔
  ¬DeceivedRun env limits ready batchLimit scanOrphans (found index tree lastError):=
 ⟨fun htruthful hdeceived=>not_truthful_of_deceived hdeceived htruthful, truthful_of_not_deceived⟩

end Whole

/-- The first call fails: `count()` of an index with one row. -/
def busyEnvironment : Environment where
 failure call := if call = 0 then some "count: database is locked" else none
 failure_text:=by
  intro call text h
  split at h
  · rw [←Option.some.inj h]
    decide
  · exact absurd h nofun
 spaceProbe _ := {}

def oneRow : ArtifactIndex := ⟨[⟨[97],1,0⟩],List.nodup_singleton _⟩

/-- A prune to no entries reports success and leaves the row, because its count was not read. -/
theorem busyIndex_not_pruned:
 ¬Truthful busyEnvironment { maximumEntries:=0 } true 256 false oneRow [] "":=by
 apply not_truthful_of_deceived
 refine ⟨_,_,rfl,.here _,?_⟩
 exact ⟨.inl rfl,.inr (by decide),.inl (by decide),rfl⟩

end VoVe.CachePruneTruth
