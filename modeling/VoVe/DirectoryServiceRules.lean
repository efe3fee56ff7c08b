import VoVe.DirectoryService

set_option autoImplicit false

namespace VoVe.DirectoryService
open CatalogOrder CatalogTypes

def entriesOf (batches : List CatalogBatch) : List DirectoryEntry := batches.flatMap (·.entries)

@[simp] lemma entriesOf_nil : entriesOf []=[] := rfl

@[simp] lemma entriesOf_singleton (b : CatalogBatch) : entriesOf [b]=b.entries:=by
 simp [entriesOf]

@[simp] lemma entriesOf_append (front back : List CatalogBatch):
 entriesOf (front++back)=entriesOf front++entriesOf back:=by
 simp [entriesOf]

variable (recursive : Bool)

def isReport (batch : CatalogBatch) : Bool := recursive && progressReport batch

/-- The batches that are not progress reports. -/
def listing (batches : List CatalogBatch) : List CatalogBatch:=
 batches.filter (!isReport recursive ·)

lemma isReport_final (b : CatalogBatch) (last : b.isFinal=true):
 isReport recursive b=false:=by
 simp [isReport,progressReport,last]

variable {recursive isFinal done : Bool} {b batch : CatalogBatch} {attempt attempt' : Attempt}
 {produced accepted read : List DirectoryEntry} {publisher : Publisher}
 {active : RequestGeneration} {i : ℕ} {s shared shared' : Shared}
 {input : WorkerInput} {result : Shared × Attempt} {worker : WorkerPhase}
 {lost : List CatalogBatch} {expired : Option Bool}

lemma isReport_facts (r : isReport recursive b=true) : b.entries=[] ∧ b.isFinal=false:=by
 simp only [isReport,progressReport,Bool.and_eq_true,decide_eq_true_eq, Bool.not_eq_true'] at r
 exact ⟨r.2.1.1.1,r.2.1.1.2⟩

@[simp] lemma listing_nil (recursive : Bool) : listing recursive []=[] := rfl

@[simp] lemma listing_append (recursive : Bool) (front back : List CatalogBatch):
 listing recursive (front++back)=listing recursive front++listing recursive back:=by
 simp [listing]

lemma listing_kept (kept : isReport recursive b=false) : listing recursive [b]=[b]:=by
 simp [listing,kept]

lemma listing_report (r : isReport recursive b=true) : listing recursive [b]=[]:=by
 simp [listing,r]

lemma entriesOf_listing (recursive : Bool) (batches : List CatalogBatch):
 entriesOf (listing recursive batches)=entriesOf batches:=by
 induction batches with
 | nil=>rfl
 | cons b rest ih=>
  have both:b::rest=[b]++rest:=rfl
  rw [both,listing_append,entriesOf_append,entriesOf_append,ih]
  cases r:isReport recursive b with
  | false=>rw [listing_kept r]
  | true=>simp [listing_report r,(isReport_facts r).1]

def Carried (accepted stream : List CatalogBatch) : Prop:=
 ∃ front last carried,stream = front++[last] ∧ accepted = front++carried ∧
  carried.length ≤ 1 ∧ entriesOf carried = last.entries ∧ last.isFinal = true ∧
  ∀batch ∈ front,batch.isFinal = false

lemma Carried.entries {accepted stream : List CatalogBatch} (carried : Carried accepted stream):
 entriesOf stream=entriesOf accepted:=by
 obtain ⟨front,last,rest,rfl,rfl,-,same,-⟩:=carried
 simp [same]

lemma Carried.final {accepted stream : List CatalogBatch} (carried : Carried accepted stream):
 ∃ b∈stream,b.isFinal=true:=by
 obtain ⟨front,last,rest,rfl,-,-,-,final,-⟩:=carried
 exact ⟨last,by simp,final⟩

lemma Carried.last {accepted before after : List CatalogBatch} {b : CatalogBatch}
 (carried : Carried accepted (before++b::after)) (final : b.isFinal=true):
 after=[]:=by
 obtain ⟨front,last,rest,split,-,-,-,-,plain⟩:=carried
 rcases List.eq_nil_or_concat after with none | ⟨after,end_,rfl⟩
 · exact none
 · have same:before++b::after=front:=by
    rw [List.concat_eq_append,←List.cons_append,←List.append_assoc] at split
    exact (List.append_inj' split rfl).1
   have:=plain b (by simp [←same])
   rw [final] at this
   cases this

/-! ## The transport thread and what it has read -/

/-- Whether all that was read has been accepted, or the batch under way is final. -/
def Even (publisher : Publisher) (isFinal : Bool) (accepted produced : List DirectoryEntry):
  Prop:=
 match publisher with
 | .frame=>isFinal = false → accepted = produced
 | .failure _=>isFinal = true

/-- The entries read and accepted by a transport thread, by where it stands. -/
def PhaseOk (attempt : Attempt) (produced accepted : List DirectoryEntry) : Prop:=
 match attempt.worker with
 | .publishing batch publisher=>
  attempt.pendingBatch = none ∧ batch.generation = attempt.generation ∧
   accepted++batch.entries <+: produced ∧
   Even publisher batch.isFinal (accepted++batch.entries) produced
 | .waiting isFinal publisher=>
  (∀batch ∈ attempt.pendingBatch,batch.generation = attempt.generation ∧
   batch.isFinal = isFinal ∧ isReport attempt.recursive batch = false) ∧
   accepted <+: produced ∧ Even publisher isFinal accepted produced
 | .failing _ _ | .drafting _ _ | .draining _ | .finishing | .retiring | .ended=>
  attempt.pendingBatch = none ∧ accepted <+: produced
 | .notStarted | .starting | .attaching | .writing | .looping | .reading=>
  attempt.pendingBatch = none ∧ accepted = produced

lemma phaseOk_prefix (ok : PhaseOk attempt produced accepted) : accepted <+: produced:=by
 unfold PhaseOk at ok
 split at ok
 · exact (List.prefix_append _ _).trans ok.2.2.1
 · exact ok.2.1
 all_goals first | exact ok.2 | exact ok.2 ▸ List.prefix_rfl

lemma phaseOk_afterPublish {published : Bool}
 (phase : attempt.worker=afterPublish publisher isFinal published)
 (handed:attempt.pendingBatch=none) (read : accepted <+: produced)
 (even : published=true → Even publisher isFinal accepted produced):
 PhaseOk attempt produced accepted:=by
 unfold PhaseOk
 rw [phase]
 cases publisher with
 | failure e=>cases e<;>exact ⟨handed,read⟩
 | frame=>
  cases published with
  | false=>exact ⟨handed,read⟩
  | true=>
   cases isFinal with
   | true=>exact ⟨handed,read⟩
   | false=>exact ⟨handed,even rfl rfl⟩

lemma phaseOk_unpublished (phase : attempt.worker=afterPublish publisher isFinal false)
 (handed:attempt.pendingBatch=none) (read : accepted <+: produced):
 PhaseOk attempt produced accepted:=
 phaseOk_afterPublish phase handed read (fun absurd=>by cases absurd)

lemma phaseOk_waitForSpace (active : RequestGeneration) (s : Shared) (attempt : Attempt)
 (isFinal : Bool) (publisher : Publisher) (produced accepted : List DirectoryEntry)
 (ok : PhaseOk { attempt with worker:=.waiting isFinal publisher } produced accepted):
 PhaseOk (waitForSpace active s attempt isFinal publisher).2 produced accepted:=by
 obtain ⟨held,read,even⟩:=ok
 unfold waitForSpace
 split
 · unfold enqueuePending
   split
   · exact phaseOk_unpublished rfl rfl read
   · split
     next empty => exact phaseOk_unpublished rfl empty read
     · exact phaseOk_afterPublish rfl rfl read (fun _=>even)
 · exact ⟨held,read,even⟩

lemma entriesWithinBounds_prefix (limit : UInt64) (entries : List DirectoryEntry):
 ∀received metadata,(entriesWithinBounds limit received metadata entries).1 <+: entries:=by
 induction entries with
 | nil=>intro received metadata; exact List.prefix_rfl
 | cons entry rest ih=>
  intro received metadata
  simp only [entriesWithinBounds]
  split
  · exact List.nil_prefix
  · exact List.cons_prefix_cons.mpr ⟨rfl,ih _ _⟩

lemma phaseOk_receiveBatch (attempt : Attempt) (b : CatalogBatch)
 (produced : List DirectoryEntry) (reading : attempt.worker=.reading)
 (handed:attempt.pendingBatch=none):
 PhaseOk (receiveBatch attempt b)
  (produced++entriesOf (producedBy attempt (.decoded b))) produced:=by
 unfold receiveBatch
 split
 · exact ⟨handed,List.prefix_append _ _⟩
 next own =>
  have own:b.generation=attempt.generation:=by simpa using own
  simp only [producedBy,reading,own,and_self,if_true,entriesOf_singleton]
  split
  · have within := entriesWithinBounds_prefix (recursiveEntryLimit attempt.request)
     b.entries attempt.receivedEntries attempt.receivedMetadataBytes
    refine ⟨handed,rfl,List.prefix_append_right_inj produced |>.mpr within,?_⟩
    intro plain
    simp only [Bool.or_eq_false_iff,decide_eq_false_iff_not,not_not] at plain
    rw [within.eq_of_length plain.2]
  · exact ⟨handed,own,List.prefix_rfl,fun _=>rfl⟩

@[simp] lemma stamped_entries (attempt : Attempt) (b : CatalogBatch):
 (stamped attempt b).entries=b.entries := rfl

@[simp] lemma stamped_isFinal (attempt : Attempt) (b : CatalogBatch):
 (stamped attempt b).isFinal=b.isFinal := rfl

@[simp] lemma stamped_generation (attempt : Attempt) (b : CatalogBatch):
 (stamped attempt b).generation=b.generation := rfl

/-! The ways through the first section of `publish_batch`. -/

section Publishing
variable (i : ℕ) {active : RequestGeneration} (s shared : Shared)
 {attempt : Attempt} {b batch : CatalogBatch} (publisher : Publisher) (l : Bool)

lemma publishBatch_refused (accepts : acceptedBy active attempt=[])
 (phase : attempt.worker=.publishing b publisher):
 publishBatch i active s attempt b publisher l=
  (s,{ attempt with worker:=afterPublish publisher b.isFinal false }):=by
 have guard:(!attemptIsCurrent active attempt || attempt.terminalPublished)=true:=by
  have published:attemptIsCurrent active attempt=true → attempt.terminalPublished=true:=by
   simpa [acceptedBy,phase] using accepts
  cases current:attemptIsCurrent active attempt with
  | false=>rfl
  | true=>simp [published current]
 simp only [publishBatch,guard,if_true]

variable (current : attemptIsCurrent active attempt = true)
 (unpublished : attempt.terminalPublished = false)
include current unpublished

lemma acceptedBy_taken (phase : attempt.worker=.publishing b publisher):
 acceptedBy active attempt=[stamped attempt b]:=by
 simp [acceptedBy,phase,current,unpublished]

lemma publishBatch_late (overdue : (attempt.recursive && l)=true):
 publishBatch i active s attempt b publisher l=publishTimeout i active s
   { attempt with
     pendingBatch:=some b
     timedOut:=true
     worker:=afterPublish publisher b.isFinal false } true:=by
 simp only [publishBatch,current,unpublished,overdue,Bool.not_true,Bool.or_false,
  Bool.false_eq_true,if_false,if_true]

lemma publishBatch_report (inTime : (attempt.recursive && l)=false)
 (r : isReport attempt.recursive (stamped attempt b)=true):
 publishBatch i active s attempt b publisher l=
  ({ s with progressBatch:=some (stamped attempt b) },
   { observed attempt b with worker:=afterPublish publisher b.isFinal true }):=by
 rw [isReport] at r
 simp only [publishBatch,current,unpublished,inTime,r,Bool.not_true,Bool.or_false,
  Bool.false_eq_true,if_false,if_true]

lemma publishBatch_kept (inTime : (attempt.recursive && l)=false)
 (kept : isReport attempt.recursive (stamped attempt b)=false):
 publishBatch i active s attempt b publisher l=
  waitForSpace active { s with progressBatch:=none }
   { observed attempt b with pendingBatch:=some (stamped attempt b) }
   b.isFinal publisher:=by
 rw [isReport] at kept
 simp only [publishBatch,current,unpublished,inTime,kept,Bool.not_true,Bool.or_false,
  Bool.false_eq_true,if_false]

end Publishing

lemma publishTimeout_current (i : ℕ) (s : Shared) (attempt : Attempt)
 (total : Bool):
 ∃ b : CatalogBatch,b.generation=attempt.generation ∧ b.isFinal=true ∧
  b.entries=entriesOf attempt.pendingBatch.toList ∧
  publishTimeout i attempt.generation s attempt total=
   ({ s with terminalBatch:=some b,progressBatch:=none },
    { attempt with pendingBatch:=none,terminalPublished:=true }):=by
 refine ⟨_,rfl,rfl,?_,by simp only [publishTimeout,ne_eq,not_true_eq_false,if_false]; rfl⟩
 cases attempt.pendingBatch with
 | none=>rfl
 | some b=>simp

lemma accepted_or_refused (active : RequestGeneration) (attempt : Attempt):
 acceptedBy active attempt=[] ∨
  (attemptIsCurrent active attempt=true ∧ attempt.terminalPublished=false):=by
 unfold acceptedBy
 split
 · split
   next taken => exact .inr (by simpa using taken)
   · exact .inl rfl
 · exact .inl rfl

lemma generation_of_current (current : attemptIsCurrent active attempt=true):
 active=attempt.generation:=by
 simp only [attemptIsCurrent,Bool.and_eq_true,decide_eq_true_eq] at current
 exact current.2

lemma uncancelled_of_current (current : attemptIsCurrent active attempt=true):
 attempt.cancelled=false:=by
 simp only [attemptIsCurrent,Bool.and_eq_true,Bool.not_eq_true'] at current
 exact current.1.2

lemma phaseOk_publishBatch (i : ℕ) (active : RequestGeneration)
 (s : Shared) (attempt : Attempt) (b : CatalogBatch) (publisher : Publisher)
 (l : Bool) (produced accepted : List DirectoryEntry)
 (phase : attempt.worker=.publishing b publisher)
 (ok : PhaseOk attempt produced accepted):
 PhaseOk (publishBatch i active s attempt b publisher l).2
  produced (accepted++entriesOf (acceptedBy active attempt)):=by
 simp only [PhaseOk,phase] at ok
 obtain ⟨handed,own,read,even⟩:=ok
 have fits:accepted <+: produced:=(List.prefix_append _ _).trans read
 obtain refused | ⟨current,unpublished⟩:=accepted_or_refused active attempt
 · rw [publishBatch_refused _ _ _ _ refused phase,refused,entriesOf_nil,List.append_nil]
   exact phaseOk_unpublished rfl handed fits
 rw [acceptedBy_taken publisher current unpublished phase,entriesOf_singleton,stamped_entries]
 cases overdue:attempt.recursive && l with
 | true=>
  rw [publishBatch_late _ _ _ _ current unpublished overdue,generation_of_current current]
  obtain ⟨final,-,-,-,result⟩:=publishTimeout_current i s
   { attempt with
     pendingBatch:=some b
     timedOut:=true
     worker:=afterPublish publisher b.isFinal false } true
  exact result ▸ phaseOk_unpublished rfl rfl read
 | false=>
  cases kept:isReport attempt.recursive (stamped attempt b) with
  | true=>
   rw [publishBatch_report _ _ _ _ current unpublished overdue kept]
   exact phaseOk_afterPublish rfl handed read (fun _=>even)
  | false=>
   rw [publishBatch_kept _ _ _ _ current unpublished overdue kept]
   apply phaseOk_waitForSpace
   refine ⟨?_,read,even⟩
   intro held member
   cases member
   exact ⟨own,rfl,kept⟩

/-! ## One step of the transport thread -/

/-- The thread has published all it has read. -/
def WorkerPhase.upToDate : WorkerPhase → Bool
 | .notStarted | .starting | .attaching | .writing | .looping | .reading=>true
 | _=>false

/-- The thread publishes nothing more but a failure to wait for the helper. -/
def WorkerPhase.settled : WorkerPhase → Bool
 | .draining _ | .finishing | .retiring | .ended=>true
 | _=>false

def WorkerPhase.inPublish : WorkerPhase → Bool
 | .publishing _ _ | .waiting _ _=>true
 | _=>false

/-- A step outside of `publish_batch` that is not the receipt of a frame. -/
structure QuietMove (active : RequestGeneration) (attempt : Attempt) (worker : WorkerPhase)
  (done : Bool) : Prop where
 outside : attempt.worker.inPublish=false
 running : attempt.worker≠.notStarted
 notWaiting : ∀isFinal publisher,worker≠.waiting isFinal publisher
 failure : ∀batch publisher,worker=.publishing batch publisher →
  ∃ error ending,batch=failureBatch attempt error ∧ publisher=.failure ending
 upToDate : worker.upToDate=true → attempt.worker.upToDate=true
 settled : worker.settled=true →
  attempt.worker.settled=true ∨ attemptIsCurrent active attempt=false
 done : done=true → attempt.done=true ∨ attempt.worker.settled=true

def SameSlots (shared shared' : Shared) : Prop:=
 shared'.batches = shared.batches ∧ shared'.terminalBatch = shared.terminalBatch ∧
  shared'.progressBatch = shared.progressBatch

lemma workerStep_cases
 (step : workerStep i active s attempt input=some result):
 (∃ b publisher l,attempt.worker=.publishing b publisher ∧ input=.clock l ∧
  result=publishBatch i active s attempt b publisher l) ∨
 (∃ isFinal publisher,attempt.worker=.waiting isFinal publisher ∧ input=.proceed ∧
  result=waitForSpace active s attempt isFinal publisher) ∨
 (∃ b,attempt.worker=.reading ∧ input=.decoded b ∧ result=(s,receiveBatch attempt b)) ∨
 (producedBy attempt input=[] ∧ SameSlots s result.1 ∧ ∃ worker done,
  QuietMove active attempt worker done ∧
   result.2={ attempt with worker:=worker,done:=done }):=by
 unfold workerStep at step
 split at step
 case h_8 b phase =>
  exact .inr (.inr (.inl ⟨b,phase,rfl,(Option.some.inj step).symm⟩))
 case h_9 b publisher l phase =>
  exact .inl ⟨b,publisher,l,phase,rfl,(Option.some.inj step).symm⟩
 case h_10 isFinal publisher phase =>
  exact .inr (.inl ⟨isFinal,publisher,phase,rfl,(Option.some.inj step).symm⟩)
 case h_11 error e phase =>
  obtain rfl:=Option.some.inj step
  refine .inr (.inr (.inr ⟨rfl,⟨rfl,rfl,rfl⟩,_,_,?_,rfl⟩))
  cases current:attemptIsCurrent active attempt<;>cases e<;>constructor <;>
   simp [phase,current,afterPublish,WorkerPhase.inPublish,WorkerPhase.upToDate,
    WorkerPhase.settled]
 case h_13 receivedFinal exitCode waitError phase =>
  obtain rfl:=Option.some.inj step
  refine .inr (.inr (.inr ⟨rfl,⟨rfl,rfl,rfl⟩,_,_,?_,rfl⟩))
  cases !receivedFinal && attemptIsCurrent active attempt && exitCode≠0 &&
   waitError≠[]<;>constructor <;>
   simp [phase,WorkerPhase.inPublish,WorkerPhase.upToDate,WorkerPhase.settled]
 case h_21 => cases step
 all_goals
  obtain rfl:=Option.some.inj step
  rename_i phase
  refine .inr (.inr (.inr ⟨rfl,⟨rfl,rfl,rfl⟩,_,_,?_,rfl⟩))
  cases current:attemptIsCurrent active attempt<;>constructor <;>
   simp [phase,current,WorkerPhase.inPublish,WorkerPhase.upToDate,WorkerPhase.settled]

lemma acceptedBy_outside (active : RequestGeneration) {attempt : Attempt}
 (outside : ∀b publisher,attempt.worker≠.publishing b publisher):
 acceptedBy active attempt=[]:=by
 unfold acceptedBy
 split
 next phase => exact absurd phase (outside _ _)
 · rfl

lemma QuietMove.notPublishing (quiet : QuietMove active attempt worker done)
 (b : CatalogBatch) (publisher : Publisher):
 attempt.worker≠.publishing b publisher:=by
 intro phase
 have outside:=quiet.outside
 rw [phase] at outside
 cases outside

lemma QuietMove.holdsNothing (quiet : QuietMove active attempt worker done)
 (ok : PhaseOk attempt produced accepted) : attempt.pendingBatch=none:=by
 have outside:=quiet.outside
 unfold PhaseOk at ok
 cases phase:attempt.worker<;>rw [phase] at ok outside
 case publishing => cases outside
 case waiting => cases outside
 all_goals exact ok.1

lemma phaseOk_upToDate (ok : PhaseOk attempt produced accepted)
 (upToDate : attempt.worker.upToDate=true) : accepted=produced:=by
 unfold PhaseOk at ok
 cases phase:attempt.worker<;>rw [phase] at ok upToDate <;>
  first | exact ok.2 | cases upToDate

lemma phaseOk_quiet (quiet : QuietMove active attempt worker done)
 (ok : PhaseOk attempt produced accepted):
 PhaseOk { attempt with worker:=worker,done:=done } produced accepted:=by
 have handed:=quiet.holdsNothing ok
 have read := phaseOk_prefix ok
 have even:=fun upToDate=>phaseOk_upToDate ok (quiet.upToDate upToDate)
 unfold PhaseOk
 cases phase:worker with
 | publishing b publisher=>
  obtain ⟨error,e,rfl,rfl⟩:=quiet.failure _ _ phase
  exact ⟨handed,rfl,by simpa [failureBatch] using read,rfl⟩
 | waiting isFinal publisher=>exact absurd phase (quiet.notWaiting _ _)
 | failing | drafting | draining | finishing | retiring | ended=>exact ⟨handed,read⟩
 | notStarted | starting | attaching | writing | looping | reading=>
  exact ⟨handed,even (by rw [phase]; rfl)⟩

lemma phaseOk_workerStep (ok : PhaseOk attempt produced accepted)
 (step : workerStep i active s attempt input=some result):
 PhaseOk result.2 (produced++entriesOf (producedBy attempt input))
  (accepted++entriesOf (acceptedBy active attempt)):=by
 obtain ⟨b,publisher,l,phase,rfl,rfl⟩ | ⟨isFinal,publisher,phase,rfl,rfl⟩ |
  ⟨b,phase,rfl,rfl⟩ | ⟨none,-,worker,done,quiet,same⟩ := workerStep_cases step
 · simp only [producedBy,entriesOf_nil,List.append_nil]
   exact phaseOk_publishBatch _ _ _ _ _ _ _ _ _ phase ok
 · simp only [acceptedBy,producedBy,phase,entriesOf_nil,List.append_nil]
   apply phaseOk_waitForSpace
   simp only [PhaseOk,phase] at ok
   exact ok
 · simp only [acceptedBy,phase,entriesOf_nil,List.append_nil]
   have even:=phaseOk_upToDate ok (by rw [phase]; rfl)
   simp only [PhaseOk,phase] at ok
   exact even ▸ phaseOk_receiveBatch attempt b produced phase ok.1
 · rw [none,acceptedBy_outside active quiet.notPublishing,same]
   simpa using phaseOk_quiet quiet ok

/-! ## An open and a closed listing -/

/-- All slots hold batches of one request, progress reports in their own slot. -/
structure Owned (generation : RequestGeneration) (recursive : Bool) (shared : Shared) : Prop where
 batches : ∀batch∈shared.batches,
  batch.generation=generation ∧ isReport recursive batch=false
 terminal : ∀batch∈shared.terminalBatch,
  batch.generation=generation ∧ isReport recursive batch=false
 progress : ∀batch∈shared.progressBatch,
  batch.generation=generation ∧ isReport recursive batch=true

/-- No final batch has been queued. -/
structure Open (recursive : Bool) (attempt : Attempt) (shared : Shared)
  (delivered accepted : List CatalogBatch) : Prop where
 unpublished : attempt.terminalPublished=false
 inTime : attempt.timedOut=false
 notDone : attempt.done=false
 started : attempt.cancelled=true → attempt.worker=.notStarted
 unsettled : attempt.worker.settled=false
 holding : ∀isFinal publisher,attempt.worker=.waiting isFinal publisher →
  attempt.pendingBatch≠none
 nonfinal : ∀batch∈delivered,batch.isFinal=false
 queued : ∀batch∈shared.batches,batch.isFinal=false
 noTerminal : shared.terminalBatch=none
 stream : listing recursive delivered++shared.batches++attempt.pendingBatch.toList=
  listing recursive accepted

/-- The final batch is the last one, queued or delivered. -/
structure Closed (recursive : Bool) (attempt : Option Attempt) (shared : Shared)
  (delivered accepted : List CatalogBatch) : Prop where
 stopped : ∀a∈attempt,a.terminalPublished=true ∨ a.cancelled=true
 handed : ∀a∈attempt,a.pendingBatch=none
 quiet : shared.progressBatch=none
 carried : Carried (listing recursive accepted)
  (listing recursive delivered++shared.batches++shared.terminalBatch.toList)
 once : (∀batch∈delivered,batch.isFinal=false) ∨
  (shared.batches=[] ∧ shared.terminalBatch=none)
 ordered : delivered.Pairwise fun earlier _=>earlier.isFinal=false

/-- The listing that is current. -/
structure Live (generation : RequestGeneration) (recursive : Bool) (attempt : Option Attempt)
  (shared : Shared) (delivered accepted : List CatalogBatch) : Prop where
 owned : Owned generation recursive shared
 state : (∃ a,attempt=some a ∧ Open recursive a shared delivered accepted) ∨
  Closed recursive attempt shared delivered accepted

lemma ordered_of_nonfinal {d : List CatalogBatch}
 (n : ∀b∈d,b.isFinal=false):
 d.Pairwise fun earlier _=>earlier.isFinal=false:=by
 induction d with
 | nil=>exact .nil
 | cons b rest ih=>
  rw [List.forall_mem_cons] at n
  exact .cons (fun _ _=>n.1) (ih n.2)

section Listing
variable {generation : RequestGeneration} {recursive : Bool} {attempt : Attempt}
 {s shared : Shared} {d delivered accepted : List CatalogBatch}

lemma Open.current (o : Open recursive attempt s d accepted)
 (running : attempt.worker≠.notStarted):
 attemptIsCurrent attempt.generation attempt=true:=by
 cases cancelled:attempt.cancelled with
 | true=>exact absurd (o.started cancelled) running
 | false=>simp [attemptIsCurrent,o.inTime,cancelled]

lemma carried_of_nonfinal {batches : List CatalogBatch} {last : CatalogBatch}
 (n : ∀b∈d,b.isFinal=false)
 (queued : ∀b∈batches,b.isFinal=false)
 (stream : listing recursive d++batches++lost=listing recursive accepted)
 (short : lost.length≤1) (same : entriesOf lost=last.entries) (final : last.isFinal=true):
 Carried (listing recursive accepted) (listing recursive d++batches++[last]):=by
 refine ⟨_,last,lost,rfl,stream.symm,short,same,final,?_⟩
 intro b member
 obtain member | member:=List.mem_append.mp member
 · exact n b (List.mem_filter.mp member).1
 · exact queued b member

lemma live_publishTimeout {total : Bool}
 (timeout : result=publishTimeout i generation s attempt total)
 (here:generation=attempt.generation) (owned : Owned generation recursive s)
 (n : ∀b∈d,b.isFinal=false)
 (queued : ∀b∈s.batches,b.isFinal=false)
 (stream : listing recursive d++s.batches++lost=listing recursive accepted)
 (short : lost.length≤1) (same : entriesOf lost=entriesOf attempt.pendingBatch.toList):
 Live generation recursive (some result.2) result.1 d accepted:=by
 subst here
 obtain ⟨last,own,final,entries,equation⟩:=publishTimeout_current i s attempt total
 rw [equation] at timeout
 subst timeout
 constructor
 · constructor
   · exact owned.batches
   · intro b member
     cases member
     exact ⟨own,isReport_final recursive last final⟩
   · intro b member
     cases member
 · right
   constructor
   · intro a member
     cases member
     exact .inl rfl
   · intro a member
     cases member
     rfl
   · rfl
   · exact carried_of_nonfinal n queued stream short (same.trans entries.symm) final
   · exact .inl n
   · exact ordered_of_nonfinal n

lemma live_waitForSpace (wait : result=waitForSpace generation s attempt isFinal publisher)
 (here:generation=attempt.generation) (owned : Owned generation recursive s)
 (o : Open recursive { attempt with worker:=.waiting isFinal publisher } s
  d accepted) (holds:attempt.pendingBatch=some b)
 (last : b.isFinal=isFinal) (own : b.generation=attempt.generation)
 (kept : isReport recursive b=false)
 (failure : ∀e,publisher=.failure e → isFinal=true):
 Live generation recursive (some result.2) result.1 d accepted:=by
 subst here
 have current:attemptIsCurrent attempt.generation attempt=true:=
  o.current (fun absurd=>by cases absurd)
 subst last
 unfold waitForSpace at wait
 split at wait
 · simp only [enqueuePending,current,Bool.not_true,Bool.false_eq_true,if_false,holds] at wait
   have stream:=o.stream
   rw [holds] at stream
   cases final:b.isFinal with
   | true=>
    subst wait
    constructor
    · constructor
      · intro other member
        obtain member | member:=List.mem_append.mp member
        · exact owned.batches other member
        · obtain rfl:=List.mem_singleton.mp member
          exact ⟨own,kept⟩
      · exact owned.terminal
      · intro other member
        rw [if_pos final] at member
        cases member
    · right
      constructor
      · intro a member
        cases member
        exact .inl (by rw [final,Bool.or_true])
      · intro a member
        cases member
        rfl
      · exact if_pos final
      · have noTerminal:s.terminalBatch=none:=o.noTerminal
        rw [noTerminal,Option.toList_none,List.append_nil,←List.append_assoc]
        exact carried_of_nonfinal o.nonfinal o.queued stream (by simp) (by simp) final
      · exact .inl o.nonfinal
      · exact ordered_of_nonfinal o.nonfinal
   | false=>
    have fromFrame:publisher=.frame:=by
     cases publisher with
     | frame=>rfl
     | failure e=>exact absurd (failure e rfl) (by rw [final]; nofun)
    subst fromFrame wait
    constructor
    · constructor
      · intro other member
        obtain member | member:=List.mem_append.mp member
        · exact owned.batches other member
        · obtain rfl:=List.mem_singleton.mp member
          exact ⟨own,kept⟩
      · exact owned.terminal
      · intro other member
        rw [if_neg (by rw [final]; nofun)] at member
        exact owned.progress other member
    · refine .inl ⟨_,rfl,?_⟩
      constructor
      · simpa [final] using o.unpublished
      · exact o.inTime
      · exact o.notDone
      · exact fun cancelled=>absurd (o.started cancelled) nofun
      · simp [afterPublish,final,WorkerPhase.settled]
      · intro f p absurd
        simp [afterPublish,final] at absurd
      · exact o.nonfinal
      · intro other member
        obtain member | member:=List.mem_append.mp member
        · exact o.queued other member
        · obtain rfl:=List.mem_singleton.mp member
          exact final
      · exact o.noTerminal
      · simpa using stream
 · subst wait
   exact ⟨owned,.inl ⟨_,rfl,o⟩⟩

lemma SameSlots.owned {shared' : Shared} (same : SameSlots s shared')
 (owned : Owned generation recursive s) : Owned generation recursive shared':=by
 obtain ⟨batches,terminal,progress⟩:=same
 exact ⟨batches ▸ owned.batches,terminal ▸ owned.terminal,progress ▸ owned.progress⟩

lemma Closed.stays {before after : Option Attempt}
 (closed : Closed recursive before s d accepted) (same : SameSlots s shared')
 (stopped : ∀a∈after,a.terminalPublished=true ∨ a.cancelled=true)
 (handed:∀a∈after,a.pendingBatch=none):
 Closed recursive after shared' d accepted:=by
 obtain ⟨batches,terminal,progress⟩:=same
 constructor
 · exact stopped
 · exact handed
 · rw [progress]
   exact closed.quiet
 · rw [batches,terminal]
   exact closed.carried
 · rw [batches,terminal]
   exact closed.once
 · exact closed.ordered

lemma Open.sameSlots (o : Open recursive attempt s d accepted)
 (same : SameSlots s shared') : Open recursive attempt shared' d accepted:=by
 obtain ⟨batches,terminal,-⟩:=same
 refine ⟨o.1,o.2,o.3,o.4,o.5,o.6,o.7,?_,?_,?_⟩
 · rw [batches]
   exact o.queued
 · rw [terminal]
   exact o.noTerminal
 · rw [batches]
   exact o.stream

lemma SameSlots.trans {first second third : Shared} (front : SameSlots first second)
 (back : SameSlots second third) : SameSlots first third:=
 ⟨back.1.trans front.1,back.2.1.trans front.2.1,back.2.2.trans front.2.2⟩

lemma Open.stays (o : Open recursive attempt s d accepted)
 (same : SameSlots s shared')
 (published : attempt'.terminalPublished=attempt.terminalPublished)
 (timedOut : attempt'.timedOut=attempt.timedOut)
 (pending : attempt'.pendingBatch=attempt.pendingBatch) (done : attempt'.done=false)
 (started : attempt'.cancelled=true → attempt'.worker=.notStarted)
 (unsettled : attempt'.worker.settled=false)
 (notWaiting : ∀isFinal publisher,attempt'.worker≠.waiting isFinal publisher):
 Open recursive attempt' shared' d accepted:=by
 have moved:=o.sameSlots same
 refine ⟨published.trans moved.unpublished,timedOut.trans moved.inTime,done,started,unsettled,
  fun isFinal publisher absurd_=>absurd absurd_ (notWaiting _ _),moved.nonfinal,
  moved.queued,moved.noTerminal,?_⟩
 rw [pending]
 exact moved.stream

lemma receiveBatch_keeps (attempt : Attempt) (b : CatalogBatch):
 (receiveBatch attempt b).terminalPublished=attempt.terminalPublished ∧
  (receiveBatch attempt b).timedOut=attempt.timedOut ∧
  (receiveBatch attempt b).pendingBatch=attempt.pendingBatch ∧
  (receiveBatch attempt b).done=attempt.done ∧
  (receiveBatch attempt b).cancelled=attempt.cancelled ∧
  (receiveBatch attempt b).worker.settled=false ∧
  ∀isFinal publisher,(receiveBatch attempt b).worker≠.waiting isFinal publisher:=by
 unfold receiveBatch
 split
 · simp [WorkerPhase.settled]
 · split<;>simp [WorkerPhase.settled]

lemma closed_workerStep (closed : Closed recursive (some attempt) s d accepted)
 (step : workerStep i generation s attempt input=some result):
 acceptedBy generation attempt=[] ∧ SameSlots s result.1 ∧
  Closed recursive (some result.2) result.1 d accepted:=by
 have stopped:=closed.stopped attempt rfl
 have handed:=closed.handed attempt rfl
 have refused:acceptedBy generation attempt=[]:=by
  obtain refused | ⟨current,unpublished⟩:=accepted_or_refused generation attempt
  · exact refused
  · rw [unpublished,uncancelled_of_current current] at stopped
    simp at stopped
 refine ⟨refused,?_⟩
 obtain ⟨b,publisher,l,phase,rfl,rfl⟩ | ⟨isFinal,publisher,phase,rfl,rfl⟩ |
  ⟨b,phase,rfl,rfl⟩ | ⟨-,same,worker,done,-,equal⟩ := workerStep_cases step
 · rw [publishBatch_refused _ _ _ _ refused phase]
   refine ⟨⟨rfl,rfl,rfl⟩,closed.stays ⟨rfl,rfl,rfl⟩ ?_ ?_⟩
   · intro a member
     cases member
     exact stopped
   · intro a member
     cases member
     exact handed
 · have quiet:∃ worker,waitForSpace generation s attempt isFinal publisher=
     (s,{ attempt with worker:=worker }):=by
    unfold waitForSpace
    split
    · unfold enqueuePending
      split
      · exact ⟨afterPublish publisher isFinal false,by rw [handed]⟩
      · exact ⟨afterPublish publisher isFinal false,by simp only [handed]⟩
    · exact ⟨_,rfl⟩
   obtain ⟨worker,equal⟩:=quiet
   rw [equal]
   refine ⟨⟨rfl,rfl,rfl⟩,closed.stays ⟨rfl,rfl,rfl⟩ ?_ ?_⟩
   · intro a member
     cases member
     exact stopped
   · intro a member
     cases member
     exact handed
 · obtain ⟨published,-,pending,-,cancelled,-⟩:=receiveBatch_keeps attempt b
   refine ⟨⟨rfl,rfl,rfl⟩,closed.stays ⟨rfl,rfl,rfl⟩ ?_ ?_⟩
   · intro a member
     cases member
     rw [published,cancelled]
     exact stopped
   · intro a member
     cases member
     rw [pending]
     exact handed
 · refine ⟨same,closed.stays same ?_ ?_⟩
   · intro a member
     cases member
     rw [equal]
     exact stopped
   · intro a member
     cases member
     rw [equal]
     exact handed

lemma live_publishing {l : Bool} (phase : attempt.worker=.publishing b publisher)
 (ok : PhaseOk attempt produced read) (owned : Owned attempt.generation attempt.recursive s)
 (o : Open attempt.recursive attempt s d accepted) (result : Shared × Attempt)
 (publish : result=publishBatch i attempt.generation s attempt b
  publisher l):
 Live attempt.generation attempt.recursive (some result.2) result.1 d
  (accepted++acceptedBy attempt.generation attempt):=by
 have current:=o.current (by rw [phase]; nofun)
 have unpublished:=o.unpublished
 simp only [PhaseOk,phase] at ok
 obtain ⟨handed,own,-,even⟩:=ok
 have failure:∀e,publisher=.failure e → b.isFinal=true:=by
  intro e same
  subst same
  exact even
 have stream:=o.stream
 rw [handed,Option.toList_none,List.append_nil] at stream
 rw [acceptedBy_taken publisher current unpublished phase]
 have taken:listing attempt.recursive d++s.batches ++
   listing attempt.recursive [stamped attempt b]=
    listing attempt.recursive (accepted++[stamped attempt b]):=by
  rw [stream,listing_append]
 cases overdue:attempt.recursive && l with
 | true=>
  rw [publishBatch_late _ _ _ _ current unpublished overdue] at publish
  refine live_publishTimeout publish rfl owned o.nonfinal o.queued taken
   (List.length_filter_le _ _) ?_
  rw [entriesOf_listing]
  rfl
 | false=>
  cases kept:isReport attempt.recursive (stamped attempt b) with
  | true=>
   have fromFrame:publisher=.frame:=by
    cases publisher with
    | frame=>rfl
    | failure e=>
     have plain:=(isReport_facts kept).2
     rw [stamped_isFinal,failure e rfl] at plain
     cases plain
   rw [publishBatch_report _ _ _ _ current unpublished overdue kept] at publish
   subst publish fromFrame
   have plain:b.isFinal=false:=(isReport_facts kept).2
   constructor
   · refine ⟨owned.batches,owned.terminal,?_⟩
     intro other member
     cases member
     exact ⟨own,kept⟩
   · refine .inl ⟨_,rfl,unpublished,o.inTime,o.notDone,?_,?_,?_,
      o.nonfinal,o.queued,o.noTerminal,?_⟩
     · intro cancelled
       have:=o.started cancelled
       rw [phase] at this
       cases this
     · simp [afterPublish,plain,WorkerPhase.settled]
     · intro isFinal publisher absurd_
       simp [afterPublish,plain] at absurd_
     · rw [listing_append,listing_report kept,List.append_nil]
       exact o.stream
  | false=>
   rw [publishBatch_kept _ _ _ _ current unpublished overdue kept] at publish
   refine live_waitForSpace publish rfl ⟨owned.batches,owned.terminal,?_⟩ ?_ rfl rfl own kept
    failure
   · intro other member
     cases member
   · refine ⟨unpublished,o.inTime,o.notDone,?_,rfl,fun _ _ _=>nofun,
      o.nonfinal,o.queued,o.noTerminal,?_⟩
     · intro cancelled
       have:=o.started cancelled
       rw [phase] at this
       cases this
     · rw [listing_kept kept] at taken
       exact taken

lemma live_workerStep (ok : PhaseOk attempt produced read)
 (live : Live attempt.generation attempt.recursive (some attempt) s d accepted)
 (step : workerStep i attempt.generation s attempt input=some result):
 Live attempt.generation attempt.recursive (some result.2) result.1 d
  (accepted++acceptedBy attempt.generation attempt):=by
 obtain ⟨owned,⟨attempt,same,o⟩ | closed⟩:=live
 · cases same
   obtain ⟨b,publisher,l,phase,rfl,publish⟩ |
    ⟨isFinal,publisher,phase,rfl,wait⟩ | ⟨b,phase,rfl,receive⟩ |
    ⟨none,same,worker,done,quiet,equal⟩ := workerStep_cases step
   · exact live_publishing phase ok owned o result publish
   · have handed:=o.holding isFinal publisher phase
     obtain ⟨b,holds⟩:=Option.ne_none_iff_exists'.mp handed
     rw [acceptedBy_outside _ (by rw [phase]; nofun),List.append_nil]
     simp only [PhaseOk,phase] at ok
     obtain ⟨own,last,kept⟩:=ok.1 b holds
     refine live_waitForSpace wait rfl owned ?_ holds last own kept ?_
     · rw [←phase]
       exact o
     · intro e failed
       subst failed
       exact ok.2.2
   · rw [acceptedBy_outside _ (by rw [phase]; nofun),List.append_nil]
     subst receive
     obtain ⟨published,timedOut,pending,done,cancelled,unsettled,notWaiting⟩:=
      receiveBatch_keeps attempt b
     refine ⟨owned,.inl ⟨_,rfl,o.stays ⟨rfl,rfl,rfl⟩ published timedOut pending
      (done.trans o.notDone) ?_ unsettled notWaiting⟩⟩
     intro stopped
     rw [cancelled] at stopped
     have:=o.started stopped
     rw [phase] at this
     cases this
   · rw [acceptedBy_outside _ quiet.notPublishing,List.append_nil,equal]
     have current:=o.current quiet.running
     have unsettled:worker.settled=false:=by
      by_contra settled
      have:=quiet.settled (by simpa using settled)
      rw [o.unsettled,current] at this
      simp at this
     have notDone:done=false:=by
      by_contra finished
      have:=quiet.done (by simpa using finished)
      rw [o.notDone,o.unsettled] at this
      simp at this
     refine ⟨same.owned owned,.inl ⟨_,rfl,o.stays same rfl rfl rfl notDone ?_ unsettled
      quiet.notWaiting⟩⟩
     intro stopped
     exact absurd (o.started stopped) quiet.running
 · obtain ⟨refused,same,closed⟩:=closed_workerStep closed step
   rw [refused,List.append_nil]
   exact ⟨same.owned owned,.inr closed⟩

lemma monitorStep_cases
 (step : monitorStep i active s attempt expired=some result):
 (∃ monitor,result=(s,{ attempt with monitor:=monitor })) ∨
 (attemptIsCurrent active attempt=true ∧ attempt.terminalPublished=false ∧ ∃ total,
  result=publishTimeout i active s
   { attempt with timedOut:=true,monitor:=.ended } total):=by
 unfold monitorStep at step
 split at step
 · cases step
 split at step
 · exact .inl ⟨_,(Option.some.inj step).symm⟩
 next watching =>
  split at step
  · exact .inl ⟨attempt.monitor,(Option.some.inj step).symm⟩
  · simp only [Bool.or_eq_true,not_or,Bool.not_eq_true,Bool.not_eq_false'] at watching
    exact .inr ⟨watching.1.1,watching.2,_,(Option.some.inj step).symm⟩

lemma closed_monitorStep (closed : Closed recursive (some attempt) s d accepted)
 (step : monitorStep i generation s attempt expired=some result):
 result.1=s ∧ Closed recursive (some result.2) result.1 d accepted:=by
 have stopped:=closed.stopped attempt rfl
 obtain ⟨monitor,rfl⟩ | ⟨current,unpublished,-⟩:=monitorStep_cases step
 · exact ⟨rfl,closed.stays ⟨rfl,rfl,rfl⟩ (fun a member=>by cases member; exact stopped)
    (fun a member=>by cases member; exact closed.handed attempt rfl)⟩
 · rw [unpublished,uncancelled_of_current current] at stopped
   simp at stopped

lemma live_monitorStep
 (live : Live attempt.generation attempt.recursive (some attempt) s d accepted)
 (step : monitorStep i attempt.generation s attempt expired=some result):
 Live attempt.generation attempt.recursive (some result.2) result.1 d accepted:=by
 obtain ⟨owned,⟨attempt,same,o⟩ | closed⟩:=live
 · cases same
   obtain ⟨monitor,rfl⟩ | ⟨-,-,total,timeout⟩:=monitorStep_cases step
   · exact ⟨owned,.inl ⟨_,rfl,o.1,o.2,o.3,o.4,o.5,o.6, o.7,o.8,o.9,o.10⟩⟩
   · refine live_publishTimeout timeout rfl owned o.nonfinal o.queued o.stream
      ?_ rfl
     cases attempt.pendingBatch<;>simp
 · obtain ⟨same,closed⟩:=closed_monitorStep closed step
   exact ⟨same ▸ owned,.inr closed⟩

end Listing

/-- The monitor and the caller leave the transport thread where it is, and only take a
pending batch away. -/
lemma PhaseOk.stays (ok : PhaseOk attempt produced accepted)
 (worker : attempt'.worker=attempt.worker) (request : attempt'.request=attempt.request)
 (pending : attempt'.pendingBatch=attempt.pendingBatch ∨ attempt'.pendingBatch=none):
 PhaseOk attempt' produced accepted:=by
 have handed:attempt.pendingBatch=none → attempt'.pendingBatch=none:=by
  intro none
  obtain same | none:=pending
  · exact same.trans none
  · exact none
 unfold PhaseOk at ok ⊢
 rw [worker,Attempt.generation,Attempt.recursive,request]
 cases phase:attempt.worker<;>rw [phase] at ok
 case waiting =>
  refine ⟨?_,ok.2⟩
  intro b member
  obtain same | none:=pending
  · exact ok.1 b (same ▸ member)
  · rw [none] at member
    cases member
 all_goals exact ⟨handed ok.1,ok.2⟩

lemma publishTimeout_keeps (i : ℕ) (active : RequestGeneration)
 (s : Shared) (attempt : Attempt) (total : Bool):
 (publishTimeout i active s attempt total).2.worker=attempt.worker ∧
  (publishTimeout i active s attempt total).2.request=attempt.request ∧
  ((publishTimeout i active s attempt total).2.pendingBatch=attempt.pendingBatch ∨
   (publishTimeout i active s attempt total).2.pendingBatch=none):=by
 unfold publishTimeout
 split
 · exact ⟨rfl,rfl,.inl rfl⟩
 · exact ⟨rfl,rfl,.inr rfl⟩

lemma phaseOk_monitorStep (ok : PhaseOk attempt produced accepted)
 (step : monitorStep i active s attempt expired=some result):
 PhaseOk result.2 produced accepted:=by
 obtain ⟨monitor,rfl⟩ | ⟨-,-,total,rfl⟩:=monitorStep_cases step
 · exact ok.stays rfl rfl (.inl rfl)
 · obtain ⟨worker,request,pending⟩:=publishTimeout_keeps i active s
    { attempt with timedOut:=true,monitor:=.ended } total
   exact ok.stays worker request pending

lemma waitForSpace_request (active : RequestGeneration) (s : Shared)
 (attempt : Attempt) (isFinal : Bool) (publisher : Publisher):
 (waitForSpace active s attempt isFinal publisher).2.request=attempt.request:=by
 unfold waitForSpace
 split
 · unfold enqueuePending
   split
   · rfl
   · split<;>rfl
 · rfl

lemma workerStep_request
 (step : workerStep i active s attempt input=some result):
 result.2.request=attempt.request:=by
 obtain ⟨b,publisher,l,phase,rfl,rfl⟩ | ⟨isFinal,publisher,phase,rfl,rfl⟩ |
  ⟨b,phase,rfl,rfl⟩ | ⟨-,-,worker,done,-,equal⟩ := workerStep_cases step
 · unfold publishBatch
   split
   · rfl
   split
   · exact (publishTimeout_keeps _ _ _ _ _).2.1
   dsimp only
   split
   · rfl
   · exact waitForSpace_request _ _ _ _ _
 · exact waitForSpace_request _ _ _ _ _
 · unfold receiveBatch
   split
   · rfl
   · split<;>rfl
 · rw [equal]

end VoVe.DirectoryService
