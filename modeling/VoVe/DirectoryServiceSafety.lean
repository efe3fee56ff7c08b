import VoVe.DirectoryServiceRules

set_option autoImplicit false

namespace VoVe.DirectoryService
open CatalogOrder CatalogTypes

variable (generation : RequestGeneration)

def ofGeneration (batches : List CatalogBatch):
  List CatalogBatch := batches.filter (·.generation = generation)

@[simp] lemma ofGeneration_append
 (front back : List CatalogBatch):
 ofGeneration generation (front++back)=
  ofGeneration generation front++ofGeneration generation back:=by
 simp [ofGeneration]

variable {generation other active : RequestGeneration}
 {batches accepted delivered : List CatalogBatch} {i inactivityTimeoutMs : ℕ} {shared : Shared}
 {attempt : Attempt} {input : WorkerInput} {result : Shared × Attempt} {history : History}
 {change : Attempt → Attempt} {request : CatalogRequest} {last : CatalogBatch}

lemma ofGeneration_own (own : ∀b∈batches,b.generation=generation):
 ofGeneration generation batches=batches:=by
 apply List.filter_eq_self.mpr
 simpa using own

lemma ofGeneration_other (own : ∀b∈batches,b.generation=other)
 (d : generation≠other) : ofGeneration generation batches=[]:=by
 apply List.filter_eq_nil_iff.mpr
 intro b member
 simpa [own b member] using d.symm

namespace History

def recursive (history:History) (generation : RequestGeneration) : Bool:=
 (history.service.attempts generation).any (·.recursive)

def deliveredOf (history:History) (generation : RequestGeneration) : List CatalogBatch:=
 ofGeneration generation history.delivered

def acceptedOf (history:History) (generation : RequestGeneration) : List CatalogBatch:=
 ofGeneration generation history.accepted

def producedOf (history:History) (generation : RequestGeneration) : List CatalogBatch:=
 ofGeneration generation history.produced

/-- What is queued, and what the transport thread of the request holds. -/
def outstanding (history:History) (generation : RequestGeneration) : List CatalogBatch:=
 history.service.shared.batches++history.service.shared.terminalBatch.toList ++
  ((history.service.attempts generation).bind (·.pendingBatch)).toList

def LiveOf (history:History) (generation : RequestGeneration) : Prop:=
 Live generation (history.recursive generation) (history.service.attempts generation)
  history.service.shared (history.deliveredOf generation) (history.acceptedOf generation)

end History

/-- The stream is what was accepted, the last batch perhaps replaced by a final one with the
same entries. -/
def Follows (accepted stream : List CatalogBatch) : Prop:=
 stream = accepted ∨ Carried accepted stream

lemma Follows.entries {stream : List CatalogBatch} (follows : Follows accepted stream):
 entriesOf stream=entriesOf accepted:=by
 obtain rfl | carried:=follows
 · rfl
 · exact carried.entries

structure InOrder (recursive : Bool) (delivered accepted : List CatalogBatch) : Prop where
 once : delivered.Pairwise fun earlier _=>earlier.isFinal=false
 kept : ∃ rest,Follows (listing recursive accepted) (listing recursive delivered++rest)

lemma InOrder.blank (recursive : Bool) : InOrder recursive [] [] := ⟨.nil,[],.inl rfl⟩

section Lists
variable {generation : RequestGeneration} {recursive : Bool} {attempt : Option Attempt}
 {shared : Shared} {delivered accepted : List CatalogBatch}

lemma Live.follows (live : Live generation recursive attempt shared delivered accepted):
 Follows (listing recursive accepted) (listing recursive delivered++(shared.batches ++
  shared.terminalBatch.toList++(attempt.bind (·.pendingBatch)).toList)):=by
 obtain ⟨-,⟨a,rfl,opened⟩ | closed⟩:=live
 · left
   rw [opened.noTerminal,←opened.stream]
   simp
 · right
   have handed:attempt.bind (·.pendingBatch)=none:=by
    cases attempt with
    | none=>rfl
    | some a=>exact closed.handed a rfl
   rw [handed]
   simpa using closed.carried

lemma Live.inOrder (live : Live generation recursive attempt shared delivered accepted):
 InOrder recursive delivered accepted:=by
 refine ⟨?_,_,live.follows⟩
 obtain ⟨-,⟨a,rfl,opened⟩ | closed⟩:=live
 · exact ordered_of_nonfinal opened.nonfinal
 · exact closed.ordered

lemma ordered_append {b : CatalogBatch}
 (n : ∀earlier∈delivered,earlier.isFinal=false):
 (delivered++[b]).Pairwise fun earlier _=>earlier.isFinal=false:=by
 rw [List.pairwise_append]
 exact ⟨ordered_of_nonfinal n,List.pairwise_singleton _ _,
  fun earlier member _ _=>n earlier member⟩

lemma live_poll (live : Live generation recursive attempt shared delivered accepted):
 (∀b∈(poll shared).1,b.generation=generation) ∧
  Live generation recursive attempt (poll shared).2 (delivered++(poll shared).1.toList)
   accepted:=by
 obtain ⟨owned,state⟩:=live
 unfold poll
 split
 next none =>
  split
  next last terminal =>
   have own:=owned.terminal last terminal
   refine ⟨fun b member=>by cases member; exact own.1,⟨?_,?_,owned.progress⟩,?_⟩
   · exact owned.batches
   · intro b member
     cases member
   obtain ⟨a,rfl,opened⟩ | closed:=state
   · rw [opened.noTerminal] at terminal
     cases terminal
   · right
     have n:∀b∈delivered,b.isFinal=false:=by
      obtain n | ⟨-,gone⟩:=closed.once
      · exact n
      · rw [gone] at terminal
        cases terminal
     have carried:=closed.carried
     rw [none,terminal] at carried
     refine ⟨closed.stopped,closed.handed,closed.quiet,?_,.inr ⟨none,rfl⟩, ordered_append n⟩
     simpa [none,listing_kept own.2] using carried
  next terminal =>
   refine ⟨fun b member=>(owned.progress b member).1,
    ⟨owned.batches,owned.terminal,fun _ member=>by cases member⟩,?_⟩
   obtain ⟨a,rfl,opened⟩ | closed:=state
   · refine .inl ⟨a,rfl,opened.1,opened.2,opened.3,opened.4,opened.5,opened.6,?_,
      opened.queued,opened.noTerminal,?_⟩
     · intro b member
       obtain member | member:=List.mem_append.mp member
       · exact opened.nonfinal b member
       · exact (isReport_facts (owned.progress b (by simpa using member)).2).2
     · have gone:listing recursive shared.progressBatch.toList=[]:=by
        cases reported:shared.progressBatch with
        | none=>rfl
        | some b=>exact listing_report (owned.progress b reported).2
       rw [listing_append,gone,List.append_nil]
       exact opened.stream
   · rw [closed.quiet]
     simp only [Option.toList_none,List.append_nil]
     exact .inr ⟨closed.stopped,closed.handed,rfl,closed.carried,closed.once, closed.ordered⟩
 next first rest q =>
  have own:=owned.batches first (by simp [q])
  refine ⟨fun b member=>by cases member; exact own.1,⟨?_,owned.terminal, owned.progress⟩,?_⟩
  · intro b member
    exact owned.batches b (by simp [q,show b∈rest from member])
  obtain ⟨a,rfl,opened⟩ | closed:=state
  · refine .inl ⟨a,rfl,opened.1,opened.2,opened.3,opened.4,opened.5,opened.6,?_,?_,
     opened.noTerminal,?_⟩
    · intro b member
      obtain member | member:=List.mem_append.mp member
      · exact opened.nonfinal b member
      · cases List.mem_singleton.mp member
        exact opened.queued first (by simp [q])
    · intro b member
      exact opened.queued b (by simp [q,show b∈rest from member])
    · have stream:=opened.stream
      rw [q] at stream
      simpa [listing_kept own.2] using stream
  · right
    have n:∀b∈delivered,b.isFinal=false:=by
     obtain n | ⟨gone,-⟩:=closed.once
     · exact n
     · rw [q] at gone
       cases gone
    have carried:=closed.carried
    rw [q] at carried
    refine ⟨closed.stopped,closed.handed,closed.quiet,?_,?_,ordered_append n⟩
    · simpa [listing_kept own.2] using carried
    · cases final:first.isFinal with
      | false=>
       left
       intro b member
       obtain member | member:=List.mem_append.mp member
       · exact n b member
       · cases List.mem_singleton.mp member
         exact final
      | true=>
       right
       have split:Carried (listing recursive accepted) (listing recursive delivered ++
         first::(rest++shared.terminalBatch.toList)):=by
        simpa using carried
       obtain ⟨none,terminal⟩:=List.append_eq_nil_iff.mp (split.last final)
       exact ⟨none,by simpa using terminal⟩

end Lists

/-! ## The invariant -/

/-- The steps of the caller between which the same holds. -/
inductive Standing where
 | idle
 | opening (request : CatalogRequest)
 | closing (generation : RequestGeneration)
 | begun (generation : RequestGeneration) (cancelled : Bool)
 | reported (generation : RequestGeneration)

def CallerPhase.standing : CallerPhase → Standing
 | .idle=>.idle
 | .collecting (.submit request) | .stopping _ (.submit request)=>.opening request
 | .collecting (.cancel generation) | .stopping _ (.cancel generation)=>.closing generation
 | .startingMonitor generation | .startingWorker generation | .startFailed generation=>
  .begun generation false
 | .reportingStart generation=>.begun generation true
 | .finishing generation | .retiring generation=>.reported generation

namespace History

/-- What holds wherever the caller stands. -/
structure Books (history:History) : Prop where
 active : history.service.activeGeneration=history.current.getD 0
 zero : (0 : RequestGeneration)∈history.used
 current : ∀generation,history.current=some generation → generation∈history.used
 keyed : ∀generation attempt,history.service.attempts generation=some attempt →
  attempt.generation=generation ∧ generation∈history.used ∧ generation≠0
 unheard : ∀generation,history.service.attempts generation=none →
  history.acceptedOf generation=[] ∧ history.producedOf generation=[]
 undelivered : ∀generation,generation∉history.used → history.deliveredOf generation=[]
 phases : ∀generation attempt,history.service.attempts generation=some attempt →
  PhaseOk attempt (entriesOf (history.producedOf generation))
   (entriesOf (history.acceptedOf generation))
 sound : ∀generation,InOrder (history.recursive generation) (history.deliveredOf generation)
  (history.acceptedOf generation)

/-- The attempt is registered, its transport thread has not been started. -/
structure Begun (history:History) (generation : RequestGeneration) : Prop where
 current : history.current=some generation
 live : history.LiveOf generation
 quiet : history.service.shared.progressBatch=none
 attempt : ∃ attempt,history.service.attempts generation=some attempt ∧
  attempt.worker=.notStarted ∧
  (attempt.terminalPublished=false → Open attempt.recursive attempt history.service.shared
   (history.deliveredOf generation) (history.acceptedOf generation))

def Stage (history:History) : Standing → Prop
 | .idle=>
  (history.current = none → SameSlots {} history.service.shared) ∧
   ∀generation,history.current = some generation → history.LiveOf generation
 | .opening request=>
  history.current = some request.generation ∧ request.generation≠0 ∧
   history.service.attempts request.generation = none ∧
   history.deliveredOf request.generation = []
 | .closing generation=>
  history.current = none ∧ ∃ recursive,Owned generation recursive history.service.shared
 | .begun generation cancelled=>
  history.Begun generation ∧
   ∀attempt ∈ history.service.attempts generation,attempt.cancelled = cancelled
 | .reported generation=>
  history.current = some generation ∧
   Owned generation (history.recursive generation) history.service.shared ∧
   Closed (history.recursive generation) (history.service.attempts generation)
    history.service.shared (history.deliveredOf generation) (history.acceptedOf generation)

structure Invariant (history:History) : Prop where
 books : history.Books
 stage : history.Stage history.service.caller.standing

end History

/-! ## The steps of the threads -/

lemma stale_workerStep (stale : attemptIsCurrent active attempt=false)
 (step : workerStep i active shared attempt input=some result):
 acceptedBy active attempt=[] ∧ SameSlots shared result.1:=by
 have refused:acceptedBy active attempt=[]:=by
  obtain refused | ⟨current,-⟩:=accepted_or_refused active attempt
  · exact refused
  · rw [stale] at current
    cases current
 refine ⟨refused,?_⟩
 obtain ⟨b,publisher,late,phase,rfl,rfl⟩ | ⟨isFinal,publisher,phase,rfl,rfl⟩ |
  ⟨b,phase,rfl,rfl⟩ | ⟨-,same,-⟩ := workerStep_cases step
 · rw [publishBatch_refused _ _ _ _ refused phase]
   exact ⟨rfl,rfl,rfl⟩
 · simp only [waitForSpace,enqueuePending,stale,Bool.not_false,Bool.true_or,if_true]
   exact ⟨rfl,rfl,rfl⟩
 · exact ⟨rfl,rfl,rfl⟩
 · exact same

structure ThreadStep (active : RequestGeneration) (shared : Shared) (attempt : Attempt)
  (result : Shared × Attempt) (produced accepted : List CatalogBatch) : Prop where
 request : result.2.request=attempt.request
 own : ∀batch∈produced++accepted,batch.generation=attempt.generation
 phase : ∀before after,PhaseOk attempt before after →
  PhaseOk result.2 (before++entriesOf produced) (after++entriesOf accepted)
 stale : active≠attempt.generation → accepted=[] ∧ SameSlots shared result.1
 live : active=attempt.generation → ∀before after delivered listed,
  PhaseOk attempt before after →
  Live attempt.generation attempt.recursive (some attempt) shared delivered listed →
  Live attempt.generation attempt.recursive (some result.2) result.1 delivered
   (listed++accepted)
 closed : ∀delivered listed, Closed attempt.recursive (some attempt) shared delivered listed →
  Closed attempt.recursive (some result.2) result.1 delivered (listed++accepted)
 waits : attempt.worker=.notStarted → result.2.worker=.notStarted ∧ accepted=[] ∧
  result.2.cancelled=attempt.cancelled ∧
  (shared.progressBatch=none → result.1.progressBatch=none) ∧
  (result.2.terminalPublished=false → attempt.terminalPublished=false) ∧
  ∀delivered listed,Open attempt.recursive attempt shared delivered listed →
   result.2.terminalPublished=false →
   Open attempt.recursive result.2 result.1 delivered listed

lemma threadStep_worker {read listed : List DirectoryEntry} (ok : PhaseOk attempt read listed)
 (step : workerStep i active shared attempt input=some result):
 ThreadStep active shared attempt result (producedBy attempt input)
  (acceptedBy active attempt):=by
 constructor
 · exact workerStep_request step
 · intro b member
   obtain member | member:=List.mem_append.mp member
   · unfold producedBy at member
     split at member
     · split at member
       next right =>
        cases List.mem_singleton.mp member
        exact right.2
       · cases member
     · cases member
   · unfold acceptedBy at member
     split at member
     next published publisher phase =>
      simp only [PhaseOk,phase] at ok
      split at member
      · cases List.mem_singleton.mp member
        exact ok.2.1
      · cases member
     · cases member
 · intro before after phase
   exact phaseOk_workerStep phase step
 · intro stale
   have notCurrent:attemptIsCurrent active attempt=false:=by
    simp [attemptIsCurrent,stale]
   exact stale_workerStep notCurrent step
 · intro here before after delivered listed phase live
   subst here
   exact live_workerStep phase live step
 · intro delivered listed closed
   obtain ⟨refused,-,closed⟩:=closed_workerStep closed step
   rw [refused,List.append_nil]
   exact closed
 · intro waits
   simp [workerStep,waits] at step

lemma threadStep_monitor {expired : Option Bool}
 (step : monitorStep i active shared attempt expired=some result):
 ThreadStep active shared attempt result [] []:=by
 constructor
 · obtain ⟨monitor,rfl⟩ | ⟨-,-,total,rfl⟩:=monitorStep_cases step
   · rfl
   · exact (publishTimeout_keeps _ _ _ _ _).2.1
 · intro b member
   cases member
 · intro before after phase
   simpa using phaseOk_monitorStep phase step
 · intro stale
   refine ⟨rfl,?_⟩
   obtain ⟨monitor,rfl⟩ | ⟨current,-⟩:=monitorStep_cases step
   · exact ⟨rfl,rfl,rfl⟩
   · exact absurd (generation_of_current current) stale
 · intro here before after delivered listed phase live
   subst here
   rw [List.append_nil]
   exact live_monitorStep live step
 · intro delivered listed closed
   rw [List.append_nil]
   exact (closed_monitorStep closed step).2
 · intro waits
   obtain ⟨monitor,rfl⟩ | ⟨current,before,total,rfl⟩:=monitorStep_cases step
   · refine ⟨waits,rfl,rfl,id,id,?_⟩
     intro delivered listed opened _
     exact ⟨opened.1,opened.2,opened.3,opened.4,opened.5,opened.6,opened.7,opened.8,
      opened.9,opened.10⟩
   · have here:active=attempt.generation:=generation_of_current current
     subst here
     obtain ⟨last,-,-,-,timeout⟩:=publishTimeout_current i shared
      { attempt with timedOut:=true,monitor:=.ended } total
     change publishTimeout i attempt.generation _ _ _=_ at timeout
     rw [timeout]
     refine ⟨waits,rfl,rfl,fun _=>rfl,fun _=>before,?_⟩
     intro delivered listed _ unpublished
     cases unpublished

namespace History

lemma Stage.liveOf {standing : Standing} (s : history.Stage standing)
 {generation : RequestGeneration} {attempt : Attempt}
 (current : history.current=some generation)
 (found : history.service.attempts generation=some attempt) : history.LiveOf generation:=by
 cases standing with
 | idle=>exact s.2 generation current
 | opening request=>
  obtain ⟨same,-,none,-⟩:=s
  rw [current] at same
  cases same
  rw [none] at found
  cases found
 | closing generation=>
  rw [s.1] at current
  cases current
 | begun other cancelled=>
  have same:=s.1.current
  rw [current] at same
  cases same
  exact s.1.live
 | reported other=>
  obtain ⟨same,owned,closed⟩:=s
  rw [current] at same
  cases same
  exact ⟨owned,.inr closed⟩

section Threads
variable {history : History} {generation : RequestGeneration} {attempt : Attempt}
 {result : Shared × Attempt} {produced accepted : List CatalogBatch}

def afterThread (history:History) (generation : RequestGeneration)
  (result : Shared × Attempt) (produced accepted : List CatalogBatch) : History:=
 { history.withAttempt generation result with
   produced:=history.produced++produced
   accepted:=history.accepted++accepted }

variable (found : history.service.attempts generation = some attempt)
 (key : attempt.generation = generation)
 (t : ThreadStep history.service.activeGeneration history.service.shared attempt result
  produced accepted)

lemma afterThread_self:
 (history.afterThread generation result produced accepted).service.attempts generation=
  some result.2:=
 Function.update_self _ _ _

lemma afterThread_other (d : other≠generation):
 (history.afterThread generation result produced accepted).service.attempts other=
  history.service.attempts other:=
 Function.update_of_ne d _ _

include found t in
lemma afterThread_recursive (other : RequestGeneration):
 (history.afterThread generation result produced accepted).recursive other=
  history.recursive other:=by
 unfold recursive
 by_cases same:other=generation
 · subst same
   rw [afterThread_self,found]
   simp only [Option.any_some,Attempt.recursive,t.request]
 · rw [afterThread_other same]

include key t in
lemma afterThread_acceptedOf (other : RequestGeneration):
 (history.afterThread generation result produced accepted).acceptedOf other=
  history.acceptedOf other++if other=generation then accepted else []:=by
 have own:∀b∈accepted,b.generation=generation:=
  fun b member=>key ▸ t.own b (List.mem_append_right _ member)
 unfold acceptedOf afterThread
 rw [ofGeneration_append]
 split
 next same => rw [same,ofGeneration_own own]
 next d => rw [ofGeneration_other own d]

include key t in
lemma afterThread_producedOf (other : RequestGeneration):
 (history.afterThread generation result produced accepted).producedOf other=
  history.producedOf other++if other=generation then produced else []:=by
 have own:∀b∈produced,b.generation=generation:=
  fun b member=>key ▸ t.own b (List.mem_append_left _ member)
 unfold producedOf afterThread
 rw [ofGeneration_append]
 split
 next same => rw [same,ofGeneration_own own]
 next d => rw [ofGeneration_other own d]

lemma recursive_of_found (found : history.service.attempts generation=some attempt):
 history.recursive generation=attempt.recursive:=by
 unfold recursive
 rw [found]
 rfl

include found key t in
lemma afterThread_live (books : history.Books) {current : RequestGeneration}
 (here:history.current=some current) (live : history.LiveOf current):
 (history.afterThread generation result produced accepted).LiveOf current:=by
 have active:=books.active
 rw [here,Option.getD_some] at active
 unfold LiveOf
 rw [afterThread_recursive found t,afterThread_acceptedOf key t]
 by_cases same:current=generation
 · subst same
   rw [afterThread_self,if_pos rfl,recursive_of_found found]
   unfold LiveOf at live
   rw [found,recursive_of_found found] at live
   have step:=t.live (active.trans key.symm) _ _ (history.deliveredOf current)
    (history.acceptedOf current) (books.phases current attempt found)
   rw [key] at step
   exact step live
 · have stale:history.service.activeGeneration≠attempt.generation:=by
    rw [active,key]
    exact same
   obtain ⟨-,slots⟩:=t.stale stale
   rw [afterThread_other same,if_neg same,List.append_nil]
   refine ⟨slots.owned live.owned,?_⟩
   obtain ⟨a,equal,opened⟩ | closed:=live.state
   · exact .inl ⟨a,equal,opened.sameSlots slots⟩
   · exact .inr (closed.stays slots closed.stopped closed.handed)

include found key t in
lemma afterThread_sound (invariant : history.Invariant) (other : RequestGeneration):
 InOrder ((history.afterThread generation result produced accepted).recursive other)
  ((history.afterThread generation result produced accepted).deliveredOf other)
  ((history.afterThread generation result produced accepted).acceptedOf other):=by
 have unchanged:other≠generation ∨ accepted=[] →
   InOrder ((history.afterThread generation result produced accepted).recursive other)
    ((history.afterThread generation result produced accepted).deliveredOf other)
    ((history.afterThread generation result produced accepted).acceptedOf other):=by
  intro cases_
  have nothing:(if other=generation then accepted else [])=[]:=by
   obtain d | none:=cases_
   · rw [if_neg d]
   · rw [none,ite_self]
  rw [afterThread_recursive found t,afterThread_acceptedOf key t,nothing, List.append_nil]
  exact invariant.books.sound other
 by_cases same:other=generation
 · subst same
   by_cases here:history.service.activeGeneration=attempt.generation
   · have current:history.current=some other:=by
      have nonzero:=(invariant.books.keyed other attempt found).2.2
      have active:=invariant.books.active
      rw [here,key] at active
      cases current:history.current with
      | none=>
       rw [current] at active
       exact absurd active nonzero
      | some generation=>
       rw [current] at active
       exact congrArg some active.symm
     exact (afterThread_live found key t invariant.books current
      (invariant.stage.liveOf current found)).inOrder
   · exact unchanged (.inr (t.stale here).1)
 · exact unchanged (.inl same)

include found key t in
lemma afterThread_books (invariant : history.Invariant):
 (history.afterThread generation result produced accepted).Books:=by
 have books:=invariant.books
 refine ⟨books.active,books.zero,books.current,?_,?_,books.undelivered,?_,
  afterThread_sound found key t invariant⟩
 · intro other attempt' here
   by_cases same:other=generation
   · subst same
     rw [afterThread_self] at here
     cases here
     refine ⟨?_,(books.keyed other attempt found).2⟩
     rw [←key,Attempt.generation,t.request]
     rfl
   · rw [afterThread_other same] at here
     exact books.keyed other attempt' here
 · intro other none
   by_cases same:other=generation
   · subst same
     rw [afterThread_self] at none
     cases none
   · rw [afterThread_other same] at none
     rw [afterThread_acceptedOf key t,afterThread_producedOf key t,if_neg same,
      if_neg same,List.append_nil,List.append_nil]
     exact books.unheard other none
 · intro other attempt' here
   rw [afterThread_acceptedOf key t,afterThread_producedOf key t]
   by_cases same:other=generation
   · subst same
     rw [afterThread_self] at here
     cases here
     rw [if_pos rfl,if_pos rfl,entriesOf_append,entriesOf_append]
     exact t.phase _ _ (books.phases other attempt found)
   · rw [afterThread_other same] at here
     rw [if_neg same,if_neg same,List.append_nil,List.append_nil]
     exact books.phases other attempt' here

include found key t in
lemma afterThread_slots (books : history.Books) (current : history.current≠some generation):
 SameSlots history.service.shared
  (history.afterThread generation result produced accepted).service.shared:=by
 refine (t.stale ?_).2
 intro here
 have active:=books.active
 rw [here,key] at active
 cases given:history.current with
 | none=>
  rw [given] at active
  exact (books.keyed generation attempt found).2.2 active
 | some other=>
  rw [given] at active
  exact current (given.trans (congrArg some active.symm))

include found key t in
lemma afterThread_begun (books : history.Books) {begun : RequestGeneration}
 (s : history.Begun begun):
 (history.afterThread generation result produced accepted).Begun begun:=by
 obtain ⟨current,live,quiet,waiting,here,waits,opens⟩:=s
 have live':=afterThread_live found key t books current live
 by_cases same:begun=generation
 · subst same
   rw [found] at here
   cases here
   obtain ⟨worker,none,-,progress,before,opened⟩:=t.waits waits
   refine ⟨current,live',progress quiet,result.2,afterThread_self,worker,?_⟩
   intro unpublished
   rw [afterThread_acceptedOf key t,if_pos rfl,none,List.append_nil]
   have recursive:result.2.recursive=attempt.recursive:=congrArg CatalogRequest.recursive t.request
   rw [recursive]
   exact opened _ _ (opens (before unpublished)) unpublished
 · have slots:=afterThread_slots found key t books
    (fun other=>same (Option.some.inj (current.symm.trans other)))
   refine ⟨current,live',slots.2.2.trans quiet,waiting,
    (afterThread_other same).trans here,waits,?_⟩
   intro unpublished
   rw [afterThread_acceptedOf key t,if_neg same,List.append_nil]
   exact (opens unpublished).sameSlots slots

include found key t in
lemma afterThread_stage (invariant : history.Invariant) {standing : Standing}
 (s : history.Stage standing):
 (history.afterThread generation result produced accepted).Stage standing:=by
 have books:=invariant.books
 cases standing with
 | idle=>
  refine ⟨?_,fun current here =>
   afterThread_live found key t books here (s.2 current here)⟩
  intro absent
  have absent:history.current=none:=absent
  exact (s.1 absent).trans
   (afterThread_slots found key t books (by rw [absent]; nofun))
 | opening request=>
  obtain ⟨current,nonzero,none,undelivered⟩:=s
  refine ⟨current,nonzero,?_,undelivered⟩
  rw [afterThread_other]
  · exact none
  · intro same
    rw [same,found] at none
    cases none
 | closing other=>
  obtain ⟨none,recursive,owned⟩:=s
  exact ⟨none,recursive,(afterThread_slots found key t books
   (by rw [none]; nofun)).owned owned⟩
 | begun begun cancelled=>
  refine ⟨afterThread_begun found key t books s.1,?_⟩
  intro attempt' here
  by_cases same:begun=generation
  · subst same
    rw [afterThread_self] at here
    cases here
    obtain ⟨-,-,-,waiting,equal,waits,-⟩:=s.1
    rw [found] at equal
    cases equal
    exact (t.waits waits).2.2.1.trans (s.2 attempt found)
  · rw [afterThread_other same] at here
    exact s.2 attempt' here
 | reported reported=>
  obtain ⟨current,owned,closed⟩:=s
  have live:=afterThread_live found key t books current ⟨owned,.inr closed⟩
  refine ⟨current,live.owned,?_⟩
  rw [afterThread_recursive found t,afterThread_acceptedOf key t]
  by_cases same:reported=generation
  · subst same
    rw [found,recursive_of_found found] at closed
    rw [afterThread_self,if_pos rfl,recursive_of_found found]
    exact t.closed _ _ closed
  · have slots:=afterThread_slots found key t books
     (fun other=>same (Option.some.inj (current.symm.trans other)))
    rw [afterThread_other same,if_neg same,List.append_nil]
    exact closed.stays slots closed.stopped closed.handed

include found key t in
lemma afterThread_invariant (invariant : history.Invariant):
 (history.afterThread generation result produced accepted).Invariant:=
 ⟨afterThread_books found key t invariant, afterThread_stage found key t invariant invariant.stage⟩

end Threads

end History

/-! ## The steps of the caller -/

namespace History

section Caller
variable {history : History} {service : Service}

lemma Books.sameAttempts (books : history.Books)
 (active : service.activeGeneration=history.service.activeGeneration)
 (attempts : service.attempts=history.service.attempts):
 ({ history with service:=service } : History).Books:=by
 have recursive:({ history with service:=service } : History).recursive=history.recursive:=by
  funext generation
  unfold History.recursive
  rw [show ({ history with service:=service } : History).service.attempts=_ from attempts]
 refine ⟨active.trans books.active,books.zero,books.current,?_,?_,books.undelivered,?_,?_⟩
 · exact fun generation attempt here=>books.keyed generation attempt (attempts ▸ here)
 · exact fun generation none=>books.unheard generation (attempts ▸ none)
 · exact fun generation attempt here=>books.phases generation attempt (attempts ▸ here)
 · intro generation
   rw [recursive]
   exact books.sound generation

structure Allowed (attempt changed : Attempt) : Prop where
 request : changed.request=attempt.request
 phase : ∀produced accepted,PhaseOk attempt produced accepted → PhaseOk changed produced accepted

lemma modified_self (generation : RequestGeneration) (change : Attempt → Attempt):
 (history.service.modifyAttempt generation change).attempts generation=
  (history.service.attempts generation).map change:=
 Function.update_self _ _ _

lemma modified_other (change : Attempt → Attempt) (d : other≠generation):
 (history.service.modifyAttempt generation change).attempts other=
  history.service.attempts other:=
 Function.update_of_ne d _ _

lemma modified_recursive
 (allowed : ∀attempt∈history.service.attempts generation,Allowed attempt (change attempt))
 (modified : service.attempts=(history.service.modifyAttempt generation change).attempts):
 ({ history with service:=service } : History).recursive=history.recursive:=by
 funext other
 unfold History.recursive
 change (service.attempts other).any _=_
 rw [modified]
 by_cases same:other=generation
 · rw [same,modified_self]
   cases found:history.service.attempts generation with
   | none=>rfl
   | some attempt=>exact congrArg CatalogRequest.recursive (allowed attempt found).request
 · rw [modified_other change same]

lemma Books.modified {generation : RequestGeneration} {change : Attempt → Attempt}
 (books : history.Books)
 (allowed : ∀attempt∈history.service.attempts generation,Allowed attempt (change attempt))
 (active : service.activeGeneration=history.service.activeGeneration)
 (modified : service.attempts=(history.service.modifyAttempt generation change).attempts):
 ({ history with service:=service } : History).Books:=by
 have kept:∀other attempt',service.attempts other=some attempt' →
   ∃ attempt,history.service.attempts other=some attempt ∧
    (attempt'=attempt ∨ (attempt'=change attempt ∧ Allowed attempt attempt')):=by
  intro other attempt' here
  rw [modified] at here
  by_cases same:other=generation
  · rw [same,modified_self] at here
    obtain ⟨attempt,found,equal⟩:=Option.map_eq_some_iff.mp here
    exact ⟨attempt,same ▸ found,.inr ⟨equal.symm,equal ▸ allowed attempt found⟩⟩
  · rw [modified_other change same] at here
    exact ⟨attempt',here,.inl rfl⟩
 refine ⟨active.trans books.active,books.zero,books.current,?_,?_,books.undelivered,?_,?_⟩
 · intro other attempt' here
   obtain ⟨attempt,found,rfl | ⟨-,change⟩⟩:=kept other attempt' here
   · exact books.keyed other _ found
   · obtain ⟨key,rest⟩:=books.keyed other attempt found
     exact ⟨(congrArg CatalogRequest.generation change.request).trans key,rest⟩
 · intro other none
   refine books.unheard other ?_
   change service.attempts other=_ at none
   rw [modified] at none
   by_cases same:other=generation
   · rw [same,modified_self] at none
     rw [same]
     exact Option.map_eq_none_iff.mp none
   · rwa [modified_other change same] at none
 · intro other attempt' here
   obtain ⟨attempt,found,rfl | ⟨-,change⟩⟩:=kept other attempt' here
   · exact books.phases other _ found
   · exact change.phase _ _ (books.phases other attempt found)
 · intro other
   rw [modified_recursive allowed modified]
   exact books.sound other

lemma live_started {recursive : Bool} {attempt' : Attempt}
 (live : Live generation recursive (some attempt) shared delivered accepted)
 (published : attempt'.terminalPublished=attempt.terminalPublished)
 (timedOut : attempt'.timedOut=attempt.timedOut)
 (pending : attempt'.pendingBatch=attempt.pendingBatch) (done : attempt'.done=attempt.done)
 (cancelled : attempt.cancelled=true → attempt'.cancelled=true)
 (started : attempt'.cancelled=true → attempt'.worker=.notStarted)
 (unsettled : attempt'.worker.settled=false)
 (notWaiting : ∀isFinal publisher,attempt'.worker≠.waiting isFinal publisher):
 Live generation recursive (some attempt') shared delivered accepted:=by
 refine ⟨live.owned,?_⟩
 obtain ⟨a,equal,opened⟩ | closed:=live.state
 · cases equal
   exact .inl ⟨_,rfl,opened.stays ⟨rfl,rfl,rfl⟩ published timedOut pending
    (done.trans opened.notDone) started unsettled notWaiting⟩
 · refine .inr (closed.stays ⟨rfl,rfl,rfl⟩ ?_ ?_)
   · intro a member
     cases member
     rw [published]
     exact (closed.stopped attempt rfl).imp_right cancelled
   · intro a member
     cases member
     rw [pending]
     exact closed.handed attempt rfl

lemma liveOf_modified (found : history.service.attempts generation=some attempt)
 (allowed : Allowed attempt (change attempt)) (shared : service.shared=history.service.shared)
 (modified : service.attempts=(history.service.modifyAttempt generation change).attempts)
 (live : Live generation attempt.recursive (some (change attempt)) history.service.shared
  (history.deliveredOf generation) (history.acceptedOf generation)):
 ({ history with service:=service } : History).LiveOf generation:=by
 have here:service.attempts generation=some (change attempt):=by
  rw [modified,modified_self,found]
  rfl
 unfold LiveOf
 rw [modified_recursive (fun a member=>by rw [found] at member; cases member; exact allowed)
  modified,recursive_of_found found]
 change Live _ _ (service.attempts generation) service.shared _ _
 rw [here,shared]
 exact live

lemma boundedRequest_generation (request : CatalogRequest):
 (boundedRequest request).generation=request.generation:=by
 unfold boundedRequest
 split<;>rfl

lemma live_refused (recursive : Bool) {shared : Shared} {last : CatalogBatch}
 (own : last.generation=generation) (final : last.isFinal=true) (empty : last.entries=[])
 (q : shared.batches=[last]) (terminal : shared.terminalBatch=none)
 (progress : shared.progressBatch=none) : Live generation recursive none shared [] []:=by
 constructor
 · constructor
   · intro b member
     rw [q] at member
     cases List.mem_singleton.mp member
     exact ⟨own,isReport_final recursive last final⟩
   · intro b member
     rw [terminal] at member
     cases member
   · intro b member
     rw [progress] at member
     cases member
 · right
   refine ⟨(fun a member=>by cases member),(fun a member=>by cases member),progress,?_,
    .inl (fun b member=>by cases member),.nil⟩
   rw [q,terminal]
   exact ⟨[],last,[],rfl,rfl,Nat.zero_le _,empty.symm,final,
    fun b member=>by cases member⟩

lemma refused_invariant (books : history.Books) (s : history.Stage (.opening request))
 (own : last.generation=request.generation) (final : last.isFinal=true)
 (empty : last.entries=[]) (q : shared.batches=[last])
 (terminal : shared.terminalBatch=none) (progress : shared.progressBatch=none):
 ({ history with service:={ history.service with
     shared:=shared
     caller:=.idle } } : History).Invariant:=by
 obtain ⟨current,-,unregistered,undelivered⟩:=s
 have unheard:=(books.unheard request.generation unregistered).1
 refine ⟨books.sameAttempts rfl rfl,?_,?_⟩
 · intro absent
   cases current.symm.trans absent
 intro generation here
 cases current.symm.trans here
 unfold LiveOf
 change Live _ _ (history.service.attempts request.generation) shared
  (history.deliveredOf request.generation) (history.acceptedOf request.generation)
 rw [unregistered,undelivered,unheard]
 exact live_refused _ own final empty q terminal progress

lemma live_registered (request : CatalogRequest) {shared : Shared}
 (q : shared.batches=[]) (terminal : shared.terminalBatch=none)
 (progress : shared.progressBatch=none):
 Owned request.generation request.recursive shared ∧
  Open request.recursive { request:=request } shared [] []:=by
 constructor
 · constructor
   · intro b member
     rw [q] at member
     cases member
   · intro b member
     rw [terminal] at member
     cases member
   · intro b member
     rw [progress] at member
     cases member
 · refine ⟨rfl,rfl,rfl,fun _=>rfl,rfl,(fun _ _ waits=>by cases waits),
    (fun b member=>by cases member),?_,terminal,?_⟩
   · intro b member
     rw [q] at member
     cases member
   · rw [q]
     rfl

lemma registered_invariant {bounded : CatalogRequest} (books : history.Books)
 (s : history.Stage (.opening request)) (key : bounded.generation=request.generation)
 (active : service.activeGeneration=history.service.activeGeneration)
 (attempts : service.attempts=Function.update history.service.attempts request.generation
  (some { request:=bounded })) (caller : service.caller=.startingMonitor request.generation)
 (q : service.shared.batches=[]) (terminal : service.shared.terminalBatch=none)
 (progress : service.shared.progressBatch=none):
 ({ history with service:=service } : History).Invariant:=by
 obtain ⟨current,nonzero,unregistered,undelivered⟩:=s
 obtain ⟨unheard,unread⟩:=books.unheard request.generation unregistered
 have self:service.attempts request.generation=some { request:=bounded }:=by
  rw [attempts,Function.update_self]
 have rest:∀other,other≠request.generation →
   service.attempts other=history.service.attempts other:=by
  intro other d
  rw [attempts,Function.update_of_ne d]
 have recursive:({ history with service:=service } : History).recursive
   request.generation=bounded.recursive:=by
  unfold History.recursive
  change (service.attempts request.generation).any _=_
  rw [self]
  rfl
 obtain ⟨owned,opened⟩:=live_registered bounded q terminal progress
 rw [key] at owned
 have live:({ history with service:=service } : History).LiveOf request.generation:=by
  unfold LiveOf
  rw [recursive]
  change Live _ _ (service.attempts request.generation) service.shared
   (history.deliveredOf request.generation) (history.acceptedOf request.generation)
  rw [self,undelivered,unheard]
  exact ⟨owned,.inl ⟨_,rfl,opened⟩⟩
 refine ⟨⟨active.trans books.active,books.zero,books.current,?_,?_,books.undelivered,?_, ?_⟩,?_⟩
 · intro other attempt here
   by_cases same:other=request.generation
   · subst same
     cases self.symm.trans here
     exact ⟨key,books.current _ current,nonzero⟩
   · exact books.keyed other attempt ((rest other same).symm.trans here)
 · intro other absent
   by_cases same:other=request.generation
   · subst same
     cases self.symm.trans absent
   · exact books.unheard other ((rest other same).symm.trans absent)
 · intro other attempt here
   by_cases same:other=request.generation
   · subst same
     cases self.symm.trans here
     change PhaseOk _ (entriesOf (history.producedOf _)) (entriesOf (history.acceptedOf _))
     rw [unread,unheard]
     exact ⟨rfl,rfl⟩
   · exact books.phases other attempt ((rest other same).symm.trans here)
 · intro other
   by_cases same:other=request.generation
   · subst same
     exact live.inOrder
   · have unchanged:({ history with service:=service } : History).recursive other=
       history.recursive other:=by
      unfold History.recursive
      change (service.attempts other).any _=_
      rw [rest other same]
     rw [unchanged]
     exact books.sound other
 · change Stage _ service.caller.standing
   rw [caller]
   refine ⟨⟨current,live,progress,_,self,rfl,?_⟩,?_⟩
   · intro _
     change Open _ _ _ (history.deliveredOf request.generation)
      (history.acceptedOf request.generation)
     rw [undelivered,unheard]
     exact opened
   · intro attempt here
     cases self.symm.trans here
     rfl

lemma Allowed.same {changed : Attempt} (request : changed.request=attempt.request)
 (worker : changed.worker=attempt.worker)
 (pending : changed.pendingBatch=attempt.pendingBatch) : Allowed attempt changed:=
 ⟨request,fun _ _ ok=>ok.stays worker request (.inl pending)⟩

lemma stopped_invariant {stopped : RequestGeneration} {phase : CallerPhase}
 (books : history.Books) (s : history.Stage phase.standing)
 (stopping : (∃ request,phase.standing=.opening request) ∨
  ∃ generation,phase.standing=.closing generation):
 ({ history with service:=
     { history.service.modifyAttempt stopped ({ · with cancelled:=true }) with
       caller:=phase } } : History).Invariant:=by
 refine ⟨books.modified ?_ rfl rfl,?_⟩
 · exact fun attempt _=>Allowed.same rfl rfl rfl
 change Stage _ phase.standing
 obtain ⟨request,opening⟩ | ⟨generation,closing⟩:=stopping
 · rw [opening] at s ⊢
   obtain ⟨current,nonzero,unregistered,undelivered⟩:=s
   refine ⟨current,nonzero,?_,undelivered⟩
   change (history.service.modifyAttempt stopped _).attempts request.generation=none
   by_cases same:request.generation=stopped
   · rw [same,modified_self,←same,unregistered]
     rfl
   · rw [modified_other _ same,unregistered]
 · rw [closing] at s ⊢
   exact s

lemma erased_invariant (books : history.Books) (s : history.Stage (.closing generation)):
 ({ history with service:={ history.service with
     shared:=eraseGeneration history.service.shared generation
     caller:=.idle } } : History).Invariant:=by
 obtain ⟨current,recursive,owned⟩:=s
 refine ⟨books.sameAttempts rfl rfl,?_,?_⟩
 · intro _
   refine ⟨?_,?_,?_⟩
   · apply List.filter_eq_nil_iff.mpr
     intro b member
     simp [(owned.batches b member).1]
   · change history.service.shared.terminalBatch.filter _=none
     cases terminal:history.service.shared.terminalBatch with
     | none=>rfl
     | some b=>simp [(owned.terminal b terminal).1]
   · change history.service.shared.progressBatch.filter _=none
     cases progress:history.service.shared.progressBatch with
     | none=>rfl
     | some b=>simp [(owned.progress b progress).1]
 · intro other here
   cases current.symm.trans here

lemma begun_invariant {cancelled : Bool} (books : history.Books)
 (begun : history.Begun generation) (found : history.service.attempts generation=some attempt)
 (allowed : Allowed attempt (change attempt))
 (active : service.activeGeneration=history.service.activeGeneration)
 (shared : service.shared=history.service.shared)
 (modified : service.attempts=(history.service.modifyAttempt generation change).attempts)
 (published : (change attempt).terminalPublished=attempt.terminalPublished)
 (timedOut : (change attempt).timedOut=attempt.timedOut)
 (pending : (change attempt).pendingBatch=attempt.pendingBatch)
 (done : (change attempt).done=attempt.done)
 (worker : (change attempt).worker=attempt.worker)
 (stopped : attempt.cancelled=true → (change attempt).cancelled=true)
 (value : (change attempt).cancelled=cancelled)
 (caller : service.caller.standing=.begun generation cancelled):
 ({ history with service:=service } : History).Invariant:=by
 have changes:∀a∈history.service.attempts generation,Allowed a (change a):=by
  intro a member
  cases found.symm.trans member
  exact allowed
 have self:service.attempts generation=some (change attempt):=by
  rw [modified,modified_self,found]
  rfl
 obtain ⟨current,live,quiet,waiting,here,waits,opens⟩:=begun
 cases found.symm.trans here
 have idle:(change attempt).worker=.notStarted:=worker.trans waits
 have unsettled:(change attempt).worker.settled=false:=by rw [idle]; rfl
 have notWaiting:∀isFinal publisher,(change attempt).worker≠.waiting isFinal publisher:=by
  intro isFinal publisher absurd_
  cases idle.symm.trans absurd_
 unfold LiveOf at live
 rw [found,recursive_of_found found] at live
 have moved:=liveOf_modified found allowed shared modified
  (live_started live published timedOut pending done stopped (fun _=>idle) unsettled
   notWaiting)
 refine ⟨books.modified changes active modified,?_⟩
 change Stage _ service.caller.standing
 rw [caller]
 refine ⟨⟨current,moved,?_,_,self,idle,?_⟩,?_⟩
 · change service.shared.progressBatch=none
   rw [shared,quiet]
 · intro unpublished
   change Open _ _ service.shared (history.deliveredOf generation) (history.acceptedOf generation)
   have opened:=opens (published ▸ unpublished)
   have recursive:(change attempt).recursive=attempt.recursive:=
    congrArg CatalogRequest.recursive allowed.request
   rw [shared,recursive]
   exact opened.stays ⟨rfl,rfl,rfl⟩ published timedOut pending (done.trans opened.notDone)
    (fun _=>idle) unsettled notWaiting
 · intro a member
   cases self.symm.trans member
   exact value

lemma started_invariant (books : history.Books) (s : history.Stage (.begun generation false))
 :
 ({ history with service:=
     { history.service.modifyAttempt generation ({ · with worker:=.starting }) with
       caller:=.idle } } : History).Invariant:=by
 obtain ⟨⟨current,live,-,attempt,found,waits,-⟩,uncancelled⟩:=s
 have uncancelled:=uncancelled attempt found
 have allowed:Allowed attempt { attempt with worker:=.starting }:=by
  refine ⟨rfl,?_⟩
  intro produced accepted ok
  simp only [PhaseOk,waits] at ok
  exact ok
 unfold LiveOf at live
 rw [found,recursive_of_found found] at live
 refine ⟨books.modified ?_ rfl rfl,?_,?_⟩
 · intro a member
   cases found.symm.trans member
   exact allowed
 · intro absent
   cases current.symm.trans absent
 · intro other here
   cases current.symm.trans here
   refine liveOf_modified found allowed rfl rfl
    (live_started live rfl rfl rfl rfl id ?_ rfl (fun _ _ absurd_=>by cases absurd_))
   intro cancelled
   cases uncancelled.symm.trans cancelled

lemma closed_reported {recursive : Bool} (owned : Owned generation recursive shared)
 (opened : Open recursive attempt shared delivered accepted)
 (cancelled : attempt.cancelled=true) (handed:attempt.pendingBatch=none)
 (quiet : shared.progressBatch=none) (own : last.generation=generation)
 (final : last.isFinal=true) (empty : last.entries=[]):
 Owned generation recursive { shared with batches:=shared.batches++[last] } ∧
  Closed recursive (some attempt) { shared with batches:=shared.batches++[last] }
   delivered accepted:=by
 constructor
 · refine ⟨?_,owned.terminal,owned.progress⟩
   intro b member
   obtain member | member:=List.mem_append.mp member
   · exact owned.batches b member
   · cases List.mem_singleton.mp member
     exact ⟨own,isReport_final recursive last final⟩
 · have stream:=opened.stream
   rw [handed] at stream
   refine ⟨?_,?_,quiet,?_,.inl opened.nonfinal,ordered_of_nonfinal opened.nonfinal⟩
   · intro a member
     cases member
     exact .inr cancelled
   · intro a member
     cases member
     exact handed
   · have carried:=carried_of_nonfinal opened.nonfinal opened.queued stream (by simp)
      empty.symm final
     rw [opened.noTerminal]
     simpa using carried

lemma reported_invariant (books : history.Books) (s : history.Stage (.begun generation true))
 (timely : ∀attempt∈history.service.attempts generation, attempt.terminalPublished=false):
 ({ history with service:={ history.service with
     shared:={ history.service.shared with
      batches:=history.service.shared.batches ++
       ((history.service.attempts generation).map startFailureBatch).toList }
     caller:=.finishing generation } } : History).Invariant:=by
 obtain ⟨⟨current,live,quiet,attempt,found,waits,opens⟩,cancelled⟩:=s
 refine ⟨books.sameAttempts rfl rfl,?_⟩
 have handed:attempt.pendingBatch=none:=by
  have ok:=books.phases generation attempt found
  simp only [PhaseOk,waits] at ok
  exact ok.1
 have own:(startFailureBatch attempt).generation=generation:=
  (books.keyed generation attempt found).1
 have owned:=live.owned
 rw [recursive_of_found found] at owned
 obtain ⟨owned,closed⟩:=closed_reported owned (opens (timely attempt found))
  (cancelled attempt found) handed quiet own rfl rfl
 have same:({ history with service:={ history.service with
   shared:={ history.service.shared with
    batches:=history.service.shared.batches ++
     ((history.service.attempts generation).map startFailureBatch).toList }
   caller:=.finishing generation } } : History).recursive generation=attempt.recursive:=
  recursive_of_found found
 refine ⟨current,?_,?_⟩
 · rw [same]
   change Owned _ _ { history.service.shared with
    batches:=history.service.shared.batches ++
     ((history.service.attempts generation).map startFailureBatch).toList }
   rw [found]
   exact owned
 · rw [same]
   change Closed _ (history.service.attempts generation) { history.service.shared with
    batches:=history.service.shared.batches ++
     ((history.service.attempts generation).map startFailureBatch).toList }
    (history.deliveredOf generation) (history.acceptedOf generation)
   rw [found]
   exact closed

lemma done_invariant (books : history.Books) (s : history.Stage (.reported generation)):
 ({ history with service:=
     { history.service.modifyAttempt generation ({ · with done:=true }) with
       caller:=.retiring generation } } : History).Invariant:=by
 obtain ⟨current,owned,closed⟩:=s
 have changes:∀attempt∈history.service.attempts generation,
   Allowed attempt { attempt with done:=true } := fun attempt _=>Allowed.same rfl rfl rfl
 have same:({ history with service:=
   { history.service.modifyAttempt generation ({ · with done:=true }) with
     caller:=.retiring generation } } : History).recursive=history.recursive:=
  modified_recursive changes rfl
 refine ⟨books.modified changes rfl rfl,?_⟩
 refine ⟨current,?_,?_⟩
 · rw [same]
   exact owned
 · rw [same]
   refine closed.stays ⟨rfl,rfl,rfl⟩ ?_ ?_
   · intro a member
     obtain ⟨attempt,found,equal⟩:=
      Option.map_eq_some_iff.mp ((modified_self _ _).symm.trans member)
     cases equal
     exact closed.stopped attempt found
   · intro a member
     obtain ⟨attempt,found,equal⟩:=
      Option.map_eq_some_iff.mp ((modified_self _ _).symm.trans member)
     cases equal
     exact closed.handed attempt found

lemma retired_invariant (books : history.Books) (s : history.Stage (.reported generation))
 (slots : SameSlots history.service.shared shared):
 ({ history with service:={ history.service with
     shared:=shared
     caller:=.idle } } : History).Invariant:=by
 obtain ⟨current,owned,closed⟩:=s
 refine ⟨books.sameAttempts rfl rfl,?_,?_⟩
 · intro absent
   cases current.symm.trans absent
 · intro other here
   cases current.symm.trans here
   exact ⟨slots.owned owned,.inr (closed.stays slots closed.stopped closed.handed)⟩

/-- The caller is not about to report a failed start of an attempt for which the monitor has
published a timeout. -/
def timely (history:History) : Bool:=
 match history.service.caller with
 | .reportingStart generation=>
  (history.service.attempts generation).all (!·.terminalPublished)
 | _=>true

lemma caller_invariant {starts : Bool} (invariant : history.Invariant)
 (timely : history.timely=true) (step : callerStep history.service starts=some service):
 ({ history with service:=service } : History).Invariant:=by
 obtain ⟨books,s⟩:=invariant
 unfold callerStep at step
 split at step
 · cases step
 next call caller =>
  cases step
  refine ⟨books.sameAttempts rfl rfl,?_⟩
  rw [caller] at s
  cases call<;>exact s
 next stopped left call caller =>
  cases step
  refine stopped_invariant books ?_ ?_
  · rw [caller] at s
    cases call<;>exact s
  · cases call
    · exact .inl ⟨_,rfl⟩
    · exact .inr ⟨_,rfl⟩
 next request caller =>
  rw [caller] at s
  obtain rfl:=Option.some.inj step
  unfold register
  dsimp only
  split
  · refine refused_invariant books s ?_ ?_ ?_ rfl rfl rfl<;>rfl
  · exact registered_invariant books s (boundedRequest_generation request) rfl rfl rfl rfl
     rfl rfl
 next generation caller =>
  rw [caller] at s
  cases step
  exact erased_invariant books s
 next generation caller =>
  rw [caller] at s
  split at step
  · cases step
    obtain ⟨attempt,found,-⟩:=s.1.attempt
    exact begun_invariant books s.1 found (Allowed.same rfl rfl rfl) rfl rfl rfl rfl rfl rfl
     rfl rfl id (s.2 attempt found) rfl
  · cases step
    obtain ⟨⟨current,live,quiet,waiting⟩,uncancelled⟩:=s
    exact ⟨books.sameAttempts rfl rfl,⟨current,live,quiet,waiting⟩,uncancelled⟩
 next generation caller =>
  rw [caller] at s
  split at step
  · cases step
    exact started_invariant books s
  · cases step
    obtain ⟨⟨current,live,quiet,waiting⟩,uncancelled⟩:=s
    exact ⟨books.sameAttempts rfl rfl,⟨current,live,quiet,waiting⟩,uncancelled⟩
 next generation caller =>
  rw [caller] at s
  cases step
  obtain ⟨attempt,found,-⟩:=s.1.attempt
  exact begun_invariant books s.1 found (Allowed.same rfl rfl rfl) rfl rfl rfl rfl rfl rfl
   rfl rfl (fun _=>rfl) rfl rfl
 next generation caller =>
  rw [caller] at s
  cases step
  refine reported_invariant books s ?_
  intro attempt found
  simpa only [History.timely,caller,Option.mem_def.mp found,Option.all_some,
   Bool.not_eq_true'] using timely
 next generation caller =>
  rw [caller] at s
  cases step
  exact done_invariant books s
 next generation caller =>
  rw [caller] at s
  cases step
  refine retired_invariant books s ?_
  cases history.service.attempts generation<;>exact ⟨rfl,rfl,rfl⟩

end Caller

/-! ## Runs -/

lemma submit_invariant (invariant : history.Invariant) (request : CatalogRequest)
 (fresh : request.generation∉history.used):
 ({ history with
  service:={ history.service with
   activeGeneration:=request.generation
   caller:=.collecting (.submit request) }
  used:=request.generation::history.used
  current:=some request.generation } : History).Invariant:=by
 have books:=invariant.books
 have nonzero:request.generation≠0:=by
  intro zero
  rw [zero] at fresh
  exact fresh books.zero
 refine ⟨⟨rfl,List.mem_cons_of_mem _ books.zero,?_,?_,books.unheard,?_,books.phases,
  books.sound⟩,rfl,nonzero,?_,books.undelivered _ fresh⟩
 · intro generation here
   cases here
   exact List.mem_cons_self
 · intro generation attempt found
   obtain ⟨key,used,other⟩:=books.keyed generation attempt found
   exact ⟨key,List.mem_cons_of_mem _ used,other⟩
 · intro generation unused
   exact books.undelivered generation (fun used=>unused (List.mem_cons_of_mem _ used))
 · change history.service.attempts request.generation=none
   cases found:history.service.attempts request.generation with
   | none=>rfl
   | some attempt=>exact absurd (books.keyed _ attempt found).2.1 fresh

lemma cancel_invariant (invariant : history.Invariant) (generation : RequestGeneration)
 (idle : history.service.caller=.idle) (active : history.service.activeGeneration=generation)
 :
 ({ history with
  service:={ history.service with
   activeGeneration:=0
   caller:=.collecting (.cancel generation) }
  current:=none } : History).Invariant:=by
 obtain ⟨books,s⟩:=invariant
 rw [idle] at s
 refine ⟨⟨rfl,books.zero,?_,books.keyed,books.unheard,books.undelivered,books.phases,
  books.sound⟩,rfl,?_⟩
 · intro other here
   cases here
 · cases current:history.current with
   | none=>
    obtain ⟨batches,terminal,progress⟩:=s.1 current
    refine ⟨false,?_,?_,?_⟩
    · intro b member
      cases batches ▸ member
    · intro b member
      cases terminal ▸ member
    · intro b member
      cases progress ▸ member
   | some other=>
    have same:=books.active
    rw [active,current] at same
    subst same
    exact ⟨_,(s.2 _ current).owned⟩

lemma poll_invariant (invariant : history.Invariant) (idle : history.service.caller=.idle):
 (∀b∈(poll history.service.shared).1,history.current=some b.generation) ∧
 ({ history with
  service:={ history.service with shared:=(poll history.service.shared).2 }
  delivered:=history.delivered++(poll history.service.shared).1.toList }:
   History).Invariant:=by
 obtain ⟨books,s⟩:=invariant
 rw [idle] at s
 obtain absent | ⟨generation,current⟩:=Option.eq_none_or_eq_some history.current
 · obtain ⟨batches,terminal,progress⟩:=s.1 absent
   have batches:history.service.shared.batches=[]:=batches
   have terminal:history.service.shared.terminalBatch=none:=terminal
   have progress:history.service.shared.progressBatch=none:=progress
   have nothing:poll history.service.shared=
     (none,{ history.service.shared with progressBatch:=none }):=by
    simp only [poll,batches,terminal,progress]
   rw [nothing]
   refine ⟨(fun b member=>by cases member),?_⟩
   simp only [Option.toList_none,List.append_nil]
   refine ⟨books.sameAttempts rfl rfl,?_⟩
   change Stage _ history.service.caller.standing
   rw [idle]
   refine ⟨fun _=>⟨batches,terminal,rfl⟩,?_⟩
   intro generation here
   cases absent.symm.trans here
 · obtain ⟨own,live⟩:=live_poll (s.2 generation current)
   have single:∀b∈(poll history.service.shared).1.toList,
     b.generation=generation := fun b member=>own b (by simpa using member)
   refine ⟨fun b member=>current.trans (congrArg some (own b member).symm),?_⟩
   have others:∀other,other≠generation →
     ofGeneration other (history.delivered++(poll history.service.shared).1.toList)=
      history.deliveredOf other:=by
    intro other d
    rw [ofGeneration_append,ofGeneration_other single d,List.append_nil]
    rfl
   have self:ofGeneration generation
     (history.delivered++(poll history.service.shared).1.toList)=
      history.deliveredOf generation++(poll history.service.shared).1.toList:=by
    rw [ofGeneration_append,ofGeneration_own single]
    rfl
   rw [←self] at live
   refine ⟨⟨books.active,books.zero,books.current,books.keyed,books.unheard,?_,books.phases,
    ?_⟩,?_⟩
   · intro other unused
     have d:other≠generation:=by
      intro same
      exact unused (same ▸ books.current generation current)
     exact (others other d).trans (books.undelivered other unused)
   · intro other
     by_cases same:other=generation
     · subst same
       exact live.inOrder
     · change InOrder _ (ofGeneration other
        (history.delivered++(poll history.service.shared).1.toList)) _
       rw [others other same]
       exact books.sound other
   · change Stage _ history.service.caller.standing
     rw [idle]
     refine ⟨(fun absent=>by cases current.symm.trans absent),?_⟩
     intro other here
     cases current.symm.trans here
     exact live

lemma step_invariant {history' : History} {event : Event} (invariant : history.Invariant)
 (timely : history.timely=true) (step : history.step event=some history'):
 history'.Invariant:=by
 cases event with
 | submit request=>
  simp only [History.step] at step
  split at step
  next allowed =>
   cases step
   exact submit_invariant invariant request allowed.2
  · cases step
 | cancel generation=>
  simp only [History.step] at step
  split at step
  · cases step
  next idle =>
   split at step
   · cases step
     exact invariant
   next active =>
    cases step
    exact cancel_invariant invariant generation (not_not.mp idle) (not_not.mp active)
 | poll=>
  simp only [History.step] at step
  split at step
  · cases step
  next idle =>
   cases step
   exact (poll_invariant invariant (not_not.mp idle)).2
 | caller starts=>
  simp only [History.step] at step
  obtain ⟨service,next,rfl⟩:=Option.map_eq_some_iff.mp step
  exact caller_invariant invariant timely next
 | monitor generation expired=>
  obtain ⟨attempt,found,rest⟩:=Option.bind_eq_some_iff.mp step
  obtain ⟨result,next,equal⟩:=Option.bind_eq_some_iff.mp rest
  have key:=(invariant.books.keyed generation attempt found).1
  have after:=afterThread_invariant found key (threadStep_monitor next) invariant
  cases equal
  unfold afterThread at after
  rw [List.append_nil,List.append_nil] at after
  exact after
 | worker generation input=>
  obtain ⟨attempt,found,rest⟩:=Option.bind_eq_some_iff.mp step
  obtain ⟨result,next,equal⟩:=Option.bind_eq_some_iff.mp rest
  have key:=(invariant.books.keyed generation attempt found).1
  have ok:=invariant.books.phases generation attempt found
  have after:=afterThread_invariant found key (threadStep_worker ok next) invariant
  cases equal
  exact after

/-- The history after a number of steps, where no failed start is reported late. -/
def runTimely (history:History) : List Event → Option History
 | []=>some history
 | event::rest=>
  if history.timely then (history.step event).bind (·.runTimely rest) else none

lemma start_invariant (i : ℕ) : (start i).Invariant:=by
 refine ⟨⟨rfl,List.mem_singleton_self 0,?_,?_,fun _ _=>⟨rfl,rfl⟩,fun _ _=>rfl,?_,
  fun generation=>InOrder.blank _⟩,fun _=>⟨rfl,rfl,rfl⟩,?_⟩
 · intro generation here
   cases here
 · intro generation attempt found
   cases found
 · intro generation attempt found
   cases found
 · intro generation here
   cases here

lemma run_invariant {events : List Event} : ∀ {history history' : History},history.Invariant →
  history.runTimely events=some history' → history'.Invariant:=by
 induction events with
 | nil=>
  intro history history' invariant run
  cases run
  exact invariant
 | cons event rest ih=>
  intro history history' invariant run
  simp only [runTimely] at run
  split at run
  next timely =>
   obtain ⟨next,step,run⟩:=Option.bind_eq_some_iff.mp run
   exact ih (step_invariant invariant timely step) run
  · cases run

end History

/-- After every run: a result of `poll` belongs to the generation submitted last, and
there is none once that was cancelled; nothing is delivered behind a final batch; the delivered
entries begin the accepted ones, and these the produced ones; while a request is current, what
was accepted is what was delivered and is outstanding, the progress reports apart; and an attempt
of the current request that is done has a final batch. -/
theorem listing_exact {inactivityTimeoutMs : ℕ} {events : List Event} {history : History}
 (run : (start inactivityTimeoutMs).runTimely events=some history):
 (history.service.caller=.idle → ∀batch∈(poll history.service.shared).1,
  history.current=some batch.generation) ∧
 (∀generation,
  ((history.deliveredOf generation).Pairwise fun earlier _=>earlier.isFinal=false) ∧
  entriesOf (history.deliveredOf generation) <+: entriesOf (history.acceptedOf generation) ∧
  entriesOf (history.acceptedOf generation) <+: entriesOf (history.producedOf generation)) ∧
 (history.service.caller=.idle → ∀generation,history.current=some generation →
  Follows (listing (history.recursive generation) (history.acceptedOf generation))
   (listing (history.recursive generation) (history.deliveredOf generation) ++
    history.outstanding generation) ∧
  ∀attempt∈history.service.attempts generation,attempt.done=true →
   ∃ batch∈history.deliveredOf generation++history.outstanding generation,
    batch.isFinal=true):=by
 have invariant:=History.run_invariant (History.start_invariant inactivityTimeoutMs) run
 have books:=invariant.books
 have stage:=invariant.stage
 refine ⟨fun idle=>(History.poll_invariant invariant idle).1,?_,?_⟩
 · intro generation
   have sound:=books.sound generation
   refine ⟨sound.once,?_,?_⟩
   · obtain ⟨rest,follows⟩:=sound.kept
     have same:=follows.entries
     rw [entriesOf_append,entriesOf_listing,entriesOf_listing] at same
     exact ⟨_,same⟩
   · cases found:history.service.attempts generation with
     | some attempt=>exact phaseOk_prefix (books.phases generation attempt found)
     | none=>
      rw [(books.unheard generation found).1]
      exact List.nil_prefix
 · intro idle generation current
   rw [idle] at stage
   have live:=stage.2 generation current
   refine ⟨live.follows,?_⟩
   intro attempt found done
   obtain ⟨-,⟨a,equal,opened⟩ | closed⟩:=live
   · cases found.symm.trans equal
     cases opened.notDone.symm.trans done
   · obtain ⟨batch,member,final⟩:=closed.carried.final
     refine ⟨batch,?_,final⟩
     simp only [List.mem_append] at member ⊢
     obtain (member | member) | member:=member
     · exact .inl (List.mem_filter.mp member).1
     · exact .inr (by simp [History.outstanding,member])
     · exact .inr (by simp only [History.outstanding,List.mem_append]; exact .inl (.inr member))

def recursiveRequest : CatalogRequest := { generation:=1,path:=[47,97],recursive:=true }

/-- `submit` up to the start of the monitor, for a request that is started. -/
def opening (request : CatalogRequest) : List Event:=
 [.submit request,.caller true,.caller true,.caller true]

/-- The transport thread up to its first frame. -/
def connecting (generation : RequestGeneration) : List Event:=
 [.caller true,.worker generation (.started none),.worker generation .proceed,
  .worker generation (.written none),.worker generation .proceed]

def oneEntry : CatalogBatch := { generation:=1,entries:=[{ nameUtf8:=[98] }] }

/-- One file is found and delivered, then the helper reports the end. -/
theorem listing_exact_two_batches : ∃ events history,
 (start 20000).runTimely events=some history ∧ history.current=some 1 ∧
  (history.delivered.map fun batch=>(batch.entries.length,batch.isFinal))=[(1,false),(0,true)] ∧
  ((history.deliveredOf 1).Pairwise fun earlier _=>earlier.isFinal=false) ∧
  entriesOf (history.deliveredOf 1) <+: entriesOf (history.acceptedOf 1):=by
 let events:=opening recursiveRequest++connecting 1 ++
  [.worker 1 (.decoded oneEntry),.worker 1 (.clock false),.worker 1 .proceed,.poll,
   .worker 1 (.decoded { generation:=1,isFinal:=true }),.worker 1 (.clock false),.poll]
 have computed:((start 20000).runTimely events).map (fun history =>
   (history.current,history.delivered.map fun batch =>
    (batch.entries.length,batch.isFinal)))=some (some 1,[(1,false),(0,true)]) := rfl
 obtain ⟨history,run,facts⟩:=Option.map_eq_some_iff.mp computed
 have exact_:=(listing_exact run).2.1 1
 exact ⟨events,history,run,congrArg Prod.fst facts,congrArg Prod.snd facts,exact_.1, exact_.2.1⟩

/-- A progress report that was accepted is replaced and never delivered; and when the transport
thread does not start after the monitor has run into the deadline, two final batches are
delivered. -/
theorem report_lost_and_two_finals:
 (∃ events history batch,(start 20000).run events=some history ∧
  history.service.caller=.idle ∧ history.current=some batch.generation ∧
  batch∈history.accepted ∧
  batch∉history.deliveredOf batch.generation++history.outstanding batch.generation) ∧
 (∃ events history,(start 20000).run events=some history ∧
  (history.deliveredOf 1).map (·.isFinal)=[true,true]):=by
 constructor
 · let report : CatalogBatch := { generation:=1,directoriesVisited:=1 }
   let found : CatalogBatch := { oneEntry with directoriesVisited:=1 }
   let events:=opening recursiveRequest++connecting 1 ++
    [.worker 1 (.decoded report),.worker 1 (.clock false),.worker 1 .proceed,
     .worker 1 (.decoded oneEntry),.worker 1 (.clock false),.poll]
   have computed:((start 20000).run events).map (fun history =>
     (history.service.caller,history.current,history.accepted,
      history.deliveredOf 1++history.outstanding 1))=
     some (.idle,some 1,[report,found],[found]) := rfl
   obtain ⟨history,run,facts⟩:=Option.map_eq_some_iff.mp computed
   simp only [Prod.mk.injEq] at facts
   obtain ⟨idle,current,accepted,delivered⟩:=facts
   refine ⟨events,history,report,run,idle,current,?_,?_⟩
   · rw [accepted]
     exact List.mem_cons_self
   · change report∉history.deliveredOf 1++history.outstanding 1
     rw [delivered]
     decide
 · let events := opening recursiveRequest ++
    [.monitor 1 (some true),.caller false,.caller true,.caller true,.caller true,
     .caller true,.poll,.poll]
   have computed:((start 20000).run events).map (fun history =>
     (history.deliveredOf 1).map (·.isFinal))=some [true,true] := rfl
   obtain ⟨history,run,facts⟩:=Option.map_eq_some_iff.mp computed
   exact ⟨events,history,run,facts⟩

end VoVe.DirectoryService
