import VoVe.CatalogSession

set_option autoImplicit false

namespace VoVe.CatalogSessionSafety
open ByteCodec CatalogOrder CatalogTypes CatalogSession

/-- A sink that keeps what it was given, and whether every call came when it may. -/
structure Sink where
 opened : Bool := false
 entries : List DirectoryEntry := []
 obeyed : Bool := true

def Sink.receive (sink : Sink) : SinkCall → Sink
 | .beginCatalog=>⟨true,[],sink.obeyed && !sink.opened⟩
 | .appendCatalog entries=>
  ⟨sink.opened,sink.entries++entries,sink.obeyed && sink.opened⟩
 | .finishCatalog=>⟨false,sink.entries,sink.obeyed && sink.opened⟩
 | .abortCatalog=>⟨false,sink.entries,sink.obeyed && sink.opened⟩
 | .replaceCatalog entries=>⟨sink.opened,entries,sink.obeyed && !sink.opened⟩

def after (sink : Sink) (turn : Turn) : Sink := turn.sinkCalls.foldl Sink.receive sink

section Turns
variable (sink : Sink) (turn : Turn)

@[simp] lemma after_tellSink (c : SinkCall):
 after sink (turn.tellSink c)=(after sink turn).receive c:=by
 simp [after,Turn.tellSink]

variable (c : SourceCall)

@[simp] lemma after_tellSource:
 after sink (turn.tellSource c)=after sink turn := rfl

variable (f : Session → Session)

@[simp] lemma after_update:
 after sink (turn.update f)=after sink turn := rfl

@[simp] lemma after_start (s : Session) (sourceCalls : List SourceCall):
 after sink ⟨s,[],sourceCalls⟩=sink := rfl

@[simp] lemma session_tellSink (c : SinkCall) : (turn.tellSink c).session=turn.session := rfl

@[simp] lemma session_tellSource:
 (turn.tellSource c).session=turn.session := rfl

@[simp] lemma session_update:
 (turn.update f).session=f turn.session := rfl

@[simp] lemma sourceCalls_tellSink (c : SinkCall):
 (turn.tellSink c).sourceCalls=turn.sourceCalls := rfl

@[simp] lemma sourceCalls_tellSource:
 (turn.tellSource c).sourceCalls=turn.sourceCalls++[c] := rfl

@[simp] lemma sourceCalls_update:
 (turn.update f).sourceCalls=turn.sourceCalls := rfl

@[simp] lemma session_cancelActive : turn.cancelActive.session=turn.session:=by
 unfold Turn.cancelActive
 split<;>rfl

@[simp] lemma after_cancelActive : after sink turn.cancelActive=after sink turn:=by
 unfold Turn.cancelActive
 split<;>rfl

end Turns

/-- What holds while a request is loading: `arrived` came for it, `shown` was there before it and
`refreshing` says that it must keep the visible entries until it has better ones. -/
structure Loading (s : Session) (sink : Sink) (arrived shown : List DirectoryEntry)
  (refreshing : Bool) : Prop where
 obeyed : sink.obeyed=true
 opened : sink.opened=s.sinkOpen
 staging : s.sinkOpen=!s.stageUntilSuccess
 staged : s.stageUntilSuccess=true →
  s.stagedEntries=arrived ∧ sink.entries=shown ∧ (s.recursive=true → arrived=[])
 streamed : s.stageUntilSuccess=false →
  sink.entries=arrived ∧ (refreshing=true → s.recursive=true ∧ arrived≠[])

/-- What holds once it is not: the guarantees on the entries of `sink`. -/
structure Ended (s : Session) (sink : Sink) (arrived shown : List DirectoryEntry)
  (refreshing : Bool) : Prop where
 obeyed : sink.obeyed=true
 opened : sink.opened=false
 closed : s.sinkOpen=false
 idle : s.state≠.loading
 ready : s.state=.ready → s.recursive=false → sink.entries=arrived
 failed : s.state≠.ready → s.recursive=false → refreshing=true → sink.entries=shown
 incomplete : s.recursive=true → s.truncated=true → arrived=[] → refreshing=true →
  sink.entries=shown

section Polls
variable {sink : Sink} {turn : Turn} {update : CatalogSessionUpdate}
 {arrived shown : List DirectoryEntry} {refreshing : Bool}

lemma Loading.ext {s t : Session} (h:Loading s sink arrived shown refreshing)
  (hopen:t.sinkOpen=s.sinkOpen) (hstage:t.stageUntilSuccess=s.stageUntilSuccess)
  (hentries:t.stagedEntries=s.stagedEntries) (hrecursive:t.recursive=s.recursive):
  Loading t sink arrived shown refreshing where
 obeyed:=h.obeyed
 opened:=by rw [hopen,h.opened]
 staging:=by rw [hopen,hstage,h.staging]
 staged:=by rw [hstage,hentries,hrecursive]; exact h.staged
 streamed:=by rw [hstage,hrecursive]; exact h.streamed

lemma deliver_loading (update : CatalogSessionUpdate) (b : CatalogBatch)
 (h:Loading turn.session (after sink turn) arrived shown refreshing):
 Loading (deliver b (update,turn)).2.session (after sink (deliver b (update,turn)).2)
  (arrived++b.entries) shown refreshing:=by
 obtain ⟨hobeyed,hopened,hstaging,hstaged,hstreamed⟩:=h
 by_cases hempty:b.entries=[]
 · cases hstage:turn.session.stageUntilSuccess with
   | true=>
    have hparts:=hstaged hstage
    constructor<;>simp_all [deliver]
   | false=>
    have hparts:=hstreamed hstage
    constructor<;>simp_all [deliver]
 · cases hstage:turn.session.stageUntilSuccess with
   | true=>
    have hparts:=hstaged hstage
    cases hrecursive:turn.session.recursive with
    | true=>
     have hnone:=hparts.2.2 hrecursive
     constructor<;>simp_all [deliver,Turn.openSink,Sink.receive]
    | false=>constructor<;>simp_all [deliver]
   | false=>
    have hparts:=hstreamed hstage
    constructor<;>simp_all [deliver,Sink.receive]

/-- What receiving a batch leaves alone. -/
structure Kept (s t : Session) : Prop where
 recursive : t.recursive=s.recursive
 activeGeneration : t.activeGeneration=s.activeGeneration

lemma Kept.trans {s t u : Session} (h:Kept s t) (h':Kept t u) : Kept s u:=
 ⟨h'.recursive.trans h.recursive,h'.activeGeneration.trans h.activeGeneration⟩

lemma deliver_kept (b : CatalogBatch) (outcome : Outcome):
 Kept outcome.2.session (deliver b outcome).2.session ∧
  (deliver b outcome).2.session.state=outcome.2.session.state ∧
  (deliver b outcome).2.session.retryIndex=outcome.2.session.retryIndex ∧
  (deliver b outcome).2.sourceCalls=outcome.2.sourceCalls:=by
 obtain ⟨update,turn⟩:=outcome
 unfold deliver
 dsimp only
 split_ifs<;>exact ⟨⟨rfl,rfl⟩,rfl,rfl,rfl⟩

lemma succeed_ended (h:Loading turn.session (after sink turn) arrived shown refreshing):
 Ended (succeed (update,turn)).2.session (after sink (succeed (update,turn)).2) arrived shown
  refreshing:=by
 obtain ⟨hobeyed,hopened,hstaging,hstaged,hstreamed⟩:=h
 cases hstage:turn.session.stageUntilSuccess with
 | true=>
  have hparts:=hstaged hstage
  cases hrecursive:turn.session.recursive with
  | true=>
   cases htruncated:turn.session.truncated <;>
    constructor<;>simp_all [succeed,Sink.receive]
  | false=>constructor<;>simp_all [succeed,Sink.receive]
 | false=>
  have hparts:=hstreamed hstage
  cases refreshing <;>
   constructor<;>simp_all [succeed,Turn.finishSinkIfOpen,Sink.receive]

lemma dropEntries_ended {s : Session} (hstate:s.state≠.loading) (hready:s.state≠.ready)
 (hopen:s.sinkOpen=(dropEntries (update,turn)).2.session.sinkOpen)
 (hrecursive:s.recursive=turn.session.recursive)
 (htruncated:s.truncated=turn.session.truncated)
 (h:Loading turn.session (after sink turn) arrived shown refreshing):
 Ended s (after sink (dropEntries (update,turn)).2) arrived shown refreshing:=by
 obtain ⟨hobeyed,hopened,hstaging,hstaged,hstreamed⟩:=h
 cases hstage:turn.session.stageUntilSuccess with
 | true=>
  have hparts:=hstaged hstage
  constructor<;>simp_all [dropEntries]
 | false=>
  have hparts:=hstreamed hstage
  cases refreshing <;>
   constructor<;>simp_all [dropEntries,Turn.abortSinkIfOpen,Sink.receive]

lemma failureState_idle (kind : CatalogErrorKind):
 failureState kind≠.loading ∧ failureState kind≠.ready ∧ failureState kind≠.waitingRetry:=by
 cases kind<;>decide

lemma dropEntries_kept (outcome : Outcome):
 Kept outcome.2.session (dropEntries outcome).2.session ∧
  (dropEntries outcome).2.session.truncated=outcome.2.session.truncated ∧
  (dropEntries outcome).2.session.retryIndex=outcome.2.session.retryIndex ∧
  (dropEntries outcome).2.sourceCalls=outcome.2.sourceCalls:=by
 obtain ⟨update,turn⟩:=outcome
 unfold dropEntries Turn.abortSinkIfOpen
 dsimp only
 split_ifs<;>exact ⟨⟨rfl,rfl⟩,rfl,rfl,rfl⟩

/-- The retry counter grows by one where a retry is scheduled, and stays within the delays. -/
def Counted (s t : Session) : Prop:=
 (t.state = .waitingRetry ∧ t.retryIndex = s.retryIndex+1 ∧ t.retryIndex ≤ retryDelays.length) ∨
  (t.state≠.waitingRetry ∧ t.retryIndex = s.retryIndex)

lemma fail_ended (now : ℤ) (error : CatalogError)
 (h:Loading turn.session (after sink turn) arrived shown refreshing):
 Ended (fail now error (update,turn)).2.session (after sink (fail now error (update,turn)).2)
  arrived shown refreshing:=by
 have hdropped:=dropEntries_kept (update,turn)
 have hidle:=failureState_idle error.kind
 unfold fail
 dsimp only
 split_ifs
 · rw [after_update,after_update]
   exact dropEntries_ended (by simp) (by simp) rfl hdropped.1.recursive hdropped.2.1 h
 · rw [after_update,after_update]
   exact dropEntries_ended hidle.1 hidle.2.1 rfl hdropped.1.recursive hdropped.2.1 h

lemma fail_kept (now : ℤ) (error : CatalogError) (outcome : Outcome):
 Kept outcome.2.session (fail now error outcome).2.session ∧
  Counted outcome.2.session (fail now error outcome).2.session ∧
  (fail now error outcome).2.sourceCalls=outcome.2.sourceCalls:=by
 have hdropped:=dropEntries_kept outcome
 have hidle:=failureState_idle error.kind
 unfold fail
 dsimp only
 split_ifs with hretry
 · have hbound:outcome.2.session.retryIndex < retryDelays.length:=by
    rw [Bool.and_eq_true,decide_eq_true_eq] at hretry
    rw [←hdropped.2.2.1]
    exact hretry.2
   refine ⟨⟨hdropped.1.recursive,hdropped.1.activeGeneration⟩,.inl ⟨rfl,?_,?_⟩, hdropped.2.2.2⟩
   · simp [hdropped.2.2.1]
   · simp [hdropped.2.2.1]
     omega
 · exact ⟨⟨hdropped.1.recursive,hdropped.1.activeGeneration⟩,.inr ⟨hidle.2.2,hdropped.2.2.1⟩,
    hdropped.2.2.2⟩

lemma succeed_kept (outcome : Outcome) : Kept outcome.2.session (succeed outcome).2.session ∧
  Counted outcome.2.session (succeed outcome).2.session ∧
  (succeed outcome).2.sourceCalls=outcome.2.sourceCalls:=by
 obtain ⟨update,turn⟩:=outcome
 unfold succeed Turn.finishSinkIfOpen
 dsimp only
 split_ifs<;>exact ⟨⟨rfl,rfl⟩,.inr ⟨by simp,rfl⟩,rfl⟩

lemma receive_spec (update : CatalogSessionUpdate) (now : ℤ) (b : CatalogBatch) (hstate:turn.session.state=.loading)
 (h:Loading turn.session (after sink turn) arrived shown refreshing):
 Kept turn.session (receive now b (update,turn)).2.session ∧
  (receive now b (update,turn)).2.sourceCalls=turn.sourceCalls ∧
  (((receive now b (update,turn)).2.session.state=.loading ∧
    (receive now b (update,turn)).2.session.retryIndex=turn.session.retryIndex ∧
    Loading (receive now b (update,turn)).2.session
     (after sink (receive now b (update,turn)).2) (arrived++b.entries) shown
     refreshing) ∨
   (Counted turn.session (receive now b (update,turn)).2.session ∧
    Ended (receive now b (update,turn)).2.session
     (after sink (receive now b (update,turn)).2) (arrived++b.entries) shown
     refreshing)):=by
 unfold receive
 dsimp only
 generalize hvisited : turn.update _=visited
 have hloading:Loading visited.session (after sink visited) arrived shown refreshing:=by
  rw [←hvisited,after_update]
  exact h.ext rfl rfl rfl rfl
 generalize hcounted : ({ update with
  directoriesVisited:=visited.session.directoriesVisited
  entriesReceived:=b.entries.length } : CatalogSessionUpdate)=counted
 have hkept:=deliver_kept b (counted,visited)
 have hdelivered:=deliver_loading counted b hloading
 generalize hnext : (deliver b (counted,visited)).2.update _=next
 have hnow:Loading next.session (after sink next) (arrived++b.entries) shown
   refreshing:=by
  rw [←hnext,after_update]
  exact hdelivered.ext rfl rfl rfl rfl
 have hsame:Kept turn.session next.session ∧ next.session.state=.loading ∧
   next.session.retryIndex=turn.session.retryIndex ∧
   next.sourceCalls=turn.sourceCalls:=by
  rw [←hnext]
  rw [←hvisited] at hkept ⊢
  exact ⟨⟨hkept.1.recursive,hkept.1.activeGeneration⟩,hkept.2.1.trans hstate,hkept.2.2.1,
   hkept.2.2.2⟩
 split_ifs
 · exact ⟨hsame.1,hsame.2.2.2,.inl ⟨hsame.2.1,hsame.2.2.1,hnow⟩⟩
 · have hend:=succeed_kept
    ({ (deliver b (counted,visited)).1 with truncated:=next.session.truncated },next)
   refine ⟨hsame.1.trans hend.1,hend.2.2.trans hsame.2.2.2,.inr ⟨?_,succeed_ended hnow⟩⟩
   rw [Counted,←hsame.2.2.1]
   exact hend.2.1
 · have hend:=fail_kept now b.error
    ({ (deliver b (counted,visited)).1 with truncated:=next.session.truncated },next)
   refine ⟨hsame.1.trans hend.1,hend.2.2.trans hsame.2.2.2,.inr ⟨?_,fail_ended now _ hnow⟩⟩
   rw [Counted,←hsame.2.2.1]
   exact hend.2.1

end Polls

/-- The calls on a session; a poll comes with what the source would answer to it. -/
inductive Event where
 | openCatalog (path : Bytes) (maximumEntries : UInt64) (recursive preserveVisibleEntries : Bool)
 | refresh
 | suspend
 | poll (now : ℤ) (offered : List CatalogBatch)

/-- The answers of the source that `poll` takes: up to the first of the active generation. -/
def takeBatches (generation : RequestGeneration) : List CatalogBatch → List CatalogBatch
 | []=>[]
 | candidate::offered=>
  if candidate.generation = generation then [candidate]
  else candidate::takeBatches generation offered

namespace Event

def turn : Event → Session → Turn
 | .openCatalog path maximumEntries recursive preserve, s=>
  if path = [] then { session:=s } else
   CatalogSession.openCatalog path maximumEntries recursive preserve s
 | .refresh, s=>CatalogSession.refresh s
 | .suspend, s=>CatalogSession.suspend s
 | .poll now offered, s=>(CatalogSession.poll now offered s).2

def taken : Event → Session → List CatalogBatch
 | .poll now offered, s=>
  if (resume now s).session.state = .loading then
   takeBatches (resume now s).session.activeGeneration offered
  else []
 | _, _=>[]

/-- Whether a request that the event submits keeps the visible entries. -/
def refreshes : Event → Bool
 | .openCatalog _ _ _ preserve=>preserve
 | _=>true

def isPoll : Event → Bool
 | .poll ..=>true
 | _=>false

end Event

def isSubmit : SourceCall → Bool
 | .submit _=>true
 | .cancel _=>false

def submits (turn : Turn) : ℕ := turn.sourceCalls.countP isSubmit

/-- A session and its sink, and since the last request: the batches taken from the source, the
entries shown before it and whether it is a refresh. `retries` counts the requests that polls have
submitted since the last other call. -/
structure Watch where
 session : Session := {}
 sink : Sink := {}
 taken : List CatalogBatch := []
 shown : List DirectoryEntry := []
 refreshing : Bool := false
 retries : ℕ := 0

def arrivedOf (generation : RequestGeneration) (batches : List CatalogBatch):
  List DirectoryEntry:=
 (batches.filter fun batch=>batch.generation = generation).flatMap fun batch=>batch.entries

namespace Watch

def arrived (w : Watch) : List DirectoryEntry := arrivedOf w.session.activeGeneration w.taken

def step (w : Watch) (event : Event) : Watch:=
 let turn:=event.turn w.session
 { session:=turn.session
   sink:=after w.sink turn
   taken:=(if submits turn = 0 then w.taken else [])++event.taken w.session
   shown:=if submits turn = 0 then w.shown else w.sink.entries
   refreshing:=if submits turn = 0 then w.refreshing else event.refreshes
   retries:=if event.isPoll then w.retries+submits turn else 0 }

/-- A new session on a closed sink, after some calls. -/
def run (entries : List DirectoryEntry) (events : List Event) : Watch:=
 events.foldl step { sink:={ entries:=entries } }

end Watch

structure Sound (w : Watch) : Prop where
 obeyed : w.sink.obeyed=true
 opened : w.sink.opened=w.session.sinkOpen
 loading : w.session.state=.loading → Loading w.session w.sink w.arrived w.shown w.refreshing
 idle : w.session.state≠.loading → w.session.sinkOpen=false
 ready : w.session.state=.ready → w.session.recursive=false → w.sink.entries=w.arrived
 counted : w.retries≤w.session.retryIndex
 bounded : w.session.retryIndex ≤ retryDelays.length
 waiting : w.session.state=.waitingRetry → w.retries<w.session.retryIndex

section Requests
variable {sink : Sink} {turn : Turn} (generation : RequestGeneration)

lemma arrivedOf_append (xs ys : List CatalogBatch):
 arrivedOf generation (xs++ys)=arrivedOf generation xs++arrivedOf generation ys:=by
 simp [arrivedOf]

variable (offered : List CatalogBatch)

lemma arrivedOf_takeBatches : arrivedOf generation (takeBatches generation offered)=
   match nextBatch generation offered with
   | none=>[]
   | some b=>b.entries:=by
 induction offered with
 | nil=>rfl
 | cons candidate offered ih=>
  by_cases hmine:candidate.generation=generation
  · simp [takeBatches,nextBatch,hmine,arrivedOf]
  · simp only [takeBatches,nextBatch,if_neg hmine]
    rw [←ih]
    simp [arrivedOf,hmine]

lemma nextBatch_filter : nextBatch generation (offered.filter fun b=>b.generation=generation)=
  nextBatch generation offered:=by
 induction offered with
 | nil=>rfl
 | cons candidate offered ih=>
  by_cases hmine:candidate.generation=generation
  · simp [nextBatch,hmine]
  · simp [nextBatch,hmine,ih]

lemma poll_filter (now : ℤ) (offered : List CatalogBatch) (s : Session):
 poll now (offered.filter fun b =>
  b.generation=(resume now s).session.activeGeneration) s=poll now offered s:=by
 unfold poll
 dsimp only
 rw [nextBatch_filter]

lemma submits_submit (turn : Turn) (request : CatalogRequest):
 submits (turn.tellSource (.submit request))=submits turn+1:=by
 simp [submits,isSubmit]

@[simp] lemma submits_cancelActive (turn : Turn) : submits turn.cancelActive=submits turn:=by
 unfold Turn.cancelActive submits
 split
 · simp [isSubmit]
 · rfl

lemma beginRequest_submits (preserve : Bool) (turn : Turn):
 submits (beginRequest preserve turn)=submits turn+1:=
 submits_submit _ _

lemma beginRequest_loading {preserve : Bool} {shown : List DirectoryEntry}
 (hobeyed:(after sink turn).obeyed=true)
 (hopened:(after sink turn).opened=turn.session.sinkOpen)
 (hopen:turn.session.sinkOpen=!preserve)
 (hshown:(after sink turn).entries=if preserve then shown else []):
 Loading (beginRequest preserve turn).session (after sink (beginRequest preserve turn)) [] shown
  preserve:=by
 unfold beginRequest
 dsimp only
 rw [after_tellSource,after_update]
 constructor
 · exact hobeyed
 · exact hopened
 · exact hopen
 · intro hstage
   have hpreserve:preserve=true:=hstage
   rw [if_pos hpreserve] at hshown
   exact ⟨rfl,hshown,fun _=>rfl⟩
 · intro hstage
   have hpreserve:preserve=false:=hstage
   rw [hpreserve,if_neg Bool.false_ne_true] at hshown
   rw [hpreserve]
   exact ⟨hshown,fun h=>absurd h Bool.false_ne_true⟩

lemma closed_sink (hobeyed:sink.obeyed=true) (hopened:sink.opened=false):
 sink = ⟨false,sink.entries,true⟩:=by
 cases sink
 simp_all

lemma closed_session {s : Session} (h:s.sinkOpen=false) : s={ s with sinkOpen:=false }:=by
 cases s
 simp_all

lemma finishSinkIfOpen_closes (hobeyed:(after sink turn).obeyed=true)
 (hopened:(after sink turn).opened=turn.session.sinkOpen):
 after sink turn.finishSinkIfOpen = ⟨false,(after sink turn).entries,true⟩ ∧
  turn.finishSinkIfOpen.session={ turn.session with sinkOpen:=false } ∧
  submits turn.finishSinkIfOpen=submits turn:=by
 unfold Turn.finishSinkIfOpen
 split
 · next hopen => simp [Sink.receive,hobeyed,hopened,hopen,submits]
 · next hopen =>
   have hclosed:turn.session.sinkOpen=false:=by simpa using hopen
   exact ⟨closed_sink hobeyed (hopened.trans hclosed),closed_session hclosed,rfl⟩

lemma abortSinkIfOpen_closes (hobeyed:(after sink turn).obeyed=true)
 (hopened:(after sink turn).opened=turn.session.sinkOpen):
 after sink turn.abortSinkIfOpen = ⟨false,(after sink turn).entries,true⟩ ∧
  turn.abortSinkIfOpen.session={ turn.session with sinkOpen:=false } ∧
  submits turn.abortSinkIfOpen=submits turn:=by
 unfold Turn.abortSinkIfOpen
 split
 · next hopen => simp [Sink.receive,hobeyed,hopened,hopen,submits]
 · next hopen =>
   have hclosed:turn.session.sinkOpen=false:=by simpa using hopen
   exact ⟨closed_sink hobeyed (hopened.trans hclosed),closed_session hclosed,rfl⟩

end Requests

section Steps
variable {w : Watch}

lemma sound_submitted {e : Event} (hfresh:submits (e.turn w.session)=1)
 (htaken:e.taken w.session=[])
 (hstate:(e.turn w.session).session.state=.loading)
 (hloading:Loading (e.turn w.session).session (after w.sink (e.turn w.session)) []
  w.sink.entries e.refreshes)
 (hcounted:(if e.isPoll then w.retries+1 else 0)≤(e.turn w.session).session.retryIndex)
 (hbounded:(e.turn w.session).session.retryIndex ≤ retryDelays.length):
 Sound (w.step e):=by
 have harrived:(w.step e).arrived=[]:=by
  simp [Watch.arrived,Watch.step,hfresh,htaken,arrivedOf]
 have hnow:Loading (w.step e).session (w.step e).sink [] (w.step e).shown
   (w.step e).refreshing:=by
  simpa [Watch.step,hfresh] using hloading
 refine ⟨hloading.obeyed,hloading.opened,?_,?_,?_,?_,hbounded,?_⟩
 · intro _
   rw [harrived]
   exact hnow
 · intro hidle
   exact absurd hstate hidle
 · intro hready
   have hready:(e.turn w.session).session.state=.ready:=hready
   rw [hstate] at hready
   cases hready
 · simpa [Watch.step,hfresh] using hcounted
 · intro hwaiting
   have hwaiting:(e.turn w.session).session.state=.waitingRetry:=hwaiting
   rw [hstate] at hwaiting
   cases hwaiting

lemma sound_same {e : Event} (h:Sound w)
 (hturn:e.turn w.session={ session:=w.session }) (htaken:e.taken w.session=[]):
 Sound (w.step e):=by
 have hsubmits:submits (e.turn w.session)=0:=by rw [hturn]; rfl
 have hretries:(w.step e).retries≤w.retries:=by
  simp only [Watch.step,hsubmits]
  split<;>omega
 have harrived:(w.step e).arrived=w.arrived:=by
  simp [Watch.arrived,Watch.step,hturn,htaken,submits]
 have hsession:(w.step e).session=w.session:=by simp [Watch.step,hturn]
 have hsink:(w.step e).sink=w.sink:=by simp [Watch.step,hturn]
 constructor
 · rw [hsink]
   exact h.obeyed
 · rw [hsink,hsession]
   exact h.opened
 · have hshown:(w.step e).shown=w.shown:=by simp [Watch.step,hsubmits]
   have hrefreshing:(w.step e).refreshing=w.refreshing:=by
    simp [Watch.step,hsubmits]
   rw [hsession,hsink,harrived,hshown,hrefreshing]
   exact h.loading
 · rw [hsession]
   exact h.idle
 · rw [hsession,hsink,harrived]
   exact h.ready
 · rw [hsession]
   exact hretries.trans h.counted
 · rw [hsession]
   exact h.bounded
 · rw [hsession]
   intro hwaiting
   have hmore:=h.waiting hwaiting
   omega

lemma sound_refresh (h:Sound w) : Sound (w.step .refresh):=by
 by_cases hpath:w.session.path=[]
 · apply sound_same h
   · simp [Event.turn,refresh,hpath]
   · rfl
 · have hclosed:=@finishSinkIfOpen_closes w.sink (Turn.mk w.session [] []).cancelActive
    (by simpa using h.obeyed) (by simpa using h.opened)
   have hturn:Event.turn .refresh w.session=beginRequest true
     ((Turn.mk w.session [] []).cancelActive.finishSinkIfOpen.update fun s =>
      { s with retryIndex:=0,retryAt:=0,lastError:={},truncated:=false }):=by
    simp [Event.turn,refresh,hpath]
   apply sound_submitted
   · have hzero:=hclosed.2.2.trans (submits_cancelActive _)
     rw [hturn,beginRequest_submits]
     exact congrArg (·+1) hzero
   · rfl
   · rw [hturn]
     rfl
   · rw [hturn]
     apply beginRequest_loading
     · simp [hclosed.1]
     · simp [hclosed.1,hclosed.2.1]
     · simp [hclosed.2.1]
     · simp [hclosed.1]
   · exact Nat.zero_le _
   · rw [hturn]
     exact Nat.zero_le _

lemma sound_open (h:Sound w) (path : Bytes) (maximumEntries : UInt64)
 (recursive preserve : Bool):
 Sound (w.step (.openCatalog path maximumEntries recursive preserve)):=by
 by_cases hpath:path=[]
 · apply sound_same h
   · simp [Event.turn,hpath]
   · rfl
 · have hclosed:=@finishSinkIfOpen_closes w.sink (Turn.mk w.session [] []).cancelActive
    (by simpa using h.obeyed) (by simpa using h.opened)
   generalize hready : ((Turn.mk w.session [] []).cancelActive.finishSinkIfOpen.update fun s =>
    { s with
      path:=path
      maximumEntries:=maximumEntries
      recursive:=recursive
      retryIndex:=0
      retryAt:=0
      lastError:={}
      truncated:=false })=ready
   have hturn:Event.turn (.openCatalog path maximumEntries recursive preserve) w.session=
     beginRequest preserve (if preserve then ready else ready.openSink):=by
    simp [Event.turn,hpath,openCatalog,hready]
   have hsink:after w.sink ready = ⟨false,w.sink.entries,true⟩:=by
    rw [←hready,after_update]
    simpa using hclosed.1
   have hopen:ready.session.sinkOpen=false:=by
    rw [←hready]
    simp [hclosed.2.1]
   have hretry:ready.session.retryIndex=0:=by rw [←hready]; rfl
   have hsubmits:submits ready=0:=by
    rw [←hready]
    exact hclosed.2.2.trans (submits_cancelActive _)
   apply sound_submitted
   · rw [hturn,beginRequest_submits]
     cases preserve<;>simpa [submits,Turn.openSink] using hsubmits
   · rfl
   · rw [hturn]
     rfl
   · rw [hturn]
     cases preserve with
     | true=>apply beginRequest_loading<;>simp [hsink,hopen]
     | false=>apply beginRequest_loading<;>simp [Turn.openSink,hsink,Sink.receive]
   · exact Nat.zero_le _
   · rw [hturn]
     cases preserve<;>simp [beginRequest,Turn.openSink,hretry]

lemma sound_suspend (h:Sound w) : Sound (w.step .suspend):=by
 generalize hstart : (if w.session.activeGeneration≠0 then
  (Turn.mk w.session [] []).cancelActive.update fun s=>{ s with activeGeneration:=0 }
  else Turn.mk w.session [] [])=start
 have hbefore:after w.sink start=w.sink ∧ start.session.sinkOpen=w.session.sinkOpen:=by
  rw [←hstart]
  split<;>simp
 have hclosed:=@abortSinkIfOpen_closes w.sink start (by rw [hbefore.1]; exact h.obeyed)
  (by rw [hbefore.1,hbefore.2]; exact h.opened)
 have hturn:Event.turn .suspend w.session=start.abortSinkIfOpen.update fun s =>
   { s with
     stagedEntries:=[]
     stageUntilSuccess:=false
     retryIndex:=0
     retryAt:=0
     lastError:={}
     truncated:=false
     state:=.unavailable }:=by
  rw [←hstart]
  rfl
 have hsession:(w.step .suspend).session.state=.unavailable:=by
  simp [Watch.step,hturn]
 have hsink:(w.step .suspend).sink = ⟨false,w.sink.entries,true⟩:=by
  simp [Watch.step,hturn,hclosed.1,hbefore.1]
 constructor
 · rw [hsink]
 · rw [hsink]
   simp [Watch.step,hturn,hclosed.2.1]
 · rw [hsession]
   exact nofun
 · intro _
   simp [Watch.step,hturn,hclosed.2.1]
 · rw [hsession]
   exact nofun
 · exact Nat.zero_le _
 · simp [Watch.step,hturn]
 · rw [hsession]
   exact nofun

lemma resume_spec (h:Sound w) (now : ℤ)
 (hstate:(resume now w.session).session.state=.loading):
 ∃ arrived shown refreshing,
  Loading (resume now w.session).session (after w.sink (resume now w.session)) arrived shown
   refreshing ∧
  arrivedOf (resume now w.session).session.activeGeneration
   (if submits (resume now w.session)=0 then w.taken else [])=arrived ∧
  (if submits (resume now w.session)=0 then w.shown else w.sink.entries)=shown ∧
  (if submits (resume now w.session)=0 then w.refreshing else true)=refreshing ∧
  w.retries+submits (resume now w.session)≤(resume now w.session).session.retryIndex ∧
  (resume now w.session).session.retryIndex ≤ retryDelays.length:=by
 by_cases hretry:w.session.state=.waitingRetry ∧ ¬now<w.session.retryAt
 · have hidle:w.session.sinkOpen=false:=h.idle (by rw [hretry.1]; simp)
   have hresume:resume now w.session=beginRequest true { session:=w.session }:=by
    rw [resume,if_pos hretry]
   have hsubmits:submits (beginRequest true { session:=w.session })=1 := rfl
   have hwaiting:=h.waiting hretry.1
   rw [hresume,hsubmits]
   refine ⟨[],w.sink.entries,true,?_,rfl,rfl,rfl,hwaiting,h.bounded⟩
   apply beginRequest_loading
   · exact h.obeyed
   · exact h.opened
   · exact hidle
   · rfl
 · have hresume:resume now w.session={ session:=w.session }:=by
    rw [resume,if_neg hretry]
   rw [hresume] at hstate ⊢
   exact ⟨w.arrived,w.shown,w.refreshing,h.loading hstate,rfl,rfl,rfl,h.counted,h.bounded⟩

lemma resume_idle (now : ℤ) (hstate:(resume now w.session).session.state≠.loading):
 resume now w.session={ session:=w.session }:=by
 unfold resume at hstate ⊢
 split
 · next hretry =>
   rw [if_pos hretry] at hstate
   exact absurd rfl hstate
 · rfl

lemma poll_idle (now : ℤ) (offered : List CatalogBatch)
 (hstate:(resume now w.session).session.state≠.loading):
 (poll now offered w.session).2={ session:=w.session }:=by
 have hresume:=resume_idle now hstate
 unfold poll
 split
 · rfl
 · dsimp only
   rw [if_pos hstate,hresume]

lemma poll_loading (now : ℤ) (offered : List CatalogBatch)
  (hstate:(resume now w.session).session.state=.loading):
  poll now offered w.session=
   match nextBatch (resume now w.session).session.activeGeneration offered with
   | none=>(makeUpdate (resume now w.session).session,resume now w.session)
   | some b=>
    receive now b (makeUpdate (resume now w.session).session,resume now w.session):=by
 have hpolls:¬(w.session.state=.waitingRetry ∧ now<w.session.retryAt):=by
  intro hwaits
  rw [resume,if_neg (by rw [not_and,not_not]; exact fun _=>hwaits.2)] at hstate
  rw [hwaits.1] at hstate
  cases hstate
 unfold poll
 dsimp only
 rw [if_neg hpolls]
 exact if_neg (not_not.mpr hstate)

/-- The guarantees about a request that this poll has ended. -/
def EndsWell (w : Watch) : Prop:=
 w.refreshing = true → (w.session.recursive = false ∧ w.session.state≠.ready) ∨
   (w.session.recursive = true ∧ w.session.truncated = true ∧ w.arrived = []) →
  w.sink.entries = w.shown

lemma poll_spec (h:Sound w) (now : ℤ) (offered : List CatalogBatch)
 (hstate:(resume now w.session).session.state=.loading):
 Sound (w.step (.poll now offered)) ∧ ((w.step (.poll now offered)).session.state≠.loading →
   EndsWell (w.step (.poll now offered))):=by
 obtain ⟨arrived,shown,refreshing,hloading,harrived,hshown,hrefreshing,hcounted,hbounded⟩:=
  resume_spec h now hstate
 have hpoll:=poll_loading now offered hstate
 have htaken:=arrivedOf_takeBatches (resume now w.session).session.activeGeneration offered
 generalize hnext : w.step (.poll now offered)=next
 have hsession:next.session=(poll now offered w.session).2.session:=by rw [←hnext]; rfl
 have hsink:next.sink=after w.sink (poll now offered w.session).2:=by rw [←hnext]; rfl
 have hretries:next.retries=w.retries+submits (poll now offered w.session).2:=by
  rw [←hnext]
  rfl
 cases hbatch:nextBatch (resume now w.session).session.activeGeneration offered with
 | none=>
  rw [hbatch] at hpoll htaken
  have hsame:(poll now offered w.session).2=resume now w.session:=by rw [hpoll]
  have harrivedNow:next.arrived=arrived:=by
   rw [←hnext,Watch.arrived,Watch.step]
   simp only [Event.turn,Event.taken,hsame,if_pos hstate,arrivedOf_append,htaken,
    harrived,List.append_nil]
  have hnow:Loading next.session next.sink next.arrived next.shown next.refreshing:=by
   rw [harrivedNow,hsession,hsink,hsame,←hnext]
   simpa [Watch.step,Event.turn,hsame,hshown,hrefreshing,Event.refreshes] using hloading
  have hnextState:next.session.state=.loading:=by rw [hsession,hsame,hstate]
  constructor
  · refine ⟨hnow.obeyed,hnow.opened,fun _=>hnow,?_,?_,?_,?_,?_⟩
    · exact fun hidle=>absurd hnextState hidle
    · rw [hnextState]
      exact nofun
    · rw [hretries,hsession,hsame]
      exact hcounted
    · rw [hsession,hsame]
      exact hbounded
    · rw [hnextState]
      exact nofun
  · exact fun hidle=>absurd hnextState hidle
 | some b=>
  rw [hbatch] at hpoll htaken
  have hreceived:=receive_spec (makeUpdate (resume now w.session).session) now b hstate
   hloading
  have houtcome:(poll now offered w.session).2=
    (receive now b (makeUpdate (resume now w.session).session,resume now w.session)).2:=by
   rw [hpoll]
  rw [←houtcome] at hreceived
  obtain ⟨hkept,hcalls,hstep⟩:=hreceived
  have hsubmits:submits (poll now offered w.session).2=submits (resume now w.session):=by
   rw [submits,hcalls,submits]
  have harrivedNow:next.arrived=arrived++b.entries:=by
   rw [←hnext,Watch.arrived,Watch.step]
   simp only [Event.turn,Event.taken,hsubmits,if_pos hstate,arrivedOf_append,
    hkept.activeGeneration,htaken,harrived]
  have hshownNow:next.shown=shown:=by
   rw [←hnext]
   simpa [Watch.step,Event.turn,hsubmits] using hshown
  have hrefreshingNow:next.refreshing=refreshing:=by
   rw [←hnext]
   simpa [Watch.step,Event.turn,hsubmits,Event.refreshes] using hrefreshing
  rw [←hsession,←hsink,←harrivedNow,←hshownNow,←hrefreshingNow] at hstep
  obtain ⟨hnextState,hretry,hnow⟩ | ⟨hcount,hend⟩:=hstep
  · constructor
    · refine ⟨hnow.obeyed,hnow.opened,fun _=>hnow,?_,?_,?_,?_,?_⟩
      · exact fun hidle=>absurd hnextState hidle
      · rw [hnextState]
        exact nofun
      · rw [hretries,hsubmits,hretry]
        exact hcounted
      · rw [hretry]
        exact hbounded
      · rw [hnextState]
        exact nofun
    · exact fun hidle=>absurd hnextState hidle
  · constructor
    · refine ⟨hend.obeyed,hend.opened.trans hend.closed.symm,?_,fun _=>hend.closed,
       hend.ready,?_,?_,?_⟩
      · exact fun hloads=>absurd hloads hend.idle
      · obtain ⟨-,hretry,-⟩ | ⟨-,hretry⟩:=hcount<;>omega
      · obtain ⟨-,-,hbound⟩ | ⟨-,hretry⟩:=hcount
        · exact hbound
        · omega
      · intro hwaiting
        obtain ⟨-,hretry,-⟩ | ⟨hnot,-⟩:=hcount
        · omega
        · exact absurd hwaiting hnot
    · intro _ hrefresh hcase
      obtain ⟨hplain,hfailed⟩ | ⟨hrecursive,htruncated,hnone⟩:=hcase
      · exact hend.failed hfailed hplain hrefresh
      · exact hend.incomplete hrecursive htruncated hnone hrefresh

lemma sound_step (h:Sound w) (e : Event) : Sound (w.step e):=by
 cases e with
 | openCatalog path maximumEntries recursive preserve=>
  exact sound_open h path maximumEntries recursive preserve
 | refresh=>exact sound_refresh h
 | suspend=>exact sound_suspend h
 | poll now offered=>
  by_cases hstate:(resume now w.session).session.state=.loading
  · exact (poll_spec h now offered hstate).1
  · apply sound_same h
    · exact poll_idle now offered hstate
    · simp [Event.taken,hstate]

lemma sound_run (entries : List DirectoryEntry) (events : List Event):
 Sound (Watch.run entries events):=by
 have hall:∀w,Sound w → Sound (events.foldl Watch.step w):=by
  induction events with
  | nil=>exact fun w h=>h
  | cons e events ih=>exact fun w h=>ih _ (sound_step h e)
 apply hall
 constructor<;>simp

end Steps

/-- After any calls, and whatever the source offers to the next poll: every sink call came when it
may, batches of other generations make no difference, a plain request that is ready is shown as
it arrived, at most three retries were submitted, and a refresh that the poll ends without a
result leaves the shown entries. -/
theorem session_exact (entries : List DirectoryEntry) (events : List Event) (now : ℤ)
 (offered : List CatalogBatch):
 let w:=Watch.run entries events
 let next:=w.step (.poll now offered)
 w.sink.obeyed=true ∧ poll now (offered.filter fun batch =>
   batch.generation=(resume now w.session).session.activeGeneration) w.session=
   poll now offered w.session ∧
  (w.session.state=.ready → w.session.recursive=false → w.sink.entries=w.arrived) ∧
  w.retries≤3 ∧
  ((resume now w.session).session.state=.loading → next.session.state≠.loading →
   EndsWell next):=by
 intro w next
 have h:Sound w:=sound_run entries events
 refine ⟨h.obeyed,poll_filter now offered w.session,h.ready,?_,?_⟩
 · exact h.counted.trans h.bounded
 · intro hstate
   exact (poll_spec h now offered hstate).2

end VoVe.CatalogSessionSafety
