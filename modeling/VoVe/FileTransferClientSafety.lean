import VoVe.FileTransferClient

set_option autoImplicit false

namespace VoVe.FileTransferClient
open ByteCodec AsciiText EffectProgram FileOperation FileTransferProtocol

abbrev ClientEvent := Event ClientOp ClientReply

def committed : ClientEvent → Option (FileTransferReservation × Bool)
 | ⟨.commitReservation reservation,reply⟩=>some (reservation,reply.1)
 | _=>none

def handedOn : ClientEvent → Option UInt64
 | ⟨.publishProgress progress,_⟩=>some progress.bytesWritten
 | _=>none

def audited : ClientEvent → Option (FileTransferStreamResult × FileTransferAuditCommitOutcome)
 | ⟨.commitAudit result,reply⟩=>some (result,reply.1)
 | _=>none

def receivedFrame : ClientEvent → Option Bytes
 | ⟨.readFrame,.ok payload⟩=>some payload
 | _=>none

variable (trace : List ClientEvent)

def commits : List (FileTransferReservation × Bool) := trace.filterMap committed

def progressHandedOn : List UInt64 := trace.filterMap handedOn

def auditCommits : List (FileTransferStreamResult × FileTransferAuditCommitOutcome):=
 trace.filterMap audited

def received : List Bytes := trace.filterMap receivedFrame

/-- The helper sent this result after the caller had committed the reservation. -/
def ReportedAfterCommit (reservation : FileTransferReservation) (result : FileTransferStreamResult)
  (trace : List ClientEvent) : Prop:=
 ∃ before detail after payload,
  trace = before++⟨.commitReservation reservation,(true,detail)⟩::after ∧
   payload ∈ received after ∧ decodeFileTransferStreamResult payload = .ok result

/-- The reasons for which a result may say that nothing was written. -/
inductive NoCommitReason (request : FileTransferStreamRequest) (result : FileTransferStreamResult)
  (trace : List ClientEvent) : Prop where
 | stoppingBeforeLaunch (h:trace=[⟨.stopping,true⟩])
 | notEncodable (h:∀payload,encodeFileTransferStreamRequest request≠.ok payload)
 | failedBeforeReservation (payload : Bytes) (first : received trace = [payload])
   (decoded : decodeFileTransferStreamResult payload = .ok result)
   (valid : validPreReservationFailure result = true) (none : commits trace = [])
 | reservationRejected (reservation : FileTransferReservation)
   (h:commits trace=[(reservation,false)])
 | auditRejected (reported : FileTransferStreamResult)
   (h:(reported,.rejectedNoCommit)∈auditCommits trace)
 | reportedByHelper (reservation : FileTransferReservation)
   (h:ReportedAfterCommit reservation result trace)

/-- What holds at every moment of a session. -/
structure Orderly (request : FileTransferStreamRequest) (trace : List ClientEvent) : Prop where
 once : (commits trace).length≤1
 reserved : ∀c∈commits trace,c.1.toFrameAddress=request.toFrameAddress ∧
  reservationMatchesRequest request c.1=.ok ()
 increasing : (progressHandedOn trace).Pairwise (· < ·)
 bounded : ∀bytes∈progressHandedOn trace,∃ reservation,
  (reservation,true)∈commits trace ∧ bytes≤expectedStreamBytes request reservation

/-- What holds of the result that a session returns. -/
structure Justified (request : FileTransferStreamRequest) (result : FileTransferStreamResult)
  (trace : List ClientEvent) : Prop extends Orderly request trace where
 succeeded : result.ok=true → ∃ reservation,commits trace=[(reservation,true)] ∧
  ReportedAfterCommit reservation result trace ∧
  successfulResultMatches request reservation result=true ∧
  (request.mode=.auditExisting → (result,.accepted)∈auditCommits trace)
 unwritten : result.evidence=.noCommit → NoCommitReason request result trace

section Observations
variable (trace : List ClientEvent)

/-- An event that none of the observations sees. -/
def Unobserved (event : ClientEvent) : Prop:=
 committed event = none ∧ handedOn event = none ∧ audited event = none

variable (events : List ClientEvent)

@[simp] lemma commits_append:
 commits (trace++events)=commits trace++commits events:=
 List.filterMap_append

@[simp] lemma progressHandedOn_append:
 progressHandedOn (trace++events)=progressHandedOn trace++progressHandedOn events:=
 List.filterMap_append

@[simp] lemma auditCommits_append:
 auditCommits (trace++events)=auditCommits trace++auditCommits events:=
 List.filterMap_append

@[simp] lemma received_append:
 received (trace++events)=received trace++received events:=
 List.filterMap_append

end Observations

variable {events : List ClientEvent} {accepted : Bool}

section Quiet
variable {q request : FileTransferStreamRequest} {r reservation : FileTransferReservation}
 {result : FileTransferStreamResult} {trace : List ClientEvent}

/-- Events among which there is no commit and no progress. -/
def Quiet (events : List ClientEvent) : Prop := ∀event ∈ events,Unobserved event

lemma Quiet.commits {events : List ClientEvent} (h:Quiet events) : commits events=[]:=
 List.filterMap_eq_nil_iff.mpr fun event hevent=>(h event hevent).1

lemma Quiet.progressHandedOn {events : List ClientEvent} (h:Quiet events):
 progressHandedOn events=[]:=
 List.filterMap_eq_nil_iff.mpr fun event hevent=>(h event hevent).2.1

lemma Orderly.append (h:Orderly q trace) (hcommits:commits events=[])
  (hprogress:progressHandedOn events=[]):
  Orderly q (trace++events) where
 once:=by simpa [hcommits] using h.once
 reserved:=by simpa [hcommits] using h.reserved
 increasing:=by simpa [hprogress] using h.increasing
 bounded:=by simpa [hcommits,hprogress] using h.bounded

lemma Orderly.quiet (h:Orderly q trace) (hquiet:Quiet events) : Orderly q (trace++events):=
 h.append hquiet.commits hquiet.progressHandedOn

lemma ReportedAfterCommit.append (h:ReportedAfterCommit r result trace)
 (events : List ClientEvent) : ReportedAfterCommit r result (trace++events):=by
 obtain ⟨before,detail,after,payload,htrace,hpayload,hdecoded⟩:=h
 refine ⟨before,detail,after++events,payload,?_,?_,hdecoded⟩
 · simp [htrace]
 · simp [hpayload]

/-- A result that claims neither success nor that nothing was written. -/
def Inconclusive (result : FileTransferStreamResult) : Prop:=
 result.ok = false ∧ result.evidence≠.noCommit

lemma Orderly.inconclusive (h:Orderly q trace) (hresult:Inconclusive result):
  Justified q result trace where
 toOrderly:=h
 succeeded hok := absurd hok (by simp [hresult.1])
 unwritten hevidence := absurd hevidence hresult.2

lemma Orderly.unwritten (h:Orderly q trace) (hresult:result.ok=false)
  (hreason:NoCommitReason q result trace) : Justified q result trace where
 toOrderly:=h
 succeeded hok := absurd hok (by simp [hresult])
 unwritten _ := hreason

lemma quiet_finish : Quiet [⟨.terminate,()⟩,⟨.wait,()⟩]:=by
 intro event hevent
 simp only [List.mem_cons,List.not_mem_nil,or_false] at hevent
 obtain rfl | rfl:=hevent
 · exact ⟨rfl,rfl,rfl⟩
 · exact ⟨rfl,rfl,rfl⟩

lemma quiet_one {event : ClientEvent} (h:Unobserved event) : Quiet [event]:=by
 intro other hother
 rw [List.mem_singleton.mp hother]
 exact h

lemma Quiet.append {events' : List ClientEvent} (h:Quiet events) (h':Quiet events'):
 Quiet (events++events'):=by
 intro event hevent
 obtain hevent | hevent:=List.mem_append.mp hevent
 · exact h event hevent
 · exact h' event hevent

end Quiet

section Operations
variable {trace : List ClientEvent}

lemma ends_op (o : ClientOp) (p : ClientReply o → List ClientEvent → Prop):
 Ends (Prog.issue o : ClientProg (ClientReply o)) trace p ↔ ∀y,p y (trace++[⟨o,y⟩]):=
 ends_issue o p

variable (p : Bool → List ClientEvent → Prop)

@[simp] lemma ends_stopping:
 Ends stopping trace p ↔ ∀y,p y (trace++[⟨.stopping,y⟩]):=
 ends_op .stopping p

@[simp] lemma ends_launch (p : Except CatalogError Unit → List ClientEvent → Prop):
 Ends launch trace p ↔ ∀y,p y (trace++[⟨.launch,y⟩]):=
 ends_op .launch p

@[simp] lemma ends_writeFrame (payload : Bytes)
 (p : Except Bytes Unit → List ClientEvent → Prop):
 Ends (writeFrame payload) trace p ↔ ∀y,p y (trace++[⟨.writeFrame payload,y⟩]):=
 ends_op (.writeFrame payload) p

@[simp] lemma ends_readFrame (p : Except Bytes Bytes → List ClientEvent → Prop):
 Ends readFrame trace p ↔ ∀y,p y (trace++[⟨.readFrame,y⟩]):=
 ends_op .readFrame p

@[simp] lemma ends_timedOut:
 Ends timedOut trace p ↔ ∀y,p y (trace++[⟨.timedOut,y⟩]):=
 ends_op .timedOut p

@[simp] lemma ends_closeInput (p : Unit → List ClientEvent → Prop):
 Ends closeInput trace p ↔ p () (trace++[⟨.closeInput,()⟩]):=
 (ends_op .closeInput p).trans ⟨fun h=>h (),fun h _=>h⟩

@[simp] lemma ends_terminate (p : Unit → List ClientEvent → Prop):
 Ends terminate trace p ↔ p () (trace++[⟨.terminate,()⟩]):=
 (ends_op .terminate p).trans ⟨fun h=>h (),fun h _=>h⟩

@[simp] lemma ends_finishProcess (p : Unit → List ClientEvent → Prop):
 Ends finishProcess trace p ↔ p () (trace++[⟨.wait,()⟩]):=
 (ends_op .wait p).trans ⟨fun h=>h (),fun h _=>h⟩

@[simp] lemma ends_commitReservation (r : FileTransferReservation)
 (p : Bool × Bytes → List ClientEvent → Prop):
 Ends (commitReservation r) trace p ↔ ∀y,p y (trace++[⟨.commitReservation r,y⟩]):=
 ends_op (.commitReservation r) p

@[simp] lemma ends_publishProgress (progress : FileTransferProgress)
 (p : Unit → List ClientEvent → Prop):
 Ends (publishProgress progress) trace p ↔ p () (trace++[⟨.publishProgress progress,()⟩]):=
 (ends_op (.publishProgress progress) p).trans ⟨fun h=>h (),fun h _=>h⟩

@[simp] lemma ends_beginAuditCommit:
 Ends beginAuditCommit trace p ↔ ∀y,p y (trace++[⟨.beginAuditCommit,y⟩]):=
 ends_op .beginAuditCommit p

@[simp] lemma ends_commitAudit (result : FileTransferStreamResult)
 (p : FileTransferAuditCommitOutcome × Bytes → List ClientEvent → Prop):
 Ends (commitAudit result) trace p ↔ ∀y,p y (trace++[⟨.commitAudit result,y⟩]):=
 ends_op (.commitAudit result) p

end Operations

section Stages
variable {q request : FileTransferStreamRequest} {r reservation : FileTransferReservation}
 {result : FileTransferStreamResult} {trace : List ClientEvent}

lemma ends_abandon (h:Justified q result (trace++[⟨.terminate,()⟩,⟨.wait,()⟩])):
 Ends (abandon result) trace (Justified q):=by
 simpa [abandon] using h

lemma ends_unknown (h:Orderly q trace) (detail : Bytes) (snapshot : SourceSnapshot):
 Ends (unknown q detail snapshot) trace (Justified q):=by
 apply ends_abandon
 apply (h.quiet quiet_finish).inconclusive
 exact ⟨rfl,by simp [makeResult]⟩

lemma ends_abandonPipe (h:Orderly q trace) (detail : Bytes) (snapshot : SourceSnapshot):
 Ends (abandonPipe q detail snapshot) trace (Justified q):=by
 simp only [abandonPipe,ends_bind,ends_terminate,ends_finishProcess,ends_timedOut,ends_pure]
 intro late
 apply Orderly.inconclusive
 · rw [List.append_assoc,List.append_assoc]
   apply h.quiet
   exact (quiet_finish).append (quiet_one ⟨rfl,rfl,rfl⟩)
 · cases late with
   | false=>exact ⟨rfl,by simp [makeResult]⟩
   | true=>exact ⟨rfl,by simp [makeResult]⟩

structure Streaming (request : FileTransferStreamRequest) (reservation : FileTransferReservation)
  (previous : UInt64) (trace : List ClientEvent) : Prop extends Orderly request trace where
 accepted : commits trace=[(reservation,true)]
 split : ∃ before detail after,
  trace=before++⟨.commitReservation reservation,(true,detail)⟩::after
 reached : ∀bytes∈progressHandedOn trace,bytes≤previous

variable {previous : UInt64}

lemma Streaming.quiet (h:Streaming q r previous trace) (hquiet:Quiet events):
  Streaming q r previous (trace++events) where
 toOrderly:=h.toOrderly.quiet hquiet
 accepted:=by simp [hquiet.commits,h.accepted]
 split:=by
  obtain ⟨before,detail,after,htrace⟩:=h.split
  exact ⟨before,detail,after++events,by simp [htrace]⟩
 reached:=by simpa [hquiet.progressHandedOn] using h.reached

lemma Streaming.reported {payload : Bytes} (h:Streaming q r previous trace)
 (hdecoded:decodeFileTransferStreamResult payload=.ok result):
 ReportedAfterCommit r result (trace++[⟨.readFrame,.ok payload⟩]):=by
 obtain ⟨before,detail,after,htrace⟩:=h.split
 refine ⟨before,detail,after++[⟨.readFrame,.ok payload⟩],payload,?_,?_,hdecoded⟩
 · simp [htrace]
 · simp [received,receivedFrame]

lemma Streaming.progress (h:Streaming q r previous trace)
 {progress : FileTransferProgress} (hnext:previous<progress.bytesWritten)
 (hbound:progress.bytesWritten≤expectedStreamBytes q r):
 Streaming q r progress.bytesWritten
  (trace++[⟨.publishProgress progress,()⟩]):=by
 have hcommits:commits (trace++[⟨.publishProgress progress,()⟩])=commits trace:=by
  simp [commits,committed]
 have hpublished:progressHandedOn (trace++[⟨.publishProgress progress,()⟩])=
   progressHandedOn trace++[progress.bytesWritten]:=by
  simp [progressHandedOn,handedOn]
 constructor
 · constructor
   · rw [hcommits]
     exact h.once
   · rw [hcommits]
     exact h.reserved
   · rw [hpublished,List.pairwise_append]
     refine ⟨h.increasing,List.pairwise_singleton _ _,?_⟩
     intro bytes hbytes last hlast
     rw [List.mem_singleton.mp hlast]
     exact UInt64.lt_of_le_of_lt (h.reached bytes hbytes) hnext
   · rw [hcommits,hpublished]
     intro bytes hbytes
     obtain hbytes | hbytes:=List.mem_append.mp hbytes
     · exact h.bounded bytes hbytes
     · rw [List.mem_singleton.mp hbytes]
       exact ⟨r,by simp [h.accepted],hbound⟩
 · rw [hcommits]
   exact h.accepted
 · obtain ⟨before,detail,after,htrace⟩:=h.split
   exact ⟨before,detail,after++[⟨.publishProgress progress,()⟩],by simp [htrace]⟩
 · rw [hpublished]
   intro bytes hbytes
   obtain hbytes | hbytes:=List.mem_append.mp hbytes
   · exact UInt64.le_of_lt (UInt64.lt_of_le_of_lt (h.reached bytes hbytes) hnext)
   · rw [List.mem_singleton.mp hbytes]
     exact UInt64.le_refl _

lemma ends_acknowledgeAudit (accepted : Bool)
 (h:∀events,Quiet events → Justified q result (trace++events)):
 Ends (acknowledgeAudit q accepted result) trace (Justified q):=by
 unfold acknowledgeAudit
 split
 · exact ends_abandon (h _ quiet_finish)
 · rename_i payload _
   simp only [ends_bind,ends_writeFrame]
   intro y
   have hwritten:Quiet [⟨.writeFrame payload,y⟩]:=quiet_one ⟨rfl,rfl,rfl⟩
   cases y with
   | error detail=>
    apply ends_abandon
    rw [List.append_assoc]
    exact h _ (hwritten.append quiet_finish)
   | ok y=>
    simp only [ends_bind,ends_closeInput,ends_finishProcess,ends_pure]
    rw [List.append_assoc,List.append_assoc]
    apply h _ (hwritten.append (Quiet.append _ _))
    · exact quiet_one ⟨rfl,rfl,rfl⟩
    · exact quiet_one ⟨rfl,rfl,rfl⟩

lemma ends_settleAudit (h:Streaming q r previous trace)
 (hreported:ReportedAfterCommit r result trace)
 (hmatches:result.ok=true → successfulResultMatches q r result=true):
 Ends (settleAudit q result) trace (Justified q):=by
 unfold settleAudit
 by_cases hok:result.ok=true
 · have hmatch:=hmatches hok
   have hcommitted:=successfulResultMatches_committed hmatch
   simp only [hok,if_true,ends_bind,ends_beginAuditCommit]
   intro active
   have hbegun:Quiet [⟨.beginAuditCommit,active⟩]:=quiet_one ⟨rfl,rfl,rfl⟩
   cases active with
   | false=>
    apply ends_abandon
    apply ((h.toOrderly.quiet hbegun).quiet quiet_finish).inconclusive
    exact ⟨rfl,by simp⟩
   | true=>
    simp only [if_true,ends_bind,ends_commitAudit]
    rintro ⟨outcome,detail⟩
    apply ends_acknowledgeAudit
    intro events hevents
    have hasked:Orderly q (trace++[⟨.beginAuditCommit,true⟩] ++
      [⟨.commitAudit result,(outcome,detail)⟩]):=
     (h.toOrderly.quiet hbegun).append rfl rfl
    have hordered:=hasked.quiet hevents
    cases outcome with
    | accepted=>
     constructor
     · exact hordered
     · intro _
       refine ⟨r,?_,?_,hmatch,?_⟩
       · simp only [commits_append,hbegun.commits,hevents.commits,h.accepted]
         rfl
       · exact ((hreported.append _).append _).append _
       · intro _
         simp only [auditCommits_append,List.mem_append]
         exact .inl (.inr (List.mem_singleton.mpr rfl))
     · intro hevidence
       simp [auditedResult,hcommitted] at hevidence
    | rejectedNoCommit=>
     apply hordered.unwritten rfl
     apply NoCommitReason.auditRejected result
     simp only [auditCommits_append,List.mem_append]
     exact .inl (.inr (List.mem_singleton.mpr rfl))
    | recoveryRequired=>
     apply hordered.inconclusive
     exact ⟨rfl,by simp [auditedResult]⟩
 · simp only [hok,Bool.false_eq_true,if_false]
   apply ends_acknowledgeAudit
   intro events hevents
   apply (h.toOrderly.quiet hevents).unwritten (by simpa using hok)
   exact .reportedByHelper r (hreported.append events)

lemma ends_settleResult (before : Streaming q r previous trace)
 (response : Bytes):
 Ends (settleResult q r response) (trace++[⟨.readFrame,.ok response⟩])
  (Justified q):=by
 have hread:Quiet [⟨.readFrame,.ok response⟩]:=quiet_one ⟨rfl,rfl,rfl⟩
 have h:=before.quiet hread
 unfold settleResult
 split
 · exact ends_unknown h.toOrderly _ _
 · rename_i result hdecoded
   have hreported:=before.reported hdecoded
   split
   · exact ends_unknown h.toOrderly _ _
   · rename_i hvalid
     have hmatches:result.ok=true → successfulResultMatches q r result=true:=by
      intro hok
      by_contra hmatch
      exact hvalid (.inr ⟨hok,hmatch⟩)
     split
     · exact ends_settleAudit h hreported hmatches
     · rename_i hmode
       simp only [ends_bind,ends_finishProcess,ends_pure]
       have hfinished:Quiet [⟨.wait,()⟩]:=quiet_one ⟨rfl,rfl,rfl⟩
       constructor
       · exact h.toOrderly.quiet hfinished
       · intro hok
         refine ⟨r,?_,hreported.append _,hmatches hok,fun haudit=>?_⟩
         · exact (h.quiet hfinished).accepted
         · exact absurd haudit hmode
       · intro _
         exact .reportedByHelper r (hreported.append _)

lemma ends_streamFrame {remaining : ℕ} (h:Streaming q r previous trace)
 (hnext:∀n previous' trace',remaining=n+1 → Streaming q r previous' trace' →
  Ends (streamFrames q r n previous') trace' (Justified q)):
 Ends (streamFrames q r remaining previous) trace (Justified q):=by
 rw [streamFrames.eq_def]
 simp only [ends_bind,ends_readFrame]
 intro y
 have hread:Streaming q r previous (trace++[⟨.readFrame,y⟩]):=h.quiet (quiet_one ⟨rfl,rfl,rfl⟩)
 split
 · exact ends_abandonPipe hread.toOrderly _ _
 · split
   · exact ends_unknown hread.toOrderly _ _
   · exact ends_unknown hread.toOrderly _ _
   · exact ends_settleResult h _
   · split
     · exact ends_unknown hread.toOrderly _ _
     · split
       · exact ends_unknown hread.toOrderly _ _
       · rename_i progress _ hvalid
         split
         · exact ends_unknown hread.toOrderly _ _
         · simp only [ends_bind,ends_publishProgress]
           apply hnext _ _ _ rfl
           apply hread.progress
           · exact UInt64.not_le.mp fun hle=>hvalid (.inr (.inl hle))
           · exact UInt64.not_lt.mp fun hlt=>hvalid (.inr (.inr hlt))

lemma ends_streamFrames (remaining : ℕ) (h:Streaming q r previous trace):
 Ends (streamFrames q r remaining previous) trace (Justified q):=by
 induction remaining generalizing previous trace with
 | zero=>exact ends_streamFrame h fun n _ _ hn=>by omega
 | succ remaining ih=>
  apply ends_streamFrame h
  intro n previous' trace' hn h'
  obtain rfl:=Nat.succ.inj hn
  exact ih h'

/-- A session that has just asked for its first commit. -/
structure Asked (request : FileTransferStreamRequest) (reservation : FileTransferReservation)
  (accepted : Bool) (trace : List ClientEvent) : Prop where
 commits : commits trace=[(reservation,accepted)]
 progress : progressHandedOn trace=[]
 split : ∃ before detail after,
  trace=before++⟨.commitReservation reservation,(accepted,detail)⟩::after
 address : reservation.toFrameAddress=request.toFrameAddress
 matched : reservationMatchesRequest request reservation=.ok ()

lemma Asked.orderly (h:Asked q r accepted trace) : Orderly q trace where
 once:=by simp [h.commits]
 reserved:=by
  intro c hc
  rw [h.commits] at hc
  rw [List.mem_singleton.mp hc]
  exact ⟨h.address,h.matched⟩
 increasing:=by simp [h.progress]
 bounded:=by simp [h.progress]

lemma Asked.quiet (h:Asked q r accepted trace) (hquiet:Quiet events):
  Asked q r accepted (trace++events) where
 commits:=by simp [hquiet.commits,h.commits]
 progress:=by simp [hquiet.progressHandedOn,h.progress]
 split:=by
  obtain ⟨before,detail,after,htrace⟩:=h.split
  exact ⟨before,detail,after++events,by simp [htrace]⟩
 address:=h.address
 matched:=h.matched

lemma Asked.streaming (h:Asked q r true trace) (previous : UInt64):
  Streaming q r previous trace where
 toOrderly:=h.orderly
 accepted:=h.commits
 split:=h.split
 reached:=by simp [h.progress]

lemma ends_acknowledged (h:Asked q r accepted trace) (commitDetail : Bytes):
 Ends (acknowledged q r accepted commitDetail) trace (Justified q):=by
 unfold acknowledged
 cases accepted with
 | true=>exact ends_streamFrames _ (h.streaming 0)
 | false=>
  simp only [Bool.false_eq_true,if_false,ends_bind,ends_finishProcess,ends_pure]
  have hwait:Quiet [⟨.wait,()⟩]:=quiet_one ⟨rfl,rfl,rfl⟩
  have hfinished:=h.quiet hwait
  apply hfinished.orderly.unwritten rfl
  exact .reservationRejected r hfinished.commits

lemma ends_acknowledgeReservation (h:Asked q r accepted trace)
 (commitDetail : Bytes):
 Ends (acknowledgeReservation q r accepted commitDetail) trace
  (Justified q):=by
 unfold acknowledgeReservation
 split
 · exact ends_unknown h.orderly _ _
 · exact ends_unknown h.orderly _ _
 · rename_i payload _
   simp only [ends_bind,ends_writeFrame]
   intro y
   have hwritten:Asked q r accepted (trace++[⟨.writeFrame payload,y⟩]):=
    h.quiet (quiet_one ⟨rfl,rfl,rfl⟩)
   split
   · exact ends_unknown hwritten.orderly _ _
   · split
     · simp only [ends_bind,ends_closeInput]
       exact ends_acknowledged (hwritten.quiet (quiet_one ⟨rfl,rfl,rfl⟩)) _
     · exact ends_acknowledged hwritten _

lemma Quiet.orderly (h:Quiet trace) : Orderly q trace where
 once:=by simp [h.commits]
 reserved:=by simp [h.commits]
 increasing:=by simp [h.progressHandedOn]
 bounded:=by simp [h.progressHandedOn]

lemma Quiet.asked (h:Quiet trace) (address : r.toFrameAddress=q.toFrameAddress)
  (matched : reservationMatchesRequest q r=.ok ()) (y : Bool × Bytes):
  Asked q r y.1 (trace++[⟨.commitReservation r,y⟩]) where
 commits:=by
  rw [commits_append,h.commits]
  rfl
 progress:=by
  rw [progressHandedOn_append,h.progressHandedOn]
  rfl
 split:=⟨trace,y.2,[],rfl⟩
 address:=address
 matched:=matched

lemma ends_firstReservation (h:Quiet trace) (response : Bytes):
 Ends (firstReservation q response) trace (Justified q):=by
 unfold firstReservation
 split
 · exact ends_unknown h.orderly _ _
 · split
   · exact ends_unknown h.orderly _ _
   · rename_i r _ haddress
     split
     · exact ends_unknown h.orderly _ _
     · rename_i hmatched
       simp only [ends_bind,ends_commitReservation]
       intro y
       apply ends_acknowledgeReservation
       exact h.asked (by simpa [sameAddress] using haddress) hmatched y

lemma ends_firstComplete {response : Bytes} (h:Quiet trace)
 (hfirst:received trace=[response]):
 Ends (firstComplete q response) trace (Justified q):=by
 unfold firstComplete
 split
 · exact ends_unknown h.orderly _ _
 · rename_i result hdecoded
   split
   · exact ends_unknown h.orderly _ _
   · rename_i hvalid
     have hfailure:validPreReservationFailure result=true:=by
      by_contra hfailure
      exact hvalid (.inr hfailure)
     simp only [ends_bind,ends_closeInput,ends_finishProcess,ends_pure]
     have hclosed:Quiet (trace++[⟨.closeInput,()⟩]++[⟨.wait,()⟩]):=
      (h.append (quiet_one ⟨rfl,rfl,rfl⟩)).append (quiet_one ⟨rfl,rfl,rfl⟩)
     apply hclosed.orderly.unwritten
     · have:=of_decide_eq_true hfailure
       simpa using this.1
     · apply NoCommitReason.failedBeforeReservation response _ hdecoded hfailure hclosed.commits
       rw [received_append,received_append,hfirst]
       rfl

lemma ends_firstFrame (h:Quiet trace) (hreceived:received trace=[]):
 Ends (firstFrame q) trace (Justified q):=by
 unfold firstFrame
 simp only [ends_bind,ends_readFrame]
 intro y
 have hread:Quiet (trace++[⟨.readFrame,y⟩]):=h.append (quiet_one ⟨rfl,rfl,rfl⟩)
 split
 · exact ends_abandonPipe hread.orderly _ _
 · split
   · exact ends_unknown hread.orderly _ _
   · apply ends_firstComplete hread
     rw [received_append,hreceived]
     rfl
   · exact ends_unknown hread.orderly _ _
   · exact ends_firstReservation hread _

lemma ends_session (h:Quiet trace) (hreceived:received trace=[]):
 Ends (session q) trace (Justified q):=by
 have hrefused:∀what,(∀payload,encodeFileTransferStreamRequest q≠.ok payload) →
   Ends (abandon (makeResult q .invalidRequest .noCommit what)) trace
    (Justified q):=by
  intro what hrefused
  apply ends_abandon
  apply (h.append quiet_finish).orderly.unwritten rfl
  exact .notEncodable hrefused
 unfold session
 split
 · rename_i what hencode
   exact hrefused what fun payload hpayload=>by simp [hpayload] at hencode
 · rename_i what hencode
   exact hrefused what fun payload hpayload=>by simp [hpayload] at hencode
 · rename_i payload _
   simp only [ends_bind,ends_writeFrame]
   intro y
   have hwritten:Quiet (trace++[⟨.writeFrame payload,y⟩]):=h.append (quiet_one ⟨rfl,rfl,rfl⟩)
   split
   · exact ends_abandonPipe hwritten.orderly _ _
   · apply ends_firstFrame hwritten
     rw [received_append,hreceived]
     rfl

lemma ends_runHelper (q : FileTransferStreamRequest) : Ends (runHelper q) [] (Justified q):=by
 unfold runHelper
 simp only [ends_bind,ends_stopping]
 intro stopped
 cases stopped with
 | true=>
  simp only [if_true,ends_pure]
  have hstopped:Quiet ([]++[⟨.stopping,true⟩]):=quiet_one ⟨rfl,rfl,rfl⟩
  apply hstopped.orderly.unwritten rfl
  exact .stoppingBeforeLaunch rfl
 | false=>
  simp only [Bool.false_eq_true,if_false,ends_bind,ends_launch]
  intro launched
  have hlaunched:Quiet ([]++[⟨.stopping,false⟩]++[⟨.launch,launched⟩]):=
   (quiet_one ⟨rfl,rfl,rfl⟩).append (quiet_one ⟨rfl,rfl,rfl⟩)
  split
  · simp only [ends_pure]
    apply hlaunched.orderly.inconclusive
    exact ⟨rfl,by simp [makeResult]⟩
  · simp only [ends_bind,ends_stopping]
    intro stopped
    have hstopping:Quiet [⟨.stopping,stopped⟩]:=quiet_one ⟨rfl,rfl,rfl⟩
    have hasked:=hlaunched.append hstopping
    split
    · apply ends_abandon
      apply (hasked.append quiet_finish).orderly.inconclusive
      exact ⟨rfl,by simp [makeResult]⟩
    · exact ends_session hasked rfl

end Stages

/-- Whatever the helper and the callbacks answer, a session returns a justified
  result. -/
theorem runHelper_justified {request : FileTransferStreamRequest}
 {result : FileTransferStreamResult} {trace : List ClientEvent}
 (hrun:Completes anyReply (runHelper request) [] result trace):
 Justified request result trace:=
 (ends_runHelper request).completes hrun

def auditedSource : SourceSnapshot where
 sizeBytes:=3
 modifiedUnixNs:=5
 sourceRevisionUtf8:=utf8 "posix:1:2:3"

def auditAddress : FrameAddress where
 operationId:=1
 requestToken:=⟨List.replicate 15 0++[1],rfl⟩

def auditRequest : FileTransferStreamRequest where
 toFrameAddress:=auditAddress
 mode:=.auditExisting
 source:=⟨utf8 "/d/f"⟩
 expectedSource:=auditedSource
 sourceParentIdentityUtf8:=utf8 "posix:1:1"
 destinationAnchorPath:=⟨utf8 "/d"⟩
 destinationAnchorIdentityUtf8:=utf8 "posix:1:1"

def auditReservation : FileTransferReservation where
 toFrameAddress:=auditAddress
 tempSnapshot:=auditedSource
 destinationParentIdentityUtf8:=utf8 "posix:1:1"
 destinationParentRevisionUtf8:=utf8 "posix:1:1:9"

def auditResult : FileTransferStreamResult where
 toFrameAddress:=auditAddress
 status:=.success
 evidence:=.committed
 sourceSnapshot:=auditedSource
 tempSnapshot:=auditedSource
 contentSha256:=⟨List.replicate 31 0++[1],rfl⟩
 bytesWritten:=3

/-- A helper that reserves, reports one chunk of progress and then its result. -/
def answerAudit (o : ClientOp) (trace : List ClientEvent) : ClientReply o × List ClientEvent:=
 let reply : ClientReply o:=
  match o with
  | .stopping=>false
  | .launch=>.ok ()
  | .writeFrame _=>.ok ()
  | .readFrame=>
   .ok (match (received trace).length with
    | 0=>reservationPayload auditReservation
    | 1=>progressPayload { toFrameAddress:=auditAddress,bytesWritten:=3 }
    | _=>resultPayload auditResult)
  | .timedOut=>false
  | .closeInput=>()
  | .terminate=>()
  | .wait=>()
  | .commitReservation _=>(true,[])
  | .publishProgress _=>()
  | .beginAuditCommit=>true
  | .commitAudit _=>(.accepted,[])
 (reply,trace++[⟨o,reply⟩])

theorem runHelper_justified_audit : ∃ trace,
 Completes anyReply (runHelper auditRequest) [] auditResult trace ∧
  Justified auditRequest auditResult trace:=by
 have hsound:∀o trace,anyReply.answers o trace (answerAudit o trace).1 (answerAudit o trace).2:=
  fun o trace=>rfl
 have hrun:=run_completes hsound (runHelper auditRequest) []
 have hresult:((runHelper auditRequest).run answerAudit []).1=auditResult:=by
  decide +kernel
 rw [hresult] at hrun
 exact ⟨_,hrun,runHelper_justified hrun⟩

end VoVe.FileTransferClient
