import VoVe.WorkerRunRules

set_option autoImplicit false

namespace VoVe.WorkerRunSafety
open ByteCodec TracedProgram WorkerSupervisor WorkerRun WorkerRunRules
open WorkerProtocol (Handshake WorkerResult AnimationFrame decodeHandshake decodeAnimationFrame
 decodeWorkerResult encodeHandshake encodeWorkerJob encodeAnimationAdvance)

section Exits
variable {request : SupervisorRequest} {active : Bool} {held : Held} {log : SupervisorLog}
 {L : Ledger} {α β : Type} {pid : Pid} {result : SupervisorResult}

/-- How a run returns. -/
def Returns (request : SupervisorRequest) : Returned → Held → SupervisorLog → Prop
 | .ok result, held, log=>Concludes request result held log
 | .error _, held, log=>∃ active L,Point request active held log L

/-- A part of a run either returns or goes on. -/
def Continues (request : SupervisorRequest) (next : α → Held → SupervisorLog → Prop):
  Except Returned α → Held → SupervisorLog → Prop
 | .error returned, held, log=>Returns request returned held log
 | .ok a, held, log=>next a held log

variable {next : α → Held → SupervisorLog → Prop}

lemma abandon_leads (h:Point request true held log L) (hpid:L.children.erase pid=[])
 (hresult:Excused request held L result):
 Leads request (abandon pid result) held log (Continues request next):=by
 refine leads_terminate h hpid ?_
 intro active held' log worker hcancel h
 refine leads_pure h ⟨active,_,h,rfl,Excused.rightful ?_ h⟩
 intro hnone
 rw [hcancel]
 exact hresult hnone

lemma abandonCancelled_leads (h:Point request true held log L)
 (hpid:L.children.erase pid=[]) (hstopped:held.cancel.stopped=true ∨ L.refused=true):
 Leads request (abandonCancelled request pid result) held log (Continues request next):=by
 refine leads_terminate h hpid ?_
 intro active held' log worker hcancel h
 rw [←hcancel] at hstopped
 refine leads_cancelled h rfl hstopped result ?_
 intro result hresult
 exact leads_pure h hresult

lemma ioFailure_leads {failure : IoFailure} {ordinary : SupervisorError}
 (hordinary:ordinary≠.none) (h:Point request active held log L)
 (hfailure:failure.status=.cancelled → held.cancel.stopped=true):
 Leads request (ioFailure request result failure ordinary) held log fun result held' log' =>
  held'=held ∧ log'=log ∧ Excused request held L result ∧
   (held.cancel.stopped=false → result.error≠.none):=by
 unfold ioFailure
 by_cases hcancelled:failure.status=.cancelled
 · rw [if_pos hcancelled]
   refine runs_mono (setCancelledResult_leads h (.inl (hfailure hcancelled)) result) ?_
   intro result held' log' _ hend
   obtain ⟨hheld,hlog,hexcused⟩:=hend
   refine ⟨hheld,hlog,hexcused,?_⟩
   intro hstopped
   rw [hfailure hcancelled] at hstopped
   cases hstopped
 · rw [if_neg hcancelled]
   have herror:(if failure.status=.timedOut then SupervisorError.timedOut else ordinary) ≠
     .none:=by
    split
    · exact nofun
    · exact hordinary
   exact leads_pure h ⟨rfl,rfl,excused_of_error herror,fun _=>herror⟩

lemma abandonIo_leads {failure : IoFailure} {start : Ledger}
 (hpid:start.children.erase pid=[])
 (h:(failure.status=.cancelled → held.cancel.stopped=true) ∧
  ∃ last,Point request true held log last ∧ last.children=start.children):
 Leads request (abandonIo request pid result failure) held log (Continues request next):=by
 obtain ⟨hfailure,last,h,hchildren⟩:=h
 rw [←hchildren] at hpid
 refine runs_step (ioFailure_leads nofun h hfailure) ?_
 intro result held' log' _ hend
 obtain ⟨rfl,rfl,hexcused,-⟩:=hend
 exact abandon_leads h hpid hexcused

end Exits

variable {bytes : Bytes} {frame : AnimationFrame} {checked : Option (ℤ × FileStatus)}

section Conversation
variable {request : SupervisorRequest} {active : Bool} {held : Held} {log : SupervisorLog}
 {L : Ledger} {pid : Pid} {result : SupervisorResult}

/-- The worker is the only child, and has come to nothing yet. -/
def AtWork (pid : Pid) (L : Ledger) : Prop := L.children = [pid] ∧ L.worker = some (pid,none)

lemma AtWork.only (h:AtWork pid L) : L.children.erase pid=[]:=by
 rw [h.1]
 exact List.erase_cons_head pid []

lemma handshakeLost_leads {α : Type} {next : α → Held → SupervisorLog → Prop} {d : ℤ}
 {failure : IoFailure} (h:Point request true held log L) (hpid:L.children.erase pid=[])
 (hfailure:failure.status=.cancelled → held.cancel.stopped=true):
 Leads request (handshakeLost request pid d result failure) held log
  (Continues request next):=by
 refine runs_step (ioFailure_leads nofun h hfailure) ?_
 intro result held' log' _ hend
 obtain ⟨rfl,rfl,hexcused,herror⟩:=hend
 refine leads_get h ?_
 by_cases hstopped:held'.cancel.stopped=true
 · rw [if_pos hstopped]
   exact abandon_leads h hpid hexcused
 · rw [if_neg hstopped]
   have hfailed:=herror (Bool.eq_false_iff.mpr hstopped)
   refine runs_step (waitForProcess_leads false pid (min d 100) h hpid) ?_
   intro exit held log _ hexit
   cases exit with
   | none=>
    obtain ⟨children,hchildren,worker,h⟩:=hexit
    exact abandon_leads h hchildren (excused_of_error hfailed)
   | some exit=>
    obtain ⟨status,-,h⟩:=hexit
    dsimp only
    split
    · exact leads_pure h (concludes_failed h rfl nofun)
    · exact leads_pure h (concludes_failed h rfl hfailed)

def Shaken (request : SupervisorRequest) (pid : Pid) (held:Held) (log : SupervisorLog) : Prop:=
 ∃ L,Point request true held log L ∧ AtWork pid L ∧ L.shown = [] ∧
  Acknowledges request L.received ∧
  encodeHandshake ⟨request.expectedBuildId,offeredCapabilities⟩ .handshake = .ok L.sent

variable (d : ℤ)

lemma shakeHands_leads (h:Point request true held log L)
 (hwork:AtWork pid L) (hshown:L.shown=[]) (hsent:L.sent=[])
 (hreceived:L.received=[]):
 Leads request (shakeHands request pid d result) held log
  (Continues request fun _=>Shaken request pid):=by
 unfold shakeHands
 cases hencoded:encodeHandshake ⟨request.expectedBuildId,offeredCapabilities⟩ .handshake with
 | error thrown=>exact leads_pure h ⟨true,L,h⟩
 | ok handshake=>
  refine runs_step (sendAll_leads request.cancelled handshake d h) ?_
  intro outcome held log _ hsend
  cases outcome with
  | error failure=>exact abandonIo_leads hwork.only hsend
  | ok _=>
   refine runs_step (receiveFrame_leads request.cancelled d hsend) ?_
   intro outcome held log _ hreceive
   cases outcome with
   | error failure=>
    obtain ⟨hfailure,last,h,hchildren⟩:=hreceive
    refine handshakeLost_leads h ?_ hfailure
    rw [hchildren]
    exact hwork.only
   | ok frame=>
    obtain ⟨bytes,checked,hbytes,h⟩:=hreceive
    rw [List.nil_append] at hbytes
    subst hbytes
    dsimp only
    cases hdecoded:decodeHandshake frame .handshakeAcknowledgement with
    | error error=>exact abandon_leads h hwork.only (excused_of_error nofun)
    | ok acknowledgement=>
     dsimp only
     by_cases hcompatible:(acknowledgement.buildId≠request.expectedBuildId ||
       acknowledgement.capabilities &&& requiredCapabilities request ≠
        requiredCapabilities request)=true
     · rw [if_pos hcompatible]
       exact abandon_leads h hwork.only (excused_of_error nofun)
     · rw [if_neg hcompatible]
       have hboth:acknowledgement.buildId=request.expectedBuildId ∧
         acknowledgement.capabilities &&& requiredCapabilities request=
          requiredCapabilities request:=by
        simpa using hcompatible
       refine leads_pure h ⟨_,h,hwork,hshown,?_,?_⟩
       · change Acknowledges request (L.received++frame)
         rw [hreceived]
         exact ⟨acknowledgement,hdecoded,hboth.1,hboth.2⟩
       · change _=Except.ok (L.sent++handshake)
         rw [hsent]
         exact hencoded

lemma closeCommands_leads (h:Point request true held log L) (hwork:AtWork pid L):
 Leads request (closeCommands pid result) held log
  (Continues request fun _ held log=>Point request true held log L):=by
 refine leads_quiet h rfl ?_
 intro closed log h
 cases closed with
 | true=>exact leads_pure h h
 | false=>
  refine leads_passes (errnoMessage_passes _) h ?_
  intro detail held log h _
  exact abandon_leads h hwork.only (excused_of_error nofun)

lemma closeAnimation_leads (h:Point request true held log L) (hwork:AtWork pid L):
 Leads request (closeAnimation request pid result) held log
  (Continues request fun _ held log=>Point request true held log L):=by
 unfold closeAnimation
 split
 · exact closeCommands_leads h hwork
 · exact leads_pure h h

lemma sendWorkerObjects_passes:
 Passes request active L (fun _ _=>True) (sendWorkerObjects request):=by
 intro held log h
 refine leads_quiet h rfl ?_
 intro sent log h
 cases sent with
 | some count=>exact leads_pure h ⟨h,trivial⟩
 | none=>
  refine leads_passes (errnoMessage_passes _) h ?_
  intro detail held log h _
  exact leads_pure h ⟨h,trivial⟩

/-- Between two frames: every frame received has been shown, and every frame shown has been
acknowledged. -/
structure Between (request : SupervisorRequest) (pid : Pid) (L : Ledger) : Prop where
 atWork : AtWork pid L
 streams : Streams request L.received L.shown
 commands : Commands request L.sent L.shown.length

lemma submitJob_leads (h:Shaken request pid held log):
 Leads request (submitJob request pid d result) held log
  (Continues request fun _ held log=>∃ L,Point request true held log L ∧
   Between request pid L ∧ L.shown=[]):=by
 obtain ⟨L,h,hwork,hshown,hreceived,hsent⟩:=h
 refine leads_passes (poll_passes request.cancelled) h ?_
 intro stopped held log h hstopped
 cases stopped with
 | true=>exact abandonCancelled_leads h hwork.only (.inl (hstopped rfl))
 | false=>
  refine leads_passes sendWorkerObjects_passes h ?_
  intro detail held log h _
  cases detail with
  | some detail=>exact abandon_leads h hwork.only (excused_of_error nofun)
  | none=>
   dsimp only
   cases hencoded:encodeWorkerJob (childJob request) with
   | error thrown=>exact leads_pure h ⟨true,L,h⟩
   | ok job=>
    refine runs_step (sendAll_leads request.cancelled job _ h) ?_
    intro outcome held log _ hsend
    cases outcome with
    | error failure=>exact abandonIo_leads hwork.only hsend
    | ok _=>
     have hbetween:Between request pid { L with sent:=L.sent++job }:=by
      constructor
      · exact hwork
      · refine ⟨L.received,[],hreceived,(List.append_nil _).symm,?_⟩
        change List.Forall₂ Decodes [] L.shown
        rw [hshown]
        exact .nil
      · refine ⟨L.sent,job,[],hsent,hencoded,List.forall_mem_nil _,?_,?_⟩
        · change 0=L.shown.length
          rw [hshown]
          rfl
        · exact (List.append_nil _).symm
     dsimp only
     split
     · exact leads_pure hsend ⟨_,hsend,hbetween,hshown⟩
     · refine runs_step (closeCommands_leads hsend hwork) ?_
       intro closed held log hsound hclosed
       cases closed with
       | error r=>exact runs_pure hsound hclosed
       | ok _=>exact leads_pure hclosed ⟨_,hclosed,hbetween,hshown⟩

lemma outputMatchesResult_leads (h:Point request active held log L) (image : WorkerResult):
 Leads request (outputMatchesResult request.outputObject image
   request.job.limits.maximumOutputBytes) held log fun why held log =>
  ∃ checked,Point request active held log { L with checked:=checked } ∧
   (why=none → OutputHas request { L with checked:=checked } image):=by
 refine leads_perform h (not_frame rfl) ?_ ?_
 · intro reply
   cases reply<;>rfl
 intro reply log h
 cases reply with
 | none=>
  refine leads_passes (errnoMessage_passes _) h ?_
  intro detail held log h _
  exact leads_pure h ⟨L.checked,h,nofun⟩
 | some status=>
  change Point request active held log { L with checked:=some (request.outputObject,status) }
   at h
  dsimp only
  split
  · refine leads_passes (errnoMessage_passes _) h ?_
    intro detail held log h _
    exact leads_pure h ⟨_,h,nofun⟩
  split
  · exact leads_pure h ⟨_,h,nofun⟩
  rename_i hregular hmatches
  refine leads_pure h ⟨_,h,?_⟩
  intro _
  obtain ⟨regular,size⟩:=status
  have hfile:regular=true ∧ 0 ≤ size:=by simpa using hregular
  have hsize:(size ≤ request.job.limits.maximumOutputBytes.toNat ∧
    image.bytesWritten ≤ request.job.limits.maximumOutputBytes) ∧
    size=image.bytesWritten.toNat := by simpa using hmatches
  obtain ⟨⟨-,hlimit⟩,rfl⟩:=hsize
  rw [hfile.1]
  exact ⟨rfl,hlimit⟩

lemma Between.next {advance : Bytes} (h:Between request pid L) (hdecoded:Decodes bytes frame)
 (hadvance:encodeAnimationAdvance ⟨request.job.jobId,true⟩=.ok advance):
 Between request pid
  { L with
    received:=L.received++bytes
    checked:=checked
    shown:=L.shown++[frame]
    sent:=L.sent++advance }:=by
 obtain ⟨acknowledgement,parts,hacknowledged,hreceived,hparts⟩:=h.streams
 obtain ⟨handshake,job,advances,hhandshake,hjob,hadvances,hcount,hsent⟩:=h.commands
 constructor
 · exact h.atWork
 · refine ⟨acknowledgement,parts++[bytes],hacknowledged,?_,?_⟩
   · change L.received++bytes=_
     rw [hreceived,List.flatten_append,List.append_assoc,List.flatten_singleton]
   · exact List.rel_append hparts (.cons hdecoded .nil)
 · refine ⟨handshake,job,advances++[advance],hhandshake,hjob,?_,?_,?_⟩
   · intro part hpart
     obtain hpart | hpart:=List.mem_append.mp hpart
     · exact hadvances part hpart
     · rw [List.mem_singleton.mp hpart]
       exact hadvance
   · change (advances++[advance]).length=(L.shown++[frame]).length
     rw [List.length_append,List.length_append,hcount]
     rfl
   · change L.sent++advance=_
     rw [hsent,List.flatten_append,List.append_assoc,List.flatten_singleton]

/-- What the callback is promised holds of the frame that follows those shown so far. -/
lemma Between.shows {expectedSequence : UInt64} (h:Between request pid L)
 (hdecoded:Decodes bytes frame) (hsequence:expectedSequence.toNat=L.shown.length)
 (hfits:animationFrameFits request frame expectedSequence=true) (houtput:OutputHas request
  { L with received:=L.received++bytes,checked:=checked } frame.image):
 Shows request { L with received:=L.received++bytes,checked:=checked } frame:=by
 obtain ⟨acknowledgement,parts,hacknowledged,hreceived,hparts⟩:=h.streams
 have hframe:frame.sequence=expectedSequence:=by
  unfold animationFrameFits at hfits
  exact (of_decide_eq_true hfits).2.1
 constructor
 · rw [hframe]
   exact hsequence
 · rw [hframe]
   exact hfits
 · exact houtput
 · refine ⟨acknowledgement,parts++[bytes],hacknowledged,?_,?_⟩
   · change L.received++bytes=_
     rw [hreceived,List.flatten_append,List.append_assoc,List.flatten_singleton]
   · exact List.rel_append hparts (.cons hdecoded .nil)
 · exact h.commands

lemma showFrame_leads (hbetween:Between request pid L) (hdecoded:Decodes bytes frame)
 (hshows:Shows request { L with received:=L.received++bytes,checked:=checked } frame)
 (h:Point request true held log
  { L with received:=L.received++bytes,checked:=checked }):
 Leads request (showFrame request pid result frame) held log
  (Continues request fun _ held log=>∃ next,Point request true held log next ∧
   Between request pid next ∧ next.shown=L.shown++[frame]):=by
 have hwork:=hbetween.atWork.only
 refine leads_passes (poll_passes request.cancelled) h ?_
 intro stopped held log h hstopped
 cases stopped with
 | true=>exact abandonCancelled_leads h hwork (.inl (hstopped rfl))
 | false=>
  refine runs_bind (runs_ask h.sound ?_)
  intro answer
  have hnext:=h.append ⟨.showFrame frame,answer⟩ rfl ?_
  · refine ⟨hnext.sound,?_⟩
    match answer, hnext with
    | none, hnext=>exact abandon_leads hnext hwork (excused_of_error nofun)
    | some proceed, hnext=>
     cases proceed with
     | false=>
      refine leads_passes (poll_passes request.cancelled) hnext ?_
      intro stopped held log h hstopped
      cases stopped with
      | true=>exact abandonCancelled_leads h hwork (.inl (hstopped rfl))
      | false=>exact abandonCancelled_leads h hwork (.inr rfl)
     | true=>
      refine leads_passes (poll_passes request.cancelled) hnext ?_
      intro stopped held log h hstopped
      cases stopped with
      | true=>exact abandonCancelled_leads h hwork (.inl (hstopped rfl))
      | false=>
       have hproceed:¬(!true)=true:=Bool.false_ne_true
       rw [if_neg Bool.false_ne_true,if_neg hproceed]
       cases hadvance:encodeAnimationAdvance ⟨request.job.jobId,true⟩ with
       | error thrown=>exact leads_pure h ⟨true,_,h⟩
       | ok advance=>
        refine runs_step (sendAll_leads request.cancelled advance _ h) ?_
        intro outcome held log _ hsend
        cases outcome with
        | error failure=>exact abandonIo_leads hwork hsend
        | ok _=>exact leads_pure hsend ⟨_,hsend,hbetween.next hdecoded hadvance,rfl⟩
  · intro shown hshown
    obtain rfl:=SupervisorOp.showFrame.inj hshown
    exact hshows

lemma receiveFrames_leads (turns : ℕ) (expectedSequence lastFrameBytes : UInt64) (d : ℤ)
 (h:Point request true held log L) (hbetween:Between request pid L)
 (hsequence:expectedSequence.toNat=L.shown.length)
 (hturns:turns+expectedSequence.toNat=2 ^ 64):
 Leads request (receiveFrames request pid result turns expectedSequence lastFrameBytes d)
  held log (Continues request fun s held log=>∃ before checked,
   Between request pid before ∧ Point request true held log
    { before with
      received:=before.received++s.frame
      checked:=checked }):=by
 induction turns generalizing held log L expectedSequence lastFrameBytes d with
 | zero=>
  -- No sequence number is that large.
  have hlarge:=expectedSequence.toNat_lt
  omega
 | succ turns ih=>
  have hwork:=hbetween.atWork.only
  unfold receiveFrames
  refine runs_step (receiveFrame_leads request.cancelled d h) ?_
  intro outcome held log _ hreceive
  cases outcome with
  | error failure=>exact abandonIo_leads hwork hreceive
  | ok bytes=>
   obtain ⟨more,checked,hbytes,h⟩:=hreceive
   rw [List.nil_append] at hbytes
   subst hbytes
   dsimp only
   split
   · exact abandon_leads h hwork (excused_of_error nofun)
   split
   · exact leads_pure h ⟨L,checked,hbetween,h⟩
   cases hdecoded:decodeAnimationFrame bytes with
   | error error=>exact abandon_leads h hwork (excused_of_error nofun)
   | ok frame=>
    dsimp only
    refine runs_bind ?_
    unfold animationFrameMatchesRequest
    by_cases hfits:animationFrameFits request frame expectedSequence=true
    · have hgood:¬(!animationFrameFits request frame expectedSequence)=true:=by
       rw [hfits]
       exact Bool.false_ne_true
      rw [if_neg hgood]
      refine runs_mono (outputMatchesResult_leads h frame.image) ?_
      intro why held log _ hchecked
      obtain ⟨checked,h,houtput⟩:=hchecked
      cases why with
      | some why=>exact abandon_leads h hwork (excused_of_error nofun)
      | none=>
       have hshows:=hbetween.shows hdecoded hsequence hfits (houtput rfl)
       refine runs_step (showFrame_leads hbetween hdecoded hshows h) ?_
       intro outcome held log hsound hshown
       cases outcome with
       | error r=>exact runs_pure hsound hshown
       | ok _=>
        obtain ⟨next,h,hnext,hframes⟩:=hshown
        -- The last sequence number is refused, so the next one is one more.
        have hlast:expectedSequence.toNat≠2 ^ 64 - 1:=by
         unfold animationFrameFits at hfits
         exact (of_decide_eq_true hfits).2.2.1
        have hlarge:=expectedSequence.toNat_lt
        have hone:(expectedSequence+1).toNat=expectedSequence.toNat+1:=by
         rw [UInt64.toNat_add]
         exact Nat.mod_eq_of_lt (by change _+1<_; omega)
        refine ih _ _ _ h hnext ?_ ?_
        · rw [hone,hframes,List.length_append,hsequence]
          rfl
        · omega
    · have hbad:(!animationFrameFits request frame expectedSequence)=true:=by
       rw [Bool.eq_false_iff.mpr hfits]
       rfl
      rw [if_pos hbad]
      refine runs_pure h.sound ?_
      exact abandon_leads h hwork (excused_of_error nofun)

lemma decodedExitCode_eq_zero {status : WaitStatus} (h:decodedExitCode status=0):
 status=.exited 0:=by
 cases status with
 | exited code=>
  have hcode:code.toNat=0:=Int.ofNat_eq_zero.mp h
  rw [UInt8.toNat_inj.mp (hcode.trans UInt8.toNat_zero.symm)]
 | signaled signal=>
  change (128+(signal : ℕ) : ℤ)=0 at h
  omega

structure Checked (request : SupervisorRequest) (pid : Pid) (result : SupervisorResult)
  (L : Ledger) : Prop where
 atWork : AtWork pid L
 streams : ∃ acknowledgement parts last,Acknowledges request acknowledgement ∧
  L.received=acknowledgement++parts.flatten++last ∧
  List.Forall₂ Decodes parts L.shown ∧ decodeWorkerResult last=.ok result.workerResult
 jobId : result.workerResult.jobId=request.job.jobId
 output : OutputHas request L result.workerResult

lemma awaitExit_leads (h:Point request true held log L)
 (hchecked:Checked request pid result L):
 Leads request (awaitExit request pid d result) held log (Concludes request):=by
 refine runs_step (waitForProcess_leads request.cancelled pid d h hchecked.atWork.only) ?_
 intro exit held log _ hexit
 cases exit with
 | none=>
  obtain ⟨children,hchildren,worker,h⟩:=hexit
  refine leads_terminate h hchildren ?_
  intro active held' log worker hcancel h
  refine leads_get h ?_
  by_cases hstopped:held'.cancel.stopped=true
  · rw [if_pos hstopped]
    refine runs_mono (setCancelledResult_leads h (.inl hstopped) result) ?_
    intro result held' log' _ hend
    obtain ⟨rfl,rfl,hexcused⟩:=hend
    exact ⟨active,_,h,rfl,hexcused.rightful h⟩
  · rw [if_neg hstopped]
    exact leads_pure h (concludes_failed h rfl nofun)
 | some exit=>
  obtain ⟨status,hstatus,h⟩:=hexit
  dsimp only
  by_cases hexit:exit=0
  · rw [if_neg (not_not.mpr hexit)]
    refine leads_pure h ⟨true,_,h,rfl,?_⟩
    intro _
    have hzero:=decodedExitCode_eq_zero (hstatus.symm.trans hexit)
    have hworker:cameTo L.worker pid status=some (pid,some (.exited 0)):=by
     rw [hchecked.atWork.2,hzero]
     change some (if pid=pid then _ else _)=_
     rw [if_pos rfl]
    rw [h.ledger_eq]
    exact .inr ⟨hchecked.streams,hchecked.jobId,hchecked.output,⟨pid,hworker⟩,hexit⟩
  · rw [if_pos hexit]
    exact leads_pure h (concludes_failed h rfl nofun)

lemma acceptResult_leads {s : Streamed} {before : Ledger}
 (hbefore:Between request pid before) (h:Point request true held log
  { before with received:=before.received++s.frame,checked:=checked }):
 Leads request (acceptResult request pid s result) held log
  (Continues request (Concludes request)):=by
 have hwork:=hbefore.atWork.only
 unfold acceptResult
 cases hdecoded:decodeWorkerResult s.frame with
 | error error=>exact abandon_leads h hwork (excused_of_error nofun)
 | ok workerResult=>
  dsimp only
  by_cases hjob:workerResult.jobId≠(childJob request).jobId
  · rw [if_pos hjob]
    exact abandon_leads h hwork (excused_of_error nofun)
  rw [if_neg hjob]
  split
  · exact abandon_leads h hwork (excused_of_error nofun)
  refine runs_step (outputMatchesResult_leads h workerResult) ?_
  intro why held log _ houtput
  obtain ⟨checked,h,houtput⟩:=houtput
  cases why with
  | some detail=>exact abandon_leads h hwork (excused_of_error nofun)
  | none=>
   obtain ⟨acknowledgement,parts,hacknowledged,hreceived,hparts⟩:=hbefore.streams
   have hchecked:Checked request pid { result with workerResult:=workerResult }
     { before with received:=before.received++s.frame,checked:=checked }:=by
    refine ⟨hbefore.atWork,?_,not_not.mp hjob,houtput rfl⟩
    refine ⟨acknowledgement,parts,s.frame,hacknowledged,?_,hparts,hdecoded⟩
    change before.received++s.frame=_
    rw [hreceived]
   refine runs_step (awaitExit_leads s.deadline h hchecked) ?_
   intro result held log hsound hend
   exact runs_pure hsound hend

lemma converse_leads (h:Point request true held log L)
 (hwork:AtWork pid L) (hshown:L.shown=[]) (hsent:L.sent=[])
 (hreceived:L.received=[]):
 Leads request (converse request pid d result) held log (Returns request):=by
 refine runs_step (shakeHands_leads d h hwork hshown hsent hreceived) ?_
 intro outcome held log hsound hshaken
 cases outcome with
 | error r=>exact runs_pure hsound hshaken
 | ok _=>
  refine runs_step (submitJob_leads d hshaken) ?_
  intro outcome held log hsound hsubmitted
  cases outcome with
  | error r=>exact runs_pure hsound hsubmitted
  | ok d=>
   obtain ⟨L,h,hbetween,hshown⟩:=hsubmitted
   have hnone:(0 : UInt64).toNat=L.shown.length:=by
    rw [hshown]
    rfl
   refine runs_step (receiveFrames_leads (2 ^ 64) 0 0 d h hbetween hnone rfl) ?_
   intro outcome held log hsound hstreamed
   cases outcome with
   | error r=>exact runs_pure hsound hstreamed
   | ok s=>
    obtain ⟨before,checked,hbefore,h⟩:=hstreamed
    refine runs_step (closeAnimation_leads h hbefore.atWork) ?_
    intro outcome held log hsound hclosed
    cases outcome with
    | error r=>exact runs_pure hsound hclosed
    | ok _=>
     refine runs_step (acceptResult_leads hbefore hclosed) ?_
     intro outcome held log hsound hend
     cases outcome with
     | error r=>exact runs_pure hsound hend
     | ok result=>exact runs_pure hsound hend

end Conversation

section Supervision
variable {request : SupervisorRequest} {active : Bool} {held : Held} {log : SupervisorLog}
 {L : Ledger} {α β : Type} {reserved : ℕ}

/-- No child is left, and no worker has been spoken to. -/
def Fresh (request : SupervisorRequest) (active : Bool) (reserved : ℕ) (held:Held)
  (log : SupervisorLog) : Prop:=
 ∃ checked worker,
  Point request active held log { checked:=checked,worker:=worker,reserved:=reserved }

lemma superviseWorker_leads (h:Fresh request true reserved held log):
 Leads request (superviseWorker request) held log (Returns request):=by
 obtain ⟨checked,worker,h⟩:=h
 refine runs_step (chooseSandbox_leads request.cancelled h rfl) ?_
 intro sandbox held log _ hchosen
 obtain ⟨active,worker,h⟩:=hchosen
 refine leads_passes (poll_passes request.cancelled) h ?_
 intro stopped held log h hstopped
 cases stopped with
 | true=>
  refine leads_cancelled h rfl (.inl (hstopped rfl)) _ ?_
  intro result hresult
  exact leads_pure h hresult
 | false=>
  refine leads_get h ?_
  cases active with
  | false=>
   have hdeferred:(!held.active)=true:=by
    rw [h.active_eq]
    rfl
   rw [if_pos hdeferred]
   exact leads_pure h (concludes_failed h rfl nofun)
  | true=>
   have hactive:¬(!held.active)=true:=by
    rw [h.active_eq]
    exact Bool.false_ne_true
   rw [if_neg hactive]
   dsimp only
   split
   · exact leads_pure h (concludes_failed h rfl nofun)
   refine runs_step (launchWorker_leads (launchDeadline request) _ h rfl) ?_
   intro launched held log hsound hlaunched
   cases launched with
   | error result=>exact runs_pure hsound hlaunched
   | ok pid=>exact converse_leads _ hlaunched ⟨rfl,rfl⟩ rfl rfl rfl

variable (descriptor : ℤ)

lemma opensWith_passes (mode : AccessMode):
 Passes request active L (fun _ _=>True) (opensWith descriptor mode):=by
 intro held log h
 refine leads_quiet h rfl ?_
 intro opened log h
 cases opened with
 | false=>exact leads_pure h ⟨h,trivial⟩
 | true=>
  refine leads_quiet h rfl ?_
  intro found log h
  exact leads_pure h ⟨h,trivial⟩

/-- A check of a request that asks nothing of the reaper and starts nothing. -/
def Looks (request : SupervisorRequest) (m : Supervision α) : Prop:=
 ∀active reserved held log,Fresh request active reserved held log →
  Leads request m held log fun _ held log=>Fresh request active reserved held log

lemma looks_pure (a : α) : Looks request (pure a):=by
 intro active reserved held log h
 obtain ⟨checked,worker,hpoint⟩:=h
 exact leads_pure hpoint ⟨checked,worker,hpoint⟩

lemma looks_bind {m : Supervision α} {f : α → Supervision β} (hm:Looks request m)
 (hf:∀a,Looks request (f a)) : Looks request (m >>= f):=by
 intro active reserved held log h
 exact runs_step (hm active reserved held log h)
  fun a held log _ hend=>hf a active reserved held log hend

lemma looks_passes {m : Supervision α}
 (hm:∀active L,Passes request active L (fun _ _=>True) m) : Looks request m:=by
 intro active reserved held log h
 obtain ⟨checked,worker,hpoint⟩:=h
 refine runs_mono (hm active _ held log hpoint) ?_
 intro a held log _ hend
 exact ⟨checked,worker,hend.1⟩

lemma looks_quiet {op : SupervisorOp} (hquiet:quiet op=true) : Looks request (perform op):=by
 intro active reserved held log h
 obtain ⟨checked,worker,h⟩:=h
 refine runs_ask h.sound ?_
 intro reply
 have hnext:=h.append ⟨op,reply⟩ (reservations_quiet hquiet reply)
  fun frame hframe=>absurd hframe (quiet_op hquiet frame)
 rw [step_quiet hquiet] at hnext
 exact ⟨hnext.sound,checked,worker,hnext⟩

lemma looks_ite {condition : Prop} [Decidable condition] {m m' : Supervision α}
 (h:Looks request m) (h':Looks request m'):
 Looks request (if condition then m else m'):=by
 split
 · exact h
 · exact h'

lemma fileStatus_looks : Looks request (perform (.fileStatus descriptor)):=by
 intro active reserved held log h
 obtain ⟨checked,worker,h⟩:=h
 refine runs_ask h.sound ?_
 intro reply
 have hnext:=h.append ⟨.fileStatus descriptor,reply⟩ rfl
  fun frame hframe=>absurd hframe (not_frame rfl frame)
 refine ⟨hnext.sound,?_⟩
 cases reply with
 | none=>exact ⟨checked,worker,hnext⟩
 | some status=>exact ⟨some (descriptor,status),worker,hnext⟩

lemma errnoMessage_looks (operation : String) : Looks request (errnoMessage operation):=
 looks_passes fun _ _=>errnoMessage_passes operation

lemma opensWith_looks (mode : AccessMode) : Looks request (opensWith descriptor mode):=
 looks_passes fun _ _=>opensWith_passes descriptor mode

lemma emptyRegularOutput_looks : Looks request (emptyRegularOutput descriptor):=by
 refine looks_bind (fileStatus_looks descriptor) ?_
 intro found
 cases found with
 | none=>exact looks_bind (errnoMessage_looks _) fun _=>looks_pure _
 | some status=>exact looks_ite (looks_pure _) (looks_pure _)

lemma validRequest_looks : Looks request (validRequest request):=by
 unfold validRequest
 refine looks_ite (looks_pure _) (looks_ite (looks_pure _) (looks_ite (looks_pure _) ?_))
 refine looks_bind (opensWith_looks _ _) fun source=>looks_ite (looks_pure _) ?_
 refine looks_bind (opensWith_looks _ _) fun output=>looks_ite (looks_pure _) ?_
 refine looks_ite (looks_ite (looks_pure _) (looks_bind (opensWith_looks _ _) fun profile =>
  looks_ite (looks_pure _) ?_)) ?_
 all_goals
  refine looks_bind (emptyRegularOutput_looks _) ?_
  intro detail
  cases detail with
  | some detail=>exact looks_pure _
  | none=>
   exact looks_ite (looks_pure _) (looks_ite (looks_pure _)
    (looks_ite (looks_pure _) (looks_pure _)))

lemma tryReserve_leads (exhausted : String) (h:Fresh request false 0 held log):
 Leads request (tryReserve exhausted) held log fun detail held log =>
  Fresh request detail.isNone (if detail.isNone then 1 else 0) held log:=by
 obtain ⟨checked,worker,h⟩:=h
 refine runs_bind (runs_ask h.sound ?_)
 intro reserved
 have hframe (frame : AnimationFrame) : SupervisorOp.reserve≠.showFrame frame:=not_frame rfl frame
 cases reserved with
 | error what=>
  have hnext:=h.append ⟨.reserve,.error what⟩ rfl fun frame h=>absurd h (hframe frame)
  refine ⟨hnext.sound,leads_pure hnext ?_⟩
  exact ⟨checked,worker,hnext⟩
 | ok given=>
  cases given with
  | false=>
   have hnext:=h.append ⟨.reserve,.ok false⟩ rfl fun frame h=>absurd h (hframe frame)
   refine ⟨hnext.sound,leads_pure hnext ?_⟩
   exact ⟨checked,worker,hnext⟩
  | true=>
   have hnext:Point request true { held with active:=true }
     (log++[⟨.reserve,.ok true⟩])
     { checked:=checked,worker:=worker,reserved:=1 }:=by
    constructor
    · exact h.paced.append fun frame h=>absurd h (hframe frame)
    · rw [ledger_append,h.ledger_eq]
      rfl
    · rfl
    · rw [holding_append,h.holding_eq]
      rfl
    · exact le_refl 1
    · intro hstopped
      exact (h.stopped hstopped).imp_right fun hcancelled=>hcancelled.append _
   refine ⟨hnext.sound,runs_bind (runs_get hnext.sound ?_)⟩
   refine runs_bind (runs_set hnext.sound ?_)
   exact leads_pure hnext ⟨checked,worker,hnext⟩

/-- How a run ends: it holds no reservation, and a result it returns is rightful. -/
structure Finished (request : SupervisorRequest) (returned : Returned) (log : SupervisorLog):
  Prop where
 paced : Paced request log
 holds : holding log=0
 once : (ledger log).reserved≤1
 settled : ∀result,returned=.ok result → (ledger log).children=[]
 rightful : ∀result,returned=.ok result → Rightful request result log

lemma endReservation_leads (h:Point request active held log L):
 Leads request endReservation held log fun _ _ log'=>Paced request log' ∧ holding log'=0 ∧
  ledger log'=L ∧ (log'=log ∨ log'=log++[⟨.release,()⟩]):=by
 refine leads_get h ?_
 cases active with
 | false=>
  have hactive:¬held.active=true:=by
   rw [h.active_eq]
   exact Bool.false_ne_true
  rw [if_neg hactive]
  exact leads_pure h ⟨h.paced,h.holding_eq,h.ledger_eq,.inl rfl⟩
 | true=>
  rw [if_pos h.active_eq]
  refine runs_bind (runs_ask h.sound ?_)
  intro _
  have hpaced:Paced request (log++[⟨.release,()⟩]):=
   h.paced.append fun frame hframe=>absurd hframe (not_frame rfl frame)
  have hholding:holding (log++[⟨.release,()⟩])=0:=by
   rw [holding_append,h.holding_eq]
   rfl
  have hledger:ledger (log++[⟨.release,()⟩])=L:=by
   rw [ledger_append,h.ledger_eq]
   rfl
  have hsound:Sound request (log++[⟨.release,()⟩]):=by
   refine ⟨hpaced,?_⟩
   rw [hholding]
   decide
  exact ⟨hsound,runs_set hsound ⟨hpaced,hholding,hledger,.inr rfl⟩⟩

lemma rightful_append {result : SupervisorResult} (h:Rightful request result log)
 (event : SupervisorEvent) (hledger:ledger (log++[event])=ledger log):
 Rightful request result (log++[event]):=by
 intro hnone
 rw [hledger]
 exact (h hnone).imp_left fun hcancelled=>⟨hcancelled.1.append event,hcancelled.2⟩

lemma finishes {r : Returned} (h:Returns request r held log):
 Leads request (do endReservation; return r) held log fun r _ log =>
  Finished request r log:=by
 have hpoint:∃ active L,Point request active held log L ∧ ∀result,r=.ok result →
   L.children=[] ∧ Rightful request result log:=by
  cases r with
  | error thrown=>
   obtain ⟨active,L,h⟩:=h
   refine ⟨active,L,h,?_⟩
   intro result hresult
   cases hresult
  | ok result=>
   obtain ⟨active,L,h,hchildren,hresult⟩:=h
   refine ⟨active,L,h,?_⟩
   intro other hother
   rw [←Except.ok.inj hother]
   exact ⟨hchildren,hresult⟩
 obtain ⟨active,L,h,hresult⟩:=hpoint
 refine runs_step (endReservation_leads h) ?_
 intro _ held log' hsound hend
 obtain ⟨hpaced,hholding,hledger,hlog⟩:=hend
 have honce:(ledger log').reserved≤1:=by
  rw [hledger]
  exact h.once
 refine runs_pure hsound ⟨hpaced,hholding,honce,?_,?_⟩
 · intro result hreturned
   rw [hledger]
   exact (hresult result hreturned).1
 · intro result hreturned
   obtain rfl | rfl:=hlog
   · exact (hresult result hreturned).2
   · exact rightful_append (hresult result hreturned).2 _ (hledger.trans h.ledger_eq.symm)

lemma finished_early {result : SupervisorResult} (h:Fresh request false reserved held log)
 (hresult:Rightful request result log) : Finished request (.ok result) log:=by
 obtain ⟨checked,worker,h⟩:=h
 constructor
 · exact h.paced
 · exact h.holding_eq
 · rw [h.ledger_eq]
   exact h.once
 · intro _ _
   rw [h.ledger_eq]
 · intro other hother
   rw [←Except.ok.inj hother]
   exact hresult

lemma fresh_nil : Fresh request false 0 {} []:=
 ⟨none,none,paced_nil,rfl,rfl,rfl,Nat.zero_le 1,nofun⟩

lemma runWorkerOnce_leads : Leads request (runWorkerOnce request) {} []
 fun r _ log=>Finished request r log:=by
 obtain ⟨checked,worker,h⟩:=(fresh_nil : Fresh request false 0 {} [])
 refine leads_passes (poll_passes request.cancelled) h ?_
 intro stopped held log h hstopped
 cases stopped with
 | true=>
  refine runs_step (setCancelledResult_leads h (.inl (hstopped rfl)) {}) ?_
  intro result held' log' hsound hend
  obtain ⟨rfl,rfl,hexcused⟩:=hend
  exact runs_pure hsound (finished_early ⟨checked,worker,h⟩ (hexcused.rightful h))
 | false=>
  refine runs_step (validRequest_looks false 0 held log ⟨checked,worker,h⟩) ?_
  intro detail held log hsound h
  cases detail with
  | some detail=>exact runs_pure hsound (finished_early h (rightful_of_error nofun))
  | none=>
   refine runs_step (looks_quiet rfl false 0 held log h) ?_
   intro found held log hsound h
   split
   · exact runs_pure hsound (finished_early h (rightful_of_error nofun))
   refine runs_step (tryReserve_leads _ h) ?_
   intro detail held log hsound h
   cases detail with
   | some detail=>exact runs_pure hsound (finished_early h (rightful_of_error nofun))
   | none=>
    refine runs_step (superviseWorker_leads h) ?_
    intro r held log _ h
    exact finishes h

end Supervision

end VoVe.WorkerRunSafety
