import VoVe.GifAnimation

set_option autoImplicit false

namespace VoVe.GifAnimation
open ByteCodec Playback WorkerProtocol
open ThumbnailCache (QoiImage decodeQoiRgba8)

/-- What of the client the history speaks about. -/
structure View where
 active : Bool
 retiring : Bool
 waiting : Option QString
 runningGeneration : ℕ
 generation : ℕ
 key : QString
 nextSequence : UInt64
 readState : ReadState
 frame : AnimationFrame
 deadline : ℕ
 holdStarted : ℕ
 clock : ℕ
 held : Bool
 haveFrame : Bool

variable (client : Client)

def Client.view : View where
 active:=client.active
 retiring:=client.retiring
 waiting:=client.pending.map Request.key
 runningGeneration:=client.runningGeneration
 generation:=client.generation
 key:=client.key
 nextSequence:=client.nextSequence
 readState:=client.readState
 frame:=client.frame
 deadline:=client.frameDeadline
 holdStarted:=client.holdStarted
 clock:=client.clock
 held:=client.held
 haveFrame:=client.haveFrame

def Client.episode : Episode QString := ({} : Episode QString).after client.log

/-- The frame received last is the one to present next. -/
def Unpresented (view : View) (episode : Episode QString) : Prop:=
 episode.accepted.length = episode.acknowledged+1 ∧ episode.presented = episode.acknowledged ∧
  view.frame.sequence.toNat = episode.presented ∧
  episode.accepted[episode.presented]? = some view.frame.delayMs.toNat

/-- How far the frame is that the client is at. -/
def Stage (view : View) (episode : Episode QString) : Prop:=
 match view.readState with
 | .header | .metadata=>
  episode.accepted.length = episode.acknowledged ∧ episode.presented = episode.acknowledged
 | .image | .staged=>Unpresented view episode
 | .acknowledgement=>
  episode.accepted.length = episode.acknowledged+1 ∧
   episode.presented = episode.acknowledged+1

/-- The deadline lies behind the delays and holds of all frames presented, and once the last of them
is acknowledged so does the time outside the hold. -/
structure Paced (view : View) (episode : Episode QString) : Prop where
 since : episode.heldSince=if view.held then some view.holdStarted else none
 past : view.held=true → view.holdStarted≤view.clock
 deadline : episode.first+episode.delays+episode.held≤view.deadline
 acknowledged : view.readState≠.acknowledgement →
  episode.first+episode.delays+episode.held ≤
   if view.held then view.holdStarted else view.clock

structure Playing (view : View) (episode : Episode QString) : Prop where
 key : episode.key=some view.key
 sequence : view.nextSequence.toNat=episode.accepted.length
 shown : view.haveFrame=true ↔ episode.presented≠0
 stage : Stage view episode
 paced : episode.presented≠0 → Paced view episode

/-- The client is stopped, waits for its helper to start, or plays. -/
structure Tracks (view : View) (episode : Episode QString) : Prop where
 launched : view.runningGeneration≤view.generation
 retired : view.retiring=true → view.runningGeneration<view.generation
 idle : view.active=false → episode.key=none ∧ view.waiting=none
 waiting : ∀key,view.waiting=some key →
  view.runningGeneration<view.generation ∧ episode.key=some key ∧ episode.accepted=[] ∧
   episode.presented=0 ∧ episode.acknowledged=0
 playing : view.active=true → view.waiting=none →
  view.runningGeneration=view.generation ∧ Playing view episode

structure Good (client : Client) : Prop where
 lawful : Lawful client.log
 tracks : Tracks client.view client.episode

/-- Between events some bytes of a part are missing, or no part is expected. -/
def Ready : Prop:=
 client.receiving = true →
  match client.readState with
  | .header=>client.needed = ScanCodec.frameHeaderBytes ∧ client.buffer.length < client.needed
  | .metadata | .image=>client.buffer.length < client.needed
  | .staged | .acknowledgement=>client.buffer = []

structure Sound (client : Client) : Prop extends Good client where
 ready : Ready client

section Clocks
variable {view : View} {episode : Episode QString}

lemma paced_later (h:Paced view episode) {now : ℕ} (hnow:view.clock≤now):
  Paced { view with clock:=now } episode where
 since:=h.since
 past:=fun hheld=>(h.past hheld).trans hnow
 deadline:=h.deadline
 acknowledged:=by
  intro hstate
  have hbound:=h.acknowledged hstate
  cases hheld:view.held with
  | true=>simpa [hheld] using hbound
  | false=>
   simp only [hheld,Bool.false_eq_true,if_false] at hbound ⊢
   exact hbound.trans hnow

lemma tracks_later (h:Tracks view episode) {now : ℕ} (hnow:view.clock≤now):
 Tracks { view with clock:=now } episode := { h with
  playing:=by
   intro hactive hwaiting
   obtain ⟨hgeneration,hplaying⟩:=h.playing hactive hwaiting
   exact ⟨hgeneration,hplaying.key,hplaying.sequence,hplaying.shown,hplaying.stage,
    fun hpresented=>paced_later (hplaying.paced hpresented) hnow⟩ }

lemma playing_turned (h:Playing view episode) {held : Bool} (hturn:view.held≠held)
 {now : ℕ} (hnow:view.clock≤now):
 Playing { view with
  held,clock := now
  holdStarted:=if held then now else view.holdStarted
  deadline:=if !held && view.haveFrame then view.deadline+(now - view.holdStarted)
   else view.deadline } (episode.next (.hold held now : Seen)):=by
 cases held with
 | true=>
  have hfree:view.held=false:=by simpa using hturn
  refine ⟨h.key,h.sequence,h.shown,h.stage,fun hpresented=>?_⟩
  have hpaced:=h.paced hpresented
  refine ⟨rfl,fun _=>le_rfl,hpaced.deadline,fun hstate=>?_⟩
  have helapsed:=hpaced.acknowledged hstate
  rw [hfree,if_neg Bool.false_ne_true] at helapsed
  exact helapsed.trans hnow
 | false=>
  have hheld:view.held=true:=by simpa using hturn
  refine ⟨h.key,h.sequence,h.shown,h.stage,fun hpresented=>?_⟩
  have hpaced:=h.paced hpresented
  have hshown:=h.shown.mpr hpresented
  have hsince:=hpaced.since
  have hpast:=hpaced.past hheld
  have hbefore:=hpaced.deadline
  have helapsed:=hpaced.acknowledged
  rw [hheld,if_pos rfl] at hsince helapsed
  have hheldAt:episode.heldAt now=episode.held+(now - view.holdStarted):=by
   rw [Episode.heldAt,hsince]
  refine ⟨rfl,fun hhold=>absurd hhold Bool.false_ne_true,?_,fun hstate=>?_⟩
  · change episode.first+episode.delays+episode.heldAt now ≤ if (true && view.haveFrame)=true
     then view.deadline+(now - view.holdStarted) else view.deadline
    rw [hshown,hheldAt,Bool.and_self,if_pos rfl]
    omega
  · have hdue:=helapsed hstate
    change episode.first+episode.delays+episode.heldAt now≤now
    rw [hheldAt]
    omega

lemma tracks_turned (h:Tracks view episode) {held : Bool} (hturn:view.held≠held) {now : ℕ}
 (hnow:view.clock≤now):
 Tracks { view with
  held,clock := now
  holdStarted:=if held then now else view.holdStarted
  deadline:=if !held && view.haveFrame then view.deadline+(now - view.holdStarted)
   else view.deadline } (episode.next (.hold held now : Seen)):=by
 have hsame:(episode.next (.hold held now : Seen)).key=episode.key ∧
   (episode.next (.hold held now : Seen)).accepted=episode.accepted ∧
   (episode.next (.hold held now : Seen)).presented=episode.presented ∧
   (episode.next (.hold held now : Seen)).acknowledged=episode.acknowledged:=by
  cases held with
  | true=>exact ⟨rfl,rfl,rfl,rfl⟩
  | false=>exact ⟨rfl,rfl,rfl,rfl⟩
 constructor
 · exact h.launched
 · exact h.retired
 · intro hidle
   rw [hsame.1]
   exact h.idle hidle
 · intro key hwaiting
   rw [hsame.1,hsame.2.1,hsame.2.2.1,hsame.2.2.2]
   exact h.waiting key hwaiting
 · intro hactive hwaiting
   obtain ⟨hgeneration,hplaying⟩:=h.playing hactive hwaiting
   exact ⟨hgeneration,playing_turned hplaying hturn hnow⟩

lemma tracks_restaged (h:Tracks view episode) (readState : ReadState)
 (hother:view.readState≠.acknowledgement)
 (hstage:Stage view episode → Stage { view with readState } episode):
 Tracks { view with readState } episode := { h with
  playing:=by
   intro hactive hwaiting
   obtain ⟨hgeneration,hplaying⟩:=h.playing hactive hwaiting
   refine ⟨hgeneration,hplaying.key,hplaying.sequence,hplaying.shown,hstage hplaying.stage,?_⟩
   intro hpresented
   have hpaced:=hplaying.paced hpresented
   exact ⟨hpaced.since,hpaced.past,hpaced.deadline,fun _=>hpaced.acknowledged hother⟩ }

lemma tracks_playing (h:Playing view episode)
  (hlaunched:view.runningGeneration=view.generation) (hactive:view.active=true)
  (hretiring:view.retiring=false) (hwaiting:view.waiting=none):
  Tracks view episode where
 launched:=hlaunched.le
 retired:=fun hretired=>absurd (hretiring.symm.trans hretired) Bool.false_ne_true
 idle:=fun hidle=>absurd (hidle.symm.trans hactive) Bool.false_ne_true
 waiting:=fun key hkey=>by rw [hwaiting] at hkey; cases hkey
 playing:=fun _ _=>⟨hlaunched,h⟩

lemma playing_presented (h:Playing view episode)
 (hstate:view.readState=.image ∨ view.readState=.staged)
 (hshown:view.held=true → view.haveFrame=false) {now deadline : ℕ}
 (hnow:view.clock≤now)
 (hdeadline:now+view.frame.delayMs.toNat≤deadline ∨
  view.haveFrame=true ∧ view.deadline+view.frame.delayMs.toNat≤deadline)
 (image : QoiImage):
 let happening : Seen := .presented view.key view.frame.sequence.toNat
  view.frame.delayMs.toNat image view.held now
 episode.Allowed happening ∧
  Playing { view with
   clock:=now,deadline,haveFrame := true,readState := .acknowledgement
   holdStarted:=if view.held then now else view.holdStarted } (episode.next happening):=by
 have hunpresented:Unpresented view episode:=by
  have hstage:=h.stage
  cases hstate with
  | inl himage=>simpa only [Stage,himage] using hstage
  | inr hstaged=>simpa only [Stage,hstaged] using hstage
 obtain ⟨haccepted,hpresented,hsequence,hdelay⟩:=hunpresented
 have hdelays:=delays_succ hdelay
 have hheld:view.held=true → episode.presented=0:=by
  intro hheld
  by_contra hmore
  exact Bool.false_ne_true ((hshown hheld).symm.trans (h.shown.mpr hmore))
 constructor
 · exact ⟨h.key,hsequence,hsequence ▸ hdelay,fun hhold=>hsequence.trans (hheld hhold)⟩
 · by_cases hfirst:episode.presented=0
   · simp only [Episode.next,if_pos hfirst]
     have hdue:now+view.frame.delayMs.toNat≤deadline:=by
      cases hdeadline with
      | inl hdue=>exact hdue
      | inr hcarried=>exact absurd hfirst (h.shown.mp hcarried.1)
     rw [hfirst] at hdelays
     refine ⟨h.key,h.sequence,by simp,⟨haccepted,?_⟩,fun _=>⟨?_,?_,?_,?_⟩⟩
     · exact congrArg (·+1) (hfirst.symm.trans hpresented)
     · cases view.held with
       | true=>rfl
       | false=>rfl
     · intro hhold
       have hstarted:(if view.held=true then now else view.holdStarted)=now:=if_pos hhold
       exact hstarted.le
     · have hnone:episode.delays=0:=by
        rw [Episode.delays,hfirst]
        rfl
       change now+(episode.accepted.take (0+1)).sum+0≤deadline
       omega
     · intro hother
       exact absurd rfl hother
   · simp only [Episode.next,if_neg hfirst]
     have hfree:view.held=false:=by
      cases hhold:view.held with
      | false=>rfl
      | true=>exact absurd (hheld hhold) hfirst
     have hpaced:=h.paced hfirst
     have hstateOther:view.readState≠.acknowledgement:=by
      cases hstate with
      | inl himage=>
       rw [himage]
       decide
      | inr hstaged=>
       rw [hstaged]
       decide
     have helapsed:=hpaced.acknowledged hstateOther
     have hbefore:=hpaced.deadline
     simp only [hfree,Bool.false_eq_true,if_false] at helapsed ⊢
     refine ⟨h.key,h.sequence,by simp,⟨haccepted,?_⟩,fun _=>⟨?_,?_,?_,?_⟩⟩
     · exact congrArg (·+1) hpresented
     · have hsince:=hpaced.since
       simpa only [hfree,Bool.false_eq_true,if_false] using hsince
     · intro hhold
       exact absurd hhold Bool.false_ne_true
     · simp only [Episode.delays] at hdelays helapsed hbefore ⊢
       cases hdeadline with
       | inl hdue=>omega
       | inr hcarried=>omega
     · intro hother
       exact absurd rfl hother

end Clocks

variable {episode : Episode QString} {happening : Seen} {after : Client} {view : View}

namespace Client
variable {world : World} {c client : Client} {callback : Client → Client}

lemma receiving_iff : c.receiving=true ↔
 c.active=true ∧ c.retiring=false ∧
  c.runningGeneration=c.generation:=by
 simp [receiving]

lemma waiting_of_receiving (h:Tracks c.view episode) (hreceiving:c.receiving=true)
 : c.view.waiting=none:=by
 obtain ⟨-,-,hgeneration⟩:=receiving_iff.mp hreceiving
 cases hpending:c.view.waiting with
 | none=>rfl
 | some key=>exact absurd hgeneration (h.waiting key hpending).1.ne

lemma playing_of_receiving (h:Tracks c.view episode) (hreceiving:c.receiving=true)
 : Playing c.view episode:=
 (h.playing (receiving_iff.mp hreceiving).1 (waiting_of_receiving h hreceiving)).2

lemma good_next (h:Lawful c.log) (hlog:after.log=c.log++[happening])
  (hallowed:c.episode.Allowed happening)
  (htracks:Tracks after.view (c.episode.next happening)) : Good after where
 lawful:=by
  rw [hlog]
  exact lawful_append h hallowed
 tracks:=by
  have hepisode:after.episode=c.episode.next happening:=by
   rw [episode,hlog]
   exact after_append_singleton _
  rw [hepisode]
  exact htracks

lemma good_note (h:Lawful c.log) (hallowed:c.episode.Allowed happening)
 (htracks:Tracks c.view (c.episode.next happening)):
 Good (c.note happening) := good_next h rfl hallowed htracks

lemma sound_of_same (h:Sound c) (hview:after.view=c.view)
  (hlog:after.log=c.log) (hbuffer:after.buffer=c.buffer)
  (hneeded:after.needed=c.needed) : Sound after where
 lawful:=hlog ▸ h.lawful
 tracks:=by
  have hepisode:after.episode=c.episode:=congrArg (fun log=>({} : Episode QString).after log) hlog
  rw [hview,hepisode]
  exact h.tracks
 ready:=by
  have hactive:after.active=c.active:=congrArg View.active hview
  have hretiring:after.retiring=c.retiring:=congrArg View.retiring hview
  have hrunning:after.runningGeneration=c.runningGeneration:=congrArg View.runningGeneration hview
  have hgeneration:after.generation=c.generation:=congrArg View.generation hview
  have hstate:after.readState=c.readState:=congrArg View.readState hview
  have hready:=h.ready
  simp only [Ready,receiving] at hready ⊢
  rw [hactive,hretiring,hrunning,hgeneration,hstate,hbuffer,hneeded]
  exact hready

lemma elapsed_sound (h:Sound c) : Sound (c.elapsed world).2 where
 lawful:=h.lawful
 tracks:=tracks_later h.tracks (Nat.le_add_right _ _)
 ready:=h.ready

lemma updateTimers_sound (h:Sound c) : Sound (c.updateTimers world):=by
 have hstopped:Sound { c with frameTimer:=none } := sound_of_same h rfl rfl rfl rfl
 unfold updateTimers
 simp only
 split
 · exact sound_of_same h rfl rfl rfl rfl
 · split
   · have hread:=@elapsed_sound world _ hstopped
     exact sound_of_same hread rfl rfl rfl rfl
   · split
     · exact sound_of_same h rfl rfl rfl rfl
     · exact hstopped

lemma sound_of_idle (h:Good c) (hidle:c.receiving=false) : Sound c where
 toGood:=h
 ready:=fun hreceiving=>absurd (hidle.symm.trans hreceiving) Bool.false_ne_true

lemma not_receiving (hlater:c.runningGeneration<c.generation):
 c.receiving=false:=by
 cases hreceiving:c.receiving with
 | false=>rfl
 | true=>exact absurd (receiving_iff.mp hreceiving).2.2 hlater.ne

lemma stop_tracks (hlaunched:c.runningGeneration ≤ c.generation)
  {episode : Episode QString} (hkey:episode.key=none):
  Tracks c.stop.view episode where
 launched:=hlaunched.trans (Nat.le_succ _)
 retired:=fun _=>Nat.lt_succ_of_le hlaunched
 idle:=fun _=>⟨hkey,rfl⟩
 waiting:=fun key hwaiting=>by cases hwaiting
 playing:=fun hactive=>by cases hactive

lemma scheduleStart_same (c : Client):
 c.scheduleStart.view=c.view ∧ c.scheduleStart.log=c.log:=by
 unfold scheduleStart
 split
 · exact ⟨rfl,rfl⟩
 · exact ⟨rfl,rfl⟩

lemma scheduleStart_sound (h:Sound c) : Sound c.scheduleStart:=by
 unfold scheduleStart
 split
 · exact h
 · exact sound_of_same h rfl rfl rfl rfl

lemma start_sound (h:Good c) (r : Request):
 Sound ((c.start r).note (.started r.key)):=by
 unfold start
 simp only
 generalize hstarted:
  { c.stop with paused:=false,active:=true,pending:=some r }=started
 have hlog:started.log=c.log:=by
  rw [←hstarted]
  rfl
 have hview:started.view=
   { c.stop.view with
     active:=true,waiting := some r.key,held := c.suspended }:=by
  rw [←hstarted]
  rfl
 have hlawful:Lawful started.scheduleStart.log:=by
  rw [started.scheduleStart_same.2,hlog]
  exact h.lawful
 have hallowed:started.scheduleStart.episode.Allowed (.started r.key : Seen):=trivial
 have hlater:started.scheduleStart.runningGeneration<started.scheduleStart.generation:=by
  change started.scheduleStart.view.runningGeneration<started.scheduleStart.view.generation
  rw [started.scheduleStart_same.1,hview]
  exact Nat.lt_succ_of_le h.tracks.launched
 refine sound_of_idle (good_note hlawful hallowed ?_) (not_receiving hlater)
 rw [started.scheduleStart_same.1,hview]
 constructor
 · exact h.tracks.launched.trans (Nat.le_succ _)
 · intro _
   exact Nat.lt_succ_of_le h.tracks.launched
 · intro hidle
   cases hidle
 · intro key hwaiting
   cases hwaiting
   exact ⟨Nat.lt_succ_of_le h.tracks.launched,rfl,rfl,rfl,rfl⟩
 · intro hactive hwaiting
   cases hwaiting

lemma stop_sound (h:Good c) : Sound (c.stop.note .stopped):=by
 have hallowed:c.stop.episode.Allowed (.stopped : Seen):=trivial
 exact sound_of_idle (good_note h.lawful hallowed (stop_tracks h.tracks.launched rfl))
  (not_receiving (Nat.lt_succ_of_le h.tracks.launched))

lemma complete_sound (hcallback:∀c,Sound c → Sound (callback c))
 (h:c.receiving=false → Good c) (success : Bool) (detail : Bytes)
 (hreceiving:c.receiving=true → Lawful c.log ∧
  c.runningGeneration ≤ c.generation ∧
  c.episode.Allowed (.finished success detail : Seen)):
 Sound (c.complete callback success detail):=by
 unfold complete
 cases hplays:c.receiving with
 | false=>
  simp only [Bool.not_false,if_true]
  exact sound_of_idle (h hplays) hplays
 | true=>
  simp only [Bool.not_true,Bool.false_eq_true,if_false]
  obtain ⟨hlawful,hlaunched,hallowed⟩:=hreceiving hplays
  apply hcallback
  exact sound_of_idle (good_note hlawful hallowed (stop_tracks hlaunched rfl))
   (not_receiving (Nat.lt_succ_of_le hlaunched))

lemma fail_sound (hcallback:∀c,Sound c → Sound (callback c)) (h:Good c)
 (detail : Bytes) : Sound (c.complete callback false detail):=by
 apply complete_sound hcallback (fun _=>h)
 intro hreceiving
 have hplaying:=playing_of_receiving h.tracks hreceiving
 refine ⟨h.lawful,h.tracks.launched,?_,fun hsuccess=>by cases hsuccess⟩
 rw [hplaying.key]
 rfl

lemma afterCallback_sound (h:Sound c) (generation : ℕ):
 Sound (c.afterCallback world generation).2:=by
 unfold afterCallback
 split
 · exact h
 · exact updateTimers_sound h

lemma presentFrame_sound (hcallback:∀c,Sound c → Sound (callback c))
 (h:Good c) (hreceiving:c.receiving=true)
 (hstate:c.readState=.image ∨ c.readState=.staged)
 (hbuffer:c.buffer=[]) (hshown:c.held=true → c.haveFrame=false)
 (image : QoiImage) (restartDelay : Bool) : Sound (c.presentFrame world callback image restartDelay).2:=by
 have hplaying:=playing_of_receiving h.tracks hreceiving
 obtain ⟨hactive,hretiring,hgeneration⟩:=receiving_iff.mp hreceiving
 have hwaiting:=waiting_of_receiving h.tracks hreceiving
 have hnow:c.view.clock ≤ c.clock+world.ticks c.readings:=Nat.le_add_right _ _
 have hdeadline:∀now,∀deadline,(if (c.haveFrame && !restartDelay)=true then
    max (c.frameDeadline+c.frame.delayMs.toNat) now
   else now+c.frame.delayMs.toNat)=deadline →
   now+c.frame.delayMs.toNat≤deadline ∨
   c.haveFrame=true ∧ c.frameDeadline+c.frame.delayMs.toNat≤deadline:=by
  intro now deadline hdue
  rw [←hdue]
  cases hcarried:c.haveFrame && !restartDelay with
  | false=>exact .inl le_rfl
  | true=>exact .inr ⟨(Bool.and_eq_true_iff.mp hcarried).1,le_max_left _ _⟩
 obtain ⟨hallowed,hnext⟩:=playing_presented hplaying hstate hshown hnow
  (hdeadline _ _ rfl) image
 have hpresented:=tracks_playing hnext hgeneration hactive hretiring hwaiting
 unfold presentFrame
 apply afterCallback_sound
 apply hcallback
 exact ⟨good_note h.lawful hallowed hpresented,fun _=>hbuffer⟩

lemma turnHold_same (c : Client):
 let now:=c.clock+world.ticks c.readings
 (c.turnHold world).view={ c.view with
  clock:=now
  holdStarted:=if c.held then now else c.holdStarted
  deadline:=if !c.held && c.haveFrame then
   c.frameDeadline+(now - c.holdStarted) else c.frameDeadline } ∧
  (c.turnHold world).log=c.log++[.hold c.held now]:=by
 have hread:∀clock readings log,Client.held { c with clock,readings,log }=
   c.held := fun _ _ _=>rfl
 simp only [turnHold,elapsed,note,hread]
 cases hheld:c.held with
 | true=>
  simp only [if_true,Bool.not_true,Bool.false_and,Bool.false_eq_true,if_false,and_true]
  simp only [view,held] at hheld ⊢
 | false=>
  cases hshown:c.haveFrame with
  | true=>
   simp only [Bool.false_eq_true,if_false,if_true,Bool.not_false,Bool.true_and,and_true]
   simp only [view,held,hshown] at hheld ⊢
  | false=>
   simp only [Bool.false_eq_true,if_false,Bool.and_false,and_true]
   simp only [view,held,hshown] at hheld ⊢

lemma turnHold_ready (h:Ready c) : Ready (c.turnHold world):=by
 unfold turnHold
 simp only
 split
 · exact h
 · split
   · exact h
   · exact h

lemma turnHold_sound (h:Sound c) {changed : Client}
 (hview:changed.view={ c.view with held:=changed.held })
 (hlog:changed.log=c.log) (hready:Ready changed) (hturn:c.held≠changed.held):
 Sound (changed.turnHold world):=by
 obtain ⟨hturned,hnoted⟩:=@turnHold_same world changed
 have hclock:c.view.clock ≤ changed.clock+world.ticks changed.readings:=by
  have hsame:changed.clock=c.clock:=congrArg View.clock hview
  rw [hsame]
  exact Nat.le_add_right _ _
 have htracks:=tracks_turned h.tracks hturn hclock
 rw [hlog] at hnoted
 have hallowed:c.episode.Allowed
   (.hold changed.held (changed.clock+world.ticks changed.readings) : Seen) := trivial
 refine ⟨good_next h.lawful hnoted hallowed ?_,turnHold_ready hready⟩
 have hholdStarted:changed.holdStarted=c.holdStarted:=congrArg View.holdStarted hview
 have hdeadline:changed.frameDeadline=c.frameDeadline:=congrArg View.deadline hview
 have hshown:changed.haveFrame=c.haveFrame:=congrArg View.haveFrame hview
 rw [hturned,hholdStarted,hdeadline,hshown,hview]
 exact htracks

lemma changeHold_sound (hcallback:∀c,Sound c → Sound (callback c))
 (h:Sound c) (flag : HoldFlag) (value : Bool):
 Sound (c.changeHold world callback flag value):=by
 have hchanged:(c.withFlag value flag).view=
    { c.view with held:=(c.withFlag value flag).held } ∧
   (c.withFlag value flag).log=c.log ∧ Ready (c.withFlag value flag) ∧
   (c.withFlag value flag).buffer=c.buffer ∧
   (c.withFlag value flag).needed=c.needed:=by
  cases flag with
  | paused=>exact ⟨rfl,rfl,h.ready,rfl,rfl⟩
  | suspended=>exact ⟨rfl,rfl,h.ready,rfl,rfl⟩
 unfold changeHold
 simp only
 split
 · exact h
 · generalize c.withFlag value flag=changed at hchanged
   obtain ⟨hview,hlog,hready,hbuffer,hneeded⟩:=hchanged
   have hturned:
     Sound (if changed.held≠c.held then changed.turnHold world else changed):=by
    split
    · rename_i hturn
      exact turnHold_sound h hview hlog hready (Ne.symm hturn)
    · rename_i hsame
      have hheld:changed.held=c.held:=not_not.mp hsame
      rw [hheld] at hview
      exact sound_of_same h hview hlog hbuffer hneeded
   generalize (if changed.held≠c.held then changed.turnHold world else changed)=turned
    at hturned
   split
   · rename_i hstaged
     obtain ⟨hfree,hreceiving,hstate⟩:=hstaged
     have hcleared:Good { turned with stagedImage:=nullImage }:=⟨hturned.lawful,hturned.tracks⟩
     have hempty:turned.buffer=[]:=by
      have hready:=hturned.ready hreceiving
      simpa only [hstate] using hready
     apply presentFrame_sound hcallback hcleared hreceiving (.inr hstate) hempty
     intro hheld
     have hfree':turned.held=false:=by simpa using hfree
     exact absurd (hfree'.symm.trans hheld) Bool.false_ne_true
   · exact updateTimers_sound hturned

lemma perform_sound (hcallback:∀c,Sound c → Sound (callback c))
 (h:Sound c) (command : Command) : Sound (c.perform world callback command):=by
 cases command with
 | start r=>exact start_sound h.toGood r
 | stop=>exact stop_sound h.toGood
 | setPaused paused=>exact changeHold_sound hcallback h .paused paused
 | setSuspended suspended=>exact changeHold_sound hcallback h .suspended suspended

lemma react_sound (reaction : Reaction):
 ∀c,Sound c → Sound (react world reaction c):=by
 induction reaction with
 | done=>
  intro c h
  exact h
 | call command inside rest hinside hrest=>
  intro c h
  exact hrest _ (perform_sound hinside h command)

lemma owner_sound (world : World) (c : Client) (h:Sound c):
 Sound (c.owner world):=by
 apply react_sound
 exact sound_of_same h rfl rfl rfl rfl

lemma tracks_terminated (h:Tracks view episode) (succeeded : Bool):
 Tracks view (episode.next (.terminated succeeded : Seen)) := { h with
  playing:=by
   intro hactive hwaiting
   obtain ⟨hgeneration,hplaying⟩:=h.playing hactive hwaiting
   refine ⟨hgeneration,hplaying.key,hplaying.sequence,hplaying.shown,hplaying.stage,?_⟩
   intro hpresented
   have hpaced:=hplaying.paced hpresented
   exact ⟨hpaced.since,hpaced.past,hpaced.deadline,hpaced.acknowledged⟩ }

lemma consumeResult_sound (h:Good c) (result : WorkerResult):
 Sound (c.consumeResult world result):=by
 unfold consumeResult
 simp only
 generalize hsucceeded : (decide (result.status=.success))=succeeded
 have hallowed:c.episode.Allowed (.terminated succeeded : Seen):=trivial
 have hnoted:=good_note h.lawful hallowed (tracks_terminated h.tracks succeeded)
 apply complete_sound (owner_sound world) (fun _=>hnoted)
 intro hreceiving
 have hplaying:=playing_of_receiving hnoted.tracks hreceiving
 refine ⟨hnoted.lawful,hnoted.tracks.launched,?_,?_⟩
 · rw [hplaying.key]
   rfl
 · intro hsuccess
   obtain ⟨hresult,hshown⟩:=Bool.and_eq_true_iff.mp hsuccess
   refine ⟨hplaying.shown.mp hshown,?_⟩
   have hepisode:(c.note (.terminated succeeded)).episode=
     c.episode.next (.terminated succeeded : Seen) := after_append_singleton _
   rw [hepisode,hresult]
   rfl

lemma tracks_accepted (h:Playing view episode)
 (hlaunched:view.runningGeneration=view.generation) (hactive:view.active=true)
 (hretiring:view.retiring=false) (hwaiting:view.waiting=none)
 (hstate:view.readState=.metadata) {frame : AnimationFrame}
 (hsequence:frame.sequence=view.nextSequence)
 (hbound:view.nextSequence≠UInt64.ofNat (2 ^ 64 - 1)):
 let happening : Seen := .accepted frame.sequence.toNat frame.delayMs.toNat
 episode.Allowed happening ∧
  Tracks { view with
   frame,nextSequence := view.nextSequence+1,readState := .image }
   (episode.next happening):=by
 have hstage:=h.stage
 simp only [Stage,hstate] at hstage
 obtain ⟨hacknowledged,hpresented⟩:=hstage
 have hcount:frame.sequence.toNat=episode.accepted.length:=by
  rw [hsequence]
  exact h.sequence
 constructor
 · refine ⟨?_,hcount,?_⟩
   · rw [h.key]
     rfl
   · omega
 · have hnext:(view.nextSequence+1).toNat=episode.accepted.length+1:=by
    have hsmall:view.nextSequence.toNat≠2 ^ 64 - 1:=by
     intro hlast
     apply hbound
     rw [←hlast]
     exact UInt64.ofNat_toNat.symm
    have hlt:=view.nextSequence.toNat_lt
    rw [UInt64.toNat_add,←h.sequence]
    change (view.nextSequence.toNat+1) % 2 ^ 64=_
    omega
   have htake:(episode.accepted++[frame.delayMs.toNat]).take episode.presented=
     episode.accepted.take episode.presented:=by
    rw [List.take_append_of_le_length]
    omega
   have hlast:(episode.accepted++[frame.delayMs.toNat])[episode.presented]? =
     some frame.delayMs.toNat:=by
    rw [hpresented,←hacknowledged,List.getElem?_append_right le_rfl,Nat.sub_self]
    rfl
   refine tracks_playing ?_ hlaunched hactive hretiring hwaiting
   refine ⟨h.key,?_,h.shown,⟨?_,hpresented,?_,hlast⟩,?_⟩
   · rw [hnext]
     simp [Episode.next]
   · simp [Episode.next,hacknowledged]
   · change frame.sequence.toNat=episode.presented
     omega
   · intro hmore
     have hpaced:=h.paced hmore
     have hother:view.readState≠.acknowledgement:=by
      rw [hstate]
      decide
     have hdelays:(episode.next (.accepted frame.sequence.toNat frame.delayMs.toNat:
       Seen)).delays=episode.delays := congrArg List.sum htake
     refine ⟨hpaced.since,hpaced.past,?_,fun _=>?_⟩
     · rw [hdelays]
       exact hpaced.deadline
     · rw [hdelays]
       exact hpaced.acknowledged hother

lemma consumeFrame_sound (h:Good c) (hreceiving:c.receiving=true)
 (hstate:c.readState=.metadata) (frame : AnimationFrame):
 Sound (c.consumeFrame world frame).2:=by
 have hplaying:=playing_of_receiving h.tracks hreceiving
 have hwaiting:=waiting_of_receiving h.tracks hreceiving
 obtain ⟨hactive,hretiring,hgeneration⟩:=receiving_iff.mp hreceiving
 unfold consumeFrame
 simp only
 split
 · apply complete_sound (owner_sound world)
   · intro hidle
     exact absurd (hidle.symm.trans hreceiving) Bool.false_ne_true
   · intro _
     refine ⟨h.lawful,h.tracks.launched,?_,fun hsuccess=>by cases hsuccess⟩
     change c.episode.key.isSome=true
     rw [hplaying.key]
     rfl
 · rename_i hlimits
   simp only [not_or,not_not] at hlimits
   obtain ⟨-,-,hsmall,-,hsequence,hbound⟩:=hlimits
   obtain ⟨hallowed,htracks⟩:=
    tracks_accepted hplaying hgeneration hactive hretiring hwaiting hstate hsequence hbound
   refine ⟨good_next h.lawful rfl hallowed htracks,fun _=>?_⟩
   have hpositive:0<frame.image.bytesWritten.toNat:=by
    have hlarge:=UInt64.le_iff_toNat_le.mp (UInt64.not_lt.mp hsmall)
    have htwo:(22 : UInt64).toNat=22:=rfl
    omega
   exact hpositive

lemma consumeMetadata_sound (h:Good c) (hreceiving:c.receiving=true)
 (hstate:c.readState=.metadata) : Sound (c.consumeMetadata world).2:=by
 unfold consumeMetadata
 cases decodeFrame c.buffer with
 | error error=>exact fail_sound (owner_sound world) h _
 | ok decoded=>
  obtain ⟨header,payload⟩:=decoded
  simp only
  split
  · cases decodeWorkerResult c.buffer with
    | error error=>exact fail_sound (owner_sound world) h _
    | ok result=>exact consumeResult_sound h result
  · cases decodeAnimationFrame c.buffer with
    | error error=>exact fail_sound (owner_sound world) h _
    | ok frame=>exact consumeFrame_sound h hreceiving hstate frame

lemma displayFrame_sound (h:Good c) (hreceiving:c.receiving=true)
 (hstate:c.readState=.image) : Sound (c.displayFrame world).2:=by
 have hread:Good { c with buffer:=[] } := ⟨h.lawful,h.tracks⟩
 unfold displayFrame
 simp only
 split
 · exact fail_sound (owner_sound world) h _
 · cases decodeQoiRgba8 world.libraries c.buffer with
   | error error=>exact fail_sound (owner_sound world) hread _
   | ok decoded=>
    simp only
    split
    · exact fail_sound (owner_sound world) hread _
    · split
      · exact fail_sound (owner_sound world) hread _
      · split
        · have hother:c.view.readState≠.acknowledgement:=by
           simp only [view,hstate]
           decide
          have htracks:=tracks_restaged h.tracks .staged hother fun hstage=>by
           simp only [Stage,view,hstate] at hstage ⊢
           exact hstage
          exact ⟨⟨h.lawful,htracks⟩,fun _=>rfl⟩
        · rename_i hshown
          have hstopped:Good { c with buffer:=[],watchdog:=none }:=⟨h.lawful,h.tracks⟩
          apply presentFrame_sound (owner_sound world) hstopped hreceiving (.inl hstate) rfl
          intro hheld
          cases hhave:c.haveFrame with
          | false=>rfl
          | true=>exact absurd (Bool.and_eq_true_iff.mpr ⟨hhave,hheld⟩) hshown

lemma announcedSize_large {header : Bytes} {size : ℕ} (h:announcedSize header=some size):
 ScanCodec.frameHeaderBytes<size:=by
 unfold announcedSize at h
 simp only at h
 split at h
 · cases h
 · rename_i hvalid
   simp only [not_or] at hvalid
   obtain ⟨-,-,-,-,-,-,hsmall,-⟩:=hvalid
   rw [←Option.some.inj h]
   exact Nat.lt_of_not_le hsmall

/-- A part that is complete, in a state that reads. -/
structure Complete (client : Client) : Prop where
 receiving : client.receiving=true
 full : client.buffer.length=client.needed
 header : client.readState=.header → client.needed=ScanCodec.frameHeaderBytes
 reads : client.readState≠.acknowledgement ∧ client.readState≠.staged

lemma readPart_sound (h:Good c) (hcomplete:Complete c):
 Sound (c.readPart world).2:=by
 unfold readPart
 cases hstate:c.readState with
 | header=>
  simp only
  cases hsize:announcedSize c.buffer with
  | none=>exact fail_sound (owner_sound world) h _
  | some size=>
   have hother:c.view.readState≠.acknowledgement:=hcomplete.reads.1
   have htracks:=tracks_restaged h.tracks .metadata hother fun hstage=>by
    simp only [Stage,view,hstate] at hstage ⊢
    exact hstage
   refine ⟨⟨h.lawful,htracks⟩,fun _=>?_⟩
   have hlarge:=announcedSize_large hsize
   rw [←hcomplete.header hstate,←hcomplete.full] at hlarge
   exact hlarge
 | metadata=>exact consumeMetadata_sound h hcomplete.receiving hstate
 | image=>exact displayFrame_sound h hcomplete.receiving hstate
 | staged=>exact absurd hstate hcomplete.reads.2
 | acknowledgement=>exact absurd hstate hcomplete.reads.1

/-- What a turn reads of a part. -/
def taken (client : Client) : ℕ:=
 min (client.needed - client.buffer.length) client.available.length

def reading (client : Client) : Client:=
 { client with
   buffer:=client.buffer++client.available.take client.taken
   available:=client.available.drop client.taken }

lemma buffer_short (h:Sound c) (hreceiving:c.receiving=true)
 (hreads:c.readState≠.acknowledgement ∧ c.readState≠.staged):
 c.buffer.length<c.needed ∧
  (c.readState=.header → c.needed=ScanCodec.frameHeaderBytes):=by
 have hready:=h.ready hreceiving
 cases hstate:c.readState with
 | header=>
  simp only [hstate] at hready
  exact ⟨hready.2,fun _=>hready.1⟩
 | metadata=>
  simp only [hstate] at hready
  exact ⟨hready,fun hother=>by cases hother⟩
 | image=>
  simp only [hstate] at hready
  exact ⟨hready,fun hother=>by cases hother⟩
 | staged=>exact absurd hstate hreads.2
 | acknowledgement=>exact absurd hstate hreads.1

lemma reading_length (hshort:c.buffer.length<c.needed):
 c.reading.buffer.length ≤ c.needed ∧
  c.reading.available.length+c.taken=c.available.length:=by
 simp only [reading,List.length_append,List.length_take,List.length_drop,taken]
 omega

lemma reading_sound (h:Sound c) (hreceiving:c.receiving=true)
 (hreads:c.readState≠.acknowledgement ∧ c.readState≠.staged):
 (c.reading.buffer.length≠c.needed → Sound c.reading) ∧
  (c.reading.buffer.length=c.needed → Complete c.reading):=by
 obtain ⟨hshort,hheader⟩:=buffer_short h hreceiving hreads
 obtain ⟨hfits,-⟩:=reading_length hshort
 constructor
 · intro hmissing
   refine ⟨⟨h.lawful,h.tracks⟩,fun _=>?_⟩
   have hless:=lt_of_le_of_ne hfits hmissing
   change (match c.readState with
    | .header=>c.needed=ScanCodec.frameHeaderBytes ∧
      c.reading.buffer.length<c.needed
    | .metadata | .image=>c.reading.buffer.length<c.needed
    | .staged | .acknowledgement=>c.reading.buffer=[])
   cases hstate:c.readState with
   | header=>exact ⟨hheader hstate,hless⟩
   | metadata=>exact hless
   | image=>exact hless
   | staged=>exact absurd hstate hreads.2
   | acknowledgement=>exact absurd hstate hreads.1
 · intro hfull
   exact ⟨hreceiving,hfull,hheader,hreads⟩

lemma readTurns_sound (turns : ℕ):
 ∀c,Sound c → Sound (c.readTurns world turns):=by
 induction turns with
 | zero=>
  intro c h
  exact h
 | succ turns ih=>
  intro c h
  unfold readTurns
  split
  · exact h
  · rename_i hmore
    simp only [not_or,Bool.not_eq_true',Bool.not_eq_false] at hmore
    split
    · exact fail_sound (owner_sound world) h.toGood _
    · rename_i hreads
      obtain ⟨hsound,hcomplete⟩:=reading_sound h hmore.1 (not_or.mp hreads)
      dsimp only
      split
      · rename_i hmissing
        exact hsound hmissing
      · rename_i hfull
        have hgood:Good c.reading:=⟨h.lawful,h.tracks⟩
        have hpart:=@readPart_sound world _ hgood (hcomplete (not_not.mp hfull))
        split
        · rename_i after hafter
          change c.reading.readPart world=_ at hafter
          rw [hafter] at hpart
          exact ih after hpart
        · rename_i after hafter
          change c.reading.readPart world=_ at hafter
          rw [hafter] at hpart
          exact hpart

lemma readStdout_sound (h:Sound c) : Sound (c.readStdout world):=by
 unfold readStdout
 split
 · exact sound_of_same h rfl rfl rfl rfl
 · exact readTurns_sound _ c h

lemma retired_sound (h:Sound c) : Sound { c with retiring:=false } where
 lawful:=h.lawful
 tracks:=by
  constructor
  · exact h.tracks.launched
  · intro hretired
    cases hretired
  · exact h.tracks.idle
  · exact h.tracks.waiting
  · intro hactive hwaiting
    obtain ⟨hgeneration,hplaying⟩:=h.tracks.playing hactive hwaiting
    refine ⟨hgeneration,hplaying.key,hplaying.sequence,hplaying.shown,hplaying.stage,?_⟩
    intro hpresented
    have hpaced:=hplaying.paced hpresented
    exact ⟨hpaced.since,hpaced.past,hpaced.deadline,hpaced.acknowledged⟩
 ready:=by
  intro hreceiving
  obtain ⟨hactive,-,hgeneration⟩:=receiving_iff.mp hreceiving
  apply h.ready
  refine receiving_iff.mpr ⟨hactive,?_,hgeneration⟩
  cases hretiring:c.retiring with
  | false=>rfl
  | true=>exact absurd hgeneration (h.tracks.retired hretiring).ne

lemma processError_sound (h:Sound c) (f stillRunning : Bool):
 Sound (c.processError world f stillRunning):=by
 have hended:Good { c with running:=stillRunning && !f }:=⟨h.lawful,h.tracks⟩
 have hfailed:=fail_sound (owner_sound world) hended (AsciiText.utf8 "GIF helper process failed")
 unfold processError
 simp only
 split
 · exact scheduleStart_sound (retired_sound hfailed)
 · exact hfailed

lemma processFinished_sound (h:Sound c) : Sound (c.processFinished world):=by
 have hended:Sound { c with running:=false } := sound_of_same h rfl rfl rfl rfl
 have hread:=@readStdout_sound world _ hended
 have hfailed:=fail_sound (owner_sound world) hread.toGood
  (AsciiText.utf8 "GIF helper stream ended early")
 exact scheduleStart_sound (retired_sound hfailed)

lemma launch_sound (h:Good c) {r : Request}
 (hpending:c.pending=some r) (spawned : Bool):
 Sound (c.launch world r spawned):=by
 have hwaits:c.view.waiting=some r.key:=congrArg (Option.map Request.key) hpending
 obtain ⟨hlater,hkey,haccepted,hpresented,hacknowledged⟩:=h.tracks.waiting r.key hwaits
 have hactive:c.active=true:=by
  cases hidle:c.active with
  | true=>rfl
  | false=>
   have hnone:=(h.tracks.idle hidle).2
   exact absurd (hnone.symm.trans hwaits) (Option.some_ne_none _).symm
 unfold launch
 simp only
 split
 · apply complete_sound (owner_sound world)
   · intro hidle
     have hreceiving:Client.receiving { c with
       pending:=none,retiring := false,runningGeneration := c.generation }=true:=
      receiving_iff.mpr ⟨hactive,rfl,rfl⟩
     exact absurd (hidle.symm.trans hreceiving) Bool.false_ne_true
   · intro hreceiving
     refine ⟨h.lawful,le_rfl,?_,fun hsuccess=>by cases hsuccess⟩
     change c.episode.key.isSome=true
     rw [hkey]
     rfl
 · have hplaying:∀started : Client,started.view={ c.view with
     retiring:=false,waiting := none,runningGeneration := c.generation
     key:=r.key,nextSequence := 0,readState := .header,frame := noFrame,deadline := 0
     holdStarted:=c.clock+world.ticks c.readings
     clock:=c.clock+world.ticks c.readings,haveFrame := false } →
     started.log=c.log → Ready started → Sound started:=by
    intro started hview hlog hready
    have hepisode:started.episode=c.episode:=
     congrArg (fun log=>({} : Episode QString).after log) hlog
    refine ⟨⟨hlog ▸ h.lawful,?_⟩,hready⟩
    rw [hview,hepisode]
    refine tracks_playing ⟨hkey,?_,?_,⟨?_,?_⟩,?_⟩ rfl hactive rfl rfl
    · rw [haccepted]
      rfl
    · simp [hpresented]
    · rw [haccepted,hacknowledged]
      rfl
    · rw [hpresented,hacknowledged]
    · intro hmore
      exact absurd hpresented hmore
   apply updateTimers_sound
   split
   · exact hplaying _ rfl rfl fun _=>⟨rfl,Nat.succ_pos _⟩
   · apply processError_sound
     exact hplaying _ rfl rfl fun _=>⟨rfl,Nat.succ_pos _⟩

lemma startTimeout_sound (h:Sound c) (spawned : Bool):
 Sound (c.startTimeout world spawned):=by
 have hfired:Sound { c with startScheduled:=false } := sound_of_same h rfl rfl rfl rfl
 unfold startTimeout
 simp only
 split
 · exact hfired
 · rename_i r hpending
   split
   · exact hfired
   · exact launch_sound hfired.toGood hpending spawned

lemma acknowledge_sound (h:Sound c) (written : Bool):
 Sound (c.acknowledge world written):=by
 unfold acknowledge
 split
 · exact h
 · rename_i hready
   simp only [not_or,Bool.not_eq_true,Bool.not_eq_false',not_not] at hready
   obtain ⟨hreceiving,hfree,hstate⟩:=hready
   have hplaying:=playing_of_receiving h.tracks hreceiving
   have hwaiting:=waiting_of_receiving h.tracks hreceiving
   have hempty:c.buffer=[]:=by
    have hexpected:=h.ready hreceiving
    simpa only [hstate] using hexpected
   obtain ⟨hactive,hretiring,hgeneration⟩:=receiving_iff.mp hreceiving
   have hread:=@elapsed_sound world _ h
   dsimp only [elapsed] at hread ⊢
   by_cases hdue:c.clock+world.ticks c.readings<c.frameDeadline
   · rw [if_pos hdue]
     exact updateTimers_sound hread
   rw [if_neg hdue]
   cases written with
   | false=>exact fail_sound (owner_sound world) hread.toGood _
   | true=>
    have hstage:=hplaying.stage
    simp only [Stage,view,hstate] at hstage
    obtain ⟨haccepted,hpresented⟩:=hstage
    have hmore:c.episode.presented≠0:=by omega
    have hpaced:=hplaying.paced hmore
    have hsince:=hpaced.since
    simp only [view,hfree,Bool.false_eq_true,if_false] at hsince
    have hdeadline:=hpaced.deadline.trans (Nat.le_of_not_lt hdue)
    apply updateTimers_sound
    have hallowed:c.episode.Allowed (.acknowledged c.held
      (c.clock+world.ticks c.readings) : Seen):=by
     refine ⟨?_,hpresented,hfree,?_⟩
     · rw [hplaying.key]
       rfl
     · rw [heldAt_free hsince]
       exact hdeadline
    have hmissing:c.buffer.length<ScanCodec.frameHeaderBytes:=by
     rw [hempty]
     exact Nat.succ_pos _
    refine ⟨good_next h.lawful rfl hallowed ?_,fun _=>⟨rfl,hmissing⟩⟩
    refine tracks_playing ⟨hplaying.key,hplaying.sequence,hplaying.shown,
     ⟨haccepted,hpresented⟩,fun _=>⟨hpaced.since,?_,hpaced.deadline,fun _=>?_⟩⟩
     hgeneration hactive hretiring hwaiting
    · intro hheld
      exact absurd (hfree.symm.trans hheld) Bool.false_ne_true
    · have hnow:c.episode.first+c.episode.delays+c.episode.held ≤
        if c.held=true then c.holdStarted
        else c.clock+world.ticks c.readings:=by
       rw [hfree,if_neg Bool.false_ne_true]
       exact hdeadline
      exact hnow

lemma step_sound (h:Sound c) (event : Event) : Sound (c.step world event):=by
 cases event with
 | command command=>exact perform_sound (owner_sound world) h command
 | readyRead bytes=>exact readStdout_sound (sound_of_same h rfl rfl rfl rfl)
 | frameTimeout written=>
  have hfired:Sound { c with frameTimer:=none } := sound_of_same h rfl rfl rfl rfl
  exact acknowledge_sound hfired written
 | watchdogTimeout=>
  apply fail_sound (owner_sound world)
  exact ⟨h.lawful,h.tracks⟩
 | startTimeout spawned=>exact startTimeout_sound h spawned
 | processError f stillRunning=>exact processError_sound h f stillRunning
 | processFinished=>exact processFinished_sound h

lemma run_sound (h:Sound c) (events : List Event) : Sound (c.run world events):=by
 induction events generalizing c with
 | nil=>exact h
 | cons event rest ih=>exact ih (step_sound h event)

lemma new_sound : Sound {}:=by
 have hlawful:Lawful ({} : Client).log:=lawful_nil
 have hidle:Tracks ({} : Client).view ({} : Client).episode:=by
  constructor
  · exact le_rfl
  · intro hretired
    cases hretired
  · intro _
    exact ⟨rfl,rfl⟩
  · intro key hwaiting
    cases hwaiting
  · intro hactive
    cases hactive
 exact sound_of_idle ⟨hlawful,hidle⟩ rfl

end Client

/-- Whatever the owner, the helper, the timers and the clock do, the client plays as allowed. -/
theorem playback_lawful (world : World) (events : List Event):
 Lawful (Client.run world {} events).log:=
 (Client.run_sound Client.new_sound events).lawful

end VoVe.GifAnimation
