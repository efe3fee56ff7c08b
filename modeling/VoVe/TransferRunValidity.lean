import VoVe.TransferRunSteps

set_option autoImplicit false

namespace VoVe.TransferRunValidity
open ByteCodec EffectProgram
open TransferTransaction FileTransferProtocol FileTransferCoordinator TransferShape
open TransferUpdates TransferConflicts TransferRunRule TransferRunSteps
open OperationRequest (RenameRequest DeleteRequest)

variable {sha256 : Bytes → ContentDigest} {c : Bool} {s : Handing}
 {t t' : FileTransferTransaction} {index : ℕ}

section Items
variable {kind : FileTransferKind} {item : FileTransferItem}

lemma settled_of_unready (hexpected:item.overwriteState≠.evacuatedUnexpected)
 (hunready:item.overwriteState=.authorized → False) (version : UInt32):
 overwriteSettled version item=true:=by
 cases hstate:item.overwriteState with
 | none=>simp [overwriteSettled,hstate]
 | evacuated=>simp [overwriteSettled,hstate]
 | authorized=>exact absurd hstate hunready
 | evacuatedUnexpected=>exact absurd hstate hexpected

section
variable (h:strategyAndLocationsValid kind item=true)
include h

lemma absent_of_original (hkind:kind=.move)
 (hstrategy:item.strategy=.moveStream) (horiginal:item.sourceLocation=.original):
 item.destinationState=.absent:=by
 cases hstate:item.destinationState with
 | absent=>rfl
 | tempReserved=>simp [strategyAndLocationsValid,hkind,hstrategy,horiginal,hstate] at h
 | contentReady=>simp [strategyAndLocationsValid,hkind,hstrategy,horiginal,hstate] at h
 | published=>simp [strategyAndLocationsValid,hkind,hstrategy,horiginal,hstate] at h

lemma streamed_of_staged (hkind:kind=.move)
 (hstaged:item.sourceLocation=.staged) : item.strategy=.moveStream:=by
 cases hstrategy:item.strategy with
 | moveStream=>rfl
 | copyStream=>simp [strategyAndLocationsValid,hkind,hstrategy] at h
 | moveUndecided=>simp [strategyAndLocationsValid,hkind,hstrategy,hstaged] at h
 | moveAtomic=>simp [strategyAndLocationsValid,hkind,hstrategy,hstaged] at h

lemma streamable_of_unstarted
 (hdecided:¬(kind=.move ∧ item.strategy=.moveUndecided))
 (hmoved:¬(kind=.move ∧ item.strategy=.moveStream ∧ item.sourceLocation=.original))
 (hstate:item.destinationState=.absent ∨ item.destinationState=.tempReserved):
 Streamable kind item:=by
 obtain habsent | hreserved:=hstate
 · cases kind with
   | copy=>exact .inl rfl
   | move=>
    cases hstrategy:item.strategy with
    | copyStream=>simp [strategyAndLocationsValid,hstrategy] at h
    | moveUndecided=>exact absurd ⟨rfl,hstrategy⟩ hdecided
    | moveAtomic=>simp [strategyAndLocationsValid,hstrategy,habsent] at h
    | moveStream=>
     simp [strategyAndLocationsValid,hstrategy,habsent] at h
     exact .inr ⟨rfl,hstrategy,h.2.resolve_left fun hlocation =>
      hmoved ⟨rfl,hstrategy,hlocation⟩⟩
 · exact streamable_of_temp h (.inl hreserved)

end

lemma version_of_backup {version : UInt32} {phase : FileTransferPhase}
 (h:ItemSound version kind phase item)
 (hstate:item.overwriteState=.evacuated ∨ item.overwriteState=.evacuatedUnexpected):
 version≥6:=by
 have hbackup:snapshotEmpty item.overwriteBackupSnapshot=false:=by
  have hoverwrite:=h.overwrite
  obtain hstate | hstate:=hstate
  · simp [overwriteStateValid,hstate] at hoverwrite
    exact hoverwrite.1.2
  · simp [overwriteStateValid,hstate] at hoverwrite
    exact hoverwrite.2
 have hvalid:=h.backup
 simp only [overwriteSnapshotValid,hbackup,decide_eq_true_eq] at hvalid
 exact (hvalid.resolve_left (by simp)).1

end Items

lemma wp_nextItemStep (h:TransferSound t) (hcurrent:Current t index)
 (hphase:t.phase=.processing) (hidle:t.activeStep=.none) (hsettled:Settled t)
 (hs:Holds t s):
 wp (fitting sha256) AllSound (StepEnds t) (nextItemStep c t index) s:=by
 have hinside:=hcurrent.inside
 have hitem:=sound_itemAt h hinside
 have hworking:Working t.phase:=.inl hphase
 have hlocations:=hitem.strategy
 simp only [nextItemStep]
 split
 · next hunexpected =>
   have hunpublished:(itemAt t index).destinationState≠.published:=by
    intro hpublished
    apply hsettled (itemAt t index)
    · rw [itemAt_eq hinside]
      exact List.getElem_mem hinside
    · exact ⟨hunexpected,hpublished⟩
   exact wp_stepEnds (wp_turnBack h hcurrent hunpublished hs.all (by simp))
 next hexpected =>
 split
 · next hready =>
   simp only [readyForEvacuation,decide_eq_true_eq] at hready
   have hunpublished:(itemAt t index).destinationState≠.published:=by
    obtain ⟨hkind,hstrategy⟩ | hcontent:=hready.2
    · rw [hkind] at hlocations
      simp [strategyAndLocationsValid,hstrategy] at hlocations
      simp [hlocations.2.2]
    · simp [hcontent]
   have hupgraded:=sound_upgraded h hidle
   have hnow:Current (upgraded t) index:=⟨hinside,hcurrent.before,hcurrent.unfinished⟩
   have hfits:itemStepMatches (beginStep (upgraded t) index .evacuateOverwriteDestination)
     (itemAt t index)=true := decide_eq_true ⟨UInt32.le_refl _,hready.1,hunpublished⟩
   have hstep:wp (fitting sha256) AllSound (StepEnds (upgraded t))
     (executeRenameStep c (upgraded t) index .evacuateOverwriteDestination) s:=
    wp_executeRenameStep hupgraded hnow hworking (by simp) ⟨(by simp),(by simp)⟩ hfits hs.all
   apply wp_consequence hstep
   intro out _ _ hout
   exact stepEnds_of_same hout id rfl rfl
 next hunready =>
 simp only [readyForEvacuation,decide_eq_true_eq,not_and,not_or] at hunready
 split
 · next hundecided =>
   obtain ⟨hkind,hstrategy⟩:=hundecided
   rw [hkind] at hlocations
   simp only [strategyAndLocationsValid,hstrategy,decide_eq_true_eq] at hlocations
   have hsettledItem:=settled_of_unready hexpected fun hauthorized =>
    (hunready hauthorized).1 hkind hstrategy
   exact wp_executeRenameStep h hcurrent hworking (by simp) ⟨(by simp),(by simp)⟩
    (decide_eq_true ⟨hkind,hstrategy,hlocations.2.1,hlocations.2.2,hsettledItem _⟩) hs.all
 next hdecided =>
 split
 · next horiginal =>
   obtain ⟨hkind,hstrategy,hlocation⟩:=horiginal
   have habsent:=absent_of_original hlocations hkind hstrategy hlocation
   exact wp_executeRenameStep h hcurrent hworking (by simp) ⟨(by simp),(by simp)⟩
    (decide_eq_true ⟨hkind,hstrategy,hlocation,habsent⟩) hs.all
 next hmoved =>
 split
 · next hstate =>
   exact wp_executeStreamStep ⟨h,hcurrent,hworking,
    streamable_of_unstarted hlocations hdecided hmoved hstate,hstate⟩ hs.all
 next hstarted =>
 split
 · next hcontent =>
   have hsettledItem:=settled_of_unready hexpected fun hauthorized =>
    (hunready hauthorized).2 hcontent
   exact wp_executeRenameStep h hcurrent hworking (by simp) ⟨(by simp),(by simp)⟩
    (decide_eq_true ⟨(content_of_ready hitem.proof hcontent).1,hcontent,hsettledItem _⟩) hs.all
 split
 · next hstaged =>
   obtain ⟨hkind,hpublished,hlocation⟩:=hstaged
   have hstrategy:=streamed_of_staged hlocations hkind hlocation
   exact wp_executeDeleteStep h hcurrent hworking hidle (by simp)
    (decide_eq_true ⟨hkind,hstrategy,hlocation,hpublished⟩) hs
 split
 · next hevacuated =>
   obtain ⟨hpublished,hfinal,hstate⟩:=hevacuated
   have hversion:=version_of_backup hitem (.inl hstate)
   simp only [sourceFinal,decide_eq_true_eq] at hfinal
   exact wp_executeDeleteStep h hcurrent hworking hidle (by simp)
    (decide_eq_true ⟨hversion,hstate,hpublished,hfinal⟩) hs
 · exact wp_preserveUncertain h hs.all (fun _=>rfl) (by simp)

section Cleanups
variable {failure : Failure}

/-- A cleanup goes on from a sound transaction whose cursor has not moved. -/
def Cleaning (index : ℕ) (out : FileTransferTransaction × Turn) (s : Handing) : Prop:=
 match out.2 with
 | .finished _=>True
 | _=>Holds out.1 s ∧ TransferSound out.1 ∧ out.1.phase = .prepublishCleanup ∧
  completedPrefix out.1 = index

lemma cleaning_finished {result : FileTransferResult}:
 Cleaning index (t,.finished result) s := trivial

lemma wp_cleanupPersist (hsound:TransferSound t) (hs:AllSound s) {next : TransferTurn}
 (hnext:∀s',Holds t s' → wp (fitting sha256) AllSound (Cleaning index) next s'):
 wp (fitting sha256) AllSound (Cleaning index) (cleanupPersist failure t next) s:=by
 rw [cleanupPersist,wp_bind]
 apply wp_persist hsound hs
 · intro s' hs' _
   exact hnext s' hs'
 · intro detail s' hs' _ _
   exact ⟨hs',cleaning_finished⟩

lemma wp_afterCleanupStep (hphase:t.phase=.prepublishCleanup)
 (hcursor:completedPrefix t=index) {step : TransferStep}
 (hstep:wp (fitting sha256) AllSound (StepEnds t) step s):
 wp (fitting sha256) AllSound (Cleaning index) (afterCleanupStep step) s:=by
 rw [afterCleanupStep,wp_bind]
 apply wp_consequence hstep
 rintro ⟨next,result⟩ s' hall hout
 simp only
 split
 · next hcommitted =>
   obtain ⟨hs',hkeeps⟩:=hout.1 hcommitted
   exact ⟨hall,⟨hs',hkeeps.sound,hkeeps.cleanup.mpr hphase, (hkeeps.cursor hphase).trans hcursor⟩⟩
 · exact ⟨hall,cleaning_finished⟩

/-- A cleanup that is not in the middle of a step, at its item. -/
structure Resting (t : FileTransferTransaction) (index : ℕ) : Prop where
 sound : TransferSound t
 current : Current t index
 phase : t.phase=.prepublishCleanup
 idle : t.activeStep=.none

lemma resting_of_cleanup (h:TransferSound t) (hphase:t.phase=.prepublishCleanup)
 (hidle:t.activeStep=.none) (hcursor:completedPrefix t=index) : Resting t index:=by
 have hcurrent:=current_of_phase h (by simp [hphase])
 rw [hcursor] at hcurrent
 exact ⟨h,hcurrent,hphase,hidle⟩

lemma Resting.set (h:Resting t index) {item' : FileTransferItem}
 (hreworks:Reworks t index item') (hsound:ItemSound t.version t.kind t.phase item')
 (hunfinished:finalItem t.kind item'=false) : Resting (setItem t index item') index:=by
 have hworking:Working t.phase:=.inr h.phase
 have hset:TransferSound (setItem t index item'):=by
  apply sound_rests h.sound h.current hreworks
  · exact ⟨rfl,rfl,rfl,UInt32.le_refl _,h.sound.version,
     ⟨h.idle,(idle_of_none h.sound h.idle).2⟩,hworking,h.sound.cancelled,h.sound.failure⟩
  · exact hsound
  · exact hunfinished
 exact resting_of_cleanup hset h.phase h.idle (cursor_kept h.sound h.current rfl rfl hunfinished)

lemma Resting.again (h:Resting t index) (hs:Holds t s):
 wp (fitting sha256) AllSound (Cleaning index) (pure (t,.again)) s:=
 ⟨hs.all,⟨hs,h.sound,h.phase,h.current.index_eq⟩⟩

lemma Resting.unpublished (h:Resting t index):
 (itemAt t index).destinationState≠.published:=by
 intro hpublished
 have hfinal:=(sound_itemAt h.sound h.current.inside).restorable h.phase hpublished
 rw [h.current.unfinished] at hfinal
 cases hfinal

lemma wp_retire (hs:AllSound s):
 wp (fitting sha256) AllSound (Cleaning index) (retire failure t) s:=by
 rw [retire,wp_bind]
 apply wp_removeJournal hs
 intro reply
 cases reply with
 | error detail=>exact ⟨hs,cleaning_finished⟩
 | ok removed=>exact ⟨hs,cleaning_finished⟩

lemma wp_cleanupTemp (h:Resting t index)
 (hstate:(itemAt t index).destinationState=.tempReserved ∨
  (itemAt t index).destinationState=.contentReady) (hs:Holds t s):
 wp (fitting sha256) AllSound (Cleaning index) (cleanupTemp failure index t) s:=by
 have hinside:=h.current.inside
 have hitem:=sound_itemAt h.sound hinside
 have hstreamable:=streamable_of_temp hitem.strategy hstate
 have hstreamed:=streamed_of_streamable hitem.strategy hstreamable
 have htoken:tokenEmpty (itemAt t index).requestToken=false:=by
  apply hitem.token hstreamed
  obtain hstate | hstate:=hstate
  · simp [hstate]
  · simp [hstate]
 rw [cleanupTemp,wp_bind]
 apply wp_probeTemp hs
 intro observed hfound
 rw [TempFound,currentItem,h.current.index_eq] at hfound
 split
 · have hreworks:Reworks t index (clearDestinationProof (itemAt t index)):=
    reworks_of_same h.sound hinside rfl rfl (.inl rfl)
   have hcleared:=h.set hreworks (sound_clearDestinationProof hitem hstreamable)
    (unfinished_of_unpublished (by rintro ⟨⟩))
   exact wp_cleanupPersist hcleared.sound hs.all fun s' hs'=>hcleared.again hs'
 · split
   · exact ⟨hs.all,cleaning_finished⟩
   · next hrecognized =>
     rw [not_not] at hrecognized
     obtain ⟨hstrong,hvalid⟩:=hfound hrecognized
     have hreworks:Reworks t index { itemAt t index with
       destinationSnapshot:=observed.snapshot,contentSha256 := .zero _,contentBytes := 0
       contentProofPresent:=false,destinationState := .tempReserved }:=
      reworks_of_same h.sound hinside rfl rfl (.inl rfl)
     have hcontent:(0 : UInt64)=0 ∧ digestEmpty (FixedBytes.zero kFileTransferDigestBytes)=
       true ∧ false=false := ⟨rfl,by decide,rfl⟩
     have hrecorded:Resting (recordedTemp t index observed.snapshot) index:=
      h.set hreworks (sound_tempReserved hitem hstreamable htoken hstrong hvalid hcontent)
       (unfinished_of_unpublished (by simp))
     have hworking:Working (recordedTemp t index observed.snapshot).phase:=.inr h.phase
     have hat:itemAt (recordedTemp t index observed.snapshot) index={ itemAt t index with
       destinationSnapshot:=observed.snapshot,contentSha256 := .zero _,contentBytes := 0
       contentProofPresent:=false,destinationState := .tempReserved }:=by
      rw [itemAt_eq hrecorded.current.inside]
      simp [recordedTemp,setItem]
     have hfits:itemStepMatches (beginStep (recordedTemp t index observed.snapshot) index
       .cleanupTemp) (itemAt (recordedTemp t index observed.snapshot) index)=true:=by
      rw [hat]
      exact decide_eq_true ⟨hstreamed,h.phase,.inl rfl⟩
     apply wp_cleanupPersist hrecorded.sound hs.all
     intro s' hs'
     rw [wp_bind]
     apply wp_stopRequested hs'.all
     intro stopped
     cases stopped with
     | true=>exact ⟨hs'.all,cleaning_finished⟩
     | false=>
      have hreal:FileTransferStep.cleanupTemp≠.none:=by simp
      exact wp_afterCleanupStep hrecorded.phase hrecorded.current.index_eq
       (wp_executeDeleteStep hrecorded.sound hrecorded.current hworking hrecorded.idle hreal
        hfits hs')

lemma wp_cleanupRest (h:Resting t index) (hs:Holds t s):
 wp (fitting sha256) AllSound (Cleaning index) (cleanupRest c failure index t) s:=by
 have hitem:=sound_itemAt h.sound h.current.inside
 have hworking:Working t.phase:=.inr h.phase
 have hcursor:=h.current.index_eq
 have hunpublished:=h.unpublished
 simp only [cleanupRest]
 split
 · next hstate => exact wp_cleanupTemp h hstate hs
 · split
   · next hstaged =>
     obtain ⟨hkind,hlocation⟩:=hstaged
     have hstrategy:=streamed_of_staged hitem.strategy hkind hlocation
     exact wp_afterCleanupStep h.phase hcursor
      (wp_executeRenameStep h.sound h.current hworking nofun ⟨nofun,nofun⟩
       (decide_eq_true ⟨hkind,hstrategy,hlocation,hunpublished,h.phase⟩) hs.all)
   · split
     · next hevacuated =>
       have hversion:=version_of_backup hitem hevacuated
       exact wp_afterCleanupStep h.phase hcursor
        (wp_executeRenameStep h.sound h.current hworking nofun ⟨nofun,nofun⟩
         (decide_eq_true ⟨hversion,h.phase,hevacuated,hunpublished⟩) hs.all)
     · exact wp_retire hs.all

lemma wp_cleanupIdle (h:Resting t index) (hs:Holds t s):
 wp (fitting sha256) AllSound (Cleaning index) (cleanupIdle sha256 c failure index t)
  s:=by
 simp only [cleanupIdle]
 split
 · next habsent =>
   obtain ⟨habsent,htoken⟩:=habsent
   have hinside:=h.current.inside
   have hitem:=sound_itemAt h.sound hinside
   rw [wp_bind]
   apply wp_probeReservation hs
   intro reservation hfound
   rw [MarkerFound,currentItem,h.current.index_eq] at hfound
   split
   · next howned =>
     obtain ⟨hstrong,hvalid,hstreamable⟩:=hfound howned.2
     have hreworks:Reworks t index { itemAt t index with
       destinationSnapshot:=reservation.file.snapshot,destinationState := .tempReserved }:=
      reworks_of_same h.sound hinside rfl rfl (.inl rfl)
     have hfoundResting:Resting (foundReservation t index reservation.file.snapshot) index:=
      h.set hreworks (sound_tempReserved hitem hstreamable (by simpa using htoken) hstrong hvalid
       (noContent_of_absent hitem.proof habsent)) (unfinished_of_unpublished (by simp))
     exact wp_cleanupPersist hfoundResting.sound hs.all fun s' hs'=>hfoundResting.again hs'
   · split
     · exact ⟨hs.all,cleaning_finished⟩
     · exact wp_cleanupRest h hs
 · exact wp_cleanupRest h hs

lemma wp_cleanupTurn (h:TransferSound t) (hphase:t.phase=.prepublishCleanup)
 (hcursor:completedPrefix t=index) (hs:Holds t s):
 wp (fitting sha256) AllSound (Cleaning index) (cleanupTurn sha256 c failure index t)
  s:=by
 rw [cleanupTurn,wp_bind]
 apply wp_stopRequested hs.all
 intro stopped
 cases stopped with
 | true=>exact ⟨hs.all,cleaning_finished⟩
 | false=>
  simp only [Bool.false_eq_true,if_false]
  split
  · next hreal => exact wp_afterCleanupStep hphase hcursor (wp_recoverActiveStep h hreal hs)
  · next hidle =>
    rw [not_not] at hidle
    exact wp_cleanupIdle (resting_of_cleanup h hphase hidle hcursor) hs

lemma wp_cleanupLoop (turns : ℕ) : ∀ {t : FileTransferTransaction} {s : Handing},
 TransferSound t → t.phase=.prepublishCleanup → completedPrefix t=index → Holds t s →
 wp (fitting sha256) AllSound (fun _ _=>True)
  (cleanupLoop sha256 c failure index turns t) s:=by
 induction turns with
 | zero=>exact fun _ _ _ hs=>⟨hs.all,trivial⟩
 | succ turns ih=>
  intro t s h hphase hcursor hs
  rw [cleanupLoop,wp_bind]
  apply wp_consequence (wp_cleanupTurn h hphase hcursor hs)
  rintro ⟨next,turn⟩ s' hall hout
  cases turn with
  | finished result=>exact ⟨hall,trivial⟩
  | again=>
   obtain ⟨hs',hsound,hcleanup,hindex⟩:=hout
   exact ih hsound hcleanup hindex hs'
  | cleanup=>
   obtain ⟨hs',hsound,hcleanup,hindex⟩:=hout
   exact ih hsound hcleanup hindex hs'

end Cleanups

lemma wp_continueCleanup (h:TransferSound t) (hphase:t.phase=.prepublishCleanup)
 (hs:Holds t s) (turns : ℕ):
 wp (fitting sha256) AllSound (fun _ _=>True) (continueCleanup sha256 c turns t) s:=by
 simp only [continueCleanup]
 split
 · exact ⟨hs.all,trivial⟩
 · exact wp_cleanupLoop turns h hphase rfl hs

/-- How a turn of the processing loop leaves the transaction it goes on with. -/
def Processing (out : FileTransferTransaction × Turn) (s : Handing) : Prop:=
 match out.2 with
 | .finished _=>True
 | .again=>Holds out.1 s ∧ TransferSound out.1 ∧ Settled out.1 ∧
   (out.1.phase = .processing ∨ out.1.phase = .completed)
 | .cleanup=>Holds out.1 s ∧ TransferSound out.1 ∧ out.1.phase = .prepublishCleanup

lemma wp_processingStep (hphase:t.phase=.processing) (hsettled:Settled t)
 {step : TransferStep} (hstep:wp (fitting sha256) AllSound (StepEnds t) step s):
 wp (fitting sha256) AllSound Processing
  (do
   let (next,result) ← step
   pure (next,match result.outcome with
    | .committed=>.again
    | .cleanFailure=>.cleanup
    | _=>FileTransferCoordinator.stepEnds next result)) s:=by
 rw [wp_bind]
 apply wp_consequence hstep
 rintro ⟨next,result⟩ s' hall ⟨hcommitted,hclean⟩
 refine ⟨hall,?_⟩
 simp only at hcommitted hclean
 cases houtcome:result.outcome with
 | committed=>
  obtain ⟨hs',hkeeps⟩:=hcommitted houtcome
  refine ⟨hs',hkeeps.sound,hkeeps.settled hsettled,?_⟩
  cases hnext:next.phase with
  | prepared=>exact absurd hnext hkeeps.unprepared
  | processing=>exact .inl rfl
  | prepublishCleanup=>
   have hcleanup:=hkeeps.cleanup.mp hnext
   rw [hphase] at hcleanup
   cases hcleanup
  | completed=>exact .inr rfl
 | cleanFailure=>exact hclean houtcome
 | stopped=>trivial
 | recoveryRequired=>trivial
 | journalError=>trivial

lemma wp_processingTurn (h:TransferSound t) (hsettled:Settled t)
 (hphase:t.phase=.processing ∨ t.phase=.completed) (hs:Holds t s):
 wp (fitting sha256) AllSound Processing (processingTurn sha256 c t) s:=by
 unfold processingTurn
 split
 · rw [completeRun,wp_bind]
   apply wp_removeJournal hs.all
   intro reply
   cases reply with
   | error detail=>exact ⟨hs.all,trivial⟩
   | ok removed=>exact ⟨hs.all,trivial⟩
 · next hopen =>
   have hprocessing:=hphase.resolve_right hopen
   rw [wp_bind]
   apply wp_stopRequested hs.all
   intro stopped
   cases stopped with
   | true=>exact ⟨hs.all,trivial⟩
   | false=>
    simp only [Bool.false_eq_true,if_false]
    split
    · next hidle =>
      apply wp_processingStep hprocessing hsettled
      have hcurrent:=current_of_phase h hopen
      have hinside:=hcurrent.inside
      simp only [nextProcessingStep]
      rw [if_neg (by omega)]
      exact wp_nextItemStep h hcurrent hprocessing hidle hsettled hs
    · next hreal =>
      exact wp_processingStep hprocessing hsettled (wp_recoverActiveStep h hreal hs)

lemma wp_processingLoop (turns : ℕ) : ∀ {t : FileTransferTransaction} {s : Handing},
 TransferSound t → Settled t → t.phase=.processing ∨ t.phase=.completed → Holds t s →
 wp (fitting sha256) AllSound (fun _ _=>True) (processingLoop sha256 c turns t) s:=by
 induction turns with
 | zero=>exact fun _ _ _ hs=>⟨hs.all,trivial⟩
 | succ turns ih=>
  intro t s h hsettled hphase hs
  rw [processingLoop,wp_bind]
  apply wp_consequence (wp_processingTurn h hsettled hphase hs)
  rintro ⟨next,turn⟩ s' hall hout
  cases turn with
  | finished result=>exact ⟨hall,trivial⟩
  | again=>
   obtain ⟨hs',hsound,hkept,hnext⟩:=hout
   exact ih hsound hkept hnext hs'
  | cleanup=>
   obtain ⟨hs',hsound,hcleanup⟩:=hout
   exact wp_continueCleanup hsound hcleanup hs' turns

lemma wp_continueActive (h:TransferSound t) (hsettled:Settled t)
 (hphase:t.phase≠.prepared) (hs:Holds t s) (turns : ℕ):
 wp (fitting sha256) AllSound (fun _ _=>True) (continueActive sha256 c turns t) s:=by
 unfold continueActive
 split
 · next hcleanup => exact wp_continueCleanup h hcleanup hs turns
 · next hforward =>
   apply wp_processingLoop turns h hsettled _ hs
   cases hnow:t.phase with
   | prepared=>exact absurd hnow hphase
   | processing=>exact .inl rfl
   | prepublishCleanup=>exact absurd hnow hforward
   | completed=>exact .inr rfl

lemma sound_started (h:TransferSound t) (hphase:t.phase=.prepared):
 TransferSound (clearFailure { t with phase:=.processing }):=by
 have hcurrent:=current_of_phase h (by simp [hphase])
 have hinside:=hcurrent.inside
 have hidle:=idle_of_none h (h.terminal (.inl hphase))
 have hreworks:=reworks_same h hinside
 have hunpublished:(itemAt t (completedPrefix t)).destinationState≠.published:=by
  have hpristine:=h.prepared hphase (itemAt t (completedPrefix t))
   (by rw [itemAt_eq hinside]; exact List.getElem_mem hinside)
  simp [pristine_absent hpristine]
 apply sound_rests h hcurrent hreworks
 · refine ⟨rfl,rfl,items_same hinside,UInt32.le_refl _,h.version,hidle,.inl rfl,?_,
    fun _=>⟨hidle.2.2,rfl,rfl⟩⟩
   intro hcancelled
   have hcleanup:=(h.cancelled hcancelled).2
   rw [hphase] at hcleanup
   cases hcleanup
 · exact (sound_itemAt h hinside).mono (UInt32.le_refl _) nofun
 · exact unfinished_of_unpublished hunpublished

lemma wp_continueTransaction (h:TransferSound t) (hsettled:Settled t) (hs:Holds t s)
 (turns : ℕ):
 wp (fitting sha256) AllSound (fun _ _=>True) (continueTransaction sha256 c turns t)
  s:=by
 unfold continueTransaction
 split
 · next hphase =>
   have hstarted:=sound_started h hphase
   rw [wp_bind]
   apply wp_persist hstarted hs.all
   · intro s' hs' _
     exact wp_continueActive hstarted hsettled nofun hs' turns
   · intro detail s' hs' _ _
     exact ⟨hs',trivial⟩
 · next hphase => exact wp_continueActive h hsettled hphase hs turns

end VoVe.TransferRunValidity
