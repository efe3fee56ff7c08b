import VoVe.TransferContentStreams

set_option autoImplicit false

namespace VoVe.TransferContentRun
open ByteCodec PosixPath EffectProgram
open JournalAtomicity FileOperation
open TransferTransaction TransferRoundTrip FileTransferProtocol
open FileTransferCoordinator TransferShape TransferWorld
open TransferAccounts TransferSettles TransferRecords TransferRecordSteps TransferContentRule
open TransferContentConflicts TransferContentSteps TransferContentStreams
open JournalRecord (Recorded Kept)

variable {prepared : FileTransferTransaction} {start : Files} {s : TransferState}
 {t : FileTransferTransaction} {n : ℕ} {sha256 : Bytes → ContentDigest} {canAsk : Bool}

section Processing

lemma ordered_forward {step : FileTransferStep} (hforward:t.phase≠.prepublishCleanup)
 (hplain:step=.atomicMove ∨ step=.publishTemp → (itemAt t n).overwriteState≠.authorized):
 Ordered (beginStep t n step) n step:=
 ⟨fun hcleaning=>absurd hcleaning hforward,hplain⟩

lemma wp_nextItemStep (hs:KeptIn prepared start s) (hresting:Resting t)
 (h:Accounts prepared start t .none s.files s.approved) (hinside:n<t.items.length)
 (hforward:t.phase≠.prepublishCleanup):
 wp transferWorld (KeptIn prepared start) (StepEnds prepared start t)
  (nextItemStep canAsk t n) s:=by
 have hready:Ready prepared start t s:=⟨hs,h⟩
 simp only [nextItemStep]
 split
 · exact wp_stepEnds (wp_turnBack hs h)
 · split
   · have hupgraded:Accounts prepared start (upgraded t) .none s.files s.approved:=
      h.resting rfl rfl rfl id
     have hinside':n<(upgraded t).items.length:=hinside
     have hordered:Ordered (beginStep (upgraded t) n .evacuateOverwriteDestination) n
       .evacuateOverwriteDestination:=by
      apply ordered_forward (t := upgraded t) hforward
      rintro (hno | hno)
      · cases hno
      · cases hno
     apply wp_consequence (wp_executeRenameStep hs hupgraded hinside' hordered
      (.inr (.inr (.inr (.inr (.inl rfl))))))
     intro out s' _ hout
     exact stepEnds_of_phase hout Iff.rfl
   · next hnot =>
     simp only [readyForEvacuation,decide_eq_true_eq] at hnot
     split
     · next hmove =>
       apply wp_executeRenameStep hs h hinside _ (.inl rfl)
       apply ordered_forward hforward
       intro _ hauthorized
       exact hnot ⟨hauthorized,.inl hmove⟩
     · split
       · apply wp_executeRenameStep hs h hinside _ (.inr (.inl rfl))
         apply ordered_forward hforward
         rintro (hno | hno)
         · cases hno
         · cases hno
       · split
         · next hstate => exact wp_executeStreamStep hs h hinside hforward hstate
         · split
           · next hcontent =>
             apply wp_executeRenameStep hs h hinside _ (.inr (.inr (.inl rfl)))
             apply ordered_forward hforward
             intro _ hauthorized
             exact hnot ⟨hauthorized,.inr hcontent⟩
           · split
             · next hpublished =>
               apply wp_executeDeleteStep hready hinside _ (.inl rfl)
               · exact fun _=>⟨⟨hinside,hresting,hpublished.2.2,hpublished.2.1⟩,hforward⟩
               · apply ordered_forward hforward
                 rintro (hno | hno)
                 · cases hno
                 · cases hno
             · split
               · apply wp_executeDeleteStep hready hinside _ (.inr (.inr rfl)) nofun
                 apply ordered_forward hforward
                 rintro (hno | hno)
                 · cases hno
                 · cases hno
               · exact wp_preserveUncertain hs (Ready.describes hready hresting)

lemma wp_nextProcessingStep (h:Holds prepared start t s) (hresting:Resting t)
 (hforward:t.phase≠.prepublishCleanup):
 wp transferWorld (KeptIn prepared start) (StepEnds prepared start t)
  (nextProcessingStep canAsk t) s:=by
 have hready:=h.ready hresting
 simp only [nextProcessingStep]
 split
 · apply wp_persistCommitted h.kept
   · exact fun _=>hready.accounts.resting rfl rfl rfl fun _=>hforward
   · exact ⟨nofun,fun hcleaning=>absurd hcleaning hforward⟩
 · next hinside =>
   exact wp_nextItemStep h.kept hresting hready.accounts (by omega) hforward

lemma wp_removeJournal (h:Holds prepared start t s) (hresting:Resting t)
 {post : Except Bytes Unit → TransferState → Prop}
 (hpost:∀reply s',KeptIn prepared start s' → post reply s'):
 wp transferWorld (KeptIn prepared start) post removeJournal s:=by
 have hleaves:∀s',JournalOnly s s' → RemoveStep s.journal s'.journal →
   KeptIn prepared start s':=by
  rintro ⟨journal,files,approved⟩ ⟨rfl,rfl⟩ hstep
  exact h.recorded.removeStep hresting h.describes h.kept.accounted hstep
 refine ⟨h.kept,?_,?_⟩
 · rintro s' ⟨hsame,hstep⟩
   exact hleaves s' hsame hstep
 · rintro reply s' ⟨hsame,hremoves⟩
   have hkept:KeptIn prepared start s':=by
    obtain ⟨journal,files,approved⟩:=s'
    obtain ⟨rfl,rfl⟩:=hsame
    dsimp only at hremoves
    cases hremoves with
    | removed=>exact .empty rfl h.kept.accounted
    | failed detail after hafter=>exact hleaves _ ⟨rfl,rfl⟩ hafter
   exact ⟨hkept,hpost reply s' hkept⟩

variable (prepared start) in
/-- What holds where a turn ends, if the run goes on from there. -/
def TurnEnds (cleaning : Prop) (out : FileTransferTransaction × Turn) (s : TransferState) : Prop:=
 match out.2 with
 | .finished _=>True
 | .cleanup=>Holds prepared start out.1 s ∧ out.1.phase = .prepublishCleanup
 | .again=>Holds prepared start out.1 s ∧ (out.1.phase = .prepublishCleanup ↔ cleaning)

lemma wp_turn {step : TransferStep} (hforward:t.phase≠.prepublishCleanup)
 (hstep:wp transferWorld (KeptIn prepared start) (StepEnds prepared start t) step s):
 wp transferWorld (KeptIn prepared start) (TurnEnds prepared start False)
  (do
   let (next,step) ← step
   pure (next,match step.outcome with
    | .committed=>.again
    | .cleanFailure=>.cleanup
    | _=>stepEnds next step)) s:=by
 rw [wp_bind]
 apply wp_consequence hstep
 rintro ⟨next,result⟩ s' hkept ⟨hcommitted,hclean⟩
 refine ⟨hkept,?_⟩
 unfold TurnEnds
 cases houtcome:result.outcome with
 | committed=>
  obtain ⟨hholds,hphase⟩:=hcommitted houtcome
  exact ⟨hholds,hphase.trans (iff_false_intro hforward)⟩
 | cleanFailure=>exact hclean houtcome
 | recoveryRequired=>trivial
 | journalError=>trivial
 | stopped=>trivial

lemma wp_processingTurn (h:Holds prepared start t s)
 (hforward:t.phase≠.prepublishCleanup):
 wp transferWorld (KeptIn prepared start) (TurnEnds prepared start False)
  (processingTurn sha256 canAsk t) s:=by
 unfold processingTurn
 split
 · next hcompleted =>
   rw [completeRun,wp_bind]
   apply wp_removeJournal h (h.sound.terminal (.inr hcompleted))
   intro reply s' hkept
   cases reply with
   | error detail=>exact ⟨hkept,trivial⟩
   | ok u=>exact ⟨hkept,trivial⟩
 · rw [wp_bind]
   apply wp_stopRequested h.kept
   intro stopped
   cases stopped with
   | true=>exact ⟨h.kept,trivial⟩
   | false=>
    simp only [Bool.false_eq_true,if_false]
    split
    · next hresting => exact wp_turn hforward (wp_nextProcessingStep h hresting hforward)
    · next hreal => exact wp_turn hforward (wp_recoverActiveStep h hreal)

end Processing

section Cleanups
variable {failure : Failure}

lemma wp_afterCleanupStep {step : TransferStep} (hcleaning:t.phase=.prepublishCleanup)
 (hstep:wp transferWorld (KeptIn prepared start) (StepEnds prepared start t) step s):
 wp transferWorld (KeptIn prepared start) (TurnEnds prepared start True)
  (afterCleanupStep step) s:=by
 rw [afterCleanupStep,wp_bind]
 apply wp_consequence hstep
 rintro ⟨next,result⟩ s' hkept ⟨hcommitted,-⟩
 refine ⟨hkept,?_⟩
 unfold TurnEnds
 by_cases houtcome:result.outcome=.committed
 · obtain ⟨hholds,hphase⟩:=hcommitted houtcome
   simp only [houtcome,if_true]
   exact ⟨hholds,hphase.trans (iff_true_intro hcleaning)⟩
 · simp only [houtcome,if_false,stepEnds]

lemma wp_cleanupPersist {next : FileTransferTransaction} {turn : TransferTurn}
 (hs:KeptIn prepared start s) (hnext:TransferSound next → Describes prepared start s next)
 (hturn:∀s',Holds prepared start next s' →
  wp transferWorld (KeptIn prepared start) (TurnEnds prepared start True) turn s'):
 wp transferWorld (KeptIn prepared start) (TurnEnds prepared start True)
  (cleanupPersist failure next turn) s:=by
 rw [cleanupPersist,wp_bind]
 apply wp_persist hs hnext
 · exact fun s' hs' _=>hturn s' hs'
 · exact fun detail s' hs' _=>⟨hs',trivial⟩

lemma Accounts.cleaned (h:Accounts prepared start t .none s.files s.approved)
 (hinside:n<t.items.length) (hcleaning:t.phase=.prepublishCleanup)
 (hunpublished:(itemAt t n).destinationState≠.published) {item' : FileTransferItem}
 (hunpublished':item'.destinationState≠.published)
 (hpaths:claimOf item'=claimOf (itemAt t n))
 (hcurrent:item'.currentSourceSnapshot=(itemAt t n).currentSourceSnapshot)
 (hlocation:item'.sourceLocation=(itemAt t n).sourceLocation)
 (hstrategy:item'.strategy=(itemAt t n).strategy)
 (hstate:item'.overwriteState=(itemAt t n).overwriteState)
 (hauthorized:item'.overwriteDestinationSnapshot=(itemAt t n).overwriteDestinationSnapshot)
 (hkept:item'.overwriteBackupSnapshot=(itemAt t n).overwriteBackupSnapshot):
 Accounts prepared start (setItem t n item') .none s.files s.approved:=by
 simp only [claimOf,Claim.mk.injEq] at hpaths
 obtain ⟨hsource,hstaged,-,hbackup,hdestination⟩:=hpaths
 refine h.reworked hinside rfl rfl rfl id hsource hdestination fun hitem=>?_
 exact ⟨source_same hitem.source hsource hstaged hcurrent hlocation hstrategy hunpublished,
  content_cleaned hcleaning hunpublished',
  replaced_same hitem.replaced (not_finished hunpublished) hdestination hbackup hstate
   hauthorized hkept⟩

lemma ordered_cleanup {step : FileTransferStep} (hcleanup:CleanupStep step):
 Ordered (beginStep t n step) n step:=by
 refine ⟨fun _=>hcleanup,?_⟩
 obtain rfl | rfl | rfl | rfl:=hcleanup
 · rintro (hno | hno)
   · cases hno
   · cases hno
 · rintro (hno | hno)
   · cases hno
   · cases hno
 · rintro (hno | hno)
   · cases hno
   · cases hno
 · rintro (hno | hno)
   · cases hno
   · cases hno

lemma wp_cleanupTemp (hs:KeptIn prepared start s)
 (h:Accounts prepared start t .none s.files s.approved) (hresting:Resting t)
 (hinside:n<t.items.length) (hcleaning:t.phase=.prepublishCleanup)
 (hunpublished:(itemAt t n).destinationState≠.published):
 wp transferWorld (KeptIn prepared start) (TurnEnds prepared start True)
  (cleanupTemp failure n t) s:=by
 rw [cleanupTemp,wp_bind]
 apply wp_probeTemp hs
 intro observed
 split
 · have hcleared:Accounts prepared start (setItem t n
     (clearDestinationProof (itemAt t n))) .none s.files s.approved:=
    Accounts.cleaned h hinside hcleaning hunpublished (by rintro ⟨⟩) rfl rfl rfl rfl rfl rfl rfl
   apply wp_cleanupPersist hs
   · intro _
     exact Ready.describes ⟨hs,hcleared⟩ hresting
   · intro s' hs'
     exact ⟨hs'.kept,hs',iff_true_intro hcleaning⟩
 · split
   · exact ⟨hs,trivial⟩
   · have hrecorded:Accounts prepared start (recordedTemp t n observed.snapshot) .none
       s.files s.approved:=
      Accounts.cleaned h hinside hcleaning hunpublished (by simp) rfl rfl rfl rfl rfl rfl rfl
     have hinside':n<(recordedTemp t n observed.snapshot).items.length:=by
      simpa [recordedTemp,setItem] using hinside
     apply wp_cleanupPersist hs
     · intro _
       exact Ready.describes ⟨hs,hrecorded⟩ hresting
     · intro s' hs'
       rw [wp_bind]
       apply wp_stopRequested hs'.kept
       intro stopped
       cases stopped with
       | true=>exact ⟨hs'.kept,trivial⟩
       | false=>
        have hresting':Resting (recordedTemp t n observed.snapshot):=hresting
        have hcleaning':(recordedTemp t n observed.snapshot).phase=.prepublishCleanup:=hcleaning
        exact wp_afterCleanupStep hcleaning' (wp_executeDeleteStep (hs'.ready hresting') hinside'
         (ordered_cleanup (.inr (.inr (.inl rfl)))) (.inr (.inl rfl)) (by simp))

lemma wp_cleanupRest (h:Holds prepared start t s) (hresting:Resting t)
 (hinside:n<t.items.length) (hcleaning:t.phase=.prepublishCleanup):
 wp transferWorld (KeptIn prepared start) (TurnEnds prepared start True)
  (cleanupRest canAsk failure n t) s:=by
 have hready:=h.ready hresting
 simp only [cleanupRest]
 split
 · next hstate =>
   apply wp_cleanupTemp h.kept hready.accounts hresting hinside hcleaning
   obtain hstate | hstate:=hstate
   · simp [hstate]
   · simp [hstate]
 · split
   · exact wp_afterCleanupStep hcleaning (wp_executeRenameStep h.kept hready.accounts hinside
      (ordered_cleanup (.inr (.inl rfl))) (.inr (.inr (.inr (.inl rfl)))))
   · split
     · exact wp_afterCleanupStep hcleaning (wp_executeRenameStep h.kept hready.accounts hinside
        (ordered_cleanup (.inr (.inr (.inr rfl)))) (.inr (.inr (.inr (.inr (.inr rfl))))))
     · rw [retire,wp_bind]
       apply wp_removeJournal h hresting
       intro reply s' hkept
       cases reply with
       | error detail=>exact ⟨hkept,trivial⟩
       | ok u=>exact ⟨hkept,trivial⟩

lemma wp_cleanupIdle (h:Holds prepared start t s) (hresting:Resting t)
 (hinside:n<t.items.length) (hcleaning:t.phase=.prepublishCleanup):
 wp transferWorld (KeptIn prepared start) (TurnEnds prepared start True)
  (cleanupIdle sha256 canAsk failure n t) s:=by
 have hready:=h.ready hresting
 simp only [cleanupIdle]
 split
 · next hstate =>
   have hunpublished:(itemAt t n).destinationState≠.published:=by simp [hstate.1]
   rw [wp_bind]
   apply wp_probeReservation h.kept
   intro reservation
   split
   · have hfound:Accounts prepared start (foundReservation t n reservation.file.snapshot)
       .none s.files s.approved:=
      Accounts.cleaned hready.accounts hinside hcleaning hunpublished nofun rfl rfl rfl rfl rfl
       rfl rfl
     apply wp_cleanupPersist h.kept
     · intro _
       exact Ready.describes ⟨h.kept,hfound⟩ hresting
     · intro s' hs'
       exact ⟨hs'.kept,hs',iff_true_intro hcleaning⟩
   · split
     · exact ⟨h.kept,trivial⟩
     · exact wp_cleanupRest h hresting hinside hcleaning
 · exact wp_cleanupRest h hresting hinside hcleaning

lemma wp_cleanupTurn (h:Holds prepared start t s) (hinside:n<t.items.length)
 (hcleaning:t.phase=.prepublishCleanup):
 wp transferWorld (KeptIn prepared start) (TurnEnds prepared start True)
  (cleanupTurn sha256 canAsk failure n t) s:=by
 rw [cleanupTurn,wp_bind]
 apply wp_stopRequested h.kept
 intro stopped
 cases stopped with
 | true=>exact ⟨h.kept,trivial⟩
 | false=>
  simp only [Bool.false_eq_true,if_false]
  split
  · next hreal => exact wp_afterCleanupStep hcleaning (wp_recoverActiveStep h hreal)
  · next hresting => exact wp_cleanupIdle h (not_not.mp hresting) hinside hcleaning

end Cleanups

/-- The files stay accounted for, wherever a run ends. -/
abbrev Runs (prepared : FileTransferTransaction) (start : Files)
  (run : TransferProg (Option FileTransferResult)) (s : TransferState) : Prop:=
 wp transferWorld (KeptIn prepared start) (fun _ _=>True) run s

lemma wp_cleanupLoop {failure : Failure} (hinside:n<prepared.items.length) (turns : ℕ):
 ∀ {t : FileTransferTransaction} {s : TransferState},Holds prepared start t s →
  t.phase=.prepublishCleanup →
  Runs prepared start (cleanupLoop sha256 canAsk failure n turns t) s:=by
 induction turns with
 | zero=>
  intro t s h _
  exact ⟨h.kept,trivial⟩
 | succ turns ih=>
  intro t s h hcleaning
  have hinside':n<t.items.length:=by
   rw [h.describes.continues.length]
   exact hinside
  rw [cleanupLoop,Runs,wp_bind]
  apply wp_consequence (wp_cleanupTurn h hinside' hcleaning)
  rintro ⟨next,turn⟩ s' hkept hturn
  cases turn with
  | finished result=>exact ⟨hkept,trivial⟩
  | again=>exact ih hturn.1 (hturn.2.mpr trivial)
  | cleanup=>exact ih hturn.1 hturn.2

lemma wp_continueCleanup (h:Holds prepared start t s) (hcleaning:t.phase=.prepublishCleanup)
 (turns : ℕ) : Runs prepared start (continueCleanup sha256 canAsk turns t) s:=by
 simp only [continueCleanup]
 split
 · exact ⟨h.kept,trivial⟩
 · next hinside =>
   apply wp_cleanupLoop _ _ h hcleaning
   rw [←h.describes.continues.length]
   omega

lemma wp_processingLoop (turns : ℕ):
 ∀ {t : FileTransferTransaction} {s : TransferState},Holds prepared start t s →
  t.phase≠.prepublishCleanup →
  Runs prepared start (processingLoop sha256 canAsk turns t) s:=by
 induction turns with
 | zero=>
  intro t s h _
  exact ⟨h.kept,trivial⟩
 | succ turns ih=>
  intro t s h hforward
  rw [processingLoop,Runs,wp_bind]
  apply wp_consequence (wp_processingTurn h hforward)
  rintro ⟨next,turn⟩ s' hkept hturn
  cases turn with
  | finished result=>exact ⟨hkept,trivial⟩
  | again=>exact ih hturn.1 fun hcleaning=>hturn.2.mp hcleaning
  | cleanup=>exact wp_continueCleanup hturn.1 hturn.2 turns

lemma wp_continueActive (h:Holds prepared start t s) (turns : ℕ):
 Runs prepared start (continueActive sha256 canAsk turns t) s:=by
 unfold continueActive
 split
 · next hcleaning => exact wp_continueCleanup h hcleaning turns
 · next hforward => exact wp_processingLoop turns h hforward

lemma wp_continueTransaction (h:Holds prepared start t s) (turns : ℕ):
 Runs prepared start (continueTransaction sha256 canAsk turns t) s:=by
 unfold continueTransaction
 split
 · next hphase =>
   have hready:=h.ready (h.sound.terminal (.inl hphase))
   have hresting:Resting (clearFailure { t with phase:=.processing }):=
    h.sound.terminal (.inl hphase)
   rw [Runs,wp_bind]
   apply wp_persist h.kept
   · intro _
     apply Ready.describes ⟨h.kept,_⟩ hresting
     exact hready.accounts.resting rfl rfl rfl fun _=>by simp [hphase]
   · exact fun s' hs' _=>wp_continueActive hs' turns
   · exact fun detail s' hs' _=>⟨hs',trivial⟩
 · exact wp_continueActive h turns

lemma wp_cleanupAfter {step : TransferStep} (turns : ℕ)
 (hstep:wp transferWorld (KeptIn prepared start) (TurnsBack prepared start) step s):
 Runs prepared start (cleanupAfter sha256 canAsk turns step) s:=by
 rw [cleanupAfter,Runs,wp_bind]
 apply wp_consequence hstep
 rintro ⟨next,result⟩ s' hkept hback
 dsimp only
 split
 · exact ⟨hkept,trivial⟩
 · next hnot =>
   obtain hjournal | ⟨-,hholds,hcleaning⟩:=hback
   · exact absurd hjournal hnot
   · exact wp_continueCleanup hholds hcleaning turns

lemma pristine_of_prepared (h:TransferSound t) (hphase:t.phase=.prepared)
 (hinside:n<t.items.length) : pristineItem t.kind (itemAt t n)=true:=by
 rw [itemAt_eq hinside]
 exact h.prepared hphase _ (List.getElem_mem hinside)

lemma wp_persistDecision (hs:KeptIn prepared start s)
 (hnext:TransferSound t → Describes prepared start s t) (turns : ℕ):
 Runs prepared start (persistDecision sha256 canAsk turns t) s:=by
 rw [persistDecision,Runs,wp_bind]
 apply wp_persist hs hnext
 · exact fun s' hs' _=>wp_continueTransaction hs' turns
 · exact fun detail s' hs' _=>⟨hs',trivial⟩

lemma wp_decideInitialConflicts (h:Holds prepared start t s) (hphase:t.phase=.prepared)
 {conflicts : List (ℕ × SourceSnapshot)}
 (hfound:∀c∈conflicts,Found t s.files c) (turns : ℕ):
 Runs prepared start (decideInitialConflicts sha256 canAsk turns t conflicts) s:=by
 have hsound:=h.sound
 have hready:=h.ready (hsound.terminal (.inl hphase))
 have hcopyable:∀c∈conflicts,c.1<t.items.length ∧ Copyable (itemAt t c.1):=by
  intro c hmem
  obtain ⟨hinside,hundecided,-⟩:=hfound c hmem
  have habsent:=pristine_absent (pristine_of_prepared hsound hphase hinside)
  exact ⟨hinside,plain_of_undecided hsound hinside hundecided,by simp [habsent],
   by simp [habsent]⟩
 rw [decideInitialConflicts,Runs,wp_bind]
 apply wp_persist h.kept
 · exact fun _=>hready.accounts.resting rfl rfl rfl id
 · intro s' hs' hsame
   rw [wp_bind]
   apply wp_awaitConflictDecision hs'
   intro decision s'' hs'' hfiles hgiven
   have hwaiting:Accounts prepared start (clearFailure (clearActive t)) .none s''.files
     s''.approved := hs''.describes
   cases decision with
   | none=>exact ⟨hs''.kept,trivial⟩
   | some decision=>
    cases decision with
    | cancel=>exact wp_cleanupAfter turns (wp_cancelByUser hs''.kept hwaiting)
    | overwrite=>
     have hauthorized:Accounts prepared start (authorizeAll (clearFailure (clearActive t))
       conflicts) .none s''.files s''.approved:=by
      have hupgraded:Accounts prepared start (upgraded (clearFailure (clearActive t))) .none
        s''.files s''.approved := hwaiting.resting rfl rfl rfl id
      apply accounts_authorizeAll conflicts hupgraded
      intro c hmem
      obtain ⟨hinside,hitem⟩:=hcopyable c hmem
      have hasked:conflictItem (itemAt t c.1)∈conflicts.map fun c =>
        conflictItem (itemAt (clearFailure (clearActive t)) c.1):=
       List.mem_map_of_mem hmem
      have hshows:=(hfound c hmem).2.2
      rw [←hsame.files] at hshows
      exact ⟨hinside,hitem.unpublished,.inl hitem.plain,
       hgiven rfl _ (given_of_asked hasked hshows)⟩
     apply wp_persistDecision hs''.kept
     intro _
     have hresting:=(foldl_keeps conflicts (upgraded (clearFailure (clearActive t)))).1
     exact Ready.describes ⟨hs''.kept,hauthorized⟩ hresting
    | createCopy=>
     have hcopyable':∀i∈conflicts.map Prod.fst,
       i<(clearFailure (clearActive t)).items.length ∧
        Copyable (itemAt (clearFailure (clearActive t)) i):=by
      intro i hmem
      obtain ⟨c,hconflict,rfl⟩:=List.mem_map.mp hmem
      exact hcopyable c hconflict
     rw [wp_bind]
     apply wp_assignCopies hs''.kept _ hcopyable'
     intro copied complete hrecopied
     cases complete with
     | true=>
      exact wp_persistDecision hs''.kept (describes_recopied hwaiting rfl hrecopied) turns
     | false=>
      exact wp_cleanupAfter turns (wp_noCopyNameLeft hs''.kept hwaiting rfl hrecopied)
 · exact fun detail s' hs' _=>⟨hs',trivial⟩

lemma wp_continueFrom (h:Holds prepared start t s) (turns : ℕ):
 Runs prepared start (continueFrom sha256 canAsk turns t) s:=by
 unfold continueFrom
 split
 · next hask =>
   rw [Runs,wp_bind]
   apply wp_observeConflicts (t := t) h.kept
   · exact fun i hmem=>List.mem_range.mp hmem
   · exact ⟨h.kept,trivial⟩
   · intro conflicts hfound
     cases conflicts with
     | nil=>exact wp_continueTransaction h turns
     | cons first rest=>exact wp_decideInitialConflicts h hask.2 hfound turns
 · exact wp_continueTransaction h turns

/-- The files the user gave up beforehand. -/
def authorizedBefore (t : FileTransferTransaction) : List (Bytes × Bytes):=
 (t.items.filter fun item=>item.overwriteState = .authorized).map fun item =>
  (destinationKey item,identityOf item.overwriteDestinationSnapshot)

lemma accounts_prepared (hsound:TransferSound t) (hphase:t.phase=.prepared):
 Accounts t start t .none start (authorizedBefore t):=by
 refine ⟨⟨rfl,rfl,rfl,fun _ _=>rfl,fun _ _=>.own⟩,?_,fun _ _ hobject _ _=>hobject,
  fun _=>.inl rfl⟩
 intro i hi
 have hpristine:=pristine_of_prepared hsound hphase hi
 have habsent:=pristine_absent hpristine
 simp only [pristineItem,decide_eq_true_eq] at hpristine
 rw [stepOn_none]
 refine ⟨⟨fun _ hobject _=>hobject,fun _=>rfl,?_,fun _=>rfl⟩,content_absent habsent,
  fun _ hobject=>.inl hobject,?_,(by simp)⟩
 · intro object hgenuine
   unfold SourcePlaced
   rw [hpristine.2.1]
   exact .inl hgenuine.1
 · intro hauthorized
   refine List.mem_map.mpr ⟨itemAt t i,List.mem_filter.mpr ⟨?_,decide_eq_true hauthorized⟩,rfl⟩
   rw [itemAt_eq hi]
   exact List.getElem_mem hi

def initial (t : FileTransferTransaction) (start : Files) : TransferState:=
 ⟨⟨none,none⟩,start,authorizedBefore t⟩

lemma kept_initial (hsound:TransferSound t) (hphase:t.phase=.prepared):
 KeptIn t start (initial t start):=by
 apply Kept.empty rfl
 refine ⟨t,hsound,?_⟩
 rw [Describes,hsound.terminal (.inl hphase)]
 exact accounts_prepared hsound hphase

lemma wp_runPrepared {transaction : FileTransferTransaction}
 {sources : List FileTransferSource}
 (hsound:TransferSound (authorizeApproved transaction sources))
 (hphase:transaction.phase=.prepared) (turns : ℕ):
 Runs (authorizeApproved transaction sources) start
  (runPrepared sha256 canAsk turns transaction sources)
  (initial (authorizeApproved transaction sources) start):=by
 rw [runPrepared,Runs,wp_bind]
 apply wp_persist (kept_initial hsound hphase)
 · intro _
   rw [Describes,hsound.terminal (.inl hphase)]
   exact accounts_prepared hsound hphase
 · exact fun s' hs' _=>wp_continueFrom hs' turns
 · exact fun detail s' hs' _=>⟨hs',trivial⟩

lemma replaced_renamed {approved : List (Bytes × Bytes)} {files : Files}
 {kind : FileTransferKind} {step : FileTransferStep} {item : FileTransferItem} {backup : Path}
 (h:ReplacedKept start files approved kind step item)
 (hsame:transferPathKey backup=backupKey item):
 ReplacedKept start files approved kind step { item with overwriteBackup:=backup }:=by
 refine ⟨fun object hobject=>?_,h.authorized,h.plain⟩
 have hkept:=h.kept object hobject
 unfold DestinationKept at hkept ⊢
 rw [←hsame] at hkept
 exact hkept

lemma itemAt_restored (hinside:n<t.items.length):
 itemAt (restored t) n=restoredItem t.operationId n (itemAt t n):=by
 have hlength:n<(restored t).items.length:=by simpa [restored] using hinside
 rw [itemAt_eq hlength,itemAt_eq hinside]
 simp [restored]

lemma Accounts.restored {files : Files} {approved : List (Bytes × Bytes)}
 {step : FileTransferStep} (h:Accounts prepared start t step files approved)
 (hsound:TransferSound t):
 Accounts prepared start (restored t) step files approved:=by
 have hlength:(TransferRoundTrip.restored t).items.length=t.items.length:=by
  simp [TransferRoundTrip.restored]
 have hbackup:∀i<t.items.length,
   transferPathKey (restoredItem t.operationId i (itemAt t i)).overwriteBackup=
    backupKey (itemAt t i):=by
  intro i hi
  have hsame:=(List.forall₂_iff_get.mp
   (restored_same ((transferValid_iff t).mpr hsound)).2).2 i (by omega) hi
  have hpath:=same_lexicallyNormal hsame.1
  simp only [List.get_eq_getElem,TransferRoundTrip.restored,List.getElem_mapIdx] at hpath
  unfold backupKey transferPathKey
  rw [itemAt_eq hi,hpath]
 constructor
 · refine ⟨h.continues.kind,h.continues.operationId,hlength.trans h.continues.length,?_,?_⟩
   · intro i hi
     rw [itemAt_restored (by omega)]
     exact h.continues.sources i (by omega)
   · intro i hi
     rw [itemAt_restored (by omega)]
     exact h.continues.assigned i (by omega)
 · intro i hi
   have hi':i<t.items.length:=by omega
   have hitem:=h.items i hi'
   rw [itemAt_restored hi']
   refine ⟨⟨hitem.source.foreign,hitem.source.current,hitem.source.placed,
    hitem.source.unstaged⟩,⟨hitem.content.reserved,hitem.content.copied,
    hitem.content.published⟩,?_⟩
   exact replaced_renamed hitem.replaced (hbackup i hi')
 · intro key object hobject huser hnot
   apply h.others key object hobject huser
   intro i hi heq
   apply hnot i (by omega)
   rw [itemAt_restored hi]
   exact heq
 · exact h.cleaning

lemma Holds.restored (h:Holds prepared start t s) : Holds prepared start (restored t) s:=by
 refine ⟨h.recorded.restated ?_ id,Accounts.restored h.describes h.sound⟩
 rintro bytes ⟨payload,hencoded,hsize,rfl⟩
 exact ⟨payload,encode_restored hencoded,hsize,rfl⟩

/-- Every later session, from whatever the ones before it left. -/
lemma wp_runResume (h:KeptIn prepared start s) (turns : ℕ):
 Runs prepared start (runResume sha256 canAsk turns) s:=by
 rw [runResume,Runs,wp_bind]
 refine wp_ask (o := .readJournal) h (fun _ _ hanswer=>hanswer.1) (fun _ hsame=>hsame) ?_
 rintro loaded ⟨-,hread⟩
 unfold resumeFrom
 split
 · exact ⟨h,trivial⟩
 · next hreadable =>
   obtain ⟨hok,-⟩:=not_or.mp hreadable
   cases h with
   | empty hjournal hnothing=>
    obtain rfl | hfailed:=hread
    · rw [hjournal] at hok
      exact absurd hok nofun
    · exact absurd hfailed (by simpa using hok)
   | recorded t hrecorded hdescribes=>
    have hholds:Holds prepared start t s:=⟨hrecorded,hdescribes⟩
    obtain hfailed | ⟨payload,hencoded,-,-,-,rfl⟩:=hrecorded.reads (by decide) hread
    · exact absurd hfailed (by simpa using hok)
    · split
      · exact ⟨hholds.kept,trivial⟩
      · next decoded hdecoded =>
        obtain ⟨-,rfl⟩:=(decode_encodeFileTransferTransaction hencoded []).mp hdecoded
        exact wp_continueFrom (Holds.restored hholds) turns

end VoVe.TransferContentRun
