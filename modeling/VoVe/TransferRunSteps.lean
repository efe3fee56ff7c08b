import VoVe.TransferRunRule

set_option autoImplicit false

namespace VoVe.TransferRunSteps
open ByteCodec AsciiText EffectProgram FileOperation
open TransferTransaction FileTransferProtocol FileTransferCoordinator TransferShape
open TransferUpdates TransferCopyNames TransferConflicts TransferRunRule
open OperationRequest (RenameRequest DeleteRequest)
open FileTransferClient (FileTransferAuditCommitOutcome)

variable {sha256 : Bytes → ContentDigest} {canAsk : Bool} {s : Handing}
 {t t₀ t' : FileTransferTransaction} {index : ℕ} {item' : FileTransferItem}

lemma setItem_same (hinside:index<t.items.length) : setItem t index (itemAt t index)=t:=by
 unfold setItem
 rw [←items_same hinside]

lemma wp_turnBack (h:TransferSound t) (hcurrent:Current t index)
 (hunpublished:(itemAt t index).destinationState≠.published) (hs:AllSound s)
 {status : OperationStatus} {evidence : OperationEvidence} {detail : Bytes}
 (hfailure:status=.success → evidence=.none ∧ detail=[]):
 wp (fitting sha256) AllSound TurnsBack (enterCleanup t status evidence detail) s:=by
 apply wp_enterCleanup _ hs
 have hinside:=hcurrent.inside
 have hsound:=sound_enterCleanup h hcurrent (reworks_same h hinside) (UInt32.le_refl _)
  h.version (sound_itemAt h hinside) hunpublished (fun hcancelled=>(h.cancelled hcancelled).1)
  hfailure
 rw [setItem_same hinside] at hsound
 exact hsound

lemma wp_cancelByUser (h:TransferSound t) (hcurrent:Current t index)
 (hunpublished:(itemAt t index).destinationState≠.published) (hversion:t.version≥5)
 (hs:AllSound s):
 wp (fitting sha256) AllSound TurnsBack (cancelByUser t) s:=by
 apply wp_enterCleanup _ hs
 have hinside:=hcurrent.inside
 have hsound:TransferSound (recordFailure { clearActive (setItem t index (itemAt t index)) with
   version:=t.version,cancelled := true,phase := .prepublishCleanup }
   .conflict .noCommit (utf8 "file transfer cancelled by user")):=
  sound_enterCleanup h hcurrent (reworks_same h hinside) (UInt32.le_refl _) h.version
   (sound_itemAt h hinside) hunpublished (fun _=>hversion) nofun
 rw [setItem_same hinside] at hsound
 exact hsound

lemma wp_noCopyName (h:TransferSound t) (hcurrent:Current t index)
 (hunpublished:(itemAt t index).destinationState≠.published) (hs:AllSound s):
 wp (fitting sha256) AllSound TurnsBack (noCopyName t) s:=
 wp_turnBack h hcurrent hunpublished hs nofun

lemma wp_assignCopyFrom (hinside:index<t.items.length) (hs:Holds t₀ s)
 {post : Option FileTransferTransaction → Handing → Prop} (hnone:post none s)
 (hsome:∀c,FreeCopy t index c →
  post (some (setItem t index (copiedItem t index c))) s) (remaining : ℕ):
 ∀ordinal,wp (fitting sha256) AllSound post (assignCopyFrom t index remaining ordinal) s:=by
 induction remaining with
 | zero=>
  intro ordinal
  exact ⟨hs.all,hnone⟩
 | succ remaining ih=>
  intro ordinal
  rw [assignCopyFrom,wp_bind]
  apply wp_stopRequested hs.all
  intro stopped
  cases stopped with
  | true=>exact ⟨hs.all,hnone⟩
  | false=>
   simp only [Bool.false_eq_true,if_false]
   split
   · exact ih _
   · next hfree =>
     have huse:RenameUse.tryCopyName≠.observeConflict:=nofun
     rw [wp_bind]
     apply wp_submitRename hs huse
     intro result hfits
     split
     · exact ih _
     · next hclear =>
       exact ⟨hs.all,hsome _ ⟨hinside,⟨ordinal,rfl⟩,hfits hclear,hfree⟩⟩

lemma wp_assignCopyDestination (hinside:index<t.items.length) (hs:Holds t₀ s)
 {post : Option FileTransferTransaction → Handing → Prop} (hnone:post none s)
 (hsome:∀c,FreeCopy t index c → post (some (setItem t index (copiedItem t index c))) s):
 wp (fitting sha256) AllSound post (assignCopyDestination t index) s:=
 wp_assignCopyFrom hinside hs hnone hsome _ _

lemma keeps_processing (hsound:TransferSound t') (hsettled:Settled t → Settled t') (hphase:t.phase=.processing)
  (hphase':t'.phase=.processing) : Keeps t t' where
 sound:=hsound
 settled:=hsettled
 unprepared:=by simp [hphase']
 cleanup:=by simp [hphase,hphase']
 cursor hcleanup := by simp [hphase] at hcleanup

lemma upgraded_recent (t : FileTransferTransaction) : (upgraded t).version≥5:=by
 change kFileTransferTransactionVersion≥5
 decide

lemma wp_overwriteDecision (h:TransferSound t) (hcurrent:Current t index)
 (hunpublished:(itemAt t index).destinationState≠.published)
 (hphase:t.phase=.processing) (hs:Holds t₀ s) {snapshot : SourceSnapshot}
 (hauthorizable:Storable snapshot → Authorizable t index snapshot)
 (hobserved:snapshot∈s.observed):
 wp (fitting sha256) AllSound (StepEnds t)
  (requestOverwrite.overwriteDecision t index snapshot) s:=by
 have hwaiting:=sound_waiting h
 have hupgraded:TransferSound (upgraded (clearFailure (clearActive t))):=
  sound_upgraded hwaiting rfl
 have hinside:=hcurrent.inside
 have hnow:Current (upgraded (clearFailure (clearActive t))) index:=
  ⟨hinside,hcurrent.before,hcurrent.unfinished⟩
 apply wp_persistThen hwaiting hs.all
 intro s' hs' hkept
 rw [wp_bind]
 apply wp_awaitConflictDecision hs'
 intro decision s'' hs'' hfits
 cases decision with
 | none=>exact ⟨hs''.all,stepEnds_other nofun nofun⟩
 | some decision=>
  cases decision with
  | cancel=>
   exact wp_stepEnds (wp_cancelByUser hupgraded hnow hunpublished (upgraded_recent _) hs''.all)
  | createCopy=>
   rw [wp_bind]
   apply wp_assignCopyDestination hnow.inside hs''
   · exact wp_stepEnds (wp_noCopyName hupgraded hnow hunpublished hs''.all)
   · intro c hcopy
     have hcopied:=sound_copied hupgraded rfl hcopy hunpublished
     have hsettled:=settled_set (setItem t index (copiedItem t index c)) hinside
      rfl fun hunsettled=>nomatch hunsettled.1
     exact wp_persistCommitted (keeps_processing hcopied hsettled hphase hphase) hs''.all
  | overwrite=>
   have hready:=hauthorizable (hfits snapshot (hkept ▸ hobserved))
   have hforward:(upgraded (clearFailure (clearActive t))).phase≠.prepublishCleanup:=by
    change t.phase≠_
    simp [hphase]
   have hauthorized:=sound_authorized hupgraded rfl hinside hunpublished hforward
    (upgraded_recent _)
    ⟨hready.undecided,hready.storable,hready.valid,hready.unaliased⟩
   have hsettled:=settled_set
    (setItem t index (overwrittenItem (itemAt t index) snapshot)) hinside rfl
    fun hunsettled=>nomatch hunsettled.1
   exact wp_persistCommitted (keeps_processing hauthorized hsettled hphase hphase) hs''.all

/-- Where nothing is decided the transaction is still the one at hand. -/
def Asked (t : FileTransferTransaction) (out : FileTransferTransaction × Option StepResult)
  (s : Handing) : Prop:=
 match out.2 with
 | none=>out.1 = t ∧ Holds t s
 | some result=>StepEnds t (out.1,result) s

lemma wp_requestOverwrite (h:TransferSound t) (hcurrent:Current t index)
 (hunpublished:(itemAt t index).destinationState≠.published)
 (hphase:t.phase=.processing) (hs:Holds t s) {step : FileTransferStep}:
 wp (fitting sha256) AllSound (Asked t) (requestOverwrite canAsk t index step) s:=by
 rw [requestOverwrite,wp_bind]
 apply wp_stopRequested hs.all
 intro stopped
 cases stopped with
 | true=>exact ⟨hs.all,stepEnds_other nofun nofun⟩
 | false=>
  simp only [Bool.false_eq_true,if_false]
  split
  · exact ⟨hs.all,rfl,hs⟩
  · next hask =>
    simp only [not_or,not_not] at hask
    rw [wp_bind]
    apply wp_observeConflict hs
    intro result s' hs' hadded _
    split
    · exact ⟨hs'.all,rfl,hs'⟩
    · next hconflict =>
      rw [not_not] at hconflict
      rw [wp_bind]
      have hobserved:result.confirmedSnapshot∈s'.observed:=by
       rw [hadded hconflict]
       exact List.mem_append_right _ (List.mem_singleton_self _)
      apply wp_consequence (wp_overwriteDecision h hcurrent hunpublished hphase hs'
       (conflict_authorizable hask.2 hconflict) hobserved)
      intro out s'' hall hout
      exact ⟨hall,hout⟩

variable {t₁ cleared : FileTransferTransaction}

section Renames
variable {step : FileTransferStep}

lemma keeps_of_same (h:Keeps t₁ t') (hsettled:Settled t → Settled t₁)
  (hphase:t₁.phase=t.phase) (hcursor:completedPrefix t₁=completedPrefix t):
  Keeps t t' where
 sound:=h.sound
 settled hold := h.settled (hsettled hold)
 unprepared:=h.unprepared
 cleanup:=hphase ▸ h.cleanup
 cursor hcleanup := (h.cursor (hphase ▸ hcleanup)).trans hcursor

lemma stepEnds_of_same {out : FileTransferTransaction × StepResult} (h:StepEnds t₁ out s)
 (hsettled:Settled t → Settled t₁) (hphase:t₁.phase=t.phase)
 (hcursor:completedPrefix t₁=completedPrefix t) : StepEnds t out s:=
 ⟨fun hcommitted=>⟨(h.1 hcommitted).1,keeps_of_same (h.1 hcommitted).2 hsettled hphase hcursor⟩,h.2⟩

lemma itemStepMatches_congr (hstep:t'.activeStep=t.activeStep) (hkind:t'.kind=t.kind)
 (hversion:t'.version=t.version) (hphase:t'.phase=t.phase) (item : FileTransferItem):
 itemStepMatches t' item=itemStepMatches t item:=by
 simp only [itemStepMatches,hstep,hkind,hversion,hphase]

lemma wp_begin (h:TransferSound t) (hcurrent:Current t index) (hworking:Working t.phase)
 (hreal:step≠.none)
 (hfits:itemStepMatches (beginStep t index step) (itemAt t index)=true) (hs:AllSound s)
 {next : TransferStep}
 (hnext:∀s',Engaged (beginStep t index step) index step → Holds (beginStep t index step) s' →
  wp (fitting sha256) AllSound (StepEnds (beginStep t index step)) next s'):
 wp (fitting sha256) AllSound (StepEnds t)
  (persistThen (beginStep t index step) .none next) s:=by
 have hengaged:=engaged_of_begin h hcurrent hworking hreal hfits
 apply wp_persistThen hengaged.sound hs
 intro s' hs' _
 apply wp_consequence (hnext s' hengaged hs')
 intro out s'' _ hout
 exact stepEnds_of_same hout id rfl rfl

lemma wp_recordUnexpected (h:Engaged t index step) (hs:AllSound s) {result : OperationResult}
 {recovered : Bool} (hunexpected:unexpectedEvacuation step result recovered=true)
 (hstorable:Storable result.confirmedSnapshot):
 wp (fitting sha256) AllSound (StepEnds t₀)
  (enterCleanup (recordUnexpectedEvacuation t index result) .sourceChanged .committed
   unexpectedDetail) s:=by
 simp only [unexpectedEvacuation,decide_eq_true_eq] at hunexpected
 obtain ⟨rfl,-,-,hidentity,-⟩:=hunexpected
 have hmatches:=h.fits
 simp only [itemStepMatches,h.active,decide_eq_true_eq] at hmatches
 obtain ⟨hversion,hauthorized,hunpublished⟩:=hmatches
 have hinside:=h.current.inside
 have hreworks:Reworks t index { itemAt t index with
   overwriteBackupSnapshot:=result.confirmedSnapshot
   overwriteState:=.evacuatedUnexpected }:=
  reworks_of_same h.sound hinside rfl rfl (.inl rfl)
 have hitem:=sound_evacuated (sound_itemAt h.sound hinside) hversion hauthorized hunpublished
  hstorable (decide_eq_true hidentity) (.inl rfl)
 exact wp_stepEnds (wp_enterCleanup (sound_enterCleanup h.sound h.current hreworks
  (UInt32.le_refl _) h.sound.version hitem hunpublished
  (fun hcancelled=>(h.sound.cancelled hcancelled).1) (by simp)) hs)

lemma wp_streamInstead (h:Engaged t index .atomicMove) (hs:AllSound s):
 wp (fitting sha256) AllSound (StepEnds t) (streamInstead t index) s:=by
 have hmatches:=h.fits
 simp only [itemStepMatches,h.active,decide_eq_true_eq] at hmatches
 obtain ⟨hkind,hstrategy,horiginal,habsent,-⟩:=hmatches
 have hinside:=h.current.inside
 have hunfinished:finalItem t.kind { itemAt t index with
   strategy:=.moveStream,moveStreamReason := .crossDeviceNoCommit }=false:=by
  simp [finalItem,habsent]
 have hreworks:Reworks t index { itemAt t index with
   strategy:=.moveStream,moveStreamReason := .crossDeviceNoCommit }:=
  reworks_of_same h.sound hinside rfl rfl (.inl rfl)
 have hsound:TransferSound (clearFailure (clearActive (setItem t index { itemAt t index with
   strategy:=.moveStream,moveStreamReason := .crossDeviceNoCommit }))):=by
  apply sound_rests h.sound h.current hreworks
  · exact ⟨rfl,rfl,rfl,UInt32.le_refl _,h.sound.version,⟨rfl,rfl,rfl⟩,h.working,
     h.sound.cancelled,fun _=>⟨rfl,rfl,rfl⟩⟩
  · exact sound_streamInstead (sound_itemAt h.sound hinside) hkind hstrategy horiginal habsent
  · exact hunfinished
 apply wp_persistThen hsound hs
 intro s' hs' _
 refine ⟨hs'.all,fun _=>⟨hs',hsound,settled_set _ hinside rfl id,h.working.unprepared,
  Iff.rfl,fun _=>?_⟩,(by simp)⟩
 rw [h.current.index_eq]
 exact cursor_kept h.sound h.current rfl rfl hunfinished

lemma processing_of_working {phase : FileTransferPhase} (hworking:Working phase)
 (hphase:phase≠.prepublishCleanup) : phase=.processing:=
 hworking.resolve_right hphase

lemma wp_settleRefusedRename (h:Engaged t index step) (hs:Holds t s)
 (hphase:t.phase≠.prepublishCleanup)
 (hrename:step≠.deleteSource ∧ step≠.cleanupOverwriteDestination)
 {result : OperationResult} (hfits:FailureFits t result):
 wp (fitting sha256) AllSound (StepEnds t) (settleRefusedRename canAsk t index step result)
  s:=by
 have hunpublished:=unpublished_of_fits h.active h.fits hrename
 rw [FailureFits,if_neg hphase] at hfits
 unfold settleRefusedRename
 split
 · rw [wp_bind]
   apply wp_consequence (wp_requestOverwrite h.sound h.current hunpublished
    (processing_of_working h.working hphase) hs)
   rintro ⟨asked,decided⟩ s' hall hasked
   cases decided with
   | none=>
    obtain ⟨rfl,hs'⟩:=hasked
    exact wp_stepEnds (wp_turnBack h.sound h.current hunpublished hs'.all hfits)
   | some decided=>exact ⟨hall,hasked⟩
 · exact wp_stepEnds (wp_turnBack h.sound h.current hunpublished hs.all hfits)

lemma wp_settleRenameAttempt (h:Engaged t index step) (hs:Holds t s)
 (hrename:step≠.deleteSource ∧ step≠.cleanupOverwriteDestination)
 {request : RenameRequest} {result : OperationResult}
 (hfits:RenameReplyFits t request result .execute):
 wp (fitting sha256) AllSound (StepEnds t) (settleRenameAttempt canAsk t index step result)
  s:=by
 have hactive:=h.active
 simp only [RenameReplyFits,hactive] at hfits
 unfold settleRenameAttempt
 split
 · next hunexpected =>
   rw [if_pos hunexpected] at hfits
   exact wp_recordUnexpected h hs.all hunexpected hfits
 · next hexpected =>
   rw [if_neg hexpected] at hfits
   split
   · next hcommitted =>
     rw [if_pos hcommitted] at hfits
     exact wp_settleRename h hs hfits
   · next huncommitted =>
     rw [if_neg huncommitted] at hfits
     split
     · next hcross =>
       obtain ⟨rfl,-,-⟩:=hcross
       exact wp_streamInstead h hs.all
     · next hsame =>
       rw [if_neg hsame] at hfits
       split
       · next hphase =>
         rw [FailureFits,if_pos hphase] at hfits
         exact wp_preserveCleanupUncertain h.sound hs.all
          (fun hnone=>absurd (hactive.symm.trans hnone) h.real) hfits
       · next hphase =>
         split
         · exact wp_settleRefusedRename h hs hphase hrename hfits
         · rw [FailureFits,if_neg hphase] at hfits
           exact wp_preserveUncertain h.sound hs.all
            (fun hnone=>absurd (hactive.symm.trans hnone) h.real) hfits

lemma wp_executeRenameStep (h:TransferSound t) (hcurrent:Current t index)
 (hworking:Working t.phase) (hreal:step≠.none)
 (hrename:step≠.deleteSource ∧ step≠.cleanupOverwriteDestination)
 (hfits:itemStepMatches (beginStep t index step) (itemAt t index)=true) (hs:AllSound s):
 wp (fitting sha256) AllSound (StepEnds t) (executeRenameStep canAsk t index step) s:=by
 apply wp_begin h hcurrent hworking hreal hfits hs
 intro s' hengaged hs'
 rw [wp_bind]
 apply wp_stopRequested hs'.all
 intro stopped
 cases stopped with
 | true=>exact ⟨hs'.all,stepEnds_other nofun nofun⟩
 | false=>
  have huse:RenameUse.execute≠.observeConflict:=nofun
  simp only [Bool.false_eq_true,if_false]
  rw [wp_bind]
  apply wp_submitRename hs' huse
  intro result hanswer
  exact wp_settleRenameAttempt hengaged hs' hrename hanswer

/-- What is left of a step that is known not to have happened. -/
def forgotten (t : FileTransferTransaction) : FileTransferTransaction:=
 if (clearActive t).phase = .prepublishCleanup then clearActive t else clearFailure (clearActive t)

lemma sound_clearActive (h:TransferSound t) : TransferSound (clearActive t):=
 sound_sameItems h ⟨rfl,rfl,rfl,rfl,UInt32.le_refl _,h.version,⟨rfl,rfl,rfl⟩,
  fun hsuccess=>(h.failure hsuccess).2,rfl⟩ rfl

lemma sound_forgotten (h:TransferSound t) : TransferSound (forgotten t):=by
 unfold forgotten
 split
 · exact sound_clearActive h
 · exact sound_waiting h

lemma forgotten_cases (t : FileTransferTransaction):
 forgotten t=clearActive t ∨ forgotten t=clearFailure (clearActive t):=by
 unfold forgotten
 split
 · exact .inl rfl
 · exact .inr rfl

lemma begins_again (h:Engaged t index step) {cleared : FileTransferTransaction}
 (hcleared:cleared=clearActive t ∨ cleared=clearFailure (clearActive t)):
 Current cleared index ∧ Working cleared.phase ∧
  itemStepMatches (beginStep cleared index step) (itemAt cleared index)=true:=by
 have hcurrent:=h.current
 have hfits:=h.fits
 have hstep:step=t.activeStep:=h.active.symm
 obtain rfl | rfl:=hcleared
 · refine ⟨⟨hcurrent.inside,hcurrent.before,hcurrent.unfinished⟩,h.working,?_⟩
   have hsame:∀item,itemStepMatches (beginStep (clearActive t) index step) item=
     itemStepMatches t item := itemStepMatches_congr hstep rfl rfl rfl
   rw [hsame]
   exact hfits
 · refine ⟨⟨hcurrent.inside,hcurrent.before,hcurrent.unfinished⟩,h.working,?_⟩
   have hsame:∀item,itemStepMatches (beginStep (clearFailure (clearActive t)) index step) item=
     itemStepMatches t item := itemStepMatches_congr hstep rfl rfl rfl
   rw [hsame]
   exact hfits

lemma same_of_cleared
 (hcleared:cleared=clearActive t ∨ cleared=clearFailure (clearActive t)):
 (Settled t → Settled cleared) ∧ cleared.phase=t.phase ∧
  completedPrefix cleared=completedPrefix t:=by
 obtain rfl | rfl:=hcleared
 · exact ⟨id,rfl,rfl⟩
 · exact ⟨id,rfl,rfl⟩

lemma wp_recoverRenameStep (h:Engaged t index step) (hs:Holds t s)
 (hrename:step≠.deleteSource ∧ step≠.cleanupOverwriteDestination):
 wp (fitting sha256) AllSound (StepEnds t) (recoverRenameStep canAsk t index step) s:=by
 have hactive:=h.active
 have huse:RenameUse.recover≠.observeConflict:=nofun
 rw [recoverRenameStep,wp_bind]
 apply wp_submitRename hs huse
 intro result hfits
 simp only [RenameReplyFits,hactive] at hfits
 split
 · next hunexpected =>
   rw [if_pos hunexpected] at hfits
   exact wp_recordUnexpected h hs.all hunexpected hfits
 · next hexpected =>
   rw [if_neg hexpected] at hfits
   split
   · next hcommitted =>
     rw [if_pos hcommitted] at hfits
     exact wp_settleRename h hs hfits
   · next huncommitted =>
     rw [if_neg huncommitted] at hfits
     split
     · next hunknown =>
       rw [if_neg hunknown] at hfits
       exact wp_preserveResult h.sound hs.all (hactive ▸ h.real) hfits
     · have hforgotten:=forgotten_cases t
       obtain ⟨hcurrent,hworking,hagain⟩:=begins_again h hforgotten
       obtain ⟨hsettled,hphase,hcursor⟩:=same_of_cleared hforgotten
       apply wp_persistThen (sound_forgotten h.sound) hs.all
       intro s' hs' _
       apply wp_consequence (wp_executeRenameStep (sound_forgotten h.sound) hcurrent hworking
        h.real hrename hagain hs'.all)
       intro out s'' _ hout
       exact stepEnds_of_same hout hsettled hphase hcursor

end Renames

section Deletes
variable {step : FileTransferStep}

lemma deleted_keeps (h:Engaged t index step)
 (hdeleted:deletedItem (itemAt t index) step=some item'):
 Keeps t (advance (setItem t index item')):=by
 have hsound:=sound_itemAt h.sound h.current.inside
 have hinside:=h.current.inside
 have hmatches:=h.fits
 rw [itemStepMatches,h.active] at hmatches
 cases step with
 | cleanupTemp=>
  simp only [decide_eq_true_eq] at hmatches
  cases hdeleted
  apply h.keeps
  · exact reworks_of_same h.sound hinside rfl rfl (.inl rfl)
  · exact sound_clearDestinationProof hsound (streamable_of_temp hsound.strategy hmatches.2.2)
  · intro _
    simp [finalItem,clearDestinationProof]
  · exact fun hunsettled=>by cases hunsettled.2
 | deleteSource=>
  simp only [decide_eq_true_eq] at hmatches
  obtain ⟨hkind,hstrategy,hstaged,hpublished⟩:=hmatches
  obtain ⟨hphase,hremoved⟩:=sound_sourceRemoved hsound hkind hstrategy hstaged hpublished
  cases hdeleted
  apply h.keeps
  · exact reworks_of_same h.sound hinside rfl rfl (.inl rfl)
  · exact hremoved
  · exact fun hcleanup=>absurd hcleanup hphase
  · exact id
 | cleanupOverwriteDestination=>
  simp only [decide_eq_true_eq] at hmatches
  obtain ⟨-,hevacuated,hpublished,-⟩:=hmatches
  cases hdeleted
  apply h.keeps
  · exact reworks_of_same h.sound hinside rfl rfl (.inr rfl)
  · exact sound_clearOverwrite hsound
  · intro hcleanup
    have hfinal:=hsound.restorable hcleanup hpublished
    simp [finalItem,hevacuated] at hfinal
  · exact fun hunsettled=>by cases hunsettled.1
 | none=>cases hdeleted
 | atomicMove=>cases hdeleted
 | stageSource=>cases hdeleted
 | reserveTemp=>cases hdeleted
 | streamTemp=>cases hdeleted
 | publishTemp=>cases hdeleted
 | restoreStagedSource=>cases hdeleted
 | evacuateOverwriteDestination=>cases hdeleted
 | restoreOverwriteDestination=>cases hdeleted

lemma wp_settleDelete (h:Engaged t index step) (hs:AllSound s) {result : OperationResult}:
 wp (fitting sha256) AllSound (StepEnds t) (settleDelete t index step result) s:=by
 unfold settleDelete
 split
 · apply wp_preserveUncertain h.sound hs
   · intro hnone
     exact absurd (h.active.symm.trans hnone) h.real
   · exact nofun
 · next applied happlied =>
   unfold applyDeleteSuccess at happlied
   split at happlied
   · cases happlied
   · split at happlied
     · cases happlied
     · next item' hdeleted =>
       cases happlied
       exact wp_persistCommitted (deleted_keeps h hdeleted) hs

lemma wp_submitDeleteStep (h:TransferSound t) (hcurrent:Current t index)
 (hworking:Working t.phase) (hreal:step≠.none)
 (hfits:itemStepMatches (beginStep t index step) (itemAt t index)=true) (hs:AllSound s):
 wp (fitting sha256) AllSound (StepEnds t) (submitDeleteStep t index step) s:=by
 apply wp_begin h hcurrent hworking hreal hfits hs
 intro s' hengaged hs'
 rw [wp_bind]
 apply wp_submitDelete hs'
 intro result hanswer
 split
 · exact wp_settleDelete hengaged hs'.all
 · next huncommitted =>
   exact wp_preserveResult hengaged.sound hs'.all (hengaged.active ▸ hengaged.real)
    (hanswer (by simpa using huncommitted))

/-- The published item whose staged source is to be deleted. -/
structure Deletable (t : FileTransferTransaction) (index : ℕ) : Prop where
 sound : TransferSound t
 current : Current t index
 working : Working t.phase
 idle : t.activeStep=.none
 fits : itemStepMatches (beginStep t index .deleteSource) (itemAt t index)=true

lemma Deletable.item (h:Deletable t index) : t.kind=.move ∧
 (itemAt t index).strategy=.moveStream ∧ (itemAt t index).sourceLocation=.staged ∧
  (itemAt t index).destinationState=.published:=by
 have hfits:=h.fits
 simp only [itemStepMatches,beginStep] at hfits
 exact of_decide_eq_true hfits

lemma Deletable.processing (h:Deletable t index) : t.phase≠.prepublishCleanup:=by
 obtain ⟨hkind,hstrategy,hstaged,hpublished⟩:=h.item
 exact (sound_sourceRemoved (sound_itemAt h.sound h.current.inside) hkind hstrategy hstaged
  hpublished).1

lemma sameObjectIdentity_valid {before after : SourceSnapshot}
 (h:sameObjectIdentity before.sourceRevisionUtf8 after.sourceRevisionUtf8=true):
 validSnapshot after=true:=by
 by_contra hempty
 simp only [validSnapshot,Bool.not_eq_true,decide_eq_false_iff_not,not_not] at hempty
 simp [sameObjectIdentity,hempty] at h

lemma sound_verified (h:Deletable t index) {e : SourceSnapshot}
 (hsize:(itemAt t index).contentBytes=e.sizeBytes)
 {result : FileTransferStreamResult}
 (hmatches:auditMatches (itemAt t index) e result=true)
 (hstrong:startsWith result.sourceSnapshot.sourceRevisionUtf8 winFile=false):
 ItemSound t.version t.kind t.phase
  (verifiedSource (itemAt t index) result.sourceSnapshot):=by
 have hitem:=sound_itemAt h.sound h.current.inside
 obtain ⟨hkind,hstrategy,hstaged,hpublished⟩:=h.item
 simp only [auditMatches,snapshotExactMatches,sameSnapshot,sameSourceRevision,
  decide_eq_true_eq] at hmatches
 obtain ⟨⟨hsame,-,-,-,hidentity⟩,⟨-,-,-,-,hself⟩,-⟩:=hmatches
 have hvalid:=sameObjectIdentity_valid hidentity
 have hidentity':stableObjectIdentity result.sourceSnapshot.sourceRevisionUtf8≠[]:=by
  simpa [validSnapshot] using hvalid
 refine ⟨hitem.overwrite,hitem.authorization,hitem.backup,hidentity',hvalid,?_,hstrong,
  hstrong,hitem.strongDestination,hitem.parents,hitem.strategy,?_,
  fun hcleanup=>absurd hcleanup h.processing,hitem.token⟩
 · simp [sourceSnapshotValid,verifiedSource,hstaged,sameObjectAfterRename,
    sameObjectIdentity_refl hidentity',timestampsWithinTolerance]
 · have hproof:=hitem.proof
   simp [destinationProofValid,verifiedSource,hpublished,hstrategy] at hproof ⊢
   exact ⟨hproof.1,hproof.2.1,hsize.trans hsame,hproof.2.2.2⟩

lemma identities_verified (h:Deletable t index) {e : SourceSnapshot}
 {result : FileTransferStreamResult}
 (hmatches:auditMatches (itemAt t index) e result=true)
 (hfits:AuditFits t e result):
 ((t.items.set index (verifiedSource (itemAt t index) result.sourceSnapshot)).map
  sourceIdentity).Nodup ∧
 ∀item∈t.items.set index (verifiedSource (itemAt t index) result.sourceSnapshot),
  snapshotEmpty item.overwriteDestinationSnapshot=true ∨
  stableObjectIdentity item.overwriteDestinationSnapshot.sourceRevisionUtf8 ∉
   (t.items.set index (verifiedSource (itemAt t index) result.sourceSnapshot)).map
    sourceIdentity:=by
 have hcursor:=h.current.index_eq
 have hinside:=h.current.inside
 have hcurrentItem:currentItem t=itemAt t index:=by rw [currentItem,hcursor]
 obtain ⟨-,hother,haliases⟩:=hfits (hcurrentItem ▸ hmatches)
 rw [hcursor] at hother
 constructor
 · by_cases hsame:stableObjectIdentity result.sourceSnapshot.sourceRevisionUtf8=
     sourceIdentity (itemAt t index)
   · have hidentity:sourceIdentity (verifiedSource (itemAt t index) result.sourceSnapshot)=
       sourceIdentity (itemAt t index) := hsame
     rw [sourceIdentities_set hinside hidentity]
     exact h.sound.identities
   · rw [List.map_set]
     apply h.sound.identities.set
     intro hmem
     obtain ⟨i,hi,heq⟩:=List.mem_iff_getElem.mp hmem
     have hi':i<t.items.length:=by simpa using hi
     rw [List.getElem_map] at heq
     by_cases hindex:i=index
     · subst hindex
       rw [itemAt_eq hinside] at hsame
       exact hsame heq.symm
     · exact hother i hi' hindex heq
 · have hold:∀item∈t.items,snapshotEmpty item.overwriteDestinationSnapshot=true ∨
     stableObjectIdentity item.overwriteDestinationSnapshot.sourceRevisionUtf8 ∉
      (t.items.set index (verifiedSource (itemAt t index) result.sourceSnapshot)).map
       sourceIdentity:=by
    intro item hmem
    obtain hempty | hnew:=haliases item hmem
    · exact .inl hempty
    · obtain hempty | hfree:=h.sound.aliases item hmem
      · exact .inl hempty
      · right
        intro hused
        rw [List.map_set] at hused
        obtain hused | hused:=List.mem_or_eq_of_mem_set hused
        · exact hfree hused
        · exact hnew hused
   intro item hmem
   obtain hmem | rfl:=List.mem_or_eq_of_mem_set hmem
   · exact hold item hmem
   · exact hold (itemAt t index) (by rw [itemAt_eq hinside]; exact List.getElem_mem hinside)

lemma Deletable.verified (h:Deletable t index) {e : SourceSnapshot}
 (hsize:(itemAt t index).contentBytes=e.sizeBytes)
 {result : FileTransferStreamResult}
 (hmatches:auditMatches (itemAt t index) e result=true)
 (hfits:AuditFits t e result):
 Deletable (setItem t index (verifiedSource (itemAt t index) result.sourceSnapshot)) index:=by
 have hinside:=h.current.inside
 have hcurrentItem:currentItem t=itemAt t index:=by
  rw [currentItem,h.current.index_eq]
 have hstrong:=(hfits (hcurrentItem ▸ hmatches)).1
 obtain ⟨hidentities,haliases⟩:=identities_verified h hmatches hfits
 have hrevises:Revises t
   (setItem t index (verifiedSource (itemAt t index) result.sourceSnapshot)) index
   (verifiedSource (itemAt t index) result.sourceSnapshot):=
  ⟨rfl,rfl,rfl,rfl,UInt32.le_refl _,h.sound.version,hidentities,haliases⟩
 have hitem:itemAt (setItem t index (verifiedSource (itemAt t index) result.sourceSnapshot))
   index=verifiedSource (itemAt t index) result.sourceSnapshot:=by
  rw [itemAt_eq (by simpa [setItem] using hinside)]
  simp [setItem]
 have hunfinished:finalItem t.kind (verifiedSource (itemAt t index) result.sourceSnapshot)=
   false:=h.current.unfinished
 refine ⟨?_,⟨by simpa [setItem] using hinside,?_,?_⟩,h.working,h.idle,?_⟩
 · apply h.sound.revise h.current hrevises (sound_verified h hsize hmatches hstrong)
   · exact .inl ⟨h.idle,(idle_of_none h.sound h.idle).2⟩
   · exact h.sound.cancelled
   · intro hsuccess
     exact h.sound.failure hsuccess
   · exact h.working.unprepared
   · have huncompleted:t.phase≠.completed:=h.working.uncompleted
     simp [setItem,huncompleted,hunfinished]
 · intro i hi hlt
   simp only [setItem,List.getElem_set_ne (Nat.ne_of_gt hlt)]
   exact h.current.before i _ hlt
 · rw [hitem]
   exact hunfinished
 · rw [hitem]
   exact h.fits

/-- Where nothing has ended, the staged source may be deleted now. -/
def Checked (t : FileTransferTransaction) (index : ℕ)
  (out : FileTransferTransaction × Option StepResult) (s : Handing) : Prop:=
 match out.2 with
 | none=>Deletable out.1 index ∧ (out.1.phase = t.phase ∧ (Settled t → Settled out.1)) ∧
   Holds out.1 s
 | some result=>StepEnds t (out.1,result) s

lemma wp_ended {step : TransferStep} (hstep:wp (fitting sha256) AllSound (StepEnds t) step s):
 wp (fitting sha256) AllSound (Checked t index) (ended step) s:=by
 rw [ended,wp_bind]
 apply wp_consequence hstep
 intro out s' hall hout
 exact ⟨hall,hout⟩

lemma wp_keptUncertain (h:Deletable t index) (hs:AllSound s) {status : OperationStatus}
 (hfailure:status≠.success) {detail : Bytes}:
 wp (fitting sha256) AllSound (StepEnds t₀) (preserveUncertain t status .none detail) s:=
 wp_preserveUncertain h.sound hs (fun _=>rfl) fun hsuccess=>absurd hsuccess hfailure

lemma wp_settleSourceAudit (h:Deletable t' index)
 (hsame:t'.phase=t.phase ∧ (Settled t → Settled t')) (hs:Holds t' s) {result : FileTransferStreamResult}:
 wp (fitting sha256) AllSound (Checked t index) (settleSourceAudit t' result) s:=by
 unfold settleSourceAudit
 split
 · next hfailed =>
   have hfailure:result.status≠.success:=by
    simpa [FileTransferStreamResult.ok] using hfailed
   exact wp_ended (wp_keptUncertain h hs.all hfailure)
 · rw [wp_bind]
   apply wp_stopRequested hs.all
   intro stopped
   cases stopped with
   | true=>exact ⟨hs.all,stepEnds_other nofun nofun⟩
   | false=>exact ⟨hs.all,h,hsame,hs⟩

lemma wp_acknowledged (h:Deletable t' index)
 (hsame:t'.phase=t.phase ∧ (Settled t → Settled t')) (hs:Holds t' s)
 {request : FileTransferStreamRequest} {outcome : FileTransferAuditCommitOutcome}:
 wp (fitting sha256) AllSound (Checked t index)
  (do
   let result ← acknowledgeAudit request outcome
   settleSourceAudit t' result) s:=by
 rw [wp_bind]
 apply wp_acknowledgeAudit hs.all
 intro result
 exact wp_settleSourceAudit h hsame hs

lemma wp_auditStagedSource (h:Deletable t index) (hs:Holds t s) {observed : SourceSnapshot}
 (hsize:(itemAt t index).contentBytes=observed.sizeBytes):
 wp (fitting sha256) AllSound (Checked t index) (auditStagedSource t index observed) s:=by
 have hrejected:OperationStatus.ioError≠.success:=nofun
 rw [auditStagedSource,wp_bind]
 apply wp_submitAudit hs
 · exact wp_ended (wp_keptUncertain h hs.all hrejected)
 · intro result
   exact wp_settleSourceAudit h ⟨rfl,id⟩ hs
 · intro result hfits
   rw [wp_bind]
   unfold commitSourceAudit
   split
   · exact ⟨hs.all,wp_acknowledged h ⟨rfl,id⟩ hs⟩
   · next hmatches =>
     rw [not_not] at hmatches
     have hverified:=h.verified hsize hmatches hfits
     rw [wp_bind]
     apply wp_persist hverified.sound hs.all
     · intro s' hs' _
       have hsettled:=settled_set (setItem t index
        (verifiedSource (itemAt t index) result.sourceSnapshot)) h.current.inside rfl id
       exact ⟨hs'.all,wp_acknowledged (t := t) hverified ⟨rfl,hsettled⟩ hs'⟩
     · intro detail s' hs' hcurrent _
       exact ⟨hs',wp_acknowledged h ⟨rfl,id⟩ ⟨hs',hcurrent.trans hs.current⟩⟩

lemma wp_refreshStagedSource (index : ℕ) (h:Deletable t index) (hs:Holds t s):
 wp (fitting sha256) AllSound (Checked t index) (refreshStagedSourceForDelete t index) s:=by
 rw [refreshStagedSourceForDelete,wp_bind]
 apply wp_stopRequested hs.all
 intro stopped
 cases stopped with
 | true=>exact ⟨hs.all,stepEnds_other nofun nofun⟩
 | false=>
  simp only [Bool.false_eq_true,if_false]
  rw [wp_bind,probeStagedSource,wp_bind]
  apply wp_submitDelete hs
  intro result _
  have hprobed:∀observed : ProbeResult, wp (fitting sha256) AllSound (Checked t index)
     (if snapshotExactMatches (itemAt t index).currentSourceSnapshot observed.snapshot then
      pure (t,none)
     else if (itemAt t index).currentSourceSnapshot.sizeBytes≠observed.snapshot.sizeBytes ∨
       ¬sameObjectIdentity (itemAt t index).currentSourceSnapshot.sourceRevisionUtf8
        observed.snapshot.sourceRevisionUtf8 ∨
       ¬(itemAt t index).contentProofPresent ∨
       (itemAt t index).contentBytes≠observed.snapshot.sizeBytes then
      ended (preserveUncertain t
       (if observed.status=.success then .sourceChanged else observed.status) .none
       (if observed.detailUtf8=[] then sourceChangedDetail else observed.detailUtf8))
     else auditStagedSource t index observed.snapshot) s:=by
   intro observed
   split
   · exact ⟨hs.all,h,⟨rfl,id⟩,hs⟩
   · split
     · apply wp_ended (wp_keptUncertain h hs.all _)
       split
       · exact nofun
       · next hfailed => exact hfailed
     · next hsame =>
       simp only [not_or,not_not] at hsame
       exact wp_auditStagedSource h hs hsame.2.2.2
  split
  · exact ⟨hs.all,hprobed _⟩
  · exact ⟨hs.all,hprobed _⟩

lemma wp_executeDeleteStep (h:TransferSound t) (hcurrent:Current t index)
 (hworking:Working t.phase) (hidle:t.activeStep=.none) (hreal:step≠.none)
 (hfits:itemStepMatches (beginStep t index step) (itemAt t index)=true) (hs:Holds t s):
 wp (fitting sha256) AllSound (StepEnds t) (executeDeleteStep t index step) s:=by
 unfold executeDeleteStep
 split
 · next hstep =>
   subst hstep
   rw [wp_bind]
   apply wp_consequence
    (wp_refreshStagedSource index ⟨h,hcurrent,hworking,hidle,hfits⟩ hs)
   rintro ⟨refreshed,decided⟩ s' hall hchecked
   cases decided with
   | some result=>exact ⟨hall,hchecked⟩
   | none=>
    obtain ⟨hready,⟨hphase,hsettled⟩,hs'⟩:=hchecked
    simp only at hready hphase hsettled hs'
    rw [wp_bind]
    apply wp_stopRequested hall
    intro stopped
    cases stopped with
    | true=>exact ⟨hall,stepEnds_other nofun nofun⟩
    | false=>
     apply wp_consequence (wp_submitDeleteStep hready.sound hready.current hready.working
      hreal hready.fits hall)
     intro out s'' _ hout
     apply stepEnds_of_same hout hsettled hphase
     rw [hready.current.index_eq,hcurrent.index_eq]
 · exact wp_submitDeleteStep h hcurrent hworking hreal hfits hs.all

lemma wp_recoverDeleteStep (h:Engaged t index step) (hs:Holds t s):
 wp (fitting sha256) AllSound (StepEnds t) (recoverDeleteStep t index step) s:=by
 rw [recoverDeleteStep,wp_bind]
 apply wp_submitDelete hs
 intro result hfits
 split
 · exact wp_settleDelete h hs.all
 · next huncommitted =>
   split
   · next hunknown =>
     exact wp_preserveResult h.sound hs.all (h.active ▸ h.real)
      (hfits (by simpa using huncommitted) (by simpa using hunknown))
   · obtain ⟨hcurrent,hworking,hagain⟩:=begins_again h (.inl rfl)
     have hcleared:=sound_clearActive h.sound
     apply wp_persistThen hcleared hs.all
     intro s' hs' _
     split
     · exact ⟨hs'.all,fun _=>⟨hs',hcleared,id,h.working.unprepared,Iff.rfl,
        fun _=>rfl⟩,nofun⟩
     · apply wp_consequence
        (wp_executeDeleteStep hcleared hcurrent hworking rfl h.real hagain hs')
       intro out s'' _ hout
       exact stepEnds_of_same hout id rfl rfl

end Deletes

section Streams
variable {step : FileTransferStep}

/-- The transaction works on another state of its current item. -/
structure Engages (t t' : FileTransferTransaction) (index : ℕ) (item' : FileTransferItem)
  (step : FileTransferStep) : Prop where
 operationId : t'.operationId=t.operationId
 kind : t'.kind=t.kind
 items : t'.items=t.items.set index item'
 version : t'.version=t.version
 phase : t'.phase=t.phase
 cancelled : t'.cancelled=t.cancelled
 step : t'.activeStep=step
 index : t'.activeIndex.toNat=index
 failure : FailureSound t'

lemma engages_item (hengages:Engages t t' index item' step) (hinside:index<t.items.length):
 itemAt t' index=item':=by
 rw [itemAt_eq (by simpa [hengages.items] using hinside)]
 simp [hengages.items]

lemma engaged_of_engages (h:TransferSound t) (hcurrent:Current t index)
  (hworking:Working t.phase) (hreworks:Reworks t index item')
  (hengages:Engages t t' index item' step)
  (hsound:ItemSound t.version t.kind t.phase item') (hreal:step≠.none)
  (hunfinished:finalItem t.kind item'=false)
  (hfits:itemStepMatches t' item'=true) : Engaged t' index step where
 sound:=by
  have hversion:t.version≤t'.version:=by
   rw [hengages.version]
   exact UInt32.le_refl _
  have hknown:validTransactionVersion t'.version=true:=by
   rw [hengages.version]
   exact h.version
  apply h.revise hcurrent (hreworks.revises h hcurrent.inside hengages.operationId hengages.kind
   hengages.items hversion hknown)
  · rw [hengages.version,hengages.phase]
    exact hsound
  · refine .inr ⟨hengages.step ▸ hreal,hengages.index,hfits,?_,?_⟩
    · rw [hengages.kind]
      exact hunfinished
    · rw [hengages.phase]
      exact hworking.uncompleted
  · rw [hengages.cancelled,hengages.version,hengages.phase]
    exact h.cancelled
  · exact hengages.failure
  · rw [hengages.phase]
    exact hworking.unprepared
  · simp [hengages.phase,hworking.uncompleted,hunfinished]
 current:=by
  have hinside:=hcurrent.inside
  refine ⟨by simpa [hengages.items] using hinside,?_,?_⟩
  · rw [hengages.kind]
    intro i hi hlt
    simp only [hengages.items,List.getElem_set_ne (Nat.ne_of_gt hlt)]
    exact hcurrent.before i _ hlt
  · rw [engages_item hengages hinside,hengages.kind]
    exact hunfinished
 active:=hengages.step
 real:=hreal
 fits:=by
  rw [engages_item hengages hcurrent.inside]
  exact hfits
 working:=by
  rw [hengages.phase]
  exact hworking

/-- What a stream step needs: no object at the destination yet, and the right to make one. -/
structure Streams (t : FileTransferTransaction) (index : ℕ) : Prop where
 sound : TransferSound t
 current : Current t index
 working : Working t.phase
 streamable : Streamable t.kind (itemAt t index)
 state : (itemAt t index).destinationState=.absent ∨
  (itemAt t index).destinationState=.tempReserved

structure Streaming (t : FileTransferTransaction) (index : ℕ) (step : FileTransferStep):
  Prop where
 engaged : Engaged t index step
 streamable : Streamable t.kind (itemAt t index)
 token : tokenEmpty (itemAt t index).requestToken=false
 state : step=.reserveTemp ∧ (itemAt t index).destinationState=.absent ∨
  step=.streamTemp ∧ (itemAt t index).destinationState=.tempReserved

lemma Streaming.unpublished (h:Streaming t index step):
 (itemAt t index).destinationState≠.published:=by
 obtain ⟨-,hstate⟩ | ⟨-,hstate⟩:=h.state
 · simp [hstate]
 · simp [hstate]

lemma begun_reserve (h:Streams t index) (habsent:(itemAt t index).destinationState=.absent)
 (token : RequestToken) (htoken:tokenEmpty token=false):
 Streaming (beginStep (setItem t index { itemAt t index with requestToken:=token }) index
  .reserveTemp) index .reserveTemp:=by
 have hinside:=h.current.inside
 have hitem:=sound_itemAt h.sound hinside
 have hengages:Engages t (beginStep (setItem t index
   { itemAt t index with requestToken:=token }) index .reserveTemp) index
   { itemAt t index with requestToken:=token } .reserveTemp:=
  ⟨rfl,rfl,rfl,rfl,rfl,rfl,rfl,toNat_ofNat_index h.sound hinside,
   fun hsuccess=>⟨rfl,(h.sound.failure hsuccess).2⟩⟩
 have hat:=engages_item hengages hinside
 have hstreamed:=streamed_of_streamable hitem.strategy h.streamable
 have hready:t.kind=.copy ∨ (itemAt t index).sourceLocation=.staged:=by
  obtain hcopy | ⟨-,-,hstaged⟩:=h.streamable
  · exact .inl hcopy
  · exact .inr hstaged
 refine ⟨?_,by rw [hat]; exact h.streamable,by rw [hat]; exact htoken,
  .inl ⟨rfl,by rw [hat]; exact habsent⟩⟩
 have hreworks:Reworks t index { itemAt t index with requestToken:=token }:=
  reworks_of_same h.sound hinside rfl rfl (.inl rfl)
 apply engaged_of_engages h.sound h.current h.working hreworks hengages
 · exact sound_requestToken hitem habsent token
 · exact nofun
 · exact h.current.unfinished
 · simp only [itemStepMatches,beginStep]
   exact decide_eq_true ⟨hstreamed,habsent,by simp [htoken],hready⟩

lemma token_of_reserved (h:Streams t index)
 (hreserved:(itemAt t index).destinationState=.tempReserved):
 tokenEmpty (itemAt t index).requestToken=false:=by
 have hitem:=sound_itemAt h.sound h.current.inside
 exact hitem.token (streamed_of_streamable hitem.strategy h.streamable) (by simp [hreserved])

lemma begun_resume (h:Streams t index)
 (hreserved:(itemAt t index).destinationState=.tempReserved):
 Streaming (beginStep t index .streamTemp) index .streamTemp:=by
 have hitem:=sound_itemAt h.sound h.current.inside
 have htoken:=token_of_reserved h hreserved
 have hreal:FileTransferStep.streamTemp≠.none:=nofun
 refine ⟨?_,h.streamable,htoken,.inr ⟨rfl,hreserved⟩⟩
 apply engaged_of_begin h.sound h.current h.working hreal
 simp only [itemStepMatches,beginStep]
 exact decide_eq_true ⟨streamed_of_streamable hitem.strategy h.streamable,hreserved⟩

lemma wp_settleStream (h:Streaming t index step) (hs:AllSound s)
 {result : FileTransferStreamResult} (hfits:StreamResultFits t result):
 wp (fitting sha256) AllSound (StepEnds t) (settleStream t index result) s:=by
 have hsound:=h.engaged.sound
 have hcurrent:=h.engaged.current
 have hinside:=hcurrent.inside
 have hitem:=sound_itemAt hsound hinside
 simp only [settleStream]
 rw [StreamResultFits,h.engaged.currentItem] at hfits
 split
 · next hmatches =>
   rw [if_pos hmatches] at hfits
   obtain ⟨hstrong,hvalid,hsize⟩:=hfits
   simp only [streamMatches,decide_eq_true_eq] at hmatches
   have hreworks:Reworks t index (streamedItem (itemAt t index) result):=
    reworks_of_same hsound hinside rfl rfl (.inl rfl)
   have hunfinished:finalItem t.kind (streamedItem (itemAt t index) result)=false:=
    unfinished_of_unpublished nofun
   apply wp_persistCommitted _ hs
   refine ⟨?_,settled_set _ hinside rfl (fun hunsettled=>nomatch hunsettled.2),
    h.engaged.working.unprepared,Iff.rfl,fun _=>?_⟩
   · apply sound_rests hsound hcurrent hreworks
     · exact ⟨rfl,rfl,rfl,UInt32.le_refl _,hsound.version,⟨rfl,rfl,rfl⟩,
        h.engaged.working,hsound.cancelled,fun _=>⟨rfl,rfl,rfl⟩⟩
     · exact sound_streamed hitem h.streamable h.token hmatches.2.2.2.2 hstrong hvalid hsize
     · exact hunfinished
   · rw [hcurrent.index_eq]
     exact cursor_kept hsound hcurrent rfl rfl hunfinished
 · next hmatches =>
   rw [if_neg hmatches] at hfits
   have hidle:t.activeStep=.none → result.evidence=.none:=
    fun hnone=>absurd (h.engaged.active.symm.trans hnone) h.engaged.real
   rw [wp_bind]
   apply wp_stopRequested hs
   intro stopped
   split
   · exact wp_preserveUncertain hsound hs hidle fun hsuccess=>absurd hsuccess hfits
   · split
     · exact wp_stepEnds (wp_turnBack hsound hcurrent h.unpublished hs
        fun hsuccess=>absurd hsuccess hfits)
     · exact wp_preserveUncertain hsound hs hidle fun hsuccess=>absurd hsuccess hfits

lemma reserved_streaming (h:Streaming t index .reserveTemp)
 {r : FileTransferReservation}
 (htoken:(itemAt t index).requestToken=r.requestToken)
 (hfits:ReservationFits t r):
 Streaming { setItem t index (reservedItem (itemAt t index) r) with
  activeStep:=.streamTemp,activeEvidence := .none } index .streamTemp:=by
 have hsound:=h.engaged.sound
 have hcurrent:=h.engaged.current
 have hinside:=hcurrent.inside
 have hitem:=sound_itemAt hsound hinside
 have habsent:(itemAt t index).destinationState=.absent:=by
  obtain ⟨-,habsent⟩ | ⟨hstep,-⟩:=h.state
  · exact habsent
  · cases hstep
 have hstreamed:=streamed_of_streamable hitem.strategy h.streamable
 rw [ReservationFits,h.engaged.currentItem] at hfits
 obtain ⟨hstrong,hvalid,hparent⟩:=hfits htoken.symm
 have hindex:t.activeIndex.toNat=index:=by
  have hcursor:=hsound.cursor (by rw [h.engaged.active]; exact nofun)
  rw [hcursor,firstNonFinal_eq (by rw [hcurrent.index_eq]; exact hinside),hcurrent.index_eq]
 have hengages:Engages t { setItem t index (reservedItem (itemAt t index) r) with
   activeStep:=.streamTemp,activeEvidence := .none } index
   (reservedItem (itemAt t index) r) .streamTemp:=
  ⟨rfl,rfl,rfl,rfl,rfl,rfl,rfl,hindex,
   fun hsuccess=>⟨rfl,(hsound.failure hsuccess).2⟩⟩
 have hat:=engages_item hengages hinside
 have hreworks:Reworks t index (reservedItem (itemAt t index) r):=
  reworks_of_same hsound hinside rfl rfl (.inl rfl)
 refine ⟨?_,by rw [hat]; exact h.streamable,by rw [hat]; exact h.token,
  .inr ⟨rfl,by rw [hat]; rfl⟩⟩
 apply engaged_of_engages hsound hcurrent h.engaged.working hreworks hengages
 · exact sound_reserved hitem h.streamable h.token habsent hstrong hvalid hparent
 · exact nofun
 · exact unfinished_of_unpublished nofun
 · simp only [itemStepMatches]
   exact decide_eq_true ⟨hstreamed,rfl⟩

def Committed (t : FileTransferTransaction) (index : ℕ) (out : FileTransferTransaction × Bool)
  (s : Handing) : Prop:=
 Holds out.1 s ∧ out.1.phase = t.phase ∧ (Settled t → Settled out.1) ∧
  ∃ step,Streaming out.1 index step

lemma wp_commitReservation (h:Streaming t index step) (hs:Holds t s)
 {mode : FileTransferStreamMode} (hmode:step=.reserveTemp → mode=.reserveNew)
 {r : FileTransferReservation}
 (hfits:mode=.reserveNew → ReservationFits t r):
 wp (fitting sha256) AllSound (Committed t index) (commitReservation t index mode r)
  s:=by
 have hsame:∀accepted,Committed t index (t,accepted) s:=fun _=>⟨hs,rfl,id,step,h⟩
 simp only [commitReservation]
 split
 · exact ⟨hs.all,hsame _⟩
 · next htoken =>
   rw [not_not] at htoken
   split
   · exact ⟨hs.all,hsame _⟩
   · split
     · exact ⟨hs.all,hsame _⟩
     · next hreserve =>
       simp only [not_or,not_not] at hreserve
       have hstep:step=.reserveTemp:=h.engaged.active.symm.trans hreserve.1
       subst hstep
       have hstreaming:=reserved_streaming h htoken (hfits (hmode rfl))
       rw [wp_bind]
       apply wp_persist hstreaming.engaged.sound hs.all
       · intro s' hs' _
         exact ⟨hs'.all,hs',rfl,settled_set _ h.engaged.current.inside rfl
          (fun hunsettled=>nomatch hunsettled.2),_,hstreaming⟩
       · intro detail s' hs' hcurrent _
         exact ⟨hs',⟨hs',hcurrent.trans hs.current⟩,rfl,id,_,h⟩

lemma wp_streamBegun {begun : FileTransferTransaction} (hcurrent:Current t index)
 (h:Streaming begun index step) (hphase:begun.phase=t.phase)
 (hsettled:Settled t → Settled begun) {mode : FileTransferStreamMode} (hmode:step=.reserveTemp → mode=.reserveNew)
 (hreal:mode≠.probeReservation) (hs:AllSound s):
 wp (fitting sha256) AllSound (StepEnds t)
  (persistThen begun .none do
   match ← submitStream (streamRequest begun index mode) with
   | .rejected=>
    preserveUncertain begun .ioError .none
     (utf8 "file-transfer service rejected the stream step")
   | .finished result=>settleStream begun index result
   | .reserved r=>
    let (committed,accepted) ← commitReservation begun index mode r
    let result ←
     acknowledgeReservation (streamRequest begun index mode) r accepted
    settleStream committed index result) s:=by
 have hends:∀ {t' : FileTransferTransaction} {out : FileTransferTransaction × StepResult}
   {s' : Handing},Current t' index → t'.phase=t.phase → (Settled t → Settled t') →
   StepEnds t' out s' → StepEnds t out s':=by
  intro t' out s' hnow hsame hkept hout
  exact stepEnds_of_same hout hkept hsame (by rw [hnow.index_eq,hcurrent.index_eq])
 apply wp_persistThen h.engaged.sound hs
 intro s' hs' _
 rw [wp_bind]
 apply wp_submitStream hs'
 · exact wp_preserveUncertain h.engaged.sound hs'.all (fun _=>rfl) nofun
 · intro result hfits
   apply wp_consequence (wp_settleStream h hs'.all (hfits hreal))
   intro out _ _ hout
   exact hends h.engaged.current hphase hsettled hout
 · intro r hfits
   rw [wp_bind]
   apply wp_consequence (wp_commitReservation h hs' hmode hfits)
   rintro ⟨committed,accepted⟩ s'' hall ⟨hs'',hcommitted,hkept,step',hstreaming⟩
   rw [wp_bind]
   apply wp_acknowledgeReservation hs''
   intro result _ hanswer
   apply wp_consequence (wp_settleStream hstreaming hall (hanswer hreal))
   intro out _ _ hout
   exact hends hstreaming.engaged.current (hcommitted.trans hphase)
    (fun hold=>hkept (hsettled hold)) hout

lemma wp_executeStreamStep (h:Streams t index) (hs:AllSound s):
 wp (fitting sha256) AllSound (StepEnds t) (executeStreamStep t index) s:=by
 simp only [executeStreamStep,beginStream]
 obtain habsent | hreserved:=h.state
 · have hmode:streamMode (itemAt t index)=.reserveNew:=by
    simp [streamMode,habsent]
   rw [hmode,wp_bind,if_pos rfl,wp_bind]
   apply wp_randomDevice hs
   intro random
   have hstreaming:=begun_reserve h habsent _ (newRequestToken_nonempty t index random)
   have hsettled:=settled_set (beginStep (setItem t index { itemAt t index with
    requestToken:=newRequestToken t index random }) index .reserveTemp) h.current.inside rfl id
   exact ⟨hs,wp_streamBegun h.current hstreaming rfl hsettled (fun _=>rfl) nofun hs⟩
 · have hmode:streamMode (itemAt t index)=.resumeExisting:=by
    simp [streamMode,hreserved]
   rw [hmode,wp_bind,if_neg nofun]
   exact ⟨hs,wp_streamBegun h.current (begun_resume h hreserved) rfl id nofun nofun hs⟩

end Streams

/-- What a probe may say of a temporary object that was never acknowledged. -/
def MarkerFound (t : FileTransferTransaction) (probe : ReservationMarkerProbe) : Prop:=
 probe.owned = true → startsWith probe.file.snapshot.sourceRevisionUtf8 winFile = false ∧
  validSnapshot probe.file.snapshot = true ∧ Streamable t.kind (currentItem t)

lemma wp_probeReservation (hs:Holds t s) {post : ReservationMarkerProbe → Handing → Prop}
 (hpost:∀probe,MarkerFound t probe → post probe s):
 wp (fitting sha256) AllSound post (probeReservation sha256 t index) s:=by
 have hunowned:∀file,MarkerFound t ⟨file,false⟩:=fun _ howned=>nomatch howned
 rw [probeReservation,wp_bind]
 apply wp_submitStream hs
 · exact ⟨hs.all,hpost _ (hunowned _)⟩
 · intro result _
   exact ⟨hs.all,hpost _ (hunowned _)⟩
 · intro r _
   rw [wp_bind]
   apply wp_acknowledgeReservation hs
   intro result hanswer _
   split
   · exact ⟨hs.all,hpost _ (hunowned _)⟩
   · split
     · exact ⟨hs.all,hpost _ (hunowned _)⟩
     · next hok =>
       rw [not_not] at hok
       exact ⟨hs.all,hpost _ fun howned=>hanswer rfl hok howned⟩

def TempFound (t : FileTransferTransaction) (observed : ProbeResult) : Prop:=
 tempRecognized (currentItem t) observed = true →
  startsWith observed.snapshot.sourceRevisionUtf8 winFile = false ∧
   validSnapshot observed.snapshot = true

lemma tempFound_nothing {observed : ProbeResult} (h:observed.snapshot.sourceRevisionUtf8=[]):
 TempFound t observed:=by
 intro hrecognized
 simp [tempRecognized,h,sameObjectIdentity,stableObjectIdentity_nil] at hrecognized

lemma wp_probeTemp (hs:Holds t s) {post : ProbeResult → Handing → Prop}
 (hpost:∀observed,TempFound t observed → post observed s):
 wp (fitting sha256) AllSound post (probeTemp t index) s:=by
 rw [probeTemp,wp_bind]
 apply wp_submitDelete hs
 intro result hfits
 split
 · exact ⟨hs.all,hpost _ (tempFound_nothing rfl)⟩
 · split
   · next hpresent =>
     refine ⟨hs.all,hpost _ fun hrecognized=>?_⟩
     simp only [tempRecognized,decide_eq_true_eq] at hrecognized
     exact ⟨hfits hpresent.1 hrecognized.2,decide_eq_true hpresent.2⟩
   · exact ⟨hs.all,hpost _ (tempFound_nothing rfl)⟩

lemma probeStatus_failed (probe : ProbeResult) : probeStatus probe≠.success:=by
 unfold probeStatus
 split
 · exact nofun
 · next hfailed => exact hfailed

lemma reserving_of_engaged (h:Engaged t index .reserveTemp):
 Streamable t.kind (itemAt t index) ∧ (itemAt t index).destinationState=.absent ∧
  tokenEmpty (itemAt t index).requestToken=false:=by
 have hmatches:=h.fits
 simp only [itemStepMatches,h.active,decide_eq_true_eq] at hmatches
 obtain ⟨hstreamed,habsent,htoken,hready⟩:=hmatches
 have hlocations:=(sound_itemAt h.sound h.current.inside).strategy
 refine ⟨?_,habsent,by simpa using htoken⟩
 obtain hcopy | hstaged:=hready
 · exact .inl hcopy
 · cases hkind:t.kind with
   | copy=>exact .inl rfl
   | move=>
    rw [hkind] at hlocations
    simp only [streamedStrategy,decide_eq_true_eq] at hstreamed
    obtain hcopy | hmove:=hstreamed
    · simp [strategyAndLocationsValid,hcopy] at hlocations
    · exact .inr ⟨rfl,hmove,hstaged⟩

lemma streaming_of_engaged (h:Engaged t index .streamTemp):
 Streamable t.kind (itemAt t index) ∧ (itemAt t index).destinationState=.tempReserved ∧
  tokenEmpty (itemAt t index).requestToken=false:=by
 have hmatches:=h.fits
 simp only [itemStepMatches,h.active,decide_eq_true_eq] at hmatches
 obtain ⟨hstreamed,hreserved⟩:=hmatches
 have hitem:=sound_itemAt h.sound h.current.inside
 exact ⟨streamable_of_temp hitem.strategy (.inl hreserved),hreserved,
  hitem.token hstreamed (by simp [hreserved])⟩

lemma streams_afresh {step : FileTransferStep} (h:Engaged t index step)
 (hreworks:Reworks t index item')
 (hsound:ItemSound t.version t.kind t.phase item') (hstreamable:Streamable t.kind item')
 (habsent:item'.destinationState=.absent):
 Streams (clearFailure (clearActive (setItem t index item'))) index:=by
 have hinside:=h.current.inside
 have hunfinished:finalItem t.kind item'=false:=unfinished_of_unpublished (by simp [habsent])
 have hat:itemAt (clearFailure (clearActive (setItem t index item'))) index=item':=by
  rw [itemAt_eq (by simpa [clearFailure,clearActive,setItem] using hinside)]
  simp [clearFailure,clearActive,setItem]
 have hafresh:TransferSound (clearFailure (clearActive (setItem t index item'))):=by
  apply sound_rests h.sound h.current hreworks
  · exact ⟨rfl,rfl,rfl,UInt32.le_refl _,h.sound.version,⟨rfl,rfl,rfl⟩,h.working,
     h.sound.cancelled,fun _=>⟨rfl,rfl,rfl⟩⟩
  · exact hsound
  · exact hunfinished
 have hcursor:completedPrefix (clearFailure (clearActive (setItem t index item')))=index:=
  cursor_kept h.sound h.current rfl rfl hunfinished
 have hcurrent:=current_of_phase hafresh h.working.uncompleted
 rw [hcursor] at hcurrent
 exact ⟨hafresh,hcurrent,h.working,by rw [hat]; exact hstreamable,
  .inl (by rw [hat]; exact habsent)⟩

lemma wp_streamAfresh (h:Current t index) (hstreams:Streams cleared index)
 (hphase:cleared.phase=t.phase) (hsettled:Settled t → Settled cleared) (hs:AllSound s)
 {evidence : OperationEvidence}:
 wp (fitting sha256) AllSound (StepEnds t)
  (persistThen cleared evidence (executeStreamStep cleared index)) s:=by
 apply wp_persistThen hstreams.sound hs
 intro s' hs' _
 apply wp_consequence (wp_executeStreamStep hstreams hs'.all)
 intro out _ _ hout
 exact stepEnds_of_same hout hsettled hphase (by rw [hstreams.current.index_eq,h.index_eq])

lemma wp_recoverReservation (h:Engaged t index .reserveTemp) (hs:Holds t s):
 wp (fitting sha256) AllSound (StepEnds t) (recoverReservation sha256 t index) s:=by
 have hinside:=h.current.inside
 have hitem:=sound_itemAt h.sound hinside
 obtain ⟨hstreamable,habsent,htoken⟩:=reserving_of_engaged h
 rw [recoverReservation,wp_bind]
 apply wp_probeReservation hs
 intro r hfound
 split
 · have hreworks:Reworks t index { itemAt t index with requestToken:=.zero _ }:=
    reworks_of_same h.sound hinside rfl rfl (.inl rfl)
   have hstreams:=streams_afresh h hreworks (sound_requestToken hitem habsent _) hstreamable
    habsent
   exact wp_streamAfresh h.current hstreams rfl (settled_set _ hinside rfl id) hs.all
 · split
   · next howned =>
     obtain ⟨hstrong,hvalid,-⟩:=hfound howned.2
     have hreworks:Reworks t index { itemAt t index with
       destinationSnapshot:=r.file.snapshot,destinationState := .tempReserved }:=
      reworks_of_same h.sound hinside rfl rfl (.inl rfl)
     have hreserved:=sound_tempReserved hitem hstreamable htoken hstrong hvalid
      (noContent_of_absent hitem.proof habsent)
     exact wp_stepEnds (wp_enterCleanup (sound_enterCleanup h.sound h.current hreworks
      (UInt32.le_refl _) h.sound.version hreserved nofun
      (fun hcancelled=>(h.sound.cancelled hcancelled).1) nofun) hs.all)
   · exact wp_preserveUncertain h.sound hs.all (fun _=>rfl)
      fun hsuccess=>absurd hsuccess (probeStatus_failed _)

lemma wp_recoverStream (h:Engaged t index .streamTemp) (hs:Holds t s):
 wp (fitting sha256) AllSound (StepEnds t) (recoverStream t index) s:=by
 have hinside:=h.current.inside
 have hitem:=sound_itemAt h.sound hinside
 obtain ⟨hstreamable,hreserved,htoken⟩:=streaming_of_engaged h
 rw [recoverStream,wp_bind]
 apply wp_probeTemp hs
 intro observed hfound
 rw [TempFound,h.currentItem] at hfound
 split
 · have hreworks:Reworks t index (clearDestinationProof (itemAt t index)):=
    reworks_of_same h.sound hinside rfl rfl (.inl rfl)
   have hstreams:=streams_afresh h hreworks (sound_clearDestinationProof hitem hstreamable)
    hstreamable rfl
   have hsettled:=settled_set (setItem t index
    (clearDestinationProof (itemAt t index))) hinside rfl fun hunsettled=>nomatch hunsettled.2
   exact wp_streamAfresh h.current hstreams rfl hsettled hs.all
 · split
   · exact wp_preserveUncertain h.sound hs.all (fun _=>rfl)
      fun hsuccess=>absurd hsuccess (probeStatus_failed _)
   · next hrecognized =>
     rw [not_not] at hrecognized
     obtain ⟨hstrong,hvalid⟩:=hfound hrecognized
     have hindex:t.activeIndex.toNat=index:=by
      rw [h.sound.cursor (by rw [h.active]; exact nofun),firstNonFinal_eq
       (by rw [h.current.index_eq]; exact hinside),h.current.index_eq]
     have hreworks:Reworks t index
       { itemAt t index with destinationSnapshot:=observed.snapshot }:=
      reworks_of_same h.sound hinside rfl rfl (.inl rfl)
     have hengages:Engages t (seenTemp t index observed.snapshot) index
       { itemAt t index with destinationSnapshot:=observed.snapshot } .streamTemp:=
      ⟨rfl,rfl,rfl,rfl,rfl,rfl,h.active,hindex,fun _=>⟨rfl,rfl,rfl⟩⟩
     have hat:=engages_item hengages hinside
     have hseen:Engaged (seenTemp t index observed.snapshot) index .streamTemp:=by
      apply engaged_of_engages h.sound h.current h.working hreworks hengages
      · exact sound_seen hitem hreserved hstrong hvalid
      · exact nofun
      · exact h.current.unfinished
      · have hsame:∀item,itemStepMatches (seenTemp t index observed.snapshot) item=
          itemStepMatches t item := itemStepMatches_congr rfl rfl rfl rfl
        have hmatches:=h.fits
        rw [hsame]
        simp only [itemStepMatches,h.active] at hmatches ⊢
        exact hmatches
     have hstreams:Streams (seenTemp t index observed.snapshot) index:=
      ⟨hseen.sound,hseen.current,h.working,by rw [hat]; exact hstreamable,
       .inr (by rw [hat]; exact hreserved)⟩
     exact wp_streamAfresh h.current hstreams rfl (settled_set _ hinside rfl id) hs.all

lemma wp_recoverActiveStep (h:TransferSound t) (hreal:t.activeStep≠.none)
 (hs:Holds t s):
 wp (fitting sha256) AllSound (StepEnds t) (recoverActiveStep sha256 canAsk t) s:=by
 have hengaged:=engaged_of_active h hreal
 simp only [recoverActiveStep]
 cases hstep:t.activeStep with
 | none=>exact absurd hstep hreal
 | atomicMove=>
  exact wp_recoverRenameStep (hstep ▸ hengaged) hs ⟨nofun,nofun⟩
 | stageSource=>
  exact wp_recoverRenameStep (hstep ▸ hengaged) hs ⟨nofun,nofun⟩
 | reserveTemp=>
  rw [hstep] at hengaged
  simp only [recoverStreamStep,hstep,if_true]
  exact wp_recoverReservation hengaged hs
 | streamTemp=>
  rw [hstep] at hengaged
  simp only [recoverStreamStep,hstep,reduceCtorEq,if_false]
  exact wp_recoverStream hengaged hs
 | publishTemp=>
  exact wp_recoverRenameStep (hstep ▸ hengaged) hs ⟨nofun,nofun⟩
 | deleteSource=>exact wp_recoverDeleteStep (hstep ▸ hengaged) hs
 | restoreStagedSource=>
  exact wp_recoverRenameStep (hstep ▸ hengaged) hs ⟨nofun,nofun⟩
 | cleanupTemp=>exact wp_recoverDeleteStep (hstep ▸ hengaged) hs
 | evacuateOverwriteDestination=>
  exact wp_recoverRenameStep (hstep ▸ hengaged) hs ⟨nofun,nofun⟩
 | restoreOverwriteDestination=>
  exact wp_recoverRenameStep (hstep ▸ hengaged) hs ⟨nofun,nofun⟩
 | cleanupOverwriteDestination=>exact wp_recoverDeleteStep (hstep ▸ hengaged) hs

end VoVe.TransferRunSteps
