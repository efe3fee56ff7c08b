import VoVe.TransferContentConflicts
import VoVe.TransferRunSteps

set_option autoImplicit false

namespace VoVe.TransferContentSteps
open EffectProgram FileOperation TransferTransaction
open FileTransferProtocol FileTransferCoordinator ObjectDirectory TransferShape TransferUpdates
open TransferWorld TransferSettles TransferRecords TransferRecordSteps
open TransferContentRule TransferContentConflicts
open TransferRunRule (Engaged engaged_of_active)
open TransferRunSteps (forgotten forgotten_cases)
open FileTransferClient (FileTransferAuditCommitOutcome)

section Begins
variable (prepared : FileTransferTransaction) (start : Files)

/-- A step is under way, and the journal shows it. -/
structure Begun (t : FileTransferTransaction) (index : ℕ) (step : FileTransferStep)
  (s : TransferState) : Prop where
 holds : Holds prepared start t s
 engaged : Engaged t index step
 active : t.activeIndex.toNat=index
 ordered : Ordered t index step

variable {prepared start} {s s' : TransferState} {t : FileTransferTransaction} {index : ℕ}
 {step : FileTransferStep}

section
variable (h:Begun prepared start t index step s)
include h

lemma Begun.inside : index<t.items.length := h.engaged.current.inside

lemma Begun.accounts : Accounts prepared start t step s.files s.approved:=by
 have hdescribes:=h.holds.describes
 rw [Describes,h.engaged.active] at hdescribes
 exact hdescribes

lemma Begun.happened (hsame:FilesOnly s s')
 (haccounts:Accounts prepared start t step s'.files s.approved):
 Begun prepared start t index step s':=by
 have hactive:¬Resting t:=by
  intro hresting
  exact h.engaged.real (h.engaged.active.symm.trans hresting)
 refine ⟨h.holds.happened hactive hsame ?_,h.engaged,h.active,h.ordered⟩
 rw [h.engaged.active,hsame.approved]
 exact haccounts

end

lemma begun_of_active (h:Holds prepared start t s) (hreal:t.activeStep≠.none):
 Begun prepared start t t.activeIndex.toNat t.activeStep s:=by
 have hengaged:=engaged_of_active h.sound hreal
 refine ⟨h,hengaged,rfl,h.describes.cleaning,?_⟩
 have hitem:=h.describes.items _ hengaged.current.inside
 rw [stepOn_index fun _=>rfl] at hitem
 exact hitem.replaced.plain

lemma engaged_beginStep (hsound:TransferSound (beginStep t index step))
 (hinside:index<t.items.length) (hreal:step≠.none):
 Engaged (beginStep t index step) index step ∧
  (beginStep t index step).activeIndex.toNat=index:=by
 have hindex:(beginStep t index step).activeIndex.toNat=index:=toNat_ofNat_index hsound hinside
 have hengaged:=engaged_of_active hsound hreal
 rw [hindex] at hengaged
 exact ⟨hengaged,hindex⟩

lemma wp_begin (hs:KeptIn prepared start s)
 (h:Accounts prepared start t .none s.files s.approved) (hinside:index<t.items.length)
 (hreal:step≠.none) (hordered:Ordered (beginStep t index step) index step)
 {next : TransferStep}
 (hnext:∀s',Begun prepared start (beginStep t index step) index step s' →
  Accounts prepared start (beginStep t index step) .none s'.files s'.approved →
  wp transferWorld (KeptIn prepared start)
   (StepEnds prepared start (beginStep t index step)) next s'):
 wp transferWorld (KeptIn prepared start) (StepEnds prepared start t)
  (persistThen (beginStep t index step) .none next) s:=by
 have hidle:Accounts prepared start (beginStep t index step) .none s.files s.approved:=
  h.resting rfl rfl rfl id
 apply wp_persistThen hs
 · intro hsound
   obtain ⟨hengaged,hactive⟩:=engaged_beginStep hsound hinside hreal
   exact Accounts.begun hidle hengaged hactive hordered
 · intro s' hs' hsame
   obtain ⟨hengaged,hactive⟩:=engaged_beginStep hs'.sound hinside hreal
   apply wp_consequence (hnext s' ⟨hs',hengaged,hactive,hordered⟩ ?_)
   · intro out s'' _ hout
     exact stepEnds_of_phase hout Iff.rfl
   · rw [hsame.files,hsame.approved]
     exact hidle

lemma advance_resting (t : FileTransferTransaction) : (advance t).activeStep=.none:=by
 unfold advance
 dsimp only
 split
 · rfl
 · rfl

end Begins

section Renames
variable {prepared : FileTransferTransaction} {start : Files} {s : TransferState}
 {t t₀ : FileTransferTransaction} {index : ℕ} {step : FileTransferStep} {canAsk : Bool}
 {before : Files} {use : RenameUse} {result : OperationResult}

section
variable (h:Begun prepared start t index step s)
include h

lemma wp_submitRename
 (hidle:Accounts prepared start t .none s.files s.approved) (hrename:RenameStep step)
 {post : OperationResult → TransferState → Prop}
 (hpost:∀result s',Begun prepared start t index step s' → FilesOnly s s' →
  RenameTruth s.files s'.files (renameRequest t index step) .execute result →
  post result s'):
 wp transferWorld (KeptIn prepared start) post
  (submitRename (renameRequest t index step) .execute) s:=by
 have hafter:∀s',FilesOnly s s' →
   RenameLeaves s.files (renameRequest t index step) .execute s'.files →
   Begun prepared start t index step s':=
  fun s' hsame hleaves =>
   h.happened hsame (rename_effect hidle h.engaged h.active h.ordered hrename hleaves)
 refine ⟨h.holds.kept,?_,?_⟩
 · rintro s' ⟨hsame,hleaves⟩
   exact (hafter s' hsame hleaves).holds.kept
 · rintro result s' ⟨hsame,htruth⟩
   have hbegun:=hafter s' hsame htruth.effect
   exact ⟨hbegun.holds.kept,hpost result s' hbegun hsame htruth⟩

lemma wp_settleRename (hrename:RenameStep step)
 (htruth:RenameTruth before s.files (renameRequest t index step) use result):
 wp transferWorld (KeptIn prepared start) (StepEnds prepared start t)
  (settleRename t index step result) s:=by
 unfold settleRename
 split
 · exact wp_preserveUncertain h.holds.kept h.holds.describes
 · next applied happlied =>
   unfold applyRenameSuccess at happlied
   simp only at happlied
   split at happlied
   · cases happlied
   · next hmatches =>
     split at happlied
     · cases happlied
     · next item' hrenamed =>
       cases happlied
       obtain ⟨hcommitted,-⟩:=not_or.mp hmatches
       obtain ⟨hthere,hgone,hconfirmed⟩:=htruth.success (not_not.mp hcommitted)
       have haccounts:=rename_settle h.accounts h.engaged h.active h.ordered hrename hthere
        hgone hconfirmed hrenamed
       apply wp_persistCommitted h.holds.kept
       · intro _
         rw [Describes,advance_resting]
         exact haccounts
       · exact advance_cleaning _

lemma wp_recordUnexpected {recovered : Bool}
 (hunexpected:unexpectedEvacuation step result recovered=true)
 (htruth:RenameTruth before s.files (renameRequest t index step) use result):
 wp transferWorld (KeptIn prepared start) (StepEnds prepared start t₀)
  (enterCleanup (recordUnexpectedEvacuation t index result) .sourceChanged .committed
   unexpectedDetail) s:=by
 simp only [unexpectedEvacuation,decide_eq_true_eq] at hunexpected
 obtain ⟨rfl,hevidence,hpresent,hidentity,-⟩:=hunexpected
 have hthere:Shows s.files (itemAt t index).overwriteBackup
   (identityOf result.confirmedSnapshot) := htruth.arrival hevidence hpresent hidentity
 have hfits:=h.engaged.fits
 rw [itemStepMatches,h.engaged.active] at hfits
 simp only [decide_eq_true_eq] at hfits
 apply wp_stepEnds
 apply wp_enterCleanup h.holds.kept
 intro _
 refine h.accounts.settle h.inside rfl (fun _=>h.active) (fun hno=>absurd rfl hno) rfl rfl
  (fun hno=>absurd rfl hno) (fun _=>.inl rfl) rfl rfl fun hitem=>?_
 have hsource:=source_refused hitem.source (by simp) (by simp) (by simp) (by simp)
 exact ⟨⟨hsource.foreign,hsource.current,hsource.placed,hsource.unstaged⟩,
  content_cleaned rfl hfits.2.2,replaced_afterEvacuate hitem.replaced hfits.2.1 hthere (.inr rfl)⟩

end

lemma wp_streamInstead (h:Begun prepared start t index .atomicMove s)
 (hidle:Accounts prepared start t .none s.files s.approved):
 wp transferWorld (KeptIn prepared start) (StepEnds prepared start t)
  (streamInstead t index) s:=by
 have hfits:=h.engaged.fits
 rw [itemStepMatches,h.engaged.active] at hfits
 simp only [decide_eq_true_eq] at hfits
 obtain ⟨-,-,hlocation,habsent,-⟩:=hfits
 have hunpublished:(itemAt t index).destinationState≠.published:=by simp [habsent]
 apply wp_persistThen h.holds.kept
 · intro _
   refine hidle.reworked h.inside rfl rfl rfl id rfl rfl fun hitem=>?_
   exact ⟨source_streamInstead hitem.source hlocation,content_absent habsent,
    replaced_same hitem.replaced (not_finished hunpublished) rfl rfl rfl rfl rfl⟩
 · intro s' hs' _
   exact ⟨hs'.kept,fun _=>⟨hs',Iff.rfl⟩,(by simp)⟩

lemma wp_settleRefusedRename (h:Begun prepared start t index step s)
 (hidle:Accounts prepared start t .none s.files s.approved):
 wp transferWorld (KeptIn prepared start) (StepEnds prepared start t)
  (settleRefusedRename canAsk t index step result) s:=by
 unfold settleRefusedRename
 split
 · next hconflict =>
   have hstate:(itemAt t index).destinationState≠.published ∧
     (itemAt t index).destinationState≠.tempReserved:=by
    have hfits:=h.engaged.fits
    rw [itemStepMatches,h.engaged.active] at hfits
    obtain ⟨rfl | rfl,-⟩:=hconflict
    · simp only [decide_eq_true_eq] at hfits
      simp [hfits.2.2.2.1]
    · simp only [decide_eq_true_eq] at hfits
      simp [hfits.2.1]
   rw [wp_bind]
   apply wp_consequence (wp_requestOverwrite h.holds.kept h.engaged.sound hidle h.inside hstate.1
    hstate.2 hconflict.1)
   rintro ⟨asked,decided⟩ s' hkept hasked
   cases decided with
   | none=>
    obtain ⟨rfl,rfl⟩:=hasked
    exact wp_stepEnds (wp_turnBack hkept hidle)
   | some decided=>exact ⟨hkept,hasked⟩
 · exact wp_stepEnds (wp_turnBack h.holds.kept hidle)

lemma wp_settleRenameAttempt (h:Begun prepared start t index step s)
 (hrename:RenameStep step)
 (htruth:RenameTruth before s.files (renameRequest t index step) .execute result)
 (hidle:confirmedNoCommit result=true → Accounts prepared start t .none s.files s.approved):
 wp transferWorld (KeptIn prepared start) (StepEnds prepared start t)
  (settleRenameAttempt canAsk t index step result) s:=by
 unfold settleRenameAttempt
 split
 · next hunexpected => exact wp_recordUnexpected h hunexpected htruth
 · split
   · exact wp_settleRename h hrename htruth
   · split
     · next hcross =>
       obtain ⟨rfl,-,hrefused⟩:=hcross
       exact wp_streamInstead h (hidle hrefused)
     · split
       · exact wp_preserveCleanupUncertain h.holds.kept h.holds.describes
       · split
         · next hrefused => exact wp_settleRefusedRename h (hidle hrefused)
         · exact wp_preserveUncertain h.holds.kept h.holds.describes

lemma real_of_rename (h:RenameStep step) : step≠.none:=by
 rintro rfl
 obtain hno | hno | hno | hno | hno | hno:=h
 · cases hno
 · cases hno
 · cases hno
 · cases hno
 · cases hno
 · cases hno

lemma wp_executeRenameStep (hs:KeptIn prepared start s)
 (h:Accounts prepared start t .none s.files s.approved) (hinside:index<t.items.length)
 (hordered:Ordered (beginStep t index step) index step) (hrename:RenameStep step):
 wp transferWorld (KeptIn prepared start) (StepEnds prepared start t)
  (executeRenameStep canAsk t index step) s:=by
 apply wp_begin hs h hinside (real_of_rename hrename) hordered
 intro s' hbegun hidle
 rw [wp_bind]
 apply wp_stopRequested hbegun.holds.kept
 intro stopped
 cases stopped with
 | true=>exact ⟨hbegun.holds.kept,stepEnds_other nofun nofun⟩
 | false=>
  simp only [Bool.false_eq_true,if_false]
  rw [wp_bind]
  apply wp_submitRename hbegun hidle hrename
  intro result s'' hafter hsame htruth
  apply wp_settleRenameAttempt hafter hrename htruth
  intro hrefused
  obtain ⟨hunchanged,-⟩:=htruth.refusal (of_decide_eq_true hrefused)
  rw [hunchanged rfl,hsame.approved]
  exact hidle

lemma ordered_forgotten (h:Ordered t index step):
 Ordered (beginStep (forgotten t) index step) index step:=by
 obtain hcleared | hcleared:=forgotten_cases t
 · rw [hcleared]
   exact ⟨h.cleaning,h.plain⟩
 · rw [hcleared]
   exact ⟨h.cleaning,h.plain⟩

lemma Accounts.forgotten (h:Accounts prepared start t .none s.files s.approved):
 Accounts prepared start (forgotten t) .none s.files s.approved:=by
 obtain hcleared | hcleared:=forgotten_cases t
 · rw [hcleared]
   exact h.resting rfl rfl rfl id
 · rw [hcleared]
   exact h.resting rfl rfl rfl id

lemma forgotten_same (t : FileTransferTransaction) : (forgotten t).activeStep=.none ∧
 (forgotten t).phase=t.phase ∧ (forgotten t).items=t.items:=by
 obtain hcleared | hcleared:=forgotten_cases t
 · rw [hcleared]
   exact ⟨rfl,rfl,rfl⟩
 · rw [hcleared]
   exact ⟨rfl,rfl,rfl⟩

lemma wp_recoverRenameStep (h:Begun prepared start t index step s)
 (hrename:RenameStep step):
 wp transferWorld (KeptIn prepared start) (StepEnds prepared start t)
  (recoverRenameStep canAsk t index step) s:=by
 have huse:RenameUse.recover≠.execute:=nofun
 rw [recoverRenameStep,wp_bind]
 apply wp_lookRename h.holds.kept huse
 intro result htruth
 split
 · next hunexpected => exact wp_recordUnexpected h hunexpected htruth
 · split
   · exact wp_settleRename h hrename htruth
   · split
     · exact wp_preserveResult h.holds.kept h.holds.describes
     · next hrefused =>
       obtain ⟨-,hnothing⟩:=htruth.refusal (of_decide_eq_true (not_not.mp hrefused))
       have hidle:=rename_refused h.accounts h.active hrename (hnothing huse).2
       obtain ⟨hresting,hphase,hitems⟩:=forgotten_same t
       apply wp_persistThen h.holds.kept
       · intro _
         have hforgotten:=Accounts.forgotten hidle
         rw [←hresting] at hforgotten
         exact hforgotten
       · intro s' hs' _
         have hafter:=(hs'.ready hresting).accounts
         have hinside:index<(forgotten t).items.length:=by
          rw [hitems]
          exact h.inside
         apply wp_consequence
          (wp_executeRenameStep hs'.kept hafter hinside (ordered_forgotten h.ordered) hrename)
         intro out s'' _ hout
         exact stepEnds_of_phase hout (iff_of_eq (congrArg (·=_) hphase))

end Renames

section Deletes
variable {prepared : FileTransferTransaction} {start : Files} {s : TransferState}
 {t t' : FileTransferTransaction} {index : ℕ} {step : FileTransferStep}
 {before : Files} {use : DeleteUse} {result : OperationResult}

lemma wp_submitDelete (h:Begun prepared start t index step s)
 (hidle:Accounts prepared start t .none s.files s.approved) (hdelete:DeleteStep step)
 {post : OperationResult → TransferState → Prop}
 (hpost:∀result s',Begun prepared start t index step s' →
  DeleteTruth s.files s'.files (deleteRequest t index step) .execute result →
  post result s'):
 wp transferWorld (KeptIn prepared start) post
  (submitDelete (deleteRequest t index step) .execute) s:=by
 have hafter:∀s',FilesOnly s s' →
   DeleteLeaves s.files (deleteRequest t index step) .execute s'.files →
   Begun prepared start t index step s':=
  fun s' hsame hleaves =>
   h.happened hsame (delete_effect hidle h.engaged h.active h.ordered hdelete hleaves)
 refine ⟨h.holds.kept,?_,?_⟩
 · rintro s' ⟨hsame,hleaves⟩
   exact (hafter s' hsame hleaves).holds.kept
 · rintro result s' ⟨hsame,htruth⟩
   have hbegun:=hafter s' hsame htruth.effect
   exact ⟨hbegun.holds.kept,hpost result s' hbegun htruth⟩

lemma wp_settleDelete (h:Begun prepared start t index step s) (hdelete:DeleteStep step)
 (htruth:DeleteTruth before s.files (deleteRequest t index step) use result):
 wp transferWorld (KeptIn prepared start) (StepEnds prepared start t)
  (settleDelete t index step result) s:=by
 unfold settleDelete
 split
 · exact wp_preserveUncertain h.holds.kept h.holds.describes
 · next applied happlied =>
   unfold applyDeleteSuccess at happlied
   split at happlied
   · cases happlied
   · next hcommitted =>
     split at happlied
     · cases happlied
     · next item' hdeleted =>
       cases happlied
       have haccounts:=delete_settle h.accounts h.engaged h.active hdelete
        (htruth.success (not_not.mp hcommitted)) hdeleted
       apply wp_persistCommitted h.holds.kept
       · intro _
         rw [Describes,advance_resting]
         exact haccounts
       · exact advance_cleaning _

lemma real_of_delete (h:DeleteStep step) : step≠.none:=by
 rintro rfl
 obtain hno | hno | hno:=h
 · cases hno
 · cases hno
 · cases hno

lemma wp_submitDeleteStep (hs:KeptIn prepared start s)
 (h:Accounts prepared start t .none s.files s.approved) (hinside:index<t.items.length)
 (hordered:Ordered (beginStep t index step) index step) (hdelete:DeleteStep step):
 wp transferWorld (KeptIn prepared start) (StepEnds prepared start t)
  (submitDeleteStep t index step) s:=by
 apply wp_begin hs h hinside (real_of_delete hdelete) hordered
 intro s' hbegun hidle
 rw [wp_bind]
 apply wp_submitDelete hbegun hidle hdelete
 intro result s'' hafter htruth
 split
 · exact wp_settleDelete hafter hdelete htruth
 · exact wp_preserveResult hafter.holds.kept hafter.holds.describes

/-- A published item whose source is staged; nothing is under way. -/
structure Auditable (t : FileTransferTransaction) (index : ℕ) : Prop where
 inside : index<t.items.length
 resting : Resting t
 staged : (itemAt t index).sourceLocation=.staged
 published : (itemAt t index).destinationState=.published

lemma Auditable.verified (h:Auditable t index) {snapshot : SourceSnapshot}:
 Auditable (setItem t index (verifiedSource (itemAt t index) snapshot)) index:=by
 have hitem:itemAt (setItem t index (verifiedSource (itemAt t index) snapshot)) index=
   verifiedSource (itemAt t index) snapshot := itemAt_set h.inside rfl
 refine ⟨by simpa [setItem] using h.inside,h.resting,?_,?_⟩
 · rw [hitem]
   exact h.staged
 · rw [hitem]
   exact h.published

lemma Ready.describes (h:Ready prepared start t s) (hresting:Resting t):
 Describes prepared start s t:=by
 rw [Describes,hresting]
 exact h.accounts

variable (prepared start) in
/-- Where nothing has ended, the staged source may be deleted now. -/
def Checked (t : FileTransferTransaction) (index : ℕ)
  (out : FileTransferTransaction × Option StepResult) (s : TransferState) : Prop:=
 match out.2 with
 | none=>Ready prepared start out.1 s ∧ index < out.1.items.length ∧ out.1.phase = t.phase
 | some result=>StepEnds prepared start t (out.1,result) s

lemma wp_ended {step : TransferStep}
 (hstep:wp transferWorld (KeptIn prepared start) (StepEnds prepared start t) step s):
 wp transferWorld (KeptIn prepared start) (Checked prepared start t index) (ended step) s:=by
 rw [ended,wp_bind]
 apply wp_consequence hstep
 intro out s' hkept hout
 exact ⟨hkept,hout⟩

lemma wp_settleSourceAudit (hs:Ready prepared start t' s) (h:Auditable t' index)
 (hphase:t'.phase=t.phase) {result : FileTransferStreamResult}:
 wp transferWorld (KeptIn prepared start) (Checked prepared start t index)
  (settleSourceAudit t' result) s:=by
 unfold settleSourceAudit
 split
 · exact wp_ended (wp_preserveUncertain hs.kept (Ready.describes hs h.resting))
 · rw [wp_bind]
   apply wp_stopRequested hs.kept
   intro stopped
   cases stopped with
   | true=>exact ⟨hs.kept,stepEnds_other nofun nofun⟩
   | false=>exact ⟨hs.kept,hs,h.inside,hphase⟩

lemma wp_acknowledged (hs:Ready prepared start t' s) (h:Auditable t' index)
 (hphase:t'.phase=t.phase) {request : FileTransferStreamRequest}
 {outcome : FileTransferAuditCommitOutcome}:
 wp transferWorld (KeptIn prepared start) (Checked prepared start t index)
  (do
   let result ← acknowledgeAudit request outcome
   settleSourceAudit t' result) s:=by
 rw [wp_bind]
 apply wp_acknowledgeAudit hs.kept
 intro result
 exact wp_settleSourceAudit hs h hphase

lemma Accounts.verified (h:Accounts prepared start t .none s.files s.approved)
 (haudit:Auditable t index) {snapshot : SourceSnapshot}
 (hthere:Shows s.files (itemAt t index).stagedSource (identityOf snapshot)):
 Accounts prepared start (setItem t index (verifiedSource (itemAt t index) snapshot)) .none
  s.files s.approved:=by
 refine h.reworked haudit.inside rfl rfl rfl id rfl rfl fun hitem=>?_
 exact ⟨source_verified hitem.source haudit.staged hthere haudit.published,
  ⟨hitem.content.reserved,hitem.content.copied,hitem.content.published⟩,
  replaced_same hitem.replaced id rfl rfl rfl rfl rfl⟩

lemma wp_auditStagedSource (hs:Ready prepared start t s) (h:Auditable t index)
 {observed : SourceSnapshot}:
 wp transferWorld (KeptIn prepared start) (Checked prepared start t index)
  (auditStagedSource t index observed) s:=by
 rw [auditStagedSource,wp_bind]
 apply wp_submitAudit hs.kept
 · exact wp_ended (wp_preserveUncertain hs.kept (Ready.describes hs h.resting))
 · intro result
   exact wp_settleSourceAudit hs h rfl
 · intro result hthere
   rw [wp_bind]
   unfold commitSourceAudit
   split
   · exact ⟨hs.kept,wp_acknowledged hs h rfl⟩
   · have hverified:=Accounts.verified hs.accounts h hthere
     have hresting:Auditable (setItem t index
       (verifiedSource (itemAt t index) result.sourceSnapshot)) index := h.verified
     rw [wp_bind]
     apply wp_persist hs.kept
     · intro _
       exact Ready.describes ⟨hs.kept,hverified⟩ hresting.resting
     · intro s' hs' hsame
       exact ⟨hs'.kept,wp_acknowledged (hs'.ready hresting.resting) hresting rfl⟩
     · intro detail s' hs' hsame
       refine ⟨hs',wp_acknowledged ⟨hs',?_⟩ h rfl⟩
       rw [hsame.files,hsame.approved]
       exact hs.accounts

lemma wp_refreshStagedSource (hs:Ready prepared start t s) (h:Auditable t index):
 wp transferWorld (KeptIn prepared start) (Checked prepared start t index)
  (refreshStagedSourceForDelete t index) s:=by
 have huse:DeleteUse.probeStagedSource≠.execute:=by simp
 rw [refreshStagedSourceForDelete,wp_bind]
 apply wp_stopRequested hs.kept
 intro stopped
 cases stopped with
 | true=>exact ⟨hs.kept,stepEnds_other (by rintro ⟨⟩) (by rintro ⟨⟩)⟩
 | false=>
  simp only [Bool.false_eq_true,if_false]
  rw [wp_bind,probeStagedSource,wp_bind]
  apply wp_lookDelete hs.kept huse
  intro result _
  have hprobed:∀observed : ProbeResult,
    wp transferWorld (KeptIn prepared start) (Checked prepared start t index)
     (if snapshotExactMatches (itemAt t index).currentSourceSnapshot observed.snapshot then
      pure (t,none)
     else if (itemAt t index).currentSourceSnapshot.sizeBytes≠observed.snapshot.sizeBytes ∨
       ¬sameObjectIdentity (itemAt t index).currentSourceSnapshot.sourceRevisionUtf8
        observed.snapshot.sourceRevisionUtf8 ∨
       ¬(itemAt t index).contentProofPresent ∨
       (itemAt t index).contentBytes≠observed.snapshot.sizeBytes then
      ended (preserveUncertain t
       (if observed.status=.success then .sourceChanged else observed.status) .none
       (if observed.detailUtf8=[] then sourceChangedDetail else observed.detailUtf8))
     else auditStagedSource t index observed.snapshot) s:=by
   intro observed
   split
   · exact ⟨hs.kept,hs,h.inside,rfl⟩
   · split
     · exact wp_ended (wp_preserveUncertain hs.kept (Ready.describes hs h.resting))
     · exact wp_auditStagedSource hs h
  split
  · exact ⟨hs.kept,hprobed _⟩
  · exact ⟨hs.kept,hprobed _⟩

lemma wp_executeDeleteStep (hs:Ready prepared start t s) (hinside:index<t.items.length)
 (hordered:Ordered (beginStep t index step) index step) (hdelete:DeleteStep step)
 (haudit:step=.deleteSource → Auditable t index ∧ t.phase≠.prepublishCleanup):
 wp transferWorld (KeptIn prepared start) (StepEnds prepared start t)
  (executeDeleteStep t index step) s:=by
 unfold executeDeleteStep
 split
 · next hstep =>
   obtain ⟨hauditable,hforward⟩:=haudit hstep
   rw [wp_bind]
   apply wp_consequence (wp_refreshStagedSource hs hauditable)
   rintro ⟨refreshed,decided⟩ s' hkept hchecked
   cases decided with
   | some result=>exact ⟨hkept,hchecked⟩
   | none=>
    obtain ⟨hready,hinside',hphase⟩:=hchecked
    simp only at hready hinside' hphase
    rw [wp_bind]
    apply wp_stopRequested hkept
    intro stopped
    cases stopped with
    | true=>exact ⟨hkept,stepEnds_other nofun nofun⟩
    | false=>
     have hordered':Ordered (beginStep refreshed index step) index step:=by
      refine ⟨fun hcleaning=>absurd (hphase.symm.trans hcleaning) hforward,?_⟩
      rw [hstep]
      rintro (hno | hno)
      · cases hno
      · cases hno
     apply wp_consequence
      (wp_submitDeleteStep hready.kept hready.accounts hinside' hordered' hdelete)
     intro out s'' _ hout
     exact stepEnds_of_phase hout (iff_of_eq (congrArg (·=_) hphase))
 · exact wp_submitDeleteStep hs.kept hs.accounts hinside hordered hdelete

lemma wp_recoverDeleteStep (h:Begun prepared start t index step s)
 (hdelete:DeleteStep step):
 wp transferWorld (KeptIn prepared start) (StepEnds prepared start t)
  (recoverDeleteStep t index step) s:=by
 have huse:DeleteUse.recover≠.execute:=by simp
 rw [recoverDeleteStep,wp_bind]
 apply wp_lookDelete h.holds.kept huse
 intro result htruth
 split
 · exact wp_settleDelete h hdelete htruth
 · split
   · exact wp_preserveResult h.holds.kept h.holds.describes
   · next hrefused =>
     obtain ⟨-,hthere⟩:=htruth.refusal (of_decide_eq_true (not_not.mp hrefused))
     have hidle:=delete_refused h.accounts h.active hdelete (hthere huse)
     apply wp_persistThen h.holds.kept
     · intro _
       exact hidle.resting rfl rfl rfl id
     · intro s' hs' _
       split
       · exact ⟨hs'.kept,fun _=>⟨hs',Iff.rfl⟩,(by simp)⟩
       · apply wp_consequence (wp_executeDeleteStep (hs'.ready rfl) h.inside
          ⟨h.ordered.cleaning,h.ordered.plain⟩ hdelete ?_)
         · intro out s'' _ hout
           exact stepEnds_of_phase hout Iff.rfl
         · rintro rfl
           have hfits:=h.engaged.fits
           rw [itemStepMatches,h.engaged.active] at hfits
           simp only [decide_eq_true_eq] at hfits
           refine ⟨⟨h.inside,rfl,hfits.2.2.1,hfits.2.2.2⟩,?_⟩
           intro hcleaning
           obtain hno | hno | hno | hno:=h.ordered.cleaning hcleaning
           · cases hno
           · cases hno
           · cases hno
           · cases hno

end Deletes

end VoVe.TransferContentSteps
