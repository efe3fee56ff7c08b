import VoVe.TransferContentRule

set_option autoImplicit false

namespace VoVe.TransferContentConflicts
open ByteCodec AsciiText PosixPath EffectProgram FileOperation TransferTransaction
open FileTransferCoordinator TransferShape TransferUpdates
open OperationRequest (RenameRequest)
open TransferWorld TransferAccounts TransferSettles TransferRecords TransferContentRule

variable {out : FileTransferTransaction × StepResult} {e : OperationEvidence}
 {waiting copied : FileTransferTransaction}

section Ends
variable (prepared : FileTransferTransaction) (start : Files)

def StepEnds (t : FileTransferTransaction) (out : FileTransferTransaction × StepResult)
  (s : TransferState) : Prop:=
 (out.2.outcome = .committed → Holds prepared start out.1 s ∧
  (out.1.phase = .prepublishCleanup ↔ t.phase = .prepublishCleanup)) ∧
 (out.2.outcome = .cleanFailure → Holds prepared start out.1 s ∧ out.1.phase = .prepublishCleanup)

def TurnsBack (out : FileTransferTransaction × StepResult) (s : TransferState) : Prop:=
 out.2.outcome = .journalError ∨ out.2.outcome = .cleanFailure ∧ Holds prepared start out.1 s ∧
   out.1.phase = .prepublishCleanup

variable {prepared start} {s : TransferState} {t t' : FileTransferTransaction}

lemma stepEnds_other (hcommitted:out.2.outcome≠.committed)
 (hclean:out.2.outcome≠.cleanFailure) : StepEnds prepared start t out s:=
 ⟨fun h=>absurd h hcommitted,fun h=>absurd h hclean⟩

lemma stepEnds_of_phase (h:StepEnds prepared start t' out s)
 (hphase:t'.phase=.prepublishCleanup ↔ t.phase=.prepublishCleanup):
 StepEnds prepared start t out s:=
 ⟨fun hcommitted=>⟨(h.1 hcommitted).1,(h.1 hcommitted).2.trans hphase⟩,h.2⟩

lemma wp_stepEnds {step : TransferStep}
 (h:wp transferWorld (KeptIn prepared start) (TurnsBack prepared start) step s):
 wp transferWorld (KeptIn prepared start) (StepEnds prepared start t) step s:=by
 apply wp_consequence h
 intro out s' _ hback
 obtain hjournal | ⟨hclean,hrest⟩:=hback
 · apply stepEnds_other
   · simp [hjournal]
   · simp [hjournal]
 · refine ⟨fun hcommitted=>?_,fun _=>hrest⟩
   rw [hclean] at hcommitted
   cases hcommitted

lemma wp_persistThen {next : TransferStep} (hs:KeptIn prepared start s)
 (hnext:TransferSound t' → Describes prepared start s t')
 (hrest:∀s',Holds prepared start t' s' → JournalOnly s s' →
  wp transferWorld (KeptIn prepared start) (StepEnds prepared start t) next s'):
 wp transferWorld (KeptIn prepared start) (StepEnds prepared start t)
  (persistThen t' e next) s:=by
 rw [persistThen,wp_bind]
 apply wp_persist hs hnext
 · exact hrest
 · intro detail s' hs' _
   exact ⟨hs',stepEnds_other (by rintro ⟨⟩) (by rintro ⟨⟩)⟩

lemma wp_persistCommitted (hs:KeptIn prepared start s)
 (hnext:TransferSound t' → Describes prepared start s t')
 (hphase:t'.phase=.prepublishCleanup ↔ t.phase=.prepublishCleanup):
 wp transferWorld (KeptIn prepared start) (StepEnds prepared start t)
  (persistCommitted t') s:=by
 apply wp_persistThen hs hnext
 intro s' hs' _
 rw [wp_bind]
 apply wp_stopRequested hs'.kept
 intro stopped
 cases stopped with
 | true=>exact ⟨hs'.kept,stepEnds_other nofun nofun⟩
 | false=>exact ⟨hs'.kept,fun _=>⟨hs',hphase⟩,nofun⟩

lemma wp_preserved {kept : FileTransferTransaction} {result : StepResult}
 (hs:KeptIn prepared start s) (hdescribes:Describes prepared start s t)
 (hitems:kept.items=t.items) (hkind:kept.kind=t.kind)
 (hoperation:kept.operationId=t.operationId) (hphase:kept.phase=t.phase)
 (hstep:kept.activeStep=t.activeStep) (hindex:kept.activeIndex=t.activeIndex)
 (hresult:result.outcome=.recoveryRequired):
 wp transferWorld (KeptIn prepared start) (StepEnds prepared start t')
  (persistThen kept e (pure (kept,result))) s:=by
 apply wp_persistThen hs
 · intro _
   rw [Describes,hstep]
   exact Accounts.alike hdescribes hitems hkind hoperation hphase hindex
 · intro s' hs' _
   refine ⟨hs'.kept,stepEnds_other ?_ ?_⟩
   · rw [hresult]
     rintro ⟨⟩
   · rw [hresult]
     rintro ⟨⟩

lemma wp_preserveUncertain (hs:KeptIn prepared start s)
 (hdescribes:Describes prepared start s t) {status : OperationStatus}
 {e : OperationEvidence} {detail : Bytes}:
 wp transferWorld (KeptIn prepared start) (StepEnds prepared start t')
  (preserveUncertain t status e detail) s:=
 wp_preserved hs hdescribes rfl rfl rfl rfl rfl rfl rfl

lemma wp_preserveCleanupUncertain (hs:KeptIn prepared start s)
 (hdescribes:Describes prepared start s t) {status : OperationStatus}
 {e : OperationEvidence} {detail : Bytes}:
 wp transferWorld (KeptIn prepared start) (StepEnds prepared start t')
  (preserveCleanupUncertain t status e detail) s:=
 wp_preserved hs hdescribes rfl rfl rfl rfl rfl rfl rfl

lemma wp_preserveResult (hs:KeptIn prepared start s)
 (hdescribes:Describes prepared start s t) {result : OperationResult}:
 wp transferWorld (KeptIn prepared start) (StepEnds prepared start t')
  (preserveResult t result) s:=by
 unfold preserveResult
 split
 · exact wp_preserveCleanupUncertain hs hdescribes
 · exact wp_preserveUncertain hs hdescribes

lemma wp_enterCleanup {status : OperationStatus} {detail : Bytes} (hs:KeptIn prepared start s)
 (h:TransferSound (recordFailure { clearActive t with phase:=.prepublishCleanup } status
   e detail) →
  Accounts prepared start { t with phase:=.prepublishCleanup } .none s.files s.approved):
 wp transferWorld (KeptIn prepared start) (TurnsBack prepared start)
  (enterCleanup t status e detail) s:=by
 rw [enterCleanup,persistThen,wp_bind]
 apply wp_persist hs
 · intro hsound
   exact (h hsound).resting rfl rfl rfl fun hno=>absurd rfl hno
 · intro s' hs' _
   exact ⟨hs'.kept,.inr ⟨rfl,hs',rfl⟩⟩
 · intro detail s' hs' _
   exact ⟨hs',.inl rfl⟩

lemma wp_turnBack (hs:KeptIn prepared start s)
 (h:Accounts prepared start t .none s.files s.approved) {status : OperationStatus}
 {e : OperationEvidence} {detail : Bytes}:
 wp transferWorld (KeptIn prepared start) (TurnsBack prepared start)
  (enterCleanup t status e detail) s:=
 wp_enterCleanup hs fun _=>h.resting rfl rfl rfl fun hno=>absurd rfl hno

lemma wp_cancelByUser (hs:KeptIn prepared start s)
 (h:Accounts prepared start t .none s.files s.approved):
 wp transferWorld (KeptIn prepared start) (TurnsBack prepared start) (cancelByUser t) s:=by
 have hcancelled:Accounts prepared start (cancelled t) .none s.files s.approved:=
  h.resting rfl rfl rfl id
 exact wp_turnBack hs hcancelled

lemma wp_noCopyName (hs:KeptIn prepared start s)
 (h:Accounts prepared start t .none s.files s.approved):
 wp transferWorld (KeptIn prepared start) (TurnsBack prepared start) (noCopyName t) s:=
 wp_turnBack hs h

end Ends

section Copies
variable {prepared : FileTransferTransaction} {start files : Files}
 {approved : List (Bytes × Bytes)} {t t' : FileTransferTransaction} {n : ℕ}
 {item item' : FileTransferItem}

/-- The item has published nothing and replaces nothing. -/
structure Copyable (item : FileTransferItem) : Prop where
 plain : item.overwriteState=.none
 unpublished : item.destinationState≠.published
 unreserved : item.destinationState≠.tempReserved

/-- The item under another name, with another temporary file to match. -/
structure CopyOf (item item' : FileTransferItem) : Prop where
 copyable : Copyable item
 assigned : Assigned item.destination item'.destination
 same : ∃ temp backup,item'=clearOverwrite { item with
  destination:=item'.destination,tempDestination := temp,overwriteBackup := backup }

/-- Some items have been given another name. -/
structure Recopied (t t' : FileTransferTransaction) : Prop where
 kind : t'.kind=t.kind
 operationId : t'.operationId=t.operationId
 phase : t'.phase=t.phase
 step : t'.activeStep=t.activeStep
 length : t'.items.length=t.items.length
 items : ∀i<t.items.length,itemAt t' i=itemAt t i ∨ CopyOf (itemAt t i) (itemAt t' i)

lemma assigned_trans {first second third : Path} (h:Assigned first second)
 (hnext:Assigned second third) : Assigned first third:=by
 induction hnext with
 | own=>exact h
 | copy name o _ ih=>exact .copy name o ih

lemma CopyOf.copyable_again (h:CopyOf item item') : Copyable item':=by
 obtain ⟨temp,backup,hsame⟩:=h.same
 rw [hsame]
 exact ⟨rfl,h.copyable.unpublished,h.copyable.unreserved⟩

lemma CopyOf.trans (h:CopyOf item item') {item'' : FileTransferItem}
 (hnext:CopyOf item' item'') : CopyOf item item'':=by
 refine ⟨h.copyable,assigned_trans h.assigned hnext.assigned,?_⟩
 obtain ⟨temp,backup,hsame⟩:=h.same
 obtain ⟨temp',backup',hsame'⟩:=hnext.same
 refine ⟨temp',backup',?_⟩
 rw [hsame',hsame]
 rfl

lemma Recopied.refl (t : FileTransferTransaction) : Recopied t t:=
 ⟨rfl,rfl,rfl,rfl,rfl,fun _ _=>.inl rfl⟩

lemma Recopied.trans (h:Recopied t t') {t'' : FileTransferTransaction}
 (hnext:Recopied t' t'') : Recopied t t'':=by
 refine ⟨hnext.kind.trans h.kind,hnext.operationId.trans h.operationId,
  hnext.phase.trans h.phase,hnext.step.trans h.step,hnext.length.trans h.length,?_⟩
 intro i hi
 have hfirst:=h.items i hi
 have hsecond:=hnext.items i (by rw [h.length]; exact hi)
 obtain hfirst | hfirst:=hfirst
 · rw [hfirst] at hsecond
   exact hsecond
 · obtain hsecond | hsecond:=hsecond
   · rw [hsecond]
     exact .inr hfirst
   · exact .inr (hfirst.trans hsecond)

lemma recopied_copied (hinside:n<t.items.length) (hcopyable:Copyable (itemAt t n))
 (o : ℕ) : Recopied t (setItem t n (copiedItem t n
  (copyDestinationPath (itemAt t n).destination o))):=by
 refine ⟨rfl,rfl,rfl,rfl,by simp [setItem],?_⟩
 intro i hi
 by_cases hne:i=n
 · subst hne
   have hitem:itemAt (setItem t i (copiedItem t i
     (copyDestinationPath (itemAt t i).destination o))) i=copiedItem t i
     (copyDestinationPath (itemAt t i).destination o) := itemAt_set hinside rfl
   rw [hitem]
   exact .inr ⟨hcopyable,.copy _ o .own,_,_,rfl⟩
 · exact .inl (itemAt_set_other rfl hne hi)

lemma destination_free (h:Accounts prepared start t .none files approved) {i : ℕ}
 (hi:i<t.items.length) (hcopyable:Copyable (itemAt t i)) {object : FileObject}
 (hobject:start (destinationKey (itemAt t i))=some object):
 files (destinationKey (itemAt t i))=some object:=by
 have hitem:=h.items i hi
 rw [stepOn_none] at hitem
 exact destination_same hitem.replaced hcopyable.unpublished (.inl hcopyable.plain) hobject

/-- Names that make a valid record are names of the user, so nothing there is lost. -/
lemma Accounts.recopied (h:Accounts prepared start t .none files approved)
 (hrecopied:Recopied t t') (hsound:TransferSound t'):
 Accounts prepared start t' .none files approved:=by
 have hlength:=hrecopied.length
 have hcontinues:Continues prepared t':=by
  refine ⟨hrecopied.kind.trans h.continues.kind,
   hrecopied.operationId.trans h.continues.operationId,hlength.trans h.continues.length,
   ?_,?_⟩
  · intro i hi
    have hsource:=h.continues.sources i (by omega)
    obtain hsame | hcopy:=hrecopied.items i (by omega)
    · rw [hsame]
      exact hsource
    · obtain ⟨temp,backup,hsame⟩:=hcopy.same
      rw [hsame]
      exact hsource
  · intro i hi
    have hassigned:=h.continues.assigned i (by omega)
    obtain hsame | hcopy:=hrecopied.items i (by omega)
    · rw [hsame]
      exact hassigned
    · exact assigned_trans hassigned hcopy.assigned
 -- Every file of the user's is where it was, unless it is at a name that stays.
 have huser:∀key object,start key=some object → UserKey prepared key →
   (∀i<t'.items.length,itemAt t' i=itemAt t i → key≠destinationKey (itemAt t i)) →
   files key=some object:=by
  intro key object hobject hkey hnot
  by_cases hdestination:∃ i,i<t.items.length ∧ key=destinationKey (itemAt t i)
  · obtain ⟨i,hi,rfl⟩:=hdestination
    obtain hsame | hcopy:=hrecopied.items i hi
    · exact absurd rfl (hnot i (by omega) hsame)
    · exact destination_free h hi hcopy.copyable hobject
  · apply h.others key object hobject hkey
    intro i hi heq
    exact hdestination ⟨i,hi,heq⟩
 constructor
 · exact hcontinues
 · intro i hi
   have hi':i<t.items.length:=by omega
   have hitem:=h.items i hi'
   rw [stepOn_none] at hitem ⊢
   rw [hrecopied.kind,hrecopied.phase]
   by_cases hstays:itemAt t' i=itemAt t i
   · rw [hstays]
     exact hitem
   · have hcopy:=(hrecopied.items i hi').resolve_left hstays
     have hown:=userKey_destination hsound hcontinues hi
     have hkept:∀object,start (destinationKey (itemAt t' i))=some object →
       files (destinationKey (itemAt t' i))=some object:=by
      intro object hobject
      apply huser _ object hobject hown
      intro j hj hsame heq
      by_cases hne:j=i
      · subst hne
        exact hstays hsame
      · apply owned_apart hsound hi hj hne (destination_owned _)
        rw [hsame,←heq]
        exact destination_owned _
     obtain ⟨temp,backup,hsame⟩:=hcopy.same
     rw [hsame]
     rw [hsame] at hkept
     refine ⟨source_same hitem.source rfl rfl rfl rfl rfl hcopy.copyable.unpublished,?_,
      fun object hobject=>.inl (hkept object hobject),nofun,nofun⟩
     exact ⟨fun _ hreserved=>absurd hreserved hcopy.copyable.unreserved,hitem.content.copied,
      fun hpublished=>absurd hpublished hcopy.copyable.unpublished⟩
 · intro key object hobject hkey hnot
   apply huser key object hobject hkey
   intro i hi hsame heq
   exact hnot i hi (by rw [hsame]; exact heq)
 · exact fun _=>.inl rfl

lemma Recopied.copyable (h:Recopied t t') {i : ℕ} (hi:i<t.items.length)
 (hcopyable:Copyable (itemAt t i)) : Copyable (itemAt t' i):=by
 obtain hsame | hcopy:=h.items i hi
 · rw [hsame]
   exact hcopyable
 · exact hcopy.copyable_again

end Copies

section Overwrites
variable {prepared : FileTransferTransaction} {start files : Files}
 {approved : List (Bytes × Bytes)} {t t' : FileTransferTransaction} {n : ℕ}
 {snapshot : SourceSnapshot}

/-- An item may replace a file that the user gave up. -/
structure Authorizing (t : FileTransferTransaction) (approved : List (Bytes × Bytes))
  (conflict : ℕ × SourceSnapshot) : Prop where
 inside : conflict.1<t.items.length
 unpublished : (itemAt t conflict.1).destinationState≠.published
 idle : (itemAt t conflict.1).overwriteState=.none ∨
  (itemAt t conflict.1).overwriteState=.authorized
 given : (destinationKey (itemAt t conflict.1),identityOf conflict.2)∈approved

lemma Accounts.authorized (h:Accounts prepared start t .none files approved)
 (hauthorizing:Authorizing t approved (n,snapshot)):
 Accounts prepared start (setItem t n (overwrittenItem (itemAt t n) snapshot)) .none
  files approved:=by
 have hunpublished:=hauthorizing.unpublished
 refine h.reworked hauthorizing.inside rfl rfl rfl id rfl rfl fun hitem=>?_
 exact ⟨source_same hitem.source rfl rfl rfl rfl rfl hunpublished,
  ⟨hitem.content.reserved,hitem.content.copied,hitem.content.published⟩,
  replaced_authorized hitem.replaced hunpublished hauthorizing.idle hauthorizing.given⟩

lemma Authorizing.again {conflict : ℕ × SourceSnapshot} (h:Authorizing t approved conflict):
 Authorizing (setItem t n (overwrittenItem (itemAt t n) snapshot)) approved
  conflict:=by
 have hinside:conflict.1<(setItem t n
   (overwrittenItem (itemAt t n) snapshot)).items.length:=by
  simpa [setItem] using h.inside
 by_cases hne:conflict.1=n
 · subst hne
   have hitem:itemAt (setItem t conflict.1 (overwrittenItem (itemAt t conflict.1) snapshot))
     conflict.1=overwrittenItem (itemAt t conflict.1) snapshot := itemAt_set h.inside rfl
   refine ⟨hinside,?_,?_,?_⟩
   · rw [hitem]
     exact h.unpublished
   · rw [hitem]
     exact .inr rfl
   · rw [hitem]
     exact h.given
 · have hitem:itemAt (setItem t n (overwrittenItem (itemAt t n) snapshot))
     conflict.1=itemAt t conflict.1 := itemAt_set_other rfl hne h.inside
   refine ⟨hinside,?_,?_,?_⟩
   · rw [hitem]
     exact h.unpublished
   · rw [hitem]
     exact h.idle
   · rw [hitem]
     exact h.given

variable (c : List (ℕ × SourceSnapshot))

lemma accounts_authorizeAll:
 ∀ {t : FileTransferTransaction},Accounts prepared start t .none files approved →
  (∀conflict∈c,Authorizing t approved conflict) →
  Accounts prepared start (c.foldl (fun t conflict=>setItem t conflict.1
   (overwrittenItem (itemAt t conflict.1) conflict.2)) t) .none files approved:=by
 induction c with
 | nil=>exact fun h _=>h
 | cons conflict rest ih=>
  intro t h hall
  have hfirst:=hall conflict List.mem_cons_self
  apply ih (Accounts.authorized h hfirst)
  intro other hmem
  exact (hall other (List.mem_cons_of_mem _ hmem)).again

lemma foldl_keeps : ∀t : FileTransferTransaction,((c.foldl (fun t conflict=>setItem t conflict.1
   (overwrittenItem (itemAt t conflict.1) conflict.2)) t).activeStep=t.activeStep ∧
  (c.foldl (fun t conflict=>setItem t conflict.1
   (overwrittenItem (itemAt t conflict.1) conflict.2)) t).phase=t.phase):=by
 induction c with
 | nil=>exact fun t=>⟨rfl,rfl⟩
 | cons conflict rest ih=>
  intro t
  exact ih (setItem t conflict.1 (overwrittenItem (itemAt t conflict.1) conflict.2))

lemma plain_of_undecided (h:TransferSound t) (hinside:n<t.items.length)
 (hundecided:overwriteUndecided (itemAt t n)=true):
 (itemAt t n).overwriteState=.none:=by
 have hitem:=sound_itemAt h hinside
 have hauthorization:=hitem.authorization
 have hstate:=hitem.overwrite
 simp only [overwriteUndecided,decide_eq_true_eq] at hundecided
 have hempty:snapshotEmpty (itemAt t n).overwriteDestinationSnapshot=true:=by
  simp only [overwriteSnapshotValid,decide_eq_true_eq] at hauthorization
  obtain hempty | ⟨-,hvalid,-⟩:=hauthorization
  · exact hempty
  · simp [validSnapshot,hundecided,stableObjectIdentity_nil] at hvalid
 unfold overwriteStateValid at hstate
 cases hoverwrite:(itemAt t n).overwriteState with
 | none=>rfl
 | authorized=>simp [hoverwrite,hempty] at hstate
 | evacuated=>simp [hoverwrite,hempty] at hstate
 | evacuatedUnexpected=>simp [hoverwrite,hempty] at hstate

lemma given_of_asked {item : FileTransferItem} {question : List FileTransferConflictItem}
 (hasked:conflictItem item∈question)
 (hshows:Shows files item.destination (identityOf snapshot)):
 (destinationKey item,identityOf snapshot)∈givenUp files question:=by
 obtain ⟨object,hheld,hidentity⟩:=hshows
 refine List.mem_filterMap.mpr ⟨conflictItem item,hasked,?_⟩
 simp only [conflictItem,hheld,Option.map_some,hidentity]

end Overwrites

section Decisions
variable {prepared : FileTransferTransaction} {start : Files} {s : TransferState}
 {t : FileTransferTransaction} {n : ℕ} {canAsk : Bool}

section
variable (hs:KeptIn prepared start s)
include hs

lemma wp_assignCopyFrom (hinside:n<t.items.length)
 (hcopyable:Copyable (itemAt t n))
 {post : Option FileTransferTransaction → TransferState → Prop} (hnone:post none s)
 (hsome:∀copied,Recopied t copied → post (some copied) s) (remaining : ℕ):
 ∀o,wp transferWorld (KeptIn prepared start) post
  (assignCopyFrom t n remaining o) s:=by
 induction remaining with
 | zero=>
  intro o
  exact ⟨hs,hnone⟩
 | succ remaining ih=>
  intro o
  rw [assignCopyFrom,wp_bind]
  apply wp_stopRequested hs
  intro stopped
  cases stopped with
  | true=>exact ⟨hs,hnone⟩
  | false=>
   have huse:RenameUse.tryCopyName≠.execute:=nofun
   simp only [Bool.false_eq_true,if_false]
   split
   · exact ih _
   · rw [wp_bind]
     apply wp_lookRename hs huse
     intro result _
     split
     · exact ih _
     · exact ⟨hs,hsome _ (recopied_copied hinside hcopyable o)⟩

lemma wp_assignCopyDestination
 (hinside:n<t.items.length) (hcopyable:Copyable (itemAt t n))
 {post : Option FileTransferTransaction → TransferState → Prop} (hnone:post none s)
 (hsome:∀copied,Recopied t copied → post (some copied) s):
 wp transferWorld (KeptIn prepared start) post (assignCopyDestination t n) s:=
 wp_assignCopyFrom hs hinside hcopyable hnone hsome _ _

lemma wp_assignCopies
 {post : FileTransferTransaction × Bool → TransferState → Prop} (indices : List ℕ):
 ∀ {t : FileTransferTransaction}, (∀i∈indices,i<t.items.length ∧ Copyable (itemAt t i)) →
  (∀copied complete,Recopied t copied → post (copied,complete) s) →
  wp transferWorld (KeptIn prepared start) post (assignCopies t indices) s:=by
 induction indices with
 | nil=>
  intro t _ hpost
  exact ⟨hs,hpost t true (.refl t)⟩
 | cons n rest ih=>
  intro t hall hpost
  obtain ⟨hinside,hcopyable⟩:=hall n List.mem_cons_self
  rw [assignCopies,wp_bind]
  apply wp_assignCopyDestination hs hinside hcopyable
  · exact ⟨hs,hpost t false (.refl t)⟩
  · intro copied hrecopied
    apply ih
    · intro i hmem
      obtain ⟨hi,hagain⟩:=hall i (List.mem_cons_of_mem _ hmem)
      exact ⟨hrecopied.length ▸ hi,hrecopied.copyable hi hagain⟩
    · intro final complete hfinal
      exact hpost final complete (hrecopied.trans hfinal)

/-- The names looked for so far are given up with the rest. -/
lemma wp_noCopyNameLeft
 (h:Accounts prepared start waiting .none s.files s.approved)
 (hidle:waiting.activeStep=.none) (hrecopied:Recopied waiting copied):
 wp transferWorld (KeptIn prepared start) (TurnsBack prepared start) (noCopyName copied) s:=by
 apply wp_enterCleanup hs
 intro hsound
 have hcleaning:Accounts prepared start { waiting with phase:=.prepublishCleanup } .none
   s.files s.approved := h.resting rfl rfl rfl fun hno=>absurd rfl hno
 have hturned:Recopied { waiting with phase:=.prepublishCleanup } (recordFailure
   { clearActive copied with phase:=.prepublishCleanup } .conflict .noCommit
   (utf8 "a unique copy destination could not be selected")):=
  ⟨hrecopied.kind,hrecopied.operationId,rfl,hidle.symm,hrecopied.length,hrecopied.items⟩
 exact (Accounts.recopied hcleaning hturned hsound).resting rfl rfl rfl id

end

lemma describes_recopied (h:Accounts prepared start waiting .none s.files s.approved)
 (hidle:waiting.activeStep=.none) (hrecopied:Recopied waiting copied)
 (hsound:TransferSound copied) : Describes prepared start s copied:=by
 rw [Describes,hrecopied.step,hidle]
 exact Accounts.recopied h hrecopied hsound

lemma wp_overwriteDecision (hs:KeptIn prepared start s)
 (h:Accounts prepared start t .none s.files s.approved) (hinside:n<t.items.length)
 (hcopyable:Copyable (itemAt t n)) {snapshot : SourceSnapshot}
 (hshows:Shows s.files (itemAt t n).destination (identityOf snapshot)):
 wp transferWorld (KeptIn prepared start) (StepEnds prepared start t)
  (requestOverwrite.overwriteDecision t n snapshot) s:=by
 apply wp_persistThen hs
 · exact fun _=>h.resting rfl rfl rfl id
 · intro s' hs' hsame
   rw [wp_bind]
   apply wp_awaitConflictDecision hs'
   intro decision s'' hs'' hfiles hgiven
   have hafter:Accounts prepared start (upgraded (clearFailure (clearActive t))) .none
     s''.files s''.approved := Accounts.resting hs''.describes rfl rfl rfl id
   cases decision with
   | none=>exact ⟨hs''.kept,stepEnds_other nofun nofun⟩
   | some decision=>
    cases decision with
    | cancel=>exact wp_stepEnds (wp_cancelByUser hs''.kept hafter)
    | createCopy=>
     have hinside':n<(upgraded (clearFailure (clearActive t))).items.length:=hinside
     have hcopyable':Copyable (itemAt (upgraded (clearFailure (clearActive t))) n):=hcopyable
     rw [wp_bind]
     apply wp_assignCopyDestination hs''.kept hinside' hcopyable'
     · exact wp_stepEnds (wp_noCopyName hs''.kept hafter)
     · intro copied hrecopied
       apply wp_persistCommitted hs''.kept (describes_recopied hafter rfl hrecopied)
       rw [hrecopied.phase]
       exact Iff.rfl
    | overwrite=>
     have hfiles':s''.files=s.files:=hfiles.trans hsame.files
     have hasked:conflictItem (itemAt t n)∈[conflictItem (itemAt t n)]:=List.mem_singleton_self _
     have hin:=hgiven rfl _ (given_of_asked hasked (hsame.files ▸ hshows))
     apply wp_persistCommitted hs''.kept
     · intro _
       exact Accounts.authorized hafter
        ⟨hinside,hcopyable.unpublished,.inl hcopyable.plain,hin⟩
     · exact Iff.rfl

variable (prepared start) in
/-- Where nothing is decided nothing has changed. -/
def Asked (t : FileTransferTransaction) (before : TransferState)
  (out : FileTransferTransaction × Option StepResult) (s : TransferState) : Prop:=
 match out.2 with
 | none=>out.1 = t ∧ s = before
 | some result=>StepEnds prepared start t (out.1,result) s

lemma shows_of_conflict {request : RenameRequest} {use : RenameUse} {files : Files}
 {result : OperationResult} (htruth:RenameTruth files files request use result)
 (hconflict:conflictObserved t result=true):
 Shows files request.destination (identityOf result.confirmedSnapshot):=by
 simp only [conflictObserved,confirmedNoCommit,decide_eq_true_eq] at hconflict
 obtain ⟨hstatus,hevidence,hidentity,-⟩:=hconflict
 exact htruth.occupied hstatus hevidence hidentity

lemma wp_requestOverwrite (hs:KeptIn prepared start s) (hsound:TransferSound t)
 (h:Accounts prepared start t .none s.files s.approved) (hinside:n<t.items.length)
 (hunpublished:(itemAt t n).destinationState≠.published)
 (hunreserved:(itemAt t n).destinationState≠.tempReserved) {step : FileTransferStep}
 (hstep:step=.atomicMove ∨ step=.publishTemp):
 wp transferWorld (KeptIn prepared start) (Asked prepared start t s)
  (requestOverwrite canAsk t n step) s:=by
 rw [requestOverwrite,wp_bind]
 apply wp_stopRequested hs
 intro stopped
 cases stopped with
 | true=>exact ⟨hs,stepEnds_other nofun nofun⟩
 | false=>
  simp only [Bool.false_eq_true,if_false]
  split
  · exact ⟨hs,rfl,rfl⟩
  · next hask =>
    simp only [not_or,not_not] at hask
    have huse:RenameUse.observeConflict≠.execute:=nofun
    rw [wp_bind]
    apply wp_lookRename hs huse
    intro result htruth
    split
    · exact ⟨hs,rfl,rfl⟩
    · next hconflict =>
      rw [not_not] at hconflict
      have hshows:Shows s.files (itemAt t n).destination
        (identityOf result.confirmedSnapshot):=by
       have hseen:=shows_of_conflict htruth hconflict
       obtain rfl | rfl:=hstep
       · exact hseen
       · exact hseen
      have hplain:=plain_of_undecided hsound hinside hask.2
      rw [wp_bind]
      apply wp_consequence
       (wp_overwriteDecision hs h hinside ⟨hplain,hunpublished,hunreserved⟩ hshows)
      intro out s' hkept hout
      exact ⟨hkept,hout⟩

/-- A destination that was found occupied, of an item nobody was asked about. -/
def Found (t : FileTransferTransaction) (files : Files) (conflict : ℕ × SourceSnapshot) : Prop:=
 conflict.1 < t.items.length ∧ overwriteUndecided (itemAt t conflict.1) = true ∧
  Shows files (itemAt t conflict.1).destination (identityOf conflict.2)

lemma wp_observeConflicts (hs:KeptIn prepared start s) (indices : List ℕ):
 ∀ {post : Option (List (ℕ × SourceSnapshot)) → TransferState → Prop},
  (∀i∈indices,i<t.items.length) → post none s →
  (∀c,(∀conflict∈c,Found t s.files conflict) → post (some c) s) →
  wp transferWorld (KeptIn prepared start) post (observeConflicts t indices) s:=by
 induction indices with
 | nil=>
  intro post _ _ hsome
  exact ⟨hs,hsome [] nofun⟩
 | cons n rest ih=>
  intro post hall hnone hsome
  have hrest:=fun i hmem=>hall i (List.mem_cons_of_mem _ hmem)
  rw [observeConflicts]
  split
  · next hundecided =>
    rw [wp_bind]
    apply wp_stopRequested hs
    intro stopped
    cases stopped with
    | true=>exact ⟨hs,hnone⟩
    | false=>
     have huse:RenameUse.observeConflict≠.execute:=nofun
     simp only [Bool.false_eq_true,if_false]
     rw [wp_bind]
     apply wp_lookRename hs huse
     intro result htruth
     rw [wp_bind]
     apply ih hrest
     · exact ⟨hs,hnone⟩
     · intro c hfound
       refine ⟨hs,hsome _ ?_⟩
       intro conflict hmem
       obtain hmem | hmem:=List.mem_append.mp hmem
       · split at hmem
         · next hconflict =>
           rw [List.mem_singleton.mp hmem]
           exact ⟨hall n List.mem_cons_self,hundecided, shows_of_conflict htruth hconflict⟩
         · cases hmem
       · exact hfound conflict hmem
  · exact ih hrest hnone hsome

end Decisions

end VoVe.TransferContentConflicts
