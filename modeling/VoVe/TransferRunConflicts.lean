import VoVe.TransferRoundTrip
import VoVe.TransferRunValidity

set_option autoImplicit false

namespace VoVe.TransferRunConflicts
open ByteCodec AsciiText Checks EffectProgram FileOperation
open TransferTransaction FileTransferProtocol FileTransferCoordinator TransferShape
open TransferUpdates TransferConflicts TransferRunRule TransferRunSteps
open TransferRunValidity TransferTransactionCodec TransferRoundTrip CurrentOperationJournal
open OperationRequest (RenameRequest DeleteRequest)

variable {sha256 : Bytes → ContentDigest} {canAsk : Bool} {s : Handing}
 {t t' : FileTransferTransaction} {n : ℕ}

/-- A prepared transaction: nothing has been done for any item. -/
structure Pending (t : FileTransferTransaction) : Prop where
 sound : TransferSound t
 phase : t.phase=.prepared

lemma Pending.idle (h:Pending t) : t.activeStep=.none := h.sound.terminal (.inl h.phase)

lemma Pending.unpublished (h:Pending t) (hinside:n<t.items.length):
 (itemAt t n).destinationState≠.published:=by
 have hpristine:=h.sound.prepared h.phase (itemAt t n)
  (by rw [itemAt_eq hinside]; exact List.getElem_mem hinside)
 simp [pristine_absent hpristine]

lemma Pending.settled (h:Pending t) : Settled t:=by
 intro item hmem hunsettled
 have habsent:=pristine_absent (h.sound.prepared h.phase item hmem)
 have hpublished:=hunsettled.2
 rw [habsent] at hpublished
 cases hpublished

lemma Pending.current (h:Pending t) : Current t (completedPrefix t):=
 current_of_phase h.sound (by simp [h.phase])

lemma Pending.waiting (h:Pending t) : Pending (clearFailure (clearActive t)):=
 ⟨sound_waiting h.sound,h.phase⟩

/-- A conflict found: an item without a decision, and the destination in its way. -/
structure Conflicting (t : FileTransferTransaction) (conflict : ℕ × SourceSnapshot) : Prop where
 inside : conflict.1<t.items.length
 ready : Storable conflict.2 → Authorizable t conflict.1 conflict.2

lemma itemAt_set_ne {other : ℕ} {item' : FileTransferItem} (hne:n≠other):
 itemAt (setItem t n item') other=itemAt t other:=by
 simp [itemAt,setItem,List.getElem?_set_ne hne,List.getD_eq_getElem?_getD]

lemma Pending.authorized (h:Pending t) (hinside:n<t.items.length)
 (hversion:t.version≥5) {snapshot : SourceSnapshot}
 (hauthorizable:Authorizable t n snapshot):
 Pending (setItem t n (overwrittenItem (itemAt t n) snapshot)):=
 ⟨sound_authorized h.sound h.idle hinside (h.unpublished hinside) (by simp [h.phase]) hversion
  hauthorizable,h.phase⟩

lemma Conflicting.other {conflict : ℕ × SourceSnapshot} (h:Conflicting t conflict)
  (hinside:n<t.items.length) (hne:n≠conflict.1) {item' : FileTransferItem}
  (hidentity:sourceIdentity item'=sourceIdentity (itemAt t n)):
  Conflicting (setItem t n item') conflict where
 inside:=by simpa [setItem] using h.inside
 ready hstorable:=by
  have hready:=h.ready hstorable
  refine ⟨?_,hready.storable,hready.valid,?_⟩
  · rw [itemAt_set_ne hne]
    exact hready.undecided
  · change _∉(t.items.set n item').map sourceIdentity
    rw [sourceIdentities_set hinside hidentity]
    exact hready.unaliased

lemma pending_authorized (c : List (ℕ × SourceSnapshot)) : ∀ {t : FileTransferTransaction},
 Pending t → t.version≥5 → (∀conflict∈c,Conflicting t conflict) →
 (c.map Prod.fst).Nodup → (∀conflict∈c,Storable conflict.2) →
 Pending (c.foldl (fun transaction conflict =>
  setItem transaction conflict.1
   (overwrittenItem (itemAt transaction conflict.1) conflict.2)) t):=by
 induction c with
 | nil=>exact fun h _ _ _ _=>h
 | cons first rest ih=>
  intro t h hversion hconflicting hnodup hstorable
  have hfirst:=hconflicting first List.mem_cons_self
  have hready:=hfirst.ready (hstorable first List.mem_cons_self)
  rw [List.map_cons,List.nodup_cons] at hnodup
  apply ih (h.authorized hfirst.inside hversion hready) hversion
  · intro conflict hmem
    apply (hconflicting conflict (List.mem_cons_of_mem _ hmem)).other hfirst.inside
    · intro heq
      exact hnodup.1 (heq ▸ List.mem_map_of_mem hmem)
    · rfl
  · exact hnodup.2
  · exact fun conflict hmem=>hstorable conflict (List.mem_cons_of_mem _ hmem)

lemma Pending.upgraded (h:Pending t) : Pending (upgraded t):=
 ⟨sound_upgraded h.sound h.idle,h.phase⟩

lemma pending_authorizeAll (h:Pending t) {c : List (ℕ × SourceSnapshot)}
 (hconflicting:∀conflict∈c,Conflicting t conflict)
 (hnodup:(c.map Prod.fst).Nodup)
 (hstorable:∀conflict∈c,Storable conflict.2):
 Pending (authorizeAll t c):=by
 apply pending_authorized c h.upgraded (upgraded_recent t) _ hnodup hstorable
 intro conflict hmem
 have hconflict:=hconflicting conflict hmem
 refine ⟨hconflict.inside,fun hstored=>?_⟩
 have hready:=hconflict.ready hstored
 exact ⟨hready.undecided,hready.storable,hready.valid,hready.unaliased⟩

/-- What is known of the conflicts once all items have been looked at. -/
structure Observed (t : FileTransferTransaction) (indices : List ℕ)
  (conflicts : List (ℕ × SourceSnapshot)) (s : Handing) : Prop where
 holds : Holds t s
 conflicting : ∀conflict∈conflicts,Conflicting t conflict
 sublist : (conflicts.map Prod.fst).Sublist indices
 seen : ∀conflict∈conflicts,conflict.2∈s.observed

lemma wp_observeConflicts (indices : List ℕ) (hinside:∀n∈indices,n<t.items.length):
 ∀ {s : Handing},Holds t s →
 wp (fitting sha256) AllSound
  (fun found s'=>(∀snapshot∈s.observed,snapshot∈s'.observed) ∧
   ∀c,found=some c → Observed t indices c s')
  (observeConflicts t indices) s:=by
 induction indices with
 | nil=>
  intro s hs
  refine ⟨hs.all,fun _ hmem=>hmem,fun c hfound=>?_⟩
  cases hfound
  exact ⟨hs,by simp,List.Sublist.slnil,by simp⟩
 | cons n rest ih=>
  intro s hs
  have hlater:∀other∈rest,other<t.items.length:=
   fun other hmem=>hinside other (List.mem_cons_of_mem _ hmem)
  rw [observeConflicts]
  split
  · next hundecided =>
    rw [wp_bind]
    apply wp_stopRequested hs.all
    intro stopped
    cases stopped with
    | true=>exact ⟨hs.all,fun _ hmem=>hmem,nofun⟩
    | false=>
     simp only [Bool.false_eq_true,if_false]
     rw [wp_bind]
     apply wp_observeConflict hs
     intro result s' hs' hadded hkept
     rw [wp_bind]
     apply wp_consequence (ih hlater hs')
     rintro found s'' hall ⟨hseen,hfound⟩
     have hmore:∀snapshot∈s.observed,snapshot∈s''.observed:=
      fun snapshot hmem=>hseen snapshot (hkept snapshot hmem)
     cases found with
     | none=>exact ⟨hall,hmore,nofun⟩
     | some others=>
      refine ⟨hall,hmore,fun c hconflicts=>?_⟩
      cases hconflicts
      have hothers:=hfound others rfl
      split
      · next hconflict =>
        have hfirst:Conflicting t (n,result.confirmedSnapshot):=
         ⟨hinside n List.mem_cons_self, conflict_authorizable hundecided hconflict⟩
        refine ⟨hothers.holds,?_,hothers.sublist.cons_cons n,?_⟩
        · intro conflict hmem
          obtain rfl | hmem:=List.mem_cons.mp hmem
          · exact hfirst
          · exact hothers.conflicting conflict hmem
        · intro conflict hmem
          obtain rfl | hmem:=List.mem_cons.mp hmem
          · apply hseen
            rw [hadded hconflict]
            exact List.mem_append_right _ (List.mem_singleton_self _)
          · exact hothers.seen conflict hmem
      · exact ⟨hothers.holds,hothers.conflicting,hothers.sublist.cons n, hothers.seen⟩
  · apply wp_consequence (ih hlater hs)
    rintro found s' hall ⟨hseen,hfound⟩
    refine ⟨hseen,fun c hconflicts=>?_⟩
    have hothers:=hfound c hconflicts
    exact ⟨hothers.holds,hothers.conflicting,hothers.sublist.cons n,hothers.seen⟩

lemma wp_assignCopies (indices : List ℕ) {t₀ : FileTransferTransaction} (hs:Holds t₀ s):
 ∀ {t : FileTransferTransaction},Pending t → (∀n∈indices,n<t.items.length) →
 wp (fitting sha256) AllSound (fun out s'=>s'=s ∧ Pending out.1) (assignCopies t indices)
  s:=by
 induction indices with
 | nil=>exact fun h _=>⟨hs.all,rfl,h⟩
 | cons n rest ih=>
  intro t h hinside
  have hfirst:=hinside n List.mem_cons_self
  rw [assignCopies,wp_bind]
  apply wp_assignCopyDestination hfirst hs
  · exact ⟨hs.all,rfl,h⟩
  · intro candidate hcopy
    have hcopied:Pending (setItem t n (copiedItem t n candidate)):=
     ⟨sound_copied h.sound h.idle hcopy (h.unpublished hfirst),h.phase⟩
    apply ih hcopied
    intro other hmem
    simpa [setItem] using hinside other (List.mem_cons_of_mem _ hmem)

lemma wp_cleanupAfter {step : TransferStep} (turns : ℕ)
 (hstep:wp (fitting sha256) AllSound TurnsBack step s):
 wp (fitting sha256) AllSound (fun _ _=>True) (cleanupAfter sha256 canAsk turns step) s:=by
 rw [cleanupAfter,wp_bind]
 apply wp_consequence hstep
 rintro ⟨transaction,result⟩ s' hall hback
 simp only
 split
 · exact ⟨hall,trivial⟩
 · next hstored =>
   obtain hjournal | ⟨-,hs',hsound,hphase⟩:=hback
   · exact absurd hjournal hstored
   · exact wp_continueCleanup hsound hphase hs' turns

lemma wp_persistDecision (h:Pending t) (hs:AllSound s) (turns : ℕ):
 wp (fitting sha256) AllSound (fun _ _=>True) (persistDecision sha256 canAsk turns t) s:=by
 rw [persistDecision,wp_bind]
 apply wp_persist h.sound hs
 · intro s' hs' _
   exact wp_continueTransaction h.sound h.settled hs' turns
 · intro detail s' hs' _ _
   exact ⟨hs',trivial⟩

lemma wp_decideInitialConflicts (h:Pending t) {c : List (ℕ × SourceSnapshot)}
 (hobserved:Observed t (List.range t.items.length) c s) (turns : ℕ):
 wp (fitting sha256) AllSound (fun _ _=>True)
  (decideInitialConflicts sha256 canAsk turns t c) s:=by
 have hwaiting:=h.waiting
 have hconflicting:∀conflict∈c, Conflicting (clearFailure (clearActive t)) conflict:=by
  intro conflict hmem
  have hconflict:=hobserved.conflicting conflict hmem
  refine ⟨hconflict.inside,fun hstored=>?_⟩
  have hready:=hconflict.ready hstored
  exact ⟨hready.undecided,hready.storable,hready.valid,hready.unaliased⟩
 have hunpublished:=hwaiting.unpublished hwaiting.current.inside
 rw [decideInitialConflicts,wp_bind]
 apply wp_persist hwaiting.sound hobserved.holds.all
 · intro s' hs' hkept
   rw [wp_bind]
   apply wp_awaitConflictDecision hs'
   intro decision s'' hs'' hfits
   cases decision with
   | none=>exact ⟨hs''.all,trivial⟩
   | some decision=>
    cases decision with
    | cancel=>
     exact wp_cleanupAfter turns
      (wp_cancelByUser hwaiting.sound hwaiting.current hunpublished (hfits h.phase) hs''.all)
    | createCopy=>
     have hinside:∀n∈c.map Prod.fst, n<(clearFailure (clearActive t)).items.length:=by
      intro n hmem
      obtain ⟨conflict,hfound,rfl⟩:=List.mem_map.mp hmem
      exact (hobserved.conflicting conflict hfound).inside
     rw [wp_bind]
     apply wp_consequence (wp_assignCopies _ hs'' hwaiting hinside)
     rintro ⟨assigned,complete⟩ s₃ hall ⟨rfl,hassigned⟩
     simp only
     split
     · exact wp_persistDecision hassigned hall turns
     · exact wp_cleanupAfter turns (wp_noCopyName hassigned.sound hassigned.current
        (hassigned.unpublished hassigned.current.inside) hall)
    | overwrite=>
     have hstorable:∀conflict∈c,Storable conflict.2:=by
      intro conflict hmem
      exact hfits conflict.2 (hkept ▸ hobserved.seen conflict hmem)
     have hnodup:=hobserved.sublist.nodup List.nodup_range
     exact wp_persistDecision (pending_authorizeAll hwaiting hconflicting hnodup hstorable)
      hs''.all turns
 · intro detail s' hs' _ _
   exact ⟨hs',trivial⟩

lemma wp_continueFrom (h:TransferSound t) (hsettled:Settled t) (hs:Holds t s)
 (turns : ℕ):
 wp (fitting sha256) AllSound (fun _ _=>True) (continueFrom sha256 canAsk turns t) s:=by
 unfold continueFrom
 split
 · next hask =>
   have hinside:∀n∈List.range t.items.length,n<t.items.length:=
    fun _ hmem=>List.mem_range.mp hmem
   rw [wp_bind]
   apply wp_consequence (wp_observeConflicts _ hinside hs)
   rintro found s' hall ⟨-,hfound⟩
   cases found with
   | none=>exact ⟨hall,trivial⟩
   | some c=>
    have hobserved:=hfound c rfl
    cases c with
    | nil=>exact wp_continueTransaction h hsettled hobserved.holds turns
    | cons first rest=>exact wp_decideInitialConflicts ⟨h,hask.2⟩ hobserved turns
 · exact wp_continueTransaction h hsettled hs turns

section Approvals

/-- The overwrites approved beforehand are of objects the journal can hold. -/
def ApprovalsFit (sources : List FileTransferSource) : Prop:=
 ∀source ∈ sources,source.authorizedOverwriteDestination.sourceRevisionUtf8≠[] →
  Storable source.authorizedOverwriteDestination ∧
  validSnapshot source.authorizedOverwriteDestination = true ∧
  stableObjectIdentity source.authorizedOverwriteDestination.sourceRevisionUtf8 ∉
   sources.map fun source=>stableObjectIdentity source.snapshot.sourceRevisionUtf8

variable {kind : FileTransferKind} {sources : List FileTransferSource} {operationId : UInt64}

section
variable (h:prepareFileTransferTransaction kind sources operationId=.ok t)
include h

lemma prepared_eq:
 Pending t ∧ t.version≥5 ∧ t.items=sources.mapIdx (preparedItem kind operationId):=by
 unfold prepareFileTransferTransaction at h
 rw [bind_unit_eq_ok] at h
 obtain ⟨-,h⟩:=h
 rw [bind_unit_eq_ok,TransactionCodec.throwInvalid_eq_ok,bind_eq_ok] at h
 obtain ⟨hvalid,_,-,heq⟩:=h
 cases heq
 have hversion:kFileTransferTransactionVersion≥5:=by decide
 exact ⟨⟨(transferValid_iff _).mp hvalid,rfl⟩,hversion,rfl⟩

lemma pending_approved
 (hfits:ApprovalsFit sources) : Pending (authorizeApproved t sources):=by
 obtain ⟨hpending,hversion,hitems⟩:=prepared_eq h
 have hlength:t.items.length=sources.length:=by simp [hitems]
 have hidentities:t.items.map sourceIdentity=
   sources.map fun source=>stableObjectIdentity source.snapshot.sourceRevisionUtf8:=by
  rw [hitems]
  apply List.ext_getElem (by simp)
  intro i hi hi'
  simp [sourceIdentity,preparedItem]
 have hitem:∀i (hi:i<t.items.length) (hi':i<(authorizeApproved t sources).items.length),
   (authorizeApproved t sources).items[i]=t.items[i] ∨
   ∃ snapshot,Authorizable t i snapshot ∧
    (authorizeApproved t sources).items[i]=overwrittenItem t.items[i] snapshot:=by
  intro i hi hi'
  have hsource:i<sources.length:=by omega
  simp only [authorizeApproved,List.getElem_zipWith]
  split
  · exact .inl rfl
  · next happroved =>
    obtain ⟨hstorable,hvalid,hother⟩:=hfits _ (List.getElem_mem hsource) happroved
    refine .inr ⟨_,⟨?_,hstorable,hvalid,?_⟩,rfl⟩
    · rw [itemAt_eq hi]
      simp [hitems,overwriteUndecided,preparedItem]
    · rw [hidentities]
      exact hother
 have hkept:(authorizeApproved t sources).items.length=t.items.length:=by
  simp [authorizeApproved,hlength]
 have hclaims:(authorizeApproved t sources).items.map claimOf=t.items.map claimOf:=by
  apply List.ext_getElem (by simp [hkept])
  intro i hi hi'
  have hinside:i<t.items.length:=by simpa using hi'
  have hinside':i<(authorizeApproved t sources).items.length:=by simpa using hi
  rw [List.getElem_map,List.getElem_map]
  obtain hsame | ⟨snapshot,-,hsame⟩:=hitem i hinside hinside'
  · rw [hsame]
  · rw [hsame]
    rfl
 have hidle:=idle_of_none hpending.sound hpending.idle
 refine ⟨hpending.sound.restate ?_ ?_ (paths_of_claims hpending.sound hclaims),hpending.phase⟩
 · exact ⟨rfl,rfl,rfl,rfl,UInt32.le_refl _,hpending.sound.version,hidle,
    fun hsuccess=>(hpending.sound.failure hsuccess).2,hkept⟩
 · intro i hi hi'
   obtain hsame | ⟨snapshot,hauthorizable,hsame⟩:=hitem i hi hi'
   · rw [hsame]
     exact hpending.sound.restated_same (UInt32.le_refl _) hi
   · rw [hsame,←itemAt_eq hi]
     exact restated_authorized hpending.sound hi (hpending.unpublished hi)
      (by simp [hpending.phase]) hversion hauthorizable

lemma wp_runPrepared
 (hfits:ApprovalsFit sources) (hs:AllSound s) (turns : ℕ):
 wp (fitting sha256) AllSound (fun _ _=>True) (runPrepared sha256 canAsk turns t sources)
  s:=by
 have happroved:=pending_approved h hfits
 rw [runPrepared,wp_bind]
 apply wp_persist happroved.sound hs
 · intro s' hs' _
   exact wp_continueFrom happroved.sound happroved.settled hs' turns
 · intro detail s' hs' _ _
   exact ⟨hs',trivial⟩

end

end Approvals

lemma decoded_valid {payload detail : Bytes}
 (h:decodeFileTransferTransaction payload detail=.ok t) : TransferValid t:=by
 obtain ⟨-,_,_,_,-,_,-,-,hvalid,-⟩:=(decodeFileTransferTransaction_iff _ _).mp h
 exact hvalid

/-- Before the first journal write of a run. -/
def starting (transaction : FileTransferTransaction) : Handing := { current:=transaction }

lemma allSound_starting : AllSound (starting t) := fun _ hmem=>absurd hmem List.not_mem_nil

/-- Unless an answer says something the journal has no place for, every transaction
  that a run hands to `persist` is valid, wherever the run is cut. -/
theorem handed_transfers_valid (sha256 : Bytes → ContentDigest) (canAsk : Bool) (turns : ℕ):
 (∀loaded transaction,decodeFileTransferTransaction loaded.payload []=.ok transaction →
  Settled transaction → ∀after,
  Leaves (handing (AnswerFits sha256)) (resumeFrom sha256 canAsk turns loaded)
   (starting transaction) after →
  ∀next∈after.handed,TransferValid next) ∧
 (∀kind sources operationId prepared,
  prepareFileTransferTransaction kind sources operationId=.ok prepared →
  ApprovalsFit sources → ∀after,
  Leaves (handing (AnswerFits sha256)) (runPrepared sha256 canAsk turns prepared sources)
   (starting prepared) after →
  ∀next∈after.handed,TransferValid next):=by
 constructor
 · intro loaded t hdecoded hsettled after hrun next hnext
   have hsound:=(transferValid_iff t).mp (decoded_valid hdecoded)
   have hrule:wp (fitting sha256) AllSound (fun _ _=>True)
     (resumeFrom sha256 canAsk turns loaded) (starting t):=by
    unfold resumeFrom
    split
    · exact ⟨allSound_starting,trivial⟩
    · rw [hdecoded]
      exact wp_continueFrom hsound hsettled ⟨allSound_starting,rfl⟩ turns
   exact (transferValid_iff next).mpr (wp_leaves hrule hrun next hnext)
 · intro kind sources operationId prepared hprepared hfits after hrun next hnext
   have hall:=wp_leaves (wp_runPrepared hprepared hfits allSound_starting turns) hrun
   exact (transferValid_iff next).mpr (hall next hnext)

/-- One file, `/d/a`, to be copied to `/e/a`. -/
def copySource : FileTransferSource:=
 { path:=⟨utf8 "/d/a"⟩,destination:=⟨utf8 "/e/a"⟩
   snapshot:={ sizeBytes:=5,sourceRevisionUtf8:=utf8 "posix:1:2:3" }
   sourceParentRevisionUtf8:=utf8 "posix:1:4:3"
   destinationParentRevisionUtf8:=utf8 "posix:1:5:3" }

def copyOfVersion (version : UInt32) : FileTransferTransaction:=
 { version:=version,operationId:=1,items:=[preparedItem .copy 1 0 copySource] }

def journalOfVersion (version : UInt32) : CurrentOperationJournalReadResult:=
 { status:=.success,kind:=.fileTransfer,encoding:=.typed
   payload:=transferPayload (copyOfVersion version) }

variable (decision : Handing → Option FileTransferConflictDecision)

/-- A file is in the way at the destination; everything else comes to nothing. -/
def answerOccupied : (o : TransferOp) → Handing → TransferReply o
 | .persist transaction, _=>validFileTransferTransaction transaction
 | .removeJournal, _=>.ok ()
 | .readJournal, _=>{}
 | .stopRequested, _=>false
 | .submitRename _ .observeConflict, _=>
  { status:=.conflict,evidence:=.noCommit
    confirmedSnapshot:={ sourceRevisionUtf8:=utf8 "posix:1:9:3" } }
 | .submitRename _ _, _=>{ status:=.conflict }
 | .submitDelete _ _, _=>{ status:=.ioError }
 | .submitStream _, _=>.rejected
 | .acknowledgeReservation request _ _, _=>
  { operationId:=request.operationId,itemIndex:=request.itemIndex
    requestToken:=request.requestToken,status := .ioError }
 | .submitAudit _, _=>.rejected
 | .acknowledgeAudit request _, _=>
  { operationId:=request.operationId,itemIndex:=request.itemIndex
    requestToken:=request.requestToken,status := .ioError }
 | .awaitConflictDecision _, before=>decision before
 | .randomDevice, _=>.zero _

def handleOccupied (o : TransferOp)
  (before : Handing) : TransferReply o × Handing:=
 (answerOccupied decision o before,noted before o (answerOccupied decision o before))

def noDigest : Bytes → ContentDigest := fun _=>.zero _

lemma journal_decodes:
 decodeFileTransferTransaction (journalOfVersion kFileTransferTransactionVersion).payload []=
  .ok (copyOfVersion kFileTransferTransactionVersion):=by
 decide +kernel

lemma copy_prepared : prepareFileTransferTransaction .copy [copySource] 1=
 .ok (copyOfVersion kFileTransferTransactionVersion):=by
 decide +kernel

/-- The user turns the copy down, where the journal has a place for that. -/
def turnedDown (before : Handing) : Option FileTransferConflictDecision:=
 if before.current.version ≥ 5 then some .cancel else none

lemma turnedDown_fits (before : Handing) (o : TransferOp):
 AnswerFits noDigest before o (answerOccupied turnedDown o before):=by
 cases o with
 | submitRename request use=>
  cases use with
  | execute=>
   simp only [AnswerFits,RenameReplyFits,answerOccupied]
   simp [unexpectedEvacuation,mutationCommitted,FailureFits]
  | recover=>
   simp only [AnswerFits,RenameReplyFits,answerOccupied]
   simp [unexpectedEvacuation,mutationCommitted,confirmedNoCommit,FailureFits]
  | observeConflict=>trivial
  | tryCopyName=>exact fun hfree=>absurd rfl hfree
 | submitDelete request use=>
  cases use with
  | execute=>simp [AnswerFits,DeleteReplyFits,answerOccupied,FailureFits]
  | recover=>simp [AnswerFits,DeleteReplyFits,answerOccupied,FailureFits]
  | probeTemp=>rintro ⟨⟩
  | probeStagedSource=>trivial
 | acknowledgeReservation request reservation accepted=>
  simp only [AnswerFits,answerOccupied]
  split
  · rintro ⟨⟩
  · simp [StreamResultFits,streamMatches,FileTransferStreamResult.ok]
 | awaitConflictDecision question=>
  simp only [AnswerFits,answerOccupied,turnedDown]
  split
  · next hversion => exact fun _=>hversion
  · trivial
 | persist transaction=>trivial
 | removeJournal=>trivial
 | readJournal=>trivial
 | stopRequested=>trivial
 | submitStream request=>trivial
 | submitAudit request=>trivial
 | acknowledgeAudit request outcome=>trivial
 | randomDevice=>trivial

/-- The file in the way is seen, the user is asked and turns the copy down; the same
  from the journal and from a new request. -/
theorem handed_transfers_valid_copy : (∀next∈((resumeFrom noDigest true 5
   (journalOfVersion kFileTransferTransactionVersion)).run (handleOccupied turnedDown)
   (starting (copyOfVersion kFileTransferTransactionVersion))).2.handed,TransferValid next) ∧
 (∀next∈((runPrepared noDigest true 5 (copyOfVersion kFileTransferTransactionVersion)
   [copySource]).run (handleOccupied turnedDown)
   (starting (copyOfVersion kFileTransferTransactionVersion))).2.handed,
  TransferValid next):=by
 have hsound:∀o before,(handing (AnswerFits noDigest)).answers o before
   (handleOccupied turnedDown o before).1 (handleOccupied turnedDown o before).2:=
  fun o before=>⟨turnedDown_fits before o,rfl⟩
 have hsettled:Settled (copyOfVersion kFileTransferTransactionVersion):=by
  intro item hmem
  rw [List.mem_singleton.mp hmem]
  exact fun hunsettled=>nomatch hunsettled.2
 have hfits:ApprovalsFit [copySource]:=by
  intro source hmem
  rw [List.mem_singleton.mp hmem]
  exact fun happroved=>absurd rfl happroved
 exact ⟨(handed_transfers_valid noDigest true 5).1 _ _ journal_decodes hsettled _
   (run_completes hsound _ _).leaves,
  (handed_transfers_valid noDigest true 5).2 _ _ _ _ copy_prepared hfits _
   (run_completes hsound _ _).leaves⟩

/-- Cancelling a copy that is read from a journal of version 4 is recorded where the
  validator allows it from version 5 on only. -/
theorem handed_transfers_invalid_cancelled : ¬∀sha256 canAsk turns loaded transaction,
  decodeFileTransferTransaction loaded.payload []=.ok transaction → ∀after,
  Leaves (handing fun _ _ _=>True) (resumeFrom sha256 canAsk turns loaded)
   (starting transaction) after →
  ∀next∈after.handed,TransferValid next:=by
 intro h
 have hdecoded:decodeFileTransferTransaction (journalOfVersion 4).payload []=
   .ok (copyOfVersion 4) := by decide +kernel
 have hsound:∀o before,(handing fun _ _ _=>True).answers o before
   (handleOccupied (fun _=>some .cancel) o before).1
   (handleOccupied (fun _=>some .cancel) o before).2 := fun _ _=>⟨trivial,rfl⟩
 have hall:=h noDigest true 5 _ _ hdecoded _ (run_completes hsound _ _).leaves
 unfold TransferValid at hall
 revert hall
 decide +kernel

end VoVe.TransferRunConflicts
