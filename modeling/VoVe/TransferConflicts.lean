import VoVe.TransferCopyNames

set_option autoImplicit false

namespace VoVe.TransferConflicts
open PosixPath FileOperation
open TransferTransaction FileTransferCoordinator TransferShape
open TransferUpdates TransferCopyNames

variable {t t' : FileTransferTransaction} {n index : ℕ} {item' : FileTransferItem}

lemma idle_of_none (h:TransferSound t) (hnone:t.activeStep=.none) : Idle t:=by
 refine ⟨hnone,?_,h.idle hnone⟩
 have hactive:=h.active
 simpa [activeStepMatches,hnone] using hactive

lemma paths_of_claims (h:TransferSound t) (hclaims:t'.items.map claimOf=t.items.map claimOf)
 (i : ℕ) (hi:i<t'.items.length):
 PathsSound t.operationId (t'.items.take i) t'.items[i]:=by
 have hlength:t'.items.length=t.items.length:=by
  simpa using congrArg List.length hclaims
 have hi':i<t.items.length:=by omega
 apply (h.paths i hi').congr
 · rw [List.map_take,List.map_take,hclaims]
 · have:=congrArg (fun claims=>claims[i]?) hclaims
   simpa [List.getElem?_map,hi,hi'] using this.symm

lemma version_le (h:validTransactionVersion t.version=true):
 t.version≤kFileTransferTransactionVersion:=by
 simp only [validTransactionVersion,decide_eq_true_eq] at h
 obtain h | h | h:=h
 · rw [h]
   decide
 · rw [h]
   decide
 · rw [h]
   exact UInt32.le_refl _

lemma sound_sameItems (h:TransferSound t) (hrestates:Restates t t')
 (hitems:t'.items=t.items) : TransferSound t':=by
 apply h.restate hrestates
 · intro i hi hi'
   simp only [hitems]
   exact h.restated_same hrestates.version hi
 · exact paths_of_claims h (by rw [hitems])

lemma sound_waiting (h:TransferSound t) : TransferSound (clearFailure (clearActive t)):=
 sound_sameItems h ⟨rfl,rfl,rfl,rfl,UInt32.le_refl _,h.version,⟨rfl,rfl,rfl⟩,
  fun _=>⟨rfl,rfl⟩,rfl⟩ rfl

lemma sound_upgraded (h:TransferSound t) (hnone:t.activeStep=.none):
 TransferSound (upgraded t):=
 sound_sameItems h ⟨rfl,rfl,rfl,rfl,version_le h.version,by rfl,
  ⟨hnone,(idle_of_none h hnone).2⟩,fun hsuccess=>(h.failure hsuccess).2,rfl⟩ rfl

lemma sound_setItem (h:TransferSound t) (hnone:t.activeStep=.none)
 (hinside:n<t.items.length) (hrestated:Restated t t.version (itemAt t n) item')
 (hpaths:∀i (hi:i<(t.items.set n item').length),
  PathsSound t.operationId ((t.items.set n item').take i) (t.items.set n item')[i]):
 TransferSound (setItem t n item'):=by
 have hrestates:Restates t (setItem t n item'):=
  ⟨rfl,rfl,rfl,rfl,UInt32.le_refl _,h.version,⟨hnone,(idle_of_none h hnone).2⟩,
   fun hsuccess=>(h.failure hsuccess).2,by simp [setItem]⟩
 apply h.restate hrestates _ hpaths
 intro i hi hi'
 by_cases hsame:n=i
 · subst hsame
   rw [itemAt_eq hinside] at hrestated
   simp only [setItem,List.getElem_set_self]
   exact hrestated
 · simp only [setItem,List.getElem_set_ne hsame]
   exact h.restated_same (UInt32.le_refl _) hi

lemma unfinished_of_unpublished {kind : FileTransferKind} {item : FileTransferItem}
 (h:item.destinationState≠.published) : finalItem kind item=false:=by
 simp [finalItem,h]

lemma sound_copied (h:TransferSound t) (hnone:t.activeStep=.none) {candidate : Path}
 (hcopy:FreeCopy t n candidate)
 (hunpublished:(itemAt t n).destinationState≠.published):
 TransferSound (setItem t n (copiedItem t n candidate)):=by
 have hcleared:=sound_clearOverwrite (sound_itemAt h hcopy.inside)
 apply sound_setItem h hnone hcopy.inside
 · refine ⟨?_,rfl,?_,?_,.inl rfl⟩
   · exact ⟨hcleared.overwrite,hcleared.authorization,hcleared.backup,hcleared.identity,
      hcleared.current,hcleared.source,hcleared.strongOriginal,hcleared.strongCurrent,
      hcleared.strongDestination,hcleared.parents,hcleared.strategy,hcleared.proof,
      hcleared.restorable,hcleared.token⟩
   · rw [unfinished_of_unpublished hunpublished]
     exact unfinished_of_unpublished hunpublished
   · intro hpristine
     simp only [pristineItem,decide_eq_true_eq] at hpristine
     obtain ⟨hstrategy,hlocation,hstate,-,-,-,hrest⟩:=hpristine
     simp only [pristineItem,decide_eq_true_eq]
     exact ⟨hstrategy,hlocation,hstate,(by rintro ⟨⟩),(by rintro ⟨⟩),rfl,hrest⟩
 · exact hcopy.paths h

/-- A destination the journal can hold may be authorised to be overwritten. -/
structure Authorizable (t : FileTransferTransaction) (index : ℕ) (snapshot : SourceSnapshot):
  Prop where
 undecided : overwriteUndecided (itemAt t index)=true
 storable : Storable snapshot
 valid : validSnapshot snapshot=true
 unaliased : stableObjectIdentity snapshot.sourceRevisionUtf8∉t.items.map sourceIdentity

lemma restated_authorized (h:TransferSound t) (hinside:n<t.items.length)
  (hunpublished:(itemAt t n).destinationState≠.published)
  (hphase:t.phase≠.prepublishCleanup) (hversion:t.version≥5) {snapshot : SourceSnapshot}
  (hauthorizable:Authorizable t n snapshot):
  Restated t t.version (itemAt t n) (overwrittenItem (itemAt t n) snapshot) where
 sound:=sound_overwritten (sound_itemAt h hinside) hversion hauthorizable.undecided hphase
  hauthorizable.storable hauthorizable.valid
 identity:=rfl
 final:=by
  rw [unfinished_of_unpublished hunpublished]
  exact unfinished_of_unpublished hunpublished
 pristine:=by
  intro hpristine
  simp only [pristineItem,decide_eq_true_eq] at hpristine
  obtain ⟨hstrategy,hlocation,hstate,-,-,hrest⟩:=hpristine
  simp only [pristineItem,decide_eq_true_eq]
  exact ⟨hstrategy,hlocation,hstate,(by rintro ⟨⟩),(by rintro ⟨⟩),hrest⟩
 unaliased:=.inr hauthorizable.unaliased

lemma sound_authorized (h:TransferSound t) (hnone:t.activeStep=.none)
 (hinside:n<t.items.length)
 (hunpublished:(itemAt t n).destinationState≠.published)
 (hphase:t.phase≠.prepublishCleanup) (hversion:t.version≥5) {snapshot : SourceSnapshot}
 (hauthorizable:Authorizable t n snapshot):
 TransferSound (setItem t n (overwrittenItem (itemAt t n) snapshot)):=by
 apply sound_setItem h hnone hinside
  (restated_authorized h hinside hunpublished hphase hversion hauthorizable)
 have hclaims:(setItem t n (overwrittenItem (itemAt t n) snapshot)).items.map claimOf=
   t.items.map claimOf := claims_set hinside (by rw [itemAt_eq hinside]; rfl)
 exact paths_of_claims h hclaims

lemma conflict_authorizable {result : OperationResult} (hundecided:overwriteUndecided
 (itemAt t n)=true) (hconflict:conflictObserved t result=true)
 (hstorable:Storable result.confirmedSnapshot):
 Authorizable t n result.confirmedSnapshot:=by
 simp only [conflictObserved,decide_eq_true_eq] at hconflict
 obtain ⟨-,-,hidentity,hother⟩:=hconflict
 refine ⟨hundecided,hstorable,decide_eq_true hidentity,?_⟩
 intro hmem
 obtain ⟨other,hother',hsame⟩:=List.mem_map.mp hmem
 apply hother
 rw [List.any_eq_true]
 refine ⟨other,hother',?_⟩
 simp only [sameObjectIdentity,sourceIdentity] at hsame ⊢
 simp [hsame,hidentity]

end VoVe.TransferConflicts
