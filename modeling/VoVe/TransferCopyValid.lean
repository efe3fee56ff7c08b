import VoVe.PathText
import VoVe.TransferConflicts

set_option autoImplicit false

namespace VoVe.TransferCopyValid
open ByteCodec AsciiText PosixPath Checks DestinationFilename FileOperation EffectProgram
open TransferTransaction FileTransferCoordinator TransferShape TransferUpdates
open TransferCopyNames

section Names
variable (dst destination : Path) (ordinal : ℕ)

/-- What a copy's name has between the stem and the extension. -/
def copyTail : Bytes := copyMark++(if ordinal > 1 then utf8 "_" ++ toChars 10 ordinal else [])

lemma copyLeaf_eq : copyLeaf dst ordinal=
 dst.stem.native++(copyTail ordinal++dst.extension.native):=by
 rw [copyLeaf,copyTail,List.append_assoc]

lemma digit_plain (b : UInt8) (h:48≤b ∧ b≤57):
 b≥0x20 ∧ b∉forbiddenCharacters ∧ b≠dot ∧ b≠32:=by
 have hforbidden:forbiddenCharacters.all (fun other=>other<48 ∨ 57<other)=true:=by
  decide
 have hleast:(0x20 : UInt8)≤48:=by decide
 refine ⟨UInt8.le_trans hleast h.1,?_,?_,?_⟩
 · intro hmem
   have hother:=List.all_eq_true.mp hforbidden b hmem
   rw [decide_eq_true_eq] at hother
   exact hother.elim (UInt8.not_lt.mpr h.1) (UInt8.not_lt.mpr h.2)
 · rintro rfl
   exact absurd h.1 (by decide)
 · rintro rfl
   exact absurd h.1 (by decide)

lemma copyTail_byte : ∀b∈copyTail ordinal,
 b≥0x20 ∧ b∉forbiddenCharacters ∧ b≠dot ∧ b≠32:=by
 intro b hbyte
 rw [copyTail,List.mem_append] at hbyte
 cases hbyte with
 | inl hmark=>
  revert b
  refine @of_decide_eq_true _ (List.decidableBAll _ _) ?_
  decide
 | inr hnumber=>
  split at hnumber
  · rw [List.mem_append] at hnumber
    cases hnumber with
    | inl hline=>
     revert b
     refine @of_decide_eq_true _ (List.decidableBAll _ _) ?_
     decide
    | inr hdigit=>
     have hrange:=toChars_decimal ordinal b hdigit
     exact digit_plain b hrange
  · cases hnumber

lemma extension_cases : dst.extension.native=[] ∨ ∃ rest,dst.extension.native=dot::rest:=by
 rw [Path.extension]
 cases hstart:Path.extensionStart dst.filename.native with
 | none=>exact .inl rfl
 | some position=>
  right
  have hlast:findLast dst.filename.native dot=some position:=by
   unfold Path.extensionStart at hstart
   split at hstart
   · cases hstart
   · split at hstart
     · cases hstart
     · exact hstart
  rw [findLast,Option.map_eq_some_iff] at hlast
  obtain ⟨i,hi,rfl⟩:=hlast
  obtain ⟨hlt,hbyte,-⟩:=List.findIdx?_eq_some_iff_getElem.mp hi
  rw [List.length_reverse] at hlt
  rw [List.getElem_reverse,beq_iff_eq] at hbyte
  change ∃ rest,dst.filename.native.drop _=dot::rest
  rw [List.drop_eq_getElem_cons (by omega),hbyte]
  exact ⟨_,rfl⟩

lemma validUtf8_copyLeaf (h:validUtf8 dst.filename.native=true):
 validUtf8 (copyLeaf dst ordinal)=true:=by
 have hparts:validUtf8 dst.stem.native=true ∧ validUtf8 dst.extension.native=true:=by
  rw [←stem_append_extension] at h
  obtain hnone | ⟨rest,hrest⟩:=extension_cases dst
  · rw [hnone,List.append_nil] at h
    exact ⟨h,by rw [hnone]; rfl⟩
  · rw [hrest,PathText.validUtf8_separated (by decide),Bool.and_eq_true] at h
    rw [hrest]
    exact ⟨h.1,by rw [validUtf8,if_pos (by decide)]; exact h.2⟩
 have hends (front : Bytes) (hfront:validUtf8 front=true):
   validUtf8 (front++dst.extension.native)=true:=by
  obtain hnone | ⟨rest,hrest⟩:=extension_cases dst
  · rwa [hnone,List.append_nil]
  · have hextension:=hparts.2
    rw [hrest,validUtf8,if_pos (by decide)] at hextension
    rw [hrest,PathText.validUtf8_separated (by decide),hfront,hextension]
    rfl
 have htail:validUtf8 ((copyTail ordinal).tail)=true:=by
  unfold copyTail
  split
  · change validUtf8 ([0xd0,0xba,0xd0,0xbe,0xd0,0xbf,0xd0,0xb8,0xd1,0x8f] ++
     0x5f::toChars 10 ordinal)=true
    have hdigits:(toChars 10 ordinal).all PathText.asciiByte=true:=by
     apply PathText.ascii_of_digits
     rw [List.all_eq_true]
     intro b hbyte
     exact decide_eq_true (toChars_decimal ordinal b hbyte)
    have hascii:=PathText.validUtf8_of_ascii hdigits
    rw [validUtf8WithoutNul,Bool.and_eq_true] at hascii
    rw [PathText.validUtf8_separated (by decide),hascii.2]
    decide
  · decide
 rw [copyLeaf_eq]
 change validUtf8 (dst.stem.native ++ 0x5f::((copyTail ordinal).tail++dst.extension.native))=true
 rw [PathText.validUtf8_separated (by decide),hparts.1,hends _ htail]
 rfl

lemma reserved_copyLeaf (h:reservedWindowsStem dst.filename.native=false):
 reservedWindowsStem (copyLeaf dst ordinal)=false:=by
 rw [copyLeaf_eq]
 rw [←stem_append_extension] at h
 by_cases hdot:dot∈dst.stem.native
 · have hstop (rest : Bytes) : (dst.stem.native++rest).takeWhile (·≠dot)=
     dst.stem.native.takeWhile (·≠dot):=by
    rw [List.takeWhile_append,if_neg]
    intro hall
    have hbyte:=List.mem_takeWhile_imp (p := fun b=>decide (b≠dot))
     ((List.takeWhile_prefix _).eq_of_length hall ▸ hdot)
    exact decide_eq_true_eq.mp hbyte rfl
   rw [reservedWindowsStem,hstop] at h ⊢
   exact h
 · have htail:∀b∈dst.stem.native++copyTail ordinal, decide (b≠dot)=true:=by
    intro b hbyte
    rw [decide_eq_true_eq]
    intro heq
    rw [heq,List.mem_append] at hbyte
    exact hbyte.elim hdot fun hmem=>(copyTail_byte ordinal dot hmem).2.2.1 rfl
   have hwhole:(dst.stem.native ++ (copyTail ordinal++dst.extension.native)).takeWhile (·≠dot)=
      dst.stem.native++copyTail ordinal:=by
    rw [←List.append_assoc,List.takeWhile_append_of_pos htail]
    obtain hnone | ⟨rest,hrest⟩:=extension_cases dst
    · rw [hnone,List.takeWhile_nil,List.append_nil]
    · rw [hrest,List.takeWhile_cons_of_neg (by simp),List.append_nil]
   have hmark:(0x5f : UInt8)∈dst.stem.native++copyTail ordinal:=
    List.mem_append_right _ (List.mem_append_left _ (by decide))
   have hline:(0x5f : UInt8)∈(dst.stem.native++copyTail ordinal).map asciiUpper:=
    List.mem_map.mpr ⟨0x5f,hmark,by decide⟩
   have hlong:11≤((dst.stem.native++copyTail ordinal).map asciiUpper).length:=by
    simp [copyTail,copyMark]
    omega
   have hreserved:∀stem∈reservedStems,(0x5f : UInt8)∉stem:=by decide
   simp only [reservedWindowsStem,hwhole,decide_eq_false_iff_not,not_or,not_and]
   exact ⟨fun hmem=>hreserved _ hmem hline,fun hshort=>by omega,fun hshort=>by omega⟩

lemma last_copyLeaf (h:dst.filename.native.getLast?≠some dot ∧
 dst.filename.native.getLast?≠some 32):
 (copyLeaf dst ordinal).getLast?≠some dot ∧ (copyLeaf dst ordinal).getLast?≠some 32:=by
 rw [copyLeaf_eq,←List.append_assoc]
 obtain hnone | ⟨rest,hrest⟩:=extension_cases dst
 · have htail:copyTail ordinal≠[]:=by simp [copyTail,copyMark]
   rw [hnone,List.append_nil,List.getLast?_append_of_ne_nil _ htail]
   have hbyte (b : UInt8) (hlast:(copyTail ordinal).getLast?=some b):=
    (copyTail_byte ordinal b (List.mem_of_getLast? hlast)).2.2
   exact ⟨fun hlast=>(hbyte _ hlast).1 rfl,fun hlast=>(hbyte _ hlast).2 rfl⟩
 · have hne:dst.extension.native≠[]:=by
    rw [hrest]
    exact List.cons_ne_nil _ _
   rw [←stem_append_extension,List.getLast?_append_of_ne_nil _ hne] at h
   rwa [List.getLast?_append_of_ne_nil _ hne]

lemma copyName_iff (h:DestinationName dst.filename):
 DestinationName (copyDestinationPath dst ordinal).filename ↔
  (copyDestinationPath dst ordinal).filename.native.length≤portableMaximumComponentUnits:=by
 have hfilename:=h.filename_eq
 have hutf8:=h.validUtf8
 simp only [DestinationName,validDestinationFilename,validPortableFilename,bind_unit_eq_ok,
  require_eq_ok,decide_eq_true_eq,hfilename,Bool.and_eq_true,Bool.not_eq_true',
  List.all_eq_true] at h
 obtain ⟨-,-,-,-,hlast,hbytes,hreserved⟩:=h
 have hbyte:∀b∈copyLeaf dst ordinal, b≥0x20 ∧ b∉forbiddenCharacters:=by
  intro b hbyte
  rw [←stem_append_extension] at hbytes
  rw [copyLeaf_eq,List.mem_append,List.mem_append] at hbyte
  obtain hstem | htail | hextension:=hbyte
  · exact hbytes b (List.mem_append_left _ hstem)
  · have hplain:=copyTail_byte ordinal b htail
    exact ⟨hplain.1,hplain.2.1⟩
  · exact hbytes b (List.mem_append_right _ hextension)
 have hleaf:(⟨copyLeaf dst ordinal⟩ : Path).filename=
   ⟨copyLeaf dst ordinal⟩ := filename_of_leaf (slash_not_mem_copyLeaf dst ordinal)
 have hmark:(0x5f : UInt8)∈copyLeaf dst ordinal:=by
  simp [copyLeaf,copyMark]
 have hother (name : Bytes) (hname:(0x5f : UInt8)∉name):
   copyLeaf dst ordinal≠name := fun heq=>hname (heq ▸ hmark)
 rw [copy_filename]
 simp only [DestinationName,validDestinationFilename,validPortableFilename,bind_unit_eq_ok,
  require_eq_ok,decide_eq_true_eq,hleaf,Bool.and_eq_true,Bool.not_eq_true',
  List.all_eq_true,same_refl,Path.isEmpty,List.isEmpty_eq_false_iff]
 constructor
 · intro hvalid
   exact hvalid.2.2.1
 · intro hshort
   exact ⟨⟨copyLeaf_ne_nil _ _,trivial⟩,validUtf8_copyLeaf _ _ hutf8,hshort,
    ⟨hother _ (by decide),hother _ (by decide),hother _ (by decide)⟩,
    last_copyLeaf _ _ hlast,hbyte,reserved_copyLeaf _ _ hreserved⟩

end Names

section Items
variable {t : FileTransferTransaction} {index ordinal : ℕ} {item : FileTransferItem}

/-- The steps that move or remove what the destination had. -/
def overwriteSteps : List FileTransferStep:=
 [.evacuateOverwriteDestination,.restoreOverwriteDestination,.cleanupOverwriteDestination]

/-- What a copy name asks of the transaction: room for the mark, no step under way that needs
  the overwritten destination, and an item that is not completed by forgetting it. -/
structure CopyFits (t : FileTransferTransaction) (index ordinal : ℕ) : Prop where
 short : (copyDestinationPath (itemAt t index).destination ordinal).filename.native.length ≤
  portableMaximumComponentUnits
 idle : t.activeStep∈overwriteSteps → t.activeIndex.toNat≠index
 open_ : finalItem t.kind (clearOverwrite (itemAt t index))=true → index+1<t.items.length

lemma unfinished_cases (h:TransferSound t) (hinside:index<t.items.length)
 (hunfinished:finalItem t.kind (itemAt t index)=false):
 Current t index ∨ pristineItem t.kind (itemAt t index)=true:=by
 have hle:completedPrefix t ≤ index:=by
  by_contra hlt
  rw [completedPrefix_eq,not_le] at hlt
  have hfinal:=List.not_of_lt_findIdx hlt
  rw [itemAt_eq hinside] at hunfinished
  simp [hunfinished] at hfinal
 have hcurrent:=current_of_inside (hle.trans_lt hinside)
 obtain heq | hlt:=Nat.eq_or_lt_of_le hle
 · exact .inl (heq ▸ hcurrent)
 · right
   have hfirst:=hcurrent.unfinished
   rw [itemAt_eq hcurrent.inside] at hfirst
   rw [itemAt_eq hinside]
   exact (h.order index hinside
    ⟨_,List.mem_take_iff_getElem.mpr ⟨_,by omega,rfl⟩,hfirst⟩).2

lemma pristine_cleared {kind : FileTransferKind} (h:pristineItem kind item=true):
 pristineItem kind (clearOverwrite item)=true ∧
  finalItem kind (clearOverwrite item)=false:=by
 simp only [pristineItem,decide_eq_true_eq] at h
 obtain ⟨hstrategy,hlocation,hstate,-,-,-,hrest⟩:=h
 simp only [pristineItem,finalItem,decide_eq_true_eq,decide_eq_false_iff_not,not_and]
 refine ⟨⟨hstrategy,hlocation,hstate,(by rintro ⟨⟩),(by rintro ⟨⟩),rfl,hrest⟩,fun hpublished=>?_⟩
 exact absurd (hstate.symm.trans hpublished) (by simp)

lemma step_cleared (hstep:t.activeStep∉overwriteSteps) (h:itemStepMatches t item=true):
 itemStepMatches t (clearOverwrite item)=true ∧
  finalItem t.kind (clearOverwrite item)=false:=by
 unfold itemStepMatches at h ⊢
 cases hactive:t.activeStep
 all_goals
  rw [hactive] at h hstep
  simp_all [clearOverwrite,overwriteSettled,overwriteSteps,finalItem]
 -- a temporary object is still to be removed
 intro hpublished
 rw [hpublished] at h
 simp at h

lemma overwriteStep_needs (hstep:t.activeStep∈overwriteSteps)
 (h:itemStepMatches t (clearOverwrite item)=true) : False:=by
 unfold itemStepMatches at h
 cases hactive:t.activeStep
 all_goals
  rw [hactive] at h hstep
  simp_all [clearOverwrite,overwriteSteps]

end Items

section Validity
variable {t : FileTransferTransaction} {index ordinal : ℕ}

/-- The transaction with the copy name of the given number. -/
def copied (t : FileTransferTransaction) (index ordinal : ℕ) : FileTransferTransaction:=
 setItem t index (copiedItem t index (copyDestinationPath (itemAt t index).destination ordinal))

/-- A number whose copy name is neither a source nor the destination of another item. -/
structure CopyName (t : FileTransferTransaction) (index ordinal : ℕ) : Prop where
 positive : 1≤ordinal
 limited : ordinal≤kMaximumFileTransferItems
 free : transferPathKey (copyDestinationPath (itemAt t index).destination ordinal) ∉
  occupiedKeys t index

lemma copied_cases {item : FileTransferItem} (hmem:item∈(copied t index ordinal).items):
 item∈t.items ∨ item=
  copiedItem t index (copyDestinationPath (itemAt t index).destination ordinal):=
 List.mem_or_eq_of_mem_set hmem

lemma copied_other {i : ℕ} (hne:index≠i):
 (copied t index ordinal).items[i]?=t.items[i]? := List.getElem?_set_ne hne

lemma copied_self (hinside:index<t.items.length) : (copied t index ordinal).items[index]? =
  some (copiedItem t index (copyDestinationPath (itemAt t index).destination ordinal)):=by
 rw [copied,setItem,List.getElem?_set_self hinside]

lemma pristine_copied {kind : FileTransferKind} (candidate : Path)
 (h:pristineItem kind (itemAt t index)=true):
 finalItem kind (copiedItem t index candidate)=false ∧
  pristineItem kind (copiedItem t index candidate)=true:=
 (pristine_cleared h).symm

lemma sound_copiedItem (h:TransferSound t) (hinside:index<t.items.length)
 (candidate : Path) : ItemSound t.version t.kind t.phase (copiedItem t index candidate):=by
 have hcleared:=sound_clearOverwrite (sound_itemAt h hinside)
 exact ⟨hcleared.overwrite,hcleared.authorization,hcleared.backup,hcleared.identity,
  hcleared.current,hcleared.source,hcleared.strongOriginal,hcleared.strongCurrent,
  hcleared.strongDestination,hcleared.parents,hcleared.strategy,hcleared.proof,
  hcleared.restorable,hcleared.token⟩

lemma firstNonFinal_copied (hinside:index<t.items.length)
 (hunfinished:finalItem t.kind (itemAt t index)=false)
 (hcleared:finalItem t.kind (clearOverwrite (itemAt t index))=false):
 firstNonFinal (copied t index ordinal)=firstNonFinal t:=by
 have hmap:(copied t index ordinal).items.map (finalItem t.kind)=
   t.items.map (finalItem t.kind):=by
  apply List.ext_getElem?
  intro i
  rw [List.getElem?_map,List.getElem?_map]
  by_cases hi:index=i
  · subst hi
    rw [copied_self hinside,List.getElem?_eq_getElem hinside,←itemAt_eq hinside]
    exact congrArg some (hcleared.trans hunfinished.symm)
  · rw [copied_other hi]
 have hidx (items : List FileTransferItem) : (items.findIdx? fun item=>!finalItem t.kind item)=
   (items.map (finalItem t.kind)).findIdx? (!·):=by
  rw [List.findIdx?_map]
  rfl
 change ((copied t index ordinal).items.findIdx? fun item=>!finalItem t.kind item).getD 0=_
 rw [hidx,hmap,←hidx]
 rfl

lemma activeStepMatches_active {t : FileTransferTransaction} (hactive:t.activeStep≠.none):
 activeStepMatches t=t.items[t.activeIndex.toNat]?.any (itemStepMatches t):=by
 unfold activeStepMatches
 rw [if_neg hactive]
 cases t.items[t.activeIndex.toNat]? with
 | none=>rfl
 | some item=>rfl

lemma active_copied (h:TransferSound t) (hinside:index<t.items.length)
 (hidle:t.activeStep∈overwriteSteps → t.activeIndex.toNat≠index):
 activeStepMatches (copied t index ordinal)=true:=by
 have hactive:=h.active
 by_cases hnone:t.activeStep=.none
 · unfold activeStepMatches at hactive ⊢
   rw [if_pos hnone] at hactive
   exact (if_pos hnone).trans hactive
 · rw [activeStepMatches_active hnone] at hactive
   refine (@activeStepMatches_active (copied t index ordinal) hnone).trans ?_
   change (copied t index ordinal).items[t.activeIndex.toNat]?.any (itemStepMatches t)=true
   by_cases hsame:index=t.activeIndex.toNat
   · have hstep:t.activeStep∉overwriteSteps:=fun hstep=>hidle hstep hsame.symm
     rw [←hsame,copied_self hinside]
     rw [←hsame,List.getElem?_eq_getElem hinside,←itemAt_eq hinside] at hactive
     exact (step_cleared hstep hactive).1
   · rwa [copied_other hsame]

lemma unfinal_of_active (h:TransferSound t) (hinside:index<t.items.length)
 (hunfinished:finalItem t.kind (itemAt t index)=false) (hactive:t.activeStep≠.none)
 (hidle:t.activeStep∈overwriteSteps → t.activeIndex.toNat≠index):
 finalItem t.kind (clearOverwrite (itemAt t index))=false:=by
 obtain hcurrent | hpristine:=unfinished_cases h hinside hunfinished
 · have hindex:t.activeIndex.toNat=index:=by
    rw [h.cursor hactive,firstNonFinal_eq (hcurrent.index_eq.trans_lt hinside), hcurrent.index_eq]
   have hmatches:=h.active
   rw [activeStepMatches,if_neg hactive,hindex,List.getElem?_eq_getElem hinside,
    ← itemAt_eq hinside] at hmatches
   exact (step_cleared (fun hstep=>hidle hstep hindex) hmatches).2
 · exact (pristine_cleared hpristine).2

lemma sound_copied_of_fits (h:TransferSound t) (hinside:index<t.items.length)
 (hunfinished:finalItem t.kind (itemAt t index)=false) (hname:CopyName t index ordinal)
 (hfits:CopyFits t index ordinal) : TransferSound (copied t index ordinal):=by
 have hdestination:=(h.paths index hinside).destination
 rw [←itemAt_eq hinside] at hdestination
 have hcopy:FreeCopy t index (copyDestinationPath (itemAt t index).destination ordinal):=
  ⟨hinside,⟨ordinal,rfl⟩,(copyName_iff _ _ hdestination).mpr hfits.short,hname.free⟩
 have hlength:(copied t index ordinal).items.length=t.items.length:=List.length_set
 have hidentities:(copied t index ordinal).items.map sourceIdentity=
   t.items.map sourceIdentity:=by
  apply List.ext_getElem?
  intro i
  rw [List.getElem?_map,List.getElem?_map]
  by_cases hi:index=i
  · subst hi
    rw [copied_self hinside,List.getElem?_eq_getElem hinside,←itemAt_eq hinside]
    rfl
  · rw [copied_other hi]
 have hopen {i : ℕ} (hi:i<t.items.length) (hi':i<(copied t index ordinal).items.length)
   (hnew:finalItem t.kind (copied t index ordinal).items[i]=false):
   finalItem t.kind t.items[i]=false:=by
  by_cases hsame:index=i
  · subst hsame
    rwa [←itemAt_eq hinside]
  · simpa only [copied,setItem,List.getElem_set_ne hsame] using hnew
 have hcompleted:¬∀item∈t.items,finalItem t.kind item=true:=by
  intro hall
  rw [itemAt_eq hinside,hall _ (List.getElem_mem hinside)] at hunfinished
  cases hunfinished
 refine { version:=h.version
          operationId:=h.operationId
          cancelled:=h.cancelled
          nonempty:=by simpa [copied,setItem] using h.nonempty
          size:=hlength ▸ h.size
          active:=active_copied h hinside hfits.idle
          idle:=h.idle
          failure:=h.failure
          terminal:=h.terminal
          sound:=?_
          paths:=hcopy.paths h
          identities:=hidentities ▸ h.identities
          order:=?_
          aliases:=?_
          prepared:=?_
          completed:=?_
          cursor:=?_ }
 · intro item hmem
   obtain hold | rfl:=copied_cases hmem
   · exact h.sound item hold
   · exact sound_copiedItem h hinside _
 · rintro i hi ⟨other,hmem,hother⟩
   obtain ⟨j,hj,rfl⟩:=List.mem_take_iff_getElem.mp hmem
   have hearly:=hopen (by omega) (by omega) hother
   have hlate:=h.order i (by omega)
    ⟨_,List.mem_take_iff_getElem.mpr ⟨j,by omega,rfl⟩,hearly⟩
   by_cases hsame:index=i
   · subst hsame
     have hpristine:=hlate.2
     rw [←itemAt_eq hinside] at hpristine
     simp only [copied,setItem,List.getElem_set_self]
     exact pristine_copied _ hpristine
   · simpa only [copied,setItem,List.getElem_set_ne hsame] using hlate
 · rw [hidentities]
   intro item hmem
   obtain hold | rfl:=copied_cases hmem
   · exact h.aliases item hold
   · exact .inl rfl
 · intro hphase item hmem
   obtain hold | rfl:=copied_cases hmem
   · exact h.prepared hphase item hold
   · have hpristine:=h.prepared hphase _ (List.getElem_mem hinside)
     rw [←itemAt_eq hinside] at hpristine
     exact (pristine_copied _ hpristine).2
 · refine iff_of_false (fun hphase=>hcompleted (h.completed.mp hphase)) fun hall=>?_
   have hfinal:=hall _ (List.mem_of_getElem? (copied_self hinside))
   have hnext:=hfits.open_ hfinal
   rw [itemAt_eq hinside] at hunfinished
   have hlater:=h.order (index+1) hnext
    ⟨_,List.mem_take_iff_getElem.mpr ⟨index,by omega,rfl⟩,hunfinished⟩
   have hother:(copied t index ordinal).items[index+1]?=some t.items[index+1]:=by
    rw [copied_other (by omega),List.getElem?_eq_getElem hnext]
   have hdone:=hall _ (List.mem_of_getElem? hother)
   exact absurd (hdone.symm.trans hlater.1) (by simp)
 · intro hactive
   rw [firstNonFinal_copied hinside hunfinished
    (unfinal_of_active h hinside hunfinished hactive hfits.idle)]
   exact h.cursor hactive

lemma fits_of_sound (h:TransferSound t) (hinside:index<t.items.length)
 (hunfinished:finalItem t.kind (itemAt t index)=false)
 (hcopied:TransferSound (copied t index ordinal)) : CopyFits t index ordinal:=by
 have hlength:(copied t index ordinal).items.length=t.items.length:=List.length_set
 refine ⟨?_,?_,?_⟩
 · have hname:=(hcopied.paths index (by omega)).destination
   have hdestination:=(h.paths index hinside).destination
   rw [←itemAt_eq hinside] at hdestination
   simp only [copied,setItem,List.getElem_set_self] at hname
   exact (copyName_iff _ _ hdestination).mp hname
 · intro hstep hindex
   have hactive:=hcopied.active
   rw [activeStepMatches_active] at hactive
   · change (copied t index ordinal).items[t.activeIndex.toNat]?.any (itemStepMatches t)=true
      at hactive
     rw [hindex,copied_self hinside] at hactive
     exact overwriteStep_needs hstep hactive
   · change t.activeStep≠.none
     intro hnone
     rw [hnone] at hstep
     revert hstep
     decide
 · intro hfinal
   by_contra hlast
   have hcurrent:Current t index:=by
    obtain hcurrent | hpristine:=unfinished_cases h hinside hunfinished
    · exact hcurrent
    · rw [(pristine_cleared hpristine).2] at hfinal
      cases hfinal
   have hphase:(copied t index ordinal).phase=.completed:=by
    apply hcopied.completed.mpr
    intro item hmem
    obtain ⟨i,hi,rfl⟩:=List.mem_iff_getElem.mp hmem
    by_cases hsame:index=i
    · subst hsame
      simp only [copied,setItem,List.getElem_set_self]
      exact hfinal
    · simp only [copied,setItem,List.getElem_set_ne hsame]
      exact hcurrent.before i (by omega) (by omega)
   have hall:=h.completed.mp hphase _ (List.getElem_mem hinside)
   rw [←itemAt_eq hinside,hunfinished] at hall
   cases hall

end Validity

section Choice
variable {t : FileTransferTransaction} {index : ℕ}

/-- Where the new destination and the paths made from it stand in a transaction. -/
structure CopyApart (t : FileTransferTransaction) (index : ℕ) : Prop where
 sources : ∀item∈t.items,
  transferPathKey item.source≠transferPathKey (itemAt t index).destination
 others : ∀other<t.items.length,other≠index →
  transferPathKey (itemAt t other).destination≠transferPathKey (itemAt t index).destination
 staged : (itemAt t index).stagedSource.same
  (fileTransferStagedSourcePath (itemAt t index).source t.operationId index)
 temp : (itemAt t index).tempDestination=
  fileTransferTempDestinationPath (itemAt t index).destination t.operationId index
 backup : (itemAt t index).overwriteBackup=
  fileTransferOverwriteBackupPath (itemAt t index).destination t.operationId index

/-- Whatever the service and the stop token answer, a transaction that is returned has the
  property. -/
def EveryCopy (t : FileTransferTransaction) (index : ℕ) (p : FileTransferTransaction → Prop):
  Prop:=
 Ends (assignCopyDestination t index) [] fun result _=>∀t',result = some t' → p t'

lemma ends_stopRequested {asked : List (Event TransferOp TransferReply)}
 {post : Bool → List (Event TransferOp TransferReply) → Prop}:
 Ends stopRequested asked post ↔ ∀reply,post reply (asked++[⟨.stopRequested,reply⟩]):=
 ends_issue _ _

lemma ends_submitRename {request : OperationRequest.RenameRequest} {use : RenameUse}
 {asked : List (Event TransferOp TransferReply)}
 {post : OperationResult → List (Event TransferOp TransferReply) → Prop}:
 Ends (submitRename request use) asked post ↔
  ∀reply,post reply (asked++[⟨.submitRename request use,reply⟩]):=
 ends_issue _ _

variable (p : FileTransferTransaction → Prop)

lemma ends_assignCopyFrom (remaining ordinal : ℕ)
 (asked : List (Event TransferOp TransferReply)):
 Ends (assignCopyFrom t index remaining ordinal) asked
  (fun result _=>∀t',result=some t' → p t') ↔
 ∀n,ordinal≤n → n<ordinal+remaining →
  transferPathKey (copyDestinationPath (itemAt t index).destination n) ∉
   occupiedKeys t index → p (copied t index n):=by
 induction remaining generalizing ordinal asked with
 | zero=>
  rw [assignCopyFrom,ends_pure]
  constructor
  · intro _ n hle hlt
    omega
  · intro _ t' heq
    cases heq
 | succ remaining ih=>
  have hlater:(∀n,ordinal≤n → n<ordinal+(remaining+1) →
    transferPathKey (copyDestinationPath (itemAt t index).destination n) ∉
     occupiedKeys t index → p (copied t index n)) ↔
    (transferPathKey (copyDestinationPath (itemAt t index).destination ordinal) ∉
     occupiedKeys t index → p (copied t index ordinal)) ∧
    ∀n,ordinal+1≤n → n<ordinal+1+remaining →
     transferPathKey (copyDestinationPath (itemAt t index).destination n) ∉
      occupiedKeys t index → p (copied t index n):=by
   constructor
   · intro hall
     exact ⟨hall ordinal le_rfl (by omega),fun n hle hlt=>hall n (by omega) (by omega)⟩
   · intro ⟨hfirst,hrest⟩ n hle hlt
     obtain rfl | hnext:=Nat.eq_or_lt_of_le hle
     · exact hfirst
     · exact hrest n hnext (by omega)
  rw [hlater,assignCopyFrom,ends_bind,ends_stopRequested]
  by_cases hoccupied:transferPathKey
    (copyDestinationPath (itemAt t index).destination ordinal)∈occupiedKeys t index
  · constructor
    · intro hall
      have hrest:=hall false
      rw [if_neg Bool.false_ne_true,if_pos hoccupied] at hrest
      exact ⟨fun hfree=>absurd hoccupied hfree,(ih _ _).mp hrest⟩
    · intro ⟨_,hrest⟩ stopped
      cases stopped with
      | true=>
       rw [if_pos rfl,ends_pure]
       intro t' heq
       cases heq
      | false=>
       rw [if_neg Bool.false_ne_true,if_pos hoccupied]
       exact (ih _ _).mpr hrest
  · constructor
    · intro hall
      have hprobe:=hall false
      rw [if_neg Bool.false_ne_true,if_neg hoccupied] at hprobe
      rw [ends_bind,ends_submitRename] at hprobe
      have hclear:=hprobe { status:=.success }
      have hconflict:=hprobe { status:=.conflict }
      rw [if_neg (by decide),ends_pure] at hclear
      rw [if_pos rfl] at hconflict
      exact ⟨fun _=>hclear _ rfl,(ih _ _).mp hconflict⟩
    · intro ⟨hfirst,hrest⟩ stopped
      cases stopped with
      | true=>
       rw [if_pos rfl,ends_pure]
       intro t' heq
       cases heq
      | false=>
       rw [if_neg Bool.false_ne_true,if_neg hoccupied]
       rw [ends_bind,ends_submitRename]
       intro observed
       split
       · exact (ih _ _).mpr hrest
       · rw [ends_pure]
         intro t' heq
         rw [←Option.some.inj heq]
         exact hfirst hoccupied

lemma everyCopy_iff : EveryCopy t index p ↔
 ∀ordinal,CopyName t index ordinal → p (copied t index ordinal):=by
 rw [EveryCopy,assignCopyDestination,ends_assignCopyFrom]
 constructor
 · intro hall ordinal hname
   have hlimited:=hname.limited
   exact hall ordinal hname.positive (by omega) hname.free
 · intro hall ordinal hle hlt hfree
   exact hall ordinal ⟨hle,by omega,hfree⟩

lemma copied_apart {ordinal : ℕ} (h:TransferSound t) (hinside:index<t.items.length)
 (hname:CopyName t index ordinal) : CopyApart (copied t index ordinal) index:=by
 have hself:itemAt (copied t index ordinal) index=
   copiedItem t index (copyDestinationPath (itemAt t index).destination ordinal):=by
  rw [copied,itemAt,setItem,List.getD_eq_getElem?_getD,List.getElem?_set_self hinside]
  rfl
 have hoccupied {item : FileTransferItem} {other : ℕ} {key : Bytes}
   (hitem:t.items[other]?=some item) (hkey:key∈(if other≠index then
    [transferPathKey item.destination] else [])++[transferPathKey item.source]):
   key≠transferPathKey (copyDestinationPath (itemAt t index).destination ordinal):=by
  intro heq
  apply hname.free
  rw [←heq]
  exact List.mem_flatMap.mpr ⟨(item,other),List.mk_mem_zipIdx_iff_getElem?.mpr hitem,hkey⟩
 have hown:=pathsOwn_of_sound (h.paths index hinside)
 rw [List.length_take_of_le hinside.le,←itemAt_eq hinside] at hown
 refine ⟨?_,?_,?_,?_,?_⟩
 · rw [hself]
   intro item hmem
   have hsource:∃ (other : ℕ) (old : FileTransferItem),t.items[other]?=some old ∧
     old.source=item.source:=by
    obtain hold | rfl:=copied_cases hmem
    · obtain ⟨other,hother⟩:=List.mem_iff_getElem?.mp hold
      exact ⟨other,item,hother,rfl⟩
    · refine ⟨index,t.items[index],List.getElem?_eq_getElem hinside,?_⟩
      rw [←itemAt_eq hinside]
      rfl
   obtain ⟨other,old,hother,hsame⟩:=hsource
   rw [←hsame]
   exact hoccupied hother (List.mem_append_right _ List.mem_cons_self)
 · intro other hother hne
   rw [hself]
   have hlt:other<t.items.length:=by simpa [copied,setItem] using hother
   have hold:itemAt (copied t index ordinal) other=t.items[other]:=by
    rw [itemAt,List.getD_eq_getElem?_getD,copied_other hne.symm,List.getElem?_eq_getElem hlt]
    rfl
   rw [hold]
   apply hoccupied (List.getElem?_eq_getElem hlt)
   rw [if_pos hne]
   exact List.mem_cons_self
 · rw [hself]
   exact hown.staged
 · rw [hself]
   rfl
 · rw [hself]
   rfl

/-- A copy name never meets a source or another destination; it leaves a valid transaction,
  whatever is answered, exactly where every name that can be chosen fits. -/
theorem copy_valid_iff (h:TransferValid t) (hinside:index<t.items.length)
 (hunfinished:finalItem t.kind (itemAt t index)=false):
 EveryCopy t index (CopyApart · index) ∧
 (EveryCopy t index (fun t'=>CopyApart t' index ∧ TransferValid t') ↔
  ∀ordinal,CopyName t index ordinal → CopyFits t index ordinal):=by
 rw [transferValid_iff] at h
 simp only [everyCopy_iff,transferValid_iff]
 constructor
 · intro ordinal hname
   exact copied_apart h hinside hname
 · constructor
   · intro hall ordinal hname
     exact fits_of_sound h hinside hunfinished (hall ordinal hname).2
   · intro hall ordinal hname
     exact ⟨copied_apart h hinside hname,
      sound_copied_of_fits h hinside hunfinished hname (hall ordinal hname)⟩

/-- The copy of `/d/a` to a name of so many letters. -/
def copyOfLetters (letters : ℕ) : FileTransferTransaction where
 operationId:=1
 items:=[preparedItem .copy 1 0
  { path:=⟨utf8 "/d/a"⟩,destination:=⟨utf8 "/e/" ++ List.replicate letters 97⟩,
    snapshot:={ sizeBytes:=5,sourceRevisionUtf8:=utf8 "posix:1:2:3" },
    sourceParentRevisionUtf8:=utf8 "posix:1:4:3",
    destinationParentRevisionUtf8:=utf8 "posix:1:5:3" }]

theorem copy_valid_iff_letter : EveryCopy (copyOfLetters 1) 0 (CopyApart · 0) ∧
 (EveryCopy (copyOfLetters 1) 0 (fun t'=>CopyApart t' 0 ∧ TransferValid t') ↔
  ∀ordinal,CopyName (copyOfLetters 1) 0 ordinal → CopyFits (copyOfLetters 1) 0 ordinal):=
 copy_valid_iff (by unfold TransferValid; decide +kernel) (by decide) (by decide)

/-- The copy of a name of 250 letters has a name that is too long. -/
theorem copy_invalid_long : ¬∀ (t : FileTransferTransaction) (index : ℕ),TransferValid t →
 index<t.items.length → finalItem t.kind (itemAt t index)=false →
 EveryCopy t index fun t'=>CopyApart t' index ∧ TransferValid t':=by
 intro h
 have hvalid:TransferValid (copyOfLetters 250):=by
  unfold TransferValid
  decide +kernel
 have hname:CopyName (copyOfLetters 250) 0 1:=⟨by decide,by decide,by decide +kernel⟩
 have hall:=(everyCopy_iff _).mp (h _ 0 hvalid (by decide) (by decide +kernel)) 1 hname
 have hfits:=fits_of_sound ((transferValid_iff _).mp hvalid) (by decide) (by decide +kernel)
  ((transferValid_iff _).mp hall.2)
 exact absurd hfits.short (by decide +kernel)

end Choice

end VoVe.TransferCopyValid
