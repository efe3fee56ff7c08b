import VoVe.BatchRunShape

set_option autoImplicit false

namespace VoVe.BatchPreparation
open ByteCodec AsciiText PosixPath Checks DestinationFilename BatchTransaction
open BatchRenamePlan BatchRunShape

def rowMatches (source : BatchRenameSource) (row : BatchRenameRow) : Bool:=
 row.issue = .none && row.source.same source.path && !row.destination.isEmpty

def temporaryPath (source : Path) (operationId : UInt64) (index : ℕ) : Path:=
 source.parentPath / ⟨temporaryLeaf operationId index⟩

def preparedItem (operationId : UInt64) (index : ℕ) (source : BatchRenameSource)
  (row : BatchRenameRow) : BatchTransactionItem where
 source:=source.path
 temporary:=temporaryPath source.path operationId index
 destination:=row.destination
 current:=source.path
 currentSnapshot:={ sizeBytes:=source.sizeBytes,modifiedUnixNs:=source.modifiedUnixNs,
                    sourceRevisionUtf8:=source.sourceRevisionUtf8 }
 objectKind:=source.objectKind

def wholeSelection (plan : Plan) (sources : List BatchRenameSource) (operationId : UInt64):
  BatchRenameTransaction where
 operationId:=operationId
 items:=(sources.zip plan.rows).mapIdx fun index pair =>
  preparedItem operationId index pair.1 pair.2

def renumber (operationId : UInt64) (index : ℕ) (item : BatchTransactionItem):
  BatchTransactionItem:=
 { item with temporary:=temporaryPath item.source operationId index }

def withoutUnchanged (whole : BatchRenameTransaction) : BatchRenameTransaction:=
 { whole with
   items:=(whole.items.filter fun item=>!item.source.same item.destination).mapIdx
    (renumber whole.operationId) }

def prepareBatchTransaction (plan : Plan) (sources : List BatchRenameSource)
  (operationId : UInt64) : Except Bytes BatchRenameTransaction := do
 require (plan.valid ∧ plan.rows.length = sources.length ∧ operationId≠0)
  (utf8 "batch rename plan cannot create a transaction")
 require ((sources.zip plan.rows).all fun pair=>rowMatches pair.1 pair.2)
  (utf8 "batch rename plan and source snapshot differ")
 validBatchTransaction (wholeSelection plan sources operationId)
 pure (withoutUnchanged (wholeSelection plan sources operationId))

section Leaves
variable (o operationId : UInt64) (index : ℕ)

lemma slash_not_mem_toChars (n : ℕ) : slash∉toChars 16 n:=by
 intro hmem
 have hrange:=toChars_range n slash hmem
 revert hrange
 decide

lemma slash_not_mem_temporaryLeaf : slash∉temporaryLeaf o index:=by
 have hstart:slash∉utf8 ".vove-":=by decide
 have hend:slash∉utf8 ".tmp":=by decide
 have hdash:slash≠45:=by decide
 simp [temporaryLeaf,slash_not_mem_toChars,hstart,hend,hdash]

lemma temporaryLeaf_ne_nil : temporaryLeaf o index≠[]:=by
 intro h
 have hempty:=(List.append_eq_nil_iff.mp h).1
 revert hempty
 decide

variable (s source : Path)

lemma temporaryPath_components : (temporaryPath s o index).components=
 { root:=s.parentPath.components.root
   names:=s.parentPath.components.names++[temporaryLeaf o index]
   trailing:=false }:=
 components_leaf _ (temporaryLeaf_ne_nil o index)
  (slash_not_mem_temporaryLeaf o index)

lemma temporaryPath_filename : (temporaryPath s o index).filename = ⟨temporaryLeaf o index⟩:=
 filename_leaf _ (slash_not_mem_temporaryLeaf o index)

lemma temporaryPath_absolute : (temporaryPath s o index).isAbsolute=
 s.parentPath.isAbsolute:=by
 rw [Path.isAbsolute,temporaryPath_components,Path.isAbsolute]

lemma temporaryPath_parent : (temporaryPath s o index).parentPath=leafParent s.parentPath:=
 parentPath_leaf _ (temporaryLeaf_ne_nil o index)
  (slash_not_mem_temporaryLeaf o index)

lemma temporaryPath_same {o : UInt64} {index : ℕ} {s parent parent' : Path}
 (h:(temporaryPath s o index).same (parent / ⟨temporaryLeaf o index⟩))
 (hparent:parent.same parent') (other : ℕ):
 (temporaryPath s o other).same
  (parent' / ⟨temporaryLeaf o other⟩):=by
 have hcomponents:parent.components=parent'.components:=by
  simpa [Path.same] using hparent
 simp only [Path.same,decide_eq_true_eq,temporaryPath_components] at h ⊢
 rw [components_leaf _ (temporaryLeaf_ne_nil _ _) (slash_not_mem_temporaryLeaf _ _)] at h ⊢
 rw [Components.mk.injEq] at h
 rw [h.1,List.append_cancel_right h.2.1,hcomponents]

end Leaves

section Prepared
variable {plan : Plan} {sources : List BatchRenameSource} {o operationId : UInt64}

lemma wholeSelection_item {index : ℕ}
 (h:index<(wholeSelection plan sources o).items.length):
 (wholeSelection plan sources o).items[index].temporary=
  temporaryPath (wholeSelection plan sources o).items[index].source o
   index:=by
 simp [wholeSelection,preparedItem]

lemma renumber_map {β : Type} (o : UInt64) (items : List BatchTransactionItem)
 (f : BatchTransactionItem → β) (hf:∀index item,f (renumber o index item)=f item):
 (items.mapIdx (renumber o)).map f=items.map f:=by
 refine List.ext_getElem (by simp) fun i hi hi'=>?_
 simp [hf]

/-- An item under the temporary name of its own index. -/
structure Numbered (whole : BatchRenameTransaction) (item : BatchTransactionItem) (index : ℕ):
  Prop where
 core : CoreValid whole.operationId (coreParent (coresOf whole)) index (coreOf item)
 temporary : item.temporary=temporaryPath item.source whole.operationId index

lemma numbered_of_mem {whole : BatchRenameTransaction} {item : BatchTransactionItem}
 (hshape:BatchShape whole)
 (htemporary:∀i (hi:i<whole.items.length),
  whole.items[i].temporary=temporaryPath whole.items[i].source whole.operationId i)
 (hmem:item∈whole.items) : ∃ index,Numbered whole item index:=by
 obtain ⟨index,hindex,rfl⟩:=List.mem_iff_getElem.mp hmem
 have hcore:=hshape.core_mem hindex
 rw [itemAt_eq hindex] at hcore
 exact ⟨index,hcore,htemporary index hindex⟩

/-- Giving an item another number keeps its core valid, where that number's name
  is a destination name. -/
lemma Numbered.renumber {whole : BatchRenameTransaction} {item : BatchTransactionItem}
 {index : ℕ} (h:Numbered whole item index) {parent : Path}
 (hparent:(coreParent (coresOf whole)).same parent) {other : ℕ}
 (hname:DestinationName ⟨temporaryLeaf whole.operationId other⟩):
 CoreValid whole.operationId parent other (coreOf (renumber whole.operationId other item)):=by
 obtain ⟨⟨hsource,htemporary,hdestination,hsourceParent,htemporaryParent,hdestinationParent,
  hpath,hsourceName,hdestinationInternal,-,hdestinationName,hidentity⟩,hnumber⟩ := h
 simp only [coreOf,hnumber] at htemporary htemporaryParent hpath
 rw [temporaryPath_absolute] at htemporary
 rw [temporaryPath_parent] at htemporaryParent
 refine ⟨hsource,?_,hdestination,same_trans hsourceParent hparent,?_,
  same_trans hdestinationParent hparent,temporaryPath_same hpath hparent other,hsourceName,
  hdestinationInternal,?_,hdestinationName,hidentity⟩
 · exact (temporaryPath_absolute _ _ _).trans htemporary
 · change (temporaryPath item.source whole.operationId other).parentPath.lexicallyNormal.same parent
   rw [temporaryPath_parent]
   exact same_trans htemporaryParent hparent
 · change DestinationName (temporaryPath item.source whole.operationId other).filename
   rw [temporaryPath_filename]
   exact hname

lemma withoutUnchanged_valid {whole : BatchRenameTransaction} (hvalid:BatchValid whole)
 (hphase:whole.phase=.prepared)
 (htemporary:∀i (hi:i<whole.items.length),
  whole.items[i].temporary=temporaryPath whole.items[i].source whole.operationId i)
 (hne:(withoutUnchanged whole).items≠[]) : BatchValid (withoutUnchanged whole):=by
 obtain ⟨hshape,hsizes⟩:=batchValid_iff.mp hvalid
 have hidle:=hshape.idle_of_prepared hphase
 have hitems:(withoutUnchanged whole).items=(whole.items.filter fun item =>
   !item.source.same item.destination).mapIdx (renumber whole.operationId) := rfl
 generalize hkept : (whole.items.filter fun item=>!item.source.same item.destination)=kept
  at hitems
 have hsublist:kept.Sublist whole.items:=hkept ▸ List.filter_sublist
 have hmem:∀item∈(withoutUnchanged whole).items,∃ before∈whole.items,∃ index,
   item=renumber whole.operationId index before:=by
  intro item hitem
  rw [hitems,List.mem_mapIdx] at hitem
  obtain ⟨index,hindex,rfl⟩:=hitem
  exact ⟨kept[index],hsublist.subset (List.getElem_mem hindex),index,rfl⟩
 have hmap:∀ {β : Type} (f : BatchTransactionItem → β),
   (∀index item,f (renumber whole.operationId index item)=f item) →
   (whole.items.map f).Nodup → ((withoutUnchanged whole).items.map f).Nodup:=by
  intro β f hf hnodup
  rw [hitems,renumber_map _ _ f hf]
  exact hnodup.sublist (hsublist.map f)
 have hparent:(coreParent (coresOf whole)).same (coreParent (coresOf (withoutUnchanged whole))):=by
  cases hfirst:(withoutUnchanged whole).items with
  | nil=>exact absurd hfirst hne
  | cons first rest=>
   obtain ⟨before,hbefore,index,rfl⟩:=hmem first (hfirst ▸ List.mem_cons_self)
   obtain ⟨j,hnumbered⟩:=numbered_of_mem hshape htemporary hbefore
   have hnew:coreParent (coresOf (withoutUnchanged whole))=
     parentOf (withoutUnchanged whole).items := coreParent_coresOf
   rw [hnew,hfirst]
   exact same_symm hnumbered.core.sourceParent
 refine batchValid_iff.mpr ⟨⟨hshape.version,hshape.operationId,⟨?_,?_,?_,?_,?_,?_⟩,?_,
  fun hactive=>absurd hidle hactive,hshape.inactive,hshape.successEvidence⟩,?_⟩
 · simpa [coresOf] using hne
 · have hsize:=hvalid.size
   have hlength:=hsublist.length_le
   rw [coresOf,List.length_map,hitems,List.length_mapIdx]
   omega
 · intro i hi
   have hlength:=hsublist.length_le
   have hkeptlength:i<kept.length:=by simpa [coresOf,hitems] using hi
   have hget:(coresOf (withoutUnchanged whole))[i]=
     coreOf (renumber whole.operationId i kept[i]):=by
    simp [coresOf,hitems]
   obtain ⟨j,hnumbered⟩:=numbered_of_mem hshape htemporary
    (hsublist.subset (List.getElem_mem hkeptlength))
   rw [hget]
   refine hnumbered.renumber hparent ?_
   have hname:=(hvalid.items i (by omega)).temporaryName
   rw [htemporary i (by omega),temporaryPath_filename] at hname
   exact hname
 · have hkeys:=hmap (fun item=>batchRenameCollisionKey item.source) (fun _ _=>rfl)
    hvalid.sources
   simpa [coresOf,coreOf,Function.comp_def] using hkeys
 · have hkeys:=hmap (fun item=>batchRenameCollisionKey item.destination) (fun _ _=>rfl)
    hvalid.destinations
   simpa [coresOf,coreOf,Function.comp_def] using hkeys
 · have hkeys:=hmap physicalId (fun _ _=>rfl) hvalid.identities
   simpa [coresOf,coreOf,Function.comp_def] using hkeys
 · intro item hitem
   obtain ⟨before,hbefore,index,rfl⟩:=hmem item hitem
   have hplaced:=hshape.placed before hbefore
   have hlocation:before.location=.source:=by
    have hallowed:=hplaced.allowed
    rw [hphase] at hallowed
    simpa [locationAllowedInPhase] using hallowed
   have hexpected:=hplaced.expected
   refine ⟨hplaced.currentAbsolute,?_,hplaced.allowed⟩
   simpa [expectedCurrentPath,renumber,hlocation] using hexpected
 · intro item hitem
   obtain ⟨before,hbefore,index,rfl⟩:=hmem item hitem
   exact hsizes before hbefore

lemma prepareBatchTransaction_valid {transaction : BatchRenameTransaction}
 (h:prepareBatchTransaction plan sources o=.ok transaction)
 (hne:transaction.items≠[]) : BatchValid transaction:=by
 simp only [prepareBatchTransaction,bind_unit_eq_ok,require_eq_ok,pure_eq_ok] at h
 obtain ⟨-,-,hvalid,rfl⟩:=h
 have hwhole:=(validBatchTransaction_iff _).mp hvalid
 exact withoutUnchanged_valid hwhole rfl (fun i hi=>wholeSelection_item hi) hne

end Prepared

end VoVe.BatchPreparation
