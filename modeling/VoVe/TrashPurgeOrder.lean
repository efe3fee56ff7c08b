import VoVe.PathNormal
import VoVe.TrashRecord

set_option autoImplicit false

namespace VoVe.TrashPurgeOrder
open AsciiText ByteCodec PosixPath PathNormal Checks TrashRecord

variable {entries : List BasicDirectoryTransferEntry}

/-- One entry's path goes through another's. -/
def Below (deep shallow : BasicDirectoryTransferEntry) : Prop:=
 ∃ rest,rest≠[] ∧ deep.relativePath.components.names = shallow.relativePath.components.names++rest

/-- A purge in the order of the list takes what lies in a directory before the directory. -/
def ChildrenFirst (entries : List BasicDirectoryTransferEntry) : Prop:=
 ∀ (i j : ℕ) (deep shallow : BasicDirectoryTransferEntry),entries[i]? = some deep →
  entries[j]? = some shallow → Below deep shallow → i < j

/-- No entry records a smaller depth than one it lies below. -/
def DepthsNest (entries : List BasicDirectoryTransferEntry) : Prop:=
 ∀deep ∈ entries,∀shallow ∈ entries,Below deep shallow → shallow.depth ≤ deep.depth

section Order
variable {left middle right : BasicDirectoryTransferEntry}

lemma purgeOrderBefore_iff : purgeOrderBefore left right=true ↔ right.depth<left.depth ∨
 left.depth=right.depth ∧ genericText right.relativePath<genericText left.relativePath:=by
 unfold purgeOrderBefore
 split
 · next hdepth => simp [hdepth]
 · next hdepth =>
   have hsame:=not_not.mp hdepth
   simp [hsame]

lemma purgeOrderBefore_trans (h:purgeOrderBefore left middle=true)
 (h':purgeOrderBefore middle right=true) : purgeOrderBefore left right=true:=by
 rw [purgeOrderBefore_iff] at h h' ⊢
 obtain h | ⟨hdepth,htext⟩:=h
 · obtain h' | ⟨hdepth',-⟩:=h'
   · exact .inl (UInt16.lt_trans h' h)
   · exact .inl (hdepth' ▸ h)
 · obtain h' | ⟨hdepth',htext'⟩:=h'
   · exact .inl (hdepth ▸ h')
   · exact .inr ⟨hdepth.trans hdepth',List.lt_trans htext' htext⟩

lemma purgeOrderBefore_asymm (h:purgeOrderBefore left right=true):
 purgeOrderBefore right left=false:=by
 by_contra hback
 rw [Bool.not_eq_false] at hback
 have hself:=purgeOrderBefore_trans h hback
 rw [purgeOrderBefore_iff] at hself
 obtain hdepth | ⟨-,htext⟩:=hself
 · exact UInt16.lt_irrefl _ hdepth
 · exact List.lt_irrefl _ htext

end Order

section Accepted
variable {before : List BasicDirectoryTransferEntry} {entry : BasicDirectoryTransferEntry}

lemma checkEntry_path (h:checkEntry before entry=.ok ()):
 validRelativeDirectoryEntryPath entry.relativePath=true:=by
 simp only [checkEntry,require_eq_ok,Bool.and_eq_true] at h
 exact h.1.1.1.1.1.1.1.1.1

lemma checkEntry_order (h:checkEntry before entry=.ok ()):
 before.getLast?.all (purgeOrderBefore · entry)=true:=by
 simp only [checkEntry,require_eq_ok,Bool.and_eq_true] at h
 exact h.2

lemma pairwise_of_check (h:checkEach checkEntry [] entries=.ok ()):
 entries.Pairwise (purgeOrderBefore · ·=true):=by
 have htrans:Trans (purgeOrderBefore · ·=true) (purgeOrderBefore · ·=true)
   (purgeOrderBefore · ·=true) := ⟨purgeOrderBefore_trans⟩
 rw [checkEach_eq_ok] at h
 rw [←List.isChain_iff_pairwise,List.isChain_iff_getElem]
 intro i hi
 have horder:=checkEntry_order (h (i+1) hi)
 rw [List.getLast?_take,List.getElem?_eq_getElem (by omega)] at horder
 simpa using horder

lemma paths_of_check (h:checkEach checkEntry [] entries=.ok ()):
 ∀entry∈entries,validRelativeDirectoryEntryPath entry.relativePath=true:=by
 rw [checkEach_eq_ok] at h
 intro entry hentry
 obtain ⟨i,hi,rfl⟩:=List.mem_iff_getElem.mp hentry
 exact checkEntry_path (h i hi)

end Accepted

section Below
variable {deep shallow : BasicDirectoryTransferEntry}

lemma namesOf_ne_nil {native : Bytes} (hne:native≠[]) (hroot:native.head?≠some slash):
 namesOf native≠[]:=by
 by_cases hslash:slash∈native
 · obtain ⟨first,rest,rfl,hfirst⟩:=List.eq_append_cons_of_mem hslash
   have hfirst':first≠[]:=by
    intro hnone
    rw [hnone] at hroot
    exact hroot rfl
   rw [namesOf_append_slash,namesOf_leaf hfirst' hfirst]
   exact List.cons_ne_nil _ _
 · rw [namesOf_leaf hne hslash]
   exact List.cons_ne_nil _ _

lemma names_ne_nil {path : Path} (h:validRelativeDirectoryEntryPath path=true):
 path.components.names≠[]:=by
 simp only [validRelativeDirectoryEntryPath,Bool.and_eq_true,Bool.not_eq_true',
  Path.isAbsolute,Path.isEmpty,Path.components,decide_eq_false_iff_not] at h
 exact namesOf_ne_nil (by simpa using h.1.1.1) h.1.1.2

lemma genericText_relative {path : Path} (h:validRelativeDirectoryEntryPath path=true):
 genericText path=[slash].intercalate path.components.names:=by
 simp only [validRelativeDirectoryEntryPath,Bool.and_eq_true,Bool.not_eq_true',
  Path.isAbsolute] at h
 simp [genericText,Path.textOf,h.1.1.2,h.1.2]

lemma Below.text (h:Below deep shallow)
 (hdeep:validRelativeDirectoryEntryPath deep.relativePath=true)
 (hshallow:validRelativeDirectoryEntryPath shallow.relativePath=true):
 genericText shallow.relativePath<genericText deep.relativePath:=by
 obtain ⟨rest,hrest,hnames⟩:=h
 rw [genericText_relative hdeep,genericText_relative hshallow,hnames]
 rw [intercalate_append (names_ne_nil hshallow) hrest]
 have hlonger:([] : Bytes)<slash::[slash].intercalate rest:=List.nil_lt_cons _ _
 simpa using List.append_left_lt hlonger

lemma Below.irrefl : ¬Below deep deep:=by
 intro h
 obtain ⟨rest,hrest,hnames⟩:=h
 exact hrest (List.self_eq_append_right.mp hnames)

end Below

lemma childrenFirst_of_check (h:checkEach checkEntry [] entries=.ok ()):
 ChildrenFirst entries ↔ DepthsNest entries:=by
 have hpairs:=pairwise_of_check h
 have hpaths:=paths_of_check h
 rw [List.pairwise_iff_getElem] at hpairs
 constructor
 · intro hfirst deep hdeep shallow hshallow hbelow
   obtain ⟨i,hi,rfl⟩:=List.mem_iff_getElem.mp hdeep
   obtain ⟨j,hj,rfl⟩:=List.mem_iff_getElem.mp hshallow
   have hij:=hfirst i j _ _ (List.getElem?_eq_getElem hi) (List.getElem?_eq_getElem hj) hbelow
   have horder:=purgeOrderBefore_iff.mp (hpairs i j hi hj hij)
   obtain hdepth | ⟨hdepth,-⟩:=horder
   · exact UInt16.le_of_lt hdepth
   · exact UInt16.le_of_eq hdepth.symm
 · intro hnest i j deep shallow hdeep hshallow hbelow
   obtain ⟨hi,rfl⟩:=List.getElem?_eq_some_iff.mp hdeep
   obtain ⟨hj,rfl⟩:=List.getElem?_eq_some_iff.mp hshallow
   have hdepth:=hnest _ (List.getElem_mem hi) _ (List.getElem_mem hj) hbelow
   have htext:=hbelow.text (hpaths _ (List.getElem_mem hi)) (hpaths _ (List.getElem_mem hj))
   have horder:purgeOrderBefore entries[i] entries[j]=true:=by
    rw [purgeOrderBefore_iff]
    obtain hless | hsame:=UInt16.le_iff_lt_or_eq.mp hdepth
    · exact .inl hless
    · exact .inr ⟨hsame.symm,htext⟩
   by_contra hnot
   obtain hsame | hback : i=j ∨ j < i:=by omega
   · subst hsame
     exact Below.irrefl hbelow
   · have hother:=hpairs j i hj hi hback
     rw [purgeOrderBefore_asymm horder] at hother
     exact Bool.false_ne_true hother

lemma check_of_valid {transaction : TrashTransaction} {item : TrashItem}
 (hvalid:TrashValid transaction) (hitem:item∈transaction.items)
 (hkind:item.kind=.directory) : checkEach checkEntry [] item.directoryEntries=.ok ():=by
 unfold TrashValid validTrashTransaction at hvalid
 rw [bind_eq_ok] at hvalid
 obtain ⟨first,-,hrest⟩:=hvalid
 simp only [bind_unit_eq_ok] at hrest
 have hitems:=hrest.2.2.2.2.2
 rw [checkEach_eq_ok] at hitems
 obtain ⟨i,hi,rfl⟩:=List.mem_iff_getElem.mp hitem
 have hcheck:=hitems i hi
 simp only [checkItem,bind_unit_eq_ok] at hcheck
 have hpayload:=hcheck.2.2.1
 simp only [validDirectoryPayload,hkind,bind_unit_eq_ok] at hpayload
 exact hpayload.2.2.1

/-- The purge order is children first when the recorded depths follow the tree, and only
  then: a depth is compared with nothing but its bounds. -/
theorem purges_children_first {transaction : TrashTransaction} {item : TrashItem}
 (hvalid:TrashValid transaction) (hitem:item∈transaction.items)
 (hkind:item.kind=.directory):
 ChildrenFirst item.directoryEntries ↔ DepthsNest item.directoryEntries:=
 childrenFirst_of_check (check_of_valid hvalid hitem hkind)

/-- The directory `/d/a` with the directory `b`, recorded at depth 2, before the file `b/c` in
  it, recorded at depth 1. -/
def folder : TrashItem:=
 preparedItem 1 ⟨[]⟩ 0
  { path:=⟨utf8 "/d/a"⟩,restorePath:=⟨utf8 "/d/a"⟩,kind:=.directory
    snapshot:={ sizeBytes:=0,sourceRevisionUtf8:=utf8 "posix:1:2:3" }
    directoryEntries:=
     [{ relativePath:=⟨utf8 "b"⟩,depth:=2,kind:=.directory
        sourceRevisionUtf8:=utf8 "posix:1:4:3" },
      { relativePath:=⟨utf8 "b/c"⟩,depth:=1
        sourceRevisionUtf8:=utf8 "posix:1:5:3" }] }

def trashOfFolder : TrashTransaction where
 operationId:=1
 createdUnixNs:=1
 items:=[folder]

lemma trashOfFolder_valid : TrashValid trashOfFolder:=by
 unfold TrashValid
 decide +kernel

theorem purges_folder : ChildrenFirst folder.directoryEntries ↔ DepthsNest folder.directoryEntries:=
 purges_children_first trashOfFolder_valid (List.mem_singleton_self folder) rfl

/-- The purge removes that directory first. -/
theorem purge_reaches_folder : ¬∀transaction item,TrashValid transaction →
 item∈transaction.items → item.kind=.directory → ChildrenFirst item.directoryEntries:=by
 intro h
 have hfirst:=h trashOfFolder folder trashOfFolder_valid (List.mem_singleton_self folder) rfl
 have hbelow:Below { relativePath:=⟨utf8 "b/c"⟩,depth:=1
                     sourceRevisionUtf8:=utf8 "posix:1:5:3" }
   { relativePath:=⟨utf8 "b"⟩,depth:=2,kind:=.directory
     sourceRevisionUtf8:=utf8 "posix:1:4:3" }:=
  ⟨[utf8 "c"],List.cons_ne_nil _ _,by decide +kernel⟩
 exact absurd (hfirst 1 0 _ _ rfl rfl hbelow) (by decide)

end VoVe.TrashPurgeOrder
