import VoVe.AsciiText

set_option autoImplicit false

/-! The order of the catalog: natural names, groups and the row comparator of
`directory_model.cpp`. -/

namespace VoVe.CatalogOrder
open ByteCodec AsciiText Std

inductive EntryKind where
 | file
 | directory
 deriving DecidableEq

inductive EntryState where
 | discovered
 | metadataReady
 | thumbnailQueued
 | thumbnailReady
 | failed
 deriving DecidableEq

structure DirectoryEntry where
 id : UInt64 := 0
 kind : EntryKind := .file
 state : EntryState := .discovered
 nameUtf8 : Bytes := []
 searchKeyUtf8 : Bytes := []
 pathUtf8 : Bytes := []
 sourceRevisionUtf8 : Bytes := []
 sizeBytes : UInt64 := 0
 modifiedUnixNs : Int64 := 0
 deriving DecidableEq

/-- `ascii_iequal` of `reserved_names.hpp`. -/
def asciiIequal (left right : Bytes) : Bool := left.map asciiLower = right.map asciiLower

def visibleInPreviewCatalog (entry : DirectoryEntry) : Bool:=
 let name:=entry.nameUtf8
 let temporarySuffix:=utf8 ".tmp"
 if name = [] ∨ name.head? = some 46 then false
 else entry.kind≠.file ∨ name.length < temporarySuffix.length ∨
  !asciiIequal (name.drop (name.length - temporarySuffix.length)) temporarySuffix

inductive CatalogGroup where
 | directory
 | preview
 | other
 deriving DecidableEq

/-- The groups compare by their declaration order. -/
def CatalogGroup.number : CatalogGroup → ℕ
 | .directory=>0
 | .preview=>1
 | .other=>2

def extensions : List Bytes:=
 ["af","afdesign","afphoto","afpub","aftemplate","ai","arw","avif","bmp","cdr",
  "cr2","cr3","dng","dxf","eps","gif","heic","heif","hpgl","ico",
  "idml","indd","indt","jfif","jpe","jpeg","jpg","jxl","kra","nef",
  "nrw","ora","orf","pdf","pef","plt","png","ps","psb","psd",
  "raf","rw2","srw","svg","svgz","tif","tiff","webp","xcf"].map utf8

def catalogGroup (entry : DirectoryEntry) : CatalogGroup:=
 if entry.kind = .directory then .directory
 else
  match findLast entry.nameUtf8 46 with
  | none=>.other
  | some 0=>.other
  | some dot=>
   let suffix:=entry.nameUtf8.drop (dot+1)
   if suffix = [] ∨ 10 < suffix.length then .other
   else if extensions.contains (suffix.map asciiLower) then .preview else .other

lemma catalogGroup_directory {entry : DirectoryEntry}:
 catalogGroup entry=.directory ↔ entry.kind=.directory:=by
 unfold catalogGroup
 split
 · simp only [*]
 · rename_i hfile
   constructor
   · split
     · nofun
     · nofun
     · dsimp only
       split_ifs<;>nofun
   · exact fun h=>absurd h hfile

/-- The text after the last dot, for the sort by extension. -/
def extension (name : Bytes) : Bytes:=
 match findLast name 46 with
 | none=>[]
 | some 0=>[]
 | some dot=>if name.length ≤ dot+1 then [] else name.drop (dot+1)

/-- `std::string_view::compare`: unsigned bytes from the left, a prefix first. -/
def compareText (lhs rhs : Bytes) : Ordering := compare lhs rhs

/-- The digits of a run after its leading zeros. -/
def significant (run : Bytes) : Bytes := run.dropWhile (· == 48)

/-- The loop of `compare_natural_names`, on what is left of both names. -/
def compareNaturalFrom (paddingOrder : Ordering) (lhs rhs : Bytes) : Ordering:=
 match lhs, rhs with
 | [], []=>paddingOrder
 | [], _::_=>.lt
 | _::_, []=>.gt
 | left::lefts, right::rights=>
  if isDigit left && isDigit right then
   let leftRun:=left::lefts.takeWhile isDigit
   let rightRun:=right::rights.takeWhile isDigit
   let leftDigits:=(significant leftRun).length
   let rightDigits:=(significant rightRun).length
   if leftDigits≠rightDigits then
    if leftDigits < rightDigits then .lt else .gt
   else
    match compareText (significant leftRun) (significant rightRun) with
    | .lt=>.lt
    | .gt=>.gt
    | .eq=>
     let leftWidth:=leftRun.length
     let rightWidth:=rightRun.length
     compareNaturalFrom
      (if paddingOrder = .eq ∧ leftWidth≠rightWidth then
       if leftWidth < rightWidth then .lt else .gt
      else paddingOrder)
      (lefts.dropWhile isDigit) (rights.dropWhile isDigit)
  else if left≠right then
   if left < right then .lt else .gt
  else compareNaturalFrom paddingOrder lefts rights
 termination_by lhs.length
 decreasing_by
  · have:=(lefts.dropWhile_sublist isDigit).length_le
    simp only [List.length_cons]
    omega
  · simp only [List.length_cons]
    omega

def compareNaturalNames (lhs rhs : Bytes) : Ordering := compareNaturalFrom .eq lhs rhs

inductive SortDirection where
 | ascending
 | descending
 deriving DecidableEq

inductive SortField where
 | name
 | extension
 | modified
 | size
 deriving DecidableEq

/-- The `compare` lambda of `sort_visible_indices`. -/
def compareValues {α : Type} [LT α] [DecidableLT α] (lhs rhs : α) : Ordering:=
 if lhs < rhs then .lt else if rhs < lhs then .gt else .eq

def keyOrder (sortField : SortField) (lhs rhs : DirectoryEntry) : Ordering:=
 match sortField with
 | .name=>compareNaturalNames lhs.searchKeyUtf8 rhs.searchKeyUtf8
 | .extension=>compareText (extension lhs.searchKeyUtf8) (extension rhs.searchKeyUtf8)
 | .modified=>compareValues lhs.modifiedUnixNs rhs.modifiedUnixNs
 | .size=>compareValues lhs.sizeBytes rhs.sizeBytes

/-- A three-way result, read in the direction of the sort. -/
def SortDirection.first (direction : SortDirection) (order : Ordering) : Bool:=
 if direction = .ascending then order = .lt else order = .gt

/-- The comparator of `sort_visible_indices`. -/
def less (sortField : SortField) (sortDirection : SortDirection) (lhs rhs : DirectoryEntry):
  Bool:=
 if keyOrder sortField lhs rhs≠.eq then sortDirection.first (keyOrder sortField lhs rhs)
 else
  let nameOrder:=compareNaturalNames lhs.searchKeyUtf8 rhs.searchKeyUtf8
  if sortField≠.name ∧ nameOrder≠.eq then sortDirection.first nameOrder
  else if sortDirection = .ascending then lhs.id < rhs.id else rhs.id < lhs.id

/-- A unit the natural order compares: a run of digits, or one other byte. A byte and a run
compare as the byte and any digit do. -/
structure NameUnit where
 rank : ℕ
 digits : ℕ
 significantDigits : Bytes
 width : ℕ

def nameUnits : Bytes → List NameUnit
 | []=>[]
 | byte::rest=>
  if isDigit byte then
   let run:=byte::rest.takeWhile isDigit
   ⟨48,(significant run).length,significant run,run.length⟩ ::
    nameUnits (rest.dropWhile isDigit)
  else ⟨byte.toNat,0,[],1⟩::nameUnits rest
 termination_by name => name.length
 decreasing_by
  · have:=(rest.dropWhile_sublist isDigit).length_le
    simp only [List.length_cons]
    omega
  · simp only [List.length_cons]
    omega

def compareValue : NameUnit → NameUnit → Ordering:=
 compareLex (compareOn NameUnit.rank)
  (compareLex (compareOn NameUnit.digits) (compareOn NameUnit.significantDigits))

def compareWidth : NameUnit → NameUnit → Ordering := compareOn NameUnit.width

instance : TransCmp compareValue:=
 inferInstanceAs (TransCmp (compareLex (compareOn NameUnit.rank)
  (compareLex (compareOn NameUnit.digits) (compareOn NameUnit.significantDigits))))

instance : TransCmp compareWidth := inferInstanceAs (TransCmp (compareOn NameUnit.width))

lemma transCmp_image {α β : Type} (cmp : β → β → Ordering) [TransCmp cmp] (f : α → β):
  TransCmp fun a b=>cmp (f a) (f b) where
 eq_swap:=OrientedCmp.eq_swap
 isLE_trans:=TransCmp.isLE_trans

@[simp]
lemma nameUnits_nil : nameUnits []=[] := by rw [nameUnits]

lemma nameUnits_run {byte : UInt8} (h:isDigit byte=true) (rest : Bytes):
 nameUnits (byte::rest) = ⟨48,(significant (byte::rest.takeWhile isDigit)).length,
   significant (byte::rest.takeWhile isDigit),
   (byte::rest.takeWhile isDigit).length⟩::nameUnits (rest.dropWhile isDigit):=by
 rw [nameUnits,if_pos h]

lemma nameUnits_byte {byte : UInt8} (h:isDigit byte=false) (rest : Bytes):
 nameUnits (byte::rest) = ⟨byte.toNat,0,[],1⟩::nameUnits rest:=by
 rw [nameUnits,if_neg (by simp only [h,Bool.false_eq_true,not_false_eq_true])]

def byteRank (byte : UInt8) : ℕ := if isDigit byte then 48 else byte.toNat

lemma head_unit (byte : UInt8) (rest : Bytes) : ∃ unit tail,
 nameUnits (byte::rest)=unit::tail ∧ unit.rank=byteRank byte:=by
 cases h:isDigit byte with
 | true=>exact ⟨_,_,nameUnits_run h rest,by rw [byteRank,if_pos h]⟩
 | false=>exact ⟨_,_,nameUnits_byte h rest,by rw [byteRank,if_neg (by rw [h]; nofun)]⟩

lemma byteRank_lt {left right : UInt8} (h:¬(isDigit left && isDigit right)=true)
 (hlt:left < right) : byteRank left<byteRank right:=by
 unfold byteRank
 simp only [isDigit,UInt8.le_iff_toNat_le,UInt8.lt_iff_toNat_lt,decide_eq_true_eq,
  Bool.and_eq_true,UInt8.reduceToNat] at h hlt ⊢
 split_ifs<;>omega

lemma compareValue_self (unit : NameUnit) : compareValue unit unit=.eq := ReflCmp.compare_self

lemma compareValue_lt {left right : NameUnit} (h:left.rank < right.rank):
 compareValue left right=.lt:=by
 rw [compareValue,compareLex,compareOn,Nat.compare_eq_lt.mpr h,Ordering.lt_then]

lemma compareValue_gt {left right : NameUnit} (h:right.rank<left.rank):
 compareValue left right=.gt:=by
 rw [compareValue,compareLex,compareOn,Nat.compare_eq_gt.mpr h,Ordering.gt_then]

lemma compareValue_runs (digits other width wide : ℕ) (left right : Bytes):
 compareValue ⟨48,digits,left,width⟩ ⟨48,other,right,wide⟩=
  (compare digits other).then (compareText left right) := rfl

lemma padding_step (padding : Ordering) (left right : ℕ):
 (if padding=.eq ∧ left≠right then if left < right then .lt else .gt else padding)=
  padding.then (compare left right):=by
 cases padding with
 | lt=>rfl
 | gt=>rfl
 | eq=>
  rw [Ordering.eq_then]
  obtain h | h | h:=Nat.lt_trichotomy left right
  · rw [Nat.compare_eq_lt.mpr h,if_pos ⟨rfl,Nat.ne_of_lt h⟩,if_pos h]
  · rw [h,Nat.compare_eq_eq.mpr rfl,if_neg (fun h=>h.2 rfl)]
  · rw [Nat.compare_eq_gt.mpr h,if_pos ⟨rfl,Nat.ne_of_gt h⟩,if_neg (Nat.lt_asymm h)]

section Units
variable {padding : Ordering} {left right : NameUnit} {l lefts r rights : List NameUnit}

def compareUnits (padding : Ordering) (lefts rights : List NameUnit) : Ordering:=
 (List.compareLex compareValue lefts rights).then
  (padding.then (List.compareLex compareWidth lefts rights))

lemma compareUnits_cons : compareUnits padding (left::l) (right::r)=
 (compareValue left right).then
  (compareUnits (padding.then (compare left.width right.width)) l r):=by
 rw [compareUnits,compareUnits,List.compareLex_cons_cons,List.compareLex_cons_cons]
 cases compareValue left right with
 | lt=>rfl
 | gt=>rfl
 | eq=>
  rw [Ordering.eq_then,Ordering.eq_then,Ordering.then_assoc padding]
  rfl

end Units

section Heads
variable {left right : UInt8} {l lefts r rights : Bytes} {padding : Ordering}

lemma compareUnits_of_rank (h:byteRank left<byteRank right):
 compareUnits padding (nameUnits (left::l)) (nameUnits (right::r))=.lt ∧
  compareUnits padding (nameUnits (right::r)) (nameUnits (left::l))=.gt:=by
 obtain ⟨unit,tail,hunits,hrank⟩:=head_unit left l
 obtain ⟨other,rest,hothers,hother⟩:=head_unit right r
 rw [←hrank,←hother] at h
 rw [hunits,hothers,compareUnits_cons,compareUnits_cons,compareValue_lt h,compareValue_gt h]
 exact ⟨rfl,rfl⟩

lemma compareUnits_runs (h:(isDigit left && isDigit right)=true):
 compareUnits padding (nameUnits (left::l)) (nameUnits (right::r))=
  ((compare (significant (left::l.takeWhile isDigit)).length
    (significant (right::r.takeWhile isDigit)).length).then
   (compareText (significant (left::l.takeWhile isDigit))
    (significant (right::r.takeWhile isDigit)))).then
   (compareUnits (padding.then (compare (left::l.takeWhile isDigit).length
     (right::r.takeWhile isDigit).length))
    (nameUnits (l.dropWhile isDigit)) (nameUnits (r.dropWhile isDigit))):=by
 obtain ⟨hleft,hright⟩:=Bool.and_eq_true_iff.mp h
 rw [nameUnits_run hleft,nameUnits_run hright,compareUnits_cons,compareValue_runs]

lemma compareUnits_same (h:¬(isDigit left && isDigit left)=true):
 compareUnits padding (nameUnits (left::l)) (nameUnits (left::r))=
  compareUnits padding (nameUnits l) (nameUnits r):=by
 rw [Bool.and_self,Bool.not_eq_true] at h
 rw [nameUnits_byte h,nameUnits_byte h,compareUnits_cons,Nat.compare_eq_eq.mpr rfl,
  Ordering.then_eq,compareValue_self,Ordering.eq_then]

end Heads

/-- The loop compares the values of the units, then the padding seen so far, then the widths
of the rest. -/
lemma compareNaturalFrom_units (paddingOrder : Ordering) (lhs rhs : Bytes):
 compareNaturalFrom paddingOrder lhs rhs=
  compareUnits paddingOrder (nameUnits lhs) (nameUnits rhs):=by
 fun_induction compareNaturalFrom paddingOrder lhs rhs with
 | case1 padding=>
  rw [compareUnits,nameUnits_nil,List.compareLex_nil_nil,List.compareLex_nil_nil,
   Ordering.eq_then,Ordering.then_eq]
 | case2 padding right r=>
  obtain ⟨unit,tail,hunits,-⟩:=head_unit right r
  rw [compareUnits,hunits,nameUnits_nil,List.compareLex_nil_cons,Ordering.lt_then]
 | case3 padding left l=>
  obtain ⟨unit,tail,hunits,-⟩:=head_unit left l
  rw [compareUnits,hunits,nameUnits_nil,List.compareLex_cons_nil,Ordering.gt_then]
 | case4 padding left l right r hruns leftRun rightRun leftDigits rightDigits _ h=>
  rw [compareUnits_runs hruns,Nat.compare_eq_lt.mpr h]
  rfl
 | case5 padding left l right r hruns leftRun rightRun leftDigits rightDigits hne h=>
  have hgt:rightDigits<leftDigits:=by omega
  rw [compareUnits_runs hruns,Nat.compare_eq_gt.mpr hgt]
  rfl
 | case6 padding left l right r hruns leftRun rightRun leftDigits rightDigits h htext=>
  rw [compareUnits_runs hruns,Nat.compare_eq_eq.mpr (not_not.mp h),Ordering.eq_then,htext,
   Ordering.lt_then]
 | case7 padding left l right r hruns leftRun rightRun leftDigits rightDigits h htext=>
  rw [compareUnits_runs hruns,Nat.compare_eq_eq.mpr (not_not.mp h),Ordering.eq_then,htext,
   Ordering.gt_then]
 | case8 padding left l right r hruns leftRun rightRun leftDigits rightDigits h htext
   leftWidth rightWidth ih =>
  simp only [dite_eq_ite] at ih
  rw [ih,padding_step,compareUnits_runs hruns,Nat.compare_eq_eq.mpr (not_not.mp h),
   Ordering.eq_then,htext,Ordering.eq_then]
 | case9 padding left l right r hruns hne h=>
  rw [(compareUnits_of_rank (byteRank_lt hruns h)).1]
 | case10 padding left l right r hruns hne h=>
  have hlt:=lt_of_le_of_ne (not_lt.mp h) (Ne.symm hne)
  rw [Bool.and_comm] at hruns
  rw [(compareUnits_of_rank (byteRank_lt hruns hlt)).2]
 | case11 padding left l right r hruns h ih=>
  obtain rfl:=not_not.mp h
  rw [ih,compareUnits_same hruns]

instance : TransCmp (compareUnits .eq):=
 inferInstanceAs (TransCmp (compareLex (List.compareLex compareValue)
  (List.compareLex compareWidth)))

/-- The natural order of names is a total preorder. -/
instance : TransCmp compareNaturalNames:=by
 have himage:=transCmp_image (compareUnits .eq) nameUnits
 have hsame:(fun lhs rhs=>compareUnits .eq (nameUnits lhs) (nameUnits rhs))=
   compareNaturalNames:=by
  funext lhs rhs
  exact (compareNaturalFrom_units .eq lhs rhs).symm
 rwa [hsame] at himage

section RowOrder
variable {field : SortField} {d direction : SortDirection} {lhs rhs row : DirectoryEntry}

lemma transCmp_values {α : Type} [LT α] [DecidableLT α] (value : α → ℤ)
 (h:∀a b : α,a<b ↔ value a<value b):
 TransCmp (compareValues : α → α → Ordering):=by
 have hsame:(fun a b=>compare (value a) (value b))=(compareValues : α → α → Ordering):=by
  funext a b
  unfold compareValues
  simp only [h]
  obtain hlt | heq | hgt:=Int.lt_trichotomy (value a) (value b)
  · rw [if_pos hlt,compare_lt_iff_lt.mpr hlt]
  · rw [heq,if_neg (lt_irrefl _),if_neg (lt_irrefl _),ReflOrd.compare_self]
  · rw [if_neg (lt_asymm hgt),if_pos hgt,compare_gt_iff_gt.mpr hgt]
 rw [←hsame]
 exact transCmp_image compare value

instance : TransCmp compareText := inferInstanceAs (TransOrd Bytes)

instance : TransCmp (compareValues : UInt64 → UInt64 → Ordering):=
 transCmp_values (fun value=>(value.toNat : ℤ)) fun _ _ =>
  UInt64.lt_iff_toNat_lt.trans Int.ofNat_lt.symm

instance : TransCmp (compareValues : Int64 → Int64 → Ordering):=
 transCmp_values Int64.toInt fun _ _=>Int64.lt_iff_toInt_lt

instance (field : SortField) : TransCmp (keyOrder field):=by
 cases field with
 | name=>exact transCmp_image compareNaturalNames DirectoryEntry.searchKeyUtf8
 | extension=>
  exact transCmp_image compareText fun entry : DirectoryEntry =>
   extension entry.searchKeyUtf8
 | modified=>exact transCmp_image compareValues DirectoryEntry.modifiedUnixNs
 | size=>exact transCmp_image compareValues DirectoryEntry.sizeBytes

def nameOrder (lhs rhs : DirectoryEntry) : Ordering:=
 compareNaturalNames lhs.searchKeyUtf8 rhs.searchKeyUtf8

instance : TransCmp nameOrder := transCmp_image compareNaturalNames DirectoryEntry.searchKeyUtf8

def idOrder (lhs rhs : DirectoryEntry) : Ordering := compareValues lhs.id rhs.id

instance : TransCmp idOrder := transCmp_image compareValues DirectoryEntry.id

def rowOrder (field : SortField) : DirectoryEntry → DirectoryEntry → Ordering:=
 compareLex (keyOrder field) (compareLex nameOrder idOrder)

instance (field : SortField) : TransCmp (rowOrder field):=
 inferInstanceAs (TransCmp (compareLex (keyOrder field) (compareLex nameOrder idOrder)))

lemma rowOrder_eq : rowOrder field lhs rhs=
 (keyOrder field lhs rhs).then ((nameOrder lhs rhs).then (idOrder lhs rhs)) := rfl

lemma ids_of_eq (h:idOrder lhs rhs=.eq) : lhs.id=rhs.id:=by
 unfold idOrder compareValues at h
 split_ifs at h with hlt hgt
 exact UInt64.le_antisymm (UInt64.not_lt.mp hgt) (UInt64.not_lt.mp hlt)

lemma first_id : (if d=.ascending then decide (lhs.id < rhs.id)
 else decide (rhs.id<lhs.id))=d.first (idOrder lhs rhs):=by
 unfold SortDirection.first idOrder compareValues
 by_cases hless:lhs.id < rhs.id
 · have hnot:¬rhs.id<lhs.id:=UInt64.lt_asymm hless
   simp only [hless,hnot,if_true,reduceCtorEq]
 · by_cases hgreater:rhs.id<lhs.id
   · simp only [hless,hgreater,if_true,if_false,reduceCtorEq]
   · simp only [hless,hgreater,if_false,reduceCtorEq]

lemma less_eq (field : SortField) (d : SortDirection) (lhs rhs : DirectoryEntry):
 less field d lhs rhs=d.first (rowOrder field lhs rhs):=by
 rw [less,rowOrder_eq]
 by_cases hkey:keyOrder field lhs rhs=.eq
 · rw [if_neg (not_not.mpr hkey),hkey,Ordering.eq_then]
   by_cases hname:nameOrder lhs rhs=.eq
   · rw [hname,Ordering.eq_then,←first_id]
     exact if_neg fun h=>h.2 hname
   · have hfield:field≠.name:=by
      intro h
      rw [h] at hkey
      exact hname hkey
     have hthen:(nameOrder lhs rhs).then (idOrder lhs rhs)=nameOrder lhs rhs:=by
      cases h:nameOrder lhs rhs with
      | eq=>exact absurd h hname
      | lt=>rfl
      | gt=>rfl
     rw [hthen]
     exact if_pos ⟨hfield,hname⟩
 · rw [if_pos hkey]
   cases h:keyOrder field lhs rhs with
   | eq=>exact absurd h hkey
   | lt=>rfl
   | gt=>rfl

lemma ids_eq (h:rowOrder field lhs rhs=.eq) : lhs.id=rhs.id:=by
 rw [rowOrder_eq,Ordering.then_eq_eq,Ordering.then_eq_eq] at h
 exact ids_of_eq h.2.2

lemma less_iff : less field d lhs rhs=true ↔
 rowOrder field lhs rhs=(if d=.ascending then .lt else .gt):=by
 rw [less_eq,SortDirection.first]
 split<;>rw [decide_eq_true_eq]

lemma less_iff_swap : less field d lhs rhs=true ↔
 rowOrder field rhs lhs=(if d=.ascending then .gt else .lt):=by
 rw [less_iff]
 split
 · exact OrientedCmp.gt_iff_lt.symm
 · exact OrientedCmp.gt_iff_lt

lemma less_asymm (h:less field d lhs rhs=true) : less field d rhs lhs=false:=by
 rw [less_iff_swap] at h
 rw [←Bool.not_eq_true,less_iff,h]
 split<;>nofun

lemma not_less_iff : less field d rhs lhs=false ↔
 if d=.ascending then (rowOrder field lhs rhs).isLE=true
 else (rowOrder field lhs rhs).isGE=true:=by
 rw [←Bool.not_eq_true,less_iff_swap]
 cases rowOrder field lhs rhs<;>cases d<;>decide

lemma not_less_trans (h:less field d rhs lhs=false)
 (hnext:less field d row rhs=false) : less field d row lhs=false:=by
 rw [not_less_iff] at h hnext ⊢
 by_cases hdirection:d=.ascending
 · rw [if_pos hdirection] at h hnext ⊢
   exact TransCmp.isLE_trans h hnext
 · rw [if_neg hdirection] at h hnext ⊢
   exact TransCmp.isGE_trans h hnext

lemma less_total (h:lhs.id≠rhs.id):
 less field d lhs rhs=true ∨ less field d rhs lhs=true:=by
 rw [less_iff,less_iff_swap]
 cases horder:rowOrder field lhs rhs with
 | eq=>exact absurd (ids_eq horder) h
 | lt=>split<;>simp only [true_or,or_true]
 | gt=>split<;>simp only [true_or,or_true]

end RowOrder

end VoVe.CatalogOrder
