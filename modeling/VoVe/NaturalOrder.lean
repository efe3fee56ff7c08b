import Mathlib.Data.List.TakeWhile
import Mathlib.Data.Nat.Digits.Lemmas
import VoVe.CatalogOrder

set_option autoImplicit false

namespace VoVe.NaturalOrder
open ByteCodec AsciiText CatalogOrder Std

inductive Token where
 | number (value : ℕ)
 | byte (value : UInt8)
 deriving DecidableEq

/-- The number a run of digits writes out. -/
def numberOf (digits : Bytes) : ℕ:=
 Nat.ofDigits 10 (digits.reverse.map fun digit=>digit.toNat - 48)

def nameTokens : Bytes → List (Token × ℕ)
 | []=>[]
 | byte::rest=>
  if isDigit byte then
   let run:=byte::rest.takeWhile isDigit
   (.number (numberOf run),run.length)::nameTokens (rest.dropWhile isDigit)
  else (.byte byte,1)::nameTokens rest
 termination_by name => name.length
 decreasing_by
  · have:=(rest.dropWhile_sublist isDigit).length_le
    simp only [List.length_cons]
    omega
  · simp only [List.length_cons]
    omega

/-- Numbers by value, bytes unsigned; a number among other bytes is where the digits are. -/
def compareToken : Token → Token → Ordering
 | .number left, .number right=>compare left right
 | .number _, .byte right=>compare 48 right.toNat
 | .byte left, .number _=>compare left.toNat 48
 | .byte left, .byte right=>compare left.toNat right.toNat

section Numbers
variable {d digits others run : Bytes} {digit : UInt8}

def Digits (digits : Bytes) : Prop := ∀digit ∈ digits,isDigit digit = true

lemma digit_bounds (h:isDigit digit=true) : 48≤digit.toNat ∧ digit.toNat≤57:=by
 simpa [isDigit,UInt8.le_iff_toNat_le] using h

lemma numberOf_cons (digit : UInt8) (d : Bytes) : numberOf (digit::d)=
 numberOf d+10 ^ d.length*(digit.toNat - 48):=by
 simp [numberOf,Nat.ofDigits_append]

lemma numberOf_lt (h:Digits d) : numberOf d<10 ^ d.length:=by
 induction d with
 | nil=>decide
 | cons digit rest ih=>
  have hrest:=ih fun other hother=>h other (List.mem_cons_of_mem _ hother)
  have hdigit:=digit_bounds (h digit (List.mem_cons_self ..))
  have hvalue:digit.toNat - 48≤9:=by omega
  have hproduct:=Nat.mul_le_mul_left (10 ^ rest.length) hvalue
  rw [numberOf_cons,List.length_cons,pow_succ]
  omega

lemma le_numberOf (h:Digits (digit::d)) (hnonzero:digit≠48):
 10 ^ d.length≤numberOf (digit::d):=by
 have hdigit:=digit_bounds (h digit (List.mem_cons_self ..))
 have hvalue:1≤digit.toNat - 48:=by
  have hne:digit.toNat≠48:=fun heq=>hnonzero (UInt8.toNat_inj.mp heq)
  omega
 have hproduct:=Nat.mul_le_mul_left (10 ^ d.length) hvalue
 rw [numberOf_cons]
 omega

lemma numberOf_longer (h:Digits d) (hothers:Digits others)
 (hhead:others.head?≠some 48) (hlength:d.length<others.length):
 numberOf d<numberOf others:=by
 cases others with
 | nil=>exact absurd hlength (Nat.not_lt_zero _)
 | cons digit rest=>
  have hnonzero:digit≠48:=fun heq=>hhead (congrArg some heq)
  have hpower:=Nat.pow_le_pow_right (show 0<10 by decide) (Nat.le_of_lt_succ hlength)
  exact (numberOf_lt h).trans_le (hpower.trans (le_numberOf hothers hnonzero))

lemma numberOf_significant (run : Bytes) : numberOf (significant run)=numberOf run:=by
 induction run with
 | nil=>rfl
 | cons digit rest ih=>
  by_cases hzero:digit=48
  · rw [numberOf_cons,hzero]
    exact ih
  · rw [significant,List.dropWhile_cons_of_neg (by simpa using hzero)]

lemma compare_shifted (left right offset : ℕ):
 compare (left+offset) (right+offset)=compare left right:=by
 obtain hlt | heq | hgt:=Nat.lt_trichotomy left right
 · rw [Nat.compare_eq_lt.mpr hlt,Nat.compare_eq_lt.mpr (Nat.add_lt_add_right hlt offset)]
 · rw [heq,Nat.compare_eq_eq.mpr rfl,Nat.compare_eq_eq.mpr rfl]
 · rw [Nat.compare_eq_gt.mpr hgt,Nat.compare_eq_gt.mpr (Nat.add_lt_add_right hgt offset)]

lemma numberOf_head {left right : UInt8} {lefts rights : Bytes} (h:Digits (left::lefts))
 (hlength:lefts.length=rights.length) (hlt:left.toNat < right.toNat):
 numberOf (left::lefts)<numberOf (right::rights):=by
 have hleft:=numberOf_lt fun digit hdigit=>h digit (List.mem_cons_of_mem _ hdigit)
 have hbound:=digit_bounds (h left (List.mem_cons_self ..))
 have hvalue:left.toNat - 48+1 ≤ right.toNat - 48:=by omega
 have hproduct:=Nat.mul_le_mul_left (10 ^ rights.length) hvalue
 rw [hlength] at hleft
 rw [Nat.mul_add] at hproduct
 rw [numberOf_cons,numberOf_cons,hlength]
 omega

lemma compare_numbers (h:Digits d) (hothers:Digits others)
 (hlength:d.length=others.length):
 compareText d others=compare (numberOf d) (numberOf others):=by
 induction d generalizing others with
 | nil=>
  rw [List.eq_nil_of_length_eq_zero hlength.symm]
  rfl
 | cons left lefts ih=>
  cases others with
  | nil=>cases hlength
  | cons right rights=>
   have hsame:=Nat.succ.inj hlength
   rw [compareText,List.compare_cons_cons]
   obtain hlt | heq | hgt:=Nat.lt_trichotomy left.toNat right.toNat
   · have hnumbers:=numberOf_head h hsame hlt
     have hbytes:compare left right=.lt:=compare_eq_lt.mpr (UInt8.lt_iff_toNat_lt.mpr hlt)
     rw [hbytes,Nat.compare_eq_lt.mpr hnumbers,Ordering.lt_then]
   · obtain rfl:=UInt8.toNat_inj.mp heq
     have hrest:=ih (fun digit hdigit=>h digit (List.mem_cons_of_mem _ hdigit))
      (fun digit hdigit=>hothers digit (List.mem_cons_of_mem _ hdigit)) hsame
     rw [ReflOrd.compare_self,Ordering.eq_then,numberOf_cons,numberOf_cons,hsame, compare_shifted]
     exact hrest
   · have hnumbers:=numberOf_head hothers hsame.symm hgt
     have hbytes:compare left right=.gt:=compare_eq_gt.mpr (UInt8.lt_iff_toNat_lt.mpr hgt)
     rw [hbytes,Nat.compare_eq_gt.mpr hnumbers,Ordering.gt_then]

/-- Without leading zeros the longer number is the larger. -/
lemma compare_significant (h:Digits d) (hothers:Digits others)
 (hhead:d.head?≠some 48) (hother:others.head?≠some 48):
 (compare d.length others.length).then (compareText d others)=
  compare (numberOf d) (numberOf others):=by
 obtain hlt | heq | hgt:=Nat.lt_trichotomy d.length others.length
 · have hlonger:=numberOf_longer h hothers hother hlt
   rw [Nat.compare_eq_lt.mpr hlt,Nat.compare_eq_lt.mpr hlonger,Ordering.lt_then]
 · rw [Nat.compare_eq_eq.mpr heq,Ordering.eq_then,compare_numbers h hothers heq]
 · have hlonger:=numberOf_longer hothers h hhead hgt
   rw [Nat.compare_eq_gt.mpr hgt,Nat.compare_eq_gt.mpr hlonger,Ordering.gt_then]

lemma significant_digits (h:Digits run) : Digits (significant run) := fun digit hdigit =>
 h digit ((List.dropWhile_sublist _).subset hdigit)

lemma significant_head (run : Bytes) : (significant run).head?≠some 48:=by
 intro hhead
 have hnot:=List.head?_dropWhile_not (· == (48 : UInt8)) run
 rw [←significant,hhead] at hnot
 exact absurd hnot (by decide)

end Numbers

section Units
variable {unit other : NameUnit}

def Sound (unit : NameUnit) : Prop:=
 (∃ run,Digits run ∧ unit = ⟨48,(significant run).length,significant run,run.length⟩) ∨
  ∃ byte,isDigit byte = false ∧ unit = ⟨byte.toNat,0,[],1⟩

def tokenOf (unit : NameUnit) : Token:=
 if unit.rank = 48 then .number (numberOf unit.significantDigits)
 else .byte (UInt8.ofNat unit.rank)

def spell (unit : NameUnit) : Bytes:=
 if unit.rank = 48 then
  List.replicate (unit.width - unit.digits) 48++unit.significantDigits
 else [UInt8.ofNat unit.rank]

lemma run_digits (rest : Bytes) {b : UInt8} (h:isDigit b=true):
 Digits (b::rest.takeWhile isDigit):=by
 intro digit hdigit
 obtain rfl | hrest:=List.mem_cons.mp hdigit
 · exact h
 · exact List.mem_takeWhile_imp hrest

lemma rank_byte {b : UInt8} (h:isDigit b=false) : b.toNat≠48:=by
 intro heq
 obtain rfl : b=48:=UInt8.toNat_inj.mp heq
 exact absurd h (by decide)

variable (name : Bytes)

lemma nameUnits_sound : ∀unit∈nameUnits name,Sound unit:=by
 fun_induction nameUnits name with
 | case1=>exact fun unit hunit=>absurd hunit List.not_mem_nil
 | case2 b rest hdigit run ih=>
  intro unit hunit
  obtain rfl | hrest:=List.mem_cons.mp hunit
  · exact .inl ⟨run,run_digits rest hdigit,rfl⟩
  · exact ih unit hrest
 | case3 b rest hdigit ih=>
  intro unit hunit
  obtain rfl | hrest:=List.mem_cons.mp hunit
  · exact .inr ⟨b,Bool.eq_false_iff.mpr hdigit,rfl⟩
  · exact ih unit hrest

lemma nameTokens_units:
 nameTokens name=(nameUnits name).map fun unit=>(tokenOf unit,unit.width):=by
 fun_induction nameUnits name with
 | case1=>rw [nameTokens,List.map_nil]
 | case2 b rest hdigit run ih=>
  rw [nameTokens,if_pos hdigit,List.map_cons,←ih,tokenOf,if_pos rfl,numberOf_significant]
 | case3 b rest hdigit ih=>
  have hrank:=rank_byte (Bool.eq_false_iff.mpr hdigit)
  rw [nameTokens,if_neg hdigit,List.map_cons,←ih,tokenOf,if_neg hrank,UInt8.ofNat_toNat]

lemma compareValue_token (h:Sound unit) (hother:Sound other):
 compareValue unit other=compareToken (tokenOf unit) (tokenOf other):=by
 have hbyte (b : UInt8) (d : Bytes) (count width : ℕ) (hne:b.toNat≠48):
   compareValue ⟨b.toNat,0,[],1⟩ ⟨48,count,d,width⟩=compare b.toNat 48 ∧
   compareValue ⟨48,count,d,width⟩ ⟨b.toNat,0,[],1⟩=compare 48 b.toNat:=by
  obtain hlt | hgt:=Nat.lt_or_gt_of_ne hne
  · rw [Nat.compare_eq_lt.mpr hlt,Nat.compare_eq_gt.mpr hlt]
    exact ⟨compareValue_lt hlt,compareValue_gt hlt⟩
  · rw [Nat.compare_eq_gt.mpr hgt,Nat.compare_eq_lt.mpr hgt]
    exact ⟨compareValue_gt hgt,compareValue_lt hgt⟩
 obtain ⟨run,hrun,rfl⟩ | ⟨b,hdigit,rfl⟩:=h
 · obtain ⟨run',hrun',rfl⟩ | ⟨byte',hdigit',rfl⟩:=hother
   · rw [compareValue_runs,tokenOf,tokenOf,if_pos rfl,if_pos rfl]
     exact compare_significant (significant_digits hrun) (significant_digits hrun')
      (significant_head run) (significant_head run')
   · have hrank:=rank_byte hdigit'
     rw [tokenOf,tokenOf,if_pos rfl,if_neg hrank,UInt8.ofNat_toNat]
     exact (hbyte byte' _ _ _ hrank).2
 · have hrank:=rank_byte hdigit
   obtain ⟨run',hrun',rfl⟩ | ⟨byte',hdigit',rfl⟩:=hother
   · rw [tokenOf,tokenOf,if_neg hrank,if_pos rfl,UInt8.ofNat_toNat]
     exact (hbyte b _ _ _ hrank).1
   · rw [tokenOf,tokenOf,if_neg hrank,if_neg (rank_byte hdigit'),UInt8.ofNat_toNat,
      UInt8.ofNat_toNat]
     exact Ordering.then_eq

lemma spell_units : (nameUnits name).flatMap spell=name:=by
 fun_induction nameUnits name with
 | case1=>rfl
 | case2 b rest hdigit run ih=>
  have hzeros:List.replicate (run.length - (significant run).length) 48++significant run=
    run:=by
   have hsplit:=List.takeWhile_append_dropWhile (p := (· == (48 : UInt8))) (l := run)
   have hlength:=congrArg List.length hsplit
   rw [List.length_append,←significant] at hlength
   have hfront:run.takeWhile (· == 48)=
     List.replicate (run.length - (significant run).length) 48:=by
    refine List.eq_replicate_iff.mpr ⟨by omega,fun digit hmem=>?_⟩
    have hzero:=List.mem_takeWhile_imp hmem
    exact eq_of_beq hzero
   rw [←hfront]
   exact hsplit
  have hwhole:=List.takeWhile_append_dropWhile (p := isDigit) (l := rest)
  rw [List.flatMap_cons,ih,spell,if_pos rfl,hzeros,List.cons_append,hwhole]
 | case3 b rest hdigit ih=>
  have hrank:=rank_byte (Bool.eq_false_iff.mpr hdigit)
  rw [List.flatMap_cons,ih,spell,if_neg hrank,UInt8.ofNat_toNat,List.singleton_append]

end Units

section Names
variable {α β : Type} {lhs rhs : Bytes}

def values (name : Bytes) : List Token := (nameTokens name).map Prod.fst

def widths (name : Bytes) : List ℕ := (nameTokens name).map Prod.snd

lemma compareLex_map {cmp : α → α → Ordering} {cmp' : β → β → Ordering} (f : α → β)
 (xs ys : List α) (h:∀x∈xs,∀y∈ys,cmp x y=cmp' (f x) (f y)):
 List.compareLex cmp xs ys=List.compareLex cmp' (xs.map f) (ys.map f):=by
 induction xs generalizing ys with
 | nil=>cases ys<;>rfl
 | cons x xs ih=>
  cases ys with
  | nil=>rfl
  | cons y ys=>
   have hhead:=h x (List.mem_cons_self ..) y (List.mem_cons_self ..)
   have hrest:=ih ys fun x hx y hy =>
    h x (List.mem_cons_of_mem _ hx) y (List.mem_cons_of_mem _ hy)
   rw [List.map_cons,List.map_cons,List.compareLex_cons_cons,List.compareLex_cons_cons,hhead,
    hrest]

/-- Zero padding, the widths of equal numbers, decides only between names with the same
  values. -/
lemma compareNaturalNames_tokens (lhs rhs : Bytes) : compareNaturalNames lhs rhs=
 (List.compareLex compareToken (values lhs) (values rhs)).then
  (List.compareLex compare (widths lhs) (widths rhs)):=by
 have hvalues:=compareLex_map tokenOf (nameUnits lhs) (nameUnits rhs)
  fun unit hunit other hother=>compareValue_token (nameUnits_sound lhs unit hunit)
   (nameUnits_sound rhs other hother)
 have hwidths:=compareLex_map NameUnit.width (nameUnits lhs) (nameUnits rhs)
  fun unit _ other _=>(rfl : compareWidth unit other=compare unit.width other.width)
 rw [compareNaturalNames,compareNaturalFrom_units,compareUnits,Ordering.eq_then,hvalues,
  hwidths,values,values,widths,widths,nameTokens_units,nameTokens_units]
 simp only [List.map_map]
 rfl

lemma units_of_eq {lefts rights : List NameUnit}
 (hvalues:List.compareLex compareValue lefts rights=.eq)
 (hwidths:List.compareLex compareWidth lefts rights=.eq) : lefts=rights:=by
 induction lefts generalizing rights with
 | nil=>
  cases rights with
  | nil=>rfl
  | cons right rights=>cases hvalues
 | cons left lefts ih=>
  cases rights with
  | nil=>cases hvalues
  | cons right rights=>
   rw [List.compareLex_cons_cons,Ordering.then_eq_eq] at hvalues hwidths
   have hvalue:=hvalues.1
   simp only [compareValue,compareLex,compareOn,Ordering.then_eq_eq,
    LawfulEqCmp.compare_eq_iff_eq] at hvalue
   have hwidth:left.width=right.width:=LawfulEqCmp.eq_of_compare hwidths.1
   have hsame:left=right:=by
    cases left
    cases right
    obtain ⟨rfl,rfl,rfl⟩:=hvalue
    obtain rfl:=hwidth
    rfl
   rw [hsame,ih hvalues.2 hwidths.2]

lemma compareNaturalNames_eq_iff : compareNaturalNames lhs rhs=.eq ↔ lhs=rhs:=by
 constructor
 · intro h
   rw [compareNaturalNames,compareNaturalFrom_units,compareUnits,Ordering.eq_then,
    Ordering.then_eq_eq] at h
   rw [←spell_units lhs,units_of_eq h.1 h.2,spell_units]
 · intro h
   rw [h]
   exact ReflCmp.compare_self

lemma less_trans {field : SortField} {direction : SortDirection} {first second third : DirectoryEntry}
 (h:less field direction first second=true)
 (hnext:less field direction second third=true):
 less field direction first third=true:=by
 rw [less_iff] at h hnext ⊢
 by_cases hdirection:direction=.ascending
 · rw [if_pos hdirection] at h hnext ⊢
   exact TransCmp.lt_trans h hnext
 · rw [if_neg hdirection] at h hnext ⊢
   exact TransCmp.gt_trans h hnext

/-- Two rows neither of which is less than the other. -/
def Tied (field : SortField) (direction : SortDirection) (lhs rhs : DirectoryEntry) : Prop:=
 less field direction lhs rhs = false ∧ less field direction rhs lhs = false

/-- The natural order of names is total, compares numbers and other bytes, and makes the
  comparator of the rows a strict weak order. -/
theorem natural_order : (∀lhs rhs,compareNaturalNames lhs rhs=.eq ↔ lhs=rhs) ∧
 (∀lhs rhs,compareNaturalNames lhs rhs=(compareNaturalNames rhs lhs).swap) ∧
 (∀first second third,compareNaturalNames first second≠.gt →
  compareNaturalNames second third≠.gt → compareNaturalNames first third≠.gt) ∧
 (∀lhs rhs,compareNaturalNames lhs rhs=
  (List.compareLex compareToken (values lhs) (values rhs)).then
   (List.compareLex compare (widths lhs) (widths rhs))) ∧
 ∀field direction, (∀row,less field direction row row=false) ∧
  (∀first second third,less field direction first second=true →
   less field direction second third=true → less field direction first third=true) ∧
  ∀first second third,Tied field direction first second →
   Tied field direction second third → Tied field direction first third:=by
 refine ⟨fun _ _=>compareNaturalNames_eq_iff,fun _ _=>OrientedCmp.eq_swap,?_,
  compareNaturalNames_tokens,fun field direction=>⟨?_,fun _ _ _=>less_trans,?_⟩⟩
 · intro first second third h hnext
   rw [ne_eq,←Ordering.isLE_iff_ne_gt] at h hnext ⊢
   exact TransCmp.isLE_trans h hnext
 · intro row
   by_contra hless
   have hnot:=less_asymm (Bool.not_eq_false _ ▸ hless)
   exact hless hnot
 · intro first second third h hnext
   exact ⟨not_less_trans hnext.1 h.1,not_less_trans h.2 hnext.2⟩

end Names

end VoVe.NaturalOrder
