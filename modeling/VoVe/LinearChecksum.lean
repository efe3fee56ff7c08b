import Mathlib.Algebra.Group.Nat.Defs
import Mathlib.Tactic.ByContra

set_option autoImplicit false

/-! Checksums of 32 bits that take a byte at a time by a step that is linear in exclusive or:
  two texts of one length that differ within four bytes have different checksums. -/

namespace VoVe.LinearChecksum

/-- A step is linear, and one that leaves the highest byte clear has only moved its argument
  down by a byte. -/
structure ShiftStep (step : UInt32 → UInt32) : Prop where
 xor : ∀a b,step (a ^^^ b)=step a ^^^ step b
 low : ∀a,(step a).toNat<2 ^ 24 → a.toNat=256*(step a).toNat

def absorb (step : UInt32 → UInt32) (state : UInt32) (text : List UInt8) : UInt32:=
 text.foldl (fun value byte=>step (value ^^^ byte.toUInt32)) state

lemma absorb_cons (step : UInt32 → UInt32) (state : UInt32) (byte : UInt8) (text : List UInt8):
 absorb step state (byte::text)=absorb step (step (state ^^^ byte.toUInt32)) text := rfl

variable {a b state : UInt32} {left right : List UInt8}

section Steps
variable {step : UInt32 → UInt32} (h:ShiftStep step)

lemma xor_cancel (a b : UInt32) : a ^^^ (a ^^^ b)=b:=by
 rw [←UInt32.xor_assoc,UInt32.xor_self,UInt32.zero_xor]

lemma eq_of_xor (hzero:a ^^^ b=0) : a=b:=by
 rw [←xor_cancel a b,hzero,UInt32.xor_zero]

include h in
lemma ShiftStep.injective (hstep:step a=step b) : a=b:=by
 have hzero:step (a ^^^ b)=0:=by rw [h.xor,hstep,UInt32.xor_self]
 have hlow:=h.low (a ^^^ b) (by rw [hzero]; decide)
 rw [hzero] at hlow
 exact eq_of_xor (UInt32.toNat.inj hlow)

include h in
lemma absorb_state (text : List UInt8) (habsorb:absorb step a text=absorb step b text):
 a=b:=by
 induction text generalizing a b with
 | nil=>exact habsorb
 | cons byte rest ih=>
  have hstate:=h.injective (ih habsorb)
  rw [UInt32.xor_comm a,UInt32.xor_comm b] at hstate
  rw [←xor_cancel byte.toUInt32 a,hstate,xor_cancel]

lemma xor_lt {bits : ℕ} (ha:a.toNat<2 ^ bits) (hb:b.toNat<2 ^ bits):
 (a ^^^ b).toNat<2 ^ bits:=by
 rw [UInt32.toNat_xor]
 exact Nat.xor_lt_two_pow ha hb

lemma byte_lt (byte : UInt8) : byte.toUInt32.toNat<2 ^ 8:=by
 rw [UInt8.toNat_toUInt32]
 exact byte.toNat_lt

lemma xor_four (a b c d : UInt32) : (a ^^^ b) ^^^ (c ^^^ d)=(a ^^^ c) ^^^ (b ^^^ d):=by
 rw [UInt32.xor_assoc,←UInt32.xor_assoc b,UInt32.xor_comm b c,UInt32.xor_assoc c,
  ← UInt32.xor_assoc a]

include h in
/-- States that two texts of at most three bytes bring together differ in no higher byte. -/
lemma absorb_near (hlength:left.length=right.length) (hshort:left.length≤3)
 (habsorb:absorb step a left=absorb step b right):
 (a ^^^ b).toNat<2 ^ (8*left.length):=by
 induction left generalizing a b right with
 | nil=>
  obtain rfl : right=[]:=List.length_eq_zero_iff.mp hlength.symm
  rw [show a=b from habsorb,UInt32.xor_self]
  exact Nat.one_pos
 | cons byte rest ih=>
  cases right with
  | nil=>cases hlength
  | cons byte' rest'=>
   simp only [List.length_cons] at hlength hshort ⊢
   rw [absorb_cons,absorb_cons] at habsorb
   have hnear:=ih (by omega) (by omega) habsorb
   rw [←h.xor,xor_four] at hnear
   have hpower:2 ^ (8*rest.length)≤2 ^ 24:=Nat.pow_le_pow_right (by decide) (by omega)
   have hlow:=h.low _ (Nat.lt_of_lt_of_le hnear hpower)
   have hbytes:(byte.toUInt32 ^^^ byte'.toUInt32).toNat<2 ^ (8*(rest.length+1)):=
    Nat.lt_of_lt_of_le (xor_lt (byte_lt byte) (byte_lt byte'))
     (Nat.pow_le_pow_right (by decide) (by omega))
   have hsum:((a ^^^ b) ^^^ (byte.toUInt32 ^^^ byte'.toUInt32)).toNat <
     2 ^ (8*(rest.length+1)):=by
    rw [hlow,Nat.mul_add,Nat.pow_add]
    omega
   have hxor:=xor_lt hsum hbytes
   rwa [UInt32.xor_assoc,UInt32.xor_self,UInt32.xor_zero] at hxor

include h in
lemma absorb_window (hlength:left.length=right.length) (hshort:left.length≤4)
 (habsorb:absorb step state left=absorb step state right) : left=right:=by
 induction left generalizing state right with
 | nil=>exact (List.length_eq_zero_iff.mp hlength.symm).symm
 | cons byte rest ih=>
  cases right with
  | nil=>cases hlength
  | cons byte' rest'=>
   simp only [List.length_cons] at hlength hshort
   rw [absorb_cons,absorb_cons] at habsorb
   have hnear:=absorb_near h (by omega) (by omega) habsorb
   rw [←h.xor,xor_four,UInt32.xor_self,UInt32.zero_xor] at hnear
   have hpower:2 ^ (8*rest.length)≤2 ^ 24:=Nat.pow_le_pow_right (by decide) (by omega)
   have hlow:=h.low _ (Nat.lt_of_lt_of_le hnear hpower)
   have hsmall:=xor_lt (byte_lt byte) (byte_lt byte')
   have hzero:byte.toUInt32 ^^^ byte'.toUInt32=0:=by
    apply UInt32.toNat.inj
    change _=0
    omega
   have hbyte:byte=byte':=by
    apply UInt8.toNat.inj
    have heq:=congrArg UInt32.toNat (eq_of_xor hzero)
    rwa [UInt8.toNat_toUInt32,UInt8.toNat_toUInt32] at heq
   subst hbyte
   rw [ih (by omega) (by omega) habsorb]

include h in
/-- Texts that differ at most within four bytes, and have one checksum, do not differ. -/
lemma absorb_burst {start : ℕ} (hlength:left.length=right.length)
 (hwindow:∀i,left[i]?≠right[i]? → start ≤ i ∧ i<start+4)
 (habsorb:absorb step state left=absorb step state right) : left=right:=by
 have hsame (i : ℕ) (hi:i<start ∨ start+4 ≤ i) : left[i]?=right[i]?:=by
  by_contra hdiffers
  have hinside:=hwindow i hdiffers
  omega
 have hfront:left.take start=right.take start:=by
  apply List.ext_getElem?
  intro i
  rw [List.getElem?_take,List.getElem?_take]
  split
  · exact hsame i (by omega)
  · rfl
 have hback:left.drop (start+4)=right.drop (start+4):=by
  apply List.ext_getElem?
  intro i
  rw [List.getElem?_drop,List.getElem?_drop]
  exact hsame _ (by omega)
 have hparts (text : List UInt8):
   text=text.take start++((text.drop start).take 4++text.drop (start+4)):=by
  rw [←List.drop_drop,List.take_append_drop,List.take_append_drop]
 rw [hparts left,hparts right,hfront,hback] at habsorb ⊢
 rw [absorb,absorb,List.foldl_append,List.foldl_append,List.foldl_append,
  List.foldl_append] at habsorb
 have hmiddle:=absorb_window h (by simp [hlength]) (List.length_take_le 4 _)
  (absorb_state h _ habsorb)
 rw [hmiddle]

end Steps

end VoVe.LinearChecksum
