import VoVe.AsciiText

set_option autoImplicit false

/-! The text check accepts the concatenations of encoded Unicode scalar values. -/

namespace VoVe.Utf8Exact
open ByteCodec AsciiText

variable {b c₁ c₂ c₃ : UInt8} {code : UInt32} {rest : Bytes} {n : ℕ}

/-- What the masks of the decoder say about the value of a byte. -/
lemma masks (b : UInt8) : (b &&& 0xe0=0xc0 ↔ 192≤b.toNat ∧ b.toNat<224) ∧
 (b &&& 0xf0=0xe0 ↔ 224≤b.toNat ∧ b.toNat<240) ∧
 (b &&& 0xf8=0xf0 ↔ 240≤b.toNat ∧ b.toNat<248) ∧
 (b &&& 0x1f).toNat=b.toNat%32 ∧ (b &&& 0x0f).toNat=b.toNat%16 ∧
 (b &&& 0x07).toNat=b.toNat%8 ∧ (b &&& 0x3f).toNat=b.toNat%64 ∧
 (continuationByte b=true ↔ 128≤b.toNat ∧ b.toNat<192):=by
 cases b with
 | ofBitVec v=>
  revert v
  decide +kernel

lemma toNat_appendBits (h:code.toNat<2 ^ 26):
 (appendBits code b).toNat=code.toNat*64+b.toNat%64:=by
 obtain ⟨-,-,-,-,-,-,hlow,-⟩:=masks b
 have hvalue:(b &&& 0x3f).toUInt32.toNat=b.toNat%64:=by rw [UInt8.toNat_toUInt32,hlow]
 rw [appendBits,toNat_appendSix h (by omega),hvalue]

lemma validCodePoint_iff : validCodePoint n code=true ↔
 (n=2 → 2048 ≤ code.toNat) ∧ (n=3 → 65536 ≤ code.toNat) ∧ code.isValidChar:=by
 simp only [validCodePoint,UInt32.isValidChar,Nat.isValidChar,UInt32.lt_iff_toNat_lt,
  UInt32.le_iff_toNat_le,gt_iff_lt,ge_iff_le,UInt32.reduceToNat]
 simp
 omega

/-- The encoding of a scalar value by its size. -/
lemma encode_cases (c : Char):
 (c.toNat≤127 ∧ String.utf8EncodeChar c=[UInt8.ofNat c.toNat]) ∨
 (127<c.toNat ∧ c.toNat≤2047 ∧ String.utf8EncodeChar c=
  [UInt8.ofNat (c.toNat/64%32+192),UInt8.ofNat (c.toNat%64+128)]) ∨
 (2047<c.toNat ∧ c.toNat≤65535 ∧ String.utf8EncodeChar c=
  [UInt8.ofNat (c.toNat/4096%16+224),UInt8.ofNat (c.toNat/64%64+128),
   UInt8.ofNat (c.toNat%64+128)]) ∨
 (65535<c.toNat ∧ String.utf8EncodeChar c=
  [UInt8.ofNat (c.toNat/262144%8+240),UInt8.ofNat (c.toNat/4096%64+128),
   UInt8.ofNat (c.toNat/64%64+128),UInt8.ofNat (c.toNat%64+128)]):=by
 unfold String.utf8EncodeChar
 by_cases hone:c.toNat≤127
 · exact .inl ⟨hone,if_pos hone⟩
 by_cases htwo:c.toNat≤2047
 · exact .inr (.inl ⟨by omega,htwo,(if_neg hone).trans (if_pos htwo)⟩)
 by_cases hthree:c.toNat≤65535
 · exact .inr (.inr (.inl ⟨by omega,hthree,
    (if_neg hone).trans ((if_neg htwo).trans (if_pos hthree))⟩))
 · exact .inr (.inr (.inr ⟨by omega, (if_neg hone).trans ((if_neg htwo).trans (if_neg hthree))⟩))

lemma ofNat_eq : UInt8.ofNat n=b ↔ n%256=b.toNat:=by
 rw [←UInt8.toNat_inj,UInt8.toNat_ofNat']

lemma encode_one (c : Char) : String.utf8EncodeChar c=[b] ↔
 b.toNat<128 ∧ c.toNat=b.toNat:=by
 obtain ⟨h,hc⟩ | ⟨h,h',hc⟩ | ⟨h,h',hc⟩ | ⟨h,hc⟩:=encode_cases c
 all_goals
  rw [hc]
  simp only [List.cons.injEq,ofNat_eq,reduceCtorEq,and_false,and_true,false_iff]
  omega

lemma encode_two (c : Char) : String.utf8EncodeChar c=[b,c₁] ↔
 (192≤b.toNat ∧ b.toNat<224) ∧ (128 ≤ c₁.toNat ∧ c₁.toNat<192) ∧ 128 ≤ c.toNat ∧
  c.toNat=b.toNat%32*64+c₁.toNat%64:=by
 obtain ⟨h,hc⟩ | ⟨h,h',hc⟩ | ⟨h,h',hc⟩ | ⟨h,hc⟩:=encode_cases c
 all_goals
  rw [hc]
  simp only [List.cons.injEq,ofNat_eq,reduceCtorEq,and_false,and_true,false_iff]
  omega

lemma encode_three (c : Char) : String.utf8EncodeChar c=[b,c₁,c₂] ↔
 (224≤b.toNat ∧ b.toNat<240) ∧ (128 ≤ c₁.toNat ∧ c₁.toNat<192) ∧
  (128 ≤ c₂.toNat ∧ c₂.toNat<192) ∧ 2048 ≤ c.toNat ∧
  c.toNat=(b.toNat%16*64+c₁.toNat%64)*64+c₂.toNat%64:=by
 obtain ⟨h,hc⟩ | ⟨h,h',hc⟩ | ⟨h,h',hc⟩ | ⟨h,hc⟩:=encode_cases c
 all_goals
  rw [hc]
  simp only [List.cons.injEq,ofNat_eq,reduceCtorEq,and_false,and_true,false_iff]
  omega

lemma encode_four (c : Char) : String.utf8EncodeChar c=[b,c₁,c₂,c₃] ↔
 (240≤b.toNat ∧ b.toNat<248) ∧ (128 ≤ c₁.toNat ∧ c₁.toNat<192) ∧
  (128 ≤ c₂.toNat ∧ c₂.toNat<192) ∧ (128 ≤ c₃.toNat ∧ c₃.toNat<192) ∧ 65536 ≤ c.toNat ∧
  c.toNat=((b.toNat%8*64+c₁.toNat%64)*64+c₂.toNat%64)*64+c₃.toNat%64:=by
 have hsmall:c.toNat<55296 ∨ 57343<c.toNat ∧ c.toNat<1114112:=c.valid
 obtain ⟨h,hc⟩ | ⟨h,h',hc⟩ | ⟨h,h',hc⟩ | ⟨h,hc⟩:=encode_cases c
 all_goals
  rw [hc]
  simp only [List.cons.injEq,ofNat_eq,reduceCtorEq,and_false,and_true,false_iff]
  omega

/-- The scalar value of a code point that was put together and checked. -/
lemma exists_char {encoding : Bytes} {p : Prop} {count : ℕ}
 (h:∀c : Char,String.utf8EncodeChar c=encoding ↔ p ∧ (count=2 → 2048 ≤ c.toNat) ∧
  (count=3 → 65536 ≤ c.toNat) ∧ c.toNat=code.toNat):
 (∃ c,String.utf8EncodeChar c=encoding) ↔ p ∧ validCodePoint count code=true:=by
 rw [validCodePoint_iff]
 constructor
 · intro ⟨c,hc⟩
   obtain ⟨hp,htwo,hthree,hvalue⟩:=(h c).mp hc
   obtain rfl : c.val=code:=UInt32.toNat.inj hvalue
   exact ⟨hp,htwo,hthree,c.valid⟩
 · intro ⟨hp,htwo,hthree,hvalid⟩
   exact ⟨⟨code,hvalid⟩,(h _).mpr ⟨hp,htwo,hthree,rfl⟩⟩

lemma spec_two : (∃ c,String.utf8EncodeChar c=[b,c₁]) ↔
 (b &&& 0xe0=0xc0 ∧ ¬(b &&& 0x1f).toUInt32<2 ∧ continuationByte c₁=true) ∧
  validCodePoint 1 (appendBits (b &&& 0x1f).toUInt32 c₁)=true:=by
 apply exists_char
 intro c
 obtain ⟨hclass,-,-,hlow,-⟩:=masks b
 obtain ⟨-,-,-,-,-,-,-,hcont⟩:=masks c₁
 rw [encode_two,toNat_appendBits (by rw [UInt8.toNat_toUInt32]; omega),hclass,hcont,
  UInt32.lt_iff_toNat_lt,UInt8.toNat_toUInt32,hlow,show (2 : UInt32).toNat=2 from rfl]
 omega

lemma spec_three : (∃ c,String.utf8EncodeChar c=[b,c₁,c₂]) ↔
 (b &&& 0xf0=0xe0 ∧ continuationByte c₁=true ∧ continuationByte c₂=true) ∧
  validCodePoint 2 (appendBits (appendBits (b &&& 0x0f).toUInt32 c₁) c₂)=true:=by
 apply exists_char
 intro c
 obtain ⟨-,hclass,-,-,hlow,-⟩:=masks b
 obtain ⟨-,-,-,-,-,-,-,hfirst⟩:=masks c₁
 obtain ⟨-,-,-,-,-,-,-,hsecond⟩:=masks c₂
 have hcode:=@toNat_appendBits c₁ (b &&& 0x0f).toUInt32
  (by rw [UInt8.toNat_toUInt32]; omega)
 rw [UInt8.toNat_toUInt32,hlow] at hcode
 rw [encode_three,toNat_appendBits (by omega),hcode,hclass,hfirst,hsecond]
 omega

lemma spec_four : (∃ c,String.utf8EncodeChar c=[b,c₁,c₂,c₃]) ↔
 (b &&& 0xf8=0xf0 ∧ continuationByte c₁=true ∧ continuationByte c₂=true ∧
  continuationByte c₃=true) ∧ validCodePoint 3
   (appendBits (appendBits (appendBits (b &&& 0x07).toUInt32 c₁) c₂) c₃)=true:=by
 apply exists_char
 intro c
 obtain ⟨-,-,hclass,-,-,hlow,-⟩:=masks b
 obtain ⟨-,-,-,-,-,-,-,hfirst⟩:=masks c₁
 obtain ⟨-,-,-,-,-,-,-,hsecond⟩:=masks c₂
 obtain ⟨-,-,-,-,-,-,-,hthird⟩:=masks c₃
 have hcode:=@toNat_appendBits c₁ (b &&& 0x07).toUInt32
  (by rw [UInt8.toNat_toUInt32]; omega)
 rw [UInt8.toNat_toUInt32,hlow] at hcode
 have hnext:=@toNat_appendBits c₂ (appendBits (b &&& 0x07).toUInt32 c₁) (by omega)
 rw [encode_four,toNat_appendBits (by omega),hnext,hcode,hclass,hfirst,hsecond,hthird]
 omega

lemma spec_one : (∃ c,String.utf8EncodeChar c=[b]) ↔ b≤0x7f:=by
 rw [UInt8.le_iff_toNat_le]
 constructor
 · intro ⟨c,hc⟩
   exact Nat.le_of_lt_succ ((encode_one c).mp hc).1
 · intro h
   have hb:b.toNat<128:=Nat.lt_succ_of_le h
   have hvalid:b.toUInt32.isValidChar:=.inl (by rw [UInt8.toNat_toUInt32]; omega)
   exact ⟨⟨b.toUInt32,hvalid⟩,(encode_one _).mpr ⟨hb,UInt8.toNat_toUInt32 b⟩⟩

lemma high_byte (h:128≤b.toNat) : ¬b≤0x7f := UInt8.le_iff_toNat_le.not.mpr (Nat.not_le_of_lt h)

lemma accept_two (h:∃ c,String.utf8EncodeChar c=[b,c₁]):
 validUtf8 (b::c₁::rest)=validUtf8 rest:=by
 obtain ⟨⟨hclass,hlow,hcont⟩,hvalid⟩:=spec_two.mp h
 have hb:=(masks b).1.mp hclass
 rw [validUtf8,if_neg (high_byte (by omega)),if_pos hclass]
 simp only [hlow,hcont,hvalid,if_false,Bool.true_and]

lemma accept_three (h:∃ c,String.utf8EncodeChar c=[b,c₁,c₂]):
 validUtf8 (b::c₁::c₂::rest)=validUtf8 rest:=by
 obtain ⟨⟨hclass,hfirst,hsecond⟩,hvalid⟩:=spec_three.mp h
 obtain ⟨htwo,hthree,-⟩:=masks b
 have hb:=hthree.mp hclass
 rw [validUtf8,if_neg (high_byte (by omega)),if_neg (by rw [htwo]; omega),if_pos hclass]
 simp only [hfirst,hsecond,hvalid,Bool.true_and]

lemma accept_four (h:∃ c,String.utf8EncodeChar c=[b,c₁,c₂,c₃]):
 validUtf8 (b::c₁::c₂::c₃::rest)=validUtf8 rest:=by
 obtain ⟨⟨hclass,hfirst,hsecond,hthird⟩,hvalid⟩:=spec_four.mp h
 obtain ⟨htwo,hthree,hfour,-⟩:=masks b
 have hb:=hfour.mp hclass
 rw [validUtf8,if_neg (high_byte (by omega)),if_neg (by rw [htwo]; omega),
  if_neg (by rw [hthree]; omega),if_pos hclass]
 simp only [hfirst,hsecond,hthird,hvalid,Bool.true_and]

lemma validUtf8_encode (c : Char) (tail : Bytes):
 validUtf8 (String.utf8EncodeChar c++tail)=validUtf8 tail:=by
 obtain ⟨-,hc⟩ | ⟨-,-,hc⟩ | ⟨-,-,hc⟩ | ⟨-,hc⟩:=encode_cases c
 · rw [hc,List.singleton_append,validUtf8,if_pos (spec_one.mp ⟨c,hc⟩)]
 · rw [hc]
   exact accept_two ⟨c,hc⟩
 · rw [hc]
   exact accept_three ⟨c,hc⟩
 · rw [hc]
   exact accept_four ⟨c,hc⟩

/-- An accepted text with a first byte starts with an encoded scalar value, and the rest is
  accepted. -/
lemma validUtf8_cons {first : UInt8} (h:validUtf8 (first::rest)=true):
 ∃ c tail,first::rest=String.utf8EncodeChar c++tail ∧ validUtf8 tail=true:=by
 rw [validUtf8] at h
 split at h
 · next hone =>
  obtain ⟨c,hc⟩:=spec_one.mpr hone
  exact ⟨c,rest,by rw [hc]; rfl,h⟩
 split at h
 · next htwo =>
  dsimp only at h
  split at h
  · contradiction
  next hcode =>
  split at h
  · next c₁ tail =>
   simp only [Bool.and_eq_true] at h
   obtain ⟨c,hc⟩:=spec_two.mpr ⟨⟨htwo,hcode,h.1.1⟩,h.1.2⟩
   exact ⟨c,tail,by rw [hc]; rfl,h.2⟩
  · contradiction
 split at h
 · next hthree =>
  dsimp only at h
  split at h
  · next c₁ c₂ tail =>
   simp only [Bool.and_eq_true] at h
   obtain ⟨c,hc⟩:=spec_three.mpr ⟨⟨hthree,h.1.1.1,h.1.1.2⟩,h.1.2⟩
   exact ⟨c,tail,by rw [hc]; rfl,h.2⟩
  · contradiction
 split at h
 · next hfour =>
  dsimp only at h
  split at h
  · next c₁ c₂ c₃ tail =>
   simp only [Bool.and_eq_true] at h
   obtain ⟨c,hc⟩:=spec_four.mpr ⟨⟨hfour,h.1.1.1.1,h.1.1.1.2,h.1.1.2⟩,h.1.2⟩
   exact ⟨c,tail,by rw [hc]; rfl,h.2⟩
  · contradiction
 · contradiction

/-- Texts that are concatenations of encoded scalar values. -/
def WellFormed (text : Bytes) : Prop:=
 ∃ scalars : List Char,text = scalars.flatMap String.utf8EncodeChar

lemma validUtf8_iff (text : Bytes) : validUtf8 text=true ↔ WellFormed text:=by
 constructor
 · induction hn : text.length using Nat.strong_induction_on generalizing text with
   | _ n ih=>
    intro h
    cases text with
    | nil=>exact ⟨[],rfl⟩
    | cons first rest=>
     obtain ⟨c,tail,heq,htail⟩:=validUtf8_cons h
     have hsize:=congrArg List.length heq
     rw [List.length_append,String.length_utf8EncodeChar] at hsize
     have hpos:=c.utf8Size_pos
     obtain ⟨scalars,hscalars⟩:=ih _ (by omega) tail rfl htail
     exact ⟨c::scalars,by rw [heq,hscalars,List.flatMap_cons]⟩
 · intro ⟨scalars,htext⟩
   subst htext
   induction scalars with
   | nil=>rfl
   | cons c scalars ih=>rw [List.flatMap_cons,validUtf8_encode,ih]

theorem utf8_checks_exact (text : Bytes) : (validUtf8 text=true ↔ WellFormed text) ∧
 (validUtf8WithoutNul text=true ↔ WellFormed text ∧ 0∉text):=by
 refine ⟨validUtf8_iff text,?_⟩
 rw [validUtf8WithoutNul,←validUtf8_iff,Bool.and_eq_true,and_comm]
 simp

end VoVe.Utf8Exact
