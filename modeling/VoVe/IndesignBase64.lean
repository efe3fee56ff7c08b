import VoVe.AsciiText

set_option autoImplicit false

/-! The base64 decoder of the preview reader for InDesign documents. -/

namespace VoVe.IndesignBase64
open ByteCodec AsciiText

inductive Status where
 | success
 | noPreview
 | malformed
 | resourceLimit
 deriving DecidableEq

structure CdrPreviewLimits where
 maximumCompressedPreviewBytes : ℕ
 maximumTotalPreviewBytes : ℕ

structure Candidate where
 normalizedName : String
 encodedImage : Bytes
 deriving DecidableEq

structure Result where
 status : Status
 candidates : List Candidate := []
 diagnostic : String
 deriving DecidableEq

structure Preview where
 imageSeen : Bool := false
 base64 : Bytes := []
 format : Bytes := []
 deriving DecidableEq

/-- The two kinds of field that are collected. -/
inductive Kind where
 | image
 | format

def xmlSpace (value : UInt8) : Bool := value ∈ [32,9,13,10]

/-- `none` is the digit -1. -/
def base64Digit (value : UInt8) : Option ℕ:=
 if 65 ≤ value.toNat ∧ value.toNat ≤ 90 then some (value.toNat-65)
 else if 97 ≤ value.toNat ∧ value.toNat ≤ 122 then some (value.toNat-97+26)
 else if 48 ≤ value.toNat ∧ value.toNat ≤ 57 then some (value.toNat-48+52)
 else if value = 43 then some 62
 else if value = 47 then some 63
 else none

/-- The loop of `append_field` over the characters of a chunk. -/
def appendImage (encodedLimit : ℕ) : Bytes → Bytes → Except (Status × String) Bytes
 | [],base64=>.ok base64
 | value::text,base64=>
  if xmlSpace value then appendImage encodedLimit text base64
  else if base64Digit value = none ∧ value≠61 then
   .error (.malformed,"Invalid character in InDesign preview base64")
  else if base64.length ≥ encodedLimit then
   .error (.resourceLimit,"InDesign preview base64 exceeds byte limit")
  else appendImage encodedLimit text (base64++[value])

variable (limits : CdrPreviewLimits)

def appendField (preview : Preview) (piece : Kind × Bytes) : Except (Status × String) Preview:=
 match piece.1 with
 | .format=>
  if piece.2.length > 32-preview.format.length then
   .error (.malformed,"InDesign preview format field is too long")
  else .ok { preview with format:=preview.format++piece.2 }
 | .image=>do
  let imageLimit:=min limits.maximumCompressedPreviewBytes limits.maximumTotalPreviewBytes
  let base64 ← appendImage ((imageLimit+2)/3*4) piece.2 preview.base64
  return { preview with base64:=base64 }

def trimmed (format : Bytes) : Bytes:=
 ((format.dropWhile xmlSpace).reverse.dropWhile xmlSpace).reverse

def paddingOf (encoded : Bytes) : ℕ:=
 if [61,61].isSuffixOf encoded then 2 else if [61].isSuffixOf encoded then 1 else 0

/-- The checks of the field: a message where one fails, and `none` for an index outside. -/
def checkBase64 (encoded : Bytes) : Option (Option String):=
 if encoded.length%4≠0 then some (some "Incomplete InDesign preview base64 quartet")
 else
  let dataSize:=encoded.length-paddingOf encoded
  if (encoded.take dataSize).contains 61 then
   some (some "Misplaced InDesign preview base64 padding")
  else if dataSize = 0 then none
  else do
   let last ← encoded[dataSize-1]?
   let lastDigit:=(base64Digit last).getD 0xffffffff
   if (paddingOf encoded = 2 ∧ lastDigit &&& 15≠0) ∨
     (paddingOf encoded = 1 ∧ lastDigit &&& 3≠0) then
    return some "Nonzero InDesign preview base64 padding bits"
   else return none

def appendDigit (bits : UInt32) (value : UInt8) : UInt32:=
 (bits <<< 6) ||| if value = 61 then 0 else UInt32.ofNat ((base64Digit value).getD 0xffffffff)

/-- The loop over the quartets, with room for some bytes; `none` is an index outside. -/
def decodeQuartets : Bytes → ℕ → Option Bytes
 | [],_=>some []
 | a::b::c::d::rest,room=>do
  let bits:=[a,b,c,d].foldl appendDigit 0
  let tail ← decodeQuartets rest (room-3)
  return [(bits >>> 16).toUInt8,(bits >>> 8).toUInt8,bits.toUInt8].take room++tail
 | _,_=>none

def checkedJpeg (pageInfo : Bool) (jpeg : Bytes) : Result:=
 if jpeg.length < 4 ∨ jpeg.take 3≠[0xff,0xd8,0xff] ∨ jpeg.drop (jpeg.length-2)≠[0xff,0xd9] then
  { status:=.malformed
    diagnostic:="Declared InDesign JPEG has invalid boundary markers" }
 else
  { status:=.success
    candidates:=[⟨if pageInfo then "xmp/pageinfo/first.jpg" else "xmp/thumbnails/first.jpg",jpeg⟩]
    diagnostic:=
     if pageInfo then
      "First stored PageInfo JPEG; original resolution, possibly a spread; page count unknown"
     else "First stored document thumbnail JPEG; original resolution; page count unknown" }

def tooLarge (size : ℕ) : Bool:=
 size > limits.maximumCompressedPreviewBytes ∨ size > limits.maximumTotalPreviewBytes

def decodePreview (preview : Preview) (pageInfo : Bool) : Option Result:=
 if !preview.imageSeen ∨ preview.base64 = [] then
  some { status:=.noPreview
         diagnostic:="First stored InDesign preview has no embedded image" }
 else if trimmed preview.format≠utf8 "JPEG" then
  some { status:=.noPreview
         diagnostic:="First stored InDesign preview is not declared JPEG" }
 else do
  match ← checkBase64 preview.base64 with
  | some message=>return { status:=.malformed,diagnostic:=message }
  | none=>
   let decodedSize:=preview.base64.length/4*3-paddingOf preview.base64
   if tooLarge limits decodedSize then
    return { status:=.resourceLimit,diagnostic:="InDesign JPEG byte limit exceeded" }
   else
    let jpeg ← decodeQuartets preview.base64 decodedSize
    return checkedJpeg pageInfo jpeg

def base64Char (n : ℕ) : UInt8:=
 if n < 26 then UInt8.ofNat (n+65) else if n < 52 then UInt8.ofNat (n+71)
 else if n < 62 then UInt8.ofNat (n-4) else if n = 62 then 43 else 47

/-- The standard encoding with padding. -/
def encode : Bytes → Bytes
 | []=>[]
 | [a]=>[base64Char (a.toNat/4),base64Char (a.toNat%4*16),61,61]
 | [a,b]=>[base64Char (a.toNat/4),base64Char (a.toNat%4*16+b.toNat/16),
   base64Char (b.toNat%16*4),61]
 | a::b::c::rest=>base64Char (a.toNat/4)::base64Char (a.toNat%4*16+b.toNat/16) ::
   base64Char (b.toNat%16*4+c.toNat/64)::base64Char (c.toNat%64)::encode rest

/-- Characters of the alphabet, then padding to whole quartets over bits that are zero. -/
structure PaddedBody (body : Bytes) (pad : ℕ) : Prop where
 quartets : (body.length+pad)%4=0
 pad_le : pad≤2
 alphabet : ∀value∈body,∃ d,base64Digit value=some d
 one : pad=1 → ∀value d,body.getLast?=some value → base64Digit value=some d → d%4=0
 two : pad=2 → ∀value d,body.getLast?=some value → base64Digit value=some d → d%16=0

def Canonical (text : Bytes) : Prop:=
 ∃ body pad,text = body++List.replicate pad 61 ∧ PaddedBody body pad

variable {value : UInt8} {bits : UInt32} {d : ℕ}

lemma digit_sound (h:base64Digit value=some d) : d<64 ∧ base64Char d=value:=by
 have hall (v : UInt8) : (base64Digit v).all fun d=>d<64 ∧ base64Char d=v:=by
  cases v with
  | ofBitVec v=>
   revert v
   decide +kernel
 simpa [h] using hall value

lemma digit_char (h:d<64) : base64Digit (base64Char d)=some d:=by
 revert d
 decide +kernel

lemma digit_padding (h:base64Digit value=some d) : value≠61:=by
 intro heq
 subst heq
 contradiction

lemma toNat_appendDigit (hbits:bits.toNat<2 ^ 26) (h:base64Digit value=some d):
 (appendDigit bits value).toNat=bits.toNat*64+d:=by
 have hsmall:=(digit_sound h).1
 have hlow:(UInt32.ofNat d).toNat=d:=by
  rw [UInt32.toNat_ofNat']
  omega
 rw [appendDigit,if_neg (digit_padding h),h,Option.getD_some,toNat_appendSix hbits (by omega),hlow]

lemma toNat_appendPadding (hbits:bits.toNat<2 ^ 26):
 (appendDigit bits 61).toNat=bits.toNat*64:=by
 rw [appendDigit,if_pos rfl,toNat_appendSix hbits (by decide)]
 rfl

/-- The three bytes of a quartet. -/
def quartetBytes (bits : UInt32) : Bytes:=
 [(bits >>> 16).toUInt8,(bits >>> 8).toUInt8,bits.toUInt8]

lemma quartetBytes_eq {a b c : UInt8} (h:bits.toNat=(a.toNat*256+b.toNat)*256+c.toNat):
 quartetBytes bits=[a,b,c]:=by
 have ha:=a.toNat_lt
 have hb:=b.toNat_lt
 have hc:=c.toNat_lt
 simp only [quartetBytes,List.cons.injEq,←UInt8.toNat_inj,UInt32.toNat_toUInt8,
  UInt32.toNat_shiftRight,UInt32.reduceToNat,Nat.reduceMod,Nat.shiftRight_eq_div_pow,and_true]
 omega

lemma toNat_byte (h:d<256) : (UInt8.ofNat d).toNat=d:=by
 rw [UInt8.toNat_ofNat']
 omega

lemma char_of_digit {n : ℕ} (h:base64Digit value=some d) (hn:n=d) : base64Char n=value:=by
 rw [hn]
 exact (digit_sound h).2

section Quartet
variable {v w x y : UInt8} {d₀ d₁ d₂ d₃ : ℕ}

lemma toNat_two (hv:base64Digit v=some d₀) (hw:base64Digit w=some d₁):
 (appendDigit (appendDigit 0 v) w).toNat=d₀*64+d₁:=by
 have h₀:=(digit_sound hv).1
 have hfirst:(appendDigit 0 v).toNat=d₀:=by
  rw [toNat_appendDigit (by decide) hv]
  exact Nat.zero_add d₀
 rw [toNat_appendDigit (by omega) hw,hfirst]

lemma toNat_three (hv:base64Digit v=some d₀) (hw:base64Digit w=some d₁)
 (hx:base64Digit x=some d₂):
 (appendDigit (appendDigit (appendDigit 0 v) w) x).toNat=(d₀*64+d₁)*64+d₂:=by
 have h₀:=(digit_sound hv).1
 have h₁:=(digit_sound hw).1
 have htwo:=toNat_two hv hw
 rw [toNat_appendDigit (by omega) hx,htwo]

/-- One quartet is decoded to the first bytes of its three. -/
lemma decodeQuartets_cons {rest tail : Bytes} {room : ℕ} {a b c : UInt8}
 (hbits:([v,w,x,y].foldl appendDigit 0).toNat=(a.toNat*256+b.toNat)*256+c.toNat)
 (htail:decodeQuartets rest (room-3)=some tail):
 decodeQuartets (v::w::x::y::rest) room=some ([a,b,c].take room++tail):=by
 rw [decodeQuartets,htail,←quartetBytes_eq hbits]
 rfl

lemma decode_one (hv:base64Digit v=some d₀) (hw:base64Digit w=some d₁)
 (hzero:d₁%16=0) : ∃ decoded,decodeQuartets [v,w,61,61] 1=some decoded ∧
  encode decoded=[v,w,61,61]:=by
 have h₀:=(digit_sound hv).1
 have h₁:=(digit_sound hw).1
 have htwo:=toNat_two hv hw
 have hthree:=@toNat_appendPadding (appendDigit (appendDigit 0 v) w) (by omega)
 have ha:=toNat_byte (d := d₀*4+d₁/16) (by omega)
 refine ⟨_,decodeQuartets_cons (a := UInt8.ofNat (d₀*4+d₁/16)) (b := 0) (c := 0) ?_ rfl,?_⟩
 · simp only [List.foldl_cons,List.foldl_nil]
   rw [toNat_appendPadding (by omega),hthree,htwo,ha]
   simp
   omega
 · simp only [List.take_succ_cons,List.take_zero,List.append_nil,encode,ha]
   rw [char_of_digit hv (by omega),char_of_digit hw (by omega)]

lemma decode_two (hv:base64Digit v=some d₀) (hw:base64Digit w=some d₁)
 (hx:base64Digit x=some d₂) (hzero:d₂%4=0):
 ∃ decoded,decodeQuartets [v,w,x,61] 2=some decoded ∧ encode decoded=[v,w,x,61]:=by
 have h₀:=(digit_sound hv).1
 have h₁:=(digit_sound hw).1
 have h₂:=(digit_sound hx).1
 have hthree:=toNat_three hv hw hx
 have ha:=toNat_byte (d := d₀*4+d₁/16) (by omega)
 have hb:=toNat_byte (d := d₁%16*16+d₂/4) (by omega)
 refine ⟨_,decodeQuartets_cons (a := UInt8.ofNat (d₀*4+d₁/16))
  (b := UInt8.ofNat (d₁%16*16+d₂/4)) (c := 0) ?_ rfl,?_⟩
 · simp only [List.foldl_cons,List.foldl_nil]
   rw [toNat_appendPadding (by omega),hthree,ha,hb]
   simp
   omega
 · simp only [List.take_succ_cons,List.take_zero,List.append_nil,encode,ha,hb]
   rw [char_of_digit hv (by omega),char_of_digit hw (by omega),char_of_digit hx (by omega)]

lemma decode_three (hv:base64Digit v=some d₀) (hw:base64Digit w=some d₁)
 (hx:base64Digit x=some d₂) (hy:base64Digit y=some d₃) {rest tail : Bytes} {room : ℕ}
 (hroom:3 ≤ room) (htail:decodeQuartets rest (room-3)=some tail):
 ∃ decoded,decodeQuartets (v::w::x::y::rest) room=some decoded ∧
  encode decoded=v::w::x::y::encode tail:=by
 have h₀:=(digit_sound hv).1
 have h₁:=(digit_sound hw).1
 have h₂:=(digit_sound hx).1
 have h₃:=(digit_sound hy).1
 have hthree:=toNat_three hv hw hx
 have ha:=toNat_byte (d := d₀*4+d₁/16) (by omega)
 have hb:=toNat_byte (d := d₁%16*16+d₂/4) (by omega)
 have hc:=toNat_byte (d := d₂%4*64+d₃) (by omega)
 refine ⟨_,decodeQuartets_cons (a := UInt8.ofNat (d₀*4+d₁/16))
  (b := UInt8.ofNat (d₁%16*16+d₂/4)) (c := UInt8.ofNat (d₂%4*64+d₃)) ?_ htail,?_⟩
 · simp only [List.foldl_cons,List.foldl_nil]
   rw [toNat_appendDigit (by omega) hy,hthree,ha,hb,hc]
   omega
 · rw [List.take_of_length_le (by simpa using hroom)]
   simp only [List.cons_append,List.nil_append,encode,ha,hb,hc]
   rw [char_of_digit hv (by omega),char_of_digit hw (by omega),char_of_digit hx (by omega),
    char_of_digit hy (by omega)]

end Quartet

lemma decode_padded {body : Bytes} {pad : ℕ} (h:PaddedBody body pad):
 ∃ decoded,decodeQuartets (body++List.replicate pad 61) ((body.length+pad)/4*3-pad)=
  some decoded ∧ encode decoded=body++List.replicate pad 61:=by
 induction hn : body.length using Nat.strong_induction_on generalizing body with
 | _ n ih=>
  have hquartets:=h.quartets
  have hpad:=h.pad_le
  match body,hn with
  | [],_=>
   obtain rfl : pad=0:=by
    simp at hquartets
    omega
   exact ⟨[],rfl,rfl⟩
  | [_],_=>
   simp at hquartets
   omega
  | [v,w],hn=>
   obtain rfl : pad=2:=by
    simp at hquartets
    omega
   obtain ⟨d₀,hv⟩:=h.alphabet v (by simp)
   obtain ⟨d₁,hw⟩:=h.alphabet w (by simp)
   rw [←hn,show ([v,w].length+2)/4*3-2=1 by simp]
   exact decode_one hv hw (h.two rfl w d₁ rfl hw)
  | [v,w,x],hn=>
   obtain rfl : pad=1:=by
    simp at hquartets
    omega
   obtain ⟨d₀,hv⟩:=h.alphabet v (by simp)
   obtain ⟨d₁,hw⟩:=h.alphabet w (by simp)
   obtain ⟨d₂,hx⟩:=h.alphabet x (by simp)
   rw [←hn,show ([v,w,x].length+1)/4*3-1=2 by simp]
   exact decode_two hv hw hx (h.one rfl x d₂ rfl hx)
  | v::w::x::y::rest,hn=>
   obtain ⟨d₀,hv⟩:=h.alphabet v (by simp)
   obtain ⟨d₁,hw⟩:=h.alphabet w (by simp)
   obtain ⟨d₂,hx⟩:=h.alphabet x (by simp)
   obtain ⟨d₃,hy⟩:=h.alphabet y (by simp)
   simp only [List.length_cons] at hquartets hn
   have hlast (value : UInt8) (hrest:rest.getLast?=some value):
     (v::w::x::y::rest).getLast?=some value:=by
    cases rest with
    | nil=>simp at hrest
    | cons z zs=>simpa only [List.getLast?_cons_cons] using hrest
   have hbody:PaddedBody rest pad:=
    ⟨by omega,hpad,fun value hvalue=>h.alphabet value (by simp [hvalue]),
     fun hone value d hrest=>h.one hone value d (hlast value hrest),
     fun htwo value d hrest=>h.two htwo value d (hlast value hrest)⟩
   obtain ⟨tail,htail,hencoded⟩:=ih _ (by omega) hbody rfl
   have hroom:(n+pad)/4*3-pad-3=(rest.length+pad)/4*3-pad:=by omega
   rw [←hroom] at htail
   obtain ⟨decoded,hdecoded,hwhole⟩:=decode_three hv hw hx hy (by omega) htail
   rw [hencoded] at hwhole
   exact ⟨decoded,hdecoded,hwhole⟩

/-- Decoding gives back what was encoded. -/
lemma decode_encode (bytes : Bytes) : decodeQuartets (encode bytes) bytes.length=some bytes:=by
 match bytes with
 | []=>rfl
 | [a]=>
  have ha:=a.toNat_lt
  have htwo:=toNat_two (digit_char (d := a.toNat/4) (by omega))
   (digit_char (d := a.toNat%4*16) (by omega))
  refine decodeQuartets_cons (a := a) (b := 0) (c := 0) ?_ rfl
  simp only [List.foldl_cons,List.foldl_nil]
  rw [toNat_appendPadding (by rw [toNat_appendPadding (by omega)]; omega),
   toNat_appendPadding (by omega),htwo]
  simp
  omega
 | [a,b]=>
  have ha:=a.toNat_lt
  have hb:=b.toNat_lt
  have hthree:=toNat_three (digit_char (d := a.toNat/4) (by omega))
   (digit_char (d := a.toNat%4*16+b.toNat/16) (by omega))
   (digit_char (d := b.toNat%16*4) (by omega))
  refine decodeQuartets_cons (a := a) (b := b) (c := 0) ?_ rfl
  simp only [List.foldl_cons,List.foldl_nil]
  rw [toNat_appendPadding (by omega),hthree]
  simp
  omega
 | a::b::c::rest=>
  have ha:=a.toNat_lt
  have hb:=b.toNat_lt
  have hc:=c.toNat_lt
  have hthree:=toNat_three (digit_char (d := a.toNat/4) (by omega))
   (digit_char (d := a.toNat%4*16+b.toNat/16) (by omega))
   (digit_char (d := b.toNat%16*4+c.toNat/64) (by omega))
  rw [encode,decodeQuartets_cons (a := a) (b := b) (c := c) ?_ (decode_encode rest)]
  · rw [List.take_of_length_le (by simp)]
    rfl
  · simp only [List.foldl_cons,List.foldl_nil]
    rw [toNat_appendDigit (by omega) (digit_char (d := c.toNat%64) (by omega)),hthree]
    omega

lemma char_ne (h:d<64) : base64Char d≠61 := digit_padding (digit_char h)

lemma count_encode (bytes : Bytes) : (encode bytes).countP (·≠61)=(4*bytes.length+2)/3:=by
 match bytes with
 | []=>rfl
 | [a]=>
  have ha:=a.toNat_lt
  simp [encode,char_ne (d := a.toNat/4) (by omega), char_ne (d := a.toNat%4*16) (by omega)]
 | [a,b]=>
  have ha:=a.toNat_lt
  have hb:=b.toNat_lt
  simp [encode,char_ne (d := a.toNat/4) (by omega),
   char_ne (d := a.toNat%4*16+b.toNat/16) (by omega),char_ne (d := b.toNat%16*4) (by omega)]
 | a::b::c::rest=>
  have ha:=a.toNat_lt
  have hb:=b.toNat_lt
  have hc:=c.toNat_lt
  have hrest:=count_encode rest
  simp only [decide_not] at hrest
  simp [encode,char_ne (d := a.toNat/4) (by omega),
   char_ne (d := a.toNat%4*16+b.toNat/16) (by omega),
   char_ne (d := b.toNat%16*4+c.toNat/64) (by omega),char_ne (d := c.toNat%64) (by omega),hrest]
  omega

lemma encode_injective {left right : Bytes} (h:encode left=encode right) : left=right:=by
 have hcount:=count_encode left
 rw [h,count_encode] at hcount
 have hlength:left.length=right.length:=by omega
 have hleft:=decode_encode left
 rw [h,hlength,decode_encode] at hleft
 exact (Option.some.inj hleft).symm

lemma body_clean {body : Bytes} {pad : ℕ} (h:PaddedBody body pad) : 61∉body:=by
 intro hmem
 obtain ⟨d,hd⟩:=h.alphabet 61 hmem
 exact digit_padding hd rfl

lemma split_padding (encoded : Bytes) : encoded=
 encoded.take (encoded.length-paddingOf encoded)++List.replicate (paddingOf encoded) 61:=by
 by_cases htwo:[61,61] <:+ encoded
 · obtain ⟨body,rfl⟩:=htwo
   simp [paddingOf]
 · by_cases hone:[61] <:+ encoded
   · rw [paddingOf,if_neg (by rwa [List.isSuffixOf_iff_suffix]),
      if_pos (by rwa [List.isSuffixOf_iff_suffix])]
     obtain ⟨body,rfl⟩:=hone
     simp
   · rw [paddingOf,if_neg (by rwa [List.isSuffixOf_iff_suffix]),
      if_neg (by rwa [List.isSuffixOf_iff_suffix])]
     simp

lemma padding_padded {body : Bytes} {pad : ℕ} (h:PaddedBody body pad):
 paddingOf (body++List.replicate pad 61)=pad:=by
 have hclean:=body_clean h
 have hnone (encoded : Bytes) (hsuffix:encoded++[61]=body) : False:=by
  rw [←hsuffix] at hclean
  simp at hclean
 match pad,h.pad_le with
 | 0,_=>
  rw [List.replicate_zero,List.append_nil,paddingOf,if_neg,if_neg]
  · rw [List.isSuffixOf_iff_suffix]
    exact fun ⟨t,ht⟩=>hnone t ht
  · rw [List.isSuffixOf_iff_suffix]
    exact fun ⟨t,ht⟩=>hnone (t++[61]) (by simpa using ht)
 | 1,_=>
  rw [paddingOf,if_neg,if_pos]
  · rw [List.isSuffixOf_iff_suffix]
    exact List.suffix_append body [61]
  · rw [List.isSuffixOf_iff_suffix]
    intro ⟨t,ht⟩
    exact hnone t (@List.append_cancel_right _ _ [61] _ (by simpa using ht))
 | 2,_=>
  rw [paddingOf,if_pos]
  rw [List.isSuffixOf_iff_suffix]
  exact List.suffix_append body [61,61]

/-- Where the field is canonical, its padding is the padding that is found. -/
lemma canonical_iff (encoded : Bytes) : Canonical encoded ↔
 PaddedBody (encoded.take (encoded.length-paddingOf encoded)) (paddingOf encoded):=by
 constructor
 · intro ⟨body,pad,heq,h⟩
   subst heq
   rw [padding_padded h]
   simpa using h
 · intro h
   exact ⟨_,_,split_padding encoded,h⟩

def base64Rejections : List String:=
 ["Incomplete InDesign preview base64 quartet","Misplaced InDesign preview base64 padding",
  "Nonzero InDesign preview base64 padding bits"]

lemma padding_le (encoded : Bytes) : paddingOf encoded≤2:=by
 unfold paddingOf
 split
 · exact le_rfl
 · split<;>decide

/-- The check of a field with characters touches nothing outside, and with characters that were
  collected it accepts the canonical ones. -/
lemma checkBase64_spec {encoded : Bytes} (hnonempty:encoded≠[]):
 ∃ answer,checkBase64 encoded=some answer ∧
  (∀message,answer=some message → message∈base64Rejections) ∧
  (answer=none → encoded.length%4=0) ∧
  ((∀value∈encoded,(∃ d,base64Digit value=some d) ∨ value=61) →
   (answer=none ↔ Canonical encoded)):=by
 have hpadding:=padding_le encoded
 have hlength:=List.length_pos_iff.mpr hnonempty
 rw [canonical_iff,checkBase64]
 by_cases hquartets:encoded.length%4=0
 · rw [if_neg (by simpa using hquartets)]
   dsimp only
   by_cases hmisplaced:(encoded.take (encoded.length-paddingOf encoded)).contains 61=true
   · refine ⟨_,if_pos hmisplaced,by simp [base64Rejections],by simp,fun _=>?_⟩
     simp only [reduceCtorEq,false_iff]
     intro h
     exact body_clean h (by simpa using hmisplaced)
   · rw [if_neg hmisplaced,if_neg (by omega)]
     have hinside:encoded.length-paddingOf encoded-1<encoded.length:=by omega
     rw [List.getElem?_eq_getElem hinside]
     generalize hlast : encoded[encoded.length-paddingOf encoded-1]=last
     have hbodyLast:(encoded.take (encoded.length-paddingOf encoded)).getLast?=some last:=by
      rw [List.getLast?_eq_getElem?,List.length_take,Nat.min_eq_left (by omega),
       List.getElem?_take_of_lt (by omega),List.getElem?_eq_getElem hinside,hlast]
     generalize hdigit : (base64Digit last).getD 0xffffffff=digit
     have hfour:digit &&& 3=digit%4:=Nat.and_two_pow_sub_one_eq_mod digit 2
     have hsixteen:digit &&& 15=digit%16:=Nat.and_two_pow_sub_one_eq_mod digit 4
     dsimp only [Option.bind_eq_bind,Option.bind_some]
     rw [hdigit,hfour,hsixteen]
     by_cases hbits:(paddingOf encoded=2 ∧ digit%16≠0) ∨ (paddingOf encoded=1 ∧ digit%4≠0)
     · refine ⟨_,if_pos hbits,by simp [base64Rejections],by simp,fun _=>?_⟩
       simp only [reduceCtorEq,false_iff]
       intro h
       obtain ⟨d,hd⟩:=h.alphabet last (List.mem_of_getLast? hbodyLast)
       obtain rfl : d=digit:=by simpa [hd] using hdigit
       have hone:=fun hone=>h.one hone last d hbodyLast hd
       have htwo:=fun htwo=>h.two htwo last d hbodyLast hd
       omega
     · refine ⟨none,if_neg hbits,nofun,fun _=>hquartets,fun halphabet=>?_⟩
       simp only [true_iff]
       refine ⟨by rw [List.length_take]; omega,hpadding,fun value hvalue=>?_,?_,?_⟩
       · obtain hd | rfl:=halphabet value (List.mem_of_mem_take hvalue)
         · exact hd
         · exact absurd (by simpa using hvalue) hmisplaced
       · intro hone value d hvalue hd
         obtain rfl:=Option.some.inj (hbodyLast.symm.trans hvalue)
         obtain rfl : d=digit:=by simpa [hd] using hdigit
         omega
       · intro htwo value d hvalue hd
         obtain rfl:=Option.some.inj (hbodyLast.symm.trans hvalue)
         obtain rfl : d=digit:=by simpa [hd] using hdigit
         omega
 · refine ⟨_,if_pos hquartets,by simp [base64Rejections],by simp,fun _=>?_⟩
   simp only [reduceCtorEq,false_iff]
   intro h
   have hsize:=h.quartets
   rw [List.length_take] at hsize
   omega

lemma decodeQuartets_some (encoded : Bytes) (h:encoded.length%4=0) (room : ℕ):
 ∃ jpeg,decodeQuartets encoded room=some jpeg:=by
 match encoded with
 | []=>exact ⟨[],rfl⟩
 | [_]=>simp at h
 | [_,_]=>simp at h
 | [_,_,_]=>simp at h
 | a::b::c::d::rest=>
  simp only [List.length_cons] at h
  obtain ⟨tail,htail⟩:=decodeQuartets_some rest (by omega) (room-3)
  rw [decodeQuartets,htail]
  exact ⟨_,rfl⟩

/-- The characters of the image chunks that are not white space. -/
def fieldText (pieces : List (Kind × Bytes)) : Bytes:=
 (pieces.flatMap fun piece=>match piece.1 with
  | .image=>piece.2
  | .format=>[]).filter fun value=>!xmlSpace value

lemma appendImage_ok {limit : ℕ} {text base64 out : Bytes}
 (h:appendImage limit text base64=.ok out):
 out=base64++text.filter (fun value=>!xmlSpace value) ∧
 ∀value∈text.filter (fun value=>!xmlSpace value),
  (∃ d,base64Digit value=some d) ∨ value=61:=by
 induction text generalizing base64 with
 | nil=>exact ⟨by simpa [appendImage] using h.symm,fun _ hvalue=>by simp at hvalue⟩
 | cons value text ih=>
  rw [appendImage] at h
  split at h
  · next hspace => simpa [hspace] using ih h
  · next hspace =>
   split at h
   · contradiction
   next hchar =>
   split at h
   · contradiction
   obtain ⟨hout,halphabet⟩:=ih h
   simp only [List.filter_cons,hspace,Bool.not_false,if_true]
   refine ⟨by simpa using hout,fun other hother=>?_⟩
   obtain rfl | hother:=List.mem_cons.mp hother
   · rw [not_and_or,not_not] at hchar
     exact hchar.imp Option.ne_none_iff_exists'.mp id
   · exact halphabet other hother

variable {limits}

lemma appendField_ok {start preview : Preview} {piece : Kind × Bytes}
 (h:appendField limits start piece=.ok preview):
 preview.imageSeen=start.imageSeen ∧ preview.base64=start.base64++fieldText [piece] ∧
 ∀value∈fieldText [piece],(∃ d,base64Digit value=some d) ∨ value=61:=by
 obtain ⟨kind,text⟩:=piece
 cases kind with
 | format=>
  rw [appendField] at h
  dsimp only at h
  split at h
  · contradiction
  obtain rfl:=Except.ok.inj h
  exact ⟨rfl,(List.append_nil _).symm,fun _ hvalue=>by simp [fieldText] at hvalue⟩
 | image=>
  rw [appendField] at h
  dsimp only at h
  cases hbase64:appendImage
    ((min limits.maximumCompressedPreviewBytes limits.maximumTotalPreviewBytes+2)/3*4)
    text start.base64 with
  | error stop=>
   rw [hbase64] at h
   contradiction
  | ok base64=>
   rw [hbase64] at h
   obtain rfl:=Except.ok.inj h
   obtain ⟨hout,halphabet⟩:=appendImage_ok hbase64
   have hfield:fieldText [(.image,text)]=text.filter fun value=>!xmlSpace value:=by
    simp [fieldText]
   rw [hfield]
   exact ⟨rfl,hout,halphabet⟩

lemma collect_ok {start preview : Preview} {pieces : List (Kind × Bytes)}
 (h:pieces.foldlM (appendField limits) start=.ok preview):
 preview.imageSeen=start.imageSeen ∧ preview.base64=start.base64++fieldText pieces ∧
 ∀value∈fieldText pieces,(∃ d,base64Digit value=some d) ∨ value=61:=by
 induction pieces generalizing start with
 | nil=>
  obtain rfl:=Except.ok.inj h
  exact ⟨rfl,by simp [fieldText],fun _ hvalue=>by simp [fieldText] at hvalue⟩
 | cons piece pieces ih=>
  rw [List.foldlM_cons] at h
  cases hstep:appendField limits start piece with
  | error stop=>
   rw [hstep] at h
   contradiction
  | ok middle=>
   rw [hstep] at h
   have hsplit:fieldText (piece::pieces)=fieldText [piece]++fieldText pieces:=by
    simp [fieldText]
   obtain ⟨hseen,hfirst,hvalues⟩:=appendField_ok hstep
   obtain ⟨hkept,hrest,hothers⟩:=ih h
   rw [hsplit]
   refine ⟨hkept.trans hseen,by rw [hrest,hfirst,List.append_assoc],fun value hvalue=>?_⟩
   obtain hvalue | hvalue:=List.mem_append.mp hvalue
   · exact hvalues value hvalue
   · exact hothers value hvalue

lemma decode_canonical {encoded : Bytes} (h:Canonical encoded):
 ∃ jpeg,decodeQuartets encoded (encoded.length/4*3-paddingOf encoded)=some jpeg ∧
  encode jpeg=encoded ∧ jpeg.length=encoded.length/4*3-paddingOf encoded:=by
 obtain ⟨body,pad,rfl,h⟩:=h
 obtain ⟨jpeg,hjpeg,hencode⟩:=decode_padded h
 have hquartets:=h.quartets
 have hpad:=h.pad_le
 have hcount:=count_encode jpeg
 have hbody:body.countP (·≠61)=body.length:=by
  rw [List.countP_eq_length]
  intro value hvalue
  simp only [ne_eq,decide_not,Bool.not_eq_true',decide_eq_false_iff_not]
  exact fun heq=>body_clean h (heq ▸ hvalue)
 have hzero:(List.replicate pad (61 : UInt8)).countP (·≠61)=0:=by simp
 rw [hencode,List.countP_append,hbody,hzero] at hcount
 rw [padding_padded h,List.length_append,List.length_replicate]
 exact ⟨jpeg,hjpeg,hencode,by omega⟩

lemma checkedJpeg_kept (pageInfo : Bool) (jpeg : Bytes):
 (checkedJpeg pageInfo jpeg).diagnostic∉base64Rejections:=by
 unfold checkedJpeg
 split
 · decide
 · cases pageInfo<;>simp [base64Rejections]

lemma decodePreview_some (limits : CdrPreviewLimits) (preview : Preview) (pageInfo : Bool):
 ∃ result,decodePreview limits preview pageInfo=some result:=by
 rw [decodePreview]
 split
 · exact ⟨_,rfl⟩
 next hseen =>
 split
 · exact ⟨_,rfl⟩
 rw [not_or] at hseen
 obtain ⟨answer,hanswer,-,hwhole,-⟩:=checkBase64_spec hseen.2
 rw [hanswer]
 cases answer with
 | some message=>exact ⟨_,rfl⟩
 | none=>
  dsimp only [Option.bind_eq_bind,Option.bind_some]
  split
  · exact ⟨_,rfl⟩
  · obtain ⟨jpeg,hjpeg⟩:=decodeQuartets_some preview.base64 (hwhole rfl)
     (preview.base64.length/4*3-paddingOf preview.base64)
    rw [hjpeg]
    exact ⟨_,rfl⟩

/-- What is made of the decoded bytes. -/
def judged (limits : CdrPreviewLimits) (pageInfo : Bool) (jpeg : Bytes) : Result:=
 if tooLarge limits jpeg.length then
  { status:=.resourceLimit,diagnostic:="InDesign JPEG byte limit exceeded" }
 else checkedJpeg pageInfo jpeg

theorem base64_exact {pieces : List (Kind × Bytes)} {preview : Preview} (pageInfo : Bool)
 (hcollected:pieces.foldlM (appendField limits) { imageSeen:=true }=.ok preview)
 (hformat:trimmed preview.format=utf8 "JPEG"):
 (∀other,∃ result,decodePreview limits other pageInfo=some result) ∧
 ∃ result,decodePreview limits preview pageInfo=some result ∧
  (¬(result.status=.malformed ∧ result.diagnostic∈base64Rejections) ↔
   Canonical (fieldText pieces)) ∧
  (Canonical (fieldText pieces) → ∃ jpeg,encode jpeg=fieldText pieces ∧
   (∀other,encode other=fieldText pieces → other=jpeg) ∧
   (fieldText pieces≠[] → result=judged limits pageInfo jpeg)):=by
 refine ⟨fun other=>decodePreview_some limits other pageInfo,?_⟩
 obtain ⟨hseen,hfield,halphabet⟩:=collect_ok hcollected
 rw [List.nil_append] at hfield
 have hunique {jpeg : Bytes} (hencode:encode jpeg=fieldText pieces) (other : Bytes)
   (hother:encode other=fieldText pieces) : other=jpeg:=
  encode_injective (hother.trans hencode.symm)
 rw [decodePreview,hseen,hfield]
 by_cases hnil:fieldText pieces=[]
 · have hcanonical:Canonical []:=⟨[],0,rfl,rfl,by simp,nofun,nofun,nofun⟩
   rw [if_pos (.inr hnil)]
   refine ⟨_,rfl,?_,fun _=>⟨[],hnil.symm,hunique hnil.symm,fun h=>absurd hnil h⟩⟩
   rw [hnil]
   simp [hcanonical]
 rw [if_neg (by simpa using hnil),if_neg (by simpa using hformat)]
 obtain ⟨answer,hanswer,hmessages,-,hiff⟩:=checkBase64_spec hnil
 replace hiff:=hiff halphabet
 rw [hanswer,←hiff]
 cases answer with
 | some message=>exact ⟨_,rfl,by simp [hmessages message rfl],nofun⟩
 | none=>
  obtain ⟨jpeg,hjpeg,hencode,hlength⟩:=decode_canonical (hiff.mp rfl)
  refine ⟨judged limits pageInfo jpeg,?_,?_,fun _=>⟨jpeg,hencode,hunique hencode,fun _=>rfl⟩⟩
  · rw [judged,hlength]
    dsimp only [Option.bind_eq_bind,Option.bind_some]
    split
    · rfl
    · rw [hjpeg]
      rfl
  · simp only [iff_true]
    intro ⟨hstatus,hmember⟩
    rw [judged] at hstatus hmember
    split at hmember
    · simp [base64Rejections] at hmember
    · exact checkedJpeg_kept pageInfo jpeg hmember

theorem base64_exact_short : ∃ result,
 decodePreview ⟨64,64⟩ ⟨true,utf8 "/9j/2Q==",utf8 "JPEG"⟩ true=some result ∧
 (¬(result.status=.malformed ∧ result.diagnostic∈base64Rejections) ↔
  Canonical (utf8 "/9j/2Q==")):=by
 obtain ⟨-,result,hresult,hiff,-⟩:=@base64_exact ⟨64,64⟩
  [(.format,utf8 "JPEG"),(.image,utf8 "/9j	/2"),(.image,utf8 "Q==")]
  ⟨true,utf8 "/9j/2Q==",utf8 "JPEG"⟩ true (by rfl) (by decide)
 exact ⟨result,hresult,hiff⟩

end VoVe.IndesignBase64
