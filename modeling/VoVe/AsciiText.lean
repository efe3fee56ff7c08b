import Mathlib.Tactic.IntervalCases
import VoVe.ByteCodec

set_option autoImplicit false

/-! Byte strings as texts: number formats, searches and UTF-8 validity. -/

namespace VoVe.AsciiText
open ByteCodec

def utf8 (text : String) : Bytes := text.toUTF8.data.toList

def startsWith (text start : Bytes) : Bool := start.isPrefixOf text

variable (text : Bytes)

/-- Index of the first occurrence of a byte at or after a position. -/
def find (byte : UInt8) (start : ℕ) : Option ℕ:=
 ((text.drop start).findIdx? (· == byte)).map (·+start)

def findLast (byte : UInt8) : Option ℕ:=
 (text.reverse.findIdx? (· == byte)).map fun i=>text.length - 1 - i

variable (b : UInt8)

def asciiUpper : UInt8 := if 97 ≤ b ∧ b ≤ 122 then b - 97+65 else b

def asciiLower : UInt8 := if 65 ≤ b ∧ b ≤ 90 then b - 65+97 else b

/-- A number in a base up to sixteen, lower-case digits, no leading zero. -/
def toChars (base n : ℕ) : Bytes := (Nat.toDigits base n).map fun c=>UInt8.ofNat c.toNat

def digitByte (d : ℕ) : UInt8 := UInt8.ofNat d.digitChar.toNat

lemma toChars_step {base : ℕ} (hbase:1<base) (n : ℕ) : toChars base n=
 if n<base then [digitByte n] else toChars base (n / base)++[digitByte (n % base)]:=by
 rw [toChars,Nat.toDigits_eq_if hbase]
 split
 · rfl
 · simp [toChars,digitByte]

lemma toChars_eq (n : ℕ) : toChars 16 n=
 if n<16 then [digitByte n] else toChars 16 (n / 16)++[digitByte (n % 16)]:=
 toChars_step (by decide) n

lemma length_toChars_pos {base : ℕ} (hbase:1<base) (n : ℕ) : 0<(toChars base n).length:=by
 rw [toChars_step hbase]
 split<;>simp

lemma length_toChars_le {base : ℕ} (hbase:1<base) {digits n : ℕ}
 (h:n<base ^ (digits+1)) : (toChars base n).length≤digits+1:=by
 induction digits generalizing n with
 | zero=>
  rw [toChars_step hbase,if_pos (by simpa using h)]
  exact le_rfl
 | succ digits ih=>
  rw [toChars_step hbase]
  split
  · exact Nat.succ_le_succ (Nat.zero_le _)
  · have hrest:n / base<base ^ (digits+1):=
     Nat.div_lt_of_lt_mul (by rwa [←Nat.pow_succ'])
    have hle:=ih hrest
    rw [List.length_append,List.length_singleton]
    omega

lemma digitByte_injective {c d : ℕ} (hc:c<16) (hd:d<16) (h:digitByte c=digitByte d) : c=d:=by
 revert h
 interval_cases c<;>interval_cases d<;>decide

lemma digitByte_range {d : ℕ} (hd:d<16):
 (48≤digitByte d ∧ digitByte d≤57) ∨ (97≤digitByte d ∧ digitByte d≤102):=by
 interval_cases d<;>decide

lemma toChars_range (n : ℕ) : ∀b∈toChars 16 n,(48≤b ∧ b≤57) ∨ (97≤b ∧ b≤102):=by
 induction n using Nat.strong_induction_on with
 | _ n ih=>
  intro b hb
  rw [toChars_eq] at hb
  split at hb
  · next hn =>
    obtain rfl:=List.mem_singleton.mp hb
    exact digitByte_range hn
  · next hn =>
    obtain hb | hb:=List.mem_append.mp hb
    · exact ih (n / 16) (by omega) b hb
    · obtain rfl:=List.mem_singleton.mp hb
      exact digitByte_range (Nat.mod_lt n (by decide))

lemma toChars_base_injective {base : ℕ} (hbase:1<base) (hsmall:base≤16) {m n : ℕ}
 (h:toChars base m=toChars base n) : m=n:=by
 induction m using Nat.strong_induction_on generalizing n with
 | _ m ih=>
  rw [toChars_step hbase m,toChars_step hbase n] at h
  split at h
  · next hm =>
    split at h
    · next hn => exact digitByte_injective (by omega) (by omega) (by simpa using h)
    · have hlength:=congrArg List.length h
      have hpos:=length_toChars_pos hbase (n / base)
      simp only [List.length_append,List.length_singleton] at hlength
      omega
  · next hm =>
    split at h
    · have hlength:=congrArg List.length h
      have hpos:=length_toChars_pos hbase (m / base)
      simp only [List.length_append,List.length_singleton] at hlength
      omega
    · next hn =>
      obtain ⟨hfront,hlast⟩:=List.append_inj' h rfl
      have hmod (k : ℕ) : k % base<16:=(Nat.mod_lt k (by omega)).trans_le hsmall
      have hdiv:m / base=n / base:=ih (m / base) (Nat.div_lt_self (by omega) hbase) hfront
      have hrest:m % base=n % base:=digitByte_injective (hmod m) (hmod n) (by simpa using hlast)
      rw [←Nat.div_add_mod m base,←Nat.div_add_mod n base,hdiv,hrest]

lemma toChars_injective {m n : ℕ} (h:toChars 16 m=toChars 16 n) : m=n:=
 toChars_base_injective (by decide) le_rfl h

lemma digitByte_decimal {d : ℕ} (hd:d<10) : 48≤digitByte d ∧ digitByte d≤57:=by
 interval_cases d<;>decide

lemma toChars_decimal (n : ℕ) : ∀b∈toChars 10 n,48≤b ∧ b≤57:=by
 induction n using Nat.strong_induction_on with
 | _ n ih=>
  intro b hb
  rw [toChars_step (by decide)] at hb
  split at hb
  · next hn =>
    obtain rfl:=List.mem_singleton.mp hb
    exact digitByte_decimal hn
  · next hn =>
    obtain hb | hb:=List.mem_append.mp hb
    · exact ih (n / 10) (by omega) b hb
    · obtain rfl:=List.mem_singleton.mp hb
      exact digitByte_decimal (Nat.mod_lt n (by decide))

lemma not_mem_decimal {b : UInt8} (h:¬(48≤b ∧ b≤57)) (n : ℕ) : b∉toChars 10 n:=
 fun hmem=>h (toChars_decimal n b hmem)

def isDigit : Bool := 48 ≤ b ∧ b ≤ 57

def isSpace : Bool := b = 32 ∨ (9 ≤ b ∧ b ≤ 13)

def digitValue : Option ℕ:=
 if 48 ≤ b ∧ b ≤ 57 then some (b.toNat - 48)
 else if 97 ≤ b ∧ b ≤ 122 then some (b.toNat - 97+10)
 else if 65 ≤ b ∧ b ≤ 90 then some (b.toNat - 65+10)
 else none

/-- The value of the longest run of digits at the front, when there is one. -/
def leadingNumber (base : ℕ) : Bytes → Option ℕ := go none
where
 go (acc : Option ℕ) : Bytes → Option ℕ
  | []=>acc
  | b::rest=>
   match digitValue b with
   | some d=>if d < base then go (some (acc.getD 0*base+d)) rest else acc
   | none=>acc

/-- `std::from_chars` of the whole text as a signed 64-bit integer. -/
def fromChars : Option ℤ:=
 let negative:=text.head? = some 45
 let digits:=if negative then text.tail else text
 if digits≠[] ∧ digits.all isDigit then
  let value:=((leadingNumber 10 digits).getD 0 : ℤ)
  let signed:=if negative then -value else value
  if -(2 ^ 63) ≤ signed ∧ signed < 2 ^ 63 then some signed else none
 else none

/-- `strtoull`: white space, a sign, for base 16 an optional `0x`, digits. No
  digits and an overflow are failures, as `std::stoull` throws on both. -/
def stoull (base : ℕ) (text : Bytes) : Option UInt64:=
 let trimmed:=text.dropWhile isSpace
 let negative:=trimmed.head? = some 45
 let unsigned:=if trimmed.head? = some 45 ∨ trimmed.head? = some 43 then trimmed.tail else trimmed
 let hexadecimal:=base = 16 ∧ (unsigned.take 2 = utf8 "0x" ∨ unsigned.take 2 = utf8 "0X") ∧
  (leadingNumber base (unsigned.drop 2)).isSome
 match leadingNumber base (if hexadecimal then unsigned.drop 2 else unsigned) with
 | none=>none
 | some value=>
  if value < 2 ^ 64 then some (if negative then -(UInt64.ofNat value) else UInt64.ofNat value)
  else none

def continuationByte : Bool := b &&& 0xc0 = 0x80

def appendBits (codePoint : UInt32) (b : UInt8) : UInt32:=
 (codePoint <<< 6) ||| (b &&& 0x3f).toUInt32

/-- Six more bits at the low end of a word. -/
lemma toNat_appendSix {high low : UInt32} (hhigh:high.toNat<2 ^ 26) (hlow:low.toNat<2 ^ 6):
 ((high <<< 6) ||| low).toNat=high.toNat*64+low.toNat:=by
 rw [UInt32.toNat_or,UInt32.toNat_shiftLeft]
 simp only [UInt32.reduceToNat,Nat.reduceMod,Nat.shiftLeft_eq]
 rw [Nat.mod_eq_of_lt (by omega),←Nat.shiftLeft_eq,←Nat.shiftLeft_add_eq_or_of_lt hlow,
  Nat.shiftLeft_eq]

/-- The bounds a decoded code point has to keep after `count` continuation bytes. -/
def validCodePoint (count : ℕ) (codePoint : UInt32) : Bool:=
 !((count = 2 ∧ codePoint < 0x800) ∨ (count = 3 ∧ codePoint < 0x10000) ∨
   (codePoint ≥ 0xd800 ∧ codePoint ≤ 0xdfff) ∨ codePoint > 0x10ffff)

def validUtf8 : Bytes → Bool
 | []=>true
 | first::rest=>
  if first ≤ 0x7f then validUtf8 rest
  else if first &&& 0xe0 = 0xc0 then
   let codePoint:=(first &&& 0x1f).toUInt32
   if codePoint < 2 then false
   else match rest with
    | c₁::tail=>
     continuationByte c₁ && validCodePoint 1 (appendBits codePoint c₁) && validUtf8 tail
    | _=>false
  else if first &&& 0xf0 = 0xe0 then
   let codePoint:=(first &&& 0x0f).toUInt32
   match rest with
   | c₁::c₂::tail=>
    continuationByte c₁ && continuationByte c₂ &&
     validCodePoint 2 (appendBits (appendBits codePoint c₁) c₂) && validUtf8 tail
   | _=>false
  else if first &&& 0xf8 = 0xf0 then
   let codePoint:=(first &&& 0x07).toUInt32
   match rest with
   | c₁::c₂::c₃::tail=>
    continuationByte c₁ && continuationByte c₂ && continuationByte c₃ &&
     validCodePoint 3 (appendBits (appendBits (appendBits codePoint c₁) c₂) c₃) &&
     validUtf8 tail
   | _=>false
  else false

/-- The stricter check of the transfer and Trash codecs: no NUL either. -/
def validUtf8WithoutNul : Bool := !text.contains 0 && validUtf8 text

end VoVe.AsciiText
