import Mathlib.Algebra.Group.Nat.Defs
import Mathlib.Data.List.Basic
import Mathlib.Data.Nat.Notation

set_option autoImplicit false

/-! SHA-256 as FIPS 180-4 defines it, and texts that are taken a block at a time. -/

namespace VoVe.Sha256Standard

abbrev Text := List UInt8

def roundConstants : List UInt32:=
 [0x428a2f98,0x71374491,0xb5c0fbcf,0xe9b5dba5,0x3956c25b,0x59f111f1,0x923f82a4,0xab1c5ed5,
  0xd807aa98,0x12835b01,0x243185be,0x550c7dc3,0x72be5d74,0x80deb1fe,0x9bdc06a7,0xc19bf174,
  0xe49b69c1,0xefbe4786,0x0fc19dc6,0x240ca1cc,0x2de92c6f,0x4a7484aa,0x5cb0a9dc,0x76f988da,
  0x983e5152,0xa831c66d,0xb00327c8,0xbf597fc7,0xc6e00bf3,0xd5a79147,0x06ca6351,0x14292967,
  0x27b70a85,0x2e1b2138,0x4d2c6dfc,0x53380d13,0x650a7354,0x766a0abb,0x81c2c92e,0x92722c85,
  0xa2bfe8a1,0xa81a664b,0xc24b8b70,0xc76c51a3,0xd192e819,0xd6990624,0xf40e3585,0x106aa070,
  0x19a4c116,0x1e376c08,0x2748774c,0x34b0bcb5,0x391c0cb3,0x4ed8aa4a,0x5b9cca4f,0x682e6ff3,
  0x748f82ee,0x78a5636f,0x84c87814,0x8cc70208,0x90befffa,0xa4506ceb,0xbef9a3f7,0xc67178f2]

/-- The eight words of a hash value, or the eight working variables. -/
structure HashState where
 a : UInt32
 b : UInt32
 c : UInt32
 d : UInt32
 e : UInt32
 f : UInt32
 g : UInt32
 h : UInt32
 deriving DecidableEq

variable (state : HashState)

def HashState.words : List UInt32:=
 [state.a,state.b,state.c,state.d,state.e,state.f,state.g,state.h]

def initialHash : HashState:=
 ⟨0x6a09e667,0xbb67ae85,0x3c6ef372,0xa54ff53a,0x510e527f,0x9b05688c,0x1f83d9ab,0x5be0cd19⟩

def HashState.plus (x y : HashState) : HashState:=
 ⟨x.a+y.a,x.b+y.b,x.c+y.c,x.d+y.d,x.e+y.e,x.f+y.f,x.g+y.g,x.h+y.h⟩

def rotr (x n : UInt32) : UInt32 := (x >>> n) ||| (x <<< (32 - n))

def lowerSigma0 (x : UInt32) : UInt32 := rotr x 7 ^^^ rotr x 18 ^^^ (x >>> 3)
def lowerSigma1 (x : UInt32) : UInt32 := rotr x 17 ^^^ rotr x 19 ^^^ (x >>> 10)

/-- The big-endian word at a place of the block. -/
def messageWord (block : Text) (t : ℕ) : UInt32:=
 let byte:=fun i=>(block.getD (4*t+i) 0).toUInt32
 byte 0 <<< 24 ||| byte 1 <<< 16 ||| byte 2 <<< 8 ||| byte 3

/-- The message schedule. -/
def scheduleWord (block : Text) (t : ℕ) : UInt32:=
 if t < 16 then messageWord block t
 else lowerSigma1 (scheduleWord block (t - 2))+scheduleWord block (t - 7) +
  lowerSigma0 (scheduleWord block (t - 15))+scheduleWord block (t - 16)

def round (constant word : UInt32) : HashState:=
 let ⟨a,b,c,d,e,f,g,h⟩ := state
 let t1:=h+(rotr e 6 ^^^ rotr e 11 ^^^ rotr e 25)+((e &&& f) ^^^ (~~~e &&& g)) + constant+word
 let t2:=(rotr a 2 ^^^ rotr a 13 ^^^ rotr a 22)+((a &&& b) ^^^ (a &&& c) ^^^ (b &&& c))
 ⟨t1+t2,a,b,c,d+t1,e,f,g⟩

def compress (block : Text) : HashState:=
 state.plus ((List.range 64).foldl (fun working t =>
  round working (roundConstants.getD t 0) (scheduleWord block t)) state)

/-- The bit length of the text, the most significant of eight bytes first. -/
def lengthBytes (size : ℕ) : Text:=
 (List.range 8).map fun i=>UInt8.ofNat (8*size / 2 ^ (8*(7 - i)))

/-- A one bit, the least number of zero bits, and the length fill up the last block. -/
def padding (size : ℕ) : Text:=
 0x80::(List.replicate ((119 - size % 64) % 64) 0++lengthBytes size)

section Blocks
variable {σ : Type} (step : σ → Text → σ)

/-- The state after the whole blocks of a text, and what is left of it. -/
def absorb (state : σ) (text : Text) : σ × Text:=
 if 64 ≤ text.length then absorb (step state (text.take 64)) (text.drop 64) else (state,text)
termination_by text.length
decreasing_by
 rw [List.length_drop]
 omega

variable (state : σ)

lemma absorb_short {text : Text} (h:text.length<64) : absorb step state text=(state,text):=by
 rw [absorb,if_neg (Nat.not_le.mpr h)]

lemma absorb_block {block : Text} (h:block.length=64) (rest : Text):
 absorb step state (block++rest)=absorb step (step state block) rest:=by
 rw [absorb,if_pos (by rw [List.length_append]; omega),←h,List.take_left,List.drop_left]

lemma absorb_append (text more : Text) : absorb step state (text++more)=
 absorb step (absorb step state text).1 ((absorb step state text).2++more):=by
 fun_induction absorb step state text with
 | case1 state text hlong ih=>
  have hblock:(text.take 64).length=64:=List.length_take_of_le hlong
  rw [←ih,←absorb_block step state hblock,←List.append_assoc,List.take_append_drop]
 | case2 state text hshort=>rfl

lemma absorb_left (text : Text) : (absorb step state text).2.length=text.length % 64:=by
 fun_induction absorb step state text with
 | case1 state text hlong ih=>
  rw [ih,List.length_drop]
  omega
 | case2 state text hshort=>exact (Nat.mod_eq_of_lt (Nat.not_le.mp hshort)).symm

end Blocks

def bigEndian (word : UInt32) : Text:=
 [(word >>> 24).toUInt8,(word >>> 16).toUInt8,(word >>> 8).toUInt8,word.toUInt8]

def sha256 (text : Text) : Text:=
 (absorb compress initialHash (text++padding text.length)).1.words.flatMap bigEndian

end VoVe.Sha256Standard
