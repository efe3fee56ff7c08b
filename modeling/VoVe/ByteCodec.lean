import Mathlib.Data.Nat.Notation
import Mathlib.Tactic.Ring

set_option autoImplicit false

/-! Little-endian integers, length-prefixed strings and enumerations on a byte
  string, with the readers that take them off its front. -/

namespace VoVe.ByteCodec

abbrev Bytes := List UInt8

/-- Named, so that a definition that tests membership cites it. -/
instance lawfulBytes : LawfulBEq Bytes := inferInstance

/-- Little-endian bytes of the low `w` bytes of `n`. -/
def leBytes : ℕ → ℕ → Bytes
 | 0, _=>[]
 | w+1, n=>UInt8.ofNat n::leBytes w (n / 256)

def leValue : Bytes → ℕ
 | []=>0
 | b::bytes=>b.toNat+256*leValue bytes

@[simp] lemma leBytes_length (w n : ℕ) : (leBytes w n).length=w:=by
 induction w generalizing n with
 | zero=>rfl
 | succ w ih=>simp [leBytes,ih]

lemma leValue_leBytes (w n : ℕ) (h:n<256 ^ w) : leValue (leBytes w n)=n:=by
 induction w generalizing n with
 | zero=>
  have hn:n=0:=by simpa using h
  subst hn
  rfl
 | succ w ih=>
  have hq:n / 256<256 ^ w:=by
   rw [pow_succ] at h
   exact Nat.div_lt_of_lt_mul (by omega)
  simp only [leBytes,leValue,ih _ hq,UInt8.toNat_ofNat']
  omega

lemma leValue_lt (bytes : Bytes) : leValue bytes<256 ^ bytes.length:=by
 induction bytes with
 | nil=>exact Nat.one_pos
 | cons b bytes ih=>
  have hb:=b.toNat_lt
  rw [List.length_cons,pow_succ,leValue]
  omega

lemma leBytes_leValue (bytes : Bytes) : leBytes bytes.length (leValue bytes)=bytes:=by
 induction bytes with
 | nil=>rfl
 | cons b bytes ih=>
  have hb:=b.toNat_lt
  have hhead:UInt8.ofNat (b.toNat+256*leValue bytes)=b:=by
   refine UInt8.toNat_inj.mp ?_
   rw [UInt8.toNat_ofNat']
   omega
  have htail:(b.toNat+256*leValue bytes) / 256=leValue bytes:=by omega
  rw [List.length_cons,leValue,leBytes,hhead,htail,ih]

class WireInteger (α : Type) where
 width : ℕ
 toBits : α → ℕ
 ofBits : ℕ → α
 toBits_lt (a : α) : toBits a < 256 ^ width
 ofBits_toBits (a : α) : ofBits (toBits a) = a

instance : WireInteger UInt8 where
 width:=1
 toBits:=UInt8.toNat
 ofBits:=UInt8.ofNat
 toBits_lt a := by simpa using a.toNat_lt
 ofBits_toBits a := UInt8.ofNat_toNat

instance : WireInteger UInt16 where
 width:=2
 toBits:=UInt16.toNat
 ofBits:=UInt16.ofNat
 toBits_lt a := by simpa using a.toNat_lt
 ofBits_toBits a := UInt16.ofNat_toNat

instance : WireInteger UInt32 where
 width:=4
 toBits:=UInt32.toNat
 ofBits:=UInt32.ofNat
 toBits_lt a := by simpa using a.toNat_lt
 ofBits_toBits a := UInt32.ofNat_toNat

instance : WireInteger UInt64 where
 width:=8
 toBits:=UInt64.toNat
 ofBits:=UInt64.ofNat
 toBits_lt a := by simpa using a.toNat_lt
 ofBits_toBits a := UInt64.ofNat_toNat

/-- Signed values travel as their two's complement bits. -/
instance : WireInteger Int64 where
 width:=8
 toBits a := a.toUInt64.toNat
 ofBits n := (UInt64.ofNat n).toInt64
 toBits_lt a := by simpa using a.toUInt64.toNat_lt
 ofBits_toBits a := by simp

instance : WireInteger Int32 where
 width:=4
 toBits a := a.toUInt32.toNat
 ofBits n := (UInt32.ofNat n).toInt32
 toBits_lt a := by simpa using a.toUInt32.toNat_lt
 ofBits_toBits a := by simp

/-- No bits of the width are left without a value of their own. -/
class LawfulWireInteger (α : Type) [WireInteger α] : Prop where
 toBits_ofBits (n : ℕ) (h:n<256 ^ WireInteger.width α):
  WireInteger.toBits (WireInteger.ofBits n : α) = n

instance : LawfulWireInteger UInt8 where
 toBits_ofBits n h := UInt8.toNat_ofNat_of_lt' (by simpa [WireInteger.width,UInt8.size] using h)

instance : LawfulWireInteger UInt16 where
 toBits_ofBits n h := UInt16.toNat_ofNat_of_lt' (by simpa [WireInteger.width,UInt16.size] using h)

instance : LawfulWireInteger UInt32 where
 toBits_ofBits n h := UInt32.toNat_ofNat_of_lt' (by simpa [WireInteger.width,UInt32.size] using h)

instance : LawfulWireInteger UInt64 where
 toBits_ofBits n h := UInt64.toNat_ofNat_of_lt' (by simpa [WireInteger.width,UInt64.size] using h)

instance : LawfulWireInteger Int64 where
 toBits_ofBits n h:=by
  change (UInt64.ofNat n).toInt64.toUInt64.toNat = n
  rw [UInt64.toUInt64_toInt64]
  exact UInt64.toNat_ofNat_of_lt' (by simpa [WireInteger.width,UInt64.size] using h)

instance : LawfulWireInteger Int32 where
 toBits_ofBits n h:=by
  change (UInt32.ofNat n).toInt32.toUInt32.toNat = n
  rw [UInt32.toUInt32_toInt32]
  exact UInt32.toNat_ofNat_of_lt' (by simpa [WireInteger.width,UInt32.size] using h)

def appendInteger {α : Type} [WireInteger α] (a : α) : Bytes:=
 leBytes (WireInteger.width α) (WireInteger.toBits a)

@[simp] lemma appendInteger_length {α : Type} [WireInteger α] (a : α):
 (appendInteger a).length=WireInteger.width α := leBytes_length _ _

def appendString (text : Bytes) : Bytes := appendInteger (UInt32.ofNat text.length)++text

@[simp] lemma appendString_length (text : Bytes):
 (appendString text).length=4+text.length:=by
 simp [appendString,WireInteger.width]

/-- A byte array of a fixed size. -/
structure FixedBytes (n : ℕ) where
 bytes : Bytes
 length_eq : bytes.length=n
 deriving DecidableEq

def FixedBytes.zero (n : ℕ) : FixedBytes n := ⟨List.replicate n 0,List.length_replicate⟩

def FixedBytes.fill (n : ℕ) (value : UInt8) : FixedBytes n:=
 ⟨List.replicate n value,List.length_replicate⟩

/-- A reader takes a value off the front of its input, or fails. -/
structure Reader (α : Type) where
 run : Bytes → Option (α × Bytes)

namespace Reader
variable {α β : Type}

instance : Monad Reader where
 pure a := ⟨fun input=>some (a,input)⟩
 bind r f := ⟨fun input=>(r.run input).bind fun p=>(f p.1).run p.2⟩

@[simp] lemma run_pure (a : α) (i : Bytes):
 (pure a : Reader α).run i=some (a,i) := rfl

variable (r : Reader α)

@[simp] lemma run_bind (f : α → Reader β) (i : Bytes):
 (r >>= f).run i=(r.run i).bind fun p=>(f p.1).run p.2 := rfl

/-- Fail unless a condition on what was read holds. -/
def check (condition : Bool) : Reader Unit where
 run input := if condition then some ((),input) else none

@[simp] lemma run_check (c : Bool) (i : Bytes):
 (check c).run i=if c then some ((),i) else none := rfl

@[simp] lemma check_bind (c : Bool) (f : Unit → Reader β) (i : Bytes):
 (check c >>= f).run i=if c then (f ()).run i else none:=by
 cases c with
 | false=>rfl
 | true=>rfl

def ofOption (a : Option α) : Reader α where
 run input := a.map fun a=>(a,input)

@[simp] lemma run_ofOption_some (a : α) (i : Bytes):
 (ofOption (some a)).run i=some (a,i) := rfl

def readInteger (α : Type) [WireInteger α] : Reader α where
 run input:=
  if input.length < WireInteger.width α then none
  else some (WireInteger.ofBits (leValue (input.take (WireInteger.width α))),
   input.drop (WireInteger.width α))

@[simp] lemma readInteger_append [WireInteger α] (a : α) (rest : Bytes):
 (readInteger α).run (appendInteger a++rest)=some (a,rest):=by
 have hlength:=appendInteger_length a
 have htake:(appendInteger a++rest).take (WireInteger.width α)=appendInteger a:=by
  rw [←hlength]
  exact List.take_left
 have hdrop:(appendInteger a++rest).drop (WireInteger.width α)=rest:=by
  rw [←hlength]
  exact List.drop_left
 have hvalue:leValue (appendInteger a)=WireInteger.toBits a:=
  leValue_leBytes _ _ (WireInteger.toBits_lt a)
 have hlong:¬(appendInteger a++rest).length<WireInteger.width α:=by simp
 simp only [readInteger,if_neg hlong,htake,hdrop,hvalue,WireInteger.ofBits_toBits]

@[simp] lemma readInteger_bind [WireInteger α] (a : α) (f : α → Reader β) (rest : Bytes):
 (readInteger α >>= f).run (appendInteger a++rest)=(f a).run rest:=by
 rw [run_bind,readInteger_append,Option.bind_some]

def readBytes (n : ℕ) : Reader Bytes where
 run input := if input.length < n then none else some (input.take n,input.drop n)

def readFixed (n : ℕ) : Reader (FixedBytes n) where
 run input:=
  if h : (input.take n).length = n then some (⟨input.take n,h⟩,input.drop n) else none

@[simp] lemma readFixed_bind {n : ℕ} (a : FixedBytes n) (f : FixedBytes n → Reader β)
 (rest : Bytes) : (readFixed n >>= f).run (a.bytes++rest)=(f a).run rest:=by
 obtain ⟨bytes,rfl⟩:=a
 simp [readFixed]

def readString : Reader Bytes := do
 let size ← readInteger UInt32
 readBytes size.toNat

lemma readString_append (text rest : Bytes) (h:text.length<2 ^ 32):
 readString.run (appendString text++rest)=some (text,rest):=by
 have hsize:(UInt32.ofNat text.length).toNat=text.length:=by
  simpa using Nat.mod_eq_of_lt h
 simp [readString,readBytes,appendString,List.append_assoc,hsize]

lemma readString_bind (text rest : Bytes) (h:text.length<2 ^ 32) (f : Bytes → Reader β):
 (readString >>= f).run (appendString text++rest)=(f text).run rest:=by
 rw [run_bind,readString_append text rest h,Option.bind_some]

/-- Read `n` values with the same reader. -/
def readMany (r : Reader α) : ℕ → Reader (List α)
 | 0=>pure []
 | n+1=>do
  let a ← r
  let tail ← readMany r n
  pure (a::tail)

/-- Values written one after another are read back if and only if the reader
  takes every one of them. -/
lemma readMany_append (write : α → Bytes) (ok : α → Bool) (xs : List α)
 (hread:∀x∈xs,∀rest,r.run (write x++rest)=if ok x then some (x,rest) else none)
 (rest : Bytes) : (readMany r xs.length).run (xs.flatMap write++rest)=
  if xs.all ok then some (xs,rest) else none:=by
 induction xs with
 | nil=>rfl
 | cons x xs ih=>
  have htail:=ih fun y hy=>hread y (List.mem_cons_of_mem x hy)
  have hhead:=hread x List.mem_cons_self (xs.flatMap write++rest)
  cases hx:ok x with
  | false=>simp [readMany,List.append_assoc,hhead,hx]
  | true=>
   cases hxs:xs.all ok with
   | false=>
    rw [hxs] at htail
    simp [readMany,List.append_assoc,hhead,hx,hxs,htail]
   | true=>
    rw [hxs] at htail
    simp [readMany,List.append_assoc,hhead,hx,hxs,htail]

lemma bind_eq_some (f : α → Reader β) (i rest : Bytes) (b : β):
 (r >>= f).run i=some (b,rest) ↔
  ∃ a mid,r.run i=some (a,mid) ∧ (f a).run mid=some (b,rest):=by
 rw [run_bind,Option.bind_eq_some_iff,Prod.exists]

@[simp] lemma check_eq_some (c : Bool) (i rest : Bytes) (u : Unit):
 (check c).run i=some (u,rest) ↔ c=true ∧ i=rest:=by
 cases c with
 | false=>simp
 | true=>simp

@[simp] lemma pure_eq_some (a b : α) (i rest : Bytes):
 (pure a : Reader α).run i=some (b,rest) ↔ a=b ∧ i=rest:=by
 simp

def Takes (write : α → Bytes) : Prop:=
 ∀input a rest,r.run input = some (a,rest) → input = write a++rest

lemma takes_integer [WireInteger α] [LawfulWireInteger α]:
 (readInteger α).Takes appendInteger:=by
 intro i a rest h
 simp only [readInteger] at h
 split at h
 · cases h
 · next hlong =>
   simp only [Option.some.injEq,Prod.mk.injEq] at h
   obtain ⟨rfl,rfl⟩:=h
   have hlength:(i.take (WireInteger.width α)).length=WireInteger.width α:=by
    rw [List.length_take]
    omega
   have hbits:=leBytes_leValue (i.take (WireInteger.width α))
   have hlt:=leValue_lt (i.take (WireInteger.width α))
   rw [hlength] at hbits hlt
   rw [appendInteger,LawfulWireInteger.toBits_ofBits _ hlt,hbits,List.take_append_drop]

lemma takes_string : readString.Takes appendString:=by
 intro i text rest h
 obtain ⟨size,mid,hsize,htext⟩:=(bind_eq_some _ _ _ _ _).mp h
 rw [takes_integer _ _ _ hsize]
 simp only [readBytes] at htext
 split at htext
 · cases htext
 · next hlong =>
   simp only [Option.some.injEq,Prod.mk.injEq] at htext
   obtain ⟨rfl,rfl⟩:=htext
   have hlength:(mid.take size.toNat).length=size.toNat:=by
    rw [List.length_take]
    omega
   rw [appendString,hlength,UInt32.ofNat_toNat,List.append_assoc,List.take_append_drop]

lemma takes_fixed (n : ℕ) : (readFixed n).Takes FixedBytes.bytes:=by
 intro i a rest h
 simp only [readFixed] at h
 split at h
 · simp only [Option.some.injEq,Prod.mk.injEq] at h
   obtain ⟨rfl,rfl⟩:=h
   exact (List.take_append_drop n i).symm
 · cases h

lemma readMany_eq_some {r : Reader α} {write : α → Bytes} (h:r.Takes write) (n : ℕ)
 (i rest : Bytes) (xs : List α) (hread:(readMany r n).run i=some (xs,rest)):
 xs.length=n ∧ i=xs.flatMap write++rest:=by
 induction n generalizing i xs with
 | zero=>
  obtain ⟨rfl,rfl⟩:=(pure_eq_some _ _ _ _).mp hread
  exact ⟨rfl,rfl⟩
 | succ n ih=>
  obtain ⟨a,mid,ha,hmore⟩:=(bind_eq_some _ _ _ _ _).mp hread
  obtain ⟨tail,mid',htail,hpure⟩:=(bind_eq_some _ _ _ _ _).mp hmore
  obtain ⟨rfl,rfl⟩:=(pure_eq_some _ _ _ _).mp hpure
  obtain ⟨hlength,hmid⟩:=ih _ _ htail
  refine ⟨by rw [List.length_cons,hlength],?_⟩
  rw [h _ _ _ ha,hmid,List.flatMap_cons,List.append_assoc]

end Reader

/-- An enumeration whose values travel as their position in the declaration. -/
class WireEnum (α : Type) [DecidableEq α] where
 values : List α
 complete (a : α) : a ∈ values
 small : values.length ≤ 256

section Enumerations
variable {α : Type} [DecidableEq α] [WireEnum α] (a : α)

def enumCode : UInt8 := UInt8.ofNat ((WireEnum.values : List α).idxOf a)

def enumOfCode (code : UInt8) : Option α := (WireEnum.values : List α)[code.toNat]?

lemma enumOfCode_enumCode : enumOfCode (enumCode a)=some a:=by
 have hidx:(WireEnum.values : List α).idxOf a<(WireEnum.values : List α).length:=
  List.idxOf_lt_length_of_mem (WireEnum.complete a)
 have hsmall:(WireEnum.values : List α).length≤256:=WireEnum.small
 have hcode:(enumCode a).toNat=(WireEnum.values : List α).idxOf a:=by
  simp only [enumCode,UInt8.toNat_ofNat']
  omega
 rw [enumOfCode,hcode]
 simp [List.getElem?_eq_getElem hidx]

def appendEnum : Bytes := appendInteger (enumCode a)

@[simp] lemma appendEnum_length : (appendEnum a).length=1 := appendInteger_length _

/-- Read one byte and fail when it is past the last enumerator. -/
def Reader.readEnum (α : Type) [DecidableEq α] [WireEnum α] : Reader α := do
 let code ← Reader.readInteger UInt8
 Reader.ofOption (enumOfCode code)

@[simp] lemma Reader.readEnum_append (rest : Bytes):
 (Reader.readEnum α).run (appendEnum a++rest)=some (a,rest):=by
 simp [Reader.readEnum,appendEnum,enumOfCode_enumCode]

@[simp] lemma Reader.readEnum_bind {β : Type} (a : α) (f : α → Reader β) (rest : Bytes):
 (Reader.readEnum α >>= f).run (appendEnum a++rest)=(f a).run rest:=by
 rw [Reader.run_bind,Reader.readEnum_append,Option.bind_some]

lemma enumCode_enumOfCode {code : UInt8} {a : α} (h:enumOfCode code=some a)
 (hnodup:(WireEnum.values : List α).Nodup) : enumCode a=code:=by
 obtain ⟨hlt,hget⟩:=List.getElem?_eq_some_iff.mp h
 rw [enumCode,←hget,hnodup.idxOf_getElem,UInt8.ofNat_toNat]

lemma Reader.takes_enum (hnodup:(WireEnum.values : List α).Nodup):
 (Reader.readEnum α).Takes appendEnum:=by
 intro i a rest h
 obtain ⟨code,mid,hcode,hvalue⟩:=(Reader.bind_eq_some _ _ _ _ _).mp h
 simp only [Reader.ofOption,Option.map_eq_some_iff,Prod.mk.injEq] at hvalue
 obtain ⟨_,hvalue,rfl,rfl⟩:=hvalue
 rw [Reader.takes_integer _ _ _ hcode,appendEnum,enumCode_enumOfCode hvalue hnodup]

end Enumerations

end VoVe.ByteCodec
