import VoVe.ByteCodec
import VoVe.Checks

set_option autoImplicit false

/-! Decoders that stop at the first thing wrong and say what it is, and the header of a framed
message. -/

namespace VoVe.ScanCodec
open ByteCodec Checks

/-- A scanner takes a value off the front of its input, or stops with an error. -/
structure Scanner (ε α : Type) where
 run : Bytes → Except ε (α × Bytes)

variable {ε α β : Type}

instance : Monad (Scanner ε) where
 pure a := ⟨fun input=>.ok (a,input)⟩
 bind s f := ⟨fun input=>s.run input >>= fun p=>(f p.1).run p.2⟩

/-- Read a value, or stop where the reader does. -/
def read (reader : Reader α) (error : ε) : Scanner ε α where
 run input := found (reader.run input) error

def ensure (condition : Bool) (error : ε) : Scanner ε Unit where
 run input := if condition then .ok ((),input) else .error error

/-- Nothing is left. -/
def finish (error : ε) : Scanner ε Unit where
 run input := if input = [] then .ok ((),input) else .error error

def present (value : Option α) (error : ε) : Scanner ε α where
 run input := (found value error).map fun value=>(value,input)

def integer (α : Type) [WireInteger α] (error : ε) : Scanner ε α:=
 read (Reader.readInteger α) error

def octets (size : ℕ) (error : ε) : Scanner ε Bytes := read (Reader.readBytes size) error

/-- A text behind its 16-bit length; the length is checked before the bytes are read. -/
def sizedText (allowed : ℕ → Bool) (lengthError limitError bytesError : ε) : Scanner ε Bytes := do
 let size ← integer UInt16 lengthError
 ensure (allowed size.toNat) limitError
 octets size.toNat bytesError

def appendString16 (text : Bytes) : Bytes := appendInteger (UInt16.ofNat text.length)++text

lemma appendString16_length (text : Bytes) : (appendString16 text).length=2+text.length:=by
 rw [appendString16,List.length_append,appendInteger_length]
 rfl

section Rules
variable {i input rest : Bytes}

lemma bind_eq_ok (s : Scanner ε α) (f : α → Scanner ε β) (b : β):
 (s >>= f).run i=.ok (b,rest) ↔
  ∃ a mid,s.run i=.ok (a,mid) ∧ (f a).run mid=.ok (b,rest):=by
 change (s.run i >>= fun p=>(f p.1).run p.2)=.ok (b,rest) ↔ _
 rw [Checks.bind_eq_ok,Prod.exists]

lemma pure_eq_ok (a b : α) : (pure a : Scanner ε α).run i=.ok (b,rest) ↔ a=b ∧ i=rest:=by
 change (Except.ok (a,i) : Except ε (α × Bytes))=.ok (b,rest) ↔ _
 rw [Except.ok.injEq,Prod.mk.injEq]

lemma ensure_bind (condition : Bool) (e : ε) (f : Unit → Scanner ε β) (b : β):
 (ensure condition e >>= f).run i=.ok (b,rest) ↔
  condition=true ∧ (f ()).run i=.ok (b,rest):=by
 cases condition with
 | true=>
  change (f ()).run i=_ ↔ _
  simp
 | false=>
  change (Except.error e : Except ε (β × Bytes))=_ ↔ _
  simp

lemma finish_bind (e : ε) (f : Unit → Scanner ε β) (b : β):
 (finish e >>= f).run i=.ok (b,rest) ↔ i=[] ∧ (f ()).run []=.ok (b,rest):=by
 cases i with
 | nil=>
  change (f ()).run []=_ ↔ _
  simp
 | cons first others=>
  change (Except.error e : Except ε (β × Bytes))=_ ↔ _
  simp

lemma present_bind (value : Option α) (e : ε) (f : α → Scanner ε β) (b : β):
 (present value e >>= f).run i=.ok (b,rest) ↔
  ∃ a,value=some a ∧ (f a).run i=.ok (b,rest):=by
 cases value with
 | some a=>
  change (f a).run i=_ ↔ _
  simp
 | none=>
  change (Except.error e : Except ε (β × Bytes))=_ ↔ _
  simp

lemma present_eq_ok (value : Option α) (e : ε) (a : α):
 (present value e).run i=.ok (a,rest) ↔ value=some a ∧ i=rest:=by
 cases value with
 | some found=>
  change (Except.ok (found,i) : Except ε (α × Bytes))=.ok (a,rest) ↔ _
  simp
 | none=>
  change (Except.error e : Except ε (α × Bytes))=.ok (a,rest) ↔ _
  simp

lemma integer_bind [WireInteger α] [LawfulWireInteger α] (e : ε) (f : α → Scanner ε β)
 (b : β) : (integer α e >>= f).run i=.ok (b,rest) ↔
  ∃ a mid,i=appendInteger a++mid ∧ (f a).run mid=.ok (b,rest):=by
 have hread (a : α) (mid : Bytes):
   (integer α e).run i=.ok (a,mid) ↔ i=appendInteger a++mid:=by
  change found ((Reader.readInteger α).run i) e=.ok (a,mid) ↔ _
  rw [found_eq_ok]
  constructor
  · exact fun h=>Reader.takes_integer i a mid h
  · intro h
    rw [h,Reader.readInteger_append]
 simp only [bind_eq_ok,hread]

lemma octets_eq_ok (size : ℕ) (e : ε) (bytes : Bytes):
 (octets size e).run i=.ok (bytes,rest) ↔
  bytes.length=size ∧ i=bytes++rest:=by
 change found ((Reader.readBytes size).run i) e=.ok (bytes,rest) ↔ _
 rw [found_eq_ok,Reader.readBytes]
 by_cases hshort:i.length<size
 · simp only [if_pos hshort]
   constructor
   · intro h
     cases h
   · intro h
     rw [h.2,List.length_append,h.1] at hshort
     omega
 · simp only [if_neg hshort,Option.some.injEq,Prod.mk.injEq]
   constructor
   · intro h
     rw [←h.1,←h.2,List.take_append_drop,List.length_take]
     exact ⟨Nat.min_eq_left (Nat.le_of_not_lt hshort),rfl⟩
   · intro h
     rw [h.2,←h.1]
     exact ⟨List.take_left,List.drop_left⟩

lemma octets_bind (size : ℕ) (e : ε) (f : Bytes → Scanner ε β) (b : β):
 (octets size e >>= f).run i=.ok (b,rest) ↔ ∃ bytes mid,(bytes.length=size ∧ i=bytes++mid) ∧
   (f bytes).run mid=.ok (b,rest):=by
 simp only [bind_eq_ok,octets_eq_ok]

lemma size16 {bytes : Bytes} (h:bytes.length<2 ^ 16):
 (UInt16.ofNat bytes.length).toNat=bytes.length:=
 Nat.mod_eq_of_lt h

lemma size32 {bytes : Bytes} (h:bytes.length<2 ^ 32):
 (UInt32.ofNat bytes.length).toNat=bytes.length:=
 Nat.mod_eq_of_lt h

lemma length_eq_toNat (bytes : Bytes) (size : UInt16):
 bytes.length=size.toNat ↔ bytes.length<2 ^ 16 ∧ size=UInt16.ofNat bytes.length:=by
 constructor
 · intro h
   rw [h,UInt16.ofNat_toNat]
   exact ⟨size.toNat_lt,rfl⟩
 · intro h
   rw [h.2]
   exact (size16 h.1).symm

lemma sizedText_bind {allowed : ℕ → Bool} (hsmall:∀size,allowed size=true → size<2 ^ 16)
 (lengthError limitError bytesError : ε) (f : Bytes → Scanner ε β) (b : β):
 (sizedText allowed lengthError limitError bytesError >>= f).run i=.ok (b,rest) ↔
  ∃ text mid,(allowed text.length=true ∧ i=appendString16 text++mid) ∧
   (f text).run mid=.ok (b,rest):=by
 have htext (text mid : Bytes):
   (sizedText allowed lengthError limitError bytesError).run i=.ok (text,mid) ↔
    allowed text.length=true ∧ i=appendString16 text++mid:=by
  rw [sizedText,integer_bind]
  simp only [ensure_bind,octets_eq_ok]
  constructor
  · intro ⟨size,after,hinput,hallowed,hlength,hafter⟩
    have hsize:=((length_eq_toNat text size).mp hlength).2
    rw [hlength]
    refine ⟨hallowed,?_⟩
    rw [hinput,hafter,hsize,appendString16,List.append_assoc]
  · intro ⟨hallowed,hinput⟩
    have hlength:(UInt16.ofNat text.length).toNat=text.length:=size16 (hsmall _ hallowed)
    refine ⟨UInt16.ofNat text.length,text++mid,?_,?_,hlength.symm,rfl⟩
    · rw [hinput,appendString16,List.append_assoc]
    · rw [hlength]
      exact hallowed
 simp only [bind_eq_ok,htext]

end Rules

section Strings
variable {i input rest : Bytes} (allowed : ℕ → Bool)

/-- A text behind its 32-bit length. -/
def sizedString (error : ε) : Scanner ε Bytes := do
 let size ← integer UInt32 error
 ensure (allowed size.toNat) error
 octets size.toNat error

lemma eq_toNat32 (n : ℕ) (size : UInt32):
 n=size.toNat ↔ n<2 ^ 32 ∧ size=UInt32.ofNat n:=by
 constructor
 · intro h
   rw [h,UInt32.ofNat_toNat]
   exact ⟨size.toNat_lt,rfl⟩
 · intro h
   rw [h.2]
   exact (Nat.mod_eq_of_lt h.1).symm

lemma sizedString_eq_ok (e : ε) (i text rest : Bytes):
 (sizedString allowed e).run i=.ok (text,rest) ↔
  (allowed text.length=true ∧ text.length<2 ^ 32) ∧ i=appendString text++rest:=by
 rw [sizedString,integer_bind]
 simp only [ensure_bind,octets_eq_ok]
 constructor
 · rintro ⟨size,after,hinput,hallowed,hlength,hafter⟩
   obtain ⟨hsmall,hsize⟩:=(eq_toNat32 text.length size).mp hlength
   rw [hlength]
   refine ⟨⟨hallowed,size.toNat_lt⟩,?_⟩
   rw [hinput,hafter,hsize,appendString,List.append_assoc]
 · rintro ⟨⟨hallowed,hsmall⟩,hinput⟩
   have hlength:=size32 hsmall
   refine ⟨UInt32.ofNat text.length,text++rest,?_,?_,hlength.symm,rfl⟩
   · rw [hinput,appendString,List.append_assoc]
   · rw [hlength]
     exact hallowed

lemma sizedString_bind (e : ε) (f : Bytes → Scanner ε β) (b : β):
 (sizedString allowed e >>= f).run i=.ok (b,rest) ↔
  ∃ text mid,((allowed text.length=true ∧ text.length<2 ^ 32) ∧
   i=appendString text++mid) ∧ (f text).run mid=.ok (b,rest):=by
 simp only [bind_eq_ok,sizedString_eq_ok]

/-- The same scanner, this many times. -/
def scanMany (scanner : Scanner ε α) : ℕ → Scanner ε (List α)
 | 0=>pure []
 | n+1=>do
  let a ← scanner
  let tail ← scanMany scanner n
  pure (a::tail)

lemma scanMany_eq_ok {scanner : Scanner ε α} {write : α → Bytes} {accepted : α → Prop}
 (h:∀i a rest,scanner.run i=.ok (a,rest) ↔
  accepted a ∧ i=write a++rest) (n : ℕ) (i rest : Bytes) (xs : List α):
 (scanMany scanner n).run i=.ok (xs,rest) ↔
  xs.length=n ∧ (∀x∈xs,accepted x) ∧ i=xs.flatMap write++rest:=by
 induction n generalizing i rest xs with
 | zero=>
  rw [scanMany,pure_eq_ok,List.length_eq_zero_iff]
  constructor
  · intro ⟨hnil,hrest⟩
    rw [←hnil]
    simp [hrest]
  · intro ⟨hnil,_,hrest⟩
    rw [hnil] at hrest ⊢
    exact ⟨rfl,hrest⟩
 | succ n ih=>
  simp only [scanMany,bind_eq_ok,h,ih,pure_eq_ok]
  constructor
  · intro ⟨a,mid,⟨ha,hinput⟩,tail,last,⟨hlength,htail,hmid⟩,hxs,hlast⟩
    rw [←hxs]
    refine ⟨by simp [hlength],?_,?_⟩
    · intro x hx
      rcases List.mem_cons.mp hx with rfl | hx
      · exact ha
      · exact htail x hx
    · rw [hinput,hmid,hlast,List.flatMap_cons,List.append_assoc]
  · intro ⟨hlength,hall,hinput⟩
    cases xs with
    | nil=>cases hlength
    | cons a tail=>
     refine ⟨a,tail.flatMap write++rest,⟨hall a List.mem_cons_self,?_⟩,tail,rest,
      ⟨by simpa using hlength,?_,rfl⟩,rfl,rfl⟩
     · rw [hinput,List.flatMap_cons,List.append_assoc]
     · exact fun x hx=>hall x (List.mem_cons_of_mem a hx)

lemma scanMany_bind {scanner : Scanner ε α} {write : α → Bytes} {accepted : α → Prop}
 (h:∀i a rest,scanner.run i=.ok (a,rest) ↔
  accepted a ∧ i=write a++rest) (n : ℕ) (f : List α → Scanner ε β) (b : β):
 (scanMany scanner n >>= f).run i=.ok (b,rest) ↔
  ∃ xs mid,(xs.length=n ∧ (∀x∈xs,accepted x) ∧ i=xs.flatMap write++mid) ∧
   (f xs).run mid=.ok (b,rest):=by
 simp only [bind_eq_ok,scanMany_eq_ok h]

end Strings

/-- Magic number, version, kind and flags of a frame, the size of all of it, and an id. -/
structure FrameHeader where
 magic : UInt32
 major : UInt16
 minor : UInt16
 kind : UInt16
 flags : UInt16
 totalSize : UInt32
 id : UInt64
 deriving DecidableEq

def frameHeaderBytes : ℕ := 24

def appendHeader (header:FrameHeader) : Bytes:=
 appendInteger header.magic++(appendInteger header.major++(appendInteger header.minor ++
  (appendInteger header.kind++(appendInteger header.flags ++
  (appendInteger header.totalSize++appendInteger header.id)))))

lemma appendHeader_length (header:FrameHeader):
 (appendHeader header).length=frameHeaderBytes:=by
 simp only [appendHeader,List.length_append,appendInteger_length,WireInteger.width,
  frameHeaderBytes]

def scanHeader (error : ε) : Scanner ε FrameHeader := do
 let magic ← integer UInt32 error
 let major ← integer UInt16 error
 let minor ← integer UInt16 error
 let kind ← integer UInt16 error
 let flags ← integer UInt16 error
 let totalSize ← integer UInt32 error
 let id ← integer UInt64 error
 pure ⟨magic,major,minor,kind,flags,totalSize,id⟩

lemma scanHeader_eq_ok (e : ε) (i rest : Bytes) (header:FrameHeader):
 (scanHeader e).run i=.ok (header,rest) ↔ i=appendHeader header++rest:=by
 simp only [scanHeader,integer_bind,pure_eq_ok,appendHeader,List.append_assoc]
 constructor
 · intro h
   obtain ⟨magic,_,rfl,major,_,rfl,minor,_,rfl,kind,_,rfl,flags,_,rfl,size,_,
    rfl,id,_,rfl,rfl,rfl⟩ := h
   rfl
 · intro h
   exact ⟨_,_,h,_,_,rfl,_,_,rfl,_,_,rfl,_,_,rfl,_,_,rfl,_,_,rfl,rfl,rfl⟩

lemma scanHeader_first (e : ε) (bytes rest : Bytes) (header:FrameHeader):
 frameHeaderBytes≤bytes.length ∧
   (scanHeader e).run (bytes.take frameHeaderBytes)=.ok (header,rest) ↔
  rest=[] ∧ ∃ more,bytes=appendHeader header++more:=by
 rw [scanHeader_eq_ok]
 constructor
 · intro ⟨hlong,htake⟩
   have hlength:=congrArg List.length htake
   rw [List.length_append,appendHeader_length,List.length_take, Nat.min_eq_left hlong] at hlength
   have hrest:rest=[]:=List.eq_nil_of_length_eq_zero (by omega)
   rw [hrest,List.append_nil] at htake
   refine ⟨hrest,bytes.drop frameHeaderBytes,?_⟩
   rw [←htake,List.take_append_drop]
 · intro ⟨hrest,more,hbytes⟩
   rw [hrest,hbytes,List.append_nil,←appendHeader_length header,List.take_left,
    List.length_append]
   exact ⟨Nat.le_add_right _ _,rfl⟩

lemma appendHeader_inj {header other : FrameHeader} {more rest : Bytes}
 (h:appendHeader header++more=appendHeader other++rest):
 header=other ∧ more=rest:=by
 have hread:=(scanHeader_eq_ok () _ more header).mpr h.symm
 rw [(scanHeader_eq_ok () _ rest other).mpr rfl] at hread
 cases hread
 exact ⟨rfl,rfl⟩

/-- A protocol's magic number and version. -/
structure FrameVersion where
 magic : UInt32
 major : UInt16
 minor : UInt16

def FrameVersion.header (version : FrameVersion) (kind : UInt16) (id : UInt64)
  (payload : Bytes) : FrameHeader where
 magic:=version.magic
 major:=version.major
 minor:=version.minor
 kind:=kind
 flags:=0
 totalSize:=UInt32.ofNat (frameHeaderBytes+payload.length)
 id:=id

lemma totalSize_toNat (version : FrameVersion) (kind : UInt16) (id : UInt64) {payload : Bytes}
 (hsize:frameHeaderBytes+payload.length<2 ^ 32):
 (version.header kind id payload).totalSize.toNat=frameHeaderBytes+payload.length:=
 Nat.mod_eq_of_lt hsize

lemma header_unique {version : FrameVersion} {header : FrameHeader} {payload : Bytes}
 (hmagic:header.magic=version.magic)
 (hversion:header.major=version.major ∧ header.minor=version.minor)
 (hflags:header.flags=0)
 (htotal:header.totalSize.toNat=frameHeaderBytes+payload.length):
 version.header header.kind header.id payload=header:=by
 cases header
 simp only at hmagic hversion hflags htotal
 simp only [FrameVersion.header,hmagic,hversion.1,hversion.2,hflags,←htotal, UInt32.ofNat_toNat]

section Frames
variable {τ : Type}

def scanFrame (parsed : Except ε (UInt64 × Bytes)) (scanner : UInt64 → Scanner ε α):
  Except ε α := do
 let (id,payload) ← parsed
 let (value,_) ← (scanner id).run payload
 pure value

/-- Where parsing is the inverse of making and the scanner takes the payload of this value and no
other, the value's frame is decoded to it and only then. -/
lemma exact_of_scanner {parsed : Except ε (UInt64 × Bytes)} {scanner : UInt64 → Scanner ε α}
 {make : UInt64 → Bytes → Except τ Bytes} {bytes payload : Bytes} {id : UInt64} {value : α}
 {valid : Bool} {thrown : τ}
 (hparse:∀id payload,parsed=.ok (id,payload) ↔ make id payload=.ok bytes)
 (hscan:∀found scanned rest,(scanner found).run scanned=.ok (value,rest) ↔
  valid=true ∧ found=id ∧ scanned=payload ∧ rest=[]):
 (do require valid thrown; make id payload)=.ok bytes ↔
  scanFrame parsed scanner=.ok value:=by
 simp only [scanFrame,bind_unit_eq_ok,require_eq_ok,bind_pair_eq_ok,Checks.pure_eq_ok,hparse]
 constructor
 · rintro ⟨hvalid,hframe⟩
   exact ⟨id,payload,hframe,value,[],(hscan _ _ _).mpr ⟨hvalid,rfl,rfl,rfl⟩,rfl⟩
 · intro h
   obtain ⟨found,scanned,hframe,result,rest,hresult,rfl⟩:=h
   obtain ⟨hvalid,rfl,rfl,-⟩:=(hscan found scanned rest).mp hresult
   exact ⟨hvalid,hframe⟩

end Frames

lemma flag_iff (code : UInt8) (flag : Bool):
 code≤1 ∧ flag=decide (code≠0) ↔ code=if flag then 1 else 0:=by
 constructor
 · intro ⟨hone,hflag⟩
   have hle:=UInt8.le_iff_toNat_le.mp hone
   change code.toNat≤1 at hle
   by_cases hzero:code=0
   · simp [hflag,hzero]
   · have hpos:code.toNat≠0:=fun h=>hzero (UInt8.toNat.inj h)
     have hcode:code=1:=by
      apply UInt8.toNat.inj
      change code.toNat=1
      omega
     simp [hflag,hcode]
 · intro h
   subst h
   cases flag with
   | false=>decide
   | true=>decide

lemma enumOfCode_eq_some [DecidableEq α] [WireEnum α]
 (hnodup:(WireEnum.values : List α).Nodup) (code : UInt8) (value : α):
 enumOfCode code=some value ↔ code=enumCode value:=by
 constructor
 · intro h
   exact (enumCode_enumOfCode h hnodup).symm
 · intro h
   rw [h,enumOfCode_enumCode]

/-- Write into a buffer at its offset; nothing where that overruns it. -/
def writeAt (cursor : Bytes × ℕ) (part : Bytes) : Option (Bytes × ℕ):=
 if cursor.2+part.length ≤ cursor.1.length then
  some (cursor.1.take cursor.2++(part++cursor.1.drop (cursor.2+part.length)), cursor.2+part.length)
 else none

def fillBuffer (size : ℕ) (parts : List Bytes) : Option (Bytes × ℕ):=
 parts.foldlM writeAt (List.replicate size 0,0)

lemma fill_from (parts : List Bytes) (done free : Bytes)
 (hroom:parts.flatten.length=free.length):
 parts.foldlM writeAt (done++free,done.length)=
  some (done++parts.flatten,done.length+parts.flatten.length):=by
 induction parts generalizing done free with
 | nil=>
  have hfree:free=[]:=List.eq_nil_of_length_eq_zero hroom.symm
  rw [hfree]
  rfl
 | cons part rest ih=>
  rw [List.flatten_cons,List.length_append] at hroom
  have hwrite:writeAt (done++free,done.length) part=
    some ((done++part)++free.drop part.length,(done++part).length):=by
   rw [writeAt,if_pos (by simp only [List.length_append]; omega),List.take_left,
    ← List.drop_drop,List.drop_left,List.append_assoc,List.length_append]
  have hrest:rest.flatten.length=(free.drop part.length).length:=by
   rw [List.length_drop]
   omega
  rw [List.foldlM_cons,hwrite,Option.bind_eq_bind,Option.bind_some,ih _ _ hrest,
   List.flatten_cons,List.append_assoc,List.length_append,List.length_append]
  rw [Nat.add_assoc]

lemma fillBuffer_exact {size : ℕ} {parts : List Bytes} (hsize:parts.flatten.length=size):
 fillBuffer size parts=some (parts.flatten,size):=by
 have hfill:=fill_from parts [] (List.replicate size 0) (by rw [hsize,List.length_replicate])
 rw [List.nil_append,List.nil_append,List.length_nil,Nat.zero_add,hsize] at hfill
 exact hfill

end VoVe.ScanCodec
