import Mathlib.Logic.Function.Iterate
import VoVe.Sha256Standard

set_option autoImplicit false

namespace VoVe.HashImplementations
open Sha256Standard

def rotateRight (value count : UInt32) : UInt32 := (value >>> count) ||| (value <<< (32 - count))

variable (block : Text)

def loadBigEndian (index : ℕ) : UInt32:=
 let byte:=fun i=>(block.getD (index*4+i) 0).toUInt32
 byte 0 <<< 24 ||| byte 1 <<< 16 ||| byte 2 <<< 8 ||| byte 3

def storeBigEndian (value : UInt32) : Text:=
 [(value >>> 24).toUInt8,(value >>> 16).toUInt8,(value >>> 8).toUInt8,value.toUInt8]

section Block
variable (rotate : UInt32 → UInt32 → UInt32)

/-- The next of the words that are already set. -/
def nextWord (words : List UInt32) : List UInt32:=
 let word:=fun back=>words.getD (words.length - back) 0
 let s0:=rotate (word 15) 7 ^^^ rotate (word 15) 18 ^^^ (word 15 >>> 3)
 let s1:=rotate (word 2) 17 ^^^ rotate (word 2) 19 ^^^ (word 2 >>> 10)
 words++[word 16+s0+word 7+s1]

def turn (state : HashState) (constant word : UInt32) : HashState:=
 let ⟨a,b,c,d,e,f,g,h⟩ := state
 let sigma1:=rotate e 6 ^^^ rotate e 11 ^^^ rotate e 25
 let choose:=(e &&& f) ^^^ ((~~~e) &&& g)
 let first:=h+sigma1+choose+constant+word
 let sigma0:=rotate a 2 ^^^ rotate a 13 ^^^ rotate a 22
 let majority:=(a &&& b) ^^^ (a &&& c) ^^^ (b &&& c)
 let second:=sigma0+majority
 ⟨first+second,a,b,c,d+first,e,f,g⟩

/-- What both implementations do with a block: they differ in the rotation only. -/
def blockTransform (state : HashState) (block : Text) : HashState:=
 let words:=(nextWord rotate)^[48] ((List.range 16).map (loadBigEndian block))
 state.plus ((List.range 64).foldl (fun working index =>
  turn rotate working (roundConstants.getD index 0) (words.getD index 0)) state)

end Block

def transform : HashState → Text → HashState := blockTransform rotr

/-- The hasher of the file operations. -/
structure Sha256 where
 state : HashState := initialHash
 buffer : Text := List.replicate 64 0
 buffered : ℕ := 0
 totalBytes : UInt64 := 0

variable (buffer : Text)

def overwrite (place : ℕ) (bytes : Text) : Text:=
 buffer.take place++(bytes++buffer.drop (place+bytes.length))

def fill (first last : ℕ) : Text := overwrite buffer first (List.replicate (last - first) 0)

variable (hasher:Sha256) (bytes : Text)

/-- What `update` does first with a buffer that is not empty. -/
def Sha256.topUp : Sha256 × Text:=
 let copied:=min (64 - hasher.buffered) bytes.length
 let buffer:=overwrite hasher.buffer hasher.buffered (bytes.take copied)
 let buffered:=hasher.buffered+copied
 if buffered = 64 then
  ({ hasher with state:=transform hasher.state buffer,buffer,buffered:=0 },bytes.drop copied)
 else ({ hasher with buffer,buffered },bytes.drop copied)

/-- The whole blocks of the bytes, and the rest into the buffer. -/
def Sha256.take : Sha256:=
 let state:=(absorb transform hasher.state bytes).1
 let rest:=(absorb transform hasher.state bytes).2
 if rest = [] then { hasher with state }
 else { hasher with state,buffer:=overwrite hasher.buffer 0 rest,buffered:=rest.length }

def Sha256.update : Sha256:=
 let hasher:={ hasher with totalBytes:=hasher.totalBytes+UInt64.ofNat bytes.length }
 if hasher.buffered≠0 then (hasher.topUp bytes).1.take (hasher.topUp bytes).2 else hasher.take bytes

/-- The bytes of the bit count, the most significant first. -/
def countBytes (bitCount : UInt64) : Text:=
 (List.range 8).map fun i=>((bitCount >>> UInt64.ofNat (8*(7 - i))) &&& 0xff).toUInt8

/-- Zero bytes up to the bit count, and the bit count. -/
def lastBlock (buffered : ℕ) (bitCount : UInt64) : Text:=
 overwrite (fill buffer buffered 56) 56 (countBytes bitCount)

def Sha256.digest : Text:=
 let buffer:=overwrite hasher.buffer hasher.buffered [0x80]
 let buffered:=hasher.buffered+1
 let bitCount:=hasher.totalBytes*8
 let state:=
  if 56 < buffered then
   let buffer:=fill buffer buffered 64
   transform (transform hasher.state buffer) (lastBlock buffer 0 bitCount)
  else transform hasher.state (lastBlock buffer buffered bitCount)
 state.words.flatMap storeBigEndian

inductive Call where
 | update (bytes : Text)
 | digest

/-- The digests that the calls return, in their order. -/
def run : Sha256 → List Call → List Text
 | _, []=>[]
 | hasher, .update bytes::calls=>run (hasher.update bytes) calls
 | hasher, .digest::calls=>hasher.digest::run hasher calls

/-- The digests of the bytes given so far. -/
def wanted : Text → List Call → List Text
 | _, []=>[]
 | text, .update bytes::calls=>wanted (text++bytes) calls
 | text, .digest::calls=>sha256 text::wanted text calls

def processBlock : HashState → Text → HashState := blockTransform rotateRight

def padLoop (padded : Text) : Text:=
 if padded.length % 64≠56 then padLoop (padded++[0]) else padded
termination_by (120 - padded.length % 64) % 64
decreasing_by
 rw [List.length_append,List.length_singleton]
 omega

def processBlocks (state : HashState) (padded : Text) : HashState:=
 if padded.length = 0 then state
 else processBlocks (processBlock state (padded.take 64)) (padded.drop 64)
termination_by padded.length
decreasing_by
 rw [List.length_drop]
 omega

def digestBytes (word : UInt32) : Text:=
 (List.range 4).map fun byte=>((word >>> UInt32.ofNat (24 - byte*8)) &&& 0xff).toUInt8

/-- The hash of the cache. -/
def hashBytes : Text:=
 let padded:=padLoop (bytes++[0x80])++countBytes (UInt64.ofNat bytes.length*8)
 (processBlocks initialHash padded).words.flatMap digestBytes

lemma word_at (words : ℕ → UInt32) {n k : ℕ} (h:k<n):
 ((List.range n).map words).getD k 0=words k:=by
 rw [List.getD_eq_getElem?_getD,List.getElem?_map,List.getElem?_range h]
 rfl

lemma nextWord_scheduled (n : ℕ) : nextWord rotr ((List.range (16+n)).map (scheduleWord block))=
  (List.range (16+(n+1))).map (scheduleWord block):=by
 have hword:∀back,0<back → back≤16 →
   ((List.range (16+n)).map (scheduleWord block)).getD (16+n - back) 0=
    scheduleWord block (16+n - back):=by
  intro back hpos hback
  exact word_at _ (by omega)
 have hsum:scheduleWord block (16+n)=scheduleWord block (16+n - 16) +
   lowerSigma0 (scheduleWord block (16+n - 15))+scheduleWord block (16+n - 7) +
   lowerSigma1 (scheduleWord block (16+n - 2)):=by
  rw [scheduleWord,if_neg (by omega)]
  ac_rfl
 rw [←Nat.add_assoc,List.range_succ,List.map_append,List.map_singleton,hsum]
 simp only [nextWord,List.length_map,List.length_range,hword,Nat.reduceLT,Nat.reduceLeDiff]
 rfl

lemma schedule_filled (n : ℕ) : (nextWord rotr)^[n] ((List.range 16).map (loadBigEndian block))=
  (List.range (16+n)).map (scheduleWord block):=by
 induction n with
 | zero=>
  apply List.map_congr_left
  intro t ht
  rw [scheduleWord,if_pos (List.mem_range.mp ht),loadBigEndian,messageWord,Nat.mul_comm]
 | succ n ih=>rw [Function.iterate_succ_apply',ih,nextWord_scheduled]

lemma transform_compress : transform=compress:=by
 funext state block
 rw [transform,blockTransform,schedule_filled,compress]
 apply congrArg
 apply List.foldl_ext
 intro working t ht
 rw [word_at _ (List.mem_range.mp ht)]
 rfl

lemma processBlock_compress : processBlock=compress := transform_compress

lemma digestBytes_bigEndian (word : UInt32) : digestBytes word=bigEndian word:=by
 have hlow:∀byte : UInt8,byte &&& 255=byte:=fun byte=>UInt8.and_neg_one
 simp [digestBytes,bigEndian,List.range,List.range.loop,hlow]

lemma byte_of_wrapped (count place : ℕ) (h:place≤56):
 count % 2 ^ 64 / 2 ^ place % 2 ^ 8=count / 2 ^ place % 2 ^ 8:=by
 have hdvd:2 ^ place*2 ^ 8 ∣ 2 ^ 64:=by
  rw [←Nat.pow_add]
  exact Nat.pow_dvd_pow 2 (by omega)
 rw [←Nat.mod_mul_right_div_self,←Nat.mod_mul_right_div_self,Nat.mod_mod_of_dvd _ hdvd]

/-- The bit count wraps at the width of the standard's length field. -/
lemma countBytes_length (size : ℕ) : countBytes (UInt64.ofNat size*8)=lengthBytes size:=by
 apply List.map_congr_left
 intro i hi
 have hi:i<8:=List.mem_range.mp hi
 have hplace:(7 - i)*8 % 64=(7 - i)*8:=by omega
 have hwrap:=byte_of_wrapped (8*size) (8*(7 - i)) (by omega)
 have hlow:=Nat.and_two_pow_sub_one_eq_mod (8*size % 2 ^ 64 / 2 ^ (8*(7 - i)) % 2 ^ 8) 8
 apply UInt8.toNat_inj.mp
 rw [Nat.mod_mod] at hlow
 simpa [Nat.shiftRight_eq_div_pow,hplace,Nat.mul_comm] using hlow.trans hwrap

lemma padLoop_zeros (p : Text):
 padLoop p=p++List.replicate ((120 - p.length % 64) % 64) 0:=by
 fun_induction padLoop p with
 | case1 p hshort ih=>
  have hcount:(120 - p.length % 64) % 64=(120 - (p++[(0 : UInt8)]).length % 64) % 64+1:=by
   rw [List.length_append,List.length_singleton]
   omega
  rw [ih,hcount,List.replicate_succ,List.append_assoc,List.singleton_append]
 | case2 p hfull=>
  have hcount:(120 - p.length % 64) % 64=0:=by omega
  rw [hcount,List.replicate_zero,List.append_nil]

lemma processBlocks_absorb (state : HashState) (p : Text) (h:p.length % 64=0):
 processBlocks state p=(absorb processBlock state p).1:=by
 fun_induction processBlocks state p with
 | case1 state p hempty=>rw [absorb_short _ _ (by omega)]
 | case2 state p hmore ih=>
  rw [absorb,if_pos (by omega)]
  exact ih (by rw [List.length_drop]; omega)

lemma padding_full (text : Text) : (text++padding text.length).length % 64=0:=by
 simp [padding,lengthBytes]
 omega

lemma hashBytes_standard : hashBytes bytes=sha256 bytes:=by
 have hzeros:(120 - (bytes++[(0x80 : UInt8)]).length % 64) % 64=
   (119 - bytes.length % 64) % 64:=by
  rw [List.length_append,List.length_singleton]
  omega
 have hpadded:padLoop (bytes++[0x80])++countBytes (UInt64.ofNat bytes.length*8)=
   bytes++padding bytes.length:=by
  rw [padLoop_zeros,countBytes_length,hzeros,padding]
  simp
 rw [hashBytes,hpadded,processBlocks_absorb _ _ (padding_full bytes),processBlock_compress,
  funext digestBytes_bigEndian,sha256]

variable {buffer bytes text : Text} {place : ℕ} {s hasher : Sha256}

lemma overwrite_length (h:place+bytes.length≤buffer.length):
 (overwrite buffer place bytes).length=buffer.length:=by
 simp [overwrite]
 omega

lemma overwrite_take (h:place≤buffer.length) (bytes : Text):
 (overwrite buffer place bytes).take (place+bytes.length)=buffer.take place++bytes:=by
 have hsize:(buffer.take place++bytes).length=place+bytes.length:=by
  rw [List.length_append,List.length_take_of_le h]
 rw [overwrite,←List.append_assoc,List.take_left' hsize]

/-- Up to the hole in front of it, an overwritten part that reaches the end is the end. -/
lemma overwrite_end (hp:place≤buffer.length) (h:place+bytes.length=buffer.length):
 overwrite buffer place bytes=buffer.take place++bytes:=by
 rw [←overwrite_take hp,h,List.take_of_length_le (Nat.le_of_eq (overwrite_length (by omega)))]

/-- The hasher has taken the text: whole blocks are in the state, the rest in the buffer. -/
structure Fed (hasher:Sha256) (text : Text) : Prop where
 absorbed : absorb transform initialHash text=(hasher.state,hasher.buffer.take hasher.buffered)
 size : hasher.buffer.length=64
 room : hasher.buffered<64
 total : hasher.totalBytes=UInt64.ofNat text.length

lemma fed_start : Fed {} []:=by
 constructor
 · rw [absorb_short _ _ (by decide)]
   rfl
 all_goals decide

lemma take_fed (s : Sha256) (text bytes : Text) (hsize:s.buffer.length=64)
 (hroom:s.buffered<64) (hempty:s.buffered=0 ∨ bytes=[])
 (htotal:s.totalBytes=UInt64.ofNat text.length)
 (h:absorb transform initialHash text=
  absorb transform s.state (s.buffer.take s.buffered++bytes)):
 Fed (s.take bytes) text:=by
 have hrest:(absorb transform s.state bytes).2.length<64:=by
  rw [absorb_left]
  exact Nat.mod_lt _ (by decide)
 have htext:absorb transform initialHash text=((absorb transform s.state bytes).1,
   s.buffer.take s.buffered++(absorb transform s.state bytes).2):=by
  cases hempty with
  | inl hzero=>rw [h,hzero,List.take_zero,List.nil_append,List.nil_append]
  | inr hnil=>
   rw [h,hnil,absorb_short _ s.state (by decide : ([] : Text).length<64),List.append_nil]
   apply absorb_short
   rw [List.length_take]
   omega
 rw [Sha256.take]
 by_cases hnone:(absorb transform s.state bytes).2=[]
 · rw [if_pos hnone]
   rw [hnone,List.append_nil] at htext
   exact ⟨htext,hsize,hroom,htotal⟩
 · have hzero:s.buffered=0:=by
    cases hempty with
    | inl hzero=>exact hzero
    | inr hnil=>exact absurd (by rw [hnil,absorb_short _ _ (by decide)]) hnone
   have hplace:0 ≤ s.buffer.length:=Nat.zero_le _
   have hover:=overwrite_take hplace (absorb transform s.state bytes).2
   rw [hzero,List.take_zero,List.nil_append] at htext
   rw [Nat.zero_add,List.take_zero,List.nil_append] at hover
   rw [if_neg hnone]
   refine ⟨?_,?_,hrest,htotal⟩
   · rw [htext,hover]
   · rw [overwrite_length (by omega),hsize]

lemma total_mk (state : HashState) (buffer : Text) (buffered : ℕ) (total : UInt64):
 (Sha256.mk state buffer buffered total).totalBytes=total := rfl

/-- What topping up hands on reaches the same state as the bytes behind the buffer. -/
structure ToppedUp (hasher:Sha256) (bytes : Text) (next : Sha256 × Text) : Prop where
 absorbed : absorb transform hasher.state (hasher.buffer.take hasher.buffered++bytes)=
  absorb transform next.1.state (next.1.buffer.take next.1.buffered++next.2)
 size : next.1.buffer.length=64
 room : next.1.buffered<64
 empty : next.1.buffered=0 ∨ next.2=[]
 total : next.1.totalBytes=hasher.totalBytes

lemma toppedUp_topUp (s : Sha256) (bytes : Text) (hsize:s.buffer.length=64)
 (hroom:s.buffered<64) : ToppedUp s bytes (s.topUp bytes):=by
 simp only [Sha256.topUp]
 generalize hmin : min (64 - s.buffered) bytes.length=copied
 have hcopied:(bytes.take copied).length=copied:=List.length_take_of_le (by omega)
 have hlen:(overwrite s.buffer s.buffered (bytes.take copied)).length=64:=by
  rw [overwrite_length (by omega),hsize]
 have htaken:=overwrite_take (by omega : s.buffered ≤ s.buffer.length)
  (bytes.take copied)
 have hbytes:s.buffer.take s.buffered++bytes=
   (overwrite s.buffer s.buffered (bytes.take copied)).take
    (s.buffered+copied)++bytes.drop copied:=by
  rw [hcopied] at htaken
  rw [htaken,List.append_assoc,List.take_append_drop]
 by_cases hfull:s.buffered+copied=64
 · rw [if_pos hfull]
   refine ⟨?_,hlen,Nat.zero_lt_succ 63,Or.inl rfl,total_mk _ _ _ _⟩
   rw [hbytes,hfull,List.take_of_length_le (Nat.le_of_eq hlen),absorb_block _ _ hlen,
    List.take_zero,List.nil_append]
 · rw [if_neg hfull]
   have hroom:s.buffered+copied<64:=by omega
   refine ⟨by rw [hbytes],hlen,hroom,Or.inr ?_,total_mk _ _ _ _⟩
   exact List.drop_of_length_le (by omega)

lemma update_fed (h:Fed s text) (bytes : Text) : Fed (s.update bytes) (text++bytes):=by
 have htext:absorb transform initialHash (text++bytes)=
   absorb transform s.state (s.buffer.take s.buffered++bytes):=by
  rw [absorb_append,h.absorbed]
 have htotal:s.totalBytes+UInt64.ofNat bytes.length=UInt64.ofNat (text++bytes).length:=by
  rw [h.total,List.length_append,UInt64.ofNat_add]
 rw [Sha256.update]
 by_cases hzero:s.buffered=0
 · rw [if_neg (not_not_intro hzero)]
   exact take_fed _ _ _ h.size h.room (Or.inl hzero) htotal htext
 · rw [if_pos hzero]
   have htop:=toppedUp_topUp
    { s with totalBytes:=s.totalBytes+UInt64.ofNat bytes.length } bytes h.size h.room
   exact take_fed _ _ _ htop.size htop.room htop.empty (htop.total.trans htotal)
    (htext.trans htop.absorbed)

lemma fill_length (buffer : Text) {first last : ℕ} (hfirst:first≤last)
 (hlast:last≤buffer.length) : (fill buffer first last).length=buffer.length:=by
 apply overwrite_length
 rw [List.length_replicate]
 omega

lemma fill_take (buffer : Text) {first last : ℕ} (hfirst:first≤last)
 (hlast:last≤buffer.length) : (fill buffer first last).take last=
  buffer.take first++List.replicate (last - first) 0:=by
 have htake:=overwrite_take (Nat.le_trans hfirst hlast)
  (List.replicate (last - first) (0 : UInt8))
 rw [List.length_replicate,Nat.add_sub_of_le hfirst] at htake
 exact htake

lemma lastBlock_zeros {buffered : ℕ} (hsize:buffer.length=64) (h:buffered≤56) (size : ℕ):
 lastBlock buffer buffered (UInt64.ofNat size*8)=
  buffer.take buffered++(List.replicate (56 - buffered) 0++lengthBytes size):=by
 have hlast:(lengthBytes size).length=8:=by simp [lengthBytes]
 have hlen:=fill_length buffer h (by omega)
 rw [lastBlock,countBytes_length,overwrite_end (by omega) (by omega),
  fill_take buffer h (by omega),List.append_assoc]

lemma absorb_one {block : Text} (h:block.length=64) (state : HashState):
 absorb transform state block=(transform state block,[]):=by
 rw [←List.append_nil block,absorb_block _ _ h,absorb_short _ _ (by decide),List.append_nil]

/-- The end of the text fits into the last block, or spills into a second one. -/
lemma digest_fed (h:Fed s text) : s.digest=sha256 text:=by
 have hsize:=h.size
 have hroom:=h.room
 have hleft:s.buffered=text.length % 64:=by
  have hlength:=absorb_left transform initialHash text
  rw [h.absorbed,List.length_take_of_le (by omega)] at hlength
  exact hlength
 have hmarked:(overwrite s.buffer s.buffered [0x80]).length=64:=by
  rw [overwrite_length (by rw [List.length_singleton]; omega),hsize]
 have hmark:=overwrite_take (by omega : s.buffered ≤ s.buffer.length) [(0x80 : UInt8)]
 rw [List.length_singleton] at hmark
 rw [sha256,←transform_compress,absorb_append,h.absorbed,padding]
 simp only [Sha256.digest,h.total]
 by_cases hspill:56<s.buffered+1
 · have hfull:=fill_length (overwrite s.buffer s.buffered [0x80])
    (by omega : s.buffered+1≤64) (by omega)
   have htake:=fill_take (overwrite s.buffer s.buffered [0x80])
    (by omega : s.buffered+1≤64) (by omega)
   rw [List.take_of_length_le (by omega),hmark] at htake
   have hzeros:(119 - text.length % 64) % 64=64 - (s.buffered+1)+56:=by omega
   have hblocks:s.buffer.take s.buffered ++
     0x80::(List.replicate (64 - (s.buffered+1)+56) 0++lengthBytes text.length)=
     fill (overwrite s.buffer s.buffered [0x80]) (s.buffered+1) 64 ++
      (List.replicate 56 0++lengthBytes text.length):=by
    rw [htake,List.replicate_add]
    simp only [List.append_assoc,List.cons_append,List.nil_append]
   rw [if_pos hspill,lastBlock_zeros (by omega) (by decide),hzeros,hblocks,
    absorb_block _ _ (by omega),absorb_one (by simp [lengthBytes])]
   rfl
 · have hzeros:(119 - text.length % 64) % 64=56 - (s.buffered+1):=by omega
   rw [if_neg hspill,lastBlock_zeros hmarked (by omega),hmark,hzeros,List.append_assoc,
    List.singleton_append,absorb_one]
   · rfl
   · simp [lengthBytes]
     omega

lemma run_fed (calls : List Call) (h:Fed s text) : run s calls=wanted text calls:=by
 induction calls generalizing s text with
 | nil=>rfl
 | cons call calls ih=>
  cases call with
  | update bytes=>exact ih (update_fed h bytes)
  | digest=>rw [run,wanted,digest_fed h,ih h]

/-- Chunks of any size, with a digest after any of them, and the hash of the cache. -/
theorem hashes_standard (calls : List Call) (bytes : Text):
 run {} calls=wanted [] calls ∧ hashBytes bytes=sha256 bytes:=
 ⟨run_fed calls fed_start,hashBytes_standard bytes⟩

end VoVe.HashImplementations
