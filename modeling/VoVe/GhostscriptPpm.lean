import Mathlib.Data.List.TakeWhile
import VoVe.AsciiText

set_option autoImplicit false

/-! The PPM reader of `worker_thumbnail_renderer.cpp`. A guarded read `position < size &&
p(bytes[position])` is `bytes[position]?.any p`. -/

namespace VoVe.GhostscriptPpm
open ByteCodec AsciiText

/-- No object takes more than half of the address space. -/
structure Span where
 bytes : Bytes
 addressable : bytes.length<2 ^ 63

structure PpmImage where
 width : UInt32 := 0
 height : UInt32 := 0
 rgba8 : Bytes := []
 error : String := ""
 deriving DecidableEq

def PpmImage.ok (image : PpmImage) : Bool:=
 image.error = "" ∧ image.width≠0 ∧ image.height≠0 ∧ image.rgba8≠[]

variable (value : UInt8)

def ppmSpace : Bool := value ∈ [32,9,13,10,12,11]

def commentByte : Bool := value≠10 ∧ value≠13

def tokenByte : Bool := !ppmSpace value && value≠35

lemma inside_of_any {p : UInt8 → Bool} {bytes : Bytes} {position : ℕ}
 (h:bytes[position]?.any p=true) : position<bytes.length:=by
 cases hbyte:bytes[position]? with
 | none=>simp [hbyte] at h
 | some b=>exact (List.getElem?_eq_some_iff.mp hbyte).1

section Reader
variable (p : UInt8 → Bool) (bytes : Bytes)

/-- One of the loops that advance the position. -/
def skip (position : ℕ) : ℕ:=
 if bytes[position]?.any p then skip (position+1) else position
termination_by bytes.length - position
decreasing_by
 have hinside:=inside_of_any (by assumption)
 omega

variable (position : ℕ)

lemma skip_takeWhile:
 skip p bytes position=position+((bytes.drop position).takeWhile p).length:=by
 fun_induction skip p bytes position with
 | case1 position hread ih=>
  rw [←List.head?_drop] at hread
  rw [ih,←List.drop_drop]
  cases htext:bytes.drop position with
  | nil=>simp [htext] at hread
  | cons b rest=>
   rw [htext] at hread
   rw [List.takeWhile_cons_of_pos (by simpa using hread)]
   simp
   omega
 | case2 position hstop=>
  rw [←List.head?_drop] at hstop
  cases htext:bytes.drop position with
  | nil=>rfl
  | cons b rest=>
   rw [htext] at hstop
   rw [List.takeWhile_cons_of_neg (by simpa using hstop)]
   rfl

lemma drop_skip:
 bytes.drop (skip p bytes position)=(bytes.drop position).dropWhile p:=by
 have hsplit:=List.takeWhile_append_dropWhile (p := p) (l := bytes.drop position)
 rw [skip_takeWhile,←List.drop_drop]
 exact (congrArg _ hsplit.symm).trans List.drop_left

lemma skip_stop : bytes[skip p bytes position]?.any p=false:=by
 fun_induction skip p bytes position with
 | case1 position hread ih=>exact ih
 | case2 position hstop=>simpa using hstop

end Reader

variable {bytes : Bytes}

lemma skip_start {p : UInt8 → Bool} {position : ℕ}
 (h:(bytes.drop position).head?.any p=false) : skip p bytes position=position:=by
 rw [List.head?_drop] at h
 rw [skip,h]
 rfl

lemma byte_at {position : ℕ} {b : UInt8} (h:bytes[position]?=some b):
 position<bytes.length ∧ bytes.drop position=b::bytes.drop (position+1):=by
 obtain ⟨hinside,hbyte⟩:=List.getElem?_eq_some_iff.mp h
 exact ⟨hinside,by rw [List.drop_eq_getElem_cons hinside,hbyte]⟩

/-- The loop of `ppm_token` over white space and comments. -/
def skipBlank (bytes : Bytes) (position : ℕ) : ℕ:=
 let start:=skip ppmSpace bytes position
 if bytes[start]? = some 35 then skipBlank bytes (skip commentByte bytes start) else start
termination_by bytes.length - position
decreasing_by
 have hcomment:bytes[skip ppmSpace bytes position]?=some 35:=by assumption
 obtain ⟨hinside,hdrop⟩:=byte_at hcomment
 have hstart:=skip_takeWhile ppmSpace bytes position
 have hlater:=skip_takeWhile commentByte bytes (skip ppmSpace bytes position)
 rw [hdrop,List.takeWhile_cons_of_pos (by decide),List.length_cons] at hlater
 omega

def ppmToken (bytes : Bytes) (position : ℕ) : Option Bytes × ℕ:=
 let beginning:=skipBlank bytes position
 let position:=skip tokenByte bytes beginning
 if position = beginning ∨ position - beginning > 16 then (none,position)
 else (some ((bytes.drop beginning).take (position - beginning)),position)

def decimalValue (digits : Bytes) : ℕ:=
 digits.foldl (fun value digit=>value*10+(digit.toNat - 48)) 0

/-- `std::from_chars` of the whole token as an unsigned 32-bit integer. -/
def ppmNumber (token : Option Bytes) : Option UInt32:=
 match token with
 | none=>none
 | some text=>
  if text≠[] ∧ text.all isDigit ∧ decimalValue text < 2 ^ 32 then
   some (UInt32.ofNat (decimalValue text))
  else none

/-- The pixels from the position on: the reads of this loop are not guarded. -/
def copyPixels (bytes : Bytes) : (pixels source : ℕ) → source+pixels*3 ≤ bytes.length → Bytes
 | 0, _, _=>[]
 | pixels+1, source, h=>
  bytes[source]::bytes[source+1]::bytes[source+2]::0xff ::
   copyPixels bytes pixels (source+3) (by omega)

def copyRaster (bytes : Bytes) (width height : UInt32) (position : ℕ)
  (hinside:position≤bytes.length) : PpmImage:=
 let pixels:=width.toNat*height.toNat
 let rgbBytes:=pixels*3 % 2 ^ 64
 if h : rgbBytes > bytes.length - position ∨ pixels > (2 ^ 64 - 1) / 4 then
  { error:="Ghostscript PPM raster is truncated" }
 else if (bytes.drop (position+rgbBytes)).any fun value=>!ppmSpace value then
  { error:="Ghostscript PPM output contains trailing data" }
 else { width,height,rgba8:=copyPixels bytes pixels position (by omega) }

def parseRaster (bytes : Bytes) (width height : UInt32) (position : ℕ) : PpmImage:=
 if h : bytes[position]?.any ppmSpace then
  if h' : bytes[position]? = some 13 ∧ bytes[position+1]? = some 10 then
   copyRaster bytes width height (position+2) (byte_at h'.2).1
  else copyRaster bytes width height (position+1) (inside_of_any h)
 else { error:="Ghostscript PPM raster delimiter is missing" }

def parseGhostscriptPpm (span : Span) (maximumEdge : UInt32) : PpmImage:=
 let magic:=ppmToken span.bytes 0
 let width:=ppmToken span.bytes magic.2
 let height:=ppmToken span.bytes width.2
 let maximum:=ppmToken span.bytes height.2
 match ppmNumber width.1, ppmNumber height.1, ppmNumber maximum.1 with
 | some w, some h, some m=>
  if magic.1≠some (utf8 "P6") ∨ w = 0 ∨ h = 0 ∨ w > maximumEdge ∨ h > maximumEdge ∨ m≠255
  then { error:="Ghostscript PPM header is invalid" }
  else parseRaster span.bytes w h maximum.2
 | _, _, _=>{ error:="Ghostscript PPM header is invalid" }

/-- White space and comments, each comment closed by its end of line. -/
inductive Blank : Bytes → Prop where
 | nil : Blank []
 | space {b : UInt8} {rest : Bytes} (hspace:ppmSpace b=true) (hrest:Blank rest):
  Blank (b::rest)
 | comment {body rest : Bytes} {newline : UInt8} (hbody:∀b∈body,commentByte b=true)
  (hnewline:commentByte newline=false) (hrest:Blank (newline::rest)):
  Blank (35::(body++newline::rest))

lemma skip_step {p : UInt8 → Bool} {position : ℕ} {b : UInt8} {rest : Bytes}
 (htext:bytes.drop position=b::rest) (hb:p b=true):
 skip p bytes position=skip p bytes (position+1) ∧ bytes.drop (position+1)=rest:=by
 have hread:bytes[position]?.any p=true:=by
  rw [←List.head?_drop,htext]
  exact hb
 constructor
 · rw [skip,if_pos hread]
 · rw [←List.tail_drop,htext]
   rfl

lemma skipBlank_blank {blank rest : Bytes} (h:Blank blank)
 (hrest:∀b∈rest.head?,tokenByte b=true) {position : ℕ}
 (htext:bytes.drop position=blank++rest):
 bytes.drop (skipBlank bytes position)=rest:=by
 induction h generalizing position with
 | nil=>
  rw [List.nil_append] at htext
  cases rest with
  | nil=>
   rw [skipBlank,skip_start (by rw [htext]; rfl),←List.head?_drop,htext]
   exact htext
  | cons b rest=>
   have hb:=hrest b rfl
   simp only [tokenByte,Bool.and_eq_true,Bool.not_eq_true',decide_eq_true_eq] at hb
   rw [skipBlank,skip_start (by rw [htext]; exact hb.1),←List.head?_drop,htext]
   simp only [List.head?_cons,Option.some.injEq,hb.2,if_false,htext]
 | space hspace hblank ih=>
  obtain ⟨hskip,hnext⟩:=skip_step htext hspace
  rw [skipBlank,hskip,←skipBlank]
  exact ih hnext
 | @comment body tail newline hbody hnewline hblank ih=>
  have hstart:skip ppmSpace bytes position=position:=skip_start (by rw [htext]; rfl)
  rw [skipBlank,hstart,←List.head?_drop,htext]
  apply ih
  rw [drop_skip,htext,List.cons_append,List.dropWhile_cons_of_pos (by decide),
   List.append_assoc,List.dropWhile_append_of_pos hbody,List.cons_append,
   List.dropWhile_cons_of_neg (by simp [hnewline])]

lemma blank_append {front back : Bytes} (hfront:∀b∈front,ppmSpace b=true)
 (hback:Blank back) : Blank (front++back):=by
 induction front with
 | nil=>exact hback
 | cons b front ih=>
  exact .space (hfront b List.mem_cons_self) (ih fun b hb=>hfront b (List.mem_cons_of_mem _ hb))

lemma takeWhile_skip (p : UInt8 → Bool) (bytes : Bytes) (position : ℕ):
 bytes.drop position=(bytes.drop position).takeWhile p++bytes.drop (skip p bytes position):=by
 rw [drop_skip,List.takeWhile_append_dropWhile]

lemma mem_skipped {p : UInt8 → Bool} {b : UInt8} {text : Bytes} (h:b∈text.takeWhile p):
 p b=true := List.mem_takeWhile_imp h

/-- A comment in front of a token ends in front of the token. -/
lemma blank_comment {body blank rest : Bytes} (hbody:∀b∈body,commentByte b=true)
 (hnewline:(blank++rest).head?.any commentByte=false) (hrest:rest≠[])
 (hhead:rest.head?.any (fun b=>!tokenByte b)=false) (hblank:Blank blank):
 Blank (35::(body++blank)):=by
 cases blank with
 | nil=>
  cases rest with
  | nil=>exact absurd rfl hrest
  | cons b rest=>
   exfalso
   simp only [List.nil_append,List.head?_cons,Option.any_some,tokenByte,ppmSpace,
    commentByte] at hnewline hhead
   grind
 | cons newline blank=>exact .comment hbody hnewline hblank

lemma skipBlank_split (bytes : Bytes) (position : ℕ):
 ∃ blank,bytes.drop position=blank++bytes.drop (skipBlank bytes position) ∧
  (bytes.drop (skipBlank bytes position)≠[] → Blank blank) ∧
  (bytes.drop (skipBlank bytes position)).head?.any (fun b=>!tokenByte b)=false:=by
 fun_induction skipBlank bytes position with
 | case1 position start hcomment ih=>
  obtain ⟨blank,htext,hblank,hhead⟩:=ih
  have hbody:=takeWhile_skip commentByte bytes start
  have hnewline:=skip_stop commentByte bytes start
  rw [←List.head?_drop,htext] at hnewline
  rw [(byte_at hcomment).2,List.takeWhile_cons_of_pos (by decide),htext,List.cons_append] at hbody
  refine ⟨(bytes.drop position).takeWhile ppmSpace ++
   (35::((bytes.drop (start+1)).takeWhile commentByte++blank)),?_,?_,hhead⟩
  · have hspaces:=takeWhile_skip ppmSpace bytes position
    rw [(byte_at hcomment).2,hbody] at hspaces
    rw [List.append_assoc,List.cons_append,List.append_assoc]
    exact hspaces
  · intro hmore
    apply blank_append fun b hb=>mem_skipped hb
    exact blank_comment (fun b hb=>mem_skipped hb) hnewline hmore hhead (hblank hmore)
 | case2 position start hstop=>
  refine ⟨_,takeWhile_skip ppmSpace bytes position,?_,?_⟩
  · intro _
    rw [←List.append_nil (List.takeWhile ..)]
    exact blank_append (fun b hb=>mem_skipped hb) .nil
  · have hspace:=skip_stop ppmSpace bytes position
    rw [List.head?_drop]
    cases hbyte:bytes[start]? with
    | none=>rfl
    | some b=>
     rw [hbyte] at hstop hspace
     simp_all [tokenByte]

def Token (word : Bytes) : Prop := word≠[] ∧ word.length ≤ 16 ∧ ∀b ∈ word,tokenByte b = true

lemma token_reads {blank word rest : Bytes} (hblank:Blank blank) (hword:Token word)
 (hrest:rest.head?.any tokenByte=false) {position : ℕ}
 (htext:bytes.drop position=blank++(word++rest)):
 ∃ next,ppmToken bytes position=(some word,next) ∧ bytes.drop next=rest:=by
 obtain ⟨hne,hsize,hall⟩:=hword
 have hstart:bytes.drop (skipBlank bytes position)=word++rest:=by
  apply skipBlank_blank hblank _ htext
  intro b hb
  cases word with
  | nil=>exact absurd rfl hne
  | cons first word=>exact hall b (Option.some.inj hb ▸ List.mem_cons_self)
 have htake:(word++rest).takeWhile tokenByte=word:=by
  rw [List.takeWhile_append_of_pos hall]
  cases rest with
  | nil=>simp
  | cons b rest=>rw [List.takeWhile_cons_of_neg (by simpa using hrest),List.append_nil]
 have hend:=skip_takeWhile tokenByte bytes (skipBlank bytes position)
 have hpos:=List.length_pos_iff.mpr hne
 rw [hstart,htake] at hend
 refine ⟨skipBlank bytes position+word.length,?_,?_⟩
 · rw [ppmToken,hend,if_neg (by omega),hstart,Nat.add_sub_cancel_left,List.take_left]
 · rw [←List.drop_drop,hstart,List.drop_left]

lemma token_some {word : Bytes} {position : ℕ} (h:(ppmToken bytes position).1=some word):
 ∃ blank,Blank blank ∧ Token word ∧
  bytes.drop position=blank++(word++bytes.drop (ppmToken bytes position).2) ∧
  (bytes.drop (ppmToken bytes position).2).head?.any tokenByte=false:=by
 have hend:=skip_takeWhile tokenByte bytes (skipBlank bytes position)
 have hsplit:=takeWhile_skip tokenByte bytes (skipBlank bytes position)
 have hstop:=skip_stop tokenByte bytes (skipBlank bytes position)
 have hall:∀b∈(bytes.drop (skipBlank bytes position)).takeWhile tokenByte,
   tokenByte b=true := fun b hb=>mem_skipped hb
 generalize (bytes.drop (skipBlank bytes position)).takeWhile tokenByte=found at hend hsplit hall
 obtain ⟨blank,htext,hblank,-⟩:=skipBlank_split bytes position
 rw [←List.head?_drop] at hstop
 rw [ppmToken] at h ⊢
 by_cases hsize:skip tokenByte bytes (skipBlank bytes position)=skipBlank bytes position ∨
   skip tokenByte bytes (skipBlank bytes position) - skipBlank bytes position>16
 · rw [if_pos hsize] at h
   cases h
 · rw [if_neg hsize] at h ⊢
   have hword:=Option.some.inj h
   rw [hend,Nat.add_sub_cancel_left,hsplit,List.take_left] at hword
   subst hword
   have hne:found≠[]:=by
    intro hnil
    rw [hnil] at hend
    exact hsize (Or.inl hend)
   refine ⟨blank,hblank ?_,⟨hne,by omega,hall⟩,?_,hstop⟩
   · rw [hsplit]
     exact List.append_ne_nil_of_left_ne_nil hne _
   · rw [htext,hsplit]

/-- The digits of a number, leading zeros allowed as long as the token is not too long. -/
def Decimal (digits : Bytes) (value : UInt32) : Prop:=
 digits≠[] ∧ digits.length ≤ 16 ∧ (∀b ∈ digits,isDigit b = true) ∧
  decimalValue digits = value.toNat

def Separator (text : Bytes) : Prop := Blank text ∧ text≠[]

inductive PpmHeader (width height : UInt32) : Bytes → Prop where
 | mk {lead first second third w h maximum : Bytes} (hlead:Blank lead)
  (hfirst:Separator first) (hsecond:Separator second) (hthird:Separator third)
  (hwidth:Decimal w width) (hheight:Decimal h height) (hmaximum:Decimal maximum 255):
  PpmHeader width height (lead++(utf8 "P6" ++ (first++(w++(second++(h ++ (third++maximum)))))))

/-- One white-space byte, where a line feed of the raster does not follow a carriage return,
or the pair of these two. -/
def Delimiter (delimiter raster : Bytes) : Prop:=
 delimiter = [13,10] ∨ ∃ b,delimiter = [b] ∧ ppmSpace b = true ∧ ¬(b = 13 ∧ raster.head? = some 10)

def PpmFile (bytes : Bytes) (maximumEdge width height : UInt32) (raster : Bytes) : Prop:=
 ∃ header delimiter tail,bytes = header++(delimiter++(raster++tail)) ∧
  PpmHeader width height header ∧ Delimiter delimiter raster ∧
  raster.length = width.toNat*height.toNat*3 ∧ (∀b ∈ tail,ppmSpace b = true) ∧
  (0 < width ∧ width ≤ maximumEdge) ∧ 0 < height ∧ height ≤ maximumEdge

def withAlpha : Bytes → Bytes
 | red::green::blue::rest=>red::green::blue::0xff::withAlpha rest
 | _=>[]

lemma copyPixels_withAlpha (bytes : Bytes) (pixels source : ℕ)
 (h:source+pixels*3≤bytes.length):
 copyPixels bytes pixels source h=withAlpha ((bytes.drop source).take (pixels*3)):=by
 induction pixels generalizing source with
 | zero=>rfl
 | succ pixels ih=>
  rw [List.drop_eq_getElem_cons (by omega),List.drop_eq_getElem_cons (by omega),
   List.drop_eq_getElem_cons (by omega),Nat.succ_mul,copyPixels,ih]
  rfl

lemma decimal_iff {digits : Bytes} {value : UInt32} (h:digits.length≤16):
 ppmNumber (some digits)=some value ↔ Decimal digits value:=by
 have hsmall:=value.toNat_lt
 rw [ppmNumber,Decimal,Option.ite_none_right_eq_some,List.all_eq_true]
 constructor
 · intro ⟨⟨hne,hall,hlt⟩,hvalue⟩
   refine ⟨hne,h,hall,?_⟩
   rw [←Option.some.inj hvalue,UInt32.toNat_ofNat_of_lt' hlt]
 · intro ⟨hne,_,hall,hvalue⟩
   rw [hvalue,UInt32.ofNat_toNat]
   exact ⟨⟨hne,hall,hsmall⟩,rfl⟩

lemma decimal_token {digits : Bytes} {value : UInt32} (h:Decimal digits value):
 Token digits:=by
 refine ⟨h.1,h.2.1,?_⟩
 intro b hb
 have hdigit:=h.2.2.1 b hb
 simp only [isDigit,tokenByte,ppmSpace] at hdigit ⊢
 grind

lemma separator_head {separator rest : Bytes} (h:Separator separator):
 (separator++rest).head?.any tokenByte=false:=by
 obtain ⟨hblank,hne⟩:=h
 cases hblank with
 | nil=>exact absurd rfl hne
 | space hspace hrest=>simp [tokenByte,hspace]
 | comment hbody hnewline hrest=>rfl

lemma copyRaster_iff {width height : UInt32} {position : ℕ} (hinside:position≤bytes.length)
 (hsmall:bytes.length<2 ^ 63) (i : PpmImage):
 copyRaster bytes width height position hinside=i ∧ i.error = "" ↔
  ∃ raster tail,bytes.drop position=raster++tail ∧
   raster.length=width.toNat*height.toNat*3 ∧ (∀b∈tail,ppmSpace b=true) ∧
   i={ width,height,rgba8:=withAlpha raster }:=by
 have hlength:(bytes.drop position).length=bytes.length - position:=List.length_drop
 simp only [copyRaster]
 constructor
 · intro ⟨hcopy,herror⟩
   split at hcopy
   · rw [←hcopy] at herror
     simp at herror
   · rename_i hfits
     split at hcopy
     · rw [←hcopy] at herror
       simp at herror
     · rename_i htail
       have hsize:width.toNat*height.toNat*3 % 2 ^ 64=width.toNat*height.toNat*3:=by omega
       rw [hsize] at htail
       refine ⟨(bytes.drop position).take (width.toNat*height.toNat*3),bytes.drop (position+width.toNat*height.toNat*3),?_,
        ?_,?_,?_⟩
       · rw [←List.drop_drop,List.take_append_drop]
       · exact List.length_take_of_le (by omega)
       · simpa using htail
       · rw [←hcopy,copyPixels_withAlpha]
 · intro ⟨raster,tail,htext,hsize,htail,himage⟩
   have hroom:raster.length+tail.length=bytes.length - position:=by
    rw [←hlength,htext,List.length_append]
   have hwrap:width.toNat*height.toNat*3 % 2 ^ 64=width.toNat*height.toNat*3:=by omega
   have hdrop:bytes.drop (position+width.toNat*height.toNat*3)=tail:=by
    rw [←List.drop_drop,htext,←hsize,List.drop_left]
   have hspaces:¬(bytes.drop (position+width.toNat*height.toNat*3 % 2 ^ 64)).any (fun b=>!ppmSpace b):=by
    rw [hwrap,hdrop]
    simpa using htail
   rw [dif_neg (by omega),if_neg hspaces,copyPixels_withAlpha,htext,←hsize,List.take_left, himage]
   exact ⟨rfl,rfl⟩

lemma raster_head {raster tail : Bytes} {size : ℕ} (hsize:raster.length=size*3)
 (hpos:0<size) : (raster++tail).head?=raster.head?:=by
 cases raster with
 | nil=>simp at hsize; omega
 | cons b raster=>rfl

lemma parseRaster_iff {width height : UInt32} (hpixels:0<width.toNat*height.toNat)
 (hsmall:bytes.length<2 ^ 63) (position : ℕ) (i : PpmImage):
 parseRaster bytes width height position=i ∧ i.error = "" ↔
  ∃ d raster tail,bytes.drop position=d++(raster++tail) ∧
   Delimiter d raster ∧ raster.length=width.toNat*height.toNat*3 ∧
   (∀b∈tail,ppmSpace b=true) ∧
   i={ width,height,rgba8:=withAlpha raster }:=by
 rw [parseRaster]
 cases htext:bytes.drop position with
 | nil=>
  have hend:bytes[position]?=none:=by rw [←List.head?_drop,htext,List.head?_nil]
  rw [dif_neg (by simp [hend])]
  constructor
  · intro ⟨himage,herror⟩
    rw [←himage] at herror
    simp at herror
  · intro ⟨d,raster,tail,hnil,hdelimiter,_⟩
    obtain rfl | ⟨b,rfl,-⟩:=hdelimiter<;>cases hnil
 | cons first rest=>
  have hfirst:bytes[position]?=some first:=by rw [←List.head?_drop,htext,List.head?_cons]
  have hrest:bytes.drop (position+1)=rest:=by rw [←List.tail_drop,htext,List.tail_cons]
  have hnext:bytes[position+1]?=rest.head?:=by rw [←List.head?_drop,hrest]
  by_cases hspace:ppmSpace first=true
  · rw [dif_pos (by rw [hfirst]; exact hspace)]
    by_cases hpair:first=13 ∧ rest.head?=some 10
    · rw [dif_pos (by rw [hfirst,hnext,hpair.1,hpair.2]; exact ⟨rfl,rfl⟩),
       copyRaster_iff _ hsmall,←List.drop_drop,htext]
      obtain ⟨after,rfl⟩ : ∃ after,rest=10::after:=by
       cases rest with
       | nil=>cases hpair.2
       | cons b after=>exact ⟨after,by rw [Option.some.inj hpair.2]⟩
      constructor
      · intro ⟨raster,tail,hdrop,hraster⟩
        refine ⟨[13,10],raster,tail,?_,Or.inl rfl,hraster⟩
        rw [hpair.1,←hdrop]
        rfl
      · intro ⟨d,raster,tail,hdrop,hdelimiter,hraster⟩
        obtain rfl | ⟨b,rfl,-,hshift⟩:=hdelimiter
        · cases hdrop
          exact ⟨raster,tail,rfl,hraster⟩
        · obtain ⟨rfl,hafter⟩:=List.cons.inj hdrop
          refine absurd ⟨hpair.1,?_⟩ hshift
          rw [←raster_head hraster.1 hpixels,show raster++tail=10::after from hafter.symm]
          rfl
    · rw [dif_neg (by rw [hfirst,hnext,Option.some.injEq]; exact hpair),
       copyRaster_iff _ hsmall,hrest]
      constructor
      · intro ⟨raster,tail,hdrop,hraster⟩
        refine ⟨[first],raster,tail,by rw [hdrop]; rfl,Or.inr ⟨first,rfl,hspace,?_⟩,hraster⟩
        rwa [←raster_head hraster.1 hpixels,←hdrop]
      · intro ⟨d,raster,tail,hdrop,hdelimiter,hraster⟩
        obtain rfl | ⟨b,rfl,-,-⟩:=hdelimiter
        · cases hdrop
          exact absurd ⟨rfl,rfl⟩ hpair
        · cases hdrop
          exact ⟨raster,tail,rfl,hraster⟩
  · rw [dif_neg (by rw [hfirst]; exact hspace)]
    constructor
    · intro ⟨himage,herror⟩
      rw [←himage] at herror
      simp at herror
    · intro ⟨d,raster,tail,hdrop,hdelimiter,_⟩
      obtain rfl | ⟨b,rfl,hb,-⟩:=hdelimiter
      · cases hdrop
        exact absurd rfl hspace
      · cases hdrop
        exact absurd hb hspace

/-- The tokens of a header, read one after another. -/
lemma header_reads {header rest : Bytes} {width height : UInt32}
 (hheader:PpmHeader width height header) (hrest:rest.head?.any tokenByte=false)
 (htext:bytes.drop 0=header++rest):
 let magic:=ppmToken bytes 0
 let w:=ppmToken bytes magic.2
 let h:=ppmToken bytes w.2
 let maximum:=ppmToken bytes h.2
 magic.1=some (utf8 "P6") ∧ ppmNumber w.1=some width ∧ ppmNumber h.1=some height ∧
  ppmNumber maximum.1=some 255 ∧ bytes.drop maximum.2=rest:=by
 obtain ⟨hlead,hfirst,hsecond,hthird,hwidth,hheight,hmaximum⟩:=hheader
 simp only [List.append_assoc] at htext
 have hmagic:Token (utf8 "P6"):=by
  exact ⟨by decide,by decide,List.all_eq_true.mp (by decide)⟩
 obtain ⟨p,hp,hdrop⟩:=token_reads hlead hmagic (separator_head hfirst) htext
 obtain ⟨q,hq,hdrop⟩:=token_reads hfirst.1 (decimal_token hwidth) (separator_head hsecond) hdrop
 obtain ⟨r,hr,hdrop⟩:=token_reads hsecond.1 (decimal_token hheight) (separator_head hthird) hdrop
 obtain ⟨t,ht,hdrop⟩:=token_reads hthird.1 (decimal_token hmaximum) hrest hdrop
 simp only [hp,hq,hr,ht]
 exact ⟨trivial,(decimal_iff hwidth.2.1).mpr hwidth,(decimal_iff hheight.2.1).mpr hheight,
  (decimal_iff hmaximum.2.1).mpr hmaximum,hdrop⟩

lemma number_token {position : ℕ} {value : UInt32}
 (h:ppmNumber (ppmToken bytes position).1=some value):
 ∃ blank digits,Blank blank ∧ Decimal digits value ∧
  bytes.drop position=blank++(digits++bytes.drop (ppmToken bytes position).2) ∧
  (bytes.drop (ppmToken bytes position).2).head?.any tokenByte=false:=by
 cases hword:(ppmToken bytes position).1 with
 | none=>
  rw [hword] at h
  cases h
 | some digits=>
  obtain ⟨blank,hblank,htoken,hdrop,hstop⟩:=token_some hword
  rw [hword] at h
  exact ⟨blank,digits,hblank,(decimal_iff htoken.2.1).mp h,hdrop,hstop⟩

/-- What stands between two tokens is not empty. -/
lemma separator_of_token {text blank word rest : Bytes} (hblank:Blank blank)
 (hword:Token word) (htext:text=blank++(word++rest))
 (hstop:text.head?.any tokenByte=false) : Separator blank:=by
 refine ⟨hblank,?_⟩
 intro hnil
 rw [htext,hnil,List.nil_append] at hstop
 cases word with
 | nil=>exact hword.1 rfl
 | cons b word=>
  have hb:=hword.2.2 b List.mem_cons_self
  rw [List.cons_append,List.head?_cons,Option.any_some,hb] at hstop
  cases hstop

lemma pixels_pos {width height : UInt32} (hwidth:0<width) (hheight:0<height):
 0<width.toNat*height.toNat:=
 Nat.mul_pos (UInt32.lt_iff_toNat_lt.mp hwidth) (UInt32.lt_iff_toNat_lt.mp hheight)

lemma parse_file {span : Span} {maximumEdge width height : UInt32} {raster : Bytes}
 (h:PpmFile span.bytes maximumEdge width height raster):
 parseGhostscriptPpm span maximumEdge={ width,height,rgba8:=withAlpha raster } ∧
  withAlpha raster≠[]:=by
 obtain ⟨header,d,tail,htext,hheader,hdelimiter,hraster,htail,⟨hwpos,hwmax⟩, hhpos,hhmax⟩ := h
 have hpixels:=pixels_pos hwpos hhpos
 have hstop:(d++(raster++tail)).head?.any tokenByte=false:=by
  obtain rfl | ⟨b,rfl,hb,-⟩:=hdelimiter
  · rfl
  · simp [tokenByte,hb]
 obtain ⟨hmagic,hw,hh,hm,hdrop⟩:=header_reads hheader hstop htext
 have hcopy:=(parseRaster_iff hpixels span.addressable _ _).mpr
  ⟨d,raster,tail,hdrop,hdelimiter,hraster,htail,rfl⟩
 have hvalid:¬((ppmToken span.bytes 0).1≠some (utf8 "P6") ∨ width=0 ∨ height=0 ∨
   width>maximumEdge ∨ height>maximumEdge ∨ (255 : UInt32)≠255):=by
  simp only [not_or,ne_eq,not_not,gt_iff_lt,UInt32.not_lt,←UInt32.pos_iff_ne_zero]
  exact ⟨hmagic,hwpos,hhpos,hwmax,hhmax,trivial⟩
 simp only [parseGhostscriptPpm,hw,hh,hm]
 rw [if_neg hvalid]
 refine ⟨hcopy.1,?_⟩
 match raster with
 | red::green::blue::rest=>exact List.cons_ne_nil _ _
 | [] | [_] | [_,_]=>
  simp only [List.length_cons,List.length_nil] at hraster
  omega

lemma file_parsed {span : Span} {maximumEdge : UInt32} {i : PpmImage}
 (hparse:parseGhostscriptPpm span maximumEdge=i) (herror:i.error = ""):
 ∃ raster,PpmFile span.bytes maximumEdge i.width i.height raster ∧
  i={ width:=i.width,height:=i.height,rgba8:=withAlpha raster }:=by
 simp only [parseGhostscriptPpm] at hparse
 split at hparse
 · rename_i w h m hw hh hm
   split at hparse
   · rw [←hparse] at herror
     simp at herror
   · rename_i hvalid
     simp only [not_or,ne_eq,not_not,gt_iff_lt,UInt32.not_lt,←UInt32.pos_iff_ne_zero]
      at hvalid
     obtain ⟨hmagic,hwpos,hhpos,hwmax,hhmax,rfl⟩:=hvalid
     obtain ⟨lead,hlead,-,htext,hstop⟩:=token_some hmagic
     obtain ⟨b1,d1,hb1,hd1,ht1,hs1⟩:=number_token hw
     obtain ⟨b2,d2,hb2,hd2,ht2,hs2⟩:=number_token hh
     obtain ⟨b3,d3,hb3,hd3,ht3,-⟩:=number_token hm
     obtain ⟨d,raster,tail,hdrop,hdelimiter,hraster,htail,himage⟩:=
      (parseRaster_iff (pixels_pos hwpos hhpos) span.addressable _ i).mp ⟨hparse,herror⟩
     have hheader:=PpmHeader.mk hlead
      (separator_of_token hb1 (decimal_token hd1) ht1 hstop)
      (separator_of_token hb2 (decimal_token hd2) ht2 hs1)
      (separator_of_token hb3 (decimal_token hd3) ht3 hs2) hd1 hd2 hd3
     rw [ht1,ht2,ht3,hdrop] at htext
     rw [himage]
     refine ⟨raster,⟨_,d,tail,?_,hheader,hdelimiter,hraster,htail, ⟨hwpos,hwmax⟩,hhpos,hhmax⟩,rfl⟩
     simpa only [List.append_assoc,List.drop_zero] using htext
 · rw [←hparse] at herror
   simp at herror

theorem parse_exact (span : Span) (maximumEdge : UInt32) (image : PpmImage):
 parseGhostscriptPpm span maximumEdge=image ∧ image.ok=true ↔
  ∃ raster,PpmFile span.bytes maximumEdge image.width image.height raster ∧
   image={ width:=image.width,height:=image.height,rgba8:=withAlpha raster }:=by
 simp only [PpmImage.ok,decide_eq_true_eq]
 constructor
 · intro ⟨hparse,herror,_⟩
   exact file_parsed hparse herror
 · intro ⟨raster,hfile,himage⟩
   obtain ⟨hparse,hne⟩:=parse_file hfile
   obtain ⟨-,-,-,-,-,-,-,-,⟨hwpos,-⟩,hhpos,-⟩:=hfile
   rw [←himage] at hparse
   refine ⟨hparse,by rw [himage],?_,?_,by rw [himage]; exact hne⟩
   · exact UInt32.pos_iff_ne_zero.mp hwpos
   · exact UInt32.pos_iff_ne_zero.mp hhpos

def crHeader : Bytes := utf8 "P6 1 1 255"

def crFile : Span := ⟨crHeader++([13]++([10,1,2]++[10])),by decide⟩

lemma crHeader_valid : PpmHeader 1 1 crHeader:=
 have hspace:Separator [32]:=⟨.space rfl .nil,List.cons_ne_nil _ _⟩
 have hone:Decimal [49] 1:=⟨by decide,by decide,List.all_eq_true.mp (by decide),by decide⟩
 have hmaximum:Decimal (utf8 "255") 255:=
  ⟨by decide,by decide,List.all_eq_true.mp (by decide),by decide⟩
 .mk .nil hspace hspace hspace hone hone hmaximum

/-- A raster that begins with a line feed, behind a carriage return. -/
theorem raster_shifted : ¬∀ (span : Span) (maximumEdge width height : UInt32) (b : UInt8)
 (header raster tail : Bytes),PpmHeader width height header → ppmSpace b=true →
  raster.length=width.toNat*height.toNat*3 → (∀c∈tail,ppmSpace c=true) →
  0<width ∧ width ≤ maximumEdge → 0<height ∧ height ≤ maximumEdge →
  span.bytes=header++([b]++(raster++tail)) →
  parseGhostscriptPpm span maximumEdge={ width,height,rgba8:=withAlpha raster }:=by
 intro h
 have hclaimed:=h crFile 1 1 1 13 crHeader [10,1,2] [10] crHeader_valid rfl rfl
  (List.all_eq_true.mp (by decide)) (by decide) (by decide) rfl
 have hfile:PpmFile crFile.bytes 1 1 1 [1,2,10]:=
  ⟨crHeader,[13,10],[],rfl,crHeader_valid,Or.inl rfl,rfl,by simp,by decide,by decide⟩
 rw [(parse_file hfile).1] at hclaimed
 exact absurd hclaimed (by decide)

end VoVe.GhostscriptPpm
