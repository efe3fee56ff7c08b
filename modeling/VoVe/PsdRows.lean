import VoVe.ByteCodec
import Mathlib.Data.List.Forall2

set_option autoImplicit false

/-! The row reader of `psd_decoder.cpp`. -/

namespace VoVe.PsdRows
open ByteCodec

/-- `none` is an access outside the bytes. -/
def slice (bytes : Bytes) (offset count : ℕ) : Option Bytes:=
 if offset+count ≤ bytes.length then some ((bytes.drop offset).take count) else none

lemma slice_append (before chunk after : Bytes):
 slice (before++(chunk++after)) before.length chunk.length=some chunk:=by
 have hlong:before.length+chunk.length≤(before++(chunk++after)).length:=by simp
 rw [slice,if_pos hlong,List.drop_left,List.take_left]

/-- Appends to a row of `size` bytes; `none` is a write past its end. -/
def write (size : ℕ) (row chunk : Bytes) : Option Bytes:=
 if row.length+chunk.length ≤ size then some (row++chunk) else none

def onlyNoOps (encoded : Bytes) : Bool := encoded.dropWhile (· = 128) = []

/-- The loop of `decode_packbits` and its end, on the bytes from `input` and the row before
`output`. The inner `none` is `false`. -/
def decodeLoop (size : ℕ) (encoded row : Bytes) : Option (Option Bytes):=
 match encoded with
 | []=>some (if row.length = size then some row else none)
 | control::rest=>
  if row.length < size then
   if control.toNat ≤ 127 then
    if rest.length < control.toNat+1 ∨ size - row.length < control.toNat+1 then some none
    else do
     let chunk ← slice rest 0 (control.toNat+1)
     let row ← write size row chunk
     decodeLoop size (rest.drop (control.toNat+1)) row
   else if 129 ≤ control.toNat then
    if rest = [] ∨ size - row.length < 257 - control.toNat then some none
    else do
     let value ← rest[0]?
     let row ← write size row (List.replicate (257 - control.toNat) value)
     decodeLoop size (rest.drop 1) row
   else decodeLoop size rest row
  else some (if row.length = size ∧ onlyNoOps (control::rest) then some row else none)
termination_by encoded.length
decreasing_by all_goals simp only [List.length_drop,List.length_cons]; omega

def decodePackbits (encoded : Bytes) (size : ℕ) : Option (Option Bytes):=
 decodeLoop size encoded []

inductive Packet where
 | literal (bytes : Bytes) (nonempty : 1 ≤ bytes.length) (short : bytes.length ≤ 128)
 | fill (count : ℕ) (value : UInt8) (two : 2 ≤ count) (short : count ≤ 128)
 | noOp

def Packet.encode : Packet → Bytes
 | literal bytes _ _=>UInt8.ofNat (bytes.length - 1)::bytes
 | fill count value _ _=>[UInt8.ofNat (257 - count),value]
 | noOp=>[128]

def Packet.expand : Packet → Bytes
 | literal bytes _ _=>bytes
 | fill count value _ _=>List.replicate count value
 | noOp=>[]

/-- The grammar: a concatenation of packets and its expansion. -/
def PackBits (encoded row : Bytes) : Prop:=
 ∃ packets : List Packet,packets.flatMap Packet.encode = encoded ∧
  packets.flatMap Packet.expand = row

lemma PackBits.cons {encoded row : Bytes} (p : Packet) (h:PackBits encoded row):
 PackBits (p.encode++encoded) (p.expand++row):=by
 obtain ⟨packets,rfl,rfl⟩:=h
 exact ⟨p::packets,rfl,rfl⟩

lemma Packet.encode_of_expand {p : Packet} (h:p.expand=[]) : p.encode=[128]:=by
 cases p with
 | literal bytes one short=>simp [show bytes=[] from h] at one
 | fill count value two short=>
  have hcount:count=0:=List.replicate_eq_nil_iff value |>.mp h
  omega
 | noOp=>rfl

lemma packBits_onlyNoOps (encoded : Bytes) : PackBits encoded [] ↔ onlyNoOps encoded=true:=by
 constructor
 · rintro ⟨packets,rfl,h⟩
   induction packets with
   | nil=>rfl
   | cons p packets ih=>
    rw [List.flatMap_cons,List.append_eq_nil_iff] at h
    rw [List.flatMap_cons,Packet.encode_of_expand h.1]
    simpa [onlyNoOps] using ih h.2
 · induction encoded with
   | nil=>exact fun _=>⟨[],rfl,rfl⟩
   | cons control rest ih=>
    intro h
    by_cases hno:control=128
    · subst hno
      exact PackBits.cons .noOp (ih (by simpa [onlyNoOps] using h))
    · simp [onlyNoOps,hno] at h

/-- Every way in which an encoding with a first byte can be read. -/
lemma packBits_cons {control : UInt8} {rest row : Bytes}:
 PackBits (control::rest) row ↔
  (control.toNat≤127 ∧ control.toNat+1 ≤ rest.length ∧
   ∃ tail,PackBits (rest.drop (control.toNat+1)) tail ∧
    row=rest.take (control.toNat+1)++tail) ∨
  (129 ≤ control.toNat ∧ ∃ value others tail,rest=value::others ∧ PackBits others tail ∧
   row=List.replicate (257 - control.toNat) value++tail) ∨
  (control.toNat=128 ∧ PackBits rest row):=by
 constructor
 · rintro ⟨packets,hencode,rfl⟩
   cases packets with
   | nil=>simp at hencode
   | cons p packets=>
    rw [List.flatMap_cons] at hencode
    cases p with
    | literal bytes one short=>
     simp only [Packet.encode,List.cons_append,List.cons.injEq] at hencode
     obtain ⟨rfl,rfl⟩:=hencode
     have hcount:(UInt8.ofNat (bytes.length - 1)).toNat+1=bytes.length:=by
      simp only [UInt8.toNat_ofNat']
      omega
     refine .inl ⟨by omega,by simp only [List.length_append]; omega,
      packets.flatMap Packet.expand,?_,?_⟩
     · exact ⟨packets,by rw [hcount,List.drop_left],rfl⟩
     · rw [hcount,List.take_left]
       rfl
    | fill count value two short=>
     obtain ⟨rfl,rfl⟩:=List.cons.inj hencode
     have hcode:(UInt8.ofNat (257 - count)).toNat=257 - count:=by
      simp only [UInt8.toNat_ofNat']
      omega
     have hcount:257 - (257 - count)=count:=by omega
     refine .inr (.inl ⟨by omega,value,packets.flatMap Packet.encode,_,rfl,
      ⟨packets,rfl,rfl⟩,?_⟩)
     rw [hcode,hcount]
     rfl
    | noOp=>
     obtain ⟨rfl,rfl⟩:=List.cons.inj hencode
     exact .inr (.inr ⟨rfl,packets,rfl,rfl⟩)
 · rintro (⟨hcode,hlong,tail,htail,rfl⟩ | ⟨hcode,value,others,tail,rfl,htail,rfl⟩ |
    ⟨hcode,htail⟩)
   · have hlength:(rest.take (control.toNat+1)).length=control.toNat+1:=by
      rw [List.length_take,min_eq_left hlong]
     have hcons:=PackBits.cons
      (.literal (rest.take (control.toNat+1)) (by omega) (by omega)) htail
     simpa [Packet.encode,Packet.expand,hlong] using hcons
   · have hlt:=control.toNat_lt
     have hcode':257 - (257 - control.toNat)=control.toNat:=by omega
     have hcons:=PackBits.cons (.fill (257 - control.toNat) value (by omega) (by omega)) htail
     simpa [Packet.encode,Packet.expand,hcode'] using hcons
   · rw [show control=128 from UInt8.toNat.inj hcode]
     exact PackBits.cons .noOp htail

lemma packBits_nil {row : Bytes} : PackBits [] row ↔ row=[]:=by
 constructor
 · rintro ⟨packets,hencode,rfl⟩
   cases packets with
   | nil=>rfl
   | cons p packets=>cases p<;>simp [Packet.encode] at hencode
 · rintro rfl
   exact ⟨[],rfl,rfl⟩

/-- The outputs that are still possible with part of the row written. -/
def Completes (size : ℕ) (encoded row out : Bytes) : Prop:=
 out.length = size ∧ ∃ tail,PackBits encoded tail ∧ out = row++tail

section Loop
variable {size : ℕ} {control : UInt8} {rest row out : Bytes}

lemma completes_full (hfull:row.length=size) (encoded : Bytes):
 Completes size encoded row out ↔ onlyNoOps encoded=true ∧ row=out:=by
 constructor
 · rintro ⟨hlength,tail,htail,rfl⟩
   have hnil:tail=[]:=by
    rw [List.length_append] at hlength
    exact List.eq_nil_of_length_eq_zero (by omega)
   subst hnil
   exact ⟨(packBits_onlyNoOps _).mp htail,by simp⟩
 · rintro ⟨hno,rfl⟩
   exact ⟨hfull,[],(packBits_onlyNoOps _).mpr hno,by simp⟩

lemma completes_literal (hcode:control.toNat≤127):
 Completes size (control::rest) row out ↔ control.toNat+1 ≤ rest.length ∧
  Completes size (rest.drop (control.toNat+1)) (row++rest.take (control.toNat+1)) out:=by
 constructor
 · rintro ⟨hlength,tail,htail,rfl⟩
   obtain ⟨-,hlong,last,hlast,rfl⟩ | ⟨h,-⟩ | ⟨h,-⟩:=packBits_cons.mp htail
   · exact ⟨hlong,hlength,last,hlast,by simp⟩
   · omega
   · omega
 · rintro ⟨hlong,hlength,tail,htail,rfl⟩
   exact ⟨hlength,_,packBits_cons.mpr (.inl ⟨hcode,hlong,tail,htail,rfl⟩),by simp⟩

lemma completes_fill (hcode:129 ≤ control.toNat):
 Completes size (control::rest) row out ↔ ∃ value others,rest=value::others ∧
  Completes size others (row++List.replicate (257 - control.toNat) value) out:=by
 constructor
 · rintro ⟨hlength,tail,htail,rfl⟩
   obtain ⟨h,-⟩ | ⟨-,value,others,last,rfl,hlast,rfl⟩ | ⟨h,-⟩:=packBits_cons.mp htail
   · omega
   · exact ⟨value,others,rfl,hlength,last,hlast,by simp⟩
   · omega
 · rintro ⟨value,others,rfl,hlength,tail,htail,rfl⟩
   exact ⟨hlength,_,packBits_cons.mpr
    (.inr (.inl ⟨hcode,value,others,tail,rfl,htail,rfl⟩)),by simp⟩

lemma completes_noOp (hcode:control.toNat=128):
 Completes size (control::rest) row out ↔ Completes size rest row out:=by
 have hcons (tail : Bytes) : PackBits (control::rest) tail ↔ PackBits rest tail:=by
  rw [packBits_cons]
  constructor
  · rintro (⟨h,-⟩ | ⟨h,-⟩ | ⟨-,h⟩)
    · omega
    · omega
    · exact h
  · exact fun h=>.inr (.inr ⟨hcode,h⟩)
 simp only [Completes,hcons]

lemma completes_length {encoded : Bytes} (h:Completes size encoded row out):
 row.length ≤ size:=by
 obtain ⟨rfl,tail,-,rfl⟩:=h
 simp

end Loop

lemma decodeLoop_spec (size : ℕ) (encoded row : Bytes) (hrow:row.length ≤ size):
 ∃ answer,decodeLoop size encoded row=some answer ∧
  ∀out,answer=some out ↔ Completes size encoded row out:=by
 induction hn : encoded.length using Nat.strong_induction_on generalizing encoded row with
 | _ n ih=>
  subst hn
  cases encoded with
  | nil=>
   rw [decodeLoop]
   refine ⟨_,rfl,fun out=>?_⟩
   by_cases hfull:row.length=size
   · simp [hfull,completes_full hfull,onlyNoOps]
   · simp only [hfull,if_false,reduceCtorEq,Completes,packBits_nil,false_iff]
     rintro ⟨hlength,tail,rfl,rfl⟩
     exact hfull (by simpa using hlength)
  | cons control rest=>
   rw [decodeLoop]
   by_cases hroom:row.length<size
   · by_cases hlow:control.toNat≤127
     · simp only [hroom,hlow,if_true,completes_literal hlow]
       by_cases hbad:rest.length<control.toNat+1 ∨ size - row.length<control.toNat+1
       · refine ⟨none,if_pos hbad,fun out=>?_⟩
         simp only [reduceCtorEq,false_iff]
         rintro ⟨hlong,hrest⟩
         have hfits:=completes_length hrest
         rw [List.length_append,List.length_take] at hfits
         omega
       · have hchunk:slice rest 0 (control.toNat+1)=
           some (rest.take (control.toNat+1)) := if_pos (by omega)
         have hlength:(row++rest.take (control.toNat+1)).length ≤ size:=by
          rw [List.length_append,List.length_take]
          omega
         have hwrite:write size row (rest.take (control.toNat+1))=
           some (row++rest.take (control.toNat+1)):=
          if_pos (by rwa [List.length_append] at hlength)
         obtain ⟨answer,hanswer,hiff⟩:=ih _
          (by rw [List.length_drop,List.length_cons]; omega) (rest.drop (control.toNat+1)) _
          hlength rfl
         refine ⟨answer,?_,fun out=>?_⟩
         · rw [if_neg hbad]
           simp [hchunk,hwrite,hanswer]
         · rw [hiff]
           exact ⟨fun h=>⟨by omega,h⟩,fun h=>h.2⟩
     · by_cases hhigh:129 ≤ control.toNat
       · simp only [hroom,hlow,hhigh,if_true,if_false,completes_fill hhigh]
         by_cases hbad:rest=[] ∨ size - row.length<257 - control.toNat
         · refine ⟨none,if_pos hbad,fun out=>?_⟩
           simp only [reduceCtorEq,false_iff]
           rintro ⟨value,others,rfl,hrest⟩
           have hfits:=completes_length hrest
           rw [List.length_append,List.length_replicate] at hfits
           simp at hbad
           omega
         · cases rest with
           | nil=>simp at hbad
           | cons value others=>
            have hlength:(row++List.replicate (257 - control.toNat) value).length ≤
              size:=by
             simp at hbad
             rw [List.length_append,List.length_replicate]
             omega
            have hwrite:write size row (List.replicate (257 - control.toNat) value)=
              some (row++List.replicate (257 - control.toNat) value):=
             if_pos (by rwa [List.length_append] at hlength)
            obtain ⟨answer,hanswer,hiff⟩:=ih _
             (by simp only [List.length_cons]; omega) others _ hlength rfl
            refine ⟨answer,?_,fun out=>?_⟩
            · rw [if_neg hbad]
              simp [hwrite,hanswer]
            · rw [hiff]
              constructor
              · exact fun h=>⟨value,others,rfl,h⟩
              · rintro ⟨v,o,heq,h⟩
                obtain ⟨rfl,rfl⟩:=List.cons.inj heq
                exact h
       · simp only [hroom,hlow,hhigh,if_true,if_false]
         obtain ⟨answer,hanswer,hiff⟩:=ih _ (by simp) rest row hrow rfl
         refine ⟨answer,hanswer,fun out=>?_⟩
         rw [hiff,completes_noOp (by omega)]
   · have hfull:row.length=size:=by omega
     refine ⟨_,if_neg hroom,fun out=>?_⟩
     simp [hfull,completes_full hfull]

/-- Acceptance is the packet grammar, and nothing outside the two buffers is touched. -/
lemma decodePackbits_spec (encoded : Bytes) (size : ℕ):
 ∃ answer,decodePackbits encoded size=some answer ∧
  ∀out,answer=some out ↔ out.length=size ∧ PackBits encoded out:=by
 obtain ⟨answer,hanswer,hiff⟩:=decodeLoop_spec size encoded [] (by simp)
 refine ⟨answer,hanswer,fun out=>?_⟩
 rw [hiff]
 simp [Completes]

inductive PsdDecodeErrorCode where
 | resourceLimitExceeded
 | truncatedInput
 | malformedInput
 | sourceLimitExceeded
 | sourceIoError
 deriving DecidableEq

/-- `outside` is an access outside a buffer. -/
inductive Stop where
 | failure (code : PsdDecodeErrorCode) (detail : String)
 | outside
 deriving DecidableEq

inductive Compression where
 | raw
 | rle
 | zip
 | zipPrediction
 deriving DecidableEq

/-- A source and a limit with the fields of `Layout` that `parse_layout` has checked. -/
structure Layout where
 source : Bytes
 maximumZipBytes : ℕ
 largeDocument : Bool
 channels : ℕ
 height : ℕ
 compression : Compression
 imageDataOffset : ℕ
 rowBytes : ℕ
 source_lt : source.length<2 ^ 64
 zip_lt : maximumZipBytes<2 ^ 64
 offset_le : imageDataOffset ≤ source.length
 channels_lt : channels<2 ^ 16
 height_lt : height<2 ^ 32
 rowBytes_pos : 0 < rowBytes
 rowBytes_lt : rowBytes<2 ^ 34

/-- A run with the ranges that it reads from the source. -/
structure Run (α : Type) where
 reads : List (ℕ × ℕ) := []
 result : Except Stop α

def failure {α : Type} (code : PsdDecodeErrorCode) (detail : String) : Run α:=
 { result:=.error (.failure code detail) }

def checkedAdd (left right : ℕ) : Option ℕ:=
 if 2 ^ 64 - 1 - left < right then none else some (left+right)

def checkedMultiply (left right : ℕ) : Option ℕ:=
 if left≠0 ∧ (2 ^ 64 - 1) / left < right then none else some (left*right)

/-- `read_exact` of an unchanged source, and what follows. -/
def readExact {α : Type} (source : Bytes) (offset count : ℕ) (detail : String)
  (next : Bytes → Except Stop α) : Run α where
 reads:=[(offset,count)]
 result:=
  if 2 ^ 64 - 1 - offset < count ∨ source.length < offset then
   .error (.failure .sourceLimitExceeded detail)
  else match slice source offset count with
   | none=>.error (.failure .sourceIoError detail)
   | some bytes=>next bytes

/-- A status of `tinfl_decompress`, the input it consumed and its output. -/
structure Inflated where
 done : Bool
 consumed : ℕ
 output : Bytes

/-- `tinfl_decompress` on some input and room for the output; it is exact on streams. -/
structure Zlib where
 tinfl : Bytes → ℕ → Inflated
 stream : Bytes → Bytes → Prop
 nonempty : ∀compressed content,stream compressed content → compressed≠[]
 exact : ∀compressed content,stream compressed content →
  tinfl compressed content.length = ⟨true,compressed.length,content⟩

structure RowReader where
 rows : List (ℕ × ℕ) := []
 zipBytes : Bytes := []

namespace Layout
variable (layout : Layout)

/-- `sizeof(std::uint64_t) + 2U * sizeof(std::uint32_t)` for every row of 64 MiB. -/
def maximumRleRows : ℕ := 64*1024*1024 / (8+2*4)

def entrySize : ℕ := if layout.largeDocument then 4 else 2

/-- The loop over the table of row lengths. -/
def rowTable : ℕ → Bytes → ℕ → Except Stop (List (ℕ × ℕ))
 | 0, _, _=>.ok []
 | count+1, table, offset=>
  let length:=leValue (table.take layout.entrySize).reverse
  if length = 0 then .error (.failure .malformedInput "PSD RLE row has an empty payload")
  else if length > (layout.rowBytes*2+1024) % 2 ^ 64 then
   .error (.failure .resourceLimitExceeded "PSD/PSB encoded row exceeds its memory limit")
  else match checkedAdd offset length with
   | none=>.error (.failure .truncatedInput "PSD RLE row extends beyond the source")
   | some next=>
    if next > layout.source.length then
     .error (.failure .truncatedInput "PSD RLE row extends beyond the source")
    else do
     let rows ← rowTable count (table.drop layout.entrySize) next
     return (offset,length)::rows

def prepareRaw (rowCount : ℕ) : Run RowReader:=
 match (checkedMultiply rowCount layout.rowBytes).bind (checkedAdd layout.imageDataOffset) with
 | none=>failure .resourceLimitExceeded "PSD raw composite size overflows"
 | some last=>
  if last > layout.source.length then failure .truncatedInput "PSD raw composite is truncated"
  else { result:=.ok {} }

def prepareRle (rowCount : ℕ) : Run RowReader:=
 if rowCount > maximumRleRows then
  failure .resourceLimitExceeded "PSD RLE row table exceeds its memory limit"
 else match checkedMultiply rowCount layout.entrySize with
  | none=>failure .truncatedInput "PSD RLE row table is truncated"
  | some tableBytes=>
   if tableBytes > layout.source.length - layout.imageDataOffset then
    failure .truncatedInput "PSD RLE row table is truncated"
   else readExact layout.source layout.imageDataOffset tableBytes
    "PSD RLE row table is unavailable" fun table=>do
     let rows ← layout.rowTable rowCount table (layout.imageDataOffset+tableBytes)
     return { rows:=rows }

/-- The columns from the second one on, after the value of the column on the left. -/
def undoColumns : UInt8 → Bytes → Bytes
 | _, []=>[]
 | left, value::rest=>(value+left)::undoColumns (value+left) rest

def undoRow : Bytes → Bytes
 | []=>[]
 | first::rest=>first::undoColumns first rest

/-- The loop over the rows of `zip_bytes_`. -/
def undoPrediction : ℕ → Bytes → Bytes
 | 0, bytes=>bytes
 | count+1, bytes=>
  undoRow (bytes.take layout.rowBytes)++undoPrediction count (bytes.drop layout.rowBytes)

def prepareZip (zlib : Zlib) (rowCount : ℕ) : Run RowReader:=
 match checkedMultiply rowCount layout.rowBytes with
 | none=>failure .resourceLimitExceeded "PSD ZIP composite exceeds its memory limit"
 | some expected=>
  let compressedBytes:=layout.source.length - layout.imageDataOffset
  if expected > layout.maximumZipBytes then
   failure .resourceLimitExceeded "PSD ZIP composite exceeds its memory limit"
  else if compressedBytes = 0 ∨ compressedBytes > layout.maximumZipBytes ∨
    compressedBytes > layout.maximumZipBytes - expected then
   failure .resourceLimitExceeded "PSD ZIP payload and output exceed their combined memory limit"
  else readExact layout.source layout.imageDataOffset compressedBytes
   "PSD ZIP payload is unavailable" fun compressed =>
    let inflated:=zlib.tinfl compressed expected
    if !inflated.done ∨ inflated.consumed≠compressed.length ∨
      inflated.output.length≠expected then
     .error (.failure .malformedInput "PSD ZIP composite stream is invalid")
    else if layout.compression = .zipPrediction then
     .ok { zipBytes:=layout.undoPrediction rowCount inflated.output }
    else .ok { zipBytes:=inflated.output }

def prepare (zlib : Zlib) : Run RowReader:=
 match checkedMultiply layout.channels layout.height with
 | none=>failure .resourceLimitExceeded "PSD row table size overflows"
 | some rowCount=>
  if layout.compression = .raw then layout.prepareRaw rowCount
  else if layout.compression = .rle then layout.prepareRle rowCount
  else layout.prepareZip zlib rowCount

def read (reader : RowReader) (channel row : ℕ) : Run Bytes:=
 if channel ≥ layout.channels ∨ row ≥ layout.height then
  failure .malformedInput "PSD row index is out of range"
 else
  let index:=(channel*layout.height+row) % 2 ^ 64
  match layout.compression with
  | .zip | .zipPrediction=>
   match slice reader.zipBytes (index*layout.rowBytes % 2 ^ 64) layout.rowBytes with
   | none=>{ result:=.error .outside }
   | some bytes=>{ result:=.ok bytes }
  | .raw=>
   readExact layout.source
    ((layout.imageDataOffset+index*layout.rowBytes % 2 ^ 64) % 2 ^ 64) layout.rowBytes
    "PSD raw row is unavailable" .ok
  | .rle=>
   match reader.rows[index]? with
   | none=>{ result:=.error .outside }
   | some (offset,length)=>
    readExact layout.source offset length "PSD RLE row is unavailable" fun encoded =>
     match decodePackbits encoded layout.rowBytes with
     | none=>.error .outside
     | some none=>.error (.failure .malformedInput "PSD PackBits row is malformed")
     | some (some bytes)=>.ok bytes

def imageData : Bytes := layout.source.drop layout.imageDataOffset

/-- Every range lies in the image data section. -/
def InSection (reads : List (ℕ × ℕ)) : Prop:=
 ∀range ∈ reads,layout.imageDataOffset ≤ range.1 ∧ range.1+range.2 ≤ layout.source.length

/-- What holds of a reader that was prepared. -/
structure Ready (reader : RowReader) : Prop where
 raw : layout.compression=.raw →
  layout.imageDataOffset+layout.channels*layout.height*layout.rowBytes ≤
   layout.source.length
 rle : layout.compression=.rle → reader.rows.length=layout.channels*layout.height ∧
  layout.InSection reader.rows
 zip : layout.compression=.zip ∨ layout.compression=.zipPrediction →
  reader.zipBytes.length=layout.channels*layout.height*layout.rowBytes ∧
  reader.zipBytes.length<2 ^ 64

end Layout

lemma checkedMultiply_eq {left right product : ℕ}:
 checkedMultiply left right=some product ↔ product=left*right ∧ left*right<2 ^ 64:=by
 rw [checkedMultiply]
 by_cases hleft:left=0
 · subst hleft
   simp [eq_comm]
 · have hdiv:=Nat.div_lt_iff_lt_mul (x := 2 ^ 64 - 1) (y := right) (Nat.pos_of_ne_zero hleft)
   rw [mul_comm] at hdiv
   by_cases hover:(2 ^ 64 - 1) / left < right
   · have:=hdiv.mp hover
     simp only [ne_eq,hleft,not_false_eq_true,hover,and_self,if_true,reduceCtorEq,
      false_iff]
     omega
   · have:=fun h=>hover (hdiv.mpr h)
     simp only [hover,and_false,if_false,Option.some.injEq]
     omega

lemma checkedAdd_eq {left right sum : ℕ} (h:left<2 ^ 64):
 checkedAdd left right=some sum ↔ sum=left+right ∧ left+right<2 ^ 64:=by
 rw [checkedAdd]
 split
 · simp only [reduceCtorEq,false_iff]
   omega
 · simp only [Option.some.injEq]
   omega

lemma slice_drop {bytes : Bytes} {skipped : ℕ} (h:skipped≤bytes.length) (offset count : ℕ):
 slice (bytes.drop skipped) offset count=slice bytes (skipped+offset) count:=by
 rw [slice,slice,List.length_drop,List.drop_drop]
 congr 1
 simp only [eq_iff_iff]
 omega

lemma length_slice {bytes chunk : Bytes} {offset count : ℕ}
 (h:slice bytes offset count=some chunk):
 chunk.length=count ∧ offset+count≤bytes.length:=by
 rw [slice] at h
 split at h
 · obtain rfl:=Option.some.inj h
   simp
   omega
 · contradiction

section ReadExact
variable {α : Type} {source : Bytes} {offset count : ℕ} {detail : String}
 {next : Bytes → Except Stop α}

lemma readExact_slice {bytes : Bytes} (hsource:source.length<2 ^ 64)
 (h:slice source offset count=some bytes):
 (readExact source offset count detail next).result=next bytes:=by
 have hinside:=(length_slice h).2
 simp only [readExact]
 rw [if_neg (by omega),h]

end ReadExact

namespace Layout
variable {layout : Layout}

lemma rowCount_lt (layout : Layout) : layout.channels*layout.height<2 ^ 48:=
 (Nat.mul_lt_mul'' layout.channels_lt layout.height_lt).trans_eq (by norm_num)

lemma rowCount_eq (layout : Layout) : checkedMultiply layout.channels layout.height=
 some (layout.channels*layout.height):=
 checkedMultiply_eq.mpr ⟨rfl,layout.rowCount_lt.trans (by decide)⟩

lemma index_lt {channel row : ℕ} (hchannel:channel<layout.channels)
 (hrow:row<layout.height):
 channel*layout.height+row<layout.channels*layout.height:=by
 have hnext:=Nat.mul_le_mul_right layout.height (Nat.succ_le_of_lt hchannel)
 rw [Nat.succ_mul] at hnext
 omega

lemma length_undoColumns (left : UInt8) (bytes : Bytes):
 (undoColumns left bytes).length=bytes.length:=by
 induction bytes generalizing left with
 | nil=>rfl
 | cons value rest ih=>simp [undoColumns,ih]

lemma length_undoRow (row : Bytes) : (undoRow row).length=row.length:=by
 cases row with
 | nil=>rfl
 | cons first rest=>simp [undoRow,length_undoColumns]

lemma length_undoPrediction (count : ℕ) (bytes : Bytes):
 (layout.undoPrediction count bytes).length=bytes.length:=by
 induction count generalizing bytes with
 | zero=>rfl
 | succ count ih=>
  rw [undoPrediction,List.length_append,ih,length_undoRow,←List.length_append,List.take_append_drop]

section Sound
variable {α β : Type} {good : α → Prop} {next : Bytes → Except Stop α}

/-- No access outside a buffer, and a good value. -/
def Fine (good : α → Prop) : Except Stop α → Prop
 | .ok value=>good value
 | .error stop=>stop≠.outside

def Sound (layout : Layout) (good : α → Prop) (run : Run α) : Prop:=
 layout.InSection run.reads ∧ Fine good run.result

lemma Fine.bind {result : Except Stop α} {f : α → Except Stop β} {better : β → Prop}
 (h:Fine good result) (hf:∀value,good value → Fine better (f value)):
 Fine better (result >>= f):=by
 cases result with
 | ok value=>exact hf value h
 | error stop=>exact h

lemma sound_failure (code : PsdDecodeErrorCode) (detail : String):
 layout.Sound good (failure code detail):=
 ⟨fun _ hrange=>(nomatch hrange),fun h=>nomatch h⟩

lemma sound_ok {value : α} (h:good value) : layout.Sound good { result:=.ok value }:=
 ⟨fun _ hrange=>(nomatch hrange),h⟩

lemma sound_readExact {offset count : ℕ} {detail : String}
 (hoffset:layout.imageDataOffset≤offset) (hend:offset+count≤layout.source.length)
 (h:∀bytes,bytes.length=count → Fine good (next bytes)):
 layout.Sound good (readExact layout.source offset count detail next):=by
 refine ⟨fun range hrange=>?_,?_⟩
 · obtain rfl:=List.mem_singleton.mp hrange
   exact ⟨hoffset,hend⟩
 · have hslice:slice layout.source offset count=some _:=if_pos hend
   rw [readExact_slice layout.source_lt hslice]
   exact h _ (length_slice hslice).1

end Sound

lemma rowTable_fine (count : ℕ) (table : Bytes) {offset : ℕ}
 (hoffset:layout.imageDataOffset≤offset) (hsource:offset≤layout.source.length):
 Fine (fun rows=>rows.length=count ∧ layout.InSection rows)
  (layout.rowTable count table offset):=by
 induction count generalizing table offset with
 | zero=>exact ⟨rfl,fun _ hrange=>nomatch hrange⟩
 | succ count ih=>
  have hlt:=layout.source_lt
  rw [rowTable]
  split
  · exact fun h=>nomatch h
  split
  · exact fun h=>nomatch h
  split
  · exact fun h=>nomatch h
  next next hnext =>
  split
  · exact fun h=>nomatch h
  rw [checkedAdd_eq (by omega)] at hnext
  apply Fine.bind (ih _ (by omega) (by omega))
  rintro rows ⟨hlength,hinside⟩
  refine ⟨congrArg _ hlength,fun range hrange=>?_⟩
  obtain rfl | hrange:=List.mem_cons.mp hrange
  · exact ⟨hoffset,by omega⟩
  · exact hinside range hrange

lemma prepare_sound (layout : Layout) (zlib : Zlib):
 layout.Sound layout.Ready (layout.prepare zlib):=by
 have hsource:=layout.source_lt
 have hoffset:=layout.offset_le
 simp only [prepare,rowCount_eq]
 split
 next hraw =>
  rw [prepareRaw]
  split
  · exact sound_failure ..
  next last hlast =>
  split
  · exact sound_failure ..
  obtain ⟨bytes,hbytes,hlast⟩:=Option.bind_eq_some_iff.mp hlast
  obtain ⟨rfl,hlt⟩:=checkedMultiply_eq.mp hbytes
  rw [checkedAdd_eq (by omega)] at hlast
  exact sound_ok ⟨fun _=>by omega,by simp [hraw],by simp [hraw]⟩
 split
 next hrle =>
  rw [prepareRle]
  split
  · exact sound_failure ..
  split
  · exact sound_failure ..
  split
  · exact sound_failure ..
  apply sound_readExact le_rfl (by omega)
  intro table htable
  apply Fine.bind (rowTable_fine _ table (by omega) (by omega))
  intro rows hrows
  exact ⟨by simp [hrle],fun _=>hrows,by simp [hrle]⟩
 next hraw hrle =>
  rw [prepareZip]
  split
  · exact sound_failure ..
  next expected hexpected =>
  dsimp only
  split
  · exact sound_failure ..
  split
  · exact sound_failure ..
  apply sound_readExact le_rfl (by omega)
  intro compressed hcompressed
  obtain ⟨rfl,hlt⟩:=checkedMultiply_eq.mp hexpected
  split
  · exact fun h=>nomatch h
  next hinflated =>
  simp only [not_or,not_not] at hinflated
  split
  · exact ⟨fun h=>absurd h hraw,fun h=>absurd h hrle,fun _=>by
     rw [length_undoPrediction]
     omega⟩
  · exact ⟨fun h=>absurd h hraw,fun h=>absurd h hrle,fun _=>by
     dsimp only
     omega⟩

lemma read_sound {reader : RowReader} (h:layout.Ready reader) (channel row : ℕ):
 layout.Sound (fun bytes=>bytes.length=layout.rowBytes) (layout.read reader channel row):=by
 rw [read]
 split
 · exact sound_failure ..
 next hrange =>
 have hindex:channel*layout.height+row<layout.channels*layout.height:=
  layout.index_lt (by omega) (by omega)
 have hcount:=layout.rowCount_lt
 have hnext:=Nat.mul_le_mul_right layout.rowBytes (Nat.succ_le_of_lt hindex)
 rw [Nat.succ_mul] at hnext
 have hsource:=layout.source_lt
 rw [Nat.mod_eq_of_lt (by omega : channel*layout.height+row<2 ^ 64)]
 dsimp only
 have hzip (hcompression:layout.compression=.zip ∨ layout.compression=.zipPrediction):
   layout.Sound (fun bytes=>bytes.length=layout.rowBytes)
    (match slice reader.zipBytes ((channel*layout.height+row)*layout.rowBytes % 2 ^ 64)
     layout.rowBytes with
    | none=>{ result:=.error .outside }
    | some bytes=>{ result:=.ok bytes }):=by
  obtain ⟨hlength,hlt⟩:=h.zip hcompression
  rw [Nat.mod_eq_of_lt (by omega),slice,if_pos (by omega)]
  exact sound_ok (by rw [List.length_take,List.length_drop]; omega)
 split
 next hcompression => exact hzip (.inl hcompression)
 next hcompression => exact hzip (.inr hcompression)
 next hcompression =>
  have hraw:=h.raw hcompression
  rw [Nat.mod_eq_of_lt (by omega : _*layout.rowBytes<2 ^ 64),Nat.mod_eq_of_lt (by omega)]
  exact sound_readExact (by omega) (by omega) fun _ hbytes=>hbytes
 next hcompression =>
  obtain ⟨hlength,hinside⟩:=h.rle hcompression
  rw [List.getElem?_eq_getElem (by omega)]
  have hcell:=hinside _ (List.getElem_mem (by omega:
   channel*layout.height+row < reader.rows.length))
  apply sound_readExact hcell.1 hcell.2
  intro encoded hencoded
  obtain ⟨answer,hanswer,hiff⟩:=decodePackbits_spec encoded layout.rowBytes
  rw [hanswer]
  cases answer with
  | none=>exact fun h=>nomatch h
  | some bytes=>exact ((hiff bytes).mp rfl).1

end Layout

/-- The differences of a row from the second column on. -/
def differences : UInt8 → Bytes → Bytes
 | _, []=>[]
 | left, value::rest=>(value - left)::differences value rest

def predictRow : Bytes → Bytes
 | []=>[]
 | first::rest=>first::differences first rest

/-- The rows of an image, one channel after the other. -/
structure Composite (layout : Layout) where
 rows : List Bytes
 count : rows.length=layout.channels*layout.height
 row_length : ∀row∈rows,row.length=layout.rowBytes

namespace Layout
variable (layout : Layout) (zlib : Zlib)

/-- The table entry of an encoded row. -/
def rowLength (line : Bytes × Bytes) : Bytes := (leBytes layout.entrySize line.1.length).reverse

/-- The image data section is an encoding of the rows within the limits. -/
def Encodes (rows : List Bytes) : Prop:=
 match layout.compression with
 | .raw=>layout.imageData = rows.flatten
 | .rle=>∃ lines : List (Bytes × Bytes),rows = lines.map Prod.snd ∧
  lines.length ≤ maximumRleRows ∧ (∀line ∈ lines,PackBits line.1 line.2 ∧
   line.1.length < 256 ^ layout.entrySize ∧ line.1.length ≤ layout.rowBytes*2+1024) ∧
  layout.imageData = lines.flatMap layout.rowLength++lines.flatMap Prod.fst
 | .zip=>zlib.stream layout.imageData rows.flatten ∧
  rows.flatten.length+layout.imageData.length ≤ layout.maximumZipBytes
 | .zipPrediction=>zlib.stream layout.imageData (rows.flatMap predictRow) ∧
  rows.flatten.length+layout.imageData.length ≤ layout.maximumZipBytes

variable {layout zlib}

lemma length_flatten {rows : List Bytes} {width : ℕ} (h:∀row∈rows,row.length=width):
 rows.flatten.length=rows.length*width:=by
 induction rows with
 | nil=>simp
 | cons row rows ih=>
  rw [List.flatten_cons,List.length_append,h row (by simp),
   ih fun other hother=>h other (by simp [hother]),List.length_cons,Nat.succ_mul,add_comm]

lemma slice_flatten {rows : List Bytes} {width : ℕ} (h:∀row∈rows,row.length=width)
 {index : ℕ} {row : Bytes} (hrow:rows[index]?=some row):
 slice rows.flatten (index*width) width=some row:=by
 induction rows generalizing index with
 | nil=>simp at hrow
 | cons first rows ih=>
  have hfirst:first.length=width:=h first (by simp)
  rw [List.flatten_cons]
  cases index with
  | zero=>
   obtain rfl : first=row:=by simpa using hrow
   rw [Nat.zero_mul,←hfirst]
   exact slice_append [] first rows.flatten
  | succ index=>
   rw [←ih (fun other hother=>h other (by simp [hother])) (by simpa using hrow),
    Nat.succ_mul,add_comm (index*width),←hfirst,←slice_drop (by simp),List.drop_left]

lemma undoRow_predictRow (row : Bytes) : undoRow (predictRow row)=row:=by
 have hcolumns (left : UInt8) (rest : Bytes):
   undoColumns left (differences left rest)=rest:=by
  induction rest generalizing left with
  | nil=>rfl
  | cons value rest ih=>simp [differences,undoColumns,ih]
 cases row with
 | nil=>rfl
 | cons first rest=>rw [predictRow,undoRow,hcolumns]

lemma length_predictRow (row : Bytes) : (predictRow row).length=row.length:=by
 rw [←length_undoRow,undoRow_predictRow]

lemma undoPrediction_predictRow {rows : List Bytes}
 (h:∀row∈rows,row.length=layout.rowBytes):
 layout.undoPrediction rows.length (rows.flatMap predictRow)=rows.flatten:=by
 induction rows with
 | nil=>rfl
 | cons row rows ih=>
  have hlength:(predictRow row).length=layout.rowBytes:=by
   rw [length_predictRow,h row (by simp)]
  rw [List.length_cons,List.flatMap_cons,undoPrediction,←hlength,List.take_left,
   List.drop_left,undoRow_predictRow,ih fun other hother=>h other (by simp [hother]),
   List.flatten_cons]

lemma slice_imageData (offset count : ℕ) : slice layout.imageData offset count=
 slice layout.source (layout.imageDataOffset+offset) count:=
 slice_drop layout.offset_le offset count

lemma rowTable_lines (lines : List (Bytes × Bytes)) {offset : ℕ}
 (hoffset:offset≤layout.source.length)
 (hdata:layout.source.drop offset=lines.flatMap Prod.fst)
 (h:∀line∈lines,line.1≠[] ∧ line.1.length<256 ^ layout.entrySize ∧
  line.1.length≤layout.rowBytes*2+1024):
 ∃ rows : List (ℕ × ℕ),
  layout.rowTable lines.length (lines.flatMap layout.rowLength) offset=.ok rows ∧
  ∀ (index : ℕ) (line : Bytes × Bytes),lines[index]?=some line → ∃ start count : ℕ,
   rows[index]?=some (start,count) ∧ slice layout.source start count=some line.1:=by
 induction lines generalizing offset with
 | nil=>exact ⟨[],rfl,fun _ _ hline=>by simp at hline⟩
 | cons line lines ih=>
  obtain ⟨hline,hsmall,hlimit⟩:=h line (by simp)
  have hlt:=layout.source_lt
  have hwidth:=layout.rowBytes_lt
  have hcode:(layout.rowLength line).length=layout.entrySize:=by
   rw [rowLength,List.length_reverse,leBytes_length]
  have hvalue:leValue (layout.rowLength line).reverse=line.1.length:=by
   rw [rowLength,List.reverse_reverse,leValue_leBytes _ _ hsmall]
  have hend:offset+line.1.length≤layout.source.length:=by
   have hlength:=congrArg List.length hdata
   rw [List.length_drop,List.flatMap_cons,List.length_append] at hlength
   omega
  have hrest:layout.source.drop (offset+line.1.length)=lines.flatMap Prod.fst:=by
   rw [←List.drop_drop,hdata,List.flatMap_cons,List.drop_left]
  obtain ⟨rows,hrows,hcells⟩:=ih hend hrest fun other hother=>h other (by simp [hother])
  refine ⟨(offset,line.1.length)::rows,?_,fun index other hother=>?_⟩
  · rw [List.length_cons,List.flatMap_cons,rowTable,←hcode,List.take_left,List.drop_left,
     hvalue]
    rw [if_neg (by simpa using hline),if_neg (by omega),
     (checkedAdd_eq (by omega)).mpr ⟨rfl,by omega⟩]
    dsimp only
    rw [if_neg (by omega),hrows]
    rfl
  · cases index with
    | zero=>
     obtain rfl : line=other:=by simpa using hother
     refine ⟨_,_,rfl,?_⟩
     rw [←Nat.add_zero offset,←slice_drop hoffset,hdata]
     exact slice_append [] line.1 _
    | succ index=>exact hcells index other (by simpa using hother)

/-- What a reader must hold to give back the rows. -/
def Holds (layout : Layout) (reader : RowReader) (rows : List Bytes) : Prop:=
 match layout.compression with
 | .raw=>layout.imageData = rows.flatten
 | .rle=>∀ (index : ℕ) (row : Bytes),rows[index]? = some row → ∃ (start count : ℕ) (line : Bytes),
  reader.rows[index]? = some (start,count) ∧ slice layout.source start count = some line ∧
   PackBits line row
 | .zip | .zipPrediction=>reader.zipBytes = rows.flatten

lemma slice_whole : slice layout.source layout.imageDataOffset
 (layout.source.length - layout.imageDataOffset)=some layout.imageData:=by
 have hoffset:=layout.offset_le
 rw [slice,if_pos (by omega),←List.length_drop,List.take_length]
 rfl

lemma prepareZip_stream {content : Bytes} {rowCount : ℕ}
 (hcontent:content.length=rowCount*layout.rowBytes)
 (h:zlib.stream layout.imageData content ∧
  content.length+layout.imageData.length≤layout.maximumZipBytes):
 (layout.prepareZip zlib rowCount).result=.ok { zipBytes:=
  if layout.compression=.zipPrediction then layout.undoPrediction rowCount content
  else content }:=by
 have hzip:=layout.zip_lt
 have hdata:layout.imageData.length=layout.source.length - layout.imageDataOffset:=List.length_drop
 have hnonempty:=List.length_pos_iff.mpr (zlib.nonempty _ _ h.1)
 rw [prepareZip,checkedMultiply_eq.mpr ⟨rfl,by omega⟩]
 dsimp only
 rw [if_neg (by omega),if_neg (by omega),readExact_slice layout.source_lt slice_whole,
  ← hcontent,zlib.exact _ _ h.1]
 simp only [Bool.not_true,Bool.false_eq_true,ne_eq,not_true_eq_false,or_self,if_false]
 split<;>rfl

lemma prepare_encodes (composite : Composite layout)
 (h:layout.Encodes zlib composite.rows):
 ∃ reader,(layout.prepare zlib).result=.ok reader ∧ layout.Holds reader composite.rows:=by
 have hsource:=layout.source_lt
 have hoffset:=layout.offset_le
 have hflat:=length_flatten composite.row_length
 rw [composite.count] at hflat
 have hdata:layout.imageData.length=layout.source.length - layout.imageDataOffset:=List.length_drop
 simp only [prepare,rowCount_eq]
 cases hcompression:layout.compression with
 | raw=>
  simp only [Encodes,hcompression] at h
  have hlength:=congrArg List.length h
  have hproduct:=checkedMultiply_eq.mpr
   ⟨rfl,(by omega : layout.channels*layout.height*layout.rowBytes<2 ^ 64)⟩
  simp only [if_true,prepareRaw,hproduct,Option.bind_some]
  rw [(checkedAdd_eq (by omega)).mpr ⟨rfl,by omega⟩]
  dsimp only
  rw [if_neg (by omega)]
  exact ⟨_,rfl,by simpa only [Holds,hcompression]⟩
 | rle=>
  simp only [Encodes,hcompression] at h
  obtain ⟨lines,hlines,hmany,hlimits,hencoded⟩:=h
  have hcount:=composite.count
  rw [hlines,List.length_map] at hcount
  have htable:(lines.flatMap layout.rowLength).length=
    lines.length*layout.entrySize:=by
   rw [List.flatMap_def,@length_flatten _ layout.entrySize,List.length_map]
   intro code hcode
   obtain ⟨line,-,rfl⟩:=List.mem_map.mp hcode
   rw [rowLength,List.length_reverse,leBytes_length]
  have hentry:layout.entrySize≤4:=by
   rw [entrySize]
   split<;>decide
  have hlength:=congrArg List.length hencoded
  rw [List.length_append,htable] at hlength
  have hproduct:=checkedMultiply_eq.mpr
   ⟨rfl,(by omega : lines.length*layout.entrySize<2 ^ 64)⟩
  have hrest:layout.source.drop
    (layout.imageDataOffset+lines.length*layout.entrySize)=lines.flatMap Prod.fst:=by
   rw [←List.drop_drop,←htable]
   exact (congrArg _ hencoded).trans List.drop_left
  have hslice:slice layout.source layout.imageDataOffset
    (lines.length*layout.entrySize)=some (lines.flatMap layout.rowLength):=by
   rw [←Nat.add_zero layout.imageDataOffset,←slice_imageData,hencoded,←htable]
   exact slice_append [] _ _
  obtain ⟨rows,hrows,hcells⟩:=rowTable_lines lines (by omega) hrest fun line hline=>by
   obtain ⟨hpack,hsmall⟩:=hlimits line hline
   have hpos:=layout.rowBytes_pos
   have hrow:=composite.row_length line.2 (hlines ▸ List.mem_map_of_mem hline)
   refine ⟨fun hnil=>?_,hsmall⟩
   rw [hnil,packBits_nil] at hpack
   simp [hpack] at hrow
   omega
  rw [if_neg (by decide),if_pos rfl,prepareRle,←hcount,if_neg (by omega),hproduct]
  dsimp only
  rw [if_neg (by omega),readExact_slice hsource hslice,hrows]
  refine ⟨_,rfl,?_⟩
  simp only [Holds,hcompression]
  intro index row hrow
  rw [hlines,List.getElem?_map,Option.map_eq_some_iff] at hrow
  obtain ⟨line,hline,rfl⟩:=hrow
  obtain ⟨start,count,hcell,hslice⟩:=hcells index line hline
  exact ⟨start,count,line.1,hcell,hslice,(hlimits line (List.mem_of_getElem? hline)).1⟩
 | zip=>
  simp only [Encodes,hcompression] at h
  simp only [reduceCtorEq,if_false,prepareZip_stream hflat h,hcompression]
  exact ⟨_,rfl,by simp only [Holds,hcompression]⟩
 | zipPrediction=>
  simp only [Encodes,hcompression] at h
  have hlength:(composite.rows.flatMap predictRow).length=composite.rows.flatten.length:=by
   simp [List.length_flatMap,List.length_flatten,length_predictRow]
  rw [←hlength] at h hflat
  simp only [reduceCtorEq,if_false,if_true,prepareZip_stream hflat h,hcompression]
  refine ⟨_,rfl,?_⟩
  simp only [Holds,hcompression]
  rw [←composite.count,undoPrediction_predictRow composite.row_length]

lemma read_holds {reader : RowReader} {rows : List Bytes} {channel row : ℕ} {bytes : Bytes}
 (hready:layout.Ready reader) (h:layout.Holds reader rows)
 (hlength:∀row∈rows,row.length=layout.rowBytes)
 (hchannel:channel<layout.channels) (hrow:row<layout.height)
 (hbytes:rows[channel*layout.height+row]?=some bytes):
 (layout.read reader channel row).result=.ok bytes:=by
 have hindex:=layout.index_lt hchannel hrow
 have hcount:=layout.rowCount_lt
 have hnext:=Nat.mul_le_mul_right layout.rowBytes (Nat.succ_le_of_lt hindex)
 rw [Nat.succ_mul] at hnext
 have hsource:=layout.source_lt
 have hslice:=slice_flatten hlength hbytes
 rw [read,if_neg (by omega),
  Nat.mod_eq_of_lt (by omega : channel*layout.height+row<2 ^ 64)]
 dsimp only
 cases hcompression:layout.compression with
 | raw=>
  have hraw:=hready.raw hcompression
  simp only [Holds,hcompression] at h
  rw [←h,slice_imageData] at hslice
  rw [Nat.mod_eq_of_lt (by omega : _*layout.rowBytes<2 ^ 64),Nat.mod_eq_of_lt (by omega)]
  exact readExact_slice hsource hslice
 | rle=>
  simp only [Holds,hcompression] at h
  obtain ⟨start,count,line,hcell,hline,hpack⟩:=h _ _ hbytes
  obtain ⟨answer,hanswer,hiff⟩:=decodePackbits_spec line layout.rowBytes
  obtain rfl:=(hiff bytes).mpr ⟨hlength _ (List.mem_of_getElem? hbytes),hpack⟩
  rw [hcell]
  dsimp only
  rw [readExact_slice hsource hline,hanswer]
 | zip=>
  have hzip:=hready.zip (.inl hcompression)
  simp only [Holds,hcompression] at h
  dsimp only
  rw [Nat.mod_eq_of_lt (by omega),h,hslice]
 | zipPrediction=>
  have hzip:=hready.zip (.inr hcompression)
  simp only [Holds,hcompression] at h
  dsimp only
  rw [Nat.mod_eq_of_lt (by omega),h,hslice]

end Layout

theorem rows_exact (zlib : Zlib):
 (∀encoded size,∃ answer,decodePackbits encoded size=some answer ∧
  ∀row,answer=some row ↔ row.length=size ∧ PackBits encoded row) ∧
 ∀layout : Layout,layout.Sound layout.Ready (layout.prepare zlib) ∧
  (∀reader,(layout.prepare zlib).result=.ok reader → ∀channel row,
   layout.Sound (fun bytes=>bytes.length=layout.rowBytes)
    (layout.read reader channel row)) ∧
  ∀composite : Composite layout,layout.Encodes zlib composite.rows → ∃ reader,
   (layout.prepare zlib).result=.ok reader ∧ ∀channel row,channel<layout.channels →
    row<layout.height → ∃ bytes,
     composite.rows[channel*layout.height+row]?=some bytes ∧
     (layout.read reader channel row).result=.ok bytes:=by
 refine ⟨decodePackbits_spec,fun layout=>⟨layout.prepare_sound zlib,?_,?_⟩⟩
 · intro reader hreader channel row
   have hready:=(layout.prepare_sound zlib).2
   rw [hreader] at hready
   exact Layout.read_sound hready channel row
 · intro composite h
   obtain ⟨reader,hreader,hholds⟩:=Layout.prepare_encodes composite h
   have hready:=(layout.prepare_sound zlib).2
   rw [hreader] at hready
   refine ⟨reader,hreader,fun channel row hchannel hrow=>?_⟩
   have hindex:=layout.index_lt hchannel hrow
   rw [←composite.count] at hindex
   exact ⟨_,List.getElem?_eq_getElem hindex,Layout.read_holds hready hholds
    composite.row_length hchannel hrow (List.getElem?_eq_getElem hindex)⟩

/-- A stored block that holds the byte 7. -/
def storedStream : Bytes := [0x78,1,1,1,0,0xfe,0xff,7,0,8,0,8]

/-- `tinfl_decompress` as it is on this stream; every other input fails. -/
def storedZlib : Zlib where
 tinfl compressed size:=
  if compressed = storedStream ∧ size = 1 then ⟨true,12,[7]⟩ else ⟨false,0,[]⟩
 stream compressed content := compressed = storedStream ∧ content = [7]
 nonempty:=by
  rintro _ _ ⟨rfl,rfl⟩
  decide
 exact:=by
  rintro _ _ ⟨rfl,rfl⟩
  rfl

def storedLayout : Layout where
 source:=storedStream
 maximumZipBytes:=100
 largeDocument:=false
 channels:=1
 height:=1
 compression:=.zip
 imageDataOffset:=0
 rowBytes:=1
 source_lt:=by decide
 zip_lt:=by decide
 offset_le:=by decide
 channels_lt:=by decide
 height_lt:=by decide
 rowBytes_pos:=by decide
 rowBytes_lt:=by decide

theorem rows_exact_stored : ∃ reader,(storedLayout.prepare storedZlib).result=.ok reader ∧
 (storedLayout.read reader 0 0).result=.ok [7]:=by
 obtain ⟨reader,hreader,hrows⟩:=((rows_exact storedZlib).2 storedLayout).2.2
  ⟨[[7]],rfl,by decide⟩ ⟨⟨rfl,rfl⟩,by decide⟩
 obtain ⟨bytes,hbytes,hread⟩:=hrows 0 0 (by decide) (by decide)
 cases hbytes
 exact ⟨reader,hreader,hread⟩

end VoVe.PsdRows
