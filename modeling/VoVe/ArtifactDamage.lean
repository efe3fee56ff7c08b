import VoVe.ArtifactCodec
import VoVe.LinearChecksum

set_option autoImplicit false

namespace VoVe.ArtifactDamage
open ByteCodec ArtifactCodec LinearChecksum
open DurableJournal (crc32Bit)

/-- One turn of the loop in `crc32`. -/
def crcStep (value : UInt32) : UInt32 := (value >>> 8) ^^^ kCrc32Table (value &&& 0xff)

lemma low_cases (value : UInt32) : value &&& 1=0 ∨ value &&& 1=1:=by
 have hmod:(value &&& 1).toNat=value.toNat % 2:=by
  rw [UInt32.toNat_and]
  exact Nat.and_one_is_mod _
 obtain hzero | hone:=Nat.mod_two_eq_zero_or_one value.toNat
 · exact .inl (UInt32.toNat.inj (hmod.trans hzero))
 · exact .inr (UInt32.toNat.inj (hmod.trans hone))

lemma shiftRight_xor (a b shift : UInt32):
 (a ^^^ b) >>> shift=(a >>> shift) ^^^ (b >>> shift):=by
 apply UInt32.toNat.inj
 simp only [UInt32.toNat_shiftRight,UInt32.toNat_xor,Nat.shiftRight_xor_distrib]

lemma and_xor (a b mask : UInt32) : (a ^^^ b) &&& mask=(a &&& mask) ^^^ (b &&& mask):=by
 apply UInt32.toNat.inj
 simp only [UInt32.toNat_and,UInt32.toNat_xor,Nat.and_xor_distrib_right]

lemma crc32Bit_xor (a b : UInt32) : crc32Bit (a ^^^ b)=crc32Bit a ^^^ crc32Bit b:=by
 have hmask:(0xedb88320 : UInt32) &&& -((a ^^^ b) &&& 1)=
   ((0xedb88320 : UInt32) &&& -(a &&& 1)) ^^^ ((0xedb88320 : UInt32) &&& -(b &&& 1)):=by
  rw [and_xor]
  obtain ha | ha:=low_cases a
  · obtain hb | hb:=low_cases b
    · rw [ha,hb]
      decide
    · rw [ha,hb]
      decide
  · obtain hb | hb:=low_cases b
    · rw [ha,hb]
      decide
    · rw [ha,hb]
      decide
 simp only [crc32Bit]
 rw [hmask,shiftRight_xor,xor_four]

lemma iterate_xor (n : ℕ) (a b : UInt32) : Nat.iterate crc32Bit n (a ^^^ b)=
  Nat.iterate crc32Bit n a ^^^ Nat.iterate crc32Bit n b:=by
 induction n generalizing a b with
 | zero=>rfl
 | succ n ih=>exact (congrArg _ (crc32Bit_xor a b)).trans (ih _ _)

lemma kCrc32Table_xor (a b : UInt32):
 kCrc32Table (a ^^^ b)=kCrc32Table a ^^^ kCrc32Table b:=
 iterate_xor 8 a b

/-- An entry with a clear highest byte is the first one. -/
lemma kCrc32Table_high (byte : Fin 256):
 (kCrc32Table (UInt32.ofNat byte)).toNat<2 ^ 24 → byte=0:=by
 revert byte
 decide +kernel

lemma crcStep_shift : ShiftStep crcStep where
 xor a b:=by
  rw [crcStep,shiftRight_xor,and_xor,kCrc32Table_xor,xor_four]
  rfl
 low a h:=by
  have hdown:(a >>> 8).toNat=a.toNat / 2 ^ 8:=by
   rw [UInt32.toNat_shiftRight]
   exact Nat.shiftRight_eq_div_pow _ _
  have hlow:(a &&& 0xff).toNat=a.toNat % 2 ^ 8:=by
   rw [UInt32.toNat_and]
   exact Nat.and_two_pow_sub_one_eq_mod _ 8
  have hbound:=a.toNat_lt
  have hentry:(kCrc32Table (a &&& 0xff)).toNat<2 ^ 24:=by
   rw [←xor_cancel (a >>> 8) (kCrc32Table (a &&& 0xff))]
   exact xor_lt (by omega) h
  have hfirst:=kCrc32Table_high ⟨(a &&& 0xff).toNat,by omega⟩
  rw [UInt32.ofNat_toNat] at hfirst
  have hzero:(a &&& 0xff).toNat=0:=congrArg Fin.val (hfirst hentry)
  have hindex:a &&& 0xff=0:=UInt32.toNat.inj hzero
  have hstep:crcStep a=a >>> 8:=by
   rw [crcStep,hindex]
   exact UInt32.xor_zero
  rw [hstep,hdown]
  omega

lemma crc32_eq (bytes : Bytes) : crc32 bytes = ~~~absorb crcStep 0xffffffff bytes:=by
 have hstep (value : UInt32) (byte : UInt8):
   (value >>> 8) ^^^ kCrc32Table ((value ^^^ byte.toUInt32) &&& 0xff)=
    crcStep (value ^^^ byte.toUInt32):=by
  have hclear:byte.toUInt32 >>> 8=0:=by
   apply UInt32.toNat.inj
   have hbyte:=byte_lt byte
   rw [UInt32.toNat_shiftRight]
   exact (Nat.shiftRight_eq_div_pow _ _).trans (Nat.div_eq_of_lt hbyte)
  rw [crcStep,shiftRight_xor,hclear,UInt32.xor_zero]
 simp only [crc32,hstep,absorb]

lemma crc32Bit_even {a : UInt32} (h:a.toNat % 2=0) : (crc32Bit a).toNat=a.toNat / 2:=by
 have hlow:a &&& 1=0:=by
  apply UInt32.toNat.inj
  rw [UInt32.toNat_and]
  exact (Nat.and_one_is_mod _).trans h
 have hbit:crc32Bit a=a >>> 1:=by
  simp only [crc32Bit,hlow]
  exact UInt32.xor_zero
 rw [hbit,UInt32.toNat_shiftRight]
 exact Nat.shiftRight_eq_div_pow _ 1

lemma iterate_even (n : ℕ) {a : UInt32} (h:a.toNat % 2 ^ n=0):
 (Nat.iterate crc32Bit n a).toNat=a.toNat / 2 ^ n:=by
 induction n generalizing a with
 | zero=>exact (Nat.div_one _).symm
 | succ n ih=>
  have hdvd:2 ^ n*2 ∣ a.toNat:=Nat.dvd_of_mod_eq_zero (pow_succ 2 n ▸ h)
  have hhalf:=crc32Bit_even (Nat.mod_eq_zero_of_dvd (dvd_of_mul_left_dvd hdvd))
  have hrest:(crc32Bit a).toNat % 2 ^ n=0:=by
   rw [hhalf]
   exact Nat.mod_eq_zero_of_dvd ((Nat.dvd_div_iff_mul_dvd (dvd_of_mul_left_dvd hdvd)).mpr
    (mul_comm (2 ^ n) 2 ▸ hdvd))
  exact (ih hrest).trans (by rw [hhalf,Nat.div_div_eq_div_mul,pow_succ'])

/-- A table entry and a shift do eight turns of the loop over the bits. -/
lemma crcStep_iterate (value : UInt32) : crcStep value=Nat.iterate crc32Bit 8 value:=by
 have hlow:(value &&& 0xff).toNat=value.toNat % 2 ^ 8:=by
  rw [UInt32.toNat_and]
  exact Nat.and_two_pow_sub_one_eq_mod _ 8
 have hclear:(value ^^^ (value &&& 0xff)).toNat % 2 ^ 8=0:=by
  rw [UInt32.toNat_xor,hlow,Nat.xor_mod_two_pow,Nat.mod_mod,Nat.xor_self]
 have hhigh:Nat.iterate crc32Bit 8 (value ^^^ (value &&& 0xff))=value >>> 8:=by
  apply UInt32.toNat.inj
  rw [iterate_even 8 hclear,UInt32.toNat_xor,hlow,Nat.xor_div_two_pow,
   Nat.div_eq_of_lt (Nat.mod_lt _ (by decide)),Nat.xor_zero,UInt32.toNat_shiftRight]
  exact (Nat.shiftRight_eq_div_pow _ 8).symm
 rw [crcStep,←hhigh,kCrc32Table,←iterate_xor,UInt32.xor_assoc,UInt32.xor_self,UInt32.xor_zero]

lemma journal_crc32 (bytes : Bytes) : DurableJournal.crc32 bytes=crc32 bytes:=by
 rw [crc32_eq,DurableJournal.crc32,absorb]
 simp only [crcStep_iterate]

lemma crc32_burst {left right : Bytes} (start : ℕ) (hlength:left.length=right.length)
 (hwindow:∀i,left[i]?≠right[i]? → start ≤ i ∧ i<start+4)
 (hcrc:crc32 left=crc32 right) : left=right:=by
 rw [crc32_eq,crc32_eq] at hcrc
 exact absorb_burst crcStep_shift hlength hwindow (UInt32.not_inj.mp hcrc)

section Fields
variable {header : Header} {data : ArtifactData} {bytes : Bytes}

def field (bytes : Bytes) (offset width : ℕ) : Bytes := (bytes.drop offset).take width

lemma field_middle {bytes front middle : Bytes} {offset width : ℕ}
 (h:∃ back,bytes=front++(middle++back)) (hfront:front.length=offset)
 (hmiddle:middle.length=width) : field bytes offset width=middle:=by
 obtain ⟨back,rfl⟩:=h
 rw [field,←hfront,List.drop_left,←hmiddle,List.take_left]

lemma appendInteger_inj {α : Type} [WireInteger α] {a b : α}
 (h:appendInteger a=appendInteger b) : a=b:=by
 have hread:=Reader.readInteger_append a []
 rw [h,Reader.readInteger_append] at hread
 exact (congrArg Prod.fst (Option.some.inj hread)).symm

/-- The fields of the header that the checks of an artifact depend on. -/
structure HeaderFields (header:Header) (bytes : Bytes) : Prop where
 headerBytes : field bytes 6 2=appendInteger header.headerBytes
 headerCrc32 : field bytes 28 4=appendInteger header.headerCrc32
 profileNameBytes : field bytes 64 2=appendInteger header.profileNameBytes
 profileFingerprintBytes : field bytes 66 2=appendInteger header.profileFingerprintBytes

lemma accepted_fields (h:Accepted header data bytes) : HeaderFields header bytes:=by
 have hfront:=front_length header
 have hmagic:=header.magic.length_eq
 have hdigest:=header.cacheKeyDigest.length_eq
 rw [h.layout]
 constructor
 · apply @field_middle _ (header.magic.bytes++appendInteger header.version)
   · simp only [Header.bytes,Header.front,List.append_assoc]
     exact ⟨_,rfl⟩
   · rw [List.length_append,appendInteger_length,hmagic]
     rfl
   · exact appendInteger_length _
 · apply @field_middle _ header.front
   · simp only [Header.bytes,List.append_assoc]
     exact ⟨_,rfl⟩
   · exact hfront
   · exact appendInteger_length _
 · apply @field_middle _ (header.front++(appendInteger header.headerCrc32 ++
    header.cacheKeyDigest.bytes))
   · simp only [Header.bytes,Header.back,List.append_assoc]
     exact ⟨_,rfl⟩
   · rw [List.length_append,List.length_append,appendInteger_length,hfront,hdigest]
     rfl
   · exact appendInteger_length _
 · apply @field_middle _ (header.front++(appendInteger header.headerCrc32 ++
    (header.cacheKeyDigest.bytes++appendInteger header.profileNameBytes)))
   · simp only [Header.bytes,Header.back,List.append_assoc]
     exact ⟨_,rfl⟩
   · simp only [List.length_append,appendInteger_length,hfront,hdigest]
     rfl
   · exact appendInteger_length _

lemma accepted_header (h:Accepted header data bytes):
 crc32 (checkedHeader (bytes.take (encodedHeaderBytes data.colorIdentity)))=
  header.headerCrc32:=by
 rw [h.layout,take_header,checkedHeader_append,h.headerCrc]

lemma accepted_payload (h:Accepted header data bytes):
 crc32 (bytes.drop (encodedHeaderBytes data.colorIdentity))=header.payloadCrc32:=by
 have hmetadata:=(metadataOf_eq_some.mp h.metadata).2.2.2.2.2.2.2.1
 rw [h.layout,drop_header,h.payloadCrc,hmetadata]

end Fields

section Damage
variable {header header' : Header} {data data' : ArtifactData} {bytes d damaged : Bytes}

/-- The damage reaches a byte of the range. -/
def Touches (bytes damaged : Bytes) (first last : ℕ) : Prop:=
 ∃ i,first ≤ i ∧ i < last ∧ bytes[i]?≠damaged[i]?

/-- Some of at most four consecutive bytes have other values. -/
structure Burst (bytes damaged : Bytes) : Prop where
 length : damaged.length=bytes.length
 changed : damaged≠bytes
 window : ∃ start,∀i,bytes[i]?≠damaged[i]? → start ≤ i ∧ i<start+4

/-- The damage reaches the checksum of the header and something else in the header. -/
def HidesItself (bytes damaged : Bytes) (headerBytes:ℕ) : Prop:=
 Touches bytes damaged 28 32 ∧ (Touches bytes damaged 0 28 ∨ Touches bytes damaged 32 headerBytes)

lemma same_of_untouched {first last : ℕ} (h:¬Touches bytes d first last) {i : ℕ}
 (hfirst:first ≤ i) (hlast:i<last) : bytes[i]?=d[i]?:=by
 by_contra hdiffers
 exact h ⟨i,hfirst,hlast,hdiffers⟩

lemma field_untouched (offset width : ℕ) (h:¬Touches bytes d offset (offset+width)):
 field bytes offset width=field d offset width:=by
 apply List.ext_getElem?
 intro i
 rw [field,field,List.getElem?_take,List.getElem?_take]
 split
 · rw [List.getElem?_drop,List.getElem?_drop]
   exact same_of_untouched h (by omega) (by omega)
 · rfl

lemma take_eq_parts {size : ℕ} (bytes : Bytes) (hsize:32 ≤ size) : bytes.take size=
 field bytes 0 28++(field bytes 28 4++field bytes 32 (size - 32)):=by
 have hrest:bytes.take size=bytes.take 28++(bytes.drop 28).take (size - 28):=by
  rw [←List.take_add]
  congr
  omega
 have hsplit:size - 28=4+(size - 32):=by omega
 rw [hrest,hsplit,List.take_add,List.drop_drop]
 rfl

lemma checkedHeader_parts {size : ℕ} (bytes : Bytes) (hsize:32 ≤ size):
 checkedHeader (bytes.take size)=
  field bytes 0 28++(appendInteger (0 : UInt32)++field bytes 32 (size - 32)):=by
 rw [checkedHeader,List.take_take,List.drop_take,Nat.min_eq_left (by omega)]
 rfl

lemma checkedHeader_getElem? {size : ℕ} (text : Bytes) (hsize:32 ≤ size)
 (hlength:size≤text.length) (i : ℕ) : (checkedHeader (text.take size))[i]? =
  if i<28 then text[i]?
  else if i<32 then (appendInteger (0 : UInt32))[i - 28]?
  else (text.take size)[i]?:=by
 have hfront:(field text 0 28).length=28:=by
  simp only [field,List.drop_zero,List.length_take]
  omega
 have hslot:(appendInteger (0 : UInt32)).length=4:=appendInteger_length _
 rw [checkedHeader_parts _ hsize,List.getElem?_append,List.getElem?_append,hfront,hslot]
 split
 · simp only [field,List.drop_zero,List.getElem?_take]
   rw [if_pos (by assumption)]
 · by_cases hi:i<32
   · rw [if_pos (by omega),if_pos hi]
   · rw [if_neg (by omega),if_neg hi]
     have hback:32+(i - 28 - 4)=i:=by omega
     simp only [field,List.getElem?_take,List.getElem?_drop,hback]
     congr 1
     exact propext (by omega)

section
variable (h:Accepted header data bytes)
include h

lemma header_undamaged (h':Accepted header' data' d)
 (hburst:Burst bytes d)
 (hsize:encodedHeaderBytes data'.colorIdentity=encodedHeaderBytes data.colorIdentity)
 (hclear:¬HidesItself bytes d (encodedHeaderBytes data.colorIdentity)):
 bytes.take (encodedHeaderBytes data.colorIdentity)=
  d.take (encodedHeaderBytes data.colorIdentity):=by
 have hlength:=h.length
 have hlength':=h'.length
 have hleast:32≤encodedHeaderBytes data.colorIdentity:=by
  simp only [encodedHeaderBytes,kVvt1HeaderBytes]
  omega
 have hcrc:=accepted_header h
 have hcrc':=accepted_header h'
 rw [hsize] at hcrc' hlength'
 generalize encodedHeaderBytes data.colorIdentity=size at *
 have hparts:field bytes 0 28=field d 0 28 ∧ field bytes 28 4=field d 28 4 ∧
   field bytes 32 (size - 32)=field d 32 (size - 32):=by
  by_cases htouched:Touches bytes d 28 32
  · have hrest:=not_or.mp fun hrest=>hclear ⟨htouched,hrest⟩
    have hfront:=field_untouched 0 28 hrest.1
    have hback:field bytes 32 (size - 32)=field d 32 (size - 32):=by
     apply field_untouched 32 (size - 32)
     rw [Nat.add_sub_cancel' hleast]
     exact hrest.2
    rw [checkedHeader_parts _ hleast,hfront,hback,←checkedHeader_parts _ hleast, hcrc'] at hcrc
    refine ⟨hfront,?_,hback⟩
    rw [(accepted_fields h).headerCrc32,(accepted_fields h').headerCrc32,hcrc]
  · have hmiddle:=field_untouched 28 4 htouched
    have hstored:header.headerCrc32=header'.headerCrc32:=by
     apply appendInteger_inj
     rw [←(accepted_fields h).headerCrc32,←(accepted_fields h').headerCrc32,hmiddle]
    obtain ⟨start,hwindow⟩:=hburst.window
    have hchecked:=crc32_burst start (by simp [checkedHeader,hburst.length])
     (fun i hdiffers=>hwindow i fun hsame=>hdiffers (by
      rw [checkedHeader_getElem? _ hleast (by omega),
       checkedHeader_getElem? _ hleast (by omega),List.getElem?_take,List.getElem?_take,
       hsame]))
     (hcrc.trans (hstored.trans hcrc'.symm))
    rw [checkedHeader_parts _ hleast,checkedHeader_parts _ hleast] at hchecked
    have hfront:=List.append_inj hchecked (by simp [field,hburst.length])
    exact ⟨hfront.1,hmiddle,(List.append_inj hfront.2 rfl).2⟩
 rw [take_eq_parts _ hleast,take_eq_parts _ hleast,hparts.1,hparts.2.1,hparts.2.2]

lemma size_undamaged (h':Accepted header' data' d)
 (hburst:Burst bytes d):
 encodedHeaderBytes data'.colorIdentity=encodedHeaderBytes data.colorIdentity:=by
 by_cases htouched:Touches bytes d 6 8
 · -- the lengths of the texts are out of the reach of the damage
   obtain ⟨i,-,hi,hdiffers⟩:=htouched
   obtain ⟨start,hwindow⟩:=hburst.window
   have hstart:=(hwindow i hdiffers).1
   have hfar {first last : ℕ} (hfirst:12≤first) : ¬Touches bytes d first last:=by
    intro ⟨j,hj,_,hother⟩
    have hnear:=hwindow j hother
    omega
   have hname:=field_untouched 64 2 (hfar (by decide))
   have hfingerprint:=field_untouched 66 2 (hfar (by decide))
   rw [(accepted_fields h).profileNameBytes,(accepted_fields h').profileNameBytes] at hname
   rw [(accepted_fields h).profileFingerprintBytes,
    (accepted_fields h').profileFingerprintBytes] at hfingerprint
   rw [encodedHeaderBytes,encodedHeaderBytes,←h.nameBytes,←h'.nameBytes,
    ← h.fingerprintBytes,←h'.fingerprintBytes,appendInteger_inj hname,
    appendInteger_inj hfingerprint]
 · have hbytes:=field_untouched 6 2 htouched
   rw [(accepted_fields h).headerBytes,(accepted_fields h').headerBytes] at hbytes
   rw [←h.headerBytes,←h'.headerBytes,appendInteger_inj hbytes]

lemma header_same (h':Accepted header' data' d)
 (hsize:encodedHeaderBytes data'.colorIdentity=encodedHeaderBytes data.colorIdentity)
 (htake:bytes.take (encodedHeaderBytes data.colorIdentity)=
  d.take (encodedHeaderBytes data.colorIdentity)) : header=header':=by
 rw [h.layout,take_header] at htake
 rw [←hsize,h'.layout,take_header] at htake
 have hread:=readHeader_append header (profileTexts data.colorIdentity)
 rw [htake,readHeader_append] at hread
 exact (congrArg Prod.fst (Option.some.inj hread)).symm

lemma undamaged (h':Accepted header' data' d)
 (hburst:Burst bytes d)
 (hclear:¬HidesItself bytes d (encodedHeaderBytes data.colorIdentity)) : False:=by
 have hsize:=size_undamaged h h' hburst
 have htake:=header_undamaged h h' hburst hsize hclear
 have hheader:=header_same h h' hsize htake
 have hpayload:=accepted_payload h
 have hpayload':=accepted_payload h'
 rw [hsize,←hheader,←hpayload] at hpayload'
 obtain ⟨start,hwindow⟩:=hburst.window
 have hdrop:=crc32_burst (start - encodedHeaderBytes data.colorIdentity)
  (by simp [hburst.length]) (fun i hdiffers=>by
   rw [List.getElem?_drop,List.getElem?_drop] at hdiffers
   have hnear:=hwindow _ hdiffers.symm
   omega) hpayload'
 apply hburst.changed
 rw [←List.take_append_drop (encodedHeaderBytes data.colorIdentity) d,←htake,hdrop,
  List.take_append_drop]

end

/-- An artifact with a damage within four bytes is rejected, unless the damage reaches both the
  checksum of the header and what it protects; one with a single other byte is rejected. -/
theorem damage_rejected (h:decodeVvt1 bytes=.ok data) : (∀damaged,Burst bytes damaged →
  ¬HidesItself bytes damaged (encodedHeaderBytes data.colorIdentity) →
  ∃ error,decodeVvt1 damaged=.error error) ∧
 ∀i byte,bytes.set i byte≠bytes → ∃ error,decodeVvt1 (bytes.set i byte)=.error error:=by
 obtain ⟨header,haccepted⟩:=accepted_of_decoded h
 have hrejected (damaged : Bytes) (hburst:Burst bytes damaged)
   (hclear:¬HidesItself bytes damaged (encodedHeaderBytes data.colorIdentity)):
   ∃ error,decodeVvt1 damaged=.error error:=by
  cases hdecoded:decodeVvt1 damaged with
  | error error=>exact ⟨error,rfl⟩
  | ok data'=>
   obtain ⟨header',haccepted'⟩:=accepted_of_decoded hdecoded
   exact (undamaged haccepted haccepted' hburst hclear).elim
 refine ⟨hrejected,fun i byte hchanged=>hrejected _ ⟨List.length_set,hchanged,i,?_⟩ ?_⟩
 · intro j hdiffers
   by_cases hj:i=j
   · omega
   · exact absurd (List.getElem?_set_ne hj).symm hdiffers
 · intro ⟨⟨j,hj,hj',hdiffers⟩,hother⟩
   have hself {k : ℕ} (hk:bytes[k]?≠(bytes.set i byte)[k]?) : k=i:=by
    by_contra hne
    exact hk (List.getElem?_set_ne (Ne.symm hne)).symm
   have hplace:=hself hdiffers
   obtain ⟨k,hk,hk',hother⟩ | ⟨k,hk,hk',hother⟩:=hother
   · have hsame:=hself hother
     omega
   · have hsame:=hself hother
     omega

/-- An artifact whose width says three in place of one. -/
theorem damage_rejected_width : ∃ error,decodeVvt1 (wideEncoding.set 12 3)=.error error:=
 (damage_rejected wideEncoding_accepted).2 12 3 (by decide +kernel)

end Damage

section Journal
open DurableJournal (inspectEnvelope kEnvelopeHeaderBytes kEnvelopeMagic makeEnvelope readU32Le
 kDurableJournalSchemaVersion)
variable {maximumPayloadBytes : ℕ} {bytes damaged payload : Bytes}

/-- What holds of a journal file that is not reported corrupt. -/
structure Intact (bytes : Bytes) : Prop where
 magic : kEnvelopeMagic <+: bytes
 version : readU32Le bytes 8=kDurableJournalSchemaVersion
 length : bytes.length=kEnvelopeHeaderBytes+(readU32Le bytes 12).toNat
 crc : crc32 (bytes.drop kEnvelopeHeaderBytes)=readU32Le bytes 16

lemma inspect_cases (maximumPayloadBytes : ℕ) (bytes : Bytes):
 inspectEnvelope maximumPayloadBytes bytes={ status:=.corrupt } ∨ Intact bytes:=by
 unfold inspectEnvelope
 split_ifs with hheader hversion
 · exact .inl rfl
 · exact .inl rfl
 · dsimp only
   split_ifs with hsize hcrc
   · exact .inl rfl
   · exact .inl rfl
   · simp only [not_or,not_not] at hheader hversion hsize hcrc
     have hall:(bytes.drop kEnvelopeHeaderBytes).length=(readU32Le bytes 12).toNat:=by
      rw [List.length_drop,hsize.2]
      omega
     rw [←hall,List.take_length,journal_crc32] at hcrc
     exact .inr ⟨hheader.2,hversion,hsize.2,hcrc⟩

lemma intact_makeEnvelope (hsize:payload.length<2 ^ 32) : Intact (makeEnvelope payload) where
 magic:=List.prefix_append _ _
 version:=DurableJournal.readU32Le_append _ _ _ _ rfl
 length:=by rw [DurableJournal.makeEnvelope_length,DurableJournal.makeEnvelope_size payload hsize]
 crc:=by
  rw [DurableJournal.makeEnvelope_drop,DurableJournal.makeEnvelope_crc32,journal_crc32]

lemma field_of_read {offset : ℕ} (hlength:damaged.length=bytes.length)
 (hlong:offset+4 ≤ bytes.length) (h:readU32Le damaged offset=readU32Le bytes offset):
 field damaged offset 4=field bytes offset 4:=by
 have hfour:(field bytes offset 4).length=4:=by simp [field]; omega
 have hfour':(field damaged offset 4).length=4:=by simp [field]; omega
 have hlt:=leValue_lt (field bytes offset 4)
 have hlt':=leValue_lt (field damaged offset 4)
 rw [hfour] at hlt
 rw [hfour'] at hlt'
 have hvalue:leValue (field damaged offset 4)=leValue (field bytes offset 4):=by
  have hnat:=congrArg UInt32.toNat h
  change (UInt32.ofNat (leValue (field damaged offset 4))).toNat=
   (UInt32.ofNat (leValue (field bytes offset 4))).toNat at hnat
  rwa [UInt32.toNat_ofNat_of_lt' hlt',UInt32.toNat_ofNat_of_lt' hlt] at hnat
 rw [←leBytes_leValue (field damaged offset 4),←leBytes_leValue (field bytes offset 4),hfour,
  hfour',hvalue]

lemma take_fields (bytes : Bytes) : bytes.take kEnvelopeHeaderBytes=bytes.take 8 ++
 (field bytes 8 4++(field bytes 12 4++field bytes 16 4)):=by
 simp only [field,kEnvelopeHeaderBytes]
 rw [show 16=12+4 from rfl,←List.drop_drop,←List.take_add,show 12=8+4 from rfl,←List.drop_drop,
  ←List.take_add,←List.take_add]

/-- A journal file with a damage within four bytes is reported corrupt, unless the damage reaches
both the header and the payload. -/
theorem journal_damage_found (maximumPayloadBytes : ℕ) (hsize:payload.length<2 ^ 32)
 (hburst:Burst (makeEnvelope payload) damaged)
 (hclear:damaged.take kEnvelopeHeaderBytes=(makeEnvelope payload).take kEnvelopeHeaderBytes ∨
  damaged.drop kEnvelopeHeaderBytes=(makeEnvelope payload).drop kEnvelopeHeaderBytes):
 inspectEnvelope maximumPayloadBytes damaged={ status:=.corrupt }:=by
 refine (inspect_cases maximumPayloadBytes damaged).resolve_right fun hdamaged=>hburst.changed ?_
 have hintact:=intact_makeEnvelope hsize
 have hlong:=hintact.length
 simp only [kEnvelopeHeaderBytes] at hlong
 rw [←List.take_append_drop kEnvelopeHeaderBytes damaged,
  ←List.take_append_drop kEnvelopeHeaderBytes (makeEnvelope payload)]
 obtain htake | hdrop:=hclear
 · have hfield (bytes : Bytes) : field bytes 16 4=(bytes.take kEnvelopeHeaderBytes).drop 16:=by
    rw [field,List.drop_take]
    rfl
   have hread:readU32Le damaged 16=readU32Le (makeEnvelope payload) 16:=by
    have hsame:field damaged 16 4=field (makeEnvelope payload) 16 4:=by
     rw [hfield,hfield,htake]
    exact congrArg (fun bytes=>UInt32.ofNat (leValue bytes)) hsame
   have hcrc:=hdamaged.crc.trans (hread.trans hintact.crc.symm)
   obtain ⟨start,hwindow⟩:=hburst.window
   rw [htake,crc32_burst (start - kEnvelopeHeaderBytes) (by simp [hburst.length]) ?_ hcrc]
   intro i hdiffers
   rw [List.getElem?_drop,List.getElem?_drop] at hdiffers
   have hnear:=hwindow _ hdiffers.symm
   omega
 · have hmagic {bytes : Bytes} (h:Intact bytes) : bytes.take 8=kEnvelopeMagic:=
    (List.prefix_iff_eq_take.mp h.magic).symm
   have hlength:=hdamaged.length
   rw [hburst.length,hintact.length] at hlength
   have hcount:=UInt32.toNat.inj (Nat.add_left_cancel hlength.symm)
   have hcrc:=hdamaged.crc.symm.trans ((congrArg crc32 hdrop).trans hintact.crc)
   have hversion:=hdamaged.version.trans hintact.version.symm
   rw [hdrop,take_fields,take_fields,hmagic hdamaged,hmagic hintact,
    field_of_read hburst.length (by omega) hversion,field_of_read hburst.length (by omega) hcount,
    field_of_read hburst.length (by omega) hcrc]

/-- The one byte of the payload is another. -/
theorem journal_damage_found_byte:
 inspectEnvelope 1 ((makeEnvelope [7]).set 20 8)={ status:=.corrupt }:=by
 refine journal_damage_found 1 (by decide) ⟨List.length_set,by decide,20,?_⟩
  (.inl (List.take_set_of_le (le_refl 20)))
 intro j hdiffers
 by_cases hj:20=j
 · omega
 · exact absurd (List.getElem?_set_ne hj).symm hdiffers

end Journal

end VoVe.ArtifactDamage
