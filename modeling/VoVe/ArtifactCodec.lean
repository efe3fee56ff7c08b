import VoVe.CacheKeys
import VoVe.DurableJournal

set_option autoImplicit false

/-! The VVT1 artifact of `artifact_store.cpp`: what is encoded, and what of it the
  decoder takes back. -/

namespace VoVe.ArtifactCodec
open ByteCodec AsciiText Checks
open DurableJournal (crc32Bit)

def kVvt1Version : UInt16 := 5
def kVvt1HeaderBytes : ℕ := 72
def kMaxArtifactDimension : UInt32 := 2048
def kMaxArtifactBytes : ℕ := 24*1024*1024
def kMaxArtifactPageCount : UInt32 := 1000000
def kMaxSourceProfileNameBytes : ℕ := 256
def kMaxSourceProfileFingerprintBytes : ℕ := 128
def kMagic : FixedBytes 4 := ⟨[0x56,0x56,0x54,0x31],rfl⟩

abbrev CacheDigest := FixedBytes 32

inductive ArtifactEncoding where
 | qoiRgba8
 deriving DecidableEq

/-- The enumeration has one byte and one enumerator. -/
def ArtifactEncoding.ofCode (code : UInt8) : Option ArtifactEncoding:=
 if code = 1 then some .qoiRgba8 else none

def ArtifactEncoding.code : ArtifactEncoding → UInt16
 | .qoiRgba8=>1

inductive ColorModel where
 | unknown
 | gray
 | rgb
 | cmyk
 | lab
 | mixed
 | indexed
 deriving DecidableEq

instance : WireEnum ColorModel where
 values:=[.unknown,.gray,.rgb,.cmyk,.lab,.mixed,.indexed]
 complete a := by cases a<;>decide
 small:=by decide

inductive PreviewProvenance where
 | primaryRender
 | embeddedPreview
 deriving DecidableEq

instance : WireEnum PreviewProvenance where
 values:=[.primaryRender,.embeddedPreview]
 complete a := by cases a<;>decide
 small:=by decide

structure ArtifactMetadata where
 encoding : ArtifactEncoding := .qoiRgba8
 width : UInt32 := 0
 height : UInt32 := 0
 payloadBytes : UInt32 := 0
 payloadCrc32 : UInt32 := 0
 pageCount : UInt32 := 1
 sourceColorModel : ColorModel := .unknown
 provenance : PreviewProvenance := .primaryRender
 deriving DecidableEq

structure ArtifactColorIdentity where
 sourceProfileName : Bytes := []
 sourceProfileFingerprint : Bytes := []
 deriving DecidableEq

structure ArtifactData where
 metadata : ArtifactMetadata
 cacheKeyDigest : CacheDigest
 colorIdentity : ArtifactColorIdentity
 payload : Bytes
 deriving DecidableEq

structure EncodedArtifact where
 bytes : Bytes
 metadata : ArtifactMetadata
 cacheKeyDigest : CacheDigest
 colorIdentity : ArtifactColorIdentity
 deriving DecidableEq

inductive StoreErrorCode where
 | none
 | invalidArgument
 | ioError
 | artifactTooLarge
 | invalidArtifact
 deriving DecidableEq

structure StoreError where
 code : StoreErrorCode := .none
 message : Bytes := []
 deriving DecidableEq

def invalidArtifact (message : String) : StoreError := ⟨.invalidArtifact,utf8 message⟩
def invalidArgument (message : String) : StoreError := ⟨.invalidArgument,utf8 message⟩

/-- The table the compiler computes, at one index. -/
def kCrc32Table (index : UInt32) : UInt32 := Nat.iterate crc32Bit 8 index

def crc32 (bytes : Bytes) : UInt32:=
 ~~~(bytes.foldl (fun value byte =>
  (value >>> 8) ^^^ kCrc32Table ((value ^^^ byte.toUInt32) &&& 0xff)) 0xffffffff)

/-- This check refuses a NUL and the lead bytes that no text needs. -/
def validProfileText : Bytes → Bool
 | []=>true
 | first::rest=>
  if first ≤ 0x7f then decide (first≠0) && validProfileText rest
  else if 0xc2 ≤ first ∧ first ≤ 0xdf then
   match rest with
   | c₁::tail=>
    continuationByte c₁ && validCodePoint 1 (appendBits (first &&& 0x1f).toUInt32 c₁) &&
     validProfileText tail
   | _=>false
  else if 0xe0 ≤ first ∧ first ≤ 0xef then
   match rest with
   | c₁::c₂::tail=>
    continuationByte c₁ && continuationByte c₂ &&
     validCodePoint 2 (appendBits (appendBits (first &&& 0x0f).toUInt32 c₁) c₂) &&
     validProfileText tail
   | _=>false
  else if 0xf0 ≤ first ∧ first ≤ 0xf4 then
   match rest with
   | c₁::c₂::c₃::tail=>
    continuationByte c₁ && continuationByte c₂ && continuationByte c₃ && validCodePoint 3
      (appendBits (appendBits (appendBits (first &&& 0x07).toUInt32 c₁) c₂) c₃) &&
     validProfileText tail
   | _=>false
  else false

def validColorIdentity (identity : ArtifactColorIdentity) : Bool:=
 identity.sourceProfileName.length ≤ kMaxSourceProfileNameBytes ∧
  identity.sourceProfileFingerprint.length ≤ kMaxSourceProfileFingerprintBytes ∧
  validProfileText identity.sourceProfileName ∧ validProfileText identity.sourceProfileFingerprint

/-- The fields of the first 72 bytes, as they stand there. -/
structure Header where
 magic : FixedBytes 4 := kMagic
 version : UInt16 := kVvt1Version
 headerBytes : UInt16
 encoding : UInt16
 sourceColorModel : UInt8
 provenance : UInt8
 width : UInt32
 height : UInt32
 payloadBytes : UInt32
 payloadCrc32 : UInt32
 headerCrc32 : UInt32
 cacheKeyDigest : CacheDigest
 profileNameBytes : UInt16
 profileFingerprintBytes : UInt16
 pageCount : UInt32

variable (header:Header)

/-- What stands before the checksum of the header, and what stands after it. -/
def Header.front : Bytes:=
 header.magic.bytes++(appendInteger header.version++(appendInteger header.headerBytes ++
  (appendInteger header.encoding++(appendInteger header.sourceColorModel ++
  (appendInteger header.provenance++(appendInteger header.width ++
  (appendInteger header.height++(appendInteger header.payloadBytes ++
  appendInteger header.payloadCrc32))))))))

def Header.back : Bytes:=
 header.cacheKeyDigest.bytes++(appendInteger header.profileNameBytes ++
  (appendInteger header.profileFingerprintBytes++appendInteger header.pageCount))

def Header.bytes : Bytes := header.front++(appendInteger header.headerCrc32++header.back)

/-- The reads at the offsets 0, 4, 6, 8, 10, 11, 12, 16, 20, 24, 28, 32, 64, 66 and 68. -/
def readHeader : Reader Header := do
 let magic ← Reader.readFixed 4
 let version ← Reader.readInteger UInt16
 let headerBytes ← Reader.readInteger UInt16
 let encoding ← Reader.readInteger UInt16
 let sourceColorModel ← Reader.readInteger UInt8
 let provenance ← Reader.readInteger UInt8
 let width ← Reader.readInteger UInt32
 let height ← Reader.readInteger UInt32
 let payloadBytes ← Reader.readInteger UInt32
 let payloadCrc32 ← Reader.readInteger UInt32
 let headerCrc32 ← Reader.readInteger UInt32
 let cacheKeyDigest ← Reader.readFixed 32
 let profileNameBytes ← Reader.readInteger UInt16
 let profileFingerprintBytes ← Reader.readInteger UInt16
 let pageCount ← Reader.readInteger UInt32
 pure { magic:=magic,version:=version,headerBytes:=headerBytes,encoding:=encoding,
        sourceColorModel:=sourceColorModel,provenance := provenance,width := width,
        height:=height,payloadBytes := payloadBytes,payloadCrc32 := payloadCrc32,
        headerCrc32:=headerCrc32,cacheKeyDigest := cacheKeyDigest,
        profileNameBytes:=profileNameBytes,
        profileFingerprintBytes:=profileFingerprintBytes,pageCount := pageCount }

def dimensionsValid (width height pageCount : UInt32) : Bool:=
 width≠0 ∧ height≠0 ∧ width ≤ kMaxArtifactDimension ∧ height ≤ kMaxArtifactDimension ∧
  pageCount≠0 ∧ pageCount ≤ kMaxArtifactPageCount

/-- The sixteen bits of the encoding are cast to an enumeration of eight. -/
def metadataOf : Option ArtifactMetadata := do
 let encoding ← ArtifactEncoding.ofCode header.encoding.toUInt8
 let sourceColorModel ← enumOfCode header.sourceColorModel
 let provenance ← enumOfCode header.provenance
 if dimensionsValid header.width header.height header.pageCount then
  some { encoding:=encoding,width:=header.width,height:=header.height,
         payloadBytes:=header.payloadBytes,payloadCrc32 := header.payloadCrc32,
         pageCount:=header.pageCount,sourceColorModel := sourceColorModel,
         provenance:=provenance }
 else none

/-- The header with its own checksum set to zero. -/
def checkedHeader (header:Bytes) : Bytes:=
 header.take 28++(appendInteger (0 : UInt32)++header.drop 32)

def decodeVvt1 (bytes : Bytes) : Except StoreError ArtifactData := do
 let sizeError:=invalidArtifact "artifact size is outside limits"
 require (kVvt1HeaderBytes ≤ bytes.length ∧ bytes.length ≤ kMaxArtifactBytes) sizeError
 let (header,body) ← found (readHeader.run bytes) sizeError
 require (header.magic = kMagic) (invalidArtifact "artifact magic is invalid")
 let headerBytes:=header.headerBytes.toNat
 let nameBytes:=header.profileNameBytes.toNat
 let fingerprintBytes:=header.profileFingerprintBytes.toNat
 require (header.version = kVvt1Version ∧ kVvt1HeaderBytes ≤ headerBytes ∧
   headerBytes ≤ bytes.length) (invalidArtifact "artifact version is unsupported")
 require (nameBytes ≤ kMaxSourceProfileNameBytes ∧
   fingerprintBytes ≤ kMaxSourceProfileFingerprintBytes ∧
   headerBytes = kVvt1HeaderBytes+nameBytes+fingerprintBytes)
  (invalidArtifact "artifact color identity length is invalid")
 require (crc32 (checkedHeader (bytes.take headerBytes)) = header.headerCrc32)
  (invalidArtifact "artifact header checksum is invalid")
 let metadata ← found (metadataOf header) (invalidArtifact "artifact header fields are invalid")
 require (metadata.payloadBytes.toNat ≤ kMaxArtifactBytes - headerBytes ∧
   bytes.length = headerBytes+metadata.payloadBytes.toNat)
  (invalidArtifact "artifact payload length is invalid")
 let colorIdentity : ArtifactColorIdentity:=
  { sourceProfileName:=body.take nameBytes
    sourceProfileFingerprint:=(body.drop nameBytes).take fingerprintBytes }
 require (validColorIdentity colorIdentity)
  (invalidArtifact "artifact color identity is invalid UTF-8")
 let payload:=(bytes.drop headerBytes).take metadata.payloadBytes.toNat
 require (crc32 payload = metadata.payloadCrc32)
  (invalidArtifact "artifact payload checksum is invalid")
 pure { metadata:=metadata,cacheKeyDigest:=header.cacheKeyDigest,
        colorIdentity:=colorIdentity,payload := payload }

variable (colorIdentity : ArtifactColorIdentity)

def encodedHeaderBytes : ℕ:=
 kVvt1HeaderBytes+colorIdentity.sourceProfileName.length +
  colorIdentity.sourceProfileFingerprint.length

variable (metadata : ArtifactMetadata)

/-- The header of an artifact, with a checksum of its own to be filled in. -/
def headerOf (cacheKeyDigest : CacheDigest)
  (colorIdentity : ArtifactColorIdentity) (headerCrc32:UInt32) : Header where
 headerBytes:=UInt16.ofNat (encodedHeaderBytes colorIdentity)
 encoding:=metadata.encoding.code
 sourceColorModel:=enumCode metadata.sourceColorModel
 provenance:=enumCode metadata.provenance
 width:=metadata.width
 height:=metadata.height
 payloadBytes:=metadata.payloadBytes
 payloadCrc32:=metadata.payloadCrc32
 headerCrc32:=headerCrc32
 cacheKeyDigest:=cacheKeyDigest
 profileNameBytes:=UInt16.ofNat colorIdentity.sourceProfileName.length
 profileFingerprintBytes:=UInt16.ofNat colorIdentity.sourceProfileFingerprint.length
 pageCount:=metadata.pageCount

def profileTexts : Bytes := colorIdentity.sourceProfileName++colorIdentity.sourceProfileFingerprint

variable (payload : Bytes)

def measured : ArtifactMetadata:=
 { metadata with payloadBytes:=UInt32.ofNat payload.length,payloadCrc32:=crc32 payload }

/-- The checksum of the header is taken while its own slot is zero. -/
def encodedBytes (cacheKeyDigest : CacheDigest)
  (colorIdentity : ArtifactColorIdentity) : Bytes:=
 let unsigned:=(headerOf metadata cacheKeyDigest colorIdentity 0).bytes ++
  profileTexts colorIdentity
 (headerOf metadata cacheKeyDigest colorIdentity (crc32 unsigned)).bytes ++
  (profileTexts colorIdentity++payload)

def encodeVvt1 (cacheKeyDigest : CacheDigest)
  (colorIdentity : ArtifactColorIdentity) : Except StoreError EncodedArtifact := do
 require (dimensionsValid metadata.width metadata.height metadata.pageCount)
  (invalidArgument "artifact dimensions or encoding are invalid")
 require (validColorIdentity colorIdentity)
  (invalidArgument "artifact color identity is invalid or exceeds its limit")
 let headerBytes:=encodedHeaderBytes colorIdentity
 require (headerBytes ≤ 2 ^ 16 - 1 ∧ payload.length ≤ kMaxArtifactBytes - headerBytes ∧
   payload.length ≤ 2 ^ 32 - 1)
  ⟨.artifactTooLarge,utf8 "artifact payload exceeds the size limit"⟩
 let metadata:=measured metadata payload
 pure { bytes:=encodedBytes metadata payload cacheKeyDigest colorIdentity
        metadata:=metadata,cacheKeyDigest := cacheKeyDigest,colorIdentity := colorIdentity }

section Headers
variable {header : Header} {bytes body : Bytes}

lemma front_length (header:Header) : header.front.length=28:=by
 simp only [Header.front,List.length_append,appendInteger_length,WireInteger.width,
  header.magic.length_eq]

lemma header_length (header:Header) : header.bytes.length=kVvt1HeaderBytes:=by
 simp only [Header.bytes,Header.back,List.length_append,appendInteger_length,
  WireInteger.width,front_length,header.cacheKeyDigest.length_eq]
 rfl

lemma readHeader_append (header:Header) (rest : Bytes):
 readHeader.run (header.bytes++rest)=some (header,rest):=by
 simp only [readHeader,Header.bytes,Header.front,Header.back,List.append_assoc,
  Reader.readFixed_bind,Reader.readInteger_bind,Reader.run_pure]

lemma takes_header : readHeader.Takes Header.bytes:=by
 intro input header rest h
 simp only [readHeader,Reader.bind_eq_some,Reader.pure_eq_some] at h
 obtain ⟨magic,_,hmagic,version,_,hversion,headerBytes,_,hheaderBytes,encoding,_,
  hencoding,model,_,hmodel,provenance,_,hprovenance,width,_,hwidth,height,_,hheight,
  payloadBytes,_,hpayloadBytes,payloadCrc,_,hpayloadCrc,headerCrc,_,hheaderCrc,digest,_,
  hdigest,name,_,hname,fingerprint,_,hfingerprint,pages,_,hpages,rfl,rfl⟩ := h
 rw [Reader.takes_fixed _ _ _ _ hmagic,Reader.takes_integer _ _ _ hversion,
  Reader.takes_integer _ _ _ hheaderBytes,Reader.takes_integer _ _ _ hencoding,
  Reader.takes_integer _ _ _ hmodel,Reader.takes_integer _ _ _ hprovenance,
  Reader.takes_integer _ _ _ hwidth,Reader.takes_integer _ _ _ hheight,
  Reader.takes_integer _ _ _ hpayloadBytes,Reader.takes_integer _ _ _ hpayloadCrc,
  Reader.takes_integer _ _ _ hheaderCrc,Reader.takes_fixed _ _ _ _ hdigest,
  Reader.takes_integer _ _ _ hname,Reader.takes_integer _ _ _ hfingerprint,
  Reader.takes_integer _ _ _ hpages]
 simp only [Header.bytes,Header.front,Header.back,List.append_assoc]

lemma checkedHeader_append (header:Header) (rest : Bytes):
 checkedHeader (header.bytes++rest)={ header with headerCrc32:=0 }.bytes++rest:=by
 have hcrc:(appendInteger header.headerCrc32).length=4:=appendInteger_length _
 have htake:(header.bytes++rest).take 28=header.front:=by
  rw [Header.bytes,List.append_assoc,←front_length header,List.take_left]
 have hdrop:(header.bytes++rest).drop 32=header.back++rest:=by
  have hlength:(header.front++appendInteger header.headerCrc32).length=32:=by
   rw [List.length_append,front_length,hcrc]
  rw [Header.bytes,←List.append_assoc,List.append_assoc,←hlength,List.drop_left]
 rw [checkedHeader,htake,hdrop,Header.bytes,List.append_assoc,List.append_assoc]
 rfl

lemma header_ninth (header:Header) (rest : Bytes):
 (header.bytes++rest)[9]?=some (UInt8.ofNat (header.encoding.toNat / 256)):=by
 have hencoding:appendInteger header.encoding=
   [UInt8.ofNat header.encoding.toNat,UInt8.ofNat (header.encoding.toNat / 256)] := rfl
 simp only [Header.bytes,Header.front,List.append_assoc,List.getElem?_append,
  header.magic.length_eq,appendInteger_length,WireInteger.width,hencoding]
 rfl

lemma metadataOf_eq_some {metadata : ArtifactMetadata} : metadataOf header=some metadata ↔
  header.encoding.toUInt8=1 ∧
   enumOfCode header.sourceColorModel=some metadata.sourceColorModel ∧
   enumOfCode header.provenance=some metadata.provenance ∧
   dimensionsValid header.width header.height header.pageCount=true ∧
   header.width=metadata.width ∧ header.height=metadata.height ∧
   header.payloadBytes=metadata.payloadBytes ∧
   header.payloadCrc32=metadata.payloadCrc32 ∧ header.pageCount=metadata.pageCount:=by
 unfold metadataOf ArtifactEncoding.ofCode
 cases metadata with
 | mk encoding width height payloadBytes payloadCrc pages model provenance=>
  cases encoding with
  | qoiRgba8=>
   simp only [Option.bind_eq_bind,Option.bind_eq_some_iff,Option.ite_none_right_eq_some,
    Option.some.injEq,ArtifactMetadata.mk.injEq]
   constructor
   · intro ⟨encoding,⟨hcode,_⟩,model',hmodel,provenance',hprovenance,hvalid,_,hwidth,
      hheight,hpayload,hcrc,hpages,hsame,hsame'⟩
     subst hsame
     subst hsame'
     exact ⟨hcode,hmodel,hprovenance,hvalid,hwidth,hheight,hpayload,hcrc,hpages⟩
   · intro ⟨hcode,hmodel,hprovenance,hvalid,hwidth,hheight,hpayload,hcrc,hpages⟩
     exact ⟨.qoiRgba8,⟨hcode,trivial⟩,model,hmodel,provenance,hprovenance,hvalid,trivial,
      hwidth,hheight,hpayload,hcrc,hpages,rfl,rfl⟩

end Headers

structure Accepted (header:Header) (data : ArtifactData) (bytes : Bytes) : Prop where
 layout : bytes=header.bytes++(profileTexts data.colorIdentity++data.payload)
 size : bytes.length≤kMaxArtifactBytes
 magic : header.magic=kMagic
 version : header.version=kVvt1Version
 headerBytes : header.headerBytes.toNat=encodedHeaderBytes data.colorIdentity
 nameBytes : header.profileNameBytes.toNat=data.colorIdentity.sourceProfileName.length
 fingerprintBytes:
  header.profileFingerprintBytes.toNat=data.colorIdentity.sourceProfileFingerprint.length
 headerCrc : crc32 ({ header with headerCrc32:=0 }.bytes++profileTexts data.colorIdentity)=
  header.headerCrc32
 metadata : metadataOf header=some data.metadata
 payloadBytes : data.metadata.payloadBytes.toNat=data.payload.length
 color : validColorIdentity data.colorIdentity=true
 payloadCrc : crc32 data.payload=data.metadata.payloadCrc32
 digest : header.cacheKeyDigest=data.cacheKeyDigest

section Decoding
variable {header : Header} {data : ArtifactData} {bytes : Bytes}
variable (identity : ArtifactColorIdentity)

lemma profileTexts_length:
 (profileTexts identity).length+kVvt1HeaderBytes=encodedHeaderBytes identity:=by
 rw [profileTexts,encodedHeaderBytes,List.length_append]
 omega

lemma color_lengths {identity : ArtifactColorIdentity}
 (h:validColorIdentity identity=true) : identity.sourceProfileName.length≤256 ∧
  identity.sourceProfileFingerprint.length≤128:=by
 have hvalid:=of_decide_eq_true h
 exact ⟨hvalid.1,hvalid.2.1⟩

lemma Accepted.length (h:Accepted header data bytes):
 bytes.length=encodedHeaderBytes data.colorIdentity+data.payload.length:=by
 rw [h.layout,List.length_append,List.length_append,header_length,
  ← profileTexts_length data.colorIdentity]
 omega

lemma take_header (rest : Bytes):
 (header.bytes++(profileTexts identity++rest)).take (encodedHeaderBytes identity)=
  header.bytes++profileTexts identity:=by
 have hlength:(header.bytes++profileTexts identity).length=encodedHeaderBytes identity:=by
  rw [List.length_append,header_length,←profileTexts_length,Nat.add_comm]
 rw [←hlength,←List.append_assoc,List.take_left]

lemma drop_header (rest : Bytes):
 (header.bytes++(profileTexts identity++rest)).drop (encodedHeaderBytes identity)=rest:=by
 have hlength:(header.bytes++profileTexts identity).length=encodedHeaderBytes identity:=by
  rw [List.length_append,header_length,←profileTexts_length,Nat.add_comm]
 rw [←hlength,←List.append_assoc,List.drop_left]

lemma Accepted.decoded (h:Accepted header data bytes) : decodeVvt1 bytes=.ok data:=by
 have hlength:=h.length
 have hcolor:=color_lengths h.color
 have hsize:=h.size
 have hread:readHeader.run bytes=
   some (header,profileTexts data.colorIdentity++data.payload):=by
  rw [h.layout,readHeader_append]
 have hname:(profileTexts data.colorIdentity++data.payload).take
   header.profileNameBytes.toNat=data.colorIdentity.sourceProfileName:=by
  rw [h.nameBytes,profileTexts,List.append_assoc,List.take_left]
 have hfingerprint:((profileTexts data.colorIdentity++data.payload).drop
   header.profileNameBytes.toNat).take header.profileFingerprintBytes.toNat=
    data.colorIdentity.sourceProfileFingerprint:=by
  rw [h.nameBytes,h.fingerprintBytes,profileTexts,List.append_assoc,List.drop_left, List.take_left]
 have hpayload:(bytes.drop header.headerBytes.toNat).take
   data.metadata.payloadBytes.toNat=data.payload:=by
  rw [h.headerBytes,h.layout,drop_header,h.payloadBytes,List.take_length]
 have hchecked:crc32 (checkedHeader (bytes.take header.headerBytes.toNat))=
   header.headerCrc32:=by
  rw [h.headerBytes,h.layout,take_header,checkedHeader_append,h.headerCrc]
 have hheader:encodedHeaderBytes data.colorIdentity=kVvt1HeaderBytes +
   header.profileNameBytes.toNat+header.profileFingerprintBytes.toNat:=by
  rw [h.nameBytes,h.fingerprintBytes,encodedHeaderBytes]
 simp only [decodeVvt1,bind_unit_eq_ok,found_bind_eq_ok,require_eq_ok,decide_eq_true_eq,
  pure_eq_ok,Prod.exists,hread,Option.some.injEq]
 unfold kMaxSourceProfileNameBytes kMaxSourceProfileFingerprintBytes
 refine ⟨⟨by omega,hsize⟩,header,_,rfl,h.magic,⟨h.version,?_,?_⟩,⟨?_,?_,?_⟩,
  hchecked,data.metadata,h.metadata,⟨?_,?_⟩,?_,?_,?_⟩
 · rw [h.headerBytes]
   omega
 · rw [h.headerBytes]
   omega
 · rw [h.nameBytes]
   exact hcolor.1
 · rw [h.fingerprintBytes]
   exact hcolor.2
 · rw [h.headerBytes]
   exact hheader
 · rw [h.headerBytes,h.payloadBytes]
   omega
 · rw [h.headerBytes,h.payloadBytes]
   exact hlength
 · rw [hname,hfingerprint]
   exact h.color
 · rw [hpayload]
   exact h.payloadCrc
 · rw [hname,hfingerprint,hpayload,h.digest]

lemma accepted_of_decoded (h:decodeVvt1 bytes=.ok data):
 ∃ header,Accepted header data bytes:=by
 simp only [decodeVvt1,bind_unit_eq_ok,found_bind_eq_ok,require_eq_ok,decide_eq_true_eq,
  pure_eq_ok,Prod.exists] at h
 obtain ⟨⟨-,hsize⟩,header,body,hread,hmagic,⟨hversion,-,-⟩,⟨-,-,hheaderBytes⟩,hchecked,
  metadata,hmetadata,⟨-,hlength⟩,hcolor,hcrc,rfl⟩ := h
 have hlayout:=takes_header _ _ _ hread
 have hbody:body.length=header.profileNameBytes.toNat +
   header.profileFingerprintBytes.toNat+metadata.payloadBytes.toNat:=by
  have hall:=congrArg List.length hlayout
  rw [List.length_append,header_length,hlength,hheaderBytes] at hall
  omega
 have hname:(body.take header.profileNameBytes.toNat).length=header.profileNameBytes.toNat:=by
  rw [List.length_take]
  omega
 have hfingerprint:((body.drop header.profileNameBytes.toNat).take
   header.profileFingerprintBytes.toNat).length=header.profileFingerprintBytes.toNat:=by
  rw [List.length_take,List.length_drop]
  omega
 have hencoded:encodedHeaderBytes
   { sourceProfileName:=body.take header.profileNameBytes.toNat
     sourceProfileFingerprint:=(body.drop header.profileNameBytes.toNat).take
      header.profileFingerprintBytes.toNat }=header.headerBytes.toNat:=by
  rw [encodedHeaderBytes,hname,hfingerprint,hheaderBytes]
 have hsplit:body=profileTexts
   { sourceProfileName:=body.take header.profileNameBytes.toNat
     sourceProfileFingerprint:=(body.drop header.profileNameBytes.toNat).take
      header.profileFingerprintBytes.toNat } ++
     (body.drop header.profileNameBytes.toNat).drop header.profileFingerprintBytes.toNat:=by
  rw [profileTexts,List.append_assoc,List.take_append_drop,List.take_append_drop]
 have hwhole:bytes=header.bytes++(profileTexts
   { sourceProfileName:=body.take header.profileNameBytes.toNat
     sourceProfileFingerprint:=(body.drop header.profileNameBytes.toNat).take
      header.profileFingerprintBytes.toNat } ++
     (body.drop header.profileNameBytes.toNat).drop
      header.profileFingerprintBytes.toNat):=by
  rw [←hsplit]
  exact hlayout
 have hrest:(bytes.drop header.headerBytes.toNat).take metadata.payloadBytes.toNat=
   (body.drop header.profileNameBytes.toNat).drop header.profileFingerprintBytes.toNat:=by
  rw [hwhole,←hencoded,drop_header]
  refine List.take_of_length_le ?_
  rw [List.length_drop,List.length_drop]
  omega
 have hpayload:((bytes.drop header.headerBytes.toNat).take
   metadata.payloadBytes.toNat).length=metadata.payloadBytes.toNat:=by
  rw [List.length_take,List.length_drop]
  omega
 refine ⟨header,⟨?_,hsize,hmagic,hversion,hencoded.symm,hname.symm,hfingerprint.symm,?_,
  hmetadata,hpayload.symm,hcolor,hcrc,rfl⟩⟩
 · rw [hrest]
   exact hwhole
 · rw [←hchecked,←hencoded]
   conv_rhs => rw [hwhole,take_header,checkedHeader_append]

end Decoding

section Encoding
variable {metadata : ArtifactMetadata} {p payload : Bytes} {digest : CacheDigest}
 {c color : ArtifactColorIdentity} {encoded : EncodedArtifact}

lemma encodeVvt1_iff : encodeVvt1 metadata p digest c=.ok encoded ↔
 dimensionsValid metadata.width metadata.height metadata.pageCount=true ∧
  validColorIdentity c=true ∧
  p.length≤kMaxArtifactBytes - encodedHeaderBytes c ∧
  encoded={ bytes:=encodedBytes (measured metadata p) p digest c
            metadata:=measured metadata p
            cacheKeyDigest:=digest
            colorIdentity:=c }:=by
 simp only [encodeVvt1,bind_unit_eq_ok,require_eq_ok,decide_eq_true_eq,pure_eq_ok]
 constructor
 · rintro ⟨hdimensions,hcolor,⟨_,hsize,_⟩,hsame⟩
   exact ⟨hdimensions,hcolor,hsize,hsame.symm⟩
 · rintro ⟨hdimensions,hcolor,hsize,hsame⟩
   have hlengths:=color_lengths hcolor
   refine ⟨hdimensions,hcolor,⟨?_,hsize,?_⟩,hsame.symm⟩
   · unfold encodedHeaderBytes kVvt1HeaderBytes
     omega
   · unfold kMaxArtifactBytes at hsize
     omega

lemma metadataOf_headerOf (metadata : ArtifactMetadata) (hdimensions:dimensionsValid
 metadata.width metadata.height metadata.pageCount=true) (crc : UInt32):
 metadataOf (headerOf metadata digest c crc)=some metadata:=by
 have hcode:metadata.encoding.code.toUInt8=1:=by
  cases metadata.encoding with
  | qoiRgba8=>rfl
 rw [metadataOf_eq_some]
 exact ⟨hcode,enumOfCode_enumCode _,enumOfCode_enumCode _,hdimensions,rfl,rfl,rfl,rfl,rfl⟩

lemma accepted_of_encoded (h:encodeVvt1 metadata p digest c=.ok encoded):
 ∃ header,Accepted header ⟨encoded.metadata,digest,c,p⟩ encoded.bytes:=by
 obtain ⟨hdimensions,hcolor,hsize,rfl⟩:=encodeVvt1_iff.mp h
 have hlengths:=color_lengths hcolor
 have hlayout:encodedBytes (measured metadata p) p digest c=
   (headerOf (measured metadata p) digest c
    (crc32 ((headerOf (measured metadata p) digest c 0).bytes ++
     profileTexts c))).bytes++(profileTexts c++p) := rfl
 have hheader:encodedHeaderBytes c<2 ^ 16:=by
  unfold encodedHeaderBytes kVvt1HeaderBytes
  omega
 have hpayload:p.length<2 ^ 32:=by
  unfold kMaxArtifactBytes at hsize
  omega
 refine ⟨_,⟨hlayout,?_,rfl,rfl,?_,?_,?_,rfl,
  metadataOf_headerOf (measured metadata p) hdimensions _,?_,hcolor,rfl,rfl⟩⟩
 · rw [hlayout,List.length_append,List.length_append,header_length]
   have htexts:=profileTexts_length c
   unfold kMaxArtifactBytes at hsize ⊢
   omega
 · exact UInt16.toNat_ofNat_of_lt' hheader
 · exact UInt16.toNat_ofNat_of_lt' (by unfold UInt16.size; omega)
 · exact UInt16.toNat_ofNat_of_lt' (by unfold UInt16.size; omega)
 · exact UInt32.toNat_ofNat_of_lt' hpayload

end Encoding

section Exactness
variable {header : Header} {data : ArtifactData} {bytes : Bytes}

section
variable (h:Accepted header data bytes)
include h

lemma Accepted.measured : measured data.metadata data.payload=data.metadata:=by
 rw [ArtifactCodec.measured,h.payloadCrc,←h.payloadBytes,UInt32.ofNat_toNat]

lemma Accepted.dimensions:
 dimensionsValid data.metadata.width data.metadata.height data.metadata.pageCount=true:=by
 obtain ⟨-,-,-,hvalid,hwidth,hheight,-,-,hpages⟩:=metadataOf_eq_some.mp h.metadata
 rw [←hwidth,←hheight,←hpages]
 exact hvalid

lemma Accepted.headerOf (crc : UInt32):
 headerOf data.metadata data.cacheKeyDigest data.colorIdentity crc=
  { header with encoding:=1,headerCrc32:=crc }:=by
 obtain ⟨-,hmodel,hprovenance,-,hwidth,hheight,hpayload,hcrc,hpages⟩:=
  metadataOf_eq_some.mp h.metadata
 have hencoding:data.metadata.encoding.code=1:=by
  cases data.metadata.encoding with
  | qoiRgba8=>rfl
 rw [ArtifactCodec.headerOf,←h.headerBytes,←h.nameBytes,←h.fingerprintBytes,←h.magic,
  ← h.version,←h.digest,←hwidth,←hheight,←hpayload,←hcrc,←hpages,hencoding,
  enumCode_enumOfCode hmodel (by decide),enumCode_enumOfCode hprovenance (by decide)]
 simp only [UInt16.ofNat_toNat]

/-- The decoded parts are encoded again, to the same bytes just where the encoding
  had no second byte. -/
lemma Accepted.encoded_iff:
 (∃ encoded,encodeVvt1 data.metadata data.payload data.cacheKeyDigest data.colorIdentity=
  .ok encoded ∧ encoded.bytes=bytes) ↔ header.encoding=1:=by
 have hlength:=h.length
 have hsize:=h.size
 have hencoded:encodeVvt1 data.metadata data.payload data.cacheKeyDigest data.colorIdentity=
   .ok { bytes:=encodedBytes data.metadata data.payload data.cacheKeyDigest data.colorIdentity
         metadata:=data.metadata
         cacheKeyDigest:=data.cacheKeyDigest
         colorIdentity:=data.colorIdentity }:=by
  rw [encodeVvt1_iff,h.measured]
  exact ⟨h.dimensions,h.color,by omega,rfl⟩
 simp only [hencoded,Except.ok.injEq,exists_eq_left']
 rw [encodedBytes,h.headerOf,h.headerOf]
 constructor
 · intro hsame
   have hread:=congrArg readHeader.run hsame
   rw [h.layout,readHeader_append,readHeader_append,Option.some.injEq,Prod.mk.injEq] at hread
   exact congrArg Header.encoding hread.1.symm
 · intro hone
   have hcrc:=h.headerCrc
   have hheader (crc : UInt32) : { header with encoding:=1,headerCrc32:=crc }=
     { header with headerCrc32:=crc }:=by
    rw [←hone]
   rw [h.layout,hheader,hheader,hcrc]

lemma Accepted.ninth : header.encoding=1 ↔ bytes[9]?=some 0:=by
 have hcode:=(metadataOf_eq_some.mp h.metadata).1
 rw [h.layout,header_ninth,Option.some.injEq]
 have hlow:header.encoding.toNat % 256=1:=by
  have hnat:=congrArg UInt8.toNat hcode
  simpa using hnat
 have hlt:=header.encoding.toNat_lt
 rw [←UInt16.toNat_inj,←UInt8.toNat_inj,UInt8.toNat_ofNat']
 change header.encoding.toNat=1 ↔ header.encoding.toNat / 256 % 2 ^ 8=0
 omega

end

end Exactness

/-- Everything encoded is decoded to what it was, and accepted bytes are reproduced just
  where the second byte of the encoding is zero. -/
theorem vvt1_exact_iff (metadata : ArtifactMetadata) (payload : Bytes) (digest : CacheDigest)
 (color : ArtifactColorIdentity) {bytes : Bytes} {data : ArtifactData}
 (h:decodeVvt1 bytes=.ok data):
 (∀encoded,encodeVvt1 metadata payload digest color=.ok encoded →
  encoded.metadata=measured metadata payload ∧
   decodeVvt1 encoded.bytes=.ok ⟨encoded.metadata,digest,color,payload⟩) ∧
 ((∃ encoded,encodeVvt1 data.metadata data.payload data.cacheKeyDigest data.colorIdentity=
   .ok encoded ∧ encoded.bytes=bytes) ↔ bytes[9]?=some 0):=by
 constructor
 · intro encoded hencoded
   obtain ⟨header,hheader⟩:=accepted_of_encoded hencoded
   refine ⟨?_,hheader.decoded⟩
   obtain ⟨-,-,-,rfl⟩:=encodeVvt1_iff.mp hencoded
   rfl
 · obtain ⟨header,hheader⟩:=accepted_of_decoded h
   rw [hheader.encoded_iff,hheader.ninth]

/-- An artifact of one pixel without a payload whose encoding is written as 0x0101. -/
def wideEncoding : Bytes:=
 let metadata : ArtifactMetadata:=measured { width:=1,height:=1,sourceColorModel:=.rgb } []
 let header (crc : UInt32) : Header:=
  { headerOf metadata (.zero 32) {} crc with encoding:=0x0101 }
 (header (crc32 (header 0).bytes)).bytes

def onePixel : ArtifactData where
 metadata:=measured { width:=1,height:=1,sourceColorModel:=.rgb } []
 cacheKeyDigest:=.zero 32
 colorIdentity:={}
 payload:=[]

lemma wideEncoding_accepted : decodeVvt1 wideEncoding=.ok onePixel := by decide +kernel

theorem vvt1_exact_iff_wide:
 (∀encoded,encodeVvt1 onePixel.metadata [] (.zero 32) {}=.ok encoded →
  encoded.metadata=measured onePixel.metadata [] ∧
   decodeVvt1 encoded.bytes=.ok ⟨encoded.metadata,.zero 32,{},[]⟩) ∧
 ((∃ encoded,encodeVvt1 onePixel.metadata onePixel.payload onePixel.cacheKeyDigest
   onePixel.colorIdentity=.ok encoded ∧ encoded.bytes=wideEncoding) ↔
    wideEncoding[9]?=some 0):=
 vvt1_exact_iff _ _ _ _ wideEncoding_accepted

/-- The decoder takes these bytes, and the encoder writes others for what they hold. -/
theorem wideEncoding_not_reproduced : ¬∀bytes data,decodeVvt1 bytes=.ok data →
 ∃ encoded,encodeVvt1 data.metadata data.payload data.cacheKeyDigest data.colorIdentity=
  .ok encoded ∧ encoded.bytes=bytes:=by
 intro h
 obtain ⟨encoded,hencoded,hbytes⟩:=h _ _ wideEncoding_accepted
 have hother:(encodeVvt1 onePixel.metadata onePixel.payload onePixel.cacheKeyDigest
   onePixel.colorIdentity).map EncodedArtifact.bytes≠.ok wideEncoding := by decide +kernel
 rw [hencoded] at hother
 exact hother (congrArg Except.ok hbytes)

end VoVe.ArtifactCodec
