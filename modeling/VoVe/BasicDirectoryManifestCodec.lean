import Mathlib.Algebra.Order.BigOperators.Group.List
import VoVe.BasicDirectoryManifest
import VoVe.TransactionCodec

set_option autoImplicit false

namespace VoVe.BasicDirectoryManifestCodec
open ByteCodec AsciiText Checks TransferTransaction TransactionCodec BasicDirectoryManifest

def manifestMagic : UInt32 := 0x31424456

def manifestLimit : PayloadLimit where
 maximumPayloadBytes:=kBasicDirectoryTransferMaximumManifestBytes
 stringTooLarge:=utf8 "catalog protocol string is too large"
 payloadTooLarge:=utf8 "basic directory manifest is too large"

def semanticsCode : DirectoryPathSemantics → UInt8
 | .windowsOrdinalNfc=>0
 | .posixExact=>1
 | .other code=>code

variable (code : UInt8)

def semanticsOfCode : DirectoryPathSemantics:=
 if code = 0 then .windowsOrdinalNfc else if code = 1 then .posixExact else .other code

def entryKindCode : BasicDirectoryTransferEntryKind → UInt8
 | .directory=>0
 | .regularFile=>1
 | .other code=>code

def entryKindOfCode : BasicDirectoryTransferEntryKind:=
 if code = 0 then .directory else if code = 1 then .regularFile else .other code

lemma semanticsCode_ofCode : semanticsCode (semanticsOfCode code)=code:=by
 unfold semanticsOfCode
 split
 · next h => rw [h,semanticsCode]
 · split
   · next h => rw [h,semanticsCode]
   · rfl

lemma entryKindCode_ofCode : entryKindCode (entryKindOfCode code)=code:=by
 unfold entryKindOfCode
 split
 · next h => rw [h,entryKindCode]
 · split
   · next h => rw [h,entryKindCode]
   · rfl

lemma entryKindOfCode_code {kind : BasicDirectoryTransferEntryKind}
 (h:∀code,kind≠.other code) : entryKindOfCode (entryKindCode kind)=kind:=by
 cases kind with
 | directory=>rfl
 | regularFile=>rfl
 | other code=>exact absurd rfl (h code)

variable (entry : BasicDirectoryTransferEntry)

def appendManifestEntry : Bytes:=
 appendInteger (entryKindCode entry.kind)++(appendInteger (0 : UInt8) ++
  (appendInteger entry.depth++(appendInteger entry.sizeBytes ++
  (appendInteger entry.modifiedUnixNs++(appendString entry.relativePath.native ++
  appendString entry.sourceRevisionUtf8)))))

variable (manifest : BasicDirectoryTransferManifest)

def appendManifestRoots : Bytes:=
 appendString manifest.source.native++(appendString manifest.stagingDestination.native ++
  (appendString manifest.destination.native++appendString manifest.sourceRevisionUtf8))

def appendManifestHeader : Bytes:=
 appendInteger manifestMagic++(appendInteger manifest.version ++
  (appendInteger manifest.operationId++(appendInteger (semanticsCode manifest.pathSemantics) ++
  (appendEnum manifest.kind++(appendInteger (0 : UInt16) ++
  (appendInteger manifest.totalBytes ++
  (appendInteger (UInt32.ofNat manifest.entries.length)++manifest.ownershipToken.bytes)))))))

def manifestBody : Bytes:=
 appendManifestHeader manifest++(appendManifestRoots manifest ++
  manifest.entries.flatMap appendManifestEntry)

def rootStrings : List Bytes:=
 [manifest.source.native,manifest.stagingDestination.native,manifest.destination.native,
  manifest.sourceRevisionUtf8]

def entryStrings : List Bytes := [entry.relativePath.native,entry.sourceRevisionUtf8]

def manifestStrings : List Bytes := rootStrings manifest++manifest.entries.flatMap entryStrings

def readManifestHeader : Reader (BasicDirectoryTransferManifest × ℕ) := do
 let magic ← Reader.readInteger UInt32
 let version ← Reader.readInteger UInt32
 let operationId ← Reader.readInteger UInt64
 let semantics ← Reader.readInteger UInt8
 let kind ← Reader.readEnum FileTransferKind
 let reserved16 ← Reader.readInteger UInt16
 let totalBytes ← Reader.readInteger UInt64
 let count ← Reader.readInteger UInt32
 let ownershipToken ← Reader.readFixed kDirectoryTransferOwnershipTokenBytes
 Reader.check (magic = manifestMagic ∧
  (version = 1 ∨ version = kBasicDirectoryTransferManifestVersion) ∧
  (version = 1 → kind = .copy) ∧ reserved16 = 0 ∧
  count.toNat ≤ kBasicDirectoryTransferMaximumEntries)
 pure ({ version:=version,operationId:=operationId,kind:=kind,
         pathSemantics:=semanticsOfCode semantics,source := ⟨[]⟩,stagingDestination := ⟨[]⟩,
         destination:=⟨[]⟩,ownershipToken := ownershipToken,totalBytes := totalBytes },
  count.toNat)

def readManifestRoots (header:BasicDirectoryTransferManifest):
  Reader BasicDirectoryTransferManifest := do
 let source ← readText validUtf8WithoutNul
 let stagingDestination ← readText validUtf8WithoutNul
 let destination ← readText validUtf8WithoutNul
 let sourceRevisionUtf8 ← readText validUtf8WithoutNul
 pure { header with
  source:=⟨source⟩,stagingDestination := ⟨stagingDestination⟩,destination := ⟨destination⟩,
  sourceRevisionUtf8:=sourceRevisionUtf8 }

def readManifestEntry : Reader BasicDirectoryTransferEntry := do
 let kind ← Reader.readInteger UInt8
 let reserved ← Reader.readInteger UInt8
 let depth ← Reader.readInteger UInt16
 let sizeBytes ← Reader.readInteger UInt64
 let modifiedUnixNs ← Reader.readInteger Int64
 let relative ← Reader.readString
 let sourceRevisionUtf8 ← Reader.readString
 Reader.check (reserved = 0 ∧ validUtf8WithoutNul relative ∧ validUtf8WithoutNul sourceRevisionUtf8)
 pure { relativePath:=⟨relative⟩,sizeBytes:=sizeBytes,modifiedUnixNs:=modifiedUnixNs,
        sourceRevisionUtf8:=sourceRevisionUtf8,depth := depth,kind := entryKindOfCode kind }

section Digest
variable (sha256 : Bytes → BasicDirectoryTransferDigest)
variable (manifest : BasicDirectoryTransferManifest)

def manifestPayload : Bytes := manifestBody manifest++(sha256 (manifestBody manifest)).bytes

def encodeBasicDirectoryTransferManifest:
  Except Thrown Bytes := do
 throwInvalid (validBasicDirectoryTransferManifest manifest)
 manifestLimit.finish (manifestStrings manifest) (manifestPayload sha256 manifest)

def decodeBasicDirectoryTransferManifest (payload : Bytes):
  Except Bytes BasicDirectoryTransferManifest := do
 require (kBasicDirectoryTransferDigestBytes ≤ payload.length ∧
   payload.length ≤ kBasicDirectoryTransferMaximumManifestBytes)
  (utf8 "basic directory manifest size is invalid")
 let body:=payload.take (payload.length - kBasicDirectoryTransferDigestBytes)
 let digest:=payload.drop (payload.length - kBasicDirectoryTransferDigestBytes)
 require (digest = (sha256 body).bytes) (utf8 "basic directory manifest digest is invalid")
 let ((header,count),rest) ← found (readManifestHeader.run body)
  (utf8 "basic directory manifest header is invalid")
 let (rooted,rest) ← found ((readManifestRoots header).run rest)
  (utf8 "basic directory manifest root string is invalid")
 let (entries,rest) ← found ((Reader.readMany readManifestEntry count).run rest)
  (utf8 "basic directory manifest entry is invalid")
 let decoded:={ rooted with entries:=entries }
 require (rest = []) (utf8 "basic directory manifest has trailing data")
 validBasicDirectoryTransferManifest decoded
 pure decoded

end Digest

def recoveryManifestHeaderBytes : ℕ := 32

/-- The entry count a recovery scan reads off a payload before it decodes it. -/
def recoveryManifestDeclaredEntries (payload : Bytes) : Option ℕ:=
 let readU32 (offset : ℕ) : ℕ := leValue ((payload.drop offset).take 4)
 let byteAt (offset : ℕ) : UInt8 := payload.getD offset 0
 if payload.length < recoveryManifestHeaderBytes then none
 else if readU32 0≠manifestMagic.toNat ∨ (readU32 4≠1 ∧
   readU32 4≠kBasicDirectoryTransferManifestVersion.toNat) ∨
   (readU32 4 = 1 ∧ byteAt 17≠enumCode FileTransferKind.copy) ∨
   byteAt 17 > enumCode FileTransferKind.move ∨ byteAt 18≠0 ∨ byteAt 19≠0 then none
 else if readU32 28 > kBasicDirectoryTransferMaximumEntries then none
 else some (readU32 28)

/-- The texts the decoder looks at, which the encoder does not. -/
def manifestTextsValid : Bool := (manifestStrings manifest).all validUtf8WithoutNul

section Lengths
variable (sha256 : Bytes → BasicDirectoryTransferDigest) {manifest : BasicDirectoryTransferManifest}
variable (entry : BasicDirectoryTransferEntry)

def entryBytes : ℕ := 28+entry.relativePath.native.length+entry.sourceRevisionUtf8.length

lemma length_appendManifestEntry:
 (appendManifestEntry entry).length=entryBytes entry:=by
 simp only [appendManifestEntry,List.length_append,appendInteger_length,appendString_length,
  WireInteger.width,entryBytes]
 omega

lemma length_manifestPayload (manifest : BasicDirectoryTransferManifest):
 (manifestPayload sha256 manifest).length=96+(manifest.source.native.length +
  manifest.stagingDestination.native.length+manifest.destination.native.length +
  manifest.sourceRevisionUtf8.length)+(manifest.entries.map entryBytes).sum:=by
 have hdigest:=(sha256 (manifestBody manifest)).length_eq
 have htoken:=manifest.ownershipToken.length_eq
 unfold kBasicDirectoryTransferDigestBytes at hdigest
 unfold kDirectoryTransferOwnershipTokenBytes at htoken
 simp only [manifestPayload,List.length_append,hdigest]
 simp only [manifestBody,appendManifestHeader,appendManifestRoots,List.length_append,
  appendInteger_length,appendEnum_length,appendString_length,WireInteger.width,htoken,
  List.length_flatMap,funext length_appendManifestEntry]
 omega

lemma length_le_payload {text : Bytes} (h:text∈manifestStrings manifest):
 text.length≤(manifestPayload sha256 manifest).length:=by
 rw [length_manifestPayload]
 obtain hroot | hentry:=List.mem_append.mp h
 · simp only [rootStrings,List.mem_cons,List.not_mem_nil,or_false] at hroot
   obtain rfl | rfl | rfl | rfl:=hroot<;>omega
 · obtain ⟨entry,hmem,htext⟩:=List.mem_flatMap.mp hentry
   have hsum:entryBytes entry≤(manifest.entries.map entryBytes).sum:=
    List.single_le_sum (fun _ _=>Nat.zero_le _) _ (List.mem_map_of_mem hmem)
   have hle:text.length≤entryBytes entry:=by
    unfold entryBytes
    simp only [entryStrings,List.mem_cons,List.not_mem_nil,or_false] at htext
    obtain rfl | rfl:=htext<;>omega
   omega

end Lengths

section Writing
variable {manifest : BasicDirectoryTransferManifest} {sha256 : Bytes → BasicDirectoryTransferDigest}

lemma encode_iff (payload : Bytes):
 encodeBasicDirectoryTransferManifest sha256 manifest=.ok payload ↔
  ManifestValid manifest ∧ (∀text∈manifestStrings manifest,text.length<2 ^ 32) ∧
   (manifestPayload sha256 manifest).length≤kBasicDirectoryTransferMaximumManifestBytes ∧
   manifestPayload sha256 manifest=payload:=by
 rw [encodeBasicDirectoryTransferManifest,bind_unit_eq_ok,throwInvalid_eq_ok,
  PayloadLimit.finish_eq_ok]
 rfl

lemma readManifestEntry_append (rest : Bytes)
 (hkind:∀code,entry.kind≠.other code)
 (h:∀text∈entryStrings entry,text.length<2 ^ 32):
 readManifestEntry.run (appendManifestEntry entry++rest)=
  if (entryStrings entry).all validUtf8WithoutNul then some (entry,rest) else none:=by
 simp only [entryStrings,List.forall_mem_cons] at h
 obtain ⟨hrelative,hrevision,-⟩:=h
 simp only [readManifestEntry,appendManifestEntry,List.append_assoc,Reader.readInteger_bind,
  Reader.readString_bind,hrelative,hrevision,Reader.check_bind,Reader.run_pure,
  entryKindOfCode_code hkind]
 simp only [entryStrings,List.all_cons,List.all_nil,Bool.and_true,Bool.and_eq_true,true_and,
  decide_eq_true_eq]

lemma readManifestRoots_append (header:BasicDirectoryTransferManifest) (rest : Bytes)
 (h:∀text∈rootStrings manifest,text.length<2 ^ 32):
 (readManifestRoots header).run (appendManifestRoots manifest++rest)=
  if (rootStrings manifest).all validUtf8WithoutNul then
   some ({ header with
    source:=manifest.source,stagingDestination := manifest.stagingDestination,
    destination:=manifest.destination,
    sourceRevisionUtf8:=manifest.sourceRevisionUtf8 },rest)
  else none:=by
 simp only [rootStrings,List.forall_mem_cons] at h
 obtain ⟨hsource,hstaging,hdestination,hrevision,-⟩:=h
 simp only [readManifestRoots,appendManifestRoots,List.append_assoc,readText_bind,hsource,
  hstaging,hdestination,hrevision,Reader.run_pure]
 simp only [rootStrings,List.all_cons,List.all_nil,Bool.and_true,Bool.and_eq_true,ite_and]

lemma toNat_count (h:ManifestValid manifest):
 (UInt32.ofNat manifest.entries.length).toNat=manifest.entries.length:=by
 have hsize:=h.size
 unfold kBasicDirectoryTransferMaximumEntries at hsize
 rw [UInt32.toNat_ofNat']
 omega

lemma readManifestHeader_append (rest : Bytes) (h:ManifestValid manifest):
 readManifestHeader.run (appendManifestHeader manifest++rest)=
  some (({ manifest with source:=⟨[]⟩,stagingDestination:=⟨[]⟩,destination:=⟨[]⟩,
                         sourceRevisionUtf8:=[],entries := [] },
   manifest.entries.length),rest):=by
 have hversion:(manifest.version=1 ∨
   manifest.version=kBasicDirectoryTransferManifestVersion) ∧
   (manifest.version=1 → manifest.kind=.copy):=by
  obtain hversion | ⟨hversion,hkind⟩:=h.version
  · refine ⟨.inr hversion,fun hone=>?_⟩
    rw [hversion] at hone
    cases hone
  · exact ⟨.inl hversion,fun _=>hkind⟩
 simp only [readManifestHeader,appendManifestHeader,List.append_assoc,Reader.readInteger_bind,
  Reader.readEnum_bind,Reader.readFixed_bind,Reader.check_bind,Reader.run_pure,toNat_count h,
  h.semantics]
 exact if_pos (decide_eq_true ⟨trivial,hversion.1,hversion.2,trivial,h.size⟩)

lemma decode_iff (payload : Bytes):
 decodeBasicDirectoryTransferManifest sha256 payload=.ok manifest ↔
  payload.length≤kBasicDirectoryTransferMaximumManifestBytes ∧
  ∃ body,payload=body++(sha256 body).bytes ∧
  ∃ header count rest,readManifestHeader.run body=some ((header,count),rest) ∧
  ∃ rooted rest',(readManifestRoots header).run rest=some (rooted,rest') ∧
  ∃ entries,(Reader.readMany readManifestEntry count).run rest'=some (entries,[]) ∧
   ManifestValid { rooted with entries:=entries } ∧
   { rooted with entries:=entries }=manifest:=by
 simp only [decodeBasicDirectoryTransferManifest,bind_unit_eq_ok,found_bind_eq_ok,require_eq_ok,
  decide_eq_true_eq,pure_eq_ok,Prod.exists]
 constructor
 · rintro ⟨⟨hleast,hsize⟩,hdigest,header,count,rest,hheader,rooted,rest',hroots,entries,
    rest'',hentries,rfl,hvalid,rfl⟩
   refine ⟨hsize,_,?_,header,count,rest,hheader,rooted,rest',hroots,entries,hentries,
    hvalid,rfl⟩
   rw [←hdigest,List.take_append_drop]
 · rintro ⟨hsize,body,rfl,header,count,rest,hheader,rooted,rest',hroots,entries,
    hentries,hvalid,rfl⟩
   have hlength:=(sha256 body).length_eq
   have hfront:(body++(sha256 body).bytes).length - kBasicDirectoryTransferDigestBytes=
     body.length:=by
    rw [List.length_append,hlength]
    omega
   rw [hfront,List.take_left,List.drop_left]
   refine ⟨⟨?_,hsize⟩,rfl,header,count,rest,hheader,rooted,rest',hroots,entries,[],
    hentries,rfl,hvalid,rfl⟩
   rw [List.length_append,hlength]
   omega

lemma strings_small {payload : Bytes}
 (h:encodeBasicDirectoryTransferManifest sha256 manifest=.ok payload):
 (∀text∈rootStrings manifest,text.length<2 ^ 32) ∧
  ∀entry∈manifest.entries,∀text∈entryStrings entry,text.length<2 ^ 32:=by
 obtain ⟨-,hstrings,-⟩:=(encode_iff _).mp h
 constructor
 · intro text htext
   exact hstrings text (List.mem_append_left _ htext)
 · intro entry hentry text htext
   exact hstrings text (List.mem_append_right _ (List.mem_flatMap.mpr ⟨entry,hentry,htext⟩))

lemma decode_encode {payload : Bytes}
 (h:encodeBasicDirectoryTransferManifest sha256 manifest=.ok payload):
 OkExactly (decodeBasicDirectoryTransferManifest sha256 payload) (manifestTextsValid manifest)
  manifest:=by
 intro decoded
 obtain ⟨hroots,hentries⟩:=strings_small h
 obtain ⟨hvalid,-,hsize,rfl⟩:=(encode_iff _).mp h
 have hheader:readManifestHeader.run (manifestBody manifest)=_:=
  readManifestHeader_append (appendManifestRoots manifest ++
   manifest.entries.flatMap appendManifestEntry) hvalid
 have hrooted:=readManifestRoots_append
  { manifest with source:=⟨[]⟩,stagingDestination:=⟨[]⟩,destination:=⟨[]⟩,
                  sourceRevisionUtf8:=[],entries := [] }
  (manifest.entries.flatMap appendManifestEntry) hroots
 have hread:=Reader.readMany_append readManifestEntry appendManifestEntry
  (fun entry=>(entryStrings entry).all validUtf8WithoutNul) manifest.entries
  (fun entry hmem rest=>readManifestEntry_append entry rest (hvalid.entryKind entry hmem)
   (hentries entry hmem)) []
 rw [List.append_nil] at hread
 have htexts:manifestTextsValid manifest=true ↔
   (rootStrings manifest).all validUtf8WithoutNul=true ∧
    (manifest.entries.all fun entry=>(entryStrings entry).all validUtf8WithoutNul)=true:=by
  simp only [manifestTextsValid,manifestStrings,List.all_append,List.all_flatMap,
   Bool.and_eq_true]
 rw [decode_iff,htexts]
 constructor
 · rintro ⟨-,body,hbody,header,count,rest,hheader',rooted,rest',hrooted',entries,
    hread',-,rfl⟩
   obtain ⟨rfl,-⟩:=List.append_inj' hbody (by rw [(sha256 _).length_eq,(sha256 _).length_eq])
   rw [hheader] at hheader'
   simp only [Option.some.injEq,Prod.mk.injEq] at hheader'
   obtain ⟨⟨rfl,rfl⟩,rfl⟩:=hheader'
   rw [hrooted] at hrooted'
   split at hrooted'
   · next hall =>
     simp only [Option.some.injEq,Prod.mk.injEq] at hrooted'
     obtain ⟨rfl,rfl⟩:=hrooted'
     rw [hread] at hread'
     split at hread'
     · next hentry =>
       simp only [Option.some.injEq,Prod.mk.injEq] at hread'
       obtain ⟨rfl,-⟩:=hread'
       exact ⟨⟨hall,hentry⟩,rfl⟩
     · cases hread'
   · cases hrooted'
 · rintro ⟨⟨hall,hentry⟩,rfl⟩
   rw [if_pos hall] at hrooted
   rw [if_pos hentry] at hread
   exact ⟨hsize,_,rfl,_,_,_,hheader,_,_,hrooted,_,hread,hvalid,rfl⟩

end Writing

section Reading

lemma takes_entry : readManifestEntry.Takes appendManifestEntry:=by
 intro input entry rest h
 simp only [readManifestEntry,Reader.bind_eq_some,Reader.check_eq_some,Reader.pure_eq_some] at h
 obtain ⟨kind,_,hkind,reserved,_,hreserved,depth,_,hdepth,size,_,hsize,modified,_,
  hmodified,relative,_,hrelative,revision,_,hrevision,_,_,⟨hcheck,rfl⟩,rfl,rfl⟩ := h
 have hzero:reserved=0:=by simpa using (of_decide_eq_true hcheck).1
 subst hzero
 rw [Reader.takes_integer _ _ _ hkind,Reader.takes_integer _ _ _ hreserved,
  Reader.takes_integer _ _ _ hdepth,Reader.takes_integer _ _ _ hsize,
  Reader.takes_integer _ _ _ hmodified,Reader.takes_string _ _ _ hrelative,
  Reader.takes_string _ _ _ hrevision]
 simp only [appendManifestEntry,entryKindCode_ofCode,List.append_assoc]

lemma readManifestRoots_eq_some {header rooted : BasicDirectoryTransferManifest}
 {input rest : Bytes} (h:(readManifestRoots header).run input=some (rooted,rest)):
 input=appendManifestRoots rooted++rest ∧ rooted=
  { header with
    source:=rooted.source,stagingDestination := rooted.stagingDestination,
    destination:=rooted.destination,sourceRevisionUtf8 := rooted.sourceRevisionUtf8 }:=by
 simp only [readManifestRoots,Reader.bind_eq_some,Reader.pure_eq_some] at h
 obtain ⟨source,_,hsource,staging,_,hstaging,destination,_,hdestination,revision,_,
  hrevision,rfl,rfl⟩ := h
 rw [takes_text _ _ _ _ hsource,takes_text _ _ _ _ hstaging,takes_text _ _ _ _ hdestination,
  takes_text _ _ _ _ hrevision]
 simp only [appendManifestRoots,List.append_assoc,and_self]

lemma readManifestHeader_eq_some {header : BasicDirectoryTransferManifest} {count : ℕ}
 {input rest : Bytes} (h:readManifestHeader.run input=some ((header,count),rest))
 {manifest : BasicDirectoryTransferManifest} (hcount:manifest.entries.length=count)
 (hheader:manifest={ header with
  source:=manifest.source,stagingDestination := manifest.stagingDestination,
  destination:=manifest.destination,sourceRevisionUtf8 := manifest.sourceRevisionUtf8,
  entries:=manifest.entries }) : input=appendManifestHeader manifest++rest:=by
 simp only [readManifestHeader,Reader.bind_eq_some,Reader.check_eq_some,Reader.pure_eq_some,
  Prod.mk.injEq] at h
 obtain ⟨magic,_,hmagic,version,_,hversion,operationId,_,hid,semantics,_,hsemantics,
  kind,_,hkind,reserved,_,hreserved,totalBytes,_,htotal,size,_,hsize,token,_,htoken,
  _,_,⟨hcheck,rfl⟩,⟨rfl,rfl⟩,rfl⟩ := h
 have hchecked:=of_decide_eq_true hcheck
 obtain ⟨rfl,-,-,rfl,-⟩:=hchecked
 rw [Reader.takes_integer _ _ _ hmagic,Reader.takes_integer _ _ _ hversion,
  Reader.takes_integer _ _ _ hid,Reader.takes_integer _ _ _ hsemantics,
  Reader.takes_enum (by decide) _ _ _ hkind,Reader.takes_integer _ _ _ hreserved,
  Reader.takes_integer _ _ _ htotal,Reader.takes_integer _ _ _ hsize,
  Reader.takes_fixed _ _ _ _ htoken,hheader]
 simp only [appendManifestHeader,semanticsCode_ofCode,hcount,UInt32.ofNat_toNat,
  List.append_assoc]

variable {sha256 : Bytes → BasicDirectoryTransferDigest}
 {manifest : BasicDirectoryTransferManifest} {payload : Bytes}

lemma encode_decode (h:decodeBasicDirectoryTransferManifest sha256 payload=.ok manifest):
 encodeBasicDirectoryTransferManifest sha256 manifest=.ok payload:=by
 obtain ⟨hsize,body,rfl,header,count,rest,hheader,rooted,rest',hroots,entries,hentries,
  hvalid,hmanifest⟩ := (decode_iff _).mp h
 obtain ⟨hlength,hrest'⟩:=Reader.readMany_eq_some takes_entry _ _ _ _ hentries
 obtain ⟨hrest,hrooted⟩:=readManifestRoots_eq_some hroots
 rw [List.append_nil] at hrest'
 have hroot:appendManifestRoots rooted=appendManifestRoots manifest:=by
  rw [←hmanifest]
  rfl
 have hbody:body=manifestBody manifest:=by
  have hheader':body=appendManifestHeader manifest++rest:=by
   refine readManifestHeader_eq_some hheader ?_ ?_
   · rw [←hmanifest]
     exact hlength
   · rw [←hmanifest,hrooted]
  rw [hheader',hrest,hrest',hroot,←hmanifest]
  rfl
 have hpayload:manifestPayload sha256 manifest=body++(sha256 body).bytes:=by
  rw [manifestPayload,←hbody]
 rw [encode_iff,hpayload]
 refine ⟨hmanifest ▸ hvalid,fun text htext=>?_,hsize,rfl⟩
 have hle:=length_le_payload sha256 htext
 rw [hpayload] at hle
 have hsmall:kBasicDirectoryTransferMaximumManifestBytes<2 ^ 32:=by decide
 omega

end Reading

section Offsets
variable {α : Type} [WireInteger α] {a : α} {code : UInt8} {payload rest : Bytes} {offset next width : ℕ}

lemma drop_field (h:payload.drop offset=appendInteger a++rest)
 (hnext:offset+WireInteger.width α=next) : payload.drop next=rest:=by
 rw [←hnext,←List.drop_drop,h]
 exact List.drop_left' (appendInteger_length a)

lemma value_field (h:payload.drop offset=appendInteger a++rest)
 (hwidth:WireInteger.width α=width):
 leValue ((payload.drop offset).take width)=WireInteger.toBits a:=by
 rw [h,List.take_left' ((appendInteger_length a).trans hwidth)]
 exact leValue_leBytes _ _ (WireInteger.toBits_lt a)

lemma byte_field (h:payload.drop offset=appendInteger code++rest):
 payload.getD offset 0=code:=by
 have hhead:(payload.drop offset)[0]?=some code:=by
  rw [h]
  change some (UInt8.ofNat code.toNat)=some code
  rw [UInt8.ofNat_toNat]
 rw [List.getElem?_drop,Nat.add_zero] at hhead
 rw [List.getD_eq_getElem?_getD,hhead,Option.getD_some]

end Offsets

lemma declared_encode {manifest : BasicDirectoryTransferManifest} {payload : Bytes}
 {sha256 : Bytes → BasicDirectoryTransferDigest}
 (h:encodeBasicDirectoryTransferManifest sha256 manifest=.ok payload):
 recoveryManifestDeclaredEntries payload=some manifest.entries.length:=by
 obtain ⟨hvalid,-,-,rfl⟩:=(encode_iff _).mp h
 have hzero:appendInteger (0 : UInt16)=appendInteger (0 : UInt8)++appendInteger (0 : UInt8):=rfl
 obtain ⟨tail,htail⟩ : ∃ tail,manifestPayload sha256 manifest=appendInteger manifestMagic ++
   (appendInteger manifest.version++(appendInteger manifest.operationId ++
   (appendInteger (semanticsCode manifest.pathSemantics) ++
   (appendInteger (enumCode manifest.kind)++(appendInteger (0 : UInt8) ++
   (appendInteger (0 : UInt8)++(appendInteger manifest.totalBytes ++
   (appendInteger (UInt32.ofNat manifest.entries.length)++tail)))))))):=by
  refine ⟨manifest.ownershipToken.bytes++(appendManifestRoots manifest ++
   (manifest.entries.flatMap appendManifestEntry++(sha256 (manifestBody manifest)).bytes)),?_⟩
  simp only [manifestPayload,manifestBody,appendManifestHeader,appendEnum,hzero,
   List.append_assoc]
 have hmagic:=(List.drop_zero (l := manifestPayload sha256 manifest)).trans htail
 have hversion:_=_++_:=drop_field hmagic rfl
 have hid:_=_++_:=drop_field hversion rfl
 have hsemantics:_=_++_:=drop_field hid rfl
 have hkind:(manifestPayload sha256 manifest).drop 17=_:=drop_field hsemantics rfl
 have hreserved:(manifestPayload sha256 manifest).drop 18=_:=drop_field hkind rfl
 have hreserved':(manifestPayload sha256 manifest).drop 19=_:=drop_field hreserved rfl
 have htotal:_=_++_:=drop_field hreserved' rfl
 have hcount:(manifestPayload sha256 manifest).drop 28=_:=drop_field htotal rfl
 have hlong:¬(manifestPayload sha256 manifest).length < recoveryManifestHeaderBytes:=by
  rw [length_manifestPayload]
  unfold recoveryManifestHeaderBytes
  omega
 have hmagicValue:leValue (((manifestPayload sha256 manifest).drop 0).take 4)=
   manifestMagic.toNat := value_field hmagic rfl
 have hversionValue:leValue (((manifestPayload sha256 manifest).drop 4).take 4)=
   manifest.version.toNat := value_field hversion rfl
 have hcountValue:leValue (((manifestPayload sha256 manifest).drop 28).take 4)=
   manifest.entries.length := (value_field hcount rfl).trans (toNat_count hvalid)
 have hnot:¬(manifestMagic.toNat≠manifestMagic.toNat ∨ (manifest.version.toNat≠1 ∧
   manifest.version.toNat≠kBasicDirectoryTransferManifestVersion.toNat) ∨
   (manifest.version.toNat=1 ∧ enumCode manifest.kind≠enumCode FileTransferKind.copy) ∨
   enumCode manifest.kind>enumCode FileTransferKind.move ∨ (0 : UInt8)≠0 ∨ (0 : UInt8)≠0):=by
  obtain hversion | ⟨hversion,hkind⟩:=hvalid.version
  · rw [hversion]
    cases manifest.kind<;>decide
  · rw [hversion,hkind]
    decide
 simp only [recoveryManifestDeclaredEntries,hmagicValue,hversionValue,hcountValue,
  byte_field hkind,byte_field hreserved,byte_field hreserved',if_neg hlong,if_neg hnot]
 exact if_neg (Nat.not_lt.mpr hvalid.size)

end VoVe.BasicDirectoryManifestCodec
