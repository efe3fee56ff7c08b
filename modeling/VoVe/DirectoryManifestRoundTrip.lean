import VoVe.DirectoryManifestCodec

set_option autoImplicit false

namespace VoVe.DirectoryManifestRoundTrip
open ByteCodec AsciiText PosixPath Checks DestinationFilename TransactionCodec
open DirectoryManifest DirectoryManifestShape DirectoryManifestCodec PathText
open FileOperation (SourceSnapshot)
open BasicDirectoryManifest (DirectoryPathSemantics DirectoryTransferOwnershipToken
 directoryTransferNamespaceKey kDirectoryTransferOwnershipTokenBytes)

variable {semantics : DirectoryPathSemantics} {input rest : Bytes}

section Texts
variable {manifest : DirectoryTransferManifest}

lemma key_posix (path : Path):
 directoryTransferNamespaceKey path .posixExact=path.lexicallyNormal.native := rfl

lemma valid_name {name : Path} (h:DestinationName name):
 validUtf8WithoutNul name.native=true:=by
 have hvalid:=h.validUtf8
 have hfilename:=h.filename_eq
 simp only [DestinationName,validDestinationFilename,validPortableFilename,bind_unit_eq_ok,
  require_eq_ok,List.all_eq_true] at h
 obtain ⟨-,-,-,-,-,hbytes,-⟩:=h
 rw [hfilename] at hbytes
 have hnul:name.native.contains 0=false:=by
  rw [List.contains_eq_mem,decide_eq_false_iff_not]
  intro hmem
  have hzero:=of_decide_eq_true (hbytes 0 hmem)
  exact absurd hzero.1 (by decide)
 rw [validUtf8WithoutNul,hnul,hvalid]
 rfl

lemma valid_path {path : Path} {key : Bytes} (hsame:path.same path.lexicallyNormal)
 (hkey:directoryTransferNamespaceKey path .posixExact=key)
 (hvalid:validUtf8WithoutNul key=true) : validUtf8WithoutNul path.native=true:=by
 rw [key_posix] at hkey
 exact valid_same hsame (hkey ▸ hvalid)

lemma valid_snapshot {snapshot : SourceSnapshot} {revision : ParsedRevision}
 (h:validSnapshotRevision snapshot semantics=some revision):
 validUtf8WithoutNul snapshot.sourceRevisionUtf8=true:=by
 obtain ⟨hrevision,-⟩:=Option.filter_eq_some_iff.mp h
 exact valid_of_revision hrevision

lemma valid_anchor {identity revision : Bytes}
 (h:parentAnchorMatches identity revision semantics=true):
 validUtf8WithoutNul identity=true ∧ validUtf8WithoutNul revision=true:=by
 unfold parentAnchorMatches at h
 split at h
 · next hidentity hrevision => exact ⟨valid_of_revision hidentity,valid_of_revision hrevision⟩
 · cases h

lemma rootTexts_valid (h:ManifestSound manifest) (i : ℕ) (hi:i < manifest.roots.length):
 (rootStrings manifest.roots[i]).all validUtf8WithoutNul=true:=by
 have hroot:=h.roots i hi
 have hpaths:=hroot.paths
 have hmetadata:=hroot.metadata
 simp only [validRootPaths,bind_unit_eq_ok,require_eq_ok,decide_eq_true_eq,h.semantics,
  List.all_eq_true,rootPaths,rootKeys,List.map_cons,List.map_nil,List.zip_cons_cons,
  List.zip_nil_left,List.forall_mem_cons,List.not_mem_nil,false_imp_iff,implies_true,
  and_true] at hpaths
 obtain ⟨-,-,⟨hsource,hstaged,hstaging,hdestination⟩,⟨ksource,kstaged,kstaging,
  kdestination⟩,-⟩ := hpaths
 unfold rootMetadata at hmetadata
 obtain ⟨revision,hrevision,hmetadata⟩:=Option.bind_eq_some_iff.mp hmetadata
 obtain ⟨parent,hparent,hmetadata⟩:=Option.bind_eq_some_iff.mp hmetadata
 rw [Option.ite_none_right_eq_some] at hmetadata
 obtain ⟨⟨-,-,-,-,hsourceAnchor,hdestinationAnchor,-⟩,-⟩:=hmetadata
 have hsourceTexts:=valid_anchor hsourceAnchor
 have hdestinationTexts:=valid_anchor hdestinationAnchor
 simp only [rootStrings,List.all_cons,List.all_nil,Bool.and_true,Bool.and_eq_true]
 exact ⟨valid_path hsource.2 ksource.2.2 ksource.2.1,valid_path hstaged.2 kstaged.2.2 kstaged.2.1,
  valid_path hstaging.2 kstaging.2.2 kstaging.2.1,
  valid_path hdestination.2 kdestination.2.2 kdestination.2.1,valid_snapshot hrevision,
  hsourceTexts.1,hdestinationTexts.1,hsourceTexts.2,hdestinationTexts.2,ksource.2.1,
  kstaged.2.1,kstaging.2.1,kdestination.2.1⟩

lemma entryTexts_valid (h:ManifestSound manifest) (i : ℕ) (hi:i < manifest.entries.length):
 (entryStrings manifest.entries[i]).all validUtf8WithoutNul=true:=by
 have hentry:=h.entries i hi
 obtain ⟨r,hbelongs⟩:=hentry.belongs
 obtain ⟨revision,hrevision,-⟩:=hbelongs.volume
 simp only [entryStrings,List.all_cons,List.all_nil,Bool.and_true,Bool.and_eq_true]
 exact ⟨valid_name hentry.name,hentry.text,valid_snapshot hrevision⟩

end Texts

section Reading

lemma semanticsOfCode_code (h:semantics=.posixExact):
 semanticsOfCode (semanticsCode semantics)=some semantics:=by
 rw [h]
 rfl

lemma semanticsCode_ofCode {code : UInt8} (h:semanticsOfCode code=some semantics):
 semanticsCode semantics=code:=by
 unfold semanticsOfCode at h
 split at h
 · next hzero =>
   cases h
   rw [hzero,semanticsCode]
 · split at h
   · next hone =>
     cases h
     rw [hone,semanticsCode]
   · cases h

lemma readTexts_append {texts : List Bytes} (h:∀text∈texts,text.length<2 ^ 32)
 (rest : Bytes) : (readTexts texts.length).run (texts.flatMap appendString++rest)=
  if texts.all validUtf8WithoutNul then some (texts,rest) else none:=by
 apply Reader.readMany_append
 intro text htext tail
 rw [readText,Reader.readString_bind text tail (h text htext),Reader.check_bind]
 rfl

variable (r : DirectoryTransferManifestRoot)

lemma readRootHeader_append (rest : Bytes) : readRootHeader.run (appendRootHeader r++rest)=
  some ({ source:=⟨[]⟩,stagedSource:=⟨[]⟩,stagingDestination:=⟨[]⟩,destination:=⟨[]⟩,
          sourceSnapshot:={ r.sourceSnapshot with sourceRevisionUtf8:=[] },
          linkCount:=r.linkCount,unsupportedShapeFlags := r.unsupportedShapeFlags,
          ownershipToken:=r.ownershipToken,firstEntry := r.firstEntry,
          entryCount:=r.entryCount },rest):=by
 simp only [readRootHeader,appendRootHeader,List.append_assoc,Reader.readInteger_bind,
  Reader.readFixed_bind,Reader.run_pure]

lemma readRoot_append (rest : Bytes)
 (h:∀text∈rootStrings r,text.length<2 ^ 32):
 OkExactly (readRoot.run (appendRoot r++rest))
  ((rootStrings r).all validUtf8WithoutNul) (r,rest):=by
 have hheader:=readRootHeader_append r ((rootStrings r).flatMap appendString++rest)
 have htexts:(readTexts 13).run ((rootStrings r).flatMap appendString++rest)=_:=
  readTexts_append h rest
 rw [readRoot,appendRoot,List.append_assoc,DetailReader.group_some hheader,
  ← Bool.and_true ((rootStrings r).all _)]
 exact DetailReader.okExactly_run_bind (DetailReader.okExactly_group htexts _) (okExactly_ok _)

lemma readEntry_append (e : DirectoryTransferManifestEntry) (rest : Bytes)
 (h:∀text∈entryStrings e,text.length<2 ^ 32):
 readEntry.run (appendEntry e++rest)=
  if (entryStrings e).all validUtf8WithoutNul then some (e,rest) else none:=by
 simp only [entryStrings,List.forall_mem_cons] at h
 obtain ⟨hname,hkey,hrevision,-⟩:=h
 simp only [readEntry,appendEntry,appendEntryHeader,entryStrings,List.flatMap_cons,
  List.flatMap_nil,List.append_nil,List.append_assoc,Reader.readInteger_bind,
  Reader.readEnum_bind,Reader.readString_bind,hname,hkey,hrevision,Reader.check_bind,
  Reader.run_pure]
 simp only [List.all_cons,List.all_nil,Bool.and_true,Bool.and_eq_true,true_and, decide_eq_true_eq]

variable {manifest : DirectoryTransferManifest}

def headerOf (manifest : DirectoryTransferManifest) : ManifestHeader where
 version:=manifest.version
 operationId:=manifest.operationId
 kind:=manifest.kind
 pathSemantics:=manifest.pathSemantics
 rootCount:=manifest.roots.length
 entryCount:=manifest.entries.length
 totalBytes:=manifest.totalBytes

lemma readManifestHeader_append (h:ManifestSound manifest) (rest : Bytes):
 readManifestHeader.run (appendManifestHeader manifest++rest)=
  some (headerOf manifest,rest):=by
 have hroots:=h.rootsSize
 have hentries:=h.entriesSize
 have hsome:=List.length_pos_of_ne_nil h.nonempty
 unfold kMaximumDirectoryTransferRoots at hroots
 unfold kMaximumDirectoryTransferEntries at hentries
 have hrootCount:(UInt32.ofNat manifest.roots.length).toNat=manifest.roots.length:=by
  rw [UInt32.toNat_ofNat']
  omega
 have hentryCount:(UInt32.ofNat manifest.entries.length).toNat=manifest.entries.length:=by
  rw [UInt32.toNat_ofNat']
  omega
 have hne:UInt32.ofNat manifest.roots.length≠0:=by
  intro hzero
  rw [hzero,UInt32.toNat_zero] at hrootCount
  omega
 simp only [readManifestHeader,appendManifestHeader,List.append_assoc,Reader.readInteger_bind,
  Reader.readEnum_bind,Reader.check_bind,hrootCount,hentryCount,
  semanticsOfCode_code h.semantics]
 exact if_pos (decide_eq_true ⟨trivial,trivial,hne,h.rootsSize,h.entriesSize⟩)

end Reading

lemma takes_texts (count : ℕ) {input rest : Bytes} {texts : List Bytes}
 (h:(readTexts count).run input=some (texts,rest)):
 texts.length=count ∧ input=texts.flatMap appendString++rest:=
 Reader.readMany_eq_some (takes_text _) _ _ _ _ h

lemma rootStrings_with (r : DirectoryTransferManifestRoot) {strings : List Bytes}
 (h:strings.length=13) : rootStrings (withRootStrings r strings)=strings:=by
 match strings, h with
 | [_,_,_,_,_,_,_,_,_,_,_,_,_], _=>rfl

lemma takes_root {r : DirectoryTransferManifestRoot}
 (h:readRoot.run input=.ok (r,rest)) : input=appendRoot r++rest:=by
 simp only [readRoot,DetailReader.run_bind,DetailReader.group,found_bind_eq_ok,Prod.exists,
  DetailReader.run_pure,Except.ok.injEq,Prod.mk.injEq] at h
 obtain ⟨header,mid,hheader,strings,tail,hstrings,rfl,rfl⟩:=h
 obtain ⟨hlength,rfl⟩:=takes_texts 13 hstrings
 simp only [readRootHeader,Reader.bind_eq_some,Reader.pure_eq_some] at hheader
 obtain ⟨first,_,hfirst,count,_,hcount,size,_,hsize,modified,_,hmodified,link,_,
  hlink,flags,_,hflags,token,_,htoken,rfl,rfl⟩ := hheader
 rw [Reader.takes_integer _ _ _ hfirst,Reader.takes_integer _ _ _ hcount,
  Reader.takes_integer _ _ _ hsize,Reader.takes_integer _ _ _ hmodified,
  Reader.takes_integer _ _ _ hlink,Reader.takes_integer _ _ _ hflags,
  Reader.takes_fixed _ _ _ _ htoken,appendRoot,rootStrings_with _ hlength]
 simp only [appendRootHeader,withRootStrings,List.append_assoc]

lemma takes_roots (count index : ℕ) {input rest : Bytes}
 {roots : List DirectoryTransferManifestRoot}
 (h:(DetailReader.readItems (fun _=>readRoot) index count).run input=.ok (roots,rest)):
 roots.length=count ∧ input=roots.flatMap appendRoot++rest:=by
 induction count generalizing index input roots with
 | zero=>
  simp only [DetailReader.readItems,DetailReader.run_pure,Except.ok.injEq,Prod.mk.injEq] at h
  obtain ⟨rfl,rfl⟩:=h
  exact ⟨rfl,rfl⟩
 | succ count ih=>
  simp only [DetailReader.readItems,DetailReader.run_bind,bind_pair_eq_ok,
   DetailReader.run_pure,Except.ok.injEq,Prod.mk.injEq] at h
  obtain ⟨r,mid,hroot,tail,last,htail,rfl,rfl⟩:=h
  obtain ⟨hlength,rfl⟩:=ih _ htail
  refine ⟨by rw [List.length_cons,hlength],?_⟩
  rw [takes_root hroot,List.flatMap_cons,List.append_assoc]

lemma takes_entry : readEntry.Takes appendEntry:=by
 intro input e rest h
 simp only [readEntry,Reader.bind_eq_some,Reader.check_eq_some,Reader.pure_eq_some] at h
 obtain ⟨index,_,hindex,parent,_,hparent,depth,_,hdepth,kind,_,hkind,reserved,_,
  hreserved,size,_,hsize,modified,_,hmodified,link,_,hlink,flags,_,hflags,name,_,
  hname,key,_,hkey,revision,_,hrevision,_,_,⟨hcheck,rfl⟩,rfl,rfl⟩ := h
 have hzero:reserved=0:=(of_decide_eq_true hcheck).1
 rw [Reader.takes_integer _ _ _ hindex,Reader.takes_integer _ _ _ hparent,
  Reader.takes_integer _ _ _ hdepth,Reader.takes_enum (by decide) _ _ _ hkind,
  Reader.takes_integer _ _ _ hreserved,Reader.takes_integer _ _ _ hsize,
  Reader.takes_integer _ _ _ hmodified,Reader.takes_integer _ _ _ hlink,
  Reader.takes_integer _ _ _ hflags,Reader.takes_string _ _ _ hname,
  Reader.takes_string _ _ _ hkey,Reader.takes_string _ _ _ hrevision,hzero]
 simp only [appendEntry,appendEntryHeader,entryStrings,List.flatMap_cons,List.flatMap_nil,
  List.append_nil,List.append_assoc]

lemma takes_header {header : ManifestHeader}
 (h:readManifestHeader.run input=some (header,rest)) {manifest : DirectoryTransferManifest}
 (hheader:headerOf manifest=header) : input=appendManifestHeader manifest++rest:=by
 simp only [readManifestHeader,Reader.bind_eq_some,Reader.check_eq_some,Reader.pure_eq_some,
  Reader.ofOption,Option.map_eq_some_iff,Prod.mk.injEq] at h
 obtain ⟨magic,_,hmagic,version,_,hversion,operation,_,hoperation,kind,_,hkind,code,_,
  hcode,reserved,_,hreserved,roots,_,hroots,entries,_,hentries,total,_,htotal,_,_,
  ⟨hcheck,rfl⟩,semantics,_,⟨_,hsemantics,rfl,rfl⟩,rfl,rfl⟩ := h
 obtain ⟨rfl,rfl,-⟩:=of_decide_eq_true hcheck
 simp only [headerOf,ManifestHeader.mk.injEq] at hheader
 obtain ⟨rfl,rfl,rfl,rfl,hrootCount,hentryCount,rfl⟩:=hheader
 rw [Reader.takes_integer _ _ _ hmagic,Reader.takes_integer _ _ _ hversion,
  Reader.takes_integer _ _ _ hoperation,Reader.takes_enum (by decide) _ _ _ hkind,
  Reader.takes_integer _ _ _ hcode,Reader.takes_integer _ _ _ hreserved,
  Reader.takes_integer _ _ _ hroots,Reader.takes_integer _ _ _ hentries,
  Reader.takes_integer _ _ _ htotal]
 simp only [appendManifestHeader,semanticsCode_ofCode hsemantics,hrootCount,hentryCount,
  UInt32.ofNat_toNat,List.append_assoc]

section Exact
variable {sha256 : Bytes → ManifestDigest} {manifest : DirectoryTransferManifest} {payload : Bytes}

def manifestPayload (sha256 : Bytes → ManifestDigest) (manifest : DirectoryTransferManifest):
  Bytes:=
 manifestBody manifest++(sha256 (manifestBody manifest)).bytes

lemma encode_iff : encodeDirectoryTransferManifest sha256 manifest=.ok payload ↔
 ManifestValid manifest ∧ manifestPayload sha256 manifest=payload:=by
 unfold encodeDirectoryTransferManifest ManifestValid
 cases hcheck:validDirectoryTransferManifest manifest with
 | error detail=>simp
 | ok=>
  obtain ⟨size,hsize⟩:=(sound_of_valid hcheck).size
  obtain ⟨hlength,hstrings,-⟩:=size_adds hsize
  have hsmall:((manifestStrings manifest).all fun text =>
    decide (text.length ≤ maximumStringBytes))=true:=by
   rw [List.all_eq_true]
   exact fun text htext=>decide_eq_true (hstrings text htext)
  simp only [hsize,hsmall,hlength,decide_true,bind_unit_eq_ok,require_eq_ok,pure_eq_ok, true_and]
  rfl

lemma payload_split (body : Bytes) : payloadBody (body++(sha256 body).bytes)=body ∧
 payloadDigest (body++(sha256 body).bytes)=(sha256 body).bytes:=by
 have hlength:=(sha256 body).length_eq
 have hfront:(body++(sha256 body).bytes).length - kDirectoryTransferManifestDigestBytes=
   body.length:=by
  rw [List.length_append,hlength]
  omega
 rw [payloadBody,payloadDigest,hfront]
 exact ⟨List.take_left,List.drop_left⟩

lemma decodeImpl_iff : decodeDirectoryTransferManifestImpl sha256 payload=.ok manifest ↔
 payload.length≤kMaximumDirectoryTransferManifestBytes ∧
 ∃ body,payload=body++(sha256 body).bytes ∧
 ∃ header rest,readManifestHeader.run body=some (header,rest) ∧
 header.rootCount*minimumRootBytes+header.entryCount*minimumEntryBytes ≤ rest.length ∧
 ∃ roots rest',(DetailReader.readItems (fun _=>readRoot) 0 header.rootCount).run rest=
  .ok (roots,rest') ∧
 ∃ entries,(Reader.readMany readEntry header.entryCount).run rest'=some (entries,[]) ∧
  ManifestValid manifest ∧
  { version:=header.version,operationId:=header.operationId,kind:=header.kind,
    pathSemantics:=header.pathSemantics,totalBytes := header.totalBytes,roots := roots,
    entries:=entries }=manifest:=by
 simp only [decodeDirectoryTransferManifestImpl,bind_unit_eq_ok,found_bind_eq_ok,
  bind_pair_eq_ok,require_eq_ok,decide_eq_true_eq,pure_eq_ok,orDetail_eq_ok,Prod.exists]
 constructor
 · rintro ⟨⟨hsize,hleast⟩,hdigest,header,rest,hheader,hcounts,roots,rest',hroots,entries,
    last,hentries,hlast,hvalid,hmanifest⟩
   subst hlast
   refine ⟨hsize,payloadBody payload,?_,header,rest,hheader,hcounts,roots,rest',hroots,
    entries,hentries,hmanifest ▸ hvalid,hmanifest⟩
   rw [←hdigest,payloadBody,payloadDigest,List.take_append_drop]
 · rintro ⟨hsize,body,hpayload,header,rest,hheader,hcounts,roots,rest',hroots,entries,
    hentries,hvalid,hmanifest⟩
   subst hpayload
   have hlength:=(sha256 body).length_eq
   rw [(payload_split body).1,(payload_split body).2]
   refine ⟨⟨hsize,?_⟩,rfl,header,rest,hheader,hcounts,roots,rest',hroots,entries,[],
    hentries,rfl,hmanifest ▸ hvalid,hmanifest⟩
   rw [List.length_append,hlength]
   omega

lemma decode_iff : decodeDirectoryTransferManifest sha256 payload=.ok manifest ↔
 encodedManifestHasIncompatibleVersion sha256 payload=false ∧
  decodeDirectoryTransferManifestImpl sha256 payload=.ok manifest:=by
 unfold decodeDirectoryTransferManifest decodeDirectoryTransferManifestStatus
 cases encodedManifestHasIncompatibleVersion sha256 payload with
 | true=>simp [Except.mapError]
 | false=>
  cases decodeDirectoryTransferManifestImpl sha256 payload with
  | error detail=>simp [Except.mapError]
  | ok decoded=>simp [Except.mapError]

lemma minimum_le (manifest : DirectoryTransferManifest):
 manifest.roots.length*minimumRootBytes+manifest.entries.length*minimumEntryBytes ≤
  (manifest.roots.flatMap appendRoot++manifest.entries.flatMap appendEntry).length:=by
 have hroots:manifest.roots.length*minimumRootBytes ≤
   (manifest.roots.flatMap appendRoot).length:=by
  induction manifest.roots with
  | nil=>exact Nat.zero_le _
  | cons r rest ih=>
   have hroot:minimumRootBytes≤(appendRoot r).length:=by
    rw [length_appendRoot]
    simp only [minimumRootBytes,rootBytes,stringsBytes,rootStrings,List.map_cons,
     List.map_nil,List.sum_cons,List.sum_nil,kDirectoryTransferOwnershipTokenBytes]
    omega
   rw [List.flatMap_cons,List.length_append,List.length_cons,Nat.succ_mul]
   omega
 have hentries:manifest.entries.length*minimumEntryBytes ≤
   (manifest.entries.flatMap appendEntry).length:=by
  induction manifest.entries with
  | nil=>exact Nat.zero_le _
  | cons e rest ih=>
   have hentry:minimumEntryBytes≤(appendEntry e).length:=by
    rw [length_appendEntry]
    simp only [minimumEntryBytes,entryBytes,stringsBytes,entryStrings,List.map_cons,
     List.map_nil,List.sum_cons,List.sum_nil]
    omega
   rw [List.flatMap_cons,List.length_append,List.length_cons,Nat.succ_mul]
   omega
 rw [List.length_append]
 exact Nat.add_le_add hroots hentries

lemma compatible_payload (hversion:manifest.version=kDirectoryTransferManifestVersion):
 encodedManifestHasIncompatibleVersion sha256 (manifestPayload sha256 manifest)=false:=by
 have hread:readMagicAndVersion.run (manifestBody manifest)=
   some ((manifestMagic,manifest.version),(manifestBody manifest).drop 8):=by
  simp only [manifestBody,appendManifestHeader,List.append_assoc,readMagicAndVersion,
   Reader.readInteger_bind,Reader.run_pure]
  rfl
 unfold encodedManifestHasIncompatibleVersion
 rw [manifestPayload,(payload_split _).1,(payload_split _).2,hread,hversion]
 simp

lemma strings_small {size : ℕ} (h:encodedSize manifest=some size):
 (∀r∈manifest.roots,∀text∈rootStrings r,text.length<2 ^ 32) ∧
  ∀e∈manifest.entries,∀text∈entryStrings e,text.length<2 ^ 32:=by
 obtain ⟨-,hstrings,-⟩:=size_adds h
 have hsmall:∀text∈manifestStrings manifest,text.length<2 ^ 32:=by
  intro text htext
  have hle:=hstrings text htext
  unfold maximumStringBytes at hle
  omega
 constructor
 · intro r hroot text htext
   exact hsmall text (List.mem_append_left _ (List.mem_flatMap.mpr ⟨r,hroot,htext⟩))
 · intro e hentry text htext
   exact hsmall text (List.mem_append_right _ (List.mem_flatMap.mpr ⟨e,hentry,htext⟩))

lemma decode_payload (h:ManifestValid manifest):
 decodeDirectoryTransferManifest sha256 (manifestPayload sha256 manifest)=.ok manifest:=by
 have hsound:=sound_of_valid h
 obtain ⟨size,hsize⟩:=hsound.size
 obtain ⟨hlength,-,hbound⟩:=size_adds hsize
 obtain ⟨hrootTexts,hentryTexts⟩:=strings_small hsize
 have hroots:=DetailReader.readItems_append (fun _=>readRoot) appendRoot
  (fun r=>(rootStrings r).all validUtf8WithoutNul) (fun _ r=>r) manifest.roots 0
  (fun _ r hroot rest=>readRoot_append r rest (hrootTexts r hroot))
  (manifest.entries.flatMap appendEntry)
 have hentries:=Reader.readMany_append readEntry appendEntry
  (fun e=>(entryStrings e).all validUtf8WithoutNul) manifest.entries
  (fun e hentry rest=>readEntry_append e rest (hentryTexts e hentry)) []
 have hrootsValid:(manifest.roots.all fun r =>
   (rootStrings r).all validUtf8WithoutNul)=true:=by
  rw [List.all_eq_true]
  intro r hroot
  obtain ⟨i,hi,rfl⟩:=List.getElem_of_mem hroot
  exact rootTexts_valid hsound i hi
 have hentriesValid:(manifest.entries.all fun e =>
   (entryStrings e).all validUtf8WithoutNul)=true:=by
  rw [List.all_eq_true]
  intro e hentry
  obtain ⟨i,hi,rfl⟩:=List.getElem_of_mem hentry
  exact entryTexts_valid hsound i hi
 rw [hentriesValid,if_pos rfl,List.append_nil] at hentries
 have hsame:manifest.roots.mapIdx (fun _ r=>r)=manifest.roots:=by
  apply List.ext_getElem<;>simp
 have hall:=hroots.iff.mpr hrootsValid
 rw [hsame] at hall
 rw [decode_iff,decodeImpl_iff]
 refine ⟨compatible_payload hsound.version,?_,manifestBody manifest,rfl,headerOf manifest,_,
  readManifestHeader_append hsound _,minimum_le manifest,_,_,hall,_,hentries,h,rfl⟩
 rw [manifestPayload,List.length_append,(sha256 _).length_eq]
 omega

lemma payload_decode (h:decodeDirectoryTransferManifest sha256 payload=.ok manifest):
 ManifestValid manifest ∧ manifestPayload sha256 manifest=payload:=by
 rw [decode_iff,decodeImpl_iff] at h
 obtain ⟨-,-,body,hpayload,header,rest,hheader,-,roots,rest',hroots,entries,hentries,
  hvalid,hmanifest⟩ := h
 obtain ⟨hrootCount,hrest⟩:=takes_roots _ _ hroots
 obtain ⟨hentryCount,hrest'⟩:=Reader.readMany_eq_some takes_entry _ _ _ _ hentries
 have hroot:roots=manifest.roots:=by rw [←hmanifest]
 have hentry:entries=manifest.entries:=by rw [←hmanifest]
 have hread:headerOf manifest=header:=by
  rw [←hmanifest,headerOf,hrootCount,hentryCount]
 rw [hrest,hrest',List.append_nil,hroot,hentry] at hheader
 refine ⟨hvalid,?_⟩
 rw [hpayload,takes_header hheader hread]
 rfl

/-- A valid manifest is written and read back, and what reads back is what was
  written. -/
theorem directory_manifest_exact (sha256 : Bytes → ManifestDigest):
 (∀manifest,ManifestValid manifest → ∃ payload,
  encodeDirectoryTransferManifest sha256 manifest=.ok payload ∧
   decodeDirectoryTransferManifest sha256 payload=.ok manifest) ∧
 ∀payload manifest,decodeDirectoryTransferManifest sha256 payload=.ok manifest →
  encodeDirectoryTransferManifest sha256 manifest=.ok payload:=by
 constructor
 · intro manifest h
   exact ⟨_,encode_iff.mpr ⟨h,rfl⟩,decode_payload h⟩
 · intro payload manifest h
   exact encode_iff.mpr (payload_decode h)

end Exact

def sampleToken : DirectoryTransferOwnershipToken := .fill _ 1

def sampleRoot : DirectoryTransferManifestRoot:=
 let source : Path := ⟨utf8 "/a/s"⟩
 let destination : Path := ⟨utf8 "/b/d"⟩
 let staged:=directoryTransferStagedSourcePath source 1 0 sampleToken
 let staging:=directoryTransferStagingDestinationPath destination 1 0 sampleToken
 { source:=source,stagedSource:=staged,stagingDestination:=staging,
   destination:=destination,
   sourceSnapshot:={ modifiedUnixNs:=7,sourceRevisionUtf8:=utf8 "posix:1:2:3" },
   sourceParentIdentityUtf8:=utf8 "posix:1:5",sourceParentRevisionUtf8 := utf8 "posix:1:5:9",
   destinationParentIdentityUtf8:=utf8 "posix:1:6",
   destinationParentRevisionUtf8:=utf8 "posix:1:6:9",
   sourceNamespaceKeyUtf8:=source.native,stagedSourceNamespaceKeyUtf8 := staged.native,
   stagingDestinationNamespaceKeyUtf8:=staging.native,
   destinationNamespaceKeyUtf8:=destination.native,
   ownershipToken:=sampleToken,entryCount := 2 }

def sampleManifest : DirectoryTransferManifest where
 operationId:=1
 kind:=.move
 pathSemantics:=.posixExact
 totalBytes:=5
 roots:=[sampleRoot]
 entries:=
  [{ name:=⟨utf8 "sub"⟩,namespaceKeyUtf8:=utf8 "sub",linkCount:=0,kind:=.directory,
     sourceSnapshot:={ modifiedUnixNs:=7,sourceRevisionUtf8:=utf8 "posix:1:8:3" } },
   { name:=⟨utf8 "f"⟩,namespaceKeyUtf8:=utf8 "f",parentIndex:=0,depth:=2,
     sourceSnapshot:={ sizeBytes:=5,modifiedUnixNs:=7,
                       sourceRevisionUtf8:=utf8 "posix:1:9:3" } }]

lemma sample_valid : ManifestValid sampleManifest:=by
 unfold ManifestValid
 decide +kernel

def onesDigest (_ : Bytes) : ManifestDigest := ⟨List.replicate 32 1,rfl⟩

theorem directory_manifest_exact_sample:
 (∃ payload,encodeDirectoryTransferManifest onesDigest sampleManifest=.ok payload ∧
  decodeDirectoryTransferManifest onesDigest payload=.ok sampleManifest) ∧
 encodeDirectoryTransferManifest onesDigest sampleManifest=
  .ok (manifestPayload onesDigest sampleManifest):=
 ⟨(directory_manifest_exact onesDigest).1 _ sample_valid,
  (directory_manifest_exact onesDigest).2 _ _ (decode_payload sample_valid)⟩

end VoVe.DirectoryManifestRoundTrip
