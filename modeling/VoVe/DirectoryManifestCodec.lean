import VoVe.PathText
import VoVe.TransactionCodec

set_option autoImplicit false

namespace VoVe.DirectoryManifestCodec
open ByteCodec AsciiText Checks TransferTransaction TransactionCodec DirectoryManifest
open BasicDirectoryManifest (DirectoryPathSemantics DirectoryTransferOwnershipToken
 kDirectoryTransferOwnershipTokenBytes)

def manifestMagic : UInt32 := 0x314d4456

abbrev ManifestDigest := FixedBytes kDirectoryTransferManifestDigestBytes

inductive ManifestThrown where
 | invalidArgument (what : Bytes)
 | lengthError (what : Bytes)
 | logicError (what : Bytes)
 deriving DecidableEq

inductive DirectoryTransferManifestDecodeStatus where
 | success
 | incompatibleVersion
 | corrupt
 deriving DecidableEq

/-- The two pathname models a header may name. -/
def semanticsOfCode (code : UInt8) : Option DirectoryPathSemantics:=
 if code = 0 then some .windowsOrdinalNfc else if code = 1 then some .posixExact else none

def semanticsCode : DirectoryPathSemantics → UInt8
 | .windowsOrdinalNfc=>0
 | .posixExact=>1
 | .other code=>code

variable (manifest : DirectoryTransferManifest)

def appendManifestHeader : Bytes:=
 appendInteger manifestMagic++(appendInteger manifest.version ++
  (appendInteger manifest.operationId++(appendEnum manifest.kind ++
  (appendInteger (semanticsCode manifest.pathSemantics)++(appendInteger (0 : UInt16) ++
  (appendInteger (UInt32.ofNat manifest.roots.length) ++
  (appendInteger (UInt32.ofNat manifest.entries.length) ++
  appendInteger manifest.totalBytes)))))))

variable (root : DirectoryTransferManifestRoot)

def appendRootHeader : Bytes:=
 appendInteger root.firstEntry++(appendInteger root.entryCount ++
  (appendInteger root.sourceSnapshot.sizeBytes ++
  (appendInteger root.sourceSnapshot.modifiedUnixNs++(appendInteger root.linkCount ++
  (appendInteger root.unsupportedShapeFlags++root.ownershipToken.bytes)))))

def appendRoot : Bytes := appendRootHeader root++(rootStrings root).flatMap appendString

variable (entry : DirectoryTransferManifestEntry)

def appendEntryHeader : Bytes:=
 appendInteger entry.rootIndex++(appendInteger entry.parentIndex ++
  (appendInteger entry.depth++(appendEnum entry.kind++(appendInteger (0 : UInt8) ++
  (appendInteger entry.sourceSnapshot.sizeBytes ++
  (appendInteger entry.sourceSnapshot.modifiedUnixNs++(appendInteger entry.linkCount ++
  appendInteger entry.unsupportedShapeFlags)))))))

def appendEntry : Bytes := appendEntryHeader entry++(entryStrings entry).flatMap appendString

def manifestBody : Bytes:=
 appendManifestHeader manifest++(manifest.roots.flatMap appendRoot ++
  manifest.entries.flatMap appendEntry)

def manifestStrings : List Bytes:=
 manifest.roots.flatMap rootStrings++manifest.entries.flatMap entryStrings

structure ManifestHeader where
 version : UInt32
 operationId : UInt64
 kind : FileTransferKind
 pathSemantics : DirectoryPathSemantics
 rootCount : ℕ
 entryCount : ℕ
 totalBytes : UInt64

def readManifestHeader : Reader ManifestHeader := do
 let magic ← Reader.readInteger UInt32
 let version ← Reader.readInteger UInt32
 let operationId ← Reader.readInteger UInt64
 let kind ← Reader.readEnum FileTransferKind
 let pathSemantics ← Reader.readInteger UInt8
 let reserved16 ← Reader.readInteger UInt16
 let rootCount ← Reader.readInteger UInt32
 let entryCount ← Reader.readInteger UInt32
 let totalBytes ← Reader.readInteger UInt64
 Reader.check (magic = manifestMagic ∧ reserved16 = 0 ∧ rootCount≠0 ∧
  rootCount.toNat ≤ kMaximumDirectoryTransferRoots ∧
  entryCount.toNat ≤ kMaximumDirectoryTransferEntries)
 let semantics ← Reader.ofOption (semanticsOfCode pathSemantics)
 pure { version:=version,operationId:=operationId,kind:=kind,pathSemantics:=semantics,
        rootCount:=rootCount.toNat,entryCount := entryCount.toNat,totalBytes := totalBytes }

def minimumRootBytes : ℕ := 4*2+8*2+8+kDirectoryTransferOwnershipTokenBytes+4*13
def minimumEntryBytes : ℕ := 4*2+2+1*2+8*2+8+4*3

/-- The paths of a root read so far are empty. -/
def readRootHeader : Reader DirectoryTransferManifestRoot := do
 let firstEntry ← Reader.readInteger UInt32
 let entryCount ← Reader.readInteger UInt32
 let sizeBytes ← Reader.readInteger UInt64
 let modifiedUnixNs ← Reader.readInteger Int64
 let linkCount ← Reader.readInteger UInt32
 let unsupportedShapeFlags ← Reader.readInteger UInt32
 let ownershipToken ← Reader.readFixed kDirectoryTransferOwnershipTokenBytes
 pure { source:=⟨[]⟩,stagedSource:=⟨[]⟩,stagingDestination:=⟨[]⟩,destination:=⟨[]⟩,
        sourceSnapshot:={ sizeBytes:=sizeBytes,modifiedUnixNs:=modifiedUnixNs },
        linkCount:=linkCount,unsupportedShapeFlags := unsupportedShapeFlags,
        ownershipToken:=ownershipToken,firstEntry := firstEntry,entryCount := entryCount }

def withRootStrings (strings : List Bytes) : DirectoryTransferManifestRoot where
 source:=⟨strings.getD 0 []⟩
 stagedSource:=⟨strings.getD 1 []⟩
 stagingDestination:=⟨strings.getD 2 []⟩
 destination:=⟨strings.getD 3 []⟩
 sourceSnapshot:={ root.sourceSnapshot with sourceRevisionUtf8:=strings.getD 4 [] }
 sourceParentIdentityUtf8:=strings.getD 5 []
 destinationParentIdentityUtf8:=strings.getD 6 []
 sourceParentRevisionUtf8:=strings.getD 7 []
 destinationParentRevisionUtf8:=strings.getD 8 []
 sourceNamespaceKeyUtf8:=strings.getD 9 []
 stagedSourceNamespaceKeyUtf8:=strings.getD 10 []
 stagingDestinationNamespaceKeyUtf8:=strings.getD 11 []
 destinationNamespaceKeyUtf8:=strings.getD 12 []
 ownershipToken:=root.ownershipToken
 linkCount:=root.linkCount
 unsupportedShapeFlags:=root.unsupportedShapeFlags
 firstEntry:=root.firstEntry
 entryCount:=root.entryCount

def readTexts (count : ℕ) : Reader (List Bytes):=
 Reader.readMany (readText validUtf8WithoutNul) count

def readRoot : DetailReader DirectoryTransferManifestRoot := do
 let root ← DetailReader.group readRootHeader
  (utf8 "directory-transfer root header is invalid or truncated")
 let strings ← DetailReader.group (readTexts 13)
  (utf8 "directory-transfer root text is invalid or truncated")
 pure (withRootStrings root strings)

/-- The texts are checked only after all of them were read. -/
def readEntry : Reader DirectoryTransferManifestEntry := do
 let rootIndex ← Reader.readInteger UInt32
 let parentIndex ← Reader.readInteger UInt32
 let depth ← Reader.readInteger UInt16
 let kind ← Reader.readEnum DirectoryManifestEntryKind
 let reserved ← Reader.readInteger UInt8
 let sizeBytes ← Reader.readInteger UInt64
 let modifiedUnixNs ← Reader.readInteger Int64
 let linkCount ← Reader.readInteger UInt32
 let unsupportedShapeFlags ← Reader.readInteger UInt32
 let name ← Reader.readString
 let namespaceKey ← Reader.readString
 let sourceRevisionUtf8 ← Reader.readString
 Reader.check (reserved = 0 ∧ validUtf8WithoutNul name ∧ validUtf8WithoutNul namespaceKey ∧
  validUtf8WithoutNul sourceRevisionUtf8)
 pure { name:=⟨name⟩,namespaceKeyUtf8:=namespaceKey,
        sourceSnapshot:={ sizeBytes:=sizeBytes,modifiedUnixNs:=modifiedUnixNs,
                          sourceRevisionUtf8:=sourceRevisionUtf8 },
        linkCount:=linkCount,unsupportedShapeFlags := unsupportedShapeFlags,
        rootIndex:=rootIndex,parentIndex := parentIndex,depth := depth,kind := kind }

section Digest
variable (sha256 : Bytes → ManifestDigest)

def encodeDirectoryTransferManifest (manifest : DirectoryTransferManifest):
  Except ManifestThrown Bytes:=
 match validDirectoryTransferManifest manifest with
 | .error detail=>.error (.invalidArgument detail)
 | .ok ()=>
  match encodedSize manifest with
  | none=>.error (.lengthError (utf8 "directory-transfer manifest exceeds its size limit"))
  | some payloadSize=>do
   require ((manifestStrings manifest).all fun text=>text.length ≤ maximumStringBytes)
    (.lengthError (utf8 "catalog protocol string is too large"))
   let payload:=manifestBody manifest
   require (payload.length+kDirectoryTransferManifestDigestBytes = payloadSize)
    (.logicError (utf8 "directory-transfer manifest size accounting failed"))
   pure (payload++(sha256 payload).bytes)

variable (payload : Bytes)

def payloadBody : Bytes := payload.take (payload.length - kDirectoryTransferManifestDigestBytes)

def payloadDigest : Bytes := payload.drop (payload.length - kDirectoryTransferManifestDigestBytes)

def readMagicAndVersion : Reader (UInt32 × UInt32) := do
 let magic ← Reader.readInteger UInt32
 let version ← Reader.readInteger UInt32
 pure (magic,version)

def encodedManifestHasIncompatibleVersion : Bool:=
 if payload.length < kDirectoryTransferManifestDigestBytes+4*2 ∨
   payload.length > kMaximumDirectoryTransferManifestBytes then false
 else if payloadDigest payload≠(sha256 (payloadBody payload)).bytes then false
 else
  match readMagicAndVersion.run (payloadBody payload) with
  | some ((magic,version),_)=>
   magic = manifestMagic ∧ version≠kDirectoryTransferManifestVersion
  | none=>false

def decodeDirectoryTransferManifestImpl : Except Bytes DirectoryTransferManifest := do
 require (payload.length ≤ kMaximumDirectoryTransferManifestBytes ∧
   kDirectoryTransferManifestDigestBytes ≤ payload.length)
  (utf8 "directory-transfer manifest size is invalid")
 require (payloadDigest payload = (sha256 (payloadBody payload)).bytes)
  (utf8 "directory-transfer manifest digest is invalid")
 let (header,rest) ← found (readManifestHeader.run (payloadBody payload))
  (utf8 "directory-transfer manifest header is invalid or truncated")
 require (header.rootCount*minimumRootBytes+header.entryCount*minimumEntryBytes ≤ rest.length)
  (utf8 "directory-transfer manifest counts exceed its body")
 let (roots,rest) ← (DetailReader.readItems (fun _=>readRoot) 0 header.rootCount).run rest
 let (entries,rest) ← found ((Reader.readMany readEntry header.entryCount).run rest)
  (utf8 "directory-transfer entry is invalid or truncated")
 let decoded : DirectoryTransferManifest:=
  { version:=header.version,operationId:=header.operationId,kind:=header.kind,
    pathSemantics:=header.pathSemantics,totalBytes := header.totalBytes,roots := roots,
    entries:=entries }
 let trailing:=utf8 "directory-transfer manifest contains trailing or invalid data"
 require (rest = []) trailing
 orDetail (validDirectoryTransferManifest decoded) trailing
 pure decoded

def decodeDirectoryTransferManifestStatus:
  Except (DirectoryTransferManifestDecodeStatus × Bytes) DirectoryTransferManifest:=
 if encodedManifestHasIncompatibleVersion sha256 payload then
  .error (.incompatibleVersion,utf8 "directory-transfer manifest version is incompatible")
 else (decodeDirectoryTransferManifestImpl sha256 payload).mapError fun detail=>(.corrupt,detail)

def decodeDirectoryTransferManifest : Except Bytes DirectoryTransferManifest:=
 (decodeDirectoryTransferManifestStatus sha256 payload).mapError Prod.snd

end Digest

section Lengths

lemma foldlM_adds {α : Type} {step : ℕ → α → Option ℕ} {weight : α → ℕ} {passes : α → Prop}
 {xs : List α} {total after : ℕ} (h:xs.foldlM step total=some after)
 (htotal:total≤kMaximumDirectoryTransferManifestBytes)
 (hstep:∀total x after,step total x=some after →
  after=total+weight x ∧ passes x ∧ after≤kMaximumDirectoryTransferManifestBytes):
 after=total+(xs.map weight).sum ∧ (∀x∈xs,passes x) ∧
  after≤kMaximumDirectoryTransferManifestBytes:=by
 induction xs generalizing total with
 | nil=>
  cases h
  simp [htotal]
 | cons x rest ih=>
  rw [List.foldlM_cons] at h
  obtain ⟨mid,hmid,hrest⟩:=Option.bind_eq_some_iff.mp h
  obtain ⟨hweight,hx,hbound⟩:=hstep _ _ _ hmid
  obtain ⟨hsum,hall,hlast⟩:=ih hrest hbound
  refine ⟨?_,List.forall_mem_cons.mpr ⟨hx,hall⟩,hlast⟩
  rw [hsum,hweight,List.map_cons,List.sum_cons,Nat.add_assoc]

lemma addSize_adds {total amount after : ℕ} (h:addSize total amount=some after):
 after=total+amount ∧ after≤kMaximumDirectoryTransferManifestBytes:=by
 unfold addSize at h
 split at h
 · cases h
 · split at h
   · next hfits =>
     cases h
     exact ⟨rfl,hfits⟩
   · cases h

lemma addString_adds {total after : ℕ} {text : Bytes}
 (h:addEncodedStringSize total text=some after):
 after=total+(4+text.length) ∧ text.length ≤ maximumStringBytes ∧
  after≤kMaximumDirectoryTransferManifestBytes:=by
 unfold addEncodedStringSize at h
 split at h
 · next hsmall =>
   obtain ⟨mid,hmid,hafter⟩:=Option.bind_eq_some_iff.mp h
   obtain ⟨rfl,-⟩:=addSize_adds hmid
   obtain ⟨rfl,hbound⟩:=addSize_adds hafter
   exact ⟨Nat.add_assoc _ _ _,hsmall,hbound⟩
 · cases h

def stringsBytes (strings : List Bytes) : ℕ := (strings.map fun text=>4+text.length).sum

lemma addObject_adds {fixed total after : ℕ} {strings : List Bytes}
 (h:addObjectSize fixed strings total=some after):
 after=total+(fixed+stringsBytes strings) ∧
  (∀text∈strings,text.length ≤ maximumStringBytes) ∧
  after≤kMaximumDirectoryTransferManifestBytes:=by
 obtain ⟨mid,hmid,hafter⟩:=Option.bind_eq_some_iff.mp h
 obtain ⟨rfl,hbound⟩:=addSize_adds hmid
 obtain ⟨hsum,hall,hlast⟩:=foldlM_adds hafter hbound fun _ _ _=>addString_adds
 exact ⟨by rw [hsum,Nat.add_assoc]; rfl,hall,hlast⟩

lemma length_strings (strings : List Bytes):
 (strings.flatMap appendString).length=stringsBytes strings:=by
 rw [List.length_flatMap,stringsBytes,funext appendString_length]

lemma length_appendRoot:
 (appendRoot root).length=rootBytes+stringsBytes (rootStrings root):=by
 have htoken:=root.ownershipToken.length_eq
 unfold kDirectoryTransferOwnershipTokenBytes at htoken
 simp only [appendRoot,appendRootHeader,List.length_append,appendInteger_length,
  WireInteger.width,htoken,length_strings,rootBytes]

lemma length_appendEntry:
 (appendEntry entry).length=entryBytes+stringsBytes (entryStrings entry):=by
 simp only [appendEntry,appendEntryHeader,List.length_append,appendInteger_length,
  appendEnum_length,WireInteger.width,length_strings,entryBytes]

variable {manifest : DirectoryTransferManifest} {size : ℕ}

lemma size_adds (h:encodedSize manifest=some size):
 (manifestBody manifest).length+kDirectoryTransferManifestDigestBytes=size ∧
  (∀text∈manifestStrings manifest,text.length ≤ maximumStringBytes) ∧
  size≤kMaximumDirectoryTransferManifestBytes:=by
 have hheader:headerBytes≤kMaximumDirectoryTransferManifestBytes:=by decide
 rw [encodedSize,if_neg (Nat.not_lt.mpr hheader)] at h
 obtain ⟨mid,hroots,hentries⟩:=Option.bind_eq_some_iff.mp h
 obtain ⟨hmid,hrootStrings,hbound⟩:=foldlM_adds hroots hheader fun _ _ _=>addObject_adds
 obtain ⟨hsize,hentryStrings,hlast⟩:=foldlM_adds hentries hbound fun _ _ _=>addObject_adds
 refine ⟨?_,?_,hlast⟩
 · rw [hsize,hmid]
   simp only [manifestBody,appendManifestHeader,List.length_append,appendInteger_length,
    appendEnum_length,WireInteger.width,List.length_flatMap,funext length_appendRoot,
    funext length_appendEntry,headerBytes]
   omega
 · intro text htext
   obtain hroot | hentry:=List.mem_append.mp htext
   · obtain ⟨root,hmem,hstring⟩:=List.mem_flatMap.mp hroot
     exact hrootStrings root hmem text hstring
   · obtain ⟨entry,hmem,hstring⟩:=List.mem_flatMap.mp hentry
     exact hentryStrings entry hmem text hstring

end Lengths

end VoVe.DirectoryManifestCodec
