import VoVe.DirectoryManifestCodec

set_option autoImplicit false

/-! The progress of a directory copy: a header that binds the manifest, the records
  after it, and the reducer that takes them. -/

namespace VoVe.DirectoryTransferProgress
open ByteCodec AsciiText Checks TransferTransaction
open DirectoryManifest DirectoryManifestShape DirectoryManifestCodec
open BasicDirectoryManifest (DirectoryPathSemantics DirectoryTransferOwnershipToken)

def kDirectoryTransferProgressVersion : UInt32 := 1
def kDirectoryTransferProgressHeaderBytes : ℕ := 128
def kDirectoryTransferProgressRecordBytes : ℕ := 176
def kDirectoryTransferProgressNoEntry : UInt32 := 0xffffffff
def kMaximumDirectoryTransferProgressRecords : ℕ:=
 kMaximumDirectoryTransferEntries+2*kMaximumDirectoryTransferRoots

abbrev DirectoryTransferProgressDigest := ManifestDigest

/-- An all-zero array stands for none. -/
def bytesEmpty {n : ℕ} (bytes : FixedBytes n) : Bool := bytes.bytes.all (· = 0)

inductive DirectoryTransferProgressEventKind where
 | rootStagingOwned
 | entryMaterialized
 | rootPublished
 deriving DecidableEq

inductive DirectoryTransferProgressObjectKind where
 | root
 | directory
 | regularFile
 deriving DecidableEq

inductive DirectoryTransferRootProgressPhase where
 | awaitingStaging
 | materializing
 | complete
 deriving DecidableEq

structure DirectoryTransferProgressHeader where
 version : UInt32 := kDirectoryTransferProgressVersion
 headerBytes : UInt16 := 128
 recordBytes : UInt16 := 176
 hashAlgorithm : UInt8 := 1
 kind : FileTransferKind := .copy
 flags : UInt16 := 0
 rootCount : UInt32 := 0
 entryCount : UInt32 := 0
 operationId : UInt64 := 0
 manifestEncodedSize : UInt64 := 0
 manifestDigest : DirectoryTransferProgressDigest := .zero _
 maximumRecordCount : UInt32 := 0
 headerSha256 : DirectoryTransferProgressDigest := .zero _
 deriving DecidableEq

structure DirectoryTransferProgressRecord where
 version : UInt8 := 1
 kind : DirectoryTransferProgressEventKind := .rootStagingOwned
 objectKind : DirectoryTransferProgressObjectKind := .root
 sequence : UInt64 := 0
 rootIndex : UInt32 := 0
 entryIndex : UInt32 := kDirectoryTransferProgressNoEntry
 contentBytes : UInt64 := 0
 ownershipToken : DirectoryTransferOwnershipToken := .zero _
 objectIdentitySha256 : DirectoryTransferProgressDigest := .zero _
 contentSha256 : DirectoryTransferProgressDigest := .zero _
 previousRecordSha256 : DirectoryTransferProgressDigest := .zero _
 recordSha256 : DirectoryTransferProgressDigest := .zero _
 deriving DecidableEq

structure DirectoryTransferProgressState where
 operationId : UInt64 := 0
 rootCount : UInt32 := 0
 entryCount : UInt32 := 0
 nextSequence : UInt64 := 1
 completedRoots : UInt32 := 0
 nextManifestEntry : UInt32 := 0
 activeContentBytes : UInt64 := 0
 phase : DirectoryTransferRootProgressPhase := .awaitingStaging
 lastRecordSha256 : DirectoryTransferProgressDigest := .zero _
 manifestDigest : DirectoryTransferProgressDigest := .zero _
 activeOwnershipToken : DirectoryTransferOwnershipToken := .zero _
 activeRootIdentitySha256 : DirectoryTransferProgressDigest := .zero _
 rollingTreeSha256 : DirectoryTransferProgressDigest := .zero _
 deriving DecidableEq

def DirectoryTransferProgressState.complete (state : DirectoryTransferProgressState) : Bool:=
 state.phase = .complete

def eventKindCode : DirectoryTransferProgressEventKind → UInt8
 | .rootStagingOwned=>1
 | .entryMaterialized=>2
 | .rootPublished=>3

def eventKindOfCode (code : UInt8) : Option DirectoryTransferProgressEventKind:=
 if code = 1 then some .rootStagingOwned else if code = 2 then some .entryMaterialized
 else if code = 3 then some .rootPublished else none

def objectKindCode : DirectoryTransferProgressObjectKind → UInt8
 | .root=>1
 | .directory=>2
 | .regularFile=>3

def objectKindOfCode (code : UInt8) : Option DirectoryTransferProgressObjectKind:=
 if code = 1 then some .root else if code = 2 then some .directory
 else if code = 3 then some .regularFile else none

def kDirectoryTransferControlVersion : UInt32 := 1

structure DirectoryTransferControlRecord where
 version : UInt32 := kDirectoryTransferControlVersion
 operationId : UInt64 := 0
 kind : FileTransferKind := .copy
 rootCount : UInt32 := 0
 manifestEncodedSize : UInt64 := 0
 manifestDigest : DirectoryTransferProgressDigest := .zero _
 deriving DecidableEq

def validDirectoryTransferControl (record : DirectoryTransferControlRecord) : Except Bytes Unit:=
 require (record.version = kDirectoryTransferControlVersion ∧ record.operationId≠0 ∧
   record.rootCount≠0 ∧ record.rootCount.toNat ≤ kMaximumDirectoryTransferRoots ∧
   kDirectoryTransferManifestDigestBytes ≤ record.manifestEncodedSize.toNat ∧
   record.manifestEncodedSize.toNat ≤ kMaximumDirectoryTransferManifestBytes ∧
   ¬bytesEmpty record.manifestDigest)
  (utf8 "directory-transfer prepared control is invalid")

def headerMagic : Bytes := utf8 "VOVEDTL1"
def recordMagic : UInt32 := 0x31525444
def treeSeedDomain : Bytes := utf8 "VOVETR1" ++ [0]
def treeEntryDomain : Bytes := utf8 "VOVETE1" ++ [0]
def identityDomain : Bytes := utf8 "VOVE-DT-ID-v1"

def encodeHeaderPrefix (header:DirectoryTransferProgressHeader) : Bytes:=
 headerMagic++(appendInteger header.version++(appendInteger header.headerBytes ++
  (appendInteger header.recordBytes++(appendInteger header.hashAlgorithm ++
  (appendEnum header.kind++(appendInteger header.flags++(appendInteger header.rootCount ++
  (appendInteger header.entryCount++(appendInteger (0 : UInt32) ++
  (appendInteger header.operationId++(appendInteger header.manifestEncodedSize ++
  (header.manifestDigest.bytes++(appendInteger header.maximumRecordCount ++
  (appendInteger (0 : UInt32)++(appendInteger (0 : UInt32) ++
  appendInteger (0 : UInt32))))))))))))))))

def encodeRecordPrefix (record : DirectoryTransferProgressRecord) : Bytes:=
 appendInteger recordMagic++(appendInteger record.version ++
  (appendInteger (eventKindCode record.kind) ++
  (appendInteger (objectKindCode record.objectKind)++(appendInteger (0 : UInt8) ++
  (appendInteger record.sequence++(appendInteger record.rootIndex ++
  (appendInteger record.entryIndex++(appendInteger record.contentBytes ++
  (record.ownershipToken.bytes++(record.objectIdentitySha256.bytes ++
  (record.contentSha256.bytes++record.previousRecordSha256.bytes)))))))))))

section Digest
variable (sha256 : Bytes → DirectoryTransferProgressDigest)
variable (header:DirectoryTransferProgressHeader)

def basicHeaderValid : Except Bytes Unit := do
 let expectedRecords:=header.entryCount.toNat+2*header.rootCount.toNat
 require (header.version = kDirectoryTransferProgressVersion ∧
   header.headerBytes.toNat = kDirectoryTransferProgressHeaderBytes ∧
   header.recordBytes.toNat = kDirectoryTransferProgressRecordBytes ∧
   header.hashAlgorithm = 1 ∧ header.kind = .copy ∧ header.flags = 0 ∧
   header.operationId≠0 ∧ header.rootCount≠0 ∧
   header.rootCount.toNat ≤ kMaximumDirectoryTransferRoots ∧
   header.entryCount.toNat ≤ kMaximumDirectoryTransferEntries ∧
   expectedRecords ≤ kMaximumDirectoryTransferProgressRecords ∧
   header.maximumRecordCount.toNat = expectedRecords ∧
   kDirectoryTransferManifestDigestBytes ≤ header.manifestEncodedSize.toNat ∧
   header.manifestEncodedSize.toNat ≤ kMaximumDirectoryTransferManifestBytes ∧
   ¬bytesEmpty header.manifestDigest ∧ ¬bytesEmpty header.headerSha256)
  (utf8 "directory-transfer progress header is invalid")
 require (sha256 (encodeHeaderPrefix header) = header.headerSha256)
  (utf8 "directory-transfer progress header digest is invalid")

def basicRecordValid (record : DirectoryTransferProgressRecord) : Except Bytes Unit := do
 require (record.version.toNat = kDirectoryTransferProgressVersion.toNat ∧ record.sequence≠0 ∧
   record.rootIndex.toNat < kMaximumDirectoryTransferRoots ∧
   (record.entryIndex = kDirectoryTransferProgressNoEntry ∨
    record.entryIndex.toNat < kMaximumDirectoryTransferEntries) ∧
   ¬bytesEmpty record.previousRecordSha256 ∧ ¬bytesEmpty record.recordSha256)
  (utf8 "directory-transfer progress record is invalid")
 require (sha256 (encodeRecordPrefix record) = record.recordSha256)
  (utf8 "directory-transfer progress record digest is invalid")

def thrownWhat : ManifestThrown → Bytes
 | .invalidArgument what=>what
 | .lengthError what=>what
 | .logicError what=>what

variable (control : DirectoryTransferControlRecord) (manifest : DirectoryTransferManifest)

def controlBindsManifest : Except Bytes Unit := do
 validDirectoryTransferControl control
 validDirectoryTransferManifest manifest
 require (control.kind = .copy ∧ manifest.kind = .copy)
  (utf8 "directory-transfer progress version 1 supports copy only")
 let encodedManifest ← (encodeDirectoryTransferManifest sha256 manifest).mapError fun thrown =>
  utf8 "directory-transfer manifest cannot be encoded: " ++ thrownWhat thrown
 require (control.operationId = manifest.operationId ∧
   control.rootCount.toNat = manifest.roots.length ∧
   control.manifestEncodedSize.toNat = encodedManifest.length ∧
   control.manifestDigest.bytes = payloadDigest encodedManifest)
  (utf8 "directory-transfer control does not bind the progress manifest")

def headerBindsPlan : Except Bytes Unit := do
 basicHeaderValid sha256 header
 controlBindsManifest sha256 control manifest
 let expectedRecords:=manifest.entries.length+2*manifest.roots.length
 require (header.operationId = control.operationId ∧ header.rootCount = control.rootCount ∧
   header.entryCount.toNat = manifest.entries.length ∧
   header.maximumRecordCount.toNat = expectedRecords ∧
   header.manifestEncodedSize = control.manifestEncodedSize ∧
   header.manifestDigest = control.manifestDigest)
  (utf8 "directory-transfer progress header does not bind the prepared operation")

def prepareHeader : Except ManifestThrown DirectoryTransferProgressHeader:=
 match controlBindsManifest sha256 control manifest with
 | .error detail=>.error (.invalidArgument detail)
 | .ok ()=>
  let unsealed : DirectoryTransferProgressHeader:=
   { operationId:=control.operationId
     rootCount:=control.rootCount
     entryCount:=UInt32.ofNat manifest.entries.length
     manifestEncodedSize:=control.manifestEncodedSize
     manifestDigest:=control.manifestDigest
     maximumRecordCount:=UInt32.ofNat (manifest.entries.length+2*manifest.roots.length) }
  let header:={ unsealed with headerSha256:=sha256 (encodeHeaderPrefix unsealed) }
  match basicHeaderValid sha256 header with
  | .error detail=>.error (.logicError detail)
  | .ok ()=>.ok header

/-- A control, a valid manifest and a header that binds both. -/
structure DirectoryTransferProgressPlan where
 control : DirectoryTransferControlRecord
 manifest : DirectoryTransferManifest
 header : DirectoryTransferProgressHeader
 binds : headerBindsPlan sha256 header control manifest=.ok ()

lemma prepareHeader_binds {control : DirectoryTransferControlRecord}
 {manifest : DirectoryTransferManifest} {header : DirectoryTransferProgressHeader}
 (h:prepareHeader sha256 control manifest=.ok header):
 headerBindsPlan sha256 header control manifest=.ok ():=by
 unfold prepareHeader at h
 split at h
 · cases h
 · next hcontrol =>
   dsimp only at h
   split at h
   · cases h
   · next hvalid =>
     cases h
     have hcounts:=hvalid
     simp only [basicHeaderValid,bind_unit_eq_ok,require_eq_ok,decide_eq_true_eq] at hcounts
     obtain ⟨⟨-,-,-,-,-,-,-,-,hroots,hentries,-⟩,-⟩:=hcounts
     have hbound:=hcontrol
     simp only [controlBindsManifest,bind_unit_eq_ok,require_eq_ok] at hbound
     obtain ⟨-,hmanifest,-⟩:=hbound
     have hsound:=sound_of_valid hmanifest
     have hrootsSize:=hsound.rootsSize
     have hentriesSize:=hsound.entriesSize
     unfold kMaximumDirectoryTransferRoots at hrootsSize
     unfold kMaximumDirectoryTransferEntries at hentriesSize
     simp only [headerBindsPlan,bind_unit_eq_ok,require_eq_ok,decide_eq_true_eq]
     refine ⟨hvalid,hcontrol,trivial,trivial,?_,?_,trivial,trivial⟩
     · rw [UInt32.toNat_ofNat']
       omega
     · rw [UInt32.toNat_ofNat']
       omega

def prepareDirectoryTransferProgressPlan:
  Except ManifestThrown (DirectoryTransferProgressPlan sha256):=
 match h : prepareHeader sha256 control manifest with
 | .error thrown=>.error thrown
 | .ok header=>.ok ⟨control,manifest,header,prepareHeader_binds sha256 h⟩

def bindDirectoryTransferProgressPlan : Except Bytes (DirectoryTransferProgressPlan sha256):=
 match h : headerBindsPlan sha256 header control manifest with
 | .error detail=>.error detail
 | .ok ()=>.ok ⟨control,manifest,header,h⟩

end Digest

section Tree
variable (sha256 : Bytes → DirectoryTransferProgressDigest)

def treeSeed (header:DirectoryTransferProgressHeader) (rootIndex : UInt32)
  (token : DirectoryTransferOwnershipToken) (identity : DirectoryTransferProgressDigest):
  DirectoryTransferProgressDigest:=
 sha256 (treeSeedDomain++(header.manifestDigest.bytes++(appendInteger rootIndex ++
  (token.bytes++identity.bytes))))

def treeStep (previous : DirectoryTransferProgressDigest)
  (record : DirectoryTransferProgressRecord) : DirectoryTransferProgressDigest:=
 sha256 (treeEntryDomain++(previous.bytes++(appendInteger record.entryIndex ++
  (appendInteger (objectKindCode record.objectKind)++(appendInteger (0 : UInt8) ++
  (appendInteger (0 : UInt16)++(record.objectIdentitySha256.bytes ++
  (appendInteger record.contentBytes++record.contentSha256.bytes))))))))

variable (manifest : DirectoryTransferManifest) (root : DirectoryTransferManifestRoot)

def rootEntries : List DirectoryTransferManifestEntry:=
 (manifest.entries.drop root.firstEntry.toNat).take root.entryCount.toNat

def addFileBytes (total : UInt64) (entry : DirectoryTransferManifestEntry) : Except Bytes UInt64:=
 match entry.kind with
 | .directory=>.ok total
 | .regularFile=>
  if entry.sourceSnapshot.sizeBytes > 0xffffffffffffffff - total then
   .error (utf8 "directory-transfer root byte count overflowed")
  else .ok (total+entry.sourceSnapshot.sizeBytes)

def rootContentBytes : Except Bytes UInt64 := (rootEntries manifest root).foldlM addFileBytes 0

end Tree

section Reducer
variable (sha256 : Bytes → DirectoryTransferProgressDigest)
 (header:DirectoryTransferProgressHeader) (manifest : DirectoryTransferManifest)

variable (state : DirectoryTransferProgressState)

def activeFieldsEmpty : Bool:=
 bytesEmpty state.activeOwnershipToken ∧ bytesEmpty state.activeRootIdentitySha256 ∧
  bytesEmpty state.rollingTreeSha256 ∧ state.activeContentBytes = 0

/-- How many records a state accounts for, where its own fields agree. -/
def consumedRecords : Except Bytes ℕ:=
 let root:=manifest.roots[state.completedRoots.toNat]?
 let before:=state.completedRoots.toNat*2
 match state.phase, root with
 | .awaitingStaging, some root=>do
  require (activeFieldsEmpty state ∧ state.nextManifestEntry = root.firstEntry)
   (utf8 "directory-transfer progress awaiting state is inconsistent")
  pure (before+state.nextManifestEntry.toNat)
 | .awaitingStaging, none=>
  .error (utf8 "directory-transfer progress awaiting state is inconsistent")
 | .materializing, some root=>do
  require (¬bytesEmpty state.activeOwnershipToken ∧ ¬bytesEmpty state.activeRootIdentitySha256 ∧
    ¬bytesEmpty state.rollingTreeSha256)
   (utf8 "directory-transfer progress materializing state has no ownership proof")
  require (root.firstEntry ≤ state.nextManifestEntry ∧
    state.nextManifestEntry ≤ root.firstEntry+root.entryCount)
   (utf8 "directory-transfer progress entry cursor is outside its root")
  pure (before+(1+state.nextManifestEntry.toNat))
 | .materializing, none=>
  .error (utf8 "directory-transfer progress materializing state has no ownership proof")
 | .complete, _=>do
  require (state.completedRoots.toNat = manifest.roots.length ∧ activeFieldsEmpty state ∧
    state.nextManifestEntry = kDirectoryTransferProgressNoEntry)
   (utf8 "completed directory-transfer progress state is inconsistent")
  pure (before+state.entryCount.toNat)

def stateBindsOperation : Except Bytes Unit := do
 require (state.operationId = header.operationId ∧ state.operationId = manifest.operationId ∧
   state.rootCount = header.rootCount ∧ state.rootCount.toNat = manifest.roots.length ∧
   state.entryCount = header.entryCount ∧ state.entryCount.toNat = manifest.entries.length ∧
   state.manifestDigest = header.manifestDigest ∧ state.nextSequence≠0 ∧
   state.nextSequence.toNat ≤ header.maximumRecordCount.toNat+1 ∧
   state.completedRoots.toNat ≤ manifest.roots.length ∧ ¬bytesEmpty state.lastRecordSha256)
  (utf8 "directory-transfer progress state does not bind the prepared operation")
 let consumed ← consumedRecords manifest state
 require (state.nextSequence.toNat = consumed+1)
  (utf8 "directory-transfer progress sequence does not match its state")

variable (root : DirectoryTransferManifestRoot) (record : DirectoryTransferProgressRecord)
variable (next : DirectoryTransferProgressState)

def rootStaged : Except Bytes DirectoryTransferProgressState := do
 let expectedTree:=treeSeed sha256 header record.rootIndex record.ownershipToken
  record.objectIdentitySha256
 require (next.phase = .awaitingStaging ∧ record.objectKind = .root ∧
   record.entryIndex = kDirectoryTransferProgressNoEntry ∧ record.contentBytes = 0 ∧
   record.ownershipToken = root.ownershipToken ∧ ¬bytesEmpty record.objectIdentitySha256 ∧
   record.contentSha256 = expectedTree)
  (utf8 "directory-transfer staging-root evidence is invalid or out of order")
 pure { next with
  phase:=.materializing
  nextManifestEntry:=root.firstEntry
  activeContentBytes:=0
  activeOwnershipToken:=record.ownershipToken
  activeRootIdentitySha256:=record.objectIdentitySha256
  rollingTreeSha256:=expectedTree }

def objectKindOf : DirectoryManifestEntryKind → DirectoryTransferProgressObjectKind
 | .directory=>.directory
 | .regularFile=>.regularFile

/-- The bytes a record adds: none for a directory, for a file its planned size. -/
def materializedBytes (entry : DirectoryTransferManifestEntry)
  (record : DirectoryTransferProgressRecord) (active : UInt64) : Except Bytes UInt64:=
 match entry.kind with
 | .directory=>do
  require (record.contentBytes = 0 ∧ bytesEmpty record.contentSha256)
   (utf8 "directory-transfer directory evidence has a file payload")
  pure active
 | .regularFile=>do
  require (¬bytesEmpty record.contentSha256 ∧
    record.contentBytes = entry.sourceSnapshot.sizeBytes ∧
    record.contentBytes ≤ 0xffffffffffffffff - active)
   (utf8 "directory-transfer file evidence does not match the manifest")
  pure (active+record.contentBytes)

def entryMaterialized : Except Bytes DirectoryTransferProgressState := do
 let outOfOrder:=utf8 "directory-transfer entry evidence is invalid or out of order"
 require (next.phase = .materializing ∧ next.nextManifestEntry < root.firstEntry+root.entryCount ∧
   record.entryIndex = next.nextManifestEntry ∧ bytesEmpty record.ownershipToken ∧
   ¬bytesEmpty record.objectIdentitySha256) outOfOrder
 -- the cursor is below the end of a slice of the manifest
 let entry ← found manifest.entries[next.nextManifestEntry.toNat]? outOfOrder
 require (record.objectKind = objectKindOf entry.kind)
  (utf8 "directory-transfer entry kind does not match the manifest")
 let activeContentBytes ← materializedBytes entry record next.activeContentBytes
 pure { next with
  activeContentBytes:=activeContentBytes
  rollingTreeSha256:=treeStep sha256 next.rollingTreeSha256 record
  nextManifestEntry:=next.nextManifestEntry+1 }

/-- The root is in place: the next one is awaited, or all is done. -/
def rootClosed : DirectoryTransferProgressState:=
 let completedRoots:=next.completedRoots+1
 let closed:={ next with
  completedRoots:=completedRoots
  activeContentBytes:=0
  activeOwnershipToken:=.zero _
  activeRootIdentitySha256:=.zero _
  rollingTreeSha256:=.zero _ }
 match manifest.roots[completedRoots.toNat]? with
 | none=>{ closed with
   phase:=.complete
   nextManifestEntry:=kDirectoryTransferProgressNoEntry }
 | some root=>{ closed with
   phase:=.awaitingStaging
   nextManifestEntry:=root.firstEntry }

def rootPublished : Except Bytes DirectoryTransferProgressState := do
 let expectedBytes ← rootContentBytes manifest root
 require (next.phase = .materializing ∧
   next.nextManifestEntry = root.firstEntry+root.entryCount ∧ record.objectKind = .root ∧
   record.entryIndex = kDirectoryTransferProgressNoEntry ∧
   record.ownershipToken = next.activeOwnershipToken ∧
   record.objectIdentitySha256 = next.activeRootIdentitySha256 ∧
   record.contentBytes = expectedBytes ∧ record.contentBytes = next.activeContentBytes ∧
   record.contentSha256 = next.rollingTreeSha256)
  (utf8 "directory-transfer root publication evidence is invalid or premature")
 pure (rootClosed manifest next)

variable (record : DirectoryTransferProgressRecord)

def eventShapeValid
  (next : DirectoryTransferProgressState) : Except Bytes DirectoryTransferProgressState := do
 require (¬next.complete)
  (utf8 "directory-transfer progress continues after completion")
 let root ← found manifest.roots[next.completedRoots.toNat]?
  (utf8 "directory-transfer progress continues after completion")
 require (record.rootIndex = next.completedRoots)
  (utf8 "directory-transfer progress violates the strict root prefix")
 match record.kind with
 | .rootStagingOwned=>rootStaged sha256 header root record next
 | .entryMaterialized=>entryMaterialized sha256 manifest root record next
 | .rootPublished=>rootPublished manifest root record next

def applyRecord
  (state : DirectoryTransferProgressState) : Except Bytes DirectoryTransferProgressState := do
 stateBindsOperation header manifest state
 basicRecordValid sha256 record
 require (record.sequence = state.nextSequence ∧
   record.sequence.toNat ≤ header.maximumRecordCount.toNat ∧
   record.previousRecordSha256 = state.lastRecordSha256)
  (utf8 "directory-transfer progress hash chain or sequence is discontinuous")
 let next ← eventShapeValid sha256 header manifest record state
 let next:={ next with
  lastRecordSha256:=record.recordSha256
  nextSequence:=next.nextSequence+1 }
 require (next.complete → next.nextSequence.toNat = (header.maximumRecordCount+1).toNat)
  (utf8 "completed directory-transfer progress has the wrong record count")
 pure next

variable (candidate : DirectoryTransferProgressRecord)

def sealRecord (sequence : UInt64)
  (previousRecordSha256 : DirectoryTransferProgressDigest) : DirectoryTransferProgressRecord:=
 let placed:={ candidate with
  sequence:=sequence
  previousRecordSha256:=previousRecordSha256 }
 { placed with recordSha256:=sha256 (encodeRecordPrefix placed) }

def sealAndApply
  (state : DirectoryTransferProgressState):
  Except Bytes (DirectoryTransferProgressState × DirectoryTransferProgressRecord) := do
 stateBindsOperation header manifest state
 let record:=sealRecord sha256 candidate state.nextSequence state.lastRecordSha256
 let next ← applyRecord sha256 header manifest record state
 pure (next,record)

end Reducer

section Operations
variable {sha256 : Bytes → DirectoryTransferProgressDigest}
 (plan : DirectoryTransferProgressPlan sha256)

def initializeDirectoryTransferProgress : DirectoryTransferProgressState where
 operationId:=plan.header.operationId
 rootCount:=plan.header.rootCount
 entryCount:=plan.header.entryCount
 nextManifestEntry:=(plan.manifest.roots.head?.map (·.firstEntry)).getD 0
 lastRecordSha256:=plan.header.headerSha256
 manifestDigest:=plan.header.manifestDigest

structure DirectoryTransferRootStagingEvidence where
 rootIndex : UInt32 := 0
 ownershipToken : DirectoryTransferOwnershipToken := .zero _
 objectRevisionUtf8 : Bytes

structure DirectoryTransferEntryEvidence where
 rootIndex : UInt32 := 0
 entryIndex : UInt32 := 0
 objectKind : DirectoryTransferProgressObjectKind := .directory
 contentBytes : UInt64 := 0
 objectRevisionUtf8 : Bytes
 contentSha256 : DirectoryTransferProgressDigest := .zero _

structure DirectoryTransferRootPublicationEvidence where
 rootIndex : UInt32 := 0
 contentBytes : UInt64 := 0
 ownershipToken : DirectoryTransferOwnershipToken := .zero _
 destinationRevisionUtf8 : Bytes
 auditedTreeSha256 : DirectoryTransferProgressDigest := .zero _

inductive DirectoryTransferEvidence where
 | rootStaging (evidence : DirectoryTransferRootStagingEvidence)
 | entry (evidence : DirectoryTransferEntryEvidence)
 | rootPublication (evidence : DirectoryTransferRootPublicationEvidence)

def directoryTransferObjectIdentitySha256 (sha256 : Bytes → DirectoryTransferProgressDigest)
  (semantics : DirectoryPathSemantics) (sourceRevisionUtf8 : Bytes):
  Except Bytes DirectoryTransferProgressDigest:=
 let canonical:=directoryTransferCanonicalObjectIdentity sourceRevisionUtf8 semantics
 if canonical = [] then .error (utf8 "directory-transfer native identity is invalid")
 else .ok (sha256 (identityDomain++(appendInteger (semanticsCode semantics)++canonical)))

/-- The record each kind of evidence asks for, before it is sealed. -/
def candidateOf : DirectoryTransferEvidence → Except Bytes DirectoryTransferProgressRecord
 | .rootStaging evidence=>do
  let identity ← directoryTransferObjectIdentitySha256 sha256 plan.manifest.pathSemantics
   evidence.objectRevisionUtf8
  pure { kind:=.rootStagingOwned
         objectKind:=.root
         rootIndex:=evidence.rootIndex
         ownershipToken:=evidence.ownershipToken
         objectIdentitySha256:=identity
         contentSha256:=treeSeed sha256 plan.header evidence.rootIndex
          evidence.ownershipToken identity }
 | .entry evidence=>do
  let identity ← directoryTransferObjectIdentitySha256 sha256 plan.manifest.pathSemantics
   evidence.objectRevisionUtf8
  pure { kind:=.entryMaterialized
         objectKind:=evidence.objectKind
         rootIndex:=evidence.rootIndex
         entryIndex:=evidence.entryIndex
         contentBytes:=evidence.contentBytes
         objectIdentitySha256:=identity
         contentSha256:=evidence.contentSha256 }
 | .rootPublication evidence=>do
  let identity ← directoryTransferObjectIdentitySha256 sha256 plan.manifest.pathSemantics
   evidence.destinationRevisionUtf8
  pure { kind:=.rootPublished
         objectKind:=.root
         rootIndex:=evidence.rootIndex
         contentBytes:=evidence.contentBytes
         ownershipToken:=evidence.ownershipToken
         objectIdentitySha256:=identity
         contentSha256:=evidence.auditedTreeSha256 }

/-- What a call leaves: its answer, and the state and the record it was given. -/
structure AdvanceOutcome where
 answer : Except Bytes Unit
 state : DirectoryTransferProgressState
 record : DirectoryTransferProgressRecord

def advanceDirectoryTransferProgress (evidence : DirectoryTransferEvidence)
  (state : DirectoryTransferProgressState) (record : DirectoryTransferProgressRecord):
  AdvanceOutcome:=
 match candidateOf plan evidence with
 | .error detail=>⟨.error detail,state,record⟩
 | .ok candidate=>
  match sealAndApply sha256 plan.header plan.manifest candidate state with
  | .error detail=>⟨.error detail,state,record⟩
  | .ok (next,sealed)=>⟨.ok (),next,sealed⟩

def replayDirectoryTransferProgress (records : List DirectoryTransferProgressRecord):
  Except Bytes DirectoryTransferProgressState := do
 require (records.length ≤ plan.header.maximumRecordCount.toNat)
  (utf8 "directory-transfer progress exceeds its record bound")
 records.foldlM (fun state record=>applyRecord sha256 plan.header plan.manifest record state)
  (initializeDirectoryTransferProgress plan)

end Operations

end VoVe.DirectoryTransferProgress
