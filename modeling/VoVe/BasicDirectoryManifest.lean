import VoVe.TransferTransaction

set_option autoImplicit false

/-! The manifest of a basic directory transfer and its validity, as
  `basic_directory_transfer.cpp` checks it. -/

namespace VoVe.BasicDirectoryManifest
open ByteCodec AsciiText PosixPath Checks DestinationFilename TransferTransaction

def kBasicDirectoryTransferManifestVersion : UInt32 := 2
def kBasicDirectoryTransferMaximumEntries : ℕ := 100000
def kBasicDirectoryTransferMaximumDepth : ℕ := 128
def kBasicDirectoryTransferDigestBytes : ℕ := 32
def kBasicDirectoryTransferMaximumManifestBytes : ℕ := 64*1024*1024
def kDirectoryTransferOwnershipTokenBytes : ℕ := 16

abbrev DirectoryTransferOwnershipToken := FixedBytes kDirectoryTransferOwnershipTokenBytes
abbrev BasicDirectoryTransferDigest := FixedBytes kBasicDirectoryTransferDigestBytes

/-- The decoder casts a byte to the enumeration, so a value may have no name. -/
inductive DirectoryPathSemantics where
 | windowsOrdinalNfc
 | posixExact
 | other (code : UInt8)
 deriving DecidableEq

inductive BasicDirectoryTransferEntryKind where
 | directory
 | regularFile
 | other (code : UInt8)
 deriving DecidableEq

structure BasicDirectoryTransferEntry where
 relativePath : Path
 sizeBytes : UInt64 := 0
 modifiedUnixNs : Int64 := 0
 sourceRevisionUtf8 : Bytes := []
 depth : UInt16 := 1
 kind : BasicDirectoryTransferEntryKind := .regularFile
 deriving DecidableEq

structure BasicDirectoryTransferManifest where
 version : UInt32 := kBasicDirectoryTransferManifestVersion
 operationId : UInt64 := 0
 kind : FileTransferKind := .copy
 pathSemantics : DirectoryPathSemantics := .windowsOrdinalNfc
 source : Path
 stagingDestination : Path
 destination : Path
 sourceRevisionUtf8 : Bytes := []
 ownershipToken : DirectoryTransferOwnershipToken := .zero _
 totalBytes : UInt64 := 0
 entries : List BasicDirectoryTransferEntry := []
 deriving DecidableEq

def nativePathSemantics : DirectoryPathSemantics := .posixExact

variable (path : Path)

/-- The texts that iterating over a path gives. -/
def pathParts : List Bytes:=
 (if path.components.root then [[slash]] else [])++path.components.names ++
  if path.components.trailing then [[]] else []

def pathDepth : ℕ := (pathParts path).length

def directoryTransferNamespaceKey (semantics : DirectoryPathSemantics) : Bytes:=
 if semantics = .posixExact then path.lexicallyNormal.native else []

def canonicalAbsolutePath : Bool:=
 path.isAbsolute ∧ ¬path.isEmpty ∧ path.same path.lexicallyNormal ∧
  (pathParts path).all fun part=>part≠[dot] ∧ part≠dotDot

def canonicalRelativePath : Bool:=
 ¬path.isEmpty ∧ ¬path.isAbsolute ∧ path.same path.lexicallyNormal ∧
  (pathParts path).all fun part=>part≠[] ∧ part≠[dot] ∧ part≠dotDot

def containsInternalName : Bool := (pathParts path).any isInternalFilename

def namespaceAncestorOrSame (ancestor candidate : Bytes) : Bool:=
 ancestor≠[] ∧ startsWith candidate ancestor ∧
  (candidate.length = ancestor.length ∨ candidate[ancestor.length]? = some slash)

def hexadecimalBytes (bytes : Bytes) : Bytes:=
 bytes.flatMap fun byte=>[digitByte (byte.toNat / 16),digitByte (byte.toNat % 16)]

def transferRootPath (userPath : Path) (start : Bytes) (operationId : UInt64) (rootIndex : ℕ)
  (ownershipToken : DirectoryTransferOwnershipToken) : Path:=
 userPath.parentPath / ⟨start++(toChars 16 operationId.toNat++(45::(toChars 16 rootIndex ++
  (45::(hexadecimalBytes ownershipToken.bytes++utf8 ".tree")))))⟩

def basicStagingDestinationPath (destination : Path) (operationId : UInt64)
  (ownershipToken : DirectoryTransferOwnershipToken) : Path:=
 transferRootPath destination kTransferDestinationFilenamePrefix operationId 0 ownershipToken

def bytesEmpty (token : DirectoryTransferOwnershipToken) : Bool := token.bytes.all (· = 0)

/-- What the entry loop has seen so far. -/
structure EntryScan where
 paths : List Bytes := []
 totalBytes : UInt64 := 0
 previousKey : Bytes := []

def entryPathValid (semantics : DirectoryPathSemantics) (scan : EntryScan)
  (entry : BasicDirectoryTransferEntry) : Bool:=
 let depth:=pathDepth entry.relativePath
 let key:=directoryTransferNamespaceKey entry.relativePath semantics
 canonicalRelativePath entry.relativePath ∧ ¬containsInternalName entry.relativePath ∧
  depth≠0 ∧ depth ≤ kBasicDirectoryTransferMaximumDepth ∧ entry.depth.toNat = depth ∧
  key≠[] ∧ entry.sourceRevisionUtf8≠[] ∧
  ¬(scan.previousKey≠[] ∧ key ≤ scan.previousKey) ∧ key ∉ scan.paths

def entrySizeAdded (total : UInt64) (entry : BasicDirectoryTransferEntry) : Except Bytes UInt64:=
 match entry.kind with
 | .directory=>do
  require (entry.sizeBytes = 0) (utf8 "basic directory manifest directory has a file size")
  pure total
 | .regularFile=>do
  require (entry.sizeBytes ≤ 0xffffffffffffffff - total)
   (utf8 "basic directory manifest size overflows")
  pure (total+entry.sizeBytes)
 | .other _=>.error (utf8 "basic directory manifest entry kind is invalid")

def checkEntry (semantics : DirectoryPathSemantics) (scan : EntryScan)
  (entry : BasicDirectoryTransferEntry) : Except Bytes EntryScan := do
 let key:=directoryTransferNamespaceKey entry.relativePath semantics
 require (entryPathValid semantics scan entry)
  (utf8 "basic directory manifest entry path is invalid")
 let totalBytes ← entrySizeAdded scan.totalBytes entry
 let parent:=entry.relativePath.parentPath
 require (parent.isEmpty ∨ directoryTransferNamespaceKey parent semantics ∈ key::scan.paths)
  (utf8 "basic directory manifest entry has no parent directory")
 pure { paths:=key::scan.paths,totalBytes:=totalBytes,previousKey:=key }

variable (manifest : BasicDirectoryTransferManifest)

def validManifestRoots : Except Bytes Unit := do
 let key (path : Path) := directoryTransferNamespaceKey path manifest.pathSemantics
 require (canonicalAbsolutePath manifest.source ∧ ¬containsInternalName manifest.source)
  (utf8 "basic directory manifest source root path is invalid")
 require (canonicalAbsolutePath manifest.stagingDestination)
  (utf8 "basic directory manifest staging root path is invalid")
 require (canonicalAbsolutePath manifest.destination ∧ ¬containsInternalName manifest.destination)
  (utf8 "basic directory manifest destination root path is invalid")
 let expectedStaging:=basicStagingDestinationPath manifest.destination manifest.operationId
  manifest.ownershipToken
 require (key expectedStaging≠[] ∧ key manifest.stagingDestination = key expectedStaging)
  (utf8 "basic directory manifest staging leaf is invalid")
 require (key manifest.stagingDestination.parentPath≠[] ∧
   key manifest.stagingDestination.parentPath = key manifest.destination.parentPath)
  (utf8 "basic directory manifest staging parent is invalid")
 match validDestinationFilename manifest.destination.filename with
 | .error detail=>.error (utf8 "basic directory destination is invalid: " ++ detail)
 | .ok ()=>pure ()
 require (key manifest.source≠[] ∧ key manifest.destination≠[] ∧
   key manifest.stagingDestination≠[] ∧
   ¬namespaceAncestorOrSame (key manifest.source) (key manifest.destination) ∧
   ¬namespaceAncestorOrSame (key manifest.destination) (key manifest.source) ∧
   ¬namespaceAncestorOrSame (key manifest.source) (key manifest.stagingDestination) ∧
   ¬namespaceAncestorOrSame (key manifest.stagingDestination) (key manifest.source))
  (utf8 "basic directory source and destination overlap")

def validBasicDirectoryTransferManifest : Except Bytes Unit := do
 require ((manifest.version = kBasicDirectoryTransferManifestVersion ∨
   (manifest.version = 1 ∧ manifest.kind = .copy)) ∧ manifest.operationId≠0 ∧
   manifest.pathSemantics = nativePathSemantics ∧ ¬bytesEmpty manifest.ownershipToken ∧
   manifest.sourceRevisionUtf8≠[])
  (utf8 "basic directory manifest identity is invalid")
 validManifestRoots manifest
 require (manifest.entries.length ≤ kBasicDirectoryTransferMaximumEntries)
  (utf8 "basic directory manifest has too many entries")
 let scan ← manifest.entries.foldlM (checkEntry manifest.pathSemantics) {}
 require (scan.totalBytes = manifest.totalBytes)
  (utf8 "basic directory manifest byte total is invalid")

def ManifestValid : Prop := validBasicDirectoryTransferManifest manifest = .ok ()

section Validity
variable {m manifest : BasicDirectoryTransferManifest}

lemma ManifestValid.semantics (h:ManifestValid m) : m.pathSemantics=.posixExact:=by
 simp only [ManifestValid,validBasicDirectoryTransferManifest,bind_unit_eq_ok,require_eq_ok,
  decide_eq_true_eq] at h
 exact h.1.2.2.1

lemma ManifestValid.version (h:ManifestValid m):
 m.version=kBasicDirectoryTransferManifestVersion ∨ (m.version=1 ∧ m.kind=.copy):=by
 simp only [ManifestValid,validBasicDirectoryTransferManifest,bind_unit_eq_ok,require_eq_ok,
  decide_eq_true_eq] at h
 exact h.1.1

lemma ManifestValid.size (h:ManifestValid m):
 m.entries.length≤kBasicDirectoryTransferMaximumEntries:=by
 simp only [ManifestValid,validBasicDirectoryTransferManifest,bind_unit_eq_ok,require_eq_ok,
  decide_eq_true_eq] at h
 exact h.2.2.1

lemma checkEntry_kind {semantics : DirectoryPathSemantics} {scan after : EntryScan}
 {entry : BasicDirectoryTransferEntry} (h:checkEntry semantics scan entry=.ok after)
 (code : UInt8) : entry.kind≠.other code:=by
 intro hkind
 simp [checkEntry,entrySizeAdded,hkind,bind_eq_ok] at h

lemma entry_checked {semantics : DirectoryPathSemantics}
 {entries : List BasicDirectoryTransferEntry} {scan after : EntryScan}
 (h:entries.foldlM (checkEntry semantics) scan=.ok after):
 ∀entry∈entries,∃ before next,checkEntry semantics before entry=.ok next:=by
 induction entries generalizing scan with
 | nil=>exact nofun
 | cons entry rest ih=>
  obtain ⟨next,hnext,hrest⟩:=(bind_eq_ok _ _ _).mp (by simpa [List.foldlM_cons] using h)
  intro other hmem
  obtain rfl | hmem:=List.mem_cons.mp hmem
  · exact ⟨scan,next,hnext⟩
  · exact ih hrest other hmem

lemma ManifestValid.entryKind (h:ManifestValid m):
 ∀entry∈m.entries,∀code,entry.kind≠.other code:=by
 simp only [ManifestValid,validBasicDirectoryTransferManifest,bind_unit_eq_ok] at h
 obtain ⟨scan,hscan,-⟩:=(bind_eq_ok _ _ _).mp h.2.2.2
 intro entry hmem code
 obtain ⟨before,next,hnext⟩:=entry_checked hscan entry hmem
 exact checkEntry_kind hnext code

end Validity

end VoVe.BasicDirectoryManifest
