import Mathlib.Data.List.Sort
import VoVe.BasicDirectoryManifest

set_option autoImplicit false

/-! The manifest of a directory transfer: its roots, the entries below them, and
  the validity that `directory_transfer_manifest.cpp` asks of it. -/

namespace VoVe.DirectoryManifest
open ByteCodec AsciiText PosixPath Checks DestinationFilename FileOperation TransferTransaction
open BasicDirectoryManifest (DirectoryPathSemantics DirectoryTransferOwnershipToken bytesEmpty
 directoryTransferNamespaceKey pathParts transferRootPath)

def kDirectoryTransferManifestVersion : UInt32 := 2
def kMaximumDirectoryTransferRoots : ℕ := 1024
def kMaximumDirectoryTransferEntries : ℕ := 100000
def kMaximumDirectoryTransferDepth : ℕ := 128
def kMaximumDirectoryTransferManifestBytes : ℕ := 64*1024*1024
def kDirectoryTransferManifestDigestBytes : ℕ := 32
def kDirectoryTransferRootParent : UInt32 := 0xffffffff

inductive DirectoryManifestEntryKind where
 | directory
 | regularFile
 deriving DecidableEq

instance : WireEnum DirectoryManifestEntryKind where
 values:=[.directory,.regularFile]
 complete a := by cases a<;>decide
 small:=by decide

structure DirectoryTransferManifestRoot where
 source : Path
 stagedSource : Path
 stagingDestination : Path
 destination : Path
 sourceSnapshot : SourceSnapshot := {}
 sourceParentIdentityUtf8 : Bytes := []
 destinationParentIdentityUtf8 : Bytes := []
 sourceParentRevisionUtf8 : Bytes := []
 destinationParentRevisionUtf8 : Bytes := []
 sourceNamespaceKeyUtf8 : Bytes := []
 stagedSourceNamespaceKeyUtf8 : Bytes := []
 stagingDestinationNamespaceKeyUtf8 : Bytes := []
 destinationNamespaceKeyUtf8 : Bytes := []
 ownershipToken : DirectoryTransferOwnershipToken := .zero _
 linkCount : UInt32 := 0
 unsupportedShapeFlags : UInt32 := 0
 firstEntry : UInt32 := 0
 entryCount : UInt32 := 0
 deriving DecidableEq

structure DirectoryTransferManifestEntry where
 name : Path
 namespaceKeyUtf8 : Bytes := []
 sourceSnapshot : SourceSnapshot := {}
 linkCount : UInt32 := 1
 unsupportedShapeFlags : UInt32 := 0
 rootIndex : UInt32 := 0
 parentIndex : UInt32 := kDirectoryTransferRootParent
 depth : UInt16 := 1
 kind : DirectoryManifestEntryKind := .regularFile
 deriving DecidableEq

structure DirectoryTransferManifest where
 version : UInt32 := kDirectoryTransferManifestVersion
 operationId : UInt64 := 0
 kind : FileTransferKind := .copy
 pathSemantics : DirectoryPathSemantics := .windowsOrdinalNfc
 totalBytes : UInt64 := 0
 roots : List DirectoryTransferManifestRoot := []
 entries : List DirectoryTransferManifestEntry := []
 deriving DecidableEq

structure ParsedRevision where
 stableIdentity : Bytes
 volumeIdentity : Bytes
 pathSemantics : DirectoryPathSemantics
 hasChange : Bool

variable (text : Bytes)

/-- Digits only, as `std::from_chars` reads an unsigned 64-bit integer. -/
def parseUnsignedDecimal (requireNonzero : Bool) : Option ℕ:=
 if text≠[] ∧ text.all isDigit then
  let value:=(leadingNumber 10 text).getD 0
  if value < 2 ^ 64 ∧ ¬(requireNonzero ∧ value = 0) then some value else none
 else none

def hexDigit (b : UInt8) : Bool := (48 ≤ b ∧ b ≤ 57) ∨ (97 ≤ b ∧ b ≤ 102) ∨ (65 ≤ b ∧ b ≤ 70)

def canonicalHex128 : Option Bytes:=
 if text.length = 32 ∧ text.all hexDigit ∧ text.any (·≠48) then some (text.map asciiLower)
 else none

def posix2Tag : Bytes := utf8 "posix2"

def revisionTags : List Bytes := [utf8 "win-file128",utf8 "win-smb64",utf8 "posix",posix2Tag]

/-- A tag, a volume, an object, with `posix2` a birth time, and with a change a
  stamp, with colons between them. -/
def revisionParts (strongPosix requireChange : Bool) : ℕ:=
 3+(if strongPosix then 1 else 0)+if requireChange then 1 else 0

def objectIdentity (tag text : Bytes) : Option Bytes:=
 if tag = utf8 "win-file128" then canonicalHex128 text
 else (parseUnsignedDecimal text true).map (toChars 10)

def parseRevision (requireChange : Bool) : Option ParsedRevision := do
 let parts:=text.splitOn colon
 let tag:=parts.getD 0 []
 let strongPosix:=tag = posix2Tag
 if parts.length≠revisionParts strongPosix requireChange ∨ tag ∉ revisionTags then none
 else
  let volume ← parseUnsignedDecimal (parts.getD 1 []) false
  let object ← objectIdentity tag (parts.getD 2 [])
  let birth ← if strongPosix then parseUnsignedDecimal (parts.getD 3 []) false else some 0
  if requireChange ∧ parseUnsignedDecimal (parts.getD (if strongPosix then 4 else 3) []) true = none
  then none
  else
   let volumeIdentity:=tag++colon::toChars 10 volume
   let stableIdentity:=volumeIdentity++colon::object
   some {
    stableIdentity:=
     if strongPosix then stableIdentity++colon::toChars 10 birth else stableIdentity
    volumeIdentity:=volumeIdentity
    pathSemantics:=
     if tag = utf8 "posix" ∨ strongPosix then .posixExact else .windowsOrdinalNfc
    hasChange:=requireChange }

def validSnapshotRevision (snapshot : SourceSnapshot) (semantics : DirectoryPathSemantics):
  Option ParsedRevision:=
 (parseRevision snapshot.sourceRevisionUtf8 true).filter fun revision =>
  revision.pathSemantics = semantics

def parentAnchorMatches (identity revision : Bytes) (semantics : DirectoryPathSemantics) : Bool:=
 match parseRevision identity false, parseRevision revision true with
 | some parsedIdentity, some parsedRevision=>
  parsedIdentity.pathSemantics = semantics ∧ parsedRevision.pathSemantics = semantics ∧
   parsedIdentity.stableIdentity = parsedRevision.stableIdentity
 | _, _=>false

def directoryTransferCanonicalObjectIdentity (revision : Bytes)
  (semantics : DirectoryPathSemantics) : Bytes:=
 match (parseRevision revision false).or (parseRevision revision true) with
 | some parsed=>if parsed.pathSemantics = semantics then parsed.stableIdentity else []
 | none=>[]

def namespaceKeyIsAncestorOrSame (ancestor candidate : Bytes) : Bool:=
 ancestor≠[] ∧ candidate≠[] ∧ startsWith candidate ancestor ∧
  (candidate.length = ancestor.length ∨ ancestor.getLast? = some slash ∨
   candidate[ancestor.length]? = some slash)

def rank (value : UInt8) : ℕ := if value = slash then 0 else value.toNat+1

def namespaceKeyLess : Bytes → Bytes → Bool
 | _, []=>false
 | [], _::_=>true
 | left::lefts, right::rights=>
  if rank left≠rank right then rank left < rank right else namespaceKeyLess lefts rights

def containsNoncanonicalComponent (path : Path) : Bool:=
 (pathParts path).any fun part=>part = [dot] ∨ part = dotDot

/-- Its own list of the reserved names: the overwrite backups are not on it. -/
def isInternalNamespaceName (name : Path) (semantics : DirectoryPathSemantics) : Bool:=
 let key:=directoryTransferNamespaceKey name semantics
 let markerKey:=directoryTransferNamespaceKey ⟨kTransferOwnershipMarkerFilename⟩ semantics
 startsWith key kTrashFilenamePrefix ∨ startsWith key kTransferSourceFilenamePrefix ∨
  startsWith key kTransferDestinationFilenamePrefix ∨ key = markerKey

def containsInternalComponent (path : Path) (semantics : DirectoryPathSemantics) : Bool:=
 (pathParts path).any fun part=>isInternalNamespaceName ⟨part⟩ semantics

def directoryTransferStagedSourcePath (source : Path) (operationId : UInt64) (rootIndex : ℕ)
  (ownershipToken : DirectoryTransferOwnershipToken) : Path:=
 transferRootPath source kTransferSourceFilenamePrefix operationId rootIndex ownershipToken

def directoryTransferStagingDestinationPath (destination : Path) (operationId : UInt64)
  (rootIndex : ℕ) (ownershipToken : DirectoryTransferOwnershipToken) : Path:=
 transferRootPath destination kTransferDestinationFilenamePrefix operationId rootIndex
  ownershipToken

def sizeMaximum : ℕ := 2 ^ 64 - 1

def addSize (total amount : ℕ) : Option ℕ:=
 if amount > sizeMaximum - total then none
 else if total+amount ≤ kMaximumDirectoryTransferManifestBytes then some (total+amount)
 else none

def addEncodedStringSize (total : ℕ) (value : Bytes) : Option ℕ:=
 if value.length ≤ 2 ^ 32 - 1 then do
  let total ← addSize total 4
  addSize total value.length
 else none

variable (root : DirectoryTransferManifestRoot)

def rootStrings : List Bytes:=
 [root.source.native,root.stagedSource.native,root.stagingDestination.native,
  root.destination.native,root.sourceSnapshot.sourceRevisionUtf8,root.sourceParentIdentityUtf8,
  root.destinationParentIdentityUtf8,root.sourceParentRevisionUtf8,
  root.destinationParentRevisionUtf8,root.sourceNamespaceKeyUtf8,
  root.stagedSourceNamespaceKeyUtf8,root.stagingDestinationNamespaceKeyUtf8,
  root.destinationNamespaceKeyUtf8]

variable (entry : DirectoryTransferManifestEntry)

def entryStrings : List Bytes:=
 [entry.name.native,entry.namespaceKeyUtf8,entry.sourceSnapshot.sourceRevisionUtf8]

def addObjectSize (fixed : ℕ) (strings : List Bytes) (total : ℕ) : Option ℕ := do
 let total ← addSize total fixed
 strings.foldlM addEncodedStringSize total

def headerBytes : ℕ := 4*4+8*2+1*2+2+kDirectoryTransferManifestDigestBytes
def rootBytes : ℕ := 4*2+8*2+8+16
def entryBytes : ℕ := 4*2+2+1*2+8*2+8

variable (manifest : DirectoryTransferManifest)

def encodedSize : Option ℕ:=
 if headerBytes > kMaximumDirectoryTransferManifestBytes then none
 else do
  let size ← manifest.roots.foldlM (fun size root=>addObjectSize rootBytes (rootStrings root) size)
   headerBytes
  manifest.entries.foldlM (fun size entry=>addObjectSize entryBytes (entryStrings entry) size)
   size

def rootPaths : List Path:=
 [root.source,root.stagedSource,root.stagingDestination,root.destination]

def rootKeys : List Bytes:=
 [root.sourceNamespaceKeyUtf8,root.stagedSourceNamespaceKeyUtf8,
  root.stagingDestinationNamespaceKeyUtf8,root.destinationNamespaceKeyUtf8]

def keysOverlap (left right : Bytes) : Bool:=
 namespaceKeyIsAncestorOrSame left right ∨ namespaceKeyIsAncestorOrSame right left

def validRootPaths (rootIndex : ℕ)
  (root : DirectoryTransferManifestRoot) : Except Bytes Unit := do
 let semantics:=manifest.pathSemantics
 let computedKeys:=(rootPaths root).map fun path=>directoryTransferNamespaceKey path semantics
 require ((rootPaths root).all Path.isAbsolute)
  (utf8 "directory-transfer root paths must be absolute")
 require (¬containsInternalComponent root.source semantics ∧
   ¬containsInternalComponent root.destination semantics)
  (utf8 "directory-transfer root uses a reserved internal name")
 require ((rootPaths root).all fun path =>
   ¬containsNoncanonicalComponent path ∧ path.same path.lexicallyNormal)
  (utf8 "directory-transfer root path is not canonical")
 require ((computedKeys.zip (rootKeys root)).all fun keys =>
   keys.1≠[] ∧ validUtf8WithoutNul keys.2 ∧ keys.1 = keys.2)
  (utf8 "directory-transfer root namespace key is invalid")
 require (!bytesEmpty root.ownershipToken)
  (utf8 "directory-transfer root ownership token is empty")
 require (root.stagedSource.same (directoryTransferStagedSourcePath root.source
    manifest.operationId rootIndex root.ownershipToken) ∧
   root.stagingDestination.same (directoryTransferStagingDestinationPath root.destination
    manifest.operationId rootIndex root.ownershipToken))
  (utf8 "directory-transfer root has non-deterministic staging paths")
 match validDestinationFilename root.destination.filename with
 | .error detail=>.error (utf8 "directory-transfer destination is invalid: " ++ detail)
 | .ok ()=>pure ()
 require (computedKeys.Pairwise fun left right=>¬keysOverlap left right)
  (utf8 "directory-transfer root namespace paths overlap")

/-- What the loop over the roots has seen so far. -/
structure RootScan where
 rootIndex : ℕ := 0
 expectedFirst : ℕ := 0
 physicalObjects : List Bytes := []
 ownershipTokens : List DirectoryTransferOwnershipToken := []
 occupiedPaths : List Bytes := []

/-- The identity of a root whose metadata are in order. -/
def rootMetadata (root : DirectoryTransferManifestRoot) : Option Bytes := do
 let semantics:=manifest.pathSemantics
 let revision ← validSnapshotRevision root.sourceSnapshot semantics
 let sourceParent ← parseRevision root.sourceParentIdentityUtf8 false
 if root.sourceSnapshot.sizeBytes = 0 ∧ root.linkCount = 0 ∧ root.unsupportedShapeFlags = 0 ∧
   sourceParent.pathSemantics = semantics ∧
   parentAnchorMatches root.sourceParentIdentityUtf8 root.sourceParentRevisionUtf8 semantics ∧
   parentAnchorMatches root.destinationParentIdentityUtf8 root.destinationParentRevisionUtf8
    semantics ∧
   sourceParent.volumeIdentity = revision.volumeIdentity then some revision.stableIdentity
 else none

def checkRoot (scan : RootScan)
  (root : DirectoryTransferManifestRoot) : Except Bytes RootScan := do
 let metadataInvalid:=utf8 "directory-transfer root metadata is invalid"
 require (root.firstEntry.toNat = scan.expectedFirst ∧
   root.entryCount.toNat ≤ manifest.entries.length - scan.expectedFirst) metadataInvalid
 validRootPaths manifest scan.rootIndex root
 let identity ← found (rootMetadata manifest root) metadataInvalid
 require (identity ∉ scan.physicalObjects)
  (utf8 "directory-transfer roots contain a duplicate physical object")
 require (root.ownershipToken ∉ scan.ownershipTokens)
  (utf8 "directory-transfer roots contain a duplicate ownership token")
 require ((rootKeys root).all (·≠[]) ∧ (rootKeys root).Nodup ∧
   ∀key ∈ rootKeys root,key ∉ scan.occupiedPaths)
  (utf8 "directory-transfer roots contain a path collision")
 pure { rootIndex:=scan.rootIndex+1
        expectedFirst:=scan.expectedFirst+root.entryCount.toNat
        physicalObjects:=identity::scan.physicalObjects
        ownershipTokens:=root.ownershipToken::scan.ownershipTokens
        occupiedPaths:=scan.occupiedPaths++rootKeys root }

def keyNotAfter (left right : Bytes) : Prop := namespaceKeyLess right left = false

instance : DecidableRel keyNotAfter := fun _ _=>inferInstanceAs (Decidable (_ = false))

/-- No key stands right before one that is below it or the same. -/
def neighboursApart (keys : List Bytes) : Bool:=
 (keys.zip keys.tail).all fun pair=>!namespaceKeyIsAncestorOrSame pair.1 pair.2

/-- What the loop over the entries has seen so far. -/
structure EntryScan where
 index : ℕ := 0
 siblingNames : List Bytes := []
 physicalObjects : List Bytes := []
 totalBytes : UInt64 := 0

def siblingKey (nameKey : Bytes) : Bytes:=
 toChars 10 entry.rootIndex.toNat++colon::(toChars 10 entry.parentIndex.toNat ++ colon::nameKey)

def entryInSlice (index : ℕ) : Bool:=
 root.firstEntry.toNat ≤ index ∧ index < root.firstEntry.toNat+root.entryCount.toNat

def parentOrdered (index : ℕ) : Bool:=
 if entry.depth = 1 then entry.parentIndex = kDirectoryTransferRootParent
 else entry.parentIndex≠kDirectoryTransferRootParent ∧ entry.parentIndex.toNat < index

def parentMatches (entry : DirectoryTransferManifestEntry) : Bool:=
 if entry.parentIndex = kDirectoryTransferRootParent then true
 else
  match manifest.entries[entry.parentIndex.toNat]? with
  | none=>false
  | some parent=>parent.rootIndex = entry.rootIndex ∧ parent.kind = .directory ∧
    entry.depth.toNat = parent.depth.toNat+1

def entrySizeAdded (total : UInt64) (entry : DirectoryTransferManifestEntry):
  Except Bytes UInt64:=
 match entry.kind with
 | .directory=>do
  require (entry.sourceSnapshot.sizeBytes = 0 ∧ entry.linkCount = 0 ∧
    entry.unsupportedShapeFlags = 0)
   (utf8 "directory-transfer directory has a file size")
  pure total
 | .regularFile=>do
  require (entry.linkCount = 1 ∧ entry.unsupportedShapeFlags = 0)
   (utf8 "directory-transfer file has an unsupported filesystem shape")
  require (entry.sourceSnapshot.sizeBytes ≤ 0xffffffffffffffff - total)
   (utf8 "directory-transfer byte count overflows")
  pure (total+entry.sourceSnapshot.sizeBytes)

/-- A name the filename check accepts and the program does not use itself. -/
def entryNameValid (semantics : DirectoryPathSemantics) : Except Bytes Unit:=
 match validDestinationFilename entry.name with
 | .error detail=>.error (utf8 "directory-transfer entry name is invalid: " ++ detail)
 | .ok ()=>require (!isInternalNamespaceName entry.name semantics)
   (utf8 "directory-transfer entry name is invalid: ")

def checkEntry (scan : EntryScan)
  (entry : DirectoryTransferManifestEntry) : Except Bytes EntryScan := do
 let semantics:=manifest.pathSemantics
 let metadataInvalid:=utf8 "directory-transfer entry metadata is invalid"
 let root ← found manifest.roots[entry.rootIndex.toNat]? metadataInvalid
 require (entry.depth≠0 ∧ entry.depth.toNat ≤ kMaximumDirectoryTransferDepth) metadataInvalid
 let revision ← found (validSnapshotRevision entry.sourceSnapshot semantics) metadataInvalid
 require (entryInSlice root scan.index)
  (utf8 "directory-transfer entry is outside its root slice")
 require (parentOrdered entry scan.index)
  (utf8 "directory-transfer entry parent ordering is invalid")
 require (parentMatches manifest entry) (utf8 "directory-transfer entry parent is invalid")
 entryNameValid entry semantics
 let nameKey:=directoryTransferNamespaceKey entry.name semantics
 require (nameKey≠[] ∧ validUtf8WithoutNul entry.namespaceKeyUtf8 ∧
   nameKey = entry.namespaceKeyUtf8)
  (utf8 "directory-transfer entry name cannot be normalized")
 require (siblingKey entry nameKey ∉ scan.siblingNames)
  (utf8 "directory-transfer manifest contains duplicate sibling names")
 require ((validSnapshotRevision root.sourceSnapshot semantics).any fun rootRevision =>
   revision.volumeIdentity = rootRevision.volumeIdentity)
  (utf8 "directory-transfer entry crosses the source root volume")
 require (revision.stableIdentity ∉ scan.physicalObjects)
  (utf8 "directory-transfer manifest contains a duplicate physical object")
 let totalBytes ← entrySizeAdded scan.totalBytes entry
 pure { index:=scan.index+1
        siblingNames:=siblingKey entry nameKey::scan.siblingNames
        physicalObjects:=revision.stableIdentity::scan.physicalObjects
        totalBytes:=totalBytes }

def validDirectoryTransferManifest : Except Bytes Unit := do
 require (manifest.version = kDirectoryTransferManifestVersion ∧ manifest.operationId≠0)
  (utf8 "directory-transfer manifest identity header is invalid")
 require (manifest.pathSemantics = .posixExact)
  (utf8 "directory-transfer manifest pathname model is unsupported")
 require (manifest.roots≠[]) (utf8 "directory-transfer manifest has no roots")
 require (manifest.roots.length ≤ kMaximumDirectoryTransferRoots)
  (utf8 "directory-transfer manifest has too many roots: " ++ toChars 10 manifest.roots.length)
 require (manifest.entries.length ≤ kMaximumDirectoryTransferEntries)
  (utf8 "directory-transfer manifest has too many entries")
 let roots ← manifest.roots.foldlM (checkRoot manifest) {}
 require (roots.expectedFirst = manifest.entries.length)
  (utf8 "directory-transfer root slices do not cover the manifest")
 require (neighboursApart (roots.occupiedPaths.insertionSort keyNotAfter))
  (utf8 "directory-transfer root namespace paths overlap")
 let entries ← manifest.entries.foldlM (checkEntry manifest)
  { physicalObjects:=roots.physicalObjects }
 require (entries.totalBytes = manifest.totalBytes)
  (utf8 "directory-transfer total byte count is inconsistent")
 require (encodedSize manifest).isSome
  (utf8 "directory-transfer manifest exceeds its 64 MiB limit")

def ManifestValid : Prop := validDirectoryTransferManifest manifest = .ok ()

end VoVe.DirectoryManifest
