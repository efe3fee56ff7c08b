import VoVe.BasicDirectoryManifestCodec

set_option autoImplicit false

namespace VoVe.BasicDirectoryPlan
open ByteCodec AsciiText PosixPath Checks DestinationFilename TransferTransaction
open BasicDirectoryManifest BasicDirectoryManifestCodec

def serializedManifestFixedBytes : ℕ := 112
def serializedManifestEntryFixedBytes : ℕ := 28

inductive BasicDirectoryTransferStatus where
 | success
 | movePendingPublication
 | invalidRequest
 | notFound
 | conflict
 | sourceChanged
 | stagingChanged
 | permissionDenied
 | authenticationRequired
 | disconnected
 | timedOut
 | unsupported
 | recoveryRequired
 | unknownOutcome
 | ioError
 | fileInUse
 deriving DecidableEq

/-- What a refused system call says, its error already mapped to a status. -/
structure SystemError where
 status : BasicDirectoryTransferStatus
 platformCode : Int64 := 0
 detailUtf8 : Bytes := []
 deriving DecidableEq

/-- The end of a planning that did not succeed. -/
structure PlanFailure where
 status : BasicDirectoryTransferStatus
 platformCode : Int64 := 0
 detailUtf8 : Bytes
 deriving DecidableEq

def orFail {α : Type} (answer : Except SystemError α) (detail : String) : Except PlanFailure α:=
 answer.mapError fun error =>
  { status:=error.status,platformCode:=error.platformCode,detailUtf8:=utf8 detail }

def unsupported (detail : String) : PlanFailure where
 status:=.unsupported
 detailUtf8:=utf8 detail

inductive FileType where
 | symlink
 | directory
 | regularFile
 | special
 deriving DecidableEq

/-- A file opened for reading, after its shape was inspected. -/
structure OpenedSource where
 sizeBytes : UInt64
 modifiedUnixNs : Int64
 sourceRevisionUtf8 : Bytes

/-- What the system answers about one path of the enumeration. -/
structure FoundEntry where
 relative : Path
 fileType : Except SystemError FileType
 ordinaryDirectory : Except SystemError Bool
 directoryRevision : Except SystemError Bytes
 opened : Except SystemError OpenedSource
 advanced : Except SystemError Unit

structure TreeListing where
 ordinaryRoot : Except SystemError Bool
 rootRevision : Except SystemError Bytes
 begun : Except SystemError Unit
 found : List FoundEntry

structure TreeCapture where
 rootRevisionUtf8 : Bytes
 totalBytes : UInt64 := 0
 serializedEntriesBytes : ℕ := 0
 entries : List BasicDirectoryTransferEntry := []

def addBoundedSize (total value limit : ℕ) : Option ℕ:=
 if total > limit ∨ value > limit - total then none else some (total+value)

/-- An entry that is neither a directory nor a plain file is refused. -/
def describeEntry (found : FoundEntry) (fileType : FileType):
  Except PlanFailure BasicDirectoryTransferEntry:=
 let entry : BasicDirectoryTransferEntry:=
  { relativePath:=found.relative,depth:=UInt16.ofNat (pathDepth found.relative) }
 match fileType with
 | .symlink=>
  .error (unsupported "symbolic links and reparse links are not copied in basic mode")
 | .directory=>do
  let ordinary ← orFail found.ordinaryDirectory "reparse directories are not copied in basic mode"
  require ordinary (unsupported "reparse directories are not copied in basic mode")
  let revision ← orFail found.directoryRevision "source subdirectory revision could not be read"
  pure { entry with kind:=.directory,sourceRevisionUtf8:=revision }
 | .regularFile=>do
  let source ← found.opened.mapError fun error =>
   { status:=error.status,platformCode:=error.platformCode, detailUtf8:=error.detailUtf8 }
  pure { entry with
   kind:=.regularFile,sizeBytes := source.sizeBytes,
   modifiedUnixNs:=source.modifiedUnixNs,sourceRevisionUtf8 := source.sourceRevisionUtf8 }
 | .special=>.error (unsupported "source tree contains a special filesystem object")

/-- The bytes an entry will take, as long as they fit. -/
def serializedEntry (entry : BasicDirectoryTransferEntry) : Option ℕ := do
 let withPath ← addBoundedSize serializedManifestEntryFixedBytes entry.relativePath.native.length
  kBasicDirectoryTransferMaximumManifestBytes
 addBoundedSize withPath entry.sourceRevisionUtf8.length
  kBasicDirectoryTransferMaximumManifestBytes

def captureEntry (allowInternalNames : Bool) (capture : TreeCapture) (found : FoundEntry):
  Except PlanFailure TreeCapture := do
 let depth:=pathDepth found.relative
 require (canonicalRelativePath found.relative ∧ depth≠0 ∧
   depth ≤ kBasicDirectoryTransferMaximumDepth ∧
   (allowInternalNames ∨ ¬containsInternalName found.relative))
  (unsupported "source tree contains an unsupported path")
 let fileType ← orFail found.fileType "source entry metadata could not be read"
 let entry ← describeEntry found fileType
 require (entry.sizeBytes ≤ 0xffffffffffffffff - capture.totalBytes)
  (unsupported "source tree size exceeds the supported range")
 let serialized ← Checks.found (do
   let size ← serializedEntry entry
   addBoundedSize capture.serializedEntriesBytes size
    kBasicDirectoryTransferMaximumManifestBytes)
  (unsupported "source tree exceeds the basic manifest byte budget")
 pure { capture with
  totalBytes:=capture.totalBytes+entry.sizeBytes
  serializedEntriesBytes:=serialized
  entries:=capture.entries++[entry] }

def captureUnlessMarker (allowOwnershipMarker allowInternalNames : Bool) (capture : TreeCapture)
  (found : FoundEntry) : Except PlanFailure TreeCapture:=
 if allowOwnershipMarker ∧ found.relative.same ⟨kTransferOwnershipMarkerFilename⟩ then .ok capture
 else captureEntry allowInternalNames capture found

/-- One turn of the enumeration. -/
def captureFound (allowOwnershipMarker allowInternalNames : Bool) (capture : TreeCapture)
  (found : FoundEntry) : Except PlanFailure TreeCapture := do
 require (capture.entries.length < kBasicDirectoryTransferMaximumEntries)
  (unsupported "source tree contains too many entries")
 let captured ← captureUnlessMarker allowOwnershipMarker allowInternalNames capture found
 orFail found.advanced "source directory enumeration was interrupted"
 pure captured

def keyBefore (left right : BasicDirectoryTransferEntry) : Bool:=
 directoryTransferNamespaceKey left.relativePath nativePathSemantics ≤
  directoryTransferNamespaceKey right.relativePath nativePathSemantics

def captureTree (listing : TreeListing) (allowOwnershipMarker allowInternalNames : Bool):
  Except PlanFailure TreeCapture := do
 let ordinary ← orFail listing.ordinaryRoot "source root is no longer an ordinary directory"
 require ordinary { status:=.sourceChanged,
                    detailUtf8:=utf8 "source root is no longer an ordinary directory" }
 let rootRevision ← orFail listing.rootRevision "source root revision could not be read"
 orFail listing.begun "source directory could not be enumerated"
 let capture ← listing.found.foldlM (captureFound allowOwnershipMarker allowInternalNames)
  { rootRevisionUtf8:=rootRevision }
 pure { capture with entries:=capture.entries.mergeSort keyBefore }

structure PlanView where
 source : Except SystemError Path
 destination : Except SystemError Path
 ordinarySource : Except SystemError Bool
 ordinaryParent : Except SystemError Bool
 destinationExists : Except SystemError Bool
 token : Except SystemError DirectoryTransferOwnershipToken
 listing : TreeListing

structure BasicDirectoryTransferRequest where
 source : Path
 destination : Path
 operationId : UInt64 := 0

def operationIdFromToken (token : DirectoryTransferOwnershipToken) : UInt64:=
 let value:=UInt64.ofNat (leValue (token.bytes.take 8))
 if value = 0 then 1 else value

/-- The bytes the whole manifest will take, as the planner adds them up. -/
def plannedSize (captured : TreeCapture) (manifest : BasicDirectoryTransferManifest) : Option ℕ := do
 let limit:=kBasicDirectoryTransferMaximumManifestBytes
 let size ← addBoundedSize serializedManifestFixedBytes captured.serializedEntriesBytes limit
 let size ← addBoundedSize size manifest.source.native.length limit
 let size ← addBoundedSize size manifest.stagingDestination.native.length limit
 let size ← addBoundedSize size manifest.destination.native.length limit
 addBoundedSize size manifest.sourceRevisionUtf8.length limit

def plannedManifest (kind : FileTransferKind) (source destination : Path) (operationId : UInt64)
  (token : DirectoryTransferOwnershipToken) (captured : TreeCapture):
  BasicDirectoryTransferManifest where
 operationId:=operationId
 kind:=kind
 pathSemantics:=nativePathSemantics
 source:=source
 stagingDestination:=basicStagingDestinationPath destination operationId token
 destination:=destination
 sourceRevisionUtf8:=captured.rootRevisionUtf8
 ownershipToken:=token
 totalBytes:=captured.totalBytes
 entries:=captured.entries

def invalidRequest (detail : Bytes) : PlanFailure where
 status:=.invalidRequest
 detailUtf8:=detail

def checkPlanned (captured : TreeCapture) (manifest : BasicDirectoryTransferManifest):
  Except PlanFailure BasicDirectoryTransferManifest := do
 require (plannedSize captured manifest).isSome
  (unsupported "source tree exceeds the basic manifest byte budget")
 (validBasicDirectoryTransferManifest manifest).mapError invalidRequest
 pure manifest

def planBasicDirectoryTransfer (view : PlanView) (request : BasicDirectoryTransferRequest)
  (kind : FileTransferKind) : Except PlanFailure BasicDirectoryTransferManifest := do
 require (¬request.source.isEmpty ∧ ¬request.destination.isEmpty)
  (invalidRequest (utf8 "source and destination paths are required"))
 let source ← orFail view.source "source path could not be made absolute"
 let destination ← orFail view.destination "destination path could not be made absolute"
 let ordinary ← orFail view.ordinarySource "source must be an ordinary directory"
 require ordinary (invalidRequest (utf8 "source must be an ordinary directory"))
 let ordinary ← orFail view.ordinaryParent "destination parent must be an existing directory"
 require ordinary (invalidRequest (utf8 "destination parent must be an existing directory"))
 let exists' ← orFail view.destinationExists "destination state could not be read"
 require (!exists') { status:=.conflict,detailUtf8:=utf8 "destination already exists" }
 let token ← orFail view.token "directory transfer token could not be generated"
 let operationId:=
  if request.operationId = 0 then operationIdFromToken token else request.operationId
 let captured ← captureTree view.listing false false
 checkPlanned captured (plannedManifest kind source destination operationId token captured)

variable {size : ℕ} {allowOwnershipMarker allowInternalNames : Bool}
 {capture captured : TreeCapture} {manifest : BasicDirectoryTransferManifest} {view : PlanView}
 {request : BasicDirectoryTransferRequest} {kind : FileTransferKind}

lemma addBoundedSize_eq_some {total value limit : ℕ}:
 addBoundedSize total value limit=some size ↔ total+value≤limit ∧ size=total+value:=by
 unfold addBoundedSize
 split
 · next h =>
   constructor
   · exact nofun
   · rintro ⟨hle,-⟩
     omega
 · next h =>
   rw [Option.some.injEq]
   constructor
   · intro heq
     exact ⟨by omega,heq.symm⟩
   · exact fun ⟨_,heq⟩=>heq.symm

lemma serializedEntry_eq_some {entry : BasicDirectoryTransferEntry}
 (h:serializedEntry entry=some size) : size=entryBytes entry:=by
 simp only [serializedEntry,Option.bind_eq_bind,Option.bind_eq_some_iff,
  addBoundedSize_eq_some] at h
 obtain ⟨_,⟨-,rfl⟩,-,rfl⟩:=h
 rfl

def Accounted (capture : TreeCapture) : Prop:=
 capture.serializedEntriesBytes = (capture.entries.map entryBytes).sum

lemma captureFound_accounted {found : FoundEntry}
 (h:captureFound allowOwnershipMarker allowInternalNames capture found=.ok captured)
 (haccounted:Accounted capture) : Accounted captured:=by
 obtain ⟨-,h⟩:=(bind_unit_eq_ok _ _ _).mp h
 obtain ⟨captured',hcaptured,h⟩:=(bind_eq_ok _ _ _).mp h
 obtain ⟨-,h⟩:=(bind_unit_eq_ok _ _ _).mp h
 obtain rfl:=(pure_eq_ok _ _).mp h
 unfold captureUnlessMarker at hcaptured
 split at hcaptured
 · obtain rfl:=Except.ok.inj hcaptured
   exact haccounted
 · simp only [captureEntry,bind_unit_eq_ok] at hcaptured
   obtain ⟨-,hcaptured⟩:=hcaptured
   obtain ⟨fileType,-,hcaptured⟩:=(bind_eq_ok _ _ _).mp hcaptured
   obtain ⟨entry,-,hcaptured⟩:=(bind_eq_ok _ _ _).mp hcaptured
   obtain ⟨-,hcaptured⟩:=(bind_unit_eq_ok _ _ _).mp hcaptured
   obtain ⟨serialized,hserialized,hcaptured⟩:=(found_bind_eq_ok _ _ _ _).mp hcaptured
   obtain rfl:=(pure_eq_ok _ _).mp hcaptured
   obtain ⟨size,hsize,hadded⟩:=Option.bind_eq_some_iff.mp hserialized
   obtain ⟨-,rfl⟩:=addBoundedSize_eq_some.mp hadded
   unfold Accounted at haccounted ⊢
   rw [haccounted,serializedEntry_eq_some hsize,List.map_append,List.sum_append]
   simp

lemma foldlM_accounted {found : List FoundEntry}
 (h:found.foldlM (captureFound allowOwnershipMarker allowInternalNames) capture=.ok captured)
 (haccounted:Accounted capture) : Accounted captured:=by
 induction found generalizing capture with
 | nil=>
  obtain rfl:=(pure_eq_ok _ _).mp h
  exact haccounted
 | cons entry rest ih=>
  rw [List.foldlM_cons] at h
  obtain ⟨next,hnext,hrest⟩:=(bind_eq_ok _ _ _).mp h
  exact ih hrest (captureFound_accounted hnext haccounted)

lemma captureTree_accounted {listing : TreeListing}
 (h:captureTree listing allowOwnershipMarker allowInternalNames=.ok captured):
 Accounted captured:=by
 simp only [captureTree,bind_eq_ok,pure_eq_ok] at h
 obtain ⟨_,-,_,-,_,-,_,-,capture,hcapture,rfl⟩:=h
 have haccounted:Accounted capture:=foldlM_accounted hcapture rfl
 have hperm:=(List.mergeSort_perm capture.entries keyBefore).map entryBytes
 unfold Accounted at haccounted ⊢
 rw [haccounted,hperm.sum_eq]

lemma plannedSize_eq_some (h:plannedSize captured manifest=some size):
 size=112+captured.serializedEntriesBytes+manifest.source.native.length +
  manifest.stagingDestination.native.length+manifest.destination.native.length +
  manifest.sourceRevisionUtf8.length ∧ size≤kBasicDirectoryTransferMaximumManifestBytes:=by
 simp only [plannedSize,Option.bind_eq_bind,Option.bind_eq_some_iff,addBoundedSize_eq_some] at h
 obtain ⟨_,⟨-,rfl⟩,_,⟨-,rfl⟩,_,⟨-,rfl⟩,_,⟨-,rfl⟩,hle,rfl⟩:=h
 exact ⟨rfl,hle⟩

lemma plan_eq_ok (h:planBasicDirectoryTransfer view request kind=.ok manifest):
 ∃ captured size,captureTree view.listing false false=.ok captured ∧
  plannedSize captured manifest=some size ∧ manifest.entries=captured.entries ∧
  ManifestValid manifest:=by
 simp only [planBasicDirectoryTransfer,bind_eq_ok] at h
 obtain ⟨_,-,source,-,destination,-,_,-,_,-,_,-,_,-,_,-,_,-,token,-,captured,
  hcaptured,hplanned⟩ := h
 simp only [checkPlanned,bind_unit_eq_ok,require_eq_ok,pure_eq_ok] at hplanned
 obtain ⟨hsize,hvalid,rfl⟩:=hplanned
 obtain ⟨size,hsize⟩:=Option.isSome_iff_exists.mp hsize
 refine ⟨captured,size,hcaptured,hsize,rfl,?_⟩
 unfold ManifestValid
 revert hvalid
 cases validBasicDirectoryTransferManifest _ with
 | error detail=>rintro ⟨⟩
 | ok u=>exact fun _=>rfl

lemma plan_encodes (h:planBasicDirectoryTransfer view request kind=.ok manifest)
 (sha256 : Bytes → BasicDirectoryTransferDigest):
 ∃ captured size payload,captureTree view.listing false false=.ok captured ∧
  plannedSize captured manifest=some size ∧
  encodeBasicDirectoryTransferManifest sha256 manifest=.ok payload ∧
  size=payload.length+16:=by
 obtain ⟨captured,size,hcaptured,hsize,hentries,hvalid⟩:=plan_eq_ok h
 obtain ⟨hsum,hle⟩:=plannedSize_eq_some hsize
 have haccounted:=captureTree_accounted hcaptured
 have hlength:=length_manifestPayload sha256 manifest
 unfold Accounted at haccounted
 rw [hentries,←haccounted] at hlength
 have hsmall:kBasicDirectoryTransferMaximumManifestBytes<2 ^ 32:=by decide
 refine ⟨captured,size,_,hcaptured,hsize,(encode_iff _).mpr ⟨hvalid,?_,?_,rfl⟩,?_⟩
 · intro text htext
   have htext:=length_le_payload sha256 htext
   omega
 · omega
 · omega

end VoVe.BasicDirectoryPlan
