import VoVe.ByteTotals
import VoVe.DirectoryManifest

set_option autoImplicit false

namespace VoVe.DirectoryManifestShape
open ByteCodec AsciiText Checks DestinationFilename
open DirectoryManifest ByteTotals
open BasicDirectoryManifest (DirectoryPathSemantics bytesEmpty directoryTransferNamespaceKey)

section Scans
variable (manifest : DirectoryTransferManifest)

def rootIdentity (root : DirectoryTransferManifestRoot) : Bytes:=
 (rootMetadata manifest root).getD []

/-- What the loop has seen after one more root. -/
def rootSeen (scan : RootScan) (root : DirectoryTransferManifestRoot) : RootScan where
 rootIndex:=scan.rootIndex+1
 expectedFirst:=scan.expectedFirst+root.entryCount.toNat
 physicalObjects:=rootIdentity manifest root::scan.physicalObjects
 ownershipTokens:=root.ownershipToken::scan.ownershipTokens
 occupiedPaths:=scan.occupiedPaths++rootKeys root

structure RootPasses (scan : RootScan) (root : DirectoryTransferManifestRoot) : Prop where
 first : root.firstEntry.toNat=scan.expectedFirst
 count : root.entryCount.toNat ≤ manifest.entries.length - scan.expectedFirst
 paths : validRootPaths manifest scan.rootIndex root=.ok ()
 metadata : rootMetadata manifest root=some (rootIdentity manifest root)
 identity : rootIdentity manifest root∉scan.physicalObjects
 token : root.ownershipToken∉scan.ownershipTokens
 keysNonempty : ∀key∈rootKeys root,key≠[]
 keysNodup : (rootKeys root).Nodup
 keysFree : ∀key∈rootKeys root,key∉scan.occupiedPaths

lemma checkRoot_iff (scan : RootScan) (root : DirectoryTransferManifestRoot) (after : RootScan):
 checkRoot manifest scan root=.ok after ↔
  RootPasses manifest scan root ∧ after=rootSeen manifest scan root:=by
 simp only [checkRoot,bind_unit_eq_ok,found_bind_eq_ok,require_eq_ok,decide_eq_true_eq,
  pure_eq_ok,List.all_eq_true]
 constructor
 · rintro ⟨⟨hfirst,hcount⟩,hpaths,identity,hidentity,hfresh,htoken,⟨hne,hnodup,hfree⟩,hafter⟩
   have hroot:rootIdentity manifest root=identity:=by rw [rootIdentity,hidentity]; rfl
   subst hroot
   exact ⟨⟨hfirst,hcount,hpaths,hidentity,hfresh,htoken,hne,hnodup,hfree⟩,hafter.symm⟩
 · rintro ⟨hpasses,hafter⟩
   exact ⟨⟨hpasses.first,hpasses.count⟩,hpasses.paths,rootIdentity manifest root,
    hpasses.metadata,hpasses.identity,hpasses.token,
    ⟨hpasses.keysNonempty,hpasses.keysNodup,hpasses.keysFree⟩,hafter.symm⟩

lemma rootsSeen (r : List DirectoryTransferManifestRoot) (scan : RootScan):
 r.foldl (rootSeen manifest) scan=
  { rootIndex:=scan.rootIndex+r.length
    expectedFirst:=scan.expectedFirst+(r.map fun root=>root.entryCount.toNat).sum
    physicalObjects:=(r.map (rootIdentity manifest)).reverse++scan.physicalObjects
    ownershipTokens:=(r.map (·.ownershipToken)).reverse++scan.ownershipTokens
    occupiedPaths:=scan.occupiedPaths++r.flatMap rootKeys }:=by
 induction r generalizing scan with
 | nil=>simp
 | cons root rest ih=>
  rw [List.foldl_cons,ih]
  simp [rootSeen,Nat.add_assoc,Nat.add_comm 1]

variable (entry : DirectoryTransferManifestEntry)

def entryRevision : Option ParsedRevision:=
 validSnapshotRevision entry.sourceSnapshot manifest.pathSemantics

def entryIdentity : Bytes := ((entryRevision manifest entry).map (·.stableIdentity)).getD []

def entryNameKey : Bytes := directoryTransferNamespaceKey entry.name manifest.pathSemantics

def entryPlace : Bytes := siblingKey entry (entryNameKey manifest entry)

def contentBytes : UInt64:=
 match entry.kind with
 | .directory=>0
 | .regularFile=>entry.sourceSnapshot.sizeBytes

def entrySeen (scan : EntryScan) (entry : DirectoryTransferManifestEntry) : EntryScan where
 index:=scan.index+1
 siblingNames:=entryPlace manifest entry::scan.siblingNames
 physicalObjects:=entryIdentity manifest entry::scan.physicalObjects
 totalBytes:=scan.totalBytes+contentBytes entry

/-- A directory has no content and a file one link. -/
def shapeValid : Prop:=
 match entry.kind with
 | .directory=>entry.sourceSnapshot.sizeBytes = 0 ∧ entry.linkCount = 0 ∧
   entry.unsupportedShapeFlags = 0
 | .regularFile=>entry.linkCount = 1 ∧ entry.unsupportedShapeFlags = 0

/-- The entry is in the slice of its root, and on the same volume. -/
structure BelongsTo (index : ℕ) (entry : DirectoryTransferManifestEntry)
  (root : DirectoryTransferManifestRoot) : Prop where
 own : manifest.roots[entry.rootIndex.toNat]?=some root
 slice : entryInSlice root index=true
 volume : ∃ revision,entryRevision manifest entry=some revision ∧
  (validSnapshotRevision root.sourceSnapshot manifest.pathSemantics).any (fun rootRevision =>
   revision.volumeIdentity=rootRevision.volumeIdentity)=true

structure EntryPasses (scan : EntryScan) (entry : DirectoryTransferManifestEntry) : Prop where
 belongs : ∃ root,BelongsTo manifest scan.index entry root
 deep : entry.depth≠0
 depth : entry.depth.toNat≤kMaximumDirectoryTransferDepth
 ordered : parentOrdered entry scan.index=true
 parent : parentMatches manifest entry=true
 name : DestinationName entry.name
 reserved : isInternalNamespaceName entry.name manifest.pathSemantics=false
 keyed : entryNameKey manifest entry≠[]
 text : validUtf8WithoutNul entry.namespaceKeyUtf8=true
 key : entryNameKey manifest entry=entry.namespaceKeyUtf8
 place : entryPlace manifest entry∉scan.siblingNames
 identity : entryIdentity manifest entry∉scan.physicalObjects
 shape : shapeValid entry
 fits : scan.totalBytes.toNat+(contentBytes entry).toNat<2 ^ 64

lemma entryNameValid_iff
 (semantics : DirectoryPathSemantics) : entryNameValid entry semantics=.ok () ↔
  DestinationName entry.name ∧ isInternalNamespaceName entry.name semantics=false:=by
 unfold entryNameValid DestinationName
 split
 · next detail h => simp [h]
 · next h => simp [h]

lemma entrySizeAdded_iff (total after : UInt64) (entry : DirectoryTransferManifestEntry):
 entrySizeAdded total entry=.ok after ↔
  (shapeValid entry ∧ total.toNat+(contentBytes entry).toNat<2 ^ 64) ∧
   after=total+contentBytes entry:=by
 have htotal:=total.toNat_lt
 unfold entrySizeAdded shapeValid contentBytes
 cases entry.kind with
 | directory=>
  simp only [bind_unit_eq_ok,require_eq_ok,decide_eq_true_eq,pure_eq_ok,UInt64.toNat_zero,
   Nat.add_zero,UInt64.add_zero]
  constructor
  · rintro ⟨hshape,hafter⟩
    exact ⟨⟨hshape,htotal⟩,hafter.symm⟩
  · rintro ⟨⟨hshape,_⟩,hafter⟩
    exact ⟨hshape,hafter.symm⟩
 | regularFile=>
  simp only [bind_unit_eq_ok,require_eq_ok,decide_eq_true_eq,pure_eq_ok,sub_room]
  constructor
  · rintro ⟨hshape,hfits,hafter⟩
    exact ⟨⟨hshape,hfits⟩,hafter.symm⟩
  · rintro ⟨⟨hshape,hfits⟩,hafter⟩
    exact ⟨hshape,hfits,hafter.symm⟩

lemma entrySizeAdded_bind (total : UInt64) (entry : DirectoryTransferManifestEntry)
 (f : UInt64 → Except Bytes EntryScan) (after : EntryScan):
 (entrySizeAdded total entry >>= f)=.ok after ↔
  (shapeValid entry ∧ total.toNat+(contentBytes entry).toNat<2 ^ 64) ∧
   f (total+contentBytes entry)=.ok after:=by
 rw [bind_eq_ok]
 constructor
 · intro ⟨sum,hsum,hafter⟩
   obtain ⟨hvalid,rfl⟩:=(entrySizeAdded_iff _ _ _).mp hsum
   exact ⟨hvalid,hafter⟩
 · intro ⟨hvalid,hafter⟩
   exact ⟨_,(entrySizeAdded_iff _ _ _).mpr ⟨hvalid,rfl⟩,hafter⟩

lemma checkEntry_iff (scan : EntryScan) (entry : DirectoryTransferManifestEntry)
 (after : EntryScan) : checkEntry manifest scan entry=.ok after ↔
  EntryPasses manifest scan entry ∧ after=entrySeen manifest scan entry:=by
 simp only [checkEntry,bind_unit_eq_ok,found_bind_eq_ok,require_eq_ok,decide_eq_true_eq,
  pure_eq_ok,entryNameValid_iff,entrySizeAdded_bind]
 constructor
 · rintro ⟨root,hroot,⟨hdeep,hdepth⟩,revision,hrevision,hslice,hordered,hparent,
    ⟨hname,hreserved⟩,⟨hkeyed,htext,hkey⟩,hplace,hvolume,hidentity,⟨hshape,hfits⟩,
    hafter⟩
   have hsame:entryIdentity manifest entry=revision.stableIdentity:=by
    rw [entryIdentity,entryRevision,hrevision]
    rfl
   rw [←hsame] at hidentity hafter
   exact ⟨⟨⟨root,hroot,hslice,revision,hrevision,hvolume⟩,hdeep,hdepth,hordered,hparent,
    hname,hreserved,hkeyed,htext,hkey,hplace,hidentity,hshape,hfits⟩,hafter.symm⟩
 · rintro ⟨hpasses,hafter⟩
   obtain ⟨root,hroot,hslice,revision,hrevision,hvolume⟩:=hpasses.belongs
   have hsame:entryIdentity manifest entry=revision.stableIdentity:=by
    rw [entryIdentity,hrevision]
    rfl
   have hidentity:=hpasses.identity
   rw [hafter,entrySeen,hsame]
   rw [hsame] at hidentity
   exact ⟨root,hroot,⟨hpasses.deep,hpasses.depth⟩,revision,hrevision,hslice,
    hpasses.ordered,hpasses.parent,⟨hpasses.name,hpasses.reserved⟩,
    ⟨hpasses.keyed,hpasses.text,hpasses.key⟩,hpasses.place,hvolume,hidentity,
    ⟨hpasses.shape,hpasses.fits⟩,rfl⟩

lemma entriesSeen (entries : List DirectoryTransferManifestEntry) (scan : EntryScan):
 entries.foldl (entrySeen manifest) scan=
  { index:=scan.index+entries.length
    siblingNames:=(entries.map (entryPlace manifest)).reverse++scan.siblingNames
    physicalObjects:=(entries.map (entryIdentity manifest)).reverse++scan.physicalObjects
    totalBytes:=scan.totalBytes+(entries.map contentBytes).sum }:=by
 induction entries generalizing scan with
 | nil=>simp
 | cons entry rest ih=>
  rw [List.foldl_cons,ih]
  simp [entrySeen,Nat.add_assoc,Nat.add_comm 1,UInt64.add_assoc]

end Scans

section Sound
variable (manifest : DirectoryTransferManifest)

def entryCounts (roots : List DirectoryTransferManifestRoot) : List ℕ:=
 roots.map fun root=>root.entryCount.toNat

structure RootSound (index : ℕ) (root : DirectoryTransferManifestRoot) : Prop where
 first : root.firstEntry.toNat=(entryCounts (manifest.roots.take index)).sum
 paths : validRootPaths manifest index root=.ok ()
 metadata : rootMetadata manifest root=some (rootIdentity manifest root)
 keysNonempty : ∀key∈rootKeys root,key≠[]

structure EntrySound (index : ℕ) (entry : DirectoryTransferManifestEntry) : Prop where
 belongs : ∃ root,BelongsTo manifest index entry root
 deep : entry.depth≠0
 depth : entry.depth.toNat≤kMaximumDirectoryTransferDepth
 ordered : parentOrdered entry index=true
 parent : parentMatches manifest entry=true
 name : DestinationName entry.name
 reserved : isInternalNamespaceName entry.name manifest.pathSemantics=false
 keyed : entryNameKey manifest entry≠[]
 text : validUtf8WithoutNul entry.namespaceKeyUtf8=true
 key : entryNameKey manifest entry=entry.namespaceKeyUtf8
 shape : shapeValid entry

structure ManifestSound : Prop where
 version : manifest.version=kDirectoryTransferManifestVersion
 operationId : manifest.operationId≠0
 semantics : manifest.pathSemantics=.posixExact
 nonempty : manifest.roots≠[]
 rootsSize : manifest.roots.length≤kMaximumDirectoryTransferRoots
 entriesSize : manifest.entries.length≤kMaximumDirectoryTransferEntries
 roots : ∀i (h:i < manifest.roots.length),RootSound manifest i manifest.roots[i]
 cover : (entryCounts manifest.roots).sum=manifest.entries.length
 tokens : (manifest.roots.map (·.ownershipToken)).Nodup
 keys : (manifest.roots.flatMap rootKeys).Nodup
 apart : neighboursApart ((manifest.roots.flatMap rootKeys).insertionSort keyNotAfter)=true
 entries : ∀i (h:i < manifest.entries.length),EntrySound manifest i manifest.entries[i]
 places : (manifest.entries.map (entryPlace manifest)).Nodup
 objects : (manifest.roots.map (rootIdentity manifest) ++
  manifest.entries.map (entryIdentity manifest)).Nodup
 total : manifest.totalBytes.toNat=(manifest.entries.map fun entry =>
  (contentBytes entry).toNat).sum
 size : ∃ size,encodedSize manifest=some size

end Sound

section Assembly
variable {manifest : DirectoryTransferManifest}

lemma flatMap_nodup (key : DirectoryTransferManifestRoot → List Bytes)
 (r : List DirectoryTransferManifestRoot)
 (hown:∀i (h:i < r.length),(key r[i]).Nodup)
 (hfree:∀i (h:i < r.length),∀k∈key r[i],k∉(r.take i).flatMap key):
 (r.flatMap key).Nodup:=by
 induction r using List.reverseRecOn with
 | nil=>exact List.nodup_nil
 | append_singleton before root ih=>
  have hlast:=hown before.length (by simp)
  have hfresh:=hfree before.length (by simp)
  rw [List.getElem_concat_length rfl] at hlast hfresh
  rw [List.take_left] at hfresh
  have hbefore:(before.flatMap key).Nodup:=by
   apply ih
   · intro i hi
     have hnodup:=hown i (by simp; omega)
     rwa [List.getElem_append_left hi] at hnodup
   · intro i hi
     have hstep:=hfree i (by simp; omega)
     rwa [List.take_append_of_le_length (by omega),List.getElem_append_left hi] at hstep
  rw [List.flatMap_append,List.flatMap_singleton,List.nodup_append]
  refine ⟨hbefore,hlast,?_⟩
  intro k hk k' hk' heq
  exact hfresh k' hk' (heq ▸ hk)

lemma sound_of_valid (h:ManifestValid manifest) : ManifestSound manifest:=by
 simp only [ManifestValid,validDirectoryTransferManifest,bind_unit_eq_ok,require_eq_ok,
  decide_eq_true_eq,foldlM_bind_eq_ok (checkRoot_iff manifest),
  foldlM_bind_eq_ok (checkEntry_iff manifest)] at h
 obtain ⟨⟨hversion,hid⟩,hsemantics,hroots,hrootsSize,hentriesSize,hrootsPass,hcover,hapart,
  hentriesPass,htotal,hsize⟩ := h
 simp only [rootsSeen,List.append_nil,List.nil_append,Nat.zero_add] at hrootsPass hcover hapart
 simp only [rootsSeen,entriesSeen,List.append_nil,Nat.zero_add,UInt64.zero_add]
  at hentriesPass htotal
 have hfits:manifest.totalBytes.toNat=
   ((manifest.entries.map contentBytes).map UInt64.toNat).sum:=by
  rw [←htotal]
  apply toNat_sum
  intro i hi
  have hi':i < manifest.entries.length:=by simpa using hi
  rw [←List.map_take,List.getElem_map]
  exact (hentriesPass i hi').fits
 refine ⟨hversion,hid,hsemantics,hroots,hrootsSize,hentriesSize,?_,hcover,?_,?_,hapart,
  ?_,?_,?_,?_,Option.isSome_iff_exists.mp hsize⟩
 · intro i hi
   have hpasses:=hrootsPass i hi
   have hlength:min i manifest.roots.length=i:=by omega
   have hpaths:=hpasses.paths
   rw [List.length_take,hlength] at hpaths
   exact ⟨hpasses.first,hpaths,hpasses.metadata,hpasses.keysNonempty⟩
 · apply (keys_nodup _ _).mp
   intro i hi
   simpa using (hrootsPass i hi).token
 · apply flatMap_nodup
   · exact fun i hi=>(hrootsPass i hi).keysNodup
   · exact fun i hi=>(hrootsPass i hi).keysFree
 · intro i hi
   have hpasses:=hentriesPass i hi
   have hlength:min i manifest.entries.length=i:=by omega
   have hbelongs:=hpasses.belongs
   have hordered:=hpasses.ordered
   simp only [List.length_take,hlength] at hbelongs hordered
   exact ⟨hbelongs,hpasses.deep,hpasses.depth,hordered,hpasses.parent,hpasses.name,
    hpasses.reserved,hpasses.keyed,hpasses.text,hpasses.key,hpasses.shape⟩
 · apply (keys_nodup _ _).mp
   intro i hi
   simpa using (hentriesPass i hi).place
 · rw [List.nodup_append]
   refine ⟨(keys_nodup _ _).mp ?_,(keys_nodup _ _).mp ?_,?_⟩
   · intro i hi
     simpa using (hrootsPass i hi).identity
   · intro i hi
     have hfresh:=(hentriesPass i hi).identity
     simp only [List.mem_append,List.mem_reverse,not_or] at hfresh
     exact hfresh.1
   · intro object hobject other hother heq
     subst heq
     obtain ⟨entry,hentry,rfl⟩:=List.mem_map.mp hother
     obtain ⟨i,hi,rfl⟩:=List.getElem_of_mem hentry
     have hfresh:=(hentriesPass i hi).identity
     simp only [List.mem_append,List.mem_reverse,not_or] at hfresh
     exact hfresh.2 hobject
 · rw [hfits,List.map_map]
   rfl

end Assembly

end VoVe.DirectoryManifestShape
