import VoVe.BasicDirectoryManifest
import VoVe.ByteTotals
import VoVe.PathNormal

set_option autoImplicit false

namespace VoVe.BasicDirectoryTree
open ByteCodec AsciiText PosixPath PathNormal Checks DestinationFilename
open BasicDirectoryManifest ByteTotals

variable (entry : BasicDirectoryTransferEntry)

def entryKey : Bytes := directoryTransferNamespaceKey entry.relativePath .posixExact

def contentBytes : UInt64:=
 match entry.kind with
 | .regularFile=>entry.sizeBytes
 | _=>0

/-- A directory has no content, and there is no third kind. -/
def shapeValid : Prop:=
 match entry.kind with
 | .directory=>entry.sizeBytes = 0
 | .regularFile=>True
 | .other _=>False

variable (scan : EntryScan)

def entrySeen (entry : BasicDirectoryTransferEntry) : EntryScan where
 paths:=entryKey entry::scan.paths
 totalBytes:=scan.totalBytes+contentBytes entry
 previousKey:=entryKey entry

structure EntryPasses (scan : EntryScan) (entry : BasicDirectoryTransferEntry) : Prop where
 path : entryPathValid .posixExact scan entry=true
 shape : shapeValid entry
 fits : scan.totalBytes.toNat+(contentBytes entry).toNat<2 ^ 64
 parent : entry.relativePath.parentPath.isEmpty=true ∨
  directoryTransferNamespaceKey entry.relativePath.parentPath .posixExact ∈
   entryKey entry::scan.paths

lemma entrySizeAdded_iff (total after : UInt64) (entry : BasicDirectoryTransferEntry):
 entrySizeAdded total entry=.ok after ↔
  (shapeValid entry ∧ total.toNat+(contentBytes entry).toNat<2 ^ 64) ∧
   after=total+contentBytes entry:=by
 have htotal:=total.toNat_lt
 unfold entrySizeAdded shapeValid contentBytes
 cases entry.kind with
 | directory=>
  simp only [bind_unit_eq_ok,require_eq_ok,decide_eq_true_eq,pure_eq_ok,UInt64.toNat_zero,
   Nat.add_zero,UInt64.add_zero]
  constructor
  · rintro ⟨hsize,hafter⟩
    exact ⟨⟨hsize,htotal⟩,hafter.symm⟩
  · rintro ⟨⟨hsize,_⟩,hafter⟩
    exact ⟨hsize,hafter.symm⟩
 | regularFile=>
  simp only [bind_unit_eq_ok,require_eq_ok,decide_eq_true_eq,pure_eq_ok,true_and, sub_room]
  exact and_congr_right fun _=>eq_comm
 | other code=>simp

lemma entrySizeAdded_bind (total : UInt64) (entry : BasicDirectoryTransferEntry)
 (f : UInt64 → Except Bytes EntryScan) (after : EntryScan):
 (entrySizeAdded total entry >>= f)=.ok after ↔
  (shapeValid entry ∧ total.toNat+(contentBytes entry).toNat<2 ^ 64) ∧
   f (total+contentBytes entry)=.ok after:=
 bind_iff_of_ok (fun sum=>entrySizeAdded_iff total sum entry) f after

lemma checkEntry_iff (entry : BasicDirectoryTransferEntry)
 (after : EntryScan) : checkEntry .posixExact scan entry=.ok after ↔
  EntryPasses scan entry ∧ after=entrySeen scan entry:=by
 simp only [checkEntry,bind_unit_eq_ok,require_eq_ok,decide_eq_true_eq,pure_eq_ok,
  entrySizeAdded_bind]
 constructor
 · rintro ⟨hpath,⟨hshape,hfits⟩,hparent,hafter⟩
   exact ⟨⟨hpath,hshape,hfits,hparent⟩,hafter.symm⟩
 · rintro ⟨hpasses,hafter⟩
   exact ⟨hpasses.path,⟨hpasses.shape,hpasses.fits⟩,hpasses.parent,hafter.symm⟩

variable (entries : List BasicDirectoryTransferEntry)

/-- The key of the last entry seen, or that of an earlier loop. -/
def lastKey (before : Bytes) : Bytes := (entries.getLast?.map entryKey).getD before

lemma entriesSeen : entries.foldl entrySeen scan=
  { paths:=(entries.map entryKey).reverse++scan.paths
    totalBytes:=scan.totalBytes+(entries.map contentBytes).sum
    previousKey:=lastKey entries scan.previousKey }:=by
 induction entries generalizing scan with
 | nil=>simp [lastKey]
 | cons entry rest ih=>
  rw [List.foldl_cons,ih]
  cases rest with
  | nil=>simp [entrySeen,lastKey]
  | cons next others=>
   have hlast:=List.getLast?_eq_some_getLast (List.cons_ne_nil next others)
   simp [entrySeen,lastKey,UInt64.add_assoc,List.getLast?_cons_cons,hlast]

section Sound
variable {manifest : BasicDirectoryTransferManifest}

structure EntrySound (before : List BasicDirectoryTransferEntry)
  (entry : BasicDirectoryTransferEntry) : Prop where
 canonical : canonicalRelativePath entry.relativePath=true
 reserved : containsInternalName entry.relativePath=false
 depth : entry.depth.toNat=pathDepth entry.relativePath
 keyed : entryKey entry≠[]
 shape : shapeValid entry
 ordered : ∀other∈before.getLast?,entryKey other<entryKey entry
 parent : entry.relativePath.parentPath.isEmpty=true ∨
  directoryTransferNamespaceKey entry.relativePath.parentPath .posixExact ∈
   entryKey entry::before.map entryKey

structure ManifestSound (manifest : BasicDirectoryTransferManifest) : Prop where
 roots : validManifestRoots manifest=.ok ()
 semantics : manifest.pathSemantics=.posixExact
 entries : ∀i (h:i < manifest.entries.length),
  EntrySound (manifest.entries.take i) manifest.entries[i]
 total : manifest.totalBytes.toNat=
  (manifest.entries.map fun entry=>(contentBytes entry).toNat).sum

lemma entrySound_of_passes {before : List BasicDirectoryTransferEntry}
 {entry : BasicDirectoryTransferEntry} (hkeyed:∀other∈before,entryKey other≠[])
 (h:EntryPasses (before.foldl entrySeen {}) entry) : EntrySound before entry:=by
 have hpath:=h.path
 have hparent:=h.parent
 rw [entriesSeen] at hpath hparent
 simp only [entryPathValid,List.append_nil,decide_eq_true_eq,Bool.not_eq_true] at hpath
 obtain ⟨hcanonical,hreserved,-,-,hdepth,hkey,-,hordered,-⟩:=hpath
 refine ⟨hcanonical,hreserved,hdepth,hkey,h.shape,?_,by simpa using hparent⟩
 intro other hlast
 have hlastKey:lastKey before []=entryKey other:=by
  rw [lastKey,Option.mem_def.mp hlast]
  rfl
 rw [hlastKey] at hordered
 rw [←List.not_le]
 intro hle
 exact hordered ⟨hkeyed other (List.mem_of_getLast? hlast),hle⟩

lemma sound_of_valid (h:ManifestValid manifest) : ManifestSound manifest:=by
 have hsemantics:=h.semantics
 simp only [ManifestValid,validBasicDirectoryTransferManifest,bind_unit_eq_ok,require_eq_ok,
  decide_eq_true_eq,hsemantics,foldlM_bind_eq_ok checkEntry_iff] at h
 obtain ⟨-,hroots,-,hentries,htotal⟩:=h
 have hkeyed:∀i (hi:i < manifest.entries.length),entryKey manifest.entries[i]≠[]:=by
  intro i hi
  have hpath:=(hentries i hi).path
  simp only [entryPathValid,decide_eq_true_eq] at hpath
  exact hpath.2.2.2.2.2.1
 refine ⟨hroots,hsemantics,?_,?_⟩
 · intro i hi
   apply entrySound_of_passes _ (hentries i hi)
   intro other hother
   obtain ⟨j,hj,rfl⟩:=List.mem_take_iff_getElem.mp hother
   exact hkeyed j _
 · rw [entriesSeen] at htotal
   simp only [UInt64.zero_add] at htotal
   rw [←htotal,toNat_sum,List.map_map]
   · rfl
   · intro i hi
     have hi':i < manifest.entries.length:=by simpa using hi
     have hfits:=(hentries i hi').fits
     rw [entriesSeen] at hfits
     rw [←List.map_take,List.getElem_map]
     simpa using hfits

end Sound

variable {path : Path}

section Entries
variable {manifest : BasicDirectoryTransferManifest} {i j : ℕ}

/-- A canonical relative path is its names, joined by slashes. -/
structure RelativePlain (path : Path) : Prop where
 components : path.components = ⟨false,path.components.names,false⟩
 names : path.components.names≠[]
 plain : ∀name∈path.components.names,PlainName name
 same : path.same path.lexicallyNormal=true

lemma relativePlain_of_canonical (h:canonicalRelativePath path=true) : RelativePlain path:=by
 simp only [canonicalRelativePath,decide_eq_true_eq,List.all_eq_true,Bool.not_eq_true] at h
 obtain ⟨hempty,habsolute,hsame,hparts⟩:=h
 have hroot:path.components.root=false:=habsolute
 have htrailing:path.components.trailing=false:=by
  rw [←Bool.not_eq_true]
  intro htrailing
  exact (hparts [] (by simp [pathParts,htrailing])).1 rfl
 refine ⟨?_,?_,?_,hsame⟩
 · change (⟨path.components.root,path.components.names,path.components.trailing⟩ : Components)=_
   rw [hroot,htrailing]
 · intro hnone
   rw [isEmpty_components,hnone,hroot] at hempty
   cases hempty
 · intro name hname
   exact (hparts name (by simp [pathParts,hname])).2

lemma RelativePlain.key (h:RelativePlain path):
 path.lexicallyNormal.native=[slash].intercalate path.components.names:=by
 have hempty:path.isEmpty=false:=by
  rw [isEmpty_components]
  simp [h.names]
 rw [lexicallyNormal_plain hempty h.plain,h.components]
 simp [Path.textOf]

lemma ManifestSound.plain (h:ManifestSound manifest) (hi:i < manifest.entries.length):
 RelativePlain manifest.entries[i].relativePath:=
 relativePlain_of_canonical (h.entries i hi).canonical

lemma ManifestSound.ascending (h:ManifestSound manifest):
 manifest.entries.Pairwise fun entry later=>entryKey entry<entryKey later:=by
 have hchain:(manifest.entries.map entryKey).IsChain (· < ·):=by
  rw [List.isChain_iff_getElem]
  intro i hi
  have hi':i+1 < manifest.entries.length:=by simpa using hi
  have hbefore:(manifest.entries.take (i+1)).getLast?=some manifest.entries[i]:=by
   rw [List.getLast?_take]
   simp [List.getElem?_eq_getElem (show i < manifest.entries.length by omega)]
  rw [List.getElem_map,List.getElem_map]
  exact (h.entries (i+1) hi').ordered _ hbefore
 exact List.pairwise_map.mp (List.isChain_iff_pairwise.mp hchain)

lemma key_lt_of_lt (h:ManifestSound manifest) (hi:i < manifest.entries.length)
 (hj:j < manifest.entries.length) (hlt:i<j):
 entryKey manifest.entries[i]<entryKey manifest.entries[j]:=
 List.pairwise_iff_getElem.mp h.ascending i j hi hj hlt

lemma key_le_of_names {below : Path} (hpath:RelativePlain path) (hbelow:RelativePlain below)
 (h:path.components.names <+: below.components.names):
 path.lexicallyNormal.native≤below.lexicallyNormal.native:=by
 rw [hpath.key,hbelow.key]
 obtain ⟨rest,hrest⟩:=h
 rw [←hrest]
 by_cases hnone:rest=[]
 · rw [hnone,List.append_nil]
   exact List.le_refl _
 · rw [intercalate_append hpath.names hnone]
   exact (List.prefix_append _ _).le

lemma RelativePlain.filename (h:RelativePlain path) : path.filename.native≠[]:=by
 rw [filename_components,h.components]
 obtain ⟨front,name,hnames⟩:=(List.eq_nil_or_concat path.components.names).resolve_left h.names
 have hmem:name∈path.components.names:=by simp [hnames]
 simpa [hnames] using (mem_namesOf hmem).1

lemma same_parent {other : Path} (hpath:RelativePlain path) (hother:RelativePlain other)
 (hinner:path.parentPath.isEmpty=false)
 (hkey:other.lexicallyNormal.native=path.parentPath.lexicallyNormal.native):
 other.same path.parentPath=true:=by
 apply same_of_normal hother.same _ hkey
 apply same_lexicallyNormal_plain hinner
 intro name hname
 apply hpath.plain
 rw [congrArg Components.names (components_parentPath hpath.filename)]
 exact List.mem_append_left _ hname

lemma key_ne_parent (hpath:RelativePlain path) (hinner:path.parentPath.isEmpty=false):
 path.lexicallyNormal.native≠path.parentPath.lexicallyNormal.native:=by
 intro hkey
 have hsame:=same_parent hpath hpath hinner hkey
 have hcomponents:=components_parentPath hpath.filename
 have hnames:path.components.names=path.parentPath.components.names:=
  congrArg Components.names (of_decide_eq_true hsame)
 have hlonger:=congrArg Components.names hcomponents
 rw [hnames] at hlonger
 simp at hlonger

lemma parent_listed (h:ManifestSound manifest) (hi:i < manifest.entries.length):
 manifest.entries[i].relativePath.parentPath.isEmpty=true ∨
  ∃ j,∃ hj : j < i,(manifest.entries[j].relativePath.same
   manifest.entries[i].relativePath.parentPath)=true:=by
 cases hempty:manifest.entries[i].relativePath.parentPath.isEmpty with
 | true=>exact .inl rfl
 | false=>
  right
  have hkey:=(h.entries i hi).parent.resolve_left (by simp [hempty])
  obtain hself | hmem:=List.mem_cons.mp hkey
  · exact absurd hself.symm (key_ne_parent (h.plain hi) hempty)
  · obtain ⟨entry,hentry,hsame⟩:=List.mem_map.mp hmem
    obtain ⟨j,hj,rfl⟩:=List.mem_take_iff_getElem.mp hentry
    exact ⟨j,by omega,same_parent (h.plain hi) (h.plain _) hempty hsame⟩

lemma depth_eq (h:ManifestSound manifest) (hi:i < manifest.entries.length):
 manifest.entries[i].depth.toNat=manifest.entries[i].relativePath.components.names.length:=by
 rw [(h.entries i hi).depth,pathDepth,pathParts,(h.plain hi).components]
 simp

end Entries

section Roots

structure AbsolutePlain (path : Path) : Prop where
 root : path.components.root=true
 plain : ∀name∈path.components.names,PlainName name
 same : path.same path.lexicallyNormal=true

lemma AbsolutePlain.nonempty (h:AbsolutePlain path) : path.isEmpty=false:=by
 rw [isEmpty_components]
 simp [h.root]

lemma AbsolutePlain.key (h:AbsolutePlain path) : path.lexicallyNormal.native=
 slash::([slash].intercalate path.components.names ++
  if path.components.trailing then [slash] else []):=by
 rw [lexicallyNormal_plain h.nonempty h.plain,Path.textOf,h.root]
 simp

lemma absolutePlain_of_canonical (h:canonicalAbsolutePath path=true) : AbsolutePlain path:=by
 simp only [canonicalAbsolutePath,decide_eq_true_eq,List.all_eq_true] at h
 refine ⟨h.1,?_,h.2.2.1⟩
 intro name hname
 exact h.2.2.2 name (by simp [pathParts,hname])

lemma names_of_filename (h:path.hasFilename=true):
 path.components.names≠[] ∧ path.components.trailing=false:=by
 have hname:path.filename.native≠[]:=by
  simpa [Path.hasFilename,Path.isEmpty] using h
 rw [filename_components] at hname
 constructor
 · intro hnone
   rw [hnone] at hname
   split at hname
   · exact hname rfl
   · exact hname rfl
 · rw [←Bool.not_eq_true]
   intro htrailing
   rw [if_pos htrailing] at hname
   exact hname rfl

lemma ancestor_of_names {upper lower : Path} (hupper:AbsolutePlain upper)
 (hlower:AbsolutePlain lower) (hname:upper.hasFilename=true)
 (h:upper.components.names <+: lower.components.names):
 namespaceAncestorOrSame upper.lexicallyNormal.native lower.lexicallyNormal.native=true:=by
 obtain ⟨hnames,htrailing⟩:=names_of_filename hname
 obtain ⟨rest,hrest⟩:=h
 rw [hupper.key,hlower.key,←hrest,htrailing]
 generalize htail : (if lower.components.trailing=true then [slash] else [])=tail
 have hslash:tail=[] ∨ tail.head?=some slash:=by
  rw [←htail]
  split
  · exact .inr rfl
  · exact .inl rfl
 simp only [Bool.false_eq_true,if_false,List.append_nil,namespaceAncestorOrSame,startsWith,
  List.isPrefixOf_iff_prefix,decide_eq_true_eq,ne_eq,reduceCtorEq,not_false_eq_true,true_and]
 by_cases hnone:rest=[]
 · rw [hnone,List.append_nil]
   refine ⟨List.prefix_append _ _,?_⟩
   obtain rfl | hhead:=hslash
   · simp
   · exact .inr (by simpa [List.getElem?_append_right,List.head?_eq_getElem?] using hhead)
 · rw [intercalate_append hnames hnone,List.append_assoc,List.cons_append]
   exact ⟨List.prefix_append _ _,.inr (by simp)⟩

/-- Neither path is the other one or below it. -/
def Apart (p q : Path) : Prop:=
 ¬p.components.names <+: q.components.names ∧ ¬q.components.names <+: p.components.names

variable {manifest : BasicDirectoryTransferManifest}

def stagingLeaf (manifest : BasicDirectoryTransferManifest) : Bytes:=
 kTransferDestinationFilenamePrefix++(toChars 16 manifest.operationId.toNat ++
  (45::(toChars 16 0++(45::(hexadecimalBytes manifest.ownershipToken.bytes ++ utf8 ".tree")))))

lemma slash_not_mem_hexadecimal (bytes : Bytes) : slash∉hexadecimalBytes bytes:=by
 intro hmem
 obtain ⟨byte,-,hdigit⟩:=List.mem_flatMap.mp hmem
 have hlt:=byte.toNat_lt
 have hdigits:∀d<16,slash≠digitByte d:=by decide
 obtain hslash | hslash : slash=digitByte (byte.toNat / 16) ∨
   slash=digitByte (byte.toNat % 16) := by simpa using hdigit
 · exact hdigits _ (by omega) hslash
 · exact hdigits _ (by omega) hslash

lemma slash_not_mem_stagingLeaf : slash∉stagingLeaf manifest:=by
 have hstart:slash∉kTransferDestinationFilenamePrefix:=by decide
 have hend:slash∉utf8 ".tree":=by decide
 have hdash:slash≠45:=by decide
 simp [stagingLeaf,slash_not_mem_digits (.inr rfl),slash_not_mem_hexadecimal,hstart,hend,hdash]

lemma internal_stagingLeaf : isInternalFilename (stagingLeaf manifest)=true:=by
 simp [isInternalFilename,isTransferFilename,startsWith,stagingLeaf]

lemma stagingLeaf_plain : stagingLeaf manifest≠[] ∧ PlainName (stagingLeaf manifest):=by
 have hlong:2<kTransferDestinationFilenamePrefix.length:=by decide
 have hlength:2<(stagingLeaf manifest).length:=by
  rw [stagingLeaf,List.length_append]
  omega
 refine ⟨?_,?_,?_⟩
 all_goals
  intro heq
  rw [heq] at hlength
  revert hlength
  decide

/-- What the checks of the roots ensure. -/
structure RootsSound (manifest : BasicDirectoryTransferManifest) : Prop where
 source : AbsolutePlain manifest.source
 staging : AbsolutePlain manifest.stagingDestination
 destination : AbsolutePlain manifest.destination
 sourceReserved : containsInternalName manifest.source=false
 destinationReserved : containsInternalName manifest.destination=false
 name : DestinationName manifest.destination.filename
 stagingNames : manifest.stagingDestination.components=
  ⟨true,manifest.destination.parentPath.components.names++[stagingLeaf manifest],false⟩
 sourceAbove : namespaceAncestorOrSame manifest.source.lexicallyNormal.native
  manifest.destination.lexicallyNormal.native=false
 destinationAbove : namespaceAncestorOrSame manifest.destination.lexicallyNormal.native
  manifest.source.lexicallyNormal.native=false
 stagingAbove : namespaceAncestorOrSame manifest.stagingDestination.lexicallyNormal.native
  manifest.source.lexicallyNormal.native=false

lemma destination_components (habsolute:path.isAbsolute=true)
 (hname:DestinationName path.filename) : path.components=
  ⟨true,path.parentPath.components.names++[path.filename.native],false⟩:=by
 have hcomponents:=components_parentPath hname.ne_empty
 have hroot:=congrArg Components.root hcomponents
 rw [←Path.isAbsolute,habsolute] at hroot
 rw [hcomponents,←hroot]

lemma stagingComponents (hdestination:AbsolutePlain manifest.destination)
 (hname:DestinationName manifest.destination.filename):
 (basicStagingDestinationPath manifest.destination manifest.operationId
   manifest.ownershipToken).components=
  ⟨true,manifest.destination.parentPath.components.names++[stagingLeaf manifest],false⟩:=by
 have hparent:manifest.destination.parentPath.components.root=true:=by
  rw [←Path.isAbsolute,isAbsolute_parentPath hname.ne_empty]
  exact hdestination.root
 change (manifest.destination.parentPath / ⟨stagingLeaf manifest⟩).components=_
 rw [components_leaf _ stagingLeaf_plain.1 slash_not_mem_stagingLeaf,hparent]

lemma rootsSound_of_sound (h:ManifestSound manifest) : RootsSound manifest:=by
 have hroots:=h.roots
 simp only [validManifestRoots,bind_unit_eq_ok,require_eq_ok,decide_eq_true_eq,h.semantics,
  Bool.not_eq_true] at hroots
 obtain ⟨⟨hsource,hsourceNames⟩,hstaging,⟨hdestination,hdestinationNames⟩,⟨-,hleaf⟩,-,
  hrest⟩ := hroots
 have hname:DestinationName manifest.destination.filename:=by
  unfold DestinationName
  split at hrest
  · cases hrest
  · assumption
 have hvalid:validDestinationFilename manifest.destination.filename=.ok ():=hname
 simp only [hvalid,require_eq_ok,decide_eq_true_eq] at hrest
 obtain ⟨-,-,-,hsourceAbove,hdestinationAbove,-,hstagingAbove⟩:=hrest
 have hplain:=absolutePlain_of_canonical hdestination
 have hexpected:=stagingComponents hplain hname
 have hnonempty:(basicStagingDestinationPath manifest.destination manifest.operationId
   manifest.ownershipToken).isEmpty=false:=by
  rw [isEmpty_components,hexpected]
  simp
 have hsame:=same_lexicallyNormal_plain hnonempty (by
  rw [hexpected]
  intro name hmem
  obtain hmem | hmem:=List.mem_append.mp hmem
  · apply hplain.plain
    rw [destination_components hplain.root hname]
    exact List.mem_append_left _ hmem
  · rw [List.mem_singleton.mp hmem]
    exact stagingLeaf_plain.2)
 have hstagingPlain:=absolutePlain_of_canonical hstaging
 have hstagingSame:=same_of_normal hstagingPlain.same hsame hleaf
 refine ⟨absolutePlain_of_canonical hsource,hstagingPlain,hplain,hsourceNames,
  hdestinationNames,hname,?_,hsourceAbove,hdestinationAbove,hstagingAbove⟩
 rw [←hexpected]
 exact of_decide_eq_true hstagingSame

lemma hasFilename_of_name (h:DestinationName path.filename) : path.hasFilename=true:=by
 have hname:=h.ne_empty
 simpa [Path.hasFilename,Path.isEmpty] using hname

section
variable (h:RootsSound manifest)
include h

lemma staging_hasFilename : manifest.stagingDestination.hasFilename=true:=by
 have hname:manifest.stagingDestination.filename.native=stagingLeaf manifest:=by
  rw [filename_components,h.stagingNames]
  simp
 simp [Path.hasFilename,Path.isEmpty,hname,stagingLeaf_plain.1]

lemma name_ne_stagingLeaf : manifest.destination.filename.native≠stagingLeaf manifest:=by
 intro hsame
 have hmem:stagingLeaf manifest∈pathParts manifest.destination:=by
  rw [←hsame,pathParts,destination_components h.destination.root h.name]
  simp
 have hreserved:=h.destinationReserved
 rw [containsInternalName,List.any_eq_false] at hreserved
 exact hreserved _ hmem internal_stagingLeaf

lemma destination_apart : Apart manifest.stagingDestination manifest.destination:=by
 have hne:=name_ne_stagingLeaf h
 rw [Apart,h.stagingNames,destination_components h.destination.root h.name]
 constructor
 · intro hbelow
   have hsame:=hbelow.eq_of_length (by simp)
   simp only [List.append_cancel_left_eq,List.cons.injEq,and_true] at hsame
   exact hne hsame.symm
 · intro hbelow
   have hsame:=hbelow.eq_of_length (by simp)
   simp only [List.append_cancel_left_eq,List.cons.injEq,and_true] at hsame
   exact hne hsame

def SourceSeparate (manifest : BasicDirectoryTransferManifest) : Prop:=
 manifest.source.hasFilename = true ∨
  ¬manifest.source.components.names <+: manifest.destination.components.names

lemma source_apart (hseparate:SourceSeparate manifest):
 Apart manifest.source manifest.destination ∧
  Apart manifest.source manifest.stagingDestination:=by
 have hdestination:¬manifest.source.components.names <+:
   manifest.destination.components.names:=by
  intro hbelow
  obtain hname | hnot:=hseparate
  · have habove:=ancestor_of_names h.source h.destination hname hbelow
    rw [h.sourceAbove] at habove
    cases habove
  · exact hnot hbelow
 have hstaging:¬manifest.stagingDestination.components.names <+:
   manifest.source.components.names:=by
  intro hbelow
  have habove:=ancestor_of_names h.staging h.source (staging_hasFilename h) hbelow
  rw [h.stagingAbove] at habove
  cases habove
 refine ⟨⟨hdestination,?_⟩,?_,hstaging⟩
 · intro hbelow
   have habove:=ancestor_of_names h.destination h.source (hasFilename_of_name h.name) hbelow
   rw [h.destinationAbove] at habove
   cases habove
 · intro hbelow
   rw [h.stagingNames] at hbelow hstaging
   obtain hsame | hparent:=List.prefix_concat_iff.mp hbelow
   · exact hstaging (hsame ▸ List.prefix_rfl)
   · apply hdestination
     rw [destination_components h.destination.root h.name]
     exact hparent.trans (List.prefix_append _ _)

end

end Roots

section Tree
variable {manifest : BasicDirectoryTransferManifest}

/-- A tree of directories and files listed from the root down, and roots apart. -/
structure DescribesTree (manifest : BasicDirectoryTransferManifest) : Prop where
 parents : ∀i (hi:i < manifest.entries.length),
  manifest.entries[i].relativePath.parentPath.isEmpty=true ∨
   ∃ j,∃ hj : j < i,(manifest.entries[j].relativePath.same
    manifest.entries[i].relativePath.parentPath)=true ∧ manifest.entries[j].kind=.directory
 distinct : manifest.entries.Pairwise fun entry other =>
  entry.relativePath.same other.relativePath=false
 depths : ∀entry∈manifest.entries,
  entry.depth.toNat=entry.relativePath.components.names.length
 names : ∀path∈manifest.source::manifest.destination ::
   manifest.entries.map (·.relativePath),∀component∈pathParts path,
  isInternalFilename component=false
 total : manifest.totalBytes.toNat=
  (manifest.entries.map fun entry=>(contentBytes entry).toNat).sum
 childrenFirst : manifest.entries.reverse.Pairwise fun visited later =>
  ¬visited.relativePath.components.names <+: later.relativePath.components.names
 apart : [manifest.source,manifest.stagingDestination,manifest.destination].Pairwise Apart

/-- What has an entry right below it is a directory. -/
def ParentsDirectories (manifest : BasicDirectoryTransferManifest) : Prop:=
 ∀entry ∈ manifest.entries,∀parent ∈ manifest.entries,
  parent.relativePath.same entry.relativePath.parentPath = true → parent.kind = .directory

section
variable (h:ManifestSound manifest)
include h

lemma entries_distinct : manifest.entries.Pairwise fun entry other =>
  entry.relativePath.same other.relativePath=false:=by
 apply h.ascending.imp
 intro entry other hless
 rw [←Bool.not_eq_true]
 intro hsame
 have hkey:entryKey entry=entryKey other:=same_lexicallyNormal hsame
 rw [hkey] at hless
 exact List.lt_irrefl _ hless

lemma children_first : manifest.entries.reverse.Pairwise fun visited later =>
  ¬visited.relativePath.components.names <+: later.relativePath.components.names:=by
 rw [List.pairwise_reverse,List.pairwise_iff_getElem]
 intro i j hi hj hlt hbelow
 have hle:=key_le_of_names (h.plain hj) (h.plain hi) hbelow
 exact List.not_le.mpr (key_lt_of_lt h hi hj hlt) hle

lemma names_own:
 ∀path∈manifest.source::manifest.destination::manifest.entries.map (·.relativePath),
  ∀component∈pathParts path,isInternalFilename component=false:=by
 have hroots:=rootsSound_of_sound h
 have hcontains:∀path∈manifest.source::manifest.destination ::
   manifest.entries.map (·.relativePath),containsInternalName path=false:=by
  rw [List.forall_mem_cons,List.forall_mem_cons]
  refine ⟨hroots.sourceReserved,hroots.destinationReserved,?_⟩
  intro path hpath
  obtain ⟨entry,hentry,rfl⟩:=List.mem_map.mp hpath
  obtain ⟨i,hi,rfl⟩:=List.getElem_of_mem hentry
  exact (h.entries i hi).reserved
 intro path hpath component hcomponent
 have hnone:=hcontains path hpath
 rw [containsInternalName,List.any_eq_false] at hnone
 simpa using hnone component hcomponent

lemma index_of_same {i j : ℕ} (hi:i < manifest.entries.length)
 (hj:j < manifest.entries.length)
 (hsame:manifest.entries[i].relativePath.same manifest.entries[j].relativePath=true):
 i=j:=by
 by_contra hne
 have hdistinct:=List.pairwise_iff_getElem.mp (entries_distinct h)
 obtain hlt | hgt:=Nat.lt_or_gt_of_ne hne
 · have hfalse:=hdistinct i j hi hj hlt
   rw [hsame] at hfalse
   cases hfalse
 · have hfalse:=hdistinct j i hj hi hgt
   rw [same_symm hsame] at hfalse
   cases hfalse

end

/-- A valid manifest describes a tree exactly where its parents are directories and a
  source without a filename does not hold the destination. -/
theorem describesTree_iff (h:ManifestValid manifest):
 DescribesTree manifest ↔ ParentsDirectories manifest ∧ SourceSeparate manifest:=by
 have hsound:=sound_of_valid h
 have hroots:=rootsSound_of_sound hsound
 constructor
 · intro htree
   refine ⟨?_,.inr ?_⟩
   · intro entry hentry parent hparent hsame
     obtain ⟨i,hi,rfl⟩:=List.getElem_of_mem hentry
     obtain ⟨k,hk,rfl⟩:=List.getElem_of_mem hparent
     cases htree.parents i hi with
     | inl hempty=>
      have hnames:manifest.entries[k].relativePath.isEmpty=
        manifest.entries[i].relativePath.parentPath.isEmpty:=by
       rw [isEmpty_components,isEmpty_components,of_decide_eq_true hsame]
      rw [hempty,isEmpty_components] at hnames
      simp [(hsound.plain hk).names] at hnames
     | inr hlisted=>
      obtain ⟨j,hj,hown,hkind⟩:=hlisted
      have hindex:=index_of_same hsound hk (by omega) (same_trans hsame (same_symm hown))
      subst hindex
      exact hkind
   · have hapart:=htree.apart
     simp only [List.pairwise_cons,List.mem_cons,forall_eq_or_imp] at hapart
     exact hapart.1.2.1.1
 · intro ⟨hdirectories,hseparate⟩
   obtain ⟨hdestination,hstaging⟩:=source_apart hroots hseparate
   refine ⟨?_,entries_distinct hsound,?_,names_own hsound,hsound.total, children_first hsound,?_⟩
   · intro i hi
     obtain hempty | ⟨j,hj,hsame⟩:=parent_listed hsound hi
     · exact .inl hempty
     · exact .inr ⟨j,hj,hsame,hdirectories _ (List.getElem_mem _) _ (List.getElem_mem _) hsame⟩
   · intro entry hentry
     obtain ⟨i,hi,rfl⟩:=List.getElem_of_mem hentry
     exact depth_eq hsound hi
   · simp [List.pairwise_cons,hstaging,hdestination,destination_apart hroots]

/-- A copy to `/b/d` of one entry and a file below it. -/
def sampleTree (source : Bytes) (parent : BasicDirectoryTransferEntryKind):
  BasicDirectoryTransferManifest:=
 let token : DirectoryTransferOwnershipToken := .fill _ 1
 { operationId:=1,pathSemantics:=.posixExact,source:=⟨source⟩,
   stagingDestination:=basicStagingDestinationPath ⟨utf8 "/b/d"⟩ 1 token,
   destination:=⟨utf8 "/b/d"⟩,sourceRevisionUtf8 := utf8 "r",ownershipToken := token,
   totalBytes:=5,
   entries:=
    [{ relativePath:=⟨utf8 "a"⟩,sourceRevisionUtf8:=utf8 "r",kind:=parent },
     { relativePath:=⟨utf8 "a/f"⟩,sizeBytes:=5,sourceRevisionUtf8:=utf8 "r", depth:=2 }] }

theorem describesTree_iff_sample : DescribesTree (sampleTree (utf8 "/a/s") .directory) ↔
 ParentsDirectories (sampleTree (utf8 "/a/s") .directory) ∧
  SourceSeparate (sampleTree (utf8 "/a/s") .directory):=
 describesTree_iff (by unfold ManifestValid; decide +kernel)

/-- A file with an entry below it, and a source written with a slash that holds the
  destination, are accepted. -/
theorem accepted_no_trees : (ManifestValid (sampleTree (utf8 "/a/s") .regularFile) ∧
  ¬DescribesTree (sampleTree (utf8 "/a/s") .regularFile)) ∧
 (ManifestValid (sampleTree (utf8 "/b/") .directory) ∧
  ¬DescribesTree (sampleTree (utf8 "/b/") .directory)):=by
 have hfile:ManifestValid (sampleTree (utf8 "/a/s") .regularFile):=by
  unfold ManifestValid
  decide +kernel
 have hslash:ManifestValid (sampleTree (utf8 "/b/") .directory):=by
  unfold ManifestValid
  decide +kernel
 refine ⟨⟨hfile,?_⟩,hslash,?_⟩
 · intro htree
   have hlisted:=htree.parents 1 (by decide)
   revert hlisted
   decide +kernel
 · intro htree
   have hapart:=htree.apart
   simp only [List.pairwise_cons,List.mem_cons,forall_eq_or_imp] at hapart
   apply hapart.1.2.1.1
   decide +kernel

end Tree

end VoVe.BasicDirectoryTree
