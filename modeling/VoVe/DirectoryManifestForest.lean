import VoVe.DirectoryManifestRoundTrip
import VoVe.KeyOrder
import VoVe.PathNormal

set_option autoImplicit false

namespace VoVe.DirectoryManifestForest
open ByteCodec AsciiText PosixPath PathNormal KeyOrder Checks DestinationFilename
open DirectoryManifest DirectoryManifestShape DirectoryManifestRoundTrip
open FileOperation (SourceSnapshot)
open BasicDirectoryManifest (DirectoryPathSemantics directoryTransferNamespaceKey pathParts)

section Keys
variable {left right : Bytes}

lemma rank_injective : Function.Injective rank:=by
 intro a b h
 unfold rank at h
 split_ifs at h with ha hb
 · rw [ha,hb]
 · exact UInt8.toNat.inj (Nat.succ.inj h)

lemma namespaceKeyLess_iff:
 namespaceKeyLess left right=true ↔ left.map rank < right.map rank:=by
 induction left generalizing right with
 | nil=>
  cases right with
  | nil=>simp [namespaceKeyLess]
  | cons b bs=>simp [namespaceKeyLess]
 | cons a as ih=>
  cases right with
  | nil=>simp [namespaceKeyLess]
  | cons b bs=>
   rw [namespaceKeyLess,List.map_cons,List.map_cons,List.cons_lt_cons_iff]
   by_cases hrank:rank a=rank b
   · simp [hrank,ih]
   · simp [hrank]

lemma keyNotAfter_iff : keyNotAfter left right ↔ left.map rank ≤ right.map rank:=by
 rw [keyNotAfter,←Bool.not_eq_true,namespaceKeyLess_iff,not_lt]

lemma ancestorOrSame_iff (hleft:left≠[]) (hright:right≠[]):
 namespaceKeyIsAncestorOrSame left right=true ↔ Below slash left right:=by
 simp only [namespaceKeyIsAncestorOrSame,startsWith, List.isPrefixOf_iff_prefix,
  decide_eq_true_eq,ne_eq,hleft,hright,not_false_eq_true,true_and]
 have hnext (rest : Bytes) : (left++rest)[left.length]?=rest.head?:=by
  rw [List.getElem?_append_right le_rfl,Nat.sub_self,List.head?_eq_getElem?]
 constructor
 · rintro ⟨⟨rest,hrest⟩,hend⟩
   subst hrest
   rw [hnext] at hend
   exact ⟨rest,rfl,by simpa using hend⟩
 · rintro ⟨rest,hlower,hend⟩
   subst hlower
   rw [hnext]
   exact ⟨List.prefix_append _ _,by simpa using hend⟩

lemma ne_nil_of_ancestor (h:namespaceKeyIsAncestorOrSame left right=true):
 left≠[] ∧ right≠[]:=by
 simp only [namespaceKeyIsAncestorOrSame,decide_eq_true_eq] at h
 exact ⟨h.1,h.2.1⟩

lemma ancestor_between {key : Bytes} (h:namespaceKeyIsAncestorOrSame left right=true)
 (hleft:keyNotAfter left key) (hright:keyNotAfter key right):
 namespaceKeyIsAncestorOrSame left key=true:=by
 have hne:=ne_nil_of_ancestor h
 have hkey:key≠[]:=by
  intro hnil
  rw [hnil,keyNotAfter_iff] at hleft
  exact hne.1 (List.map_eq_nil_iff.mp (le_nil hleft))
 have hrank:rank slash=0:=rfl
 rw [ancestorOrSame_iff hne.1 hne.2,←below_map rank_injective,hrank] at h
 rw [ancestorOrSame_iff hne.1 hkey,←below_map rank_injective,hrank]
 exact h.between Nat.zero_le (keyNotAfter_iff.mp hleft) (keyNotAfter_iff.mp hright)

instance : Std.Total keyNotAfter where
 total a b:=by
  rw [keyNotAfter_iff,keyNotAfter_iff]
  exact le_total _ _

instance : IsTrans Bytes keyNotAfter where
 trans a b c hab hbc:=by
  rw [keyNotAfter_iff] at *
  exact le_trans hab hbc

lemma neighboursApart_iff {keys : List Bytes} : neighboursApart keys=true ↔
 keys.IsChain fun a b=>¬namespaceKeyIsAncestorOrSame a b=true:=by
 induction keys with
 | nil=>simp [neighboursApart]
 | cons a rest ih=>
  cases rest with
  | nil=>simp [neighboursApart]
  | cons b tail=>
   rw [List.isChain_cons_cons,←ih]
   simp [neighboursApart]

lemma keyNotAfter_antisymm (h:keyNotAfter left right) (hback:keyNotAfter right left):
 left=right:=by
 rw [keyNotAfter_iff] at h hback
 exact rank_injective.list_map (le_antisymm h hback)

lemma keyNotAfter_of_ancestor (h:namespaceKeyIsAncestorOrSame left right=true):
 keyNotAfter left right:=by
 have hne:=ne_nil_of_ancestor h
 rw [ancestorOrSame_iff hne.1 hne.2,←below_map rank_injective] at h
 exact keyNotAfter_iff.mpr h.le

lemma keysOverlap_iff : keysOverlap left right=true ↔
 namespaceKeyIsAncestorOrSame left right=true ∨
  namespaceKeyIsAncestorOrSame right left=true := decide_eq_true_iff

lemma overlap_of_ordered (h:keyNotAfter left right):
 keysOverlap left right=true ↔ namespaceKeyIsAncestorOrSame left right=true:=by
 rw [keysOverlap_iff]
 constructor
 · intro hoverlap
   cases hoverlap with
   | inl habove=>exact habove
   | inr hbelow=>
    have hsame:=keyNotAfter_antisymm h (keyNotAfter_of_ancestor hbelow)
    rwa [hsame] at hbelow ⊢
 · exact Or.inl

lemma keys_apart {keys : List Bytes} : neighboursApart (keys.insertionSort keyNotAfter)=true ↔
  keys.Pairwise fun a b=>¬keysOverlap a b=true:=by
 have hperm:=List.perm_insertionSort keyNotAfter keys
 have hsorted:=List.pairwise_insertionSort keyNotAfter keys
 have hsymm {a b : Bytes} (hnot:¬keysOverlap a b=true) : ¬keysOverlap b a=true:=by
  rwa [keysOverlap_iff,or_comm,←keysOverlap_iff]
 rw [neighboursApart_iff,←hperm.pairwise_iff hsymm]
 constructor
 · intro hchain
   have hdown:=pairwise_of_neighbours
    (p := fun a b=>namespaceKeyIsAncestorOrSame a b=true) ancestor_between hsorted hchain
   exact (hsorted.and hdown).imp fun ⟨horder,hnot⟩=>(overlap_of_ordered horder).not.mpr hnot
 · intro happart
   apply List.Pairwise.isChain
   exact happart.imp fun hnot habove=>hnot (keysOverlap_iff.mpr (.inl habove))

end Keys

section Roots
variable {manifest : DirectoryTransferManifest} {root : DirectoryTransferManifestRoot}

/-- What the checks of a root say of its source and its destination. -/
structure RootPlaces (root : DirectoryTransferManifestRoot) : Prop where
 source : ∀part∈pathParts root.source,PlainName part
 sourceReserved : ∀part∈pathParts root.source,
  isInternalNamespaceName ⟨part⟩ .posixExact=false
 destination : ∀part∈pathParts root.destination,PlainName part
 destinationReserved : ∀part∈pathParts root.destination,
  isInternalNamespaceName ⟨part⟩ .posixExact=false
 absolute : root.destination.isAbsolute=true
 name : DestinationName root.destination.filename
 key : root.destination.lexicallyNormal.native=root.destinationNamespaceKeyUtf8

lemma rootPlaces_of_sound (h:ManifestSound manifest) {i : ℕ}
 (hroot:manifest.roots[i]?=some root) : RootPlaces root:=by
 obtain ⟨hi,rfl⟩:=List.getElem?_eq_some_iff.mp hroot
 have hpaths:=(h.roots i hi).paths
 simp only [validRootPaths,bind_unit_eq_ok,require_eq_ok,decide_eq_true_eq,h.semantics,
  List.all_eq_true,rootPaths,rootKeys,List.map_cons,List.map_nil,List.zip_cons_cons,
  List.zip_nil_left,List.forall_mem_cons,List.not_mem_nil,false_imp_iff,implies_true,
  and_true,containsInternalComponent,containsNoncanonicalComponent,Bool.not_eq_true,
  List.any_eq_false,not_or] at hpaths
 obtain ⟨⟨-,-,-,habsolute⟩,⟨hsource,hdestination⟩,⟨⟨hsourcePlain,-⟩,-,-,
  hdestinationPlain,-⟩,⟨-,-,-,-,-,hkey⟩,-,-,hname⟩ := hpaths
 have hfilename:DestinationName manifest.roots[i].destination.filename:=by
  unfold DestinationName
  split at hname
  · cases hname
  · assumption
 exact ⟨hsourcePlain,hsource,hdestinationPlain,hdestination,habsolute,hfilename,hkey⟩

lemma mem_pathParts {path : Path} {name : Bytes} (h:name∈path.components.names):
 name∈pathParts path:=by
 simp [pathParts,h]

lemma RootPlaces.names_ne_nil (h:RootPlaces root) : root.destination.components.names≠[]:=by
 intro hnone
 have hname:=h.name.ne_empty
 rw [filename_components,hnone] at hname
 split at hname
 · exact hname rfl
 · exact hname rfl

lemma RootPlaces.key_eq (h:RootPlaces root) : root.destinationNamespaceKeyUtf8=
 slash::[slash].intercalate root.destination.components.names:=by
 have hname:=h.name.ne_empty
 have hempty:root.destination.isEmpty=false:=by
  rw [isEmpty_components]
  simp [h.names_ne_nil]
 have hroot:root.destination.components.root=true:=h.absolute
 have htrailing:root.destination.components.trailing=false:=by
  rw [←Bool.not_eq_true]
  intro htrailing
  rw [filename_components,if_pos htrailing] at hname
  exact hname rfl
 rw [←h.key,lexicallyNormal_plain hempty fun name hname=>h.destination name (mem_pathParts hname),
  Path.textOf,hroot,htrailing]
 simp

lemma below_of_names {upper lower : List Bytes} (hupper:upper≠[]) (h:upper <+: lower):
 Below slash (slash::[slash].intercalate upper) (slash::[slash].intercalate lower):=by
 obtain ⟨rest,rfl⟩:=h
 by_cases hrest:rest=[]
 · rw [hrest,List.append_nil]
   exact Below.refl _ _
 · refine ⟨slash::[slash].intercalate rest,?_,.inr (.inr rfl)⟩
   rw [intercalate_append hupper hrest,List.cons_append]

lemma destinationKey_mem (root : DirectoryTransferManifestRoot):
 root.destinationNamespaceKeyUtf8∈rootKeys root:=by
 simp [rootKeys]

lemma roots_apart (h:ManifestSound manifest) {other : DirectoryTransferManifestRoot} {i j : ℕ}
 (hroot:manifest.roots[i]?=some root) (hother:manifest.roots[j]?=some other)
 (hne:i≠j):
 ¬root.destination.components.names <+: other.destination.components.names:=by
 intro hnames
 have hplaces:=rootPlaces_of_sound h hroot
 have hplaces':=rootPlaces_of_sound h hother
 have hoverlap:namespaceKeyIsAncestorOrSame root.destinationNamespaceKeyUtf8
   other.destinationNamespaceKeyUtf8=true:=by
  rw [hplaces.key_eq,hplaces'.key_eq,ancestorOrSame_iff (by simp) (by simp)]
  exact below_of_names hplaces.names_ne_nil hnames
 have hapart:=(List.pairwise_flatMap.mp (keys_apart.mp h.apart)).2
 obtain ⟨hi,rfl⟩:=List.getElem?_eq_some_iff.mp hroot
 obtain ⟨hj,rfl⟩:=List.getElem?_eq_some_iff.mp hother
 rw [List.pairwise_iff_getElem] at hapart
 obtain hlt | hgt:=Nat.lt_or_gt_of_ne hne
 · apply hapart i j hi hj hlt _ (destinationKey_mem _) _ (destinationKey_mem _)
   simp [keysOverlap,hoverlap]
 · apply hapart j i hj hi hgt _ (destinationKey_mem _) _ (destinationKey_mem _)
   simp [keysOverlap,hoverlap]

/-- Comparing the neighbours finds every overlap of namespace keys, and a valid manifest has
  none among the keys of its roots. -/
theorem neighbours_suffice (keys : List Bytes) (manifest : DirectoryTransferManifest):
 (neighboursApart (keys.insertionSort keyNotAfter)=true ↔
  keys.Pairwise fun a b=>¬keysOverlap a b=true) ∧
 (ManifestValid manifest →
  (manifest.roots.flatMap rootKeys).Pairwise fun a b=>¬keysOverlap a b=true):=
 ⟨keys_apart,fun hvalid=>keys_apart.mp (sound_of_valid hvalid).apart⟩

theorem neighbours_suffice_sample:
 (sampleManifest.roots.flatMap rootKeys).Pairwise fun a b=>¬keysOverlap a b=true:=
 (neighbours_suffice [] sampleManifest).2 sample_valid

end Roots

section Walks
variable (manifest : DirectoryTransferManifest)

/-- Where following the parents of an entry can stand. -/
inductive Place where
 | entry (index : ℕ)
 | root (index : ℕ)
 deriving DecidableEq

def parentPlace (entry : DirectoryTransferManifestEntry) : Place:=
 if entry.parentIndex = kDirectoryTransferRootParent then .root entry.rootIndex.toNat
 else .entry entry.parentIndex.toNat

def follow : Place → Option Place
 | .entry index=>manifest.entries[index]?.map parentPlace
 | .root _=>none

def walk : ℕ → Place → Option Place
 | 0, place=>some place
 | steps+1, place=>(follow manifest place).bind (walk steps)

/-- The names from below the root down to the entry. -/
def namesBelow : ℕ → ℕ → List Bytes
 | 0, _=>[]
 | depth+1, index=>
  match manifest.entries[index]? with
  | none=>[]
  | some entry=>
   (match parentPlace entry with
    | .root _=>[]
    | .entry parent=>namesBelow depth parent)++[entry.name.native]

def destinationPath (index : ℕ) : Option Path := do
 let entry ← manifest.entries[index]?
 let root ← manifest.roots[entry.rootIndex.toNat]?
 some ((namesBelow manifest entry.depth.toNat index).foldl (fun path name=>path / ⟨name⟩)
  root.destination)

def InTree (rootIndex : UInt32) (index : ℕ) : Prop:=
 ∃ root entry,manifest.roots[rootIndex.toNat]? = some root ∧ entryInSlice root index = true ∧
  manifest.entries[index]? = some entry ∧ entry.rootIndex = rootIndex

structure WalksToRoot (index : ℕ) (entry : DirectoryTransferManifestEntry) : Prop where
 inside : ∀steps<entry.depth.toNat,∃ ancestor,
  walk manifest steps (.entry index)=some (.entry ancestor) ∧
   InTree manifest entry.rootIndex ancestor
 ends : walk manifest entry.depth.toNat (.entry index)=some (.root entry.rootIndex.toNat)

end Walks

section Trees
variable {manifest : DirectoryTransferManifest} {index : ℕ} {entry : DirectoryTransferManifestEntry}

section
variable (h:ManifestSound manifest)
include h

lemma entrySound_of_sound
 (hentry:manifest.entries[index]?=some entry) : EntrySound manifest index entry:=by
 obtain ⟨hi,rfl⟩:=List.getElem?_eq_some_iff.mp hentry
 exact h.entries index hi

lemma parent_cases
 (hentry:manifest.entries[index]?=some entry):
 (entry.depth.toNat=1 ∧ entry.parentIndex=kDirectoryTransferRootParent) ∨
 (entry.parentIndex≠kDirectoryTransferRootParent ∧ ∃ parent,
  manifest.entries[entry.parentIndex.toNat]?=some parent ∧
   parent.rootIndex=entry.rootIndex ∧ entry.depth.toNat=parent.depth.toNat+1):=by
 have hsound:=entrySound_of_sound h hentry
 have hordered:=hsound.ordered
 have hparent:=hsound.parent
 unfold parentOrdered at hordered
 unfold parentMatches at hparent
 by_cases hdepth:entry.depth=1
 · rw [if_pos hdepth,decide_eq_true_eq] at hordered
   exact .inl ⟨by rw [hdepth]; rfl,hordered⟩
 · rw [if_neg hdepth,decide_eq_true_eq] at hordered
   rw [if_neg hordered.1] at hparent
   refine .inr ⟨hordered.1,?_⟩
   split at hparent
   · cases hparent
   · next parent hfound =>
     rw [decide_eq_true_eq] at hparent
     exact ⟨parent,hfound,hparent.1,hparent.2.2⟩

lemma depth_pos (hentry:manifest.entries[index]?=some entry) : 0<entry.depth.toNat:=by
 have hdeep:=(entrySound_of_sound h hentry).deep
 rw [Nat.pos_iff_ne_zero]
 intro hzero
 exact hdeep (UInt16.toNat.inj hzero)

lemma inTree_of_sound
 (hentry:manifest.entries[index]?=some entry) : InTree manifest entry.rootIndex index:=by
 obtain ⟨root,hbelongs⟩:=(entrySound_of_sound h hentry).belongs
 exact ⟨root,entry,hbelongs.own,hbelongs.slice,hentry,rfl⟩

end

lemma parentPlace_top (h:entry.parentIndex=kDirectoryTransferRootParent):
 parentPlace entry=.root entry.rootIndex.toNat:=by
 rw [parentPlace,if_pos h]

lemma parentPlace_inner (h:entry.parentIndex≠kDirectoryTransferRootParent):
 parentPlace entry=.entry entry.parentIndex.toNat:=by
 rw [parentPlace,if_neg h]

lemma walk_entry (steps : ℕ) (hentry:manifest.entries[index]?=some entry):
 walk manifest (steps+1) (.entry index)=walk manifest steps (parentPlace entry):=by
 rw [walk,follow,hentry]
 rfl

lemma walksToRoot (h:ManifestSound manifest) (hentry:manifest.entries[index]?=some entry):
 WalksToRoot manifest index entry:=by
 generalize hdepth : entry.depth.toNat=d
 induction d generalizing index entry with
 | zero=>exact absurd hdepth (Nat.pos_iff_ne_zero.mp (depth_pos h hentry))
 | succ d ih=>
  have hself:=inTree_of_sound h hentry
  obtain ⟨hone,hroot⟩ | ⟨hparent,parent,hfound,hsame,hdeeper⟩:=parent_cases h hentry
  · have hplace:=parentPlace_top hroot
    constructor
    · intro steps hsteps
      obtain rfl : steps=0:=by omega
      exact ⟨index,rfl,hself⟩
    · rw [hone,walk_entry 0 hentry,hplace]
      rfl
  · have hplace:=parentPlace_inner hparent
    have hwalks:=ih hfound (by omega)
    constructor
    · intro steps hsteps
      cases steps with
      | zero=>exact ⟨index,rfl,hself⟩
      | succ steps=>
       rw [walk_entry steps hentry,hplace]
       have hinside:=hwalks.inside steps (by omega)
       rwa [hsame] at hinside
    · rw [hdeeper,walk_entry _ hentry,hplace,hwalks.ends,hsame]

lemma namesBelow_entry (d : ℕ) (hentry:manifest.entries[index]?=some entry):
 namesBelow manifest (d+1) index=(match parentPlace entry with
   | .root _=>[]
   | .entry parent=>namesBelow manifest d parent)++[entry.name.native]:=by
 rw [namesBelow,hentry]

lemma namesBelow_length (h:ManifestSound manifest)
 (hentry:manifest.entries[index]?=some entry):
 (namesBelow manifest entry.depth.toNat index).length=entry.depth.toNat:=by
 generalize hdepth : entry.depth.toNat=d
 induction d generalizing index entry with
 | zero=>rfl
 | succ d ih=>
  rw [namesBelow_entry d hentry,List.length_append,List.length_singleton]
  obtain ⟨hone,hroot⟩ | ⟨hparent,parent,hfound,-,hdeeper⟩:=parent_cases h hentry
  · rw [parentPlace_top hroot]
    simp only [List.length_nil]
    omega
  · rw [parentPlace_inner hparent]
    simp only [ih hfound (by omega)]

lemma namesBelow_leaves (h:ManifestSound manifest) (d : ℕ):
 ∀name∈namesBelow manifest d index,name≠[] ∧ slash∉name:=by
 induction d generalizing index with
 | zero=>simp [namesBelow]
 | succ d ih=>
  intro name hname
  cases hentry:manifest.entries[index]? with
  | none=>simp [namesBelow,hentry] at hname
  | some entry=>
   rw [namesBelow_entry d hentry,List.mem_append,List.mem_singleton] at hname
   cases hname with
   | inl habove=>
    by_cases hparent:entry.parentIndex=kDirectoryTransferRootParent
    · rw [parentPlace_top hparent] at habove
      cases habove
    · rw [parentPlace_inner hparent] at habove
      exact ih name habove
   | inr hown=>
    rw [hown]
    have hname:=(entrySound_of_sound h hentry).name
    exact ⟨hname.ne_empty,hname.no_slash⟩

lemma components_foldl (path : Path) {names : List Bytes}
 (h:∀name∈names,name≠[] ∧ slash∉name):
 (names.foldl (fun path name=>path / ⟨name⟩) path).components.names=
  path.components.names++names:=by
 induction names generalizing path with
 | nil=>simp
 | cons name rest ih=>
  have hname:=h name List.mem_cons_self
  rw [List.foldl_cons,ih _ fun other hother=>h other (List.mem_cons_of_mem name hother),
   components_leaf path hname.1 hname.2]
  simp

section
variable (h:ManifestSound manifest)
include h

lemma place_injective {other : ℕ}
 {entry' : DirectoryTransferManifestEntry} (hentry:manifest.entries[index]?=some entry)
 (hother:manifest.entries[other]?=some entry') (hroot:entry.rootIndex=entry'.rootIndex)
 (hparent:entry.parentIndex=entry'.parentIndex) (hname:entry.name=entry'.name):
 index=other:=by
 have hplace:entryPlace manifest entry=entryPlace manifest entry':=by
  simp only [entryPlace,entryNameKey,siblingKey,hroot,hparent,hname]
 have hindex:index<(manifest.entries.map (entryPlace manifest)).length:=by
  rw [List.length_map]
  exact (List.getElem?_eq_some_iff.mp hentry).1
 apply (List.getElem?_inj hindex h.places).mp
 rw [List.getElem?_map,List.getElem?_map,hentry,hother,Option.map_some,Option.map_some, hplace]

lemma namesBelow_injective {other : ℕ}
 {entry' : DirectoryTransferManifestEntry} (hentry:manifest.entries[index]?=some entry)
 (hother:manifest.entries[other]?=some entry') (hroot:entry.rootIndex=entry'.rootIndex)
 (hnames:namesBelow manifest entry.depth.toNat index=
  namesBelow manifest entry'.depth.toNat other) : index=other:=by
 have hlength:=congrArg List.length hnames
 rw [namesBelow_length h hentry,namesBelow_length h hother] at hlength
 rw [←hlength] at hnames
 generalize hdepth : entry.depth.toNat=d at hnames hlength
 induction d generalizing index other entry entry' with
 | zero=>exact absurd hdepth (Nat.pos_iff_ne_zero.mp (depth_pos h hentry))
 | succ d ih=>
  rw [namesBelow_entry d hentry,namesBelow_entry d hother] at hnames
  have hsplit:=List.append_inj' hnames rfl
  have hname:entry.name=entry'.name:=by
   cases hone:entry.name
   cases htwo:entry'.name
   simpa [hone,htwo] using hsplit.2
  have hparents:entry.parentIndex=entry'.parentIndex:=by
   obtain ⟨hone,htop⟩ | ⟨hinner,parent,hfound,hsame,hdeeper⟩:=parent_cases h hentry
   · obtain ⟨-,htop'⟩ | ⟨-,parent',hfound',-,hdeeper'⟩:=parent_cases h hother
     · rw [htop,htop']
     · have hpos:=depth_pos h hfound'
       omega
   · obtain ⟨hone',-⟩ | ⟨hinner',parent',hfound',hsame',hdeeper'⟩:=parent_cases h hother
     · have hpos:=depth_pos h hfound
       omega
     · rw [parentPlace_inner hinner,parentPlace_inner hinner'] at hsplit
       apply UInt32.toNat.inj
       apply ih hfound hfound' (by rw [hsame,hsame',hroot]) (by omega) hsplit.1
       omega
  exact place_injective h hentry hother hroot hparents hname

lemma destinationPath_names
 (hentry:manifest.entries[index]?=some entry) : ∃ root path,
  manifest.roots[entry.rootIndex.toNat]?=some root ∧
   destinationPath manifest index=some path ∧ path.components.names=
    root.destination.components.names++namesBelow manifest entry.depth.toNat index:=by
 obtain ⟨root,hbelongs⟩:=(entrySound_of_sound h hentry).belongs
 refine ⟨root,_,hbelongs.own,?_,components_foldl _ (namesBelow_leaves h _)⟩
 simp [destinationPath,hentry,hbelongs.own]

lemma destinations_differ {other : ℕ}
 {entry' : DirectoryTransferManifestEntry} (hentry:manifest.entries[index]?=some entry)
 (hother:manifest.entries[other]?=some entry') (hne:index≠other) : ∃ path path',
  destinationPath manifest index=some path ∧ destinationPath manifest other=some path' ∧
   path.same path'=false:=by
 obtain ⟨root,path,hroot,hpath,hnames⟩:=destinationPath_names h hentry
 obtain ⟨root',path',hroot',hpath',hnames'⟩:=destinationPath_names h hother
 refine ⟨path,path',hpath,hpath',?_⟩
 rw [←Bool.not_eq_true]
 intro hsame
 have hcomponents:path.components.names=path'.components.names:=
  congrArg Components.names (of_decide_eq_true hsame)
 rw [hnames,hnames'] at hcomponents
 by_cases hown:entry.rootIndex=entry'.rootIndex
 · rw [hown,hroot',Option.some.injEq] at hroot
   rw [hroot,List.append_cancel_left_eq] at hcomponents
   exact hne (namesBelow_injective h hentry hother hown hcomponents)
 · have hapart:entry.rootIndex.toNat≠entry'.rootIndex.toNat:=
    fun heq=>hown (UInt32.toNat.inj heq)
   have hupper:=List.prefix_append root.destination.components.names
    (namesBelow manifest entry.depth.toNat index)
   have hlower:=List.prefix_append root'.destination.components.names
    (namesBelow manifest entry'.depth.toNat other)
   rw [←hcomponents] at hlower
   obtain hnested | hnested := List.prefix_or_prefix_of_prefix hupper hlower
   · exact roots_apart h hroot hroot' hapart hnested
   · exact roots_apart h hroot' hroot hapart.symm hnested

end

end Trees

def nameComponents (manifest : DirectoryTransferManifest) : List Bytes:=
 ((manifest.roots.flatMap fun root=>[root.source,root.destination]) ++
  manifest.entries.map (·.name)).flatMap pathParts

lemma key_part {path : Path} {part : Bytes} (hpart:part∈pathParts path)
 (hplain:PlainName part) : directoryTransferNamespaceKey ⟨part⟩ .posixExact=part:=by
 simp only [pathParts,List.mem_append] at hpart
 obtain (hroot | hname) | htrailing:=hpart
 · split at hroot
   · rw [List.mem_singleton.mp hroot]
     decide
   · cases hroot
 · obtain ⟨hne,hslash⟩:=mem_namesOf hname
   have hcomponents:=components_of_leaf hne hslash
   have hempty:(PosixPath.Path.mk part).isEmpty=false:=by simp [Path.isEmpty,hne]
   rw [key_posix,lexicallyNormal_plain hempty,hcomponents]
   · simp [Path.textOf,List.intercalate_singleton]
   · simpa [hcomponents] using hplain
 · split at htrailing
   · rw [List.mem_singleton.mp htrailing]
     decide
   · cases htrailing

lemma isInternalFilename_iff {name : Bytes}
 (hkey:directoryTransferNamespaceKey ⟨name⟩ .posixExact=name):
 isInternalFilename name=true ↔ isInternalNamespaceName ⟨name⟩ .posixExact=true ∨
  startsWith name kTransferOverwriteBackupFilenamePrefix=true:=by
 have hmarker:directoryTransferNamespaceKey ⟨kTransferOwnershipMarkerFilename⟩ .posixExact=
   kTransferOwnershipMarkerFilename:=by decide
 have hvault:startsWith name kTrashVaultDirectoryName=true →
   startsWith name kTrashFilenamePrefix=true:=by
  simp only [startsWith, List.isPrefixOf_iff_prefix]
  exact List.IsPrefix.trans (by decide)
 simp only [isInternalFilename,isTrashFilename,isTransferFilename,isInternalNamespaceName,hkey,
  hmarker,decide_eq_true_eq,Bool.decide_or,Bool.or_eq_true]
 constructor
 · intro h
   obtain (hname | hname) | hname | hname | hname | hname:=h
   · exact .inl (.inl (hvault hname))
   · exact .inl (.inl hname)
   · exact .inl (.inr (.inl hname))
   · exact .inl (.inr (.inr (.inl hname)))
   · exact .inr hname
   · exact .inl (.inr (.inr (.inr hname)))
 · intro h
   obtain (hname | hname | hname | hname) | hname:=h
   · exact .inl (.inr hname)
   · exact .inr (.inl hname)
   · exact .inr (.inr (.inl hname))
   · exact .inr (.inr (.inr (.inr hname)))
   · exact .inr (.inr (.inr (.inl hname)))

/-- What is in a name or a path of a valid manifest is a plain name the manifest's own
  list does not reserve. -/
lemma component_plain {manifest : DirectoryTransferManifest} (h:ManifestSound manifest)
 {component : Bytes} (hcomponent:component∈nameComponents manifest):
 directoryTransferNamespaceKey ⟨component⟩ .posixExact=component ∧
  isInternalNamespaceName ⟨component⟩ .posixExact=false:=by
 obtain ⟨path,hpath,hpart⟩:=List.mem_flatMap.mp hcomponent
 cases List.mem_append.mp hpath with
 | inl hroots=>
  obtain ⟨root,hroot,hpath⟩:=List.mem_flatMap.mp hroots
  obtain ⟨i,hi,rfl⟩:=List.getElem_of_mem hroot
  have hplaces:=rootPlaces_of_sound h (List.getElem?_eq_getElem hi)
  obtain rfl | rfl : path=manifest.roots[i].source ∨ path=manifest.roots[i].destination:=by
   simpa using hpath
  · exact ⟨key_part hpart (hplaces.source _ hpart),hplaces.sourceReserved _ hpart⟩
  · exact ⟨key_part hpart (hplaces.destination _ hpart),hplaces.destinationReserved _ hpart⟩
 | inr hentries=>
  obtain ⟨entry,hentry,rfl⟩:=List.mem_map.mp hentries
  obtain ⟨i,hi,rfl⟩:=List.getElem_of_mem hentry
  have hsound:=h.entries i hi
  have hreserved:=hsound.reserved
  rw [h.semantics] at hreserved
  have hown:component=manifest.entries[i].name.native:=by
   simpa [pathParts,components_of_leaf hsound.name.ne_empty hsound.name.no_slash] using hpart
  subst hown
  exact ⟨key_part hpart hsound.name.no_dots,hreserved⟩

section Forest
variable {manifest : DirectoryTransferManifest}

/-- Trees of user objects below the roots, each object at a place of its own. -/
structure DescribesForest (manifest : DirectoryTransferManifest) : Prop where
 walks : ∀ (index : ℕ) entry,manifest.entries[index]?=some entry → WalksToRoot manifest index entry
 destinations : ∀i < manifest.entries.length,∀j < manifest.entries.length,i≠j → ∃ path path',
  destinationPath manifest i=some path ∧ destinationPath manifest j=some path' ∧
   path.same path'=false
 objects : ∀ (i j : ℕ) entry entry',manifest.entries[i]?=some entry →
  manifest.entries[j]?=some entry' → i≠j → ∃ revision revision',
   entryRevision manifest entry=some revision ∧ entryRevision manifest entry'=some revision' ∧
     revision.stableIdentity≠revision'.stableIdentity
 total : manifest.totalBytes.toNat=
  (manifest.entries.map fun entry=>(contentBytes entry).toNat).sum
 names : ∀component∈nameComponents manifest,isInternalFilename component=false

def NoBackupNames (manifest : DirectoryTransferManifest) : Prop:=
 ∀component ∈ nameComponents manifest,
  startsWith component kTransferOverwriteBackupFilenamePrefix = false

lemma objects_differ (h:ManifestSound manifest) {i j : ℕ}
 {entry entry' : DirectoryTransferManifestEntry} (hentry:manifest.entries[i]?=some entry)
 (hentry':manifest.entries[j]?=some entry') (hne:i≠j) : ∃ revision revision',
  entryRevision manifest entry=some revision ∧ entryRevision manifest entry'=some revision' ∧
    revision.stableIdentity≠revision'.stableIdentity:=by
 obtain ⟨_,hbelongs⟩:=(entrySound_of_sound h hentry).belongs
 obtain ⟨_,hbelongs'⟩:=(entrySound_of_sound h hentry').belongs
 obtain ⟨revision,hrevision,-⟩:=hbelongs.volume
 obtain ⟨revision',hrevision',-⟩:=hbelongs'.volume
 refine ⟨revision,revision',hrevision,hrevision',?_⟩
 intro hsame
 have hidentity:entryIdentity manifest entry=entryIdentity manifest entry':=by
  rw [entryIdentity,entryIdentity,hrevision,hrevision',Option.map_some,Option.map_some,hsame]
 have hdistinct:=(List.nodup_append.mp h.objects).2.1
 have hindex:i<(manifest.entries.map (entryIdentity manifest)).length:=by
  rw [List.length_map]
  exact (List.getElem?_eq_some_iff.mp hentry).1
 apply hne
 apply (List.getElem?_inj hindex hdistinct).mp
 rw [List.getElem?_map,List.getElem?_map,hentry,hentry',Option.map_some,Option.map_some, hidentity]

/-- A valid manifest describes a forest of user objects exactly where none of its
  names is that of an overwrite backup, which its list of reserved names lacks. -/
theorem describesForest_iff (h:ManifestValid manifest):
 DescribesForest manifest ↔ NoBackupNames manifest:=by
 have hsound:=sound_of_valid h
 constructor
 · intro hforest component hcomponent
   have hinternal:=hforest.names component hcomponent
   rw [←Bool.not_eq_true] at hinternal ⊢
   intro hbackup
   exact hinternal ((isInternalFilename_iff (component_plain hsound hcomponent).1).mpr
    (.inr hbackup))
 · intro hbackup
   refine ⟨fun _ _ hentry=>walksToRoot hsound hentry,?_,
    fun _ _ _ _ hentry hentry' hne=>objects_differ hsound hentry hentry' hne,hsound.total,?_⟩
   · intro i hi j hj hne
     exact destinations_differ hsound (List.getElem?_eq_getElem hi) (List.getElem?_eq_getElem hj)
      hne
   · intro component hcomponent
     obtain ⟨hkey,hreserved⟩:=component_plain hsound hcomponent
     rw [←Bool.not_eq_true,isInternalFilename_iff hkey,hreserved,hbackup component hcomponent]
     simp

theorem describesForest_iff_sample:
 DescribesForest sampleManifest ↔ NoBackupNames sampleManifest:=
 describesForest_iff sample_valid

/-- The sample with its file under the name of an overwrite backup. -/
def backupManifest : DirectoryTransferManifest where
 operationId:=1
 kind:=.move
 pathSemantics:=.posixExact
 totalBytes:=5
 roots:=[{ sampleRoot with entryCount:=1 }]
 entries:=
  [{ name:=⟨utf8 ".vove-transfer-564f5645-overwrite-backup-1"⟩,
     namespaceKeyUtf8:=utf8 ".vove-transfer-564f5645-overwrite-backup-1",
     sourceSnapshot:={ sizeBytes:=5,modifiedUnixNs:=7,
                       sourceRevisionUtf8:=utf8 "posix:1:9:3" } }]

theorem backup_not_forest : ManifestValid backupManifest ∧ ¬DescribesForest backupManifest:=by
 have hvalid:ManifestValid backupManifest:=by
  unfold ManifestValid
  decide +kernel
 have hname:utf8 ".vove-transfer-564f5645-overwrite-backup-1" ∈ nameComponents backupManifest:=by
  decide +kernel
 refine ⟨hvalid,?_⟩
 intro hforest
 have hinternal:=hforest.names _ hname
 revert hinternal
 decide

end Forest

end VoVe.DirectoryManifestForest
