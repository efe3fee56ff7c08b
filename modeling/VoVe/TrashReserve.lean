import VoVe.PathNormal
import VoVe.PathText
import VoVe.TrashJournalRun

set_option autoImplicit false

namespace VoVe.TrashReserve
open ByteCodec AsciiText PosixPath PathNormal PathText Checks DestinationFilename FileOperation
 FileOperationProtocol CurrentOperationJournal TransactionCodec TrashRecord TrashRecordCodec
 TrashJournal TrashRoundTrip TrashJournalSize

section Rooted
variable {names : List Bytes} {leaf : Bytes}

/-- The absolute path through these names. -/
def rooted (names : List Bytes) : Path := ⟨Path.textOf ⟨true,names,false⟩⟩

/-- A name that a directory can hold. -/
def EntryName (name : Bytes) : Prop := (name≠[] ∧ slash ∉ name) ∧ PlainName name

lemma components_rooted (h:∀name∈names,EntryName name):
 (rooted names).components = ⟨true,names,false⟩:=
 components_textOf nofun fun name hname=>(h name hname).1

lemma rooted_absolute (h:∀name∈names,EntryName name) : (rooted names).isAbsolute=true:=
 congrArg Components.root (components_rooted h)

lemma rooted_nonempty (names : List Bytes) : (rooted names).isEmpty=false:=by
 simp [rooted,Path.textOf,Path.isEmpty]

lemma rooted_normal (h:∀name∈names,EntryName name):
 (rooted names).lexicallyNormal=rooted names:=by
 rw [lexicallyNormal_plain (rooted_nonempty names),components_rooted h]
 · rfl
 · rw [components_rooted h]
   exact fun name hname=>(h name hname).2

section
variable (hnames:names≠[])
include hnames

lemma rooted_native (leaf : Bytes):
 (rooted (names++[leaf])).native=(rooted names).native++slash::leaf:=by
 simp [rooted,Path.textOf,intercalate_concat hnames]

lemma rooted_ends (h:∀name∈names,EntryName name):
 ∃ last,(rooted names).native.getLast?=some last ∧ last≠slash:=by
 obtain ⟨first,last,-,hlast,-,hne⟩:=intercalate_ends hnames fun name hname=>(h name hname).1
 refine ⟨last,?_,hne⟩
 simp [rooted,Path.textOf,List.getLast?_cons,hlast]

lemma rooted_join (h:∀name∈names,EntryName name)
 (hleaf:slash∉leaf) : rooted names / ⟨leaf⟩=rooted (names++[leaf]):=by
 obtain ⟨last,hlast,hne⟩:=rooted_ends hnames h
 obtain ⟨-,hempty⟩ | ⟨before,hbefore,-⟩ | ⟨-,-,hjoin⟩:=join_leaf (rooted names) hleaf
 · rw [hempty] at hlast
   cases hlast
 · rw [hbefore,List.getLast?_append_of_ne_nil _ (by simp)] at hlast
   exact absurd (Option.some.inj hlast).symm hne
 · rw [hjoin,←rooted_native hnames]

lemma rooted_parent (h:∀name∈names,EntryName name)
 (hne:leaf≠[]) (hleaf:slash∉leaf):
 (rooted (names++[leaf])).parentPath=rooted names:=by
 obtain ⟨last,hlast,hlast'⟩:=rooted_ends hnames h
 have hstripped:(rooted names).native.rdropWhile (·=slash)=(rooted names).native:=by
  rw [List.rdropWhile_eq_self_iff]
  intro hnonempty
  rw [List.getLast?_eq_some_getLast hnonempty] at hlast
  simpa [Option.some.inj hlast] using hlast'
 have hnonempty:(rooted names).native≠[]:=by
  intro hnone
  rw [hnone] at hlast
  cases hlast
 rw [←rooted_join hnames h hleaf,parentPath_leaf _ hne hleaf,leafParent,hstripped]
 exact if_neg hnonempty

lemma rooted_filename (hleaf:slash∉leaf) : (rooted (names++[leaf])).filename = ⟨leaf⟩:=by
 have hnative:rooted (names++[leaf]) = ⟨(rooted names).native++slash::leaf⟩:=by
  rw [←rooted_native hnames]
 rw [hnative]
 exact filename_of_slash _ hleaf

end

lemma rooted_injective {other : Bytes} (hnames:names≠[])
 (h:(rooted (names++[leaf])).native=(rooted (names++[other])).native):
 leaf=other:=by
 rw [rooted_native hnames,rooted_native hnames] at h
 simpa using List.append_cancel_left h

lemma rooted_valid (h:∀name∈names,EntryName name)
 (hvalid:∀name∈names,validUtf8WithoutNul name=true):
 validUtf8WithoutNul (rooted names).native=true:=by
 rw [valid_iff_names]
 have hnames:namesOf (rooted names).native=names:=congrArg Components.names (components_rooted h)
 rwa [hnames]

end Rooted

lemma not_mem_hexadecimal {b : UInt8} (h:¬((48≤b ∧ b≤57) ∨ (97≤b ∧ b≤102))) (n : ℕ):
 b∉toChars 16 n:=
 fun hmem=>h (toChars_range n b hmem)

lemma ascii_toChars (n : ℕ) : (toChars 16 n).all asciiByte=true:=by
 rw [List.all_eq_true]
 intro b hb
 have hrange:=toChars_range n b hb
 simp only [asciiByte,decide_eq_true_eq,UInt8.le_iff_toNat_le,ne_eq, ← UInt8.toNat_inj] at hrange ⊢
 simp only [UInt8.reduceToNat] at hrange ⊢
 omega

variable (inode : ℕ)

/-- The revision of a file of device 1. -/
def inodeRevision : Bytes := (utf8 "posix:1:" ++ toChars 10 inode)++colon::utf8 "3"

lemma inodeRevision_posix : startsWith (inodeRevision inode) posix1=true:=by
 rw [inodeRevision,List.append_assoc]
 rfl

lemma identity_inodeRevision:
 stableObjectIdentity (inodeRevision inode)=utf8 "posix:1:" ++ toChars 10 inode:=by
 have hstart (start : Bytes) : startsWith (inodeRevision inode) start=
   startsWith (utf8 "posix:1:" ++ (toChars 10 inode++colon::utf8 "3")) start:=by
  rw [inodeRevision,List.append_assoc]
 have hfile:startsWith (inodeRevision inode) winFile128=false:=by
  rw [hstart]
  rfl
 have hbirth:startsWith (inodeRevision inode) posix2=false:=by
  rw [hstart]
  rfl
 have hposix:=inodeRevision_posix inode
 have hcount:(utf8 "posix:1:" ++ toChars 10 inode).count colon=2:=by
  rw [List.count_append,List.count_eq_zero_of_not_mem (not_mem_decimal (by decide) inode)]
  decide
 unfold stableObjectIdentity
 simp only [hfile,hbirth,hposix,Bool.false_eq_true,if_false,or_true,if_true]
 exact identityBefore_append hcount (by decide)

def photoCount : ℕ := 8000
def folderName : Bytes := List.replicate 91 100
variable (index : ℕ)

def photoName : Bytes := 102::toChars 16 index
def photoPath : Path := rooted ([folderName]++[photoName index])
def photoOperationId : UInt64 := 0x1800000000000000
def containerName : Bytes := kTrashFilenamePrefix++toChars 16 photoOperationId.toNat
def slotName : Bytes := kTrashItemFilenamePrefix++toChars 16 index
def slotPath : Path := rooted ([folderName,containerName]++[slotName index])

def photoSource : TrashSource where
 path:=photoPath index
 restorePath:=photoPath index
 snapshot:={ sourceRevisionUtf8:=inodeRevision index }

/-- Eight thousand empty files of a folder. -/
def photos : List TrashSource := (List.range photoCount).map photoSource

/-- A file of the folder, with the path it gets in the container. -/
def photoItem : TrashItem where
 original:=photoPath index
 restorePath:=photoPath index
 stored:=slotPath index
 current:=photoPath index
 currentSnapshot:={ sourceRevisionUtf8:=inodeRevision index }
 storageIndex:=UInt32.ofNat index

variable (count : ℕ)

/-- The files with the first `count` of them in the container. -/
def photosMoving (phase : TrashPhase) : TrashTransaction:=
 split .stored .source count
  { operationId:=photoOperationId,createdUnixNs:=1,phase:=phase,
    items:=(List.range photoCount).map photoItem }

lemma directory_names : (EntryName folderName ∧ EntryName containerName) ∧
 (validUtf8WithoutNul folderName=true ∧ validUtf8WithoutNul containerName=true) ∧
 (rooted [folderName]).native.length=92 ∧
 (rooted [folderName,containerName]).native.length=130:=by
 unfold EntryName PlainName
 decide +kernel

lemma entryName_folder : EntryName folderName := directory_names.1.1

lemma entryName_container : EntryName containerName := directory_names.1.2

lemma entryName_photo : EntryName (photoName index):=by
 refine ⟨⟨List.cons_ne_nil _ _,?_⟩,?_,?_⟩
 · simpa [photoName,slash] using not_mem_hexadecimal (b := 47) (by decide) index
 · simp [photoName,dot]
 · simp [photoName,dot,dotDot]

lemma entryName_slot : EntryName (slotName index):=by
 have hprefix:kTrashItemFilenamePrefix=105::utf8 "tem-":=rfl
 refine ⟨⟨?_,?_⟩,?_,?_⟩
 · simp [slotName, hprefix]
 · have hstart:slash∉kTrashItemFilenamePrefix:=by decide
   rw [slotName,List.mem_append,not_or]
   exact ⟨hstart,not_mem_hexadecimal (by decide) index⟩
 · simp [slotName, hprefix,dot]
 · simp [slotName, hprefix,dot,dotDot]

lemma folderNames : ∀name∈[folderName],EntryName name:=by
 intro name hname
 rw [List.mem_singleton.mp hname]
 exact entryName_folder

lemma containerNames : ∀name∈[folderName,containerName],EntryName name:=by
 intro name hname
 obtain rfl | hname:=List.mem_cons.mp hname
 · exact entryName_folder
 · rw [List.mem_singleton.mp hname]
   exact entryName_container

lemma names_append {names : List Bytes} {leaf : Bytes} (h:∀name∈names,EntryName name)
 (hleaf:EntryName leaf) : ∀name∈names++[leaf],EntryName name:=by
 intro name hname
 obtain hname | hname:=List.mem_append.mp hname
 · exact h name hname
 · rw [List.mem_singleton.mp hname]
   exact hleaf

lemma photo_normal : (photoPath index).lexicallyNormal=photoPath index:=
 rooted_normal (names_append folderNames (entryName_photo index))

lemma slot_normal : (slotPath index).lexicallyNormal=slotPath index:=
 rooted_normal (names_append containerNames (entryName_slot index))

lemma photo_parent : (photoPath index).parentPath=rooted [folderName]:=
 rooted_parent (List.cons_ne_nil _ _) folderNames (entryName_photo index).1.1
  (entryName_photo index).1.2

lemma slot_parent : (slotPath index).parentPath=rooted [folderName,containerName]:=
 rooted_parent (List.cons_ne_nil _ _) containerNames (entryName_slot index).1.1
  (entryName_slot index).1.2

lemma trashContainerPath_folder : trashContainerPath (rooted [folderName]) photoOperationId=
  rooted [folderName,containerName]:=
 rooted_join (List.cons_ne_nil _ _) folderNames entryName_container.1.2

lemma container_slot:
 rooted [folderName,containerName] / ⟨kTrashItemFilenamePrefix++toChars 16 index⟩=
  slotPath index:=
 rooted_join (List.cons_ne_nil _ _) containerNames (entryName_slot index).1.2

lemma preparedItem_photo:
 preparedItem photoOperationId ⟨[]⟩ index (photoSource index)=photoItem index:=by
 have hstored:storedPath (photoPath index) photoOperationId ⟨[]⟩ index=slotPath index:=by
  have hempty:(PosixPath.Path.mk []).isEmpty=true:=rfl
  rw [storedPath,if_pos hempty,photo_parent,trashContainerPath_folder,container_slot]
 have hrestore:(photoPath index).isEmpty=false:=rooted_nonempty _
 simp only [preparedItem,photoSource,hrestore,Bool.false_eq_true,if_false,if_true,hstored]
 rfl

/-- A file once the first `count` are in the container. -/
def photoAt (count index : ℕ) : TrashItem:=
 placeAt (photoItem index) (if index < count then .stored else .source)

@[irreducible] def folderAt (total count : ℕ) : List TrashItem:=
 (List.range total).map (photoAt count)

lemma folderAt_eq (total count : ℕ):
 folderAt total count=(List.range total).map (photoAt count):=by
 rw [folderAt]

def photosAt : List TrashItem := folderAt photoCount count

lemma photosAt_eq : photosAt count=(List.range photoCount).map (photoAt count):=
 folderAt_eq photoCount count

lemma items_photosMoving (phase : TrashPhase):
 (photosMoving count phase).items=photosAt count:=by
 rw [photosAt_eq]
 refine List.ext_getElem (by simp [photosMoving,split]) fun index h h'=>?_
 simp [photosMoving,split,photoAt]

lemma prepared_photos : photosMoving 0 .prepared=
 { operationId:=photoOperationId,createdUnixNs:=1,
   items:=photos.mapIdx (preparedItem photoOperationId ⟨[]⟩) }:=by
 have hitems:(photosMoving 0 .prepared).items=
   photos.mapIdx (preparedItem photoOperationId ⟨[]⟩):=by
  rw [items_photosMoving,photosAt_eq]
  refine List.ext_getElem (by simp [photos]) fun index h h'=>?_
  simp only [photos,List.getElem_map,List.getElem_range,List.getElem_mapIdx, preparedItem_photo]
  rfl
 rw [←hitems]
 unfold photosMoving
 generalize (List.range photoCount).map photoItem=items
 rfl

section Validity
variable {t : TrashTransaction} {count index : ℕ}

def photoParents : Parents where
 parent:=rooted [folderName]
 restoreParent:=rooted [folderName]
 container:=rooted [folderName,containerName]

lemma parentsOf_photo (count index : ℕ) : parentsOf (photoAt count index)=photoParents:=by
 have hfolder:=rooted_normal folderNames
 have hcontainer:=rooted_normal containerNames
 simp only [parentsOf,photoAt,placeAt,photoItem,photo_parent,slot_parent,hfolder,hcontainer]
 rfl

lemma container_parent : (rooted [folderName,containerName]).parentPath=rooted [folderName]:=
 @rooted_parent [folderName] containerName (List.cons_ne_nil _ _) folderNames
  entryName_container.1.1 entryName_container.1.2

lemma toNat_slot (h:index<photoCount) : (UInt32.ofNat index).toNat=index:=by
 unfold photoCount at h
 simp only [UInt32.toNat_ofNat']
 omega

lemma paths_photo (hid:t.operationId=photoOperationId) (hindex:index<photoCount)
 (hallowed:locationAllowed t.phase (photoAt count index).location=true):
 itemPathsValid t photoParents ((List.range index).map (photoAt count)) (photoAt count index)=
  true:=by
 have hfolder:=rooted_normal folderNames
 have hnat:=toNat_slot hindex
 have habsolute:(photoPath index).isAbsolute=true:=
  rooted_absolute (names_append folderNames (entryName_photo index))
 have hslot:(slotPath index).isAbsolute=true:=
  rooted_absolute (names_append containerNames (entryName_slot index))
 have hstored:storedPath (photoPath index) photoOperationId (rooted [folderName]) index=
   slotPath index:=by
  rw [storedPath,rooted_nonempty,if_neg Bool.false_ne_true,trashContainerPath_folder,
   container_slot]
 have hname:(photoPath index).filename = ⟨photoName index⟩:=
  rooted_filename (List.cons_ne_nil _ _) (entryName_photo index).1.2
 have htrash:isTrashFilename (photoName index)=false:=rfl
 have hexpected:expectedCurrent (photoAt count index)=true:=by
  unfold photoAt
  split
  · exact same_refl _
  · exact same_refl _
 have hbefore:(((List.range index).map (photoAt count)).getLast?.all fun other =>
   decide (other.storageIndex<(photoAt count index).storageIndex))=true:=by
  rw [Option.all_eq_true]
  intro other hother
  obtain ⟨earlier,hearlier,rfl⟩:=List.mem_map.mp (List.mem_of_getLast? hother)
  have hlt:=List.mem_range.mp hearlier
  have hnat':=toNat_slot (hlt.trans hindex)
  rw [decide_eq_true_eq,UInt32.lt_iff_toNat_lt]
  change (UInt32.ofNat earlier).toNat<(UInt32.ofNat index).toNat
  rwa [hnat,hnat']
 have hsmall:(UInt32.ofNat index).toNat<kMaximumTrashItems:=by
  rw [hnat]
  exact hindex.trans (by decide)
 have hcontainer:photoParents.container.parentPath=rooted [folderName]:=container_parent
 simp only [itemPathsValid,Bool.and_eq_true,hbefore,hexpected,hallowed,hid,hcontainer]
 simp only [photoAt,placeAt,photoItem,photoParents,habsolute,hslot,photo_parent,hfolder,
  same_refl,hname,htrash,hnat,hstored]
 rw [hnat] at hsmall
 simp [hsmall]

lemma contains_map_range {β : Type} [BEq β] [LawfulBEq β] {key : ℕ → β} (hkey:key.Injective)
 (index : ℕ) : ((List.range index).map key).contains (key index)=false:=by
 rw [←Bool.not_eq_true,List.contains_iff_mem,List.mem_map]
 rintro ⟨earlier,hearlier,hsame⟩
 have hlt:=List.mem_range.mp hearlier
 rw [hkey hsame] at hlt
 exact lt_irrefl index hlt

lemma checkItem_photo (hid:t.operationId=photoOperationId) (hindex:index<photoCount)
 (hallowed:locationAllowed t.phase (photoAt count index).location=true):
 checkItem t photoParents ((List.range index).map (photoAt count)) (photoAt count index)=
  .ok ():=by
 have hidentity (other : ℕ) : itemIdentity (photoAt count other)=
   utf8 "posix:1:" ++ toChars 10 other := identity_inodeRevision other
 have horiginal (other : ℕ) : originalText (photoAt count other)=(photoPath other).native:=
  congrArg Path.native (photo_normal other)
 have hrestore (other : ℕ) : restoreText (photoAt count other)=(photoPath other).native:=
  congrArg Path.native (photo_normal other)
 have hstored (other : ℕ) : storedText (photoAt count other)=(slotPath other).native:=
  congrArg Path.native (slot_normal other)
 have hphotos:Function.Injective fun other=>(photoPath other).native:=by
  intro i j h
  have hname:photoName i=photoName j:=rooted_injective (List.cons_ne_nil _ _) h
  exact toChars_injective (List.cons.inj hname).2
 have hslots:Function.Injective fun other=>(slotPath other).native:=by
  intro i j h
  have hname:slotName i=slotName j:=rooted_injective (List.cons_ne_nil _ _) h
  exact toChars_injective (List.append_cancel_left hname)
 have hinodes:Function.Injective fun other=>utf8 "posix:1:" ++ toChars 10 other:=by
  intro i j h
  exact toChars_base_injective (by decide) (by decide) (List.append_cancel_left h)
 have hphotoText:validUtf8WithoutNul (photoPath index).native=true:=by
  refine rooted_valid (names_append folderNames (entryName_photo index)) fun name hname=>?_
  obtain hname | hname:=List.mem_append.mp hname
  · rw [List.mem_singleton.mp hname]
    exact directory_names.2.1.1
  · rw [List.mem_singleton.mp hname]
    exact validUtf8_of_ascii (by simpa [photoName,asciiByte] using ascii_toChars index)
 have hslotText:validUtf8WithoutNul (slotPath index).native=true:=by
  refine rooted_valid (names_append containerNames (entryName_slot index)) fun name hname=>?_
  obtain hname | hname:=List.mem_append.mp hname
  · obtain rfl | hname:=List.mem_cons.mp hname
    · exact directory_names.2.1.1
    · rw [List.mem_singleton.mp hname]
      exact directory_names.2.1.2
  · rw [List.mem_singleton.mp hname]
    refine validUtf8_of_ascii ?_
    rw [slotName,List.all_append,ascii_toChars]
    decide
 simp only [checkItem,bind_unit_eq_ok,require_eq_ok]
 refine ⟨paths_photo hid hindex hallowed,?_,?_,?_,?_⟩
 · have hrevision:(photoAt count index).currentSnapshot.sourceRevisionUtf8=
     inodeRevision index := rfl
   have hstart:utf8 "posix:1:" ≠ []:=by decide
   rw [hidentity,hrevision,inodeRevision_posix]
   simp [inodeRevision,hstart]
 · rfl
 · rfl
 · have hnewPhoto:=contains_map_range hphotos index
   have hnewSlot:=contains_map_range hslots index
   have hnewInode:=contains_map_range hinodes index
   simp only [List.map_map,Function.comp_def,horiginal,hrestore,hstored,hidentity,
    hphotoText,hslotText]
   rw [hnewPhoto,hnewSlot,hnewInode]
   rfl

lemma length_photosAt (count : ℕ) : (photosAt count).length=photoCount:=by
 simp [photosAt_eq]

lemma valid_photos (hitems:t.items=photosAt count)
 (hversion:t.version=kTrashTransactionVersion) (hid:t.operationId=photoOperationId)
 (hcreated:t.createdUnixNs=1) (hdetail:t.failureDetailUtf8=[])
 (hevidence:t.activeEvidence=.none) (hactive:activeStepMatches t=true)
 (hallowed:∀index,locationAllowed t.phase (photoAt count index).location=true):
 TrashValid t:=by
 have hlength:=length_photosAt count
 have hparents:=parentsOf_photo count 0
 rw [trashValid_iff]
 refine ⟨photoAt count 0,?_,⟨hversion,?_,?_,?_⟩,hactive,?_,⟨fun _=>hevidence,
  fun _=>hevidence⟩,?_,?_⟩
 · rw [hitems,photosAt_eq,List.head?_map,List.head?_range,if_neg (by decide)]
   rfl
 · rw [hid]
   decide
 · rw [hcreated]
   decide
 · rw [hitems,hlength]
   decide
 · rw [hdetail]
   rfl
 · rw [hparents,hid]
   change (rooted [folderName,containerName]).same (trashContainerPath
    (rooted [folderName,containerName]).parentPath photoOperationId)=true
   rw [container_parent,trashContainerPath_folder]
   exact same_refl _
 · rw [hparents,hitems,checkEach_eq_ok]
   intro index hindex
   have hinside:index<photoCount:=by rwa [hlength] at hindex
   simp only [photosAt_eq]
   rw [List.getElem_map,List.getElem_range,←List.map_take,List.take_range,
    Nat.min_eq_left hinside.le]
   exact checkItem_photo hid hinside (hallowed index)

lemma photosMoving_eq (count : ℕ) (phase : TrashPhase) : photosMoving count phase=
 { operationId:=photoOperationId,createdUnixNs:=1,phase:=phase,
   items:=photosAt count }:=by
 rw [←items_photosMoving count phase]
 unfold photosMoving
 generalize (List.range photoCount).map photoItem=items
 rfl

lemma allowed_moving (count index : ℕ):
 locationAllowed .moving (photoAt count index).location=true:=by
 unfold photoAt
 split
 · rfl
 · rfl

lemma valid_moving (count : ℕ) : TrashValid (photosMoving count .moving):=by
 rw [photosMoving_eq]
 exact valid_photos rfl rfl rfl rfl rfl rfl rfl (allowed_moving count)

lemma valid_prepared : TrashValid (photosMoving 0 .prepared):=by
 rw [photosMoving_eq]
 exact valid_photos rfl rfl rfl rfl rfl rfl rfl fun _=>rfl

lemma getElem?_photos (h:index<photoCount):
 (photosAt count)[index]?=some (photoAt count index):=by
 rw [photosAt_eq,List.getElem?_map,List.getElem?_range h]
 rfl

lemma valid_storing (h:count<photoCount):
 TrashValid (beginStep (photosMoving count .moving) count .store):=by
 have hlocation:(photoAt count count).location=.source:=by
  rw [photoAt,if_neg (lt_irrefl count)]
  rfl
 rw [photosMoving_eq]
 refine valid_photos rfl rfl rfl rfl rfl rfl ?_ (allowed_moving count)
 simp only [beginStep,activeStepMatches,toNat_slot h,getElem?_photos h,hlocation]
 rfl

end Validity

section Sizes
variable {count index : ℕ}

lemma length_photoPath (index : ℕ):
 (photoPath index).native.length=94+(toChars 16 index).length:=by
 rw [photoPath,rooted_native (List.cons_ne_nil _ _),List.length_append,List.length_cons,
  directory_names.2.2.1,photoName,List.length_cons]
 omega

lemma length_slotPath (index : ℕ):
 (slotPath index).native.length=136+(toChars 16 index).length:=by
 have hprefix:kTrashItemFilenamePrefix.length=5:=rfl
 rw [slotPath,rooted_native (List.cons_ne_nil _ _),List.length_append,List.length_cons,
  directory_names.2.2.2,slotName,List.length_append, hprefix]
 omega

lemma length_inodeRevision : (inodeRevision inode).length=10+(toChars 10 inode).length:=by
 have hstart:(utf8 "posix:1:").length=8:=by decide
 have hend:(utf8 "3").length=1:=by decide
 rw [inodeRevision,List.length_append,List.length_append,List.length_cons,hstart,hend]
 omega

lemma bytes_photoAt (count index : ℕ) : (shapeOf (photoAt count index)).bytes=
 482+4*(toChars 16 index).length+(if index<count then 42 else 0):=by
 have hphoto:=length_photoPath index
 have hslot:=length_slotPath index
 have hbytes (location : TrashItemLocation):
   (shapeOf (placeAt (photoItem index) location)).bytes=64+(photoPath index).native.length +
    (photoPath index).native.length+(slotPath index).native.length +
     (placeAt (photoItem index) location).current.native.length := rfl
 rw [photoAt,hbytes]
 split
 · change _+(slotPath index).native.length=_
   omega
 · change _+(photoPath index).native.length=_
   omega

lemma length_photos_le (phase : TrashPhase) : (trashPayload (photosMoving 0 phase)).length ≤
 kMaximumCurrentOperationPayloadBytes - kMaximumOperationPayloadBytes:=by
 have hitem:∀size∈(List.range photoCount).map fun index=>(shapeOf (photoAt 0 index)).bytes +
   (inodeRevision index).length+indexBytes (wireVersion (photosMoving 0 phase)),
   size≤516:=by
  intro size hsize
  obtain ⟨index,hindex,rfl⟩:=List.mem_map.mp hsize
  have hlt:=List.mem_range.mp hindex
  have hhex:(toChars 16 index).length≤3+1:=length_toChars_le (by decide) (hlt.trans (by decide))
  have hdecimal:(toChars 10 index).length≤3+1:=
   length_toChars_le (by decide) (hlt.trans (by decide))
  have hslot:=indexBytes_le (wireVersion (photosMoving 0 phase))
  rw [bytes_photoAt,length_inodeRevision,if_neg (Nat.not_lt_zero index)]
  omega
 have hsum:=List.sum_le_card_nsmul _ _ hitem
 rw [length_trashPayload,items_photosMoving,photosAt_eq,List.map_map]
 have hdetail:(photosMoving 0 phase).failureDetailUtf8=[]:=rfl
 have hlimit:40+photoCount*516 ≤
   kMaximumCurrentOperationPayloadBytes - kMaximumOperationPayloadBytes := by decide
 rw [List.length_map,List.length_range,Nat.nsmul_eq_mul] at hsum
 rw [hdetail,List.length_nil]
 exact (Nat.add_le_add_left hsum 40).trans hlimit

lemma lt_length_photos (phase : TrashPhase) : kMaximumCurrentOperationPayloadBytes <
 (trashPayload (photosMoving photoCount phase)).length:=by
 have hitem:∀size∈(List.range photoCount).map fun index =>
   (shapeOf (photoAt photoCount index)).bytes+(inodeRevision index).length +
    indexBytes (wireVersion (photosMoving photoCount phase)),539 ≤ size:=by
  intro size hsize
  obtain ⟨index,hindex,rfl⟩:=List.mem_map.mp hsize
  have hlt:=List.mem_range.mp hindex
  have hhex:=@length_toChars_pos 16 (by decide) index
  have hdecimal:=@length_toChars_pos 10 (by decide) index
  rw [bytes_photoAt,length_inodeRevision,if_pos hlt]
  omega
 have hsum:=List.card_nsmul_le_sum _ _ hitem
 rw [length_trashPayload,items_photosMoving,photosAt_eq,List.map_map]
 have hlimit:kMaximumCurrentOperationPayloadBytes<40+photoCount*539:=by decide
 rw [List.length_map,List.length_range,Nat.nsmul_eq_mul] at hsum
 refine hlimit.trans_le ?_
 refine (Nat.add_le_add_left hsum 40).trans ?_
 exact Nat.add_le_add_right (Nat.le_add_right 40 _) _

end Sizes

section Run
variable {t : TrashTransaction} {count index : ℕ}

lemma prepare_photos : prepareTrashTransaction photos photoOperationId 1 ⟨[]⟩=
 .ok (photosMoving 0 .prepared):=by
 have hvalid:=valid_prepared
 rw [prepared_photos] at hvalid ⊢
 have hsources:photos≠[] ∧ photos.length≤kMaximumTrashItems ∧ photoOperationId≠0 ∧
   (1 : Int64)>0:=by
  have hlength:photos.length=photoCount:=by simp [photos]
  refine ⟨fun hnone=>?_,by rw [hlength]; decide,by decide,by decide⟩
  rw [hnone] at hlength
  exact absurd hlength (by decide)
 simp only [prepareTrashTransaction,bind_unit_eq_ok,require_eq_ok,decide_eq_true_eq,
  pure_eq_ok,throwInvalid_eq_ok]
 exact ⟨hsources,hvalid,trivial⟩

lemma verify_budget {prepared : TrashTransaction} {total : ℕ} (hvalid:TrashValid prepared)
 (hlength:(trashPayload prepared).length ≤
  kMaximumCurrentOperationPayloadBytes - kMaximumOperationPayloadBytes):
 verifyTransactionJournalBudget prepared total=.ok none:=by
 have hencodes:=encodes_of_length hvalid (hlength.trans (Nat.sub_le _ _))
 simp only [verifyTransactionJournalBudget,hencodes,hlength,if_true]

lemma budget_photos : verifyTransactionJournalBudget (photosMoving 0 .prepared) photos.length=
 .ok none:=
 verify_budget valid_prepared (length_photos_le .prepared)

lemma texts_recorded {prepared : TrashTransaction}
 (hrecorded:∀item∈t.items,
  recordedRevision prepared item.storageIndex=item.currentSnapshot.sourceRevisionUtf8)
 (hdetail:t.failureDetailUtf8=[]) : TextsBounded prepared t:=by
 have hsame:(asRecorded prepared t).items=t.items:=by
  refine (List.map_congr_left fun item hitem=>?_).trans (List.map_id _)
  rw [hrecorded item hitem]
  rfl
 unfold TextsBounded textBytes
 rw [hsame,hdetail]
 exact Nat.le_add_right _ _

lemma texts_photos (hitems:t.items=photosAt count) (hdetail:t.failureDetailUtf8=[]):
 TextsBounded (photosMoving 0 .prepared) t:=by
 refine texts_recorded (fun item hitem=>?_) hdetail
 rw [hitems,photosAt_eq] at hitem
 obtain ⟨index,hindex,rfl⟩:=List.mem_map.mp hitem
 have hlt:=List.mem_range.mp hindex
 have hindexed:(photoAt count index).storageIndex=UInt32.ofNat index:=rfl
 rw [recordedRevision,items_photosMoving,hindexed,toNat_slot hlt,getElem?_photos hlt]
 rfl

lemma nextStep_photos (h:count<photoCount):
 nextStep (photosMoving count .moving)=some (count,.store):=by
 have hfirst:firstAt (photosMoving count .moving) .source=some count:=by
  rw [firstAt,items_photosMoving,photosAt_eq,List.findIdx?_eq_some_iff_getElem]
  refine ⟨by simpa using h,?_,fun index hindex=>?_⟩
  · simp [photoAt,placeAt]
  · simp [photoAt,placeAt,hindex]
 have hidle:(photosMoving count .moving).activeStep=.none:=rfl
 have hphase:(photosMoving count .moving).phase=.moving:=rfl
 rw [nextStep,hidle,hphase,hfirst]
 rfl

/-- The file service stores a file. -/
def storedResult (index : ℕ) : OperationResult where
 status:=.success
 evidence:=.committed
 confirmedSnapshot:={ sourceRevisionUtf8:=inodeRevision index }

lemma photosAt_set (count : ℕ):
 (photosAt count).set count (photoAt (count+1) count)=photosAt (count+1):=by
 rw [photosAt_eq,photosAt_eq]
 refine List.ext_getElem (by simp) fun index hindex hindex'=>?_
 rw [List.getElem_set]
 split
 · next hsame => simp [hsame]
 · next hother =>
   have hiff:index<count ↔ index<count+1:=by omega
   simp only [List.getElem_map,List.getElem_range,photoAt,hiff]

lemma settle_store {item : TrashItem} {result : OperationResult} (hphase:t.phase=.moving)
 (hitem:t.items[index]?=some item) (hindex:(UInt32.ofNat index).toNat=index)
 (hok:result.ok=true)
 (htrust:trustworthyIdentity item result.confirmedSnapshot=true):
 settleExecution (beginStep t index .store) result=
  clearActive (setItem t index (movedItem item .store result.confirmedSnapshot)) true:=by
 have happlied (evidence : OperationEvidence) : applySuccess
   { beginStep t index .store with activeEvidence:=evidence } index .store result=.ok
    (setItem { beginStep t index .store with activeEvidence:=evidence } index
     (movedItem item .store result.confirmedSnapshot)):=by
  have hbegun:({ beginStep t index .store with activeEvidence:=evidence }:
    TrashTransaction).items[index]?=some item := hitem
  rw [applySuccess,hbegun]
  simp only [found,Checks.ok_bind,reduceCtorEq,if_false,htrust,hok]
  rfl
 have hactive:(beginStep t index .store).activeIndex.toNat=index:=hindex
 have hadvancing (evidence : OperationEvidence) (item' : TrashItem) : retreating (setItem
   { beginStep t index .store with activeEvidence:=evidence } index item')=false:=by
  simp [retreating,setItem,beginStep,hphase]
 unfold settleExecution
 dsimp only
 rw [if_pos hok,hactive]
 have hstep:(beginStep t index .store).activeStep=.store:=rfl
 dsimp only at happlied hadvancing
 rw [hstep] at happlied hadvancing ⊢
 rw [happlied]
 dsimp only
 rw [hadvancing]
 rfl

lemma settle_photos (h:count<photoCount) : settleExecution
 (beginStep (photosMoving count .moving) count .store) (storedResult count)=
  photosMoving (count+1) .moving:=by
 have hlocation:photoAt count count=placeAt (photoItem count) .source:=by
  rw [photoAt,if_neg (lt_irrefl count)]
 have hmoved:movedItem (photoAt count count) .store (storedResult count).confirmedSnapshot=
   photoAt (count+1) count:=by
  rw [hlocation,photoAt,if_pos (Nat.lt_succ_self count)]
  rfl
 have htrust:trustworthyIdentity (photoAt count count) (storedResult count).confirmedSnapshot=
   true:=by
  have hidentity:stableObjectIdentity (inodeRevision count)≠[]:=by
   rw [identity_inodeRevision]
   have hstart:utf8 "posix:1:" ≠ []:=by decide
   simp [hstart]
  rw [hlocation]
  simp [trustworthyIdentity,storedResult,photoItem,placeAt,hidentity]
 rw [photosMoving_eq,photosMoving_eq,settle_store rfl (getElem?_photos h) (toNat_slot h) rfl
  htrust,hmoved,setItem,photosAt_set]
 rfl

/-- A record that any run from the preparation gives to the encoder fits the journal. -/
def AlwaysFits (transaction : TrashTransaction) : Prop:=
 ∀records,Steps (fun _ _=>True) (prepared true transaction) records →
  ∀t ∈ records.written,TrashValid t → TextsBounded transaction t →
   (trashPayload t).length ≤ kMaximumCurrentOperationPayloadBytes

/-- Some run has put the transaction into the journal. -/
def Reached (transaction t : TrashTransaction) : Prop:=
 ∃ records,Steps (fun _ _=>True) (prepared true transaction) records ∧
  records.journal = some t ∧ t ∈ records.written

lemma journal_persist (hvalid:TrashValid t)
 (hlength:(trashPayload t).length≤kMaximumCurrentOperationPayloadBytes)
 (r : Records) : (persist true t r).journal=some t:=by
 have hfits:fits t=true:=by
  rw [fits,encodes_of_length hvalid hlength]
  exact decide_eq_true hlength
 simp only [persist,hfits,and_self,if_true]

lemma mem_persist (t : TrashTransaction) (stored : Bool) (r : Records):
 t∈(persist stored t r).written:=
 List.mem_append_right _ (List.mem_singleton_self t)

lemma AlwaysFits.reached {transaction : TrashTransaction} {before r : Records}
 {event : Event} (h:AlwaysFits transaction)
 (hrun:Steps (fun _ _=>True) (prepared true transaction) before)
 (hturn:step event before=some (persist true t r)) (hvalid:TrashValid t)
 (htexts:TextsBounded transaction t) : Reached transaction t:=by
 have hsteps:=Steps.next event hrun trivial hturn
 have hlength:=h _ hsteps t (mem_persist t true r) hvalid htexts
 exact ⟨_,hsteps,journal_persist hvalid hlength r,mem_persist t true r⟩

lemma texts_begin {taken : TrashStep} (hitems:t.items=photosAt count)
 (hdetail:t.failureDetailUtf8=[]):
 TextsBounded (photosMoving 0 .prepared) (beginStep t index taken):=
 texts_photos hitems hdetail

lemma texts_moving (count : ℕ):
 TextsBounded (photosMoving 0 .prepared) (photosMoving count .moving):=
 texts_photos (items_photosMoving count .moving) rfl

lemma step_prepared {r : Records} (hjournal:r.journal=some t)
 (hphase:t.phase=.prepared) (hidle:t.activeStep=.none):
 step (.advance true) r=
  some (persist true { t with phase:=.moving } { r with manifest:=r.manifest }):=by
 have hadvance:advance t r.manifest=some { t with phase:=.moving }:=by
  unfold advance
  rw [hphase]
  simp [hidle]
 cases r with | _ journal manifest written =>
 change journal=some t at hjournal
 simp [step,hjournal,hadvance,hphase]

lemma step_begin {r : Records} {taken : TrashStep} (hjournal:r.journal=some t)
 (hnext:nextStep t=some (index,taken)):
 step (.begin true) r=some (persist true (beginStep t index taken) r):=by
 simp [step,hjournal,hnext]

lemma step_execute {r : Records} (hjournal:r.journal=some t)
 (hactive:t.activeStep≠.none) (result : OperationResult):
 step (.execute true result) r=some (persist true (settleExecution t result) r):=by
 have htaken:active r=some t:=by
  rw [active,hjournal,Option.filter_some,if_pos (decide_eq_true hactive)]
 simp [step,htaken]

section
variable (h:AlwaysFits (photosMoving 0 .prepared))
include h

lemma reached_start : Reached (photosMoving 0 .prepared) (photosMoving 0 .moving):=by
 have hlength:=(length_photos_le .prepared).trans (Nat.sub_le _ _)
 have hjournal:=journal_persist valid_prepared hlength {}
 have hidle:(photosMoving 0 .prepared).activeStep=.none:=rfl
 have hphase:(photosMoving 0 .prepared).phase=.prepared:=rfl
 have hmoving:{ photosMoving 0 .prepared with phase:=.moving }=photosMoving 0 .moving:=by
  rw [photosMoving_eq,photosMoving_eq]
 have hturn:=step_prepared hjournal hphase hidle
 rw [hmoving] at hturn
 exact h.reached (.refl _) hturn (valid_moving 0) (texts_moving 0)

lemma reached_next (hcount:count<photoCount)
 (hreached:Reached (photosMoving 0 .prepared) (photosMoving count .moving)):
 Reached (photosMoving 0 .prepared) (photosMoving (count+1) .moving):=by
 obtain ⟨before,hbefore,hjournal,-⟩:=hreached
 have hbegun:Reached (photosMoving 0 .prepared)
   (beginStep (photosMoving count .moving) count .store):=
  h.reached hbefore (step_begin hjournal (nextStep_photos hcount)) (valid_storing hcount)
   (texts_begin (items_photosMoving count .moving) rfl)
 obtain ⟨during,hduring,hactive,-⟩:=hbegun
 have hstoring:(beginStep (photosMoving count .moving) count .store).activeStep≠.none:=
  TrashStep.noConfusion
 have hturn:=step_execute hactive hstoring (storedResult count)
 rw [settle_photos hcount] at hturn
 exact h.reached hduring hturn (valid_moving (count+1)) (texts_moving (count+1))

lemma reached_moving (hcount:count≤photoCount):
 Reached (photosMoving 0 .prepared) (photosMoving count .moving):=by
 induction count with
 | zero=>exact reached_start h
 | succ count ih=>exact reached_next h hcount (ih (Nat.le_of_succ_le hcount))

end

end Run

end VoVe.TrashReserve
