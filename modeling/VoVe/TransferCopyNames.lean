import VoVe.PathNormal
import VoVe.TransferUpdates

set_option autoImplicit false

namespace VoVe.TransferCopyNames
open ByteCodec AsciiText PosixPath DestinationFilename
open TransferTransaction FileTransferCoordinator TransferShape
open PathNormal

section Leaves

/-- The names the journal makes up for its own objects. -/
def transferLeaf (start : Bytes) (operationId : UInt64) (index : ℕ) : Bytes:=
 start++(toChars 16 operationId.toNat++(45::(toChars 16 index++utf8 ".part")))

def transferStarts : List Bytes:=
 [kTransferSourceFilenamePrefix,kTransferDestinationFilenamePrefix,
  kTransferOverwriteBackupFilenamePrefix]

variable {start : Bytes} (hstart:start∈transferStarts) (o operationId : UInt64) (index : ℕ)

include hstart in
lemma slash_not_mem_transferLeaf : slash∉transferLeaf start o index:=by
 have hplain:∀start∈transferStarts,slash∉start:=by decide
 have hend:slash∉utf8 ".part":=by decide
 have hdash:slash≠45:=by decide
 simp [transferLeaf,hplain start hstart,slash_not_mem_digits (.inr rfl),hend,hdash]

lemma transferLeaf_ne_nil : transferLeaf start o index≠[]:=by
 simp [transferLeaf]

include hstart in
lemma isTransferFilename_transferLeaf:
 isTransferFilename (transferLeaf start o index)=true:=by
 have hbegins:startsWith (transferLeaf start o index) start=true:=by
  simp [startsWith,transferLeaf]
 simp only [transferStarts,List.mem_cons,List.not_mem_nil,or_false] at hstart
 obtain rfl | rfl | rfl:=hstart
 · simp [isTransferFilename,hbegins]
 · simp [isTransferFilename,hbegins]
 · simp [isTransferFilename,hbegins]

include hstart in
lemma transferPath_filename (userPath : Path):
 (transferPath userPath start o index).filename=
  ⟨transferLeaf start o index⟩:=
 filename_leaf _ (slash_not_mem_transferLeaf hstart o index)

include hstart in
lemma transferPath_components (userPath : Path):
 (transferPath userPath start o index).components=
  { root:=userPath.parentPath.components.root
    names:=userPath.parentPath.components.names++[transferLeaf start o index]
    trailing:=false }:=
 components_leaf _ (transferLeaf_ne_nil o index)
  (slash_not_mem_transferLeaf hstart o index)

end Leaves

variable {start : Bytes} {o operationId : UInt64} {before : List FileTransferItem}
 {item : FileTransferItem} {p : Path} {i : ℕ}

section Copies
variable (d destination : Path) (ordinal : ℕ)

def copyLeaf : Bytes:=
 destination.stem.native++(copyMark ++
  ((if ordinal > 1 then utf8 "_" ++ toChars 10 ordinal else []) ++
  destination.extension.native))

lemma copyDestinationPath_eq : copyDestinationPath d ordinal=
 d.parentPath / ⟨copyLeaf d ordinal⟩ := rfl

lemma stem_append_extension:
 d.stem.native++d.extension.native=d.filename.native:=by
 rw [Path.stem,Path.extension]
 cases Path.extensionStart d.filename.native with
 | none=>simp
 | some position=>simp

lemma slash_not_mem_copyLeaf : slash∉copyLeaf d ordinal:=by
 have hfilename:=filename_no_slash d
 rw [←stem_append_extension,List.mem_append,not_or] at hfilename
 have hmark:slash∉copyMark:=by decide
 have hline:slash∉utf8 "_":=by decide
 have hnumber:slash∉(if ordinal>1 then utf8 "_" ++ toChars 10 ordinal else []):=by
  split
  · simp [slash_not_mem_digits (.inl rfl),hline]
  · simp
 simp [copyLeaf,hfilename,hmark,hnumber]

lemma copyLeaf_ne_nil : copyLeaf d ordinal≠[]:=by
 simp [copyLeaf,copyMark]

lemma copy_filename:
 (copyDestinationPath d ordinal).filename = ⟨copyLeaf d ordinal⟩:=
 filename_leaf _ (slash_not_mem_copyLeaf d ordinal)

lemma startsWith_copyLeaf (hline:(0x5f : UInt8)∉start)
 (h:startsWith (copyLeaf d ordinal) start=true):
 startsWith d.filename.native start=true:=by
 simp only [startsWith, List.isPrefixOf_iff_prefix] at h ⊢
 rw [←stem_append_extension]
 obtain hshort | hlong:=Nat.lt_or_ge d.stem.native.length start.length
 · exfalso
   apply hline
   have hmarked:(copyLeaf d ordinal)[d.stem.native.length]? =
     some 0x5f:=by
    simp [copyLeaf,copyMark]
   obtain ⟨rest,hrest⟩:=h
   rw [←hrest,List.getElem?_append_left hshort] at hmarked
   exact List.mem_of_getElem? hmarked
 · exact (List.prefix_of_prefix_length_le h (List.prefix_append _ _) hlong).trans
    (List.prefix_append _ _)

lemma copy_not_transfer (h:isTransferFilename d.filename.native=false):
 isTransferFilename (copyLeaf d ordinal)=false:=by
 by_contra htransfer
 rw [Bool.not_eq_false] at htransfer
 simp only [isTransferFilename,decide_eq_true_eq] at htransfer
 simp only [isTransferFilename,decide_eq_false_iff_not,not_or] at h
 obtain hstart | hstart | hstart | hmarker:=htransfer
 · exact h.1 (startsWith_copyLeaf d ordinal (by decide) hstart)
 · exact h.2.1 (startsWith_copyLeaf d ordinal (by decide) hstart)
 · exact h.2.2.1 (startsWith_copyLeaf d ordinal (by decide) hstart)
 · have hmem:(0x5f : UInt8)∈copyLeaf d ordinal:=by
    simp [copyLeaf,copyMark]
   rw [hmarker] at hmem
   revert hmem
   decide

lemma transferPath_copy (hstart:start∈transferStarts) (o : UInt64) (index : ℕ):
 (transferPath (copyDestinationPath d ordinal) start o index).same
  (transferPath d start o index):=by
 obtain ⟨hroot,hnames⟩:=same_parents (p := d) (copyLeaf_ne_nil d ordinal)
  (slash_not_mem_copyLeaf d ordinal)
 rw [←copyDestinationPath_eq] at hroot hnames
 simp only [Path.same,decide_eq_true_eq,transferPath_components hstart,hroot,hnames]

end Copies

section Items
variable {t : FileTransferTransaction} {index : ℕ}

/-- What the path check says about one item, by itself. -/
structure PathsOwn (operationId : UInt64) (index : ℕ) (item : FileTransferItem) : Prop where
 absolute : item.destination.isAbsolute=true
 staged : item.stagedSource.same (fileTransferStagedSourcePath item.source operationId index)
 temp : item.tempDestination.same
  (fileTransferTempDestinationPath item.destination operationId index)
 backup : item.overwriteBackup.same
  (fileTransferOverwriteBackupPath item.destination operationId index)
 plain : isTransferFilename item.destination.filename.native=false
 stagedAbsolute : item.stagedSource.isAbsolute=true
 tempAbsolute : item.tempDestination.isAbsolute=true
 backupAbsolute : item.overwriteBackup.isAbsolute=true

lemma pathsOwn_of_sound (h:PathsSound o before item):
 PathsOwn o before.length item:=by
 have hpaths:=h.paths
 simp only [itemPathsValid,Bool.and_eq_true,Bool.not_eq_true',decide_eq_true_eq] at hpaths
 obtain ⟨⟨⟨⟨⟨⟨⟨⟨⟨⟨⟨⟨-,hstagedAbsolute⟩,htempAbsolute⟩,hbackupAbsolute⟩,habsolute⟩,-⟩,hstaged⟩,
  htemp⟩,hbackup⟩,-⟩,hplain⟩,-⟩,-⟩ := hpaths
 exact ⟨habsolute,hstaged,htemp,hbackup,hplain,hstagedAbsolute,htempAbsolute,
  hbackupAbsolute⟩

lemma PathsOwn.transferName (h:PathsOwn o index item) {path : Path}
 (hpath:path=item.stagedSource ∨ path=item.tempDestination ∨
  path=item.overwriteBackup) : isTransferFilename path.filename.native=true:=by
 obtain rfl | rfl | rfl:=hpath
 · rw [same_filename h.staged,fileTransferStagedSourcePath,transferPath_filename (by decide)]
   exact isTransferFilename_transferLeaf (by decide) _ _
 · rw [same_filename h.temp,fileTransferTempDestinationPath,transferPath_filename (by decide)]
   exact isTransferFilename_transferLeaf (by decide) _ _
 · rw [same_filename h.backup,fileTransferOverwriteBackupPath,
    transferPath_filename (by decide)]
   exact isTransferFilename_transferLeaf (by decide) _ _

lemma key_filename (habsolute:p.isAbsolute=true) (hname:DestinationName p.filename):
 (⟨transferPathKey p⟩ : Path).filename=p.filename:=by
 exact filename_lexicallyNormal habsolute hname.ne_empty hname.no_dots.1 hname.no_dots.2

lemma key_ne {q : Path} (hp:p.isAbsolute=true) (hpname:DestinationName p.filename)
 (hq:q.isAbsolute=true) (hqname:DestinationName q.filename)
 (hpkind:isTransferFilename p.filename.native=true)
 (hqkind:isTransferFilename q.filename.native=false):
 transferPathKey p≠transferPathKey q:=by
 intro hsame
 have hfilename:=key_filename hp hpname
 rw [hsame,key_filename hq hqname] at hfilename
 rw [←hfilename,hqkind] at hpkind
 cases hpkind

lemma free_of_occupied (h:TransferSound t) {candidate : Path}
 (habsolute:candidate.isAbsolute=true) (hname:DestinationName candidate.filename)
 (hplain:isTransferFilename candidate.filename.native=false)
 (hfree:transferPathKey candidate∉occupiedKeys t index) {i : ℕ} (hi:i<t.items.length):
 transferPathKey candidate≠transferPathKey t.items[i].source ∧
 transferPathKey candidate≠transferPathKey t.items[i].stagedSource ∧
 transferPathKey candidate≠transferPathKey t.items[i].tempDestination ∧
 transferPathKey candidate≠transferPathKey t.items[i].overwriteBackup ∧
 (i≠index → transferPathKey candidate≠transferPathKey t.items[i].destination):=by
 have hpaths:=h.paths i hi
 have hown:=pathsOwn_of_sound hpaths
 have hoccupied:∀key,key∈((if i≠index then [transferPathKey t.items[i].destination]
   else [])++[transferPathKey t.items[i].source]) → transferPathKey candidate≠key:=by
  intro key hkey hsame
  apply hfree
  rw [hsame]
  refine List.mem_flatMap.mpr ⟨(t.items[i],i),?_,hkey⟩
  exact List.mem_zipIdx_iff_getElem?.mpr (List.getElem?_eq_getElem hi)
 refine ⟨hoccupied _ (by simp),?_,?_,?_,?_⟩
 · exact (key_ne hown.stagedAbsolute hpaths.stagedSource habsolute hname
    (hown.transferName (.inl rfl)) hplain).symm
 · exact (key_ne hown.tempAbsolute hpaths.tempDestination habsolute hname
    (hown.transferName (.inr (.inl rfl))) hplain).symm
 · exact (key_ne hown.backupAbsolute hpaths.overwriteBackup habsolute hname
    (hown.transferName (.inr (.inr rfl))) hplain).symm
 · intro hne
   exact hoccupied _ (by simp [hne])

lemma PathsSound.around {before' : List FileTransferItem} (h:PathsSound o before item)
 (hlength:before'.length=before.length)
 (hfree:∀text∈ownedPaths item,text∉before'.flatMap ownedPaths):
 PathsSound o before' item:=by
 refine ⟨?_,h.destination,h.stagedSource,h.tempDestination,h.overwriteBackup⟩
 have hpaths:=h.paths
 simp only [itemPathsValid,Bool.and_eq_true,decide_eq_true_eq,hlength] at hpaths ⊢
 exact ⟨hpaths.1,hpaths.2.1,hfree⟩

lemma owned_before (h:TransferSound t) {i j : ℕ} (hi:i<t.items.length) (hj:j < i)
 {text : Bytes} (htext:text∈ownedPaths t.items[i]):
 text∉ownedPaths t.items[j]:=by
 have hpaths:=(h.paths i hi).paths
 simp only [itemPathsValid,Bool.and_eq_true,decide_eq_true_eq] at hpaths
 intro hother
 apply hpaths.2.2 text htext
 exact List.mem_flatMap.mpr ⟨_,List.mem_take_iff_getElem.mpr ⟨j,by omega,rfl⟩,hother⟩

/-- A copy's name that no other item and no source has. -/
structure FreeCopy (t : FileTransferTransaction) (index : ℕ) (candidate : Path) : Prop where
 inside : index<t.items.length
 beside : ∃ ordinal,candidate=copyDestinationPath (itemAt t index).destination ordinal
 name : DestinationName candidate.filename
 free : transferPathKey candidate∉occupiedKeys t index

section Copied
variable {candidate : Path} (h:TransferSound t) (hcopy:FreeCopy t index candidate)

include h hcopy in
lemma FreeCopy.own : PathsOwn t.operationId index (itemAt t index):=by
 have hown:=pathsOwn_of_sound (h.paths index hcopy.inside)
 rwa [List.length_take_of_le (by have := hcopy.inside; omega),←itemAt_eq hcopy.inside] at hown

include h hcopy in
lemma FreeCopy.parent : (itemAt t index).destination.parentPath.isAbsolute=true:=by
 have hname:=(h.paths index hcopy.inside).destination
 rw [←itemAt_eq hcopy.inside] at hname
 rw [isAbsolute_parentPath hname.ne_empty]
 exact (hcopy.own h).absolute

include h hcopy in
lemma FreeCopy.absolute : candidate.isAbsolute=true:=by
 obtain ⟨ordinal,rfl⟩:=hcopy.beside
 rw [copyDestinationPath_eq,Path.isAbsolute,components_leaf _ (copyLeaf_ne_nil _ _)
  (slash_not_mem_copyLeaf _ _)]
 exact hcopy.parent h

include h hcopy in
lemma FreeCopy.plain : isTransferFilename candidate.filename.native=false:=by
 have hown:=hcopy.own h
 obtain ⟨ordinal,rfl⟩:=hcopy.beside
 rw [copy_filename]
 exact copy_not_transfer _ _ hown.plain

include h hcopy in
lemma FreeCopy.apart (hi:i<t.items.length):
 transferPathKey candidate∉[transferPathKey t.items[i].source,
  transferPathKey t.items[i].stagedSource,transferPathKey t.items[i].tempDestination,
  transferPathKey t.items[i].overwriteBackup] ∧
 (i≠index → transferPathKey candidate≠transferPathKey t.items[i].destination):=by
 obtain ⟨h1,h2,h3,h4,h5⟩:=
  free_of_occupied h (hcopy.absolute h) hcopy.name (hcopy.plain h) hcopy.free hi
 refine ⟨?_,h5⟩
 simp [h1,h2,h3,h4]

include hcopy in
lemma FreeCopy.objects (hstart:start∈transferStarts):
 (transferPath candidate start t.operationId index).same
  (transferPath (itemAt t index).destination start t.operationId index):=by
 obtain ⟨ordinal,rfl⟩:=hcopy.beside
 exact transferPath_copy _ ordinal hstart _ _

include h hcopy in
lemma FreeCopy.ownedPaths : ownedPaths (copiedItem t index candidate)=
 [transferPathKey (itemAt t index).source,transferPathKey (itemAt t index).stagedSource,
  transferPathKey (itemAt t index).tempDestination,
  transferPathKey (itemAt t index).overwriteBackup,transferPathKey candidate]:=by
 have htemp:=same_lexicallyNormal (same_trans (hcopy.own h).temp
  (same_symm (hcopy.objects (by decide))))
 have hbackup:=same_lexicallyNormal (same_trans (hcopy.own h).backup
  (same_symm (hcopy.objects (by decide))))
 simp only [TransferTransaction.ownedPaths,copiedItem,clearOverwrite,transferPathKey,htemp,
  hbackup]
 rfl

include h hcopy in
lemma FreeCopy.owned_cases {text : Bytes}
 (htext:text∈TransferTransaction.ownedPaths (copiedItem t index candidate)):
 text∈TransferTransaction.ownedPaths (itemAt t index) ∨ text=transferPathKey candidate:=by
 rw [hcopy.ownedPaths h] at htext
 simp only [TransferTransaction.ownedPaths,transferPathKey,List.mem_cons,List.not_mem_nil,
  or_false] at htext ⊢
 tauto

include h hcopy in
lemma FreeCopy.other {j : ℕ} (hj:j<t.items.length) (hne:j≠index):
 transferPathKey candidate∉TransferTransaction.ownedPaths t.items[j]:=by
 obtain ⟨hfirst,hlast⟩:=hcopy.apart h hj
 simp only [List.mem_cons,List.not_mem_nil,or_false,not_or] at hfirst
 simp only [TransferTransaction.ownedPaths,List.mem_cons,List.not_mem_nil,or_false,not_or]
 exact ⟨hfirst.1,hfirst.2.1,hfirst.2.2.1,hfirst.2.2.2,hlast hne⟩

lemma taken_cases {item' : FileTransferItem} (hi:i≤t.items.length) {text : Bytes}
 (htext:text∈((t.items.set index item').take i).flatMap ownedPaths):
 ∃ j,∃ hj : j < i,(j≠index ∧ text∈ownedPaths t.items[j]) ∨
  (j=index ∧ text∈ownedPaths item'):=by
 obtain ⟨other,hmem,htext⟩:=List.mem_flatMap.mp htext
 obtain ⟨j,hj,rfl⟩:=List.mem_take_iff_getElem.mp hmem
 refine ⟨j,by omega,?_⟩
 by_cases hsame:index=j
 · subst hsame
   exact .inr ⟨rfl,by simpa using htext⟩
 · refine .inl ⟨Ne.symm hsame,?_⟩
   simpa [List.getElem_set_ne hsame] using htext

include h hcopy in
lemma FreeCopy.copied:
 PathsSound t.operationId (t.items.take index) (copiedItem t index candidate):=by
 have hinside:=hcopy.inside
 have hpaths:=h.paths index hinside
 have hown:=hcopy.own h
 have hsource:¬(itemAt t index).source.same candidate:=by
  intro hsame
  have hapart:=(hcopy.apart h hinside).1
  rw [←itemAt_eq hinside] at hapart
  exact hapart (by simp [transferPathKey,same_lexicallyNormal hsame])
 have habsolute:∀ {start : Bytes},start∈transferStarts →
   (transferPath candidate start t.operationId index).isAbsolute=true:=by
  intro start hstart
  have hcomponents:(transferPath candidate start t.operationId index).components=_:=
   decide_eq_true_eq.mp (hcopy.objects hstart)
  rw [Path.isAbsolute,hcomponents,transferPath_components hstart]
  exact hcopy.parent h
 have hnames:∀ {start : Bytes},start∈transferStarts → ∀ {path : Path},
   path.same (transferPath (itemAt t index).destination start t.operationId index) →
   DestinationName path.filename →
   DestinationName (transferPath candidate start t.operationId index).filename:=by
  intro start hstart path hsame hname
  rw [same_filename (hcopy.objects hstart),←same_filename hsame]
  exact hname
 rw [←itemAt_eq hinside] at hpaths
 refine ⟨?_,hcopy.name,hpaths.stagedSource,hnames (by decide) hown.temp hpaths.tempDestination,
  hnames (by decide) hown.backup hpaths.overwriteBackup⟩
 have hvalid:=hpaths.paths
 simp only [itemPathsValid,Bool.and_eq_true,Bool.not_eq_true',decide_eq_true_eq,
  List.length_take_of_le hinside.le] at hvalid ⊢
 obtain ⟨⟨⟨⟨⟨⟨⟨⟨⟨⟨⟨⟨habs,hstagedAbs⟩,-⟩,-⟩,-⟩,-⟩,hstaged⟩,-⟩,-⟩,hsourceKind⟩,-⟩,hcolon⟩,
  hnodup,hfree⟩ := hvalid
 refine ⟨⟨⟨⟨⟨⟨⟨⟨⟨⟨⟨⟨habs,hstagedAbs⟩,habsolute (by decide)⟩,habsolute (by decide)⟩,
  hcopy.absolute h⟩,Bool.not_eq_true _ ▸ hsource⟩,hstaged⟩,same_refl _⟩,same_refl _⟩,hsourceKind⟩,
  hcopy.plain h⟩,hcolon⟩,?_,?_⟩
 · rw [hcopy.ownedPaths h]
   have hapart:=(hcopy.apart h hinside).1
   rw [←itemAt_eq hinside] at hapart
   change ([_,_,_,_]++[transferPathKey candidate]).Nodup
   change ([_,_,_,_]++[_]).Nodup at hnodup
   apply List.Nodup.append
   · exact (List.nodup_append.mp hnodup).1
   · exact List.nodup_singleton _
   · exact List.disjoint_singleton.mpr hapart
 · intro text htext hmem
   obtain hold | rfl:=hcopy.owned_cases h htext
   · exact hfree text hold hmem
   · obtain ⟨other,hmem,htaken⟩:=List.mem_flatMap.mp hmem
     obtain ⟨j,hj,rfl⟩:=List.mem_take_iff_getElem.mp hmem
     exact hcopy.other h (by omega) (by omega) htaken

include h hcopy in
lemma FreeCopy.paths (i : ℕ)
 (hi:i<(t.items.set index (copiedItem t index candidate)).length):
 PathsSound t.operationId ((t.items.set index (copiedItem t index candidate)).take i)
  (t.items.set index (copiedItem t index candidate))[i]:=by
 have hi':i<t.items.length:=by simpa using hi
 by_cases hsame:index=i
 · subst hsame
   rw [List.getElem_set_self,List.take_set_of_le (le_refl _)]
   exact hcopy.copied h
 · rw [List.getElem_set_ne hsame]
   apply PathsSound.around (h.paths i hi') (by simp)
   intro text htext hmem
   obtain ⟨j,hj,⟨-,htaken⟩ | ⟨rfl,htaken⟩⟩:=taken_cases hi'.le hmem
   · exact owned_before h hi' hj htext htaken
   · obtain hold | rfl:=hcopy.owned_cases h htaken
     · rw [itemAt_eq hcopy.inside] at hold
       exact owned_before h hi' hj htext hold
     · exact hcopy.other h hi' (Ne.symm hsame) htext

end Copied

end Items

end VoVe.TransferCopyNames
