import VoVe.BatchRenamePlan

set_option autoImplicit false

namespace VoVe.BatchRenameCollision
open ByteCodec AsciiText PosixPath Checks DestinationFilename BatchTransaction BatchRenamePlan

section FirstLoop
variable {localtime : ℤ → Option Tm} {parent : Path} {options : BatchRenameOptions}

/-- The row the first loop makes of a source it finds nothing wrong with. -/
structure RowMade (localtime : ℤ → Option Tm) (parent : Path) (options : BatchRenameOptions)
  (before : List BatchRenameSource) (source : BatchRenameSource) (row : BatchRenameRow):
  Prop where
 noMarks : sourceMarks parent before source=[]
 destination : rowDestination localtime parent source options before.length=.ok row.destination
 source_eq : row.source=source.path

lemma planRow_valid {before : List BatchRenameSource} {p : Plan} {source : BatchRenameSource}
 (h:(planRow localtime parent options before p source).issue=.none):
 p.issue=.none ∧ ∃ row,RowMade localtime parent options before source row ∧
  planRow localtime parent options before p source={ p with rows:=p.rows++[row] }:=by
 unfold planRow at h ⊢
 cases hdestination:rowDestination localtime parent source options before.length with
 | error mark=>
  simp only [hdestination] at h
  have hnone:=foldl_markIssue_none (fun m hm=>by
   rw [List.mem_append,List.mem_singleton] at hm
   obtain hm | rfl:=hm
   · exact sourceMarks_issue before m hm
   · exact rowDestination_refuses _ _ hdestination) h
  simp at hnone
 | ok destination=>
  simp only [hdestination] at h
  have hnone:=foldl_markIssue_none (sourceMarks_issue before) h
  simp only [hnone,List.foldl_nil] at h ⊢
  exact ⟨h,{ source:=source.path,destination:=destination },⟨hnone,hdestination,rfl⟩,rfl⟩

lemma planRows_valid {before : List BatchRenameSource} {p : Plan}
 {sources : List BatchRenameSource}
 (h:(planRows localtime parent options before p sources).issue=.none):
 p.issue=.none ∧ ∃ rows,rows.length=sources.length ∧
  planRows localtime parent options before p sources={ p with rows:=p.rows++rows } ∧
  ∀i (hi:i<sources.length) (hi':i < rows.length),
   RowMade localtime parent options (before++sources.take i) sources[i] rows[i]:=by
 induction sources generalizing before p with
 | nil=>
  refine ⟨h,[],rfl,?_,fun i hi=>absurd hi (Nat.not_lt_zero i)⟩
  rw [List.append_nil]
  rfl
 | cons source rest ih=>
  rw [planRows] at h
  obtain ⟨hissue,rows,hlength,hrows,hmade⟩:=ih h
  obtain ⟨hplan,row,hrow,hnext⟩:=planRow_valid hissue
  refine ⟨hplan,row::rows,by rw [List.length_cons,List.length_cons,hlength],?_,?_⟩
  · rw [planRows,hrows,hnext]
    simp only [List.append_assoc,List.singleton_append]
  · intro i hi hi'
    cases i with
    | zero=>
     rw [List.take_zero,List.append_nil]
     exact hrow
    | succ i=>
     have htail:=hmade i (Nat.lt_of_succ_lt_succ hi) (Nat.lt_of_succ_lt_succ hi')
     rw [List.append_assoc] at htail
     exact htail

end FirstLoop

section SecondLoop
variable {occupied selected : List Bytes}

/-- A row with no destination in common with the rows before it, nor with an
  entry whose key is not a selected source's. -/
def RowPasses (occupied selected : List Bytes) (rows : List BatchRenameRow) (index : ℕ) : Prop:=
 ∀row,rows[index]? = some row → row.destination.isEmpty = false →
  (∀other ∈ rows.take index,other.destination.isEmpty = false →
   destinationKey other≠destinationKey row) ∧
  (destinationKey row ∈ occupied → destinationKey row ∈ selected)

lemma checkDestination_valid {p : Plan} {index : ℕ}
 (h:(checkDestination occupied selected p index).issue=.none):
 p.issue=.none ∧ checkDestination occupied selected p index=p ∧
  RowPasses occupied selected p.rows index:=by
 unfold checkDestination at h ⊢
 cases hrow:p.rows[index]? with
 | none=>
  simp only [hrow] at h
  refine ⟨h,rfl,fun row hsome=>?_⟩
  rw [hrow] at hsome
  cases hsome
 | some row=>
  obtain ⟨hindex,-⟩:=List.getElem?_eq_some_iff.mp hrow
  simp only [hrow] at h ⊢
  cases hempty:row.destination.isEmpty with
  | true=>
   simp only [hempty,if_true] at h ⊢
   refine ⟨h,trivial,fun row' hsome hne=>?_⟩
   rw [hrow] at hsome
   cases hsome
   rw [hempty] at hne
   cases hne
  | false=>
   simp only [hempty,Bool.false_eq_true,if_false] at h ⊢
   cases hfind:(p.rows.take index).findIdx? fun other =>
     !other.destination.isEmpty && decide (destinationKey other=destinationKey row) with
   | some existing=>
    simp only [hfind] at h
    exact absurd (markRow_issue h) (markRow_none hindex (by decide))
   | none=>
    simp only [hfind] at h ⊢
    by_cases hoccupied:destinationKey row∈occupied ∧ destinationKey row∉selected
    · rw [if_pos hoccupied] at h
      exact absurd h (markRow_none hindex (by decide))
    · rw [if_neg hoccupied] at h ⊢
      refine ⟨h,rfl,fun row' hsome _=>?_⟩
      rw [hrow] at hsome
      cases hsome
      rw [List.findIdx?_eq_none_iff] at hfind
      refine ⟨fun other hother hne hkey=>?_,fun hmem=>by_contra fun hnot =>
       hoccupied ⟨hmem,hnot⟩⟩
      have hfalse:=hfind other hother
      rw [hne,decide_eq_true hkey] at hfalse
      cases hfalse

lemma foldl_checkDestination_valid {indices : List ℕ} {p : Plan}
 (h:(indices.foldl (checkDestination occupied selected) p).issue=.none):
 p.issue=.none ∧ indices.foldl (checkDestination occupied selected) p=p ∧
  ∀index∈indices,RowPasses occupied selected p.rows index:=by
 induction indices generalizing p with
 | nil=>exact ⟨h,rfl,fun index hindex=>absurd hindex List.not_mem_nil⟩
 | cons index indices ih=>
  rw [List.foldl_cons] at h ⊢
  obtain ⟨hissue,hsame,hpass⟩:=ih h
  obtain ⟨hplan,hcheck,hfirst⟩:=checkDestination_valid hissue
  rw [hcheck] at hsame hpass ⊢
  exact ⟨hplan,hsame,List.forall_mem_cons.mpr ⟨hfirst,hpass⟩⟩

end SecondLoop

section ValidPlan
variable {localtime : ℤ → Option Tm} {options : BatchRenameOptions}
 {sources : List BatchRenameSource} {directoryNames : List Path}

/-- The rows of a plan without an issue. -/
structure PlanMade (localtime : ℤ → Option Tm) (sources : List BatchRenameSource)
  (directoryNames : List Path) (options : BatchRenameOptions) (rows : List BatchRenameRow):
  Prop where
 length : rows.length=sources.length
 made : ∀i (hi:i<sources.length) (hi':i < rows.length),
  ∃ parent,RowMade localtime parent options (sources.take i) sources[i] rows[i]
 passes : ∀i < rows.length,RowPasses (occupiedKeys directoryNames) (sourceKeys sources) rows i

lemma planBatchRename_valid
 (h:(planBatchRename localtime sources directoryNames options).valid):
 PlanMade localtime sources directoryNames options
  (planBatchRename localtime sources directoryNames options).rows:=by
 simp only [Plan.valid,decide_eq_true_eq] at h
 unfold planBatchRename at h ⊢
 cases sources with
 | nil=>cases h
 | cons first rest=>
  obtain ⟨hissue,hsame,hpass⟩:=foldl_checkDestination_valid h
  obtain ⟨-,rows,hlength,hrows,hmade⟩:=planRows_valid hissue
  simp only [hsame]
  simp only [hrows,List.nil_append] at hpass ⊢
  exact ⟨hlength,fun i hi hi'=>⟨_,hmade i hi hi'⟩,fun i hi=>hpass i (List.mem_range.mpr hi)⟩

end ValidPlan

section Destinations
variable {localtime : ℤ → Option Tm} {parent : Path} {source : BatchRenameSource}
 {options : BatchRenameOptions} {index : ℕ}

lemma checkGenerated_name {generated : Path}
 (h:checkGenerated source options generated=.ok ()) : DestinationName generated:=by
 simp only [checkGenerated,bind_unit_eq_ok] at h
 obtain ⟨-,hname,-⟩:=h
 cases hvalid:validDestinationFilename generated with
 | ok u=>exact hvalid
 | error detail=>
  rw [hvalid] at hname
  cases hname

lemma rowDestination_filename {destination : Path}
 (h:rowDestination localtime parent source options index=.ok destination):
 ∃ generated,generatedName localtime source options index=.ok generated ∧
  DestinationName generated ∧ destination.filename=generated:=by
 simp only [rowDestination,bind_eq_ok,pure_eq_ok] at h
 obtain ⟨generated,hgenerated,⟨⟩,hcheck,rfl⟩:=h
 have hname:=checkGenerated_name hcheck
 have hfilename:=hname.filename_eq
 refine ⟨generated,hgenerated,hname,?_⟩
 split
 case isTrue hsame =>
  rw [←filename_filename,same_filename hsame,hfilename]
 case isFalse =>
  have hslash:slash∉generated.native:=by
   rw [←hfilename]
   exact filename_no_slash generated
  exact filename_leaf parent hslash

lemma isEmpty_of_filename {path : Path} (h:path.filename.native≠[]) : path.isEmpty=false:=by
 obtain ⟨native⟩:=path
 cases native with
 | nil=>exact absurd rfl h
 | cons b rest=>rfl

end Destinations

variable (sources : List BatchRenameSource)

/-- The directory entry is not one of the selected sources. -/
def Unselected (name : Path) : Prop := name.filename ∉ sources.map fun source=>source.path.filename

/-- The destinations are there, differ, and take no unselected entry's name. -/
structure CollisionFree (sources : List BatchRenameSource) (directoryNames : List Path)
  (rows : List BatchRenameRow) : Prop where
 nonempty : ∀row∈rows,row.destination.isEmpty=false
 distinct : (rows.map fun row=>batchRenameCollisionKey row.destination).Nodup
 unoccupied : ∀row∈rows,∀name∈directoryNames,Unselected sources name →
  row.destination.filename≠name.filename

/-- No source is given the name of an unselected entry that some selected source
  has too, but for the case of its letters. -/
def NoFoldedTwin (localtime : ℤ → Option Tm) (sources : List BatchRenameSource)
  (directoryNames : List Path) (options : BatchRenameOptions) : Prop:=
 ∀name ∈ directoryNames,Unselected sources name →
  batchRenameCollisionKey name.filename ∈ sourceKeys sources →
  ∀i (hi:i<sources.length), generatedName localtime sources[i] options i≠.ok name.filename

section Collisions
variable {localtime : ℤ → Option Tm} {sources : List BatchRenameSource}
 {directoryNames : List Path} {options : BatchRenameOptions} {rows : List BatchRenameRow}

section
variable (h:PlanMade localtime sources directoryNames options rows)
include h

lemma PlanMade.generated (i : ℕ)
 (hi:i<sources.length) (hi':i < rows.length):
 generatedName localtime sources[i] options i=.ok rows[i].destination.filename ∧
  DestinationName rows[i].destination.filename:=by
 obtain ⟨parent,-,hdestination,-⟩:=h.made i hi hi'
 rw [List.length_take,Nat.min_eq_left (Nat.le_of_lt hi)] at hdestination
 obtain ⟨generated,hgenerated,hname,rfl⟩:=rowDestination_filename hdestination
 exact ⟨hgenerated,hname⟩

lemma PlanMade.nonempty (i : ℕ)
 (hi:i < rows.length) : rows[i].destination.isEmpty=false:=
 isEmpty_of_filename (h.generated i (h.length ▸ hi) hi).2.ne_empty

lemma PlanMade.distinct : (rows.map fun row=>batchRenameCollisionKey row.destination).Nodup:=by
 rw [←keys_nodup]
 intro i hi hmem
 obtain ⟨other,hother,hkey⟩:=List.mem_map.mp hmem
 obtain ⟨j,hj,rfl⟩:=List.mem_take_iff_getElem.mp hother
 have hdiffer:=(h.passes i hi rows[i] (List.getElem?_eq_getElem hi) (h.nonempty i hi)).1 _ hother
  (h.nonempty j (by omega))
 simp only [destinationKey,batchRenameCollisionKey,filename_filename] at hdiffer hkey
 exact hdiffer hkey

end

/-- A valid plan keeps clear of unselected entries exactly where no generated
  name is the other-case twin of a selected source. -/
theorem plan_collisionFree_iff
 (h:(planBatchRename localtime sources directoryNames options).valid):
 CollisionFree sources directoryNames
   (planBatchRename localtime sources directoryNames options).rows ↔
  NoFoldedTwin localtime sources directoryNames options:=by
 have hplan:=planBatchRename_valid h
 constructor
 · intro hfree name hname hunselected _ i hi hgenerated
   have hi':i<(planBatchRename localtime sources directoryNames options).rows.length:=by
    rw [hplan.length]
    exact hi
   have hrow:=(hplan.generated i hi hi').1
   rw [hgenerated] at hrow
   exact hfree.unoccupied _ (List.getElem_mem hi') name hname hunselected
    (Except.ok.inj hrow).symm
 · intro htwin
   refine ⟨fun row hrow=>?_,hplan.distinct,fun row hrow name hname hunselected heq=>?_⟩
   · obtain ⟨i,hi,rfl⟩:=List.mem_iff_getElem.mp hrow
     exact hplan.nonempty i hi
   · obtain ⟨i,hi,rfl⟩:=List.mem_iff_getElem.mp hrow
     have hi':=hi
     rw [hplan.length] at hi'
     have hkey:destinationKey (planBatchRename localtime sources directoryNames
       options).rows[i]=batchRenameCollisionKey name.filename:=by
      rw [destinationKey,heq]
     have hselected:=(hplan.passes i hi _ (List.getElem?_eq_getElem hi) (hplan.nonempty i hi)).2
     rw [hkey] at hselected
     refine htwin name hname hunselected (hselected (List.mem_map_of_mem hname)) i hi' ?_
     rw [←heq]
     exact (hplan.generated i hi' hi).1

end Collisions

def twinSources : List BatchRenameSource:=
 [{ path:=⟨utf8 "/d/a.txt"⟩,sourceRevisionUtf8:=utf8 "posix:1:2:3" }]

def twinDirectory : List Path := [⟨utf8 "A.txt"⟩,⟨utf8 "a.txt"⟩]

def twinOptions : BatchRenameOptions := { nameTemplateUtf8:=utf8 "A" }

def epoch (_ : ℤ) : Option Tm := some ⟨70,0,1,0,0,0⟩

lemma twin_valid : (planBatchRename epoch twinSources twinDirectory twinOptions).valid:=by
 decide +kernel

theorem plan_collisionFree_iff_twin : CollisionFree twinSources twinDirectory
   (planBatchRename epoch twinSources twinDirectory twinOptions).rows ↔
  NoFoldedTwin epoch twinSources twinDirectory twinOptions:=
 plan_collisionFree_iff twin_valid

def FullListing (directoryNames : List Path) : Prop:=
 ∀source ∈ sources,source.path.filename ∈ directoryNames.map fun name=>name.filename

/-- That plan is valid and gives `a.txt` the name of the other entry. -/
theorem plan_hits_twin : ¬∀localtime sources directoryNames options,
 FullListing sources directoryNames →
 (planBatchRename localtime sources directoryNames options).valid →
  CollisionFree sources directoryNames
   (planBatchRename localtime sources directoryNames options).rows:=by
 intro h
 have hlisting:FullListing twinSources twinDirectory:=by
  unfold FullListing
  decide +kernel
 have hunselected:Unselected twinSources ⟨utf8 "A.txt"⟩:=by
  unfold Unselected
  decide +kernel
 have hrows:(planBatchRename epoch twinSources twinDirectory twinOptions).rows.map
   (fun row=>row.destination)=[⟨utf8 "/d/A.txt"⟩]:=by
  decide +kernel
 have hfree:=h epoch twinSources twinDirectory twinOptions hlisting twin_valid
 obtain ⟨row,hrow,hdestination⟩:=List.mem_map.mp (hrows ▸ List.mem_singleton.mpr rfl)
 refine hfree.unoccupied row hrow ⟨utf8 "A.txt"⟩ (by decide +kernel) hunselected ?_
 rw [hdestination]
 decide +kernel

end VoVe.BatchRenameCollision
