import Mathlib.Data.List.GetD
import Mathlib.Data.List.Induction
import VoVe.CatalogModel

set_option autoImplicit false

namespace VoVe.CatalogHistory
open CatalogOrder CatalogModel CatalogModel.DirectoryModel

section Rows
variable (model : DirectoryModel)

/-- The rows that belong in the view, in the order the entries arrived. -/
def matching : List ℕ:=
 (List.range model.entries.length).filter fun index=>model.matchesFilter (model.entryAt index)

def rank (index : ℕ) : ℕ := (catalogGroup (model.entryAt index)).number

def directory (index : ℕ) : Bool := (model.entryAt index).kind = .directory

structure Shown : Prop where
 rows : model.visibleIndices.Perm (matching model)
 directories : model.visibleDirectories=model.visibleIndices.countP (directory model)

/-- Directories, then files with a preview, then other files. -/
def Grouped : Prop := model.visibleIndices.Pairwise fun lhs rhs=>rank model lhs ≤ rank model rhs

def InArrivalOrder : Prop:=
 model.visibleIndices.Pairwise fun lhs rhs=>rank model lhs = rank model rhs → lhs < rhs

/-- No row comes after one the comparator puts behind it. -/
def Sorted : Prop:=
 model.visibleIndices.Pairwise fun lhs rhs=>rank model lhs = rank model rhs →
  less model.sortField model.sortDirection (model.entryAt rhs) (model.entryAt lhs) = false

structure Consistent : Prop where
 shown : Shown model
 grouped : Grouped model
 arrival : model.loading=true → InArrivalOrder model

end Rows

variable {index : ℕ} {field : SortField} {d direction : SortDirection} {lhs rhs : DirectoryEntry}

section Groups
variable {model : DirectoryModel}

lemma mem_matching : index∈matching model ↔
 index < model.entries.length ∧ model.matchesFilter (model.entryAt index)=true:=by
 rw [matching,List.mem_filter,List.mem_range]

lemma matching_nodup : (matching model).Nodup := List.nodup_range.filter _

lemma rank_directory (index : ℕ) : rank model index=0 ↔ directory model index=true:=by
 rw [directory,decide_eq_true_eq,←catalogGroup_directory,rank]
 cases catalogGroup (model.entryAt index)<;>decide

lemma rank_preview (index : ℕ):
 rank model index=1 ↔ catalogGroup (model.entryAt index)=.preview:=by
 rw [rank]
 cases catalogGroup (model.entryAt index)<;>decide

lemma rank_le (index : ℕ) : rank model index≤2:=by
 rw [rank]
 cases catalogGroup (model.entryAt index)<;>decide

lemma visibleGroups_eq : model.visibleGroups=
 (model.visibleIndices.filter fun index=>rank model index=0,
  model.visibleIndices.filter fun index=>rank model index=1,
  model.visibleIndices.filter fun index=>rank model index=2):=by
 have hdirectory:∀index,decide ((model.entryAt index).kind=.directory)=
   decide (rank model index=0):=by
  intro index
  rw [decide_eq_decide,rank_directory,directory,decide_eq_true_eq]
 have hpreview:∀index,decide (catalogGroup (model.entryAt index)=.preview)=
   decide (rank model index=1):=by
  intro index
  rw [decide_eq_decide,rank_preview]
 simp only [visibleGroups,hdirectory,hpreview,List.filter_filter,Prod.mk.injEq,true_and]
 constructor
 all_goals
  apply List.filter_congr
  intro index _
  have : rank model index≤2:=rank_le index
  simp only [←decide_not,←Bool.decide_and,decide_eq_decide]
  omega

lemma visibleGroups_perm : (model.visibleGroups.1++model.visibleGroups.2.1 ++
 model.visibleGroups.2.2).Perm model.visibleIndices:=by
 rw [List.append_assoc]
 exact ((List.filter_append_perm _ _).append_left _).trans (List.filter_append_perm _ _)

lemma pairwise_runs (related : ℕ → ℕ → Prop) {directories previews others : List ℕ}
 (hdirectories:∀index∈directories,rank model index=0)
 (hpreviews:∀index∈previews,rank model index=1)
 (hothers:∀index∈others,rank model index=2)
 (hfirst:directories.Pairwise related) (hsecond:previews.Pairwise related)
 (hthird:others.Pairwise related):
 (directories++previews++others).Pairwise fun lhs rhs =>
  rank model lhs ≤ rank model rhs ∧ (rank model lhs=rank model rhs → related lhs rhs):=by
 have hrun:∀ {run : List ℕ} {group : ℕ},(∀index∈run,rank model index=group) →
   run.Pairwise related → run.Pairwise fun lhs rhs=>rank model lhs ≤ rank model rhs ∧
    (rank model lhs=rank model rhs → related lhs rhs):=by
  intro run group hgroup hpairs
  apply hpairs.imp_of_mem
  intro lhs rhs hlhs hrhs hrelated
  exact ⟨by rw [hgroup lhs hlhs,hgroup rhs hrhs],fun _=>hrelated⟩
 rw [List.pairwise_append,List.pairwise_append]
 refine ⟨⟨hrun hdirectories hfirst,hrun hpreviews hsecond,?_⟩,hrun hothers hthird,?_⟩
 · intro lhs hlhs rhs hrhs
   have:=hdirectories lhs hlhs
   have:=hpreviews rhs hrhs
   omega
 · intro lhs hlhs rhs hrhs
   have hrank:=hothers rhs hrhs
   have hlower:rank model lhs<2:=by
    obtain h | h:=List.mem_append.mp hlhs
    · rw [hdirectories lhs h]
      omega
    · rw [hpreviews lhs h]
      omega
   omega

lemma groups_ranks (model : DirectoryModel):
 (∀index∈model.visibleGroups.1,rank model index=0) ∧
  (∀index∈model.visibleGroups.2.1,rank model index=1) ∧
   ∀index∈model.visibleGroups.2.2,rank model index=2:=by
 rw [visibleGroups_eq]
 exact ⟨fun _ h=>of_decide_eq_true (List.mem_filter.mp h).2,
  fun _ h=>of_decide_eq_true (List.mem_filter.mp h).2,
  fun _ h=>of_decide_eq_true (List.mem_filter.mp h).2⟩

lemma arrival_run (h:InArrivalOrder model) (group : ℕ):
 (model.visibleIndices.filter fun index=>rank model index=group).Pairwise (· < ·):=by
 apply (h.filter _).imp_of_mem
 intro lhs rhs hlhs hrhs hrelated
 apply hrelated
 rw [of_decide_eq_true (List.mem_filter.mp hlhs).2,of_decide_eq_true (List.mem_filter.mp hrhs).2]

lemma partition_perm:
 model.partitionVisibleGroups.visibleIndices.Perm model.visibleIndices := visibleGroups_perm

lemma partition_grouped : Grouped model.partitionVisibleGroups:=by
 obtain ⟨hdirectories,hpreviews,hothers⟩:=groups_ranks model
 have hruns:=pairwise_runs (fun _ _=>True) hdirectories hpreviews hothers
  (List.pairwise_of_forall fun _ _=>trivial) (List.pairwise_of_forall fun _ _=>trivial)
  (List.pairwise_of_forall fun _ _=>trivial)
 exact hruns.imp fun h=>h.1

lemma partition_arrival (h:InArrivalOrder model):
 InArrivalOrder model.partitionVisibleGroups:=by
 obtain ⟨hdirectories,hpreviews,hothers⟩:=groups_ranks model
 have hruns:=pairwise_runs (· < ·) hdirectories hpreviews hothers
  (by rw [visibleGroups_eq]; exact arrival_run h 0)
  (by rw [visibleGroups_eq]; exact arrival_run h 1)
  (by rw [visibleGroups_eq]; exact arrival_run h 2)
 exact hruns.imp fun h=>h.2

lemma sort_perm : model.sortVisibleIndices.visibleIndices.Perm model.visibleIndices:=by
 refine List.Perm.trans ?_ visibleGroups_perm
 exact ((List.mergeSort_perm _ _).append (List.mergeSort_perm _ _)).append
  (List.mergeSort_perm _ _)

lemma sortRows_pairwise (indices : List ℕ) : (model.sortRows indices).Pairwise fun lhs rhs =>
 less model.sortField model.sortDirection (model.entryAt rhs) (model.entryAt lhs)=false:=by
 have hsorted:(model.sortRows indices).Pairwise fun lhs rhs=>(!less model.sortField
   model.sortDirection (model.entryAt rhs) (model.entryAt lhs))=true:=by
  apply List.pairwise_mergeSort
  · intro a b c hab hbc
    rw [Bool.not_eq_true'] at hab hbc ⊢
    exact not_less_trans hab hbc
  · intro a b
    rw [Bool.or_eq_true,Bool.not_eq_true',Bool.not_eq_true']
    by_cases h:less model.sortField model.sortDirection (model.entryAt b) (model.entryAt a)
    · exact .inr (less_asymm h)
    · exact .inl (Bool.eq_false_iff.mpr h)
 apply hsorted.imp
 intro lhs rhs h
 rwa [Bool.not_eq_true'] at h

lemma sort_runs : model.sortVisibleIndices.visibleIndices.Pairwise fun lhs rhs =>
 rank model lhs ≤ rank model rhs ∧ (rank model lhs=rank model rhs →
  less model.sortField model.sortDirection (model.entryAt rhs) (model.entryAt lhs)=false):=by
 obtain ⟨hdirectories,hpreviews,hothers⟩:=groups_ranks model
 apply pairwise_runs (fun lhs rhs=>less model.sortField model.sortDirection
  (model.entryAt rhs) (model.entryAt lhs)=false)
 · intro index h
   exact hdirectories index (List.mem_mergeSort.mp h)
 · intro index h
   exact hpreviews index (List.mem_mergeSort.mp h)
 · intro index h
   exact hothers index (List.mem_mergeSort.mp h)
 all_goals exact sortRows_pairwise _

lemma sort_sorted : Sorted model.sortVisibleIndices := sort_runs.imp fun h=>h.2

end Groups

section Steps
variable {model : DirectoryModel}

lemma shown_partition (h:Shown model) : Shown model.partitionVisibleGroups where
 rows:=partition_perm.trans h.rows
 directories:=h.directories.trans (partition_perm.countP_eq _).symm

lemma shown_sort (h:Shown model) : Shown model.sortVisibleIndices where
 rows:=sort_perm.trans h.rows
 directories:=h.directories.trans (sort_perm.countP_eq _).symm

lemma shown_collect : Shown model.collectVisible := ⟨.refl _,rfl⟩

lemma arrival_collect : InArrivalOrder model.collectVisible:=by
 have hrange:(matching model).Pairwise (· < ·):=List.pairwise_lt_range.filter _
 apply List.Pairwise.imp _ hrange
 intro lhs rhs h _
 exact h

lemma consistent_partition (h:Shown model) (harrival:InArrivalOrder model):
 Consistent model.partitionVisibleGroups:=
 ⟨shown_partition h,partition_grouped,fun _=>partition_arrival harrival⟩

lemma consistent_sort (h:Shown model) (hloading:model.loading=false):
 Consistent model.sortVisibleIndices:=
 ⟨shown_sort h,sort_runs.imp fun h=>h.1,fun h=>absurd h (by
  rw [show model.sortVisibleIndices.loading=model.loading from rfl,hloading]
  nofun)⟩

lemma consistent_rebuild : Consistent model.rebuildVisibleIndices:=by
 unfold rebuildVisibleIndices
 dsimp only
 split
 · exact consistent_partition shown_collect arrival_collect
 · exact consistent_sort shown_collect (Bool.eq_false_iff.mpr ‹_›)

end Steps

section Append
variable {model : DirectoryModel} {entry : DirectoryEntry}

/-- The model with one more entry, of which the view knows nothing yet. -/
def withEntry (model : DirectoryModel) (entry : DirectoryEntry) : DirectoryModel:=
 { model with entries:=model.entries++[entry] }

lemma entryAt_old (h:index < model.entries.length):
 (withEntry model entry).entryAt index=model.entryAt index:=
 List.getD_append _ _ _ _ h

lemma entryAt_new : (withEntry model entry).entryAt model.entries.length=entry:=by
 rw [entryAt,withEntry,List.getD_append_right _ _ _ _ (le_refl _),Nat.sub_self]
 rfl

lemma rank_old (h:index < model.entries.length):
 rank (withEntry model entry) index=rank model index:=by
 rw [rank,entryAt_old h,rank]

lemma matching_withEntry : matching (withEntry model entry)=
 matching model++if model.matchesFilter entry then [model.entries.length] else []:=by
 have hold:(List.range model.entries.length).filter (fun index =>
   (withEntry model entry).matchesFilter ((withEntry model entry).entryAt index))=
    matching model:=by
  apply List.filter_congr
  intro index h
  rw [entryAt_old (List.mem_range.mp h)]
  rfl
 have hlength:(withEntry model entry).entries.length=model.entries.length+1:=List.length_append
 rw [matching,hlength,List.range_succ,List.filter_append,hold,List.filter_singleton,
  entryAt_new,Bool.cond_eq_ite]
 rfl

lemma visible_lt (h:Shown model) {index : ℕ} (hindex:index∈model.visibleIndices):
 index < model.entries.length:=
 (mem_matching.mp (h.rows.mem_iff.mp hindex)).1

lemma arrival_withEntry (hshown:Shown model) (h:InArrivalOrder model):
 InArrivalOrder (withEntry model entry):=by
 apply List.Pairwise.imp_of_mem _ h
 intro lhs rhs hlhs hrhs hrelated
 rwa [rank_old (visible_lt hshown hlhs),rank_old (visible_lt hshown hrhs)]

lemma grouped_withEntry (hshown:Shown model) (h:Grouped model):
 Grouped (withEntry model entry):=by
 apply List.Pairwise.imp_of_mem _ h
 intro lhs rhs hlhs hrhs hrelated
 rwa [rank_old (visible_lt hshown hlhs),rank_old (visible_lt hshown hrhs)]

lemma directories_withEntry (h:Shown model) : model.visibleDirectories=
 model.visibleIndices.countP (directory (withEntry model entry)):=by
 rw [h.directories]
 apply List.countP_congr
 intro index hindex
 rw [directory,directory,entryAt_old (visible_lt h hindex)]

lemma shown_withEntry (h:Shown model) (hfilter:model.matchesFilter entry=false):
  Shown (withEntry model entry) where
 rows:=by
  rw [matching_withEntry,if_neg (by rw [hfilter]; nofun),List.append_nil]
  exact h.rows
 directories:=directories_withEntry h

/-- The model after an entry that the view shows. -/
def withRow (model : DirectoryModel) (entry : DirectoryEntry) : DirectoryModel:=
 { withEntry model entry with
   visibleIndices:=model.visibleIndices++[model.entries.length]
   visibleDirectories:=model.visibleDirectories+if entry.kind = .directory then 1 else 0 }

lemma shown_withRow (h:Shown model) (hfilter:model.matchesFilter entry=true):
  Shown (withRow model entry) where
 rows:=by
  have hrows:matching (withEntry model entry)=_:=matching_withEntry
  rw [if_pos hfilter] at hrows
  exact (h.rows.append_right _).trans (List.Perm.of_eq hrows.symm)
 directories:=by
  have hnew:directory (withRow model entry) model.entries.length=
    decide (entry.kind=.directory):=by
   rw [directory]
   exact congrArg (fun e : DirectoryEntry=>decide (e.kind=.directory)) entryAt_new
  have hold:_=model.visibleIndices.countP (directory (withEntry model entry)):=
   directories_withEntry h
  change model.visibleDirectories+_=(model.visibleIndices++_).countP _
  rw [List.countP_append,List.countP_singleton,hnew,hold]
  congr 1
  simp only [decide_eq_true_eq]

lemma pairwise_withRow {related : ℕ → ℕ → Prop} (h:model.visibleIndices.Pairwise related)
 (hnew:∀index∈model.visibleIndices,related index model.entries.length):
 (withRow model entry).visibleIndices.Pairwise related:=by
 apply List.pairwise_append.mpr
 refine ⟨h,List.pairwise_singleton _ _,?_⟩
 intro index hindex last hlast
 rw [List.mem_singleton.mp hlast]
 exact hnew index hindex

lemma rank_new : rank (withEntry model entry) model.entries.length=
 (catalogGroup entry).number:=by
 rw [rank,entryAt_new]

lemma arrival_withRow (hshown:Shown model) (h:InArrivalOrder model):
 InArrivalOrder (withRow model entry):=by
 have hold:model.visibleIndices.Pairwise fun lhs rhs =>
   rank (withEntry model entry) lhs=rank (withEntry model entry) rhs → lhs < rhs:=
  arrival_withEntry hshown h
 apply pairwise_withRow hold
 intro index hindex _
 exact visible_lt hshown hindex

lemma grouped_withRow (hshown:Shown model) (h:Grouped model)
 (hlast:∀index∈model.visibleIndices,rank model index≤(catalogGroup entry).number):
 Grouped (withRow model entry):=by
 have hold:model.visibleIndices.Pairwise fun lhs rhs =>
   rank (withEntry model entry) lhs ≤ rank (withEntry model entry) rhs:=
  grouped_withEntry hshown h
 apply pairwise_withRow hold
 intro index hindex
 rw [rank_old (visible_lt hshown hindex),rank_new]
 exact hlast index hindex

lemma ranks_withRow (hshown:Shown model)
 (hlast:∀index∈model.visibleIndices,rank model index≤(catalogGroup entry).number):
 ∀index∈(withRow model entry).visibleIndices,
  rank (withRow model entry) index≤(catalogGroup entry).number:=by
 intro index hindex
 change rank (withEntry model entry) index≤_
 obtain hold | hnew:=List.mem_append.mp hindex
 · rw [rank_old (visible_lt hshown hold)]
   exact hlast index hold
 · rw [List.mem_singleton.mp hnew,rank_new]

/-- What the loop of `append_batch` keeps: the rows are in arrival order, and grouped unless the
flag asks for a regroup. -/
structure Appended (loop : AppendLoop) : Prop where
 shown : Shown loop.model
 arrival : InArrivalOrder loop.model
 grouped : loop.regroup=false → Grouped loop.model ∧
  ∀index∈loop.model.visibleIndices,rank loop.model index≤loop.lastGroup.number

lemma appendEntry_eq (loop : AppendLoop) (entry : DirectoryEntry) : appendEntry loop entry=
 if visibleInPreviewCatalog entry then
  if loop.model.matchesFilter entry then
   ⟨withRow loop.model entry,catalogGroup entry,
    loop.regroup || (catalogGroup entry).number<loop.lastGroup.number⟩
  else { loop with model:=withEntry loop.model entry }
 else loop:=by
 have hlast:(loop.model.entries++[entry]).length - 1=loop.model.entries.length:=by
  rw [List.length_append,List.length_singleton,Nat.add_sub_cancel]
 unfold appendEntry
 dsimp only
 rw [hlast]
 rfl

lemma appendEntry_appended {loop : AppendLoop} (h:Appended loop) (entry : DirectoryEntry):
 Appended (appendEntry loop entry):=by
 rw [appendEntry_eq]
 by_cases hvisible:visibleInPreviewCatalog entry=true
 · rw [if_pos hvisible]
   by_cases hfilter:loop.model.matchesFilter entry=true
   · rw [if_pos hfilter]
     refine ⟨shown_withRow h.shown hfilter,arrival_withRow h.shown h.arrival,?_⟩
     intro hregroup
     obtain ⟨hbefore,hnumber⟩:=Bool.or_eq_false_iff.mp hregroup
     obtain ⟨hgrouped,hlast⟩:=h.grouped hbefore
     have hranks:∀index∈loop.model.visibleIndices,
       rank loop.model index≤(catalogGroup entry).number:=by
      intro index hindex
      exact (hlast index hindex).trans (not_lt.mp (of_decide_eq_false hnumber))
     exact ⟨grouped_withRow h.shown hgrouped hranks,ranks_withRow h.shown hranks⟩
   · rw [if_neg hfilter]
     refine ⟨shown_withEntry h.shown (Bool.eq_false_iff.mpr hfilter),
      arrival_withEntry h.shown h.arrival,?_⟩
     intro hregroup
     obtain ⟨hgrouped,hlast⟩:=h.grouped hregroup
     refine ⟨grouped_withEntry h.shown hgrouped,?_⟩
     intro index hindex
     have:=hlast index hindex
     rwa [←rank_old (visible_lt h.shown hindex)] at this
 · rw [if_neg hvisible]
   exact h

lemma appendLoop_appended (entries : List DirectoryEntry) (loop : AppendLoop)
 (h:Appended loop) : Appended (entries.foldl appendEntry loop):=by
 induction entries generalizing loop with
 | nil=>exact h
 | cons entry rest ih=>exact ih _ (appendEntry_appended h entry)

lemma lastGroup_ranks (h:Grouped model):
 ∀index∈model.visibleIndices,rank model index ≤ model.lastGroup.number:=by
 intro index hindex
 unfold lastGroup
 cases hlast:model.visibleIndices.getLast? with
 | none=>
  rw [List.getLast?_eq_none_iff.mp hlast] at hindex
  exact absurd hindex List.not_mem_nil
 | some last=>
  obtain ⟨rows,hrows⟩:=List.getLast?_eq_some_iff.mp hlast
  unfold Grouped at h
  rw [hrows] at h hindex
  obtain hold | hnew:=List.mem_append.mp hindex
  · exact (List.pairwise_append.mp h).2.2 index hold last (List.mem_singleton_self _)
  · rw [List.mem_singleton.mp hnew]
    exact le_refl _

lemma consistent_append (h:Consistent model) (generation : UInt64)
 (entries : List DirectoryEntry) : Consistent (model.appendBatch generation entries).2:=by
 unfold appendBatch
 split
 · exact h
 · rename_i haccepted
   have hloading:model.loading=true:=by
    by_contra hnot
    exact haccepted (.inl (Bool.eq_false_iff.mpr hnot))
   have hloop:=appendLoop_appended entries ⟨model,model.lastGroup,false⟩
    ⟨h.shown,h.arrival hloading,fun _=>⟨h.grouped,lastGroup_ranks h.grouped⟩⟩
   dsimp only
   split
   · exact consistent_partition hloop.shown hloop.arrival
   · rename_i hregroup
     exact ⟨hloop.shown,(hloop.grouped (Bool.eq_false_iff.mpr hregroup)).1,
      fun _=>hloop.arrival⟩

end Append

section Run
variable {model : DirectoryModel}

lemma consistent_begin : Consistent model.beginGeneration := ⟨⟨.nil,rfl⟩,.nil,fun _=>.nil⟩

lemma consistent_settings (h:Consistent model) (field : SortField) (d : SortDirection):
 Consistent { model with sortField:=field,sortDirection:=d }:=
 ⟨⟨h.shown.rows,h.shown.directories⟩,h.grouped,h.arrival⟩

lemma consistent_apply (h:Consistent model) (call : Call) : Consistent (call.apply model):=by
 cases call with
 | beginGeneration=>exact consistent_begin
 | appendBatch generation entries=>exact consistent_append h generation entries
 | replaceGeneration generation entries=>
  simp only [Call.apply,replaceGeneration]
  split
  · exact h
  · exact consistent_partition shown_collect arrival_collect
 | finishGeneration generation=>
  simp only [Call.apply,finishGeneration]
  split
  · exact h
  · exact consistent_sort ⟨h.shown.rows,h.shown.directories⟩ rfl
 | abortGeneration generation=>
  simp only [Call.apply,abortGeneration]
  split
  · exact h
  · exact ⟨⟨h.shown.rows,h.shown.directories⟩,h.grouped,nofun⟩
 | setFilterKey key=>
  simp only [Call.apply,setFilterKey]
  split
  · exact h
  · exact consistent_rebuild
 | setFilterCase filterCase=>
  simp only [Call.apply,setFilterCase]
  split
  · exact h
  · exact consistent_rebuild
 | setSort field d=>
  have hset:=consistent_settings h field d
  simp only [Call.apply,setSort]
  split
  · exact h
  · split
    · exact hset
    · exact consistent_sort hset.shown (Bool.eq_false_iff.mpr ‹_›)
 | setSortDirection d=>
  have hset:=consistent_settings h model.sortField d
  simp only [Call.apply,setSortDirection]
  split
  · exact h
  · split
    · exact hset
    · exact consistent_sort hset.shown (Bool.eq_false_iff.mpr ‹_›)

variable (calls : List Call)

lemma run_consistent : Consistent (run calls):=by
 induction calls using List.reverseRecOn with
 | nil=>exact ⟨⟨.nil,rfl⟩,.nil,nofun⟩
 | append_singleton calls call ih=>
  rw [run,List.foldl_append]
  exact consistent_apply ih call

/-- A listing that ended: the last accepted end of it is a finish, with no new one after. -/
def Finished : Prop:=
 ∃ before generation after,calls = before++Call.finishGeneration generation::after ∧
  ((run before).finishGeneration generation).1 = true ∧ Call.beginGeneration ∉ after

/-- The listing is over and the rows are sorted. -/
def Over (model : DirectoryModel) : Prop := model.loading = false ∧ Sorted model

lemma over_sort (h:model.loading=false) : Over model.sortVisibleIndices := ⟨h,sort_sorted⟩

lemma over_rebuild (h:model.loading=false) : Over model.rebuildVisibleIndices:=by
 have hcollected:model.collectVisible.loading=false:=h
 rw [rebuildVisibleIndices,if_neg (by rw [hcollected]; nofun)]
 exact over_sort hcollected

example : Finished [.beginGeneration,.finishGeneration 1]:=
 ⟨[.beginGeneration],1,[],rfl,rfl,List.not_mem_nil⟩

lemma over_apply (h:Over model) (call : Call) (hcall:call≠.beginGeneration):
 Over (call.apply model):=by
 have hended:∀generation : UInt64,model.loading=false ∨ generation≠model.generation:=
  fun _=>.inl h.1
 have hloading:¬model.loading=true:=by rw [h.1]; nofun
 cases call with
 | beginGeneration=>exact absurd rfl hcall
 | appendBatch generation entries=>
  rw [Call.apply,appendBatch,if_pos (hended generation)]
  exact h
 | replaceGeneration generation entries=>
  rw [Call.apply,replaceGeneration,if_pos (hended generation)]
  exact h
 | finishGeneration generation=>
  rw [Call.apply,finishGeneration,if_pos (hended generation)]
  exact h
 | abortGeneration generation=>
  rw [Call.apply,abortGeneration,if_pos (hended generation)]
  exact h
 | setFilterKey key=>
  rw [Call.apply,setFilterKey]
  split
  · exact h
  · exact over_rebuild h.1
 | setFilterCase filterCase=>
  rw [Call.apply,setFilterCase]
  split
  · exact h
  · exact over_rebuild h.1
 | setSort field d=>
  rw [Call.apply,setSort]
  split
  · exact h
  · rw [if_neg hloading]
    exact over_sort h.1
 | setSortDirection d=>
  rw [Call.apply,setSortDirection]
  split
  · exact h
  · rw [if_neg hloading]
    exact over_sort h.1

lemma finish_over {generation : UInt64} (h:(model.finishGeneration generation).1=true):
 Over (model.finishGeneration generation).2:=by
 unfold finishGeneration at h ⊢
 split at h
 · exact absurd h nofun
 · rw [if_neg ‹_›]
   exact over_sort rfl

lemma over_calls (hcalls:Call.beginGeneration∉calls) (h:Over model):
 Over (calls.foldl Call.apply model):=by
 induction calls generalizing model with
 | nil=>exact h
 | cons call rest ih=>
  rw [List.mem_cons,not_or] at hcalls
  exact ih hcalls.2 (over_apply h call (Ne.symm hcalls.1))

lemma finished_over {calls : List Call} (h:Finished calls) : Over (run calls):=by
 obtain ⟨before,generation,after,rfl,haccepted,hafter⟩:=h
 rw [run,List.foldl_append,List.foldl_cons]
 exact over_calls after hafter (finish_over haccepted)

end Run

section History
variable {model other : DirectoryModel}

/-- The entries in the order of the view. -/
def rows (model : DirectoryModel) : List DirectoryEntry := model.visibleIndices.map model.entryAt

def DistinctIds (model : DirectoryModel) : Prop := (model.entries.map DirectoryEntry.id).Nodup

/-- The order of the view: by group, and by the comparator within a group. -/
def Before (field : SortField) (direction : SortDirection) (lhs rhs : DirectoryEntry) : Prop:=
 (catalogGroup lhs).number < (catalogGroup rhs).number ∨
  (catalogGroup lhs).number = (catalogGroup rhs).number ∧ less field direction lhs rhs = true

lemma before_asymm (h:Before field d lhs rhs) : ¬Before field d rhs lhs:=by
 intro hback
 obtain hgroup | ⟨hgroup,hless⟩:=h
 · obtain hother | ⟨hother,-⟩:=hback<;>omega
 · obtain hother | ⟨hother,hmore⟩:=hback
   · omega
   · rw [less_asymm hless] at hmore
     exact absurd hmore nofun

lemma before_total (field : SortField) (d : SortDirection) (h:lhs.id≠rhs.id):
 Before field d lhs rhs ∨ Before field d rhs lhs:=by
 obtain hgroup | hgroup | hgroup:=lt_trichotomy (catalogGroup lhs).number (catalogGroup rhs).number
 · exact .inl (.inl hgroup)
 · exact (less_total h).imp (fun hless=>.inr ⟨hgroup,hless⟩)
    (fun hless=>.inr ⟨hgroup.symm,hless⟩)
 · exact .inr (.inl hgroup)

lemma entryAt_mem (h:index < model.entries.length):
 model.entryAt index=model.entries[index] := List.getD_eq_getElem _ _ h

lemma ids_ne (hids:DistinctIds model) {lhs rhs : ℕ} (hlhs:lhs < model.entries.length)
 (hrhs:rhs < model.entries.length) (h:lhs≠rhs):
 (model.entryAt lhs).id≠(model.entryAt rhs).id:=by
 intro hid
 rw [entryAt_mem hlhs,entryAt_mem hrhs] at hid
 apply h
 have hmap:(model.entries.map DirectoryEntry.id)[lhs]? =
   (model.entries.map DirectoryEntry.id)[rhs]?:=by
  rw [List.getElem?_map,List.getElem?_map,List.getElem?_eq_getElem hlhs,
   List.getElem?_eq_getElem hrhs,Option.map_some,Option.map_some,hid]
 exact (List.getElem?_inj (by rwa [List.length_map]) hids).mp hmap

lemma rows_sorted (h:Consistent model) (hsorted:Sorted model) (hids:DistinctIds model):
 (rows model).Pairwise (Before model.sortField model.sortDirection):=by
 apply List.pairwise_map.mpr
 have hnodup:model.visibleIndices.Nodup:=h.shown.rows.nodup_iff.mpr matching_nodup
 apply ((h.grouped.and hsorted).and hnodup).imp_of_mem
 intro lhs rhs hlhs hrhs hpair
 obtain ⟨⟨hgroup,hrelated⟩,hne⟩:=hpair
 have hids:=ids_ne hids (visible_lt h.shown hlhs) (visible_lt h.shown hrhs) hne
 obtain hbefore | hlt | ⟨heq,hless⟩:=before_total model.sortField model.sortDirection hids
 · exact hbefore
 · exact absurd hgroup (not_le.mpr hlt)
 · rw [hrelated heq.symm] at hless
   exact absurd hless nofun

lemma rows_nodup {rows : List DirectoryEntry} (h:rows.Pairwise (Before field d)):
 rows.Nodup:=by
 apply h.imp
 rintro lhs rhs hbefore rfl
 exact before_asymm hbefore hbefore

lemma mem_rows (h:Shown model) {entry : DirectoryEntry}:
 entry∈rows model ↔ entry∈model.entries ∧ model.matchesFilter entry=true:=by
 rw [rows,List.mem_map]
 constructor
 · intro hrow
   obtain ⟨index,hindex,rfl⟩:=hrow
   obtain ⟨hlt,hmatch⟩:=mem_matching.mp (h.rows.mem_iff.mp hindex)
   exact ⟨entryAt_mem hlt ▸ List.getElem_mem hlt,hmatch⟩
 · intro hentry
   obtain ⟨index,hlt,rfl⟩:=List.mem_iff_getElem.mp hentry.1
   refine ⟨index,h.rows.mem_iff.mpr (mem_matching.mpr ⟨hlt,?_⟩),entryAt_mem hlt⟩
   rw [entryAt_mem hlt]
   exact hentry.2

end History

structure ShowsRightRows (calls : List Call) : Prop where
 nodup : (run calls).visibleIndices.Nodup
 rows : ∀index,index∈(run calls).visibleIndices ↔ index<(run calls).entries.length ∧
  (run calls).matchesFilter ((run calls).entryAt index)=true
 directories : (run calls).visibleDirectories=(run calls).visibleIndices.countP fun index =>
  ((run calls).entryAt index).kind=.directory
 grouped : Grouped (run calls)
 arrival : (run calls).loading=true → InArrivalOrder (run calls)
 sorted : Finished calls → DistinctIds (run calls) → (CatalogHistory.rows (run calls)).Pairwise
   (Before (run calls).sortField (run calls).sortDirection)
 history : ∀others,Finished calls → Finished others → DistinctIds (run calls) →
  DistinctIds (run others) →
  (∀entry,entry∈(run calls).entries ↔ entry∈(run others).entries) →
  (run calls).filterKeyUtf8=(run others).filterKeyUtf8 →
  (run calls).filterCase=(run others).filterCase →
  (run calls).sortField=(run others).sortField →
  (run calls).sortDirection=(run others).sortDirection →
  CatalogHistory.rows (run calls)=CatalogHistory.rows (run others)

/-- The view shows the matching entries, grouped, and once a listing is finished its rows depend
on the entries and the settings alone. -/
theorem directory_model_exact (calls : List Call) : ShowsRightRows calls:=by
 have hrun:=run_consistent calls
 constructor
 · exact hrun.shown.rows.nodup_iff.mpr matching_nodup
 · intro index
   rw [hrun.shown.rows.mem_iff,mem_matching]
 · exact hrun.shown.directories
 · exact hrun.grouped
 · exact hrun.arrival
 · intro hfinished hids
   exact rows_sorted hrun (finished_over hfinished).2 hids
 · intro others hfinished hother hids hotherIds hentries hkey hcase hfield hdirection
   have hothers:=run_consistent others
   have hrows:=rows_sorted hrun (finished_over hfinished).2 hids
   have hotherRows:=rows_sorted hothers (finished_over hother).2 hotherIds
   rw [←hfield,←hdirection] at hotherRows
   apply List.Perm.eq_of_pairwise _ hrows hotherRows
   · rw [List.perm_ext_iff_of_nodup (rows_nodup hrows) (rows_nodup hotherRows)]
     intro entry
     rw [mem_rows hrun.shown,mem_rows hothers.shown,hentries,matchesFilter,matchesFilter,
      hkey,hcase]
   · intro lhs rhs _ _ h hback
     exact absurd hback (before_asymm h)

end VoVe.CatalogHistory
