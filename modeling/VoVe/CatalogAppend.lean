import Mathlib.Data.List.Sort
import VoVe.CatalogHistory

set_option autoImplicit false

namespace VoVe.CatalogAppend
open CatalogOrder CatalogModel CatalogModel.DirectoryModel CatalogHistory

section Loop
variable {m model : DirectoryModel} {entries : List DirectoryEntry} {loop : AppendLoop}

/-- The model after some entries of a batch: `rows` are those the view has got. -/
structure Grown (model : DirectoryModel) (entries : List DirectoryEntry) (rows : List ℕ)
  (grown : DirectoryModel) : Prop where
 filterKey : grown.filterKeyUtf8=model.filterKeyUtf8
 filterCase : grown.filterCase=model.filterCase
 loading : grown.loading=model.loading
 kept : model.entries <+: grown.entries
 visible : grown.visibleIndices=model.visibleIndices++rows
 groups : rows.map (rank grown)=
  (entries.filter model.matchesView).map fun entry=>(catalogGroup entry).number
 fresh : ∀index∈rows,model.entries.length ≤ index ∧ index<grown.entries.length

lemma Grown.matchesFilter {rows : List ℕ} {grown : DirectoryModel}
 (h:Grown m entries rows grown) (entry : DirectoryEntry):
 grown.matchesFilter entry=m.matchesFilter entry:=by
 rw [DirectoryModel.matchesFilter,h.filterKey,h.filterCase,DirectoryModel.matchesFilter]

lemma ranks_withEntry {rows : List ℕ} {grown : DirectoryModel} (entry : DirectoryEntry)
 (h:∀index∈rows,index<grown.entries.length):
 rows.map (rank (withEntry grown entry))=rows.map (rank grown):=
 List.map_congr_left fun index hindex=>rank_old (h index hindex)

lemma grown_entry {rows : List ℕ} {entry : DirectoryEntry}
 (h:Grown m entries rows loop.model) : ∃ rows',
 Grown m (entries++[entry]) rows' (appendEntry loop entry).model:=by
 have hinside:=fun index hindex=>(h.fresh index hindex).2
 have hranks:=ranks_withEntry entry hinside
 have hprefix:m.entries <+: loop.model.entries++[entry]:=h.kept.trans (List.prefix_append _ _)
 have hlonger:∀index∈rows,m.entries.length ≤ index ∧
   index<(loop.model.entries++[entry]).length:=by
  intro index hindex
  have hfresh:=h.fresh index hindex
  rw [List.length_append,List.length_singleton]
  omega
 rw [appendEntry_eq]
 by_cases hvisible:visibleInPreviewCatalog entry=true
 · rw [if_pos hvisible]
   by_cases hfilter:loop.model.matchesFilter entry=true
   · rw [if_pos hfilter]
     have hview:m.matchesView entry=true:=by
      rw [matchesView,hvisible,←h.matchesFilter,hfilter]
      rfl
     refine ⟨rows++[loop.model.entries.length],h.filterKey,h.filterCase,h.loading,
      hprefix,?_,?_,?_⟩
     · change loop.model.visibleIndices++[loop.model.entries.length]=_
       rw [h.visible,List.append_assoc]
     · change (rows++[loop.model.entries.length]).map (rank (withEntry loop.model entry))=_
       rw [List.map_append,hranks,h.groups,List.map_singleton,rank_new,List.filter_append,
        List.filter_cons_of_pos hview,List.filter_nil,List.map_append,List.map_singleton]
     · intro index hindex
       obtain hold | hnew:=List.mem_append.mp hindex
       · exact hlonger index hold
       · rw [List.mem_singleton.mp hnew]
         change _ ∧ _<(loop.model.entries++[entry]).length
         rw [List.length_append,List.length_singleton]
         exact ⟨h.kept.length_le,Nat.lt_succ_self _⟩
   · rw [if_neg hfilter]
     have hview:¬m.matchesView entry=true:=by
      rw [matchesView,←h.matchesFilter,Bool.eq_false_iff.mpr hfilter,Bool.and_false]
      exact Bool.false_ne_true
     refine ⟨rows,h.filterKey,h.filterCase,h.loading, hprefix,h.visible,?_,hlonger⟩
     change rows.map (rank (withEntry loop.model entry))=_
     rw [hranks,h.groups,List.filter_append,List.filter_cons_of_neg hview,List.filter_nil,
      List.append_nil]
 · rw [if_neg hvisible]
   have hview:¬m.matchesView entry=true:=by
    rw [matchesView,Bool.eq_false_iff.mpr hvisible,Bool.false_and]
    exact Bool.false_ne_true
   refine ⟨rows,h.filterKey,h.filterCase,h.loading,h.kept,h.visible,?_,h.fresh⟩
   rw [h.groups,List.filter_append,List.filter_cons_of_neg hview,List.filter_nil, List.append_nil]

lemma grown_loop (m : DirectoryModel) (entries : List DirectoryEntry) : ∃ rows,
 Grown m entries rows
  (entries.foldl appendEntry ⟨m,m.lastGroup,false⟩).model:=by
 induction entries using List.reverseRecOn with
 | nil=>exact ⟨[],rfl,rfl,rfl,List.prefix_rfl,(List.append_nil _).symm,rfl,
   fun index hindex=>absurd hindex List.not_mem_nil⟩
 | append_singleton entries entry ih=>
  obtain ⟨rows,hrows⟩:=ih
  rw [List.foldl_append]
  exact grown_entry hrows

end Loop

section Rows
variable {m model grown : DirectoryModel} {entries : List DirectoryEntry} {rows : List ℕ}

lemma Grown.rank_old (h:Grown m entries rows grown) {index : ℕ}
 (hindex:index < m.entries.length) : rank grown index=rank m index:=by
 obtain ⟨more,hmore⟩:=h.kept
 rw [rank,rank,entryAt,entryAt,←hmore,List.getD_append _ _ _ _ hindex]

/-- The order of the rows while a folder is listed: by group, then by arrival. -/
def Before (model : DirectoryModel) (lhs rhs : ℕ) : Prop:=
 rank model lhs < rank model rhs ∨ rank model lhs = rank model rhs ∧ lhs ≤ rhs

lemma before_of_consistent (h:Consistent m) (hloading:m.loading=true):
 m.visibleIndices.Pairwise (Before m):=by
 refine (h.grouped.and (h.arrival hloading)).imp fun hboth=>?_
 obtain hlt | heq:=Nat.lt_or_eq_of_le hboth.1
 · exact .inl hlt
 · exact .inr ⟨heq,(hboth.2 heq).le⟩

lemma before_antisymm {lhs rhs : ℕ} (h:Before m lhs rhs) (hback:Before m rhs lhs):
 lhs=rhs:=by
 unfold Before at h hback
 omega

/-- A view in order has the old rows first where no new row belongs before one of them. -/
lemma prefix_of_ranks {sorted visible : List ℕ}
 (hsorted:sorted.Pairwise (Before grown)) (hvisible:visible.Pairwise (Before grown))
 (hperm:sorted.Perm (visible++rows))
 (hlater:∀old∈visible,∀new∈rows,old<new ∧ rank grown old ≤ rank grown new):
 ∃ rows',sorted=visible++rows' ∧ rows'.length=rows.length:=by
 have hnew:∀new∈rows,new∉visible:=fun new hnew hold =>
  lt_irrefl new (hlater new hold new hnew).1
 have hrows:(sorted.filter (·∉visible)).Perm rows:=by
  refine (hperm.filter _).trans (List.Perm.of_eq ?_)
  rw [List.filter_append,List.filter_eq_nil_iff.mpr (by simp),List.nil_append]
  exact List.filter_eq_self.mpr fun new hmem=>decide_eq_true (hnew new hmem)
 refine ⟨sorted.filter (·∉visible),?_,hrows.length_eq⟩
 refine List.Perm.eq_of_pairwise (fun _ _ _ _=>before_antisymm) hsorted ?_
  (hperm.trans (hrows.symm.append_left visible))
 refine List.pairwise_append.mpr ⟨hvisible,hsorted.filter _,fun old hold new hmem=>?_⟩
 have hboth:=hlater old hold new (hrows.mem_iff.mp hmem)
 obtain hlt | heq:=Nat.lt_or_eq_of_le hboth.2
 · exact .inl hlt
 · exact .inr ⟨heq,hboth.1.le⟩

def appended (model : DirectoryModel) (entries : List DirectoryEntry) : DirectoryModel:=
 (model.appendBatch model.generation entries).2

lemma appendBatch_current (hloading:m.loading=true) (entries : List DirectoryEntry):
 m.appendBatch m.generation entries=(true,appended m entries):=by
 have haccepted:¬(m.loading=false ∨ m.generation≠m.generation):=by
  rw [hloading]
  simp
 rw [appended,appendBatch,if_neg haccepted]

lemma appended_grown (hloading:m.loading=true) (entries : List DirectoryEntry):
 ∃ rows grown,Grown m entries rows grown ∧
  (appended m entries).visibleIndices.Perm (m.visibleIndices++rows) ∧
  (appended m entries).loading=true ∧ rank (appended m entries)=rank grown:=by
 obtain ⟨rows,hgrown⟩:=grown_loop m entries
 have haccepted:¬(m.loading=false ∨ m.generation≠m.generation):=by
  rw [hloading]
  simp
 refine ⟨rows,_,hgrown,?_⟩
 rw [appended,appendBatch,if_neg haccepted,←hgrown.visible]
 dsimp only
 split
 · exact ⟨partition_perm,hgrown.loading.trans hloading,rfl⟩
 · exact ⟨List.Perm.rfl,hgrown.loading.trans hloading,rfl⟩

lemma last_rank {last : ℕ} (h:Grouped m) (hlast:m.visibleIndices.getLast?=some last):
 ∀index∈m.visibleIndices,rank m index ≤ rank m last:=by
 have hranks:=lastGroup_ranks h
 simp only [lastGroup,hlast] at hranks
 exact hranks

lemma append_keeps (h:Consistent m) (hloading:m.loading=true)
 (hstays:m.appendReordersVisibleRows entries=false) : ∃ rows,
  (appended m entries).visibleIndices=m.visibleIndices++rows ∧
   rows.length=m.matchingCount entries:=by
 obtain ⟨rows,grown,hgrown,hperm,hafter,hrank⟩:=appended_grown hloading entries
 have hcount:rows.length=m.matchingCount entries:=by
  have hlength:=congrArg List.length hgrown.groups
  rwa [List.length_map,List.length_map,←List.countP_eq_length_filter] at hlength
 have hbefore (index : ℕ) (hindex:index∈m.visibleIndices):
   rank grown index=rank m index := hgrown.rank_old (visible_lt h.shown hindex)
 have hsorted:=before_of_consistent (consistent_append h m.generation entries) hafter
 have hvisible:m.visibleIndices.Pairwise (Before grown):=by
  refine (before_of_consistent h hloading).imp_of_mem fun hlhs hrhs horder=>?_
  rwa [Before,hbefore _ hlhs,hbefore _ hrhs]
 rw [←hcount]
 refine prefix_of_ranks (hsorted.imp fun horder=>?_) hvisible hperm ?_
 · rwa [Before,←hrank]
 · intro old hold new hnew
   have hinside:=visible_lt h.shown hold
   have hfresh:=(hgrown.fresh new hnew).1
   refine ⟨hinside.trans_le hfresh,?_⟩
   have hgroup:=List.mem_map_of_mem (f := rank grown) hnew
   rw [hgrown.groups] at hgroup
   obtain ⟨entry,hentry,heq⟩:=List.mem_map.mp hgroup
   obtain ⟨hmem,hview⟩:=List.mem_filter.mp hentry
   rw [←heq,hbefore old hold]
   unfold appendReordersVisibleRows at hstays
   cases hlast:m.visibleIndices.getLast? with
   | none=>
    rw [List.getLast?_eq_none_iff.mp hlast] at hold
    exact absurd hold List.not_mem_nil
   | some last=>
    rw [hlast] at hstays
    have hnone:=List.any_eq_false.mp hstays entry hmem
    simp only [hview,Bool.true_and,decide_eq_true_eq,not_lt] at hnone
    exact (last_rank h.grouped hlast old hold).trans hnone

lemma append_moves (h:Consistent m) (hloading:m.loading=true)
 (hmoves:m.appendReordersVisibleRows entries=true) : ∃ position row : ℕ,
  m.visibleIndices[position]?=some row ∧
   (appended m entries).visibleIndices[position]?≠some row:=by
 obtain ⟨rows,grown,hgrown,hperm,hafter,hrank⟩:=appended_grown hloading entries
 unfold appendReordersVisibleRows at hmoves
 cases hlast:m.visibleIndices.getLast? with
 | none=>
  rw [hlast] at hmoves
  cases hmoves
 | some last=>
  rw [hlast] at hmoves
  obtain ⟨entry,hmem,hentry⟩:=List.any_eq_true.mp hmoves
  simp only [Bool.and_eq_true,decide_eq_true_eq] at hentry
  obtain ⟨new,hnew,hgroup⟩ : ∃ new∈rows,rank grown new=(catalogGroup entry).number:=by
   have hgroup:(catalogGroup entry).number∈rows.map (rank grown):=by
    rw [hgrown.groups]
    exact List.mem_map_of_mem (List.mem_filter.mpr ⟨hmem,hentry.1⟩)
   exact List.mem_map.mp hgroup
  by_contra hkept
  simp only [not_exists,not_and,not_not] at hkept
  have hsize:m.visibleIndices.length - 1 < m.visibleIndices.length:=by
   have hne:m.visibleIndices≠[]:=by
    intro hnil
    rw [hnil] at hlast
    cases hlast
   have hpos:=List.length_pos_of_ne_nil hne
   omega
  rw [List.getLast?_eq_getElem?] at hlast
  have hplace:=hkept _ last hlast
  obtain ⟨place,hlt,heq⟩:=List.mem_iff_getElem.mp
   (hperm.mem_iff.mpr (List.mem_append_right m.visibleIndices hnew))
  obtain ⟨hlastLt,hlastEq⟩:=List.getElem?_eq_some_iff.mp hplace
  have hinside:last < m.entries.length:=visible_lt h.shown (List.mem_of_getElem? hlast)
  have hfresh:=(hgrown.fresh new hnew).1
  have hless:rank grown new < rank grown last:=by
   rw [hgroup,hgrown.rank_old hinside]
   exact hentry.2
  obtain hearly | hlate:=Nat.lt_or_ge place m.visibleIndices.length
  · -- the new row stands where an old row stood
    have hold:=hkept place _ (List.getElem?_eq_getElem hearly)
    rw [List.getElem?_eq_getElem hlt,heq] at hold
    have hlt':=visible_lt h.shown (List.getElem_mem hearly)
    rw [←Option.some.inj hold] at hlt'
    omega
  · -- the new row stands behind a row of a later group
    have hgrouped:Grouped (appended m entries):=(consistent_append h m.generation entries).grouped
    have horder:=List.pairwise_iff_getElem.mp hgrouped _ place hlastLt hlt (by omega)
    rw [hlastEq,heq,hrank] at horder
    omega

/-- While a folder is listed the prediction is right: without a reordering the rows shown stay
  and the matching entries follow them, and with one a row shown changes its place. -/
theorem append_prediction (calls : List Call) (entries : List DirectoryEntry)
 (hloading:(run calls).loading=true):
 (run calls).appendBatch (run calls).generation entries=(true,appended (run calls) entries) ∧
 ((run calls).appendReordersVisibleRows entries=false → ∃ rows,
  (appended (run calls) entries).visibleIndices=(run calls).visibleIndices++rows ∧
   rows.length=(run calls).matchingCount entries) ∧
 ((run calls).appendReordersVisibleRows entries=true → ∃ position row : ℕ,
  (run calls).visibleIndices[position]?=some row ∧
   (appended (run calls) entries).visibleIndices[position]?≠some row):=
 ⟨appendBatch_current hloading entries,append_keeps (run_consistent calls) hloading,
  append_moves (run_consistent calls) hloading⟩

/-- A picture, then a directory. -/
theorem append_prediction_picture:
 let shown : DirectoryEntry := { id:=1,nameUtf8:=AsciiText.utf8 "a.png" }
 let calls:=[Call.beginGeneration,.appendBatch 1 [shown]]
 (run calls).appendReordersVisibleRows [{ id:=2,kind:=.directory,nameUtf8:=[97] }]=
   true ∧ ∃ position row : ℕ,(run calls).visibleIndices[position]?=some row ∧
  (appended (run calls)
   [{ id:=2,kind:=.directory,nameUtf8:=[97] }]).visibleIndices[position]?≠some row:=
 ⟨by decide +kernel,(append_prediction _ _ (by decide +kernel)).2.2 (by decide +kernel)⟩

end Rows

end VoVe.CatalogAppend
