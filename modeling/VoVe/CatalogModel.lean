import Mathlib.Data.List.Infix
import Mathlib.Data.List.Nodup
import Mathlib.Data.List.Perm.Basic
import VoVe.CatalogOrder

set_option autoImplicit false

/-! The directory model of `directory_model.cpp`: what the view shows while a folder is listed,
filtered and sorted. -/

namespace VoVe.CatalogModel
open ByteCodec CatalogOrder

inductive FilterCase where
 | insensitive
 | sensitive
 deriving DecidableEq

structure DirectoryModel where
 generation : UInt64 := 0
 loading : Bool := false
 sortField : SortField := .name
 sortDirection : SortDirection := .ascending
 filterKeyUtf8 : Bytes := []
 filterCase : FilterCase := .insensitive
 entries : List DirectoryEntry := []
 visibleIndices : List ℕ := []
 visibleDirectories : ℕ := 0

namespace DirectoryModel
variable (model : DirectoryModel)

/-- The entry of a row; every index the model keeps is below the number of entries. -/
def entryAt (index : ℕ) : DirectoryEntry := model.entries.getD index {}

def matchesFilter (entry : DirectoryEntry) : Bool:=
 if model.filterKeyUtf8 = [] then true
 else if model.filterCase = .sensitive then model.filterKeyUtf8 <:+: entry.nameUtf8
 else model.filterKeyUtf8 <:+: entry.searchKeyUtf8

def beginGeneration : DirectoryModel:=
 { model with
   generation:=model.generation+1
   loading:=true
   entries:=[]
   visibleIndices:=[]
   visibleDirectories:=0 }

/-- The three runs `partition_visible_groups` leaves, each in the order it was in. -/
def visibleGroups : List ℕ × List ℕ × List ℕ:=
 let directory:=fun index=>decide ((model.entryAt index).kind = .directory)
 let preview:=fun index=>decide (catalogGroup (model.entryAt index) = .preview)
 let files:=model.visibleIndices.filter fun index=>!directory index
 (model.visibleIndices.filter directory,files.filter preview,
  files.filter fun index=>!preview index)

def partitionVisibleGroups : DirectoryModel:=
 let (directories,previews,others) := model.visibleGroups
 { model with visibleIndices:=directories++previews++others }

def sortRows (indices : List ℕ) : List ℕ:=
 indices.mergeSort fun lhs rhs =>
  !less model.sortField model.sortDirection (model.entryAt rhs) (model.entryAt lhs)

def sortVisibleIndices : DirectoryModel:=
 let (directories,previews,others) := model.visibleGroups
 { model with
   visibleIndices:=model.sortRows directories++model.sortRows previews++model.sortRows others }

/-- The loop over all entries that `replace_generation` and `rebuild_visible_indices` share. -/
def collectVisible : DirectoryModel:=
 let indices:=
  (List.range model.entries.length).filter fun index=>model.matchesFilter (model.entryAt index)
 { model with
   visibleIndices:=indices
   visibleDirectories:=indices.countP fun index=>(model.entryAt index).kind = .directory }

def rebuildVisibleIndices : DirectoryModel:=
 let collected:=model.collectVisible
 if collected.loading then collected.partitionVisibleGroups else collected.sortVisibleIndices

/-- The group of the last visible row, with which an append starts. -/
def lastGroup : CatalogGroup:=
 match model.visibleIndices.getLast? with
 | none=>.directory
 | some index=>catalogGroup (model.entryAt index)

/-- An entry of a batch that the view would show. -/
def matchesView (entry : DirectoryEntry) : Bool:=
 visibleInPreviewCatalog entry && model.matchesFilter entry

variable (entries : List DirectoryEntry)

def matchingCount : ℕ := entries.countP model.matchesView

def appendReordersVisibleRows : Bool:=
 match model.visibleIndices.getLast? with
 | none=>false
 | some last=>entries.any fun entry =>
  model.matchesView entry &&
   (catalogGroup entry).number < (catalogGroup (model.entryAt last)).number

structure AppendLoop where
 model : DirectoryModel
 lastGroup : CatalogGroup
 regroup : Bool

def appendEntry (loop : AppendLoop) (entry : DirectoryEntry) : AppendLoop:=
 if visibleInPreviewCatalog entry then
  let model:={ loop.model with entries:=loop.model.entries++[entry] }
  if model.matchesFilter entry then
   let group:=catalogGroup entry
   { model:=
      { model with
        visibleIndices:=model.visibleIndices++[model.entries.length - 1]
        visibleDirectories:=model.visibleDirectories+if entry.kind = .directory then 1 else 0 }
     lastGroup:=group
     regroup:=loop.regroup || group.number < loop.lastGroup.number }
  else { loop with model:=model }
 else loop

variable (generation : UInt64)

def appendBatch (entries : List DirectoryEntry) : Bool × DirectoryModel:=
 if model.loading = false ∨ generation≠model.generation then (false,model)
 else
  let loop:=entries.foldl appendEntry ⟨model,model.lastGroup,false⟩
  (true,if loop.regroup then loop.model.partitionVisibleGroups else loop.model)

def replaceGeneration (entries : List DirectoryEntry) : Bool × DirectoryModel:=
 if model.loading = false ∨ generation≠model.generation then (false,model)
 else
  let replaced:={ model with entries:=entries.filter visibleInPreviewCatalog }
  (true,replaced.collectVisible.partitionVisibleGroups)

def finishGeneration : Bool × DirectoryModel:=
 if model.loading = false ∨ generation≠model.generation then (false,model)
 else (true,{ model with loading:=false }.sortVisibleIndices)

def abortGeneration : Bool × DirectoryModel:=
 if model.loading = false ∨ generation≠model.generation then (false,model)
 else (true,{ model with loading:=false })

def setFilterKey (filterKeyUtf8 : Bytes) : DirectoryModel:=
 if model.filterKeyUtf8 = filterKeyUtf8 then model
 else { model with filterKeyUtf8:=filterKeyUtf8 }.rebuildVisibleIndices

def setFilterCase (filterCase : FilterCase) : DirectoryModel:=
 if model.filterCase = filterCase then model
 else { model with filterCase:=filterCase }.rebuildVisibleIndices

def setSort (field : SortField) (direction : SortDirection) : DirectoryModel:=
 if model.sortField = field ∧ model.sortDirection = direction then model
 else
  let changed:={ model with sortField:=field,sortDirection:=direction }
  if changed.loading then changed else changed.sortVisibleIndices

def setSortDirection (direction : SortDirection) : DirectoryModel:=
 if model.sortDirection = direction then model
 else
  let changed:={ model with sortDirection:=direction }
  if changed.loading then changed else changed.sortVisibleIndices

end DirectoryModel

inductive Call where
 | beginGeneration
 | appendBatch (generation : UInt64) (entries : List DirectoryEntry)
 | replaceGeneration (generation : UInt64) (entries : List DirectoryEntry)
 | finishGeneration (generation : UInt64)
 | abortGeneration (generation : UInt64)
 | setFilterKey (filterKeyUtf8 : Bytes)
 | setFilterCase (filterCase : FilterCase)
 | setSort (field : SortField) (direction : SortDirection)
 | setSortDirection (direction : SortDirection)

def Call.apply (model : DirectoryModel) : Call → DirectoryModel
 | .beginGeneration=>model.beginGeneration
 | .appendBatch generation entries=>(model.appendBatch generation entries).2
 | .replaceGeneration generation entries=>(model.replaceGeneration generation entries).2
 | .finishGeneration generation=>(model.finishGeneration generation).2
 | .abortGeneration generation=>(model.abortGeneration generation).2
 | .setFilterKey key=>model.setFilterKey key
 | .setFilterCase filterCase=>model.setFilterCase filterCase
 | .setSort field direction=>model.setSort field direction
 | .setSortDirection direction=>model.setSortDirection direction

def run (calls : List Call) : DirectoryModel := calls.foldl Call.apply {}

end VoVe.CatalogModel
