import VoVe.CatalogOrder
import VoVe.TrashRecord

set_option autoImplicit false

/-! The rows of `trash_controller.cpp`, and the operation that a row stands for. -/

namespace VoVe.TrashRows
open ByteCodec PosixPath TrashRecord CatalogOrder

inductive TrashCatalogStatus where
 | success
 | cancelled
 | ioError
 deriving DecidableEq

structure TrashManifestRecord where
 manifestPath : Path
 transaction : TrashTransaction

structure TrashCatalogResult where
 status : TrashCatalogStatus := .ioError
 manifests : List TrashManifestRecord := []

def entryId (operation : UInt64) (index : ℕ) : UInt64:=
 let value:=operation ^^^ ((0x9e3779b97f4a7c15 : UInt64)+UInt64.ofNat index +
  (operation <<< 6)+(operation >>> 2))
 if value = 0 then UInt64.ofNat index+1 else value

/-- An item that gets a row, where the loops of `apply` find it. -/
structure StoredItem where
 record : TrashManifestRecord
 index : ℕ
 item : TrashItem

def StoredItem.operation (row : StoredItem) : UInt64 := row.record.transaction.operationId

def StoredItem.id (row : StoredItem) : UInt64 := entryId row.operation row.index

def storedItems (result : TrashCatalogResult) : List StoredItem:=
 if result.status≠.success then []
 else result.manifests.flatMap fun record =>
  (record.transaction.items.zipIdx.filter fun (item,_) =>
   item.location = .stored && !item.current.isEmpty).map fun (item,index) =>
    ⟨record,index,item⟩

structure Rows where
 entries : List DirectoryEntry := []
 tooltips : UInt64 → Option Bytes := fun _=>none
 manifests : UInt64 → Option Path := fun _=>none

section Controller
variable (m makeSearchKey : Bytes → Bytes) (tooltip : TrashTransaction → TrashItem → Bytes)

def addRow (rows : Rows) (row : StoredItem) : Rows:=
 let item:=row.item
 let name:=if item.original.filename.isEmpty then item.current.filename
  else item.original.filename
 { entries:=rows.entries++[{
    id:=row.id
    kind:=if item.kind = .directory then .directory else .file
    state:=.metadataReady
    nameUtf8:=name.native
    searchKeyUtf8:=makeSearchKey name.native
    pathUtf8:=item.current.native
    sourceRevisionUtf8:=item.currentSnapshot.sourceRevisionUtf8
    sizeBytes:=item.payloadBytes
    modifiedUnixNs:=item.currentSnapshot.modifiedUnixNs }]
   tooltips:=Function.update rows.tooltips row.id
    (some (tooltip row.record.transaction item))
   manifests:=Function.update rows.manifests row.id (some row.record.manifestPath) }

variable (result : TrashCatalogResult)

def apply : Rows := (storedItems result).foldl (addRow makeSearchKey tooltip) {}

/-- The manifest that the menu over a row restores or deletes. -/
def showContextMenu (rows : Rows) (id : UInt64) : Option Path := rows.manifests id

def RowsIdentified : Prop:=
 ((apply makeSearchKey tooltip result).entries.map (·.id)).Nodup ∧
  ∀row ∈ storedItems result,showContextMenu (apply makeSearchKey tooltip result) row.id=
   some row.record.manifestPath

lemma entries_foldl (items : List StoredItem) (rows : Rows):
 (items.foldl (addRow m tooltip) rows).entries.map (·.id)=
  rows.entries.map (·.id)++items.map (·.id):=by
 induction items generalizing rows with
 | nil=>rw [List.foldl_nil,List.map_nil,List.append_nil]
 | cons row items ih=>
  rw [List.foldl_cons,ih]
  simp [addRow]

lemma apply_ids : (apply m tooltip result).entries.map (·.id)=
  (storedItems result).map (·.id):=
 entries_foldl m tooltip (storedItems result) {}

lemma manifests_other {id : UInt64} {items : List StoredItem} (h:id∉items.map (·.id))
 (rows : Rows):
 (items.foldl (addRow m tooltip) rows).manifests id=rows.manifests id:=by
 induction items generalizing rows with
 | nil=>rfl
 | cons row items ih=>
  rw [List.map_cons,List.mem_cons,not_or] at h
  rw [List.foldl_cons,ih h.2]
  exact Function.update_of_ne h.1 _ _

lemma manifests_own {items : List StoredItem} (h:(items.map (·.id)).Nodup) (rows : Rows):
 ∀row∈items,(items.foldl (addRow m tooltip) rows).manifests row.id=
  some row.record.manifestPath:=by
 induction items generalizing rows with
 | nil=>simp
 | cons first items ih=>
  rw [List.map_cons,List.nodup_cons] at h
  intro row hrow
  rw [List.foldl_cons]
  cases List.mem_cons.mp hrow with
  | inl hfirst=>
   rw [hfirst,manifests_other m tooltip h.1]
   exact Function.update_self _ _ _
  | inr hlater=>exact ih h.2 _ row hlater

lemma identified_iff_nodup:
 RowsIdentified m tooltip result ↔ ((storedItems result).map (·.id)).Nodup:=by
 rw [RowsIdentified,apply_ids]
 constructor
 · intro h
   exact h.1
 · intro h
   exact ⟨h,manifests_own m tooltip h {}⟩

end Controller

def salt (operation : UInt64) : UInt64:=
 (0x9e3779b97f4a7c15 : UInt64)+(operation <<< 6)+(operation >>> 2)

/-- The one index at which the operation mixes to the value. -/
def indexOf (operation value : UInt64) : UInt64 := (value ^^^ operation) - salt operation

lemma mixed_eq_iff (operation index value : UInt64):
 operation ^^^ ((0x9e3779b97f4a7c15 : UInt64)+index+(operation <<< 6) +
  (operation >>> 2))=value ↔ index=indexOf operation value:=by
 have hsalt:(0x9e3779b97f4a7c15 : UInt64)+index+(operation <<< 6)+(operation >>> 2)=
   index+salt operation:=by
  rw [salt]
  ac_rfl
 rw [hsalt,indexOf]
 constructor
 · intro h
   rw [←h,UInt64.xor_comm operation,UInt64.xor_assoc,UInt64.xor_self,UInt64.xor_zero,
    UInt64.add_sub_cancel]
 · intro h
   rw [h,UInt64.sub_add_cancel,UInt64.xor_comm,UInt64.xor_assoc,UInt64.xor_self, UInt64.xor_zero]

/-- The index of the second place is the one that meets the first place; a place whose mix
vanishes is numbered by its index. -/
def Clash (first second : StoredItem) : Prop:=
 let i:=UInt64.ofNat first.index
 let j:=UInt64.ofNat second.index
 if i = indexOf first.operation 0 then
  if j = indexOf second.operation 0 then i = j else j = indexOf second.operation (i+1)
 else if j = indexOf second.operation 0 then i = indexOf first.operation (j+1)
 else j = indexOf second.operation (first.operation ^^^
  ((0x9e3779b97f4a7c15 : UInt64)+i+(first.operation <<< 6)+(first.operation >>> 2)))

lemma id_eq_iff (first second : StoredItem) : first.id=second.id ↔ Clash first second:=by
 simp only [StoredItem.id,entryId,Clash,mixed_eq_iff]
 split
 · split
   · exact UInt64.add_left_inj 1
   · rw [eq_comm,mixed_eq_iff]
 · split
   · rw [mixed_eq_iff]
   · rw [eq_comm,mixed_eq_iff]

theorem rows_identified_iff (makeSearchKey : Bytes → Bytes)
 (tooltip : TrashTransaction → TrashItem → Bytes) (result : TrashCatalogResult):
 RowsIdentified makeSearchKey tooltip result ↔
  (storedItems result).Pairwise fun first second=>¬Clash first second:=by
 rw [identified_iff_nodup,List.Nodup,List.pairwise_map]
 simp only [ne_eq,id_eq_iff]

def deletedFile (operation : UInt64) (manifest : Path) : TrashManifestRecord where
 manifestPath:=manifest
 transaction:={
  operationId:=operation
  phase:=.published
  items:=[{
   original:=⟨AsciiText.utf8 "/home/a.png"⟩
   restorePath:=⟨AsciiText.utf8 "/home/a.png"⟩
   stored:=storedPath ⟨AsciiText.utf8 "/home/a.png"⟩ operation ⟨[]⟩ 0
   current:=storedPath ⟨AsciiText.utf8 "/home/a.png"⟩ operation ⟨[]⟩ 0
   currentSnapshot:={}
   location:=.stored }] }

def twoDeletions : TrashCatalogResult where
 status:=.success
 manifests:=[deletedFile 8185 ⟨AsciiText.utf8 "/trash/1.json"⟩,
  deletedFile 8420 ⟨AsciiText.utf8 "/trash/2.json"⟩]

/-- Two deletions of one file each that get the same row id. -/
theorem rows_mistaken : ¬∀result : TrashCatalogResult,
 (result.manifests.map (·.transaction.operationId)).Nodup →
  RowsIdentified id (fun _ _=>[]) result:=by
 intro h
 have hids:=(h twoDeletions (by decide)).1
 rw [apply_ids] at hids
 exact absurd hids (by decide)

end VoVe.TrashRows
