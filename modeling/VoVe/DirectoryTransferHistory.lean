import VoVe.DirectoryTransferProgress

set_option autoImplicit false

namespace VoVe.DirectoryTransferHistory
open ByteCodec
open DirectoryManifest DirectoryManifestShape DirectoryTransferProgress

/-- The place of a record in the history. -/
inductive Slot where
 | staged (rootIndex : ℕ) (root : DirectoryTransferManifestRoot)
 | materialized (rootIndex entryIndex : ℕ) (entry : DirectoryTransferManifestEntry)
 | published (rootIndex : ℕ) (root : DirectoryTransferManifestRoot)
 deriving DecidableEq

/-- What a run learns about an object: its identity, and for a file its content. -/
structure ObjectProof where
 identity : DirectoryTransferProgressDigest
 content : DirectoryTransferProgressDigest

/-- What the records so far settle about the next one. -/
structure Trail where
 count : ℕ := 0
 previous : DirectoryTransferProgressDigest
 staged : DirectoryTransferProgressRecord := {}
 entries : List DirectoryTransferProgressRecord := []

def Trail.follow (trail : Trail) (record : DirectoryTransferProgressRecord) : Trail where
 count:=trail.count+1
 previous:=record.recordSha256
 staged:=if record.kind = .rootStagingOwned then record else trail.staged
 entries:=if record.kind = .entryMaterialized then trail.entries++[record] else []

section Slots
variable (manifest : DirectoryTransferManifest)

def entrySlots (rootIndex : ℕ) : ℕ → List DirectoryTransferManifestEntry → List Slot
 | _, []=>[]
 | entryIndex, entry::rest=>
  .materialized rootIndex entryIndex entry::entrySlots rootIndex (entryIndex+1) rest

def rootSlots (rootIndex : ℕ) (root : DirectoryTransferManifestRoot) : List Slot:=
 .staged rootIndex root ::
  (entrySlots rootIndex root.firstEntry.toNat (rootEntries manifest root) ++
   [.published rootIndex root])

def slotsFrom : ℕ → List DirectoryTransferManifestRoot → List Slot
 | _, []=>[]
 | rootIndex, root::rest=>rootSlots manifest rootIndex root++slotsFrom (rootIndex+1) rest

def historySlots : List Slot := slotsFrom manifest 0 manifest.roots

end Slots

section History
variable {sha256 : Bytes → DirectoryTransferProgressDigest}
 (plan : DirectoryTransferProgressPlan sha256)

def Trail.tree (sha256 : Bytes → DirectoryTransferProgressDigest) (trail : Trail):
  DirectoryTransferProgressDigest:=
 trail.entries.foldl (treeStep sha256) trail.staged.contentSha256

def fileBytes (entries : List DirectoryTransferManifestEntry) : ℕ:=
 (entries.map fun entry=>(contentBytes entry).toNat).sum

def foreseen (trail : Trail) (proof : ObjectProof) : Slot → DirectoryTransferProgressRecord
 | .staged rootIndex root=>
  { kind:=.rootStagingOwned
    objectKind:=.root
    rootIndex:=UInt32.ofNat rootIndex
    ownershipToken:=root.ownershipToken
    objectIdentitySha256:=proof.identity
    contentSha256:=treeSeed sha256 plan.header (UInt32.ofNat rootIndex) root.ownershipToken
     proof.identity }
 | .materialized rootIndex entryIndex entry=>
  { kind:=.entryMaterialized
    objectKind:=objectKindOf entry.kind
    rootIndex:=UInt32.ofNat rootIndex
    entryIndex:=UInt32.ofNat entryIndex
    contentBytes:=contentBytes entry
    objectIdentitySha256:=proof.identity
    contentSha256:=match entry.kind with
     | .directory=>.zero _
     | .regularFile=>proof.content }
 | .published rootIndex root=>
  { kind:=.rootPublished
    objectKind:=.root
    rootIndex:=UInt32.ofNat rootIndex
    contentBytes:=UInt64.ofNat (fileBytes (rootEntries plan.manifest root))
    ownershipToken:=root.ownershipToken
    objectIdentitySha256:=trail.staged.objectIdentitySha256
    contentSha256:=trail.tree sha256 }

def foreseenRecord (trail : Trail) (proof : ObjectProof) (slot : Slot):
  DirectoryTransferProgressRecord:=
 sealRecord sha256 (foreseen plan trail proof slot) (UInt64.ofNat (trail.count+1)) trail.previous

def history : Trail → List Slot → List ObjectProof → List DirectoryTransferProgressRecord
 | trail, slot::slots, proof::proofs=>
  let record:=foreseenRecord plan trail proof slot
  record::history (trail.follow record) slots proofs
 | _, _, _=>[]

def startTrail : Trail where
 previous:=plan.header.headerSha256

def Canonical (records : List DirectoryTransferProgressRecord) : Prop:=
 ∃ proofs : List ObjectProof,proofs.length = (historySlots plan.manifest).length ∧
  records <+: history plan (startTrail plan) (historySlots plan.manifest) proofs

def openTree (sha256 : Bytes → DirectoryTransferProgressDigest)
  (tree : Option DirectoryTransferProgressDigest) (record : DirectoryTransferProgressRecord):
  Option DirectoryTransferProgressDigest:=
 match record.kind with
 | .rootStagingOwned=>some record.contentSha256
 | .entryMaterialized=>tree.map fun previous=>treeStep sha256 previous record
 | .rootPublished=>none

structure RecordPresent (record : DirectoryTransferProgressRecord) : Prop where
 sealed : bytesEmpty record.recordSha256=false
 identity : bytesEmpty record.objectIdentitySha256=false
 content : record.objectKind=.regularFile → bytesEmpty record.contentSha256=false

/-- No digest that the records carry or build on is all zero, which stands for none. -/
def DigestsPresent (sha256 : Bytes → DirectoryTransferProgressDigest):
  Option DirectoryTransferProgressDigest → List DirectoryTransferProgressRecord → Prop
 | _, []=>True
 | tree, record::rest=>
  (∀digest ∈ tree,bytesEmpty digest = false) ∧ RecordPresent record ∧
   DigestsPresent sha256 (openTree sha256 tree record) rest

end History

section Lists
variable {sha256 : Bytes → DirectoryTransferProgressDigest}
 {plan : DirectoryTransferProgressPlan sha256}

lemma length_entrySlots (rootIndex entryIndex : ℕ)
 (entries : List DirectoryTransferManifestEntry):
 (entrySlots rootIndex entryIndex entries).length=entries.length:=by
 induction entries generalizing entryIndex with
 | nil=>rfl
 | cons entry rest ih=>rw [entrySlots,List.length_cons,List.length_cons,ih]

lemma length_history (trail : Trail) (slots : List Slot) (p : List ObjectProof):
 (history plan trail slots p).length=min slots.length p.length:=by
 induction slots generalizing trail p with
 | nil=>
  rw [history]
  · simp
  · simp
 | cons slot slots ih=>
  cases p with
  | nil=>rfl
  | cons proof p=>
   rw [history,List.length_cons,ih,List.length_cons,List.length_cons, Nat.succ_min_succ]

lemma history_append (trail : Trail) (slots : List Slot) (p more : List ObjectProof):
 history plan trail slots p <+: history plan trail slots (p++more):=by
 induction slots generalizing trail p with
 | nil=>
  rw [history]
  · exact List.nil_prefix
  · simp
 | cons slot slots ih=>
  cases p with
  | nil=>exact List.nil_prefix
  | cons proof p=>
   rw [List.cons_append,history,history]
   exact (List.prefix_cons_inj _).mpr (ih _ _)

end Lists

end VoVe.DirectoryTransferHistory
