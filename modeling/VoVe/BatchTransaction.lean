import VoVe.DestinationFilename
import VoVe.FileOperation

set_option autoImplicit false

/-! The batch-rename transaction of `batch_rename_transaction.cpp`: its validity
  and its journal record. -/

namespace VoVe.BatchTransaction
open ByteCodec AsciiText PosixPath Checks DestinationFilename FileOperation

def kBatchRenameTransactionVersion : UInt32 := 3
def kMaximumBatchRenameItems : ℕ := 10000
def transactionMagic : UInt32 := 0x31544256
def maximumPayloadBytes : ℕ := 4*1024*1024

inductive BatchTransactionPhase where
 | prepared
 | evacuating
 | rollback
 | commitIntent
 | publishing
 deriving DecidableEq

instance : WireEnum BatchTransactionPhase where
 values:=[.prepared,.evacuating,.rollback,.commitIntent,.publishing]
 complete a := by cases a<;>decide
 small:=by decide

inductive BatchItemLocation where
 | source
 | temporary
 | destination
 deriving DecidableEq

instance : WireEnum BatchItemLocation where
 values:=[.source,.temporary,.destination]
 complete a := by cases a<;>decide
 small:=by decide

inductive BatchStepKind where
 | none
 | evacuate
 | rollback
 | publish
 deriving DecidableEq

instance : WireEnum BatchStepKind where
 values:=[.none,.evacuate,.rollback,.publish]
 complete a := by cases a<;>decide
 small:=by decide

structure BatchTransactionItem where
 source : Path
 temporary : Path
 destination : Path
 current : Path
 currentSnapshot : SourceSnapshot := {}
 location : BatchItemLocation := .source
 objectKind : OperationObjectKind := .regularFile
 deriving DecidableEq

structure BatchRenameTransaction where
 version : UInt32 := kBatchRenameTransactionVersion
 operationId : UInt64 := 0
 phase : BatchTransactionPhase := .prepared
 activeStep : BatchStepKind := .none
 activeIndex : UInt32 := 0
 activeEvidence : OperationEvidence := .none
 failureStatus : OperationStatus := .success
 failureDetailUtf8 : Bytes := []
 items : List BatchTransactionItem := []
 deriving DecidableEq

def temporaryLeaf (operationId : UInt64) (index : ℕ) : Bytes:=
 utf8 ".vove-" ++ (toChars 16 operationId.toNat++(45::(toChars 16 index++utf8 ".tmp")))

/-- The filename, with ASCII letters folded. -/
def batchRenameCollisionKey (path : Path) : Bytes := path.filename.native.map asciiLower

variable (item : BatchTransactionItem)

def expectedCurrentPath : Bool:=
 match item.location with
 | .source=>item.current.same item.source
 | .temporary=>item.current.same item.temporary
 | .destination=>item.current.same item.destination

variable (phase : BatchTransactionPhase)

def locationAllowedInPhase (location : BatchItemLocation) : Bool:=
 match phase with
 | .prepared=>location = .source
 | .evacuating=>location = .source ∨ location = .temporary
 | .rollback=>location = .source ∨ location = .temporary
 | .commitIntent=>location = .temporary
 | .publishing=>location = .temporary ∨ location = .destination

variable (transaction : BatchRenameTransaction)

def activeStepMatchesPhase : Bool:=
 let location:=transaction.items[transaction.activeIndex.toNat]?.map (·.location)
 match transaction.activeStep with
 | .none=>transaction.phase≠.prepared ∨ transaction.activeIndex = 0
 | .evacuate=>transaction.phase = .evacuating ∧ location = some .source
 | .rollback=>transaction.phase = .rollback ∧ location = some .temporary
 | .publish=>transaction.phase = .publishing ∧ location = some .temporary

/-- The directory all items are in, as the first item spells it. -/
def parentOf (items : List BatchTransactionItem) : Path:=
 match items with
 | []=>⟨[]⟩
 | item::_=>item.source.parentPath.lexicallyNormal

def physicalId : Bytes := stableObjectIdentity item.currentSnapshot.sourceRevisionUtf8

/-- The paths of one item: absolute, in one directory, under the expected
  temporary name, and where its location says. -/
def itemPathsConsistent (operationId : UInt64) (parent : Path)
  (index : ℕ) (item : BatchTransactionItem) : Bool:=
 item.source.isAbsolute && item.temporary.isAbsolute && item.destination.isAbsolute &&
  item.current.isAbsolute && item.source.parentPath.lexicallyNormal.same parent &&
  item.temporary.parentPath.lexicallyNormal.same parent &&
  item.destination.parentPath.lexicallyNormal.same parent &&
  item.temporary.same (parent / ⟨temporaryLeaf operationId index⟩) &&
  expectedCurrentPath item && locationAllowedInPhase phase item.location

variable (before : List BatchTransactionItem)

/-- One turn of the item loop; `before` holds the items the maps have seen. -/
def checkItem
  (item : BatchTransactionItem) : Except Bytes Unit := do
 require (item.objectKind = .regularFile ∨
   (item.objectKind = .directory ∧ item.currentSnapshot.sizeBytes = 0))
  (utf8 "batch transaction object kind or directory size is invalid")
 require (itemPathsConsistent transaction.phase transaction.operationId
   (parentOf transaction.items) before.length item)
  (utf8 "batch transaction paths are inconsistent")
 require (!isInternalFilename item.source.filename.native &&
   !isInternalFilename item.destination.filename.native)
  (utf8 "batch transaction names an internal VO-VE object")
 validDestinationFilename item.temporary.filename
 validDestinationFilename item.destination.filename
 require (batchRenameCollisionKey item.source ∉
    before.map fun other=>batchRenameCollisionKey other.source)
  (utf8 "batch transaction source or destination names are duplicated")
 require (batchRenameCollisionKey item.destination ∉
    before.map fun other=>batchRenameCollisionKey other.destination)
  (utf8 "batch transaction source or destination names are duplicated")
 require (physicalId item≠[] ∧ physicalId item ∉ before.map physicalId)
  (utf8 "batch transaction physical identity is invalid or duplicated")

def checkActiveIndex : Except Bytes Unit:=
 if transaction.activeStep = .none then
  require (transaction.activeIndex = 0) (utf8 "inactive batch transaction has an active index")
 else
  require (transaction.activeIndex.toNat < transaction.items.length)
   (utf8 "batch transaction active index is invalid")

def validBatchTransaction : Except Bytes Unit := do
 require (transaction.version = kBatchRenameTransactionVersion ∧ transaction.operationId≠0 ∧
   transaction.items≠[] ∧ transaction.items.length ≤ kMaximumBatchRenameItems)
  (utf8 "batch transaction header is invalid")
 checkActiveIndex transaction
 require (activeStepMatchesPhase transaction)
  (utf8 "batch transaction active step is inconsistent with its phase")
 require (!((transaction.activeStep = .none ∧ transaction.activeEvidence≠.none) ∨
   (transaction.failureStatus = .success ∧ transaction.activeEvidence≠.none)))
  (utf8 "batch transaction evidence is inconsistent with its active step")
 checkEach (checkItem transaction) [] transaction.items

/-- What `checkItem` asks of one item by itself. -/
structure ItemValid (phase : BatchTransactionPhase) (operationId : UInt64) (parent : Path)
  (index : ℕ) (item : BatchTransactionItem) : Prop where
 directorySize : item.objectKind=.directory → item.currentSnapshot.sizeBytes=0
 paths : itemPathsConsistent phase operationId parent index item
 sourceName : isInternalFilename item.source.filename.native=false
 destinationNotInternal : isInternalFilename item.destination.filename.native=false
 temporaryName : DestinationName item.temporary.filename
 destinationName : DestinationName item.destination.filename
 identity : physicalId item≠[]

structure BatchValid (transaction : BatchRenameTransaction) : Prop where
 version : transaction.version=kBatchRenameTransactionVersion
 operationId : transaction.operationId≠0
 nonempty : transaction.items≠[]
 size : transaction.items.length≤kMaximumBatchRenameItems
 inactiveIndex : transaction.activeStep=.none → transaction.activeIndex=0
 activeIndex : transaction.activeStep≠.none →
  transaction.activeIndex.toNat<transaction.items.length
 activeStep : activeStepMatchesPhase transaction
 inactiveEvidence : transaction.activeStep=.none → transaction.activeEvidence=.none
 successEvidence : transaction.failureStatus=.success → transaction.activeEvidence=.none
 items : ∀i (h:i<transaction.items.length),ItemValid transaction.phase
  transaction.operationId (parentOf transaction.items) i transaction.items[i]
 sources : (transaction.items.map fun item=>batchRenameCollisionKey item.source).Nodup
 destinations : (transaction.items.map fun item=>batchRenameCollisionKey item.destination).Nodup
 identities : (transaction.items.map physicalId).Nodup

lemma checkItem_iff
 (item : BatchTransactionItem) : checkItem transaction before item=.ok () ↔
  ItemValid transaction.phase transaction.operationId (parentOf transaction.items)
    before.length item ∧
   (batchRenameCollisionKey item.source ∉
    before.map fun other=>batchRenameCollisionKey other.source) ∧
   (batchRenameCollisionKey item.destination ∉
    before.map fun other=>batchRenameCollisionKey other.destination) ∧
   physicalId item∉before.map physicalId:=by
 simp only [checkItem,bind_unit_eq_ok,require_eq_ok,decide_eq_true_eq,Bool.and_eq_true,
  Bool.not_eq_true']
 constructor
 · rintro ⟨hkind,hpaths,⟨hsource,hdestination⟩,htemporary,hname,hs,hd,hid,hids⟩
   refine ⟨⟨fun h=>?_,hpaths,hsource,hdestination,htemporary,hname,hid⟩,hs,hd,hids⟩
   obtain hregular | ⟨-,hsize⟩:=hkind
   · simp [hregular] at h
   · exact hsize
 · rintro ⟨h,hs,hd,hids⟩
   refine ⟨?_,h.paths,⟨h.sourceName,h.destinationNotInternal⟩,h.temporaryName,
    h.destinationName,hs,hd,h.identity,hids⟩
   cases hkind:item.objectKind with
   | regularFile=>exact .inl rfl
   | directory=>exact .inr ⟨rfl,h.directorySize hkind⟩

lemma validBatchTransaction_iff:
 validBatchTransaction transaction=.ok () ↔ BatchValid transaction:=by
 have hitems:checkEach (checkItem transaction) [] transaction.items=.ok () ↔
   (∀i (h:i<transaction.items.length),ItemValid transaction.phase
    transaction.operationId (parentOf transaction.items) i transaction.items[i]) ∧
   (transaction.items.map fun item=>batchRenameCollisionKey item.source).Nodup ∧
   (transaction.items.map fun item=>batchRenameCollisionKey item.destination).Nodup ∧
   (transaction.items.map physicalId).Nodup:=by
  rw [checkEach_eq_ok,←keys_nodup,←keys_nodup,←keys_nodup]
  simp only [checkItem_iff,List.length_take]
  constructor
  · intro h
    refine ⟨fun i hi=>?_,fun i hi=>(h i hi).2.1,fun i hi=>(h i hi).2.2.1,
     fun i hi=>(h i hi).2.2.2⟩
    have hitem:=(h i hi).1
    rwa [Nat.min_eq_left (Nat.le_of_lt hi)] at hitem
  · rintro ⟨hvalid,hs,hd,hids⟩ i hi
    have hitem:=hvalid i hi
    rw [Nat.min_eq_left (Nat.le_of_lt hi)]
    exact ⟨hitem,hs i hi,hd i hi,hids i hi⟩
 simp only [validBatchTransaction,bind_unit_eq_ok,require_eq_ok,hitems,decide_eq_true_eq]
 constructor
 · rintro ⟨⟨hversion,hid,hne,hsize⟩,hindex,hstep,hevidence,hvalid,hs,hd,hids⟩
   have hcases:(transaction.activeStep=.none → transaction.activeEvidence=.none) ∧
     (transaction.failureStatus=.success → transaction.activeEvidence=.none):=by
    simpa [imp_iff_not_or] using hevidence
   refine ⟨hversion,hid,hne,hsize,fun h=>?_,fun h=>?_,hstep,hcases.1,hcases.2, hvalid,hs,hd,hids⟩
   · simpa [checkActiveIndex,h] using hindex
   · simpa [checkActiveIndex,h] using hindex
 · intro h
   refine ⟨⟨h.version,h.operationId,h.nonempty,h.size⟩,?_,h.activeStep,?_,h.items,
    h.sources,h.destinations,h.identities⟩
   · unfold checkActiveIndex
     split
     · next hstep => simpa using h.inactiveIndex hstep
     · next hstep => simpa using h.activeIndex hstep
   · have hinactive:=h.inactiveEvidence
     have hsuccess:=h.successEvidence
     simp only [Bool.not_eq_true',decide_eq_false_iff_not,not_or,not_and,not_not]
     exact ⟨hinactive,hsuccess⟩

end VoVe.BatchTransaction
