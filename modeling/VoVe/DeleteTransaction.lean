import VoVe.DestinationFilename
import VoVe.FileOperation
import VoVe.TransactionCodec

set_option autoImplicit false

/-! The permanent-delete transaction of `permanent_delete_transaction.cpp`, POSIX
  build: its preparation, its validity and its journal record. -/

namespace VoVe.DeleteTransaction
open ByteCodec AsciiText PosixPath Checks DestinationFilename FileOperation TransactionCodec

def kPermanentDeleteTransactionVersion : UInt32 := 1
def kMaximumPermanentDeleteItems : ℕ := 10000
def transactionMagic : UInt32 := 0x31544450
def maximumPayloadBytes : ℕ := 4*1024*1024

inductive PermanentDeletePhase where
 | prepared
 | evacuating
 | rollback
 | permanentDeleteIntent
 | deleting
 deriving DecidableEq

instance : WireEnum PermanentDeletePhase where
 values:=[.prepared,.evacuating,.rollback,.permanentDeleteIntent,.deleting]
 complete a := by cases a<;>decide
 small:=by decide

inductive PermanentDeleteItemLocation where
 | source
 | temporary
 | deleted
 deriving DecidableEq

instance : WireEnum PermanentDeleteItemLocation where
 values:=[.source,.temporary,.deleted]
 complete a := by cases a<;>decide
 small:=by decide

inductive PermanentDeleteStep where
 | none
 | evacuate
 | rollback
 | erase
 deriving DecidableEq

instance : WireEnum PermanentDeleteStep where
 values:=[.none,.evacuate,.rollback,.erase]
 complete a := by cases a<;>decide
 small:=by decide

structure PermanentDeleteSource where
 path : Path
 snapshot : SourceSnapshot

structure PermanentDeleteItem where
 source : Path
 temporary : Path
 current : Path
 currentSnapshot : SourceSnapshot := {}
 location : PermanentDeleteItemLocation := .source
 deriving DecidableEq

structure PermanentDeleteTransaction where
 version : UInt32 := kPermanentDeleteTransactionVersion
 operationId : UInt64 := 0
 phase : PermanentDeletePhase := .prepared
 activeStep : PermanentDeleteStep := .none
 activeIndex : UInt32 := 0
 activeEvidence : OperationEvidence := .none
 failureStatus : OperationStatus := .success
 failureDetailUtf8 : Bytes := []
 items : List PermanentDeleteItem := []
 deriving DecidableEq

def temporaryPath (source : Path) (operationId : UInt64) (index : ℕ) : Path:=
 source.parentPath / ⟨utf8 ".vove-delete-" ++ (toChars 16 operationId.toNat ++
  (45::(toChars 16 index++utf8 ".tmp")))⟩

variable (item : PermanentDeleteItem)

def expectedCurrent : Bool:=
 match item.location with
 | .source=>item.current.same item.source
 | .temporary=>item.current.same item.temporary
 | .deleted=>item.current.isEmpty

variable (phase : PermanentDeletePhase)

def locationAllowed (location : PermanentDeleteItemLocation) : Bool:=
 match phase with
 | .prepared=>location = .source
 | .evacuating=>location = .source ∨ location = .temporary
 | .rollback=>location = .source ∨ location = .temporary
 | .permanentDeleteIntent=>location = .temporary
 | .deleting=>location = .temporary ∨ location = .deleted

variable (transaction : PermanentDeleteTransaction)

def activeStepMatches : Bool:=
 let location:=transaction.items[transaction.activeIndex.toNat]?.map (·.location)
 match transaction.activeStep with
 | .none=>transaction.activeIndex = 0
 | .evacuate=>transaction.phase = .evacuating ∧ location = some .source
 | .rollback=>transaction.phase = .rollback ∧ location = some .temporary
 | .erase=>transaction.phase = .deleting ∧ location = some .temporary

def parentOf (items : List PermanentDeleteItem) : Path:=
 match items with
 | []=>⟨[]⟩
 | item::_=>item.source.parentPath.lexicallyNormal

def identityOf : Bytes := stableObjectIdentity item.currentSnapshot.sourceRevisionUtf8

def itemPathsConsistent (parent : Path)
  (item : PermanentDeleteItem) : Bool:=
 item.source.isAbsolute && item.temporary.isAbsolute &&
  item.source.parentPath.lexicallyNormal.same parent &&
  item.temporary.parentPath.lexicallyNormal.same parent &&
  expectedCurrent item && locationAllowed phase item.location

variable (before : List PermanentDeleteItem)

def checkItem
  (item : PermanentDeleteItem) : Except Bytes Unit := do
 require (itemPathsConsistent transaction.phase (parentOf transaction.items) item)
  (utf8 "permanent-delete item paths are inconsistent")
 validDestinationFilename item.temporary.filename
 require (identityOf item≠[] ∧ identityOf item ∉ before.map identityOf)
  (utf8 "permanent-delete identity is invalid or duplicated")

def validPermanentDeleteTransaction : Except Bytes Unit := do
 require (transaction.version = kPermanentDeleteTransactionVersion ∧
   transaction.operationId≠0 ∧ transaction.items≠[] ∧
   transaction.items.length ≤ kMaximumPermanentDeleteItems)
  (utf8 "permanent-delete transaction header is invalid")
 require ((transaction.activeStep = .none → transaction.activeIndex = 0) ∧
   (transaction.activeStep≠.none → transaction.activeIndex.toNat < transaction.items.length) ∧
   activeStepMatches transaction)
  (utf8 "permanent-delete active step is invalid")
 require ((transaction.activeStep = .none → transaction.activeEvidence = .none) ∧
   (transaction.failureStatus = .success → transaction.activeEvidence = .none))
  (utf8 "permanent-delete evidence is inconsistent")
 checkEach (checkItem transaction) [] transaction.items

structure ItemValid (phase : PermanentDeletePhase) (parent : Path) (item : PermanentDeleteItem):
  Prop where
 paths : itemPathsConsistent phase parent item
 temporaryName : DestinationName item.temporary.filename
 identity : identityOf item≠[]

structure DeleteValid (transaction : PermanentDeleteTransaction) : Prop where
 version : transaction.version=kPermanentDeleteTransactionVersion
 operationId : transaction.operationId≠0
 nonempty : transaction.items≠[]
 size : transaction.items.length≤kMaximumPermanentDeleteItems
 inactiveIndex : transaction.activeStep=.none → transaction.activeIndex=0
 activeIndex : transaction.activeStep≠.none →
  transaction.activeIndex.toNat<transaction.items.length
 activeStep : activeStepMatches transaction
 inactiveEvidence : transaction.activeStep=.none → transaction.activeEvidence=.none
 successEvidence : transaction.failureStatus=.success → transaction.activeEvidence=.none
 items : ∀item∈transaction.items,ItemValid transaction.phase (parentOf transaction.items) item
 identities : (transaction.items.map identityOf).Nodup

lemma checkItem_iff (item : PermanentDeleteItem) : checkItem transaction before item=.ok () ↔
  ItemValid transaction.phase (parentOf transaction.items) item ∧
   identityOf item∉before.map identityOf:=by
 simp only [checkItem,bind_unit_eq_ok,require_eq_ok,decide_eq_true_eq]
 constructor
 · rintro ⟨hpaths,hname,hid,hids⟩
   exact ⟨⟨hpaths,hname,hid⟩,hids⟩
 · rintro ⟨h,hids⟩
   exact ⟨h.paths,h.temporaryName,h.identity,hids⟩

lemma validPermanentDeleteTransaction_iff:
 validPermanentDeleteTransaction transaction=.ok () ↔ DeleteValid transaction:=by
 have hitems:checkEach (checkItem transaction) [] transaction.items=.ok () ↔
   (∀item∈transaction.items, ItemValid transaction.phase (parentOf transaction.items) item) ∧
   (transaction.items.map identityOf).Nodup:=by
  rw [checkEach_eq_ok,←keys_nodup,List.forall_mem_iff_getElem]
  simp only [checkItem_iff]
  exact ⟨fun h=>⟨fun i hi=>(h i hi).1,fun i hi=>(h i hi).2⟩,
   fun h i hi=>⟨h.1 i hi,h.2 i hi⟩⟩
 simp only [validPermanentDeleteTransaction,bind_unit_eq_ok,require_eq_ok,hitems,
  decide_eq_true_eq]
 constructor
 · rintro ⟨⟨hversion,hid,hne,hsize⟩,⟨hinactive,hactive,hstep⟩,⟨hnone,hsuccess⟩, hvalid,hids⟩
   exact ⟨hversion,hid,hne,hsize,hinactive,hactive,hstep,hnone,hsuccess,hvalid,hids⟩
 · intro h
   exact ⟨⟨h.version,h.operationId,h.nonempty,h.size⟩,
    ⟨h.inactiveIndex,h.activeIndex,h.activeStep⟩,⟨h.inactiveEvidence,h.successEvidence⟩,
    h.items,h.identities⟩

def preparedItem (operationId : UInt64) (index : ℕ) (source : PermanentDeleteSource):
  PermanentDeleteItem where
 source:=source.path
 temporary:=temporaryPath source.path operationId index
 current:=source.path
 currentSnapshot:=source.snapshot
 location:=.source

def preparePermanentDeleteTransaction (sources : List PermanentDeleteSource)
  (operationId : UInt64) : Except Thrown PermanentDeleteTransaction := do
 require (sources≠[] ∧ sources.length ≤ kMaximumPermanentDeleteItems ∧ operationId≠0)
  (.invalidArgument (utf8 "permanent-delete sources are invalid"))
 let transaction : PermanentDeleteTransaction:=
  { operationId:=operationId,items:=sources.mapIdx (preparedItem operationId) }
 throwInvalid (validPermanentDeleteTransaction transaction)
 pure transaction

def deleteLimit : PayloadLimit where
 maximumPayloadBytes:=maximumPayloadBytes
 stringTooLarge:=utf8 "permanent-delete transaction string is too large"
 payloadTooLarge:=utf8 "permanent-delete transaction exceeds the journal limit"

def appendDeleteItem : Bytes:=
 appendEnum item.location++(appendInteger (0 : UInt8)++(appendInteger (0 : UInt16) ++
  (appendInteger item.currentSnapshot.sizeBytes ++
  (appendInteger item.currentSnapshot.modifiedUnixNs ++
  (appendString item.source.native++(appendString item.temporary.native ++
  (appendString item.current.native ++
  appendString item.currentSnapshot.sourceRevisionUtf8)))))))

def deletePayload : Bytes:=
 appendInteger transactionMagic++(appendInteger transaction.version ++
  (appendInteger transaction.operationId++(appendEnum transaction.phase ++
  (appendEnum transaction.activeStep++(appendEnum transaction.failureStatus ++
  (appendEnum transaction.activeEvidence++(appendInteger transaction.activeIndex ++
  (appendInteger (UInt32.ofNat transaction.items.length) ++
  (appendString transaction.failureDetailUtf8 ++
  transaction.items.flatMap appendDeleteItem)))))))))

def itemStrings : List Bytes:=
 [item.source.native,item.temporary.native,item.current.native,
  item.currentSnapshot.sourceRevisionUtf8]

def deleteStrings : List Bytes:=
 transaction.failureDetailUtf8::transaction.items.flatMap itemStrings

def encodePermanentDeleteTransaction : Except Thrown Bytes := do
 throwInvalid (validPermanentDeleteTransaction transaction)
 deleteLimit.finish (deleteStrings transaction) (deletePayload transaction)

def readDeleteHeader : Reader (PermanentDeleteTransaction × ℕ) := do
 let magic ← Reader.readInteger UInt32
 let version ← Reader.readInteger UInt32
 let operationId ← Reader.readInteger UInt64
 let phase ← Reader.readEnum PermanentDeletePhase
 let activeStep ← Reader.readEnum PermanentDeleteStep
 let failureStatus ← Reader.readEnum OperationStatus
 let activeEvidence ← Reader.readEnum OperationEvidence
 let activeIndex ← Reader.readInteger UInt32
 let itemCount ← Reader.readInteger UInt32
 let failureDetailUtf8 ← Reader.readString
 Reader.check (magic = transactionMagic ∧ itemCount≠0 ∧
  itemCount.toNat ≤ kMaximumPermanentDeleteItems)
 pure ({ version:=version,operationId:=operationId,phase:=phase,
         activeStep:=activeStep,activeIndex := activeIndex,activeEvidence := activeEvidence,
         failureStatus:=failureStatus,failureDetailUtf8 := failureDetailUtf8 },
  itemCount.toNat)

def readDeleteItem : Reader PermanentDeleteItem := do
 let location ← Reader.readEnum PermanentDeleteItemLocation
 let reserved8 ← Reader.readInteger UInt8
 let reserved16 ← Reader.readInteger UInt16
 let sizeBytes ← Reader.readInteger UInt64
 let modifiedUnixNs ← Reader.readInteger Int64
 let source ← readText validUtf8
 let temporary ← readText validUtf8
 let current ← readText validUtf8
 let sourceRevisionUtf8 ← readText validUtf8
 Reader.check (reserved8 = 0 ∧ reserved16 = 0)
 pure { source:=⟨source⟩,temporary:=⟨temporary⟩,current:=⟨current⟩,location:=location,
        currentSnapshot:={ sizeBytes:=sizeBytes,modifiedUnixNs:=modifiedUnixNs,
                           sourceRevisionUtf8:=sourceRevisionUtf8 } }

/-- Unlike the batch codec this one never looks at the text of the failure. -/
def decodePermanentDeleteTransaction (payload detail : Bytes):
  Except Bytes PermanentDeleteTransaction := do
 let trailing:=utf8 "permanent-delete transaction contains trailing bytes"
 require (payload.length ≤ maximumPayloadBytes) deleteLimit.payloadTooLarge
 let ((header,itemCount),body) ← found (readDeleteHeader.run payload)
  (utf8 "permanent-delete transaction header is invalid or truncated")
 let (items,rest) ← found ((Reader.readMany readDeleteItem itemCount).run body)
  (utf8 "permanent-delete transaction item is invalid or truncated")
 let decoded:={ header with items:=items }
 require (rest = []) (detailOr detail trailing)
 orDetail (validPermanentDeleteTransaction decoded) trailing
 pure decoded

def deleteTextsValid : Bool := transaction.items.all fun item=>(itemStrings item).all validUtf8

lemma encodePermanentDeleteTransaction_iff
 (payload : Bytes) : encodePermanentDeleteTransaction transaction=.ok payload ↔
  DeleteValid transaction ∧ (∀text∈deleteStrings transaction,text.length<2 ^ 32) ∧
   (deletePayload transaction).length ≤ maximumPayloadBytes ∧
   deletePayload transaction=payload:=by
 rw [encodePermanentDeleteTransaction,bind_unit_eq_ok,throwInvalid_eq_ok,
  validPermanentDeleteTransaction_iff,PayloadLimit.finish_eq_ok]
 rfl

lemma readDeleteItem_append (rest : Bytes)
 (h:∀text∈itemStrings item,text.length<2 ^ 32):
 readDeleteItem.run (appendDeleteItem item++rest)=
  if (itemStrings item).all validUtf8 then some (item,rest) else none:=by
 simp only [itemStrings,List.forall_mem_cons] at h
 obtain ⟨hsource,htemporary,hcurrent,hrevision,-⟩:=h
 simp only [readDeleteItem,appendDeleteItem,List.append_assoc,Reader.readEnum_bind,
  Reader.readInteger_bind,readText_bind,hsource,htemporary,hcurrent,hrevision,
  Reader.check_bind,Reader.run_pure]
 simp only [itemStrings,List.all_cons,List.all_nil,Bool.and_true,Bool.and_eq_true,ite_and]
 rfl

lemma readDeleteHeader_append (rest : Bytes)
 (hvalid:DeleteValid transaction) (h:transaction.failureDetailUtf8.length<2 ^ 32):
 readDeleteHeader.run (appendInteger transactionMagic++(appendInteger transaction.version ++
  (appendInteger transaction.operationId++(appendEnum transaction.phase ++
  (appendEnum transaction.activeStep++(appendEnum transaction.failureStatus ++
  (appendEnum transaction.activeEvidence++(appendInteger transaction.activeIndex ++
  (appendInteger (UInt32.ofNat transaction.items.length) ++
  (appendString transaction.failureDetailUtf8++rest))))))))))=
  some (({ transaction with items:=[] },transaction.items.length),rest):=by
 have hcount:(UInt32.ofNat transaction.items.length).toNat=transaction.items.length:=by
  have hsize:=hvalid.size
  unfold kMaximumPermanentDeleteItems at hsize
  simp only [UInt32.toNat_ofNat']
  omega
 have hne:UInt32.ofNat transaction.items.length≠0:=by
  intro hzero
  rw [hzero] at hcount
  exact hvalid.nonempty (List.eq_nil_of_length_eq_zero hcount.symm)
 simp only [readDeleteHeader,Reader.readEnum_bind,Reader.readInteger_bind,
  Reader.readString_bind _ _ h,Reader.check_bind,Reader.run_pure,hcount]
 exact if_pos (decide_eq_true ⟨trivial,hne,hvalid.size⟩)

lemma decodePermanentDeleteTransaction_iff (payload detail : Bytes)
 (transaction : PermanentDeleteTransaction):
 decodePermanentDeleteTransaction payload detail=.ok transaction ↔
  payload.length ≤ maximumPayloadBytes ∧
  ∃ header itemCount body,readDeleteHeader.run payload=some ((header,itemCount),body) ∧
  ∃ items,(Reader.readMany readDeleteItem itemCount).run body=some (items,[]) ∧
   DeleteValid transaction ∧ { header with items:=items }=transaction:=by
 simp only [decodePermanentDeleteTransaction,bind_unit_eq_ok,found_bind_eq_ok,require_eq_ok,
  decide_eq_true_eq,orDetail_eq_ok,pure_eq_ok,Prod.exists]
 constructor
 · rintro ⟨hsize,header,itemCount,body,hheader,items,rest,hitems,rfl,hvalid,rfl⟩
   exact ⟨hsize,header,itemCount,body,hheader,items,hitems,
    (validPermanentDeleteTransaction_iff _).mp hvalid,rfl⟩
 · rintro ⟨hsize,header,itemCount,body,hheader,items,hitems,hvalid,rfl⟩
   exact ⟨hsize,header,itemCount,body,hheader,items,[],hitems,rfl,
    (validPermanentDeleteTransaction_iff _).mpr hvalid,rfl⟩

lemma decode_encodePermanentDeleteTransaction {transaction : PermanentDeleteTransaction}
 {payload : Bytes} (h:encodePermanentDeleteTransaction transaction=.ok payload)
 (detail : Bytes) : OkExactly (decodePermanentDeleteTransaction payload detail)
  (deleteTextsValid transaction) transaction:=by
 intro decoded
 obtain ⟨hvalid,hstrings,hsize,rfl⟩:=(encodePermanentDeleteTransaction_iff _ _).mp h
 have hdetail:transaction.failureDetailUtf8.length<2 ^ 32:=hstrings _ List.mem_cons_self
 have hitem:∀item∈transaction.items,∀text∈itemStrings item,text.length<2 ^ 32:=by
  intro item hitem text htext
  exact hstrings text (List.mem_cons_of_mem _ (List.mem_flatMap.mpr ⟨item,hitem,htext⟩))
 have hheader:readDeleteHeader.run (deletePayload transaction)=_:=
  readDeleteHeader_append transaction (transaction.items.flatMap appendDeleteItem) hvalid hdetail
 have hitems:=Reader.readMany_append readDeleteItem appendDeleteItem
  (fun item=>(itemStrings item).all validUtf8) transaction.items
  (fun item hmem rest=>readDeleteItem_append item rest (hitem item hmem)) []
 rw [List.append_nil] at hitems
 rw [decodePermanentDeleteTransaction_iff,hheader,deleteTextsValid]
 constructor
 · rintro ⟨-,header,itemCount,body,hsome,items,hread,-,rfl⟩
   simp only [Option.some.injEq,Prod.mk.injEq] at hsome
   obtain ⟨⟨rfl,rfl⟩,rfl⟩:=hsome
   by_cases hall:transaction.items.all fun item=>(itemStrings item).all validUtf8
   · rw [hitems,if_pos hall] at hread
     obtain ⟨rfl,-⟩:=Prod.mk.inj (Option.some.inj hread)
     exact ⟨hall,rfl⟩
   · rw [hitems,if_neg hall] at hread
     cases hread
 · rintro ⟨hall,rfl⟩
   rw [if_pos hall] at hitems
   exact ⟨hsize,_,_,_,rfl,_,hitems,hvalid,rfl⟩

end VoVe.DeleteTransaction
