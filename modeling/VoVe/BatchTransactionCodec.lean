import VoVe.BatchTransaction
import VoVe.TransactionCodec

set_option autoImplicit false

namespace VoVe.BatchTransactionCodec
open ByteCodec AsciiText Checks FileOperation BatchTransaction TransactionCodec

def batchLimit : PayloadLimit where
 maximumPayloadBytes:=maximumPayloadBytes
 stringTooLarge:=utf8 "batch transaction string is too large"
 payloadTooLarge:=utf8 "batch transaction exceeds the journal limit"

variable (item : BatchTransactionItem)

def appendBatchItem : Bytes:=
 appendEnum item.location++(appendEnum item.objectKind++(appendInteger (0 : UInt16) ++
  (appendInteger item.currentSnapshot.sizeBytes ++
  (appendInteger item.currentSnapshot.modifiedUnixNs ++
  (appendString item.source.native++(appendString item.temporary.native ++
  (appendString item.destination.native++(appendString item.current.native ++
  appendString item.currentSnapshot.sourceRevisionUtf8))))))))

variable (transaction : BatchRenameTransaction)

def batchPayload : Bytes:=
 appendInteger transactionMagic++(appendInteger transaction.version ++
  (appendInteger transaction.operationId++(appendEnum transaction.phase ++
  (appendEnum transaction.activeStep++(appendEnum transaction.failureStatus ++
  (appendEnum transaction.activeEvidence++(appendInteger transaction.activeIndex ++
  (appendInteger (UInt32.ofNat transaction.items.length) ++
  (appendString transaction.failureDetailUtf8 ++
  transaction.items.flatMap appendBatchItem)))))))))

def itemStrings : List Bytes:=
 [item.source.native,item.temporary.native,item.destination.native,item.current.native,
  item.currentSnapshot.sourceRevisionUtf8]

def batchStrings : List Bytes:=
 transaction.failureDetailUtf8::transaction.items.flatMap itemStrings

def encodeBatchTransaction : Except Thrown Bytes := do
 throwInvalid (validBatchTransaction transaction)
 batchLimit.finish (batchStrings transaction) (batchPayload transaction)

/-- The header record and the number of items it announces. -/
def readBatchHeader : Reader (BatchRenameTransaction × ℕ) := do
 let magic ← Reader.readInteger UInt32
 let version ← Reader.readInteger UInt32
 let operationId ← Reader.readInteger UInt64
 let phase ← Reader.readEnum BatchTransactionPhase
 let activeStep ← Reader.readEnum BatchStepKind
 let failureStatus ← Reader.readEnum OperationStatus
 let activeEvidence ← Reader.readEnum OperationEvidence
 let activeIndex ← Reader.readInteger UInt32
 let itemCount ← Reader.readInteger UInt32
 let failureDetailUtf8 ← Reader.readString
 Reader.check (magic = transactionMagic ∧
  (version = 2 ∨ version = kBatchRenameTransactionVersion) ∧
  itemCount≠0 ∧ itemCount.toNat ≤ kMaximumBatchRenameItems)
 pure ({ version:=version,operationId:=operationId,phase:=phase,
         activeStep:=activeStep,activeIndex := activeIndex,activeEvidence := activeEvidence,
         failureStatus:=failureStatus,failureDetailUtf8 := failureDetailUtf8 },
  itemCount.toNat)

/-- Version 2 reserved the kind byte as zero and supported only regular files. -/
def readBatchItem (version : UInt32) : Reader BatchTransactionItem := do
 let location ← Reader.readEnum BatchItemLocation
 let objectKind ← Reader.readEnum OperationObjectKind
 let reserved ← Reader.readInteger UInt16
 let sizeBytes ← Reader.readInteger UInt64
 let modifiedUnixNs ← Reader.readInteger Int64
 let source ← readText validUtf8
 let temporary ← readText validUtf8
 let destination ← readText validUtf8
 let current ← readText validUtf8
 let sourceRevisionUtf8 ← readText validUtf8
 Reader.check (reserved = 0 ∧ (version = 2 → objectKind = .regularFile))
 pure { source:=⟨source⟩,temporary:=⟨temporary⟩,destination:=⟨destination⟩,
        current:=⟨current⟩,location := location,objectKind := objectKind,
        currentSnapshot:={ sizeBytes:=sizeBytes,modifiedUnixNs:=modifiedUnixNs,
                           sourceRevisionUtf8:=sourceRevisionUtf8 } }

/-- `detail` is the text the caller's variable holds before the call. -/
def decodeBatchTransaction (payload detail : Bytes) : Except Bytes BatchRenameTransaction := do
 let trailing:=utf8 "batch transaction has trailing or invalid data"
 require (payload.length ≤ maximumPayloadBytes) batchLimit.payloadTooLarge
 let ((header,itemCount),body) ← found (readBatchHeader.run payload)
  (utf8 "batch transaction header is invalid or truncated")
 let (items,rest) ← found ((Reader.readMany (readBatchItem header.version) itemCount).run body)
  (utf8 "batch transaction item is invalid or truncated")
 let decoded:={ header with items:=items,version:=kBatchRenameTransactionVersion }
 require (rest = [] ∧ validUtf8 decoded.failureDetailUtf8) (detailOr detail trailing)
 orDetail (validBatchTransaction decoded) trailing
 pure decoded

def itemTextsValid : Bool := (itemStrings item).all validUtf8

def batchTextsValid : Bool:=
 validUtf8 transaction.failureDetailUtf8 && transaction.items.all itemTextsValid

lemma encodeBatchTransaction_iff (payload : Bytes):
 encodeBatchTransaction transaction=.ok payload ↔
  BatchValid transaction ∧ (∀text∈batchStrings transaction,text.length<2 ^ 32) ∧
   (batchPayload transaction).length ≤ maximumPayloadBytes ∧
   batchPayload transaction=payload:=by
 rw [encodeBatchTransaction,bind_unit_eq_ok,throwInvalid_eq_ok,validBatchTransaction_iff,
  PayloadLimit.finish_eq_ok]
 rfl

lemma readBatchItem_append (rest : Bytes)
 (h:∀text∈itemStrings item,text.length<2 ^ 32):
 (readBatchItem kBatchRenameTransactionVersion).run (appendBatchItem item++rest)=
  if itemTextsValid item then some (item,rest) else none:=by
 simp only [itemStrings,List.forall_mem_cons] at h
 obtain ⟨hsource,htemporary,hdestination,hcurrent,hrevision,-⟩:=h
 simp only [readBatchItem,appendBatchItem,List.append_assoc,Reader.readEnum_bind,
  Reader.readInteger_bind,readText_bind,hsource,htemporary,hdestination,hcurrent,hrevision,
  Reader.check_bind,Reader.run_pure]
 simp only [itemTextsValid,itemStrings,List.all_cons,List.all_nil,Bool.and_true,
  Bool.and_eq_true,ite_and]
 rfl

lemma readBatchHeader_append (rest : Bytes)
 (hvalid:BatchValid transaction) (h:transaction.failureDetailUtf8.length<2 ^ 32):
 readBatchHeader.run (appendInteger transactionMagic++(appendInteger transaction.version ++
  (appendInteger transaction.operationId++(appendEnum transaction.phase ++
  (appendEnum transaction.activeStep++(appendEnum transaction.failureStatus ++
  (appendEnum transaction.activeEvidence++(appendInteger transaction.activeIndex ++
  (appendInteger (UInt32.ofNat transaction.items.length) ++
  (appendString transaction.failureDetailUtf8++rest))))))))))=
  some (({ transaction with items:=[] },transaction.items.length),rest):=by
 have hcount:(UInt32.ofNat transaction.items.length).toNat=transaction.items.length:=by
  have hsize:=hvalid.size
  unfold kMaximumBatchRenameItems at hsize
  simp only [UInt32.toNat_ofNat']
  omega
 have hne:UInt32.ofNat transaction.items.length≠0:=by
  intro hzero
  rw [hzero] at hcount
  exact hvalid.nonempty (List.eq_nil_of_length_eq_zero hcount.symm)
 simp only [readBatchHeader,Reader.readEnum_bind,Reader.readInteger_bind,
  Reader.readString_bind _ _ h,Reader.check_bind,Reader.run_pure,hcount]
 exact if_pos (decide_eq_true ⟨trivial,.inr hvalid.version,hne,hvalid.size⟩)

lemma decodeBatchTransaction_iff (payload detail : Bytes) (transaction : BatchRenameTransaction):
 decodeBatchTransaction payload detail=.ok transaction ↔ payload.length ≤ maximumPayloadBytes ∧
  ∃ header i body,readBatchHeader.run payload=some ((header,i),body) ∧
  ∃ items,(Reader.readMany (readBatchItem header.version) i).run body=some (items,[]) ∧
   validUtf8 header.failureDetailUtf8 ∧ BatchValid transaction ∧
   { header with items:=items,version:=kBatchRenameTransactionVersion }=transaction:=by
 simp only [decodeBatchTransaction,bind_unit_eq_ok,found_bind_eq_ok,require_eq_ok,
  decide_eq_true_eq,orDetail_eq_ok,pure_eq_ok,Prod.exists]
 constructor
 · rintro ⟨hsize,header,i,body,hheader,items,rest,hitems,⟨rfl,htext⟩,hvalid,rfl⟩
   exact ⟨hsize,header,i,body,hheader,items,hitems,htext,
    (validBatchTransaction_iff _).mp hvalid,rfl⟩
 · rintro ⟨hsize,header,i,body,hheader,items,hitems,htext,hvalid,rfl⟩
   exact ⟨hsize,header,i,body,hheader,items,[],hitems,⟨rfl,htext⟩,
    (validBatchTransaction_iff _).mpr hvalid,rfl⟩

lemma decodeBatchTransaction_valid {payload detail : Bytes} {transaction : BatchRenameTransaction}
 (h:decodeBatchTransaction payload detail=.ok transaction) : BatchValid transaction:=by
 obtain ⟨-,header,i,body,-,items,-,-,hvalid,-⟩:=(decodeBatchTransaction_iff _ _ _).mp h
 exact hvalid

lemma decode_encodeBatchTransaction {transaction : BatchRenameTransaction} {payload : Bytes}
 (h:encodeBatchTransaction transaction=.ok payload) (detail : Bytes):
 OkExactly (decodeBatchTransaction payload detail) (batchTextsValid transaction) transaction:=by
 intro decoded
 obtain ⟨hvalid,hstrings,hsize,rfl⟩:=(encodeBatchTransaction_iff _ _).mp h
 have hdetail:transaction.failureDetailUtf8.length<2 ^ 32:=hstrings _ List.mem_cons_self
 have hitem:∀item∈transaction.items,∀text∈itemStrings item,text.length<2 ^ 32:=by
  intro item hitem text htext
  exact hstrings text (List.mem_cons_of_mem _ (List.mem_flatMap.mpr ⟨item,hitem,htext⟩))
 have hheader:readBatchHeader.run (batchPayload transaction)=_:=
  readBatchHeader_append transaction (transaction.items.flatMap appendBatchItem) hvalid hdetail
 have hitems:=Reader.readMany_append (readBatchItem kBatchRenameTransactionVersion)
  appendBatchItem itemTextsValid transaction.items
  (fun item hmem rest=>readBatchItem_append item rest (hitem item hmem)) []
 rw [List.append_nil,←hvalid.version] at hitems
 have hwhole:({ ({ transaction with items:=[] } : BatchRenameTransaction) with
   items:=transaction.items,version := kBatchRenameTransactionVersion }:
   BatchRenameTransaction)=transaction:=by
  rw [←hvalid.version]
 rw [decodeBatchTransaction_iff,hheader,batchTextsValid,Bool.and_eq_true]
 constructor
 · rintro ⟨-,header,i,body,hsome,items,hread,htext,-,rfl⟩
   simp only [Option.some.injEq,Prod.mk.injEq] at hsome
   obtain ⟨⟨rfl,rfl⟩,rfl⟩:=hsome
   by_cases hall:transaction.items.all itemTextsValid
   · rw [hitems,if_pos hall] at hread
     obtain ⟨rfl,-⟩:=Prod.mk.inj (Option.some.inj hread)
     exact ⟨⟨htext,hall⟩,hwhole⟩
   · rw [hitems,if_neg hall] at hread
     cases hread
 · rintro ⟨⟨htext,hall⟩,rfl⟩
   rw [if_pos hall] at hitems
   exact ⟨hsize,_,_,_,rfl,_,hitems,htext,hvalid,hwhole⟩

end VoVe.BatchTransactionCodec
