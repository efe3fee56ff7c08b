import Mathlib.Algebra.Order.BigOperators.Group.List
import VoVe.TrashJournal
import VoVe.TrashRoundTrip

set_option autoImplicit false

namespace VoVe.TrashJournalSize
open ByteCodec PosixPath FileOperationProtocol CurrentOperationJournal TrashRecord TrashRecordCodec
 TrashJournal TrashRoundTrip

/-- What decides how long the record of an item is, its revision aside. -/
structure Shape where
 storageIndex : UInt32
 restorePath : Path
 stored : Path
 current : Path
 location : TrashItemLocation
 rest : ℕ

variable (record : BasicDirectoryTransferEntry × Bytes)

def entryBytes : ℕ:=
 32+record.1.relativePath.native.length+record.1.sourceRevisionUtf8.length+record.2.length

def shapeOf (item : TrashItem) : Shape where
 storageIndex:=item.storageIndex
 restorePath:=item.restorePath
 stored:=item.stored
 current:=item.current
 location:=item.location
 rest:=64+item.original.native.length+((entryRecords item).map entryBytes).sum +
  item.storageIdentityUtf8.length+item.originalSecurityDescriptorSddlUtf8.length

variable (transaction : TrashTransaction)

def shapes : List Shape := transaction.items.map shapeOf

def Shape.bytes (shape : Shape) : ℕ:=
 shape.rest+shape.restorePath.native.length+shape.stored.native.length +
  shape.current.native.length

variable (version : UInt32)

/-- The storage index is written from version 11 on. -/
def indexBytes : ℕ := if version ≥ 11 then 4 else 0

lemma indexBytes_le : indexBytes version≤4:=by
 unfold indexBytes
 split
 · exact le_rfl
 · exact Nat.zero_le 4

lemma length_appendEntry : (appendEntry record).length=entryBytes record:=by
 simp only [appendEntry,List.length_append,appendEnum_length,appendInteger_length,
  appendString_length,WireInteger.width,entryBytes]
 omega

lemma length_appendTrashItem (item : TrashItem):
 (appendTrashItem version item).length=(shapeOf item).bytes +
  item.currentSnapshot.sourceRevisionUtf8.length+indexBytes version:=by
 have hindex:(if version≥11 then appendInteger item.storageIndex else []).length=
   indexBytes version:=by
  unfold indexBytes
  split
  · rfl
  · rfl
 simp only [appendTrashItem,appendItemHead,appendItemState,List.length_append,
  appendEnum_length,appendInteger_length,appendString_length,WireInteger.width,
  List.length_flatMap,funext length_appendEntry,hindex,shapeOf,Shape.bytes]
 omega

lemma length_trashPayload:
 (trashPayload transaction).length=40+transaction.failureDetailUtf8.length +
  (transaction.items.map fun item=>(shapeOf item).bytes +
   item.currentSnapshot.sourceRevisionUtf8.length +
    indexBytes (wireVersion transaction)).sum:=by
 simp only [trashPayload,List.length_append,appendEnum_length,appendInteger_length,
  appendString_length,WireInteger.width,List.length_flatMap,
  funext (length_appendTrashItem (wireVersion transaction))]
 omega

lemma length_le_entryBytes {record : BasicDirectoryTransferEntry × Bytes} {text : Bytes}
 (h:text∈entryStrings record) : text.length≤entryBytes record:=by
 simp only [entryStrings,List.mem_cons,List.not_mem_nil,or_false] at h
 unfold entryBytes
 obtain rfl | rfl | rfl:=h
 · omega
 · omega
 · omega

lemma length_le_itemBytes {item : TrashItem} {text : Bytes} (h:text∈itemStrings item):
 text.length≤(shapeOf item).bytes+item.currentSnapshot.sourceRevisionUtf8.length:=by
 simp only [itemStrings,headStrings,stateStrings,List.mem_append,List.mem_cons,
  List.not_mem_nil,or_false,List.mem_flatMap] at h
 simp only [Shape.bytes,shapeOf]
 obtain (rfl | rfl | rfl | rfl | rfl) | ⟨record,hrecord,htext⟩ | rfl | rfl:=h
 case inr.inl =>
  have hle:=length_le_entryBytes htext
  have hsum:entryBytes record≤((entryRecords item).map entryBytes).sum:=
   List.single_le_sum (fun _ _=>Nat.zero_le _) _ (List.mem_map_of_mem hrecord)
  omega
 all_goals omega

lemma length_le_trashPayload {transaction : TrashTransaction} {text : Bytes}
 (h:text∈trashStrings transaction) : text.length≤(trashPayload transaction).length:=by
 rw [length_trashPayload]
 obtain rfl | hmem:=List.mem_cons.mp h
 · omega
 · obtain ⟨item,hitem,htext⟩:=List.mem_flatMap.mp hmem
   have hle:=length_le_itemBytes htext
   have hsum:=List.single_le_sum (fun _ _=>Nat.zero_le _) _ (List.mem_map_of_mem
    (f := fun item=>(shapeOf item).bytes+item.currentSnapshot.sourceRevisionUtf8.length +
     indexBytes (wireVersion transaction)) hitem)
   omega

lemma encodes_of_length {transaction : TrashTransaction} (hvalid:TrashValid transaction)
 (hlength:(trashPayload transaction).length≤kMaximumCurrentOperationPayloadBytes):
 encodeTrashTransaction transaction=.ok (trashPayload transaction):=by
 have hlimit:kMaximumCurrentOperationPayloadBytes≤TrashRecordCodec.maximumPayloadBytes:=by
  decide
 have hsmall:kMaximumCurrentOperationPayloadBytes<2 ^ 32:=by decide
 rw [encodeTrashTransaction_iff]
 refine ⟨hvalid,fun text htext=>?_,hlength.trans hlimit,rfl⟩
 have htext:=length_le_trashPayload htext
 omega

def textBytes : ℕ:=
 transaction.failureDetailUtf8.length +
  (transaction.items.map fun item=>item.currentSnapshot.sourceRevisionUtf8.length).sum

variable (prepared : TrashTransaction)

def recordedRevision (storageIndex : UInt32) : Bytes:=
 prepared.items[storageIndex.toNat]?.elim [] (·.currentSnapshot.sourceRevisionUtf8)

def asRecorded (prepared transaction : TrashTransaction) : TrashTransaction:=
 { transaction with
   failureDetailUtf8:=[]
   items:=transaction.items.map fun item =>
    { item with currentSnapshot:=
       { item.currentSnapshot with
         sourceRevisionUtf8:=recordedRevision prepared item.storageIndex } } }

/-- The journal has room for the transaction and for longer texts. -/
def HasRoom (prepared transaction : TrashTransaction) : Prop:=
 (trashPayload (asRecorded prepared transaction)).length+kMaximumOperationPayloadBytes / 2 ≤
  kMaximumCurrentOperationPayloadBytes

/-- The confirmed texts are at most half an operation payload longer. -/
def TextsBounded (prepared transaction : TrashTransaction) : Prop:=
 textBytes transaction ≤
  textBytes (asRecorded prepared transaction)+kMaximumOperationPayloadBytes / 2

def placeAt (item : TrashItem) (location : TrashItemLocation) : TrashItem:=
 { item with
   current:=match location with
    | .source=>item.restorePath
    | .stored=>item.stored
    | .deleted=>⟨[]⟩
   location:=location }

def split (first rest : TrashItemLocation) (count : ℕ) (transaction : TrashTransaction):
  TrashTransaction:=
 { transaction with
   items:=transaction.items.mapIdx fun index item =>
    placeAt item (if index < count then first else rest) }

def RoomToMove : Prop:=
 ∀count,HasRoom prepared
  (split .stored .source count { prepared with phase:=.cancelRemainingIntent })

/-- There is room for a restore that has put any number of items back. -/
def RoomToRestore (prepared plan : TrashTransaction) : Prop:=
 ∀count,HasRoom prepared (split .source .stored count plan)

section Texts
variable {prepared transaction other : TrashTransaction}

lemma wireVersion_congr (hphase:cancelling transaction=cancelling other)
 (hindexes:(shapes transaction).map (·.storageIndex)=(shapes other).map (·.storageIndex)):
 wireVersion transaction=wireVersion other:=by
 have hlength:transaction.items.length=other.items.length:=by
  simpa [shapes] using congrArg List.length hindexes
 have hslots:transaction.items.map (fun item=>item.storageIndex.toNat)=
   other.items.map (fun item=>item.storageIndex.toNat):=by
  have h:=congrArg (List.map UInt32.toNat) hindexes
  simpa only [shapes,List.map_map,Function.comp_def,shapeOf] using h
 have hphases:(transaction.phase=.cancelRemainingIntent ∨
   transaction.phase=.cancelContainerRemoveIntent) ↔
   (other.phase=.cancelRemainingIntent ∨ other.phase=.cancelContainerRemoveIntent):=by
  simpa only [cancelling,decide_eq_decide] using hphase
 unfold wireVersion
 rw [hslots,hlength]
 simp only [←or_assoc,hphases]

@[simp] lemma shapes_asRecorded : shapes (asRecorded prepared transaction)=shapes transaction:=by
 simp only [shapes,asRecorded,List.map_map]
 rfl

lemma wireVersion_asRecorded:
 wireVersion (asRecorded prepared transaction)=wireVersion transaction:=
 wireVersion_congr rfl (by rw [shapes_asRecorded])

/-- The bytes of a record apart from its texts. -/
def frameBytes (transaction : TrashTransaction) : ℕ:=
 40+((shapes transaction).map fun shape =>
  shape.bytes+indexBytes (wireVersion transaction)).sum

lemma length_eq_frame (transaction : TrashTransaction):
 (trashPayload transaction).length=frameBytes transaction+textBytes transaction:=by
 have hsum:(transaction.items.map fun item=>(shapeOf item).bytes +
   item.currentSnapshot.sourceRevisionUtf8.length+indexBytes (wireVersion transaction)).sum=
   (transaction.items.map fun item =>
    (shapeOf item).bytes+indexBytes (wireVersion transaction)).sum +
   (transaction.items.map fun item=>item.currentSnapshot.sourceRevisionUtf8.length).sum:=by
  rw [←List.sum_map_add]
  refine congrArg List.sum (List.map_congr_left fun item _=>?_)
  omega
 rw [length_trashPayload,hsum,frameBytes,textBytes,shapes,List.map_map]
 simp only [Function.comp_def]
 omega

lemma frameBytes_asRecorded : frameBytes (asRecorded prepared transaction)=frameBytes transaction:=by
 rw [frameBytes,frameBytes,shapes_asRecorded,wireVersion_asRecorded]

lemma HasRoom.length_le (h:HasRoom prepared transaction)
 (htexts:TextsBounded prepared transaction):
 (trashPayload transaction).length≤kMaximumCurrentOperationPayloadBytes:=by
 unfold HasRoom at h
 unfold TextsBounded at htexts
 rw [length_eq_frame,frameBytes_asRecorded] at h
 rw [length_eq_frame]
 omega

/-- The bytes an item takes with the recorded texts. -/
def roomOf (prepared : TrashTransaction) (version : UInt32) (shape : Shape) : ℕ:=
 shape.bytes+indexBytes version+(recordedRevision prepared shape.storageIndex).length

lemma length_asRecorded : (trashPayload (asRecorded prepared transaction)).length=
 40+((shapes transaction).map (roomOf prepared (wireVersion transaction))).sum:=by
 have htexts:textBytes (asRecorded prepared transaction)=((shapes transaction).map fun shape =>
   (recordedRevision prepared shape.storageIndex).length).sum:=by
  simp only [textBytes,asRecorded,List.length_nil,Nat.zero_add,List.map_map,shapes]
  rfl
 rw [length_eq_frame,frameBytes_asRecorded,htexts,frameBytes,Nat.add_assoc, ← List.sum_map_add]
 rfl

end Texts

section Splits
variable {first rest : TrashItemLocation} {count : ℕ} {plan : TrashTransaction}

def Shape.placed (shape : Shape) (location : TrashItemLocation) : Shape:=
 { shape with
   current:=match location with
    | .source=>shape.restorePath
    | .stored=>shape.stored
    | .deleted=>⟨[]⟩
   location:=location }

lemma shapeOf_placeAt (item : TrashItem) (location : TrashItemLocation):
 shapeOf (placeAt item location)=(shapeOf item).placed location := rfl

lemma shapes_split : shapes (split first rest count plan)=
 (shapes plan).mapIdx fun n shape=>shape.placed (if n<count then first else rest):=by
 refine List.ext_getElem (by simp [shapes,split]) ?_
 intro n h h'
 simp only [shapes,split,List.getElem_map,List.getElem_mapIdx,shapeOf_placeAt]

lemma getElem_split {n : ℕ} (h:n<(shapes (split first rest count plan)).length)
 (hplan:n<(shapes plan).length) : (shapes (split first rest count plan))[n]=
  (shapes plan)[n].placed (if n<count then first else rest):=by
 simp only [shapes_split,List.getElem_mapIdx]

lemma length_split : (shapes (split first rest count plan)).length=(shapes plan).length:=by
 rw [shapes_split,List.length_mapIdx]

lemma split_set {n after : ℕ} {location : TrashItemLocation}
 (hindex:n<(shapes plan).length)
 (hstep:location=first ∧ n=count ∧ after=count+1 ∨ location=rest ∧ n+1=count ∧ after=n):
 (shapes (split first rest count plan)).set n ((shapes plan)[n].placed location)=
  shapes (split first rest after plan):=by
 refine List.ext_getElem (by rw [List.length_set,length_split,length_split]) ?_
 intro i hi hi'
 have hplan:i<(shapes plan).length:=by rwa [length_split] at hi'
 rw [List.getElem_set,getElem_split hi' hplan]
 split
 · next hsame =>
   subst hsame
   obtain ⟨rfl,rfl,rfl⟩ | ⟨rfl,rfl,rfl⟩:=hstep
   · rw [if_pos (by omega)]
   · rw [if_neg (by omega)]
 · next hother =>
   rw [getElem_split (by rwa [length_split]) hplan]
   have hiff:i<count ↔ i<after:=by omega
   simp only [hiff]

end Splits

end VoVe.TrashJournalSize
