import VoVe.TrashRecordCodec

set_option autoImplicit false

namespace VoVe.TrashRoundTrip
open ByteCodec AsciiText Checks TransactionCodec TrashRecord TrashRecordCodec

def clearedItem (item : TrashItem) : TrashItem:=
 { item with
   directorySecurityDescriptorsSddlUtf8:=
    presentDescriptors item.directorySecurityDescriptorsSddlUtf8 }

variable (transaction : TrashTransaction)

def cleared : TrashTransaction:=
 { transaction with items:=transaction.items.map clearedItem }

def itemTextsValid (item : TrashItem) : Bool := (itemStrings item).all validUtf8WithoutNul

/-- Every text the decoder checks by itself is valid UTF-8 without NUL. -/
def trashTextsValid : Bool := transaction.items.all itemTextsValid

section Validity
variable {transaction : TrashTransaction} {parents : Parents} {before : List TrashItem}
 {item : TrashItem}

lemma presentDescriptors_cases (descriptors : List Bytes):
 presentDescriptors descriptors=[] ∨ presentDescriptors descriptors=descriptors:=by
 unfold presentDescriptors
 split
 · exact .inl rfl
 · exact .inr rfl

lemma validDirectoryPayload_cleared (h:validDirectoryPayload item=.ok ()):
 validDirectoryPayload (clearedItem item)=.ok ():=by
 obtain hnone | hsame:=presentDescriptors_cases item.directorySecurityDescriptorsSddlUtf8
 · unfold validDirectoryPayload at h ⊢
   cases hkind:item.kind with
   | regularFile=>
    simp only [hkind,require_eq_ok,decide_eq_true_eq] at h
    simp only [clearedItem,hkind,hnone,require_eq_ok,decide_eq_true_eq]
    exact ⟨h.1,trivial,h.2.2⟩
   | directory=>
    simp only [hkind,bind_unit_eq_ok,require_eq_ok,decide_eq_true_eq] at h
    simp only [clearedItem,hkind,hnone,bind_unit_eq_ok,require_eq_ok,decide_eq_true_eq]
    obtain ⟨⟨hsize,hcount,-,hcursor⟩,hrest⟩:=h
    exact ⟨⟨hsize,hcount,.inl trivial,hcursor⟩,hrest⟩
 · have hitem:clearedItem item=item:=by
    unfold clearedItem
    rw [hsame]
   rw [hitem]
   exact h

lemma checkItem_cleared (h:checkItem transaction parents before item=.ok ()):
 checkItem (cleared transaction) parents (before.map clearedItem) (clearedItem item)=
  .ok ():=by
 unfold checkItem at h ⊢
 simp only [bind_unit_eq_ok] at h ⊢
 obtain ⟨hpaths,hidentity,hpayload,hsecurity,hdistinct⟩:=h
 refine ⟨?_,hidentity,validDirectoryPayload_cleared hpayload,hsecurity,?_⟩
 · rw [←hpaths]
   simp only [itemPathsValid,List.getLast?_map,Option.all_map]
   rfl
 · rw [←hdistinct]
   simp only [List.map_map]
   rfl

lemma activeStepMatches_cleared (transaction : TrashTransaction):
 activeStepMatches (cleared transaction)=activeStepMatches transaction:=by
 simp only [activeStepMatches,cleared,List.getElem?_map]
 cases transaction.items[transaction.activeIndex.toNat]? with
 | none=>rfl
 | some item=>rfl

lemma trashValid_iff (transaction : TrashTransaction) : TrashValid transaction ↔
 ∃ first,transaction.items.head?=some first ∧
  (transaction.version=kTrashTransactionVersion ∧ transaction.operationId≠0 ∧
   transaction.createdUnixNs>0 ∧ transaction.items.length≤kMaximumTrashItems) ∧
  activeStepMatches transaction ∧ validUtf8WithoutNul transaction.failureDetailUtf8 ∧
  ((transaction.activeStep=.none → transaction.activeEvidence=.none) ∧
   (transaction.failureStatus=.success → transaction.activeEvidence=.none)) ∧
  (parentsOf first).container.same (trashContainerPath (parentsOf first).container.parentPath
   transaction.operationId) ∧
  checkEach (checkItem transaction (parentsOf first)) [] transaction.items=.ok ():=by
 simp only [TrashValid,validTrashTransaction,found_bind_eq_ok,bind_unit_eq_ok,require_eq_ok,
  decide_eq_true_eq]

lemma trashValid_cleared (h:TrashValid transaction) : TrashValid (cleared transaction):=by
 rw [trashValid_iff] at h ⊢
 obtain ⟨first,hfirst,hheader,hactive,hdetail,hevidence,hcontainer,hloop⟩:=h
 refine ⟨clearedItem first,?_,?_,?_,hdetail,hevidence,hcontainer,?_⟩
 · simp only [cleared,List.head?_map,hfirst,Option.map_some]
 · simpa only [cleared,List.length_map] using hheader
 · rw [activeStepMatches_cleared]
   exact hactive
 · rw [checkEach_eq_ok] at hloop ⊢
   intro n hindex
   have hitem:n<transaction.items.length:=by
    simpa only [cleared,List.length_map] using hindex
   have hcheck:=checkItem_cleared (hloop n hitem)
   have hparents:parentsOf (clearedItem first)=parentsOf first:=rfl
   rw [hparents]
   simpa only [cleared,List.map_take,List.getElem_map] using hcheck

end Validity

section Reading
variable {transaction : TrashTransaction} {item : TrashItem} {version : UInt32}

lemma wireVersion_cases (transaction : TrashTransaction):
 wireVersion transaction=10 ∨ wireVersion transaction=11:=by
 unfold wireVersion
 split
 · exact .inr rfl
 · exact .inl rfl

lemma readPayloadState_bind {β : Type} (hversion:version≥directoryTransactionVersion)
 (hcount:item.directoryEntries.length≤kMaximumTrashDirectoryEntries) (sizeBytes : UInt64)
 (f : TrashItemKind × UInt64 × UInt32 × ℕ → Reader β) (rest : Bytes):
 (readPayloadState version sizeBytes >>= f).run (appendEnum item.kind ++
  (appendInteger item.payloadBytes++(appendInteger item.directoryPurgeCursor ++
  (appendInteger (UInt32.ofNat item.directoryEntries.length)++rest))))=
  (f (item.kind,item.payloadBytes,item.directoryPurgeCursor,
   item.directoryEntries.length)).run rest:=by
 have hnat:(UInt32.ofNat item.directoryEntries.length).toNat=item.directoryEntries.length:=by
  unfold kMaximumTrashDirectoryEntries at hcount
  simp only [UInt32.toNat_ofNat']
  omega
 rw [Reader.run_bind,readPayloadState,if_pos hversion]
 simp only [Reader.readEnum_bind,Reader.readInteger_bind,Reader.check_bind,hnat,
  decide_eq_true hcount,if_true,Reader.run_pure,Option.bind_some]

lemma readItemHead_append (hversion:version≥directoryTransactionVersion)
 (hcount:item.directoryEntries.length≤kMaximumTrashDirectoryEntries)
 (hstrings:∀text∈headStrings item,text.length<2 ^ 32) {failureDetailUtf8 : Bytes}
 (hdetail:validUtf8WithoutNul failureDetailUtf8) (rest : Bytes):
 (readItemHead version failureDetailUtf8).run (appendItemHead item++rest)=
  if (headStrings item).all validUtf8WithoutNul then
   some (({ original:=item.original,restorePath:=item.restorePath,stored:=item.stored,
            current:=item.current,kind := item.kind,payloadBytes := item.payloadBytes,
            directoryPurgeCursor:=item.directoryPurgeCursor,
            currentSnapshot:=item.currentSnapshot },item.directoryEntries.length),rest)
  else none:=by
 simp only [headStrings,List.forall_mem_cons] at hstrings
 obtain ⟨horiginal,hrestore,hstored,hcurrent,hrevision,-⟩:=hstrings
 simp only [readItemHead,appendItemHead,List.append_assoc,readText_bind,horiginal,hrestore,
  hstored,hcurrent,hrevision,Reader.readInteger_bind,readPayloadState_bind hversion hcount,
  Reader.check_bind,hdetail,if_true,Reader.run_pure]
 simp only [headStrings,List.all_cons,List.all_nil,Bool.and_true,Bool.and_eq_true,ite_and]

lemma readEntry_append (record : BasicDirectoryTransferEntry × Bytes)
 (hstrings:∀text∈entryStrings record,text.length<2 ^ 32) (rest : Bytes):
 readEntry.run (appendEntry record++rest)=
  if (entryStrings record).all validUtf8WithoutNul then some (record,rest) else none:=by
 simp only [entryStrings,List.forall_mem_cons] at hstrings
 obtain ⟨hpath,hrevision,hdescriptor,-⟩:=hstrings
 simp only [readEntry,appendEntry,List.append_assoc,readText_bind,hpath,hrevision,
  hdescriptor,Reader.readInteger_bind,Reader.readEnum_bind,Reader.check_bind,
  Reader.run_pure]
 simp only [entryStrings,List.all_cons,List.all_nil,Bool.and_true,Bool.and_eq_true,ite_and]
 rfl

lemma readItemState_append (hversion:version≥previousTransactionVersion) (head:TrashItem)
 (hstrings:∀text∈stateStrings item,text.length<2 ^ 32) (rest : Bytes):
 (readItemState version head).run (appendItemState item++rest)=
  if (stateStrings item).all validUtf8WithoutNul then
   some ({ head with
    storageIdentityUtf8:=item.storageIdentityUtf8,location := item.location,
    securityState:=item.securityState,
    originalSecurityDescriptorSddlUtf8:=item.originalSecurityDescriptorSddlUtf8 },rest)
  else none:=by
 simp only [stateStrings,List.forall_mem_cons] at hstrings
 obtain ⟨hidentity,hdescriptor,-⟩:=hstrings
 simp only [readItemState,appendItemState,if_pos hversion,List.append_assoc,readText_bind,
  hidentity,hdescriptor,Reader.readEnum_bind,Reader.run_pure]
 simp only [stateStrings,List.all_cons,List.all_nil,Bool.and_true,Bool.and_eq_true,ite_and]

lemma readStorageIndex_append (version : UInt32) (n : ℕ) (rest : Bytes):
 (readStorageIndex version n).run
  ((if version≥11 then appendInteger item.storageIndex else [])++rest)=
  some (if version≥11 then item.storageIndex else UInt32.ofNat n,rest):=by
 unfold readStorageIndex
 split
 · rw [Reader.readInteger_append]
 · rfl

lemma entryRecords_descriptors
 (h:item.directorySecurityDescriptorsSddlUtf8=[] ∨
  item.directorySecurityDescriptorsSddlUtf8.length=item.directoryEntries.length):
 presentDescriptors ((entryRecords item).map Prod.snd)=
  presentDescriptors item.directorySecurityDescriptorsSddlUtf8:=by
 obtain hnone | hlength:=h
 · have hall:((entryRecords item).map Prod.snd).all (·=[])=true:=by
    simp [entryRecords,hnone]
   rw [presentDescriptors,if_pos hall,hnone]
   rfl
 · congr 1
   refine List.ext_getElem (by simp [entryRecords,hlength]) fun i hleft hright=>?_
   simp [entryRecords,hright]

lemma entryRecords_entries : (entryRecords item).map Prod.fst=item.directoryEntries:=by
 refine List.ext_getElem (by simp [entryRecords]) fun i hleft hright=>?_
 simp [entryRecords]

lemma readEntries_append (hstrings:∀record∈entryRecords item,
 ∀text∈entryStrings record,text.length<2 ^ 32) (rest : Bytes):
 OkExactly ((DetailReader.readItems (fun _=>DetailReader.group readEntry
   (utf8 "trash directory entry is invalid or truncated")) 0
    item.directoryEntries.length).run ((entryRecords item).flatMap appendEntry++rest))
  ((entryRecords item).all fun record=>(entryStrings record).all validUtf8WithoutNul)
  (entryRecords item,rest):=by
 have hread:=DetailReader.readItems_append (fun _=>DetailReader.group readEntry
   (utf8 "trash directory entry is invalid or truncated")) appendEntry _ (fun _ record=>record)
  (entryRecords item) 0 (fun _ record hrecord rest=>DetailReader.okExactly_group
   (readEntry_append record (hstrings record hrecord) rest) _) rest
 have hlength:(entryRecords item).length=item.directoryEntries.length:=by
  simp [entryRecords]
 have hsame:(entryRecords item).mapIdx (fun _ record=>record)=entryRecords item:=
  List.ext_getElem (by simp) fun i hleft hright=>by simp
 rw [hsame,hlength] at hread
 exact hread

/-- The item as the decoder gives it back. -/
def restoredItem (version : UInt32) (index : ℕ) (item : TrashItem) : TrashItem:=
 { clearedItem item with
   storageIndex:=if version ≥ 11 then item.storageIndex else UInt32.ofNat index }

lemma descriptors_of_valid (h:validDirectoryPayload item=.ok ()):
 item.directoryEntries.length≤kMaximumTrashDirectoryEntries ∧
  (item.directorySecurityDescriptorsSddlUtf8=[] ∨
   item.directorySecurityDescriptorsSddlUtf8.length=item.directoryEntries.length):=by
 unfold validDirectoryPayload at h
 cases hkind:item.kind with
 | regularFile=>
  simp only [hkind,require_eq_ok,decide_eq_true_eq] at h
  rw [h.1]
  exact ⟨Nat.zero_le _,.inl h.2.1⟩
 | directory=>
  simp only [hkind,bind_unit_eq_ok,require_eq_ok,decide_eq_true_eq] at h
  exact ⟨h.1.2.1,h.1.2.2.1⟩

lemma readTrashItem_append (hversion:version≥10)
 (hpayload:validDirectoryPayload item=.ok ())
 (hstrings:∀text∈itemStrings item,text.length<2 ^ 32) {failureDetailUtf8 : Bytes}
 (hdetail:validUtf8WithoutNul failureDetailUtf8) (n : ℕ) (rest : Bytes):
 OkExactly ((readTrashItem version failureDetailUtf8 n).run
  (appendTrashItem version item++rest)) (itemTextsValid item)
  (restoredItem version n item,rest):=by
 obtain ⟨hcount,hdescriptors⟩:=descriptors_of_valid hpayload
 have hprevious:version≥previousTransactionVersion:=UInt32.le_trans (by decide) hversion
 have hdirectory:version≥directoryTransactionVersion:=UInt32.le_trans (by decide) hversion
 simp only [itemStrings,List.mem_append,List.mem_flatMap] at hstrings
 have hhead:=DetailReader.okExactly_group (readItemHead_append hdirectory hcount
  (fun text h=>hstrings text (.inl h)) hdetail ((entryRecords item).flatMap appendEntry ++
   (appendItemState item++(appendEnum item.payloadPolicy ++
   ((if version≥11 then appendInteger item.storageIndex else [])++rest)))))
  (utf8 "trash transaction item is invalid or truncated")
 have hentries:=readEntries_append (fun record hrecord text htext =>
   hstrings text (.inr (.inl ⟨record,hrecord,htext⟩))) (appendItemState item ++
   (appendEnum item.payloadPolicy ++
   ((if version≥11 then appendInteger item.storageIndex else [])++rest)))
 have hstate:=fun head=>DetailReader.okExactly_group
  (readItemState_append hprevious head (fun text h=>hstrings text (.inr (.inr h)))
   (appendEnum item.payloadPolicy ++
    ((if version≥11 then appendInteger item.storageIndex else [])++rest)))
  (utf8 "trash transaction item state is invalid or truncated")
 have hpolicy:(readPayloadPolicy version).run (appendEnum item.payloadPolicy ++
   ((if version≥11 then appendInteger item.storageIndex else [])++rest))=
   if true then some (item.payloadPolicy,
    (if version≥11 then appendInteger item.storageIndex else [])++rest) else none:=by
  rw [readPayloadPolicy,if_pos hversion,Reader.readEnum_append,if_pos rfl]
 have hindex:(readStorageIndex version n).run
   ((if version≥11 then appendInteger item.storageIndex else [])++rest)=if true then
    some (if version≥11 then item.storageIndex else UInt32.ofNat n,rest) else none:=by
  rw [readStorageIndex_append,if_pos rfl]
 have htexts:itemTextsValid item=((headStrings item).all validUtf8WithoutNul &&
   ((entryRecords item).all (fun record=>(entryStrings record).all validUtf8WithoutNul) &&
   ((stateStrings item).all validUtf8WithoutNul && (true && (true && true))))):=by
  simp [itemTextsValid,itemStrings,List.all_flatMap]
 have hback:restoredItem version n item={ item with
   directoryEntries:=(entryRecords item).map Prod.fst
   directorySecurityDescriptorsSddlUtf8:=presentDescriptors ((entryRecords item).map Prod.snd)
   storageIndex:=if version≥11 then item.storageIndex else UInt32.ofNat n }:=by
  rw [entryRecords_entries,entryRecords_descriptors hdescriptors]
  rfl
 rw [hback,htexts,readTrashItem,appendTrashItem]
 simp only [List.append_assoc]
 exact DetailReader.okExactly_run_bind hhead (DetailReader.okExactly_run_bind hentries
  (DetailReader.okExactly_run_bind (hstate _) (DetailReader.okExactly_run_bind
   (DetailReader.okExactly_group hpolicy _) (DetailReader.okExactly_run_bind
    (DetailReader.okExactly_group hindex _) (okExactly_ok _)))))

lemma restoredItems (transaction : TrashTransaction):
 transaction.items.mapIdx (restoredItem (wireVersion transaction))=
  transaction.items.map clearedItem:=by
 refine List.ext_getElem (by simp) fun i hleft hright=>?_
 have hi:i<transaction.items.length:=by simpa using hright
 simp only [List.getElem_mapIdx,List.getElem_map,restoredItem]
 by_cases hversion:wireVersion transaction≥11
 · rw [if_pos hversion]
   rfl
 · have hsparse:transaction.items.map (fun item=>item.storageIndex.toNat)=
     List.range transaction.items.length:=by
    by_contra hne
    refine hversion ?_
    rw [wireVersion,if_pos (.inr (.inr hne))]
    decide
   have hslot:transaction.items[i].storageIndex.toNat=i:=by
    have hget:=List.getElem_of_eq hsparse (by simpa using hi)
    simpa using hget
   rw [if_neg hversion]
   have hindex:UInt32.ofNat i=transaction.items[i].storageIndex:=by
    rw [←UInt32.ofNat_toNat (x := transaction.items[i].storageIndex),hslot]
   rw [hindex]
   rfl

lemma encodeTrashTransaction_iff (payload : Bytes):
 encodeTrashTransaction transaction=.ok payload ↔
  TrashValid transaction ∧ (∀text∈trashStrings transaction,text.length<2 ^ 32) ∧
   (trashPayload transaction).length ≤ maximumPayloadBytes ∧
   trashPayload transaction=payload:=by
 rw [encodeTrashTransaction,bind_unit_eq_ok,throwInvalid_eq_ok,PayloadLimit.finish_eq_ok]
 rfl

lemma phaseAccepted_wireVersion (transaction : TrashTransaction):
 phaseAccepted (wireVersion transaction) transaction.phase:=by
 obtain hversion | hversion:=wireVersion_cases transaction
 · have hphase:transaction.phase≠.cancelRemainingIntent ∧
     transaction.phase≠.cancelContainerRemoveIntent:=by
    refine ⟨fun h=>?_,fun h=>?_⟩
    · rw [wireVersion,if_pos (.inl h)] at hversion
      exact absurd hversion (by decide)
    · rw [wireVersion,if_pos (.inr (.inl h))] at hversion
      exact absurd hversion (by decide)
   rw [hversion]
   revert hphase
   cases transaction.phase<;>decide
 · rw [hversion]
   simp [phaseAccepted]

lemma readTrashHeader_append (hvalid:TrashValid transaction)
 (h:transaction.failureDetailUtf8.length<2 ^ 32):
 readTrashHeader.run (trashPayload transaction)=
  some (({ transaction with items:=[],version:=wireVersion transaction },
   transaction.items.length),
   transaction.items.flatMap (appendTrashItem (wireVersion transaction))):=by
 obtain ⟨first,hfirst,⟨-,-,-,hsize⟩,-⟩:=(trashValid_iff transaction).mp hvalid
 have hcount:(UInt32.ofNat transaction.items.length).toNat=transaction.items.length:=by
  unfold kMaximumTrashItems at hsize
  simp only [UInt32.toNat_ofNat']
  omega
 have hcountNe:UInt32.ofNat transaction.items.length≠0:=by
  intro hzero
  rw [hzero] at hcount
  rw [List.eq_nil_of_length_eq_zero hcount.symm] at hfirst
  cases hfirst
 have hversion:versionAccepted (wireVersion transaction):=by
  obtain hten | heleven:=wireVersion_cases transaction
  · rw [hten]
    decide
  · rw [heleven]
    decide
 simp only [readTrashHeader,trashPayload,Reader.readEnum_bind,Reader.readInteger_bind,
  Reader.readString_bind _ _ h,Reader.check_bind,Reader.run_pure,hcount]
 exact if_pos (decide_eq_true
  ⟨trivial,hversion,phaseAccepted_wireVersion transaction,hcountNe,hsize⟩)

lemma decodeTrashTransaction_iff (payload detail : Bytes):
 decodeTrashTransaction payload detail=.ok transaction ↔ payload.length ≤ maximumPayloadBytes ∧
  ∃ header itemCount body,readTrashHeader.run payload=some ((header,itemCount),body) ∧
  ∃ items,(DetailReader.readItems (readTrashItem header.version header.failureDetailUtf8) 0
    itemCount).run body=.ok (items,[]) ∧ TrashValid transaction ∧
   { header with items:=items,version:=kTrashTransactionVersion }=transaction:=by
 simp only [decodeTrashTransaction,bind_unit_eq_ok,found_bind_eq_ok,require_eq_ok,
  bind_pair_eq_ok,decide_eq_true_eq,orDetail_eq_ok,pure_eq_ok,Prod.exists]
 constructor
 · rintro ⟨hsize,header,itemCount,body,hheader,items,rest,hitems,rfl,hvalid,rfl⟩
   exact ⟨hsize,header,itemCount,body,hheader,items,hitems,hvalid,rfl⟩
 · rintro ⟨hsize,header,itemCount,body,hheader,items,hitems,hvalid,rfl⟩
   exact ⟨hsize,header,itemCount,body,hheader,items,[],hitems,rfl,hvalid,rfl⟩

lemma readItems_encoded (hvalid:TrashValid transaction)
 (hstrings:∀text∈trashStrings transaction,text.length<2 ^ 32):
 OkExactly ((DetailReader.readItems (readTrashItem (wireVersion transaction)
   transaction.failureDetailUtf8) 0 transaction.items.length).run
    (transaction.items.flatMap (appendTrashItem (wireVersion transaction))))
  (trashTextsValid transaction) (transaction.items.map clearedItem,[]):=by
 obtain ⟨first,-,-,-,hdetail,-,-,hloop⟩:=(trashValid_iff transaction).mp hvalid
 have hversion:wireVersion transaction≥10:=by
  obtain hten | heleven:=wireVersion_cases transaction
  · rw [hten]
    decide
  · rw [heleven]
    decide
 have hread:∀n item,item∈transaction.items → ∀rest,OkExactly
   ((readTrashItem (wireVersion transaction) transaction.failureDetailUtf8 n).run
    (appendTrashItem (wireVersion transaction) item++rest))
   (itemTextsValid item) (restoredItem (wireVersion transaction) n item,rest):=by
  intro n item hmem rest
  obtain ⟨i,hi,rfl⟩:=List.mem_iff_getElem.mp hmem
  have hcheck:=(checkEach_eq_ok _ _).mp hloop i hi
  simp only [checkItem,bind_unit_eq_ok] at hcheck
  exact readTrashItem_append hversion hcheck.2.2.1 (fun text htext =>
   hstrings text (List.mem_cons_of_mem _ (List.mem_flatMap.mpr ⟨_,hmem,htext⟩))) hdetail _ _
 have hitems:=DetailReader.readItems_append _ _ itemTextsValid _ transaction.items 0 hread []
 rw [List.append_nil] at hitems
 simp only [Nat.zero_add,restoredItems] at hitems
 exact hitems

/-- What was encoded is decoded again, without descriptors that are all empty,
  exactly when every checked text is valid. -/
lemma decode_encodeTrashTransaction {decoded : TrashTransaction} {payload : Bytes}
 (h:encodeTrashTransaction transaction=.ok payload) (detail : Bytes):
 decodeTrashTransaction payload detail=.ok decoded ↔
  trashTextsValid transaction ∧ decoded=cleared transaction:=by
 obtain ⟨hvalid,hstrings,hsize,rfl⟩:=(encodeTrashTransaction_iff _).mp h
 have hheader:=readTrashHeader_append hvalid (hstrings _ List.mem_cons_self)
 have hitems:=readItems_encoded hvalid hstrings
 have hversion:transaction.version=kTrashTransactionVersion:=by
  obtain ⟨first,-,⟨hversion,-⟩,-⟩:=(trashValid_iff transaction).mp hvalid
  exact hversion
 have hcleared:{ transaction with
   items:=transaction.items.map clearedItem
   version:=kTrashTransactionVersion }=cleared transaction:=by
  rw [←hversion]
  rfl
 rw [decodeTrashTransaction_iff,hheader]
 constructor
 · rintro ⟨-,header,itemCount,body,hsome,items,hread,-,rfl⟩
   simp only [Option.some.injEq,Prod.mk.injEq] at hsome
   obtain ⟨⟨rfl,rfl⟩,rfl⟩:=hsome
   obtain ⟨hall,heq⟩:=(hitems _).mp hread
   cases heq
   exact ⟨hall,hcleared⟩
 · rintro ⟨hall,rfl⟩
   exact ⟨hsize,_,_,_,rfl,_,(hitems _).mpr ⟨hall,rfl⟩,trashValid_cleared hvalid,hcleared⟩

end Reading

/-- Whatever wire version the encoder picks, a trash record reads back as it was
  exactly when the texts its decoder checks are valid UTF-8 without NUL. -/
theorem trash_roundTrip {transaction : TrashTransaction} {payload : Bytes}
 (h:encodeTrashTransaction transaction=.ok payload) (detail : Bytes):
 decodeTrashTransaction payload detail=.ok (cleared transaction) ↔
  trashTextsValid transaction:=by
 rw [decode_encodeTrashTransaction h detail]
 exact ⟨fun hboth=>hboth.1,fun htexts=>⟨htexts,rfl⟩⟩

/-- The file `/d/a`, selected through the directory whose name is the single byte
  0xff. -/
def trashOfLatinPath : TrashTransaction where
 operationId:=1
 createdUnixNs:=1
 items:=[preparedItem 1 ⟨[]⟩ 0
  { path:=⟨utf8 "/d/" ++ (0xff::utf8 "/../a")⟩,restorePath:=⟨utf8 "/d/a"⟩,
    snapshot:={ sizeBytes:=5,sourceRevisionUtf8:=utf8 "posix:1:2:3" } }]

lemma trashOfLatinPath_encodes:
 encodeTrashTransaction trashOfLatinPath=.ok (trashPayload trashOfLatinPath):=by
 rw [encodeTrashTransaction_iff,TrashValid]
 decide +kernel

theorem trash_roundTrip_latin:
 decodeTrashTransaction (trashPayload trashOfLatinPath) []=.ok (cleared trashOfLatinPath) ↔
  trashTextsValid trashOfLatinPath:=
 trash_roundTrip trashOfLatinPath_encodes []

/-- The record of that file cannot be read back. -/
theorem trash_unreadable : ¬∀transaction payload detail,
 encodeTrashTransaction transaction=.ok payload →
  decodeTrashTransaction payload detail=.ok (cleared transaction):=by
 intro h
 have hread:=h _ _ [] trashOfLatinPath_encodes
 rw [decode_encodeTrashTransaction trashOfLatinPath_encodes] at hread
 have htexts:trashTextsValid trashOfLatinPath=false:=by decide +kernel
 rw [htexts] at hread
 exact absurd hread.1 (by decide)

end VoVe.TrashRoundTrip
