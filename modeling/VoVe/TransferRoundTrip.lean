import VoVe.TransferTransactionCodec

set_option autoImplicit false

namespace VoVe.TransferRoundTrip
open ByteCodec AsciiText PosixPath Checks FileOperation TransactionCodec TransferTransaction
 TransferTransactionCodec

/-- The items agree in every field; the backup paths, which are not stored, as
  paths. -/
def SameItem (left right : FileTransferItem) : Prop:=
 left.overwriteBackup.same right.overwriteBackup ∧
  left = { right with overwriteBackup:=left.overwriteBackup }

def SameTransaction (left right : FileTransferTransaction) : Prop:=
 left = { right with items:=left.items } ∧ List.Forall₂ SameItem left.items right.items

section Validity
variable {left right : FileTransferItem}

lemma ownedPaths_same (h:SameItem left right) : ownedPaths left=ownedPaths right:=by
 obtain ⟨hbackup,hleft⟩:=h
 rw [hleft]
 simp only [ownedPaths,same_lexicallyNormal hbackup]

lemma itemPathsValid_same {before before' : List FileTransferItem} (o : UInt64)
 (hlength:before.length=before'.length)
 (hbefore:before.flatMap ownedPaths=before'.flatMap ownedPaths) (h:SameItem left right):
 itemPathsValid o before left=itemPathsValid o before' right:=by
 have howned:=ownedPaths_same h
 obtain ⟨hbackup,hleft⟩:=h
 have hcomponents:left.overwriteBackup.components=right.overwriteBackup.components:=by
  simpa [Path.same] using hbackup
 simp only [itemPathsValid,hlength,hbefore,howned]
 rw [hleft]
 simp only [Path.isAbsolute,Path.same,hcomponents]

lemma checkItem_same {transaction transaction' : FileTransferTransaction}
 {before before' : List FileTransferItem}
 (htransaction:transaction={ transaction' with items:=transaction.items })
 (hbefore:List.Forall₂ SameItem before before') (h:SameItem left right):
 checkItem transaction before left=checkItem transaction' before' right:=by
 have howned:before.flatMap ownedPaths=before'.flatMap ownedPaths:=by
  induction hbefore with
  | nil=>rfl
  | cons hx _ ih=>simp only [List.flatMap_cons,ownedPaths_same hx,ih]
 have hidentity:before.map sourceIdentity=before'.map sourceIdentity:=by
  clear howned
  induction hbefore with
  | nil=>rfl
  | cons hx _ ih=>
   rw [List.map_cons,List.map_cons,ih,hx.2]
   rfl
 have hfinal:(before.any fun other=>!finalItem transaction'.kind other)=
   before'.any fun other=>!finalItem transaction'.kind other:=by
  clear howned hidentity
  induction hbefore with
  | nil=>rfl
  | cons hx _ ih=>
   rw [List.any_cons,List.any_cons,ih,hx.2]
   rfl
 have hpaths:=itemPathsValid_same transaction'.operationId hbefore.length_eq howned h
 have hfilename:=same_filename h.1
 unfold checkItem
 rw [htransaction]
 simp only [hpaths,hidentity,hfinal,hfilename]
 rw [h.2]
 rfl

/-- Everything but the backup path. -/
def withoutBackup (item : FileTransferItem) : FileTransferItem:=
 { item with overwriteBackup:=⟨[]⟩ }

lemma map_withoutBackup {xs ys : List FileTransferItem} (h:List.Forall₂ SameItem xs ys):
 xs.map withoutBackup=ys.map withoutBackup:=by
 induction h with
 | nil=>rfl
 | cons hx _ ih=>
  rw [List.map_cons,List.map_cons,ih,hx.2]
  rfl

lemma map_same {β : Type} (f : FileTransferItem → β) (hf:∀item,f (withoutBackup item)=f item)
 {xs ys : List FileTransferItem} (h:List.Forall₂ SameItem xs ys) : xs.map f=ys.map f:=by
 have hcomp:f ∘ withoutBackup=f:=funext hf
 have hmap:=congrArg (List.map f) (map_withoutBackup h)
 rwa [List.map_map,List.map_map,hcomp] at hmap

lemma all_same (p : FileTransferItem → Bool) (hp:∀item,p (withoutBackup item)=p item)
 {xs ys : List FileTransferItem} (h:List.Forall₂ SameItem xs ys) : xs.all p=ys.all p:=by
 have hmap:=congrArg (fun values=>values.all id) (map_same p hp h)
 simpa only [List.all_map,Function.id_comp] using hmap

lemma activeStepMatches_same {left right : FileTransferTransaction}
 (h:SameTransaction left right) : activeStepMatches left=activeStepMatches right:=by
 obtain ⟨hleft,hitems⟩:=h
 have hget:left.items.map (itemStepMatches left)=right.items.map (itemStepMatches right):=by
  rw [map_same (itemStepMatches left) (fun _=>rfl) hitems]
  refine List.map_congr_left fun item _=>?_
  rw [hleft]
  rfl
 have hindex:left.activeIndex=right.activeIndex:=by rw [hleft]
 have hstep:left.activeStep=right.activeStep:=by rw [hleft]
 have hoption:=congrArg (fun values=>values[right.activeIndex.toNat]?) hget
 simp only [List.getElem?_map] at hoption
 simp only [activeStepMatches,hindex,hstep]
 cases hl:left.items[right.activeIndex.toNat]? with
 | none=>
  rw [hl,Option.map_none] at hoption
  rw [Option.map_eq_none_iff.mp hoption.symm]
 | some item=>
  rw [hl,Option.map_some] at hoption
  obtain ⟨item',hr,hsame⟩:=Option.map_eq_some_iff.mp hoption.symm
  rw [hr]
  simp only [hsame]

lemma validFileTransferTransaction_same {left right : FileTransferTransaction}
 (h:SameTransaction left right):
 validFileTransferTransaction left=validFileTransferTransaction right:=by
 have hactive:=activeStepMatches_same h
 obtain ⟨hleft,hitems⟩:=h
 have hloop:=checkEach_congr (fun _ _ _ _ hb hx=>checkItem_same hleft hb hx) .nil hitems
 have hempty:left.items=[] ↔ right.items=[]:=by
  rw [←List.length_eq_zero_iff,←List.length_eq_zero_iff,hitems.length_eq]
 have hidentity:=map_same sourceIdentity (fun _=>rfl) hitems
 have halias:=all_same (fun item=>snapshotEmpty item.overwriteDestinationSnapshot ||
  !(right.items.map sourceIdentity).contains
   (stableObjectIdentity item.overwriteDestinationSnapshot.sourceRevisionUtf8))
  (fun _=>rfl) hitems
 have hpristine:=all_same (pristineItem right.kind) (fun _=>rfl) hitems
 have hfinal:=all_same (finalItem right.kind) (fun _=>rfl) hitems
 have hfirst:firstNonFinal left=firstNonFinal right:=by
  have hmap:=map_same (fun item=>!finalItem right.kind item) (fun _=>rfl) hitems
  have hfind:=congrArg (List.findIdx? id) hmap
  simp only [List.findIdx?_map,Function.id_comp] at hfind
  simp only [firstNonFinal]
  rw [show left.kind=right.kind by rw [hleft],hfind]
 unfold validFileTransferTransaction
 rw [hloop,hactive,hfirst]
 rw [hleft]
 simp only [ne_eq,hempty,hitems.length_eq,hidentity,halias,hpristine,hfinal]

end Validity

section Reading
variable {transaction : FileTransferTransaction} {item : FileTransferItem}

lemma eq_of_snapshotEmpty {snapshot : SourceSnapshot} (h:snapshotEmpty snapshot):
 snapshot={}:=by
 simp only [snapshotEmpty,decide_eq_true_eq] at h
 obtain ⟨hsize,htime,hrevision⟩:=h
 cases snapshot
 simp_all

lemma snapshot_of_old_version {version least : UInt32} {snapshot : SourceSnapshot}
 (h:overwriteSnapshotValid version least snapshot) (hold:¬version≥least):
 snapshot={}:=by
 simp only [overwriteSnapshotValid,decide_eq_true_eq] at h
 obtain hempty | ⟨hversion,-⟩:=h
 · exact eq_of_snapshotEmpty hempty
 · exact absurd hversion hold

lemma overwriteState_of_old_version {version : UInt32} (hstate:overwriteStateValid item)
 (hbackup:overwriteSnapshotValid version 6 item.overwriteBackupSnapshot)
 (hold:¬version≥6) : item.overwriteState=
  if snapshotEmpty item.overwriteDestinationSnapshot then .none else .authorized:=by
 have hnone:snapshotEmpty item.overwriteBackupSnapshot=true:=by
  rw [snapshot_of_old_version hbackup hold]
  rfl
 cases hs:item.overwriteState with
 | none=>
  simp only [overwriteStateValid,hs,Bool.and_eq_true,Bool.not_not] at hstate
  rw [if_pos hstate.1]
 | authorized=>
  simp only [overwriteStateValid,hs,Bool.and_eq_true,Bool.not_eq_true'] at hstate
  rw [hstate.1]
  rfl
 | evacuated=>simp [overwriteStateValid,hs,hnone] at hstate
 | evacuatedUnexpected=>simp [overwriteStateValid,hs,hnone] at hstate

/-- The item with the backup path the decoder derives. -/
def restoredItem (operationId : UInt64) (index : ℕ) (item : FileTransferItem) : FileTransferItem:=
 { item with
   overwriteBackup:=fileTransferOverwriteBackupPath item.destination operationId index }

def itemTextTruncated : Bytes := utf8 "file-transfer transaction item text is invalid or truncated"

def storedStrings (item : FileTransferItem) : List Bytes:=
 itemTexts item++[item.overwriteDestinationSnapshot.sourceRevisionUtf8,
  item.overwriteBackupSnapshot.sourceRevisionUtf8]

lemma readFixed_append {n : ℕ} (a : FixedBytes n) (rest : Bytes):
 (Reader.readFixed n).run (a.bytes++rest)=some (a,rest):=by
 obtain ⟨bytes,rfl⟩:=a
 simp [Reader.readFixed]

lemma readTransferItem_append {version : UInt32} (hstate:overwriteStateValid item)
 (hdestination:overwriteSnapshotValid version 5 item.overwriteDestinationSnapshot)
 (hbackup:overwriteSnapshotValid version 6 item.overwriteBackupSnapshot)
 (hstrings:∀text∈storedStrings item,text.length<2 ^ 32) (o : UInt64)
 (index : ℕ) (rest : Bytes):
 (readTransferItem version o index).run (appendTransferItem version item++rest)=
  if itemTextsValid item then .ok (restoredItem o index item,rest)
  else .error itemTextTruncated:=by
 have htexts:∀text∈itemTexts item,text.length<2 ^ 32:=fun text h =>
  hstrings text (List.mem_append_left _ h)
 have hdestinationText:item.overwriteDestinationSnapshot.sourceRevisionUtf8.length<2 ^ 32:=
  hstrings _ (by simp [storedStrings])
 have hbackupText:item.overwriteBackupSnapshot.sourceRevisionUtf8.length<2 ^ 32:=
  hstrings _ (by simp [storedStrings])
 have hoverwrite:=readSnapshot_append (version≥5) item.overwriteDestinationSnapshot
  (appendItemBackup version item++rest) hdestinationText fun h =>
   snapshot_of_old_version hdestination (of_decide_eq_false h)
 have hproof:=readSnapshot_append (version≥6) item.overwriteBackupSnapshot rest hbackupText
  fun h=>snapshot_of_old_version hbackup (of_decide_eq_false h)
 simp only [decide_eq_true_eq] at hoverwrite hproof
 unfold readTransferItem appendTransferItem
 simp only [List.append_assoc]
 rw [DetailReader.group_some (readItemHeader_append item _),
  DetailReader.group_some (readFixed_append _ _),DetailReader.group_some (readFixed_append _ _),
  DetailReader.group_bind (readItemTexts_append _ _ htexts)]
 cases itemTextsValid item with
 | false=>rfl
 | true=>
  rw [if_pos rfl,if_pos rfl,appendItemOverwrite,DetailReader.group_some hoverwrite,
   appendItemBackup,DetailReader.group_some hproof,DetailReader.run_pure]
  congr 2
  by_cases hversion:version≥6
  · simp only [deriveItem,restoredItem,if_pos hversion]
    rfl
  · have hold:=overwriteState_of_old_version hstate hbackup hversion
    simp only [deriveItem,restoredItem,if_neg hversion,hold]
    rfl

lemma transferValid_header (h:TransferValid transaction):
 validTransactionVersion transaction.version ∧
  (transaction.cancelled → transaction.version≥5) ∧ transaction.items≠[] ∧
  transaction.items.length≤kMaximumFileTransferItems:=by
 unfold TransferValid validFileTransferTransaction at h
 rw [bind_unit_eq_ok,require_eq_ok,decide_eq_true_eq] at h
 obtain ⟨⟨hversion,-,hcancelled,hne,hsize⟩,-⟩:=h
 exact ⟨hversion,fun hc=>(hcancelled hc).1,hne,hsize⟩

lemma transferValid_item (h:TransferValid transaction) (index : ℕ)
 (hindex:index<transaction.items.length) : checkItem transaction
  (transaction.items.take index) transaction.items[index]=.ok ():=by
 unfold TransferValid validFileTransferTransaction at h
 simp only [bind_unit_eq_ok] at h
 obtain ⟨-,-,-,hloop,-⟩:=h
 exact (checkEach_eq_ok _ _).mp hloop index hindex

lemma checkItem_overwrite {before : List FileTransferItem}
 (h:checkItem transaction before item=.ok ()) : overwriteStateValid item ∧
  overwriteSnapshotValid transaction.version 5 item.overwriteDestinationSnapshot ∧
  overwriteSnapshotValid transaction.version 6 item.overwriteBackupSnapshot ∧
  SameItem (restoredItem transaction.operationId before.length item) item:=by
 unfold checkItem at h
 simp only [bind_unit_eq_ok,require_eq_ok] at h
 obtain ⟨hstate,hdestination,hbackup,hpaths,-⟩:=h
 refine ⟨hstate,hdestination,hbackup,?_,rfl⟩
 simp only [itemPathsValid,Bool.and_eq_true] at hpaths
 exact same_symm hpaths.1.1.1.1.2

/-- The transaction with the backup paths the decoder derives. -/
def restored (transaction : FileTransferTransaction) : FileTransferTransaction:=
 { transaction with items:=transaction.items.mapIdx (restoredItem transaction.operationId) }

lemma restored_same (h:TransferValid transaction):
 SameTransaction (restored transaction) transaction:=by
 refine ⟨rfl,List.forall₂_iff_get.mpr ⟨by simp [restored],fun i hleft hright=>?_⟩⟩
 obtain ⟨-,-,-,hsame⟩:=checkItem_overwrite (transferValid_item h i hright)
 rw [List.length_take,Nat.min_eq_left (Nat.le_of_lt hright)] at hsame
 simpa [restored] using hsame

lemma encodeFileTransferTransaction_iff (payload : Bytes):
 encodeFileTransferTransaction transaction=.ok payload ↔
  TransferValid transaction ∧ (∀text∈transferStrings transaction,text.length<2 ^ 32) ∧
   (transferPayload transaction).length ≤ maximumPayloadBytes ∧
   transferPayload transaction=payload:=by
 rw [encodeFileTransferTransaction,bind_unit_eq_ok,throwInvalid_eq_ok, PayloadLimit.finish_eq_ok]
 rfl

lemma flatMap_same {β : Type} (f : FileTransferItem → List β)
 (hf:∀item,f (withoutBackup item)=f item) {xs ys : List FileTransferItem}
 (h:List.Forall₂ SameItem xs ys) : xs.flatMap f=ys.flatMap f:=by
 rw [List.flatMap_def,List.flatMap_def,map_same f hf h]

/-- The backup paths are not stored, so the transaction read back has the same form. -/
lemma encode_restored {payload : Bytes}
 (h:encodeFileTransferTransaction transaction=.ok payload):
 encodeFileTransferTransaction (restored transaction)=.ok payload:=by
 obtain ⟨hvalid,hstrings,hsize,hpayload⟩:=(encodeFileTransferTransaction_iff _).mp h
 have hsame:=restored_same hvalid
 have hitems:=flatMap_same (appendTransferItem transaction.version) (fun _=>rfl) hsame.2
 have htexts:transferStrings (restored transaction)=transferStrings transaction:=by
  unfold transferStrings
  rw [flatMap_same _ (fun _=>rfl) hsame.2]
  rfl
 have hform:transferPayload (restored transaction)=transferPayload transaction:=by
  have hlength:(restored transaction).items.length=transaction.items.length:=by
   simp [restored]
  have hversion:(restored transaction).version=transaction.version:=rfl
  unfold transferPayload
  rw [hlength,hversion,hitems]
  rfl
 rw [encodeFileTransferTransaction_iff,htexts,hform]
 exact ⟨(validFileTransferTransaction_same hsame).trans hvalid,hstrings,hsize,hpayload⟩

lemma readTransferHeader_append (hvalid:TransferValid transaction)
 (h:transaction.failureDetailUtf8.length<2 ^ 32):
 readTransferHeader.run (transferPayload transaction)=
  some (({ transaction with items:=[] },transaction.items.length),
   transaction.items.flatMap (appendTransferItem transaction.version)):=by
 obtain ⟨hversion,hcancelled,hne,hsize⟩:=transferValid_header hvalid
 have hcount:(UInt32.ofNat transaction.items.length).toNat=transaction.items.length:=by
  unfold kMaximumFileTransferItems at hsize
  simp only [UInt32.toNat_ofNat']
  omega
 have hcountNe:UInt32.ofNat transaction.items.length≠0:=by
  intro hzero
  rw [hzero] at hcount
  exact hne (List.eq_nil_of_length_eq_zero hcount.symm)
 simp only [readTransferHeader,transferPayload,Reader.readEnum_bind,Reader.readInteger_bind,
  Reader.readString_bind _ _ h,Reader.check_bind,Reader.run_pure,hcount]
 have hflag:(if transaction.cancelled then 1 else 0 : UInt16) ≤
   (if transaction.version≥5 then 1 else 0) ∧
   decide ((if transaction.cancelled then 1 else 0 : UInt16)≠0)=transaction.cancelled:=by
  cases hc:transaction.cancelled with
  | false=>exact ⟨UInt16.zero_le,rfl⟩
  | true=>exact ⟨by rw [if_pos (hcancelled hc)]; decide,rfl⟩
 rw [if_pos (decide_eq_true ⟨trivial,hversion,hflag.1,hcountNe,hsize⟩),hflag.2]

lemma decodeFileTransferTransaction_iff (payload detail : Bytes):
 decodeFileTransferTransaction payload detail=.ok transaction ↔
  payload.length ≤ maximumPayloadBytes ∧
  ∃ header itemCount body,readTransferHeader.run payload=some ((header,itemCount),body) ∧
  ∃ items,(DetailReader.readItems (readTransferItem header.version header.operationId) 0
    itemCount).run body=.ok (items,[]) ∧
   validUtf8WithoutNul header.failureDetailUtf8 ∧ TransferValid transaction ∧
   { header with items:=items }=transaction:=by
 simp only [decodeFileTransferTransaction,bind_unit_eq_ok,found_bind_eq_ok,require_eq_ok,
  bind_pair_eq_ok,decide_eq_true_eq,orDetail_eq_ok,pure_eq_ok,Prod.exists]
 constructor
 · rintro ⟨hsize,header,itemCount,body,hheader,items,rest,hitems,⟨rfl,htext⟩,hvalid,rfl⟩
   exact ⟨hsize,header,itemCount,body,hheader,items,hitems,htext,hvalid,rfl⟩
 · rintro ⟨hsize,header,itemCount,body,hheader,items,hitems,htext,hvalid,rfl⟩
   exact ⟨hsize,header,itemCount,body,hheader,items,[],hitems,⟨rfl,htext⟩,hvalid,rfl⟩

lemma readItems_encoded (hvalid:TransferValid transaction)
 (hstrings:∀text∈transferStrings transaction,text.length<2 ^ 32):
 OkExactly ((DetailReader.readItems (readTransferItem transaction.version
   transaction.operationId) 0 transaction.items.length).run
    (transaction.items.flatMap (appendTransferItem transaction.version)))
  (transaction.items.all itemTextsValid) ((restored transaction).items,[]):=by
 have hread:∀index item,item∈transaction.items → ∀rest,OkExactly
   ((readTransferItem transaction.version transaction.operationId index).run
    (appendTransferItem transaction.version item++rest))
   (itemTextsValid item) (restoredItem transaction.operationId index item,rest):=by
  intro index item hmem rest
  obtain ⟨i,hi,rfl⟩:=List.mem_iff_getElem.mp hmem
  obtain ⟨hstate,hdestination,hbackup,-⟩:=checkItem_overwrite (transferValid_item hvalid i hi)
  rw [readTransferItem_append hstate hdestination hbackup fun text htext =>
   hstrings text (List.mem_cons_of_mem _ (List.mem_flatMap.mpr ⟨_,hmem,htext⟩))]
  exact okExactly_ite _ _ _
 have hitems:=DetailReader.readItems_append _ _ itemTextsValid _ transaction.items 0 hread []
 rw [List.append_nil] at hitems
 simp only [Nat.zero_add] at hitems
 exact hitems

/-- What was encoded is decoded again, with the backup paths derived anew,
  exactly when every checked text is valid. -/
lemma decode_encodeFileTransferTransaction {decoded : FileTransferTransaction} {payload : Bytes}
 (h:encodeFileTransferTransaction transaction=.ok payload) (detail : Bytes):
 decodeFileTransferTransaction payload detail=.ok decoded ↔
  transferTextsValid transaction ∧ decoded=restored transaction:=by
 obtain ⟨hvalid,hstrings,hsize,rfl⟩:=(encodeFileTransferTransaction_iff _).mp h
 have hheader:=readTransferHeader_append hvalid (hstrings _ List.mem_cons_self)
 have hitems:=readItems_encoded hvalid hstrings
 have hsame:=restored_same hvalid
 have hrestored:TransferValid (restored transaction):=
  (validFileTransferTransaction_same hsame).trans hvalid
 rw [decodeFileTransferTransaction_iff,hheader,transferTextsValid,Bool.and_eq_true]
 constructor
 · rintro ⟨-,header,itemCount,body,hsome,items,hread,htext,-,rfl⟩
   simp only [Option.some.injEq,Prod.mk.injEq] at hsome
   obtain ⟨⟨rfl,rfl⟩,rfl⟩:=hsome
   obtain ⟨hall,heq⟩:=(hitems _).mp hread
   cases heq
   exact ⟨⟨htext,hall⟩,rfl⟩
 · rintro ⟨⟨htext,hall⟩,rfl⟩
   exact ⟨hsize,_,_,_,rfl,_,(hitems _).mpr ⟨hall,rfl⟩,htext,hrestored,rfl⟩

end Reading

/-- A file-transfer record reads back as it was exactly when the texts its
  decoder checks are valid UTF-8 without NUL. -/
theorem transfer_roundTrip {transaction : FileTransferTransaction} {payload : Bytes}
 (h:encodeFileTransferTransaction transaction=.ok payload) (detail : Bytes):
 (∃ decoded,decodeFileTransferTransaction payload detail=.ok decoded ∧
  SameTransaction decoded transaction) ↔ transferTextsValid transaction:=by
 have hvalid:=((encodeFileTransferTransaction_iff payload).mp h).1
 constructor
 · rintro ⟨decoded,hdecoded,-⟩
   exact ((decode_encodeFileTransferTransaction h detail).mp hdecoded).1
 · intro htexts
   exact ⟨restored transaction,
    (decode_encodeFileTransferTransaction h detail).mpr ⟨htexts,rfl⟩,restored_same hvalid⟩

/-- The copy of the file whose name is the single byte 0xff to `/e/a`. -/
def copyOfLatinName : FileTransferTransaction where
 operationId:=1
 items:=[preparedItem .copy 1 0
  { path:=⟨utf8 "/d/" ++ [0xff]⟩,destination:=⟨utf8 "/e/a"⟩,
    snapshot:={ sizeBytes:=5,sourceRevisionUtf8:=utf8 "posix:1:2:3" },
    sourceParentRevisionUtf8:=utf8 "posix:1:4:3",
    destinationParentRevisionUtf8:=utf8 "posix:1:5:3" }]

lemma copyOfLatinName_encodes:
 encodeFileTransferTransaction copyOfLatinName=.ok (transferPayload copyOfLatinName):=by
 rw [encodeFileTransferTransaction_iff,TransferValid]
 decide +kernel

theorem transfer_roundTrip_latin:
 (∃ decoded,decodeFileTransferTransaction (transferPayload copyOfLatinName) []=.ok decoded ∧
  SameTransaction decoded copyOfLatinName) ↔ transferTextsValid copyOfLatinName:=
 transfer_roundTrip copyOfLatinName_encodes []

/-- The record of that copy cannot be read back. -/
theorem transfer_unreadable : ¬∀transaction payload detail,
 encodeFileTransferTransaction transaction=.ok payload →
  ∃ decoded,decodeFileTransferTransaction payload detail=.ok decoded ∧
   SameTransaction decoded transaction:=by
 intro h
 obtain ⟨decoded,hdecoded,-⟩:=h _ _ [] copyOfLatinName_encodes
 rw [decode_encodeFileTransferTransaction copyOfLatinName_encodes] at hdecoded
 revert hdecoded
 have htexts:transferTextsValid copyOfLatinName=false:=by decide +kernel
 simp [htexts]

end VoVe.TransferRoundTrip
