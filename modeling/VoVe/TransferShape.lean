import VoVe.FileTransferCoordinator

set_option autoImplicit false

namespace VoVe.TransferShape
open ByteCodec AsciiText PosixPath Checks DestinationFilename FileOperation TransferTransaction
open FileTransferCoordinator

/-- What the validator asks of an item by itself. -/
structure ItemSound (version : UInt32) (kind : FileTransferKind) (phase : FileTransferPhase)
  (item : FileTransferItem) : Prop where
 overwrite : overwriteStateValid item=true
 authorization : overwriteSnapshotValid version 5 item.overwriteDestinationSnapshot=true
 backup : overwriteSnapshotValid version 6 item.overwriteBackupSnapshot=true
 identity : sourceIdentity item≠[]
 current : validSnapshot item.currentSourceSnapshot=true
 source : sourceSnapshotValid kind item=true
 strongOriginal : startsWith item.originalSourceSnapshot.sourceRevisionUtf8 winFile=false
 strongCurrent : startsWith item.currentSourceSnapshot.sourceRevisionUtf8 winFile=false
 strongDestination : snapshotEmpty item.destinationSnapshot=true ∨
  startsWith item.destinationSnapshot.sourceRevisionUtf8 winFile=false
 parents : parentIdentityValid item=true
 strategy : strategyAndLocationsValid kind item=true
 proof : destinationProofValid item=true
 restorable : phase=.prepublishCleanup → item.destinationState=.published →
  finalItem kind item=true
 token : streamedStrategy item.strategy=true → item.destinationState≠.absent →
  tokenEmpty item.requestToken=false

structure PathsSound (operationId : UInt64) (before : List FileTransferItem)
  (item : FileTransferItem) : Prop where
 paths : itemPathsValid operationId before item=true
 destination : DestinationName item.destination.filename
 stagedSource : DestinationName item.stagedSource.filename
 tempDestination : DestinationName item.tempDestination.filename
 overwriteBackup : DestinationName item.overwriteBackup.filename

variable (transaction : FileTransferTransaction)

lemma checkItem_iff (before : List FileTransferItem)
 (item : FileTransferItem) : checkItem transaction before item=.ok () ↔
  ItemSound transaction.version transaction.kind transaction.phase item ∧
  PathsSound transaction.operationId before item ∧
  sourceIdentity item∉before.map sourceIdentity ∧
  ((∃ other∈before,finalItem transaction.kind other=false) →
   finalItem transaction.kind item=false ∧ pristineItem transaction.kind item=true):=by
 simp only [checkItem,bind_unit_eq_ok,require_eq_ok,decide_eq_true_eq,Bool.and_eq_true,
  Bool.or_eq_true,Bool.not_eq_true',decide_eq_false_iff_not,not_and,Bool.not_eq_true]
 constructor
 · rintro ⟨h1,h2,h3,h4,h5,h6,h7,h8,⟨h9,h9'⟩,h10,h11,⟨⟨h12,h13⟩,h14⟩,h15,h16,h17, h18,h19,h20,h21⟩
   refine ⟨⟨h1,h2,h3,h9,h10,h11,h12,h13,h14,h15,h16,h17,?_,?_⟩,⟨h4,h5,h6,h7,h8⟩, h9',?_⟩
   · intro hphase hpublished
     simpa using h18 hphase hpublished
   · intro hstreamed hstate
     simpa using h19 hstreamed hstate
   · rintro ⟨other,hmem,hother⟩
     have hsaw:(before.any fun other=>!finalItem transaction.kind other)=true:=
      List.any_eq_true.mpr ⟨other,hmem,by simp [hother]⟩
     rw [hsaw] at h20 h21
     exact ⟨by simpa using h20,by simpa using h21⟩
 · rintro ⟨⟨h1,h2,h3,h9,h10,h11,h12,h13,h14,h15,h16,h17,h18,h19⟩,⟨h4,h5,h6,h7,h8⟩, h9',h20⟩
   refine ⟨h1,h2,h3,h4,h5,h6,h7,h8,⟨h9,h9'⟩,h10,h11,⟨⟨h12,h13⟩,h14⟩,h15,h16,h17, ?_,h19,?_⟩
   · intro hphase hpublished
     simp [h18 hphase hpublished]
   · cases hsaw:before.any fun other=>!finalItem transaction.kind other with
     | false=>simp
     | true=>
      obtain ⟨other,hmem,hother⟩:=List.any_eq_true.mp hsaw
      obtain ⟨hfinal,hpristine⟩:=h20 ⟨other,hmem,by simpa using hother⟩
      simp [hfinal,hpristine]

/-- The paths an item lays claim to. -/
structure Claim where
 source : Path
 stagedSource : Path
 tempDestination : Path
 overwriteBackup : Path
 destination : Path

def claimOf (item : FileTransferItem) : Claim:=
 ⟨item.source,item.stagedSource,item.tempDestination,item.overwriteBackup,item.destination⟩

def ownedByClaim (claim : Claim) : List Bytes:=
 [claim.source.lexicallyNormal.native,claim.stagedSource.lexicallyNormal.native,
  claim.tempDestination.lexicallyNormal.native,claim.overwriteBackup.lexicallyNormal.native,
  claim.destination.lexicallyNormal.native]

lemma flatMap_ownedPaths (items : List FileTransferItem):
 items.flatMap ownedPaths=(items.map claimOf).flatMap ownedByClaim:=by
 rw [List.flatMap_map]
 rfl

lemma PathsSound.congr {operationId : UInt64} {before before' : List FileTransferItem}
 {item item' : FileTransferItem} (h:PathsSound operationId before item)
 (hbefore:before.map claimOf=before'.map claimOf) (hitem:claimOf item=claimOf item'):
 PathsSound operationId before' item':=by
 simp only [claimOf,Claim.mk.injEq] at hitem
 obtain ⟨hsource,hstaged,htemp,hbackup,hdestination⟩:=hitem
 have hlength:before.length=before'.length:=by
  simpa using congrArg List.length hbefore
 have howned:before.flatMap ownedPaths=before'.flatMap ownedPaths:=by
  rw [flatMap_ownedPaths,flatMap_ownedPaths,hbefore]
 obtain ⟨hpaths,hname,hstagedName,htempName,hbackupName⟩:=h
 refine ⟨?_,hdestination ▸ hname,hstaged ▸ hstagedName,htemp ▸ htempName, hbackup ▸ hbackupName⟩
 rw [←hpaths]
 simp only [itemPathsValid,ownedPaths,hsource,hstaged,htemp,hbackup,hdestination,hlength, howned]
 congr

structure TransferSound (transaction : FileTransferTransaction) : Prop where
 version : validTransactionVersion transaction.version=true
 operationId : transaction.operationId≠0
 cancelled : transaction.cancelled=true →
  transaction.version≥5 ∧ transaction.phase=.prepublishCleanup
 nonempty : transaction.items≠[]
 size : transaction.items.length≤kMaximumFileTransferItems
 active : activeStepMatches transaction=true
 idle : transaction.activeStep=.none → transaction.activeEvidence=.none
 failure : transaction.failureStatus=.success → transaction.activeEvidence=.none ∧
  transaction.failureEvidence=.none ∧ transaction.failureDetailUtf8=[]
 terminal : transaction.phase=.prepared ∨ transaction.phase=.completed →
  transaction.activeStep=.none
 sound : ∀item∈transaction.items,
  ItemSound transaction.version transaction.kind transaction.phase item
 paths : ∀i (h:i<transaction.items.length),
  PathsSound transaction.operationId (transaction.items.take i) transaction.items[i]
 identities : (transaction.items.map sourceIdentity).Nodup
 order : ∀i (h:i<transaction.items.length),
  (∃ other∈transaction.items.take i,finalItem transaction.kind other=false) →
  finalItem transaction.kind transaction.items[i]=false ∧
   pristineItem transaction.kind transaction.items[i]=true
 aliases : ∀item∈transaction.items,snapshotEmpty item.overwriteDestinationSnapshot=true ∨
  stableObjectIdentity item.overwriteDestinationSnapshot.sourceRevisionUtf8 ∉
   transaction.items.map sourceIdentity
 prepared : transaction.phase=.prepared →
  ∀item∈transaction.items,pristineItem transaction.kind item=true
 completed : transaction.phase=.completed ↔
  ∀item∈transaction.items,finalItem transaction.kind item=true
 cursor : transaction.activeStep≠.none → transaction.activeIndex.toNat=firstNonFinal transaction

lemma transferValid_iff : TransferValid transaction ↔ TransferSound transaction:=by
 have hitems:checkEach (checkItem transaction) [] transaction.items=.ok () ↔
   (∀item∈transaction.items,
    ItemSound transaction.version transaction.kind transaction.phase item) ∧
   (∀i (h:i<transaction.items.length),
    PathsSound transaction.operationId (transaction.items.take i) transaction.items[i]) ∧
   (transaction.items.map sourceIdentity).Nodup ∧
   ∀i (h:i<transaction.items.length),
    (∃ other∈transaction.items.take i,finalItem transaction.kind other=false) →
    finalItem transaction.kind transaction.items[i]=false ∧
     pristineItem transaction.kind transaction.items[i]=true:=by
  rw [checkEach_eq_ok,←keys_nodup sourceIdentity]
  simp only [checkItem_iff,List.forall_mem_iff_forall_getElem]
  constructor
  · intro h
    exact ⟨fun i hi=>(h i hi).1,fun i hi=>(h i hi).2.1,fun i hi=>(h i hi).2.2.1,
     fun i hi=>(h i hi).2.2.2⟩
  · rintro ⟨h1,h2,h3,h4⟩ i hi
    exact ⟨h1 i hi,h2 i hi,h3 i hi,h4 i hi⟩
 simp only [TransferValid,validFileTransferTransaction,bind_unit_eq_ok,require_eq_ok,
  decide_eq_true_eq,hitems,List.all_eq_true,Bool.or_eq_true,Bool.not_eq_true',
  List.contains_eq_mem,decide_eq_false_iff_not]
 constructor
 · rintro ⟨⟨h1,h2,h3,h4,h5⟩,⟨h6,h7,h8⟩,h9,⟨h10,h11,h12,h13⟩,h14,h15,h16,h17⟩
   exact ⟨h1,h2,h3,h4,h5,h6,h7,h8,h9,h10,h11,h12,h13,h14,h15,h16,h17⟩
 · rintro ⟨h1,h2,h3,h4,h5,h6,h7,h8,h9,h10,h11,h12,h13,h14,h15,h16,h17⟩
   exact ⟨⟨h1,h2,h3,h4,h5⟩,⟨h6,h7,h8⟩,h9,⟨h10,h11,h12,h13⟩,h14,h15,h16,h17⟩

section Cursor
variable {transaction : FileTransferTransaction}

lemma takeWhile_length_eq_findIdx {α : Type} (p : α → Bool) (xs : List α):
 (xs.takeWhile p).length=xs.findIdx fun x=>!p x:=by
 induction xs with
 | nil=>rfl
 | cons x rest ih=>
  cases hx:p x with
  | false=>simp [hx,List.findIdx_cons]
  | true=>simp [hx,List.findIdx_cons,ih]

lemma completedPrefix_eq (transaction : FileTransferTransaction) : completedPrefix transaction=
 transaction.items.findIdx fun item=>!finalItem transaction.kind item:=
 takeWhile_length_eq_findIdx _ _

lemma firstNonFinal_eq (h:completedPrefix transaction<transaction.items.length):
 firstNonFinal transaction=completedPrefix transaction:=by
 rw [completedPrefix_eq] at h ⊢
 simp [firstNonFinal,List.findIdx?_eq_guard_findIdx_lt,h]

lemma itemAt_eq {index : ℕ} (h:index<transaction.items.length):
 itemAt transaction index=transaction.items[index]:=by
 simp [itemAt,List.getD_eq_getElem?_getD,h]

/-- The first item that is not finished. -/
structure Current (transaction : FileTransferTransaction) (index : ℕ) : Prop where
 inside : index<transaction.items.length
 before : ∀i (h:i<transaction.items.length),i < index →
  finalItem transaction.kind transaction.items[i]=true
 unfinished : finalItem transaction.kind (itemAt transaction index)=false

lemma current_of_inside (h:completedPrefix transaction<transaction.items.length):
  Current transaction (completedPrefix transaction) where
 inside:=h
 before i hi hlt:=by
  rw [completedPrefix_eq] at hlt
  simpa using List.not_of_lt_findIdx hlt
 unfinished:=by
  rw [itemAt_eq h]
  have hidx:(transaction.items.findIdx fun item=>!finalItem transaction.kind item) <
    transaction.items.length := by rwa [←completedPrefix_eq]
  have hfound:=List.findIdx_getElem (w := hidx)
  simpa [completedPrefix_eq] using hfound

lemma Current.index_eq {index : ℕ} (h:Current transaction index):
 completedPrefix transaction=index:=by
 rw [completedPrefix_eq,List.findIdx_eq h.inside]
 constructor
 · rw [←itemAt_eq h.inside,h.unfinished]
   rfl
 · intro i hi
   rw [h.before i _ hi]
   rfl

end Cursor

variable {kind : FileTransferKind} {item : FileTransferItem} {i : ℕ}

section Revision
variable {t t' : FileTransferTransaction} {index : ℕ} {item' : FileTransferItem}

lemma overwriteSnapshotValid_mono {version version' least : UInt32} {snapshot : SourceSnapshot}
 (hversion:version≤version') (h:overwriteSnapshotValid version least snapshot=true):
 overwriteSnapshotValid version' least snapshot=true:=by
 simp only [overwriteSnapshotValid,decide_eq_true_eq] at h ⊢
 obtain h | ⟨hleast,h⟩:=h
 · exact .inl h
 · exact .inr ⟨UInt32.le_trans hleast hversion,h⟩

/-- A later version and another phase ask nothing new of an item that a cleanup
  does not have to restore. -/
lemma ItemSound.mono {version version' : UInt32} {phase phase' : FileTransferPhase}
 (h:ItemSound version kind phase item) (hversion:version≤version')
 (hphase:phase'=.prepublishCleanup → item.destinationState=.published →
  finalItem kind item=true) : ItemSound version' kind phase' item:=
 { h with
   authorization:=overwriteSnapshotValid_mono hversion h.authorization
   backup:=overwriteSnapshotValid_mono hversion h.backup
   restorable:=hphase }

lemma pristine_absent (h:pristineItem kind item=true) : item.destinationState=.absent:=by
 simp only [pristineItem,decide_eq_true_eq] at h
 exact h.2.2.1

lemma pristine_unfinished (h:pristineItem kind item=true) : finalItem kind item=false:=by
 have habsent:=pristine_absent h
 simp [finalItem,habsent]

/-- What changes and what stays when the coordinator works on one item. -/
structure Revises (t t' : FileTransferTransaction) (index : ℕ) (item' : FileTransferItem):
  Prop where
 operationId : t'.operationId=t.operationId
 kind : t'.kind=t.kind
 items : t'.items=t.items.set index item'
 claim : claimOf item'=claimOf (itemAt t index)
 version : t.version≤t'.version
 known : validTransactionVersion t'.version=true
 identities : (t'.items.map sourceIdentity).Nodup
 aliases : ∀item∈t'.items,snapshotEmpty item.overwriteDestinationSnapshot=true ∨
  stableObjectIdentity item.overwriteDestinationSnapshot.sourceRevisionUtf8 ∉
   t'.items.map sourceIdentity

/-- No step is under way. -/
def Idle : Prop:=
 transaction.activeStep = .none ∧ transaction.activeIndex = 0 ∧ transaction.activeEvidence = .none

/-- The step under way fits the item it works on. -/
structure Underway (transaction : FileTransferTransaction) (index : ℕ) (item : FileTransferItem):
  Prop where
 real : transaction.activeStep≠.none
 index : transaction.activeIndex.toNat=index
 fits : itemStepMatches transaction item=true
 unfinished : finalItem transaction.kind item=false
 phase : transaction.phase≠.completed

lemma claims_set {items : List FileTransferItem} (hindex:index < items.length)
 (hclaim:claimOf item=claimOf items[index]):
 (items.set index item).map claimOf=items.map claimOf:=by
 rw [List.map_set,hclaim]
 apply List.ext_getElem (by simp)
 intro i hi hi'
 by_cases hsame:index=i
 · subst hsame
   simp
 · simp [List.getElem_set_ne hsame]

section Lists
variable (h:TransferSound t) (hcurrent:Current t index)
 (hitems:t'.items=t.items.set index item')

include h hcurrent in
lemma TransferSound.later {i : ℕ} (hi:i<t.items.length) (hlt:index < i):
 pristineItem t.kind t.items[i]=true:=by
 refine (h.order i hi ⟨itemAt t index,?_,hcurrent.unfinished⟩).2
 rw [itemAt_eq hcurrent.inside]
 have hinside:=hcurrent.inside
 exact List.mem_take_iff_getElem.mpr ⟨index,by omega,rfl⟩

include hitems in
lemma revised_other (hi:i<t'.items.length) (hi':i<t.items.length) (hne:i≠index):
 t'.items[i]=t.items[i]:=by
 simp [hitems,List.getElem_set_ne (Ne.symm hne)]

include h hcurrent hitems in
lemma TransferSound.revised_cases (hi:i<t'.items.length):
 finalItem t.kind t'.items[i]=true ∧ i < index ∨ t'.items[i]=item' ∧ i=index ∨
  pristineItem t.kind t'.items[i]=true ∧ index < i:=by
 have hi':i<t.items.length:=by simpa [hitems] using hi
 obtain hlt | heq | hgt:=Nat.lt_trichotomy i index
 · rw [revised_other hitems hi hi' (by omega)]
   exact .inl ⟨hcurrent.before i hi' hlt,hlt⟩
 · subst heq
   exact .inr (.inl ⟨by simp [hitems],rfl⟩)
 · rw [revised_other hitems hi hi' (by omega)]
   exact .inr (.inr ⟨h.later hcurrent hi' hgt,hgt⟩)

include h hcurrent hitems in
lemma TransferSound.revised_order (hi:i<t'.items.length)
 (hbefore:∃ other∈t'.items.take i,finalItem t.kind other=false):
 finalItem t.kind t'.items[i]=false ∧ pristineItem t.kind t'.items[i]=true:=by
 obtain ⟨other,hmem,hother⟩:=hbefore
 obtain ⟨j,hj,rfl⟩:=List.mem_take_iff_getElem.mp hmem
 have hj':j<t'.items.length:=by omega
 have hle:index≤j:=by
  by_contra hlt
  obtain ⟨hfinal,-⟩ | ⟨-,heq⟩ | ⟨-,hgt⟩:=h.revised_cases hcurrent hitems hj'
  · rw [hfinal] at hother
    cases hother
  · omega
  · omega
 obtain ⟨-,hlt⟩ | ⟨-,heq⟩ | ⟨hpristine,-⟩:=h.revised_cases hcurrent hitems hi
 · omega
 · omega
 · exact ⟨pristine_unfinished hpristine,hpristine⟩

include h hcurrent hitems in
lemma TransferSound.revised_all : (∀item∈t'.items,finalItem t.kind item=true) ↔
  finalItem t.kind item'=true ∧ index+1=t.items.length:=by
 have hinside:=hcurrent.inside
 have hlength:t'.items.length=t.items.length:=by simp [hitems]
 constructor
 · intro hall
   refine ⟨hall item' (by rw [hitems]; exact List.mem_set hinside _),?_⟩
   by_contra hmore
   have hnext:index+1<t'.items.length:=by omega
   obtain ⟨-,hlt⟩ | ⟨-,heq⟩ | ⟨hpristine,-⟩:=h.revised_cases hcurrent hitems hnext
   · omega
   · omega
   · have:=hall _ (List.getElem_mem hnext)
     rw [pristine_unfinished hpristine] at this
     cases this
 · rintro ⟨hfinal,hlast⟩ item hmem
   obtain ⟨i,hi,rfl⟩:=List.mem_iff_getElem.mp hmem
   obtain ⟨hdone,-⟩ | ⟨heq,-⟩ | ⟨-,hgt⟩:=h.revised_cases hcurrent hitems hi
   · exact hdone
   · rw [heq]
     exact hfinal
   · omega

end Lists

lemma TransferSound.revise (h:TransferSound t) (hcurrent:Current t index)
 (hrevises:Revises t t' index item') (hsound:ItemSound t'.version t.kind t'.phase item')
 (hactive:Idle t' ∨ Underway t' index item')
 (hcancelled:t'.cancelled=true → t'.version≥5 ∧ t'.phase=.prepublishCleanup)
 (hfailure:t'.failureStatus=.success → t'.activeEvidence=.none ∧
  t'.failureEvidence=.none ∧ t'.failureDetailUtf8=[])
 (hprepared:t'.phase≠.prepared)
 (hcompleted:t'.phase=.completed ↔
  finalItem t.kind item'=true ∧ index+1=t.items.length) : TransferSound t':=by
 have hinside:=hcurrent.inside
 have hitems:=hrevises.items
 have hlength:t'.items.length=t.items.length:=by simp [hitems]
 have hcases:=fun i (hi:i<t'.items.length)=>h.revised_cases hcurrent hitems hi
 have hitem:t'.items[index]=item':=by simp [hitems]
 refine { version:=hrevises.known
          operationId:=hrevises.operationId ▸ h.operationId
          cancelled:=hcancelled
          nonempty:=?_
          size:=hlength ▸ h.size
          active:=?_
          idle:=?_
          failure:=hfailure
          terminal:=?_
          sound:=?_
          paths:=?_
          identities:=hrevises.identities
          order:=?_
          aliases:=hrevises.aliases
          prepared:=fun hphase=>absurd hphase hprepared
          completed:=?_
          cursor:=?_ }
 · intro hnil
   simp [hnil] at hlength
   omega
 · unfold activeStepMatches
   obtain ⟨hstep,hzero,-⟩ | hunderway:=hactive
   · simp [hstep,hzero]
   · rw [if_neg hunderway.real,hunderway.index,List.getElem?_eq_getElem (by omega),hitem]
     exact hunderway.fits
 · intro hstep
   obtain ⟨-,-,hevidence⟩ | hunderway:=hactive
   · exact hevidence
   · exact absurd hstep hunderway.real
 · intro hphase
   obtain ⟨hstep,-⟩ | hunderway:=hactive
   · exact hstep
   · exact absurd (hphase.resolve_left hprepared) hunderway.phase
 · rw [hrevises.kind]
   intro item hmem
   obtain ⟨i,hi,rfl⟩:=List.mem_iff_getElem.mp hmem
   have hi':i<t.items.length:=by omega
   have hold:=h.sound _ (List.getElem_mem hi')
   obtain ⟨hdone,hlt⟩ | ⟨heq,-⟩ | ⟨hpristine,hgt⟩:=hcases i hi
   · rw [revised_other hitems hi hi' (by omega)] at hdone ⊢
     exact hold.mono hrevises.version fun _ _=>hdone
   · rw [heq]
     exact hsound
   · rw [revised_other hitems hi hi' (by omega)] at hpristine ⊢
     apply hold.mono hrevises.version
     intro _ hpublished
     rw [pristine_absent hpristine] at hpublished
     cases hpublished
 · rw [hrevises.operationId]
   intro i hi
   have hi':i<t.items.length:=by omega
   have hclaims:t'.items.map claimOf=t.items.map claimOf:=by
    rw [hitems]
    exact claims_set hinside (by rw [hrevises.claim,itemAt_eq hinside])
   apply (h.paths i hi').congr
   · rw [List.map_take,List.map_take,hclaims]
   · have:=congrArg (fun claims=>claims[i]?) hclaims
     simpa [List.getElem?_map,hi,hi'] using this.symm
 · rw [hrevises.kind]
   intro i hi hbefore
   exact h.revised_order hcurrent hitems hi hbefore
 · rw [hrevises.kind,hcompleted,h.revised_all hcurrent hitems]
 · intro hstep
   obtain ⟨hnone,-⟩ | hunderway:=hactive
   · exact absurd hnone hstep
   · have hnow:Current t' index:=by
      refine ⟨by omega,?_,?_⟩
      · rw [hrevises.kind]
        intro i hi hlt
        obtain ⟨hdone,-⟩ | ⟨-,heq⟩ | ⟨-,hgt⟩:=hcases i hi
        · exact hdone
        · omega
        · omega
      · rw [itemAt_eq (by omega),hitem]
        exact hunderway.unfinished
     have hlt:completedPrefix t'<t'.items.length:=by
      rw [hnow.index_eq]
      exact hnow.inside
     rw [firstNonFinal_eq hlt,hnow.index_eq]
     exact hunderway.index

/-- A transaction of the same phase, with no step under way, whose items have made
  the same progress. -/
structure Restates (t t' : FileTransferTransaction) : Prop where
 operationId : t'.operationId=t.operationId
 kind : t'.kind=t.kind
 phase : t'.phase=t.phase
 cancelled : t'.cancelled=t.cancelled
 version : t.version≤t'.version
 known : validTransactionVersion t'.version=true
 idle : Idle t'
 failure : t'.failureStatus=.success → t'.failureEvidence=.none ∧ t'.failureDetailUtf8=[]
 length : t'.items.length=t.items.length

/-- An item that has made the same progress as the one in its place. -/
structure Restated (t : FileTransferTransaction) (version : UInt32)
  (item item' : FileTransferItem) : Prop where
 sound : ItemSound version t.kind t.phase item'
 identity : sourceIdentity item'=sourceIdentity item
 final : finalItem t.kind item'=finalItem t.kind item
 pristine : pristineItem t.kind item=true → pristineItem t.kind item'=true
 unaliased : snapshotEmpty item'.overwriteDestinationSnapshot=true ∨
  stableObjectIdentity item'.overwriteDestinationSnapshot.sourceRevisionUtf8 ∉
   t.items.map sourceIdentity

lemma TransferSound.restate (h:TransferSound t) (hrestates:Restates t t')
 (hitems:∀i (hi:i<t.items.length) (hi':i<t'.items.length),
  Restated t t'.version t.items[i] t'.items[i])
 (hpaths:∀i (hi:i<t'.items.length),
  PathsSound t.operationId (t'.items.take i) t'.items[i]) : TransferSound t':=by
 have hlength:=hrestates.length
 have hsame:∀i (hi:i<t'.items.length), Restated t t'.version t.items[i] t'.items[i]:=
  fun i hi=>hitems i (by omega) hi
 have hidentities:t'.items.map sourceIdentity=t.items.map sourceIdentity:=by
  apply List.ext_getElem (by simp [hlength])
  intro i hi hi'
  simpa using (hsame i (by simpa using hi)).identity
 have hversion:=h.cancelled
 refine { version:=hrestates.known
          operationId:=hrestates.operationId ▸ h.operationId
          cancelled:=?_
          nonempty:=?_
          size:=hlength ▸ h.size
          active:=?_
          idle:=fun _=>hrestates.idle.2.2
          failure:=fun hsuccess=>⟨hrestates.idle.2.2,hrestates.failure hsuccess⟩
          terminal:=fun _=>hrestates.idle.1
          sound:=?_
          paths:=?_
          identities:=hidentities ▸ h.identities
          order:=?_
          aliases:=?_
          prepared:=?_
          completed:=?_
          cursor:=fun hstep=>absurd hrestates.idle.1 hstep }
 · rw [hrestates.cancelled,hrestates.phase]
   intro hcancelled
   exact ⟨UInt32.le_trans (hversion hcancelled).1 hrestates.version,(hversion hcancelled).2⟩
 · intro hnil
   have hpos:=List.length_pos_iff.mpr h.nonempty
   simp [hnil] at hlength
   omega
 · simp [activeStepMatches,hrestates.idle.1,hrestates.idle.2.1]
 · rw [hrestates.kind,hrestates.phase]
   intro item hmem
   obtain ⟨i,hi,rfl⟩:=List.mem_iff_getElem.mp hmem
   exact (hsame i hi).sound
 · rw [hrestates.operationId]
   exact hpaths
 · rw [hrestates.kind]
   intro i hi hbefore
   obtain ⟨other,hmem,hother⟩:=hbefore
   obtain ⟨j,hj,rfl⟩:=List.mem_take_iff_getElem.mp hmem
   have hj':j<t'.items.length:=by omega
   rw [(hsame j hj').final] at hother
   have hold:=h.order i (by omega)
    ⟨_,List.mem_take_iff_getElem.mpr ⟨j,by omega,rfl⟩,hother⟩
   exact ⟨(hsame i hi).final.trans hold.1,(hsame i hi).pristine hold.2⟩
 · rw [hidentities]
   intro item hmem
   obtain ⟨i,hi,rfl⟩:=List.mem_iff_getElem.mp hmem
   exact (hsame i hi).unaliased
 · rw [hrestates.kind,hrestates.phase]
   intro hphase item hmem
   obtain ⟨i,hi,rfl⟩:=List.mem_iff_getElem.mp hmem
   exact (hsame i hi).pristine (h.prepared hphase _ (List.getElem_mem _))
 · rw [hrestates.kind,hrestates.phase,h.completed]
   constructor
   · intro hall item hmem
     obtain ⟨i,hi,rfl⟩:=List.mem_iff_getElem.mp hmem
     rw [(hsame i hi).final]
     exact hall _ (List.getElem_mem _)
   · intro hall item hmem
     obtain ⟨i,hi,rfl⟩:=List.mem_iff_getElem.mp hmem
     have hi':i<t'.items.length:=by omega
     rw [←(hsame i hi').final]
     exact hall _ (List.getElem_mem _)

lemma TransferSound.restated_same (h:TransferSound t) {version : UInt32}
  (hversion:t.version≤version) {i : ℕ} (hi:i<t.items.length):
  Restated t version t.items[i] t.items[i] where
 sound:=(h.sound _ (List.getElem_mem hi)).mono hversion
  (h.sound _ (List.getElem_mem hi)).restorable
 identity:=rfl
 final:=rfl
 pristine:=id
 unaliased:=h.aliases _ (List.getElem_mem hi)

end Revision

end VoVe.TransferShape
