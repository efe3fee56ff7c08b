import VoVe.TrashJournalSize

set_option autoImplicit false

namespace VoVe.TrashJournalRun
open AsciiText ByteCodec PosixPath Checks FileOperation CurrentOperationJournal TransactionCodec
 TrashRecord TrashRecordCodec TrashJournal TrashRoundTrip TrashJournalSize

section Rooms
variable {prepared t other : TrashTransaction}

lemma roomOf_le (version : UInt32) (shape : Shape):
 roomOf prepared version shape ≤ roomOf prepared kTrashTransactionVersion shape:=by
 have hindex:=indexBytes_le version
 have hfull:indexBytes kTrashTransactionVersion=4:=rfl
 unfold roomOf
 omega

lemma hasRoom_of_le (h:HasRoom prepared other)
 (hle:((shapes t).map (roomOf prepared (wireVersion t))).sum ≤
  ((shapes other).map (roomOf prepared (wireVersion other))).sum) : HasRoom prepared t:=by
 unfold HasRoom at h ⊢
 rw [length_asRecorded] at h ⊢
 omega

lemma roomToMove_sum {shapes' : List Shape} {count : ℕ} (hroom:RoomToMove prepared)
 (hle:(shapes'.map (roomOf prepared kTrashTransactionVersion)).sum ≤
  ((shapes (split .stored .source count prepared)).map
   (roomOf prepared kTrashTransactionVersion)).sum) (hshapes:shapes t=shapes'):
 HasRoom prepared t:=by
 refine hasRoom_of_le (hroom count) ?_
 have hversion:wireVersion (split .stored .source count
   { prepared with phase:=.cancelRemainingIntent })=kTrashTransactionVersion:=
  if_pos (.inl rfl)
 have hsame:shapes (split .stored .source count
   { prepared with phase:=.cancelRemainingIntent })=
   shapes (split .stored .source count prepared) := rfl
 rw [hversion,hsame,hshapes]
 exact (List.sum_le_sum fun shape _=>roomOf_le _ shape).trans hle

end Rooms

structure Course (first rest : TrashItemLocation) (forward backward : TrashStep)
  (plan t : TrashTransaction) : Prop where
 arranged : ∃ count≤(shapes plan).length,shapes t=shapes (split first rest count plan) ∧
  (t.activeStep=forward → t.activeIndex.toNat=count) ∧
  (t.activeStep=backward → t.activeIndex.toNat+1=count)
 steps : t.activeStep≠.purge
 size : (shapes plan).length≤kMaximumTrashItems

/-- Items that a move has stored, in their order. -/
def Excerpt (prepared t : TrashTransaction) : Prop:=
 ∃ count,(shapes t).Sublist (shapes (split .stored .source count prepared))

/-- A purge: some stored items, none longer than when it was stored. -/
structure Kept (prepared t : TrashTransaction) : Prop where
 stored : ∃ count,((shapes t).map (·.placed .stored)).Sublist
  (shapes (split .stored .source count prepared))
 shorter : ∀shape∈shapes t,shape.current.native.length ≤ shape.stored.native.length

inductive JournalOk (prepared t : TrashTransaction) : Prop where
 | move (kind : operationKind t = trashMove) (course : Course .stored .source .store .restore prepared t)
 | restore (plan : TrashTransaction) (kind : operationKind t = trashRestore)
   (phase : cancelling plan = false) (room : RoomToRestore prepared plan)
   (course : Course .source .stored .restore .store plan t)
 | purge (kind : operationKind t = trashPurge)
   (steps : t.activeStep = .none ∨ t.activeStep = .purge) (kept : Kept prepared t)

structure ManifestOk (prepared m : TrashTransaction) : Prop where
 excerpt : Excerpt prepared m
 stored : ∀shape∈shapes m,shape=shape.placed .stored

section Room
variable {prepared t : TrashTransaction}

lemma Excerpt.room (h:Excerpt prepared t) (hroom:RoomToMove prepared) : HasRoom prepared t:=by
 obtain ⟨count,hsublist⟩:=h
 exact roomToMove_sum hroom ((hsublist.map _).sum_le_sum fun _ _=>Nat.zero_le _) rfl

lemma Kept.room (h:Kept prepared t) (hroom:RoomToMove prepared) : HasRoom prepared t:=by
 obtain ⟨count,hsublist⟩:=h.stored
 refine roomToMove_sum hroom (le_trans ?_ ((hsublist.map _).sum_le_sum fun _ _=>Nat.zero_le _)) rfl
 rw [List.map_map]
 refine List.sum_le_sum fun shape hmem=>?_
 have hshorter:=h.shorter shape hmem
 simp only [roomOf,Shape.bytes,Function.comp_def,Shape.placed]
 omega

lemma cancelling_kind (h:operationKind t≠trashMove) : cancelling t=false:=by
 unfold cancelling
 rw [decide_eq_false_iff_not]
 intro hphase
 obtain hphase | hphase:=hphase
 · rw [operationKind,hphase] at h
   exact h rfl
 · rw [operationKind,hphase] at h
   exact h rfl

lemma JournalOk.room (h:JournalOk prepared t) (hroom:RoomToMove prepared):
 HasRoom prepared t:=by
 cases h with
 | move kind course=>
  obtain ⟨count,-,hshapes,-⟩:=course.arranged
  exact roomToMove_sum hroom le_rfl hshapes
 | restore plan kind phase room course=>
  obtain ⟨count,-,hshapes,-⟩:=course.arranged
  have hcancelling:cancelling t=cancelling (split .source .stored count plan):=by
   rw [cancelling_kind (by rw [kind]; decide)]
   exact phase.symm
  have hversion:=wireVersion_congr hcancelling (by rw [hshapes])
  refine hasRoom_of_le (room count) ?_
  rw [hshapes,hversion]
 | purge kind steps kept=>exact kept.room hroom

end Room

/-- The same items in the same operation, with the same step under way or none. -/
structure Follows (t next : TrashTransaction) : Prop where
 shapes : shapes next=shapes t
 kind : operationKind next=operationKind t
 active : next.activeStep=.none ∨
  next.activeStep=t.activeStep ∧ next.activeIndex=t.activeIndex

variable {first rest : TrashItemLocation} {f forward b backward : TrashStep} {plan : TrashTransaction}
 {phase : TrashPhase}

section Following
variable {prepared t next : TrashTransaction}

lemma Course.follows (h:Course first rest f b plan t) (hforward:f≠.none)
 (hbackward:b≠.none) (hnext:Follows t next):
 Course first rest f b plan next:=by
 obtain ⟨count,hcount,hshapes,hahead,hback⟩:=h.arranged
 refine ⟨⟨count,hcount,hnext.shapes.trans hshapes,?_,?_⟩,?_,h.size⟩
 · intro hstep
   obtain hidle | ⟨hsame,hindex⟩:=hnext.active
   · exact absurd (hstep.symm.trans hidle) hforward
   · rw [hindex]
     exact hahead (hsame.symm.trans hstep)
 · intro hstep
   obtain hidle | ⟨hsame,hindex⟩:=hnext.active
   · exact absurd (hstep.symm.trans hidle) hbackward
   · rw [hindex]
     exact hback (hsame.symm.trans hstep)
 · obtain hidle | ⟨hsame,-⟩:=hnext.active
   · rw [hidle]
     decide
   · rw [hsame]
     exact h.steps

lemma JournalOk.follows (h:JournalOk prepared t) (hnext:Follows t next):
 JournalOk prepared next:=by
 cases h with
 | move kind course=>
  exact .move (hnext.kind.trans kind) (course.follows (by decide) (by decide) hnext)
 | restore plan kind phase room course=>
  exact .restore plan (hnext.kind.trans kind) phase room
   (course.follows (by decide) (by decide) hnext)
 | purge kind steps kept=>
  refine .purge (hnext.kind.trans kind) ?_ ?_
  · obtain hidle | ⟨hsame,-⟩:=hnext.active
    · exact .inl hidle
    · rwa [hsame]
  · exact ⟨by rw [hnext.shapes]; exact kept.stored,by rw [hnext.shapes]; exact kept.shorter⟩

lemma clearActive_follows (clearFailure : Bool) : Follows t (clearActive t clearFailure):=
 ⟨rfl,rfl,.inl rfl⟩

lemma turnedBack_kind (t : TrashTransaction) : operationKind (turnedBack t)=operationKind t:=by
 change phaseKind (if t.phase=.moving ∧ t.activeStep=.store then .rollback
  else if t.phase=.restoring ∧ t.activeStep=.restore then .restoreRollback
  else t.phase)=phaseKind t.phase
 split
 · next hmoving =>
   rw [hmoving.1]
   rfl
 · split
   · next hrestoring =>
     rw [hrestoring.1]
     rfl
   · rfl

lemma settleFailure_follows (result : OperationResult) : Follows t (settleFailure t result):=by
 unfold settleFailure
 split
 · exact ⟨rfl,turnedBack_kind _,.inl rfl⟩
 · exact ⟨rfl,rfl,.inr ⟨rfl,rfl⟩⟩

lemma phase_follows (hidle:t.activeStep=.none) (hkind:phaseKind phase=operationKind t):
 Follows t { t with phase:=phase }:=
 ⟨rfl,hkind,.inl hidle⟩

lemma done_follows {location : TrashItemLocation} (hidle:t.activeStep=.none)
 (hkind:phaseKind phase=operationKind t)
 (h:(if hasLocation t location then none else some { t with phase:=phase })=some next):
 Follows t next:=by
 split at h
 · cases h
 · cases h
   exact phase_follows hidle hkind

lemma publishedOf_follows (hkind:operationKind t=trashMove) : Follows t (publishedOf t):=
 ⟨rfl,hkind.symm,.inl rfl⟩

lemma advance_follows {manifest : Option TrashTransaction}
 (h:advance t manifest=some next) : Follows t next:=by
 unfold advance at h
 split at h
 · cases h
 · next hactive =>
   have hidle:t.activeStep=.none:=not_not.mp hactive
   have hkind:∀phase,phaseKind phase=phaseKind t.phase → phaseKind phase=operationKind t:=
    fun phase h=>h
   cases hphase:t.phase
   all_goals
    simp only [hphase] at h
    rw [hphase] at hkind
   case rollback =>
    obtain ⟨done,hdone,rfl⟩:=Option.map_eq_some_iff.mp h
    have hfollows:=done_follows hidle (hkind .rollbackContainerRemoveIntent rfl) hdone
    exact ⟨hfollows.shapes,hfollows.kind,.inl rfl⟩
   case manifestIntent =>
    split at h
    · cases h
      exact publishedOf_follows (hkind .manifestIntent rfl).symm
    · cases h
   case moving => exact done_follows hidle (hkind .manifestIntent rfl) h
   case restoring => exact done_follows hidle (hkind .manifestRemoveIntent rfl) h
   case purging => exact done_follows hidle (hkind .purgeManifestRemoveIntent rfl) h
   case cancelRemainingIntent => cases h; exact clearActive_follows true
   case cancelContainerRemoveIntent => cases h; exact clearActive_follows true
   all_goals
    cases h
   case prepared => exact phase_follows hidle (hkind .moving rfl)
   case restorePrepared => exact phase_follows hidle (hkind .restoring rfl)
   case manifestRemoveIntent =>
    exact phase_follows hidle (hkind .restoreContainerRemoveIntent rfl)
   case restoreContainerRemoveIntent => exact phase_follows hidle (hkind .restored rfl)
   case purgePrepared => exact phase_follows hidle (hkind .purging rfl)
   case purgeManifestRemoveIntent =>
    exact phase_follows hidle (hkind .purgeContainerRemoveIntent rfl)
   case purgeContainerRemoveIntent => exact phase_follows hidle (hkind .purged rfl)

end Following

section Success
variable {prepared t applied : TrashTransaction} {index : ℕ} {step : TrashStep}
 {result : OperationResult}

lemma applySuccess_ok (h:applySuccess t index step result=.ok applied):
 ∃ item,t.items[index]?=some item ∧ applied=setItem t index
  (if step=.purge then purgedItem item else movedItem item step result.confirmedSnapshot):=by
 simp only [applySuccess,found_bind_eq_ok] at h
 obtain ⟨item,hitem,h⟩:=h
 refine ⟨item,hitem,?_⟩
 split at h
 · next hpurge =>
   rw [if_pos hpurge]
   simp only [bind_unit_eq_ok,pure_eq_ok] at h
   exact h.2.symm
 · next hmove =>
   rw [if_neg hmove]
   simp only [bind_unit_eq_ok,pure_eq_ok] at h
   exact h.2.symm

variable (item : TrashItem)

lemma shapes_setItem:
 shapes (setItem t index item)=(shapes t).set index (shapeOf item) := List.map_set

lemma shapeOf_movedItem (step : TrashStep) (confirmed : SourceSnapshot):
 shapeOf (movedItem item step confirmed)=
  (shapeOf item).placed (if step=.store then .stored else .source):=by
 cases step with
 | none=>rfl
 | store=>rfl
 | restore=>rfl
 | purge=>rfl

lemma getElem_shapes {item : TrashItem} (h:t.items[index]?=some item):
 ∃ hindex : index<(shapes t).length,(shapes t)[index]=shapeOf item:=by
 obtain ⟨hindex,rfl⟩:=List.getElem?_eq_some_iff.mp h
 exact ⟨by simpa [shapes] using hindex,by simp [shapes]⟩

lemma Course.moves (h:Course first rest f b plan t)
 (hforward:f≠.none ∧ (if f=.store then .stored else .source)=first)
 (hbackward:b≠.none ∧ (if b=.store then .stored else .source)=rest)
 (hactive:t.activeStep=f ∨ t.activeStep=b) (clearFailure : Bool)
 (hok:applySuccess t t.activeIndex.toNat t.activeStep result=.ok applied):
 Course first rest f b plan (clearActive applied clearFailure):=by
 obtain ⟨item,hitem,rfl⟩:=applySuccess_ok hok
 obtain ⟨count,hcount,hshapes,hahead,hback⟩:=h.arranged
 obtain ⟨hindex,hshape⟩:=getElem_shapes hitem
 have hplan:t.activeIndex.toNat<(shapes plan).length:=by
  rwa [hshapes,length_split] at hindex
 have hplaced:(shapes t)[t.activeIndex.toNat]=(shapes plan)[t.activeIndex.toNat].placed
    (if t.activeIndex.toNat<count then first else rest):=by
  simp only [hshapes]
  exact getElem_split (by rwa [length_split]) hplan
 have hmoved:shapes (setItem t t.activeIndex.toNat
   (movedItem item t.activeStep result.confirmedSnapshot))=
   (shapes t).set t.activeIndex.toNat ((shapes plan)[t.activeIndex.toNat].placed
    (if t.activeStep=.store then .stored else .source)):=by
  rw [shapes_setItem,shapeOf_movedItem,←hshape,hplaced]
  rfl
 have hnext:∃ after≤(shapes plan).length,shapes (setItem t t.activeIndex.toNat
   (movedItem item t.activeStep result.confirmedSnapshot))=
   shapes (split first rest after plan):=by
  rw [hmoved,hshapes]
  obtain hstep | hstep:=hactive
  · rw [hstep,hforward.2]
    exact ⟨count+1,by have := hahead hstep; omega, split_set hplan (.inl ⟨rfl,hahead hstep,rfl⟩)⟩
  · rw [hstep,hbackward.2]
    exact ⟨t.activeIndex.toNat,hplan.le,split_set hplan (.inr ⟨rfl,hback hstep,rfl⟩)⟩
 rw [if_neg h.steps]
 obtain ⟨after,hafter,hshapes'⟩:=hnext
 exact ⟨⟨after,hafter,hshapes',fun hidle=>absurd hidle.symm hforward.1,
  fun hidle=>absurd hidle.symm hbackward.1⟩,nofun,h.size⟩

lemma shapeOf_purgedItem : shapeOf (purgedItem item)=shapeOf item ∨
 shapeOf (purgedItem item)=(shapeOf item).placed .deleted:=by
 unfold purgedItem
 split
 · exact .inl rfl
 · exact .inr rfl

lemma Kept.purges (h:Kept prepared t) {item : TrashItem} (hitem:t.items[index]?=some item)
 (clearFailure : Bool):
 Kept prepared (clearActive (setItem t index (purgedItem item)) clearFailure):=by
 obtain ⟨hindex,hshape⟩:=getElem_shapes hitem
 obtain ⟨count,hsublist⟩:=h.stored
 have hitems:shapes (clearActive (setItem t index (purgedItem item)) clearFailure)=
   (shapes t).set index (shapeOf (purgedItem item)) := shapes_setItem _
 have hplaced:(shapeOf (purgedItem item)).placed .stored=(shapeOf item).placed .stored:=by
  obtain hsame | hdeleted:=shapeOf_purgedItem item
  · rw [hsame]
  · rw [hdeleted]
    rfl
 refine ⟨⟨count,?_⟩,?_⟩
 · have hself:((shapes t).map (·.placed .stored)).set index
     ((shapeOf item).placed .stored)=(shapes t).map (·.placed .stored):=by
    have hinside:index<((shapes t).map (·.placed .stored)).length:=by
     rwa [List.length_map]
    have hset:=List.set_getElem_self hinside
    rwa [List.getElem_map,hshape] at hset
   rw [hitems,List.map_set,hplaced,hself]
   exact hsublist
 · intro shape hmem
   rw [hitems] at hmem
   obtain hmem | rfl:=List.mem_or_eq_of_mem_set hmem
   · exact h.shorter shape hmem
   · obtain hsame | hdeleted:=shapeOf_purgedItem item
     · rw [hsame,←hshape]
       exact h.shorter _ (List.getElem_mem hindex)
     · rw [hdeleted]
       exact Nat.zero_le _

lemma JournalOk.applies (h:JournalOk prepared t) (hactive:t.activeStep≠.none)
 (clearFailure : Bool)
 (hok:applySuccess t t.activeIndex.toNat t.activeStep result=.ok applied):
 JournalOk prepared (clearActive applied clearFailure):=by
 have hkind:operationKind (clearActive applied clearFailure)=operationKind t:=by
  obtain ⟨item,-,rfl⟩:=applySuccess_ok hok
  rfl
 have hmoving:t.activeStep≠.purge → t.activeStep=.store ∨ t.activeStep=.restore:=by
  intro hstep
  cases hcase:t.activeStep with
  | none=>exact absurd hcase hactive
  | store=>exact .inl rfl
  | restore=>exact .inr rfl
  | purge=>exact absurd hcase hstep
 cases h with
 | move kind course=>
  refine .move (hkind.trans kind) ?_
  exact course.moves ⟨by decide,rfl⟩ ⟨by decide,rfl⟩ (hmoving course.steps) clearFailure hok
 | restore plan kind phase room course=>
  refine .restore plan (hkind.trans kind) phase room ?_
  exact course.moves ⟨by decide,rfl⟩ ⟨by decide,rfl⟩ (hmoving course.steps).symm
   clearFailure hok
 | purge kind steps kept=>
  obtain ⟨item,hitem,rfl⟩:=applySuccess_ok hok
  rw [if_pos (steps.resolve_left hactive)]
  exact .purge kind (.inl rfl) (kept.purges hitem clearFailure)

lemma evidence_follows (evidence : OperationEvidence):
 Follows t { t with activeEvidence:=evidence }:=
 ⟨rfl,rfl,.inr ⟨rfl,rfl⟩⟩

lemma recordFailure_follows (status : OperationStatus) (evidence : OperationEvidence)
 (detail : Bytes) : Follows t (recordFailure t status evidence detail):=
 ⟨rfl,rfl,.inr ⟨rfl,rfl⟩⟩

lemma JournalOk.executes (h:JournalOk prepared t) (hactive:t.activeStep≠.none)
 (result : OperationResult) : JournalOk prepared (settleExecution t result):=by
 have hevidence:=h.follows (evidence_follows result.evidence)
 unfold settleExecution
 dsimp only
 split
 · split
   · next applied hok => exact hevidence.applies hactive _ hok
   · exact hevidence.follows (recordFailure_follows _ _ _)
 · exact h.follows (settleFailure_follows _)

lemma JournalOk.reconciles (h:JournalOk prepared t) (hactive:t.activeStep≠.none)
 {observed : OperationResult} {settled : TrashTransaction}
 (hsettled:settleReconciliation t observed=some settled) : JournalOk prepared settled:=by
 unfold settleReconciliation at hsettled
 generalize (if t.activeEvidence≠.none then
  OperationRequest.mergeReconciliation (recordedAttempt t) observed else observed)=result
  at hsettled
 dsimp only at hsettled
 split at hsettled
 · split at hsettled
   · next applied hok =>
     cases hsettled
     exact h.applies hactive _ hok
   · cases hsettled
 · cases hsettled
   exact h.follows (settleFailure_follows _)

end Success

section Begin
variable {prepared t plan : TrashTransaction} {first rest : TrashItemLocation}
 {f forward b backward step : TrashStep} {index count : ℕ}

lemma location_split (hshapes:shapes t=shapes (split first rest count plan))
 (hindex:index<t.items.length):
 t.items[index].location=if index<count then first else rest:=by
 have hlength:index<(shapes t).length:=by simpa [shapes] using hindex
 have hplan:index<(shapes plan).length:=by rwa [hshapes,length_split] at hlength
 have hlocation:(shapes t)[index].location=t.items[index].location:=by
  simp only [shapes,List.getElem_map]
  rfl
 have hinside:index<(shapes (split first rest count plan)).length:=by rwa [length_split]
 have hsplit:(shapes t)[index]=(shapes (split first rest count plan))[index]:=by
  simp only [hshapes]
 rw [←hlocation,hsplit,getElem_split hinside hplan]
 rfl

lemma firstAt_split (hne:first≠rest) (hcount:count≤(shapes plan).length)
 (hshapes:shapes t=shapes (split first rest count plan)) (h:firstAt t rest=some index):
 index=count ∧ index<t.items.length:=by
 have hlength:t.items.length=(shapes plan).length:=by
  have hlength:=congrArg List.length hshapes
  rw [length_split] at hlength
  simpa [shapes] using hlength
 obtain ⟨hindex,hthere,hbefore⟩:=List.findIdx?_eq_some_iff_getElem.mp h
 refine ⟨?_,hindex⟩
 have hlocation:t.items[index].location=rest:=by simpa using hthere
 rw [location_split hshapes hindex] at hlocation
 have hafter:¬index<count:=fun hlt=>hne (by rwa [if_pos hlt] at hlocation)
 by_contra hother
 have hnext:t.items[count].location=rest:=by
  rw [location_split hshapes (by omega),if_neg (lt_irrefl count)]
 exact hbefore count (by omega) (by simpa using hnext)

lemma lastAt_split (hne:first≠rest) (hcount:count≤(shapes plan).length)
 (hshapes:shapes t=shapes (split first rest count plan)) (h:lastAt t first=some index):
 index+1=count ∧ index<t.items.length:=by
 have hlength:t.items.length=(shapes plan).length:=by
  have hlength:=congrArg List.length hshapes
  rw [length_split] at hlength
  simpa [shapes] using hlength
 obtain ⟨turn,hturn,rfl⟩:=Option.map_eq_some_iff.mp h
 obtain ⟨hindex,hthere,hbefore⟩:=List.findIdx?_eq_some_iff_getElem.mp hturn
 have hinside:turn<t.items.length:=by simpa using hindex
 refine ⟨?_,by omega⟩
 have hlocation:t.items[t.items.length - 1 - turn].location=first:=by
  simpa [List.getElem_reverse] using hthere
 rw [location_split hshapes (by omega)] at hlocation
 have hmoved:t.items.length - 1 - turn<count:=by
  by_contra hnot
  rw [if_neg hnot] at hlocation
  exact hne hlocation.symm
 by_contra hother
 have hnext:t.items[count - 1].location=first:=by
  rw [location_split hshapes (by omega),if_pos (by omega)]
 refine hbefore (t.items.length - count) (by omega) ?_
 have hindex':t.items.length - 1 - (t.items.length - count)=count - 1:=by omega
 simp only [List.getElem_reverse,hindex',hnext,decide_true]

lemma nextStep_cases (h:nextStep t=some (index,step)) : t.activeStep=.none ∧
 (t.phase=.moving ∧ firstAt t .source=some index ∧ step=.store ∨
  t.phase=.rollback ∧ lastAt t .stored=some index ∧ step=.restore ∨
  t.phase=.restoring ∧ firstAt t .stored=some index ∧ step=.restore ∨
  t.phase=.restoreRollback ∧ lastAt t .source=some index ∧ step=.store ∨
  t.phase=.purging ∧ step=.purge):=by
 unfold nextStep at h
 split at h
 · cases h
 · next hactive =>
   refine ⟨not_not.mp hactive,?_⟩
   split at h
   · next hphase =>
     obtain ⟨found,hfound,heq⟩:=Option.map_eq_some_iff.mp h
     cases heq
     exact .inl ⟨hphase,hfound,rfl⟩
   · next hphase =>
     obtain ⟨found,hfound,heq⟩:=Option.map_eq_some_iff.mp h
     cases heq
     exact .inr (.inl ⟨hphase,hfound,rfl⟩)
   · next hphase =>
     obtain ⟨found,hfound,heq⟩:=Option.map_eq_some_iff.mp h
     cases heq
     exact .inr (.inr (.inl ⟨hphase,hfound,rfl⟩))
   · next hphase =>
     obtain ⟨found,hfound,heq⟩:=Option.map_eq_some_iff.mp h
     cases heq
     exact .inr (.inr (.inr (.inl ⟨hphase,hfound,rfl⟩)))
   · next hphase =>
     obtain ⟨found,hfound,heq⟩:=Option.map_eq_some_iff.mp h
     cases heq
     exact .inr (.inr (.inr (.inr ⟨hphase,rfl⟩)))
   · cases h

lemma Course.begins (h:Course first rest f b plan t) (hne:first≠rest)
 (hsteps:f≠.purge ∧ b≠.purge ∧ f≠b)
 (hstep:step=f ∧ firstAt t rest=some index ∨ step=b ∧ lastAt t first=some index):
 Course first rest f b plan (beginStep t index step):=by
 obtain ⟨count,hcount,hshapes,-,-⟩:=h.arranged
 have hsize:=h.size
 have hlength:t.items.length=(shapes plan).length:=by
  have hlength:=congrArg List.length hshapes
  rw [length_split] at hlength
  simpa [shapes] using hlength
 have hnat:index<t.items.length → (UInt32.ofNat index).toNat=index:=by
  intro hinside
  unfold kMaximumTrashItems at hsize
  simp only [UInt32.toNat_ofNat']
  omega
 obtain ⟨rfl,hfound⟩ | ⟨rfl,hfound⟩:=hstep
 · obtain ⟨rfl,hinside⟩:=firstAt_split hne hcount hshapes hfound
   exact ⟨⟨index,hcount,hshapes,fun _=>hnat hinside,
    fun hback=>absurd hback hsteps.2.2⟩,hsteps.1,hsize⟩
 · obtain ⟨rfl,hinside⟩:=lastAt_split hne hcount hshapes hfound
   refine ⟨⟨index+1,hcount,hshapes,fun hahead=>absurd hahead.symm hsteps.2.2,?_⟩, hsteps.2.1,hsize⟩
   intro _
   change (UInt32.ofNat index).toNat+1=index+1
   rw [hnat hinside]

lemma JournalOk.begins (h:JournalOk prepared t) (hnext:nextStep t=some (index,step)):
 JournalOk prepared (beginStep t index step):=by
 obtain ⟨-,hcases⟩:=nextStep_cases hnext
 have hnot:∀phase,operationKind t≠phaseKind phase → t.phase≠phase:=
  fun phase hother hphase=>hother (congrArg phaseKind hphase)
 cases h with
 | move kind course=>
  rw [kind] at hnot
  refine .move kind (course.begins (by decide) (by decide) ?_)
  obtain ⟨hphase,hfound,hstep⟩ | ⟨hphase,hfound,hstep⟩ | ⟨hphase,-⟩ | ⟨hphase,-⟩ |
   ⟨hphase,-⟩ := hcases
  · exact .inl ⟨hstep,hfound⟩
  · exact .inr ⟨hstep,hfound⟩
  · exact absurd hphase (hnot _ (by decide))
  · exact absurd hphase (hnot _ (by decide))
  · exact absurd hphase (hnot _ (by decide))
 | restore plan kind phase room course=>
  rw [kind] at hnot
  refine .restore plan kind phase room (course.begins (by decide) (by decide) ?_)
  obtain ⟨hphase,-⟩ | ⟨hphase,-⟩ | ⟨hphase,hfound,hstep⟩ | ⟨hphase,hfound,hstep⟩ |
   ⟨hphase,-⟩ := hcases
  · exact absurd hphase (hnot _ (by decide))
  · exact absurd hphase (hnot _ (by decide))
  · exact .inl ⟨hstep,hfound⟩
  · exact .inr ⟨hstep,hfound⟩
  · exact absurd hphase (hnot _ (by decide))
 | purge kind steps kept=>
  rw [kind] at hnot
  refine .purge kind (.inr ?_) ⟨kept.stored,kept.shorter⟩
  obtain ⟨hphase,-⟩ | ⟨hphase,-⟩ | ⟨hphase,-⟩ | ⟨hphase,-⟩ | ⟨hphase,hstep⟩:=hcases
  · exact absurd hphase (hnot _ (by decide))
  · exact absurd hphase (hnot _ (by decide))
  · exact absurd hphase (hnot _ (by decide))
  · exact absurd hphase (hnot _ (by decide))
  · exact hstep

end Begin

section Readers
variable {prepared t m loaded : TrashTransaction}

lemma readBack_eq (h:readBack t=some loaded) : loaded=cleared t:=by
 simp only [readBack,Option.bind_eq_bind,Option.bind_eq_some_iff] at h
 obtain ⟨payload,hencoded,hdecoded⟩:=h
 cases hencode:encodeTrashTransaction t with
 | error thrown=>
  rw [hencode] at hencoded
  cases hencoded
 | ok encoded=>
  rw [hencode] at hencoded
  cases hencoded
  cases hdecode:decodeTrashTransaction payload [] with
  | error detail=>
   rw [hdecode] at hdecoded
   cases hdecoded
  | ok decoded=>
   rw [hdecode] at hdecoded
   cases hdecoded
   exact ((decode_encodeTrashTransaction hencode []).mp hdecode).2

lemma entryRecords_cleared (item : TrashItem):
 entryRecords (clearedItem item)=entryRecords item:=by
 have hdescriptor:∀index : ℕ,
   (presentDescriptors item.directorySecurityDescriptorsSddlUtf8)[index]?.getD []=
    item.directorySecurityDescriptorsSddlUtf8[index]?.getD []:=by
  intro index
  unfold presentDescriptors
  split
  · next hall =>
    simp only [List.all_eq_true,decide_eq_true_eq] at hall
    cases hget:item.directorySecurityDescriptorsSddlUtf8[index]? with
    | none=>rfl
    | some descriptor=>exact (hall descriptor (List.mem_of_getElem? hget)).symm
  · rfl
 simp only [entryRecords,clearedItem,hdescriptor]

lemma cleared_follows : Follows t (cleared t):=by
 refine ⟨?_,rfl,.inr ⟨rfl,rfl⟩⟩
 simp only [shapes,cleared,List.map_map]
 refine List.map_congr_left fun item _=>?_
 simp only [Function.comp_def,shapeOf,entryRecords_cleared]
 rfl

lemma readBack_shapes (h:readBack t=some loaded) : shapes loaded=shapes t:=by
 rw [readBack_eq h]
 exact cleared_follows.shapes

lemma ManifestOk.of_valid (h:Excerpt prepared m) (hphase:m.phase=.published)
 (hvalid:TrashValid m) : ManifestOk prepared m:=by
 refine ⟨h,?_⟩
 intro shape hmem
 obtain ⟨item,hitem,rfl⟩:=List.mem_map.mp hmem
 have hlocation:item.location=.stored:=by
  obtain ⟨first,-,-,-,-,-,-,hloop⟩:=(trashValid_iff m).mp hvalid
  rw [checkEach_eq_ok] at hloop
  obtain ⟨index,hindex,rfl⟩:=List.mem_iff_getElem.mp hitem
  have hcheck:=hloop index hindex
  simp only [checkItem,bind_unit_eq_ok,require_eq_ok] at hcheck
  have hpaths:=hcheck.1
  simp only [itemPathsValid,Bool.and_eq_true] at hpaths
  have hallowed:=hpaths.1.2
  rw [hphase] at hallowed
  simpa [locationAllowed] using hallowed
 obtain ⟨count,hsublist⟩:=h
 obtain ⟨index,hindex,hget⟩:=List.mem_iff_getElem.mp (hsublist.subset hmem)
 have hplan:index<(shapes prepared).length:=by rwa [length_split] at hindex
 rw [getElem_split hindex hplan] at hget
 have hplace:(if index<count then TrashItemLocation.stored else .source)=.stored:=by
  have hsame:=congrArg Shape.location hget
  exact hsame.trans hlocation
 rw [←hget,hplace]
 rfl

lemma ManifestOk.readBack (h:ManifestOk prepared m) (hloaded:readBack m=some loaded):
 ManifestOk prepared loaded:=by
 have hshapes:=readBack_shapes hloaded
 obtain ⟨count,hsublist⟩:=h.excerpt
 exact ⟨⟨count,by rwa [hshapes]⟩,by rw [hshapes]; exact h.stored⟩

lemma ManifestOk.kept (h:ManifestOk prepared m) : Kept prepared m:=by
 obtain ⟨count,hsublist⟩:=h.excerpt
 refine ⟨⟨count,?_⟩,?_⟩
 · have hself:(shapes m).map (·.placed .stored)=shapes m:=
    (List.map_congr_left fun shape hmem=>(h.stored shape hmem).symm).trans (List.map_id _)
   rwa [hself]
 · intro shape hmem
   rw [h.stored shape hmem]
   exact le_rfl

end Readers

section Plans
variable {prepared t m plan : TrashTransaction} {destination : Option Path}

lemma rebased_stored {loaded rebased : TrashTransaction} {directory : Path}
 (h:∀shape∈shapes loaded,shape=shape.placed .stored)
 (hrebased:rebaseRestorePaths loaded directory=some rebased):
 (∀shape∈shapes rebased,shape=shape.placed .stored) ∧
  (shapes rebased).length=(shapes loaded).length:=by
 unfold rebaseRestorePaths at hrebased
 dsimp only at hrebased
 split at hrebased
 · cases hrebased
 · split at hrebased
   · cases hrebased
     refine ⟨?_,by simp [shapes]⟩
     intro shape hmem
     simp only [shapes,List.map_map,List.mem_map,Function.comp_def] at hmem
     obtain ⟨item,hitem,rfl⟩:=hmem
     have hstored:=h (shapeOf item) (List.mem_map_of_mem hitem)
     have hcurrent:item.current=item.stored:=congrArg Shape.current hstored
     have hlocation:item.location=.stored:=congrArg Shape.location hstored
     simp only [shapeOf,Shape.placed,hcurrent,hlocation]
   · cases hrebased

lemma restorePlan_ok (h:ManifestOk prepared m) (hplan:restorePlan m destination=some plan):
 operationKind plan=trashRestore ∧ plan.activeStep=.none ∧
  (∀shape∈shapes plan,shape=shape.placed .stored) ∧
   (shapes plan).length=(shapes m).length:=by
 simp only [restorePlan,Option.bind_eq_bind,Option.bind_eq_some_iff] at hplan
 obtain ⟨loaded,hloaded,rebased,hrebased,hplan⟩:=hplan
 have hstored:=(h.readBack hloaded).stored
 have hshapes:=readBack_shapes hloaded
 split at hplan
 · cases hplan
   cases destination with
   | none=>
    cases hrebased
    exact ⟨rfl,rfl,hstored,congrArg List.length hshapes⟩
   | some directory=>
    obtain ⟨hplaced,hlength⟩:=rebased_stored hstored hrebased
    exact ⟨rfl,rfl,hplaced,by rw [←hshapes]; exact hlength⟩
 · cases hplan

lemma restorePlan_journal (h:ManifestOk prepared m)
 (hsize:(shapes prepared).length≤kMaximumTrashItems)
 (hplan:restorePlan m destination=some plan) (hroom:RoomToRestore prepared plan):
 JournalOk prepared plan:=by
 obtain ⟨hkind,hidle,hstored,hlength⟩:=restorePlan_ok h hplan
 have hcancelling:cancelling plan=false:=cancelling_kind (by rw [hkind]; decide)
 refine .restore plan hkind hcancelling hroom ⟨⟨0,Nat.zero_le _,?_,?_,?_⟩,?_,?_⟩
 · refine List.ext_getElem length_split.symm fun index hindex hindex'=>?_
   rw [getElem_split hindex' hindex]
   exact hstored _ (List.getElem_mem hindex)
 · intro hstep
   rw [hidle] at hstep
   cases hstep
 · intro hstep
   rw [hidle] at hstep
   cases hstep
 · rw [hidle]
   decide
 · obtain ⟨count,hsublist⟩:=h.excerpt
   have hle:=hsublist.length_le
   rw [length_split] at hle
   omega

lemma purgePlan_journal (h:ManifestOk prepared m) (hplan:purgePlan m=some plan):
 JournalOk prepared plan:=by
 unfold purgePlan at hplan
 split at hplan
 · cases hplan
   exact .purge rfl (.inl rfl) ⟨h.kept.stored,h.kept.shorter⟩
 · cases hplan

lemma JournalOk.excerpt (h:JournalOk prepared t) (hkind:operationKind t=trashMove):
 Excerpt prepared t:=by
 cases h with
 | move kind course=>
  obtain ⟨count,-,hshapes,-⟩:=course.arranged
  exact ⟨count,by rw [hshapes]⟩
 | restore plan kind phase room course=>
  rw [hkind] at kind
  exact absurd kind (by decide)
 | purge kind steps kept=>
  rw [hkind] at kind
  exact absurd kind (by decide)

lemma retained_excerpt (h:Excerpt prepared t) : Excerpt prepared (retained t):=by
 obtain ⟨count,hsublist⟩:=h
 exact ⟨count,(List.filter_sublist.map shapeOf).trans hsublist⟩

end Plans

structure RecordsOk (prepared : TrashTransaction) (records : Records) : Prop where
 journal : ∀t,records.journal=some t → JournalOk prepared t
 manifest : ∀m,records.manifest=some m → ManifestOk prepared m
 written : ∀t∈records.written,HasRoom prepared t

def RestoresHaveRoom (prepared : TrashTransaction) (event : Event) (records : Records) : Prop:=
 match event with
 | .restore _ destination=>∀m,records.manifest = some m →
   ∀plan,restorePlan m destination = some plan → RoomToRestore prepared plan
 | _=>True

section Runs
variable {prepared next : TrashTransaction} {r records after : Records} {s stored : Bool}

lemma RecordsOk.persists (h:RecordsOk prepared r) (hroom:RoomToMove prepared)
 (hnext:JournalOk prepared next) : RecordsOk prepared (persist s next r):=by
 refine ⟨?_,h.manifest,?_⟩
 · intro t ht
   simp only [persist] at ht
   split at ht
   · cases ht
     exact hnext
   · exact h.journal t ht
 · intro t ht
   obtain ht | ht:=List.mem_append.mp ht
   · exact h.written t ht
   · rw [List.mem_singleton.mp ht]
     exact hnext.room hroom

lemma RecordsOk.publishes (h:RecordsOk prepared r) (hroom:RoomToMove prepared)
 (hnext:Excerpt prepared next) (hphase:next.phase=.published):
 RecordsOk prepared (publishManifest s next r):=by
 refine ⟨h.journal,?_,?_⟩
 · intro m hm
   simp only [publishManifest] at hm
   split at hm
   · next hencoded =>
     cases hm
     refine .of_valid hnext hphase ?_
     cases hencode:encodeTrashTransaction next with
     | error thrown=>
      rw [hencode] at hencoded
      exact absurd hencoded.2 (by simp [Except.isOk,Except.toBool])
     | ok payload=>exact ((encodeTrashTransaction_iff _).mp hencode).1
   · exact h.manifest m hm
 · intro t ht
   obtain ht | ht:=List.mem_append.mp ht
   · exact h.written t ht
   · rw [List.mem_singleton.mp ht]
     exact hnext.room hroom

lemma empty_ok (prepared : TrashTransaction) : RecordsOk prepared {} where
 journal t h := by cases h
 manifest m h := by cases h
 written t h := absurd h List.not_mem_nil

lemma active_eq {t : TrashTransaction} (h:active r=some t):
 r.journal=some t ∧ t.activeStep≠.none:=by
 simpa [active,Option.filter_eq_some_iff] using h

lemma step_ok (hroom:RoomToMove prepared)
 (hsize:(shapes prepared).length≤kMaximumTrashItems) (h:RecordsOk prepared r)
 (event : Event) (hrestores:RestoresHaveRoom prepared event r)
 (hstep:step event r=some after) : RecordsOk prepared after:=by
 cases event with
 | begin s=>
  simp only [step,Option.bind_eq_bind,Option.bind_eq_some_iff,Option.pure_def] at hstep
  obtain ⟨t,ht,⟨index,kind⟩,hnext,hstep⟩:=hstep
  cases hstep
  exact h.persists hroom ((h.journal t ht).begins hnext)
 | execute s result=>
  simp only [step,Option.bind_eq_bind,Option.bind_eq_some_iff,Option.pure_def] at hstep
  obtain ⟨t,ht,hstep⟩:=hstep
  cases hstep
  obtain ⟨hjournal,hactive⟩:=active_eq ht
  exact h.persists hroom ((h.journal t hjournal).executes hactive result)
 | reconcile s observed=>
  simp only [step,Option.bind_eq_bind,Option.bind_eq_some_iff,Option.pure_def] at hstep
  obtain ⟨t,ht,settled,hsettled,hstep⟩:=hstep
  cases hstep
  obtain ⟨hjournal,hactive⟩:=active_eq ht
  exact h.persists hroom ((h.journal t hjournal).reconciles hactive hsettled)
 | advance s=>
  simp only [step,Option.bind_eq_bind,Option.bind_eq_some_iff,Option.pure_def] at hstep
  obtain ⟨t,ht,next,hnext,hstep⟩:=hstep
  cases hstep
  refine RecordsOk.persists ⟨h.journal,?_,h.written⟩ hroom
   ((h.journal t ht).follows (advance_follows hnext))
  intro m hm
  dsimp only at hm
  split at hm
  · cases hm
  · exact h.manifest m hm
 | publish s=>
  simp only [step,Option.bind_eq_bind,Option.bind_eq_some_iff] at hstep
  obtain ⟨t,ht,hstep⟩:=hstep
  split at hstep
  · next hphase =>
    cases hstep
    have hkind:operationKind t=trashMove:=congrArg phaseKind hphase
    exact h.publishes hroom ((h.journal t ht).excerpt hkind) rfl
  · next hphase =>
    cases hstep
    have hkind:operationKind t=trashMove:=congrArg phaseKind hphase
    exact h.publishes hroom ((h.journal t ht).excerpt hkind) hphase
  · cases hstep
 | cancel s=>
  simp only [step,Option.bind_eq_bind,Option.bind_eq_some_iff] at hstep
  obtain ⟨t,ht,hstep⟩:=hstep
  split at hstep
  · next hkind =>
    cases hstep
    refine h.persists hroom ((h.journal t ht).follows ⟨rfl,hkind.1.symm,.inr ⟨rfl,rfl⟩⟩)
  · cases hstep
 | retain s=>
  simp only [step,Option.bind_eq_bind,Option.bind_eq_some_iff] at hstep
  obtain ⟨t,ht,hstep⟩:=hstep
  split at hstep
  · cases hstep
  · next hconfirmed =>
    have hkind:operationKind t=trashMove:=by
     by_contra hother
     have hcancelling:=cancelling_kind hother
     simp [confirmed,hcancelling] at hconfirmed
    split at hstep
    · cases hstep
      exact h.publishes hroom (retained_excerpt ((h.journal t ht).excerpt hkind)) rfl
    · cases hstep
      exact ⟨h.journal,fun m hm=>absurd hm (Option.some_ne_none m).symm,h.written⟩
 | discard s=>
  simp only [step,Option.bind_eq_bind,Option.bind_eq_some_iff] at hstep
  obtain ⟨t,ht,hstep⟩:=hstep
  split at hstep
  · next hconfirmed =>
    have hkind:operationKind t=trashMove:=by
     by_contra hother
     have hcancelling:=cancelling_kind hother
     simp [confirmed,hcancelling] at hconfirmed
    cases hstep
    exact h.persists hroom ((h.journal t ht).follows ⟨rfl,hkind.symm,.inr ⟨rfl,rfl⟩⟩)
  · cases hstep
 | finish=>
  simp only [step,Option.bind_eq_bind,Option.bind_eq_some_iff] at hstep
  obtain ⟨t,ht,hstep⟩:=hstep
  split at hstep
  · cases hstep
    exact ⟨fun t' ht'=>absurd ht' (Option.some_ne_none t').symm,h.manifest,h.written⟩
  · cases hstep
 | reload=>
  simp only [step,Option.bind_eq_bind,Option.bind_eq_some_iff,Option.pure_def] at hstep
  obtain ⟨t,ht,loaded,hloaded,hstep⟩:=hstep
  cases hstep
  refine ⟨?_,h.manifest,h.written⟩
  intro t' ht'
  cases ht'
  rw [readBack_eq hloaded]
  exact (h.journal t ht).follows cleared_follows
 | restore s destination=>
  simp only [step,Option.bind_eq_bind,Option.bind_eq_some_iff] at hstep
  obtain ⟨m,hm,plan,hplan,hstep⟩:=hstep
  have hjournal:=restorePlan_journal (h.manifest m hm) hsize hplan (hrestores m hm plan hplan)
  split at hstep
  · cases hstep
  · split at hstep
    · obtain ⟨loaded,hloaded,hstep⟩:=Option.bind_eq_some_iff.mp hstep
      cases hstep
      refine RecordsOk.persists (h.publishes hroom ((h.manifest m hm).readBack hloaded).excerpt ?_)
       hroom hjournal
      simp only [restorePlan,hloaded,Option.bind_eq_bind,Option.bind_some,
       Option.bind_eq_some_iff] at hplan
      obtain ⟨rebased,-,hplan⟩:=hplan
      split at hplan
      · next hphase => exact hphase
      · cases hplan
    · cases hstep
      exact h.persists hroom hjournal
 | purge s=>
  simp only [step,Option.bind_eq_bind,Option.bind_eq_some_iff] at hstep
  obtain ⟨m,hm,loaded,hloaded,plan,hplan,hstep⟩:=hstep
  have hmanifest:=(h.manifest m hm).readBack hloaded
  split at hstep
  · cases hstep
  · cases hstep
    refine RecordsOk.persists (h.publishes hroom hmanifest.excerpt ?_) hroom
     (purgePlan_journal hmanifest hplan)
    unfold purgePlan at hplan
    split at hplan
    · next hphase => exact hphase
    · cases hplan

lemma steps_ok {start : Records} (hroom:RoomToMove prepared)
 (hsize:(shapes prepared).length≤kMaximumTrashItems) (hstart:RecordsOk prepared start)
 (hrun:Steps (RestoresHaveRoom prepared) start after) : RecordsOk prepared after:=by
 induction hrun with
 | refl=>exact hstart
 | next event earlier allows turn ih=>exact step_ok hroom hsize ih event allows turn

end Runs

section Reserve
variable {sources : List TrashSource} {operationId : UInt64} {createdUnixNs : Int64}
 {vaultRoot : Path} {transaction : TrashTransaction} {r records : Records} {s stored : Bool}

lemma prepare_eq
 (h:prepareTrashTransaction sources operationId createdUnixNs vaultRoot=.ok transaction):
 sources.length≤kMaximumTrashItems ∧ transaction=
  { operationId:=operationId,createdUnixNs:=createdUnixNs,
    items:=sources.mapIdx (preparedItem operationId vaultRoot) }:=by
 simp only [prepareTrashTransaction,bind_unit_eq_ok,require_eq_ok,decide_eq_true_eq,
  pure_eq_ok] at h
 exact ⟨h.1.2.1,h.2.2.symm⟩

lemma prepared_journal
 (h:prepareTrashTransaction sources operationId createdUnixNs vaultRoot=.ok transaction):
 JournalOk transaction transaction:=by
 obtain ⟨hsize,rfl⟩:=prepare_eq h
 refine .move rfl ⟨⟨0,Nat.zero_le _,?_,nofun,nofun⟩,nofun,by simpa [shapes] using hsize⟩
 refine List.ext_getElem length_split.symm fun index hindex hindex'=>?_
 rw [getElem_split hindex' hindex]
 simp only [shapes,List.getElem_map,List.getElem_mapIdx]
 rfl

def fileSource : TrashSource where
 path:=⟨utf8 "/d/a"⟩
 restorePath:=⟨utf8 "/d/a"⟩
 snapshot:={ sizeBytes:=5,sourceRevisionUtf8:=utf8 "posix:1:2:3" }

def trashOfFile : TrashTransaction where
 operationId:=1
 createdUnixNs:=1
 items:=[preparedItem 1 ⟨[]⟩ 0 fileSource]

lemma sizes_file : validTrashTransaction trashOfFile=.ok () ∧
 (∀count<2,HasRoom trashOfFile
  (split .stored .source count { trashOfFile with phase:=.cancelRemainingIntent })) ∧
 TextsBounded trashOfFile trashOfFile:=by
 unfold HasRoom TextsBounded
 decide +kernel

lemma prepare_file : prepareTrashTransaction [fileSource] 1 1 ⟨[]⟩=.ok trashOfFile:=by
 simp only [prepareTrashTransaction,bind_unit_eq_ok,require_eq_ok,decide_eq_true_eq,
  pure_eq_ok,throwInvalid_eq_ok]
 exact ⟨⟨List.cons_ne_nil _ _,by decide,by decide,by decide⟩,sizes_file.1,rfl⟩

lemma room_file : RoomToMove trashOfFile:=by
 intro count
 cases count with
 | zero=>exact sizes_file.2.1 0 (by decide)
 | succ count=>
  have hone:split .stored .source (count+1)
    { trashOfFile with phase:=.cancelRemainingIntent }=
     split .stored .source 1 { trashOfFile with phase:=.cancelRemainingIntent }:=by
   simp [split,trashOfFile]
  rw [hone]
  exact sizes_file.2.1 1 (by decide)

end Reserve

end VoVe.TrashJournalRun
