import VoVe.JournalRecord
import VoVe.PermanentDeleteCoordinator

set_option autoImplicit false

/-! What the journal of a permanent delete says of its directory, and what each
  step tells of it. -/

namespace VoVe.DeleteRunWorld
open ByteCodec PosixPath EffectProgram FileOperation OperationRequest
open ObjectDirectory JournalDisk JournalAtomicity OperationWorld
open JournalRecord DeleteTransaction PermanentDeleteCoordinator

structure DeleteState where
 journal : Generations
 directory : ObjectNames

/-- A store that may fail or be cut and a truthful service. -/
def deleteWorld : World DeleteOp DeleteReply DeleteState where
 answers o before reply after:=
  match o, reply with
  | .persist transaction, reply=>after.directory = before.directory ∧
    Persists .permanentDelete (encodePermanentDeleteTransaction transaction)
     before.journal reply after.journal
  | .submitRename request reconcile, result=>after.journal = before.journal ∧
    RenameTruth request reconcile before.directory after.directory result
  | .submitDelete request reconcile, result=>after.journal = before.journal ∧
    DeleteTruth request reconcile before.directory after.directory result
  | .stopRequested, _=>after = before
  | .removeJournal, reply=>after.directory = before.directory ∧
    RemovesJournal before.journal reply after.journal
  | .readJournal, loaded=>after = before ∧ ReadsJournal before.journal loaded
 cut o before after:=
  match o with
  | .persist transaction=>after.directory = before.directory ∧
    PersistLeaves .permanentDelete (encodePermanentDeleteTransaction transaction)
     before.journal after.journal
  | .submitRename request reconcile=>after.journal = before.journal ∧
    RenameLeaves request reconcile before.directory after.directory
  | .submitDelete request reconcile=>after.journal = before.journal ∧
    DeleteLeaves request reconcile before.directory after.directory
  | .stopRequested=>after = before
  | .removeJournal=>after.directory = before.directory ∧ RemoveStep before.journal after.journal
  | .readJournal=>after = before

/-- What of an item no step changes. -/
structure ItemCore where
 identity : Bytes
 source : Path
 temporary : Path

variable (item : PermanentDeleteItem)

def coreOf : ItemCore where
 identity:=identityOf item
 source:=item.source
 temporary:=item.temporary

variable (transaction : PermanentDeleteTransaction)

def coresOf : List ItemCore := transaction.items.map coreOf

variable (cores : List ItemCore)

def AllAt (path : ItemCore → Path) (directory : ObjectNames) : Prop:=
 ∀core ∈ cores,At directory core.identity (nameOf (path core))

variable (directory : ObjectNames)

def AllGone : Prop := ∀core ∈ cores,Gone directory core.identity

def OthersKeep (before after : ObjectNames) : Prop:=
 ∀object,object ∉ cores.map (·.identity) →
  ∀name,after name = some object ↔ before name = some object

/-- The point of no return: the journal holds the deleting phase and every item
  is at its temporary name. -/
def Commits
  (transaction : PermanentDeleteTransaction) : Prop:=
 transaction.phase = .deleting ∧ coresOf transaction = cores ∧ AllAt cores (·.temporary) directory

def CommitPoint (s : DeleteState) : Prop:=
 ∃ bytes transaction,s.journal.primary = some bytes ∧
  Holds .permanentDelete encodePermanentDeleteTransaction bytes transaction ∧
  Commits cores s.directory transaction

def Idle : Prop := transaction.activeStep = .none

/-- Where an item's object is recorded, and where a step takes it. -/
def placeOf : Option Bytes:=
 if item.location = .deleted then none else some (nameOf item.current)

def stepPlace (step : PermanentDeleteStep) : Option Bytes:=
 if step = .erase then none else some (nameOf (renameTarget item step))

def Placed (item : PermanentDeleteItem) : Prop := Stands directory (identityOf item) (placeOf item)

def Stepped (item : PermanentDeleteItem)
  (step : PermanentDeleteStep) : Prop:=
 Stands directory (identityOf item) (stepPlace item step)

def activeItem : PermanentDeleteItem := itemAt transaction transaction.activeIndex.toNat

/-- The record describes the directory: every object is where its item says, but
  the one of the active step may have arrived already; and it only says
  `deleting` once the point of no return has been noted. -/
structure Describes (cores : List ItemCore) (directory : ObjectNames) (noted : Prop)
  (transaction : PermanentDeleteTransaction) : Prop where
 cores : coresOf transaction=cores
 evidence : ¬Idle transaction → transaction.activeEvidence≠.noCommit
 committed : transaction.phase=.deleting → noted
 resting : ∀i<transaction.items.length,
  (¬Idle transaction → i≠transaction.activeIndex.toNat) → Placed directory (itemAt transaction i)
 active : ¬Idle transaction → Placed directory (activeItem transaction) ∨
  Stepped directory (activeItem transaction) transaction.activeStep

/-- What a truthful result says of the item of the active step. -/
structure Told (directory : ObjectNames) (transaction : PermanentDeleteTransaction)
  (result : OperationResult) : Prop where
 arrived : result.ok → result.evidence≠.noCommit ∧
  Stepped directory (activeItem transaction) transaction.activeStep
 stayed : ¬result.ok → result.evidence=.noCommit → Placed directory (activeItem transaction)

variable {step : PermanentDeleteStep} {result : OperationResult}

section Items
variable {t : PermanentDeleteTransaction} {i index : ℕ} {item : PermanentDeleteItem}

lemma itemAt_eq (h:i<t.items.length) : itemAt t i=t.items[i]:=by
 simp [itemAt,List.getD_eq_getElem?_getD,h]

lemma itemAt_mem (h:i<t.items.length) : itemAt t i∈t.items:=by
 rw [itemAt_eq h]
 exact List.getElem_mem h

lemma itemAt_set_self (h:index<t.items.length) : itemAt (setItem t index item) index=item:=by
 simp [itemAt,setItem,List.getD_eq_getElem?_getD,h]

lemma itemAt_set_other (h:i≠index) : itemAt (setItem t index item) i=itemAt t i:=by
 simp [itemAt,setItem,List.getD_eq_getElem?_getD,List.getElem?_set_ne h.symm]

lemma coresOf_setItem (h:index<t.items.length) (hcore:coreOf item=coreOf (itemAt t index)):
 coresOf (setItem t index item)=coresOf t:=by
 have hindex:index<(t.items.map coreOf).length:=by simpa using h
 have hget:(t.items.map coreOf)[index]=coreOf item:=by
  rw [List.getElem_map,hcore,itemAt_eq h]
 rw [coresOf,setItem,List.map_set,←hget,List.set_getElem_self]
 rfl

lemma toNat_activeIndex (hvalid:DeleteValid t) (h:index<t.items.length):
 (UInt32.ofNat index).toNat=index:=by
 have hsize:=hvalid.size
 unfold kMaximumPermanentDeleteItems at hsize
 simp only [UInt32.toNat_ofNat']
 omega

lemma identity_ne (hvalid:DeleteValid t) {j : ℕ} (hi:i<t.items.length)
 (hj:j<t.items.length) (hne:i≠j) : identityOf (itemAt t i)≠identityOf (itemAt t j):=by
 intro heq
 rw [itemAt_eq hi,itemAt_eq hj] at heq
 have hi':i<(t.items.map identityOf).length:=by simpa using hi
 have hj':j<(t.items.map identityOf).length:=by simpa using hj
 have hmap:(t.items.map identityOf)[i]=(t.items.map identityOf)[j]:=by simpa using heq
 exact hne (hvalid.identities.getElem_inj_iff.mp hmap)

lemma placeOf_activeItem (hvalid:DeleteValid t) (hactive:¬Idle t):
 placeOf (activeItem t)=some (nameOf (activeItem t).current):=by
 have hinside:=hvalid.activeIndex hactive
 have hstep:=hvalid.activeStep
 rw [activeStepMatches,List.getElem?_eq_getElem hinside] at hstep
 have hlocation:(activeItem t).location≠.deleted:=by
  intro hdeleted
  rw [activeItem,itemAt_eq hinside] at hdeleted
  rw [Option.map_some,hdeleted] at hstep
  cases hs:t.activeStep with
  | none=>exact hactive hs
  | evacuate=>simp [hs] at hstep
  | rollback=>simp [hs] at hstep
  | erase=>simp [hs] at hstep
 rw [placeOf,if_neg hlocation]

lemma applyRenameSuccess_ok {applied : PermanentDeleteItem}
 (h:applyRenameSuccess item step result=.ok applied):
 coreOf applied=coreOf item ∧ placeOf applied=some (nameOf (renameTarget item step)) ∧
  applied.location=if step=.evacuate then .temporary else .source:=by
 unfold applyRenameSuccess at h
 dsimp only at h
 split at h
 · cases h
 · next htrust =>
   obtain rfl:=Except.ok.inj h
   obtain ⟨-,hconfirmed⟩:=not_or.mp htrust
   obtain ⟨-,hconfirmed⟩:=not_or.mp hconfirmed
   refine ⟨?_,?_,rfl⟩
   · simp only [coreOf,identityOf,not_not.mp hconfirmed]
   · rw [placeOf,if_neg]
     dsimp only
     split
     · exact nofun
     · exact nofun

lemma applyEraseSuccess_ok {applied : PermanentDeleteItem}
 (h:applyEraseSuccess item result=.ok applied):
 coreOf applied=coreOf item ∧ placeOf applied=none ∧ applied.location=.deleted:=by
 unfold applyEraseSuccess at h
 split at h
 · cases h
 · obtain rfl:=Except.ok.inj h
   exact ⟨rfl,rfl,rfl⟩

def stepLocation : PermanentDeleteStep → PermanentDeleteItemLocation
 | .evacuate=>.temporary
 | .erase=>.deleted
 | _=>.source

lemma applySuccess_ok {applied : PermanentDeleteTransaction}
 (h:applySuccess t index step result=.ok applied):
 ∃ moved,coreOf moved=coreOf (itemAt t index) ∧
  placeOf moved=stepPlace (itemAt t index) step ∧ moved.location=stepLocation step ∧
  applied=clearActive (setItem t index moved):=by
 unfold applySuccess at h
 by_cases herase:step=.erase
 · subst herase
   rw [if_pos rfl] at h
   cases hitem:applyEraseSuccess (itemAt t index) result with
   | error detail=>
    rw [hitem] at h
    cases h
   | ok moved=>
    rw [hitem] at h
    obtain ⟨hcore,hplace,hlocation⟩:=applyEraseSuccess_ok hitem
    exact ⟨moved,hcore,hplace,hlocation,(Except.ok.inj h).symm⟩
 · rw [if_neg herase] at h
   cases hitem:applyRenameSuccess (itemAt t index) step result with
   | error detail=>
    rw [hitem] at h
    cases h
   | ok moved=>
    rw [hitem] at h
    obtain ⟨hcore,hplace,hlocation⟩:=applyRenameSuccess_ok hitem
    refine ⟨moved,hcore,?_,?_,(Except.ok.inj h).symm⟩
    · rw [stepPlace,if_neg herase,hplace]
    · rw [hlocation]
      cases step with
      | none=>rfl
      | evacuate=>rfl
      | rollback=>rfl
      | erase=>exact absurd rfl herase

end Items

section Descriptions
variable {cores : List ItemCore} {directory after : ObjectNames} {noted noted' : Prop}
 {t next : PermanentDeleteTransaction} {r : OperationResult} {index : ℕ}
 {step : PermanentDeleteStep}

lemma Describes.all (h:Describes cores directory noted t) (hidle:Idle t):
 ∀i<t.items.length,Placed directory (itemAt t i):=
 fun i hi=>h.resting i hi fun hactive=>absurd hidle hactive

lemma Describes.mono (h:Describes cores directory noted t) (hnoted:noted → noted'):
 Describes cores directory noted' t:=
 ⟨h.cores,h.evidence,fun hphase=>hnoted (h.committed hphase),h.resting,h.active⟩

lemma Describes.of_all (hcores:coresOf next=cores) (hidle:Idle next)
  (hcommitted:next.phase=.deleting → noted)
  (hall:∀i<next.items.length,Placed directory (itemAt next i)):
  Describes cores directory noted next where
 cores:=hcores
 evidence hactive := absurd hidle hactive
 committed:=hcommitted
 resting i hi _ := hall i hi
 active hactive := absurd hidle hactive

lemma activeItem_beginStep (hvalid:DeleteValid t) (hindex:index<t.items.length):
 activeItem (beginStep t index step)=itemAt t index:=by
 change itemAt t (UInt32.ofNat index).toNat=itemAt t index
 rw [toNat_activeIndex hvalid hindex]

section
variable (h:Describes cores directory noted t)
include h

lemma Describes.begun (hvalid:DeleteValid t)
  (hidle:Idle t) (hindex:index<t.items.length):
  Describes cores directory noted (beginStep t index step) where
 cores:=h.cores
 evidence _ := nofun
 committed:=h.committed
 resting i hi _ := h.all hidle i hi
 active _:=by
  rw [activeItem_beginStep hvalid hindex]
  exact .inl (h.all hidle index hindex)

lemma Describes.recordFailure (status : OperationStatus)
 {evidence : OperationEvidence} (hevidence:evidence≠.noCommit) (detail : Bytes):
 Describes cores directory noted (recordFailure t status evidence detail):=
 ⟨h.cores,fun _=>hevidence,h.committed,h.resting,h.active⟩

lemma Describes.carried (hvalid:DeleteValid t)
  (hactive:¬Idle t) (hplaced:Placed directory (activeItem t))
  (hcarries:Carries (identityOf (activeItem t)) (nameOf (activeItem t).current)
   (stepPlace (activeItem t) t.activeStep) directory after) : Describes cores after noted t where
 cores:=h.cores
 evidence:=h.evidence
 committed:=h.committed
 resting i hi hother:=by
  have hne:=identity_ne hvalid hi (hvalid.activeIndex hactive) (hother hactive)
  exact (h.resting i hi hother).congr (hcarries.others _ hne)
 active _:=by
  rw [Placed,placeOf_activeItem hvalid hactive,stands_some] at hplaced
  exact .inr (hcarries.arrives hplaced)

end

lemma Told.applied (htold:Told directory t r) (h:Describes cores directory noted t)
 (hvalid:DeleteValid t) (hactive:¬Idle t) (hok:r.ok) {moved : PermanentDeleteItem}
 (hcore:coreOf moved=coreOf (activeItem t))
 (hplace:placeOf moved=stepPlace (activeItem t) t.activeStep):
 Describes cores directory noted (clearActive (setItem t t.activeIndex.toNat moved)):=by
 have hinside:=hvalid.activeIndex hactive
 refine .of_all ((coresOf_setItem hinside hcore).trans h.cores) rfl h.committed fun i hi=>?_
 change Placed directory (itemAt (setItem t t.activeIndex.toNat moved) i)
 by_cases hself:i=t.activeIndex.toNat
 · have hidentity:identityOf moved=identityOf (activeItem t):=
    congrArg ItemCore.identity hcore
   rw [hself,itemAt_set_self hinside,Placed,hidentity,hplace]
   exact (htold.arrived hok).2
 · rw [itemAt_set_other hself]
   refine h.resting i ?_ fun _=>hself
   simpa [clearActive,setItem] using hi

lemma Told.refused (htold:Told directory t r) (h:Describes cores directory noted t)
 (hok:¬r.ok) (hevidence:r.evidence=.noCommit):
 Describes cores directory noted (refused t step r):=by
 refine .of_all h.cores rfl ?_ fun i hi=>?_
 · intro hphase
   unfold PermanentDeleteCoordinator.refused at hphase
   dsimp only at hphase
   split at hphase
   · cases hphase
   · exact h.committed hphase
 · change Placed directory (itemAt t i)
   by_cases hself:i=t.activeIndex.toNat
   · rw [hself]
     exact htold.stayed hok hevidence
   · exact h.resting i hi fun _=>hself

lemma Told.merged (htold:Told directory t r) (h:Describes cores directory noted t)
 (hvalid:DeleteValid t) (hevidence:t.activeEvidence≠.none) (operationId : UInt64):
 Told directory t (mergeReconciliation (recordedAttempt t operationId) r):=by
 have hstatus:t.failureStatus≠.success:=fun hs=>hevidence (hvalid.successEvidence hs)
 have hactive:¬Idle t:=fun hidle=>hevidence (hvalid.inactiveEvidence hidle)
 constructor
 · intro hok
   obtain ⟨hobserved,hmerged⟩:=merge_ok (decide_eq_false hstatus) hok
   rw [hmerged]
   exact htold.arrived hobserved
 · intro _ hmerged
   exact absurd hmerged (merge_noCommit hevidence (h.evidence hactive))

end Descriptions

section Truth

/-- An item is seen to have taken its step. -/
def Arrived (item : PermanentDeleteItem) (step : PermanentDeleteStep) : Prop:=
 if step = .erase then directory (nameOf item.current)≠some (identityOf item)
 else directory (nameOf (renameTarget item step)) = some (identityOf item)

/-- What a truthful service may answer to a step, and leave, whichever of the two
  requests the step makes. -/
structure StepTruth (item : PermanentDeleteItem) (step : PermanentDeleteStep) (reconcile : Bool)
  (before after : ObjectNames) (result : OperationResult) : Prop where
 effect : after=before ∨ (reconcile=false ∧
  Carries (identityOf item) (nameOf item.current) (stepPlace item step) before after)
 success : result.ok → Arrived after item step ∧ result.evidence≠.noCommit
 refusal : ¬result.ok → result.evidence=.noCommit → (reconcile=false → after=before) ∧
  (reconcile=true → after (nameOf item.current)=some (identityOf item))

variable {t : PermanentDeleteTransaction} {index : ℕ} {step : PermanentDeleteStep}
 {reconcile : Bool} {before after directory : ObjectNames} {result : OperationResult}

lemma stepTruth_rename (hstep:step≠.erase)
  (h:RenameTruth (renameRequest t index step) reconcile before after result):
  StepTruth (itemAt t index) step reconcile before after result where
 effect:=by
  obtain hsame | ⟨hexecute,hrename⟩:=h.effect
  · exact .inl hsame
  · rw [stepPlace,if_neg hstep]
    exact .inr ⟨hexecute,hrename.carries⟩
 success hok:=by
  rw [Arrived,if_neg hstep]
  exact h.success hok
 refusal:=h.refusal

lemma stepTruth_delete (h:DeleteTruth (deleteRequest t index) reconcile before after result):
  StepTruth (itemAt t index) .erase reconcile before after result where
 effect:=by
  obtain hsame | ⟨hexecute,hremove⟩:=h.effect
  · exact .inl hsame
  · exact .inr ⟨hexecute,hremove.carries⟩
 success:=h.success
 refusal:=h.refusal

lemma arrived_stepped (hvalid:DeleteValid t) (hactive:¬Idle t)
 (hat:Placed directory (activeItem t) ∨ Stepped directory (activeItem t) t.activeStep)
 (harrived:Arrived directory (activeItem t) t.activeStep):
 Stepped directory (activeItem t) t.activeStep:=by
 obtain hplaced | hstepped:=hat
 · have hplace:=placeOf_activeItem hvalid hactive
   unfold Arrived at harrived
   unfold Stepped stepPlace
   split at harrived
   · exact absurd ((hplaced _).mpr hplace) harrived
   · next herase =>
     rw [if_neg herase,←(hplaced _).mp harrived]
     exact hplaced
 · exact hstepped

lemma seen_placed (hvalid:DeleteValid t) (hactive:¬Idle t)
 (hat:Placed directory (activeItem t) ∨ Stepped directory (activeItem t) t.activeStep)
 (hseen:directory (nameOf (activeItem t).current)=some (identityOf (activeItem t))):
 Placed directory (activeItem t):=by
 obtain hplaced | hstepped:=hat
 · exact hplaced
 · rw [Placed,placeOf_activeItem hvalid hactive,←(hstepped _).mp hseen]
   exact hstepped

end Truth

end VoVe.DeleteRunWorld
