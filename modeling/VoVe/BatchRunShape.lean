import VoVe.BatchRenameCoordinator

set_option autoImplicit false

namespace VoVe.BatchRunShape
open ByteCodec PosixPath FileOperation DestinationFilename
open BatchTransaction BatchRenameCoordinator

/-- What no step changes of an item. -/
structure ItemCore where
 source : Path
 temporary : Path
 destination : Path
 objectKind : OperationObjectKind
 identity : Bytes

def coreOf (item : BatchTransactionItem) : ItemCore:=
 ⟨item.source,item.temporary,item.destination,item.objectKind,physicalId item⟩

variable (transaction : BatchRenameTransaction)

def coresOf : List ItemCore := transaction.items.map coreOf

structure CoreValid (operationId : UInt64) (parent : Path) (index : ℕ) (core : ItemCore):
  Prop where
 sourceAbsolute : core.source.isAbsolute
 temporaryAbsolute : core.temporary.isAbsolute
 destinationAbsolute : core.destination.isAbsolute
 sourceParent : core.source.parentPath.lexicallyNormal.same parent
 temporaryParent : core.temporary.parentPath.lexicallyNormal.same parent
 destinationParent : core.destination.parentPath.lexicallyNormal.same parent
 temporaryPath : core.temporary.same (parent / ⟨temporaryLeaf operationId index⟩)
 sourceName : isInternalFilename core.source.filename.native=false
 destinationNotInternal : isInternalFilename core.destination.filename.native=false
 temporaryName : DestinationName core.temporary.filename
 destinationName : DestinationName core.destination.filename
 identity : core.identity≠[]

def coreParent (cores : List ItemCore) : Path:=
 match cores with
 | []=>⟨[]⟩
 | core::_=>core.source.parentPath.lexicallyNormal

structure CoresValid (operationId : UInt64) (cores : List ItemCore) : Prop where
 nonempty : cores≠[]
 size : cores.length≤kMaximumBatchRenameItems
 each : ∀i (h:i<cores.length),CoreValid operationId (coreParent cores) i cores[i]
 sources : (cores.map fun core=>batchRenameCollisionKey core.source).Nodup
 destinations : (cores.map fun core=>batchRenameCollisionKey core.destination).Nodup
 identities : (cores.map (·.identity)).Nodup

/-- Where an item is, as far as its phase allows. -/
structure ItemPlaced (phase : BatchTransactionPhase) (item : BatchTransactionItem) : Prop where
 currentAbsolute : item.current.isAbsolute
 expected : expectedCurrentPath item
 allowed : locationAllowedInPhase phase item.location

/-- The phase a step belongs to, and where it finds its item. -/
def stepPhase : BatchStepKind → BatchTransactionPhase
 | .none=>.prepared
 | .evacuate=>.evacuating
 | .rollback=>.rollback
 | .publish=>.publishing

def stepStart : BatchStepKind → BatchItemLocation
 | .none=>.source
 | .evacuate=>.source
 | .rollback=>.temporary
 | .publish=>.temporary

/-- The active step fits its phase and finds its item where it starts. -/
structure StepFits (transaction : BatchRenameTransaction) (index : ℕ) (step : BatchStepKind):
  Prop where
 real : step≠.none
 inside : index<transaction.items.length
 phase : transaction.phase=stepPhase step
 location : (itemAt transaction index).location=stepStart step

structure BatchShape (transaction : BatchRenameTransaction) : Prop where
 version : transaction.version=kBatchRenameTransactionVersion
 operationId : transaction.operationId≠0
 cores : CoresValid transaction.operationId (coresOf transaction)
 placed : ∀item∈transaction.items,ItemPlaced transaction.phase item
 active : transaction.activeStep≠.none →
  StepFits transaction transaction.activeIndex.toNat transaction.activeStep
 inactive : transaction.activeStep=.none →
  transaction.activeIndex=0 ∧ transaction.activeEvidence=.none
 successEvidence : transaction.failureStatus=.success → transaction.activeEvidence=.none

/-- The one property of a valid transaction that a step result can break. -/
def DirectoriesEmpty : Prop:=
 ∀item ∈ transaction.items,item.objectKind = .directory → item.currentSnapshot.sizeBytes = 0

variable {index : ℕ} {item : BatchTransactionItem}

section Validity
variable {transaction : BatchRenameTransaction}

lemma itemAt_eq (h:index<transaction.items.length):
 itemAt transaction index=transaction.items[index]:=by
 simp [itemAt,List.getD_eq_getElem?_getD,h]

lemma itemAt_mem (h:index<transaction.items.length):
 itemAt transaction index∈transaction.items:=by
 rw [itemAt_eq h]
 exact List.getElem_mem h

lemma coreParent_coresOf : coreParent (coresOf transaction)=parentOf transaction.items:=by
 unfold coresOf parentOf
 cases transaction.items with
 | nil=>rfl
 | cons item items=>rfl

lemma activeStepMatchesPhase_iff (hactive:transaction.activeStep≠.none)
 (hindex:transaction.activeIndex.toNat<transaction.items.length):
 activeStepMatchesPhase transaction=true ↔
  StepFits transaction transaction.activeIndex.toNat transaction.activeStep:=by
 have hitem:=itemAt_eq hindex
 cases hstep:transaction.activeStep with
 | none=>exact absurd hstep hactive
 | evacuate=>
  simp only [activeStepMatchesPhase,hstep,List.getElem?_eq_getElem hindex,Option.map_some,
   Option.some.injEq,decide_eq_true_eq]
  exact ⟨fun h=>⟨nofun,hindex,h.1,hitem ▸ h.2⟩,fun h=>⟨h.phase,hitem ▸ h.location⟩⟩
 | rollback=>
  simp only [activeStepMatchesPhase,hstep,List.getElem?_eq_getElem hindex,Option.map_some,
   Option.some.injEq,decide_eq_true_eq]
  exact ⟨fun h=>⟨nofun,hindex,h.1,hitem ▸ h.2⟩,fun h=>⟨h.phase,hitem ▸ h.location⟩⟩
 | publish=>
  simp only [activeStepMatchesPhase,hstep,List.getElem?_eq_getElem hindex,Option.map_some,
   Option.some.injEq,decide_eq_true_eq]
  exact ⟨fun h=>⟨nofun,hindex,h.1,hitem ▸ h.2⟩,fun h=>⟨h.phase,hitem ▸ h.location⟩⟩

lemma itemValid_iff {phase : BatchTransactionPhase} {operationId : UInt64} {parent : Path}:
 ItemValid phase operationId parent index item ↔
  CoreValid operationId parent index (coreOf item) ∧ ItemPlaced phase item ∧
   (item.objectKind=.directory → item.currentSnapshot.sizeBytes=0):=by
 constructor
 · intro h
   have hpaths:=h.paths
   simp only [itemPathsConsistent,Bool.and_eq_true] at hpaths
   obtain ⟨⟨⟨⟨⟨⟨⟨⟨⟨hs,ht⟩,hd⟩,hc⟩,hsp⟩,htp⟩,hdp⟩,hpath⟩,hexpected⟩,hallowed⟩:=hpaths
   exact ⟨⟨hs,ht,hd,hsp,htp,hdp,hpath,h.sourceName,h.destinationNotInternal,
    h.temporaryName,h.destinationName,h.identity⟩,⟨hc,hexpected,hallowed⟩,h.directorySize⟩
 · rintro ⟨hcore,hplaced,hsize⟩
   refine ⟨hsize,?_,hcore.sourceName,hcore.destinationNotInternal,hcore.temporaryName,
    hcore.destinationName,hcore.identity⟩
   simp only [itemPathsConsistent,Bool.and_eq_true]
   exact ⟨⟨⟨⟨⟨⟨⟨⟨⟨hcore.sourceAbsolute,hcore.temporaryAbsolute⟩,hcore.destinationAbsolute⟩,
    hplaced.currentAbsolute⟩,hcore.sourceParent⟩,hcore.temporaryParent⟩,
    hcore.destinationParent⟩,hcore.temporaryPath⟩,hplaced.expected⟩,hplaced.allowed⟩

lemma batchValid_iff:
 BatchValid transaction ↔ BatchShape transaction ∧ DirectoriesEmpty transaction:=by
 have hlength:(coresOf transaction).length=transaction.items.length:=List.length_map _
 have hget:∀i (h:i<transaction.items.length),
   (coresOf transaction)[i]=coreOf transaction.items[i]:=
  fun i h=>List.getElem_map _
 constructor
 · intro h
   have hitem:=fun i hi=>itemValid_iff.mp (h.items i hi)
   refine ⟨⟨h.version,h.operationId,⟨?_,?_,?_,?_,?_,?_⟩,?_,?_,?_,h.successEvidence⟩,?_⟩
   · simpa [coresOf] using h.nonempty
   · rw [hlength]
     exact h.size
   · intro i hi
     rw [coreParent_coresOf]
     rw [hlength] at hi
     rw [hget i hi]
     exact (hitem i hi).1
   · simpa [coresOf,coreOf,Function.comp_def] using h.sources
   · simpa [coresOf,coreOf,Function.comp_def] using h.destinations
   · simpa [coresOf,coreOf,Function.comp_def] using h.identities
   · intro item hmem
     obtain ⟨i,hi,rfl⟩:=List.mem_iff_getElem.mp hmem
     exact (hitem i hi).2.1
   · intro hactive
     exact (activeStepMatchesPhase_iff hactive (h.activeIndex hactive)).mp h.activeStep
   · exact fun hinactive=>⟨h.inactiveIndex hinactive,h.inactiveEvidence hinactive⟩
   · intro item hmem
     obtain ⟨i,hi,rfl⟩:=List.mem_iff_getElem.mp hmem
     exact (hitem i hi).2.2
 · rintro ⟨h,hsizes⟩
   refine ⟨h.version,h.operationId,?_,?_,fun hinactive=>(h.inactive hinactive).1,
    fun hactive=>(h.active hactive).inside,?_,fun hinactive=>(h.inactive hinactive).2,
    h.successEvidence,?_,?_,?_,?_⟩
   · simpa [coresOf] using h.cores.nonempty
   · rw [←hlength]
     exact h.cores.size
   · by_cases hactive:transaction.activeStep=.none
     · simp [activeStepMatchesPhase,hactive,h.inactive hactive]
     · exact (activeStepMatchesPhase_iff hactive (h.active hactive).inside).mpr (h.active hactive)
   · intro i hi
     have hcore:=h.cores.each i (by rw [hlength]; exact hi)
     rw [coreParent_coresOf,hget i hi] at hcore
     exact itemValid_iff.mpr ⟨hcore,h.placed _ (List.getElem_mem hi),hsizes _ (List.getElem_mem hi)⟩
   · simpa [coresOf,coreOf,Function.comp_def] using h.cores.sources
   · simpa [coresOf,coreOf,Function.comp_def] using h.cores.destinations
   · simpa [coresOf,coreOf,Function.comp_def] using h.cores.identities

end Validity

lemma trustworthy_ok {r : OperationResult} (h:trustworthy item r) : r.ok=true:=by
 simp only [trustworthy,Bool.and_eq_true] at h
 exact h.1.1

/-- No step is under way. -/
def Idle : Prop := transaction.activeStep = .none

lemma stepPhase_ne_prepared {step : BatchStepKind} (h:step≠.none):
 stepPhase step≠.prepared:=by
 cases step with
 | none=>exact absurd rfl h
 | evacuate=>exact nofun
 | rollback=>exact nofun
 | publish=>exact nofun

lemma BatchShape.idle_of_prepared {transaction : BatchRenameTransaction}
 (h:BatchShape transaction) (hphase:transaction.phase=.prepared) : Idle transaction:=by
 by_contra hactive
 have hfits:=h.active hactive
 exact stepPhase_ne_prepared hfits.real (hfits.phase.symm.trans hphase)

section Updates
variable {transaction : BatchRenameTransaction} {index : ℕ} {step : BatchStepKind}

lemma itemAt_set_self (item : BatchTransactionItem) (h:index<transaction.items.length):
 itemAt (setItem transaction index item) index=item:=by
 simp [itemAt,setItem,List.getD_eq_getElem?_getD,h]

lemma itemAt_set_other (item : BatchTransactionItem) {other : ℕ} (h:other≠index):
 itemAt (setItem transaction index item) other=itemAt transaction other:=by
 simp [itemAt,setItem,List.getD_eq_getElem?_getD,List.getElem?_set_ne h.symm]

lemma coresOf_setItem (h:index<transaction.items.length)
 (hcore:coreOf item=coreOf (itemAt transaction index)):
 coresOf (setItem transaction index item)=coresOf transaction:=by
 have hindex:index<(transaction.items.map coreOf).length:=by simpa using h
 have hget:(transaction.items.map coreOf)[index]=coreOf item:=by
  rw [List.getElem_map,hcore,itemAt_eq h]
 rw [coresOf,setItem,List.map_set,←hget,List.set_getElem_self]
 rfl

@[simp] lemma forgetFailure_items : (forgetFailure transaction).items=transaction.items:=by
 unfold forgetFailure
 split
 · rfl
 · rfl

@[simp] lemma forgetFailure_phase : (forgetFailure transaction).phase=transaction.phase:=by
 unfold forgetFailure
 split
 · rfl
 · rfl

@[simp] lemma forgetFailure_activeStep:
 (forgetFailure transaction).activeStep=transaction.activeStep:=by
 unfold forgetFailure
 split
 · rfl
 · rfl

lemma BatchShape.forgetFailure (h:BatchShape transaction) (hidle:Idle transaction):
 BatchShape (forgetFailure transaction):=by
 unfold BatchRenameCoordinator.forgetFailure
 split
 · exact h
 · exact ⟨h.version,h.operationId,h.cores,h.placed,fun hactive=>absurd hidle hactive,
    h.inactive,fun _=>(h.inactive hidle).2⟩

lemma BatchShape.idle {next : BatchRenameTransaction} (h:BatchShape transaction)
  (hversion:next.version=transaction.version)
  (hoperation:next.operationId=transaction.operationId)
  (hitems:next.items=transaction.items) (hstep:Idle next) (hindex:next.activeIndex=0)
  (hevidence:next.activeEvidence=.none)
  (hphase:∀item∈transaction.items,locationAllowedInPhase next.phase item.location):
  BatchShape next where
 version:=hversion.trans h.version
 operationId:=hoperation ▸ h.operationId
 cores:=by
  rw [coresOf,hitems,hoperation]
  exact h.cores
 placed item hmem:=by
  rw [hitems] at hmem
  exact ⟨(h.placed item hmem).currentAbsolute,(h.placed item hmem).expected,hphase item hmem⟩
 active hactive := absurd hstep hactive
 inactive _ := ⟨hindex,hevidence⟩
 successEvidence _ := hevidence

section
variable (h:BatchShape transaction)
include h

lemma BatchShape.clearActive : BatchShape (clearActive transaction):=
 h.idle rfl rfl rfl rfl rfl rfl fun item hmem=>(h.placed item hmem).allowed

lemma BatchShape.movePhase (hidle:Idle transaction)
 {phase : BatchTransactionPhase}
 (hphase:∀item∈transaction.items,locationAllowedInPhase phase item.location):
 BatchShape { transaction with phase:=phase }:=
 h.idle rfl rfl rfl hidle (h.inactive hidle).1 (h.inactive hidle).2 hphase

lemma toNat_activeIndex (hindex:index<transaction.items.length):
 (UInt32.ofNat index).toNat=index:=by
 have hsize:=h.cores.size
 rw [coresOf,List.length_map] at hsize
 unfold kMaximumBatchRenameItems at hsize
 simp only [UInt32.toNat_ofNat']
 omega

lemma BatchShape.beginStep (hfits:StepFits transaction index step):
 BatchShape (beginStep transaction index step) := { h with
  active _:=by
   change StepFits (BatchRenameCoordinator.beginStep transaction index step)
    (UInt32.ofNat index).toNat step
   rw [toNat_activeIndex h hfits.inside]
   exact ⟨hfits.real,hfits.inside,hfits.phase,hfits.location⟩
  inactive hinactive := absurd hinactive hfits.real
  successEvidence _ := rfl }

lemma BatchShape.recordFailure (hactive:¬Idle transaction)
 (status : OperationStatus) (hstatus:status≠.success) (evidence : OperationEvidence)
 (detail : Bytes) : BatchShape (recordFailure transaction status evidence detail) := { h with
  active _:=by
   have hfits:=h.active hactive
   exact ⟨hfits.real,hfits.inside,hfits.phase,hfits.location⟩
  inactive hinactive := absurd hinactive hactive
  successEvidence hsuccess := absurd hsuccess hstatus }

end

lemma allowed_rollback {location : BatchItemLocation}
 (h:locationAllowedInPhase .evacuating location) : locationAllowedInPhase .rollback location:=by
 cases location with
 | source=>rfl
 | temporary=>rfl
 | destination=>exact absurd h (by decide)

lemma BatchShape.refused (h:BatchShape transaction) (hfits:StepFits transaction index step)
 (result : OperationResult) : BatchShape (refused transaction step result):=by
 refine h.idle rfl rfl rfl rfl rfl rfl fun item hmem=>?_
 have hallowed:=(h.placed item hmem).allowed
 change locationAllowedInPhase (if step=.evacuate then .rollback else transaction.phase) _
 split
 · next hstep =>
   rw [hfits.phase,hstep] at hallowed
   exact allowed_rollback hallowed
 · exact hallowed

lemma allowed_stepLocation (step : BatchStepKind):
 locationAllowedInPhase (stepPhase step) (stepLocation step):=by
 cases step with
 | none=>rfl
 | evacuate=>rfl
 | rollback=>rfl
 | publish=>rfl

lemma expected_moved (item : BatchTransactionItem) (hstep:step≠.none)
 (confirmed : SourceSnapshot) : expectedCurrentPath (moved item step confirmed):=by
 cases step with
 | none=>exact absurd rfl hstep
 | evacuate=>exact same_refl _
 | rollback=>exact same_refl _
 | publish=>exact same_refl _

lemma coreOf_moved {result : OperationResult} (h:trustworthy item result):
 coreOf (moved item step result.confirmedSnapshot)=coreOf item:=by
 simp only [trustworthy,Bool.and_eq_true,decide_eq_true_eq] at h
 simp only [coreOf,moved,physicalId] at h ⊢
 rw [h.2]

lemma BatchShape.core_mem (h:BatchShape transaction) (hindex:index<transaction.items.length):
 CoreValid transaction.operationId (coreParent (coresOf transaction)) index
  (coreOf (itemAt transaction index)):=by
 have hcore:=h.cores.each index (by simpa [coresOf] using hindex)
 rw [itemAt_eq hindex]
 simpa [coresOf] using hcore

lemma stepDestination_absolute (h:BatchShape transaction)
 (hfits:StepFits transaction index step):
 (stepDestination (itemAt transaction index) step).isAbsolute:=by
 have hcore:=h.core_mem hfits.inside
 cases step with
 | none=>exact absurd rfl hfits.real
 | evacuate=>exact hcore.temporaryAbsolute
 | rollback=>exact hcore.sourceAbsolute
 | publish=>exact hcore.destinationAbsolute

/-- A trustworthy success moves one item, whatever snapshot it confirms. -/
lemma BatchShape.moved (h:BatchShape transaction) (hfits:StepFits transaction index step)
  {result : OperationResult} (htrust:trustworthy (itemAt transaction index) result):
  BatchShape (BatchRenameCoordinator.clearActive (setItem transaction index
   (moved (itemAt transaction index) step result.confirmedSnapshot))) where
 version:=h.version
 operationId:=h.operationId
 cores:=by
  change CoresValid transaction.operationId (coresOf (setItem transaction index _))
  rw [coresOf_setItem hfits.inside (coreOf_moved htrust)]
  exact h.cores
 placed item hmem:=by
  obtain hmem | rfl:=List.mem_or_eq_of_mem_set hmem
  · exact h.placed item hmem
  · refine ⟨stepDestination_absolute h hfits,expected_moved _ hfits.real _,?_⟩
    change locationAllowedInPhase transaction.phase (stepLocation step)
    rw [hfits.phase]
    exact allowed_stepLocation step
 active hactive := absurd rfl hactive
 inactive _ := ⟨rfl,rfl⟩
 successEvidence _ := rfl

end Updates

end VoVe.BatchRunShape
