import VoVe.BatchRunRule
import VoVe.JournalRecord

set_option autoImplicit false

namespace VoVe.BatchRunSafety
open ByteCodec AsciiText PosixPath EffectProgram FileOperation OperationRequest
open ObjectDirectory JournalDisk JournalAtomicity CurrentOperationJournal OperationWorld
open JournalRecord BatchTransaction BatchTransactionCodec BatchRenameCoordinator BatchRunShape
open BatchRunRule

structure BatchState where
 journal : Generations
 directory : ObjectNames

/-- A store that may fail or be cut and a truthful service. -/
def batchWorld : World BatchOp BatchReply BatchState where
 answers o before reply after:=
  match o, reply with
  | .persist transaction, reply=>after.directory = before.directory ∧
    Persists .batchRename (encodeBatchTransaction transaction) before.journal reply after.journal
  | .submit request reconcile, result=>after.journal = before.journal ∧
    RenameTruth request reconcile before.directory after.directory result
  | .stopRequested, _=>after = before
  | .removeJournal, reply=>after.directory = before.directory ∧
    RemovesJournal before.journal reply after.journal
  | .readJournal, loaded=>after = before ∧ ReadsJournal before.journal loaded
 cut o before after:=
  match o with
  | .persist transaction=>after.directory = before.directory ∧
    PersistLeaves .batchRename (encodeBatchTransaction transaction) before.journal after.journal
  | .submit request reconcile=>after.journal = before.journal ∧
    RenameLeaves request reconcile before.directory after.directory
  | .stopRequested=>after = before
  | .removeJournal=>after.directory = before.directory ∧ RemoveStep before.journal after.journal
  | .readJournal=>after = before

def AllAt (cores : List ItemCore) (path : ItemCore → Path) (directory : ObjectNames) : Prop:=
 ∀core ∈ cores,At directory core.identity (nameOf (path core))

def AllOrNothing (cores : List ItemCore) (directory : ObjectNames) : Prop:=
 AllAt cores (·.source) directory ∨ AllAt cores (·.destination) directory

/-- Where an item's object is recorded, and where its active step may have put it. -/
def currentAt (directory : ObjectNames) (item : BatchTransactionItem) : Prop:=
 At directory (physicalId item) (nameOf item.current)

def steppedTo (directory : ObjectNames) (item : BatchTransactionItem) (step : BatchStepKind) : Prop:=
 At directory (physicalId item) (nameOf (stepDestination item step))

/-- The record describes the directory: every object is where its item says, but
  the one of the active step may have arrived already. -/
structure Describes (cores : List ItemCore) (directory : ObjectNames)
  (transaction : BatchRenameTransaction) : Prop where
 cores : coresOf transaction=cores
 evidence : ¬Idle transaction → transaction.activeEvidence≠.noCommit
 resting : ∀i<transaction.items.length, (¬Idle transaction → i≠transaction.activeIndex.toNat) →
  currentAt directory (itemAt transaction i)
 active : ¬Idle transaction →
  currentAt directory (itemAt transaction transaction.activeIndex.toNat) ∨
   steppedTo directory (itemAt transaction transaction.activeIndex.toNat) transaction.activeStep

/-- What a truthful result says of the item of the active step. -/
structure Told (cores : List ItemCore) (directory : ObjectNames)
  (transaction : BatchRenameTransaction) (result : OperationResult) : Prop where
 describes : Describes cores directory transaction
 arrived : result.ok → result.evidence≠.noCommit ∧
  steppedTo directory (itemAt transaction transaction.activeIndex.toNat) transaction.activeStep
 stayed : ¬result.ok → result.evidence=.noCommit →
  currentAt directory (itemAt transaction transaction.activeIndex.toNat)

section Descriptions
variable {cores : List ItemCore} {directory after : ObjectNames}
 {t next : BatchRenameTransaction} {r : OperationResult} {index : ℕ} {step : BatchStepKind}

lemma identity_ne (hshape:BatchShape t) {i j : ℕ} (hi:i<t.items.length)
 (hj:j<t.items.length) (hne:i≠j):
 physicalId (itemAt t i)≠physicalId (itemAt t j):=by
 intro heq
 have hnodup:(t.items.map physicalId).Nodup:=by
  simpa [coresOf,coreOf,Function.comp_def] using hshape.cores.identities
 rw [itemAt_eq hi,itemAt_eq hj] at heq
 have hi':i<(t.items.map physicalId).length:=by simpa using hi
 have hj':j<(t.items.map physicalId).length:=by simpa using hj
 have hmap:(t.items.map physicalId)[i]=(t.items.map physicalId)[j]:=by simpa using heq
 exact hne (hnodup.getElem_inj_iff.mp hmap)

lemma Describes.all (h:Describes cores directory t) (hidle:Idle t):
 ∀i<t.items.length,currentAt directory (itemAt t i):=
 fun i hi=>h.resting i hi fun hactive=>absurd hidle hactive

lemma Describes.of_all (hcores:coresOf next=cores) (hidle:Idle next)
  (hall:∀i<next.items.length,currentAt directory (itemAt next i)):
  Describes cores directory next where
 cores:=hcores
 evidence hactive := absurd hidle hactive
 resting i hi _ := hall i hi
 active hactive := absurd hidle hactive

lemma Describes.begun (h:Describes cores directory t) (hshape:BatchShape t) (hidle:Idle t)
  (hfits:StepFits t index step) : Describes cores directory (beginStep t index step) where
 cores:=h.cores
 evidence _ := nofun
 resting i hi _ := h.all hidle i hi
 active _:=by
  change currentAt directory (itemAt t (UInt32.ofNat index).toNat) ∨ _
  rw [toNat_activeIndex hshape hfits.inside]
  exact .inl (h.all hidle index hfits.inside)

lemma Describes.renamed (h:Describes cores directory t) (hshape:BatchShape t)
 (hidle:Idle t) (hfits:StepFits t index step)
 (hrename:Renames (physicalId (itemAt t index)) (nameOf (itemAt t index).current)
  (nameOf (stepDestination (itemAt t index) step)) directory after):
 Describes cores after (beginStep t index step) ∧ steppedTo after (itemAt t index) step:=by
 have hindex:=toNat_activeIndex hshape hfits.inside
 have hstepped:steppedTo after (itemAt t index) step:=
  hrename.at_destination (h.all hidle index hfits.inside)
 refine ⟨⟨h.cores,fun _=>nofun,fun i hi hother=>?_,fun _=>.inr ?_⟩,hstepped⟩
 · have hne:i≠index:=by
    have hother':i≠(UInt32.ofNat index).toNat:=hother hfits.real
    rwa [hindex] at hother'
   exact (h.all hidle i hi).congr (hrename.iff_other (identity_ne hshape hi hfits.inside hne))
 · change steppedTo after (itemAt t (UInt32.ofNat index).toNat) step
   rw [hindex]
   exact hstepped

lemma Describes.seen (h:Describes cores directory t) (hactive:¬Idle t) {name : Bytes}
 (hseen:directory name=some (physicalId (itemAt t t.activeIndex.toNat))):
 At directory (physicalId (itemAt t t.activeIndex.toNat)) name:=by
 obtain hat | hat:=h.active hactive
 · rw [hat.name_eq hseen]
   exact hat
 · rw [hat.name_eq hseen]
   exact hat

section
variable (h:Told cores directory t r)
include h

lemma Told.applied (hshape:BatchShape t) (hactive:¬Idle t)
 (htrust:trustworthy (itemAt t t.activeIndex.toNat) r):
 Describes cores directory (forgetFailure (clearActive (setItem t t.activeIndex.toNat
  (moved (itemAt t t.activeIndex.toNat) t.activeStep r.confirmedSnapshot)))):=by
 have hinside:=(hshape.active hactive).inside
 have hcore:coreOf (moved (itemAt t t.activeIndex.toNat) t.activeStep r.confirmedSnapshot)=
   coreOf (itemAt t t.activeIndex.toNat) := coreOf_moved htrust
 refine .of_all ?_ forgetFailure_activeStep fun i hi=>?_
 · rw [coresOf,forgetFailure_items]
   exact (coresOf_setItem hinside hcore).trans h.describes.cores
 · have hitem:itemAt (forgetFailure (clearActive (setItem t t.activeIndex.toNat
     (moved (itemAt t t.activeIndex.toNat) t.activeStep
      r.confirmedSnapshot)))) i=itemAt (setItem t t.activeIndex.toNat
     (moved (itemAt t t.activeIndex.toNat) t.activeStep
      r.confirmedSnapshot)) i:=by
    rw [itemAt,forgetFailure_items]
    rfl
   rw [hitem]
   by_cases hself:i=t.activeIndex.toNat
   · have hidentity:physicalId (moved (itemAt t t.activeIndex.toNat)
       t.activeStep r.confirmedSnapshot)=physicalId (itemAt t t.activeIndex.toNat):=
      congrArg ItemCore.identity hcore
     rw [hself,itemAt_set_self _ hinside,currentAt,hidentity]
     exact (h.arrived (trustworthy_ok htrust)).2
   · rw [itemAt_set_other _ hself]
     refine h.describes.resting i ?_ fun _=>hself
     rw [forgetFailure_items] at hi
     simpa [clearActive,setItem] using hi

lemma Told.described (step : BatchStepKind) (index : ℕ):
 Told cores directory t (describe step index r):=by
 unfold describe
 split
 · exact h
 · next hok => exact ⟨h.describes,fun hok'=>absurd hok' hok,fun _=>h.stayed hok⟩

lemma Told.merged (hshape:BatchShape t)
 (hevidence:t.activeEvidence≠.none) (request : RenameRequest):
 Told cores directory t (mergeReconciliation (recordedAttempt t request) r):=by
 have hstatus:t.failureStatus≠.success:=fun hs=>hevidence (hshape.successEvidence hs)
 have hactive:¬Idle t:=fun hidle=>hevidence (hshape.inactive hidle).2
 refine ⟨h.describes,fun hok=>?_,fun _ hmerged=>?_⟩
 · obtain ⟨hobserved,hmerged⟩:=merge_ok (decide_eq_false hstatus) hok
   rw [hmerged]
   exact h.arrived hobserved
 · exact absurd hmerged (merge_noCommit hevidence (h.describes.evidence hactive))

lemma Told.stays (hitems:next.items=t.items)
 (hidle:Idle next) (hok:¬r.ok) (hevidence:r.evidence=.noCommit):
 Describes cores directory next:=by
 have hitem:∀i,itemAt next i=itemAt t i:=fun i=>by rw [itemAt,hitems,itemAt]
 refine .of_all ?_ hidle fun i hi=>?_
 · rw [coresOf,hitems]
   exact h.describes.cores
 · rw [hitem]
   rw [hitems] at hi
   by_cases hself:i=t.activeIndex.toNat
   · rw [hself]
     exact h.stayed hok hevidence
   · exact h.describes.resting i hi fun _=>hself

end

lemma Describes.recordFailure (h:Describes cores directory t) (status : OperationStatus)
 {evidence : OperationEvidence} (hevidence:evidence≠.noCommit) (detail : Bytes):
 Describes cores directory (recordFailure t status evidence detail):=
 ⟨h.cores,fun _=>hevidence,h.resting,h.active⟩

end Descriptions

section Contract
variable (cores : List ItemCore)

def RecordedIn (s : BatchState) (t : BatchRenameTransaction) : Prop:=
 Recorded .batchRename encodeBatchTransaction Idle (Describes cores s.directory) s.journal t

/-- At every point the journal describes the directory, or it is gone and the
  operation with it. -/
def KeptIn (s : BatchState) : Prop:=
 Kept .batchRename encodeBatchTransaction Idle (Describes cores s.directory)
  (AllOrNothing cores s.directory) s.journal

def DoneIn (status : BatchRunStatus) (s : BatchState) : Prop:=
 s.journal = ⟨none,none⟩ ∧ (status = .success → AllAt cores (·.destination) s.directory) ∧
  (status = .rolledBack → AllAt cores (·.source) s.directory)

end Contract

variable {t : BatchRenameTransaction} {directory : ObjectNames} {s : BatchState}
 {step : BatchStepKind} {item : BatchTransactionItem}

section Steps
variable {cores : List ItemCore}

lemma all_at {location : BatchItemLocation} {path : ItemCore → Path}
 (h:Describes cores directory t) (hidle:Idle t)
 (hall:∀item∈t.items,item.location=location)
 (hpath:∀item∈t.items,item.location=location →
  nameOf item.current=nameOf (path (coreOf item))) : AllAt cores path directory:=by
 intro core hcore
 rw [←h.cores,coresOf,List.mem_map] at hcore
 obtain ⟨item,hmem,rfl⟩:=hcore
 obtain ⟨i,hi,rfl⟩:=List.mem_iff_getElem.mp hmem
 have hcurrent:=h.all hidle i hi
 rw [itemAt_eq hi,currentAt,hpath _ hmem (hall _ hmem)] at hcurrent
 exact hcurrent

lemma wp_remove {status : BatchRunStatus} (hidle:Idle t) (hrecorded:RecordedIn cores s t)
 (hdescribes:Describes cores s.directory t)
 (hsuccess:status=.success → AllAt cores (·.destination) s.directory)
 (hback:status=.rolledBack → AllAt cores (·.source) s.directory)
 (hsettled:AllOrNothing cores s.directory):
 wp batchWorld (KeptIn cores) (fun reply s'=>reply=.ok () → DoneIn cores status s')
  removeJournal s:=by
 refine ⟨.recorded t hrecorded hdescribes,?_,?_⟩
 · rintro ⟨journal,directory⟩ ⟨rfl,hstep⟩
   exact hrecorded.removeStep hidle hdescribes hsettled hstep
 · rintro reply ⟨journal,directory⟩ ⟨rfl,hremoved⟩
   cases hremoved with
   | removed=>exact ⟨.empty rfl hsettled,fun _=>⟨rfl,hsuccess,hback⟩⟩
   | failed detail after hstep=>
    exact ⟨hrecorded.removeStep hidle hdescribes hsettled hstep,nofun⟩

lemma all_destinations (hshape:BatchShape t) (h:Describes cores directory t) (hidle:Idle t)
 (hall:∀item∈t.items,item.location=.destination):
 AllAt cores (·.destination) directory:=by
 refine all_at h hidle hall fun item hmem hlocation=>?_
 have hexpected:=(hshape.placed item hmem).expected
 rw [expectedCurrentPath,hlocation] at hexpected
 exact nameOf_same hexpected

lemma all_sources (hshape:BatchShape t) (h:Describes cores directory t) (hidle:Idle t)
 (hall:∀item∈t.items,item.location=.source) : AllAt cores (·.source) directory:=by
 refine all_at h hidle hall fun item hmem hlocation=>?_
 have hexpected:=(hshape.placed item hmem).expected
 rw [expectedCurrentPath,hlocation] at hexpected
 exact nameOf_same hexpected

lemma wp_execute {index : ℕ} (hshape:BatchShape t) (hidle:Idle t)
 (hfits:StepFits t index step) (hrecorded:RecordedIn cores s (beginStep t index step))
 (hdescribes:Describes cores s.directory t):
 wp batchWorld (KeptIn cores) (fun result s'=>RecordedIn cores s' (beginStep t index step) ∧
   Told cores s'.directory (beginStep t index step) result)
  (submitAndWait (requestFor (beginStep t index step) index step) false) s:=by
 have hitem:itemAt (beginStep t index step) (beginStep t index step).activeIndex.toNat=
   itemAt t index:=by
  change itemAt t (UInt32.ofNat index).toNat=itemAt t index
  rw [toNat_activeIndex hshape hfits.inside]
 have hbegun:=hdescribes.begun hshape hidle hfits
 have hafter:∀directory,RenameLeaves (requestFor (beginStep t index step) index step) false
   s.directory directory → Describes cores directory (beginStep t index step):=by
  rintro directory (rfl | ⟨-,hrename⟩)
  · exact hbegun
  · exact (hdescribes.renamed hshape hidle hfits hrename).1
 have hrecorded':∀directory,Recorded .batchRename encodeBatchTransaction Idle
   (Describes cores directory) s.journal (beginStep t index step):=
  fun directory=>hrecorded.active hfits.real
 refine ⟨.recorded _ hrecorded hbegun,?_,?_⟩
 · rintro ⟨journal,directory⟩ ⟨rfl,hleaves⟩
   exact .recorded _ (hrecorded' directory) (hafter directory hleaves)
 · rintro result ⟨journal,directory⟩ ⟨rfl,htruth⟩
   have hthere:=hafter directory htruth.effect
   refine ⟨.recorded _ (hrecorded' directory) hthere,hrecorded' directory,hthere,?_,?_⟩
   · intro hok
     obtain ⟨hseen,hevidence⟩:=htruth.success hok
     refine ⟨hevidence,?_⟩
     change directory (nameOf (stepDestination (itemAt t index) step))=
      some (physicalId (itemAt t index)) at hseen
     rw [←hitem] at hseen
     exact hthere.seen hfits.real hseen
   · intro hok hevidence
     obtain rfl : directory=s.directory:=(htruth.refusal hok hevidence).1 rfl
     rw [hitem]
     exact hdescribes.all hidle index hfits.inside

lemma wp_reconcile (hactive:¬Idle t) (hrecorded:RecordedIn cores s t)
 (hdescribes:Describes cores s.directory t):
 wp batchWorld (KeptIn cores)
  (fun result s'=>RecordedIn cores s' t ∧ Told cores s'.directory t result)
  (submitAndWait (requestFor t t.activeIndex.toNat t.activeStep) true) s:=by
 refine ⟨.recorded _ hrecorded hdescribes,?_,?_⟩
 · rintro ⟨journal,directory⟩ ⟨rfl,rfl | ⟨hfalse,-⟩⟩
   · exact .recorded _ hrecorded hdescribes
   · cases hfalse
 · rintro result ⟨journal,directory⟩ ⟨rfl,htruth⟩
   obtain rfl | ⟨hfalse,-⟩:=htruth.effect
   · refine ⟨.recorded _ hrecorded hdescribes,hrecorded,hdescribes,?_,?_⟩
     · intro hok
       obtain ⟨hseen,hevidence⟩:=htruth.success hok
       exact ⟨hevidence,hdescribes.seen hactive hseen⟩
     · intro hok hevidence
       exact hdescribes.seen hactive ((htruth.refusal hok hevidence).2 rfl)
   · cases hfalse

/-- The contract behind the safety of every run. -/
def safety (cores : List ItemCore) : BatchContract batchWorld (KeptIn cores) where
 recorded t s := RecordedIn cores s t
 good t s := Describes cores s.directory t
 told t r s := Told cores s.directory t r
 done status s := DoneIn cores status s
 safe hrecorded hdescribes := .recorded _ hrecorded hdescribes
 stops h := h
 stopsCut h := h
 persists _ hrecorded hdescribes hnext:=by
  refine ⟨.recorded _ hrecorded hdescribes,?_,?_⟩
  · rintro ⟨journal,directory⟩ ⟨rfl,hleaves⟩
    cases hleaves with
    | unchanged=>exact .recorded _ hrecorded hdescribes
    | torn payload after hencoded hsize hafter=>
     exact hrecorded.writeLeaves hdescribes ⟨payload,hencoded,hsize,rfl⟩ hnext hafter
  · rintro reply ⟨journal,directory⟩ ⟨rfl,hpersists⟩
    cases hpersists with
    | threw thrown detail _=>exact ⟨.recorded _ hrecorded hdescribes,nofun⟩
    | tooLarge payload detail _ _=>exact ⟨.recorded _ hrecorded hdescribes,nofun⟩
    | failed payload detail after hencoded hsize hafter=>
     exact ⟨hrecorded.writeLeaves hdescribes ⟨payload,hencoded,hsize,rfl⟩ hnext hafter,nofun⟩
    | stored payload hencoded hsize=>
     have hwritten:=hrecorded.written hdescribes ⟨payload,hencoded,hsize,rfl⟩
     exact ⟨.recorded _ hwritten hnext,fun _=>⟨hwritten,fun _ h=>h⟩⟩
 executes shape idle fits hrecorded hdescribes _:=wp_execute shape idle fits hrecorded hdescribes
 reconciles _ active hrecorded hdescribes := wp_reconcile active hrecorded hdescribes
 told_good h := h.describes
 told_describe h := h.described _ _
 told_merge shape hevidence h := h.merged shape hevidence _
 told_moved shape active htrust h := h.applied shape active htrust
 told_untrusted _ hok h := h.describes.recordFailure _ (h.arrived hok).1 _
 told_uncertain _ _ hevidence h := h.describes.recordFailure _ hevidence _
 told_refused _ hok hevidence h := h.stays rfl rfl hok hevidence
 told_cleared _ hok hevidence h:=h.stays forgetFailure_items forgetFailure_activeStep hok hevidence
 begins shape idle fits _ h := h.begun shape idle fits
 moves idle h := .of_all h.cores idle fun i hi=>h.all idle i hi
 publishes shape idle all hrecorded hdescribes:=by
  have hall:=all_destinations shape hdescribes idle all
  exact wp_remove idle hrecorded hdescribes (fun _=>hall) nofun (.inr hall)
 retreats shape idle all hrecorded hdescribes:=by
  have hall:=all_sources shape hdescribes idle all
  exact wp_remove idle hrecorded hdescribes nofun (fun _=>hall) (.inl hall)

end Steps

section Sessions
variable {cores : List ItemCore} {t : BatchRenameTransaction} {s : BatchState}

def PlacedAt (directory : ObjectNames) (core : ItemCore) : Prop:=
 ∃ path ∈ [core.source,core.temporary,core.destination], At directory core.identity (nameOf path)

lemma current_placed (hexpected:expectedCurrentPath item) (h:currentAt directory item):
 PlacedAt directory (coreOf item):=by
 unfold expectedCurrentPath at hexpected
 unfold currentAt at h
 split at hexpected
 · rw [nameOf_same hexpected] at h
   exact ⟨item.source,by simp [coreOf],h⟩
 · rw [nameOf_same hexpected] at h
   exact ⟨item.temporary,by simp [coreOf],h⟩
 · rw [nameOf_same hexpected] at h
   exact ⟨item.destination,by simp [coreOf],h⟩

lemma stepped_placed (hstep:step≠.none) (h:steppedTo directory item step):
 PlacedAt directory (coreOf item):=by
 cases step with
 | none=>exact absurd rfl hstep
 | evacuate=>exact ⟨item.temporary,by simp [coreOf],h⟩
 | rollback=>exact ⟨item.source,by simp [coreOf],h⟩
 | publish=>exact ⟨item.destination,by simp [coreOf],h⟩

lemma Describes.placed (h:Describes cores directory t) (hshape:BatchShape t):
 ∀core∈cores,PlacedAt directory core:=by
 intro core hcore
 rw [←h.cores,coresOf,List.mem_map] at hcore
 obtain ⟨item,hmem,rfl⟩:=hcore
 have hexpected:=(hshape.placed item hmem).expected
 obtain ⟨i,hi,rfl⟩:=List.mem_iff_getElem.mp hmem
 rw [←itemAt_eq hi] at hexpected ⊢
 by_cases hactive:¬Idle t ∧ i=t.activeIndex.toNat
 · obtain ⟨hactive,rfl⟩:=hactive
   obtain hcurrent | hstepped:=h.active hactive
   · exact current_placed hexpected hcurrent
   · exact stepped_placed hactive hstepped
 · exact current_placed hexpected (h.resting i hi fun hidle hself=>hactive ⟨hidle,hself⟩)

lemma shape_of_recorded (h:RecordedIn cores s t) : BatchShape t:=by
 obtain ⟨bytes,⟨payload,hencoded,-⟩,-⟩:=h
 exact (batchValid_iff.mp ((encodeBatchTransaction_iff _ _).mp hencoded).1).1

lemma KeptIn.placed (h:KeptIn cores s) : ∀core∈cores,PlacedAt s.directory core:=by
 cases h with
 | recorded t hrecorded hdescribes=>exact hdescribes.placed (shape_of_recorded hrecorded)
 | empty hjournal hall=>
  intro core hcore
  obtain hall | hall:=hall
  · exact ⟨core.source,by simp,hall core hcore⟩
  · exact ⟨core.destination,by simp,hall core hcore⟩

lemma KeptIn.settled (h:KeptIn cores s) (hjournal:s.journal = ⟨none,none⟩):
 AllOrNothing cores s.directory:=by
 cases h with
 | recorded t hrecorded hdescribes=>
  obtain ⟨bytes,-,⟨hprimary,-⟩ | ⟨-,hprevious⟩⟩:=hrecorded
  · rw [hjournal] at hprimary
    cases hprimary
  · rw [hjournal] at hprevious
    cases hprevious
 | empty _ hall=>exact hall

lemma wp_continue (hrecorded:RecordedIn cores s t)
 (hdescribes:Describes cores s.directory t):
 wp batchWorld (KeptIn cores) (safety cores).Ended (continueTransaction t) s:=
 (safety cores).wp_continueTransaction ⟨shape_of_recorded hrecorded,hrecorded,hdescribes⟩

lemma wp_runPrepared (hvalid:BatchValid t) (hprepared:t.phase=.prepared)
 (hsources:AllAt (coresOf t) (·.source) directory):
 wp batchWorld (KeptIn (coresOf t)) (safety (coresOf t)).Ended (runPrepared t)
  ⟨⟨none,none⟩,directory⟩:=by
 have hshape:=(batchValid_iff.mp hvalid).1
 have hdescribes:Describes (coresOf t) directory t:=by
  refine .of_all rfl (hshape.idle_of_prepared hprepared) fun i hi=>?_
  have hmem:=itemAt_mem hi
  have hplaced:=hshape.placed _ hmem
  have hallowed:=hplaced.allowed
  rw [hprepared] at hallowed
  have hlocation:(itemAt t i).location=.source:=by
   simpa [locationAllowedInPhase] using hallowed
  have hexpected:=hplaced.expected
  rw [expectedCurrentPath,hlocation] at hexpected
  rw [currentAt,nameOf_same hexpected]
  exact hsources _ (List.mem_map_of_mem hmem)
 have hnone:KeptIn (coresOf t) ⟨⟨none,none⟩,directory⟩:=.empty rfl (.inl hsources)
 have hleaves:∀payload after,encodeBatchTransaction t=.ok payload →
   payload.length≤kMaximumCurrentOperationPayloadBytes →
   WriteLeaves (encode .batchRename payload) ⟨none,none⟩ after →
   KeptIn (coresOf t) ⟨after,directory⟩:=by
  intro payload after hencoded hsize hafter
  cases hafter with
  | unchanged=>exact hnone
  | rotated=>exact hnone
  | written=>exact .recorded t (written_empty ⟨payload,hencoded,hsize,rfl⟩) hdescribes
 rw [runPrepared,if_neg hvalid.nonempty]
 rw [wp_bind]
 refine ⟨hnone,?_,?_⟩
 · rintro ⟨journal,directory'⟩ ⟨rfl,hcut⟩
   cases hcut with
   | unchanged=>exact hnone
   | torn payload after hencoded hsize hafter=>exact hleaves payload _ hencoded hsize hafter
 · rintro reply ⟨journal,directory'⟩ ⟨hsame,hpersists⟩
   obtain rfl : directory=directory':=hsame.symm
   dsimp only at hpersists
   cases hpersists with
   | threw thrown detail _=>exact ⟨hnone,hnone,BatchContract.ended_failure _ _ _ _⟩
   | tooLarge payload detail _ _=>exact ⟨hnone,hnone,BatchContract.ended_failure _ _ _ _⟩
   | failed payload detail after hencoded hsize hafter=>
    have hkept:=hleaves payload _ hencoded hsize hafter
    exact ⟨hkept,hkept,BatchContract.ended_failure _ _ _ _⟩
   | stored payload hencoded hsize=>
    have hrecorded:RecordedIn (coresOf t) ⟨_,directory⟩ t:=
     written_empty ⟨payload,hencoded,hsize,rfl⟩
    exact ⟨.recorded t hrecorded hdescribes,wp_continue hrecorded hdescribes⟩

/-- Every later session, from whatever the ones before it left. -/
lemma wp_runResume (h:KeptIn cores s):
 wp batchWorld (KeptIn cores) (safety cores).Ended runResume s:=by
 rw [runResume,wp_bind]
 refine ⟨h,?_,?_⟩
 · rintro s' rfl
   exact h
 · rintro loaded s' ⟨hsame,hread⟩
   obtain rfl : s=s':=hsame.symm
   have hfailure:loaded.ok=false →
     wp batchWorld (KeptIn cores) (safety cores).Ended (resumeFrom loaded) s:=by
    intro hok
    unfold resumeFrom
    rw [if_pos (by simp [hok])]
    exact ⟨h,BatchContract.ended_failure _ _ _ _⟩
   refine ⟨h,?_⟩
   cases h with
   | empty hjournal hall=>
    obtain rfl | hok:=hread
    · exact hfailure (by rw [hjournal]; rfl)
    · exact hfailure hok
   | recorded t hrecorded hdescribes=>
    obtain hok | ⟨payload,hencoded,hok,htyped,hkind,rfl⟩:=hrecorded.reads (by decide) hread
    · exact hfailure hok
    · unfold resumeFrom
      rw [if_neg (by simp [hok]),if_neg (by simp [hkind])]
      split
      · exact ⟨.recorded t hrecorded hdescribes,BatchContract.ended_failure _ _ _ _⟩
      · next decoded hdecoded =>
        obtain ⟨-,rfl⟩:=(decode_encodeBatchTransaction hencoded [] decoded).mp hdecoded
        rw [if_neg (by simp [htyped])]
        exact wp_continue hrecorded hdescribes

end Sessions

/-- What an operation on this transaction may leave: a first session from an empty
  journal, and any number of resumed ones, each complete or cut. -/
def Reachable (transaction : BatchRenameTransaction) (directory : ObjectNames):
  BatchState → Prop:=
 Reach batchWorld (· = runResume)
  (Leaves batchWorld (runPrepared transaction) ⟨⟨none,none⟩,directory⟩)

/-- What a session of the operation may report. -/
inductive Reports (transaction : BatchRenameTransaction) (directory : ObjectNames):
  BatchRenameResult → BatchState → Prop where
 | first {result : BatchRenameResult} {after : BatchState}
  (run : Completes batchWorld (runPrepared transaction) ⟨⟨none,none⟩,directory⟩ result after):
  Reports transaction directory result after
 | resumed {result : BatchRenameResult} {before after : BatchState}
  (reachable : Reachable transaction directory before)
  (run : Completes batchWorld runResume before result after):
  Reports transaction directory result after

/-- No object is lost or doubled: at every point of every run each item's object is
  at exactly one of its paths, and the journal goes only with all items at their
  destinations or all at their sources, as the result says. -/
structure ObjectsSafe (transaction : BatchRenameTransaction) (directory : ObjectNames) : Prop where
 placed : ∀s,Reachable transaction directory s → ∀item∈transaction.items,
  ∃ path∈[item.source,item.temporary,item.destination],
   At s.directory (physicalId item) (nameOf path)
 settled : ∀s,Reachable transaction directory s → s.journal = ⟨none,none⟩ →
  (∀item∈transaction.items,At s.directory (physicalId item) (nameOf item.source)) ∨
   (∀item∈transaction.items,At s.directory (physicalId item) (nameOf item.destination))
 success : ∀result s,Reports transaction directory result s → result.status=.success →
  s.journal = ⟨none,none⟩ ∧
   ∀item∈transaction.items,At s.directory (physicalId item) (nameOf item.destination)
 rolledBack : ∀result s,Reports transaction directory result s → result.status=.rolledBack →
  s.journal = ⟨none,none⟩ ∧
   ∀item∈transaction.items,At s.directory (physicalId item) (nameOf item.source)

theorem objects_safe (transaction : BatchRenameTransaction) (directory : ObjectNames)
 (hvalid:validBatchTransaction transaction=.ok ()) (hprepared:transaction.phase=.prepared)
 (hsources:∀item∈transaction.items,At directory (physicalId item) (nameOf item.source)):
 ObjectsSafe transaction directory:=by
 have hall:∀ {path : ItemCore → Path} {d : ObjectNames},AllAt (coresOf transaction) path d ↔
   ∀item∈transaction.items,At d (physicalId item) (nameOf (path (coreOf item))):=by
  intro path d
  simp only [AllAt,coresOf,List.forall_mem_map]
  rfl
 have hfirst:=wp_runPrepared ((validBatchTransaction_iff _).mp hvalid) hprepared
  (hall.mpr hsources)
 have hkept:∀s,Reachable transaction directory s → KeptIn (coresOf transaction) s:=by
  intro s hreach
  unfold Reachable at hreach
  refine Reach.invariant ?_ ?_ hreach
  · exact fun s hstart=>wp_leaves hfirst hstart
  · rintro p s rfl h
    exact wp_mono (fun _ h=>h) (fun _ _ _=>trivial) (wp_runResume h)
 have hended:∀result s,Reports transaction directory result s →
   (safety (coresOf transaction)).Ended result s:=by
  intro result s hreport
  cases hreport with
  | first run=>exact (wp_completes hfirst run).2
  | resumed reachable run=>exact (wp_completes (wp_runResume (hkept _ reachable)) run).2
 constructor
 · intro s hreach item hmem
   exact (hkept s hreach).placed _ (List.mem_map_of_mem hmem)
 · intro s hreach hjournal
   obtain hsource | hdestination:=(hkept s hreach).settled hjournal
   · exact .inl (hall.mp hsource)
   · exact .inr (hall.mp hdestination)
 · intro result s hreport hsuccess
   obtain ⟨hjournal,hdone,-⟩:=(hended result s hreport).1 hsuccess
   exact ⟨hjournal,hall.mp (hdone rfl)⟩
 · intro result s hreport hback
   obtain ⟨hjournal,-,hdone⟩:=(hended result s hreport).2 hback
   exact ⟨hjournal,hall.mp (hdone rfl)⟩

/-- A world without failures. -/
def serve : (o : BatchOp) → BatchState → BatchReply o × BatchState
 | .persist transaction, s=>
  match encodeBatchTransaction transaction with
  | .error _=>(.error [],s)
  | .ok payload=>
   if payload.length ≤ kMaximumCurrentOperationPayloadBytes then
    (.ok (),{ s with journal:=written s.journal (encode .batchRename payload) })
   else (.error [],s)
 | .submit request reconcile, s=>
  ((serveRename request reconcile s.directory).1,
   { s with directory:=(serveRename request reconcile s.directory).2 })
 | .stopRequested, s=>(false,s)
 | .removeJournal, s=>(.ok (),{ s with journal:=⟨none,none⟩ })
 | .readJournal, s=>(decode s.journal.outcome,s)

lemma serve_sound (o : BatchOp) (s : BatchState):
 batchWorld.answers o s (serve o s).1 (serve o s).2:=by
 cases o with
 | persist transaction=>
  cases hencoded:encodeBatchTransaction transaction with
  | error thrown=>
   simp only [serve,hencoded]
   exact ⟨rfl,hencoded ▸ .threw thrown [] rfl⟩
  | ok payload=>
   simp only [serve,hencoded]
   split
   · next hsize => exact ⟨rfl,hencoded ▸ .stored payload rfl hsize⟩
   · next hsize => exact ⟨rfl,hencoded ▸ .tooLarge payload [] rfl (by omega)⟩
 | submit request reconcile=>exact ⟨rfl,serveRename_truth request reconcile s.directory⟩
 | stopRequested=>rfl
 | removeJournal=>exact ⟨rfl,.removed⟩
 | readJournal=>exact ⟨rfl,.inl rfl⟩

/-- Two files that exchange their names. -/
def exchange : BatchRenameTransaction where
 operationId:=1
 items:=[{ source:=⟨utf8 "/d/a"⟩,temporary:=⟨utf8 "/d/.vove-1-0.tmp"⟩,
           destination:=⟨utf8 "/d/b"⟩,current := ⟨utf8 "/d/a"⟩,
           currentSnapshot:={ sourceRevisionUtf8:=utf8 "posix:1:2:3" } },
      { source:=⟨utf8 "/d/b"⟩,temporary:=⟨utf8 "/d/.vove-1-1.tmp"⟩,
        destination:=⟨utf8 "/d/a"⟩,current := ⟨utf8 "/d/b"⟩,
        currentSnapshot:={ sourceRevisionUtf8:=utf8 "posix:1:4:5" } }]

def exchangeDirectory : ObjectNames := fun name =>
 if name = utf8 "a" then some (utf8 "posix:1:2")
 else if name = utf8 "b" then some (utf8 "posix:1:4") else none

lemma exchangeDirectory_at : At exchangeDirectory (utf8 "posix:1:2") (utf8 "a") ∧
 At exchangeDirectory (utf8 "posix:1:4") (utf8 "b"):=by
 have hnames:utf8 "b" ≠ utf8 "a":=by decide +kernel
 have hobjects:utf8 "posix:1:2" ≠ utf8 "posix:1:4":=by decide +kernel
 constructor
 · intro name
   unfold exchangeDirectory
   by_cases ha:name=utf8 "a"
   · simp [ha]
   · by_cases hb:name=utf8 "b"
     · simp [hb,hnames,hobjects.symm]
     · simp [ha,hb]
 · intro name
   unfold exchangeDirectory
   by_cases ha:name=utf8 "a"
   · simp [ha,hnames.symm,hobjects]
   · by_cases hb:name=utf8 "b"
     · simp [hb,hnames]
     · simp [ha,hb]

/-- Safe, and not because it never gets anywhere: one run ends with success. -/
theorem objects_safe_exchange : ObjectsSafe exchange exchangeDirectory ∧
 ∃ result s,Reports exchange exchangeDirectory result s ∧ result.status=.success:=by
 constructor
 · refine objects_safe exchange exchangeDirectory (by decide +kernel) rfl ?_
   have hfirst:physicalId (itemAt exchange 0)=utf8 "posix:1:2" ∧
     nameOf (itemAt exchange 0).source=utf8 "a" := by decide +kernel
   have hsecond:physicalId (itemAt exchange 1)=utf8 "posix:1:4" ∧
     nameOf (itemAt exchange 1).source=utf8 "b" := by decide +kernel
   intro item hmem
   obtain rfl | rfl : item=itemAt exchange 0 ∨ item=itemAt exchange 1:=by
    simpa [exchange,itemAt] using hmem
   · rw [hfirst.1,hfirst.2]
     exact exchangeDirectory_at.1
   · rw [hsecond.1,hsecond.2]
     exact exchangeDirectory_at.2
 · have hrun:=run_completes serve_sound (runPrepared exchange)
    ⟨⟨none,none⟩,exchangeDirectory⟩
   refine ⟨_,_,.first hrun,?_⟩
   decide +kernel

end VoVe.BatchRunSafety
