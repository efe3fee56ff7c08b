import VoVe.TransferConflicts

set_option autoImplicit false

namespace VoVe.TransferRunRule
open ByteCodec AsciiText DestinationFilename EffectProgram FileOperation
open TransferTransaction FileTransferProtocol FileTransferCoordinator TransferShape
open TransferUpdates
open OperationRequest (RenameRequest DeleteRequest)
open FileTransferClient (FileTransferAuditCommitOutcome)

/-- The transaction last persisted, all that were handed to `persist`, and the
  destinations the user is to decide about. -/
structure Handing where
 current : FileTransferTransaction
 handed : List FileTransferTransaction := []
 observed : List SourceSnapshot := []

def isPersist : TransferOp → Bool
 | .persist _=>true
 | _=>false

def noted (before : Handing) : (o : TransferOp) → TransferReply o → Handing
 | .persist transaction, reply=>
  { before with
    handed:=before.handed++[transaction]
    current:=match reply with
     | .ok ()=>transaction
     | .error _=>before.current }
 | .submitRename _ .observeConflict, result=>
  if conflictObserved before.current result then
   { before with observed:=before.observed++[result.confirmedSnapshot] }
  else before
 | .awaitConflictDecision _, _=>{ before with observed:=[] }
 | _, _=>before

/-- The world in which every reply is possible that `fits` lets through. -/
def handing (fits : Handing → (o : TransferOp) → TransferReply o → Prop):
  World TransferOp TransferReply Handing where
 answers o before reply after := fits before o reply ∧ after = noted before o reply
 cut o before after:=
  match o with
  | .persist transaction=>
   after = before ∨ after = { before with handed:=before.handed++[transaction] }
  | _=>after = before

section Conditions
variable (t : FileTransferTransaction)

def currentItem : FileTransferItem := itemAt t (completedPrefix t)

variable (result : OperationResult)

/-- A result that is not a success the coordinator can use has to be a failure
  the journal can hold. -/
def FailureFits : Prop:=
 if t.phase = .prepublishCleanup then t.failureStatus = .success → result.evidence = .none
 else result.status = .success → result.evidence = .none ∧ result.detailUtf8 = []

/-- A committed rename confirms an object the journal can hold. -/
def CommitFits : Prop:=
 snapshotIdentityMatches (expectedSnapshot (currentItem t) t.activeStep) result.confirmedSnapshot →
  RenameFits t.phase (currentItem t) result.confirmedSnapshot t.activeStep

/-- What a rename may report, by what it was submitted for. -/
def RenameReplyFits (request : RenameRequest) (result : OperationResult) : RenameUse → Prop
 | .execute=>
  if unexpectedEvacuation t.activeStep result false then Storable result.confirmedSnapshot
  else if mutationCommitted result then CommitFits t result
  else if t.activeStep = .atomicMove ∧ result.status = .crossDevice ∧ confirmedNoCommit result then
   True
  else FailureFits t result
 | .recover=>
  if unexpectedEvacuation t.activeStep result
    (t.activeStep = .evacuateOverwriteDestination) then Storable result.confirmedSnapshot
  else if mutationCommitted result then CommitFits t result
  else if confirmedNoCommit result then True
  else FailureFits t result
 | .observeConflict=>True
 | .tryCopyName=>result.status≠.conflict → DestinationName request.destination.filename

/-- What a delete may report, by what it was submitted for. -/
def DeleteReplyFits : DeleteUse → Prop
 | .execute=>mutationCommitted result = false → FailureFits t result
 | .recover=>mutationCommitted result = false → confirmedNoCommit result = false →
   FailureFits t result
 | .probeTemp=>result.sourcePresent = true →
   sameObjectIdentity result.confirmedSnapshot.sourceRevisionUtf8
    (currentItem t).destinationSnapshot.sourceRevisionUtf8 = true →
   startsWith result.confirmedSnapshot.sourceRevisionUtf8 winFile = false
 | .probeStagedSource=>True

/-- A stream that ends in success describes a complete temporary object. -/
def StreamResultFits (result : FileTransferStreamResult) : Prop:=
 if streamMatches (currentItem t) result then
  startsWith result.tempSnapshot.sourceRevisionUtf8 winFile = false ∧
   validSnapshot result.tempSnapshot = true ∧
   result.tempSnapshot.sizeBytes = result.bytesWritten
 else result.status≠.success

variable (reservation : FileTransferReservation)

/-- A new reservation names its temporary object and the directory it is in. -/
def ReservationFits : Prop:=
 reservation.requestToken = (currentItem t).requestToken →
  startsWith reservation.tempSnapshot.sourceRevisionUtf8 winFile = false ∧
   validSnapshot reservation.tempSnapshot = true ∧
   stableObjectIdentity reservation.destinationParentRevisionUtf8=
    (currentItem t).destinationParentIdentityUtf8

/-- A reservation found by its marker names an object, of an item that may have one. -/
def MarkerFits : Prop:=
 startsWith reservation.tempSnapshot.sourceRevisionUtf8 winFile = false ∧
  validSnapshot reservation.tempSnapshot = true ∧ Streamable t.kind (currentItem t)

/-- The source an audit found has an identity of its own. -/
def AuditFits (expected : SourceSnapshot) (result : FileTransferStreamResult) : Prop:=
 auditMatches (currentItem t) expected result = true →
  startsWith result.sourceSnapshot.sourceRevisionUtf8 winFile = false ∧
   (∀i (h:i<t.items.length),i≠completedPrefix t → sourceIdentity t.items[i] ≠
     stableObjectIdentity result.sourceSnapshot.sourceRevisionUtf8) ∧
   ∀item ∈ t.items,snapshotEmpty item.overwriteDestinationSnapshot = true ∨
    stableObjectIdentity item.overwriteDestinationSnapshot.sourceRevisionUtf8 ≠
     stableObjectIdentity result.sourceSnapshot.sourceRevisionUtf8

/-- An overwrite is decided of destinations the journal can hold; a journal of
  version 4 has no place for a cancellation. -/
def DecisionFits (observed : List SourceSnapshot) : Option FileTransferConflictDecision → Prop
 | some .overwrite=>∀snapshot ∈ observed,Storable snapshot
 | some .cancel=>t.phase = .prepared → t.version ≥ 5
 | _=>True

end Conditions

/-- The condition on the answers under which every transaction stays valid. -/
def AnswerFits (sha256 : Bytes → ContentDigest) (before : Handing):
  (o : TransferOp) → TransferReply o → Prop
 | .submitRename request use, result=>RenameReplyFits before.current request result use
 | .submitDelete _ use, result=>DeleteReplyFits before.current result use
 | .submitStream request, .finished result=>
  request.mode≠.probeReservation → StreamResultFits before.current result
 | .submitStream request, .reserved reservation=>
  request.mode = .reserveNew → ReservationFits before.current reservation
 | .acknowledgeReservation request reservation _, result=>
  if request.mode = .probeReservation then
   result.ok = true → markerOwned sha256 request result = true →
    MarkerFits before.current reservation
  else StreamResultFits before.current result
 | .submitAudit request, .audited result=>AuditFits before.current request.expectedSource result
 | .awaitConflictDecision _, decision=>DecisionFits before.current before.observed decision
 | _, _=>True

/-- Every transaction handed over so far is valid. -/
def AllSound (s : Handing) : Prop := ∀transaction ∈ s.handed,TransferSound transaction

/-- The transaction at hand is the one last persisted. -/
structure Holds (t : FileTransferTransaction) (s : Handing) : Prop where
 all : AllSound s
 current : s.current=t

variable {o : TransferOp} {out : FileTransferTransaction × StepResult}
 {e : OperationEvidence} {step : FileTransferStep}

section Rules
variable {sha256 : Bytes → ContentDigest} {s : Handing} {t t₀ : FileTransferTransaction}

abbrev fitting (sha256 : Bytes → ContentDigest) := handing (AnswerFits sha256)

lemma AllSound.append {handed : FileTransferTransaction} (h:AllSound s)
 (hsound:TransferSound handed) {current : FileTransferTransaction}
 {observed : List SourceSnapshot} : AllSound ⟨current,s.handed++[handed],observed⟩:=by
 intro other hmem
 obtain hmem | hmem:=List.mem_append.mp hmem
 · exact h other hmem
 · rw [List.mem_singleton.mp hmem]
   exact hsound

lemma wp_persist (hsound:TransferSound t) (hs:AllSound s)
 {p : Except Bytes Unit → Handing → Prop}
 (hok:∀s',Holds t s' → s'.observed=s.observed → p (.ok ()) s')
 (herror:∀detail s',AllSound s' → s'.current=s.current → s'.observed=s.observed →
  p (.error detail) s'):
 wp (fitting sha256) AllSound p (persist t) s:=by
 have hafter:∀current observed,AllSound ⟨current,s.handed++[t],observed⟩:=
  fun _ _=>hs.append hsound
 refine ⟨hs,?_,?_⟩
 · rintro s' (rfl | rfl)
   · exact hs
   · exact hafter _ _
 · rintro y s' ⟨-,rfl⟩
   refine ⟨hafter _ _,?_⟩
   cases y with
   | ok u=>exact hok _ ⟨hafter _ _,rfl⟩ rfl
   | error detail=>exact herror detail _ (hafter _ _) rfl rfl

lemma noted_handed (ho:isPersist o=false) (y : TransferReply o):
 (noted s o y).handed=s.handed:=by
 cases o with
 | persist transaction=>cases ho
 | submitRename r use=>
  cases use with
  | observeConflict=>
   simp only [noted]
   split
   · rfl
   · rfl
  | execute=>rfl
  | recover=>rfl
  | tryCopyName=>rfl
 | _=>rfl

lemma cut_same (ho:isPersist o=false) {s' : Handing} (hcut:(fitting sha256).cut o s s'):
 s'=s:=by
 cases o with
 | persist transaction=>cases ho
 | _=>exact hcut

lemma wp_ask (ho:isPersist o=false) (hs:AllSound s)
 {p : TransferReply o → Handing → Prop}
 (hpost:∀y,AnswerFits sha256 s o y → p y (noted s o y)):
 wp (fitting sha256) AllSound p (Prog.issue o) s:=by
 refine ⟨hs,fun s' hs'=>cut_same ho hs' ▸ hs,?_⟩
 rintro y s' ⟨hfits,rfl⟩
 refine ⟨?_,hpost y hfits⟩
 intro transaction hmem
 rw [noted_handed ho y] at hmem
 exact hs transaction hmem

lemma wp_stopRequested (hs:AllSound s) {p : Bool → Handing → Prop}
 (hpost:∀stopped,p stopped s):
 wp (fitting sha256) AllSound p stopRequested s:=
 wp_ask rfl hs fun y _=>hpost y

lemma wp_removeJournal (hs:AllSound s) {p : Except Bytes Unit → Handing → Prop}
 (hpost:∀y,p y s) : wp (fitting sha256) AllSound p removeJournal s:=
 wp_ask rfl hs fun y _=>hpost y

lemma wp_randomDevice (hs:AllSound s) {p : RequestToken → Handing → Prop}
 (hpost:∀y,p y s) : wp (fitting sha256) AllSound p randomDevice s:=
 wp_ask rfl hs fun y _=>hpost y

section
variable (hs:Holds t s)
include hs

lemma wp_submitRename {r : RenameRequest} {use : RenameUse}
 (huse:use≠.observeConflict) {p : OperationResult → Handing → Prop}
 (hpost:∀result,RenameReplyFits t r result use → p result s):
 wp (fitting sha256) AllSound p (submitRename r use) s:=by
 have hnoted:∀result,noted s (.submitRename r use) result=s:=by
  intro result
  cases use with
  | observeConflict=>exact absurd rfl huse
  | execute=>rfl
  | recover=>rfl
  | tryCopyName=>rfl
 apply wp_ask rfl hs.all
 intro result hfits
 rw [hnoted]
 exact hpost result (hs.current ▸ hfits)

lemma wp_observeConflict {r : RenameRequest}
 {p : OperationResult → Handing → Prop}
 (hpost:∀result s',Holds t s' →
  (conflictObserved t result=true → s'.observed=s.observed++[result.confirmedSnapshot]) →
  (∀snapshot∈s.observed,snapshot∈s'.observed) → p result s'):
 wp (fitting sha256) AllSound p (submitRename r .observeConflict) s:=by
 have hnoted:∀result : OperationResult, noted s (.submitRename r .observeConflict) result=
    if conflictObserved s.current result then
     { s with observed:=s.observed++[result.confirmedSnapshot] } else s := fun _=>rfl
 apply wp_ask rfl hs.all
 intro result _
 have hcurrent:=hs.current
 rw [hnoted result]
 by_cases hconflict:conflictObserved s.current result
 · rw [if_pos hconflict]
   exact hpost _ _ ⟨hs.all,hcurrent⟩ (fun _=>rfl) fun _ hmem=>List.mem_append_left _ hmem
 · rw [if_neg hconflict]
   exact hpost _ _ hs (fun h=>absurd (hcurrent ▸ h) hconflict) fun _ hmem=>hmem

lemma wp_submitDelete {r : DeleteRequest} {use : DeleteUse}
 {p : OperationResult → Handing → Prop}
 (hpost:∀result,DeleteReplyFits t result use → p result s):
 wp (fitting sha256) AllSound p (submitDelete r use) s:=
 wp_ask rfl hs.all fun result hfits =>
  hpost result (hs.current ▸ hfits)

lemma wp_submitStream {r : FileTransferStreamRequest}
 {p : StreamAnswer → Handing → Prop} (hrejected:p .rejected s)
 (hfinished:∀result,(r.mode≠.probeReservation → StreamResultFits t result) →
  p (.finished result) s)
 (hreserved:∀reservation,(r.mode=.reserveNew → ReservationFits t reservation) →
  p (.reserved reservation) s):
 wp (fitting sha256) AllSound p (submitStream r) s:=by
 apply wp_ask rfl hs.all
 intro y hfits
 have hcurrent:=hs.current
 cases y with
 | rejected=>exact hrejected
 | finished result=>exact hfinished result (hcurrent ▸ hfits)
 | reserved reservation=>exact hreserved reservation (hcurrent ▸ hfits)

lemma wp_acknowledgeReservation {r : FileTransferStreamRequest}
 {reservation : FileTransferReservation} {accepted : Bool}
 {p : FileTransferStreamResult → Handing → Prop}
 (hpost:∀result, (r.mode=.probeReservation → result.ok=true →
   markerOwned sha256 r result=true → MarkerFits t reservation) →
  (r.mode≠.probeReservation → StreamResultFits t result) → p result s):
 wp (fitting sha256) AllSound p (acknowledgeReservation r reservation accepted) s:=by
 apply wp_ask rfl hs.all
 intro result hfits
 have hcurrent:=hs.current
 subst hcurrent
 simp only [AnswerFits] at hfits
 apply hpost
 · intro hmode
   rw [if_pos hmode] at hfits
   exact hfits
 · intro hmode
   rw [if_neg hmode] at hfits
   exact hfits

lemma wp_submitAudit {r : FileTransferStreamRequest}
 {p : AuditAnswer → Handing → Prop} (hrejected:p .rejected s)
 (hfinished:∀result,p (.finished result) s)
 (haudited:∀result,AuditFits t r.expectedSource result → p (.audited result) s):
 wp (fitting sha256) AllSound p (submitAudit r) s:=by
 apply wp_ask rfl hs.all
 intro y hfits
 have hcurrent:=hs.current
 cases y with
 | rejected=>exact hrejected
 | finished result=>exact hfinished result
 | audited result=>exact haudited result (hcurrent ▸ hfits)

end

lemma wp_acknowledgeAudit (hs:AllSound s) {r : FileTransferStreamRequest}
 {outcome : FileTransferAuditCommitOutcome} {p : FileTransferStreamResult → Handing → Prop}
 (hpost:∀result,p result s):
 wp (fitting sha256) AllSound p (acknowledgeAudit r outcome) s:=
 wp_ask rfl hs fun y _=>hpost y

lemma wp_awaitConflictDecision (hs:Holds t s) {question : List FileTransferConflictItem}
 {p : Option FileTransferConflictDecision → Handing → Prop}
 (hpost:∀decision s',Holds t s' → DecisionFits t s.observed decision → p decision s'):
 wp (fitting sha256) AllSound p (awaitConflictDecision question) s:=by
 apply wp_ask rfl hs.all
 intro decision hfits
 exact hpost decision _ ⟨hs.all,hs.current⟩ (hs.current ▸ hfits)

end Rules

/-- An unexpected object was moved away and still something was published in its place. -/
def Unsettled (item : FileTransferItem) : Prop:=
 item.overwriteState = .evacuatedUnexpected ∧ item.destinationState = .published

variable (t : FileTransferTransaction)

/-- No item is past turning back. -/
def Settled : Prop := ∀item ∈ t.items,¬Unsettled item

lemma settled_set {t : FileTransferTransaction} (t' : FileTransferTransaction) {index : ℕ}
 {item' : FileTransferItem}
 (hinside:index<t.items.length) (hitems:t'.items=t.items.set index item')
 (hitem:Unsettled item' → Unsettled (itemAt t index)) (h:Settled t) : Settled t':=by
 unfold Settled
 rw [hitems]
 intro item hmem
 obtain hmem | rfl:=List.mem_or_eq_of_mem_set hmem
 · exact h item hmem
 · intro hunsettled
   exact h _ (by rw [itemAt_eq hinside]; exact List.getElem_mem hinside) (hitem hunsettled)

/-- What a step leaves as it was, apart from the state of the current item. -/
structure Keeps (t t' : FileTransferTransaction) : Prop where
 sound : TransferSound t'
 settled : Settled t → Settled t'
 unprepared : t'.phase≠.prepared
 cleanup : t'.phase=.prepublishCleanup ↔ t.phase=.prepublishCleanup
 cursor : t.phase=.prepublishCleanup → completedPrefix t'=completedPrefix t

def StepEnds (out : FileTransferTransaction × StepResult)
  (s : Handing) : Prop:=
 (out.2.outcome = .committed → Holds out.1 s ∧ Keeps t out.1) ∧ (out.2.outcome = .cleanFailure →
   Holds out.1 s ∧ TransferSound out.1 ∧ out.1.phase = .prepublishCleanup)

section StepRules
variable {sha256 : Bytes → ContentDigest} {s : Handing} {t t₀ t' : FileTransferTransaction}
 {index : ℕ} {item' : FileTransferItem}

lemma stepEnds_other (hcommitted:out.2.outcome≠.committed)
 (hclean:out.2.outcome≠.cleanFailure) : StepEnds t out s:=
 ⟨fun h=>absurd h hcommitted,fun h=>absurd h hclean⟩

lemma wp_persistThen {next : TransferStep} (hsound:TransferSound t) (hs:AllSound s)
 (hnext:∀s',Holds t s' → s'.observed=s.observed →
  wp (fitting sha256) AllSound (StepEnds t₀) next s'):
 wp (fitting sha256) AllSound (StepEnds t₀) (persistThen t e next) s:=by
 rw [persistThen,wp_bind]
 apply wp_persist hsound hs
 · intro s' hs' hobserved
   exact hnext s' hs' hobserved
 · intro detail s' hs' _ _
   exact ⟨hs',stepEnds_other nofun nofun⟩

lemma wp_persistCommitted (hkeeps:Keeps t₀ t) (hs:AllSound s):
 wp (fitting sha256) AllSound (StepEnds t₀) (persistCommitted t) s:=by
 apply wp_persistThen hkeeps.sound hs
 intro s' hs' _
 rw [wp_bind]
 apply wp_stopRequested hs'.all
 intro stopped
 cases stopped with
 | true=>exact ⟨hs'.all,stepEnds_other nofun nofun⟩
 | false=>exact ⟨hs'.all,fun _=>⟨hs',hkeeps⟩,nofun⟩

lemma wp_preserveUncertain (hsound:TransferSound t) (hs:AllSound s) {status : OperationStatus}
 {e : OperationEvidence} {detail : Bytes}
 (hidle:t.activeStep=.none → e=.none)
 (hfailure:status=.success → e=.none ∧ detail=[]):
 wp (fitting sha256) AllSound (StepEnds t₀) (preserveUncertain t status e detail) s:=by
 apply wp_persistThen (sound_preserved hsound hidle hfailure) hs
 intro s' hs' _
 exact ⟨hs'.all,stepEnds_other nofun nofun⟩

lemma wp_preserveCleanupUncertain (hsound:TransferSound t) (hs:AllSound s)
 {status : OperationStatus} {e : OperationEvidence} {detail : Bytes}
 (hidle:t.activeStep=.none → e=.none)
 (hfailure:t.failureStatus=.success → e=.none):
 wp (fitting sha256) AllSound (StepEnds t₀)
  (preserveCleanupUncertain t status e detail) s:=by
 apply wp_persistThen (sound_cleanupPreserved hsound hidle hfailure) hs
 intro s' hs' _
 exact ⟨hs'.all,stepEnds_other nofun nofun⟩

lemma wp_preserveResult (hsound:TransferSound t) (hs:AllSound s)
 (hreal:t.activeStep≠.none) {result : OperationResult} (hfits:FailureFits t result):
 wp (fitting sha256) AllSound (StepEnds t₀) (preserveResult t result) s:=by
 unfold preserveResult
 unfold FailureFits at hfits
 split
 · next hphase =>
   rw [if_pos hphase] at hfits
   exact wp_preserveCleanupUncertain hsound hs (fun h=>absurd h hreal) hfits
 · next hphase =>
   rw [if_neg hphase] at hfits
   exact wp_preserveUncertain hsound hs (fun h=>absurd h hreal) hfits

def TurnsBack (out : FileTransferTransaction × StepResult) (s : Handing) : Prop:=
 out.2.outcome = .journalError ∨
  out.2.outcome = .cleanFailure ∧ Holds out.1 s ∧ TransferSound out.1 ∧
   out.1.phase = .prepublishCleanup

lemma stepEnds_of_turnsBack (h:TurnsBack out s) : StepEnds t out s:=by
 obtain hjournal | ⟨hclean,hrest⟩:=h
 · refine stepEnds_other ?_ ?_
   · simp [hjournal]
   · simp [hjournal]
 · refine ⟨fun hcommitted=>?_,fun _=>hrest⟩
   rw [hclean] at hcommitted
   cases hcommitted

lemma wp_enterCleanup {status : OperationStatus} {detail : Bytes}
 (hsound:TransferSound (recordFailure { clearActive t with phase:=.prepublishCleanup }
  status e detail)) (hs:AllSound s):
 wp (fitting sha256) AllSound TurnsBack (enterCleanup t status e detail) s:=by
 rw [enterCleanup,persistThen,wp_bind]
 apply wp_persist hsound hs
 · intro s' hs' _
   exact ⟨hs'.all,.inr ⟨rfl,hs',hsound,rfl⟩⟩
 · intro detail s' hs' _ _
   exact ⟨hs',.inl rfl⟩

lemma wp_stepEnds {step : TransferStep} (h:wp (fitting sha256) AllSound TurnsBack step s):
 wp (fitting sha256) AllSound (StepEnds t) step s:=
 wp_consequence h fun _ _ _ hback=>stepEnds_of_turnsBack hback

lemma cursor_kept (h:TransferSound t) (hcurrent:Current t index)
 (hitems:t'.items=t.items.set index item') (hkind:t'.kind=t.kind)
 (hunfinished:finalItem t.kind item'=false) : completedPrefix t'=index:=by
 have hlength:t'.items.length=t.items.length:=by simp [hitems]
 have hinside:=hcurrent.inside
 have hnow:Current t' index:=by
  refine ⟨by omega,?_,?_⟩
  · rw [hkind]
    intro i hi hlt
    obtain ⟨hdone,-⟩ | ⟨-,heq⟩ | ⟨-,hgt⟩:=h.revised_cases hcurrent hitems hi
    · exact hdone
    · omega
    · omega
  · have hitem:t'.items[index]=item':=by simp [hitems]
    rw [hkind,itemAt_eq (by omega),hitem]
    exact hunfinished
 exact hnow.index_eq

/-- The step under way, and the item it is about. -/
structure Engaged (t : FileTransferTransaction) (index : ℕ) (step : FileTransferStep) : Prop where
 sound : TransferSound t
 current : Current t index
 active : t.activeStep=step
 real : step≠.none
 fits : itemStepMatches t (itemAt t index)=true
 working : Working t.phase

lemma engaged_of_active (h:TransferSound t) (hreal:t.activeStep≠.none):
 Engaged t t.activeIndex.toNat t.activeStep:=by
 have hphase:Working t.phase:=by
  cases hphase:t.phase with
  | prepared=>exact absurd (h.terminal (.inl hphase)) hreal
  | completed=>exact absurd (h.terminal (.inr hphase)) hreal
  | processing=>exact .inl rfl
  | prepublishCleanup=>exact .inr rfl
 have hcurrent:=current_of_phase h hphase.uncompleted
 have hindex:t.activeIndex.toNat=completedPrefix t:=by
  rw [h.cursor hreal,firstNonFinal_eq hcurrent.inside]
 rw [hindex]
 refine ⟨h,hcurrent,rfl,hreal,?_,hphase⟩
 have hactive:=h.active
 unfold activeStepMatches at hactive
 rw [if_neg hreal,hindex,List.getElem?_eq_getElem hcurrent.inside] at hactive
 rw [itemAt_eq hcurrent.inside]
 exact hactive

lemma engaged_of_begin (h:TransferSound t) (hcurrent:Current t index)
  (hworking:Working t.phase) {step : FileTransferStep} (hreal:step≠.none)
  (hfits:itemStepMatches (beginStep t index step) (itemAt t index)=true):
  Engaged (beginStep t index step) index step where
 sound:=sound_beginStep h hcurrent hworking hreal hfits
 current:=⟨hcurrent.inside,hcurrent.before,hcurrent.unfinished⟩
 active:=rfl
 real:=hreal
 fits:=hfits
 working:=hworking

lemma Engaged.currentItem {step : FileTransferStep} (h:Engaged t index step):
 currentItem t=itemAt t index:=by
 rw [TransferRunRule.currentItem,h.current.index_eq]

lemma Engaged.keeps (h:Engaged t index step) (hreworks:Reworks t index item')
 (hsound:ItemSound t.version t.kind t.phase item')
 (hcleanup:t.phase=.prepublishCleanup → finalItem t.kind item'=false)
 (hsettled:Unsettled item' → Unsettled (itemAt t index)):
 Keeps t (advance (setItem t index item')):=by
 have hset:Settled t → Settled (setItem t index item'):=settled_set _ h.current.inside rfl hsettled
 have hkept:(setItem t index item').phase=t.phase:=rfl
 by_cases hphase:t.phase=.prepublishCleanup
 · have hnext:advance (setItem t index item')=clearActive (setItem t index item'):=
    advance_cleanup (hkept.trans hphase)
   refine ⟨sound_advance h.sound h.current hreworks hsound hcleanup,?_,?_,?_,?_⟩
   · rw [hnext]
     exact hset
   · rw [hnext]
     exact fun hprepared=>h.working.unprepared hprepared
   · rw [hnext]
     exact Iff.rfl
   · intro _
     rw [hnext,h.current.index_eq]
     exact cursor_kept h.sound h.current rfl rfl (hcleanup hphase)
 · have hnext:=advance_processing (t := setItem t index item')
    fun hcleanup=>hphase (hkept.symm.trans hcleanup)
   refine ⟨sound_advance h.sound h.current hreworks hsound hcleanup,?_,?_,?_,?_⟩
   · rw [hnext]
     exact hset
   · rw [hnext]
     simp only
     split
     · exact nofun
     · exact nofun
   · rw [hnext]
     simp only [hphase,iff_false]
     split
     · exact nofun
     · exact nofun
   · intro hcleanup
     exact absurd hcleanup hphase

lemma unpublished_of_fits (hstep:t.activeStep=step)
 (hfits:itemStepMatches t (itemAt t index)=true)
 (hrename:step≠.deleteSource ∧ step≠.cleanupOverwriteDestination):
 (itemAt t index).destinationState≠.published:=by
 intro hpublished
 unfold itemStepMatches at hfits
 cases hactive:t.activeStep<;>simp [hactive,hpublished] at hfits
 · exact hrename.1 (hstep ▸ hactive)
 · exact hrename.2 (hstep ▸ hactive)

lemma reworks_of_same (h:TransferSound t) (hinside:index<t.items.length)
  (hclaim:claimOf item'=claimOf (itemAt t index))
  (horiginal:item'.originalSourceSnapshot=(itemAt t index).originalSourceSnapshot)
  (hoverwrite:item'.overwriteDestinationSnapshot=(itemAt t index).overwriteDestinationSnapshot ∨
   snapshotEmpty item'.overwriteDestinationSnapshot=true) : Reworks t index item' where
 claim:=hclaim
 identity:=by simp only [sourceIdentity,horiginal]
 unaliased:=by
  obtain hsame | hempty:=hoverwrite
  · rw [hsame]
    exact (reworks_same h hinside).unaliased
  · exact .inl hempty

lemma forgetReplaced_cases (version : UInt32) (item : FileTransferItem):
 forgetReplaced version item=item ∨ forgetReplaced version item=clearOverwrite item:=by
 unfold forgetReplaced
 split
 · exact .inr rfl
 · exact .inl rfl

lemma reworks_forgetReplaced (h:TransferSound t) (hinside:index<t.items.length)
 (version : UInt32) (hclaim:claimOf item'=claimOf (itemAt t index))
 (horiginal:item'.originalSourceSnapshot=(itemAt t index).originalSourceSnapshot)
 (hoverwrite:item'.overwriteDestinationSnapshot=(itemAt t index).overwriteDestinationSnapshot):
 Reworks t index (forgetReplaced version item'):=by
 obtain heq | heq:=forgetReplaced_cases version item'
 · rw [heq]
   exact reworks_of_same h hinside hclaim horiginal (.inl hoverwrite)
 · rw [heq]
   exact reworks_of_same h hinside hclaim horiginal (.inr rfl)

lemma settled_forgetReplaced {version : UInt32} {item : FileTransferItem}
 (hsettled:overwriteSettled version item=true):
 ¬Unsettled (forgetReplaced version item):=by
 rintro ⟨hstate,-⟩
 obtain heq | heq:=forgetReplaced_cases version item
 · rw [heq] at hstate
   simp [overwriteSettled,hstate] at hsettled
 · rw [heq] at hstate
   cases hstate

lemma Engaged.renamed (h:Engaged t index step) {snapshot : SourceSnapshot}
 (hrenamed:renamedItem t.version (itemAt t index) snapshot step=
  some item') (hfits:RenameFits t.phase (itemAt t index) snapshot step):
 Keeps t (advance (setItem t index item')):=by
 have hsound:=sound_itemAt h.sound h.current.inside
 have hmatches:=h.fits
 rw [itemStepMatches,h.active] at hmatches
 have hinside:=h.current.inside
 cases step with
 | atomicMove=>
  simp only [decide_eq_true_eq] at hmatches
  obtain ⟨hkind,hstrategy,horiginal,habsent,hsettled⟩:=hmatches
  cases hrenamed
  apply h.keeps
  · exact reworks_forgetReplaced h.sound hinside _ rfl rfl rfl
  · exact sound_forgetReplaced (sound_atomicMove hsound hkind hstrategy horiginal habsent hfits) _
  · exact fun hcleanup=>absurd hcleanup hfits.1
  · exact fun hunsettled=>absurd hunsettled (settled_forgetReplaced hsettled)
 | stageSource=>
  simp only [decide_eq_true_eq] at hmatches
  obtain ⟨hkind,hstrategy,-,habsent⟩:=hmatches
  cases hrenamed
  apply h.keeps
  · exact reworks_of_same h.sound hinside rfl rfl (.inl rfl)
  · exact sound_stageSource hsound hkind hstrategy habsent hfits
  · intro _
    simp [finalItem,habsent]
  · exact id
 | publishTemp=>
  simp only [decide_eq_true_eq] at hmatches
  cases hrenamed
  apply h.keeps
  · exact reworks_forgetReplaced h.sound hinside _ rfl rfl rfl
  · exact sound_forgetReplaced (sound_publishTemp hsound hmatches.2.1 hfits) _
  · exact fun hcleanup=>absurd hcleanup hfits.1
  · exact fun hunsettled=>absurd hunsettled (settled_forgetReplaced hmatches.2.2)
 | restoreStagedSource=>
  simp only [decide_eq_true_eq] at hmatches
  obtain ⟨hkind,hstrategy,-,-,-⟩:=hmatches
  cases hrenamed
  apply h.keeps
  · exact reworks_of_same h.sound hinside rfl rfl (.inl rfl)
  · exact sound_restoreStagedSource hsound hkind hstrategy hfits
  · intro _
    simp [finalItem,hfits.1]
  · exact id
 | evacuateOverwriteDestination=>
  simp only [decide_eq_true_eq] at hmatches
  obtain ⟨hversion,hauthorized,hunpublished⟩:=hmatches
  obtain ⟨hstorable,hvalid,hsame⟩:=hfits
  cases hrenamed
  apply h.keeps
  · exact reworks_of_same h.sound hinside rfl rfl (.inl rfl)
  · exact sound_evacuated hsound hversion hauthorized hunpublished hstorable hvalid
     (.inr ⟨rfl,hsame⟩)
  · intro _
    simp [finalItem]
  · exact fun hunsettled=>by cases hunsettled.1
 | restoreOverwriteDestination=>
  simp only [decide_eq_true_eq] at hmatches
  obtain ⟨-,-,-,hunpublished⟩:=hmatches
  cases hrenamed
  apply h.keeps
  · exact reworks_of_same h.sound hinside rfl rfl (.inr rfl)
  · exact sound_clearOverwrite hsound
  · intro _
    simp [finalItem,clearOverwrite,hunpublished]
  · exact fun hunsettled=>by cases hunsettled.1
 | none=>cases hrenamed
 | reserveTemp=>cases hrenamed
 | streamTemp=>cases hrenamed
 | deleteSource=>cases hrenamed
 | cleanupTemp=>cases hrenamed
 | cleanupOverwriteDestination=>cases hrenamed

lemma wp_settleRename (h:Engaged t index step) (hs:Holds t s) {result : OperationResult}
 (hfits:CommitFits t result):
 wp (fitting sha256) AllSound (StepEnds t) (settleRename t index step result) s:=by
 unfold settleRename
 split
 · apply wp_preserveUncertain h.sound hs.all
   · intro hnone
     exact absurd (h.active.symm.trans hnone) h.real
   · exact nofun
 · next applied happlied =>
   unfold applyRenameSuccess at happlied
   simp only at happlied
   split at happlied
   · cases happlied
   · next hmatches =>
     split at happlied
     · cases happlied
     · next item' hrenamed =>
       cases happlied
       have hidentity:snapshotIdentityMatches (expectedSnapshot (itemAt t index) step)
         result.confirmedSnapshot=true:=by
        by_contra hno
        exact hmatches (.inr hno)
       unfold CommitFits at hfits
       rw [h.currentItem,h.active] at hfits
       exact wp_persistCommitted (h.renamed hrenamed (hfits hidentity)) hs.all

end StepRules

end VoVe.TransferRunRule
