import VoVe.DeleteRunWorld

set_option autoImplicit false

namespace VoVe.DeleteRunRule
open ByteCodec PosixPath EffectProgram FileOperation OperationRequest
open ObjectDirectory JournalDisk JournalAtomicity CurrentOperationJournal OperationWorld
open JournalRecord DeleteTransaction PermanentDeleteCoordinator DeleteRunWorld

section Rules
variable (cores : List ItemCore) (initial : ObjectNames)

/-- The world of one operation, which takes note of its point of no return. -/
def notingWorld : World DeleteOp DeleteReply (Noted DeleteState):=
 deleteWorld.noting (CommitPoint cores)

def RecordedIn (s : Noted DeleteState) (t : PermanentDeleteTransaction) : Prop:=
 Recorded .permanentDelete encodePermanentDeleteTransaction Idle
  (Describes cores s.state.directory s.noted) s.state.journal t

/-- Nothing has happened to the items, or everything. -/
def AllOrNothing (s : Noted DeleteState) : Prop:=
 AllAt cores (·.source) s.state.directory ∨ AllGone cores s.state.directory ∧ s.noted

/-- At every point the journal describes the directory, or it is gone and the
  operation with it. -/
structure KeptIn (s : Noted DeleteState) : Prop where
 journal : Kept .permanentDelete encodePermanentDeleteTransaction Idle
  (Describes cores s.state.directory s.noted) (AllOrNothing cores s) s.state.journal
 others : OthersKeep cores initial s.state.directory

/-- A point between two operations: the transaction is the journal's last and
  describes the directory. -/
structure Accurate (t : PermanentDeleteTransaction) (s : Noted DeleteState) : Prop where
 recorded : RecordedIn cores s t
 describes : Describes cores s.state.directory s.noted t
 others : OthersKeep cores initial s.state.directory

variable {cores initial} {t next : PermanentDeleteTransaction} {s : Noted DeleteState}
 {index : ℕ} {step : PermanentDeleteStep} {reconcile : Bool} {r : OperationResult}

section
variable (h:Accurate cores initial t s)
include h

lemma Accurate.safe : KeptIn cores initial s := ⟨.recorded t h.recorded h.describes,h.others⟩

lemma Accurate.valid : DeleteValid t:=by
 obtain ⟨bytes,⟨payload,hencoded,-⟩,-⟩:=h.recorded
 exact ((encodePermanentDeleteTransaction_iff _ _).mp hencoded).1

lemma Accurate.note {noted : Prop} (hnoted:s.noted → noted):
  Accurate cores initial t ⟨s.state,noted⟩ where
 recorded:=h.recorded.mono fun _ hu=>hu.mono hnoted
 describes:=h.describes.mono hnoted
 others:=h.others

lemma wp_persist
 (hnext:∀noted : Prop,(s.noted → noted) → (Commits cores s.state.directory next → noted) →
  Describes cores s.state.directory noted next)
 {post : Except Bytes Unit → Noted DeleteState → Prop}
 (herror:∀detail s',KeptIn cores initial s' → post (.error detail) s')
 (hok:∀s',Accurate cores initial next s' → s'.state.directory=s.state.directory →
  post (.ok ()) s'):
 wp (notingWorld cores) (KeptIn cores initial) post (persist next) s:=by
 have hwritten:∀ {payload : Bytes} {noted : Prop},
   encodePermanentDeleteTransaction next=.ok payload →
   payload.length≤kMaximumCurrentOperationPayloadBytes → (s.noted → noted) →
   (CommitPoint cores ⟨written s.state.journal (encode .permanentDelete payload),
    s.state.directory⟩ → noted) →
   Accurate cores initial next
    ⟨⟨written s.state.journal (encode .permanentDelete payload),s.state.directory⟩,noted⟩:=by
  intro payload noted hencoded hsize hnoted hcommits
  have hholds:Holds .permanentDelete encodePermanentDeleteTransaction
   (encode .permanentDelete payload) next := ⟨payload,hencoded,hsize,rfl⟩
  have hbefore:=h.note hnoted
  refine ⟨hbefore.recorded.written hbefore.describes hholds,hnext noted hnoted ?_,h.others⟩
  exact fun hcommit=>hcommits ⟨_,next,rfl,hholds,hcommit⟩
 have hleaves:∀ {payload : Bytes} {journal : Generations} {noted : Prop},
   encodePermanentDeleteTransaction next=.ok payload →
   payload.length≤kMaximumCurrentOperationPayloadBytes →
   WriteLeaves (encode .permanentDelete payload) s.state.journal journal → (s.noted → noted) →
   (CommitPoint cores ⟨journal,s.state.directory⟩ → noted) →
   KeptIn cores initial ⟨⟨journal,s.state.directory⟩,noted⟩:=by
  intro payload journal noted hencoded hsize hafter hnoted hcommits
  have hbefore:=h.note hnoted
  cases hafter with
  | unchanged=>exact hbefore.safe
  | rotated=>exact ⟨.recorded t hbefore.recorded.rotated hbefore.describes,h.others⟩
  | written=>exact (hwritten hencoded hsize hnoted hcommits).safe
 refine ⟨h.safe,?_,?_⟩
 · rintro ⟨⟨journal,directory⟩,noted⟩ ⟨⟨rfl,hcut⟩,hnoted⟩
   obtain ⟨hbefore,hmoment⟩:=or_imp.mp hnoted.mpr
   dsimp only at hcut
   cases hcut with
   | unchanged=>exact (h.note hbefore).safe
   | torn payload after hencoded hsize hafter=>
    exact hleaves hencoded hsize hafter hbefore hmoment
 · rintro reply ⟨⟨journal,directory⟩,noted⟩ ⟨⟨rfl,hpersists⟩,hnoted⟩
   obtain ⟨hbefore,hmoment⟩:=or_imp.mp hnoted.mpr
   dsimp only at hpersists
   cases hpersists with
   | threw thrown detail _=>
    have hkept:=(h.note hbefore).safe
    exact ⟨hkept,herror detail _ hkept⟩
   | tooLarge payload detail _ _=>
    have hkept:=(h.note hbefore).safe
    exact ⟨hkept,herror detail _ hkept⟩
   | failed payload detail after hencoded hsize hafter=>
    have hkept:=hleaves hencoded hsize hafter hbefore hmoment
    exact ⟨hkept,herror detail _ hkept⟩
   | stored payload hencoded hsize=>
    have hafter:=hwritten hencoded hsize hbefore hmoment
    exact ⟨hafter.safe,hok _ hafter rfl⟩

lemma wp_stopRequested {post : Bool → Noted DeleteState → Prop}
 (hpost:∀stop s',Accurate cores initial t s' → s'.state=s.state → post stop s'):
 wp (notingWorld cores) (KeptIn cores initial) post stopRequested s:=by
 refine ⟨h.safe,?_,?_⟩
 · rintro ⟨state,noted⟩ ⟨rfl,hnoted⟩
   exact (h.note fun hbefore=>hnoted.mpr (.inl hbefore)).safe
 · rintro stop ⟨state,noted⟩ ⟨rfl,hnoted⟩
   have hafter:=h.note fun hbefore=>hnoted.mpr (.inl hbefore)
   exact ⟨hafter.safe,hpost stop _ hafter rfl⟩

end

lemma wp_submitStep {post : OperationResult → Noted DeleteState → Prop}
 (hkept:KeptIn cores initial s)
 (hcut:∀directory noted,(directory=s.state.directory ∨ (reconcile=false ∧
   Carries (identityOf (itemAt t index)) (nameOf (itemAt t index).current)
    (stepPlace (itemAt t index) step) s.state.directory directory)) → (s.noted → noted) →
  KeptIn cores initial ⟨⟨s.state.journal,directory⟩,noted⟩)
 (hpost:∀result directory noted,StepTruth (itemAt t index) step reconcile s.state.directory
   directory result → (s.noted → noted) → post result ⟨⟨s.state.journal,directory⟩,noted⟩):
 wp (notingWorld cores) (KeptIn cores initial) post (submitStep t index step reconcile) s:=by
 unfold submitStep
 by_cases herase:step=.erase
 · subst herase
   rw [if_pos rfl]
   refine ⟨hkept,?_,?_⟩
   · rintro ⟨⟨journal,directory⟩,noted⟩ ⟨⟨rfl,hleaves⟩,hnoted⟩
     have hbefore:=(or_imp.mp hnoted.mpr).1
     obtain hsame | ⟨hexecute,hremove⟩:=hleaves
     · exact hcut _ _ (.inl hsame) hbefore
     · exact hcut _ _ (.inr ⟨hexecute,hremove.carries⟩) hbefore
   · rintro result ⟨⟨journal,directory⟩,noted⟩ ⟨⟨rfl,htruth⟩,hnoted⟩
     have hbefore:=(or_imp.mp hnoted.mpr).1
     have htold:=stepTruth_delete htruth
     exact ⟨hcut _ _ htold.effect hbefore,hpost _ _ _ htold hbefore⟩
 · rw [if_neg herase]
   refine ⟨hkept,?_,?_⟩
   · rintro ⟨⟨journal,directory⟩,noted⟩ ⟨⟨rfl,hleaves⟩,hnoted⟩
     have hbefore:=(or_imp.mp hnoted.mpr).1
     obtain hsame | ⟨hexecute,hrename⟩:=hleaves
     · exact hcut _ _ (.inl hsame) hbefore
     · refine hcut _ _ (.inr ⟨hexecute,?_⟩) hbefore
       rw [stepPlace,if_neg herase]
       exact hrename.carries
   · rintro result ⟨⟨journal,directory⟩,noted⟩ ⟨⟨rfl,htruth⟩,hnoted⟩
     have hbefore:=(or_imp.mp hnoted.mpr).1
     have htold:=stepTruth_rename herase htruth
     exact ⟨hcut _ _ htold.effect hbefore,hpost _ _ _ htold hbefore⟩

/-- A request of the active step, executed where its item rests or reconciled,
  tells where the item is. -/
lemma wp_submitActive (h:Accurate cores initial t s) (hactive:¬Idle t)
 (hplaced:reconcile=false → Placed s.state.directory (activeItem t)):
 wp (notingWorld cores) (KeptIn cores initial)
  (fun result s'=>Accurate cores initial t s' ∧ Told s'.state.directory t result)
  (submitStep t t.activeIndex.toNat t.activeStep reconcile) s:=by
 have hafter:∀directory noted,(directory=s.state.directory ∨ (reconcile=false ∧
   Carries (identityOf (activeItem t)) (nameOf (activeItem t).current)
    (stepPlace (activeItem t) t.activeStep) s.state.directory directory)) →
   (s.noted → noted) →
   Accurate cores initial t ⟨⟨s.state.journal,directory⟩,noted⟩:=by
  rintro directory noted (rfl | ⟨hexecute,hcarries⟩) hnoted
  · exact h.note hnoted
  · refine ⟨h.recorded.active hactive,?_,?_⟩
    · exact (h.describes.mono hnoted).carried h.valid hactive (hplaced hexecute) hcarries
    · intro object hother name
      refine (hcarries.others object ?_ name).trans (h.others object hother name)
      rintro rfl
      apply hother
      rw [←h.describes.cores,coresOf,List.map_map]
      exact List.mem_map_of_mem (itemAt_mem (h.valid.activeIndex hactive))
 refine wp_submitStep h.safe (fun directory noted heffect hnoted=>?_) ?_
 · exact (hafter directory noted heffect hnoted).safe
 · intro result directory noted htruth hnoted
   have hthere:=hafter directory noted htruth.effect hnoted
   refine ⟨hthere,?_,?_⟩
   · intro hok
     obtain ⟨harrived,hevidence⟩:=htruth.success hok
     exact ⟨hevidence,arrived_stepped h.valid hactive (hthere.describes.active hactive) harrived⟩
   · intro hok hevidence
     obtain ⟨hunchanged,hseen⟩:=htruth.refusal hok hevidence
     cases reconcile with
     | false=>
      rw [hunchanged rfl]
      exact hplaced rfl
     | true=>exact seen_placed h.valid hactive (hthere.describes.active hactive) (hseen rfl)

end Rules

section Steps
variable (cores : List ItemCore) (initial : ObjectNames)

/-- What a step leaves: committed it moved its item, refused it moved nothing,
  and an evacuation that was refused has turned back. -/
structure StepDone (t : PermanentDeleteTransaction) (index : ℕ) (step : PermanentDeleteStep)
  (out : PermanentDeleteTransaction × StepResult) (s : Noted DeleteState) : Prop where
 committed : out.2.outcome=.committed → Accurate cores initial out.1 s ∧ Idle out.1 ∧
  out.1.phase=t.phase ∧
  ∃ item,item.location=stepLocation step ∧ out.1.items=t.items.set index item
 refused : out.2.outcome=.noCommit → Accurate cores initial out.1 s ∧ Idle out.1 ∧
  (step=.evacuate → out.1.phase=.rollback)

variable {cores initial} {t next : PermanentDeleteTransaction} {s : Noted DeleteState}
 {index : ℕ} {step : PermanentDeleteStep} {r : OperationResult}

lemma stepDone_ended {out : PermanentDeleteTransaction × StepResult}
 (hcommitted:out.2.outcome≠.committed) (hrefused:out.2.outcome≠.noCommit):
 StepDone cores initial t index step out s:=
 ⟨fun h=>absurd h hcommitted,fun h=>absurd h hrefused⟩

lemma wp_record (h:Accurate cores initial t s)
 (hnext:∀noted : Prop,(s.noted → noted) → Describes cores s.state.directory noted next)
 {detailOf : Bytes → Bytes} {settled : StepResult}
 {post : PermanentDeleteTransaction × StepResult → Noted DeleteState → Prop}
 (herror:∀detail s',post (next,.journalError detail) s')
 (hsettled:∀s',Accurate cores initial next s' → post (next,settled) s'):
 wp (notingWorld cores) (KeptIn cores initial) post (record next detailOf settled) s:=by
 rw [record,wp_bind]
 refine wp_persist h (fun noted hnoted _=>hnext noted hnoted) ?_ ?_
 · exact fun detail s' hkept=>⟨hkept,herror _ s'⟩
 · exact fun s' hafter _=>⟨hafter.safe,hsettled s' hafter⟩

lemma wp_orStopped_record (h:Accurate cores initial t s)
 (hnext:∀noted : Prop,(s.noted → noted) → Describes cores s.state.directory noted next)
 {status : OperationStatus} {stopDetail : String} {detailOf : Bytes → Bytes}
 {settled : StepResult} (hresult:settled.outcome≠.journalError)
 {post : PermanentDeleteTransaction × StepResult → Noted DeleteState → Prop}
 (hended:∀result s',result.outcome=.journalError ∨ result.outcome=.stopped →
  post (next,result) s')
 (hsettled:∀s',Accurate cores initial next s' → post (next,settled) s'):
 wp (notingWorld cores) (KeptIn cores initial) post
  (orStopped status stopDetail (record next detailOf settled)) s:=by
 rw [orStopped,wp_bind]
 have hrecord:wp (notingWorld cores) (KeptIn cores initial)
   (fun out s'=>(∃ detail,out=(next,.journalError detail)) ∨
    out=(next,settled) ∧ Accurate cores initial next s')
   (record next detailOf settled) s:=by
  refine wp_record h hnext ?_ ?_
  · exact fun detail s'=>.inl ⟨_,rfl⟩
  · exact fun s' hafter=>.inr ⟨rfl,hafter⟩
 refine wp_consequence hrecord ?_
 rintro out s' hkept (⟨detail,rfl⟩ | ⟨rfl,hafter⟩)
 · exact ⟨hkept,hended _ s' (.inl rfl)⟩
 · dsimp only
   rw [if_neg hresult,wp_bind]
   refine wp_stopRequested hafter fun stop s'' hafter' _=>?_
   cases stop with
   | true=>exact ⟨hafter'.safe,hended _ s'' (.inr rfl)⟩
   | false=>exact ⟨hafter'.safe,hsettled s'' hafter'⟩

lemma stepDone_applied {applied : PermanentDeleteTransaction} (h:Accurate cores initial applied s)
 {moved : PermanentDeleteItem} (hlocation:moved.location=stepLocation step)
 (happlied:applied=clearActive (setItem t index moved)):
 StepDone cores initial t index step (applied,.committed) s:=by
 refine ⟨fun _=>⟨h,?_,?_,moved,hlocation,?_⟩,nofun⟩
 · rw [happlied]
   rfl
 · rw [happlied]
   rfl
 · rw [happlied]
   rfl

lemma stepDone_refused (h:Accurate cores initial (refused t step r) s):
 StepDone cores initial t index step (refused t step r,
  { outcome:=.noCommit,status:=r.status,detailUtf8:=r.detailUtf8 }) s:=by
 refine ⟨nofun,fun _=>⟨h,rfl,?_⟩⟩
 rintro rfl
 rfl

section
variable (h:Accurate cores initial t s)
include h

lemma wp_settleExecution (hactive:¬Idle t)
 (htold:Told s.state.directory t r):
 wp (notingWorld cores) (KeptIn cores initial)
  (StepDone cores initial t t.activeIndex.toNat t.activeStep)
  (settleExecution t t.activeIndex.toNat t.activeStep r) s:=by
 have hended:∀ (next : PermanentDeleteTransaction) (result : StepResult) (s' : Noted DeleteState),
   result.outcome=.journalError ∨ result.outcome=.stopped →
   StepDone cores initial t t.activeIndex.toNat t.activeStep (next,result) s':=by
  rintro next result s' (hresult | hresult)
  · exact stepDone_ended (by simp [hresult]) (by simp [hresult])
  · exact stepDone_ended (by simp [hresult]) (by simp [hresult])
 unfold settleExecution
 by_cases hok:r.ok
 · rw [if_pos hok]
   cases happlied:applySuccess t t.activeIndex.toNat t.activeStep r with
   | ok applied=>
    obtain ⟨moved,hcore,hplace,hlocation,rfl⟩:=applySuccess_ok happlied
    refine wp_orStopped_record h (fun noted hnoted=>?_) ?_ (hended _) fun s' hafter=>?_
    · exact htold.applied (h.describes.mono hnoted) h.valid hactive hok hcore hplace
    · exact nofun
    · exact stepDone_applied hafter hlocation rfl
   | error detail=>
    refine wp_record h (fun noted hnoted=>?_) (fun detail s'=>hended _ _ s' (.inl rfl)) ?_
    · exact (h.describes.mono hnoted).recordFailure _ (htold.arrived hok).1 detail
    · exact fun s' _=>stepDone_ended nofun nofun
 · rw [if_neg hok]
   by_cases hevidence:r.evidence=.noCommit
   · rw [if_pos hevidence]
     refine wp_orStopped_record h (fun noted hnoted=>?_) ?_ (hended _) fun s' hafter=>?_
     · exact htold.refused (h.describes.mono hnoted) hok hevidence
     · exact nofun
     · exact stepDone_refused hafter
   · rw [if_neg hevidence]
     refine wp_orStopped_record h (fun noted hnoted=>?_) ?_ (hended _) ?_
     · exact (h.describes.mono hnoted).recordFailure _ hevidence _
     · exact nofun
     · exact fun s' _=>stepDone_ended nofun nofun

lemma wp_settleReconciliation (hactive:¬Idle t)
 (htold:Told s.state.directory t r):
 wp (notingWorld cores) (KeptIn cores initial)
  (StepDone cores initial t t.activeIndex.toNat t.activeStep)
  (settleReconciliation t t.activeIndex.toNat t.activeStep r) s:=by
 unfold settleReconciliation
 by_cases hok:r.ok
 · rw [if_pos hok]
   cases happlied:applySuccess t t.activeIndex.toNat t.activeStep r with
   | ok applied=>
    obtain ⟨moved,hcore,hplace,hlocation,rfl⟩:=applySuccess_ok happlied
    refine wp_orStopped_record h (fun noted hnoted=>?_) ?_ ?_ fun s' hafter=>?_
    · exact htold.applied (h.describes.mono hnoted) h.valid hactive hok hcore hplace
    · exact nofun
    · rintro result s' (hresult | hresult)
      · exact stepDone_ended (by simp [hresult]) (by simp [hresult])
      · exact stepDone_ended (by simp [hresult]) (by simp [hresult])
    · exact stepDone_applied hafter hlocation rfl
   | error detail=>exact ⟨h.safe,stepDone_ended nofun nofun⟩
 · rw [if_neg hok]
   by_cases hevidence:r.evidence=.noCommit
   · rw [if_pos hevidence]
     refine wp_record h (fun noted hnoted=>?_) (fun detail s'=>stepDone_ended nofun nofun) ?_
     · exact htold.refused (h.describes.mono hnoted) hok hevidence
     · exact fun s' hafter=>stepDone_refused hafter
   · rw [if_neg hevidence]
     refine wp_record h (fun noted hnoted=>?_) (fun detail s'=>stepDone_ended nofun nofun) ?_
     · exact (h.describes.mono hnoted).recordFailure _ hevidence _
     · exact fun s' _=>stepDone_ended nofun nofun

lemma wp_attempt (hactive:¬Idle t)
 (hplaced:Placed s.state.directory (activeItem t)):
 wp (notingWorld cores) (KeptIn cores initial)
  (fun result s'=>Accurate cores initial t s' ∧ Told s'.state.directory t result)
  (attempt t t.activeIndex.toNat t.activeStep) s:=by
 rw [attempt,wp_bind]
 refine wp_consequence (wp_submitActive h hactive fun _=>hplaced) ?_
 rintro attempted s' hkept ⟨hafter,htold⟩
 split
 · rw [wp_bind]
   refine wp_stopRequested hafter fun stop s'' hafter' hsame=>?_
   cases stop with
   | true=>
    rw [←hsame] at htold
    exact ⟨hafter'.safe,hafter',htold⟩
   | false=>exact wp_submitActive hafter' hactive nofun
 · exact ⟨hkept,hafter,htold⟩

lemma wp_executeStep (hidle:Idle t)
 (hindex:index<t.items.length) (hstep:step≠.none):
 wp (notingWorld cores) (KeptIn cores initial) (StepDone cores initial t index step)
  (executeStep t index step) s:=by
 have hitem:activeItem (beginStep t index step)=itemAt t index:=activeItem_beginStep h.valid hindex
 have hto:(beginStep t index step).activeIndex.toNat=index:=toNat_activeIndex h.valid hindex
 rw [executeStep,wp_bind]
 refine wp_persist h (fun noted hnoted _=>?_) (fun detail s' hkept=>?_) fun s' hbegun hsame=>?_
 · exact (h.describes.mono hnoted).begun h.valid hidle hindex
 · exact ⟨hkept,stepDone_ended nofun nofun⟩
 · have hplaced:Placed s'.state.directory (activeItem (beginStep t index step)):=by
    rw [hitem,hsame]
    exact h.describes.all hidle index hindex
   have hattempt:=wp_attempt hbegun hstep hplaced
   rw [hto] at hattempt
   rw [wp_bind]
   refine wp_consequence hattempt ?_
   rintro result s'' _ ⟨hafter,htold⟩
   have hsettle:=wp_settleExecution hafter hstep htold
   rw [hto] at hsettle
   exact wp_mono (fun _ h=>h) (fun out s'' hout=>⟨hout.committed,hout.refused⟩) hsettle

lemma wp_reconcileActive (hactive:¬Idle t) : wp (notingWorld cores) (KeptIn cores initial)
  (StepDone cores initial t t.activeIndex.toNat t.activeStep) (reconcileActive t) s:=by
 rw [reconcileActive,wp_bind]
 refine wp_consequence (wp_submitActive h hactive nofun) ?_
 rintro observed s' _ ⟨hafter,htold⟩
 refine wp_settleReconciliation hafter hactive ?_
 split
 · next hevidence => exact htold.merged hafter.describes hafter.valid hevidence _
 · exact htold

end

end Steps

section Loops
variable (cores : List ItemCore) (initial : ObjectNames)

/-- A turn skips exactly the items its step is done with. -/
structure TurnFits (step : PermanentDeleteStep) (turn : PermanentDeleteItemLocation → ItemTurn):
  Prop where
 real : step≠.none
 done : turn (stepLocation step)=.skip
 refuse : ∀location result,turn location=.refuse result → result.outcome=.recoveryRequired

/-- What a loop leaves where it ran to its end, and where a step was refused. -/
structure LoopDone (t : PermanentDeleteTransaction) (step : PermanentDeleteStep)
  (turn : PermanentDeleteItemLocation → ItemTurn)
  (out : PermanentDeleteTransaction × StepResult) (s : Noted DeleteState) : Prop where
 committed : out.2.outcome=.committed → Accurate cores initial out.1 s ∧ Idle out.1 ∧
  out.1.phase=t.phase ∧ ∀item∈out.1.items,turn item.location=.skip
 refused : out.2.outcome=.noCommit → Accurate cores initial out.1 s ∧ Idle out.1 ∧
  (step=.evacuate → out.1.phase=.rollback)

lemma evacuateTurn_fits : TurnFits .evacuate evacuateTurn where
 real:=nofun
 done:=rfl
 refuse location result h:=by
  cases location with
  | source=>cases h
  | temporary=>cases h
  | deleted=>cases h

lemma rollbackTurn_fits : TurnFits .rollback rollbackTurn where
 real:=nofun
 done:=rfl
 refuse location result h:=by
  cases location with
  | source=>cases h
  | temporary=>cases h
  | deleted=>cases h

lemma eraseTurn_fits : TurnFits .erase eraseTurn where
 real:=nofun
 done:=rfl
 refuse location result h:=by
  cases location with
  | source=>
   cases h
   rfl
  | temporary=>cases h
  | deleted=>cases h

variable {cores initial} {step : PermanentDeleteStep}
 {turn : PermanentDeleteItemLocation → ItemTurn}

lemma wp_stepItems (hturn:TurnFits step turn) (indexes : List ℕ)
 (t : PermanentDeleteTransaction) (s : Noted DeleteState) (h:Accurate cores initial t s)
 (hidle:Idle t) (hinside:∀i∈indexes,i<t.items.length)
 (hpassed:∀i<t.items.length,i∉indexes → turn (itemAt t i).location=.skip):
 wp (notingWorld cores) (KeptIn cores initial) (LoopDone cores initial t step turn)
  (stepItems step turn indexes t) s:=by
 induction indexes generalizing t s with
 | nil=>
  refine ⟨h.safe,fun _=>⟨h,hidle,rfl,fun item hmem=>?_⟩,nofun⟩
  obtain ⟨i,hi,rfl⟩:=List.mem_iff_getElem.mp hmem
  rw [←itemAt_eq hi]
  exact hpassed i hi List.not_mem_nil
 | cons index rest ih=>
  have hindex:=hinside index List.mem_cons_self
  have hrest:∀i∈rest,i<t.items.length:=fun i hi =>
   hinside i (List.mem_cons_of_mem index hi)
  unfold stepItems
  cases hlocation:turn (itemAt t index).location with
  | refuse result=>
   have hresult:=hturn.refuse _ _ hlocation
   exact ⟨h.safe,by simp [hresult],by simp [hresult]⟩
  | skip=>
   refine ih t s h hidle hrest fun i hi hmem=>?_
   by_cases hself:i=index
   · rw [hself]
     exact hlocation
   · exact hpassed i hi (by simp [hself,hmem])
  | run=>
   change wp _ _ _ (executeStep t index step >>= _) s
   rw [wp_bind]
   refine wp_consequence (wp_executeStep h hidle hindex hturn.real) ?_
   rintro ⟨stepped,result⟩ s' hkept hdone
   dsimp only
   split
   · next hcommitted =>
     obtain ⟨hafter,hidle',hphase,item,hitem,hitems⟩:=hdone.committed hcommitted
     have hlength:stepped.items.length=t.items.length:=by
      rw [hitems,List.length_set]
     have hloop:=ih stepped s' hafter hidle' (hlength ▸ hrest) fun i hi hmem=>?_
     · exact wp_mono (fun _ h=>h)
        (fun out s'' hout=>⟨fun hend=>hphase ▸ hout.committed hend,hout.refused⟩) hloop
     · have hnext:itemAt stepped i=itemAt (setItem t index item) i:=by
        unfold itemAt setItem
        rw [hitems]
       rw [hnext]
       by_cases hself:i=index
       · rw [hself,itemAt_set_self hindex,hitem]
         exact hturn.done
       · rw [itemAt_set_other hself]
         exact hpassed i (hlength ▸ hi) (by simp [hself,hmem])
   · next hcommitted => exact ⟨hkept,fun h=>absurd h hcommitted,hdone.refused⟩

end Loops

variable {item : PermanentDeleteItem} {directory : ObjectNames}

section Phases
variable (cores : List ItemCore) (initial : ObjectNames)

/-- What a run that ended has promised. -/
structure Ended (result : PermanentDeleteResult) (s : Noted DeleteState) : Prop where
 success : result.status=.success → s.state.journal = ⟨none,none⟩ ∧
  AllGone cores s.state.directory
 rolledBack : result.status=.rolledBack → s.state.journal = ⟨none,none⟩ ∧
  AllAt cores (·.source) s.state.directory

variable {cores initial} {t : PermanentDeleteTransaction} {s : Noted DeleteState}

lemma ended_recovery (t : PermanentDeleteTransaction) (result : StepResult)
 (s : Noted DeleteState) : Ended cores (recoveryResult t result) s:=by
 cases h:result.outcome with
 | committed=>exact ⟨by simp [recoveryResult,h],by simp [recoveryResult,h]⟩
 | noCommit=>exact ⟨by simp [recoveryResult,h],by simp [recoveryResult,h]⟩
 | recoveryRequired=>exact ⟨by simp [recoveryResult,h],by simp [recoveryResult,h]⟩
 | journalError=>exact ⟨by simp [recoveryResult,h],by simp [recoveryResult,h]⟩
 | stopped=>exact ⟨by simp [recoveryResult,h],by simp [recoveryResult,h]⟩

lemma ended_failure (total : ℕ) (detail : Bytes) (s : Noted DeleteState):
 Ended cores (journalFailure total detail) s:=
 ⟨by simp [journalFailure],by simp [journalFailure]⟩

lemma placed_source (hexpected:expectedCurrent item) (hlocation:item.location=.source)
 (h:Placed directory item) : At directory (identityOf item) (nameOf item.source):=by
 rw [expectedCurrent,hlocation] at hexpected
 rw [Placed,placeOf,if_neg (by simp [hlocation]),nameOf_same hexpected] at h
 exact stands_some.mp h

lemma placed_temporary (hexpected:expectedCurrent item) (hlocation:item.location=.temporary)
 (h:Placed directory item) : At directory (identityOf item) (nameOf item.temporary):=by
 rw [expectedCurrent,hlocation] at hexpected
 rw [Placed,placeOf,if_neg (by simp [hlocation]),nameOf_same hexpected] at h
 exact stands_some.mp h

lemma placed_deleted (hlocation:item.location=.deleted) (h:Placed directory item):
 Gone directory (identityOf item):=by
 rw [Placed,placeOf,if_pos hlocation] at h
 exact stands_none.mp h

lemma item_paths (hvalid:DeleteValid t) {item : PermanentDeleteItem} (hmem:item∈t.items):
 expectedCurrent item ∧ locationAllowed t.phase item.location:=by
 have hpaths:=(hvalid.items item hmem).paths
 simp only [itemPathsConsistent,Bool.and_eq_true] at hpaths
 exact ⟨hpaths.1.2,hpaths.2⟩

lemma all_cores {motive : ItemCore → Prop} {noted : Prop} (h:Describes cores directory noted t)
 (hidle:Idle t) (hitem:∀item∈t.items,Placed directory item → motive (coreOf item)):
 ∀core∈cores,motive core:=by
 intro core hcore
 rw [←h.cores,coresOf,List.mem_map] at hcore
 obtain ⟨item,hmem,rfl⟩:=hcore
 obtain ⟨i,hi,rfl⟩:=List.mem_iff_getElem.mp hmem
 have hplaced:=h.all hidle i hi
 rw [itemAt_eq hi] at hplaced
 exact hitem _ hmem hplaced

lemma wp_movePhase {phase : PermanentDeletePhase}
 {next : PermanentDeleteTransaction → DeleteProg PermanentDeleteResult}
 (h:Accurate cores initial t s) (hidle:Idle t)
 (htemporary:phase=.deleting → AllAt cores (·.temporary) s.state.directory)
 (hnext:∀s',Accurate cores initial { t with phase:=phase } s' →
  wp (notingWorld cores) (KeptIn cores initial) (Ended cores) (next { t with phase:=phase }) s'):
 wp (notingWorld cores) (KeptIn cores initial) (Ended cores) (movePhase t phase next) s:=by
 rw [movePhase,wp_bind]
 refine wp_persist h (fun noted hnoted hcommits=>?_) (fun detail s' hkept=>?_) ?_
 · refine .of_all h.describes.cores hidle (fun hphase=>?_) fun i hi=>h.describes.all hidle i hi
   exact hcommits ⟨hphase,h.describes.cores,htemporary hphase⟩
 · exact ⟨hkept,ended_recovery _ _ s'⟩
 · exact fun s' hafter _=>hnext s' hafter

section
variable (h:Accurate cores initial t s)
include h

/-- A run ends by removing the journal; a removal that is cut or fails may uncover
  an older record, which describes the directory as well. -/
lemma wp_finish (hidle:Idle t)
 (hsettled:AllOrNothing cores s) {completed total : ℕ} {finished : PermanentDeleteResult}
 (hsuccess:finished.status=.success → AllGone cores s.state.directory)
 (hback:finished.status=.rolledBack → AllAt cores (·.source) s.state.directory):
 wp (notingWorld cores) (KeptIn cores initial) (Ended cores) (finish completed total finished)
  s:=by
 have hkept:∀ {journal : Generations} {noted : Prop},RemoveStep s.state.journal journal →
   (s.noted → noted) → KeptIn cores initial ⟨⟨journal,s.state.directory⟩,noted⟩:=by
  intro journal noted hstep hnoted
  have hbefore:=h.note hnoted
  refine ⟨hbefore.recorded.removeStep hidle hbefore.describes ?_ hstep,h.others⟩
  exact hsettled.imp_right fun hgone=>⟨hgone.1,hnoted hgone.2⟩
 rw [finish,wp_bind]
 refine ⟨h.safe,?_,?_⟩
 · rintro ⟨⟨journal,directory⟩,noted⟩ ⟨⟨rfl,hstep⟩,hnoted⟩
   exact hkept hstep (or_imp.mp hnoted.mpr).1
 · rintro reply ⟨⟨journal,directory⟩,noted⟩ ⟨⟨rfl,hremoved⟩,hnoted⟩
   have hbefore:=(or_imp.mp hnoted.mpr).1
   dsimp only at hremoved
   cases hremoved with
   | removed=>
    have hall:KeptIn cores initial ⟨⟨⟨none,none⟩,s.state.directory⟩,noted⟩:=
     ⟨.empty rfl (hsettled.imp_right fun hgone=>⟨hgone.1,hbefore hgone.2⟩),h.others⟩
    refine ⟨hall,hall,fun hstatus=>?_,fun hstatus=>?_⟩
    · exact ⟨rfl,hsuccess hstatus⟩
    · exact ⟨rfl,hback hstatus⟩
   | failed detail after hstep=>
    have hleft:=hkept hstep hbefore
    exact ⟨hleft,hleft,nofun,nofun⟩

lemma wp_rollback (hidle:Idle t)
 (hphase:t.phase=.rollback):
 wp (notingWorld cores) (KeptIn cores initial) (Ended cores) (rollback t) s:=by
 have hloop:=wp_stepItems rollbackTurn_fits (List.range t.items.length).reverse t s h hidle
  (by simp) fun i hi hmem=>absurd hi (by simpa using hmem)
 rw [rollback,wp_bind]
 refine wp_consequence hloop ?_
 rintro ⟨last,result⟩ s' hkept hdone
 dsimp only
 split
 · exact ⟨hkept,ended_recovery _ _ s'⟩
 · next hcommitted =>
   obtain ⟨hafter,hidle',hphase',hpassed⟩:=hdone.committed (not_not.mp hcommitted)
   have hsources:AllAt cores (·.source) s'.state.directory:=by
    refine all_cores hafter.describes hidle' fun item hmem hplaced=>?_
    obtain ⟨hexpected,hallowed⟩:=item_paths hafter.valid hmem
    have hskip:=hpassed item hmem
    rw [hphase',hphase] at hallowed
    cases hlocation:item.location with
    | source=>exact placed_source hexpected hlocation hplaced
    | temporary=>
     rw [hlocation] at hskip
     cases hskip
    | deleted=>simp [hlocation,locationAllowed] at hallowed
   exact wp_finish hafter hidle' (.inl hsources) nofun fun _=>hsources

lemma wp_erase (hidle:Idle t) (hphase:t.phase=.deleting):
 wp (notingWorld cores) (KeptIn cores initial) (Ended cores) (erase t) s:=by
 have hloop:=wp_stepItems eraseTurn_fits (List.range t.items.length) t s h hidle (by simp)
  fun i hi hmem=>absurd hi (by simpa using hmem)
 rw [erase,wp_bind]
 refine wp_consequence hloop ?_
 rintro ⟨last,result⟩ s' hkept hdone
 dsimp only
 split
 · exact ⟨hkept,ended_recovery _ _ s'⟩
 · next hcommitted =>
   obtain ⟨hafter,hidle',hphase',hpassed⟩:=hdone.committed (not_not.mp hcommitted)
   have hgone:AllGone cores s'.state.directory:=by
    refine all_cores hafter.describes hidle' fun item hmem hplaced=>?_
    have hskip:=hpassed item hmem
    cases hlocation:item.location with
    | source=>
     rw [hlocation] at hskip
     cases hskip
    | temporary=>
     rw [hlocation] at hskip
     cases hskip
    | deleted=>exact placed_deleted hlocation hplaced
   have hnoted:=hafter.describes.committed (hphase'.trans hphase)
   exact wp_finish hafter hidle' (.inr ⟨hgone,hnoted⟩) (fun _=>hgone) nofun

lemma wp_finishPhases (hidle:Idle t):
 wp (notingWorld cores) (KeptIn cores initial) (Ended cores) (finishPhases t) s:=by
 unfold finishPhases
 split
 · next hphase => exact wp_erase h hidle hphase
 · next hphase => exact wp_rollback h hidle hphase
 · exact ⟨h.safe,nofun,nofun⟩

lemma wp_fromIntent (hidle:Idle t):
 wp (notingWorld cores) (KeptIn cores initial) (Ended cores) (fromIntent t) s:=by
 unfold fromIntent
 split
 · next hphase =>
   refine wp_movePhase h hidle (fun _=>?_) fun s' hafter=>wp_finishPhases hafter hidle
   refine all_cores h.describes hidle fun item hmem hplaced=>?_
   obtain ⟨hexpected,hallowed⟩:=item_paths h.valid hmem
   rw [hphase] at hallowed
   exact placed_temporary hexpected (of_decide_eq_true hallowed) hplaced
 · exact wp_finishPhases h hidle

lemma wp_evacuate (hidle:Idle t):
 wp (notingWorld cores) (KeptIn cores initial) (Ended cores) (evacuate t) s:=by
 have hloop:=wp_stepItems evacuateTurn_fits (List.range t.items.length) t s h hidle (by simp)
  fun i hi hmem=>absurd hi (by simpa using hmem)
 rw [evacuate,wp_bind]
 refine wp_consequence hloop ?_
 rintro ⟨last,result⟩ s' hkept hdone
 dsimp only
 split
 · next hcommitted =>
   obtain ⟨hafter,hidle',-⟩:=hdone.committed hcommitted
   exact wp_movePhase hafter hidle' nofun fun s'' hafter'=>wp_fromIntent hafter' hidle'
 · next hrefused =>
   obtain ⟨hafter,hidle',hphase⟩:=hdone.refused hrefused
   exact wp_rollback hafter hidle' (hphase rfl)
 · exact ⟨hkept,ended_recovery _ _ s'⟩

lemma wp_fromEvacuating (hidle:Idle t):
 wp (notingWorld cores) (KeptIn cores initial) (Ended cores) (fromEvacuating t) s:=by
 unfold fromEvacuating
 split
 · exact wp_evacuate h hidle
 · exact wp_fromIntent h hidle

lemma wp_fromPrepared (hidle:Idle t):
 wp (notingWorld cores) (KeptIn cores initial) (Ended cores) (fromPrepared t) s:=by
 unfold fromPrepared
 split
 · exact wp_movePhase h hidle nofun fun s' hafter=>wp_fromEvacuating hafter hidle
 · exact wp_fromEvacuating h hidle

lemma wp_continueTransaction:
 wp (notingWorld cores) (KeptIn cores initial) (Ended cores) (continueTransaction t) s:=by
 unfold continueTransaction
 split
 · next hactive =>
   rw [wp_bind]
   refine wp_consequence (wp_reconcileActive h hactive) ?_
   rintro ⟨reconciled,result⟩ s' hkept hdone
   dsimp only
   split
   · next hcommitted =>
     obtain ⟨hafter,hidle,-⟩:=hdone.committed hcommitted
     exact wp_fromPrepared hafter hidle
   · next hrefused =>
     obtain ⟨hafter,hidle,-⟩:=hdone.refused hrefused
     split
     · exact wp_fromPrepared hafter hidle
     · exact ⟨hkept,ended_recovery _ _ s'⟩
   · exact ⟨hkept,ended_recovery _ _ s'⟩
 · next hidle => exact wp_fromPrepared h (not_not.mp hidle)

end

end Phases

end VoVe.DeleteRunRule
