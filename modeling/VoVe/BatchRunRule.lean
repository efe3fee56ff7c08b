import VoVe.BatchRunShape

set_option autoImplicit false

namespace VoVe.BatchRunRule
open ByteCodec EffectProgram FileOperation OperationRequest BatchTransaction
open BatchRenameCoordinator BatchRunShape

/-- Whether a step takes one item before another. -/
def Earlier : BatchStepKind → ℕ → ℕ → Prop
 | .rollback, i, j=>j < i
 | _, i, j=>i < j

variable {step : BatchStepKind} {i index : ℕ} {t : BatchRenameTransaction}
 {out : BatchRenameTransaction × StepResult}

lemma Earlier.irrefl : ¬Earlier step i i:=by
 cases step with
 | none=>exact lt_irrefl i
 | evacuate=>exact lt_irrefl i
 | rollback=>exact lt_irrefl i
 | publish=>exact lt_irrefl i

lemma Earlier.asymm {j : ℕ} (h:Earlier step i j) : ¬Earlier step j i:=by
 cases step with
 | none=>exact lt_asymm h
 | evacuate=>exact lt_asymm h
 | rollback=>exact lt_asymm h
 | publish=>exact lt_asymm h

def Next (transaction : BatchRenameTransaction) (index : ℕ) (step : BatchStepKind) : Prop:=
 ∀other < transaction.items.length,Earlier step other index →
  (itemAt transaction other).location≠stepStart step

variable {σ : Type}

/-- What the world promises: `recorded` that a transaction is the journal's last,
  `good` that it describes the state, `told` that a result of its active step
  does, `done` what holds once a run has removed the journal. -/
structure BatchContract (W : World BatchOp BatchReply σ) (crash : σ → Prop) where
 recorded : BatchRenameTransaction → σ → Prop
 good : BatchRenameTransaction → σ → Prop
 told : BatchRenameTransaction → OperationResult → σ → Prop
 done : BatchRunStatus → σ → Prop
 safe {t : BatchRenameTransaction} {s : σ} : recorded t s → good t s → crash s
 stops {s s' : σ} {reply : Bool} : W.answers .stopRequested s reply s' → s'=s
 stopsCut {s s' : σ} : W.cut .stopRequested s s' → s'=s
 persists {t next : BatchRenameTransaction} {s : σ} (shape : BatchShape next):
  recorded t s → good t s → good next s →
  wp W crash (fun reply s'=>reply=.ok () → recorded next s' ∧ ∀u,good u s → good u s')
   (persist next) s
 executes {t : BatchRenameTransaction} {s : σ} {index : ℕ} {step : BatchStepKind}
  (shape : BatchShape t) (idle : Idle t) (fits : StepFits t index step):
  recorded (beginStep t index step) s → good t s → good (beginStep t index step) s →
  wp W crash (fun result s'=>recorded (beginStep t index step) s' ∧
    told (beginStep t index step) result s')
   (submitAndWait (requestFor (beginStep t index step) index step) false) s
 reconciles {t : BatchRenameTransaction} {s : σ} (shape : BatchShape t) (active : ¬Idle t):
  recorded t s → good t s →
  wp W crash (fun result s'=>recorded t s' ∧ told t result s')
   (submitAndWait (requestFor t t.activeIndex.toNat t.activeStep) true) s
 told_good {t : BatchRenameTransaction} {r : OperationResult} {s : σ} : told t r s → good t s
 told_describe {t : BatchRenameTransaction} {r : OperationResult} {s : σ}:
  told t r s → told t (describe t.activeStep t.activeIndex.toNat r) s
 told_merge {t : BatchRenameTransaction} {r : OperationResult} {s : σ} (shape : BatchShape t)
  (evidence : t.activeEvidence≠.none) : told t r s →
  told t (mergeReconciliation (recordedAttempt t
   (requestFor t t.activeIndex.toNat t.activeStep)) r) s
 told_moved {t : BatchRenameTransaction} {r : OperationResult} {s : σ} (shape : BatchShape t)
  (active : ¬Idle t) (trust : trustworthy (itemAt t t.activeIndex.toNat) r) : told t r s →
  good (forgetFailure (clearActive (setItem t t.activeIndex.toNat
   (moved (itemAt t t.activeIndex.toNat) t.activeStep r.confirmedSnapshot)))) s
 told_untrusted {t : BatchRenameTransaction} {r : OperationResult} {s : σ}
  (active : ¬Idle t) (ok : r.ok) : told t r s →
  good (recordFailure t .unknownOutcome r.evidence untrustworthyDetail) s
 told_uncertain {t : BatchRenameTransaction} {r : OperationResult} {s : σ} (active : ¬Idle t)
  (failed : ¬r.ok) (evidence : r.evidence≠.noCommit) : told t r s →
  good (recordFailure t r.status r.evidence r.detailUtf8) s
 told_refused {t : BatchRenameTransaction} {r : OperationResult} {s : σ} (active : ¬Idle t)
  (failed : ¬r.ok) (evidence : r.evidence=.noCommit) : told t r s →
  good (refused t t.activeStep r) s
 told_cleared {t : BatchRenameTransaction} {r : OperationResult} {s : σ} (active : ¬Idle t)
  (failed : ¬r.ok) (evidence : r.evidence=.noCommit) : told t r s →
  good (forgetFailure (clearActive t)) s
 begins {t : BatchRenameTransaction} {s : σ} {index : ℕ} {step : BatchStepKind}
  (shape : BatchShape t) (idle : Idle t) (fits : StepFits t index step)
  (next : Next t index step) : good t s → good (beginStep t index step) s
 moves {t : BatchRenameTransaction} {s : σ} {phase : BatchTransactionPhase} (idle : Idle t):
  good t s → good { t with phase:=phase } s
 publishes {t : BatchRenameTransaction} {s : σ} (shape : BatchShape t) (idle : Idle t)
  (all : ∀item∈t.items,item.location=.destination) : recorded t s → good t s →
  wp W crash (fun reply s'=>reply=.ok () → done .success s') removeJournal s
 retreats {t : BatchRenameTransaction} {s : σ} (shape : BatchShape t) (idle : Idle t)
  (all : ∀item∈t.items,item.location=.source) : recorded t s → good t s →
  wp W crash (fun reply s'=>reply=.ok () → done .rolledBack s') removeJournal s

namespace BatchContract
variable {W : World BatchOp BatchReply σ} {crash : σ → Prop} (C : BatchContract W crash)

/-- A point between two steps: the transaction is recorded and describes the state. -/
structure At (t : BatchRenameTransaction) (s : σ) : Prop where
 shape : BatchShape t
 recorded : C.recorded t s
 good : C.good t s

lemma At.safe {C : BatchContract W crash} {s : σ} (h:C.At t s):
 crash s := C.safe h.recorded h.good

section Operations
variable {C} {t next : BatchRenameTransaction} {s : σ}

lemma wp_persist (h:C.At t s) (hshape:BatchShape next) (hgood:C.good next s)
 {post : Except Bytes Unit → σ → Prop} (herror:∀detail s',crash s' → post (.error detail) s')
 (hok:∀s',C.At next s' → C.good t s' → post (.ok ()) s'):
 wp W crash post (persist next) s:=by
 refine wp_consequence (C.persists hshape h.recorded h.good hgood) fun reply s' hcrash hreply=>?_
 cases reply with
 | error detail=>exact herror detail s' hcrash
 | ok u=>
  obtain ⟨hrecorded,hkept⟩:=hreply rfl
  exact hok s' ⟨hshape,hrecorded,hkept next hgood⟩ (hkept t h.good)

lemma wp_stopRequested (contract : BatchContract W crash) {post : Bool → σ → Prop} (hcrash:crash s) (h:∀stop,post stop s):
 wp W crash post stopRequested s:=by
 refine ⟨hcrash,fun s' hcut=>?_,fun stop s' hanswer=>?_⟩
 · rw [contract.stopsCut hcut]
   exact hcrash
 · rw [contract.stops hanswer]
   exact ⟨hcrash,h stop⟩

lemma wp_record (h:C.At t s) (hshape:BatchShape next) (hgood:C.good next s)
 {detailOf : Bytes → Bytes} {stopped settled : StepResult}
 {post : BatchRenameTransaction × StepResult → σ → Prop}
 (herror:∀detail s',post (next,.journalError detail) s')
 (hstopped:∀s',post (next,stopped) s')
 (hsettled:∀s',C.At next s' → post (next,settled) s'):
 wp W crash post (record next detailOf stopped settled) s:=by
 rw [record,wp_bind]
 refine wp_persist h hshape hgood (fun detail s' hcrash=>⟨hcrash,herror _ s'⟩) fun s' hat _=>?_
 rw [wp_bind]
 refine wp_stopRequested C hat.safe fun stop=>?_
 cases stop with
 | true=>exact ⟨hat.safe,hstopped s'⟩
 | false=>exact ⟨hat.safe,hsettled s' hat⟩

end Operations

/-- What a step leaves: committed it moved its item, refused it moved nothing
  and the operation goes on in the phase `turned`. -/
structure StepDone (t : BatchRenameTransaction) (index : ℕ) (step : BatchStepKind)
  (turned : BatchTransactionPhase) (out : BatchRenameTransaction × StepResult) (s : σ):
  Prop where
 committed : out.2.outcome=.committed → C.At out.1 s ∧ Idle out.1 ∧ out.1.phase=t.phase ∧
  ∃ item,item.location=stepLocation step ∧ out.1.items=t.items.set index item
 refused : out.2.outcome=.noCommit → C.At out.1 s ∧ Idle out.1 ∧ out.1.phase=turned ∧
  out.1.items=t.items

lemma stepDone_ended {turned : BatchTransactionPhase} {s : σ}
 (hcommitted:out.2.outcome≠.committed) (hrefused:out.2.outcome≠.noCommit):
 C.StepDone t index step turned out s:=
 ⟨fun h=>absurd h hcommitted,fun h=>absurd h hrefused⟩

section Steps
variable {C} {t : BatchRenameTransaction} {s : σ} {r : OperationResult}
 {turned : BatchTransactionPhase}

section
variable (hshape:BatchShape t)
include hshape

lemma wp_settleSuccess (hactive:¬Idle t) (hrecorded:C.recorded t s)
 (htold:C.told t r s) (hok:r.ok) (stopDetail : String):
 wp W crash (C.StepDone t t.activeIndex.toNat t.activeStep turned)
  (settleSuccess t t.activeIndex.toNat t.activeStep r stopDetail) s:=by
 have hat:C.At t s:=⟨hshape,hrecorded,C.told_good htold⟩
 have hfits:=hshape.active hactive
 unfold settleSuccess applySuccess
 by_cases htrust:trustworthy (itemAt t t.activeIndex.toNat) r
 · have hmoved:=(hshape.moved hfits htrust).forgetFailure rfl
   rw [if_pos htrust]
   refine wp_record hat hmoved (C.told_moved hshape hactive htrust htold) ?_ ?_ ?_
   · exact fun detail s'=>C.stepDone_ended nofun nofun
   · exact fun s'=>C.stepDone_ended nofun nofun
   · refine fun s' hafter=>⟨fun _=>⟨hafter,?_,?_,?_⟩,nofun⟩
     · exact forgetFailure_activeStep
     · exact forgetFailure_phase
     · exact ⟨moved _ _ _,rfl,forgetFailure_items⟩
 · have hfailed:=hshape.recordFailure hactive .unknownOutcome nofun r.evidence
    untrustworthyDetail
   rw [if_neg htrust]
   change wp W crash _ (persist _ >>= _) s
   rw [wp_bind]
   refine wp_persist hat hfailed (C.told_untrusted hactive hok htold) ?_ ?_
   · exact fun detail s' hcrash=>⟨hcrash,C.stepDone_ended nofun nofun⟩
   · exact fun s' hafter _=>⟨hafter.safe,C.stepDone_ended nofun nofun⟩

lemma wp_settleEvidence (hactive:¬Idle t) (hrecorded:C.recorded t s)
 (htold:C.told t r s) (hfailed:¬r.ok) (hevidence:r.evidence≠.noCommit)
 (stopDetail : String) : wp W crash (C.StepDone t t.activeIndex.toNat t.activeStep turned)
  (settleEvidence t r stopDetail) s:=by
 have hat:C.At t s:=⟨hshape,hrecorded,C.told_good htold⟩
 have hstatus:r.status≠.success:=by simpa [OperationResult.ok] using hfailed
 refine wp_record hat (hshape.recordFailure hactive _ hstatus r.evidence r.detailUtf8)
  (C.told_uncertain hactive hfailed hevidence htold) ?_ ?_ ?_
 · exact fun detail s'=>C.stepDone_ended (by rintro ⟨⟩) (by rintro ⟨⟩)
 · exact fun s'=>C.stepDone_ended (by rintro ⟨⟩) (by rintro ⟨⟩)
 · exact fun s' _=>C.stepDone_ended (by simp) (by simp)

lemma wp_settleExecution (hactive:¬Idle t)
 (hrecorded:C.recorded t s) (htold:C.told t r s):
 wp W crash (C.StepDone t t.activeIndex.toNat t.activeStep
   (if t.activeStep=.evacuate then .rollback else t.phase))
  (settleExecution t t.activeIndex.toNat t.activeStep r) s:=by
 have hat:C.At t s:=⟨hshape,hrecorded,C.told_good htold⟩
 unfold settleExecution
 by_cases hok:r.ok
 · rw [if_pos hok]
   exact wp_settleSuccess hshape hactive hrecorded htold hok _
 · rw [if_neg hok]
   by_cases hevidence:r.evidence=.noCommit
   · rw [if_pos hevidence]
     refine wp_record hat (hshape.refused (hshape.active hactive) r)
      (C.told_refused hactive hok hevidence htold) ?_ ?_ ?_
     · exact fun detail s'=>C.stepDone_ended nofun nofun
     · exact fun s'=>C.stepDone_ended nofun nofun
     · exact fun s' hafter=>⟨nofun,fun _=>⟨hafter,rfl,rfl,rfl⟩⟩
   · rw [if_neg hevidence]
     exact wp_settleEvidence hshape hactive hrecorded htold hok hevidence _

lemma wp_settleReconciliation (hactive:¬Idle t)
 (hrecorded:C.recorded t s) (htold:C.told t r s):
 wp W crash (C.StepDone t t.activeIndex.toNat t.activeStep t.phase)
  (settleReconciliation t t.activeIndex.toNat t.activeStep r) s:=by
 have hat:C.At t s:=⟨hshape,hrecorded,C.told_good htold⟩
 unfold settleReconciliation
 by_cases hok:r.ok
 · rw [if_pos hok]
   exact wp_settleSuccess hshape hactive hrecorded htold hok _
 · rw [if_neg hok]
   by_cases hevidence:r.evidence=.noCommit
   · rw [if_pos hevidence]
     refine wp_record hat (hshape.clearActive.forgetFailure rfl)
      (C.told_cleared hactive hok hevidence htold) ?_ ?_ ?_
     · exact fun detail s'=>C.stepDone_ended nofun nofun
     · exact fun s'=>C.stepDone_ended nofun nofun
     · refine fun s' hafter=>⟨nofun,fun _=>⟨hafter,?_,?_,?_⟩⟩
       · exact forgetFailure_activeStep
       · exact forgetFailure_phase
       · exact forgetFailure_items
   · rw [if_neg hevidence]
     exact wp_settleEvidence hshape hactive hrecorded htold hok hevidence _

lemma wp_attempt (hidle:Idle t) (hfits:StepFits t index step)
 (hat:C.At (beginStep t index step) s) (hgood:C.good t s) {post : OperationResult → σ → Prop}
 (hpost:∀result s',C.recorded (beginStep t index step) s' →
  C.told (beginStep t index step) result s' → post result s'):
 wp W crash post (attempt (requestFor (beginStep t index step) index step)) s:=by
 have hindex:(beginStep t index step).activeIndex.toNat=index:=
  toNat_activeIndex hshape hfits.inside
 rw [attempt,wp_bind]
 refine wp_consequence (C.executes hshape hidle hfits hat.recorded hgood hat.good) ?_
 rintro attempted s' hcrash ⟨hrecorded,htold⟩
 split
 · rw [wp_bind]
   refine wp_stopRequested C hcrash fun stop=>?_
   cases stop with
   | true=>exact ⟨hcrash,hpost attempted s' hrecorded htold⟩
   | false=>
    have hreconcile:=C.reconciles hat.shape hfits.real hrecorded (C.told_good htold)
    rw [hindex] at hreconcile
    exact wp_mono (fun _ h=>h) (fun result s'' h=>hpost result s'' h.1 h.2) hreconcile
 · exact ⟨hcrash,hpost attempted s' hrecorded htold⟩

end

lemma wp_executeStep (h:C.At t s) (hidle:Idle t) (hfits:StepFits t index step)
 (hnext:Next t index step):
 wp W crash (C.StepDone t index step (if step=.evacuate then .rollback else t.phase))
  (executeStep t index step) s:=by
 have hbegun:=h.shape.beginStep hfits
 have hindex:(beginStep t index step).activeIndex.toNat=index:=
  toNat_activeIndex h.shape hfits.inside
 have hactive:¬Idle (beginStep t index step):=hfits.real
 rw [executeStep,wp_bind]
 refine wp_persist h hbegun (C.begins h.shape hidle hfits hnext h.good) ?_ fun s' hat hgood=>?_
 · exact fun detail s' hcrash=>⟨hcrash,C.stepDone_ended nofun nofun⟩
 · rw [wp_bind]
   refine wp_attempt h.shape hidle hfits hat hgood fun result s'' hrecorded htold=>?_
   have hsettle:=wp_settleExecution hbegun hactive hrecorded (C.told_describe htold)
   rw [hindex] at hsettle
   exact wp_mono (fun _ h=>h) (fun out s'' hout=>⟨hout.committed,hout.refused⟩) hsettle

end Steps

structure TurnFits (step : BatchStepKind) (turn : BatchItemLocation → LoopTurn) : Prop where
 real : step≠.none
 arrives : stepLocation step≠stepStart step
 run : ∀location,turn location=.run → location=stepStart step
 skip : ∀location,turn location=.skip → location≠stepStart step
 refuse : ∀location result,turn location=.refuse result → result.outcome=.recoveryRequired

lemma evacuateTurn_fits : TurnFits .evacuate evacuateTurn where
 real:=nofun
 arrives:=nofun
 run location h:=by
  cases location with
  | source=>rfl
  | temporary=>cases h
  | destination=>cases h
 skip location h:=by
  rintro rfl
  cases h
 refuse location result h:=by
  cases location with
  | source=>cases h
  | temporary=>cases h
  | destination=>cases h

lemma rollbackTurn_fits : TurnFits .rollback rollbackTurn where
 real:=nofun
 arrives:=nofun
 run location h:=by
  cases location with
  | source=>cases h
  | temporary=>rfl
  | destination=>cases h
 skip location h:=by
  rintro rfl
  cases h
 refuse location result h:=by
  cases location with
  | source=>cases h
  | temporary=>cases h
  | destination=>cases h

lemma publishTurn_fits : TurnFits .publish publishTurn where
 real:=nofun
 arrives:=nofun
 run location h:=by
  cases location with
  | source=>cases h
  | temporary=>rfl
  | destination=>cases h
 skip location h:=by
  rintro rfl
  cases h
 refuse location result h:=by
  cases location with
  | source=>
   cases h
   rfl
  | temporary=>cases h
  | destination=>cases h

/-- What a loop leaves where it ran to its end, and where a step was refused. -/
structure LoopDone (step : BatchStepKind) (out : BatchRenameTransaction × StepResult) (s : σ):
  Prop where
 committed : out.2.outcome=.committed → C.At out.1 s ∧ Idle out.1 ∧
  out.1.phase=stepPhase step ∧ ∀item∈out.1.items,item.location≠stepStart step
 refused : out.2.outcome=.noCommit → C.At out.1 s ∧ Idle out.1 ∧
  out.1.phase=if step=.evacuate then .rollback else stepPhase step

lemma loopDone_ended {s : σ} (hcommitted:out.2.outcome≠.committed)
 (hrefused:out.2.outcome≠.noCommit) : C.LoopDone step out s:=
 ⟨fun h=>absurd h hcommitted,fun h=>absurd h hrefused⟩

lemma passed_set {next : BatchRenameTransaction} {rest : List ℕ} {item : BatchTransactionItem}
 (hitems:next.items=t.items.set index item) (hitem:item.location≠stepStart step)
 (hpassed:∀i<t.items.length,i∉index::rest → (itemAt t i).location≠stepStart step):
 ∀i<next.items.length,i∉rest → (itemAt next i).location≠stepStart step:=by
 intro i hi hrest
 have hnext:itemAt next i=itemAt (setItem t index item) i:=by
  unfold itemAt setItem
  rw [hitems]
 rw [hitems,List.length_set] at hi
 rw [hnext]
 by_cases hindex:i=index
 · rw [hindex,itemAt_set_self item (hindex ▸ hi)]
   exact hitem
 · rw [itemAt_set_other item hindex]
   exact hpassed i hi (by simp [hindex,hrest])

section Loops
variable {C} {step : BatchStepKind} {turn : BatchItemLocation → LoopTurn}

/-- The loop rule: the items still to come are in the order of the step, and
  every other item is past the place where the step starts. -/
lemma wp_stepItems (hturn:TurnFits step turn) (indexes : List ℕ) (t : BatchRenameTransaction)
 (s : σ) (hat:C.At t s) (hidle:Idle t) (hphase:t.phase=stepPhase step)
 (hinside:∀i∈indexes,i<t.items.length) (horder:indexes.Pairwise (Earlier step))
 (hpassed:∀i<t.items.length,i∉indexes → (itemAt t i).location≠stepStart step):
 wp W crash (C.LoopDone step) (stepItems step turn indexes t) s:=by
 induction indexes generalizing t s with
 | nil=>
  refine ⟨hat.safe,fun _=>⟨hat,hidle,hphase,fun item hmem=>?_⟩,nofun⟩
  obtain ⟨i,hi,rfl⟩:=List.mem_iff_getElem.mp hmem
  rw [←itemAt_eq hi]
  exact hpassed i hi List.not_mem_nil
 | cons index rest ih=>
  have hindex:=hinside index List.mem_cons_self
  obtain ⟨hfirst,horder'⟩:=List.pairwise_cons.mp horder
  have hrest:∀i∈rest,i<t.items.length:=fun i hi =>
   hinside i (List.mem_cons_of_mem index hi)
  unfold stepItems
  cases hlocation:turn (itemAt t index).location with
  | refuse result=>
   have hresult:=hturn.refuse _ _ hlocation
   exact ⟨hat.safe,C.loopDone_ended (by simp [hresult]) (by simp [hresult])⟩
  | skip=>
   refine ih t s hat hidle hphase hrest horder' fun i hi hmem=>?_
   by_cases hself:i=index
   · rw [hself]
     exact hturn.skip _ hlocation
   · exact hpassed i hi (by simp [hself,hmem])
  | run=>
   have hfits:StepFits t index step:=⟨hturn.real,hindex,hphase,hturn.run _ hlocation⟩
   have hnext:Next t index step:=by
    intro other hother hearlier
    refine hpassed other hother fun hmem=>?_
    obtain rfl | hmem:=List.mem_cons.mp hmem
    · exact Earlier.irrefl hearlier
    · exact Earlier.asymm (hfirst other hmem) hearlier
   change wp W crash _ (executeStep t index step >>= _) s
   rw [wp_bind]
   refine wp_consequence (wp_executeStep hat hidle hfits hnext) ?_
   rintro ⟨stepped,result⟩ s' hcrash hdone
   dsimp only
   split
   · next hcommitted =>
     obtain ⟨hat',hidle',hphase',item,hitem,hitems⟩:=hdone.committed hcommitted
     refine ih stepped s' hat' hidle' (hphase'.trans hphase) ?_ horder' ?_
     · rw [hitems,List.length_set]
       exact hrest
     · exact passed_set hitems (hitem ▸ hturn.arrives) hpassed
   · next hcommitted =>
     refine ⟨hcrash,fun h=>absurd h hcommitted,fun hrefused=>?_⟩
     obtain ⟨hat',hidle',hphase',-⟩:=hdone.refused hrefused
     rw [hphase] at hphase'
     exact ⟨hat',hidle',hphase'⟩

end Loops

/-- What a run that ended has promised. -/
def Ended (result : BatchRenameResult) (s : σ) : Prop:=
 (result.status = .success → C.done .success s) ∧
  (result.status = .rolledBack → C.done .rolledBack s)

lemma ended_recovery (t : BatchRenameTransaction) (result : StepResult) (s : σ):
 C.Ended (recoveryResult t result) s:=by
 cases h:result.outcome with
 | committed=>exact ⟨by simp [recoveryResult,h],by simp [recoveryResult,h]⟩
 | noCommit=>exact ⟨by simp [recoveryResult,h],by simp [recoveryResult,h]⟩
 | recoveryRequired=>exact ⟨by simp [recoveryResult,h],by simp [recoveryResult,h]⟩
 | journalError=>exact ⟨by simp [recoveryResult,h],by simp [recoveryResult,h]⟩
 | stopped=>exact ⟨by simp [recoveryResult,h],by simp [recoveryResult,h]⟩

lemma ended_failure (total : ℕ) (detail : Bytes) (s : σ):
 C.Ended (journalFailure total detail) s:=
 ⟨by simp [journalFailure],by simp [journalFailure]⟩

section Phases
variable {C} {t : BatchRenameTransaction} {s : σ}

lemma wp_movePhase {phase : BatchTransactionPhase}
 {next : BatchRenameTransaction → BatchProg BatchRenameResult} (hat:C.At t s) (hidle:Idle t)
 (hallowed:∀item∈t.items,locationAllowedInPhase phase item.location)
 (hnext:∀s',C.At { t with phase:=phase } s' →
  wp W crash C.Ended (next { t with phase:=phase }) s'):
 wp W crash C.Ended (movePhase t phase next) s:=by
 rw [movePhase,wp_bind]
 refine wp_persist hat (hat.shape.movePhase hidle hallowed) (C.moves hidle hat.good) ?_
  fun s' hat' _=>hnext s' hat'
 exact fun detail s' hcrash=>⟨hcrash,C.ended_recovery _ _ s'⟩

section
variable (hat:C.At t s)
include hat

lemma wp_rollback (hidle:Idle t) (hphase:t.phase=.rollback):
 wp W crash C.Ended (rollback t) s:=by
 have horder:(List.range t.items.length).reverse.Pairwise (Earlier .rollback):=by
  rw [List.pairwise_reverse]
  exact List.pairwise_lt_range
 have hloop:=wp_stepItems rollbackTurn_fits (List.range t.items.length).reverse t s hat hidle
  hphase (by simp) horder fun i hi hmem=>absurd hi (by simpa using hmem)
 rw [rollback,wp_bind]
 refine wp_consequence hloop ?_
 rintro ⟨last,result⟩ s' hcrash hdone
 dsimp only
 split
 · exact ⟨hcrash,C.ended_recovery _ _ s'⟩
 · next hcommitted =>
   obtain ⟨hat',hidle',hphase',hpassed⟩:=hdone.committed (not_not.mp hcommitted)
   have hall:∀item∈last.items,item.location=.source:=by
    intro item hmem
    have hallowed:=(hat'.shape.placed item hmem).allowed
    rw [hphase'] at hallowed
    have hnot:=hpassed item hmem
    cases hlocation:item.location with
    | source=>rfl
    | temporary=>exact absurd hlocation hnot
    | destination=>simp [hlocation,stepPhase,locationAllowedInPhase] at hallowed
   rw [wp_bind]
   refine wp_consequence (C.retreats hat'.shape hidle' hall hat'.recorded hat'.good) ?_
   intro reply s'' hcrash' hreply
   cases reply with
   | error detail=>exact ⟨hcrash',nofun,nofun⟩
   | ok u=>exact ⟨hcrash',nofun,fun _=>hreply rfl⟩

lemma wp_publish (hidle:Idle t) (hphase:t.phase=.publishing):
 wp W crash C.Ended (publish t) s:=by
 have hloop:=wp_stepItems publishTurn_fits (List.range t.items.length) t s hat hidle hphase
  (by simp) List.pairwise_lt_range fun i hi hmem=>absurd hi (by simpa using hmem)
 rw [publish,wp_bind]
 refine wp_consequence hloop ?_
 rintro ⟨last,result⟩ s' hcrash hdone
 dsimp only
 split
 · exact ⟨hcrash,C.ended_recovery _ _ s'⟩
 · next hcommitted =>
   obtain ⟨hat',hidle',hphase',hpassed⟩:=hdone.committed (not_not.mp hcommitted)
   have hall:∀item∈last.items,item.location=.destination:=by
    intro item hmem
    have hallowed:=(hat'.shape.placed item hmem).allowed
    rw [hphase'] at hallowed
    have hnot:=hpassed item hmem
    cases hlocation:item.location with
    | source=>simp [hlocation,stepPhase,locationAllowedInPhase] at hallowed
    | temporary=>exact absurd hlocation hnot
    | destination=>rfl
   rw [wp_bind]
   refine wp_consequence (C.publishes hat'.shape hidle' hall hat'.recorded hat'.good) ?_
   intro reply s'' hcrash' hreply
   cases reply with
   | error detail=>exact ⟨hcrash',nofun,nofun⟩
   | ok u=>exact ⟨hcrash',fun _=>hreply rfl,nofun⟩

lemma wp_finishPhases (hidle:Idle t) : wp W crash C.Ended (finishPhases t) s:=by
 unfold finishPhases
 split
 · next hphase => exact wp_publish hat hidle hphase
 · next hphase => exact wp_rollback hat hidle hphase
 · exact ⟨hat.safe,nofun,nofun⟩

lemma wp_fromCommitIntent (hidle:Idle t) : wp W crash C.Ended (fromCommitIntent t) s:=by
 unfold fromCommitIntent
 split
 · next hphase =>
   refine wp_movePhase hat hidle (fun item hmem=>?_) fun s' hat'=>wp_finishPhases hat' hidle
   have hallowed:=(hat.shape.placed item hmem).allowed
   rw [hphase] at hallowed
   simp only [locationAllowedInPhase,decide_eq_true_eq] at hallowed ⊢
   exact .inl hallowed
 · exact wp_finishPhases hat hidle

lemma wp_evacuate (hidle:Idle t) (hphase:t.phase=.evacuating):
 wp W crash C.Ended (evacuate t) s:=by
 have hloop:=wp_stepItems evacuateTurn_fits (List.range t.items.length) t s hat hidle hphase
  (by simp) List.pairwise_lt_range fun i hi hmem=>absurd hi (by simpa using hmem)
 rw [evacuate,wp_bind]
 refine wp_consequence hloop ?_
 rintro ⟨last,result⟩ s' hcrash hdone
 dsimp only
 split
 · next hcommitted =>
   obtain ⟨hat',hidle',hphase',hpassed⟩:=hdone.committed hcommitted
   refine wp_movePhase hat' hidle' (fun item hmem=>?_) fun s'' hat'' =>
    wp_fromCommitIntent hat'' hidle'
   have hallowed:=(hat'.shape.placed item hmem).allowed
   rw [hphase'] at hallowed
   have hnot:=hpassed item hmem
   cases hlocation:item.location with
   | source=>exact absurd hlocation hnot
   | temporary=>rfl
   | destination=>simp [hlocation,stepPhase,locationAllowedInPhase] at hallowed
 · next hrefused =>
   obtain ⟨hat',hidle',hphase'⟩:=hdone.refused hrefused
   exact wp_rollback hat' hidle' hphase'
 · exact ⟨hcrash,C.ended_recovery _ _ s'⟩

lemma wp_fromEvacuating (hidle:Idle t) : wp W crash C.Ended (fromEvacuating t) s:=by
 unfold fromEvacuating
 split
 · next hphase => exact wp_evacuate hat hidle hphase
 · exact wp_fromCommitIntent hat hidle

lemma wp_fromPrepared (hidle:Idle t) : wp W crash C.Ended (fromPrepared t) s:=by
 unfold fromPrepared
 split
 · next hphase =>
   refine wp_movePhase hat hidle (fun item hmem=>?_) fun s' hat'=>wp_fromEvacuating hat' hidle
   have hallowed:=(hat.shape.placed item hmem).allowed
   rw [hphase] at hallowed
   simp only [locationAllowedInPhase,decide_eq_true_eq] at hallowed ⊢
   exact .inl hallowed
 · exact wp_fromEvacuating hat hidle

lemma wp_reconcileActive (hactive:¬Idle t):
 wp W crash (C.StepDone t t.activeIndex.toNat t.activeStep t.phase) (reconcileActive t) s:=by
 rw [reconcileActive,wp_bind]
 refine wp_consequence (C.reconciles hat.shape hactive hat.recorded hat.good) ?_
 rintro observed s' hcrash ⟨hrecorded,htold⟩
 split
 · next hevidence =>
   exact wp_settleReconciliation hat.shape hactive hrecorded
    (C.told_merge hat.shape hevidence htold)
 · exact wp_settleReconciliation hat.shape hactive hrecorded htold

lemma wp_recoverActive : wp W crash C.Ended (recoverActive t) s:=by
 unfold recoverActive
 split
 · next hactive =>
   rw [wp_bind]
   refine wp_consequence (wp_reconcileActive hat hactive) ?_
   rintro ⟨reconciled,result⟩ s' hcrash hdone
   dsimp only
   split
   · next hcommitted =>
     obtain ⟨hat',hidle',-⟩:=hdone.committed hcommitted
     exact wp_fromPrepared hat' hidle'
   · next hrefused =>
     obtain ⟨hat',hidle',-⟩:=hdone.refused hrefused
     exact wp_fromPrepared hat' hidle'
   · exact ⟨hcrash,C.ended_recovery _ _ s'⟩
 · next hidle => exact wp_fromPrepared hat (not_not.mp hidle)

/-- The rule: a run of the coordinator from a recorded transaction stays within
  `crash` at every point and keeps its promise where it ends. -/
lemma wp_continueTransaction : wp W crash C.Ended (continueTransaction t) s:=by
 unfold continueTransaction
 split
 · next hturn =>
   refine wp_movePhase hat hturn.1 (fun item hmem=>?_) fun s' hat'=>wp_recoverActive hat'
   have hallowed:=(hat.shape.placed item hmem).allowed
   rw [hturn.2.1] at hallowed
   exact allowed_rollback hallowed
 · exact wp_recoverActive hat

end

end Phases

end BatchContract

end VoVe.BatchRunRule
