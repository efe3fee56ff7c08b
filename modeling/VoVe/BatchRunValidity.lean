import VoVe.BatchPreparation
import VoVe.BatchRunRule

set_option autoImplicit false

namespace VoVe.BatchRunValidity
open ByteCodec AsciiText EffectProgram FileOperation OperationRequest BatchTransaction
open BatchTransactionCodec BatchRenameCoordinator BatchRunShape BatchRunRule BatchPreparation
open CurrentOperationJournal

def confirmsSizedDirectory (request : RenameRequest) (result : OperationResult) : Bool:=
 request.objectKind = .directory && result.ok &&
  stableObjectIdentity result.confirmedSnapshot.sourceRevisionUtf8 = request.expectedIdentity &&
  result.confirmedSnapshot.sizeBytes≠0

def Shows (handed:List BatchRenameTransaction) (loaded : CurrentOperationJournalReadResult):
  Prop:=
 loaded.ok → ∃ transaction ∈ handed,encodeBatchTransaction transaction = .ok loaded.payload ∧
  loaded.encoding = .typed ∧ loaded.kind = .batchRename

/-- The transactions handed to `persist` so far, in a world where every reply is
  possible that `allowed` lets the service give. -/
def handing (allowed : RenameRequest → OperationResult → Prop):
  World BatchOp BatchReply (List BatchRenameTransaction) where
 answers o before reply after:=
  match o, reply with
  | .persist transaction, _=>after = before++[transaction]
  | .submit request _, result=>after = before ∧ allowed request result
  | .readJournal, loaded=>after = before ∧ Shows before loaded
  | _, _=>after = before
 cut o before after:=
  match o with
  | .persist transaction=>after = before ∨ after = before++[transaction]
  | _=>after = before

def EmptyDirectoriesOnly (request : RenameRequest) (result : OperationResult) : Prop:=
 confirmsSizedDirectory request result = false

def AllValid (keep : BatchRenameTransaction → Prop) (handed:List BatchRenameTransaction) : Prop:=
 ∀transaction ∈ handed,BatchValid transaction ∧ keep transaction

lemma allValid_nil (k : BatchRenameTransaction → Prop) : AllValid k []:=
 fun _ hmem=>absurd hmem List.not_mem_nil

lemma allValid_append {k : BatchRenameTransaction → Prop} {handed : List BatchRenameTransaction}
 {transaction : BatchRenameTransaction} (h:AllValid k handed)
 (hvalid:BatchValid transaction) (hkeep:k transaction):
 AllValid k (handed++[transaction]):=by
 intro other hmem
 obtain hmem | hmem:=List.mem_append.mp hmem
 · exact h other hmem
 · rw [List.mem_singleton.mp hmem]
   exact ⟨hvalid,hkeep⟩

/-- What the service may say of an active step keeps its item's directory empty. -/
def ToldEmpty (transaction : BatchRenameTransaction) (result : OperationResult) : Prop:=
 (itemAt transaction transaction.activeIndex.toNat).objectKind = .directory →
  trustworthy (itemAt transaction transaction.activeIndex.toNat) result →
  result.confirmedSnapshot.sizeBytes = 0

lemma toldEmpty_of_allowed {t : BatchRenameTransaction} {r : OperationResult}
 (h:EmptyDirectoriesOnly (requestFor t t.activeIndex.toNat t.activeStep) r):
 ToldEmpty t r:=by
 intro hkind htrust
 simp only [trustworthy,Bool.and_eq_true,decide_eq_true_eq] at htrust
 obtain ⟨⟨hok,-⟩,hidentity⟩:=htrust
 have hexpected:(requestFor t t.activeIndex.toNat t.activeStep).expectedIdentity=
   physicalId (itemAt t t.activeIndex.toNat) := rfl
 have hobject:(requestFor t t.activeIndex.toNat t.activeStep).objectKind=.directory:=hkind
 by_contra hsize
 simp [EmptyDirectoriesOnly,confirmsSizedDirectory,hobject,hok,hidentity,hexpected, hsize] at h

lemma DirectoriesEmpty.moved {t : BatchRenameTransaction} {r : OperationResult}
 (h:DirectoriesEmpty t) (htold:ToldEmpty t r)
 (htrust:trustworthy (itemAt t t.activeIndex.toNat) r):
 DirectoriesEmpty (setItem t t.activeIndex.toNat
  (moved (itemAt t t.activeIndex.toNat) t.activeStep r.confirmedSnapshot)):=by
 intro item hmem hkind
 obtain hmem | rfl:=List.mem_or_eq_of_mem_set hmem
 · exact h item hmem hkind
 · exact htold hkind htrust

lemma wp_submit {allowed : RenameRequest → OperationResult → Prop} {request : RenameRequest}
 {reconcile : Bool} {crash : List BatchRenameTransaction → Prop}
 {handed : List BatchRenameTransaction}
 {post : OperationResult → List BatchRenameTransaction → Prop} (hcrash:crash handed)
 (hpost:∀result,allowed request result → post result handed):
 wp (handing allowed) crash post (submitAndWait request reconcile) handed:=by
 refine ⟨hcrash,?_,?_⟩
 · rintro s' rfl
   exact hcrash
 · rintro result s' ⟨rfl,hallowed⟩
   exact ⟨hcrash,hpost result hallowed⟩

/-- A property of transactions that no update of the coordinator breaks. -/
structure KeptBySteps (keep : BatchRenameTransaction → Prop) : Prop where
 begins {t : BatchRenameTransaction} {index : ℕ} {step : BatchStepKind} (shape : BatchShape t)
  (fits : StepFits t index step) (next : Next t index step) : keep t → keep (beginStep t index step)
 moves {t : BatchRenameTransaction} {snapshot : SourceSnapshot} (shape : BatchShape t)
  (active : ¬Idle t)
  (same : coreOf (moved (itemAt t t.activeIndex.toNat) t.activeStep snapshot)=
   coreOf (itemAt t t.activeIndex.toNat)):
  keep t → keep (forgetFailure (clearActive (setItem t t.activeIndex.toNat
   (moved (itemAt t t.activeIndex.toNat) t.activeStep snapshot))))
 records {t : BatchRenameTransaction} {status : OperationStatus} {evidence : OperationEvidence}
  {detail : Bytes} : keep t → keep (recordFailure t status evidence detail)
 rests {t next : BatchRenameTransaction} : keep t → next.items=t.items → Idle next → keep next

lemma kept_true : KeptBySteps fun _=>True:=
 ⟨fun _ _ _ h=>h,fun _ _ _ h=>h,fun h=>h,fun h _ _=>h⟩

section Contract
variable {k keep : BatchRenameTransaction → Prop}

/-- The contract behind whatever holds of every transaction handed over. -/
def handedContract (hkeep:KeptBySteps keep):
  BatchContract (handing EmptyDirectoriesOnly) (AllValid keep) where
 recorded _ s := AllValid keep s
 good t _ := DirectoriesEmpty t ∧ keep t
 told t r _ := (DirectoriesEmpty t ∧ keep t) ∧ ToldEmpty t r
 done _ _ := True
 safe h _ := h
 stops h := h
 stopsCut h := h
 persists shape hrecorded _ hgood:=by
  have hvalid:=batchValid_iff.mpr ⟨shape,hgood.1⟩
  refine ⟨hrecorded,?_,?_⟩
  · rintro s' (rfl | rfl)
    · exact hrecorded
    · exact allValid_append hrecorded hvalid hgood.2
  · rintro reply s' rfl
    have hafter:=allValid_append hrecorded hvalid hgood.2
    exact ⟨hafter,fun _=>⟨hafter,fun _ h=>h⟩⟩
 executes shape _ fits hrecorded _ hgood:=by
  refine wp_submit hrecorded fun result hallowed=>⟨hrecorded,hgood,toldEmpty_of_allowed ?_⟩
  have hindex:=toNat_activeIndex shape fits.inside
  change EmptyDirectoriesOnly (requestFor _ (UInt32.ofNat _).toNat _) result
  rw [hindex]
  exact hallowed
 reconciles _ _ hrecorded hgood:=
  wp_submit hrecorded fun _ hallowed=>⟨hrecorded,hgood,toldEmpty_of_allowed hallowed⟩
 told_good h := h.1
 told_describe h:=by
  refine ⟨h.1,fun hkind htrust=>?_⟩
  unfold describe at htrust ⊢
  split
  · next hok =>
    rw [if_pos hok] at htrust
    exact h.2 hkind htrust
  · next hok =>
    rw [if_neg hok] at htrust
    exact absurd (trustworthy_ok htrust) hok
 told_merge shape hevidence h:=by
  refine ⟨h.1,fun hkind htrust=>?_⟩
  have hstatus:=fun hsuccess=>hevidence (shape.successEvidence hsuccess)
  obtain ⟨-,hmerged⟩:=merge_ok (decide_eq_false hstatus) (trustworthy_ok htrust)
  rw [hmerged] at htrust ⊢
  exact h.2 hkind htrust
 told_moved shape active htrust h:=by
  refine ⟨fun item hmem=>?_,hkeep.moves shape active (coreOf_moved htrust) h.1.2⟩
  rw [forgetFailure_items] at hmem
  exact DirectoriesEmpty.moved h.1.1 h.2 htrust item hmem
 told_untrusted _ _ h := ⟨h.1.1,hkeep.records h.1.2⟩
 told_uncertain _ _ _ h := ⟨h.1.1,hkeep.records h.1.2⟩
 told_refused _ _ _ h := ⟨h.1.1,hkeep.rests h.1.2 rfl rfl⟩
 told_cleared _ _ _ h:=by
  refine ⟨fun item hmem=>?_,hkeep.rests h.1.2 forgetFailure_items forgetFailure_activeStep⟩
  rw [forgetFailure_items] at hmem
  exact h.1.1 item hmem
 begins shape _ fits next h := ⟨h.1,hkeep.begins shape fits next h.2⟩
 moves idle h := ⟨h.1,hkeep.rests h.2 rfl idle⟩
 publishes _ _ _ hrecorded _:=by
  refine ⟨hrecorded,?_,?_⟩
  · rintro s' rfl
    exact hrecorded
  · rintro reply s' rfl
    exact ⟨hrecorded,fun _=>trivial⟩
 retreats _ _ _ hrecorded _:=by
  refine ⟨hrecorded,?_,?_⟩
  · rintro s' rfl
    exact hrecorded
  · rintro reply s' rfl
    exact ⟨hrecorded,fun _=>trivial⟩

lemma wp_continue (hkeep:KeptBySteps k) {t : BatchRenameTransaction}
 {s : List BatchRenameTransaction} (hvalid:BatchValid t) (ht:k t) (hs:AllValid k s):
 wp (handing EmptyDirectoriesOnly) (AllValid k) (fun _ _=>True) (continueTransaction t) s:=by
 obtain ⟨hshape,hempty⟩:=batchValid_iff.mp hvalid
 exact wp_mono (fun _ h=>h) (fun _ _ _=>trivial)
  ((handedContract hkeep).wp_continueTransaction ⟨hshape,hs,hempty,ht⟩)

lemma wp_runPrepared (hkeep:KeptBySteps k) {transaction : BatchRenameTransaction}
 (hvalid:transaction.items≠[] → BatchValid transaction)
 (ht:transaction.items≠[] → k transaction):
 wp (handing EmptyDirectoriesOnly) (AllValid k) (fun _ _=>True) (runPrepared transaction)
  []:=by
 unfold runPrepared
 split
 · exact ⟨allValid_nil k,trivial⟩
 · next hitems =>
   have hone:=allValid_append (allValid_nil k) (hvalid hitems) (ht hitems)
   refine ⟨allValid_nil k,?_,?_⟩
   · rintro s' (rfl | rfl)
     · exact allValid_nil k
     · exact hone
   · rintro reply s' rfl
     cases reply with
     | error detail=>exact ⟨hone,trivial⟩
     | ok u=>exact wp_continue hkeep (hvalid hitems) (ht hitems) hone

lemma wp_runResume (hkeep:KeptBySteps k) {s : List BatchRenameTransaction}
 (hs:AllValid k s):
 wp (handing EmptyDirectoriesOnly) (AllValid k) (fun _ _=>True) runResume s:=by
 refine ⟨hs,?_,?_⟩
 · rintro s' rfl
   exact hs
 · rintro loaded s' ⟨rfl,hshows⟩
   change wp _ _ _ (resumeFrom loaded) _
   unfold resumeFrom
   by_cases hok:loaded.ok
   · rw [if_neg (by simp [hok])]
     obtain ⟨t,hmem,hencoded,htyped,hkind⟩:=hshows hok
     rw [if_neg (by simp [hkind])]
     split
     · exact ⟨hs,trivial⟩
     · next decoded hdecoded =>
       obtain ⟨-,rfl⟩:=(decode_encodeBatchTransaction hencoded [] decoded).mp hdecoded
       rw [if_neg (by simp [htyped])]
       exact wp_continue hkeep (hs decoded hmem).1 (hs decoded hmem).2 hs
   · rw [if_pos (by simp [hok])]
     exact ⟨hs,trivial⟩

end Contract

/-- Unless the service confirms a directory with a size, every transaction that a
  run hands to `persist` passes the validator, wherever the run is cut. -/
theorem handed_valid (handed:List BatchRenameTransaction):
 (∀plan sources operationId transaction,
  prepareBatchTransaction plan sources operationId=.ok transaction →
  Leaves (handing EmptyDirectoriesOnly) (runPrepared transaction) [] handed →
  ∀next∈handed,validBatchTransaction next=.ok ()) ∧
 (∀payload detail transaction,decodeBatchTransaction payload detail=.ok transaction →
  Leaves (handing EmptyDirectoriesOnly) (continueTransaction transaction) [] handed →
  ∀next∈handed,validBatchTransaction next=.ok ()):=by
 refine ⟨fun plan sources operationId t hprepared hrun next hnext=>?_,
  fun payload detail t hdecoded hrun next hnext=>?_⟩
 · have hall:AllValid _ handed:=wp_leaves
    (wp_runPrepared kept_true (prepareBatchTransaction_valid hprepared) fun _=>trivial) hrun
   exact (validBatchTransaction_iff next).mpr (hall next hnext).1
 · have hvalid:=decodeBatchTransaction_valid hdecoded
   have hall:AllValid _ handed:=
    wp_leaves (wp_continue kept_true hvalid trivial (allValid_nil _)) hrun
   exact (validBatchTransaction_iff next).mpr (hall next hnext).1

def renameOfDirectory : BatchRenameTransaction where
 operationId:=1
 items:=[{ source:=⟨utf8 "/d/a"⟩,temporary:=⟨utf8 "/d/.vove-1-0.tmp"⟩,
           destination:=⟨utf8 "/d/b"⟩,current := ⟨utf8 "/d/a"⟩,objectKind := .directory,
           currentSnapshot:={ sourceRevisionUtf8:=utf8 "posix:1:2:3" } }]

/-- Every step succeeds and confirms the object it was asked for, `size` bytes
  long; only a valid transaction is persisted. -/
def answerWithSize (size : UInt64) : (o : BatchOp) → List BatchRenameTransaction →
  BatchReply o × List BatchRenameTransaction
 | .persist transaction, handed=>(validBatchTransaction transaction,handed++[transaction])
 | .submit request _, handed=>
  ({ status:=.success,evidence:=.committed,
     confirmedSnapshot:={ request.expectedSource with sizeBytes:=size } },handed)
 | .stopRequested, handed=>(false,handed)
 | .removeJournal, handed=>(.ok (),handed)
 | .readJournal, handed=>({},handed)

lemma renameOfDirectory_decodes:
 decodeBatchTransaction (batchPayload renameOfDirectory) []=.ok renameOfDirectory:=by
 have hencodes:encodeBatchTransaction renameOfDirectory=.ok (batchPayload renameOfDirectory):=by
  rw [encodeBatchTransaction_iff,←validBatchTransaction_iff]
  decide +kernel
 rw [(decode_encodeBatchTransaction hencodes []).iff]
 decide +kernel

lemma renameOfDirectory_prepared:
 prepareBatchTransaction { rows:=[{ source:=⟨utf8 "/d/a"⟩,destination:=⟨utf8 "/d/b"⟩ }] }
  [{ path:=⟨utf8 "/d/a"⟩,objectKind:=.directory,
     sourceRevisionUtf8:=utf8 "posix:1:2:3" }] 1=.ok renameOfDirectory:=by
 decide +kernel

/-- Prepared and run, or read from the journal and continued. -/
theorem handed_valid_directory:
 (∀next∈((runPrepared renameOfDirectory).run (answerWithSize 0) []).2,
  validBatchTransaction next=.ok ()) ∧
 (∀next∈((continueTransaction renameOfDirectory).run (answerWithSize 0) []).2,
  validBatchTransaction next=.ok ()):=by
 have hsound:∀o handed,(handing EmptyDirectoriesOnly).answers o handed
   (answerWithSize 0 o handed).1 (answerWithSize 0 o handed).2:=by
  intro o handed
  cases o with
  | persist transaction=>rfl
  | submit request reconcile=>
   exact ⟨rfl,by simp [EmptyDirectoriesOnly,confirmsSizedDirectory,answerWithSize]⟩
  | stopRequested=>rfl
  | removeJournal=>rfl
  | readJournal=>exact ⟨rfl,nofun⟩
 exact ⟨(handed_valid _).1 _ _ _ _ renameOfDirectory_prepared (run_completes hsound _ _).leaves,
  (handed_valid _).2 _ _ _ renameOfDirectory_decodes (run_completes hsound _ _).leaves⟩

/-- With a size of 4096 bytes for the evacuated directory, the coordinator hands
  over a transaction its validator refuses. -/
theorem handed_invalid_directory:
 ¬∀payload detail transaction,decodeBatchTransaction payload detail=.ok transaction →
  ∀handed,Leaves (handing fun _ _=>True) (continueTransaction transaction) [] handed →
  ∀next∈handed,validBatchTransaction next=.ok ():=by
 intro h
 have hsound:∀o handed,(handing fun _ _=>True).answers o handed
   (answerWithSize 4096 o handed).1 (answerWithSize 4096 o handed).2:=by
  intro o handed
  cases o with
  | persist transaction=>rfl
  | submit request reconcile=>exact ⟨rfl,trivial⟩
  | stopRequested=>rfl
  | removeJournal=>rfl
  | readJournal=>exact ⟨rfl,nofun⟩
 have hall:=h _ _ _ renameOfDirectory_decodes _
  (run_completes hsound (continueTransaction renameOfDirectory) []).leaves
 revert hall
 decide +kernel

/-- A prepared batch is run, and any number of recoveries from its journal follow; each run is cut
  somewhere or completes. -/
inductive Sessions : List BatchRenameTransaction → Prop
 | prepared {plan sources operationId transaction handed}
  (prepare : prepareBatchTransaction plan sources operationId = .ok transaction)
  (run : Leaves (handing EmptyDirectoriesOnly) (runPrepared transaction) [] handed):
  Sessions handed
 | resumed {handed next} (before : Sessions handed)
  (run : Leaves (handing EmptyDirectoriesOnly) runResume handed next) : Sessions next

/-- However often the application dies and recovers, no invalid transaction is handed over. -/
theorem sessions_valid {handed : List BatchRenameTransaction} (h:Sessions handed):
 ∀next∈handed,validBatchTransaction next=.ok ():=by
 have hall:AllValid (fun _=>True) handed:=by
  induction h with
  | prepared hprepared hrun=>
   exact wp_leaves (wp_runPrepared kept_true (prepareBatchTransaction_valid hprepared)
    fun _=>trivial) hrun
  | resumed before hrun ih=>exact wp_leaves (wp_runResume kept_true ih) hrun
 exact fun next hnext=>(validBatchTransaction_iff next).mpr (hall next hnext).1

lemma answerWithSize_answers (o : BatchOp) (handed : List BatchRenameTransaction):
 (handing EmptyDirectoriesOnly).answers o handed (answerWithSize 0 o handed).1
  (answerWithSize 0 o handed).2:=by
 cases o with
 | persist transaction=>rfl
 | submit request reconcile=>
  exact ⟨rfl,by simp [EmptyDirectoriesOnly,confirmsSizedDirectory,answerWithSize]⟩
 | stopRequested=>rfl
 | removeJournal=>rfl
 | readJournal=>exact ⟨rfl,fun hok=>(Bool.false_ne_true hok).elim⟩

theorem sessions_valid_directory:
 ((runPrepared renameOfDirectory).run (answerWithSize 0) []).2≠[] ∧
 ∀next∈(runResume.run (answerWithSize 0)
  ((runPrepared renameOfDirectory).run (answerWithSize 0) []).2).2,
  validBatchTransaction next=.ok ():=
 ⟨by decide +kernel,sessions_valid (.resumed (.prepared renameOfDirectory_prepared
  (run_completes answerWithSize_answers _ _).leaves) (run_completes answerWithSize_answers _ _).leaves)⟩

end VoVe.BatchRunValidity
