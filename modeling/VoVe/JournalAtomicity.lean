import VoVe.JournalDisk

set_option autoImplicit false

namespace VoVe.JournalAtomicity
open ByteCodec EffectProgram DurableJournal JournalDisk

variable (store : DurableJournalStore)

/-- The disk holds generations of which `P` holds. -/
def Shows (P : Generations → Prop) (disk : Disk) : Prop:=
 ∃ generations,Represents store disk generations ∧ P generations

section Calls
variable {s store : DurableJournalStore} {disk : Disk} {generations : Generations}
 {P : Generations → Prop} {crash : Disk → Prop}

lemma wp_call {op : JournalOp} {post : JournalReply op → Disk → Prop}
 (htorn:∀after,Disk.Torn op disk after → crash after)
 (hanswer:post (Disk.answer op disk).1 (Disk.answer op disk).2)
 (hreport:∀reply after,Disk.Reports op reply → Disk.Torn op disk after → post reply after):
 wp Disk.faulty crash post (Prog.issue op) disk:=by
 refine ⟨htorn _ (Disk.torn_refl op disk),htorn,fun reply after h=>?_⟩
 obtain hdone | ⟨hreports,hafter⟩:=h
 · obtain ⟨rfl,rfl⟩:=Prod.mk.inj hdone
   exact ⟨htorn _ (Disk.torn_answer op disk),hanswer⟩
 · exact ⟨htorn after hafter,hreport reply after hreports hafter⟩

lemma wp_inspect {file : JournalFile} {limit : ℕ} {post : InspectionResult → Disk → Prop}
 (hnow:crash disk) (htruth:post (disk.inspect file limit) disk)
 (hfault:∀result : InspectionResult,
  result.status=.ioError ∨ result.status=.corrupt → post result disk):
 wp Disk.faulty crash post (inspect file limit) disk:=by
 rw [inspect,wp_bind]
 refine wp_call (fun after h=>h ▸ hnow) ⟨hnow,htruth⟩ ?_
 rintro reply after hreport rfl
 refine ⟨hnow,hfault _ ?_⟩
 obtain ⟨hstatus,-⟩ | hstatus:=hreport
 · exact .inl (by simp [inspectionOf,hstatus])
 · exact .inr (by simp [inspectionOf,hstatus])

lemma wp_discardTemporary {post : Unit → Disk → Prop} (h:Represents s disk generations)
 (hP:P generations)
 (hpost:∀after,Represents s after generations → post () after):
 wp Disk.faulty (Shows s P) post discardTemporary disk:=by
 have htorn:∀after,Disk.Torn (.removePath (.path .temporary)) disk after →
   Represents s after generations:=by
  rintro after (rfl | rfl)
  · exact h
  · exact h.set_temporary none
 have hdone:∀after,Represents s after generations →
   Shows s P after ∧ post () after := fun after hafter=>⟨⟨_,hafter,hP⟩,hpost after hafter⟩
 rw [discardTemporary,wp_bind]
 exact wp_call (fun after ht=>⟨_,htorn after ht,hP⟩)
  (hdone _ (htorn _ (Disk.torn_answer _ disk))) fun _ after _ ht=>hdone _ (htorn after ht)

lemma wp_giveUp {post : DurableJournalResult → Disk → Prop} {e : ErrorCode}
 (h:Represents s disk generations) (hP:P generations)
 (hpost:∀after,post (ioFailure e) after):
 wp Disk.faulty (Shows s P) post
  (discardTemporary >>= fun _=>pure (ioFailure e)) disk:=by
 rw [wp_bind]
 exact wp_discardTemporary h hP fun after hafter=>⟨⟨_,hafter,hP⟩,hpost after⟩

lemma wp_sync {post : ErrorCode → Disk → Prop} (hnow:crash disk)
 (hpost:∀e,post e disk):
 wp Disk.faulty crash post (Prog.issue JournalOp.syncParentDirectory) disk:=by
 refine wp_call (fun after h=>h ▸ hnow) (hpost 0) ?_
 rintro e after _ rfl
 exact hpost e

end Calls

/-- The generations a write may leave: the old ones, the primary moved aside,
  or the new payload over one of the old generations. -/
inductive WriteStep (payload : Bytes) : Generations → Generations → Prop where
 | unchanged (generations : Generations) : WriteStep payload generations generations
 | rotated (old : Bytes) (previous : Option Bytes):
   WriteStep payload ⟨some old,previous⟩ ⟨none,some old⟩
 | published (generations : Generations) (previous : Option Bytes):
   WriteStep payload generations ⟨some payload,previous⟩

/-- A successful write leaves its payload as the primary generation. -/
def Published (payload : Bytes) (result : DurableJournalResult)
  (disk : Disk) : Prop:=
 result.ok → ∃ previous,Represents store disk ⟨some payload,previous⟩

variable {generations before after : Generations} {previous : Option Bytes}
 {rest : JournalProg DurableJournalResult} {P : Generations → Prop} {s store : DurableJournalStore}
 {disk : Disk}

section Write
variable {s store : DurableJournalStore} {disk : Disk} {before : Generations} {payload : Bytes}

lemma published_ioFailure (e : ErrorCode) (disk : Disk):
 Published s payload (ioFailure e) disk:=by
 intro h
 simp [DurableJournalResult.ok,ioFailure] at h

lemma wp_publishTemporary (h:Represents s disk generations)
 (hstep:WriteStep payload before generations)
 (htemporary:disk.files (.path .temporary)=some (makeEnvelope payload))
 (hfits:payload.length ≤ s.maximumPayloadBytes):
 wp Disk.faulty (Shows s (WriteStep payload before)) (Published s payload)
  DurableJournalStore.publishTemporary disk:=by
 have hnew:=h.publish htemporary hfits
 have hnewStep:WriteStep payload before ⟨some payload,generations.previous⟩:=.published _ _
 rw [DurableJournalStore.publishTemporary,wp_bind]
 refine wp_call ?_ ?_ ?_
 · rintro after (rfl | rfl)
   · exact ⟨_,h,hstep⟩
   · exact ⟨_,hnew,hnewStep⟩
 · simp only [Disk.answer,htemporary,ne_eq,not_true_eq_false,if_false,wp_bind]
   refine wp_sync ⟨_,hnew,hnewStep⟩ fun e=>?_
   split
   · exact ⟨⟨_,hnew,hnewStep⟩,published_ioFailure e _⟩
   · exact ⟨⟨_,hnew,hnewStep⟩,fun _=>⟨_,hnew⟩⟩
 · rintro e after herror hafter
   have herror:e≠0:=herror
   rw [if_pos herror]
   obtain rfl | rfl:=hafter
   · exact wp_giveUp h hstep (published_ioFailure e)
   · exact wp_giveUp hnew hnewStep (published_ioFailure e)

lemma rename_primary_temporary (disk : Disk):
 (disk.rename (.path .primary) (.path .previous)).files (.path .temporary)=
  disk.files (.path .temporary):=by
 unfold Disk.rename
 split
 · rfl
 · simp [Disk.set]

lemma wp_rotatePrimary {old : Bytes} (h:Represents s disk ⟨some old,previous⟩)
 (htemporary:disk.files (.path .temporary)=some (makeEnvelope payload))
 (hfits:payload.length ≤ s.maximumPayloadBytes):
 wp Disk.faulty (Shows s (WriteStep payload ⟨some old,previous⟩))
  (Published s payload)
  (DurableJournalStore.rotatePrimary DurableJournalStore.publishTemporary) disk:=by
 have hnow:WriteStep payload ⟨some old,previous⟩ ⟨some old,previous⟩:=.unchanged _
 have hrotated:=h.rotate
 have hstep:WriteStep payload ⟨some old,previous⟩ ⟨none,some old⟩:=.rotated old previous
 rw [DurableJournalStore.rotatePrimary,wp_bind]
 refine wp_call ?_ ?_ ?_
 · rintro after (rfl | rfl)
   · exact ⟨_,h,hnow⟩
   · exact ⟨_,hrotated,hstep⟩
 · have hprimary:disk.files (.path .primary)=some (makeEnvelope old):=h.primary
   simp only [Disk.answer,hprimary,ne_eq,not_true_eq_false,if_false,wp_bind]
   refine wp_sync ⟨_,hrotated,hstep⟩ fun e=>?_
   split
   · exact wp_giveUp hrotated hstep (published_ioFailure e)
   · refine wp_publishTemporary hrotated hstep ?_ hfits
     rw [rename_primary_temporary]
     exact htemporary
 · rintro e after herror hafter
   have herror:e≠0:=herror
   rw [if_pos herror]
   obtain rfl | rfl:=hafter
   · exact wp_giveUp h hnow (published_ioFailure e)
   · exact wp_giveUp hrotated hstep (published_ioFailure e)

lemma wp_refuseClaims (h:Represents s disk before)
 (hrest:wp Disk.faulty (Shows s (WriteStep payload before)) (Published s payload)
  rest disk) (paths : List JournalPath):
 wp Disk.faulty (Shows s (WriteStep payload before)) (Published s payload)
  (s.refuseClaims rest paths) disk:=by
 have hnow:Shows s (WriteStep payload before) disk:=⟨_,h,.unchanged _⟩
 induction paths with
 | nil=>exact hrest
 | cons path paths ih=>
  rw [DurableJournalStore.refuseClaims,wp_bind]
  refine wp_inspect hnow ?_ fun result hresult=>?_
  · simpa [h.inspect_claim path] using ih
  · have hne:result.status≠.missing:=by
     rintro hmissing
     simp [hmissing] at hresult
    rw [if_pos hne]
    exact ⟨hnow,published_ioFailure _ _⟩

lemma wp_writeTemporary (h:Represents s disk before)
 (hrest:∀after,Represents s after before →
  after.files (.path .temporary)=some (makeEnvelope payload) →
  wp Disk.faulty (Shows s (WriteStep payload before)) (Published s payload) rest after)
 :
 wp Disk.faulty (Shows s (WriteStep payload before)) (Published s payload)
  (do
   discardTemporary
   let written ← Prog.issue (.writeFileDurably (.path .temporary) (makeEnvelope payload))
   if written≠0 then do
    discardTemporary
    pure (ioFailure written)
   else rest) disk:=by
 have hstep:WriteStep payload before before:=.unchanged before
 rw [wp_bind]
 refine wp_discardTemporary h hstep fun cleared hcleared=>?_
 have htorn:∀after,Disk.Torn (.writeFileDurably (.path .temporary) (makeEnvelope payload))
   cleared after → Represents s after before:=by
  rintro after (rfl | ⟨-,part,-,rfl⟩)
  · exact hcleared
  · exact hcleared.set_temporary (some part)
 rw [wp_bind]
 refine wp_call (fun after ht=>⟨_,htorn after ht,hstep⟩) ?_ ?_
 · cases hfile:cleared.files (.path .temporary) with
   | none=>
    simp only [Disk.answer,hfile,ne_eq,not_true_eq_false,if_false]
    exact hrest _ (hcleared.set_temporary _) (by simp [Disk.set])
   | some content=>
    simp only [Disk.answer,hfile]
    exact wp_giveUp hcleared hstep (published_ioFailure _)
 · intro e after herror hafter
   have herror:e≠0:=herror
   rw [if_pos herror]
   exact wp_giveUp (htorn after hafter) hstep (published_ioFailure e)

lemma wp_write (h:Represents s disk before):
 wp Disk.faulty (Shows s (WriteStep payload before)) (Published s payload)
  (s.write payload) disk:=by
 have hstep:WriteStep payload before before:=.unchanged before
 have hnow:Shows s (WriteStep payload before) disk:=⟨_,h,hstep⟩
 unfold DurableJournalStore.write
 split
 · exact ⟨hnow,fun hok=>by simp [DurableJournalResult.ok] at hok⟩
 · have hfits:payload.length ≤ s.maximumPayloadBytes:=by omega
   rw [wp_bind]
   refine wp_inspect hnow ?_ fun result hresult=>?_
   · rw [h.inspect_primary]
     obtain ⟨primary,previous⟩:=before
     cases primary with
     | some old=>
      refine wp_refuseClaims h (wp_writeTemporary h fun after hafter ht=>?_) _
      exact wp_rotatePrimary hafter ht hfits
     | none=>
      refine wp_refuseClaims h (wp_writeTemporary h fun after hafter ht=>?_) _
      exact wp_publishTemporary hafter hstep ht hfits
   · split
     · exact ⟨hnow,published_ioFailure _ _⟩
     · next hread =>
       refine wp_refuseClaims h (wp_writeTemporary h fun after hafter ht=>?_) _
       rw [if_neg (by obtain h | h := hresult<;>simp_all)]
       exact wp_publishTemporary hafter hstep ht hfits

end Write

/-- The generations an interrupted removal may leave. -/
def RemoveStep (before after : Generations) : Prop:=
 (after.primary = before.primary ∨ after.primary = none) ∧
  (after.previous = before.previous ∨ after.previous = none)

section Remove
variable {s store : DurableJournalStore} {disk : Disk} {before : Generations}

lemma shows_removePath (h:Shows s (RemoveStep before) disk) (path : JournalPath)
 {after : Disk} (htorn:Disk.Torn (.removePath (.path path)) disk after):
 Shows s (RemoveStep before) after:=by
 obtain ⟨now,hnow,hprimary,hprevious⟩:=h
 obtain rfl | rfl:=htorn
 · exact ⟨now,hnow,hprimary,hprevious⟩
 · cases path with
   | primary=>exact ⟨_,hnow.remove_primary,.inr rfl,hprevious⟩
   | previous=>exact ⟨_,hnow.remove_previous,hprimary,.inr rfl⟩
   | temporary=>exact ⟨_,hnow.set_temporary none,hprimary,hprevious⟩

lemma shows_removeClaim (h:Shows s P disk) (path : JournalPath) {after : Disk}
 (htorn:Disk.Torn (.removePath (.removalClaim path)) disk after) : Shows s P after:=by
 obtain ⟨now,hnow,hP⟩:=h
 obtain rfl | rfl:=htorn
 · exact ⟨now,hnow,hP⟩
 · exact ⟨now,hnow.set_claim path,hP⟩

lemma shows_removeStaging (h:Shows s P disk) (path : JournalPath) {after : Disk}
 (htorn:Disk.Torn (.removeEmptyRemovalStaging path) disk after) : Shows s P after:=by
 obtain ⟨now,hnow,hP⟩:=h
 obtain rfl | ⟨-,rfl⟩:=htorn
 · exact ⟨now,hnow,hP⟩
 · exact ⟨now,hnow.removeStaging path,hP⟩

lemma wp_removePaths (paths : List JournalPath) (removal : DurableJournalStore.Removal)
 (h:Shows s (RemoveStep before) disk):
 wp Disk.faulty (Shows s (RemoveStep before)) (fun _ _=>True)
  (DurableJournalStore.removePaths paths removal) disk:=by
 induction paths generalizing disk removal with
 | nil=>exact ⟨h,trivial⟩
 | cons path paths ih=>
  rw [DurableJournalStore.removePaths,wp_bind]
  exact wp_call (fun _=>shows_removePath h path)
   (ih _ (shows_removePath h path (Disk.torn_answer _ disk)))
   fun _ _ _ ht=>ih _ (shows_removePath h path ht)

lemma wp_removeClaims (paths : List JournalPath) (removal : DurableJournalStore.Removal)
 (h:Shows s P disk):
 wp Disk.faulty (Shows s P) (fun _ _=>True)
  (DurableJournalStore.removeClaims paths removal) disk:=by
 induction paths generalizing disk removal with
 | nil=>exact ⟨h,trivial⟩
 | cons path paths ih=>
  have hstaging:∀claim after,Shows s P after → wp Disk.faulty (Shows s P) (fun _ _=>True)
     (Prog.issue (.removeEmptyRemovalStaging path) >>= fun staging =>
      DurableJournalStore.removeClaims paths ((removal.add claim).add staging)) after:=by
   intro claim after hafter
   rw [wp_bind]
   exact wp_call (fun _=>shows_removeStaging hafter path)
    (ih _ (shows_removeStaging hafter path (Disk.torn_answer _ after)))
    fun _ _ _ ht=>ih _ (shows_removeStaging hafter path ht)
  rw [DurableJournalStore.removeClaims,wp_bind]
  exact wp_call (fun _=>shows_removeClaim h path)
   (hstaging _ _ (shows_removeClaim h path (Disk.torn_answer _ disk)))
   fun _ _ _ ht=>hstaging _ _ (shows_removeClaim h path ht)

lemma wp_remove (h:Represents s disk before):
 wp Disk.faulty (Shows s (RemoveStep before)) (fun _ _=>True)
  DurableJournalStore.remove disk:=by
 have hnow:Shows s (RemoveStep before) disk:=⟨before,h,.inl rfl,.inl rfl⟩
 rw [DurableJournalStore.remove,wp_bind]
 refine wp_consequence (wp_removePaths _ _ hnow) fun paths after hafter _=>?_
 rw [wp_bind]
 refine wp_consequence (wp_removeClaims _ _ hafter) fun removal last hlast _=>?_
 split
 · exact ⟨hlast,trivial⟩
 · split
   · rw [wp_bind]
     refine wp_sync hlast fun e=>?_
     split
     · exact ⟨hlast,trivial⟩
     · exact ⟨hlast,trivial⟩
   · exact ⟨hlast,trivial⟩

end Remove

lemma reachable_represents (h:Reachable s disk):
 ∃ generations,Represents s disk generations:=by
 have hshows:Shows s (fun _=>True) disk:=by
  apply Reach.invariant _ _ h
  · rintro disk rfl
    exact ⟨_,empty_represents,trivial⟩
  · rintro p disk hp ⟨now,hnow,-⟩
    cases hp with
    | write payload=>
     exact wp_mono (fun _ ⟨g,hg,_⟩=>⟨g,hg,trivial⟩) (fun _ _ _=>trivial) (wp_write hnow)
    | remove=>
     exact wp_mono (fun _ ⟨g,hg,_⟩=>⟨g,hg,trivial⟩) (fun _ _ _=>trivial) (wp_remove hnow)
 obtain ⟨generations,h,-⟩:=hshows
 exact ⟨generations,h⟩

/-- What a read may return after a write that was not left to succeed. The old
  payload may have moved from the primary to the previous generation. -/
structure WriteOutcome (payload : Bytes) (before after : DurableJournalReadResult) : Prop where
 recorded : after=before ∨ (∃ p,before=DurableJournalStore.foundIn .primary p ∧
   after=DurableJournalStore.foundIn .previous p) ∨
  after=DurableJournalStore.foundIn .primary payload
 notCorrupt : after.status≠.corrupt
 notLost : after.status=.notFound → before.status=.notFound

lemma outcome_not_corrupt (generations : Generations) : generations.outcome.status≠.corrupt:=by
 unfold Generations.outcome
 split
 · exact nofun
 · split
   · exact nofun
   · exact nofun

lemma writeStep_outcome {payload : Bytes} (h:WriteStep payload before after):
 WriteOutcome payload before.outcome after.outcome:=by
 refine ⟨?_,outcome_not_corrupt after,?_⟩
 · cases h with
   | unchanged=>exact .inl rfl
   | rotated old previous=>exact .inr (.inl ⟨old,rfl,rfl⟩)
   | published previous=>exact .inr (.inr rfl)
 · cases h with
   | unchanged=>exact id
   | rotated old previous=>exact nofun
   | published previous=>exact nofun

/-- A write that is cut or fails anywhere leaves the old payload or the new one
  readable, and a write that succeeds leaves the new one. -/
theorem write_atomic (store : DurableJournalStore) (disk : Disk) (payload : Bytes)
 (hreach:Reachable store disk):
 (∀after,Leaves Disk.faulty (store.write payload) disk after →
  WriteOutcome payload (readOutcome store disk) (readOutcome store after)) ∧
 (∀result after,Completes Disk.faulty (store.write payload) disk result after → result.ok →
  readOutcome store after=DurableJournalStore.foundIn .primary payload):=by
 obtain ⟨before,hbefore⟩:=reachable_represents hreach
 have hwrite:wp Disk.faulty _ (Published store payload) (store.write payload) disk:=
  wp_write hbefore
 refine ⟨fun after hleaves=>?_,fun result after hcompletes hok=>?_⟩
 · obtain ⟨now,hnow,hstep⟩:=wp_leaves hwrite hleaves
   rw [hbefore.readOutcome,hnow.readOutcome]
   exact writeStep_outcome hstep
 · obtain ⟨previous,hnow⟩:=(wp_completes hwrite hcompletes).2 hok
   rw [hnow.readOutcome]
   rfl

/-- Two complete writes, from an empty directory. -/
def twoWrites (store : DurableJournalStore) (first second : Bytes) : Disk:=
 ((store.write second).run Disk.answer ((store.write first).run Disk.answer Disk.empty).2).2

lemma twoWrites_reachable (s : DurableJournalStore) (first second : Bytes):
 Reachable s (twoWrites s first second):=by
 have hfirst:Reachable s ((s.write first).run Disk.answer Disk.empty).2:=
  .session (.start rfl) (.write first) (run_completes Disk.faulty_answer _ _).leaves
 exact .session hfirst (.write second) (run_completes Disk.faulty_answer _ _).leaves

/-- A third write, cut between its renames, and done. -/
theorem write_atomic_after_two_writes : WriteOutcome [3] (readOutcome {} (twoWrites {} [1] [2]))
  (readOutcome {} ((DurableJournalStore.write {} [3]).runFor Disk.answer 6
   (twoWrites {} [1] [2]))) ∧
 readOutcome {} ((DurableJournalStore.write {} [3]).run Disk.answer (twoWrites {} [1] [2])).2=
  DurableJournalStore.foundIn .primary [3]:=by
 obtain ⟨hcut,hdone⟩:=write_atomic {} (twoWrites {} [1] [2]) [3] (twoWrites_reachable {} [1] [2])
 refine ⟨hcut _ (.inl (runFor_interrupted Disk.faulty_answer 6 _ _)),?_⟩
 exact hdone _ _ (run_completes Disk.faulty_answer _ _) (by decide +kernel)

/-- Between the two renames of a write the old payload is read from the
  previous generation, so the read result itself has changed. -/
theorem write_moves_generation:
 ¬∀ (store : DurableJournalStore) (disk : Disk) (payload : Bytes),Reachable store disk →
  payload.length ≤ store.maximumPayloadBytes → ∀after,
  Leaves Disk.faulty (store.write payload) disk after →
  readOutcome store after=readOutcome store disk ∨
   ((readOutcome store after).ok ∧ (readOutcome store after).payload=payload):=by
 intro h
 have hcut:=runFor_interrupted Disk.faulty_answer 6
  (DurableJournalStore.write {} [3]) (twoWrites {} [1] [2])
 have hread:=h {} _ [3] (twoWrites_reachable {} [1] [2]) (by decide) _ (.inl hcut)
 revert hread
 decide +kernel

/-- After any end of a removal, a read finds nothing or what it found before. -/
def RemoveSafe (store : DurableJournalStore) (disk : Disk) : Prop:=
 ∀after,Leaves Disk.faulty DurableJournalStore.remove disk after →
  (readOutcome store after).status = .notFound ∨
   ((readOutcome store disk).ok ∧ (readOutcome store after).ok ∧
    (readOutcome store after).payload = (readOutcome store disk).payload)

/-- Both generations are readable and hold different payloads. -/
def GenerationsDiffer (store : DurableJournalStore) (disk : Disk) : Prop:=
 (primaryOutcome store disk).ok ∧ (previousOutcome store disk).ok ∧
  (primaryOutcome store disk).payload≠(previousOutcome store disk).payload

lemma generationsDiffer_iff (h:Represents s disk generations) : GenerationsDiffer s disk ↔
  ∃ p q,generations.primary=some p ∧ generations.previous=some q ∧ p≠q:=by
 rw [GenerationsDiffer,h.primaryOutcome,h.previousOutcome]
 obtain ⟨primary,previous⟩:=generations
 cases primary with
 | none=>simp [DurableJournalResult.ok]
 | some p=>
  cases previous with
  | none=>simp [DurableJournalResult.ok,DurableJournalStore.foundIn]
  | some q=>simp [DurableJournalResult.ok,DurableJournalStore.foundIn]

lemma removeStep_outcome (hstep:RemoveStep before after)
 (hsame:∀p q,before.primary=some p → before.previous=some q → p=q):
 after.outcome.status=.notFound ∨
  (before.outcome.ok ∧ after.outcome.ok ∧ after.outcome.payload=before.outcome.payload):=by
 obtain ⟨hprimary,hprevious⟩:=hstep
 cases hp:after.primary with
 | some p=>
  have hbefore:before.primary=some p:=by simpa [hp,eq_comm] using hprimary
  exact .inr (by simp [Generations.outcome,hp,hbefore,DurableJournalResult.ok,
   DurableJournalStore.foundIn])
 | none=>
  cases hq:after.previous with
  | none=>exact .inl (by simp [Generations.outcome,hp,hq])
  | some q=>
   have hbefore:before.previous=some q:=by simpa [hq,eq_comm] using hprevious
   cases hold:before.primary with
   | none=>exact .inr (by simp [Generations.outcome,hp,hq,hbefore,hold,
     DurableJournalResult.ok,DurableJournalStore.foundIn])
   | some p=>
    obtain rfl:=hsame p q hold hbefore
    exact .inr (by simp [Generations.outcome,hp,hq,hold,DurableJournalResult.ok,
     DurableJournalStore.foundIn])

lemma remove_cut_after_primary {p : Bytes} (h:Represents s disk ⟨some p,previous⟩):
 ∃ after,Interrupted Disk.faulty DurableJournalStore.remove disk after ∧
  Represents s after ⟨none,previous⟩:=by
 have hcut:=runFor_interrupted Disk.faulty_answer 1 DurableJournalStore.remove disk
 have hprimary:disk.files (.path .primary)=some (makeEnvelope p):=h.primary
 have hafter:DurableJournalStore.remove.runFor Disk.answer 1 disk=
   disk.set (.path .primary) none:=by
  change (Disk.answer (.removePath (.path .primary)) disk).2=_
  simp [Disk.answer,hprimary]
 exact ⟨_,hcut,hafter ▸ h.remove_primary⟩

end VoVe.JournalAtomicity
