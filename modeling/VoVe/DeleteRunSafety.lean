import VoVe.DeleteRunRule

set_option autoImplicit false

namespace VoVe.DeleteRunSafety
open ByteCodec AsciiText EffectProgram
open ObjectDirectory JournalDisk CurrentOperationJournal OperationWorld
open JournalRecord DeleteTransaction PermanentDeleteCoordinator DeleteRunWorld DeleteRunRule

section Sessions
variable {cores : List ItemCore} {initial directory : ObjectNames} {noted : Prop}
 {t : PermanentDeleteTransaction} {s : Noted DeleteState}

/-- Where the object of an item may be; gone only past the point of no return. -/
def Somewhere (directory : ObjectNames) (noted : Prop) (core : ItemCore) : Prop:=
 At directory core.identity (nameOf core.source) ∨
  At directory core.identity (nameOf core.temporary) ∨ Gone directory core.identity ∧ noted

lemma placed_somewhere (hvalid:DeleteValid t) {item : PermanentDeleteItem}
 (hmem:item∈t.items) (hcommitted:t.phase=.deleting → noted)
 (h:Placed directory item) : Somewhere directory noted (coreOf item):=by
 obtain ⟨hexpected,hallowed⟩:=item_paths hvalid hmem
 cases hlocation:item.location with
 | source=>exact .inl (placed_source hexpected hlocation h)
 | temporary=>exact .inr (.inl (placed_temporary hexpected hlocation h))
 | deleted=>
  refine .inr (.inr ⟨placed_deleted hlocation h,hcommitted ?_⟩)
  rw [hlocation] at hallowed
  cases hphase:t.phase with
  | prepared=>simp [hphase,locationAllowed] at hallowed
  | evacuating=>simp [hphase,locationAllowed] at hallowed
  | rollback=>simp [hphase,locationAllowed] at hallowed
  | permanentDeleteIntent=>simp [hphase,locationAllowed] at hallowed
  | deleting=>rfl

lemma stepped_somewhere (hvalid:DeleteValid t) (hactive:¬Idle t)
 (hcommitted:t.phase=.deleting → noted)
 (h:Stepped directory (activeItem t) t.activeStep):
 Somewhere directory noted (coreOf (activeItem t)):=by
 have hmatches:=hvalid.activeStep
 rw [activeStepMatches] at hmatches
 unfold Stepped stepPlace renameTarget at h
 cases hstep:t.activeStep with
 | none=>exact absurd hstep hactive
 | evacuate=>
  rw [hstep] at h
  exact .inr (.inl (stands_some.mp h))
 | rollback=>
  rw [hstep] at h
  exact .inl (stands_some.mp h)
 | erase=>
  rw [hstep] at h hmatches
  exact .inr (.inr ⟨stands_none.mp h,hcommitted (of_decide_eq_true hmatches).1⟩)

lemma describes_somewhere (h:Describes cores directory noted t) (hvalid:DeleteValid t):
 ∀core∈cores,Somewhere directory noted core:=by
 intro core hcore
 rw [←h.cores,coresOf,List.mem_map] at hcore
 obtain ⟨item,hmem,rfl⟩:=hcore
 obtain ⟨i,hi,rfl⟩:=List.mem_iff_getElem.mp hmem
 rw [←itemAt_eq hi] at hmem ⊢
 by_cases hself:¬Idle t ∧ i=t.activeIndex.toNat
 · obtain ⟨hactive,rfl⟩:=hself
   obtain hplaced | hstepped:=h.active hactive
   · exact placed_somewhere hvalid hmem h.committed hplaced
   · exact stepped_somewhere hvalid hactive h.committed hstepped
 · refine placed_somewhere hvalid hmem h.committed (h.resting i hi fun hactive hindex=>?_)
   exact hself ⟨hactive,hindex⟩

lemma kept_somewhere (h:KeptIn cores initial s):
 ∀core∈cores,Somewhere s.state.directory s.noted core:=by
 cases h.journal with
 | recorded t hrecorded hdescribes=>
  exact describes_somewhere hdescribes (Accurate.valid ⟨hrecorded,hdescribes,h.others⟩)
 | empty hjournal hall=>
  intro core hcore
  obtain hsources | ⟨hgone,hnoted⟩:=hall
  · exact .inl (hsources core hcore)
  · exact .inr (.inr ⟨hgone core hcore,hnoted⟩)

lemma kept_settled (h:KeptIn cores initial s) (hjournal:s.state.journal = ⟨none,none⟩):
 AllOrNothing cores s:=by
 cases h.journal with
 | recorded t hrecorded hdescribes=>
  obtain ⟨bytes,-,⟨hprimary,-⟩ | ⟨-,hprevious⟩⟩:=hrecorded
  · rw [hjournal] at hprimary
    cases hprimary
  · rw [hjournal] at hprevious
    cases hprevious
 | empty _ hall=>exact hall

lemma wp_runPrepared (hvalid:DeleteValid t) (hprepared:t.phase=.prepared)
 (hsources:AllAt (coresOf t) (·.source) directory):
 wp (notingWorld (coresOf t)) (KeptIn (coresOf t) directory) (Ended (coresOf t)) (runPrepared t)
  ⟨⟨⟨none,none⟩,directory⟩,False⟩:=by
 have hidle:Idle t:=by
  cases hstep:t.activeStep with
  | none=>exact hstep
  | evacuate=>exact absurd hvalid.activeStep (by simp [activeStepMatches,hstep,hprepared])
  | rollback=>exact absurd hvalid.activeStep (by simp [activeStepMatches,hstep,hprepared])
  | erase=>exact absurd hvalid.activeStep (by simp [activeStepMatches,hstep,hprepared])
 have hdescribes:∀noted,Describes (coresOf t) directory noted t:=by
  intro noted
  refine .of_all rfl hidle (by simp [hprepared]) fun i hi=>?_
  have hmem:=itemAt_mem hi
  obtain ⟨hexpected,hallowed⟩:=item_paths hvalid hmem
  rw [hprepared] at hallowed
  have hlocation:(itemAt t i).location=.source:=of_decide_eq_true hallowed
  rw [expectedCurrent,hlocation] at hexpected
  rw [Placed,placeOf,if_neg (by simp [hlocation]),nameOf_same hexpected,stands_some]
  exact hsources _ (List.mem_map_of_mem hmem)
 have hothers:OthersKeep (coresOf t) directory directory:=fun object _ name=>Iff.rfl
 have hnone:∀noted,KeptIn (coresOf t) directory ⟨⟨⟨none,none⟩,directory⟩,noted⟩:=
  fun noted=>⟨.empty rfl (.inl hsources),hothers⟩
 have hwritten:∀ {payload : Bytes} (noted : Prop),
   encodePermanentDeleteTransaction t=.ok payload →
   payload.length≤kMaximumCurrentOperationPayloadBytes →
   Accurate (coresOf t) directory t
    ⟨⟨written ⟨none,none⟩ (encode .permanentDelete payload),directory⟩,noted⟩:=by
  intro payload noted hencoded hsize
  exact ⟨written_empty ⟨payload,hencoded,hsize,rfl⟩,hdescribes noted,hothers⟩
 have hleaves:∀ {payload : Bytes} {journal : Generations} (noted : Prop),
   encodePermanentDeleteTransaction t=.ok payload →
   payload.length≤kMaximumCurrentOperationPayloadBytes →
   WriteLeaves (encode .permanentDelete payload) ⟨none,none⟩ journal →
   KeptIn (coresOf t) directory ⟨⟨journal,directory⟩,noted⟩:=by
  intro payload journal noted hencoded hsize hafter
  cases hafter with
  | unchanged=>exact hnone noted
  | rotated=>exact hnone noted
  | written=>exact (hwritten noted hencoded hsize).safe
 rw [runPrepared,wp_bind]
 refine ⟨hnone False,?_,?_⟩
 · rintro ⟨⟨journal,directory'⟩,noted⟩ ⟨⟨hsame,hcut⟩,-⟩
   obtain rfl : directory=directory':=hsame.symm
   dsimp only at hcut
   cases hcut with
   | unchanged=>exact hnone noted
   | torn payload after hencoded hsize hafter=>exact hleaves noted hencoded hsize hafter
 · rintro reply ⟨⟨journal,directory'⟩,noted⟩ ⟨⟨hsame,hpersists⟩,-⟩
   obtain rfl : directory=directory':=hsame.symm
   dsimp only at hpersists
   cases hpersists with
   | threw thrown detail _=>exact ⟨hnone noted,hnone noted,ended_failure _ _ _⟩
   | tooLarge payload detail _ _=>exact ⟨hnone noted,hnone noted,ended_failure _ _ _⟩
   | failed payload detail after hencoded hsize hafter=>
    have hkept:=hleaves noted hencoded hsize hafter
    exact ⟨hkept,hkept,ended_failure _ _ _⟩
   | stored payload hencoded hsize=>
    have hafter:=hwritten noted hencoded hsize
    exact ⟨hafter.safe,wp_continueTransaction hafter⟩

/-- Every later session, from whatever the ones before it left. -/
lemma wp_runResume (h:KeptIn cores initial s):
 wp (notingWorld cores) (KeptIn cores initial) (Ended cores) runResume s:=by
 rw [runResume,wp_bind]
 have hnote:∀ {noted : Prop},(s.noted → noted) → KeptIn cores initial ⟨s.state,noted⟩:=by
  intro noted hnoted
  refine ⟨?_,h.others⟩
  cases h.journal with
  | recorded t hrecorded hdescribes=>
   have hat:=Accurate.note ⟨hrecorded,hdescribes,h.others⟩ hnoted
   exact hat.safe.journal
  | empty hjournal hall=>exact .empty hjournal (hall.imp_right fun hgone=>⟨hgone.1,hnoted hgone.2⟩)
 refine ⟨h,?_,?_⟩
 · rintro ⟨state,noted⟩ ⟨rfl,hnoted⟩
   exact hnote (or_imp.mp hnoted.mpr).1
 · rintro loaded ⟨state,noted⟩ ⟨⟨rfl,hread⟩,hnoted⟩
   have hkept:=hnote (or_imp.mp hnoted.mpr).1
   refine ⟨hkept,?_⟩
   change wp _ _ _ (resumeFrom loaded) _
   unfold resumeFrom
   split
   · exact ⟨hkept,ended_failure _ _ _⟩
   · next hreadable =>
     obtain ⟨hok,-⟩:=not_or.mp hreadable
     cases hkept.journal with
     | empty hjournal hall=>
      obtain rfl | hfailed:=hread
      · dsimp only at hjournal
        rw [hjournal] at hok
        exact absurd hok nofun
      · exact absurd hfailed (by simpa using hok)
     | recorded t hrecorded hdescribes=>
      obtain hfailed | ⟨payload,hencoded,-,-,-,rfl⟩:=hrecorded.reads (by decide) hread
      · exact absurd hfailed (by simpa using hok)
      · split
        · exact ⟨hkept,ended_failure _ _ _⟩
        · next decoded hdecoded =>
          obtain ⟨-,rfl⟩:=(decode_encodePermanentDeleteTransaction hencoded [] decoded).mp hdecoded
          exact wp_continueTransaction ⟨hrecorded,hdescribes,hkept.others⟩

end Sessions

variable (transaction : PermanentDeleteTransaction)

/-- What an operation on this transaction may leave: a first session from an empty
  journal, and any number of resumed ones, each complete or cut. -/
def Reachable (directory : ObjectNames) : DeleteState → Prop:=
 Reach deleteWorld (· = runResume)
  (Leaves deleteWorld (runPrepared transaction) ⟨⟨none,none⟩,directory⟩)

/-- The same with a note of whether the deleting phase has been in the journal while
  every item was at its temporary name. -/
def ReachableNoting (directory : ObjectNames) : Noted DeleteState → Prop:=
 Reach (notingWorld (coresOf transaction)) (· = runResume)
  (Leaves (notingWorld (coresOf transaction)) (runPrepared transaction)
   ⟨⟨⟨none,none⟩,directory⟩,False⟩)

/-- What a session of the operation may report. -/
inductive Reports (transaction : PermanentDeleteTransaction) (directory : ObjectNames):
  PermanentDeleteResult → DeleteState → Prop where
 | first {result : PermanentDeleteResult} {after : DeleteState}
  (run : Completes deleteWorld (runPrepared transaction) ⟨⟨none,none⟩,directory⟩ result after):
  Reports transaction directory result after
 | resumed {result : PermanentDeleteResult} {before after : DeleteState}
  (reachable : Reachable transaction directory before)
  (run : Completes deleteWorld runResume before result after):
  Reports transaction directory result after

/-- All or nothing up to the point of no return. An item is gone only if the
  journal has held the deleting phase while all of them were at their temporary
  names, and no other object is ever touched. -/
structure DeleteSafe (transaction : PermanentDeleteTransaction) (directory : ObjectNames):
  Prop where
 guarded : ∀s,ReachableNoting transaction directory s → ∀item∈transaction.items,
  At s.state.directory (identityOf item) (nameOf item.source) ∨
   At s.state.directory (identityOf item) (nameOf item.temporary) ∨
    Gone s.state.directory (identityOf item) ∧ s.noted
 others : ∀s,Reachable transaction directory s →
  ∀object,object∉transaction.items.map identityOf →
   ∀name,s.directory name=some object ↔ directory name=some object
 settled : ∀s,Reachable transaction directory s → s.journal = ⟨none,none⟩ →
  (∀item∈transaction.items,At s.directory (identityOf item) (nameOf item.source)) ∨
   (∀item∈transaction.items,Gone s.directory (identityOf item))
 success : ∀result s,Reports transaction directory result s → result.status=.success →
  s.journal = ⟨none,none⟩ ∧ ∀item∈transaction.items,Gone s.directory (identityOf item)
 rolledBack : ∀result s,Reports transaction directory result s → result.status=.rolledBack →
  s.journal = ⟨none,none⟩ ∧
   ∀item∈transaction.items,At s.directory (identityOf item) (nameOf item.source)

theorem delete_safe (transaction : PermanentDeleteTransaction) (directory : ObjectNames)
 (hvalid:validPermanentDeleteTransaction transaction=.ok ())
 (hprepared:transaction.phase=.prepared)
 (hsources:∀item∈transaction.items, At directory (identityOf item) (nameOf item.source)):
 DeleteSafe transaction directory:=by
 have hfirst:=wp_runPrepared ((validPermanentDeleteTransaction_iff _).mp hvalid) hprepared
  (List.forall_mem_map.mpr hsources)
 have hnoting:∀s,ReachableNoting transaction directory s →
   KeptIn (coresOf transaction) directory s:=by
  intro s hreach
  unfold ReachableNoting at hreach
  refine Reach.invariant ?_ ?_ hreach
  · exact fun s hstart=>wp_leaves hfirst hstart
  · rintro p s rfl h
    exact wp_mono (fun _ h=>h) (fun _ _ _=>trivial) (wp_runResume h)
 have hkept:∀s,Reachable transaction directory s →
   ∃ noted,KeptIn (coresOf transaction) directory ⟨s,noted⟩:=by
  intro s hreach
  obtain ⟨noted,hnoted⟩:=Reach.noting hreach (CommitPoint (coresOf transaction))
   fun s hstart=>hstart.noting _ False
  exact ⟨noted,hnoting _ hnoted⟩
 have hended:∀result s,Reports transaction directory result s →
   ∃ noted,Ended (coresOf transaction) result ⟨s,noted⟩:=by
  intro result s hreport
  cases hreport with
  | first run=>
   obtain ⟨noted,hrun⟩:=run.noting (CommitPoint (coresOf transaction)) False
   exact ⟨noted,(wp_completes hfirst hrun).2⟩
  | resumed reachable run=>
   obtain ⟨before,hbefore⟩:=hkept _ reachable
   obtain ⟨noted,hrun⟩:=run.noting (CommitPoint (coresOf transaction)) before
   exact ⟨noted,(wp_completes (wp_runResume hbefore) hrun).2⟩
 constructor
 · intro s hreach item hmem
   exact kept_somewhere (hnoting s hreach) _ (List.mem_map_of_mem hmem)
 · intro s hreach object hother
   obtain ⟨noted,h⟩:=hkept s hreach
   refine h.others object ?_
   simpa [coresOf,coreOf,Function.comp_def] using hother
 · intro s hreach hjournal
   obtain ⟨noted,h⟩:=hkept s hreach
   obtain hall | ⟨hgone,-⟩:=kept_settled h hjournal
   · exact .inl (List.forall_mem_map.mp hall)
   · exact .inr fun item hmem=>hgone _ (List.mem_map_of_mem hmem)
 · intro result s hreport hstatus
   obtain ⟨noted,h⟩:=hended result s hreport
   obtain ⟨hjournal,hgone⟩:=h.success hstatus
   exact ⟨hjournal,fun item hmem=>hgone _ (List.mem_map_of_mem hmem)⟩
 · intro result s hreport hstatus
   obtain ⟨noted,h⟩:=hended result s hreport
   obtain ⟨hjournal,hall⟩:=h.rolledBack hstatus
   exact ⟨hjournal,List.forall_mem_map.mp hall⟩

/-- A world without failures. -/
def serve : (o : DeleteOp) → DeleteState → DeleteReply o × DeleteState
 | .persist transaction, s=>
  match encodePermanentDeleteTransaction transaction with
  | .error _=>(.error [],s)
  | .ok payload=>
   if payload.length ≤ kMaximumCurrentOperationPayloadBytes then
    (.ok (),{ s with journal:=written s.journal (encode .permanentDelete payload) })
   else (.error [],s)
 | .submitRename request reconcile, s=>
  ((serveRename request reconcile s.directory).1,
   { s with directory:=(serveRename request reconcile s.directory).2 })
 | .submitDelete request reconcile, s=>
  ((serveDelete request reconcile s.directory).1,
   { s with directory:=(serveDelete request reconcile s.directory).2 })
 | .stopRequested, s=>(false,s)
 | .removeJournal, s=>(.ok (),{ s with journal:=⟨none,none⟩ })
 | .readJournal, s=>(decode s.journal.outcome,s)

lemma serve_sound (o : DeleteOp) (s : DeleteState):
 deleteWorld.answers o s (serve o s).1 (serve o s).2:=by
 cases o with
 | persist transaction=>
  cases hencoded:encodePermanentDeleteTransaction transaction with
  | error thrown=>
   simp only [serve,hencoded]
   exact ⟨rfl,hencoded ▸ .threw thrown [] rfl⟩
  | ok payload=>
   simp only [serve,hencoded]
   split
   · next hsize => exact ⟨rfl,hencoded ▸ .stored payload rfl hsize⟩
   · next hsize => exact ⟨rfl,hencoded ▸ .tooLarge payload [] rfl (by omega)⟩
 | submitRename request reconcile=>exact ⟨rfl,serveRename_truth request reconcile s.directory⟩
 | submitDelete request reconcile=>exact ⟨rfl,serveDelete_truth request reconcile s.directory⟩
 | stopRequested=>rfl
 | removeJournal=>exact ⟨rfl,.removed⟩
 | readJournal=>exact ⟨rfl,.inl rfl⟩

/-- Two files deleted from a directory of three. -/
def pair : PermanentDeleteTransaction where
 operationId:=1
 items:=[{ source:=⟨utf8 "/d/a"⟩,temporary:=⟨utf8 "/d/.vove-delete-1-0.tmp"⟩,
           current:=⟨utf8 "/d/a"⟩,
           currentSnapshot:={ sourceRevisionUtf8:=utf8 "posix:1:2:3" } },
      { source:=⟨utf8 "/d/b"⟩,temporary:=⟨utf8 "/d/.vove-delete-1-1.tmp"⟩,
        current:=⟨utf8 "/d/b"⟩,
        currentSnapshot:={ sourceRevisionUtf8:=utf8 "posix:1:4:5" } }]

def pairDirectory : ObjectNames := fun name =>
 if name = utf8 "a" then some (utf8 "posix:1:2")
 else if name = utf8 "b" then some (utf8 "posix:1:4")
 else if name = utf8 "c" then some (utf8 "posix:1:6") else none

lemma pairDirectory_at : At pairDirectory (utf8 "posix:1:2") (utf8 "a") ∧
 At pairDirectory (utf8 "posix:1:4") (utf8 "b"):=by
 have hnames:utf8 "b" ≠ utf8 "a":=by decide +kernel
 have hfirst:utf8 "posix:1:4" ≠ utf8 "posix:1:2" ∧ utf8 "posix:1:6" ≠ utf8 "posix:1:2":=by
  decide +kernel
 have hsecond:utf8 "posix:1:2" ≠ utf8 "posix:1:4" ∧ utf8 "posix:1:6" ≠ utf8 "posix:1:4":=by
  decide +kernel
 constructor
 · intro name
   unfold pairDirectory
   by_cases ha:name=utf8 "a"
   · simp [ha]
   · by_cases hb:name=utf8 "b"
     · simp [hb,hnames,hfirst.1]
     · rw [if_neg ha,if_neg hb]
       split
       · simp [ha,hfirst.2]
       · simp [ha]
 · intro name
   unfold pairDirectory
   by_cases ha:name=utf8 "a"
   · simp [ha,hnames.symm,hsecond.1]
   · by_cases hb:name=utf8 "b"
     · simp [hb,hnames]
     · rw [if_neg ha,if_neg hb]
       split
       · simp [hb,hsecond.2]
       · simp [hb]

/-- Safe, and not because it never gets anywhere: one run ends with success. -/
theorem delete_safe_pair : DeleteSafe pair pairDirectory ∧
 ∃ result s,Reports pair pairDirectory result s ∧ result.status=.success:=by
 constructor
 · refine delete_safe pair pairDirectory (by decide +kernel) rfl ?_
   have hfirst:identityOf (itemAt pair 0)=utf8 "posix:1:2" ∧
     nameOf (itemAt pair 0).source=utf8 "a" := by decide +kernel
   have hsecond:identityOf (itemAt pair 1)=utf8 "posix:1:4" ∧
     nameOf (itemAt pair 1).source=utf8 "b" := by decide +kernel
   intro item hmem
   obtain rfl | rfl : item=itemAt pair 0 ∨ item=itemAt pair 1:=by
    simpa [pair,itemAt] using hmem
   · rw [hfirst.1,hfirst.2]
     exact pairDirectory_at.1
   · rw [hsecond.1,hsecond.2]
     exact pairDirectory_at.2
 · have hrun:=run_completes serve_sound (runPrepared pair) ⟨⟨none,none⟩,pairDirectory⟩
   refine ⟨_,_,.first hrun,?_⟩
   decide +kernel

end VoVe.DeleteRunSafety
