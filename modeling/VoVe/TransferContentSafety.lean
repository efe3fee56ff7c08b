import VoVe.TransferContentRun

set_option autoImplicit false

namespace VoVe.TransferContentSafety
open ByteCodec AsciiText PosixPath EffectProgram JournalDisk
open CurrentOperationJournal FileOperation
open OperationWorld hiding RenameTruth
open OperationRequest (RenameRequest)
open TransferTransaction TransferTransactionCodec FileTransferProtocol FileTransferCoordinator ObjectDirectory
open TransferShape TransferRunRule TransferWorld TransferAccounts
open TransferRecords TransferContentRule TransferContentRun

variable (prepared : FileTransferTransaction)

abbrev asideKey (index : ℕ) : Bytes:=
 transferPathKey
  (fileTransferStagedSourcePath (itemAt prepared index).source prepared.operationId index)

abbrev keptKey (index : ℕ) (destination : Path) : Bytes:=
 transferPathKey (fileTransferOverwriteBackupPath destination prepared.operationId index)

section Places
variable (prepared : FileTransferTransaction) (start files : Files) (index : ℕ)

def SourceOf (object : FileObject) : Prop:=
 start (sourceKey (itemAt prepared index)) = some object ∧
  object.identity = preparedIdentity prepared index

def PublishedAt (destination : Path) : Prop:=
 ∃ object,files (transferPathKey destination) = some object ∧
  ∀source,SourceOf prepared start index source → object.content = source.content

/-- A copied source is in its place, and a moved one is at none of its own. -/
def SourceSettled : Prop:=
 ∀source,SourceOf prepared start index source →
  (prepared.kind = .copy → files (sourceKey (itemAt prepared index)) = some source) ∧
  (prepared.kind = .move → files (sourceKey (itemAt prepared index))≠some source ∧
   (files (asideKey prepared index) = none ∨
    files (asideKey prepared index) = start (asideKey prepared index)))

end Places

structure ContentSafe (prepared : FileTransferTransaction) (start : Files) (s : TransferState):
  Prop where
 source : ∀i<prepared.items.length,∀object,SourceOf prepared start i object →
  s.files (sourceKey (itemAt prepared i))=some object ∨
   s.files (asideKey prepared i)=some object ∨
   ∃ destination,Assigned (itemAt prepared i).destination destination ∧
    ∃ published,s.files (transferPathKey destination)=some published ∧
     published.content=object.content
 foreign : ∀i<prepared.items.length,∀object,
  start (sourceKey (itemAt prepared i))=some object →
  object.identity≠preparedIdentity prepared i →
  s.files (sourceKey (itemAt prepared i))=some object
 refused : ∀key object,start key=some object → UserKey prepared key →
  (key,object.identity)∉s.approved → s.files key=some object
 authorized : ∀key object,start key=some object → UserKey prepared key →
  (key,object.identity)∈s.approved → s.files key=some object ∨
   ∃ i<prepared.items.length,∃ destination,
    Assigned (itemAt prepared i).destination destination ∧ transferPathKey destination=key ∧
    (s.files (keptKey prepared i destination)=some object ∨
     PublishedAt prepared start s.files i destination ∧ SourceSettled prepared start s.files i)

section Accounts
variable {prepared t : FileTransferTransaction} {start : Files} {s : TransferState} {index : ℕ}

lemma stagedKey_aside (hsound:TransferSound t) (hcontinues:Continues prepared t)
 (hinside:index<t.items.length) : stagedKey (itemAt t index)=asideKey prepared index:=by
 have hsame:=same_lexicallyNormal (pathsOwn hsound hinside).staged
 rw [hcontinues.sources index hinside,hcontinues.operationId] at hsame
 exact hsame

lemma backupKey_kept (hsound:TransferSound t) (hcontinues:Continues prepared t)
 (hinside:index<t.items.length):
 backupKey (itemAt t index)=keptKey prepared index (itemAt t index).destination:=by
 have hsame:=same_lexicallyNormal (pathsOwn hsound hinside).backup
 rw [hcontinues.operationId] at hsame
 exact hsame

lemma sourceKey_same (hcontinues:Continues prepared t) (hinside:index<t.items.length):
 sourceKey (itemAt t index)=sourceKey (itemAt prepared index):=by
 unfold sourceKey
 rw [hcontinues.sources index hinside]

lemma fits_of_stepOn (index : ℕ) (hsound:TransferSound t)
 (hreal:stepOn t t.activeStep index≠.none):
 Engaged t index (stepOn t t.activeStep index):=by
 unfold stepOn at hreal ⊢
 split
 · next hindex =>
   subst hindex
   apply engaged_of_active hsound
   simpa using hreal
 · next hother =>
   rw [if_neg hother] at hreal
   exact absurd rfl hreal

section
variable (hsound:TransferSound t)
include hsound

lemma published_of_removed (hinside:index<t.items.length)
 (hremoved:(itemAt t index).sourceLocation=.removed):
 (itemAt t index).destinationState=.published:=by
 have hstrategy:=(TransferUpdates.sound_itemAt hsound hinside).strategy
 unfold strategyAndLocationsValid at hstrategy
 cases hkind:t.kind with
 | copy=>simp [hkind,hremoved] at hstrategy
 | move=>
  rw [hkind] at hstrategy
  cases hplan:(itemAt t index).strategy with
  | copyStream=>simp [hplan] at hstrategy
  | moveUndecided=>simp [hplan,hremoved] at hstrategy
  | moveAtomic=>
   simp only [hplan,hremoved,decide_eq_true_eq] at hstrategy
   exact hstrategy.2.2
  | moveStream=>
   cases hstate:(itemAt t index).destinationState with
   | published=>rfl
   | absent=>simp [hplan,hremoved,hstate] at hstrategy
   | tempReserved=>simp [hplan,hremoved,hstate] at hstrategy
   | contentReady=>simp [hplan,hremoved,hstate] at hstrategy

lemma published_of_deleting
 (hstep:stepOn t t.activeStep index=.deleteSource):
 (itemAt t index).destinationState=.published:=by
 have hengaged:=fits_of_stepOn index hsound (by simp [hstep])
 have hfits:=hengaged.fits
 rw [itemStepMatches,hengaged.active,hstep] at hfits
 simp only [decide_eq_true_eq] at hfits
 exact hfits.2.2.2

lemma source_somewhere (h:Describes prepared start s t)
 (hinside:index<t.items.length) {object : FileObject}
 (hobject:SourceOf prepared start index object):
 s.files (sourceKey (itemAt t index))=some object ∨
  s.files (stagedKey (itemAt t index))=some object ∨
  ∃ published,s.files (destinationKey (itemAt t index))=some published ∧
   published.content=object.content:=by
 have hitem:=h.items index hinside
 have hgenuine:Genuine start (preparedIdentity prepared index) (itemAt t index) object:=by
  refine ⟨?_,hobject.2⟩
  rw [sourceKey_same h.continues hinside]
  exact hobject.1
 have hpublished:(itemAt t index).destinationState=.published →
   ∃ published,s.files (destinationKey (itemAt t index))=some published ∧
    published.content=object.content:=by
  intro hstate
  obtain ⟨published,hheld,hcontent⟩:=hitem.content.published hstate
  exact ⟨published,hheld,hcontent object hgenuine⟩
 have hplaced:=hitem.source.placed object hgenuine
 unfold SourcePlaced at hplaced
 cases hlocation:(itemAt t index).sourceLocation with
 | original=>
  rw [hlocation] at hplaced
  obtain hat | ⟨-,hat⟩ | ⟨-,hat⟩:=hplaced
  · exact .inl hat
  · exact .inr (.inl hat)
  · exact .inr (.inr ⟨object,hat,rfl⟩)
 | staged=>
  rw [hlocation] at hplaced
  obtain ⟨-,hat⟩ | ⟨-,hat | ⟨hstep,-⟩⟩:=hplaced
  · exact .inl hat
  · exact .inr (.inl hat)
  · exact .inr (.inr (hpublished (published_of_deleting hsound hstep)))
 | removed=>exact .inr (.inr (hpublished (published_of_removed hsound hinside hlocation)))

lemma settled_of_finished (h:Describes prepared start s t)
 (hinside:index<t.items.length) (hfinished:Finished t.kind (itemAt t index)):
 SourceSettled prepared start s.files index:=by
 intro source hsource
 have hitem:=h.items index hinside
 have hgenuine:Genuine start (preparedIdentity prepared index) (itemAt t index) source:=by
  refine ⟨?_,hsource.2⟩
  rw [sourceKey_same h.continues hinside]
  exact hsource.1
 have hplaced:=hitem.source.placed source hgenuine
 have hunder:∀step,stepOn t t.activeStep index=step → step≠.none →
   step≠.stageSource ∧ step≠.atomicMove:=by
  intro step hstep hreal
  have hengaged:=fits_of_stepOn index hsound (by rw [hstep]; exact hreal)
  have hfits:=hengaged.fits
  rw [itemStepMatches,hengaged.active,hstep] at hfits
  constructor
  · rintro rfl
    simp [hfinished.1] at hfits
  · rintro rfl
    simp [hfinished.1] at hfits
 have hfinal:=hfinished.2
 simp only [sourceFinal,decide_eq_true_eq] at hfinal
 rw [←sourceKey_same h.continues hinside,←stagedKey_aside hsound h.continues hinside,
  ← h.continues.kind]
 unfold SourcePlaced at hplaced
 obtain ⟨hkind,hlocation⟩ | ⟨hkind,hlocation⟩:=hfinal
 · refine ⟨fun _=>?_,fun hmove=>by simp [hkind] at hmove⟩
   rw [hlocation] at hplaced
   obtain hat | ⟨hstep,-⟩ | ⟨hstep,-⟩:=hplaced
   · exact hat
   · exact absurd rfl (hunder _ hstep (by simp)).1
   · exact absurd rfl (hunder _ hstep (by simp)).2
 · refine ⟨fun hcopy=>by simp [hkind] at hcopy,fun _=>?_⟩
   rw [hlocation] at hplaced
   refine ⟨hplaced.1,?_⟩
   by_cases hstrategy:(itemAt t index).strategy=.moveStream
   · exact .inl (hplaced.2 hstrategy)
   · exact .inr (hitem.source.unstaged hstrategy)

end

lemma replaced_kept (h:Describes prepared start s t)
 (hinside:index<t.items.length) {object : FileObject}
 (hobject:start (destinationKey (itemAt t index))=some object):
 s.files (destinationKey (itemAt t index))=some object ∨
  (destinationKey (itemAt t index),object.identity)∈s.approved ∧
   (s.files (backupKey (itemAt t index))=some object ∨ Finished t.kind (itemAt t index)):=by
 obtain hat | ⟨hgiven,hrest⟩:=(h.items index hinside).replaced.kept object hobject
 · exact .inl hat
 · refine .inr ⟨hgiven,?_⟩
   cases hstate:(itemAt t index).overwriteState with
   | none=>
    rw [hstate] at hrest
    exact .inr hrest
   | authorized=>
    rw [hstate] at hrest
    exact .inl hrest.2.2
   | evacuated=>
    rw [hstate] at hrest
    obtain ⟨-,hbacked⟩ | ⟨-,hfinished,-⟩:=hrest
    · exact .inl hbacked
    · exact .inr hfinished
   | evacuatedUnexpected=>
    rw [hstate] at hrest
    obtain ⟨-,hbacked⟩ | ⟨-,hfinished,-⟩:=hrest
    · exact .inl hbacked
    · exact .inr hfinished

lemma user_kept (h:Describes prepared start s t) {key : Bytes}
 {object : FileObject} (hobject:start key=some object) (huser:UserKey prepared key):
 s.files key=some object ∨ ∃ i<t.items.length,destinationKey (itemAt t i)=key ∧
  (key,object.identity)∈s.approved ∧
  (s.files (backupKey (itemAt t i))=some object ∨ Finished t.kind (itemAt t i)):=by
 by_cases hdestination:∃ i<t.items.length,key=destinationKey (itemAt t i)
 · obtain ⟨i,hi,rfl⟩:=hdestination
   obtain hat | ⟨hgiven,hrest⟩:=replaced_kept h hi hobject
   · exact .inl hat
   · exact .inr ⟨i,hi,rfl,hgiven,hrest⟩
 · left
   apply h.others key object hobject huser
   intro i hi heq
   exact hdestination ⟨i,hi,heq⟩

lemma safe_of_accounted (h:Accounted prepared start s) : ContentSafe prepared start s:=by
 obtain ⟨t,hsound,hdescribes⟩:=h
 have hcontinues:=hdescribes.continues
 have hlength:=hcontinues.length
 constructor
 · intro i hi object hobject
   have hi':i<t.items.length:=by omega
   rw [←sourceKey_same hcontinues hi',←stagedKey_aside hsound hcontinues hi']
   obtain hat | hat | ⟨published,hat,hcontent⟩:=source_somewhere hsound hdescribes hi' hobject
   · exact .inl hat
   · exact .inr (.inl hat)
   · exact .inr (.inr ⟨_,hcontinues.assigned i hi',published,hat,hcontent⟩)
 · intro i hi object hobject hforeign
   have hi':i<t.items.length:=by omega
   rw [←sourceKey_same hcontinues hi'] at hobject ⊢
   exact (hdescribes.items i hi').source.foreign object hobject hforeign
 · intro key object hobject huser hrefused
   obtain hat | ⟨i,-,-,hgiven,-⟩:=user_kept hdescribes hobject huser
   · exact hat
   · exact absurd hgiven hrefused
 · intro key object hobject huser _
   obtain hat | ⟨i,hi,rfl,-,hrest⟩:=user_kept hdescribes hobject huser
   · exact .inl hat
   · refine .inr ⟨i,by omega,_,hcontinues.assigned i hi,rfl,?_⟩
     rw [←backupKey_kept hsound hcontinues hi]
     obtain hbacked | hfinished:=hrest
     · exact .inl hbacked
     · refine .inr ⟨?_,settled_of_finished hsound hdescribes hi hfinished⟩
       obtain ⟨published,hheld,hcontent⟩:=(hdescribes.items i hi).content.published hfinished.1
       refine ⟨published,hheld,?_⟩
       intro source hsource
       apply hcontent source
       refine ⟨?_,hsource.2⟩
       rw [sourceKey_same hcontinues hi]
       exact hsource.1

end Accounts

/-- What a transfer may leave: a first session from an empty journal, and any number
  of resumed ones, each complete or cut. -/
def Reachable (sha256 : Bytes → ContentDigest) (transaction : FileTransferTransaction)
  (sources : List FileTransferSource) (files : Files) : TransferState → Prop:=
 Reach transferWorld (fun session=>∃ canAsk turns,session = runResume sha256 canAsk turns)
  fun s=>∃ canAsk turns,Leaves transferWorld
   (runPrepared sha256 canAsk turns transaction sources)
   (initial (authorizeApproved transaction sources) files) s

/-- A transfer loses no content, wherever its sessions are cut. -/
theorem content_safe (sha256 : Bytes → ContentDigest) (transaction : FileTransferTransaction)
 (sources : List FileTransferSource) (files : Files)
 (hvalid:TransferValid (authorizeApproved transaction sources))
 (hprepared:transaction.phase=.prepared):
 ∀s,Reachable sha256 transaction sources files s →
  ContentSafe (authorizeApproved transaction sources) files s:=by
 intro s hreach
 apply safe_of_accounted
 apply KeptIn.accounted
 unfold Reachable at hreach
 refine Reach.invariant ?_ ?_ hreach
 · intro s ⟨canAsk,turns,hleaves⟩
   exact wp_leaves (wp_runPrepared ((transferValid_iff _).mp hvalid) hprepared turns) hleaves
 · intro session s ⟨canAsk,turns,hsession⟩ h
   subst hsession
   exact wp_runResume h turns

def serveRename (request : RenameRequest) (use : RenameUse) (files : Files):
  OperationResult × Files:=
 match use, files (transferPathKey request.source), files (transferPathKey request.destination) with
 | .execute, some object, none=>
  if object.identity = request.expectedIdentity then
   ({ status:=.success,evidence:=.committed,confirmedSnapshot:=request.expectedSource },
    Function.update (Function.update files (transferPathKey request.source) none)
     (transferPathKey request.destination) (some object))
  else ({},files)
 | _, _, _=>({},files)

lemma renameTruth_failed (r : RenameRequest) (use : RenameUse) (files : Files):
 RenameTruth files files r use {}:=
 ⟨.kept,nofun,nofun,nofun,nofun⟩

lemma serveRename_truth (r : RenameRequest) (use : RenameUse) (files : Files):
 RenameTruth files (serveRename r use files).2 r use
  (serveRename r use files).1:=by
 unfold serveRename
 split
 · next object hsource hfree =>
   split
   · next hexpected =>
     have hmoves:Renames object (transferPathKey r.source)
       (transferPathKey r.destination) files _ := ⟨hsource,hfree,rfl⟩
     have hthere:=hmoves.at_new
     have hgone:=hmoves.at_old
     refine ⟨.moved object _ rfl hexpected hmoves,fun _=>⟨⟨object,hthere,hexpected⟩,?_,rfl⟩,
      nofun,nofun,nofun⟩
     intro ⟨other,hheld,_⟩
     exact absurd (hgone.symm.trans hheld) nofun
   · exact renameTruth_failed r _ files
 · exact renameTruth_failed r _ files

def serve : (o : TransferOp) → TransferState → TransferReply o × TransferState
 | .persist transaction, s=>
  match encodeFileTransferTransaction transaction with
  | .error _=>(.error [],s)
  | .ok payload=>
   if payload.length ≤ kMaximumCurrentOperationPayloadBytes then
    (.ok (),{ s with journal:=written s.journal (encode .fileTransfer payload) })
   else (.error [],s)
 | .removeJournal, s=>(.ok (),{ s with journal:=⟨none,none⟩ })
 | .readJournal, s=>(decode s.journal.outcome,s)
 | .stopRequested, s=>(false,s)
 | .submitRename request use, s=>
  ((serveRename request use s.files).1,{ s with files:=(serveRename request use s.files).2 })
 | .submitDelete _ _, s=>({},s)
 | .submitStream _, s=>(.rejected,s)
 | .acknowledgeReservation _ _ _, s=>({},s)
 | .submitAudit _, s=>(.rejected,s)
 | .acknowledgeAudit _ _, s=>({},s)
 | .awaitConflictDecision _, s=>(none,s)
 | .randomDevice, s=>(.zero _,s)

lemma serve_sound (o : TransferOp) (s : TransferState):
 transferWorld.answers o s (serve o s).1 (serve o s).2:=by
 cases o with
 | persist transaction=>
  cases hencoded:encodeFileTransferTransaction transaction with
  | error thrown=>
   simp only [serve,hencoded]
   exact ⟨⟨rfl,rfl⟩,hencoded ▸ .threw thrown [] rfl⟩
  | ok payload=>
   simp only [serve,hencoded]
   split
   · next hsize => exact ⟨⟨rfl,rfl⟩,hencoded ▸ .stored payload rfl hsize⟩
   · next hsize => exact ⟨⟨rfl,rfl⟩,hencoded ▸ .tooLarge payload [] rfl (by omega)⟩
 | removeJournal=>exact ⟨⟨rfl,rfl⟩,.removed⟩
 | readJournal=>exact ⟨rfl,.inl rfl⟩
 | stopRequested=>rfl
 | submitRename r use=>exact ⟨⟨rfl,rfl⟩,serveRename_truth r use s.files⟩
 | submitDelete r use=>exact ⟨⟨rfl,rfl⟩,.kept,nofun,nofun⟩
 | submitStream r=>exact ⟨⟨rfl,rfl⟩,.rejected rfl⟩
 | acknowledgeReservation r reservation accepted=>exact ⟨⟨rfl,rfl⟩,.kept,fun _=>nofun⟩
 | submitAudit r=>rfl
 | acknowledgeAudit r outcome=>rfl
 | awaitConflictDecision question=>rfl
 | randomDevice=>rfl

def moveSource : FileTransferSource:=
 { path:=⟨utf8 "/d/a"⟩,destination:=⟨utf8 "/e/a"⟩
   snapshot:={ sizeBytes:=1,sourceRevisionUtf8:=utf8 "posix:1:2:3" }
   sourceParentRevisionUtf8:=utf8 "posix:1:4:3"
   destinationParentRevisionUtf8:=utf8 "posix:1:5:3" }

def moved : FileTransferTransaction:=
 { kind:=.move,operationId:=1,items:=[preparedItem .move 1 0 moveSource] }

def moveFiles : Files := fun key =>
 if key = utf8 "/d/a" then some ⟨utf8 "posix:1:2",[65]⟩ else none

lemma moved_valid : TransferValid (authorizeApproved moved [moveSource]):=by
 unfold TransferValid
 decide +kernel

/-- No content is lost, and not because nothing ever happens: one run moves the file. -/
theorem content_safe_move : (∀s,Reachable (fun _=>.zero _) moved [moveSource] moveFiles s →
  ContentSafe (authorizeApproved moved [moveSource]) moveFiles s) ∧
 ∃ s,Reachable (fun _=>.zero _) moved [moveSource] moveFiles s ∧
  s.files (utf8 "/d/a")=none ∧ s.files (utf8 "/e/a")=some ⟨utf8 "posix:1:2",[65]⟩ ∧
  s.journal.primary=none:=by
 refine ⟨content_safe _ moved [moveSource] moveFiles moved_valid rfl,?_⟩
 have hrun:=run_completes serve_sound (runPrepared (fun _=>.zero _) false 9 moved [moveSource])
  (initial (authorizeApproved moved [moveSource]) moveFiles)
 refine ⟨_,.start ⟨false,9,hrun.leaves⟩,?_⟩
 decide +kernel

end VoVe.TransferContentSafety
