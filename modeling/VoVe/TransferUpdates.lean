import VoVe.TransferShape

set_option autoImplicit false

namespace VoVe.TransferUpdates
open ByteCodec AsciiText FileOperation
open TransferTransaction FileTransferProtocol FileTransferCoordinator TransferShape

variable {t t' : FileTransferTransaction} {index : ℕ} {item item' : FileTransferItem}

/-- A new state of the current item that changes neither its paths nor its source. -/
structure Reworks (t : FileTransferTransaction) (index : ℕ) (item' : FileTransferItem) : Prop where
 claim : claimOf item'=claimOf (itemAt t index)
 identity : sourceIdentity item'=sourceIdentity (itemAt t index)
 unaliased : snapshotEmpty item'.overwriteDestinationSnapshot=true ∨
  stableObjectIdentity item'.overwriteDestinationSnapshot.sourceRevisionUtf8 ∉
   t.items.map sourceIdentity

lemma sourceIdentities_set (hinside:index<t.items.length)
 (hidentity:sourceIdentity item'=sourceIdentity (itemAt t index)):
 (t.items.set index item').map sourceIdentity=t.items.map sourceIdentity:=by
 rw [List.map_set,hidentity,itemAt_eq hinside]
 apply List.ext_getElem (by simp)
 intro i hi hi'
 by_cases hsame:index=i
 · subst hsame
   simp
 · simp [List.getElem_set_ne hsame]

lemma Reworks.revises (h:TransferSound t) (hinside:index<t.items.length)
  (hreworks:Reworks t index item') (hoperation:t'.operationId=t.operationId)
  (hkind:t'.kind=t.kind) (hitems:t'.items=t.items.set index item')
  (hversion:t.version≤t'.version) (hknown:validTransactionVersion t'.version=true):
  Revises t t' index item' where
 operationId:=hoperation
 kind:=hkind
 items:=hitems
 claim:=hreworks.claim
 version:=hversion
 known:=hknown
 identities:=by
  rw [hitems,sourceIdentities_set hinside hreworks.identity]
  exact h.identities
 aliases:=by
  rw [hitems,sourceIdentities_set hinside hreworks.identity]
  intro item hmem
  obtain hmem | rfl:=List.mem_or_eq_of_mem_set hmem
  · exact h.aliases item hmem
  · exact hreworks.unaliased

lemma reworks_same (h:TransferSound t) (hinside:index<t.items.length):
  Reworks t index (itemAt t index) where
 claim:=rfl
 identity:=rfl
 unaliased:=h.aliases _ (by rw [itemAt_eq hinside]; exact List.getElem_mem hinside)

lemma items_same (hinside:index<t.items.length):
 t.items=t.items.set index (itemAt t index):=by
 rw [itemAt_eq hinside,List.set_getElem_self]

lemma sound_itemAt (h:TransferSound t) (hinside:index<t.items.length):
 ItemSound t.version t.kind t.phase (itemAt t index):=
 h.sound _ (by rw [itemAt_eq hinside]; exact List.getElem_mem hinside)

lemma current_of_phase (h:TransferSound t) (hphase:t.phase≠.completed):
 Current t (completedPrefix t):=by
 apply current_of_inside
 by_contra hall
 apply hphase
 rw [h.completed]
 intro item hmem
 obtain ⟨i,hi,rfl⟩:=List.mem_iff_getElem.mp hmem
 have hfinal:i<completedPrefix t:=by omega
 rw [completedPrefix_eq] at hfinal
 simpa using List.not_of_lt_findIdx hfinal

lemma toNat_ofNat_index (h:TransferSound t) (hinside:index<t.items.length):
 (UInt32.ofNat index).toNat=index:=by
 have hsize:=h.size
 simp only [kMaximumFileTransferItems] at hsize
 rw [UInt32.toNat_ofNat_of_lt']
 change index<2 ^ 32
 omega

/-- Work goes on, or is being turned back. -/
def Working (phase : FileTransferPhase) : Prop := phase = .processing ∨ phase = .prepublishCleanup

lemma Working.unprepared {phase : FileTransferPhase} (h:Working phase) : phase≠.prepared:=by
 obtain rfl | rfl:=h
 · exact nofun
 · exact nofun

lemma Working.uncompleted {phase : FileTransferPhase} (h:Working phase) : phase≠.completed:=by
 obtain rfl | rfl:=h
 · exact nofun
 · exact nofun

lemma sound_beginStep (h:TransferSound t) (hcurrent:Current t index)
 (hworking:Working t.phase) {step : FileTransferStep} (hreal:step≠.none)
 (hfits:itemStepMatches (beginStep t index step) (itemAt t index)=true):
 TransferSound (beginStep t index step):=by
 have hinside:=hcurrent.inside
 have hrevises:Revises t (beginStep t index step) index (itemAt t index):=
  (reworks_same h hinside).revises h hinside rfl rfl (items_same hinside) (UInt32.le_refl _)
   h.version
 have hsound:=sound_itemAt h hinside
 apply h.revise hcurrent hrevises hsound
 · right
   exact ⟨hreal,toNat_ofNat_index h hinside,hfits,hcurrent.unfinished,hworking.uncompleted⟩
 · exact h.cancelled
 · intro hsuccess
   exact ⟨rfl,(h.failure hsuccess).2⟩
 · exact hworking.unprepared
 · simp [beginStep,hworking.uncompleted,hcurrent.unfinished]

/-- The failure fields say nothing of a success. -/
def FailureSound (t : FileTransferTransaction) : Prop:=
 t.failureStatus = .success → t.activeEvidence = .none ∧ t.failureEvidence = .none ∧
  t.failureDetailUtf8 = []

/-- No step is left under way, and the current item is still not finished. -/
structure Rests (t t' : FileTransferTransaction) (index : ℕ) (item' : FileTransferItem):
  Prop where
 operationId : t'.operationId=t.operationId
 kind : t'.kind=t.kind
 items : t'.items=t.items.set index item'
 version : t.version≤t'.version
 known : validTransactionVersion t'.version=true
 idle : Idle t'
 working : Working t'.phase
 cancelled : t'.cancelled=true → t'.version≥5 ∧ t'.phase=.prepublishCleanup
 failure : FailureSound t'

lemma sound_rests (h:TransferSound t) (hcurrent:Current t index)
 (hreworks:Reworks t index item') (hrests:Rests t t' index item')
 (hsound:ItemSound t'.version t.kind t'.phase item')
 (hunfinished:finalItem t.kind item'=false) : TransferSound t':=by
 have hrevises:Revises t t' index item':=
  hreworks.revises h hcurrent.inside hrests.operationId hrests.kind hrests.items hrests.version
   hrests.known
 apply h.revise hcurrent hrevises hsound (.inl hrests.idle) hrests.cancelled hrests.failure
  hrests.working.unprepared
 simp [hrests.working.uncompleted,hunfinished]

lemma completedPrefix_eq_length:
 completedPrefix t=t.items.length ↔ ∀item∈t.items,finalItem t.kind item=true:=by
 rw [completedPrefix_eq,List.findIdx_eq_length]
 simp

lemma advance_cleanup (h:t.phase=.prepublishCleanup) : advance t=clearActive t:=by
 unfold advance
 exact if_pos h

lemma advance_processing (h:t.phase≠.prepublishCleanup):
 advance t={ clearFailure (clearActive t) with
  phase:=if completedPrefix t=t.items.length then .completed else .processing }:=by
 unfold advance
 exact if_neg h

lemma sound_forward (h:TransferSound t) (hcurrent:Current t index)
 (hreworks:Reworks t index item') {phase : FileTransferPhase}
 (hsound:ItemSound t.version t.kind phase item') (hphase:t.phase≠.prepublishCleanup)
 (hprepared:phase≠.prepared)
 (hcompleted:phase=.completed ↔ finalItem t.kind item'=true ∧ index+1=t.items.length):
 TransferSound { clearFailure (clearActive (setItem t index item')) with phase:=phase }:=by
 have hrevises:Revises t { clearFailure (clearActive (setItem t index item')) with
   phase:=phase } index item':=
  hreworks.revises h hcurrent.inside rfl rfl rfl (UInt32.le_refl _) h.version
 apply h.revise hcurrent hrevises hsound
 · exact .inl ⟨rfl,rfl,rfl⟩
 · intro hcancelled
   exact absurd (h.cancelled hcancelled).2 hphase
 · exact fun _=>⟨rfl,rfl,rfl⟩
 · exact hprepared
 · exact hcompleted

lemma sound_advance (h:TransferSound t) (hcurrent:Current t index)
 (hreworks:Reworks t index item') (hsound:ItemSound t.version t.kind t.phase item')
 (hcleanup:t.phase=.prepublishCleanup → finalItem t.kind item'=false):
 TransferSound (advance (setItem t index item')):=by
 have hkept:(setItem t index item').phase=t.phase:=rfl
 by_cases hphase:t.phase=.prepublishCleanup
 · rw [advance_cleanup (hkept.trans hphase)]
   have hrests:Rests t (clearActive (setItem t index item')) index item':=by
    refine ⟨rfl,rfl,rfl,UInt32.le_refl _,h.version,⟨rfl,rfl,rfl⟩,.inr hphase,
     h.cancelled,fun hsuccess=>?_⟩
    exact ⟨rfl,(h.failure hsuccess).2⟩
   exact sound_rests h hcurrent hreworks hrests hsound (hcleanup hphase)
 · rw [advance_processing fun hcleanup=>hphase (hkept.symm.trans hcleanup)]
   have hall:completedPrefix (setItem t index item')=(setItem t index item').items.length ↔
     finalItem t.kind item'=true ∧ index+1=t.items.length:=by
    rw [completedPrefix_eq_length]
    exact h.revised_all hcurrent rfl
   apply sound_forward h hcurrent hreworks _ hphase
   · split
     · exact nofun
     · exact nofun
   · rw [←hall]
     split
     · next hdone => exact ⟨fun _=>hdone,fun _=>rfl⟩
     · next hmore => exact ⟨nofun,fun hdone=>absurd hdone hmore⟩
   · apply hsound.mono (UInt32.le_refl _)
     split
     · exact nofun
     · exact nofun

section Items
variable {version : UInt32} {kind : FileTransferKind} {phase : FileTransferPhase}
 {s snapshot : SourceSnapshot}

/-- The text of a snapshot that the journal can hold and read back. -/
def Storable (snapshot : SourceSnapshot) : Prop:=
 startsWith snapshot.sourceRevisionUtf8 winFile = false ∧
  validUtf8WithoutNul snapshot.sourceRevisionUtf8 = true

/-- What the object a committed rename confirms has to be like. -/
def RenameFits (phase : FileTransferPhase) (item : FileTransferItem) (snapshot : SourceSnapshot):
  FileTransferStep → Prop
 | .atomicMove=>phase≠.prepublishCleanup ∧
   startsWith snapshot.sourceRevisionUtf8 winFile = false ∧
   sameObjectIdentity item.originalSourceSnapshot.sourceRevisionUtf8
    snapshot.sourceRevisionUtf8 = true
 | .stageSource=>startsWith snapshot.sourceRevisionUtf8 winFile = false ∧
   validSnapshot snapshot = true ∧
   sameObjectAfterRename item.originalSourceSnapshot snapshot = true
 | .publishTemp=>phase≠.prepublishCleanup ∧
   startsWith snapshot.sourceRevisionUtf8 winFile = false ∧ validSnapshot snapshot = true ∧
   snapshot.sizeBytes = item.contentBytes
 | .restoreStagedSource=>item.destinationState = .absent ∧
   startsWith snapshot.sourceRevisionUtf8 winFile = false ∧ validSnapshot snapshot = true ∧
   sameObjectAfterRename item.originalSourceSnapshot snapshot = true
 | .evacuateOverwriteDestination=>Storable snapshot ∧ validSnapshot snapshot = true ∧
   sameObjectAfterRename item.overwriteDestinationSnapshot snapshot = true
 | _=>True

lemma sameSnapshot_renamed {before after : SourceSnapshot}
 (h:sameSnapshot before after=true) : sameObjectAfterRename before after=true:=by
 simp only [sameSnapshot,sameSourceRevision,decide_eq_true_eq] at h
 obtain ⟨hsize,hmodified,-,-,hidentity⟩:=h
 simp [sameObjectAfterRename,hsize,hmodified,hidentity,timestampsWithinTolerance]

lemma sound_clearOverwrite (h:ItemSound version kind phase item):
 ItemSound version kind phase (clearOverwrite item) := { h with
  overwrite:=by simp [overwriteStateValid,clearOverwrite,snapshotEmpty]
  authorization:=by simp [overwriteSnapshotValid,clearOverwrite,snapshotEmpty]
  backup:=by simp [overwriteSnapshotValid,clearOverwrite,snapshotEmpty]
  restorable hphase hpublished:=by
   have hfinal:=h.restorable hphase hpublished
   simp only [finalItem,clearOverwrite,decide_eq_true_eq] at hfinal ⊢
   exact ⟨hfinal.1,trivial,hfinal.2.2⟩ }

lemma sound_forgetReplaced (h:ItemSound version kind phase item) (version' : UInt32):
 ItemSound version kind phase (forgetReplaced version' item):=by
 unfold forgetReplaced
 split
 · exact sound_clearOverwrite h
 · exact h

lemma noContent_of_absent (h:destinationProofValid item=true)
 (habsent:item.destinationState=.absent):
 item.contentBytes=0 ∧ digestEmpty item.contentSha256=true ∧
  item.contentProofPresent=false:=by
 simp only [destinationProofValid,habsent,if_true,decide_eq_true_eq] at h
 obtain ⟨-,hbytes,hdigest,hproof⟩:=h
 exact ⟨hbytes,hdigest,by simpa using hproof⟩

section
variable (h:ItemSound version kind phase item)
include h

lemma source_unchanged
 (horiginal:item.sourceLocation=.original) (hstrategy:item.strategy≠.moveStream):
 sameSnapshot item.originalSourceSnapshot item.currentSourceSnapshot=true:=by
 have hsource:=h.source
 simpa [sourceSnapshotValid,horiginal,hstrategy] using hsource

lemma sound_atomicMove (hkind:kind=.move)
 (hstrategy:item.strategy=.moveUndecided) (horiginal:item.sourceLocation=.original)
 (habsent:item.destinationState=.absent) (hfits:RenameFits phase item s .atomicMove):
 ItemSound version kind phase { item with
  strategy:=.moveAtomic,sourceLocation := .removed,destinationState := .published
  destinationSnapshot:=s }:=by
 obtain ⟨hphase,hstrong,hidentity⟩:=hfits
 subst hkind
 have hvalid:validSnapshot s=true:=by
  simp only [sameObjectIdentity] at hidentity
  by_contra hempty
  simp only [validSnapshot,ne_eq,decide_not,Bool.not_eq_true',Bool.not_eq_false,
   decide_eq_true_eq] at hempty
  simp [hempty] at hidentity
 obtain ⟨hbytes,hdigest,hproof⟩:=noContent_of_absent h.proof habsent
 have hreason:item.moveStreamReason=.none:=by
  have hlocations:=h.strategy
  simp only [strategyAndLocationsValid,hstrategy,decide_eq_true_eq] at hlocations
  exact hlocations.1
 refine ⟨h.overwrite,h.authorization,h.backup,h.identity,h.current,?_,h.strongOriginal,
  h.strongCurrent,.inr hstrong,h.parents,?_,?_,fun hcleanup=>absurd hcleanup hphase,
  by simp [streamedStrategy]⟩
 · have hsame:=source_unchanged h horiginal (by simp [hstrategy])
   simpa [sourceSnapshotValid] using sameSnapshot_renamed hsame
 · simp [strategyAndLocationsValid,hreason]
 · simp [destinationProofValid,hvalid,hbytes,hdigest,hproof,hidentity]

lemma sound_stageSource (hkind:kind=.move)
 (hstrategy:item.strategy=.moveStream) (habsent:item.destinationState=.absent)
 (hfits:RenameFits phase item s .stageSource):
 ItemSound version kind phase
  { item with sourceLocation:=.staged,currentSourceSnapshot:=s }:=by
 obtain ⟨hstrong,hvalid,hsame⟩:=hfits
 subst hkind
 refine ⟨h.overwrite,h.authorization,h.backup,h.identity,hvalid,?_,h.strongOriginal,
  hstrong,h.strongDestination,h.parents,?_,h.proof,?_,h.token⟩
 · simpa [sourceSnapshotValid] using hsame
 · have hlocations:=h.strategy
   simp [strategyAndLocationsValid,hstrategy,habsent] at hlocations ⊢
   exact hlocations.1
 · intro _ hpublished
   exact absurd (habsent.symm.trans hpublished) nofun

lemma sound_restoreStagedSource (hkind:kind=.move)
 (hstrategy:item.strategy=.moveStream)
 (hfits:RenameFits phase item s .restoreStagedSource):
 ItemSound version kind phase
  { item with sourceLocation:=.original,currentSourceSnapshot:=s }:=by
 obtain ⟨habsent,hstrong,hvalid,hsame⟩:=hfits
 subst hkind
 refine ⟨h.overwrite,h.authorization,h.backup,h.identity,hvalid,?_,h.strongOriginal,
  hstrong,h.strongDestination,h.parents,?_,h.proof,?_,h.token⟩
 · simpa [sourceSnapshotValid,hstrategy] using hsame
 · have hlocations:=h.strategy
   simp [strategyAndLocationsValid,hstrategy,habsent] at hlocations ⊢
   exact hlocations.1
 · intro _ hpublished
   exact absurd (habsent.symm.trans hpublished) nofun

end

lemma content_of_ready (h:destinationProofValid item=true)
 (hready:item.destinationState=.contentReady):
 streamedStrategy item.strategy=true ∧
  item.contentBytes=item.originalSourceSnapshot.sizeBytes ∧ item.contentProofPresent=true:=by
 unfold destinationProofValid at h
 simp only [hready] at h
 split at h
 · next habsent => cases habsent
 · split at h
   · cases h
   · split at h
     · next hatomic =>
       have:=of_decide_eq_true h
       cases this.1
     · split at h
       · next hreserved => cases hreserved
       · have:=of_decide_eq_true h
         exact ⟨this.1,this.2.1,this.2.2.2⟩

lemma sound_publishTemp (h:ItemSound version kind phase item)
 (hready:item.destinationState=.contentReady)
 (hfits:RenameFits phase item s .publishTemp):
 ItemSound version kind phase
  { item with destinationState:=.published,destinationSnapshot:=s }:=by
 obtain ⟨hphase,hstrong,hvalid,hsize⟩:=hfits
 obtain ⟨hstreamed,hbytes,hproof⟩:=content_of_ready h.proof hready
 refine ⟨h.overwrite,h.authorization,h.backup,h.identity,h.current,h.source,
  h.strongOriginal,h.strongCurrent,.inr hstrong,h.parents,?_,?_,
  fun hcleanup=>absurd hcleanup hphase,?_⟩
 · have hlocations:=h.strategy
   cases kind with
   | copy=>exact hlocations
   | move=>
    cases hstrategy:item.strategy with
    | moveStream=>
     simp [strategyAndLocationsValid,hstrategy,hready] at hlocations ⊢
     exact ⟨hlocations.1,.inl hlocations.2⟩
    | copyStream=>simp [strategyAndLocationsValid,hstrategy] at hlocations
    | moveUndecided=>simp [streamedStrategy,hstrategy] at hstreamed
    | moveAtomic=>simp [streamedStrategy,hstrategy] at hstreamed
 · have hatomic:item.strategy≠.moveAtomic:=by
    intro hatomic
    simp [streamedStrategy,hatomic] at hstreamed
   simp [destinationProofValid,hvalid,hatomic,hstreamed,hbytes.symm,hsize,hproof]
 · intro _ _
   exact h.token hstreamed (by simp [hready])

lemma stableObjectIdentity_nil : stableObjectIdentity []=[] := by decide

lemma not_empty_of_valid (hvalid:validSnapshot s=true) : snapshotEmpty s=false:=by
 by_contra hempty
 simp only [snapshotEmpty,Bool.not_eq_false,decide_eq_true_eq] at hempty
 simp [validSnapshot,hempty.2.2,stableObjectIdentity_nil] at hvalid

lemma sound_evacuated (h:ItemSound version kind phase item) (hversion:version≥6)
 (hauthorized:item.overwriteState=.authorized) (hunpublished:item.destinationState≠.published)
 (hstorable:Storable s) (hvalid:validSnapshot s=true)
 {state : OverwriteDestinationState}
 (hstate:state=.evacuatedUnexpected ∨ state=.evacuated ∧
  sameObjectAfterRename item.overwriteDestinationSnapshot s=true):
 ItemSound version kind phase
  { item with overwriteBackupSnapshot:=s,overwriteState:=state }:=by
 have hpresent:snapshotEmpty item.overwriteDestinationSnapshot=false:=by
  have hold:=h.overwrite
  simp [overwriteStateValid,hauthorized] at hold
  exact hold.1
 refine ⟨?_,h.authorization,?_,h.identity,h.current,h.source,h.strongOriginal,
  h.strongCurrent,h.strongDestination,h.parents,h.strategy,h.proof,
  fun _ hpublished=>absurd hpublished hunpublished,h.token⟩
 · obtain rfl | ⟨rfl,hsame⟩:=hstate
   · simp [overwriteStateValid,hpresent,not_empty_of_valid hvalid]
   · simp [overwriteStateValid,hpresent,not_empty_of_valid hvalid,hsame]
 · simp [overwriteSnapshotValid,hversion,hvalid,hstorable.1,hstorable.2]

lemma sound_sourceRemoved (h:ItemSound version kind phase item) (hkind:kind=.move)
 (hstrategy:item.strategy=.moveStream) (hstaged:item.sourceLocation=.staged)
 (hpublished:item.destinationState=.published):
 phase≠.prepublishCleanup ∧
  ItemSound version kind phase { item with sourceLocation:=.removed }:=by
 subst hkind
 have hphase:phase≠.prepublishCleanup:=by
  intro hcleanup
  have hfinal:=h.restorable hcleanup hpublished
  simp [finalItem,hstaged] at hfinal
 refine ⟨hphase,h.overwrite,h.authorization,h.backup,h.identity,h.current,?_,
  h.strongOriginal,h.strongCurrent,h.strongDestination,h.parents,?_,h.proof,
  fun hcleanup=>absurd hcleanup hphase,h.token⟩
 · have hsource:=h.source
   simpa [sourceSnapshotValid,hstaged] using hsource
 · have hlocations:=h.strategy
   simp [strategyAndLocationsValid,hstrategy,hpublished] at hlocations ⊢
   exact hlocations.1

/-- The item may hold a temporary object: it is copied, or its source is staged. -/
def Streamable (kind : FileTransferKind) (item : FileTransferItem) : Prop:=
 kind = .copy ∨ kind = .move ∧ item.strategy = .moveStream ∧ item.sourceLocation = .staged

section
variable (h:strategyAndLocationsValid kind item=true)
include h

lemma streamable_of_temp
 (hstate:item.destinationState=.tempReserved ∨ item.destinationState=.contentReady):
 Streamable kind item:=by
 cases kind with
 | copy=>exact .inl rfl
 | move=>
  right
  cases hstrategy:item.strategy with
  | moveStream=>
   obtain hstate | hstate:=hstate
   · simp [strategyAndLocationsValid,hstrategy,hstate] at h
     exact ⟨rfl,rfl,h.2⟩
   · simp [strategyAndLocationsValid,hstrategy,hstate] at h
     exact ⟨rfl,rfl,h.2⟩
  | copyStream=>simp [strategyAndLocationsValid,hstrategy] at h
  | moveUndecided=>obtain hstate | hstate := hstate <;>
    simp [strategyAndLocationsValid,hstrategy,hstate] at h
  | moveAtomic=>obtain hstate | hstate := hstate <;>
    simp [strategyAndLocationsValid,hstrategy,hstate] at h

lemma strategy_of_streamable
 (hstreamable:Streamable kind item) (state : FileTransferDestinationState):
 strategyAndLocationsValid kind { item with destinationState:=state }=true:=by
 obtain rfl | ⟨rfl,hstrategy,hstaged⟩:=hstreamable
 · exact h
 · have hreason:item.moveStreamReason=.crossDeviceNoCommit:=by
    simp only [strategyAndLocationsValid,hstrategy,Bool.and_eq_true,decide_eq_true_eq] at h
    exact h.1
   cases state<;>simp [strategyAndLocationsValid,hstrategy,hstaged,hreason]

lemma not_atomic_of_streamable
 (hstreamable:Streamable kind item) : item.strategy≠.moveAtomic:=by
 obtain rfl | ⟨-,hstrategy,-⟩:=hstreamable
 · simp only [strategyAndLocationsValid,decide_eq_true_eq] at h
   simp [h.1]
 · simp [hstrategy]

lemma streamed_of_streamable
 (hstreamable:Streamable kind item) : streamedStrategy item.strategy=true:=by
 obtain rfl | ⟨-,hstrategy,-⟩:=hstreamable
 · simp only [strategyAndLocationsValid,decide_eq_true_eq] at h
   simp [streamedStrategy,h.1]
 · simp [streamedStrategy,hstrategy]

end

section
variable (h:ItemSound version kind phase item)
include h

lemma sound_clearDestinationProof
 (hstreamable:Streamable kind item):
 ItemSound version kind phase (clearDestinationProof item) := { h with
  strongDestination:=.inl rfl
  strategy:=strategy_of_streamable h.strategy hstreamable .absent
  proof:=by
   simp [destinationProofValid,clearDestinationProof,snapshotEmpty,digestEmpty,FixedBytes.zero]
  restorable _ hpublished := nomatch hpublished
  token _ hstate := absurd rfl hstate }

lemma sound_tempReserved
 (hstreamable:Streamable kind item) (htoken:tokenEmpty item.requestToken=false)
 (hstrong:startsWith s.sourceRevisionUtf8 winFile=false)
 (hvalid:validSnapshot s=true) {digest : ContentDigest} {bytes : UInt64} {proof : Bool}
 (hcontent:bytes=0 ∧ digestEmpty digest=true ∧ proof=false):
 ItemSound version kind phase { item with
  destinationSnapshot:=s,contentSha256 := digest,contentBytes := bytes
  contentProofPresent:=proof,destinationState := .tempReserved } := { h with
  strongDestination:=.inr hstrong
  strategy:=strategy_of_streamable h.strategy hstreamable .tempReserved
  proof:=by
   obtain ⟨rfl,hdigest,rfl⟩:=hcontent
   simp [destinationProofValid,hvalid,not_atomic_of_streamable h.strategy hstreamable,hdigest,
    htoken]
  restorable _ hpublished := nomatch hpublished
  token _ _ := htoken }

lemma sound_reserved
 (hstreamable:Streamable kind item) (htoken:tokenEmpty item.requestToken=false)
 (habsent:item.destinationState=.absent) {reservation : FileTransferReservation}
 (hstrong:startsWith reservation.tempSnapshot.sourceRevisionUtf8 winFile=false)
 (hvalid:validSnapshot reservation.tempSnapshot=true)
 (hparent:stableObjectIdentity reservation.destinationParentRevisionUtf8=
  item.destinationParentIdentityUtf8):
 ItemSound version kind phase (reservedItem item reservation):=by
 have hreserved:=sound_tempReserved h hstreamable htoken hstrong hvalid
  (noContent_of_absent h.proof habsent)
 exact { hreserved with
  parents:=by
   have hparents:=h.parents
   simp only [parentIdentityValid,Bool.and_eq_true] at hparents ⊢
   exact ⟨hparents.1,decide_eq_true hparent⟩ }

lemma sound_streamed
 (hstreamable:Streamable kind item) (htoken:tokenEmpty item.requestToken=false)
 {result : FileTransferStreamResult}
 (hbytes:result.bytesWritten=item.originalSourceSnapshot.sizeBytes)
 (hstrong:startsWith result.tempSnapshot.sourceRevisionUtf8 winFile=false)
 (hvalid:validSnapshot result.tempSnapshot=true)
 (hsize:result.tempSnapshot.sizeBytes=result.bytesWritten):
 ItemSound version kind phase (streamedItem item result) := { h with
  strongDestination:=.inr hstrong
  strategy:=strategy_of_streamable h.strategy hstreamable .contentReady
  proof:=by
   have hatomic:=not_atomic_of_streamable h.strategy hstreamable
   have hstreamed:=streamed_of_streamable h.strategy hstreamable
   simp [destinationProofValid,streamedItem,hvalid,hatomic,hstreamed,hbytes,hsize]
  restorable _ hpublished := nomatch hpublished
  token _ _ := htoken }

lemma sound_seen
 (hreserved:item.destinationState=.tempReserved)
 (hstrong:startsWith s.sourceRevisionUtf8 winFile=false)
 (hvalid:validSnapshot s=true):
 ItemSound version kind phase { item with destinationSnapshot:=s } := { h with
  strongDestination:=.inr hstrong
  proof:=by
   have hstreamable:=streamable_of_temp h.strategy (.inl hreserved)
   have hatomic:=not_atomic_of_streamable h.strategy hstreamable
   have hproof:=h.proof
   unfold destinationProofValid at hproof ⊢
   simp only [hreserved] at hproof ⊢
   split at hproof
   · next habsent => cases habsent
   · split at hproof
     · cases hproof
     · simpa [hvalid,hatomic] using hproof
  restorable _ hpublished := absurd (hreserved.symm.trans hpublished) nofun }

lemma sound_streamInstead (hkind:kind=.move)
 (hstrategy:item.strategy=.moveUndecided) (horiginal:item.sourceLocation=.original)
 (habsent:item.destinationState=.absent):
 ItemSound version kind phase
  { item with strategy:=.moveStream,moveStreamReason:=.crossDeviceNoCommit } := { h with
  source:=by
   have hsame:=source_unchanged h horiginal (by simp [hstrategy])
   simpa [sourceSnapshotValid,hkind,horiginal] using sameSnapshot_renamed hsame
  strategy:=by simp [strategyAndLocationsValid,hkind,habsent,horiginal]
  proof:=by
   have hproof:=h.proof
   simpa [destinationProofValid,habsent] using hproof
  restorable _ hpublished := absurd (habsent.symm.trans hpublished) nofun
  token _ hstate := absurd habsent hstate }

lemma sound_requestToken
 (habsent:item.destinationState=.absent) (token : RequestToken):
 ItemSound version kind phase { item with requestToken:=token } := { h with
  proof:=by
   have hproof:=h.proof
   simpa [destinationProofValid,habsent] using hproof
  restorable _ hpublished := absurd (habsent.symm.trans hpublished) nofun
  token _ hstate := absurd habsent hstate }

lemma overwrite_of_undecided
 (hundecided:overwriteUndecided item=true) : item.overwriteState=.none ∧
  snapshotEmpty item.overwriteDestinationSnapshot=true ∧
  snapshotEmpty item.overwriteBackupSnapshot=true:=by
 have hempty:snapshotEmpty item.overwriteDestinationSnapshot=true:=by
  by_contra hpresent
  have hvalid:=h.authorization
  simp only [overwriteUndecided,decide_eq_true_eq] at hundecided
  simp [overwriteSnapshotValid,hpresent,validSnapshot,hundecided,
   stableObjectIdentity_nil] at hvalid
 have hstate:=h.overwrite
 cases hoverwrite:item.overwriteState with
 | none=>
  simp [overwriteStateValid,hoverwrite] at hstate
  exact ⟨rfl,hstate⟩
 | authorized=>simp [overwriteStateValid,hoverwrite,hempty] at hstate
 | evacuated=>simp [overwriteStateValid,hoverwrite,hempty] at hstate
 | evacuatedUnexpected=>simp [overwriteStateValid,hoverwrite,hempty] at hstate

lemma sound_overwritten (hversion:version≥5)
 (hundecided:overwriteUndecided item=true) (hphase:phase≠.prepublishCleanup)
 (hstorable:Storable s) (hvalid:validSnapshot s=true):
 ItemSound version kind phase (overwrittenItem item s) := { h with
  overwrite:=by
   obtain ⟨-,-,hbackup⟩:=overwrite_of_undecided h hundecided
   simp [overwriteStateValid,overwrittenItem,not_empty_of_valid hvalid,hbackup]
  authorization:=by
   simp [overwriteSnapshotValid,overwrittenItem,hversion,hvalid,hstorable.1,hstorable.2]
  restorable hcleanup := absurd hcleanup hphase }

end

end Items

lemma sound_preserved (h:TransferSound t) {status : OperationStatus}
 {e : OperationEvidence} {detail : Bytes}
 (hidle:t.activeStep=.none → e=.none)
 (hfailure:status=.success → e=.none ∧ detail=[]):
 TransferSound { recordFailure t status e detail with activeEvidence:=e }:=
 { h with
   active:=h.active
   idle:=hidle
   failure:=fun hsuccess=>⟨(hfailure hsuccess).1,(hfailure hsuccess).1,(hfailure hsuccess).2⟩ }

lemma sound_cleanupPreserved (h:TransferSound t) {e : OperationEvidence}
 (hidle:t.activeStep=.none → e=.none)
 (hfailure:t.failureStatus=.success → e=.none):
 TransferSound { t with activeEvidence:=e }:=
 { h with
   active:=h.active
   idle:=hidle
   failure:=fun hsuccess=>⟨hfailure hsuccess,(h.failure hsuccess).2⟩ }

lemma sound_enterCleanup (h:TransferSound t) (hcurrent:Current t index)
 (hreworks:Reworks t index item') {version : UInt32} (hversion:t.version≤version)
 (hknown:validTransactionVersion version=true) {phase : FileTransferPhase}
 (hsound:ItemSound version t.kind phase item')
 (hunpublished:item'.destinationState≠.published) {cancelled : Bool}
 (hcancelled:cancelled=true → version≥5) {status : OperationStatus}
 {e : OperationEvidence} {detail : Bytes}
 (hfailure:status=.success → e=.none ∧ detail=[]):
 TransferSound (recordFailure { clearActive (setItem t index item') with
  version:=version,cancelled := cancelled,phase := .prepublishCleanup }
  status e detail):=by
 have hrests:Rests t (recordFailure { clearActive (setItem t index item') with
   version:=version,cancelled := cancelled,phase := .prepublishCleanup }
   status e detail) index item':=by
  refine ⟨rfl,rfl,rfl,hversion,hknown,⟨rfl,rfl,rfl⟩,.inr rfl,?_,?_⟩
  · intro hyes
    exact ⟨hcancelled hyes,rfl⟩
  · intro hsuccess
    exact ⟨rfl,hfailure hsuccess⟩
 apply sound_rests h hcurrent hreworks hrests
 · exact hsound.mono (UInt32.le_refl _) fun _ hpublished=>absurd hpublished hunpublished
 · simp [finalItem,hunpublished]

end VoVe.TransferUpdates
