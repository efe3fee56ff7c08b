import VoVe.DirectoryTransferHistory

set_option autoImplicit false

namespace VoVe.DirectoryTransferReplay
open ByteCodec Checks
open DirectoryManifest DirectoryManifestShape
open DirectoryTransferProgress DirectoryTransferHistory ByteTotals

section Plans
variable {sha256 : Bytes → DirectoryTransferProgressDigest}
 {plan : DirectoryTransferProgressPlan sha256}

/-- What the binding of a plan ensures. -/
structure PlanSound (plan : DirectoryTransferProgressPlan sha256) : Prop where
 manifest : ManifestSound plan.manifest
 operationId : plan.header.operationId=plan.manifest.operationId
 rootCount : plan.header.rootCount.toNat=plan.manifest.roots.length
 entryCount : plan.header.entryCount.toNat=plan.manifest.entries.length
 records : plan.header.maximumRecordCount.toNat=
  plan.manifest.entries.length+2*plan.manifest.roots.length
 sealed : bytesEmpty plan.header.headerSha256=false

lemma planSound (plan : DirectoryTransferProgressPlan sha256) : PlanSound plan:=by
 have hbinds:=plan.binds
 simp only [headerBindsPlan,basicHeaderValid,controlBindsManifest,bind_unit_eq_ok,
  require_eq_ok,decide_eq_true_eq] at hbinds
 obtain ⟨⟨⟨-,-,-,-,-,-,-,-,-,-,-,-,-,-,-,hsealed⟩,-⟩,⟨-,hmanifest,-,hencoded⟩,
  hoperation,hroots,hentries,hrecords,-⟩ := hbinds
 obtain ⟨encoded,-,hcontrol⟩:=(bind_eq_ok _ _ _).mp hencoded
 simp only [require_eq_ok,decide_eq_true_eq] at hcontrol
 obtain ⟨hid,hcount,-⟩:=hcontrol
 exact ⟨sound_of_valid hmanifest,hoperation.trans hid,hroots ▸ hcount,hentries,hrecords,
  Bool.eq_false_iff.mpr hsealed⟩

end Plans

variable {entry : DirectoryTransferManifestEntry}
 {record c candidate : DirectoryTransferProgressRecord}

section Slices
variable {manifest : DirectoryTransferManifest} {i : ℕ} {root : DirectoryTransferManifestRoot}
 {rest : List DirectoryTransferManifestRoot}

lemma root_at (h:manifest.roots.drop i=root::rest):
 ∃ hi : i < manifest.roots.length,manifest.roots[i]=root ∧
  manifest.roots.drop (i+1)=rest:=by
 have hi:i < manifest.roots.length:=by
  by_contra hno
  rw [List.drop_eq_nil_of_le (by omega)] at h
  cases h
 rw [List.drop_eq_getElem_cons hi] at h
 obtain ⟨hroot,hrest⟩:=List.cons_eq_cons.mp h
 exact ⟨hi,hroot,hrest⟩

lemma sum_take_succ {counts : List ℕ} {i : ℕ} (h:i<counts.length):
 (counts.take (i+1)).sum=(counts.take i).sum+counts[i]:=by
 rw [List.take_add_one,List.sum_append,List.getElem?_eq_getElem h]
 simp

lemma sum_take_le (counts : List ℕ) (i : ℕ) : (counts.take i).sum ≤ counts.sum:=by
 have hsum:=congrArg List.sum (List.take_append_drop i counts)
 rw [List.sum_append] at hsum
 omega

section
variable (h:ManifestSound manifest)
include h

lemma slice_end (hroot:manifest.roots.drop i=root::rest):
 root.firstEntry.toNat+root.entryCount.toNat=
   (entryCounts (manifest.roots.take (i+1))).sum ∧
  root.firstEntry.toNat+root.entryCount.toNat ≤ manifest.entries.length:=by
 obtain ⟨hi,rfl,-⟩:=root_at hroot
 have hfirst:=(h.roots i hi).first
 have hcounts:i<(entryCounts manifest.roots).length:=by
  rw [entryCounts,List.length_map]
  exact hi
 have hstep:=sum_take_succ hcounts
 have hall:=sum_take_le (entryCounts manifest.roots) (i+1)
 have hcover:=h.cover
 have htake:∀n,(entryCounts manifest.roots).take n=entryCounts (manifest.roots.take n):=
  fun n=>List.map_take.symm
 have hcount:(entryCounts manifest.roots)[i]=manifest.roots[i].entryCount.toNat:=by
  simp [entryCounts]
 rw [htake,htake] at hstep
 rw [htake] at hall
 omega

lemma slice_bounds (hroot:manifest.roots.drop i=root::rest):
 i<1024 ∧ root.firstEntry.toNat+root.entryCount.toNat≤100000:=by
 obtain ⟨hi,-,-⟩:=root_at hroot
 have hroots:=h.rootsSize
 have hentries:=h.entriesSize
 unfold kMaximumDirectoryTransferRoots at hroots
 unfold kMaximumDirectoryTransferEntries at hentries
 have hend:=(slice_end h hroot).2
 omega

lemma toNat_end (hroot:manifest.roots.drop i=root::rest):
 (root.firstEntry+root.entryCount).toNat=root.firstEntry.toNat+root.entryCount.toNat:=by
 have hbound:=(slice_bounds h hroot).2
 rw [UInt32.toNat_add]
 omega

lemma length_rootEntries
 (hroot:manifest.roots.drop i=root::rest):
 (rootEntries manifest root).length=root.entryCount.toNat:=by
 have hend:=(slice_end h hroot).2
 rw [rootEntries,List.length_take,List.length_drop]
 omega

end

lemma getElem?_rootEntries {k : ℕ} (hk:k < root.entryCount.toNat):
 (rootEntries manifest root)[k]?=manifest.entries[root.firstEntry.toNat+k]?:=by
 rw [rootEntries,List.getElem?_take_of_lt hk,List.getElem?_drop]

lemma token_present (h:ManifestSound manifest) (hi:i < manifest.roots.length):
 bytesEmpty manifest.roots[i].ownershipToken=false:=by
 have hpaths:=(h.roots i hi).paths
 simp only [validRootPaths,bind_unit_eq_ok,require_eq_ok] at hpaths
 obtain ⟨-,-,-,-,htoken,-⟩:=hpaths
 rw [Bool.not_eq_true'] at htoken
 exact htoken

lemma fileBytes_append (before after : List DirectoryTransferManifestEntry):
 fileBytes (before++after)=fileBytes before+fileBytes after:=by
 rw [fileBytes,List.map_append,List.sum_append]
 rfl

lemma fileBytes_slice (manifest : DirectoryTransferManifest)
 (root : DirectoryTransferManifestRoot):
 fileBytes (rootEntries manifest root)≤fileBytes manifest.entries:=by
 have hsplit:=congrArg fileBytes (List.take_append_drop root.firstEntry.toNat manifest.entries)
 have hslice:=congrArg fileBytes (List.take_append_drop root.entryCount.toNat
  (manifest.entries.drop root.firstEntry.toNat))
 rw [fileBytes_append] at hsplit hslice
 unfold rootEntries
 omega

lemma fileBytes_lt (h:ManifestSound manifest) (root : DirectoryTransferManifestRoot):
 fileBytes (rootEntries manifest root)<2 ^ 64:=by
 have hslice:=fileBytes_slice manifest root
 have htotal:=h.total
 have hlt:=manifest.totalBytes.toNat_lt
 unfold fileBytes at hslice ⊢
 omega

variable (entries : List DirectoryTransferManifestEntry)

lemma fileBytes_take (k : ℕ):
 fileBytes (entries.take k)≤fileBytes entries:=by
 have hsplit:=congrArg fileBytes (List.take_append_drop k entries)
 rw [fileBytes_append] at hsplit
 omega

lemma addFileBytes_ok {total : UInt64} (h:total.toNat+(contentBytes entry).toNat<2 ^ 64):
 addFileBytes total entry=.ok (total+contentBytes entry):=by
 unfold addFileBytes contentBytes at *
 cases hkind:entry.kind with
 | directory=>simp
 | regularFile=>
  rw [hkind] at h
  have hroom:¬entry.sourceSnapshot.sizeBytes>0xffffffffffffffff - total:=by
   rw [gt_iff_lt,UInt64.not_lt]
   exact sub_room.mpr h
  simp only [hroom,if_false]

lemma addFileBytes_fold (total : UInt64)
 (h:total.toNat+fileBytes entries<2 ^ 64):
 entries.foldlM addFileBytes total=.ok (UInt64.ofNat (total.toNat+fileBytes entries)):=by
 induction entries generalizing total with
 | nil=>simp [fileBytes,pure,Except.pure]
 | cons entry rest ih=>
  have hstep:fileBytes (entry::rest)=(contentBytes entry).toNat+fileBytes rest:=rfl
  rw [hstep] at h ⊢
  have hadd:addFileBytes total entry=.ok (total+contentBytes entry):=addFileBytes_ok (by omega)
  have hsum:(total+contentBytes entry).toNat=total.toNat+(contentBytes entry).toNat:=by
   rw [UInt64.toNat_add]
   omega
  rw [List.foldlM_cons,hadd]
  change rest.foldlM addFileBytes (total+contentBytes entry)=_
  rw [ih _ (by omega),hsum,Nat.add_assoc]

lemma rootContentBytes_eq (h:ManifestSound manifest) (root : DirectoryTransferManifestRoot):
 rootContentBytes manifest root=.ok (UInt64.ofNat (fileBytes (rootEntries manifest root))):=by
 have hlt:=fileBytes_lt h root
 rw [rootContentBytes,addFileBytes_fold _ _ (by simpa using hlt)]
 simp

end Slices

section Sealing
variable {sha256 : Bytes → DirectoryTransferProgressDigest}

structure SealedFrom (sha256 : Bytes → DirectoryTransferProgressDigest)
  (record candidate : DirectoryTransferProgressRecord) (sequence : UInt64)
  (previous : DirectoryTransferProgressDigest) : Prop where
 version : record.version=candidate.version
 kind : record.kind=candidate.kind
 objectKind : record.objectKind=candidate.objectKind
 rootIndex : record.rootIndex=candidate.rootIndex
 entryIndex : record.entryIndex=candidate.entryIndex
 contentBytes : record.contentBytes=candidate.contentBytes
 ownershipToken : record.ownershipToken=candidate.ownershipToken
 identity : record.objectIdentitySha256=candidate.objectIdentitySha256
 content : record.contentSha256=candidate.contentSha256
 sequence : record.sequence=sequence
 previous : record.previousRecordSha256=previous
 digest : sha256 (encodeRecordPrefix record)=record.recordSha256

lemma eq_sealRecord_iff {sequence : UInt64} {previous : DirectoryTransferProgressDigest}:
 record=sealRecord sha256 c sequence previous ↔
  SealedFrom sha256 record c sequence previous:=by
 constructor
 · intro h
   subst h
   exact ⟨rfl,rfl,rfl,rfl,rfl,rfl,rfl,rfl,rfl,rfl,rfl,rfl⟩
 · intro h
   have hfields:{ c with
     sequence:=sequence,previousRecordSha256 := previous
     recordSha256:=record.recordSha256 }=record:=by
    rw [←h.sequence,←h.previous,←h.version,←h.kind,←h.objectKind,←h.rootIndex,
     ← h.entryIndex,←h.contentBytes,←h.ownershipToken,←h.identity,←h.content]
   have hdigest:=h.digest
   rw [←hfields] at hdigest ⊢
   rw [←hdigest]
   rfl

lemma applyRecord_iff {header : DirectoryTransferProgressHeader}
 {manifest : DirectoryTransferManifest} {state after : DirectoryTransferProgressState}:
 applyRecord sha256 header manifest record state=.ok after ↔
  stateBindsOperation header manifest state=.ok () ∧
  basicRecordValid sha256 record=.ok () ∧
  (record.sequence=state.nextSequence ∧
   record.sequence.toNat≤header.maximumRecordCount.toNat ∧
   record.previousRecordSha256=state.lastRecordSha256) ∧
  ∃ next,eventShapeValid sha256 header manifest record state=.ok next ∧
   (next.complete → (next.nextSequence+1).toNat=(header.maximumRecordCount+1).toNat) ∧
   { next with
     lastRecordSha256:=record.recordSha256
     nextSequence:=next.nextSequence+1 }=after:=by
 simp only [applyRecord,bind_unit_eq_ok,require_eq_ok,decide_eq_true_eq]
 rw [bind_eq_ok]
 simp only [bind_unit_eq_ok,require_eq_ok,decide_eq_true_eq,pure_eq_ok]
 rfl

end Sealing

section Positions
variable {sha256 : Bytes → DirectoryTransferProgressDigest}
 (plan : DirectoryTransferProgressPlan sha256) (state : DirectoryTransferProgressState)
 (trail : Trail)

/-- What a state and a trail share at every place of the history. -/
structure Shares : Prop where
 operationId : state.operationId=plan.header.operationId
 rootCount : state.rootCount=plan.header.rootCount
 entryCount : state.entryCount=plan.header.entryCount
 manifestDigest : state.manifestDigest=plan.header.manifestDigest
 sequence : state.nextSequence=UInt64.ofNat (trail.count+1)
 last : state.lastRecordSha256=trail.previous
 present : bytesEmpty trail.previous=false

structure Awaits (i : ℕ) (root : DirectoryTransferManifestRoot) : Prop extends
  Shares plan state trail where
 phase : state.phase=.awaitingStaging
 completed : state.completedRoots=UInt32.ofNat i
 quiet : activeFieldsEmpty state=true
 cursor : state.nextManifestEntry=root.firstEntry
 count : trail.count=2*i+root.firstEntry.toNat

/-- After the staging record of a root and the records of `k` of its entries. -/
structure Materializes (i : ℕ) (root : DirectoryTransferManifestRoot) (k : ℕ) : Prop extends
  Shares plan state trail where
 phase : state.phase=.materializing
 completed : state.completedRoots=UInt32.ofNat i
 within : k ≤ root.entryCount.toNat
 cursor : state.nextManifestEntry.toNat=root.firstEntry.toNat+k
 count : trail.count=2*i+1+(root.firstEntry.toNat+k)
 token : state.activeOwnershipToken=root.ownershipToken
 identity : state.activeRootIdentitySha256=trail.staged.objectIdentitySha256
 identified : bytesEmpty trail.staged.objectIdentitySha256=false
 tree : state.rollingTreeSha256=trail.tree sha256
 bytes : state.activeContentBytes.toNat=fileBytes ((rootEntries plan.manifest root).take k)

structure Finished : Prop extends Shares plan state trail where
 phase : state.phase=.complete
 completed : state.completedRoots.toNat=plan.manifest.roots.length
 quiet : activeFieldsEmpty state=true
 cursor : state.nextManifestEntry=kDirectoryTransferProgressNoEntry
 count : trail.count=2*plan.manifest.roots.length+plan.manifest.entries.length

/-- The state is that of the trail, with these slots to come. -/
inductive At : List Slot → Prop
 | awaiting {i : ℕ} {root : DirectoryTransferManifestRoot}
   {rest : List DirectoryTransferManifestRoot}
   (hroot:plan.manifest.roots.drop i=root::rest) (h:Awaits plan state trail i root):
   At (slotsFrom plan.manifest i (root::rest))
 | materializing {i : ℕ} {root : DirectoryTransferManifestRoot}
   {rest : List DirectoryTransferManifestRoot} {k : ℕ}
   (hroot:plan.manifest.roots.drop i=root::rest)
   (h:Materializes plan state trail i root k):
   At (entrySlots i (root.firstEntry.toNat+k) ((rootEntries plan.manifest root).drop k) ++
    .published i root::slotsFrom plan.manifest (i+1) rest)
 | finished (h:Finished plan state trail) : At []

end Positions

section Binding
variable {sha256 : Bytes → DirectoryTransferProgressDigest}
 {plan : DirectoryTransferProgressPlan sha256} {state : DirectoryTransferProgressState}
 {trail : Trail} {i k : ℕ} {root : DirectoryTransferManifestRoot}
 {rest : List DirectoryTransferManifestRoot}

lemma root_of_completed (hroot:plan.manifest.roots.drop i=root::rest)
 (hcompleted:state.completedRoots=UInt32.ofNat i):
 state.completedRoots.toNat=i ∧ plan.manifest.roots[i]?=some root:=by
 have hbound:=(slice_bounds (planSound plan).manifest hroot).1
 have hindex:state.completedRoots.toNat=i:=by
  rw [hcompleted,UInt32.toNat_ofNat']
  omega
 obtain ⟨hi,hget,-⟩:=root_at hroot
 rw [List.getElem?_eq_getElem hi,hget]
 exact ⟨hindex,rfl⟩

lemma binds_of_consumed (h:Shares plan state trail)
 (hcount:trail.count≤plan.header.maximumRecordCount.toNat)
 (hcompleted:state.completedRoots.toNat≤plan.manifest.roots.length) {p : Prop}
 (hconsumed:∀consumed,consumedRecords plan.manifest state=.ok consumed ↔
  p ∧ consumed=trail.count):
 stateBindsOperation plan.header plan.manifest state=.ok () ↔ p:=by
 have hplan:=planSound plan
 have hbound:=plan.header.maximumRecordCount.toNat_lt
 have hnext:state.nextSequence.toNat=trail.count+1:=by
  rw [h.sequence,UInt64.toNat_ofNat']
  omega
 have hne:state.nextSequence≠0:=by
  intro hzero
  rw [hzero] at hnext
  simp at hnext
 have hpresent:bytesEmpty state.lastRecordSha256=false:=h.last ▸ h.present
 simp only [stateBindsOperation,bind_unit_eq_ok,require_eq_ok,decide_eq_true_eq]
 rw [bind_eq_ok]
 simp only [require_eq_ok,decide_eq_true_eq,hconsumed,hnext]
 constructor
 · rintro ⟨_,consumed,⟨hp,_⟩,_⟩
   exact hp
 · intro hp
   refine ⟨⟨h.operationId,h.operationId.trans hplan.operationId,h.rootCount,?_,h.entryCount,?_,
    h.manifestDigest,hne,by omega,hcompleted,by simp [hpresent]⟩,trail.count,⟨hp,rfl⟩,rfl⟩
   · rw [h.rootCount]
     exact hplan.rootCount
   · rw [h.entryCount]
     exact hplan.entryCount

lemma Awaits.binds (hroot:plan.manifest.roots.drop i=root::rest)
 (h:Awaits plan state trail i root):
 stateBindsOperation plan.header plan.manifest state=.ok ():=by
 have hplan:=planSound plan
 obtain ⟨hindex,hget⟩:=root_of_completed hroot h.completed
 obtain ⟨hi,-,-⟩:=root_at hroot
 have hend:=(slice_end hplan.manifest hroot).2
 have hrecords:=hplan.records
 have hcount:=h.count
 refine (binds_of_consumed h.toShares (by omega) (by omega) (p := True) fun consumed=>?_).mpr
  trivial
 simp only [consumedRecords,hindex,hget,h.phase,bind_unit_eq_ok,require_eq_ok,
  decide_eq_true_eq,h.quiet,h.cursor,pure_eq_ok,hcount]
 constructor
 · rintro ⟨_,hsame⟩
   exact ⟨trivial,by omega⟩
 · rintro ⟨_,hsame⟩
   exact ⟨⟨trivial,trivial⟩,by omega⟩

lemma Materializes.binds (hroot:plan.manifest.roots.drop i=root::rest)
 (h:Materializes plan state trail i root k):
 stateBindsOperation plan.header plan.manifest state=.ok () ↔
  bytesEmpty (trail.tree sha256)=false:=by
 have hplan:=planSound plan
 obtain ⟨hindex,hget⟩:=root_of_completed hroot h.completed
 obtain ⟨hi,hgetRoot,-⟩:=root_at hroot
 have hend:=(slice_end hplan.manifest hroot).2
 have hlimit:=toNat_end hplan.manifest hroot
 have hrecords:=hplan.records
 have hcount:=h.count
 have hwithin:=h.within
 have hcursor:=h.cursor
 have htoken:bytesEmpty state.activeOwnershipToken=false:=by
  rw [h.token,←hgetRoot]
  exact token_present hplan.manifest hi
 have hidentity:bytesEmpty state.activeRootIdentitySha256=false:=by
  rw [h.identity]
  exact h.identified
 have hrange:root.firstEntry ≤ state.nextManifestEntry ∧
   state.nextManifestEntry ≤ root.firstEntry+root.entryCount:=by
  rw [UInt32.le_iff_toNat_le,UInt32.le_iff_toNat_le,hlimit]
  omega
 refine binds_of_consumed h.toShares (by omega) (by omega) fun consumed=>?_
 simp only [consumedRecords,hindex,hget,h.phase,bind_unit_eq_ok,require_eq_ok,
  decide_eq_true_eq,htoken,hidentity,h.tree,hrange,pure_eq_ok,Bool.false_eq_true,
  not_false_eq_true,true_and,Bool.not_eq_true,and_self]
 constructor
 · rintro ⟨hpresent,hsame⟩
   exact ⟨hpresent,by omega⟩
 · rintro ⟨hpresent,hsame⟩
   exact ⟨hpresent,by omega⟩

lemma Finished.refuses (h:Finished plan state trail)
 (record : DirectoryTransferProgressRecord) (after : DirectoryTransferProgressState):
 applyRecord sha256 plan.header plan.manifest record state≠.ok after:=by
 intro happly
 obtain ⟨-,-,-,next,hnext,-⟩:=applyRecord_iff.mp happly
 have hcomplete:state.complete=true:=decide_eq_true h.phase
 simp [eventShapeValid,hcomplete,require] at hnext

end Binding

section Steps
variable {sha256 : Bytes → DirectoryTransferProgressDigest}
 {plan : DirectoryTransferProgressPlan sha256} {state : DirectoryTransferProgressState}
 {trail : Trail} {i k : ℕ} {root : DirectoryTransferManifestRoot}
 {rest : List DirectoryTransferManifestRoot} {record : DirectoryTransferProgressRecord}
 {after next : DirectoryTransferProgressState}

/-- What a run learned of the object of a record. -/
def proofOf (record : DirectoryTransferProgressRecord) : ObjectProof where
 identity:=record.objectIdentitySha256
 content:=record.contentSha256

lemma eventShapeValid_iff (hroot:plan.manifest.roots.drop i=root::rest)
 (hcompleted:state.completedRoots=UInt32.ofNat i) (hphase:state.phase≠.complete):
 eventShapeValid sha256 plan.header plan.manifest record state=.ok next ↔
  record.rootIndex=UInt32.ofNat i ∧
   (match record.kind with
   | .rootStagingOwned=>rootStaged sha256 plan.header root record state
   | .entryMaterialized=>entryMaterialized sha256 plan.manifest root record state
   | .rootPublished=>rootPublished plan.manifest root record state)=.ok next:=by
 obtain ⟨hindex,hget⟩:=root_of_completed hroot hcompleted
 have hopen:state.complete=false:=decide_eq_false hphase
 rw [hcompleted] at hindex
 constructor
 · intro h
   simp only [eventShapeValid,hcompleted,hindex,hget,hopen,bind_unit_eq_ok,
    found_bind_eq_ok,require_eq_ok,decide_eq_true_eq,Bool.false_eq_true,not_false_eq_true,
    true_and,Option.some.injEq,exists_eq_left'] at h
   exact h
 · intro h
   simp only [eventShapeValid,hcompleted,hindex,hget,hopen,bind_unit_eq_ok,
    found_bind_eq_ok,require_eq_ok,decide_eq_true_eq,Bool.false_eq_true,not_false_eq_true,
    true_and,Option.some.injEq,exists_eq_left']
   exact h

def placed (record : DirectoryTransferProgressRecord) (next : DirectoryTransferProgressState):
  DirectoryTransferProgressState:=
 { next with
   lastRecordSha256:=record.recordSha256
   nextSequence:=next.nextSequence+1 }

def stagedState (root : DirectoryTransferManifestRoot) (record : DirectoryTransferProgressRecord)
  (state : DirectoryTransferProgressState) : DirectoryTransferProgressState:=
 { state with
   phase:=.materializing
   nextManifestEntry:=root.firstEntry
   activeContentBytes:=0
   activeOwnershipToken:=record.ownershipToken
   activeRootIdentitySha256:=record.objectIdentitySha256
   rollingTreeSha256:=record.contentSha256 }

def materializedState (sha256 : Bytes → DirectoryTransferProgressDigest)
  (entry : DirectoryTransferManifestEntry) (record : DirectoryTransferProgressRecord)
  (state : DirectoryTransferProgressState) : DirectoryTransferProgressState:=
 { state with
   activeContentBytes:=state.activeContentBytes+contentBytes entry
   rollingTreeSha256:=treeStep sha256 state.rollingTreeSha256 record
   nextManifestEntry:=state.nextManifestEntry+1 }

lemma rootStaged_iff (hphase:state.phase=.awaitingStaging):
 rootStaged sha256 plan.header root record state=.ok next ↔
  (record.objectKind=.root ∧ record.entryIndex=kDirectoryTransferProgressNoEntry ∧
   record.contentBytes=0 ∧ record.ownershipToken=root.ownershipToken ∧
   bytesEmpty record.objectIdentitySha256=false ∧
   record.contentSha256=treeSeed sha256 plan.header record.rootIndex record.ownershipToken
    record.objectIdentitySha256) ∧ next=stagedState root record state:=by
 simp only [rootStaged,bind_unit_eq_ok,require_eq_ok,decide_eq_true_eq,pure_eq_ok,hphase,
  true_and,Bool.not_eq_true]
 constructor
 · rintro ⟨hfields,hnext⟩
   refine ⟨hfields,?_⟩
   rw [←hnext,stagedState,hfields.2.2.2.2.2]
 · rintro ⟨hfields,hnext⟩
   refine ⟨hfields,?_⟩
   rw [hnext,stagedState,hfields.2.2.2.2.2]

/-- What is left after the last record of a root. -/
def emptied (i : ℕ) (state : DirectoryTransferProgressState) : DirectoryTransferProgressState:=
 { state with
   completedRoots:=UInt32.ofNat (i+1)
   activeContentBytes:=0
   activeOwnershipToken:=.zero _
   activeRootIdentitySha256:=.zero _
   rollingTreeSha256:=.zero _ }

lemma rootClosed_cases (hroot:plan.manifest.roots.drop i=root::rest)
 (hcompleted:state.completedRoots=UInt32.ofNat i):
 (i+1=plan.manifest.roots.length ∧ rootClosed plan.manifest state=
  { emptied i state with
    phase:=.complete,nextManifestEntry := kDirectoryTransferProgressNoEntry }) ∨
 ∃ following tail,rest=following::tail ∧ rootClosed plan.manifest state=
  { emptied i state with
    phase:=.awaitingStaging,nextManifestEntry := following.firstEntry }:=by
 obtain ⟨hi,-,hrest⟩:=root_at hroot
 have hbound:=(slice_bounds (planSound plan).manifest hroot).1
 have hadd:state.completedRoots+1=UInt32.ofNat (i+1):=by
  rw [hcompleted,UInt32.ofNat_add i 1]
  rfl
 have hindex:(UInt32.ofNat (i+1)).toNat=i+1:=by
  rw [UInt32.toNat_ofNat']
  omega
 unfold rootClosed
 simp only [hadd,hindex]
 by_cases hmore:i+1<plan.manifest.roots.length
 · right
   rw [List.drop_eq_getElem_cons hmore] at hrest
   rw [List.getElem?_eq_getElem hmore]
   exact ⟨_,_,hrest.symm,rfl⟩
 · left
   rw [List.getElem?_eq_none (by omega)]
   exact ⟨by omega,rfl⟩

lemma staged_phase (h:rootStaged sha256 plan.header root record state=.ok next):
 state.phase=.awaitingStaging:=by
 simp only [rootStaged,bind_unit_eq_ok,require_eq_ok,decide_eq_true_eq] at h
 exact h.1.1

lemma materialized_phase
 (h:entryMaterialized sha256 plan.manifest root record state=.ok next):
 state.phase=.materializing ∧ state.nextManifestEntry < root.firstEntry+root.entryCount:=by
 simp only [entryMaterialized,bind_unit_eq_ok,require_eq_ok,decide_eq_true_eq] at h
 exact ⟨h.1.1,h.1.2.1⟩

lemma published_phase (h:rootPublished plan.manifest root record state=.ok next):
 state.phase=.materializing ∧ state.nextManifestEntry=root.firstEntry+root.entryCount:=by
 obtain ⟨bytes,-,h⟩:=(bind_eq_ok _ _ _).mp h
 simp only [bind_unit_eq_ok,require_eq_ok,decide_eq_true_eq] at h
 exact ⟨h.1.1,h.1.2.1⟩

lemma bytesEmpty_iff {n : ℕ} {bytes : FixedBytes n}:
 bytesEmpty bytes=true ↔ bytes=.zero n:=by
 obtain ⟨bytes,hlength⟩:=bytes
 simp only [bytesEmpty,List.all_eq_true,decide_eq_true_eq,FixedBytes.zero,FixedBytes.mk.injEq]
 rw [List.eq_replicate_iff]
 exact ⟨fun h=>⟨hlength,h⟩,fun h=>h.2⟩

lemma materializedBytes_iff {active bytes : UInt64}
 (hroom:active.toNat+(contentBytes entry).toNat<2 ^ 64):
 materializedBytes entry record active=.ok bytes ↔
  (record.contentBytes=contentBytes entry ∧
   (entry.kind=.directory → bytesEmpty record.contentSha256=true) ∧
   (entry.kind=.regularFile → bytesEmpty record.contentSha256=false)) ∧
   bytes=active+contentBytes entry:=by
 unfold materializedBytes contentBytes at *
 cases hkind:entry.kind with
 | directory=>
  simp only [bind_unit_eq_ok,require_eq_ok,decide_eq_true_eq,pure_eq_ok,UInt64.add_zero,
   forall_const,reduceCtorEq,false_imp_iff,and_true]
  exact and_congr_right fun _=>eq_comm
 | regularFile=>
  rw [hkind] at hroom
  simp only [bind_unit_eq_ok,require_eq_ok,decide_eq_true_eq,pure_eq_ok,forall_const,
   reduceCtorEq,false_imp_iff,true_and,Bool.not_eq_true]
  constructor
  · rintro ⟨⟨hpresent,hsize,_⟩,hbytes⟩
    exact ⟨⟨hsize,hpresent⟩,by rw [←hbytes,hsize]⟩
  · rintro ⟨⟨hsize,hpresent⟩,hbytes⟩
    rw [hsize]
    exact ⟨⟨hpresent,rfl,sub_room.mpr hroom⟩,hbytes.symm⟩

section Open
variable (hroot:plan.manifest.roots.drop i=root::rest)
 (h:Materializes plan state trail i root k)
include hroot h

lemma Materializes.entry_at (hk:k < root.entryCount.toNat):
 ∃ entry,plan.manifest.entries[root.firstEntry.toNat+k]?=some entry ∧
  (rootEntries plan.manifest root).drop k=
   entry::(rootEntries plan.manifest root).drop (k+1) ∧
  state.activeContentBytes.toNat+(contentBytes entry).toNat=
   fileBytes ((rootEntries plan.manifest root).take (k+1)):=by
 have hsound:=(planSound plan).manifest
 have hlength:=length_rootEntries hsound hroot
 have hk':k<(rootEntries plan.manifest root).length:=by omega
 refine ⟨(rootEntries plan.manifest root)[k],?_,List.drop_eq_getElem_cons hk',?_⟩
 · rw [←getElem?_rootEntries hk,List.getElem?_eq_getElem hk']
 · rw [h.bytes,List.take_add_one,List.getElem?_eq_getElem hk',fileBytes_append]
   rfl

lemma Materializes.cursor_lt : state.nextManifestEntry < root.firstEntry+root.entryCount ↔
 k < root.entryCount.toNat:=by
 have hlimit:=toNat_end (planSound plan).manifest hroot
 have hcursor:=h.cursor
 rw [UInt32.lt_iff_toNat_lt,hlimit]
 omega

lemma Materializes.cursor_eq : state.nextManifestEntry=root.firstEntry+root.entryCount ↔
 k=root.entryCount.toNat:=by
 have hlimit:=toNat_end (planSound plan).manifest hroot
 have hcursor:=h.cursor
 rw [←UInt32.toNat_inj,hlimit]
 omega

omit hroot in
lemma Materializes.cursor_ofNat:
 state.nextManifestEntry=UInt32.ofNat (root.firstEntry.toNat+k):=by
 rw [←h.cursor,UInt32.ofNat_toNat]

lemma entryMaterialized_iff (hk:k < root.entryCount.toNat)
 (hentry:plan.manifest.entries[root.firstEntry.toNat+k]?=some entry)
 (hroom:state.activeContentBytes.toNat+(contentBytes entry).toNat<2 ^ 64):
 entryMaterialized sha256 plan.manifest root record state=.ok next ↔
  (record.entryIndex=UInt32.ofNat (root.firstEntry.toNat+k) ∧
   bytesEmpty record.ownershipToken=true ∧
   bytesEmpty record.objectIdentitySha256=false ∧
   record.objectKind=objectKindOf entry.kind ∧
   record.contentBytes=contentBytes entry ∧
   (entry.kind=.directory → bytesEmpty record.contentSha256=true) ∧
   (entry.kind=.regularFile → bytesEmpty record.contentSha256=false)) ∧
   next=materializedState sha256 entry record state:=by
 have hcursor:=h.cursor_ofNat
 have hlt:=(h.cursor_lt hroot).mpr hk
 simp only [entryMaterialized,bind_unit_eq_ok,found_bind_eq_ok,require_eq_ok,decide_eq_true_eq,
  h.phase,hlt,h.cursor,hentry,true_and,Option.some.injEq,exists_eq_left',
  Bool.not_eq_true]
 rw [bind_iff_of_ok (fun _=>materializedBytes_iff hroom),pure_eq_ok]
 constructor
 · rintro ⟨⟨hindex,htoken,hidentity⟩,hkind,hcontent,hnext⟩
   refine ⟨⟨hindex.trans hcursor,htoken,hidentity,hkind,hcontent⟩,?_⟩
   rw [←hnext,materializedState,h.phase]
 · rintro ⟨⟨hindex,htoken,hidentity,hkind,hcontent⟩,hnext⟩
   refine ⟨⟨hindex.trans hcursor.symm,htoken,hidentity⟩,hkind,hcontent,?_⟩
   rw [hnext,materializedState,h.phase]

lemma rootPublished_iff (hk:k=root.entryCount.toNat):
 rootPublished plan.manifest root record state=.ok next ↔
  (record.objectKind=.root ∧ record.entryIndex=kDirectoryTransferProgressNoEntry ∧
   record.ownershipToken=root.ownershipToken ∧
   record.objectIdentitySha256=trail.staged.objectIdentitySha256 ∧
   record.contentBytes=UInt64.ofNat (fileBytes (rootEntries plan.manifest root)) ∧
   record.contentSha256=trail.tree sha256) ∧
   next=rootClosed plan.manifest state:=by
 have hsound:=(planSound plan).manifest
 have hend:=(h.cursor_eq hroot).mpr hk
 have hactive:state.activeContentBytes=
   UInt64.ofNat (fileBytes (rootEntries plan.manifest root)):=by
  have hbytes:=h.bytes
  rw [List.take_of_length_le (by rw [length_rootEntries hsound hroot,hk])] at hbytes
  rw [←hbytes,UInt64.ofNat_toNat]
 simp only [rootPublished,rootContentBytes_eq hsound,ok_bind,bind_unit_eq_ok,require_eq_ok,
  decide_eq_true_eq,pure_eq_ok,h.phase,hend,h.token,h.identity,h.tree,hactive,true_and]
 constructor
 · rintro ⟨⟨hkind,hindex,htoken,hidentity,hbytes,_,htree⟩,hnext⟩
   exact ⟨⟨hkind,hindex,htoken,hidentity,hbytes,htree⟩,hnext.symm⟩
 · rintro ⟨⟨hkind,hindex,htoken,hidentity,hbytes,htree⟩,hnext⟩
   exact ⟨⟨hkind,hindex,htoken,hidentity,hbytes,hbytes,htree⟩,hnext.symm⟩

end Open

lemma of_basic (h:basicRecordValid sha256 record=.ok ()):
 record.version=1 ∧ bytesEmpty record.recordSha256=false ∧
  sha256 (encodeRecordPrefix record)=record.recordSha256:=by
 simp only [basicRecordValid,bind_unit_eq_ok,require_eq_ok,decide_eq_true_eq,
  Bool.not_eq_true] at h
 obtain ⟨⟨hversion,-,-,-,-,hpresent⟩,hdigest⟩:=h
 exact ⟨UInt8.toNat_inj.mp hversion,hpresent,hdigest⟩

lemma SealedFrom.placed
 (hsealed:SealedFrom sha256 record c (UInt64.ofNat (trail.count+1)) trail.previous)
 (hversion:c.version=1) (hshares:Shares plan state trail)
 (hcount:trail.count+1≤plan.header.maximumRecordCount.toNat)
 (hroot:c.rootIndex.toNat<1024)
 (hentry:c.entryIndex=kDirectoryTransferProgressNoEntry ∨
  c.entryIndex.toNat<100000) (hpresent:bytesEmpty record.recordSha256=false):
 basicRecordValid sha256 record=.ok () ∧ record.sequence=state.nextSequence ∧
  record.sequence.toNat≤plan.header.maximumRecordCount.toNat ∧
  record.previousRecordSha256=state.lastRecordSha256:=by
 have hbound:=plan.header.maximumRecordCount.toNat_lt
 have hnext:record.sequence.toNat=trail.count+1:=by
  rw [hsealed.sequence,UInt64.toNat_ofNat']
  omega
 have hne:record.sequence≠0:=by
  intro hzero
  rw [hzero] at hnext
  simp at hnext
 refine ⟨?_,hsealed.sequence.trans hshares.sequence.symm,by omega,
  hsealed.previous.trans hshares.last.symm⟩
 simp only [basicRecordValid,bind_unit_eq_ok,require_eq_ok,decide_eq_true_eq,
  Bool.not_eq_true]
 refine ⟨⟨?_,hne,?_,?_,?_,hpresent⟩,hsealed.digest⟩
 · rw [hsealed.version,hversion]
   rfl
 · rw [hsealed.rootIndex]
   exact hroot
 · rw [hsealed.entryIndex]
   exact hentry
 · rw [hsealed.previous]
   exact hshares.present

section
variable (hroot:plan.manifest.roots.drop i=root::rest)
include hroot

lemma toNat_root:
 (UInt32.ofNat i).toNat=i ∧ i<1024:=by
 have hbound:=(slice_bounds (planSound plan).manifest hroot).1
 rw [UInt32.toNat_ofNat']
 omega

lemma Awaits.step
 (h:Awaits plan state trail i root):
 applyRecord sha256 plan.header plan.manifest record state=.ok after ↔
  RecordPresent record ∧
  record=foreseenRecord plan trail (proofOf record) (.staged i root) ∧
  after=placed record (stagedState root record state):=by
 have hphase:state.phase≠.complete:=by simp [h.phase]
 have hplan:=planSound plan
 rw [foreseenRecord,eq_sealRecord_iff]
 constructor
 · intro happly
   obtain ⟨-,hbasic,⟨hsequence,-,hprevious⟩,next,hnext,-,rfl⟩:=applyRecord_iff.mp happly
   obtain ⟨hversion,hsealed,hdigest⟩:=of_basic hbasic
   obtain ⟨hindex,hshape⟩:=(eventShapeValid_iff hroot h.completed hphase).mp hnext
   cases hkind:record.kind with
   | rootStagingOwned=>
    rw [hkind] at hshape
    obtain ⟨⟨hobject,hentry,hbytes,htoken,hidentity,htree⟩,rfl⟩:=(rootStaged_iff h.phase).mp hshape
    refine ⟨⟨hsealed,hidentity,?_⟩,?_,rfl⟩
    · intro hfile
      rw [hobject] at hfile
      cases hfile
    · rw [hindex,htoken] at htree
      exact ⟨hversion,hkind,hobject,hindex,hentry,hbytes,htoken,rfl,htree,
       hsequence.trans h.sequence,hprevious.trans h.last,hdigest⟩
   | entryMaterialized=>
    rw [hkind] at hshape
    have hwrong:=(materialized_phase hshape).1
    rw [h.phase] at hwrong
    cases hwrong
   | rootPublished=>
    rw [hkind] at hshape
    have hwrong:=(published_phase hshape).1
    rw [h.phase] at hwrong
    cases hwrong
 · intro ⟨hpresent,hfields,hafter⟩
   obtain ⟨hi,-,-⟩:=root_at hroot
   have hend:=(slice_end hplan.manifest hroot).2
   have hcount:=h.count
   have hrecords:=hplan.records
   obtain ⟨hindex,hsmall⟩:=toNat_root hroot
   have hplaced:=hfields.placed rfl h.toShares (by omega) (hindex.trans_lt hsmall)
    (.inl rfl) hpresent.sealed
   have hshape:eventShapeValid sha256 plan.header plan.manifest record state=
     .ok (stagedState root record state):=by
    rw [eventShapeValid_iff hroot h.completed hphase,hfields.kind]
    refine ⟨hfields.rootIndex,(rootStaged_iff h.phase).mpr ⟨⟨hfields.objectKind,
     hfields.entryIndex,hfields.contentBytes,hfields.ownershipToken,hpresent.identity,?_⟩,
     rfl⟩⟩
    rw [hfields.content,hfields.rootIndex,hfields.ownershipToken]
    rfl
   exact applyRecord_iff.mpr ⟨h.binds hroot,hplaced.1,hplaced.2,_,hshape,nofun,hafter.symm⟩

lemma Materializes.step_entry
 (h:Materializes plan state trail i root k) {entry : DirectoryTransferManifestEntry}
 (hk:k < root.entryCount.toNat)
 (hentry:plan.manifest.entries[root.firstEntry.toNat+k]?=some entry)
 (hroom:state.activeContentBytes.toNat+(contentBytes entry).toNat<2 ^ 64):
 applyRecord sha256 plan.header plan.manifest record state=.ok after ↔
  bytesEmpty (trail.tree sha256)=false ∧ RecordPresent record ∧
  record=foreseenRecord plan trail (proofOf record)
   (.materialized i (root.firstEntry.toNat+k) entry) ∧
  after=placed record (materializedState sha256 entry record state):=by
 have hphase:state.phase≠.complete:=by simp [h.phase]
 have hplan:=planSound plan
 rw [foreseenRecord,eq_sealRecord_iff]
 constructor
 · intro happly
   obtain ⟨hbinds,hbasic,⟨hsequence,-,hprevious⟩,next,hnext,-,rfl⟩:=applyRecord_iff.mp happly
   obtain ⟨hversion,hsealed,hdigest⟩:=of_basic hbasic
   obtain ⟨hindex,hshape⟩:=(eventShapeValid_iff hroot h.completed hphase).mp hnext
   cases hkind:record.kind with
   | entryMaterialized=>
    rw [hkind] at hshape
    obtain ⟨⟨hplace,htoken,hidentity,hobject,hbytes,hdirectory,hfile⟩,rfl⟩:=
     (entryMaterialized_iff hroot h hk hentry hroom).mp hshape
    refine ⟨(h.binds hroot).mp hbinds,⟨hsealed,hidentity,?_⟩,?_,rfl⟩
    · intro hregular
      apply hfile
      rw [hobject] at hregular
      cases hsort:entry.kind with
      | directory=>
       rw [hsort] at hregular
       cases hregular
      | regularFile=>rfl
    · refine ⟨hversion,hkind,hobject,hindex,hplace,hbytes,bytesEmpty_iff.mp htoken,rfl,?_,
       hsequence.trans h.sequence,hprevious.trans h.last,hdigest⟩
      cases hsort:entry.kind with
      | directory=>
       simp only [foreseen,hsort]
       exact bytesEmpty_iff.mp (hdirectory hsort)
      | regularFile=>
       simp only [foreseen,hsort]
       rfl
   | rootStagingOwned=>
    rw [hkind] at hshape
    have hwrong:=staged_phase hshape
    rw [h.phase] at hwrong
    cases hwrong
   | rootPublished=>
    rw [hkind] at hshape
    have hlast:=(h.cursor_eq hroot).mp (published_phase hshape).2
    omega
 · intro ⟨htree,hpresent,hfields,hafter⟩
   obtain ⟨hi,-,-⟩:=root_at hroot
   have hend:=(slice_end hplan.manifest hroot).2
   have hbound:=(slice_bounds hplan.manifest hroot).2
   have hcount:=h.count
   have hrecords:=hplan.records
   obtain ⟨hindex,hsmall⟩:=toNat_root hroot
   have hcursor:(UInt32.ofNat (root.firstEntry.toNat+k)).toNat<100000:=by
    rw [UInt32.toNat_ofNat']
    omega
   have hplaced:=hfields.placed rfl h.toShares (by omega) (hindex.trans_lt hsmall)
    (.inr hcursor) hpresent.sealed
   have hshape:eventShapeValid sha256 plan.header plan.manifest record state=
     .ok (materializedState sha256 entry record state):=by
    rw [eventShapeValid_iff hroot h.completed hphase,hfields.kind]
    refine ⟨hfields.rootIndex,(entryMaterialized_iff hroot h hk hentry hroom).mpr
     ⟨⟨hfields.entryIndex,bytesEmpty_iff.mpr hfields.ownershipToken,hpresent.identity,
       hfields.objectKind,hfields.contentBytes,?_,?_⟩,rfl⟩⟩
    · intro hsort
      have hcontent:=hfields.content
      simp only [foreseen,hsort] at hcontent
      exact bytesEmpty_iff.mpr hcontent
    · intro hsort
      apply hpresent.content
      rw [hfields.objectKind]
      simp only [foreseen,hsort]
      rfl
   refine applyRecord_iff.mpr ⟨(h.binds hroot).mpr htree,hplaced.1,hplaced.2,_,hshape,?_,
    hafter.symm⟩
   intro hcomplete
   have hwrong:state.phase=.complete:=of_decide_eq_true hcomplete
   exact absurd hwrong hphase

lemma Materializes.step_published
 (h:Materializes plan state trail i root k) (hk:k=root.entryCount.toNat):
 applyRecord sha256 plan.header plan.manifest record state=.ok after ↔
  bytesEmpty (trail.tree sha256)=false ∧ RecordPresent record ∧
  record=foreseenRecord plan trail (proofOf record) (.published i root) ∧
  after=placed record (rootClosed plan.manifest state):=by
 have hphase:state.phase≠.complete:=by simp [h.phase]
 have hplan:=planSound plan
 rw [foreseenRecord,eq_sealRecord_iff]
 constructor
 · intro happly
   obtain ⟨hbinds,hbasic,⟨hsequence,-,hprevious⟩,next,hnext,-,rfl⟩:=applyRecord_iff.mp happly
   obtain ⟨hversion,hsealed,hdigest⟩:=of_basic hbasic
   obtain ⟨hindex,hshape⟩:=(eventShapeValid_iff hroot h.completed hphase).mp hnext
   cases hkind:record.kind with
   | rootPublished=>
    rw [hkind] at hshape
    obtain ⟨⟨hobject,hplace,htoken,hidentity,hbytes,htree⟩,rfl⟩:=
     (rootPublished_iff hroot h hk).mp hshape
    refine ⟨(h.binds hroot).mp hbinds,⟨hsealed,hidentity ▸ h.identified,?_⟩,
     ⟨hversion,hkind,hobject,hindex,hplace,hbytes,htoken,hidentity,htree,
      hsequence.trans h.sequence,hprevious.trans h.last,hdigest⟩,rfl⟩
    intro hfile
    rw [hobject] at hfile
    cases hfile
   | rootStagingOwned=>
    rw [hkind] at hshape
    have hwrong:=staged_phase hshape
    rw [h.phase] at hwrong
    cases hwrong
   | entryMaterialized=>
    rw [hkind] at hshape
    have hmore:=(h.cursor_lt hroot).mp (materialized_phase hshape).2
    omega
 · intro ⟨htree,hpresent,hfields,hafter⟩
   obtain ⟨hi,-,hrest⟩:=root_at hroot
   have hend:=slice_end hplan.manifest hroot
   have hcount:=h.count
   have hrecords:=hplan.records
   obtain ⟨hindex,hsmall⟩:=toNat_root hroot
   have hplaced:=hfields.placed rfl h.toShares (by omega) (hindex.trans_lt hsmall)
    (.inl rfl) hpresent.sealed
   have hshape:eventShapeValid sha256 plan.header plan.manifest record state=
     .ok (rootClosed plan.manifest state):=by
    rw [eventShapeValid_iff hroot h.completed hphase,hfields.kind]
    exact ⟨hfields.rootIndex,(rootPublished_iff hroot h hk).mpr ⟨⟨hfields.objectKind,
     hfields.entryIndex,hfields.ownershipToken,hfields.identity,hfields.contentBytes,
     hfields.content⟩,rfl⟩⟩
   refine applyRecord_iff.mpr ⟨(h.binds hroot).mpr htree,hplaced.1,hplaced.2,_,hshape,?_,
    hafter.symm⟩
   -- all is done only after the last record
   intro hcomplete
   obtain hlast | ⟨next,tail,-,hclosed⟩:=rootClosed_cases hroot h.completed
   · have hall:root.firstEntry.toNat+root.entryCount.toNat=plan.manifest.entries.length:=by
      rw [hend.1,List.take_of_length_le (by omega)]
      exact hplan.manifest.cover
     have hbound:=plan.header.maximumRecordCount.toNat_lt
     have hentries:=hplan.manifest.entriesSize
     have hroots:=hplan.manifest.rootsSize
     unfold kMaximumDirectoryTransferEntries at hentries
     unfold kMaximumDirectoryTransferRoots at hroots
     have hsequence:(rootClosed plan.manifest state).nextSequence=
       UInt64.ofNat (trail.count+1):=by
      rw [hlast.2,←h.sequence]
      rfl
     rw [hsequence,UInt64.toNat_add,UInt32.toNat_add,UInt64.toNat_ofNat']
     simp only [UInt64.toNat_one,UInt32.toNat_one]
     omega
   · rw [hclosed] at hcomplete
     cases hcomplete

end

end Steps

section Moves
variable {sha256 : Bytes → DirectoryTransferProgressDigest}
 {plan : DirectoryTransferProgressPlan sha256} {state : DirectoryTransferProgressState}
 {trail : Trail} {i k : ℕ} {root : DirectoryTransferManifestRoot}
 {rest : List DirectoryTransferManifestRoot} {record : DirectoryTransferProgressRecord}
 {next : DirectoryTransferProgressState}

lemma Shares.follow (h:Shares plan state trail) (hpresent:RecordPresent record)
  (hoperation:next.operationId=state.operationId) (hroots:next.rootCount=state.rootCount)
  (hentries:next.entryCount=state.entryCount)
  (hdigest:next.manifestDigest=state.manifestDigest)
  (hsequence:next.nextSequence=state.nextSequence):
  Shares plan (placed record next) (trail.follow record) where
 operationId:=hoperation.trans h.operationId
 rootCount:=hroots.trans h.rootCount
 entryCount:=hentries.trans h.entryCount
 manifestDigest:=hdigest.trans h.manifestDigest
 sequence:=by
  change next.nextSequence+1=UInt64.ofNat (trail.count+1+1)
  rw [hsequence,h.sequence,UInt64.ofNat_add (trail.count+1) 1]
  rfl
 last:=rfl
 present:=hpresent.sealed

lemma Awaits.moves (h:Awaits plan state trail i root) (hpresent:RecordPresent record)
 (hrecord:record=foreseenRecord plan trail (proofOf record) (.staged i root)):
 Materializes plan (placed record (stagedState root record state)) (trail.follow record) i root
  0:=by
 have hfields:=eq_sealRecord_iff.mp hrecord
 have hstaged:(trail.follow record).staged=record:=if_pos hfields.kind
 have hentries:(trail.follow record).entries=[]:=if_neg (by rw [hfields.kind]; exact nofun)
 refine { toShares:=h.toShares.follow hpresent rfl rfl rfl rfl rfl
          phase:=rfl
          completed:=h.completed
          within:=Nat.zero_le _
          cursor:=rfl
          count:=?_
          token:=hfields.ownershipToken
          identity:=?_
          identified:=?_
          tree:=?_
          bytes:=rfl }
 · have hcount:=h.count
   change trail.count+1=_
   omega
 · rw [hstaged]
   rfl
 · rw [hstaged]
   exact hpresent.identity
 · rw [Trail.tree,hentries,hstaged]
   rfl

lemma Materializes.moves (hroot:plan.manifest.roots.drop i=root::rest)
 (h:Materializes plan state trail i root k) {entry : DirectoryTransferManifestEntry}
 (hk:k < root.entryCount.toNat)
 (hroom:state.activeContentBytes.toNat+(contentBytes entry).toNat=
  fileBytes ((rootEntries plan.manifest root).take (k+1)))
 (hpresent:RecordPresent record) (hrecord:record=foreseenRecord plan trail (proofOf record)
  (.materialized i (root.firstEntry.toNat+k) entry)):
 Materializes plan (placed record (materializedState sha256 entry record state))
  (trail.follow record) i root (k+1):=by
 have hfields:=eq_sealRecord_iff.mp hrecord
 have hplan:=planSound plan
 have hstaged:(trail.follow record).staged=trail.staged:=if_neg (by rw [hfields.kind]; exact nofun)
 have hentries:(trail.follow record).entries=trail.entries++[record]:=if_pos hfields.kind
 have hbound:=(slice_bounds hplan.manifest hroot).2
 have hcursor:=h.cursor
 have hbytes:=fileBytes_take (rootEntries plan.manifest root) (k+1)
 have hlt:=fileBytes_lt hplan.manifest root
 refine { toShares:=h.toShares.follow hpresent rfl rfl rfl rfl rfl
          phase:=h.phase
          completed:=h.completed
          within:=hk
          cursor:=?_
          count:=?_
          token:=h.token
          identity:=?_
          identified:=?_
          tree:=?_
          bytes:=?_ }
 · change (state.nextManifestEntry+1).toNat=_
   rw [UInt32.toNat_add,UInt32.toNat_one]
   omega
 · have hcount:=h.count
   change trail.count+1=_
   omega
 · rw [hstaged]
   exact h.identity
 · rw [hstaged]
   exact h.identified
 · rw [Trail.tree,hentries,hstaged,List.foldl_append]
   change treeStep sha256 state.rollingTreeSha256 record=_
   rw [h.tree]
   rfl
 · change (state.activeContentBytes+contentBytes entry).toNat=_
   rw [UInt64.toNat_add]
   omega

lemma Materializes.closes (hroot:plan.manifest.roots.drop i=root::rest)
 (h:Materializes plan state trail i root k) (hk:k=root.entryCount.toNat)
 (hpresent:RecordPresent record):
 At plan (placed record (rootClosed plan.manifest state)) (trail.follow record)
  (slotsFrom plan.manifest (i+1) rest):=by
 have hplan:=planSound plan
 have hend:=slice_end hplan.manifest hroot
 obtain ⟨hi,-,hrest⟩:=root_at hroot
 have hcount:=h.count
 obtain ⟨hlast,hclosed⟩ | ⟨following,tail,hfollowing,hclosed⟩:=rootClosed_cases hroot h.completed
 · have hempty:rest=[]:=by
    rw [←hrest]
    exact List.drop_eq_nil_of_le (by omega)
   have hall:root.firstEntry.toNat+root.entryCount.toNat=plan.manifest.entries.length:=by
    rw [hend.1,List.take_of_length_le (by omega)]
    exact hplan.manifest.cover
   have hindex:(UInt32.ofNat (i+1)).toNat=i+1:=by
    have hbound:=(slice_bounds hplan.manifest hroot).1
    rw [UInt32.toNat_ofNat']
    omega
   rw [hempty,hclosed]
   refine .finished { toShares:=h.toShares.follow hpresent rfl rfl rfl rfl rfl
                      phase:=rfl
                      completed:=hindex.trans (by omega)
                      quiet:=rfl
                      cursor:=rfl
                      count:=?_ }
   change trail.count+1=_
   omega
 · have hnext:plan.manifest.roots.drop (i+1)=following::tail:=hrest.trans hfollowing
   obtain ⟨hi',hget,-⟩:=root_at hnext
   have hfirst:=(hplan.manifest.roots (i+1) hi').first
   rw [hget] at hfirst
   rw [hfollowing,hclosed]
   refine .awaiting hnext { toShares:=h.toShares.follow hpresent rfl rfl rfl rfl rfl
                            phase:=rfl
                            completed:=rfl
                            quiet:=rfl
                            cursor:=rfl
                            count:=?_ }
   change trail.count+1=_
   omega

end Moves

end VoVe.DirectoryTransferReplay
