import VoVe.DirectoryManifestRoundTrip
import VoVe.DirectoryTransferReplay

set_option autoImplicit false

namespace VoVe.DirectoryTransferCanonical
open ByteCodec Checks
open DirectoryManifest DirectoryManifestShape
open DirectoryTransferProgress DirectoryTransferHistory DirectoryTransferReplay

section Runs
variable {sha256 : Bytes → DirectoryTransferProgressDigest}
 {p plan : DirectoryTransferProgressPlan sha256} {state after : DirectoryTransferProgressState}
 {t trail : Trail} {slot : Slot} {s : List Slot} {record : DirectoryTransferProgressRecord}
 {records : List DirectoryTransferProgressRecord}

/-- The tree digest of the root that a state holds open. -/
def stateTree (state : DirectoryTransferProgressState) : Option DirectoryTransferProgressDigest:=
 match state.phase with
 | .materializing=>some state.rollingTreeSha256
 | _=>none

structure Takes (plan : DirectoryTransferProgressPlan sha256)
  (state : DirectoryTransferProgressState) (trail : Trail) (slot : Slot) (rest : List Slot)
  (record : DirectoryTransferProgressRecord) (after : DirectoryTransferProgressState) : Prop where
 foreseen : record=foreseenRecord plan trail (proofOf record) slot
 tree : ∀digest∈stateTree state,bytesEmpty digest=false
 present : RecordPresent record
 at_next : At plan after (trail.follow record) rest
 next_tree : stateTree after=openTree sha256 (stateTree state) record

lemma stateTree_none (h:state.phase≠.materializing) : stateTree state=none:=by
 unfold stateTree
 split
 · contradiction
 · rfl

lemma stateTree_open (h:state.phase=.materializing):
 stateTree state=some state.rollingTreeSha256:=by
 unfold stateTree
 rw [h]

lemma rootClosed_phase (manifest : DirectoryTransferManifest):
 (rootClosed manifest state).phase≠.materializing:=by
 unfold rootClosed
 cases hnext:manifest.roots[(state.completedRoots+1).toNat]? with
 | none=>
  simp only [hnext]
  exact nofun
 | some r=>
  simp only [hnext]
  exact nofun

lemma slots_open {manifest : DirectoryTransferManifest} {i : ℕ}
 {r : DirectoryTransferManifestRoot} {rest : List DirectoryTransferManifestRoot}:
 slotsFrom manifest i (r::rest)=.staged i r ::
  (entrySlots i (r.firstEntry.toNat+0) ((rootEntries manifest r).drop 0) ++
   .published i r::slotsFrom manifest (i+1) rest):=by
 simp [slotsFrom,rootSlots]

lemma takes_of_apply (h:At p state t s)
 (happly:applyRecord sha256 p.header p.manifest record state=.ok after):
 ∃ slot rest,s=slot::rest ∧ Takes p state t slot rest record after:=by
 cases h with
 | @awaiting i r rest hroot h=>
  obtain ⟨hpresent,hrecord,hafter⟩:=(h.step hroot).mp happly
  have htree:stateTree state=none:=stateTree_none (by simp [h.phase])
  refine ⟨_,_,slots_open,hrecord,?_,hpresent,?_,?_⟩
  · rw [htree]
    exact nofun
  · rw [hafter]
    exact .materializing hroot (h.moves hpresent hrecord)
  · have hkind:=congrArg (·.kind) hrecord
    rw [hafter,openTree,hkind]
    rfl
 | @materializing i r rest k hroot h=>
  have htree:=stateTree_open h.phase
  rw [h.tree] at htree
  have hsound:=(planSound p).manifest
  obtain hk | hk : k < r.entryCount.toNat ∨ k=r.entryCount.toNat:=Nat.lt_or_eq_of_le h.within
  · obtain ⟨entry,hentry,hdrop,hroom⟩:=h.entry_at hroot hk
    have hbound:=fileBytes_take (rootEntries p.manifest r) (k+1)
    have hlt:=fileBytes_lt hsound r
    obtain ⟨hpresentTree,hpresent,hrecord,hafter⟩:=
     (h.step_entry hroot hk hentry (by omega)).mp happly
    have hslots:entrySlots i (r.firstEntry.toNat+k) ((rootEntries p.manifest r).drop k)
      ++ .published i r::slotsFrom p.manifest (i+1) rest=
      .materialized i (r.firstEntry.toNat+k) entry ::
       (entrySlots i (r.firstEntry.toNat+(k+1))
        ((rootEntries p.manifest r).drop (k+1)) ++
        .published i r::slotsFrom p.manifest (i+1) rest):=by
     rw [hdrop]
     rfl
    refine ⟨_,_,hslots,hrecord,?_,hpresent,?_,?_⟩
    · rw [htree]
      intro digest hdigest
      cases hdigest
      exact hpresentTree
    · rw [hafter]
      exact .materializing hroot (h.moves hroot hk hroom hpresent hrecord)
    · have hkind:=congrArg (·.kind) hrecord
      have hopen:(placed record (materializedState sha256 entry record state)).phase=
        .materializing := h.phase
      rw [hafter,stateTree_open hopen,openTree,hkind,htree,←h.tree]
      rfl
  · obtain ⟨hpresentTree,hpresent,hrecord,hafter⟩:=(h.step_published hroot hk).mp happly
    have hslots:entrySlots i (r.firstEntry.toNat+k) ((rootEntries p.manifest r).drop k)
      ++ .published i r::slotsFrom p.manifest (i+1) rest=
      .published i r::slotsFrom p.manifest (i+1) rest:=by
     rw [List.drop_eq_nil_of_le (by rw [length_rootEntries hsound hroot,hk])]
     rfl
    refine ⟨_,_,hslots,hrecord,?_,hpresent,?_,?_⟩
    · rw [htree]
      intro digest hdigest
      cases hdigest
      exact hpresentTree
    · rw [hafter]
      exact h.closes hroot hk hpresent
    · have hkind:=congrArg (·.kind) hrecord
      have hclosed:(placed record (rootClosed p.manifest state)).phase≠.materializing:=
       rootClosed_phase p.manifest
      rw [hafter,stateTree_none hclosed,openTree,hkind]
      rfl
 | finished h=>exact absurd happly (h.refuses record after)

lemma accepts_foreseen {rest : List Slot} (h:At p state t (slot::rest))
 (hrecord:record=foreseenRecord p t (proofOf record) slot)
 (htree:∀digest∈stateTree state,bytesEmpty digest=false)
 (hpresent:RecordPresent record):
 ∃ after,applyRecord sha256 p.header p.manifest record state=.ok after:=by
 generalize hslots : slot::rest=s at h
 cases h with
 | @awaiting i r tail hroot h=>
  rw [slots_open,List.cons.injEq] at hslots
  rw [hslots.1] at hrecord
  exact ⟨_,(h.step hroot).mpr ⟨hpresent,hrecord,rfl⟩⟩
 | @materializing i r tail k hroot h=>
  have hopen:bytesEmpty (t.tree sha256)=false:=by
   apply htree
   rw [stateTree_open h.phase,h.tree]
   rfl
  have hsound:=(planSound p).manifest
  obtain hk | hk : k < r.entryCount.toNat ∨ k=r.entryCount.toNat:=Nat.lt_or_eq_of_le h.within
  · obtain ⟨entry,hentry,hdrop,hroom⟩:=h.entry_at hroot hk
    have hbound:=fileBytes_take (rootEntries p.manifest r) (k+1)
    have hlt:=fileBytes_lt hsound r
    rw [hdrop,entrySlots,List.cons_append,List.cons.injEq] at hslots
    rw [hslots.1] at hrecord
    exact ⟨_,(h.step_entry hroot hk hentry (by omega)).mpr ⟨hopen,hpresent,hrecord,rfl⟩⟩
  · rw [List.drop_eq_nil_of_le (by rw [length_rootEntries hsound hroot,hk]),entrySlots,
     List.nil_append,List.cons.injEq] at hslots
    rw [hslots.1] at hrecord
    exact ⟨_,(h.step_published hroot hk).mpr ⟨hopen,hpresent,hrecord,rfl⟩⟩
 | finished h=>cases hslots

lemma foreseenRecord_proofOf (p : DirectoryTransferProgressPlan sha256) (t : Trail)
 (proof : ObjectProof) (slot : Slot):
 foreseenRecord p t (proofOf (foreseenRecord p t proof slot)) slot=
  foreseenRecord p t proof slot:=by
 have hfields:foreseen p t (proofOf (foreseenRecord p t proof slot)) slot=
   foreseen p t proof slot:=by
  cases slot with
  | staged i r=>rfl
  | materialized i k entry=>
   cases hkind:entry.kind with
   | directory=>simp [foreseenRecord,sealRecord,foreseen,proofOf,hkind]
   | regularFile=>simp [foreseenRecord,sealRecord,foreseen,proofOf,hkind]
  | published i r=>rfl
 unfold foreseenRecord at hfields ⊢
 rw [hfields]

lemma history_of_replay (h:At p state t s)
 (hreplay:records.foldlM
  (fun state record=>applyRecord sha256 p.header p.manifest record state) state=.ok after):
 records=history p t s (records.map proofOf) ∧ DigestsPresent sha256 (stateTree state) records ∧
  At p after (records.foldl Trail.follow t) (s.drop records.length):=by
 induction records generalizing state t s with
 | nil=>
  cases hreplay
  refine ⟨?_,trivial,h⟩
  cases s with
  | nil=>rfl
  | cons slot rest=>rfl
 | cons record rest ih=>
  rw [List.foldlM_cons] at hreplay
  obtain ⟨next,happly,hrest⟩:=(bind_eq_ok _ _ _).mp hreplay
  obtain ⟨slot,later,rfl,htakes⟩:=takes_of_apply h happly
  obtain ⟨hhistory,hdigests,hat⟩:=ih htakes.at_next hrest
  refine ⟨?_,⟨htakes.tree,htakes.present,?_⟩,hat⟩
  · rw [List.map_cons,history,←htakes.foreseen,←hhistory]
  · rw [←htakes.next_tree]
    exact hdigests

lemma replay_of_history (h:At p state t s) {proofs : List ObjectProof}
 (hrecords:records <+: history p t s proofs)
 (hdigests:DigestsPresent sha256 (stateTree state) records):
 ∃ after,records.foldlM
  (fun state record=>applyRecord sha256 p.header p.manifest record state) state=.ok after:=by
 induction records generalizing state t s proofs with
 | nil=>exact ⟨state,rfl⟩
 | cons record rest ih=>
  cases s with
  | nil=>simp [history] at hrecords
  | cons slot later=>
   cases proofs with
   | nil=>simp [history] at hrecords
   | cons proof proofs=>
    rw [history,List.cons_prefix_cons] at hrecords
    obtain ⟨hrecord,hrest⟩:=hrecords
    obtain ⟨htree,hpresent,hdigests⟩:=hdigests
    have hforeseen:record=foreseenRecord p t (proofOf record) slot:=by
     rw [hrecord,foreseenRecord_proofOf]
    obtain ⟨next,happly⟩:=accepts_foreseen h hforeseen htree hpresent
    obtain ⟨_,_,hslots,htakes⟩:=takes_of_apply h happly
    obtain ⟨rfl,rfl⟩:=List.cons_eq_cons.mp hslots
    rw [←htakes.next_tree] at hdigests
    rw [←hrecord] at hrest
    obtain ⟨after,hafter⟩:=ih htakes.at_next hrest hdigests
    refine ⟨after,?_⟩
    rw [List.foldlM_cons,happly]
    exact hafter

end Runs

section Start
variable {sha256 : Bytes → DirectoryTransferProgressDigest}
 {p plan : DirectoryTransferProgressPlan sha256} {state : DirectoryTransferProgressState}
 {t trail : Trail} {s : List Slot}

lemma length_slotsFrom {i : ℕ} {rest : List DirectoryTransferManifestRoot}
 (hrest:p.manifest.roots.drop i=rest):
 (slotsFrom p.manifest i rest).length=(entryCounts rest).sum+2*rest.length:=by
 induction rest generalizing i with
 | nil=>rfl
 | cons r rest ih=>
  obtain ⟨-,-,hnext⟩:=root_at hrest
  have hlength:=length_rootEntries (planSound p).manifest hrest
  have hsum:(entryCounts (r::rest)).sum=r.entryCount.toNat+(entryCounts rest).sum:=rfl
  rw [slotsFrom,rootSlots,List.length_append,List.length_cons,List.length_append,
   length_entrySlots,ih hnext,hlength,hsum,List.length_cons,List.length_nil,List.length_cons]
  omega

lemma length_historySlots (p : DirectoryTransferProgressPlan sha256):
 (historySlots p.manifest).length=p.manifest.entries.length+2*p.manifest.roots.length:=by
 rw [historySlots,length_slotsFrom List.drop_zero,(planSound p).manifest.cover]

lemma at_start (p : DirectoryTransferProgressPlan sha256):
 At p (initializeDirectoryTransferProgress p) (startTrail p)
  (historySlots p.manifest):=by
 have hplan:=planSound p
 obtain ⟨r,rest,hroots⟩:=List.exists_cons_of_ne_nil hplan.manifest.nonempty
 have hdrop:p.manifest.roots.drop 0=r::rest:=hroots
 obtain ⟨hi,hget,-⟩:=root_at hdrop
 have hfirst:=(hplan.manifest.roots 0 hi).first
 rw [hget] at hfirst
 have hslots:historySlots p.manifest=slotsFrom p.manifest 0 (r::rest):=by
  rw [historySlots,hroots]
 rw [hslots]
 exact .awaiting hdrop {
  operationId:=rfl
  rootCount:=rfl
  entryCount:=rfl
  manifestDigest:=rfl
  sequence:=rfl
  last:=rfl
  present:=hplan.sealed
  phase:=rfl
  completed:=rfl
  quiet:=rfl
  cursor:=by
   unfold initializeDirectoryTransferProgress
   rw [hroots]
   rfl
  count:=by
   rw [hfirst]
   rfl }

lemma complete_iff_count (h:At p state t s) : state.complete=true ↔
  t.count=p.manifest.entries.length+2*p.manifest.roots.length:=by
 have hsound:=(planSound p).manifest
 cases h with
 | awaiting hroot h=>
  have hcount:=h.count
  have hend:=(slice_end hsound hroot).2
  obtain ⟨hi,-,-⟩:=root_at hroot
  constructor
  · intro hcomplete
    have hwrong:=of_decide_eq_true hcomplete
    rw [h.phase] at hwrong
    cases hwrong
  · omega
 | materializing hroot h=>
  have hcount:=h.count
  have hwithin:=h.within
  have hend:=(slice_end hsound hroot).2
  obtain ⟨hi,-,-⟩:=root_at hroot
  constructor
  · intro hcomplete
    have hwrong:=of_decide_eq_true hcomplete
    rw [h.phase] at hwrong
    cases hwrong
  · omega
 | finished h=>
  have hcount:=h.count
  constructor
  · omega
  · exact fun _=>decide_eq_true h.phase

lemma count_follow (t : Trail) (records : List DirectoryTransferProgressRecord):
 (records.foldl Trail.follow t).count=t.count+records.length:=by
 induction records generalizing t with
 | nil=>rfl
 | cons record rest ih=>
  rw [List.foldl_cons,ih,List.length_cons]
  change t.count+1+_=_
  omega

end Start

section Replay
variable {sha256 : Bytes → DirectoryTransferProgressDigest}
 {p plan : DirectoryTransferProgressPlan sha256} {state : DirectoryTransferProgressState}
 {records : List DirectoryTransferProgressRecord}

lemma replay_eq_ok : replayDirectoryTransferProgress p records=.ok state ↔
 records.length≤p.header.maximumRecordCount.toNat ∧ records.foldlM
  (fun state record=>applyRecord sha256 p.header p.manifest record state)
  (initializeDirectoryTransferProgress p)=.ok state:=by
 rw [replayDirectoryTransferProgress,bind_unit_eq_ok,require_eq_ok,decide_eq_true_eq]

lemma length_of_canonical (h:Canonical p records):
 records.length≤p.header.maximumRecordCount.toNat:=by
 obtain ⟨proofs,hlength,hrecords⟩:=h
 have hle:=hrecords.length_le
 rw [length_history,length_historySlots] at hle
 rw [(planSound p).records]
 omega

lemma canonical_of_history (h:records=history p (startTrail p)
 (historySlots p.manifest) (records.map proofOf)) : Canonical p records:=by
 have hlength:=congrArg List.length h
 rw [length_history,List.length_map] at hlength
 have hpad:records.length≤(historySlots p.manifest).length:=by omega
 refine ⟨records.map proofOf++List.replicate
  ((historySlots p.manifest).length - records.length) ⟨.zero _,.zero _⟩,?_,?_⟩
 · rw [List.length_append,List.length_map,List.length_replicate]
   omega
 · have happend:=@history_append _ p (startTrail p) (historySlots p.manifest)
    (records.map proofOf) (List.replicate
     ((historySlots p.manifest).length - records.length) ⟨.zero _,.zero _⟩)
   rw [←h] at happend
   exact happend

/-- A list of records replays exactly where it is the beginning of a canonical history, and all
  is done exactly when every record of it is present. -/
theorem replay_exact (plan : DirectoryTransferProgressPlan sha256)
 (records : List DirectoryTransferProgressRecord):
 ((∃ state,replayDirectoryTransferProgress plan records=.ok state) ↔
  Canonical plan records ∧ DigestsPresent sha256 none records) ∧
 ∀state,replayDirectoryTransferProgress plan records=.ok state → (state.complete=true ↔
   records.length=plan.header.entryCount.toNat+2*plan.header.rootCount.toNat):=by
 have hstart:=at_start plan
 have hplan:=planSound plan
 constructor
 · constructor
   · intro ⟨state,hreplay⟩
     obtain ⟨hhistory,hdigests,-⟩:=history_of_replay hstart (replay_eq_ok.mp hreplay).2
     exact ⟨canonical_of_history hhistory,hdigests⟩
   · intro ⟨hcanonical,hdigests⟩
     have hbound:=length_of_canonical hcanonical
     obtain ⟨proofs,-,hrecords⟩:=hcanonical
     obtain ⟨state,hstate⟩:=replay_of_history hstart hrecords hdigests
     exact ⟨state,replay_eq_ok.mpr ⟨hbound,hstate⟩⟩
 · intro state hreplay
   obtain ⟨-,-,hat⟩:=history_of_replay hstart (replay_eq_ok.mp hreplay).2
   have hcount:=count_follow (startTrail plan) records
   have hzero:(startTrail plan).count=0:=rfl
   rw [complete_iff_count hat,hcount,hzero,hplan.entryCount,hplan.rootCount,Nat.zero_add]

end Replay

section Sample
open DirectoryManifestRoundTrip

def sampleCopy : DirectoryTransferManifest := { sampleManifest with kind:=.copy }

def sampleControl : DirectoryTransferControlRecord where
 operationId:=1
 rootCount:=1
 manifestEncodedSize:=671
 manifestDigest:=onesDigest []

def sampleHeader : DirectoryTransferProgressHeader where
 rootCount:=1
 entryCount:=2
 operationId:=1
 manifestEncodedSize:=671
 manifestDigest:=onesDigest []
 maximumRecordCount:=4
 headerSha256:=onesDigest []

lemma sample_binds : headerBindsPlan onesDigest sampleHeader sampleControl sampleCopy=.ok ():=by
 decide +kernel

def samplePlan : DirectoryTransferProgressPlan onesDigest where
 control:=sampleControl
 manifest:=sampleCopy
 header:=sampleHeader
 binds:=sample_binds

def sampleRecords : List DirectoryTransferProgressRecord:=
 history samplePlan (startTrail samplePlan) (historySlots sampleCopy)
  (List.replicate 4 ⟨onesDigest [],onesDigest []⟩)

example : ((replayDirectoryTransferProgress samplePlan sampleRecords).map
  (·.complete)).toOption = some true:=by
 decide +kernel

end Sample

end VoVe.DirectoryTransferCanonical
