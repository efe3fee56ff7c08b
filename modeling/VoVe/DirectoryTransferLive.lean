import VoVe.DirectoryTransferCanonical
import VoVe.DirectoryTransferProgressCodec

set_option autoImplicit false

namespace VoVe.DirectoryTransferLive
open ByteCodec Checks
open DirectoryManifestShape
open DirectoryTransferProgress DirectoryTransferProgressCodec
open DirectoryTransferHistory DirectoryTransferReplay DirectoryTransferCanonical

section Calls
variable {sha256 : Bytes → DirectoryTransferProgressDigest}
 (p plan : DirectoryTransferProgressPlan sha256)

/-- The caller's variables, and the records of the calls that were accepted. -/
structure LiveRun where
 state : DirectoryTransferProgressState
 record : DirectoryTransferProgressRecord
 accepted : List DirectoryTransferProgressRecord := []

def LiveRun.call (run : LiveRun) (evidence : DirectoryTransferEvidence) : LiveRun:=
 let outcome:=advanceDirectoryTransferProgress plan evidence run.state run.record
 match outcome.answer with
 | .ok ()=>⟨outcome.state,outcome.record,run.accepted++[outcome.record]⟩
 | .error _=>⟨outcome.state,outcome.record,run.accepted⟩

def liveRun (record : DirectoryTransferProgressRecord)
  (calls : List DirectoryTransferEvidence) : LiveRun:=
 calls.foldl (LiveRun.call plan) ⟨initializeDirectoryTransferProgress plan,record,[]⟩

/-- A record as it is read again after it was written. -/
def storedRecord (sha256 : Bytes → DirectoryTransferProgressDigest)
  (record : DirectoryTransferProgressRecord) : Except Bytes DirectoryTransferProgressRecord := do
 let payload ← (encodeDirectoryTransferProgressRecord sha256 record).mapError thrownWhat
 decodeDirectoryTransferProgressRecord sha256 payload

def trailOf (accepted : List DirectoryTransferProgressRecord) : Trail:=
 accepted.foldl Trail.follow (startTrail plan)

/-- What a run reports at a slot of an object with this revision and content. -/
def evidenceAt (trail : Trail) (revision : Bytes) (content : DirectoryTransferProgressDigest):
  Slot → DirectoryTransferEvidence
 | .staged rootIndex root=>.rootStaging
  { rootIndex:=UInt32.ofNat rootIndex
    ownershipToken:=root.ownershipToken
    objectRevisionUtf8:=revision }
 | .materialized rootIndex entryIndex entry=>.entry
  { rootIndex:=UInt32.ofNat rootIndex
    entryIndex:=UInt32.ofNat entryIndex
    objectKind:=objectKindOf entry.kind
    contentBytes:=contentBytes entry
    objectRevisionUtf8:=revision
    contentSha256:=match entry.kind with
     | .directory=>.zero _
     | .regularFile=>content }
 | .published rootIndex root=>.rootPublication
  { rootIndex:=UInt32.ofNat rootIndex
    contentBytes:=UInt64.ofNat (fileBytes (rootEntries plan.manifest root))
    ownershipToken:=root.ownershipToken
    destinationRevisionUtf8:=revision
    auditedTreeSha256:=trail.tree sha256 }

def SameObject (trail : Trail) (identity : DirectoryTransferProgressDigest) : Slot → Prop
 | .published _ _=>identity = trail.staged.objectIdentitySha256
 | _=>True

end Calls

section Runs
variable {sha256 : Bytes → DirectoryTransferProgressDigest}
 {p plan : DirectoryTransferProgressPlan sha256} {state after : DirectoryTransferProgressState}
 {record : DirectoryTransferProgressRecord} {e evidence : DirectoryTransferEvidence}
 {records : List DirectoryTransferProgressRecord}

lemma sealAndApply_iff {c sealed : DirectoryTransferProgressRecord}:
 sealAndApply sha256 p.header p.manifest c state=.ok (after,sealed) ↔
  sealRecord sha256 c state.nextSequence state.lastRecordSha256=sealed ∧
   applyRecord sha256 p.header p.manifest sealed state=.ok after:=by
 simp only [sealAndApply,bind_unit_eq_ok]
 rw [bind_eq_ok]
 simp only [pure_eq_ok,Prod.mk.injEq]
 constructor
 · rintro ⟨_,next,happly,hafter,hsealed⟩
   rw [←hsealed,←hafter]
   exact ⟨rfl,happly⟩
 · rintro ⟨hsealed,happly⟩
   rw [hsealed]
   exact ⟨(applyRecord_iff.mp happly).1,after,happly,rfl,rfl⟩

lemma advance_cases (p : DirectoryTransferProgressPlan sha256)
 (e : DirectoryTransferEvidence) (state : DirectoryTransferProgressState)
 (record : DirectoryTransferProgressRecord):
 (∃ c sealed after,candidateOf p e=.ok c ∧
  sealRecord sha256 c state.nextSequence state.lastRecordSha256=sealed ∧
  applyRecord sha256 p.header p.manifest sealed state=.ok after ∧
  advanceDirectoryTransferProgress p e state record = ⟨.ok (),after,sealed⟩) ∨
 ∃ detail,advanceDirectoryTransferProgress p e state record = ⟨.error detail,state,record⟩ ∧
  ∀c,candidateOf p e=.ok c → ∀after, applyRecord sha256 p.header p.manifest
    (sealRecord sha256 c state.nextSequence state.lastRecordSha256) state ≠ .ok after:=by
 unfold advanceDirectoryTransferProgress
 cases hcandidate:candidateOf p e with
 | error detail=>exact .inr ⟨detail,rfl,nofun⟩
 | ok c=>
  cases hseal:sealAndApply sha256 p.header p.manifest c state with
  | error detail=>
   refine .inr ⟨detail,by simp only [hseal],?_⟩
   intro _ hsame after happly
   cases hsame
   rw [sealAndApply_iff.mpr ⟨rfl,happly⟩] at hseal
   cases hseal
  | ok pair=>
   obtain ⟨hsealed,happly⟩:=sealAndApply_iff.mp hseal
   exact .inl ⟨c,pair.2,pair.1,rfl,hsealed,happly,by simp only [hseal]⟩

lemma advance_ok {c : DirectoryTransferProgressRecord}
 (hcandidate:candidateOf p e=.ok c):
 (advanceDirectoryTransferProgress p e state record).answer=.ok () ↔
  ∃ after,applyRecord sha256 p.header p.manifest
   (sealRecord sha256 c state.nextSequence state.lastRecordSha256) state=.ok after:=by
 obtain ⟨_,sealed,after,hsame,hsealed,happly,hadvance⟩ | ⟨detail,hadvance,hrefused⟩:=
  advance_cases p e state record
 · rw [hcandidate] at hsame
   cases hsame
   rw [hadvance,hsealed]
   exact ⟨fun _=>⟨after,happly⟩,fun _=>rfl⟩
 · rw [hadvance]
   constructor
   · exact nofun
   · intro ⟨after,happly⟩
     exact absurd happly (hrefused c hcandidate after)

lemma advance_rejected {detail : Bytes}
 (h:(advanceDirectoryTransferProgress p e state record).answer=.error detail):
 (advanceDirectoryTransferProgress p e state record).state=state ∧
  (advanceDirectoryTransferProgress p e state record).record=record:=by
 obtain ⟨_,_,_,-,-,-,hadvance⟩ | ⟨_,hadvance,-⟩:=advance_cases p e state record
 · rw [hadvance] at h
   cases h
 · rw [hadvance]
   exact ⟨rfl,rfl⟩

def Replays (plan : DirectoryTransferProgressPlan sha256) (run : LiveRun) : Prop:=
 run.accepted.foldlM
  (fun state record=>applyRecord sha256 plan.header plan.manifest record state)
  (initializeDirectoryTransferProgress plan) = .ok run.state

lemma replays_call {run : LiveRun} (h:Replays p run)
 (e : DirectoryTransferEvidence) : Replays p (run.call p e):=by
 unfold LiveRun.call
 obtain ⟨_,sealed,after,-,-,happly,hadvance⟩ | ⟨detail,hadvance,-⟩:=
  advance_cases p e run.state run.record
 · simp only [hadvance]
   unfold Replays at h ⊢
   rw [List.foldlM_append,h,ok_bind,List.foldlM_cons,happly]
   rfl
 · simp only [hadvance]
   exact h

lemma replays_run (p : DirectoryTransferProgressPlan sha256)
 (record : DirectoryTransferProgressRecord) (calls : List DirectoryTransferEvidence):
 Replays p (liveRun p record calls):=by
 have hfold:∀run : LiveRun,Replays p run → Replays p (calls.foldl (LiveRun.call p) run):=by
  induction calls with
  | nil=>exact fun run h=>h
  | cons e rest ih=>exact fun run h=>ih _ (replays_call h e)
 exact hfold _ rfl

lemma valid_of_replay
 (h:records.foldlM
  (fun state record=>applyRecord sha256 p.header p.manifest record state) state=.ok after):
 ∀record∈records,basicRecordValid sha256 record=.ok ():=by
 induction records generalizing state with
 | nil=>exact nofun
 | cons record rest ih=>
  rw [List.foldlM_cons] at h
  obtain ⟨next,happly,hrest⟩:=(bind_eq_ok _ _ _).mp h
  exact List.forall_mem_cons.mpr ⟨(applyRecord_iff.mp happly).2.1,ih hrest⟩

lemma storedRecord_eq (h:basicRecordValid sha256 record=.ok ()):
 storedRecord sha256 record=.ok record:=by
 rw [storedRecord,encodeRecord_ok h]
 exact decode_recordPayload h

lemma stored_records (h:∀record∈records,basicRecordValid sha256 record=.ok ()):
 records.mapM (storedRecord sha256)=.ok records:=by
 induction records with
 | nil=>rfl
 | cons record rest ih=>
  obtain ⟨hrecord,hrest⟩:=List.forall_mem_cons.mp h
  rw [List.mapM_cons,storedRecord_eq hrecord,ih hrest]
  rfl

lemma candidateOf_evidenceAt {trail : Trail} {revision : Bytes}
 {identity content : DirectoryTransferProgressDigest} {slot : Slot}
 (hidentity:directoryTransferObjectIdentitySha256 sha256 p.manifest.pathSemantics revision=
  .ok identity) (hsame:SameObject trail identity slot):
 candidateOf p (evidenceAt p trail revision content slot)=
  .ok (foreseen p trail ⟨identity,content⟩ slot):=by
 cases slot with
 | staged i root=>
  simp only [candidateOf,evidenceAt,hidentity,ok_bind]
  rfl
 | materialized i k entry=>
  simp only [candidateOf,evidenceAt,hidentity,ok_bind]
  rfl
 | published i root=>
  simp only [candidateOf,evidenceAt,hidentity,ok_bind,foreseen]
  rw [←show identity=trail.staged.objectIdentitySha256 from hsame]
  rfl

lemma at_run (p : DirectoryTransferProgressPlan sha256)
 (record : DirectoryTransferProgressRecord) (calls : List DirectoryTransferEvidence):
 At p (liveRun p record calls).state (trailOf p (liveRun p record calls).accepted)
  ((historySlots p.manifest).drop (liveRun p record calls).accepted.length):=
 (history_of_replay (at_start p) (replays_run p record calls)).2.2

lemma shares_of_at {trail : Trail} {slots : List Slot} (h:At p state trail slots):
 Shares p state trail:=by
 cases h with
 | awaiting hroot h=>exact h.toShares
 | materializing hroot h=>exact h.toShares
 | finished h=>exact h.toShares

lemma slot_of_at {trail : Trail} {slots : List Slot} (h:At p state trail slots)
 (hopen:state.complete=false) : ∃ slot rest,slots=slot::rest:=by
 cases h with
 | awaiting hroot h=>exact ⟨_,_,slots_open⟩
 | materializing hroot h=>exact List.exists_cons_of_ne_nil (by simp)
 | finished h=>
  have hcomplete:state.complete=true:=decide_eq_true h.phase
  rw [hcomplete] at hopen
  cases hopen

end Runs

/-- (a) A rejected call leaves the state and the record. (b) The accepted records, written and
  read again, replay to the state of the run. (c) Where a run is not complete, the evidence of
  its next slot is accepted, unless a digest it carries or builds on is all zero. -/
theorem live_exact {sha256 : Bytes → DirectoryTransferProgressDigest}
 (plan : DirectoryTransferProgressPlan sha256) (record : DirectoryTransferProgressRecord)
 (calls : List DirectoryTransferEvidence):
 let run:=liveRun plan record calls
 let trail:=trailOf plan run.accepted
 (∀evidence detail,
  let outcome:=advanceDirectoryTransferProgress plan evidence run.state run.record
  outcome.answer=.error detail → outcome.state=run.state ∧ outcome.record=run.record) ∧
 (∃ decoded,run.accepted.mapM (storedRecord sha256)=.ok decoded ∧
  replayDirectoryTransferProgress plan decoded=.ok run.state) ∧
 (run.state.complete=false →
  ∃ slot,(historySlots plan.manifest)[run.accepted.length]?=some slot ∧
   ∀revision identity content,
    directoryTransferObjectIdentitySha256 sha256 plan.manifest.pathSemantics revision=
     .ok identity →
    SameObject trail identity slot →
    ((advanceDirectoryTransferProgress plan (evidenceAt plan trail revision content slot)
      run.state run.record).answer=.ok () ↔
     (∀digest∈stateTree run.state,bytesEmpty digest=false) ∧
      RecordPresent (foreseenRecord plan trail ⟨identity,content⟩ slot))):=by
 intro run trail
 have hat:At plan run.state trail ((historySlots plan.manifest).drop run.accepted.length):=
  at_run plan record calls
 have hreplays:Replays plan run:=replays_run plan record calls
 refine ⟨fun evidence detail h=>advance_rejected h,?_,?_⟩
 · have hbound:run.accepted.length≤plan.header.maximumRecordCount.toNat:=
    length_of_canonical (canonical_of_history (history_of_replay (at_start plan) hreplays).1)
   exact ⟨run.accepted,stored_records (valid_of_replay hreplays),
    replay_eq_ok.mpr ⟨hbound,hreplays⟩⟩
 · intro hopen
   obtain ⟨slot,rest,hslots⟩:=slot_of_at hat hopen
   rw [hslots] at hat
   have hslot:(historySlots plan.manifest)[run.accepted.length]?=some slot:=by
    rw [←List.head?_drop,hslots]
    rfl
   refine ⟨slot,hslot,?_⟩
   intro revision identity content hidentity hsame
   have hshares:=shares_of_at hat
   have hcandidate:candidateOf plan (evidenceAt plan trail revision content slot)=_:=
    candidateOf_evidenceAt hidentity hsame
   rw [advance_ok hcandidate,hshares.sequence,hshares.last]
   constructor
   · intro ⟨after,happly⟩
     obtain ⟨_,_,-,htakes⟩:=takes_of_apply hat happly
     exact ⟨htakes.tree,htakes.present⟩
   · intro ⟨htree,hpresent⟩
     exact accepts_foreseen hat (foreseenRecord_proofOf _ _ _ _).symm htree hpresent

end VoVe.DirectoryTransferLive
