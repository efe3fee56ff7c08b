import VoVe.MatchedRemovalVolume
import VoVe.JournalAtomicity

set_option autoImplicit false

namespace VoVe.MatchedRemovalSafety
open ByteCodec EffectProgram DurableJournal JournalDisk MatchedRemoval MatchedRemovalVolume

section Reading
variable {f faults : Prop} {v : Volume} {inode : ℕ} {bytes : Bytes}

/-- The read loop ends with the whole file, whatever the single reads return. -/
lemma yields_readOpened (hopened:v.opened=some (inode,bytes)) (turns : ℕ) (got : Bytes)
 (hgot:got <+: bytes) (hturns:bytes.length≤got.length+turns):
 Yields f (readOpened bytes.length turns got) v fun result after =>
  (result=.ok bytes ∧ after=v) ∨ (f ∧ ∃ e,result=.error e):=by
 induction turns generalizing got with
 | zero=>
  have hlength:=hgot.length_le
  have hall:got=bytes:=hgot.eq_of_length (by omega)
  exact yields_pure (.inl ⟨by rw [hall],rfl⟩)
 | succ turns ih=>
  rw [readOpened]
  split
  · next hmore =>
    have hmove:∀part,part≠[] → part <+: bytes.drop got.length →
      Yields f (readOpened bytes.length turns (got++part)) v fun result after =>
       (result=.ok bytes ∧ after=v) ∨ (f ∧ ∃ e,result=.error e):=by
     intro part hpart hstarts
     have hsome:=List.length_pos_iff.mpr hpart
     have hall:got++part <+: bytes:=by
      obtain ⟨rest,rfl⟩:=hgot
      rw [List.drop_left] at hstarts
      exact (List.prefix_append_right_inj got).mpr hstarts
     apply ih _ hall
     rw [List.length_append]
     omega
    apply yields_bind
    apply yields_issue
    · have hrest:(bytes.drop got.length).take (bytes.length - got.length)=
        bytes.drop got.length := List.take_of_length_le (by simp)
      have hne:bytes.drop got.length≠[]:=by
       intro hnil
       have hzero:=congrArg List.length hnil
       simp only [List.length_drop,List.length_nil] at hzero
       omega
      simp only [Volume.answer,hopened,hrest]
      cases hpart:bytes.drop got.length with
      | nil=>exact absurd hpart hne
      | cons head tail=>
       exact hmove (head::tail) (List.cons_ne_nil _ _) (hpart ▸ List.prefix_rfl)
    · intro reply hshort
      obtain ⟨inode',bytes',part,hopened',hpart,hstarts,rfl⟩:=hshort
      rw [hopened] at hopened'
      cases hopened'
      cases part with
      | nil=>exact absurd rfl hpart
      | cons head tail=>
       exact hmove _ (List.cons_ne_nil _ _) (hstarts.trans (List.take_prefix _ _))
    · intro reply after hfaults hreport _
      obtain rfl | ⟨e,rfl⟩:=hreport
      · exact yields_pure (.inr ⟨hfaults,_,rfl⟩)
      · exact yields_pure (.inr ⟨hfaults,_,rfl⟩)
  · next hdone =>
    have hlength:=hgot.length_le
    have hall:got=bytes:=hgot.eq_of_length (by omega)
    exact yields_pure (.inl ⟨by rw [hall],rfl⟩)

end Reading

section CleanUp
variable {f faults : Prop} {v : Volume}

/-- Calls that all succeed one after the other and change no file. -/
def AllWork : List StagingCall → Volume → Prop
 | [], _=>True
 | c::calls, v=>
  (v.call c).1 = 0 ∧ (v.call c).2.disk.files = v.disk.files ∧ AllWork calls (v.call c).2

lemma yields_firstError_kept (calls : List StagingCall) {e : ErrorCode} (h:e≠0):
 Yields f (firstError calls e) v fun result _=>result≠0:=by
 induction calls generalizing v with
 | nil=>exact yields_pure h
 | cons c calls ih=>
  rw [firstError]
  apply yields_after
  intro reply after
  rw [if_neg h]
  exact ih

lemma yields_firstError {calls : List StagingCall} (h:AllWork calls v):
 Yields f (firstError calls 0) v fun result after =>
  (result=0 ∧ after.disk.files=v.disk.files) ∨ (result≠0 ∧ f):=by
 induction calls generalizing v with
 | nil=>exact yields_pure (.inl ⟨rfl,rfl⟩)
 | cons c calls ih=>
  obtain ⟨hzero,hsame,hrest⟩:=h
  rw [firstError]
  apply yields_bind
  apply yields_perform
  · rw [if_pos rfl,hzero,←hsame]
    exact ih hrest
  · intro e after hfaults hreport _
    rw [if_pos rfl]
    apply yields_mono (yields_firstError_kept calls (not_zero_of_reports hreport))
    intro result _ hresult
    exact .inr ⟨hresult,hfaults⟩

end CleanUp

/-- What removing one generation may come to. -/
def RemovesOne (faults : Prop) (file : JournalFile) (expected : Bytes)
  (before : JournalFile → Option Bytes) (result : MatchedRemoveResult) (after : Volume) : Prop:=
 match result.status with
 | .removed=>before file = some expected ∧ after.disk.files = Function.update before file none
 | .missing=>before file = none ∧ after.disk.files = before
 | .mismatch=>∃ bytes,before file = some bytes ∧ bytes≠expected ∧ after.disk.files = before
 | .ioError=>faults

variable {bytes payload : Bytes} {disk disk' : Disk} {path : JournalPath} {content : Option Bytes}
 {after : DurableJournalReadResult}

section OneGeneration
variable {f faults : Prop} {v : Volume} {path : JournalPath} {expected : Bytes}
 {before : JournalFile → Option Bytes} {opened : FileStat}

lemma fails (hfaults:f) (e : ErrorCode) (after : Volume):
 RemovesOne f (.path path) expected before (failedWith e) after:=
 hfaults

lemma yields_fails (hfaults:f) (e : ErrorCode) : Yields f (pure (failedWith e)) v
  (RemovesOne f (.path path) expected before):=
 yields_pure (fails hfaults e v)

/-- The opened generation is in the staging directory. -/
structure Claimed (path : JournalPath) (expected : Bytes) (before : JournalFile → Option Bytes)
  (v : Volume) : Prop where
 held : before (.path path)=some expected
 staging : v.disk.staging path=true
 files : v.disk.files=Function.update (Function.update before (.path path) none)
  (.removalClaim path) (some expected)

lemma yields_unlinkClaimed (h:Claimed path expected before v)
 (hclaim:before (.removalClaim path)=none):
 Yields f (unlinkClaimed path) v (RemovesOne f (.path path) expected before):=by
 have hcandidate:v.disk.files (.removalClaim path)=some expected:=by simp [h.files]
 rw [unlinkClaimed]
 apply yields_bind
 apply yields_perform
 · have hfiles:(v.disk.set (.removalClaim path) none).files=
     Function.update before (.path path) none:=by
    simp [Disk.set,h.files,hclaim]
   simp only [Volume.call,hcandidate,ne_eq,not_true_eq_false,if_false]
   have hwork:AllWork [.syncStaging path,.closeStaging,.removeStaging path,.syncParent,
     .closeParent,.closeFile] (v.withDisk (v.disk.set (.removalClaim path) none)):=by
    simp [AllWork,Volume.call,Disk.set,h.staging,Disk.removeStaging]
   apply yields_step (yields_firstError hwork)
   intro e after hend
   apply yields_pure
   obtain ⟨rfl,hsame⟩ | ⟨herror,hfaults⟩:=hend
   · rw [Volume.withDisk_disk,hfiles] at hsame
     exact ⟨h.held,hsame⟩
   · rw [outcomeOf,if_pos herror]
     exact fails hfaults e after
 · intro e after hfaults hreport _
   rw [if_pos (not_zero_of_reports hreport)]
   apply yields_after
   intro _ _
   apply yields_after
   intro _ _
   exact yields_fails hfaults e

lemma yields_giveBack_failed (hfaults:f) {claimed : FileStat} (hfailed:claimed.failed):
 Yields f (giveBack path false claimed) v
  (RemovesOne f (.path path) expected before):=by
 have hmismatch:∀e after,RemovesOne f (.path path) expected before
   (mismatchAfter claimed e) after:=by
  intro e after
  unfold mismatchAfter
  split
  · exact fails hfaults e after
  · exact fails hfaults claimed.errno after
 rw [giveBack,if_neg Bool.false_ne_true]
 apply yields_after
 intro restored after
 split
 · exact yields_fails hfaults restored
 · apply yields_after
   intro e after
   exact yields_pure (hmismatch e after)

lemma yields_checkClaim {rest : RemovalProg MatchedRemoveResult}
 (hfile:v.disk.files (.removalClaim path)=some bytes)
 (hinode:v.inode (.removalClaim path)=opened.inode)
 (hrest:Yields f rest v (RemovesOne f (.path path) expected before)):
 Yields f (checkClaim path false opened rest) v
  (RemovesOne f (.path path) expected before):=by
 rw [checkClaim]
 apply yields_bind
 apply yields_issue
 · have hmatches:claimMatches opened (Volume.statOf (v.inode (.removalClaim path)) bytes)=
     true:=by simp [claimMatches,Volume.statOf,hinode]
   simp only [Volume.answer,hfile,hmatches,if_true]
   exact hrest
 · exact fun _ h=>h.elim
 · intro claimed after hfaults hreport _
   have hfailed:claimed.failed=true:=hreport
   have hother:claimMatches opened claimed=false:=by simp [claimMatches,hfailed]
   simp only [hother,Bool.false_eq_true,if_false]
   exact yields_giveBack_failed hfaults hfailed

/-- The opened generation, still in its place, and its staging directory. -/
structure Matched (path : JournalPath) (expected : Bytes) (before : JournalFile → Option Bytes)
  (opened : FileStat) (v : Volume) : Prop where
 held : before (.path path)=some expected
 noClaim : before (.removalClaim path)=none
 files : v.disk.files=before
 inode : v.inode (.path path)=opened.inode

lemma yields_claimFile (h:Matched path expected before opened v)
 (hstaging:v.disk.staging path=true):
 Yields f (claimFile path opened) v (RemovesOne f (.path path) expected before):=by
 rw [claimFile]
 have hsynced:(v.call .syncParent).2=v:=rfl
 apply yields_checked rfl
 · rw [hsynced]
   apply yields_bind
   have hfile:v.disk.files (.path path)=some expected:=by rw [h.files,h.held]
   have hfree:v.disk.files (.removalClaim path)=none:=by rw [h.files,h.noClaim]
   apply yields_perform
   · have hclaimed:Claimed path expected before (v.call (.claim path)).2:=by
      refine ⟨h.held,?_,?_⟩
      · simp [Volume.call,Volume.renameNoReplace,hfile,hfree,Disk.rename,Disk.set,hstaging]
      · simp only [Volume.call,Volume.renameNoReplace,hfile,hfree,if_true,Disk.rename,
         Disk.set,h.files]
        rw [Function.update_comm (by simp)]
     have hinode:(v.call (.claim path)).2.inode (.removalClaim path)=opened.inode:=by
      simp [Volume.call,Volume.renameNoReplace,hfile,hfree,h.inode]
     have hzero:(v.call (.claim path)).1=0:=by
      simp [Volume.call,Volume.renameNoReplace,hfile,hfree]
     have hcandidate:(v.call (.claim path)).2.disk.files (.removalClaim path)=
       some expected := by simp [hclaimed.files]
     rw [if_neg (not_not.mpr hzero)]
     apply yields_checkClaim hcandidate hinode
     apply yields_checked rfl
     · apply yields_checked rfl
       · exact yields_unlinkClaimed hclaimed h.noClaim
       · intro hfaults e after _
         exact yields_fails hfaults e
     · intro hfaults e after _
       exact yields_fails hfaults e
   · intro e after hfaults hreport _
     rw [if_pos hreport.1]
     apply yields_after
     intro _ _
     rw [if_neg hreport.2]
     exact yields_fails hfaults e
 · intro hfaults e after _
   exact yields_fails hfaults e

lemma yields_enterStaging (h:Matched path expected before opened v)
 (hstaging:v.disk.staging path=true):
 Yields f (enterStaging path false opened) v
  (RemovesOne f (.path path) expected before):=by
 rw [enterStaging]
 apply yields_checked
 · simp [Volume.call,hstaging]
 · apply yields_bind
   apply yields_issue
   · simp only [Volume.answer,Volume.call,hstaging,if_true]
     exact yields_claimFile h hstaging
   · exact fun _ hshort=>hshort.elim
   · intro metadata after hfaults hreport _
     have hfailed:metadata.failed=true:=hreport
     have hrefused:stagingRefused metadata=true:=by simp [stagingRefused,hfailed]
     rw [if_pos hrefused]
     exact yields_fails hfaults _
 · intro hfaults e after _
   rw [if_neg Bool.false_ne_true]
   apply yields_after
   intro _ _
   exact yields_fails hfaults e

/-- The staging directory is there, and nothing else has changed. -/
structure Staged (path : JournalPath) (v after : Volume) : Prop where
 staging : after.disk.staging path=true
 files : after.disk.files=v.disk.files
 inode : after.inode=v.inode

lemma makeStaging_staged (v : Volume) (path : JournalPath) : Staged path v (v.makeStaging path):=
 ⟨by simp [Volume.makeStaging],rfl,rfl⟩

lemma yields_makeStaging (hfree:v.disk.staging path=false ∨ f):
 Yields f (perform (.makeStaging path)) v fun e after =>
  (e=0 ∧ Staged path v after) ∨ (e≠0 ∧ f):=by
 apply yields_perform
 · cases hstaging:v.disk.staging path with
   | false=>
    simp only [Volume.call,hstaging,Bool.false_eq_true,if_false]
    exact .inl ⟨trivial,makeStaging_staged v path⟩
   | true=>
    simp only [Volume.call,hstaging,if_true]
    rw [hstaging] at hfree
    exact .inr ⟨by decide,hfree.resolve_left (by simp)⟩
 · intro e after hfaults hreport _
   exact .inr ⟨not_zero_of_reports hreport,hfaults⟩

lemma yields_recreateStaging (hclaim:v.disk.files (.removalClaim path)=none)
 (hthere:v.disk.staging path=true ∨ f):
 Yields f (do
  let removed ← perform (.removeStaging path)
  if removed≠0 then pure removed else perform (.makeStaging path)) v fun e after =>
  (e=0 ∧ Staged path v after) ∨ (e≠0 ∧ f):=by
 apply yields_bind
 apply yields_perform
 · cases hstaging:v.disk.staging path with
   | false=>
    simp only [Volume.call,hstaging,if_true]
    rw [hstaging] at hthere
    exact yields_pure (.inr ⟨by decide,hthere.resolve_left (by simp)⟩)
   | true=>
    simp only [Volume.call,hstaging,hclaim,Bool.true_eq_false,ne_eq,not_true_eq_false,
     if_true,if_false]
    have hfree:(v.withDisk (v.disk.removeStaging path)).disk.staging path=false:=by
     simp [Disk.removeStaging]
    apply yields_mono (yields_makeStaging (.inl hfree))
    intro e after h
    obtain ⟨hzero,hstaged⟩ | hfailed:=h
    · exact .inl ⟨hzero,hstaged.staging,hstaged.files,hstaged.inode⟩
    · exact .inr hfailed
 · intro e after hfaults hreport _
   have herror:=not_zero_of_reports hreport
   rw [if_pos herror]
   exact yields_pure (.inr ⟨herror,hfaults⟩)

lemma yields_createStaging (hclaim:v.disk.files (.removalClaim path)=none):
 Yields f (createStaging path) v fun e after =>
  (e=0 ∧ Staged path v after) ∨ (e≠0 ∧ f):=by
 have hexists:¬fileExists=0:=by decide
 rw [createStaging]
 apply yields_bind
 apply yields_perform
 · cases hstaging:v.disk.staging path with
   | false=>
    simp only [Volume.call,hstaging,Bool.false_eq_true,if_false,if_true]
    exact yields_pure (.inl ⟨rfl,makeStaging_staged v path⟩)
   | true=>
    simp only [Volume.call,hstaging,if_true,if_neg hexists,ne_eq,not_true_eq_false, if_false]
    exact yields_recreateStaging hclaim (.inl hstaging)
 · intro e after hfaults hreport htorn
   have herror:=not_zero_of_reports hreport
   have hsame:after.disk.files=v.disk.files ∧ after.inode=v.inode:=by
    obtain rfl | rfl:=htorn
    · exact ⟨rfl,rfl⟩
    · simp only [Volume.answer,Volume.call]
      split
      · exact ⟨rfl,rfl⟩
      · exact ⟨rfl,rfl⟩
   rw [if_neg herror]
   split
   · exact yields_pure (.inr ⟨herror,hfaults⟩)
   · have hfree:after.disk.files (.removalClaim path)=none:=by rw [hsame.1,hclaim]
     apply yields_mono (yields_recreateStaging hfree (.inr hfaults))
     intro e last h
     obtain ⟨hzero,hstaged⟩ | hfailed:=h
     · exact .inl ⟨hzero,hstaged.staging,hstaged.files.trans hsame.1, hstaged.inode.trans hsame.2⟩
     · exact .inr hfailed

lemma yields_removeMatched (h:Matched path expected before opened v):
 Yields f (removeMatched path false opened) v
  (RemovesOne f (.path path) expected before):=by
 rw [removeMatched]
 apply yields_checked rfl
 · have hclaim:v.disk.files (.removalClaim path)=none:=by rw [h.files,h.noClaim]
   rw [if_neg Bool.false_ne_true]
   apply yields_step (yields_createStaging hclaim)
   intro e after hmade
   obtain ⟨rfl,hstaged⟩ | ⟨herror,hfaults⟩:=hmade
   · rw [if_neg (not_not.mpr rfl)]
     apply yields_enterStaging _ hstaged.staging
     exact ⟨h.held,h.noClaim,hstaged.files.trans h.files,by rw [hstaged.inode,h.inode]⟩
   · rw [if_pos herror]
     exact yields_fails hfaults e
 · intro hfaults e after _
   exact yields_fails hfaults e

lemma yields_matchOpened {bytes : Bytes} {m : ℕ}
 (hopened:v.opened=some (v.inode (.path path),bytes))
 (hfile:v.disk.files (.path path)=some bytes)
 (hclaim:v.disk.files (.removalClaim path)=none) (hfits:bytes.length ≤ m):
 Yields f (matchOpened path false expected m) v
  (RemovesOne f (.path path) expected v.disk.files):=by
 rw [matchOpened]
 apply yields_bind
 apply yields_issue
 · have haccepted:fileRefused (Volume.statOf (v.inode (.path path)) bytes) m=false:=by
    simp only [fileRefused,Volume.statOf]
    have hsigned:¬((bytes.length : ℤ)<0):=by omega
    simp [hfits,hsigned]
   have hsize:(Volume.statOf (v.inode (.path path)) bytes).size.toNat=bytes.length:=rfl
   simp only [Volume.answer,hopened,haccepted,Bool.false_eq_true,if_false,hsize]
   apply yields_step (yields_readOpened hopened bytes.length [] List.nil_prefix (by simp))
   intro result after hread
   obtain ⟨rfl,rfl⟩ | ⟨hfaults,e,rfl⟩:=hread
   · by_cases hsame:bytes=expected
     · simp only [hsame,ne_eq,not_true_eq_false,if_false]
       exact yields_removeMatched ⟨by rw [hfile,hsame],hclaim,rfl,rfl⟩
     · simp only [ne_eq,hsame,not_false_eq_true,if_true]
       exact yields_pure ⟨bytes,hfile,hsame,rfl⟩
   · exact yields_fails hfaults e
 · exact fun _ hshort=>hshort.elim
 · intro opened after hfaults hreport _
   have hfailed:opened.failed=true:=hreport
   have hrefused:fileRefused opened m=true:=by simp [fileRefused,hfailed]
   rw [if_pos hrefused]
   exact yields_fails hfaults _

lemma yields_removePathIfBytesMatch {m : ℕ}
 (hclaim:v.disk.files (.removalClaim path)=none)
 (hfits:∀bytes,v.disk.files (.path path)=some bytes → bytes.length ≤ m):
 Yields f (removePathIfBytesMatch path expected m) v
  (RemovesOne f (.path path) expected v.disk.files):=by
 have hmissing:¬noSuchFile=0:=by decide
 rw [removePathIfBytesMatch]
 apply yields_bind
 apply yields_perform
 · cases hfile:v.disk.files (.path path) with
   | none=>
    simp only [Volume.call,hfile,if_neg hmissing,ne_eq,not_true_eq_false,if_false]
    apply yields_bind
    apply yields_perform
    · simp only [Volume.call,hclaim,if_neg hmissing,not_true_eq_false,if_false]
      exact yields_pure ⟨hfile,rfl⟩
    · intro e after hfaults hreport _
      rw [if_neg hreport.1,if_pos hreport.2]
      exact yields_fails hfaults e
   | some bytes=>
    simp only [Volume.call,hfile,if_true]
    have hopened:=@yields_matchOpened f { v with opened:=some (v.inode (.path path),
     bytes) } path expected bytes m rfl hfile hclaim (hfits bytes hfile)
    exact hopened
 · intro e after hfaults hreport _
   rw [if_neg hreport.1,if_pos hreport.2]
   exact yields_fails hfaults e

end OneGeneration

variable (expected : Bytes)

/-- Whether a generation holds something else than what is expected. -/
def differs : Option Bytes → Bool
 | none=>false
 | some payload=>payload≠expected

def removeMatching (temporary : Bool) (generations : Generations):
  DurableJournalStatus × Generations:=
 if differs expected generations.primary then (.payloadMismatch,generations)
 else if differs expected generations.previous then
  (.payloadMismatch,⟨none,generations.previous⟩)
 else (if temporary then .payloadMismatch else .success,⟨none,none⟩)

/-- A run either did what `removeMatching` says or reports an error, which only faults explain. -/
def Refines (faults : Prop) (store : DurableJournalStore)
  (expected : DurableJournalStatus × Generations) (result : RemovalResult) (after : Volume):
  Prop:=
 (faults ∧ ∀r,result = .ok r → r.status = .ioError) ∨
  (∃ r,result = .ok r ∧ r.status = expected.1 ∧ Represents store after.disk expected.2)

section Call
variable {f faults : Prop} {s store : DurableJournalStore} {v : Volume} {generations : Generations}
 {expected : Bytes} {post : RemovalResult → Volume → Prop}

lemma of_files (h:Represents s disk generations) (hfiles:disk'.files=disk.files):
 Represents s disk' generations:=
 ⟨hfiles ▸ h.primary,hfiles ▸ h.previous,hfiles ▸ h.noClaims,h.primary_fits,h.previous_fits⟩

lemma makeEnvelope_injective {p q : Bytes} (h:makeEnvelope p=makeEnvelope q) : p=q:=by
 rw [←makeEnvelope_drop p,h,makeEnvelope_drop]

lemma removeEmptyStaging_files (hclaims:∀p,v.disk.files (.removalClaim p)=none)
 (path : JournalPath):
 (Volume.answer (.removeEmptyRemovalStaging path) v).1.error=0 ∧
  (Volume.answer (.removeEmptyRemovalStaging path) v).2.disk.files=v.disk.files:=by
 simp only [Volume.answer,Disk.answer,hclaims,if_true]
 cases v.disk.staging path with
 | false=>exact ⟨rfl,rfl⟩
 | true=>exact ⟨rfl,rfl⟩

lemma yields_removeGenerations {rest : Bool → RemovalProg RemovalResult}
 {paths : List JournalPath} {removedAny : Bool}
 (hclaims:∀p,v.disk.files (.removalClaim p)=none)
 (hfits:∀bytes,v.disk.files (.path path)=some bytes →
  bytes.length ≤ maximumEnvelopeBytes s.maximumPayloadBytes)
 (hmismatch:∀bytes after,v.disk.files (.path path)=some bytes → bytes≠expected →
  after.disk.files=v.disk.files → post (.ok { status:=.payloadMismatch }) after)
 (hnext:∀removedAny after,(v.disk.files (.path path)=none ∨
   v.disk.files (.path path)=some expected) →
  after.disk.files=Function.update v.disk.files (.path path) none →
  Yields f (removeGenerations s expected rest paths removedAny) after post)
 (hfault:∀e after,f → post (.ok (ioFailure e)) after):
 Yields f (removeGenerations s expected rest (path::paths) removedAny) v post:=by
 have hstaging:∀ (t : Volume) (more : RemovePathResult → Bool),
   (v.disk.files (.path path)=none ∨ v.disk.files (.path path)=some expected) →
   t.disk.files=Function.update v.disk.files (.path path) none →
   Yields f (do
    let staging : RemovePathResult ← Prog.issue (RemovalOp.removeEmptyRemovalStaging path)
    if staging.error≠0 then pure (.ok (ioFailure staging.error))
    else removeGenerations s expected rest paths (more staging)) t post:=by
  intro t more hheld hfiles
  have hfree:∀p,t.disk.files (.removalClaim p)=none:=by
   intro p
   rw [hfiles,Function.update_of_ne (by simp)]
   exact hclaims p
  obtain ⟨hzero,hsame⟩:=removeEmptyStaging_files hfree path
  apply yields_bind
  apply yields_issue
  · simp only [hzero,ne_eq,not_true_eq_false,if_false]
    exact hnext _ _ hheld (hsame.trans hfiles)
  · exact fun _ hshort=>hshort.elim
  · intro staging after hfaults hreport _
    simp only [ne_eq,hreport.2,not_false_eq_true,if_true]
    exact yields_pure (hfault _ _ hfaults)
 rw [removeGenerations]
 apply yields_step (yields_removePathIfBytesMatch (hclaims path) hfits)
 intro result after hremoved
 obtain ⟨status,e⟩:=result
 cases status with
 | removed=>
  exact hstaging after _ (.inr hremoved.1) hremoved.2
 | missing=>
  have hfiles:after.disk.files=Function.update v.disk.files (.path path) none:=by
   rw [hremoved.2,←hremoved.1,Function.update_eq_self]
  exact hstaging after _ (.inl hremoved.1) hfiles
 | mismatch=>
  obtain ⟨bytes,hfile,hne,hfiles⟩:=hremoved
  exact yields_pure (hmismatch bytes after hfile hne hfiles)
 | ioError=>exact yields_pure (hfault e after hremoved)

lemma yields_finishRemoval (removedAny : Bool) (h:Represents s v.disk generations):
 Yields f (finishRemoval removedAny) v (Refines f s
  (if (v.disk.files (.path .temporary)).isSome then .payloadMismatch else .success,
   generations)):=by
 rw [finishRemoval]
 apply yields_bind
 apply yields_issue
 · simp only [Volume.answer]
   cases (v.disk.files (.path .temporary)).isSome with
   | true=>exact yields_pure (.inr ⟨_,rfl,rfl,h⟩)
   | false=>
    simp only []
    split
    · apply yields_bind
      apply yields_perform
      · exact yields_pure (.inr ⟨_,rfl,rfl,h⟩)
      · intro e after hfaults hreport _
        have herror:e≠0:=hreport
        rw [if_pos herror]
        exact yields_pure (.inl ⟨hfaults,fun r hr=>by cases hr; rfl⟩)
    · exact yields_pure (.inr ⟨_,rfl,rfl,h⟩)
 · exact fun _ hshort=>hshort.elim
 · intro present after hfaults hreport _
   obtain ⟨e,rfl⟩:=hreport
   exact yields_pure (.inl ⟨hfaults,fun r hr=>by cases hr⟩)

lemma differs_envelope (hfile:content.map makeEnvelope=some bytes):
 differs payload content=decide (bytes≠makeEnvelope payload):=by
 cases content with
 | none=>cases hfile
 | some p=>
  cases hfile
  by_cases hsame:p=payload
  · simp [differs,hsame]
  · have hother:makeEnvelope p≠makeEnvelope payload:=
     fun heq=>hsame (makeEnvelope_injective heq)
    simp [differs,hsame,hother]

lemma not_differs (h:content.map makeEnvelope=none ∨
  content.map makeEnvelope=some (makeEnvelope payload)):
 differs payload content=false:=by
 obtain hnone | hsome:=h
 · rw [Option.map_eq_none_iff.mp hnone]
   rfl
 · rw [differs_envelope hsome]
   simp

lemma envelope_fits (hfits:∀p,content=some p → p.length ≤ s.maximumPayloadBytes)
 (hfile:content.map makeEnvelope=some bytes):
 bytes.length ≤ maximumEnvelopeBytes s.maximumPayloadBytes:=by
 cases content with
 | none=>cases hfile
 | some p=>
  cases hfile
  have hp:=hfits p rfl
  rw [makeEnvelope_length,maximumEnvelopeBytes]
  omega

lemma removed_primary {after : Disk} (h:Represents s v.disk generations)
 (hfiles:after.files=Function.update v.disk.files (.path .primary) none):
 Represents s after ⟨none,generations.previous⟩:=
 of_files h.remove_primary hfiles

lemma yields_removeIfPayloadMatches {payload : Bytes} (h:Represents s v.disk generations)
 (hsize:payload.length ≤ s.maximumPayloadBytes):
 Yields f (removeIfPayloadMatches s payload) v (Refines f s
  (removeMatching payload (v.disk.files (.path .temporary)).isSome generations)):=by
 have herror:∀expected (e : ErrorCode) (after : Volume),f →
   Refines f s expected (.ok (ioFailure e)) after:=by
  intro expected e after hfaults
  exact .inl ⟨hfaults,fun r hr=>by cases hr; rfl⟩
 rw [removeIfPayloadMatches,if_neg (by omega)]
 apply yields_removeGenerations h.noClaims
 · intro bytes hfile
   rw [h.primary] at hfile
   exact envelope_fits h.primary_fits hfile
 · intro bytes after hfile hne hfiles
   rw [h.primary] at hfile
   have hdiffers:differs payload generations.primary=true:=by
    rw [differs_envelope hfile]
    simpa using hne
   rw [removeMatching,if_pos hdiffers]
   exact .inr ⟨_,rfl,rfl,of_files h hfiles⟩
 · intro removedAny after hheld hfiles
   rw [h.primary] at hheld
   have hfirst:=removed_primary h hfiles
   have htemporary:after.disk.files (.path .temporary)=v.disk.files (.path .temporary):=by
    rw [hfiles,Function.update_of_ne (by simp)]
   rw [removeMatching,if_neg (by simp [not_differs hheld])]
   apply yields_removeGenerations hfirst.noClaims
   · intro bytes hfile
     rw [hfirst.previous] at hfile
     exact envelope_fits hfirst.previous_fits hfile
   · intro bytes last hfile hne hlast
     rw [hfirst.previous] at hfile
     have hdiffers:differs payload generations.previous=true:=by
      rw [differs_envelope hfile]
      simpa using hne
     rw [if_pos hdiffers]
     exact .inr ⟨_,rfl,rfl,of_files hfirst hlast⟩
   · intro removedAny last hheld hlast
     rw [hfirst.previous] at hheld
     have hsecond:Represents s last.disk ⟨none,none⟩:=of_files hfirst.remove_previous hlast
     have hkept:last.disk.files (.path .temporary)=v.disk.files (.path .temporary):=by
      rw [hlast,Function.update_of_ne (by simp),htemporary]
     rw [if_neg (by simp [not_differs hheld]),←hkept]
     exact yields_finishRemoval removedAny hsecond
   · exact herror _
 · exact herror _

end Call

variable (store : DurableJournalStore)

/-- The states that complete and interrupted writes leave, from an empty directory. -/
def Written : Disk → Prop:=
 Reach Disk.faulty (fun session=>∃ payload,session = store.write payload) (· = Disk.empty)

lemma Written.represents {s : DurableJournalStore} (h:Written s disk):
 ∃ generations,Represents s disk generations:=by
 apply JournalAtomicity.reachable_represents
 induction h with
 | start h=>exact .start h
 | session _ member leaves ih=>
  obtain ⟨payload,rfl⟩:=member
  exact .session ih (.write payload) leaves

/-- A generation that was readable and is gone held the expected payload. -/
def DeletedOnly (before after : DurableJournalReadResult) : Prop:=
 before.status≠.notFound → after.status = .notFound →
  before.status = .success ∧ before.payload = expected

/-- A reported mismatch changes no generation; a success leaves nothing to read and has deleted
the expected payload only. -/
def AllOrNothing (expected : Bytes) (disk : Disk) : Prop:=
 ∀ (before after : Volume) (result : DurableJournalResult),before.disk = disk →
  Completes (Volume.world True) (removeIfPayloadMatches store expected) before (.ok result)
   after →
  (result.status = .payloadMismatch → readOutcome store after.disk = readOutcome store disk ∧
    primaryOutcome store after.disk = primaryOutcome store disk ∧
    previousOutcome store after.disk = previousOutcome store disk) ∧
   (result.status = .success → (readOutcome store after.disk).status = .notFound ∧
     DeletedOnly expected (primaryOutcome store disk) (primaryOutcome store after.disk) ∧
     DeletedOnly expected (previousOutcome store disk) (previousOutcome store after.disk))

def Holds (disk : Disk) (path : JournalPath) (expected : Bytes) : Prop:=
 disk.files (.path path) = some (makeEnvelope expected)

def HoldsOther (disk : Disk) (path : JournalPath) (expected : Bytes) : Prop:=
 disk.files (.path path)≠none ∧ ¬Holds disk path expected

/-- A generation with the expected payload comes before what will be found to differ: the primary
before another previous generation, or either one before a temporary that is left. -/
def LateMismatch (disk : Disk) (expected : Bytes) : Prop:=
 (Holds disk .primary expected ∧ HoldsOther disk .previous expected) ∨
  (disk.files (.path .temporary)≠none ∧ ¬HoldsOther disk .primary expected ∧
   ¬HoldsOther disk .previous expected ∧
   (Holds disk .primary expected ∨ Holds disk .previous expected))

section Condition
variable {s store : DurableJournalStore} {disk : Disk} {generations : Generations}
 {expected : Bytes}

lemma holds_envelope (hfile:disk.files (.path path)=content.map makeEnvelope):
 Holds disk path expected ↔ content=some expected:=by
 rw [Holds,hfile]
 cases content with
 | none=>simp
 | some p=>
  constructor
  · intro h
    rw [Option.map_some,Option.some_inj] at h
    rw [makeEnvelope_injective h]
  · intro h
    rw [h,Option.map_some]

lemma holdsOther_envelope (hfile:disk.files (.path path)=content.map makeEnvelope):
 HoldsOther disk path expected ↔ differs expected content=true:=by
 rw [HoldsOther,holds_envelope hfile,hfile]
 cases content with
 | none=>simp [differs]
 | some p=>simp [differs]

lemma lateMismatch_iff (h:Represents s disk generations) : LateMismatch disk expected ↔
  (removeMatching expected (disk.files (.path .temporary)).isSome generations).1=
    .payloadMismatch ∧
   (removeMatching expected (disk.files (.path .temporary)).isSome generations).2 ≠
    generations:=by
 have htemporary:disk.files (.path .temporary)≠none ↔
   (disk.files (.path .temporary)).isSome=true := Option.isSome_iff_ne_none.symm
 unfold LateMismatch
 rw [holds_envelope h.primary,holds_envelope h.previous,holdsOther_envelope h.primary,
  holdsOther_envelope h.previous,htemporary,removeMatching]
 generalize (disk.files (.path .temporary)).isSome=temporary
 obtain ⟨primary,previous⟩:=generations
 cases primary with
 | none=>
  cases previous with
  | none=>simp [differs]
  | some q=>by_cases hq:q=expected<;>simp [differs,hq]
 | some p=>
  cases previous with
  | none=>by_cases hp:p=expected<;>simp [differs,hp]
  | some q=>
   by_cases hp:p=expected<;>by_cases hq:q=expected<;>simp [differs,hp,hq]

lemma generations_unique {generations' : Generations} (h:Represents s disk generations)
 (h':Represents s disk' generations')
 (hprimary:primaryOutcome s disk'=primaryOutcome s disk)
 (hprevious:previousOutcome s disk'=previousOutcome s disk):
 generations'=generations:=by
 rw [h.primaryOutcome,h'.primaryOutcome] at hprimary
 rw [h.previousOutcome,h'.previousOutcome] at hprevious
 obtain ⟨primary,previous⟩:=generations
 obtain ⟨primary',previous'⟩:=generations'
 have hfirst:primary'=primary:=by
  cases primary'<;>cases primary<;>simp_all [DurableJournalStore.foundIn]
 have hsecond:previous'=previous:=by
  cases previous'<;>cases previous<;>simp_all [DurableJournalStore.foundIn]
 rw [hfirst,hsecond]

lemma removeMatching_success {temporary : Bool}
 (h:(removeMatching expected temporary generations).1=.success):
 differs expected generations.primary=false ∧ differs expected generations.previous=false ∧
  (removeMatching expected temporary generations).2 = ⟨none,none⟩:=by
 unfold removeMatching at h ⊢
 cases hprimary:differs expected generations.primary with
 | true=>simp [hprimary] at h
 | false=>
  cases hprevious:differs expected generations.previous with
  | true=>simp [hprimary,hprevious] at h
  | false=>simp

lemma deletedOnly_primary (h:Represents s disk generations)
 (hsame:differs expected generations.primary=false):
 DeletedOnly expected (primaryOutcome s disk) after:=by
 rw [h.primaryOutcome]
 cases hprimary:generations.primary with
 | none=>exact fun hfound=>absurd rfl hfound
 | some p=>
  rw [hprimary] at hsame
  have hp:p=expected:=by simpa [differs] using hsame
  intro _ _
  exact ⟨rfl,hp⟩

lemma deletedOnly_previous (h:Represents s disk generations)
 (hsame:differs expected generations.previous=false):
 DeletedOnly expected (previousOutcome s disk) after:=by
 rw [h.previousOutcome]
 cases hprevious:generations.previous with
 | none=>exact fun hfound=>absurd rfl hfound
 | some q=>
  rw [hprevious] at hsame
  have hq:q=expected:=by simpa [differs] using hsame
  intro _ _
  exact ⟨rfl,hq⟩

lemma LateMismatch.fits (hlate:LateMismatch disk expected)
 (h:Represents s disk generations) : expected.length ≤ s.maximumPayloadBytes:=by
 have hheld:Holds disk .primary expected ∨ Holds disk .previous expected:=by
  obtain ⟨hprimary,-⟩ | ⟨-,-,-,hheld⟩:=hlate
  · exact .inl hprimary
  · exact hheld
 rw [holds_envelope h.primary,holds_envelope h.previous] at hheld
 obtain hprimary | hprevious:=hheld
 · exact h.primary_fits expected hprimary
 · exact h.previous_fits expected hprevious

lemma not_allOrNothing (h:Represents s disk generations)
 (hlate:LateMismatch disk expected) : ¬AllOrNothing s expected disk:=by
 intro hall
 let before : Volume := { disk:=disk,inode:=fun _=>0 }
 have hrun:=(@yields_removeIfPayloadMatches False s before generations expected h
  (hlate.fits h)).run
 obtain ⟨hmismatch,hchanged⟩:=(lateMismatch_iff h).mp hlate
 obtain ⟨hfalse,-⟩ | ⟨result,hresult,hstatus,hafter⟩:=hrun
 · exact hfalse
 · have hcompletes:=run_completes (Volume.world_answer True)
    (removeIfPayloadMatches s expected) before
   rw [hresult] at hcompletes
   obtain ⟨-,hprimary,hprevious⟩:=(hall before _ result rfl hcompletes).1
    (hstatus.trans hmismatch)
   exact hchanged (generations_unique h hafter hprimary hprevious)

lemma allOrNothing_of_not_late (h:Represents s disk generations)
 (hlate:¬LateMismatch disk expected) : AllOrNothing s expected disk:=by
 intro before after result hbefore hrun
 subst hbefore
 by_cases hsize:expected.length ≤ s.maximumPayloadBytes
 · have hend:=(@yields_removeIfPayloadMatches True s before generations expected h
    hsize).completes hrun
   obtain ⟨-,hfault⟩ | ⟨r,hr,hstatus,hafter⟩:=hend
   · rw [hfault result rfl]
     exact ⟨nofun,nofun⟩
   · cases hr
     constructor
     · intro hmismatch
       have hsame:(removeMatching expected
         (before.disk.files (.path .temporary)).isSome generations).2=generations:=by
        by_contra hchanged
        exact hlate ((lateMismatch_iff h).mpr ⟨hstatus.symm.trans hmismatch,hchanged⟩)
       rw [hsame] at hafter
       rw [hafter.readOutcome,h.readOutcome,hafter.primaryOutcome,h.primaryOutcome,
        hafter.previousOutcome,h.previousOutcome]
       exact ⟨rfl,rfl,rfl⟩
     · intro hsuccess
       obtain ⟨hprimary,hprevious,hgone⟩:=removeMatching_success (hstatus.symm.trans hsuccess)
       rw [hgone] at hafter
       rw [hafter.readOutcome]
       exact ⟨rfl,deletedOnly_primary h hprimary,deletedOnly_previous h hprevious⟩
 · have hlong:Yields True (removeIfPayloadMatches s expected) before fun r _ =>
     r=.ok { status:=.payloadTooLarge }:=by
    rw [removeIfPayloadMatches,if_pos (by omega)]
    exact yields_pure rfl
   cases hlong.completes hrun
   exact ⟨nofun,nofun⟩

end Condition

/-- The directory of two writes, with nothing open. -/
def twoWritesVolume (first second : Bytes) : Volume where
 disk:=JournalAtomicity.twoWrites ⟨_,limit_default⟩ first second
 inode _ := 0

lemma twoWritesVolume_written (first second : Bytes):
 Written {} (twoWritesVolume first second).disk:=by
 have hfirst:Written {} ((DurableJournalStore.write {} first).run Disk.answer Disk.empty).2:=
  .session (.start rfl) ⟨first,rfl⟩ (run_completes Disk.faulty_answer _ _).leaves
 exact .session hfirst ⟨second,rfl⟩ (run_completes Disk.faulty_answer _ _).leaves

/-- After any writes, complete or cut, a matched removal of `expected` is all or nothing exactly
when no generation that holds it comes before what will be found to differ. -/
theorem allOrNothing_iff (store : DurableJournalStore) (disk : Disk) (expected : Bytes)
 (hwritten:Written store disk):
 AllOrNothing store expected disk ↔ ¬LateMismatch disk expected:=by
 obtain ⟨generations,h⟩:=hwritten.represents
 constructor
 · intro hall hlate
   exact not_allOrNothing h hlate hall
 · exact allOrNothing_of_not_late h

theorem allOrNothing_two_writes : AllOrNothing {} [1] (twoWritesVolume [1] [2]).disk ↔
  ¬LateMismatch (twoWritesVolume [1] [2]).disk [1]:=
 allOrNothing_iff {} _ [1] (twoWritesVolume_written [1] [2])

/-- After writing 1 and then 2 the removal of 2 reports a mismatch, and 2 is gone. -/
theorem mismatch_after_deletion:
 ¬∀ (store : DurableJournalStore) (disk : Disk) (expected : Bytes),Written store disk →
  AllOrNothing store expected disk:=by
 intro hall
 have hrun:=run_completes (Volume.world_answer True) (removeIfPayloadMatches {} [2])
  (twoWritesVolume [1] [2])
 have hresult:((removeIfPayloadMatches {} [2]).run Volume.answer
   (twoWritesVolume [1] [2])).1=.ok { status:=.payloadMismatch,error:=0 }:=by
  decide +kernel
 rw [hresult] at hrun
 have hkept:=(hall {} (twoWritesVolume [1] [2]).disk [2] (twoWritesVolume_written [1] [2])
  (twoWritesVolume [1] [2]) _ _ rfl hrun).1 rfl
 have hread:(primaryOutcome {} (((removeIfPayloadMatches {} [2]).run Volume.answer
   (twoWritesVolume [1] [2])).2).disk).status=
    (primaryOutcome {} (twoWritesVolume [1] [2]).disk).status:=
  congrArg (fun read : DurableJournalReadResult=>read.status) hkept.2.1
 revert hread
 decide +kernel

end VoVe.MatchedRemovalSafety
