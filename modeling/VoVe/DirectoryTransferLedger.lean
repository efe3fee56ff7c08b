import VoVe.DirectoryTransferLedgerDisk
import VoVe.DirectoryTransferLive

set_option autoImplicit false

namespace VoVe.DirectoryTransferLedger
open ByteCodec Checks EffectProgram
open DirectoryManifest
open DirectoryTransferProgress DirectoryTransferProgressCodec DirectoryTransferProgressStore
open DirectoryTransferHistory DirectoryTransferReplay DirectoryTransferCanonical
open DirectoryTransferLive DirectoryTransferLedgerDisk

section Plans
variable {sha256 : Bytes → DirectoryTransferProgressDigest}
 (plan : DirectoryTransferProgressPlan sha256)

lemma plan_header_valid : basicHeaderValid sha256 plan.header=.ok ():=by
 have hbinds:=plan.binds
 simp only [headerBindsPlan,bind_unit_eq_ok] at hbinds
 exact hbinds.1

lemma bind_plan : bindDirectoryTransferProgressPlan sha256 plan.header plan.control
 plan.manifest=.ok plan:=by
 unfold bindDirectoryTransferProgressPlan
 split
 · next detail hbinds =>
   rw [plan.binds] at hbinds
   cases hbinds
 · rfl

lemma prepare_plan_header:
 prepareHeader sha256 plan.control plan.manifest=.ok plan.header:=by
 have hbinds:=plan.binds
 have hvalid:=plan_header_valid plan
 simp only [headerBindsPlan,bind_unit_eq_ok,require_eq_ok,decide_eq_true_eq] at hbinds
 obtain ⟨-,hcontrol,hid,hroots,hentries,hrecords,hsize,hdigest⟩:=hbinds
 have hbasic:=hvalid
 simp only [basicHeaderValid,bind_unit_eq_ok,require_eq_ok,decide_eq_true_eq] at hbasic
 obtain ⟨⟨hversion,hheader,hrecord,hhash,hkind,hflags,-⟩,hsealed⟩:=hbasic
 have hentryCount:plan.header.entryCount=UInt32.ofNat plan.manifest.entries.length:=by
  rw [←hentries,UInt32.ofNat_toNat]
 have hmaximum:plan.header.maximumRecordCount=
   UInt32.ofNat (plan.manifest.entries.length+2*plan.manifest.roots.length):=by
  rw [←hrecords,UInt32.ofNat_toNat]
 have hheaderBytes:plan.header.headerBytes=128:=UInt16.toNat_inj.mp hheader
 have hrecordBytes:plan.header.recordBytes=176:=UInt16.toNat_inj.mp hrecord
 let unsealed : DirectoryTransferProgressHeader:=
  { operationId:=plan.control.operationId
    rootCount:=plan.control.rootCount
    entryCount:=UInt32.ofNat plan.manifest.entries.length
    manifestEncodedSize:=plan.control.manifestEncodedSize
    manifestDigest:=plan.control.manifestDigest
    maximumRecordCount:=UInt32.ofNat (plan.manifest.entries.length+2*plan.manifest.roots.length) }
 have hfields:{ unsealed with headerSha256:=plan.header.headerSha256 }=plan.header:=by
  have hdefault:kDirectoryTransferProgressVersion=plan.header.version:=hversion.symm
  dsimp only [unsealed]
  rw [←hid,←hroots,←hentryCount,←hmaximum,←hsize,←hdigest,hdefault,
   ← hheaderBytes,←hrecordBytes,←hhash,←hkind,←hflags]
 have hsame:encodeHeaderPrefix unsealed=encodeHeaderPrefix plan.header:=by
  rw [←hfields]
  rfl
 have hheader:{ unsealed with headerSha256:=sha256 (encodeHeaderPrefix unsealed) }=
   plan.header:=by
  rw [hsame,hsealed]
  exact hfields
 dsimp only [unsealed] at hheader
 unfold prepareHeader
 rw [hcontrol]
 dsimp only
 rw [hheader,hvalid]

lemma prepare_plan:
 prepareDirectoryTransferProgressPlan sha256 plan.control plan.manifest=.ok plan:=by
 unfold prepareDirectoryTransferProgressPlan
 split
 · next thrown hprepare =>
   rw [prepare_plan_header] at hprepare
   cases hprepare
 · next header hprepare =>
   rw [prepare_plan_header] at hprepare
   cases hprepare
   rfl

end Plans

variable {record : DirectoryTransferProgressRecord} {tail : Bytes} {file : LedgerFile}

section Bytes
variable {sha256 : Bytes → DirectoryTransferProgressDigest}
 {plan : DirectoryTransferProgressPlan sha256}
 {records : List DirectoryTransferProgressRecord} {state : DirectoryTransferProgressState}

def ledgerBytes (plan : DirectoryTransferProgressPlan sha256)
  (records : List DirectoryTransferProgressRecord) : Bytes:=
 headerPayload plan.header++records.flatMap recordPayload

lemma length_records (records : List DirectoryTransferProgressRecord):
 (records.flatMap recordPayload).length=
  records.length*kDirectoryTransferProgressRecordBytes:=by
 induction records with
 | nil=>rfl
 | cons record rest ih=>
  rw [List.flatMap_cons,List.length_append,ih,length_recordPayload,List.length_cons,
   Nat.succ_mul,Nat.add_comm]

lemma length_ledgerBytes (plan : DirectoryTransferProgressPlan sha256)
 (records : List DirectoryTransferProgressRecord):
 (ledgerBytes plan records).length=kDirectoryTransferProgressHeaderBytes +
  records.length*kDirectoryTransferProgressRecordBytes:=by
 rw [ledgerBytes,List.length_append,length_headerPayload,length_records]

lemma ledgerBytes_append (plan : DirectoryTransferProgressPlan sha256)
 (records : List DirectoryTransferProgressRecord) (record : DirectoryTransferProgressRecord):
 ledgerBytes plan (records++[record])=ledgerBytes plan records++recordPayload record:=by
 rw [ledgerBytes,ledgerBytes,List.flatMap_append,List.flatMap_singleton,List.append_assoc]

lemma record_at (tail : Bytes) {i : ℕ} (hindex:i < records.length):
 ((records.flatMap recordPayload++tail).drop
  (i*kDirectoryTransferProgressRecordBytes)).take
   kDirectoryTransferProgressRecordBytes=recordPayload records[i]:=by
 induction records generalizing i with
 | nil=>cases hindex
 | cons record rest ih=>
  have hwidth:=length_recordPayload record
  rw [List.flatMap_cons,List.append_assoc]
  cases i with
  | zero=>
   rw [Nat.zero_mul,List.drop_zero,←hwidth,List.take_left]
   rfl
  | succ i=>
   rw [Nat.succ_mul,Nat.add_comm,←List.drop_drop]
   have hdrop:(recordPayload record++(rest.flatMap recordPayload++tail)).drop
     kDirectoryTransferProgressRecordBytes=rest.flatMap recordPayload++tail:=by
    rw [←hwidth,List.drop_left]
   rw [hdrop]
   exact ih (Nat.lt_of_succ_lt_succ hindex)

lemma mapM_range {ε α : Type} {f : ℕ → Except ε α} {xs : List α}
 (h:∀i (hindex:i<xs.length),f i=.ok xs[i]):
 (List.range xs.length).mapM f=.ok xs:=by
 induction xs generalizing f with
 | nil=>rfl
 | cons x rest ih=>
  have hfirst:=h 0 (Nat.zero_lt_succ _)
  have hrest:=ih fun i hindex=>h (i+1) (Nat.succ_lt_succ hindex)
  rw [List.length_cons,List.range_succ_eq_map,List.mapM_cons,hfirst,ok_bind,List.mapM_map]
  change ((List.range rest.length).mapM (fun i=>f (i+1)) >>= _)=_
  rw [hrest]
  rfl

lemma readRecords_eq (hvalid:∀record∈records,basicRecordValid sha256 record=.ok ())
 (tail : Bytes):
 readRecords sha256 (ledgerBytes plan records++tail) records.length=.ok records:=by
 refine mapM_range ?_
 intro i hindex
 have hdrop:(ledgerBytes plan records++tail).drop (kDirectoryTransferProgressHeaderBytes +
   i*kDirectoryTransferProgressRecordBytes)=(records.flatMap recordPayload++tail).drop
    (i*kDirectoryTransferProgressRecordBytes):=by
  rw [←List.drop_drop,ledgerBytes,List.append_assoc,←length_headerPayload plan.header,
   List.drop_left]
 dsimp only
 rw [hdrop,record_at tail hindex]
 exact decode_recordPayload (hvalid _ (List.getElem_mem hindex))

lemma fold_of_replay (h:replayDirectoryTransferProgress plan records=.ok state):
 records.foldlM (fun state record=>applyRecord sha256 plan.header plan.manifest record state)
  (initializeDirectoryTransferProgress plan)=.ok state := (replay_eq_ok.mp h).2

lemma replay_of_fold (h:records.foldlM
 (fun state record=>applyRecord sha256 plan.header plan.manifest record state)
  (initializeDirectoryTransferProgress plan)=.ok state):
 replayDirectoryTransferProgress plan records=.ok state:=
 replay_eq_ok.mpr ⟨length_of_canonical
  (canonical_of_history (history_of_replay (at_start plan) h).1),h⟩

lemma replay_append {next : DirectoryTransferProgressState}
 (h:replayDirectoryTransferProgress plan records=.ok state)
 (happly:applyRecord sha256 plan.header plan.manifest record state=.ok next):
 replayDirectoryTransferProgress plan (records++[record])=.ok next:=by
 apply replay_of_fold
 rw [List.foldlM_append,fold_of_replay h,ok_bind,List.foldlM_cons,happly]
 rfl

lemma sequence_of_replay (h:replayDirectoryTransferProgress plan records=.ok state):
 (state.nextSequence - 1).toNat=records.length:=by
 have hat:=(history_of_replay (at_start plan) (fold_of_replay h)).2.2
 have hsequence:=(shares_of_at hat).sequence
 have hbound:=(replay_eq_ok.mp h).1
 have hsmall:=plan.header.maximumRecordCount.toNat_lt
 have hzero:(startTrail plan).count=0:=rfl
 rw [count_follow,hzero,Nat.zero_add] at hsequence
 rw [hsequence,UInt64.ofNat_add records.length 1]
 change (UInt64.ofNat records.length+1 - 1).toNat=_
 rw [UInt64.add_sub_cancel,UInt64.toNat_ofNat']
 omega

lemma scanLedger_eq (h:replayDirectoryTransferProgress plan records=.ok state) {tail : Bytes}
 (htail:tail.length<kDirectoryTransferProgressRecordBytes):
 scanLedger sha256 plan.control plan.manifest (ledgerBytes plan records++tail)=
  .ok (plan,state,tail.length):=by
 have hheader:(ledgerBytes plan records++tail).take kDirectoryTransferProgressHeaderBytes=
   headerPayload plan.header:=by
  rw [ledgerBytes,List.append_assoc,←length_headerPayload plan.header,List.take_left]
 have hlength:(ledgerBytes plan records++tail).length -
   kDirectoryTransferProgressHeaderBytes=
    records.length*kDirectoryTransferProgressRecordBytes+tail.length:=by
  rw [List.length_append,length_ledgerBytes]
  omega
 have hbound:=(replay_eq_ok.mp h).1
 have hsmall:=plan.header.maximumRecordCount.toNat_lt
 have hvalid:=valid_of_replay (fold_of_replay h)
 unfold kDirectoryTransferProgressRecordBytes at htail hlength
 have hcount:(records.length*176+tail.length) / 176=records.length:=by omega
 have hrest:(records.length*176+tail.length) % 176=tail.length:=by omega
 have hroom:((safeSizeSum plan.header.maximumRecordCount.toNat).any fun exact =>
   decide ((ledgerBytes plan records++tail).length≤exact+kMaximumTornTailBytes))=true:=by
  have hfits:¬plan.header.maximumRecordCount.toNat >
    (0xffffffffffffffff - kDirectoryTransferProgressHeaderBytes) /
     kDirectoryTransferProgressRecordBytes:=by
   unfold kDirectoryTransferProgressHeaderBytes kDirectoryTransferProgressRecordBytes
   omega
  rw [safeSizeSum,if_neg hfits,Option.any_some,decide_eq_true_eq,List.length_append,
   length_ledgerBytes]
  unfold kMaximumTornTailBytes kDirectoryTransferProgressRecordBytes
  omega
 simp only [scanLedger,hheader,decode_headerPayload (plan_header_valid plan),orFail,
  Except.mapError,ok_bind,bind_plan,require,hroom,if_true,hlength,
  kDirectoryTransferProgressRecordBytes,hcount,hrest,readRecords_eq hvalid tail,h]
 rfl

end Bytes

section Sessions
variable {sha256 : Bytes → DirectoryTransferProgressDigest}
 {plan : DirectoryTransferProgressPlan sha256}
 {records : List DirectoryTransferProgressRecord} {state : DirectoryTransferProgressState}
 {disk : LedgerDisk}

/-- The ledger has the header, the records and the beginning of at most one more, or it is not
  there yet. -/
def Holds (plan : DirectoryTransferProgressPlan sha256)
  (records : List DirectoryTransferProgressRecord) (disk : LedgerDisk) : Prop:=
 (disk .ledger = none ∧ records = []) ∨
  ∃ tail : Bytes,tail.length < kDirectoryTransferProgressRecordBytes ∧
   disk .ledger = some (ledgerBytes plan records++tail)

/-- Records that were complete stay, in front of those that came after them. -/
def Kept (plan : DirectoryTransferProgressPlan sha256)
  (records : List DirectoryTransferProgressRecord) (disk : LedgerDisk) : Prop:=
 ∃ more,(∃ state,replayDirectoryTransferProgress plan (records++more) = .ok state) ∧
  Holds plan (records++more) disk

def Ready (records : List DirectoryTransferProgressRecord)
  (session : DirectoryTransferProgressSession sha256) (disk : LedgerDisk) : Prop:=
 session.poisoned = false →
  replayDirectoryTransferProgress session.plan records = .ok session.state ∧
   disk .ledger = some (ledgerBytes session.plan records)

lemma Holds.congr {t : LedgerDisk} (h:Holds plan records disk)
 (hledger:t .ledger=disk .ledger) : Holds plan records t:=by
 unfold Holds
 rw [hledger]
 exact h

lemma holds_exact (h:disk .ledger=some (ledgerBytes plan records)) : Holds plan records disk:=
 .inr ⟨[],by decide,by rw [List.append_nil]; exact h⟩

lemma Kept.here (hstate:∃ state,replayDirectoryTransferProgress plan records=.ok state)
 (h:Holds plan records disk) : Kept plan records disk:=
 ⟨[],by rw [List.append_nil]; exact hstate,by rw [List.append_nil]; exact h⟩

lemma Kept.before {more : List DirectoryTransferProgressRecord}
 (h:Kept plan (records++more) disk) : Kept plan records disk:=by
 obtain ⟨later,hstate,hholds⟩:=h
 rw [List.append_assoc] at hstate hholds
 exact ⟨more++later,hstate,hholds⟩

lemma truncated_ledger {c : Bytes} {size : ℕ} (h:disk .ledger=some c):
 truncated disk size .ledger=some (c.take size):=by
 rw [truncated,Function.update_self,h,Option.map_some]

lemma spec_repairTail {post : Unit → LedgerDisk → Prop}
 (hledger:disk .ledger=some (ledgerBytes plan records++tail))
 (htail:tail.length<kDirectoryTransferProgressRecordBytes)
 (h:∀t : LedgerDisk,t .ledger=some (ledgerBytes plan records) → post () t):
 Spec (Holds plan records)
  (repairTail (ledgerBytes plan records++tail).length tail.length) disk post:=by
 have hkeeps:Holds plan records disk:=.inr ⟨tail,htail,hledger⟩
 have hcut:truncated disk ((ledgerBytes plan records++tail).length - tail.length) .ledger=
   some (ledgerBytes plan records):=by
  rw [truncated_ledger hledger,List.length_append,Nat.add_sub_cancel,List.take_left]
 unfold repairTail
 by_cases hempty:tail.length≠0
 · rw [if_pos hempty]
   refine succeeds_bind (spec_verifyFile hkeeps fun _ _ _=>?_)
   have hrepaired:=holds_exact hcut
   refine succeeds_bind (spec_truncateFile hkeeps hrepaired ?_)
   exact spec_verifyFile hrepaired fun _ _ _=>h _ hcut
 · rw [if_neg hempty]
   have hnone:tail=[]:=List.eq_nil_of_length_eq_zero (by omega)
   rw [hnone,List.append_nil] at hledger
   exact succeeds_pure hkeeps (h disk hledger)

lemma spec_recoverLedger (hreplay:replayDirectoryTransferProgress plan records=.ok state)
 (hledger:disk .ledger=some (ledgerBytes plan records++tail))
 (htail:tail.length<kDirectoryTransferProgressRecordBytes):
 Spec (Holds plan records) (recoverLedger sha256 plan.control plan.manifest) disk
  fun opened t=>opened.session = ⟨plan,state,false⟩ ∧
   t .ledger=some (ledgerBytes plan records):=by
 have hkeeps:Holds plan records disk:=.inr ⟨tail,htail,hledger⟩
 refine succeeds_bind (spec_inspect hkeeps ?_)
 intro c hcontent
 rw [hledger] at hcontent
 cases hcontent
 refine succeeds_bind (spec_confirmed hkeeps fun _=>?_)
 refine succeeds_bind (spec_confirmed hkeeps fun _=>?_)
 refine succeeds_bind (spec_verifyFile hkeeps fun _ _ _=>?_)
 refine succeeds_bind (spec_readBytes hkeeps ?_)
 intro c hcontent
 rw [hledger] at hcontent
 cases hcontent
 rw [List.take_length]
 refine succeeds_bind (spec_verifyFile hkeeps fun _ _ _=>?_)
 refine succeeds_bind (spec_checked hkeeps ?_)
 intro scanned hscanned
 rw [scanLedger_eq hreplay htail] at hscanned
 cases hscanned
 refine succeeds_bind (spec_repairTail hledger htail ?_)
 intro t ht
 refine succeeds_bind (spec_removeSafeFile (fun u hu=>(holds_exact ht).congr hu) ?_)
 intro u hu
 rw [ht] at hu
 exact succeeds_pure (holds_exact hu) ⟨rfl,hu⟩

lemma spec_createLedger (hledger:disk .ledger=none):
 Spec (Holds plan []) (createLedger sha256 plan) disk fun opened t =>
  opened.session = ⟨plan,initializeDirectoryTransferProgress plan,false⟩ ∧
   t .ledger=some (ledgerBytes plan []):=by
 have hmissing:∀t : LedgerDisk,t .ledger=none → Holds plan [] t:=fun t ht=>.inl ⟨ht,rfl⟩
 have hheader:ledgerBytes plan []=headerPayload plan.header:=List.append_nil _
 have hpublished:∀t : LedgerDisk,t .ledger=some (headerPayload plan.header) →
   Holds plan [] t:=by
  intro t ht
  rw [←hheader] at ht
  exact holds_exact ht
 refine succeeds_bind (spec_removeSafeFile (fun t ht=>hmissing t (ht.trans hledger)) ?_)
 intro t ht
 have ht:=ht.trans hledger
 refine succeeds_bind (spec_checked (hmissing t ht) ?_)
 intro encoded hencoded
 rw [encodeHeader_ok (plan_header_valid plan)] at hencoded
 cases hencoded
 refine succeeds_bind (spec_publishHeader ht hmissing hpublished ?_)
 intro u hu
 refine succeeds_pure (hpublished u hu) ⟨rfl,?_⟩
 rw [hheader]
 exact hu

lemma spec_openOrCreate
 (hreplay:replayDirectoryTransferProgress plan records=.ok state)
 (h:Holds plan records disk):
 Spec (Holds plan records) (openOrCreate sha256 plan.control plan.manifest) disk
  fun opened t=>opened.session = ⟨plan,state,false⟩ ∧
   t .ledger=some (ledgerBytes plan records):=by
 refine succeeds_bind (spec_openChild h ?_)
 refine succeeds_bind (spec_checked h ?_)
 intro prepared hprepared
 rw [prepare_plan] at hprepared
 cases hprepared
 obtain ⟨hledger,rfl⟩ | ⟨tail,htail,hledger⟩:=h
 · cases hreplay
   rw [hledger]
   exact spec_createLedger hledger
 · rw [hledger]
   exact spec_recoverLedger hreplay hledger htail

lemma spec_appendBytes {keeps : LedgerDisk → Prop}
 (hledger:disk .ledger=some (ledgerBytes plan records))
 (hkeeps:∀t,Holds plan records t ∨ Holds plan (records++[record]) t → keeps t):
 Spec keeps (appendBytes (ledgerBytes plan records).length (recordPayload record)) disk
  fun _ t=>t .ledger=some (ledgerBytes plan (records++[record])):=by
 have hnow:keeps disk:=hkeeps disk (.inl (holds_exact hledger))
 have hafter:(Function.update disk .ledger
   (some (ledgerBytes plan records++recordPayload record)) : LedgerDisk) .ledger=
    some (ledgerBytes plan (records++[record])):=by
  rw [Function.update_self,ledgerBytes_append]
 refine succeeds_bind (spec_verifyFile hnow fun _ _ _=>?_)
 refine succeeds_bind (spec_writeBytes hledger ?_ ?_)
 · intro part hpart
   apply hkeeps
   obtain hlt | hge:=Nat.lt_or_ge part.length kDirectoryTransferProgressRecordBytes
   · exact .inl (.inr ⟨part,hlt,Function.update_self _ _ _⟩)
   · have hall:part=recordPayload record:=by
      apply hpart.eq_of_length_le
      rw [length_recordPayload]
      exact hge
     rw [hall]
     exact .inr (holds_exact hafter)
 · exact spec_verifyFile (hkeeps _ (.inr (holds_exact hafter))) fun _ _ _=>hafter

/-- A session beside the ledger it works on. -/
structure Open (plan : DirectoryTransferProgressPlan sha256)
  (records : List DirectoryTransferProgressRecord)
  (session : DirectoryTransferProgressSession sha256) (disk : LedgerDisk) : Prop where
 replays : ∃ state,replayDirectoryTransferProgress plan records=.ok state
 holds : Holds plan records disk
 same : session.plan=plan
 ready : Ready records session disk

lemma Open.kept {session : DirectoryTransferProgressSession sha256}
 (h:Open plan records session disk) : Kept plan records disk := .here h.replays h.holds

lemma size_of_replay (h:replayDirectoryTransferProgress plan records=.ok state):
 safeSizeSum (state.nextSequence - 1).toNat=some (ledgerBytes plan records).length:=by
 have hbound:=(replay_eq_ok.mp h).1
 have hsmall:=plan.header.maximumRecordCount.toNat_lt
 have hfits:¬records.length>(0xffffffffffffffff - kDirectoryTransferProgressHeaderBytes) /
   kDirectoryTransferProgressRecordBytes:=by
  unfold kDirectoryTransferProgressHeaderBytes kDirectoryTransferProgressRecordBytes
  omega
 rw [sequence_of_replay h,safeSizeSum,if_neg hfits,length_ledgerBytes]

lemma spec_appendEvidence {session : DirectoryTransferProgressSession sha256}
 (h:Open plan records session disk) (e : DirectoryTransferEvidence):
 wp faulty (Kept plan records) (fun result t=>∃ more,Open plan (records++more) result.2 t)
  (appendEvidence session e) disk:=by
 have hstays:∀next : DirectoryTransferProgressSession sha256,next.plan=plan →
   Ready records next disk → ∃ more,Open plan (records++more) next disk:=by
  intro next hsame hready
  refine ⟨[],?_⟩
  rw [List.append_nil]
  exact ⟨h.replays,h.holds,hsame,hready⟩
 cases hpoisoned:session.poisoned with
 | true=>
  simp only [appendEvidence,hpoisoned,if_true]
  exact ⟨h.kept,hstays session h.same h.ready⟩
 | false=>
  obtain ⟨hreplay,hledger⟩:=h.ready hpoisoned
  obtain ⟨_,sealed,after,-,-,happly,hadvance⟩ | ⟨detail,hadvance,-⟩:=
   advance_cases session.plan e session.state {}
  · have hvalid:=(applyRecord_iff.mp happly).2.1
    have hnext:=replay_append hreplay happly
    simp only [appendEvidence,hpoisoned,Bool.false_eq_true,if_false,hadvance,
     encodeRecord_ok hvalid,size_of_replay hreplay]
    have hsame:=h.same
    subst hsame
    have hcut:∀t,Holds session.plan records t ∨ Holds session.plan (records++[sealed]) t →
      Kept session.plan records t:=by
     intro t ht
     obtain hbefore | hafter:=ht
     · exact .here h.replays hbefore
     · exact ⟨[sealed],⟨after,hnext⟩,hafter⟩
    have hwrite:wp faulty
      (fun t=>Holds session.plan records t ∨ Holds session.plan (records++[sealed]) t)
      (fun r t=>(Holds session.plan records t ∨ Holds session.plan (records++[sealed]) t) ∧
       ∀a,r=.ok a → t .ledger=some (ledgerBytes session.plan (records++[sealed])))
      (appendBytes (ledgerBytes session.plan records).length (recordPayload sealed)).run disk:=
     wp_consequence (spec_appendBytes hledger fun _ ht=>ht)
      fun _ _ hholds hwritten=>⟨hholds,hwritten⟩
    rw [wp_bind]
    refine wp_mono hcut ?_ hwrite
    intro r t ⟨hholds,hwritten⟩
    cases r with
    | ok done=>
     have hledger:=hwritten done rfl
     refine ⟨hcut t hholds,[sealed],⟨after,hnext⟩,holds_exact hledger,rfl,?_⟩
     exact fun _=>⟨hnext,hledger⟩
    | error failure=>
     refine ⟨hcut t hholds,?_⟩
     obtain hbefore | hafter:=hholds
     · refine ⟨[],?_⟩
       rw [List.append_nil]
       exact ⟨h.replays,hbefore,rfl,nofun⟩
     · exact ⟨[sealed],⟨after,hnext⟩,hafter,rfl,nofun⟩
  · simp only [appendEvidence,hpoisoned,Bool.false_eq_true,if_false,hadvance]
    exact ⟨h.kept,hstays session h.same h.ready⟩

lemma spec_appendEach {session : DirectoryTransferProgressSession sha256}
 (h:Open plan records session disk) (calls : List DirectoryTransferEvidence):
 wp faulty (Kept plan records) (fun _ _=>True) (appendEach session calls) disk:=by
 induction calls generalizing records session disk with
 | nil=>exact ⟨h.kept,trivial⟩
 | cons e rest ih=>
  rw [appendEach,wp_bind]
  refine wp_consequence (spec_appendEvidence h e) ?_
  intro result t _ ⟨more,hnext⟩
  exact wp_mono (fun u hu=>hu.before) (fun _ _ _=>trivial) (ih hnext)

lemma spec_ledgerSession
 (hreplay:replayDirectoryTransferProgress plan records=.ok state)
 (h:Holds plan records disk) (calls : List DirectoryTransferEvidence):
 wp faulty (Kept plan records) (fun _ _=>True)
  (ledgerSession sha256 plan.control plan.manifest calls) disk:=by
 have hkept:∀t,Holds plan records t → Kept plan records t:=fun t ht=>.here ⟨state,hreplay⟩ ht
 rw [ledgerSession,wp_bind]
 refine wp_consequence (wp_mono hkept (fun _ _ hr=>hr) (spec_openOrCreate hreplay h)) ?_
 intro r t hcrash hr
 cases r with
 | error failure=>exact ⟨hcrash,trivial⟩
 | ok opened=>
  obtain ⟨hsession,hledger⟩:=hr opened rfl
  have hopen:Open plan records opened.session t:=by
   rw [hsession]
   exact ⟨⟨state,hreplay⟩,holds_exact hledger,rfl,fun _=>⟨hreplay,hledger⟩⟩
  exact spec_appendEach hopen calls

def LedgerSession (plan : DirectoryTransferProgressPlan sha256) (session : LedgerProg Unit) : Prop:=
 ∃ calls,session = ledgerSession sha256 plan.control plan.manifest calls

lemma kept_of_reach
 (hreplay:replayDirectoryTransferProgress plan records=.ok state)
 (h:Holds plan records disk) {after : LedgerDisk}
 (hreach:Reach faulty (LedgerSession plan) (·=disk) after) : Kept plan records after:=by
 refine hreach.invariant ?_ ?_
 · intro t ht
   rw [ht]
   exact .here ⟨state,hreplay⟩ h
 · intro session t ⟨calls,hcalls⟩ ⟨more,⟨later,hlater⟩,hholds⟩
   rw [hcalls]
   exact wp_mono (fun u hu=>hu.before) (fun _ _ _=>trivial)
    (spec_ledgerSession hlater hholds calls)

end Sessions

section Recovery
variable {sha256 : Bytes → DirectoryTransferProgressDigest}
 {plan : DirectoryTransferProgressPlan sha256}
 {records : List DirectoryTransferProgressRecord} {state : DirectoryTransferProgressState}
 {disk : LedgerDisk} {c : Bytes}

lemma run_confirmed {success : Bool} {status : DirectoryTransferProgressStoreStatus}
 {detail : Bytes} (h:success=true):
 (confirmed success status detail).run.run answer disk=(.ok (),disk):=by
 rw [h]
 rfl

lemma run_inspect (h:disk file=some c):
 (inspectDescriptor file).run.run answer disk=(.ok c.length,disk):=by
 have hissue:(issue (.inspectDescriptor file)).run.run answer disk=
   (.ok (some c.length),disk):=by
  change (Except.ok ((disk file).map List.length),disk)=_
  rw [h]
  rfl
 rw [inspectDescriptor,run_except_bind hissue]
 rfl

lemma run_verifyFile (h:disk .ledger=some c):
 (verifyFile c.length).run.run answer disk=(.ok (),disk):=by
 rw [verifyFile,run_except_bind (run_inspect h)]
 exact run_confirmed (decide_eq_true rfl)

lemma run_readBytes (h:disk .ledger=some c):
 (readBytes c.length).run.run answer disk=(.ok c,disk):=by
 have hissue:(issue (.readBytes c.length)).run.run answer disk=(.ok (some c),disk):=by
  change (Except.ok ((disk .ledger).map (List.take c.length)),disk)=_
  rw [h,Option.map_some,List.take_length]
 rw [readBytes,run_except_bind hissue]
 rfl

lemma run_openChild (file : LedgerFile):
 (openChild file).run.run answer disk=(.ok (disk file).isSome,disk):=by
 have hissue:(issue (.openChild file)).run.run answer disk=
   (.ok (if (disk file).isSome then .opened else .missing),disk) := rfl
 rw [openChild,run_except_bind hissue]
 cases (disk file).isSome with
 | false=>rfl
 | true=>rfl

lemma run_removeSafeFile:
 removeSafeFile.run.run answer disk=(.ok (),Function.update disk .temporary none):=by
 rw [removeSafeFile,run_except_bind (run_openChild .temporary)]
 cases hfile:disk .temporary with
 | none=>
  have hsame:Function.update disk .temporary none=disk:=by
   rw [←hfile,Function.update_eq_self]
  rw [hsame]
  rfl
 | some stale=>
  simp only [Option.isSome_some,if_true]
  rw [run_except_bind (run_inspect hfile)]
  rfl

lemma run_writeBytes (h:disk file=some c) (bytes : Bytes):
 (writeBytes file c.length bytes).run.run answer disk=
  (.ok (),Function.update disk file (some (c++bytes))):=by
 have hloop:(pwriteLoop file bytes.length c.length bytes).run.run answer disk=
   (.ok (),Function.update disk file (some (c++bytes))):=by
  cases bytes with
  | nil=>
   rw [List.append_nil,←h,Function.update_eq_self]
   rfl
  | cons byte rest=>
   have hwritten:written disk file c.length (byte::rest)=
     Function.update disk file (some (c++byte::rest)):=by
    rw [←written_end,←h,Function.update_eq_self]
   have hissue:(issue (.pwrite file c.length (byte::rest))).run.run answer disk=
     (.ok (byte::rest).length,written disk file c.length (byte::rest)) := rfl
   rw [List.length_cons,pwriteLoop,run_except_bind hissue,hwritten,
    run_except_bind (run_confirmed (by simp)),List.drop_length]
   · cases rest with
     | nil=>rfl
     | cons next rest=>rfl
   · exact nofun
 rw [writeBytes,run_except_bind hloop]
 rfl

lemma run_truncateFile (size : ℕ):
 (truncateFile size).run.run answer disk=(.ok (),truncated disk size) := rfl

lemma run_repairTail (h:disk .ledger=some (ledgerBytes plan records++tail)):
 (repairTail (ledgerBytes plan records++tail).length tail.length).run.run answer disk=
  (.ok (),Function.update disk .ledger (some (ledgerBytes plan records))):=by
 unfold repairTail
 by_cases hempty:tail.length≠0
 · have hsize:(ledgerBytes plan records++tail).length - tail.length=
     (ledgerBytes plan records).length:=by
    rw [List.length_append,Nat.add_sub_cancel]
   have htruncated:truncated disk (ledgerBytes plan records).length=
     Function.update disk .ledger (some (ledgerBytes plan records)):=by
    rw [truncated,h,Option.map_some,List.take_left]
   rw [if_pos hempty,run_except_bind (run_verifyFile h),hsize,
    run_except_bind (run_truncateFile _),htruncated]
   exact run_verifyFile (Function.update_self _ _ _)
 · have hnone:tail=[]:=List.eq_nil_of_length_eq_zero (by omega)
   rw [hnone,List.append_nil] at h
   rw [if_neg hempty,←h,Function.update_eq_self]
   rfl

lemma run_publishHeader {header : Bytes} (hledger:disk .ledger=none)
 (htemporary:disk .temporary=none):
 (publishHeader header).run.run answer disk=
  (.ok (),Function.update disk .ledger (some header)):=by
 have hcreate:(issue .createTemporary).run.run answer disk=
   (.ok true,Function.update disk .temporary (some [])):=by
  change (Except.ok (answer .createTemporary disk).1,(answer .createTemporary disk).2)=_
  simp only [answer,htemporary,Option.isSome_none,Bool.false_eq_true,if_false]
 have hwritten:(Function.update disk .temporary (some header) : LedgerDisk) .temporary=
   some header := Function.update_self _ _ _
 have hpublished:published (Function.update disk .temporary (some header))=
   Function.update disk .ledger (some header):=by
  funext file
  cases file with
  | ledger=>rfl
  | temporary=>exact htemporary.symm
 have hrename:renameNoReplace.run.run answer (Function.update disk .temporary (some header))=
   (.ok (),Function.update disk .ledger (some header)):=by
  have hissue:(issue .renameNoReplace).run.run answer
    (Function.update disk .temporary (some header))=
     (.ok .renamed,Function.update disk .ledger (some header)):=by
   rw [←hpublished]
   change (Except.ok (answer .renameNoReplace _).1,(answer .renameNoReplace _).2)=_
   have hmissing:(Function.update disk .temporary (some header) : LedgerDisk) .ledger=none:=hledger
   simp only [answer,hmissing,Option.isSome_none,Bool.false_eq_true,if_false]
  rw [renameNoReplace]
  exact run_except_bind hissue
 have hsync:(issue .fsyncParent).run.run answer (Function.update disk .ledger (some header))=
   (.ok true,Function.update disk .ledger (some header)) := rfl
 have hempty:(Function.update disk .temporary (some []) : LedgerDisk) .temporary=some []:=rfl
 have hwrite:=run_writeBytes hempty header
 rw [List.nil_append,Function.update_idem,List.length_nil] at hwrite
 rw [publishHeader,run_except_bind hcreate,run_except_bind (run_confirmed rfl),
  run_except_bind hwrite,run_except_bind (run_inspect hwritten),
  run_except_bind (run_confirmed (decide_eq_true rfl)),run_except_bind hrename,
  run_except_bind hsync,run_except_bind (run_confirmed rfl)]
 exact run_verifyFile (Function.update_self _ _ _)

/-- Both files after a session is open: no temporary one, and the complete records. -/
def settled (plan : DirectoryTransferProgressPlan sha256)
  (records : List DirectoryTransferProgressRecord) : LedgerDisk
 | .ledger=>some (ledgerBytes plan records)
 | .temporary=>none

lemma run_createLedger (hledger:disk .ledger=none):
 (createLedger sha256 plan).run.run answer disk=
  (.ok ⟨⟨plan,initializeDirectoryTransferProgress plan,false⟩,true,false⟩, settled plan []):=by
 have hencode:(checked ((encodeDirectoryTransferProgressHeader sha256 plan.header).mapError
   .thrown)).run.run answer (Function.update disk .temporary none)=
    (.ok (headerPayload plan.header),Function.update disk .temporary none):=by
  rw [encodeHeader_ok (plan_header_valid plan)]
  rfl
 have hsettled:Function.update (Function.update disk .temporary none) .ledger
   (some (headerPayload plan.header))=settled plan []:=by
  funext file
  cases file with
  | ledger=>exact congrArg some (List.append_nil _).symm
  | temporary=>rfl
 have hmissing:(Function.update disk .temporary none : LedgerDisk) .ledger=none:=hledger
 have hclean:(Function.update disk .temporary none : LedgerDisk) .temporary=none:=rfl
 rw [createLedger,run_except_bind run_removeSafeFile,run_except_bind hencode,
  run_except_bind (run_publishHeader hmissing hclean),hsettled]
 rfl

lemma run_recoverLedger (hreplay:replayDirectoryTransferProgress plan records=.ok state)
 (htail:tail.length<kDirectoryTransferProgressRecordBytes)
 (hledger:disk .ledger=some (ledgerBytes plan records++tail)):
 (recoverLedger sha256 plan.control plan.manifest).run.run answer disk=
  (.ok ⟨⟨plan,state,false⟩,false,decide (tail.length≠0)⟩,settled plan records):=by
 have hscan:(checked (scanLedger sha256 plan.control plan.manifest
   (ledgerBytes plan records++tail))).run.run answer disk=
    (.ok (plan,state,tail.length),disk):=by
  rw [scanLedger_eq hreplay htail]
  rfl
 have hbound:=(replay_eq_ok.mp hreplay).1
 have hrecords:=(planSound plan).records
 have hentries:=(planSound plan).manifest.entriesSize
 have hroots:=(planSound plan).manifest.rootsSize
 have hlarge:kDirectoryTransferProgressHeaderBytes≤(ledgerBytes plan records++tail).length:=by
  rw [List.length_append,length_ledgerBytes]
  omega
 have hsmall:(ledgerBytes plan records++tail).length≤kMaximumLedgerReadBytes:=by
  rw [List.length_append,length_ledgerBytes]
  unfold kMaximumLedgerReadBytes kMaximumTornTailBytes kMaximumDirectoryTransferProgressBytes
   kMaximumDirectoryTransferProgressRecords kDirectoryTransferProgressRecordBytes at *
  omega
 have hsettled:Function.update (Function.update disk .ledger
   (some (ledgerBytes plan records))) .temporary none=settled plan records:=by
  funext file
  cases file with
  | ledger=>rfl
  | temporary=>rfl
 rw [recoverLedger,run_except_bind (run_inspect hledger),
  run_except_bind (run_confirmed (decide_eq_true hlarge)),
  run_except_bind (run_confirmed (decide_eq_true hsmall)),
  run_except_bind (run_verifyFile hledger),run_except_bind (run_readBytes hledger),
  run_except_bind (run_verifyFile hledger),run_except_bind hscan,
  run_except_bind (run_repairTail hledger),run_except_bind run_removeSafeFile,hsettled]
 rfl

lemma run_openOrCreate : (openOrCreate sha256 plan.control plan.manifest).run.run answer disk=
  (if (disk .ledger).isSome then recoverLedger sha256 plan.control plan.manifest
   else createLedger sha256 plan).run.run answer disk:=by
 have hprepare:(checked (orFail .payloadMismatch ((prepareDirectoryTransferProgressPlan sha256
   plan.control plan.manifest).mapError thrownWhat))).run.run answer disk=(.ok plan,disk):=by
  rw [prepare_plan]
  rfl
 rw [openOrCreate,run_except_bind (run_openChild .ledger),run_except_bind hprepare]

/-- Where nothing fails the ledger opens, whatever a crash has left of it. -/
lemma opens_of_holds
 (hreplay:replayDirectoryTransferProgress plan records=.ok state)
 (h:Holds plan records disk):
 ∃ created repairedTail, (openOrCreate sha256 plan.control plan.manifest).run.run answer disk=
   (.ok ⟨⟨plan,state,false⟩,created,repairedTail⟩,settled plan records):=by
 rw [run_openOrCreate]
 obtain ⟨hledger,rfl⟩ | ⟨tail,htail,hledger⟩:=h
 · cases hreplay
   rw [hledger]
   exact ⟨_,_,run_createLedger hledger⟩
 · rw [hledger]
   exact ⟨_,_,run_recoverLedger hreplay htail hledger⟩

/-- Where nothing fails an accepted record is added at the end, and a refused one changes
  nothing. -/
lemma run_appendEvidence
 (hreplay:replayDirectoryTransferProgress plan records=.ok state)
 (hledger:disk .ledger=some (ledgerBytes plan records))
 (e : DirectoryTransferEvidence):
 let outcome:=advanceDirectoryTransferProgress plan e state {}
 (outcome.answer=.ok () → (appendEvidence ⟨plan,state,false⟩ e).run answer disk=
   (({ status:=.success,record:=outcome.record },⟨plan,outcome.state,false⟩),
    Function.update disk .ledger (some (ledgerBytes plan (records++[outcome.record])))) ∧
  replayDirectoryTransferProgress plan (records++[outcome.record])=.ok outcome.state) ∧
 ∀detail,outcome.answer=.error detail → (appendEvidence ⟨plan,state,false⟩ e).run answer disk=
   (({ status:=.invalidArgument,detail:=detail },⟨plan,state,false⟩),disk):=by
 obtain ⟨_,sealed,after,-,-,happly,hadvance⟩ | ⟨refusal,hadvance,-⟩:=advance_cases plan e state {}
 · have hvalid:=(applyRecord_iff.mp happly).2.1
   have hwrite:=run_writeBytes hledger (recordPayload sealed)
   rw [←ledgerBytes_append] at hwrite
   have hsize:(ledgerBytes plan records).length+(recordPayload sealed).length=
     (ledgerBytes plan (records++[sealed])).length:=by
    rw [ledgerBytes_append,List.length_append]
   have happend:(appendBytes (ledgerBytes plan records).length
     (recordPayload sealed)).run.run answer disk=(.ok (),Function.update disk .ledger
       (some (ledgerBytes plan (records++[sealed])))):=by
    rw [appendBytes,run_except_bind (run_verifyFile hledger),run_except_bind hwrite,hsize]
    exact run_verifyFile (Function.update_self _ _ _)
   rw [hadvance]
   refine ⟨fun _=>⟨?_,replay_append hreplay happly⟩,nofun⟩
   simp only [appendEvidence,Bool.false_eq_true,if_false,hadvance,encodeRecord_ok hvalid,
    size_of_replay hreplay,Prog.run_bind,happend]
   rfl
 · rw [hadvance]
   refine ⟨nofun,?_⟩
   intro detail hdetail
   cases hdetail
   simp only [appendEvidence,Bool.false_eq_true,if_false,hadvance]
   rfl

lemma settled_append (record : DirectoryTransferProgressRecord):
 Function.update (settled plan records) .ledger (some (ledgerBytes plan (records++[record])))=
  settled plan (records++[record]):=by
 funext file
 cases file with
 | ledger=>rfl
 | temporary=>rfl

/-- A ledger with complete records and a torn one opens with the state of the complete records,
  and the tail is gone. An accepted record is then added at its end. After any sequence of
  sessions, with faults and crashes anywhere in them, the complete records are still there, and
  the ledger opens with the state of these and of those that were completed since. -/
theorem ledger_survives (plan : DirectoryTransferProgressPlan sha256)
 (hreplay:replayDirectoryTransferProgress plan records=.ok state) {tail : Bytes}
 (htail:tail.length<kDirectoryTransferProgressRecordBytes)
 (hledger:disk .ledger=some (ledgerBytes plan records++tail)):
 (openOrCreate sha256 plan.control plan.manifest).run.run answer disk=
  (.ok ⟨⟨plan,state,false⟩,false,decide (tail.length≠0)⟩,settled plan records) ∧
 (∀evidence,
  let outcome:=advanceDirectoryTransferProgress plan evidence state {}
  let appended:=(appendEvidence ⟨plan,state,false⟩ evidence).run answer
   (settled plan records)
  (outcome.answer=.ok () → appended=(({ status:=.success,record:=outcome.record },
    ⟨plan,outcome.state,false⟩),settled plan (records++[outcome.record])) ∧
   replayDirectoryTransferProgress plan (records++[outcome.record])=.ok outcome.state) ∧
  ∀detail,outcome.answer=.error detail →
   appended=(({ status:=.invalidArgument,detail:=detail },⟨plan,state,false⟩),
    settled plan records)) ∧
 ∀after,Reach faulty (LedgerSession plan) (·=disk) after →
  ∃ more later,replayDirectoryTransferProgress plan (records++more)=.ok later ∧
   Holds plan (records++more) after ∧
   ∃ created repairedTail, (openOrCreate sha256 plan.control plan.manifest).run.run answer after=
     (.ok ⟨⟨plan,later,false⟩,created,repairedTail⟩,settled plan (records++more)):=by
 refine ⟨?_,?_,?_⟩
 · rw [run_openOrCreate,hledger]
   exact run_recoverLedger hreplay htail hledger
 · intro evidence outcome appended
   have hsettled:settled plan records .ledger=some (ledgerBytes plan records):=rfl
   obtain ⟨haccepted,hrefused⟩:=run_appendEvidence hreplay hsettled evidence
   refine ⟨?_,hrefused⟩
   intro hanswer
   obtain ⟨hrun,hnext⟩:=haccepted hanswer
   rw [settled_append] at hrun
   exact ⟨hrun,hnext⟩
 · intro after hreach
   obtain ⟨more,⟨later,hlater⟩,hholds⟩:=kept_of_reach hreplay (.inr ⟨tail,htail,hledger⟩) hreach
   exact ⟨more,later,hlater,hholds,opens_of_holds hlater hholds⟩

end Recovery

lemma sample_replay : ∃ state,
 replayDirectoryTransferProgress samplePlan (sampleRecords.take 2)=.ok state:=by
 have hreplay:(replayDirectoryTransferProgress samplePlan
   (sampleRecords.take 2)).toOption.isSome=true:=by
  decide +kernel
 cases hresult:replayDirectoryTransferProgress samplePlan (sampleRecords.take 2) with
 | ok state=>exact ⟨state,rfl⟩
 | error detail=>
  rw [hresult] at hreplay
  cases hreplay

/-- Two records and the first three bytes of one more. -/
def tornDisk : LedgerDisk
 | .ledger=>some (ledgerBytes samplePlan (sampleRecords.take 2)++[68,84,82])
 | .temporary=>none

theorem ledger_survives_torn : ∃ state,
 (openOrCreate DirectoryManifestRoundTrip.onesDigest samplePlan.control
  samplePlan.manifest).run.run answer tornDisk=(.ok ⟨⟨samplePlan,state,false⟩,false,true⟩,
    settled samplePlan (sampleRecords.take 2)):=by
 obtain ⟨state,hreplay⟩:=sample_replay
 have htail:([68,84,82] : Bytes).length<kDirectoryTransferProgressRecordBytes:=by decide
 exact ⟨state,(ledger_survives samplePlan hreplay htail rfl).1⟩

end VoVe.DirectoryTransferLedger
