import VoVe.DirectoryTransferProgressStore

set_option autoImplicit false

namespace VoVe.DirectoryTransferLedgerDisk
open ByteCodec EffectProgram DirectoryTransferProgressStore

abbrev LedgerDisk := LedgerFile → Option Bytes

def overwrite (content : Bytes) (offset : ℕ) (bytes : Bytes) : Bytes:=
 content.take offset++(List.replicate (offset - content.length) 0 ++
  (bytes++content.drop (offset+bytes.length)))

variable (disk : LedgerDisk)

def written (file : LedgerFile) (offset : ℕ) (bytes : Bytes) : LedgerDisk:=
 Function.update disk file ((disk file).map fun content=>overwrite content offset bytes)

def truncated (size : ℕ) : LedgerDisk:=
 Function.update disk .ledger ((disk .ledger).map (List.take size))

def published : LedgerDisk:=
 Function.update (Function.update disk .ledger (disk .temporary)) .temporary none

/-- The answers of a file system on which nothing fails. -/
def answer : (op : LedgerOp) → LedgerDisk → LedgerReply op × LedgerDisk
 | .openChild file, disk=>(if (disk file).isSome then .opened else .missing,disk)
 | .inspectDescriptor file, disk=>((disk file).map List.length,disk)
 | .readBytes size, disk=>((disk .ledger).map (List.take size),disk)
 | .pwrite file offset bytes, disk=>(bytes.length,written disk file offset bytes)
 | .fdatasync _, disk=>(true,disk)
 | .ftruncate size, disk=>(true,truncated disk size)
 | .createTemporary, disk=>
  if (disk .temporary).isSome then (false,disk)
  else (true,Function.update disk .temporary (some []))
 | .renameNoReplace, disk=>
  if (disk .ledger).isSome then (.destinationExists,disk) else (.renamed,published disk)
 | .unlinkTemporary, disk=>(true,Function.update disk .temporary none)
 | .fsyncParent, disk=>(true,disk)

def TakesLess : (op : LedgerOp) → LedgerDisk → LedgerReply op → LedgerDisk → Prop
 | .pwrite file offset bytes, before, taken, after=>
  0 < taken ∧ taken ≤ bytes.length ∧ after = written before file offset (bytes.take taken)
 | _, _, _, _=>False

/-- What a call that failed or was cut may leave: a write left some of its bytes, the other
  calls took effect or not. -/
def Torn : LedgerOp → LedgerDisk → LedgerDisk → Prop
 | .pwrite file offset bytes, before, after=>
  ∃ part,part <+: bytes ∧ after = written before file offset part
 | .ftruncate size, before, after=>after = before ∨ after = truncated before size
 | .createTemporary, before, after=>
  after = before ∨ (before .temporary = none ∧ after = Function.update before .temporary (some []))
 | .renameNoReplace, before, after=>
  after = before ∨ (before .ledger = none ∧ after = published before)
 | .unlinkTemporary, before, after=>
  after = before ∨ after = Function.update before .temporary none
 | _, before, after=>after = before

def Reports : (op : LedgerOp) → LedgerReply op → Prop
 | .openChild _, reply=>reply = .failed
 | .inspectDescriptor _, reply=>reply = none
 | .readBytes _, reply=>reply = none
 | .pwrite .., taken=>taken = 0
 | .fdatasync _, success=>success = false
 | .ftruncate _, success=>success = false
 | .createTemporary, success=>success = false
 | .renameNoReplace, reply=>reply≠.renamed
 | .unlinkTemporary, success=>success = false
 | .fsyncParent, success=>success = false

/-- Every call may be answered as it should, write less or report an error, and every call
  may be cut by a crash. -/
def faulty : World LedgerOp LedgerReply LedgerDisk where
 answers op before reply after := (reply,after) = answer op before ∨
  TakesLess op before reply after ∨ (Reports op reply ∧ Torn op before after)
 cut:=Torn

lemma overwrite_end (c bytes : Bytes) : overwrite c c.length bytes=c++bytes:=by
 simp [overwrite]

variable {post : Unit → LedgerDisk → Prop} {f file : LedgerFile} {size : ℕ}
 {base payload header : Bytes}

section Rules
variable {keeps : LedgerDisk → Prop} {d disk : LedgerDisk}

/-- A client of the store over the files as they may fail. -/
abbrev Spec {α : Type} (keeps : LedgerDisk → Prop) (p : LedgerM α) (disk : LedgerDisk)
  (post : α → LedgerDisk → Prop) : Prop:=
 Succeeds faulty keeps p disk post

lemma spec_confirmed {success : Bool} {status : DirectoryTransferProgressStoreStatus}
 {detail : Bytes} (hkeeps:keeps d) (h:success=true → post () d):
 Spec keeps (confirmed success status detail) d post:=by
 unfold confirmed
 cases success with
 | true=>exact succeeds_pure hkeeps (h rfl)
 | false=>exact succeeds_throw hkeeps

lemma spec_checked {α : Type} {outcome : Except StoreFailure α} {post : α → LedgerDisk → Prop}
 (hkeeps:keeps d) (h:∀a,outcome=.ok a → post a d):
 Spec keeps (checked outcome) d post:=by
 cases outcome with
 | ok a=>exact succeeds_pure hkeeps (h a rfl)
 | error e=>exact succeeds_throw hkeeps

lemma spec_reads {op : LedgerOp} {post : LedgerReply op → LedgerDisk → Prop}
 (hstill:(answer op d).2=d) (htorn:∀t,Torn op d t → t=d)
 (hless:∀r t,¬TakesLess op d r t) (hkeeps:keeps d)
 (hanswer:post (answer op d).1 d) (hreport:∀r,Reports op r → post r d):
 Spec keeps (issue op) d post:=by
 refine succeeds_issue hkeeps ?_ ?_
 · intro t ht
   rw [htorn t ht]
   exact hkeeps
 · intro r t ht
   obtain hsame | htakes | ⟨hfailed,ht⟩:=ht
   · rw [Prod.ext_iff] at hsame
     obtain ⟨hreply,hafter⟩:=hsame
     rw [show r=_ from hreply,show t=_ from hafter,hstill]
     exact ⟨hkeeps,hanswer⟩
   · exact absurd htakes (hless r t)
   · rw [htorn t ht]
     exact ⟨hkeeps,hreport r hfailed⟩

lemma spec_openChild {post : Bool → LedgerDisk → Prop} (hkeeps:keeps d)
 (h:post (d f).isSome d) : Spec keeps (openChild f) d post:=by
 refine succeeds_bind (spec_reads rfl (fun _ ht=>ht) (fun _ _ ht=>ht) hkeeps ?_ ?_)
 · cases hfile:(d f).isSome with
   | true=>
    rw [hfile] at h
    simp only [answer,hfile,if_true]
    exact succeeds_pure hkeeps h
   | false=>
    rw [hfile] at h
    simp only [answer,hfile,Bool.false_eq_true,if_false]
    exact succeeds_pure hkeeps h
 · intro r hreport
   rw [show r=.failed from hreport]
   exact succeeds_throw hkeeps

lemma spec_inspect {post : ℕ → LedgerDisk → Prop} (hkeeps:keeps d)
 (h:∀c,d f=some c → post c.length d):
 Spec keeps (inspectDescriptor f) d post:=by
 refine succeeds_bind (spec_reads rfl (fun _ ht=>ht) (fun _ _ ht=>ht) hkeeps ?_ ?_)
 · cases hfile:d f with
   | none=>
    simp only [answer,hfile]
    exact succeeds_throw hkeeps
   | some c=>
    simp only [answer,hfile]
    exact succeeds_pure hkeeps (h c hfile)
 · intro r hreport
   rw [show r=none from hreport]
   exact succeeds_throw hkeeps

lemma spec_verifyFile {expectedSize : ℕ} (hkeeps:keeps d)
 (h:∀c,d .ledger=some c → c.length=expectedSize → post () d):
 Spec keeps (verifyFile expectedSize) d post:=by
 refine succeeds_bind (spec_inspect hkeeps ?_)
 intro c hcontent
 exact spec_confirmed hkeeps fun hsize=>h c hcontent (of_decide_eq_true hsize)

lemma spec_readBytes {post : Bytes → LedgerDisk → Prop} (hkeeps:keeps d)
 (h:∀c,d .ledger=some c → post (c.take size) d):
 Spec keeps (readBytes size) d post:=by
 refine succeeds_bind (spec_reads rfl (fun _ ht=>ht) (fun _ _ ht=>ht) hkeeps ?_ ?_)
 · cases hfile:d .ledger with
   | none=>
    simp only [answer,hfile]
    exact succeeds_throw hkeeps
   | some c=>
    simp only [answer,hfile]
    exact succeeds_pure hkeeps (h c hfile)
 · intro r hreport
   rw [show r=none from hreport]
   exact succeeds_throw hkeeps

lemma spec_fdatasync {post : Bool → LedgerDisk → Prop} (hkeeps:keeps d)
 (h:∀synced,post synced d) : Spec keeps (issue (.fdatasync f)) d post:=
 spec_reads rfl (fun _ ht=>ht) (fun _ _ ht=>ht) hkeeps (h _) fun synced _=>h synced

lemma spec_fsyncParent {post : Bool → LedgerDisk → Prop} (hkeeps:keeps d)
 (h:∀synced,post synced d) : Spec keeps (issue .fsyncParent) d post:=
 spec_reads rfl (fun _ ht=>ht) (fun _ _ ht=>ht) hkeeps (h _) fun synced _=>h synced

lemma spec_pwrite {offset : ℕ} {bytes : Bytes} {post : ℕ → LedgerDisk → Prop}
 (hkeeps:keeps d) (htorn:∀part,part <+: bytes → keeps (written d f offset part))
 (hfailed:∀t,keeps t → post 0 t) (htaken:∀taken,taken≤bytes.length →
  post taken (written d f offset (bytes.take taken))):
 Spec keeps (issue (.pwrite f offset bytes)) d post:=by
 refine succeeds_issue hkeeps ?_ ?_
 · intro t ⟨part,hpart,ht⟩
   rw [ht]
   exact htorn part hpart
 · intro r t ht
   obtain hsame | ⟨-,hle,hafter⟩ | ⟨hfail,part,hpart,hafter⟩:=ht
   · have hreply:r=bytes.length:=congrArg Prod.fst hsame
     have hafter:t=written d f offset bytes:=congrArg Prod.snd hsame
     have hall:=htaken bytes.length le_rfl
     rw [List.take_length] at hall
     rw [hreply,hafter]
     exact ⟨htorn bytes (List.prefix_refl bytes),hall⟩
   · rw [hafter]
     exact ⟨htorn _ (List.take_prefix _ _),htaken r hle⟩
   · have ht:=htorn part hpart
     rw [←hafter] at ht
     rw [show r=0 from hfail]
     exact ⟨ht,hfailed t ht⟩

lemma written_end (c bytes : Bytes) : written (Function.update d f (some c)) f c.length bytes=
  Function.update d f (some (c++bytes)):=by
 simp [written,overwrite_end]

lemma spec_pwriteLoop
 (hkeeps:∀part,part <+: payload → keeps (Function.update d f (some (base++part))))
 (h:post () (Function.update d f (some (base++payload)))) (turns : ℕ)
 (before rest : Bytes) (hsplit:before++rest=payload):
 Spec keeps (pwriteLoop f turns (base++before).length rest)
  (Function.update d f (some (base++before))) post:=by
 have hnow:keeps (Function.update d f (some (base++before))):=hkeeps before ⟨rest,hsplit⟩
 induction turns generalizing before rest with
 | zero=>
  cases rest with
  | nil=>
   rw [List.append_nil] at hsplit
   rw [hsplit] at hnow ⊢
   exact succeeds_pure hnow h
  | cons byte rest=>exact succeeds_throw hnow
 | succ turns ih=>
  cases rest with
  | nil=>
   rw [List.append_nil] at hsplit
   rw [hsplit] at hnow ⊢
   exact succeeds_pure hnow h
  | cons byte rest=>
   have hpart:∀part,part <+: byte::rest →
     keeps (Function.update d f (some (base++(before++part)))):=by
    intro part ⟨more,hmore⟩
    apply hkeeps
    refine ⟨more,?_⟩
    rw [List.append_assoc,hmore,hsplit]
   refine succeeds_bind (spec_pwrite hnow ?_ ?_ ?_)
   · intro part hprefix
     rw [written_end,List.append_assoc]
     exact hpart part hprefix
   · intro t ht
     exact succeeds_bind (spec_confirmed ht fun hpositive=>by simp at hpositive)
   · intro taken hle
     have htaken:(base++before).length+taken=
       (base++(before++(byte::rest).take taken)).length:=by
      rw [List.length_append,List.length_append,List.length_append,List.length_take]
      omega
     have hsplit':(before++(byte::rest).take taken)++(byte::rest).drop taken=payload:=by
      rw [List.append_assoc,List.take_append_drop,hsplit]
     have hafter:=hpart _ (List.take_prefix taken (byte::rest))
     rw [written_end,List.append_assoc]
     refine succeeds_bind (spec_confirmed hafter ?_)
     intro _
     rw [htaken]
     exact ih _ _ hsplit' hafter

lemma spec_writeBytes (hfile:d f=some base)
 (hkeeps:∀part,part <+: payload → keeps (Function.update d f (some (base++part))))
 (h:post () (Function.update d f (some (base++payload)))):
 Spec keeps (writeBytes f base.length payload) d post:=by
 have hloop:Spec keeps (pwriteLoop f payload.length (base++[]).length payload)
   (Function.update d f (some (base++[])))
   (fun _ t=>t=Function.update d f (some (base++payload))):=
  spec_pwriteLoop hkeeps rfl payload.length [] payload rfl
 rw [List.append_nil,←hfile,Function.update_eq_self] at hloop
 refine succeeds_bind (succeeds_mono hloop ?_)
 intro _ t hcrash ht
 rw [ht] at hcrash ⊢
 exact succeeds_bind (spec_fdatasync hcrash fun _=>spec_confirmed hcrash fun _=>h)

lemma spec_truncateFile (hkeeps:keeps d) (htruncated:keeps (truncated d size))
 (h:post () (truncated d size)) : Spec keeps (truncateFile size) d post:=by
 have hcut:∀t,Torn (.ftruncate size) d t → keeps t:=by
  intro t ht
  obtain hsame | hafter:=ht
  · rw [hsame]
    exact hkeeps
  · rw [hafter]
    exact htruncated
 refine succeeds_bind (succeeds_issue hkeeps hcut ?_)
 intro r t ht
 obtain hsame | hless | ⟨hfailed,ht⟩:=ht
 · have hafter:t=truncated d size:=congrArg Prod.snd hsame
   rw [hafter]
   refine ⟨htruncated,succeeds_bind (spec_confirmed htruncated fun _=>?_)⟩
   exact succeeds_bind (spec_fdatasync htruncated fun _=>spec_confirmed htruncated fun _=>h)
 · exact hless.elim
 · rw [show r=false from hfailed]
   exact ⟨hcut t ht,succeeds_bind (spec_confirmed (hcut t ht) nofun)⟩

lemma spec_removeSafeFile (hkeeps:∀t : LedgerDisk,t .ledger=d .ledger → keeps t)
 (h:∀t : LedgerDisk,t .ledger=d .ledger → post () t):
 Spec keeps removeSafeFile d post:=by
 have hnow:=hkeeps d rfl
 have hcut:∀t,Torn .unlinkTemporary d t → t .ledger=d .ledger:=by
  intro t ht
  obtain hsame | hafter:=ht
  · rw [hsame]
  · rw [hafter]
    rfl
 refine succeeds_bind (spec_openChild hnow ?_)
 cases hfile:(d .temporary).isSome with
 | false=>exact succeeds_pure hnow (h d rfl)
 | true=>
  refine succeeds_bind (spec_inspect hnow fun _ _=>?_)
  refine succeeds_bind (succeeds_issue hnow (fun t ht=>hkeeps t (hcut t ht)) ?_)
  intro r t ht
  have hledger:t .ledger=d .ledger:=by
   obtain hsame | hless | ⟨-,ht⟩:=ht
   · have hafter:t=Function.update d .temporary none:=congrArg Prod.snd hsame
     rw [hafter]
     rfl
   · exact hless.elim
   · exact hcut t ht
  have ht:=hkeeps t hledger
  refine ⟨ht,succeeds_bind (spec_confirmed ht fun _=>?_)⟩
  exact succeeds_bind (spec_fsyncParent ht fun _=>spec_confirmed ht fun _=>h t hledger)

lemma spec_renameNoReplace (hledger:d .ledger=none)
 (htemporary:d .temporary=some header) (hkeeps:keeps d)
 (hpublished:∀t : LedgerDisk,t .ledger=some header → keeps t)
 (h:∀t : LedgerDisk,t .ledger=some header → post () t):
 Spec keeps renameNoReplace d post:=by
 have hafter:(published d) .ledger=some header:=htemporary
 have hcut:∀t,Torn .renameNoReplace d t → keeps t:=by
  intro t ht
  obtain hsame | ⟨-,hrenamed⟩:=ht
  · rw [hsame]
    exact hkeeps
  · rw [hrenamed]
    exact hpublished _ hafter
 refine succeeds_bind (succeeds_issue hkeeps hcut ?_)
 intro r t ht
 obtain hsame | hless | ⟨hfailed,ht⟩:=ht
 · simp only [answer,hledger,Option.isSome_none,Bool.false_eq_true,if_false,
    Prod.mk.injEq] at hsame
   rw [hsame.1,hsame.2]
   exact ⟨hpublished _ hafter,succeeds_pure (hpublished _ hafter) (h _ hafter)⟩
 · exact hless.elim
 · have ht:=hcut t ht
   refine ⟨ht,?_⟩
   cases r with
   | renamed=>exact absurd rfl hfailed
   | destinationExists=>exact succeeds_throw ht
   | unsupported=>exact succeeds_throw ht
   | failed=>exact succeeds_throw ht

lemma spec_publishHeader (hledger:d .ledger=none)
 (hmissing:∀t : LedgerDisk,t .ledger=none → keeps t)
 (hpublished:∀t : LedgerDisk,t .ledger=some header → keeps t)
 (h:∀t : LedgerDisk,t .ledger=some header → post () t):
 Spec keeps (publishHeader header) d post:=by
 have hcut:∀t,Torn .createTemporary d t → t .ledger=none:=by
  intro t ht
  obtain hsame | ⟨-,hcreated⟩:=ht
  · rw [hsame]
    exact hledger
  · rw [hcreated]
    exact hledger
 refine succeeds_bind (succeeds_issue (hmissing d hledger)
  (fun t ht=>hmissing t (hcut t ht)) ?_)
 intro created t ht
 obtain hsame | hless | ⟨hfailed,ht⟩:=ht
 · cases hstale:(d .temporary).isSome with
   | true=>
    simp only [answer,hstale,if_true,Prod.mk.injEq] at hsame
    rw [hsame.1,hsame.2]
    exact ⟨hmissing d hledger, succeeds_bind (spec_confirmed (hmissing d hledger) nofun)⟩
   | false=>
    simp only [answer,hstale,Bool.false_eq_true,if_false,Prod.mk.injEq] at hsame
    rw [hsame.1,hsame.2]
    have hempty:(Function.update d .temporary (some []) : LedgerDisk) .ledger=none:=hledger
    refine ⟨hmissing _ hempty,succeeds_bind (spec_confirmed (hmissing _ hempty) fun _=>?_)⟩
    have hbase:(Function.update d .temporary (some []) : LedgerDisk) .temporary=some []:=rfl
    refine succeeds_bind (spec_writeBytes hbase (fun part _=>hmissing _ hledger) ?_)
    rw [Function.update_idem,List.nil_append]
    have hwritten:(Function.update d .temporary (some header) : LedgerDisk) .ledger=none:=hledger
    refine succeeds_bind (spec_inspect (hmissing _ hwritten) fun _ _=>?_)
    refine succeeds_bind (spec_confirmed (hmissing _ hwritten) fun _=>?_)
    refine succeeds_bind (spec_renameNoReplace hwritten rfl (hmissing _ hwritten) hpublished ?_)
    intro t ht
    have hkeeps:=hpublished t ht
    refine succeeds_bind (spec_fsyncParent hkeeps fun _=>?_)
    refine succeeds_bind (spec_confirmed hkeeps fun _=>?_)
    exact spec_verifyFile hkeeps fun _ _ _=>h t ht
 · exact hless.elim
 · have ht:=hmissing t (hcut t ht)
   rw [show created=false from hfailed]
   exact ⟨ht,succeeds_bind (spec_confirmed ht nofun)⟩

end Rules

end VoVe.DirectoryTransferLedgerDisk
