import VoVe.JournalRecord
import VoVe.TransferRecordSteps
import VoVe.TransferRoundTrip

set_option autoImplicit false

namespace VoVe.TransferContentRule
open ByteCodec EffectProgram JournalDisk
open JournalAtomicity CurrentOperationJournal FileOperation OperationWorld
open TransferTransaction TransferTransactionCodec TransferRoundTrip FileTransferProtocol
open FileTransferCoordinator TransferShape TransferWorld
open TransferRecords TransferRecordSteps
open OperationRequest (RenameRequest DeleteRequest)
open FileTransferClient (FileTransferAuditCommitOutcome)
open JournalRecord (Recorded Kept written_empty)
open TransferRunRule (Engaged engaged_of_active)

def Resting (t : FileTransferTransaction) : Prop := t.activeStep = .none

section Records
variable (prepared : FileTransferTransaction) (start : Files) (s : TransferState)
variable (t : FileTransferTransaction)

/-- The step that a record has under way may have happened or not. -/
def Describes : Prop := Accounts prepared start t t.activeStep s.files s.approved

def RecordedIn : Prop:=
 Recorded .fileTransfer encodeFileTransferTransaction Resting (Describes prepared start s)
  s.journal t

/-- Before the first record and after the last one the transfer is still accounted for. -/
def Accounted : Prop := ∃ t,TransferSound t ∧ Describes prepared start s t

def KeptIn : Prop:=
 Kept .fileTransfer encodeFileTransferTransaction Resting (Describes prepared start s)
  (Accounted prepared start s) s.journal

/-- The record at hand is the one that the journal shows. -/
structure Holds (t : FileTransferTransaction) (s : TransferState) : Prop where
 recorded : RecordedIn prepared start s t
 describes : Describes prepared start s t

/-- A step may begin: nothing is in doubt about the files. -/
structure Ready (t : FileTransferTransaction) (s : TransferState) : Prop where
 kept : KeptIn prepared start s
 accounts : Accounts prepared start t .none s.files s.approved

end Records

section States
variable {prepared : FileTransferTransaction} {start : Files} {s s' : TransferState}
 {t t' : FileTransferTransaction}

lemma sound_of_holds {bytes : Bytes}
 (h:JournalRecord.Holds .fileTransfer encodeFileTransferTransaction bytes t):
 TransferSound t:=by
 obtain ⟨p,hencoded,-⟩:=h
 exact (transferValid_iff t).mp ((encodeFileTransferTransaction_iff p).mp hencoded).1

lemma Holds.sound (h:Holds prepared start t s) : TransferSound t:=by
 obtain ⟨bytes,hholds,-⟩:=h.recorded
 exact sound_of_holds hholds

lemma Holds.kept (h:Holds prepared start t s) : KeptIn prepared start s:=
 .recorded t h.recorded h.describes

lemma Holds.ready (h:Holds prepared start t s) (hresting:Resting t):
 Ready prepared start t s:=by
 refine ⟨h.kept,?_⟩
 have hdescribes:=h.describes
 rw [Describes,hresting] at hdescribes
 exact hdescribes

lemma KeptIn.accounted (h:KeptIn prepared start s) : Accounted prepared start s:=by
 cases h with
 | recorded t hrecorded hdescribes=>
  have hholds:Holds prepared start t s:=⟨hrecorded,hdescribes⟩
  exact ⟨t,hholds.sound,hdescribes⟩
 | empty _ hnothing=>exact hnothing

lemma Holds.happened (h:Holds prepared start t s) (hactive:¬Resting t)
 (hsame:FilesOnly s s')
 (haccounts:Accounts prepared start t t.activeStep s'.files s'.approved):
 Holds prepared start t s':=by
 refine ⟨?_,haccounts⟩
 rw [RecordedIn,hsame.journal]
 exact h.recorded.active hactive

lemma Holds.approve (h:Holds prepared start t s)
 {more : List (Bytes × Bytes)} (hmore:∀given∈s.approved,given∈more):
 Holds prepared start t { s with approved:=more }:=
 ⟨h.recorded.mono fun _ hu=>Accounts.approve hu hmore,h.describes.approve hmore⟩

lemma KeptIn.writeLeaves (h:KeptIn prepared start s) {p : Bytes}
 (hencoded:encodeFileTransferTransaction t=.ok p)
 (hsize:p.length≤kMaximumCurrentOperationPayloadBytes)
 (hnext:Describes prepared start s t) {journal : Generations}
 (hafter:WriteLeaves (encode .fileTransfer p) s.journal journal):
 KeptIn prepared start { s with journal:=journal }:=by
 have hholds:JournalRecord.Holds .fileTransfer encodeFileTransferTransaction
   (encode .fileTransfer p) t := ⟨p,hencoded,hsize,rfl⟩
 cases h with
 | recorded u hrecorded hdescribes=>
  exact hrecorded.writeLeaves hdescribes hholds hnext hafter
 | empty hjournal hnothing=>
  rw [hjournal] at hafter
  cases hafter with
  | unchanged=>exact .empty rfl hnothing
  | rotated=>exact .empty rfl hnothing
  | written=>exact .recorded t (written_empty hholds) hnext

lemma KeptIn.written (h:KeptIn prepared start s) {p : Bytes}
 (hencoded:encodeFileTransferTransaction t=.ok p)
 (hsize:p.length≤kMaximumCurrentOperationPayloadBytes)
 (hnext:Describes prepared start s t):
 Holds prepared start t
  { s with journal:=written s.journal (encode .fileTransfer p) }:=by
 have hholds:JournalRecord.Holds .fileTransfer encodeFileTransferTransaction
   (encode .fileTransfer p) t := ⟨p,hencoded,hsize,rfl⟩
 refine ⟨?_,hnext⟩
 cases h with
 | recorded u hrecorded hdescribes=>exact hrecorded.written hdescribes hholds
 | empty hjournal _=>
  rw [RecordedIn,hjournal]
  exact written_empty hholds

lemma sound_of_encoded {p : Bytes}
 (h:encodeFileTransferTransaction t=.ok p) : TransferSound t:=
 (transferValid_iff t).mp ((encodeFileTransferTransaction_iff p).mp h).1

end States

section Operations
variable {prepared : FileTransferTransaction} {start : Files} {s : TransferState}
 {t next : FileTransferTransaction}

/-- The rule of a record: the next one has to account for the files as well, and
  may take for granted that it is valid. -/
lemma wp_persist (h:KeptIn prepared start s)
 (hnext:TransferSound next → Describes prepared start s next)
 {post : Except Bytes Unit → TransferState → Prop}
 (hok:∀s',Holds prepared start next s' → JournalOnly s s' → post (.ok ()) s')
 (herror:∀detail s',KeptIn prepared start s' → JournalOnly s s' → post (.error detail) s'):
 wp transferWorld (KeptIn prepared start) post (persist next) s:=by
 have hleaves:∀ {p : Bytes} {journal : Generations}, encodeFileTransferTransaction next=.ok p →
   p.length≤kMaximumCurrentOperationPayloadBytes →
   WriteLeaves (encode .fileTransfer p) s.journal journal →
   KeptIn prepared start { s with journal:=journal }:=
  fun hencoded hsize hafter =>
   h.writeLeaves hencoded hsize (hnext (sound_of_encoded hencoded)) hafter
 refine ⟨h,?_,?_⟩
 · rintro ⟨journal,files,approved⟩ ⟨⟨rfl,rfl⟩,hcut⟩
   dsimp only at hcut
   cases hcut with
   | unchanged=>exact h
   | torn p after hencoded hsize hafter=>exact hleaves hencoded hsize hafter
 · rintro y ⟨journal,files,approved⟩ ⟨⟨rfl,rfl⟩,hpersists⟩
   dsimp only at hpersists
   cases hpersists with
   | threw thrown detail _=>exact ⟨h,herror detail _ h ⟨rfl,rfl⟩⟩
   | tooLarge p detail _ _=>exact ⟨h,herror detail _ h ⟨rfl,rfl⟩⟩
   | failed p detail after hencoded hsize hafter=>
    have hkept:=hleaves hencoded hsize hafter
    exact ⟨hkept,herror detail _ hkept ⟨rfl,rfl⟩⟩
   | stored p hencoded hsize=>
    have hholds:=h.written hencoded hsize (hnext (sound_of_encoded hencoded))
    exact ⟨hholds.kept,hok _ hholds ⟨rfl,rfl⟩⟩

lemma wp_persistOver (h:Holds prepared start t s)
 (hnext:TransferSound next → Describes prepared start s next)
 {post : Except Bytes Unit → TransferState → Prop}
 (hok:∀s',Holds prepared start next s' → JournalOnly s s' → post (.ok ()) s')
 (herror:∀detail s',Holds prepared start t s' ∨ Holds prepared start next s' →
  JournalOnly s s' → post (.error detail) s'):
 wp transferWorld (KeptIn prepared start) post (persist next) s:=by
 have hleaves:∀ {p : Bytes} {journal : Generations}, encodeFileTransferTransaction next=.ok p →
   p.length≤kMaximumCurrentOperationPayloadBytes →
   WriteLeaves (encode .fileTransfer p) s.journal journal →
   Holds prepared start t { s with journal:=journal } ∨
    Holds prepared start next { s with journal:=journal }:=by
  intro p journal hencoded hsize hafter
  cases hafter with
  | unchanged=>exact .inl h
  | rotated=>exact .inl ⟨h.recorded.rotated,h.describes⟩
  | written=>
   exact .inr (h.kept.written hencoded hsize (hnext (sound_of_encoded hencoded)))
 have hkept:∀ {s' : TransferState},
   Holds prepared start t s' ∨ Holds prepared start next s' → KeptIn prepared start s':=by
  intro s' hshown
  obtain hold | hnew:=hshown
  · exact hold.kept
  · exact hnew.kept
 refine ⟨h.kept,?_,?_⟩
 · rintro ⟨journal,files,approved⟩ ⟨⟨rfl,rfl⟩,hcut⟩
   dsimp only at hcut
   cases hcut with
   | unchanged=>exact h.kept
   | torn p after hencoded hsize hafter=>exact hkept (hleaves hencoded hsize hafter)
 · rintro y ⟨journal,files,approved⟩ ⟨⟨rfl,rfl⟩,hpersists⟩
   dsimp only at hpersists
   cases hpersists with
   | threw thrown detail _=>exact ⟨h.kept,herror detail _ (.inl h) ⟨rfl,rfl⟩⟩
   | tooLarge p detail _ _=>exact ⟨h.kept,herror detail _ (.inl h) ⟨rfl,rfl⟩⟩
   | failed p detail after hencoded hsize hafter=>
    have hshown:=hleaves hencoded hsize hafter
    exact ⟨hkept hshown,herror detail _ hshown ⟨rfl,rfl⟩⟩
   | stored p hencoded hsize=>
    have hholds:=h.kept.written hencoded hsize (hnext (sound_of_encoded hencoded))
    exact ⟨hholds.kept,hok _ hholds ⟨rfl,rfl⟩⟩

lemma wp_ask {o : TransferOp} (h:KeptIn prepared start s)
 (hanswers:∀y s',transferWorld.answers o s y s' → s'=s)
 (hcut:∀s',transferWorld.cut o s s' → s'=s)
 {post : TransferReply o → TransferState → Prop}
 (hpost:∀y,transferWorld.answers o s y s → post y s):
 wp transferWorld (KeptIn prepared start) post (Prog.issue o) s:=by
 refine ⟨h,fun s' htorn=>hcut s' htorn ▸ h,fun y s' hanswer=>?_⟩
 obtain rfl:=hanswers y s' hanswer
 exact ⟨h,hpost y hanswer⟩

section
variable (h:KeptIn prepared start s)
include h

lemma wp_stopRequested {post : Bool → TransferState → Prop}
 (hpost:∀stopped,post stopped s):
 wp transferWorld (KeptIn prepared start) post stopRequested s:=
 wp_ask (o := .stopRequested) h (fun _ _ hsame=>hsame) (fun _ hsame=>hsame) fun y _=>hpost y

lemma wp_randomDevice
 {post : RequestToken → TransferState → Prop} (hpost:∀token,post token s):
 wp transferWorld (KeptIn prepared start) post randomDevice s:=
 wp_ask (o := .randomDevice) h (fun _ _ hsame=>hsame) (fun _ hsame=>hsame) fun y _=>hpost y

lemma wp_acknowledgeAudit {r : FileTransferStreamRequest}
 {outcome : FileTransferAuditCommitOutcome}
 {post : FileTransferStreamResult → TransferState → Prop} (hpost:∀result,post result s):
 wp transferWorld (KeptIn prepared start) post (acknowledgeAudit r outcome) s:=
 wp_ask (o := .acknowledgeAudit r outcome) h (fun _ _ hsame=>hsame)
  (fun _ hsame=>hsame) fun y _=>hpost y

lemma wp_submitAudit {r : FileTransferStreamRequest}
 {post : AuditAnswer → TransferState → Prop} (hrejected:post .rejected s)
 (hfinished:∀result,post (.finished result) s)
 (haudited:∀result,Shows s.files r.source (identityOf result.sourceSnapshot) →
  post (.audited result) s):
 wp transferWorld (KeptIn prepared start) post (submitAudit r) s:=by
 refine wp_ask (o := .submitAudit r) h ?_ (fun _ hsame=>hsame) ?_
 · intro y s' hanswer
   cases y with
   | rejected=>exact hanswer
   | finished result=>exact hanswer
   | audited result=>exact hanswer.1
 · intro y hanswer
   cases y with
   | rejected=>exact hrejected
   | finished result=>exact hfinished result
   | audited result=>exact haudited result hanswer.2

end

lemma filesOnly_same {s' : TransferState} (h:FilesOnly s s') (hfiles:s'.files=s.files):
 s'=s:=by
 obtain ⟨journal,files,approved⟩:=s
 obtain ⟨journal',files',approved'⟩:=s'
 obtain ⟨rfl,rfl⟩:=h
 obtain rfl:=hfiles
 rfl

lemma renameLeaves_look {files after : Files} {r : RenameRequest} {use : RenameUse}
 (huse:use≠.execute) (h:RenameLeaves files r use after) : after=files:=by
 cases h with
 | kept=>rfl
 | moved _ _ hexecute=>exact absurd hexecute huse
 | replaced _ hexecute=>exact absurd hexecute huse

lemma deleteLeaves_look {files after : Files} {r : DeleteRequest} {use : DeleteUse}
 (huse:use≠.execute) (h:DeleteLeaves files r use after) : after=files:=by
 cases h with
 | kept=>rfl
 | removed _ _ hexecute=>exact absurd hexecute huse

lemma streamLeaves_probe {files after : Files} {r : FileTransferStreamRequest}
 {owned : Bytes} (hmode:copying r.mode=false)
 (h:StreamLeaves files r owned after) : after=files:=by
 cases h with
 | kept=>rfl
 | created _ hnew=>
  simp [copying,hnew] at hmode
 | written _ hcopies=>
  rw [hmode] at hcopies
  cases hcopies
 | removed hcopies=>
  rw [hmode] at hcopies
  cases hcopies

section
variable (h:KeptIn prepared start s)
include h

lemma wp_lookRename {r : RenameRequest} {use : RenameUse}
 (huse:use≠.execute) {post : OperationResult → TransferState → Prop}
 (hpost:∀result,RenameTruth s.files s.files r use result → post result s):
 wp transferWorld (KeptIn prepared start) post (submitRename r use) s:=by
 refine wp_ask h ?_ ?_ fun result hanswer=>hpost result hanswer.2
 · intro result s' hanswer
   exact filesOnly_same hanswer.1 (renameLeaves_look huse hanswer.2.effect)
 · intro s' htorn
   exact filesOnly_same htorn.1 (renameLeaves_look huse htorn.2)

lemma wp_lookDelete {r : DeleteRequest} {use : DeleteUse}
 (huse:use≠.execute) {post : OperationResult → TransferState → Prop}
 (hpost:∀result,DeleteTruth s.files s.files r use result → post result s):
 wp transferWorld (KeptIn prepared start) post (submitDelete r use) s:=by
 refine wp_ask h ?_ ?_ fun result hanswer=>hpost result hanswer.2
 · intro result s' hanswer
   exact filesOnly_same hanswer.1 (deleteLeaves_look huse hanswer.2.effect)
 · intro s' htorn
   exact filesOnly_same htorn.1 (deleteLeaves_look huse htorn.2)

lemma wp_probeStream {r : FileTransferStreamRequest}
 (hmode:copying r.mode=false) {post : StreamAnswer → TransferState → Prop}
 (hpost:∀answer,post answer s):
 wp transferWorld (KeptIn prepared start) post (submitStream r) s:=by
 refine wp_ask h ?_ ?_ fun answer _=>hpost answer
 · intro answer s' hanswer
   apply filesOnly_same hanswer.1
   cases hanswer.2 with
   | rejected hsame=>exact hsame
   | finished result heffect=>exact streamLeaves_probe hmode heffect
   | probed reservation _ hsame=>exact hsame
   | resumed reservation _ _ hsame=>exact hsame
   | created reservation _ hnew=>simp [copying,hnew] at hmode
 · intro s' htorn
   exact filesOnly_same htorn.1 (streamLeaves_probe hmode htorn.2)

lemma wp_probeAcknowledge {r : FileTransferStreamRequest}
 (hmode:copying r.mode=false) {reservation : FileTransferReservation}
 {accepted : Bool} {post : FileTransferStreamResult → TransferState → Prop}
 (hpost:∀result,post result s):
 wp transferWorld (KeptIn prepared start) post
  (acknowledgeReservation r reservation accepted) s:=by
 refine wp_ask h ?_ ?_ fun result _=>hpost result
 · intro result s' hanswer
   exact filesOnly_same hanswer.1 (streamLeaves_probe hmode hanswer.2.1)
 · intro s' htorn
   exact filesOnly_same htorn.1 (streamLeaves_probe hmode htorn.2)

end

lemma wp_awaitConflictDecision (h:Holds prepared start t s)
 {question : List FileTransferConflictItem}
 {post : Option FileTransferConflictDecision → TransferState → Prop}
 (hpost:∀d s',Holds prepared start t s' → s'.files=s.files →
  (d=some .overwrite → ∀given∈givenUp s.files question,given∈s'.approved) →
  post d s'):
 wp transferWorld (KeptIn prepared start) post (awaitConflictDecision question) s:=by
 refine ⟨h.kept,fun s' htorn=>htorn ▸ h.kept,?_⟩
 rintro d s' rfl
 have hafter:Holds prepared start t (decided s question d) ∧
   (decided s question d).files=s.files ∧
   (d=some .overwrite → ∀given∈givenUp s.files question,
    given∈(decided s question d).approved):=by
  cases d with
  | none=>exact ⟨h,rfl,nofun⟩
  | some choice=>
   cases choice with
   | createCopy=>exact ⟨h,rfl,nofun⟩
   | cancel=>exact ⟨h,rfl,nofun⟩
   | overwrite=>
    refine ⟨h.approve fun _ hmem=>List.mem_append_left _ hmem,rfl,?_⟩
    intro _ given hmem
    exact List.mem_append_right _ hmem
 exact ⟨hafter.1.kept,hpost d _ hafter.1 hafter.2.1 hafter.2.2⟩

end Operations

end VoVe.TransferContentRule
