import VoVe.TransferContentSteps

set_option autoImplicit false

namespace VoVe.TransferContentStreams
open ByteCodec AsciiText EffectProgram FileOperation TransferTransaction
open FileTransferProtocol FileTransferCoordinator TransferShape TransferUpdates
open TransferWorld TransferAccounts TransferSettles TransferRecords TransferRecordSteps
open TransferContentRule TransferContentConflicts TransferContentSteps
open TransferRunRule (Engaged engaged_of_active)
open TransferRunSteps (streaming_of_engaged reserving_of_engaged)

section Streaming
variable (prepared : FileTransferTransaction) (start : Files)

/-- The record has a stream under way, and accounts for the files whatever it did. -/
structure Streaming (t : FileTransferTransaction) (index : ℕ) (s : TransferState) : Prop where
 engaged : Engaged t index t.activeStep
 step : t.activeStep=.reserveTemp ∨ t.activeStep=.streamTemp
 active : t.activeIndex.toNat=index
 forward : t.phase≠.prepublishCleanup
 idle : Accounts prepared start t .none s.files s.approved

/-- Where a stream is complete, the temporary file holds what the source holds. -/
def Complete (t : FileTransferTransaction) (index : ℕ) (s : TransferState)
  (result : FileTransferStreamResult) : Prop:=
 streamMatches (itemAt t index) result = true → (itemAt t index).destinationState = .tempReserved ∧
  identityOf result.tempSnapshot = identityOf (itemAt t index).destinationSnapshot ∧
  ∃ temp,s.files (tempKey (itemAt t index)) = some temp ∧
   ∀source,Genuine start (preparedIdentity prepared index) (itemAt t index) source →
    temp.content = source.content

structure RequestOf (item : FileTransferItem) (request : FileTransferStreamRequest) : Prop where
 source : request.source=
  if item.sourceLocation=.staged then item.stagedSource else item.source
 temp : request.tempDestination=item.tempDestination
 copying : copying request.mode=true

variable {prepared start} {s s' : TransferState} {t t' : FileTransferTransaction} {index : ℕ}
 {result : FileTransferStreamResult} {r request : FileTransferStreamRequest} {owned : Bytes}

section
variable (h:Streaming prepared start t index s)
include h

lemma Streaming.ordered : Ordered t index t.activeStep:=by
 refine ⟨fun hcleaning=>absurd hcleaning h.forward,?_⟩
 obtain hstep | hstep:=h.step
 · rw [hstep]
   rintro (hno | hno)
   · cases hno
   · cases hno
 · rw [hstep]
   rintro (hno | hno)
   · cases hno
   · cases hno

lemma Streaming.inside : index<t.items.length := h.engaged.current.inside

lemma Streaming.describes : Describes prepared start s t:=
 Accounts.begun h.idle h.engaged h.active h.ordered

lemma Streaming.leaves (hsame:FilesOnly s s')
 (htemp:r.tempDestination=(itemAt t index).tempDestination)
 (hleaves:StreamLeaves s.files r owned s'.files):
 Streaming prepared start t index s':=by
 obtain ⟨held,hafter⟩:=streamLeaves_temp hleaves
 rw [htemp] at hafter
 have haccounts:=stream_effect h.idle h.engaged h.active h.ordered h.step hafter
 rw [←hsame.approved] at haccounts
 exact ⟨h.engaged,h.step,h.active,h.forward,streaming_idle haccounts h.active h.step⟩

lemma Streaming.happened
 (hholds:Holds prepared start t s) (hafter:Streaming prepared start t index s')
 (hsame:FilesOnly s s') : Holds prepared start t s':=by
 have hactive:¬Resting t:=fun hresting=>h.engaged.real hresting
 exact hholds.happened hactive hsame hafter.describes

end

lemma source_streamed {item : FileTransferItem} {identity : Bytes} {files : Files}
 (h:SourceKept start files identity .none item) (hlocation:item.sourceLocation≠.removed)
 {source : FileObject} (hgenuine:Genuine start identity item source):
 files (transferPathKey (if item.sourceLocation=.staged then item.stagedSource
  else item.source))=some source:=by
 have hplaced:=h.placed source hgenuine
 unfold SourcePlaced at hplaced
 cases hat:item.sourceLocation with
 | original=>
  rw [hat] at hplaced
  rw [if_neg nofun]
  obtain hthere | ⟨hno,-⟩ | ⟨hno,-⟩:=hplaced
  · exact hthere
  · cases hno
  · cases hno
 | staged=>
  rw [hat] at hplaced
  rw [if_pos rfl]
  obtain ⟨hno,-⟩ | ⟨-,hthere | ⟨hno,-⟩⟩:=hplaced
  · cases hno
  · exact hthere
  · cases hno
 | removed=>exact absurd hat hlocation

section
variable (h:Streaming prepared start t index s)
include h

lemma Streaming.located : (itemAt t index).sourceLocation≠.removed:=by
 have hstreamable:Streamable t.kind (itemAt t index):=by
  have hengaged:=h.engaged
  obtain hstep | hstep:=h.step
  · rw [hstep] at hengaged
    exact (reserving_of_engaged hengaged).1
  · rw [hstep] at hengaged
    exact (streaming_of_engaged hengaged).1
 have hlocations:=(sound_itemAt h.engaged.sound h.inside).strategy
 obtain hcopy | ⟨-,-,hstaged⟩:=hstreamable
 · rw [hcopy] at hlocations
   simp only [strategyAndLocationsValid,decide_eq_true_eq] at hlocations
   rw [hlocations.2.2]
   rintro ⟨⟩
 · rw [hstaged]
   rintro ⟨⟩

lemma unmatched_of_absent
 (habsent:(itemAt t index).destinationState=.absent):
 streamMatches (itemAt t index) result=false:=by
 have hproof:=(sound_itemAt h.engaged.sound h.inside).proof
 unfold destinationProofValid at hproof
 simp only [habsent,if_true,decide_eq_true_eq] at hproof
 have hempty:(itemAt t index).destinationSnapshot.sourceRevisionUtf8=[]:=by
  have hsnapshot:=hproof.1
  simp only [snapshotEmpty,decide_eq_true_eq] at hsnapshot
  exact hsnapshot.2.2
 simp [streamMatches,snapshotIdentityMatches,hempty,stableObjectIdentity_nil]

lemma complete_of_copied
 (hrequest:RequestOf (itemAt t index) r)
 (howned:(itemAt t index).destinationState=.tempReserved →
  owned=identityOf (itemAt t index).destinationSnapshot)
 (hcopied:Copied s.files s'.files r owned result):
 Complete prepared start t index s' result:=by
 intro hmatches
 have hreserved:(itemAt t index).destinationState=.tempReserved:=by
  have hengaged:=h.engaged
  obtain hstep | hstep:=h.step
  · rw [hstep] at hengaged
    rw [unmatched_of_absent h (reserving_of_engaged hengaged).2.1] at hmatches
    cases hmatches
  · rw [hstep] at hengaged
    exact (streaming_of_engaged hengaged).2.1
 simp only [streamMatches,decide_eq_true_eq] at hmatches
 obtain ⟨source,hsource,-,htemp,hafter⟩:=hcopied hrequest.copying hmatches.1
 refine ⟨hreserved,htemp.trans (howned hreserved),⟨owned,source.content⟩,?_,?_⟩
 · rw [tempKey,←hrequest.temp]
   exact hafter
 · intro genuine hgenuine
   have hitem:=h.idle.items index h.inside
   rw [stepOn_none] at hitem
   have hthere:=source_streamed hitem.source h.located hgenuine
   rw [hrequest.source] at hsource
   rw [Option.some.inj (hsource.symm.trans hthere)]

end

end Streaming

section Requests
variable {prepared : FileTransferTransaction} {start : Files} {s : TransferState}
 {t shown : FileTransferTransaction} {index : ℕ} {r request : FileTransferStreamRequest}

structure Reserved (t : FileTransferTransaction) (index : ℕ) (mode : FileTransferStreamMode)
  (s : TransferState) (reservation : FileTransferReservation) : Prop where
 resumed : mode=.resumeExisting → identityOf reservation.tempSnapshot=
  identityOf (itemAt t index).destinationSnapshot
 created : mode=.reserveNew → ∀key object,s.files key=some object →
  object.identity=identityOf reservation.tempSnapshot → key=tempKey (itemAt t index)

/-- A record that is streamed to begins either with a new file or with its own. -/
def ModeOf (t : FileTransferTransaction) (index : ℕ) (mode : FileTransferStreamMode) : Prop:=
 mode = .reserveNew ∧ (itemAt t index).destinationState = .absent ∨
  mode = .resumeExisting ∧ (itemAt t index).destinationState = .tempReserved

lemma requestOf_mode {m : FileTransferStreamMode} (hmode:ModeOf t index m):
 RequestOf (itemAt t index) (streamRequest t index m):=by
 refine ⟨rfl,rfl,?_⟩
 obtain ⟨rfl,-⟩ | ⟨rfl,-⟩:=hmode
 · rfl
 · rfl

lemma wp_submitStream (h:Streaming prepared start t index s)
 (hholds:Holds prepared start t s) {m : FileTransferStreamMode}
 (hmode:ModeOf t index m) {post : StreamAnswer → TransferState → Prop}
 (hrejected:∀s',Streaming prepared start t index s' → Holds prepared start t s' →
  post .rejected s')
 (hfinished:∀result s',Streaming prepared start t index s' → Holds prepared start t s' →
  Complete prepared start t index s' result → post (.finished result) s')
 (hreserved:∀reservation s',Streaming prepared start t index s' →
  Holds prepared start t s' → Reserved t index m s' reservation →
  post (.reserved reservation) s'):
 wp transferWorld (KeptIn prepared start) post (submitStream (streamRequest t index m)) s:=by
 have hrequest:=requestOf_mode hmode
 have hafter:∀s' owned,FilesOnly s s' →
   StreamLeaves s.files (streamRequest t index m) owned s'.files →
   Streaming prepared start t index s' ∧ Holds prepared start t s':=by
  intro s' owned hsame hleaves
  have hstreaming:=h.leaves hsame hrequest.temp hleaves
  exact ⟨hstreaming,h.happened hholds hstreaming hsame⟩
 have hkept:∀s',FilesOnly s s' → s'.files=s.files →
   Streaming prepared start t index s' ∧ Holds prepared start t s':=by
  intro s' hsame hfiles
  obtain rfl:=filesOnly_same hsame hfiles
  exact ⟨h,hholds⟩
 refine ⟨hholds.kept,?_,?_⟩
 · rintro s' ⟨hsame,hleaves⟩
   exact (hafter s' _ hsame hleaves).2.kept
 · rintro answer s' ⟨hsame,htruth⟩
   cases htruth with
   | rejected hfiles=>
    obtain ⟨hstreaming,hshown⟩:=hkept s' hsame hfiles
    exact ⟨hshown.kept,hrejected s' hstreaming hshown⟩
   | finished result heffect hcopied=>
    obtain ⟨hstreaming,hshown⟩:=hafter s' _ hsame heffect
    refine ⟨hshown.kept,hfinished result s' hstreaming hshown ?_⟩
    apply complete_of_copied h hrequest _ hcopied
    intro hreserved'
    obtain ⟨-,habsent⟩ | ⟨rfl,-⟩:=hmode
    · rw [habsent] at hreserved'
      cases hreserved'
    · rfl
   | probed reservation hprobe _=>
    rw [hrequest.copying] at hprobe
    cases hprobe
   | resumed reservation hresume htemp hfiles=>
    obtain ⟨hstreaming,hshown⟩:=hkept s' hsame hfiles
    refine ⟨hshown.kept,hreserved reservation s' hstreaming hshown ⟨fun hmode'=>?_,
     fun hmode'=>?_⟩⟩
    · subst hmode'
      exact htemp
    · subst hmode'
      cases hresume
   | created reservation content hnew hfree hfresh hfiles=>
    have hleaves:StreamLeaves s.files (streamRequest t index m) [] s'.files:=by
     rw [hfiles]
     exact .created _ hnew hfree hfresh
    obtain ⟨hstreaming,hshown⟩:=hafter s' _ hsame hleaves
    refine ⟨hshown.kept,hreserved reservation s' hstreaming hshown ⟨fun hmode'=>?_,
     fun _=>?_⟩⟩
    · subst hmode'
      cases hnew
    · intro key object hheld hidentity
      by_contra hkey
      have hupdate:s'.files key=s.files key:=by
       rw [hfiles]
       exact Function.update_of_ne hkey _ _
      rw [hupdate] at hheld
      exact hfresh key object hheld hidentity

lemma wp_acknowledgeReservation (h:Streaming prepared start t index s)
 (hshown:Streaming prepared start shown index s) (hholds:Holds prepared start shown s)
 (hrequest:RequestOf (itemAt t index) r)
 (htemp:r.tempDestination=(itemAt shown index).tempDestination)
 {reservation : FileTransferReservation}
 (howned:(itemAt t index).destinationState=.tempReserved →
  identityOf reservation.tempSnapshot=identityOf (itemAt t index).destinationSnapshot)
 {accepted : Bool} {post : FileTransferStreamResult → TransferState → Prop}
 (hpost:∀result s',KeptIn prepared start s' → Streaming prepared start t index s' →
  Complete prepared start t index s' result → post result s'):
 wp transferWorld (KeptIn prepared start) post
  (acknowledgeReservation r reservation accepted) s:=by
 have hafter:∀s' owned,FilesOnly s s' → StreamLeaves s.files r owned s'.files →
   KeptIn prepared start s':=by
  intro s' owned hsame hleaves
  exact (hshown.happened hholds (hshown.leaves hsame htemp hleaves) hsame).kept
 refine ⟨hholds.kept,?_,?_⟩
 · rintro s' ⟨hsame,hleaves⟩
   exact hafter s' _ hsame hleaves
 · rintro result s' ⟨hsame,hleaves,hcopied⟩
   have hkept:=hafter s' _ hsame hleaves
   exact ⟨hkept,hpost result s' hkept (h.leaves hsame hrequest.temp hleaves)
    (complete_of_copied h hrequest howned hcopied)⟩

lemma wp_settleStream (hs:KeptIn prepared start s) (h:Streaming prepared start t index s)
 {result : FileTransferStreamResult} (hcomplete:Complete prepared start t index s result):
 wp transferWorld (KeptIn prepared start) (StepEnds prepared start t)
  (settleStream t index result) s:=by
 simp only [settleStream]
 split
 · next hmatches =>
   obtain ⟨hreserved,hidentity,temp,hheld,hcontent⟩:=hcomplete hmatches
   have hunpublished:(itemAt t index).destinationState≠.published:=by simp [hreserved]
   apply wp_persistCommitted hs
   · intro _
     refine h.idle.reworked h.inside rfl rfl rfl id rfl rfl fun hitem=>?_
     exact ⟨source_same hitem.source rfl rfl rfl rfl rfl hunpublished,
      TransferSettles.content_streamed hitem.content hreserved hheld hidentity hcontent rfl,
      replaced_same hitem.replaced (not_finished hunpublished) rfl rfl rfl rfl rfl⟩
   · exact Iff.rfl
 · rw [wp_bind]
   apply wp_stopRequested hs
   intro stopped
   split
   · exact wp_preserveUncertain hs h.describes
   · split
     · exact wp_stepEnds (wp_turnBack hs h.idle)
     · exact wp_preserveUncertain hs h.describes

end Requests

section Commits
variable {prepared : FileTransferTransaction} {start : Files} {s s' : TransferState}
 {t : FileTransferTransaction} {index : ℕ} {m mode : FileTransferStreamMode}
 {reservation : FileTransferReservation}

lemma Streaming.journal (h:Streaming prepared start t index s) (hsame:JournalOnly s s'):
 Streaming prepared start t index s':=by
 refine ⟨h.engaged,h.step,h.active,h.forward,?_⟩
 rw [hsame.files,hsame.approved]
 exact h.idle

def reservedTransaction (t : FileTransferTransaction) (index : ℕ)
  (reservation : FileTransferReservation) : FileTransferTransaction:=
 { setItem t index (reservedItem (itemAt t index) reservation) with
   activeStep:=.streamTemp,activeEvidence := .none }

lemma reserved_item (hinside:index<t.items.length):
 itemAt (reservedTransaction t index reservation) index=
  reservedItem (itemAt t index) reservation:=
 itemAt_set hinside rfl

lemma streaming_reserved (h:Streaming prepared start t index s)
 (habsent:(itemAt t index).destinationState=.absent)
 (hown:∀key object,s.files key=some object →
  object.identity=identityOf reservation.tempSnapshot → key=tempKey (itemAt t index))
 (hsound:TransferSound (reservedTransaction t index reservation)):
 Streaming prepared start (reservedTransaction t index reservation) index s:=by
 have hreal:(reservedTransaction t index reservation).activeStep≠.none:=nofun
 have hunpublished:(itemAt t index).destinationState≠.published:=by simp [habsent]
 have hengaged:=engaged_of_active hsound hreal
 have hactive:(reservedTransaction t index reservation).activeIndex.toNat=index:=h.active
 rw [hactive] at hengaged
 refine ⟨hengaged,.inr rfl,hactive,h.forward,?_⟩
 refine h.idle.reworked h.inside rfl rfl rfl id rfl rfl fun hitem=>?_
 exact ⟨source_same hitem.source rfl rfl rfl rfl rfl hunpublished,content_reserved hown,
  replaced_same hitem.replaced (not_finished hunpublished) rfl rfl rfl rfl rfl⟩

variable (prepared start) in
/-- After the commit: which record the stream goes on from, and which one is shown. -/
structure Committed (t : FileTransferTransaction) (index : ℕ) (mode : FileTransferStreamMode)
  (reservation : FileTransferReservation) (committed : FileTransferTransaction)
  (s : TransferState) : Prop where
 streaming : Streaming prepared start committed index s
 shown : ∃ shown,Streaming prepared start shown index s ∧ Holds prepared start shown s ∧
  (itemAt shown index).tempDestination=(itemAt t index).tempDestination
 phase : committed.phase=t.phase
 request : RequestOf (itemAt committed index) (streamRequest t index mode)
 owned : (itemAt committed index).destinationState=.tempReserved →
  identityOf reservation.tempSnapshot=identityOf (itemAt committed index).destinationSnapshot

section
variable (h:Streaming prepared start t index s)
include h

lemma committed_same
 {shown : FileTransferTransaction} (hshown:Streaming prepared start shown index s)
 (hholds:Holds prepared start shown s)
 (htemp:(itemAt shown index).tempDestination=(itemAt t index).tempDestination)
 (hmode:ModeOf t index m) (hreserved:Reserved t index m s reservation):
 Committed prepared start t index m reservation t s:=by
 refine ⟨h,⟨shown,hshown,hholds,htemp⟩,rfl,requestOf_mode hmode,?_⟩
 intro hstate
 obtain ⟨-,habsent⟩ | ⟨hresume,-⟩:=hmode
 · rw [habsent] at hstate
   cases hstate
 · exact hreserved.resumed hresume

lemma committed_reserved
 (hstreaming:Streaming prepared start (reservedTransaction t index reservation) index s)
 (hholds:Holds prepared start (reservedTransaction t index reservation) s)
 (hmode:ModeOf t index m):
 Committed prepared start t index m reservation (reservedTransaction t index reservation)
  s:=by
 have hitem:itemAt (reservedTransaction t index reservation) index=
   reservedItem (itemAt t index) reservation := reserved_item h.inside
 have hrequest:=requestOf_mode hmode
 refine ⟨hstreaming,⟨_,hstreaming,hholds,?_⟩,rfl,?_,fun _=>?_⟩
 · rw [hitem]
   rfl
 · rw [hitem]
   exact ⟨hrequest.source,hrequest.temp,hrequest.copying⟩
 · rw [hitem]
   rfl

lemma wp_commitReservation
 (hholds:Holds prepared start t s) (hmode:ModeOf t index m)
 (hreserved:Reserved t index m s reservation):
 wp transferWorld (KeptIn prepared start)
  (fun out s'=>Committed prepared start t index m reservation out.1 s')
  (commitReservation t index m reservation) s:=by
 have hsame:Committed prepared start t index m reservation t s:=
  committed_same h h hholds rfl hmode hreserved
 simp only [commitReservation]
 split
 · exact ⟨hholds.kept,hsame⟩
 · split
   · exact ⟨hholds.kept,hsame⟩
   · next hnew =>
     split
     · exact ⟨hholds.kept,hsame⟩
     · next hstate =>
       simp only [not_or,not_not] at hstate
       have hmode':m=.reserveNew:=by
        obtain ⟨hreserve,-⟩ | ⟨hresume,-⟩:=hmode
        · exact hreserve
        · exact absurd hresume hnew
       have hnext:∀ {s' : TransferState},JournalOnly s s' →
         TransferSound (reservedTransaction t index reservation) →
         Streaming prepared start (reservedTransaction t index reservation) index s':=
        fun hjournal hsound=>(streaming_reserved h hstate.2 (hreserved.created hmode')
         hsound).journal hjournal
       rw [wp_bind]
       apply wp_persistOver hholds
       · intro hsound
         exact (hnext ⟨rfl,rfl⟩ hsound).describes
       · intro s' hs' hjournal
         exact ⟨hs'.kept,committed_reserved (h.journal hjournal) (hnext hjournal hs'.sound) hs'
          hmode⟩
       · intro detail s' hs' hjournal
         have hafter:=h.journal hjournal
         have hreserved':Reserved t index m s' reservation:=by
          refine ⟨hreserved.resumed,?_⟩
          rw [hjournal.files]
          exact hreserved.created
         obtain hold | hnew:=hs'
         · exact ⟨hold.kept,committed_same hafter hafter hold rfl hmode hreserved'⟩
         · have hshown:=hnext hjournal hnew.sound
           refine ⟨hnew.kept,committed_same hafter hshown hnew ?_ hmode hreserved'⟩
           have hitem:itemAt (reservedTransaction t index reservation) index=
             reservedItem (itemAt t index) reservation := reserved_item h.inside
           unfold reservedTransaction at hitem ⊢
           rw [hitem]
           rfl

end

lemma wp_streamBegun {step : FileTransferStep} (hs:KeptIn prepared start s)
 (h:Accounts prepared start t .none s.files s.approved) (hinside:index<t.items.length)
 (hforward:t.phase≠.prepublishCleanup) (hstep:step=.reserveTemp ∨ step=.streamTemp)
 (hmode:ModeOf t index m):
 wp transferWorld (KeptIn prepared start) (StepEnds prepared start t)
  (persistThen (beginStep t index step) .none do
   match ← submitStream (streamRequest (beginStep t index step) index m) with
   | .rejected=>
    preserveUncertain (beginStep t index step) .ioError .none
     (utf8 "file-transfer service rejected the stream step")
   | .finished result=>settleStream (beginStep t index step) index result
   | .reserved reservation=>
    let (committed,accepted) ←
     commitReservation (beginStep t index step) index m reservation
    let result ← acknowledgeReservation (streamRequest (beginStep t index step) index m)
     reservation accepted
    settleStream committed index result) s:=by
 have hreal:step≠.none:=by
  obtain rfl | rfl:=hstep
  · exact nofun
  · exact nofun
 have hordered:Ordered (beginStep t index step) index step:=by
  refine ⟨fun hcleaning=>absurd hcleaning hforward,?_⟩
  obtain rfl | rfl:=hstep
  · rintro (hno | hno)
    · cases hno
    · cases hno
  · rintro (hno | hno)
    · cases hno
    · cases hno
 apply wp_begin hs h hinside hreal hordered
 intro s' hbegun hidle
 have hstreaming:Streaming prepared start (beginStep t index step) index s':=
  ⟨hbegun.engaged,hstep,hbegun.active,hforward,hidle⟩
 rw [wp_bind]
 apply wp_submitStream hstreaming hbegun.holds hmode
 · intro s'' hafter hholds
   exact wp_preserveUncertain hholds.kept hafter.describes
 · intro result s'' hafter hholds hcomplete
   exact wp_settleStream hholds.kept hafter hcomplete
 · intro reservation s'' hafter hholds hreserved
   rw [wp_bind]
   apply wp_consequence (wp_commitReservation hafter hholds hmode hreserved)
   rintro ⟨committed,accepted⟩ u hkept hcommitted
   obtain ⟨shown,hshown,hshownHolds,htemp⟩:=hcommitted.shown
   rw [wp_bind]
   apply wp_acknowledgeReservation hcommitted.streaming hshown hshownHolds hcommitted.request
    htemp.symm hcommitted.owned
   intro result v hkept' hstreaming' hcomplete
   apply wp_consequence (wp_settleStream hkept' hstreaming' hcomplete)
   intro out w _ hout
   exact stepEnds_of_phase hout (iff_of_eq (congrArg (·=_) hcommitted.phase))

lemma wp_executeStreamStep (hs:KeptIn prepared start s)
 (h:Accounts prepared start t .none s.files s.approved) (hinside:index<t.items.length)
 (hforward:t.phase≠.prepublishCleanup)
 (hstate:(itemAt t index).destinationState=.absent ∨
  (itemAt t index).destinationState=.tempReserved):
 wp transferWorld (KeptIn prepared start) (StepEnds prepared start t)
  (executeStreamStep t index) s:=by
 simp only [executeStreamStep,beginStream]
 obtain habsent | hreserved:=hstate
 · have hmode:streamMode (itemAt t index)=.reserveNew:=by
    simp [streamMode,habsent]
   rw [hmode,wp_bind,if_pos rfl,wp_bind]
   apply wp_randomDevice hs
   intro random
   have hitem:itemAt (setItem t index { itemAt t index with
     requestToken:=newRequestToken t index random }) index={ itemAt t index with
     requestToken:=newRequestToken t index random } := itemAt_set hinside rfl
   have htoken:Accounts prepared start (setItem t index { itemAt t index with
     requestToken:=newRequestToken t index random }) .none s.files s.approved:=by
    have hunpublished:(itemAt t index).destinationState≠.published:=by simp [habsent]
    refine h.reworked hinside rfl rfl rfl id rfl rfl fun hitem=>?_
    exact ⟨source_same hitem.source rfl rfl rfl rfl rfl hunpublished,content_absent habsent,
     replaced_same hitem.replaced (not_finished hunpublished) rfl rfl rfl rfl rfl⟩
   have hinside':index<(setItem t index { itemAt t index with
     requestToken:=newRequestToken t index random }).items.length:=by
    simpa [setItem] using hinside
   refine ⟨hs,?_⟩
   apply wp_consequence (wp_streamBegun hs htoken hinside' hforward (.inl rfl)
    (.inl ⟨rfl,by rw [hitem]; exact habsent⟩))
   intro out s' _ hout
   exact stepEnds_of_phase hout Iff.rfl
 · have hmode:streamMode (itemAt t index)=.resumeExisting:=by
    simp [streamMode,hreserved]
   rw [hmode,wp_bind,if_neg (by simp)]
   exact ⟨hs,wp_streamBegun hs h hinside hforward (.inr rfl) (.inr ⟨rfl,hreserved⟩)⟩

end Commits

section Recovery
variable {prepared : FileTransferTransaction} {start : Files} {s : TransferState}
 {t : FileTransferTransaction} {index : ℕ} {sha256 : Bytes → ContentDigest} {canAsk : Bool}

lemma wp_probeReservation (hs:KeptIn prepared start s)
 {post : ReservationMarkerProbe → TransferState → Prop} (hpost:∀probe,post probe s):
 wp transferWorld (KeptIn prepared start) post (probeReservation sha256 t index) s:=by
 have hmode:copying (probeRequest t index).mode=false:=rfl
 rw [probeReservation,wp_bind]
 apply wp_probeStream hs hmode
 intro answer
 cases answer with
 | rejected=>exact ⟨hs,hpost _⟩
 | finished result=>exact ⟨hs,hpost _⟩
 | reserved reservation=>
  rw [wp_bind]
  apply wp_probeAcknowledge hs hmode
  intro result
  split
  · exact ⟨hs,hpost _⟩
  · split
    · exact ⟨hs,hpost _⟩
    · exact ⟨hs,hpost _⟩

lemma wp_probeTemp (hs:KeptIn prepared start s)
 {post : ProbeResult → TransferState → Prop} (hpost:∀observed,post observed s):
 wp transferWorld (KeptIn prepared start) post (probeTemp t index) s:=by
 have huse:DeleteUse.probeTemp≠.execute:=nofun
 rw [probeTemp,wp_bind]
 apply wp_lookDelete hs huse
 intro result _
 split
 · exact ⟨hs,hpost _⟩
 · split
   · exact ⟨hs,hpost _⟩
   · exact ⟨hs,hpost _⟩

lemma streaming_of_begun {step : FileTransferStep} (h:Begun prepared start t index step s)
 (hstep:step=.reserveTemp ∨ step=.streamTemp):
 Streaming prepared start t index s:=by
 have hactive:=h.engaged.active
 have hforward:t.phase≠.prepublishCleanup:=by
  intro hcleaning
  have hcleanup:=h.ordered.cleaning hcleaning
  obtain rfl | rfl:=hstep
  · obtain hno | hno | hno | hno:=hcleanup
    · cases hno
    · cases hno
    · cases hno
    · cases hno
  · obtain hno | hno | hno | hno:=hcleanup
    · cases hno
    · cases hno
    · cases hno
    · cases hno
 exact ⟨hactive ▸ h.engaged,hactive ▸ hstep,h.active,hforward,
  streaming_idle h.accounts h.active hstep⟩

lemma wp_recoverReservation (h:Begun prepared start t index .reserveTemp s):
 wp transferWorld (KeptIn prepared start) (StepEnds prepared start t)
  (recoverReservation sha256 t index) s:=by
 have hstreaming:=streaming_of_begun h (.inl rfl)
 have habsent:=(reserving_of_engaged h.engaged).2.1
 have hunpublished:(itemAt t index).destinationState≠.published:=by simp [habsent]
 have hinside:=h.inside
 rw [recoverReservation,wp_bind]
 apply wp_probeReservation h.holds.kept
 intro reservation
 split
 · have hitem:itemAt (clearFailure (clearActive (setItem t index
     { itemAt t index with requestToken:=.zero _ }))) index=
     { itemAt t index with requestToken:=.zero _ } := itemAt_set hinside rfl
   have hcleared:Accounts prepared start (clearFailure (clearActive (setItem t index
     { itemAt t index with requestToken:=.zero _ }))) .none s.files s.approved:=by
    refine hstreaming.idle.reworked hinside rfl rfl rfl id rfl rfl fun hitem=>?_
    exact ⟨source_same hitem.source rfl rfl rfl rfl rfl hunpublished,content_absent habsent,
     replaced_same hitem.replaced (not_finished hunpublished) rfl rfl rfl rfl rfl⟩
   have hinside':index<(clearFailure (clearActive (setItem t index
     { itemAt t index with requestToken:=.zero _ }))).items.length:=by
    simpa [clearFailure,clearActive,setItem] using hinside
   apply wp_persistThen h.holds.kept fun _=>hcleared
   intro s' hs' _
   apply wp_consequence (wp_executeStreamStep hs'.kept (hs'.ready rfl).accounts hinside'
    hstreaming.forward (.inl (by rw [hitem]; exact habsent)))
   intro out s'' _ hout
   exact stepEnds_of_phase hout Iff.rfl
 · split
   · apply wp_stepEnds
     apply wp_enterCleanup h.holds.kept
     intro _
     refine hstreaming.idle.reworked hinside rfl rfl rfl (fun hno=>absurd rfl hno) rfl rfl
      fun hitem=>?_
     exact ⟨source_same hitem.source rfl rfl rfl rfl rfl hunpublished,content_cleaned rfl (by simp),
      replaced_same hitem.replaced (not_finished hunpublished) rfl rfl rfl rfl rfl⟩
   · exact wp_preserveUncertain h.holds.kept h.holds.describes

lemma accounts_seen (h:Streaming prepared start t index s) {observed : ProbeResult}
 (hrecognized:tempRecognized (itemAt t index) observed=true)
 (hreserved:(itemAt t index).destinationState=.tempReserved)
 (hsound:TransferSound (seenTemp t index observed.snapshot)):
 Accounts prepared start (seenTemp t index observed.snapshot) .none s.files s.approved:=by
 have hinside:=h.inside
 have hunpublished:(itemAt t index).destinationState≠.published:=by simp [hreserved]
 have hstrong:∀ {u : FileTransferTransaction},TransferSound u → index<u.items.length →
   validSnapshot (itemAt u index).destinationSnapshot=true →
   startsWith (itemAt u index).destinationSnapshot.sourceRevisionUtf8 winFile=false:=by
  intro u hu hi hvalid
  obtain hempty | hstrong:=(sound_itemAt hu hi).strongDestination
  · simp only [snapshotEmpty,decide_eq_true_eq] at hempty
    simp [validSnapshot,hempty.2.2,stableObjectIdentity_nil] at hvalid
  · exact hstrong
 simp only [tempRecognized,decide_eq_true_eq] at hrecognized
 have hitem:itemAt (seenTemp t index observed.snapshot) index=
   { itemAt t index with destinationSnapshot:=observed.snapshot } := itemAt_set hinside rfl
 have hinside':index<(seenTemp t index observed.snapshot).items.length:=by
  simpa [seenTemp,clearFailure,setItem] using hinside
 have hvalid:validSnapshot (itemAt t index).destinationSnapshot=true:=
  TransferRunSteps.sameObjectIdentity_valid hrecognized.2
 have hvalid':validSnapshot observed.snapshot=true:=by
  by_contra hempty
  simp only [validSnapshot,Bool.not_eq_true,decide_eq_false_iff_not,not_not] at hempty
  simp [sameObjectIdentity,hempty] at hrecognized
 have hnew:=hstrong hsound hinside'
 rw [hitem] at hnew
 have hidentity:identityOf observed.snapshot=identityOf (itemAt t index).destinationSnapshot:=
  identity_of_strong hrecognized.2 (hnew hvalid')
   (hstrong h.engaged.sound hinside hvalid)
 refine h.idle.reworked hinside rfl rfl rfl id rfl rfl fun hitem=>?_
 refine ⟨source_same hitem.source rfl rfl rfl rfl rfl hunpublished,?_,
  replaced_same hitem.replaced (not_finished hunpublished) rfl rfl rfl rfl rfl⟩
 refine ⟨fun hphase hstate key object hheld hsame=>?_,fun _ hready=>?_,fun hstate=>?_⟩
 · exact hitem.content.reserved hphase hstate key object hheld (hsame.trans hidentity)
 · rw [hreserved] at hready
   cases hready
 · exact absurd hstate hunpublished

lemma wp_recoverStream (h:Begun prepared start t index .streamTemp s):
 wp transferWorld (KeptIn prepared start) (StepEnds prepared start t)
  (recoverStream t index) s:=by
 have hstreaming:=streaming_of_begun h (.inr rfl)
 have hreserved:=(streaming_of_engaged h.engaged).2.1
 have hunpublished:(itemAt t index).destinationState≠.published:=by simp [hreserved]
 have hinside:=h.inside
 rw [recoverStream,wp_bind]
 apply wp_probeTemp h.holds.kept
 intro observed
 split
 · have hitem:itemAt (clearFailure (clearActive (setItem t index
     (clearDestinationProof (itemAt t index))))) index=
     clearDestinationProof (itemAt t index) := itemAt_set hinside rfl
   have hcleared:Accounts prepared start (clearFailure (clearActive (setItem t index
     (clearDestinationProof (itemAt t index))))) .none s.files s.approved:=by
    refine hstreaming.idle.reworked hinside rfl rfl rfl id rfl rfl fun hitem=>?_
    exact ⟨source_same hitem.source rfl rfl rfl rfl rfl hunpublished,content_absent rfl,
     replaced_same hitem.replaced (not_finished hunpublished) rfl rfl rfl rfl rfl⟩
   have hinside':index<(clearFailure (clearActive (setItem t index
     (clearDestinationProof (itemAt t index))))).items.length:=by
    simpa [clearFailure,clearActive,setItem] using hinside
   apply wp_persistThen h.holds.kept fun _=>hcleared
   intro s' hs' _
   apply wp_consequence (wp_executeStreamStep hs'.kept (hs'.ready rfl).accounts hinside'
    hstreaming.forward (.inl (by rw [hitem]; rfl)))
   intro out s'' _ hout
   exact stepEnds_of_phase hout Iff.rfl
 · split
   · exact wp_preserveUncertain h.holds.kept h.holds.describes
   · next hrecognized =>
     have hitem:itemAt (seenTemp t index observed.snapshot) index=
       { itemAt t index with destinationSnapshot:=observed.snapshot }:=
      itemAt_set hinside rfl
     have hinside':index<(seenTemp t index observed.snapshot).items.length:=by
      simpa [seenTemp,clearFailure,setItem] using hinside
     have hseen:=accounts_seen hstreaming (not_not.mp hrecognized) hreserved
     have hactive:(seenTemp t index observed.snapshot).activeStep=.streamTemp:=h.engaged.active
     apply wp_persistThen h.holds.kept
     · intro hsound
       have hengaged:=engaged_of_active hsound (hactive ▸ (by simp))
       have hindex:(seenTemp t index observed.snapshot).activeIndex.toNat=index:=h.active
       rw [hindex] at hengaged
       have hagain:Streaming prepared start (seenTemp t index observed.snapshot) index s:=
        ⟨hengaged,.inr hactive,hindex,hstreaming.forward,hseen hsound⟩
       exact hagain.describes
     · intro s' hs' hsame
       have hafter:=hseen hs'.sound
       rw [←hsame.files,←hsame.approved] at hafter
       apply wp_consequence (wp_executeStreamStep hs'.kept hafter hinside' hstreaming.forward
        (.inr (by rw [hitem]; exact hreserved)))
       intro out s'' _ hout
       exact stepEnds_of_phase hout Iff.rfl

lemma wp_recoverActiveStep (h:Holds prepared start t s) (hreal:t.activeStep≠.none):
 wp transferWorld (KeptIn prepared start) (StepEnds prepared start t)
  (recoverActiveStep sha256 canAsk t) s:=by
 have hbegun:=begun_of_active h hreal
 simp only [recoverActiveStep]
 cases hstep:t.activeStep with
 | none=>exact absurd hstep hreal
 | atomicMove=>exact wp_recoverRenameStep (hstep ▸ hbegun) (.inl rfl)
 | stageSource=>exact wp_recoverRenameStep (hstep ▸ hbegun) (.inr (.inl rfl))
 | reserveTemp=>
  rw [hstep] at hbegun
  simp only [recoverStreamStep,hstep,if_true]
  exact wp_recoverReservation hbegun
 | streamTemp=>
  rw [hstep] at hbegun
  simp only [recoverStreamStep,hstep,reduceCtorEq,if_false]
  exact wp_recoverStream hbegun
 | publishTemp=>exact wp_recoverRenameStep (hstep ▸ hbegun) (.inr (.inr (.inl rfl)))
 | deleteSource=>exact wp_recoverDeleteStep (hstep ▸ hbegun) (.inl rfl)
 | restoreStagedSource=>
  exact wp_recoverRenameStep (hstep ▸ hbegun) (.inr (.inr (.inr (.inl rfl))))
 | cleanupTemp=>exact wp_recoverDeleteStep (hstep ▸ hbegun) (.inr (.inl rfl))
 | evacuateOverwriteDestination=>
  exact wp_recoverRenameStep (hstep ▸ hbegun) (.inr (.inr (.inr (.inr (.inl rfl)))))
 | restoreOverwriteDestination=>
  exact wp_recoverRenameStep (hstep ▸ hbegun) (.inr (.inr (.inr (.inr (.inr rfl)))))
 | cleanupOverwriteDestination=>exact wp_recoverDeleteStep (hstep ▸ hbegun) (.inr (.inr rfl))

end Recovery

end VoVe.TransferContentStreams
