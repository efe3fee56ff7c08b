import VoVe.PreviewProtocolExact
import VoVe.PreviewService
import VoVe.ThumbnailSchedulerSafety

set_option autoImplicit false

namespace VoVe.PreviewService
open ByteCodec Checks PreviewProtocol ThumbnailTypes
open ScanCodec (frameHeaderBytes appendHeader_length)
open ThumbnailQueue (JobId ThumbnailRequest ThumbnailScheduler PendingRequest RequestGeneration)
open ThumbnailQueue.ThumbnailScheduler (Consistent consistent_new)
open TransactionCodec (Thrown)

def answeredId (frame : Bytes) : Option RequestId:=
 match decodePreviewResponse frame with
 | .ok response=>some response.requestId
 | .error _=>none

def Connection.answered (connection : Connection) : List RequestId:=
 connection.sent.filterMap answeredId

/-- `write_frame` succeeds. -/
def Write.fits (write : Write) (size : ℕ) : Bool:=
 write.unsent+size ≤ kMaximumQueuedOutputBytes ∧ write.taken

def failureFrameBytes : ℕ := frameHeaderBytes+34

variable {resp response : PreviewResponse} {frame : Bytes} {r requestId : RequestId}
 {request : PreviewRequest} {type : MessageType}

lemma response_answers (h:encodePreviewResponse resp=.ok frame):
 answeredId frame=some resp.requestId:=by
 rw [answeredId,previewResponse_exact.mp h]

lemma other_answers {message : Message} (h:encode message=.ok frame)
 (htype:message.type≠.previewResponse) : answeredId frame=none:=by
 cases hdecode:decodePreviewResponse frame with
 | error error=>rw [answeredId,hdecode]
 | ok resp=>
  have hencode:encode (.previewResponse resp)=.ok frame:=previewResponse_exact.mpr hdecode
  exact absurd (type_unique h hencode) htype

lemma failure_encodes {status : ResponseStatus} {pageIndex : UInt32} (hid:r≠0)
 (hpage:pageIndex<kMaximumPageCount)
 (hfailed:isSuccess status=false ∧ status≠.workerStartFailed):
 ∃ frame,encodePreviewResponse (failureResponse r status pageIndex)=.ok frame ∧
  frame.length=failureFrameBytes:=by
 have hempty:AsciiText.validUtf8 []=true:=rfl
 have hvalid:validResponse (failureResponse r status pageIndex)=true:=by
  simp [validResponse,failureResponse,WorkerStartupDiagnostic.valid,
   WorkerStartupDiagnostic.present,hfailed.1,hfailed.2,hid,bareResponse,hpage,validText,
   validFingerprint,AsciiText.validUtf8WithoutNul,hempty]
 have hpayload:(responsePayload (failureResponse r status pageIndex)).length=34:=by
  simp only [responsePayload,appendFields,responseFields,failureResponse,List.append_nil,
   List.length_append,appendInteger_length]
  rfl
 simp only [encodePreviewResponse,bind_unit_eq_ok,require_eq_ok,makeFrame_iff]
 refine ⟨_,⟨hvalid,?_,rfl⟩,?_⟩
 · rw [hpayload]
   decide
 · rw [List.length_append,appendHeader_length,hpayload]
   rfl

namespace Service
variable {around : Surroundings} {service : Service} {connection : Connection}
 {owed : List RequestId}

/-- What `reset_client` leaves. -/
structure Shut (service : Service) : Prop where
 socket : service.socket=none
 authenticated : service.authenticated=false
 scheduler : service.scheduler=.new kMaximumQueuedRequests
 pendingRequests : service.pendingRequests=[]

lemma resetClient_shut (service : Service) : Shut service.resetClient := ⟨rfl,rfl,rfl,rfl⟩

lemma closeClient_shut (service : Service) (n : Bool) : Shut (service.closeClient n):=by
 have hreset:=service.resetClient_shut
 cases hnotified:service.socket.isSome && service.authenticated && n with
 | true=>
  simp only [closeClient,hnotified,if_true]
  exact ⟨hreset.socket,hreset.authenticated,hreset.scheduler,hreset.pendingRequests⟩
 | false=>
  simp only [closeClient,hnotified,Bool.false_eq_true,if_false]
  exact hreset

def sending (service : Service) (connection : Connection) (frames : List Bytes) : Service:=
 { service with socket:=some { connection with sent:=connection.sent++frames } }

lemma writeFrame_open (hsocket:service.socket=some connection) (frame : Bytes):
 service.writeFrame around frame=
  if (around.writes connection.sent.length).fits frame.length then
   (true,service.sending connection [frame])
  else (false,service.closeClient true):=by
 simp only [writeFrame,hsocket,Write.fits,gt_iff_lt]
 by_cases hroom:
   (around.writes connection.sent.length).unsent+frame.length≤kMaximumQueuedOutputBytes
 · rw [if_neg (Nat.not_lt.mpr hroom)]
   by_cases htaken:(around.writes connection.sent.length).taken=true
   · simp [htaken,hroom,sending]
   · simp [htaken]
 · rw [if_pos (Nat.lt_of_not_le hroom)]
   simp [hroom]

lemma writeFrame_shut (hsocket:service.socket=none) (frame : Bytes):
 service.writeFrame around frame=(false,service.closeClient true):=by
 rw [writeFrame,hsocket]

lemma writeFrame_failed {frame : Bytes} (h:(service.writeFrame around frame).1=false):
 Shut (service.writeFrame around frame).2:=by
 cases hsocket:service.socket with
 | none=>
  rw [writeFrame_shut hsocket]
  exact service.closeClient_shut true
 | some connection=>
  rw [writeFrame_open hsocket] at h ⊢
  cases hfits:(around.writes connection.sent.length).fits frame.length with
  | true=>simp [hfits] at h
  | false=>exact service.closeClient_shut true

lemma writeFrame_cases (hsocket:service.socket=some connection) (frame : Bytes):
 service.writeFrame around frame=(true,service.sending connection [frame]) ∨
  ((service.writeFrame around frame).1=false ∧ Shut (service.writeFrame around frame).2):=by
 rw [writeFrame_open hsocket]
 split
 · exact .inl rfl
 · exact .inr ⟨rfl,service.closeClient_shut true⟩

lemma writeResponse_cases (hsocket:service.socket=some connection)
 (resp : PreviewResponse):
 (∃ frame,answeredId frame=some resp.requestId ∧
  service.writeResponse around resp=(true,service.sending connection [frame])) ∨
  ((service.writeResponse around resp).1=false ∧
   Shut (service.writeResponse around resp).2):=by
 have hwrite:∀frame,answeredId frame=some resp.requestId →
   (∃ frame',answeredId frame'=some resp.requestId ∧
    service.writeFrame around frame=(true,service.sending connection [frame'])) ∨
    ((service.writeFrame around frame).1=false ∧ Shut (service.writeFrame around frame).2):=by
  intro frame hid
  cases writeFrame_cases hsocket frame with
  | inl hsent=>exact .inl ⟨frame,hid,hsent⟩
  | inr hshut=>exact .inr hshut
 unfold writeResponse
 cases hencode:encodePreviewResponse resp with
 | ok frame=>exact hwrite frame (response_answers hencode)
 | error thrown=>
  by_cases hinternal:resp.status=.internalError
  · simp only [if_pos hinternal]
    exact .inr ⟨trivial,service.closeClient_shut true⟩
  · simp only [if_neg hinternal]
    cases hagain:encodePreviewResponse
      (failureResponse resp.requestId .internalError resp.pageIndex) with
    | ok frame=>
     have hid:=response_answers hagain
     exact hwrite frame hid
    | error again=>exact .inr ⟨rfl,service.closeClient_shut true⟩

lemma writeResponse_shut (hsocket:service.socket=none) (resp : PreviewResponse):
 Shut (service.writeResponse around resp).2:=by
 have hclosed:=service.closeClient_shut true
 unfold writeResponse
 cases encodePreviewResponse resp with
 | ok frame=>simpa only [writeFrame_shut hsocket] using hclosed
 | error thrown=>
  by_cases hinternal:resp.status=.internalError
  · simpa only [if_pos hinternal] using hclosed
  · simp only [if_neg hinternal]
    cases encodePreviewResponse
      (failureResponse resp.requestId .internalError resp.pageIndex) with
    | ok frame=>simpa only [writeFrame_shut hsocket] using hclosed
    | error again=>exact hclosed

lemma writeCancelled (hsocket:service.socket=some connection) {request : PreviewRequest}
 (hvalid:validRequest request=true):
 ∃ frame,answeredId frame=some request.requestId ∧ service.writeResponse around
    (failureResponse request.requestId .cancelled request.pageIndex)=
   if (around.writes connection.sent.length).fits failureFrameBytes then
    (true,service.sending connection [frame])
   else (false,service.closeClient true):=by
 simp only [validRequest,decide_eq_true_eq] at hvalid
 obtain ⟨hid,-,-,-,-,-,hpage,-⟩:=hvalid
 have hfailed:isSuccess .cancelled=false ∧ ResponseStatus.cancelled≠.workerStartFailed:=by
  decide
 obtain ⟨frame,hencode,hlength⟩:=failure_encodes hid hpage hfailed
 refine ⟨frame,response_answers hencode,?_⟩
 rw [writeResponse,hencode]
 simp only
 rw [writeFrame_open hsocket,hlength]

/-- The scheduler and the table wait for the same requests. Of the requests read from the open
connection, the owed ones are in neither and are not answered yet. -/
structure Owes (owed : List RequestId) (service : Service) : Prop where
 consistent : Consistent service.scheduler
 entries : ∀entry∈service.pendingRequests,
  entry.1=entry.2.requestId ∧ validRequest entry.2=true
 books : service.scheduler.requests.Perm
  (service.pendingRequests.map fun entry=>scheduled entry.2)
 accounts : ∀connection,service.socket=some connection →
  (connection.answered++(owed++service.keys)).Perm connection.received
 shut : service.socket=none → service.authenticated=false
 idle : service.authenticated=false → service.pendingRequests=[]

def Sound (service : Service) : Prop := Owes [] service

lemma shut_owes (h:Shut service) (owed : List RequestId) : Owes owed service:=by
 constructor
 · rw [h.scheduler]
   exact consistent_new kMaximumQueuedRequests
 · rw [h.pendingRequests]
   intro entry hentry
   cases hentry
 · rw [h.scheduler,h.pendingRequests]
   rfl
 · rw [h.socket]
   intro connection hsocket
   cases hsocket
 · intro hsocket
   exact h.authenticated
 · intro hidle
   exact h.pendingRequests

section
variable (h:Owes owed service)
include h

lemma keys_scheduled:
 service.keys=(service.pendingRequests.map fun entry=>scheduled entry.2).map (·.jobId):=by
 rw [keys,List.map_map]
 apply List.map_congr_left
 intro entry hentry
 exact (h.entries entry hentry).1

lemma keys_perm : service.keys.Perm service.scheduler.jobIds:=by
 rw [keys_scheduled h,←ThumbnailScheduler.requests_jobIds]
 exact (h.books.map _).symm

lemma keys_nodup : service.keys.Nodup := (keys_perm h).nodup_iff.mpr h.consistent.distinct

lemma Owes.socket_of_authenticated
 (hauthenticated:service.authenticated=true):
 ∃ connection,service.socket=some connection:=by
 cases hsocket:service.socket with
 | none=>exact absurd ((h.shut hsocket).symm.trans hauthenticated) Bool.false_ne_true
 | some connection=>exact ⟨connection,rfl⟩

lemma sending_quiet (hsocket:service.socket=some connection)
 {frame : Bytes} (hquiet:answeredId frame=none):
 Owes owed (service.sending connection [frame]) := { h with
  accounts:=by
   intro other hother
   rw [←Option.some.inj hother]
   have hsame:=h.accounts connection hsocket
   have hkeys:(service.sending connection [frame]).keys=service.keys:=rfl
   simpa [Connection.answered,List.filterMap_append,hkeys,hquiet] using hsame
  shut:=fun hclosed=>by cases hclosed }

end

lemma sending_answer (h:Owes (r::owed) service)
 (hsocket:service.socket=some connection) {frame : Bytes}
 (hanswer:answeredId frame=some r):
 Owes owed (service.sending connection [frame]) := { h with
  accounts:=by
   intro other hother
   rw [←Option.some.inj hother]
   have hsame:=h.accounts connection hsocket
   have hkeys:(service.sending connection [frame]).keys=service.keys:=rfl
   simpa [Connection.answered,List.filterMap_append,hkeys,hanswer] using hsame
  shut:=fun hclosed=>by cases hclosed }

lemma writeFrame_owes (h:Owes owed service) {frame : Bytes}
 (hquiet:answeredId frame=none) : Owes owed (service.writeFrame around frame).2:=by
 cases hsocket:service.socket with
 | none=>
  rw [writeFrame_shut hsocket]
  exact shut_owes (service.closeClient_shut true) owed
 | some connection=>
  cases writeFrame_cases hsocket frame with
  | inl hsent=>
   rw [hsent]
   exact sending_quiet h hsocket hquiet
  | inr hshut=>exact shut_owes hshut.2 owed

lemma writeResponse_owes (h:Owes (resp.requestId::owed) service):
 Owes owed (service.writeResponse around resp).2:=by
 cases hsocket:service.socket with
 | none=>exact shut_owes (writeResponse_shut hsocket resp) owed
 | some connection=>
  cases writeResponse_cases hsocket resp with
  | inl hsent=>
   obtain ⟨frame,hanswer,hsent⟩:=hsent
   rw [hsent]
   exact sending_answer h hsocket hanswer
  | inr hshut=>exact shut_owes hshut.2 owed

lemma owes_same {after : Service} (h:Owes owed service)
 (hsocket:after.socket=service.socket)
 (hauthenticated:after.authenticated=service.authenticated)
 (hscheduler:after.scheduler=service.scheduler)
 (hpending:after.pendingRequests=service.pendingRequests) : Owes owed after:=by
 have hkeys:after.keys=service.keys:=congrArg (List.map Prod.fst) hpending
 constructor
 · rw [hscheduler]
   exact h.consistent
 · rw [hpending]
   exact h.entries
 · rw [hscheduler,hpending]
   exact h.books
 · rw [hsocket,hkeys]
   exact h.accounts
 · rw [hsocket,hauthenticated]
   exact h.shut
 · rw [hauthenticated,hpending]
   exact h.idle

lemma scheduleProcessing_owes (h:Owes owed service):
 Owes owed (service.scheduleProcessing around):=by
 unfold scheduleProcessing
 cases hsocket:service.socket with
 | none=>exact h
 | some connection=>
  simp only
  split
  · exact h
  · exact owes_same h hsocket.symm rfl rfl rfl

lemma recordCacheMaintenance_owes (h:Owes owed service) (result : CachePrune.PruneResult):
 Owes owed (service.recordCacheMaintenance result):=
 owes_same h rfl rfl rfl rfl

lemma received_owes (h:Owes owed service) (r : RequestId):
 Owes (r::owed) (service.received r) := { h with
  accounts:=by
   intro connection hsocket
   obtain ⟨before,hbefore,rfl⟩:=Option.map_eq_some_iff.mp hsocket
   have hsame:=h.accounts before hbefore
   have hmiddle:(before.answered++((r::owed)++service.keys)).Perm
     (r::(before.answered++(owed++service.keys))) := List.perm_middle
   have hend:(before.received++[r]).Perm (r::before.received):=List.perm_append_singleton _ _
   exact hmiddle.trans ((hsame.cons r).trans hend.symm)
  shut:=fun hsocket=>h.shut (Option.map_eq_none_iff.mp hsocket) }

lemma find_entry (hdistinct:service.keys.Nodup) {entry : RequestId × PreviewRequest}
 (hentry:entry∈service.pendingRequests) : service.find entry.1=some entry:=by
 cases hfind:service.find entry.1 with
 | none=>
  have hnone:=List.find?_eq_none.mp hfind entry hentry
  simp at hnone
 | some found=>
  have hfound:=List.mem_of_find?_eq_some hfind
  have hid:=List.find?_some hfind
  rw [List.inj_on_of_nodup_map hdistinct hfound hentry (of_decide_eq_true hid)]

lemma erase_perm (h:Owes owed service) {entry : RequestId × PreviewRequest}
 (hentry:entry∈service.pendingRequests):
 service.pendingRequests.Perm (entry::(service.erase entry.1).pendingRequests):=by
 obtain ⟨front,back,hsplit⟩:=List.append_of_mem hentry
 have hdistinct:=keys_nodup h
 simp only [keys,hsplit,List.map_append,List.map_cons,List.nodup_middle,List.nodup_cons,
  List.mem_append,List.mem_map,not_or,not_exists,not_and] at hdistinct
 have hfront:front.filter (·.1≠entry.1)=front:=by
  rw [List.filter_eq_self]
  intro other hother
  exact decide_eq_true (hdistinct.1.1 other hother)
 have hback:back.filter (·.1≠entry.1)=back:=by
  rw [List.filter_eq_self]
  intro other hother
  exact decide_eq_true (hdistinct.1.2 other hother)
 have herased:(service.erase entry.1).pendingRequests=front++back:=by
  simp only [erase,hsplit,List.filter_append,List.filter_cons,hfront,hback]
  simp
 rw [herased,hsplit]
 exact List.perm_middle

lemma entry_of_request (h:Owes owed service) {request : ThumbnailRequest}
 {left : List ThumbnailRequest} (hrequests:service.scheduler.requests.Perm (request::left)):
 ∃ entry∈service.pendingRequests,entry.1=request.jobId ∧
  service.find request.jobId=some entry ∧
  left.Perm ((service.erase entry.1).pendingRequests.map fun entry=>scheduled entry.2) ∧
  service.keys.Perm (entry.1::(service.erase entry.1).keys):=by
 have hmem:=h.books.subset (hrequests.symm.subset List.mem_cons_self)
 obtain ⟨entry,hentry,rfl⟩:=List.mem_map.mp hmem
 have hid:entry.1=(scheduled entry.2).jobId:=(h.entries entry hentry).1
 have hsplit:=erase_perm h hentry
 have hbooks:=hrequests.symm.trans (h.books.trans (hsplit.map _))
 refine ⟨entry,hentry,hid,?_,hbooks.cons_inv,hsplit.map _⟩
 rw [←hid]
 exact find_entry (keys_nodup h) hentry

lemma erase_entries (h:Owes owed service) (r : RequestId):
 ∀entry∈(service.erase r).pendingRequests,
  entry.1=entry.2.requestId ∧ validRequest entry.2=true:=
 fun entry hentry=>h.entries entry (List.mem_of_mem_filter hentry)

section Outcomes
variable {α : Type} {view : α → Service} {c condition : Prop} {outcome : Except Fault α}

/-- A handler returns where the condition holds, and leaves the books balanced; elsewhere it looks
up what is gone. -/
structure Keeps (view : α → Service) (condition : Prop) (outcome : Except Fault α) : Prop where
 sound : ∀result,outcome=.ok result → Sound (view result)
 returns : condition ↔ ∃ result,outcome=.ok result

lemma Keeps.congr {other : Prop} (h:Keeps view c outcome)
 (hcondition:other ↔ c) : Keeps view other outcome:=
 ⟨h.sound,hcondition.trans h.returns⟩

lemma keeps_ok {result : α} (hcondition:c) (hsound:Sound (view result)):
  Keeps view c (.ok result) where
 sound:=by
  intro other hother
  cases hother
  exact hsound
 returns:=⟨fun _=>⟨result,rfl⟩,fun _=>hcondition⟩

lemma keeps_error {fault : Fault} (hcondition:¬c) : Keeps view c (.error fault) where
 sound:=by
  intro other hother
  cases hother
 returns:=by
  constructor
  · intro h
    exact absurd h hcondition
  · intro h
    obtain ⟨other,hother⟩:=h
    cases hother

lemma Keeps.bind {β : Type} {next : α → Except Fault β} {after : β → Service}
  (h:Keeps view c outcome)
  (hnext:∀result,outcome=.ok result → Keeps after True (next result)):
  Keeps after c (outcome >>= next) where
 sound:=by
  intro result hresult
  obtain ⟨middle,hmiddle,hlast⟩:=(bind_eq_ok _ _ _).mp hresult
  exact (hnext middle hmiddle).sound result hlast
 returns:=by
  rw [h.returns]
  constructor
  · intro hmiddle
    obtain ⟨middle,hmiddle⟩:=hmiddle
    obtain ⟨result,hresult⟩:=(hnext middle hmiddle).returns.mp trivial
    exact ⟨result,(bind_eq_ok _ _ _).mpr ⟨middle,hmiddle,hresult⟩⟩
  · intro hresult
    obtain ⟨result,hresult⟩:=hresult
    obtain ⟨middle,hmiddle,-⟩:=(bind_eq_ok _ _ _).mp hresult
    exact ⟨middle,hmiddle⟩

end Outcomes

section Submission
variable {request : PreviewRequest}

lemma insert_sound (h:Owes [request.requestId] service)
 (hvalid:validRequest request=true) (hauthenticated:service.authenticated=true)
 {scheduler : ThumbnailScheduler} (hconsistent:Consistent scheduler)
 (hfresh:request.requestId∉service.keys)
 (hrequests:scheduler.requests.Perm (scheduled request ::
  service.pendingRequests.map fun entry=>scheduled entry.2)):
 Sound (({ service with scheduler }).insertOrAssign request.requestId request):=by
 have hothers:service.pendingRequests.filter (·.1≠request.requestId)=
   service.pendingRequests:=by
  rw [List.filter_eq_self]
  intro entry hentry
  apply decide_eq_true
  intro hsame
  exact hfresh (hsame ▸ List.mem_map_of_mem hentry)
 have hpending:(({ service with scheduler }).insertOrAssign request.requestId
   request).pendingRequests=(request.requestId,request)::service.pendingRequests:=
  congrArg (List.cons (request.requestId,request)) hothers
 constructor
 · exact hconsistent
 · rw [hpending]
   intro entry hentry
   cases List.mem_cons.mp hentry with
   | inl hnew=>
    rw [hnew]
    exact ⟨rfl,hvalid⟩
   | inr hold=>exact h.entries entry hold
 · rw [hpending]
   exact hrequests
 · intro connection hsocket
   have hkeys:(({ service with scheduler }).insertOrAssign request.requestId request).keys=
     request.requestId::service.keys := congrArg (List.map Prod.fst) hpending
   rw [hkeys]
   exact h.accounts connection hsocket
 · intro hsocket
   exact h.shut hsocket
 · intro hidle
   exact absurd (hidle.symm.trans hauthenticated) Bool.false_ne_true

lemma release_owes (h:Owes owed service) {entry : RequestId × PreviewRequest}
  {scheduler : ThumbnailScheduler}
  (hconsistent:Consistent scheduler)
  (hbooks:scheduler.requests.Perm
   ((service.erase entry.1).pendingRequests.map fun entry=>scheduled entry.2))
  (hkeys:service.keys.Perm (entry.1::(service.erase entry.1).keys)):
  Owes (entry.1::owed) { service.erase entry.1 with scheduler } where
 consistent:=hconsistent
 entries:=erase_entries h entry.1
 books:=hbooks
 accounts:=by
  intro connection hsocket
  have hbefore:=h.accounts connection hsocket
  have howed:(owed++service.keys).Perm
    (entry.1::(owed++(service.erase entry.1).keys)):=
   (hkeys.append_left owed).trans List.perm_middle
  exact ((howed.symm).append_left connection.answered).trans hbefore
 shut:=h.shut
 idle:=fun hidle=>by
  have hempty:=h.idle hidle
  simp only [erase,hempty,List.filter_nil]

def MakesRoom (around : Surroundings) (service : Service) (request : PreviewRequest) : Prop:=
 ∀connection,service.socket = some connection →
  (service.scheduler.submit (scheduled request)).1.evictedJob.isSome →
  (around.writes connection.sent.length).fits failureFrameBytes = true

lemma pushBack_requests (scheduler : ThumbnailScheduler) (pushed : ThumbnailRequest):
 (scheduler.pushBack pushed).requests.Perm (pushed::scheduler.requests):=by
 simp only [ThumbnailScheduler.requests,ThumbnailScheduler.pushBack,List.map_append,
  List.map_cons,List.map_nil]
 exact List.perm_append_singleton _ _

lemma without_requests {scheduler : ThumbnailScheduler} {front back : List PendingRequest}
 {erased : PendingRequest} (hpending:scheduler.pending=front++erased::back):
 scheduler.requests.Perm
  (erased.request::(scheduler.without erased (front++back)).requests):=by
 simp only [ThumbnailScheduler.requests,ThumbnailScheduler.without,hpending,List.map_append,
  List.map_cons]
 exact List.perm_middle

lemma fresh_key (h:Owes owed service) {r : RequestId}
 (hfresh:r∉service.scheduler.pendingJobIds) : r∉service.keys:=by
 intro hmem
 exact hfresh ((h.consistent.ids r).mpr ((keys_perm h).subset hmem))

lemma answerEvicted_open (hsocket:service.socket=some connection)
 {job : JobId} {entry : RequestId × PreviewRequest} (hfind:service.find job=some entry)
 (hown:entry.1=entry.2.requestId) (hvalid:validRequest entry.2=true):
 ∃ frame,answeredId frame=some entry.1 ∧ service.answerEvicted around (some job)=
   if (around.writes connection.sent.length).fits failureFrameBytes then
    .ok ((service.sending connection [frame]).erase entry.1)
   else .error .invalidIterator:=by
 obtain ⟨frame,hanswer,hwrite⟩:=@writeCancelled around service connection hsocket entry.2 hvalid
 rw [←hown] at hanswer hwrite
 refine ⟨frame,hanswer,?_⟩
 simp only [answerEvicted,hfind,hwrite]
 cases (around.writes connection.sent.length).fits failureFrameBytes with
 | true=>
  have hentry:entry∈(service.sending connection [frame]).pendingRequests:=
   List.mem_of_find?_eq_some hfind
  simp only [if_true,eraseEntry,if_pos hentry]
 | false=>
  have hgone:entry∉(service.closeClient true).pendingRequests:=by
   rw [(service.closeClient_shut true).pendingRequests]
   exact List.not_mem_nil
  simp only [Bool.false_eq_true,if_false,eraseEntry,if_neg hgone]

lemma acceptRequest_keeps (h:Owes [request.requestId] service)
 (hvalid:validRequest request=true) (hauthenticated:service.authenticated=true):
 Keeps Prod.snd (MakesRoom around service request) (service.acceptRequest around request):=by
 have hmoves:=ThumbnailScheduler.submit_moves h.consistent (scheduled request)
 have hconsistent:=ThumbnailScheduler.consistent_moves h.consistent hmoves
 unfold MakesRoom acceptRequest
 generalize service.scheduler.submit (scheduled request)=outcome at hmoves hconsistent ⊢
 obtain ⟨submitted,scheduler⟩:=outcome
 simp only at hmoves hconsistent ⊢
 cases hmoves with
 | refused _ _ hresult=>
  simp only [hresult.1,hresult.2]
  apply keeps_ok
  · simp
  · exact writeResponse_owes h
 | queued _ hlive hfresh hroom=>
  apply keeps_ok
  · simp
  · apply scheduleProcessing_owes
    apply insert_sound h hvalid hauthenticated hconsistent (fresh_key h hfresh)
    exact (pushBack_requests _ _).trans (h.books.cons (scheduled request))
 | evicted _ front back worst hlive hfresh hpending=>
  have hrequests:=without_requests hpending
  obtain ⟨entry,hentry,hid,hfind,hbooks,hkeys⟩:=entry_of_request h hrequests
  have howes:=release_owes h (ThumbnailScheduler.consistent_without h.consistent hpending)
   hbooks hkeys
  obtain ⟨hown,hentryValid⟩:=h.entries entry hentry
  obtain ⟨connection,hsocket⟩:=h.socket_of_authenticated hauthenticated
  obtain ⟨frame,hanswer,hevicted⟩:=
   @answerEvicted_open around { service with
    scheduler:=(service.scheduler.without worst (front++back)).pushBack
     (scheduled request) } connection hsocket _ entry hfind hown hentryValid
  change Keeps Prod.snd _ (Service.answerEvicted around _ (some worst.request.jobId) >>= _)
  rw [hevicted]
  cases hfits:(around.writes connection.sent.length).fits failureFrameBytes with
  | true=>
   apply keeps_ok
   · intro other hother hevicts
     rw [Option.some.inj (hother.symm.trans hsocket),hfits]
   · dsimp only
     apply scheduleProcessing_owes
     have hroom:=sending_answer howes hsocket hanswer
     have hfreshKey:request.requestId∉(service.erase entry.1).keys:=by
      intro hmem
      exact fresh_key h hfresh (hkeys.symm.subset (List.mem_cons_of_mem _ hmem))
     apply insert_sound hroom hvalid hauthenticated hconsistent hfreshKey
     exact (pushBack_requests _ _).trans (hbooks.cons (scheduled request))
  | false=>
   apply keeps_error
   intro hroom
   have hfit:=hroom connection hsocket rfl
   rw [hfits] at hfit
   cases hfit

end Submission

/-- The connection takes all answers but the last of so many. -/
def TakesAnswers (around : Surroundings) (written count : ℕ) : Prop:=
 ∀index,index+1 < count → (around.writes (written+index)).fits failureFrameBytes = true

lemma takesAnswers_cons (written count : ℕ) : TakesAnswers around written (count+1) ↔
 (count≠0 → (around.writes written).fits failureFrameBytes=true) ∧
  TakesAnswers around (written+1) count:=by
 constructor
 · intro h
   constructor
   · intro hmore
     exact h 0 (by omega)
   · intro index hindex
     have hnext:=h (index+1) (by omega)
     rwa [show written+(index+1)=written+1+index by omega] at hnext
 · intro h index hindex
   cases index with
   | zero=>exact h.1 (by omega)
   | succ index=>
    have hnext:=h.2 index (by omega)
    rwa [show written+1+index=written+(index+1) by omega] at hnext

/-- The session after the loop over these ids has answered them all. -/
def answering (service : Service) (connection : Connection) (frames : List Bytes)
  (requestIds : List RequestId) : Service:=
 { service.sending connection frames with
   pendingRequests:=service.pendingRequests.filter (·.1 ∉ requestIds) }

lemma answering_nil (hsocket:service.socket=some connection):
 service.answering connection [] []=service:=by
 simp [answering,sending,←hsocket]

lemma answering_cons (frame : Bytes) (f : List Bytes) (r : RequestId)
 (requestIds : List RequestId):
 ((service.erase r).sending connection [frame]).answering
   { connection with sent:=connection.sent++[frame] } f requestIds=
  service.answering connection (frame::f) (r::requestIds):=by
 have hfilter:(service.pendingRequests.filter (·.1≠r)).filter (·.1∉requestIds)=
   service.pendingRequests.filter (·.1∉r::requestIds):=by
  rw [List.filter_filter]
  apply List.filter_congr
  intro entry _
  simp [Bool.and_comm]
 simp only [answering,sending,erase,hfilter,List.append_assoc,List.singleton_append]

lemma answerCancelled_shut (h:Shut service) (requestIds : List RequestId):
 service.answerCancelled around requestIds=
  if requestIds=[] then .ok service else .error .outOfRange:=by
 cases requestIds with
 | nil=>rfl
 | cons r rest=>
  have hnone:service.find r=none:=by
   simp [find,h.pendingRequests]
  rw [if_neg (List.cons_ne_nil _ _)]
  simp only [answerCancelled,hnone]

lemma answerCancelled_open (requestIds : List RequestId):
 ∀ (service : Service) (connection : Connection),service.socket=some connection →
  service.keys.Nodup → requestIds.Nodup →
  (∀r∈requestIds,∃ entry∈service.pendingRequests,
   entry.1=r ∧ r=entry.2.requestId ∧ validRequest entry.2=true) →
  (TakesAnswers around connection.sent.length requestIds.length ∧
   ∃ after,service.answerCancelled around requestIds=.ok after ∧
    (Shut after ∨ ∃ f,f.filterMap answeredId=requestIds ∧
     after=service.answering connection f requestIds)) ∨
  (¬TakesAnswers around connection.sent.length requestIds.length ∧
   service.answerCancelled around requestIds=.error .outOfRange):=by
 induction requestIds with
 | nil=>
  intro service connection hsocket hkeys hdistinct hentries
  apply Or.inl
  refine ⟨?_,service,rfl,.inr ⟨[],rfl,(answering_nil hsocket).symm⟩⟩
  intro index hindex
  exact absurd hindex (by simp)
 | cons r rest ih=>
  intro service connection hsocket hkeys hdistinct hentries
  obtain ⟨entry,hentry,hid,hown,hvalid⟩:=hentries r List.mem_cons_self
  have hfind:service.find r=some entry:=hid ▸ find_entry hkeys hentry
  have hsocketErased:(service.erase r).socket=some connection:=hsocket
  obtain ⟨frame,hanswer,hwrite⟩:=
   @writeCancelled around (service.erase r) connection hsocketErased entry.2 hvalid
  rw [←hown] at hanswer hwrite
  simp only [answerCancelled,hfind,hwrite,List.length_cons,takesAnswers_cons]
  cases hfits:(around.writes connection.sent.length).fits failureFrameBytes with
  | true=>
   have hrest:=List.nodup_cons.mp hdistinct
   have hkeysErased:((service.erase r).sending connection [frame]).keys.Nodup:=
    hkeys.sublist (List.filter_sublist.map _)
   have hentriesErased:∀other∈rest,
     ∃ entry∈((service.erase r).sending connection [frame]).pendingRequests,
      entry.1=other ∧ other=entry.2.requestId ∧ validRequest entry.2=true:=by
    intro other hother
    obtain ⟨found,hfound,hsame,howns⟩:=hentries other (List.mem_cons_of_mem _ hother)
    refine ⟨found,List.mem_filter.mpr ⟨hfound,decide_eq_true ?_⟩,hsame,howns⟩
    intro hequal
    exact hrest.1 (hequal ▸ hsame ▸ hother)
   have hloop:=ih ((service.erase r).sending connection [frame])
    { connection with sent:=connection.sent++[frame] } rfl hkeysErased hrest.2
    hentriesErased
   simp only [List.length_append,List.length_singleton] at hloop
   simp only [if_true,implies_true,true_and]
   cases hloop with
   | inl hreturns=>
    obtain ⟨htakes,after,hafter,hend⟩:=hreturns
    refine .inl ⟨htakes,after,hafter,?_⟩
    cases hend with
    | inl hshut=>exact .inl hshut
    | inr hanswered=>
     obtain ⟨f,hframes,rfl⟩:=hanswered
     apply Or.inr
     refine ⟨frame::f,?_,answering_cons frame f r rest⟩
     simp only [List.filterMap_cons,hanswer,hframes]
   | inr hfaults=>exact .inr hfaults
  | false=>
   have hshut:=(service.erase r).closeClient_shut true
   simp only [Bool.false_eq_true,if_false,answerCancelled_shut hshut]
   cases rest with
   | nil=>
    apply Or.inl
    refine ⟨⟨by simp,?_⟩,_,rfl,.inl hshut⟩
    intro index hindex
    exact absurd hindex (by simp)
   | cons next rest=>
    apply Or.inr
    simp

lemma cancelledRequests_perm (around : Surroundings) (service : Service)
 (generation : RequestGeneration):
 (service.cancelledRequests around generation).Perm
  ((service.pendingRequests.filter (·.2.generation=generation)).map Prod.fst):=
 List.perm_insertionSort _ _

def TakesCancelled (around : Surroundings) (service : Service)
  (generation : RequestGeneration) : Prop:=
 ∀connection,service.socket = some connection → TakesAnswers around connection.sent.length
   (service.pendingRequests.countP (·.2.generation = generation))

lemma cancelled_sound (h:Sound service) (hsocket:service.socket=some connection)
 (hauthenticated:service.authenticated=true) (generation : RequestGeneration)
 {f : List Bytes}
 (hframes:f.filterMap answeredId=service.cancelledRequests around generation):
 Sound (Service.answering
  { service with scheduler:=(service.scheduler.cancelGeneration generation).2 } connection
  f (service.cancelledRequests around generation)):=by
 have hperm:=cancelledRequests_perm around service generation
 have hkept:service.pendingRequests.filter
    (·.1∉service.cancelledRequests around generation)=
   service.pendingRequests.filter (·.2.generation≠generation):=by
  apply List.filter_congr
  intro entry hentry
  have hmem:entry.1∈service.cancelledRequests around generation ↔
    entry.2.generation=generation:=by
   rw [hperm.mem_iff]
   constructor
   · intro hcancelled
     obtain ⟨other,hother,hsame⟩:=List.mem_map.mp hcancelled
     obtain ⟨hpending,hgeneration⟩:=List.mem_filter.mp hother
     rw [←List.inj_on_of_nodup_map (keys_nodup h) hpending hentry hsame]
     exact of_decide_eq_true hgeneration
   · intro hgeneration
     exact List.mem_map_of_mem (List.mem_filter.mpr ⟨hentry,decide_eq_true hgeneration⟩)
  simp only [hmem,ne_eq]
 constructor
 · exact ThumbnailScheduler.consistent_cancel h.consistent generation
 · intro entry hentry
   exact h.entries entry (List.mem_of_mem_filter hentry)
 · simp only [answering,sending,hkept,ThumbnailScheduler.requests,
    ThumbnailScheduler.cancelGeneration_pending]
   have hbooks:=h.books.filter fun request=>request.generation≠generation
   simp only [ThumbnailScheduler.requests,List.filter_map,Function.comp_def] at hbooks
   exact hbooks
 · intro other hother
   rw [←Option.some.inj hother]
   have hkeys:service.keys.Perm (service.cancelledRequests around generation ++
     (service.pendingRequests.filter (·.2.generation≠generation)).map Prod.fst):=by
    have hsplit:=List.filter_append_perm
     (fun entry : RequestId × PreviewRequest=>decide (entry.2.generation=generation))
     service.pendingRequests
    have hmapped:=(hsplit.map Prod.fst).symm
    rw [List.map_append] at hmapped
    simpa [keys] using hmapped.trans (hperm.symm.append_right _)
   have hbefore:=h.accounts connection hsocket
   simp only [answering,sending,Connection.answered,List.filterMap_append,hframes,keys,hkept,
    List.nil_append,List.append_assoc]
   exact (hkeys.symm.append_left _).trans hbefore
 · intro hclosed
   cases hclosed
 · intro hidle
   exact absurd (hidle.symm.trans hauthenticated) Bool.false_ne_true

lemma cancelRequests_keeps (h:Sound service) (hauthenticated:service.authenticated=true)
 (generation : RequestGeneration):
 Keeps id (TakesCancelled around service generation)
  (service.cancelRequests around generation):=by
 obtain ⟨connection,hsocket⟩:=h.socket_of_authenticated hauthenticated
 have hperm:=cancelledRequests_perm around service generation
 have hcount:(service.cancelledRequests around generation).length=
   service.pendingRequests.countP (·.2.generation=generation):=by
  rw [hperm.length_eq,List.length_map,List.countP_eq_length_filter]
 have hdistinct:(service.cancelledRequests around generation).Nodup:=
  hperm.nodup_iff.mpr ((keys_nodup h).sublist (List.filter_sublist.map _))
 have hentries:∀r∈service.cancelledRequests around generation,
   ∃ entry∈service.pendingRequests,
    entry.1=r ∧ r=entry.2.requestId ∧ validRequest entry.2=true:=by
  intro r hrequest
  obtain ⟨entry,hentry,hid⟩:=List.mem_map.mp (hperm.subset hrequest)
  have hpending:=List.mem_of_mem_filter hentry
  obtain ⟨hown,hvalid⟩:=h.entries entry hpending
  exact ⟨entry,hpending,hid,hid ▸ hown,hvalid⟩
 have hcondition:TakesCancelled around service generation ↔
   TakesAnswers around connection.sent.length
    (service.cancelledRequests around generation).length:=by
  rw [hcount]
  constructor
  · intro htakes
    exact htakes connection hsocket
  · intro htakes other hother
    rw [←Option.some.inj (hsocket.symm.trans hother)]
    exact htakes
 have hkeys:=keys_nodup h
 have hloop:=@answerCancelled_open around (service.cancelledRequests around generation)
  { service with scheduler:=(service.scheduler.cancelGeneration generation).2 } connection
  hsocket hkeys hdistinct hentries
 rw [cancelRequests]
 cases hloop with
 | inl hreturns=>
  obtain ⟨htakes,after,hafter,hend⟩:=hreturns
  have hkeeps:Keeps id (TakesCancelled around service generation) (.ok after):=by
   apply keeps_ok (hcondition.mpr htakes)
   cases hend with
   | inl hshut=>exact shut_owes hshut []
   | inr hanswered=>
    obtain ⟨f,hframes,rfl⟩:=hanswered
    exact cancelled_sound h hsocket hauthenticated generation hframes
  rw [←hafter] at hkeeps
  exact hkeeps
 | inr hfaults=>
  have hkeeps:Keeps id (TakesCancelled around service generation)
    (.error .outOfRange : Except Fault Service):=
   keeps_error fun htakes=>hfaults.1 (hcondition.mp htakes)
  rw [←hfaults.2] at hkeeps
  exact hkeeps

section Handlers
variable {options : ServiceOptions}

lemma cacheResponse_encodes {resp : CacheResponse} (hid:resp.requestId≠0):
 ∃ frame,encodeCacheResponse resp=.ok frame ∧ answeredId frame=none:=by
 have hencode:∃ frame,encodeCacheResponse resp=.ok frame:=by
  simp only [encodeCacheResponse,bind_unit_eq_ok,require_eq_ok,makeFrame_iff,
   decide_eq_true hid,true_and]
  refine ⟨_,?_,rfl⟩
  simp only [List.length_append,appendInteger_length]
  decide
 obtain ⟨frame,hframe⟩:=hencode
 have hmessage:encode (.cacheResponse resp)=.ok frame:=hframe
 exact ⟨frame,hframe,other_answers hmessage MessageType.noConfusion⟩

lemma jobStarted_encodes {started : JobStarted} (hid:started.requestId≠0):
 ∃ frame,encodeJobStarted started=.ok frame ∧ answeredId frame=none:=by
 have hencode:∃ frame,encodeJobStarted started=.ok frame:=by
  simp only [encodeJobStarted,bind_unit_eq_ok,require_eq_ok,makeFrame_iff,
   decide_eq_true hid,true_and]
  exact ⟨_,Nat.zero_le _,rfl⟩
 obtain ⟨frame,hframe⟩:=hencode
 have hmessage:encode (.jobStarted started)=.ok frame:=hframe
 exact ⟨frame,hframe,other_answers hmessage MessageType.noConfusion⟩

lemma helloAck_encodes (options : ServiceOptions):
 ∃ frame,encodeHelloAck ⟨options.buildIdUtf8,options.authTokenUtf8⟩=.ok frame ∧
  answeredId frame=none:=by
 have hencode:
   ∃ frame,encodeHelloAck ⟨options.buildIdUtf8,options.authTokenUtf8⟩=.ok frame:=by
  have hvalid:=options.valid
  simp only [encodeHelloAck,encodeHelloLike,bind_unit_eq_ok,require_eq_ok,makeFrame_iff,
   hvalid,true_and]
  refine ⟨_,?_,rfl⟩
  simp only [validHelloFields,decide_eq_true_eq,validText_iff] at hvalid
  have hbuild:=hvalid.1.2.1
  have htoken:=hvalid.2.2.1
  simp only [kMaximumBuildIdBytes,kMaximumAuthTokenBytes] at hbuild htoken
  simp only [List.length_append,ScanCodec.appendString16_length,kMaximumFramePayloadBytes,
   kMaximumFrameBytes,frameHeaderBytes]
  omega
 obtain ⟨frame,hframe⟩:=hencode
 have hmessage:encode (.helloAck ⟨options.buildIdUtf8,options.authTokenUtf8⟩)=.ok frame:=hframe
 exact ⟨frame,hframe,other_answers hmessage MessageType.noConfusion⟩

lemma previewRequest_valid (h:decodePreviewRequest frame=.ok request):
 validRequest request=true:=by
 have hencode:=previewRequest_exact.mpr h
 simp only [encodePreviewRequest,bind_unit_eq_ok,require_eq_ok] at hencode
 exact hencode.1

lemma cacheRequest_valid {request : CacheRequest} (h:decodeCacheRequest frame=.ok request):
 request.requestId≠0:=by
 have hencode:=cacheRequest_exact.mpr h
 simp only [encodeCacheRequest,bind_unit_eq_ok,require_eq_ok,decide_eq_true_eq] at hencode
 exact hencode.1

lemma answerCacheRequest_keeps (h:Sound service) {request : CacheRequest}
 (hid:request.requestId≠0):
 Keeps Prod.snd True (service.answerCacheRequest around options request):=by
 unfold answerCacheRequest
 simp only
 generalize hlimits : (if request.operation=.clear then
   { options.diskCacheLimits with maximumEntries:=0,maximumBytes:=0 }
  else options.diskCacheLimits)=limits
 have hrecorded:=recordCacheMaintenance_owes h (around.prune limits true)
 generalize service.recordCacheMaintenance (around.prune limits true)=recorded at hrecorded ⊢
 generalize hresponse : (⟨request.requestId,_,around.diskStats.entries,
  around.diskStats.bytes⟩ : CacheResponse)=resp
 have hresponseId:resp.requestId≠0:=by
  rw [←hresponse]
  exact hid
 obtain ⟨frame,hframe,hquiet⟩:=cacheResponse_encodes hresponseId
 rw [hframe]
 exact keeps_ok trivial (writeFrame_owes hrecorded hquiet)

lemma authenticate_keeps (h:Sound service) (hsocket:service.socket=some connection)
 (frame : Bytes) : Keeps Prod.snd True (service.authenticate around options frame):=by
 unfold authenticate
 cases hhello:decodeHello frame with
 | error error=>exact keeps_ok trivial h
 | ok hello=>
  simp only
  split
  · exact keeps_ok trivial h
  · obtain ⟨ack,hack,hquiet⟩:=helloAck_encodes options
    rw [hack]
    have hopen:Sound { service with authenticated:=true }:=
     ⟨h.consistent,h.entries,h.books,h.accounts,
      fun hclosed=>absurd (hclosed.symm.trans hsocket) (by simp),fun hidle=>by cases hidle⟩
    exact keeps_ok trivial (writeFrame_owes hopen hquiet)

lemma disconnected_owes (h:Owes owed service) : Owes owed service.disconnected:=by
 have hreset:=service.resetClient_shut
 have hnotified:Shut service.resetClient.notifyClientDisconnected:=
  ⟨hreset.socket,hreset.authenticated,hreset.scheduler,hreset.pendingRequests⟩
 unfold disconnected
 cases service.socket with
 | none=>exact h
 | some connection=>
  cases service.authenticated with
  | true=>exact shut_owes hnotified owed
  | false=>exact shut_owes hreset owed

lemma published_owes (h:Owes owed service) (result : ThumbnailPipelineResult):
 Owes owed (service.published around options result):=by
 unfold published
 split
 · simp only
   split
   · exact owes_same h rfl rfl rfl rfl
   · exact owes_same h rfl rfl rfl rfl
 · exact h

lemma fetchPreview_owes (h:Owes owed service) (request : PreviewRequest):
 (service.fetchPreview around options request).1.requestId=request.requestId ∧
  Owes owed (service.fetchPreview around options request).2:=by
 unfold fetchPreview
 cases around.fetch (pipelineRequest request around.accessUnixNs) with
 | none=>exact ⟨rfl,h⟩
 | some result=>
  refine ⟨?_,published_owes h result⟩
  simp only [pipelineResponse]
  split
  · rfl
  · rfl

lemma processRequest_keeps (h:Owes [request.requestId] service) (hid:request.requestId≠0):
 Keeps id True (service.processRequest around options request):=by
 have hstarted:(⟨request.requestId⟩ : JobStarted).requestId≠0:=hid
 obtain ⟨frame,hframe,hquiet⟩:=jobStarted_encodes hstarted
 have howes:=@writeFrame_owes around service [request.requestId] h frame hquiet
 have hfailed:=@writeFrame_failed around service frame
 rw [processRequest,hframe]
 simp only [liftThrown,ok_bind]
 generalize service.writeFrame around frame=result at howes hfailed ⊢
 obtain ⟨written,service⟩:=result
 cases written with
 | false=>exact keeps_ok trivial (shut_owes (hfailed rfl) [])
 | true=>
  have hflushed:
    Owes [request.requestId] (if around.flushed then service else service.disconnected):=by
   cases around.flushed with
   | true=>exact howes
   | false=>exact disconnected_owes howes
  obtain ⟨hid,hfetched⟩:=@fetchPreview_owes around _ _ options hflushed request
  rw [←hid] at hfetched
  exact keeps_ok trivial (scheduleProcessing_owes (writeResponse_owes hfetched))

lemma processNext_keeps (h:Sound service):
 Keeps id True (service.processNext around options):=by
 have hidle:Sound { service with processingScheduled:=false } := owes_same h rfl rfl rfl rfl
 unfold processNext
 generalize { service with processingScheduled:=false }=waiting at hidle
 simp only
 split
 · exact keeps_ok trivial hidle
 · have hmoves:=ThumbnailScheduler.takeNext_moves waiting.scheduler
   have hconsistent:=ThumbnailScheduler.consistent_moves hidle.consistent hmoves
   generalize waiting.scheduler.takeNext=outcome at hmoves hconsistent ⊢
   obtain ⟨taken,scheduler⟩:=outcome
   simp only at hmoves hconsistent ⊢
   cases hmoves with
   | idle hpending=>exact keeps_ok trivial hidle
   | taken front back taken hpending holdest=>
    have hrequests:=without_requests hpending
    obtain ⟨entry,hentry,hid,hfind,hbooks,hkeys⟩:=entry_of_request hidle hrequests
    have howes:=release_owes hidle hconsistent hbooks hkeys
    obtain ⟨hown,hvalid⟩:=hidle.entries entry hentry
    simp only [validRequest,decide_eq_true_eq] at hvalid
    have hwaiting:Service.find { waiting with
      scheduler:=waiting.scheduler.dispatched taken (front++back) } taken.request.jobId=
       some entry := hfind
    rw [hown] at howes
    simp only [hwaiting,hown]
    exact processRequest_keeps howes hvalid.1

lemma makesRoom_received (r : RequestId) (request : PreviewRequest):
 MakesRoom around (service.received r) request ↔ MakesRoom around service request:=by
 unfold MakesRoom
 constructor
 · intro h connection hsocket
   exact h { connection with received:=connection.received++[r] }
    (by rw [received,hsocket]; rfl)
 · intro h connection hsocket
   obtain ⟨before,hbefore,rfl⟩:=Option.map_eq_some_iff.mp hsocket
   exact h before hbefore

/-- The connection takes the answers a frame makes the service write before it goes on. -/
def TakesFrame (around : Surroundings) (service : Service) (type : MessageType)
  (frame : Bytes) : Prop:=
 service.authenticated = true →
  (type = .previewRequest → ∀request,decodePreviewRequest frame = .ok request →
   MakesRoom around service request) ∧
  (type = .cancelGeneration → ∀cancel,decodeCancelGeneration frame = .ok cancel →
   TakesCancelled around service cancel.generation)

lemma dispatchFrame_keeps (h:Sound service) (hsocket:service.socket=some connection)
 (type : MessageType) (frame : Bytes):
 Keeps Prod.snd (TakesFrame around service type frame)
  (service.dispatchFrame around options type frame):=by
 unfold dispatchFrame TakesFrame
 cases hauthenticated:service.authenticated with
 | false=>
  simp only [Bool.false_eq_true,false_implies,Bool.not_false,if_true]
  split
  · exact authenticate_keeps h hsocket frame
  · exact keeps_ok trivial h
 | true=>
  simp only [Bool.not_true,Bool.false_eq_true,if_false,true_implies]
  cases type with
  | previewRequest=>
   cases hrequest:decodePreviewRequest frame with
   | error error=>exact keeps_ok (by simp) h
   | ok request=>
    have howes:=received_owes h request.requestId
    have hkeeps:=@acceptRequest_keeps around _ request howes (previewRequest_valid hrequest)
     hauthenticated
    apply hkeeps.congr
    simp [makesRoom_received]
  | cancelGeneration=>
   cases hcancel:decodeCancelGeneration frame with
   | error error=>exact keeps_ok (by simp) h
   | ok cancel=>
    have hkeeps:=@cancelRequests_keeps around _ h hauthenticated cancel.generation
    have hframe:Keeps Prod.snd (TakesCancelled around service cancel.generation)
      (do
       let service ← service.cancelRequests around cancel.generation
       pure (true,service)):=by
     apply hkeeps.bind
     intro after hafter
     exact keeps_ok trivial (hkeeps.sound after hafter)
    apply hframe.congr
    simp
  | cacheRequest=>
   cases hrequest:decodeCacheRequest frame with
   | error error=>exact keeps_ok (by simp) h
   | ok request=>
    apply (answerCacheRequest_keeps h (cacheRequest_valid hrequest)).congr
    simp
  | _=>exact keeps_ok (by simp) h

lemma frame_type {α : Type} {scanner : RequestId → ScanCodec.Scanner DecodeError α} {value : α}
 (h:ScanCodec.scanFrame (parseFrame frame type) scanner=.ok value):
 ∃ header,decodeHeader frame=.ok header ∧ MessageType.ofCode header.kind=some type:=by
 rw [ScanCodec.scanFrame,bind_pair_eq_ok] at h
 obtain ⟨r,payload,hparse,-⟩:=h
 rw [parseFrame,Checks.bind_eq_ok] at hparse
 obtain ⟨header,hheader,hrest⟩:=hparse
 simp only [bind_unit_eq_ok,require_eq_ok,decide_eq_true_eq] at hrest
 exact ⟨header,hheader,hrest.1⟩

/-- The connection takes all answers inside a handler that goes on after them: the one to the
request evicted for another, and those to cancelled requests but the last. -/
def Steady (around : Surroundings) (service : Service) : Event → Prop
 | .frame frame=>
  service.authenticated = true → (∀request,decodePreviewRequest frame = .ok request →
    MakesRoom around service request) ∧
   (∀cancel,decodeCancelGeneration frame = .ok cancel →
    TakesCancelled around service cancel.generation)
 | _=>True

lemma steady_unannounced (h:∀header type,decodeHeader frame=.ok header →
  MessageType.ofCode header.kind=some type → False):
 Steady around service (.frame frame):=by
 intro hauthenticated
 constructor
 · intro request hrequest
   obtain ⟨header,hheader,htype⟩:=frame_type hrequest
   exact (h header _ hheader htype).elim
 · intro cancel hcancel
   obtain ⟨header,hheader,htype⟩:=frame_type hcancel
   exact (h header _ hheader htype).elim

lemma steady_announced {header : ScanCodec.FrameHeader}
 (hheader:decodeHeader frame=.ok header) (htype:MessageType.ofCode header.kind=some type)
 :
 Steady around service (.frame frame) ↔ TakesFrame around service type frame:=by
 have hannounced:∀other : ScanCodec.FrameHeader,∀found,decodeHeader frame=.ok other →
   MessageType.ofCode other.kind=some found → type=found:=by
  intro other found hother hfound
  cases hheader.symm.trans hother
  exact Option.some.inj (htype.symm.trans hfound)
 constructor
 · intro h hauthenticated
   exact ⟨fun _=>(h hauthenticated).1,fun _=>(h hauthenticated).2⟩
 · intro h hauthenticated
   constructor
   · intro request hrequest
     obtain ⟨other,hother,hfound⟩:=frame_type hrequest
     exact (h hauthenticated).1 (hannounced other _ hother hfound) request hrequest
   · intro cancel hcancel
     obtain ⟨other,hother,hfound⟩:=frame_type hcancel
     exact (h hauthenticated).2 (hannounced other _ hother hfound) cancel hcancel

lemma consumeFrame_keeps (h:Sound service) (hsocket:service.socket=some connection)
 (frame : Bytes):
 Keeps id (Steady around service (.frame frame))
  (service.consumeFrame around options frame):=by
 have hclosed:Sound (service.closeClient true):=shut_owes (service.closeClient_shut true) []
 unfold consumeFrame
 cases hheader:decodeHeader frame with
 | error error=>
  have hsteady:Steady around service (.frame frame):=by
   apply steady_unannounced
   intro header type hother
   cases hheader.symm.trans hother
  exact keeps_ok hsteady hclosed
 | ok header=>
  simp only
  cases htype:MessageType.ofCode header.kind with
  | none=>
   have hsteady:Steady around service (.frame frame):=by
    apply steady_unannounced
    intro other type hother hfound
    cases hheader.symm.trans hother
    cases htype.symm.trans hfound
   exact keeps_ok hsteady hclosed
  | some type=>
   have hdispatch:=@dispatchFrame_keeps around service connection options h hsocket type frame
   apply Keeps.congr _ (steady_announced hheader htype)
   apply hdispatch.bind
   intro result hresult
   have hsound:=hdispatch.sound result hresult
   obtain ⟨accepted,after⟩:=result
   cases accepted with
   | true=>exact keeps_ok trivial hsound
   | false=>exact keeps_ok trivial (shut_owes (after.closeClient_shut true) [])

lemma acceptConnection_sound (h:Sound service) (trusted : Bool):
 Sound (service.acceptConnection trusted):=by
 unfold acceptConnection
 split
 · exact h
 · have hreset:=shut_owes service.resetClient_shut []
   constructor
   · exact hreset.consistent
   · exact hreset.entries
   · exact hreset.books
   · intro connection hsocket
     cases hsocket
     rfl
   · intro hsocket
     cases hsocket
   · exact hreset.idle

lemma step_keeps (h:Sound service) (event : Event):
 Keeps id (Steady around service event) (service.step options around event):=by
 have hclosed:∀n,Sound (service.closeClient n):=
  fun n=>shut_owes (service.closeClient_shut n) []
 cases event with
 | connected trusted=>
  exact keeps_ok trivial (acceptConnection_sound h trusted)
 | frame frame=>
  cases hsocket:service.socket with
  | none=>
   have hsteady:Steady around service (.frame frame):=by
    intro hauthenticated
    exact absurd ((h.shut hsocket).symm.trans hauthenticated) Bool.false_ne_true
   simp only [step,hsocket,Option.isSome_none,Bool.false_eq_true,if_false]
   exact keeps_ok hsteady h
  | some connection=>
   simp only [step,hsocket,Option.isSome_some,if_true]
   exact consumeFrame_keeps h hsocket frame
 | readFailed=>
  apply keeps_ok trivial
  split
  · exact hclosed true
  · exact h
 | bytesWritten=>exact keeps_ok trivial (scheduleProcessing_owes h)
 | disconnected=>exact keeps_ok trivial (disconnected_owes h)
 | authenticationTimeout epoch=>
  apply keeps_ok trivial
  split
  · exact hclosed true
  · exact h
 | process epoch=>
  simp only [step]
  split
  · exact processNext_keeps h
  · exact keeps_ok trivial h
 | closed=>exact keeps_ok trivial (hclosed false)

end Handlers

section Runs
variable (options : ServiceOptions)

def SteadyRun : Service → List (Surroundings × Event) → Prop
 | _, []=>True
 | service, (around,event)::rest=>
  Steady around service event ∧
   ∀after,service.step options around event = .ok after → SteadyRun after rest

variable {options}

lemma run_keeps (h:Sound service) (steps : List (Surroundings × Event)):
 Keeps id (SteadyRun options service steps) (service.run options steps):=by
 induction steps generalizing service with
 | nil=>exact keeps_ok trivial h
 | cons first rest ih=>
  obtain ⟨around,event⟩:=first
  have hstep:=@step_keeps around service options h event
  have hrun:service.run options ((around,event)::rest)=
    (service.step options around event >>= fun after=>after.run options rest):=by
   rw [run,List.foldlM_cons]
   rfl
  rw [hrun]
  cases hafter:service.step options around event with
  | error fault=>
   apply keeps_error
   intro hsteady
   obtain ⟨after,hother⟩:=hstep.returns.mp hsteady.1
   cases hafter.symm.trans hother
  | ok after=>
   have hsteady:=hstep.returns.mpr ⟨after,hafter⟩
   apply (ih (hstep.sound after hafter)).congr
   constructor
   · intro hrest
     exact hrest.2 after hafter
   · intro hrest
     refine ⟨hsteady,?_⟩
     intro other hother
     cases hafter.symm.trans hother
     exact hrest

end Runs

end Service

section Claims
open Service

/-- The scheduler and the table name the same requests, each request read from the open connection
is answered or waits, and a closed session has nothing left. -/
structure Settled (service : Service) : Prop where
 waiting : ∀requestId,requestId∈service.keys ↔ requestId∈service.scheduler.jobIds
 answered : ∀connection,service.socket=some connection → ∀requestId,
  connection.answered.count requestId+(if requestId∈service.keys then 1 else 0)=
   connection.received.count requestId
 shut : service.socket=none →
  service.scheduler.pending=[] ∧ service.pendingRequests=[] ∧ service.authenticated=false

lemma settled_of_sound {service : Service} (h:Sound service) : Settled service where
 waiting:=fun r=>(keys_perm h).mem_iff
 answered:=by
  intro connection hsocket r
  have hcount:=(h.accounts connection hsocket).count_eq r
  rw [←hcount,List.nil_append,List.count_append]
  by_cases hmem:r∈service.keys
  · rw [if_pos hmem,List.count_eq_one_of_mem (keys_nodup h) hmem]
  · rw [if_neg hmem,List.count_eq_zero_of_not_mem hmem]
 shut:=by
  intro hsocket
  have hidle:=h.shut hsocket
  have hpending:=h.idle hidle
  refine ⟨?_,hpending,hidle⟩
  have hbooks:=h.books
  rw [hpending] at hbooks
  exact List.map_eq_nil_iff.mp (List.perm_nil.mp hbooks)

/-- The service settles every state of every run just where the connection takes the answers it
gives in the middle of a handler. -/
theorem service_settles_requests (options : ServiceOptions)
 (steps : List (Surroundings × Event)):
 (∃ service,({} : Service).run options steps=.ok service ∧ Settled service) ↔
  SteadyRun options {} steps:=by
 have hempty:Sound {}:=shut_owes ⟨rfl,rfl,rfl,rfl⟩ []
 have hrun:=@run_keeps {} options hempty steps
 constructor
 · intro h
   obtain ⟨service,hservice,hsettled⟩:=h
   exact hrun.returns.mpr ⟨service,hservice⟩
 · intro h
   obtain ⟨service,hservice⟩:=hrun.returns.mp h
   exact ⟨service,hservice,settled_of_sound (hrun.sound service hservice)⟩

end Claims

section Samples
open Service

def sampleOptions : ServiceOptions where
 buildIdUtf8:=[98]
 authTokenUtf8:=[116]
 diskCacheLimits:={}
 valid:=by decide

def sampleRequest (requestId : RequestId) : PreviewRequest where
 requestId:=requestId
 generation:=1
 pathUtf8:=[47]
 sourceSize:=0
 modifiedUnixNs:=0
 sourceRevisionUtf8:=[]
 canonicalEdge:=512
 priority:=.visible
 pageIndex:=0
 passwordUtf8:=[]
 offlineCacheOnly:=false
 allowOfflineFallback:=true
 selectedView:=false
 extendedLimits:=false

def sampleFrame (message : Message) : Event:=
 match encode message with
 | .ok frame=>.frame frame
 | .error _=>.closed

def sampleSurroundings (taken : Bool) : Surroundings where
 writes:=fun _=>⟨0,taken⟩
 backlog:=fun _=>0
 flushed:=true
 accessUnixNs:=0
 fetch:=fun _=>none
 prune:=fun _ _=>{}
 diskStats:=⟨0,0,""⟩
 bucket:=fun _=>0

/-- Two requests of one generation wait when it is cancelled, and the connection no longer takes
anything. -/
def lossySteps : List (Surroundings × Event):=
 [(sampleSurroundings true,.connected true),
  (sampleSurroundings true,sampleFrame (.hello ⟨[98],[116]⟩)),
  (sampleSurroundings true,sampleFrame (.previewRequest (sampleRequest 1))),
  (sampleSurroundings true,sampleFrame (.previewRequest (sampleRequest 2))),
  (sampleSurroundings false,sampleFrame (.cancelGeneration ⟨1⟩))]

def faultOf : Except Fault Service → Option Fault
 | .ok _=>none
 | .error fault=>some fault

/-- Closing the client for the first answer, the loop looks up the second request in vain. -/
theorem cancelled_lookup_faults:
 ¬∀ (options : ServiceOptions) (steps : List (Surroundings × Event)),
  ∃ service,({} : Service).run options steps=.ok service ∧ Settled service:=by
 intro h
 obtain ⟨service,hservice,-⟩:=h sampleOptions lossySteps
 have hfault:faultOf (({} : Service).run sampleOptions lossySteps)=some .outOfRange:=by
  decide +kernel
 rw [hservice] at hfault
 cases hfault

end Samples

end VoVe.PreviewService
