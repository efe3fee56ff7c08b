import VoVe.BasicDirectoryTransferProtocol
import VoVe.PathText

set_option autoImplicit false

namespace VoVe.BasicDirectoryProtocolExact
open ByteCodec AsciiText PosixPath Checks TransactionCodec
open BasicDirectoryTransferProtocol
open FileTransferProtocol (whole_eq_some)

lemma header_bind {α : Type} (magic : UInt32) (f : Unit → Reader α) (rest : Bytes):
 (header magic >>= f).run (appendHeader magic++rest)=(f ()).run rest:=by
 rw [Reader.run_bind,header,appendHeader,List.append_assoc,Reader.readInteger_bind,
  Reader.readInteger_bind,Reader.run_check]
 simp

variable {input rest text payload : Bytes}

lemma takes_header {magic : UInt32} {u : Unit} (h:(header magic).run input=some (u,rest)):
 input=appendHeader magic++rest:=by
 simp only [header,Reader.bind_eq_some,Reader.check_eq_some] at h
 obtain ⟨found,_,hfound,version,_,hversion,hcheck,rfl⟩:=h
 obtain ⟨rfl,rfl⟩:=of_decide_eq_true hcheck
 rw [Reader.takes_integer _ _ _ hfound,Reader.takes_integer _ _ _ hversion,appendHeader,
  List.append_assoc]

lemma readText_valid {valid : Bytes → Bool} (h:(readText valid).run input=some (text,rest)):
 valid text=true:=by
 simp only [readText,Reader.bind_eq_some,Reader.check_eq_some,Reader.pure_eq_some] at h
 obtain ⟨_,_,_,_,_,⟨hvalid,_⟩,rfl,_⟩:=h
 exact hvalid

lemma validText_small (h:validText text=true):
 text.length<2 ^ 32 ∧ validUtf8WithoutNul text=true:=by
 have htext:=of_decide_eq_true h
 have hsize:=htext.1
 rw [kMaximumBasicDirectoryTransferProtocolBytes] at hsize
 exact ⟨by omega,htext.2⟩

section Requests
variable {request : BasicDirectoryTransferStreamRequest} {payload : Bytes}

lemma encodeRequest_iff : encodeBasicDirectoryTransferStreamRequest request=.ok payload ↔
 validBasicDirectoryTransferStreamRequest request=.ok () ∧
  (∀text∈requestTexts request,text.length<2 ^ 32) ∧
   (requestPayload request).length≤kMaximumBasicDirectoryTransferProtocolBytes ∧
    requestPayload request=payload:=by
 simp only [encodeBasicDirectoryTransferStreamRequest,bind_unit_eq_ok,throwInvalid_eq_ok,
  PayloadLimit.finish_eq_ok,frameLimit]

lemma requestTexts_valid (h:validBasicDirectoryTransferStreamRequest request=.ok ()):
 ∀text∈requestTexts request,validText text=true:=by
 rw [validBasicDirectoryTransferStreamRequest,require_eq_ok,decide_eq_true_eq] at h
 exact List.all_eq_true.mp h.2.2.2.2.2.2.2

lemma readRequest_append (h:∀text∈requestTexts request,validText text=true)
 (rest : Bytes):
 readRequest.run (requestPayload request++rest)=some (request,rest):=by
 have htext (text : Bytes) (hmem:text∈requestTexts request):=validText_small (h text hmem)
 have hsource:=htext request.source.native (by simp [requestTexts])
 have hdestination:=htext request.destination.native (by simp [requestTexts])
 have hmanifest:=htext request.manifestPath.native (by simp [requestTexts])
 have hrevision:=htext request.expectedSourceRevisionUtf8 (by simp [requestTexts])
 simp only [readRequest,requestPayload,requestTexts,List.flatMap_cons,List.flatMap_nil,
  List.append_nil,List.append_assoc,header_bind,Reader.readInteger_bind,Reader.readEnum_bind,
  readText_bind _ _ _ hsource.1,hsource.2,readText_bind _ _ _ hdestination.1,hdestination.2,
  readText_bind _ _ _ hmanifest.1,hmanifest.2,Reader.readString_bind _ _ hrevision.1,
  Reader.check_bind]
 rfl

lemma takes_request (h:readRequest.run input=some (request,rest)):
 input=requestPayload request++rest:=by
 simp only [readRequest,Reader.bind_eq_some,Reader.check_eq_some,Reader.pure_eq_some] at h
 obtain ⟨_,_,hheader,id,_,hid,operation,_,hoperation,command,_,hcommand,r8,_,hr8,
  r16,_,hr16,source,_,hsource,destination,_,hdestination,manifest,_,hmanifest,
  revision,_,hrevision,_,_,⟨hcheck,rfl⟩,rfl,rfl⟩ := h
 obtain ⟨rfl,rfl⟩:=of_decide_eq_true hcheck
 rw [takes_header hheader,Reader.takes_integer _ _ _ hid,
  Reader.takes_integer _ _ _ hoperation,Reader.takes_enum (by decide) _ _ _ hcommand,
  Reader.takes_integer _ _ _ hr8,Reader.takes_integer _ _ _ hr16,takes_text _ _ _ _ hsource,
  takes_text _ _ _ _ hdestination,takes_text _ _ _ _ hmanifest,
  Reader.takes_string _ _ _ hrevision]
 simp only [requestPayload,requestTexts,List.flatMap_cons,List.flatMap_nil,List.append_nil,
  List.append_assoc]

lemma decodeRequest_iff : decodeBasicDirectoryTransferStreamRequest payload=.ok request ↔
  payload.length≤kMaximumBasicDirectoryTransferProtocolBytes ∧
   readRequest.run payload=some (request,[]) ∧
    validBasicDirectoryTransferStreamRequest request=.ok ():=by
 simp only [decodeBasicDirectoryTransferStreamRequest,bind_unit_eq_ok,require_eq_ok,
  decide_eq_true_eq,found_bind_eq_ok,pure_eq_ok,whole_eq_some]
 constructor
 · rintro ⟨hsize,decoded,hread,hvalid,hsame⟩
   subst hsame
   exact ⟨hsize,hread,hvalid⟩
 · rintro ⟨hsize,hread,hvalid⟩
   exact ⟨hsize,request,hread,hvalid,rfl⟩

lemma request_exact : encodeBasicDirectoryTransferStreamRequest request=.ok payload ↔
 decodeBasicDirectoryTransferStreamRequest payload=.ok request:=by
 rw [encodeRequest_iff,decodeRequest_iff]
 constructor
 · intro ⟨hvalid,_,hsize,hpayload⟩
   subst hpayload
   have hread:=readRequest_append (requestTexts_valid hvalid) []
   rw [List.append_nil] at hread
   exact ⟨hsize,hread,hvalid⟩
 · intro ⟨hsize,hread,hvalid⟩
   have hpayload:=takes_request hread
   rw [List.append_nil] at hpayload
   subst hpayload
   exact ⟨hvalid,fun text htext=>(validText_small (requestTexts_valid hvalid text htext)).1,
    hsize,rfl⟩

end Requests

section Acks
variable {ack : BasicDirectoryTransferCompletionAck} {payload : Bytes}

lemma encodeAck_iff : encodeBasicDirectoryTransferCompletionAck ack=.ok payload ↔
 ack.requestId≠0 ∧ ackPayload ack=payload:=by
 simp only [encodeBasicDirectoryTransferCompletionAck,bind_unit_eq_ok,require_eq_ok,
  decide_eq_true_eq,pure_eq_ok]

lemma ack_exact : encodeBasicDirectoryTransferCompletionAck ack=.ok payload ↔
 decodeBasicDirectoryTransferCompletionAck payload=.ok ack:=by
 rw [encodeAck_iff,decodeBasicDirectoryTransferCompletionAck,found_eq_ok,whole_eq_some]
 constructor
 · intro ⟨hid,hpayload⟩
   subst hpayload
   have hread:=Reader.readInteger_bind ack.requestId (fun requestId=>do
    Reader.check (requestId≠0)
    pure ({ requestId:=requestId } : BasicDirectoryTransferCompletionAck)) []
   rw [List.append_nil,Reader.check_bind,if_pos (decide_eq_true hid)] at hread
   rw [readAck,ackPayload,header_bind,hread]
   rfl
 · intro hread
   simp only [readAck,Reader.bind_eq_some,Reader.check_eq_some,Reader.pure_eq_some] at hread
   obtain ⟨_,_,hheader,id,_,hid,_,_,⟨hcheck,rfl⟩,rfl,rfl⟩:=hread
   refine ⟨of_decide_eq_true hcheck,?_⟩
   rw [takes_header hheader,Reader.takes_integer _ _ _ hid,ackPayload,List.append_nil]

end Acks

section Progress
variable {frame : BasicDirectoryTransferProgressFrame} {payload : Bytes}

lemma encodeProgress_iff : encodeBasicDirectoryTransferProgressFrame frame=.ok payload ↔
 progressValid frame=true ∧ progressPayload frame=payload:=by
 simp only [encodeBasicDirectoryTransferProgressFrame,bind_unit_eq_ok,require_eq_ok,pure_eq_ok]

lemma length_progressPayload (frame : BasicDirectoryTransferProgressFrame):
 (progressPayload frame).length=56+frame.progress.currentPath.native.length:=by
 simp only [progressPayload,appendHeader,List.length_append,appendInteger_length,
  appendEnum_length,appendString_length,WireInteger.width]
 omega

lemma readProgress_append (h:validText frame.progress.currentPath.native=true)
 (rest : Bytes) : readProgress.run (progressPayload frame++rest)=some (frame,rest):=by
 have hpath:=validText_small h
 simp only [readProgress,progressPayload,List.append_assoc,header_bind,
  Reader.readInteger_bind,Reader.readEnum_bind,readText_bind _ _ _ hpath.1,hpath.2,
  Reader.check_bind]
 rfl

lemma takes_progress (h:readProgress.run input=some (frame,rest)):
 input=progressPayload frame++rest ∧
  validUtf8WithoutNul frame.progress.currentPath.native=true:=by
 simp only [readProgress,Reader.bind_eq_some,Reader.check_eq_some,Reader.pure_eq_some] at h
 obtain ⟨_,_,hheader,id,_,hid,phase,_,hphase,r8,_,hr8,r16,_,hr16,completed,_,
  hcompleted,total,_,htotal,bytes,_,hbytes,totalBytes,_,htotalBytes,path,_,hpath,_,_,
  ⟨hcheck,rfl⟩,rfl,rfl⟩ := h
 obtain ⟨rfl,rfl⟩:=of_decide_eq_true hcheck
 refine ⟨?_,readText_valid hpath⟩
 rw [takes_header hheader,Reader.takes_integer _ _ _ hid,
  Reader.takes_enum (by decide) _ _ _ hphase,Reader.takes_integer _ _ _ hr8,
  Reader.takes_integer _ _ _ hr16,Reader.takes_integer _ _ _ hcompleted,
  Reader.takes_integer _ _ _ htotal,Reader.takes_integer _ _ _ hbytes,
  Reader.takes_integer _ _ _ htotalBytes,takes_text _ _ _ _ hpath]
 simp only [progressPayload,List.append_assoc]

lemma decodeProgress_iff : decodeBasicDirectoryTransferProgressFrame payload=.ok frame ↔
  payload.length≤kMaximumBasicDirectoryTransferProtocolBytes ∧
   readProgress.run payload=some (frame,[]) ∧ progressConsistent frame=true:=by
 simp only [decodeBasicDirectoryTransferProgressFrame,bind_unit_eq_ok,require_eq_ok,
  decide_eq_true_eq,found_bind_eq_ok,pure_eq_ok,whole_eq_some]
 constructor
 · rintro ⟨hsize,decoded,hread,hconsistent,hsame⟩
   subst hsame
   exact ⟨hsize,hread,hconsistent⟩
 · rintro ⟨hsize,hread,hconsistent⟩
   exact ⟨hsize,frame,hread,hconsistent,rfl⟩

lemma progress_exact : decodeBasicDirectoryTransferProgressFrame payload=.ok frame ↔
 encodeBasicDirectoryTransferProgressFrame frame=.ok payload ∧
  payload.length≤kMaximumBasicDirectoryTransferProtocolBytes:=by
 rw [encodeProgress_iff,decodeProgress_iff,progressValid,decide_eq_true_eq]
 constructor
 · intro ⟨hsize,hread,hconsistent⟩
   obtain ⟨hpayload,hpath⟩:=takes_progress hread
   rw [List.append_nil] at hpayload
   subst hpayload
   refine ⟨⟨⟨hconsistent,decide_eq_true ⟨?_,hpath⟩⟩,rfl⟩,hsize⟩
   rw [length_progressPayload] at hsize
   omega
 · intro ⟨⟨⟨hconsistent,htext⟩,hpayload⟩,hsize⟩
   subst hpayload
   have hread:=readProgress_append htext []
   rw [List.append_nil] at hread
   exact ⟨hsize,hread,hconsistent⟩

end Progress

section Results
variable {frame : BasicDirectoryTransferResultFrame} {payload : Bytes}

/-- Only the value of an error travels. -/
def received (frame : BasicDirectoryTransferResultFrame) : BasicDirectoryTransferResultFrame:=
 { frame with
   result:={ frame.result with
    error:={ value:=frame.result.error.value,category:=.generic } } }

lemma encodeResult_iff : encodeBasicDirectoryTransferResultFrame frame=.ok payload ↔
 (frame.requestId≠0 ∧ validResult frame.result=true) ∧
  (∀text∈resultTexts frame.result,text.length<2 ^ 32) ∧
   (resultPayload frame).length≤kMaximumBasicDirectoryTransferProtocolBytes ∧
    resultPayload frame=payload:=by
 simp only [encodeBasicDirectoryTransferResultFrame,bind_unit_eq_ok,require_eq_ok,
  decide_eq_true_eq,PayloadLimit.finish_eq_ok,frameLimit]

lemma resultTexts_valid (h:validResult frame.result=true):
 ∀text∈resultTexts frame.result,validText text=true:=by
 rw [validResult,decide_eq_true_eq] at h
 exact List.all_eq_true.mp h.2.2.2

lemma readResult_append (h:∀text∈resultTexts frame.result,validText text=true)
 (rest : Bytes):
 readResult.run (resultPayload frame++rest)=some (received frame,rest):=by
 have htext (text : Bytes) (hmem:text∈resultTexts frame.result):=validText_small (h text hmem)
 have hstaging:=htext frame.result.stagingDestination.native (by simp [resultTexts])
 have hdestination:=htext frame.result.destination.native (by simp [resultTexts])
 have hmanifest:=htext frame.result.manifestPath.native (by simp [resultTexts])
 have hdetail:=htext frame.result.detailUtf8 (by simp [resultTexts])
 have hrecovery:((if frame.result.recoveryAvailable then 1 else 0 : UInt8)≤1) ∧
   decide ((if frame.result.recoveryAvailable then 1 else 0 : UInt8)≠0)=
    frame.result.recoveryAvailable:=by
  cases frame.result.recoveryAvailable with
  | false=>decide
  | true=>decide
 simp only [readResult,resultPayload,resultTexts,List.flatMap_cons,List.flatMap_nil,
  List.append_nil,List.append_assoc,header_bind,Reader.readInteger_bind,Reader.readEnum_bind,
  readText_bind _ _ _ hstaging.1,hstaging.2,readText_bind _ _ _ hdestination.1,hdestination.2,
  readText_bind _ _ _ hmanifest.1,hmanifest.2,readText_bind _ _ _ hdetail.1,hdetail.2,
  Reader.check_bind,hrecovery,if_true]
 rfl

lemma takes_result (h:readResult.run input=some (frame,rest)):
 input=resultPayload frame++rest:=by
 simp only [readResult,Reader.bind_eq_some,Reader.check_eq_some,Reader.pure_eq_some] at h
 obtain ⟨_,_,hheader,id,_,hid,status,_,hstatus,recovery,_,hrecovery,r16,_,hr16,
  platform,_,hplatform,value,_,hvalue,r32,_,hr32,completed,_,hcompleted,bytes,_,
  hbytes,staging,_,hstaging,destination,_,hdestination,manifest,_,hmanifest,detail,_,
  hdetail,_,_,⟨hcheck,rfl⟩,rfl,rfl⟩ := h
 obtain ⟨rfl,rfl,hone⟩:=of_decide_eq_true hcheck
 have hflag:(if decide (recovery≠0) then 1 else 0 : UInt8)=recovery:=by
  by_cases hzero:recovery=0
  · simp [hzero]
  · have hvalue:recovery=1:=by
     apply UInt8.toNat.inj
     have hle:=UInt8.le_iff_toNat_le.mp hone
     have hpos:recovery.toNat≠0:=fun h=>hzero (UInt8.toNat.inj h)
     change recovery.toNat≤1 at hle
     change recovery.toNat=1
     omega
    simp [hvalue]
 rw [takes_header hheader,Reader.takes_integer _ _ _ hid,
  Reader.takes_enum (by decide) _ _ _ hstatus,Reader.takes_integer _ _ _ hrecovery,
  Reader.takes_integer _ _ _ hr16,Reader.takes_integer _ _ _ hplatform,
  Reader.takes_integer _ _ _ hvalue,Reader.takes_integer _ _ _ hr32,
  Reader.takes_integer _ _ _ hcompleted,Reader.takes_integer _ _ _ hbytes,
  takes_text _ _ _ _ hstaging,takes_text _ _ _ _ hdestination,takes_text _ _ _ _ hmanifest,
  takes_text _ _ _ _ hdetail]
 simp only [resultPayload,resultTexts,hflag,List.flatMap_cons,List.flatMap_nil,
  List.append_nil,List.append_assoc]

lemma decodeResult_iff : decodeBasicDirectoryTransferResultFrame payload=.ok frame ↔
  payload.length≤kMaximumBasicDirectoryTransferProtocolBytes ∧
   readResult.run payload=some (frame,[]) ∧
    frame.requestId≠0 ∧ validResult frame.result=true:=by
 simp only [decodeBasicDirectoryTransferResultFrame,bind_unit_eq_ok,require_eq_ok,
  decide_eq_true_eq,found_bind_eq_ok,pure_eq_ok,whole_eq_some]
 constructor
 · rintro ⟨hsize,decoded,hread,hvalid,hsame⟩
   subst hsame
   exact ⟨hsize,hread,hvalid⟩
 · rintro ⟨hsize,hread,hvalid⟩
   exact ⟨hsize,frame,hread,hvalid,rfl⟩

lemma decode_result (h:encodeBasicDirectoryTransferResultFrame frame=.ok payload):
 decodeBasicDirectoryTransferResultFrame payload=.ok (received frame):=by
 obtain ⟨⟨hid,hvalid⟩,-,hsize,hpayload⟩:=encodeResult_iff.mp h
 subst hpayload
 have hread:=readResult_append (resultTexts_valid hvalid) []
 rw [List.append_nil] at hread
 exact decodeResult_iff.mpr ⟨hsize,hread,hid,hvalid⟩

lemma encode_result (h:decodeBasicDirectoryTransferResultFrame payload=.ok frame):
 encodeBasicDirectoryTransferResultFrame frame=.ok payload:=by
 obtain ⟨hsize,hread,hid,hvalid⟩:=decodeResult_iff.mp h
 have hpayload:=takes_result hread
 rw [List.append_nil] at hpayload
 subst hpayload
 exact encodeResult_iff.mpr ⟨⟨hid,hvalid⟩,
  fun text htext=>(validText_small (resultTexts_valid hvalid text htext)).1,hsize,rfl⟩

end Results

inductive FrameKind where
 | request
 | progress
 | completionAck
 | result
 deriving DecidableEq

inductive Message where
 | request (request : BasicDirectoryTransferStreamRequest)
 | progress (frame : BasicDirectoryTransferProgressFrame)
 | completionAck (ack : BasicDirectoryTransferCompletionAck)
 | result (frame : BasicDirectoryTransferResultFrame)
 deriving DecidableEq

def Message.frameKind : Message → FrameKind
 | .request _=>.request
 | .progress _=>.progress
 | .completionAck _=>.completionAck
 | .result _=>.result

/-- What the other side makes of a message: an error loses its category. -/
def Message.received : Message → Message
 | .result frame=>.result (BasicDirectoryProtocolExact.received frame)
 | message=>message

/-- The kind the client tells a helper's message by; it reads no others. -/
def FrameKind.messageKind : FrameKind → Option BasicDirectoryTransferMessageKind
 | .progress=>some .progress
 | .result=>some .complete
 | .request | .completionAck=>none

def encode : Message → Except Thrown Bytes
 | .request request=>encodeBasicDirectoryTransferStreamRequest request
 | .progress frame=>encodeBasicDirectoryTransferProgressFrame frame
 | .completionAck ack=>encodeBasicDirectoryTransferCompletionAck ack
 | .result frame=>encodeBasicDirectoryTransferResultFrame frame

def decode (kind : FrameKind) (payload : Bytes) : Except Bytes Message:=
 match kind with
 | .request=>Message.request <$> decodeBasicDirectoryTransferStreamRequest payload
 | .progress=>Message.progress <$> decodeBasicDirectoryTransferProgressFrame payload
 | .completionAck=>Message.completionAck <$> decodeBasicDirectoryTransferCompletionAck payload
 | .result=>Message.result <$> decodeBasicDirectoryTransferResultFrame payload

/-- A message that can be sent is read as what it is, and the decoders accept
  nothing but what their encoder writes. -/
structure Exact (message : Message) : Prop where
 accepted : ∀payload,encode message=.ok payload →
  decode message.frameKind payload=.ok message.received
 named : ∀payload kind,encode message=.ok payload → message.frameKind.messageKind=some kind →
   decodeBasicDirectoryTransferMessageKind payload=.ok kind
 apart : ∀payload kind kind' decoded decoded',decode kind payload=.ok decoded →
  decode kind' payload=.ok decoded' → kind=kind'
 canonical : ∀payload kind decoded,decode kind payload=.ok decoded →
  encode decoded=.ok payload

/-- Only a progress frame can be sent that is longer than the limit, by its path. -/
def Fits : Message → Prop
 | .progress frame=>progressValid frame = true →
   frame.progress.currentPath.native.length+56 ≤ kMaximumBasicDirectoryTransferProtocolBytes
 | _=>True

lemma canonical (payload : Bytes) (kind : FrameKind) (decoded : Message)
 (h:decode kind payload=.ok decoded):
 encode decoded=.ok payload ∧ decoded.frameKind=kind:=by
 cases kind with
 | request=>
  obtain ⟨request,hdecode,rfl⟩:=(map_eq_ok _ _ _).mp h
  exact ⟨request_exact.mpr hdecode,rfl⟩
 | progress=>
  obtain ⟨frame,hdecode,rfl⟩:=(map_eq_ok _ _ _).mp h
  exact ⟨(progress_exact.mp hdecode).1,rfl⟩
 | completionAck=>
  obtain ⟨ack,hdecode,rfl⟩:=(map_eq_ok _ _ _).mp h
  exact ⟨ack_exact.mpr hdecode,rfl⟩
 | result=>
  obtain ⟨frame,hdecode,rfl⟩:=(map_eq_ok _ _ _).mp h
  exact ⟨encode_result hdecode,rfl⟩

def magicOf : FrameKind → UInt32
 | .request=>requestMagic
 | .progress=>progressMagic
 | .completionAck=>completionAckMagic
 | .result=>resultMagic

variable {message : Message}

lemma encode_header (h:encode message=.ok payload):
 ∃ rest,payload=appendHeader (magicOf message.frameKind)++rest:=by
 cases message with
 | request request=>
  obtain ⟨-,-,-,rfl⟩:=encodeRequest_iff.mp h
  exact ⟨_,rfl⟩
 | progress frame=>
  obtain ⟨-,rfl⟩:=encodeProgress_iff.mp h
  exact ⟨_,rfl⟩
 | completionAck ack=>
  obtain ⟨-,rfl⟩:=encodeAck_iff.mp h
  exact ⟨_,rfl⟩
 | result frame=>
  obtain ⟨-,-,-,rfl⟩:=encodeResult_iff.mp h
  exact ⟨_,rfl⟩

lemma frameKind_unique {other : Message} (h:encode message=.ok payload)
 (hother:encode other=.ok payload) : message.frameKind=other.frameKind:=by
 obtain ⟨rest,hrest⟩:=encode_header h
 obtain ⟨rest',hrest'⟩:=encode_header hother
 have hread (magic : UInt32) (rest : Bytes):
   (Reader.readInteger UInt32).run (appendHeader magic++rest)=
    some (magic,appendInteger kBasicDirectoryTransferProtocolVersion++rest):=by
  rw [appendHeader,List.append_assoc,Reader.readInteger_append]
 have hsame:=hread (magicOf message.frameKind) rest
 rw [←hrest,hrest',hread] at hsame
 have hmagic:magicOf other.frameKind=magicOf message.frameKind:=by
  simpa using congrArg (Option.map Prod.fst) hsame
 revert hmagic
 generalize message.frameKind=kind
 generalize other.frameKind=kind'
 cases kind<;>cases kind'<;>decide

lemma decode_kind {kind : BasicDirectoryTransferMessageKind} (h:encode message=.ok payload)
 (hkind:message.frameKind.messageKind=some kind)
 (hsize:payload.length≤kMaximumBasicDirectoryTransferProtocolBytes):
 decodeBasicDirectoryTransferMessageKind payload=.ok kind:=by
 obtain ⟨rest,rfl⟩:=encode_header h
 have hlong:8≤(appendHeader (magicOf message.frameKind)++rest).length:=by
  simp only [appendHeader,List.length_append,appendInteger_length,WireInteger.width]
  omega
 have hread:readMessageHeader.run (appendHeader (magicOf message.frameKind)++rest)=
   some (magicOf message.frameKind,rest):=by
  rw [readMessageHeader,appendHeader,List.append_assoc,Reader.readInteger_bind,
   Reader.readInteger_bind,Reader.check_bind,if_pos (by decide)]
  rfl
 have hfound:kindOfMagic (magicOf message.frameKind)=some kind:=by
  revert hkind
  generalize message.frameKind=frameKind
  cases frameKind<;>cases kind<;>decide
 simp only [decodeBasicDirectoryTransferMessageKind,bind_unit_eq_ok,require_eq_ok,
  decide_eq_true_eq,found_bind_eq_ok,found_eq_ok]
 exact ⟨⟨hlong,hsize⟩,_,hread,hfound⟩

lemma decode_encoded (h:encode message=.ok payload)
 (hsize:payload.length≤kMaximumBasicDirectoryTransferProtocolBytes):
 decode message.frameKind payload=.ok message.received:=by
 cases message with
 | request request=>exact (map_eq_ok _ _ _).mpr ⟨request,request_exact.mp h,rfl⟩
 | progress frame=>exact (map_eq_ok _ _ _).mpr ⟨frame,progress_exact.mpr ⟨h,hsize⟩,rfl⟩
 | completionAck ack=>exact (map_eq_ok _ _ _).mpr ⟨ack,ack_exact.mp h,rfl⟩
 | result frame=>exact (map_eq_ok _ _ _).mpr ⟨_,decode_result h,rfl⟩

lemma fits_iff (h:encode message=.ok payload):
 Fits message ↔ payload.length≤kMaximumBasicDirectoryTransferProtocolBytes:=by
 cases message with
 | request request=>
  obtain ⟨-,-,hsize,rfl⟩:=encodeRequest_iff.mp h
  exact ⟨fun _=>hsize,fun _=>trivial⟩
 | progress frame=>
  obtain ⟨hvalid,rfl⟩:=encodeProgress_iff.mp h
  rw [length_progressPayload,Nat.add_comm]
  exact ⟨fun hfits=>hfits hvalid,fun hsize _=>hsize⟩
 | completionAck ack=>
  obtain ⟨-,rfl⟩:=encodeAck_iff.mp h
  refine ⟨fun _=>?_,fun _=>trivial⟩
  simp only [ackPayload,appendHeader,List.length_append,appendInteger_length,
   WireInteger.width,kMaximumBasicDirectoryTransferProtocolBytes]
  omega
 | result frame=>
  obtain ⟨-,-,hsize,rfl⟩:=encodeResult_iff.mp h
  exact ⟨fun _=>hsize,fun _=>trivial⟩

lemma fits_of_exact (h:Exact message) : Fits message:=by
 cases message with
 | progress frame=>
  intro hvalid
  have hencode:encode (.progress frame)=.ok (progressPayload frame):=
   encodeProgress_iff.mpr ⟨hvalid,rfl⟩
  have hdecode:=h.accepted _ hencode
  obtain ⟨frame',hdecode,-⟩:=(map_eq_ok _ _ _).mp hdecode
  have hsize:=(progress_exact.mp hdecode).2
  rwa [length_progressPayload,Nat.add_comm] at hsize
 | request | completionAck | result=>trivial

/-- The protocol is exact for a message just where it is no progress frame whose
  path makes it longer than the decoder's limit. -/
theorem exact_iff (message : Message) : Exact message ↔ Fits message:=by
 constructor
 · exact fits_of_exact
 · intro hfits
   constructor
   · intro payload hencode
     exact decode_encoded hencode ((fits_iff hencode).mp hfits)
   · intro payload kind hencode hkind
     exact decode_kind hencode hkind ((fits_iff hencode).mp hfits)
   · intro payload kind kind' decoded decoded' h h'
     obtain ⟨hencode,rfl⟩:=canonical payload kind decoded h
     obtain ⟨hencode',rfl⟩:=canonical payload kind' decoded' h'
     exact frameKind_unique hencode hencode'
   · intro payload kind decoded h
     exact (canonical payload kind decoded h).1

def longPathFrame (count : ℕ) : BasicDirectoryTransferProgressFrame where
 requestId:=1
 progress:={ currentPath:=⟨slash::List.replicate count 97⟩ }

lemma longPath_length (count : ℕ):
 (longPathFrame count).progress.currentPath.native.length=count+1:=by
 simp [longPathFrame]

lemma longPath_valid {count : ℕ} (h:count<kMaximumBasicDirectoryTransferProtocolBytes):
 progressValid (longPathFrame count)=true:=by
 have htext:validUtf8WithoutNul (slash::List.replicate count 97)=true:=by
  apply PathText.validUtf8_of_ascii
  rw [List.all_cons,List.all_replicate]
  simp [PathText.asciiByte,slash]
 have habsolute:absolutePathOrEmpty (longPathFrame count).progress.currentPath=true:=by
  simp [longPathFrame,absolutePathOrEmpty,Path.isAbsolute,Path.components]
 rw [progressValid,decide_eq_true_eq]
 refine ⟨?_,decide_eq_true ⟨?_,htext⟩⟩
 · rw [progressConsistent,habsolute]
   simp [longPathFrame]
 · rw [longPath_length]
   exact h

theorem longPath_not_exact : ¬Exact (.progress (longPathFrame 65500)):=by
 intro hexact
 have hfits:=fits_of_exact hexact (longPath_valid (by decide))
 rw [longPath_length] at hfits
 revert hfits
 decide

end VoVe.BasicDirectoryProtocolExact
