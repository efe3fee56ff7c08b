import VoVe.FileTransferProtocol

set_option autoImplicit false

namespace VoVe.FileTransferProtocolExact
open ByteCodec AsciiText Checks FileOperation TransactionCodec TransferTransaction
 FileTransferProtocol

variable {text input rest payload : Bytes} {α : Type}

lemma validProtocolText_small (h:validProtocolText text=true):
 text.length<2 ^ 32 ∧ validUtf8WithoutNul text=true:=by
 have htext:=of_decide_eq_true h
 have hsize:=htext.1
 rw [kMaximumFileTransferProtocolBytes] at hsize
 exact ⟨by omega,htext.2⟩

lemma address_bind (magic : UInt32) (a : FrameAddress) (f : FrameAddress → Reader α)
 (rest : Bytes):
 (readAddress magic >>= f).run (appendAddress magic a++rest)=(f a).run rest:=by
 have hread:(readAddress magic).run (appendAddress magic a++rest)=some (a,rest):=by
  simp only [readAddress,appendAddress,List.append_assoc,Reader.readInteger_bind,
   Reader.check_bind,Reader.readFixed_bind]
  rw [if_pos (by simp)]
  rfl
 rw [Reader.run_bind,hread,Option.bind_some]

lemma takes_address {magic : UInt32} {a : FrameAddress}
 (h:(readAddress magic).run input=some (a,rest)):
 input=appendAddress magic a++rest:=by
 simp only [readAddress,Reader.bind_eq_some,Reader.check_eq_some,Reader.pure_eq_some] at h
 obtain ⟨_,_,hmagic,_,_,hversion,_,_,⟨hcheck,rfl⟩,id,_,hid,item,_,hitem,token,_,
  htoken,rfl,rfl⟩ := h
 obtain ⟨rfl,rfl⟩:=of_decide_eq_true hcheck
 rw [Reader.takes_integer _ _ _ hmagic,Reader.takes_integer _ _ _ hversion,
  Reader.takes_integer _ _ _ hid,Reader.takes_integer _ _ _ hitem,
  Reader.takes_fixed _ _ _ _ htoken]
 simp only [appendAddress,List.append_assoc]

lemma snapshot_bind {snapshot : SourceSnapshot} (h:snapshot.sourceRevisionUtf8.length<2 ^ 32)
 (f : SourceSnapshot → Reader α) (rest : Bytes):
 (readSnapshot >>= f).run (appendSnapshot snapshot++rest)=(f snapshot).run rest:=by
 simp only [Reader.run_bind,readSnapshot,appendSnapshot,List.append_assoc,
  Reader.readInteger_append,Option.bind_some,Reader.readString_append _ _ h,Reader.run_pure]

lemma takes_snapshot : readSnapshot.Takes appendSnapshot:=by
 intro input snapshot rest h
 simp only [readSnapshot,Reader.bind_eq_some,Reader.pure_eq_some] at h
 obtain ⟨size,_,hsize,modified,_,hmodified,revision,_,hrevision,rfl,rfl⟩:=h
 rw [Reader.takes_integer _ _ _ hsize,Reader.takes_integer _ _ _ hmodified,
  Reader.takes_string _ _ _ hrevision]
 simp only [appendSnapshot,List.append_assoc]

lemma appendAddress_length (magic : UInt32) (a : FrameAddress):
 (appendAddress magic a).length=20+kFileTransferRequestTokenBytes:=by
 simp only [appendAddress,List.length_append,appendInteger_length,WireInteger.width,
  a.requestToken.length_eq]
 omega

section Requests
variable {request : FileTransferStreamRequest} {payload : Bytes}

lemma encodeRequest_iff : encodeFileTransferStreamRequest request=.ok payload ↔
 validFileTransferStreamRequest request=.ok () ∧
  (∀text∈requestTexts request,text.length<2 ^ 32) ∧
   (requestPayload request).length≤kMaximumFileTransferProtocolBytes ∧
    requestPayload request=payload:=by
 simp only [encodeFileTransferStreamRequest,bind_unit_eq_ok,throwInvalid_eq_ok,
  PayloadLimit.finish_eq_ok,frameLimit]

lemma requestTexts_valid (h:validFileTransferStreamRequest request=.ok ()):
 ∀text∈requestTexts request,validProtocolText text=true:=by
 simp only [validFileTransferStreamRequest,bind_unit_eq_ok,require_eq_ok] at h
 exact List.all_eq_true.mp h.2.2

lemma readRequest_append (h:∀text∈requestTexts request,validProtocolText text=true)
 (rest : Bytes):
 readRequest.run (requestPayload request++rest)=some (request,rest):=by
 have htext (text : Bytes) (hmem:text∈requestTexts request):=validProtocolText_small (h text hmem)
 have hsource:=htext request.source.native (by simp [requestTexts])
 have htemp:=htext request.tempDestination.native (by simp [requestTexts])
 have hrevision:=htext request.expectedSource.sourceRevisionUtf8 (by simp [requestTexts])
 have htempRevision:=htext request.expectedTemp.sourceRevisionUtf8 (by simp [requestTexts])
 have hparent:=htext request.sourceParentIdentityUtf8 (by simp [requestTexts])
 have hdestination:=htext request.destinationParentIdentityUtf8 (by simp [requestTexts])
 have hanchor:=htext request.destinationAnchorPath.native (by simp [requestTexts])
 have hidentity:=htext request.destinationAnchorIdentityUtf8 (by simp [requestTexts])
 simp only [readRequest,requestPayload,List.append_assoc,address_bind,Reader.readEnum_bind,
  Reader.readInteger_bind,readText_bind _ _ _ hsource.1,hsource.2,
  readText_bind _ _ _ htemp.1,htemp.2,snapshot_bind hrevision.1,
  snapshot_bind htempRevision.1,Reader.readString_bind _ _ hparent.1,
  Reader.readString_bind _ _ hdestination.1,readText_bind _ _ _ hanchor.1,hanchor.2,
  Reader.readString_bind _ _ hidentity.1,Reader.check_bind]
 rfl

lemma takes_request (h:readRequest.run input=some (request,rest)):
 input=requestPayload request++rest:=by
 simp only [readRequest,Reader.bind_eq_some,Reader.check_eq_some,Reader.pure_eq_some] at h
 obtain ⟨a,_,haddress,mode,_,hmode,r8,_,hr8,r16,_,hr16,source,_,hsource,temp,
  _,htemp,expected,_,hexpected,expectedTemp,_,hexpectedTemp,parent,_,hparent,
  destination,_,hdestination,anchor,_,hanchor,identity,_,hidentity,_,_,
  ⟨hcheck,rfl⟩,rfl,rfl⟩ := h
 obtain ⟨rfl,rfl⟩:=of_decide_eq_true hcheck
 rw [takes_address haddress,Reader.takes_enum (by decide) _ _ _ hmode,
  Reader.takes_integer _ _ _ hr8,Reader.takes_integer _ _ _ hr16,takes_text _ _ _ _ hsource,
  takes_text _ _ _ _ htemp,takes_snapshot _ _ _ hexpected,takes_snapshot _ _ _ hexpectedTemp,
  Reader.takes_string _ _ _ hparent,Reader.takes_string _ _ _ hdestination,
  takes_text _ _ _ _ hanchor,Reader.takes_string _ _ _ hidentity]
 simp only [requestPayload,List.append_assoc]

lemma decodeRequest_iff : decodeFileTransferStreamRequest payload=.ok request ↔
 payload.length≤kMaximumFileTransferProtocolBytes ∧
  readRequest.run payload=some (request,[]) ∧
   validFileTransferStreamRequest request=.ok ():=by
 simp only [decodeFileTransferStreamRequest,bind_unit_eq_ok,require_eq_ok,decide_eq_true_eq,
  found_bind_eq_ok,pure_eq_ok,whole_eq_some]
 constructor
 · rintro ⟨hsize,decoded,hread,hvalid,hsame⟩
   subst hsame
   exact ⟨hsize,hread,hvalid⟩
 · rintro ⟨hsize,hread,hvalid⟩
   exact ⟨hsize,request,hread,hvalid,rfl⟩

lemma request_exact : encodeFileTransferStreamRequest request=.ok payload ↔
 decodeFileTransferStreamRequest payload=.ok request:=by
 rw [encodeRequest_iff,decodeRequest_iff]
 constructor
 · intro ⟨hvalid,_,hsize,hpayload⟩
   subst hpayload
   have hread:=readRequest_append (requestTexts_valid hvalid) []
   rw [List.append_nil] at hread
   exact ⟨hsize,hread,hvalid⟩
 · intro ⟨hsize,hread,hvalid⟩
   have hpayload:=takes_request hread
   rw [List.append_nil] at hpayload
   subst hpayload
   exact ⟨hvalid,
    fun text htext=>(validProtocolText_small (requestTexts_valid hvalid text htext)).1,
    hsize,rfl⟩

end Requests

section Reservations
variable {reservation : FileTransferReservation} {payload : Bytes}

lemma encodeReservation_iff : encodeFileTransferReservation reservation=.ok payload ↔
 (reservationComplete reservation=true ∧
   (reservationTexts reservation).all validProtocolText=true) ∧
  (∀text∈reservationTexts reservation,text.length<2 ^ 32) ∧
   (reservationPayload reservation).length≤kMaximumFileTransferProtocolBytes ∧
    reservationPayload reservation=payload:=by
 simp only [encodeFileTransferReservation,bind_unit_eq_ok,require_eq_ok,decide_eq_true_eq,
  PayloadLimit.finish_eq_ok,frameLimit]

lemma decodeReservation_iff : decodeFileTransferReservation payload=.ok reservation ↔
 payload.length≤kMaximumFileTransferProtocolBytes ∧
  readReservation.run payload=some (reservation,[]) ∧ reservationComplete reservation=true ∧
    (reservationTexts reservation).all validUtf8WithoutNul=true:=by
 simp only [decodeFileTransferReservation,bind_unit_eq_ok,require_eq_ok,decide_eq_true_eq,
  found_bind_eq_ok,pure_eq_ok,whole_eq_some]
 constructor
 · rintro ⟨hsize,decoded,hread,hvalid,hsame⟩
   subst hsame
   exact ⟨hsize,hread,hvalid⟩
 · rintro ⟨hsize,hread,hvalid⟩
   exact ⟨hsize,reservation,hread,hvalid,rfl⟩

lemma readReservation_append
 (h:∀text∈reservationTexts reservation,text.length<2 ^ 32) (rest : Bytes):
 readReservation.run (reservationPayload reservation++rest)=some (reservation,rest):=by
 have hrevision:=h reservation.tempSnapshot.sourceRevisionUtf8 (by simp [reservationTexts])
 have hidentity:=h reservation.destinationParentIdentityUtf8 (by simp [reservationTexts])
 have hparent:=h reservation.destinationParentRevisionUtf8 (by simp [reservationTexts])
 simp only [readReservation,reservationPayload,List.append_assoc,address_bind,
  snapshot_bind hrevision,Reader.readString_bind _ _ hidentity,
  Reader.readString_bind _ _ hparent,Reader.run_pure]

lemma takes_reservation (h:readReservation.run input=some (reservation,rest)):
 input=reservationPayload reservation++rest:=by
 simp only [readReservation,Reader.bind_eq_some,Reader.pure_eq_some] at h
 obtain ⟨a,_,haddress,snapshot,_,hsnapshot,identity,_,hidentity,revision,_, hrevision,rfl,rfl⟩ := h
 rw [takes_address haddress,takes_snapshot _ _ _ hsnapshot,Reader.takes_string _ _ _ hidentity,
  Reader.takes_string _ _ _ hrevision]
 simp only [reservationPayload,List.append_assoc]

lemma reservationTexts_length (h:text∈reservationTexts reservation):
 text.length≤(reservationPayload reservation).length:=by
 simp only [reservationTexts,List.mem_cons,List.not_mem_nil,or_false] at h
 simp only [reservationPayload,appendSnapshot,List.length_append,appendString_length]
 obtain rfl | rfl | rfl:=h
 · omega
 · omega
 · omega

lemma reservation_exact : encodeFileTransferReservation reservation=.ok payload ↔
 decodeFileTransferReservation payload=.ok reservation:=by
 rw [encodeReservation_iff,decodeReservation_iff]
 constructor
 · intro ⟨⟨hcomplete,htexts⟩,hlength,hsize,hpayload⟩
   subst hpayload
   have hread:=readReservation_append hlength []
   rw [List.append_nil] at hread
   refine ⟨hsize,hread,hcomplete,List.all_eq_true.mpr fun text htext=>?_⟩
   exact (validProtocolText_small (List.all_eq_true.mp htexts text htext)).2
 · intro ⟨hsize,hread,hcomplete,htexts⟩
   have hpayload:=takes_reservation hread
   rw [List.append_nil] at hpayload
   subst hpayload
   have hlength (text : Bytes) (htext:text∈reservationTexts reservation):
     text.length≤kMaximumFileTransferProtocolBytes:=
    (reservationTexts_length htext).trans hsize
   refine ⟨⟨hcomplete,List.all_eq_true.mpr fun text htext=>?_⟩,fun text htext=>?_,hsize,rfl⟩
   · exact decide_eq_true ⟨hlength text htext,List.all_eq_true.mp htexts text htext⟩
   · exact (hlength text htext).trans_lt (by decide)

end Reservations

section Acks
variable {ack : FileTransferReservationAck} {payload : Bytes}

lemma encodeAck_iff : encodeFileTransferReservationAck ack=.ok payload ↔
 validAddress ack.toFrameAddress=true ∧ ackPayload ack=payload:=by
 simp only [encodeFileTransferReservationAck,bind_unit_eq_ok,require_eq_ok,pure_eq_ok]

lemma decodeAck_iff : decodeFileTransferReservationAck payload=.ok ack ↔
 payload.length≤kMaximumFileTransferProtocolBytes ∧ readAck.run payload=some (ack,[]):=by
 simp only [decodeFileTransferReservationAck,bind_unit_eq_ok,require_eq_ok,decide_eq_true_eq,
  found_eq_ok,whole_eq_some]

lemma ackPayload_length (ack : FileTransferReservationAck):
 (ackPayload ack).length=24+kFileTransferRequestTokenBytes:=by
 simp only [ackPayload,List.length_append,appendAddress_length,appendInteger_length,
  WireInteger.width]
 omega

lemma readAck_append (h:validAddress ack.toFrameAddress=true) (rest : Bytes):
 readAck.run (ackPayload ack++rest)=some (ack,rest):=by
 have hflag:((if ack.accepted then 1 else 0 : UInt8)≤1) ∧
   decide ((if ack.accepted then 1 else 0 : UInt8)≠0)=ack.accepted:=by
  cases ack.accepted with
  | false=>decide
  | true=>decide
 simp only [readAck,ackPayload,List.append_assoc,address_bind,Reader.readInteger_bind,
  Reader.check_bind,h,hflag]
 rfl

lemma takes_ack (h:readAck.run input=some (ack,rest)):
 input=ackPayload ack++rest ∧ validAddress ack.toFrameAddress=true:=by
 simp only [readAck,Reader.bind_eq_some,Reader.check_eq_some,Reader.pure_eq_some] at h
 obtain ⟨a,_,haddress,accepted,_,haccepted,r8,_,hr8,r16,_,hr16,_,_, ⟨hcheck,rfl⟩,rfl,rfl⟩ := h
 obtain ⟨hvalid,hone,rfl,rfl⟩:=of_decide_eq_true hcheck
 have hflag:(if decide (accepted≠0) then 1 else 0 : UInt8)=accepted:=by
  by_cases hzero:accepted=0
  · simp [hzero]
  · have hvalue:accepted=1:=by
     apply UInt8.toNat.inj
     have hle:=UInt8.le_iff_toNat_le.mp hone
     have hpos:accepted.toNat≠0:=fun h=>hzero (UInt8.toNat.inj h)
     change accepted.toNat≤1 at hle
     change accepted.toNat=1
     omega
    simp [hvalue]
 refine ⟨?_,hvalid⟩
 rw [takes_address haddress,Reader.takes_integer _ _ _ haccepted,Reader.takes_integer _ _ _ hr8,
  Reader.takes_integer _ _ _ hr16]
 simp only [ackPayload,hflag,List.append_assoc]

lemma ack_exact : encodeFileTransferReservationAck ack=.ok payload ↔
 decodeFileTransferReservationAck payload=.ok ack:=by
 rw [encodeAck_iff,decodeAck_iff]
 constructor
 · intro ⟨hvalid,hpayload⟩
   subst hpayload
   have hread:=readAck_append hvalid []
   rw [List.append_nil] at hread
   exact ⟨by rw [ackPayload_length]; decide,hread⟩
 · intro ⟨_,hread⟩
   obtain ⟨hpayload,hvalid⟩:=takes_ack hread
   rw [List.append_nil] at hpayload
   exact ⟨hvalid,hpayload.symm⟩

end Acks

section Progress
variable {progress : FileTransferProgress} {payload : Bytes}

lemma encodeProgress_iff : encodeFileTransferProgress progress=.ok payload ↔
 validAddress progress.toFrameAddress=true ∧ progressPayload progress=payload:=by
 simp only [encodeFileTransferProgress,bind_unit_eq_ok,require_eq_ok,pure_eq_ok]

lemma decodeProgress_iff : decodeFileTransferProgress payload=.ok progress ↔
 payload.length≤kMaximumFileTransferProtocolBytes ∧
  readProgress.run payload=some (progress,[]):=by
 simp only [decodeFileTransferProgress,bind_unit_eq_ok,require_eq_ok,decide_eq_true_eq,
  found_eq_ok,whole_eq_some]

lemma progressPayload_length (progress : FileTransferProgress):
 (progressPayload progress).length=28+kFileTransferRequestTokenBytes:=by
 simp only [progressPayload,List.length_append,appendAddress_length,appendInteger_length,
  WireInteger.width]
 omega

lemma progress_exact : encodeFileTransferProgress progress=.ok payload ↔
 decodeFileTransferProgress payload=.ok progress:=by
 rw [encodeProgress_iff,decodeProgress_iff]
 constructor
 · intro ⟨hvalid,hpayload⟩
   subst hpayload
   have hread:=Reader.readInteger_append progress.bytesWritten []
   rw [List.append_nil] at hread
   refine ⟨by rw [progressPayload_length]; decide,?_⟩
   rw [readProgress,progressPayload,address_bind,Reader.run_bind,hread,Option.bind_some,
    Reader.check_bind,if_pos hvalid]
   rfl
 · intro ⟨_,hread⟩
   simp only [readProgress,Reader.bind_eq_some,Reader.check_eq_some,Reader.pure_eq_some] at hread
   obtain ⟨a,_,haddress,bytes,_,hbytes,_,_,⟨hvalid,rfl⟩,rfl,rfl⟩:=hread
   refine ⟨hvalid,?_⟩
   rw [takes_address haddress,Reader.takes_integer _ _ _ hbytes,progressPayload,List.append_nil]

end Progress

section Results
variable {result : FileTransferStreamResult} {payload : Bytes}

lemma encodeResult_iff : encodeFileTransferStreamResult result=.ok payload ↔
 (resultConsistent result=true ∧ (resultTexts result).all validProtocolText=true) ∧
  (∀text∈resultTexts result,text.length<2 ^ 32) ∧
   (resultPayload result).length≤kMaximumFileTransferProtocolBytes ∧
    resultPayload result=payload:=by
 simp only [encodeFileTransferStreamResult,bind_unit_eq_ok,require_eq_ok,decide_eq_true_eq,
  PayloadLimit.finish_eq_ok,frameLimit]

/-- A result frame read in its three parts. -/
def readResult : Reader FileTransferStreamResult := do
 let header ← readResultHeader
 let contentSha256 ← Reader.readFixed kFileTransferDigestBytes
 let detailUtf8 ← Reader.readString
 pure { header with contentSha256:=contentSha256,detailUtf8:=detailUtf8 }

lemma decodeResult_iff : decodeFileTransferStreamResult payload=.ok result ↔
 payload.length≤kMaximumFileTransferProtocolBytes ∧ readResult.run payload=some (result,[]) ∧
   (resultTexts result).all validUtf8WithoutNul=true ∧ resultConsistent result=true:=by
 simp only [decodeFileTransferStreamResult,readResult,bind_unit_eq_ok,require_eq_ok,
  decide_eq_true_eq,found_bind_eq_ok,pure_eq_ok,whole_eq_some,Reader.bind_eq_some,
  Reader.pure_eq_some,Prod.exists]
 constructor
 · rintro ⟨hsize,header,_,hheader,digest,_,hdigest,detail,hdetail,htexts,hconsistent, hsame⟩
   subst hsame
   exact ⟨hsize,⟨header,_,hheader,digest,_,hdigest,detail,_,hdetail,rfl,rfl⟩,htexts, hconsistent⟩
 · rintro ⟨hsize,⟨header,_,hheader,digest,_,hdigest,detail,_,hdetail,hsame,hrest⟩,htexts,
    hconsistent⟩
   subst hsame
   subst hrest
   exact ⟨hsize,header,_,hheader,digest,_,hdigest,detail,hdetail,htexts,hconsistent,rfl⟩

lemma readResult_append (h:∀text∈resultTexts result,text.length<2 ^ 32) (rest : Bytes):
 readResult.run (resultPayload result++rest)=some (result,rest):=by
 have hsource:=h result.sourceSnapshot.sourceRevisionUtf8 (by simp [resultTexts])
 have htemp:=h result.tempSnapshot.sourceRevisionUtf8 (by simp [resultTexts])
 have hdetail:=h result.detailUtf8 (by simp [resultTexts])
 have hheader (tail : Bytes) : readResultHeader.run (appendAddress resultMagic
   result.toFrameAddress++(appendEnum result.status++(appendEnum result.evidence ++
   (appendInteger (0 : UInt16)++(appendInteger result.platformCode ++
   (appendInteger result.bytesWritten++(appendSnapshot result.sourceSnapshot ++
   (appendSnapshot result.tempSnapshot++tail))))))))=
   some ({ result with contentSha256:=.zero _,detailUtf8:=[] },tail):=by
  simp only [readResultHeader,address_bind,Reader.readEnum_bind,Reader.readInteger_bind,
   snapshot_bind hsource,snapshot_bind htemp,Reader.check_bind]
  rfl
 simp only [readResult,resultPayload,List.append_assoc]
 rw [Reader.run_bind,hheader,Option.bind_some]
 simp only [Reader.readFixed_bind,Reader.readString_bind _ _ hdetail,Reader.run_pure]

lemma takes_result (h:readResult.run input=some (result,rest)):
 input=resultPayload result++rest:=by
 simp only [readResult,readResultHeader,Reader.bind_eq_some,Reader.check_eq_some,
  Reader.pure_eq_some] at h
 obtain ⟨_,_,⟨a,_,haddress,status,_,hstatus,evidence,_,hevidence,r16,_,hr16,
  platform,_,hplatform,bytes,_,hbytes,source,_,hsource,temp,_,htemp,_,_,
  ⟨hcheck,rfl⟩,rfl,rfl⟩,digest,_,hdigest,detail,_,hdetail,rfl,rfl⟩ := h
 have hzero:=of_decide_eq_true hcheck
 subst hzero
 rw [takes_address haddress,Reader.takes_enum (by decide) _ _ _ hstatus,
  Reader.takes_enum (by decide) _ _ _ hevidence,Reader.takes_integer _ _ _ hr16,
  Reader.takes_integer _ _ _ hplatform,Reader.takes_integer _ _ _ hbytes,
  takes_snapshot _ _ _ hsource,takes_snapshot _ _ _ htemp,Reader.takes_fixed _ _ _ _ hdigest,
  Reader.takes_string _ _ _ hdetail]
 simp only [resultPayload,List.append_assoc]

lemma resultTexts_length (h:text∈resultTexts result):
 text.length≤(resultPayload result).length:=by
 simp only [resultTexts,List.mem_cons,List.not_mem_nil,or_false] at h
 simp only [resultPayload,appendSnapshot,List.length_append,appendString_length]
 obtain rfl | rfl | rfl:=h
 · omega
 · omega
 · omega

lemma result_exact : encodeFileTransferStreamResult result=.ok payload ↔
 decodeFileTransferStreamResult payload=.ok result:=by
 rw [encodeResult_iff,decodeResult_iff]
 constructor
 · intro ⟨⟨hconsistent,htexts⟩,hlength,hsize,hpayload⟩
   subst hpayload
   have hread:=readResult_append hlength []
   rw [List.append_nil] at hread
   refine ⟨hsize,hread,List.all_eq_true.mpr fun text htext=>?_,hconsistent⟩
   exact (validProtocolText_small (List.all_eq_true.mp htexts text htext)).2
 · intro ⟨hsize,hread,htexts,hconsistent⟩
   have hpayload:=takes_result hread
   rw [List.append_nil] at hpayload
   subst hpayload
   have hlength (text : Bytes) (htext:text∈resultTexts result):
     text.length≤kMaximumFileTransferProtocolBytes:=
    (resultTexts_length htext).trans hsize
   refine ⟨⟨hconsistent,List.all_eq_true.mpr fun text htext=>?_⟩,fun text htext=>?_,hsize, rfl⟩
   · exact decide_eq_true ⟨hlength text htext,List.all_eq_true.mp htexts text htext⟩
   · exact (hlength text htext).trans_lt (by decide)

end Results

inductive FrameKind where
 | request
 | reservation
 | ack
 | progress
 | result
 deriving DecidableEq

inductive Message where
 | request (request : FileTransferStreamRequest)
 | reservation (reservation : FileTransferReservation)
 | ack (ack : FileTransferReservationAck)
 | progress (progress : FileTransferProgress)
 | result (result : FileTransferStreamResult)
 deriving DecidableEq

def Message.frameKind : Message → FrameKind
 | .request _=>.request
 | .reservation _=>.reservation
 | .ack _=>.ack
 | .progress _=>.progress
 | .result _=>.result

/-- The kind the client tells a helper's message by; it reads no others. -/
def FrameKind.messageKind : FrameKind → Option FileTransferMessageKind
 | .reservation=>some .reservation
 | .progress=>some .progress
 | .result=>some .complete
 | .request | .ack=>none

def encode : Message → Except Thrown Bytes
 | .request request=>encodeFileTransferStreamRequest request
 | .reservation reservation=>encodeFileTransferReservation reservation
 | .ack ack=>encodeFileTransferReservationAck ack
 | .progress progress=>encodeFileTransferProgress progress
 | .result result=>encodeFileTransferStreamResult result

def decode (kind : FrameKind) (payload : Bytes) : Except Bytes Message:=
 match kind with
 | .request=>Message.request <$> decodeFileTransferStreamRequest payload
 | .reservation=>Message.reservation <$> decodeFileTransferReservation payload
 | .ack=>Message.ack <$> decodeFileTransferReservationAck payload
 | .progress=>Message.progress <$> decodeFileTransferProgress payload
 | .result=>Message.result <$> decodeFileTransferStreamResult payload

variable {m message : Message}

lemma decode_iff {kind : FrameKind} : decode kind payload=.ok m ↔
  m.frameKind=kind ∧ encode m=.ok payload:=by
 constructor
 · intro h
   cases kind with
   | request=>
    obtain ⟨request,hdecode,rfl⟩:=(map_eq_ok _ _ _).mp h
    exact ⟨rfl,request_exact.mpr hdecode⟩
   | reservation=>
    obtain ⟨reservation,hdecode,rfl⟩:=(map_eq_ok _ _ _).mp h
    exact ⟨rfl,reservation_exact.mpr hdecode⟩
   | ack=>
    obtain ⟨ack,hdecode,rfl⟩:=(map_eq_ok _ _ _).mp h
    exact ⟨rfl,ack_exact.mpr hdecode⟩
   | progress=>
    obtain ⟨progress,hdecode,rfl⟩:=(map_eq_ok _ _ _).mp h
    exact ⟨rfl,progress_exact.mpr hdecode⟩
   | result=>
    obtain ⟨result,hdecode,rfl⟩:=(map_eq_ok _ _ _).mp h
    exact ⟨rfl,result_exact.mpr hdecode⟩
 · intro ⟨hkind,h⟩
   subst hkind
   cases m with
   | request request=>exact (map_eq_ok _ _ _).mpr ⟨request,request_exact.mp h,rfl⟩
   | reservation reservation=>
    exact (map_eq_ok _ _ _).mpr ⟨reservation,reservation_exact.mp h,rfl⟩
   | ack ack=>exact (map_eq_ok _ _ _).mpr ⟨ack,ack_exact.mp h,rfl⟩
   | progress progress=>exact (map_eq_ok _ _ _).mpr ⟨progress,progress_exact.mp h,rfl⟩
   | result result=>exact (map_eq_ok _ _ _).mpr ⟨result,result_exact.mp h,rfl⟩

def magicOf : FrameKind → UInt32
 | .request=>requestMagic
 | .reservation=>reservationMagic
 | .ack=>ackMagic
 | .progress=>progressMagic
 | .result=>resultMagic

lemma encode_header (h:encode m=.ok payload):
 ∃ rest,payload=appendInteger (magicOf m.frameKind) ++
  (appendInteger kFileTransferProtocolVersion++rest):=by
 have haddress (magic : UInt32) (a : FrameAddress) (rest : Bytes):
   ∃ tail,appendAddress magic a++rest=
    appendInteger magic++(appendInteger kFileTransferProtocolVersion++tail):=by
  simp only [appendAddress,List.append_assoc]
  exact ⟨_,rfl⟩
 cases m with
 | request request=>
  obtain ⟨-,-,-,rfl⟩:=encodeRequest_iff.mp h
  exact haddress _ _ _
 | reservation reservation=>
  obtain ⟨-,-,-,rfl⟩:=encodeReservation_iff.mp h
  exact haddress _ _ _
 | ack ack=>
  obtain ⟨-,rfl⟩:=encodeAck_iff.mp h
  exact haddress _ _ _
 | progress progress=>
  obtain ⟨-,rfl⟩:=encodeProgress_iff.mp h
  exact haddress _ _ _
 | result result=>
  obtain ⟨-,-,-,rfl⟩:=encodeResult_iff.mp h
  exact haddress _ _ _

lemma encode_size (h:encode m=.ok payload):
 payload.length≤kMaximumFileTransferProtocolBytes:=by
 cases m with
 | request request=>
  obtain ⟨-,-,hsize,rfl⟩:=encodeRequest_iff.mp h
  exact hsize
 | reservation reservation=>
  obtain ⟨-,-,hsize,rfl⟩:=encodeReservation_iff.mp h
  exact hsize
 | ack ack=>exact (decodeAck_iff.mp (ack_exact.mp h)).1
 | progress progress=>exact (decodeProgress_iff.mp (progress_exact.mp h)).1
 | result result=>
  obtain ⟨-,-,hsize,rfl⟩:=encodeResult_iff.mp h
  exact hsize

lemma frameKind_unique {other : Message} (h:encode m=.ok payload)
 (hother:encode other=.ok payload) : m.frameKind=other.frameKind:=by
 obtain ⟨rest,hrest⟩:=encode_header h
 obtain ⟨rest',hrest'⟩:=encode_header hother
 have hread:=Reader.readInteger_append (magicOf m.frameKind)
  (appendInteger kFileTransferProtocolVersion++rest)
 rw [←hrest,hrest',Reader.readInteger_append] at hread
 have hmagic:magicOf other.frameKind=magicOf m.frameKind:=by
  simpa using congrArg (Option.map Prod.fst) hread
 revert hmagic
 generalize m.frameKind=kind
 generalize other.frameKind=kind'
 cases kind<;>cases kind'<;>decide

lemma decode_kind {kind : FileTransferMessageKind} (h:encode m=.ok payload)
 (hkind:m.frameKind.messageKind=some kind):
 decodeFileTransferMessageKind payload=.ok kind:=by
 have hsize:=encode_size h
 obtain ⟨rest,rfl⟩:=encode_header h
 have hread:readMessageHeader.run (appendInteger (magicOf m.frameKind) ++
   (appendInteger kFileTransferProtocolVersion++rest))=
   some (magicOf m.frameKind,rest):=by
  rw [readMessageHeader,Reader.readInteger_bind,Reader.readInteger_bind,Reader.check_bind,
   if_pos (by decide)]
  rfl
 have hfound:kindOfMagic (magicOf m.frameKind)=some kind:=by
  revert hkind
  generalize m.frameKind=frameKind
  cases frameKind<;>cases kind<;>decide
 simp only [decodeFileTransferMessageKind,bind_unit_eq_ok,require_eq_ok,decide_eq_true_eq,
  found_bind_eq_ok,found_eq_ok]
 exact ⟨hsize,_,hread,hfound⟩

/-- What can be sent is read as what it is, the decoders accept nothing but what their
  encoder writes, and no decoder accepts the frame of another. -/
structure Exact (message : Message) (payload : Bytes) : Prop where
 accepted : encode message=.ok payload → decode message.frameKind payload=.ok message
 canonical : ∀kind,decode kind payload=.ok message → encode message=.ok payload
 named : ∀kind,encode message=.ok payload → message.frameKind.messageKind=some kind →
  decodeFileTransferMessageKind payload=.ok kind
 apart : ∀kind,encode message=.ok payload → kind≠message.frameKind →
  ∃ detail,decode kind payload=.error detail

/-- The file-transfer helper protocol is exact for every frame and every payload. -/
theorem protocol_exact (message : Message) (payload : Bytes) : Exact message payload:=by
 constructor
 · intro h
   exact decode_iff.mpr ⟨rfl,h⟩
 · intro kind h
   exact (decode_iff.mp h).2
 · intro kind h hkind
   exact decode_kind h hkind
 · intro kind h hkind
   cases hdecode:decode kind payload with
   | error detail=>exact ⟨detail,rfl⟩
   | ok other=>
    obtain ⟨rfl,hother⟩:=decode_iff.mp hdecode
    exact absurd (frameKind_unique hother h) hkind

end VoVe.FileTransferProtocolExact
