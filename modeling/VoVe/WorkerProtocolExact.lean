import VoVe.WorkerProtocol

set_option autoImplicit false

namespace VoVe.WorkerProtocol
open ByteCodec Checks ScanCodec TransactionCodec

section Frames
variable {kind : MessageKind} {j jobId : JobId} {p payload bytes : Bytes}

lemma ofCode_eq_some (code : UInt16):
 MessageKind.ofCode code=some kind ↔ code=kind.code:=by
 constructor
 · intro h
   have hfound:=List.find?_some h
   exact (of_decide_eq_true hfound).symm
 · intro h
   subst h
   cases kind with
   | _=>rfl

lemma makeFrame_iff : makeFrame kind j p=.ok bytes ↔ p.length≤kMaximumPayloadBytes ∧
  appendHeader (frameVersion.header kind.code j p)++p=bytes:=by
 simp only [makeFrame,bind_unit_eq_ok,require_eq_ok,Checks.pure_eq_ok,decide_eq_true_eq]
 constructor
 · intro h
   exact ⟨h.1,h.2.2⟩
 · intro h
   have hsize:=h.1
   refine ⟨hsize,?_,h.2⟩
   simp only [kMaximumPayloadBytes,frameHeaderBytes] at hsize ⊢
   omega

lemma payload_small (hsize:p.length≤kMaximumPayloadBytes):
 frameHeaderBytes+p.length<2 ^ 32:=by
 simp only [kMaximumPayloadBytes,frameHeaderBytes] at hsize ⊢
 omega

lemma decodeTypedFrame_iff (bytes : Bytes) (kind : MessageKind) (j : JobId)
 (p : Bytes) : decodeTypedFrame bytes kind=.ok (j,p) ↔ makeFrame kind j p=.ok bytes:=by
 simp only [decodeTypedFrame,decodeFrame,bind_pair_eq_ok,bind_unit_eq_ok,require_eq_ok,
  decide_eq_true_eq,Checks.pure_eq_ok,makeFrame_iff,Prod.mk.injEq]
 constructor
 · intro h
   obtain ⟨_,_,⟨hlong,header,r,hscan,hmagic,hversion,-,hflags,hlarge,htotal,rfl,
    rfl⟩,hkind,rfl,rfl⟩ := h
   obtain ⟨-,more,rfl⟩:=(scanHeader_first _ _ _ _).mp ⟨hlong,hscan⟩
   rw [List.length_append,appendHeader_length] at htotal
   rw [←appendHeader_length header,List.drop_left,←(ofCode_eq_some header.kind).mp hkind,
    header_unique hmagic hversion hflags htotal.2]
   refine ⟨?_,rfl⟩
   simp only [kMaximumFrameBytes] at hlarge
   omega
 · intro h
   obtain ⟨hsize,rfl⟩:=h
   have htotal:=totalSize_toNat frameVersion kind.code j (payload_small hsize)
   have hkind:MessageKind.ofCode kind.code=some kind:=(ofCode_eq_some kind.code).mpr rfl
   obtain ⟨hlong,hscan⟩:=(scanHeader_first
    (fail .truncated "worker protocol header is truncated") _ []
    (frameVersion.header kind.code j p)).mpr ⟨rfl,p,rfl⟩
   refine ⟨frameVersion.header kind.code j p,p,
    ⟨hlong,_,[],hscan,rfl,⟨rfl,rfl⟩,?_,rfl,?_,?_,rfl,?_⟩,hkind,rfl,rfl⟩
   · change (MessageKind.ofCode kind.code).isSome=true
     rw [hkind]
     rfl
   · rw [htotal,kMaximumFrameBytes]
     omega
   · rw [htotal,List.length_append,appendHeader_length]
     exact ⟨Nat.le_add_right _ _,rfl⟩
   · rw [←appendHeader_length (frameVersion.header kind.code j p),List.drop_left]

lemma fieldText_bind {α : Type} {maximumBytes : ℕ} (hsmall:maximumBytes<2 ^ 16)
 (field : String) (f : Bytes → Scanner DecodeError α) (input r : Bytes) (value : α):
 (fieldText maximumBytes field >>= f).run input=.ok (value,r) ↔
  ∃ text mid,(text.length ≤ maximumBytes ∧ input=appendString16 text++mid) ∧
   (f text).run mid=.ok (value,r):=by
 rw [fieldText,sizedText_bind fun size hsize=>(of_decide_eq_true hsize).trans_lt hsmall]
 simp only [decide_eq_true_eq]

end Frames

section Handshakes
variable {handshake : Handshake} {bytes : Bytes}

lemma scanHandshake_iff (j : JobId) (s r : Bytes) : (scanHandshake j).run s=.ok (handshake,r) ↔
  validBuildId handshake.buildId=true ∧ j=0 ∧
   s=appendInteger handshake.capabilities++appendString16 handshake.buildId ∧
   r=[]:=by
 simp only [scanHandshake,ensure_bind,integer_bind,finish_bind,ScanCodec.pure_eq_ok,
  decide_eq_true_eq,fieldText_bind (show kMaximumBuildIdBytes<2 ^ 16 by decide)]
 constructor
 · intro h
   obtain ⟨hid,capabilities,_,rfl,buildId,_,⟨-,rfl⟩,rfl,hvalid,rfl,rfl⟩:=h
   exact ⟨hvalid,hid,by rw [List.append_nil],rfl⟩
 · intro h
   obtain ⟨hvalid,hid,rfl,rfl⟩:=h
   have hsize:=hvalid
   simp only [validBuildId,decide_eq_true_eq] at hsize
   exact ⟨hid,handshake.capabilities,_,rfl,handshake.buildId,[],
    ⟨hsize.2.1,(List.append_nil _).symm⟩,rfl,hvalid,rfl,rfl⟩

lemma handshake_exact {kind : MessageKind}
 (hkind:kind=.handshake ∨ kind=.handshakeAcknowledgement):
 encodeHandshake handshake kind=.ok bytes ↔ decodeHandshake bytes kind=.ok handshake:=by
 rw [decodeHandshake,←exact_of_scanner (decodeTypedFrame_iff bytes kind) scanHandshake_iff,
  encodeHandshake,bind_unit_eq_ok,require_eq_ok,decide_eq_true_eq]
 exact and_iff_right hkind

end Handshakes

section Jobs
variable {job : WorkerJob} {bytes : Bytes}

lemma scanJob_iff (j : JobId) (s r : Bytes) : (scanJob j).run s=.ok (job,r) ↔
  validJob job=true ∧ j=job.jobId ∧ s=jobPayload job ∧ r=[]:=by
 simp only [scanJob,integer_bind,finish_bind,present_eq_ok,Option.filter_eq_some_iff,
  Option.map_eq_some_iff,fieldText_bind (show kMaximumPasswordBytes<2 ^ 16 by decide),
  enumOfCode_eq_some (show (WireEnum.values : List SourceFormatHint).Nodup by decide)]
 constructor
 · intro h
   obtain ⟨generation,_,rfl,source,_,rfl,output,_,rfl,profile,_,rfl,page,_,rfl,_,
    _,rfl,password,_,⟨-,rfl⟩,input,_,rfl,outputBytes,_,rfl,memory,_,rfl,wall,_,
    rfl,edge,_,rfl,rfl,⟨⟨hint,rfl,rfl⟩,hvalid⟩,rfl⟩ := h
   refine ⟨hvalid,rfl,?_,rfl⟩
   simp only [jobPayload,List.append_nil]
 · intro h
   obtain ⟨hvalid,rfl,rfl,rfl⟩:=h
   have hsize:=hvalid
   simp only [validJob,decide_eq_true_eq] at hsize
   obtain ⟨-,-,-,-,-,-,-,hpassword,-⟩:=hsize
   exact ⟨job.generation,_,rfl,job.sourceToken,_,rfl,job.outputToken,_,rfl,
    job.profileToken,_,rfl,job.pageIndex,_,rfl,_,_,rfl,job.passwordUtf8,_,
    ⟨hpassword,rfl⟩,job.limits.maximumInputBytes,_,rfl,job.limits.maximumOutputBytes,_,
    rfl,job.limits.memoryLimitBytes,_,rfl,job.limits.wallTimeoutMs,_,rfl,
    job.limits.canonicalEdge,[],(List.append_nil _).symm,rfl,⟨⟨_,rfl,rfl⟩,hvalid⟩,rfl⟩

lemma workerJob_exact : encodeWorkerJob job=.ok bytes ↔ decodeWorkerJob bytes=.ok job:=
 exact_of_scanner (decodeTypedFrame_iff bytes _) scanJob_iff

end Jobs

section Results
variable {result : WorkerResult} {bytes : Bytes}

lemma resultParts_length (result : WorkerResult):
 (resultParts result).flatten.length=resultPayloadSize result:=by
 simp only [resultParts,List.flatten_cons,List.flatten_nil,List.length_append,
  appendInteger_length,appendString16_length,WireInteger.width,List.length_nil,
  resultPayloadSize]
 omega

lemma resultPayload_filled (result : WorkerResult):
 resultPayload result=some ((resultParts result).flatten,resultPayloadSize result):=
 fillBuffer_exact (resultParts_length result)

lemma validFingerprint_length {fingerprint : Bytes} (h:validFingerprint fingerprint=true):
 fingerprint.length≤kProfileFingerprintBytes:=by
 simp only [validFingerprint,decide_eq_true_eq] at h
 cases h with
 | inl hempty=>
  rw [hempty]
  exact Nat.zero_le _
 | inr hfull=>exact hfull.1.le

lemma scanResult_iff (j : JobId) (s r : Bytes) : (scanResult j).run s=.ok (result,r) ↔
  validResult result=true ∧ j=result.jobId ∧ s=(resultParts result).flatten ∧ r=[]:=by
 simp only [scanResult,integer_bind,finish_bind,ensure_bind,present_eq_ok,decide_eq_true_eq,
  Option.filter_eq_some_iff,Option.bind_eq_bind,Option.bind_eq_some_iff,Option.some.injEq,
  fieldText_bind (show kMaximumProfileNameBytes<2 ^ 16 by decide),
  fieldText_bind (show kProfileFingerprintBytes<2 ^ 16 by decide),
  fieldText_bind (show kMaximumDiagnosticBytes<2 ^ 16 by decide),
  enumOfCode_eq_some (show (WireEnum.values : List ResultStatus).Nodup by decide),
  enumOfCode_eq_some (show (WireEnum.values : List ColorModel).Nodup by decide),
  enumOfCode_eq_some (show (WireEnum.values : List PreviewProvenance).Nodup by decide)]
 constructor
 · intro h
   obtain ⟨_,_,h1,_,_,h2,_,_,h3,_,_,h4,width,_,h5,height,_,h6,page,_,h7,
    pages,_,h8,written,_,h9,profile,_,⟨-,h10⟩,fingerprint,_,⟨-,h11⟩,diagnostic,_,
    ⟨-,h12⟩,h13,hreserved,⟨⟨status,hstatus,model,hmodel,provenance,hprovenance,
    hsame⟩,hvalid⟩,hrest⟩ := h
   subst hsame
   refine ⟨hvalid,rfl,?_,hrest.symm⟩
   rw [h1,h2,h3,h4,h5,h6,h7,h8,h9,h10,h11,h12,h13,hreserved,hstatus,hmodel, hprovenance]
   simp only [resultParts,List.flatten_cons,List.flatten_nil]
 · intro h
   obtain ⟨hvalid,rfl,rfl,rfl⟩:=h
   have hsize:=hvalid
   simp only [validResult,decide_eq_true_eq] at hsize
   obtain ⟨-,-,-,-,-,-,hprofile,hfingerprint,hdiagnostic,-⟩:=hsize
   simp only [resultParts,List.flatten_cons,List.flatten_nil]
   exact ⟨_,_,rfl,_,_,rfl,_,_,rfl,_,_,rfl,result.width,_,rfl,result.height,_,rfl,
    result.pageIndex,_,rfl,result.pageCount,_,rfl,result.bytesWritten,_,rfl,
    result.colorProfileUtf8,_,⟨hprofile,rfl⟩,result.sourceProfileFingerprint,_,
    ⟨validFingerprint_length hfingerprint,rfl⟩,result.diagnosticUtf8,[],⟨hdiagnostic,rfl⟩,
    rfl,rfl,⟨⟨_,rfl,_,rfl,_,rfl,rfl⟩,hvalid⟩,trivial⟩

lemma workerResult_exact:
 encodeWorkerResult result=.ok bytes ↔ decodeWorkerResult bytes=.ok result:=by
 rw [decodeWorkerResult,←exact_of_scanner (decodeTypedFrame_iff bytes _) scanResult_iff,
  encodeWorkerResult,resultPayload_filled]
 exact Iff.rfl

end Results

section Notices
variable {bytes : Bytes}

lemma cancelGeneration_exact {cancel : CancelGeneration}:
 encodeCancelGeneration cancel=.ok bytes ↔ decodeCancelGeneration bytes=.ok cancel:=by
 apply exact_of_scanner (decodeTypedFrame_iff bytes _)
 intro id s r
 simp only [scanCancelGeneration,ensure_bind,integer_bind,finish_bind,ScanCodec.pure_eq_ok,
  decide_eq_true_eq]
 constructor
 · intro h
   obtain ⟨hid,generation,_,rfl,rfl,hgeneration,rfl,rfl⟩:=h
   exact ⟨hgeneration,hid,List.append_nil _,rfl⟩
 · intro h
   obtain ⟨hgeneration,hid,hscanned,rfl⟩:=h
   exact ⟨hid,cancel.generation,[],by rw [hscanned,List.append_nil],rfl,hgeneration,rfl, rfl⟩

lemma animationAdvance_exact {advance : AnimationAdvance}:
 encodeAnimationAdvance advance=.ok bytes ↔ decodeAnimationAdvance bytes=.ok advance:=by
 apply exact_of_scanner (decodeTypedFrame_iff bytes _)
 intro id s r
 simp only [scanAnimationAdvance,ensure_bind,integer_bind,finish_bind,ScanCodec.pure_eq_ok,
  decide_eq_true_eq]
 constructor
 · intro h
   obtain ⟨hid,code,_,rfl,rfl,hone,rfl,rfl⟩:=h
   have hcode:=(flag_iff code _).mp ⟨hone,rfl⟩
   exact ⟨hid,rfl,by rw [List.append_nil,←hcode],rfl⟩
 · intro h
   obtain ⟨hid,rfl,rfl,rfl⟩:=h
   obtain ⟨hone,hproceed⟩:=(flag_iff _ advance.proceed).mpr rfl
   refine ⟨hid,_,[],(List.append_nil _).symm,rfl,hone,?_,rfl⟩
   rw [←hproceed]

end Notices

section Animations
variable {frame : AnimationFrame} {bytes : Bytes}

lemma nestedResult_bind {α : Type} (f : WorkerResult → Scanner DecodeError α)
 (input r : Bytes) (value : α) : (nestedResult >>= f).run input=.ok (value,r) ↔
  ∃ image,encodeWorkerResult image=.ok input ∧ (f image).run []=.ok (value,r):=by
 rw [ScanCodec.bind_eq_ok]
 simp only [workerResult_exact]
 change (∃ image mid,(decodeWorkerResult input).map (fun result=>(result,([] : Bytes)))=
  .ok (image,mid) ∧ (f image).run mid=.ok (value,r)) ↔ _
 cases decodeWorkerResult input with
 | error error=>simp [Except.map]
 | ok found=>simp [Except.map]

def animationPayload (frame : AnimationFrame) (nested : Bytes) : Bytes:=
 appendInteger frame.delayMs++(appendInteger frame.sequence ++
  (appendInteger (if frame.animated then 1 else 0 : UInt8)++nested))

lemma scanAnimationFrame_iff (j : JobId) (s r : Bytes):
 (scanAnimationFrame j).run s=.ok (frame,r) ↔
  (shownImage frame.image=true ∧ validDelay frame.delayMs=true) ∧
   j=frame.image.jobId ∧ r=[] ∧
   ∃ nested,encodeWorkerResult frame.image=.ok nested ∧ s=animationPayload frame nested:=by
 simp only [scanAnimationFrame,ensure_bind,integer_bind,nestedResult_bind,
  ScanCodec.pure_eq_ok,decide_eq_true_eq]
 constructor
 · intro h
   obtain ⟨delay,_,rfl,sequence,_,rfl,code,nested,rfl,⟨hone,hdelay⟩,image,hnested,
    ⟨hid,himage⟩,rfl,rfl⟩ := h
   have hcode:=(flag_iff code _).mp ⟨hone,rfl⟩
   refine ⟨⟨himage,hdelay⟩,hid.symm,rfl,nested,hnested,?_⟩
   rw [animationPayload,←hcode]
 · intro h
   obtain ⟨⟨himage,hdelay⟩,hid,rfl,nested,hnested,rfl⟩:=h
   obtain ⟨hone,hanimated⟩:=(flag_iff _ frame.animated).mpr rfl
   refine ⟨frame.delayMs,_,rfl,frame.sequence,_,rfl,_,nested,rfl,⟨hone,hdelay⟩,
    frame.image,hnested,⟨hid.symm,himage⟩,?_,rfl⟩
   rw [←hanimated]

lemma encodeAnimationFrame_iff : encodeAnimationFrame frame=.ok bytes ↔
 (shownImage frame.image=true ∧ validDelay frame.delayMs=true) ∧
  ∃ nested,encodeWorkerResult frame.image=.ok nested ∧
   makeFrame .animationFrame frame.image.jobId (animationPayload frame nested)=.ok bytes:=by
 rw [encodeAnimationFrame,bind_unit_eq_ok,require_eq_ok,decide_eq_true_eq,Checks.bind_eq_ok]
 rfl

lemma animationFrame_exact:
 encodeAnimationFrame frame=.ok bytes ↔ decodeAnimationFrame bytes=.ok frame:=by
 rw [encodeAnimationFrame_iff,decodeAnimationFrame,scanFrame]
 simp only [bind_pair_eq_ok,Checks.pure_eq_ok,decodeTypedFrame_iff,scanAnimationFrame_iff]
 constructor
 · intro ⟨hvalid,nested,hnested,hframe⟩
   exact ⟨frame.image.jobId,_,hframe,frame,[],⟨hvalid,rfl,rfl,nested,hnested,rfl⟩,rfl⟩
 · intro h
   obtain ⟨id,s,hframe,found,r,⟨hvalid,rfl,rfl,nested,hnested,rfl⟩,rfl⟩:=h
   exact ⟨hvalid,nested,hnested,hframe⟩

end Animations

section Messages
variable {m message : Message} {kind : MessageKind} {bytes : Bytes}

lemma decode_iff : decode kind bytes=.ok m ↔ m.kind=kind ∧ encode m=.ok bytes:=by
 constructor
 · intro h
   cases kind with
   | handshake=>
    obtain ⟨handshake,hdecode,rfl⟩:=(map_eq_ok _ _ _).mp h
    exact ⟨rfl,(handshake_exact (.inl rfl)).mpr hdecode⟩
   | handshakeAcknowledgement=>
    obtain ⟨handshake,hdecode,rfl⟩:=(map_eq_ok _ _ _).mp h
    exact ⟨rfl,(handshake_exact (.inr rfl)).mpr hdecode⟩
   | workerJob=>
    obtain ⟨job,hdecode,rfl⟩:=(map_eq_ok _ _ _).mp h
    exact ⟨rfl,workerJob_exact.mpr hdecode⟩
   | workerResult=>
    obtain ⟨result,hdecode,rfl⟩:=(map_eq_ok _ _ _).mp h
    exact ⟨rfl,workerResult_exact.mpr hdecode⟩
   | cancelGeneration=>
    obtain ⟨cancel,hdecode,rfl⟩:=(map_eq_ok _ _ _).mp h
    exact ⟨rfl,cancelGeneration_exact.mpr hdecode⟩
   | animationFrame=>
    obtain ⟨frame,hdecode,rfl⟩:=(map_eq_ok _ _ _).mp h
    exact ⟨rfl,animationFrame_exact.mpr hdecode⟩
   | animationAdvance=>
    obtain ⟨advance,hdecode,rfl⟩:=(map_eq_ok _ _ _).mp h
    exact ⟨rfl,animationAdvance_exact.mpr hdecode⟩
 · intro h
   obtain ⟨rfl,hencode⟩:=h
   cases m with
   | handshake handshake=>
    exact (map_eq_ok _ _ _).mpr ⟨handshake,(handshake_exact (.inl rfl)).mp hencode,rfl⟩
   | handshakeAcknowledgement handshake=>
    exact (map_eq_ok _ _ _).mpr ⟨handshake,(handshake_exact (.inr rfl)).mp hencode,rfl⟩
   | workerJob job=>exact (map_eq_ok _ _ _).mpr ⟨job,workerJob_exact.mp hencode,rfl⟩
   | workerResult result=>
    exact (map_eq_ok _ _ _).mpr ⟨result,workerResult_exact.mp hencode,rfl⟩
   | cancelGeneration cancel=>
    exact (map_eq_ok _ _ _).mpr ⟨cancel,cancelGeneration_exact.mp hencode,rfl⟩
   | animationFrame frame=>
    exact (map_eq_ok _ _ _).mpr ⟨frame,animationFrame_exact.mp hencode,rfl⟩
   | animationAdvance advance=>
    exact (map_eq_ok _ _ _).mpr ⟨advance,animationAdvance_exact.mp hencode,rfl⟩

lemma encode_frame (h:encode m=.ok bytes) : ∃ j p,makeFrame m.kind j p=.ok bytes:=by
 cases m with
 | handshake handshake=>
  exact ⟨_,_,((bind_unit_eq_ok _ _ _).mp ((bind_unit_eq_ok _ _ _).mp h).2).2⟩
 | handshakeAcknowledgement handshake=>
  exact ⟨_,_,((bind_unit_eq_ok _ _ _).mp ((bind_unit_eq_ok _ _ _).mp h).2).2⟩
 | workerResult result=>
  have hrest:=((bind_unit_eq_ok _ _ _).mp h).2
  rw [resultPayload_filled] at hrest
  exact ⟨_,_,hrest⟩
 | animationFrame frame=>
  obtain ⟨-,nested,-,hframe⟩:=encodeAnimationFrame_iff.mp h
  exact ⟨_,_,hframe⟩
 | _=>exact ⟨_,_,((bind_unit_eq_ok _ _ _).mp h).2⟩

lemma kind_unique {other : Message} (h:encode m=.ok bytes)
 (hother:encode other=.ok bytes) : m.kind=other.kind:=by
 obtain ⟨j,p,hframe⟩:=encode_frame h
 obtain ⟨otherId,otherPayload,hotherFrame⟩:=encode_frame hother
 have hsame:=(makeFrame_iff.mp hframe).2.trans (makeFrame_iff.mp hotherFrame).2.symm
 have hkind:m.kind.code=other.kind.code:=congrArg FrameHeader.kind (appendHeader_inj hsame).1
 have hcode:=(ofCode_eq_some m.kind.code).mpr rfl
 rw [hkind,(ofCode_eq_some other.kind.code).mpr rfl] at hcode
 exact (Option.some.inj hcode).symm

lemma require_no_overrun (condition : Bool) (thrown : Thrown) {α : Type}
 {next : Unit → Except EncodeFailure α} (hnext:next ()≠.error .overrun):
 (require condition (.thrown thrown) >>= next)≠.error .overrun:=by
 cases condition with
 | true=>exact hnext
 | false=>exact fun h=>EncodeFailure.noConfusion (Except.error.inj h)

lemma makeFrame_no_overrun (kind : MessageKind) (j : JobId) (p : Bytes):
 makeFrame kind j p≠.error .overrun:=by
 apply require_no_overrun
 apply require_no_overrun
 exact fun h=>by cases h

lemma encodeWorkerResult_no_overrun (result : WorkerResult):
 encodeWorkerResult result≠.error .overrun:=by
 apply require_no_overrun
 rw [resultPayload_filled]
 exact makeFrame_no_overrun _ _ _

lemma encode_no_overrun (m : Message) : encode m≠.error .overrun:=by
 cases m with
 | handshake handshake=>
  apply require_no_overrun
  apply require_no_overrun
  exact makeFrame_no_overrun _ _ _
 | handshakeAcknowledgement handshake=>
  apply require_no_overrun
  apply require_no_overrun
  exact makeFrame_no_overrun _ _ _
 | workerResult result=>exact encodeWorkerResult_no_overrun result
 | animationFrame frame=>
  apply require_no_overrun
  have hresult:=encodeWorkerResult_no_overrun frame.image
  cases hnested:encodeWorkerResult frame.image with
  | ok nested=>exact makeFrame_no_overrun _ _ _
  | error failure=>
   rw [hnested] at hresult
   exact fun h=>hresult (congrArg Except.error (Except.error.inj h))
 | _=>
  apply require_no_overrun
  exact makeFrame_no_overrun _ _ _

/-- What can be sent fits what is made for it and is read as what it is, the decoders accept
nothing but what their encoder writes, and no two of them accept the same frame. -/
structure Exact (message : Message) (bytes : Bytes) : Prop where
 fits : encode message≠.error .overrun
 filled : ∀result∈message.result, ∃ payload,resultPayload result=some (payload,payload.length)
 sized : encode message=.ok bytes → bytes.length≤kMaximumFrameBytes ∧
  ∃ jobId payload,decodeTypedFrame bytes message.kind=.ok (jobId,payload) ∧
   bytes.length=frameHeaderBytes+payload.length
 accepted : encode message=.ok bytes → decode message.kind bytes=.ok message
 canonical : ∀kind,decode kind bytes=.ok message → encode message=.ok bytes
 apart : ∀kind other,decode kind bytes=.ok message → other≠kind →
  ∃ error,decode other bytes=.error error

end Messages

end VoVe.WorkerProtocol
