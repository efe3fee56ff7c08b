import VoVe.PreviewProtocol

set_option autoImplicit false

namespace VoVe.PreviewProtocol
open ByteCodec AsciiText Checks ScanCodec
open ThumbnailQueue (ThumbnailPriority RequestGeneration)

section Frames
variable {type : MessageType} {r requestId : RequestId} {p payload bytes : Bytes}

lemma ofCode_eq_some (code : UInt16):
 MessageType.ofCode code=some type ↔ code=type.code:=by
 constructor
 · intro h
   have hfound:=List.find?_some h
   exact (of_decide_eq_true hfound).symm
 · intro h
   subst h
   cases type with
   | _=>rfl

lemma makeFrame_iff : makeFrame type r p=.ok bytes ↔ p.length≤kMaximumFramePayloadBytes ∧
  appendHeader (frameVersion.header type.code r p)++p=bytes:=by
 simp only [makeFrame,bind_unit_eq_ok,require_eq_ok,Checks.pure_eq_ok,decide_eq_true_eq]
 constructor
 · intro h
   exact ⟨h.1,h.2.2⟩
 · intro h
   have hsize:=h.1
   refine ⟨hsize,?_,h.2⟩
   simp only [kMaximumFramePayloadBytes,kMaximumFrameBytes,frameHeaderBytes] at hsize ⊢
   omega

lemma payload_small (hsize:p.length≤kMaximumFramePayloadBytes):
 frameHeaderBytes+p.length≤kMaximumFrameBytes ∧ frameHeaderBytes+p.length<2 ^ 32:=by
 simp only [kMaximumFramePayloadBytes,kMaximumFrameBytes,frameHeaderBytes] at hsize ⊢
 omega

lemma decodeHeader_iff (header:FrameHeader) : decodeHeader bytes=.ok header ↔
 (∃ more,bytes=appendHeader header++more) ∧ header.magic=kMagic ∧
  (header.major=kProtocolMajor ∧ header.minor=kProtocolMinor) ∧
  (MessageType.ofCode header.kind).isSome=true ∧ header.flags=0 ∧
  frameHeaderBytes≤header.totalSize.toNat ∧
  header.totalSize.toNat≤kMaximumFrameBytes:=by
 simp only [decodeHeader,bind_unit_eq_ok,require_eq_ok,bind_pair_eq_ok,decide_eq_true_eq,
  Checks.pure_eq_ok]
 constructor
 · intro h
   obtain ⟨hlong,found,rest,hscan,hmagic,hversion,htype,hflags,hsmall,hlarge,rfl⟩:=h
   have hfirst:=(scanHeader_first _ bytes rest found).mp ⟨hlong,hscan⟩
   exact ⟨hfirst.2,hmagic,hversion,htype,hflags,hsmall,hlarge⟩
 · intro h
   obtain ⟨hmore,hmagic,hversion,htype,hflags,hsmall,hlarge⟩:=h
   obtain ⟨hlong,hscan⟩:=(scanHeader_first _ bytes [] header).mpr ⟨rfl,hmore⟩
   exact ⟨hlong,header,[],hscan,hmagic,hversion,htype,hflags,hsmall,hlarge,rfl⟩

lemma decodeHeader_first (hframe:makeFrame type r p=.ok bytes):
 ∃ header,decodeHeader (bytes.take frameHeaderBytes)=.ok header ∧
  header.kind=type.code ∧ header.totalSize.toNat=bytes.length ∧
  bytes.length≤kMaximumFrameBytes:=by
 obtain ⟨hsize,rfl⟩:=makeFrame_iff.mp hframe
 obtain ⟨hlarge,hsmall⟩:=payload_small hsize
 have htotal:=totalSize_toNat frameVersion type.code r hsmall
 have htype:MessageType.ofCode type.code=some type:=(ofCode_eq_some type.code).mpr rfl
 refine ⟨frameVersion.header type.code r p,?_,rfl,?_,?_⟩
 · rw [decodeHeader_iff,htotal]
   refine ⟨⟨[],?_⟩,rfl,⟨rfl,rfl⟩,?_,rfl,Nat.le_add_right _ _,hlarge⟩
   · rw [List.append_nil,←appendHeader_length (frameVersion.header type.code r p), List.take_left]
   · change (MessageType.ofCode type.code).isSome=true
     rw [htype]
     rfl
 · rw [htotal,List.length_append,appendHeader_length]
 · rw [List.length_append,appendHeader_length]
   exact hlarge

lemma parseFrame_iff (bytes : Bytes) (type : MessageType) (r : RequestId)
 (p : Bytes) : parseFrame bytes type=.ok (r,p) ↔ makeFrame type r p=.ok bytes:=by
 rw [parseFrame,Checks.bind_eq_ok]
 simp only [bind_unit_eq_ok,require_eq_ok,decide_eq_true_eq,Checks.pure_eq_ok,
  decodeHeader_iff,makeFrame_iff,Prod.mk.injEq]
 constructor
 · intro h
   obtain ⟨header,⟨⟨more,rfl⟩,hmagic,hversion,-,hflags,-,hlarge⟩,htype,hlong,hshort,
    rfl,hpayload⟩ := h
   rw [←appendHeader_length header,List.drop_left] at hpayload
   subst hpayload
   rw [List.length_append,appendHeader_length] at hlong hshort
   have htotal:=Nat.le_antisymm hlong hshort
   rw [←(ofCode_eq_some header.kind).mp htype,header_unique hmagic hversion hflags htotal]
   refine ⟨?_,rfl⟩
   simp only [kMaximumFramePayloadBytes]
   omega
 · intro h
   obtain ⟨hsize,rfl⟩:=h
   obtain ⟨hlarge,hsmall⟩:=payload_small hsize
   have htotal:=totalSize_toNat frameVersion type.code r hsmall
   have htype:MessageType.ofCode type.code=some type:=(ofCode_eq_some type.code).mpr rfl
   refine ⟨frameVersion.header type.code r p,
    ⟨⟨p,rfl⟩,rfl,⟨rfl,rfl⟩,?_,rfl,?_,?_⟩,htype,?_,?_,rfl,?_⟩
   · change (MessageType.ofCode type.code).isSome=true
     rw [htype]
     rfl
   · rw [htotal]
     exact Nat.le_add_right _ _
   · rw [htotal]
     exact hlarge
   · rw [htotal,List.length_append,appendHeader_length]
   · rw [htotal,List.length_append,appendHeader_length]
   · rw [←appendHeader_length (frameVersion.header type.code r p),List.drop_left]

end Frames

section Hellos
variable {hello : Hello} {bytes : Bytes}

lemma validText_iff (text : Bytes) (maximum : ℕ) (allowEmpty : Bool):
 validText text maximum allowEmpty=true ↔
  (allowEmpty=true ∨ text≠[]) ∧ text.length ≤ maximum ∧ validUtf8WithoutNul text=true:=by
 simp only [validText,decide_eq_true_eq]

lemma scanHelloLike_iff (r : RequestId) (s rest : Bytes):
 (scanHelloLike r).run s=.ok (hello,rest) ↔ validHelloFields hello=true ∧ r=0 ∧
   s=appendString16 hello.buildIdUtf8++appendString16 hello.authTokenUtf8 ∧
   rest=[]:=by
 have hbuild:∀size,decide (size≠0 ∧ size≤kMaximumBuildIdBytes)=true → size<2 ^ 16:=by
  intro size hsize
  have hle:=(of_decide_eq_true hsize).2
  simp only [kMaximumBuildIdBytes] at hle
  omega
 have htoken:∀size,decide (size≠0 ∧ size≤kMaximumAuthTokenBytes)=true → size<2 ^ 16:=by
  intro size hsize
  have hle:=(of_decide_eq_true hsize).2
  simp only [kMaximumAuthTokenBytes] at hle
  omega
 simp only [scanHelloLike,ensure_bind,sizedText_bind hbuild,sizedText_bind htoken,
  finish_bind,ScanCodec.pure_eq_ok,decide_eq_true_eq,validHelloFields,validText_iff,
  Bool.false_eq_true,false_or,ne_eq,List.length_eq_zero_iff]
 constructor
 · intro h
   obtain ⟨hid,build,_,⟨hbuildSize,rfl⟩,token,_,⟨htokenSize,rfl⟩,rfl,
    ⟨hbuildText,htokenText⟩,rfl,rfl⟩ := h
   rw [List.append_nil]
   exact ⟨⟨⟨hbuildSize.1,hbuildSize.2,hbuildText⟩,htokenSize.1,htokenSize.2,htokenText⟩,
    hid,rfl,rfl⟩
 · intro h
   obtain ⟨⟨⟨hbuildSome,hbuildSize,hbuildText⟩,htokenSome,htokenSize,htokenText⟩,hid,
    hscanned,hrest⟩ := h
   exact ⟨hid,hello.buildIdUtf8,_,⟨⟨hbuildSome,hbuildSize⟩,hscanned⟩,hello.authTokenUtf8,
    [],⟨⟨htokenSome,htokenSize⟩,(List.append_nil _).symm⟩,rfl,⟨hbuildText,htokenText⟩,rfl,
    hrest.symm⟩

lemma hello_exact : encodeHello hello=.ok bytes ↔ decodeHello bytes=.ok hello:=
 exact_of_scanner (parseFrame_iff bytes _) scanHelloLike_iff

lemma helloAck_exact : encodeHelloAck hello=.ok bytes ↔ decodeHelloAck bytes=.ok hello:=
 exact_of_scanner (parseFrame_iff bytes _) scanHelloLike_iff

end Hellos

section Notices
variable {bytes : Bytes}

lemma cancelGeneration_exact {cancel : CancelGeneration}:
 encodeCancelGeneration cancel=.ok bytes ↔ decodeCancelGeneration bytes=.ok cancel:=by
 apply exact_of_scanner (parseFrame_iff bytes _)
 intro id s rest
 simp only [scanCancelGeneration,ensure_bind,integer_bind,finish_bind,ScanCodec.pure_eq_ok,
  decide_eq_true_eq]
 constructor
 · intro h
   obtain ⟨hid,generation,_,rfl,rfl,hgeneration,rfl,rfl⟩:=h
   exact ⟨hgeneration,hid,List.append_nil _,rfl⟩
 · intro h
   obtain ⟨hgeneration,hid,hscanned,rfl⟩:=h
   exact ⟨hid,cancel.generation,[],by rw [hscanned,List.append_nil],rfl,hgeneration,rfl, rfl⟩

lemma jobStarted_exact {started : JobStarted}:
 encodeJobStarted started=.ok bytes ↔ decodeJobStarted bytes=.ok started:=by
 apply exact_of_scanner (parseFrame_iff bytes _)
 intro id s rest
 simp only [scanJobStarted,ensure_bind,finish_bind,ScanCodec.pure_eq_ok,decide_eq_true_eq]
 constructor
 · intro h
   obtain ⟨hid,rfl,rfl,rfl⟩:=h
   exact ⟨hid,rfl,rfl,rfl⟩
 · intro h
   obtain ⟨hid,rfl,rfl,rfl⟩:=h
   exact ⟨hid,rfl,rfl,rfl⟩

lemma cacheRequest_exact {request : CacheRequest}:
 encodeCacheRequest request=.ok bytes ↔ decodeCacheRequest bytes=.ok request:=by
 apply exact_of_scanner (parseFrame_iff bytes _)
 intro id s rest
 simp only [scanCacheRequest,ensure_bind,integer_bind,finish_bind,present_bind,
  ScanCodec.pure_eq_ok,decide_eq_true_eq,
  enumOfCode_eq_some (show (WireEnum.values : List CacheOperation).Nodup by decide)]
 constructor
 · intro h
   obtain ⟨hid,_,_,rfl,rfl,operation,rfl,rfl,rfl⟩:=h
   exact ⟨hid,rfl,List.append_nil _,rfl⟩
 · intro h
   obtain ⟨hid,rfl,hscanned,rfl⟩:=h
   exact ⟨hid,_,[],by rw [hscanned,List.append_nil],rfl,request.operation,rfl,rfl,rfl⟩

lemma cacheResponse_exact {response : CacheResponse}:
 encodeCacheResponse response=.ok bytes ↔ decodeCacheResponse bytes=.ok response:=by
 apply exact_of_scanner (parseFrame_iff bytes _)
 intro id s rest
 simp only [scanCacheResponse,ensure_bind,integer_bind,finish_bind,present_bind,
  ScanCodec.pure_eq_ok,decide_eq_true_eq,
  enumOfCode_eq_some (show (WireEnum.values : List CacheStatus).Nodup by decide)]
 constructor
 · intro h
   obtain ⟨hid,_,_,rfl,entries,_,rfl,size,_,rfl,rfl,status,rfl,rfl,rfl⟩:=h
   rw [List.append_nil]
   exact ⟨hid,rfl,rfl,rfl⟩
 · intro h
   obtain ⟨hid,rfl,hscanned,rfl⟩:=h
   exact ⟨hid,_,_,hscanned,response.entries,_,rfl,response.bytes,[],
    (List.append_nil _).symm,rfl,response.status,rfl,rfl,rfl⟩

end Notices

section Requests
variable {request : PreviewRequest} {bytes : Bytes}

lemma optionBits_iff (o : UInt8) (offline fallback selected extended : Bool):
 o &&& ~~~15=0 ∧ (offline=decide (o &&& 1≠0) ∧
   fallback=decide (o &&& 2≠0) ∧ selected=decide (o &&& 4≠0) ∧
   extended=decide (o &&& 8≠0)) ↔
  o=optionBits offline fallback selected extended:=by
 have hall:∀code : Fin 256,∀offline fallback selected extended : Bool,
   (UInt8.ofNat code &&& ~~~15=0 ∧ (offline=decide (UInt8.ofNat code &&& 1≠0) ∧
    fallback=decide (UInt8.ofNat code &&& 2≠0) ∧
    selected=decide (UInt8.ofNat code &&& 4≠0) ∧
    extended=decide (UInt8.ofNat code &&& 8≠0)) ↔
   UInt8.ofNat code=optionBits offline fallback selected extended) := by decide +kernel
 have hoptions:=hall ⟨o.toNat,o.toNat_lt⟩ offline fallback selected extended
 simpa only [UInt8.ofNat_toNat] using hoptions

lemma scanRequest_iff (r : RequestId) (s rest : Bytes):
 (scanRequest r).run s=.ok (request,rest) ↔
  validRequest request=true ∧ r=request.requestId ∧
   s=requestPayload request ∧ rest=[]:=by
 have hrevision:∀size,decide (size≤kMaximumSourceRevisionBytes)=true → size<2 ^ 16:=by
  intro size hsize
  have hle:=of_decide_eq_true hsize
  simp only [kMaximumSourceRevisionBytes] at hle
  omega
 have hpassword:∀size,decide (size≤kMaximumPasswordBytes)=true → size<2 ^ 16:=by
  intro size hsize
  have hle:=of_decide_eq_true hsize
  simp only [kMaximumPasswordBytes] at hle
  omega
 simp only [scanRequest,integer_bind,ensure_bind,present_bind,octets_bind,
  sizedText_bind hrevision,sizedText_bind hpassword,finish_bind,ScanCodec.pure_eq_ok,
  decide_eq_true_eq,
  enumOfCode_eq_some (show (WireEnum.values : List ThumbnailPriority).Nodup by decide)]
 constructor
 · intro h
   obtain ⟨generation,_,rfl,size,_,rfl,modified,_,rfl,edge,_,rfl,_,_,rfl,o,
    _,rfl,page,_,rfl,pathSize,_,rfl,hoptions,priority,rfl,-,path,_,
    ⟨hpath,rfl⟩,revision,_,⟨-,rfl⟩,password,_,⟨-,rfl⟩,rfl,-,hvalid,rfl,rfl⟩ := h
   have hbits:=(optionBits_iff o _ _ _ _).mp ⟨hoptions,rfl,rfl,rfl,rfl⟩
   refine ⟨hvalid,rfl,?_,rfl⟩
   simp only [requestPayload]
   rw [←hbits,hpath,UInt32.ofNat_toNat,List.append_nil]
 · intro h
   obtain ⟨hvalid,rfl,rfl,rfl⟩:=h
   have hfields:=hvalid
   simp only [validRequest,decide_eq_true_eq,validText_iff] at hfields
   obtain ⟨-,-,⟨hpathSome,hpathSize,hpathText⟩,-,-,⟨-,hrevisionSize,hrevisionText⟩,-,
    -,hpasswordSize,hpasswordText⟩ := hfields
   obtain ⟨hoptions,hoffline,hfallback,hselected,hextended⟩:=
    (optionBits_iff _ _ _ _ _).mpr (rfl : optionBits request.offlineCacheOnly
     request.allowOfflineFallback request.selectedView request.extendedLimits=_)
   have hpath:=size32 (hpathSize.trans_lt (show kMaximumPathBytes<2 ^ 32 by decide))
   have hsome:request.pathUtf8.length≠0:=by
    intro hempty
    have hnil:=List.eq_nil_of_length_eq_zero hempty
    simp [hnil] at hpathSome
   refine ⟨request.generation,_,rfl,request.sourceSize,_,rfl,request.modifiedUnixNs,_,
    rfl,request.canonicalEdge,_,rfl,_,_,rfl,_,_,rfl,request.pageIndex,_,rfl,_,_,
    rfl,hoptions,request.priority,rfl,?_,request.pathUtf8,_,⟨hpath.symm,rfl⟩,
    request.sourceRevisionUtf8,_,⟨hrevisionSize,rfl⟩,request.passwordUtf8,[],
    ⟨hpasswordSize,(List.append_nil _).symm⟩,rfl,⟨hpathText,hrevisionText,hpasswordText⟩,
    ?_⟩
   · rw [hpath]
     exact ⟨hsome,hpathSize⟩
   · rw [←hoffline,←hfallback,←hselected,←hextended]
     exact ⟨hvalid,rfl,rfl⟩

lemma previewRequest_exact:
 encodePreviewRequest request=.ok bytes ↔ decodePreviewRequest bytes=.ok request:=
 exact_of_scanner (parseFrame_iff bytes _) scanRequest_iff

end Requests

section Responses
variable {response : PreviewResponse} {bytes : Bytes}

lemma scanFields_bind {α : Type} (f : ResponseFields → Scanner DecodeError α)
 (input rest : Bytes) (value : α) : (scanFields >>= f).run input=.ok (value,rest) ↔
  ∃ fields mid,input=appendFields fields++mid ∧ (f fields).run mid=.ok (value,rest):=by
 have hfields (fields : ResponseFields) (mid : Bytes):
   scanFields.run input=.ok (fields,mid) ↔ input=appendFields fields++mid:=by
  simp only [scanFields,integer_bind,ScanCodec.pure_eq_ok,appendFields,List.append_assoc]
  constructor
  · intro h
    obtain ⟨_,_,rfl,_,_,rfl,_,_,rfl,_,_,rfl,_,_,rfl,_,_,rfl,_,_,rfl,_,_,
     rfl,_,_,rfl,_,_,rfl,_,_,rfl,_,_,rfl,_,_,rfl,_,_,rfl,rfl,rfl⟩ := h
    rfl
  · intro h
    exact ⟨_,_,h,_,_,rfl,_,_,rfl,_,_,rfl,_,_,rfl,_,_,rfl,_,_,rfl,_,_,rfl,
     _,_,rfl,_,_,rfl,_,_,rfl,_,_,rfl,_,_,rfl,_,_,rfl,rfl,rfl⟩
 simp only [ScanCodec.bind_eq_ok,hfields]

lemma scanResponse_iff (r : RequestId) (s rest : Bytes):
 (scanResponse r).run s=.ok (response,rest) ↔
  validResponse response=true ∧ r=response.requestId ∧
   s=responsePayload response ∧ rest=[]:=by
 simp only [scanResponse,scanFields_bind,ensure_bind,present_bind,octets_bind,finish_bind,
  present_eq_ok,decide_eq_true_eq,Option.filter_eq_some_iff,Option.bind_eq_bind,
  Option.bind_eq_some_iff,Option.some.injEq,
  enumOfCode_eq_some (show (WireEnum.values : List PreviewProvenance).Nodup by decide),
  enumOfCode_eq_some (show (WireEnum.values : List ResponseStatus).Nodup by decide),
  enumOfCode_eq_some (show (WireEnum.values : List WorkerStartupStage).Nodup by decide),
  enumOfCode_eq_some (show (WireEnum.values : List PreviewWorker).Nodup by decide)]
 constructor
 · intro h
   obtain ⟨fields,_,rfl,provenance,hprovenance,status,hstatus,-,model,_,⟨hmodel,rfl⟩,
    profile,_,⟨hprofile,rfl⟩,fingerprint,_,⟨hfingerprint,rfl⟩,rgba,_,⟨hrgba,rfl⟩,
    rfl,-,-,-,-,-,⟨⟨stage,hstage,worker,hworker,rfl⟩,hvalid⟩,rfl⟩ := h
   refine ⟨hvalid,rfl,?_,rfl⟩
   simp only [responsePayload,responseFields,hmodel,hprofile,hfingerprint,hrgba,←hstatus,
    ← hprovenance,←hstage,←hworker,UInt16.ofNat_toNat,UInt32.ofNat_toNat,List.append_nil]
 · intro h
   obtain ⟨hvalid,rfl,rfl,rfl⟩:=h
   have hfields:=hvalid
   simp only [validResponse,decide_eq_true_eq,validText_iff] at hfields
   obtain ⟨-,-,hid,-,-,hpages,⟨-,hmodelSize,hmodelText⟩,
    ⟨-,hprofileSize,hprofileText⟩,hfingerprint,hrgbaSize,hkind⟩ := hfields
   have hfingerprintSize:response.sourceProfileFingerprint.length≤kProfileFingerprintBytes:=by
    simp only [validFingerprint,decide_eq_true_eq] at hfingerprint
    cases hfingerprint with
    | inl hempty=>
     rw [hempty]
     exact Nat.zero_le _
    | inr hfull=>exact hfull.1.le
   have hmodel:=size16 (hmodelSize.trans_lt (show kMaximumColorModelBytes<2 ^ 16 by decide))
   have hprofile:=size16 (hprofileSize.trans_lt (show kMaximumColorProfileBytes<2 ^ 16 by decide))
   have hprint:=size16 (hfingerprintSize.trans_lt (show kProfileFingerprintBytes<2 ^ 16 by decide))
   have hrgba:=size32 (hrgbaSize.trans_lt (show kMaximumRgbaBytes<2 ^ 32 by decide))
   refine ⟨responseFields response,_,rfl,response.provenance,rfl,response.status,rfl,?_,
    response.sourceColorModelUtf8,_,⟨hmodel.symm,rfl⟩,response.sourceColorProfileUtf8,_,
    ⟨hprofile.symm,rfl⟩,response.sourceProfileFingerprint,_,⟨hprint.symm,rfl⟩,
    response.rgba8,[],⟨hrgba.symm,(List.append_nil _).symm⟩,rfl,
    ⟨hmodelText,hprofileText⟩,hfingerprint,?_,?_,?_,
    ⟨⟨_,rfl,_,rfl,rfl⟩,hvalid⟩,rfl⟩
   · simp only [responseFields,hmodel,hprofile,hprint,hrgba]
     exact ⟨hmodelSize,hprofileSize,hfingerprintSize,hrgbaSize⟩
   · intro hsuccess
     rw [if_pos hsuccess] at hkind
     exact hkind.2.2
   · intro hsuccess
     rw [if_pos hsuccess] at hkind
     exact ⟨hkind.1,hpages,hkind.2.1,hid⟩
   · apply Or.inr
     simp only [responseFields,enumOfCode_enumCode,Option.bind_some,Option.any_some]
     exact hvalid

lemma previewResponse_exact:
 encodePreviewResponse response=.ok bytes ↔ decodePreviewResponse bytes=.ok response:=
 exact_of_scanner (parseFrame_iff bytes _) scanResponse_iff

end Responses

section Messages
variable {m message : Message} {type : MessageType} {bytes : Bytes}

lemma decode_iff : decode type bytes=.ok m ↔ m.type=type ∧ encode m=.ok bytes:=by
 constructor
 · intro h
   cases type with
   | hello=>
    obtain ⟨hello,hdecode,rfl⟩:=(map_eq_ok _ _ _).mp h
    exact ⟨rfl,hello_exact.mpr hdecode⟩
   | helloAck=>
    obtain ⟨ack,hdecode,rfl⟩:=(map_eq_ok _ _ _).mp h
    exact ⟨rfl,helloAck_exact.mpr hdecode⟩
   | previewRequest=>
    obtain ⟨request,hdecode,rfl⟩:=(map_eq_ok _ _ _).mp h
    exact ⟨rfl,previewRequest_exact.mpr hdecode⟩
   | cancelGeneration=>
    obtain ⟨cancel,hdecode,rfl⟩:=(map_eq_ok _ _ _).mp h
    exact ⟨rfl,cancelGeneration_exact.mpr hdecode⟩
   | previewResponse=>
    obtain ⟨response,hdecode,rfl⟩:=(map_eq_ok _ _ _).mp h
    exact ⟨rfl,previewResponse_exact.mpr hdecode⟩
   | jobStarted=>
    obtain ⟨started,hdecode,rfl⟩:=(map_eq_ok _ _ _).mp h
    exact ⟨rfl,jobStarted_exact.mpr hdecode⟩
   | cacheRequest=>
    obtain ⟨request,hdecode,rfl⟩:=(map_eq_ok _ _ _).mp h
    exact ⟨rfl,cacheRequest_exact.mpr hdecode⟩
   | cacheResponse=>
    obtain ⟨response,hdecode,rfl⟩:=(map_eq_ok _ _ _).mp h
    exact ⟨rfl,cacheResponse_exact.mpr hdecode⟩
 · intro h
   obtain ⟨rfl,hencode⟩:=h
   cases m with
   | hello hello=>exact (map_eq_ok _ _ _).mpr ⟨hello,hello_exact.mp hencode,rfl⟩
   | helloAck ack=>exact (map_eq_ok _ _ _).mpr ⟨ack,helloAck_exact.mp hencode,rfl⟩
   | previewRequest request=>
    exact (map_eq_ok _ _ _).mpr ⟨request,previewRequest_exact.mp hencode,rfl⟩
   | cancelGeneration cancel=>
    exact (map_eq_ok _ _ _).mpr ⟨cancel,cancelGeneration_exact.mp hencode,rfl⟩
   | previewResponse response=>
    exact (map_eq_ok _ _ _).mpr ⟨response,previewResponse_exact.mp hencode,rfl⟩
   | jobStarted started=>
    exact (map_eq_ok _ _ _).mpr ⟨started,jobStarted_exact.mp hencode,rfl⟩
   | cacheRequest request=>
    exact (map_eq_ok _ _ _).mpr ⟨request,cacheRequest_exact.mp hencode,rfl⟩
   | cacheResponse response=>
    exact (map_eq_ok _ _ _).mpr ⟨response,cacheResponse_exact.mp hencode,rfl⟩

lemma encode_frame (h:encode m=.ok bytes) : ∃ r p,makeFrame m.type r p=.ok bytes:=by
 cases m with
 | _=>exact ⟨_,_,((bind_unit_eq_ok _ _ _).mp h).2⟩

lemma type_unique {other : Message} (h:encode m=.ok bytes)
 (hother:encode other=.ok bytes) : m.type=other.type:=by
 obtain ⟨r,p,hframe⟩:=encode_frame h
 obtain ⟨otherId,otherPayload,hotherFrame⟩:=encode_frame hother
 have hsame:=(makeFrame_iff.mp hframe).2.trans (makeFrame_iff.mp hotherFrame).2.symm
 have hkind:m.type.code=other.type.code:=congrArg FrameHeader.kind (appendHeader_inj hsame).1
 have hcode:=(ofCode_eq_some m.type.code).mpr rfl
 rw [hkind,(ofCode_eq_some other.type.code).mpr rfl] at hcode
 exact (Option.some.inj hcode).symm

/-- What can be sent is announced and read as what it is, the decoders accept nothing but what
their encoder writes, and no two of them accept the same frame. -/
structure Exact (message : Message) (bytes : Bytes) : Prop where
 accepted : encode message=.ok bytes → decode message.type bytes=.ok message
 bounded : encode message=.ok bytes → bytes.length≤kMaximumFrameBytes
 announced : encode message=.ok bytes →
  ∃ header,decodeHeader (bytes.take frameHeaderBytes)=.ok header ∧
   MessageType.ofCode header.kind=some message.type ∧
   header.totalSize.toNat=bytes.length
 canonical : ∀type,decode type bytes=.ok message → encode message=.ok bytes
 apart : ∀type other,decode type bytes=.ok message → other≠type →
  ∃ error,decode other bytes=.error error

/-- The preview helper protocol is exact for every message and every byte string. -/
theorem preview_protocol_exact (message : Message) (bytes : Bytes) : Exact message bytes:=by
 constructor
 · intro h
   exact decode_iff.mpr ⟨rfl,h⟩
 · intro h
   obtain ⟨requestId,payload,hframe⟩:=encode_frame h
   obtain ⟨header,-,-,-,hlarge⟩:=decodeHeader_first hframe
   exact hlarge
 · intro h
   obtain ⟨requestId,payload,hframe⟩:=encode_frame h
   obtain ⟨header,hheader,hkind,htotal,-⟩:=decodeHeader_first hframe
   exact ⟨header,hheader,(ofCode_eq_some header.kind).mpr hkind,htotal⟩
 · intro type h
   exact (decode_iff.mp h).2
 · intro type other h hother
   obtain ⟨rfl,hencode⟩:=decode_iff.mp h
   cases hdecode:decode other bytes with
   | error error=>exact ⟨error,rfl⟩
   | ok found=>
    obtain ⟨rfl,hfound⟩:=decode_iff.mp hdecode
    exact absurd (type_unique hfound hencode) hother

end Messages

end VoVe.PreviewProtocol
