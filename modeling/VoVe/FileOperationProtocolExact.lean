import VoVe.FileOperationProtocol

set_option autoImplicit false

namespace VoVe.FileOperationProtocolExact
open ByteCodec AsciiText Checks TransactionCodec FileOperation OperationRequest OperationValidation
 FileOperationProtocol
open FileTransferProtocol (appendSnapshot readSnapshot)
open FileTransferProtocolExact (snapshot_bind takes_snapshot)

section Fields
variable {Action Mode : Type} [DecidableEq Action] [WireEnum Action] [DecidableEq Mode]
 [WireEnum Mode]

lemma enumOfCode_eq_some (hnodup:(WireEnum.values : List Action).Nodup) {code : UInt8}
 {action : Action} : enumOfCode code=some action ↔ code=enumCode action:=by
 constructor
 · intro h
   exact (enumCode_enumOfCode h hnodup).symm
 · intro h
   rw [h,enumOfCode_enumCode]

lemma fields_bind {α : Type} (fields : RequestFields) (f : RequestFields → Reader α)
 (rest : Bytes):
 (readFields >>= f).run (appendFields fields++rest)=(f fields).run rest:=by
 have hread:readFields.run (appendFields fields++rest)=some (fields,rest):=by
  simp only [readFields,appendFields,List.append_assoc,Reader.readInteger_bind,
   Reader.run_pure]
 rw [Reader.run_bind,hread,Option.bind_some]

lemma takes_fields : readFields.Takes appendFields:=by
 intro input fields rest h
 simp only [readFields,Reader.bind_eq_some,Reader.pure_eq_some] at h
 obtain ⟨magic,_,hmagic,version,_,hversion,id,_,hid,action,_,haction,mode,_,hmode,
  kind,_,hkind,reserved,_,hreserved,size,_,hsize,modified,_,hmodified,rfl,rfl⟩ := h
 rw [Reader.takes_integer _ _ _ hmagic,Reader.takes_integer _ _ _ hversion,
  Reader.takes_integer _ _ _ hid,Reader.takes_integer _ _ _ haction,
  Reader.takes_integer _ _ _ hmode,Reader.takes_integer _ _ _ hkind,
  Reader.takes_integer _ _ _ hreserved,Reader.takes_integer _ _ _ hsize,
  Reader.takes_integer _ _ _ hmodified]
 simp only [appendFields,List.append_assoc]

lemma compatible_eq_some (haction:(WireEnum.values : List Action).Nodup)
 (hmode:(WireEnum.values : List Mode).Nodup) {magic : UInt32} {fields : RequestFields}
 {rest : Bytes} {action : Action} {mode : Mode} {kind : OperationObjectKind}:
 compatible Action Mode magic fields rest=some (action,mode,kind) ↔
  fields={ magic:=magic,operationId:=fields.operationId,action:=enumCode action,
           mode:=enumCode mode,objectKind := enumCode kind,
           sizeBytes:=fields.sizeBytes,modifiedUnixNs := fields.modifiedUnixNs } ∧
   rest=[]:=by
 unfold compatible
 simp only [Option.bind_eq_bind,Option.bind_eq_some_iff,Option.ite_none_right_eq_some,
  Option.some.injEq,Prod.mk.injEq,enumOfCode_eq_some haction,enumOfCode_eq_some hmode,
  enumOfCode_eq_some (by decide : (WireEnum.values : List OperationObjectKind).Nodup)]
 cases fields with
 | mk magic' version id code code' code'' reserved size modified=>
  simp only [RequestFields.mk.injEq]
  constructor
  · intro ⟨_,hcode,_,hcode',_,hcode'',⟨hmagic,hversion,hreserved,hrest⟩,hsame,hsame',
     hsame''⟩
    subst hsame
    subst hsame'
    subst hsame''
    exact ⟨⟨hmagic,hversion,trivial,hcode,hcode',hcode'',hreserved,trivial,trivial⟩,hrest⟩
  · intro ⟨⟨hmagic,hversion,_,hcode,hcode',hcode'',hreserved,_,_⟩,hrest⟩
    exact ⟨action,hcode,mode,hcode',kind,hcode'',⟨hmagic,hversion,hreserved,hrest⟩,rfl,
     rfl,rfl⟩

lemma text_fits {payload : Bytes} {texts : List Bytes}
 (hsize:payload.length≤kMaximumOperationPayloadBytes)
 (htexts:∀text∈texts,text.length≤payload.length):
 ∀text∈texts,text.length<2 ^ 32:=by
 intro text hmem
 have hlength:=(htexts text hmem).trans hsize
 unfold kMaximumOperationPayloadBytes at hlength
 omega

end Fields

section Renames
variable {request : RenameRequest} {payload : Bytes}

def renameStrings (request : RenameRequest) : List Bytes:=
 renameTexts request++(replacementTexts request++[request.trashSecurityBaselineSddlUtf8])

lemma encodeRename_iff : encodeRenameRequest request=.ok payload ↔
 (∀text∈renameStrings request,text.length<2 ^ 32) ∧
  (renamePayload request).length≤kMaximumOperationPayloadBytes ∧
   renamePayload request=payload:=by
 simp only [encodeRenameRequest,PayloadLimit.finish_eq_ok,frameLimit,renameStrings]

lemma renameStrings_length {text : Bytes} (h:text∈renameStrings request):
 text.length≤(renamePayload request).length:=by
 simp only [renameStrings,renameTexts,replacementTexts,List.mem_append,List.mem_cons,
  List.not_mem_nil,or_false] at h
 simp only [renamePayload,renameTexts,appendReplacement,appendSnapshot,List.flatMap_cons,
  List.flatMap_nil,List.length_append,appendString_length,List.length_nil]
 obtain htexts | hreplacement | hbaseline:=h
 · obtain rfl | rfl | rfl | rfl | rfl | rfl | rfl:=htexts<;>omega
 · split at hreplacement
   · next hmode =>
     rw [List.mem_singleton] at hreplacement
     rw [if_pos hmode,hreplacement]
     simp only [List.length_append,appendString_length]
     omega
   · cases hreplacement
 · rw [hbaseline]
   omega

/-- Outside a replacement the decoder leaves the snapshot to be replaced empty. -/
def received (request : RenameRequest) : RenameRequest:=
 { request with
   expectedDestination:=if isReplacement request.mode then request.expectedDestination else {} }

lemma validRename_received (h:validRenameRequest request=.ok ()):
 validRenameRequest (received request)=.ok ():=by
 unfold received
 split
 · exact h
 · next hmode =>
   rw [←h]
   have hrevision:request.expectedDestination.sourceRevisionUtf8=[]:=by
    simp only [validRenameRequest,bind_unit_eq_ok,require_eq_ok] at h
    have hauthorized:=h.2.2.1
    rw [replacementAuthorized,if_neg hmode] at hauthorized
    exact of_decide_eq_true hauthorized
   have hauthorized:replacementAuthorized { request with expectedDestination:={} }=
     replacementAuthorized request:=by
    simp only [replacementAuthorized,hrevision]
   simp only [validRenameRequest,hauthorized]
   rfl

lemma readReplacement_append
 (h:∀text∈replacementTexts request,text.length<2 ^ 32) (rest : Bytes):
 (readReplacement (enumCode request.mode)).run (appendReplacement request++rest)=
  some ((received request).expectedDestination,rest):=by
 unfold readReplacement appendReplacement received
 rw [enumOfCode_enumCode,Option.any_some]
 by_cases hmode:isReplacement request.mode=true
 · have hrevision:request.expectedDestination.sourceRevisionUtf8.length<2 ^ 32:=by
    refine h _ ?_
    rw [replacementTexts,if_pos hmode,List.mem_singleton]
   have hread:=snapshot_bind hrevision pure rest
   simp only [Reader.run_bind] at hread
   rw [if_pos hmode,if_pos hmode]
   simpa [hmode] using hread
 · rw [if_neg hmode,if_neg hmode]
   simp [hmode]

lemma takes_replacement {mode : RenameMode} {input rest : Bytes} {snapshot : SourceSnapshot}
 (h:(readReplacement (enumCode mode)).run input=some (snapshot,rest)):
 (if isReplacement mode then appendSnapshot snapshot else [])++rest=input ∧
  (isReplacement mode ∨ snapshot={}):=by
 unfold readReplacement at h
 rw [enumOfCode_enumCode,Option.any_some] at h
 split at h
 · next hmode =>
   rw [if_pos hmode,takes_snapshot _ _ _ h]
   exact ⟨rfl,.inl hmode⟩
 · next hmode =>
   rw [Reader.pure_eq_some] at h
   rw [if_neg hmode,h.2]
   exact ⟨rfl,.inr h.1.symm⟩

lemma decode_rename (hvalid:validRenameRequest request=.ok ())
 (htexts:renameTextsValid request=true) (h:encodeRenameRequest request=.ok payload):
 decodeRenameRequest payload=.ok (received request):=by
 obtain ⟨hstrings,hsize,rfl⟩:=encodeRename_iff.mp h
 have hread:readRename.run (renamePayload request)=
   some ((renameFields request,{ request with
    action:=.execute
    mode:=.singlePreserveExtension
    objectKind:=.regularFile
    expectedDestination:={}
    trashSecurityBaselineSddlUtf8:=[] }),
    appendReplacement request++appendString request.trashSecurityBaselineSddlUtf8):=by
  have htext (text : Bytes) (hmem:text∈renameTexts request):=
   hstrings text (List.mem_append_left _ hmem)
  have hsource:=htext request.source.native (by simp [renameTexts])
  have hdestination:=htext request.destination.native (by simp [renameTexts])
  have hrevision:=htext request.expectedSource.sourceRevisionUtf8 (by simp [renameTexts])
  have hparent:=htext request.sourceParentIdentityUtf8 (by simp [renameTexts])
  have hparent':=htext request.destinationParentIdentityUtf8 (by simp [renameTexts])
  have hanchor:=htext request.destinationAnchorPath.native (by simp [renameTexts])
  have hidentity:=htext request.destinationAnchorIdentityUtf8 (by simp [renameTexts])
  simp only [readRename,renamePayload,renameTexts,List.flatMap_cons,List.flatMap_nil,
   List.append_nil,List.append_assoc,fields_bind,Reader.readString_bind _ _ hsource,
   Reader.readString_bind _ _ hdestination,Reader.readString_bind _ _ hrevision,
   Reader.readString_bind _ _ hparent,Reader.readString_bind _ _ hparent',
   Reader.readString_bind _ _ hanchor,Reader.readString_bind _ _ hidentity,Reader.run_pure]
  rfl
 have hreplacement:=readReplacement_append
  (fun text hmem=>hstrings text (List.mem_append_right _ (List.mem_append_left _ hmem)))
  (appendString request.trashSecurityBaselineSddlUtf8)
 have hbaseline:=Reader.readString_append request.trashSecurityBaselineSddlUtf8 []
  (hstrings _ (by simp [renameStrings]))
 rw [List.append_nil] at hbaseline
 have hcompatible:compatible RenameAction RenameMode requestMagic (renameFields request) []=
   some (request.action,request.mode,request.objectKind):=by
  rw [compatible_eq_some (by decide) (by decide)]
  exact ⟨rfl,rfl⟩
 have hreceived:renameTextsValid (received request)=true:=by
  rw [renameTextsValid,List.all_append,Bool.and_eq_true] at htexts ⊢
  refine ⟨htexts.1,?_⟩
  unfold received
  split
  · exact htexts.2
  · rfl
 simp only [decodeRenameRequest,bind_unit_eq_ok,require_eq_ok,decide_eq_true_eq,
  found_bind_eq_ok,pure_eq_ok,Prod.exists]
 exact ⟨hsize,_,_,_,hread,_,_,hreplacement,_,_,hbaseline,_,_,_,hcompatible,
  hreceived,validRename_received hvalid,rfl⟩

lemma encode_rename (h:decodeRenameRequest payload=.ok request):
 encodeRenameRequest request=.ok payload:=by
 simp only [decodeRenameRequest,bind_unit_eq_ok,require_eq_ok,decide_eq_true_eq,
  found_bind_eq_ok,pure_eq_ok,Prod.exists] at h
 obtain ⟨hsize,fields,decoded,rest,hread,destination,rest',hreplacement,baseline,rest'',
  hbaseline,action,mode,kind,hcompatible,-,-,rfl⟩ := h
 obtain ⟨hfields,rfl⟩:=(compatible_eq_some (by decide) (by decide)).mp hcompatible
 have hmode:fields.mode=enumCode mode:=congrArg RequestFields.mode hfields
 rw [hmode] at hreplacement
 obtain ⟨hrest,hempty⟩:=takes_replacement hreplacement
 simp only [readRename,Reader.bind_eq_some,Reader.pure_eq_some,Prod.mk.injEq] at hread
 obtain ⟨head,_,hread,source,_,hsource,target,_,htarget,revision,_,hrevision,parent,_,
  hparent,parent',_,hparent',anchor,_,hanchor,identity,_,hidentity,⟨rfl,rfl⟩,rfl⟩:=
  hread
 have hpayload:payload=renamePayload
   { operationId:=head.operationId,action:=action,mode:=mode,objectKind:=kind,
     source:=⟨source⟩,destination := ⟨target⟩,
     expectedSource:={ sizeBytes:=head.sizeBytes,modifiedUnixNs:=head.modifiedUnixNs,
                       sourceRevisionUtf8:=revision },
     sourceParentIdentityUtf8:=parent,destinationParentIdentityUtf8 := parent',
     destinationAnchorPath:=⟨anchor⟩,destinationAnchorIdentityUtf8 := identity,
     expectedDestination:=destination,trashSecurityBaselineSddlUtf8 := baseline }:=by
  rw [takes_fields _ _ _ hread,Reader.takes_string _ _ _ hsource,
   Reader.takes_string _ _ _ htarget,Reader.takes_string _ _ _ hrevision,
   Reader.takes_string _ _ _ hparent,Reader.takes_string _ _ _ hparent',
   Reader.takes_string _ _ _ hanchor,Reader.takes_string _ _ _ hidentity,←hrest,
   Reader.takes_string _ _ _ hbaseline,hfields]
  simp only [renamePayload,renameTexts,renameFields,appendReplacement,List.flatMap_cons,
   List.flatMap_nil,List.append_nil,List.append_assoc]
 rw [hpayload] at hsize
 rw [encodeRename_iff]
 exact ⟨text_fits hsize fun text=>renameStrings_length,hsize,hpayload.symm⟩

end Renames

section Deletes
variable {request : DeleteRequest} {payload : Bytes}

def deleteStrings (request : DeleteRequest) : List Bytes:=
 deleteTexts request++[request.trashSecurityBaselineSddlUtf8]

lemma encodeDelete_iff : encodeDeleteRequest request=.ok payload ↔
 (∀text∈deleteStrings request,text.length<2 ^ 32) ∧
  (deletePayload request).length≤kMaximumOperationPayloadBytes ∧
   deletePayload request=payload:=by
 simp only [encodeDeleteRequest,PayloadLimit.finish_eq_ok,frameLimit,deleteStrings]

lemma deleteStrings_length {text : Bytes} (h:text∈deleteStrings request):
 text.length≤(deletePayload request).length:=by
 simp only [deleteStrings,deleteTexts,List.cons_append,List.nil_append,List.mem_cons,
  List.not_mem_nil,or_false] at h
 simp only [deletePayload,appendSnapshot,List.length_append,appendString_length]
 obtain rfl | rfl | rfl | rfl | rfl | rfl | rfl:=h<;>omega

lemma decode_delete (hvalid:validDeleteRequest request=.ok ())
 (htexts:(deleteTexts request).all validUtf8WithoutNul=true)
 (h:encodeDeleteRequest request=.ok payload):
 decodeDeleteRequest payload=.ok request:=by
 obtain ⟨hstrings,hsize,rfl⟩:=encodeDelete_iff.mp h
 have hread (tail : Bytes) : readDelete.run (deletePayload request++tail)=
   some ((deleteFields request,{ request with
    action:=.execute
    mode:=.permanentRemote
    objectKind:=.regularFile }),tail):=by
  have hsource:=hstrings request.source.native (by simp [deleteStrings,deleteTexts])
  have hrevision:=hstrings request.expectedSource.sourceRevisionUtf8
   (by simp [deleteStrings,deleteTexts])
  have hparent:=hstrings request.sourceParentIdentityUtf8
   (by simp [deleteStrings,deleteTexts])
  have hguard:=hstrings request.guardPath.native (by simp [deleteStrings,deleteTexts])
  have hguarded:=hstrings request.expectedGuard.sourceRevisionUtf8
   (by simp [deleteStrings,deleteTexts])
  have hguardParent:=hstrings request.guardParentIdentityUtf8
   (by simp [deleteStrings,deleteTexts])
  have hbaseline:=hstrings request.trashSecurityBaselineSddlUtf8 (by simp [deleteStrings])
  simp only [readDelete,deletePayload,List.append_assoc,fields_bind,
   Reader.readString_bind _ _ hsource,Reader.readString_bind _ _ hrevision,
   Reader.readString_bind _ _ hparent,Reader.readString_bind _ _ hguard,
   snapshot_bind hguarded,Reader.readString_bind _ _ hguardParent,
   Reader.readString_bind _ _ hbaseline,Reader.run_pure]
  rfl
 have hwhole:=hread []
 rw [List.append_nil] at hwhole
 have hcompatible:compatible DeleteAction DeleteMode deleteRequestMagic (deleteFields request)
   []=some (request.action,request.mode,request.objectKind):=by
  rw [compatible_eq_some (by decide) (by decide)]
  exact ⟨rfl,rfl⟩
 simp only [decodeDeleteRequest,bind_unit_eq_ok,require_eq_ok,decide_eq_true_eq,
  found_bind_eq_ok,pure_eq_ok,Prod.exists]
 exact ⟨hsize,_,_,_,hwhole,_,_,_,hcompatible,htexts,hvalid,rfl⟩

lemma encode_delete (h:decodeDeleteRequest payload=.ok request):
 encodeDeleteRequest request=.ok payload:=by
 simp only [decodeDeleteRequest,bind_unit_eq_ok,require_eq_ok,decide_eq_true_eq,
  found_bind_eq_ok,pure_eq_ok,Prod.exists] at h
 obtain ⟨hsize,fields,decoded,rest,hread,action,mode,kind,hcompatible,-,-,rfl⟩:=h
 obtain ⟨hfields,rfl⟩:=(compatible_eq_some (by decide) (by decide)).mp hcompatible
 simp only [readDelete,Reader.bind_eq_some,Reader.pure_eq_some,Prod.mk.injEq] at hread
 obtain ⟨head,_,hread,source,_,hsource,revision,_,hrevision,parent,_,hparent,path,_,
  hpath,expected,_,hexpected,parent',_,hparent',baseline,_,hbaseline,⟨rfl,rfl⟩,rfl⟩:=
  hread
 have hpayload:payload=deletePayload
   { operationId:=head.operationId,action:=action,mode:=mode,objectKind:=kind,
     source:=⟨source⟩,
     expectedSource:={ sizeBytes:=head.sizeBytes,modifiedUnixNs:=head.modifiedUnixNs,
                       sourceRevisionUtf8:=revision },
     sourceParentIdentityUtf8:=parent,guardPath := ⟨path⟩,expectedGuard := expected,
     guardParentIdentityUtf8:=parent',trashSecurityBaselineSddlUtf8 := baseline }:=by
  rw [takes_fields _ _ _ hread,Reader.takes_string _ _ _ hsource,
   Reader.takes_string _ _ _ hrevision,Reader.takes_string _ _ _ hparent,
   Reader.takes_string _ _ _ hpath,takes_snapshot _ _ _ hexpected,
   Reader.takes_string _ _ _ hparent',Reader.takes_string _ _ _ hbaseline,hfields]
  simp only [deletePayload,deleteFields,List.append_nil]
 rw [hpayload] at hsize
 rw [encodeDelete_iff]
 exact ⟨text_fits hsize fun text=>deleteStrings_length,hsize,hpayload.symm⟩

end Deletes

section Directories
variable {request : CreateDirectoryRequest} {payload : Bytes}

lemma encodeDirectory_iff : encodeCreateDirectoryRequest request=.ok payload ↔
 (∀text∈createDirectoryTexts request,text.length<2 ^ 32) ∧
  (createDirectoryPayload request).length≤kMaximumOperationPayloadBytes ∧
   createDirectoryPayload request=payload:=by
 simp only [encodeCreateDirectoryRequest,PayloadLimit.finish_eq_ok,frameLimit]

lemma directoryTexts_length {text : Bytes} (h:text∈createDirectoryTexts request):
 text.length≤(createDirectoryPayload request).length:=by
 simp only [createDirectoryTexts,List.mem_cons,List.not_mem_nil,or_false] at h
 simp only [createDirectoryPayload,createDirectoryTexts,List.flatMap_cons,List.flatMap_nil,
  List.length_append,appendString_length,List.length_nil]
 obtain rfl | rfl:=h<;>omega

def directoryFields (request : CreateDirectoryRequest) : CreateDirectoryFields where
 magic:=createDirectoryRequestMagic
 version:=kFileOperationProtocolVersion
 operationId:=request.operationId
 action:=enumCode request.action
 mode:=enumCode request.mode
 reserved:=0
 destination:=request.destination.native
 destinationParentRevisionUtf8:=request.destinationParentRevisionUtf8

lemma compatibleDirectory_eq_some {fields : CreateDirectoryFields} {rest : Bytes}:
 compatibleDirectory fields rest=some request ↔
  fields=directoryFields request ∧ rest=[]:=by
 unfold compatibleDirectory directoryFields
 simp only [Option.bind_eq_bind,Option.bind_eq_some_iff,Option.ite_none_right_eq_some,
  Option.some.injEq,enumOfCode_eq_some
   (by decide : (WireEnum.values : List CreateDirectoryAction).Nodup),
  enumOfCode_eq_some (by decide : (WireEnum.values : List CreateDirectoryMode).Nodup)]
 cases fields with
 | mk magic version id code code' reserved destination revision=>
  simp only [CreateDirectoryFields.mk.injEq]
  constructor
  · intro ⟨action,haction,mode,hmode,⟨hmagic,hversion,hreserved,hrest⟩,hsame⟩
    subst hsame
    exact ⟨⟨hmagic,hversion,rfl,haction,hmode,hreserved,rfl,rfl⟩,hrest⟩
  · intro ⟨⟨hmagic,hversion,hid,haction,hmode,hreserved,hdestination,hrevision⟩,hrest⟩
    refine ⟨_,haction,_,hmode,⟨hmagic,hversion,hreserved,hrest⟩,?_⟩
    rw [hid,hdestination,hrevision]

lemma readDirectory_append
 (h:∀text∈createDirectoryTexts request,text.length<2 ^ 32) (rest : Bytes):
 readCreateDirectory.run (createDirectoryPayload request++rest)=
  some (directoryFields request,rest):=by
 have hdestination:=h request.destination.native (by simp [createDirectoryTexts])
 have hrevision:=h request.destinationParentRevisionUtf8 (by simp [createDirectoryTexts])
 simp only [readCreateDirectory,createDirectoryPayload,createDirectoryTexts,appendEnum,
  List.flatMap_cons,List.flatMap_nil,List.append_nil,List.append_assoc,
  Reader.readInteger_bind,Reader.readString_bind _ _ hdestination,
  Reader.readString_bind _ _ hrevision,Reader.run_pure]
 rfl

lemma decode_directory (hvalid:validCreateDirectoryRequest request=.ok ())
 (htexts:(createDirectoryTexts request).all validUtf8WithoutNul=true)
 (h:encodeCreateDirectoryRequest request=.ok payload):
 decodeCreateDirectoryRequest payload=.ok request:=by
 obtain ⟨hstrings,hsize,rfl⟩:=encodeDirectory_iff.mp h
 have hread:=readDirectory_append hstrings []
 rw [List.append_nil] at hread
 simp only [decodeCreateDirectoryRequest,bind_unit_eq_ok,require_eq_ok,decide_eq_true_eq,
  found_bind_eq_ok,pure_eq_ok,Prod.exists]
 exact ⟨hsize,_,_,hread,request,compatibleDirectory_eq_some.mpr ⟨rfl,rfl⟩,htexts,hvalid,
  rfl⟩

lemma encode_directory (h:decodeCreateDirectoryRequest payload=.ok request):
 encodeCreateDirectoryRequest request=.ok payload:=by
 simp only [decodeCreateDirectoryRequest,bind_unit_eq_ok,require_eq_ok,decide_eq_true_eq,
  found_bind_eq_ok,pure_eq_ok,Prod.exists] at h
 obtain ⟨hsize,fields,rest,hread,decoded,hcompatible,-,-,rfl⟩:=h
 obtain ⟨hfields,rfl⟩:=compatibleDirectory_eq_some.mp hcompatible
 simp only [readCreateDirectory,Reader.bind_eq_some,Reader.pure_eq_some] at hread
 obtain ⟨magic,_,hmagic,version,_,hversion,id,_,hid,action,_,haction,mode,_,hmode,
  reserved,_,hreserved,destination,_,hdestination,revision,_,hrevision,rfl,rfl⟩ := hread
 rw [directoryFields,CreateDirectoryFields.mk.injEq] at hfields
 obtain ⟨rfl,rfl,rfl,rfl,rfl,rfl,rfl,rfl⟩:=hfields
 have hpayload:payload=createDirectoryPayload decoded:=by
  rw [Reader.takes_integer _ _ _ hmagic,Reader.takes_integer _ _ _ hversion,
   Reader.takes_integer _ _ _ hid,Reader.takes_integer _ _ _ haction,
   Reader.takes_integer _ _ _ hmode,Reader.takes_integer _ _ _ hreserved,
   Reader.takes_string _ _ _ hdestination,Reader.takes_string _ _ _ hrevision]
  simp only [createDirectoryPayload,createDirectoryTexts,appendEnum,List.flatMap_cons,
   List.flatMap_nil]
 rw [hpayload] at hsize
 rw [encodeDirectory_iff]
 exact ⟨text_fits hsize fun text=>directoryTexts_length,hsize,hpayload.symm⟩

end Directories

section Results
variable {result : OperationResult} {payload : Bytes}

lemma flags_read (result : OperationResult):
 resultFlags result &&& 0xc0=0 ∧ evidenceOfFlags (resultFlags result)=result.evidence ∧
  (resultFlags result &&& 0x01≠0 ↔ result.sourcePresent=true) ∧
  (resultFlags result &&& 0x02≠0 ↔ result.destinationPresent=true) ∧
  (resultFlags result &&& 0x04≠0 ↔ result.destinationMatchesSource=true) ∧
  (resultFlags result &&& 0x08≠0 ↔ result.sourceMatchesExpected=true):=by
 unfold resultFlags
 cases result.evidence<;>cases result.sourcePresent<;>cases result.destinationPresent <;>
  cases result.destinationMatchesSource<;>cases result.sourceMatchesExpected<;>decide

lemma encodeResult_iff : encodeOperationResult result=.ok payload ↔
 (∀text∈operationResultTexts result,text.length<2 ^ 32) ∧
  (operationResultPayload result).length≤kMaximumOperationPayloadBytes ∧
   operationResultPayload result=payload:=by
 simp only [encodeOperationResult,PayloadLimit.finish_eq_ok,frameLimit]

def resultFields (result : OperationResult) : OperationResultFields where
 magic:=resultMagic
 version:=kFileOperationProtocolVersion
 operationId:=result.operationId
 status:=enumCode result.status
 flags:=resultFlags result
 reserved:=0
 platformCode:=result.platformCode
 confirmedSnapshot:=result.confirmedSnapshot
 detailUtf8:=result.detailUtf8

lemma readResult_append (h:∀text∈operationResultTexts result,text.length<2 ^ 32)
 (rest : Bytes) : readOperationResult.run (operationResultPayload result++rest)=
  some (resultFields result,rest):=by
 have hrevision:=h result.confirmedSnapshot.sourceRevisionUtf8 (by simp [operationResultTexts])
 have hdetail:=h result.detailUtf8 (by simp [operationResultTexts])
 simp only [readOperationResult,operationResultPayload,appendEnum,List.append_assoc,
  Reader.readInteger_bind,snapshot_bind hrevision,Reader.readString_bind _ _ hdetail,
  Reader.run_pure]
 rfl

lemma resultOfFields_resultFields (result : OperationResult):
 resultOfFields (resultFields result) []=some result:=by
 obtain ⟨hreserved,hevidence,hsource,hdestination,hmatches,hexpected⟩:=flags_read result
 simp only [resultOfFields,resultFields,Option.bind_eq_bind,enumOfCode_enumCode,
  Option.bind_some,hreserved,hevidence,hsource,hdestination,hmatches,hexpected,
  Bool.decide_eq_true,and_self,if_true]

lemma decode_result (htexts:(operationResultTexts result).all validUtf8WithoutNul=true)
 (h:encodeOperationResult result=.ok payload):
 decodeOperationResult payload=.ok result:=by
 obtain ⟨hstrings,hsize,rfl⟩:=encodeResult_iff.mp h
 have hread:=readResult_append hstrings []
 rw [List.append_nil] at hread
 simp only [decodeOperationResult,bind_unit_eq_ok,require_eq_ok,decide_eq_true_eq,
  found_bind_eq_ok,pure_eq_ok,Prod.exists]
 exact ⟨hsize,_,_,hread,result,resultOfFields_resultFields result,htexts,rfl⟩

end Results

section Requests

/-- A request of any of the three kinds. -/
inductive Request where
 | rename (request : RenameRequest)
 | permanentDelete (request : DeleteRequest)
 | createDirectory (request : CreateDirectoryRequest)
 deriving DecidableEq

namespace Request

def kind : Request → OperationRequestKind
 | .rename _=>.rename
 | .permanentDelete _=>.permanentDelete
 | .createDirectory _=>.createDirectory

def valid : Request → Except Bytes Unit
 | .rename request=>validRenameRequest request
 | .permanentDelete request=>validDeleteRequest request
 | .createDirectory request=>validCreateDirectoryRequest request

def texts : Request → List Bytes
 | .rename request=>renameTexts request++[request.expectedDestination.sourceRevisionUtf8,
   request.trashSecurityBaselineSddlUtf8]
 | .permanentDelete request=>deleteTexts request++[request.trashSecurityBaselineSddlUtf8]
 | .createDirectory request=>createDirectoryTexts request

def received : Request → Request
 | .rename request=>.rename (FileOperationProtocolExact.received request)
 | request=>request

end Request

def encode : Request → Except Thrown Bytes
 | .rename request=>encodeRenameRequest request
 | .permanentDelete request=>encodeDeleteRequest request
 | .createDirectory request=>encodeCreateDirectoryRequest request

def decode (kind : OperationRequestKind) (payload : Bytes) : Except Bytes Request:=
 match kind with
 | .rename=>Request.rename <$> decodeRenameRequest payload
 | .permanentDelete=>Request.permanentDelete <$> decodeDeleteRequest payload
 | .createDirectory=>Request.createDirectory <$> decodeCreateDirectoryRequest payload

variable {request other : Request} {payload : Bytes}

lemma decode_encoded (hvalid:request.valid=.ok ())
 (htexts:request.texts.all validUtf8WithoutNul=true) (h:encode request=.ok payload):
 decode request.kind payload=.ok request.received:=by
 cases request with
 | rename request=>
  have hread:renameTextsValid request=true:=by
   simp only [Request.texts,List.all_append,List.all_cons,List.all_nil,Bool.and_true,
    Bool.and_eq_true] at htexts
   rw [renameTextsValid,List.all_append,List.all_cons,List.all_nil,Bool.and_true,
    Bool.and_eq_true]
   exact ⟨htexts.1,htexts.2.1⟩
  exact (map_eq_ok _ _ _).mpr ⟨_,decode_rename hvalid hread h,rfl⟩
 | permanentDelete request=>
  rw [Request.texts,List.all_append,Bool.and_eq_true] at htexts
  exact (map_eq_ok _ _ _).mpr ⟨_,decode_delete hvalid htexts.1 h,rfl⟩
 | createDirectory request=>
  exact (map_eq_ok _ _ _).mpr ⟨_,decode_directory hvalid htexts h,rfl⟩

lemma encode_decoded {kind : OperationRequestKind} (h:decode kind payload=.ok request):
 encode request=.ok payload ∧ request.kind=kind:=by
 cases kind with
 | rename=>
  obtain ⟨request,hdecode,rfl⟩:=(map_eq_ok _ _ _).mp h
  exact ⟨encode_rename hdecode,rfl⟩
 | permanentDelete=>
  obtain ⟨request,hdecode,rfl⟩:=(map_eq_ok _ _ _).mp h
  exact ⟨encode_delete hdecode,rfl⟩
 | createDirectory=>
  obtain ⟨request,hdecode,rfl⟩:=(map_eq_ok _ _ _).mp h
  exact ⟨encode_directory hdecode,rfl⟩

def magicOf : OperationRequestKind → UInt32
 | .rename=>requestMagic
 | .permanentDelete=>deleteRequestMagic
 | .createDirectory=>createDirectoryRequestMagic

lemma encode_header (h:encode request=.ok payload):
 payload.length≤kMaximumOperationPayloadBytes ∧
  ∃ rest,payload=appendInteger (magicOf request.kind) ++
   (appendInteger kFileOperationProtocolVersion++rest):=by
 have hfields (fields : RequestFields) (rest : Bytes) : ∃ tail,appendFields fields++rest=
   appendInteger fields.magic++(appendInteger fields.version++tail):=by
  simp only [appendFields,List.append_assoc]
  exact ⟨_,rfl⟩
 cases request with
 | rename request=>
  obtain ⟨-,hsize,rfl⟩:=encodeRename_iff.mp h
  exact ⟨hsize,hfields (renameFields request) _⟩
 | permanentDelete request=>
  obtain ⟨-,hsize,rfl⟩:=encodeDelete_iff.mp h
  exact ⟨hsize,hfields (deleteFields request) _⟩
 | createDirectory request=>
  obtain ⟨-,hsize,rfl⟩:=encodeDirectory_iff.mp h
  exact ⟨hsize,_,rfl⟩

lemma decode_kind (h:encode request=.ok payload):
 decodeOperationRequestKind payload=.ok request.kind:=by
 obtain ⟨hsize,rest,rfl⟩:=encode_header h
 have hread:readRequestHeader.run (appendInteger (magicOf request.kind) ++
   (appendInteger kFileOperationProtocolVersion++rest))=
   some ((magicOf request.kind,kFileOperationProtocolVersion),rest):=by
  rw [readRequestHeader,Reader.readInteger_bind,Reader.readInteger_bind,Reader.run_pure]
 have hfound:kindOfMagic (magicOf request.kind)=some request.kind:=by
  generalize request.kind=kind
  cases kind<;>decide
 simp only [decodeOperationRequestKind,bind_unit_eq_ok,require_eq_ok,decide_eq_true_eq,
  found_bind_eq_ok,found_eq_ok,Prod.exists]
 exact ⟨hsize,_,_,_,hread,rfl,hfound⟩

/-- What is sent is read as what it is and by its own decoder only, and a decoder accepts
  nothing but what its encoder writes. -/
structure Exact (request : Request) (result : OperationResult) (payload : Bytes) : Prop where
 accepted : request.valid=.ok () → request.texts.all validUtf8WithoutNul=true →
  encode request=.ok payload → decode request.kind payload=.ok request.received
 named : encode request=.ok payload → decodeOperationRequestKind payload=.ok request.kind
 apart : ∀kind,encode request=.ok payload → kind≠request.kind →
  ∃ detail,decode kind payload=.error detail
 canonical : ∀kind,decode kind payload=.ok request → encode request=.ok payload
 answered : (operationResultTexts result).all validUtf8WithoutNul=true →
  encodeOperationResult result=.ok payload → decodeOperationResult payload=.ok result

/-- The file-operation helper protocol is exact for every request, result and payload. -/
theorem operation_protocol_exact (request : Request) (result : OperationResult)
 (payload : Bytes) : Exact request result payload:=by
 constructor
 · exact decode_encoded
 · exact decode_kind
 · intro kind h hkind
   cases hdecode:decode kind payload with
   | error detail=>exact ⟨detail,rfl⟩
   | ok other=>
    obtain ⟨hother,rfl⟩:=encode_decoded hdecode
    have hsame:=decode_kind h
    rw [decode_kind hother] at hsame
    exact absurd (Except.ok.inj hsame) hkind
 · intro kind h
   exact (encode_decoded h).1
 · exact decode_result

end Requests

end VoVe.FileOperationProtocolExact
