import VoVe.DirectoryTransferProgress

set_option autoImplicit false

namespace VoVe.DirectoryTransferProgressCodec
open ByteCodec AsciiText Checks TransferTransaction
open DirectoryManifest DirectoryManifestCodec DirectoryTransferProgress

section Frames
variable (sha256 : Bytes → DirectoryTransferProgressDigest)

def encodeDirectoryTransferProgressHeader (header:DirectoryTransferProgressHeader):
  Except ManifestThrown Bytes := do
 (basicHeaderValid sha256 header).mapError .invalidArgument
 let payload:=encodeHeaderPrefix header++header.headerSha256.bytes
 require (payload.length = kDirectoryTransferProgressHeaderBytes)
  (.logicError (utf8 "directory-transfer progress header framing failed"))
 pure payload

def readProgressHeader : Reader DirectoryTransferProgressHeader := do
 let magic ← Reader.readBytes headerMagic.length
 let version ← Reader.readInteger UInt32
 let headerBytes ← Reader.readInteger UInt16
 let recordBytes ← Reader.readInteger UInt16
 let hashAlgorithm ← Reader.readInteger UInt8
 let kind ← Reader.readInteger UInt8
 let flags ← Reader.readInteger UInt16
 let rootCount ← Reader.readInteger UInt32
 let entryCount ← Reader.readInteger UInt32
 let reserved1 ← Reader.readInteger UInt32
 let operationId ← Reader.readInteger UInt64
 let manifestEncodedSize ← Reader.readInteger UInt64
 let manifestDigest ← Reader.readFixed _
 let maximumRecordCount ← Reader.readInteger UInt32
 let reserved2 ← Reader.readInteger UInt32
 let reserved3 ← Reader.readInteger UInt32
 let reserved4 ← Reader.readInteger UInt32
 let headerSha256 ← Reader.readFixed _
 Reader.check (magic = headerMagic ∧ kind = enumCode FileTransferKind.copy ∧ reserved1 = 0 ∧
  reserved2 = 0 ∧ reserved3 = 0 ∧ reserved4 = 0)
 pure { version:=version,headerBytes:=headerBytes,recordBytes:=recordBytes,
        hashAlgorithm:=hashAlgorithm,kind := .copy,flags := flags,rootCount := rootCount,
        entryCount:=entryCount,operationId := operationId,
        manifestEncodedSize:=manifestEncodedSize,manifestDigest := manifestDigest,
        maximumRecordCount:=maximumRecordCount,headerSha256 := headerSha256 }

def decodeDirectoryTransferProgressHeader (payload : Bytes):
  Except Bytes DirectoryTransferProgressHeader := do
 require (payload.length = kDirectoryTransferProgressHeaderBytes)
  (utf8 "directory-transfer progress header framing is invalid")
 let truncated:=utf8 "directory-transfer progress header is invalid or truncated"
 let (decoded,remaining) ← found (readProgressHeader.run payload) truncated
 require (remaining = []) truncated
 basicHeaderValid sha256 decoded
 pure decoded

def encodeDirectoryTransferProgressRecord (record : DirectoryTransferProgressRecord):
  Except ManifestThrown Bytes := do
 (basicRecordValid sha256 record).mapError .invalidArgument
 let payload:=encodeRecordPrefix record++record.recordSha256.bytes
 require (payload.length = kDirectoryTransferProgressRecordBytes)
  (.logicError (utf8 "directory-transfer progress record framing failed"))
 pure payload

def readProgressRecord : Reader DirectoryTransferProgressRecord := do
 let magic ← Reader.readInteger UInt32
 let version ← Reader.readInteger UInt8
 let kind ← Reader.readInteger UInt8
 let objectKind ← Reader.readInteger UInt8
 let flags ← Reader.readInteger UInt8
 let sequence ← Reader.readInteger UInt64
 let rootIndex ← Reader.readInteger UInt32
 let entryIndex ← Reader.readInteger UInt32
 let contentBytes ← Reader.readInteger UInt64
 let ownershipToken ← Reader.readFixed _
 let objectIdentitySha256 ← Reader.readFixed _
 let contentSha256 ← Reader.readFixed _
 let previousRecordSha256 ← Reader.readFixed _
 let recordSha256 ← Reader.readFixed _
 Reader.check (magic = recordMagic ∧ flags = 0)
 let kind ← Reader.ofOption (eventKindOfCode kind)
 let objectKind ← Reader.ofOption (objectKindOfCode objectKind)
 pure { version:=version,kind:=kind,objectKind:=objectKind,sequence:=sequence,
        rootIndex:=rootIndex,entryIndex := entryIndex,contentBytes := contentBytes,
        ownershipToken:=ownershipToken,objectIdentitySha256 := objectIdentitySha256,
        contentSha256:=contentSha256,previousRecordSha256 := previousRecordSha256,
        recordSha256:=recordSha256 }

def decodeDirectoryTransferProgressRecord (payload : Bytes):
  Except Bytes DirectoryTransferProgressRecord := do
 require (payload.length = kDirectoryTransferProgressRecordBytes)
  (utf8 "directory-transfer progress record framing is invalid")
 let truncated:=utf8 "directory-transfer progress record is invalid or truncated"
 let (decoded,remaining) ← found (readProgressRecord.run payload) truncated
 require (remaining = []) truncated
 basicRecordValid sha256 decoded
 pure decoded

end Frames

section RoundTrip
variable {sha256 : Bytes → DirectoryTransferProgressDigest}
 {header : DirectoryTransferProgressHeader} {record : DirectoryTransferProgressRecord}

def headerPayload (header:DirectoryTransferProgressHeader) : Bytes:=
 encodeHeaderPrefix header++header.headerSha256.bytes

def recordPayload (record : DirectoryTransferProgressRecord) : Bytes:=
 encodeRecordPrefix record++record.recordSha256.bytes

lemma length_headerPayload (header:DirectoryTransferProgressHeader):
 (headerPayload header).length=kDirectoryTransferProgressHeaderBytes:=by
 have hmagic:headerMagic.length=8:=by decide
 simp only [headerPayload,encodeHeaderPrefix,List.length_append,appendInteger_length,
  appendEnum_length,WireInteger.width,FixedBytes.length_eq,hmagic,
  kDirectoryTransferManifestDigestBytes,kDirectoryTransferProgressHeaderBytes]

lemma length_recordPayload (record : DirectoryTransferProgressRecord):
 (recordPayload record).length=kDirectoryTransferProgressRecordBytes:=by
 simp only [recordPayload,encodeRecordPrefix,List.length_append,appendInteger_length,
  WireInteger.width,FixedBytes.length_eq,kDirectoryTransferManifestDigestBytes,
  BasicDirectoryManifest.kDirectoryTransferOwnershipTokenBytes,
  kDirectoryTransferProgressRecordBytes]

lemma eventKindOfCode_code (kind : DirectoryTransferProgressEventKind):
 eventKindOfCode (eventKindCode kind)=some kind:=by
 cases kind<;>rfl

lemma objectKindOfCode_code (kind : DirectoryTransferProgressObjectKind):
 objectKindOfCode (objectKindCode kind)=some kind:=by
 cases kind<;>rfl

lemma readProgressHeader_append (hkind:header.kind=.copy) (rest : Bytes):
 readProgressHeader.run (headerPayload header++rest)=some (header,rest):=by
 have hmagic:∀ (f : Bytes → Reader DirectoryTransferProgressHeader) (rest : Bytes),
   (Reader.readBytes headerMagic.length >>= f).run (headerMagic++rest)=
    (f headerMagic).run rest:=by
  intro f rest
  simp [Reader.readBytes]
 simp only [readProgressHeader,headerPayload,encodeHeaderPrefix,List.append_assoc,hmagic,
  appendEnum,Reader.readInteger_bind,Reader.readFixed_bind,Reader.check_bind,hkind]
 rw [if_pos (by decide),←hkind]
 rfl

lemma readProgressRecord_append (record : DirectoryTransferProgressRecord) (rest : Bytes):
 readProgressRecord.run (recordPayload record++rest)=some (record,rest):=by
 simp only [readProgressRecord,recordPayload,encodeRecordPrefix,List.append_assoc,
  Reader.readInteger_bind,Reader.readFixed_bind,Reader.check_bind,eventKindOfCode_code,
  objectKindOfCode_code]
 rw [if_pos (by decide)]
 rfl

lemma mapError_eq_ok {ε δ : Type} (x : Except ε Unit) (f : ε → δ):
 x.mapError f=.ok () ↔ x=.ok ():=by
 cases x with
 | error e=>exact ⟨nofun,nofun⟩
 | ok u=>exact ⟨fun _=>rfl,fun _=>rfl⟩

lemma encodeHeader_ok (h:basicHeaderValid sha256 header=.ok ()):
 encodeDirectoryTransferProgressHeader sha256 header=.ok (headerPayload header):=by
 simp only [encodeDirectoryTransferProgressHeader,bind_unit_eq_ok,require_eq_ok,
  decide_eq_true_eq,pure_eq_ok]
 exact ⟨(mapError_eq_ok _ _).mpr h,length_headerPayload header,rfl⟩

lemma encodeRecord_ok (h:basicRecordValid sha256 record=.ok ()):
 encodeDirectoryTransferProgressRecord sha256 record=.ok (recordPayload record):=by
 simp only [encodeDirectoryTransferProgressRecord,bind_unit_eq_ok,require_eq_ok,
  decide_eq_true_eq,pure_eq_ok]
 exact ⟨(mapError_eq_ok _ _).mpr h,length_recordPayload record,rfl⟩

lemma decode_headerPayload (h:basicHeaderValid sha256 header=.ok ()):
 decodeDirectoryTransferProgressHeader sha256 (headerPayload header)=.ok header:=by
 have hkind:header.kind=.copy:=by
  simp only [basicHeaderValid,bind_unit_eq_ok,require_eq_ok,decide_eq_true_eq] at h
  exact h.1.2.2.2.2.1
 have hread:=readProgressHeader_append hkind []
 rw [List.append_nil] at hread
 simp only [decodeDirectoryTransferProgressHeader,bind_unit_eq_ok,found_bind_eq_ok,
  require_eq_ok,decide_eq_true_eq,pure_eq_ok]
 exact ⟨length_headerPayload header,_,hread,rfl,h,rfl⟩

lemma decode_recordPayload (h:basicRecordValid sha256 record=.ok ()):
 decodeDirectoryTransferProgressRecord sha256 (recordPayload record)=.ok record:=by
 have hread:=readProgressRecord_append record []
 rw [List.append_nil] at hread
 simp only [decodeDirectoryTransferProgressRecord,bind_unit_eq_ok,found_bind_eq_ok,
  require_eq_ok,decide_eq_true_eq,pure_eq_ok]
 exact ⟨length_recordPayload record,_,hread,rfl,h,rfl⟩

end RoundTrip

end VoVe.DirectoryTransferProgressCodec
