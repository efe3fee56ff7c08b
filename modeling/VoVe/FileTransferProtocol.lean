import VoVe.TransactionCodec
import VoVe.TransferTransaction

set_option autoImplicit false

namespace VoVe.FileTransferProtocol
open ByteCodec AsciiText PosixPath Checks DestinationFilename FileOperation TransactionCodec
 TransferTransaction

def kFileTransferProtocolVersion : UInt32 := 7
def kMaximumFileTransferProtocolBytes : ℕ := 64*1024
def kFileTransferProgressChunkBytes : ℕ := 1024*1024
def kFileTransferReservationMarkerBytes : UInt64 := 40

def requestMagic : UInt32 := 0x31514654
def reservationMagic : UInt32 := 0x31524654
def ackMagic : UInt32 := 0x31414654
def progressMagic : UInt32 := 0x31504654
def resultMagic : UInt32 := 0x31534654

abbrev RequestToken := FixedBytes kFileTransferRequestTokenBytes
abbrev ContentDigest := FixedBytes kFileTransferDigestBytes

inductive FileTransferStreamMode where
 | reserveNew
 | resumeExisting
 | auditExisting
 | probeReservation
 deriving DecidableEq

instance : WireEnum FileTransferStreamMode where
 values:=[.reserveNew,.resumeExisting,.auditExisting,.probeReservation]
 complete a := by cases a<;>decide
 small:=by decide

inductive FileTransferMessageKind where
 | reservation
 | progress
 | complete
 deriving DecidableEq

structure FrameAddress where
 operationId : UInt64 := 0
 itemIndex : UInt32 := 0
 requestToken : RequestToken := .zero _
 deriving DecidableEq

structure FileTransferStreamRequest extends FrameAddress where
 mode : FileTransferStreamMode := .reserveNew
 source : Path := ⟨[]⟩
 tempDestination : Path := ⟨[]⟩
 expectedSource : SourceSnapshot := {}
 expectedTemp : SourceSnapshot := {}
 sourceParentIdentityUtf8 : Bytes := []
 destinationParentIdentityUtf8 : Bytes := []
 destinationAnchorPath : Path := ⟨[]⟩
 destinationAnchorIdentityUtf8 : Bytes := []
 deriving DecidableEq

structure FileTransferReservation extends FrameAddress where
 tempSnapshot : SourceSnapshot := {}
 destinationParentIdentityUtf8 : Bytes := []
 destinationParentRevisionUtf8 : Bytes := []
 deriving DecidableEq

structure FileTransferReservationAck extends FrameAddress where
 accepted : Bool := false
 deriving DecidableEq

structure FileTransferProgress extends FrameAddress where
 bytesWritten : UInt64 := 0
 deriving DecidableEq

structure FileTransferStreamResult extends FrameAddress where
 status : OperationStatus := .ioError
 evidence : OperationEvidence := .none
 platformCode : Int64 := 0
 sourceSnapshot : SourceSnapshot := {}
 tempSnapshot : SourceSnapshot := {}
 contentSha256 : ContentDigest := .zero _
 bytesWritten : UInt64 := 0
 detailUtf8 : Bytes := []
 deriving DecidableEq

variable (result : FileTransferStreamResult)

def FileTransferStreamResult.ok : Bool := result.status = .success

def validProtocolText (text : Bytes) : Bool:=
 text.length ≤ kMaximumFileTransferProtocolBytes ∧ validUtf8WithoutNul text

def validResultPair (status : OperationStatus) (evidence : OperationEvidence) : Bool:=
 if status = .success then evidence = .committed else evidence≠.committed

/-- An identity that is its own stable form, and not of the weak Windows kind. -/
def strongIdentity (identity : Bytes) : Bool:=
 ¬startsWith identity winFile ∧ stableObjectIdentity identity = identity

def validAddress (address : FrameAddress) : Bool:=
 address.operationId≠0 ∧ address.itemIndex.toNat < kMaximumFileTransferItems ∧
  ¬tokenEmpty address.requestToken

def siblingTempPath (path : Path) (address : FrameAddress) : Path:=
 fileTransferTempDestinationPath (path.parentPath / ⟨utf8 "placeholder"⟩) address.operationId
  address.itemIndex.toNat

variable (request : FileTransferStreamRequest)

def requestComplete : Bool:=
 let anchored:=¬request.destinationAnchorPath.isEmpty
 let audit:=request.mode = .auditExisting
 let probe:=request.mode = .probeReservation
 let transfer:=¬audit ∧ ¬probe
 validAddress request.toFrameAddress ∧ request.source.isAbsolute ∧
  (transfer → request.tempDestination.isAbsolute ∧ ¬request.source.same request.tempDestination ∧
   request.tempDestination.same (siblingTempPath request.tempDestination request.toFrameAddress) ∧
   isTransferFilename request.tempDestination.filename.native) ∧
  (audit ∨ probe → request.tempDestination.isEmpty) ∧
  (probe → request.source.same (siblingTempPath request.source request.toFrameAddress)) ∧
  ¬request.source.filename.native.contains colon ∧
  (if probe then snapshotEmpty request.expectedSource else validSnapshot request.expectedSource) ∧
  ¬startsWith request.expectedSource.sourceRevisionUtf8 winFile ∧
  strongIdentity request.sourceParentIdentityUtf8 ∧
  ¬startsWith request.destinationParentIdentityUtf8 winFile ∧
  (transfer → stableObjectIdentity request.destinationParentIdentityUtf8=
   request.destinationParentIdentityUtf8) ∧
  (audit ∨ probe → request.destinationParentIdentityUtf8 = []) ∧
  (anchored ↔ request.destinationAnchorIdentityUtf8≠[]) ∧ (audit → anchored) ∧
  (probe → ¬anchored) ∧
  (anchored → request.destinationAnchorPath.isAbsolute ∧
   strongIdentity request.destinationAnchorIdentityUtf8)

def requestTempValid : Bool:=
 if request.mode = .resumeExisting then
  validSnapshot request.expectedTemp ∧
   ¬startsWith request.expectedTemp.sourceRevisionUtf8 winFile ∧
   request.expectedTemp.sizeBytes ≤ request.expectedSource.sizeBytes
 else ¬validSnapshot request.expectedTemp ∧ snapshotEmpty request.expectedTemp

def requestTexts : List Bytes:=
 [request.source.native,request.tempDestination.native,request.expectedSource.sourceRevisionUtf8,
  request.expectedTemp.sourceRevisionUtf8,request.sourceParentIdentityUtf8,
  request.destinationParentIdentityUtf8,request.destinationAnchorPath.native,
  request.destinationAnchorIdentityUtf8]

def validFileTransferStreamRequest : Except Bytes Unit := do
 require (requestComplete request) (utf8 "file-transfer stream request is incomplete or unsafe")
 require (requestTempValid request)
  (utf8 "file-transfer stream request has an invalid temporary identity")
 require ((requestTexts request).all validProtocolText)
  (utf8 "file-transfer stream request text is invalid UTF-8")

def appendSnapshot (snapshot : SourceSnapshot) : Bytes:=
 appendInteger snapshot.sizeBytes++(appendInteger snapshot.modifiedUnixNs ++
  appendString snapshot.sourceRevisionUtf8)

variable (magic : UInt32)

def appendAddress (address : FrameAddress) : Bytes:=
 appendInteger magic++(appendInteger kFileTransferProtocolVersion ++
  (appendInteger address.operationId++(appendInteger address.itemIndex ++
  address.requestToken.bytes)))

def frameLimit (payloadTooLarge : String) : PayloadLimit where
 maximumPayloadBytes:=kMaximumFileTransferProtocolBytes
 stringTooLarge:=utf8 "catalog protocol string is too large"
 payloadTooLarge:=utf8 payloadTooLarge

def requestPayload : Bytes:=
 appendAddress requestMagic request.toFrameAddress++(appendEnum request.mode ++
  (appendInteger (0 : UInt8)++(appendInteger (0 : UInt16) ++
  (appendString request.source.native++(appendString request.tempDestination.native ++
  (appendSnapshot request.expectedSource++(appendSnapshot request.expectedTemp ++
  (appendString request.sourceParentIdentityUtf8 ++
  (appendString request.destinationParentIdentityUtf8 ++
  (appendString request.destinationAnchorPath.native ++
  appendString request.destinationAnchorIdentityUtf8))))))))))

def encodeFileTransferStreamRequest : Except Thrown Bytes := do
 throwInvalid (validFileTransferStreamRequest request)
 (frameLimit "file-transfer stream request exceeds its protocol limit").finish
  (requestTexts request) (requestPayload request)

def readAddress : Reader FrameAddress := do
 let found ← Reader.readInteger UInt32
 let version ← Reader.readInteger UInt32
 Reader.check (found = magic ∧ version = kFileTransferProtocolVersion)
 let operationId ← Reader.readInteger UInt64
 let itemIndex ← Reader.readInteger UInt32
 let requestToken ← Reader.readFixed kFileTransferRequestTokenBytes
 pure { operationId:=operationId,itemIndex:=itemIndex,requestToken:=requestToken }

def readSnapshot : Reader SourceSnapshot := do
 let sizeBytes ← Reader.readInteger UInt64
 let modifiedUnixNs ← Reader.readInteger Int64
 let sourceRevisionUtf8 ← Reader.readString
 pure { sizeBytes:=sizeBytes,modifiedUnixNs:=modifiedUnixNs,
        sourceRevisionUtf8:=sourceRevisionUtf8 }

/-- A reader that has to use up its input. -/
def whole {α : Type} (reader : Reader α) (payload : Bytes) : Option α:=
 match reader.run payload with
 | some (a,[])=>some a
 | _=>none

lemma whole_eq_some {α : Type} (reader : Reader α) (payload : Bytes) (a : α):
 whole reader payload=some a ↔ reader.run payload=some (a,[]):=by
 unfold whole
 split
 · next b h => simp [h]
 · next h =>
   constructor
   · exact nofun
   · intro hrun
     exact absurd hrun (h a)

def readRequest : Reader FileTransferStreamRequest := do
 let address ← readAddress requestMagic
 let mode ← Reader.readEnum FileTransferStreamMode
 let reserved8 ← Reader.readInteger UInt8
 let reserved16 ← Reader.readInteger UInt16
 let source ← readText validUtf8WithoutNul
 let temp ← readText validUtf8WithoutNul
 let expectedSource ← readSnapshot
 let expectedTemp ← readSnapshot
 let sourceParentIdentityUtf8 ← Reader.readString
 let destinationParentIdentityUtf8 ← Reader.readString
 let destinationAnchor ← readText validUtf8WithoutNul
 let destinationAnchorIdentityUtf8 ← Reader.readString
 Reader.check (reserved8 = 0 ∧ reserved16 = 0)
 pure { toFrameAddress:=address,mode:=mode,source:=⟨source⟩,tempDestination:=⟨temp⟩,
        expectedSource:=expectedSource,expectedTemp := expectedTemp,
        sourceParentIdentityUtf8:=sourceParentIdentityUtf8,
        destinationParentIdentityUtf8:=destinationParentIdentityUtf8,
        destinationAnchorPath:=⟨destinationAnchor⟩,
        destinationAnchorIdentityUtf8:=destinationAnchorIdentityUtf8 }

variable (payload : Bytes)

def decodeFileTransferStreamRequest : Except Bytes FileTransferStreamRequest := do
 require (payload.length ≤ kMaximumFileTransferProtocolBytes)
  (utf8 "file-transfer stream request exceeds its protocol limit")
 let decoded ← found (whole readRequest payload)
  (utf8 "file-transfer stream request is invalid or truncated")
 validFileTransferStreamRequest decoded
 pure decoded

variable (reservation : FileTransferReservation)

def reservationTexts : List Bytes:=
 [reservation.tempSnapshot.sourceRevisionUtf8,reservation.destinationParentIdentityUtf8,
  reservation.destinationParentRevisionUtf8]

def reservationComplete : Bool:=
 validAddress reservation.toFrameAddress ∧ validSnapshot reservation.tempSnapshot ∧
  ¬startsWith reservation.tempSnapshot.sourceRevisionUtf8 winFile ∧
  strongIdentity reservation.destinationParentIdentityUtf8 ∧
  stableObjectIdentity reservation.destinationParentRevisionUtf8=
   reservation.destinationParentIdentityUtf8

def reservationPayload : Bytes:=
 appendAddress reservationMagic reservation.toFrameAddress ++
  (appendSnapshot reservation.tempSnapshot ++
  (appendString reservation.destinationParentIdentityUtf8 ++
  appendString reservation.destinationParentRevisionUtf8))

def encodeFileTransferReservation : Except Thrown Bytes := do
 require (reservationComplete reservation ∧ (reservationTexts reservation).all validProtocolText)
  (.invalidArgument (utf8 "file-transfer reservation is invalid"))
 (frameLimit "file-transfer reservation exceeds its protocol limit").finish
  (reservationTexts reservation) (reservationPayload reservation)

def readReservation : Reader FileTransferReservation := do
 let address ← readAddress reservationMagic
 let tempSnapshot ← readSnapshot
 let destinationParentIdentityUtf8 ← Reader.readString
 let destinationParentRevisionUtf8 ← Reader.readString
 pure { toFrameAddress:=address,tempSnapshot:=tempSnapshot,
        destinationParentIdentityUtf8:=destinationParentIdentityUtf8,
        destinationParentRevisionUtf8:=destinationParentRevisionUtf8 }

def decodeFileTransferReservation : Except Bytes FileTransferReservation := do
 let invalid:=utf8 "file-transfer reservation is invalid or truncated"
 require (payload.length ≤ kMaximumFileTransferProtocolBytes)
  (utf8 "file-transfer reservation exceeds its protocol limit")
 let decoded ← found (whole readReservation payload) invalid
 require (reservationComplete decoded ∧ (reservationTexts decoded).all validUtf8WithoutNul) invalid
 pure decoded

variable (ack : FileTransferReservationAck)

def ackPayload : Bytes:=
 appendAddress ackMagic ack.toFrameAddress++(appendInteger (if ack.accepted then 1 else 0 : UInt8) ++
  (appendInteger (0 : UInt8)++appendInteger (0 : UInt16)))

def encodeFileTransferReservationAck : Except Thrown Bytes := do
 require (validAddress ack.toFrameAddress)
  (.invalidArgument (utf8 "file-transfer reservation acknowledgement is invalid"))
 pure (ackPayload ack)

def readAck : Reader FileTransferReservationAck := do
 let address ← readAddress ackMagic
 let accepted ← Reader.readInteger UInt8
 let reserved8 ← Reader.readInteger UInt8
 let reserved16 ← Reader.readInteger UInt16
 Reader.check (validAddress address ∧ accepted ≤ 1 ∧ reserved8 = 0 ∧ reserved16 = 0)
 pure { toFrameAddress:=address,accepted:=accepted≠0 }

def decodeFileTransferReservationAck : Except Bytes FileTransferReservationAck := do
 require (payload.length ≤ kMaximumFileTransferProtocolBytes)
  (utf8 "file-transfer reservation acknowledgement exceeds its protocol limit")
 found (whole readAck payload)
  (utf8 "file-transfer reservation acknowledgement is invalid or truncated")

variable (progress : FileTransferProgress)

def progressPayload : Bytes:=
 appendAddress progressMagic progress.toFrameAddress++appendInteger progress.bytesWritten

def encodeFileTransferProgress : Except Thrown Bytes := do
 require (validAddress progress.toFrameAddress)
  (.invalidArgument (utf8 "file-transfer progress is invalid"))
 pure (progressPayload progress)

def readProgress : Reader FileTransferProgress := do
 let address ← readAddress progressMagic
 let bytesWritten ← Reader.readInteger UInt64
 Reader.check (validAddress address)
 pure { toFrameAddress:=address,bytesWritten:=bytesWritten }

def decodeFileTransferProgress : Except Bytes FileTransferProgress := do
 require (payload.length ≤ kMaximumFileTransferProtocolBytes)
  (utf8 "file-transfer progress exceeds its protocol limit")
 found (whole readProgress payload) (utf8 "file-transfer progress is invalid or truncated")

def resultTexts : List Bytes:=
 [result.sourceSnapshot.sourceRevisionUtf8,result.tempSnapshot.sourceRevisionUtf8,
  result.detailUtf8]

/-- A success has to bring its evidence, both snapshots and a digest. -/
def resultConsistent : Bool:=
 validAddress result.toFrameAddress ∧ validResultPair result.status result.evidence ∧
  (result.ok → validSnapshot result.sourceSnapshot ∧ validSnapshot result.tempSnapshot ∧
   result.bytesWritten = result.sourceSnapshot.sizeBytes ∧
   result.tempSnapshot.sizeBytes = result.bytesWritten ∧ ¬digestEmpty result.contentSha256)

def resultPayload : Bytes:=
 appendAddress resultMagic result.toFrameAddress++(appendEnum result.status ++
  (appendEnum result.evidence++(appendInteger (0 : UInt16) ++
  (appendInteger result.platformCode++(appendInteger result.bytesWritten ++
  (appendSnapshot result.sourceSnapshot++(appendSnapshot result.tempSnapshot ++
  (result.contentSha256.bytes++appendString result.detailUtf8))))))))

def encodeFileTransferStreamResult : Except Thrown Bytes := do
 require (resultConsistent result ∧ (resultTexts result).all validProtocolText)
  (.invalidArgument (utf8 "file-transfer stream result is invalid"))
 (frameLimit "file-transfer stream result exceeds its protocol limit").finish
  (resultTexts result) (resultPayload result)

def readResultHeader : Reader FileTransferStreamResult := do
 let address ← readAddress resultMagic
 let status ← Reader.readEnum OperationStatus
 let evidence ← Reader.readEnum OperationEvidence
 let reserved ← Reader.readInteger UInt16
 let platformCode ← Reader.readInteger Int64
 let bytesWritten ← Reader.readInteger UInt64
 let sourceSnapshot ← readSnapshot
 let tempSnapshot ← readSnapshot
 Reader.check (reserved = 0)
 pure { toFrameAddress:=address,status:=status,evidence:=evidence,
        platformCode:=platformCode,bytesWritten := bytesWritten,
        sourceSnapshot:=sourceSnapshot,tempSnapshot := tempSnapshot }

def decodeFileTransferStreamResult : Except Bytes FileTransferStreamResult := do
 let invalidText:=utf8 "file-transfer stream result text is invalid or truncated"
 require (payload.length ≤ kMaximumFileTransferProtocolBytes)
  (utf8 "file-transfer stream result exceeds its protocol limit")
 let (header,rest) ← found (readResultHeader.run payload)
  (utf8 "file-transfer stream result is invalid or truncated")
 let (contentSha256,rest) ← found ((Reader.readFixed kFileTransferDigestBytes).run rest)
  (utf8 "file-transfer stream result digest is truncated")
 let detailUtf8 ← found (whole Reader.readString rest) invalidText
 let decoded:={ header with contentSha256:=contentSha256,detailUtf8:=detailUtf8 }
 require ((resultTexts decoded).all validUtf8WithoutNul) invalidText
 require (resultConsistent decoded)
  (utf8 "file-transfer stream result has inconsistent success evidence")
 pure decoded

def kindOfMagic : Option FileTransferMessageKind:=
 if magic = reservationMagic then some .reservation
 else if magic = progressMagic then some .progress
 else if magic = resultMagic then some .complete
 else none

def readMessageHeader : Reader UInt32 := do
 let magic ← Reader.readInteger UInt32
 let version ← Reader.readInteger UInt32
 Reader.check (version = kFileTransferProtocolVersion)
 pure magic

def decodeFileTransferMessageKind : Except Bytes FileTransferMessageKind := do
 require (payload.length ≤ kMaximumFileTransferProtocolBytes)
  (utf8 "file-transfer helper message exceeds its protocol limit")
 let (magic,_) ← found (readMessageHeader.run payload)
  (utf8 "file-transfer helper message header is invalid")
 found (kindOfMagic magic) (utf8 "file-transfer helper message kind is unknown")

end VoVe.FileTransferProtocol
