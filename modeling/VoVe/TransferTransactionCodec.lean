import VoVe.TransactionCodec
import VoVe.TransferTransaction

set_option autoImplicit false

namespace VoVe.TransferTransactionCodec
open ByteCodec AsciiText Checks FileOperation CurrentOperationJournal TransactionCodec
 TransferTransaction

def transactionMagic : UInt32 := 0x31544656
def maximumPayloadBytes : ℕ := kMaximumCurrentOperationPayloadBytes

def transferLimit : PayloadLimit where
 maximumPayloadBytes:=maximumPayloadBytes
 stringTooLarge:=utf8 "catalog protocol string is too large"
 payloadTooLarge:=utf8 "file-transfer transaction exceeds the journal limit"

def flagByte (flag : Bool) : UInt8 := if flag then 1 else 0

variable (snapshot : SourceSnapshot)

def appendStamp : Bytes := appendInteger snapshot.sizeBytes++appendInteger snapshot.modifiedUnixNs

def appendSnapshot : Bytes := appendStamp snapshot++appendString snapshot.sourceRevisionUtf8

variable (version : UInt32)

def appendOverwriteState (item : FileTransferItem) : Bytes:=
 if version ≥ 6 then appendEnum item.overwriteState else appendInteger (0 : UInt8)

def appendItemHeader (item : FileTransferItem) : Bytes:=
 appendEnum item.strategy++(appendEnum item.sourceLocation ++
  (appendEnum item.destinationState++(appendEnum item.moveStreamReason ++
  (appendInteger (flagByte item.contentProofPresent)++(appendOverwriteState version item ++
  (appendInteger (0 : UInt16)++(appendStamp item.originalSourceSnapshot ++
  (appendStamp item.currentSourceSnapshot++(appendStamp item.destinationSnapshot ++
  appendInteger item.contentBytes)))))))))

variable (item : FileTransferItem)

/-- The strings of an item that the decoder checks, in the order they are written. -/
def itemTexts : List Bytes:=
 [item.source.native,item.stagedSource.native,item.tempDestination.native,
  item.destination.native,item.originalSourceSnapshot.sourceRevisionUtf8,
  item.currentSourceSnapshot.sourceRevisionUtf8,item.destinationSnapshot.sourceRevisionUtf8,
  item.sourceParentIdentityUtf8,item.destinationParentIdentityUtf8,
  item.sourceParentRevisionUtf8,item.destinationParentRevisionUtf8]

def appendItemOverwrite : Bytes:=
 if version ≥ 5 then appendSnapshot item.overwriteDestinationSnapshot else []

def appendItemBackup : Bytes:=
 if version ≥ 6 then appendSnapshot item.overwriteBackupSnapshot else []

def appendTransferItem : Bytes:=
 appendItemHeader version item++(item.contentSha256.bytes++(item.requestToken.bytes ++
  ((itemTexts item).flatMap appendString ++
  (appendItemOverwrite version item++appendItemBackup version item))))

variable (transaction : FileTransferTransaction)

def transferPayload : Bytes:=
 appendInteger transactionMagic++(appendInteger transaction.version ++
  (appendInteger transaction.operationId++(appendEnum transaction.kind ++
  (appendEnum transaction.phase++(appendEnum transaction.activeStep ++
  (appendEnum transaction.failureStatus++(appendEnum transaction.activeEvidence ++
  (appendEnum transaction.failureEvidence ++
  (appendInteger (if transaction.cancelled then 1 else 0 : UInt16) ++
  (appendInteger transaction.activeIndex ++
  (appendInteger (UInt32.ofNat transaction.items.length) ++
  (appendString transaction.failureDetailUtf8 ++
  transaction.items.flatMap (appendTransferItem transaction.version)))))))))))))

/-- Every string the encoder writes. -/
def transferStrings : List Bytes:=
 transaction.failureDetailUtf8::transaction.items.flatMap fun item=>itemTexts item ++
  [item.overwriteDestinationSnapshot.sourceRevisionUtf8,
   item.overwriteBackupSnapshot.sourceRevisionUtf8]

def encodeFileTransferTransaction:
  Except Thrown Bytes := do
 throwInvalid (validFileTransferTransaction transaction)
 transferLimit.finish (transferStrings transaction) (transferPayload transaction)

def prepareFileTransferTransaction (kind : FileTransferKind) (sources : List FileTransferSource)
  (operationId : UInt64) : Except Thrown FileTransferTransaction := do
 require (sources≠[] ∧ sources.length ≤ kMaximumFileTransferItems ∧ operationId≠0)
  (.invalidArgument (utf8 "file-transfer sources are invalid"))
 let transaction : FileTransferTransaction:=
  { operationId:=operationId,kind:=kind,
    items:=sources.mapIdx (preparedItem kind operationId) }
 throwInvalid (validFileTransferTransaction transaction)
 let _ ← encodeFileTransferTransaction transaction
 pure transaction

def readTransferHeader : Reader (FileTransferTransaction × ℕ) := do
 let magic ← Reader.readInteger UInt32
 let version ← Reader.readInteger UInt32
 let operationId ← Reader.readInteger UInt64
 let kind ← Reader.readEnum FileTransferKind
 let phase ← Reader.readEnum FileTransferPhase
 let activeStep ← Reader.readEnum FileTransferStep
 let failureStatus ← Reader.readEnum OperationStatus
 let activeEvidence ← Reader.readEnum OperationEvidence
 let failureEvidence ← Reader.readEnum OperationEvidence
 let reserved16 ← Reader.readInteger UInt16
 let activeIndex ← Reader.readInteger UInt32
 let itemCount ← Reader.readInteger UInt32
 let failureDetailUtf8 ← Reader.readString
 Reader.check (magic = transactionMagic ∧ validTransactionVersion version ∧
  reserved16 ≤ (if version ≥ 5 then 1 else 0) ∧ itemCount≠0 ∧
  itemCount.toNat ≤ kMaximumFileTransferItems)
 pure ({ version:=version,operationId:=operationId,kind:=kind,phase:=phase,
         activeStep:=activeStep,activeIndex := activeIndex,activeEvidence := activeEvidence,
         failureStatus:=failureStatus,failureEvidence := failureEvidence,
         failureDetailUtf8:=failureDetailUtf8,cancelled := reserved16≠0 },
  itemCount.toNat)

def blankItem : FileTransferItem where
 source:=⟨[]⟩
 stagedSource:=⟨[]⟩
 tempDestination:=⟨[]⟩
 overwriteBackup:=⟨[]⟩
 destination:=⟨[]⟩

def readOverwriteState : Reader OverwriteDestinationState:=
 if version ≥ 6 then Reader.readEnum OverwriteDestinationState
 else do
  let reserved8 ← Reader.readInteger UInt8
  Reader.check (reserved8 = 0)
  pure .none

def readItemHeader : Reader FileTransferItem := do
 let strategy ← Reader.readEnum FileTransferStrategy
 let sourceLocation ← Reader.readEnum FileTransferSourceLocation
 let destinationState ← Reader.readEnum FileTransferDestinationState
 let moveStreamReason ← Reader.readEnum MoveStreamReason
 let contentProofPresent ← Reader.readInteger UInt8
 let overwriteState ← readOverwriteState version
 let reserved16 ← Reader.readInteger UInt16
 let originalSize ← Reader.readInteger UInt64
 let originalModified ← Reader.readInteger Int64
 let currentSize ← Reader.readInteger UInt64
 let currentModified ← Reader.readInteger Int64
 let destinationSize ← Reader.readInteger UInt64
 let destinationModified ← Reader.readInteger Int64
 let contentBytes ← Reader.readInteger UInt64
 Reader.check (contentProofPresent ≤ 1 ∧ reserved16 = 0)
 pure { blankItem with
  strategy:=strategy,sourceLocation := sourceLocation,destinationState := destinationState,
  moveStreamReason:=moveStreamReason,contentProofPresent := contentProofPresent≠0,
  overwriteState:=overwriteState,contentBytes := contentBytes,
  originalSourceSnapshot:={ sizeBytes:=originalSize,modifiedUnixNs:=originalModified },
  currentSourceSnapshot:={ sizeBytes:=currentSize,modifiedUnixNs:=currentModified },
  destinationSnapshot:={ sizeBytes:=destinationSize,modifiedUnixNs:=destinationModified } }

def withRevision (sourceRevisionUtf8 : Bytes) : SourceSnapshot:=
 { snapshot with sourceRevisionUtf8:=sourceRevisionUtf8 }

def readItemTexts : Reader FileTransferItem := do
 let source ← readText validUtf8WithoutNul
 let stagedSource ← readText validUtf8WithoutNul
 let tempDestination ← readText validUtf8WithoutNul
 let destination ← readText validUtf8WithoutNul
 let originalRevision ← readText validUtf8WithoutNul
 let currentRevision ← readText validUtf8WithoutNul
 let destinationRevision ← readText validUtf8WithoutNul
 let sourceParentIdentityUtf8 ← readText validUtf8WithoutNul
 let destinationParentIdentityUtf8 ← readText validUtf8WithoutNul
 let sourceParentRevisionUtf8 ← readText validUtf8WithoutNul
 let destinationParentRevisionUtf8 ← readText validUtf8WithoutNul
 pure { item with
  source:=⟨source⟩,stagedSource := ⟨stagedSource⟩,tempDestination := ⟨tempDestination⟩,
  destination:=⟨destination⟩,
  originalSourceSnapshot:=withRevision item.originalSourceSnapshot originalRevision,
  currentSourceSnapshot:=withRevision item.currentSourceSnapshot currentRevision,
  destinationSnapshot:=withRevision item.destinationSnapshot destinationRevision,
  sourceParentIdentityUtf8:=sourceParentIdentityUtf8,
  destinationParentIdentityUtf8:=destinationParentIdentityUtf8,
  sourceParentRevisionUtf8:=sourceParentRevisionUtf8,
  destinationParentRevisionUtf8:=destinationParentRevisionUtf8 }

def readSnapshot (stored : Bool) : Reader SourceSnapshot:=
 if stored then do
  let sizeBytes ← Reader.readInteger UInt64
  let modifiedUnixNs ← Reader.readInteger Int64
  let sourceRevisionUtf8 ← Reader.readString
  pure { sizeBytes:=sizeBytes,modifiedUnixNs:=modifiedUnixNs,
         sourceRevisionUtf8:=sourceRevisionUtf8 }
 else pure {}

/-- The fields of an item that are not stored are derived from the others. -/
def deriveItem (operationId : UInt64) (index : ℕ) (item : FileTransferItem):
  FileTransferItem:=
 { item with
   overwriteBackup:=fileTransferOverwriteBackupPath item.destination operationId index
   overwriteState:=
    if version ≥ 6 then item.overwriteState
    else if snapshotEmpty item.overwriteDestinationSnapshot then .none else .authorized }

def readTransferItem (version : UInt32) (operationId : UInt64) (index : ℕ):
  DetailReader FileTransferItem := do
 let header ← DetailReader.group (readItemHeader version)
  (utf8 "file-transfer transaction item header is invalid or truncated")
 let contentSha256 ← DetailReader.group (Reader.readFixed kFileTransferDigestBytes)
  (utf8 "file-transfer transaction digest is truncated")
 let requestToken ← DetailReader.group (Reader.readFixed kFileTransferRequestTokenBytes)
  (utf8 "file-transfer transaction request token is truncated")
 let item ← DetailReader.group (readItemTexts header)
  (utf8 "file-transfer transaction item text is invalid or truncated")
 let overwrite ← DetailReader.group (readSnapshot (version ≥ 5))
  (utf8 "file-transfer overwrite authorization is truncated")
 let backup ← DetailReader.group (readSnapshot (version ≥ 6))
  (utf8 "file-transfer overwrite backup proof is truncated")
 pure (deriveItem version operationId index { item with
  contentSha256:=contentSha256,requestToken := requestToken,
  overwriteDestinationSnapshot:=overwrite,overwriteBackupSnapshot := backup })

def decodeFileTransferTransaction (payload detail : Bytes):
  Except Bytes FileTransferTransaction := do
 let trailing:=utf8 "file-transfer transaction contains trailing or invalid data"
 require (payload.length ≤ maximumPayloadBytes) transferLimit.payloadTooLarge
 let ((header,itemCount),body) ← found (readTransferHeader.run payload)
  (utf8 "file-transfer transaction header is invalid or truncated")
 let (items,rest) ← (DetailReader.readItems
  (readTransferItem header.version header.operationId) 0 itemCount).run body
 let decoded:={ header with items:=items }
 require (rest = [] ∧ validUtf8WithoutNul decoded.failureDetailUtf8) (detailOr detail trailing)
 orDetail (validFileTransferTransaction decoded) trailing
 pure decoded

def itemTextsValid : Bool := (itemTexts item).all validUtf8WithoutNul

def transferTextsValid : Bool:=
 validUtf8WithoutNul transaction.failureDetailUtf8 && transaction.items.all itemTextsValid

section ItemReading
variable {item : FileTransferItem} {version : UInt32}

lemma readOverwriteState_bind {β : Type} (f : OverwriteDestinationState → Reader β)
 (rest : Bytes) (item : FileTransferItem):
 (readOverwriteState version >>= f).run (appendOverwriteState version item++rest)=
  (f (if version≥6 then item.overwriteState else .none)).run rest:=by
 unfold readOverwriteState appendOverwriteState
 split
 · rw [Reader.readEnum_bind]
 · rw [Reader.run_bind,Reader.readInteger_bind]
   rfl

lemma readItemHeader_append (item : FileTransferItem) (rest : Bytes):
 (readItemHeader version).run (appendItemHeader version item++rest)=
  some ({ blankItem with
   strategy:=item.strategy,sourceLocation := item.sourceLocation,
   destinationState:=item.destinationState,moveStreamReason := item.moveStreamReason,
   contentProofPresent:=item.contentProofPresent,
   overwriteState:=if version≥6 then item.overwriteState else .none,
   contentBytes:=item.contentBytes,
   originalSourceSnapshot:=withRevision item.originalSourceSnapshot [],
   currentSourceSnapshot:=withRevision item.currentSourceSnapshot [],
   destinationSnapshot:=withRevision item.destinationSnapshot [] },rest):=by
 simp only [readItemHeader,appendItemHeader,appendStamp,List.append_assoc,
  Reader.readEnum_bind,Reader.readInteger_bind,readOverwriteState_bind,Reader.check_bind]
 cases item.contentProofPresent with
 | false=>rfl
 | true=>rfl

lemma readItemTexts_append (header:FileTransferItem) (rest : Bytes)
 (h:∀text∈itemTexts item,text.length<2 ^ 32):
 (readItemTexts header).run ((itemTexts item).flatMap appendString++rest)=
  if itemTextsValid item then some ({ header with
   source:=item.source,stagedSource := item.stagedSource,
   tempDestination:=item.tempDestination,destination := item.destination,
   originalSourceSnapshot:=withRevision header.originalSourceSnapshot
    item.originalSourceSnapshot.sourceRevisionUtf8,
   currentSourceSnapshot:=withRevision header.currentSourceSnapshot
    item.currentSourceSnapshot.sourceRevisionUtf8,
   destinationSnapshot:=withRevision header.destinationSnapshot
    item.destinationSnapshot.sourceRevisionUtf8,
   sourceParentIdentityUtf8:=item.sourceParentIdentityUtf8,
   destinationParentIdentityUtf8:=item.destinationParentIdentityUtf8,
   sourceParentRevisionUtf8:=item.sourceParentRevisionUtf8,
   destinationParentRevisionUtf8:=item.destinationParentRevisionUtf8 },rest)
  else none:=by
 simp only [itemTexts,List.forall_mem_cons] at h
 obtain ⟨h₁,h₂,h₃,h₄,h₅,h₆,h₇,h₈,h₉,h₁₀,h₁₁,-⟩:=h
 simp only [readItemTexts,itemTexts,List.flatMap_cons,List.flatMap_nil,List.append_assoc,
  List.nil_append,readText_bind,h₁,h₂,h₃,h₄,h₅,h₆,h₇,h₈,h₉,h₁₀,h₁₁,Reader.run_pure]
 simp only [itemTextsValid,itemTexts,List.all_cons,List.all_nil,Bool.and_true,
  Bool.and_eq_true,ite_and]

lemma readSnapshot_append (stored : Bool) (snapshot : SourceSnapshot) (rest : Bytes)
 (h:snapshot.sourceRevisionUtf8.length<2 ^ 32) (hempty:stored=false → snapshot={}):
 (readSnapshot stored).run ((if stored then appendSnapshot snapshot else [])++rest)=
  some (snapshot,rest):=by
 cases stored with
 | false=>
  rw [hempty rfl]
  rfl
 | true=>
  simp only [readSnapshot,if_true,appendSnapshot,appendStamp,List.append_assoc,
   Reader.readInteger_bind,Reader.readString_bind _ _ h,Reader.run_pure]

end ItemReading

end VoVe.TransferTransactionCodec
