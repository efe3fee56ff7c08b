import VoVe.TransactionCodec
import VoVe.TrashRecord

set_option autoImplicit false

namespace VoVe.TrashRecordCodec
open ByteCodec AsciiText PosixPath Checks FileOperation TransactionCodec TrashRecord

def transactionMagic : UInt32 := 0x31525456
def previousTransactionVersion : UInt32 := 8
def legacyTransactionVersion : UInt32 := 7
def directoryTransactionVersion : UInt32 := 9
def maximumPayloadBytes : ℕ := 4*1024*1024

def trashLimit : PayloadLimit where
 maximumPayloadBytes:=maximumPayloadBytes
 stringTooLarge:=utf8 "trash transaction string is too large"
 payloadTooLarge:=utf8 "trash transaction exceeds the journal limit"

variable (transaction : TrashTransaction)

/-- Ordinary plans stay byte-compatible with version 10. Cancellation phases and
  sparse retained slots need version 11. -/
def wireVersion : UInt32:=
 if transaction.phase = .cancelRemainingIntent ∨ transaction.phase = .cancelContainerRemoveIntent ∨
   transaction.items.map (fun item=>item.storageIndex.toNat) ≠ List.range transaction.items.length
 then kTrashTransactionVersion else 10

variable (item : TrashItem)

def entryRecords : List (BasicDirectoryTransferEntry × Bytes):=
 item.directoryEntries.mapIdx fun index entry =>
  (entry,(item.directorySecurityDescriptorsSddlUtf8[index]?).getD [])

variable (record : BasicDirectoryTransferEntry × Bytes)

def appendEntry : Bytes:=
 appendString record.1.relativePath.native++(appendInteger record.1.sizeBytes ++
  (appendInteger record.1.modifiedUnixNs++(appendString record.1.sourceRevisionUtf8 ++
  (appendInteger record.1.depth++(appendEnum record.1.kind++(appendInteger (0 : UInt8) ++
  appendString record.2))))))

def appendItemHead : Bytes:=
 appendString item.original.native++(appendString item.restorePath.native ++
  (appendString item.stored.native++(appendString item.current.native ++
  (appendInteger item.currentSnapshot.sizeBytes ++
  (appendInteger item.currentSnapshot.modifiedUnixNs ++
  (appendString item.currentSnapshot.sourceRevisionUtf8++(appendEnum item.kind ++
  (appendInteger item.payloadBytes++(appendInteger item.directoryPurgeCursor ++
  appendInteger (UInt32.ofNat item.directoryEntries.length))))))))))

def appendItemState : Bytes:=
 appendString item.storageIdentityUtf8++(appendEnum item.location ++
  (appendEnum item.securityState++appendString item.originalSecurityDescriptorSddlUtf8))

variable (version : UInt32)

def appendTrashItem (item : TrashItem) : Bytes:=
 appendItemHead item++((entryRecords item).flatMap appendEntry++(appendItemState item ++
  (appendEnum item.payloadPolicy ++
  (if version ≥ 11 then appendInteger item.storageIndex else []))))

def trashPayload : Bytes:=
 appendInteger transactionMagic++(appendInteger (wireVersion transaction) ++
  (appendInteger transaction.operationId++(appendInteger transaction.createdUnixNs ++
  (appendEnum transaction.phase++(appendEnum transaction.activeStep ++
  (appendEnum transaction.activeEvidence++(appendEnum transaction.failureStatus ++
  (appendInteger transaction.activeIndex++(appendString transaction.failureDetailUtf8 ++
  (appendInteger (UInt32.ofNat transaction.items.length) ++
  transaction.items.flatMap (appendTrashItem (wireVersion transaction))))))))))))

def headStrings : List Bytes:=
 [item.original.native,item.restorePath.native,item.stored.native,item.current.native,
  item.currentSnapshot.sourceRevisionUtf8]

def entryStrings : List Bytes:=
 [record.1.relativePath.native,record.1.sourceRevisionUtf8,record.2]

def stateStrings : List Bytes := [item.storageIdentityUtf8,item.originalSecurityDescriptorSddlUtf8]

def itemStrings : List Bytes:=
 headStrings item++((entryRecords item).flatMap entryStrings++stateStrings item)

def trashStrings : List Bytes:=
 transaction.failureDetailUtf8::transaction.items.flatMap itemStrings

def encodeTrashTransaction : Except Thrown Bytes := do
 throwInvalid (validTrashTransaction transaction)
 trashLimit.finish (trashStrings transaction) (trashPayload transaction)

def prepareTrashTransaction (sources : List TrashSource) (operationId : UInt64)
  (createdUnixNs : Int64) (vaultRoot : Path) : Except Thrown TrashTransaction := do
 require (sources≠[] ∧ sources.length ≤ kMaximumTrashItems ∧ operationId≠0 ∧
   createdUnixNs > 0) (.invalidArgument (utf8 "trash sources are invalid"))
 let transaction : TrashTransaction:=
  { operationId:=operationId,createdUnixNs:=createdUnixNs,
    items:=sources.mapIdx (preparedItem operationId vaultRoot) }
 throwInvalid (validTrashTransaction transaction)
 pure transaction

def versionAccepted : Bool:=
 version = legacyTransactionVersion ∨ version = previousTransactionVersion ∨
  version = directoryTransactionVersion ∨ version = 10 ∨ version = kTrashTransactionVersion

/-- The cancellation phases came with version 11. -/
def phaseAccepted (phase : TrashPhase) : Bool:=
 version ≥ 11 ∨ enumCode phase ≤ enumCode TrashPhase.purged

def readTrashHeader : Reader (TrashTransaction × ℕ) := do
 let magic ← Reader.readInteger UInt32
 let version ← Reader.readInteger UInt32
 let operationId ← Reader.readInteger UInt64
 let createdUnixNs ← Reader.readInteger Int64
 let phase ← Reader.readEnum TrashPhase
 let activeStep ← Reader.readEnum TrashStep
 let activeEvidence ← Reader.readEnum OperationEvidence
 let failureStatus ← Reader.readEnum OperationStatus
 let activeIndex ← Reader.readInteger UInt32
 let failureDetailUtf8 ← Reader.readString
 let itemCount ← Reader.readInteger UInt32
 Reader.check (magic = transactionMagic ∧ versionAccepted version ∧
  phaseAccepted version phase ∧ itemCount≠0 ∧ itemCount.toNat ≤ kMaximumTrashItems)
 pure ({ version:=version,operationId:=operationId,createdUnixNs:=createdUnixNs,
         phase:=phase,activeStep := activeStep,activeIndex := activeIndex,
         activeEvidence:=activeEvidence,failureStatus := failureStatus,
         failureDetailUtf8:=failureDetailUtf8 },itemCount.toNat)

/-- Records before version 9 hold regular files only. -/
def readPayloadState (sizeBytes : UInt64) : Reader (TrashItemKind × UInt64 × UInt32 × ℕ):=
 if version ≥ directoryTransactionVersion then do
  let kind ← Reader.readEnum TrashItemKind
  let payloadBytes ← Reader.readInteger UInt64
  let directoryPurgeCursor ← Reader.readInteger UInt32
  let directoryEntryCount ← Reader.readInteger UInt32
  Reader.check (directoryEntryCount.toNat ≤ kMaximumTrashDirectoryEntries)
  pure (kind,payloadBytes,directoryPurgeCursor,directoryEntryCount.toNat)
 else pure (.regularFile,sizeBytes,0,0)

variable (failureDetailUtf8 : Bytes)

/-- The fields of an item up to its entries, and their number. -/
def readItemHead : Reader (TrashItem × ℕ) := do
 let original ← readText validUtf8WithoutNul
 let restorePath ← readText validUtf8WithoutNul
 let stored ← readText validUtf8WithoutNul
 let current ← readText validUtf8WithoutNul
 let sizeBytes ← Reader.readInteger UInt64
 let modifiedUnixNs ← Reader.readInteger Int64
 let sourceRevisionUtf8 ← readText validUtf8WithoutNul
 let state ← readPayloadState version sizeBytes
 Reader.check (validUtf8WithoutNul failureDetailUtf8)
 pure ({ original:=⟨original⟩,restorePath:=⟨restorePath⟩,stored:=⟨stored⟩,
         current:=⟨current⟩,kind := state.1,payloadBytes := state.2.1,
         directoryPurgeCursor:=state.2.2.1,
         currentSnapshot:={ sizeBytes:=sizeBytes,modifiedUnixNs:=modifiedUnixNs,
                            sourceRevisionUtf8:=sourceRevisionUtf8 } },state.2.2.2)

def readEntry : Reader (BasicDirectoryTransferEntry × Bytes) := do
 let relativePath ← readText validUtf8WithoutNul
 let sizeBytes ← Reader.readInteger UInt64
 let modifiedUnixNs ← Reader.readInteger Int64
 let sourceRevisionUtf8 ← readText validUtf8WithoutNul
 let depth ← Reader.readInteger UInt16
 let kind ← Reader.readEnum BasicDirectoryTransferEntryKind
 let reserved ← Reader.readInteger UInt8
 let securityDescriptor ← readText validUtf8WithoutNul
 Reader.check (reserved = 0)
 pure ({ relativePath:=⟨relativePath⟩,sizeBytes:=sizeBytes,modifiedUnixNs:=modifiedUnixNs,
         sourceRevisionUtf8:=sourceRevisionUtf8,depth := depth,kind := kind },
  securityDescriptor)

/-- Descriptors that are all empty stand for none. -/
def presentDescriptors (descriptors : List Bytes) : List Bytes:=
 if descriptors.all (· = []) then [] else descriptors

def readItemState (item : TrashItem) : Reader TrashItem := do
 let storageIdentityUtf8 ←
  if version ≥ previousTransactionVersion then readText validUtf8WithoutNul else pure []
 let location ← Reader.readEnum TrashItemLocation
 let securityState ← Reader.readEnum TrashSecurityState
 let originalSecurityDescriptorSddlUtf8 ← readText validUtf8WithoutNul
 pure { item with
  storageIdentityUtf8:=storageIdentityUtf8,location := location,
  securityState:=securityState,
  originalSecurityDescriptorSddlUtf8:=originalSecurityDescriptorSddlUtf8 }

def readPayloadPolicy : Reader TrashPayloadPolicy:=
 if version ≥ 10 then Reader.readEnum TrashPayloadPolicy else pure .strict

def readStorageIndex (index : ℕ) : Reader UInt32:=
 if version ≥ 11 then Reader.readInteger UInt32 else pure (UInt32.ofNat index)

def readTrashItem (index : ℕ) : DetailReader TrashItem := do
 let (head,directoryEntryCount) ← DetailReader.group (readItemHead version failureDetailUtf8)
  (utf8 "trash transaction item is invalid or truncated")
 let records ← DetailReader.readItems (fun _=>DetailReader.group readEntry
  (utf8 "trash directory entry is invalid or truncated")) 0 directoryEntryCount
 let item ← DetailReader.group (readItemState version { head with
   directoryEntries:=records.map Prod.fst,
   directorySecurityDescriptorsSddlUtf8:=presentDescriptors (records.map Prod.snd) })
  (utf8 "trash transaction item state is invalid or truncated")
 let payloadPolicy ← DetailReader.group (readPayloadPolicy version)
  (utf8 "trash payload policy is invalid or truncated")
 let storageIndex ← DetailReader.group (readStorageIndex version index)
  (utf8 "trash storage index is truncated")
 pure { item with payloadPolicy:=payloadPolicy,storageIndex:=storageIndex }

def decodeTrashTransaction (payload detail : Bytes) : Except Bytes TrashTransaction := do
 let trailing:=utf8 "trash transaction contains trailing bytes"
 require (payload.length ≤ maximumPayloadBytes) trashLimit.payloadTooLarge
 let ((header,itemCount),body) ← found (readTrashHeader.run payload)
  (utf8 "trash transaction header is invalid or truncated")
 let (items,rest) ← (DetailReader.readItems
  (readTrashItem header.version header.failureDetailUtf8) 0 itemCount).run body
 let decoded:={ header with items:=items,version:=kTrashTransactionVersion }
 require (rest = []) (detailOr detail trailing)
 orDetail (validTrashTransaction decoded) trailing
 pure decoded

end VoVe.TrashRecordCodec
