import VoVe.DirectoryTransferProgressCodec

set_option autoImplicit false

namespace VoVe.DirectoryTransferProgressStore
open ByteCodec AsciiText Checks EffectProgram
open DirectoryManifest DirectoryManifestCodec
open DirectoryTransferProgress DirectoryTransferProgressCodec

def kMaximumDirectoryTransferProgressBytes : ℕ:=
 kDirectoryTransferProgressHeaderBytes +
  kMaximumDirectoryTransferProgressRecords*kDirectoryTransferProgressRecordBytes
def kMaximumTornTailBytes : ℕ := kDirectoryTransferProgressRecordBytes - 1
def kMaximumLedgerReadBytes : ℕ := kMaximumDirectoryTransferProgressBytes+kMaximumTornTailBytes

inductive DirectoryTransferProgressStoreStatus where
 | success
 | notFound
 | invalidArgument
 | incompatibleVersion
 | corrupt
 | payloadMismatch
 | payloadTooLarge
 | busy
 | unsupportedFilesystem
 | recoveryRequired
 | ioError
 deriving DecidableEq

/-- A result that is not a success, or an exception that leaves the call. -/
inductive StoreFailure where
 | result (status : DirectoryTransferProgressStoreStatus) (detail : Bytes)
 | thrown (exception : ManifestThrown)

def StoreFailure.detail : StoreFailure → Bytes
 | .result _ detail=>detail
 | .thrown exception=>thrownWhat exception

inductive LedgerFile where
 | ledger
 | temporary
 deriving DecidableEq

inductive OpenReply where
 | opened
 | missing
 | failed
 deriving DecidableEq

inductive RenameReply where
 | renamed
 | destinationExists
 | unsupported
 | failed
 deriving DecidableEq

/-- The calls of the store on the two files of its state directory. -/
inductive LedgerOp where
 | openChild (file : LedgerFile)
 | inspectDescriptor (file : LedgerFile)
 | readBytes (size : ℕ)
 | pwrite (file : LedgerFile) (offset : ℕ) (bytes : Bytes)
 | fdatasync (file : LedgerFile)
 | ftruncate (size : ℕ)
 | createTemporary
 | renameNoReplace
 | unlinkTemporary
 | fsyncParent

/-- A size, the bytes read, how many bytes were written (none is an error), or success. -/
abbrev LedgerReply : LedgerOp → Type
 | .openChild _=>OpenReply
 | .inspectDescriptor _=>Option ℕ
 | .readBytes _=>Option Bytes
 | .pwrite ..=>ℕ
 | .fdatasync _=>Bool
 | .ftruncate _=>Bool
 | .createTemporary=>Bool
 | .renameNoReplace=>RenameReply
 | .unlinkTemporary=>Bool
 | .fsyncParent=>Bool

abbrev LedgerProg := Prog LedgerOp LedgerReply
abbrev LedgerM := ExceptT StoreFailure LedgerProg

def issue (op : LedgerOp) : LedgerM (LedgerReply op) := ExceptT.lift (Prog.issue op)

def fail {α : Type} (status : DirectoryTransferProgressStoreStatus) (detail : Bytes) : LedgerM α:=
 throw (.result status detail)

def orFail {α : Type} (status : DirectoryTransferProgressStoreStatus) (checked : Except Bytes α):
  Except StoreFailure α:=
 checked.mapError (.result status)

def checked {α : Type} (outcome : Except StoreFailure α) : LedgerM α := ExceptT.mk (pure outcome)

def confirmed (success : Bool) (status : DirectoryTransferProgressStoreStatus) (detail : Bytes):
  LedgerM Unit:=
 if success then pure () else fail status detail

/-- Whether the file is there. -/
def openChild (file : LedgerFile) : LedgerM Bool := do
 match ← issue (.openChild file) with
 | .opened=>pure true
 | .missing=>pure false
 | .failed=>fail .ioError (utf8 "directory-transfer ledger could not be opened")

def inspectDescriptor (file : LedgerFile) : LedgerM ℕ := do
 match ← issue (.inspectDescriptor file) with
 | some size=>pure size
 | none=>fail .ioError (utf8 "directory-transfer ledger shape could not be inspected")

def verifyFile (expectedSize : ℕ) : LedgerM Unit := do
 let size ← inspectDescriptor .ledger
 confirmed (size = expectedSize) .recoveryRequired
  (utf8 "directory-transfer ledger has an unexpected size")

def readBytes (size : ℕ) : LedgerM Bytes := do
 match ← issue (.readBytes size) with
 | some bytes=>pure bytes
 | none=>fail .ioError (utf8 "directory-transfer ledger read was incomplete")

/-- The loop over `pwrite`: every turn but a failed one takes bytes off the rest. -/
def pwriteLoop (file : LedgerFile) : ℕ → ℕ → Bytes → LedgerM Unit
 | _, _, []=>pure ()
 | 0, _, _::_=>fail .recoveryRequired
   (utf8 "directory-transfer ledger append outcome is ambiguous")
 | turns+1, offset, bytes=>do
  let written ← issue (.pwrite file offset bytes)
  confirmed (0 < written) .recoveryRequired
   (utf8 "directory-transfer ledger append outcome is ambiguous")
  pwriteLoop file turns (offset+written) (bytes.drop written)

def writeBytes (file : LedgerFile) (offset : ℕ) (bytes : Bytes) : LedgerM Unit := do
 pwriteLoop file bytes.length offset bytes
 let synced ← issue (.fdatasync file)
 confirmed synced .recoveryRequired
  (utf8 "directory-transfer ledger flush outcome is ambiguous")

def truncateFile (size : ℕ) : LedgerM Unit := do
 let detail:=utf8 "directory-transfer torn tail could not be durably removed"
 let truncated ← issue (.ftruncate size)
 confirmed truncated .recoveryRequired detail
 let synced ← issue (.fdatasync .ledger)
 confirmed synced .recoveryRequired detail

def removeSafeFile : LedgerM Unit := do
 if ← openChild .temporary then
  let _ ← inspectDescriptor .temporary
  let detail:=utf8 "stale directory-transfer ledger temporary file could not be removed"
  let unlinked ← issue .unlinkTemporary
  confirmed unlinked .ioError detail
  let synced ← issue .fsyncParent
  confirmed synced .ioError detail

def renameNoReplace : LedgerM Unit := do
 let unconfirmed:=utf8 "directory-transfer ledger header publication was not confirmed"
 let unsupported:=utf8 "directory-transfer ledger requires atomic no-replace rename support"
 match ← issue .renameNoReplace with
 | .renamed=>pure ()
 | .destinationExists=>fail .payloadMismatch unconfirmed
 | .unsupported=>fail .unsupportedFilesystem unsupported
 | .failed=>fail .recoveryRequired unconfirmed

/-- After the rename the open descriptor is that of the ledger. -/
def publishHeader (header:Bytes) : LedgerM Unit := do
 let created ← issue .createTemporary
 confirmed created .ioError
  (utf8 "directory-transfer ledger header temporary file could not be created")
 writeBytes .temporary 0 header
 let size ← inspectDescriptor .temporary
 confirmed (size = header.length) .recoveryRequired
  (utf8 "directory-transfer ledger header has the wrong durable size")
 renameNoReplace
 let synced ← issue .fsyncParent
 confirmed synced .recoveryRequired
  (utf8 "directory-transfer ledger parent flush was ambiguous")
 verifyFile header.length

/-- The size of a ledger with so many records, unless it overflows 64 bits. -/
def safeSizeSum (records : ℕ) : Option ℕ:=
 if records > (0xffffffffffffffff - kDirectoryTransferProgressHeaderBytes) /
   kDirectoryTransferProgressRecordBytes then none
 else some (kDirectoryTransferProgressHeaderBytes+records*kDirectoryTransferProgressRecordBytes)

section Sessions
variable (sha256 : Bytes → DirectoryTransferProgressDigest)

structure DirectoryTransferProgressSession where
 plan : DirectoryTransferProgressPlan sha256
 state : DirectoryTransferProgressState
 poisoned : Bool := false

structure DirectoryTransferProgressOpenResult where
 session : DirectoryTransferProgressSession sha256
 created : Bool := false
 repairedTail : Bool := false

def readRecords (bytes : Bytes) (completeRecords : ℕ):
  Except Bytes (List DirectoryTransferProgressRecord):=
 (List.range completeRecords).mapM fun index =>
  let offset:=kDirectoryTransferProgressHeaderBytes + index*kDirectoryTransferProgressRecordBytes
  decodeDirectoryTransferProgressRecord sha256
   ((bytes.drop offset).take kDirectoryTransferProgressRecordBytes)

def createLedger (plan : DirectoryTransferProgressPlan sha256):
  LedgerM (DirectoryTransferProgressOpenResult sha256) := do
 removeSafeFile
 let encodedHeader ← checked
  ((encodeDirectoryTransferProgressHeader sha256 plan.header).mapError .thrown)
 publishHeader encodedHeader
 pure { session:={ plan:=plan,state:=initializeDirectoryTransferProgress plan }
        created:=true }

variable (control : DirectoryTransferControlRecord) (manifest : DirectoryTransferManifest)

def scanLedger
  (bytes : Bytes) : Except StoreFailure
   (DirectoryTransferProgressPlan sha256 × DirectoryTransferProgressState × ℕ) := do
 let header ← orFail .corrupt (decodeDirectoryTransferProgressHeader sha256
  (bytes.take kDirectoryTransferProgressHeaderBytes))
 let plan ← orFail .payloadMismatch
  (bindDirectoryTransferProgressPlan sha256 header control manifest)
 let exactMax:=safeSizeSum plan.header.maximumRecordCount.toNat
 require (exactMax.any fun exact=>bytes.length ≤ exact+kMaximumTornTailBytes)
  (.result .payloadTooLarge
   (utf8 "directory-transfer ledger exceeds its prepared-plan bound"))
 let recordBytes:=bytes.length - kDirectoryTransferProgressHeaderBytes
 let completeRecords:=recordBytes / kDirectoryTransferProgressRecordBytes
 let tailBytes:=recordBytes % kDirectoryTransferProgressRecordBytes
 let records ← orFail .corrupt (readRecords sha256 bytes completeRecords)
 let replayed ← orFail .corrupt (replayDirectoryTransferProgress plan records)
 pure (plan,replayed,tailBytes)

/-- A tail that is no whole record is cut off. -/
def repairTail (size tailBytes : ℕ) : LedgerM Unit := do
 if tailBytes≠0 then
  let repairedSize:=size - tailBytes
  verifyFile size
  truncateFile repairedSize
  verifyFile repairedSize

def recoverLedger : LedgerM (DirectoryTransferProgressOpenResult sha256) := do
 let size ← inspectDescriptor .ledger
 confirmed (kDirectoryTransferProgressHeaderBytes ≤ size) .corrupt
  (utf8 "directory-transfer ledger header is truncated")
 confirmed (size ≤ kMaximumLedgerReadBytes) .payloadTooLarge
  (utf8 "directory-transfer ledger exceeds its global bound")
 verifyFile size
 let bytes ← readBytes size
 verifyFile size
 let (plan,replayed,tailBytes) ← checked (scanLedger sha256 control manifest bytes)
 repairTail size tailBytes
 removeSafeFile
 pure { session:={ plan:=plan,state:=replayed }
        repairedTail:=tailBytes≠0 }

/-- A session for the control record and the manifest that the stores hold. -/
def openOrCreate : LedgerM (DirectoryTransferProgressOpenResult sha256) := do
 let present ← openChild .ledger
 let plan ← checked (orFail .payloadMismatch
  ((prepareDirectoryTransferProgressPlan sha256 control manifest).mapError thrownWhat))
 if present then recoverLedger sha256 control manifest else createLedger sha256 plan

structure DirectoryTransferProgressAppendResult where
 status : DirectoryTransferProgressStoreStatus
 detail : Bytes := []
 record : DirectoryTransferProgressRecord := {}

def appendBytes (expectedSize : ℕ) (encoded : Bytes) : LedgerM Unit := do
 verifyFile expectedSize
 writeBytes .ledger expectedSize encoded
 verifyFile (expectedSize+encoded.length)

variable {sha256} (session : DirectoryTransferProgressSession sha256)

def DirectoryTransferProgressSession.poison : DirectoryTransferProgressSession sha256:=
 { session with poisoned:=true }

def appendEvidence
  (evidence : DirectoryTransferEvidence):
  LedgerProg (DirectoryTransferProgressAppendResult × DirectoryTransferProgressSession sha256):=
 if session.poisoned then
  pure ({ status:=.recoveryRequired
          detail:=utf8 "directory-transfer progress session is closed or poisoned" },session)
 else
  let outcome:=advanceDirectoryTransferProgress session.plan evidence session.state {}
  match outcome.answer with
  | .error detail=>pure ({ status:=.invalidArgument,detail:=detail },session)
  | .ok ()=>
   match encodeDirectoryTransferProgressRecord sha256 outcome.record with
   | .error thrown=>
    pure ({ status:=.invalidArgument,detail:=thrownWhat thrown },session)
   | .ok encoded=>
    match safeSizeSum (session.state.nextSequence - 1).toNat with
    | none=>
     pure ({ status:=.recoveryRequired
             detail:=utf8 "directory-transfer ledger size overflowed" },session.poison)
    | some expectedSize=>do
     match ← (appendBytes expectedSize encoded).run with
     | .error failure=>
      pure ({ status:=.recoveryRequired,detail:=failure.detail },session.poison)
     | .ok ()=>
      pure ({ status:=.success,record:=outcome.record },
       { session with state:=outcome.state })

/-- A client: it opens the ledger and appends one piece of evidence after another. -/
def appendEach : DirectoryTransferProgressSession sha256 → List DirectoryTransferEvidence →
  LedgerProg Unit
 | _, []=>pure ()
 | session, evidence::rest=>do
  let (_,next) ← appendEvidence session evidence
  appendEach next rest

variable (sha256)

def ledgerSession (calls : List DirectoryTransferEvidence) : LedgerProg Unit := do
 match ← (openOrCreate sha256 control manifest).run with
 | .error _=>pure ()
 | .ok opened=>appendEach opened.session calls

end Sessions

end VoVe.DirectoryTransferProgressStore
