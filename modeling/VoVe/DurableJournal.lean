import Mathlib.Logic.Function.Basic
import VoVe.ByteCodec
import VoVe.EffectProgram

set_option autoImplicit false

/-! The two-generation journal store of `durable_journal.cpp`, POSIX build. -/

namespace VoVe.DurableJournal
open ByteCodec EffectProgram

def kAbsoluteMaximumDurableJournalPayloadBytes : ℕ := 64*1024*1024
def kMaximumDurableJournalPayloadBytes : ℕ := 4*1024*1024
def kDurableJournalSchemaVersion : UInt32 := 1
def kEnvelopeMagic : Bytes := [0x56,0x4f,0x56,0x45,0x4a,0x52,0x4e,0x4c]
def kEnvelopeHeaderBytes : ℕ := 20

variable (maximumPayloadBytes : ℕ)

def maximumEnvelopeBytes : ℕ := kEnvelopeHeaderBytes+maximumPayloadBytes

variable (bytes : Bytes)

def readU32Le (offset : ℕ) : UInt32 := UInt32.ofNat (leValue ((bytes.drop offset).take 4))

def crc32Bit (crc : UInt32) : UInt32:=
 let mask:=-(crc &&& 1)
 (crc >>> 1) ^^^ (0xedb88320 &&& mask)

def crc32 : UInt32:=
 ~~~(bytes.foldl (fun crc value=>Nat.iterate crc32Bit 8 (crc ^^^ value.toUInt32)) 0xffffffff)

def makeEnvelope (payload : Bytes) : Bytes:=
 kEnvelopeMagic++(appendInteger kDurableJournalSchemaVersion ++
  (appendInteger (UInt32.ofNat payload.length)++(appendInteger (crc32 payload)++payload)))

/-- A POSIX error number; zero is no error. -/
abbrev ErrorCode := ℕ

def deviceOrResourceBusy : ErrorCode := 16
def fileExists : ErrorCode := 17
def noSuchFile : ErrorCode := 2
def directoryNotEmpty : ErrorCode := 39

inductive JournalPath where
 | primary
 | previous
 | temporary
 deriving DecidableEq

/-- A file the store names: one of its paths, or the candidate that a matched
  removal claimed into the staging directory of a path. -/
inductive JournalFile where
 | path (p : JournalPath)
 | removalClaim (p : JournalPath)
 deriving DecidableEq

inductive FileReadStatus where
 | success
 | missing
 | tooLarge
 | shortRead
 | ioError
 deriving DecidableEq

structure FileReadResult where
 status : FileReadStatus := .ioError
 bytes : Bytes := []
 error : ErrorCode := 0
 deriving DecidableEq

inductive InspectionStatus where
 | valid
 | missing
 | corrupt
 | ioError
 deriving DecidableEq

structure InspectionResult where
 status : InspectionStatus := .ioError
 payload : Bytes := []
 error : ErrorCode := 0
 deriving DecidableEq

structure RemovePathResult where
 removed : Bool := false
 error : ErrorCode := 0
 deriving DecidableEq

inductive DurableJournalStatus where
 | success
 | notFound
 | corrupt
 | payloadMismatch
 | payloadTooLarge
 | ioError
 deriving DecidableEq

inductive DurableJournalReadSource where
 | none
 | primary
 | previous
 deriving DecidableEq

structure DurableJournalResult where
 status : DurableJournalStatus := .ioError
 error : ErrorCode := 0
 deriving DecidableEq

def DurableJournalResult.ok (result : DurableJournalResult) : Bool := result.status = .success

structure DurableJournalReadResult extends DurableJournalResult where
 source : DurableJournalReadSource := .none
 payload : Bytes := []
 deriving DecidableEq

/-- The file-system calls of the store. -/
inductive JournalOp where
 | readFileBytes (file : JournalFile) (maximumBytes : ℕ)
 | writeFileDurably (file : JournalFile) (bytes : Bytes)
 | replacePathDurably (source destination : JournalFile)
 | syncParentDirectory
 | removePath (file : JournalFile)
 | removeEmptyRemovalStaging (path : JournalPath)

abbrev JournalReply : JournalOp → Type
 | .readFileBytes ..=>FileReadResult
 | .writeFileDurably ..=>ErrorCode
 | .replacePathDurably ..=>ErrorCode
 | .syncParentDirectory=>ErrorCode
 | .removePath ..=>RemovePathResult
 | .removeEmptyRemovalStaging ..=>RemovePathResult

abbrev JournalProg := Prog JournalOp JournalReply

def inspectEnvelope : InspectionResult:=
 if bytes.length < kEnvelopeHeaderBytes ∨ ¬kEnvelopeMagic <+: bytes then { status:=.corrupt }
 else if readU32Le bytes 8≠kDurableJournalSchemaVersion then { status:=.corrupt }
 else
  let payloadSize:=(readU32Le bytes 12).toNat
  if payloadSize > maximumPayloadBytes ∨ bytes.length≠kEnvelopeHeaderBytes+payloadSize then
   { status:=.corrupt }
  else
   let payload:=(bytes.drop kEnvelopeHeaderBytes).take payloadSize
   if crc32 payload≠readU32Le bytes 16 then { status:=.corrupt }
   else { status:=.valid,payload:=payload }

def inspectionOf (file : FileReadResult) : InspectionResult:=
 match file.status with
 | .missing=>{ status:=.missing }
 | .tooLarge=>{ status:=.corrupt }
 | .shortRead=>{ status:=.corrupt }
 | .ioError=>{ status:=.ioError,error:=file.error }
 | .success=>inspectEnvelope maximumPayloadBytes file.bytes

def inspect (file : JournalFile) (maximumPayloadBytes : ℕ) : JournalProg InspectionResult := do
 let read ← Prog.issue (.readFileBytes file (maximumEnvelopeBytes maximumPayloadBytes))
 pure (inspectionOf maximumPayloadBytes read)

def ioFailure (error : ErrorCode) : DurableJournalResult := { status:=.ioError,error:=error }

def discardTemporary : JournalProg Unit := do
 let _ ← Prog.issue (.removePath (.path .temporary))
 pure ()

lemma limit_default:
 kMaximumDurableJournalPayloadBytes≤kAbsoluteMaximumDurableJournalPayloadBytes := by decide

/-- A store; its constructor refuses a limit above 64 MiB. -/
structure DurableJournalStore where
 maximumPayloadBytes : ℕ := kMaximumDurableJournalPayloadBytes
 limit : maximumPayloadBytes≤kAbsoluteMaximumDurableJournalPayloadBytes := by decide

namespace DurableJournalStore
variable (store : DurableJournalStore)

/-- The loop of `write` that refuses to run over a pending removal claim. -/
def refuseClaims (rest : JournalProg DurableJournalResult):
  List JournalPath → JournalProg DurableJournalResult
 | []=>rest
 | path::paths=>do
  let claim ← inspect (.removalClaim path) store.maximumPayloadBytes
  if claim.status≠.missing then
   pure (ioFailure (if claim.status = .ioError then claim.error else deviceOrResourceBusy))
  else refuseClaims rest paths

/-- The last steps of `write`: the durable temporary becomes the primary. -/
def publishTemporary : JournalProg DurableJournalResult := do
 let replaced ← Prog.issue (.replacePathDurably (.path .temporary) (.path .primary))
 if replaced≠0 then do
  discardTemporary
  pure (ioFailure replaced)
 else do
  let synced ← Prog.issue .syncParentDirectory
  if synced≠0 then pure (ioFailure synced) else pure { status:=.success }

/-- The step of `write` that keeps a valid primary as the previous generation. -/
def rotatePrimary (rest : JournalProg DurableJournalResult) : JournalProg DurableJournalResult := do
 let replaced ← Prog.issue (.replacePathDurably (.path .primary) (.path .previous))
 if replaced≠0 then do
  discardTemporary
  pure (ioFailure replaced)
 else do
  let synced ← Prog.issue .syncParentDirectory
  if synced≠0 then do
   discardTemporary
   pure (ioFailure synced)
  else rest

def write (payload : Bytes) : JournalProg DurableJournalResult:=
 if payload.length > store.maximumPayloadBytes then pure { status:=.payloadTooLarge }
 else do
  let current ← inspect (.path .primary) store.maximumPayloadBytes
  if current.status = .ioError then pure (ioFailure current.error)
  else store.refuseClaims (do
   let envelope:=makeEnvelope payload
   discardTemporary
   let written ← Prog.issue (.writeFileDurably (.path .temporary) envelope)
   if written≠0 then do
    discardTemporary
    pure (ioFailure written)
   else if current.status = .valid then rotatePrimary publishTemporary
   else publishTemporary) [.primary,.previous]

/-- A generation and its removal claim, which only a missing file falls back to. -/
def inspectWithClaim (path : JournalPath) : JournalProg (InspectionResult × InspectionResult) := do
 let generation ← inspect (.path path) store.maximumPayloadBytes
 if generation.status = .missing then do
  let claim ← inspect (.removalClaim path) store.maximumPayloadBytes
  pure (generation,claim)
 else pure (generation,{ status:=.missing })

def foundIn (source : DurableJournalReadSource) (payload : Bytes) : DurableJournalReadResult:=
 { status:=.success,source:=source,payload:=payload }

def read : JournalProg DurableJournalReadResult := do
 let (primary,primaryClaim) ← store.inspectWithClaim .primary
 if primary.status = .valid then pure (foundIn .primary primary.payload)
 else if primaryClaim.status = .valid then pure (foundIn .primary primaryClaim.payload)
 else do
  let (previous,previousClaim) ← store.inspectWithClaim .previous
  if previous.status = .valid then pure (foundIn .previous previous.payload)
  else if previousClaim.status = .valid then pure (foundIn .previous previousClaim.payload)
  else if primary.status = .ioError then pure { status:=.ioError,error:=primary.error }
  else if previous.status = .ioError then pure { status:=.ioError,error:=previous.error }
  else if primaryClaim.status = .ioError ∨ previousClaim.status = .ioError then
   pure { status:=.ioError,error:=
    if primaryClaim.status = .ioError then primaryClaim.error else previousClaim.error }
  else if primary.status = .corrupt ∨ previous.status = .corrupt ∨
    primaryClaim.status = .corrupt ∨ previousClaim.status = .corrupt then
   pure { status:=.corrupt }
  else pure { status:=.notFound }

def readGeneration (path : JournalPath) (source : DurableJournalReadSource):
  JournalProg DurableJournalReadResult := do
 let file ← inspect (.path path) store.maximumPayloadBytes
 let inspected ←
  if file.status = .missing then inspect (.removalClaim path) store.maximumPayloadBytes
  else pure file
 match inspected.status with
 | .valid=>pure (foundIn source inspected.payload)
 | .missing=>pure { status:=.notFound }
 | .corrupt=>pure { status:=.corrupt }
 | .ioError=>pure { status:=.ioError,error:=inspected.error }

def readPrimaryGeneration : JournalProg DurableJournalReadResult:=
 store.readGeneration .primary .primary

def readPreviousGeneration : JournalProg DurableJournalReadResult:=
 store.readGeneration .previous .previous

/-- What `remove` accumulates over its unlinks. -/
structure Removal where
 removedAny : Bool := false
 firstError : ErrorCode := 0

def Removal.add (removal : Removal) (result : RemovePathResult) : Removal where
 removedAny:=removal.removedAny || result.removed
 firstError:=if removal.firstError = 0 then result.error else removal.firstError

def removePaths : List JournalPath → Removal → JournalProg Removal
 | [], removal=>pure removal
 | path::paths, removal=>do
  let result ← Prog.issue (.removePath (.path path))
  removePaths paths (removal.add result)

def removeClaims : List JournalPath → Removal → JournalProg Removal
 | [], removal=>pure removal
 | path::paths, removal=>do
  let claim ← Prog.issue (.removePath (.removalClaim path))
  let staging ← Prog.issue (.removeEmptyRemovalStaging path)
  removeClaims paths ((removal.add claim).add staging)

def remove : JournalProg DurableJournalResult := do
 let paths ← removePaths [.primary,.previous,.temporary] {}
 let removal ← removeClaims [.primary,.previous] paths
 if removal.firstError≠0 then pure (ioFailure removal.firstError)
 else if removal.removedAny then do
  let synced ← Prog.issue .syncParentDirectory
  if synced≠0 then pure (ioFailure synced) else pure { status:=.success }
 else pure { status:=.success }

end DurableJournalStore

lemma readU32Le_append (before : Bytes) (value : UInt32) (rest : Bytes) (offset : ℕ)
 (hoffset:before.length=offset):
 readU32Le (before++(appendInteger value++rest)) offset=value:=by
 have hread:=Reader.readInteger_append value rest
 have hlong:¬(appendInteger value++rest).length<4:=by simp [WireInteger.width]
 simp only [Reader.readInteger,WireInteger.width,if_neg hlong,Option.some.injEq,
  Prod.mk.injEq] at hread
 rw [readU32Le,←hoffset,List.drop_left]
 exact hread.1

variable (payload : Bytes)

lemma makeEnvelope_length:
 (makeEnvelope payload).length=kEnvelopeHeaderBytes+payload.length:=by
 simp [makeEnvelope,kEnvelopeMagic,kEnvelopeHeaderBytes,WireInteger.width]
 omega

lemma makeEnvelope_drop : (makeEnvelope payload).drop kEnvelopeHeaderBytes=payload:=by
 have hsplit:makeEnvelope payload=(kEnvelopeMagic++appendInteger kDurableJournalSchemaVersion ++
   appendInteger (UInt32.ofNat payload.length)++appendInteger (crc32 payload))++payload:=by
  simp [makeEnvelope,List.append_assoc]
 rw [hsplit]
 exact List.drop_left' (by simp [kEnvelopeMagic,kEnvelopeHeaderBytes,WireInteger.width])

lemma makeEnvelope_size (h:payload.length<2 ^ 32):
 (readU32Le (makeEnvelope payload) 12).toNat=payload.length:=by
 have hread:readU32Le (makeEnvelope payload) 12=UInt32.ofNat payload.length:=by
  have hsplit:makeEnvelope payload=(kEnvelopeMagic ++
    appendInteger kDurableJournalSchemaVersion) ++
    (appendInteger (UInt32.ofNat payload.length) ++ (appendInteger (crc32 payload)++payload)):=by
   simp [makeEnvelope,List.append_assoc]
  rw [hsplit]
  exact readU32Le_append _ _ _ _ (by simp [kEnvelopeMagic,WireInteger.width])
 rw [hread]
 simpa using Nat.mod_eq_of_lt h

lemma makeEnvelope_crc32 : readU32Le (makeEnvelope payload) 16=crc32 payload:=by
 have hsplit:makeEnvelope payload=(kEnvelopeMagic ++
   appendInteger kDurableJournalSchemaVersion ++
   appendInteger (UInt32.ofNat payload.length)) ++
   (appendInteger (crc32 payload)++payload):=by
  simp [makeEnvelope,List.append_assoc]
 rw [hsplit]
 exact readU32Le_append _ _ _ _ (by simp [kEnvelopeMagic,WireInteger.width])

lemma inspectEnvelope_makeEnvelope (maximumPayloadBytes : ℕ)
 (hfits:payload.length ≤ maximumPayloadBytes)
 (hlimit:maximumPayloadBytes≤kAbsoluteMaximumDurableJournalPayloadBytes):
 inspectEnvelope maximumPayloadBytes (makeEnvelope payload)=
  { status:=.valid,payload:=payload }:=by
 have hsmall:payload.length<2 ^ 32:=by
  unfold kAbsoluteMaximumDurableJournalPayloadBytes at hlimit
  omega
 have hheader:¬((makeEnvelope payload).length<kEnvelopeHeaderBytes ∨
   ¬kEnvelopeMagic <+: makeEnvelope payload):=by
  rw [not_or,not_not]
  exact ⟨by rw [makeEnvelope_length]; omega,List.prefix_append _ _⟩
 have hversion:readU32Le (makeEnvelope payload) 8=kDurableJournalSchemaVersion:=
  readU32Le_append _ _ _ _ rfl
 have hsize:¬(payload.length>maximumPayloadBytes ∨
   (makeEnvelope payload).length≠kEnvelopeHeaderBytes+payload.length):=by
  rw [makeEnvelope_length]
  omega
 rw [inspectEnvelope,if_neg hheader,if_neg (not_not.mpr hversion)]
 simp only [makeEnvelope_size payload hsmall,if_neg hsize,makeEnvelope_drop,
  List.take_length,makeEnvelope_crc32,ne_eq,not_true_eq_false,if_false]

end VoVe.DurableJournal
