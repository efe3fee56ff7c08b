import VoVe.DurableJournal

set_option autoImplicit false

/-! `remove_if_payload_matches` of `durable_journal.cpp`, Linux build. A call that is repeated while
a signal interrupts it is one operation, and closing a descriptor whose result is dropped is none.
The file name check always passes for a path that opened as a regular file. -/

namespace VoVe.MatchedRemoval
open ByteCodec EffectProgram DurableJournal

def operationNotSupported : ErrorCode := 95
def permissionDenied : ErrorCode := 13
def inputOutputError : ErrorCode := 5

inductive MatchedRemoveStatus where
 | removed
 | missing
 | mismatch
 | ioError
 deriving DecidableEq

structure MatchedRemoveResult where
 status : MatchedRemoveStatus := .ioError
 error : ErrorCode := 0
 deriving DecidableEq

def failedWith (error : ErrorCode) : MatchedRemoveResult := { status:=.ioError,error:=error }

/-- The part of `struct stat` that is looked at, and `errno` after the call. -/
structure FileStat where
 failed : Bool := false
 regular : Bool := true
 links : ℕ := 1
 size : ℤ := 0
 inode : ℕ := 0
 errno : ErrorCode := 0

structure DirectoryStat where
 failed : Bool := false
 directory : Bool := true
 owned : Bool := true
 isPrivate : Bool := true
 errno : ErrorCode := 0

/-- The system calls that only succeed or report an error. -/
inductive StagingCall where
 | openFile (file : JournalFile)
 | openParent
 | makeStaging (path : JournalPath)
 | removeStaging (path : JournalPath)
 | openStaging (path : JournalPath)
 | syncStaging (path : JournalPath)
 | syncParent
 | claim (path : JournalPath)
 | restore (path : JournalPath)
 | unlinkClaim (path : JournalPath)
 | closeStaging
 | closeParent
 | closeFile
 | syncParentDirectory
 deriving DecidableEq

inductive RemovalOp where
 | plain (c : StagingCall)
 | statFile
 | readFile (offset count : ℕ)
 | statStaging (path : JournalPath)
 | statClaim (path : JournalPath)
 | removeEmptyRemovalStaging (path : JournalPath)
 | temporaryExists

abbrev RemovalReply : RemovalOp → Type
 | .plain _=>ErrorCode
 | .statFile=>FileStat
 | .readFile ..=>Except ErrorCode Bytes
 | .statStaging _=>DirectoryStat
 | .statClaim _=>FileStat
 | .removeEmptyRemovalStaging _=>RemovePathResult
 | .temporaryExists=>Except ErrorCode Bool

abbrev RemovalProg := Prog RemovalOp RemovalReply

def perform (c : StagingCall) : RemovalProg ErrorCode := Prog.issue (RemovalOp.plain c)

def readOpened (size : ℕ) : ℕ → Bytes → RemovalProg (Except ErrorCode Bytes)
 | 0, bytes=>pure (.ok bytes)
 | turns+1, bytes=>
  if bytes.length < size then do
   let received : Except ErrorCode Bytes ←
    Prog.issue (RemovalOp.readFile bytes.length (size - bytes.length))
   match received with
   | .error error=>pure (.error error)
   | .ok []=>pure (.error inputOutputError)
   | .ok part=>readOpened size turns (bytes++part)
  else pure (.ok bytes)

/-- Clean-up steps that are all taken; the first error is kept. -/
def firstError : List StagingCall → ErrorCode → RemovalProg ErrorCode
 | [], error=>pure error
 | c::calls, error=>do
  let reply ← perform c
  firstError calls (if error = 0 then reply else error)

variable (path : JournalPath)

def createStaging : RemovalProg ErrorCode := do
 let made ← perform (.makeStaging path)
 if made = 0 then pure 0
 else if made≠fileExists then pure made
 else do
  let removed ← perform (.removeStaging path)
  if removed≠0 then pure removed else perform (.makeStaging path)

def outcomeOf (success : MatchedRemoveStatus) (error : ErrorCode) : MatchedRemoveResult:=
 if error≠0 then failedWith error else { status:=success }

def unlinkClaimed : RemovalProg MatchedRemoveResult := do
 let unlinked ← perform (.unlinkClaim path)
 if unlinked≠0 then do
  let _ ← perform (.restore path)
  let _ ← perform (.removeStaging path)
  pure (failedWith unlinked)
 else do
  let error ← firstError [.syncStaging path,.closeStaging,.removeStaging path,.syncParent,
   .closeParent,.closeFile] 0
  pure (outcomeOf .removed error)

/-- What a claim that is not the opened file comes to after the clean-up. -/
def mismatchAfter (claimed : FileStat) (error : ErrorCode) : MatchedRemoveResult:=
 if error≠0 then failedWith error
 else if claimed.failed then failedWith claimed.errno
 else { status:=.mismatch }

variable (alreadyClaimed : Bool)

def giveBack (claimed : FileStat) : RemovalProg MatchedRemoveResult:=
 if alreadyClaimed then do
  let error ← firstError [.closeStaging,.closeParent,.closeFile] 0
  pure (mismatchAfter claimed error)
 else do
  let restored ← perform (.restore path)
  if restored≠0 then pure (failedWith restored)
  else do
   let error ← firstError [.syncStaging path,.syncParent,.closeStaging,.removeStaging path,
    .syncParent,.closeParent,.closeFile] 0
   pure (mismatchAfter claimed error)

def claimMatches (opened claimed : FileStat) : Bool:=
 !claimed.failed && claimed.regular && claimed.links == 1 && claimed.inode == opened.inode

variable (opened : FileStat)

def checkClaim
  (rest : RemovalProg MatchedRemoveResult) : RemovalProg MatchedRemoveResult := do
 let claimed : FileStat ← Prog.issue (RemovalOp.statClaim path)
 if claimMatches opened claimed then rest else giveBack path alreadyClaimed claimed

/-- The rename into the staging directory, made durable on both sides. -/
def claimFile : RemovalProg MatchedRemoveResult := do
 let synced ← perform .syncParent
 if synced≠0 then pure (failedWith synced)
 else do
  let claimed ← perform (.claim path)
  if claimed≠0 then do
   let _ ← perform (.removeStaging path)
   pure (if claimed = noSuchFile then { status:=.missing } else failedWith claimed)
  else checkClaim path false opened (do
   let staging ← perform (.syncStaging path)
   if staging≠0 then pure (failedWith staging)
   else do
    let parent ← perform .syncParent
    if parent≠0 then pure (failedWith parent) else unlinkClaimed path)

def stagingRefused (metadata : DirectoryStat) : Bool:=
 metadata.failed || !metadata.directory || !metadata.owned || !metadata.isPrivate

def enterStaging : RemovalProg MatchedRemoveResult := do
 let staging ← perform (.openStaging path)
 if staging≠0 then do
  if alreadyClaimed then pure (failedWith staging)
  else do
   let _ ← perform (.removeStaging path)
   pure (failedWith staging)
 else do
  let metadata : DirectoryStat ← Prog.issue (RemovalOp.statStaging path)
  if stagingRefused metadata then
   pure (failedWith (if metadata.errno = 0 then permissionDenied else metadata.errno))
  else if alreadyClaimed then checkClaim path true opened (unlinkClaimed path)
  else claimFile path opened

def removeMatched : RemovalProg MatchedRemoveResult := do
 let parent ← perform .openParent
 if parent≠0 then pure (failedWith parent)
 else if alreadyClaimed then enterStaging path true opened
 else do
  let made ← createStaging path
  if made≠0 then pure (failedWith made) else enterStaging path false opened

def fileRefused (maximumBytes : ℕ) : Bool:=
 opened.failed || !opened.regular || opened.links != 1 || opened.size < 0 ||
  opened.size.toNat > maximumBytes

def matchOpened (expected : Bytes)
  (maximumBytes : ℕ) : RemovalProg MatchedRemoveResult := do
 let opened : FileStat ← Prog.issue RemovalOp.statFile
 if fileRefused opened maximumBytes then
  pure (failedWith (if opened.errno = 0 then operationNotSupported else opened.errno))
 else do
  let content ← readOpened opened.size.toNat opened.size.toNat []
  match content with
  | .error error=>pure (failedWith error)
  | .ok bytes=>
   if bytes≠expected then pure { status:=.mismatch }
   else removeMatched path alreadyClaimed opened

def removePathIfBytesMatch (expected : Bytes) (maximumBytes : ℕ):
  RemovalProg MatchedRemoveResult := do
 let opened ← perform (.openFile (.path path))
 if opened = 0 then matchOpened path false expected maximumBytes
 else if opened≠noSuchFile then pure (failedWith opened)
 else do
  let claimed ← perform (.openFile (.removalClaim path))
  if claimed = 0 then matchOpened path true expected maximumBytes
  else if claimed≠noSuchFile then pure (failedWith claimed)
  else pure { status:=.missing }

section Store
variable (store : DurableJournalStore)

/-- `std::filesystem::exists` throws when the path cannot be looked at. -/
abbrev RemovalResult := Except ErrorCode DurableJournalResult

/-- The loop over the generations. -/
def removeGenerations (expected : Bytes) (rest : Bool → RemovalProg RemovalResult):
  List JournalPath → Bool → RemovalProg RemovalResult
 | [], removedAny=>rest removedAny
 | path::paths, removedAny=>do
  let result ← removePathIfBytesMatch path expected (maximumEnvelopeBytes store.maximumPayloadBytes)
  match result.status with
  | .mismatch=>pure (.ok { status:=.payloadMismatch })
  | .ioError=>pure (.ok (ioFailure result.error))
  | status=>do
   let staging : RemovePathResult ← Prog.issue (RemovalOp.removeEmptyRemovalStaging path)
   let removedAny:=removedAny || status = .removed || staging.removed
   if staging.error≠0 then pure (.ok (ioFailure staging.error))
   else removeGenerations expected rest paths removedAny

def finishRemoval (removedAny : Bool) : RemovalProg RemovalResult := do
 let present : Except ErrorCode Bool ← Prog.issue RemovalOp.temporaryExists
 match present with
 | .error error=>pure (.error error)
 | .ok true=>pure (.ok { status:=.payloadMismatch })
 | .ok false=>
  if removedAny then do
   let synced ← perform .syncParentDirectory
   pure (.ok (if synced≠0 then ioFailure synced else { status:=.success }))
  else pure (.ok { status:=.success })

def removeIfPayloadMatches (expectedPayload : Bytes) : RemovalProg RemovalResult:=
 if expectedPayload.length > store.maximumPayloadBytes then
  pure (.ok { status:=.payloadTooLarge })
 else removeGenerations store (makeEnvelope expectedPayload) finishRemoval [.primary,.previous] false

end Store

end VoVe.MatchedRemoval
