import Mathlib.Order.Basic
import VoVe.ByteCodec

set_option autoImplicit false

/-! `prune_disk_cache` of `cache_maintenance.cpp`, over an index and a store whose calls may
fail. -/

namespace VoVe.CachePrune
open ByteCodec

structure ArtifactIndexRecord where
 digestHex : Bytes
 artifactBytes : ℕ
 lastAccessUnixNs : ℤ
 deriving DecidableEq

/-- The rows of the `artifacts` table; the digest is its primary key. -/
structure ArtifactIndex where
 records : List ArtifactIndexRecord
 distinct : (records.map ArtifactIndexRecord.digestHex).Nodup

def notAfter (lhs rhs : ArtifactIndexRecord) : Bool:=
 lhs.lastAccessUnixNs < rhs.lastAccessUnixNs ∨
  lhs.lastAccessUnixNs = rhs.lastAccessUnixNs ∧ lhs.digestHex ≤ rhs.digestHex

namespace ArtifactIndex

def byAge (index : ArtifactIndex) : List ArtifactIndexRecord := index.records.mergeSort notAfter

def erase (index : ArtifactIndex) (digestHex : Bytes) : ArtifactIndex where
 records:=index.records.filter (·.digestHex≠digestHex)
 distinct:=index.distinct.sublist (List.filter_sublist.map _)

def artifactBytes (index : ArtifactIndex) : ℕ:=
 (index.records.map ArtifactIndexRecord.artifactBytes).sum

end ArtifactIndex

structure DigestArtifact where
 digestHex : Bytes
 bytes : ℕ
 deriving DecidableEq

/-- What a walk of the cache root meets: an artifact at the path of its digest, or another
directory entry. -/
inductive TreeEntry where
 | vvt (artifact : DigestArtifact)
 | other
 deriving DecidableEq

def TreeEntry.artifact? : TreeEntry → Option DigestArtifact
 | .vvt artifact=>some artifact
 | .other=>none

/-- What a run did: the store has no artifact of a digest any more, a row was deleted, the space
was read. -/
inductive Event where
 | artifactGone (digestHex : Bytes)
 | recordErased (digestHex : Bytes)
 | probed (availableBytes : ℕ)
 deriving DecidableEq

structure World where
 index : ArtifactIndex
 tree : List TreeEntry
 lastError : String
 /-- The number of calls made so far. -/
 calls : ℕ := 0
 events : List Event := []

structure SpaceProbeResult where
 availableBytes : ℕ := 0
 error : Option String := none

/-- Which calls fail, and with which text; and what the space probe finds. -/
structure Environment where
 failure : ℕ → Option String
 failure_text : ∀call text,failure call=some text → text ≠ ""
 spaceProbe : World → SpaceProbeResult

namespace World
variable (env : Environment) (world : World)

def failure : Option String := env.failure world.calls

def indexCall {α : Type} (failed : α) (call : World → α × World) : α × World:=
 match world.failure env with
 | some text=>(failed,{ world with calls:=world.calls+1,lastError:=text })
 | none=>call { world with calls:=world.calls+1,lastError:="" }

def find (digestHex : Bytes) : Option ArtifactIndexRecord × World:=
 world.indexCall env none fun world =>
  (world.index.records.find? (·.digestHex = digestHex),world)

def count : ℕ × World := world.indexCall env 0 fun world=>(world.index.records.length,world)

def totalBytes : ℕ × World := world.indexCall env 0 fun world=>(world.index.artifactBytes,world)

def oldest (limit : ℕ) : List ArtifactIndexRecord × World:=
 world.indexCall env [] fun world=>(world.index.byAge.take limit,world)

/-- True where a row was deleted. -/
def erase (digestHex : Bytes) : Bool × World:=
 world.indexCall env false fun world =>
  let changed:=world.index.records.any (·.digestHex = digestHex)
  (changed,
   { world with
     index:=world.index.erase digestHex
     events:=if changed then world.events++[.recordErased digestHex] else world.events })

inductive RemoveStatus where
 | removed
 | notFound
 | error (message : String)
 deriving DecidableEq

def removeDigestChecked (digestHex : Bytes) : RemoveStatus × World:=
 match world.failure env with
 | some message=>(.error message,{ world with calls:=world.calls+1 })
 | none=>
  let held:=fun entry : TreeEntry=>entry.artifact?.any (·.digestHex = digestHex)
  (if world.tree.any held then .removed else .notFound,
   { world with
     tree:=world.tree.filter fun entry=>!held entry
     calls:=world.calls+1
     events:=world.events++[.artifactGone digestHex] })

structure DigestScanResult where
 artifacts : List DigestArtifact := []
 inspectionLimitReached : Bool := false
 error : Option String := none

def scanDigestArtifacts (maximumInspected : ℕ) : DigestScanResult × World:=
 let called:={ world with calls:=world.calls+1 }
 if maximumInspected = 0 then
  ({ error:=some "digest artifact scan limit must be non-zero" },called)
 else
  match world.failure env with
  | some message=>({ error:=some message },called)
  | none=>
   ({ artifacts:=(world.tree.take maximumInspected).filterMap TreeEntry.artifact?
      inspectionLimitReached:=maximumInspected < world.tree.length },called)

def probe : SpaceProbeResult × World:=
 let observation:=env.spaceProbe world
 (observation,
  { world with
    calls:=world.calls+1
    events:=if observation.error.isNone then world.events++[.probed observation.availableBytes]
     else world.events })

end World

structure DiskCacheLimits where
 maximumEntries : ℕ := 100000
 maximumBytes : ℕ := 10*1024*1024*1024
 minimumFreeBytes : ℕ := 0
 maximumOrphanScanEntries : ℕ := 250000
 maximumSpaceProbes : ℕ := 256

inductive PruneErrorCode where
 | none
 | invalidConfiguration
 | indexUnavailable
 | orphanScanFailed
 | artifactRemovalFailed
 | indexRemovalFailed
 | lruMadeNoProgress
 | spaceProbeFailed
 | spaceProbeLimitReached
 | freeSpaceTargetUnmet
 deriving DecidableEq

structure PruneResult where
 entriesBefore : ℕ := 0
 entriesAfter : ℕ := 0
 bytesBefore : ℕ := 0
 bytesAfter : ℕ := 0
 inspected : ℕ := 0
 indexRecordsRemoved : ℕ := 0
 artifactsRemoved : ℕ := 0
 orphanArtifactsFound : ℕ := 0
 orphanArtifactsRemoved : ℕ := 0
 orphanBytesFound : ℕ := 0
 orphanBytesRemoved : ℕ := 0
 freeBytesBefore : ℕ := 0
 freeBytesAfter : ℕ := 0
 spaceProbes : ℕ := 0
 freeSpaceObserved : Bool := false
 minimumFreeSpaceReached : Bool := true
 errorCode : PruneErrorCode := .none
 spaceError : Option String := none
 error : String := ""

def PruneResult.ok (result : PruneResult) : Bool := result.errorCode = .none ∧ result.error = ""

def setError (result : PruneResult) (code : PruneErrorCode) (message : String) : PruneResult:=
 { result with errorCode:=code,error:=message }

/-- Sums of `uint64_t` that stay at the largest value. -/
def saturatingAdd (left right : ℕ) : ℕ:=
 if 2 ^ 64 - 1 - left < right then 2 ^ 64 - 1 else left+right

structure State where
 world : World
 result : PruneResult

section Prune
variable (env : Environment) (limits : DiskCacheLimits)

def observeSpace (state : State) : Bool × State:=
 if limits.maximumSpaceProbes ≤ state.result.spaceProbes then
  (false,{ state with
   result:=setError state.result .spaceProbeLimitReached
    "cache space probe limit was reached before the reserve was restored" })
 else
  let (observation,world) := state.world.probe env
  let result:={ state.result with spaceProbes:=state.result.spaceProbes+1 }
  match observation.error with
  | some message=>
   (false,⟨world,setError { result with spaceError:=some message } .spaceProbeFailed
    ("failed to inspect free space for the cache root: " ++ message)⟩)
  | none=>
   let available:=observation.availableBytes
   let result:=
    if result.freeSpaceObserved then result
    else { result with freeBytesBefore:=available,freeSpaceObserved:=true }
   (true,⟨world,{ result with
    freeBytesAfter:=available
    minimumFreeSpaceReached:=limits.minimumFreeBytes ≤ available }⟩)

/-- The loop over the scanned artifacts; false where the source returns. -/
def removeOrphans : List DigestArtifact → State → Bool × State
 | [], state=>(true,state)
 | artifact::rest, state=>
  let (found,world) := state.world.find env artifact.digestHex
  if found.isSome then removeOrphans rest { state with world:=world }
  else if world.lastError ≠ "" then
   (false,⟨world,setError state.result .indexUnavailable world.lastError⟩)
  else
   let result:={ state.result with
    orphanArtifactsFound:=state.result.orphanArtifactsFound+1
    orphanBytesFound:=saturatingAdd state.result.orphanBytesFound artifact.bytes }
   let (status,world) := world.removeDigestChecked env artifact.digestHex
   match status with
   | .error message=>(false,⟨world,setError result .artifactRemovalFailed message⟩)
   | .notFound=>removeOrphans rest ⟨world,result⟩
   | .removed=>
    removeOrphans rest ⟨world,{ result with
     orphanArtifactsRemoved:=result.orphanArtifactsRemoved+1
     artifactsRemoved:=result.artifactsRemoved+1
     orphanBytesRemoved:=saturatingAdd result.orphanBytesRemoved artifact.bytes }⟩

def removeVictims : List ArtifactIndexRecord → ℕ → State → ℕ × State
 | [], removed, state=>(removed,state)
 | victim::rest, removed, state=>
  let result:={ state.result with inspected:=state.result.inspected+1 }
  let (status,world) := state.world.removeDigestChecked env victim.digestHex
  match status with
  | .error message=>(removed,⟨world,setError result .artifactRemovalFailed message⟩)
  | _=>
   let result:=
    if status = .removed then { result with artifactsRemoved:=result.artifactsRemoved+1 }
    else result
   let (erased,world) := world.erase env victim.digestHex
   if erased then
    removeVictims rest (removed+1)
     ⟨world,{ result with indexRecordsRemoved:=result.indexRecordsRemoved+1 }⟩
   else
    (removed,⟨world,setError result .indexRemovalFailed
     (if world.lastError = "" then "failed to erase a selected cache index record"
     else world.lastError)⟩)

/-- The test of the pruning loop. -/
structure Head where
 /-- Where the counters were last read. -/
 readAt : World
 state : State

namespace Head
variable (head:Head)

def entries : ℕ := (head.readAt.count env).1

def bytes : ℕ := ((head.readAt.count env).2.totalBytes env).1

def exceeds : Bool:=
 limits.maximumEntries < head.entries env ∨ limits.maximumBytes < head.bytes env ∨
  head.state.result.minimumFreeSpaceReached = false

end Head

variable (state : State)

def readCounters : Head:=
 ⟨state.world,{ state with world:=((state.world.count env).2.totalBytes env).2 }⟩

inductive Round where
 | leave (state : State)
 | again (head:Head)

/-- What stops a loop that found no victims. -/
def noVictims : State:=
 if state.world.lastError ≠ "" then
  { state with result:=setError state.result .indexUnavailable state.world.lastError }
 else if state.result.minimumFreeSpaceReached = false then
  { state with
    result:=setError state.result .freeSpaceTargetUnmet
     "cache is empty but the requested free-space reserve is not available" }
 else
  { state with
    result:=setError state.result .lruMadeNoProgress
     "cache LRU returned no records while limits are exceeded" }

/-- The body of the pruning loop. -/
def pruneRound (batchLimit : ℕ) (head:Head) : Round:=
 let excessEntries:=head.entries env - limits.maximumEntries
 let requested:=if excessEntries = 0 then batchLimit else min batchLimit (max 1 excessEntries)
 let (victims,world) := head.state.world.oldest env requested
 let state:={ head.state with world:=world }
 if victims = [] then .leave (noVictims state)
 else
  let (removed,state) := removeVictims env victims 0 state
  if state.result.error ≠ "" then .leave state
  else if removed = 0 then
   .leave { state with
    result:=setError state.result .lruMadeNoProgress "cache LRU batch removed no records" }
  else
   let next:=readCounters env state
   if state.result.minimumFreeSpaceReached then .again next
   else
    let (observed,state) := observeSpace env limits next.state
    if observed then .again { next with state:=state } else .leave state

def pruneLoop (batchLimit : ℕ) : ℕ → Head → Option State
 | 0, _=>none
 | turns+1, head=>
  if head.exceeds env limits then
   match pruneRound env limits batchLimit head with
   | .leave state=>some state
   | .again next=>pruneLoop batchLimit turns next
  else some head.state

variable (ready : Bool)

/-- The checks before anything is done. -/
def configurationError (batchLimit : ℕ) (scanOrphans : Bool) (lastError : String):
  Option (PruneErrorCode × String):=
 if ready = false then
  some (.indexUnavailable,
   if lastError = "" then "SQLite cache index is not ready" else lastError)
 else if batchLimit = 0 ∨ 10000 < batchLimit then
  some (.invalidConfiguration,"cache prune batch limit must be 1..10000")
 else if scanOrphans ∧ limits.maximumOrphanScanEntries = 0 then
  some (.invalidConfiguration,"cache orphan scan limit must be non-zero")
 else if limits.minimumFreeBytes≠0 ∧ limits.maximumSpaceProbes = 0 then
  some (.invalidConfiguration,
   "cache space probe limit must be non-zero when a free-space reserve is set")
 else none

/-- `needed && !observe_space()`: false where the source returns. -/
def observeWhen (needed : Bool) (state : State) : Bool × State:=
 if needed then observeSpace env limits state else (true,state)

/-- The pruning loop is reached, or the source has returned before it. -/
inductive Preparation where
 | returned (state : State)
 | looping (head:Head) (orphanScanIncomplete : Bool)

/-- The first reading of the counters, kept in the result with the orphans. -/
def startLoop : Head:=
 let head:=readCounters env state
 { head with
   state:={ head.state with
    result:={ head.state.result with
     entriesBefore:=saturatingAdd (head.entries env) head.state.result.orphanArtifactsFound
     bytesBefore:=saturatingAdd (head.bytes env) head.state.result.orphanBytesFound } } }

def scanStore (scanOrphans : Bool) (world : World) : World.DigestScanResult × World:=
 if scanOrphans then world.scanDigestArtifacts env limits.maximumOrphanScanEntries
 else ({},world)

/-- The orphans of the store are removed, and the space is read again. -/
def prepareOrphans (scanOrphans : Bool) (state : State) : Preparation:=
 let (scanned,world) := scanStore env limits scanOrphans state.world
 match scanned.error with
 | some message=>.returned ⟨world,setError state.result .orphanScanFailed message⟩
 | none=>
  match removeOrphans env scanned.artifacts { state with world:=world } with
  | (false,state)=>.returned state
  | (true,state)=>
   match observeWhen env limits (limits.minimumFreeBytes≠0 ∧
     state.result.orphanArtifactsRemoved≠0 ∧
      state.result.minimumFreeSpaceReached = false) state with
   | (false,state)=>.returned state
   | (true,state)=>.looping (startLoop env state) scanned.inspectionLimitReached

/-- What comes before the pruning loop. -/
def preparePrune (batchLimit : ℕ) (scanOrphans : Bool) (world : World):
  Preparation:=
 match configurationError limits ready batchLimit scanOrphans world.lastError with
 | some (code,message)=>.returned ⟨world,setError {} code message⟩
 | none=>
  match observeWhen env limits (limits.minimumFreeBytes≠0) ⟨world,{}⟩ with
  | (false,state)=>.returned state
  | (true,state)=>prepareOrphans env limits scanOrphans state

/-- What comes after the loop. -/
def finishPrune (orphanScanIncomplete : Bool) (state : State) : State:=
 let (entriesAfter,world) := state.world.count env
 let (bytesAfter,world) := world.totalBytes env
 let result:={ state.result with entriesAfter:=entriesAfter,bytesAfter:=bytesAfter }
 ⟨world,
  if orphanScanIncomplete ∧ result.ok then
   setError result .orphanScanFailed
    "cache orphan scan limit was reached before the artifact tree ended"
  else result⟩

def pruneDiskCache (batchLimit : ℕ) (scanOrphans : Bool) (world : World)
  (turns : ℕ) : Option State:=
 match preparePrune env limits ready batchLimit scanOrphans world with
 | .returned state=>some state
 | .looping head incomplete=>
  (pruneLoop env limits batchLimit turns head).map (finishPrune env incomplete)

end Prune

end VoVe.CachePrune
