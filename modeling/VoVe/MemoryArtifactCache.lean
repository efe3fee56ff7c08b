import VoVe.ArtifactCodec
import VoVe.RecencyList

set_option autoImplicit false

/-! The memory cache of `memory_artifact_cache.cpp`: a list of entries, a map from digests to
  places in it, and the running totals. -/

namespace VoVe.MemoryArtifactCache
open ByteCodec ArtifactCodec

structure MemoryCacheLimits where
 maximumEntries : UInt64 := 256
 maximumBytes : UInt64 := 128*1024*1024

structure MemoryCacheStats where
 entries : UInt64 := 0
 bytes : UInt64 := 0
 hits : UInt64 := 0
 misses : UInt64 := 0
 evictions : UInt64 := 0

/-- An artifact as memory holds it: a vector has fewer than 2^63 bytes. -/
abbrev HeldArtifact := { artifact : ArtifactData // artifact.payload.length < 2 ^ 63 }

structure Entry where
 digestHex : Bytes
 artifact : HeldArtifact
 weight : UInt64
 persistedAccessUnixNs : Int64

/-- An entry at the place of the list that its iterator names. -/
structure Node where
 place : ℕ
 entry : Entry

structure Cache where
 limits : MemoryCacheLimits
 entries : List Node := []
 byDigest : Bytes → Option ℕ := fun _=>none
 stats : MemoryCacheStats := {}
 /-- The place that the list makes next. -/
 fresh : ℕ := 0

variable (cache : Cache) (place : ℕ)

/-- What an iterator names; none when it is no longer valid. -/
def nodeAt : Option Node := cache.entries.find? (·.place = place)

def without (entries : List Node) : List Node := entries.filter (·.place≠place)

def size (entries : List Node) : UInt64 := UInt64.ofNat entries.length

def hexDigit (value : UInt8) : Bool := (48 ≤ value ∧ value ≤ 57) ∨ (97 ≤ value ∧ value ≤ 102)

variable (digestHex : Bytes)

def validDigest : Bool := digestHex.length = 64 ∧ digestHex.all hexDigit

def artifactWeight (artifact : HeldArtifact) : UInt64:=
 UInt64.ofNat kVvt1HeaderBytes+UInt64.ofNat artifact.1.payload.length

def missed : Cache:=
 { cache with stats:={ cache.stats with misses:=cache.stats.misses+1 } }

/-- `splice` to the front. -/
def used (node : Node) : Cache:=
 { cache with
   entries:=node::without node.place cache.entries
   stats:={ cache.stats with hits:=cache.stats.hits+1 } }

/-- None stands for the use of an iterator that names nothing, here and below. -/
def find : Option (Option HeldArtifact × Cache):=
 match cache.byDigest digestHex with
 | none=>some (none,missed cache)
 | some place=>(nodeAt cache place).map fun node =>
  (some node.entry.artifact,used cache node)

def removed (node : Node) : Cache:=
 let entries:=without node.place cache.entries
 { cache with
   entries:=entries
   byDigest:=Function.update cache.byDigest node.entry.digestHex none
   stats:={ cache.stats with
    bytes:=cache.stats.bytes - node.entry.weight
    entries:=size entries } }

def eraseEntry : Option Cache := (nodeAt cache place).map (removed cache)

def limitExceeded : Bool:=
 size cache.entries > cache.limits.maximumEntries ∨ cache.stats.bytes > cache.limits.maximumBytes

/-- The loop takes the last entry, which an empty list does not have; each turn counts down
  the entries left. -/
def evictToLimits : ℕ → Cache → Option Cache
 | turns, cache=>
  if limitExceeded cache then
   match turns, cache.entries.getLast? with
   | turns+1, some last=>do
    let left ← eraseEntry cache last.place
    evictToLimits turns
     { left with stats:={ left.stats with evictions:=left.stats.evictions+1 } }
   | _, _=>none
  else some cache

/-- `emplace` keeps what the map has. -/
def emplace (byDigest : Bytes → Option ℕ) (digestHex : Bytes) (place : ℕ) : Bytes → Option ℕ:=
 if byDigest digestHex = none then Function.update byDigest digestHex (some place) else byDigest

def pushFront (entry : Entry) : Cache:=
 let entries:=⟨cache.fresh,entry⟩::cache.entries
 { cache with
   entries:=entries
   byDigest:=emplace cache.byDigest entry.digestHex cache.fresh
   stats:={ cache.stats with
    entries:=size entries
    bytes:=cache.stats.bytes+entry.weight }
   fresh:=cache.fresh+1 }

def dropOld : Option Cache:=
 match cache.byDigest digestHex with
 | some place=>eraseEntry cache place
 | none=>some cache

def insert (artifact : Option HeldArtifact)
  (persistedAccessUnixNs : Int64) : Option (Bool × Cache):=
 match artifact with
 | none=>some (false,cache)
 | some artifact=>
  if !validDigest digestHex then some (false,cache)
  else
   let weight:=artifactWeight artifact
   if cache.limits.maximumEntries = 0 ∨ weight > cache.limits.maximumBytes then
    some (false,cache)
   else do
    let cleared ← dropOld cache digestHex
    let pushed:=pushFront cleared ⟨digestHex,artifact,weight,persistedAccessUnixNs⟩
    let kept ← evictToLimits pushed.entries.length pushed
    pure (true,kept)

def persistedAccess : Option (Option Int64):=
 match cache.byDigest digestHex with
 | none=>some none
 | some place=>(nodeAt cache place).map fun node=>some node.entry.persistedAccessUnixNs

def exchanged (desired : Int64) : Cache:=
 { cache with
   entries:=cache.entries.map fun node =>
    if node.place = place then
     { node with entry:={ node.entry with persistedAccessUnixNs:=desired } }
    else node }

def compareExchangePersistedAccess (expected desired : Int64) : Option (Bool × Cache):=
 match cache.byDigest digestHex with
 | none=>some (false,cache)
 | some place=>(nodeAt cache place).map fun node =>
  if node.entry.persistedAccessUnixNs≠expected then (false,cache)
  else (true,exchanged cache place desired)

def erase : Option (Bool × Cache):=
 match cache.byDigest digestHex with
 | none=>some (false,cache)
 | some place=>(eraseEntry cache place).map fun left=>(true,left)

def clear : Cache:=
 { cache with
   entries:=[]
   byDigest:=fun _=>none
   stats:={ cache.stats with entries:=0,bytes:=0 } }

inductive Call where
 | find (digestHex : Bytes)
 | insert (digestHex : Bytes) (artifact : Option HeldArtifact) (persistedAccessUnixNs : Int64)
 | exchange (digestHex : Bytes) (expected desired : Int64)
 | erase (digestHex : Bytes)
 | clear

inductive Reply where
 | found (artifact : Option HeldArtifact)
 | answered (value : Bool)
 | cleared

def step : Call → Option (Reply × Cache)
 | .find digestHex=>(find cache digestHex).map fun (artifact,after)=>(.found artifact,after)
 | .insert digestHex artifact access=>
  (insert cache digestHex artifact access).map fun (ok,after)=>(.answered ok,after)
 | .exchange digestHex expected desired=>
  (compareExchangePersistedAccess cache digestHex expected desired).map fun (ok,after) =>
   (.answered ok,after)
 | .erase digestHex=>(erase cache digestHex).map fun (ok,after)=>(.answered ok,after)
 | .clear=>some (.cleared,clear cache)

def run (cache : Cache) : List Call → Option (List Reply × Cache)
 | []=>some ([],cache)
 | call::calls=>do
  let (reply,after) ← step cache call
  let (replies,last) ← run after calls
  pure (reply::replies,last)

section Reference
open RecencyList

def weightOf (entry : Entry) : ℕ := entry.weight.toNat

variable (limits : MemoryCacheLimits)

/-- An insertion that the limits and the digest allow. -/
def accepted (digestHex : Bytes) (artifact : HeldArtifact) : Bool:=
 validDigest digestHex ∧ limits.maximumEntries≠0 ∧ artifactWeight artifact ≤ limits.maximumBytes

/-- What the calls mean for a list in the order of use. -/
def reference (entries : List Entry) : Call → Reply × List Entry
 | .find digestHex=>
  (.found ((entries.find? (·.digestHex = digestHex)).map Entry.artifact),
   touch Entry.digestHex digestHex entries)
 | .insert digestHex artifact access=>
  match artifact with
  | none=>(.answered false,entries)
  | some artifact=>
   if accepted limits digestHex artifact then
    (.answered true,put Entry.digestHex weightOf limits.maximumEntries.toNat
     limits.maximumBytes.toNat ⟨digestHex,artifact,artifactWeight artifact,access⟩ entries)
   else (.answered false,entries)
 | .exchange digestHex expected desired=>
  if entries.any fun entry =>
    entry.digestHex = digestHex ∧ entry.persistedAccessUnixNs = expected then
   (.answered true,entries.map fun entry =>
    if entry.digestHex = digestHex then { entry with persistedAccessUnixNs:=desired }
    else entry)
  else (.answered false,entries)
 | .erase digestHex=>
  (.answered (entries.any (·.digestHex = digestHex)),drop Entry.digestHex digestHex entries)
 | .clear=>(.cleared,[])

def referenceRun (limits : MemoryCacheLimits) (entries : List Entry):
  List Call → List Reply × List Entry
 | []=>([],entries)
 | call::calls=>
  let (reply,after) := reference limits entries call
  let (replies,last) := referenceRun limits after calls
  (reply::replies,last)

end Reference

end VoVe.MemoryArtifactCache
