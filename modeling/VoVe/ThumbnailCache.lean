import VoVe.ArtifactCodec
import VoVe.BasicDirectoryManifest

set_option autoImplicit false

/-! The thumbnail cache of `persistent_thumbnail_cache.cpp`: artifacts in memory and on disk, the
index of them, and the fences of revoked locators. -/

namespace VoVe.ThumbnailCache
open ByteCodec AsciiText CacheKeys ArtifactCodec
open BasicDirectoryManifest (hexadecimalBytes)

structure QoiImage where
 width : UInt32
 height : UInt32
 rgba8 : Bytes
 deriving DecidableEq

structure Libraries where
 sha256 : Bytes → CacheDigest
 qoiDecode : Bytes → Option QoiImage

def kQoiHeaderBytes : ℕ := 14

def readBe32 (bytes : Bytes) (offset : ℕ) : UInt32:=
 ((bytes.drop offset).take 4).foldl (fun value byte=>(value <<< 8) ||| byte.toUInt32) 0

def validDimensions (width height : UInt32) : Bool:=
 width≠0 ∧ height≠0 ∧ width ≤ kMaxArtifactDimension ∧ height ≤ kMaxArtifactDimension

variable (libraries : Libraries)

def decodeQoiRgba8 (encoded : Bytes) : Except Bytes QoiImage:=
 if encoded.length < kQoiHeaderBytes ∨ kMaxArtifactBytes - kVvt1HeaderBytes < encoded.length then
  .error (utf8 "QOI payload size is outside cache limits")
 else if encoded.take 4≠utf8 "qoif" then .error (utf8 "QOI magic is invalid")
 else
  let width:=readBe32 encoded 4
  let height:=readBe32 encoded 8
  let channels:=encoded.getD 12 0
  if !validDimensions width height ∨ (channels≠3 ∧ channels≠4) then
   .error (utf8 "QOI header is outside cache limits")
  else
   match libraries.qoiDecode encoded with
   | none=>.error (utf8 "QOI payload is malformed")
   | some image=>
    if image.width≠width ∨ image.height≠height then .error (utf8 "QOI payload is malformed")
    else .ok image

def decodedAs (metadata : ArtifactMetadata) (payload : Bytes) : Except Bytes QoiImage:=
 match decodeQoiRgba8 libraries payload with
 | .error message=>.error message
 | .ok image=>
  if image.width = metadata.width ∧ image.height = metadata.height then .ok image
  else .error (utf8 "QOI dimensions do not match artifact metadata")

section Digests
variable (libraries : Libraries)

def hashCacheKey (key : CacheKey) : Option CacheDigest:=
 (serializeCacheKey key).toOption.map libraries.sha256

def hashCacheLocator (locator : CacheLocatorKey) : Option CacheDigest:=
 (serializeCacheLocator locator).toOption.map libraries.sha256

end Digests

structure ArtifactIndexRecord where
 digest : CacheDigest
 source : SourceStamp
 metadata : ArtifactMetadata
 sourceProfileName : Bytes
 sourceProfileFingerprint : Bytes
 relativeArtifactPathUtf8 : Bytes
 artifactBytes : ℕ
 lastAccessUnixNs : ℤ
 deriving DecidableEq

/-- The two tables of the index; a locator stands for the artifact it was bound to. -/
structure ArtifactIndex where
 records : CacheDigest → Option ArtifactIndexRecord := fun _=>none
 locators : CacheDigest → Option CacheDigest := fun _=>none
 lastErrorEmpty : Bool := true

/-- A call of the index is done, or fails without effect; or it finds a corrupt database, removes
it, and is then done on the empty one, or fails. -/
inductive IndexOutcome where
 | done
 | failed
 | recovered
 | recoveredFailed
 deriving DecidableEq

inductive TouchResult where
 | updated
 | missing
 | error
 deriving DecidableEq

namespace ArtifactIndex
variable (outcome : IndexOutcome) (index : ArtifactIndex)

def call {α : Type} (failed : α) (act : ArtifactIndex → α × ArtifactIndex) : α × ArtifactIndex:=
 match outcome with
 | .done=>act { index with lastErrorEmpty:=true }
 | .failed=>(failed,{ index with lastErrorEmpty:=false })
 | .recovered=>act {}
 | .recoveredFailed=>(failed,{ lastErrorEmpty:=false })

variable (digest : CacheDigest)

def find : Option ArtifactIndexRecord × ArtifactIndex:=
 index.call outcome none fun index=>(index.records digest,index)

def publish (record : ArtifactIndexRecord) : Bool × ArtifactIndex:=
 index.call outcome false fun index =>
  (true,{ index with records:=Function.update index.records record.digest (some record) })

def touch (accessUnixNs : ℤ) : TouchResult × ArtifactIndex:=
 index.call outcome .error fun index =>
  match index.records digest with
  | none=>(.missing,index)
  | some record=>
   (.updated,{ index with
    records:=Function.update index.records digest
     (some { record with lastAccessUnixNs:=accessUnixNs }) })

/-- The row of the artifact, and the locators bound to it. -/
def without : ArtifactIndex:=
 { index with
   records:=Function.update index.records digest none
   locators:=fun locator =>
    if index.locators locator = some digest then none else index.locators locator }

def erase : Bool × ArtifactIndex:=
 index.call outcome false fun index=>((index.records digest).isSome,index.without digest)

def findLocator (locator : CacheDigest) : Option CacheDigest × ArtifactIndex:=
 index.call outcome none fun index=>(index.locators locator,index)

def publishLocator (locator digest : CacheDigest) : Bool × ArtifactIndex:=
 index.call outcome false fun index =>
  if (index.records digest).isSome then
   (true,{ index with locators:=Function.update index.locators locator (some digest) })
  else (false,{ index with lastErrorEmpty:=false })

def eraseLocator (locator : CacheDigest) : Bool × ArtifactIndex:=
 index.call outcome false fun index =>
  ((index.locators locator).isSome,
   { index with locators:=Function.update index.locators locator none })

end ArtifactIndex

structure MemoryCacheLimits where
 maximumEntries : ℕ := 256
 maximumBytes : ℕ := 128*1024*1024

structure Entry where
 digest : CacheDigest
 artifact : ArtifactData
 weight : ℕ
 persistedAccessUnixNs : ℤ
 deriving DecidableEq

/-- The resident artifacts, the one used last first; at most one for a digest. -/
structure MemoryArtifactCache where
 limits : MemoryCacheLimits
 entries : List Entry := []

def artifactWeight (artifact : ArtifactData) : ℕ := kVvt1HeaderBytes+artifact.payload.length

/-- Drops entries from the end until the limits are kept. -/
def evictToLimits (limits : MemoryCacheLimits) (entries : List Entry) : List Entry:=
 if limits.maximumEntries < entries.length ∨
   limits.maximumBytes < (entries.map Entry.weight).sum then
  match entries with
  | []=>[]
  | first::rest=>evictToLimits limits (first::rest).dropLast
 else entries
 termination_by entries.length
 decreasing_by
  simp only [List.length_dropLast,List.length_cons]
  omega

namespace MemoryArtifactCache
variable (memory : MemoryArtifactCache)

def find (digest : CacheDigest) : Option ArtifactData × MemoryArtifactCache:=
 match memory.entries.find? (·.digest = digest) with
 | none=>(none,memory)
 | some entry=>
  (some entry.artifact, { memory with entries:=entry::memory.entries.filter (·.digest≠digest) })

variable (digest : CacheDigest)

def insert (artifact : ArtifactData) (persistedAccessUnixNs : ℤ) : MemoryArtifactCache:=
 let weight:=artifactWeight artifact
 if memory.limits.maximumEntries = 0 ∨ memory.limits.maximumBytes < weight then memory
 else
  let entry : Entry := ⟨digest,artifact,weight,persistedAccessUnixNs⟩
  { memory with
    entries:=evictToLimits memory.limits
     (entry::memory.entries.filter (·.digest≠digest)) }

def persistedAccess : Option ℤ:=
 (memory.entries.find? (·.digest = digest)).map Entry.persistedAccessUnixNs

def compareExchangePersistedAccess (expected desired : ℤ) : Bool × MemoryArtifactCache:=
 if memory.persistedAccess digest = some expected then
  (true,{ memory with
   entries:=memory.entries.map fun entry =>
    if entry.digest = digest then { entry with persistedAccessUnixNs:=desired } else entry })
 else (false,memory)

def erase : Bool × MemoryArtifactCache:=
 (memory.entries.any (·.digest = digest),
  { memory with entries:=memory.entries.filter (·.digest≠digest) })

def clear : MemoryArtifactCache := { memory with entries:=[] }

end MemoryArtifactCache

/-- A write or a removal of a fence is done; it fails without effect; or it has its effect and
reports a failure, because the directory could not be synchronized. -/
inductive FenceOutcome where
 | done
 | failed
 | unconfirmed
 deriving DecidableEq

/-- How the steps of one call come out; no call takes a step twice. -/
structure Faults where
 findRecord : IndexOutcome := .done
 publishRecord : IndexOutcome := .done
 touchRecord : IndexOutcome := .done
 eraseRecord : IndexOutcome := .done
 findLocator : IndexOutcome := .done
 publishLocator : IndexOutcome := .done
 eraseLocator : IndexOutcome := .done
 lookupArtifact : Option Bytes := none
 writeArtifact : Option Bytes := none
 removeArtifact : Option Bytes := none
 inspectFence : Bool := false
 persistFence : FenceOutcome := .done
 removeFence : FenceOutcome := .done
 deriving DecidableEq

structure PersistentThumbnailCache where
 artifacts : CacheDigest → Option ArtifactData := fun _=>none
 index : ArtifactIndex := {}
 memory : MemoryArtifactCache
 revokedLocators : CacheDigest → Bool := fun _=>false
 offlineLookupDisabled : Bool := false

inductive CacheLookupKind where
 | memoryHit
 | diskHit
 | miss
 | error
 deriving DecidableEq

structure CachedThumbnail where
 artifact : ArtifactData
 indexRecord : Option ArtifactIndexRecord := none
 decoded : Option QoiImage := none
 deriving DecidableEq

structure CacheLookupResult where
 kind : CacheLookupKind := .miss
 thumbnail : Option CachedThumbnail := none
 error : Bytes := []
 deriving DecidableEq

structure CachePublishRequest where
 key : CacheKey
 metadata : ArtifactMetadata := {}
 payload : Bytes := []
 sourceProfileName : Bytes := []
 sourceProfileFingerprint : Bytes := []
 accessUnixNs : ℤ := 0
 deriving DecidableEq

structure CachePublishResult where
 published : Bool := false
 indexPublished : Bool := false
 error : Bytes := []
 decoded : Option QoiImage := none

def kAccessTimestampGranularityNs : ℤ := 60000000000

/-- The path of an artifact below the root of the store. -/
def relativePath (digest : CacheDigest) : Bytes:=
 let hex:=hexadecimalBytes digest.bytes
 hex.take 2++(47::((hex.drop 2).take 2++(47::(hex++utf8 ".vvt"))))

def artifactBytes (artifact : ArtifactData) : ℕ:=
 kVvt1HeaderBytes+artifact.payload.length+artifact.colorIdentity.sourceProfileName.length +
  artifact.colorIdentity.sourceProfileFingerprint.length

def recordMatches (record : ArtifactIndexRecord) (key : CacheKey) (digest : CacheDigest)
  (artifact : ArtifactData) : Bool:=
 record.digest = digest ∧ record.source = key.source ∧ record.metadata = artifact.metadata ∧
  record.sourceProfileName = artifact.colorIdentity.sourceProfileName ∧
  record.sourceProfileFingerprint = artifact.colorIdentity.sourceProfileFingerprint ∧
  record.relativeArtifactPathUtf8 = relativePath digest ∧
  record.artifactBytes = artifactBytes artifact

def recordFromArtifact (key : CacheKey) (digest : CacheDigest) (artifact : ArtifactData)
  (accessUnixNs : ℤ) : ArtifactIndexRecord where
 digest:=digest
 source:=key.source
 metadata:=artifact.metadata
 sourceProfileName:=artifact.colorIdentity.sourceProfileName
 sourceProfileFingerprint:=artifact.colorIdentity.sourceProfileFingerprint
 relativeArtifactPathUtf8:=relativePath digest
 artifactBytes:=artifactBytes artifact
 lastAccessUnixNs:=accessUnixNs

namespace PersistentThumbnailCache
variable (libraries : Libraries) (faults : Faults) (cache : PersistentThumbnailCache)

section Steps
variable (digest : CacheDigest)

def findRecord : Option ArtifactIndexRecord × PersistentThumbnailCache:=
 let (record,index) := cache.index.find faults.findRecord digest
 (record,{ cache with index:=index })

def publishRecord (record : ArtifactIndexRecord) : Bool × PersistentThumbnailCache:=
 let (published,index) := cache.index.publish faults.publishRecord record
 (published,{ cache with index:=index })

def touchRecord (accessUnixNs : ℤ) : TouchResult × PersistentThumbnailCache:=
 let (touched,index) := cache.index.touch faults.touchRecord digest accessUnixNs
 (touched,{ cache with index:=index })

def eraseRecord : Bool × PersistentThumbnailCache:=
 let (erased,index) := cache.index.erase faults.eraseRecord digest
 (erased,{ cache with index:=index })

def eraseLocatorRow (locator : CacheDigest) : Bool × PersistentThumbnailCache:=
 let (erased,index) := cache.index.eraseLocator faults.eraseLocator locator
 (erased,{ cache with index:=index })

/-- `lookup` and `lookup_digest` of the store. -/
def lookupArtifact : Except Bytes (Option ArtifactData):=
 match faults.lookupArtifact with
 | some message=>.error message
 | none=>.ok (cache.artifacts digest)

/-- `remove_digest_checked` of the store: whether an artifact was there. -/
def removeArtifact : Except Bytes Bool × PersistentThumbnailCache:=
 match faults.removeArtifact with
 | some message=>(.error message,cache)
 | none=>
  (.ok (cache.artifacts digest).isSome,
   { cache with artifacts:=Function.update cache.artifacts digest none })

def eraseResident : PersistentThumbnailCache:=
 { cache with memory:=(cache.memory.erase digest).2 }

def insertResident (artifact : ArtifactData) (accessUnixNs : ℤ) : PersistentThumbnailCache:=
 { cache with memory:=cache.memory.insert digest artifact accessUnixNs }

end Steps

variable (digest : CacheDigest)

/-- A record that was not used for a while is touched, in the index and in its copy. -/
def refreshRecord (accessUnixNs : ℤ) (record : ArtifactIndexRecord):
  ArtifactIndexRecord × PersistentThumbnailCache:=
 if record.lastAccessUnixNs ≤ accessUnixNs ∧
   kAccessTimestampGranularityNs ≤ accessUnixNs - record.lastAccessUnixNs then
  let (touched,cache) := cache.touchRecord faults digest accessUnixNs
  (if touched = .updated then { record with lastAccessUnixNs:=accessUnixNs } else record,cache)
 else (record,cache)

/-- The access time of a resident artifact is written back when it is old enough. -/
def refreshResident (accessUnixNs : ℤ) : PersistentThumbnailCache:=
 match cache.memory.persistedAccess digest with
 | none=>cache
 | some persisted=>
  if persisted ≤ accessUnixNs ∧ kAccessTimestampGranularityNs ≤ accessUnixNs - persisted then
   let memory:=(cache.memory.compareExchangePersistedAccess digest persisted accessUnixNs).2
   let (touched,cache) := { cache with memory:=memory }.touchRecord faults digest accessUnixNs
   if touched = .updated then cache
   else
    { cache with
      memory:=(cache.memory.compareExchangePersistedAccess digest accessUnixNs persisted).2 }
  else cache

variable (key : CacheKey)

def lookupResident (digest : CacheDigest) (accessUnixNs : ℤ)
  (resident : ArtifactData) : CacheLookupResult × PersistentThumbnailCache:=
 let hit:=fun (record : ArtifactIndexRecord) (cache : PersistentThumbnailCache) =>
  ({ kind:=.memoryHit
     thumbnail:=some { artifact:=resident,indexRecord:=some record } : CacheLookupResult },
   cache.refreshResident faults digest accessUnixNs)
 let (record,cache) := cache.findRecord faults digest
 match record with
 | some record=>hit record cache
 | none=>
  match cache.lookupArtifact faults digest with
  | .error message=>({ kind:=.error,error:=message },cache.eraseResident digest)
  | .ok none=>({},cache.eraseResident digest)
  | .ok (some stored)=>
   let recovered:=recordFromArtifact key digest stored accessUnixNs
   let (published,cache) := cache.publishRecord faults recovered
   if published then hit recovered cache
   else
    ({ kind:=.memoryHit
       thumbnail:=some { artifact:=resident }
       error:=utf8 "failed to reconstruct the cache index for a resident artifact" },cache)

/-- An artifact of the store that cannot be decoded is removed. -/
def dropMalformed (indexed : Bool) : CacheLookupResult × PersistentThumbnailCache:=
 let (removal,cache) := cache.removeArtifact faults digest
 match removal with
 | .error message=>({ kind:=.error,error:=message },cache)
 | .ok _=>
  if indexed then
   let (erased,cache) := cache.eraseRecord faults digest
   if erased then ({},cache)
   else
    ({ kind:=.error,error:=utf8 "failed to erase index for malformed cached QOI" },cache)
  else ({},cache)

def hitStored (artifact : ArtifactData) (image : QoiImage)
  (record : ArtifactIndexRecord) : CacheLookupResult × PersistentThumbnailCache:=
 ({ kind:=.diskHit
    thumbnail:=some
     { artifact:=artifact,indexRecord:=some record,decoded:=some image } },
  cache.insertResident digest artifact record.lastAccessUnixNs)

def recoverStored (digest : CacheDigest) (accessUnixNs : ℤ)
  (artifact : ArtifactData) (image : QoiImage):
  CacheLookupResult × PersistentThumbnailCache:=
 let recovered:=recordFromArtifact key digest artifact accessUnixNs
 let (published,cache) := cache.publishRecord faults recovered
 if published then cache.hitStored digest artifact image recovered
 else
  ({ kind:=.diskHit
     thumbnail:=some { artifact:=artifact,decoded:=some image }
     error:=utf8 "failed to reconstruct the cache index from its artifact" },cache)

def lookupStored (digest : CacheDigest) (accessUnixNs : ℤ):
  CacheLookupResult × PersistentThumbnailCache:=
 let (record,cache) := cache.findRecord faults digest
 match cache.lookupArtifact faults digest with
 | .error message=>({ kind:=.error,error:=message },cache)
 | .ok none=>
  if record.isSome then
   let (erased,cache) := cache.eraseRecord faults digest
   if erased then ({},cache)
   else
    ({ kind:=.error
       error:=utf8 "failed to erase index for a missing cache artifact" },cache)
  else ({},cache)
 | .ok (some artifact)=>
  match decodedAs libraries artifact.metadata artifact.payload with
  | .error _=>cache.dropMalformed faults digest record.isSome
  | .ok image=>
   match record with
   | none=>cache.recoverStored faults key digest accessUnixNs artifact image
   | some record=>
    if recordMatches record key digest artifact then
     let (record,cache) := cache.refreshRecord faults digest accessUnixNs record
     cache.hitStored digest artifact image record
    else cache.recoverStored faults key digest accessUnixNs artifact image

/-- Nothing where the key cannot be serialized: the source throws. -/
def lookup (accessUnixNs : ℤ) : Option CacheLookupResult × PersistentThumbnailCache:=
 match hashCacheKey libraries key with
 | none=>(none,cache)
 | some digest=>
  let (resident,memory) := cache.memory.find digest
  let cache:={ cache with memory:=memory }
  let (result,cache):=
   match resident with
   | some resident=>cache.lookupResident faults key digest accessUnixNs resident
   | none=>cache.lookupStored libraries faults key digest accessUnixNs
  (some result,cache)

def describesStored (record : ArtifactIndexRecord) (digest : CacheDigest)
  (artifact : ArtifactData) : Bool:=
 record.digest = digest ∧ record.metadata = artifact.metadata ∧
  record.sourceProfileName = artifact.colorIdentity.sourceProfileName ∧
  record.sourceProfileFingerprint = artifact.colorIdentity.sourceProfileFingerprint ∧
  record.relativeArtifactPathUtf8 = relativePath digest ∧
  record.artifactBytes = artifactBytes artifact

def dropBinding (locator digest : CacheDigest) : PersistentThumbnailCache:=
 ((cache.eraseRecord faults digest).2.eraseLocatorRow faults locator).2

/-- What a locator leads to, once its artifact is known. -/
def lookupBound (locator digest : CacheDigest) (accessUnixNs : ℤ):
  CacheLookupResult × PersistentThumbnailCache:=
 let (record,cache) := cache.findRecord faults digest
 match record with
 | none=>({},(cache.eraseLocatorRow faults locator).2)
 | some record=>
  let (resident,memory) := cache.memory.find digest
  let cache:={ cache with memory:=memory }
  match resident with
  | some resident=>
   let (record,cache) := cache.refreshRecord faults digest accessUnixNs record
   ({ kind:=.memoryHit
      thumbnail:=some { artifact:=resident,indexRecord:=some record } },cache)
  | none=>
   match cache.lookupArtifact faults digest with
   | .error message=>
    ({ kind:=.error,error:=message },cache.dropBinding faults locator digest)
   | .ok none=>({},cache.dropBinding faults locator digest)
   | .ok (some artifact)=>
    let removed:=fun _ : Unit =>
     (cache.removeArtifact faults digest).2.dropBinding faults locator digest
    match decodedAs libraries artifact.metadata artifact.payload with
    | .error _=>({},removed ())
    | .ok image=>
     if describesStored record digest artifact then
      let (record,cache) := cache.refreshRecord faults digest accessUnixNs record
      cache.hitStored digest artifact image record
     else ({},removed ())

def locatorIsRevoked (locator : CacheDigest) : Bool:=
 faults.inspectFence || cache.revokedLocators locator

variable (locator : CacheLocatorKey)

def lookupLocator (accessUnixNs : ℤ) : Option CacheLookupResult × PersistentThumbnailCache:=
 if cache.offlineLookupDisabled then (some {},cache)
 else
  match hashCacheLocator libraries locator with
  | none=>(none,cache)
  | some locator=>
   if cache.locatorIsRevoked faults locator then (some {},cache)
   else
    let (digest,index) := cache.index.findLocator faults.findLocator locator
    let cache:={ cache with index:=index }
    match digest with
    | none=>(some {},cache)
    | some digest=>
     let (result,cache) := cache.lookupBound libraries faults locator digest accessUnixNs
     (some result,cache)

def artifactOf (request : CachePublishRequest) : ArtifactData where
 metadata:=measured request.metadata request.payload
 cacheKeyDigest:=digest
 colorIdentity:=⟨request.sourceProfileName,request.sourceProfileFingerprint⟩
 payload:=request.payload

variable (request : CachePublishRequest)

/-- `make_record`, for what the store has taken. -/
def makeRecord (digest : CacheDigest) (encoded : EncodedArtifact) : ArtifactIndexRecord where
 digest:=digest
 source:=request.key.source
 metadata:=encoded.metadata
 sourceProfileName:=encoded.colorIdentity.sourceProfileName
 sourceProfileFingerprint:=encoded.colorIdentity.sourceProfileFingerprint
 relativeArtifactPathUtf8:=relativePath digest
 artifactBytes:=encoded.bytes.length
 lastAccessUnixNs:=request.accessUnixNs

/-- The steps of a publication after the checks: the artifact, its row, the resident copy. -/
def publishEncoded (digest : CacheDigest)
  (encoded : EncodedArtifact) : (Bool × Bytes) × PersistentThumbnailCache:=
 match faults.writeArtifact with
 | some message=>((false,message),cache)
 | none=>
  let artifact : ArtifactData:=
   { metadata:=encoded.metadata,cacheKeyDigest:=encoded.cacheKeyDigest
     colorIdentity:=encoded.colorIdentity,payload := request.payload }
  let cache:=
   { cache with artifacts:=Function.update cache.artifacts digest (some artifact) }
  let (indexed,cache) := cache.publishRecord faults (makeRecord request digest encoded)
  if indexed then ((true,[]),cache.insertResident digest artifact request.accessUnixNs)
  else
   let (cleanup,cache) := cache.removeArtifact faults digest
   match cleanup with
   | .ok _=>((false,utf8 "cache index update failed; unindexed artifact was removed"),cache)
   | .error message=>
    ((false,utf8 "cache index update failed and artifact cleanup failed: " ++ message),cache)

def publish : CachePublishResult × PersistentThumbnailCache:=
 match decodedAs libraries request.metadata request.payload with
 | .error message=>({ error:=message },cache)
 | .ok image=>
  match hashCacheKey libraries request.key with
  | none=>
   ({ error:=utf8 "cache key string exceeds the serialization limit"
      decoded:=some image },cache)
  | some digest=>
   match encodeVvt1 request.metadata request.payload digest
     ⟨request.sourceProfileName,request.sourceProfileFingerprint⟩ with
   | .error error=>({ error:=error.message,decoded:=some image },cache)
   | .ok encoded=>
    let ((published,message),cache) := cache.publishEncoded faults request digest encoded
    ({ published:=published,indexPublished:=published,error:=message,
       decoded:=some image },cache)

def persistLocatorRevocation (locator : CacheDigest) : Bool × PersistentThumbnailCache:=
 let fenced:={ cache with revokedLocators:=Function.update cache.revokedLocators locator true }
 match faults.persistFence with
 | .failed=>(false,cache)
 | .done=>(true,fenced)
 | .unconfirmed=>(cache.revokedLocators locator,fenced)

def removeLocatorRevocation (locator : CacheDigest) : Bool × PersistentThumbnailCache:=
 let unfenced:=
  { cache with revokedLocators:=Function.update cache.revokedLocators locator false }
 match faults.removeFence with
 | .failed=>(false,cache)
 | .done=>(true,unfenced)
 | .unconfirmed=>(!cache.revokedLocators locator,unfenced)

def bindLocator (key : CacheKey) : Bool × PersistentThumbnailCache:=
 match hashCacheLocator libraries locator, hashCacheKey libraries key with
 | some locator, some digest=>
  let (published,index) := cache.index.publishLocator faults.publishLocator locator digest
  let cache:={ cache with index:=index }
  if published then cache.removeLocatorRevocation faults locator else (false,cache)
 | _, _=>(false,cache)

def eraseLocator : Bool × PersistentThumbnailCache:=
 match hashCacheLocator libraries locator with
 | none=>(false,{ cache with offlineLookupDisabled:=true })
 | some locator=>
  let (fenced,cache) := cache.persistLocatorRevocation faults locator
  let (removed,cache) := cache.eraseLocatorRow faults locator
  if removed ∨ cache.index.lastErrorEmpty then
   (removed,(cache.removeLocatorRevocation faults locator).2)
  else if fenced then (removed,cache)
  else (removed,{ cache with offlineLookupDisabled:=true })

/-- Nothing where the key cannot be serialized: the source throws. -/
def erase (key : CacheKey) : Option Bool × PersistentThumbnailCache:=
 match hashCacheKey libraries key with
 | none=>(none,cache)
 | some digest=>
  let (memoryRemoved,memory) := cache.memory.erase digest
  let cache:={ cache with memory:=memory }
  let (removal,cache) := cache.removeArtifact faults digest
  match removal with
  | .error _=>(some memoryRemoved,cache)
  | .ok removed=>
   let (indexRemoved,cache) := cache.eraseRecord faults digest
   (some (memoryRemoved || removed || indexRemoved),cache)

/-- What `prune_disk_cache` has done: the artifacts and the rows that are gone, and how many of
the artifacts had no row; a recovery of the index on the way empties it. -/
structure Removal where
 artifacts : List CacheDigest := []
 records : List CacheDigest := []
 orphanArtifactsRemoved : ℕ := 0
 recovered : Bool := false

def prune (removal : Removal) : PersistentThumbnailCache:=
 let index:=
  if removal.recovered then {} else removal.records.foldl ArtifactIndex.without cache.index
 { cache with
   artifacts:=fun digest=>if digest ∈ removal.artifacts then none else cache.artifacts digest
   index:=index
   memory:=
    if removal.records≠[] ∨ removal.orphanArtifactsRemoved≠0 then cache.memory.clear
    else cache.memory }

/-- A process that ends and starts again has nothing in memory. -/
def restart : PersistentThumbnailCache:=
 { cache with memory:=cache.memory.clear,offlineLookupDisabled:=false }

end PersistentThumbnailCache

inductive Call where
 | publish (request : CachePublishRequest)
 | lookup (key : CacheKey) (accessUnixNs : ℤ)
 | lookupLocator (locator : CacheLocatorKey) (accessUnixNs : ℤ)
 | bindLocator (locator : CacheLocatorKey) (key : CacheKey)
 | eraseLocator (locator : CacheLocatorKey)
 | erase (key : CacheKey)
 | prune (removal : PersistentThumbnailCache.Removal)
 | restart

/-- A call, and how its steps come out. -/
structure Step where
 call : Call
 faults : Faults := {}

def Step.apply (cache : PersistentThumbnailCache) (step : Step) : PersistentThumbnailCache:=
 match step.call with
 | .publish request=>(cache.publish libraries step.faults request).2
 | .lookup key accessUnixNs=>(cache.lookup libraries step.faults key accessUnixNs).2
 | .lookupLocator locator accessUnixNs=>
  (cache.lookupLocator libraries step.faults locator accessUnixNs).2
 | .bindLocator locator key=>(cache.bindLocator libraries step.faults locator key).2
 | .eraseLocator locator=>(cache.eraseLocator libraries step.faults locator).2
 | .erase key=>(cache.erase libraries step.faults key).2
 | .prune removal=>cache.prune removal
 | .restart=>cache.restart

/-- The cache after some calls; it starts empty. -/
def run (limits : MemoryCacheLimits) (steps : List Step) : PersistentThumbnailCache:=
 steps.foldl (Step.apply libraries) { memory:={ limits:=limits } }

end VoVe.ThumbnailCache
