import VoVe.ThumbnailCacheTruth

set_option autoImplicit false

namespace VoVe.ThumbnailCacheKept
open ByteCodec AsciiText CacheKeys ArtifactCodec ThumbnailCache ThumbnailCache.PersistentThumbnailCache
open ThumbnailCacheRules ThumbnailCacheTruth

section Keeping
variable {digest other : CacheDigest} {cache next last : PersistentThumbnailCache}

/-- What the stores hold for the digest is not lost, and no copy of it appears. -/
structure Keeps (digest : CacheDigest) (cache next : PersistentThumbnailCache) : Prop where
 artifacts : next.artifacts digest=cache.artifacts digest
 rows : ∀record,cache.index.records digest=some record →
  ∃ row,next.index.records digest=some row ∧ SameRow record row
 copies : ∀entry∈next.memory.entries,entry.digest=digest →
  ∃ before∈cache.memory.entries,before.digest=digest ∧ before.artifact=entry.artifact

lemma Keeps.trans (h:Keeps digest cache next) (hnext:Keeps digest next last):
 Keeps digest cache last:=by
 refine ⟨hnext.artifacts.trans h.artifacts,?_,?_⟩
 · intro record hrecord
   obtain ⟨middle,hmiddle,hsame⟩:=h.rows record hrecord
   obtain ⟨row,hrow,hnextSame⟩:=hnext.rows middle hmiddle
   exact ⟨row,hrow,hsame.trans hnextSame⟩
 · intro e hentry hdigest
   obtain ⟨middle,hmiddle,hmiddleDigest,hartifact⟩:=hnext.copies e hentry hdigest
   obtain ⟨before,hbefore,hbeforeDigest,hsame⟩:=h.copies middle hmiddle hmiddleDigest
   exact ⟨before,hbefore,hbeforeDigest,hsame.trans hartifact⟩

lemma keeps_memory {memory : MemoryArtifactCache} (h:CopiesBelow cache.memory memory):
 Keeps digest cache { cache with memory:=memory }:=by
 refine ⟨rfl,fun record hrecord=>⟨record,hrecord,.refl record⟩,?_⟩
 intro e hentry hdigest
 obtain ⟨before,hbefore,hsame,hartifact⟩:=h e hentry
 exact ⟨before,hbefore,hsame.trans hdigest,hartifact⟩

lemma keeps_same (hartifacts:next.artifacts digest=cache.artifacts digest)
 (hrecords:next.index.records digest=cache.index.records digest)
 (hmemory:next.memory=cache.memory) : Keeps digest cache next:=by
 refine ⟨hartifacts,?_,?_⟩
 · intro record hrecord
   exact ⟨record,hrecords.trans hrecord,.refl record⟩
 · intro e hentry hdigest
   rw [hmemory] at hentry
   exact ⟨e,hentry,hdigest,rfl⟩

lemma Keeps.refl (digest : CacheDigest) (cache : PersistentThumbnailCache):
 Keeps digest cache cache:=
 keeps_same rfl rfl rfl

lemma keeps_findRecord : Keeps digest cache (cache.findRecord {} other).2:=
 keeps_same rfl rfl rfl

lemma keeps_eraseLocatorRow (locator : CacheDigest):
 Keeps digest cache (cache.eraseLocatorRow {} locator).2:=
 keeps_same rfl rfl rfl

lemma keeps_touchRecord (other : CacheDigest) (a : ℤ):
 Keeps digest cache (cache.touchRecord {} other a).2:=by
 refine ⟨rfl,?_,fun e hentry hdigest=>⟨e,hentry,hdigest,rfl⟩⟩
 intro record hrecord
 unfold touchRecord ArtifactIndex.touch ArtifactIndex.call
 dsimp only
 cases hother:cache.index.records other with
 | none=>exact ⟨record,hrecord,.refl record⟩
 | some touched=>
  dsimp only
  by_cases hsame:digest=other
  · rw [hsame,hother,Option.some.injEq] at hrecord
    rw [hsame,Function.update_self,←hrecord]
    exact ⟨_,rfl,rfl⟩
  · rw [Function.update_of_ne hsame]
    exact ⟨record,hrecord,.refl record⟩

lemma keeps_refreshRecord (a : ℤ) (record : ArtifactIndexRecord):
 Keeps digest cache (cache.refreshRecord {} other a record).2:=by
 unfold refreshRecord
 split
 · exact keeps_touchRecord other a
 · exact .refl digest cache

lemma keeps_refreshResident (a : ℤ) : Keeps digest cache (cache.refreshResident {} other a):=by
 unfold refreshResident
 cases cache.memory.persistedAccess other with
 | none=>exact .refl digest cache
 | some persisted=>
  dsimp only
  split
  · have hexchanged:Keeps digest cache { cache with
      memory:=
       (cache.memory.compareExchangePersistedAccess other persisted a).2 }:=
     keeps_memory (copiesBelow_exchange persisted a)
    have htouched:=hexchanged.trans (keeps_touchRecord other a)
    split
    · exact htouched
    · exact htouched.trans (keeps_memory (copiesBelow_exchange a persisted))
  · exact .refl digest cache

section Others
variable (hother:digest≠other)
include hother

lemma keeps_eraseRecord : Keeps digest cache (cache.eraseRecord {} other).2:=
 keeps_same rfl (Function.update_of_ne hother _ _) rfl

lemma keeps_publishRecord {record : ArtifactIndexRecord} (hrecord:record.digest=other):
 Keeps digest cache (cache.publishRecord {} record).2:=by
 rw [←hrecord] at hother
 exact keeps_same rfl (Function.update_of_ne hother _ _) rfl

lemma keeps_removeArtifact : Keeps digest cache (cache.removeArtifact {} other).2:=
 keeps_same (Function.update_of_ne hother _ _) rfl rfl

lemma keeps_writeArtifact (artifact : ArtifactData) : Keeps digest cache
 { cache with artifacts:=Function.update cache.artifacts other (some artifact) }:=
 keeps_same (Function.update_of_ne hother _ _) rfl rfl

lemma keeps_insertResident (artifact : ArtifactData) (a : ℤ):
 Keeps digest cache (cache.insertResident other artifact a):=by
 refine ⟨rfl,fun record hrecord=>⟨record,hrecord,.refl record⟩,?_⟩
 intro e hentry hdigest
 obtain ⟨-,hentries⟩ | ⟨-,hsame⟩:=insert_cases cache.memory other artifact a
 · obtain ⟨hnew,-⟩ | ⟨-,hold⟩:=hentries e hentry
   · exact absurd (hdigest.symm.trans hnew) hother
   · exact ⟨e,hold,hdigest,rfl⟩
 · change e∈(cache.memory.insert other artifact a).entries at hentry
   rw [hsame] at hentry
   exact ⟨e,hentry,hdigest,rfl⟩

lemma keeps_dropBinding (locator : CacheDigest):
 Keeps digest cache (cache.dropBinding {} locator other):=
 .trans (keeps_eraseRecord hother) (keeps_eraseLocatorRow locator)

lemma keeps_dropMalformed (indexed : Bool):
 Keeps digest cache (cache.dropMalformed {} other indexed).2:=by
 have hremoved:Keeps digest cache (cache.removeArtifact {} other).2:=keeps_removeArtifact hother
 unfold dropMalformed
 generalize cache.removeArtifact {} other=removal at hremoved ⊢
 match removal with
 | (.error message,next)=>exact hremoved
 | (.ok _,next)=>
  dsimp only at hremoved ⊢
  split
  · split
    · exact hremoved.trans (keeps_eraseRecord hother)
    · exact hremoved.trans (keeps_eraseRecord hother)
  · exact hremoved

lemma keeps_recoverStored (key : CacheKey) (a : ℤ) (artifact : ArtifactData)
 (image : QoiImage):
 Keeps digest cache (cache.recoverStored {} key other a artifact image).2:=
 (keeps_publishRecord hother rfl).trans (keeps_insertResident hother artifact _)

lemma keeps_lookupResident (key : CacheKey) (a : ℤ) (resident : ArtifactData):
 Keeps digest cache (cache.lookupResident {} key other a resident).2:=by
 have hfound:Keeps digest cache (cache.findRecord {} other).2:=keeps_findRecord
 unfold lookupResident
 generalize cache.findRecord {} other=found at hfound ⊢
 obtain ⟨record,next⟩:=found
 dsimp only at hfound ⊢
 cases record with
 | some record=>exact hfound.trans (keeps_refreshResident a)
 | none=>
  dsimp only [PersistentThumbnailCache.lookupArtifact]
  cases next.artifacts other with
  | none=>exact hfound.trans (keeps_memory copiesBelow_erase)
  | some stored=>
   exact (hfound.trans (keeps_publishRecord hother rfl)).trans
    (keeps_refreshResident a)

variable (l : Libraries)

lemma keeps_lookupStored (key : CacheKey) (a : ℤ):
 Keeps digest cache (cache.lookupStored l {} key other a).2:=by
 have hfound:Keeps digest cache (cache.findRecord {} other).2:=keeps_findRecord
 unfold lookupStored
 generalize cache.findRecord {} other=found at hfound ⊢
 obtain ⟨record,next⟩:=found
 dsimp only [PersistentThumbnailCache.lookupArtifact] at hfound ⊢
 cases next.artifacts other with
 | none=>
  dsimp only
  split
  · split
    · exact hfound.trans (keeps_eraseRecord hother)
    · exact hfound.trans (keeps_eraseRecord hother)
  · exact hfound
 | some artifact=>
  dsimp only
  cases decodedAs l artifact.metadata artifact.payload with
  | error message=>exact hfound.trans (keeps_dropMalformed hother record.isSome)
  | ok image=>
   have hrecovered:=hfound.trans
    (keeps_recoverStored hother key a artifact image)
   cases record with
   | none=>exact hrecovered
   | some record=>
    dsimp only
    split
    · exact (hfound.trans (keeps_refreshRecord a record)).trans
       (keeps_insertResident hother artifact _)
    · exact hrecovered

lemma keeps_lookup {key : CacheKey}
 (hhash:hashCacheKey l key=some other) (a : ℤ):
 Keeps digest cache (cache.lookup l {} key a).2:=by
 have hmemory:Keeps digest cache { cache with memory:=(cache.memory.find other).2 }:=
  keeps_memory copiesBelow_find
 unfold lookup
 rw [hhash]
 dsimp only
 generalize cache.memory.find other=found at hmemory ⊢
 obtain ⟨resident,memory⟩:=found
 cases resident with
 | none=>exact hmemory.trans (keeps_lookupStored hother l key a)
 | some resident=>exact hmemory.trans (keeps_lookupResident hother key a resident)

lemma keeps_lookupBound (locator : CacheDigest) (a : ℤ):
 Keeps digest cache (cache.lookupBound l {} locator other a).2:=by
 have hfound:Keeps digest cache (cache.findRecord {} other).2:=keeps_findRecord
 unfold lookupBound
 generalize cache.findRecord {} other=found at hfound ⊢
 obtain ⟨record,next⟩:=found
 dsimp only at hfound ⊢
 cases record with
 | none=>exact hfound.trans (keeps_eraseLocatorRow locator)
 | some record=>
  have hmemory:Keeps digest next { next with memory:=(next.memory.find other).2 }:=
   keeps_memory copiesBelow_find
  dsimp only
  generalize next.memory.find other=found at hmemory ⊢
  obtain ⟨resident,memory⟩:=found
  have hnext:=hfound.trans hmemory
  cases resident with
  | some resident=>exact hnext.trans (keeps_refreshRecord a record)
  | none=>
   dsimp only [PersistentThumbnailCache.lookupArtifact] at hnext ⊢
   cases next.artifacts other with
   | none=>exact hnext.trans (keeps_dropBinding hother locator)
   | some artifact=>
    have hremoved:=(hnext.trans (keeps_removeArtifact hother)).trans
     (keeps_dropBinding hother locator)
    dsimp only
    cases decodedAs l artifact.metadata artifact.payload with
    | error message=>exact hremoved
    | ok image=>
     dsimp only
     split
     · exact (hnext.trans (keeps_refreshRecord a record)).trans
        (keeps_insertResident hother artifact _)
     · exact hremoved

lemma keeps_publish {r : CachePublishRequest}
 (hhash:hashCacheKey l r.key=some other):
 Keeps digest cache (cache.publish l {} r).2:=by
 unfold PersistentThumbnailCache.publish
 rw [hhash]
 cases decodedAs l r.metadata r.payload with
 | error message=>exact .refl digest cache
 | ok image=>
  dsimp only
  cases encodeVvt1 r.metadata r.payload other
    ⟨r.sourceProfileName,r.sourceProfileFingerprint⟩ with
  | error error=>exact .refl digest cache
  | ok encoded=>
   exact ((keeps_writeArtifact hother _).trans (keeps_publishRecord hother rfl)).trans
    (keeps_insertResident hother _ _)

lemma keeps_erase {key : CacheKey}
 (hhash:hashCacheKey l key=some other):
 Keeps digest cache (cache.erase l {} key).2:=by
 have hresident:Keeps digest cache { cache with memory:=(cache.memory.erase other).2 }:=
  keeps_memory copiesBelow_erase
 unfold PersistentThumbnailCache.erase
 rw [hhash]
 exact (hresident.trans (keeps_removeArtifact hother)).trans (keeps_eraseRecord hother)

end Others

lemma keeps_bindLocator (l : Libraries) (locator : CacheLocatorKey) (key : CacheKey):
 Keeps digest cache (cache.bindLocator l {} locator key).2:=by
 unfold PersistentThumbnailCache.bindLocator
 cases hashCacheLocator l locator with
 | none=>exact .refl digest cache
 | some row=>
  cases hashCacheKey l key with
  | none=>exact .refl digest cache
  | some other=>
   dsimp only [ArtifactIndex.publishLocator,ArtifactIndex.call]
   cases (cache.index.records other).isSome with
   | true=>exact keeps_same rfl rfl rfl
   | false=>exact keeps_same rfl rfl rfl

lemma keeps_eraseLocator (l : Libraries) (locator : CacheLocatorKey):
 Keeps digest cache (cache.eraseLocator l {} locator).2:=by
 unfold PersistentThumbnailCache.eraseLocator
 cases hashCacheLocator l locator with
 | none=>exact keeps_same rfl rfl rfl
 | some row=>
  dsimp only
  split
  · exact keeps_same rfl rfl rfl
  · split
    · exact keeps_same rfl rfl rfl
    · exact keeps_same rfl rfl rfl

end Keeping

section Holding
variable {l libraries : Libraries} {digest : CacheDigest} {source : SourceStamp}
 {artifact : ArtifactData} {cache next : PersistentThumbnailCache}

structure Holds (digest : CacheDigest) (source : SourceStamp) (artifact : ArtifactData)
  (cache : PersistentThumbnailCache) : Prop where
 stored : cache.artifacts digest=some artifact
 row : ∃ record,cache.index.records digest=some record ∧ record.source=source ∧
  describesStored record digest artifact=true
 copies : ∀entry∈cache.memory.entries,entry.digest=digest → entry.artifact=artifact

lemma Holds.keeps (h:Holds digest source artifact cache) (hkeeps:Keeps digest cache next):
 Holds digest source artifact next:=by
 refine ⟨hkeeps.artifacts.trans h.stored,?_,?_⟩
 · obtain ⟨record,hrecord,hsource,hdescribes⟩:=h.row
   obtain ⟨row,hrow,hsame⟩:=hkeeps.rows record hrecord
   refine ⟨row,hrow,?_,?_⟩
   · rw [hsame]
     exact hsource
   · rw [describesStored_same hsame]
     exact hdescribes
 · intro e hentry hdigest
   obtain ⟨before,hbefore,hbeforeDigest,hsame⟩:=hkeeps.copies e hentry hdigest
   exact hsame.symm.trans (h.copies before hbefore hbeforeDigest)

lemma Holds.insertResident (h:Holds digest source artifact cache) (a : ℤ):
 Holds digest source artifact (cache.insertResident digest artifact a):=by
 refine ⟨h.stored,h.row,?_⟩
 intro e hentry hdigest
 obtain ⟨-,hentries⟩ | ⟨-,hsame⟩:=insert_cases cache.memory digest artifact a
 · obtain ⟨-,hartifact⟩ | ⟨hne,-⟩:=hentries e hentry
   · exact hartifact
   · exact absurd hdigest hne
 · change e∈(cache.memory.insert digest artifact a).entries at hentry
   rw [hsame] at hentry
   exact h.copies e hentry hdigest

def Hits (key : CacheKey) (digest : CacheDigest) (artifact : ArtifactData)
  (result : CacheLookupResult) : Prop:=
 (result.kind = .memoryHit ∨ result.kind = .diskHit) ∧
  ∃ thumbnail record,result.thumbnail = some thumbnail ∧ thumbnail.artifact = artifact ∧
   thumbnail.indexRecord = some record ∧
   recordMatches record key digest thumbnail.artifact = true

lemma findRecord_done (digest : CacheDigest) (cache : PersistentThumbnailCache):
 cache.findRecord {} digest=(cache.index.records digest,
  { cache with index:={ cache.index with lastErrorEmpty:=true } }) := rfl

section
variable (h:Holds digest source artifact cache)
include h

lemma Holds.lookupResident {key : CacheKey}
 (hsource:key.source=source) (a : ℤ):
 Holds digest source artifact
   (cache.lookupResident {} key digest a artifact).2 ∧
  Hits key digest artifact (cache.lookupResident {} key digest a artifact).1:=by
 obtain ⟨record,hrecord,hrow,hdescribes⟩:=h.row
 have hfound:Holds digest source artifact
   { cache with index:={ cache.index with lastErrorEmpty:=true } }:=
  h.keeps (keeps_same rfl rfl rfl)
 unfold PersistentThumbnailCache.lookupResident
 rw [findRecord_done,hrecord]
 refine ⟨hfound.keeps (keeps_refreshResident a),.inl rfl,_,record,rfl,rfl,rfl,?_⟩
 exact recordMatches_iff.mpr ⟨hrow.trans hsource.symm,hdescribes⟩

lemma Holds.lookupStored {key : CacheKey}
 (hsource:key.source=source) {image : QoiImage}
 (hdecoded:decodedAs l artifact.metadata artifact.payload=.ok image)
 (a : ℤ):
 Holds digest source artifact (cache.lookupStored l {} key digest a).2 ∧
  Hits key digest artifact (cache.lookupStored l {} key digest a).1:=by
 obtain ⟨record,hrecord,hrow,hdescribes⟩:=h.row
 have hfound:Holds digest source artifact
   { cache with index:={ cache.index with lastErrorEmpty:=true } }:=
  h.keeps (keeps_same rfl rfl rfl)
 have hmatches:=recordMatches_iff.mpr ⟨hrow.trans hsource.symm,hdescribes⟩
 unfold PersistentThumbnailCache.lookupStored
 rw [findRecord_done,hrecord]
 dsimp only [PersistentThumbnailCache.lookupArtifact]
 rw [h.stored]
 dsimp only
 rw [hdecoded]
 dsimp only
 rw [if_pos hmatches]
 have hsame:=refreshRecord_same
  { cache with index:={ cache.index with lastErrorEmpty:=true } } {} digest a
  record
 refine ⟨(hfound.keeps (keeps_refreshRecord a record)).insertResident _,.inr rfl,_,
  _,rfl,rfl,rfl,?_⟩
 rw [recordMatches_iff,describesStored_same hsame]
 refine ⟨?_,hdescribes⟩
 rw [hsame]
 exact hrow.trans hsource.symm

lemma Holds.lookup {key : CacheKey} {image : QoiImage}
 (hhash:hashCacheKey l key=some digest) (hsource:key.source=source)
 (hdecoded:decodedAs l artifact.metadata artifact.payload=.ok image)
 (a : ℤ):
 Holds digest source artifact (cache.lookup l {} key a).2 ∧
  ∃ result,(cache.lookup l {} key a).1=some result ∧ Hits key digest artifact result:=by
 have hmemory:Holds digest source artifact
   { cache with memory:=(cache.memory.find digest).2 }:=
  h.keeps (keeps_memory copiesBelow_find)
 have hcases:=memoryFind_cases cache.memory digest
 unfold PersistentThumbnailCache.lookup
 rw [hhash]
 dsimp only
 generalize cache.memory.find digest=found at hmemory hcases ⊢
 obtain ⟨resident,memory⟩:=found
 dsimp only at hmemory hcases ⊢
 cases resident with
 | none=>
  obtain ⟨hnext,hhits⟩:=hmemory.lookupStored hsource hdecoded a
  exact ⟨hnext,_,rfl,hhits⟩
 | some resident=>
  obtain ⟨hfound,-⟩ | ⟨e,hentry,hdigest,hfound,-⟩:=hcases
  · exact absurd hfound nofun
  · obtain rfl : resident=artifact:=
     (Option.some.inj hfound).trans (hmemory.copies e hentry hdigest)
    obtain ⟨hnext,hhits⟩:=hmemory.lookupResident hsource a
    exact ⟨hnext,_,rfl,hhits⟩

lemma Holds.lookupBound {image : QoiImage}
 (hdecoded:decodedAs l artifact.metadata artifact.payload=.ok image)
 (locator : CacheDigest) (a : ℤ):
 Holds digest source artifact
  (cache.lookupBound l {} locator digest a).2:=by
 obtain ⟨record,hrecord,-,hdescribes⟩:=h.row
 have hfound:Holds digest source artifact
   { cache with index:={ cache.index with lastErrorEmpty:=true } }:=
  h.keeps (keeps_same rfl rfl rfl)
 have hmemory:Holds digest source artifact
   { cache with
     index:={ cache.index with lastErrorEmpty:=true }
     memory:=(cache.memory.find digest).2 }:=
  hfound.keeps (keeps_memory copiesBelow_find)
 unfold PersistentThumbnailCache.lookupBound
 rw [findRecord_done,hrecord]
 dsimp only at hmemory ⊢
 generalize cache.memory.find digest=found at hmemory ⊢
 obtain ⟨resident,memory⟩:=found
 dsimp only at hmemory ⊢
 cases resident with
 | some resident=>exact hmemory.keeps (keeps_refreshRecord a record)
 | none=>
  dsimp only [PersistentThumbnailCache.lookupArtifact]
  rw [h.stored]
  dsimp only
  rw [hdecoded]
  dsimp only
  rw [if_pos hdescribes]
  exact (hmemory.keeps (keeps_refreshRecord a record)).insertResident _

lemma Holds.lookupLocator {image : QoiImage}
 (hdecoded:decodedAs l artifact.metadata artifact.payload=.ok image)
 (locator : CacheLocatorKey) (a : ℤ):
 Holds digest source artifact
  (cache.lookupLocator l {} locator a).2:=by
 have hfound:Holds digest source artifact
   { cache with index:={ cache.index with lastErrorEmpty:=true } }:=
  h.keeps (keeps_same rfl rfl rfl)
 unfold PersistentThumbnailCache.lookupLocator
 split
 · exact h
 cases hashCacheLocator l locator with
 | none=>exact h
 | some row=>
  dsimp only
  split
  · exact h
  dsimp only [ArtifactIndex.findLocator,ArtifactIndex.call]
  cases cache.index.locators row with
  | none=>exact hfound
  | some other=>
   by_cases hother:digest=other
   · rw [←hother]
     exact hfound.lookupBound hdecoded row a
   · exact hfound.keeps (keeps_lookupBound hother l row a)

end

lemma holds_of_encoded {r : CachePublishRequest} {faults : Faults}
 {encoded : EncodedArtifact}
 (hencoded:encodeVvt1 r.metadata r.payload digest
  ⟨r.sourceProfileName,r.sourceProfileFingerprint⟩=.ok encoded)
 (hsound:faults.writeArtifact=none → Takes faults.publishRecord →
  Fits cache.memory.limits (artifactOf digest r) ∨ ∀e∈cache.memory.entries,e.digest=digest →
    e.artifact=artifactOf digest r)
 (hpublished:(cache.publishEncoded faults r digest encoded).1.1=true):
 Holds digest r.key.source (artifactOf digest r)
  (cache.publishEncoded faults r digest encoded).2:=by
 obtain ⟨hartifact,hdescribes⟩:=encoded_artifact hencoded
 unfold publishEncoded at hpublished ⊢
 rw [hartifact] at hpublished ⊢
 cases hwrite:faults.writeArtifact with
 | some message=>
  rw [hwrite] at hpublished
  exact absurd hpublished nofun
 | none=>
  rw [hwrite] at hpublished
  dsimp only at hpublished ⊢
  split
  · rename_i htaken
    refine ⟨Function.update_self digest _ _,?_,?_⟩
    · exact ⟨makeRecord r digest encoded,publishRecord_row htaken,rfl,hdescribes⟩
    · intro e hentry hdigest
      obtain ⟨-,hentries⟩ | ⟨hunfit,hkept⟩:=insert_cases cache.memory digest
       (artifactOf digest r) r.accessUnixNs
      · obtain ⟨-,hnew⟩ | ⟨hne,-⟩:=hentries e hentry
        · exact hnew
        · exact absurd hdigest hne
      · obtain hfits | hsame:=hsound hwrite (publish_takes.mp htaken)
        · exact absurd hfits hunfit
        · change e∈(cache.memory.insert digest (artifactOf digest r)
           r.accessUnixNs).entries at hentry
          rw [hkept] at hentry
          exact hsame e hentry hdigest
  · rename_i hfailed
    rw [if_neg hfailed] at hpublished
    split at hpublished
    · exact absurd hpublished nofun
    · exact absurd hpublished nofun

lemma holds_of_published {r : CachePublishRequest} {faults : Faults}
 (hhash:hashCacheKey l r.key=some digest)
 (hsound:ReplacesResident l faults cache r digest)
 (hpublished:(cache.publish l faults r).1.published=true):
 Holds digest r.key.source (artifactOf digest r)
   (cache.publish l faults r).2 ∧
  ∃ image,decodedAs l (artifactOf digest r).metadata
   (artifactOf digest r).payload=.ok image:=by
 unfold PersistentThumbnailCache.publish at hpublished ⊢
 rw [hhash] at hpublished ⊢
 cases hdecoded:decodedAs l r.metadata r.payload with
 | error message=>
  rw [hdecoded] at hpublished
  exact absurd hpublished nofun
 | ok image=>
  rw [hdecoded] at hpublished
  dsimp only at hpublished ⊢
  cases hencoded:encodeVvt1 r.metadata r.payload digest
    ⟨r.sourceProfileName,r.sourceProfileFingerprint⟩ with
  | error error=>
   rw [hencoded] at hpublished
   exact absurd hpublished nofun
  | ok encoded=>
   rw [hencoded] at hpublished
   dsimp only at hpublished ⊢
   refine ⟨?_,image,hdecoded⟩
   exact holds_of_encoded hencoded
    (fun hwrite htakes=>hsound hwrite htakes ⟨image,hdecoded⟩ ⟨encoded,hencoded⟩)
    hpublished

end Holding

section Runs
variable {l libraries : Libraries} {limits : MemoryCacheLimits} {digest : CacheDigest}
 {source : SourceStamp} {artifact : ArtifactData} {cache : PersistentThumbnailCache} {key : CacheKey}

lemma Holds.apply (h:Holds digest source artifact cache) {image : QoiImage}
 (hdecoded:decodedAs l artifact.metadata artifact.payload=.ok image)
 (hhash:hashCacheKey l key=some digest) (hsource:key.source=source)
 {step : Step} (hretains:Retains key step)
 (hfree:∀other∈callKeys step.call,hashCacheKey l other=some digest → other=key):
 Holds digest source artifact (step.apply l cache):=by
 obtain ⟨hfaults,hpublish,herase,hprune⟩:=hretains
 unfold Step.apply
 rw [hfaults]
 cases hcall:step.call with
 | publish r=>
  dsimp only
  cases hrequest:hashCacheKey l r.key with
  | none=>
   rw [publish_unhashed l {} cache hrequest]
   exact h
  | some other=>
   have hother:digest≠other:=by
    rintro rfl
    have hkey:r.key∈callKeys step.call:=by
     rw [hcall]
     exact List.mem_cons_self
    exact hpublish r hcall (hfree r.key hkey hrequest)
   exact h.keeps (keeps_publish hother l hrequest)
 | lookup next a=>
  dsimp only
  cases hnext:hashCacheKey l next with
  | none=>
   rw [PersistentThumbnailCache.lookup,hnext]
   exact h
  | some other=>
   by_cases hother:digest=other
   · rw [←hother] at hnext
     have hkey:next∈callKeys step.call:=by
      rw [hcall]
      exact List.mem_cons_self
     rw [hfree next hkey hnext]
     exact (h.lookup hhash hsource hdecoded a).1
   · exact h.keeps (keeps_lookup hother l hnext a)
 | lookupLocator locator a=>exact h.lookupLocator hdecoded locator a
 | bindLocator locator next=>exact h.keeps (keeps_bindLocator l locator next)
 | eraseLocator locator=>exact h.keeps (keeps_eraseLocator l locator)
 | erase next=>
  dsimp only
  cases hnext:hashCacheKey l next with
  | none=>
   rw [PersistentThumbnailCache.erase,hnext]
   exact h
  | some other=>
   have hother:digest≠other:=by
    rintro rfl
    have hkey:next∈callKeys step.call:=by
     rw [hcall]
     exact List.mem_cons_self
    have hsame:=hfree next hkey hnext
    rw [hsame] at hcall
    exact herase hcall
   exact h.keeps (keeps_erase hother l hnext)
 | prune removal=>exact absurd hcall (hprune removal)
 | restart=>
  exact h.keeps ⟨rfl,fun record hrecord=>⟨record,hrecord,.refl record⟩,
   fun _ h=>(List.not_mem_nil h).elim⟩

lemma Holds.run (h:Holds digest source artifact cache) {image : QoiImage}
 (hdecoded:decodedAs l artifact.metadata artifact.payload=.ok image)
 (hhash:hashCacheKey l key=some digest) (hsource:key.source=source)
 {later : List Step} (hretains:∀step∈later,Retains key step)
 (hfree:∀step∈later,∀other∈callKeys step.call, hashCacheKey l other=some digest → other=key):
 Holds digest source artifact (later.foldl (Step.apply l) cache):=by
 induction later generalizing cache with
 | nil=>exact h
 | cons step later ih=>
  apply ih
  · exact h.apply hdecoded hhash hsource (hretains step List.mem_cons_self)
     (hfree step List.mem_cons_self)
  · exact fun next hnext=>hretains next (List.mem_cons_of_mem step hnext)
  · exact fun next hnext=>hfree next (List.mem_cons_of_mem step hnext)

variable {steps : List Step}

lemma publications_kept (hfree:CollisionFree l steps)
 (hsound:SoundRun l limits steps) : PublicationsKept l limits steps:=by
 intro before step later last after r a hsplit hcall hpublished hretains hlast
 have hmem:step∈steps:=by
  rw [hsplit]
  exact List.mem_append_right before List.mem_cons_self
 have hlater:∀next∈later,next∈steps:=by
  intro next hnext
  rw [hsplit]
  exact List.mem_append_right before
   (List.mem_cons_of_mem step (List.mem_append_left (last::after) hnext))
 have hkey:r.key∈callKeys step.call:=by
  rw [hcall]
  exact List.mem_cons_self
 have hsoundStep:=hsound before step _ hsplit
 unfold SoundStep at hsoundStep
 rw [hcall] at hsoundStep
 cases hhash:hashCacheKey l r.key with
 | none=>
  unfold PersistentThumbnailCache.publish at hpublished
  rw [hhash] at hpublished
  cases hdecoded:decodedAs l r.metadata r.payload with
  | error message=>
   rw [hdecoded] at hpublished
   exact absurd hpublished nofun
  | ok image=>
   rw [hdecoded] at hpublished
   exact absurd hpublished nofun
 | some digest=>
  obtain ⟨hholds,image,hdecoded⟩:=holds_of_published hhash (hsoundStep digest hhash)
   hpublished
  have hrun:=hholds.run hdecoded hhash rfl hretains fun next hnext other hother hdigest =>
   key_of_digest hfree (hlater next hnext) hmem hother hkey hdigest hhash
  have hstate:run l limits (before++step::later)=later.foldl (Step.apply l)
     ((run l limits before).publish l step.faults r).2:=by
   rw [run,List.foldl_append,List.foldl_cons,Step.apply.eq_def,hcall]
   rfl
  obtain ⟨-,result,hresult,hkind,thumbnail,record,hhits⟩:=hrun.lookup hhash rfl hdecoded a
  rw [←hstate] at hresult
  exact ⟨digest,result,thumbnail,record,rfl,hresult,hkind,hhits⟩

end Runs

lemma soundRun_nil (l : Libraries) (limits : MemoryCacheLimits) : SoundRun l limits []:=
 fun before _ _ h=>absurd h.symm (List.append_ne_nil_of_right_ne_nil before nofun)

lemma soundRun_append {l : Libraries} {limits : MemoryCacheLimits} {steps : List Step}
 {step : Step} (h:SoundRun l limits steps)
 (hstep:SoundStep l (run l limits steps) step):
 SoundRun l limits (steps++[step]):=by
 intro before next after hsplit
 obtain rfl | ⟨after,last,rfl⟩:=after.eq_nil_or_concat
 · obtain ⟨rfl,hlast⟩:=List.append_inj' hsplit rfl
   obtain rfl:=(List.cons.inj hlast).1
   exact hstep
 · rw [List.concat_eq_append,←List.cons_append,←List.append_assoc] at hsplit
   exact h before next after (List.append_inj' hsplit rfl).1

/-- While no step leaves an artifact in memory under the record of another one, a run serves
neither a wrong nor a stale artifact. -/
theorem never_wrong_of_sound (libraries : Libraries) (limits : MemoryCacheLimits)
 (steps : List Step) (hfree:CollisionFree libraries steps)
 (hsound:SoundRun libraries limits steps) : NeverWrong libraries limits steps:=
 ⟨lookups_truthful hfree hsound,locators_truthful hfree hsound,publications_kept hfree hsound⟩

section Pairs
variable {l libraries : Libraries} {steps : List Step} {key : CacheKey} {locator : CacheLocatorKey}

lemma serialized_pair {bytes : Bytes}
 (hkeys:∀step∈steps,∀used∈callKeys step.call,used=key)
 (hlocators:∀step∈steps,∀used∈callLocators step.call,used=locator)
 (h:Serialized steps bytes) : bytes=keyPayload key ∨ bytes=locatorPayload locator:=by
 obtain ⟨step,hstep,⟨used,hused,hbytes⟩ | ⟨used,hused,hbytes⟩⟩:=h
 · left
   rw [hkeys step hstep used hused] at hbytes
   exact (fit_of_serialized hbytes).2.symm
 · right
   rw [hlocators step hstep used hused] at hbytes
   exact (fit_of_serialized hbytes).2.symm

lemma collisionFree_pair
 (hdistinct:l.sha256 (keyPayload key)≠l.sha256 (locatorPayload locator))
 (hkeys:∀step∈steps,∀used∈callKeys step.call,used=key)
 (hlocators:∀step∈steps,∀used∈callLocators step.call,used=locator):
 CollisionFree l steps:=by
 intro bytes bytes' hbytes hbytes' hsame
 obtain rfl | rfl:=serialized_pair hkeys hlocators hbytes
 · obtain rfl | rfl:=serialized_pair hkeys hlocators hbytes'
   · rfl
   · exact absurd hsame hdistinct
 · obtain rfl | rfl:=serialized_pair hkeys hlocators hbytes'
   · exact absurd hsame.symm hdistinct
   · rfl

end Pairs

def photoKey : CacheKey := { source:=photo,handlerId:=utf8 "jpeg" }
def photoLocator : CacheLocatorKey := { catalogSource:=photo }

def photoKeyDigest : CacheDigest:=
 ⟨[0xc7,0x8c,0xfc,0xe1,0xa5,0x91,0x28,0xf0,0xaf,0x66,0xab,0x3c,0x8f,0x9b,0x4e,0x4f,
   0x12,0x31,0xda,0x13,0xbc,0xe5,0x67,0x3b,0xa6,0x92,0x37,0x4c,0x84,0xe0,0x9c,0x81],rfl⟩

def photoLocatorDigest : CacheDigest:=
 ⟨[0xd3,0x2e,0x4a,0xe2,0x76,0x38,0x8f,0x72,0x2f,0x41,0x5e,0x37,0x0c,0x2d,0x5c,0xc5,
   0x96,0x5b,0x02,0x4f,0x58,0x3e,0xf4,0x37,0x90,0xc7,0x81,0x80,0x46,0x36,0xf3,0xcb],rfl⟩

/-- One opaque pixel: a run of the first pixel, and a pixel of its own. -/
def blackPixel : Bytes := utf8 "qoif" ++ [0,0,0,1,0,0,0,1,4,0,0xc0,0,0,0,0,0,0,0,1]
def redPixel : Bytes := utf8 "qoif" ++ [0,0,0,1,0,0,0,1,4,0,0xff,255,0,0,255,0,0,0,0,0,0,0,1]

/-- The libraries, where a photo and its two previews ask them. -/
def photoLibraries : Libraries where
 sha256:=fun bytes =>
  if bytes = keyPayload photoKey then photoKeyDigest else photoLocatorDigest
 qoiDecode:=fun bytes =>
  if bytes = blackPixel then some ⟨1,1,[0,0,0,255]⟩
  else if bytes = redPixel then some ⟨1,1,[255,0,0,255]⟩
  else none

def photoRequest (payload : Bytes) : CachePublishRequest where
 key:=photoKey
 metadata:={ width:=1,height:=1,sourceColorModel:=.rgb }
 payload:=payload

/-- The second preview does not fit the memory that the first one takes up. -/
def unfitSteps : List Step:=
 [{ call:=.publish (photoRequest blackPixel) },{ call:=.publish (photoRequest redPixel) }]

def unfitLimits : MemoryCacheLimits := { maximumBytes:=kVvt1HeaderBytes+23 }

/-- The first preview is served with the record of the second. -/
def staleThumbnail : CachedThumbnail where
 artifact:=artifactOf photoKeyDigest (photoRequest blackPixel)
 indexRecord:=some (recordFromArtifact photoKey photoKeyDigest
  (artifactOf photoKeyDigest (photoRequest redPixel)) 0)

lemma unfit_served : ((run photoLibraries unfitLimits unfitSteps).lookup photoLibraries {}
 photoKey 0).1=some { kind:=.memoryHit,thumbnail:=some staleThumbnail }:=by
 decide +kernel

lemma collisionFree_photo {steps : List Step}
 (hkeys:∀step∈steps,∀key∈callKeys step.call,key=photoKey)
 (hlocators:∀step∈steps,∀locator∈callLocators step.call,locator=photoLocator):
 CollisionFree photoLibraries steps:=by
 have hdistinct:photoLibraries.sha256 (keyPayload photoKey) ≠
   photoLibraries.sha256 (locatorPayload photoLocator):=by
  decide +kernel
 exact collisionFree_pair hdistinct hkeys hlocators

def photoSteps : List Step:=
 [{ call:=.publish (photoRequest blackPixel) },{ call:=.bindLocator photoLocator photoKey },
  { call:=.lookupLocator photoLocator 0 },{ call:=.lookup photoKey 0 }]

lemma photoSteps_sound : SoundRun photoLibraries {} photoSteps:=by
 have hfound:((run photoLibraries {} photoSteps.dropLast).index.find .done
   photoKeyDigest).1.isSome=true:=by
  decide +kernel
 have hpublish:SoundStep photoLibraries (run photoLibraries {} [])
   { call:=.publish (photoRequest blackPixel) }:=
  fun _ _ _ _ _ _=>.inr nofun
 have hlookup:SoundStep photoLibraries (run photoLibraries {} photoSteps.dropLast)
   { call:=.lookup photoKey 0 }:=by
  intro digest hhash resident _ stored hnone
  have hdigest:hashCacheKey photoLibraries photoKey=some photoKeyDigest:=by
   decide +kernel
  obtain rfl:=Option.some.inj (hhash.symm.trans hdigest)
  rw [hnone] at hfound
  exact absurd hfound nofun
 have hpublished:SoundRun photoLibraries {} _:=
  soundRun_append (soundRun_nil photoLibraries {}) hpublish
 have hbound:SoundRun photoLibraries {} (_++[{ call:=.bindLocator photoLocator photoKey }]):=
  soundRun_append hpublished trivial
 have hserved:SoundRun photoLibraries {} (_++[{ call:=.lookupLocator photoLocator 0 }]):=
  soundRun_append hbound trivial
 exact soundRun_append hserved hlookup

theorem never_wrong_of_sound_photo : NeverWrong photoLibraries {} photoSteps:=by
 refine never_wrong_of_sound photoLibraries {} photoSteps (collisionFree_photo ?_ ?_)
  photoSteps_sound
 · decide
 · decide

/-- The resident preview that was not replaced is served under the record of the new one. -/
theorem unfit_not_truthful : ¬∀libraries limits steps,CollisionFree libraries steps →
 NeverWrong libraries limits steps:=by
 intro h
 have hfree:CollisionFree photoLibraries (unfitSteps++[{ call:=.lookup photoKey 0 }]):=by
  apply collisionFree_photo
  · decide
  · decide
 have hserves:=(h photoLibraries unfitLimits _ hfree).1 unfitSteps
  { call:=.lookup photoKey 0 } [] photoKey 0 photoKeyDigest
  { kind:=.memoryHit,thumbnail:=some staleThumbnail } staleThumbnail rfl rfl
  (by decide +kernel) unfit_served rfl
 have hmatches:=hserves.record _ rfl
 revert hmatches
 decide +kernel

end VoVe.ThumbnailCacheKept
