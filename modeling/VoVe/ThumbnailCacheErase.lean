import VoVe.ThumbnailCacheKept

set_option autoImplicit false

namespace VoVe.ThumbnailCacheErase
open AsciiText CacheKeys ArtifactCodec ThumbnailCache
open ThumbnailCache.PersistentThumbnailCache ThumbnailCacheRules ThumbnailCacheTruth

variable {artifact : ArtifactData} {s spared : CacheDigest → Prop} {loc locator : CacheLocatorKey}
 {key key' : CacheKey}

section Quiet
variable {s spared : CacheDigest → Prop} {digest other : CacheDigest} {f faults : Faults}
 {cache next last : PersistentThumbnailCache}

structure Gone (digest : CacheDigest) (cache : PersistentThumbnailCache) : Prop where
 stored : cache.artifacts digest=none
 resident : ∀entry∈cache.memory.entries,entry.digest≠digest

lemma Gone.below (h:Gone digest cache) (hbelow:Below cache next) : Gone digest next:=by
 constructor
 · cases hnext:next.artifacts digest with
   | none=>rfl
   | some artifact=>
    have hcache:=hbelow.artifacts digest artifact hnext
    rw [h.stored] at hcache
    exact absurd hcache nofun
 · intro entry hentry
   obtain ⟨before,hbefore,hsame,-⟩:=hbelow.copies entry hentry
   rw [←hsame]
   exact h.resident before hbefore

/-- No row of a locator appears, the barriers of the locators stay, and an artifact that is gone
does not come back, for the digests that are spared. -/
structure Quiet (spared : CacheDigest → Prop) (cache next : PersistentThumbnailCache) : Prop where
 locators : ∀row target,next.index.locators row=some target →
  cache.index.locators row=some target
 revoked : next.revokedLocators=cache.revokedLocators
 disabled : next.offlineLookupDisabled=cache.offlineLookupDisabled
 gone : ∀digest,spared digest → Gone digest cache → Gone digest next

lemma quiet_of_below (h:Below cache next)
 (hrevoked:next.revokedLocators=cache.revokedLocators)
 (hdisabled:next.offlineLookupDisabled=cache.offlineLookupDisabled):
 Quiet s cache next:=
 ⟨h.rows.locators,hrevoked,hdisabled,fun _ _ hgone=>hgone.below h⟩

lemma Quiet.refl (s : CacheDigest → Prop) (cache : PersistentThumbnailCache):
 Quiet s cache cache:=
 ⟨fun _ _ h=>h,rfl,rfl,fun _ _ h=>h⟩

lemma Quiet.trans (h:Quiet s cache next) (hnext:Quiet s next last) : Quiet s cache last:=
 ⟨fun row target hlast=>h.locators row target (hnext.locators row target hlast),
  hnext.revoked.trans h.revoked,hnext.disabled.trans h.disabled,
  fun digest hspared hgone=>hnext.gone digest hspared (h.gone digest hspared hgone)⟩

lemma quiet_memory {memory : MemoryArtifactCache} (h:CopiesBelow cache.memory memory):
 Quiet s cache { cache with memory:=memory }:=
 quiet_of_below (below_memory h) rfl rfl

lemma quiet_findRecord : Quiet s cache (cache.findRecord f other).2:=
 quiet_of_below (below_findRecord cache f other) rfl rfl

lemma quiet_eraseRecord : Quiet s cache (cache.eraseRecord f other).2:=
 quiet_of_below (below_eraseRecord cache f other) rfl rfl

lemma quiet_publishRecord (cache : PersistentThumbnailCache) (f : Faults)
 (record : ArtifactIndexRecord):
 Quiet s cache (cache.publishRecord f record).2:=by
 refine ⟨?_,rfl,rfl,fun _ _ hgone=>⟨hgone.stored,hgone.resident⟩⟩
 intro row target htarget
 obtain ⟨-,hbelow⟩ | ⟨-,left,hleft,-,hlocators⟩:=publish_cases f.publishRecord cache.index record
 · exact hbelow.locators row target htarget
 · change (cache.index.publish f.publishRecord record).2.locators row=some target at htarget
   rw [hlocators] at htarget
   exact hleft.locators row target htarget

lemma quiet_removeArtifact (cache : PersistentThumbnailCache) (f : Faults)
 (other : CacheDigest) : Quiet s cache (cache.removeArtifact f other).2:=by
 apply quiet_of_below (below_removeArtifact cache f other)
 · unfold removeArtifact
   cases f.removeArtifact<;>rfl
 · unfold removeArtifact
   cases f.removeArtifact<;>rfl

lemma Gone.ne (hgone:Gone digest cache) {artifact : ArtifactData}
 (hstored:cache.artifacts other=some artifact) : other≠digest:=by
 intro hsame
 rw [hsame,hgone.stored] at hstored
 exact absurd hstored nofun

lemma quiet_insertResident (hstored:cache.artifacts other=some artifact) (a : ℤ):
 Quiet s cache (cache.insertResident other artifact a):=by
 refine ⟨fun _ _ h=>h,rfl,rfl,fun digest _ hgone=>⟨hgone.stored,?_⟩⟩
 intro entry hentry
 obtain ⟨-,hentries⟩ | ⟨-,hsame⟩:=insert_cases cache.memory other artifact a
 · obtain ⟨hnew,-⟩ | ⟨-,hold⟩:=hentries entry hentry
   · rw [hnew]
     exact hgone.ne hstored
   · exact hgone.resident entry hold
 · change entry∈(cache.memory.insert other artifact a).entries at hentry
   rw [hsame] at hentry
   exact hgone.resident entry hentry

lemma quiet_refreshRecord (a : ℤ) (record : ArtifactIndexRecord):
 Quiet s cache (cache.refreshRecord f other a record).2:=by
 apply quiet_of_below (below_refreshRecord cache f other a record)
 · unfold refreshRecord
   split<;>rfl
 · unfold refreshRecord
   split<;>rfl

lemma quiet_refreshResident (a : ℤ) : Quiet s cache (cache.refreshResident f other a):=by
 have hbarriers:(cache.refreshResident f other a).revokedLocators=cache.revokedLocators ∧
   (cache.refreshResident f other a).offlineLookupDisabled=cache.offlineLookupDisabled:=by
  unfold refreshResident
  cases cache.memory.persistedAccess other with
  | none=>exact ⟨rfl,rfl⟩
  | some persisted=>
   dsimp only
   split
   · split<;>exact ⟨rfl,rfl⟩
   · exact ⟨rfl,rfl⟩
 exact quiet_of_below (below_refreshResident a) hbarriers.1 hbarriers.2

lemma quiet_dropBinding (loc : CacheDigest) : Quiet s cache (cache.dropBinding f loc other):=
 quiet_of_below (below_dropBinding cache f loc other) rfl rfl

lemma quiet_dropMalformed (indexed : Bool):
 Quiet s cache (cache.dropMalformed f other indexed).2:=by
 have hremoved:Quiet s cache (cache.removeArtifact f other).2:=quiet_removeArtifact cache f other
 unfold dropMalformed
 generalize cache.removeArtifact f other=removal at hremoved ⊢
 match removal with
 | (.error m,next)=>exact hremoved
 | (.ok _,next)=>
  dsimp only at hremoved ⊢
  split
  · split
    · exact hremoved.trans quiet_eraseRecord
    · exact hremoved.trans quiet_eraseRecord
  · exact hremoved

lemma quiet_recoverStored (hstored:cache.artifacts other=some artifact) (key : CacheKey)
 (a : ℤ) (image : QoiImage):
 Quiet s cache (cache.recoverStored f key other a artifact image).2:=by
 have hpublished:Quiet s cache (cache.publishRecord f
   (recordFromArtifact key other artifact a)).2:=
  quiet_publishRecord cache f _
 have hkept:(cache.publishRecord f
   (recordFromArtifact key other artifact a)).2.artifacts other=some artifact:=
  hstored
 unfold recoverStored
 dsimp only
 split
 · exact hpublished.trans (quiet_insertResident hkept _)
 · exact hpublished

lemma quiet_refreshed (hstored:cache.artifacts other=some artifact) (a : ℤ)
 (image : QoiImage) (record : ArtifactIndexRecord):
 let used:=cache.refreshRecord f other a record
 Quiet s cache (used.2.hitStored other artifact image used.1).2:=by
 have hsame:(cache.refreshRecord f other a record).2.artifacts=cache.artifacts:=by
  unfold refreshRecord
  split<;>rfl
 refine (quiet_refreshRecord a record).trans (quiet_insertResident ?_ _)
 rw [hsame]
 exact hstored

lemma quiet_lookupResident (key : CacheKey) (a : ℤ) (resident : ArtifactData):
 Quiet s cache (cache.lookupResident f key other a resident).2:=by
 have hfound:Quiet s cache (cache.findRecord f other).2:=quiet_findRecord
 unfold lookupResident
 generalize cache.findRecord f other=found at hfound ⊢
 obtain ⟨record,next⟩:=found
 dsimp only at hfound ⊢
 cases record with
 | some record=>exact hfound.trans (quiet_refreshResident a)
 | none=>
  dsimp only
  cases next.lookupArtifact f other with
  | error m=>exact hfound.trans (quiet_memory copiesBelow_erase)
  | ok stored=>
   cases stored with
   | none=>exact hfound.trans (quiet_memory copiesBelow_erase)
   | some stored=>
    have hpublished:Quiet s cache (next.publishRecord f
      (recordFromArtifact key other stored a)).2:=
     hfound.trans (quiet_publishRecord next f _)
    dsimp only
    split
    · exact hpublished.trans (quiet_refreshResident a)
    · exact hpublished

variable (l : Libraries)

lemma quiet_lookupStored (key : CacheKey) (a : ℤ):
 Quiet s cache (cache.lookupStored l f key other a).2:=by
 have hfound:Quiet s cache (cache.findRecord f other).2:=quiet_findRecord
 unfold lookupStored
 generalize cache.findRecord f other=found at hfound ⊢
 obtain ⟨record,next⟩:=found
 dsimp only at hfound ⊢
 cases hlookup:next.lookupArtifact f other with
 | error m=>exact hfound
 | ok stored=>
  cases stored with
  | none=>
   dsimp only
   split
   · split
     · exact hfound.trans quiet_eraseRecord
     · exact hfound.trans quiet_eraseRecord
   · exact hfound
  | some artifact=>
   obtain ⟨-,hstored⟩:=lookupArtifact_some hlookup
   dsimp only
   cases decodedAs l artifact.metadata artifact.payload with
   | error m=>exact hfound.trans (quiet_dropMalformed record.isSome)
   | ok image=>
    have hrecovered:Quiet s cache
      (next.recoverStored f key other a artifact image).2:=
     hfound.trans (quiet_recoverStored hstored key a image)
    cases record with
    | none=>exact hrecovered
    | some record=>
     dsimp only
     split
     · exact hfound.trans (quiet_refreshed hstored a image record)
     · exact hrecovered

lemma quiet_lookup (f : Faults) (s : CacheDigest → Prop)
 (cache : PersistentThumbnailCache) (key : CacheKey) (a : ℤ):
 Quiet s cache (cache.lookup l f key a).2:=by
 unfold lookup
 cases hashCacheKey l key with
 | none=>exact .refl s cache
 | some other=>
  have hmemory:Quiet s cache { cache with memory:=(cache.memory.find other).2 }:=
   quiet_memory copiesBelow_find
  dsimp only
  generalize cache.memory.find other=found at hmemory ⊢
  obtain ⟨resident,memory⟩:=found
  cases resident with
  | none=>exact hmemory.trans (quiet_lookupStored l key a)
  | some resident=>exact hmemory.trans (quiet_lookupResident key a resident)

lemma quiet_lookupBound (loc : CacheDigest) (a : ℤ):
 Quiet s cache (cache.lookupBound l f loc other a).2:=by
 have hfound:Quiet s cache (cache.findRecord f other).2:=quiet_findRecord
 unfold lookupBound
 generalize cache.findRecord f other=found at hfound ⊢
 obtain ⟨record,next⟩:=found
 dsimp only at hfound ⊢
 cases record with
 | none=>exact hfound.trans (quiet_of_below (below_eraseLocatorRow loc) rfl rfl)
 | some record=>
  have hmemory:Quiet s next { next with memory:=(next.memory.find other).2 }:=
   quiet_memory copiesBelow_find
  dsimp only
  generalize next.memory.find other=found at hmemory ⊢
  obtain ⟨resident,memory⟩:=found
  have hnext:=hfound.trans hmemory
  cases resident with
  | some resident=>exact hnext.trans (quiet_refreshRecord a record)
  | none=>
   dsimp only at hnext ⊢
   cases hlookup:lookupArtifact f { next with memory:=memory } other with
   | error m=>exact hnext.trans (quiet_dropBinding loc)
   | ok stored=>
    cases stored with
    | none=>exact hnext.trans (quiet_dropBinding loc)
    | some artifact=>
     obtain ⟨-,hstored⟩:=lookupArtifact_some hlookup
     have hremoved:Quiet s cache ((removeArtifact f
       { next with memory:=memory } other).2.dropBinding f loc other):=
      (hnext.trans (quiet_removeArtifact _ f other)).trans (quiet_dropBinding loc)
     dsimp only
     cases decodedAs l artifact.metadata artifact.payload with
     | error m=>exact hremoved
     | ok image=>
      dsimp only
      split
      · exact hnext.trans (quiet_refreshed hstored a image record)
      · exact hremoved

lemma quiet_lookupLocator (f : Faults) (s : CacheDigest → Prop)
 (cache : PersistentThumbnailCache) (loc : CacheLocatorKey) (a : ℤ):
 Quiet s cache (cache.lookupLocator l f loc a).2:=by
 unfold lookupLocator
 split
 · exact .refl s cache
 cases hashCacheLocator l loc with
 | none=>exact .refl s cache
 | some row=>
  have hfound:Quiet s cache
    { cache with index:=(cache.index.findLocator f.findLocator row).2 }:=
   quiet_of_below (below_index (rowsBelow_findLocator row)) rfl rfl
  dsimp only
  split
  · exact .refl s cache
  generalize cache.index.findLocator f.findLocator row=found at hfound ⊢
  obtain ⟨target,index⟩:=found
  cases target with
  | none=>exact hfound
  | some target=>exact hfound.trans (quiet_lookupBound l row a)

lemma quiet_publish (f : Faults)
 (cache : PersistentThumbnailCache) {r : CachePublishRequest}
 (hhash:hashCacheKey l r.key=some other):
 Quiet (·≠other) cache (cache.publish l f r).2:=by
 unfold PersistentThumbnailCache.publish
 rw [hhash]
 cases decodedAs l r.metadata r.payload with
 | error m=>exact .refl _ cache
 | ok image=>
  dsimp only
  cases encodeVvt1 r.metadata r.payload other
    ⟨r.sourceProfileName,r.sourceProfileFingerprint⟩ with
  | error error=>exact .refl _ cache
  | ok encoded=>
   dsimp only
   unfold publishEncoded
   cases f.writeArtifact with
   | some m=>exact .refl _ cache
   | none=>
    have hwritten (artifact : ArtifactData) : Quiet (·≠other) cache
      { cache with artifacts:=Function.update cache.artifacts other (some artifact) }:=by
     refine ⟨fun _ _ h=>h,rfl,rfl,fun digest hdigest hgone=>⟨?_,hgone.resident⟩⟩
     exact (Function.update_of_ne hdigest _ _).trans hgone.stored
    have hpublished (artifact : ArtifactData):=
     (hwritten artifact).trans
      (quiet_publishRecord _ f (makeRecord r other encoded))
    dsimp only
    split
    · exact (hpublished _).trans (quiet_insertResident (Function.update_self other _ _) _)
    · have hremoved (artifact : ArtifactData):=(hpublished artifact).trans
       (quiet_removeArtifact _ f other)
      split
      · exact hremoved _
      · exact hremoved _

end Quiet

section Misses
variable {l libraries : Libraries} {digest row : CacheDigest} {f faults : Faults}
 {cache : PersistentThumbnailCache} {a accessUnixNs : ℤ}

lemma memoryFind_gone (h:Gone digest cache) : (cache.memory.find digest).1=none:=by
 obtain ⟨hnone,-⟩ | ⟨entry,hentry,hdigest,-,-⟩:=memoryFind_cases cache.memory digest
 · exact hnone
 · obtain ⟨before,hbefore,hsame,-⟩:=copiesBelow_find entry hentry
   exact absurd (hsame.trans hdigest) (h.resident before hbefore)

lemma lookupArtifact_none (f : Faults) (h:cache.artifacts digest=none):
 (∃ m,cache.lookupArtifact f digest=.error m) ∨ cache.lookupArtifact f digest=.ok none:=by
 unfold PersistentThumbnailCache.lookupArtifact
 cases f.lookupArtifact with
 | some m=>exact .inl ⟨m,rfl⟩
 | none=>
  rw [h]
  exact .inr rfl

lemma lookupStored_gone (l : Libraries) (h:cache.artifacts digest=none)
 (key : CacheKey):
 (cache.lookupStored l f key digest a).1.thumbnail=none:=by
 have hfound:(cache.findRecord f digest).2.artifacts digest=none:=h
 unfold PersistentThumbnailCache.lookupStored
 generalize cache.findRecord f digest=found at hfound ⊢
 obtain ⟨record,next⟩:=found
 dsimp only at hfound ⊢
 obtain ⟨m,herror⟩ | hnone:=lookupArtifact_none f hfound
 · rw [herror]
 · rw [hnone]
   dsimp only
   split
   · split<;>rfl
   · rfl

lemma lookup_gone (h:Gone digest cache) {key : CacheKey}
 (hhash:hashCacheKey l key=some digest) (result : CacheLookupResult)
 (hresult:(cache.lookup l f key a).1=some result):
 result.thumbnail=none:=by
 have hfind:=memoryFind_gone h
 unfold PersistentThumbnailCache.lookup at hresult
 rw [hhash] at hresult
 dsimp only at hresult
 rw [hfind] at hresult
 rw [←Option.some.inj hresult]
 have hstored:{ cache with memory:=(cache.memory.find digest).2 }.artifacts digest=none:=h.stored
 exact lookupStored_gone l hstored key

lemma lookupBound_gone (l : Libraries) (h:Gone digest cache) (loc : CacheDigest):
 (cache.lookupBound l f loc digest a).1.thumbnail=none:=by
 have hfound:Gone digest (cache.findRecord f digest).2:=⟨h.stored,h.resident⟩
 unfold PersistentThumbnailCache.lookupBound
 generalize cache.findRecord f digest=found at hfound ⊢
 obtain ⟨record,next⟩:=found
 cases record with
 | none=>rfl
 | some record=>
  have hfind:=memoryFind_gone hfound
  dsimp only at hfind ⊢
  rw [hfind]
  dsimp only
  have hstored:{ next with memory:=(next.memory.find digest).2 }.artifacts digest=none:=
   hfound.stored
  obtain ⟨m,herror⟩ | hnone:=lookupArtifact_none f hstored
  · rw [herror]
  · rw [hnone]

lemma lookupLocator_gone (h:Gone digest cache) {loc : CacheLocatorKey}
 (hrows:∀row target,hashCacheLocator l loc=some row →
  cache.index.locators row=some target → target=digest)
 (result : CacheLookupResult)
 (hresult:(cache.lookupLocator l f loc a).1=some result):
 result.thumbnail=none:=by
 unfold PersistentThumbnailCache.lookupLocator at hresult
 split at hresult
 · rw [←Option.some.inj hresult]
 cases hhash:hashCacheLocator l loc with
 | none=>
  rw [hhash] at hresult
  exact absurd hresult.symm (Option.some_ne_none result)
 | some row=>
  rw [hhash] at hresult
  dsimp only at hresult
  split at hresult
  · rw [←Option.some.inj hresult]
  cases hfound:(cache.index.findLocator f.findLocator row).1 with
  | none=>
   rw [hfound] at hresult
   rw [←Option.some.inj hresult]
  | some target=>
   rw [hfound] at hresult
   rw [←Option.some.inj hresult]
   have hgone:Gone target
     { cache with index:=(cache.index.findLocator f.findLocator row).2 }:=by
    rw [hrows row target hhash (findLocator_some hfound)]
    exact ⟨h.stored,h.resident⟩
   exact lookupBound_gone l hgone row

def Barred (row : CacheDigest) (cache : PersistentThumbnailCache) : Prop:=
 cache.revokedLocators row = true ∨ cache.index.locators row = none

lemma Barred.quiet {next : PersistentThumbnailCache} (h:Barred row cache)
 (hquiet:Quiet s cache next) : Barred row next:=by
 unfold Barred at h ⊢
 rw [hquiet.revoked]
 apply h.imp_right
 intro hnone
 cases hnext:next.index.locators row with
 | none=>rfl
 | some target=>
  rw [hquiet.locators row target hnext] at hnone
  exact absurd hnone nofun

lemma lookupLocator_barred (hhash:hashCacheLocator l loc=some row)
 (h:Barred row cache):
 (cache.lookupLocator l f loc a).1=some {}:=by
 unfold PersistentThumbnailCache.lookupLocator
 rw [hhash]
 split
 · rfl
 · dsimp only
   split
   · rfl
   · rename_i hinspected
     obtain hrevoked | hnone:=h
     · rw [locatorIsRevoked,hrevoked,Bool.or_true] at hinspected
       exact absurd rfl hinspected
     · have hfound:(cache.index.findLocator f.findLocator row).1=none:=by
        cases hsome:(cache.index.findLocator f.findLocator row).1 with
        | none=>rfl
        | some target=>
         rw [findLocator_some hsome] at hnone
         exact absurd hnone nofun
       rw [hfound]

lemma lookupLocator_disabled (l : Libraries) (h:cache.offlineLookupDisabled=true)
 (loc : CacheLocatorKey):
 (cache.lookupLocator l f loc a).1=some {}:=by
 unfold PersistentThumbnailCache.lookupLocator
 rw [if_pos h]

end Misses

section Barriers
variable {l libraries : Libraries} {row : CacheDigest} {f faults : Faults}
 {cache : PersistentThumbnailCache} {loc locator : CacheLocatorKey}

lemma removeLocatorRevocation_index (cache : PersistentThumbnailCache) (f : Faults)
 (row : CacheDigest) : (cache.removeLocatorRevocation f row).2.index=cache.index:=by
 unfold removeLocatorRevocation
 cases f.removeFence<;>rfl

lemma eraseLocatorRow_absent (f : Faults)
 (h:(cache.eraseLocatorRow f row).1=true ∨
  (cache.eraseLocatorRow f row).2.index.lastErrorEmpty=true):
 (cache.eraseLocatorRow f row).2.index.locators row=none:=by
 unfold eraseLocatorRow ArtifactIndex.eraseLocator at h ⊢
 cases hfault:f.eraseLocator with
 | done=>exact Function.update_self row _ _
 | recovered=>exact Function.update_self row _ _
 | failed=>
  rw [hfault] at h
  obtain h | h:=h
  · exact absurd h nofun
  · exact absurd h nofun
 | recoveredFailed=>rfl

lemma persistLocatorRevocation_fenced
 (h:(cache.persistLocatorRevocation f row).1=true):
 (cache.persistLocatorRevocation f row).2.revokedLocators row=true:=by
 unfold persistLocatorRevocation at h ⊢
 cases hfault:f.persistFence with
 | failed=>
  rw [hfault] at h
  exact absurd h nofun
 | done=>exact Function.update_self row _ _
 | unconfirmed=>exact Function.update_self row _ _

lemma persistLocatorRevocation_keeps (f : Faults) (other : CacheDigest)
 (h:cache.revokedLocators row=true):
 (cache.persistLocatorRevocation f other).2.revokedLocators row=true:=by
 have hfenced:Function.update cache.revokedLocators other true row=true:=by
  by_cases hother:row=other
  · rw [hother,Function.update_self]
  · rw [Function.update_of_ne hother]
    exact h
 unfold persistLocatorRevocation
 cases f.persistFence with
 | failed=>exact h
 | done=>exact hfenced
 | unconfirmed=>exact hfenced

lemma removeLocatorRevocation_keeps (f : Faults) {other : CacheDigest} (hother:row≠other)
 (h:cache.revokedLocators row=true):
 (cache.removeLocatorRevocation f other).2.revokedLocators row=true:=by
 have hfenced:Function.update cache.revokedLocators other false row=true:=by
  rw [Function.update_of_ne hother]
  exact h
 unfold removeLocatorRevocation
 cases f.removeFence with
 | failed=>exact h
 | done=>exact hfenced
 | unconfirmed=>exact hfenced

lemma eraseLocator_fenced (hhash:hashCacheLocator l loc=some row)
 (hfence:(cache.persistLocatorRevocation f row).2.revokedLocators row=true):
 Barred row (cache.eraseLocator l f loc).2:=by
 unfold PersistentThumbnailCache.eraseLocator
 rw [hhash]
 dsimp only
 split
 · rename_i hremoved
   right
   rw [removeLocatorRevocation_index]
   exact eraseLocatorRow_absent f hremoved
 · left
   split
   · exact hfence
   · exact hfence

lemma eraseLocator_erased (cache : PersistentThumbnailCache) (f : Faults)
 (hhash:hashCacheLocator l loc=some row):
 (cache.eraseLocator l f loc).2.offlineLookupDisabled=true ∨
  Barred row (cache.eraseLocator l f loc).2:=by
 by_cases hfenced:(cache.persistLocatorRevocation f row).1=true
 · exact .inr (eraseLocator_fenced hhash (persistLocatorRevocation_fenced hfenced))
 · unfold PersistentThumbnailCache.eraseLocator
   rw [hhash]
   dsimp only
   split
   · rename_i hremoved
     right
     right
     rw [removeLocatorRevocation_index]
     exact eraseLocatorRow_absent f hremoved
   · exact .inl rfl

lemma eraseLocator_keeps (l : Libraries) (f : Faults) (loc : CacheLocatorKey)
 (h:Barred row cache) : Barred row (cache.eraseLocator l f loc).2:=by
 obtain hrevoked | hnone:=h
 · unfold PersistentThumbnailCache.eraseLocator
   cases hhash:hashCacheLocator l loc with
   | none=>exact .inl hrevoked
   | some other=>
    have hfence:=persistLocatorRevocation_keeps f other hrevoked
    by_cases hother:row=other
    · rw [←hother] at hhash hfence
      have hbarred:=eraseLocator_fenced hhash hfence
      unfold PersistentThumbnailCache.eraseLocator at hbarred
      rw [hhash] at hbarred
      rw [←hother]
      exact hbarred
    · left
      dsimp only
      split
      · exact removeLocatorRevocation_keeps f hother hfence
      · split
        · exact hfence
        · exact hfence
 · right
   cases hnext:(cache.eraseLocator l f loc).2.index.locators row with
   | none=>rfl
   | some target=>
    rw [(below_eraseLocator l loc).rows.locators row target hnext] at hnone
    exact absurd hnone nofun

lemma persistLocatorRevocation_disabled (cache : PersistentThumbnailCache) (f : Faults)
 (other : CacheDigest) : (cache.persistLocatorRevocation f other).2.offlineLookupDisabled=
  cache.offlineLookupDisabled:=by
 unfold persistLocatorRevocation
 cases f.persistFence<;>rfl

lemma removeLocatorRevocation_disabled (cache : PersistentThumbnailCache) (f : Faults)
 (other : CacheDigest) : (cache.removeLocatorRevocation f other).2.offlineLookupDisabled=
  cache.offlineLookupDisabled:=by
 unfold removeLocatorRevocation
 cases f.removeFence<;>rfl

lemma eraseLocator_disabled (l : Libraries) (f : Faults) (loc : CacheLocatorKey)
 (h:cache.offlineLookupDisabled=true):
 (cache.eraseLocator l f loc).2.offlineLookupDisabled=true:=by
 unfold PersistentThumbnailCache.eraseLocator
 cases hashCacheLocator l loc with
 | none=>rfl
 | some other=>
  have herased:((cache.persistLocatorRevocation f other).2.eraseLocatorRow f
    other).2.offlineLookupDisabled=true:=
   (persistLocatorRevocation_disabled cache f other).trans h
  dsimp only
  split
  · rw [removeLocatorRevocation_disabled]
    exact herased
  · split
    · exact herased
    · rfl

lemma bindLocator_disabled (l : Libraries) (f : Faults) (loc : CacheLocatorKey)
 (key : CacheKey) (h:cache.offlineLookupDisabled=true):
 (cache.bindLocator l f loc key).2.offlineLookupDisabled=true:=by
 unfold PersistentThumbnailCache.bindLocator
 cases hashCacheLocator l loc with
 | none=>exact h
 | some other=>
  cases hashCacheKey l key with
  | none=>exact h
  | some digest=>
   dsimp only
   split
   · rw [removeLocatorRevocation_disabled]
     exact h
   · exact h

lemma bindLocator_keeps (l : Libraries) (f : Faults) {key : CacheKey}
 (hhash:hashCacheLocator l loc≠some row) (h:Barred row cache):
 Barred row (cache.bindLocator l f loc key).2:=by
 unfold PersistentThumbnailCache.bindLocator
 cases hlocator:hashCacheLocator l loc with
 | none=>exact h
 | some other=>
  have hother:row≠other:=by
   rintro rfl
   exact hhash hlocator
  cases hashCacheKey l key with
  | none=>exact h
  | some digest=>
   have hlocators:cache.index.locators row=none →
     (cache.index.publishLocator f.publishLocator other digest).2.locators row=none:=by
    intro hnone
    obtain ⟨-,hbelow⟩ | ⟨-,-,hupdated⟩:=
     publishLocator_cases f.publishLocator cache.index other digest
    · cases hnext:(cache.index.publishLocator f.publishLocator other
        digest).2.locators row with
      | none=>rfl
      | some target=>
       rw [hbelow.locators row target hnext] at hnone
       exact absurd hnone nofun
    · rw [hupdated,Function.update_of_ne hother]
      exact hnone
   dsimp only
   split
   · obtain hrevoked | hnone:=h
     · exact .inl (removeLocatorRevocation_keeps f hother hrevoked)
     · right
       rw [removeLocatorRevocation_index]
       exact hlocators hnone
   · exact h.imp_right hlocators

end Barriers

section Runs
variable {l libraries : Libraries} {limits : MemoryCacheLimits} {digest row : CacheDigest}
 {f faults : Faults}
 {cache : PersistentThumbnailCache} {step : Step} {steps before : List Step}

lemma quiet_erase (l : Libraries) (f : Faults) (cache : PersistentThumbnailCache)
 (key : CacheKey) : Quiet s cache (cache.erase l f key).2:=by
 unfold PersistentThumbnailCache.erase
 cases hashCacheKey l key with
 | none=>exact .refl s cache
 | some other=>
  have hresident:Quiet s cache { cache with memory:=(cache.memory.erase other).2 }:=
   quiet_memory copiesBelow_erase
  have hremoved:=hresident.trans (quiet_removeArtifact _ f other)
  dsimp only
  generalize removeArtifact f
   { cache with memory:=(cache.memory.erase other).2 } other=removal at hremoved ⊢
  match removal with
  | (.error m,next)=>exact hremoved
  | (.ok _,next)=>exact hremoved.trans quiet_eraseRecord

lemma quiet_apply (l : Libraries) (cache : PersistentThumbnailCache)
 (hbind:∀loc key,step.call≠.bindLocator loc key)
 (herase:∀loc,step.call≠.eraseLocator loc) (hrestart:step.call≠.restart):
 Quiet (fun digest=>∀r,step.call=.publish r →
  hashCacheKey l r.key≠some digest) cache (step.apply l cache):=by
 unfold Step.apply
 cases hcall:step.call with
 | publish r=>
  dsimp only
  cases hhash:hashCacheKey l r.key with
  | none=>
   rw [publish_unhashed l step.faults cache hhash]
   exact .refl _ cache
  | some other=>
   have hquiet:=quiet_publish l step.faults cache hhash
   refine ⟨hquiet.locators,hquiet.revoked,hquiet.disabled,?_⟩
   intro digest hspared
   apply hquiet.gone digest
   rintro rfl
   exact hspared r rfl hhash
 | lookup key a=>exact quiet_lookup l step.faults _ cache key a
 | lookupLocator loc a=>
  exact quiet_lookupLocator l step.faults _ cache loc a
 | bindLocator loc key=>exact absurd hcall (hbind loc key)
 | eraseLocator loc=>exact absurd hcall (herase loc)
 | erase key=>exact quiet_erase l step.faults cache key
 | prune removal=>exact quiet_of_below (below_prune removal) rfl rfl
 | restart=>exact absurd hcall hrestart

lemma bindLocator_stores (l : Libraries) (f : Faults)
 (cache : PersistentThumbnailCache) (loc : CacheLocatorKey) (key : CacheKey):
 (cache.bindLocator l f loc key).2.artifacts=cache.artifacts ∧
  (cache.bindLocator l f loc key).2.memory=cache.memory:=by
 unfold PersistentThumbnailCache.bindLocator
 cases hashCacheLocator l loc with
 | none=>exact ⟨rfl,rfl⟩
 | some other=>
  cases hashCacheKey l key with
  | none=>exact ⟨rfl,rfl⟩
  | some digest=>
   dsimp only
   split
   · unfold removeLocatorRevocation
     cases f.removeFence<;>exact ⟨rfl,rfl⟩
   · exact ⟨rfl,rfl⟩

lemma gone_apply (h:Gone digest cache) (hstep:∀r,step.call=.publish r →
 hashCacheKey l r.key≠some digest):
 Gone digest (step.apply l cache):=by
 by_cases hbind:∃ loc key,step.call=.bindLocator loc key
 · obtain ⟨loc,key,hcall⟩:=hbind
   obtain ⟨hartifacts,hmemory⟩:=bindLocator_stores l step.faults cache loc key
   unfold Step.apply
   rw [hcall]
   exact ⟨(congrFun hartifacts digest).trans h.stored,hmemory ▸ h.resident⟩
 by_cases herase:∃ loc,step.call=.eraseLocator loc
 · obtain ⟨loc,hcall⟩:=herase
   unfold Step.apply
   rw [hcall]
   exact h.below (below_eraseLocator l loc)
 by_cases hrestart:step.call=.restart
 · unfold Step.apply
   rw [hrestart]
   exact h.below below_restart
 · exact (quiet_apply l cache (fun loc key hcall=>hbind ⟨loc,key,hcall⟩)
    (fun loc hcall=>herase ⟨loc,hcall⟩) hrestart).gone digest hstep h

lemma barred_apply (h:Barred row cache) (hstep:∀loc key,
 step.call=.bindLocator loc key → hashCacheLocator l loc≠some row):
 Barred row (step.apply l cache):=by
 by_cases hbind:∃ loc key,step.call=.bindLocator loc key
 · obtain ⟨loc,key,hcall⟩:=hbind
   unfold Step.apply
   rw [hcall]
   exact bindLocator_keeps l step.faults (hstep loc key hcall) h
 by_cases herase:∃ loc,step.call=.eraseLocator loc
 · obtain ⟨loc,hcall⟩:=herase
   unfold Step.apply
   rw [hcall]
   exact eraseLocator_keeps l step.faults loc h
 by_cases hrestart:step.call=.restart
 · unfold Step.apply
   rw [hrestart]
   exact h
 · exact h.quiet (quiet_apply l cache
    (fun loc key hcall=>hbind ⟨loc,key,hcall⟩)
    (fun loc hcall=>herase ⟨loc,hcall⟩) hrestart)

lemma disabled_apply (h:cache.offlineLookupDisabled=true) (hstep:step.call≠.restart):
 (step.apply l cache).offlineLookupDisabled=true:=by
 by_cases hbind:∃ loc key,step.call=.bindLocator loc key
 · obtain ⟨loc,key,hcall⟩:=hbind
   unfold Step.apply
   rw [hcall]
   exact bindLocator_disabled l step.faults loc key h
 by_cases herase:∃ loc,step.call=.eraseLocator loc
 · obtain ⟨loc,hcall⟩:=herase
   unfold Step.apply
   rw [hcall]
   exact eraseLocator_disabled l step.faults loc h
 · exact (quiet_apply l cache (fun loc key hcall=>hbind ⟨loc,key,hcall⟩)
    (fun loc hcall=>herase ⟨loc,hcall⟩) hstep).disabled.trans h

lemma run_split (l : Libraries) (limits : MemoryCacheLimits) (before later : List Step)
 (step : Step) : run l limits (before++step::later)=
  later.foldl (Step.apply l) (step.apply l (run l limits before)):=by
 rw [run,List.foldl_append,List.foldl_cons]
 rfl

lemma foldl_keeps (kept : PersistentThumbnailCache → Prop) {later : List Step} (h:kept cache)
 (hstep:∀other∈later,∀cache,kept cache → kept (other.apply l cache)):
 kept (later.foldl (Step.apply l) cache):=by
 induction later generalizing cache with
 | nil=>exact h
 | cons step later ih=>
  exact ih (hstep step List.mem_cons_self cache h)
   fun other hother=>hstep other (List.mem_cons_of_mem step hother)

/-- The fence of the locator is there once the erasure has tried to write it. -/
def FenceWritten (libraries : Libraries) (faults : Faults) (cache : PersistentThumbnailCache)
  (locator : CacheLocatorKey) : Prop:=
 ∃ row,hashCacheLocator libraries locator = some row ∧
  (cache.persistLocatorRevocation faults row).2.revokedLocators row = true

/-- An erased locator misses until it is bound again: in the same process, and after that too if
its fence was written. -/
def LocatorsStayErased (libraries : Libraries) (limits : MemoryCacheLimits) (steps : List Step):
  Prop:=
 ∀before step later last after locator accessUnixNs, steps = before++step::(later++last::after) →
  step.call = .eraseLocator locator → last.call = .lookupLocator locator accessUnixNs →
  (∀other ∈ later,∀key,other.call≠.bindLocator locator key) →
  ((∀other ∈ later,other.call≠.restart) ∨
   FenceWritten libraries step.faults (run libraries limits before) locator) →
  ((run libraries limits (before++step::later)).lookupLocator libraries last.faults locator
   accessUnixNs).1 = some {}

/-- Nothing is served for an erased key until it is published again, where its erasure says that
something was removed, and the faults of its steps are of the given kind. -/
def ArtifactsStayErased (libraries : Libraries) (limits : MemoryCacheLimits) (steps : List Step)
  (allowed : Faults → Prop) : Prop:=
 ∀before step later last after key,
  steps = before++step::(later++last::after) → step.call = .erase key →
  allowed step.faults →
  ((run libraries limits before).erase libraries step.faults key).1 = some true →
  (∀other ∈ later,∀request,other.call = .publish request → request.key≠key) →
  (∀accessUnixNs result,last.call = .lookup key accessUnixNs →
   ((run libraries limits (before++step::later)).lookup libraries last.faults key
    accessUnixNs).1 = some result →
   result.thumbnail = none) ∧
  ∀locator accessUnixNs result,last.call = .lookupLocator locator accessUnixNs →
   LastBound libraries limits (before++step::later) locator key →
   ((run libraries limits (before++step::later)).lookupLocator libraries last.faults
    locator accessUnixNs).1 = some result →
   result.thumbnail = none

lemma locators_stay_erased (hfree:CollisionFree l steps):
 LocatorsStayErased l limits steps:=by
 intro before step later last after loc a hsplit hcall hlast hbind hprocess
 have hmem:step∈steps:=by
  rw [hsplit]
  exact List.mem_append_right before List.mem_cons_self
 have hlater:∀other∈later,other∈steps:=by
  intro other hother
  rw [hsplit]
  exact List.mem_append_right before
   (List.mem_cons_of_mem step (List.mem_append_left (last::after) hother))
 have hlocator:loc∈callLocators step.call:=by
  rw [hcall]
  exact List.mem_cons_self
 have happly:step.apply l (run l limits before)=
   ((run l limits before).eraseLocator l step.faults loc).2:=by
  unfold Step.apply
  rw [hcall]
 rw [run_split,happly]
 cases hhash:hashCacheLocator l loc with
 | none=>
  obtain hprocess | ⟨row,hrow,-⟩:=hprocess
  · have hdisabled:((run l limits before).eraseLocator l step.faults
      loc).2.offlineLookupDisabled=true:=by
     unfold PersistentThumbnailCache.eraseLocator
     rw [hhash]
    apply lookupLocator_disabled
    exact foldl_keeps (·.offlineLookupDisabled=true) hdisabled
     fun other hother cache h=>disabled_apply h (hprocess other hother)
  · exact absurd (hhash.symm.trans hrow) nofun
 | some row=>
  have hbarred (other : Step) (hother:other∈later) (cache : PersistentThumbnailCache)
    (h:Barred row cache) : Barred row (other.apply l cache):=by
   apply barred_apply h
   intro locator' key hbinds hhash'
   have hlocator':locator'∈callLocators other.call:=by
    rw [hbinds]
    exact List.mem_cons_self
   obtain rfl:=locator_of_digest hfree (hlater other hother) hmem hlocator' hlocator hhash'
    hhash
   exact hbind other hother key hbinds
  obtain hprocess | ⟨row',hrow,hfence⟩:=hprocess
  · have hrun:=foldl_keeps (fun cache=>cache.offlineLookupDisabled=true ∨ Barred row cache)
     (eraseLocator_erased (run l limits before) step.faults hhash)
     fun other hother cache h =>
      h.imp (fun hdisabled=>disabled_apply hdisabled (hprocess other hother))
       (hbarred other hother cache)
    obtain hdisabled | hmissing:=hrun
    · exact lookupLocator_disabled l hdisabled loc
    · exact lookupLocator_barred hhash hmissing
  · obtain rfl:=Option.some.inj (hrow.symm.trans hhash)
    apply lookupLocator_barred hhash
    exact foldl_keeps (Barred row') (eraseLocator_fenced hhash hfence) hbarred

lemma binding_last {earlier later : List Step} {binding : Step} {earlier' later' : List Step}
 {binding' : Step} (hbinds:Binds l (run l limits earlier) binding loc key)
 (hbinds':Binds l (run l limits earlier') binding' loc key')
 (hlater:∀between other rest,later=between++other::rest → ∀next,
  ¬Binds l (run l limits (earlier++binding::between)) other loc next)
 {between : List Step} (hearlier:earlier'=earlier++between)
 (hrest:binding::later=between++binding'::later') : key=key':=by
 cases between with
 | nil=>
  obtain ⟨rfl,-⟩:=List.cons.inj hrest
  exact (Call.bindLocator.inj (hbinds.1.symm.trans hbinds'.1)).2
 | cons first between=>
  obtain ⟨rfl,hlaterSplit⟩:=List.cons.inj hrest
  rw [hearlier] at hbinds'
  exact absurd hbinds' (hlater between binding' later' hlaterSplit key')

lemma lastBound_unique (h:LastBound l limits before loc key)
 (h':LastBound l limits before loc key') : key=key':=by
 obtain ⟨earlier,binding,later,rfl,hbinds,hlater⟩:=h
 obtain ⟨earlier',binding',later',hsplit,hbinds',hlater'⟩:=h'
 obtain ⟨between,hearlier,hrest⟩ | ⟨between,hearlier,hrest⟩:=List.append_eq_append_iff.mp hsplit
 · exact binding_last hbinds hbinds' hlater hearlier hrest
 · exact (binding_last hbinds' hbinds hlater' hearlier hrest).symm

lemma bindLocator_row {target : CacheDigest}
 (h:(cache.bindLocator l f loc key).2.index.locators row=some target):
 (hashCacheLocator l loc=some row ∧ hashCacheKey l key=some target ∧
   (cache.index.publishLocator f.publishLocator row target).1=true) ∨
  cache.index.locators row=some target ∧ ∀other digest, hashCacheLocator l loc=some other →
   hashCacheKey l key=some digest →
   (cache.index.publishLocator f.publishLocator other digest).1=true → row≠other:=by
 unfold PersistentThumbnailCache.bindLocator at h
 cases hlocator:hashCacheLocator l loc with
 | none=>
  rw [hlocator] at h
  exact .inr ⟨h,fun _ _ hnone=>absurd hnone nofun⟩
 | some other=>
  cases hkey:hashCacheKey l key with
  | none=>
   rw [hlocator,hkey] at h
   exact .inr ⟨h,fun _ _ _ hnone=>absurd hnone nofun⟩
  | some digest=>
   have hpublished:(cache.index.publishLocator f.publishLocator other digest).2.locators
     row=some target:=by
    rw [hlocator,hkey] at h
    dsimp only at h
    split at h
    · rw [removeLocatorRevocation_index] at h
      exact h
    · exact h
   obtain ⟨hfailed,hbelow⟩ | ⟨htaken,-,hupdated⟩:=
    publishLocator_cases f.publishLocator cache.index other digest
   · refine .inr ⟨hbelow.locators row target hpublished,?_⟩
     rintro _ _ ⟨⟩ ⟨⟩ htaken
     exact absurd (hfailed.symm.trans htaken) nofun
   · rw [hupdated] at hpublished
     by_cases hrow:row=other
     · rw [hrow,Function.update_self] at hpublished
       obtain rfl:=Option.some.inj hpublished
       rw [hrow]
       exact .inl ⟨rfl,rfl,htaken⟩
     · rw [Function.update_of_ne hrow] at hpublished
       refine .inr ⟨hpublished,?_⟩
       rintro _ _ ⟨⟩ _ _
       exact hrow

lemma bound_run (l : Libraries) (limits : MemoryCacheLimits) (before : List Step):
 ∀row target,(run l limits before).index.locators row=some target →
  ∃ loc key,hashCacheLocator l loc=some row ∧ hashCacheKey l key=some target ∧
   LastBound l limits before loc key:=by
 induction before using List.reverseRecOn with
 | nil=>exact nofun
 | append_singleton before step ih=>
  intro row target htarget
  rw [run_append] at htarget
  by_cases hbind:∃ loc key,step.call=.bindLocator loc key
  · obtain ⟨loc,key,hcall⟩:=hbind
    unfold Step.apply at htarget
    rw [hcall] at htarget
    obtain ⟨hlocator,hkey,htaken⟩ | ⟨hold,hother⟩:=bindLocator_row htarget
    · exact ⟨loc,key,hlocator,hkey, lastBound_new ⟨hcall,row,target,hlocator,hkey,htaken⟩⟩
    · obtain ⟨locator',key',hlocator',hkey',hbound⟩:=ih row target hold
      refine ⟨locator',key',hlocator',hkey',lastBound_append hbound ?_⟩
      rintro next ⟨hnext,other,digest,hrow,hdigest,htaken⟩
      obtain ⟨rfl,rfl⟩:=Call.bindLocator.inj (hcall.symm.trans hnext)
      exact hother other digest hrow hdigest htaken
       (Option.some.inj (hlocator'.symm.trans hrow))
  suffices hold : (run l limits before).index.locators row=some target by
   obtain ⟨loc,key,hlocator,hkey,hbound⟩:=ih row target hold
   refine ⟨loc,key,hlocator,hkey,lastBound_append hbound ?_⟩
   exact fun next hbinds=>hbind ⟨loc,next,hbinds.1⟩
  by_cases herase:∃ loc,step.call=.eraseLocator loc
  · obtain ⟨loc,hcall⟩:=herase
    unfold Step.apply at htarget
    rw [hcall] at htarget
    exact (below_eraseLocator l loc).rows.locators row target htarget
  by_cases hrestart:step.call=.restart
  · unfold Step.apply at htarget
    rw [hrestart] at htarget
    exact htarget
  · exact (quiet_apply l _ (fun loc key hcall=>hbind ⟨loc,key,hcall⟩)
     (fun loc hcall=>herase ⟨loc,hcall⟩) hrestart).locators row target htarget

lemma gone_erased (hfault:f.removeArtifact=none) {key : CacheKey}
 (hhash:hashCacheKey l key=some digest):
 Gone digest (cache.erase l f key).2:=by
 unfold PersistentThumbnailCache.erase
 rw [hhash]
 unfold removeArtifact
 rw [hfault]
 exact ⟨Function.update_self digest _ _,erase_absent⟩

lemma artifacts_stay_erased (hfree:CollisionFree l steps):
 ArtifactsStayErased l limits steps fun f=>f.removeArtifact=none:=by
 intro before step later last after key hsplit hcall hfault herased hpublish
 have hmem:step∈steps:=by
  rw [hsplit]
  exact List.mem_append_right before List.mem_cons_self
 have hlater:∀other∈later,other∈steps:=by
  intro other hother
  rw [hsplit]
  exact List.mem_append_right before
   (List.mem_cons_of_mem step (List.mem_append_left (last::after) hother))
 have hkey:key∈callKeys step.call:=by
  rw [hcall]
  exact List.mem_cons_self
 have happly:step.apply l (run l limits before)=
   ((run l limits before).erase l step.faults key).2:=by
  unfold Step.apply
  rw [hcall]
 cases hhash:hashCacheKey l key with
 | none=>
  unfold PersistentThumbnailCache.erase at herased
  rw [hhash] at herased
  exact absurd herased nofun
 | some digest=>
  have hgone:Gone digest (run l limits (before++step::later)):=by
   rw [run_split,happly]
   refine foldl_keeps (Gone digest) (gone_erased hfault hhash) ?_
   intro other hother cache h
   apply gone_apply h
   intro r hrequest hhash'
   have hkey':r.key∈callKeys other.call:=by
    rw [hrequest]
    exact List.mem_cons_self
   exact hpublish other hother r hrequest
    (key_of_digest hfree (hlater other hother) hmem hkey' hkey hhash' hhash)
  refine ⟨fun a result _=>lookup_gone hgone hhash result,?_⟩
  intro loc a result hlast hbound hresult
  have hparts:steps=(before++step::later)++last::after:=by
   rw [hsplit,List.append_assoc,List.cons_append]
  generalize before++step::later=earlier at hparts hgone hbound hresult
  have hasked:loc∈callLocators last.call:=by
   rw [hlast]
   exact List.mem_cons_self
  have hlookup:last∈steps:=by
   rw [hparts]
   exact List.mem_append_right earlier List.mem_cons_self
  apply lookupLocator_gone hgone ?_ result hresult
  intro row target hrow htarget
  obtain ⟨locator',key',hlocator',hkey',hbound'⟩:=bound_run l limits earlier row
   target htarget
  have hused:=hbound'
  obtain ⟨first,binding,rest,hearlier,⟨hbinds,-⟩,-⟩:=hused
  have hbinding:binding∈steps:=by
   rw [hparts,hearlier]
   exact List.mem_append_left _ (List.mem_append_right first List.mem_cons_self)
  have hbindingLocator:locator'∈callLocators binding.call:=by
   rw [hbinds]
   exact List.mem_cons_self
  obtain rfl:=locator_of_digest hfree hbinding hlookup hbindingLocator hasked hlocator' hrow
  obtain rfl:=lastBound_unique hbound' hbound
  exact Option.some.inj (hkey'.symm.trans hhash)

end Runs

/-- What is erased stays erased: a locator until it is bound again, and the artifact of a key until
it is published again, where the store could remove it. -/
theorem erased_stays_erased (libraries : Libraries) (limits : MemoryCacheLimits)
 (steps : List Step) (hfree:CollisionFree libraries steps):
 LocatorsStayErased libraries limits steps ∧
  ArtifactsStayErased libraries limits steps fun faults=>faults.removeArtifact=none:=
 ⟨locators_stay_erased hfree,artifacts_stay_erased hfree⟩

section Photo
open ThumbnailCacheKept

def erasedSteps : List Step:=
 [{ call:=.publish (photoRequest blackPixel) },{ call:=.bindLocator photoLocator photoKey },
  { call:=.eraseLocator photoLocator },{ call:=.lookupLocator photoLocator 0 },
  { call:=.erase photoKey },{ call:=.lookup photoKey 0 }]

theorem erased_stays_erased_photo : LocatorsStayErased photoLibraries {} erasedSteps ∧
 ArtifactsStayErased photoLibraries {} erasedSteps fun faults=>faults.removeArtifact=none:=by
 refine erased_stays_erased photoLibraries {} erasedSteps (collisionFree_photo ?_ ?_)
 · decide
 · decide

def previewStep : Step := { call:=.publish (photoRequest blackPixel) }

/-- The store cannot remove the preview, and the erasure reports the resident copy it removed. -/
def failedErase : Step := { call:=.erase photoKey,faults:={ removeArtifact:=some [] } }

def askedStep : Step := { call:=.lookup photoKey 0 }

lemma kept_erased : ((run photoLibraries {} [previewStep]).erase photoLibraries
 failedErase.faults photoKey).1=some true:=by
 decide +kernel

lemma kept_served : ((run photoLibraries {} [previewStep,failedErase]).lookup photoLibraries
 askedStep.faults photoKey 0).1.map (·.thumbnail.isSome)=some true:=by
 decide +kernel

theorem kept_not_erased : ¬∀libraries limits steps,CollisionFree libraries steps →
 LocatorsStayErased libraries limits steps ∧
  ArtifactsStayErased libraries limits steps fun _=>True:=by
 intro h
 have hfree:CollisionFree photoLibraries [previewStep,failedErase,askedStep]:=by
  apply collisionFree_photo
  · decide
  · decide
 have hstays:=(h photoLibraries {} _ hfree).2
 have hmisses:=(hstays [previewStep] failedErase [] askedStep [] photoKey rfl rfl trivial
  kept_erased (fun _ hnone=>absurd hnone List.not_mem_nil)).1 0
 have hserved:=kept_served
 cases hresult:((run photoLibraries {} [previewStep,failedErase]).lookup photoLibraries
   askedStep.faults photoKey 0).1 with
 | none=>
  rw [hresult] at hserved
  exact absurd hserved nofun
 | some result=>
  rw [hresult,Option.map_some,hmisses result rfl hresult] at hserved
  exact absurd hserved nofun

end Photo

end VoVe.ThumbnailCacheErase
