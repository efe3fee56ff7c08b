import VoVe.ThumbnailCacheErase

set_option autoImplicit false

namespace VoVe.ThumbnailCacheOrigins
open ByteCodec CacheKeys ArtifactCodec ThumbnailCache ThumbnailCache.PersistentThumbnailCache
open ThumbnailCacheRules ThumbnailCacheTruth ThumbnailCacheErase

section Artifacts
variable {digest other : CacheDigest} {f : Faults} {artifact : ArtifactData}
 {cache next last : PersistentThumbnailCache}

/-- The artifact is stored under the digest, or resident. -/
def Has (cache : PersistentThumbnailCache) (digest : CacheDigest) (artifact : ArtifactData) : Prop:=
 cache.artifacts digest = some artifact ∨
  ∃ entry ∈ cache.memory.entries,entry.digest = digest ∧ entry.artifact = artifact

/-- No artifact appears. -/
def Descends (cache next : PersistentThumbnailCache) : Prop:=
 ∀digest artifact,Has next digest artifact → Has cache digest artifact

lemma Descends.refl (cache : PersistentThumbnailCache) : Descends cache cache:=
 fun _ _ h=>h

lemma Descends.trans (h:Descends cache next) (hnext:Descends next last) : Descends cache last:=
 fun digest artifact hlast=>h digest artifact (hnext digest artifact hlast)

lemma descends_of_below (h:Below cache next) : Descends cache next:=by
 intro digest artifact hnext
 apply hnext.imp (h.artifacts digest artifact)
 intro hcopy
 obtain ⟨entry,hentry,hdigest,hartifact⟩:=hcopy
 obtain ⟨before,hbefore,hsame,hcopied⟩:=h.copies entry hentry
 exact ⟨before,hbefore,hsame.trans hdigest,hcopied.trans hartifact⟩

lemma descends_same (hartifacts:next.artifacts=cache.artifacts)
 (hmemory:next.memory=cache.memory) : Descends cache next:=by
 intro digest artifact hnext
 unfold Has at hnext ⊢
 rw [hartifacts,hmemory] at hnext
 exact hnext

lemma descends_insertResident (h:Has cache digest artifact) (a : ℤ):
 Descends cache (cache.insertResident digest artifact a):=by
 intro other copied hcopied
 apply hcopied.elim .inl
 intro hcopy
 obtain ⟨entry,hentry,hdigest,hartifact⟩:=hcopy
 obtain ⟨-,hentries⟩ | ⟨-,hsame⟩:=insert_cases cache.memory digest artifact a
 · obtain ⟨hnew,hcopied⟩ | ⟨-,hold⟩:=hentries entry hentry
   · rw [←hdigest,←hartifact,hnew,hcopied]
     exact h
   · exact .inr ⟨entry,hold,hdigest,hartifact⟩
 · change entry∈(cache.memory.insert digest artifact a).entries at hentry
   rw [hsame] at hentry
   exact .inr ⟨entry,hentry,hdigest,hartifact⟩

end Artifacts

variable {kind : CacheLookupKind} {error : Bytes} {artifact : ArtifactData}
 {record : Option ArtifactIndexRecord} {a : ℤ} {result : CacheLookupResult}
 {thumbnail : CachedThumbnail} {request : CachePublishRequest}

section Lookups
variable {l libraries : Libraries} {digest : CacheDigest} {f : Faults}
 {cache next : PersistentThumbnailCache} {answer : CacheLookupResult × PersistentThumbnailCache}

/-- The thumbnail's pixels, where it has some, are those of its artifact. -/
def Decoded (libraries : Libraries) (thumbnail : CachedThumbnail) : Prop:=
 ∀image,thumbnail.decoded = some image →
  decodedAs libraries thumbnail.artifact.metadata thumbnail.artifact.payload = .ok image

/-- A lookup brings no artifact, and serves one that the cache has under the digest. -/
structure Answers (libraries : Libraries) (digest : CacheDigest) (cache : PersistentThumbnailCache)
  (answer : CacheLookupResult × PersistentThumbnailCache) : Prop where
 descends : Descends cache answer.2
 served : ∀thumbnail,answer.1.thumbnail=some thumbnail →
  Has cache digest thumbnail.artifact ∧ Decoded libraries thumbnail

lemma Answers.after (hnext:Descends cache next) (h:Answers l digest next answer):
 Answers l digest cache answer:=
 ⟨hnext.trans h.descends,fun thumbnail hthumbnail =>
  (h.served thumbnail hthumbnail).imp_left (hnext digest thumbnail.artifact)⟩

lemma answers_nothing (h:Descends cache next):
 Answers l digest cache ({ kind:=kind,error:=error },next):=
 ⟨h,fun thumbnail hthumbnail=>absurd hthumbnail.symm (Option.some_ne_none thumbnail)⟩

lemma answers_resident (h:Descends cache next) (hcache:Has cache digest artifact):
 Answers l digest cache
  ({ kind:=kind,thumbnail:=some { artifact:=artifact,indexRecord:=record }
     error:=error },next):=by
 refine ⟨h,?_⟩
 intro thumbnail hthumbnail
 obtain rfl:=Option.some.inj hthumbnail
 exact ⟨hcache,nofun⟩

lemma answers_stored {image : QoiImage} (h:Descends cache next)
 (hcache:Has cache digest artifact)
 (hdecoded:decodedAs l artifact.metadata artifact.payload=.ok image):
 Answers l digest cache
  ({ kind:=kind
     thumbnail:=some { artifact:=artifact,indexRecord:=record,decoded:=some image }
     error:=error },next):=by
 refine ⟨h,?_⟩
 intro thumbnail hthumbnail
 obtain rfl:=Option.some.inj hthumbnail
 refine ⟨hcache,?_⟩
 intro shown hshown
 rw [←Option.some.inj hshown]
 exact hdecoded

lemma descends_publishRecord (cache : PersistentThumbnailCache) (f : Faults)
 (record : ArtifactIndexRecord) : Descends cache (cache.publishRecord f record).2:=
 descends_same rfl rfl

lemma answers_lookupResident {resident : ArtifactData} (hcache:Has cache digest resident)
 (key : CacheKey) (a : ℤ):
 Answers l digest cache (cache.lookupResident f key digest a resident):=by
 have hfound:=descends_of_below (below_findRecord cache f digest)
 unfold lookupResident
 generalize cache.findRecord f digest=found at hfound ⊢
 obtain ⟨record,next⟩:=found
 dsimp only at hfound ⊢
 cases record with
 | some record=>
  exact answers_resident (hfound.trans (descends_of_below (below_refreshResident a)))
   hcache
 | none=>
  dsimp only
  cases next.lookupArtifact f digest with
  | error message=>
   exact answers_nothing (hfound.trans (descends_of_below below_eraseResident))
  | ok stored=>
   cases stored with
   | none=>exact answers_nothing (hfound.trans (descends_of_below below_eraseResident))
   | some stored=>
    have hpublished:=hfound.trans (descends_publishRecord next f
     (recordFromArtifact key digest stored a))
    dsimp only
    split
    · exact answers_resident
       (hpublished.trans (descends_of_below (below_refreshResident a))) hcache
    · exact answers_resident hpublished hcache

section Stored
variable {artifact : ArtifactData} {image : QoiImage}

lemma answers_hitStored (hcache:Has cache digest artifact)
 (hdecoded:decodedAs l artifact.metadata artifact.payload=.ok image)
 (record : ArtifactIndexRecord):
 Answers l digest cache (cache.hitStored digest artifact image record):=
 answers_stored (descends_insertResident hcache record.lastAccessUnixNs) hcache hdecoded

lemma answers_recoverStored (hcache:Has cache digest artifact)
 (hdecoded:decodedAs l artifact.metadata artifact.payload=.ok image)
 (key : CacheKey) (a : ℤ):
 Answers l digest cache
  (cache.recoverStored f key digest a artifact image):=by
 have hpublished:=descends_publishRecord cache f
  (recordFromArtifact key digest artifact a)
 unfold recoverStored
 dsimp only
 split
 · have hkept:Has (cache.publishRecord f
     (recordFromArtifact key digest artifact a)).2 digest artifact:=
    hcache
   exact (answers_hitStored hkept hdecoded _).after hpublished
 · exact answers_stored hpublished hcache hdecoded

lemma answers_refreshed (hcache:Has cache digest artifact)
 (hdecoded:decodedAs l artifact.metadata artifact.payload=.ok image)
 (a : ℤ) (record : ArtifactIndexRecord):
 let used:=cache.refreshRecord f digest a record
 Answers l digest cache (used.2.hitStored digest artifact image used.1):=by
 have hsame:(cache.refreshRecord f digest a record).2.artifacts=cache.artifacts ∧
   (cache.refreshRecord f digest a record).2.memory=cache.memory:=by
  unfold refreshRecord
  split<;>exact ⟨rfl,rfl⟩
 apply Answers.after (descends_same hsame.1 hsame.2)
 apply answers_hitStored _ hdecoded
 unfold Has
 rw [hsame.1,hsame.2]
 exact hcache

end Stored

lemma answers_dropMalformed (indexed : Bool):
 Answers l digest cache (cache.dropMalformed f digest indexed):=by
 have hremoved:=descends_of_below (below_removeArtifact cache f digest)
 unfold dropMalformed
 generalize cache.removeArtifact f digest=removal at hremoved ⊢
 obtain ⟨removal,next⟩:=removal
 dsimp only at hremoved ⊢
 cases removal with
 | error message=>exact answers_nothing hremoved
 | ok removed=>
  have herased:=hremoved.trans (descends_of_below (below_eraseRecord next f digest))
  dsimp only
  split
  · split
    · exact answers_nothing herased
    · exact answers_nothing herased
  · exact answers_nothing hremoved

lemma answers_lookupStored (key : CacheKey) (a : ℤ) : Answers l digest cache
  (cache.lookupStored l f key digest a):=by
 have hfound:=descends_of_below (below_findRecord cache f digest)
 unfold lookupStored
 generalize cache.findRecord f digest=found at hfound ⊢
 obtain ⟨record,next⟩:=found
 dsimp only at hfound ⊢
 cases hlookup:next.lookupArtifact f digest with
 | error message=>exact answers_nothing hfound
 | ok stored=>
  cases stored with
  | none=>
   have herased:=hfound.trans (descends_of_below (below_eraseRecord next f digest))
   dsimp only
   split
   · split
     · exact answers_nothing herased
     · exact answers_nothing herased
   · exact answers_nothing hfound
  | some artifact=>
   have hcache:Has next digest artifact:=.inl (lookupArtifact_some hlookup).2
   dsimp only
   cases hdecoded:decodedAs l artifact.metadata artifact.payload with
   | error message=>exact (answers_dropMalformed record.isSome).after hfound
   | ok image=>
    cases record with
    | none=>exact (answers_recoverStored hcache hdecoded key a).after hfound
    | some record=>
     dsimp only
     split
     · exact (answers_refreshed hcache hdecoded a record).after hfound
     · exact (answers_recoverStored hcache hdecoded key a).after hfound

lemma descends_find : Descends cache { cache with memory:=(cache.memory.find digest).2 }:=
 descends_of_below (below_memory copiesBelow_find)

lemma memoryFind_has (h:(cache.memory.find digest).1=some artifact):
 Has cache digest artifact:=by
 obtain ⟨hnone,-⟩ | ⟨entry,hentry,hdigest,hfound,-⟩:=memoryFind_cases cache.memory digest
 · rw [hnone] at h
   exact absurd h nofun
 · rw [hfound] at h
   exact descends_find digest artifact (.inr ⟨entry,hentry,hdigest,Option.some.inj h⟩)

lemma answers_lookup (l : Libraries) (f : Faults) (cache : PersistentThumbnailCache)
 {key : CacheKey} (hhash:hashCacheKey l key=some digest) (a : ℤ):
 ∃ answer,Answers l digest cache answer ∧ cache.lookup l f key a=(some answer.1,answer.2):=by
 have hmemory:Descends cache { cache with memory:=(cache.memory.find digest).2 }:=descends_find
 unfold PersistentThumbnailCache.lookup
 rw [hhash]
 dsimp only
 cases hfound:(cache.memory.find digest).1 with
 | none=>exact ⟨_,(answers_lookupStored key a).after hmemory,rfl⟩
 | some resident=>
  obtain ⟨hnone,-⟩ | ⟨entry,hentry,hdigest,hentryFound,-⟩:=memoryFind_cases cache.memory digest
  · rw [hnone] at hfound
    exact absurd hfound nofun
  · rw [hentryFound] at hfound
    have hresident:Has { cache with memory:=(cache.memory.find digest).2 } digest resident:=
     .inr ⟨entry,hentry,hdigest,Option.some.inj hfound⟩
    exact ⟨_,(answers_lookupResident hresident key a).after hmemory,rfl⟩

lemma descends_dropBinding (cache : PersistentThumbnailCache) (f : Faults)
 (locator t : CacheDigest) : Descends cache (cache.dropBinding f locator t):=
 descends_of_below (below_dropBinding cache f locator t)

lemma answers_lookupBound (l : Libraries) (f : Faults)
 (cache : PersistentThumbnailCache) (locator digest : CacheDigest) (a : ℤ):
 Answers l digest cache
  (cache.lookupBound l f locator digest a):=by
 have hfound:=descends_of_below (below_findRecord cache f digest)
 unfold lookupBound
 generalize cache.findRecord f digest=found at hfound ⊢
 obtain ⟨record,next⟩:=found
 dsimp only at hfound ⊢
 cases record with
 | none=>exact answers_nothing (hfound.trans (descends_of_below (below_eraseLocatorRow locator)))
 | some record=>
  have hmemory:Descends next { next with memory:=(next.memory.find digest).2 }:=descends_find
  have hresident:∀artifact,(next.memory.find digest).1=some artifact →
    Has next digest artifact:=
   fun artifact=>memoryFind_has
  dsimp only
  generalize next.memory.find digest=found at hmemory hresident ⊢
  obtain ⟨resident,memory⟩:=found
  have hnext:=hfound.trans hmemory
  cases resident with
  | some resident=>
   exact answers_resident (hnext.trans (descends_of_below
    (below_refreshRecord _ f digest a record)))
    (hfound digest resident (hresident resident rfl))
  | none=>
   dsimp only at hnext ⊢
   cases hlookup:lookupArtifact f { next with memory:=memory } digest with
   | error message=>
    exact answers_nothing (hnext.trans (descends_dropBinding _ f locator digest))
   | ok stored=>
    cases stored with
    | none=>exact answers_nothing (hnext.trans (descends_dropBinding _ f locator digest))
    | some artifact=>
     have hcache:Has { next with memory:=memory } digest artifact:=
      .inl (lookupArtifact_some hlookup).2
     have hremoved:Answers l digest cache ({},(removeArtifact f
       { next with memory:=memory } digest).2.dropBinding f locator digest):=
      answers_nothing ((hnext.trans (descends_of_below
       (below_removeArtifact _ f digest))).trans
       (descends_dropBinding _ f locator digest))
     dsimp only
     cases hdecoded:decodedAs l artifact.metadata artifact.payload with
     | error message=>exact hremoved
     | ok image=>
      dsimp only
      split
      · exact (answers_refreshed hcache hdecoded a record).after hnext
      · exact hremoved

lemma lookupLocator_row {locator : CacheLocatorKey}
 (h:(cache.lookupLocator l f locator a).1=some result)
 (hthumbnail:result.thumbnail=some thumbnail):
 ∃ row t,hashCacheLocator l locator=some row ∧
  cache.index.locators row=some t ∧ Has cache t thumbnail.artifact ∧
  Decoded l thumbnail:=by
 have hnothing:some ({} : CacheLookupResult)≠some result:=by
  intro hsame
  rw [←Option.some.inj hsame] at hthumbnail
  exact absurd hthumbnail nofun
 unfold PersistentThumbnailCache.lookupLocator at h
 split at h
 · exact absurd h hnothing
 cases hhash:hashCacheLocator l locator with
 | none=>
  rw [hhash] at h
  exact absurd h nofun
 | some row=>
  rw [hhash] at h
  dsimp only at h
  split at h
  · exact absurd h hnothing
  cases hrow:(cache.index.findLocator f.findLocator row).1 with
  | none=>
   rw [hrow] at h
   exact absurd h hnothing
  | some t=>
   rw [hrow] at h
   have hanswers:=answers_lookupBound l f
    { cache with index:=(cache.index.findLocator f.findLocator row).2 } row t
    a
   have hserved:=hanswers.served thumbnail ((Option.some.inj h) ▸ hthumbnail)
   exact ⟨row,t,rfl,findLocator_some hrow,hserved⟩

lemma descends_lookupLocator (l : Libraries) (f : Faults)
 (cache : PersistentThumbnailCache) (locator : CacheLocatorKey) (a : ℤ):
 Descends cache (cache.lookupLocator l f locator a).2:=by
 unfold PersistentThumbnailCache.lookupLocator
 split
 · exact .refl cache
 cases hashCacheLocator l locator with
 | none=>exact .refl cache
 | some row=>
  dsimp only
  split
  · exact .refl cache
  have hfound:Descends cache
    { cache with index:=(cache.index.findLocator f.findLocator row).2 }:=
   descends_same rfl rfl
  cases (cache.index.findLocator f.findLocator row).1 with
  | none=>exact hfound
  | some t=>
   exact hfound.trans (answers_lookupBound l f _ row t a).descends

end Lookups

section Steps
variable {l libraries : Libraries} {digest row : CacheDigest} {f : Faults}
 {cache : PersistentThumbnailCache} {artifact : ArtifactData} {step : Step}

lemma publishEncoded_has {encoded : EncodedArtifact} {t : CacheDigest}
 (hencoded:encodeVvt1 request.metadata request.payload t
  ⟨request.sourceProfileName,request.sourceProfileFingerprint⟩=.ok encoded)
 (h:Has (cache.publishEncoded f request t encoded).2 digest artifact):
 Has cache digest artifact ∨ digest=t ∧ artifact=artifactOf t request:=by
 obtain ⟨hartifact,-⟩:=encoded_artifact hencoded
 unfold publishEncoded at h
 rw [hartifact] at h
 cases hwrite:f.writeArtifact with
 | some message=>
  rw [hwrite] at h
  exact .inl h
 | none=>
  rw [hwrite] at h
  dsimp only at h
  have hwritten:∀digest artifact,Has
    { cache with
      artifacts:=Function.update cache.artifacts t (some (artifactOf t request)) }
    digest artifact →
    Has cache digest artifact ∨ digest=t ∧ artifact=artifactOf t request:=by
   intro digest artifact hhas
   obtain hstored | hcopy:=hhas
   · dsimp only at hstored
     by_cases hsame:digest=t
     · rw [hsame,Function.update_self] at hstored
       exact .inr ⟨hsame,(Option.some.inj hstored).symm⟩
     · rw [Function.update_of_ne hsame] at hstored
       exact .inl (.inl hstored)
   · exact .inl (.inr hcopy)
  have hstored:Has
    { cache with
      artifacts:=Function.update cache.artifacts t (some (artifactOf t request)) }
    t (artifactOf t request):=
   .inl (Function.update_self t _ _)
  generalize { cache with
   artifacts:=Function.update cache.artifacts t (some (artifactOf t request)) }=
    next at h hwritten hstored
  have hpublished:=descends_publishRecord next f (makeRecord request t encoded)
  split at h
  · have hresident:Has (next.publishRecord f (makeRecord request t encoded)).2 t
      (artifactOf t request):=
     hstored
    exact hwritten digest artifact (hpublished digest artifact
     (descends_insertResident hresident request.accessUnixNs digest artifact h))
  · have hremoved:=hpublished.trans (descends_of_below (below_removeArtifact
     (next.publishRecord f (makeRecord request t encoded)).2 f t))
    split at h
    · exact hwritten digest artifact (hremoved digest artifact h)
    · exact hwritten digest artifact (hremoved digest artifact h)

lemma publish_has (h:Has (cache.publish l f request).2 digest artifact):
 Has cache digest artifact ∨
  hashCacheKey l request.key=some digest ∧ artifact=artifactOf digest request:=by
 unfold PersistentThumbnailCache.publish at h
 cases hdecoded:decodedAs l request.metadata request.payload with
 | error message=>
  rw [hdecoded] at h
  exact .inl h
 | ok image=>
  cases hhash:hashCacheKey l request.key with
  | none=>
   rw [hdecoded,hhash] at h
   exact .inl h
  | some t=>
   rw [hdecoded,hhash] at h
   dsimp only at h
   cases hencoded:encodeVvt1 request.metadata request.payload t
     ⟨request.sourceProfileName,request.sourceProfileFingerprint⟩ with
   | error error=>
    rw [hencoded] at h
    exact .inl h
   | ok encoded=>
    rw [hencoded] at h
    apply (publishEncoded_has hencoded h).imp_right
    intro hnew
    rw [hnew.1]
    exact ⟨rfl,hnew.2⟩

lemma apply_has (h:Has (step.apply l cache) digest artifact):
 Has cache digest artifact ∨ ∃ request,step.call=.publish request ∧
  hashCacheKey l request.key=some digest ∧ artifact=artifactOf digest request:=by
 unfold Step.apply at h
 cases hcall:step.call with
 | publish request=>
  rw [hcall] at h
  apply (publish_has h).imp_right
  intro hnew
  exact ⟨request,rfl,hnew⟩
 | lookup key a=>
  rw [hcall] at h
  dsimp only at h
  cases hhash:hashCacheKey l key with
  | none=>
   unfold PersistentThumbnailCache.lookup at h
   rw [hhash] at h
   exact .inl h
  | some t=>
   obtain ⟨answer,hanswers,hlookup⟩:=answers_lookup l step.faults cache hhash a
   rw [hlookup] at h
   exact .inl (hanswers.descends digest artifact h)
 | lookupLocator locator a=>
  rw [hcall] at h
  exact .inl (descends_lookupLocator l step.faults cache locator a digest
   artifact h)
 | bindLocator locator key=>
  rw [hcall] at h
  obtain ⟨hartifacts,hmemory⟩:=bindLocator_stores l step.faults cache locator key
  exact .inl (descends_same hartifacts hmemory digest artifact h)
 | eraseLocator locator=>
  rw [hcall] at h
  exact .inl (descends_of_below (below_eraseLocator l locator) digest artifact h)
 | erase key=>
  rw [hcall] at h
  exact .inl (descends_of_below (below_erase l key) digest artifact h)
 | prune removal=>
  rw [hcall] at h
  exact .inl (descends_of_below (below_prune removal) digest artifact h)
 | restart=>
  rw [hcall] at h
  exact .inl (descends_of_below below_restart digest artifact h)

lemma run_has (l : Libraries) (limits : MemoryCacheLimits) (steps : List Step)
 (h:Has (run l limits steps) digest artifact):
 ∃ key,hashCacheKey l key=some digest ∧ Published steps key digest artifact:=by
 induction steps using List.reverseRecOn with
 | nil=>
  obtain hstored | ⟨entry,hentry,-⟩:=h
  · exact absurd hstored nofun
  · exact absurd hentry nofun
 | append_singleton steps step ih=>
  rw [run_append] at h
  obtain hold | ⟨request,hcall,hhash,hartifact⟩:=apply_has h
  · obtain ⟨key,hkey,hpublished⟩:=ih hold
    exact ⟨key,hkey,hpublished.append [step]⟩
  · exact ⟨request.key,hhash,step,List.mem_append_right steps List.mem_cons_self,request,
     hcall,rfl,hartifact⟩

lemma barred_unless_bound (h:Barred row cache) (hstep:∀locator key,
 hashCacheLocator l locator=some row → ¬Binds l cache step locator key):
 Barred row (step.apply l cache):=by
 by_cases hbind:∃ locator key,step.call=.bindLocator locator key ∧
   hashCacheLocator l locator=some row
 · obtain ⟨locator,key,hcall,hlocator⟩:=hbind
   have hunbound:=hstep locator key hlocator
   unfold Step.apply
   rw [hcall]
   dsimp only
   unfold PersistentThumbnailCache.bindLocator
   rw [hlocator]
   cases hkey:hashCacheKey l key with
   | none=>exact h
   | some t=>
    have hfailed:(cache.index.publishLocator step.faults.publishLocator row t).1=false:=by
     apply Bool.eq_false_of_not_eq_true
     intro htaken
     exact hunbound ⟨hcall,row,t,hlocator,hkey,htaken⟩
    obtain ⟨-,hbelow⟩ | ⟨htaken,-⟩:=
     publishLocator_cases step.faults.publishLocator cache.index row t
    · dsimp only
      rw [hfailed,if_neg Bool.false_ne_true]
      apply h.imp_right
      intro hnone
      dsimp only
      cases hnext:(cache.index.publishLocator step.faults.publishLocator row
        t).2.locators row with
      | none=>rfl
      | some other=>
       rw [hbelow.locators row other hnext] at hnone
       exact absurd hnone nofun
    · rw [hfailed] at htaken
      exact absurd htaken nofun
 · exact barred_apply h fun locator key hcall hhash=>hbind ⟨locator,key,hcall,hhash⟩

end Steps

section Bindings
variable {l libraries : Libraries} {limits : MemoryCacheLimits} {steps earlier later : List Step}
 {b binding : Step} {locator : CacheLocatorKey} {key : CacheKey} {row : CacheDigest}

/-- The binding writes the row of the locator, and no later call does. -/
def BoundAt (libraries : Libraries) (limits : MemoryCacheLimits) (earlier : List Step)
  (binding : Step) (later : List Step) (locator : CacheLocatorKey) (key : CacheKey) : Prop:=
 Binds libraries (run libraries limits earlier) binding locator key ∧
  ∀between other rest,later = between++other::rest → ∀next,
   ¬Binds libraries (run libraries limits (earlier++binding::between)) other locator next

/-- The locator is erased, in the process that goes on to the end of the calls. -/
def Revoked (later : List Step) (locator : CacheLocatorKey) : Prop:=
 ∃ between step rest,later = between++step::rest ∧ step.call = .eraseLocator locator ∧
  ∀other ∈ rest,other.call≠.restart

/-- No lookup of the locator hits. -/
def Blocked (row : CacheDigest) (cache : PersistentThumbnailCache) : Prop:=
 cache.offlineLookupDisabled = true ∨ Barred row cache

lemma blocked_run {start : List Step} (h:Blocked row (run l limits start))
 (rest : List Step) (hrestart:∀other∈rest,other.call≠.restart)
 (hunbound:∀between other tail,rest=between++other::tail → ∀locator key,
  hashCacheLocator l locator=some row →
   ¬Binds l (run l limits (start++between)) other locator key):
 Blocked row (run l limits (start++rest)):=by
 induction rest using List.reverseRecOn with
 | nil=>
  rw [List.append_nil]
  exact h
 | append_singleton rest step ih=>
  have hblocked:=ih
   (fun other hother=>hrestart other (List.mem_append_left [step] hother))
   (fun between other tail hsplit=>hunbound between other (tail++[step])
    (by rw [hsplit,List.append_assoc,List.cons_append]))
  rw [←List.append_assoc,run_append]
  apply hblocked.imp
  · intro hdisabled
    exact disabled_apply hdisabled
     (hrestart step (List.mem_append_right rest List.mem_cons_self))
  · intro hbarred
    exact barred_unless_bound hbarred (hunbound rest step [] rfl)

/-- A thumbnail that a locator leads to is of an artifact of the key it was last bound to, and the
locator is not revoked since then. -/
lemma served_binding {asked : Step} (hfree:CollisionFree l (steps++[asked]))
 (hcall:asked.call=.lookupLocator locator a)
 (hresult:((run l limits steps).lookupLocator l asked.faults locator
  a).1=some result) (hthumbnail:result.thumbnail=some thumbnail):
 ∃ key digest earlier b later,steps=earlier++b::later ∧
  BoundAt l limits earlier b later locator key ∧ ¬Revoked later locator ∧
  hashCacheKey l key=some digest ∧ Published steps key digest thumbnail.artifact ∧
  Decoded l thumbnail:=by
 have hnone:some ({} : CacheLookupResult)≠some result:=by
  intro hsame
  rw [←Option.some.inj hsame] at hthumbnail
  exact absurd hthumbnail nofun
 obtain ⟨row,t,hhash,htarget,hhas,hdecoded⟩:=lookupLocator_row hresult hthumbnail
 have hlocators (other : Step) (hother:other∈steps) (locator' : CacheLocatorKey)
   (hused:locator'∈callLocators other.call)
   (hhash':hashCacheLocator l locator'=some row) : locator'=locator:=by
  apply locator_of_digest hfree (List.mem_append_left [asked] hother)
   (List.mem_append_right steps List.mem_cons_self) hused _ hhash' hhash
  rw [hcall]
  exact List.mem_cons_self
 obtain ⟨locator',key,hlocator',hkey,earlier,b,later,hsplit,hbound⟩:=
  bound_run l limits steps row t htarget
 have hmem:b∈steps:=by
  rw [hsplit]
  exact List.mem_append_right earlier List.mem_cons_self
 have hused:locator'∈callLocators b.call ∧ key∈callKeys b.call:=by
  rw [hbound.1.1]
  exact ⟨List.mem_cons_self,List.mem_cons_self⟩
 obtain rfl:=hlocators b hmem locator' hused.1 hlocator'
 obtain ⟨key',hkey',publication,hpublication,request,hrequest,rfl,hartifact⟩:=
  run_has l limits steps hhas
 have hpublished:request.key∈callKeys publication.call:=by
  rw [hrequest]
  exact List.mem_cons_self
 have hsame:=key_of_digest hfree (List.mem_append_left [asked] hpublication)
  (List.mem_append_left [asked] hmem) hpublished hused.2 hkey' hkey
 refine ⟨key,t,earlier,b,later,hsplit,hbound,?_,hkey,
  ⟨publication,hpublication,request,hrequest,hsame,hartifact⟩,hdecoded⟩
 rintro ⟨between,step,rest,hlater,herase,hrestart⟩
 have hsteps:steps=((earlier++b::between)++[step])++rest:=by
  rw [hsplit,hlater,List.append_assoc,List.append_assoc,List.cons_append]
  rfl
 have hstart:Blocked row
   (run l limits ((earlier++b::between)++[step])):=by
  rw [run_append]
  unfold Step.apply
  rw [herase]
  exact eraseLocator_erased _ step.faults hhash
 have hblocked:=blocked_run hstart rest hrestart ?_
 · rw [←hsteps] at hblocked
   obtain hdisabled | hbarred:=hblocked
   · rw [lookupLocator_disabled l hdisabled locator'] at hresult
     exact hnone hresult
   · rw [lookupLocator_barred hhash hbarred] at hresult
     exact hnone hresult
 · intro mid other tail hrest locator key hlocator hbinds
   have hother:other∈steps:=by
    rw [hsteps,hrest]
    exact List.mem_append_right _ (List.mem_append_right mid List.mem_cons_self)
   have hcalled:locator∈callLocators other.call:=by
    rw [hbinds.1]
    exact List.mem_cons_self
   obtain rfl:=hlocators other hother locator hcalled hlocator
   apply hbound.2 (between++step::mid) other tail _ key
   · rw [List.append_assoc,List.append_assoc,List.singleton_append] at hbinds
     exact hbinds
   · rw [hlater,hrest,List.append_assoc,List.cons_append]

end Bindings

end VoVe.ThumbnailCacheOrigins
