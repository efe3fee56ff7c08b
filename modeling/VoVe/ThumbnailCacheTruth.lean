import VoVe.ThumbnailCacheRules

set_option autoImplicit false

namespace VoVe.ThumbnailCacheTruth
open ByteCodec CacheKeys ArtifactCodec ThumbnailCache ThumbnailCache.PersistentThumbnailCache
open ThumbnailCacheRules Checks TransactionCodec

section Records
variable {record next : ArtifactIndexRecord} {digest : CacheDigest} {artifact : ArtifactData}
 {key : CacheKey}

lemma describesStored_same (hsame:SameRow record next):
 describesStored next digest artifact=describesStored record digest artifact:=by
 rw [hsame]
 rfl

lemma describesStored_fromArtifact (key : CacheKey) (digest : CacheDigest)
 (artifact : ArtifactData) (accessUnixNs : ℤ):
 describesStored (recordFromArtifact key digest artifact accessUnixNs) digest artifact=
  true:=by
 rw [describesStored,decide_eq_true_eq]
 exact ⟨rfl,rfl,rfl,rfl,rfl,rfl⟩

lemma recordMatches_iff : recordMatches record key digest artifact=true ↔
 record.source=key.source ∧ describesStored record digest artifact=true:=by
 rw [recordMatches,describesStored,decide_eq_true_eq,decide_eq_true_eq]
 exact ⟨fun ⟨hdigest,hsource,hrest⟩=>⟨hsource,hdigest,hrest⟩,
  fun ⟨hsource,hdigest,hrest⟩=>⟨hdigest,hsource,hrest⟩⟩

lemma encoded_artifact {r : CachePublishRequest} {encoded : EncodedArtifact}
 (h:encodeVvt1 r.metadata r.payload digest
  ⟨r.sourceProfileName,r.sourceProfileFingerprint⟩=.ok encoded):
 ({ metadata:=encoded.metadata,cacheKeyDigest:=encoded.cacheKeyDigest
    colorIdentity:=encoded.colorIdentity,payload := r.payload } : ArtifactData)=
     artifactOf digest r ∧
  describesStored (makeRecord r digest encoded) digest (artifactOf digest r)=true:=by
 obtain ⟨header,haccepted⟩:=accepted_of_encoded h
 have hlength:=haccepted.length
 obtain ⟨-,-,-,hencoded⟩:=encodeVvt1_iff.mp h
 have hbytes:encoded.bytes.length=artifactBytes (artifactOf digest r):=by
  rw [hlength,artifactBytes,artifactOf,encodedHeaderBytes]
  dsimp only
  omega
 rw [describesStored,decide_eq_true_eq]
 refine ⟨?_,rfl,?_,?_,?_,rfl,hbytes⟩<;>rw [hencoded]<;>rfl

end Records

structure History where
 published : CacheDigest → ArtifactData → Prop
 sources : CacheDigest → SourceStamp → Prop
 bound : CacheDigest → CacheDigest → Prop

/-- Everything in the cache was published, and a copy agrees with its record. -/
structure Inv (history:History) (cache : PersistentThumbnailCache) : Prop where
 artifacts : ∀digest artifact,cache.artifacts digest=some artifact →
  history.published digest artifact
 copies : ∀entry∈cache.memory.entries,history.published entry.digest entry.artifact
 rows : ∀digest record,cache.index.records digest=some record →
  history.sources digest record.source
 agree : ∀entry∈cache.memory.entries,∀record, cache.index.records entry.digest=some record →
   describesStored record entry.digest entry.artifact=true
 locators : ∀locator digest,cache.index.locators locator=some digest →
  history.bound locator digest

structure Truthful (history:History) (digest : CacheDigest) (thumbnail : CachedThumbnail):
  Prop where
 published : history.published digest thumbnail.artifact
 record : ∀record,thumbnail.indexRecord=some record → history.sources digest record.source ∧
   describesStored record digest thumbnail.artifact=true

variable {record : ArtifactIndexRecord} {artifact : ArtifactData} {key : CacheKey}
 {digest : CacheDigest} {l locator : CacheLocatorKey} {steps : List Step}

section Steps
variable {history : History} {cache next : PersistentThumbnailCache} {digest : CacheDigest}

lemma Inv.below (h:Inv history cache) (hbelow:Below cache next) : Inv history next:=by
 refine ⟨?_,?_,?_,?_,?_⟩
 · intro digest artifact hartifact
   exact h.artifacts digest artifact (hbelow.artifacts digest artifact hartifact)
 · intro e hentry
   obtain ⟨before,hbefore,hdigest,hartifact⟩:=hbelow.copies e hentry
   rw [←hdigest,←hartifact]
   exact h.copies before hbefore
 · intro digest record hrecord
   obtain ⟨before,hbefore,hsame⟩:=hbelow.rows.records digest record hrecord
   rw [hsame]
   exact h.rows digest before hbefore
 · intro e hentry record hrecord
   obtain ⟨before,hbefore,hdigest,hartifact⟩:=hbelow.copies e hentry
   obtain ⟨row,hrow,hsame⟩:=hbelow.rows.records e.digest record hrecord
   rw [describesStored_same hsame,←hdigest,←hartifact]
   exact h.agree before hbefore row (hdigest.symm ▸ hrow)
 · intro l digest hlocator
   exact h.locators l digest (hbelow.rows.locators l digest hlocator)

lemma Inv.publishRecord (h:Inv history cache) (f : Faults) (record : ArtifactIndexRecord)
 (hsource:history.sources record.digest record.source)
 (hagree:∀e∈cache.memory.entries,e.digest=record.digest →
  describesStored record record.digest e.artifact=true):
 Inv history (cache.publishRecord f record).2:=by
 obtain ⟨-,hbelow⟩ | ⟨-,left,hleft,hrecords,hlocators⟩:=
  publish_cases f.publishRecord cache.index record
 · exact h.below (below_index hbelow)
 have hinv:=h.below (below_index hleft)
 refine ⟨hinv.artifacts,hinv.copies,?_,?_,?_⟩
 · intro digest row hrow
   change (cache.index.publish f.publishRecord record).2.records digest=some row at hrow
   rw [hrecords] at hrow
   by_cases hdigest:digest=record.digest
   · rw [hdigest,Function.update_self] at hrow
     rw [hdigest,←Option.some.inj hrow]
     exact hsource
   · rw [Function.update_of_ne hdigest] at hrow
     exact hinv.rows digest row hrow
 · intro e hentry row hrow
   change (cache.index.publish f.publishRecord record).2.records e.digest=some row
    at hrow
   rw [hrecords] at hrow
   by_cases hdigest:e.digest=record.digest
   · rw [hdigest,Function.update_self] at hrow
     rw [hdigest,←Option.some.inj hrow]
     exact hagree e hentry hdigest
   · rw [Function.update_of_ne hdigest] at hrow
     exact hinv.agree e hentry row hrow
 · intro l digest hlocator
   change (cache.index.publish f.publishRecord record).2.locators l=some digest
    at hlocator
   rw [hlocators] at hlocator
   exact hinv.locators l digest hlocator

lemma Inv.insertResident (h:Inv history cache) {artifact : ArtifactData}
 (hpublished:history.published digest artifact)
 (hagree:∀record,cache.index.records digest=some record →
  describesStored record digest artifact=true) (accessUnixNs : ℤ):
 Inv history (cache.insertResident digest artifact accessUnixNs):=by
 obtain ⟨-,hentries⟩ | ⟨-,hsame⟩:=insert_cases cache.memory digest artifact accessUnixNs
 · refine ⟨h.artifacts,?_,h.rows,?_,h.locators⟩
   · intro e hentry
     obtain ⟨hdigest,hartifact⟩ | ⟨-,hold⟩:=hentries e hentry
     · rw [hdigest,hartifact]
       exact hpublished
     · exact h.copies e hold
   · intro e hentry record hrecord
     obtain ⟨hdigest,hartifact⟩ | ⟨-,hold⟩:=hentries e hentry
     · rw [hdigest] at hrecord ⊢
       rw [hartifact]
       exact hagree record hrecord
     · exact h.agree e hold record hrecord
 · rw [PersistentThumbnailCache.insertResident,hsame]
   exact h

lemma Inv.writeArtifact (h:Inv history cache) {artifact : ArtifactData}
 (hpublished:history.published digest artifact):
 Inv history
  { cache with artifacts:=Function.update cache.artifacts digest (some artifact) }:=by
 refine ⟨?_,h.copies,h.rows,h.agree,h.locators⟩
 intro other stored hstored
 dsimp only at hstored
 by_cases hother:other=digest
 · rw [hother,Function.update_self] at hstored
   rw [hother,←Option.some.inj hstored]
   exact hpublished
 · rw [Function.update_of_ne hother] at hstored
   exact h.artifacts other stored hstored

def Takes (outcome : IndexOutcome) : Prop := outcome = .done ∨ outcome = .recovered

lemma publish_takes {outcome : IndexOutcome} {index : ArtifactIndex}:
 (index.publish outcome record).1=true ↔ Takes outcome:=by
 cases outcome<;>simp [ArtifactIndex.publish,ArtifactIndex.call,Takes]

end Steps

section Lookups
variable {history : History} {cache : PersistentThumbnailCache} {f faults : Faults}
 {digest : CacheDigest} {key : CacheKey} {resident : ArtifactData} {accessUnixNs : ℤ}

def ResidentStored (faults : Faults) (cache : PersistentThumbnailCache) (key : CacheKey)
  (digest : CacheDigest) (accessUnixNs : ℤ) (resident : ArtifactData) : Prop:=
 ∀stored,(cache.index.find faults.findRecord digest).1 = none →
  faults.lookupArtifact = none → cache.artifacts digest = some stored →
  Takes faults.publishRecord →
   describesStored (recordFromArtifact key digest stored accessUnixNs) digest resident = true

lemma truthful_nothing : ∀thumbnail,(none : Option CachedThumbnail)=some thumbnail →
 Truthful history digest thumbnail:=
 fun thumbnail h=>absurd h.symm (Option.some_ne_none thumbnail)

lemma lookupArtifact_some (h:cache.lookupArtifact f digest=.ok (some artifact)):
 f.lookupArtifact=none ∧ cache.artifacts digest=some artifact:=by
 unfold PersistentThumbnailCache.lookupArtifact at h
 cases hfault:f.lookupArtifact with
 | some message=>
  rw [hfault] at h
  exact absurd h nofun
 | none=>
  rw [hfault] at h
  exact ⟨rfl,Except.ok.inj h⟩

lemma below_publishRecord (h:¬(cache.publishRecord f record).1=true):
 Below cache (cache.publishRecord f record).2:=by
 obtain ⟨-,hbelow⟩ | ⟨hdone,-⟩:=publish_cases f.publishRecord cache.index record
 · exact below_index hbelow
 · exact absurd hdone h

lemma lookupResident_truthful (h:Inv history cache)
 (hsource:history.sources digest key.source)
 (hpublished:history.published digest resident)
 (hcopy:∃ e∈cache.memory.entries,e.digest=digest ∧ e.artifact=resident)
 (hcopies:∀e∈cache.memory.entries,e.digest=digest → e.artifact=resident)
 (hsound:ResidentStored f cache key digest accessUnixNs resident):
 Inv history (cache.lookupResident f key digest accessUnixNs resident).2 ∧
  ∀thumbnail,(cache.lookupResident f key digest accessUnixNs resident).1.thumbnail=
   some thumbnail → Truthful history digest thumbnail:=by
 have hfound:=h.below (below_findRecord cache f digest)
 have hnone:(cache.findRecord f digest).1=none →
   (cache.index.find f.findRecord digest).1=none := id
 have hsome:∀record,(cache.findRecord f digest).1=some record →
   cache.index.records digest=some record := fun record=>find_some
 have hartifacts:(cache.findRecord f digest).2.artifacts=cache.artifacts:=rfl
 have hmemory:(cache.findRecord f digest).2.memory=cache.memory:=rfl
 unfold lookupResident
 generalize cache.findRecord f digest=found at hfound hnone hsome hartifacts hmemory ⊢
 obtain ⟨record,next⟩:=found
 dsimp only at hfound hnone hsome hartifacts hmemory ⊢
 cases record with
 | some record=>
  dsimp only
  refine ⟨hfound.below (below_refreshResident accessUnixNs),?_⟩
  rintro thumbnail ⟨⟩
  refine ⟨hpublished,?_⟩
  rintro row ⟨⟩
  obtain ⟨e,hentry,hdigest,hartifact⟩:=hcopy
  have hrow:=hsome record rfl
  have hagree:=h.agree e hentry record (hdigest.symm ▸ hrow)
  rw [hdigest,hartifact] at hagree
  exact ⟨h.rows digest record hrow,hagree⟩
 | none=>
  dsimp only
  cases hlookup:next.lookupArtifact f digest with
  | error message=>
   dsimp only
   exact ⟨hfound.below below_eraseResident,truthful_nothing⟩
  | ok stored=>
   cases stored with
   | none=>
    dsimp only
    exact ⟨hfound.below below_eraseResident,truthful_nothing⟩
   | some stored=>
    obtain ⟨hfault,hstored⟩:=lookupArtifact_some hlookup
    rw [hartifacts] at hstored
    have hdescribes:=hsound stored (hnone rfl) hfault hstored
    dsimp only
    split
    · rename_i htakes
      have hinv:=hfound.publishRecord f
       (recordFromArtifact key digest stored accessUnixNs) hsource ?_
      · refine ⟨hinv.below (below_refreshResident accessUnixNs),?_⟩
        rintro thumbnail ⟨⟩
        refine ⟨hpublished,?_⟩
        rintro row ⟨⟩
        exact ⟨hsource,hdescribes (publish_takes.mp htakes)⟩
      · intro e hentry hdigest
        rw [hmemory] at hentry
        rw [hcopies e hentry hdigest]
        exact hdescribes (publish_takes.mp htakes)
    · rename_i hfailed
      refine ⟨hfound.below (below_publishRecord hfailed),?_⟩
      rintro thumbnail ⟨⟩
      exact ⟨hpublished,nofun⟩

lemma describes_below {next : PersistentThumbnailCache}
 (hrow:cache.index.records digest=some record)
 (hdescribes:describesStored record digest artifact=true) (hbelow:Below cache next):
 ∀row,next.index.records digest=some row → describesStored row digest artifact=true:=by
 intro row hnext
 obtain ⟨before,hbefore,hsame⟩:=hbelow.rows.records digest row hnext
 rw [hrow,Option.some.injEq] at hbefore
 rw [describesStored_same hsame,←hbefore]
 exact hdescribes

lemma publishRecord_row (h:(cache.publishRecord f record).1=true):
 (cache.publishRecord f record).2.index.records record.digest=some record:=by
 obtain ⟨hfailed,-⟩ | ⟨-,left,-,hrecords,-⟩:=publish_cases f.publishRecord cache.index record
 · exact absurd (hfailed.symm.trans h) nofun
 · change (cache.index.publish f.publishRecord record).2.records record.digest=some record
   rw [hrecords,Function.update_self]

lemma taken_describes (htaken:(cache.publishRecord f record).1=true)
 (hdigest:record.digest=digest) (hdescribes:describesStored record digest artifact=true)
 :
 ∀row,(cache.publishRecord f record).2.index.records digest=some row →
  describesStored row digest artifact=true:=by
 intro row hrow
 have hrecord:=publishRecord_row htaken
 rw [hdigest,hrow,Option.some.injEq] at hrecord
 rw [hrecord]
 exact hdescribes

lemma hitStored_truthful (h:Inv history cache) {artifact : ArtifactData} {image : QoiImage}
 {record : ArtifactIndexRecord} (hpublished:history.published digest artifact)
 (hsource:history.sources digest record.source)
 (hdescribes:describesStored record digest artifact=true)
 (hagree:∀row,cache.index.records digest=some row → describesStored row digest artifact=true):
 Inv history (cache.hitStored digest artifact image record).2 ∧
  ∀thumbnail,(cache.hitStored digest artifact image record).1.thumbnail=some thumbnail →
   Truthful history digest thumbnail:=by
 refine ⟨h.insertResident hpublished hagree record.lastAccessUnixNs,?_⟩
 rintro thumbnail ⟨⟩
 refine ⟨hpublished,?_⟩
 rintro row ⟨⟩
 exact ⟨hsource,hdescribes⟩

lemma recoverStored_truthful (h:Inv history cache)
 (hsource:history.sources digest key.source) {artifact : ArtifactData} {image : QoiImage}
 (hpublished:history.published digest artifact)
 (habsent:∀e∈cache.memory.entries,e.digest≠digest):
 Inv history (cache.recoverStored f key digest accessUnixNs artifact image).2 ∧
  ∀thumbnail,(cache.recoverStored f key digest accessUnixNs artifact
   image).1.thumbnail=some thumbnail → Truthful history digest thumbnail:=by
 have hdescribes:=describesStored_fromArtifact key digest artifact accessUnixNs
 unfold recoverStored
 dsimp only
 split
 · rename_i htaken
   have hinv:=h.publishRecord f (recordFromArtifact key digest artifact accessUnixNs)
    hsource fun e hentry hdigest=>absurd hdigest (habsent e hentry)
   exact hitStored_truthful hinv hpublished hsource hdescribes
    (taken_describes htaken rfl hdescribes)
 · rename_i hfailed
   refine ⟨h.below (below_publishRecord hfailed),?_⟩
   rintro thumbnail ⟨⟩
   exact ⟨hpublished,nofun⟩

lemma refreshed_truthful (h:Inv history cache) {artifact : ArtifactData} {image : QoiImage}
 {record : ArtifactIndexRecord} (hpublished:history.published digest artifact)
 (hsource:history.sources digest record.source)
 (hdescribes:describesStored record digest artifact=true)
 (hagree:∀row,cache.index.records digest=some row → describesStored row digest artifact=true):
 let used:=cache.refreshRecord f digest accessUnixNs record
 Inv history (used.2.hitStored digest artifact image used.1).2 ∧
  ∀thumbnail,(used.2.hitStored digest artifact image used.1).1.thumbnail=some thumbnail →
   Truthful history digest thumbnail:=by
 have hbelow:=below_refreshRecord cache f digest accessUnixNs record
 have hsame:=refreshRecord_same cache f digest accessUnixNs record
 have hused:describesStored (cache.refreshRecord f digest accessUnixNs record).1 digest
   artifact=true:=by
  rw [describesStored_same hsame]
  exact hdescribes
 refine hitStored_truthful (h.below hbelow) hpublished ?_ hused ?_
 · rw [hsame]
   exact hsource
 · intro row hrow
   obtain ⟨before,hbefore,hrefreshed⟩:=hbelow.rows.records digest row hrow
   rw [describesStored_same hrefreshed]
   exact hagree before hbefore

lemma dropMalformed_nothing (cache : PersistentThumbnailCache) (f : Faults)
 (digest : CacheDigest) (indexed : Bool):
 (cache.dropMalformed f digest indexed).1.thumbnail=none:=by
 unfold dropMalformed
 generalize cache.removeArtifact f digest=removal
 match removal with
 | (.error message,next)=>rfl
 | (.ok _,next)=>
  dsimp only
  split
  · split<;>rfl
  · rfl

variable (libraries : Libraries)

lemma lookupStored_truthful (f : Faults) (accessUnixNs : ℤ)
 (h:Inv history cache)
 (hsource:history.sources digest key.source)
 (habsent:∀e∈cache.memory.entries,e.digest≠digest):
 Inv history (cache.lookupStored libraries f key digest accessUnixNs).2 ∧
  ∀thumbnail,(cache.lookupStored libraries f key digest accessUnixNs).1.thumbnail=
   some thumbnail → Truthful history digest thumbnail:=by
 have hbelow:=below_findRecord cache f digest
 have hsome:∀record,(cache.findRecord f digest).1=some record →
   cache.index.records digest=some record := fun record=>find_some
 have hmemory:(cache.findRecord f digest).2.memory=cache.memory:=rfl
 unfold lookupStored
 generalize cache.findRecord f digest=found at hbelow hsome hmemory ⊢
 obtain ⟨record,next⟩:=found
 dsimp only at hbelow hsome hmemory ⊢
 have hfound:=h.below hbelow
 rw [←hmemory] at habsent
 cases hlookup:next.lookupArtifact f digest with
 | error message=>
  dsimp only
  exact ⟨hfound,truthful_nothing⟩
 | ok stored=>
  cases stored with
  | none=>
   dsimp only
   have herased:=hfound.below (below_eraseRecord next f digest)
   split
   · split
     · exact ⟨herased,truthful_nothing⟩
     · exact ⟨herased,truthful_nothing⟩
   · exact ⟨hfound,truthful_nothing⟩
  | some artifact=>
   obtain ⟨-,hstored⟩:=lookupArtifact_some hlookup
   have hpublished:=hfound.artifacts digest artifact hstored
   dsimp only
   cases decodedAs libraries artifact.metadata artifact.payload with
   | error message=>
    dsimp only
    refine ⟨hfound.below (below_dropMalformed record.isSome),?_⟩
    rw [dropMalformed_nothing]
    exact truthful_nothing
   | ok image=>
    dsimp only
    cases record with
    | none=>exact recoverStored_truthful hfound hsource hpublished habsent
    | some record=>
     dsimp only
     split
     · rename_i hmatches
       obtain ⟨hrow,hdescribes⟩:=recordMatches_iff.mp hmatches
       rw [←hrow] at hsource
       exact refreshed_truthful hfound hpublished hsource hdescribes
        (describes_below (hsome record rfl) hdescribes hbelow)
     · exact recoverStored_truthful hfound hsource hpublished habsent

lemma lookup_truthful (h:Inv history cache)
 (hhash:hashCacheKey libraries key=some digest)
 (hsource:history.sources digest key.source)
 (hsound:∀resident,(cache.memory.find digest).1=some resident →
  ResidentStored f cache key digest accessUnixNs resident):
 Inv history (cache.lookup libraries f key accessUnixNs).2 ∧
  ∀result thumbnail,(cache.lookup libraries f key accessUnixNs).1=some result →
   result.thumbnail=some thumbnail → Truthful history digest thumbnail:=by
 have hmemory:Below cache { cache with memory:=(cache.memory.find digest).2 }:=
  below_memory copiesBelow_find
 have hcases:=memoryFind_cases cache.memory digest
 unfold lookup
 rw [hhash]
 dsimp only
 generalize cache.memory.find digest=found at hmemory hcases hsound ⊢
 obtain ⟨resident,memory⟩:=found
 dsimp only at hmemory hcases hsound ⊢
 have hinv:=h.below hmemory
 cases resident with
 | none=>
  obtain ⟨-,habsent⟩ | ⟨e,-,-,hfound,-⟩:=hcases
  · obtain ⟨hnext,htruthful⟩:=lookupStored_truthful libraries f
     accessUnixNs hinv hsource habsent
    refine ⟨hnext,?_⟩
    rintro result thumbnail ⟨⟩
    exact htruthful thumbnail
  · exact absurd hfound nofun
 | some resident=>
  obtain ⟨hfound,-⟩ | ⟨e,hentry,hdigest,hfound,hunique⟩:=hcases
  · exact absurd hfound nofun
  · have hartifact:=Option.some.inj hfound
    have hpublished:=hinv.copies e hentry
    rw [hdigest,←hartifact] at hpublished
    obtain ⟨hnext,htruthful⟩:=lookupResident_truthful hinv hsource hpublished
     ⟨e,hentry,hdigest,hartifact.symm⟩
     (fun other hother heq=>(hunique other hother heq).symm ▸ hartifact.symm)
     (hsound resident rfl)
    refine ⟨hnext,?_⟩
    rintro result thumbnail ⟨⟩
    exact htruthful thumbnail

lemma lookupBound_truthful (f : Faults) (h:Inv history cache)
 (l digest : CacheDigest) (accessUnixNs : ℤ):
 Inv history (cache.lookupBound libraries f l digest accessUnixNs).2 ∧
  ∀thumbnail,(cache.lookupBound libraries f l digest
   accessUnixNs).1.thumbnail=some thumbnail → Truthful history digest thumbnail:=by
 have hbelow:=below_findRecord cache f digest
 have hsome:∀record,(cache.findRecord f digest).1=some record →
   cache.index.records digest=some record := fun record=>find_some
 unfold lookupBound
 generalize cache.findRecord f digest=found at hbelow hsome ⊢
 obtain ⟨record,next⟩:=found
 dsimp only at hbelow hsome ⊢
 cases record with
 | none=>
  dsimp only
  exact ⟨h.below (hbelow.trans (below_eraseLocatorRow l)),truthful_nothing⟩
 | some record=>
  have hrow:=hsome record rfl
  have hsource:=h.rows digest record hrow
  have hmemory:Below next { next with memory:=(next.memory.find digest).2 }:=
   below_memory copiesBelow_find
  have hcases:=memoryFind_cases next.memory digest
  dsimp only
  generalize next.memory.find digest=found at hmemory hcases ⊢
  obtain ⟨resident,memory⟩:=found
  dsimp only at hmemory hcases ⊢
  have hinv:=h.below (hbelow.trans hmemory)
  cases resident with
  | some resident=>
   obtain ⟨hfound,-⟩ | ⟨e,hentry,hdigest,hfound,-⟩:=hcases
   · exact absurd hfound nofun
   obtain ⟨before,hbefore,hsame,hartifact⟩:=(hbelow.trans hmemory).copies e hentry
   have hresident:before.artifact=resident:=hartifact.trans (Option.some.inj hfound).symm
   rw [hdigest] at hsame
   have hpublished:=h.copies before hbefore
   have hagree:=h.agree before hbefore record (hsame.symm ▸ hrow)
   rw [hsame,hresident] at hpublished hagree
   have hused:=refreshRecord_same { next with memory:=memory } f digest accessUnixNs
    record
   dsimp only
   refine ⟨hinv.below (below_refreshRecord _ f digest accessUnixNs record),?_⟩
   rintro thumbnail ⟨⟩
   refine ⟨hpublished,?_⟩
   rintro row ⟨⟩
   rw [describesStored_same hused]
   refine ⟨?_,hagree⟩
   rw [hused]
   exact hsource
  | none=>
   have hdropped:=hinv.below (below_dropBinding _ f l digest)
   dsimp only
   cases hlookup:lookupArtifact f { next with memory:=memory } digest with
   | error message=>
    dsimp only
    exact ⟨hdropped,truthful_nothing⟩
   | ok stored=>
    cases stored with
    | none=>
     dsimp only
     exact ⟨hdropped,truthful_nothing⟩
    | some artifact=>
     obtain ⟨-,hstored⟩:=lookupArtifact_some hlookup
     have hpublished:=hinv.artifacts digest artifact hstored
     have hremoved:=hinv.below ((below_removeArtifact _ f digest).trans
      (below_dropBinding _ f l digest))
     dsimp only
     cases decodedAs libraries artifact.metadata artifact.payload with
     | error message=>
      dsimp only
      exact ⟨hremoved,truthful_nothing⟩
     | ok image=>
      dsimp only
      split
      · rename_i hdescribes
        exact refreshed_truthful hinv hpublished hsource hdescribes
         (describes_below hrow hdescribes (hbelow.trans hmemory))
      · exact ⟨hremoved,truthful_nothing⟩

lemma lookupLocator_truthful (h:Inv history cache)
 {l : CacheLocatorKey} {row : CacheDigest}
 (hhash:hashCacheLocator libraries l=some row):
 Inv history (cache.lookupLocator libraries f l accessUnixNs).2 ∧ ∀result thumbnail,
   (cache.lookupLocator libraries f l accessUnixNs).1=some result →
   result.thumbnail=some thumbnail →
    ∃ digest,history.bound row digest ∧ Truthful history digest thumbnail:=by
 have hnothing:∀result thumbnail,some ({} : CacheLookupResult)=some result →
   result.thumbnail=some thumbnail →
    ∃ digest,history.bound row digest ∧ Truthful history digest thumbnail:=by
  rintro result thumbnail ⟨⟩ hthumbnail
  exact absurd hthumbnail.symm (Option.some_ne_none thumbnail)
 unfold lookupLocator
 rw [hhash]
 split
 · exact ⟨h,hnothing⟩
 dsimp only
 split
 · exact ⟨h,hnothing⟩
 have hbelow:Below cache
   { cache with index:=(cache.index.findLocator f.findLocator row).2 }:=
  below_index (rowsBelow_findLocator row)
 have hbound:∀digest,(cache.index.findLocator f.findLocator row).1=some digest →
   history.bound row digest:=
  fun digest hdigest=>h.locators row digest (findLocator_some hdigest)
 generalize cache.index.findLocator f.findLocator row=found at hbelow hbound ⊢
 obtain ⟨digest,index⟩:=found
 dsimp only at hbelow hbound ⊢
 have hinv:=h.below hbelow
 cases digest with
 | none=>exact ⟨hinv,hnothing⟩
 | some digest=>
  obtain ⟨hnext,htruthful⟩:=lookupBound_truthful libraries f hinv row digest
   accessUnixNs
  refine ⟨hnext,?_⟩
  rintro result thumbnail ⟨⟩ hthumbnail
  exact ⟨digest,hbound digest rfl,htruthful thumbnail hthumbnail⟩

end Lookups

section Publications
variable {history : History} {cache : PersistentThumbnailCache} {f faults : Faults}
 {digest : CacheDigest} {r request : CachePublishRequest}

variable (libraries : Libraries)

def ReplacesResident (faults : Faults) (cache : PersistentThumbnailCache)
  (request : CachePublishRequest) (digest : CacheDigest) : Prop:=
 faults.writeArtifact = none → Takes faults.publishRecord →
  (∃ image,decodedAs libraries request.metadata request.payload = .ok image) →
  (∃ encoded,encodeVvt1 request.metadata request.payload digest
   ⟨request.sourceProfileName,request.sourceProfileFingerprint⟩ = .ok encoded) →
  Fits cache.memory.limits (artifactOf digest request) ∨
   ∀entry ∈ cache.memory.entries,entry.digest = digest →
    entry.artifact = artifactOf digest request

lemma insert_of_fits {memory : MemoryArtifactCache} (hfits:Fits memory.limits artifact)
 (accessUnixNs : ℤ):
 memory.insert digest artifact accessUnixNs={ memory with
  entries:=evictToLimits memory.limits
   (⟨digest,artifact,artifactWeight artifact,accessUnixNs⟩ ::
    memory.entries.filter (·.digest≠digest)) }:=by
 unfold ThumbnailCache.MemoryArtifactCache.insert
 apply if_neg
 rw [not_or,not_lt]
 exact hfits

lemma insert_erase (digest : CacheDigest) {memory : MemoryArtifactCache}
 {artifact : ArtifactData} (hfits:Fits memory.limits artifact) (accessUnixNs : ℤ):
 (memory.erase digest).2.insert digest artifact accessUnixNs=
  memory.insert digest artifact accessUnixNs:=by
 have herased:Fits (memory.erase digest).2.limits artifact:=hfits
 have hfilter:(memory.erase digest).2.entries.filter (·.digest≠digest)=
   memory.entries.filter (·.digest≠digest):=by
  change (memory.entries.filter (·.digest≠digest)).filter (·.digest≠digest)=_
  rw [List.filter_filter]
  simp only [Bool.and_self]
 rw [insert_of_fits herased,insert_of_fits hfits,hfilter]
 rfl

lemma publishEncoded_inv (h:Inv history cache) {encoded : EncodedArtifact}
 (hencoded:encodeVvt1 r.metadata r.payload digest
  ⟨r.sourceProfileName,r.sourceProfileFingerprint⟩=.ok encoded)
 (hpublished:history.published digest (artifactOf digest r))
 (hsource:history.sources digest r.key.source)
 (hsound:f.writeArtifact=none → Takes f.publishRecord →
  Fits cache.memory.limits (artifactOf digest r) ∨ ∀e∈cache.memory.entries,e.digest=digest →
    e.artifact=artifactOf digest r):
 Inv history (cache.publishEncoded f r digest encoded).2:=by
 obtain ⟨hartifact,hdescribes⟩:=encoded_artifact hencoded
 unfold publishEncoded
 rw [hartifact]
 cases hwrite:f.writeArtifact with
 | some message=>exact h
 | none=>
  have hwritten:Inv history
    { cache with
      artifacts:=Function.update cache.artifacts digest (some (artifactOf digest r)) }:=
   h.writeArtifact hpublished
  dsimp only
  split
  · rename_i htaken
    dsimp only
    obtain hfits | hsame:=hsound hwrite (publish_takes.mp htaken)
    · have herased:Inv history (eraseResident
        { cache with
          artifacts:=
           Function.update cache.artifacts digest (some (artifactOf digest r)) } digest):=
       hwritten.below below_eraseResident
      have hinv:=herased.publishRecord f (makeRecord r digest encoded) hsource
       fun e hentry hdigest=>absurd hdigest (erase_absent e hentry)
      have hresident:=hinv.insertResident hpublished (taken_describes htaken rfl hdescribes)
       r.accessUnixNs
      have hmemory:=insert_erase digest hfits r.accessUnixNs
      change Inv history { (cache.publishRecord f (makeRecord r digest encoded)).2 with
       artifacts:=Function.update cache.artifacts digest (some (artifactOf digest r))
       memory:=cache.memory.insert digest (artifactOf digest r) r.accessUnixNs }
      rw [←hmemory]
      exact hresident
    · have hinv:=hwritten.publishRecord f (makeRecord r digest encoded) hsource ?_
      · exact hinv.insertResident hpublished (taken_describes htaken rfl hdescribes)
         r.accessUnixNs
      · intro e hentry hdigest
        rw [hsame e hentry hdigest]
        exact hdescribes
  · rename_i hfailed
    have hremoved:=hwritten.below
     ((below_publishRecord hfailed).trans (below_removeArtifact _ f digest))
    split
    · exact hremoved
    · exact hremoved

lemma publish_unhashed (f : Faults)
 (cache : PersistentThumbnailCache) {r : CachePublishRequest}
 (hhash:hashCacheKey libraries r.key=none):
 (cache.publish libraries f r).2=cache:=by
 unfold PersistentThumbnailCache.publish
 rw [hhash]
 cases decodedAs libraries r.metadata r.payload<;>rfl

lemma publish_inv (h:Inv history cache)
 (hhash:hashCacheKey libraries r.key=some digest)
 (hpublished:history.published digest (artifactOf digest r))
 (hsource:history.sources digest r.key.source)
 (hsound:ReplacesResident libraries f cache r digest):
 Inv history (cache.publish libraries f r).2:=by
 unfold PersistentThumbnailCache.publish
 rw [hhash]
 cases hdecoded:decodedAs libraries r.metadata r.payload with
 | error message=>exact h
 | ok image=>
  dsimp only
  cases hencoded:encodeVvt1 r.metadata r.payload digest
    ⟨r.sourceProfileName,r.sourceProfileFingerprint⟩ with
  | error error=>exact h
  | ok encoded=>
   exact publishEncoded_inv h hencoded hpublished hsource fun hwrite htakes =>
    hsound hwrite htakes ⟨image,hdecoded⟩ ⟨encoded,hencoded⟩

lemma bindLocator_inv (f : Faults) (h:Inv history cache)
 {l : CacheLocatorKey} {key : CacheKey} {row : CacheDigest}
 (hlocator:hashCacheLocator libraries l=some row)
 (hkey:hashCacheKey libraries key=some digest)
 (bound : CacheDigest → CacheDigest → Prop)
 (hnew:(cache.index.publishLocator f.publishLocator row digest).1=true → bound row digest)
 (hold:∀other digest',history.bound other digest' →
  (other=row → (cache.index.publishLocator f.publishLocator row digest).1=false) →
  bound other digest'):
 Inv { history with bound:=bound } (cache.bindLocator libraries f l key).2:=by
 have hcases:=publishLocator_cases f.publishLocator cache.index row digest
 unfold PersistentThumbnailCache.bindLocator
 rw [hlocator,hkey]
 dsimp only
 generalize cache.index.publishLocator f.publishLocator row digest=result
  at hnew hold hcases ⊢
 obtain ⟨published,index⟩:=result
 dsimp only at hnew hold hcases ⊢
 obtain ⟨rfl,hbelow⟩ | ⟨rfl,hrecords,hlocators⟩:=hcases
 · have hinv:=h.below (below_index hbelow)
   exact ⟨hinv.artifacts,hinv.copies,hinv.rows,hinv.agree,
    fun other digest' hother=>hold other digest' (hinv.locators other digest' hother)
     fun _=>rfl⟩
 · have hinv:Inv { history with bound:=bound } { cache with index:=index }:=by
    refine ⟨h.artifacts,h.copies,?_,?_,?_⟩
    · intro digest' record hrecord
      exact h.rows digest' record (hrecords ▸ hrecord)
    · intro e hentry record hrecord
      exact h.agree e hentry record (hrecords ▸ hrecord)
    · intro other digest' hother
      dsimp only at hother
      rw [hlocators] at hother
      by_cases hsame:other=row
      · rw [hsame,Function.update_self] at hother
        rw [hsame,←Option.some.inj hother]
        exact hnew rfl
      · rw [Function.update_of_ne hsame] at hother
        exact hold other digest' (h.locators other digest' hother)
         fun heq=>absurd heq hsame
   exact hinv.below (below_removeLocatorRevocation row)

end Publications

section Runs
variable (libraries : Libraries) (limits : MemoryCacheLimits)

def callKeys : Call → List CacheKey
 | .publish request=>[request.key]
 | .lookup key _=>[key]
 | .bindLocator _ key=>[key]
 | .erase key=>[key]
 | _=>[]

def callLocators : Call → List CacheLocatorKey
 | .lookupLocator locator _=>[locator]
 | .bindLocator locator _=>[locator]
 | .eraseLocator locator=>[locator]
 | _=>[]

/-- What is hashed for the calls of a run. -/
def Serialized (steps : List Step) (bytes : Bytes) : Prop:=
 ∃ step ∈ steps,(∃ key ∈ callKeys step.call,serializeCacheKey key = .ok bytes) ∨
  ∃ locator ∈ callLocators step.call,serializeCacheLocator locator = .ok bytes

/-- No two serializations of the run have one digest. -/
def CollisionFree (steps : List Step) : Prop:=
 ∀bytes bytes',Serialized steps bytes → Serialized steps bytes' →
  libraries.sha256 bytes = libraries.sha256 bytes' → bytes = bytes'

variable (cache : PersistentThumbnailCache)

def Binds (step : Step) (locator : CacheLocatorKey)
  (key : CacheKey) : Prop:=
 step.call = .bindLocator locator key ∧
  ∃ row digest,hashCacheLocator libraries locator = some row ∧
   hashCacheKey libraries key = some digest ∧
   (cache.index.publishLocator step.faults.publishLocator row digest).1 = true

def LastBound (before : List Step) (locator : CacheLocatorKey) (key : CacheKey) : Prop:=
 ∃ earlier step later,before = earlier++step::later ∧
  Binds libraries (run libraries limits earlier) step locator key ∧
  ∀between other rest,later = between++other::rest → ∀next,
   ¬Binds libraries (run libraries limits (earlier++step::between)) other locator next

def Published (before : List Step) (key : CacheKey) (digest : CacheDigest)
  (artifact : ArtifactData) : Prop:=
 ∃ step ∈ before,∃ request,step.call = .publish request ∧ request.key = key ∧
  artifact = artifactOf digest request

structure Serves (before : List Step) (key : CacheKey) (digest : CacheDigest)
  (thumbnail : CachedThumbnail) : Prop where
 artifact : Published before key digest thumbnail.artifact
 record : ∀record,thumbnail.indexRecord=some record →
  recordMatches record key digest thumbnail.artifact=true

def LookupsTruthful (steps : List Step) : Prop:=
 ∀before step after key accessUnixNs digest result thumbnail,
  steps = before++step::after → step.call = .lookup key accessUnixNs →
  hashCacheKey libraries key = some digest →
  ((run libraries limits before).lookup libraries step.faults key accessUnixNs).1 = some result →
  result.thumbnail = some thumbnail → Serves before key digest thumbnail

def LocatorsTruthful (steps : List Step) : Prop:=
 ∀before step after locator accessUnixNs result thumbnail,
  steps = before++step::after → step.call = .lookupLocator locator accessUnixNs →
  ((run libraries limits before).lookupLocator libraries step.faults locator
   accessUnixNs).1 = some result →
  result.thumbnail = some thumbnail → ∃ key digest,LastBound libraries limits before locator key ∧
    hashCacheKey libraries key = some digest ∧ Serves before key digest thumbnail

/-- Nothing fails in the step, and it neither publishes nor erases the key, nor prunes. -/
def Retains (key : CacheKey) (step : Step) : Prop:=
 step.faults = {} ∧ (∀request,step.call = .publish request → request.key≠key) ∧
  step.call≠.erase key ∧ ∀removal,step.call≠.prune removal

def PublicationsKept (steps : List Step) : Prop:=
 ∀before step later last after request accessUnixNs,
  steps = before++step::(later++last::after) → step.call = .publish request →
  ((run libraries limits before).publish libraries step.faults request).1.published = true →
  (∀step ∈ later,Retains request.key step) →
  last = { call:=.lookup request.key accessUnixNs } → ∃ digest result thumbnail record,
    hashCacheKey libraries request.key = some digest ∧
    ((run libraries limits (before++step::later)).lookup libraries {} request.key
     accessUnixNs).1 = some result ∧
    (result.kind = .memoryHit ∨ result.kind = .diskHit) ∧
    result.thumbnail = some thumbnail ∧ thumbnail.artifact = artifactOf digest request ∧
    thumbnail.indexRecord = some record ∧
    recordMatches record request.key digest thumbnail.artifact = true

/-- Nothing wrong and nothing stale is served in the run. -/
def NeverWrong (steps : List Step) : Prop:=
 LookupsTruthful libraries limits steps ∧ LocatorsTruthful libraries limits steps ∧
  PublicationsKept libraries limits steps

/-- The step does not leave an artifact in memory under the record of another one. -/
def SoundStep (step : Step) : Prop:=
 match step.call with
 | .publish request=>∀digest,hashCacheKey libraries request.key = some digest →
  ReplacesResident libraries step.faults cache request digest
 | .lookup key accessUnixNs=>∀digest,hashCacheKey libraries key = some digest →
  ∀resident,(cache.memory.find digest).1 = some resident →
   ResidentStored step.faults cache key digest accessUnixNs resident
 | _=>True

def SoundRun (steps : List Step) : Prop:=
 ∀before step after,steps = before++step::after →
  SoundStep libraries (run libraries limits before) step

/-- What is known of a run after its first steps. -/
def historyOf (steps before : List Step) : History where
 published:=fun digest artifact=>∃ key,hashCacheKey libraries key = some digest ∧
  Published before key digest artifact
 sources:=fun digest source=>∃ step ∈ steps,∃ key ∈ callKeys step.call,
  hashCacheKey libraries key = some digest ∧ key.source = source
 bound:=fun row digest=>∃ locator key,hashCacheLocator libraries locator = some row ∧
  hashCacheKey libraries key = some digest ∧ LastBound libraries limits before locator key

variable {libraries limits} {steps before : List Step} {step : Step}

lemma run_append (libraries : Libraries) (limits : MemoryCacheLimits) (before : List Step)
 (step : Step) : run libraries limits (before++[step])=
  step.apply libraries (run libraries limits before):=by
 rw [run,List.foldl_append]
 rfl

lemma Published.append (h:Published before key digest artifact) (later : List Step):
 Published (before++later) key digest artifact:=by
 obtain ⟨earlier,hearlier,hrequest⟩:=h
 exact ⟨earlier,List.mem_append_left later hearlier,hrequest⟩

lemma lastBound_append (h:LastBound libraries limits before l key)
 (hstep:∀next,¬Binds libraries (run libraries limits before) step l next):
 LastBound libraries limits (before++[step]) l key:=by
 obtain ⟨earlier,binding,later,rfl,hbinds,hlater⟩:=h
 refine ⟨earlier,binding,later++[step],?_,hbinds,?_⟩
 · rw [List.append_assoc,List.cons_append]
 · intro between other rest hsplit
   obtain rfl | ⟨rest,last,rfl⟩:=rest.eq_nil_or_concat
   · obtain ⟨rfl,hlast⟩:=List.append_inj' hsplit rfl
     obtain rfl:=(List.cons.inj hlast).1
     exact hstep
   · rw [List.concat_eq_append,←List.cons_append,←List.append_assoc] at hsplit
     exact hlater between other rest (List.append_inj' hsplit rfl).1

lemma lastBound_new (h:Binds libraries (run libraries limits before) step l key):
 LastBound libraries limits (before++[step]) l key:=by
 refine ⟨before,step,[],rfl,h,?_⟩
 intro between other rest hsplit
 exact absurd hsplit.symm (List.append_ne_nil_of_right_ne_nil between nofun)

lemma historyOf_published (steps : List Step) (step : Step) {digest : CacheDigest}
 {artifact : ArtifactData}
 (h:(historyOf libraries limits steps before).published digest artifact):
 (historyOf libraries limits steps (before++[step])).published digest artifact:=by
 obtain ⟨key,hkey,hpublished⟩:=h
 exact ⟨key,hkey,hpublished.append [step]⟩

lemma inv_history {cache : PersistentThumbnailCache}
 (h:Inv (historyOf libraries limits steps before) cache)
 (hstep:∀l key,¬Binds libraries (run libraries limits before) step l key):
 Inv (historyOf libraries limits steps (before++[step])) cache:=by
 refine ⟨?_,?_,h.rows,h.agree,?_⟩
 · intro digest artifact hartifact
   exact historyOf_published steps step (h.artifacts digest artifact hartifact)
 · intro e hentry
   exact historyOf_published steps step (h.copies e hentry)
 · intro row digest hrow
   obtain ⟨l,key,hlocator,hkey,hbound⟩:=h.locators row digest hrow
   exact ⟨l,key,hlocator,hkey,lastBound_append hbound (hstep l)⟩

lemma inv_step (hmem:step∈steps)
 (h:Inv (historyOf libraries limits steps before) (run libraries limits before))
 (hsound:SoundStep libraries (run libraries limits before) step):
 Inv (historyOf libraries limits steps (before++[step]))
  (run libraries limits (before++[step])):=by
 rw [run_append]
 generalize hcache : run libraries limits before=cache at h hsound ⊢
 have hunbound (hcall:∀l key,step.call≠.bindLocator l key):
   Inv (historyOf libraries limits steps (before++[step])) cache:=
  inv_history h fun l key hbinds=>hcall l key hbinds.1
 unfold Step.apply
 unfold SoundStep at hsound
 cases hcall:step.call with
 | publish r=>
  rw [hcall] at hsound
  have hinv:=hunbound (by rw [hcall]; exact nofun)
  dsimp only at hsound ⊢
  cases hhash:hashCacheKey libraries r.key with
  | none=>
   rw [publish_unhashed libraries step.faults cache hhash]
   exact hinv
  | some digest=>
   refine publish_inv libraries hinv hhash ?_ ?_ (hsound digest hhash)
   · exact ⟨r.key,hhash,step,List.mem_append_right before List.mem_cons_self,r, hcall,rfl,rfl⟩
   · exact ⟨step,hmem,r.key,by rw [hcall]; exact List.mem_cons_self,hhash,rfl⟩
 | lookup key accessUnixNs=>
  rw [hcall] at hsound
  have hinv:=hunbound (by rw [hcall]; exact nofun)
  dsimp only at hsound ⊢
  cases hhash:hashCacheKey libraries key with
  | none=>
   rw [PersistentThumbnailCache.lookup,hhash]
   exact hinv
  | some digest=>
   refine (lookup_truthful libraries hinv hhash ?_ (hsound digest hhash)).1
   exact ⟨step,hmem,key,by rw [hcall]; exact List.mem_cons_self,hhash,rfl⟩
 | lookupLocator l accessUnixNs=>
  have hinv:=hunbound (by rw [hcall]; exact nofun)
  dsimp only
  cases hhash:hashCacheLocator libraries l with
  | none=>
   rw [PersistentThumbnailCache.lookupLocator,hhash]
   split
   · exact hinv
   · exact hinv
  | some row=>exact (lookupLocator_truthful libraries hinv hhash).1
 | bindLocator l key=>
  dsimp only
  cases hlocator:hashCacheLocator libraries l with
  | none=>
   rw [PersistentThumbnailCache.bindLocator,hlocator]
   apply inv_history h
   rintro locator' key' ⟨hnext,row,digest,hrow,-,-⟩
   obtain ⟨rfl,rfl⟩:=Call.bindLocator.inj (hcall.symm.trans hnext)
   exact absurd (hlocator.symm.trans hrow) nofun
  | some row=>
   cases hkey:hashCacheKey libraries key with
   | none=>
    rw [PersistentThumbnailCache.bindLocator,hlocator,hkey]
    apply inv_history h
    rintro locator' key' ⟨hnext,row,digest,-,hdigest,-⟩
    obtain ⟨rfl,rfl⟩:=Call.bindLocator.inj (hcall.symm.trans hnext)
    exact absurd (hkey.symm.trans hdigest) nofun
   | some digest=>
    have hinv:=bindLocator_inv libraries step.faults h hlocator hkey
     (historyOf libraries limits steps (before++[step])).bound ?_ ?_
    · refine ⟨?_,?_,hinv.rows,hinv.agree,hinv.locators⟩
      · intro digest' artifact hartifact
        exact historyOf_published steps step (hinv.artifacts digest' artifact hartifact)
      · intro e hentry
        exact historyOf_published steps step (hinv.copies e hentry)
    · intro htaken
      refine ⟨l,key,hlocator,hkey,lastBound_new ⟨hcall,row,digest,hlocator,hkey, ?_⟩⟩
      rw [hcache]
      exact htaken
    · rintro other digest' ⟨locator',key',hlocator',hkey',hbound⟩ hother
      refine ⟨locator',key',hlocator',hkey',lastBound_append hbound ?_⟩
      rintro next ⟨hnext,row',digest'',hrow',hdigest'',htaken⟩
      obtain ⟨rfl,rfl⟩:=Call.bindLocator.inj (hcall.symm.trans hnext)
      obtain rfl:=Option.some.inj (hlocator.symm.trans hrow')
      obtain rfl:=Option.some.inj (hkey.symm.trans hdigest'')
      rw [hcache,hother (Option.some.inj (hlocator'.symm.trans hlocator))] at htaken
      exact absurd htaken nofun
 | eraseLocator l=>
  exact (hunbound (by rw [hcall]; exact nofun)).below (below_eraseLocator libraries l)
 | erase key=>exact (hunbound (by rw [hcall]; exact nofun)).below (below_erase libraries key)
 | prune removal=>exact (hunbound (by rw [hcall]; exact nofun)).below (below_prune removal)
 | restart=>exact (hunbound (by rw [hcall]; exact nofun)).below below_restart

lemma inv_run (hsound:SoundRun libraries limits steps) (before after : List Step)
 (hsplit:steps=before++after):
 Inv (historyOf libraries limits steps before) (run libraries limits before):=by
 induction before using List.reverseRecOn generalizing after with
 | nil=>exact ⟨nofun,nofun,nofun,nofun,nofun⟩
 | append_singleton before step ih=>
  rw [List.append_assoc,List.singleton_append] at hsplit
  apply inv_step _ (ih (step::after) hsplit) (hsound before step after hsplit)
  rw [hsplit]
  exact List.mem_append_right before List.mem_cons_self

end Runs

section Digests
variable {libraries : Libraries}

lemma fit_of_serialized {strings : List Bytes} {payload bytes : Bytes}
 (h:serialized strings payload=.ok bytes) : StringsFit strings ∧ payload=bytes:=by
 unfold serialized at h
 rw [bind_unit_eq_ok,require_eq_ok,pure_eq_ok] at h
 refine ⟨?_,h.2⟩
 intro text htext
 have hlength:=of_decide_eq_true (List.all_eq_true.mp h.1 text htext)
 unfold maximumStringBytes at hlength
 omega

lemma hashCacheKey_some (h:hashCacheKey libraries key=some digest):
 ∃ bytes,serializeCacheKey key=.ok bytes ∧ libraries.sha256 bytes=digest:=by
 unfold hashCacheKey at h
 cases hbytes:serializeCacheKey key with
 | error thrown=>
  rw [hbytes] at h
  exact absurd h nofun
 | ok bytes=>
  rw [hbytes] at h
  exact ⟨bytes,rfl,Option.some.inj h⟩

lemma hashCacheLocator_some {row : CacheDigest}
 (h:hashCacheLocator libraries l=some row):
 ∃ bytes,serializeCacheLocator l=.ok bytes ∧ libraries.sha256 bytes=row:=by
 unfold hashCacheLocator at h
 cases hbytes:serializeCacheLocator l with
 | error thrown=>
  rw [hbytes] at h
  exact absurd h nofun
 | ok bytes=>
  rw [hbytes] at h
  exact ⟨bytes,rfl,Option.some.inj h⟩

lemma key_of_digest (hfree:CollisionFree libraries steps) {step step' : Step}
 (hstep:step∈steps) (hstep':step'∈steps) {key key' : CacheKey}
 (hkey:key∈callKeys step.call) (hkey':key'∈callKeys step'.call) {digest : CacheDigest}
 (hhash:hashCacheKey libraries key=some digest)
 (hhash':hashCacheKey libraries key'=some digest) : key=key':=by
 obtain ⟨bytes,hbytes,hdigest⟩:=hashCacheKey_some hhash
 obtain ⟨bytes',hbytes',hdigest'⟩:=hashCacheKey_some hhash'
 have hsame:=hfree bytes bytes' ⟨step,hstep,.inl ⟨key,hkey,hbytes⟩⟩
  ⟨step',hstep',.inl ⟨key',hkey',hbytes'⟩⟩ (hdigest.trans hdigest'.symm)
 obtain ⟨hfit,hpayload⟩:=fit_of_serialized hbytes
 obtain ⟨hfit',hpayload'⟩:=fit_of_serialized hbytes'
 exact keyPayload_injective hfit hfit' (by rw [hpayload,hpayload',hsame])

lemma locator_of_digest (hfree:CollisionFree libraries steps) {step step' : Step}
 (hstep:step∈steps) (hstep':step'∈steps) {l locator' : CacheLocatorKey}
 (hlocator:l∈callLocators step.call) (hlocator':locator'∈callLocators step'.call)
 {row : CacheDigest} (hhash:hashCacheLocator libraries l=some row)
 (hhash':hashCacheLocator libraries locator'=some row) : l=locator':=by
 obtain ⟨bytes,hbytes,hdigest⟩:=hashCacheLocator_some hhash
 obtain ⟨bytes',hbytes',hdigest'⟩:=hashCacheLocator_some hhash'
 have hsame:=hfree bytes bytes' ⟨step,hstep,.inr ⟨l,hlocator,hbytes⟩⟩
  ⟨step',hstep',.inr ⟨locator',hlocator',hbytes'⟩⟩ (hdigest.trans hdigest'.symm)
 obtain ⟨hfit,hpayload⟩:=fit_of_serialized hbytes
 obtain ⟨hfit',hpayload'⟩:=fit_of_serialized hbytes'
 exact locatorPayload_injective hfit hfit' (by rw [hpayload,hpayload',hsame])

variable {limits : MemoryCacheLimits} {steps before : List Step}

section
variable (hfree:CollisionFree libraries steps)
include hfree

lemma serves_of_truthful
 (hbefore:∀step∈before,step∈steps) {step : Step} (hstep:step∈steps)
 {key : CacheKey} (hkey:key∈callKeys step.call) {digest : CacheDigest}
 (hhash:hashCacheKey libraries key=some digest) {thumbnail : CachedThumbnail}
 (h:Truthful (historyOf libraries limits steps before) digest thumbnail):
 Serves before key digest thumbnail:=by
 constructor
 · obtain ⟨key',hhash',publication,hpublication,r,hrequest,rfl,hartifact⟩:=
    h.published
   refine ⟨publication,hpublication,r,hrequest,?_,hartifact⟩
   have hused:r.key∈callKeys publication.call:=by
    rw [hrequest]
    exact List.mem_cons_self
   exact key_of_digest hfree (hbefore publication hpublication) hstep hused hkey hhash' hhash
 · intro record hrecord
   obtain ⟨⟨other,hother,key',hkey',hhash',hsource⟩,hdescribes⟩:=h.record record hrecord
   rw [recordMatches_iff]
   rw [key_of_digest hfree hother hstep hkey' hkey hhash' hhash] at hsource
   exact ⟨hsource.symm,hdescribes⟩

lemma lookups_truthful
 (hsound:SoundRun libraries limits steps) : LookupsTruthful libraries limits steps:=by
 intro before step after key accessUnixNs digest result thumbnail hsplit hcall hhash hresult
  hthumbnail
 have hstep:step∈steps:=by
  rw [hsplit]
  exact List.mem_append_right before List.mem_cons_self
 have hbefore:∀earlier∈before,earlier∈steps:=by
  intro earlier hearlier
  rw [hsplit]
  exact List.mem_append_left (step::after) hearlier
 have hkey:key∈callKeys step.call:=by
  rw [hcall]
  exact List.mem_cons_self
 have hsoundStep:=hsound before step after hsplit
 unfold SoundStep at hsoundStep
 rw [hcall] at hsoundStep
 have htruthful:=(lookup_truthful libraries (inv_run hsound before (step::after) hsplit) hhash
  ⟨step,hstep,key,hkey,hhash,rfl⟩ (hsoundStep digest hhash)).2 result thumbnail hresult
  hthumbnail
 exact serves_of_truthful hfree hbefore hstep hkey hhash htruthful

lemma locators_truthful
 (hsound:SoundRun libraries limits steps) : LocatorsTruthful libraries limits steps:=by
 intro before step after l accessUnixNs result thumbnail hsplit hcall hresult hthumbnail
 have hstep:step∈steps:=by
  rw [hsplit]
  exact List.mem_append_right before List.mem_cons_self
 have hbefore:∀earlier∈before,earlier∈steps:=by
  intro earlier hearlier
  rw [hsplit]
  exact List.mem_append_left (step::after) hearlier
 cases hhash:hashCacheLocator libraries l with
 | none=>
  rw [PersistentThumbnailCache.lookupLocator,hhash] at hresult
  split at hresult
  · obtain rfl:=Option.some.inj hresult
    exact absurd hthumbnail.symm (Option.some_ne_none thumbnail)
  · exact absurd hresult.symm (Option.some_ne_none result)
 | some row=>
  obtain ⟨digest,⟨locator',key,hlocator',hkey,hbound⟩,htruthful⟩:=
   (lookupLocator_truthful libraries (inv_run hsound before (step::after) hsplit)
    hhash).2 result thumbnail hresult hthumbnail
  have hbinding:=hbound
  obtain ⟨earlier,binding,later,hearlier,⟨hbinds,-⟩,-⟩:=hbinding
  have hmem:binding∈steps:=by
   apply hbefore
   rw [hearlier]
   exact List.mem_append_right earlier List.mem_cons_self
  have hused:locator'∈callLocators binding.call ∧ key∈callKeys binding.call:=by
   rw [hbinds]
   exact ⟨List.mem_cons_self,List.mem_cons_self⟩
  have hasked:l∈callLocators step.call:=by
   rw [hcall]
   exact List.mem_cons_self
  obtain rfl:=locator_of_digest hfree hmem hstep hused.1 hasked hlocator' hhash
  exact ⟨key,digest,hbound,hkey, serves_of_truthful hfree hbefore hmem hused.2 hkey htruthful⟩

end

end Digests

end VoVe.ThumbnailCacheTruth
