import VoVe.ThumbnailCache

set_option autoImplicit false

namespace VoVe.ThumbnailCacheRules
open CacheKeys ArtifactCodec ThumbnailCache ThumbnailCache.PersistentThumbnailCache

/-- The same row, but for the time of its last use. -/
def SameRow (record next : ArtifactIndexRecord) : Prop:=
 next = { record with lastAccessUnixNs:=next.lastAccessUnixNs }

lemma SameRow.refl (record : ArtifactIndexRecord) : SameRow record record := rfl

lemma SameRow.trans {record next last : ArtifactIndexRecord} (h:SameRow record next)
 (hnext:SameRow next last) : SameRow record last:=by
 rw [SameRow] at h hnext ⊢
 rw [hnext,h]

section Index
variable {index next last : ArtifactIndex} {outcome : IndexOutcome}

/-- Rows may be lost or used again; none appear. -/
structure RowsBelow (index next : ArtifactIndex) : Prop where
 records : ∀digest record,next.records digest=some record →
  ∃ before,index.records digest=some before ∧ SameRow before record
 locators : ∀locator digest,next.locators locator=some digest →
  index.locators locator=some digest

lemma RowsBelow.refl (index : ArtifactIndex) : RowsBelow index index:=
 ⟨fun _ record h=>⟨record,h,.refl record⟩,fun _ _ h=>h⟩

lemma RowsBelow.trans (h:RowsBelow index next) (hnext:RowsBelow next last):
 RowsBelow index last:=by
 refine ⟨?_,fun l digest hlast=>h.locators _ _ (hnext.locators l digest hlast)⟩
 intro digest record hlast
 obtain ⟨middle,hmiddle,hsame⟩:=hnext.records digest record hlast
 obtain ⟨before,hbefore,hrow⟩:=h.records digest middle hmiddle
 exact ⟨before,hbefore,hrow.trans hsame⟩

lemma rowsBelow_empty (index : ArtifactIndex) (lastErrorEmpty : Bool):
 RowsBelow index { lastErrorEmpty:=lastErrorEmpty }:=
 ⟨nofun,nofun⟩

lemma rowsBelow_call {α : Type} {failed : α} {act : ArtifactIndex → α × ArtifactIndex}
 (hact:∀index,RowsBelow index (act index).2):
 RowsBelow index (index.call outcome failed act).2:=by
 cases outcome with
 | done=>
  have hsame:RowsBelow index { index with lastErrorEmpty:=true }:=
   ⟨fun _ record h=>⟨record,h,.refl record⟩,fun _ _ h=>h⟩
  exact hsame.trans (hact _)
 | failed=>exact ⟨fun _ record h=>⟨record,h,.refl record⟩,fun _ _ h=>h⟩
 | recovered=>exact (rowsBelow_empty index true).trans (hact _)
 | recoveredFailed=>exact rowsBelow_empty index false

variable (digest : CacheDigest)

lemma rowsBelow_find : RowsBelow index (index.find outcome digest).2 := rowsBelow_call .refl

lemma rowsBelow_findLocator (l : CacheDigest):
 RowsBelow index (index.findLocator outcome l).2:=
 rowsBelow_call .refl

lemma rowsBelow_touch (a : ℤ) : RowsBelow index (index.touch outcome digest a).2:=by
 apply rowsBelow_call
 intro index
 cases hrecord:index.records digest with
 | none=>exact .refl index
 | some record=>
  refine ⟨?_,fun _ _ h=>h⟩
  intro other next hnext
  dsimp only at hnext
  by_cases hother:other=digest
  · rw [hother,Function.update_self] at hnext
    rw [←Option.some.inj hnext]
    exact ⟨record,by rw [hother,hrecord],rfl⟩
  · rw [Function.update_of_ne hother] at hnext
    exact ⟨next,hnext,.refl next⟩

lemma rowsBelow_without (index : ArtifactIndex) (digest : CacheDigest):
 RowsBelow index (index.without digest):=by
 constructor
 · intro other record h
   change Function.update index.records digest none other=some record at h
   by_cases hother:other=digest
   · rw [hother,Function.update_self] at h
     exact absurd h nofun
   · rw [Function.update_of_ne hother] at h
     exact ⟨record,h,.refl record⟩
 · intro l other h
   simp only [ArtifactIndex.without] at h
   split at h
   · exact absurd h nofun
   · exact h

lemma rowsBelow_erase : RowsBelow index (index.erase outcome digest).2:=
 rowsBelow_call fun index=>rowsBelow_without index digest

lemma rowsBelow_eraseLocator (l : CacheDigest):
 RowsBelow index (index.eraseLocator outcome l).2:=by
 apply rowsBelow_call
 intro index
 refine ⟨fun _ record h=>⟨record,h,.refl record⟩,?_⟩
 intro other digest h
 dsimp only at h
 by_cases hother:other=l
 · rw [hother,Function.update_self] at h
   exact absurd h nofun
 · rwa [Function.update_of_ne hother] at h

lemma find_some {digest : CacheDigest} {record : ArtifactIndexRecord}
 (h:(index.find outcome digest).1=some record) : index.records digest=some record:=by
 cases outcome with
 | done=>exact h
 | failed=>exact absurd h nofun
 | recovered=>exact absurd h nofun
 | recoveredFailed=>exact absurd h nofun

lemma findLocator_some {l digest : CacheDigest}
 (h:(index.findLocator outcome l).1=some digest):
 index.locators l=some digest:=by
 cases outcome with
 | done=>exact h
 | failed=>exact absurd h nofun
 | recovered=>exact absurd h nofun
 | recoveredFailed=>exact absurd h nofun

/-- A publication of a row either fails, losing rows at most, or puts the row over what is
left. -/
lemma publish_cases (outcome : IndexOutcome) (index : ArtifactIndex)
 (record : ArtifactIndexRecord):
 (index.publish outcome record).1=false ∧ RowsBelow index (index.publish outcome record).2 ∨
  (index.publish outcome record).1=true ∧ ∃ left,RowsBelow index left ∧
   (index.publish outcome record).2.records=
    Function.update left.records record.digest (some record) ∧
   (index.publish outcome record).2.locators=left.locators:=by
 cases outcome with
 | done=>exact .inr ⟨rfl,index,.refl index,rfl,rfl⟩
 | failed=>exact .inl ⟨rfl,⟨fun _ record h=>⟨record,h,.refl record⟩,fun _ _ h=>h⟩⟩
 | recovered=>exact .inr ⟨rfl,{},rowsBelow_empty index true,rfl,rfl⟩
 | recoveredFailed=>exact .inl ⟨rfl,rowsBelow_empty index false⟩

lemma publishLocator_cases (outcome : IndexOutcome) (index : ArtifactIndex)
 (l digest : CacheDigest):
 (index.publishLocator outcome l digest).1=false ∧
   RowsBelow index (index.publishLocator outcome l digest).2 ∨
  (index.publishLocator outcome l digest).1=true ∧
   (index.publishLocator outcome l digest).2.records=index.records ∧
   (index.publishLocator outcome l digest).2.locators=
    Function.update index.locators l (some digest):=by
 unfold ArtifactIndex.publishLocator ArtifactIndex.call
 cases outcome with
 | done=>
  dsimp only
  split
  · exact .inr ⟨rfl,rfl,rfl⟩
  · exact .inl ⟨rfl,⟨fun _ record h=>⟨record,h,.refl record⟩,fun _ _ h=>h⟩⟩
 | failed=>exact .inl ⟨rfl,⟨fun _ record h=>⟨record,h,.refl record⟩,fun _ _ h=>h⟩⟩
 | recovered=>exact .inl ⟨rfl,rowsBelow_empty index false⟩
 | recoveredFailed=>exact .inl ⟨rfl,rowsBelow_empty index false⟩

end Index

section Memory
variable {memory next last : MemoryArtifactCache} {digest : CacheDigest}

/-- Copies may be lost or used again; none appear. -/
def CopiesBelow (memory next : MemoryArtifactCache) : Prop:=
 ∀entry ∈ next.entries,∃ before ∈ memory.entries,
  before.digest = entry.digest ∧ before.artifact = entry.artifact

lemma CopiesBelow.refl (memory : MemoryArtifactCache) : CopiesBelow memory memory:=
 fun entry h=>⟨entry,h,rfl,rfl⟩

lemma CopiesBelow.trans (h:CopiesBelow memory next) (hnext:CopiesBelow next last):
 CopiesBelow memory last:=by
 intro entry hentry
 obtain ⟨middle,hmiddle,hdigest,hartifact⟩:=hnext entry hentry
 obtain ⟨before,hbefore,hdigest',hartifact'⟩:=h middle hmiddle
 exact ⟨before,hbefore,hdigest'.trans hdigest,hartifact'.trans hartifact⟩

lemma copiesBelow_subset (h:∀entry∈next.entries,entry∈memory.entries):
 CopiesBelow memory next:=
 fun entry hentry=>⟨entry,h entry hentry,rfl,rfl⟩

lemma memoryFind_cases (memory : MemoryArtifactCache) (digest : CacheDigest):
 ((memory.find digest).1=none ∧ ∀entry∈(memory.find digest).2.entries,entry.digest≠digest) ∨
  ∃ entry∈(memory.find digest).2.entries,entry.digest=digest ∧
   (memory.find digest).1=some entry.artifact ∧
   ∀other∈(memory.find digest).2.entries,other.digest=digest → other=entry:=by
 unfold ThumbnailCache.MemoryArtifactCache.find
 cases hfind:memory.entries.find? (·.digest=digest) with
 | none=>
  refine .inl ⟨rfl,?_⟩
  intro entry hentry heq
  have hnone:=List.find?_eq_none.mp hfind entry hentry
  exact hnone (decide_eq_true heq)
 | some entry=>
  have hdigest:=List.find?_some hfind
  refine .inr ⟨entry,List.mem_cons_self,of_decide_eq_true hdigest,rfl,?_⟩
  intro other hother heq
  obtain rfl | hmem:=List.mem_cons.mp hother
  · rfl
  · exact absurd heq (of_decide_eq_true (List.mem_filter.mp hmem).2)

lemma copiesBelow_find : CopiesBelow memory (memory.find digest).2:=by
 apply copiesBelow_subset
 unfold ThumbnailCache.MemoryArtifactCache.find
 cases hfind:memory.entries.find? (·.digest=digest) with
 | none=>exact fun _ h=>h
 | some entry=>
  intro other hother
  obtain rfl | hmem:=List.mem_cons.mp hother
  · exact List.mem_of_find?_eq_some hfind
  · exact List.mem_of_mem_filter hmem

lemma copiesBelow_erase : CopiesBelow memory (memory.erase digest).2:=
 copiesBelow_subset fun _ h=>List.mem_of_mem_filter h

lemma erase_absent : ∀entry∈(memory.erase digest).2.entries,entry.digest≠digest:=
 fun _ h=>of_decide_eq_true (List.mem_filter.mp h).2

lemma copiesBelow_clear : CopiesBelow memory memory.clear := nofun

lemma copiesBelow_exchange (expected desired : ℤ):
 CopiesBelow memory (memory.compareExchangePersistedAccess digest expected desired).2:=by
 unfold ThumbnailCache.MemoryArtifactCache.compareExchangePersistedAccess
 split
 · intro entry hentry
   obtain ⟨before,hbefore,rfl⟩:=List.mem_map.mp hentry
   refine ⟨before,hbefore,?_⟩
   split<;>exact ⟨rfl,rfl⟩
 · exact .refl memory

variable (limits : MemoryCacheLimits)

lemma evict_subset (entries : List Entry):
 ∀entry∈evictToLimits limits entries,entry∈entries:=by
 induction hlength : entries.length generalizing entries with
 | zero=>
  rw [List.length_eq_zero_iff.mp hlength,evictToLimits.eq_def]
  split<;>exact fun _ h=>h
 | succ length ih=>
  rw [evictToLimits.eq_def]
  split
  · cases entries with
    | nil=>exact fun _ h=>h
    | cons first rest=>
     have hdropped:(first::rest).dropLast.length=length:=by
      rw [List.length_dropLast,hlength,Nat.add_sub_cancel]
     exact fun entry h=>List.dropLast_subset (first::rest) (ih _ hdropped entry h)
  · exact fun _ h=>h

def Fits (artifact : ArtifactData) : Prop:=
 limits.maximumEntries≠0 ∧ artifactWeight artifact ≤ limits.maximumBytes

lemma insert_cases (memory : MemoryArtifactCache) (digest : CacheDigest)
 (artifact : ArtifactData) (a : ℤ):
 Fits memory.limits artifact ∧ (∀entry∈(memory.insert digest artifact a).entries,
    entry.digest=digest ∧ entry.artifact=artifact ∨
     entry.digest≠digest ∧ entry∈memory.entries) ∨
  ¬Fits memory.limits artifact ∧ memory.insert digest artifact a=memory:=by
 unfold ThumbnailCache.MemoryArtifactCache.insert Fits
 dsimp only
 split
 · rename_i hdeclined
   right
   refine ⟨?_,rfl⟩
   intro hfits
   obtain h | h:=hdeclined
   · exact hfits.1 h
   · exact absurd hfits.2 (not_le.mpr h)
 · rename_i haccepted
   rw [not_or,not_lt] at haccepted
   left
   refine ⟨haccepted,?_⟩
   intro entry hentry
   obtain rfl | hold:=List.mem_cons.mp (evict_subset _ _ entry hentry)
   · exact .inl ⟨rfl,rfl⟩
   · obtain ⟨hmem,hne⟩:=List.mem_filter.mp hold
     exact .inr ⟨of_decide_eq_true hne,hmem⟩

end Memory

section Cache
variable {cache next last : PersistentThumbnailCache} {f : Faults} {digest : CacheDigest}

/-- Artifacts, rows and copies may be lost; none appear. -/
structure Below (cache next : PersistentThumbnailCache) : Prop where
 artifacts : ∀digest artifact,next.artifacts digest=some artifact →
  cache.artifacts digest=some artifact
 rows : RowsBelow cache.index next.index
 copies : CopiesBelow cache.memory next.memory

lemma Below.refl (cache : PersistentThumbnailCache) : Below cache cache:=
 ⟨fun _ _ h=>h,.refl cache.index,.refl cache.memory⟩

lemma Below.trans (h:Below cache next) (hnext:Below next last) : Below cache last:=
 ⟨fun digest artifact hlast=>h.artifacts _ _ (hnext.artifacts digest artifact hlast),
  h.rows.trans hnext.rows,h.copies.trans hnext.copies⟩

lemma below_index {index : ArtifactIndex} (h:RowsBelow cache.index index):
 Below cache { cache with index:=index }:=
 ⟨fun _ _ h=>h,h,.refl cache.memory⟩

lemma below_memory {memory : MemoryArtifactCache} (h:CopiesBelow cache.memory memory):
 Below cache { cache with memory:=memory }:=
 ⟨fun _ _ h=>h,.refl cache.index,h⟩

lemma below_findRecord (cache : PersistentThumbnailCache) (f : Faults)
 (digest : CacheDigest) : Below cache (cache.findRecord f digest).2:=
 below_index (rowsBelow_find digest)

lemma below_touchRecord (cache : PersistentThumbnailCache) (f : Faults)
 (digest : CacheDigest) (a : ℤ):
 Below cache (cache.touchRecord f digest a).2:=
 below_index (rowsBelow_touch digest a)

lemma below_eraseRecord (cache : PersistentThumbnailCache) (f : Faults)
 (digest : CacheDigest) : Below cache (cache.eraseRecord f digest).2:=
 below_index (rowsBelow_erase digest)

variable (l : CacheDigest)

lemma below_eraseLocatorRow : Below cache (cache.eraseLocatorRow f l).2:=
 below_index (rowsBelow_eraseLocator l)

lemma below_eraseResident : Below cache (cache.eraseResident digest):=
 below_memory copiesBelow_erase

lemma below_removeArtifact (cache : PersistentThumbnailCache) (f : Faults)
 (digest : CacheDigest) : Below cache (cache.removeArtifact f digest).2:=by
 unfold removeArtifact
 cases f.removeArtifact with
 | some message=>exact .refl cache
 | none=>
  refine ⟨?_,.refl cache.index,.refl cache.memory⟩
  intro other artifact h
  change Function.update cache.artifacts digest none other=some artifact at h
  by_cases hother:other=digest
  · rw [hother,Function.update_self] at h
    exact absurd h nofun
  · rwa [Function.update_of_ne hother] at h

lemma refreshRecord_same (cache : PersistentThumbnailCache) (f : Faults)
 (digest : CacheDigest) (a : ℤ) (record : ArtifactIndexRecord):
 SameRow record (cache.refreshRecord f digest a record).1:=by
 unfold refreshRecord
 split
 · dsimp only
   split
   · exact rfl
   · exact .refl record
 · exact .refl record

lemma below_refreshRecord (cache : PersistentThumbnailCache) (f : Faults)
 (digest : CacheDigest) (a : ℤ) (record : ArtifactIndexRecord):
 Below cache (cache.refreshRecord f digest a record).2:=by
 unfold refreshRecord
 split
 · exact below_touchRecord cache f digest a
 · exact .refl cache

lemma below_refreshResident (a : ℤ) : Below cache (cache.refreshResident f digest a):=by
 unfold refreshResident
 cases cache.memory.persistedAccess digest with
 | none=>exact .refl cache
 | some persisted=>
  dsimp only
  split
  · have hexchanged:Below cache { cache with
      memory:=
       (cache.memory.compareExchangePersistedAccess digest persisted a).2 }:=
     below_memory (copiesBelow_exchange persisted a)
    have htouched:=hexchanged.trans (below_touchRecord _ f digest a)
    split
    · exact htouched
    · exact htouched.trans (below_memory (copiesBelow_exchange a persisted))
  · exact .refl cache

lemma below_dropMalformed (indexed : Bool):
 Below cache (cache.dropMalformed f digest indexed).2:=by
 have hremoved:Below cache (cache.removeArtifact f digest).2:=below_removeArtifact cache f digest
 unfold dropMalformed
 generalize cache.removeArtifact f digest=removal at hremoved ⊢
 match removal with
 | (.error message,next)=>exact hremoved
 | (.ok _,next)=>
  dsimp only at hremoved ⊢
  split
  · split
    · exact hremoved.trans (below_eraseRecord next f digest)
    · exact hremoved.trans (below_eraseRecord next f digest)
  · exact hremoved

lemma below_dropBinding (cache : PersistentThumbnailCache) (f : Faults)
 (l digest : CacheDigest):
 Below cache (cache.dropBinding f l digest):=
 .trans (below_eraseRecord cache f digest) (below_eraseLocatorRow l)

lemma below_persistLocatorRevocation : Below cache (cache.persistLocatorRevocation f l).2:=by
 unfold persistLocatorRevocation
 cases f.persistFence<;>exact ⟨fun _ _ h=>h,.refl cache.index,.refl cache.memory⟩

lemma below_removeLocatorRevocation : Below cache (cache.removeLocatorRevocation f l).2:=by
 unfold removeLocatorRevocation
 cases f.removeFence<;>exact ⟨fun _ _ h=>h,.refl cache.index,.refl cache.memory⟩

lemma below_disabled : Below cache { cache with offlineLookupDisabled:=true }:=
 ⟨fun _ _ h=>h,.refl cache.index,.refl cache.memory⟩

lemma below_eraseLocator (libraries : Libraries) (l : CacheLocatorKey):
 Below cache (cache.eraseLocator libraries f l).2:=by
 unfold eraseLocator
 cases hashCacheLocator libraries l with
 | none=>exact below_disabled
 | some l=>
  dsimp only
  have herased:Below cache
    ((cache.persistLocatorRevocation f l).2.eraseLocatorRow f l).2:=
   .trans (below_persistLocatorRevocation l) (below_eraseLocatorRow l)
  split
  · exact herased.trans (below_removeLocatorRevocation l)
  · split
    · exact herased
    · exact herased.trans below_disabled

lemma below_erase (libraries : Libraries) (key : CacheKey):
 Below cache (cache.erase libraries f key).2:=by
 unfold PersistentThumbnailCache.erase
 cases hashCacheKey libraries key with
 | none=>exact .refl cache
 | some digest=>
  have hresident:Below cache { cache with memory:=(cache.memory.erase digest).2 }:=
   below_memory copiesBelow_erase
  have hremoved:=hresident.trans (below_removeArtifact _ f digest)
  dsimp only
  generalize removeArtifact f
   { cache with memory:=(cache.memory.erase digest).2 } digest=removal at hremoved ⊢
  match removal with
  | (.error message,next)=>exact hremoved
  | (.ok _,next)=>exact hremoved.trans (below_eraseRecord next f digest)

lemma rowsBelow_foldl (digests : List CacheDigest) (index : ArtifactIndex):
 RowsBelow index (digests.foldl ArtifactIndex.without index):=by
 induction digests generalizing index with
 | nil=>exact .refl index
 | cons digest digests ih=>exact (rowsBelow_without index digest).trans (ih _)

lemma below_prune (removal : Removal) : Below cache (cache.prune removal):=by
 unfold prune
 refine ⟨?_,?_,?_⟩
 · intro digest artifact h
   dsimp only at h
   split at h
   · exact absurd h nofun
   · exact h
 · dsimp only
   split
   · exact rowsBelow_empty cache.index true
   · exact rowsBelow_foldl removal.records cache.index
 · dsimp only
   split
   · exact copiesBelow_clear
   · exact .refl cache.memory

lemma below_restart : Below cache cache.restart:=
 ⟨fun _ _ h=>h,.refl cache.index,copiesBelow_clear⟩

end Cache

end VoVe.ThumbnailCacheRules
