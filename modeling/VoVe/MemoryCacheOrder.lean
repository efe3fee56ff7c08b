import VoVe.MemoryArtifactCache

set_option autoImplicit false

namespace VoVe.MemoryCacheOrder
open ByteCodec ArtifactCodec MemoryArtifactCache RecencyList

def resident (cache : Cache) : List Entry := cache.entries.map Node.entry

/-- The map and the totals describe the list. -/
structure Books (cache : Cache) : Prop where
 places : (cache.entries.map Node.place).Nodup
 digests : ((resident cache).map Entry.digestHex).Nodup
 byDigest : ∀digestHex place,cache.byDigest digestHex=some place ↔
  ∃ node∈cache.entries,node.place=place ∧ node.entry.digestHex=digestHex
 fresh : ∀node∈cache.entries,node.place<cache.fresh
 weights : ∀entry∈resident cache,entry.weight=artifactWeight entry.artifact
 bytes : cache.stats.bytes.toNat=total weightOf (resident cache)
 count : cache.stats.entries=size cache.entries

def Over (cache : Cache) : Prop:=
 Exceeds weightOf cache.limits.maximumEntries.toNat cache.limits.maximumBytes.toNat
  (resident cache)

section Totals
variable {cache : Cache} {entries : List Entry} {node : Node}

lemma toNat_artifactWeight (artifact : HeldArtifact):
 (artifactWeight artifact).toNat=kVvt1HeaderBytes+artifact.1.payload.length:=by
 have hlength:=artifact.2
 unfold artifactWeight kVvt1HeaderBytes
 rw [UInt64.toNat_add,UInt64.toNat_ofNat',UInt64.toNat_ofNat']
 omega

lemma length_le_total (h:∀entry∈entries,entry.weight=artifactWeight entry.artifact):
 entries.length≤total weightOf entries:=by
 induction entries with
 | nil=>exact Nat.zero_le _
 | cons entry rest ih=>
  have hweight:0<weightOf entry:=by
   rw [weightOf,h entry (List.mem_cons_self ..),toNat_artifactWeight,kVvt1HeaderBytes]
   omega
  have hrest:=ih fun other hother=>h other (List.mem_cons_of_mem _ hother)
  rw [total_cons,List.length_cons]
  omega

lemma length_resident (cache : Cache) : (resident cache).length=cache.entries.length:=
 List.length_map ..

lemma Books.toNat_size (h:Books cache) : (size cache.entries).toNat=cache.entries.length:=by
 have hlength:=length_le_total h.weights
 have hbytes:=h.bytes
 have hbound:=cache.stats.bytes.toNat_lt
 rw [length_resident] at hlength
 rw [size,UInt64.toNat_ofNat']
 omega

lemma Books.limitExceeded (h:Books cache) : limitExceeded cache=true ↔ Over cache:=by
 unfold MemoryArtifactCache.limitExceeded Over Exceeds
 rw [decide_eq_true_eq,gt_iff_lt,gt_iff_lt,UInt64.lt_iff_toNat_lt,UInt64.lt_iff_toNat_lt,
  h.toNat_size,h.bytes,length_resident]

lemma mem_resident (hnode:node∈cache.entries) : node.entry∈resident cache:=
 List.mem_map_of_mem hnode

end Totals

section Places
variable {cache : Cache} {node other : Node} {digestHex : Bytes} {p place : ℕ}

section
variable (h:Books cache)
include h

lemma same_place (hnode:node∈cache.entries) (hother:other∈cache.entries)
 (hplace:node.place=other.place) : node=other:=
 List.inj_on_of_nodup_map h.places hnode hother hplace

lemma same_digest (hnode:node∈cache.entries)
 (hother:other∈cache.entries) (hdigest:node.entry.digestHex=other.entry.digestHex):
 node=other:=by
 have hdigests:=h.digests
 rw [resident,List.map_map] at hdigests
 exact List.inj_on_of_nodup_map hdigests hnode hother hdigest

lemma nodeAt_of_mem (hnode:node∈cache.entries) : nodeAt cache node.place=some node:=by
 cases hfound:nodeAt cache node.place with
 | none=>
  have hnone:=List.find?_eq_none.mp hfound node hnode
  exact absurd (decide_eq_true rfl) hnone
 | some other=>
  have hplace:=List.find?_some hfound
  have hother:=List.mem_of_find?_eq_some hfound
  exact congrArg some (same_place h hother hnode (of_decide_eq_true hplace))

lemma without_eq (hnode:node∈cache.entries) : without node.place cache.entries=
  cache.entries.filter (·.entry.digestHex≠node.entry.digestHex):=by
 refine List.filter_congr fun other hother=>?_
 have hiff:other.place=node.place ↔ other.entry.digestHex=node.entry.digestHex:=
  ⟨fun hplace=>congrArg (·.entry.digestHex) (same_place h hother hnode hplace),
   fun hdigest=>congrArg Node.place (same_digest h hother hnode hdigest)⟩
 simp only [ne_eq,hiff]

lemma resident_without (hnode:node∈cache.entries):
 (without node.place cache.entries).map Node.entry=
  drop Entry.digestHex node.entry.digestHex (resident cache):=by
 rw [without_eq h hnode,resident,RecencyList.drop,List.filter_map]
 rfl

lemma lookup_none : cache.byDigest digestHex=none ↔
 ∀entry∈resident cache,entry.digestHex≠digestHex:=by
 constructor
 · intro hnone entry hentry hdigest
   obtain ⟨node,hnode,rfl⟩:=List.mem_map.mp hentry
   have hsome:=(h.byDigest digestHex node.place).mpr ⟨node,hnode,rfl,hdigest⟩
   exact absurd (hnone.symm.trans hsome) (Option.some_ne_none _).symm
 · intro hother
   cases hfound:cache.byDigest digestHex with
   | none=>rfl
   | some p=>
    obtain ⟨node,hnode,-,hdigest⟩:=(h.byDigest digestHex p).mp hfound
    exact absurd hdigest (hother _ (mem_resident hnode))

lemma lookup_some (hfound:cache.byDigest digestHex=some p):
 ∃ node∈cache.entries,node.place=p ∧ node.entry.digestHex=digestHex ∧
  nodeAt cache p=some node ∧
  (resident cache).find? (·.digestHex=digestHex)=some node.entry:=by
 obtain ⟨node,hnode,rfl,rfl⟩:=(h.byDigest digestHex p).mp hfound
 refine ⟨node,hnode,rfl,rfl,nodeAt_of_mem h hnode,?_⟩
 cases hentry:(resident cache).find? (·.digestHex=node.entry.digestHex) with
 | none=>
  have hnone:=List.find?_eq_none.mp hentry node.entry (mem_resident hnode)
  exact absurd (decide_eq_true rfl) hnone
 | some entry=>
  have hdigest:=List.find?_some hentry
  obtain ⟨other,hother,rfl⟩:=List.mem_map.mp (List.mem_of_find?_eq_some hentry)
  exact congrArg (fun node=>some node.entry)
   (same_digest h hother hnode (of_decide_eq_true hdigest))

end

lemma find_none (hnone:∀entry∈resident cache,entry.digestHex≠digestHex):
 (resident cache).find? (·.digestHex=digestHex)=none:=by
 refine List.find?_eq_none.mpr fun entry hentry=>?_
 simpa using hnone entry hentry

end Places

section Changes
variable {cache : Cache} {node : Node} {digestHex : Bytes}

lemma without_split (h:Books cache) (hnode:node∈cache.entries) : ∃ front back,
 cache.entries=front++node::back ∧ without node.place cache.entries=front++back:=by
 obtain ⟨front,back,hentries⟩:=List.append_of_mem hnode
 have hplaces:=h.places
 rw [hentries,List.map_append,List.map_cons,List.nodup_append,List.nodup_cons] at hplaces
 have hkeep (entries : List Node) (hother:∀other∈entries,other.place≠node.place):
   entries.filter (·.place≠node.place)=entries:=
  List.filter_eq_self.mpr fun other hmem=>decide_eq_true (hother other hmem)
 have hfront:∀other∈front,other.place≠node.place:=fun other hother =>
  hplaces.2.2 _ (List.mem_map_of_mem hother) _ (List.mem_cons_self ..)
 have hback:∀other∈back,other.place≠node.place:=by
  intro other hother hsame
  exact hplaces.2.1.1 (hsame ▸ List.mem_map_of_mem hother)
 refine ⟨front,back,hentries,?_⟩
 rw [hentries,without,List.filter_append,hkeep front hfront,
  List.filter_cons_of_neg (by simp),hkeep back hback]

lemma perm_without (h:Books cache) (hnode:node∈cache.entries):
 (node::without node.place cache.entries).Perm cache.entries:=by
 obtain ⟨front,back,hentries,hwithout⟩:=without_split h hnode
 rw [hwithout,hentries]
 exact List.perm_middle.symm

lemma total_drop (h:Books cache) (hnode:node∈cache.entries) : weightOf node.entry +
  total weightOf (drop Entry.digestHex node.entry.digestHex (resident cache))=
   total weightOf (resident cache):=by
 rw [←resident_without h hnode,←total_cons,←List.map_cons]
 exact (((perm_without h hnode).map Node.entry).map weightOf).sum_eq

lemma eraseEntry_spec (h:Books cache) (hnode:node∈cache.entries):
 ∃ left,eraseEntry cache node.place=some left ∧ Books left ∧
  resident left=drop Entry.digestHex node.entry.digestHex (resident cache) ∧
  left.limits=cache.limits:=by
 have hresident:=resident_without h hnode
 have htotal:=total_drop h hnode
 have herased:eraseEntry cache node.place=some (removed cache node):=by
  rw [eraseEntry,nodeAt_of_mem h hnode]
  rfl
 refine ⟨removed cache node,herased,?_,hresident,rfl⟩
 refine ⟨?_,?_,?_,?_,?_,?_,rfl⟩
 · exact h.places.sublist ((List.filter_sublist ..).map _)
 · change ((List.map Node.entry (without node.place cache.entries)).map Entry.digestHex).Nodup
   rw [hresident]
   exact h.digests.sublist ((List.filter_sublist ..).map _)
 · intro digestHex p
   change Function.update cache.byDigest node.entry.digestHex none digestHex=some p ↔
    ∃ other∈without node.place cache.entries,other.place=p ∧ other.entry.digestHex=digestHex
   rw [without_eq h hnode,Function.update_apply]
   split
   · next hsame =>
     refine ⟨fun hsome=>absurd hsome (Option.some_ne_none _).symm,fun hexists=>?_⟩
     obtain ⟨other,hother,-,hdigest⟩:=hexists
     exact absurd (hdigest.trans hsame) (of_decide_eq_true (List.mem_filter.mp hother).2)
   · next hdiff =>
     rw [h.byDigest digestHex p]
     constructor
     · intro hexists
       obtain ⟨other,hother,hplace,hdigest⟩:=hexists
       refine ⟨other,List.mem_filter.mpr ⟨hother,decide_eq_true ?_⟩,hplace,hdigest⟩
       rwa [hdigest]
     · intro hexists
       obtain ⟨other,hother,hplace,hdigest⟩:=hexists
       exact ⟨other,List.mem_of_mem_filter hother,hplace,hdigest⟩
 · exact fun other hother=>h.fresh other (List.mem_of_mem_filter hother)
 · intro entry hentry
   change entry∈List.map Node.entry (without node.place cache.entries) at hentry
   rw [hresident] at hentry
   exact h.weights entry (List.mem_of_mem_filter hentry)
 · change (cache.stats.bytes - node.entry.weight).toNat=
    total weightOf (List.map Node.entry (without node.place cache.entries))
   have hle:node.entry.weight ≤ cache.stats.bytes:=by
    rw [UInt64.le_iff_toNat_le,h.bytes]
    change weightOf node.entry≤_
    omega
   rw [hresident,UInt64.toNat_sub_of_le _ _ hle,h.bytes]
   change _ - weightOf node.entry=_
   omega

lemma Books.evicted (h:Books cache) : Books { cache with
 stats:={ cache.stats with evictions:=cache.stats.evictions+1 } }:=
 ⟨h.places,h.digests,h.byDigest,h.fresh,h.weights,h.bytes,h.count⟩

lemma drop_last {front : List Entry} {entry : Entry}
 (h:((front++[entry]).map Entry.digestHex).Nodup):
 drop Entry.digestHex entry.digestHex (front++[entry])=front:=by
 rw [List.map_append,List.nodup_append] at h
 have hfront:front.filter (·.digestHex≠entry.digestHex)=front:=
  List.filter_eq_self.mpr fun other hother =>
   decide_eq_true (h.2.2 _ (List.mem_map_of_mem hother) _ (List.mem_cons_self ..))
 rw [RecencyList.drop,List.filter_append,hfront,List.filter_cons_of_neg (by simp),
  List.filter_nil,List.append_nil]

lemma evictToLimits_spec (turns : ℕ) (h:Books cache) (hturns:cache.entries.length≤turns):
 ∃ kept,evictToLimits turns cache=some kept ∧ Books kept ∧
  resident kept=evict weightOf cache.limits.maximumEntries.toNat
   cache.limits.maximumBytes.toNat (resident cache) ∧ kept.limits=cache.limits:=by
 induction turns generalizing cache with
 | zero=>
  have hnone:cache.entries=[]:=List.eq_nil_of_length_eq_zero (Nat.le_zero.mp hturns)
  have hfits:¬Over cache:=by simp [Over,Exceeds,resident,hnone,total]
  have hstop:=fun hexceeded=>hfits (h.limitExceeded.mp hexceeded)
  refine ⟨cache,?_,h,(evict_of_not hfits).symm,rfl⟩
  unfold evictToLimits
  rw [if_neg hstop]
 | succ turns ih=>
  by_cases hover:Over cache
  · have hexceeded:=h.limitExceeded.mpr hover
    cases hlast:cache.entries.getLast? with
    | none=>
     have hnone:=List.getLast?_eq_none_iff.mp hlast
     exact absurd hover (by simp [Over,Exceeds,resident,hnone,total])
    | some last=>
     obtain ⟨front,hfront⟩:=List.getLast?_eq_some_iff.mp hlast
     have hmem:last∈cache.entries:=by simp [hfront]
     obtain ⟨left,hleft,hbooks,hresident,hlimits⟩:=eraseEntry_spec h hmem
     have hentries:resident cache=front.map Node.entry++[last.entry]:=by
      simp [resident,hfront]
     have hdigests:=h.digests
     rw [hentries] at hdigests hresident
     rw [drop_last hdigests] at hresident
     have hshorter:left.entries.length≤turns:=by
      have hlength:=congrArg List.length hresident
      rw [length_resident,List.length_map] at hlength
      rw [hfront,List.length_append,List.length_singleton] at hturns
      omega
     obtain ⟨kept,hkept,hkeptBooks,hkeptResident,hkeptLimits⟩:=ih (Books.evicted hbooks) hshorter
     refine ⟨kept,?_,hkeptBooks,?_,hkeptLimits.trans hlimits⟩
     · unfold evictToLimits
       rw [if_pos hexceeded,hlast]
       simp only [hleft,Option.bind_eq_bind,Option.bind_some]
       exact hkept
     · have hover':=hover
       unfold Over at hover'
       rw [hkeptResident,evict_of_exceeds hover',hentries,List.dropLast_concat]
       change evict weightOf left.limits.maximumEntries.toNat left.limits.maximumBytes.toNat
        (resident left)=_
       rw [hresident,hlimits]
  · have hstop:=fun hexceeded=>hover (h.limitExceeded.mp hexceeded)
    refine ⟨cache,?_,h,(evict_of_not hover).symm,rfl⟩
    unfold evictToLimits
    rw [if_neg hstop]

end Changes

section Operations
variable {cache : Cache} {digestHex : Bytes} {limits : MemoryCacheLimits}

/-- The books are kept and both bounds hold. -/
structure Kept (cache : Cache) : Prop extends Books cache where
 within : ¬Over cache

lemma empty_kept (limits : MemoryCacheLimits) : Kept { limits:=limits } where
 places:=List.nodup_nil
 digests:=List.nodup_nil
 byDigest:=fun _ _=>⟨fun hsome=>absurd hsome (Option.some_ne_none _).symm,
  fun ⟨_,hnode,_⟩=>absurd hnode List.not_mem_nil⟩
 fresh:=fun _ hnode=>absurd hnode List.not_mem_nil
 weights:=fun _ hentry=>absurd hentry List.not_mem_nil
 bytes:=rfl
 count:=rfl
 within:=by simp [Over,Exceeds,resident,total]

lemma erase_spec (h:Kept cache) : ∃ after, erase cache digestHex=
  some ((resident cache).any (·.digestHex=digestHex),after) ∧ Kept after ∧
  resident after=drop Entry.digestHex digestHex (resident cache) ∧
  after.limits=cache.limits:=by
 cases hfound:cache.byDigest digestHex with
 | none=>
  have hother:=(lookup_none h.toBooks).mp hfound
  have hany:(resident cache).any (·.digestHex=digestHex)=false:=by
   simpa using hother
  have hdrop:drop Entry.digestHex digestHex (resident cache)=resident cache:=
   List.filter_eq_self.mpr fun entry hentry=>decide_eq_true (hother entry hentry)
  refine ⟨cache,?_,h,hdrop.symm,rfl⟩
  rw [erase,hfound,hany]
 | some p=>
  obtain ⟨node,hnode,rfl,rfl,-,-⟩:=lookup_some h.toBooks hfound
  obtain ⟨left,hleft,hbooks,hresident,hlimits⟩:=eraseEntry_spec h.toBooks hnode
  have hany:(resident cache).any (·.digestHex=node.entry.digestHex)=true:=
   List.any_eq_true.mpr ⟨_,mem_resident hnode,decide_eq_true rfl⟩
  refine ⟨left,?_,⟨hbooks,?_⟩,hresident,hlimits⟩
  · rw [erase,hfound,hany]
    simp only [hleft,Option.map_some]
  · unfold Over
    rw [hresident,hlimits]
    exact fun hover=>h.within (hover.mono List.filter_sublist)

lemma Kept.reordered {entries : List Node} {stats : MemoryCacheStats} (h:Kept cache)
 (hperm:entries.Perm cache.entries) (hcount:stats.entries=cache.stats.entries)
 (hbytes:stats.bytes=cache.stats.bytes):
 Kept { cache with entries:=entries,stats:=stats }:=by
 have hresident:=hperm.map Node.entry
 have htotal:total weightOf (entries.map Node.entry)=total weightOf (resident cache):=
  (hresident.map weightOf).sum_eq
 have hlength:=hresident.length_eq
 refine ⟨⟨?_,?_,?_,?_,?_,?_,?_⟩,?_⟩
 · exact (hperm.map Node.place).nodup_iff.mpr h.places
 · exact (hresident.map Entry.digestHex).nodup_iff.mpr h.digests
 · intro digestHex p
   rw [h.byDigest digestHex p]
   simp only [hperm.mem_iff]
 · exact fun node hnode=>h.fresh node (hperm.mem_iff.mp hnode)
 · exact fun entry hentry=>h.weights entry (hresident.mem_iff.mp hentry)
 · exact (congrArg UInt64.toNat hbytes).trans (h.bytes.trans htotal.symm)
 · change stats.entries=size entries
   rw [hcount,h.count,size,size,hperm.length_eq]
 · intro hover
   refine h.within ?_
   unfold Over Exceeds at hover ⊢
   change _<(entries.map Node.entry).length ∨ _<total weightOf (entries.map Node.entry) at hover
   rwa [htotal,hlength] at hover

lemma find_spec (h:Kept cache) : ∃ after, find cache digestHex=
  some (((resident cache).find? (·.digestHex=digestHex)).map Entry.artifact,after) ∧
  Kept after ∧ resident after=touch Entry.digestHex digestHex (resident cache) ∧
  after.limits=cache.limits:=by
 cases hfound:cache.byDigest digestHex with
 | none=>
  have hentry:=find_none ((lookup_none h.toBooks).mp hfound)
  refine ⟨missed cache,?_,h.reordered List.Perm.rfl rfl rfl,?_,rfl⟩
  · rw [find,hfound,hentry]
    rfl
  · rw [touch,hentry]
    rfl
 | some p=>
  obtain ⟨node,hnode,rfl,rfl,hplace,hentry⟩:=lookup_some h.toBooks hfound
  refine ⟨used cache node,?_,h.reordered (perm_without h.toBooks hnode) rfl rfl,?_,rfl⟩
  · rw [find,hfound,hentry]
    simp only [hplace,Option.map_some]
  · rw [touch,hentry]
    exact congrArg (node.entry :: ·) (resident_without h.toBooks hnode)

lemma clear_spec (cache : Cache) : Kept (clear cache) ∧ resident (clear cache)=[]:=by
 have hempty:=empty_kept cache.limits
 exact ⟨⟨⟨hempty.places,hempty.digests,hempty.byDigest,
  fun _ hnode=>absurd hnode List.not_mem_nil,hempty.weights,rfl,rfl⟩,hempty.within⟩,rfl⟩

lemma exchanged_kept (h:Kept cache) (p : ℕ) (d : Int64) : Kept (exchanged cache p d):=by
 have hsame {α : Type} (read : Node → α) (hread:∀node a,read
   { node with entry:={ node.entry with persistedAccessUnixNs:=a } }=read node):
   (exchanged cache p d).entries.map read=cache.entries.map read:=by
  rw [exchanged,List.map_map]
  refine List.map_congr_left fun node _=>?_
  rw [Function.comp_apply]
  split
  · exact hread node d
  · rfl
 have hentries {α : Type} (read : Entry → α) (hread:∀entry a,read
   { entry with persistedAccessUnixNs:=a }=read entry):
   (resident (exchanged cache p d)).map read=(resident cache).map read:=by
  rw [resident,resident,List.map_map,List.map_map]
  exact hsame (read ∘ Node.entry) fun node a=>hread node.entry a
 have hweights:=hentries weightOf fun _ _=>rfl
 have hlength:=congrArg List.length hweights
 rw [List.length_map,List.length_map] at hlength
 refine ⟨⟨?_,?_,?_,?_,?_,?_,?_⟩,?_⟩
 · rw [hsame Node.place fun _ _=>rfl]
   exact h.places
 · rw [hentries Entry.digestHex fun _ _=>rfl]
   exact h.digests
 · intro digestHex site
   have hpairs:=hsame (fun node=>(node.place,node.entry.digestHex)) fun _ _=>rfl
   have hmem (entries : List Node) : (∃ node∈entries,node.place=site ∧
     node.entry.digestHex=digestHex) ↔
     (site,digestHex)∈entries.map fun node=>(node.place,node.entry.digestHex):=by
    simp
   rw [hmem,hpairs,←hmem]
   exact h.byDigest digestHex site
 · intro node hnode
   have hplace:=List.mem_map_of_mem (f := Node.place) hnode
   rw [hsame Node.place fun _ _=>rfl] at hplace
   obtain ⟨other,hother,heq⟩:=List.mem_map.mp hplace
   exact heq ▸ h.fresh other hother
 · intro entry hentry
   have hpair:=List.mem_map_of_mem (f := fun entry : Entry=>(entry.weight,entry.artifact)) hentry
   rw [hentries (fun entry=>(entry.weight,entry.artifact)) fun _ _=>rfl] at hpair
   obtain ⟨other,hother,heq⟩:=List.mem_map.mp hpair
   cases entry
   cases heq
   exact h.weights other hother
 · change cache.stats.bytes.toNat=((resident (exchanged cache p d)).map weightOf).sum
   rw [hweights]
   exact h.bytes
 · change cache.stats.entries=size ((cache.entries.map _))
   rw [size,List.length_map]
   exact h.count
 · intro hover
   refine h.within ?_
   unfold Over Exceeds total at hover ⊢
   rwa [hweights,hlength] at hover

lemma exchange_spec {expected d : Int64} (h:Kept cache) : ∃ after value,
 compareExchangePersistedAccess cache digestHex expected d=some (value,after) ∧
  reference cache.limits (resident cache) (.exchange digestHex expected d)=
   (.answered value,resident after) ∧ Kept after ∧ after.limits=cache.limits:=by
 cases hfound:cache.byDigest digestHex with
 | none=>
  have hother:=(lookup_none h.toBooks).mp hfound
  have hany:¬(resident cache).any (fun entry =>
    entry.digestHex=digestHex ∧ entry.persistedAccessUnixNs=expected)=true:=by
   rw [List.any_eq_true]
   intro hexists
   obtain ⟨entry,hentry,hsame⟩:=hexists
   exact hother entry hentry (of_decide_eq_true hsame).1
  refine ⟨cache,false,?_,?_,h,rfl⟩
  · rw [compareExchangePersistedAccess,hfound]
  · rw [reference,if_neg hany]
 | some p=>
  obtain ⟨node,hnode,rfl,rfl,hplace,-⟩:=lookup_some h.toBooks hfound
  have hany:(resident cache).any (fun entry =>
    entry.digestHex=node.entry.digestHex ∧ entry.persistedAccessUnixNs=expected)=true ↔
    node.entry.persistedAccessUnixNs=expected:=by
   rw [List.any_eq_true]
   constructor
   · intro hexists
     obtain ⟨entry,hentry,hsame⟩:=hexists
     obtain ⟨other,hother,rfl⟩:=List.mem_map.mp hentry
     have hboth:=of_decide_eq_true hsame
     rw [same_digest h.toBooks hother hnode hboth.1] at hboth
     exact hboth.2
   · intro haccess
     exact ⟨node.entry,mem_resident hnode,decide_eq_true ⟨rfl,haccess⟩⟩
  by_cases haccess:node.entry.persistedAccessUnixNs=expected
  · refine ⟨exchanged cache node.place d,true,?_,?_,exchanged_kept h _ _,rfl⟩
    · rw [compareExchangePersistedAccess,hfound]
      simp only [hplace,Option.map_some,haccess,ne_eq,not_true_eq_false,if_false]
    · rw [reference,if_pos (hany.mpr haccess)]
      refine congrArg (Reply.answered true,·) ?_
      rw [resident,resident,exchanged,List.map_map,List.map_map]
      refine List.map_congr_left fun other hother=>?_
      have hiff:other.entry.digestHex=node.entry.digestHex ↔ other.place=node.place:=
       ⟨fun hdigest=>congrArg Node.place (same_digest h.toBooks hother hnode hdigest),
        fun hsame=>congrArg (·.entry.digestHex) (same_place h.toBooks hother hnode hsame)⟩
      simp only [Function.comp_apply,hiff]
      split
      · rfl
      · rfl
  · refine ⟨cache,false,?_,?_,h,rfl⟩
    · rw [compareExchangePersistedAccess,hfound]
      simp only [hplace,Option.map_some,haccess,ne_eq,not_false_eq_true,if_true]
    · rw [reference,if_neg (mt hany.mp haccess)]

lemma push_spec {entry : Entry} (h:Kept cache)
 (hnew:∀other∈resident cache,other.digestHex≠entry.digestHex)
 (hweight:entry.weight=artifactWeight entry.artifact)
 (hfits:entry.weight ≤ cache.limits.maximumBytes)
 (hbytes:cache.limits.maximumBytes.toNat<2 ^ 63) : Books (pushFront cache entry):=by
 have hnone:=(lookup_none h.toBooks).mpr hnew
 have hwithin:=h.within
 have htotal:=h.bytes
 rw [UInt64.le_iff_toNat_le] at hfits
 refine ⟨?_,?_,?_,?_,?_,?_,rfl⟩
 · refine List.nodup_cons.mpr ⟨fun hmem=>?_,h.places⟩
   obtain ⟨node,hnode,heq⟩:=List.mem_map.mp hmem
   exact absurd heq (h.fresh node hnode).ne
 · refine List.nodup_cons.mpr ⟨fun hmem=>?_,h.digests⟩
   obtain ⟨other,hother,heq⟩:=List.mem_map.mp hmem
   exact hnew other hother heq
 · intro digestHex p
   change emplace cache.byDigest entry.digestHex cache.fresh digestHex=some p ↔
    ∃ node∈(⟨cache.fresh,entry⟩ : Node)::cache.entries,node.place=p ∧
     node.entry.digestHex=digestHex
   rw [emplace,if_pos hnone,Function.update_apply,List.exists_mem_cons_iff]
   split
   · next hsame =>
     subst hsame
     constructor
     · intro hplace
       exact .inl ⟨Option.some.inj hplace,rfl⟩
     · intro hplace
       obtain ⟨hplace,-⟩ | ⟨node,hnode,-,hdigest⟩:=hplace
       · exact congrArg some hplace
       · exact absurd hdigest (hnew _ (mem_resident hnode))
   · next hdiff =>
     rw [h.byDigest digestHex p]
     constructor
     · exact .inr
     · intro hplace
       obtain ⟨-,hdigest⟩ | hnode:=hplace
       · exact absurd hdigest.symm hdiff
       · exact hnode
 · intro node hnode
   obtain rfl | hold:=List.mem_cons.mp hnode
   · exact Nat.lt_succ_self _
   · exact (h.fresh node hold).trans (Nat.lt_succ_self _)
 · intro other hother
   obtain rfl | hold:=List.mem_cons.mp hother
   · exact hweight
   · exact h.weights other hold
 · change (cache.stats.bytes+entry.weight).toNat=total weightOf (entry::resident cache)
   unfold Over Exceeds at hwithin
   rw [UInt64.toNat_add,total_cons,weightOf,htotal]
   omega

lemma accepted_iff {limits : MemoryCacheLimits} {artifact : HeldArtifact}:
 accepted limits digestHex artifact=true ↔ validDigest digestHex=true ∧
  ¬(limits.maximumEntries=0 ∨ artifactWeight artifact>limits.maximumBytes):=by
 rw [accepted,decide_eq_true_eq,not_or,gt_iff_lt,UInt64.not_lt]

lemma dropOld_spec (digestHex : Bytes) (h:Kept cache) : ∃ cleared,
 dropOld cache digestHex=some cleared ∧ Kept cleared ∧
 resident cleared=drop Entry.digestHex digestHex (resident cache) ∧
 cleared.limits=cache.limits:=by
 obtain ⟨cleared,herased,hkept⟩:=@erase_spec cache digestHex h
 refine ⟨cleared,?_,hkept⟩
 unfold erase at herased
 unfold dropOld
 cases hfound:cache.byDigest digestHex with
 | none=>
  rw [hfound] at herased
  exact congrArg some (Prod.mk.inj (Option.some.inj herased)).2
 | some p=>
  rw [hfound] at herased
  obtain ⟨left,hleft,heq⟩:=Option.map_eq_some_iff.mp herased
  exact hleft.trans (congrArg some (Prod.mk.inj heq).2)

lemma insert_spec {artifact : Option HeldArtifact} {a : Int64} (h:Kept cache)
 (hbytes:cache.limits.maximumBytes.toNat<2 ^ 63) : ∃ after value,
 insert cache digestHex artifact a=some (value,after) ∧
  reference cache.limits (resident cache) (.insert digestHex artifact a)=
   (.answered value,resident after) ∧ Kept after ∧ after.limits=cache.limits ∧
  (value=true → ∃ held,artifact=some held ∧ (resident after).head? =
   some ⟨digestHex,held,artifactWeight held,a⟩) ∧
  (value=false → after=cache):=by
 cases artifact with
 | none=>exact ⟨cache,false,rfl,rfl,h,rfl,fun hvalue=>absurd hvalue Bool.false_ne_true,
   fun _=>rfl⟩
 | some held=>
  by_cases haccepted:accepted cache.limits digestHex held=true
  · have hboth:=accepted_iff.mp haccepted
    obtain ⟨cleared,hcleared,hkept,hresident,hlimits⟩:=dropOld_spec digestHex h
    have hpushed:Books (pushFront cleared ⟨digestHex,held,artifactWeight held,a⟩):=
     push_spec hkept
     (fun other hother=>by
      rw [hresident] at hother
      exact of_decide_eq_true (List.mem_filter.mp hother).2) rfl
     (by rw [hlimits]; exact UInt64.not_lt.mp (not_or.mp hboth.2).2) (by rwa [hlimits])
    obtain ⟨after,hafter,hbooks,hevicted,hsame⟩:=evictToLimits_spec _ hpushed (le_refl _)
    have hput:resident after=put Entry.digestHex weightOf cache.limits.maximumEntries.toNat
      cache.limits.maximumBytes.toNat ⟨digestHex,held,artifactWeight held,a⟩
       (resident cache):=by
     rw [put,←hresident,←hlimits]
     exact hevicted
    refine ⟨after,true,?_,?_,⟨hbooks,?_⟩,hsame.trans hlimits,fun _=>⟨held,rfl,?_⟩,
     fun hvalue=>absurd hvalue Bool.false_ne_true.symm⟩
    · unfold MemoryArtifactCache.insert
      rw [hboth.1]
      simp only [Bool.not_true,Bool.false_eq_true,if_false,hboth.2,hcleared,
       Option.bind_eq_bind,Option.bind_some,hafter]
      rfl
    · rw [reference]
      simp only [haccepted,if_true,hput]
    · unfold Over
      rw [hevicted,hsame]
      exact evict_within _
    · have hcount:cache.limits.maximumEntries.toNat≠0:=fun hzero =>
       (not_or.mp hboth.2).1 (UInt64.toNat_inj.mp hzero)
      rw [hput,put]
      exact evict_head hcount (UInt64.le_iff_toNat_le.mp (UInt64.not_lt.mp (not_or.mp hboth.2).2))
  · have hrefused:=mt accepted_iff.mpr haccepted
    refine ⟨cache,false,?_,?_,h,rfl,fun hvalue=>absurd hvalue Bool.false_ne_true,
     fun _=>rfl⟩
    · unfold MemoryArtifactCache.insert
      by_cases hdigest:validDigest digestHex=true
      · have hlimit:=not_not.mp (fun hnot=>hrefused ⟨hdigest,hnot⟩)
        simp only [hdigest,Bool.not_true,Bool.false_eq_true,if_false,hlimit,if_true]
      · simp only [Bool.not_eq_true] at hdigest
        simp only [hdigest,Bool.not_false,if_true]
    · rw [reference]
      simp only [haccepted,if_false,Bool.false_eq_true]

end Operations

section Runs
variable {cache : Cache}

lemma step_spec (call : Call) (h:Kept cache)
 (hbytes:cache.limits.maximumBytes.toNat<2 ^ 63) : ∃ after,
 step cache call=some ((reference cache.limits (resident cache) call).1,after) ∧
  resident after=(reference cache.limits (resident cache) call).2 ∧ Kept after ∧
  after.limits=cache.limits:=by
 cases call with
 | find digestHex=>
  obtain ⟨after,hfind,hkept,hresident,hlimits⟩:=@find_spec cache digestHex h
  refine ⟨after,?_,hresident,hkept,hlimits⟩
  rw [step,hfind]
  rfl
 | insert digestHex artifact a=>
  obtain ⟨after,value,hinsert,href,hkept,hlimits,-,-⟩:=
   @insert_spec cache digestHex artifact a h hbytes
  refine ⟨after,?_,?_,hkept,hlimits⟩
  · rw [step,hinsert,href]
    rfl
  · rw [href]
 | exchange digestHex expected d=>
  obtain ⟨after,value,hexchange,href,hkept,hlimits⟩:=@exchange_spec cache digestHex expected d h
  refine ⟨after,?_,?_,hkept,hlimits⟩
  · rw [step,hexchange,href]
    rfl
  · rw [href]
 | erase digestHex=>
  obtain ⟨after,herase,hkept,hresident,hlimits⟩:=@erase_spec cache digestHex h
  refine ⟨after,?_,hresident,hkept,hlimits⟩
  rw [step,herase]
  rfl
 | clear=>
  obtain ⟨hkept,hresident⟩:=clear_spec cache
  exact ⟨clear cache,rfl,hresident,hkept,rfl⟩

lemma run_spec (calls : List Call) (h:Kept cache)
 (hbytes:cache.limits.maximumBytes.toNat<2 ^ 63) : ∃ after,
 run cache calls=some ((referenceRun cache.limits (resident cache) calls).1,after) ∧
  resident after=(referenceRun cache.limits (resident cache) calls).2 ∧ Kept after ∧
  after.limits=cache.limits:=by
 induction calls generalizing cache with
 | nil=>exact ⟨cache,rfl,rfl,h,rfl⟩
 | cons call calls ih=>
  obtain ⟨next,hstep,hresident,hkept,hlimits⟩:=step_spec call h hbytes
  obtain ⟨after,hrun,hlast,hafter,hsame⟩:=ih hkept (by rwa [hlimits])
  rw [hlimits,hresident] at hrun hlast
  refine ⟨after,?_,hlast,hafter,hsame.trans hlimits⟩
  rw [run,hstep]
  simp only [Option.bind_eq_bind,Option.bind_some,hrun]
  rfl

/-- What the map and the statistics say is what the list holds, within the limits. -/
structure Exact (cache : Cache) : Prop where
 entries : cache.stats.entries.toNat=(resident cache).length
 bytes : cache.stats.bytes.toNat=total weightOf (resident cache)
 entriesWithin : cache.stats.entries ≤ cache.limits.maximumEntries
 bytesWithin : cache.stats.bytes ≤ cache.limits.maximumBytes
 once : ((resident cache).map Entry.digestHex).Nodup
 byDigest : ∀digestHex place,cache.byDigest digestHex=some place ↔
  ∃ node∈cache.entries,node.place=place ∧ node.entry.digestHex=digestHex

lemma Kept.exact (h:Kept cache) : Exact cache:=by
 have hcount:cache.stats.entries.toNat=(resident cache).length:=by
  rw [h.count,h.toNat_size,length_resident]
 have hwithin:=h.within
 unfold Over Exceeds at hwithin
 rw [not_or,←hcount,←h.bytes] at hwithin
 refine ⟨hcount,h.bytes,?_,?_,h.digests,h.byDigest⟩
 · rw [UInt64.le_iff_toNat_le]
   omega
 · rw [UInt64.le_iff_toNat_le]
   omega

/-- No call uses an iterator that names nothing; the replies and the entries are those of a
  list in the order of use, and a further insertion keeps its entry or changes nothing. -/
theorem runs_as_reference (limits : MemoryCacheLimits) (calls : List Call)
 (hbytes:limits.maximumBytes.toNat<2 ^ 63) : ∃ cache,
 run { limits:=limits } calls=some ((referenceRun limits [] calls).1,cache) ∧
  resident cache=(referenceRun limits [] calls).2 ∧ Exact cache ∧
  ∀digestHex artifact access,∃ value after,
   MemoryArtifactCache.insert cache digestHex artifact access=some (value,after) ∧
   (value=true → ∃ held,artifact=some held ∧ (resident after).head? =
    some ⟨digestHex,held,artifactWeight held,access⟩) ∧
   (value=false → after=cache):=by
 obtain ⟨cache,hrun,hresident,hkept,hlimits⟩:=run_spec calls (empty_kept limits) hbytes
 refine ⟨cache,hrun,hresident,hkept.exact,fun digestHex artifact access=>?_⟩
 have hbytes':cache.limits.maximumBytes.toNat<2 ^ 63:=by rwa [hlimits]
 obtain ⟨after,value,hinsert,-,-,-,hinserted,hrefused⟩:=
  @insert_spec cache digestHex artifact access hkept hbytes'
 exact ⟨value,after,hinsert,hinserted,hrefused⟩

def pixelCalls : List Call:=
 [.insert (List.replicate 64 48) (some ⟨onePixel,by decide⟩) 0,.find (List.replicate 64 48)]

theorem runs_as_reference_pixel : ∃ cache,
 run { limits:={} } pixelCalls=some ((referenceRun {} [] pixelCalls).1,cache) ∧
  resident cache=(referenceRun {} [] pixelCalls).2:=by
 obtain ⟨cache,hrun,hresident,-⟩:=runs_as_reference {} pixelCalls (by decide)
 exact ⟨cache,hrun,hresident⟩

end Runs

end VoVe.MemoryCacheOrder
