import VoVe.ThumbnailCacheOrigins
import VoVe.ThumbnailPipeline

set_option autoImplicit false

namespace VoVe.ThumbnailPipelineRules
open ByteCodec CacheKeys CallLog ThumbnailCache ThumbnailTypes ThumbnailPipeline
open ThumbnailCacheOrigins
open ArtifactCodec (ArtifactData kMaxArtifactDimension)

lemma edgeTiers_eq : edgeTiers=[512,1024,2048] := by decide

lemma cacheEdge_mem (edge : UInt32) : cacheEdge edge∈edgeTiers:=by
 rw [edgeTiers_eq]
 unfold cacheEdge edgeTurns cacheEdgeFrom
 split
 · unfold cacheEdgeFrom
   split
   · unfold cacheEdgeFrom
     rw [if_neg]
     · decide
     · intro hless
       exact absurd hless.2 (by decide)
   · decide
 · decide

variable {edge other : UInt32} {payload : Bytes} {artifact : ArtifactData}
 {v validated : Option (Except Bytes QoiImage)} {t : CachedThumbnail}

lemma edgesUp_tiers (hedge:edge∈edgeTiers)
 (h:other∈edgesUp (·≤kMaxArtifactDimension) edgeTurns (edge*2)) : other∈edgeTiers:=by
 revert hedge h
 rw [edgeTiers_eq]
 intro hedge
 simp only [List.mem_cons,List.not_mem_nil,or_false] at hedge
 obtain rfl | rfl | rfl:=hedge
 · have hedges:edgesUp (·≤kMaxArtifactDimension) edgeTurns (512*2)=[1024,2048]:=by decide
   rw [hedges]
   exact List.mem_cons_of_mem 512
 · have hedges:edgesUp (·≤kMaxArtifactDimension) edgeTurns (1024*2)=[2048]:=by decide
   rw [hedges]
   exact fun h=>List.mem_cons_of_mem 512 (List.mem_cons_of_mem 1024 h)
 · have hedges:edgesUp (·≤kMaxArtifactDimension) edgeTurns (2048*2)=[]:=by decide
   rw [hedges]
   exact nofun

lemma edgesDown_tiers (hedge:edge∈edgeTiers)
 (h:other∈edgesDown (kThumbnailCanonicalEdge ≤ ·) edgeTurns (edge / 2)):
 other∈edgeTiers:=by
 revert hedge h
 rw [edgeTiers_eq]
 intro hedge
 simp only [List.mem_cons,List.not_mem_nil,or_false] at hedge
 obtain rfl | rfl | rfl:=hedge
 · have hedges:edgesDown (kThumbnailCanonicalEdge ≤ ·) edgeTurns (512 / 2)=[]:=by decide
   rw [hedges]
   exact nofun
 · have hedges:edgesDown (kThumbnailCanonicalEdge ≤ ·) edgeTurns (1024 / 2)=[512]:=by decide
   rw [hedges]
   exact fun h=>List.mem_of_mem_head? (List.mem_singleton.mp h ▸ rfl)
 · have hedges:edgesDown (kThumbnailCanonicalEdge ≤ ·) edgeTurns (2048 / 2)=[1024,512]:=by
    decide
   rw [hedges]
   intro h
   simp only [List.mem_cons,List.not_mem_nil,or_false] at h ⊢
   exact h.elim (fun h=>.inr (.inl h)) .inl

lemma edgesBelow_tiers (hedge:edge∈edgeTiers)
 (h:other∈edgesUp (·<edge) edgeTurns kThumbnailCanonicalEdge) : other∈edgeTiers:=by
 revert hedge h
 rw [edgeTiers_eq]
 intro hedge
 simp only [List.mem_cons,List.not_mem_nil,or_false] at hedge
 obtain rfl | rfl | rfl:=hedge
 · have hedges:edgesUp (·<512) edgeTurns kThumbnailCanonicalEdge=[]:=by decide
   rw [hedges]
   exact nofun
 · have hedges:edgesUp (·<1024) edgeTurns kThumbnailCanonicalEdge=[512]:=by decide
   rw [hedges]
   exact fun h=>List.mem_of_mem_head? (List.mem_singleton.mp h ▸ rfl)
 · have hedges:edgesUp (·<2048) edgeTurns kThumbnailCanonicalEdge=[512,1024]:=by decide
   rw [hedges]
   intro h
   simp only [List.mem_cons,List.not_mem_nil,or_false] at h ⊢
   exact h.elim .inl fun h=>.inr (.inl h)

/-- A call that neither publishes nor binds. -/
def Calm (step : Step) : Prop:=
 match step.call with
 | .lookup _ _ | .lookupLocator _ _ | .eraseLocator _ | .erase _=>True
 | _=>False

variable (locator : CacheLocatorKey)

/-- The locator of the same preview in another tier. -/
def atEdge (edge : UInt32) : CacheLocatorKey:=
 { locator with canonicalEdge:=edge }

def Near (step : Step) : Prop:=
 match step.call with
 | .bindLocator bound _=>∃ edge ∈ edgeTiers,bound = atEdge locator edge
 | .prune _ | .restart=>False
 | _=>True

lemma near_of_calm {locator : CacheLocatorKey} (step : Step) (h:Calm step):
 Near locator step:=by
 unfold Calm at h
 unfold Near
 cases hcall:step.call with
 | publish r=>trivial
 | lookup key accessUnixNs=>trivial
 | lookupLocator locator accessUnixNs=>trivial
 | bindLocator locator key=>
  rw [hcall] at h
  exact h.elim
 | eraseLocator locator=>trivial
 | erase key=>trivial
 | prune removal=>
  rw [hcall] at h
  exact h.elim
 | restart=>
  rw [hcall] at h
  exact h.elim

def Erases (steps next : List Step) : Prop:=
 ∃ new,next = steps++new ∧ (∀step ∈ new,Calm step) ∧
  ∀edge ∈ edgeTiers,∃ step ∈ new,step.call = .eraseLocator (atEdge locator edge)

lemma Erases.before {locator : CacheLocatorKey} {s next last : List Step}
 (h:Extends Calm s next) (hnext:Erases locator next last):
 Erases locator s last:=by
 obtain ⟨first,rfl,hfirst⟩:=h
 obtain ⟨second,rfl,hsecond,herased⟩:=hnext
 refine ⟨first++second,List.append_assoc s first second,?_,?_⟩
 · intro step hstep
   exact (List.mem_append.mp hstep).elim (hfirst step) (hsecond step)
 · intro edge hedge
   obtain ⟨step,hstep,hcall⟩:=herased edge hedge
   exact ⟨step,List.mem_append_right first hstep,hcall⟩

section Calls
variable (w : Workings) {allowed : Step → Prop}

lemma only_perform {α : Type} {made : Call} {answer : PersistentThumbnailCache → Faults → Option α}
 (h:∀faults,allowed ⟨made,faults⟩) : Only allowed (perform w made answer):=
 only_call fun _=>h _

variable (locator : CacheLocatorKey)

lemma eraseTiers_only (e : List UInt32) : Only Calm (eraseTiers w locator e):=by
 induction e with
 | nil=>exact only_pure ()
 | cons edge e ih=>exact only_bind (only_perform w fun _=>trivial) fun _=>ih

lemma revokeLocatorTiers_only : Only Calm (revokeLocatorTiers w locator):=
 eraseTiers_only w locator edgeTiers

lemma eraseTiers_erases (e : List UInt32) (s : List Step):
 ∃ new,(eraseTiers w locator e s).2=s++new ∧ (∀step∈new,Calm step) ∧
  ∀edge∈e,∃ step∈new,step.call=.eraseLocator (atEdge locator edge):=by
 induction e generalizing s with
 | nil=>
  exact ⟨[],(List.append_nil s).symm,fun _ hstep=>absurd hstep List.not_mem_nil,
   fun _ hedge=>absurd hedge List.not_mem_nil⟩
 | cons edge e ih=>
  obtain ⟨new,hnew,hcalm,herased⟩:=
   ih (s++[⟨.eraseLocator (atEdge locator edge),w.faults s.length⟩])
  refine ⟨⟨.eraseLocator (atEdge locator edge),w.faults s.length⟩::new,?_,?_,?_⟩
  · rw [List.append_assoc] at hnew
    exact hnew
  · intro step hstep
    obtain rfl | hstep:=List.mem_cons.mp hstep
    · trivial
    · exact hcalm step hstep
  · intro other hother
    obtain rfl | hother:=List.mem_cons.mp hother
    · exact ⟨_,List.mem_cons_self,rfl⟩
    · obtain ⟨step,hstep,hcall⟩:=herased other hother
      exact ⟨step,List.mem_cons_of_mem _ hstep,hcall⟩

lemma revokeLocatorTiers_erases (s : List Step):
 Erases locator s (revokeLocatorTiers w locator s).2:=
 eraseTiers_erases w locator edgeTiers s

lemma lookupTiers_only (accessUnixNs : ℤ) (e : List UInt32) (locator : CacheLocatorKey)
 (c : CacheLookupResult):
 Only Calm (lookupTiers w accessUnixNs locator c e):=by
 induction e generalizing locator c with
 | nil=>exact only_pure _
 | cons edge e ih=>
  unfold lookupTiers
  split
  · exact only_bind (only_perform w fun _=>trivial) fun c=>ih _ c
  · exact only_pure _

lemma lookupOffline_only (accessUnixNs : ℤ) : Only Calm (lookupOffline w locator accessUnixNs):=
 only_bind (only_perform w fun _=>trivial) fun c =>
  only_bind (lookupTiers_only w accessUnixNs _ locator c) fun looked =>
   lookupTiers_only w accessUnixNs _ looked.1 looked.2

variable (r : ThumbnailPipelineRequest)

lemma materializeOffline_only (locator : CacheLocatorKey):
 Only Calm (materializeOffline w r locator):=by
 apply only_bind (lookupOffline_only w locator _)
 intro looked
 obtain ⟨offlineLocator,c⟩:=looked
 dsimp only
 split
 · exact only_pure _
 split
 · exact only_pure _
 split
 · exact only_pure _
 split
 · exact only_bind (only_perform w fun _=>trivial) fun _=>only_pure _
 · exact only_pure _

section Publishing
variable (r request : ThumbnailPipelineRequest) (key : CacheKey) {locator : CacheLocatorKey}

lemma revoke_near (locator : CacheLocatorKey):
 Only (Near locator) (revokeLocatorTiers w locator):=
 only_mono (revokeLocatorTiers_only w locator) near_of_calm

lemma bind_near (hedge:edge∈edgeTiers):
 Only (Near locator) (bindLocator w (atEdge locator edge) key):=
 only_perform w fun _=>⟨edge,hedge,rfl⟩

section
variable (hedge:locator.canonicalEdge∈edgeTiers)
include hedge

lemma bind_own_near : Only (Near locator) (bindLocator w locator key):=
 only_perform w fun _=>⟨locator.canonicalEdge,hedge,rfl⟩

lemma persist_only (rendered : RenderedThumbnail):
 Only (Near locator) (persist w r key locator rendered):=by
 apply only_bind (only_perform w fun _=>trivial)
 intro published
 split
 · exact only_bind (revoke_near w locator) fun _=>only_pure _
 · apply only_bind (bind_own_near w key hedge)
   intro bound
   split
   · exact only_bind (revoke_near w locator) fun _=>only_pure _
   · exact only_pure _

lemma renderAndPublish_only
 (renderer : Option (ThumbnailPipelineRequest → RenderedThumbnail))
 (a : Bool):
 Only (Near locator)
  (renderAndPublish w renderer r key locator a):=by
 unfold renderAndPublish
 split
 · exact only_pure _
 dsimp only
 split
 · split
   · exact only_pure _
   · exact only_pure _
 split
 · exact only_pure _
 split
 · exact only_bind (persist_only w r key hedge _) fun _=>only_pure _
 · exact only_pure _

end

lemma renderAndPublish_unpersisted (locator : CacheLocatorKey)
 (renderer : Option (ThumbnailPipelineRequest → RenderedThumbnail)):
 Only Calm (renderAndPublish w renderer r key locator false):=by
 unfold renderAndPublish
 split
 · exact only_pure _
 dsimp only
 split
 · split
   · exact only_pure _
   · exact only_pure _
 split
 · exact only_pure _
 · exact only_pure _

lemma deriveTiers_only (result : ThumbnailPipelineResult) (e : List UInt32)
 (hedges:∀edge∈e,edge∈edgeTiers):
 Only (Near locator) (deriveTiers w r key locator result e):=by
 induction e with
 | nil=>exact only_pure result
 | cons edge e ih=>
  unfold deriveTiers
  dsimp only
  split
  · exact only_bind (revoke_near w locator) fun _=>only_pure _
  split
  · exact only_bind (revoke_near w locator) fun _=>only_pure _
  apply only_bind (only_perform w fun _=>trivial)
  intro published
  split
  · exact only_bind (revoke_near w locator) fun _=>only_pure _
  apply only_bind (bind_near w _ (hedges edge List.mem_cons_self))
  intro bound
  split
  · exact only_bind (revoke_near w locator) fun _=>only_pure _
  · exact ih fun other hother=>hedges other (List.mem_cons_of_mem edge hother)

lemma finish_only (hkey:key.canonicalEdge∈edgeTiers) (result : ThumbnailPipelineResult):
 Only (Near locator) (finish w r key locator result):=by
 unfold finish
 split
 · exact only_pure result
 · exact deriveTiers_only w r key result _ fun _=>edgesBelow_tiers hkey

lemma renderAndFinish_only (made : Fetch) (hedge:locator.canonicalEdge∈edgeTiers)
 (hkey:key.canonicalEdge∈edgeTiers):
 Only (Near locator) (renderAndFinish w made r key locator):=by
 apply only_bind (renderAndPublish_only w r key hedge _ true)
 intro rendered
 split
 · exact only_bind (revoke_near w locator) fun _ =>
    finish_only w r key hkey rendered
 · exact finish_only w r key hkey rendered

lemma finishHit_only (hedge:locator.canonicalEdge∈edgeTiers)
 (hkey:key.canonicalEdge∈edgeTiers) (c : CacheLookupResult)
 (t : CachedThumbnail) (result : ThumbnailPipelineResult):
 Only (Near locator) (finishHit w r key locator c t result):=by
 unfold finishHit
 dsimp only
 split
 · exact only_bind (revoke_near w locator) fun _ =>
    finish_only w r key hkey _
 apply only_bind (bind_own_near w key hedge)
 intro bound
 split
 · exact only_bind (revoke_near w locator) fun _ =>
    finish_only w r key hkey _
 · exact finish_only w r key hkey result

lemma fetchResolved_only (made : Fetch) (hedge:locator.canonicalEdge∈edgeTiers):
 Only (Near locator) (fetchResolved w made r locator):=by
 have hkey:(makeCacheKey r).canonicalEdge∈edgeTiers:=cacheEdge_mem _
 unfold fetchResolved
 dsimp only
 split
 · exact renderAndPublish_only w r _ hedge _ false
 apply only_bind (only_perform w fun _=>trivial)
 intro c
 split
 · split
   · exact only_pure _
   split
   · exact finishHit_only w r _ hedge hkey c _ _
   · exact only_bind (only_perform w fun _=>trivial) fun _ =>
      renderAndFinish_only w r _ made hedge hkey
 · exact renderAndFinish_only w r _ made hedge hkey

end Publishing

lemma fetchUnresolved_only (locator : CacheLocatorKey)
 (resolved : ResolvedThumbnailSource):
 Only Calm (fetchUnresolved w r locator resolved):=by
 unfold fetchUnresolved
 dsimp only
 split
 · apply only_bind (materializeOffline_only w r locator)
   intro offline
   split
   · exact only_pure _
   · exact only_pure _
 split
 · exact only_bind (revokeLocatorTiers_only w locator) fun _=>only_pure _
 · exact only_pure _

end Calls

section Images
variable (w : Workings) {edge : UInt32} {image shown : QoiImage}

/-- Neither side of the image is empty, and every pixel has four bytes. -/
structure Whole (image : QoiImage) : Prop where
 width : 1 ≤ image.width
 height : 1 ≤ image.height
 length : image.rgba8.length=image.width.toNat*image.height.toNat*4

lemma one_le_of_ne {value : UInt32} (h:value≠0) : 1≤value:=by
 rw [ne_eq,←UInt32.toNat_inj] at h
 rw [UInt32.le_iff_toNat_le]
 change value.toNat≠0 at h
 change 1≤value.toNat
 omega

lemma decoded_whole (h:decodeQoiRgba8 w.libraries payload=.ok image) : Whole image:=by
 unfold decodeQoiRgba8 at h
 split at h
 · exact absurd h nofun
 split at h
 · exact absurd h nofun
 dsimp only at h
 split at h
 · exact absurd h nofun
 rename_i hheader
 cases hdecoded:w.libraries.qoiDecode payload with
 | none=>
  rw [hdecoded] at h
  exact absurd h nofun
 | some decoded=>
  rw [hdecoded] at h
  dsimp only at h
  split at h
  · exact absurd h nofun
  rename_i hsame
  obtain rfl:=Except.ok.inj h
  rw [not_or,not_not,not_not] at hsame
  rw [not_or,Bool.not_eq_true',Bool.not_eq_false,validDimensions,decide_eq_true_eq,
   ← hsame.1,←hsame.2] at hheader
  exact ⟨one_le_of_ne hheader.1.1,one_le_of_ne hheader.1.2.1,
   w.decoded_whole payload decoded hdecoded⟩

lemma decodedAs_ok {metadata : ArtifactCodec.ArtifactMetadata}
 (h:decodedAs w.libraries metadata payload=.ok image):
 decodeQoiRgba8 w.libraries payload=.ok image ∧ image.width=metadata.width ∧
  image.height=metadata.height:=by
 unfold decodedAs at h
 cases hdecoded:decodeQoiRgba8 w.libraries payload with
 | error message=>
  rw [hdecoded] at h
  exact absurd h nofun
 | ok decoded=>
  rw [hdecoded] at h
  dsimp only at h
  split at h
  · rename_i hsame
    obtain rfl:=Except.ok.inj h
    exact ⟨rfl,hsame⟩
  · exact absurd h nofun

lemma fitted_within (h:fitted w image edge=.ok shown) (hwhole:Whole image):
 Whole shown ∧ shown.width≤edge ∧ shown.height≤edge:=by
 unfold fitted at h
 split at h
 · dsimp only at h
   split at h
   · rename_i hscaled
     have hfits:=w.scaled_fits image.rgba8 image.width image.height edge hscaled
     rw [ScaledRgbaImage.ok,decide_eq_true_eq] at hscaled
     obtain rfl:=Except.ok.inj h
     exact ⟨⟨one_le_of_ne hscaled.2.1,one_le_of_ne hscaled.2.2.1,hfits.2.2⟩,hfits.1,hfits.2.1⟩
   · exact absurd h nofun
 · rename_i hsmall
   obtain rfl:=Except.ok.inj h
   rw [not_or,UInt32.not_lt,UInt32.not_lt] at hsmall
   exact ⟨hwhole,hsmall⟩

/-- What was decoded before is whole. -/
def Validated (validated : Option (Except Bytes QoiImage)) : Prop:=
 ∀image,validated = some (.ok image) → Whole image

lemma pixels_within (h:pixels w artifact edge v=.ok shown)
 (hvalid:Validated v) : Whole shown ∧ shown.width≤edge ∧ shown.height≤edge:=by
 unfold pixels at h
 have hwhole:∀image,v.getD (decodeQoiRgba8 w.libraries artifact.payload)=
   .ok image → Whole image:=by
  intro image himage
  cases v with
  | none=>exact decoded_whole w himage
  | some decoded=>exact hvalid image (congrArg some himage)
 cases hdecoded:v.getD (decodeQoiRgba8 w.libraries artifact.payload) with
 | error message=>
  rw [hdecoded] at h
  exact absurd h nofun
 | ok decoded=>
  rw [hdecoded] at h
  dsimp only at h
  split at h
  · exact absurd h nofun
  · exact fitted_within w h (hwhole decoded hdecoded)

lemma validated_thumbnail (h:Decoded w.libraries t) : Validated (t.decoded.map .ok):=by
 intro image himage
 cases hdecoded:t.decoded with
 | none=>
  rw [hdecoded] at himage
  exact absurd himage nofun
 | some decoded=>
  rw [hdecoded] at himage
  obtain rfl:=Except.ok.inj (Option.some.inj himage)
  exact decoded_whole w (decodedAs_ok w (h decoded hdecoded)).1

lemma pixels_thumbnail (h:Decoded w.libraries t) : pixels w t.artifact edge (t.decoded.map .ok)=
  pixels w t.artifact edge none:=by
 cases hdecoded:t.decoded with
 | none=>rfl
 | some decoded=>
  unfold pixels
  rw [Option.getD_none,(decodedAs_ok w (h decoded hdecoded)).1]
  rfl

end Images

section Results
variable (w : Workings) {r request : ThumbnailPipelineRequest}
 {result next last : ThumbnailPipelineResult}

def Fits (request : ThumbnailPipelineRequest) (result : ThumbnailPipelineResult) : Prop:=
 result.ok = true → 1 ≤ result.width ∧ result.width ≤ request.canonicalEdge ∧
  1 ≤ result.height ∧ result.height ≤ request.canonicalEdge ∧
  result.rgba8.length = result.width.toNat*result.height.toNat*4 ∧
  result.pageIndex = request.pageIndex

lemma failure_fits {status : ThumbnailPipelineStatus} (h:status≠.success)
 (d : Bytes) (fromCache : Bool) (freshness : PreviewFreshness):
 Fits r (failure status d fromCache freshness):=
 fun hok=>absurd (of_decide_eq_true hok) h

lemma materialize_fits {o : MaterializeOptions} (hvalid:Validated v)
 (hedge:o.presentationEdge=r.canonicalEdge)
 (hpage:o.pageIndex=r.pageIndex):
 Fits r (materialize w artifact o v):=by
 unfold materialize
 cases hpixels:pixels w artifact o.presentationEdge v with
 | error message=>
  have hstatus:ThumbnailPipelineStatus.internalError≠.success:=nofun
  exact failure_fits hstatus message o.fromCache o.freshness
 | ok image=>
  obtain ⟨hwhole,hwidth,hheight⟩:=pixels_within w hpixels hvalid
  rw [hedge] at hwidth hheight
  exact fun _=>⟨hwhole.width,hwidth,hwhole.height,hheight,hwhole.length,hpage⟩

lemma materialize_freshness (artifact : ArtifactData) (o : MaterializeOptions)
 (v : Option (Except Bytes QoiImage)):
 (materialize w artifact o v).freshness=o.freshness:=by
 unfold materialize
 cases pixels w artifact o.presentationEdge v<;>rfl

lemma materialize_fromCache (artifact : ArtifactData) (o : MaterializeOptions)
 (v : Option (Except Bytes QoiImage)):
 (materialize w artifact o v).fromCache=o.fromCache:=by
 unfold materialize
 cases pixels w artifact o.presentationEdge v<;>rfl

lemma materialize_unrevoked (artifact : ArtifactData) (o : MaterializeOptions)
 (v : Option (Except Bytes QoiImage)):
 revokesOfflineLocator (materialize w artifact o v).status=false:=by
 unfold materialize
 cases pixels w artifact o.presentationEdge v<;>rfl

/-- The result is the same but for what is said about the cache. -/
def Alike (result next : ThumbnailPipelineResult) : Prop:=
 next = { result with fromCache:=next.fromCache,diagnostic:=next.diagnostic }

lemma Alike.refl (result : ThumbnailPipelineResult) : Alike result result := rfl

lemma alike_saveFailed (result : ThumbnailPipelineResult) (d : Bytes):
 Alike result (cacheSaveFailed result d) := rfl

lemma Alike.trans (h:Alike result next) (hnext:Alike next last) : Alike result last:=by
 unfold Alike at h hnext ⊢
 rw [hnext,h]

lemma Alike.status (h:Alike result next) : next.status=result.status:=by
 rw [h]

lemma Alike.freshness (h:Alike result next) : next.freshness=result.freshness:=by
 rw [h]

lemma Alike.fits (h:Alike result next) (hfits:Fits r result) : Fits r next:=by
 rw [h]
 exact hfits

variable (key : CacheKey)

lemma deriveTiers_alike (locator : CacheLocatorKey)
 (result : ThumbnailPipelineResult) (e : List UInt32) (s : List Step):
 Ends (deriveTiers w r key locator result e) s
  fun next _=>Alike result next:=by
 induction e generalizing s with
 | nil=>exact ends_pure (Alike.refl result)
 | cons edge e ih=>
  have hfailed (d : Bytes) (s : List Step):
    Ends (pure (cacheSaveFailed result d)) s fun next _=>Alike result next:=
   ends_pure (alike_saveFailed result d)
  unfold deriveTiers
  dsimp only
  split
  · exact ends_after fun _=>hfailed _
  split
  · exact ends_after fun _=>hfailed _
  apply ends_after
  intro published next
  split
  · exact ends_after fun _=>hfailed _
  apply ends_after
  intro bound next
  split
  · exact ends_after fun _=>hfailed _
  · exact ih next

lemma finish_alike (locator : CacheLocatorKey)
 (result : ThumbnailPipelineResult) (s : List Step):
 Ends (finish w r key locator result) s fun next _=>Alike result next:=by
 unfold finish
 split
 · exact ends_pure (Alike.refl result)
 · exact deriveTiers_alike w key locator result _ s

lemma finish_failed (locator : CacheLocatorKey) (h:result.ok=false):
 finish w r key locator result=pure result:=by
 unfold finish
 apply if_pos
 left
 rw [h]
 rfl

lemma finishHit_alike (locator : CacheLocatorKey) (c : CacheLookupResult)
 (t : CachedThumbnail) (result : ThumbnailPipelineResult) (s : List Step):
 Ends (finishHit w r key locator c t result) s
  fun next _=>Alike result next:=by
 have hfinished (d : Bytes) (s : List Step):
   Ends (finish w r key locator (cacheSaveFailed result d)) s
    fun next _=>Alike result next:=
  ends_mono (finish_alike w key locator _ s) fun _ _ =>
   (alike_saveFailed result d).trans
 unfold finishHit
 dsimp only
 split
 · exact ends_after fun _=>hfinished _
 apply ends_after
 intro bound next
 split
 · exact ends_after fun _=>hfinished _
 · exact finish_alike w key locator result next

end Results

section Rendering
variable (w : Workings) {r request : ThumbnailPipelineRequest}

lemma publish_decoded (libraries : Libraries) (faults : Faults) (cache : PersistentThumbnailCache)
 (published : CachePublishRequest) {image : QoiImage}
 (h:(cache.publish libraries faults published).1.decoded=some image):
 decodedAs libraries published.metadata published.payload=.ok image:=by
 unfold PersistentThumbnailCache.publish at h
 cases hdecoded:decodedAs libraries published.metadata published.payload with
 | error message=>
  rw [hdecoded] at h
  exact absurd h nofun
 | ok decoded=>
  rw [hdecoded] at h
  suffices hsame : some decoded=some image by
   rw [Option.some.inj hsame]
  cases hhash:hashCacheKey libraries published.key with
  | none=>
   rw [hhash] at h
   exact h
  | some digest=>
   rw [hhash] at h
   dsimp only at h
   cases hencoded:ArtifactCodec.encodeVvt1 published.metadata published.payload digest
     ⟨published.sourceProfileName,published.sourceProfileFingerprint⟩ with
   | error error=>
    rw [hencoded] at h
    exact h
   | ok encoded=>
    rw [hencoded] at h
    exact h

lemma persist_validated (r : ThumbnailPipelineRequest) (key : CacheKey)
 (locator : CacheLocatorKey) (rendered : RenderedThumbnail) (s : List Step):
 Ends (persist w r key locator rendered) s
  fun persisted _=>Validated (persisted.1.map .ok):=by
 have hpublished:Ends (publish w
   { key:=key
     metadata:=rendered.metadata
     payload:=rendered.qoiPayload
     sourceProfileName:=rendered.sourceProfileName
     sourceProfileFingerprint:=rendered.sourceProfileFingerprint
     accessUnixNs:=r.accessUnixNs.toInt }) s
   fun published _=>Validated (published.decoded.map .ok):=by
  apply ends_call
  intro published hpublished image himage
  obtain rfl:=Option.some.inj hpublished
  obtain ⟨decoded,hdecoded,hsame⟩:=Option.map_eq_some_iff.mp himage
  rw [←Except.ok.inj hsame]
  exact decoded_whole w
   (decodedAs_ok w (publish_decoded _ _ _ _ hdecoded)).1
 unfold persist
 refine ends_bind hpublished ?_
 intro published next hvalid
 split
 · exact ends_after fun _ _=>ends_pure hvalid
 apply ends_after
 intro bound next
 split
 · exact ends_after fun _ _=>ends_pure hvalid
 · exact ends_pure hvalid

structure Fresh (request : ThumbnailPipelineRequest) (result : ThumbnailPipelineResult) : Prop where
 verified : result.freshness=.verified
 uncached : result.fromCache=false
 fits : Fits request result

lemma failure_fresh {status : ThumbnailPipelineStatus} (h:status≠.success)
 (d : Bytes) : Fresh r (failure status d):=
 ⟨rfl,rfl,failure_fits h d false .verified⟩

lemma presentRendered_fresh (r : ThumbnailPipelineRequest) {rendered : RenderedThumbnail}
 {decoded : Option (Except Bytes QoiImage)} (hvalid:Validated decoded)
 (p : Bytes):
 Fresh r (presentRendered w r rendered decoded p) ∧ revokesOfflineLocator
   (presentRendered w r rendered decoded p).status=false:=by
 unfold presentRendered
 cases decoded with
 | none=>
  have hstatus:ThumbnailPipelineStatus.internalError≠.success:=nofun
  exact ⟨failure_fresh hstatus _,rfl⟩
 | some decoded=>
  dsimp only
  generalize hartifact : ArtifactData.mk rendered.metadata _ _ []=artifact
  have hfresh:Fresh r (materialize w artifact
    { presentationEdge:=r.canonicalEdge,pageIndex:=r.pageIndex }
    (some decoded)):=
   ⟨materialize_freshness w artifact _ _,materialize_fromCache w artifact _ _,
    materialize_fits w hvalid rfl rfl⟩
  have hstatus:=materialize_unrevoked w artifact
   { presentationEdge:=r.canonicalEdge,pageIndex:=r.pageIndex } (some decoded)
  split
  · exact ⟨⟨hfresh.verified,rfl,hfresh.fits⟩,hstatus⟩
  · exact ⟨hfresh,hstatus⟩

lemma renderAndPublish_result
 (renderer : Option (ThumbnailPipelineRequest → RenderedThumbnail)) (key : CacheKey)
 (locator : CacheLocatorKey) (a : Bool) (s : List Step):
 Ends (renderAndPublish w renderer r key locator a) s
  fun result next=>Fresh r result ∧ (revokesOfflineLocator result.status=true → next=s):=by
 have hfailed (d : Bytes) : Fresh r (failure .internalError d):=by
  have hstatus:ThumbnailPipelineStatus.internalError≠.success:=nofun
  exact failure_fresh hstatus d
 unfold renderAndPublish
 split
 · exact ends_pure ⟨hfailed _,nofun⟩
 rename_i renderer
 dsimp only
 split
 · rename_i hstatus
   have hrendered:Fresh r (failure _ _):=failure_fresh hstatus
    (renderer { r with canonicalEdge:=key.canonicalEdge }).diagnostic
   split
   · exact ends_pure ⟨⟨rfl,rfl,hrendered.fits⟩,fun _=>rfl⟩
   · exact ends_pure ⟨hrendered,fun _=>rfl⟩
 split
 · exact ends_pure ⟨hfailed _,nofun⟩
 split
 · refine ends_bind (persist_validated w r key locator _ s) ?_
   intro persisted next hvalid
   obtain ⟨decoded,p⟩:=persisted
   obtain ⟨hfresh,hstatus⟩:=presentRendered_fresh w r hvalid p
   exact ends_pure ⟨hfresh,fun hrevokes=>absurd (hstatus.symm.trans hrevokes) nofun⟩
 · have hvalid:Validated (some (decodeQoiRgba8 w.libraries
     (renderer { r with canonicalEdge:=key.canonicalEdge }).qoiPayload)):=
    fun image himage=>decoded_whole w (Option.some.inj himage)
   obtain ⟨hfresh,hstatus⟩:=presentRendered_fresh w r hvalid []
   exact ends_pure ⟨hfresh,fun hrevokes=>absurd (hstatus.symm.trans hrevokes) nofun⟩

end Rendering

end VoVe.ThumbnailPipelineRules
