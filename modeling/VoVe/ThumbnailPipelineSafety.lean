import VoVe.ThumbnailPipelineRules

set_option autoImplicit false

namespace VoVe.ThumbnailPipelineSafety
open ByteCodec CacheKeys CallLog ThumbnailCache ThumbnailTypes ThumbnailPipeline
open ThumbnailCacheTruth ThumbnailCacheOrigins ThumbnailPipelineRules
open ArtifactCodec (ArtifactData CacheDigest)

variable {next later steps : List Step} {edge : UInt32} {status : ThumbnailPipelineStatus}
 {locator : CacheLocatorKey} {step : Step} {libraries : Libraries} {key : CacheKey}
 {artifact : ArtifactData}

section Lookups
variable (workings : Workings) {steps log : List Step} {locator : CacheLocatorKey}
 {a accessUnixNs : ℤ}

/-- The lookup of a locator that is asked for in the given state. -/
def lookupStep (middle : List Step) (locator : CacheLocatorKey) (accessUnixNs : ℤ) : Step:=
 ⟨.lookupLocator locator accessUnixNs,workings.faults middle.length⟩

def Asked (steps : List Step) (locator : CacheLocatorKey) (accessUnixNs : ℤ)
  (looked : CacheLocatorKey × CacheLookupResult) (next : List Step) : Prop:=
 ∃ middle edge,Extends Calm steps middle ∧ edge ∈ edgeTiers ∧ looked.1 = atEdge locator edge ∧
  next = middle++[lookupStep workings middle looked.1 accessUnixNs] ∧
  ((run workings.libraries workings.limits middle).lookupLocator workings.libraries
   (workings.faults middle.length) looked.1 accessUnixNs).1 = some looked.2

lemma Asked.extends {l : CacheLocatorKey × CacheLookupResult}
 (h:Asked workings steps locator a l next) : Extends Calm steps next:=by
 obtain ⟨m,edge,hmiddle,-,-,rfl,-⟩:=h
 exact hmiddle.trans (extends_call trivial)

lemma lookupLocator_asked (hedge:edge∈edgeTiers) (h:Extends Calm steps log):
 Ends (lookupLocator workings (atEdge locator edge) a) log fun cached next =>
  Asked workings steps locator a (atEdge locator edge,cached) next:=
 ends_call fun _ hcached=>⟨log,edge,h,hedge,rfl,rfl,hcached⟩

lemma lookupTiers_asked {edges : List UInt32} (hedges:∀edge∈edges,edge∈edgeTiers)
 {l : CacheLocatorKey × CacheLookupResult}
 (h:Asked workings steps locator a l log):
 Ends (lookupTiers workings a l.1 l.2 edges) log fun l next =>
  Asked workings steps locator a l next:=by
 induction edges generalizing l log with
 | nil=>exact ends_pure h
 | cons edge edges ih=>
  unfold lookupTiers
  split
  · have hsame:({ l.1 with canonicalEdge:=edge } : CacheLocatorKey)=atEdge locator edge:=by
     obtain ⟨m,other,-,-,hlooked,-⟩:=h
     rw [hlooked]
     rfl
    dsimp only
    rw [hsame]
    refine ends_bind (lookupLocator_asked workings (hedges edge List.mem_cons_self) h.extends) ?_
    intro cached next hasked
    exact ih (fun other hother=>hedges other (List.mem_cons_of_mem edge hother)) hasked
  · exact ends_pure h

lemma lookupOffline_asked (hedge:locator.canonicalEdge∈edgeTiers) (steps : List Step):
 Ends (lookupOffline workings locator a) steps fun l next =>
  Asked workings steps locator a l next:=by
 have hown:Ends (lookupLocator workings locator a) steps fun cached next =>
   Asked workings steps locator a (locator,cached) next:=
  lookupLocator_asked workings hedge (Extends.refl Calm steps)
 refine ends_bind hown ?_
 intro cached next hasked
 refine ends_bind (lookupTiers_asked workings (fun _=>edgesUp_tiers hedge) hasked) ?_
 intro l next hlooked
 exact lookupTiers_asked workings (fun _=>edgesDown_tiers hedge) hlooked

end Lookups

section Offers
variable (workings : Workings) {steps : List Step}

/-- The result is the thumbnail that a lookup of a tier of the locator gave, after calm calls. -/
def Offered (steps : List Step) (request : ThumbnailPipelineRequest) (locator : CacheLocatorKey)
  (result : ThumbnailPipelineResult) (next : List Step) : Prop:=
 ∃ middle edge accessUnixNs cached thumbnail options,Extends Calm steps middle ∧ edge ∈ edgeTiers ∧
  middle++[lookupStep workings middle (atEdge locator edge) accessUnixNs] <+: next ∧
  ((run workings.libraries workings.limits middle).lookupLocator workings.libraries
   (workings.faults middle.length) (atEdge locator edge) accessUnixNs).1 = some cached ∧
  cached.thumbnail = some thumbnail ∧
  options.presentationEdge = request.canonicalEdge ∧
  result = materialize workings thumbnail.artifact options (thumbnail.decoded.map .ok)

lemma materializeOffline_result (request : ThumbnailPipelineRequest) {locator : CacheLocatorKey}
 (hedge:locator.canonicalEdge∈edgeTiers) (steps : List Step):
 Ends (materializeOffline workings request locator) steps fun result next =>
  Fits request result ∧ revokesOfflineLocator result.status=false ∧
   (result.freshness=.offlineUnverified →
    Offered workings steps request locator result next):=by
 refine ends_bind (lookupOffline_asked workings hedge steps) ?_
 intro l next hasked
 obtain ⟨offlineLocator,cached⟩:=l
 dsimp only
 have hinternal (d : Bytes) : Fits request (failure .internalError d):=by
  have hstatus:ThumbnailPipelineStatus.internalError≠.success:=nofun
  exact failure_fits hstatus d false .verified
 have hdisconnected (d : Bytes) : Fits request (failure .disconnected d):=by
  have hstatus:ThumbnailPipelineStatus.disconnected≠.success:=nofun
  exact failure_fits hstatus d false .verified
 split
 · exact ends_pure ⟨hinternal _,rfl,nofun⟩
 split
 · exact ends_pure ⟨hdisconnected _,rfl,nofun⟩
 split
 · exact ends_pure ⟨hdisconnected _,rfl,nofun⟩
 rename_i thumbnail hthumbnail
 obtain ⟨m,edge,hmiddle,htier,hlocator,hnext,hcached⟩:=hasked
 dsimp only at hlocator hnext hcached
 rw [hlocator] at hnext hcached
 obtain ⟨row,target,-,-,-,hdecoded⟩:=lookupLocator_row hcached hthumbnail
 have hoffered (last : List Step) (hlast:next <+: last):
   let result:=materialize workings thumbnail.artifact
    { presentationEdge:=request.canonicalEdge
      pageIndex:=request.pageIndex
      fromCache:=true
      freshness:=.offlineUnverified } (thumbnail.decoded.map .ok)
   Fits request result ∧ revokesOfflineLocator result.status=false ∧
    (result.freshness=.offlineUnverified →
     Offered workings steps request locator result last):=by
  refine ⟨materialize_fits workings (validated_thumbnail workings hdecoded) rfl rfl,
   materialize_unrevoked workings thumbnail.artifact _ _,fun _=>?_⟩
  refine ⟨m,edge,request.accessUnixNs.toInt,cached,thumbnail,_,hmiddle,htier,?_,
   hcached,hthumbnail,rfl,rfl⟩
  rw [←hnext]
  exact hlast
 split
 · have herased:Only Calm (eraseLocator workings offlineLocator):=
    only_perform workings fun _=>trivial
   refine ends_bind (ends_of_only herased next) ?_
   intro erased last hlast
   exact ends_pure (hoffered last hlast.isPrefix)
 · exact ends_pure (hoffered next List.prefix_rfl)

end Offers

section Fetches
variable (workings : Workings) {steps : List Step} {request : ThumbnailPipelineRequest}

lemma failure_fits_of (h:status≠.success) (d : Bytes) : Fits request (failure status d):=
 failure_fits h d false .verified

/-- What the fetch of a resolved source comes to: a verified preview, not from the cache where
there is a password; and where the source is gone after all, its locators are. -/
structure Verified (request : ThumbnailPipelineRequest) (locator : CacheLocatorKey)
  (steps : List Step) (result : ThumbnailPipelineResult) (next : List Step) : Prop where
 fits : Fits request result
 verified : result.freshness=.verified
 uncached : request.passwordUtf8≠[] → result.fromCache=false
 revoked : request.passwordUtf8=[] → revokesOfflineLocator result.status=true →
  Erases locator steps next

lemma renderAndFinish_result (made : Fetch) (hpassword:request.passwordUtf8=[])
 (key : CacheKey) (locator : CacheLocatorKey) {log : List Step} (h:Extends Calm steps log):
 Ends (renderAndFinish workings made request key locator) log
  (Verified request locator steps):=by
 have hsettled {rendered result : ThumbnailPipelineResult} (hfresh:Fresh request rendered)
   (halike:Alike rendered result)
   {next : List Step} (hrevoked:revokesOfflineLocator rendered.status=true →
    Erases locator steps next) : Verified request locator steps result next:=
  ⟨halike.fits hfresh.fits,halike.freshness.trans hfresh.verified,
   fun hprotected=>absurd hpassword hprotected,
   fun _ hrevokes=>hrevoked (halike.status ▸ hrevokes)⟩
 refine ends_bind (renderAndPublish_result workings made.renderer key locator true log) ?_
 intro rendered next hrendered
 obtain ⟨hfresh,hlog⟩:=hrendered
 split
 · rename_i hrevokes
   have hfailed:rendered.ok=false:=by
    unfold ThumbnailPipelineResult.ok
    rw [decide_eq_false_iff_not]
    intro hsuccess
    rw [hsuccess] at hrevokes
    exact absurd hrevokes nofun
   have herased:Ends (revokeLocatorTiers workings locator) next fun _ last =>
     Erases locator steps last:=by
    intro _ _
    rw [hlog hrevokes]
    exact (revokeLocatorTiers_erases workings locator log).before h
   refine ends_bind herased ?_
   intro _ last hlast
   rw [finish_failed workings key locator hfailed]
   exact ends_pure (hsettled hfresh (Alike.refl rendered) fun _=>hlast)
 · rename_i hkept
   exact ends_mono (finish_alike workings key locator rendered next) fun result last halike =>
    hsettled hfresh halike fun hrevokes=>absurd hrevokes hkept

lemma lookup_decoded (key : CacheKey) (a : ℤ) (steps : List Step):
 Ends (lookup workings key a) steps fun cached _ =>
  ∀thumbnail,cached.thumbnail=some thumbnail → Decoded workings.libraries thumbnail:=by
 apply ends_call
 intro cached hcached thumbnail hthumbnail
 cases hhash:hashCacheKey workings.libraries key with
 | none=>
  unfold PersistentThumbnailCache.lookup at hcached
  rw [hhash] at hcached
  exact absurd hcached nofun
 | some digest=>
  obtain ⟨answer,hanswers,hlookup⟩:=answers_lookup workings.libraries
   (workings.faults steps.length) (run workings.libraries workings.limits steps) hhash
   a
  dsimp only at hcached
  rw [hlookup] at hcached
  obtain rfl:=Option.some.inj hcached
  exact (hanswers.served thumbnail hthumbnail).2

lemma fetchResolved_result (made : Fetch) (locator : CacheLocatorKey) (steps : List Step):
 Ends (fetchResolved workings made request locator) steps
  (Verified request locator steps):=by
 unfold fetchResolved
 dsimp only
 split
 · rename_i hprotected
   refine ends_mono (renderAndPublish_result workings made.renderer _ locator false steps) ?_
   intro result next hresult
   exact ⟨hresult.1.fits,hresult.1.verified,fun _=>hresult.1.uncached,
    fun hpassword=>absurd hpassword hprotected⟩
 rename_i hpassword
 rw [not_not] at hpassword
 have hcalm:Only Calm (lookup workings (makeCacheKey request) request.accessUnixNs.toInt):=
  only_perform workings fun _=>trivial
 have hlooked:Ends (lookup workings (makeCacheKey request) request.accessUnixNs.toInt) steps
   fun cached next=>Extends Calm steps next ∧ ∀thumbnail,cached.thumbnail=some thumbnail →
    Decoded workings.libraries thumbnail:=
  fun cached hcached=>⟨hcalm steps,lookup_decoded workings _ _ steps cached hcached⟩
 refine ends_bind hlooked ?_
 intro cached next hnext
 obtain ⟨hnext,hdecoded⟩:=hnext
 split
 · split
   · have hstatus:ThumbnailPipelineStatus.internalError≠.success:=nofun
     exact ends_pure ⟨failure_fits_of hstatus _,rfl,fun _=>rfl,fun _=>nofun⟩
   rename_i thumbnail hthumbnail
   split
   · refine ends_mono (finishHit_alike workings _ locator cached thumbnail _ next) ?_
     intro result last halike
     refine ⟨halike.fits (materialize_fits workings
       (validated_thumbnail workings (hdecoded thumbnail hthumbnail)) rfl rfl),
      halike.freshness.trans (materialize_freshness workings _ _ _),
      fun hprotected=>absurd hpassword hprotected,?_⟩
     intro _ hrevokes
     rw [halike.status,materialize_unrevoked] at hrevokes
     exact absurd hrevokes nofun
   · have herased:Only Calm (erase workings (makeCacheKey request)):=
      only_perform workings fun _=>trivial
     refine ends_bind (ends_of_only herased next) ?_
     intro erased last hlast
     exact renderAndFinish_result workings made hpassword _ locator (hnext.trans hlast)
 · exact renderAndFinish_result workings made hpassword _ locator hnext

/-- What any fetch comes to. -/
structure Outcome (made : Fetch) (steps : List Step) (result : ThumbnailPipelineResult)
  (next : List Step) : Prop where
 fits : Fits made.request result
 uncached : made.request.passwordUtf8≠[] → result.fromCache=false
 offline : result.freshness=.offlineUnverified → made.request.passwordUtf8=[] ∧
  Offered workings steps made.request (makeCacheLocator made.colored) result next
 revoked : made.request.passwordUtf8=[] → revokesOfflineLocator result.status=true →
  Erases (makeCacheLocator made.colored) steps next

variable {workings} {made : Fetch}

lemma outcome_failure (hstatus:status≠.success) (hkept:revokesOfflineLocator status=false)
 (d : Bytes) (next : List Step):
 Outcome workings made steps (failure status d) next:=
 ⟨failure_fits_of hstatus d,fun _=>rfl,nofun,
  fun _ hrevokes=>absurd (hkept.symm.trans hrevokes) nofun⟩

lemma outcome_verified {result : ThumbnailPipelineResult}
 (hpassword:request.passwordUtf8=made.request.passwordUtf8)
 (hedge:request.canonicalEdge=made.request.canonicalEdge)
 (hpage:request.pageIndex=made.request.pageIndex)
 (h:Verified request (makeCacheLocator made.colored) steps result next):
 Outcome workings made steps result next:=by
 refine ⟨?_,?_,?_,?_⟩
 · have hfits:=h.fits
   unfold Fits at hfits ⊢
   rw [hedge,hpage] at hfits
   exact hfits
 · rw [←hpassword]
   exact h.uncached
 · intro hoffline
   rw [h.verified] at hoffline
   exact absurd hoffline nofun
 · rw [←hpassword]
   exact h.revoked

lemma colored_request (made : Fetch) : made.colored=
 { made.request with colorPolicyFingerprint:=made.colored.colorPolicyFingerprint }:=by
 unfold Fetch.colored
 cases made.colorPolicyResolver with
 | none=>rfl
 | some resolver=>
  dsimp only
  split<;>rfl

lemma colored_password (made : Fetch):
 made.colored.passwordUtf8=made.request.passwordUtf8:=by
 rw [colored_request]

lemma colored_edge (made : Fetch) : made.colored.canonicalEdge=made.request.canonicalEdge:=by
 rw [colored_request]

lemma colored_page (made : Fetch) : made.colored.pageIndex=made.request.pageIndex:=by
 rw [colored_request]

lemma locator_edge (request : ThumbnailPipelineRequest):
 (makeCacheLocator request).canonicalEdge∈edgeTiers:=
 cacheEdge_mem request.canonicalEdge

lemma offline_outcome (hpassword:made.request.passwordUtf8=[]) (steps : List Step):
 Ends (materializeOffline workings made.request (makeCacheLocator made.colored)) steps
  (Outcome workings made steps):=by
 refine ends_mono
  (materializeOffline_result workings made.request (locator_edge made.colored) steps) ?_
 intro result next hresult
 exact ⟨hresult.1,fun hprotected=>absurd hpassword hprotected,
  fun hoffline=>⟨hpassword,hresult.2.2 hoffline⟩,
  fun _ hrevokes=>absurd (hresult.2.1.symm.trans hrevokes) nofun⟩

lemma unresolved_outcome {resolved : ResolvedThumbnailSource} (h:resolved.ok=false)
 (steps : List Step):
 Ends (fetchUnresolved workings made.request (makeCacheLocator made.colored) resolved) steps
  (Outcome workings made steps):=by
 have hstatus:resolved.status≠.success:=of_decide_eq_false h
 unfold fetchUnresolved
 dsimp only
 split
 · rename_i hfallback
   have hkept:revokesOfflineLocator resolved.status=false:=by
    have hpermits:=of_decide_eq_true hfallback.2.2
    obtain hsame | hsame:=hpermits
    · rw [hsame]
      rfl
    · rw [hsame]
      rfl
   refine ends_bind (offline_outcome hfallback.2.1 steps) ?_
   intro offline next hoffline
   split
   · exact ends_pure hoffline
   · exact ends_pure (outcome_failure hstatus hkept _ next)
 split
 · have herased:Ends (revokeLocatorTiers workings (makeCacheLocator made.colored)) steps
     fun _ next=>Erases (makeCacheLocator made.colored) steps next:=
    fun _ _=>revokeLocatorTiers_erases workings _ steps
   refine ends_bind herased ?_
   intro _ next hnext
   exact ends_pure ⟨failure_fits_of hstatus _,fun _=>rfl,nofun,fun _ _=>hnext⟩
 · rename_i hkept
   exact ends_pure (outcome_failure hstatus (Bool.eq_false_of_not_eq_true hkept) _ steps)

lemma fetch_outcome (made : Fetch) (steps : List Step):
 Ends (fetch workings made) steps (Outcome workings made steps):=by
 have hfailed {status : ThumbnailPipelineStatus} (d : Bytes)
   (hstatus:status≠.success) (hkept:revokesOfflineLocator status=false):
   Ends (pure (failure status d)) steps (Outcome workings made steps):=
  ends_pure (outcome_failure hstatus hkept d steps)
 unfold fetch
 dsimp only
 split
 · exact hfailed _ nofun rfl
 split
 · exact hfailed _ nofun rfl
 split
 · split
   · exact hfailed _ nofun rfl
   · rename_i hpassword
     exact offline_outcome (not_not.mp hpassword) steps
 split
 · exact ends_mono (fetchResolved_result workings made _ steps) fun result next =>
    outcome_verified (colored_password made) (colored_edge made) (colored_page made)
 split
 · rename_i hresolved
   rw [Bool.not_eq_true'] at hresolved
   exact unresolved_outcome hresolved steps
 split
 · exact hfailed _ nofun rfl
 · exact ends_mono (fetchResolved_result workings made _ steps) fun result next =>
    outcome_verified (colored_password made) (colored_edge made) (colored_page made)

end Fetches

section Kinds
variable (workings : Workings) (made : Fetch)

def Resolved : Prop:=
 made.request.offlineCacheOnly = false ∧
  ∀resolver,made.sourceResolver = some resolver → (resolver made.colored).ok = true

lemma fetch_only : Only (Near (makeCacheLocator made.colored)) (fetch workings made):=by
 unfold fetch
 dsimp only
 split
 · exact only_pure _
 split
 · exact only_pure _
 split
 · split
   · exact only_pure _
   · exact only_mono (materializeOffline_only workings made.request _) near_of_calm
 split
 · exact fetchResolved_only workings made.colored made (locator_edge made.colored)
 split
 · exact only_mono (fetchUnresolved_only workings made.request _ _) near_of_calm
 split
 · exact only_pure _
 · exact fetchResolved_only workings _ made (locator_edge made.colored)

lemma fetchResolved_protected {request : ThumbnailPipelineRequest}
 (h:request.passwordUtf8≠[]) (locator : CacheLocatorKey):
 Only Calm (fetchResolved workings made request locator):=by
 unfold fetchResolved
 dsimp only
 rw [if_pos h]
 exact renderAndPublish_unpersisted workings request _ locator made.renderer

lemma fetch_calm (h:made.request.passwordUtf8≠[] ∨ ¬Resolved made):
 Only Calm (fetch workings made):=by
 unfold fetch
 dsimp only
 split
 · exact only_pure _
 split
 · exact only_pure _
 split
 · split
   · exact only_pure _
   · exact materializeOffline_only workings made.request _
 rename_i honline
 split
 · rename_i hresolver
   apply fetchResolved_protected
   rw [colored_password]
   refine h.resolve_right (not_not_intro ⟨Bool.eq_false_of_not_eq_true honline,?_⟩)
   rw [hresolver]
   exact nofun
 rename_i resolver hresolver
 split
 · exact fetchUnresolved_only workings made.request _ _
 rename_i hresolved
 split
 · exact only_pure _
 · apply fetchResolved_protected
   change made.colored.passwordUtf8≠[]
   rw [colored_password]
   refine h.resolve_right (not_not_intro ⟨Bool.eq_false_of_not_eq_true honline,?_⟩)
   intro other hother
   obtain rfl:=Option.some.inj (hresolver.symm.trans hother)
   rw [Bool.not_eq_true',Bool.not_eq_false] at hresolved
   exact hresolved

end Kinds

section Law
variable (workings : Workings) (before : List Step) (fetches : List Fetch) (asked : Fetch)

def SameLocator (made asked : Fetch) : Prop:=
 ∀edge,atEdge (makeCacheLocator made.colored) edge = atEdge (makeCacheLocator asked.colored) edge

/-- After the fetches passed, no fetch with the locator and without a password has found that its
source is gone, has changed or may not be read. -/
def Unrevoked (passed since : List Fetch) : Prop:=
 ∀middle made rest result,since = middle++made::rest → made.request.passwordUtf8 = [] →
  SameLocator made asked →
  answerAfter workings before (passed++middle) made = some result →
  revokesOfflineLocator result.status = false

/-- The binding was made by a fetch without a password whose source was resolved, and is not
revoked since then. -/
def BoundByFetch (earlier : List Step) (binding : Step) : Prop:=
 ∃ passed made since,fetches = passed++made::since ∧
  callsAfter workings before passed <+: earlier ∧
  earlier++[binding] <+: callsAfter workings before (passed++[made]) ∧
  made.request.passwordUtf8 = [] ∧ Resolved made ∧
  Unrevoked workings before asked passed (made::since)

/-- The binding is one that the process has found in the cache, and is not revoked since then. -/
def BoundBefore (earlier : List Step) (binding : Step) : Prop:=
 earlier++[binding] <+: before ∧ Unrevoked workings before asked [] fetches

def Shows (artifact : ArtifactData) (result : ThumbnailPipelineResult) : Prop:=
 (result.ok = true → ∃ image,
  pixels workings artifact asked.request.canonicalEdge none = .ok image ∧
   result.width = image.width ∧ result.height = image.height ∧ result.rgba8 = image.rgba8) ∧
  (result.ok = false → result.rgba8 = [])

/-- What is shown unverified was last bound to a tier of the locator, and not revoked since. -/
def OfflineLawful : Prop:=
 ∀result,answerAfter workings before fetches asked = some result →
  result.freshness = .offlineUnverified →
  asked.request.passwordUtf8 = [] ∧ ∃ edge ∈ edgeTiers,∃ key digest artifact earlier binding later,
   callsAfter workings before fetches = earlier++binding::later ∧
   BoundAt workings.libraries workings.limits earlier binding later
    (atEdge (makeCacheLocator asked.colored) edge) key ∧
   (BoundByFetch workings before fetches asked earlier binding ∨
    BoundBefore workings before fetches asked earlier binding) ∧
   hashCacheKey workings.libraries key = some digest ∧
   Published (callsAfter workings before fetches) key digest artifact ∧
   Shows workings asked artifact result

/-- With a password, nothing comes from the cache and nothing goes into it. -/
def PasswordLawful : Prop:=
 asked.request.passwordUtf8≠[] →
  (∀result,answerAfter workings before fetches asked = some result → result.fromCache = false) ∧
  Extends Calm (callsAfter workings before fetches)
   (callsAfter workings before (fetches++[asked]))

def SuccessLawful : Prop:=
 ∀result,answerAfter workings before fetches asked = some result → Fits asked.request result

variable {workings before fetches asked}

lemma callsAfter_append (workings : Workings) (before : List Step) (fetches : List Fetch)
 (made : Fetch) : callsAfter workings before (fetches++[made])=
  (fetch workings made (callsAfter workings before fetches)).2:=
 List.foldl_concat _ _ _ _

lemma not_revoked_append {new : List Step} (h:¬Revoked (later++new) locator)
 (hnew:∀step∈new,step.call≠.restart) : ¬Revoked later locator:=by
 rintro ⟨between,step,rest,rfl,hcall,hrest⟩
 refine h ⟨between,step,rest++new,?_,hcall,?_⟩
 · rw [List.append_assoc,List.cons_append]
 · intro other hother
   exact (List.mem_append.mp hother).elim (hrest other) (hnew other)

lemma near_not_restart (h:Near locator step) : step.call≠.restart:=by
 intro hcall
 unfold Near at h
 rw [hcall] at h
 exact h

lemma calm_not_bind (h:Calm step) {locator : CacheLocatorKey} {key : CacheKey}:
 step.call≠.bindLocator locator key:=by
 intro hcall
 unfold Calm at h
 rw [hcall] at h
 exact h

lemma calm_not_publish (h:Calm step) {request : CachePublishRequest}:
 step.call≠.publish request:=by
 intro hcall
 unfold Calm at h
 rw [hcall] at h
 exact h

/-- One more fetch keeps what was unrevoked, where it has not ended so that it revokes. -/
lemma unrevoked_append {passed since : List Fetch} {made : Fetch}
 (h:Unrevoked workings before asked passed since)
 (hmade:made.request.passwordUtf8=[] → SameLocator made asked → ∀result,
  answerAfter workings before (passed++since) made=some result →
  revokesOfflineLocator result.status=false):
 Unrevoked workings before asked passed (since++[made]):=by
 intro m other rest result hsplit hpassword hsame hresult
 obtain ⟨first,hsince,-⟩ | ⟨first,hmiddle,hlast⟩:=split_cases hsplit
 · exact h m other first result hsince hpassword hsame hresult
 · cases first with
   | nil=>
    rw [List.append_nil] at hmiddle
    obtain ⟨rfl,-⟩:=List.cons.inj hlast
    rw [hmiddle] at hresult
    exact hmade hpassword hsame result hresult
   | cons head first=>
    obtain ⟨-,hrest⟩:=List.cons.inj hlast
    exact absurd hrest.symm (List.append_ne_nil_of_right_ne_nil first nofun)

lemma bound_origin (hedge:edge∈edgeTiers) {binding : Step} {key : CacheKey}
 (hcall:binding.call=
  .bindLocator (atEdge (makeCacheLocator asked.colored) edge) key) (fetches : List Fetch)
 {e later : List Step}
 (hsplit:callsAfter workings before fetches=e++binding::later)
 (hrevoked:¬Revoked later (atEdge (makeCacheLocator asked.colored) edge)):
 BoundByFetch workings before fetches asked e binding ∨
  BoundBefore workings before fetches asked e binding:=by
 induction fetches using List.reverseRecOn generalizing later with
 | nil=>
  right
  refine ⟨?_,?_⟩
  · change before=e++binding::later at hsplit
    exact ⟨later,by rw [hsplit,List.append_assoc,List.singleton_append]⟩
  · intro m made rest result hnil
    exact absurd hnil.symm (List.append_ne_nil_of_right_ne_nil m nofun)
 | append_singleton fetches made ih=>
  rw [callsAfter_append] at hsplit
  have hends:Ends (fetch workings made) _ _:=
   fetch_outcome made (callsAfter workings before fetches)
  obtain ⟨new,hnew,hnear⟩:=fetch_only workings made (callsAfter workings before fetches)
  have hrestart:∀step∈new,step.call≠.restart:=
   fun step hstep=>near_not_restart (hnear step hstep)
  obtain ⟨m,hold,hlater⟩ | ⟨first,hearlier,hmade⟩:=split_cases (hnew.symm.trans hsplit)
  · have hunrevoked:made.request.passwordUtf8=[] → SameLocator made asked →
      ∀result,answerAfter workings before fetches made=some result →
       revokesOfflineLocator result.status=false:=by
     intro hpassword hsame result hresult
     apply Bool.eq_false_of_not_eq_true
     intro hrevokes
     obtain ⟨erasing,herasing,-,herased⟩:=(hends result hresult).revoked hpassword hrevokes
     obtain rfl:=List.append_cancel_left (hnew.symm.trans herasing)
     obtain ⟨step,hstep,hcalled⟩:=herased edge hedge
     obtain ⟨between,rest,rfl⟩:=List.append_of_mem hstep
     rw [hsame edge] at hcalled
     refine hrevoked ⟨m++between,step,rest,?_,hcalled,?_⟩
     · rw [hlater,List.append_assoc]
     · intro other hother
       exact hrestart other (List.mem_append_right between (List.mem_cons_of_mem step hother))
    rw [hlater] at hrevoked
    obtain hfetch | hbefore:=ih hold (not_revoked_append hrevoked hrestart)
    · obtain ⟨passed,other,since,rfl,hpassed,hbinding,hpassword,hresolved,hkept⟩:=hfetch
      refine .inl ⟨passed,other,since++[made],?_,hpassed,hbinding,hpassword,hresolved,?_⟩
      · rw [List.append_assoc,List.cons_append]
      · exact unrevoked_append hkept hunrevoked
    · exact .inr ⟨hbefore.1,unrevoked_append hbefore.2 hunrevoked⟩
  · have hmem:binding∈new:=by
     rw [hmade]
     exact List.mem_append_right first List.mem_cons_self
    have hbusy:¬Only Calm (fetch workings made):=by
     intro hcalm
     obtain ⟨calm,hcalmNew,hall⟩:=hcalm (callsAfter workings before fetches)
     obtain rfl:=List.append_cancel_left (hnew.symm.trans hcalmNew)
     exact calm_not_bind (hall binding hmem) hcall
    have hpassword:made.request.passwordUtf8=[]:=by
     by_contra hprotected
     exact hbusy (fetch_calm workings made (.inl hprotected))
    have hresolved:Resolved made:=by
     by_contra hunresolved
     exact hbusy (fetch_calm workings made (.inr hunresolved))
    left
    refine ⟨fetches,made,[],rfl,?_,?_,hpassword,hresolved,?_⟩
    · rw [hearlier]
      exact List.prefix_append _ first
    · rw [callsAfter_append,hsplit]
      exact ⟨later,by rw [List.append_assoc,List.singleton_append]⟩
    · have hnone:Unrevoked workings before asked fetches []:=by
       intro m other rest result hnil
       exact absurd hnil.symm (List.append_ne_nil_of_right_ne_nil m nofun)
      apply unrevoked_append hnone
      intro _ _ result hresult
      rw [List.append_nil] at hresult
      apply Bool.eq_false_of_not_eq_true
      intro hrevokes
      obtain ⟨erasing,herasing,hcalm,-⟩:=(hends result hresult).revoked hpassword hrevokes
      obtain rfl:=List.append_cancel_left (hnew.symm.trans herasing)
      exact calm_not_bind (hcalm binding hmem) hcall

lemma collisionFree_within {all : List Step} (h:CollisionFree libraries all)
 (hsteps:∀step∈steps,step∈all) : CollisionFree libraries steps:=by
 have hserialized {bytes : Bytes} (hbytes:Serialized steps bytes) : Serialized all bytes:=by
  obtain ⟨step,hstep,hused⟩:=hbytes
  exact ⟨step,hsteps step hstep,hused⟩
 intro bytes bytes' hbytes hbytes' hsame
 exact h bytes bytes' (hserialized hbytes) (hserialized hbytes') hsame

lemma boundAt_calm {limits : MemoryCacheLimits} {calm e : List Step} {binding : Step}
 (hcalm:∀step∈calm,Calm step) (hsplit:steps++calm=e++binding::later)
 (h:BoundAt libraries limits e binding later locator key)
 (hrevoked:¬Revoked later locator):
 ∃ m,steps=e++binding::m ∧
  BoundAt libraries limits e binding m locator key ∧ ¬Revoked m locator:=by
 obtain ⟨m,hsteps,rfl⟩ | ⟨first,-,hnew⟩:=split_cases hsplit
 · refine ⟨m,hsteps,⟨h.1,?_⟩,not_revoked_append hrevoked fun step hstep =>
    near_not_restart (@near_of_calm locator step (hcalm step hstep))⟩
   intro between other rest hmiddle
   apply h.2 between other (rest++calm)
   rw [hmiddle,List.append_assoc,List.cons_append]
 · have hmem:binding∈calm:=by
    rw [hnew]
    exact List.mem_append_right first List.mem_cons_self
   exact absurd h.1.1 (calm_not_bind (hcalm binding hmem))

lemma published_calm {digest : CacheDigest} (hcalm:Extends Calm steps next)
 (h:Published next key digest artifact) : Published steps key digest artifact:=by
 obtain ⟨step,hstep,request,hcall,hrequest⟩:=h
 obtain hold | hnew:=hcalm.mem hstep
 · exact ⟨step,hold,request,hcall,hrequest⟩
 · exact absurd hcall (calm_not_publish hnew)

lemma materialize_shows {thumbnail : CachedThumbnail} (hartifact:thumbnail.artifact=artifact)
 (hdecoded:Decoded workings.libraries thumbnail) {options : MaterializeOptions}
 (hedge:options.presentationEdge=asked.request.canonicalEdge):
 Shows workings asked artifact
  (materialize workings thumbnail.artifact options (thumbnail.decoded.map .ok)):=by
 unfold Shows materialize
 rw [pixels_thumbnail workings hdecoded,hedge,hartifact]
 cases hpixels:pixels workings artifact asked.request.canonicalEdge none with
 | error message=>exact ⟨nofun,fun _=>rfl⟩
 | ok image=>exact ⟨fun _=>⟨image,rfl,rfl,rfl,rfl⟩,nofun⟩

lemma offline_lawful
 (hfree:CollisionFree workings.libraries (callsAfter workings before (fetches++[asked]))):
 OfflineLawful workings before fetches asked:=by
 intro result hresult hfresh
 obtain ⟨hpassword,m,edge,a,cached,thumbnail,options,hmiddle,hedge, hprefix,
  hcached,hthumbnail,hoptions,rfl⟩:=
  (fetch_outcome asked (callsAfter workings before fetches) result hresult).offline hfresh
 refine ⟨hpassword,edge,hedge,?_⟩
 rw [←callsAfter_append] at hprefix
 have hasked:CollisionFree workings.libraries
   (m++[lookupStep workings m (atEdge (makeCacheLocator asked.colored) edge)
    a]):=
  collisionFree_within hfree fun step hstep => hprefix.subset hstep
 obtain ⟨key,digest,e,binding,later,hsplit,hbound,hrevoked,hhash,hpublished,
  hdecoded⟩ := served_binding hasked rfl hcached hthumbnail
 obtain ⟨calm,rfl,hcalm⟩:=hmiddle
 obtain ⟨kept,hsteps,hkept,hunrevoked⟩:=boundAt_calm hcalm hsplit hbound hrevoked
 exact ⟨key,digest,thumbnail.artifact,e,binding,kept,hsteps,hkept,
  bound_origin hedge hkept.1.1 fetches hsteps hunrevoked,hhash,
  published_calm ⟨calm,rfl,hcalm⟩ hpublished,
  materialize_shows rfl hdecoded hoptions⟩

lemma password_lawful (workings : Workings) (before : List Step) (fetches : List Fetch)
 (asked : Fetch) : PasswordLawful workings before fetches asked:=by
 intro hpassword
 constructor
 · intro result hresult
   exact (fetch_outcome asked (callsAfter workings before fetches) result hresult).uncached
    hpassword
 · rw [callsAfter_append]
   exact fetch_calm workings asked (.inl hpassword) (callsAfter workings before fetches)

/-- Whatever the fetches before, whatever the resolvers and renderers answer and whichever steps of
the cache fail, the pipeline shows no revoked preview and none behind a password, and every preview
fits its request. -/
theorem pipeline_lawful (workings : Workings) (before : List Step) (fetches : List Fetch)
 (asked : Fetch)
 (hfree:CollisionFree workings.libraries (callsAfter workings before (fetches++[asked]))):
 OfflineLawful workings before fetches asked ∧ PasswordLawful workings before fetches asked ∧
  SuccessLawful workings before fetches asked:=
 ⟨offline_lawful hfree,password_lawful workings before fetches asked,fun result hresult =>
  (fetch_outcome asked (callsAfter workings before fetches) result hresult).fits⟩

end Law

section Photo
open ThumbnailCacheKept (blackPixel photoLibraries collisionFree_pair)

def photoRequest : ThumbnailPipelineRequest := { source:=photo }

def photoPreviewDigest : CacheDigest:=
 ⟨[0x59,0x34,0xe3,0x17,0x5e,0x6c,0xc4,0x90,0xf5,0x4d,0x86,0x11,0xdb,0xc4,0x20,0x29,
   0xba,0x1f,0xa5,0x7a,0x59,0x57,0x86,0x3b,0x3b,0xbc,0xe6,0xa7,0xed,0x23,0xc1,0xc6],rfl⟩

def photoPreviewRow : CacheDigest:=
 ⟨[0x51,0x9e,0x93,0xf9,0xfb,0xee,0xb1,0x03,0x07,0xf7,0x0f,0xef,0xe4,0x67,0xbd,0x1f,
   0xca,0x4c,0x19,0xc1,0x4e,0xc4,0x24,0x7e,0x65,0x35,0xda,0x8c,0xfb,0x6c,0xc1,0xce],rfl⟩

/-- Nothing that the photo's preview of one pixel needs is scaled or encoded. -/
def photoWorkings : Workings where
 libraries:=
  { sha256:=fun bytes =>
     if bytes = keyPayload (makeCacheKey photoRequest) then photoPreviewDigest
     else photoPreviewRow
    qoiDecode:=photoLibraries.qoiDecode }
 qoiEncode:=fun _=>none
 scaleRgba8ToEdge:=fun _ _ _ _=>{ error:=AsciiText.utf8 "RGBA scaler input is outside limits" }
 decoded_whole:=by
  intro bytes image himage
  change (if bytes = blackPixel then some (⟨1,1,[0,0,0,255]⟩ : QoiImage)
   else if bytes = _ then some ⟨1,1,[255,0,0,255]⟩ else none) = some image at himage
  split at himage
  · rw [←Option.some.inj himage]
    rfl
  split at himage
  · rw [←Option.some.inj himage]
    rfl
  · exact absurd himage nofun
 scaled_fits:=fun _ _ _ _ hok=>absurd hok nofun

/-- The photo is rendered while its source is there. -/
def shownPhoto : Fetch where
 request:=photoRequest
 sourceResolver:=some fun request=>{ source:=request.source }
 renderer:=some fun _ =>
  { status:=.success
    metadata:={ width:=1,height:=1,sourceColorModel:=.rgb }
    qoiPayload:=blackPixel }

def offlinePhoto : Fetch where
 request:=photoRequest
 sourceResolver:=some fun request=>{ status:=.disconnected,source:=request.source }

theorem pipeline_lawful_photo:
 (∃ result,answerAfter photoWorkings [] [shownPhoto] offlinePhoto=some result ∧
  result.freshness=.offlineUnverified ∧ result.rgba8=[0,0,0,255]) ∧
 OfflineLawful photoWorkings [] [shownPhoto] offlinePhoto ∧
  PasswordLawful photoWorkings [] [shownPhoto] offlinePhoto ∧
  SuccessLawful photoWorkings [] [shownPhoto] offlinePhoto:=by
 have hshown:((answerAfter photoWorkings [] [shownPhoto] offlinePhoto).map fun result =>
   (result.freshness,result.rgba8))=some (.offlineUnverified,[0,0,0,255]):=by
  decide +kernel
 obtain ⟨result,hresult,hsame⟩:=Option.map_eq_some_iff.mp hshown
 refine ⟨⟨result,hresult,(Prod.mk.inj hsame).1,(Prod.mk.inj hsame).2⟩,
  pipeline_lawful photoWorkings [] [shownPhoto] offlinePhoto ?_⟩
 have hdistinct:photoWorkings.libraries.sha256 (keyPayload (makeCacheKey photoRequest)) ≠
   photoWorkings.libraries.sha256 (locatorPayload (makeCacheLocator photoRequest)):=by
  decide +kernel
 apply collisionFree_pair hdistinct
 · decide +kernel
 · decide +kernel

end Photo

end VoVe.ThumbnailPipelineSafety
