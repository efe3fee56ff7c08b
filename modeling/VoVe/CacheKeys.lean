import VoVe.TransactionCodec

set_option autoImplicit false

namespace VoVe.CacheKeys
open ByteCodec AsciiText Checks TransactionCodec

def kCacheKeySchemaVersion : UInt32 := 7
def kThumbnailCanonicalEdge : UInt32 := 512

structure SourceStamp where
 sourceIdentityUtf8 : Bytes
 sizeBytes : UInt64 := 0
 modifiedUnixNs : Int64 := 0
 stableFileId : Option Bytes := none
 deriving DecidableEq

structure ColorPolicyIdentity where
 version : UInt32 := 0
 workingProfileFingerprint : Bytes := []
 deriving DecidableEq

structure CacheKey where
 source : SourceStamp
 handlerId : Bytes
 handlerVersion : UInt32 := 0
 renderPolicyVersion : UInt32 := 0
 colorPolicyVersion : ColorPolicyIdentity := {}
 canonicalEdge : UInt32 := kThumbnailCanonicalEdge
 pageIndex : UInt32 := 0
 deriving DecidableEq

/-- A locator describes the last catalogued object and guesses no decoder. -/
structure CacheLocatorKey where
 catalogSource : SourceStamp
 routingPolicyVersion : UInt32 := 0
 renderPolicyVersion : UInt32 := 0
 colorPolicyVersion : ColorPolicyIdentity := {}
 pageIndex : UInt32 := 0
 canonicalEdge : UInt32 := kThumbnailCanonicalEdge
 deriving DecidableEq

/-- A presence byte, and the string where it is present. -/
def appendStableFileId : Option Bytes → Bytes
 | none=>appendInteger (0 : UInt8)
 | some id=>appendInteger (1 : UInt8)++appendString id

def appendSource (source : SourceStamp) : Bytes:=
 appendString source.sourceIdentityUtf8++(appendInteger source.sizeBytes ++
  (appendInteger source.modifiedUnixNs++appendStableFileId source.stableFileId))

def keyPayload (key : CacheKey) : Bytes:=
 appendString (utf8 "VOVE-CACHE-KEY")++(appendInteger kCacheKeySchemaVersion ++
  (appendSource key.source++(appendString key.handlerId++(appendInteger key.handlerVersion ++
  (appendInteger key.renderPolicyVersion++(appendInteger key.colorPolicyVersion.version ++
  (appendInteger key.canonicalEdge ++
  (appendString key.colorPolicyVersion.workingProfileFingerprint ++
  appendInteger key.pageIndex))))))))

/-- The edge stands at the end, and only where it is not the one of the first locators. -/
def appendEdge (edge : UInt32) : Bytes:=
 if edge≠kThumbnailCanonicalEdge then appendInteger edge else []

variable (key : CacheLocatorKey)

def locatorPayload : Bytes:=
 appendString (utf8 "VOVE-CACHE-LOCATOR")++(appendInteger (1 : UInt32) ++
  (appendSource key.catalogSource++(appendInteger key.routingPolicyVersion ++
  (appendInteger key.renderPolicyVersion++(appendInteger key.colorPolicyVersion.version ++
  (appendString key.colorPolicyVersion.workingProfileFingerprint ++
  (appendInteger key.pageIndex++appendEdge key.canonicalEdge)))))))

def sourceStrings (source : SourceStamp) : List Bytes:=
 source.sourceIdentityUtf8::source.stableFileId.toList

def keyStrings (key : CacheKey) : List Bytes:=
 sourceStrings key.source++[key.handlerId,key.colorPolicyVersion.workingProfileFingerprint]

def locatorStrings : List Bytes:=
 sourceStrings key.catalogSource++[key.colorPolicyVersion.workingProfileFingerprint]

def serialized (strings : List Bytes) (payload : Bytes) : Except Thrown Bytes := do
 require (strings.all fun text=>text.length ≤ maximumStringBytes)
  (.lengthError (utf8 "cache key string exceeds the serialization limit"))
 pure payload

def serializeCacheKey (key : CacheKey) : Except Thrown Bytes:=
 serialized (keyStrings key) (keyPayload key)

def serializeCacheLocator : Except Thrown Bytes:=
 serialized (locatorStrings key) (locatorPayload key)

/-- Every string has a length that fits its prefix. -/
def StringsFit (strings : List Bytes) : Prop := ∀text ∈ strings,text.length < 2 ^ 32

section Fields
variable {first second rest rest' : Bytes}

lemma appendInteger_cancel {α : Type} [WireInteger α] {a b : α}
 (h:appendInteger a++rest=appendInteger b++rest') : a=b ∧ rest=rest':=by
 have hread:(Reader.readInteger α).run (appendInteger b++rest')=some (a,rest):=by
  rw [←h,Reader.readInteger_append]
 rw [Reader.readInteger_append,Option.some.injEq,Prod.mk.injEq] at hread
 exact ⟨hread.1.symm,hread.2.symm⟩

lemma appendString_cancel (hfirst:first.length<2 ^ 32) (hsecond:second.length<2 ^ 32)
 (h:appendString first++rest=appendString second++rest'):
 first=second ∧ rest=rest':=by
 have hread:Reader.readString.run (appendString second++rest')=some (first,rest):=by
  rw [←h,Reader.readString_append first rest hfirst]
 rw [Reader.readString_append second rest' hsecond,Option.some.injEq,Prod.mk.injEq] at hread
 exact ⟨hread.1.symm,hread.2.symm⟩

lemma appendStableFileId_cancel {id id' : Option Bytes} (hid:StringsFit id.toList)
 (hid':StringsFit id'.toList)
 (h:appendStableFileId id++rest=appendStableFileId id'++rest'):
 id=id' ∧ rest=rest':=by
 cases id with
 | none=>
  cases id' with
  | none=>exact ⟨rfl,(appendInteger_cancel h).2⟩
  | some text'=>
   rw [appendStableFileId,appendStableFileId,List.append_assoc] at h
   exact absurd (appendInteger_cancel h).1 (by decide)
 | some text=>
  cases id' with
  | none=>
   rw [appendStableFileId,appendStableFileId,List.append_assoc] at h
   exact absurd (appendInteger_cancel h).1 (by decide)
  | some text'=>
   simp only [appendStableFileId,List.append_assoc] at h
   have htext:=appendString_cancel (hid text (by simp)) (hid' text' (by simp))
    (appendInteger_cancel h).2
   exact ⟨congrArg some htext.1,htext.2⟩

lemma appendSource_cancel {source source' : SourceStamp} (hsource:StringsFit (sourceStrings source))
 (hsource':StringsFit (sourceStrings source'))
 (h:appendSource source++rest=appendSource source'++rest'):
 source=source' ∧ rest=rest':=by
 simp only [appendSource,List.append_assoc] at h
 have hidentity:=appendString_cancel (hsource _ List.mem_cons_self)
  (hsource' _ List.mem_cons_self) h
 have hsize:=appendInteger_cancel hidentity.2
 have hmodified:=appendInteger_cancel hsize.2
 have hid:=appendStableFileId_cancel (fun text htext=>hsource text (List.mem_cons_of_mem _ htext))
  (fun text htext=>hsource' text (List.mem_cons_of_mem _ htext)) hmodified.2
 refine ⟨?_,hid.2⟩
 cases source with
 | mk identity size modified id=>
  cases source' with
  | mk identity' size' modified' id'=>
   rw [SourceStamp.mk.injEq]
   exact ⟨hidentity.1,hsize.1,hmodified.1,hid.1⟩

lemma appendEdge_cancel {edge edge' : UInt32} (h:appendEdge edge=appendEdge edge'):
 edge=edge':=by
 unfold appendEdge at h
 have hlength (value : UInt32) : (appendInteger value).length=4:=appendInteger_length value
 by_cases hedge:edge=kThumbnailCanonicalEdge
 · by_cases hedge':edge'=kThumbnailCanonicalEdge
   · rw [hedge,hedge']
   · rw [if_neg (not_not.mpr hedge),if_pos hedge'] at h
     have:=congrArg List.length h
     rw [hlength] at this
     cases this
 · by_cases hedge':edge'=kThumbnailCanonicalEdge
   · rw [if_pos hedge,if_neg (not_not.mpr hedge')] at h
     have:=congrArg List.length h
     rw [hlength] at this
     cases this
   · rw [if_pos hedge,if_pos hedge'] at h
     have hsame:appendInteger edge++[]=appendInteger edge'++[]:=by
      rw [h]
     exact (appendInteger_cancel hsame).1

end Fields

lemma keyPayload_injective {key key' : CacheKey} (hkey:StringsFit (keyStrings key))
 (hkey':StringsFit (keyStrings key')) (h:keyPayload key=keyPayload key') : key=key':=by
 unfold keyPayload at h
 unfold StringsFit keyStrings at hkey hkey'
 simp only [List.forall_mem_append,List.forall_mem_cons] at hkey hkey'
 have hbody:=(appendInteger_cancel (List.append_cancel_left h)).2
 have hsource:=appendSource_cancel hkey.1 hkey'.1 hbody
 have hhandler:=appendString_cancel hkey.2.1 hkey'.2.1 hsource.2
 have hversion:=appendInteger_cancel hhandler.2
 have hrender:=appendInteger_cancel hversion.2
 have hcolor:=appendInteger_cancel hrender.2
 have hedge:=appendInteger_cancel hcolor.2
 have hprofile:=appendString_cancel hkey.2.2.1 hkey'.2.2.1 hedge.2
 have hpage:appendInteger key.pageIndex++[]=appendInteger key'.pageIndex++[]:=by
  rw [hprofile.2]
 cases key with
 | mk source handler version render color edge page=>
  cases key' with
  | mk source' handler' version' render' color' edge' page'=>
   cases color with
   | mk policy profile=>
    cases color' with
    | mk policy' profile'=>
     rw [CacheKey.mk.injEq,ColorPolicyIdentity.mk.injEq]
     exact ⟨hsource.1,hhandler.1,hversion.1,hrender.1,⟨hcolor.1,hprofile.1⟩,hedge.1,
      (appendInteger_cancel hpage).1⟩

lemma locatorPayload_injective {key key' : CacheLocatorKey}
 (hkey:StringsFit (locatorStrings key)) (hkey':StringsFit (locatorStrings key'))
 (h:locatorPayload key=locatorPayload key') : key=key':=by
 unfold locatorPayload at h
 unfold StringsFit locatorStrings at hkey hkey'
 simp only [List.forall_mem_append,List.forall_mem_cons] at hkey hkey'
 have hbody:=(appendInteger_cancel (List.append_cancel_left h)).2
 have hsource:=appendSource_cancel hkey.1 hkey'.1 hbody
 have hrouting:=appendInteger_cancel hsource.2
 have hrender:=appendInteger_cancel hrouting.2
 have hcolor:=appendInteger_cancel hrender.2
 have hprofile:=appendString_cancel hkey.2.1 hkey'.2.1 hcolor.2
 have hpage:=appendInteger_cancel hprofile.2
 have hedge:=appendEdge_cancel hpage.2
 cases key with
 | mk source routing render color page edge=>
  cases key' with
  | mk source' routing' render' color' page' edge'=>
   cases color with
   | mk policy profile=>
    cases color' with
    | mk policy' profile'=>
     rw [CacheLocatorKey.mk.injEq,ColorPolicyIdentity.mk.injEq]
     exact ⟨hsource.1,hrouting.1,hrender.1,⟨hcolor.1,hprofile.1⟩,hpage.1,hedge⟩

lemma keyPayload_ne_locatorPayload (key : CacheKey) (locator : CacheLocatorKey):
 keyPayload key≠locatorPayload locator:=by
 intro h
 have hname:=(appendString_cancel (by decide) (by decide) h).1
 revert hname
 decide

lemma serialized_of_fit {strings : List Bytes} (h:StringsFit strings) (payload : Bytes):
 serialized strings payload=.ok payload:=by
 have hall:(strings.all fun text=>text.length ≤ maximumStringBytes)=true:=by
  rw [List.all_eq_true]
  intro text htext
  have hlength:=h text htext
  unfold maximumStringBytes
  exact decide_eq_true (by omega)
 rw [serialized,hall]
 rfl

/-- Serialized keys and locators are told apart from all others. -/
theorem serialization_unambiguous {key key' : CacheKey} {locator locator' : CacheLocatorKey}
 (hkey:StringsFit (keyStrings key)) (hkey':StringsFit (keyStrings key'))
 (hlocator:StringsFit (locatorStrings locator))
 (hlocator':StringsFit (locatorStrings locator')):
 (serializeCacheKey key=serializeCacheKey key' → key=key') ∧
  (serializeCacheLocator locator=serializeCacheLocator locator' → locator=locator') ∧
  serializeCacheKey key≠serializeCacheLocator locator:=by
 rw [serializeCacheKey,serializeCacheKey,serializeCacheLocator,serializeCacheLocator,
  serialized_of_fit hkey,serialized_of_fit hkey',serialized_of_fit hlocator,
  serialized_of_fit hlocator']
 refine ⟨fun h=>?_,fun h=>?_,fun h=>?_⟩
 · exact keyPayload_injective hkey hkey' (Except.ok.inj h)
 · exact locatorPayload_injective hlocator hlocator' (Except.ok.inj h)
 · exact keyPayload_ne_locatorPayload key locator (Except.ok.inj h)

def photo : SourceStamp where
 sourceIdentityUtf8:=utf8 "/d/a.jpg"
 sizeBytes:=5
 stableFileId:=some (utf8 "posix:1:2")

/-- The same photo with and without its file id, at the canonical edge and at another. -/
theorem serialization_unambiguous_photo:
 let key : CacheKey := { source:=photo,handlerId:=utf8 "jpeg" }
 let key' : CacheKey := { key with source:={ photo with stableFileId:=none } }
 let locator : CacheLocatorKey := { catalogSource:=photo }
 let locator' : CacheLocatorKey := { locator with canonicalEdge:=1024 }
 (serializeCacheKey key=serializeCacheKey key' → key=key') ∧
  (serializeCacheLocator locator=serializeCacheLocator locator' → locator=locator') ∧
  serializeCacheKey key≠serializeCacheLocator locator:=by
 refine serialization_unambiguous ?_ ?_ ?_ ?_
 all_goals
  intro text htext
  simp only [keyStrings,locatorStrings,sourceStrings,photo,Option.toList,List.cons_append,
   List.nil_append,List.mem_cons,List.not_mem_nil,or_false] at htext
 · obtain rfl | rfl | rfl | rfl:=htext<;>decide
 · obtain rfl | rfl | rfl:=htext<;>decide
 · obtain rfl | rfl | rfl:=htext<;>decide
 · obtain rfl | rfl | rfl:=htext<;>decide

end VoVe.CacheKeys
