import VoVe.BasicDirectoryPlan

set_option autoImplicit false

namespace VoVe.BasicDirectoryRoundTrip
open ByteCodec AsciiText
open BasicDirectoryManifest BasicDirectoryManifestCodec BasicDirectoryPlan

/-- A manifest reads back exactly when its texts are valid UTF-8 without NUL; what
  reads back is what encodes; a plan counts 16 bytes too many, so what it accepts
  always encodes. -/
theorem manifest_exact (sha256 : Bytes → BasicDirectoryTransferDigest):
 (∀manifest payload,encodeBasicDirectoryTransferManifest sha256 manifest=.ok payload →
  (decodeBasicDirectoryTransferManifest sha256 payload=.ok manifest ↔
   manifestTextsValid manifest) ∧
  recoveryManifestDeclaredEntries payload=some manifest.entries.length) ∧
 (∀payload manifest,decodeBasicDirectoryTransferManifest sha256 payload=.ok manifest →
  encodeBasicDirectoryTransferManifest sha256 manifest=.ok payload) ∧
 (∀view request kind manifest, planBasicDirectoryTransfer view request kind=.ok manifest →
  ∃ captured size payload,captureTree view.listing false false=.ok captured ∧
   plannedSize captured manifest=some size ∧
   encodeBasicDirectoryTransferManifest sha256 manifest=.ok payload ∧
   size=payload.length+16):=
 ⟨fun _ _ h=>⟨(decode_encode h).iff,declared_encode h⟩,fun _ _ h=>encode_decode h,
  fun _ _ _ _ h=>plan_encodes h sha256⟩

def zeroDigest (_ : Bytes) : BasicDirectoryTransferDigest := .zero _

/-- A directory that holds one file of this name. -/
def viewOfName (name : Bytes) : PlanView where
 source:=.ok ⟨utf8 "/s"⟩
 destination:=.ok ⟨utf8 "/d"⟩
 ordinarySource:=.ok true
 ordinaryParent:=.ok true
 destinationExists:=.ok false
 token:=.ok ⟨List.replicate 16 1,rfl⟩
 listing:=
  { ordinaryRoot:=.ok true
    rootRevision:=.ok (utf8 "posix:1:2:3")
    begun:=.ok ()
    found:=[{ relative:=⟨name⟩
              fileType:=.ok .regularFile
              ordinaryDirectory:=.ok false
              directoryRevision:=.error { status:=.ioError }
              opened:=.ok { sizeBytes:=5,modifiedUnixNs:=7,
                            sourceRevisionUtf8:=utf8 "posix:1:4:3" }
              advanced:=.ok () }] }

def requestOfCopy : BasicDirectoryTransferRequest where
 source:=⟨utf8 "/s"⟩
 destination:=⟨utf8 "/d"⟩
 operationId:=1

def manifestOfName (name : Bytes) : BasicDirectoryTransferManifest where
 operationId:=1
 pathSemantics:=.posixExact
 source:=⟨utf8 "/s"⟩
 stagingDestination:=basicStagingDestinationPath ⟨utf8 "/d"⟩ 1 ⟨List.replicate 16 1,rfl⟩
 destination:=⟨utf8 "/d"⟩
 sourceRevisionUtf8:=utf8 "posix:1:2:3"
 ownershipToken:=⟨List.replicate 16 1,rfl⟩
 totalBytes:=5
 entries:=[{ relativePath:=⟨name⟩,sizeBytes:=5,modifiedUnixNs:=7,
             sourceRevisionUtf8:=utf8 "posix:1:4:3" }]

lemma plan_latinName : planBasicDirectoryTransfer (viewOfName [0xff]) requestOfCopy .copy=
  .ok (manifestOfName [0xff]):=by
 decide +kernel

lemma plan_asciiName : planBasicDirectoryTransfer (viewOfName (utf8 "a")) requestOfCopy .copy=
  .ok (manifestOfName (utf8 "a")):=by
 decide +kernel

lemma encodes_planned {name : Bytes}
 (h:planBasicDirectoryTransfer (viewOfName name) requestOfCopy .copy=
  .ok (manifestOfName name)):
 encodeBasicDirectoryTransferManifest zeroDigest (manifestOfName name)=
  .ok (manifestPayload zeroDigest (manifestOfName name)):=by
 obtain ⟨_,_,payload,-,-,hpayload,-⟩:=plan_encodes h zeroDigest
 obtain ⟨-,-,-,hsame⟩:=(encode_iff payload).mp hpayload
 rw [hpayload,hsame]

theorem manifest_exact_planned : (decodeBasicDirectoryTransferManifest zeroDigest
   (manifestPayload zeroDigest (manifestOfName (utf8 "a")))=.ok (manifestOfName (utf8 "a")) ↔
  manifestTextsValid (manifestOfName (utf8 "a"))) ∧
 encodeBasicDirectoryTransferManifest zeroDigest (manifestOfName (utf8 "a"))=
  .ok (manifestPayload zeroDigest (manifestOfName (utf8 "a"))) ∧
 ∃ captured size payload,captureTree (viewOfName (utf8 "a")).listing false false=.ok captured ∧
  plannedSize captured (manifestOfName (utf8 "a"))=some size ∧
  encodeBasicDirectoryTransferManifest zeroDigest (manifestOfName (utf8 "a"))=.ok payload ∧
  size=payload.length+16:=by
 have hencodes:=encodes_planned plan_asciiName
 have hread:=((manifest_exact zeroDigest).1 _ _ hencodes).1
 have htexts:manifestTextsValid (manifestOfName (utf8 "a"))=true:=by decide +kernel
 exact ⟨hread,(manifest_exact zeroDigest).2.1 _ _ (hread.mpr htexts),
  (manifest_exact zeroDigest).2.2 _ _ _ _ plan_asciiName⟩

/-- A tree with one file of a name that is not UTF-8 is planned, and its manifest
  is neither read back nor of the size that was planned. -/
theorem manifest_inexact : (¬∀view request kind manifest payload,
  planBasicDirectoryTransfer view request kind=.ok manifest →
  encodeBasicDirectoryTransferManifest zeroDigest manifest=.ok payload →
  decodeBasicDirectoryTransferManifest zeroDigest payload=.ok manifest) ∧
 (¬∀view request kind manifest captured size payload,
  planBasicDirectoryTransfer view request kind=.ok manifest →
  captureTree view.listing false false=.ok captured →
  plannedSize captured manifest=some size →
  encodeBasicDirectoryTransferManifest zeroDigest manifest=.ok payload →
  size=payload.length):=by
 constructor
 · intro h
   have hencodes:=encodes_planned plan_latinName
   have hread:=h _ _ _ _ _ plan_latinName hencodes
   rw [(decode_encode hencodes).iff] at hread
   revert hread
   decide +kernel
 · intro h
   obtain ⟨captured,size,payload,hcaptured,hsize,hpayload,hmore⟩:=
    plan_encodes plan_latinName zeroDigest
   have hequal:=h _ _ _ _ _ _ _ plan_latinName hcaptured hsize hpayload
   omega

end VoVe.BasicDirectoryRoundTrip
