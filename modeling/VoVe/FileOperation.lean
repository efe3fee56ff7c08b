import VoVe.PosixPath

set_option autoImplicit false

/-! Statuses, snapshots and results of file operations, and when two source
  revisions name the same object. -/

namespace VoVe.FileOperation
open ByteCodec AsciiText

inductive OperationStatus where
 | success
 | invalidRequest
 | notFound
 | conflict
 | sourceChanged
 | permissionDenied
 | authenticationRequired
 | disconnected
 | timedOut
 | unsupported
 | unknownOutcome
 | ioError
 | crossDevice
 | fileInUse
 deriving DecidableEq

instance : WireEnum OperationStatus where
 values:=[.success,.invalidRequest,.notFound,.conflict,.sourceChanged,.permissionDenied,
  .authenticationRequired,.disconnected,.timedOut,.unsupported,.unknownOutcome,.ioError,
  .crossDevice,.fileInUse]
 complete a := by cases a<;>decide
 small:=by decide

inductive OperationEvidence where
 | none
 | committed
 | noCommit
 | conflicting
 deriving DecidableEq

instance : WireEnum OperationEvidence where
 values:=[.none,.committed,.noCommit,.conflicting]
 complete a := by cases a<;>decide
 small:=by decide

inductive OperationObjectKind where
 | regularFile
 | directory
 deriving DecidableEq

instance : WireEnum OperationObjectKind where
 values:=[.regularFile,.directory]
 complete a := by cases a<;>decide
 small:=by decide

structure SourceSnapshot where
 sizeBytes : UInt64 := 0
 modifiedUnixNs : Int64 := 0
 sourceRevisionUtf8 : Bytes := []
 deriving DecidableEq

structure OperationResult where
 operationId : UInt64 := 0
 status : OperationStatus := .ioError
 evidence : OperationEvidence := .none
 platformCode : Int64 := 0
 sourcePresent : Bool := false
 sourceMatchesExpected : Bool := false
 destinationPresent : Bool := false
 destinationMatchesSource : Bool := false
 confirmedSnapshot : SourceSnapshot := {}
 detailUtf8 : Bytes := []
 deriving DecidableEq

def OperationResult.ok (result : OperationResult) : Bool := result.status = .success

def colon : UInt8 := 58

def winFile128 : Bytes := utf8 "win-file128:"
def winFile : Bytes := utf8 "win-file:"
def winSmb64 : Bytes := utf8 "win-smb64:"
def posix1 : Bytes := utf8 "posix:"
def posix2 : Bytes := utf8 "posix2:"

variable (revision : Bytes)

/-- A revision whose identity has `fields` colons; one colon more starts the
  change stamp. -/
def identityBefore (fields : ℕ) : Bytes:=
 if revision.count colon = fields then revision
 else if revision.count colon≠fields+1 then []
 else
  match findLast revision colon with
  | none=>[]
  | some last=>revision.take last

def stableObjectIdentity : Bytes:=
 if startsWith revision winFile128 then
  match find revision colon winFile128.length with
  | none=>[]
  | some volumeEnd=>
   match find revision colon (volumeEnd+1) with
   | none=>revision
   | some idEnd=>if idEnd = volumeEnd+1 then [] else revision.take idEnd
 else if startsWith revision posix2 then identityBefore revision 3
 else if startsWith revision winFile ∨ startsWith revision winSmb64 ∨
   startsWith revision posix1 then
  identityBefore revision 2
 else []

def revisionChange : Bytes:=
 match findLast revision colon with
 | none=>[]
 | some last=>revision.drop (last+1)

/-- Low 64 bits of a 128-bit identifier, from its first sixteen digits. -/
def legacyId (idText : Bytes) : Option UInt64:=
 (List.range 8).foldlM (fun id index =>
  (stoull 16 ((idText.drop (index*2)).take 2)).map fun byte =>
   id ||| (byte <<< UInt64.ofNat (index*8))) 0

def legacyFile128Identity : Bytes:=
 match find revision colon winFile128.length with
 | none=>[]
 | some volumeEnd=>
  match find revision colon (volumeEnd+1) with
  | none=>[]
  | some idEnd=>
   let volumeText:=(revision.take volumeEnd).drop winFile128.length
   let idText:=(revision.take idEnd).drop (volumeEnd+1)
   if volumeText = [] ∨ idText.length≠32 then []
   else
    match stoull 10 volumeText, legacyId idText with
    | some volume, some id=>
     if id = 0 then []
     else winFile++toChars 10 (volume &&& 0xffffffff).toNat++[colon]++toChars 10 id.toNat
    | _, _=>[]

def legacyObjectIdentity : Bytes:=
 if startsWith revision posix1 ∨ startsWith revision winFile then stableObjectIdentity revision
 else if startsWith revision winSmb64 then
  let stable:=stableObjectIdentity revision
  if stable = [] then [] else winFile++stable.drop 10
 else if startsWith revision winFile128 then legacyFile128Identity revision
 else []

def legacyPosixObjectIdentity : Bytes:=
 let stable:=stableObjectIdentity revision
 if stable = [] then []
 else if startsWith revision posix1 then stable
 else if startsWith revision posix2 then
  match findLast stable colon with
  | none=>[]
  | some separator=>posix1++(stable.take separator).drop posix2.length
 else []

/-- A revision without and one with a birth time name the same object when the
  birth time is not after the change the older form recorded. -/
def legacyPosixIdentityBridge (left right : Bytes) : Bool:=
 let mixedVersions:=(startsWith left posix1 ∧ startsWith right posix2) ∨
  (startsWith left posix2 ∧ startsWith right posix1)
 let legacyLeft:=legacyPosixObjectIdentity left
 let legacy:=if startsWith left posix1 then left else right
 let strong:=if startsWith left posix2 then left else right
 if ¬mixedVersions then false
 else if legacyLeft = [] ∨ legacyLeft≠legacyPosixObjectIdentity right then false
 else if legacy.count colon≠3 ∨ strong.count colon≠4 then false
 else
  match findLast legacy colon, findLast strong colon with
  | some legacyChange, some strongChange=>
   match findLast (strong.take strongChange) colon with
   | none=>false
   | some strongBirth=>
    match fromChars (legacy.drop (legacyChange+1)),
     fromChars ((strong.take strongChange).drop (strongBirth+1)) with
    | some change, some birth=>birth ≥ 0 ∧ birth ≤ change
    | _, _=>false
  | _, _=>false

/-- The distance saturates at the largest unsigned value. -/
def timestampsWithinTolerance (before after : Int64) (tolerance : ℕ) : Bool:=
 min (before.toInt - after.toInt).natAbs (2 ^ 64 - 1) ≤ tolerance

def sameObjectIdentity (left right : Bytes) : Bool:=
 let stableLeft:=stableObjectIdentity left
 let stableRight:=stableObjectIdentity right
 if stableLeft = [] ∨ stableRight = [] then false
 else if startsWith left posix2 ∨ startsWith right posix2 then stableLeft = stableRight
 else if (startsWith left winFile128 ∨ startsWith left winSmb64) ∧
   (startsWith right winFile128 ∨ startsWith right winSmb64) then stableLeft = stableRight
 else if stableLeft = stableRight then true
 else
  let legacyLeft:=legacyObjectIdentity left
  let legacyRight:=legacyObjectIdentity right
  legacyLeft≠[] ∧ legacyRight≠[] ∧ legacyLeft = legacyRight

def sameSourceRevision (left right : Bytes) : Bool:=
 let leftChange:=revisionChange left
 leftChange≠[] ∧ leftChange = revisionChange right ∧ sameObjectIdentity left right

def timestampToleranceNs : ℕ := 2000000000

def isPosixRevision : Bool := startsWith revision posix1 ∨ startsWith revision posix2

def sameObjectAfterRename (before after : SourceSnapshot) : Bool:=
 let exactIdentity:=sameObjectIdentity before.sourceRevisionUtf8 after.sourceRevisionUtf8
 let bridge:=legacyPosixIdentityBridge before.sourceRevisionUtf8 after.sourceRevisionUtf8
 if before.sizeBytes≠after.sizeBytes ∨ (¬exactIdentity ∧ ¬bridge) ∨
   (bridge ∧ before.modifiedUnixNs≠after.modifiedUnixNs) then false
 else if ¬isPosixRevision before.sourceRevisionUtf8 ∨ ¬isPosixRevision after.sourceRevisionUtf8 then
  before.modifiedUnixNs = after.modifiedUnixNs
 else timestampsWithinTolerance before.modifiedUnixNs after.modifiedUnixNs timestampToleranceNs

lemma sameObjectIdentity_refl {revision : Bytes} (h:stableObjectIdentity revision≠[]):
 sameObjectIdentity revision revision=true:=by
 simp only [sameObjectIdentity,h,or_self,if_false,if_true,decide_true,ite_self]

section Identities
variable {revision left right : Bytes}

lemma startsWith_head {text start : Bytes} {first : UInt8} (h:startsWith text start=true)
 (hfirst:start.head?=some first) : text.head?=some first:=by
 obtain ⟨rest,rfl⟩ : start <+: text:=by simpa [startsWith] using h
 cases start with
 | nil=>cases hfirst
 | cons other start=>exact hfirst

lemma identityBefore_head {fields : ℕ} (h:identityBefore revision fields≠[]):
 (identityBefore revision fields).head?=revision.head?:=by
 unfold identityBefore at h ⊢
 split
 · rfl
 · next hwhole =>
   rw [if_neg hwhole] at h
   split
   · next hmany => exact absurd rfl (by rw [if_pos hmany] at h; exact h)
   · next hmany =>
     rw [if_neg hmany] at h
     split
     · next hnone => simp [hnone] at h
     · next last hlast =>
       simp only [hlast] at h
       cases revision with
       | nil=>simp at h
       | cons first rest=>
        cases last with
        | zero=>simp at h
        | succ last=>rfl

lemma findLast_append (front : Bytes) {tail : Bytes} (h:colon∉tail):
 findLast (front++colon::tail) colon=some front.length:=by
 have hreverse:(front++colon::tail).reverse=tail.reverse++colon::front.reverse:=by
  simp
 have hnone:tail.reverse.findIdx? (· == colon)=none:=by
  rw [List.findIdx?_eq_none_iff]
  intro b hb
  simpa using fun heq : b=colon => h (heq ▸ List.mem_reverse.mp hb)
 rw [findLast,hreverse,List.findIdx?_append,hnone]
 simp [List.findIdx?_cons]

lemma identityBefore_append {front tail : Bytes} {fields : ℕ} (hfields:front.count colon=fields)
 (h:colon∉tail) : identityBefore (front++colon::tail) fields=front:=by
 have hcount:(front++colon::tail).count colon=fields+1:=by
  simp [hfields,List.count_eq_zero_of_not_mem h]
 rw [identityBefore,hcount,if_neg (by omega),if_neg (by simp),findLast_append front h]
 simp

lemma legacy_posix (h:startsWith revision posix1=true)
 (hidentity:stableObjectIdentity revision≠[]):
 legacyObjectIdentity revision=stableObjectIdentity revision ∧
  (legacyObjectIdentity revision).head?=some 0x70:=by
 have hlegacy:legacyObjectIdentity revision=stableObjectIdentity revision:=by
  simp [legacyObjectIdentity,h]
 have hhead:revision.head?=some 0x70:=startsWith_head h (by decide)
 have hwindows:startsWith revision winFile128=false:=by
  rw [Bool.eq_false_iff]
  intro hstarts
  rw [startsWith_head hstarts (show winFile128.head?=some 0x77 by decide)] at hhead
  cases hhead
 refine ⟨hlegacy,?_⟩
 rw [hlegacy]
 unfold stableObjectIdentity at hidentity ⊢
 simp only [hwindows,Bool.false_eq_true,if_false,h,or_true,if_true] at hidentity ⊢
 split
 · next hposix =>
   rw [if_pos hposix] at hidentity
   rw [identityBefore_head hidentity,hhead]
 · next hposix =>
   rw [if_neg hposix] at hidentity
   rw [identityBefore_head hidentity,hhead]

lemma legacyFile128_starts (h:legacyFile128Identity revision≠[]):
 ∃ rest,legacyFile128Identity revision=winFile++rest:=by
 unfold legacyFile128Identity at h ⊢
 cases hvolume:find revision colon winFile128.length with
 | none=>simp [hvolume] at h
 | some volumeEnd=>
  simp only [hvolume] at h ⊢
  cases hid:find revision colon (volumeEnd+1) with
  | none=>simp [hid] at h
  | some idEnd=>
   simp only [hid] at h ⊢
   split at h
   · exact absurd rfl h
   · next htexts =>
     rw [if_neg htexts]
     split at h
     · next volume id hvalue hlegacy =>
       split at h
       · exact absurd rfl h
       · next hzero =>
         rw [if_neg hzero]
         simp only [List.append_assoc]
         exact ⟨_,rfl⟩
     · exact absurd rfl h

lemma legacy_windows (h:startsWith revision posix1=false)
 (hstrong:startsWith revision winFile=false) (hlegacy:legacyObjectIdentity revision≠[]):
 (startsWith revision winFile128=true ∨ startsWith revision winSmb64=true) ∧
  (legacyObjectIdentity revision).head?=some 0x77:=by
 have hfile:∀rest : Bytes,(winFile++rest).head?=some 0x77:=by
  intro rest
  rw [List.head?_append_of_ne_nil _ (by decide)]
  decide
 unfold legacyObjectIdentity at hlegacy ⊢
 simp only [h,hstrong,Bool.false_eq_true,or_self,if_false] at hlegacy ⊢
 by_cases hsmb:startsWith revision winSmb64=true
 · simp only [hsmb,if_true] at hlegacy ⊢
   refine ⟨.inr trivial,?_⟩
   by_cases hstable:stableObjectIdentity revision=[]
   · simp [hstable] at hlegacy
   · rw [if_neg hstable,hfile]
 · rw [Bool.not_eq_true] at hsmb
   simp only [hsmb,Bool.false_eq_true,if_false] at hlegacy ⊢
   by_cases hfile128:startsWith revision winFile128=true
   · simp only [hfile128,if_true] at hlegacy ⊢
     obtain ⟨rest,hstarts⟩:=legacyFile128_starts hlegacy
     rw [hstarts]
     exact ⟨.inl trivial,hfile rest⟩
   · simp [hfile128] at hlegacy

lemma identity_of_strong (h:sameObjectIdentity left right=true)
 (hleft:startsWith left winFile=false) (hright:startsWith right winFile=false):
 stableObjectIdentity left=stableObjectIdentity right:=by
 unfold sameObjectIdentity at h
 dsimp only at h
 split at h
 · cases h
 · next hidentities =>
   obtain ⟨hidentity,hidentity'⟩:=not_or.mp hidentities
   split at h
   · exact of_decide_eq_true h
   · split at h
     · exact of_decide_eq_true h
     · next hwindows =>
       split at h
       · next hsame => exact hsame
       · obtain ⟨hlegacy,hlegacy',hsame⟩:=of_decide_eq_true h
         cases hposix:startsWith left posix1 with
         | true=>
          obtain ⟨hstable,hhead⟩:=legacy_posix hposix hidentity
          cases hposix':startsWith right posix1 with
          | true=>
           rw [←hstable,hsame]
           exact (legacy_posix hposix' hidentity').1
          | false=>
           rw [hsame,(legacy_windows hposix' hright hlegacy').2] at hhead
           cases hhead
         | false=>
          obtain ⟨hwin,hhead⟩:=legacy_windows hposix hleft hlegacy
          cases hposix':startsWith right posix1 with
          | true=>
           rw [hsame,(legacy_posix hposix' hidentity').2] at hhead
           cases hhead
          | false=>
           exact absurd ⟨hwin,(legacy_windows hposix' hright hlegacy').1⟩ hwindows

end Identities

end VoVe.FileOperation
