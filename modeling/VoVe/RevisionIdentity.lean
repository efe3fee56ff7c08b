import VoVe.FileOperation

set_option autoImplicit false

/-! Revision texts as names of objects: the properties of an identity that the
  recovery decisions rest on. -/

namespace VoVe.RevisionIdentity
open ByteCodec AsciiText FileOperation

structure Timespec where
 seconds : Int64
 nanoseconds : ℤ
 small : 0≤nanoseconds ∧ nanoseconds<1000000000

structure Status where
 device : UInt64
 inode : UInt64
 changed : Timespec

def maxTime : ℤ := 9223372036854775807
def minTime : ℤ := -9223372036854775808

def timestampNs (timestamp : Timespec) : Int64:=
 let seconds:=timestamp.seconds.toInt
 if seconds > maxTime.tdiv 1000000000 then Int64.ofInt maxTime
 else if seconds < minTime.tdiv 1000000000 then Int64.ofInt minTime
 else
  let base:=seconds*1000000000
  if timestamp.nanoseconds > 0 ∧ base > maxTime-timestamp.nanoseconds then Int64.ofInt maxTime
  else Int64.ofInt (base+timestamp.nanoseconds)

def signedChars (n : ℤ) : Bytes := if n < 0 then 45::toChars 10 n.natAbs else toChars 10 n.natAbs

def revision (status : Status) (birth : Option Int64) : Bytes:=
 let device:=toChars 10 status.device.toNat
 let inode:=toChars 10 status.inode.toNat
 let changed:=signedChars (timestampNs status.changed).toInt
 match birth with
 | some birth=>posix2++device++[colon]++inode++[colon]++signedChars birth.toInt ++
  [colon]++changed
 | none=>posix1++device++[colon]++inode++[colon]++changed

/-- The result of a signed 64-bit operation; an overflow has none. -/
def signed64 (n : ℤ) : Option ℤ := if minTime ≤ n ∧ n ≤ maxTime then some n else none

def magnitude (value : Int64) : Option UInt64:=
 if value.toInt < 0 then do
  let next ← signed64 (value.toInt+1)
  let opposite ← signed64 (-next)
  return UInt64.ofInt opposite+1
 else some (UInt64.ofInt value.toInt)

def magnitudeSum (before after : UInt64) : UInt64:=
 if before > 18446744073709551615-after then 18446744073709551615 else before+after

def timestampDistance (before after : Int64) : Option UInt64:=
 if before.toInt < 0 ↔ after.toInt < 0 then
  (signed64 (if before.toInt ≥ after.toInt then before.toInt-after.toInt
   else after.toInt-before.toInt)).map UInt64.ofInt
 else do
  let beforeMagnitude ← magnitude before
  let afterMagnitude ← magnitude after
  some (magnitudeSum beforeMagnitude afterMagnitude)

/-- `timestamps_within_tolerance` with each signed operation checked. -/
def checkedTimestamps (before after : Int64) (tolerance : UInt64) : Option Bool:=
 if before = after then some true
 else (timestampDistance before after).map fun distance=>decide (distance ≤ tolerance)

section Texts
variable {text start front tail : Bytes} {fields : ℕ}

lemma startsWith_iff : startsWith text start=true ↔ start <+: text:=by
 simp [startsWith]

/-- A text that keeps more colons than a start of it has keeps that start. -/
lemma startsWith_front (hfront:front <+: text) (hcount:start.count colon<front.count colon):
 startsWith front start=startsWith text start:=by
 rw [Bool.eq_iff_iff,startsWith_iff,startsWith_iff]
 constructor
 · intro h
   exact h.trans hfront
 · intro h
   cases List.prefix_or_prefix_of_prefix h hfront with
   | inl hshort=>exact hshort
   | inr hlong=>
    have hle:=hlong.sublist.count_le colon
    omega

lemma last_split (h:colon∈text) : ∃ front tail,text=front++colon::tail ∧ colon∉tail:=by
 obtain ⟨before,after,heq,hbefore⟩:=List.eq_append_cons_of_mem (List.mem_reverse.mpr h)
 have htext:=congrArg List.reverse heq
 rw [List.reverse_reverse,List.reverse_append,List.reverse_cons,List.append_assoc] at htext
 exact ⟨after.reverse,before.reverse,htext,fun hmem=>hbefore (List.mem_reverse.mp hmem)⟩

lemma identityBefore_shape (h:identityBefore text fields≠[]):
 identityBefore text fields <+: text ∧ (identityBefore text fields).count colon=fields:=by
 by_cases hwhole:text.count colon=fields
 · rw [identityBefore,if_pos hwhole]
   exact ⟨List.prefix_refl text,hwhole⟩
 · by_cases hmany:text.count colon=fields+1
   · have hmem:colon∈text:=List.count_pos_iff.mp (by omega)
     obtain ⟨front,tail,rfl,htail⟩:=last_split hmem
     have hfields:front.count colon=fields:=by
      rw [List.count_append,List.count_cons_self,List.count_eq_zero_of_not_mem htail] at hmany
      omega
     rw [identityBefore_append hfields htail]
     exact ⟨List.prefix_append front _,hfields⟩
   · rw [identityBefore,if_neg hwhole,if_pos hmany] at h
     exact absurd rfl h

lemma findIdx?_take {p : UInt8 → Bool} {i n : ℕ} (h:text.findIdx? p=some i):
 (text.take n).findIdx? p=if i<n then some i else none:=by
 induction text generalizing i n with
 | nil=>cases h
 | cons b rest ih=>
  cases n with
  | zero=>rfl
  | succ n=>
   rw [List.findIdx?_cons] at h
   rw [List.take_succ_cons,List.findIdx?_cons]
   split at h
   · next hb =>
     obtain rfl:=Option.some.inj h
     rw [if_pos hb,if_pos (Nat.succ_pos n)]
   · next hb =>
     obtain ⟨j,hj,rfl⟩:=Option.map_eq_some_iff.mp h
     rw [if_neg hb,ih hj]
     by_cases hlt:j<n
     · rw [if_pos hlt,if_pos (Nat.succ_lt_succ hlt)]
       rfl
     · rw [if_neg hlt,if_neg (by omega)]
       rfl

lemma find_take {b : UInt8} {i n first : ℕ} (h:find text b first=some i):
 first ≤ i ∧ find (text.take n) b first=if i<n then some i else none:=by
 obtain ⟨j,hj,rfl⟩:=Option.map_eq_some_iff.mp h
 refine ⟨Nat.le_add_left first j,?_⟩
 rw [find,List.drop_take,findIdx?_take hj]
 by_cases hlt:j+first<n
 · rw [if_pos hlt,if_pos (by omega)]
   rfl
 · rw [if_neg hlt,if_neg (by omega)]
   rfl

end Texts

section Stable
variable {revision left right middle : Bytes}

lemma stable_nil : stableObjectIdentity []=[] := rfl

lemma file128_idempotent (hfile:startsWith revision winFile128=true):
 stableObjectIdentity (stableObjectIdentity revision)=stableObjectIdentity revision:=by
 cases hvolume:find revision colon winFile128.length with
 | none=>
  have hnone:stableObjectIdentity revision=[]:=by
   simp [stableObjectIdentity,hfile,hvolume]
  rw [hnone,stable_nil]
 | some volumeEnd=>
  cases hid:find revision colon (volumeEnd+1) with
  | none=>
   have hwhole:stableObjectIdentity revision=revision:=by
    simp [stableObjectIdentity,hfile,hvolume,hid]
   rw [hwhole,hwhole]
  | some idEnd=>
   by_cases hempty:idEnd=volumeEnd+1
   · have hnone:stableObjectIdentity revision=[]:=by
      simp [stableObjectIdentity,hfile,hvolume,hid,hempty]
     rw [hnone,stable_nil]
   · have htake:stableObjectIdentity revision=revision.take idEnd:=by
      simp [stableObjectIdentity,hfile,hvolume,hid,hempty]
     obtain ⟨hvolumeEnd,hvolume'⟩:=find_take (n := idEnd) hvolume
     obtain ⟨hidEnd,hid'⟩:=find_take (n := idEnd) hid
     rw [if_pos (by omega)] at hvolume'
     rw [if_neg (lt_irrefl idEnd)] at hid'
     have hfile':startsWith (revision.take idEnd) winFile128=true:=by
      rw [startsWith_iff] at hfile ⊢
      exact List.prefix_take_iff.mpr ⟨hfile,by omega⟩
     rw [htake]
     simp [stableObjectIdentity,hfile',hvolume',hid']

/-- Outside `win-file128:` a text and each start of it with two colons take the
  same branch, and the branch counts colons. -/
lemma stable_counted (hfile:startsWith revision winFile128=false)
 (h:stableObjectIdentity revision≠[]) : ∃ fields,2≤fields ∧
  stableObjectIdentity revision=identityBefore revision fields ∧
  ∀front,front <+: revision → 2≤front.count colon →
   stableObjectIdentity front=identityBefore front fields:=by
 have hstart (front : Bytes) (hfront:front <+: revision) (htwo:2≤front.count colon)
   (start : Bytes) (hone:start.count colon=1):
   startsWith front start=startsWith revision start:=startsWith_front hfront (by omega)
 by_cases hbirth:startsWith revision posix2=true
 · refine ⟨3,by decide,by simp [stableObjectIdentity,hfile,hbirth],?_⟩
   intro front hfront htwo
   have hsame:=hstart front hfront htwo
   simp [stableObjectIdentity,hsame winFile128 (by decide),hsame posix2 (by decide),hfile,hbirth]
 · rw [Bool.not_eq_true] at hbirth
   by_cases hold:startsWith revision winFile=true ∨ startsWith revision winSmb64=true ∨
    startsWith revision posix1=true
   · refine ⟨2,le_rfl,by simp [stableObjectIdentity,hfile,hbirth,hold],?_⟩
     intro front hfront htwo
     have hsame:=hstart front hfront htwo
     simp [stableObjectIdentity,hsame winFile128 (by decide),hsame posix2 (by decide),
      hsame winFile (by decide),hsame winSmb64 (by decide),hsame posix1 (by decide),hfile,hbirth,hold]
   · exact absurd (by simp [stableObjectIdentity,hfile,hbirth,hold]) h

lemma stable_idempotent (revision : Bytes):
 stableObjectIdentity (stableObjectIdentity revision)=stableObjectIdentity revision:=by
 cases hfile:startsWith revision winFile128 with
 | true=>exact file128_idempotent hfile
 | false=>
  by_cases hnone:stableObjectIdentity revision=[]
  · rw [hnone,stable_nil]
  · obtain ⟨fields,htwo,hstable,hfronts⟩:=stable_counted hfile hnone
    rw [hstable] at hnone ⊢
    obtain ⟨hfront,hcount⟩:=identityBefore_shape hnone
    rw [hfronts _ hfront (by omega)]
    exact if_pos hcount

lemma same_of_stable (hnone:stableObjectIdentity left≠[])
 (h:stableObjectIdentity left=stableObjectIdentity right):
 sameObjectIdentity left right=true:=by
 simp only [sameObjectIdentity,←h,hnone,or_self,if_false,if_true,decide_true,ite_self]

lemma stable_nonempty (h:sameObjectIdentity left right=true):
 stableObjectIdentity left≠[] ∧ stableObjectIdentity right≠[]:=by
 rw [←not_or]
 intro hnone
 rw [sameObjectIdentity,if_pos hnone] at h
 cases h

lemma same_stable (h:stableObjectIdentity revision≠[]):
 sameObjectIdentity revision (stableObjectIdentity revision)=true:=
 same_of_stable h (stable_idempotent revision).symm

lemma same_symm (left right : Bytes) : sameObjectIdentity left right=sameObjectIdentity right left:=by
 unfold sameObjectIdentity
 dsimp only
 simp only [or_comm (a := stableObjectIdentity left=[]),or_comm (a := startsWith left posix2=true),
  and_comm (a := startsWith left winFile128=true ∨ startsWith left winSmb64=true),
  eq_comm (a := stableObjectIdentity left) (b := stableObjectIdentity right),
  eq_comm (a := legacyObjectIdentity left) (b := legacyObjectIdentity right),
  and_left_comm (a := legacyObjectIdentity left≠[])]

lemma revision_symm (left right : Bytes):
 sameSourceRevision left right=sameSourceRevision right left:=by
 unfold sameSourceRevision
 dsimp only
 rw [same_symm left right]
 by_cases hchange:revisionChange left=revisionChange right
 · rw [hchange]
 · simp only [hchange,Ne.symm hchange,false_and,and_false]

/-- The prefixes of strong and POSIX identities; `win-file:` is not among them. -/
def trackedPrefix (revision : Bytes) : Prop:=
 startsWith revision posix1 = true ∨ startsWith revision posix2 = true ∨
  startsWith revision winFile128 = true ∨ startsWith revision winSmb64 = true

lemma two_starts {first second : Bytes} (hfirst:startsWith revision first=true)
 (hsecond:startsWith revision second=true):
 startsWith first second=true ∨ startsWith second first=true:=by
 rw [startsWith_iff] at hfirst hsecond ⊢
 rw [startsWith_iff]
 exact List.prefix_or_prefix_of_prefix hsecond hfirst

lemma tracked_not_file (h:trackedPrefix revision) : startsWith revision winFile=false:=by
 rw [Bool.eq_false_iff]
 intro hfile
 obtain h | h | h | h:=h<;>exact absurd (two_starts h hfile) (by decide)

lemma same_trans (hleft:trackedPrefix left) (hmiddle:trackedPrefix middle)
 (hright:trackedPrefix right) (h:sameObjectIdentity left middle=true)
 (h':sameObjectIdentity middle right=true) : sameObjectIdentity left right=true:=by
 have hfirst:=identity_of_strong h (tracked_not_file hleft) (tracked_not_file hmiddle)
 have hsecond:=identity_of_strong h' (tracked_not_file hmiddle) (tracked_not_file hright)
 exact same_of_stable (stable_nonempty h).1 (hfirst.trans hsecond)

lemma posix1_not_posix2 (h:startsWith revision posix1=true) : startsWith revision posix2=false:=by
 rw [Bool.eq_false_iff]
 intro hbirth
 exact absurd (two_starts h hbirth) (by decide)

lemma bridge_mixed (hleft:startsWith left posix1=true) (hright:startsWith right posix2=true):
 legacyPosixIdentityBridge left right=legacyPosixIdentityBridge right left:=by
 have hleft':=posix1_not_posix2 hleft
 have hright':startsWith right posix1=false:=by
  rw [Bool.eq_false_iff]
  intro hold
  rw [posix1_not_posix2 hold] at hright
  cases hright
 by_cases hsame:legacyPosixObjectIdentity left=legacyPosixObjectIdentity right
 · simp [legacyPosixIdentityBridge,hleft,hright,hleft',hright',hsame]
 · simp [legacyPosixIdentityBridge,hleft,hright,hleft',hright',hsame,Ne.symm hsame]

/-- Both orders of a mixed pair read the same two texts; no other pair is bridged. -/
lemma bridge_symm (left right : Bytes):
 legacyPosixIdentityBridge left right=legacyPosixIdentityBridge right left:=by
 by_cases hmixed:startsWith left posix1=true ∧ startsWith right posix2=true
 · exact bridge_mixed hmixed.1 hmixed.2
 · by_cases hmixed':startsWith left posix2=true ∧ startsWith right posix1=true
   · exact (bridge_mixed hmixed'.2 hmixed'.1).symm
   · have hnone:legacyPosixIdentityBridge left right=false:=
      if_pos (not_or.mpr ⟨hmixed,hmixed'⟩)
     have hnone':legacyPosixIdentityBridge right left=false:=
      if_pos (not_or.mpr ⟨fun h=>hmixed' h.symm,fun h=>hmixed h.symm⟩)
     rw [hnone,hnone']

lemma rename_symm (before after : SourceSnapshot):
 sameObjectAfterRename before after=sameObjectAfterRename after before:=by
 unfold sameObjectAfterRename timestampsWithinTolerance
 dsimp only
 rw [same_symm before.sourceRevisionUtf8,bridge_symm before.sourceRevisionUtf8,
  ← Int.natAbs_neg (before.modifiedUnixNs.toInt-after.modifiedUnixNs.toInt),neg_sub]
 simp only [ne_comm (a := before.sizeBytes),ne_comm (a := before.modifiedUnixNs),
  eq_comm (a := before.modifiedUnixNs) (b := after.modifiedUnixNs),
  or_comm (a := ¬isPosixRevision before.sourceRevisionUtf8=true)]

end Stable
section Revisions
variable (status left right : Status) (birth birth' : Option Int64)

lemma decimal_injective {m n : UInt64} (h:toChars 10 m.toNat=toChars 10 n.toNat) : m=n:=
 UInt64.toNat_inj.mp (toChars_base_injective (by decide) (by decide) h)

lemma colon_decimal (n : ℕ) : colon∉toChars 10 n := not_mem_decimal (by decide) n

lemma colon_signed (n : ℤ) : colon∉signedChars n:=by
 unfold signedChars
 split
 · intro hmem
   cases List.mem_cons.mp hmem with
   | inl hminus=>exact absurd hminus (by decide)
   | inr hdigits=>exact colon_decimal _ hdigits
 · exact colon_decimal _

lemma signed_nonempty (n : ℤ) : signedChars n≠[]:=by
 unfold signedChars
 split
 · exact List.cons_ne_nil _ _
 · exact List.ne_nil_of_length_pos (length_toChars_pos (by decide) _)

lemma signed_injective {m n : ℤ} (h:signedChars m=signedChars n) : m=n:=by
 have hminus (k : ℕ) : (45 : UInt8)∉toChars 10 k:=not_mem_decimal (by decide) k
 have hdigits {i j : ℕ} (hij:toChars 10 i=toChars 10 j) : i=j:=
  toChars_base_injective (by decide) (by decide) hij
 unfold signedChars at h
 by_cases hm:m<0
 · by_cases hn:n<0
   · rw [if_pos hm,if_pos hn] at h
     have habs:=hdigits (List.cons.inj h).2
     omega
   · rw [if_pos hm,if_neg hn] at h
     exact absurd (h ▸ List.mem_cons_self) (hminus n.natAbs)
 · by_cases hn:n<0
   · rw [if_neg hm,if_pos hn] at h
     exact absurd (h ▸ List.mem_cons_self) (hminus m.natAbs)
   · rw [if_neg hm,if_neg hn] at h
     have habs:=hdigits h
     omega

lemma field_injective {front front' tail tail' : Bytes} (h:colon∉front) (h':colon∉front')
 (heq:front++colon::tail=front'++colon::tail') : front=front' ∧ tail=tail':=by
 induction front generalizing front' with
 | nil=>
  cases front' with
  | nil=>exact ⟨rfl,(List.cons.inj heq).2⟩
  | cons b rest=>exact absurd ((List.cons.inj heq).1 ▸ List.mem_cons_self) h'
 | cons b front ih=>
  cases front' with
  | nil=>exact absurd ((List.cons.inj heq).1 ▸ List.mem_cons_self) h
  | cons b' front'=>
   obtain ⟨hb,hrest⟩:=List.cons.inj heq
   obtain ⟨hfront,htail⟩:=ih (List.not_mem_of_not_mem_cons h) (List.not_mem_of_not_mem_cons h') hrest
   exact ⟨by rw [hb,hfront],htail⟩

/-- The text that names the object: everything before the change time. -/
def identity (device inode : UInt64) : Option Int64 → Bytes
 | none=>posix1++(toChars 10 device.toNat++colon::toChars 10 inode.toNat)
 | some birth=>posix2++(toChars 10 device.toNat++colon ::
  (toChars 10 inode.toNat++colon::signedChars birth.toInt))

lemma revision_eq : revision status birth=identity status.device status.inode birth ++
 colon::signedChars (timestampNs status.changed).toInt:=by
 cases birth<;>simp [revision,identity]

lemma stable_revision:
 stableObjectIdentity (revision status birth)=identity status.device status.inode birth:=by
 have hdevice:=List.count_eq_zero_of_not_mem (colon_decimal status.device.toNat)
 have hinode:=List.count_eq_zero_of_not_mem (colon_decimal status.inode.toNat)
 have hchanged:=colon_signed (timestampNs status.changed).toInt
 rw [revision_eq]
 cases birth with
 | none=>
  have hcount:(identity status.device status.inode none).count colon=2:=by
   rw [identity,List.count_append,List.count_append,List.count_cons_self,hdevice,hinode]
   rfl
  exact identityBefore_append hcount hchanged
 | some birth=>
  have hcount:(identity status.device status.inode (some birth)).count colon=3:=by
   rw [identity,List.count_append,List.count_append,List.count_cons_self,List.count_append,
    List.count_cons_self,hdevice,hinode,List.count_eq_zero_of_not_mem (colon_signed birth.toInt)]
   rfl
  exact identityBefore_append hcount hchanged

lemma identity_tracked : trackedPrefix (revision status birth):=by
 rw [revision_eq]
 cases birth with
 | none=>exact .inl rfl
 | some birth=>exact .inr (.inl rfl)

lemma identity_iff {device device' inode inode' : UInt64}:
 identity device inode birth=identity device' inode' birth' ↔
  device=device' ∧ inode=inode' ∧ birth=birth':=by
 constructor
 · intro h
   cases birth with
   | none=>
    cases birth' with
    | none=>
     obtain ⟨hdevice,hinode⟩:=field_injective (colon_decimal _) (colon_decimal _)
      (List.append_cancel_left h)
     exact ⟨decimal_injective hdevice,decimal_injective hinode,rfl⟩
    | some other=>exact absurd (congrArg (startsWith · posix2) h) Bool.false_ne_true
   | some birth=>
    cases birth' with
    | none=>exact absurd (congrArg (startsWith · posix1) h) Bool.false_ne_true
    | some other=>
     obtain ⟨hdevice,hrest⟩:=field_injective (colon_decimal _) (colon_decimal _)
      (List.append_cancel_left h)
     obtain ⟨hinode,hbirth⟩:=field_injective (colon_decimal _) (colon_decimal _) hrest
     have hsame:birth=other:=Int64.toInt_inj.mp (signed_injective hbirth)
     exact ⟨decimal_injective hdevice,decimal_injective hinode,congrArg some hsame⟩
 · rintro ⟨rfl,rfl,rfl⟩
   rfl

lemma object_iff : sameObjectIdentity (revision left birth) (revision right birth')=true ↔
 left.device=right.device ∧ left.inode=right.inode ∧ birth=birth':=by
 rw [←identity_iff,←stable_revision left birth,←stable_revision right birth']
 constructor
 · intro h
   exact identity_of_strong h (tracked_not_file (identity_tracked left birth))
    (tracked_not_file (identity_tracked right birth'))
 · intro h
   refine same_of_stable ?_ h
   rw [stable_revision]
   cases birth<;>simp [identity,posix1,posix2]

lemma revisionChange_append {front tail : Bytes} (h:colon∉tail):
 revisionChange (front++colon::tail)=tail:=by
 rw [revisionChange,findLast_append front h]
 simp

lemma source_iff : sameSourceRevision (revision left birth) (revision right birth')=true ↔
 (left.device=right.device ∧ left.inode=right.inode ∧ birth=birth') ∧
  timestampNs left.changed=timestampNs right.changed:=by
 have hchange (status : Status) (birth : Option Int64) : revisionChange (revision status birth)=
   signedChars (timestampNs status.changed).toInt:=by
  rw [revision_eq,revisionChange_append (colon_signed _)]
 rw [sameSourceRevision,decide_eq_true_iff,hchange,hchange,object_iff]
 constructor
 · intro ⟨_,hsame,hobject⟩
   exact ⟨hobject,Int64.toInt_inj.mp (signed_injective hsame)⟩
 · intro ⟨hobject,hsame⟩
   exact ⟨signed_nonempty _,by rw [hsame],hobject⟩

/-- In the years from 1677 to 2262 no change time is clamped. -/
lemma timestampNs_exact (timestamp : Timespec)
 (h:-9223372036≤timestamp.seconds.toInt ∧ timestamp.seconds.toInt<9223372036):
 (timestampNs timestamp).toInt=timestamp.seconds.toInt*1000000000+timestamp.nanoseconds:=by
 have hsmall:=timestamp.small
 have hmax:maxTime.tdiv 1000000000=9223372036:=by decide
 have hmin:minTime.tdiv 1000000000 = -9223372036:=by decide
 rw [timestampNs,hmax,hmin,if_neg (by omega),if_neg (by omega),if_neg (by unfold maxTime; omega)]
 exact Int64.toInt_ofInt_of_le (by omega) (by omega)

end Revisions

section Tolerance

lemma signed64_some {n : ℤ} (h:minTime≤n ∧ n ≤ maxTime) : signed64 n=some n := if_pos h

lemma int64_bounds (value : Int64) : minTime≤value.toInt ∧ value.toInt ≤ maxTime:=by
 have hlow:=value.le_toInt
 have hhigh:=value.toInt_lt
 unfold minTime maxTime
 omega

lemma toNat_ofInt {n : ℤ} (h:0≤n) (hsmall:n<2 ^ 64) : (UInt64.ofInt n).toNat=n.toNat:=by
 rw [UInt64.ofInt,Int.emod_eq_of_lt h hsmall]
 exact UInt64.toNat_ofNat_of_lt' (by show n.toNat<2 ^ 64; omega)

lemma magnitude_eq (value : Int64):
 ∃ size,magnitude value=some size ∧ size.toNat=value.toInt.natAbs:=by
 have hvalue:=int64_bounds value
 unfold minTime maxTime at hvalue
 unfold magnitude
 by_cases hneg:value.toInt<0
 · have hnext:=signed64_some (n := value.toInt+1) (by unfold minTime maxTime; omega)
   have hopposite:=signed64_some (n := -(value.toInt+1)) (by unfold minTime maxTime; omega)
   refine ⟨UInt64.ofInt (-(value.toInt+1))+1,?_,?_⟩
   · rw [if_pos hneg,hnext,Option.bind_eq_bind,Option.bind_some,hopposite]
     rfl
   · rw [UInt64.toNat_add,toNat_ofInt (by omega) (by omega),UInt64.toNat_one,
      Nat.mod_eq_of_lt (by omega)]
     omega
 · rw [if_neg hneg]
   refine ⟨_,rfl,?_⟩
   rw [toNat_ofInt (by omega) (by omega)]
   omega

lemma magnitudeSum_eq {m n : UInt64} (h:m.toNat+n.toNat<2 ^ 64):
 (magnitudeSum m n).toNat=m.toNat+n.toNat:=by
 have hn:n.toNat≤18446744073709551615:=Nat.le_of_lt_succ n.toNat_lt
 have hle:n≤18446744073709551615:=UInt64.le_iff_toNat_le.mpr hn
 have hfits:¬m>18446744073709551615-n:=by
  rw [gt_iff_lt,UInt64.lt_iff_toNat_lt,UInt64.toNat_sub_of_le _ _ hle]
  simp only [UInt64.reduceToNat]
  omega
 rw [magnitudeSum,if_neg hfits,UInt64.toNat_add,Nat.mod_eq_of_lt h]

lemma distance_same {before after : Int64} (hsign:before.toInt<0 ↔ after.toInt<0):
 ∃ size,timestampDistance before after=some size ∧
  size.toNat=(before.toInt-after.toInt).natAbs:=by
 have hbefore:=int64_bounds before
 have hafter:=int64_bounds after
 unfold minTime maxTime at hbefore hafter
 rw [timestampDistance,if_pos hsign]
 split
 · rw [signed64_some (by unfold minTime maxTime; omega)]
   refine ⟨_,rfl,?_⟩
   rw [toNat_ofInt (by omega) (by omega)]
   omega
 · rw [signed64_some (by unfold minTime maxTime; omega)]
   refine ⟨_,rfl,?_⟩
   rw [toNat_ofInt (by omega) (by omega)]
   omega

/-- The signs differ, so the sum of the magnitudes is the distance and fits. -/
lemma distance_apart {before after : Int64} (hsign:¬(before.toInt<0 ↔ after.toInt<0)):
 ∃ size,timestampDistance before after=some size ∧
  size.toNat=(before.toInt-after.toInt).natAbs:=by
 have hbefore:=int64_bounds before
 have hafter:=int64_bounds after
 unfold minTime maxTime at hbefore hafter
 obtain ⟨size,hsize,hsize'⟩:=magnitude_eq before
 obtain ⟨size',hmagnitude,hmagnitude'⟩:=magnitude_eq after
 have hsum:size.toNat+size'.toNat<2 ^ 64:=by omega
 refine ⟨magnitudeSum size size',?_,?_⟩
 · rw [timestampDistance,if_neg hsign,hsize,hmagnitude]
   rfl
 · rw [magnitudeSum_eq hsum]
   omega

lemma tolerance_exact (before after : Int64) (tolerance : UInt64):
 checkedTimestamps before after tolerance=
  some (decide (|before.toInt-after.toInt| ≤ (tolerance.toNat : ℤ))):=by
 unfold checkedTimestamps
 by_cases hsame:before=after
 · rw [if_pos hsame,hsame,sub_self,abs_zero]
   simp
 · obtain ⟨size,hsize,hdistance⟩ : ∃ size,timestampDistance before after=some size ∧
     size.toNat=(before.toInt-after.toInt).natAbs:=by
    by_cases hsign:before.toInt<0 ↔ after.toInt<0
    · exact distance_same hsign
    · exact distance_apart hsign
   rw [if_neg hsame,hsize,Option.map_some,Int.abs_eq_natAbs,←hdistance]
   simp only [UInt64.le_iff_toNat_le,Nat.cast_le]

lemma tolerance_model (before after : Int64) (tolerance : UInt64):
 timestampsWithinTolerance before after tolerance.toNat=
  decide (|before.toInt-after.toInt| ≤ (tolerance.toNat : ℤ)):=by
 have hbefore:=int64_bounds before
 have hafter:=int64_bounds after
 unfold minTime maxTime at hbefore hafter
 have hsmall:(before.toInt-after.toInt).natAbs≤2 ^ 64-1:=by omega
 rw [timestampsWithinTolerance,min_eq_left hsmall,Int.abs_eq_natAbs]
 simp only [Nat.cast_le]

end Tolerance

end VoVe.RevisionIdentity
