import Mathlib.Data.Nat.ModEq
import VoVe.BatchRenameCoordinator
import VoVe.FileTransferCoordinator

set_option autoImplicit false

/-! The operation identifiers of the steps of one transaction are distinct. -/

namespace VoVe.StepIdentifiers
open ByteCodec TransferTransaction BatchTransaction

/-- The product and the step code that are mixed into the identifier of the operation. -/
def salt (code : UInt8) (index : ℕ) : UInt64:=
 ((0x9e3779b97f4a7c15 : UInt64)*UInt64.ofNat (index+1)) ^^^ (code.toUInt64 <<< 56)

variable {operation a b : UInt64} {code other : UInt8} {index later : ℕ}

lemma xor_cancel (h:operation ^^^ a=operation ^^^ b) : a=b:=by
 have hleft:=congrArg (operation ^^^ ·) h
 simpa only [←UInt64.xor_assoc,UInt64.xor_self,UInt64.zero_xor] using hleft

lemma toNat_code (code : UInt8) : (code.toUInt64 <<< 56).toNat=code.toNat*2 ^ 56:=by
 have hlt:=code.toNat_lt
 rw [UInt64.toNat_shiftLeft,UInt8.toNat_toUInt64,Nat.shiftLeft_eq]
 exact Nat.mod_eq_of_lt (by simp only [UInt64.reduceToNat,Nat.reduceMod]; omega)

/-- The step code does not reach the low 56 bits. -/
lemma salt_low (code : UInt8) (index : ℕ):
 (salt code index).toNat%2 ^ 56=0x9e3779b97f4a7c15*(index+1)%2 ^ 56:=by
 rw [salt,UInt64.toNat_xor,Nat.xor_mod_two_pow,toNat_code,Nat.mul_mod_left,Nat.xor_zero]
 simp only [UInt64.toNat_mul,UInt64.toNat_ofNat',UInt64.reduceToNat]
 omega

/-- An odd multiplier is injective modulo a power of two. -/
lemma product_injective {m n : ℕ} (hm:m<2 ^ 56) (hn:n<2 ^ 56)
 (h:0x9e3779b97f4a7c15*m%2 ^ 56=0x9e3779b97f4a7c15*n%2 ^ 56) : m=n:=by
 have hcancel:m ≡ n [MOD 2 ^ 56]:=
  Nat.ModEq.cancel_left_of_coprime (c := 0x9e3779b97f4a7c15) (by decide) h
 rw [Nat.ModEq,Nat.mod_eq_of_lt hm,Nat.mod_eq_of_lt hn] at hcancel
 exact hcancel

lemma salt_injective (hindex:index+1<2 ^ 56) (hlater:later+1<2 ^ 56)
 (h:salt code index=salt other later) : code=other ∧ index=later:=by
 have hlow:=salt_low code index
 rw [h,salt_low] at hlow
 have hsame:=product_injective hlater hindex hlow
 obtain rfl : index=later:=(Nat.succ.inj hsame).symm
 unfold salt at h
 have hshift:=xor_cancel h
 have hcode:=congrArg UInt64.toNat hshift
 rw [toNat_code,toNat_code] at hcode
 exact ⟨UInt8.toNat.inj (Nat.eq_of_mul_eq_mul_right (Nat.two_pow_pos 56) hcode),rfl⟩

lemma salt_ne_zero (hindex:index+1<2 ^ 56) : salt code index≠0:=by
 intro h
 have hlow:=salt_low code index
 rw [h] at hlow
 have hzero:=product_injective (m := 0) (by decide) hindex (by simpa using hlow)
 omega

/-- What both functions compute of a step code and an index. -/
def mixed (operation : UInt64) (code : UInt8) (index : ℕ) : UInt64:=
 let mix : UInt64 := 0x9e3779b97f4a7c15
 let value:=operation ^^^ (mix*UInt64.ofNat (index+1)) ^^^ (code.toUInt64 <<< 56)
 if value = 0 then operation else value

lemma mixed_eq : mixed operation code index=
 if operation ^^^ salt code index=0 then operation else operation ^^^ salt code index:=by
 have hvalue:=UInt64.xor_assoc operation
  (0x9e3779b97f4a7c15*UInt64.ofNat (index+1)) (code.toUInt64 <<< 56)
 unfold mixed salt
 rw [←hvalue]

lemma mixed_injective (hindex:index+1<2 ^ 56) (hlater:later+1<2 ^ 56)
 (h:mixed operation code index=mixed operation other later):
 code=other ∧ index=later:=by
 have hkept {c : UInt8} {i : ℕ} (hi:i+1<2 ^ 56) : operation ^^^ salt c i≠operation:=by
  intro hsame
  rw [←UInt64.xor_zero (a := operation),UInt64.xor_assoc,UInt64.zero_xor] at hsame
  exact salt_ne_zero hi (xor_cancel hsame)
 apply salt_injective hindex hlater
 rw [mixed_eq,mixed_eq] at h
 split at h
 · next hzero =>
  split at h
  · next hother => exact xor_cancel (hzero.trans hother.symm)
  · exact absurd h.symm (hkept hlater)
 · next hvalue =>
  split at h
  · exact absurd h (hkept hindex)
  · exact xor_cancel h

lemma mixed_ne_zero (h:operation≠0) : mixed operation code index≠0:=by
 rw [mixed_eq]
 split
 · exact h
 · assumption

/-- Below a limit, the identifiers of all steps at all indexes are distinct and not zero. -/
def DistinctIds {α : Type} (limit : ℕ) (id : α → ℕ → UInt64) : Prop:=
 ∀step index,index < limit → id step index≠0 ∧
  ∀other later,later < limit → id step index = id other later → step = other ∧ index = later

lemma distinctIds {α : Type} [DecidableEq α] [WireEnum α] {limit : ℕ} (hlimit:limit<2 ^ 56)
 (h:operation≠0) : DistinctIds limit fun (step : α)=>mixed operation (enumCode step):=by
 intro step index hindex
 refine ⟨mixed_ne_zero h,fun other later hlater hsame=>?_⟩
 obtain ⟨hcode,hplace⟩:=mixed_injective (by omega) (by omega) hsame
 have hdecoded:=enumOfCode_enumCode step
 rw [hcode,enumOfCode_enumCode] at hdecoded
 exact ⟨(Option.some.inj hdecoded).symm,hplace⟩

theorem step_ids_distinct : (∀transaction : FileTransferTransaction,transaction.operationId≠0 →
  DistinctIds kMaximumFileTransferItems
   (FileTransferCoordinator.stepOperationId transaction)) ∧
 ∀transaction : BatchRenameTransaction,transaction.operationId≠0 →
  DistinctIds kMaximumBatchRenameItems
   (BatchRenameCoordinator.stepOperationId transaction):=by
 constructor
 · intro transaction h
   exact distinctIds (by decide) h
 · intro transaction h
   exact distinctIds (by decide) h

end VoVe.StepIdentifiers
