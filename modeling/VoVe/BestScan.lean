import Mathlib.Data.Nat.Notation
import Mathlib.Order.Lattice

set_option autoImplicit false

/-! A loop over a list that keeps the best admitted item seen so far and its index. -/

namespace VoVe.BestScan

variable {α : Type} (admitted : α → Bool) (better : α → α → Bool)

def scan : List α → ℕ → Option (ℕ × α) → Option (ℕ × α)
 | [], _, best=>best
 | item::rest, index, best=>
  scan rest (index+1)
   (if admitted item && best.all (fun found=>better item found.2) then some (index,item)
    else best)

section Found
variable {admitted better}

lemma scan_found (items : List α) (n : ℕ) (best : Option (ℕ × α)) {i : ℕ} {item : α}
 (h:scan admitted better items n best=some (i,item)):
 best=some (i,item) ∨ ∃ k,i=n+k ∧ items[k]?=some item ∧ admitted item=true:=by
 induction items generalizing n best with
 | nil=>exact .inl h
 | cons head rest ih=>
  rw [scan] at h
  cases ih _ _ h with
  | inr hrest=>
   obtain ⟨k,hi,hk,hadmitted⟩:=hrest
   exact .inr ⟨k+1,by omega,by simpa using hk,hadmitted⟩
  | inl hbest=>
   by_cases hhead:(admitted head && best.all (fun found=>better head found.2))=true
   · rw [if_pos hhead] at hbest
     cases hbest
     exact .inr ⟨0,rfl,rfl,((Bool.and_eq_true _ _).mp hhead).1⟩
   · rw [if_neg hhead] at hbest
     exact .inl hbest

lemma scan_isSome (items : List α) (n : ℕ) (best : Option (ℕ × α))
 (h:best.isSome ∨ ∃ item∈items,admitted item=true):
 (scan admitted better items n best).isSome:=by
 induction items generalizing n best with
 | nil=>
  cases h with
  | inl hbest=>exact hbest
  | inr hitem=>obtain ⟨item,hmem,_⟩ := hitem; cases hmem
 | cons head rest ih=>
  rw [scan]
  apply ih
  by_cases hhead:(admitted head && best.all (fun found=>better head found.2))=true
  · rw [if_pos hhead]
    exact .inl rfl
  · rw [if_neg hhead]
    cases best with
    | some found=>exact .inl rfl
    | none=>
     cases h with
     | inl hbest=>cases hbest
     | inr hitem=>
      obtain ⟨item,hmem,hadmitted⟩:=hitem
      cases hmem with
      | head=>simp [hadmitted] at hhead
      | tail _ hmem=>exact .inr ⟨item,hmem,hadmitted⟩

end Found

section Least
variable {admitted better} {κ : Type} [LinearOrder κ] {key : α → κ}
 (hbetter:∀first second,better first second=true ↔ key first<key second)
include hbetter

lemma scan_least (items : List α) (n : ℕ) (best : Option (ℕ × α)) {i : ℕ} {item : α}
 (h:scan admitted better items n best=some (i,item)):
 (∀found∈best,key item≤key found.2) ∧
  ∀other∈items,admitted other=true → key item≤key other:=by
 induction items generalizing n best with
 | nil=>
  rw [scan] at h
  subst h
  exact ⟨fun found hfound=>by cases hfound; exact le_refl _,
   fun other hother=>by cases hother⟩
 | cons head rest ih=>
  rw [scan] at h
  have hrest:=ih _ _ h
  by_cases hhead:(admitted head && best.all (fun found=>better head found.2))=true
  · rw [if_pos hhead] at hrest
    have hle:key item≤key head:=hrest.1 _ rfl
    have hall:=((Bool.and_eq_true _ _).mp hhead).2
    constructor
    · intro found hfound
      rw [Option.mem_def.mp hfound] at hall
      exact hle.trans ((hbetter _ _).mp hall).le
    · intro other hother hadmitted
      cases hother with
      | head=>exact hle
      | tail _ hother=>exact hrest.2 other hother hadmitted
  · rw [if_neg hhead] at hrest
    constructor
    · exact hrest.1
    · intro other hother hadmitted
      cases hother with
      | tail _ hother=>exact hrest.2 other hother hadmitted
      | head=>
       cases best with
       | none=>simp [hadmitted] at hhead
       | some found=>
        have hnot:¬key head<key found.2:=by
         intro hlt
         exact hhead (by simp [hadmitted,(hbetter _ _).mpr hlt])
        exact (hrest.1 found rfl).trans (not_lt.mp hnot)

end Least

lemma eraseIdx_split (items : List α) {n : ℕ} {item : α} (h:items[n]?=some item):
 ∃ front back,items=front++item::back ∧ items.eraseIdx n=front++back:=by
 induction items generalizing n with
 | nil=>cases h
 | cons head rest ih=>
  cases n with
  | zero=>
   cases h
   exact ⟨[],rest,rfl,rfl⟩
  | succ n=>
   obtain ⟨front,back,hitems,herased⟩:=ih h
   exact ⟨head::front,back,congrArg (head :: ·) hitems,congrArg (head :: ·) herased⟩

end VoVe.BestScan
