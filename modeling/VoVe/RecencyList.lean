import Mathlib.Algebra.Order.BigOperators.Group.List
import Mathlib.Algebra.Order.Ring.Nat
import Mathlib.Data.List.Induction
import Mathlib.Tactic.Common

set_option autoImplicit false

/-! Lists kept in the order of use, the element used last first, with a bound on their
  number and a bound on their total weight. -/

namespace VoVe.RecencyList
variable {K E : Type} [DecidableEq K]

section Operations
variable (key : E → K) (w weight : E → ℕ) (count bytes : ℕ)

def drop (k : K) (elements : List E) : List E := elements.filter (key ·≠k)

/-- The element with the key goes to the front. -/
def touch (k : K) (elements : List E) : List E:=
 match elements.find? (key · = k) with
 | none=>elements
 | some element=>element::drop key k elements

def total (elements : List E) : ℕ := (elements.map weight).sum

/-- One of the two bounds is exceeded. -/
def Exceeds (elements : List E) : Prop := count < elements.length ∨ bytes < total weight elements

instance (elements : List E) : Decidable (Exceeds weight count bytes elements):=by
 unfold Exceeds
 infer_instance

/-- Elements are taken from the back while a bound is exceeded. -/
def evict (elements : List E) : List E:=
 if _h : Exceeds weight count bytes elements then evict elements.dropLast else elements
 termination_by elements.length
 decreasing_by
  have hne:elements≠[]:=by
   intro hnone
   rw [hnone] at _h
   simp [Exceeds,total] at _h
  rw [List.length_dropLast]
  have hpos:=List.length_pos_of_ne_nil hne
  omega

/-- A new element goes to the front; an old one with its key is dropped first. -/
def put (element : E) (elements : List E) : List E:=
 evict weight count bytes (element::drop key (key element) elements)

end Operations

section Evict
variable {w weight : E → ℕ} {count bytes : ℕ} {elements kept : List E} {element : E}

lemma total_cons (element : E) (elements : List E):
 total w (element::elements)=w element+total w elements:=by
 simp [total]

lemma total_le (h:kept.Sublist elements) : total w kept≤total w elements:=
 (h.map w).sum_le_sum fun _ _=>Nat.zero_le _

lemma Exceeds.mono (h:kept.Sublist elements) (hexceeds:Exceeds w count bytes kept):
 Exceeds w count bytes elements:=by
 have hlength:=h.length_le
 have htotal:=@total_le E w elements kept h
 unfold Exceeds at hexceeds ⊢
 omega

lemma evict_of_exceeds (h:Exceeds w count bytes elements):
 evict w count bytes elements=evict w count bytes elements.dropLast:=by
 rw [evict,dif_pos h]

lemma evict_of_not (h:¬Exceeds w count bytes elements):
 evict w count bytes elements=elements:=by
 rw [evict,dif_neg h]

lemma evict_within (elements : List E):
 ¬Exceeds w count bytes (evict w count bytes elements):=by
 induction elements using List.reverseRecOn with
 | nil=>
  have hfits:¬Exceeds w count bytes ([] : List E):=by simp [Exceeds,total]
  rwa [evict_of_not hfits]
 | append_singleton front last ih=>
  by_cases h:Exceeds w count bytes (front++[last])
  · rwa [evict_of_exceeds h,List.dropLast_concat]
  · rwa [evict_of_not h]

lemma evict_longest (h:kept <+: elements) (hfits:¬Exceeds w count bytes kept):
 kept <+: evict w count bytes elements:=by
 induction elements using List.reverseRecOn with
 | nil=>
  rw [List.prefix_nil] at h
  exact h ▸ List.nil_prefix
 | append_singleton front last ih=>
  by_cases hexceeds:Exceeds w count bytes (front++[last])
  · rw [evict_of_exceeds hexceeds,List.dropLast_concat]
    obtain hwhole | hpart:=List.prefix_concat_iff.mp h
    · exact absurd (hwhole ▸ hexceeds) hfits
    · exact ih hpart
  · rwa [evict_of_not hexceeds]

lemma evict_head (hcount:count≠0) (hweight:w element≤bytes):
 (evict w count bytes (element::elements)).head?=some element:=by
 have hfits:¬Exceeds w count bytes [element]:=by
  simp [Exceeds,total]
  omega
 have hprefix:[element] <+: element::elements:=⟨elements,rfl⟩
 obtain ⟨rest,hrest⟩:=evict_longest hprefix hfits
 rw [←hrest]
 rfl

end Evict

end VoVe.RecencyList
