import Mathlib.Algebra.BigOperators.Group.List.Basic
import Mathlib.Data.List.Induction
import Mathlib.Data.UInt

set_option autoImplicit false

/-! Totals of 64-bit sizes that are guarded against wrapping. -/

namespace VoVe.ByteTotals

lemma sub_room {total size : UInt64}:
 size≤0xffffffffffffffff - total ↔ total.toNat+size.toNat<2 ^ 64:=by
 have hlt:=total.toNat_lt
 have hle:total≤0xffffffffffffffff:=by
  rw [UInt64.le_iff_toNat_le]
  exact Nat.le_pred_of_lt hlt
 rw [UInt64.le_iff_toNat_le,UInt64.toNat_sub_of_le _ _ hle]
 simp only [UInt64.reduceToNat]
 omega

lemma toNat_sum (xs : List UInt64)
 (h:∀i (hi:i<xs.length),(xs.take i).sum.toNat+xs[i].toNat<2 ^ 64):
 xs.sum.toNat=(xs.map UInt64.toNat).sum:=by
 induction xs using List.reverseRecOn with
 | nil=>rfl
 | append_singleton before x ih=>
  have hlast:=h before.length (by simp)
  rw [List.take_left,List.getElem_concat_length rfl] at hlast
  have hbefore:before.sum.toNat=(before.map UInt64.toNat).sum:=by
   apply ih
   intro i hi
   have hstep:=h i (by simp; omega)
   rwa [List.take_append_of_le_length (by omega),List.getElem_append_left hi] at hstep
  have hsum:(before++[x]).sum=before.sum+x:=by simp
  rw [hsum,UInt64.toNat_add,Nat.mod_eq_of_lt hlast,hbefore]
  simp

end VoVe.ByteTotals
