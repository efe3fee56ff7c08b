import Mathlib.Data.List.Chain
import Mathlib.Data.List.Lex
import Mathlib.Data.List.Sort

set_option autoImplicit false

/-! Lists in lexicographic order, the lists below a list in a hierarchy with a
  separator, and sorted lists of which only neighbours are compared. -/

namespace VoVe.KeyOrder

section Below
variable {α : Type*}

/-- What follows the upper list is nothing, or starts at a separator. -/
def Below (separator : α) (upper lower : List α) : Prop:=
 ∃ rest,lower = upper++rest ∧
  (rest = [] ∨ upper.getLast? = some separator ∨ rest.head? = some separator)

lemma Below.refl (separator : α) (keys : List α) : Below separator keys keys:=
 ⟨[],by simp,.inl rfl⟩

lemma below_map {β : Type*} {f : α → β} (hf:Function.Injective f) (separator : α)
 (u lower : List α):
 Below (f separator) (u.map f) (lower.map f) ↔ Below separator u lower:=by
 have hlast:(u.map f).getLast?=some (f separator) ↔ u.getLast?=some separator:=by
  simp [List.getLast?_map,hf.eq_iff]
 have hhead (rest : List α):
   (rest.map f).head?=some (f separator) ↔ rest.head?=some separator:=by
  simp [List.head?_map,hf.eq_iff]
 constructor
 · intro ⟨rest,hlower,hrest⟩
   obtain ⟨upper',rest',rfl,hupper,rfl⟩:=List.map_eq_append_iff.mp hlower
   obtain rfl:=hf.list_map hupper
   rw [List.map_eq_nil_iff,hlast,hhead] at hrest
   exact ⟨rest',rfl,hrest⟩
 · intro ⟨rest,hlower,hrest⟩
   refine ⟨rest.map f,by rw [hlower,List.map_append],?_⟩
   rwa [List.map_eq_nil_iff,hlast,hhead]

end Below

section Order
variable {α : Type*} [LinearOrder α] {u upper lower middle : List α}

lemma cons_le_cons_iff {x y : α} {xs ys : List α} : x::xs≤y::ys ↔ x<y ∨ x=y ∧ xs≤ys:=by
 rw [←not_lt,List.cons_lt_cons_iff,←not_lt]
 obtain hlt | rfl | hgt:=lt_trichotomy x y
 · simp [hlt,hlt.not_gt,hlt.ne']
 · simp
 · simp [hgt,hgt.not_gt,hgt.ne']

lemma nil_le (keys : List α) : []≤keys := not_lt.mp (List.not_lt_nil keys)

lemma le_nil {keys : List α} (h:keys ≤ []) : keys=[] := le_antisymm h (nil_le keys)

lemma le_extension (keys rest : List α) : keys≤keys++rest:=by
 induction keys with
 | nil=>exact nil_le _
 | cons x xs ih=>exact cons_le_cons_iff.mpr (.inr ⟨rfl,ih⟩)

lemma extends_of_between {rest : List α} (hupper:u ≤ middle)
 (hlower:middle≤u++rest) : ∃ tail,middle=u++tail ∧ tail ≤ rest:=by
 induction u generalizing middle with
 | nil=>exact ⟨middle,rfl,hlower⟩
 | cons x xs ih=>
  cases middle with
  | nil=>exact absurd (le_nil hupper) (List.cons_ne_nil x xs)
  | cons y ys=>
   rw [List.cons_append,cons_le_cons_iff] at hlower
   rw [cons_le_cons_iff] at hupper
   have hxy:y=x:=by
    apply le_antisymm
    · exact hlower.elim le_of_lt fun h=>h.1.le
    · exact hupper.elim le_of_lt fun h=>h.1.le
   subst hxy
   have htail:ys≤xs++rest:=hlower.elim (fun h=>absurd h (lt_irrefl _)) And.right
   have hxs:xs≤ys:=hupper.elim (fun h=>absurd h (lt_irrefl _)) And.right
   obtain ⟨tail,rfl,hle⟩:=ih hxs htail
   exact ⟨tail,rfl,hle⟩

lemma Below.le {separator : α} (h:Below separator u lower) : u≤lower:=by
 obtain ⟨rest,rfl,-⟩:=h
 exact le_extension u rest

lemma Below.between {separator : α} (hleast:∀x,separator≤x)
 (h:Below separator u lower) (hupper:u ≤ middle) (hlower:middle≤lower):
 Below separator u middle:=by
 obtain ⟨rest,rfl,hrest⟩:=h
 obtain ⟨tail,rfl,hle⟩:=extends_of_between hupper hlower
 refine ⟨tail,rfl,?_⟩
 obtain rfl | hlast | hhead:=hrest
 · exact .inl (le_nil hle)
 · exact .inr (.inl hlast)
 · cases tail with
   | nil=>exact .inl rfl
   | cons y ys=>
    obtain ⟨zs,rfl⟩:=List.head?_eq_some_iff.mp hhead
    have hy:y ≤ separator:=(cons_le_cons_iff.mp hle).elim le_of_lt fun h=>h.1.le
    exact .inr (.inr (congrArg some (le_antisymm hy (hleast y))))

end Order

section Neighbours
variable {α : Type*} {r p : α → α → Prop}

/-- In a sorted list a relation that what lies between inherits is excluded for
  all pairs when it is for the neighbours. -/
lemma pairwise_of_neighbours (hbetween:∀ {a b c},p a b → r a c → r c b → p a c)
 {keys : List α} (hsorted:keys.Pairwise r) (hchain:keys.IsChain fun a b=>¬p a b):
 keys.Pairwise fun a b=>¬p a b:=by
 induction keys with
 | nil=>exact List.Pairwise.nil
 | cons a rest ih=>
  rw [List.pairwise_cons] at hsorted
  have hrest:=ih hsorted.2 hchain.tail
  rw [List.pairwise_cons]
  refine ⟨?_,hrest⟩
  intro b hb hp
  cases rest with
  | nil=>cases hb
  | cons c tail=>
   apply (List.isChain_cons_cons.mp hchain).1
   obtain rfl | htail:=List.mem_cons.mp hb
   · exact hp
   · exact hbetween hp (hsorted.1 c List.mem_cons_self)
      ((List.pairwise_cons.mp hsorted.2).1 b htail)

end Neighbours

end VoVe.KeyOrder
