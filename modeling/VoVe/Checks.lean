import Mathlib.Data.List.Forall2
import Mathlib.Data.List.Nodup

set_option autoImplicit false

/-! Validators that stop at the first failed requirement, and loops that check
  each element against the ones before it. -/

namespace VoVe.Checks
variable {ε α β : Type} (condition : Bool)

def require (detail : ε) : Except ε Unit:=
 if condition then .ok () else .error detail

@[simp] lemma require_eq_ok (detail : ε):
 require condition detail=.ok () ↔ condition=true:=by
 cases condition<;>simp [require]

lemma bind_eq_ok (x : Except ε α) (f : α → Except ε β) (b : β):
 (x >>= f)=.ok b ↔ ∃ a,x=.ok a ∧ f a=.ok b:=by
 cases x with
 | error e=>
  change Except.error e=Except.ok b ↔ _
  simp
 | ok a=>
  change f a=Except.ok b ↔ _
  simp

lemma bind_pair_eq_ok {γ : Type} (x : Except ε (α × γ)) (f : α × γ → Except ε β) (b : β):
 (x >>= f)=.ok b ↔ ∃ a c,x=.ok (a,c) ∧ f (a,c)=.ok b:=by
 rw [bind_eq_ok,Prod.exists]

@[simp] lemma bind_unit_eq_ok (x : Except ε Unit) (f : Unit → Except ε β) (b : β):
 (x >>= f)=.ok b ↔ x=.ok () ∧ f ()=.ok b:=by
 rw [bind_eq_ok]
 exact ⟨fun ⟨_,h⟩=>h,fun h=>⟨(),h⟩⟩

@[simp] lemma ok_bind (a : α) (f : α → Except ε β) : (Except.ok a >>= f)=f a := rfl

lemma bind_iff_of_ok {x : Except ε α} {a : α} {p : Prop} (h:∀b,x=.ok b ↔ p ∧ b=a)
 (f : α → Except ε β) (c : β) : (x >>= f)=.ok c ↔ p ∧ f a=.ok c:=by
 rw [bind_eq_ok]
 constructor
 · intro ⟨b,hb,hc⟩
   obtain ⟨hp,rfl⟩:=(h b).mp hb
   exact ⟨hp,hc⟩
 · intro ⟨hp,hc⟩
   exact ⟨a,(h a).mpr ⟨hp,rfl⟩,hc⟩

@[simp] lemma pure_eq_ok (a b : α) : (pure a : Except ε α)=.ok b ↔ a=b:=by
 change Except.ok a=Except.ok b ↔ _
 simp

lemma map_eq_ok (f : α → β) (x : Except ε α) (b : β):
 f <$> x=.ok b ↔ ∃ a,x=.ok a ∧ f a=b:=by
 cases x with
 | error e=>simp
 | ok a=>simp

variable (value : Option α)

def found (detail : ε) : Except ε α:=
 match value with
 | some a=>.ok a
 | none=>.error detail

@[simp] lemma found_eq_ok (detail : ε) (a : α):
 found value detail=.ok a ↔ value=some a:=by
 cases value<;>simp [found]

@[simp] lemma found_bind_eq_ok (detail : ε) (f : α → Except ε β) (b : β):
 (found value detail >>= f)=.ok b ↔ ∃ a,value=some a ∧ f a=.ok b:=by
 simp only [bind_eq_ok,found_eq_ok]

/-- The outcome is the value where the condition holds, and an error elsewhere. -/
def OkExactly (outcome : Except ε α) (condition : Bool) (value : α) : Prop:=
 ∀a,outcome = .ok a ↔ condition = true ∧ a = value

lemma OkExactly.iff {outcome : Except ε α} {condition : Bool} {value : α}
 (h:OkExactly outcome condition value) : outcome=.ok value ↔ condition=true:=by
 rw [h value]
 exact and_iff_left rfl

lemma okExactly_ite (value : α) (detail : ε):
 OkExactly (if condition then .ok value else .error detail) condition value:=by
 intro a
 cases condition with
 | false=>simp
 | true=>simp [eq_comm]

lemma okExactly_ok (value : α) : OkExactly (.ok value : Except ε α) true value:=by
 intro a
 simp [eq_comm]

lemma okExactly_bind {x : Except ε α} {f : α → Except ε β} {condition condition' : Bool}
 {a : α} {b : β} (hx:OkExactly x condition a) (hf:OkExactly (f a) condition' b):
 OkExactly (x >>= f) (condition && condition') b:=by
 intro b'
 rw [bind_eq_ok,Bool.and_eq_true]
 constructor
 · rintro ⟨a',ha,hb⟩
   obtain ⟨hcondition,rfl⟩:=(hx a').mp ha
   obtain ⟨hcondition',hb⟩:=(hf b').mp hb
   exact ⟨⟨hcondition,hcondition'⟩,hb⟩
 · rintro ⟨⟨hcondition,hcondition'⟩,hb⟩
   exact ⟨a,(hx a).mpr ⟨hcondition,rfl⟩,(hf b').mpr ⟨hcondition',hb⟩⟩

/-- Check each element in turn; the check may look at the elements before it. -/
def checkEach (check : List α → α → Except ε Unit) : List α → List α → Except ε Unit
 | _, []=>pure ()
 | before, x::rest=>do
  check before x
  checkEach check (before++[x]) rest

lemma checkEach_congr {check check' : List α → α → Except ε Unit} {R : α → α → Prop}
 (h:∀before before' x x',List.Forall₂ R before before' → R x x' →
  check before x=check' before' x') {before before' xs xs' : List α}
 (hbefore:List.Forall₂ R before before') (hxs:List.Forall₂ R xs xs'):
 checkEach check before xs=checkEach check' before' xs':=by
 induction hxs generalizing before before' with
 | nil=>rfl
 | cons hx _ ih=>
  simp only [checkEach]
  rw [h _ _ _ _ hbefore hx,ih (List.rel_append hbefore (.cons hx .nil))]

variable (check : List α → α → Except ε Unit)

lemma checkEach_from (before xs : List α) : checkEach check before xs=.ok () ↔
  ∀i (h:i<xs.length),check (before++xs.take i) xs[i]=.ok ():=by
 induction xs generalizing before with
 | nil=>simp [checkEach]
 | cons x rest ih=>
  simp only [checkEach,bind_unit_eq_ok,ih]
  constructor
  · rintro ⟨hx,hrest⟩ i h
    cases i with
    | zero=>simpa using hx
    | succ i=>simpa using hrest i (by simpa using h)
  · intro h
    have hx:check (before++[]) x=.ok ():=h 0 (Nat.succ_pos _)
    rw [List.append_nil] at hx
    refine ⟨hx,fun i hi=>?_⟩
    have hnext:check (before++x::rest.take i) rest[i]=.ok ():=h (i+1) (Nat.succ_lt_succ hi)
    rw [List.append_assoc]
    exact hnext

lemma checkEach_eq_ok (xs : List α) : checkEach check [] xs=.ok () ↔
  ∀i (h:i<xs.length),check (xs.take i) xs[i]=.ok ():=by
 simpa using checkEach_from check [] xs

lemma foldlM_eq_ok {σ : Type} {check : σ → α → Except ε σ} {passes : σ → α → Prop}
 {next : σ → α → σ} (h:∀s x s',check s x=.ok s' ↔ passes s x ∧ s'=next s x)
 (xs : List α) (s s' : σ) : xs.foldlM check s=.ok s' ↔
  (∀i (hi:i<xs.length),passes ((xs.take i).foldl next s) xs[i]) ∧ s'=xs.foldl next s:=by
 induction xs generalizing s with
 | nil=>
  rw [List.foldlM_nil,pure_eq_ok]
  simp [eq_comm]
 | cons x rest ih=>
  rw [List.foldlM_cons,bind_eq_ok]
  constructor
  · intro ⟨mid,hmid,hrest⟩
    obtain ⟨hx,rfl⟩:=(h s x mid).mp hmid
    obtain ⟨hall,hlast⟩:=(ih _).mp hrest
    refine ⟨fun i hi=>?_,hlast⟩
    cases i with
    | zero=>exact hx
    | succ i=>exact hall i (by simpa using hi)
  · intro ⟨hall,hlast⟩
    refine ⟨next s x,(h s x _).mpr ⟨hall 0 (Nat.succ_pos _),rfl⟩,(ih _).mpr ⟨?_,hlast⟩⟩
    intro i hi
    exact hall (i+1) (Nat.succ_lt_succ hi)

lemma foldlM_bind_eq_ok {σ : Type} {check : σ → α → Except ε σ} {passes : σ → α → Prop}
 {next : σ → α → σ} (h:∀s x s',check s x=.ok s' ↔ passes s x ∧ s'=next s x)
 (xs : List α) (s : σ) (f : σ → Except ε β) (b : β) : (xs.foldlM check s >>= f)=.ok b ↔
  (∀i (hi:i<xs.length),passes ((xs.take i).foldl next s) xs[i]) ∧
   f (xs.foldl next s)=.ok b:=by
 rw [bind_eq_ok]
 constructor
 · intro ⟨last,hlast,hf⟩
   obtain ⟨hall,rfl⟩:=(foldlM_eq_ok h xs s last).mp hlast
   exact ⟨hall,hf⟩
 · intro ⟨hall,hf⟩
   exact ⟨_,(foldlM_eq_ok h xs s _).mpr ⟨hall,rfl⟩,hf⟩

lemma keys_nodup (key : α → β) (xs : List α):
 (∀i (h:i<xs.length),key xs[i]∉(xs.take i).map key) ↔ (xs.map key).Nodup:=by
 rw [List.nodup_iff_pairwise_ne,List.pairwise_iff_getElem]
 constructor
 · intro h i j hi hj hij heq
   have hi':i<xs.length:=by simpa using hi
   have hj':j<xs.length:=by simpa using hj
   refine h j hj' (List.mem_map.mpr ⟨xs[i],?_,by simpa using heq⟩)
   exact List.mem_take_iff_getElem.mpr ⟨i,by omega,rfl⟩
 · intro h j hj hmem
   obtain ⟨x,hx,hkey⟩:=List.mem_map.mp hmem
   obtain ⟨i,hi,rfl⟩:=List.mem_take_iff_getElem.mp hx
   exact h i j (by simp; omega) (by simpa using hj) (by omega) (by simpa using hkey)

end VoVe.Checks
