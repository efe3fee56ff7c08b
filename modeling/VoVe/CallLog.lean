import Mathlib.Data.List.Basic

set_option autoImplicit false

/-! Computations that make calls. Each call is answered from the log of the calls before it and is
written to its end; a computation may end without a result, as where a call throws. -/

namespace VoVe.CallLog

def Session (ρ α : Type) : Type := List ρ → Option α × List ρ

variable {ρ α β : Type}

instance : Monad (Session ρ) where
 pure a := fun log=>(some a,log)
 bind m f := fun log =>
  match m log with
  | (none,log)=>(none,log)
  | (some a,log)=>f a log

/-- A call: what is written for it, and its answer. -/
def call (record : List ρ → ρ × Option α) : Session ρ α:=
 fun log=>((record log).2,log++[(record log).1])

/-- The log goes on with calls of a kind. -/
def Extends (allowed : ρ → Prop) (log next : List ρ) : Prop:=
 ∃ new,next = log++new ∧ ∀record ∈ new,allowed record

section Extends
variable {allowed other : ρ → Prop} {log next last : List ρ}

lemma Extends.refl (allowed : ρ → Prop) (log : List ρ) : Extends allowed log log:=
 ⟨[],(List.append_nil log).symm,nofun⟩

section
variable (h:Extends allowed log next)
include h

lemma Extends.trans (hnext:Extends allowed next last) : Extends allowed log last:=by
 obtain ⟨first,rfl,hfirst⟩:=h
 obtain ⟨second,rfl,hsecond⟩:=hnext
 refine ⟨first++second,List.append_assoc log first second,?_⟩
 intro record hrecord
 exact (List.mem_append.mp hrecord).elim (hfirst record) (hsecond record)

lemma Extends.mono
 (hallowed:∀record,allowed record → other record) : Extends other log next:=by
 obtain ⟨new,rfl,hnew⟩:=h
 exact ⟨new,rfl,fun record hrecord=>hallowed record (hnew record hrecord)⟩

lemma Extends.mem {record : ρ} (hrecord:record∈next) : record∈log ∨ allowed record:=by
 obtain ⟨new,rfl,hnew⟩:=h
 exact (List.mem_append.mp hrecord).imp_right (hnew record)

lemma Extends.isPrefix : log <+: next:=by
 obtain ⟨new,rfl,-⟩:=h
 exact List.prefix_append log new

end

lemma extends_call {record : ρ} (h:allowed record) : Extends allowed log (log++[record]):=
 ⟨[record],rfl,fun _ hmem=>List.mem_singleton.mp hmem ▸ h⟩

lemma split_cases {new earlier later : List ρ} {record : ρ}
 (h:log++new=earlier++record::later):
 (∃ middle,log=earlier++record::middle ∧ later=middle++new) ∨
  ∃ first,earlier=log++first ∧ new=first++record::later:=by
 obtain ⟨first,hearlier,hnew⟩ | ⟨first,hlog,hlater⟩:=List.append_eq_append_iff.mp h
 · exact .inr ⟨first,hearlier,hnew⟩
 · cases first with
   | nil=>
    rw [List.append_nil] at hlog
    exact .inr ⟨[],by rw [List.append_nil,hlog],hlater.symm⟩
   | cons head middle=>
    rw [List.cons_append] at hlater
    obtain ⟨rfl,rfl⟩:=List.cons.inj hlater
    exact .inl ⟨middle,hlog,rfl⟩

end Extends

/-- Whatever the log, the computation makes only calls of a kind. -/
def Only (allowed : ρ → Prop) (m : Session ρ α) : Prop := ∀log,Extends allowed log (m log).2

/-- What is true of the result, where there is one, and of the log then. -/
def Ends (m : Session ρ α) (log : List ρ) (post : α → List ρ → Prop) : Prop:=
 ∀a,(m log).1 = some a → post a (m log).2

section Rules
variable {allowed other : ρ → Prop} {log : List ρ} {m : Session ρ α} {f : α → Session ρ β}
 {post mid : α → List ρ → Prop}

lemma only_pure (a : α) : Only allowed (pure a : Session ρ α) := Extends.refl allowed

lemma only_call {record : List ρ → ρ × Option α} (h:∀log,allowed (record log).1):
 Only allowed (call record):=
 fun log=>extends_call (h log)

lemma only_bind (hm:Only allowed m) (hf:∀a,Only allowed (f a)) : Only allowed (m >>= f):=by
 intro log
 have hfirst:=hm log
 change Extends allowed log (match m log with
  | (none,log)=>(none,log)
  | (some a,log)=>f a log).2
 generalize m log=ended at hfirst ⊢
 obtain ⟨result,next⟩:=ended
 cases result with
 | none=>exact hfirst
 | some a=>exact hfirst.trans (hf a next)

lemma only_mono (h:Only allowed m) (hallowed:∀record,allowed record → other record):
 Only other m:=
 fun log=>(h log).mono hallowed

lemma ends_pure {a : α} (h:post a log) : Ends (pure a) log post:=by
 intro b hb
 rw [←Option.some.inj hb]
 exact h

lemma ends_call {record : List ρ → ρ × Option α}
 (h:∀a,(record log).2=some a → post a (log++[(record log).1])):
 Ends (call record) log post:=
 h

lemma ends_bind {post : β → List ρ → Prop} (hm:Ends m log mid)
 (hf:∀a next,mid a next → Ends (f a) next post) : Ends (m >>= f) log post:=by
 intro b
 unfold Ends at hm
 change (match m log with
  | (none,log)=>(none,log)
  | (some a,log)=>f a log).1=some b → post b (match m log with
  | (none,log)=>(none,log)
  | (some a,log)=>f a log).2
 generalize m log=ended at hm ⊢
 obtain ⟨result,next⟩:=ended
 cases result with
 | none=>exact nofun
 | some a=>exact hf a next (hm a rfl) b

/-- What is true whatever the first computation comes to. -/
lemma ends_after {post : β → List ρ → Prop} (hf:∀a next,Ends (f a) next post):
 Ends (m >>= f) log post:=by
 have hany:Ends m log fun _ _=>True:=fun _ _=>trivial
 exact ends_bind hany fun a next _=>hf a next

lemma ends_mono {post' : α → List ρ → Prop} (h:Ends m log post)
 (hpost:∀a next,post a next → post' a next) : Ends m log post':=
 fun a ha=>hpost a _ (h a ha)

lemma ends_of_only (h:Only allowed m) (log : List ρ):
 Ends m log fun _ next=>Extends allowed log next:=
 fun _ _=>h log

end Rules

end VoVe.CallLog
