import Mathlib.Data.Nat.Notation
import Mathlib.Logic.Basic

set_option autoImplicit false

/-! Programs that issue operations against an outside world, and a crash logic
  for them: a run may complete, or it may be cut at any operation. -/

namespace VoVe.EffectProgram

/-- A program either has finished or issues one operation and continues with
  the reply. -/
inductive Prog (Op : Type) (Reply : Op → Type) (α : Type) where
 | done (a : α)
 | call (o : Op) (next : Reply o → Prog Op Reply α)

variable {Op : Type} {Reply : Op → Type} {α β σ : Type}

namespace Prog

def bind : Prog Op Reply α → (α → Prog Op Reply β) → Prog Op Reply β
 | .done a, f=>f a
 | .call o next, f=>.call o fun r=>(next r).bind f

instance : Monad (Prog Op Reply) where
 pure:=.done
 bind:=Prog.bind

/-- Issue one operation and return its reply. -/
def issue (o : Op) : Prog Op Reply (Reply o) := .call o .done

lemma bind_done (p : Prog Op Reply α) : p.bind .done=p:=by
 induction p with
 | done a=>rfl
 | call o next ih=>exact congrArg (Prog.call o) (funext ih)

lemma bind_assoc {γ : Type} (p : Prog Op Reply α) (f : α → Prog Op Reply β)
 (g : β → Prog Op Reply γ) : (p.bind f).bind g=p.bind fun a=>(f a).bind g:=by
 induction p with
 | done a=>rfl
 | call o next ih=>exact congrArg (Prog.call o) (funext ih)

instance : LawfulMonad (Prog Op Reply) := LawfulMonad.mk' _
 bind_done (fun _ _=>rfl) bind_assoc

/-- Run against a handler that answers every operation from a state. -/
def run (handle:(o : Op) → σ → Reply o × σ) : Prog Op Reply α → σ → α × σ
 | .done a, s=>(a,s)
 | .call o next, s=>(next (handle o s).1).run handle (handle o s).2

variable (handle:(o : Op) → σ → Reply o × σ)

@[simp] lemma run_pure (a : α) (s : σ):
 (pure a : Prog Op Reply α).run handle s=(a,s) := rfl

@[simp] lemma run_issue (o : Op) (s : σ):
 (issue o).run handle s=handle o s := rfl

@[simp] lemma run_bind (p : Prog Op Reply α)
 (f : α → Prog Op Reply β) (s : σ):
 (p >>= f).run handle s=(f (p.run handle s).1).run handle (p.run handle s).2:=by
 induction p generalizing s with
 | done a=>rfl
 | call o next ih=>exact ih (handle o s).1 (handle o s).2

@[simp] lemma run_map (f : α → β)
 (p : Prog Op Reply α) (s : σ):
 (f <$> p).run handle s=(f (p.run handle s).1,(p.run handle s).2):=by
 rw [←bind_pure_comp,run_bind,run_pure]

/-- The state after the handler answered the first `n` operations. -/
def runFor (handle:(o : Op) → σ → Reply o × σ) : ℕ → Prog Op Reply α → σ → σ
 | n+1, .call o next, s=>(next (handle o s).1).runFor handle n (handle o s).2
 | _, _, s=>s

end Prog

/-- What the outside may do: the replies it may give, with the state each one
  leaves, and the states a crash during an operation may leave. -/
structure World (Op : Type) (Reply : Op → Type) (σ : Type) where
 answers : (o : Op) → σ → Reply o → σ → Prop
 cut : Op → σ → σ → Prop

inductive Completes (W : World Op Reply σ) : Prog Op Reply α → σ → α → σ → Prop where
 | done (a : α) (s : σ) : Completes W (.done a) s a s
 | call {o : Op} {next : Reply o → Prog Op Reply α} {s t u : σ} {r : Reply o} {a : α}
   (reply : W.answers o s r t) (rest : Completes W (next r) t a u):
   Completes W (.call o next) s a u

/-- A crash comes before an operation, during it, or later in the run. -/
inductive Interrupted (W : World Op Reply σ) : Prog Op Reply α → σ → σ → Prop where
 | here (p : Prog Op Reply α) (s : σ) : Interrupted W p s s
 | during {o : Op} {next : Reply o → Prog Op Reply α} {s t : σ}
   (torn : W.cut o s t) : Interrupted W (.call o next) s t
 | later {o : Op} {next : Reply o → Prog Op Reply α} {s t u : σ} {r : Reply o}
   (reply : W.answers o s r t) (rest : Interrupted W (next r) t u):
   Interrupted W (.call o next) s u

/-- The state a run leaves behind, whether it completed or was cut. -/
def Leaves (W : World Op Reply σ) (p : Prog Op Reply α) (s t : σ) : Prop:=
 Interrupted W p s t ∨ ∃ a,Completes W p s a t

lemma Completes.leaves {W : World Op Reply σ} {p : Prog Op Reply α} {s t : σ} {a : α}
 (h:Completes W p s a t) : Leaves W p s t := .inr ⟨a,h⟩

/-- Weakest precondition for "every state a crash may leave satisfies `crash`
  and every completed run satisfies `post`". -/
def wp (W : World Op Reply σ) (crash : σ → Prop) (post : α → σ → Prop) : Prog Op Reply α → σ → Prop
 | .done a, s=>crash s ∧ post a s
 | .call o next, s=>crash s ∧ (∀t,W.cut o s t → crash t) ∧
   ∀r t,W.answers o s r t → wp W crash post (next r) t

section Rules
variable {W : World Op Reply σ} {c crash crash' : σ → Prop} {post post' : α → σ → Prop}

@[simp] lemma wp_pure (a : α) (s : σ):
 wp W c post (pure a) s ↔ c s ∧ post a s := Iff.rfl

lemma wp_issue (o : Op) (post : Reply o → σ → Prop) (s : σ):
 wp W c post (Prog.issue o) s ↔ c s ∧ (∀t,W.cut o s t → c t) ∧
  ∀r t,W.answers o s r t → c t ∧ post r t := Iff.rfl

lemma wp_crash {p : Prog Op Reply α} {s : σ} (h:wp W c post p s) : c s:=by
 cases p with
 | done a=>exact h.1
 | call o next=>exact h.1

lemma wp_mono {p : Prog Op Reply α} {s : σ} (hcrash:∀t,c t → crash' t)
 (hpost:∀a t,post a t → post' a t) (h:wp W c post p s):
 wp W crash' post' p s:=by
 induction p generalizing s with
 | done a=>exact ⟨hcrash s h.1,hpost a s h.2⟩
 | call o next ih=>
  exact ⟨hcrash s h.1,fun t ht=>hcrash t (h.2.1 t ht),fun r t ht=>ih r (h.2.2 r t ht)⟩

lemma wp_consequence {p : Prog Op Reply α} {s : σ} (h:wp W c post p s)
 (hpost:∀a t,c t → post a t → post' a t) : wp W c post' p s:=by
 induction p generalizing s with
 | done a=>exact ⟨h.1,hpost a s h.1 h.2⟩
 | call o next ih=>exact ⟨h.1,h.2.1,fun r t ht=>ih r (h.2.2 r t ht)⟩

@[simp] lemma wp_bind {post : β → σ → Prop} (p : Prog Op Reply α) (f : α → Prog Op Reply β)
 (s : σ) : wp W c post (p >>= f) s ↔ wp W c (fun a t=>wp W c post (f a) t) p s:=by
 induction p generalizing s with
 | done a=>exact ⟨fun h=>⟨wp_crash h,h⟩,fun h=>h.2⟩
 | call o next ih=>
  exact ⟨fun h=>⟨h.1,h.2.1,fun r t ht=>(ih r t).mp (h.2.2 r t ht)⟩,
   fun h=>⟨h.1,h.2.1,fun r t ht=>(ih r t).mpr (h.2.2 r t ht)⟩⟩

@[simp] lemma wp_map {post : β → σ → Prop} (f : α → β) (p : Prog Op Reply α) (s : σ):
 wp W c post (f <$> p) s ↔ wp W c (fun a t=>post (f a) t) p s:=by
 rw [←bind_pure_comp,wp_bind]
 exact ⟨fun h=>wp_consequence h fun _ _ _ h=>h.2,
  fun h=>wp_consequence h fun _ _ hcrash h=>⟨hcrash,h⟩⟩

lemma wp_interrupted {p : Prog Op Reply α} {s t : σ} (h:wp W c post p s)
 (hrun:Interrupted W p s t) : c t:=by
 induction hrun with
 | here p s=>exact wp_crash h
 | during torn=>exact h.2.1 _ torn
 | later reply _ ih=>exact ih (h.2.2 _ _ reply)

lemma wp_completes {p : Prog Op Reply α} {s t : σ} {a : α} (h:wp W c post p s)
 (hrun:Completes W p s a t) : c t ∧ post a t:=by
 induction hrun with
 | done a s=>exact h
 | call reply _ ih=>exact ih (h.2.2 _ _ reply)

lemma wp_leaves {p : Prog Op Reply α} {s t : σ} (h:wp W c post p s)
 (hrun:Leaves W p s t) : c t:=by
 obtain hcut | ⟨a,hend⟩:=hrun
 · exact wp_interrupted h hcut
 · exact (wp_completes h hend).1

lemma wp_of_runs {p : Prog Op Reply α} {s : σ}
 (hcut:∀t,Interrupted W p s t → c t)
 (hend:∀a t,Completes W p s a t → post a t) : wp W c post p s:=by
 induction p generalizing s with
 | done a=>exact ⟨hcut s (.here _ _),hend a s (.done _ _)⟩
 | call o next ih=>
  refine ⟨hcut s (.here _ _),fun t ht=>hcut t (.during ht),fun r t ht=>?_⟩
  exact ih r (fun u hu=>hcut u (.later ht hu)) (fun a u hu=>hend a u (.call ht hu))

end Rules

lemma run_completes {W : World Op Reply σ} {handle : (o : Op) → σ → Reply o × σ}
 (hsound:∀o s,W.answers o s (handle o s).1 (handle o s).2) (p : Prog Op Reply α) (s : σ):
 Completes W p s (p.run handle s).1 (p.run handle s).2:=by
 induction p generalizing s with
 | done a=>exact .done a s
 | call o next ih=>exact .call (hsound o s) (ih (handle o s).1 (handle o s).2)

lemma runFor_interrupted {W : World Op Reply σ} {handle : (o : Op) → σ → Reply o × σ}
 (hsound:∀o s,W.answers o s (handle o s).1 (handle o s).2) (n : ℕ)
 (p : Prog Op Reply α) (s : σ) : Interrupted W p s (p.runFor handle n s):=by
 induction n generalizing p s with
 | zero=>
  cases p with
  | done a=>exact .here _ s
  | call o next=>exact .here _ s
 | succ n ih=>
  cases p with
  | done a=>exact .here _ s
  | call o next=>exact .later (hsound o s) (ih (next (handle o s).1) (handle o s).2)

/-- The states left by any sequence of sessions, each completed or cut. -/
inductive Reach (W : World Op Reply σ) (session : Prog Op Reply α → Prop) (init : σ → Prop):
  σ → Prop where
 | start {s : σ} (h:init s) : Reach W session init s
 | session {s t : σ} {p : Prog Op Reply α} (before : Reach W session init s)
   (member : session p) (leaves : Leaves W p s t) : Reach W session init t

/-- An invariant that every session keeps at each crash point holds in every
  reachable state. -/
lemma Reach.invariant {W : World Op Reply σ} {session : Prog Op Reply α → Prop}
 {init inv : σ → Prop} (hinit:∀s,init s → inv s)
 (hsession:∀p s,session p → inv s → wp W inv (fun _ _=>True) p s) {s : σ}
 (h:Reach W session init s) : inv s:=by
 induction h with
 | start h=>exact hinit _ h
 | session _ member leaves ih=>exact wp_leaves (hsession _ _ member ih) leaves

section Traces

/-- An operation and the reply it got. -/
abbrev Event (Op : Type) (Reply : Op → Type) := (o : Op) × Reply o

/-- The world that may reply anything; its state is what has been said so far. -/
def anyReply : World Op Reply (List (Event Op Reply)) where
 answers o s reply t := t = s++[⟨o,reply⟩]
 cut _ s t := t = s

def Ends (p : Prog Op Reply α) (s : List (Event Op Reply))
  (post : α → List (Event Op Reply) → Prop) : Prop:=
 wp anyReply (fun _=>True) post p s

variable {post : α → List (Event Op Reply) → Prop} {s : List (Event Op Reply)}

@[simp] lemma ends_pure (a : α) : Ends (pure a : Prog Op Reply α) s post ↔ post a s:=by
 simp [Ends]

@[simp] lemma ends_issue (o : Op) (post : Reply o → List (Event Op Reply) → Prop):
 Ends (Prog.issue o) s post ↔ ∀reply,post reply (s++[⟨o,reply⟩]):=by
 simp [Ends,wp_issue,anyReply]

@[simp] lemma ends_bind {post : β → List (Event Op Reply) → Prop} (p : Prog Op Reply α)
 (f : α → Prog Op Reply β):
 Ends (p >>= f) s post ↔ Ends p s fun a t=>Ends (f a) t post:=by
 simp [Ends]

@[simp] lemma ends_map {post : β → List (Event Op Reply) → Prop} (f : α → β)
 (p : Prog Op Reply α):
 Ends (f <$> p) s post ↔ Ends p s fun a t=>post (f a) t:=by
 simp [Ends]

lemma Ends.completes {p : Prog Op Reply α} {a : α} {t : List (Event Op Reply)}
 (h:Ends p s post) (hrun:Completes anyReply p s a t) : post a t:=
 (wp_completes h hrun).2

end Traces

section Exceptions
variable {ε : Type} {W : World Op Reply σ} {c crash : σ → Prop}

/-- Programs that may also end with an exception: every state a crash may leave satisfies
  `crash`, and every run that ends with a value satisfies `post`. -/
def Succeeds (W : World Op Reply σ) (crash : σ → Prop) (p : ExceptT ε (Prog Op Reply) α) (s : σ)
  (post : α → σ → Prop) : Prop:=
 wp W crash (fun r t=>∀a,r = .ok a → post a t) p.run s

lemma succeeds_pure {a : α} {s : σ} {post : α → σ → Prop} (hcrash:c s) (h:post a s):
 Succeeds W c (pure a : ExceptT ε (Prog Op Reply) α) s post:=by
 refine ⟨hcrash,?_⟩
 intro b hb
 cases hb
 exact h

lemma succeeds_throw {e : ε} {s : σ} {post : α → σ → Prop} (hcrash:c s):
 Succeeds W c (throw e : ExceptT ε (Prog Op Reply) α) s post:=
 ⟨hcrash,nofun⟩

lemma succeeds_bind {p : ExceptT ε (Prog Op Reply) α} {f : α → ExceptT ε (Prog Op Reply) β}
 {s : σ} {post : β → σ → Prop}
 (h:Succeeds W c p s fun a t=>Succeeds W c (f a) t post):
 Succeeds W c (p >>= f) s post:=by
 unfold Succeeds
 rw [ExceptT.run_bind,wp_bind]
 refine wp_consequence h ?_
 intro r t hcrash hr
 cases r with
 | ok a=>exact hr a rfl
 | error e=>exact ⟨hcrash,nofun⟩

lemma succeeds_mono {p : ExceptT ε (Prog Op Reply) α} {s : σ} {post post' : α → σ → Prop}
 (h:Succeeds W c p s post) (hpost:∀a t,c t → post a t → post' a t):
 Succeeds W c p s post':=
 wp_consequence h fun _ t hcrash hr a ha=>hpost a t hcrash (hr a ha)

lemma succeeds_issue {o : Op} {s : σ} {post : Reply o → σ → Prop} (hcrash:c s)
 (hcut:∀t,W.cut o s t → c t)
 (h:∀r t,W.answers o s r t → c t ∧ post r t):
 Succeeds W c (ExceptT.lift (Prog.issue o) : ExceptT ε (Prog Op Reply) (Reply o)) s post:=by
 unfold Succeeds
 rw [ExceptT.run_lift,wp_map,wp_issue]
 refine ⟨hcrash,hcut,?_⟩
 intro r t hr
 obtain ⟨ht,hpost⟩:=h r t hr
 refine ⟨ht,?_⟩
 intro a ha
 cases ha
 exact hpost

lemma run_except_bind {handle : (o : Op) → σ → Reply o × σ} {p : ExceptT ε (Prog Op Reply) α}
 {f : α → ExceptT ε (Prog Op Reply) β} {a : α} {s t : σ}
 (h:p.run.run handle s=(.ok a,t)):
 (p >>= f).run.run handle s=(f a).run.run handle t:=by
 rw [ExceptT.run_bind,Prog.run_bind,h]

end Exceptions

section History
variable {W : World Op Reply σ} {m moment : σ → Prop} {p : Prog Op Reply α} {s t : σ} {a : α}

/-- A state, and whether a moment of some kind has come before. -/
structure Noted (σ : Type) where
 state : σ
 noted : Prop

def World.noting (W : World Op Reply σ) (moment : σ → Prop) : World Op Reply (Noted σ) where
 answers o s reply t := W.answers o s.state reply t.state ∧ (t.noted ↔ s.noted ∨ moment t.state)
 cut o s t := W.cut o s.state t.state ∧ (t.noted ↔ s.noted ∨ moment t.state)

lemma Completes.noting (h:Completes W p s a t) (m : σ → Prop) (noted : Prop):
 ∃ after,Completes (W.noting m) p ⟨s,noted⟩ a ⟨t,after⟩:=by
 induction h generalizing noted with
 | done a s=>exact ⟨noted,.done a _⟩
 | @call o next s t u r a reply _ ih=>
  obtain ⟨after,hrest⟩:=ih (noted ∨ m t)
  exact ⟨after,.call ⟨reply,Iff.rfl⟩ hrest⟩

lemma Interrupted.noting (h:Interrupted W p s t) (m : σ → Prop) (noted : Prop):
 ∃ after,Interrupted (W.noting m) p ⟨s,noted⟩ ⟨t,after⟩:=by
 induction h generalizing noted with
 | here p s=>exact ⟨noted,.here p _⟩
 | @during o next s t torn=>exact ⟨noted ∨ m t,.during ⟨torn,Iff.rfl⟩⟩
 | @later o next s t u r reply _ ih=>
  obtain ⟨after,hrest⟩:=ih (noted ∨ m t)
  exact ⟨after,.later ⟨reply,Iff.rfl⟩ hrest⟩

lemma Leaves.noting (h:Leaves W p s t) (m : σ → Prop) (noted : Prop):
 ∃ after,Leaves (W.noting m) p ⟨s,noted⟩ ⟨t,after⟩:=by
 obtain hcut | ⟨a,hend⟩:=h
 · obtain ⟨after,hcut⟩:=hcut.noting m noted
   exact ⟨after,.inl hcut⟩
 · obtain ⟨after,hend⟩:=hend.noting m noted
   exact ⟨after,hend.leaves⟩

lemma Reach.noting {session : Prog Op Reply α → Prop} {init : σ → Prop}
 {init' : Noted σ → Prop} (h:Reach W session init s) (m : σ → Prop)
 (hinit:∀s,init s → ∃ noted,init' ⟨s,noted⟩):
 ∃ noted,Reach (W.noting m) session init' ⟨s,noted⟩:=by
 induction h with
 | start h=>
  obtain ⟨noted,hnoted⟩:=hinit _ h
  exact ⟨noted,.start hnoted⟩
 | session _ member leaves ih=>
  obtain ⟨noted,hbefore⟩:=ih
  obtain ⟨after,hleaves⟩:=leaves.noting m noted
  exact ⟨after,.session hbefore member hleaves⟩

end History

end VoVe.EffectProgram
