import VoVe.EffectProgram

set_option autoImplicit false

/-! Programs with a state of their own, and the log of the operations they issue: a rule for what
is true of the log at every point of a run, and of the result, the state and the log at its end. -/

namespace VoVe.TracedProgram
open EffectProgram

variable {Op : Type} {Reply : Op → Type} {σ α β : Type}

abbrev Log (Op : Type) (Reply : Op → Type) := List (Event Op Reply)

abbrev Traced (σ : Type) (Op : Type) (Reply : Op → Type) (α : Type) := StateT σ (Prog Op Reply) α

def ask (op : Op) : Traced σ Op Reply (Reply op):=
 fun state=>(Prog.issue op).bind fun reply=>.done (reply,state)

/-- Whatever is replied, `inv` holds of the log at every point from here on, and a run to the end
leaves a result, a state and a log that `post` holds of. -/
def Runs (inv : Log Op Reply → Prop) (m : Traced σ Op Reply α) (state : σ) (log : Log Op Reply)
  (post : α → σ → Log Op Reply → Prop) : Prop:=
 wp anyReply inv (fun ended log=>post ended.1 ended.2 log) (m.run state) log

section Rules
variable {inv : Log Op Reply → Prop} {m : Traced σ Op Reply α} {state : σ} {log : Log Op Reply}
 {post mid : α → σ → Log Op Reply → Prop}

lemma runs_pure {a : α} (hinv:inv log) (h:post a state log):
 Runs inv (pure a : Traced σ Op Reply α) state log post:=
 ⟨hinv,h⟩

lemma runs_ask {op : Op} {post : Reply op → σ → Log Op Reply → Prop} (hinv:inv log)
 (h:∀reply,inv (log++[⟨op,reply⟩]) ∧ post reply state (log++[⟨op,reply⟩])):
 Runs inv (ask op : Traced σ Op Reply (Reply op)) state log post:=by
 refine ⟨hinv,?_,?_⟩
 · intro cut hcut
   rw [hcut]
   exact hinv
 · intro reply next hnext
   rw [hnext]
   exact h reply

lemma runs_bind {f : α → Traced σ Op Reply β} {post : β → σ → Log Op Reply → Prop}
 (h:Runs inv m state log fun a state log=>Runs inv (f a) state log post):
 Runs inv (m >>= f) state log post:=by
 unfold Runs
 rw [StateT.run_bind,wp_bind]
 exact h

lemma runs_mono {post' : α → σ → Log Op Reply → Prop} (h:Runs inv m state log post)
 (hpost:∀a state log,inv log → post a state log → post' a state log):
 Runs inv m state log post':=
 wp_consequence h fun _ _ hinv hend=>hpost _ _ _ hinv hend

lemma runs_step {f : α → Traced σ Op Reply β} {post : β → σ → Log Op Reply → Prop}
 (h:Runs inv m state log mid)
 (hrest:∀a state log,inv log → mid a state log → Runs inv (f a) state log post):
 Runs inv (m >>= f) state log post:=
 runs_bind (runs_mono h hrest)

lemma runs_get {post : σ → σ → Log Op Reply → Prop} (hinv:inv log)
 (h:post state state log) : Runs inv (get : Traced σ Op Reply σ) state log post:=
 ⟨hinv,h⟩

lemma runs_set {next : σ} {post : PUnit → σ → Log Op Reply → Prop} (hinv:inv log)
 (h:post ⟨⟩ next log) : Runs inv (set next : Traced σ Op Reply PUnit) state log post:=
 ⟨hinv,h⟩

lemma Runs.completes {a : α} {last : σ} {next : Log Op Reply} (h:Runs inv m state log post)
 (hrun:Completes anyReply (m.run state) log (a,last) next) : inv next ∧ post a last next:=by
 have hwp:wp anyReply inv (fun ended log=>post ended.1 ended.2 log) (m.run state) log:=h
 have hall:=wp_completes hwp hrun
 exact hall

lemma Runs.leaves {next : Log Op Reply} (h:Runs inv m state log post)
 (hrun:Leaves anyReply (m.run state) log next) : inv next:=
 wp_leaves h hrun

end Rules

end VoVe.TracedProgram
