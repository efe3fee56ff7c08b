import Mathlib.Algebra.BigOperators.Group.List.Basic
import Mathlib.Algebra.GroupWithZero.Nat

set_option autoImplicit false

namespace VoVe.Playback
variable {Key Image Detail : Type}

inductive Happening (Key Image Detail : Type) where
 | started (key : Key)
 | stopped
 /-- A hold begins or ends. -/
 | hold (held:Bool) (time : ℕ)
 | accepted (sequence delay : ℕ)
 | presented (key : Key) (sequence delay : ℕ) (image : Image) (held:Bool) (time : ℕ)
 | acknowledged (held:Bool) (time : ℕ)
 /-- The terminal result of the stream. -/
 | terminated (success : Bool)
 | finished (success : Bool) (detail : Detail)

/-- What a history says about the most recent start. -/
structure Episode (Key : Type) where
 /-- The key of the start, until it is stopped or has finished. -/
 key : Option Key := none
 /-- The delays of the frames accepted. -/
 accepted : List ℕ := []
 presented : ℕ := 0
 acknowledged : ℕ := 0
 /-- The time of the first presentation. -/
 first : ℕ := 0
 /-- How long the holds since then took that are over. -/
 held : ℕ := 0
 heldSince : Option ℕ := none
 terminal : Option Bool := none

namespace Episode
variable (episode : Episode Key)

/-- All held time between the first presentation and the given time. -/
def heldAt (time : ℕ) : ℕ:=
 match episode.heldSince with
 | none=>episode.held
 | some since=>episode.held+(time - since)

def delays : ℕ := (episode.accepted.take episode.presented).sum

def next : Happening Key Image Detail → Episode Key
 | .started key=>{ key:=some key }
 | .stopped=>{ episode with key:=none }
 | .hold true time=>{ episode with heldSince:=some time }
 | .hold false time=>{ episode with held:=episode.heldAt time,heldSince:=none }
 | .accepted _ delay=>{ episode with accepted:=episode.accepted++[delay] }
 | .presented _ _ _ _ held time=>
  if episode.presented = 0 then
   { episode with
     presented:=1,first := time,held := 0
     heldSince:=if held then some time else none }
  else { episode with presented:=episode.presented+1 }
 | .acknowledged _ _=>{ episode with acknowledged:=episode.acknowledged+1 }
 | .terminated success=>{ episode with terminal:=some success }
 | .finished _ _=>{ episode with key:=none }

def after (log : List (Happening Key Image Detail)) : Episode Key := log.foldl next episode

/-- Frames come in order under the key of the most recent start, each once and, but for the first,
in no hold. The next one is accepted after the acknowledgement of the one before, which waits for
the delays of all frames so far and for every hold, and a start finishes once. -/
def Allowed : Happening Key Image Detail → Prop
 | .accepted sequence _=>
  episode.key.isSome ∧ sequence = episode.accepted.length ∧ episode.acknowledged = sequence
 | .presented key sequence delay _ held _=>
  episode.key = some key ∧ sequence = episode.presented ∧
   episode.accepted[sequence]? = some delay ∧ (held = true → sequence = 0)
 | .acknowledged held time=>
  episode.key.isSome ∧ episode.presented = episode.acknowledged+1 ∧ held = false ∧
   episode.first+episode.delays+episode.heldAt time ≤ time
 | .finished success _=>
  episode.key.isSome ∧ (success = true → episode.presented≠0 ∧ episode.terminal = some true)
 | _=>True

end Episode

def Lawful (log : List (Happening Key Image Detail)) : Prop:=
 ∀before happening after,log = before++happening::after →
  (({} : Episode Key).after before).Allowed happening

section Logs
variable {log : List (Happening Key Image Detail)} {happening : Happening Key Image Detail}

lemma lawful_nil : Lawful ([] : List (Happening Key Image Detail)):=by
 intro before happening after hsplit
 have hlength:=congrArg List.length hsplit
 simp at hlength

lemma after_append_singleton (episode : Episode Key):
 episode.after (log++[happening])=(episode.after log).next happening:=by
 rw [Episode.after,List.foldl_append]
 rfl

lemma lawful_append (h:Lawful log) (hallowed:(({} : Episode Key).after log).Allowed happening):
 Lawful (log++[happening]):=by
 intro before other after hsplit
 cases List.eq_nil_or_concat after with
 | inl hempty=>
  subst hempty
  obtain ⟨rfl,hlast⟩:=List.append_inj' hsplit rfl
  cases hlast
  exact hallowed
 | inr hmore=>
  obtain ⟨middle,last,rfl⟩:=hmore
  have hlast:log++[happening]=(before++other::middle)++[last]:=by
   simpa using hsplit
  obtain ⟨hlog,-⟩:=List.append_inj' hlast rfl
  exact h before other middle hlog

end Logs

section Holds
variable {episode : Episode Key}

lemma heldAt_free (h:episode.heldSince=none) (time : ℕ):
 episode.heldAt time=episode.held:=by
 rw [Episode.heldAt,h]

lemma delays_succ {delay : ℕ} (h:episode.accepted[episode.presented]?=some delay):
 (episode.accepted.take (episode.presented+1)).sum=episode.delays+delay:=by
 rw [List.take_add_one,h,List.sum_append]
 simp [Episode.delays]

end Holds

end VoVe.Playback
