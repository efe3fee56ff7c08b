import Mathlib.Data.List.Basic

set_option autoImplicit false

/-! Receivers that collect the bytes of a stream and take frames off its front. What they come to
does not depend on where the stream is cut. -/

namespace VoVe

/-- What a receiver does with the bytes collected so far: nothing while they are too few, and
otherwise it uses the first of them and goes on in a new state. More bytes change nothing. -/
structure FrameReader (σ α : Type*) where
 isOpen : σ → Bool
 take : σ → List α → Option (ℕ × σ)
 used : ∀ {state next buffer size},take state buffer = some (size,next) →
  size ≤ buffer.length ∧ (isOpen next → 0 < size)
 decided : ∀ {state buffer found} more,take state buffer = some found →
  take state (buffer++more) = some found

namespace FrameReader

variable {σ α : Type*} (reader : FrameReader σ α)

/-- A closed receiver keeps no bytes. -/
def consume (state : σ) (buffer : List α) : σ × List α:=
 if reader.isOpen state then
  match _ : reader.take state buffer with
  | none=>(state,buffer)
  | some (size,next)=>
   if _ : reader.isOpen next then consume next (buffer.drop size) else (next,[])
 else (state,[])
termination_by buffer.length
decreasing_by
 have hused:=reader.used ‹_›
 have hpos:=hused.2 ‹_›
 simp only [List.length_drop]
 omega

def receive (received : σ × List α) (more : List α) : σ × List α:=
 reader.consume received.1 (received.2++more)

/-- Nothing can be done with the bytes at hand. -/
def Settled (received : σ × List α) : Prop:=
 bif reader.isOpen received.1 then reader.take received.1 received.2 = none else received.2 = []

variable {state : σ} {buffer : List α} {received : σ × List α}

lemma consume_of_settled (h:reader.Settled received):
 reader.consume received.1 received.2=received:=by
 obtain ⟨state,buffer⟩:=received
 unfold consume
 cases hopen:reader.isOpen state with
 | false=>
  simp only [Settled,hopen,cond_false] at h
  simp [h]
 | true=>
  simp only [Settled,hopen,cond_true] at h
  split
  · split<;>simp_all
  · contradiction

lemma consume_taken {size : ℕ} {next : σ} (hopen:reader.isOpen state=true)
 (h:reader.take state buffer=some (size,next)):
 reader.consume state buffer=reader.consume next (buffer.drop size):=by
 rw [consume,if_pos hopen]
 split
 · simp_all
 · rename_i found after htake
   obtain ⟨rfl,rfl⟩:=Prod.mk.inj (Option.some.inj (htake.symm.trans h))
   split
   · rfl
   · rename_i hnext
     rw [consume,if_neg hnext]

lemma settled_consume (state : σ) (buffer : List α):
 reader.Settled (reader.consume state buffer):=by
 fun_induction reader.consume state buffer with
 | case1 state buffer hopen htake=>simp_all [Settled]
 | case2 state buffer hopen size next htake hnext ih=>exact ih
 | case3 state buffer hopen size next htake hnext=>simp_all [Settled]
 | case4 state buffer hopen=>simp_all [Settled]

lemma consume_preserves {p : σ → Prop} (h:∀state buffer size next,reader.isOpen state=true →
 p state → reader.take state buffer=some (size,next) → p next) {state : σ} (buffer : List α)
 (hstate:p state) : p (reader.consume state buffer).1:=by
 fun_induction reader.consume state buffer with
 | case1 state buffer hopen htake=>exact hstate
 | case2 state buffer hopen size next htake hnext ih=>exact ih (h _ _ _ _ hopen hstate htake)
 | case3 state buffer hopen size next htake hnext=>exact h _ _ _ _ hopen hstate htake
 | case4 state buffer hopen=>exact hstate

/-- Bytes that arrive later are read as if they had been there. -/
lemma consume_append (state : σ) (buffer more : List α) : reader.consume state (buffer++more)=
 reader.receive (reader.consume state buffer) more:=by
 fun_induction reader.consume state buffer with
 | case1 state buffer hopen htake=>rfl
 | case2 state buffer hopen size next htake hnext ih=>
  rw [reader.consume_taken hopen (reader.decided more htake),
   List.drop_append_of_le_length (reader.used htake).1,ih]
 | case3 state buffer hopen size next htake hnext=>
  rw [reader.consume_taken hopen (reader.decided more htake)]
  simp [receive,consume,hnext]
 | case4 state buffer hopen=>simp [receive,consume,hopen]

lemma settled_receive (received : σ × List α) (more : List α):
 reader.Settled (reader.receive received more) := reader.settled_consume _ _

lemma receive_nil (h:reader.Settled received) : reader.receive received []=received:=by
 rw [receive,List.append_nil,reader.consume_of_settled h]

lemma receive_closed (h:reader.Settled received) (hclosed:reader.isOpen received.1=false)
 (more : List α) : reader.receive received more=received:=by
 obtain ⟨state,buffer⟩:=received
 simp only [Settled,hclosed,cond_false] at h
 simp [receive,consume,hclosed,h]

lemma receive_receive (received : σ × List α) (first rest : List α):
 reader.receive (reader.receive received first) rest=reader.receive received (first++rest):=by
 have happend:=reader.consume_append received.1 (received.2++first) rest
 rw [List.append_assoc] at happend
 exact happend.symm

/-- Whole frames reach an open receiver one after the other. -/
lemma consume_frames {handle : σ → List α → σ} (hempty:∀state,reader.take state []=none)
 (frames : List (List α)) (hframes:∀frame∈frames,∀state,reader.isOpen state=true →
  reader.take state frame=some (frame.length,handle state frame)) (state : σ):
 reader.consume state frames.flatten=
  (frames.foldl (fun state frame=>bif reader.isOpen state then handle state frame else state)
   state,[]):=by
 induction frames generalizing state with
 | nil=>
  have h:reader.Settled (state,[]):=by
   cases hopen:reader.isOpen state<;>simp [Settled,hopen,hempty]
  exact reader.consume_of_settled h
 | cons frame rest ih=>
  have ih:=ih fun other hother=>hframes other (List.mem_cons_of_mem frame hother)
  cases hopen:reader.isOpen state with
  | false=>
   rw [List.foldl_cons,hopen,cond_false,←ih]
   simp [consume,hopen]
  | true=>
   rw [List.flatten_cons,reader.consume_taken hopen
     (reader.decided rest.flatten (hframes frame List.mem_cons_self state hopen)),
    List.drop_left,ih,List.foldl_cons,hopen,cond_true]

end FrameReader
end VoVe
