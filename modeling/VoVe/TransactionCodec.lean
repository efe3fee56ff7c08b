import VoVe.AsciiText
import VoVe.Checks

set_option autoImplicit false

namespace VoVe.TransactionCodec
open ByteCodec Checks

inductive Thrown where
 | invalidArgument (what : Bytes)
 | lengthError (what : Bytes)
 deriving DecidableEq

variable (check : Except Bytes Unit)

/-- `std::invalid_argument` with the detail of a failed check. -/
def throwInvalid : Except Thrown Unit:=
 match check with
 | .ok ()=>.ok ()
 | .error detail=>.error (.invalidArgument detail)

@[simp] lemma throwInvalid_eq_ok:
 throwInvalid check=.ok () ↔ check=.ok ():=by
 cases check with
 | error e=>simp [throwInvalid]
 | ok u=>simp [throwInvalid]

def maximumStringBytes : ℕ := 2 ^ 32 - 1

/-- The length checks of an encoder, on its strings and on the whole payload. -/
structure PayloadLimit where
 maximumPayloadBytes : ℕ
 stringTooLarge : Bytes
 payloadTooLarge : Bytes

def PayloadLimit.finish (limit : PayloadLimit) (strings : List Bytes) (payload : Bytes):
  Except Thrown Bytes := do
 require (strings.all fun text=>text.length ≤ maximumStringBytes)
  (.lengthError limit.stringTooLarge)
 require (payload.length ≤ limit.maximumPayloadBytes) (.lengthError limit.payloadTooLarge)
 pure payload

lemma PayloadLimit.finish_eq_ok (limit : PayloadLimit) (strings : List Bytes)
 (payload encoded : Bytes) : limit.finish strings payload=.ok encoded ↔
  (∀text∈strings,text.length<2 ^ 32) ∧ payload.length≤limit.maximumPayloadBytes ∧
   payload=encoded:=by
 simp only [finish,bind_unit_eq_ok,require_eq_ok,List.all_eq_true,decide_eq_true_eq,
  pure_eq_ok,maximumStringBytes]
 constructor
 · rintro ⟨hstrings,hpayload,rfl⟩
   refine ⟨fun text htext=>?_,hpayload,rfl⟩
   have hlength:text.length≤2 ^ 32 - 1:=of_decide_eq_true (hstrings text htext)
   omega
 · rintro ⟨hstrings,hpayload,rfl⟩
   exact ⟨fun text htext=>decide_eq_true (Nat.le_pred_of_lt (hstrings text htext)),hpayload,rfl⟩

/-- A decoder's own text counts only where the check before it left none. -/
def detailOr (detail fallback : Bytes) : Bytes := if detail = [] then fallback else detail

def orDetail (fallback : Bytes) : Except Bytes Unit:=
 match check with
 | .ok ()=>.ok ()
 | .error detail=>.error (detailOr detail fallback)

@[simp] lemma orDetail_eq_ok (fallback : Bytes):
 orDetail check fallback=.ok () ↔ check=.ok ():=by
 cases check with
 | error e=>simp [orDetail]
 | ok u=>simp [orDetail]

/-- A string a decoder refuses unless it passes a text check. -/
def readText (valid : Bytes → Bool) : Reader Bytes := do
 let text ← Reader.readString
 Reader.check (valid text)
 pure text

lemma readText_bind {β : Type} (valid : Bytes → Bool) (text rest : Bytes)
 (h:text.length<2 ^ 32) (f : Bytes → Reader β):
 (readText valid >>= f).run (appendString text++rest)=
  if valid text then (f text).run rest else none:=by
 rw [Reader.run_bind,readText,Reader.readString_bind text rest h,Reader.check_bind]
 cases valid text with
 | false=>rfl
 | true=>rfl

lemma takes_text (valid : Bytes → Bool) : (readText valid).Takes appendString:=by
 intro input text rest h
 simp only [readText,Reader.bind_eq_some,Reader.check_eq_some,Reader.pure_eq_some] at h
 obtain ⟨_,_,htext,_,_,⟨-,rfl⟩,rfl,rfl⟩:=h
 exact Reader.takes_string _ _ _ htext

/-- A reader whose failures say what is wrong. -/
structure DetailReader (α : Type) where
 run : Bytes → Except Bytes (α × Bytes)

variable {input rest : Bytes} {c : Bool}

namespace DetailReader
variable {α β : Type}

instance : Monad DetailReader where
 pure a := ⟨fun input=>.ok (a,input)⟩
 bind r f := ⟨fun input=>r.run input >>= fun p=>(f p.1).run p.2⟩

@[simp] lemma run_pure (a : α) (input : Bytes):
 (pure a : DetailReader α).run input=.ok (a,input) := rfl

lemma run_bind (r : DetailReader α) (f : α → DetailReader β) (input : Bytes):
 (r >>= f).run input=r.run input >>= fun p=>(f p.1).run p.2 := rfl

/-- A group of reads that share one error text. -/
def group (r : Reader α) (detail : Bytes) : DetailReader α where
 run input := found (r.run input) detail

lemma group_bind {r : Reader α} {a : α}
 (h:r.run input=if c then some (a,rest) else none) (detail : Bytes)
 (f : α → DetailReader β) : (group r detail >>= f).run input=
  if c then (f a).run rest else .error detail:=by
 cases c with
 | false=>
  have hnone:r.run input=none:=h
  simp only [run_bind,group,hnone,found]
  rfl
 | true=>
  have hsome:r.run input=some (a,rest):=h
  simp only [run_bind,group,hsome,found]
  rfl

lemma group_some {r : Reader α} {a : α} (h:r.run input=some (a,rest)) (detail : Bytes)
 (f : α → DetailReader β) : (group r detail >>= f).run input=(f a).run rest:=by
 simp only [run_bind,group,h,found]
 rfl

/-- Read `n` values; each read may depend on the position of its value. -/
def readItems (read : ℕ → DetailReader α) : ℕ → ℕ → DetailReader (List α)
 | _, 0=>pure []
 | index, n+1=>do
  let a ← read index
  let tail ← readItems read (index+1) n
  pure (a::tail)

lemma okExactly_group {r : Reader α} {a : α}
 (h:r.run input=if c then some (a,rest) else none) (detail : Bytes):
 OkExactly ((group r detail).run input) c (a,rest):=by
 intro b
 rw [group,found_eq_ok,h]
 cases c with
 | false=>simp
 | true=>simp [eq_comm]

lemma okExactly_run_bind {r : DetailReader α} {f : α → DetailReader β} {condition' : Bool} {a : α}
 {b : β × Bytes} (hr:OkExactly (r.run input) c (a,rest))
 (hf:OkExactly ((f a).run rest) condition' b):
 OkExactly ((r >>= f).run input) (c && condition') b:=
 okExactly_bind hr hf

lemma readItems_append (read : ℕ → DetailReader α) (write : β → Bytes) (ok : β → Bool)
 (back : ℕ → β → α) (xs : List β) (index : ℕ)
 (hread:∀i x,x∈xs → ∀rest,
  OkExactly ((read i).run (write x++rest)) (ok x) (back i x,rest)) (rest : Bytes):
 OkExactly ((readItems read index xs.length).run (xs.flatMap write++rest)) (xs.all ok)
  (xs.mapIdx (fun i x=>back (index+i) x),rest):=by
 induction xs generalizing index with
 | nil=>exact okExactly_ok _
 | cons x xs ih=>
  have hhead:=hread index x List.mem_cons_self (xs.flatMap write++rest)
  have htail:=ih (index+1) fun i y hy=>hread i y (List.mem_cons_of_mem x hy)
  have hindex:(fun i=>back (index+(i+1)))=fun i=>back (index+1+i):=by
   funext i
   congr 1
   omega
  rw [List.flatMap_cons,List.append_assoc,List.all_cons,List.mapIdx_cons,Nat.add_zero,hindex,
   ← Bool.and_true (xs.all ok)]
  exact okExactly_bind hhead (okExactly_bind htail (okExactly_ok _))

end DetailReader

end VoVe.TransactionCodec
