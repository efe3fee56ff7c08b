import VoVe.CurrentOperationJournal
import VoVe.JournalAtomicity
import VoVe.ObjectDirectory
import VoVe.OperationRequest
import VoVe.TransactionCodec

set_option autoImplicit false

/-! What the coordinators' calls may do: how the journal store answers, and what
  a truthful file-operation service says of a directory. -/

namespace VoVe.OperationWorld
open ByteCodec PosixPath JournalDisk JournalAtomicity
open CurrentOperationJournal FileOperation OperationRequest TransactionCodec ObjectDirectory

variable (generations : Generations)

/-- The state between the two renames of a write. -/
def rotated : Generations:=
 match generations.primary with
 | some old=>⟨none,some old⟩
 | none=>generations

/-- A write that took effect keeps the payload it replaced. -/
def written (bytes : Bytes) : Generations := ⟨some bytes,(rotated generations).previous⟩

/-- What a write leaves where it is cut or fails. -/
inductive WriteLeaves (bytes : Bytes) (before : Generations) : Generations → Prop where
 | unchanged : WriteLeaves bytes before before
 | rotated : WriteLeaves bytes before (rotated before)
 | written : WriteLeaves bytes before (written before bytes)

section Journal
variable (kind : CurrentOperationKind) (encoded : Except Thrown Bytes) (before : Generations)

/-- A coordinator's `persist`: an encoder that throws and a payload over the limit
  leave the store alone, a write may fail anywhere. -/
inductive Persists : Except Bytes Unit → Generations → Prop where
 | threw (thrown : Thrown) (detail : Bytes) (h:encoded=.error thrown):
  Persists (.error detail) before
 | tooLarge (payload detail : Bytes) (h:encoded=.ok payload)
  (hsize:payload.length>kMaximumCurrentOperationPayloadBytes):
  Persists (.error detail) before
 | failed (payload detail : Bytes) (after : Generations) (h:encoded=.ok payload)
  (hsize:payload.length≤kMaximumCurrentOperationPayloadBytes)
  (hafter:WriteLeaves (encode kind payload) before after) : Persists (.error detail) after
 | stored (payload : Bytes) (h:encoded=.ok payload)
  (hsize:payload.length≤kMaximumCurrentOperationPayloadBytes):
  Persists (.ok ()) (written before (encode kind payload))

inductive PersistLeaves : Generations → Prop where
 | unchanged : PersistLeaves before
 | torn (payload : Bytes) (after : Generations) (h:encoded=.ok payload)
  (hsize:payload.length≤kMaximumCurrentOperationPayloadBytes)
  (hafter:WriteLeaves (encode kind payload) before after) : PersistLeaves after

/-- `removeJournal`: both generations are gone, or a failure left some of them. -/
inductive RemovesJournal : Except Bytes Unit → Generations → Prop where
 | removed : RemovesJournal (.ok ()) ⟨none,none⟩
 | failed (detail : Bytes) (after : Generations) (hafter:RemoveStep before after):
  RemovesJournal (.error detail) after

/-- A read tells what the generations show, or reports that it could not. -/
def ReadsJournal (loaded : CurrentOperationJournalReadResult) : Prop:=
 loaded = decode before.outcome ∨ loaded.ok = false

end Journal

def nameOf (path : Path) : Bytes := path.filename.native

lemma nameOf_same {p q : Path} (h:p.same q) : nameOf p=nameOf q:=by
 rw [nameOf,same_filename h,nameOf]

abbrev ObjectNames := Directory Bytes Bytes

/-- What a truthful service may answer to a rename request, and leave: it renames
  the expected object or nothing, success means that the object is at its
  destination, and a refusal that it did not move. -/
structure RenameTruth (request : RenameRequest) (reconcile : Bool) (before after : ObjectNames)
  (result : OperationResult) : Prop where
 effect : after=before ∨ (reconcile=false ∧
  Renames request.expectedIdentity (nameOf request.source) (nameOf request.destination)
   before after)
 success : result.ok → after (nameOf request.destination)=some request.expectedIdentity ∧
  result.evidence≠.noCommit
 refusal : ¬result.ok → result.evidence=.noCommit → (reconcile=false → after=before) ∧
  (reconcile=true → after (nameOf request.source)=some request.expectedIdentity)

variable (request : RenameRequest)

def RenameLeaves (reconcile : Bool) (before after : ObjectNames) : Prop:=
 after = before ∨ (reconcile = false ∧
  Renames request.expectedIdentity (nameOf request.source) (nameOf request.destination)
   before after)

/-- The same of a delete request: it removes the expected object or nothing. -/
structure DeleteTruth (request : DeleteRequest) (reconcile : Bool) (before after : ObjectNames)
  (result : OperationResult) : Prop where
 effect : after=before ∨ (reconcile=false ∧
  Removes request.expectedIdentity (nameOf request.source) before after)
 success : result.ok → after (nameOf request.source)≠some request.expectedIdentity ∧
  result.evidence≠.noCommit
 refusal : ¬result.ok → result.evidence=.noCommit → (reconcile=false → after=before) ∧
  (reconcile=true → after (nameOf request.source)=some request.expectedIdentity)

def DeleteLeaves (request : DeleteRequest) (reconcile : Bool) (before after : ObjectNames) : Prop:=
 after = before ∨ (reconcile = false ∧
  Removes request.expectedIdentity (nameOf request.source) before after)

/-- A service that never fails, on a rename it executes or reconciles. -/
def serveRename (reconcile : Bool) (directory : ObjectNames) : OperationResult × ObjectNames:=
 let expected:=some request.expectedIdentity
 let committed : OperationResult:=
  { status:=.success,evidence:=.committed,confirmedSnapshot:=request.expectedSource }
 if reconcile then
  if directory (nameOf request.destination) = expected then (committed,directory)
  else if directory (nameOf request.source) = expected then
   ({ status:=.conflict,evidence:=.noCommit },directory)
  else ({ status:=.unknownOutcome },directory)
 else if directory (nameOf request.source) = expected ∧
   directory (nameOf request.destination) = none then
  (committed,Function.update (Function.update directory (nameOf request.source) none)
   (nameOf request.destination) expected)
 else ({ status:=.conflict,evidence:=.noCommit },directory)

lemma serveRename_truth (r : Bool) (directory : ObjectNames):
 RenameTruth request r directory (serveRename request r directory).2
  (serveRename request r directory).1:=by
 cases r with
 | true=>
  simp only [serveRename,if_true]
  split
  · next hdestination => exact ⟨.inl rfl,fun _=>⟨hdestination,nofun⟩,fun hok=>absurd rfl hok⟩
  · split
    · next hsource => exact ⟨.inl rfl,nofun,fun _ _=>⟨nofun,fun _=>hsource⟩⟩
    · exact ⟨.inl rfl,nofun,fun _=>nofun⟩
 | false=>
  simp only [serveRename,Bool.false_eq_true,if_false]
  split
  · next hfree =>
    refine ⟨.inr ⟨rfl,hfree.1,hfree.2,rfl⟩,fun _=>⟨?_,nofun⟩,fun hok=>absurd rfl hok⟩
    exact Function.update_self _ _ _
  · exact ⟨.inl rfl,nofun,fun _ _=>⟨fun _=>rfl,nofun⟩⟩

def serveDelete (request : DeleteRequest) (reconcile : Bool) (directory : ObjectNames):
  OperationResult × ObjectNames:=
 let committed : OperationResult := { status:=.success,evidence:=.committed }
 if directory (nameOf request.source)≠some request.expectedIdentity then (committed,directory)
 else if reconcile then ({ status:=.conflict,evidence:=.noCommit },directory)
 else (committed,Function.update directory (nameOf request.source) none)

lemma serveDelete_truth (request : DeleteRequest) (r : Bool) (directory : ObjectNames):
 DeleteTruth request r directory (serveDelete request r directory).2
  (serveDelete request r directory).1:=by
 unfold serveDelete
 dsimp only
 split
 · next hgone => exact ⟨.inl rfl,fun _=>⟨hgone,nofun⟩,fun hok=>absurd rfl hok⟩
 · next hheld =>
   cases r with
   | true=>exact ⟨.inl rfl,nofun,fun _ _=>⟨nofun,fun _=>not_not.mp hheld⟩⟩
   | false=>
    refine ⟨.inr ⟨rfl,not_not.mp hheld,rfl⟩,fun _=>⟨?_,nofun⟩,fun hok=>absurd rfl hok⟩
    simp

end VoVe.OperationWorld
