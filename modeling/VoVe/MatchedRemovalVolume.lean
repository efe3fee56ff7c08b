import VoVe.MatchedRemoval
import VoVe.JournalDisk

set_option autoImplicit false

namespace VoVe.MatchedRemovalVolume
open ByteCodec EffectProgram DurableJournal JournalDisk MatchedRemoval

def badDescriptor : ErrorCode := 9

structure Volume where
 disk : Disk
 inode : JournalFile → ℕ
 opened : Option (ℕ × Bytes) := none

namespace Volume

variable (v : Volume) (disk : Disk)

def withDisk : Volume := { v with disk:=disk }

@[simp] lemma withDisk_disk : (v.withDisk disk).disk=disk := rfl
@[simp] lemma withDisk_inode : (v.withDisk disk).inode=v.inode := rfl
@[simp] lemma withDisk_opened:
 (v.withDisk disk).opened=v.opened := rfl

def makeStaging (path : JournalPath) : Volume:=
 v.withDisk { v.disk with staging:=Function.update v.disk.staging path true }

def renameNoReplace (source destination : JournalFile) (v : Volume) : ErrorCode × Volume:=
 match v.disk.files source with
 | none=>(noSuchFile,v)
 | some _=>
  if v.disk.files destination = none then
   (0,{ v with
    disk:=v.disk.rename source destination
    inode:=Function.update v.inode destination (v.inode source) })
  else (fileExists,v)

def call : StagingCall → Volume → ErrorCode × Volume
 | .openFile file, v=>
  match v.disk.files file with
  | none=>(noSuchFile,v)
  | some bytes=>(0,{ v with opened:=some (v.inode file,bytes) })
 | .makeStaging path, v=>
  if v.disk.staging path then (fileExists,v) else (0,v.makeStaging path)
 | .removeStaging path, v=>
  if v.disk.staging path = false then (noSuchFile,v)
  else if v.disk.files (.removalClaim path) = none then (0,v.withDisk (v.disk.removeStaging path))
  else (directoryNotEmpty,v)
 | .openStaging path, v=>(if v.disk.staging path then 0 else noSuchFile,v)
 | .claim path, v=>renameNoReplace (.path path) (.removalClaim path) v
 | .restore path, v=>renameNoReplace (.removalClaim path) (.path path) v
 | .unlinkClaim path, v=>
  match v.disk.files (.removalClaim path) with
  | none=>(noSuchFile,v)
  | some _=>(0,v.withDisk (v.disk.set (.removalClaim path) none))
 | .openParent, v=>(0,v)
 | .syncStaging _, v=>(0,v)
 | .syncParent, v=>(0,v)
 | .closeStaging, v=>(0,v)
 | .closeParent, v=>(0,v)
 | .closeFile, v=>(0,v)
 | .syncParentDirectory, v=>(0,v)

def statOf (inode : ℕ) (bytes : Bytes) : FileStat := { size:=bytes.length,inode:=inode }

/-- The answers of a file system on which nothing fails. -/
def answer : (op : RemovalOp) → Volume → RemovalReply op × Volume
 | .plain c, v=>call c v
 | .statFile, v=>
  match v.opened with
  | none=>({ failed:=true,errno:=badDescriptor },v)
  | some (inode,bytes)=>(statOf inode bytes,v)
 | .readFile offset count, v=>
  match v.opened with
  | none=>(.error badDescriptor,v)
  | some (_,bytes)=>(.ok ((bytes.drop offset).take count),v)
 | .statStaging path, v=>
  (if v.disk.staging path then {} else { failed:=true,errno:=noSuchFile },v)
 | .statClaim path, v=>
  match v.disk.files (.removalClaim path) with
  | none=>({ failed:=true,errno:=noSuchFile },v)
  | some bytes=>(statOf (v.inode (.removalClaim path)) bytes,v)
 | .removeEmptyRemovalStaging path, v=>
  let reply:=Disk.answer (.removeEmptyRemovalStaging path) v.disk
  (reply.1,v.withDisk reply.2)
 | .temporaryExists, v=>(.ok (v.disk.files (.path .temporary)).isSome,v)

def Reports : (op : RemovalOp) → RemovalReply op → Prop
 | .plain (.openFile _), error=>error≠0 ∧ error≠noSuchFile
 | .plain (.claim _), error=>error≠0 ∧ error≠noSuchFile
 | .plain _, error=>error≠0
 | .statFile, reply=>reply.failed = true
 | .readFile _ _, reply=>reply = .ok [] ∨ ∃ error,reply = .error error
 | .statStaging _, reply=>reply.failed = true
 | .statClaim _, reply=>reply.failed = true
 | .removeEmptyRemovalStaging _, reply=>reply.removed = false ∧ reply.error≠0
 | .temporaryExists, reply=>∃ error,reply = .error error

/-- A read may return less than was asked for. -/
def Short : (op : RemovalOp) → Volume → RemovalReply op → Prop
 | .readFile offset count, v, reply=>
  ∃ inode bytes part,v.opened = some (inode,bytes) ∧ part≠[] ∧
   part <+: (bytes.drop offset).take count ∧ reply = .ok part
 | _, _, _=>False

/-- A call that reports an error may have taken effect. -/
def Torn (op : RemovalOp) (before after : Volume) : Prop:=
 after = before ∨ after = (answer op before).2

/-- A file system that may report errors or, with `faults` false, one that never does. -/
def world (faults : Prop) : World RemovalOp RemovalReply Volume where
 answers op before reply after:=
  (reply,after) = answer op before ∨ (Short op before reply ∧ after = before) ∨
   (faults ∧ Reports op reply ∧ Torn op before after)
 cut op before after := faults ∧ Torn op before after

lemma world_answer (faults : Prop) (op : RemovalOp) (v : Volume):
 (world faults).answers op v (answer op v).1 (answer op v).2 := .inl rfl

end Volume

section Rules
variable {faults : Prop} {α β : Type} {v : Volume}

/-- Every run of the program to its end leaves a result and a volume that `post` holds of. -/
def Yields (faults : Prop) (p : RemovalProg α) (v : Volume) (post : α → Volume → Prop) : Prop:=
 wp (Volume.world faults) (fun _=>True) post p v

lemma yields_pure {a : α} {post : α → Volume → Prop} (h:post a v):
 Yields faults (pure a : RemovalProg α) v post:=
 ⟨trivial,h⟩

lemma yields_mono {p : RemovalProg α} {post post' : α → Volume → Prop}
 (h:Yields faults p v post) (hpost:∀a t,post a t → post' a t) : Yields faults p v post':=
 wp_mono (fun _ hcrash=>hcrash) hpost h

lemma yields_bind {p : RemovalProg α} {f : α → RemovalProg β} {post : β → Volume → Prop}
 (h:Yields faults p v fun a t=>Yields faults (f a) t post):
 Yields faults (p >>= f) v post:=by
 unfold Yields
 rw [wp_bind]
 exact h

lemma yields_step {p : RemovalProg α} {f : α → RemovalProg β} {mid : α → Volume → Prop}
 {post : β → Volume → Prop} (h:Yields faults p v mid)
 (hrest:∀a t,mid a t → Yields faults (f a) t post) : Yields faults (p >>= f) v post:=
 yields_bind (yields_mono h hrest)

lemma yields_of_all {p : RemovalProg α} {post : α → Volume → Prop} (h:∀a t,post a t):
 Yields faults p v post:=
 wp_of_runs (fun _ _=>trivial) fun a t _=>h a t

lemma yields_after {p : RemovalProg α} {f : α → RemovalProg β} {post : β → Volume → Prop}
 (h:∀a t,Yields faults (f a) t post) : Yields faults (p >>= f) v post:=
 yields_bind (yields_of_all h)

lemma yields_issue {op : RemovalOp} {post : RemovalReply op → Volume → Prop}
 (hanswer:post (Volume.answer op v).1 (Volume.answer op v).2)
 (hshort:∀reply,Volume.Short op v reply → post reply v)
 (hreport:∀reply after,faults → Volume.Reports op reply → Volume.Torn op v after →
  post reply after):
 Yields faults (Prog.issue op) v post:=by
 refine ⟨trivial,fun _ _=>trivial,?_⟩
 intro reply after h
 obtain hdone | ⟨hread,rfl⟩ | ⟨hfaults,hreports,hafter⟩:=h
 · obtain ⟨rfl,rfl⟩:=Prod.mk.inj hdone
   exact ⟨trivial,hanswer⟩
 · exact ⟨trivial,hshort reply hread⟩
 · exact ⟨trivial,hreport reply after hfaults hreports hafter⟩

lemma yields_perform {c : StagingCall} {post : ErrorCode → Volume → Prop}
 (hanswer:post (v.call c).1 (v.call c).2)
 (hreport:∀error after,faults → Volume.Reports (.plain c) error →
  Volume.Torn (.plain c) v after → post error after):
 Yields faults (perform c) v post:=
 yields_issue hanswer (fun _ h=>h.elim) hreport

lemma Yields.completes {p : RemovalProg α} {post : α → Volume → Prop} {a : α} {after : Volume}
 (h:Yields faults p v post) (hrun:Completes (Volume.world faults) p v a after):
 post a after:=
 (wp_completes h hrun).2

lemma Yields.run {p : RemovalProg α} {post : α → Volume → Prop} (h:Yields faults p v post):
 post (p.run Volume.answer v).1 (p.run Volume.answer v).2:=
 h.completes (run_completes (Volume.world_answer faults) p v)

lemma not_zero_of_reports {c : StagingCall} {error : ErrorCode}
 (h:Volume.Reports (.plain c) error) : error≠0:=by
 cases c with
 | openFile file=>exact h.1
 | claim path=>exact h.1
 | _=>exact h

lemma yields_checked {c : StagingCall} {f : ErrorCode → RemovalProg β} {g : RemovalProg β}
 {post : β → Volume → Prop} (hanswer:(v.call c).1=0)
 (hg:Yields faults g (v.call c).2 post)
 (hf:faults → ∀error after,error≠0 → Yields faults (f error) after post):
 Yields faults (perform c >>= fun error=>if error≠0 then f error else g) v post:=by
 apply yields_bind
 apply yields_perform
 · rw [if_neg (not_not.mpr hanswer)]
   exact hg
 · intro error after hfaults hreport _
   have herror:=not_zero_of_reports hreport
   rw [if_pos herror]
   exact hf hfaults error after herror

end Rules

end VoVe.MatchedRemovalVolume
