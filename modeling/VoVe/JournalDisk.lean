import VoVe.DurableJournal

set_option autoImplicit false

/-! The directory a journal store works in, how its calls may fail and what a
  crash during one of them may leave. -/

namespace VoVe.JournalDisk
open ByteCodec EffectProgram DurableJournal

structure Disk where
 files : JournalFile → Option Bytes
 staging : JournalPath → Bool

namespace Disk

def empty : Disk where
 files _ := none
 staging _ := false

variable (disk : Disk) (file : JournalFile)

def set (content : Option Bytes) : Disk:=
 { disk with files:=Function.update disk.files file content }

def rename (source destination : JournalFile) : Disk:=
 match disk.files source with
 | none=>disk
 | some content=>(disk.set destination (some content)).set source none

def readFileBytes (maximumBytes : ℕ) : FileReadResult:=
 match disk.files file with
 | none=>{ status:=.missing }
 | some bytes=>
  if bytes.length > maximumBytes then { status:=.tooLarge }
  else { status:=.success,bytes:=bytes }

def inspect (maximumPayloadBytes : ℕ) : InspectionResult:=
 inspectionOf maximumPayloadBytes
  (disk.readFileBytes file (maximumEnvelopeBytes maximumPayloadBytes))

def removeStaging (path : JournalPath) : Disk:=
 { disk with staging:=Function.update disk.staging path false }

/-- The answers of a file system on which nothing fails. -/
def answer : (op : JournalOp) → Disk → JournalReply op × Disk
 | .readFileBytes file maximumBytes, disk=>(disk.readFileBytes file maximumBytes,disk)
 | .writeFileDurably file bytes, disk=>
  match disk.files file with
  | none=>(0,disk.set file (some bytes))
  | some _=>(fileExists,disk)
 | .replacePathDurably source destination, disk=>
  match disk.files source with
  | none=>(noSuchFile,disk)
  | some _=>(0,disk.rename source destination)
 | .syncParentDirectory, disk=>(0,disk)
 | .removePath file, disk=>
  match disk.files file with
  | none=>({ removed:=false },disk)
  | some _=>({ removed:=true },disk.set file none)
 | .removeEmptyRemovalStaging path, disk=>
  if disk.staging path then
   if disk.files (.removalClaim path) = none then ({ removed:=true },disk.removeStaging path)
   else ({ error:=directoryNotEmpty },disk)
  else ({ removed:=false },disk)

/-- The states an operation that failed or was cut may leave: a rename or an
  unlink took effect or not, a file write left a prefix or no file. -/
def Torn : JournalOp → Disk → Disk → Prop
 | .readFileBytes _ _, before, after=>after = before
 | .writeFileDurably file bytes, before, after=>
  after = before ∨ (before.files file = none ∧ ∃ part,part <+: bytes ∧
   after = before.set file (some part))
 | .replacePathDurably source destination, before, after=>
  after = before ∨ after = before.rename source destination
 | .syncParentDirectory, before, after=>after = before
 | .removePath file, before, after=>after = before ∨ after = before.set file none
 | .removeEmptyRemovalStaging path, before, after=>
  after = before ∨ (before.files (.removalClaim path) = none ∧ after = before.removeStaging path)

def Reports : (op : JournalOp) → JournalReply op → Prop
 | .readFileBytes _ _, reply=>
  (reply.status = .ioError ∧ reply.error≠0) ∨ reply.status = .shortRead
 | .writeFileDurably _ _, error=>error≠0
 | .replacePathDurably _ _, error=>error≠0
 | .syncParentDirectory, error=>error≠0
 | .removePath _, reply=>reply.removed = false ∧ reply.error≠0
 | .removeEmptyRemovalStaging _, reply=>reply.removed = false ∧ reply.error≠0

/-- Every call may be answered as it should or report an error, and every call
  may be cut by a crash. -/
def faulty : World JournalOp JournalReply Disk where
 answers op before reply after:=
  (reply,after) = answer op before ∨ (Reports op reply ∧ Torn op before after)
 cut:=Torn

variable (op : JournalOp)

lemma torn_refl (disk : Disk) : Torn op disk disk:=by
 cases op with
 | readFileBytes file maximumBytes=>rfl
 | writeFileDurably file bytes=>exact .inl rfl
 | replacePathDurably source destination=>exact .inl rfl
 | syncParentDirectory=>rfl
 | removePath file=>exact .inl rfl
 | removeEmptyRemovalStaging path=>exact .inl rfl

lemma torn_answer (disk : Disk) : Torn op disk (answer op disk).2:=by
 cases op with
 | readFileBytes file maximumBytes=>rfl
 | writeFileDurably file bytes=>
  cases hfile:disk.files file with
  | none=>exact .inr ⟨hfile,bytes,List.prefix_rfl,by simp [answer,hfile]⟩
  | some content=>exact .inl (by simp [answer,hfile])
 | replacePathDurably source destination=>
  cases hsource:disk.files source with
  | none=>exact .inl (by simp [answer,hsource])
  | some content=>exact .inr (by simp [answer,hsource])
 | syncParentDirectory=>rfl
 | removePath file=>
  cases hfile:disk.files file with
  | none=>exact .inl (by simp [answer,hfile])
  | some content=>exact .inr (by simp [answer,hfile])
 | removeEmptyRemovalStaging path=>
  simp only [answer]
  split
  · split
    · next h => exact .inr ⟨h,rfl⟩
    · exact .inl rfl
  · exact .inl rfl

lemma faulty_answer (disk : Disk):
 faulty.answers op disk (answer op disk).1 (answer op disk).2 := .inl rfl

end Disk

variable (store : DurableJournalStore) (disk : Disk)

/-- What a read returns while nothing fails. -/
def readOutcome : DurableJournalReadResult := (store.read.run Disk.answer disk).1

def primaryOutcome : DurableJournalReadResult:=
 (store.readPrimaryGeneration.run Disk.answer disk).1

def previousOutcome : DurableJournalReadResult:=
 (store.readPreviousGeneration.run Disk.answer disk).1

/-- The calls that change a store. -/
inductive Mutation (store : DurableJournalStore) : JournalProg DurableJournalResult → Prop where
 | write (payload : Bytes) : Mutation store (store.write payload)
 | remove : Mutation store DurableJournalStore.remove

/-- The states that complete and interrupted calls leave, from an empty directory. -/
def Reachable : Disk → Prop := Reach Disk.faulty (Mutation store) (· = Disk.empty)

/-- The payloads of the two generations. -/
structure Generations where
 primary : Option Bytes
 previous : Option Bytes

structure Represents (store : DurableJournalStore) (disk : Disk) (generations : Generations):
  Prop where
 primary : disk.files (.path .primary)=generations.primary.map makeEnvelope
 previous : disk.files (.path .previous)=generations.previous.map makeEnvelope
 noClaims : ∀path,disk.files (.removalClaim path)=none
 primary_fits : ∀p,generations.primary=some p → p.length ≤ store.maximumPayloadBytes
 previous_fits : ∀p,generations.previous=some p → p.length ≤ store.maximumPayloadBytes

/-- A read shows the primary generation, else the previous one. -/
def Generations.outcome (generations : Generations) : DurableJournalReadResult:=
 match generations.primary with
 | some p=>DurableJournalStore.foundIn .primary p
 | none=>
  match generations.previous with
  | some q=>DurableJournalStore.foundIn .previous q
  | none=>{ status:=.notFound }

section Inspection
variable {store : DurableJournalStore} {disk : Disk} {generations : Generations}

lemma inspect_none {file : JournalFile} (h:disk.files file=none) (limit : ℕ):
 disk.inspect file limit={ status:=.missing }:=by
 simp [Disk.inspect,Disk.readFileBytes,h,inspectionOf]

lemma inspect_envelope {file : JournalFile} {payload : Bytes}
 (h:disk.files file=some (makeEnvelope payload))
 (hfits:payload.length ≤ store.maximumPayloadBytes):
 disk.inspect file store.maximumPayloadBytes={ status:=.valid,payload:=payload }:=by
 have hlength:¬(makeEnvelope payload).length>maximumEnvelopeBytes store.maximumPayloadBytes:=by
  rw [makeEnvelope_length,maximumEnvelopeBytes]
  omega
 simp only [Disk.inspect,Disk.readFileBytes,h,if_neg hlength,inspectionOf]
 exact inspectEnvelope_makeEnvelope payload _ hfits store.limit

lemma inspect_run (file : JournalFile) (limit : ℕ):
 (inspect file limit).run Disk.answer disk=(disk.inspect file limit,disk) := rfl

section
variable (h:Represents store disk generations)
include h

lemma Represents.inspect_claim (path : JournalPath):
 disk.inspect (.removalClaim path) store.maximumPayloadBytes={ status:=.missing }:=
 inspect_none (h.noClaims path) _

lemma Represents.inspect_primary : disk.inspect (.path .primary) store.maximumPayloadBytes=
   match generations.primary with
   | some p=>{ status:=.valid,payload:=p }
   | none=>{ status:=.missing }:=by
 cases hp:generations.primary with
 | none=>exact inspect_none (by rw [h.primary,hp]; rfl) _
 | some p=>exact inspect_envelope (by rw [h.primary,hp]; rfl) (h.primary_fits p hp)

lemma Represents.inspect_previous : disk.inspect (.path .previous) store.maximumPayloadBytes=
   match generations.previous with
   | some q=>{ status:=.valid,payload:=q }
   | none=>{ status:=.missing }:=by
 cases hq:generations.previous with
 | none=>exact inspect_none (by rw [h.previous,hq]; rfl) _
 | some q=>exact inspect_envelope (by rw [h.previous,hq]; rfl) (h.previous_fits q hq)

lemma Represents.readOutcome : readOutcome store disk=generations.outcome:=by
 simp only [JournalDisk.readOutcome,DurableJournalStore.read,DurableJournalStore.inspectWithClaim,
  Generations.outcome,Prog.run_bind,inspect_run,h.inspect_primary]
 cases hp:generations.primary with
 | some p=>simp
 | none=>
  cases hq:generations.previous with
  | some q=>simp [inspect_run,h.inspect_claim,h.inspect_previous,hq]
  | none=>simp [inspect_run,h.inspect_claim,h.inspect_previous,hq]

lemma Represents.primaryOutcome : primaryOutcome store disk=
   match generations.primary with
   | some p=>DurableJournalStore.foundIn .primary p
   | none=>{ status:=.notFound }:=by
 simp only [JournalDisk.primaryOutcome,DurableJournalStore.readPrimaryGeneration,
  DurableJournalStore.readGeneration,Prog.run_bind,inspect_run,h.inspect_primary]
 cases hp:generations.primary with
 | some p=>simp
 | none=>simp [inspect_run,h.inspect_claim]

lemma Represents.previousOutcome : previousOutcome store disk=
   match generations.previous with
   | some q=>DurableJournalStore.foundIn .previous q
   | none=>{ status:=.notFound }:=by
 simp only [JournalDisk.previousOutcome,DurableJournalStore.readPreviousGeneration,
  DurableJournalStore.readGeneration,Prog.run_bind,inspect_run,h.inspect_previous]
 cases hq:generations.previous with
 | some q=>simp
 | none=>simp [inspect_run,h.inspect_claim]

end

end Inspection

section Effects
variable {store : DurableJournalStore} {disk : Disk} {generations : Generations}

lemma empty_represents : Represents store Disk.empty ⟨none,none⟩ where
 primary:=rfl
 previous:=rfl
 noClaims _ := rfl
 primary_fits _ h := by cases h
 previous_fits _ h := by cases h

section
variable (h:Represents store disk generations)
include h

lemma Represents.set_temporary (content : Option Bytes):
  Represents store (disk.set (.path .temporary) content) generations where
 primary:=by simpa [Disk.set] using h.primary
 previous:=by simpa [Disk.set] using h.previous
 noClaims path := by simpa [Disk.set] using h.noClaims path
 primary_fits:=h.primary_fits
 previous_fits:=h.previous_fits

lemma Represents.removeStaging (path : JournalPath):
 Represents store (disk.removeStaging path) generations:=
 ⟨h.primary,h.previous,h.noClaims,h.primary_fits,h.previous_fits⟩

lemma Represents.set_claim (path : JournalPath):
  Represents store (disk.set (.removalClaim path) none) generations where
 primary:=by simpa [Disk.set] using h.primary
 previous:=by simpa [Disk.set] using h.previous
 noClaims other:=by
  by_cases hp:other=path
  · simp [Disk.set,hp]
  · simpa [Disk.set,hp] using h.noClaims other
 primary_fits:=h.primary_fits
 previous_fits:=h.previous_fits

lemma Represents.remove_primary:
  Represents store (disk.set (.path .primary) none) ⟨none,generations.previous⟩ where
 primary:=by simp [Disk.set]
 previous:=by simpa [Disk.set] using h.previous
 noClaims path := by simpa [Disk.set] using h.noClaims path
 primary_fits _ hp := by cases hp
 previous_fits:=h.previous_fits

lemma Represents.remove_previous:
  Represents store (disk.set (.path .previous) none) ⟨generations.primary,none⟩ where
 primary:=by simpa [Disk.set] using h.primary
 previous:=by simp [Disk.set]
 noClaims path := by simpa [Disk.set] using h.noClaims path
 primary_fits:=h.primary_fits
 previous_fits _ hq := by cases hq

end

lemma Represents.rotate {old : Bytes} {previous : Option Bytes}
  (h:Represents store disk ⟨some old,previous⟩):
  Represents store (disk.rename (.path .primary) (.path .previous)) ⟨none,some old⟩ where
 primary:=by simp [Disk.rename,Disk.set,h.primary]
 previous:=by simp [Disk.rename,Disk.set,h.primary]
 noClaims path := by simpa [Disk.rename,Disk.set,h.primary] using h.noClaims path
 primary_fits _ hp := by cases hp
 previous_fits p hp := h.primary_fits p hp

lemma Represents.publish {payload : Bytes} (h:Represents store disk generations)
  (htemporary:disk.files (.path .temporary)=some (makeEnvelope payload))
  (hfits:payload.length ≤ store.maximumPayloadBytes):
  Represents store (disk.rename (.path .temporary) (.path .primary))
   ⟨some payload,generations.previous⟩ where
 primary:=by simp [Disk.rename,Disk.set,htemporary]
 previous:=by simpa [Disk.rename,Disk.set,htemporary] using h.previous
 noClaims path := by simpa [Disk.rename,Disk.set,htemporary] using h.noClaims path
 primary_fits p hp:=by
  obtain rfl : payload=p:=by simpa using hp
  exact hfits
 previous_fits:=h.previous_fits

end Effects

end VoVe.JournalDisk
