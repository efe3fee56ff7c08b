import VoVe.OperationWorld

set_option autoImplicit false

namespace VoVe.JournalRecord
open ByteCodec DurableJournal JournalDisk JournalAtomicity CurrentOperationJournal
open TransactionCodec OperationWorld

variable {T : Type} (kind : CurrentOperationKind) (encodeRecord : T → Except Thrown Bytes)
 (idle : T → Prop) (describes : T → Prop)

/-- The bytes are the journal's form of this record. -/
def Holds (bytes : Bytes) (t : T) : Prop:=
 ∃ payload,encodeRecord t = .ok payload ∧
  payload.length ≤ kMaximumCurrentOperationPayloadBytes ∧ bytes = encode kind payload

/-- The record is the one a read shows. -/
def Recorded (generations : Generations) (t : T) : Prop:=
 ∃ bytes,Holds kind encodeRecord bytes t ∧
  ((generations.primary = some bytes ∧ (idle t → ∀older,generations.previous = some older →
    ∃ u,Holds kind encodeRecord older u ∧ describes u)) ∨
   (generations.primary = none ∧ generations.previous = some bytes))

/-- The journal shows a record that describes the state, or it is empty and
  `nothing` is true of the state. -/
inductive Kept (nothing : Prop) (generations : Generations) : Prop where
 | recorded (t : T) (h:Recorded kind encodeRecord idle describes generations t)
  (hdescribes:describes t)
 | empty (h:generations = ⟨none,none⟩) (hnothing:nothing)

section Changes
variable {kind encodeRecord idle describes} {generations after : Generations} {t next : T}
 {bytes : Bytes} {nothing : Prop}

lemma Recorded.active {describes' : T → Prop}
 (h:Recorded kind encodeRecord idle describes generations t) (hactive:¬idle t):
 Recorded kind encodeRecord idle describes' generations t:=by
 obtain ⟨bytes,hholds,⟨hprimary,-⟩ | hprevious⟩:=h
 · exact ⟨bytes,hholds,.inl ⟨hprimary,fun hidle=>absurd hidle hactive⟩⟩
 · exact ⟨bytes,hholds,.inr hprevious⟩

lemma Recorded.mono {describes' : T → Prop}
 (h:Recorded kind encodeRecord idle describes generations t)
 (hmono:∀u,describes u → describes' u):
 Recorded kind encodeRecord idle describes' generations t:=by
 obtain ⟨bytes,hholds,⟨hprimary,holder⟩ | hprevious⟩:=h
 · refine ⟨bytes,hholds,.inl ⟨hprimary,fun hidle older hq=>?_⟩⟩
   obtain ⟨u,hu,hd⟩:=holder hidle older hq
   exact ⟨u,hu,hmono u hd⟩
 · exact ⟨bytes,hholds,.inr hprevious⟩

section
variable (h:Recorded kind encodeRecord idle describes generations t)
include h

lemma Recorded.restated
 (hholds:∀bytes,Holds kind encodeRecord bytes t → Holds kind encodeRecord bytes next)
 (hidle:idle next → idle t) : Recorded kind encodeRecord idle describes generations next:=by
 obtain ⟨bytes,hbytes,⟨hprimary,holder⟩ | hprevious⟩:=h
 · exact ⟨bytes,hholds bytes hbytes,.inl ⟨hprimary,fun hnext=>holder (hidle hnext)⟩⟩
 · exact ⟨bytes,hholds bytes hbytes,.inr hprevious⟩

lemma Recorded.previous_rotated:
 ∃ older,(rotated generations).previous=some older ∧ Holds kind encodeRecord older t:=by
 obtain ⟨older,hholds,⟨hprimary,-⟩ | ⟨hprimary,hprevious⟩⟩:=h
 · exact ⟨older,by simp [rotated,hprimary],hholds⟩
 · exact ⟨older,by simp [rotated,hprimary,hprevious],hholds⟩

lemma Recorded.rotated : Recorded kind encodeRecord idle describes (rotated generations) t:=by
 obtain ⟨older,hprevious,hholds⟩:=h.previous_rotated
 refine ⟨older,hholds,.inr ⟨?_,hprevious⟩⟩
 obtain ⟨primary,previous⟩:=generations
 cases primary with
 | none=>rfl
 | some old=>rfl

lemma Recorded.written
 (ht:describes t) (hnext:Holds kind encodeRecord bytes next):
 Recorded kind encodeRecord idle describes (written generations bytes) next:=by
 refine ⟨bytes,hnext,.inl ⟨rfl,fun _ older holder=>?_⟩⟩
 obtain ⟨older',hprevious,hholds⟩:=h.previous_rotated
 obtain rfl : older'=older:=Option.some.inj (hprevious.symm.trans holder)
 exact ⟨t,hholds,ht⟩

lemma Recorded.writeLeaves
 (ht:describes t) (hnext:Holds kind encodeRecord bytes next) (hdescribes:describes next)
 (hafter:WriteLeaves bytes generations after):
 Kept kind encodeRecord idle describes nothing after:=by
 cases hafter with
 | unchanged=>exact .recorded t h ht
 | rotated=>exact .recorded t h.rotated ht
 | written=>exact .recorded next (h.written ht hnext) hdescribes

end

lemma written_empty (hnext:Holds kind encodeRecord bytes next):
 Recorded kind encodeRecord idle describes (written ⟨none,none⟩ bytes) next:=
 ⟨bytes,hnext,.inl ⟨rfl,fun _ older holder=>by cases holder⟩⟩

lemma Recorded.removeStep (h:Recorded kind encodeRecord idle describes generations t)
 (hidle:idle t) (ht:describes t) (hnothing:nothing)
 (hafter:RemoveStep generations after):
 Kept kind encodeRecord idle describes nothing after:=by
 obtain ⟨bytes,hholds,hshown⟩:=h
 obtain ⟨hprimary,hprevious⟩:=hafter
 obtain ⟨primary,previous⟩:=after
 dsimp only at hprimary hprevious
 have hempty:primary=none → previous=none →
   Kept kind encodeRecord idle describes nothing ⟨primary,previous⟩:=by
  rintro rfl rfl
  exact .empty rfl hnothing
 have hshows:∀ {u : T} {older : Bytes},primary=none → previous=some older →
   Holds kind encodeRecord older u → describes u →
   Kept kind encodeRecord idle describes nothing ⟨primary,previous⟩:=by
  intro u older hp hq hu hd
  exact .recorded u ⟨older,hu,.inr ⟨hp,hq⟩⟩ hd
 obtain ⟨hsome,holder⟩ | ⟨hnone,hsome⟩:=hshown
 · obtain hprimary | hprimary:=hprimary
   · refine .recorded t ⟨bytes,hholds,.inl ⟨hprimary.trans hsome,fun _ older hq=>?_⟩⟩ ht
     obtain hprevious | hprevious:=hprevious
     · exact holder hidle older (hprevious.symm.trans hq)
     · rw [hprevious] at hq
       cases hq
   · cases hq:previous with
     | none=>exact hq ▸ hempty hprimary hq
     | some older=>
      obtain hprevious | hprevious:=hprevious
      · obtain ⟨u,hu,hd⟩:=holder hidle older (hprevious.symm.trans hq)
        exact hq ▸ hshows hprimary hq hu hd
      · rw [hprevious] at hq
        cases hq
 · have hprimary:primary=none:=by
    obtain hprimary | hprimary:=hprimary
    · exact hprimary.trans hnone
    · exact hprimary
   obtain hprevious | hprevious:=hprevious
   · exact hshows hprimary (hprevious.trans hsome) hholds ht
   · exact hempty hprimary hprevious

lemma Recorded.reads (h:Recorded kind encodeRecord idle describes generations t)
 (hkind:kind.value≠0) {loaded : CurrentOperationJournalReadResult}
 (hread:ReadsJournal generations loaded):
 loaded.ok=false ∨ ∃ payload,encodeRecord t=.ok payload ∧ loaded.ok ∧
  loaded.encoding=.typed ∧ loaded.kind=kind ∧ loaded.payload=payload:=by
 obtain hread | hread:=hread
 · right
   obtain ⟨bytes,⟨payload,hencoded,hsize,rfl⟩,hshown⟩:=h
   have houtcome:∃ source,generations.outcome=
     DurableJournalStore.foundIn source (encode kind payload):=by
    obtain ⟨hprimary,-⟩ | ⟨hprimary,hprevious⟩:=hshown
    · exact ⟨.primary,by rw [Generations.outcome,hprimary]⟩
    · exact ⟨.previous,by rw [Generations.outcome,hprimary,hprevious]⟩
   obtain ⟨source,houtcome⟩:=houtcome
   rw [houtcome,decode_encode kind payload source hkind hsize] at hread
   subst hread
   exact ⟨payload,hencoded,rfl,rfl,rfl,rfl⟩
 · exact .inl hread

end Changes

end VoVe.JournalRecord
