import VoVe.DurableJournal

set_option autoImplicit false

namespace VoVe.CurrentOperationJournal
open ByteCodec DurableJournal

def kCurrentOperationJournalSchemaVersion : UInt32 := 1
def kCurrentOperationJournalHeaderBytes : ℕ := 24
def kMaximumCurrentOperationPayloadBytes : ℕ:=
 kMaximumDurableJournalPayloadBytes - kCurrentOperationJournalHeaderBytes
def kMagic : Bytes := [0x56,0x4f,0x56,0x45,0x43,0x55,0x52,0x52]
def kReservedPrefix : Bytes := [0x56,0x4f,0x56,0x45]

/-- The kinds are open: a reader returns the number it finds unless it is zero. -/
structure CurrentOperationKind where
 value : UInt32
 deriving DecidableEq

namespace CurrentOperationKind
def batchRename : CurrentOperationKind := ⟨1⟩
def permanentDelete : CurrentOperationKind := ⟨2⟩
def fileTransfer : CurrentOperationKind := ⟨6⟩
end CurrentOperationKind

inductive CurrentOperationJournalEncoding where
 | none
 | typed
 | legacyUntyped
 deriving DecidableEq

structure CurrentOperationJournalReadResult extends DurableJournalReadResult where
 encoding : CurrentOperationJournalEncoding := .none
 kind : CurrentOperationKind := ⟨0⟩
 deriving DecidableEq

variable (kind : CurrentOperationKind)

def encode (payload : Bytes) : Bytes:=
 kMagic++(appendInteger kCurrentOperationJournalSchemaVersion++(appendInteger kind.value ++
  (appendInteger (UInt32.ofNat payload.length)++(appendInteger (crc32 payload)++payload))))

/-- The store keeps the default limit of the durable store below it. -/
def durable : DurableJournalStore := {}

def write (kind : CurrentOperationKind) (payload : Bytes) : JournalProg DurableJournalResult:=
 if kind.value = 0 then pure { status:=.corrupt }
 else if payload.length > kMaximumCurrentOperationPayloadBytes then
  pure { status:=.payloadTooLarge }
 else durable.write (encode kind payload)

/-- What a durable record that was read means. -/
def decode (stored : DurableJournalReadResult) : CurrentOperationJournalReadResult:=
 let bytes:=stored.payload
 let corrupt : CurrentOperationJournalReadResult:=
  { status:=.corrupt,error:=stored.error }
 let payloadSize:=(readU32Le bytes 16).toNat
 let payload:=(bytes.drop kCurrentOperationJournalHeaderBytes).take payloadSize
 if ¬stored.ok then { status:=stored.status,error:=stored.error,source:=stored.source }
 else if ¬kMagic <+: bytes then
  if kReservedPrefix <+: bytes then corrupt
  else { toDurableJournalReadResult:=stored,encoding:=.legacyUntyped }
 else if bytes.length < kCurrentOperationJournalHeaderBytes ∨
   readU32Le bytes 8≠kCurrentOperationJournalSchemaVersion then corrupt
 else if readU32Le bytes 12 = 0 ∨ payloadSize > kMaximumCurrentOperationPayloadBytes ∨
   bytes.length≠kCurrentOperationJournalHeaderBytes+payloadSize then corrupt
 else if readU32Le bytes 20≠crc32 payload then corrupt
 else { status:=stored.status,error:=stored.error,source:=stored.source,
        payload:=payload,encoding := .typed,kind := ⟨readU32Le bytes 12⟩ }

def read : JournalProg CurrentOperationJournalReadResult := do
 let stored ← durable.read
 pure (decode stored)

def remove : JournalProg DurableJournalResult := DurableJournalStore.remove

lemma encode_length (payload : Bytes):
 (encode kind payload).length=kCurrentOperationJournalHeaderBytes+payload.length:=by
 simp [encode,kMagic,kCurrentOperationJournalHeaderBytes,WireInteger.width]
 omega

section RoundTrip
variable (kind : CurrentOperationKind) (payload : Bytes)

lemma encode_drop:
 (encode kind payload).drop kCurrentOperationJournalHeaderBytes=payload:=by
 have hsplit:encode kind payload=(kMagic++appendInteger kCurrentOperationJournalSchemaVersion ++
   appendInteger kind.value++appendInteger (UInt32.ofNat payload.length) ++
   appendInteger (crc32 payload))++payload:=by
  simp only [encode,List.append_assoc]
 rw [hsplit]
 exact List.drop_left' (by simp [kMagic,kCurrentOperationJournalHeaderBytes,WireInteger.width])

lemma encode_schema:
 readU32Le (encode kind payload) 8=kCurrentOperationJournalSchemaVersion:=
 readU32Le_append kMagic _ _ 8 rfl

lemma encode_kind : readU32Le (encode kind payload) 12=kind.value:=by
 have hread:=readU32Le_append (kMagic++appendInteger kCurrentOperationJournalSchemaVersion)
  kind.value (appendInteger (UInt32.ofNat payload.length) ++
   (appendInteger (crc32 payload)++payload)) 12 (by simp [kMagic,WireInteger.width])
 rwa [List.append_assoc] at hread

lemma encode_size (h:payload.length<2 ^ 32):
 (readU32Le (encode kind payload) 16).toNat=payload.length:=by
 have hread:=readU32Le_append (kMagic++(appendInteger kCurrentOperationJournalSchemaVersion ++
  appendInteger kind.value)) (UInt32.ofNat payload.length) (appendInteger (crc32 payload)++payload)
  16 (by simp [kMagic,WireInteger.width])
 simp only [List.append_assoc] at hread
 rw [encode,hread,UInt32.toNat_ofNat']
 omega

lemma encode_crc32 : readU32Le (encode kind payload) 20=crc32 payload:=by
 have hread:=readU32Le_append (kMagic++(appendInteger kCurrentOperationJournalSchemaVersion ++
  (appendInteger kind.value++appendInteger (UInt32.ofNat payload.length)))) (crc32 payload)
  payload 20 (by simp [kMagic,WireInteger.width])
 simp only [List.append_assoc] at hread
 exact hread

lemma decode_encode (source : DurableJournalReadSource) (hkind:kind.value≠0)
 (hsize:payload.length≤kMaximumCurrentOperationPayloadBytes):
 decode (DurableJournalStore.foundIn source (encode kind payload))=
  { status:=.success,source:=source,payload:=payload,encoding:=.typed,
    kind:=kind }:=by
 have hsmall:payload.length<2 ^ 32:=by
  unfold kMaximumCurrentOperationPayloadBytes kMaximumDurableJournalPayloadBytes at hsize
  omega
 have hmagic:kMagic <+: encode kind payload:=List.prefix_append _ _
 have hlength:=encode_length kind payload
 unfold decode
 simp only [DurableJournalStore.foundIn,DurableJournalResult.ok,decide_true,not_true_eq_false,
  if_false,hmagic,encode_schema,encode_kind,encode_size kind payload hsmall,encode_drop,
  encode_crc32,hlength,hkind,List.take_length,ne_eq,or_false,Nat.not_lt.mpr hsize,
  Nat.not_lt.mpr (Nat.le_add_right _ _)]

end RoundTrip

end VoVe.CurrentOperationJournal
