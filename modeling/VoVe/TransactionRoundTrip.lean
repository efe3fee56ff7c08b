import VoVe.BatchTransactionCodec
import VoVe.DeleteTransaction

set_option autoImplicit false

namespace VoVe.TransactionRoundTrip
open ByteCodec AsciiText PosixPath BatchTransaction BatchTransactionCodec DeleteTransaction

/-- A batch-rename or permanent-delete record reads back as it was exactly when
  the texts its decoder checks are valid UTF-8. -/
theorem rename_delete_roundTrip (detail : Bytes):
 (∀transaction payload,encodeBatchTransaction transaction=.ok payload →
  (decodeBatchTransaction payload detail=.ok transaction ↔ batchTextsValid transaction)) ∧
 (∀transaction payload,encodePermanentDeleteTransaction transaction=.ok payload →
  (decodePermanentDeleteTransaction payload detail=.ok transaction ↔
   deleteTextsValid transaction)):=
 ⟨fun _ _ h=>(decode_encodeBatchTransaction h detail).iff,
  fun _ _ h=>(decode_encodePermanentDeleteTransaction h detail).iff⟩

def pathOf (text : String) : Path := ⟨utf8 text⟩

def revision : Bytes := utf8 "posix:1:2:3"

/-- The file whose name is the single byte 0xff, renamed to `a`. -/
def renameOfLatinName : BatchRenameTransaction where
 operationId:=1
 items:=[{ source:=⟨utf8 "/d/" ++ [0xff]⟩,temporary:=pathOf "/d/.vove-1-0.tmp",
           destination:=pathOf "/d/a",current := ⟨utf8 "/d/" ++ [0xff]⟩,
           currentSnapshot:={ sourceRevisionUtf8:=revision } }]

def deleteOfLatinName : PermanentDeleteTransaction where
 operationId:=1
 items:=[{ source:=⟨utf8 "/d/" ++ [0xff]⟩,temporary:=pathOf "/d/.vove-delete-1-0.tmp",
           current:=⟨utf8 "/d/" ++ [0xff]⟩,
           currentSnapshot:={ sourceRevisionUtf8:=revision } }]

lemma renameOfLatinName_encodes:
 encodeBatchTransaction renameOfLatinName=.ok (batchPayload renameOfLatinName):=by
 rw [encodeBatchTransaction_iff,←validBatchTransaction_iff]
 decide +kernel

lemma deleteOfLatinName_encodes:
 encodePermanentDeleteTransaction deleteOfLatinName=.ok (deletePayload deleteOfLatinName):=by
 rw [encodePermanentDeleteTransaction_iff,←validPermanentDeleteTransaction_iff]
 decide +kernel

theorem rename_delete_roundTrip_latin:
 (decodeBatchTransaction (batchPayload renameOfLatinName) []=.ok renameOfLatinName ↔
  batchTextsValid renameOfLatinName) ∧
 (decodePermanentDeleteTransaction (deletePayload deleteOfLatinName) []=.ok deleteOfLatinName ↔
  deleteTextsValid deleteOfLatinName):=
 ⟨(rename_delete_roundTrip []).1 _ _ renameOfLatinName_encodes,
  (rename_delete_roundTrip []).2 _ _ deleteOfLatinName_encodes⟩

/-- Neither record of a file with that name can be read back. -/
theorem rename_delete_unreadable:
 (¬∀transaction payload detail,encodeBatchTransaction transaction=.ok payload →
  decodeBatchTransaction payload detail=.ok transaction) ∧
 (¬∀transaction payload detail,encodePermanentDeleteTransaction transaction=.ok payload →
  decodePermanentDeleteTransaction payload detail=.ok transaction):=by
 constructor
 · intro h
   have hread:=h _ _ [] renameOfLatinName_encodes
   rw [(decode_encodeBatchTransaction renameOfLatinName_encodes []).iff] at hread
   revert hread
   decide +kernel
 · intro h
   have hread:=h _ _ [] deleteOfLatinName_encodes
   rw [(decode_encodePermanentDeleteTransaction deleteOfLatinName_encodes []).iff] at hread
   revert hread
   decide +kernel

end VoVe.TransactionRoundTrip
