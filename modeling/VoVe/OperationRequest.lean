import VoVe.FileOperation

set_option autoImplicit false

namespace VoVe.OperationRequest
open ByteCodec AsciiText PosixPath FileOperation

inductive RenameAction where
 | execute
 | reconcileOnly
 deriving DecidableEq

inductive RenameMode where
 | singlePreserveExtension
 | batchInternal
 | trashInternal
 | trashRestore
 | transferAtomic
 | transferStage
 | transferPublish
 | transferRestore
 | singleAllowExtensionChange
 | transferPublishReplace
 | transferAtomicReplace
 | transferOverwriteStage
 | transferOverwriteRestore
 | trashStorePreservePermissions
 | trashRestorePreservePermissions
 deriving DecidableEq

inductive DeleteAction where
 | execute
 | reconcileOnly
 deriving DecidableEq

inductive DeleteMode where
 | permanentRemote
 | trashPurge
 | transferTempCleanup
 | transferSourceCommit
 | transferOverwriteCleanup
 | trashPurgePreservePermissions
 deriving DecidableEq

structure RenameRequest where
 operationId : UInt64 := 0
 action : RenameAction := .execute
 mode : RenameMode := .singlePreserveExtension
 objectKind : OperationObjectKind := .regularFile
 source : Path := ⟨[]⟩
 destination : Path := ⟨[]⟩
 expectedSource : SourceSnapshot := {}
 sourceParentIdentityUtf8 : Bytes := []
 destinationParentIdentityUtf8 : Bytes := []
 destinationAnchorPath : Path := ⟨[]⟩
 destinationAnchorIdentityUtf8 : Bytes := []
 expectedDestination : SourceSnapshot := {}
 trashSecurityBaselineSddlUtf8 : Bytes := []
 deriving DecidableEq

structure DeleteRequest where
 operationId : UInt64 := 0
 action : DeleteAction := .execute
 mode : DeleteMode := .permanentRemote
 objectKind : OperationObjectKind := .regularFile
 source : Path := ⟨[]⟩
 expectedSource : SourceSnapshot := {}
 sourceParentIdentityUtf8 : Bytes := []
 guardPath : Path := ⟨[]⟩
 expectedGuard : SourceSnapshot := {}
 guardParentIdentityUtf8 : Bytes := []
 trashSecurityBaselineSddlUtf8 : Bytes := []
 deriving DecidableEq

def RenameRequest.expectedIdentity (request : RenameRequest) : Bytes:=
 stableObjectIdentity request.expectedSource.sourceRevisionUtf8

def DeleteRequest.expectedIdentity (request : DeleteRequest) : Bytes:=
 stableObjectIdentity request.expectedSource.sourceRevisionUtf8

/-- The four observations a reconciliation adds to an attempt. -/
def observedAs (attempted observed : OperationResult) : OperationResult:=
 { attempted with
   sourcePresent:=observed.sourcePresent
   sourceMatchesExpected:=observed.sourceMatchesExpected
   destinationPresent:=observed.destinationPresent
   destinationMatchesSource:=observed.destinationMatchesSource }

def evidenceConflicts (attempted observed : OperationEvidence) : Bool:=
 (attempted = .conflicting ∨ observed = .conflicting) ∨
  (attempted = .committed ∧ observed = .noCommit) ∨ (attempted = .noCommit ∧ observed = .committed)

def mergeReconciliation (attempted observed : OperationResult) : OperationResult:=
 if evidenceConflicts attempted.evidence observed.evidence then
  { observedAs attempted observed with
    status:=.unknownOutcome
    evidence:=.conflicting
    platformCode:=observed.platformCode
    confirmedSnapshot:={}
    detailUtf8:=utf8
     "operation result conflicts with read-only reconciliation; recovery is required" }
 else if attempted.status = .unknownOutcome ∧ attempted.evidence = .committed ∧
   attempted.destinationPresent ∧ attempted.destinationMatchesSource ∧
   observed.status = .success ∧ observed.evidence = .committed then
  { observedAs attempted observed with confirmedSnapshot:=observed.confirmedSnapshot }
 else if observed.status = .success ∨ observed.status = .conflict ∨
   observed.status = .sourceChanged then
  if observed.status≠.success ∧ attempted.detailUtf8≠[] then
   { observed with
     detailUtf8:=observed.detailUtf8++utf8 "; operation attempt: " ++ attempted.detailUtf8
     platformCode:=
      if observed.platformCode = 0 then attempted.platformCode else observed.platformCode }
  else observed
 else
  { observedAs attempted observed with
    evidence:=if attempted.evidence = .none then observed.evidence else attempted.evidence }

inductive StepOutcome where
 | committed
 | noCommit
 | recoveryRequired
 | journalError
 | stopped
 deriving DecidableEq

/-- What one step of a coordinator came to. -/
structure StepResult where
 outcome : StepOutcome := .recoveryRequired
 status : OperationStatus := .ioError
 detailUtf8 : Bytes := []
 deriving DecidableEq

def StepResult.committed : StepResult := { outcome:=.committed,status:=.success }

def StepResult.journalError (detail : Bytes) : StepResult:=
 { outcome:=.journalError,status:=.ioError,detailUtf8:=detail }

section Merge
variable {a attempted observed : OperationResult}

lemma merge_ok (hattempted:a.ok=false)
 (h:(mergeReconciliation a observed).ok=true):
 observed.ok=true ∧ mergeReconciliation a observed=observed:=by
 simp only [OperationResult.ok,decide_eq_true_eq,decide_eq_false_iff_not] at hattempted h ⊢
 unfold mergeReconciliation at h ⊢
 split
 · next hconflict => simp [hconflict] at h
 · next hconflict =>
   rw [if_neg hconflict] at h
   split
   · next hcommitted =>
     rw [if_pos hcommitted] at h
     exact absurd h hattempted
   · next hcommitted =>
     rw [if_neg hcommitted] at h
     split
     · next hseen =>
       rw [if_pos hseen] at h
       split
       · next hdetail =>
         rw [if_pos hdetail] at h
         exact absurd h hdetail.1
       · next hdetail =>
         rw [if_neg hdetail] at h
         exact ⟨h,rfl⟩
     · next hseen =>
       rw [if_neg hseen] at h
       exact absurd h hattempted

lemma merge_noCommit (hsome:a.evidence≠.none)
 (hattempted:a.evidence≠.noCommit):
 (mergeReconciliation a observed).evidence≠.noCommit:=by
 unfold mergeReconciliation
 split
 · exact nofun
 · next hconflict =>
   have hobserved:observed.evidence≠.noCommit:=by
    intro hobserved
    cases hevidence:a.evidence with
    | none=>exact hsome hevidence
    | noCommit=>exact hattempted hevidence
    | committed=>simp [evidenceConflicts,hevidence,hobserved] at hconflict
    | conflicting=>simp [evidenceConflicts,hevidence] at hconflict
   split
   · exact hattempted
   · split
     · split
       · exact hobserved
       · exact hobserved
     · exact hattempted

end Merge

end VoVe.OperationRequest
