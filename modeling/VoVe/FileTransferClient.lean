import VoVe.FileTransferProtocol

set_option autoImplicit false

/-! The client side of a file-transfer session: `run_helper` of
  `file_transfer_service.cpp`, with the helper process and the callbacks as
  operations that may answer anything. -/

namespace VoVe.FileTransferClient
open ByteCodec AsciiText Checks EffectProgram FileOperation TransactionCodec TransferTransaction
 FileTransferProtocol

structure CatalogError where
 messageUtf8 : Bytes := []
 platformCode : Int64 := 0
 deriving DecidableEq

inductive FileTransferAuditCommitOutcome where
 | accepted
 | rejectedNoCommit
 | recoveryRequired
 deriving DecidableEq

inductive ClientOp where
 | stopping
 | launch
 | writeFrame (payload : Bytes)
 | readFrame
 | timedOut
 | closeInput
 | terminate
 | wait
 | commitReservation (reservation : FileTransferReservation)
 | publishProgress (progress : FileTransferProgress)
 | beginAuditCommit
 | commitAudit (result : FileTransferStreamResult)

/-- A callback that throws counts as its refusal, with the text of the exception. -/
def ClientReply : ClientOp → Type
 | .stopping=>Bool
 | .launch=>Except CatalogError Unit
 | .writeFrame _=>Except Bytes Unit
 | .readFrame=>Except Bytes Bytes
 | .timedOut=>Bool
 | .closeInput=>Unit
 | .terminate=>Unit
 | .wait=>Unit
 | .commitReservation _=>Bool × Bytes
 | .publishProgress _=>Unit
 | .beginAuditCommit=>Bool
 | .commitAudit _=>FileTransferAuditCommitOutcome × Bytes

abbrev ClientProg := Prog ClientOp ClientReply

def stopping : ClientProg Bool := Prog.issue ClientOp.stopping
def launch : ClientProg (Except CatalogError Unit) := Prog.issue ClientOp.launch
def writeFrame (payload : Bytes) : ClientProg (Except Bytes Unit):=
 Prog.issue (ClientOp.writeFrame payload)
def readFrame : ClientProg (Except Bytes Bytes) := Prog.issue ClientOp.readFrame
def timedOut : ClientProg Bool := Prog.issue ClientOp.timedOut
def closeInput : ClientProg Unit := Prog.issue ClientOp.closeInput
def terminate : ClientProg Unit := Prog.issue ClientOp.terminate
def finishProcess : ClientProg Unit := Prog.issue ClientOp.wait
def commitReservation (reservation : FileTransferReservation) : ClientProg (Bool × Bytes):=
 Prog.issue (ClientOp.commitReservation reservation)
def publishProgress (progress : FileTransferProgress) : ClientProg Unit:=
 Prog.issue (ClientOp.publishProgress progress)
def beginAuditCommit : ClientProg Bool := Prog.issue ClientOp.beginAuditCommit
def commitAudit (result : FileTransferStreamResult):
  ClientProg (FileTransferAuditCommitOutcome × Bytes):=
 Prog.issue (ClientOp.commitAudit result)

variable (request : FileTransferStreamRequest)

def sameAddress (address : FrameAddress) : Bool := address = request.toFrameAddress

def makeResult (status : OperationStatus)
  (evidence : OperationEvidence) (detail : Bytes) : FileTransferStreamResult:=
 { toFrameAddress:=request.toFrameAddress,status:=status,evidence:=evidence,
   detailUtf8:=detail }

/-- Size, time and revision agree. -/
def snapshotMatches (expected observed : SourceSnapshot) : Bool:=
 observed.sizeBytes = expected.sizeBytes ∧ observed.modifiedUnixNs = expected.modifiedUnixNs ∧
  sameSourceRevision observed.sourceRevisionUtf8 expected.sourceRevisionUtf8

variable (reservation : FileTransferReservation)

def reservationMatchesRequest : Except Bytes Unit:=
 match request.mode with
 | .probeReservation=>
  require (request.sourceParentIdentityUtf8 = reservation.destinationParentIdentityUtf8 ∧
    stableObjectIdentity reservation.destinationParentRevisionUtf8=
     request.sourceParentIdentityUtf8)
   (utf8 "reservation probe names another source directory")
 | .auditExisting=>
  require (request.sourceParentIdentityUtf8 = reservation.destinationParentIdentityUtf8 ∧
    snapshotMatches request.expectedSource reservation.tempSnapshot)
   (utf8 "file-audit reservation no longer matches the published file")
 | mode=>do
  require (request.destinationParentIdentityUtf8 = reservation.destinationParentIdentityUtf8 ∧
    stableObjectIdentity reservation.destinationParentRevisionUtf8=
     request.destinationParentIdentityUtf8)
   (utf8 "file-transfer reservation names another destination directory")
  require (!sameObjectIdentity request.expectedSource.sourceRevisionUtf8
    reservation.tempSnapshot.sourceRevisionUtf8)
   (utf8 "file-transfer reservation aliases the source object")
  if mode = .reserveNew then
   require (reservation.tempSnapshot.sizeBytes = kFileTransferReservationMarkerBytes)
    (utf8 "new file-transfer reservation has no ownership marker")
  else
   require (snapshotMatches request.expectedTemp reservation.tempSnapshot)
    (utf8 "resumed file-transfer reservation changed identity")

def successfulResultMatches (result : FileTransferStreamResult) : Bool:=
 match request.mode with
 | .probeReservation=>
  result.evidence = .committed ∧ result.bytesWritten = reservation.tempSnapshot.sizeBytes ∧
   result.sourceSnapshot.sizeBytes = result.bytesWritten ∧
   result.sourceSnapshot.modifiedUnixNs = reservation.tempSnapshot.modifiedUnixNs ∧
   sameSourceRevision result.sourceSnapshot.sourceRevisionUtf8
    reservation.tempSnapshot.sourceRevisionUtf8 ∧
   snapshotMatches result.sourceSnapshot result.tempSnapshot
 | .auditExisting=>
  result.evidence = .committed ∧ result.bytesWritten = request.expectedSource.sizeBytes ∧
   snapshotMatches request.expectedSource result.sourceSnapshot ∧
   snapshotMatches result.sourceSnapshot result.tempSnapshot ∧
   reservation.tempSnapshot.sizeBytes = result.sourceSnapshot.sizeBytes ∧
   sameSourceRevision reservation.tempSnapshot.sourceRevisionUtf8
    result.sourceSnapshot.sourceRevisionUtf8
 | _=>
  result.evidence = .committed ∧ result.bytesWritten = request.expectedSource.sizeBytes ∧
   result.sourceSnapshot.sizeBytes = request.expectedSource.sizeBytes ∧
   ((result.sourceSnapshot.modifiedUnixNs = request.expectedSource.modifiedUnixNs ∧
     sameSourceRevision result.sourceSnapshot.sourceRevisionUtf8
      request.expectedSource.sourceRevisionUtf8) ∨
    sameObjectAfterRename request.expectedSource result.sourceSnapshot) ∧
   result.tempSnapshot.sizeBytes = request.expectedSource.sizeBytes ∧
   sameObjectIdentity result.tempSnapshot.sourceRevisionUtf8
    reservation.tempSnapshot.sourceRevisionUtf8

lemma successfulResultMatches_committed {request : FileTransferStreamRequest}
 {reservation : FileTransferReservation} {result : FileTransferStreamResult}
 (h:successfulResultMatches request reservation result=true):
 result.evidence=.committed:=by
 unfold successfulResultMatches at h
 split at h
 · exact (of_decide_eq_true h).1
 · exact (of_decide_eq_true h).1
 · exact (of_decide_eq_true h).1

variable (result : FileTransferStreamResult)

def validPreReservationFailure : Bool:=
 ¬result.ok ∧ result.evidence = .noCommit ∧ result.bytesWritten = 0 ∧
  snapshotEmpty result.sourceSnapshot ∧ snapshotEmpty result.tempSnapshot ∧
  digestEmpty result.contentSha256

/-- The helper is killed before the result is reported. -/
def abandon : ClientProg FileTransferStreamResult := do
 terminate
 finishProcess
 pure result

/-- A pipe that failed: the watchdog may have been the reason. -/
def abandonPipe (detail : Bytes)
  (tempSnapshot : SourceSnapshot) : ClientProg FileTransferStreamResult := do
 terminate
 finishProcess
 let late ← timedOut
 pure { makeResult request (if late then .timedOut else .unknownOutcome) .none detail with
  tempSnapshot:=tempSnapshot }

/-- An end whose outcome is not known. -/
def unknown (detail : Bytes)
  (tempSnapshot : SourceSnapshot) : ClientProg FileTransferStreamResult:=
 abandon { makeResult request .unknownOutcome .none detail with tempSnapshot:=tempSnapshot }

def auditedResult (outcome : FileTransferAuditCommitOutcome)
  (detail : Bytes) : FileTransferStreamResult:=
 match outcome with
 | .accepted=>result
 | .rejectedNoCommit=>{ result with
   status:=.ioError,evidence := .noCommit
   detailUtf8:=if detail = [] then utf8 "file-audit durable commit was rejected" else detail }
 | .recoveryRequired=>{ result with
   status:=.unknownOutcome,evidence := .none
   detailUtf8:=
    if detail = [] then utf8 "file-audit durable commit requires recovery" else detail }

variable (accepted : Bool)

def acknowledgement : Except Thrown Bytes:=
 encodeFileTransferReservationAck
  { toFrameAddress:=request.toFrameAddress,accepted:=accepted }

/-- The audit is acknowledged; whether that is delivered changes no result. -/
def acknowledgeAudit
  (result : FileTransferStreamResult) : ClientProg FileTransferStreamResult:=
 match acknowledgement request accepted with
 | .error _=>abandon result
 | .ok payload=>do
  match ← writeFrame payload with
  | .error _=>abandon result
  | .ok ()=>
   closeInput
   finishProcess
   pure result

def settleAudit : ClientProg FileTransferStreamResult:=
 if result.ok then do
  if ← beginAuditCommit then
   let (outcome,detail) ← commitAudit result
   acknowledgeAudit request (outcome = .accepted) (auditedResult result outcome detail)
  else
   abandon { result with
    status:=.unknownOutcome,evidence := .none
    detailUtf8:=utf8 "file-audit stopped before its durable commit" }
 else acknowledgeAudit request false result

variable (response : Bytes)

def settleResult : ClientProg FileTransferStreamResult:=
 match decodeFileTransferStreamResult response with
 | .error _=>unknown request (utf8 "file-transfer result is invalid or misaddressed")
   reservation.tempSnapshot
 | .ok result=>
  if ¬sameAddress request result.toFrameAddress ∨
    (result.ok ∧ ¬successfulResultMatches request reservation result) then
   unknown request (utf8 "file-transfer result is invalid or misaddressed")
    reservation.tempSnapshot
  else if request.mode = .auditExisting then settleAudit request result
  else do
   finishProcess
   pure result

def expectedStreamBytes : UInt64:=
 if request.mode = .probeReservation then reservation.tempSnapshot.sizeBytes
 else request.expectedSource.sizeBytes

def maximumProgressFrames (expected : UInt64) : ℕ:=
 if expected = 0 then 0 else (expected.toNat - 1) / kFileTransferProgressChunkBytes+1

def streamFrames (request : FileTransferStreamRequest) (reservation : FileTransferReservation)
  (remaining : ℕ) (previous : UInt64) : ClientProg FileTransferStreamResult := do
 let fail:=fun detail=>unknown request (utf8 detail) reservation.tempSnapshot
 match ← readFrame with
 | .error detail=>abandonPipe request detail reservation.tempSnapshot
 | .ok response=>
  match decodeFileTransferMessageKind response with
  | .error _=>fail "file-transfer helper emitted an invalid frame"
  | .ok .reservation=>fail "file-transfer helper emitted an unexpected frame"
  | .ok .complete=>settleResult request reservation response
  | .ok .progress=>
   match decodeFileTransferProgress response with
   | .error _=>fail "file-transfer progress is invalid or regressed"
   | .ok progress=>
    if ¬sameAddress request progress.toFrameAddress ∨ progress.bytesWritten ≤ previous ∨
      progress.bytesWritten > expectedStreamBytes request reservation then
     fail "file-transfer progress is invalid or regressed"
    else
     match remaining with
     | 0=>fail "file-transfer progress is invalid or regressed"
     | remaining+1=>
      publishProgress progress
      streamFrames request reservation remaining progress.bytesWritten

def acknowledged (commitDetail : Bytes) : ClientProg FileTransferStreamResult:=
 if accepted then
  streamFrames request reservation
   (maximumProgressFrames (expectedStreamBytes request reservation)) 0
 else do
  finishProcess
  pure (makeResult request .ioError .noCommit
   (if commitDetail = [] then utf8 "temporary reservation was not committed"
    else commitDetail))

/-- The reservation was committed or refused; the helper is told. -/
def acknowledgeReservation (commitDetail : Bytes) : ClientProg FileTransferStreamResult:=
 match acknowledgement request accepted with
 | .error (.invalidArgument what) | .error (.lengthError what)=>
  unknown request what reservation.tempSnapshot
 | .ok payload=>do
  match ← writeFrame payload with
  | .error _=>
   unknown request (utf8 "reservation acknowledgement was not delivered")
    reservation.tempSnapshot
  | .ok ()=>
   if request.mode≠.auditExisting then closeInput
   acknowledged request reservation accepted commitDetail

def firstReservation : ClientProg FileTransferStreamResult:=
 match decodeFileTransferReservation response with
 | .error _=>unknown request (utf8 "file-transfer reservation is misaddressed or invalid") {}
 | .ok reservation=>
  if ¬sameAddress request reservation.toFrameAddress then
   unknown request (utf8 "file-transfer reservation is misaddressed or invalid") {}
  else
   match reservationMatchesRequest request reservation with
   | .error detail=>unknown request detail {}
   | .ok ()=>do
    let (accepted,commitDetail) ← commitReservation reservation
    acknowledgeReservation request reservation accepted commitDetail

def firstComplete : ClientProg FileTransferStreamResult:=
 let invalid:=unknown request (utf8 "file-transfer helper failure is misaddressed or invalid") {}
 match decodeFileTransferStreamResult response with
 | .error _=>invalid
 | .ok result=>
  if ¬sameAddress request result.toFrameAddress ∨ ¬validPreReservationFailure result then invalid
  else do
   closeInput
   finishProcess
   pure result

def firstFrame : ClientProg FileTransferStreamResult := do
 match ← readFrame with
 | .error detail=>abandonPipe request detail {}
 | .ok response=>
  match decodeFileTransferMessageKind response with
  | .error _=>unknown request (utf8 "file-transfer helper emitted an invalid first frame") {}
  | .ok .complete=>firstComplete request response
  | .ok .progress=>unknown request (utf8 "file-transfer helper skipped temporary reservation") {}
  | .ok .reservation=>firstReservation request response

def session : ClientProg FileTransferStreamResult:=
 match encodeFileTransferStreamRequest request with
 | .error (.invalidArgument what) | .error (.lengthError what)=>
  abandon (makeResult request .invalidRequest .noCommit what)
 | .ok payload=>do
  match ← writeFrame payload with
  | .error detail=>abandonPipe request detail {}
  | .ok ()=>firstFrame request

def runHelper : ClientProg FileTransferStreamResult := do
 if ← stopping then
  pure (makeResult request .ioError .noCommit (utf8 "file-transfer service is stopping"))
 else
  match ← launch with
  | .error error=>pure { makeResult request .unknownOutcome .none error.messageUtf8 with
    platformCode:=error.platformCode }
  | .ok ()=>
   if ← stopping then
    abandon (makeResult request .ioError .none
     (utf8 "file-transfer service stopped during helper launch"))
   else session request

end VoVe.FileTransferClient
