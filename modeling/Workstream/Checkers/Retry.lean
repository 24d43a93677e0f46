import Workstream.Checkers.Execution

/-!
# Reservations and retries

`execution_coordination.py` and `checker_retry.py`: the first generation is reserved with its
submission, and an operator may have a finalized infrastructure failure evaluated again in the next
generation.
-/

namespace Workstream.Checkers
open Foundation Tasks

def queuedRun (request : EvaluationRequest) (id resultId : Uuid) (supersedes : Option Uuid) : CheckerRun where
  id := id
  requestJson := request.toRequestBody
  requestDigest := request.requestSha256
  resultId := resultId
  supersedesCheckerRunId := supersedes
  status := .queued
  workerLeaseId := none
  workerLeaseGeneration := 0
  workerLeaseExpiresAt := none
  startedAt := none
  executeEvidenceId := none
  finalizeEvidenceId := none
  resultJson := none
  resultDigest := none
  materialCustody := none
  inputContextCustody := none
  inputMaterializationEvidenceId := none
  completionEventId := none
  routingRecommendation := none
  passedCount := 0
  failedCount := 0
  completedAt := none
  failureCode := none

/-- The identifiers that a reservation allocates. -/
structure ReservationIds where
  runId : Uuid
  resultId : Uuid

/-- The state that the creation of a submission leaves: its reservation of generation 1. -/
def reserved (request : EvaluationRequest) (ids : ReservationIds) (clock : Nat) : Database where
  runs := [queuedRun request ids.runId ids.resultId none]
  currentRunId := ids.runId
  results := []
  receipts := []
  events := []
  clock := clock

variable (db : Database)

def Database.replay (request : EvaluationRequest) : Except Refusal (Option CheckerRun) :=
  match db.runs.find? (fun run => run.requestJson.evaluationRequestId = request.evaluationRequestId) with
  | none => .ok none
  | some run => do
    require (run.requestJson = request.toRequestBody ∧ run.requestDigest = request.requestSha256)
      (.requestConflict "checker_request_conflict")
    return some run

variable (digests : Digests)

def requireTerminalSource (prior : CheckerRun) (terminalSourceId : Uuid) : Except Refusal Unit := do
  let unavailable : Refusal := .retrySourceUnavailable "checker_retry_source_unavailable"
  require (prior.id = terminalSourceId ∧ prior.status = .infrastructureFailed ∧
    prior.finalizeEvidenceId ≠ none ∧ prior.resultJson ≠ none ∧ prior.resultDigest ≠ none ∧
    prior.completionEventId = none) unavailable
  let result ← storedResult digests prior
  require (result.outcome = .infrastructureFailed) unavailable

/-- The insertion of the next generation, with the keys of `checker_runs`. -/
def Database.insertSuccessor (ids : ReservationIds) (request : EvaluationRequest) (prior : CheckerRun) :
    Except Refusal (EvaluationReservation × Database) := do
  require (request.evaluationGeneration = prior.evaluationGeneration + 1)
    (.requestConflict "checker_generation_conflict")
  require (!db.runs.any (fun run => run.id = ids.runId ∨ run.resultId = ids.resultId ∨
      run.evaluationGeneration = request.evaluationGeneration))
    (.requestConflict "checker_request_conflict")
  let run := queuedRun request ids.runId ids.resultId (some prior.id)
  return (run.reservation, { db with runs := db.runs ++ [run], currentRunId := run.id })

/-- `_reserve_after_task_lock`; the fence exists since the submission was created. -/
def Database.reserveAfterTaskLock (ids : ReservationIds) (request : EvaluationRequest)
    (terminalSourceId : Option Uuid) : Except Refusal (EvaluationReservation × Database) := do
  match ← db.replay request with
  | some run => return (run.reservation, db)
  | none =>
    let prior ← required (db.findRun db.currentRunId)
      (.retrySourceUnavailable "checker_retry_source_unavailable")
    match terminalSourceId with
    | none => db.insertSuccessor ids request prior
    | some sourceId =>
      requireTerminalSource digests prior sourceId
      db.insertSuccessor ids request prior

/-- `reserve_current_evaluation`; whether the task may get a new generation is TASK's answer. -/
def Database.reserveCurrentEvaluation (canCreate : Bool) (ids : ReservationIds)
    (request : EvaluationRequest) : Except Refusal (EvaluationReservation × Database) := do
  validateExecutionRequest digests request
  if canCreate then
    db.reserveAfterTaskLock digests ids request none
  else
    let run ← required (← db.replay request) (.executionUnavailable "checker_reservation_scope_unavailable")
    return (run.reservation, db)

structure RetryCommand where
  actorProfileId : Uuid
  projectId : Uuid
  sourceRunId : Uuid
  requestKey : Uuid
  reason : String

structure RetryAnswers where
  now : Nat
  replayScope : Bool
  terminalScope : Bool
  prepared : Bool
  consumed : Bool
  replayValid : Bool
  requestId : Uuid
  ids : ReservationIds
  receiptId : Uuid
  eventId : Uuid

def requireFinalizedInfrastructureSource (run : CheckerRun) : Except Refusal RetrySource := do
  let unavailable : Refusal := .retrySourceUnavailable "checker_retry_source_unavailable"
  let inconsistent : Refusal := .retryOperationUnavailable "checker_retry_evidence_unavailable"
  require (run.status = .infrastructureFailed ∧ run.completionEventId = none ∧
    run.resultJson ≠ none) unavailable
  let evidenceId ← required run.finalizeEvidenceId unavailable
  let resultDigest ← required run.resultDigest unavailable
  let failureCode ← required run.failureCode unavailable
  let result ← (storedResult digests run).mapError fun refusal =>
    match refusal with
    | .executionUnavailable _ => inconsistent
    | other => other
  require (result.outcome = .infrastructureFailed) unavailable
  require (result.infrastructureFailureCode = some failureCode) inconsistent
  let request := run.storedRequest
  return {
    projectId := request.projectId
    taskId := request.taskId
    assignmentId := request.assignmentId
    submissionId := request.submissionId
    submissionVersion := request.submissionVersion
    sourceRunId := run.id
    sourceRequestId := request.evaluationRequestId
    sourceRequestDigest := request.requestSha256
    sourceResultId := run.resultId
    sourceResultDigest := resultDigest
    sourceFinalizeEvidenceId := evidenceId
    sourceGeneration := run.evaluationGeneration
    failureCode := failureCode }

def retryRequestEvent (source : RetrySource) (receiptId : Uuid) (r : EvaluationReservation) (eventId : Uuid) :
    EvaluationEvent where
  eventId := eventId
  idempotencyKey := "checker-retry:" ++ source.sourceRunId
  correlationId := source.sourceRunId
  payload := .requested {
    projectId := source.projectId
    taskId := source.taskId
    submissionId := source.submissionId
    submissionVersion := source.submissionVersion
    requestId := r.requestId
    requestDigest := r.requestDigest
    evaluationGeneration := source.sourceGeneration + 1
    attemptId := r.attemptId
    resultId := r.resultId
    sourceRunId := source.sourceRunId
    sourceResultDigest := source.sourceResultDigest
    retryReceiptId := receiptId }

def reservationFailure : Refusal → Refusal
  | .executionUnavailable _ | .requestConflict _ =>
    .retryOperationUnavailable "checker_retry_reservation_unavailable"
  | other => other

def outboxFailure : Refusal → Refusal
  | .outboxIdempotencyConflict => .retryOperationUnavailable "checker_retry_outbox_unavailable"
  | other => other

def Database.newRetry (a : RetryAnswers) (command : RetryCommand) (request : EvaluationRequest)
    (source : RetrySource) : Except Refusal (RetryReceipt × Database) := do
  require a.prepared (.retryAuthorityDenied "checker_retry_authority_unavailable")
  let next := makeRequest digests { request.toRequestBody with
    evaluationRequestId := a.requestId
    evaluationGeneration := source.sourceGeneration + 1 }
  let (r, db) ← (db.reserveAfterTaskLock digests a.ids next (some source.sourceRunId)).mapError
    reservationFailure
  require (r.requestId = next.evaluationRequestId ∧ r.requestDigest = next.requestSha256 ∧
    r.evaluationGeneration = source.sourceGeneration + 1)
    (.retryOperationUnavailable "checker_retry_reservation_unavailable")
  let (eventId, db) ← (db.append (retryRequestEvent source a.receiptId r a.eventId)).mapError outboxFailure
  require a.consumed (.retryAuthorityDenied "checker_retry_authority_unavailable")
  require (!db.receipts.any (fun receipt => receipt.source.sourceRunId = source.sourceRunId))
    (.integrity "uq_checker_retry_source")
  let receipt : RetryReceipt := {
    id := a.receiptId
    actorProfileId := command.actorProfileId
    requestKey := command.requestKey
    reason := command.reason
    source
    successor := ⟨r.requestId, r.requestDigest, r.attemptId, r.resultId, r.evaluationGeneration, eventId⟩ }
  return (receipt, { db with receipts := db.receipts ++ [receipt] })

def Database.replayRetry (a : RetryAnswers) (command : RetryCommand) (receipt : RetryReceipt)
    (source : RetrySource) : Except Refusal (RetryReceipt × Database) := do
  require a.prepared (.retryAuthorityDenied "checker_retry_authority_unavailable")
  require (receipt.source = source ∧ receipt.reason = command.reason)
    (.retryOperationUnavailable "checker_retry_replay_unavailable")
  require (db.runs.any (fun run => run.reservation = ⟨receipt.successor.requestId,
    receipt.successor.requestDigest,
      receipt.successor.runId, receipt.successor.resultId, receipt.successor.generation⟩ ∧
      run.requestJson.assignmentId = source.assignmentId ∧
      run.requestJson.submissionVersion = source.submissionVersion))
    (.retryOperationUnavailable "checker_retry_delivery_unavailable")
  require a.replayValid (.retryAuthorityDenied "checker_retry_replay_unavailable")
  return (receipt, db)

def Database.retry (a : RetryAnswers) (command : RetryCommand) :
    Except Refusal (RetryReceipt × Database) := do
  let unavailable : Refusal := .retrySourceUnavailable "checker_retry_source_unavailable"
  let existing := db.receipts.find? fun receipt =>
    receipt.actorProfileId = command.actorProfileId ∧ receipt.requestKey = command.requestKey
  require (existing.all (fun receipt => receipt.source.projectId = command.projectId)) unavailable
  let sourceId := (existing.map (fun receipt => receipt.source.sourceRunId)).getD command.sourceRunId
  let run ← required ((db.findRun sourceId).filter (fun run => run.requestJson.projectId = command.projectId))
    unavailable
  validateExecutionRequest digests run.storedRequest
  require a.replayScope (if existing.isSome then .retryOperationUnavailable "checker_retry_scope_unavailable"
    else .retrySourceUnavailable "checker_retry_scope_unavailable")
  require (existing.all (fun receipt => receipt.source.sourceRunId = command.sourceRunId ∧
    receipt.reason = command.reason)) (.requestConflict "checker_retry_request_conflict")
  require (existing.isSome ∨ a.terminalScope) unavailable
  let source ← requireFinalizedInfrastructureSource digests run
  match existing with
  | some receipt => db.replayRetry a command receipt source
  | none => db.newRetry digests a command run.storedRequest source

end Workstream.Checkers
