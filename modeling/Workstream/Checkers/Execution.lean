import Workstream.Checkers.Evaluations

/-!
# Claims and terminal results

`execution.py` and `execution_repository.py`: a worker claims the current run under a timed lease, evaluates
outside any transaction, and writes the terminal result under that lease.
-/

namespace Workstream.Checkers
open Foundation Tasks

structure Evidence where
  evidenceId : Uuid
  factsDigest : String

structure PreparedExecution where
  consume : ExecuteFacts → Except Refusal Evidence
  validateReplay : ExecuteFacts → Uuid → Except Refusal Unit

structure PreparedFinalization where
  consume : FinalizeAuthorityFacts → Except Refusal Evidence
  validateReplay : FinalizeAuthorityFacts → Uuid → Except Refusal Unit

/-- What the clock, AUTH and the record identifiers answer to one claim. `flushed` is when the row is
written. -/
structure ClaimAnswers where
  now : Nat
  flushed : Nat
  now_le : now ≤ flushed
  prepareExecution : EvaluationRequest → Except Refusal PreparedExecution
  leaseId : Uuid

/-- The answers to one finalization. PROJECT knows whether a human reviews. -/
structure FinalizeAnswers where
  now : Nat
  completed : Nat
  flushed : Nat
  now_le : now ≤ completed
  completed_le : completed ≤ flushed
  reviewMode : Option Bool
  prepareFinalization : EvaluationRequest → Except Refusal PreparedFinalization
  completionEventId : Uuid

variable (db : Database)

/-- `lock_current`; the columns of a run repeat its request. -/
def Database.lockCurrent (request : EvaluationRequest) : Except Refusal CheckerRun := do
  let unavailable : Refusal := .executionUnavailable "checker_current_request_unavailable"
  let run ← required (db.findRun db.currentRunId) unavailable
  require (run.requestDigest = request.requestSha256 ∧ run.requestJson = request.toRequestBody) unavailable
  return run

def Database.requireLease (now : Nat) (request : EvaluationRequest) (lease : ExecutionLease) :
    Except Refusal CheckerRun := do
  let run ← db.lockCurrent request
  require (run.status = .running ∧ run.reservation = lease.reservation ∧
    run.workerLeaseId = some lease.leaseId ∧ run.workerLeaseGeneration = lease.leaseGeneration ∧
    run.workerLeaseExpiresAt = some lease.expiresAt ∧ now < lease.expiresAt)
    (.executionUnavailable "checker_execution_lease_unavailable")
  return run

/-- `append`: one row per idempotency key; the same input again is a replay. -/
def Database.append (event : EvaluationEvent) : Except Refusal (Uuid × Database) :=
  match db.events.find? (fun e => e.idempotencyKey = event.idempotencyKey) with
  | some e =>
    if e.correlationId = event.correlationId ∧ e.payload = event.payload then .ok (e.eventId, db)
    else .error .outboxIdempotencyConflict
  | none => .ok (event.eventId, { db with events := db.events ++ [event] })

def executionBudgetMs (policy : LockedPolicy) : Except Refusal Nat := do
  let total := 60000 + (policy.entries.map fun entry =>
    entry.deadlineMs + 60000 + if entry.forge then 120000 + entry.deadlineMs + 60000 else 0).sum
  require (total ≤ 3400000) (.invalid "selected POST execution exceeds durable worker deadline")
  return total

/-- The microseconds of a lease: the execution in whole seconds and the margin for its finalization. -/
def leaseMicroseconds (budgetMs : Nat) : Nat := ((budgetMs + 999) / 1000 + 60) * 1000000

def guardLease (old new : CheckerRun) (flushed : Nat) : Except Refusal Unit :=
  require (new.workerLeaseGeneration = old.workerLeaseGeneration + 1 ∧
    ¬(old.status = .running ∧ old.workerLeaseExpiresAt.any (fun expires => flushed < expires)) ∧
    new.workerLeaseId ≠ old.workerLeaseId ∧
    new.workerLeaseExpiresAt.all (fun expires => flushed < expires ∧ expires ≤ flushed + 3600000000) ∧
    (old.startedAt ≠ none → new.startedAt = old.startedAt))
    (.integrity "checker lease progression is invalid")

/-- What a claim gives its worker. -/
inductive Claim
  | lease (lease : ExecutionLease)
  | replay (facts : FinalizeFacts)

def CheckerRun.leased (run : CheckerRun) (lease : ExecutionLease) (now : Nat) (evidenceId : Uuid) :
    CheckerRun :=
  { run with
    workerLeaseId := some lease.leaseId
    workerLeaseGeneration := lease.leaseGeneration
    workerLeaseExpiresAt := some lease.expiresAt
    startedAt := run.startedAt <|> some now
    status := .running
    executeEvidenceId := some evidenceId }

variable (digests : Digests)

def replayClaim (prepared : PreparedExecution) (request : EvaluationRequest) (run : CheckerRun) :
    Except Refusal Claim := do
  let incomplete : Refusal := .integrity "checker active custody is incomplete"
  let lease ← required run.lease incomplete
  let evidenceId ← required run.executeEvidenceId incomplete
  prepared.validateReplay ⟨request, lease⟩ evidenceId
  let result ← storedResult digests run
  return .replay ⟨⟨request, lease⟩, result, run.materialCustody, run.inputMaterializationEvidenceId,
    run.inputContextCustody⟩

def Database.acquireLease (a : ClaimAnswers) (prepared : PreparedExecution) (request : EvaluationRequest)
    (run : CheckerRun) : Except Refusal (Claim × Database) := do
  require (¬(run.status = .running ∧ run.workerLeaseExpiresAt.any (fun expires => a.now < expires)))
    (.executionUnavailable "checker_execution_lease_unavailable")
  let budgetMs ← executionBudgetMs request.policy
  let lease : ExecutionLease :=
    ⟨run.reservation, a.leaseId, run.workerLeaseGeneration + 1, a.now + leaseMicroseconds budgetMs⟩
  let facts : ExecuteFacts := ⟨request, lease⟩
  let evidence ← prepared.consume facts
  require (evidence.factsDigest = digests.execute facts)
    (.executionUnavailable "checker_action_evidence_unavailable")
  let leased := run.leased lease a.now evidence.evidenceId
  guardLease run leased a.flushed
  return (.lease lease, db.update leased)

/-- A worker asks for the current run and gets a lease, or the stored result. -/
def Database.claim (a : ClaimAnswers) (request : EvaluationRequest) :
    Except Refusal (Claim × Database) := do
  let prepared ← a.prepareExecution request
  let run ← db.lockCurrent request
  if run.status.terminal then
    return (← replayClaim digests prepared request run, db)
  else db.acquireLease digests a prepared request run

structure ResultClassification where
  routing : Option RoutingRecommendation
  passed : Nat
  failed : Nat

/-- `classify_result`; an infrastructure failure is not evaluated. -/
def classify (result : EvaluationResult) (humanReviewRequired : Bool) : ResultClassification :=
  match result.outcome with
  | .infrastructureFailed => ⟨none, 0, 0⟩
  | .completed =>
    ⟨some (classifyResult result.members humanReviewRequired),
      result.members.countP (fun member => !member.failed),
        result.members.countP (fun member => member.failed)⟩

def validateFinalization (facts : FinalizeFacts) : Except Refusal Unit := do
  require (facts.material = none ↔ facts.inputMaterializationEvidenceId = none)
    (.invalid "checker material and input authorization must occur together")
  require (facts.material = none → facts.inputContextCustody = none)
    (.invalid "checker input context requires material custody")
  validateExecutionRequest digests facts.request
  validateResult digests facts.result
  validateRequest facts.result facts.request
  require (facts.result.attemptId = facts.lease.reservation.attemptId ∧
    facts.result.resultId = facts.lease.reservation.resultId)
    (.executionUnavailable "checker_final_result_unavailable")
  require (facts.result.outcome = .completed → facts.material ≠ none)
    (.executionUnavailable "checker_material_custody_unavailable")
  require (facts.material.all (fun material =>
    material.submissionId = facts.request.submissionId ∧
      material.submissionVersion = facts.request.submissionVersion ∧
      material.bindingId = facts.request.bindingId ∧ material.contentId = facts.request.contentId ∧
      material.contentSha256 = facts.request.contentSha256 ∧ material.byteCount = facts.request.byteCount))
    (.executionUnavailable "checker_material_custody_unavailable")

def completionEvent (run : CheckerRun) (facts : FinalizeFacts) (routing : RoutingRecommendation)
    (executeEvidenceId finalizeEvidenceId eventId : Uuid) : EvaluationEvent where
  eventId := eventId
  idempotencyKey := "checker-completed:" ++ run.id
  correlationId := facts.request.evaluationRequestId
  payload := .completed {
    projectId := facts.request.projectId
    taskId := facts.request.taskId
    submissionId := facts.request.submissionId
    requestId := facts.result.requestId
    requestDigest := facts.result.requestDigest
    evaluationGeneration := facts.result.evaluationGeneration
    attemptId := facts.result.attemptId
    resultId := facts.result.resultId
    resultDigest := facts.result.resultDigest
    routingRecommendation := routing
    executeEvidenceId := executeEvidenceId
    finalizeEvidenceId := finalizeEvidenceId }

def CheckerRun.finished (run : CheckerRun) (facts : FinalizeFacts) (classification : ResultClassification)
    (finalizeEvidenceId : Uuid) (completionEventId : Option Uuid) (completedAt : Nat) : CheckerRun :=
  { run with
    completionEventId
    resultJson := some facts.result.toResultBody
    resultDigest := some facts.result.resultDigest
    materialCustody := facts.material
    inputContextCustody := facts.inputContextCustody
    inputMaterializationEvidenceId := facts.inputMaterializationEvidenceId
    finalizeEvidenceId := some finalizeEvidenceId
    routingRecommendation := classification.routing
    passedCount := classification.passed
    failedCount := classification.failed
    completedAt := some completedAt
    failureCode := facts.result.infrastructureFailureCode
    status := facts.result.outcome.status }

def memberRows (run : CheckerRun) (result : EvaluationResult) : List CheckerResult :=
  match result.execution with
  | none => []
  | some execution => execution.externalMembers.map fun member =>
      ⟨run.id, member.order, member.requirementId, member.check⟩

def Database.publishCompletion (run : CheckerRun) (facts : FinalizeFacts)
    (classification : ResultClassification) (executeEvidenceId finalizeEvidenceId eventId : Uuid) :
    Except Refusal (Option Uuid × Database) :=
  match classification.routing with
  | none => .ok (none, db)
  | some routing => do
    let (eventId, db) ← db.append
      (completionEvent run facts routing executeEvidenceId finalizeEvidenceId eventId)
    return (some eventId, db)

def replayFinalization (prepared : PreparedFinalization) (facts : FinalizeAuthorityFacts) (run : CheckerRun) :
    Except Refusal EvaluationResult := do
  let result ← storedResult digests run
  require (result = facts.result ∧ run.lease = some facts.lease ∧
    run.inputMaterializationEvidenceId = facts.inputMaterializationEvidenceId ∧
    run.materialCustody = facts.material ∧ run.inputContextCustody = facts.inputContextCustody)
    (.executionUnavailable "checker_finalization_replay_conflict")
  let evidenceId ← required run.finalizeEvidenceId (.integrity "checker terminal identity incomplete")
  prepared.validateReplay facts evidenceId
  return result

/-- The writing branch of `finalize`, with the terminal clause of `protect_checker_run_custody`. -/
def Database.writeTerminal (a : FinalizeAnswers) (prepared : PreparedFinalization)
    (facts : FinalizeAuthorityFacts) (classification : ResultClassification) :
    Except Refusal (EvaluationResult × Database) := do
  let run ← db.requireLease a.now facts.request facts.lease
  let evidence ← prepared.consume facts
  require (evidence.factsDigest = digests.finalize facts)
    (.executionUnavailable "checker_action_evidence_unavailable")
  let (completionEventId, db) ← db.publishCompletion run facts.toFinalizeFacts classification
    facts.executeEvidenceId evidence.evidenceId a.completionEventId
  require (a.flushed < facts.lease.expiresAt) (.integrity "checker terminal lease is invalid")
  let finished := run.finished facts.toFinalizeFacts classification evidence.evidenceId
    completionEventId a.completed
  return (facts.result, { db.update finished with results := db.results ++ memberRows run facts.result })

/-- A worker hands in a result; a terminal run answers with the one it has. -/
def Database.finalize (a : FinalizeAnswers) (facts : FinalizeFacts) :
    Except Refusal (EvaluationResult × Database) := do
  validateFinalization digests facts
  let human ← required a.reviewMode (.executionUnavailable "checker_review_mode_unavailable")
  let prepared ← a.prepareFinalization facts.request
  let run ← db.lockCurrent facts.request
  let executeEvidenceId ← required run.executeEvidenceId
    (.executionUnavailable "checker_execution_evidence_unavailable")
  let authorityFacts : FinalizeAuthorityFacts := { facts with executeEvidenceId }
  if run.status.terminal then
    return (← replayFinalization digests prepared authorityFacts run, db)
  else db.writeTerminal digests a prepared authorityFacts (classify facts.result human)

end Workstream.Checkers
