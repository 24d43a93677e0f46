import Workstream.Foundation.Checks
import Workstream.Foundation.Tables
import Workstream.Tasks.Rows

/-!
# Evaluations of a submission

Requests, results and the rows that CHECKERS keeps about them: `api/selected_post_submit.py`,
`api/execution.py` and `models.py`.
-/

namespace Workstream.Checkers
open Foundation Tasks

/-- The errors of CHECKERS with their codes, those of the database with their text. -/
inductive Refusal
  | executionUnavailable (code : String)
  | requestConflict (code : String)
  | retrySourceUnavailable (code : String)
  | retryOperationUnavailable (code : String)
  | retryAuthorityDenied (code : String)
  | outboxIdempotencyConflict
  | invalid (text : String)
  | integrity (text : String)

/-- One image of a locked policy. `forge` is whether its configuration selects forge facts. -/
structure PolicyEntry where
  requirementId : String
  registryEntryId : Uuid
  entryDigest : String
  imageDigest : String
  deadlineMs : Nat
  forge : Bool
deriving DecidableEq

structure LockedPolicy where
  policySha256 : String
  entries : List PolicyEntry
deriving DecidableEq

structure LockedContext where
  postPolicyHash : String
  reviewPolicyId : Uuid
  lineage : String
deriving DecidableEq

structure RequestBody where
  projectId : Uuid
  expectedContext : LockedContext
  policy : LockedPolicy
  evaluationRequestId : Uuid
  evaluationGeneration : Nat
  taskId : Uuid
  assignmentId : Uuid
  submissionId : Uuid
  submissionVersion : Nat
  contentId : Uuid
  bindingId : Uuid
  contentSha256 : String
  byteCount : Nat
deriving DecidableEq

/-- `PostSubmissionExecutionRequest` -/
structure EvaluationRequest extends RequestBody where
  requestSha256 : String

inductive Outcome
  | completed
  | infrastructureFailed
deriving DecidableEq

inductive FailureCode
  | capacityExceeded
  | deadlineExceeded
  | materialUnavailable
  | implementationUnavailable
  | invalidOutput
deriving DecidableEq

structure ExternalMember where
  order : Nat
  requirementId : String
  registryEntryId : Uuid
  registryEntryDigest : String
  platformManifestDigest : String
  check : CheckMember
deriving DecidableEq

structure ExecutionFacts where
  policySha256 : String
  requiredExternalCount : Nat
  externalMembers : List ExternalMember
deriving DecidableEq

structure ResultBody where
  requestId : Uuid
  requestDigest : String
  attemptId : Uuid
  evaluationGeneration : Nat
  resultId : Uuid
  outcome : Outcome
  execution : Option ExecutionFacts
  infrastructureFailureCode : Option FailureCode
deriving DecidableEq

/-- `PostSubmissionExecutionResult` -/
structure EvaluationResult extends ResultBody where
  resultDigest : String
deriving DecidableEq

def ResultBody.members (r : ResultBody) : List CheckMember :=
  match r.execution with
  | some execution => execution.externalMembers.map (fun member => member.check)
  | none => []

structure EvaluationReservation where
  requestId : Uuid
  requestDigest : String
  attemptId : Uuid
  resultId : Uuid
  evaluationGeneration : Nat
deriving DecidableEq

structure ExecutionLease where
  reservation : EvaluationReservation
  leaseId : Uuid
  leaseGeneration : Nat
  expiresAt : Nat
deriving DecidableEq

structure VerifiedMaterialFacts where
  submissionId : Uuid
  submissionVersion : Nat
  admissionId : Uuid
  bindingId : Uuid
  contentId : Uuid
  replicaId : Uuid
  contentSha256 : String
  byteCount : Nat
  semanticManifestSha256 : String
deriving DecidableEq

structure ExecuteFacts where
  request : EvaluationRequest
  lease : ExecutionLease

/-- `FinalizeFacts`; the input context is the text of its custody. -/
structure FinalizeFacts extends ExecuteFacts where
  result : EvaluationResult
  material : Option VerifiedMaterialFacts
  inputMaterializationEvidenceId : Option Uuid
  inputContextCustody : Option String

structure FinalizeAuthorityFacts extends FinalizeFacts where
  executeEvidenceId : Uuid

/-- The canonical hashes of requests, results and authority facts. -/
structure Digests where
  request : RequestBody → String
  result : ResultBody → String
  execute : ExecuteFacts → String
  finalize : FinalizeAuthorityFacts → String

def validateExecutionRequest (digests : Digests) (request : EvaluationRequest) : Except Refusal Unit := do
  require (request.expectedContext.postPolicyHash = request.policy.policySha256)
    (.invalid "selected POST locked policy mismatch")
  require (request.requestSha256 = digests.request request.toRequestBody)
    (.invalid "selected POST request digest mismatch")

def makeRequest (digests : Digests) (body : RequestBody) : EvaluationRequest :=
  { body with requestSha256 := digests.request body }

def validateResult (digests : Digests) (result : EvaluationResult) : Except Refusal Unit := do
  match result.outcome with
  | .completed =>
    require (result.execution ≠ none ∧ result.infrastructureFailureCode = none)
      (.invalid "selected POST completed result is invalid")
  | .infrastructureFailed =>
    require (result.execution = none ∧ result.infrastructureFailureCode ≠ none)
      (.invalid "selected POST infrastructure result is invalid")
  require (result.resultDigest = digests.result result.toResultBody)
    (.invalid "selected POST result digest mismatch")

def LockedPolicy.expectedMembers (policy : LockedPolicy) : List (Nat × String × Uuid × String × String) :=
  policy.entries.mapIdx fun order entry =>
    (order, entry.requirementId, entry.registryEntryId, entry.entryDigest, entry.imageDigest)

def ExecutionFacts.actualMembers (execution : ExecutionFacts) :
    List (Nat × String × Uuid × String × String) :=
  execution.externalMembers.map fun member =>
    (member.order, member.requirementId, member.registryEntryId, member.registryEntryDigest,
      member.platformManifestDigest)

def validateRequest (result : EvaluationResult) (request : EvaluationRequest) : Except Refusal Unit :=
  require (result.requestId = request.evaluationRequestId ∧ result.requestDigest = request.requestSha256 ∧
    result.evaluationGeneration = request.evaluationGeneration ∧
    result.execution.all (fun execution =>
      execution.policySha256 = request.policy.policySha256 ∧
        execution.requiredExternalCount = request.policy.entries.length ∧
        execution.actualMembers = request.policy.expectedMembers))
    (.invalid "selected POST result request mismatch")

inductive RunStatus
  | queued
  | running
  | completed
  | infrastructureFailed
deriving DecidableEq

def RunStatus.terminal : RunStatus → Bool
  | .completed | .infrastructureFailed => true
  | .queued | .running => false

def Outcome.status : Outcome → RunStatus
  | .completed => .completed
  | .infrastructureFailed => .infrastructureFailed

/-- `checker_runs`; the routing recommendation is absent while `not_evaluated`. -/
structure CheckerRun where
  id : Uuid
  requestJson : RequestBody
  requestDigest : String
  resultId : Uuid
  supersedesCheckerRunId : Option Uuid
  status : RunStatus
  workerLeaseId : Option Uuid
  workerLeaseGeneration : Nat
  workerLeaseExpiresAt : Option Nat
  startedAt : Option Nat
  executeEvidenceId : Option Uuid
  finalizeEvidenceId : Option Uuid
  resultJson : Option ResultBody
  resultDigest : Option String
  materialCustody : Option VerifiedMaterialFacts
  inputContextCustody : Option String
  inputMaterializationEvidenceId : Option Uuid
  completionEventId : Option Uuid
  routingRecommendation : Option RoutingRecommendation
  passedCount : Nat
  failedCount : Nat
  completedAt : Option Nat
  failureCode : Option FailureCode
deriving DecidableEq

def CheckerRun.evaluationGeneration (run : CheckerRun) : Nat := run.requestJson.evaluationGeneration

def CheckerRun.reservation (run : CheckerRun) : EvaluationReservation :=
  ⟨run.requestJson.evaluationRequestId, run.requestDigest, run.id, run.resultId, run.evaluationGeneration⟩

def CheckerRun.lease (run : CheckerRun) : Option ExecutionLease := do
  let leaseId ← run.workerLeaseId
  let expiresAt ← run.workerLeaseExpiresAt
  return ⟨run.reservation, leaseId, run.workerLeaseGeneration, expiresAt⟩

def CheckerRun.storedRequest (run : CheckerRun) : EvaluationRequest :=
  { run.requestJson with requestSha256 := run.requestDigest }

/-- The result in a terminal row, if its digest is right. -/
def storedResult (digests : Digests) (run : CheckerRun) : Except Refusal EvaluationResult := do
  let body ← required run.resultJson (.executionUnavailable "checker_result_unavailable")
  let resultDigest ← required run.resultDigest (.executionUnavailable "checker_result_unavailable")
  let result : EvaluationResult := { body with resultDigest }
  validateResult digests result
  validateExecutionRequest digests run.storedRequest
  validateRequest result run.storedRequest
  require (result.attemptId = run.id ∧ result.resultId = run.resultId)
    (.executionUnavailable "checker_result_unavailable")
  return result

structure RetrySource where
  projectId : Uuid
  taskId : Uuid
  assignmentId : Uuid
  submissionId : Uuid
  submissionVersion : Nat
  sourceRunId : Uuid
  sourceRequestId : Uuid
  sourceRequestDigest : String
  sourceResultId : Uuid
  sourceResultDigest : String
  sourceFinalizeEvidenceId : Uuid
  sourceGeneration : Nat
  failureCode : FailureCode
deriving DecidableEq

structure RetrySuccessor where
  requestId : Uuid
  requestDigest : String
  runId : Uuid
  resultId : Uuid
  generation : Nat
  eventId : Uuid
deriving DecidableEq

structure RetryReceipt where
  id : Uuid
  actorProfileId : Uuid
  requestKey : Uuid
  reason : String
  source : RetrySource
  successor : RetrySuccessor
deriving DecidableEq

structure EvaluationCompletion where
  projectId : Uuid
  taskId : Uuid
  submissionId : Uuid
  requestId : Uuid
  requestDigest : String
  evaluationGeneration : Nat
  attemptId : Uuid
  resultId : Uuid
  resultDigest : String
  routingRecommendation : RoutingRecommendation
  executeEvidenceId : Uuid
  finalizeEvidenceId : Uuid
deriving DecidableEq

structure RetryRequested where
  projectId : Uuid
  taskId : Uuid
  submissionId : Uuid
  submissionVersion : Nat
  requestId : Uuid
  requestDigest : String
  evaluationGeneration : Nat
  attemptId : Uuid
  resultId : Uuid
  sourceRunId : Uuid
  sourceResultDigest : String
  retryReceiptId : Uuid
deriving DecidableEq

inductive EvaluationPayload
  | completed (completion : EvaluationCompletion)
  | requested (retry : RetryRequested)
deriving DecidableEq

def EvaluationPayload.isCompletion : EvaluationPayload → Bool
  | .completed _ => true
  | .requested _ => false

structure EvaluationEvent where
  eventId : Uuid
  idempotencyKey : String
  correlationId : Uuid
  payload : EvaluationPayload
deriving DecidableEq

structure CheckerResult where
  checkerRunId : Uuid
  memberOrder : Nat
  checkerName : String
  check : CheckMember
deriving DecidableEq

/-- The rows about one submission. The fence names its current run. -/
structure Database where
  runs : List CheckerRun
  currentRunId : Uuid
  results : List CheckerResult
  receipts : List RetryReceipt
  events : List EvaluationEvent
  clock : Nat
deriving DecidableEq

def Database.findRun (db : Database) (id : Uuid) : Option CheckerRun := Table.find CheckerRun.id db.runs id

def Database.update (db : Database) (run : CheckerRun) : Database :=
  { db with runs := Table.replace CheckerRun.id db.runs run }

end Workstream.Checkers
