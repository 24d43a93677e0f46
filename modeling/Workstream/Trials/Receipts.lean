import Workstream.Trials.Execution

/-!
# Receipts of completed trials

The relay publishes an execution inside a receipt. The evidence proxy hands a receipt back when the same
trial is asked for again, and the relay then checks it instead of running the trial.
-/

namespace Workstream.Trials

open Foundation Artifacts

/-- The request that a receipt was first made for. -/
structure TrialRequestIdentity where
  requestDigest : String
  materialBindingDigest : String
  inputDigest : String
  materialsDigest : String
  projectId : String
  taskId : String
  assignmentId : String
  submissionId : String
  submissionVersion : Nat
  requirementId : String
  registryEntryId : String
  registryEntryDigest : String
  checkerImageDigest : String
  configurationSha256 : String
  evaluationRequestId : String
  evaluationGeneration : Nat
  checkerRunId : String
  attemptId : String
  resultId : String
  workerLeaseId : String
  workerLeaseGeneration : Nat
  workerLeaseExpiresAt : String

structure TrialReceiptPublication where
  schemaVersion : String
  requestIdentityDigest : String
  originatingIdentity : TrialRequestIdentity
  materialBindingDigest : String
  profileId : String
  profileVersion : Nat
  profileDigest : String
  trialKind : String
  engineIdentityDigest : String
  planDigest : String
  observationDigest : String
  observationByteCount : Nat
  slotIds : List String
  planStarted : Bool
  planCompleted : Bool
  cleanupConfirmed : Bool
  plan : TrialPlan
  execution : TrialExecution

structure CanonicalTrialReceipt where
  receiptDigest : String
  byteCount : Nat
  canonicalBytes : List Nat
  facts : TrialReceiptPublication

/-- What serde writes for the plan, the execution and the facts of a receipt. -/
structure Serde where
  plan : TrialPlan → Json
  execution : TrialExecution → Json
  facts : TrialReceiptPublication → Json

section

variable (sha : Sha256) (serde : Serde)

def receiptOf (facts : TrialReceiptPublication) : CanonicalTrialReceipt where
  receiptDigest := sha.canonicalJsonHash (serde.facts facts)
  byteCount := (utf8 (serde.facts facts).dumps).length
  canonicalBytes := utf8 (serde.facts facts).dumps
  facts := facts

end

variable {sha : Sha256} {serde : Serde} {context : TrialEngineContext} {plan : TrialPlan}
  {execution : TrialExecution} {receipt : CanonicalTrialReceipt}

end Workstream.Trials
