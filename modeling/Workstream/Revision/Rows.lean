import Mathlib.Data.List.MinMax
import Workstream.Tasks.Rows

/-!
# Rows of one task's revisions

The rows that revision of one task reads and writes: the task, its assignments, submissions and routing
manifests, the preparations of each routed failure, the receipts that end a window, and the outbox
intents appended for it.
-/

namespace Workstream.Revision
open Tasks

/-- A row of `revision_policies`; complete semantics carry a positive deadline. -/
structure RevisionPolicy where
  guideVersion : String
  policyGeneration : Nat
  policyHash : String
  complete : Bool
  maxRevisionRounds : Nat
  revisionDeadlineHours : Nat
  semanticsShape : complete = true → 0 < revisionDeadlineHours
deriving DecidableEq

structure RevisionContextSnapshot where
  guideId : Uuid
  activationOperationId : Uuid
  activationGeneration : Nat
  activatedAt : Nat
  lineage : TaskPolicyLineage
deriving DecidableEq

structure RevisionCandidate where
  prior : RevisionContextSnapshot
  target : Option RevisionContextSnapshot
  targetPostPolicyJson : Option String
  maxRevisionRounds : Nat
  revisionDeadlineHours : Nat
  targetMaxRevisionRounds : Option Nat
deriving DecidableEq

structure Task where
  id : Uuid
  projectId : Uuid
  status : TaskStatus
  assignedTo : Option Uuid
  lineage : TaskPolicyLineage
  lockedPostSubmitCheckerPolicyBody : String

structure Assignment where
  id : Uuid
  contributorId : Uuid
  submitterContributionPolicyVersionId : Uuid
  acceptedAt : Option Nat
  status : AssignmentStatus
  releasedAt : Option Nat

structure Submission where
  id : Uuid
  taskAssignmentId : Uuid
  contributorId : Uuid
  version : Nat
  supersedesSubmissionId : Option Uuid
  lineage : TaskPolicyLineage
  attemptStatus : AttemptStatus
  statusReason : Option StatusReason
  decidedAt : Option Nat
deriving DecidableEq

inductive Consequence
  | checkerRemediation
  | checkerExhaustion (exhaustionReceiptId : Uuid) (revisionRound maxRevisionRounds : Nat)
  | humanReview
  | acceptance
deriving DecidableEq

/-- `TaskPostSubmitRoutingManifest`, with the members of its completed checker run. -/
structure RoutingManifest where
  id : Uuid
  submissionId : Uuid
  submissionVersion : Nat
  assignmentId : Uuid
  contributorId : Uuid
  checkerRunId : Uuid
  resultDigest : String
  evaluationGeneration : Nat
  completionEventId : Uuid
  outcomeEventId : Uuid
  routingRecommendation : RoutingRecommendation
  humanReviewRequired : Bool
  consequence : Consequence
  members : List CheckMember
  createdAt : Nat
deriving DecidableEq

inductive PreparationOutcome
  | kept
  | rebased
  | blocked
deriving DecidableEq

inductive BlockedReason
  | contextBlocked
  | revisionLimitReached
  | revisionDeadlineExpired
deriving DecidableEq

/-- `TaskRevisionPreparation` -/
structure Preparation where
  id : Uuid
  assignmentId : Uuid
  contributorId : Uuid
  submissionId : Uuid
  routingManifestId : Uuid
  predecessorId : Option Uuid
  sequence : Nat
  sourceSubmissionVersion : Nat
  nextRevisionRound : Nat
  maxRevisionRounds : Nat
  requestedAt : Nat
  deadlineAt : Option Nat
  remainingMicroseconds : Option Nat
  clockObservedAt : Option Nat
  outcome : PreparationOutcome
  blockedReason : Option BlockedReason
  candidate : RevisionCandidate
  previousTaskLineage : TaskPolicyLineage
  preparationSha256 : String
  repairActorId : Option Uuid
  repairIdempotencyKey : Option Uuid
  repairRequestDigest : Option String
  repairReason : Option String

/-- `TaskRevisionExpiration` -/
structure Expiration where
  id : Uuid
  assignmentId : Uuid
  contributorId : Uuid
  sourceSubmissionId : Uuid
  routingManifestId : Uuid
  rootPreparationId : Uuid
  rootPreparationSha256 : String
  headPreparationId : Uuid
  headPreparationSha256 : String
  deadlineAt : Nat
  expiredAt : Nat
  deliveryEventId : Uuid
deriving DecidableEq

/-- `TaskRevisionExhaustion`; a recovered one carries the recovery's authority context. -/
structure Exhaustion where
  id : Uuid
  assignmentId : Uuid
  contributorId : Uuid
  sourceSubmissionId : Uuid
  routingManifestId : Uuid
  revisionRound : Nat
  maxRevisionRounds : Nat
  exhaustedAt : Nat
  recovered : Bool
deriving DecidableEq

structure ExpiryTarget where
  projectId : Uuid
  taskId : Uuid
  assignmentId : Uuid
  contributorId : Uuid
  sourceSubmissionId : Uuid
  routingManifestId : Uuid
  rootPreparationId : Uuid
  rootPreparationSha256 : String
  deadlineAt : Nat
deriving DecidableEq

structure BlockedNotice where
  projectId : Uuid
  taskId : Uuid
  assignmentId : Uuid
  sourceSubmissionId : Uuid
  routingManifestId : Uuid
  preparationId : Uuid
  preparationSha256 : String
  remainingMicroseconds : Nat
deriving DecidableEq

inductive RevisionPayload
  | expiryRequested (target : ExpiryTarget)
  | contextBlocked (notice : BlockedNotice)
  | expired (receipt : Expiration)
  | exhausted (receipt : Exhaustion)
deriving DecidableEq

structure OutboxAppendInput where
  idempotencyKey : String
  correlationId : Uuid
  causationEventId : Uuid
  payload : RevisionPayload
  notBeforeAt : Option Nat
deriving DecidableEq

/-- An outbox row: its identity and what was appended. -/
structure RevisionEvent where
  eventId : Uuid
  input : OutboxAppendInput

/-- The rows of one task. -/
structure Database where
  task : Task
  revisionPolicies : Uuid → Option RevisionPolicy
  assignments : List Assignment
  submissions : List Submission
  manifests : List RoutingManifest
  preparations : List Preparation
  expirations : List Expiration
  exhaustions : List Exhaustion
  events : List RevisionEvent
  clock : Nat

namespace Database

variable (db : Database)

def findAssignment (id : Uuid) : Option Assignment := db.assignments.find? (fun a => a.id = id)

def findSubmission (id : Uuid) : Option Submission := db.submissions.find? (fun s => s.id = id)

def findManifest (id : Uuid) : Option RoutingManifest := db.manifests.find? (fun m => m.id = id)

def findPreparation (id : Uuid) : Option Preparation :=
  db.preparations.find? (fun p => p.id = id)

/-- `get_latest_submission_for_task` -/
def latestSubmission : Option Submission := db.submissions.argmax (fun s => s.version)

def latestSubmissionOf (assignmentId : Uuid) : Option Submission :=
  (db.submissions.filter (fun s => s.taskAssignmentId = assignmentId)).argmax (fun s => s.version)

/-- Submissions of an assignment through a version that spent a round: a checker coverage return does
not. -/
def countedSubmissions (assignmentId : Uuid) (throughVersion : Nat) : Nat :=
  db.submissions.countP fun s =>
    s.taskAssignmentId = assignmentId ∧ s.version ≤ throughVersion ∧
      s.statusReason ≠ some .checkerCoverageIncomplete

def submissionRevisionRound (assignmentId : Uuid) (throughVersion : Nat) : Int :=
  (db.countedSubmissions assignmentId throughVersion : Int) - 1

/-- The complete policy row that a lineage is locked to. -/
def policyOf (lineage : TaskPolicyLineage) : Option RevisionPolicy :=
  (db.revisionPolicies lineage.lockedRevisionPolicyId).filter fun p =>
    p.complete ∧ p.guideVersion = lineage.lockedGuideVersion ∧
      p.policyGeneration = lineage.lockedRevisionPolicyGeneration ∧
      p.policyHash = lineage.lockedRevisionPolicyHash

/-- A preparation that no other one succeeds. -/
def isChainHead (p : Preparation) : Bool :=
  !db.preparations.any (fun child => child.predecessorId = some p.id)

def headForSource (manifestId : Uuid) : Option Preparation :=
  db.preparations.find? (fun p => p.routingManifestId = manifestId ∧ db.isChainHead p)

def rootOf (manifestId : Uuid) : Option Preparation :=
  db.preparations.find? (fun p => p.routingManifestId = manifestId ∧ p.sequence = 1)

def latestPreparation (manifestId : Uuid) : Option Preparation :=
  (db.preparations.filter (fun p => p.routingManifestId = manifestId)).argmax (fun p => p.sequence)

/-- `revision_routing_source_current`; whether the checker fence still names the manifest's run is CHECKERS'
answer. -/
def revisionRoutingSourceCurrent (fenceCurrent : Bool) (m : RoutingManifest) : Bool :=
  m.routingRecommendation = .needsRevision ∧ fenceCurrent ∧
    db.submissions.any (fun s => s.id = m.submissionId ∧ s.version = m.submissionVersion ∧
      !db.submissions.any (fun later => s.version < later.version))

end Database

end Workstream.Revision
