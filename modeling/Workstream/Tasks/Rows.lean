import Workstream.Core

/-!
# Values of TASK rows

Statuses and locked policy identities of `workstream_tasks`, `task_assignments` and `submissions`, which
every part of TASK shares.
-/

namespace Workstream.Tasks

inductive TaskStatus
  | draft
  | screening
  | ready
  | inProgress
  | submitted
  | evaluationPending
  | reviewPending
  | needsRevision
  | accepted
deriving DecidableEq

inductive AssignmentStatus
  | active
  | completed
  | authorityRevoked
  | revisionExpired
  | revisionExhausted
deriving DecidableEq

inductive AttemptStatus
  | evaluationPending
  | reviewPending
  | accepted
  | needsRevision
  | rejected
deriving DecidableEq

inductive StatusReason
  | checkerCoverageIncomplete
  | revisionDeadlineExpired
  | revisionLimitReached
deriving DecidableEq

structure TaskPolicyLineage where
  lockedGuideVersion : String
  lockedGuideSourceSnapshotId : Uuid
  lockedGuideSourceSnapshotHash : String
  lockedEffectiveProjectSubmissionArtifactPolicyId : Uuid
  lockedEffectiveProjectSubmissionArtifactPolicyHash : String
  lockedPreSubmitCheckerPolicyId : Uuid
  lockedPreSubmitCheckerBundleHash : String
  lockedPostSubmitCheckerPolicyId : Uuid
  lockedPostSubmitCheckerPolicyVersion : String
  lockedPostSubmitCheckerPolicyHash : String
  lockedReviewPolicyId : Uuid
  lockedReviewPolicyGeneration : Nat
  lockedReviewPolicyHash : String
  lockedRevisionPolicyId : Uuid
  lockedRevisionPolicyGeneration : Nat
  lockedRevisionPolicyHash : String
  lockedContributionPolicyVersionId : Uuid
deriving DecidableEq

inductive FindingLevel
  | info
  | warning
  | error
  | coverageIncomplete
deriving DecidableEq

structure CheckMember where
  failed : Bool
  findings : List FindingLevel
deriving DecidableEq

variable (members : List CheckMember)

def coverageGapWithoutFailure : Bool :=
  !members.any (fun m => m.failed) && members.any (fun m => m.findings.any (fun f => f = .coverageIncomplete))

def checkerRunCoverageReturn : Bool :=
  (members.countP (fun m => m.failed) = 0) &&
    (members.flatMap (fun m => m.findings)).any (fun f => f = .coverageIncomplete)

/-- The two owners agree on what a coverage return is. -/
theorem checkerRunCoverageReturn_eq :
    checkerRunCoverageReturn members = coverageGapWithoutFailure members := by
  unfold checkerRunCoverageReturn coverageGapWithoutFailure
  congr 1
  · rw [Bool.eq_iff_iff]
    simp [List.countP_eq_zero]
  · rw [List.any_flatMap]

/-- Where a completed result sends its submission. -/
inductive RoutingRecommendation
  | allowReview
  | needsRevision
deriving DecidableEq

/-- The routing of `classify_result` for a completed result. -/
def classifyResult (humanReviewRequired : Bool) : RoutingRecommendation :=
  if members.any (fun m => m.failed) || (coverageGapWithoutFailure members && !humanReviewRequired) then
    .needsRevision
  else .allowReview

end Workstream.Tasks
