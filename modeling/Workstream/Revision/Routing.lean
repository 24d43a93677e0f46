import Workstream.Revision.Preparations

/-!
# Submissions and their routing

Claims, submissions and the routing of completed evaluations, as far as they decide the rounds of an
assignment: `authorized_commands.py`, `submission_composition.py`, `post_submit_routing/source.py` and
`outcome.py`, `revision/exhaustion.py`, and the triggers of the rows they write.
-/

namespace Workstream.Revision
open Foundation Tasks

structure ClaimRequest where
  assignmentId : Uuid
  contributorId : Uuid

variable (db : Database)

variable (a : Answers)

def Database.loadLockedTaskContext : Except Refusal RevisionContextSnapshot := do
  let invalid : Refusal := .integrity "task locked policy custody is invalid"
  let context ← required a.locked invalid
  require (db.task.lineage = context.lineage) invalid
  return context

def ClaimRequest.assignment (r : ClaimRequest) (task : Task) (acceptedAt : Nat) : Assignment where
  id := r.assignmentId
  contributorId := r.contributorId
  submitterContributionPolicyVersionId := task.lineage.lockedContributionPolicyVersionId
  acceptedAt := some acceptedAt
  status := .active
  releasedAt := none

def Database.claim (r : ClaimRequest) : Except Refusal Database := do
  require a.authorized .denied
  require (db.task.status = .ready) .invalidTaskTransition
  require (!db.assignments.any (fun assignment => assignment.status = .active) ∧ db.task.assignedTo = none)
    .taskAssignmentConflict
  let _ ← db.loadLockedTaskContext a
  require (!db.assignments.any (fun assignment => assignment.id = r.assignmentId))
    (.integrity "pk_task_assignments")
  return { db with
    assignments := db.assignments ++ [r.assignment db.task a.readings.now]
    task := { db.task with status := .inProgress, assignedTo := some r.contributorId } }

structure SubmissionRequest where
  assignmentId : Uuid
  contributorId : Uuid
  predecessorSubmissionId : Option Uuid
  submissionId : Uuid

structure SubmissionPredecessor where
  submission : Submission
  manifest : RoutingManifest
  revisionRound : Nat

def Database.revisionReleasedAssignmentCurrent (assignment : Assignment) (latest : Submission) : Bool :=
  db.expirations.any (fun e => e.assignmentId = assignment.id ∧ e.sourceSubmissionId = latest.id ∧
      assignment.status = .revisionExpired ∧ assignment.releasedAt = some e.expiredAt) ||
    db.exhaustions.any (fun e => e.assignmentId = assignment.id ∧ e.sourceSubmissionId = latest.id ∧
      assignment.status = .revisionExhausted ∧ assignment.releasedAt = some e.exhaustedAt)

def Database.remediationManifest (s : Submission) : Except Refusal RoutingManifest := do
  let candidates := db.manifests.filter fun m =>
    m.assignmentId = s.taskAssignmentId ∧ m.contributorId = s.contributorId ∧ m.submissionId = s.id ∧
      m.submissionVersion = s.version ∧ m.routingRecommendation = .needsRevision
  let m ← required (candidates.argmax (fun m => m.evaluationGeneration)) .taskSubmissionContextInvalid
  require (candidates.countP (fun other => other.evaluationGeneration = m.evaluationGeneration) = 1)
    .taskSubmissionContextInvalid
  return m

def Database.selectSubmissionContext (r : SubmissionRequest) :
    Except Refusal (Option SubmissionPredecessor) := do
  let invalid : Refusal := .taskSubmissionContextInvalid
  let assignment ← required (db.findAssignment r.assignmentId) invalid
  let latest := db.latestSubmission
  let own := db.latestSubmissionOf r.assignmentId
  require (assignment.submitterContributionPolicyVersionId =
    db.task.lineage.lockedContributionPolicyVersionId ∧
    assignment.contributorId = r.contributorId ∧ assignment.status = .active ∧
    db.task.assignedTo = some r.contributorId ∧
    (db.task.status = .inProgress ∨ db.task.status = .needsRevision)) invalid
  require (own.map (fun s => s.id) = r.predecessorSubmissionId) .taskSubmissionPredecessorChanged
  require (¬(db.task.status = .inProgress ∧ own ≠ none) ∧ ¬(db.task.status = .needsRevision ∧ own = none))
    invalid
  match own with
  | none =>
    match latest with
    | none => return none
    | some latest =>
      let prior ← required (db.findAssignment latest.taskAssignmentId) invalid
      require ((prior.status = .revisionExpired ∨ prior.status = .revisionExhausted) ∧
        prior.releasedAt ≠ none ∧
        db.revisionReleasedAssignmentCurrent prior latest) invalid
      return none
  | some s =>
    require (s.contributorId = r.contributorId ∧ latest.map (fun l => l.id) = some s.id) invalid
    let manifest ← db.remediationManifest s
    return some ⟨s, manifest, db.countedSubmissions r.assignmentId s.version⟩

/-- The disposition of `project_revision`; `none` is `ready`. -/
def Preparation.disposition (p : Preparation) (now : Nat) : Option BlockedReason :=
  let reason :=
    if p.blockedReason = some .revisionLimitReached ∧ p.nextRevisionRound ≤ p.maxRevisionRounds then
      some .contextBlocked
    else p.blockedReason
  if reason ≠ some .revisionLimitReached ∧ p.deadlineAt.any (fun deadline => deadline ≤ now) then
    some .revisionDeadlineExpired
  else reason

/-- `require_revision_capacity`, on the head of the predecessor's chain. -/
def Database.requireRevisionCapacity (p : SubmissionPredecessor) : Except Refusal Unit := do
  let head ← required (db.headForSource p.manifest.id) .revisionContextBlocked
  require (head.outcome ≠ .blocked →
    head.candidate.target.map (fun target => target.lineage) = some db.task.lineage) .revisionContextChanged
  match head.disposition a.readings.now with
  | none => pure ()
  | some .contextBlocked => throw .revisionContextBlocked
  | some .revisionLimitReached => throw .revisionLimitReached
  | some .revisionDeadlineExpired => throw .revisionDeadlineExpired
  let policy ← required (db.policyOf db.task.lineage) .taskSubmissionContextInvalid
  require (p.revisionRound ≤ policy.maxRevisionRounds) .revisionLimitReached

def Database.guardSubmissionRevisionCapacity (new : Submission) : Except Refusal Unit := do
  let invalid : Refusal := .submissionRevisionLineageInvalid
  require (new.version = (db.latestSubmission.map (fun s => s.version)).getD 0 + 1) invalid
  match new.supersedesSubmissionId with
  | none =>
    require (!db.submissions.any (fun s => s.taskAssignmentId = new.taskAssignmentId)) invalid
    match db.latestSubmission with
    | none => pure ()
    | some prior =>
      let assignment ← required (db.findAssignment prior.taskAssignmentId) invalid
      require (assignment.id ≠ new.taskAssignmentId ∧
        (assignment.status = .revisionExpired ∨ assignment.status = .revisionExhausted) ∧
        assignment.releasedAt ≠ none ∧ db.revisionReleasedAssignmentCurrent assignment prior) invalid
  | some predecessorId =>
    let predecessor ← required (db.findSubmission predecessorId) invalid
    require (db.latestSubmission.map (fun s => s.id) = some predecessor.id ∧
      predecessor.taskAssignmentId = new.taskAssignmentId ∧
      predecessor.contributorId = new.contributorId ∧ predecessor.version + 1 = new.version) invalid
    let policy ← required (db.policyOf new.lineage) .revisionLimitReached
    require (db.countedSubmissions new.taskAssignmentId predecessor.version ≤ policy.maxRevisionRounds)
      .revisionLimitReached

def Database.headForSubmission (new : Submission) (predecessorId : Uuid) : Option Preparation :=
  db.preparations.find? fun p =>
    p.submissionId = predecessorId ∧ p.assignmentId = new.taskAssignmentId ∧
      p.contributorId = new.contributorId ∧ db.isChainHead p

/-- `guard_new_revision_submission` and, at commit, `guard_revision_submission_deadline`. -/
def Database.guardNewRevisionSubmission (new : Submission) : Except Refusal Unit := do
  match new.supersedesSubmissionId with
  | none => pure ()
  | some predecessorId =>
    let unavailable : Refusal := .integrity "revision context unavailable for new submission"
    require a.fenceCurrent unavailable
    let p ← required (db.headForSubmission new predecessorId) unavailable
    let prior ← required (db.findSubmission predecessorId) unavailable
    let assignment ← required (db.findAssignment new.taskAssignmentId) unavailable
    require (db.task.status = .needsRevision ∧ db.task.assignedTo = some new.contributorId ∧
      assignment.status = .active ∧ assignment.acceptedAt ≠ none ∧ assignment.releasedAt = none ∧
      assignment.contributorId = new.contributorId ∧
      assignment.submitterContributionPolicyVersionId = new.lineage.lockedContributionPolicyVersionId ∧
      prior.version = p.sourceSubmissionVersion ∧ new.version = p.sourceSubmissionVersion + 1 ∧
      p.outcome ≠ .blocked ∧ p.deadlineAt ≠ none ∧
      p.candidate.target.map (fun target => target.lineage) = some new.lineage ∧
      new.lineage = db.task.lineage) unavailable
    require (!p.deadlineAt.any (fun deadline => deadline ≤ a.readings.committed)) .revisionDeadlineExpired

def Database.createSubmission (r : SubmissionRequest) : Except Refusal Database := do
  let predecessor ← db.selectSubmissionContext r
  let version := (db.latestSubmission.map (fun s => s.version)).getD 0 + 1
  require (predecessor.all (fun p => version = p.submission.version + 1))
    (.integrity "submission creation is unavailable")
  require a.authorized .denied
  let _ ← db.loadLockedTaskContext a
  match predecessor with
  | none => pure ()
  | some p => db.requireRevisionCapacity a p
  let new : Submission := {
    id := r.submissionId
    taskAssignmentId := r.assignmentId
    contributorId := r.contributorId
    version
    supersedesSubmissionId := predecessor.map (fun p => p.submission.id)
    lineage := db.task.lineage
    attemptStatus := .evaluationPending
    statusReason := none
    decidedAt := none }
  db.guardSubmissionRevisionCapacity new
  db.guardNewRevisionSubmission a new
  require (!db.submissions.any (fun s => s.id = new.id)) (.integrity "pk_submissions")
  return { db with
    submissions := db.submissions ++ [new]
    task := { db.task with status := .evaluationPending } }

/-- What `guard_submission_attempt_status` derives from the deciding owner's evidence. The acceptance is
REVIEWS' row. -/
def Database.attemptEvidence (acceptedAt : Option Nat) (old : Submission) (outcome : AttemptStatus) :
    Option (Option StatusReason × Option Nat) :=
  match old.attemptStatus, outcome with
  | .evaluationPending, .reviewPending =>
    (db.manifests.find? (fun m => m.submissionId = old.id ∧ m.routingRecommendation = .allowReview ∧
      m.humanReviewRequired)).map (fun _ => (none, none))
  | .evaluationPending, .needsRevision =>
    (db.manifests.find? (fun m => m.submissionId = old.id ∧ m.routingRecommendation = .needsRevision)).map
      (fun m => (if checkerRunCoverageReturn m.members then some .checkerCoverageIncomplete else none,
        some m.createdAt))
  | .evaluationPending, .accepted => acceptedAt.map (fun accepted => (none, some accepted))
  | .reviewPending, .accepted => acceptedAt.map (fun accepted => (none, some accepted))
  | .evaluationPending, .rejected =>
    (db.exhaustions.find? (fun e => e.sourceSubmissionId = old.id)).map
      (fun e => (some .revisionLimitReached, some e.exhaustedAt))
  | .needsRevision, .rejected =>
    match db.exhaustions.find? (fun e => e.sourceSubmissionId = old.id) with
    | some e => some (some .revisionLimitReached, some e.exhaustedAt)
    | none => (db.expirations.find? (fun e => e.sourceSubmissionId = old.id)).map
        (fun e => (some .revisionDeadlineExpired, some e.expiredAt))
  | _, _ => none

def Database.decide (submissionId : Uuid) (outcome : AttemptStatus) (reason : Option StatusReason)
    (decidedAt : Option Nat) : Database :=
  { db with submissions := db.submissions.map fun s =>
      if s.id = submissionId then { s with attemptStatus := outcome, statusReason := reason, decidedAt }
      else s }

def Database.recordAttemptOutcome (acceptedAt : Option Nat) (submissionId : Uuid)
    (outcome : AttemptStatus) : Except Refusal Database := do
  let old ← required (db.findSubmission submissionId)
    (.integrity "submission attempt outcome target unavailable")
  let (reason, decidedAt) ← required (db.attemptEvidence acceptedAt old outcome)
    (.integrity "submission attempt transition requires owner evidence")
  return db.decide submissionId outcome reason decidedAt

def Database.release (assignmentId : Uuid) (status : AssignmentStatus) (releasedAt : Nat) : Database :=
  { db with
    assignments := db.assignments.map fun assignment =>
      if assignment.id = assignmentId then { assignment with status, releasedAt := some releasedAt }
      else assignment
    task := { db.task with status := .ready, assignedTo := none } }

def Database.guardTaskRevisionExhaustion (m : RoutingManifest) (e : Exhaustion) :
    Except Refusal Unit := do
  let differs : Refusal := .integrity "revision exhaustion source or authority differs"
  let assignment ← required (db.findAssignment e.assignmentId) differs
  let s ← required (db.findSubmission e.sourceSubmissionId) differs
  let policy ← required (db.policyOf s.lineage) differs
  require (m.createdAt ≤ e.exhaustedAt ∧
    db.task.status = (if e.recovered then .needsRevision else .evaluationPending) ∧
    db.task.assignedTo = some e.contributorId ∧ assignment.status = .active ∧ assignment.releasedAt = none ∧
    assignment.acceptedAt ≠ none ∧ assignment.contributorId = e.contributorId) differs
  require (s.taskAssignmentId = e.assignmentId ∧ s.contributorId = e.contributorId ∧
    e.routingManifestId = m.id ∧
    m.assignmentId = e.assignmentId ∧ m.contributorId = e.contributorId ∧
    m.submissionId = e.sourceSubmissionId ∧ m.routingRecommendation = .needsRevision ∧
    !checkerRunCoverageReturn m.members) differs
  require ((policy.maxRevisionRounds : Int) = db.submissionRevisionRound e.assignmentId s.version ∧
    e.revisionRound = policy.maxRevisionRounds ∧ e.maxRevisionRounds = policy.maxRevisionRounds ∧
    (if e.recovered then m.consequence = .checkerRemediation ∧ a.authorized
      else m.consequence = .checkerExhaustion e.id e.revisionRound e.maxRevisionRounds) ∧
    db.revisionRoutingSourceCurrent a.fenceCurrent m ∧
    (e.recovered ∨ !db.preparations.any (fun p => p.routingManifestId = m.id)) ∧
    !db.expirations.any (fun x => x.routingManifestId = m.id)) differs
  require (!db.exhaustions.any (fun x => x.id = e.id ∨ x.routingManifestId = m.id ∨
    x.assignmentId = e.assignmentId ∨ x.sourceSubmissionId = e.sourceSubmissionId))
    (.integrity "uq_revision_exhaustion_manifest")

def Database.commitExhaustion (m : RoutingManifest) (e : Exhaustion) : Except Refusal Database := do
  let assignment ← required (db.findAssignment e.assignmentId) .revisionExhaustionSourceChanged
  require (db.task.status = (if e.recovered then .needsRevision else .evaluationPending) ∧
    db.task.assignedTo = some assignment.contributorId ∧ assignment.contributorId = e.contributorId ∧
    assignment.status = .active ∧ assignment.releasedAt = none) .revisionExhaustionSourceChanged
  db.guardTaskRevisionExhaustion a m e
  let db := { db with exhaustions := db.exhaustions ++ [e] }
  (db.release e.assignmentId .revisionExhausted e.exhaustedAt).recordAttemptOutcome none
    e.sourceSubmissionId .rejected

/-- A delivered completion, with the identifiers its routing allocates. `accepted` is when REVIEWS
records the final acceptance. -/
structure RoutingRequest where
  submissionId : Uuid
  checkerRunId : Uuid
  resultDigest : String
  evaluationGeneration : Nat
  completionEventId : Uuid
  members : List CheckMember
  humanReviewRequired : Bool
  manifestId : Uuid
  outcomeEventId : Uuid
  exhaustionReceiptId : Uuid
  preparation : PreparationIds
  acceptedAt : Option Nat

/-- The branch that `_prepare` selects for a new completion. -/
inductive RoutingPlan
  | exhaust (revisionRound maxRevisionRounds : Nat)
  | remediate (candidate : RevisionCandidate)
  | review
  | accept

def RoutingPlan.consequence (plan : RoutingPlan) (r : RoutingRequest) : Consequence :=
  match plan with
  | .exhaust revisionRound maxRevisionRounds =>
    .checkerExhaustion r.exhaustionReceiptId revisionRound maxRevisionRounds
  | .remediate _ => .checkerRemediation
  | .review => .humanReview
  | .accept => .acceptance

variable (r : RoutingRequest)

def Database.planRevision (context : RevisionContextSnapshot) (assignment : Assignment)
    (submission : Submission) : Except Refusal RoutingPlan := do
  let policy ← required (db.policyOf context.lineage) .routingSourceUnavailable
  let revisionRound := db.submissionRevisionRound assignment.id submission.version
  require (revisionRound ≤ policy.maxRevisionRounds ∧ 0 ≤ revisionRound) .routingRevisionCountDiffers
  if revisionRound = policy.maxRevisionRounds ∧ !coverageGapWithoutFailure r.members then
    return .exhaust revisionRound.toNat policy.maxRevisionRounds
  else return .remediate (db.selectCandidate context policy a.active)

/-- `_prepare` for a completion that has no manifest yet. -/
def Database.prepareRouting : Except Refusal (Submission × RoutingPlan) := do
  let unavailable : Refusal := .routingSourceUnavailable
  require (db.task.status = .evaluationPending) unavailable
  let submission ← required db.latestSubmission unavailable
  require (submission.id = r.submissionId) unavailable
  let assignment ← required (db.findAssignment submission.taskAssignmentId) unavailable
  require (assignment.status = .active ∧ assignment.releasedAt = none ∧ assignment.acceptedAt ≠ none ∧
    submission.contributorId = assignment.contributorId ∧
    db.task.assignedTo = some assignment.contributorId ∧
    submission.lineage.lockedContributionPolicyVersionId = assignment.submitterContributionPolicyVersionId ∧
    submission.lineage.lockedContributionPolicyVersionId = db.task.lineage.lockedContributionPolicyVersionId)
    unavailable
  let context ← required a.locked unavailable
  require (db.task.lineage = context.lineage ∧ db.task.lineage = submission.lineage ∧
    a.fenceCurrent) unavailable
  match classifyResult r.members r.humanReviewRequired with
  | .needsRevision => return (submission, ← db.planRevision a r context assignment submission)
  | .allowReview => return (submission, if r.humanReviewRequired then .review else .accept)

def RoutingRequest.manifest (submission : Submission) (plan : RoutingPlan) (createdAt : Nat) :
    RoutingManifest where
  id := r.manifestId
  submissionId := submission.id
  submissionVersion := submission.version
  assignmentId := submission.taskAssignmentId
  contributorId := submission.contributorId
  checkerRunId := r.checkerRunId
  resultDigest := r.resultDigest
  evaluationGeneration := r.evaluationGeneration
  completionEventId := r.completionEventId
  outcomeEventId := r.outcomeEventId
  routingRecommendation := classifyResult r.members r.humanReviewRequired
  humanReviewRequired := r.humanReviewRequired
  consequence := plan.consequence r
  members := r.members
  createdAt := createdAt

/-- `guard_task_routing_authority`: at the cap a failure has the exhaustion consequence. -/
def Database.guardTaskRoutingAuthority (m : RoutingManifest) (submission : Submission) :
    Except Refusal Unit := do
  let atCap := m.routingRecommendation = .needsRevision ∧ !checkerRunCoverageReturn m.members ∧
    (db.policyOf submission.lineage).any (fun policy =>
      (policy.maxRevisionRounds : Int) ≤ db.submissionRevisionRound m.assignmentId submission.version)
  match m.consequence with
  | .checkerExhaustion _ revisionRound maxRevisionRounds =>
    require (db.submissionRevisionRound m.assignmentId submission.version = revisionRound ∧
      (db.policyOf submission.lineage).map (fun policy => policy.maxRevisionRounds) = some maxRevisionRounds ∧
      revisionRound = maxRevisionRounds) (.integrity "routing source authority context mismatch")
  | _ => require (¬atCap) (.integrity "revision exhaustion consequence required")
  require (!db.manifests.any (fun other => other.id = m.id ∨ other.outcomeEventId = m.outcomeEventId ∨
      other.completionEventId = m.completionEventId ∨
      (other.submissionId = m.submissionId ∧ other.checkerRunId = m.checkerRunId ∧
        other.resultDigest = m.resultDigest)))
    (.integrity "uq_task_route_request_source")

def Database.completeAssignment (assignmentId : Uuid) : Database :=
  { db with
    task := { db.task with status := .accepted }
    assignments := db.assignments.map fun assignment =>
      if assignment.id = assignmentId then { assignment with status := AssignmentStatus.completed }
      else assignment }

def Database.applyPlan (m : RoutingManifest) (plan : RoutingPlan) : Except Refusal Database :=
  match plan with
  | .exhaust revisionRound maxRevisionRounds =>
    db.commitExhaustion a m {
      id := r.exhaustionReceiptId
      assignmentId := m.assignmentId
      contributorId := m.contributorId
      sourceSubmissionId := m.submissionId
      routingManifestId := m.id
      revisionRound
      maxRevisionRounds
      exhaustedAt := a.readings.observed
      recovered := false }
  | .remediate candidate => do
    let db := { db with task := { db.task with status := .needsRevision } }
    let db ← db.recordAttemptOutcome none m.submissionId .needsRevision
    let (db, root) ← db.prepareRevision a r.preparation (some m.id) m candidate none none
    db.publishPreparation a r.preparation m root root
  | .review =>
    { db with task := { db.task with status := .reviewPending } }.recordAttemptOutcome none m.submissionId
      .reviewPending
  | .accept => do
    require (r.acceptedAt ≠ none) .denied
    (db.completeAssignment m.assignmentId).recordAttemptOutcome r.acceptedAt m.submissionId .accepted

/-- `TaskPostSubmitOutcome.apply`. A completion that was routed before is a replay, which writes nothing. -/
def Database.route : Except Refusal Database := do
  if db.manifests.any (fun m => m.submissionId = r.submissionId ∧
    m.completionEventId = r.completionEventId) then
    return db
  let (submission, plan) ← db.prepareRouting a r
  require a.authorized .denied
  let m := r.manifest submission plan a.readings.now
  db.guardTaskRoutingAuthority m submission
  { db with manifests := db.manifests ++ [m] }.applyPlan a r m plan

end Workstream.Revision
