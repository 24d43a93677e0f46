import Workstream.Foundation.Runs
import Workstream.Revision.Windows

/-!
# The revision system of a task

Every operation on a task takes its row lock first, so an interleaving is a list of actions, each with the
answers of the clock and of the other owners. A refused operation rolls back.
-/

namespace Workstream.Revision
open Foundation Tasks

/-- The operations on a task and its revisions. -/
inductive Action
  | claim (a : Answers) (r : ClaimRequest)
  | submit (a : Answers) (r : SubmissionRequest)
  | route (a : Answers) (r : RoutingRequest)
  | repair (a : Answers) (r : RepairRequest)
  | recoverMissingRoot (a : Answers) (r : MissingRootRequest)
  | recover (a : Answers) (r : RecoveryRequest)
  | expire (a : Answers) (d : ExpiryDelivery)

def Action.answers : Action → Answers
  | .claim a _ | .submit a _ | .route a _ | .repair a _ | .recoverMissingRoot a _ | .recover a _
  | .expire a _ => a

/-- The database that an operation would commit. -/
def Database.perform (db : Database) : Action → Except Refusal Database
  | .claim a r => db.claim a r
  | .submit a r => db.createSubmission a r
  | .route a r => db.route a r
  | .repair a r => db.repairRevisionContext a r
  | .recoverMissingRoot a r => db.recoverMissingRevisionRoot a r
  | .recover a r => (db.recover a r).map (fun result => result.2)
  | .expire a d => (db.expire a d).map (fun result => result.2)

/-- One transaction; the database clock does not go back. -/
def Database.step (db : Database) (action : Action) : Database :=
  if db.clock ≤ action.answers.readings.now then
    match db.perform action with
    | .ok after => { after with clock := action.answers.readings.committed }
    | .error _ => db
  else db

/-- A ready task before its first claim. -/
structure Database.Fresh (db : Database) : Prop where
  ready : db.task.status = .ready
  unassigned : db.task.assignedTo = none
  assignments : db.assignments = []
  submissions : db.submissions = []
  manifests : db.manifests = []
  preparations : db.preparations = []
  expirations : db.expirations = []
  exhaustions : db.exhaustions = []
  events : db.events = []

structure RetainedRouting where
  answers : Answers
  request : RoutingRequest
  candidate : Option RevisionCandidate

def RetainedRouting.manifest (r : RetainedRouting) (submission : Submission) : RoutingManifest :=
  { r.request.manifest submission .review r.answers.readings.now with
    routingRecommendation := .needsRevision
    consequence := .checkerRemediation }

def retainedReason (candidate : RevisionCandidate) (nextRevisionRound : Nat) : Option BlockedReason :=
  if candidate.maxRevisionRounds < nextRevisionRound ∨
      candidate.targetMaxRevisionRounds.any (fun cap => cap < nextRevisionRound) then
    some .revisionLimitReached
  else if candidate.target = none then some .contextBlocked
  else none

/-- The root of an earlier release: a window on the wall clock, without an observation. -/
def Database.retainedRoot (db : Database) (r : RetainedRouting) (m : RoutingManifest)
    (candidate : RevisionCandidate) : Preparation :=
  let nextRevisionRound := db.countedSubmissions m.assignmentId m.submissionVersion
  let reason := retainedReason candidate nextRevisionRound
  { id := r.request.preparation.preparationId
    assignmentId := m.assignmentId
    contributorId := m.contributorId
    submissionId := m.submissionId
    routingManifestId := m.id
    predecessorId := none
    sequence := 1
    sourceSubmissionVersion := m.submissionVersion
    nextRevisionRound
    maxRevisionRounds := candidate.maxRevisionRounds
    requestedAt := m.createdAt
    deadlineAt := some (m.createdAt + makeInterval candidate.revisionDeadlineHours)
    remainingMicroseconds := none
    clockObservedAt := none
    outcome := preparationOutcome candidate reason
    blockedReason := reason
    candidate
    previousTaskLineage := db.task.lineage
    preparationSha256 := r.request.preparation.preparationSha256
    repairActorId := none
    repairIdempotencyKey := none
    repairRequestDigest := none
    repairReason := none }

/-- The rows that an earlier release left for an evaluation, with the attempt columns of the backfill.
It asked for revision only after a failed member and knew no exhaustion; it left a root with its timer,
or none at all. -/
def Database.retain (db : Database) (r : RetainedRouting) : Except Refusal Database := do
  let unavailable : Refusal := .routingSourceUnavailable
  require (db.task.status = .evaluationPending) unavailable
  let submission ← required db.latestSubmission unavailable
  let assignment ← required (db.findAssignment submission.taskAssignmentId) unavailable
  require (assignment.status = .active ∧ assignment.releasedAt = none ∧
    submission.contributorId = assignment.contributorId ∧
    r.request.members.any (fun member => member.failed)) unavailable
  let m := r.manifest submission
  let reason := if checkerRunCoverageReturn m.members then some StatusReason.checkerCoverageIncomplete
    else none
  require (!db.manifests.any (fun other => other.id = m.id)) unavailable
  let routed := ({ db with
    manifests := db.manifests ++ [m]
    task := { db.task with status := .needsRevision } }).decide submission.id .needsRevision reason
      (some m.createdAt)
  match r.candidate with
  | none => return routed
  | some candidate =>
    let root := routed.retainedRoot r m candidate
    require (!db.preparations.any (fun p => p.id = root.id ∨ p.predecessorId = some root.id)) unavailable
    let timer := revisionExpiryEvent db.task m root root
      (m.createdAt + makeInterval candidate.revisionDeadlineHours)
    return { ({ routed with preparations := routed.preparations ++ [root] }).adoptTarget root with
      events := routed.events ++ [⟨r.request.preparation.eventId, timer⟩] }

/-- What the database of an upgraded deployment may go through. -/
inductive Entry
  | retained (r : RetainedRouting)
  | action (action : Action)

/-- An operation, or the rows of an earlier release. -/
def Database.entryStep (db : Database) : Entry → Database
  | .action action => db.step action
  | .retained r =>
    if db.clock ≤ r.answers.readings.now then
      match db.retain r with
      | .ok after => { after with clock := r.answers.readings.committed }
      | .error _ => db
    else db

end Workstream.Revision
