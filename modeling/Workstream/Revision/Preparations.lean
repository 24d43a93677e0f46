import Workstream.Revision.Clock

/-!
# Preparations

`prepare_revision` of `revision/service.py` with the triggers its row passes, and the outbox intent that
`revision/expiry_event.py` publishes for a clock head.
-/

namespace Workstream.Revision
open Foundation Tasks

structure Readings where
  now : Nat
  observed : Nat
  committed : Nat
  now_le : now ≤ observed
  observed_le : observed ≤ committed

structure ActiveContext where
  snapshot : RevisionContextSnapshot
  compiledPostSubmitPolicy : String

/-- What the clock and the other owners answer during one transaction. PROJECT's contexts are absent when
it finds them unavailable. -/
structure Answers where
  readings : Readings
  authorized : Bool
  fenceCurrent : Bool
  locked : Option RevisionContextSnapshot
  active : Option ActiveContext

structure PreparationIds where
  preparationId : Uuid
  preparationSha256 : String
  eventId : Uuid

structure RepairReceipt where
  actorId : Uuid
  idempotencyKey : Uuid
  requestDigest : String
  reason : String

variable (db : Database)

/-- `select_candidate`; an unavailable active context is an explicit block. -/
def Database.selectCandidate (prior : RevisionContextSnapshot) (policy : RevisionPolicy)
    (active : Option ActiveContext) : RevisionCandidate :=
  match active.bind (fun target => (db.policyOf target.snapshot.lineage).map (fun cap => (target, cap))) with
  | some (target, cap) =>
    ⟨prior, some target.snapshot, some target.compiledPostSubmitPolicy, policy.maxRevisionRounds,
      policy.revisionDeadlineHours, some cap.maxRevisionRounds⟩
  | none => ⟨prior, none, none, policy.maxRevisionRounds, policy.revisionDeadlineHours, none⟩

def RevisionCandidate.withoutTarget (candidate : RevisionCandidate) : RevisionCandidate :=
  { candidate with target := none, targetPostPolicyJson := none, targetMaxRevisionRounds := none }

def rootRemaining (source : ClockSource) (row : Preparation) (observed : Nat) : Option Nat :=
  if !source.origin.inherited && row.repairActorId.isNone && source.routedByTransaction then
    some (makeInterval source.policy.revisionDeadlineHours)
  else source.origin.deadlineAt.map (fun deadline => deadline - observed)

/-- The root branch of `guard_revision_preparation`. -/
def Database.guardRoot (routed : Option Uuid) (observed : Nat) (policy : RevisionPolicy)
    (row : Preparation) : Except Refusal Unit := do
  let differs : Refusal := .integrity "revision root custody differs"
  let source ← required (db.clockSource routed row.routingManifestId) differs
  require (row.sequence = 1 ∧ row.requestedAt = source.origin.requestedAt ∧
    (row.deadlineAt ≠ none → row.deadlineAt = source.origin.deadlineAt) ∧
    (row.deadlineAt = none → row.remainingMicroseconds = rootRemaining source row observed) ∧
    row.maxRevisionRounds = policy.maxRevisionRounds) differs

/-- The successor branch of `guard_revision_preparation`. -/
def Database.guardSuccessor (observed : Nat) (row : Preparation) (predecessorId : Uuid) :
    Except Refusal Unit := do
  let differs : Refusal := .integrity "revision successor custody differs"
  let prior ← required (db.findPreparation predecessorId) differs
  require (prior.routingManifestId = row.routingManifestId ∧ row.sequence = prior.sequence + 1 ∧
    prior.assignmentId = row.assignmentId ∧ prior.contributorId = row.contributorId ∧
    prior.submissionId = row.submissionId ∧
    prior.sourceSubmissionVersion = row.sourceSubmissionVersion ∧
    prior.nextRevisionRound = row.nextRevisionRound ∧ row.requestedAt = prior.requestedAt ∧
    row.maxRevisionRounds = prior.maxRevisionRounds ∧
    (row.deadlineAt ≠ none → row.deadlineAt = (successorClock prior observed row).deadlineAt) ∧
    (row.deadlineAt = none →
      row.remainingMicroseconds = (successorClock prior observed row).remainingMicroseconds)) differs
  require (!prior.deadlineAt.any (fun deadline => deadline ≤ observed)) .revisionDeadlineExpired
  require (row.nextRevisionRound ≤ row.maxRevisionRounds ∧ db.isChainHead prior)
    (.integrity "revision repair window unavailable")
  -- The same candidate may only pause a retained running head once.
  require (row.candidate ≠ prior.candidate ∨
      (prior.clockObservedAt = none ∧ prior.deadlineAt ≠ none ∧ prior.outcome = .blocked ∧
        (prior.blockedReason = some .contextBlocked ∨ prior.blockedReason = some .revisionLimitReached) ∧
        row.deadlineAt = none ∧ row.outcome = .blocked ∧ row.repairActorId ≠ none))
    (.integrity "revision repair has no eligible changed target")

/-- The branch of `guard_revision_preparation` for a row's place in its chain. -/
def Database.guardCustody (routed : Option Uuid) (observed : Nat) (policy : RevisionPolicy)
    (row : Preparation) : Except Refusal Unit :=
  match row.predecessorId with
  | none => db.guardRoot routed observed policy row
  | some predecessorId => db.guardSuccessor observed row predecessorId

/-- The target clause of `guard_revision_preparation`. -/
def Database.guardTarget (candidate : RevisionCandidate) : Except Refusal Unit :=
  match candidate.target with
  | some target => do
    let cap ← required (db.policyOf target.lineage) (.integrity "revision target policy differs")
    require (candidate.targetMaxRevisionRounds = some cap.maxRevisionRounds ∧
      candidate.targetPostPolicyJson ≠ none) (.integrity "revision target policy differs")
  | none =>
    require (candidate.targetMaxRevisionRounds = none ∧ candidate.targetPostPolicyJson = none)
      (.integrity "revision absent target differs")

def expectedReason (row : Preparation) (observed : Nat) : Option BlockedReason :=
  if row.deadlineAt.any (fun deadline => deadline ≤ observed) then some .revisionDeadlineExpired
  else if row.candidate.isBlocked row.nextRevisionRound then some .contextBlocked
  else none

def Database.guardRevisionPreparation (a : Answers) (routed : Option Uuid) (row : Preparation) :
    Except Refusal Unit := do
  let observed := a.readings.observed
  let differs : Refusal := .integrity "revision preparation source differs"
  let m ← required (db.findManifest row.routingManifestId) differs
  let s ← required (db.findSubmission row.submissionId) differs
  require (m.routingRecommendation = .needsRevision ∧ db.task.status = .needsRevision ∧
    row.assignmentId = m.assignmentId ∧ row.contributorId = m.contributorId ∧
    row.submissionId = m.submissionId ∧ row.sourceSubmissionVersion = m.submissionVersion ∧
    row.previousTaskLineage = db.task.lineage) differs
  require (row.nextRevisionRound = db.countedSubmissions row.assignmentId row.sourceSubmissionVersion)
    (.integrity "revision assignment round differs")
  require (row.candidate.prior.lineage = s.lineage) (.integrity "revision prior context differs")
  let changed : Refusal := .integrity "revision current source differs"
  let assignment ← required (db.findAssignment row.assignmentId) changed
  require (assignment.contributorId = row.contributorId ∧ assignment.status = .active ∧
    assignment.acceptedAt ≠ none ∧ assignment.releasedAt = none ∧
    db.task.assignedTo = some row.contributorId ∧ s.taskAssignmentId = row.assignmentId ∧
    s.contributorId = row.contributorId ∧ s.version = row.sourceSubmissionVersion) changed
  require (db.revisionRoutingSourceCurrent a.fenceCurrent m) .revisionContextChanged
  let policy ← required (db.policyOf s.lineage) (.integrity "revision source policy differs")
  require (row.candidate.maxRevisionRounds = policy.maxRevisionRounds ∧
    row.candidate.revisionDeadlineHours = policy.revisionDeadlineHours)
    (.integrity "revision source policy differs")
  db.guardCustody routed observed policy row
  require (row.repairActorId = none ∨ a.authorized) (.integrity "revision repair authorization unavailable")
  db.guardTarget row.candidate
  require (row.nextRevisionRound ≤ row.maxRevisionRounds) .revisionLimitReached
  require (row.blockedReason = expectedReason row observed ∧
    row.outcome = preparationOutcome row.candidate row.blockedReason)
    (.integrity "revision disposition differs")

/-- Unique keys and shapes of `task_revision_preparations`. -/
def Database.checkPreparation (row : Preparation) : Except Refusal Unit := do
  require row.clockShape (.integrity "ck_task_revision_preparations_clock_shape")
  require (row.deadlineAt.all (fun deadline => row.requestedAt < deadline))
    (.integrity "ck_task_revision_preparations_deadline")
  require (!db.preparations.any (fun p => p.id = row.id)) (.integrity "pk_task_revision_preparations")
  require (!db.preparations.any (fun p =>
      p.routingManifestId = row.routingManifestId ∧ p.sequence = row.sequence)) .revisionContextChanged
  require (row.predecessorId = none ∨ !db.preparations.any (fun p => p.predecessorId = row.predecessorId))
    .revisionContextChanged
  require (row.repairActorId = none ∨ !db.preparations.any (fun p =>
      p.repairActorId = row.repairActorId ∧ p.repairIdempotencyKey = row.repairIdempotencyKey))
    (.integrity "uq_revision_repair_actor_key")

/-- Insertion of a preparation: the clock trigger, then the guard, then the table's constraints. -/
def Database.insertPreparation (a : Answers) (routed : Option Uuid) (new : Preparation) :
    Except Refusal Preparation := do
  let source ← required (db.clockSource routed new.routingManifestId) .revisionLimitReached
  let row ← projectRevisionPreparationClock source (new.predecessorId.bind db.findPreparation)
    a.readings.observed new
  db.guardRevisionPreparation a routed row
  db.checkPreparation row
  return row

def Database.windowRequestedAt (m : RoutingManifest) (predecessor : Option Preparation) : Option Nat :=
  match predecessor with
  | some p => some p.requestedAt
  | none => (db.clockSource none m.id).map (fun source => source.origin.requestedAt)

def Database.newPreparation (ids : PreparationIds) (m : RoutingManifest) (candidate : RevisionCandidate)
    (predecessor : Option Preparation) (repair : Option RepairReceipt) : Except Refusal Preparation := do
  let limit := match predecessor with
    | some p => p.maxRevisionRounds
    | none => candidate.maxRevisionRounds
  let sourceRound := db.countedSubmissions m.assignmentId m.submissionVersion
  require (predecessor.all (fun p => sourceRound = p.nextRevisionRound)) .revisionContextChanged
  require (sourceRound ≤ limit) .revisionLimitReached
  -- Without a window the packet cannot be built.
  let requestedAt ← required (db.windowRequestedAt m predecessor)
    (.integrity "'NoneType' object has no attribute 'isoformat'")
  let reason := if candidate.isBlocked sourceRound then some BlockedReason.contextBlocked else none
  return {
    id := ids.preparationId
    assignmentId := m.assignmentId
    contributorId := m.contributorId
    submissionId := m.submissionId
    routingManifestId := m.id
    predecessorId := predecessor.map (fun p => p.id)
    sequence := match predecessor with
      | some p => p.sequence + 1
      | none => 1
    sourceSubmissionVersion := m.submissionVersion
    nextRevisionRound := sourceRound
    maxRevisionRounds := limit
    requestedAt
    deadlineAt := none
    remainingMicroseconds := none
    clockObservedAt := none
    outcome := preparationOutcome candidate reason
    blockedReason := reason
    candidate
    previousTaskLineage := db.task.lineage
    preparationSha256 := ids.preparationSha256
    repairActorId := repair.map (fun r => r.actorId)
    repairIdempotencyKey := repair.map (fun r => r.idempotencyKey)
    repairRequestDigest := repair.map (fun r => r.requestDigest)
    repairReason := repair.map (fun r => r.reason) }

def Database.adoptTarget (row : Preparation) : Database :=
  match row.outcome, row.candidate.target with
  | .blocked, _ => db
  | _, none => db
  | _, some target =>
    { db with
      task := { db.task with
        lineage := target.lineage
        lockedPostSubmitCheckerPolicyBody := row.candidate.targetPostPolicyJson.getD "" }
      assignments := db.assignments.map fun assignment =>
        if assignment.id = row.assignmentId then
          { assignment with
            submitterContributionPolicyVersionId := target.lineage.lockedContributionPolicyVersionId }
        else assignment }

def Database.prepareRevision (a : Answers) (ids : PreparationIds) (routed : Option Uuid)
    (m : RoutingManifest) (candidate : RevisionCandidate) (predecessor : Option Preparation)
    (repair : Option RepairReceipt) : Except Refusal (Database × Preparation) :=
  match predecessor, db.headForSource m.id with
  | none, some head => .ok (db, head)
  | predecessor, existing => do
    require (predecessor.all (fun p => existing.any (fun head => head.id = p.id))) .revisionContextChanged
    require (predecessor = none ∨ repair ≠ none) .taskSubmissionContextInvalid
    let new ← db.newPreparation ids m candidate predecessor repair
    let row ← db.insertPreparation a routed new
    return ({ db with preparations := db.preparations ++ [row] }.adoptTarget row, row)

/-- `expiry_target` and `revision_expiry_event` for a running head. -/
def revisionExpiryEvent (task : Task) (m : RoutingManifest) (root head : Preparation) (deadline : Nat) :
    OutboxAppendInput where
  idempotencyKey := "task.revision.expire:" ++ m.id ++ if head.id ≠ root.id then ":" ++ head.id else ""
  correlationId := m.id
  causationEventId := m.outcomeEventId
  payload := .expiryRequested
    ⟨task.projectId, task.id, root.assignmentId, root.contributorId, root.submissionId, m.id, root.id,
      root.preparationSha256, deadline⟩
  notBeforeAt := some deadline

def revisionBlockedEvent (task : Task) (m : RoutingManifest) (head : Preparation) (remaining : Nat) :
    OutboxAppendInput where
  idempotencyKey := "task.revision.context-blocked:" ++ m.id ++ ":" ++ head.id
  correlationId := m.id
  causationEventId := m.outcomeEventId
  payload := .contextBlocked
    ⟨task.projectId, task.id, head.assignmentId, head.submissionId, m.id, head.id, head.preparationSha256,
      remaining⟩
  notBeforeAt := none

def revisionPreparationEvent (task : Task) (m : RoutingManifest) (root head : Preparation) :
    Except Refusal OutboxAppendInput := do
  match head.deadlineAt with
  | some deadline =>
    require (root.sequence = 1 ∧ root.predecessorId = none ∧ root.routingManifestId = m.id ∧
      head.routingManifestId = m.id) (.integrity "revision expiry requires the original preparation")
    return revisionExpiryEvent task m root head deadline
  | none =>
    let remaining ← required head.remainingMicroseconds
      (.integrity "paused revision requires blocked context and allowance")
    require (head.blockedReason = some .contextBlocked)
      (.integrity "paused revision requires blocked context and allowance")
    return revisionBlockedEvent task m head remaining

def Database.append (eventId : Uuid) (input : OutboxAppendInput) : Except Refusal Database :=
  match db.events.find? (fun e => e.input.idempotencyKey = input.idempotencyKey) with
  | some e => if e.input = input then .ok db else .error .outboxIdempotencyConflict
  | none => .ok { db with events := db.events ++ [⟨eventId, input⟩] }

def Database.appendCreated (eventId : Uuid) (input : OutboxAppendInput) (differs : Refusal) :
    Except Refusal Database := do
  require (!db.events.any (fun e => e.input.idempotencyKey = input.idempotencyKey)) differs
  return { db with events := db.events ++ [⟨eventId, input⟩] }

/-- `require_existing` without an event identity. -/
def Database.hasEvent (input : OutboxAppendInput) : Bool :=
  db.events.any (fun e => e.input = input)

def intentKey (p : Preparation) : String :=
  "task.revision.expire:" ++ p.routingManifestId ++ if p.sequence = 1 then "" else ":" ++ p.id

def revisionExpiryEventMatches (task : Task) (m : RoutingManifest) (e : RevisionEvent)
    (root scheduled : Preparation) : Bool :=
  match scheduled.deadlineAt with
  | some deadline =>
    root.sequence = 1 ∧ root.predecessorId = none ∧ scheduled.routingManifestId = root.routingManifestId ∧
      root.routingManifestId = m.id ∧ scheduled.remainingMicroseconds = none ∧
      e.input = { revisionExpiryEvent task m root scheduled deadline with
        idempotencyKey := intentKey scheduled }
  | none => false

def Database.guardRevisionPreparationClosure (committed : Nat) (m : RoutingManifest) (p : Preparation) :
    Except Refusal Unit := do
  require (!((p.predecessorId.bind db.findPreparation).bind (fun prior => prior.deadlineAt)).any
    (fun deadline => deadline ≤ committed)) .revisionDeadlineExpired
  let incomplete : Refusal := .integrity "revision preparation has no complete task outcome"
  let root ← required (db.rootOf p.routingManifestId) incomplete
  let assignment ← required (db.findAssignment p.assignmentId) incomplete
  let expected ← required
    (if p.outcome = .blocked then some p.previousTaskLineage
      else p.candidate.target.map (fun target => target.lineage)) incomplete
  require (db.task.status = .needsRevision ∧ db.task.assignedTo = some p.contributorId ∧
    assignment.status = .active ∧ assignment.releasedAt = none ∧ db.task.lineage = expected ∧
    assignment.submitterContributionPolicyVersionId = expected.lockedContributionPolicyVersionId ∧
    (p.outcome ≠ .blocked →
      some db.task.lockedPostSubmitCheckerPolicyBody = p.candidate.targetPostPolicyJson)) incomplete
  match p.deadlineAt with
  | none =>
    require (p.outcome = .blocked ∧ p.blockedReason = some .contextBlocked ∧
      !db.events.any (fun e => e.input.idempotencyKey = intentKey p) ∧
      p.remainingMicroseconds.any (fun r => db.hasEvent (revisionBlockedEvent db.task m p r)))
      (.integrity "revision paused notification unavailable")
  | some _ =>
    require (db.events.any (fun e => revisionExpiryEventMatches db.task m e root p))
      (.integrity "revision timer unavailable")

/-- Publication of a head's intent and the commit that follows it. -/
def Database.publishPreparation (a : Answers) (ids : PreparationIds) (m : RoutingManifest)
    (root head : Preparation) : Except Refusal Database := do
  let input ← revisionPreparationEvent db.task m root head
  let db ← db.append ids.eventId input
  db.guardRevisionPreparationClosure a.readings.committed m head
  return db

end Workstream.Revision
