import Workstream.Outbox.Api
import Workstream.Revision.Routing

/-!
# Open windows

What may happen while a routed failure waits for its revision: repair by a manager
(`authorized_commands.py`), recovery by the service and expiry by a timer (`revision/recovery.py`,
`revision/exhaustion_recovery.py`, `revision/expiry.py`).
-/

namespace Workstream.Revision
open Foundation Tasks Outbox

variable (db : Database) (a : Answers) (d : ExpiryDelivery) (m : RoutingManifest)

def Database.sourceOpen (assignment : Assignment) (latest : Submission) : Bool :=
  db.task.status = .needsRevision ∧ assignment.status = .active ∧ assignment.acceptedAt ≠ none ∧
    assignment.releasedAt = none ∧ latest.id = m.submissionId ∧ latest.taskAssignmentId = assignment.id ∧
    latest.version = m.submissionVersion

structure RepairRequest where
  parentPreparationId : Uuid
  parentPreparationSha256 : String
  actorId : Uuid
  idempotencyKey : Uuid
  requestDigest : String
  reason : String
  preparation : PreparationIds

def Database.repairReceipt (actorId idempotencyKey : Uuid) : Option Preparation :=
  db.preparations.find? (fun p => p.repairActorId = some actorId ∧
    p.repairIdempotencyKey = some idempotencyKey)

def replayRepair (r : RepairRequest) (parent child : Preparation) : Except Refusal Unit := do
  require (child.repairRequestDigest = some r.requestDigest ∧ child.predecessorId = some parent.id ∧
    child.repairReason = some r.reason ∧ child.routingManifestId = parent.routingManifestId)
      .idempotencyMismatch
  require (child.assignmentId = parent.assignmentId ∧ child.submissionId = parent.submissionId)
    .taskReplayStateChanged

/-- `_repair_revision_context_root`. Every path from the facts on consumes their authority before it answers,
so the denial comes first here. -/
def Database.repairRevisionContext (r : RepairRequest) : Except Refusal Database := do
  let parent ← required (db.findPreparation r.parentPreparationId) .taskNotFound
  require (parent.preparationSha256 = r.parentPreparationSha256) .taskNotFound
  let assignment ← required (db.findAssignment parent.assignmentId) .taskNotFound
  require (assignment.contributorId = parent.contributorId ∧
    db.task.assignedTo = some assignment.contributorId)
    .taskNotFound
  let latest ← required db.latestSubmission .taskNotFound
  require a.authorized .denied
  if let some child := db.repairReceipt r.actorId r.idempotencyKey then
    replayRepair r parent child
    return db
  let m ← required (db.findManifest parent.routingManifestId) .revisionContextChanged
  require (db.sourceOpen m assignment latest ∧ parent.submissionId = m.submissionId ∧
    parent.sourceSubmissionVersion = m.submissionVersion ∧ latest.contributorId = assignment.contributorId ∧
    m.routingRecommendation = .needsRevision ∧ m.assignmentId = assignment.id ∧
    m.contributorId = assignment.contributorId) .revisionContextChanged
  require ((db.headForSource m.id).any (fun head => head.id = parent.id)) .revisionContextChanged
  require (parent.blockedReason ≠ some .revisionLimitReached) .revisionLimitReached
  require (!parent.deadlineAt.any (fun deadline => deadline ≤ a.readings.now)) .revisionDeadlineExpired
  let historical ← required a.locked .revisionContextBlocked
  let policy ← required (db.policyOf historical.lineage) .revisionContextBlocked
  require (db.revisionRoutingSourceCurrent a.fenceCurrent m) .revisionContextChanged
  let candidate := db.selectCandidate historical policy a.active
  require (candidate.prior = parent.candidate.prior) .revisionContextChanged
  require (parent.nextRevisionRound ≤ parent.maxRevisionRounds) .revisionLimitReached
  require (candidate ≠ parent.candidate) .revisionContextUnchanged
  let (db, child) ← db.prepareRevision a r.preparation none m candidate (some parent)
    (some ⟨r.actorId, r.idempotencyKey, r.requestDigest, r.reason⟩)
  require (child.id ≠ parent.id) .revisionContextChanged
  let root ← required (db.rootOf m.id) (.integrity "revision preparation publication unavailable")
  db.publishPreparation a r.preparation m root child

structure MissingRootRequest where
  routingManifestId : Uuid
  actorId : Uuid
  idempotencyKey : Uuid
  requestDigest : String
  reason : String
  preparation : PreparationIds

def replayMissingRoot (r : MissingRootRequest) (m : RoutingManifest) (root : Preparation) :
    Except Refusal Unit :=
  require (root.routingManifestId = m.id ∧ root.predecessorId = none ∧
    root.repairRequestDigest = some r.requestDigest ∧ root.repairReason = some r.reason ∧
    root.assignmentId = m.assignmentId ∧ root.submissionId = m.submissionId) .idempotencyMismatch

def Database.recoverMissingRevisionRoot (r : MissingRootRequest) : Except Refusal Database := do
  let m ← required (db.findManifest r.routingManifestId) .taskNotFound
  require (m.routingRecommendation = .needsRevision) .taskNotFound
  let assignment ← required (db.findAssignment m.assignmentId) .taskNotFound
  require (assignment.contributorId = m.contributorId ∧ db.task.assignedTo = some assignment.contributorId)
    .taskNotFound
  let latest ← required db.latestSubmission .taskNotFound
  require a.authorized .denied
  if let some root := db.repairReceipt r.actorId r.idempotencyKey then
    replayMissingRoot r m root
    return db
  require (db.sourceOpen m assignment latest ∧ latest.contributorId = assignment.contributorId)
    .revisionContextChanged
  let historical ← required a.locked .revisionContextBlocked
  let policy ← required (db.policyOf historical.lineage) .revisionContextBlocked
  require (db.headForSource m.id = none ∧ db.revisionRoutingSourceCurrent a.fenceCurrent m)
    .revisionContextChanged
  let (db, child) ← db.prepareRevision a r.preparation none m
    (db.selectCandidate historical policy a.active) none
    (some ⟨r.actorId, r.idempotencyKey, r.requestDigest, r.reason⟩)
  db.publishPreparation a r.preparation m child child

structure RecoveryRequest where
  routingManifestId : Uuid
  actorId : Uuid
  requestDigest : String
  exhaustionReceiptId : Uuid
  exhaustionEventId : Uuid
  preparation : PreparationIds

def revisionExhaustedEvent (receipt : Exhaustion) (m : RoutingManifest) : OutboxAppendInput where
  idempotencyKey := "task.revision.exhausted:" ++ m.id
  correlationId := m.id
  causationEventId := m.outcomeEventId
  payload := .exhausted receipt
  notBeforeAt := none

/-- `recover_exhausted_assignment`: nothing below the cap or without the locked context. -/
def Database.recoverExhaustedAssignment (r : RecoveryRequest) (m : RoutingManifest)
    (assignment : Assignment) (source : Submission) : Except Refusal (Option Database) :=
  match a.locked.bind (fun context => db.policyOf context.lineage) with
  | none => return none
  | some policy => do
    let revisionRound := db.submissionRevisionRound assignment.id source.version
    if revisionRound < policy.maxRevisionRounds then
      return none
    require (revisionRound = policy.maxRevisionRounds) .retainedRevisionCountDiffers
    require a.authorized .denied
    let receipt : Exhaustion := {
      id := r.exhaustionReceiptId
      assignmentId := assignment.id
      contributorId := assignment.contributorId
      sourceSubmissionId := source.id
      routingManifestId := m.id
      revisionRound := revisionRound.toNat
      maxRevisionRounds := policy.maxRevisionRounds
      exhaustedAt := a.readings.observed
      recovered := true }
    let db ← db.appendCreated r.exhaustionEventId (revisionExhaustedEvent receipt m)
      .retainedExhaustionOutcomeDiffers
    let db ← db.commitExhaustion a m receipt
    return some db

def Preparation.retainedPauseCandidate (head : Preparation) (now : Nat) : Option RevisionCandidate :=
  if head.clockObservedAt = none ∧ head.outcome = .blocked ∧
      (head.blockedReason = some .contextBlocked ∨ head.blockedReason = some .revisionLimitReached) ∧
      head.deadlineAt.any (fun deadline => now < deadline) then
    some head.candidate.withoutTarget
  else none

/-- `_missing_root_candidate`: only the unchanged context, or a block. -/
def Database.missingRootCandidate : Option RevisionCandidate :=
  match a.locked.bind (fun context => (db.policyOf context.lineage).map
    (fun policy => (context, policy))) with
  | none => none
  | some (historical, policy) =>
    let candidate := db.selectCandidate historical policy a.active
    if candidate.target = some candidate.prior ∧ db.task.lineage = candidate.prior.lineage ∧
        candidate.targetPostPolicyJson = some db.task.lockedPostSubmitCheckerPolicyBody then
      some candidate
    else some candidate.withoutTarget

def recoveryReason : String := "Recover retained revision window"

def Database.publishRecovery (r : RecoveryRequest) (m : RoutingManifest) (root : Option Preparation)
    (candidate : RevisionCandidate) (predecessor : Option Preparation) : Except Refusal Database := do
  require a.authorized .denied
  let (db, head) ← db.prepareRevision a r.preparation none m candidate predecessor
    (some ⟨r.actorId, (predecessor.map (fun p => p.id)).getD m.id, r.requestDigest, recoveryReason⟩)
  require (head.outcome ≠ .rebased) (.integrity "service recovery cannot rebase a task")
  db.publishPreparation a r.preparation m (root.getD head) head

def Database.recoverHead (r : RecoveryRequest) (m : RoutingManifest) :
    Except Refusal (Bool × Database) := do
  match db.rootOf m.id with
  | none =>
    match db.missingRootCandidate a with
    | none => return (false, db)
    | some candidate => return (true, ← db.publishRecovery a r m none candidate none)
  | some root =>
    let head := db.headForSource m.id
    match head.bind (fun head => head.retainedPauseCandidate a.readings.now) with
    | some candidate => return (true, ← db.publishRecovery a r m (some root) candidate head)
    | none =>
      -- Only the intent of the head can be missing.
      let input ← revisionPreparationEvent db.task m root (head.getD root)
      if db.hasEvent input then
        return (false, db)
      require a.authorized .denied
      return (true, ← db.append r.preparation.eventId input)

def Database.recover (r : RecoveryRequest) : Except Refusal (Bool × Database) := do
  match db.findManifest r.routingManifestId, db.latestSubmission with
  | some m, some latest =>
    match db.findAssignment m.assignmentId with
    | none => return (false, db)
    | some assignment =>
      if !(m.routingRecommendation = .needsRevision && db.sourceOpen m assignment latest &&
          db.task.assignedTo = some assignment.contributorId && assignment.contributorId = m.contributorId &&
          db.revisionRoutingSourceCurrent a.fenceCurrent m) then
        return (false, db)
      match ← db.recoverExhaustedAssignment a r m assignment latest with
      | some db => return (true, db)
      | none => db.recoverHead a r m
  | _, _ => return (false, db)

/-- A delivered timer. `observed` and `fenced` are OUTBOX's answers about its invocation, `evidence` is
AUDIT's about an earlier expiration. -/
structure ExpiryDelivery where
  eventId : Uuid
  idempotencyKey : String
  correlationId : Uuid
  causationEventId : Uuid
  target : ExpiryTarget
  observed : Bool
  fenced : Bool
  evidence : Bool
  expirationId : Uuid
  outcomeEventId : Uuid

def Database.scheduledPreparation (root : Preparation) : Option Preparation :=
  let start := "task.revision.expire:" ++ m.id
  let scheduled :=
    if d.idempotencyKey = start then some root
    else
      let scheduledId := (dropWord (start ++ ":").toList d.idempotencyKey.toList).getD d.idempotencyKey.toList
      (db.findPreparation (String.ofList scheduledId)).filter
        (fun p => p.id ≠ root.id ∧ p.routingManifestId = m.id)
  scheduled.filter (fun p => p.deadlineAt = some d.target.deadlineAt)

def Database.guardTaskRevisionExpiration (root head : Preparation) (e : Expiration) :
    Except Refusal Unit := do
  let differs : Refusal := .integrity "revision expiry source or authority differs"
  let assignment ← required (db.findAssignment e.assignmentId) differs
  let source ← required (db.findSubmission e.sourceSubmissionId) differs
  require (!(db.policyOf source.lineage).any (fun policy =>
    (policy.maxRevisionRounds : Int) ≤ db.submissionRevisionRound source.taskAssignmentId source.version))
    (.integrity "revision source exhausted before expiry")
  require (e.deadlineAt ≤ e.expiredAt ∧ db.revisionRoutingSourceCurrent a.fenceCurrent m ∧
    db.task.status = .needsRevision ∧ db.task.assignedTo = some e.contributorId ∧
    assignment.status = .active ∧ assignment.releasedAt = none ∧ assignment.acceptedAt ≠ none ∧
    assignment.contributorId = e.contributorId ∧ source.taskAssignmentId = e.assignmentId ∧
    source.contributorId = e.contributorId) differs
  require (m.id = e.routingManifestId ∧ m.assignmentId = e.assignmentId ∧ m.contributorId = e.contributorId ∧
    m.submissionId = e.sourceSubmissionId ∧ m.routingRecommendation = .needsRevision) differs
  require (root.sequence = 1 ∧ root.predecessorId = none ∧ root.routingManifestId = m.id ∧
    root.submissionId = source.id ∧ root.preparationSha256 = e.rootPreparationSha256 ∧
    head.routingManifestId = m.id ∧ head.preparationSha256 = e.headPreparationSha256 ∧
    head.deadlineAt = some e.deadlineAt ∧ head.remainingMicroseconds = none ∧
    !db.preparations.any (fun newer => newer.routingManifestId = m.id ∧
      head.sequence < newer.sequence)) differs
  require (db.events.any (fun event => event.eventId = e.deliveryEventId ∧
    event.input.notBeforeAt = some e.deadlineAt ∧
    db.preparations.any (fun scheduled => scheduled.deadlineAt = some e.deadlineAt ∧
      revisionExpiryEventMatches db.task m event root scheduled))) differs
  require (!db.expirations.any (fun x => x.id = e.id ∨ x.routingManifestId = e.routingManifestId ∨
    x.headPreparationId = e.headPreparationId ∨ x.deliveryEventId = e.deliveryEventId))
    (.integrity "uq_revision_expiration_manifest")

def revisionExpiredEvent (receipt : Expiration) : OutboxAppendInput where
  idempotencyKey := "task.revision.expired:" ++ receipt.routingManifestId
  correlationId := receipt.routingManifestId
  causationEventId := receipt.deliveryEventId
  payload := .expired receipt
  notBeforeAt := none

def ExpiryDelivery.receipt (head : Preparation) (expiredAt : Nat) : Expiration where
  id := d.expirationId
  assignmentId := d.target.assignmentId
  contributorId := d.target.contributorId
  sourceSubmissionId := d.target.sourceSubmissionId
  routingManifestId := d.target.routingManifestId
  rootPreparationId := d.target.rootPreparationId
  rootPreparationSha256 := d.target.rootPreparationSha256
  headPreparationId := head.id
  headPreparationSha256 := head.preparationSha256
  deadlineAt := d.target.deadlineAt
  expiredAt := expiredAt
  deliveryEventId := d.eventId

def Database.recordExpiration (root head : Preparation) :
    Except Refusal (HandlerOutcome × Database) := do
  let expiredAt := a.readings.observed
  if expiredAt < d.target.deadlineAt then
    return (.retry, db)
  let e := d.receipt head expiredAt
  let db ← db.appendCreated d.outcomeEventId (revisionExpiredEvent e) .revisionExpiryOutcomeDiffers
  db.guardTaskRevisionExpiration a m root head e
  let db := { db with expirations := db.expirations ++ [e] }
  let db ← (db.release e.assignmentId .revisionExpired expiredAt).recordAttemptOutcome none
    e.sourceSubmissionId .rejected
  return (.acknowledge, db)

def Database.expireHead (assignment : Assignment) (root head : Preparation) :
    Except Refusal (HandlerOutcome × Database) := do
  if a.readings.now < d.target.deadlineAt then
    return (.retry, db)
  match db.expirations.find? (fun e => e.routingManifestId = d.target.routingManifestId) with
  | some prior =>
    require (prior.sourceSubmissionId = d.target.sourceSubmissionId ∧
      prior.rootPreparationId = d.target.rootPreparationId ∧
      prior.rootPreparationSha256 = d.target.rootPreparationSha256 ∧
      assignment.status = .revisionExpired ∧ assignment.releasedAt = some prior.expiredAt ∧ d.evidence)
      .revisionExpiryReplayDiffers
    return (.acknowledge, db)
  | none =>
    require a.authorized .denied
    require d.fenced .revisionExpiryCustodyUnavailable
    if !(db.latestSubmission.any (fun latest => latest.id = d.target.sourceSubmissionId) &&
        db.revisionRoutingSourceCurrent a.fenceCurrent m && db.task.status = .needsRevision &&
        db.task.assignedTo = some d.target.contributorId && assignment.status = .active &&
        assignment.releasedAt = none) then
      return (.acknowledge, db)
    db.recordExpiration a d m root head

def Database.deliveryMatches (root : Preparation) : Bool :=
  m.routingRecommendation = .needsRevision ∧ root.sequence = 1 ∧ root.predecessorId = none ∧
    root.preparationSha256 = d.target.rootPreparationSha256 ∧
    root.routingManifestId = d.target.routingManifestId ∧ root.assignmentId = d.target.assignmentId ∧
    root.submissionId = d.target.sourceSubmissionId ∧
    (db.scheduledPreparation d m root).any (fun scheduled =>
      d.idempotencyKey = (revisionExpiryEvent db.task m root scheduled d.target.deadlineAt).idempotencyKey ∧
        d.correlationId = m.id ∧ d.causationEventId = m.outcomeEventId ∧
        RevisionPayload.expiryRequested d.target =
          (revisionExpiryEvent db.task m root scheduled d.target.deadlineAt).payload)

def Database.expire : Except Refusal (HandlerOutcome × Database) := do
  if !(d.observed && db.task.projectId = d.target.projectId && db.task.id = d.target.taskId) then
    return (.reject, db)
  match db.findAssignment d.target.assignmentId, db.findManifest d.target.routingManifestId,
      db.findPreparation d.target.rootPreparationId, db.latestPreparation d.target.routingManifestId with
  | some assignment, some m, some root, some head =>
    if !(assignment.contributorId = d.target.contributorId && m.submissionId = d.target.sourceSubmissionId &&
        db.deliveryMatches d m root) then
      return (.reject, db)
    if head.deadlineAt ≠ some d.target.deadlineAt ∨ head.maxRevisionRounds < head.nextRevisionRound then
      return (.acknowledge, db)
    db.expireHead a d m assignment root head
  | _, _, _, _ => return (.reject, db)

end Workstream.Revision
