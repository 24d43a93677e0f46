import Workstream.Revision.System

/-!
# What an operation changes

One inversion for each operation: the rows it writes when it succeeds, and the checks behind them.
-/

namespace Workstream.Revision
open Foundation Tasks

variable {db after : Database} {a : Answers} {routed : Option Uuid} {m : RoutingManifest}
  {row : Preparation} {eventId : Uuid} {deadline : Nat} {source : ClockSource} {d : ExpiryDelivery}
  {plan : RoutingPlan} {gained : Bool} {assignment : Assignment}

structure Sourced (db : Database) (a : Answers) (routed : Option Uuid) (row : Preparation)
    (m : RoutingManifest) (s : Submission)
    (assignment : Assignment) (policy : RevisionPolicy) : Prop where
  manifest_eq : db.findManifest row.routingManifestId = some m
  submission_eq : db.findSubmission row.submissionId = some s
  assignment_eq : db.findAssignment row.assignmentId = some assignment
  policy_eq : db.policyOf s.lineage = some policy
  needsRevision : m.routingRecommendation = .needsRevision
  status : db.task.status = .needsRevision
  assignmentId : row.assignmentId = m.assignmentId
  submissionId : row.submissionId = m.submissionId
  version : row.sourceSubmissionVersion = m.submissionVersion
  round : row.nextRevisionRound = db.countedSubmissions row.assignmentId row.sourceSubmissionVersion
  active : assignment.status = .active
  owner : s.taskAssignmentId = row.assignmentId
  sourceVersion : s.version = row.sourceSubmissionVersion
  current : db.revisionRoutingSourceCurrent a.fenceCurrent m = true
  limit : row.candidate.maxRevisionRounds = policy.maxRevisionRounds
  custody : db.guardCustody routed a.readings.observed policy row = .ok ()
  target : db.guardTarget row.candidate = .ok ()
  bounded : row.nextRevisionRound ≤ row.maxRevisionRounds
  reason : row.blockedReason = expectedReason row a.readings.observed
  outcome : row.outcome = preparationOutcome row.candidate row.blockedReason

theorem guardRevisionPreparation_eq_ok (h : db.guardRevisionPreparation a routed row = .ok ()) :
    ∃ m s assignment policy, Sourced db a routed row m s assignment policy := by
  simp only [Database.guardRevisionPreparation, eq_ok] at h
  obtain ⟨m, hm, s, hs, -, hsrc, -, hround, -, -, assignment, hasgn, -, hopen, -, hcur, policy,
    hpol, -, hlimit, ⟨⟩, hcust, -, -, ⟨⟩, htgt, -, hbounded, hreason, hout⟩ := h
  exact ⟨m, s, assignment, policy, {
    custody := hcust
    manifest_eq := hm
    submission_eq := hs
    assignment_eq := hasgn
    policy_eq := hpol
    needsRevision := hsrc.1
    status := hsrc.2.1
    assignmentId := hsrc.2.2.1
    submissionId := hsrc.2.2.2.2.1
    version := hsrc.2.2.2.2.2.1
    round := hround
    active := hopen.2.1
    owner := hopen.2.2.2.2.2.1
    sourceVersion := hopen.2.2.2.2.2.2.2
    current := hcur
    limit := hlimit.1
    target := htgt
    bounded := hbounded
    reason := hreason
    outcome := hout }⟩

theorem append_eq_ok {input : OutboxAppendInput} (h : db.append eventId input = .ok after) :
    ∃ extra, after = { db with events := db.events ++ extra } := by
  unfold Database.append at h
  split at h
  · split at h
    · cases h
      exact ⟨[], by simp⟩
    · cases h
  · cases h
    exact ⟨_, rfl⟩

/-- An expiry request of a source for a deadline. -/
def RevisionEvent.Times (e : RevisionEvent) (manifestId : Uuid) (deadline : Nat) : Prop :=
  e.input.notBeforeAt = some deadline ∧ ∃ target, e.input.payload = .expiryRequested target ∧
    target.routingManifestId = manifestId ∧ target.deadlineAt = deadline

variable {root new : Preparation} {ids : PreparationIds} {candidate : RevisionCandidate}
  {predecessor : Option Preparation} {repair : Option RepairReceipt} {e : Exhaustion}
  {outcome : Outbox.HandlerOutcome} {r : RoutingRequest} {s : Submission}

theorem revisionExpiryEventMatches_times {task : Task} {e : RevisionEvent}
    (h : revisionExpiryEventMatches task m e root row = true)
    (hdeadline : row.deadlineAt = some deadline) : e.Times row.routingManifestId deadline := by
  unfold revisionExpiryEventMatches at h
  rw [hdeadline] at h
  simp only [decide_eq_true_eq] at h
  unfold RevisionEvent.Times
  rw [h.2.2.2.2.2, h.2.2.1, h.2.2.2.1]
  exact ⟨rfl, _, rfl, rfl, rfl⟩

theorem guardRevisionPreparationClosure_timer {committed : Nat}
    (h : db.guardRevisionPreparationClosure committed m row = .ok ())
    (hdeadline : row.deadlineAt = some deadline) :
    ∃ e ∈ db.events, e.Times row.routingManifestId deadline := by
  simp only [Database.guardRevisionPreparationClosure, eq_ok] at h
  obtain ⟨-, -, root, -, -, -, -, -, -, -, htimer⟩ := h
  rw [hdeadline] at htimer
  simp only [require_eq_ok, List.any_eq_true] at htimer
  obtain ⟨e, he, hmatches⟩ := htimer
  exact ⟨e, he, revisionExpiryEventMatches_times hmatches hdeadline⟩

theorem publishPreparation_eq_ok (h : db.publishPreparation a ids m root row = .ok after) :
    (∃ extra, after = { db with events := db.events ++ extra }) ∧
      ∀ deadline, row.deadlineAt = some deadline → ∃ e ∈ after.events,
        e.Times row.routingManifestId deadline := by
  simp only [Database.publishPreparation, eq_ok] at h
  obtain ⟨input, -, published, happend, ⟨⟩, hclosure, rfl⟩ := h
  exact ⟨append_eq_ok happend, fun deadline => guardRevisionPreparationClosure_timer hclosure⟩

/-- The clock trigger writes the observation and leaves the rest of a row's identity as it was. -/
theorem projectRevisionPreparationClock_eq_ok {prior : Option Preparation} {observed : Nat}
    (h : projectRevisionPreparationClock source prior observed new = .ok row) :
    source.exhausted = false ∧ ∃ columns, row = new.withClock observed columns := by
  simp only [projectRevisionPreparationClock, eq_ok] at h
  obtain ⟨-, -, -, -, -, hexh, hrow⟩ := h
  refine ⟨hexh, ?_⟩
  split at hrow
  · cases hrow
    exact ⟨_, rfl⟩
  · simp only [eq_ok] at hrow
    obtain ⟨-, -, -, -, rfl⟩ := hrow
    exact ⟨_, rfl⟩

structure Inserted (db : Database) (a : Answers) (routed : Option Uuid) (m : RoutingManifest)
    (row : Preparation) : Prop where
  manifestId : row.routingManifestId = m.id
  observed : row.clockObservedAt = some a.readings.observed
  unexhausted : db.exhaustions.any (fun e => e.routingManifestId = m.id) = false
  guard : db.guardRevisionPreparation a routed row = .ok ()
  check : db.checkPreparation row = .ok ()

theorem newPreparation_manifestId
    (h : db.newPreparation ids m candidate predecessor repair = .ok new) :
    new.routingManifestId = m.id := by
  simp only [Database.newPreparation, eq_ok] at h
  obtain ⟨-, -, -, -, requestedAt, -, rfl⟩ := h
  rfl

theorem clockSource_exhausted {manifestId : Uuid} (h : db.clockSource routed manifestId = some source) :
    source.exhausted = db.exhaustions.any (fun e => e.routingManifestId = manifestId) := by
  simp only [Database.clockSource, Option.bind_eq_bind, Option.bind_eq_some_iff] at h
  obtain ⟨found, hfound, s, -, policy, -, hsrc⟩ := h
  have hid : found.id = manifestId := by
    simpa using List.find?_some hfound
  cases hsrc
  rw [hid]

theorem insertPreparation_eq_ok (hid : new.routingManifestId = m.id)
    (h : db.insertPreparation a routed new = .ok row) : Inserted db a routed m row := by
  simp only [Database.insertPreparation, eq_ok] at h
  obtain ⟨source, hsrc, clocked, hclock, ⟨⟩, hguard, ⟨⟩, hcheck, rfl⟩ := h
  obtain ⟨hexh, columns, rfl⟩ := projectRevisionPreparationClock_eq_ok hclock
  rw [clockSource_exhausted hsrc, hid] at hexh
  exact ⟨hid, rfl, hexh, hguard, hcheck⟩

/-- `prepare_revision` finds the head it was called for, or inserts a row. -/
theorem prepareRevision_eq_ok
    (h : db.prepareRevision a ids routed m candidate predecessor repair = .ok (after, row)) :
    (predecessor = none ∧ db.headForSource m.id = some row ∧ after = db) ∨
      (Inserted db a routed m row ∧
        after = ({ db with preparations := db.preparations ++ [row] }).adoptTarget row) := by
  unfold Database.prepareRevision at h
  split at h
  case h_1 head hhead =>
    cases h
    exact .inl ⟨rfl, hhead, rfl⟩
  case h_2 =>
    simp only [eq_ok] at h
    obtain ⟨-, -, -, -, new, hnew, inserted, hins, rfl, rfl⟩ := h
    exact .inr ⟨insertPreparation_eq_ok (newPreparation_manifestId hnew) hins, rfl⟩

structure Prepared (db : Database) (a : Answers) (routed : Option Uuid) (m : RoutingManifest)
    (row : Preparation) (after : Database) : Prop extends Inserted db a routed m row where
  result : ∃ extra, after = { ({ db with preparations := db.preparations ++ [row] }).adoptTarget row with
    events := db.events ++ extra }
  timer : ∀ deadline, row.deadlineAt = some deadline → ∃ e ∈ after.events,
    e.Times row.routingManifestId deadline

@[simp] theorem adoptTarget_events : (db.adoptTarget row).events = db.events := by
  unfold Database.adoptTarget
  split <;> rfl

/-- A preparation and its publication add a row with its intent, or at most the intent of a known head. -/
theorem prepared_of_publish {middle : Database}
    (hprep : db.prepareRevision a ids routed m candidate predecessor repair = .ok (middle, row))
    (hpub : middle.publishPreparation a ids m root row = .ok after) :
    (predecessor = none ∧ db.headForSource m.id = some row ∧
        ∃ extra, after = { db with events := db.events ++ extra }) ∨
      Prepared db a routed m row after := by
  obtain ⟨⟨extra, hafter⟩, htimer⟩ := publishPreparation_eq_ok hpub
  rcases prepareRevision_eq_ok hprep with ⟨hnone, hhead, rfl⟩ | ⟨hins, rfl⟩
  · exact .inl ⟨hnone, hhead, extra, hafter⟩
  · refine .inr ⟨hins, ⟨extra, ?_⟩, htimer⟩
    rw [hafter, adoptTarget_events]

theorem recordAttemptOutcome_eq_ok {acceptedAt : Option Nat} {submissionId : Uuid} {outcome : AttemptStatus}
    (h : db.recordAttemptOutcome acceptedAt submissionId outcome = .ok after) :
    ∃ old reason decidedAt, db.findSubmission submissionId = some old ∧
      db.attemptEvidence acceptedAt old outcome = some (reason, decidedAt) ∧
      after = db.decide submissionId outcome reason decidedAt := by
  simp only [Database.recordAttemptOutcome, eq_ok] at h
  obtain ⟨old, hold, ⟨reason, decidedAt⟩, hevid, rfl⟩ := h
  exact ⟨old, reason, decidedAt, hold, hevid, rfl⟩

structure Exhausting (db : Database) (a : Answers) (m : RoutingManifest) (e : Exhaustion)
    (assignment : Assignment) (s : Submission) (policy : RevisionPolicy) : Prop where
  assignment_eq : db.findAssignment e.assignmentId = some assignment
  submission_eq : db.findSubmission e.sourceSubmissionId = some s
  policy_eq : db.policyOf s.lineage = some policy
  active : assignment.status = .active
  owner : s.taskAssignmentId = e.assignmentId
  manifestId : e.routingManifestId = m.id
  assignmentId : m.assignmentId = e.assignmentId
  submissionId : m.submissionId = e.sourceSubmissionId
  needsRevision : m.routingRecommendation = .needsRevision
  failed : checkerRunCoverageReturn m.members = false
  round : (policy.maxRevisionRounds : Int) = db.submissionRevisionRound e.assignmentId s.version
  current : db.revisionRoutingSourceCurrent a.fenceCurrent m = true
  unexpired : db.expirations.any (fun x => x.routingManifestId = m.id) = false
  fresh : db.exhaustions.any (fun x => x.id = e.id ∨ x.routingManifestId = m.id ∨
    x.assignmentId = e.assignmentId ∨ x.sourceSubmissionId = e.sourceSubmissionId) = false

theorem guardTaskRevisionExhaustion_eq_ok (h : db.guardTaskRevisionExhaustion a m e = .ok ()) :
    ∃ assignment s policy, Exhausting db a m e assignment s policy := by
  simp only [Database.guardTaskRevisionExhaustion, eq_ok, Bool.not_eq_true'] at h
  obtain ⟨assignment, hasgn, s, hs, policy, hpol, -, hstate, -, hsrc, -, hround, hfresh⟩ := h
  exact ⟨assignment, s, policy, {
    assignment_eq := hasgn
    submission_eq := hs
    policy_eq := hpol
    active := hstate.2.2.2.1
    owner := hsrc.1
    manifestId := hsrc.2.2.1
    assignmentId := hsrc.2.2.2.1
    submissionId := hsrc.2.2.2.2.2.1
    needsRevision := hsrc.2.2.2.2.2.2.1
    failed := hsrc.2.2.2.2.2.2.2
    round := hround.1
    current := hround.2.2.2.2.1
    unexpired := hround.2.2.2.2.2.2
    fresh := hfresh }⟩

def Database.ended (db : Database) (assignmentId : Uuid) (status : AssignmentStatus) (releasedAt : Nat)
    (submissionId : Uuid) (reason : Option StatusReason) (decidedAt : Option Nat) : Database :=
  (db.release assignmentId status releasedAt).decide submissionId .rejected reason decidedAt

/-- The database with an exhaustion and its consequences. -/
def Database.exhausted (db : Database) (e : Exhaustion) (reason : Option StatusReason)
    (decidedAt : Option Nat) : Database :=
  ({ db with exhaustions := db.exhaustions ++ [e] }).ended e.assignmentId .revisionExhausted e.exhaustedAt
    e.sourceSubmissionId reason decidedAt

/-- The database with an expiration and its consequences. -/
def Database.expired (db : Database) (e : Expiration) (reason : Option StatusReason)
    (decidedAt : Option Nat) : Database :=
  ({ db with expirations := db.expirations ++ [e] }).ended e.assignmentId .revisionExpired e.expiredAt
    e.sourceSubmissionId reason decidedAt

theorem commitExhaustion_eq_ok (h : db.commitExhaustion a m e = .ok after) :
    db.guardTaskRevisionExhaustion a m e = .ok () ∧
      ∃ reason decidedAt, after = db.exhausted e reason decidedAt := by
  simp only [Database.commitExhaustion, eq_ok] at h
  obtain ⟨-, -, -, -, ⟨⟩, hguard, hrecord⟩ := h
  obtain ⟨old, reason, decidedAt, -, -, rfl⟩ := recordAttemptOutcome_eq_ok hrecord
  exact ⟨hguard, reason, decidedAt, rfl⟩

theorem appendCreated_eq_ok {input : OutboxAppendInput} {differs : Refusal}
    (h : db.appendCreated eventId input differs = .ok after) :
    after = { db with events := db.events ++ [⟨eventId, input⟩] } := by
  simp only [Database.appendCreated, eq_ok] at h
  obtain ⟨-, -, rfl⟩ := h
  rfl

structure Expiring (db : Database) (a : Answers) (d : ExpiryDelivery) (m : RoutingManifest)
    (head : Preparation) (e : Expiration) (assignment : Assignment) (source : Submission) : Prop where
  manifest_eq : db.findManifest d.target.routingManifestId = some m
  head_eq : db.latestPreparation d.target.routingManifestId = some head
  assignment_eq : db.findAssignment e.assignmentId = some assignment
  source_eq : db.findSubmission e.sourceSubmissionId = some source
  manifestId : e.routingManifestId = m.id
  assignmentId : m.assignmentId = e.assignmentId
  submissionId : m.submissionId = e.sourceSubmissionId
  active : assignment.status = .active
  current : db.revisionRoutingSourceCurrent a.fenceCurrent m = true
  headId : e.headPreparationId = head.id
  timerDeadline : e.deadlineAt = d.target.deadlineAt
  deadline : head.deadlineAt = some e.deadlineAt
  running : head.remainingMicroseconds = none
  reached : e.deadlineAt ≤ e.expiredAt
  observed : e.expiredAt = a.readings.observed
  unexpired : db.expirations.any (fun x => x.routingManifestId = e.routingManifestId) = false

theorem recordExpiration_eq_ok {head : Preparation}
    (hm : db.findManifest d.target.routingManifestId = some m)
    (hhead : db.latestPreparation d.target.routingManifestId = some head)
    (h : db.recordExpiration a d m root head = .ok (outcome, after)) :
    after = db ∨ ∃ e assignment source, Expiring db a d m head e assignment source ∧
      ∃ extra reason decidedAt, after =
        ({ db with events := db.events ++ extra }).expired e reason decidedAt := by
  unfold Database.recordExpiration at h
  dsimp only at h
  split at h
  · cases h
    exact .inl rfl
  · right
    simp only [eq_ok] at h
    obtain ⟨announced, happend, ⟨⟩, hguard, decided, hrecord, -, rfl⟩ := h
    cases appendCreated_eq_ok happend
    obtain ⟨old, reason, decidedAt, -, -, rfl⟩ := recordAttemptOutcome_eq_ok hrecord
    simp only [Database.guardTaskRevisionExpiration, eq_ok, Bool.not_eq_true'] at hguard
    obtain ⟨assignment, hasgn, source, hsrc, -, -, -, hstate, -, hidentity, -, hchain, -, -, huniq⟩ :=
      hguard
    refine ⟨d.receipt head a.readings.observed, assignment, source, {
      manifest_eq := hm
      head_eq := hhead
      assignment_eq := hasgn
      source_eq := hsrc
      manifestId := hidentity.1.symm
      assignmentId := hidentity.2.1
      submissionId := hidentity.2.2.2.1
      active := hstate.2.2.2.2.1
      current := hstate.2.1
      headId := rfl
      timerDeadline := rfl
      deadline := hchain.2.2.2.2.2.2.2.1
      running := hchain.2.2.2.2.2.2.2.2.1
      reached := hstate.1
      observed := rfl
      unexpired := ?_ }, _, reason, decidedAt, rfl⟩
    simp only [List.any_eq_false, decide_eq_true_eq, not_or] at huniq ⊢
    exact fun x hx => (huniq x hx).2.1

/-- An expiry delivery changes nothing, or expires the window that its timer names. -/
theorem expire_eq_ok (h : db.expire a d = .ok (outcome, after)) :
    after = db ∨ ∃ m head e assignment source, Expiring db a d m head e assignment source ∧
      ∃ extra reason decidedAt, after =
        ({ db with events := db.events ++ extra }).expired e reason decidedAt := by
  unfold Database.expire at h
  split at h
  · cases h
    exact .inl rfl
  · split at h
    case h_2 =>
      cases h
      exact .inl rfl
    case h_1 assignment m root head _ hm _ hhead =>
      split at h
      · cases h
        exact .inl rfl
      · split at h
        · cases h
          exact .inl rfl
        · unfold Database.expireHead at h
          split at h
          · cases h
            exact .inl rfl
          · split at h
            · simp only [eq_ok] at h
              obtain ⟨-, -, -, rfl⟩ := h
              exact .inl rfl
            · simp only [eq_ok] at h
              obtain ⟨-, -, -, -, h⟩ := h
              split at h
              · cases h
                exact .inl rfl
              · exact (recordExpiration_eq_ok hm hhead h).imp id (fun hex => ⟨m, head, hex⟩)

structure Claimed (db : Database) (assignment : Assignment) : Prop where
  ready : db.task.status = .ready
  vacant : ∀ other ∈ db.assignments, other.status ≠ .active
  fresh : ∀ other ∈ db.assignments, other.id ≠ assignment.id
  active : assignment.status = .active

def Database.claimed (db : Database) (assignment : Assignment) : Database :=
  { db with
    assignments := db.assignments ++ [assignment]
    task := { db.task with status := .inProgress, assignedTo := some assignment.contributorId } }

theorem claim_eq_ok {r : ClaimRequest} (h : db.claim a r = .ok after) :
    ∃ assignment, Claimed db assignment ∧ after = db.claimed assignment := by
  simp only [Database.claim, eq_ok, Bool.not_eq_true', List.any_eq_false, decide_eq_true_eq] at h
  obtain ⟨-, -, -, hready, -, hvacant, -, -, -, hfresh, rfl⟩ := h
  exact ⟨r.assignment db.task a.readings.now, ⟨hready, hvacant.1, hfresh, rfl⟩, rfl⟩

structure Submitted (db : Database) (new : Submission) (assignment : Assignment) : Prop where
  assignment_eq : db.findAssignment new.taskAssignmentId = some assignment
  active : assignment.status = .active
  status : db.task.status = .inProgress ∨ db.task.status = .needsRevision
  lineage : new.lineage = db.task.lineage
  pending : new.attemptStatus = .evaluationPending
  undecided : new.statusReason = none
  capacity : db.guardSubmissionRevisionCapacity new = .ok ()
  fresh : ∀ s ∈ db.submissions, s.id ≠ new.id

def Database.submitted (db : Database) (new : Submission) : Database :=
  { db with submissions := db.submissions ++ [new], task := { db.task with status := .evaluationPending } }

theorem selectSubmissionContext_eq_ok {r : SubmissionRequest} {predecessor : Option SubmissionPredecessor}
    (h : db.selectSubmissionContext r = .ok predecessor) :
    ∃ assignment, db.findAssignment r.assignmentId = some assignment ∧ assignment.status = .active ∧
      (db.task.status = .inProgress ∨ db.task.status = .needsRevision) := by
  simp only [Database.selectSubmissionContext, eq_ok] at h
  obtain ⟨assignment, hasgn, -, hstate, -⟩ := h
  exact ⟨assignment, hasgn, hstate.2.2.1, hstate.2.2.2.2⟩

/-- What remains of a creation once its predecessor's window admitted it. -/
theorem createSubmission_eq_ok {r : SubmissionRequest} (h : db.createSubmission a r = .ok after) :
    ∃ new assignment, Submitted db new assignment ∧ after = db.submitted new := by
  simp only [Database.createSubmission, bind_eq_ok] at h
  obtain ⟨predecessor, hsel, -, -, -, -, -, -, h⟩ := h
  obtain ⟨assignment, hasgn, hact, hstat⟩ := selectSubmissionContext_eq_ok hsel
  have hrest : ∀ {new : Submission}, new.taskAssignmentId = r.assignmentId → new.lineage = db.task.lineage →
      new.attemptStatus = .evaluationPending → new.statusReason = none →
      db.guardSubmissionRevisionCapacity new = .ok () →
      (!db.submissions.any (fun s => s.id = new.id)) = true → Submitted db new assignment := by
    intro new hid hlin hpend hreason hcap hfresh
    simp only [Bool.not_eq_true', List.any_eq_false, decide_eq_true_eq] at hfresh
    exact ⟨by rw [hid]; exact hasgn, hact, hstat, hlin, hpend, hreason, hcap, hfresh⟩
  cases predecessor with
  | none =>
    simp only [eq_ok] at h
    obtain ⟨⟨⟩, hcap, -, -, -, hfresh, rfl⟩ := h
    exact ⟨_, assignment, hrest rfl rfl rfl rfl hcap hfresh, rfl⟩
  | some p =>
    simp only [eq_ok] at h
    obtain ⟨-, -, ⟨⟩, hcap, -, -, -, hfresh, rfl⟩ := h
    exact ⟨_, assignment, hrest rfl rfl rfl rfl hcap hfresh, rfl⟩

structure Routed (db : Database) (a : Answers) (r : RoutingRequest) (s : Submission) (plan : RoutingPlan)
    (assignment : Assignment) : Prop where
  prepared : db.prepareRouting a r = .ok (s, plan)
  status : db.task.status = .evaluationPending
  latest : db.latestSubmission = some s
  assignment_eq : db.findAssignment s.taskAssignmentId = some assignment
  active : assignment.status = .active
  lineage : db.task.lineage = s.lineage
  authority : db.guardTaskRoutingAuthority (r.manifest s plan a.readings.now) s = .ok ()
  fresh : ∀ other ∈ db.manifests, other.id ≠ r.manifestId

theorem prepareRouting_eq_ok (h : db.prepareRouting a r = .ok (s, plan)) :
    db.task.status = .evaluationPending ∧ db.latestSubmission = some s ∧ db.task.lineage = s.lineage ∧
      ∃ assignment, db.findAssignment s.taskAssignmentId = some assignment ∧ assignment.status = .active ∧
        match classifyResult r.members r.humanReviewRequired with
        | .needsRevision => ∃ context, db.planRevision a r context assignment s = .ok plan ∧
            context.lineage = s.lineage
        | .allowReview => plan = if r.humanReviewRequired then .review else .accept := by
  simp only [Database.prepareRouting, eq_ok] at h
  obtain ⟨-, hstat, latest, hlatest, -, -, assignment, hasgn, -, hstate, context, -, -, hlin, h⟩ := h
  have hcontext : context.lineage = latest.lineage := hlin.1.symm.trans hlin.2.1
  cases hclass : classifyResult r.members r.humanReviewRequired with
  | needsRevision =>
    rw [hclass] at h
    simp only [eq_ok] at h
    obtain ⟨planned, hplanned, rfl, rfl⟩ := h
    exact ⟨hstat, hlatest, hlin.2.1, assignment, hasgn, hstate.1, context, hplanned, hcontext⟩
  | allowReview =>
    rw [hclass] at h
    obtain ⟨rfl, rfl⟩ := h
    exact ⟨hstat, hlatest, hlin.2.1, assignment, hasgn, hstate.1, rfl⟩

theorem Routed.of_authority (hprep : db.prepareRouting a r = .ok (s, plan))
    (hauth : db.guardTaskRoutingAuthority (r.manifest s plan a.readings.now) s = .ok ()) :
    ∃ assignment, Routed db a r s plan assignment := by
  obtain ⟨hstat, hlatest, hlin, assignment, hasgn, hact, -⟩ := prepareRouting_eq_ok hprep
  refine ⟨assignment, hprep, hstat, hlatest, hasgn, hact, hlin, hauth, ?_⟩
  simp only [Database.guardTaskRoutingAuthority, Bool.not_eq_true', List.any_eq_false, decide_eq_true_eq,
    not_or] at hauth
  split at hauth
  all_goals
    simp only [eq_ok] at hauth
    obtain ⟨-, -, huniq⟩ := hauth
    exact fun other hother => (huniq other hother).1

abbrev Database.withManifest (db : Database) (m : RoutingManifest) : Database :=
  { db with manifests := db.manifests ++ [m] }

/-- The manifest of a routing that returns the submission. -/
abbrev RoutingRequest.returns (r : RoutingRequest) (a : Answers) (s : Submission)
    (candidate : RevisionCandidate) : RoutingManifest :=
  r.manifest s (.remediate candidate) a.readings.now

/-- The manifest of a routing that exhausts the rounds. -/
abbrev RoutingRequest.fails (r : RoutingRequest) (a : Answers) (s : Submission)
    (revisionRound maxRevisionRounds : Nat) : RoutingManifest :=
  r.manifest s (.exhaust revisionRound maxRevisionRounds) a.readings.now

/-- A routing is a replay, or applies the branch it prepared to the database with its manifest. -/
theorem route_eq_ok (h : db.route a r = .ok after) :
    after = db ∨ ∃ s plan assignment, Routed db a r s plan assignment ∧
      (db.withManifest (r.manifest s plan a.readings.now)).applyPlan a r
      (r.manifest s plan a.readings.now) plan =
        .ok after := by
  unfold Database.route at h
  split at h
  · cases h
    exact .inl rfl
  · right
    simp only [eq_ok] at h
    obtain ⟨⟨s, plan⟩, hprep, -, -, ⟨⟩, hauth, happly⟩ := h
    obtain ⟨assignment, hrouted⟩ := Routed.of_authority hprep hauth
    exact ⟨s, plan, assignment, hrouted, happly⟩

def Database.returned (db : Database) (m : RoutingManifest) (reason : Option StatusReason)
    (decidedAt : Option Nat) : Database :=
  ({ db.withManifest m with task := { db.task with status := .needsRevision } }).decide m.submissionId
    .needsRevision reason decidedAt

/-- A remediation returns the submission and prepares its revision. -/
theorem applyPlan_remediate
    (h : (db.withManifest m).applyPlan a r m (.remediate candidate) = .ok after) :
    ∃ old reason decidedAt row,
      db.findSubmission m.submissionId = some old ∧
      ({ db.withManifest m with task := { db.task with status := .needsRevision } }).attemptEvidence none old
        .needsRevision = some (reason, decidedAt) ∧
      (((db.returned m reason decidedAt).headForSource m.id = some row ∧
          ∃ extra, after = { db.returned m reason decidedAt with events := db.events ++ extra }) ∨
        Prepared (db.returned m reason decidedAt) a (some m.id) m row after) := by
  simp only [Database.applyPlan, bind_eq_ok] at h
  obtain ⟨decided, hrecord, ⟨prepared, row⟩, hprep, hpub⟩ := h
  obtain ⟨old, reason, decidedAt, hold, hevid, rfl⟩ := recordAttemptOutcome_eq_ok hrecord
  refine ⟨old, reason, decidedAt, row, hold, hevid, ?_⟩
  rcases prepared_of_publish hprep hpub with ⟨-, hhead, extra, rfl⟩ | hprepared
  · exact .inl ⟨hhead, extra, rfl⟩
  · exact .inr hprepared

/-- A repair is a replay, or inserts a successor of its parent. -/
theorem repairRevisionContext_eq_ok {r : RepairRequest} (h : db.repairRevisionContext a r = .ok after) :
    after = db ∨ ∃ parent m row, db.findPreparation r.parentPreparationId = some parent ∧
      parent.routingManifestId = m.id ∧ m ∈ db.manifests ∧ Prepared db a none m row after := by
  simp only [Database.repairRevisionContext, eq_ok] at h
  obtain ⟨parent, hpar, -, -, assignment, -, -, -, latest, -, -, -, h⟩ := h
  split at h
  · simp only [eq_ok] at h
    obtain ⟨-, -, rfl⟩ := h
    exact .inl rfl
  · simp only [eq_ok] at h
    obtain ⟨m, hm, -, -, -, -, -, -, -, -, historical, -, policy, -, -, -, -, -, -, -, -, -, ⟨prepared, row⟩,
      hprep, -, -, root, -, hpub⟩ := h
    rcases prepared_of_publish hprep hpub with ⟨hnone, -⟩ | hprepared
    · cases hnone
    · have hid : m.id = parent.routingManifestId := by simpa using List.find?_some hm
      exact .inr ⟨parent, m, row, hpar, hid.symm, List.mem_of_find?_eq_some hm, hprepared⟩

/-- Recovery of a missing root is a replay, or inserts the root. -/
theorem recoverMissingRevisionRoot_eq_ok {r : MissingRootRequest}
    (h : db.recoverMissingRevisionRoot a r = .ok after) :
    after = db ∨ ∃ m row, m.id = r.routingManifestId ∧ m ∈ db.manifests ∧ Prepared db a none m row after := by
  simp only [Database.recoverMissingRevisionRoot, eq_ok] at h
  obtain ⟨m, hm, -, -, assignment, -, -, -, latest, -, -, -, h⟩ := h
  split at h
  · simp only [eq_ok] at h
    obtain ⟨-, -, rfl⟩ := h
    exact .inl rfl
  · simp only [eq_ok] at h
    obtain ⟨-, -, historical, -, policy, -, -, hmissing, ⟨prepared, row⟩, hprep, hpub⟩ := h
    rcases prepared_of_publish hprep hpub with ⟨-, hhead, -⟩ | hprepared
    · rw [hmissing.1] at hhead
      cases hhead
    · have hid : m.id = r.routingManifestId := by simpa using List.find?_some hm
      exact .inr ⟨m, row, hid, List.mem_of_find?_eq_some hm, hprepared⟩

theorem publishRecovery_eq_ok {r : RecoveryRequest} {root : Option Preparation}
    (h : db.publishRecovery a r m root candidate predecessor = .ok after) :
    (∃ extra, after = { db with events := db.events ++ extra }) ∨ ∃ row, Prepared db a none m row after := by
  simp only [Database.publishRecovery, eq_ok] at h
  obtain ⟨-, -, ⟨prepared, row⟩, hprep, -, -, hpub⟩ := h
  rcases prepared_of_publish hprep hpub with ⟨-, -, hextra⟩ | hprepared
  · exact .inl hextra
  · exact .inr ⟨row, hprepared⟩

theorem recoverHead_eq_ok {r : RecoveryRequest} (h : db.recoverHead a r m = .ok (gained, after)) :
    (∃ extra, after = { db with events := db.events ++ extra }) ∨ ∃ row, Prepared db a none m row after := by
  have hsame : ∃ extra, db = { db with events := db.events ++ extra } := ⟨[], by simp⟩
  unfold Database.recoverHead at h
  split at h
  · split at h
    · cases h
      exact .inl hsame
    · simp only [eq_ok] at h
      obtain ⟨published, hpub, -, rfl⟩ := h
      exact publishRecovery_eq_ok hpub
  · dsimp only at h
    split at h
    · simp only [eq_ok] at h
      obtain ⟨published, hpub, -, rfl⟩ := h
      exact publishRecovery_eq_ok hpub
    · simp only [bind_eq_ok] at h
      obtain ⟨input, -, h⟩ := h
      split at h
      · cases h
        exact .inl hsame
      · simp only [eq_ok] at h
        obtain ⟨-, -, published, happend, -, rfl⟩ := h
        exact .inl (append_eq_ok happend)

/-- Recovery finds nothing to exhaust, or exhausts the source and announces it. -/
theorem recoverExhaustedAssignment_eq_ok {r : RecoveryRequest} {source : Submission}
    {result : Option Database} (h : db.recoverExhaustedAssignment a r m assignment source = .ok result) :
    result = none ∨ ∃ e extra reason decidedAt,
      (∃ assignment s policy, Exhausting db a m e assignment s policy) ∧
      result = some (({ db with events := db.events ++ extra }).exhausted e reason decidedAt) := by
  unfold Database.recoverExhaustedAssignment at h
  split at h
  · cases h
    exact .inl rfl
  · dsimp only at h
    split at h
    · cases h
      exact .inl rfl
    · right
      simp only [eq_ok] at h
      obtain ⟨-, -, -, -, announced, happend, committed, hcommit, rfl⟩ := h
      cases appendCreated_eq_ok happend
      obtain ⟨hguard, reason, decidedAt, rfl⟩ := commitExhaustion_eq_ok hcommit
      exact ⟨_, _, reason, decidedAt, guardTaskRevisionExhaustion_eq_ok hguard, rfl⟩

/-- A recovery announces, prepares or exhausts the source it was called for. -/
theorem recover_eq_ok {r : RecoveryRequest} (h : db.recover a r = .ok (gained, after)) :
    (∃ extra, after = { db with events := db.events ++ extra }) ∨
      ∃ m assignment latest, db.findManifest r.routingManifestId = some m ∧
        db.findAssignment m.assignmentId = some assignment ∧ db.latestSubmission = some latest ∧
        db.sourceOpen m assignment latest = true ∧
        ((∃ row, Prepared db a none m row after) ∨ ∃ e extra reason decidedAt,
          (∃ assignment s policy, Exhausting db a m e assignment s policy) ∧
          after = ({ db with events := db.events ++ extra }).exhausted e reason decidedAt) := by
  have hsame : ∃ extra, db = { db with events := db.events ++ extra } := ⟨[], by simp⟩
  unfold Database.recover at h
  split at h
  case h_2 =>
    cases h
    exact .inl hsame
  case h_1 m latest hm hlatest =>
    split at h
    · cases h
      exact .inl hsame
    · next assignment hasgn =>
      split at h
      · cases h
        exact .inl hsame
      · next hopen =>
        have hsrc : db.sourceOpen m assignment latest = true := by
          simp only [Bool.not_eq_true, Bool.not_eq_false', Bool.and_eq_true] at hopen
          exact hopen.1.1.1.2
        simp only [bind_eq_ok] at h
        obtain ⟨result, hexh, h⟩ := h
        rcases recoverExhaustedAssignment_eq_ok hexh with rfl | ⟨e, extra, reason, decidedAt, he, rfl⟩
        · rcases recoverHead_eq_ok h with hextra | hprep
          · exact .inl hextra
          · exact .inr ⟨m, assignment, latest, hm, hasgn, hlatest, hsrc, .inl hprep⟩
        · cases h
          exact .inr ⟨m, assignment, latest, hm, hasgn, hlatest, hsrc,
            .inr ⟨e, extra, reason, decidedAt, he, rfl⟩⟩

inductive Change (db : Database) : Action → Database → Prop
  | announced {action : Action} (extra : List RevisionEvent) :
      Change db action { db with events := db.events ++ extra }
  | claimed {a : Answers} {r : ClaimRequest} {assignment : Assignment} (h : Claimed db assignment) :
      Change db (.claim a r) (db.claimed assignment)
  | submitted {a : Answers} {r : SubmissionRequest} {new : Submission} {assignment : Assignment}
      (h : Submitted db new assignment) : Change db (.submit a r) (db.submitted new)
  | reviewed {a : Answers} {r : RoutingRequest} {s : Submission} {assignment : Assignment}
      (h : Routed db a r s .review assignment) (reason : Option StatusReason) (decidedAt : Option Nat) :
      Change db (.route a r) (({ db.withManifest (r.manifest s .review a.readings.now) with
        task := { db.task with status := .reviewPending } }).decide s.id .reviewPending reason decidedAt)
  | accepted {a : Answers} {r : RoutingRequest} {s : Submission} {assignment : Assignment}
      (h : Routed db a r s .accept assignment) (reason : Option StatusReason) (decidedAt : Option Nat) :
      Change db (.route a r) (((db.withManifest (r.manifest s .accept a.readings.now)).completeAssignment
        s.taskAssignmentId).decide s.id .accepted reason decidedAt)
  | failed {a : Answers} {r : RoutingRequest} {s : Submission} {revisionRound maxRevisionRounds : Nat}
      {assignment released : Assignment} {source : Submission} {policy : RevisionPolicy} {e : Exhaustion}
      (h : Routed db a r s (.exhaust revisionRound maxRevisionRounds) assignment)
      (he : Exhausting (db.withManifest (r.fails a s revisionRound maxRevisionRounds)) a
        (r.fails a s revisionRound maxRevisionRounds) e released source policy)
      (reason : Option StatusReason) (decidedAt : Option Nat) :
      Change db (.route a r)
        ((db.withManifest (r.fails a s revisionRound maxRevisionRounds)).exhausted e reason decidedAt)
  | returned {a : Answers} {r : RoutingRequest} {s old : Submission} {candidate : RevisionCandidate}
      {assignment : Assignment} {reason : Option StatusReason} {decidedAt : Option Nat} {row : Preparation}
      {after : Database}
      (h : Routed db a r s (.remediate candidate) assignment)
      (hold : db.findSubmission s.id = some old)
      (hevidence : ({ db.withManifest (r.returns a s candidate) with
        task := { db.task with status := .needsRevision } }).attemptEvidence none old .needsRevision =
          some (reason, decidedAt))
      (hrow : ((db.returned (r.returns a s candidate) reason decidedAt).headForSource r.manifestId =
            some row ∧
          ∃ extra, after = { db.returned (r.returns a s candidate) reason decidedAt with
            events := db.events ++ extra }) ∨
        Prepared (db.returned (r.returns a s candidate) reason decidedAt) a (some r.manifestId)
          (r.returns a s candidate) row after) :
      Change db (.route a r) after
  | prepared {action : Action} {m : RoutingManifest} {row : Preparation} {after : Database}
      (hm : m ∈ db.manifests) (h : Prepared db action.answers none m row after) : Change db action after
  | exhausted {a : Answers} {r : RecoveryRequest} {m : RoutingManifest} {e : Exhaustion}
      {assignment released : Assignment} {latest source : Submission} {policy : RevisionPolicy}
      (hm : m ∈ db.manifests) (hlatest : db.latestSubmission = some latest)
      (hopen : db.sourceOpen m assignment latest = true) (he : Exhausting db a m e released source policy)
      (extra : List RevisionEvent) (reason : Option StatusReason) (decidedAt : Option Nat) :
      Change db (.recover a r) (({ db with events := db.events ++ extra }).exhausted e reason decidedAt)
  | expired {a : Answers} {d : ExpiryDelivery} {m : RoutingManifest} {head : Preparation} {e : Expiration}
      {released : Assignment} {source : Submission} (he : Expiring db a d m head e released source)
      (extra : List RevisionEvent) (reason : Option StatusReason) (decidedAt : Option Nat) :
      Change db (.expire a d) (({ db with events := db.events ++ extra }).expired e reason decidedAt)

theorem Change.refl (db : Database) (action : Action) : Change db action db := by
  have h : Change db action { db with events := db.events ++ [] } := .announced []
  simpa using h

theorem change_of_route (h : db.route a r = .ok after) : Change db (.route a r) after := by
  rcases route_eq_ok h with rfl | ⟨s, plan, assignment, hrouted, happly⟩
  · exact Change.refl _ _
  · cases plan with
    | exhaust =>
      obtain ⟨hguard, reason, decidedAt, rfl⟩ := commitExhaustion_eq_ok happly
      obtain ⟨released, source, policy, he⟩ := guardTaskRevisionExhaustion_eq_ok hguard
      exact .failed hrouted he reason decidedAt
    | remediate =>
      obtain ⟨old, reason, decidedAt, row, hold, hevid, hrow⟩ := applyPlan_remediate happly
      exact .returned hrouted hold hevid hrow
    | review =>
      obtain ⟨old, reason, decidedAt, -, -, rfl⟩ := recordAttemptOutcome_eq_ok happly
      exact .reviewed hrouted reason decidedAt
    | accept =>
      simp only [Database.applyPlan, bind_eq_ok] at happly
      obtain ⟨-, -, hrecord⟩ := happly
      obtain ⟨old, reason, decidedAt, -, -, rfl⟩ := recordAttemptOutcome_eq_ok hrecord
      exact .accepted hrouted reason decidedAt

/-- Every operation that succeeds makes one of the changes. -/
theorem change_of_perform {action : Action} (h : db.perform action = .ok after) : Change db action after := by
  cases action with
  | claim =>
    obtain ⟨assignment, hclaimed, rfl⟩ := claim_eq_ok h
    exact .claimed hclaimed
  | submit =>
    obtain ⟨new, assignment, hsubmitted, rfl⟩ := createSubmission_eq_ok h
    exact .submitted hsubmitted
  | route => exact change_of_route h
  | repair =>
    rcases repairRevisionContext_eq_ok h with rfl | ⟨parent, m, row, -, -, hm, hprep⟩
    · exact Change.refl _ _
    · exact .prepared hm hprep
  | recoverMissingRoot =>
    rcases recoverMissingRevisionRoot_eq_ok h with rfl | ⟨m, row, -, hm, hprep⟩
    · exact Change.refl _ _
    · exact .prepared hm hprep
  | recover =>
    obtain ⟨⟨gained, committed⟩, hrecover, rfl⟩ := map_eq_ok.mp h
    rcases recover_eq_ok hrecover with ⟨extra, rfl⟩ | ⟨m, assignment, latest, hm, -, hlatest, hopen, hrest⟩
    · exact .announced extra
    · rcases hrest with ⟨row, hprep⟩ | ⟨e, extra, reason, decidedAt, ⟨released, s, policy, he⟩, rfl⟩
      · exact .prepared (List.mem_of_find?_eq_some hm) hprep
      · exact .exhausted (List.mem_of_find?_eq_some hm) hlatest hopen he extra reason decidedAt
  | expire =>
    obtain ⟨⟨outcome, committed⟩, hexpire, rfl⟩ := map_eq_ok.mp h
    rcases expire_eq_ok hexpire with rfl | ⟨m, head, e, released, source, he, extra, reason, decidedAt, rfl⟩
    · exact Change.refl _ _
    · exact .expired he extra reason decidedAt

end Workstream.Revision
