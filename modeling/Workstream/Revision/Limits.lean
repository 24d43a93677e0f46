import Workstream.Revision.Rounds

/-! # The limit is never reached by surprise -/

namespace Workstream.Revision
open Foundation Tasks

variable {db after : Database} {a : Answers} {routed : Option Uuid} {m : RoutingManifest}
  {s : Submission} {policy : RevisionPolicy} {root head : Preparation} {released : Assignment}

theorem policyOf_eq_some {lineage : TaskPolicyLineage} (h : db.policyOf lineage = some policy) :
    db.revisionPolicies lineage.lockedRevisionPolicyId = some policy :=
  (Option.filter_eq_some_iff.mp h).1

theorem clockSource_eq (routed : Option Uuid) (hm : db.findManifest m.id = some m)
    (hs : db.findSubmission m.submissionId = some s) (hpol : db.policyOf s.lineage = some policy) :
    ∃ source, db.clockSource routed m.id = some source ∧ source.policy = policy := by
  unfold Database.clockSource
  rw [hm]
  simp only [Option.bind_eq_bind, Option.bind_some, hs, policyOf_eq_some hpol]
  exact ⟨_, rfl, rfl⟩

variable {new row : Preparation} {ids : PreparationIds} {candidate : RevisionCandidate}
  {predecessor : Option Preparation} {repair : Option RepairReceipt} {r : RoutingRequest}
  {assignment : Assignment} {plan : RoutingPlan} {reason : Option StatusReason}
  {decidedAt : Option Nat} {e : Exhaustion} {p : SubmissionPredecessor}

/-- Never refused for the revision limit. -/
abbrev Unlimited {α : Type} (answer : Except Refusal α) : Prop := Avoids .revisionLimitReached answer

theorem projectRevisionPreparationClock_avoids {source : ClockSource} {prior : Option Preparation}
    {observed : Nat} (h : new.nextRevisionRound ≤ source.policy.maxRevisionRounds) :
    Unlimited (projectRevisionPreparationClock source prior observed new) := by
  unfold projectRevisionPreparationClock
  cases new.predecessorId <;> simp [h]

theorem guardRevisionPreparation_avoids (h : row.nextRevisionRound ≤ row.maxRevisionRounds) :
    Unlimited (db.guardRevisionPreparation a routed row) := by
  have hcust : ∀ observed policy, Unlimited (db.guardCustody routed observed policy row) := by
    intro observed policy
    unfold Database.guardCustody
    cases row.predecessorId with
    | none => simp [Database.guardRoot]
    | some id => simp [Database.guardSuccessor]
  have htgt : Unlimited (db.guardTarget row.candidate) := by
    unfold Database.guardTarget
    cases row.candidate.target <;> simp
  simp [Database.guardRevisionPreparation, hcust, htgt, h]

theorem insertPreparation_avoids (hid : new.routingManifestId = m.id)
    (hm : db.findManifest m.id = some m) (hs : db.findSubmission m.submissionId = some s)
    (hpol : db.policyOf s.lineage = some policy)
    (hcap : new.maxRevisionRounds = policy.maxRevisionRounds)
    (hround : new.nextRevisionRound ≤ policy.maxRevisionRounds) :
    Unlimited (db.insertPreparation a routed new) := by
  obtain ⟨source, hsrc, hsourcePolicy⟩ := clockSource_eq routed hm hs hpol
  unfold Database.insertPreparation
  rw [hid, hsrc]
  refine Avoids.bind (by simp) (fun found hfound => ?_)
  have hsame : source = found := by simpa using hfound
  subst hsame
  refine Avoids.bind (projectRevisionPreparationClock_avoids (hsourcePolicy ▸ hround)) (fun row hrow => ?_)
  obtain ⟨-, columns, rfl⟩ := projectRevisionPreparationClock_eq_ok hrow
  refine Avoids.bind (guardRevisionPreparation_avoids (hcap ▸ hround)) (fun _ _ => ?_)
  simp [Database.checkPreparation]

def preparationLimit (candidate : RevisionCandidate) : Option Preparation → Nat
  | some p => p.maxRevisionRounds
  | none => candidate.maxRevisionRounds

/-- The round a preparation is for is within its limit, or is its predecessor's. -/
def Database.NextWithin (db : Database) (m : RoutingManifest) (candidate : RevisionCandidate)
    (predecessor : Option Preparation) : Prop :=
  db.countedSubmissions m.assignmentId m.submissionVersion ≤ preparationLimit candidate predecessor ∨
    ∃ p, predecessor = some p ∧ p.nextRevisionRound ≤ p.maxRevisionRounds

theorem newPreparation_eq_ok (h : db.newPreparation ids m candidate predecessor repair = .ok new) :
    new.routingManifestId = m.id ∧ new.maxRevisionRounds = preparationLimit candidate predecessor ∧
      new.nextRevisionRound ≤ preparationLimit candidate predecessor := by
  simp only [Database.newPreparation, eq_ok] at h
  obtain ⟨-, -, -, hround, requestedAt, -, rfl⟩ := h
  cases predecessor with
  | none | some => exact ⟨rfl, rfl, hround⟩

theorem newPreparation_avoids
    (hround : db.NextWithin m candidate predecessor) :
    Unlimited (db.newPreparation ids m candidate predecessor repair) := by
  refine Avoids.bind (by simp) (fun _ hsame => Avoids.bind ?_ (fun _ _ => by simp))
  rw [avoids_require]
  intro _
  rcases hround with hround | ⟨p, rfl, hround⟩
  · cases predecessor with
    | none => exact hround
    | some p => exact hround
  · have hcount : db.countedSubmissions m.assignmentId m.submissionVersion = p.nextRevisionRound := by
      simpa using hsame
    rw [hcount]
    exact hround

theorem prepareRevision_avoids (hm : db.findManifest m.id = some m)
    (hs : db.findSubmission m.submissionId = some s) (hpol : db.policyOf s.lineage = some policy)
    (hcap : preparationLimit candidate predecessor = policy.maxRevisionRounds)
    (hround : db.NextWithin m candidate predecessor) :
    Unlimited (db.prepareRevision a ids routed m candidate predecessor repair) := by
  unfold Database.prepareRevision
  split
  · simp
  · refine Avoids.bind (by simp) (fun _ _ => Avoids.bind (by simp) (fun _ _ => ?_))
    refine Avoids.bind (newPreparation_avoids hround) (fun new hnew => ?_)
    obtain ⟨hid, hmax, hnext⟩ := newPreparation_eq_ok hnew
    refine Avoids.bind ?_ (fun _ _ => by simp)
    exact insertPreparation_avoids hid hm hs hpol (hmax.trans hcap) (hcap ▸ hnext)

theorem revisionPreparationEvent_avoids {task : Task} :
    Unlimited (revisionPreparationEvent task m root head) := by
  unfold revisionPreparationEvent
  cases head.deadlineAt <;> simp

theorem append_avoids {eventId : Uuid} {input : OutboxAppendInput} :
    Unlimited (db.append eventId input) := by
  unfold Database.append
  split
  · split <;> simp
  · simp

theorem publishPreparation_avoids :
    Unlimited (db.publishPreparation a ids m root head) := by
  have hclosure : ∀ published : Database, Unlimited
      (published.guardRevisionPreparationClosure a.readings.committed m head) := by
    intro published
    unfold Database.guardRevisionPreparationClosure
    cases head.deadlineAt <;> simp
  simp [Database.publishPreparation, revisionPreparationEvent_avoids, append_avoids, hclosure]

/-- The failure of a submission at its cap, which no coverage return excuses. -/
def AtCap (db : Database) (r : RoutingRequest) (s : Submission) (policy : RevisionPolicy) : Prop :=
  db.submissionRevisionRound s.taskAssignmentId s.version = policy.maxRevisionRounds ∧
    checkerRunCoverageReturn r.members = false

structure RevisionPlan (db : Database) (r : RoutingRequest) (s : Submission) (plan : RoutingPlan)
    (policy : RevisionPolicy) : Prop where
  policy_eq : db.policyOf s.lineage = some policy
  round_le : db.submissionRevisionRound s.taskAssignmentId s.version ≤ policy.maxRevisionRounds
  branch : (AtCap db r s policy ∧ ∃ revisionRound maxRevisionRounds,
      plan = .exhaust revisionRound maxRevisionRounds) ∨
    (¬AtCap db r s policy ∧ ∃ candidate, plan = .remediate candidate ∧
      candidate.maxRevisionRounds = policy.maxRevisionRounds)

theorem selectCandidate_maxRevisionRounds (prior : RevisionContextSnapshot) (policy : RevisionPolicy)
    (active : Option ActiveContext) :
    (db.selectCandidate prior policy active).maxRevisionRounds = policy.maxRevisionRounds := by
  unfold Database.selectCandidate
  split <;> rfl

theorem planRevision_eq_ok {context : RevisionContextSnapshot}
    (h : db.planRevision a r context assignment s = .ok plan)
    (hcontext : context.lineage = s.lineage) (hasgn : assignment.id = s.taskAssignmentId) :
    ∃ policy, RevisionPlan db r s plan policy := by
  simp only [Database.planRevision, eq_ok, hcontext, hasgn, ← checkerRunCoverageReturn_eq,
    Bool.not_eq_true'] at h
  obtain ⟨policy, hpol, -, hrange, h⟩ := h
  refine ⟨policy, hpol, hrange.1, ?_⟩
  split at h
  · next hcap =>
    cases h
    exact .inl ⟨hcap, _, _, rfl⟩
  · next hcap =>
    cases h
    exact .inr ⟨hcap, _, rfl, selectCandidate_maxRevisionRounds _ _ _⟩

theorem Routed.revisionPlan (h : Routed db a r s plan assignment)
    (hneeds : classifyResult r.members r.humanReviewRequired = .needsRevision) :
    ∃ policy, RevisionPlan db r s plan policy := by
  obtain ⟨-, -, -, assignment, hasgn, -, hbr⟩ := prepareRouting_eq_ok h.prepared
  rw [hneeds] at hbr
  obtain ⟨context, hplanned, hcontext⟩ := hbr
  exact planRevision_eq_ok hplanned hcontext (findAssignment_eq_some hasgn).2

theorem Routed.needsRevision (h : Routed db a r s plan assignment)
    (hplan : plan ≠ .review ∧ plan ≠ .accept) :
    classifyResult r.members r.humanReviewRequired = .needsRevision := by
  obtain ⟨-, -, -, assignment, -, -, hbr⟩ := prepareRouting_eq_ok h.prepared
  cases hclass : classifyResult r.members r.humanReviewRequired with
  | needsRevision => rfl
  | allowReview =>
    rw [hclass] at hbr
    simp only at hbr
    split at hbr
    · exact absurd hbr hplan.1
    · exact absurd hbr hplan.2

theorem Sound.submissionKeys (h : Sound db) : (db.submissions.map Submission.id).Nodup := by
  have hrows := h.submissionIds
  unfold Database.rows at hrows
  rw [List.map_map] at hrows
  exact hrows

/-- The reason a return gives is read off its own manifest. -/
theorem Counted.reason_of_evidence (h : Counted db) (hlatest : db.latestSubmission = some s)
    (hstat : db.task.status = .evaluationPending)
    (hevid : ({ db.withManifest m with task := { db.task with status := .needsRevision } }).attemptEvidence
      none s .needsRevision = some (reason, decidedAt)) :
    reason = if checkerRunCoverageReturn m.members then some .checkerCoverageIncomplete else none := by
  obtain ⟨hpend, -, hmans, -⟩ := h.unprepared hlatest hstat
  unfold Database.attemptEvidence at hevid
  rw [hpend] at hevid
  simp only [Option.map_eq_some_iff, Prod.mk.injEq] at hevid
  obtain ⟨found, hfound, hreason, -⟩ := hevid
  have hmem := List.mem_of_find?_eq_some hfound
  have hfacts := List.find?_some hfound
  simp only [decide_eq_true_eq] at hfacts
  rcases Table.mem_append hmem with hmem | rfl
  · exact absurd hfacts.1 (hmans found hmem)
  · rw [← hreason]

theorem Counted.round_eq (h : Counted db) (hlatest : db.latestSubmission = some s)
    (hstat : db.task.status = .evaluationPending) :
    db.submissionRevisionRound s.taskAssignmentId s.version =
      db.spentBefore s.taskAssignmentId s.version := by
  have hcounted := h.sound.counted_eq (latest_mem hlatest)
  rw [(h.unprepared hlatest hstat).2.1, if_neg (by decide)] at hcounted
  unfold Database.submissionRevisionRound
  omega

def Submission.returned (s : Submission) (reason : Option StatusReason) (decidedAt : Option Nat) :
    Submission :=
  { s with attemptStatus := .needsRevision, statusReason := reason, decidedAt }

theorem returned_mem (hs : s ∈ db.submissions) (hid : m.submissionId = s.id) :
    s.returned reason decidedAt ∈ (db.returned m reason decidedAt).submissions :=
  List.mem_map.mpr ⟨s, hs, if_pos hid.symm⟩

/-- A failure spends a round, a coverage return does not. -/
theorem Counted.counted_returned (h : Counted db) (hlatest : db.latestSubmission = some s)
    (hsub : m.submissionId = s.id) (hsound : Sound (db.returned m reason decidedAt)) :
    (db.returned m reason decidedAt).countedSubmissions s.taskAssignmentId s.version =
      db.spentBefore s.taskAssignmentId s.version +
        if reason = some .checkerCoverageIncomplete then 0 else 1 := by
  have hcounted := hsound.counted_eq (returned_mem (latest_mem hlatest) hsub)
  have hspent : (db.returned m reason decidedAt).spentBefore s.taskAssignmentId s.version =
      db.spentBefore s.taskAssignmentId s.version := by
    refine spentBefore_decide _ ?_
    intro t ht hid
    exact h.sound.version_le_of_latest hlatest t ht (hid.trans hsub) s.row (row_mem (latest_mem hlatest))
  rw [← hspent]
  exact hcounted

/-- Below the cap, or returned for coverage, the next round is within the cap. -/
theorem Counted.next_le (h : Counted db) (hlatest : db.latestSubmission = some s)
    (hstat : db.task.status = .evaluationPending) (hsub : m.submissionId = s.id)
    (hsound : Sound (db.returned m reason decidedAt)) (hplan : RevisionPlan db r s plan policy)
    (hbelow : ¬AtCap db r s policy)
    (hreason : reason = if checkerRunCoverageReturn r.members then some .checkerCoverageIncomplete
      else none) :
    (db.returned m reason decidedAt).countedSubmissions s.taskAssignmentId s.version ≤
      policy.maxRevisionRounds := by
  have hround := hplan.round_le
  rw [h.counted_returned hlatest hsub hsound, hreason]
  rw [AtCap, h.round_eq hlatest hstat] at hbelow
  rw [h.round_eq hlatest hstat] at hround
  cases hcoverage : checkerRunCoverageReturn r.members with
  | true =>
    simp only [if_true]
    omega
  | false =>
    have hne : (db.spentBefore s.taskAssignmentId s.version : Int) ≠ policy.maxRevisionRounds :=
      fun heq => hbelow ⟨heq, hcoverage⟩
    simp only [Bool.false_eq_true, if_false, reduceCtorEq]
    omega

theorem Routed.reads_returned (hrouted : Routed db a r s (.remediate candidate) assignment)
    (hsound : Sound (db.returned (r.returns a s candidate) reason decidedAt)) :
    (db.returned (r.returns a s candidate) reason decidedAt).findManifest r.manifestId =
        some (r.returns a s candidate) ∧
      (db.returned (r.returns a s candidate) reason decidedAt).findSubmission s.id =
        some (s.returned reason decidedAt) := by
  constructor
  · exact Table.find_of_mem hsound.manifestIds List.mem_concat_self
  · exact Table.find_of_mem hsound.submissionKeys (returned_mem (latest_mem hrouted.latest) rfl)

theorem recordAttemptOutcome_avoids {acceptedAt : Option Nat} {submissionId : Uuid}
    {outcome : AttemptStatus} :
    Unlimited (db.recordAttemptOutcome acceptedAt submissionId outcome) := by
  simp [Database.recordAttemptOutcome]

theorem commitExhaustion_avoids : Unlimited (db.commitExhaustion a m e) := by
  simp [Database.commitExhaustion, Database.guardTaskRevisionExhaustion, recordAttemptOutcome_avoids]

/-- A remediation finds its round within the cap again after it recorded the return. -/
theorem Counted.remediate_avoids (h : Counted db)
    (hrouted : Routed db a r s (.remediate candidate) assignment) :
    Unlimited ((db.withManifest (r.returns a s candidate)).applyPlan a r (r.returns a s candidate)
      (.remediate candidate)) := by
  refine Avoids.bind recordAttemptOutcome_avoids (fun decided hdecided => ?_)
  obtain ⟨old, reason, decidedAt, hold, hevid, rfl⟩ := recordAttemptOutcome_eq_ok hdecided
  have hsame : old = s := Table.eq_of_key_eq h.sound.submissionKeys (findSubmission_eq_some hold).1
    (latest_mem hrouted.latest) (findSubmission_eq_some hold).2
  subst hsame
  have hsound := h.sound.returned (latest_mem hrouted.latest)
    (m := r.returns a old candidate) hrouted.fresh rfl rfl rfl reason decidedAt
  have hreason := h.reason_of_evidence hrouted.latest hrouted.status hevid
  obtain ⟨policy, hplan⟩ := hrouted.revisionPlan (hrouted.needsRevision ⟨nofun, nofun⟩)
  obtain ⟨hman, hsub⟩ := hrouted.reads_returned hsound
  rcases hplan.branch with ⟨-, _, _, himpossible⟩ | ⟨hbelow, frozen, hfrozen, hcap⟩
  · cases himpossible
  · cases hfrozen
    refine Avoids.bind ?_ (fun _ _ => publishPreparation_avoids)
    refine prepareRevision_avoids hman hsub (hplan.policy_eq : _ = some policy) hcap (.inl ?_)
    · have hnext := h.next_le hrouted.latest hrouted.status
        (m := r.returns a old candidate) rfl hsound hplan hbelow hreason
      rw [← hcap] at hnext
      exact hnext

theorem prepareRouting_avoids : Unlimited (db.prepareRouting a r) := by
  have hplan : ∀ context assignment s, Unlimited (db.planRevision a r context assignment s) := by
    intro context assignment s
    refine Avoids.bind (by simp) (fun policy _ => Avoids.bind (by simp) (fun _ _ => ?_))
    split <;> simp
  unfold Database.prepareRouting
  cases classifyResult r.members r.humanReviewRequired with
  | needsRevision => simp [hplan]
  | allowReview => simp

theorem Counted.route_avoids (h : Counted db) : Unlimited (db.route a r) := by
  unfold Database.route
  split
  · simp
  · refine Avoids.bind prepareRouting_avoids (fun found hprep => Avoids.bind (by simp) (fun _ _ => ?_))
    obtain ⟨s, plan⟩ := found
    have hauth : Unlimited
        (db.guardTaskRoutingAuthority (r.manifest s plan a.readings.now) s) := by
      unfold Database.guardTaskRoutingAuthority
      cases (r.manifest s plan a.readings.now).consequence <;> simp
    refine Avoids.bind hauth (fun _ hguard => ?_)
    obtain ⟨assignment, hrouted⟩ := Routed.of_authority hprep hguard
    cases plan with
    | exhaust => exact commitExhaustion_avoids
    | remediate => exact h.remediate_avoids hrouted
    | review => exact recordAttemptOutcome_avoids
    | accept => simp [Database.applyPlan, recordAttemptOutcome_avoids]

theorem disposition_eq_none {p : Preparation} {now : Nat} (h : p.disposition now = none) :
    p.blockedReason = none := by
  unfold Preparation.disposition at h
  dsimp only at h
  split at h
  · split at h <;> cases h
  · split at h
    · cases h
    · exact h

theorem disposition_ne_limit {p : Preparation} (h : p.blockedReason ≠ some .revisionLimitReached)
    (now : Nat) :
    p.disposition now ≠ some .revisionLimitReached := by
  unfold Preparation.disposition
  dsimp only
  split
  · split <;> decide
  · split
    · decide
    · exact h

structure Superseding (db : Database) (r : SubmissionRequest) (p : SubmissionPredecessor) : Prop where
  status : db.task.status = .needsRevision
  latest : db.latestSubmission = some p.submission
  owner : p.submission.taskAssignmentId = r.assignmentId
  manifest : p.manifest ∈ db.manifests
  source : p.manifest.submissionId = p.submission.id
  round : p.revisionRound = db.countedSubmissions p.submission.taskAssignmentId p.submission.version

theorem remediationManifest_eq_ok (h : db.remediationManifest s = .ok m) :
    m ∈ db.manifests ∧ m.submissionId = s.id := by
  simp only [Database.remediationManifest, eq_ok] at h
  obtain ⟨found, hfound, -, -, rfl⟩ := h
  have hmem := List.mem_filter.mp (List.argmax_mem hfound)
  simp only [decide_eq_true_eq] at hmem
  exact ⟨hmem.1, hmem.2.2.2.1⟩

theorem Sound.superseding (h : Sound db) {r : SubmissionRequest}
    (hsel : db.selectSubmissionContext r = .ok (some p)) : Superseding db r p := by
  simp only [Database.selectSubmissionContext, eq_ok] at hsel
  obtain ⟨assignment, -, -, hstate, -, -, -, hown, hsel⟩ := hsel
  cases hlatestOf : db.latestSubmissionOf r.assignmentId with
  | none =>
    rw [hlatestOf] at hsel
    cases hlatest : db.latestSubmission with
    | none =>
      rw [hlatest] at hsel
      cases hsel
    | some latest =>
      rw [hlatest] at hsel
      simp only [eq_ok] at hsel
      obtain ⟨-, -, -, -, himpossible⟩ := hsel
      cases himpossible
  | some own =>
    rw [hlatestOf] at hsel hown
    simp only [eq_ok] at hsel
    obtain ⟨-, hsame, manifest, hman, hres⟩ := hsel
    cases hres
    have hmem := List.mem_filter.mp (List.argmax_mem hlatestOf)
    simp only [decide_eq_true_eq] at hmem
    obtain ⟨latest, hlatest, hid⟩ := Option.map_eq_some_iff.mp hsame.2
    have hlatestOwn : latest = own :=
      Table.eq_of_key_eq h.submissionKeys (latest_mem hlatest) hmem.1 hid
    obtain ⟨hmanifestMem, hsrc⟩ := remediationManifest_eq_ok hman
    exact {
      status := hstate.2.2.2.2.resolve_left (fun hprogress => hown.1 ⟨hprogress, Option.some_ne_none _⟩)
      latest := hlatestOwn ▸ hlatest
      owner := hmem.2
      manifest := hmanifestMem
      source := hsrc
      round := congrArg (fun owner => db.countedSubmissions owner own.version) hmem.2.symm }

/-- The head that admits a revision counted the same round, within the cap of the policy it adopted. -/
theorem Counted.requireRevisionCapacity_avoids (h : Counted db) {r : SubmissionRequest}
    (hp : Superseding db r p) : Unlimited (db.requireRevisionCapacity a p) := by
  refine Avoids.bind (by simp) (fun head hhead => Avoids.bind (by simp) (fun _ htgt => ?_))
  simp only [required_eq_ok, require_eq_ok] at hhead htgt
  have hmem := List.mem_of_find?_eq_some hhead
  have hcapped := h.capped head hmem
  cases hdisposition : head.disposition a.readings.now with
  | some reason =>
    cases reason with
    | contextBlocked | revisionDeadlineExpired => simp [throw, throwThe, MonadExceptOf.throw]
    | revisionLimitReached => exact absurd hdisposition (disposition_ne_limit hcapped.unlimited _)
  | none =>
    obtain ⟨hblocked, target, cap, htargetEq, hcap, hround⟩ :=
      hcapped.cleared (disposition_eq_none hdisposition)
    have hlin : target.lineage = db.task.lineage := by
      have := htgt hblocked
      rw [htargetEq] at this
      exact Option.some.inj this
    obtain ⟨source, hsrc, hsourceId, hsub, -⟩ := h.sound.chains head hmem
    have hheadSource : head.submissionId = p.submission.id := by
      have hfacts := List.find?_some hhead
      simp only [decide_eq_true_eq] at hfacts
      have hsame : source = p.manifest :=
        Table.eq_of_key_eq h.sound.manifestIds hsrc hp.manifest (hsourceId.trans hfacts.1)
      rw [← hsub, hsame, hp.source]
    have hnext := h.window hp.status p.submission hp.latest head hmem hheadSource
    have hadm : p.revisionRound ≤ cap.maxRevisionRounds := by
      rw [hp.round, ← hnext]
      exact hround
    rw [hlin] at hcap
    simp [hcap, required, hadm]

theorem selectSubmissionContext_avoids {r : SubmissionRequest} :
    Unlimited (db.selectSubmissionContext r) := by
  have hman : ∀ s, Unlimited (db.remediationManifest s) := by
    intro s
    simp [Database.remediationManifest]
  unfold Database.selectSubmissionContext
  cases db.latestSubmissionOf r.assignmentId with
  | none =>
    cases db.latestSubmission <;> simp
  | some own => simp [hman]

theorem requireRevisionCapacity_eq_ok (h : db.requireRevisionCapacity a p = .ok ()) :
    ∃ policy, db.policyOf db.task.lineage = some policy ∧ p.revisionRound ≤ policy.maxRevisionRounds := by
  simp only [Database.requireRevisionCapacity, eq_ok] at h
  obtain ⟨head, -, -, -, h⟩ := h
  split at h
  · simp only [eq_ok] at h
    exact h
  all_goals cases h

/-- The insert trigger counts what `require_revision_capacity` counted. -/
theorem guardSubmissionRevisionCapacity_avoids {new : Submission}
    (h : ∀ id, new.supersedesSubmissionId = some id → ∃ policy, db.policyOf new.lineage = some policy ∧
      ∀ s, db.findSubmission id = some s →
        db.countedSubmissions new.taskAssignmentId s.version ≤ policy.maxRevisionRounds) :
    Unlimited (db.guardSubmissionRevisionCapacity new) := by
  unfold Database.guardSubmissionRevisionCapacity
  cases hsup : new.supersedesSubmissionId with
  | none =>
    cases db.latestSubmission <;> simp
  | some id =>
    obtain ⟨policy, hpol, hround⟩ := h id hsup
    refine Avoids.bind (by simp) (fun _ _ => Avoids.bind (by simp) (fun s hs => ?_))
    have := hround s (required_eq_ok.mp hs)
    simp [hpol, required, this]

theorem guardNewRevisionSubmission_avoids {new : Submission} :
    Unlimited (db.guardNewRevisionSubmission a new) := by
  unfold Database.guardNewRevisionSubmission
  cases new.supersedesSubmissionId <;> simp

theorem Counted.createSubmission_avoids (h : Counted db) {r : SubmissionRequest} :
    Unlimited (db.createSubmission a r) := by
  refine Avoids.bind selectSubmissionContext_avoids (fun predecessor hsel => ?_)
  refine Avoids.bind (by simp) (fun _ _ => Avoids.bind (by simp) (fun _ _ => ?_))
  refine Avoids.bind (by simp [Database.loadLockedTaskContext]) (fun _ _ => ?_)
  cases predecessor with
  | none =>
    refine Avoids.bind (guardSubmissionRevisionCapacity_avoids (by simp)) (fun _ _ => ?_)
    exact Avoids.bind guardNewRevisionSubmission_avoids (by simp)
  | some p =>
    have hp := h.sound.superseding hsel
    refine Avoids.bind (h.requireRevisionCapacity_avoids hp) (fun _ hcap => ?_)
    obtain ⟨policy, hpol, hround⟩ := requireRevisionCapacity_eq_ok hcap
    refine Avoids.bind (guardSubmissionRevisionCapacity_avoids ?_) (fun _ _ => ?_)
    · rintro id hid
      cases hid
      refine ⟨policy, hpol, fun s hs => ?_⟩
      have hsame : s = p.submission :=
        Table.eq_of_key_eq h.sound.submissionKeys (findSubmission_eq_some hs).1 (latest_mem hp.latest)
          (findSubmission_eq_some hs).2
      rw [hp.round, hp.owner, ← hsame] at hround
      exact hround
    · exact Avoids.bind guardNewRevisionSubmission_avoids (by simp)

/-- The policy under which a stored preparation was made, and the rows its successor reads. -/
theorem Counted.reads_prepared (h : Counted db) {p : Preparation} (hp : p ∈ db.preparations)
    (hm : db.findManifest p.routingManifestId = some m) :
    ∃ s policy, db.findManifest m.id = some m ∧ db.findSubmission m.submissionId = some s ∧
      db.policyOf s.lineage = some policy ∧ p.maxRevisionRounds = policy.maxRevisionRounds := by
  obtain ⟨hmem, hid⟩ := findManifest_eq_some hm
  obtain ⟨source, hsrc, hsourceId, hsub, -⟩ := h.sound.chains p hp
  have hsame : source = m := Table.eq_of_key_eq h.sound.manifestIds hsrc hmem (hsourceId.trans hid.symm)
  obtain ⟨row, hrow, hrowId, policy, hpol, hmax⟩ := (h.capped p hp).policy
  obtain ⟨s, hs, rfl⟩ := List.mem_map.mp hrow
  refine ⟨s, policy, hid ▸ hm, ?_, hpol, hmax⟩
  rw [← hsame, hsub, ← hrowId]
  exact Table.find_of_mem h.sound.submissionKeys hs

theorem Counted.repair_avoids (h : Counted db) {r : RepairRequest} :
    Unlimited (db.repairRevisionContext a r) := by
  refine Avoids.bind (by simp) (fun parent hpar => Avoids.bind (by simp) (fun _ _ => ?_))
  have hmem := (findPreparation_eq_some (required_eq_ok.mp hpar)).1
  have hcapped := h.capped parent hmem
  refine Avoids.bind (by simp) (fun assignment _ => Avoids.bind (by simp) (fun _ _ => ?_))
  refine Avoids.bind (by simp) (fun latest _ => Avoids.bind (by simp) (fun _ _ => ?_))
  cases db.repairReceipt r.actorId r.idempotencyKey with
  | some child => simp [replayRepair]
  | none =>
    refine Avoids.bind (by simp) (fun m hm => ?_)
    obtain ⟨s, policy, hman, hs, hpol, hmax⟩ := h.reads_prepared hmem (required_eq_ok.mp hm)
    have hprep : ∀ candidate repair, Unlimited
        (db.prepareRevision a r.preparation none m candidate (some parent) repair) :=
      fun candidate repair =>
        prepareRevision_avoids hman hs hpol hmax (.inr ⟨parent, rfl, hcapped.bounded⟩)
    simp [hcapped.unlimited, hcapped.bounded, hprep, publishPreparation_avoids]

theorem Sound.headForSource_ne_none (h : Sound db) {p : Preparation} (hp : p ∈ db.preparations) :
    db.headForSource p.routingManifestId ≠ none := by
  intro hnone
  cases hlatest : db.latestPreparation p.routingManifestId with
  | none =>
    have hempty := List.argmax_eq_none.mp hlatest
    exact List.filter_eq_nil_iff.mp hempty p hp (decide_eq_true rfl)
  | some head =>
    obtain ⟨hmem, hchain, hhead⟩ := h.isChainHead_latest hlatest
    exact List.find?_eq_none.mp hnone head hmem (decide_eq_true ⟨hchain, hhead⟩)

/-- A source whose assignment is still active has its root. -/
theorem Bounded.root_of_active (h : Bounded db) (hm : m ∈ db.manifests)
    (hneeds : m.routingRecommendation = .needsRevision) (hact : db.Active m.assignmentId) :
    ∃ p ∈ db.preparations, p.routingManifestId = m.id ∧ p.sequence = 1 := by
  rcases h.rooted m hm hneeds with hroot | ⟨e, he, hid⟩
  · exact hroot
  · exact absurd hact (h.sound.not_active_of_settled hm (h.sound.exhausted e he) hid)

theorem sourceOpen_eq_true (h : db.sourceOpen m assignment s = true) :
    db.task.status = .needsRevision ∧ assignment.status = .active ∧ s.id = m.submissionId ∧
      s.taskAssignmentId = assignment.id ∧ s.version = m.submissionVersion := by
  simp only [Database.sourceOpen, decide_eq_true_eq] at h
  exact ⟨h.1, h.2.1, h.2.2.2.2.1, h.2.2.2.2.2.1, h.2.2.2.2.2.2⟩

/-- No root is missing, so none is prepared anew. -/
theorem Bounded.recoverMissingRoot_avoids (h : Bounded db) {r : MissingRootRequest} :
    Unlimited (db.recoverMissingRevisionRoot a r) := by
  refine Avoids.bind (by simp) (fun m hm => Avoids.bind (by simp) (fun _ hneeds => ?_))
  refine Avoids.bind (by simp) (fun assignment hasgn => Avoids.bind (by simp) (fun _ _ => ?_))
  refine Avoids.bind (by simp) (fun latest _ => Avoids.bind (by simp) (fun _ _ => ?_))
  cases db.repairReceipt r.actorId r.idempotencyKey with
  | some child => simp [replayMissingRoot]
  | none =>
    refine Avoids.bind (by simp) (fun _ hopen => Avoids.bind (by simp) (fun historical _ => ?_))
    refine Avoids.bind (by simp) (fun policy _ => Avoids.bind (by simp) (fun _ hmissing => ?_))
    simp only [require_eq_ok, required_eq_ok] at hm hneeds hasgn hopen hmissing
    obtain ⟨root, hroot, hid, -⟩ := h.root_of_active (findManifest_eq_some hm).1 hneeds
      (active_of_find hasgn (sourceOpen_eq_true hopen.1).2.1)
    exact absurd (hid ▸ hmissing.1) (h.sound.headForSource_ne_none hroot)

theorem recoverExhaustedAssignment_avoids {r : RecoveryRequest} :
    Unlimited (db.recoverExhaustedAssignment a r m assignment s) := by
  unfold Database.recoverExhaustedAssignment
  split
  · simp
  · dsimp only
    split
    · simp
    · simp [Database.appendCreated, commitExhaustion_avoids]

/-- A recovery of a rooted source whose clock was observed only publishes what its head needs. -/
theorem Bounded.recoverHead_avoids (h : Bounded db) {r : RecoveryRequest}
    (hroot : ∃ p ∈ db.preparations, p.routingManifestId = m.id ∧ p.sequence = 1) :
    Unlimited (db.recoverHead a r m) := by
  unfold Database.recoverHead
  cases hrootOf : db.rootOf m.id with
  | none =>
    obtain ⟨p, hp, hfacts⟩ := hroot
    exact absurd (decide_eq_true hfacts) (List.find?_eq_none.mp hrootOf p hp)
  | some root =>
    have hpause : (db.headForSource m.id).bind
        (fun head => head.retainedPauseCandidate a.readings.now) = none := by
      cases hhead : db.headForSource m.id with
      | none => rfl
      | some head =>
        have hobs := (h.capped head (List.mem_of_find?_eq_some hhead)).observed
        simp [Preparation.retainedPauseCandidate, hobs]
    simp only [hpause]
    refine Avoids.bind revisionPreparationEvent_avoids (fun input _ => ?_)
    split
    · simp
    · simp [append_avoids]

theorem Bounded.recover_avoids (h : Bounded db) {r : RecoveryRequest} :
    Unlimited (db.recover a r) := by
  unfold Database.recover
  split
  case h_2 => simp
  case h_1 m latest hm hlatest =>
    split
    · simp
    · next assignment hasgn =>
      split
      · simp
      · next hopen =>
        simp only [Bool.not_eq_true, Bool.not_eq_false', Bool.and_eq_true, decide_eq_true_eq] at hopen
        refine Avoids.bind recoverExhaustedAssignment_avoids (fun result _ => ?_)
        cases result with
        | some committed => simp
        | none =>
          have hact := active_of_find hasgn (sourceOpen_eq_true hopen.1.1.1.2).2.1
          exact h.recoverHead_avoids (h.root_of_active (findManifest_eq_some hm).1 hopen.1.1.1.1 hact)

theorem expire_avoids {d : ExpiryDelivery} : Unlimited (db.expire a d) := by
  have hrecord : ∀ m root head, Unlimited (db.recordExpiration a d m root head) := by
    intro m root head
    unfold Database.recordExpiration
    dsimp only
    split
    · simp
    · simp [Database.appendCreated, Database.guardTaskRevisionExpiration, recordAttemptOutcome_avoids]
  have hhead : ∀ m assignment root head,
      Unlimited (db.expireHead a d m assignment root head) := by
    intro m assignment root head
    unfold Database.expireHead
    split
    · simp
    · split
      · simp
      · refine Avoids.bind (by simp) (fun _ _ => Avoids.bind (by simp) (fun _ _ => ?_))
        split
        · simp
        · exact hrecord m root head
  unfold Database.expire
  split
  · simp
  · split
    case h_2 => simp
    case h_1 =>
      split
      · simp
      · split
        · simp
        · exact hhead _ _ _ _

/-- Within the caps no operation is refused for the limit. -/
theorem Bounded.perform_avoids (h : Bounded db) (action : Action) :
    Unlimited (db.perform action) := by
  cases action with
  | claim => simp [Database.perform, Database.claim, Database.loadLockedTaskContext]
  | submit => exact h.toCounted.createSubmission_avoids
  | route => exact h.toCounted.route_avoids
  | repair => exact h.toCounted.repair_avoids
  | recoverMissingRoot => exact h.recoverMissingRoot_avoids
  | recover => exact avoids_map.mpr h.recover_avoids
  | expire => exact avoids_map.mpr expire_avoids

/-- `_prepare` finds the round of the submission it routes within the cap. -/
theorem Counted.prepareRouting_ne (h : Counted db) (a : Answers) (r : RoutingRequest) :
    db.prepareRouting a r ≠ .error .routingRevisionCountDiffers := by
  refine (?_ : Avoids .routingRevisionCountDiffers (db.prepareRouting a r))
  refine Avoids.bind (by simp) (fun _ hstat => Avoids.bind (by simp) (fun s hlatest => ?_))
  refine Avoids.bind (by simp) (fun _ _ => Avoids.bind (by simp) (fun assignment hasgn => ?_))
  refine Avoids.bind (by simp) (fun _ _ => Avoids.bind (by simp) (fun context _ => ?_))
  refine Avoids.bind (by simp) (fun _ hlin => ?_)
  simp only [require_eq_ok, required_eq_ok] at hstat hlatest hasgn hlin
  cases classifyResult r.members r.humanReviewRequired with
  | allowReview => simp
  | needsRevision =>
    refine Avoids.bind ?_ (by simp)
    refine Avoids.bind (by simp) (fun policy hpol => Avoids.bind ?_ (fun _ _ => ?_))
    · rw [required_eq_ok, ← hlin.1, hlin.2.1] at hpol
      have hrange := h.round_range (latest_mem hlatest) (h.unprepared hlatest hstat).1 hpol
      rw [(findAssignment_eq_some hasgn).2]
      exact avoids_require.mpr (fun _ => ⟨hrange.2, hrange.1⟩)
    · split <;> simp

/-- An open source was counted below its cap, so recovery does not exhaust it. -/
theorem Bounded.not_exhausting (h : Bounded db) {latest : Submission} (hm : m ∈ db.manifests)
    (hstat : db.task.status = .needsRevision) (hlatest : db.latestSubmission = some latest)
    (hlatestId : latest.id = m.submissionId) (he : Exhausting db a m e released s policy) : False := by
  obtain ⟨p, hp, hid, -⟩ := h.root_of_active hm he.needsRevision
    (he.assignmentId ▸ active_of_find he.assignment_eq he.active)
  obtain ⟨source, hsrc, hsourceId, hsub, -⟩ := h.sound.chains p hp
  have hsame : source = m := Table.eq_of_key_eq h.sound.manifestIds hsrc hm (hsourceId.trans hid)
  obtain ⟨hs, hsid⟩ := findSubmission_eq_some he.submission_eq
  have hlatestS : latest = s :=
    Table.eq_of_key_eq h.sound.submissionKeys (latest_mem hlatest) hs
      (hlatestId.trans (he.submissionId.trans hsid.symm))
  subst hlatestS
  have hpid : p.submissionId = latest.id := by
    rw [← hsub, hsame, hlatestId]
  -- Its root was inserted with the round that the guard of an exhaustion would have to find at the cap.
  have hnext := h.window hstat latest hlatest p hp hpid
  have hbounded := (h.capped p hp).bounded
  obtain ⟨row, hrow, hrowId, cap, hcap, hmax⟩ := (h.capped p hp).policy
  have hrowS : row = latest.row :=
    Table.eq_of_key_eq h.sound.submissionIds hrow (row_mem hs) (hrowId.trans hpid)
  have hpol : cap = policy := by
    rw [hrowS] at hcap
    exact Option.some.inj (hcap.symm.trans he.policy_eq)
  have hround := he.round
  rw [← he.owner] at hround
  rw [hmax, hpol, hnext] at hbounded
  unfold Database.submissionRevisionRound at hround
  omega

/-- Only a routing writes an exhaustion. -/
theorem Bounded.exhaustions_of_perform (h : Bounded db) {action : Action}
    (hperf : db.perform action = .ok after)
    (hnew : after.exhaustions ≠ db.exhaustions) : ∃ a r, action = .route a r := by
  cases change_of_perform hperf with
  | reviewed | accepted | failed | returned => exact ⟨_, _, rfl⟩
  | prepared _ hprep => exact absurd hprep.frame.2.2.2 hnew
  | exhausted hm hlatest hopen he =>
    obtain ⟨hstat, -, hid, -⟩ := sourceOpen_eq_true hopen
    exact (h.not_exhausting hm hstat hlatest hid he).elim
  | _ => exact absurd rfl hnew

/-- What a routing that asks for revision leaves: an exhaustion at the cap after a failure, and
otherwise a root within the cap. -/
structure RoutedWithin (db after : Database) (m : RoutingManifest) (s : Submission)
    (policy : RevisionPolicy) :
    Prop where
  exhausts : (∃ e ∈ after.exhaustions, e.routingManifestId = m.id ∧ e.assignmentId = s.taskAssignmentId ∧
      ¬after.Active s.taskAssignmentId) ↔
    db.submissionRevisionRound s.taskAssignmentId s.version = policy.maxRevisionRounds ∧
      checkerRunCoverageReturn m.members = false
  prepares : ¬(db.submissionRevisionRound s.taskAssignmentId s.version = policy.maxRevisionRounds ∧
      checkerRunCoverageReturn m.members = false) →
    ∃ root ∈ after.preparations, root.routingManifestId = m.id ∧ root.sequence = 1 ∧
      root.maxRevisionRounds = policy.maxRevisionRounds ∧ root.nextRevisionRound ≤ policy.maxRevisionRounds

/-- A row carries the cap of the policy that its submission was locked to. -/
theorem Inserted.max_eq (h : Counted db) (hm : m ∈ db.manifests)
    (hins : Inserted db a routed m row) (hs : s.row ∈ db.rows)
    (hsub : m.submissionId = s.id) (hpol : db.policyOf s.lineage = some policy) :
    row.maxRevisionRounds = policy.maxRevisionRounds := by
  obtain ⟨found, source, assignment, cap, hsourced⟩ := guardRevisionPreparation_eq_ok hins.guard
  obtain ⟨hfound, hfoundId⟩ := findManifest_eq_some hsourced.manifest_eq
  obtain ⟨hsrc, hsourceId⟩ := findSubmission_eq_some hsourced.submission_eq
  have hsame : found = m :=
    Table.eq_of_key_eq h.sound.manifestIds hfound hm (hfoundId.trans hins.manifestId)
  have hrow : source.row = s.row := by
    refine Table.eq_of_key_eq h.sound.submissionIds (row_mem hsrc) hs (hsourceId.trans ?_)
    rw [hsourced.submissionId, hsame, hsub]
    rfl
  have hlin : source.lineage = s.lineage := congrArg SubmissionRow.lineage hrow
  have hcap := hsourced.policy_eq
  rw [hlin] at hcap
  rw [h.sound.max_of_custody h.capped hsourced, Option.some.inj (hcap.symm.trans hpol)]

/-- A return below the cap, or for coverage, gets its root and no exhaustion. -/
theorem Bounded.routedWithin_returned (h : Bounded db)
    (hrouted : Routed db a r s (.remediate candidate) assignment)
    (hplan : RevisionPlan db r s (.remediate candidate) policy)
    (hprep : Prepared (db.returned (r.returns a s candidate) reason decidedAt) a (some r.manifestId)
      (r.returns a s candidate) row after) : RoutedWithin db after (r.returns a s candidate) s policy := by
  have hbelow : ¬AtCap db r s policy := by
    rcases hplan.branch with ⟨-, _, _, himpossible⟩ | ⟨hbelow, -⟩
    · cases himpossible
    · exact hbelow
  constructor
  · refine ⟨?_, fun hcap => absurd hcap hbelow⟩
    rintro ⟨e, he, hid, -⟩
    rw [hprep.frame.2.2.2] at he
    obtain ⟨⟨other, hother, hotherId, -⟩, -⟩ := h.sound.exhausted e he
    exact absurd (hotherId.trans hid) (hrouted.fresh other hother)
  · intro _
    have hreturned : Counted (db.returned (r.returns a s candidate) reason decidedAt) :=
      h.toCounted.returned hrouted.latest hrouted.status hrouted.fresh rfl rfl rfl reason decidedAt
    have hmax : row.maxRevisionRounds = policy.maxRevisionRounds := by
      refine hprep.max_eq hreturned List.mem_concat_self ?_ rfl hplan.policy_eq
      unfold Database.returned
      rw [decide_rows]
      exact row_mem (latest_mem hrouted.latest)
    have hmem : row ∈ after.preparations := by
      obtain ⟨extra, task, f, -, -, rfl⟩ := hprep.after_eq
      exact List.mem_concat_self
    exact ⟨row, hmem, hprep.manifestId, h.toCounted.root_of_returned hrouted.fresh hprep.toInserted, hmax,
      hmax ▸ (hprep.capped hreturned.sound hreturned.capped).bounded⟩

/-- A failure at the cap exhausts its assignment. -/
theorem RevisionPlan.routedWithin_exhausted {revisionRound maxRevisionRounds : Nat} {source : Submission}
    {cap : RevisionPolicy}
    (hplan : RevisionPlan db r s (.exhaust revisionRound maxRevisionRounds) policy)
    (he : Exhausting (db.withManifest (r.fails a s revisionRound maxRevisionRounds)) a
      (r.fails a s revisionRound maxRevisionRounds) e released source cap)
    (hsound : Sound after) (hexhaustions : after.exhaustions = db.exhaustions ++ [e]) :
    RoutedWithin db after (r.fails a s revisionRound maxRevisionRounds) s policy := by
  have hcap : AtCap db r s policy := by
    rcases hplan.branch with ⟨hcap, -⟩ | ⟨-, _, himpossible, -⟩
    · exact hcap
    · cases himpossible
  have hmem : e ∈ after.exhaustions := by
    rw [hexhaustions]
    exact List.mem_concat_self
  have hasgn : e.assignmentId = s.taskAssignmentId := he.assignmentId.symm
  refine ⟨⟨fun _ => hcap, fun _ => ⟨e, hmem, he.manifestId, hasgn, ?_⟩⟩, fun hbelow => absurd hcap hbelow⟩
  rw [← hasgn]
  exact (hsound.exhausted e hmem).2

theorem Bounded.routedWithin (h : Bounded db) (hroute : db.route a r = .ok after)
    (hmans : after.manifests = db.manifests ++ [m])
    (hneeds : m.routingRecommendation = .needsRevision) :
    ∃ s policy, db.latestSubmission = some s ∧ m.submissionId = s.id ∧ db.policyOf s.lineage = some policy ∧
      RoutedWithin db after m s policy := by
  have hsound : Sound after := h.sound.change (change_of_route hroute)
  -- The manifest that the routing added is its own.
  have hown : ∀ {rest}, after.manifests = db.manifests ++ [rest] → m = rest := by
    intro rest hrest
    rw [hmans] at hrest
    exact List.singleton_inj.mp (List.append_cancel_left hrest)
  have hadds : after.manifests ≠ db.manifests := by simp [hmans]
  cases change_of_route hroute with
  | failed hrouted he =>
    obtain ⟨policy, hplan⟩ := hrouted.revisionPlan (hrouted.needsRevision ⟨nofun, nofun⟩)
    rw [hown rfl]
    exact ⟨_, policy, hrouted.latest, rfl, hplan.policy_eq, hplan.routedWithin_exhausted he hsound rfl⟩
  | returned hrouted _ _ hrow =>
    obtain ⟨policy, hplan⟩ := hrouted.revisionPlan (hrouted.needsRevision ⟨nofun, nofun⟩)
    rcases hrow with ⟨hhead, -⟩ | hprep
    · cases hhead.symm.trans (h.toCounted.no_head_of_fresh hrouted.fresh)
    · rw [hown hprep.frame.2.1]
      exact ⟨_, policy, hrouted.latest, rfl, hplan.policy_eq, h.routedWithin_returned hrouted hplan hprep⟩
  | reviewed hrouted =>
    rw [hown rfl] at hneeds
    exact absurd hneeds (hrouted.allowReview (.inl rfl))
  | accepted hrouted =>
    rw [hown rfl] at hneeds
    exact absurd hneeds (hrouted.allowReview (.inr rfl))
  | announced => exact absurd rfl hadds
  | prepared _ hprep => exact absurd hprep.frame.2.1 hadds

/-- Over any run, the round of a submission that is to be routed lies within the cap of its own policy,
whatever caps the earlier submissions had: a failure exhausts at the cap and only there, every other
return gets a root within the cap, and nothing is refused for the limit. -/
theorem revisionRounds_bounded {start db : Database} {actions : List Action} (hstart : start.Fresh)
    (hrun : db = run Database.step start actions) :
    (∀ s ∈ db.submissions, s.attemptStatus = .evaluationPending →
      ∀ policy, db.policyOf s.lineage = some policy →
      0 ≤ db.submissionRevisionRound s.taskAssignmentId s.version ∧
        db.submissionRevisionRound s.taskAssignmentId s.version ≤ policy.maxRevisionRounds) ∧
    (∀ a r, db.prepareRouting a r ≠ .error .routingRevisionCountDiffers) ∧
    (∀ a r after m, db.route a r = .ok after → after.manifests = db.manifests ++ [m] →
      m.routingRecommendation = .needsRevision → ∃ s policy, db.latestSubmission = some s ∧
        m.submissionId = s.id ∧
        s.attemptStatus = .evaluationPending ∧ db.policyOf s.lineage = some policy ∧
        RoutedWithin db after m s policy) ∧
    (∀ action after, db.perform action = .ok after → after.exhaustions ≠ db.exhaustions →
      ∃ a r, action = .route a r) ∧
    ∀ action, db.perform action ≠ .error .revisionLimitReached := by
  have h : Bounded db := hrun ▸ Bounded.run hstart actions
  refine ⟨?_, h.toCounted.prepareRouting_ne, ?_, ?_, h.perform_avoids⟩
  · exact fun s hs hpend policy hpol => h.toCounted.round_range hs hpend hpol
  · intro a r after m hroute hmans hneeds
    obtain ⟨s, policy, hlatest, hid, hpol, hwithin⟩ := h.routedWithin hroute hmans hneeds
    refine ⟨s, policy, hlatest, hid, ?_, hpol, hwithin⟩
    rcases route_eq_ok hroute with rfl | ⟨_, _, _, hrouted, -⟩
    · exact absurd (congrArg List.length hmans) (by simp)
    · exact (h.toCounted.unprepared hlatest hrouted.status).1
  · exact fun action after hperf hnew => h.exhaustions_of_perform hperf hnew

def sampleReturn (submissionId manifestId : Uuid) : RoutingRequest :=
  ⟨submissionId, manifestId ++ "-run", "result", 1, manifestId ++ "-completion", [⟨true, []⟩], false,
    manifestId,
    manifestId ++ "-outcome", "receipt", ⟨manifestId ++ "-root", "sha256:root", manifestId ++ "-timer"⟩, none⟩

def sampleAtCap : Database :=
  run Database.step sampleFresh
    [.claim (sampleAnswers 1) ⟨"assignment", "contributor"⟩,
      .submit (sampleAnswers 2) ⟨"assignment", "contributor", none, "first"⟩,
      .route (sampleAnswers 3) (sampleReturn "first" "m1"),
      .submit (sampleAnswers 4) ⟨"assignment", "contributor", some "first", "second"⟩,
      .route (sampleAnswers 5) (sampleReturn "second" "m2"),
      .submit (sampleAnswers 6) ⟨"assignment", "contributor", some "second", "third"⟩]

def sampleThird : Submission :=
  ⟨"third", "assignment", "contributor", 3, some "second", sampleLineage, .evaluationPending, none, none⟩

theorem revisionRounds_bounded_sampleAtCap :
    ∃ after, sampleAtCap.route (sampleAnswers 7) (sampleReturn "third" "m3") = .ok after ∧
      ∃ e ∈ after.exhaustions, e.assignmentId = "assignment" ∧ ¬after.Active "assignment" := by
  obtain ⟨-, -, hroutes, -⟩ := revisionRounds_bounded sampleFresh_fresh (rfl : sampleAtCap = _)
  have hthird : sampleAtCap.latestSubmission = some sampleThird ∧
      sampleAtCap.policyOf sampleLineage = some samplePolicy ∧
      sampleAtCap.submissionRevisionRound "assignment" 3 = samplePolicy.maxRevisionRounds := by decide +kernel
  have hadded : (sampleAtCap.route (sampleAnswers 7) (sampleReturn "third" "m3")).toOption.any (fun after =>
      after.manifests.dropLast = sampleAtCap.manifests ∧ after.manifests.getLast?.any (fun m =>
        m.routingRecommendation = .needsRevision ∧ checkerRunCoverageReturn m.members = false)) = true := by
    decide +kernel
  cases hroute : sampleAtCap.route (sampleAnswers 7) (sampleReturn "third" "m3") with
  | error refusal =>
    rw [hroute] at hadded
    cases hadded
  | ok after =>
    rw [hroute] at hadded
    simp only [Except.toOption, Option.any_some, decide_eq_true_eq, Option.any_eq_true] at hadded
    obtain ⟨hdrop, m, hlast, hneeds, hfailed⟩ := hadded
    have hmans : after.manifests = sampleAtCap.manifests ++ [m] := by
      rw [← hdrop]
      exact (List.dropLast_append_getLast? m hlast).symm
    obtain ⟨s, policy, hs, -, -, hpol, hwithin⟩ := hroutes _ _ _ m hroute hmans hneeds
    rw [hthird.1] at hs
    cases hs
    have hsame : samplePolicy = policy := Option.some.inj (hthird.2.1.symm.trans hpol)
    obtain ⟨e, he, -, hasgn, hrel⟩ := hwithin.exhausts.mpr ⟨hsame ▸ hthird.2.2, hfailed⟩
    exact ⟨after, rfl, e, he, hasgn, hrel⟩

end Workstream.Revision
