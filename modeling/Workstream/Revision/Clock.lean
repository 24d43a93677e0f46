import Workstream.Foundation.Checks
import Workstream.Revision.Rows

/-!
# The clock of a revision window

The database owns the clock of a preparation: `revision_window_origin` says when the window of a routed
source began and when it ends, and `project_revision_preparation_clock` gives every inserted preparation
either a running deadline or a paused remainder.
-/

namespace Workstream.Revision
open Foundation Tasks

/-- What stops an operation of a task's revision. -/
inductive Refusal
  | denied
  | taskNotFound
  | taskAssignmentConflict
  | invalidTaskTransition
  | taskSubmissionContextInvalid
  | taskSubmissionPredecessorChanged
  | submissionRevisionLineageInvalid
  | revisionContextChanged
  | revisionContextBlocked
  | revisionContextUnchanged
  | revisionDeadlineExpired
  | revisionLimitReached
  | routingSourceUnavailable
  | routingRevisionCountDiffers
  | retainedRevisionCountDiffers
  | revisionExhaustionSourceChanged
  | revisionExpiryReplayDiffers
  | revisionExpiryCustodyUnavailable
  | revisionExpiryOutcomeDiffers
  | retainedExhaustionOutcomeDiffers
  | idempotencyMismatch
  | taskReplayStateChanged
  | outboxIdempotencyConflict
  | integrity (text : String)

/-- `make_interval(hours => h)` -/
def makeInterval (hours : Nat) : Nat := hours * 3600000000

def revisionClockInterval (remainingMicroseconds : Nat) : Nat :=
  makeInterval (remainingMicroseconds / 3600000000) + remainingMicroseconds % 3600000000

@[simp] theorem revisionClockInterval_eq (r : Nat) : revisionClockInterval r = r := by
  unfold revisionClockInterval makeInterval
  rw [Nat.mul_comm, Nat.div_add_mod]

structure WindowOrigin where
  requestedAt : Nat
  deadlineAt : Option Nat
  inherited : Bool

def Database.inheritedHead (db : Database) (s : Submission) : Option Preparation :=
  if s.statusReason = some .checkerCoverageIncomplete then
    ((s.supersedesSubmissionId.bind db.findSubmission).filter
        (fun previous => previous.statusReason = some .checkerCoverageIncomplete)).bind
      (fun previous => db.preparations.find? (fun head => head.submissionId = previous.id ∧
        db.isChainHead head))
  else none

/-- `revision_window_origin`: consecutive coverage returns keep the first return's window; any other
source opens a fresh one at routing. -/
def Database.revisionWindowOrigin (db : Database) (m : RoutingManifest) (s : Submission)
    (policy : RevisionPolicy) : WindowOrigin :=
  match db.inheritedHead s with
  | none => ⟨m.createdAt, some (m.createdAt + makeInterval policy.revisionDeadlineHours), false⟩
  | some head => ⟨head.requestedAt, head.deadlineAt, true⟩

/-- A window that is not inherited starts with the source's routing and lasts its policy's hours. -/
theorem Database.revisionWindowOrigin_of_fresh {db : Database} {m : RoutingManifest} {s : Submission}
    {policy : RevisionPolicy} (h : (db.revisionWindowOrigin m s policy).inherited = false) :
    db.revisionWindowOrigin m s policy =
      ⟨m.createdAt, some (m.createdAt + makeInterval policy.revisionDeadlineHours), false⟩ := by
  unfold revisionWindowOrigin at h ⊢
  cases hhead : db.inheritedHead s with
  | none => rfl
  | some head =>
    rw [hhead] at h
    cases h

/-- What the clock trigger selects about the source of a new preparation. -/
structure ClockSource where
  policy : RevisionPolicy
  origin : WindowOrigin
  exhausted : Bool
  routedByTransaction : Bool

/-- The selections of the clock trigger; without a policy row there is no source. `routed` names the
manifest that the current transaction inserted. -/
def Database.clockSource (db : Database) (routed : Option Uuid) (manifestId : Uuid) : Option ClockSource := do
  let m ← db.findManifest manifestId
  let s ← db.findSubmission m.submissionId
  let policy ← db.revisionPolicies s.lineage.lockedRevisionPolicyId
  return {
    policy
    origin := db.revisionWindowOrigin m s policy
    exhausted := db.exhaustions.any (fun e => e.routingManifestId = m.id)
    routedByTransaction := routed = some m.id }

/-- Without a target, or with a target whose cap the next round exceeds, a preparation is blocked. -/
def RevisionCandidate.isBlocked (candidate : RevisionCandidate) (nextRevisionRound : Nat) : Bool :=
  candidate.target.isNone || candidate.targetMaxRevisionRounds.any (fun cap => cap < nextRevisionRound)

structure ClockColumns where
  deadlineAt : Option Nat
  remainingMicroseconds : Option Nat
  blockedReason : Option BlockedReason

/-- The clock of a root. A window whose end is not known (`NULL`) is never past. -/
def rootClock (source : ClockSource) (observed : Nat) (new : Preparation) : ClockColumns :=
  if source.origin.deadlineAt.any (fun deadline => deadline ≤ observed) then
    ⟨source.origin.deadlineAt, none, some .revisionDeadlineExpired⟩
  else if new.candidate.isBlocked new.nextRevisionRound then
    ⟨none,
      if !source.origin.inherited && new.repairActorId.isNone && source.routedByTransaction then
        some (makeInterval source.policy.revisionDeadlineHours)
      else source.origin.deadlineAt.map (fun deadline => deadline - observed),
      some .contextBlocked⟩
  else ⟨source.origin.deadlineAt, none, none⟩

def successorClock (prior : Preparation) (observed : Nat) (new : Preparation) : ClockColumns :=
  if new.candidate.isBlocked new.nextRevisionRound then
    ⟨none,
      match prior.deadlineAt with
      | none => prior.remainingMicroseconds
      | some deadline => some (deadline - observed),
      some .contextBlocked⟩
  else
    ⟨match prior.deadlineAt with
      | none => prior.remainingMicroseconds.map (fun r => observed + revisionClockInterval r)
      | some deadline => some deadline,
      none, none⟩

def preparationOutcome (candidate : RevisionCandidate) (reason : Option BlockedReason) : PreparationOutcome :=
  if reason.isSome then .blocked else if candidate.target = some candidate.prior then .kept else .rebased

def Preparation.withClock (new : Preparation) (observed : Nat) (columns : ClockColumns) : Preparation :=
  { new with
    clockObservedAt := some observed
    deadlineAt := columns.deadlineAt
    remainingMicroseconds := columns.remainingMicroseconds
    blockedReason := columns.blockedReason
    outcome := preparationOutcome new.candidate columns.blockedReason }

/-- `project_revision_preparation_clock`, with the row of the predecessor it selects. -/
def projectRevisionPreparationClock (source : ClockSource) (prior : Option Preparation) (observed : Nat)
    (new : Preparation) : Except Refusal Preparation := do
  require (new.deadlineAt = none ∧ new.remainingMicroseconds = none ∧ new.clockObservedAt = none)
    (.integrity "revision clock is database owned")
  require (new.nextRevisionRound ≤ source.policy.maxRevisionRounds) .revisionLimitReached
  require (source.exhausted = false) (.integrity "revision source exhausted")
  match new.predecessorId with
  | none => return new.withClock observed (rootClock source observed new)
  | some _ =>
    let prior ← required prior .revisionDeadlineExpired
    require (!prior.deadlineAt.any (fun deadline => deadline ≤ observed)) .revisionDeadlineExpired
    return new.withClock observed (successorClock prior observed new)

def Preparation.clockShape (p : Preparation) : Bool :=
  (p.deadlineAt.isSome && p.remainingMicroseconds.isNone) ||
    (p.deadlineAt.isNone && p.remainingMicroseconds.any (fun r => 0 < r))

section Accepted

variable {source : ClockSource} {prior : Option Preparation} {observed : Nat} {new p q : Preparation}

theorem projectRevisionPreparationClock_root (hroot : new.predecessorId = none)
    (h : projectRevisionPreparationClock source prior observed new = .ok p) :
    new.nextRevisionRound ≤ source.policy.maxRevisionRounds ∧
      p = new.withClock observed (rootClock source observed new) := by
  unfold projectRevisionPreparationClock at h
  simp only [hroot, eq_ok] at h
  obtain ⟨-, -, -, hround, -, -, rfl⟩ := h
  exact ⟨hround, rfl⟩

theorem projectRevisionPreparationClock_successor {predecessorId : Uuid}
    (hsucc : new.predecessorId = some predecessorId)
    (h : projectRevisionPreparationClock source prior observed new = .ok p) :
    ∃ q, prior = some q ∧ new.nextRevisionRound ≤ source.policy.maxRevisionRounds ∧
      (∀ deadline, q.deadlineAt = some deadline → observed < deadline) ∧
      p = new.withClock observed (successorClock q observed new) := by
  unfold projectRevisionPreparationClock at h
  simp only [hsucc, eq_ok] at h
  obtain ⟨-, -, -, hround, -, -, q, hq, -, hpast, rfl⟩ := h
  refine ⟨q, hq, hround, ?_, rfl⟩
  intro deadline hdeadline
  rw [hdeadline] at hpast
  simpa using hpast

end Accepted

end Workstream.Revision
