import Workstream.Revision.Ends

/-!
# Rounds of an assignment

The round of a submission counts the assignment's submissions before it that were not returned for
coverage.
-/

namespace Workstream.Revision
open Foundation Tasks

variable {db after : Database} {a : Answers} {submissionId : Uuid} {plan : RoutingPlan}

def Submission.spends (s : Submission) (assignmentId : Uuid) : Bool :=
  s.taskAssignmentId = assignmentId ∧ s.statusReason ≠ some .checkerCoverageIncomplete

def Database.spentBefore (db : Database) (assignmentId : Uuid) (version : Nat) : Nat :=
  db.submissions.countP (fun s => s.spends assignmentId && s.version < version)

theorem countedSubmissions_eq (db : Database) (assignmentId : Uuid) (version : Nat) :
    db.countedSubmissions assignmentId version =
      db.submissions.countP (fun s => s.spends assignmentId && s.version ≤ version) := by
  unfold Database.countedSubmissions Submission.spends
  refine List.countP_congr (fun s _ => ?_)
  simp only [decide_eq_true_eq, Bool.and_eq_true]
  tauto

variable {s : Submission} {version : Nat} {reason : Option StatusReason} {decidedAt : Option Nat}
  {policy : RevisionPolicy} {row : Preparation} {routed : Option Uuid} {m : RoutingManifest}
  {assignment : Assignment} {r : RoutingRequest}

/-- Through the version of a submission, the count is what was spent before it and the submission itself. -/
theorem Sound.counted_eq (h : Sound db) (hs : s ∈ db.submissions) :
    db.countedSubmissions s.taskAssignmentId s.version =
      db.spentBefore s.taskAssignmentId s.version +
        if s.statusReason = some .checkerCoverageIncomplete then 0 else 1 := by
  rw [countedSubmissions_eq]
  unfold Database.spentBefore
  have hversions : db.submissions.Pairwise (fun t u => t.version < u.version) := by
    have hrows := h.versions
    unfold Database.rows at hrows
    rw [List.pairwise_map] at hrows
    exact hrows
  obtain ⟨before, rest, hsplit⟩ := List.append_of_mem hs
  rw [hsplit, List.pairwise_append, List.pairwise_cons] at hversions
  obtain ⟨-, ⟨hrest, -⟩, hbefore⟩ := hversions
  -- The versions grow along the table: all before are smaller, all after greater.
  have hless : ∀ t ∈ before, t.version < s.version := fun t ht => hbefore t ht s List.mem_cons_self
  have hcountBefore : before.countP (fun t => t.spends s.taskAssignmentId && t.version ≤ s.version) =
      before.countP (fun t => t.spends s.taskAssignmentId && t.version < s.version) := by
    refine List.countP_congr (fun t ht => ?_)
    have := hless t ht
    simp [this, this.le]
  have hcountRest : ∀ p : Submission → Bool, (∀ t ∈ rest, p t = false) → rest.countP p = 0 := by
    intro p hp
    rw [List.countP_eq_zero]
    exact fun t ht => by simp [hp t ht]
  have hle : rest.countP (fun t => t.spends s.taskAssignmentId && t.version ≤ s.version) = 0 := by
    refine hcountRest _ (fun t ht => ?_)
    have := hrest t ht
    simp [Nat.not_le.mpr this]
  have hlt : rest.countP (fun t => t.spends s.taskAssignmentId && t.version < s.version) = 0 := by
    refine hcountRest _ (fun t ht => ?_)
    have := hrest t ht
    simp [Nat.not_lt.mpr this.le]
  rw [hsplit, List.countP_append, List.countP_append, List.countP_cons, List.countP_cons,
    hcountBefore, hle, hlt]
  by_cases hreason : s.statusReason = some .checkerCoverageIncomplete
  · simp [Submission.spends, hreason]
  · simp [Submission.spends, hreason]

/-- Nothing is spent twice: before a later version lies all that the latest submission counts. -/
theorem spentBefore_of_latest (hlatest : db.latestSubmission = some s) (assignmentId : Uuid)
    (hver : s.version < version) :
    db.spentBefore assignmentId version = db.countedSubmissions assignmentId s.version := by
  rw [countedSubmissions_eq]
  refine List.countP_congr (fun t ht => ?_)
  have hle : t.version ≤ s.version := version_le_latest hlatest (row_mem ht)
  simp [hle, Nat.lt_of_le_of_lt hle hver]

variable {new : Submission}

/-- A new submission spends nothing of the rounds before an earlier version. -/
theorem spentBefore_submitted (assignmentId : Uuid) (hver : version ≤ new.version) :
    (db.submitted new).spentBefore assignmentId version = db.spentBefore assignmentId version := by
  unfold Database.spentBefore Database.submitted
  simp [Nat.not_lt.mpr hver]

/-- A decision about the latest submission changes nothing of the rounds before any version. -/
theorem spentBefore_decide {outcome : AttemptStatus} (assignmentId : Uuid)
    (hlast : ∀ s ∈ db.submissions, s.id = submissionId → version ≤ s.version) :
    (db.decide submissionId outcome reason decidedAt).spentBefore assignmentId version =
      db.spentBefore assignmentId version := by
  unfold Database.spentBefore Database.decide
  rw [List.countP_map]
  refine List.countP_congr (fun s hs => ?_)
  simp only [Function.comp_apply]
  by_cases hid : s.id = submissionId
  · rw [if_pos hid]
    have := hlast s hs hid
    simp [Nat.not_lt.mpr this]
  · rw [if_neg hid]

structure Capped (db : Database) (p : Preparation) : Prop where
  bounded : p.nextRevisionRound ≤ p.maxRevisionRounds
  observed : p.clockObservedAt ≠ none
  unlimited : p.blockedReason ≠ some .revisionLimitReached
  policy : ∃ s ∈ db.rows, s.id = p.submissionId ∧
    ∃ policy, db.policyOf s.lineage = some policy ∧ p.maxRevisionRounds = policy.maxRevisionRounds
  cleared : p.blockedReason = none → p.outcome ≠ .blocked ∧ ∃ target cap, p.candidate.target = some target ∧
    db.policyOf target.lineage = some cap ∧ p.nextRevisionRound ≤ cap.maxRevisionRounds

/-- The rounds of a task that only the present release has worked on. -/
structure Counted (db : Database) : Prop where
  sound : Sound db
  undecided : ∀ s ∈ db.submissions, s.attemptStatus = .evaluationPending →
    s.statusReason = none ∧ ∀ m ∈ db.manifests, m.submissionId ≠ s.id
  awaiting : db.task.status = .evaluationPending →
    ∃ s, db.latestSubmission = some s ∧ s.attemptStatus = .evaluationPending
  rounds : ∀ s ∈ db.rows, ∀ policy, db.policyOf s.lineage = some policy →
    db.spentBefore s.taskAssignmentId s.version ≤ policy.maxRevisionRounds
  capped : ∀ p ∈ db.preparations, Capped db p
  window : db.task.status = .needsRevision → ∀ s, db.latestSubmission = some s → ∀ p ∈ db.preparations,
    p.submissionId = s.id → p.nextRevisionRound = db.countedSubmissions s.taskAssignmentId s.version

structure Bounded (db : Database) : Prop extends Counted db where
  rooted : ∀ m ∈ db.manifests, m.routingRecommendation = .needsRevision →
    (∃ p ∈ db.preparations, p.routingManifestId = m.id ∧ p.sequence = 1) ∨
      ∃ e ∈ db.exhaustions, e.routingManifestId = m.id

/-- The round of a submission that awaits its routing lies within the cap of its own policy. -/
theorem Counted.round_range (h : Counted db) (hs : s ∈ db.submissions)
    (hpend : s.attemptStatus = .evaluationPending)
    (hpol : db.policyOf s.lineage = some policy) :
    0 ≤ db.submissionRevisionRound s.taskAssignmentId s.version ∧
      db.submissionRevisionRound s.taskAssignmentId s.version ≤ policy.maxRevisionRounds := by
  have hcounted := h.sound.counted_eq hs
  have hreason := (h.undecided s hs hpend).1
  have hspent : db.spentBefore s.taskAssignmentId s.version ≤ policy.maxRevisionRounds :=
    h.rounds s.row (row_mem hs) policy hpol
  rw [hreason, if_neg (by decide)] at hcounted
  unfold Database.submissionRevisionRound
  omega

theorem policyOf_congr (hpolicies : after.revisionPolicies = db.revisionPolicies)
    (lineage : TaskPolicyLineage) :
    after.policyOf lineage = db.policyOf lineage := by
  unfold Database.policyOf
  rw [hpolicies]

theorem Capped.mono {p : Preparation} (h : Capped db p)
    (hpolicies : after.revisionPolicies = db.revisionPolicies) (hrows : ∀ s ∈ db.rows, s ∈ after.rows) :
    Capped after p := by
  refine ⟨h.bounded, h.observed, h.unlimited, ?_, ?_⟩
  · obtain ⟨s, hs, hid, policy, hpol, hmax⟩ := h.policy
    exact ⟨s, hrows s hs, hid, policy, (policyOf_congr hpolicies _).trans hpol, hmax⟩
  · intro hreason
    obtain ⟨hblocked, target, cap, htgt, hcap, hle⟩ := h.cleared hreason
    exact ⟨hblocked, target, cap, htgt, (policyOf_congr hpolicies _).trans hcap, hle⟩

theorem expectedReason_ne_limit (row : Preparation) (observed : Nat) :
    expectedReason row observed ≠ some .revisionLimitReached := by
  unfold expectedReason
  split
  · decide
  · split <;> decide

/-- A row without a reason has a target whose cap its round respects. -/
theorem isBlocked_of_expectedReason {observed : Nat} (h : expectedReason row observed = none) :
    row.candidate.isBlocked row.nextRevisionRound = false := by
  unfold expectedReason at h
  split at h
  · cases h
  · split at h
    · cases h
    · next hblocked => simpa using hblocked

theorem cap_of_guardTarget {candidate : RevisionCandidate} {nextRevisionRound : Nat}
    (h : db.guardTarget candidate = .ok ()) (hblocked : candidate.isBlocked nextRevisionRound = false) :
    ∃ target cap, candidate.target = some target ∧ db.policyOf target.lineage = some cap ∧
      nextRevisionRound ≤ cap.maxRevisionRounds := by
  simp only [RevisionCandidate.isBlocked, Bool.or_eq_false_iff, Option.isNone_eq_false_iff] at hblocked
  obtain ⟨htgt, hcap⟩ := hblocked
  obtain ⟨target, htargetEq⟩ := Option.isSome_iff_exists.mp htgt
  unfold Database.guardTarget at h
  rw [htargetEq] at h
  simp only [eq_ok] at h
  obtain ⟨cap, hpol, hmax, -⟩ := h
  rw [hmax] at hcap
  refine ⟨target, cap, htargetEq, hpol, ?_⟩
  simpa using hcap

theorem Sound.max_of_custody (h : Sound db) (hcapped : ∀ p ∈ db.preparations, Capped db p)
    (hsourced : Sourced db a routed row m s assignment policy) :
    row.maxRevisionRounds = policy.maxRevisionRounds := by
  have hcust := hsourced.custody
  unfold Database.guardCustody at hcust
  cases hpred : row.predecessorId with
  | none =>
    rw [hpred] at hcust
    simp only [Database.guardRoot, eq_ok] at hcust
    obtain ⟨source, -, hfacts⟩ := hcust
    exact hfacts.2.2.2.2
  | some id =>
    rw [hpred] at hcust
    simp only [Database.guardSuccessor, eq_ok] at hcust
    obtain ⟨prior, hprior, -, hfacts, -⟩ := hcust
    obtain ⟨t, ht, htid, cap, hcap, hmax⟩ := (hcapped prior (findPreparation_eq_some hprior).1).policy
    obtain ⟨hs, hsid⟩ := findSubmission_eq_some hsourced.submission_eq
    -- The predecessor was prepared for the same submission, so under the same policy.
    have hrow : t = s.row :=
      Table.eq_of_key_eq h.submissionIds ht (row_mem hs) (htid.trans (hfacts.2.2.2.2.1.trans hsid.symm))
    have hsame : cap = policy := by
      rw [hrow] at hcap
      exact Option.some.inj (hcap.symm.trans hsourced.policy_eq)
    rw [hfacts.2.2.2.2.2.2.2.2.1, hmax, hsame]

theorem Inserted.capped (h : Sound db) (hcapped : ∀ p ∈ db.preparations, Capped db p)
    (hins : Inserted db a routed m row) : Capped db row := by
  obtain ⟨found, s, assignment, policy, hsourced⟩ := guardRevisionPreparation_eq_ok hins.guard
  obtain ⟨hs, hsid⟩ := findSubmission_eq_some hsourced.submission_eq
  refine ⟨hsourced.bounded, ?_, ?_, ?_, ?_⟩
  · rw [hins.observed]
    exact Option.some_ne_none _
  · rw [hsourced.reason]
    exact expectedReason_ne_limit row _
  · exact ⟨s.row, row_mem hs, hsid, policy, hsourced.policy_eq, h.max_of_custody hcapped hsourced⟩
  · intro hreason
    have hexpected : expectedReason row a.readings.observed = none := hsourced.reason.symm.trans hreason
    refine ⟨?_, cap_of_guardTarget hsourced.target (isBlocked_of_expectedReason hexpected)⟩
    rw [hsourced.outcome, hreason]
    unfold preparationOutcome
    split
    · contradiction
    · split <;> decide

theorem latestSubmission_congr (hsubs : after.submissions = db.submissions) :
    after.latestSubmission = db.latestSubmission := by
  unfold Database.latestSubmission
  rw [hsubs]

/-- A decision about the latest submission, and whatever else its transaction wrote before. -/
theorem Counted.decided (h : Counted db) {next : Database} {outcome : AttemptStatus}
    (hsound : Sound (next.decide submissionId outcome reason decidedAt))
    (hsubs : next.submissions = db.submissions) (hpolicies : next.revisionPolicies = db.revisionPolicies)
    (hpreps : next.preparations = db.preparations)
    (hmans : ∀ m ∈ next.manifests, m ∈ db.manifests ∨ m.submissionId = submissionId)
    (hlast : ∀ s ∈ db.submissions, s.id = submissionId → ∀ t ∈ db.rows, t.version ≤ s.version)
    (hout : outcome ≠ .evaluationPending) (hstat : next.task.status ≠ .evaluationPending)
    (hwindow : next.task.status = .needsRevision → ∀ p ∈ db.preparations, ∀ s,
      (next.decide submissionId outcome reason decidedAt).latestSubmission = some s → p.submissionId ≠ s.id) :
    Counted (next.decide submissionId outcome reason decidedAt) := by
  have hrows : (next.decide submissionId outcome reason decidedAt).rows = db.rows := by
    rw [decide_rows]
    unfold Database.rows
    rw [hsubs]
  refine ⟨hsound, ?_, fun hpend => absurd hpend hstat, ?_, ?_, ?_⟩
  · intro s hs hpend
    obtain ⟨t, ht, rfl⟩ := List.mem_map.mp hs
    by_cases hid : t.id = submissionId
    · rw [if_pos hid] at hpend
      exact absurd hpend hout
    · rw [if_neg hid] at hpend ⊢
      obtain ⟨hreason, hnone⟩ := h.undecided t (hsubs ▸ ht) hpend
      refine ⟨hreason, fun m hm => ?_⟩
      rcases hmans m hm with hold | hnew
      · exact hnone m hold
      · rw [hnew]
        exact Ne.symm hid
  · intro s hs policy hpol
    rw [hrows] at hs
    have hspent : (next.decide submissionId outcome reason decidedAt).spentBefore s.taskAssignmentId
      s.version =
        db.spentBefore s.taskAssignmentId s.version := by
      rw [spentBefore_decide]
      · unfold Database.spentBefore
        rw [hsubs]
      · exact fun t ht hid => hlast t (hsubs ▸ ht) hid s hs
    rw [hspent]
    exact h.rounds s hs policy ((policyOf_congr hpolicies _).symm.trans hpol)
  · intro p hp
    exact (h.capped p (hpreps ▸ hp)).mono hpolicies (fun s hs => hrows ▸ hs)
  · intro hneeds s hs p hp hid
    exact absurd hid (hwindow hneeds p (hpreps ▸ hp) s hs)

/-- A new preparation carries the count of its source. -/
theorem Counted.prepared (h : Counted db) (hprep : Prepared db a routed m row after) :
    Counted after := by
  have hsound := h.sound.prepared hprep
  have hcapped := Table.forall_append h.capped (hprep.capped h.sound h.capped)
  obtain ⟨found, source, assignment, policy, hsourced⟩ := guardRevisionPreparation_eq_ok hprep.guard
  obtain ⟨extra, task, f, hstat, -, rfl⟩ := hprep.after_eq
  refine ⟨hsound, h.undecided, fun hpend => ?_, h.rounds,
    fun p hp => (hcapped p hp).mono rfl (fun s hs => hs), fun hneeds s hs p hp hid => ?_⟩
  · rw [hstat, hsourced.status] at hpend
    cases hpend
  · rcases Table.mem_append hp with hp | rfl
    · exact h.window (hstat ▸ hneeds) s hs p hp hid
    · obtain ⟨hsrc, hsourceId⟩ := findSubmission_eq_some hsourced.submission_eq
      -- The guard counted for the submission the row names, which is the latest one.
      have hsame : source.row = s.row :=
        Table.eq_of_key_eq h.sound.submissionIds (row_mem hsrc) (row_mem (latest_mem hs))
          (hsourceId.trans hid)
      have howner : s.taskAssignmentId = p.assignmentId :=
        (congrArg SubmissionRow.taskAssignmentId hsame).symm.trans hsourced.owner
      have hver : s.version = p.sourceSubmissionVersion :=
        (congrArg SubmissionRow.version hsame).symm.trans hsourced.sourceVersion
      rw [howner, hver]
      exact hsourced.round

theorem latestSubmission_submitted (hlater : ∀ s ∈ db.rows, s.version < new.version) :
    (db.submitted new).latestSubmission = some new := by
  unfold Database.latestSubmission Database.submitted
  rw [List.argmax_concat]
  cases hlatest : db.submissions.argmax (fun s => s.version) with
  | none => rfl
  | some s => exact if_pos (hlater s.row (row_mem (List.argmax_mem hlatest)))

/-- A first submission of an assignment is the only one. -/
theorem guardSubmissionRevisionCapacity_first (h : db.guardSubmissionRevisionCapacity new = .ok ())
    (hfirst : new.supersedesSubmissionId = none) :
    ∀ s ∈ db.submissions, s.taskAssignmentId ≠ new.taskAssignmentId := by
  simp only [Database.guardSubmissionRevisionCapacity, eq_ok] at h
  obtain ⟨-, -, h⟩ := h
  rw [hfirst] at h
  simp only [eq_ok, Bool.not_eq_true', List.any_eq_false, decide_eq_true_eq] at h
  exact h.choose_spec.1

/-- A submission is admitted within the cap of its own policy. -/
theorem Counted.spent_le_of_new (h : Counted db) (hnew : Submitted db new assignment)
    (hpol : db.policyOf new.lineage = some policy) :
    db.spentBefore new.taskAssignmentId new.version ≤ policy.maxRevisionRounds := by
  cases hsup : new.supersedesSubmissionId with
  | none =>
    have hfirst := guardSubmissionRevisionCapacity_first hnew.capacity hsup
    have hzero : db.spentBefore new.taskAssignmentId new.version = 0 := by
      unfold Database.spentBefore
      rw [List.countP_eq_zero]
      intro s hs
      simp [Submission.spends, hfirst s hs]
    rw [hzero]
    exact Nat.zero_le _
  | some id =>
    obtain ⟨s, cap, hs, hlatest, -, hcap, hle⟩ :=
      guardSubmissionRevisionCapacity_supersedes hnew.capacity hsup
    obtain ⟨latest, hlatestEq, hlatestId⟩ := Option.map_eq_some_iff.mp hlatest
    have hsame : latest.row = s.row :=
      Table.eq_of_key_eq h.sound.submissionIds (row_mem (latest_mem hlatestEq))
        (row_mem (findSubmission_eq_some hs).1) hlatestId
    have hver : latest.version = s.version := congrArg SubmissionRow.version hsame
    have hcapEq : cap = policy := Option.some.inj (hcap.symm.trans hpol)
    rw [spentBefore_of_latest hlatestEq _ (version_lt_new hnew.capacity (row_mem (latest_mem hlatestEq))),
      hver, ← hcapEq]
    exact hle

theorem Counted.submitted (h : Counted db) (hnew : Submitted db new assignment) :
    Counted (db.submitted new) := by
  have hrows : (db.submitted new).rows = db.rows ++ [new.row] := by
    simp [Database.rows, Database.submitted]
  have hlater : ∀ s ∈ db.rows, s.version < new.version := fun s hs => version_lt_new hnew.capacity hs
  refine ⟨h.sound.submitted hnew, ?_, ?_, ?_, ?_, ?_⟩
  · intro s hs hpend
    rcases Table.mem_append hs with hs | rfl
    · exact h.undecided s hs hpend
    · refine ⟨hnew.undecided, fun m hm hid => ?_⟩
      obtain ⟨source, hsrc, hsourceId, -⟩ := h.sound.sources m hm
      obtain ⟨t, ht, rfl⟩ := List.mem_map.mp hsrc
      exact hnew.fresh t ht (hsourceId.trans hid)
  · exact fun _ => ⟨new, latestSubmission_submitted hlater, hnew.pending⟩
  · intro s hs policy hpol
    rw [hrows] at hs
    rcases Table.mem_append hs with hs | rfl
    · rw [spentBefore_submitted _ (hlater s hs).le]
      exact h.rounds s hs policy hpol
    · have hspent : (db.submitted new).spentBefore new.taskAssignmentId new.version =
          db.spentBefore new.taskAssignmentId new.version := spentBefore_submitted _ (Nat.le_refl _)
      exact hspent ▸ h.spent_le_of_new hnew hpol
  · intro p hp
    exact (h.capped p hp).mono rfl (fun s hs => hrows ▸ List.mem_append_left _ hs)
  · intro hneeds
    cases hneeds

theorem Counted.of_rows (h : Counted db) (hsound : Sound after) (hsubs : after.submissions = db.submissions)
    (hmans : after.manifests = db.manifests) (hpreps : after.preparations = db.preparations)
    (hpolicies : after.revisionPolicies = db.revisionPolicies)
    (hstat : after.task.status = db.task.status ∨ after.task.status = .inProgress) : Counted after := by
  have hrows : after.rows = db.rows := by
    unfold Database.rows
    rw [hsubs]
  have hopen : ∀ {status}, status ≠ .inProgress → after.task.status = status → db.task.status = status := by
    intro status hne heq
    rcases hstat with hsame | hprogress
    · exact hsame.symm.trans heq
    · exact absurd (heq.symm.trans hprogress) hne
  refine ⟨hsound, ?_, ?_, ?_, ?_, ?_⟩
  · rw [hsubs, hmans]
    exact h.undecided
  · intro hpend
    rw [latestSubmission_congr hsubs]
    exact h.awaiting (hopen (by decide) hpend)
  · intro s hs policy hpol
    unfold Database.spentBefore
    rw [hsubs]
    exact h.rounds s (hrows ▸ hs) policy ((policyOf_congr hpolicies _).symm.trans hpol)
  · intro p hp
    exact (h.capped p (hpreps ▸ hp)).mono hpolicies (fun s hs => hrows ▸ hs)
  · intro hneeds s hs p hp hid
    rw [latestSubmission_congr hsubs] at hs
    unfold Database.countedSubmissions
    rw [hsubs]
    exact h.window (hopen (by decide) hneeds) s hs p (hpreps ▸ hp) hid

theorem Sound.eq_of_version_eq (h : Sound db) {s t : SubmissionRow} (hs : s ∈ db.rows) (ht : t ∈ db.rows)
    (hver : s.version = t.version) : s = t := by
  have hnodup : (db.rows.map SubmissionRow.version).Nodup := by
    unfold List.Nodup
    rw [List.pairwise_map]
    exact h.versions.imp (fun hlt => Nat.ne_of_lt hlt)
  exact Table.eq_of_key_eq hnodup hs ht hver

/-- Whoever has the identifier of the latest submission is the latest. -/
theorem Sound.version_le_of_latest (h : Sound db) (hlatest : db.latestSubmission = some s) :
    ∀ t ∈ db.submissions, t.id = s.id → ∀ u ∈ db.rows, u.version ≤ t.version := by
  intro t ht hid u hu
  have hsame : t.row = s.row :=
    Table.eq_of_key_eq h.submissionIds (row_mem ht) (row_mem (latest_mem hlatest)) hid
  have hver : t.version = s.version := congrArg SubmissionRow.version hsame
  rw [hver]
  exact version_le_latest hlatest hu

/-- Whoever has the identifier of a current source is the latest. -/
theorem Sound.version_le_of_current (h : Sound db) (hm : m ∈ db.manifests) {fenceCurrent : Bool}
    (hcur : db.revisionRoutingSourceCurrent fenceCurrent m = true) :
    ∀ t ∈ db.submissions, t.id = m.submissionId → ∀ u ∈ db.rows, u.version ≤ t.version := by
  intro t ht hid u hu
  obtain ⟨s, hs, hsid, hver, -⟩ := h.sources m hm
  have hsame : t.row = s := Table.eq_of_key_eq h.submissionIds (row_mem ht) hs (hid.trans hsid.symm)
  have htversion : t.version = m.submissionVersion := (congrArg SubmissionRow.version hsame).trans hver
  rw [htversion]
  exact version_le_current hcur hu

/-- The submission that awaits its routing has no manifest and no preparation. -/
theorem Counted.unprepared (h : Counted db) (hlatest : db.latestSubmission = some s)
    (hstat : db.task.status = .evaluationPending) :
    s.attemptStatus = .evaluationPending ∧ s.statusReason = none ∧
      (∀ m ∈ db.manifests, m.submissionId ≠ s.id) ∧
      ∀ p ∈ db.preparations, p.submissionId ≠ s.id := by
  obtain ⟨latest, hsame, hpend⟩ := h.awaiting hstat
  rw [hlatest] at hsame
  rw [← Option.some.inj hsame] at hpend
  obtain ⟨hreason, hmans⟩ := h.undecided s (latest_mem hlatest) hpend
  refine ⟨hpend, hreason, hmans, fun p hp hid => ?_⟩
  obtain ⟨m, hm, -, hsub, -⟩ := h.sound.chains p hp
  exact hmans m hm (hsub.trans hid)

/-- A return, before its root is prepared. -/
theorem Counted.returned (h : Counted db) (hlatest : db.latestSubmission = some s)
    (hstat : db.task.status = .evaluationPending)
    (hfresh : ∀ other ∈ db.manifests, other.id ≠ m.id) (hsub : m.submissionId = s.id)
    (hver : m.submissionVersion = s.version) (hasgn : m.assignmentId = s.taskAssignmentId)
    (reason : Option StatusReason) (decidedAt : Option Nat) :
    Counted (db.returned m reason decidedAt) := by
  have hsound := h.sound.returned (latest_mem hlatest) hfresh hsub hver hasgn reason decidedAt
  refine h.decided hsound rfl rfl rfl ?_ ?_ (by decide) nofun ?_
  · intro other hother
    rcases List.mem_append.mp hother with hother | hother
    · exact .inl hother
    · exact .inr (congrArg RoutingManifest.submissionId (List.mem_singleton.mp hother))
  · rw [hsub]
    exact h.sound.version_le_of_latest hlatest
  · intro _ p hp t ht hid
    -- The latest submission stays the one that was decided.
    have hrow : t.row ∈ db.rows := by
      have hmem := row_mem (latest_mem ht)
      rw [decide_rows] at hmem
      exact hmem
    have hle : s.version ≤ t.version := by
      have hmem : s.row ∈ (db.returned m reason decidedAt).rows := by
        unfold Database.returned
        rw [decide_rows]
        exact row_mem (latest_mem hlatest)
      exact version_le_latest ht hmem
    have hsame : t.row = s.row :=
      h.sound.eq_of_version_eq hrow (row_mem (latest_mem hlatest))
        (Nat.le_antisymm (version_le_latest hlatest hrow) hle)
    exact (h.unprepared hlatest hstat).2.2.2 p hp (hid.trans (congrArg SubmissionRow.id hsame))

/-- The root of a fresh manifest is the first row of its chain. -/
theorem Counted.root_of_returned (h : Counted db) (hfresh : ∀ other ∈ db.manifests, other.id ≠ m.id)
    (hins : Inserted (db.returned m reason decidedAt) a routed m row) : row.sequence = 1 := by
  obtain ⟨found, s, assignment, policy, hsourced⟩ := guardRevisionPreparation_eq_ok hins.guard
  have hcust := hsourced.custody
  cases hpred : row.predecessorId with
  | none =>
    unfold Database.guardCustody at hcust
    rw [hpred] at hcust
    simp only [Database.guardRoot, eq_ok] at hcust
    obtain ⟨source, -, hfacts⟩ := hcust
    exact hfacts.1
  | some id =>
    obtain ⟨q, hq, -, hman, -⟩ := guardCustody_predecessor hcust hpred
    obtain ⟨other, hother, hotherId, -⟩ := h.sound.chains q hq
    exact absurd (hotherId.trans (hman.trans hins.manifestId)) (hfresh other hother)

theorem Counted.no_head_of_fresh (h : Counted db) (hfresh : ∀ other ∈ db.manifests, other.id ≠ m.id) :
    (db.returned m reason decidedAt).headForSource m.id = none := by
  refine List.find?_eq_none.mpr (fun p hp hhead => ?_)
  obtain ⟨other, hother, hotherId, -⟩ := h.sound.chains p hp
  simp only [decide_eq_true_eq] at hhead
  exact hfresh other hother (hotherId.trans hhead.1)

/-- Sources keep their roots and receipts. -/
theorem Bounded.rooted_mono (h : Bounded db) {preparations : List Preparation}
    {exhaustions : List Exhaustion} (hpreps : ∀ p ∈ db.preparations, p ∈ preparations)
    (hexhaustions : ∀ e ∈ db.exhaustions, e ∈ exhaustions) (hm : m ∈ db.manifests)
    (hneeds : m.routingRecommendation = .needsRevision) :
    (∃ p ∈ preparations, p.routingManifestId = m.id ∧ p.sequence = 1) ∨
      ∃ e ∈ exhaustions, e.routingManifestId = m.id := by
  rcases h.rooted m hm hneeds with ⟨p, hp, hfacts⟩ | ⟨e, he, hid⟩
  · exact .inl ⟨p, hpreps p hp, hfacts⟩
  · exact .inr ⟨e, hexhaustions e he, hid⟩

/-- Only a failure or a coverage gap asks for revision. -/
theorem Routed.allowReview (h : Routed db a r s plan assignment)
    (hplan : plan = .review ∨ plan = .accept) :
    (r.manifest s plan a.readings.now).routingRecommendation ≠ .needsRevision := by
  intro hneeds
  obtain ⟨-, -, -, assignment, -, -, hbr⟩ := prepareRouting_eq_ok h.prepared
  have hclass : classifyResult r.members r.humanReviewRequired = .needsRevision := hneeds
  rw [hclass] at hbr
  obtain ⟨context, hplanned, -⟩ := hbr
  simp only [Database.planRevision, eq_ok] at hplanned
  obtain ⟨policy, -, -, -, hplanned⟩ := hplanned
  split at hplanned
  · cases hplanned
    rcases hplan with hplan | hplan <;> cases hplan
  · cases hplanned
    rcases hplan with hplan | hplan <;> cases hplan

theorem mem_manifests_routed (h : m ∈ db.manifests ++ [r.manifest s plan a.readings.now]) :
    m ∈ db.manifests ∨ m.submissionId = s.id := by
  exact (Table.mem_append h).imp_right (congrArg RoutingManifest.submissionId)

theorem Bounded.returned (h : Bounded db) {candidate : RevisionCandidate}
    (hrouted : Routed db a r s (.remediate candidate) assignment)
    (hprep : Prepared (db.returned (r.returns a s candidate) reason decidedAt) a (some r.manifestId)
      (r.returns a s candidate) row after) : Bounded after := by
  have hreturned : Counted (db.returned (r.returns a s candidate) reason decidedAt) :=
    h.toCounted.returned hrouted.latest hrouted.status hrouted.fresh rfl rfl rfl reason decidedAt
  have hroot := h.toCounted.root_of_returned hrouted.fresh hprep.toInserted
  refine ⟨hreturned.prepared hprep, ?_⟩
  obtain ⟨extra, task, f, -, -, rfl⟩ := hprep.after_eq
  intro m hm hneeds
  rcases Table.mem_append hm with hm | rfl
  · exact h.rooted_mono (fun p hp => List.mem_append_left _ hp) (fun e he => he) hm hneeds
  · exact .inl ⟨row, List.mem_concat_self, hprep.manifestId, hroot⟩

theorem Bounded.change (h : Bounded db) {action : Action} (hchange : Change db action after) :
    Bounded after := by
  have hsound : Sound after := h.sound.change hchange
  have hallowed {a r s plan assignment} (hrouted : Routed db a r s plan assignment)
      (hplan : plan = .review ∨ plan = .accept) :
      ∀ m ∈ db.manifests ++ [r.manifest s plan a.readings.now], m.routingRecommendation =
        .needsRevision → _ :=
    Table.forall_append h.rooted (fun hneeds => absurd hneeds (hrouted.allowReview hplan))
  cases hchange with
  | announced => exact ⟨h.toCounted.of_rows hsound rfl rfl rfl rfl (.inl rfl), h.rooted⟩
  | claimed => exact ⟨h.toCounted.of_rows hsound rfl rfl rfl rfl (.inr rfl), h.rooted⟩
  | submitted hsubmitted => exact ⟨h.toCounted.submitted hsubmitted, h.rooted⟩
  | reviewed hrouted =>
    exact ⟨h.toCounted.decided hsound rfl rfl rfl (fun m hm => mem_manifests_routed hm)
      (h.sound.version_le_of_latest hrouted.latest) (by decide) nofun nofun, hallowed hrouted (.inl rfl)⟩
  | accepted hrouted =>
    exact ⟨h.toCounted.decided hsound rfl rfl rfl (fun m hm => mem_manifests_routed hm)
      (h.sound.version_le_of_latest hrouted.latest) (by decide) nofun nofun, hallowed hrouted (.inr rfl)⟩
  | @failed a r s _ _ _ _ _ _ e hrouted he =>
    have hid : e.sourceSubmissionId = s.id := he.submissionId.symm
    refine ⟨h.toCounted.decided hsound rfl rfl rfl
      (fun m hm => (mem_manifests_routed hm).imp id (fun hsub => hsub.trans hid.symm))
      (hid ▸ h.sound.version_le_of_latest hrouted.latest) (by decide) nofun nofun, ?_⟩
    intro m hm hneeds
    rcases Table.mem_append hm with hm | rfl
    · exact h.rooted_mono (fun p hp => hp) (fun x hx => List.mem_append_left _ hx) hm hneeds
    · exact .inr ⟨e, List.mem_concat_self, he.manifestId⟩
  | returned hrouted _ _ hrow =>
    rcases hrow with ⟨hhead, -⟩ | hprep
    · cases hhead.symm.trans (h.toCounted.no_head_of_fresh hrouted.fresh)
    · exact h.returned hrouted hprep
  | prepared hm hprep =>
    refine ⟨h.toCounted.prepared hprep, ?_⟩
    obtain ⟨extra, task, f, -, -, rfl⟩ := hprep.after_eq
    intro m hm hneeds
    exact h.rooted_mono (fun p hp => List.mem_append_left _ hp) (fun e he => he) hm hneeds
  | exhausted hm _ _ he =>
    refine ⟨h.toCounted.decided hsound rfl rfl rfl (fun m hm => .inl hm)
      (he.submissionId ▸ h.sound.version_le_of_current hm he.current) (by decide) nofun nofun, ?_⟩
    intro m hm hneeds
    exact h.rooted_mono (fun p hp => hp) (fun x hx => List.mem_append_left _ hx) hm hneeds
  | expired he =>
    have hm := (findManifest_eq_some he.manifest_eq).1
    refine ⟨h.toCounted.decided hsound rfl rfl rfl (fun m hm => .inl hm)
      (he.submissionId ▸ h.sound.version_le_of_current hm he.current) (by decide) nofun nofun, ?_⟩
    intro m hm hneeds
    exact h.rooted_mono (fun p hp => hp) (fun x hx => hx) hm hneeds

theorem Bounded.step (h : Bounded db) (action : Action) : Bounded (db.step action) := by
  unfold Database.step
  split
  · cases hperf : db.perform action with
    | error refusal => exact h
    | ok committed =>
      have hcommitted := h.change (change_of_perform hperf)
      exact ⟨hcommitted.toCounted.of_rows (hcommitted.sound.clock _) rfl rfl rfl rfl (.inl rfl),
        hcommitted.rooted⟩
  · exact h

theorem Bounded.fresh (h : db.Fresh) : Bounded db := by
  have hrows : db.rows = [] := by simp [Database.rows, h.submissions]
  refine ⟨⟨Sound.fresh h, ?_, ?_, ?_, ?_, ?_⟩, ?_⟩
  all_goals simp [hrows, h.submissions, h.manifests, h.preparations, h.ready]

/-- Every state of a task that the present release worked on from its first claim is within its caps. -/
theorem Bounded.run (h : db.Fresh) (actions : List Action) : Bounded (run Database.step db actions) :=
  run_invariant (Bounded.fresh h) (fun _ action hs => hs.step action) actions

end Workstream.Revision
