import Workstream.Revision.Clock

/-!
# The allowance of a revision window

A window allows a contributor the policy's hours of running time.
-/

namespace Workstream.Revision
open Foundation

/-- Accepted preparations of one routed source, the newest first. `source` is what the trigger selected
for the root; later insertions select their own. -/
inductive ClockChain (source : ClockSource) : List Preparation → Prop
  | root {observed : Nat} {new p : Preparation} (hroot : new.predecessorId = none)
      (htime : source.origin.requestedAt ≤ observed)
      (h : projectRevisionPreparationClock source none observed new = .ok p) : ClockChain source [p]
  | successor {later : ClockSource} {observed : Nat} {new p q : Preparation} {rest : List Preparation}
      (hchain : ClockChain source (q :: rest)) (hsuccessor : new.predecessorId = some q.id)
      (htime : ∀ earlier, q.clockObservedAt = some earlier → earlier ≤ observed)
      (h : projectRevisionPreparationClock later (some q) observed new = .ok p) :
      ClockChain source (p :: q :: rest)

def Preparation.isPaused (p : Preparation) : Bool := p.deadlineAt.isNone

def Preparation.observedAt (p : Preparation) : Int := p.clockObservedAt.getD 0

/-- What is left of the window when a preparation is observed. -/
def Preparation.balance (p : Preparation) : Int :=
  match p.deadlineAt with
  | some deadline => deadline - p.observedAt
  | none => p.remainingMicroseconds.getD 0

/-- Microseconds for which the chain had run when its newest preparation was observed. Before its root
the window runs, unless routing itself created the root paused. -/
def runningMicroseconds (source : ClockSource) : List Preparation → Int
  | [] => 0
  | [root] =>
    if root.isPaused && root.repairActorId.isNone && source.routedByTransaction then 0
    else root.observedAt - source.origin.requestedAt
  | p :: q :: rest =>
    runningMicroseconds source (q :: rest) + if q.isPaused then 0 else p.observedAt - q.observedAt

section Columns

variable {source : ClockSource} {new p q : Preparation} {observed deadline : Nat}

@[simp] theorem withClock_observedAt (columns : ClockColumns) :
    (new.withClock observed columns).observedAt = observed := rfl

@[simp] theorem withClock_isPaused (columns : ClockColumns) :
    (new.withClock observed columns).isPaused = columns.deadlineAt.isNone := rfl

@[simp] theorem withClock_repairActorId (columns : ClockColumns) :
    (new.withClock observed columns).repairActorId = new.repairActorId := rfl

@[simp] theorem balance_withClock_running (deadline : Nat) (reason : Option BlockedReason) :
    (new.withClock observed ⟨some deadline, none, reason⟩).balance = deadline - observed := rfl

@[simp] theorem balance_withClock_paused (remaining : Nat) (reason : Option BlockedReason) :
    (new.withClock observed ⟨none, some remaining, reason⟩).balance = remaining := rfl

theorem balance_of_running (h : p.deadlineAt = some deadline) : p.balance = deadline - p.observedAt := by
  unfold Preparation.balance
  rw [h]

variable {remaining : Nat}

theorem balance_of_paused (h : p.deadlineAt = none) (hrem : p.remainingMicroseconds = some remaining) :
    p.balance = remaining := by
  unfold Preparation.balance
  rw [h, hrem]
  rfl

theorem isPaused_of_running (h : p.deadlineAt = some deadline) : p.isPaused = false := by
  unfold Preparation.isPaused
  rw [h]
  rfl

theorem isPaused_of_paused (h : p.deadlineAt = none) : p.isPaused = true := by
  unfold Preparation.isPaused
  rw [h]
  rfl

theorem rootClock_of_past (h : source.origin.deadlineAt = some deadline) (hpast : deadline ≤ observed) :
    rootClock source observed new = ⟨some deadline, none, some .revisionDeadlineExpired⟩ := by
  unfold rootClock
  simp [h, hpast]

theorem rootClock_of_open (h : source.origin.deadlineAt = some deadline) (hopen : observed < deadline)
    (hblocked : new.candidate.isBlocked new.nextRevisionRound = false) :
    rootClock source observed new = ⟨some deadline, none, none⟩ := by
  unfold rootClock
  simp [h, hblocked, Nat.not_le.mpr hopen]

theorem rootClock_of_blocked (h : source.origin.deadlineAt = some deadline) (hopen : observed < deadline)
    (hblocked : new.candidate.isBlocked new.nextRevisionRound = true) :
    rootClock source observed new =
      ⟨none,
        some (if !source.origin.inherited && new.repairActorId.isNone && source.routedByTransaction then
          makeInterval source.policy.revisionDeadlineHours else deadline - observed),
        some .contextBlocked⟩ := by
  unfold rootClock
  simp only [h, hblocked, Option.any_some, Nat.not_le.mpr hopen, decide_false, Bool.false_eq_true,
    if_false, if_true, Option.map_some]
  split
  · rfl
  · rfl

theorem successorClock_of_running (h : q.deadlineAt = some deadline) :
    successorClock q observed new =
      if new.candidate.isBlocked new.nextRevisionRound then
        ⟨none, some (deadline - observed), some .contextBlocked⟩
      else ⟨some deadline, none, none⟩ := by
  unfold successorClock
  rw [h]

theorem successorClock_of_paused (h : q.deadlineAt = none)
    (hrem : q.remainingMicroseconds = some remaining) :
    successorClock q observed new =
      if new.candidate.isBlocked new.nextRevisionRound then ⟨none, some remaining, some .contextBlocked⟩
      else ⟨some (observed + remaining), none, none⟩ := by
  unfold successorClock
  rw [h, hrem, Option.map_some, revisionClockInterval_eq]

end Columns

structure ClockSource.Fresh (source : ClockSource) : Prop where
  notInherited : source.origin.inherited = false
  deadline : source.origin.deadlineAt =
    some (source.origin.requestedAt + makeInterval source.policy.revisionDeadlineHours)

theorem Database.clockSource_fresh {db : Database} {routed : Option Uuid} {manifestId : Uuid}
    {source : ClockSource} (h : db.clockSource routed manifestId = some source)
    (hfresh : source.origin.inherited = false) : source.Fresh := by
  unfold clockSource at h
  simp only [Option.bind_eq_bind, Option.bind_eq_some_iff, Option.pure_def, Option.some.injEq] at h
  obtain ⟨m, -, s, -, policy, -, rfl⟩ := h
  refine ⟨hfresh, ?_⟩
  rw [revisionWindowOrigin_of_fresh hfresh]

section Fresh

variable {source : ClockSource} {p q : Preparation} {rest rows : List Preparation}

inductive Preparation.Clocked (p : Preparation) : Prop
  | running {observed deadline : Nat} (hobserved : p.clockObservedAt = some observed)
      (hdeadline : p.deadlineAt = some deadline) (hremaining : p.remainingMicroseconds = none)
  | paused {observed remaining : Nat} (hobserved : p.clockObservedAt = some observed)
      (hdeadline : p.deadlineAt = none) (hremaining : p.remainingMicroseconds = some remaining)
      (hpositive : 0 < remaining)

theorem clocked_root {observed : Nat} {new : Preparation} (hfresh : source.Fresh)
    (htime : source.origin.requestedAt ≤ observed) :
    (new.withClock observed (rootClock source observed new)).Clocked := by
  have hdeadline := hfresh.deadline
  by_cases hpast : source.origin.requestedAt + makeInterval source.policy.revisionDeadlineHours ≤ observed
  · rw [rootClock_of_past hdeadline hpast]
    exact .running rfl rfl rfl
  · rw [Nat.not_le] at hpast
    cases hblocked : new.candidate.isBlocked new.nextRevisionRound with
    | false =>
      rw [rootClock_of_open hdeadline hpast hblocked]
      exact .running rfl rfl rfl
    | true =>
      rw [rootClock_of_blocked hdeadline hpast hblocked]
      refine .paused rfl rfl rfl ?_
      split
      · omega
      · omega

theorem clocked_successor {observed : Nat} {new : Preparation} (hq : q.Clocked)
    (hopen : ∀ deadline, q.deadlineAt = some deadline → observed < deadline) :
    (new.withClock observed (successorClock q observed new)).Clocked := by
  cases hq with
  | running _ hdeadline _ =>
    rw [successorClock_of_running hdeadline]
    split
    · exact .paused rfl rfl rfl (Nat.sub_pos_of_lt (hopen _ hdeadline))
    · exact .running rfl rfl rfl
  | paused _ hdeadline hrem hpos =>
    rw [successorClock_of_paused hdeadline hrem]
    split
    · exact .paused rfl rfl rfl hpos
    · exact .running rfl rfl rfl

theorem ClockChain.clocked (hfresh : source.Fresh) (h : ClockChain source rows) :
    ∀ p ∈ rows, p.Clocked := by
  induction h with
  | root hroot htime h =>
    obtain ⟨-, rfl⟩ := projectRevisionPreparationClock_root hroot h
    intro p hp
    rw [List.mem_singleton.mp hp]
    exact clocked_root hfresh htime
  | successor hchain hsucc htime h ih =>
    obtain ⟨q, hq, -, hopen, rfl⟩ := projectRevisionPreparationClock_successor hsucc h
    cases hq
    intro p hp
    rcases List.mem_cons.mp hp with rfl | hp
    · exact clocked_successor (ih _ List.mem_cons_self) hopen
    · exact ih p hp

/-- The time run and what is left add up to the allowance at the newest preparation. -/
def Conserved (source : ClockSource) (rows : List Preparation) : Prop :=
  ∀ p ∈ rows.head?, runningMicroseconds source rows + p.balance =
    makeInterval source.policy.revisionDeadlineHours

theorem conserved_root {observed : Nat} {new : Preparation} (hfresh : source.Fresh) :
    Conserved source [new.withClock observed (rootClock source observed new)] := by
  have hdeadline := hfresh.deadline
  intro p hp
  cases hp
  by_cases hpast : source.origin.requestedAt + makeInterval source.policy.revisionDeadlineHours ≤ observed
  · rw [rootClock_of_past hdeadline hpast, balance_withClock_running, runningMicroseconds,
      withClock_isPaused, withClock_observedAt, if_neg (by simp)]
    omega
  · rw [Nat.not_le] at hpast
    cases hblocked : new.candidate.isBlocked new.nextRevisionRound with
    | false =>
      rw [rootClock_of_open hdeadline hpast hblocked, balance_withClock_running, runningMicroseconds,
        withClock_isPaused, withClock_observedAt, if_neg (by simp)]
      omega
    | true =>
      rw [rootClock_of_blocked hdeadline hpast hblocked, hfresh.notInherited, balance_withClock_paused,
        runningMicroseconds, withClock_isPaused, withClock_repairActorId, withClock_observedAt]
      simp only [Option.isNone_none, Bool.true_and, Bool.not_false]
      -- Only a root that routing itself paused keeps the whole allowance.
      split
      · omega
      · omega

theorem conserved_successor {observed : Nat} {new : Preparation} (hq : q.Clocked)
    (hopen : ∀ deadline, q.deadlineAt = some deadline → observed < deadline)
    (h : Conserved source (q :: rest)) :
    Conserved source (new.withClock observed (successorClock q observed new) :: q :: rest) := by
  have hbalance := h q rfl
  intro p hp
  cases hp
  rw [runningMicroseconds, withClock_observedAt]
  cases hq with
  | running _ hdeadline _ =>
    have hlt := hopen _ hdeadline
    rw [balance_of_running hdeadline] at hbalance
    rw [isPaused_of_running hdeadline, successorClock_of_running hdeadline, if_neg Bool.false_ne_true]
    split
    · rw [balance_withClock_paused]
      omega
    · rw [balance_withClock_running]
      omega
  | paused _ hdeadline hrem _ =>
    rw [balance_of_paused hdeadline hrem] at hbalance
    rw [isPaused_of_paused hdeadline, successorClock_of_paused hdeadline hrem, if_pos rfl]
    split
    · rw [balance_withClock_paused]
      omega
    · rw [balance_withClock_running]
      omega

theorem ClockChain.conserved (hfresh : source.Fresh) (h : ClockChain source rows) :
    Conserved source rows := by
  induction h with
  | root hroot htime h =>
    obtain ⟨-, rfl⟩ := projectRevisionPreparationClock_root hroot h
    exact conserved_root hfresh
  | successor hchain hsucc htime h ih =>
    obtain ⟨q, hq, -, hopen, rfl⟩ := projectRevisionPreparationClock_successor hsucc h
    cases hq
    exact conserved_successor (hchain.clocked hfresh _ List.mem_cons_self) hopen ih

theorem ClockChain.of_suffix (h : ClockChain source rows) (hsuffix : p :: rest <:+ rows) :
    ClockChain source (p :: rest) := by
  induction h with
  | root hroot htime h =>
    rcases List.suffix_cons_iff.mp hsuffix with heq | hnil
    · rw [heq]
      exact .root hroot htime h
    · cases List.suffix_nil.mp hnil
  | successor hchain hsucc htime h ih =>
    rcases List.suffix_cons_iff.mp hsuffix with heq | hrest
    · rw [heq]
      exact .successor hchain hsucc htime h
    · exact ih hrest

theorem ClockChain.newest (h : ClockChain source (p :: q :: rest)) :
    ∃ (observed : Nat) (new : Preparation), (∀ deadline, q.deadlineAt = some deadline → observed < deadline) ∧
      p = new.withClock observed (successorClock q observed new) := by
  cases h with
  | successor hchain hsucc htime h =>
    obtain ⟨_, hq, -, hopen, rfl⟩ := projectRevisionPreparationClock_successor hsucc h
    cases hq
    exact ⟨_, _, hopen, rfl⟩

theorem ClockChain.deadlineAt_of_running (h : ClockChain source (p :: q :: rest)) {deadline : Nat}
    (hq : q.deadlineAt = some deadline) (hp : p.isPaused = false) : p.deadlineAt = some deadline := by
  obtain ⟨observed, new, -, rfl⟩ := h.newest
  rw [successorClock_of_running hq] at hp ⊢
  split at hp
  · cases hp
  · rename_i hblocked
    rw [if_neg hblocked]
    rfl

theorem ClockChain.remaining_of_paused (hfresh : source.Fresh) (h : ClockChain source (p :: q :: rest))
    (hq : q.isPaused = true) (hp : p.isPaused = true) :
    p.remainingMicroseconds = q.remainingMicroseconds := by
  obtain ⟨observed, new, -, rfl⟩ := h.newest
  cases h.clocked hfresh q (List.mem_cons_of_mem _ List.mem_cons_self) with
  | running _ hdeadline =>
    rw [isPaused_of_running hdeadline] at hq
    cases hq
  | paused _ hdeadline hrem _ =>
    rw [successorClock_of_paused hdeadline hrem] at hp ⊢
    split at hp
    · rename_i hblocked
      rw [if_pos hblocked]
      exact hrem.symm
    · cases hp

theorem ClockChain.remaining_pos (hfresh : source.Fresh) (h : ClockChain source rows) (hp : p ∈ rows)
    (hpaused : p.isPaused = true) : ∃ r, p.remainingMicroseconds = some r ∧ 0 < r := by
  cases h.clocked hfresh p hp with
  | running _ hdeadline =>
    rw [isPaused_of_running hdeadline] at hpaused
    cases hpaused
  | paused _ _ hrem hpos => exact ⟨_, hrem, hpos⟩

end Fresh

/-- Nothing succeeds a running head whose deadline has passed. -/
theorem projectRevisionPreparationClock_past {later : ClockSource} {p new row : Preparation}
    {observed deadline : Nat} (hdeadline : p.deadlineAt = some deadline) (hpast : deadline ≤ observed)
    (hsucc : new.predecessorId = some p.id) :
    projectRevisionPreparationClock later (some p) observed new ≠ .ok row := by
  intro h
  obtain ⟨q, hq, -, hopen, -⟩ := projectRevisionPreparationClock_successor hsucc h
  cases hq
  exact absurd (hopen deadline hdeadline) (Nat.not_lt.mpr hpast)

/-- In a window that its source opened, the time run and what is left add up to the policy's hours at
every preparation. A repaired running head keeps its deadline, a paused remainder is positive and stays
as it is while the head is paused, intervals are exact, and nothing succeeds a head past its deadline. -/
theorem clockChain_conserves_allowance {db : Database} {routed : Option Uuid} {manifestId : Uuid}
    {source : ClockSource} {rows : List Preparation}
    (hsource : db.clockSource routed manifestId = some source) (hopened : source.origin.inherited = false)
    (hchain : ClockChain source rows) :
    (∀ p rest, p :: rest <:+ rows → runningMicroseconds source (p :: rest) + p.balance =
      makeInterval source.policy.revisionDeadlineHours) ∧
    (∀ p q rest, p :: q :: rest <:+ rows → q.isPaused = false → p.isPaused = false →
      p.deadlineAt = q.deadlineAt) ∧
    (∀ p ∈ rows, p.isPaused = true → ∃ r, p.remainingMicroseconds = some r ∧ 0 < r) ∧
    (∀ p q rest, p :: q :: rest <:+ rows → q.isPaused = true → p.isPaused = true →
      p.remainingMicroseconds = q.remainingMicroseconds) ∧
    (∀ r, revisionClockInterval r = r) ∧
    (∀ p ∈ rows, ∀ deadline observed later new row, p.deadlineAt = some deadline → deadline ≤ observed →
      new.predecessorId = some p.id →
        projectRevisionPreparationClock later (some p) observed new ≠ .ok row) := by
  have hfresh := Database.clockSource_fresh hsource hopened
  refine ⟨?_, ?_, ?_, ?_, revisionClockInterval_eq, ?_⟩
  · intro p rest hsuffix
    exact (hchain.of_suffix hsuffix).conserved hfresh p rfl
  · intro p q rest hsuffix hq hp
    cases hdeadline : q.deadlineAt with
    | none =>
      rw [isPaused_of_paused hdeadline] at hq
      cases hq
    | some deadline => exact (hchain.of_suffix hsuffix).deadlineAt_of_running hdeadline hp
  · intro p hp hpaused
    exact hchain.remaining_pos hfresh hp hpaused
  · intro p q rest hsuffix hq hp
    exact (hchain.of_suffix hsuffix).remaining_of_paused hfresh hq hp
  · intro p _ deadline observed later new row hdeadline hpast hsucc
    exact projectRevisionPreparationClock_past hdeadline hpast hsucc

def samplePolicy : RevisionPolicy where
  guideVersion := "1"
  policyGeneration := 1
  policyHash := "sha256:revision"
  complete := true
  maxRevisionRounds := 2
  revisionDeadlineHours := 1
  semanticsShape := by decide

def sampleLineage : Tasks.TaskPolicyLineage where
  lockedGuideVersion := "1"
  lockedGuideSourceSnapshotId := "snapshot"
  lockedGuideSourceSnapshotHash := "sha256:snapshot"
  lockedEffectiveProjectSubmissionArtifactPolicyId := "artifact"
  lockedEffectiveProjectSubmissionArtifactPolicyHash := "sha256:artifact"
  lockedPreSubmitCheckerPolicyId := "pre"
  lockedPreSubmitCheckerBundleHash := "sha256:pre"
  lockedPostSubmitCheckerPolicyId := "post"
  lockedPostSubmitCheckerPolicyVersion := "1"
  lockedPostSubmitCheckerPolicyHash := "sha256:post"
  lockedReviewPolicyId := "review"
  lockedReviewPolicyGeneration := 1
  lockedReviewPolicyHash := "sha256:review"
  lockedRevisionPolicyId := "revision"
  lockedRevisionPolicyGeneration := 1
  lockedRevisionPolicyHash := "sha256:revision"
  lockedContributionPolicyVersionId := "contribution"

def sampleSnapshot : RevisionContextSnapshot where
  guideId := "guide"
  activationOperationId := "activation"
  activationGeneration := 1
  activatedAt := 1
  lineage := sampleLineage

def sampleRouted : Database where
  task := ⟨"task", "project", .needsRevision, some "contributor", sampleLineage, ""⟩
  revisionPolicies := fun _ => some samplePolicy
  assignments := [⟨"assignment", "contributor", "contribution", some 1, .active, none⟩]
  submissions := [⟨"submission", "assignment", "contributor", 1, none, sampleLineage, .needsRevision, none,
    some 10⟩]
  manifests := [⟨"manifest", "submission", 1, "assignment", "contributor", "run", "result", 1, "completion",
    "outcome", .needsRevision, false, .checkerRemediation, [⟨true, []⟩], 10⟩]
  preparations := []
  expirations := []
  exhaustions := []
  events := []
  clock := 10

def sampleNew (id : Uuid) (predecessorId : Option Uuid) (target : Option RevisionContextSnapshot) :
    Preparation where
  id := id
  assignmentId := "assignment"
  contributorId := "contributor"
  submissionId := "submission"
  routingManifestId := "manifest"
  predecessorId := predecessorId
  sequence := if predecessorId = none then 1 else 2
  sourceSubmissionVersion := 1
  nextRevisionRound := 1
  maxRevisionRounds := 2
  requestedAt := 10
  deadlineAt := none
  remainingMicroseconds := none
  clockObservedAt := none
  outcome := .blocked
  blockedReason := none
  candidate := ⟨sampleSnapshot, target, none, 2, 1, target.map (fun _ => 2)⟩
  previousTaskLineage := sampleLineage
  preparationSha256 := "sha256:preparation"
  repairActorId := predecessorId
  repairIdempotencyKey := predecessorId
  repairRequestDigest := predecessorId
  repairReason := predecessorId

def sampleClockSource : ClockSource :=
  ⟨samplePolicy, ⟨10, some (10 + 3600000000), false⟩, false, true⟩

def samplePaused : Preparation :=
  (sampleNew "root" none none).withClock 12 ⟨none, some 3600000000, some .contextBlocked⟩

def sampleResumed : Preparation :=
  (sampleNew "child" (some "root") (some sampleSnapshot)).withClock 50 ⟨some (50 + 3600000000), none, none⟩

theorem sampleChain : ClockChain sampleClockSource [sampleResumed, samplePaused] := by
  have hroot : projectRevisionPreparationClock sampleClockSource none 12 (sampleNew "root" none none) =
      .ok samplePaused := rfl
  have hchild : projectRevisionPreparationClock sampleClockSource (some samplePaused) 50
      (sampleNew "child" (some "root") (some sampleSnapshot)) = .ok sampleResumed := rfl
  refine .successor (.root rfl (by decide) hroot) rfl ?_ hchild
  intro earlier hearlier
  cases hearlier
  decide

theorem clockChain_conserves_allowance_sampleChain :
    runningMicroseconds sampleClockSource [sampleResumed, samplePaused] + sampleResumed.balance =
      3600000000 := by
  have hsrc : sampleRouted.clockSource (some "manifest") "manifest" = some sampleClockSource := rfl
  exact (clockChain_conserves_allowance hsrc rfl sampleChain).1 _ _ List.suffix_rfl

end Workstream.Revision
