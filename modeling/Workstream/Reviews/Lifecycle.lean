import Workstream.Core
import Workstream.Foundation.Checks
import Workstream.Foundation.Runs
import Workstream.Foundation.Tables

/-!
# The joint lifecycle controller

`reviews/lifecycle/service.py` and `fence.py` with the triggers of their two tables: one controller row
and the history of its transitions. A transaction holds the advisory lock from its first read of the
controller to its end, so each operation is one step.
-/

namespace Workstream.Reviews
open Foundation

inductive JointLifecyclePhase
  | disabled
  | shadow
  | live
  | draining
deriving DecidableEq

def JointLifecyclePhase.text : JointLifecyclePhase → String
  | .disabled => "disabled"
  | .shadow => "shadow"
  | .live => "live"
  | .draining => "draining"

def edges : List (JointLifecyclePhase × JointLifecyclePhase) :=
  [(.disabled, .shadow), (.shadow, .live), (.shadow, .disabled), (.live, .draining), (.draining, .disabled)]

structure LifecycleTransitionCommand where
  operationId : Uuid
  singletonId : Uuid
  actorProfileId : Uuid
  identityLinkId : Uuid
  expectedGeneration : Nat
  currentPhase : JointLifecyclePhase
  targetPhase : JointLifecyclePhase
  reviewedManifestDigest : String
  deadline : Nat
  reason : String
  bounded : expectedGeneration < 9223372036854775807
  reasoned : 1 ≤ reason.length ∧ reason.length ≤ 512
  changes : currentPhase ≠ targetPhase
  genesis : expectedGeneration = 0 → currentPhase = .disabled
deriving DecidableEq

structure JointLifecycleTransition where
  id : Uuid
  operationId : Uuid
  singletonId : Uuid
  generation : Nat
  previousPhase : JointLifecyclePhase
  phase : JointLifecyclePhase
  command : LifecycleTransitionCommand
  observationsDigest : String
  authorizationDecisionEventId : Uuid
  createdAt : Nat

structure LifecycleTransitionReceipt where
  operationId : Uuid
  singletonId : Uuid
  generation : Nat
  phase : JointLifecyclePhase
  authorizationDecisionEventId : Uuid
  createdAt : Nat

def JointLifecycleTransition.receipt (row : JointLifecycleTransition) : LifecycleTransitionReceipt :=
  ⟨row.operationId, row.singletonId, row.generation, row.phase, row.authorizationDecisionEventId,
    row.createdAt⟩

structure JointLifecycleReleaseControl where
  id : Uuid
  phase : JointLifecyclePhase
  generation : Nat
  transitionId : Option Uuid

/-- The control row and its history. -/
structure Controller where
  control : JointLifecycleReleaseControl
  transitions : List JointLifecycleTransition

/-- `FIRST_CONTRIBUTION_MANIFEST_DIGEST`, as the triggers have it. -/
def firstContributionManifestDigest : String :=
  "sha256:3a6704c3c79c243f5a032f2db9c4f47080716dfef86928f53e0f20b4d6047273"

variable (sha256 : String → String)

/-- The digest of what a transition finds, which both the service and the trigger compute. -/
def observationsDigest (singletonId : Uuid) (generation : Nat) (phase : JointLifecyclePhase)
    (retained : Bool) : String :=
  canonicalJsonHash sha256 (.obj [("singleton_id", .str singletonId), ("generation", .num generation),
    ("phase", .str phase.text), ("retained_pre_authority_acceptance", .bool retained),
    ("manifest", .str firstContributionManifestDigest)])

inductive JointLifecycleError
  | unavailable (text : String)
  | denied
  | duplicateKey
  | integrity (text : String)

/-- `joint_lifecycle_new_effects_enabled` -/
def Controller.newEffectsEnabled (s : Controller) : Bool :=
  s.control.phase = .live ∧ 0 < s.control.generation ∧ ∃ t ∈ s.transitions,
    s.control.transitionId = some t.id ∧ t.singletonId = s.control.id ∧
      t.generation = s.control.generation ∧ t.phase = s.control.phase ∧
      t.command.reviewedManifestDigest = firstContributionManifestDigest

structure JointLifecycleControlFacts where
  singletonId : Uuid
  phase : JointLifecyclePhase
  generation : Nat
  newEffectsEnabled : Bool

def Controller.lockController (s : Controller) : Except JointLifecycleError JointLifecycleControlFacts := do
  let facts : JointLifecycleControlFacts :=
    ⟨s.control.id, s.control.phase, s.control.generation, s.newEffectsEnabled⟩
  require (facts.generation ≤ 9223372036854775807 ∧ (facts.generation = 0 → facts.phase = .disabled) ∧
    (facts.newEffectsEnabled → facts.phase = .live ∧ 0 < facts.generation))
    (.unavailable "lifecycle controller malformed")
  pure facts

/-- A participant acquires the fence of the generation it names. -/
def Controller.acquire (s : Controller) (expectedGeneration : Nat) :
    Except JointLifecycleError JointLifecycleControlFacts := do
  require (expectedGeneration ≤ 9223372036854775807) (.unavailable "lifecycle requires an exact generation")
  let facts ← s.lockController
  require (facts.generation = expectedGeneration)
    (.unavailable "lifecycle controller missing or generation changed")
  pure facts

/-- What a transition is told: the clock, AUTH's answers, whether an acceptance without authority is
retained, and what the triggers find of both. -/
structure Answers where
  now : Nat
  insertedAt : Nat
  authorized : Bool
  replayValid : Bool
  decision : Option Uuid
  evidence : Bool
  retained : Bool
  retainedAtCommit : Bool
  id : Uuid
  survives : Bool

def transitionValid (a : Answers) (t : JointLifecycleTransition) : Bool :=
  0 < t.generation ∧ t.generation = t.command.expectedGeneration + 1 ∧
    t.operationId = t.command.operationId ∧ t.singletonId = t.command.singletonId ∧
    t.previousPhase = t.command.currentPhase ∧ t.phase = t.command.targetPhase ∧
    (t.previousPhase, t.phase) ∈ edges ∧ t.createdAt < t.command.deadline ∧
    t.command.reviewedManifestDigest = firstContributionManifestDigest ∧
    (t.phase ≠ .live ∨ a.retainedAtCommit = false) ∧
    t.observationsDigest = observationsDigest sha256 t.singletonId (t.generation - 1) t.previousPhase
      a.retainedAtCommit ∧ a.evidence = true

/-- The insert of a history row, with the unique keys of its table. -/
def Controller.insertTransition (s : Controller) (t : JointLifecycleTransition) :
    Except JointLifecycleError Controller := do
  require (∀ other ∈ s.transitions, other.id ≠ t.id ∧ other.operationId ≠ t.operationId ∧
    (other.singletonId, other.generation) ≠ (t.singletonId, t.generation) ∧
    other.authorizationDecisionEventId ≠ t.authorizationDecisionEventId) .duplicateKey
  pure { s with transitions := s.transitions ++ [t] }

/-- The update of the controller row, through `guard_joint_lifecycle_control_change` and the deferred
closures of the history, of the controller and of the authority. -/
def Controller.advance (a : Answers) (s : Controller) (t : JointLifecycleTransition) :
    Except JointLifecycleError Controller := do
  let control := { s.control with phase := t.phase, generation := t.generation, transitionId := some t.id }
  require (control.generation = s.control.generation + 1 ∧ ∃ row ∈ s.transitions,
    control.transitionId = some row.id ∧ row.singletonId = s.control.id ∧
      row.generation = control.generation ∧ row.phase = control.phase ∧
      row.previousPhase = s.control.phase ∧ transitionValid sha256 a row = true)
    (.integrity "joint lifecycle transition custody invalid")
  require (transitionValid sha256 a t = true ∧ control.id = t.singletonId)
    (.integrity "joint lifecycle history closure invalid")
  require (∃ row ∈ s.transitions, control.transitionId = some row.id ∧ row.singletonId = control.id ∧
    row.generation = control.generation ∧ row.phase = control.phase ∧ transitionValid sha256 a row = true)
    (.integrity "joint lifecycle controller closure invalid")
  require (∃ row ∈ s.transitions, row.authorizationDecisionEventId = t.authorizationDecisionEventId ∧
    transitionValid sha256 a row = true) (.integrity "joint lifecycle authority closure invalid")
  pure { s with control }

def Controller.transition (a : Answers) (s : Controller) (command : LifecycleTransitionCommand) :
    Except JointLifecycleError (LifecycleTransitionReceipt × Controller) := do
  let current ← s.lockController
  require (a.authorized = true) .denied
  match Table.find JointLifecycleTransition.operationId s.transitions command.operationId with
  | some history =>
    require (history.command = command ∧ current.singletonId = history.singletonId)
      (.unavailable "lifecycle operation conflicts")
    require (a.replayValid = true) .denied
    pure (history.receipt, s)
  | none =>
    require (current.singletonId = command.singletonId ∧ current.generation = command.expectedGeneration ∧
      current.phase = command.currentPhase ∧ (current.phase, command.targetPhase) ∈ edges ∧
      command.reviewedManifestDigest = firstContributionManifestDigest ∧ a.now < command.deadline)
      (.unavailable "lifecycle transition unavailable")
    require (¬(command.targetPhase = .live ∧ a.retained = true))
      (.unavailable "pre-authority acceptance blocks lifecycle readiness")
    let decision ← required a.decision .denied
    let row : JointLifecycleTransition := {
      id := a.id
      operationId := command.operationId
      singletonId := current.singletonId
      generation := current.generation + 1
      previousPhase := current.phase
      phase := command.targetPhase
      command
      observationsDigest := observationsDigest sha256 current.singletonId current.generation
        current.phase a.retained
      authorizationDecisionEventId := decision
      createdAt := a.insertedAt }
    let s ← s.insertTransition row
    let s ← s.advance sha256 a row
    pure (row.receipt, s)

/-- The controller and what its callers were answered. -/
structure System where
  controller : Controller
  answered : List (LifecycleTransitionCommand × LifecycleTransitionReceipt)

/-- Genesis: disabled, and nothing on record. -/
def System.start (singletonId : Uuid) : System := ⟨⟨⟨singletonId, .disabled, 0, none⟩, []⟩, []⟩

/-- One command; one that is refused or rolled back leaves nothing. -/
def System.step (s : System) (call : Answers × LifecycleTransitionCommand) : System :=
  match s.controller.transition sha256 call.1 call.2 with
  | .ok (receipt, controller) =>
    if call.1.survives then ⟨controller, s.answered ++ [(call.2, receipt)]⟩ else s
  | .error _ => s

structure Follows (sha256 : String → String) (ts : List JointLifecycleTransition)
    (c : JointLifecycleReleaseControl) (t : JointLifecycleTransition) : Prop where
  fresh : ∀ other ∈ ts, other.id ≠ t.id ∧ other.operationId ≠ t.operationId ∧
    other.authorizationDecisionEventId ≠ t.authorizationDecisionEventId
  operation : t.operationId = t.command.operationId
  singleton : t.singletonId = c.id ∧ t.command.singletonId = c.id
  generation : t.generation = c.generation + 1 ∧ t.command.expectedGeneration = c.generation
  edge : t.previousPhase = c.phase ∧ t.command.targetPhase = t.phase ∧ (c.phase, t.phase) ∈ edges
  manifest : t.command.reviewedManifestDigest = firstContributionManifestDigest
  inTime : t.createdAt < t.command.deadline
  ready : ∃ retained, t.observationsDigest = observationsDigest sha256 c.id c.generation c.phase retained ∧
    (t.phase = .live → retained = false)

/-- The histories of the controller, with the row each leads to. -/
inductive Trail (sha256 : String → String) (singletonId : Uuid) :
    List JointLifecycleTransition → JointLifecycleReleaseControl → Prop
  | genesis : Trail sha256 singletonId [] ⟨singletonId, .disabled, 0, none⟩
  | next {ts c t} (before : Trail sha256 singletonId ts c) (follows : Follows sha256 ts c t) :
    Trail sha256 singletonId (ts ++ [t]) ⟨c.id, t.phase, t.generation, some t.id⟩

section Runs

variable {sha256}
variable {sha256 : String → String} {singletonId : Uuid} {s : Controller} {a : Answers}

/-- A transition answers from the history, or adds to it what may follow. -/
theorem transition_eq_ok {command : LifecycleTransitionCommand} {receipt : LifecycleTransitionReceipt}
    {s' : Controller} (h : s.transition sha256 a command = .ok (receipt, s')) :
    ∃ t ∈ s'.transitions, t.command = command ∧ t.receipt = receipt ∧
      (s' = s ∨ Follows sha256 s.transitions s.control t ∧
        s' = ⟨⟨s.control.id, t.phase, t.generation, some t.id⟩, s.transitions ++ [t]⟩) := by
  simp only [Controller.transition, Controller.lockController, eq_ok, exists_const] at h
  obtain ⟨_, ⟨-, rfl⟩, -, h⟩ := h
  split at h
  · rename_i history hfound
    simp only [eq_ok, exists_const] at h
    obtain ⟨⟨hcommand, -⟩, -, rfl, rfl⟩ := h
    exact ⟨history, (Table.find_eq_some hfound).1, hcommand, rfl, .inl rfl⟩
  · simp only [Controller.insertTransition, Controller.advance, eq_ok, exists_const] at h
    obtain ⟨⟨hsingleton, hgen, -, hedge, hmanifest, -⟩, hready, decision, -, _, ⟨hfresh, rfl⟩, _,
      ⟨-, ⟨hvalid, -⟩, -, -, rfl⟩, rfl, rfl⟩ := h
    simp only [transitionValid, decide_eq_true_eq] at hvalid
    refine ⟨_, List.mem_concat_self, rfl, rfl, .inr ⟨?_, rfl⟩⟩
    refine ⟨?_, rfl, ⟨rfl, hsingleton.symm⟩, ⟨rfl, hgen.symm⟩, ⟨rfl, rfl, hedge⟩, hmanifest,
      hvalid.2.2.2.2.2.2.2.1, a.retained, rfl, ?_⟩
    · intro other hother
      exact ⟨(hfresh other hother).1, (hfresh other hother).2.1, (hfresh other hother).2.2.2⟩
    · intro hlive
      exact Bool.eq_false_iff.mpr fun hretained => hready ⟨hlive, hretained⟩

theorem Trail.generation {ts c} (h : Trail sha256 singletonId ts c) : c.generation = ts.length := by
  induction h with
  | genesis => rfl
  | next _ follows ih =>
    rw [List.length_append, ← ih]
    exact follows.generation.1

theorem Trail.operations {ts c} (h : Trail sha256 singletonId ts c) :
    (∀ t ∈ ts, t.operationId = t.command.operationId) ∧
      (ts.map JointLifecycleTransition.operationId).Nodup := by
  induction h with
  | genesis => simp
  | next _ follows ih =>
    refine ⟨Table.forall_append ih.1 follows.operation, Table.nodup_append ih.2 ?_⟩
    intro hmem
    obtain ⟨other, hother, heq⟩ := List.mem_map.mp hmem
    exact (follows.fresh other hother).2.1 heq

theorem Trail.newEffectsEnabled_iff (h : Trail sha256 singletonId s.transitions s.control) :
    s.newEffectsEnabled = true ↔ s.control.phase = .live := by
  obtain ⟨control, transitions⟩ := s
  cases h with
  | genesis => simp [Controller.newEffectsEnabled]
  | @next ts c t _ follows =>
    simp only [Controller.newEffectsEnabled, decide_eq_true_eq]
    refine ⟨fun h => h.1, fun hlive => ⟨hlive, by rw [follows.generation.1]; exact Nat.succ_pos _, t,
      List.mem_append_right _ (List.mem_singleton_self t), rfl, follows.singleton.1, rfl, rfl,
      follows.manifest⟩⟩

/-- The controller is where its history leads, and callers were answered from it. -/
structure Governed (sha256 : String → String) (singletonId : Uuid) (s : System) : Prop where
  trail : Trail sha256 singletonId s.controller.transitions s.controller.control
  answered : ∀ answer ∈ s.answered, ∃ t ∈ s.controller.transitions, t.command = answer.1 ∧
    t.receipt = answer.2

theorem Governed.step {s : System} (h : Governed sha256 singletonId s)
    (call : Answers × LifecycleTransitionCommand) :
    Governed sha256 singletonId (s.step sha256 call) ∧
      s.controller.transitions <+: (s.step sha256 call).controller.transitions := by
  unfold System.step
  split
  · rename_i receipt controller hcall
    split
    · obtain ⟨t, ht, hcommand, hreceipt, rfl | ⟨hfollows, rfl⟩⟩ := transition_eq_ok hcall
      · exact ⟨⟨h.trail, Table.forall_append h.answered ⟨t, ht, hcommand, hreceipt⟩⟩, List.prefix_rfl⟩
      · refine ⟨⟨.next h.trail hfollows, Table.forall_append ?_ ⟨t, ht, hcommand, hreceipt⟩⟩,
          List.prefix_append _ _⟩
        intro answer hanswer
        obtain ⟨t', ht', hsame⟩ := h.answered answer hanswer
        exact ⟨t', List.mem_append_left _ ht', hsame⟩
    · exact ⟨h, List.prefix_rfl⟩
  · exact ⟨h, List.prefix_rfl⟩

/-- In every run of transition commands, repeated, stale or conflicting: the controller is where its
history leads, and the history only grows; an operation is answered with one receipt, for one command;
and a participant that acquires the fence is let through exactly in a live generation. -/
theorem lifecycle_governed (sha256 : String → String) (singletonId : Uuid)
    (earlier later : List (Answers × LifecycleTransitionCommand)) :
    let s := run (System.step sha256) (System.start singletonId) earlier
    let s' := run (System.step sha256) s later
    Trail sha256 singletonId s'.controller.transitions s'.controller.control ∧
      s.controller.transitions <+: s'.controller.transitions ∧
      (∀ command receipt command' receipt', (command, receipt) ∈ s'.answered →
        (command', receipt') ∈ s'.answered → command.operationId = command'.operationId →
        command = command' ∧ receipt = receipt') ∧
      ∀ generation facts, s'.controller.acquire generation = .ok facts →
        generation = s'.controller.transitions.length ∧
          (facts.newEffectsEnabled = true ↔ s'.controller.control.phase = .live) := by
  intro s s'
  have hs : Governed sha256 singletonId s :=
    run_invariant ⟨.genesis, by simp [System.start]⟩ (fun _ call h => (h.step call).1) earlier
  have hs' : Governed sha256 singletonId s' := run_invariant hs (fun _ call h => (h.step call).1) later
  refine ⟨hs'.trail, ?_, ?_, ?_⟩
  · exact run_relates (I := Governed sha256 singletonId)
      (R := fun s s' => s.controller.transitions <+: s'.controller.transitions) hs
      (fun _ call h => (h.step call).1) (fun _ => List.prefix_rfl) (fun _ _ _ => List.IsPrefix.trans)
      (fun _ call h => (h.step call).2) later
  · intro command receipt command' receipt' h h' hsame
    obtain ⟨t, ht, rfl, rfl⟩ := hs'.answered _ h
    obtain ⟨t', ht', rfl, rfl⟩ := hs'.answered _ h'
    obtain ⟨hops, hunique⟩ := hs'.trail.operations
    obtain rfl : t = t' :=
      Table.eq_of_key_eq hunique ht ht' ((hops t ht).trans (hsame.trans (hops t' ht').symm))
    exact ⟨rfl, rfl⟩
  · intro generation facts hacquire
    simp only [Controller.acquire, Controller.lockController, eq_ok, exists_const] at hacquire
    obtain ⟨-, _, ⟨-, rfl⟩, hgen, rfl⟩ := hacquire
    exact ⟨hgen.symm.trans hs'.trail.generation, hs'.trail.newEffectsEnabled_iff⟩

end Runs

def toShadow : LifecycleTransitionCommand where
  operationId := "first"
  singletonId := "controller"
  actorProfileId := "actor"
  identityLinkId := "link"
  expectedGeneration := 0
  currentPhase := .disabled
  targetPhase := .shadow
  reviewedManifestDigest := firstContributionManifestDigest
  deadline := 100
  reason := "release"
  bounded := by decide
  reasoned := by decide +kernel
  changes := by decide
  genesis := by decide

def toLive : LifecycleTransitionCommand :=
  { toShadow with
    operationId := "second", expectedGeneration := 1, currentPhase := .shadow, targetPhase := .live
    bounded := by decide, changes := by decide, genesis := by decide }

def sampleAnswers (id : Uuid) : Answers :=
  ⟨10, 11, true, true, some ("decision-" ++ id), true, false, false, id, true⟩

def sampleSystem : System :=
  run (System.step (fun _ => "")) (System.start "controller")
    [(sampleAnswers "1", toShadow), (sampleAnswers "2", toLive), (sampleAnswers "3", toLive)]

-- The controller goes live in two transitions; a repeated command is answered from the history.
example : sampleSystem.controller.newEffectsEnabled = true ∧
    sampleSystem.controller.control.generation = 2 ∧
    sampleSystem.answered.map (fun answer => answer.2.generation) = [1, 2, 2] := by
  decide +kernel

end Workstream.Reviews
