import Workstream.Outbox.Fence
import Workstream.Outbox.Production
import Workstream.Foundation.RowLocks

/-!
# Delivery transactions under row locks

The locked transactions of the delivery owner and of the handlers' effects, statement by statement. Each
starts with `SELECT ... FOR UPDATE` of the event and keeps that lock until it ends; everything else,
unlocked reads included, goes on in between.
-/

namespace Workstream.Outbox
open Foundation

/-- A locked transaction. The task of its worker has what the unlocked part of the call prepared. -/
inductive Tx where
  | claim (worker : Nat) (claim : OutboxClaim) (readAt : Nat) (authority : Authority) (survives : Bool)
  | invoke (worker : Nat) (claim : OutboxClaim) (authority : Authority) (survives : Bool)
  | finalize (worker : Nat) (cause : FinalizationCause) (proposal : Proposal) (receipt : DeliveryReceipt)
      (first : Bool) (readAt : Nat) (authority : Authority) (survives : Bool)
  | effect (envelope : OutboxEventEnvelope) (survives : Bool)

/-- What a transaction has read so far. -/
structure Memory where
  event : Option OutboxEvent := none
  attempt : Option OutboxDeliveryAttempt := none
  lockedNow : Nat := 0
  consumedNow : Nat := 0
  observed : Option CommittedInvocationObservation := none

/-- The rows and the time of their last commit. -/
abbrev Guarded := Custody × Nat

namespace Statement

def lockEvent (claim : OutboxClaim) (g : Guarded) (_ : Nat) (m : Memory) : Memory :=
  { m with event := g.1.findEvent claim.eventId claim.projectId }

def lockAttempt (claim : OutboxClaim) (g : Guarded) (_ : Nat) (m : Memory) : Memory :=
  { m with attempt := g.1.findAttempt claim }

def databaseTime (_ : Guarded) (now : Nat) (m : Memory) : Memory := { m with lockedNow := now }

def consume (_ : Guarded) (now : Nat) (m : Memory) : Memory := { m with consumedNow := now }

def compare (sha256 : String → String) (envelope : OutboxEventEnvelope) (g : Guarded) (now : Nat)
    (m : Memory) : Memory :=
  { m with observed := observe sha256 g.1 envelope now }

end Statement

namespace Tx

def since : Tx → Nat
  | .claim _ _ readAt _ _ => readAt
  | .finalize _ _ _ _ _ readAt _ _ => readAt
  | _ => 0

def statements (sha256 : String → String) : Tx → List (Guarded → Nat → Memory → Memory)
  | .claim _ c _ _ _ => [Statement.lockEvent c, Statement.databaseTime, Statement.consume]
  | .invoke _ c _ _ =>
    [Statement.lockEvent c, Statement.lockAttempt c, Statement.databaseTime, Statement.consume]
  | .finalize _ _ _ receipt _ _ _ _ =>
    [Statement.lockEvent receipt.claim, Statement.lockAttempt receipt.claim, Statement.databaseTime,
      Statement.consume]
  | .effect envelope _ =>
    [Statement.lockEvent envelope.claim, Statement.lockAttempt envelope.claim,
      Statement.compare sha256 envelope]

def finish (sha256 : String → String) (d : OutboxDelivery) : Tx → Memory → Nat → State → State
  | .claim worker c readAt authority survives, m, t, s =>
    if s.tasks worker = .claiming c readAt then
      s.endClaim sha256 worker c m.event ⟨m.lockedNow, m.consumedNow, authority⟩ t survives
    else s
  | .invoke worker c authority survives, m, t, s =>
    if s.tasks worker = .idle then
      s.endInvoke sha256 d worker c m.event m.attempt ⟨m.lockedNow, m.consumedNow, authority⟩ t
        survives
    else s
  | .finalize worker cause proposal receipt first readAt authority survives, m, t, s =>
    if (s.tasks worker = .proposing cause proposal readAt ∧ receipt = proposal.receipt ∧ first = true) ∨
        (s.tasks worker = .replaying cause proposal receipt readAt ∧ first = false) then
      s.endFinalize sha256 d worker cause proposal receipt first m.event m.attempt
        ⟨m.lockedNow, m.consumedNow, authority⟩ t survives
    else s
  | .effect envelope survives, m, _, s =>
    s.endEffect envelope (fenceInvocation m.event m.attempt m.observed) survives

end Tx

def Task.readAt : Task → Nat
  | .idle => 0
  | .claiming _ readAt => readAt
  | .running _ _ readAt => readAt
  | .finalizing _ _ readAt => readAt
  | .proposing _ _ readAt => readAt
  | .replaying _ _ _ readAt => readAt

/-- What a worker does without a lock. -/
inductive FreeAction where
  | claim (worker : Nat) (eventId projectId : Uuid) (owner : String)
  | handlerEnds (worker : Nat) (h : HandlerRun)
  | finalize (worker : Nat) (claim : OutboxClaim) (cause : FinalizationCause)
  | finalizeRead (worker : Nat)
  | recover (worker : Nat) (eventId projectId : Uuid)
  | crash (worker : Nat)

def FreeAction.at (s : State) (t : Nat) : FreeAction → Action
  | .claim worker eventId projectId owner => .claim worker eventId projectId owner (t - s.clock)
  | .handlerEnds worker h => .handlerEnds worker h
  | .finalize worker c cause => .finalize worker c cause
  | .finalizeRead worker => .finalizeRead worker (t - max s.clock (s.tasks worker).readAt)
  | .recover worker eventId projectId => .recover worker eventId projectId (t - s.clock)
  | .crash worker => .crash worker

/-- The transactions of the delivery as sessions under a row lock. -/
def outboxLocking (sha256 : String → String) (d : OutboxDelivery) :
    Locking State Guarded Tx Memory FreeAction where
  guarded s := (s.rows, s.clock)
  stamp := Prod.snd
  since := Tx.since
  init _ := {}
  statements := Tx.statements sha256
  finish := Tx.finish sha256 d
  free a t s := step sha256 d s (a.at s t)

/-- Nothing in the state was read or committed later than the given time. -/
structure Before (s : State) (t : Nat) : Prop where
  clock : s.clock ≤ t
  tasks : ∀ worker, (s.tasks worker).readAt ≤ t

namespace Before

variable {s : State} {t : Nat}

theorem setTask (h : Before s t) (worker : Nat) {task : Task} (htask : task.readAt ≤ t) :
    Before (s.setTask worker task) t := by
  refine ⟨h.clock, ?_⟩
  intro w
  rw [setTask_tasks]
  split
  · exact htask
  · exact h.tasks w

theorem idle (h : Before s t) (worker : Nat) : Before (s.setTask worker .idle) t :=
  h.setTask worker (Nat.zero_le t)

theorem record (h : Before s t) (entries : List Entry) : Before (s.record entries) t :=
  ⟨h.clock, h.tasks⟩

theorem commit (h : Before s t) (w : Write) : Before (s.commit w t) t :=
  ⟨Nat.le_refl t, h.tasks⟩

end Before

theorem before_start (facts : EventFacts) : Before (start facts) facts.occurredAt :=
  ⟨Nat.le_refl _, fun _ => Nat.zero_le _⟩

section Ends

variable {sha256 : String → String} {d : OutboxDelivery} {s : State} {t : Nat}

theorem Before.endClaim (h : Before s t) (worker : Nat) (claim : OutboxClaim)
    (found : Option OutboxEvent) (i : TxInput) (survives : Bool) :
    Before (s.endClaim sha256 worker claim found i t survives) t := by
  unfold State.endClaim
  split
  · split
    · exact ((h.commit _).idle worker).record _
    · exact h.idle worker
  · exact h.idle worker

theorem Before.endInvoke (h : Before s t) (worker : Nat) (claim : OutboxClaim)
    (found : Option OutboxEvent) (attempt : Option OutboxDeliveryAttempt) {i : TxInput}
    (hconsumed : i.consumedNow ≤ t) (survives : Bool) :
    Before (s.endInvoke sha256 d worker claim found attempt i t survives) t := by
  unfold State.endInvoke
  split
  · split
    · refine ((h.commit _).setTask worker ?_).record _
      exact hconsumed
    · exact h
  · exact h

theorem Before.endFinalize (h : Before s t) (worker : Nat) (cause : FinalizationCause)
    (proposal : Proposal) (receipt : DeliveryReceipt) (first : Bool) (found : Option OutboxEvent)
    (attempt : Option OutboxDeliveryAttempt) {i : TxInput} (hlocked : i.lockedNow ≤ t)
    (survives : Bool) :
    Before (s.endFinalize sha256 d worker cause proposal receipt first found attempt i t survives) t := by
  unfold State.endFinalize
  split
  · exact (h.idle worker).record _
  · split
    · split
      · exact h.setTask worker hlocked
      · exact (h.idle worker).record _
    · exact (h.idle worker).record _
  · exact (h.idle worker).record _
  · split
    · exact ((h.commit _).idle worker).record _
    · exact (h.idle worker).record _

theorem Before.endEffect (h : Before s t) (envelope : OutboxEventEnvelope)
    (fence : Option CommittedInvocationObservation) (survives : Bool) :
    Before (s.endEffect envelope fence survives) t := by
  unfold State.endEffect
  split
  · split
    · exact h.record _
    · exact h
  · exact h

theorem exec_readings (g : Guarded) (tx : Tx) {times : List Nat} (htimes : ∀ x ∈ times, x ≤ t) :
    (exec g (tx.statements sha256) times {}).lockedNow ≤ t ∧
      (exec g (tx.statements sha256) times {}).consumedNow ≤ t := by
  refine exec_invariant (P := fun m : Memory => m.lockedNow ≤ t ∧ m.consumedNow ≤ t)
    ⟨Nat.zero_le t, Nat.zero_le t⟩ ?_
  intro statement hstatement x hx m hm
  have hxt := htimes x hx
  cases tx <;> simp only [Tx.statements, List.mem_cons, List.not_mem_nil, or_false] at hstatement <;>
    rcases hstatement with rfl | rfl | rfl | rfl <;>
    first | exact hm | exact ⟨hxt, hm.2⟩ | exact ⟨hm.1, hxt⟩

theorem Before.finish (h : Before s t) (tx : Tx) {m : Memory} (hlocked : m.lockedNow ≤ t)
    (hconsumed : m.consumedNow ≤ t) : Before (tx.finish sha256 d m t s) t := by
  cases tx with
  | claim worker claim readAt authority survives =>
    unfold Tx.finish
    dsimp only
    split
    · exact h.endClaim worker claim _ _ survives
    · exact h
  | invoke worker claim authority survives =>
    unfold Tx.finish
    dsimp only
    split
    · exact h.endInvoke worker claim _ _ hconsumed survives
    · exact h
  | finalize worker cause proposal receipt first readAt authority survives =>
    unfold Tx.finish
    dsimp only
    split
    · exact h.endFinalize worker cause proposal receipt first _ _ hlocked survives
    · exact h
  | effect envelope survives => exact h.endEffect envelope _ survives

theorem step_free (h : Before s t) (a : FreeAction) :
    (step sha256 d s (a.at s t)).rows = s.rows ∧ (step sha256 d s (a.at s t)).clock = s.clock ∧
      Before (step sha256 d s (a.at s t)) t := by
  cases a with
  | claim worker | recover worker =>
    have hnow : s.clock + (t - s.clock) = t := Nat.add_sub_cancel' h.clock
    unfold step FreeAction.at
    dsimp only
    split
    · split
      · exact ⟨rfl, rfl, h.setTask worker (Nat.le_of_eq hnow)⟩
      · exact ⟨rfl, rfl, h⟩
    · exact ⟨rfl, rfl, h⟩
  | handlerEnds worker handler =>
    unfold step FreeAction.at
    dsimp only
    split
    · rename_i claim envelope readAt htask
      have hreadAt := h.tasks worker
      rw [htask] at hreadAt
      refine ⟨rfl, rfl, (h.setTask worker ?_).record _⟩
      exact hreadAt
    · exact ⟨rfl, rfl, h⟩
  | finalize worker =>
    unfold step FreeAction.at
    dsimp only
    split
    · refine ⟨rfl, rfl, (h.setTask worker ?_).record _⟩
      exact h.clock
    · exact ⟨rfl, rfl, h⟩
  | finalizeRead worker =>
    unfold step FreeAction.at
    dsimp only
    split
    · rename_i claim cause readAt htask
      have hreadAt := h.tasks worker
      rw [htask] at hreadAt ⊢
      have hnow : max s.clock readAt + (t - max s.clock readAt) = t :=
        Nat.add_sub_cancel' (Nat.max_le.mpr ⟨h.clock, hreadAt⟩)
      split
      · exact ⟨rfl, rfl, h.setTask worker (Nat.le_of_eq hnow)⟩
      · exact ⟨rfl, rfl, (h.idle worker).record _⟩
    · exact ⟨rfl, rfl, h⟩
  | crash worker => exact ⟨rfl, rfl, (h.idle worker).record _⟩

end Ends

theorem outboxLocking_lawful (sha256 : String → String) (d : OutboxDelivery) :
    Lawful (outboxLocking sha256 d) Before where
  mono := by
    intro s t t' h hle
    exact ⟨Nat.le_trans h.clock hle, fun worker => Nat.le_trans (h.tasks worker) hle⟩
  stamp_le := fun h => h.clock
  free_guarded := by
    intro a s t h
    obtain ⟨hrows, hclock, -⟩ := @step_free sha256 d s t h a
    exact Prod.ext hrows hclock
  free_before := by
    intro a s t h
    exact (step_free h a).2.2
  finish_before := by
    intro tx times s t h htimes
    obtain ⟨hlocked, hconsumed⟩ := @exec_readings sha256 t (s.rows, s.clock) tx times htimes
    exact h.finish tx hlocked hconsumed

section Refinement

variable {sha256 : String → String} {d : OutboxDelivery} {s s' : State} {t : Nat}

/-- The choice that makes a transaction read the clock at the given times. -/
def TxChoice.at (s : State) (readAt lockedNow consumedNow t : Nat) (authority : Authority)
    (survives : Bool) : TxChoice where
  wait := lockedNow - max s.clock readAt
  consume := consumedNow - lockedNow
  commit := t - consumedNow
  authority := authority
  survives := survives

theorem input_at {readAt lockedNow consumedNow : Nat} (hclock : s.clock ≤ lockedNow)
    (hreadAt : readAt ≤ lockedNow) (hconsumed : lockedNow ≤ consumedNow) (t : Nat)
    (authority : Authority) (survives : Bool) :
    s.input readAt (.at s readAt lockedNow consumedNow t authority survives) =
      ⟨lockedNow, consumedNow, authority⟩ := by
  have hmax : max s.clock readAt ≤ lockedNow := Nat.max_le.mpr ⟨hclock, hreadAt⟩
  have hlocked : max s.clock readAt + (lockedNow - max s.clock readAt) = lockedNow :=
    Nat.add_sub_cancel' hmax
  unfold State.input TxChoice.at
  rw [hlocked, Nat.add_sub_cancel' hconsumed]

theorem committedAt_at {readAt lockedNow consumedNow : Nat} (hclock : s.clock ≤ lockedNow)
    (hreadAt : readAt ≤ lockedNow) (hconsumed : lockedNow ≤ consumedNow) (ht : consumedNow ≤ t)
    (authority : Authority) (survives : Bool) :
    s.committedAt readAt (.at s readAt lockedNow consumedNow t authority survives) = t := by
  have hmax : max s.clock readAt ≤ lockedNow := Nat.max_le.mpr ⟨hclock, hreadAt⟩
  have hlocked : max s.clock readAt + (lockedNow - max s.clock readAt) = lockedNow :=
    Nat.add_sub_cancel' hmax
  unfold State.committedAt TxChoice.at
  rw [hlocked, Nat.add_sub_cancel' hconsumed, Nat.add_sub_cancel' ht]

section Readings

variable {readAt lockedNow consumedNow : Nat} (hclock : s.clock ≤ lockedNow)
  (hreadAt : readAt ≤ lockedNow) (hconsumed : lockedNow ≤ consumedNow) (ht : consumedNow ≤ t)
  (authority : Authority) (survives : Bool)

include hclock hreadAt hconsumed ht

theorem step_claimTx_at {worker : Nat} {claim : OutboxClaim}
    (htask : s.tasks worker = .claiming claim readAt) :
    step sha256 d s (.claimTx worker (.at s readAt lockedNow consumedNow t authority survives)) =
      s.endClaim sha256 worker claim (s.rows.findEvent claim.eventId claim.projectId)
        ⟨lockedNow, consumedNow, authority⟩ t survives := by
  unfold step
  dsimp only
  rw [htask]
  dsimp only
  rw [input_at hclock hreadAt hconsumed, committedAt_at hclock hreadAt hconsumed ht]
  rfl

theorem stepFinalize_at (worker : Nat) (cause : FinalizationCause) (proposal : Proposal)
    (receipt : DeliveryReceipt) (first : Bool) :
    s.stepFinalize sha256 d worker cause proposal receipt first readAt
        (.at s readAt lockedNow consumedNow t authority survives) =
      s.endFinalize sha256 d worker cause proposal receipt first
        (s.rows.findEvent receipt.claim.eventId receipt.claim.projectId)
        (s.rows.findAttempt receipt.claim) ⟨lockedNow, consumedNow, authority⟩ t survives := by
  unfold State.stepFinalize
  rw [input_at hclock hreadAt hconsumed, committedAt_at hclock hreadAt hconsumed ht]
  rfl

omit hreadAt in
theorem step_invoke_at {worker : Nat} (claim : OutboxClaim) (htask : s.tasks worker = .idle) :
    step sha256 d s (.invoke worker claim (.at s s.clock lockedNow consumedNow t authority survives)) =
      s.endInvoke sha256 d worker claim (s.rows.findEvent claim.eventId claim.projectId)
        (s.rows.findAttempt claim) ⟨lockedNow, consumedNow, authority⟩ t survives := by
  unfold step
  dsimp only
  rw [htask]
  rw [input_at hclock hclock hconsumed, committedAt_at hclock hclock hconsumed ht]
  rfl

end Readings

theorem finish_eq_step (tx : Tx) {times : List Nat}
    (hlen : (tx.statements sha256).length = times.length)
    (hsorted : (times ++ [t]).Pairwise (· ≤ ·)) (hafter : ∀ x ∈ times, s.clock ≤ x ∧ tx.since ≤ x) :
    tx.finish sha256 d (exec (s.rows, s.clock) (tx.statements sha256) times {}) t s = s ∨
      ∃ a, tx.finish sha256 d (exec (s.rows, s.clock) (tx.statements sha256) times {}) t s =
        step sha256 d s a := by
  cases tx with
  | claim worker claim readAt authority survives =>
    match times, hlen with
    | [_, lockedNow, consumedNow], _ =>
      obtain ⟨hclock, hreadAt⟩ := hafter lockedNow (by simp)
      obtain ⟨-, ⟨hconsumed, -⟩, ht⟩ := by simpa using hsorted
      by_cases htask : s.tasks worker = .claiming claim readAt
      · right
        exact ⟨_, (if_pos htask).trans
          (step_claimTx_at hclock hreadAt hconsumed ht authority survives htask).symm⟩
      · left
        exact if_neg htask
  | invoke worker claim authority survives =>
    match times, hlen with
    | [_, _, lockedNow, consumedNow], _ =>
      obtain ⟨hclock, -⟩ := hafter lockedNow (by simp)
      obtain ⟨-, -, ⟨hconsumed, -⟩, ht⟩ := by simpa using hsorted
      by_cases htask : s.tasks worker = .idle
      · right
        exact ⟨_, (if_pos htask).trans
          (step_invoke_at hclock hconsumed ht authority survives claim htask).symm⟩
      · left
        exact if_neg htask
  | finalize worker cause proposal receipt first readAt authority survives =>
    match times, hlen with
    | [_, _, lockedNow, consumedNow], _ =>
      obtain ⟨hclock, hreadAt⟩ := hafter lockedNow (by simp)
      obtain ⟨-, -, ⟨hconsumed, -⟩, ht⟩ := by simpa using hsorted
      by_cases htask :
          (s.tasks worker = .proposing cause proposal readAt ∧ receipt = proposal.receipt ∧
            first = true) ∨ (s.tasks worker = .replaying cause proposal receipt readAt ∧ first = false)
      · right
        have hstep : step sha256 d s
            (.finalizeTx worker (.at s readAt lockedNow consumedNow t authority survives)) =
            s.stepFinalize sha256 d worker cause proposal receipt first readAt
              (.at s readAt lockedNow consumedNow t authority survives) := by
          unfold step
          dsimp only
          rcases htask with ⟨htask, rfl, rfl⟩ | ⟨htask, rfl⟩
          · rw [htask]
          · rw [htask]
        have hend := @stepFinalize_at sha256 d s t readAt lockedNow consumedNow hclock hreadAt
          hconsumed ht authority survives worker cause proposal receipt first
        exact ⟨_, (if_pos htask).trans (hstep.trans hend).symm⟩
      · left
        exact if_neg htask
  | effect envelope survives =>
    match times, hlen with
    | [_, _, observedNow], _ =>
      have hclock : s.clock ≤ observedNow := (hafter observedNow (by simp)).1
      right
      refine ⟨.effect envelope (observedNow - s.clock) survives, ?_⟩
      unfold step
      dsimp only
      rw [Nat.add_sub_cancel' hclock]
      rfl

/-- An atomic step of the store is an action of the delivery, or nothing. -/
theorem atomic_eq_step (h : Atomic (outboxLocking sha256 d) Before s s') :
    s' = s ∨ ∃ a, s' = step sha256 d s a := by
  cases h with
  | free a => exact .inr ⟨a.at s _, rfl⟩
  | transaction tx hbefore hlen hsorted hafter => exact finish_eq_step tx hlen hsorted hafter

theorem atomic_reaches_run (h : Relation.ReflTransGen (Atomic (outboxLocking sha256 d) Before) s s') :
    ∃ actions, s' = run (step sha256 d) s actions := by
  induction h with
  | refl => exact ⟨[], rfl⟩
  | tail _ hstep ih =>
    obtain ⟨earlier, rfl⟩ := ih
    rcases atomic_eq_step hstep with rfl | ⟨a, rfl⟩
    · exact ⟨earlier, rfl⟩
    · refine ⟨earlier ++ [a], ?_⟩
      rw [run_append]
      rfl

/-- The rows of an appended event, with no lock on them. -/
def unlocked (facts : EventFacts) : Locked State Guarded Tx Memory :=
  ⟨start facts, facts.occurredAt, none⟩

/-- The store of every locked run is reached by a run of atomic transactions. -/
theorem run_locked_refines (sha256 : String → String) (d : OutboxDelivery) (facts : EventFacts)
    (actions : List (LockAction Tx FreeAction)) :
    ∃ atomic, (run (lockStep (outboxLocking sha256 d)) (unlocked facts) actions).store =
      run (step sha256 d) (start facts) atomic :=
  atomic_reaches_run (run_atomic (outboxLocking_lawful sha256 d) (before_start facts) actions)

end Refinement

section Effects

variable {sha256 : String → String} {d : OutboxDelivery} {s s' : State}
  {envelope : OutboxEventEnvelope} {observation : CommittedInvocationObservation}

/-- The only step that logs an effect finds its invocation in the rows. -/
theorem StepTo.shown_of_effect (hstep : StepTo sha256 d s s')
    (hlog : s'.log = s.log ++ [.effect envelope observation]) : Shown sha256 s.rows envelope := by
  cases hstep with
  | quit hfail =>
    have hentries := List.append_cancel_left hlog
    cases hfail (.effect envelope observation) (by simp [hentries])
  | effect hnow hobs =>
    have hentries := List.append_cancel_left hlog
    simp only [List.cons.injEq, Entry.effect.injEq, and_true] at hentries
    rw [← hentries.1]
    exact (observe_eq_some hobs).1
  | _ => simp at hlog

variable {m : Locked State Guarded Tx Memory}

theorem lockStep_shown_of_effect (h : LockInvariant (outboxLocking sha256 d) Before m)
    {a : LockAction Tx FreeAction} (hlog : (lockStep (outboxLocking sha256 d) m a).store.log =
      m.store.log ++ [.effect envelope observation]) : Shown sha256 m.store.rows envelope := by
  rcases lockStep_atomic h a with hsame | hatomic
  · rw [hsame] at hlog
    simp at hlog
  · rcases atomic_eq_step hatomic with hstay | ⟨b, hstep⟩
    · rw [hstay] at hlog
      simp at hlog
    · rw [hstep] at hlog
      exact (step_stepTo m.store b).shown_of_effect hlog

/-- From the fence to the end of its transaction the rows show the invocation. -/
theorem shown_of_fence (h : LockInvariant (outboxLocking sha256 d) Before m)
    {c : Session Guarded Tx Memory} (hholder : m.holder = some c) {survives : Bool}
    (htx : c.tx = .effect envelope survives) (hrest : c.rest = [])
    (hfence : fenceInvocation c.memory.event c.memory.attempt c.memory.observed = some observation) :
    Shown sha256 m.store.rows envelope := by
  obtain ⟨tx, executed, rest, times, memory⟩ := c
  subst htx hrest
  obtain ⟨hlen, hstatements, -, -, -, hmem⟩ := h.current _ hholder
  rw [List.append_nil] at hstatements
  dsimp only at hlen hstatements hmem
  rw [hstatements] at hlen hmem
  match times, hlen with
  | [_, _, now], _ =>
    have hobs : memory.observed = observe sha256 m.store.rows envelope now := by
      rw [hmem]
      rfl
    unfold fenceInvocation at hfence
    split at hfence
    · rw [hobs] at hfence
      exact (observe_eq_some hfence).1
    · cases hfence

/-- Effects never land late. In every run of the statements of claims, invocations, finalizations,
recoveries and effect transactions: the order of commits is one of atomic transactions; an effect is
committed neither after its attempt is completed nor after a later claim; from its fence to its commit
the rows show its invocation, so its generation is the current one; and an observation is returned only
for an invocation that the rows show, in its lease. -/
theorem run_effects_fenced (sha256 : String → String) (d : OutboxDelivery) (facts : EventFacts)
    (actions : List (LockAction Tx FreeAction)) :
    let m := run (lockStep (outboxLocking sha256 d)) (unlocked facts) actions
    (∃ atomic, m.store = run (step sha256 d) (start facts) atomic) ∧
    (∀ before after envelope observation,
      m.store.log = before ++ .effect envelope observation :: after →
      (∀ worker receipt cause, .finalized worker receipt cause ∈ before →
        receipt.claim.claimGeneration ≠ envelope.claim.claimGeneration) ∧
      ∀ worker claim, .claimed worker claim ∈ before →
        claim.claimGeneration ≤ envelope.claim.claimGeneration) ∧
    (∀ c envelope survives observation, m.holder = some c → c.tx = .effect envelope survives →
      c.rest = [] →
      fenceInvocation c.memory.event c.memory.attempt c.memory.observed = some observation →
      Shown sha256 m.store.rows envelope) ∧
    (∀ a envelope observation, (lockStep (outboxLocking sha256 d) m a).store.log =
        m.store.log ++ [.effect envelope observation] →
      Shown sha256 m.store.rows envelope ∧
        m.store.rows.event.claimGeneration = envelope.claim.claimGeneration) ∧
    ∀ envelope now observation, observe sha256 m.store.rows envelope now = some observation →
      Shown sha256 m.store.rows envelope ∧ now < envelope.claim.claimExpiresAt := by
  intro m
  have hinvariant : LockInvariant (outboxLocking sha256 d) Before m :=
    run_lockInvariant (outboxLocking_lawful sha256 d) (before_start facts) actions
  obtain ⟨atomic, hatomic⟩ := run_locked_refines sha256 d facts actions
  refine ⟨⟨atomic, hatomic⟩, ?_, ?_, ?_, ?_⟩
  · intro before after envelope observation hlog
    have hfenced := run_fenced sha256 d facts atomic
    rw [← hatomic] at hfenced
    have hord := hfenced.ordered
    rw [show (run (lockStep (outboxLocking sha256 d)) (unlocked facts) actions).store.log = _ from hlog,
      List.pairwise_append] at hord
    have hfences : ∀ earlier ∈ before, earlier.Fences (.effect envelope observation) :=
      fun earlier hearlier => hord.2.2 earlier hearlier _ (by simp)
    refine ⟨?_, ?_⟩
    · intro worker receipt cause hfinalized
      exact (hfences _ hfinalized envelope observation rfl).1 worker receipt cause rfl
    · intro worker claim hclaimed
      exact (hfences _ hclaimed envelope observation rfl).2 worker claim rfl
  · intro c envelope survives observation hholder htx hrest hfence
    exact shown_of_fence hinvariant hholder htx hrest hfence
  · intro a envelope observation hlog
    have hshown := lockStep_shown_of_effect hinvariant hlog
    exact ⟨hshown, (matchesEvent_iff.mp hshown.event).2.2.2.2.1⟩
  · intro envelope now observation hobs
    obtain ⟨hshown, hlive, -⟩ := observe_eq_some hobs
    exact ⟨hshown, hlive⟩

/-- A claim, an invocation and an effect, statement by statement. The effect is committed after its lease
has ended, which the lock on the rows makes safe. -/
def sampleEffectRun : List (LockAction Tx FreeAction) :=
  let envelope := envelopeOf (appended (sampleFacts assignmentInvalidationEvent)) sampleClaim
  [.tick 1000000, .free (.claim 0 sampleClaim.eventId sampleClaim.projectId "worker-1"),
    .lock (.claim 0 sampleClaim 1000000 (.allowed "decision") true), .next, .next, .next, .finish,
    .lock (.invoke 0 sampleClaim (.allowed "decision") true), .next, .next, .next, .next, .finish,
    .lock (.effect envelope true), .next, .next, .next, .tick 400000000, .finish]

example : ((run (lockStep (outboxLocking (fun _ => sampleHash) productionOutboxDelivery))
    (unlocked (sampleFacts assignmentInvalidationEvent)) sampleEffectRun).store.log).length = 3 := by
  decide +kernel

end Effects

end Workstream.Outbox
