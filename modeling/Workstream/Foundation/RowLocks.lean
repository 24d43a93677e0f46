import Workstream.Foundation.Runs
import Mathlib.Logic.Relation

/-!
# Transactions under one lock

Transactions on a store, each a list of statements and an end. The first statement waits for a lock that
is held until the end; the statements read the guarded part of the store and the clock, and only the end
of a transaction writes the guarded part.
-/

namespace Foundation

/-- The transactions and the free actions of a store. -/
structure Locking (σ γ τ μ φ : Type) where
  guarded : σ → γ
  /-- The time of the last write of the guarded part. -/
  stamp : γ → Nat
  /-- The time from which a transaction may start. -/
  since : τ → Nat
  init : τ → μ
  statements : τ → List (γ → Nat → μ → μ)
  finish : τ → μ → Nat → σ → σ
  free : φ → Nat → σ → σ

/-- A transaction that holds the lock: what it has executed, when, and what it remembers. -/
structure Session (γ τ μ : Type) where
  tx : τ
  executed : List (γ → Nat → μ → μ)
  rest : List (γ → Nat → μ → μ)
  times : List Nat
  memory : μ

/-- A store with a lock, the clock, and the holder of the lock. -/
structure Locked (σ γ τ μ : Type) where
  store : σ
  clock : Nat
  holder : Option (Session γ τ μ)

/-- Time, work outside the lock, and the statements of a transaction. -/
inductive LockAction (τ φ : Type) where
  | tick (n : Nat)
  | free (a : φ)
  | lock (tx : τ)
  | next
  | finish
  | abort

variable {σ γ τ μ φ : Type}

/-- One action; the lock is taken only while it is free. -/
def lockStep (L : Locking σ γ τ μ φ) (m : Locked σ γ τ μ) : LockAction τ φ → Locked σ γ τ μ
  | .tick n => { m with clock := m.clock + n }
  | .free a => { m with store := L.free a m.clock m.store }
  | .lock tx =>
    match m.holder with
    | none =>
      if L.since tx ≤ m.clock then { m with holder := some ⟨tx, [], L.statements tx, [], L.init tx⟩ }
      else m
    | some _ => m
  | .next =>
    match m.holder with
    | some ⟨tx, executed, statement :: rest, times, memory⟩ =>
      { m with holder := some ⟨tx, executed ++ [statement], rest, times ++ [m.clock],
          statement (L.guarded m.store) m.clock memory⟩ }
    | _ => m
  | .finish =>
    match m.holder with
    | some ⟨tx, _, [], _, memory⟩ =>
      { m with store := L.finish tx memory m.clock m.store, holder := none }
    | _ => m
  | .abort => { m with holder := none }

/-- Statements that all read one guarded part, at the given times. -/
def exec (g : γ) : List (γ → Nat → μ → μ) → List Nat → μ → μ
  | statement :: rest, t :: times, m => exec g rest times (statement g t m)
  | _, _, m => m

theorem exec_append (g : γ) {executed : List (γ → Nat → μ → μ)} {times : List Nat}
    (hlength : executed.length = times.length) (statement : γ → Nat → μ → μ) (t : Nat) (m : μ) :
    exec g (executed ++ [statement]) (times ++ [t]) m = statement g t (exec g executed times m) := by
  induction executed generalizing times m with
  | nil =>
    cases times with
    | nil => rfl
    | cons t' times => cases hlength
  | cons s executed ih =>
    cases times with
    | nil => cases hlength
    | cons t' times => exact ih (Nat.succ.inj hlength) (s g t' m)

theorem exec_invariant {P : μ → Prop} {g : γ} {statements : List (γ → Nat → μ → μ)} {times : List Nat}
    {m : μ} (hinit : P m)
    (hkeeps : ∀ statement ∈ statements, ∀ t ∈ times, ∀ m, P m → P (statement g t m)) :
    P (exec g statements times m) := by
  induction statements generalizing times m with
  | nil => exact hinit
  | cons statement statements ih =>
    cases times with
    | nil => exact hinit
    | cons t times =>
      refine ih (hkeeps statement (by simp) t (by simp) m hinit) ?_
      intro next hnext t' ht' m' hm'
      exact hkeeps next (by simp [hnext]) t' (by simp [ht']) m' hm'

/-- What free actions and ends keep: nothing in the store is from later than `before` says. -/
structure Lawful (L : Locking σ γ τ μ φ) (Before : σ → Nat → Prop) : Prop where
  mono : ∀ {s t t'}, Before s t → t ≤ t' → Before s t'
  stamp_le : ∀ {s t}, Before s t → L.stamp (L.guarded s) ≤ t
  free_guarded : ∀ a {s t}, Before s t → L.guarded (L.free a t s) = L.guarded s
  free_before : ∀ a {s t}, Before s t → Before (L.free a t s) t
  finish_before : ∀ tx times {s t}, Before s t → (∀ x ∈ times, x ≤ t) →
    Before (L.finish tx (exec (L.guarded s) (L.statements tx) times (L.init tx)) t s) t

/-- One step of the store without locks: a free action, or a whole transaction at once. -/
inductive Atomic (L : Locking σ γ τ μ φ) (Before : σ → Nat → Prop) (s : σ) : σ → Prop
  | free (a : φ) {t : Nat} (hbefore : Before s t) : Atomic L Before s (L.free a t s)
  | transaction (tx : τ) {times : List Nat} {t : Nat} (hbefore : Before s t)
      (hlength : (L.statements tx).length = times.length)
      (hsorted : (times ++ [t]).Pairwise (· ≤ ·))
      (hafter : ∀ x ∈ times, L.stamp (L.guarded s) ≤ x ∧ L.since tx ≤ x) :
      Atomic L Before s (L.finish tx (exec (L.guarded s) (L.statements tx) times (L.init tx)) t s)

/-- What the holder of the lock remembers is what its statements would read now. -/
structure Current (L : Locking σ γ τ μ φ) (m : Locked σ γ τ μ) (c : Session γ τ μ) : Prop where
  length : c.executed.length = c.times.length
  statements : c.executed ++ c.rest = L.statements c.tx
  sorted : (c.times ++ [m.clock]).Pairwise (· ≤ ·)
  after : ∀ x ∈ c.times, L.stamp (L.guarded m.store) ≤ x ∧ L.since c.tx ≤ x
  since : L.since c.tx ≤ m.clock
  memory : c.memory = exec (L.guarded m.store) c.executed c.times (L.init c.tx)

/-- The holder of the lock sees the store as it found it. -/
structure LockInvariant (L : Locking σ γ τ μ φ) (Before : σ → Nat → Prop) (m : Locked σ γ τ μ) :
    Prop where
  before : Before m.store m.clock
  current : ∀ c, m.holder = some c → Current L m c

section

variable {L : Locking σ γ τ μ φ} {Before : σ → Nat → Prop} {m : Locked σ γ τ μ} {c : Session γ τ μ}

theorem Current.times_le (h : Current L m c) : ∀ x ∈ c.times, x ≤ m.clock := by
  intro x hx
  have hsorted := (List.pairwise_append.mp h.sorted).2.2
  exact hsorted x hx m.clock (by simp)

theorem Current.keeps (h : Current L m c) {m' : Locked σ γ τ μ} (hclock : m.clock ≤ m'.clock)
    (hguarded : L.guarded m'.store = L.guarded m.store) : Current L m' c := by
  refine ⟨h.length, h.statements, ?_, by rw [hguarded]; exact h.after, Nat.le_trans h.since hclock,
    by rw [hguarded]; exact h.memory⟩
  have hparts := List.pairwise_append.mp h.sorted
  refine List.pairwise_append.mpr ⟨hparts.1, List.pairwise_singleton _ _, ?_⟩
  intro x hx y hy
  obtain rfl := List.mem_singleton.mp hy
  exact Nat.le_trans (h.times_le x hx) hclock

/-- The end of a transaction acts on the store at once. -/
theorem Current.atomic (h : Current L m c) (hbefore : Before m.store m.clock) (hrest : c.rest = []) :
    Atomic L Before m.store (L.finish c.tx c.memory m.clock m.store) := by
  have hall : c.executed = L.statements c.tx := by
    have hstatements := h.statements
    rwa [hrest, List.append_nil] at hstatements
  have hlength := h.length
  have hmemory := h.memory
  rw [hall] at hlength hmemory
  rw [hmemory]
  exact .transaction c.tx hbefore hlength h.sorted h.after

theorem lockStep_invariant (hL : Lawful L Before) (h : LockInvariant L Before m) (a : LockAction τ φ) :
    LockInvariant L Before (lockStep L m a) := by
  cases a with
  | tick =>
    refine ⟨hL.mono h.before (Nat.le_add_right _ _), ?_⟩
    intro c hc
    exact (h.current c hc).keeps (Nat.le_add_right _ _) rfl
  | free a =>
    refine ⟨hL.free_before a h.before, ?_⟩
    intro c hc
    exact (h.current c hc).keeps (Nat.le_refl _) (hL.free_guarded a h.before)
  | lock tx =>
    unfold lockStep
    dsimp only
    split
    · split
      · rename_i hsince
        refine ⟨h.before, ?_⟩
        intro c hc
        obtain rfl := Option.some.inj hc
        exact ⟨rfl, rfl, List.pairwise_singleton _ _, by simp, hsince, rfl⟩
      · exact h
    · exact h
  | next =>
    unfold lockStep
    dsimp only
    split
    · rename_i tx executed statement rest times memory hholder
      have hcurrent := h.current _ hholder
      refine ⟨h.before, ?_⟩
      intro c hc
      obtain rfl := Option.some.inj hc
      refine ⟨?_, ?_, ?_, ?_, hcurrent.since, ?_⟩
      · simp [hcurrent.length]
      · rw [List.append_assoc]
        exact hcurrent.statements
      · refine List.pairwise_append.mpr ⟨hcurrent.sorted, List.pairwise_singleton _ _, ?_⟩
        intro x hx y hy
        obtain rfl := List.mem_singleton.mp hy
        rcases List.mem_append.mp hx with hold | hnew
        · exact hcurrent.times_le x hold
        · exact Nat.le_of_eq (List.mem_singleton.mp hnew)
      · intro x hx
        rcases List.mem_append.mp hx with hold | hnew
        · exact hcurrent.after x hold
        · rw [List.mem_singleton.mp hnew]
          exact ⟨hL.stamp_le h.before, hcurrent.since⟩
      · rw [exec_append _ hcurrent.length, ← hcurrent.memory]
    · exact h
  | finish =>
    unfold lockStep
    dsimp only
    split
    · rename_i tx executed times memory hholder
      have hcurrent := h.current _ hholder
      have hall := hcurrent.statements
      rw [List.append_nil] at hall
      have hmemory := hcurrent.memory
      dsimp only at hall hmemory
      rw [hall] at hmemory
      refine ⟨?_, by simp⟩
      rw [hmemory]
      exact hL.finish_before tx times h.before hcurrent.times_le
    · exact h
  | abort => exact ⟨h.before, by simp [lockStep]⟩

/-- A step of the locked machine is at most one step of the store. -/
theorem lockStep_atomic (h : LockInvariant L Before m) (a : LockAction τ φ) :
    (lockStep L m a).store = m.store ∨ Atomic L Before m.store (lockStep L m a).store := by
  cases a with
  | tick | abort => exact .inl rfl
  | free a => exact .inr (.free a h.before)
  | lock =>
    unfold lockStep
    dsimp only
    split
    · split
      · exact .inl rfl
      · exact .inl rfl
    · exact .inl rfl
  | next =>
    unfold lockStep
    dsimp only
    split
    · exact .inl rfl
    · exact .inl rfl
  | finish =>
    unfold lockStep
    dsimp only
    split
    · rename_i tx executed times memory hholder
      exact .inr ((h.current _ hholder).atomic h.before rfl)
    · exact .inl rfl

theorem lockInvariant_init {s : σ} {t : Nat} (hinit : Before s t) :
    LockInvariant L Before ⟨s, t, none⟩ := by
  refine ⟨hinit, ?_⟩
  intro c hc
  cases hc

theorem run_lockInvariant (hL : Lawful L Before) {s : σ} {t : Nat} (hinit : Before s t)
    (actions : List (LockAction τ φ)) : LockInvariant L Before (run (lockStep L) ⟨s, t, none⟩ actions) :=
  run_invariant (lockInvariant_init hinit) (fun _ a h => lockStep_invariant hL h a) actions

/-- The store of every run of the locked machine is reached by atomic steps. -/
theorem run_atomic (hL : Lawful L Before) {s : σ} {t : Nat} (hinit : Before s t)
    (actions : List (LockAction τ φ)) :
    Relation.ReflTransGen (Atomic L Before) s (run (lockStep L) ⟨s, t, none⟩ actions).store := by
  refine run_relates (I := LockInvariant L Before)
    (R := fun m m' => Relation.ReflTransGen (Atomic L Before) m.store m'.store)
    (lockInvariant_init hinit) ?_ ?_ ?_ ?_ actions
  · exact fun m a h => lockStep_invariant hL h a
  · exact fun m => .refl
  · exact fun m m' m'' h h' => Relation.ReflTransGen.trans h h'
  · intro m a h
    rcases lockStep_atomic h a with hsame | hstep
    · rw [hsame]
    · exact .single hstep

end

end Foundation
