import Mathlib.Data.List.Basic

/-!
# Runs of a deterministic step function

A concurrent system is given by a total step function on states: the scheduler's choices (which party
moves, what it reads from outside) are the actions.
-/

namespace Foundation

variable {σ τ α β : Type}

/-- The state reached from `s` by the actions of a run, first to last. -/
def run (step : σ → α → σ) (s : σ) (actions : List α) : σ :=
  actions.foldl step s

@[simp] theorem run_nil (step : σ → α → σ) (s : σ) : run step s [] = s := rfl

@[simp] theorem run_cons (step : σ → α → σ) (s : σ) (a : α) (actions : List α) :
    run step s (a :: actions) = run step (step s a) actions := rfl

@[simp] theorem run_append (step : σ → α → σ) (s : σ) (first second : List α) :
    run step s (first ++ second) = run step (run step s first) second :=
  List.foldl_append

/-- What holds initially and is kept by every step holds in every reached state. -/
theorem run_invariant {step : σ → α → σ} {I : σ → Prop} {s : σ} (hinit : I s)
    (hstep : ∀ s a, I s → I (step s a)) (actions : List α) : I (run step s actions) := by
  induction actions generalizing s with
  | nil => exact hinit
  | cons a actions ih => exact ih (hstep s a hinit)

/-- A reflexive and transitive relation that every step from a good state keeps relates the
first state of a run to its last. -/
theorem run_relates {step : σ → α → σ} {I : σ → Prop} {R : σ → σ → Prop} {s : σ} (hinit : I s)
    (hstep : ∀ s a, I s → I (step s a)) (hrefl : ∀ s, R s s)
    (htrans : ∀ s t u, R s t → R t u → R s u) (hrel : ∀ s a, I s → R s (step s a))
    (actions : List α) : R s (run step s actions) := by
  induction actions generalizing s with
  | nil => exact hrefl s
  | cons a actions ih => exact htrans _ _ _ (hrel s a hinit) (ih (hstep s a hinit))

/-- When the steps that keep a strong property are exactly those after which a weaker one still holds,
the weaker one holds all along a run if and only if every step of the run is allowed. -/
theorem run_safe_iff {step : σ → α → σ} {I : σ → Prop} (Strong Safe : σ → Prop)
    {Allowed : σ → α → Prop} {s : σ} (hinit : I s) (hstep : ∀ s a, I s → I (step s a)) (hstrong : Strong s)
    (hsafe : ∀ s, I s → Strong s → Safe s)
    (hkeep : ∀ s a, I s → Strong s → Allowed s a → Strong (step s a))
    (hneed : ∀ s a, I s → Strong s → Safe (step s a) → Allowed s a) (actions : List α) :
    (∀ earlier later, actions = earlier ++ later → Safe (run step s earlier)) ↔
      ∀ earlier a later, actions = earlier ++ a :: later → Allowed (run step s earlier) a := by
  induction actions generalizing s with
  | nil =>
    refine ⟨fun _ earlier a later heq => absurd heq (by simp), fun _ earlier later heq => ?_⟩
    obtain ⟨rfl, -⟩ := List.append_eq_nil_iff.mp heq.symm
    exact hsafe s hinit hstrong
  | cons b actions ih =>
    have hrest : Allowed s b →
        ((∀ earlier later, actions = earlier ++ later → Safe (run step (step s b) earlier)) ↔
          ∀ earlier a later, actions = earlier ++ a :: later → Allowed (run step (step s b) earlier) a) :=
      fun hallowed => ih (hstep s b hinit) (hkeep s b hinit hstrong hallowed)
    constructor
    · intro h
      have hallowed : Allowed s b := hneed s b hinit hstrong (h [b] actions rfl)
      intro earlier a later heq
      cases earlier with
      | nil =>
        obtain ⟨rfl, -⟩ := List.cons.inj heq
        exact hallowed
      | cons c earlier =>
        obtain ⟨rfl, htail⟩ := List.cons.inj heq
        refine (hrest hallowed).mp (fun first second hsplit => ?_) earlier a later htail
        exact h (b :: first) second (by rw [hsplit]; rfl)
    · intro h earlier later heq
      cases earlier with
      | nil => exact hsafe s hinit hstrong
      | cons c earlier =>
        obtain ⟨rfl, htail⟩ := List.cons.inj heq
        refine (hrest (h [] b actions rfl)).mpr (fun first a second hsplit => ?_) earlier later htail
        exact h (b :: first) a second (by rw [hsplit]; rfl)

end Foundation
