import Mathlib.Algebra.GroupWithZero.Nat

/-!
# Checked computations

Computations that stop with an error at the first check that fails.
-/

namespace Foundation

variable {ε α β : Type}

def require (condition : Prop) [Decidable condition] (error : ε) : Except ε Unit :=
  if condition then .ok () else .error error

def required (value : Option α) (error : ε) : Except ε α :=
  match value with
  | some a => .ok a
  | none => .error error

@[simp] theorem require_eq_ok {condition : Prop} [Decidable condition] {error : ε} {u : Unit} :
    require condition error = .ok u ↔ condition := by
  unfold require
  by_cases h : condition
  · simp [h]
  · simp [h]

@[simp] theorem required_eq_ok {value : Option α} {error : ε} {a : α} :
    required value error = .ok a ↔ value = some a := by
  cases value with
  | none | some => simp [required]

theorem bind_eq_ok {x : Except ε α} {f : α → Except ε β} {b : β} :
    (x >>= f) = .ok b ↔ ∃ a, x = .ok a ∧ f a = .ok b := by
  cases x with
  | error | ok => simp [bind, Except.bind]

theorem map_eq_ok {x : Except ε α} {f : α → β} {b : β} :
    x.map f = .ok b ↔ ∃ a, x = .ok a ∧ f a = b := by
  cases x with
  | error | ok => simp [Except.map]

@[simp] theorem mapError_eq_ok {δ : Type} {x : Except ε α} {f : ε → δ} {a : α} :
    x.mapError f = .ok a ↔ x = .ok a := by
  constructor
  · intro h
    cases x <;> cases h
    rfl
  · rintro rfl
    rfl

@[simp] theorem pure_eq_ok {a b : α} : (pure a : Except ε α) = .ok b ↔ a = b := by
  simp [pure, Except.pure]

/-- When each step of a checked computation succeeds, as one set of rules for `simp`. -/
theorem eq_ok :
    (∀ {ε α β : Type} {x : Except ε α} {f : α → Except ε β} {b : β},
      (x >>= f) = .ok b ↔ ∃ a, x = .ok a ∧ f a = .ok b) ∧
    (∀ {ε α : Type} {a b : α}, (pure a : Except ε α) = .ok b ↔ a = b) ∧
    (∀ {ε : Type} {condition : Prop} [Decidable condition] {error : ε} {u : Unit},
      require condition error = .ok u ↔ condition) ∧
    (∀ {ε α : Type} {value : Option α} {error : ε} {a : α},
      required value error = .ok a ↔ value = some a) ∧
    ∀ {α β : Type} {a a' : α} {b b' : β}, (a, b) = (a', b') ↔ a = a' ∧ b = b' :=
  ⟨bind_eq_ok, pure_eq_ok, require_eq_ok, required_eq_ok, Prod.ext_iff⟩

theorem forM_eq_ok {xs : List α} {f : α → Except ε Unit} {u : Unit} :
    xs.forM f = .ok u ↔ ∀ x ∈ xs, f x = .ok () := by
  induction xs with
  | nil => simp [pure, Except.pure]
  | cons x xs ih =>
    have hstep : (x :: xs).forM f = (f x >>= fun _ => xs.forM f) := rfl
    rw [hstep, bind_eq_ok, List.forall_mem_cons, ← ih]
    constructor
    · rintro ⟨⟨⟩, hx, hxs⟩
      exact ⟨hx, hxs⟩
    · rintro ⟨hx, hxs⟩
      exact ⟨(), hx, hxs⟩

/-- What every turn of a loop keeps, the loop keeps. -/
theorem foldlM_invariant {σ : Type} {f : σ → α → Except ε σ} {I : σ → Prop}
    (hstep : ∀ s a s', I s → f s a = .ok s' → I s') {xs : List α} {s s' : σ} (hs : I s)
    (h : xs.foldlM f s = .ok s') : I s' := by
  induction xs generalizing s with
  | nil =>
    obtain rfl := pure_eq_ok.mp h
    exact hs
  | cons x xs ih =>
    rw [List.foldlM_cons] at h
    obtain ⟨t, ht, hrest⟩ := bind_eq_ok.mp h
    exact ih (hstep s x t hs ht) hrest

/-- A computation that does not end in an error. -/
def Avoids (error : ε) (x : Except ε α) : Prop := x ≠ .error error

section

variable {error : ε}

@[simp] theorem avoids_ok (a : α) : Avoids error (.ok a : Except ε α) := by
  intro h
  cases h

@[simp] theorem avoids_error {other : ε} : Avoids error (.error other : Except ε α) ↔ other ≠ error := by
  simp [Avoids]

@[simp] theorem avoids_pure (a : α) : Avoids error (pure a) := avoids_ok a

@[simp] theorem avoids_require {condition : Prop} [Decidable condition] {other : ε} :
    Avoids error (require condition other) ↔ (other = error → condition) := by
  unfold require
  by_cases h : condition
  · simp [h]
  · simp [h]

@[simp] theorem avoids_required {value : Option α} {other : ε} :
    Avoids error (required value other) ↔ (other = error → value.isSome = true) := by
  cases value with
  | none | some => simp [required]

@[simp] theorem avoids_bind {x : Except ε α} {f : α → Except ε β} :
    Avoids error (x >>= f) ↔ Avoids error x ∧ ∀ a, x = .ok a → Avoids error (f a) := by
  cases x with
  | error e => simp [Avoids, bind, Except.bind]
  | ok a => simp [bind, Except.bind]

@[simp] theorem avoids_ite {condition : Prop} [Decidable condition] {x y : Except ε α} :
    Avoids error (if condition then x else y) ↔
      (condition → Avoids error x) ∧ (¬condition → Avoids error y) := by
  by_cases h : condition <;> simp [h]

theorem Avoids.bind {x : Except ε α} {f : α → Except ε β} (hx : Avoids error x)
    (hf : ∀ a, x = .ok a → Avoids error (f a)) : Avoids error (x >>= f) :=
  avoids_bind.mpr ⟨hx, hf⟩

@[simp] theorem avoids_map {x : Except ε α} {f : α → β} : Avoids error (x.map f) ↔ Avoids error x := by
  cases x with
  | error e => simp [Avoids, Except.map]
  | ok a => simp [Except.map]

@[simp] theorem avoids_functor_map {x : Except ε α} {f : α → β} :
    Avoids error (f <$> x) ↔ Avoids error x :=
  avoids_map

end

end Foundation
