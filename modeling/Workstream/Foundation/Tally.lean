import Mathlib.Algebra.GroupWithZero.Nat
import Mathlib.Algebra.BigOperators.Group.List.Basic

/-!
# Sums over a list whose entries change one at a time
-/

namespace Foundation

variable {α : Type}

/-- The sum of a weight over a list. -/
def tally (weight : α → ℕ) (xs : List α) : ℕ := (xs.map weight).sum

variable {weight : α → ℕ} {xs : List α} {i : ℕ} {x : α}

@[simp] theorem tally_nil : tally weight [] = 0 := rfl

@[simp] theorem tally_cons : tally weight (x :: xs) = weight x + tally weight xs := by
  simp [tally]

@[simp] theorem tally_append (ys : List α) :
    tally weight (xs ++ ys) = tally weight xs + tally weight ys := by
  simp [tally]

theorem tally_set (weight : α → ℕ) (h : xs[i]? = some x) (y : α) :
    tally weight (xs.set i y) + weight x = tally weight xs + weight y := by
  induction xs generalizing i with
  | nil => simp at h
  | cons z xs ih =>
    cases i with
    | zero =>
      obtain rfl : z = x := by simpa using h
      simp only [List.set_cons_zero, tally_cons]
      omega
    | succ i =>
      have hrest := ih (by simpa using h)
      simp only [List.set_cons_succ, tally_cons]
      omega

theorem tally_eraseIdx (weight : α → ℕ) (h : xs[i]? = some x) :
    tally weight (xs.eraseIdx i) + weight x = tally weight xs := by
  induction xs generalizing i with
  | nil => simp at h
  | cons z xs ih =>
    cases i with
    | zero =>
      obtain rfl : z = x := by simpa using h
      simp only [List.eraseIdx_cons_zero, tally_cons]
      omega
    | succ i =>
      have hrest := ih (by simpa using h)
      simp only [List.eraseIdx_cons_succ, tally_cons]
      omega

theorem weight_le_tally (weight : α → ℕ) (h : x ∈ xs) : weight x ≤ tally weight xs := by
  obtain ⟨i, hi⟩ := List.mem_iff_getElem?.mp h
  have herase := tally_eraseIdx weight hi
  omega

theorem tally_eq_zero (h : ∀ x ∈ xs, weight x = 0) : tally weight xs = 0 :=
  List.sum_eq_zero fun n hn => by
    obtain ⟨x, hx, rfl⟩ := List.mem_map.mp hn
    exact h x hx

end Foundation
