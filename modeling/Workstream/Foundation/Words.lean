import Mathlib.Order.Defs.LinearOrder

/-!
# Checked arithmetic on 64-bit words

Unsigned words are natural numbers.
-/

namespace Foundation

def wordLimit : Nat := 18446744073709551616

def checkedAdd (a b : Nat) : Option Nat := if a + b < wordLimit then some (a + b) else none

def checkedSub (a b : Nat) : Option Nat := if b ≤ a then some (a - b) else none

def checkedMul (a b : Nat) : Option Nat := if a * b < wordLimit then some (a * b) else none

def clamp (value low high : Nat) : Nat :=
  if value < low then low else if high < value then high else value

@[simp] theorem checkedAdd_eq_some {a b c : Nat} :
    checkedAdd a b = some c ↔ a + b < wordLimit ∧ a + b = c := by
  unfold checkedAdd
  by_cases h : a + b < wordLimit
  · simp [h]
  · simp [h]

@[simp] theorem checkedSub_eq_some {a b c : Nat} :
    checkedSub a b = some c ↔ b ≤ a ∧ a - b = c := by
  unfold checkedSub
  by_cases h : b ≤ a
  · simp [h]
  · simp [h]

@[simp] theorem checkedMul_eq_some {a b c : Nat} :
    checkedMul a b = some c ↔ a * b < wordLimit ∧ a * b = c := by
  unfold checkedMul
  by_cases h : a * b < wordLimit
  · simp [h]
  · simp [h]

theorem le_clamp (value low high : Nat) (h : low ≤ high) : low ≤ clamp value low high := by
  unfold clamp
  split
  · exact Nat.le_refl low
  · split
    · exact h
    · omega

end Foundation
