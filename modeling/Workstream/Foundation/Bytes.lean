import Mathlib.Data.List.Basic

/-!
# Byte strings

A file is the list of its bytes.
-/

namespace Foundation

abbrev Bytes := List UInt8

def slice (b : Bytes) (offset count : Nat) : Bytes := (b.drop offset).take count

def littleEndian : Bytes → Nat
  | [] => 0
  | byte :: bytes => byte.toNat + 256 * littleEndian bytes

def field (b : Bytes) (offset width : Nat) : Nat := littleEndian (slice b offset width)

def rfind (word : Bytes) : Bytes → Option Nat
  | [] => if word = [] then some 0 else none
  | byte :: bytes =>
    match rfind word bytes with
    | some position => some (position + 1)
    | none => if (byte :: bytes).take word.length = word then some 0 else none

theorem slice_length {b : Bytes} {offset count : Nat} (h : offset + count ≤ b.length) :
    (slice b offset count).length = count := by
  simp only [slice, List.length_take, List.length_drop]
  omega

theorem le_length_of_slice {b : Bytes} {offset count : Nat} (h : count ≤ (slice b offset count).length)
    (hpositive : 0 < count) : offset + count ≤ b.length := by
  simp only [slice, List.length_take, List.length_drop] at h
  omega

theorem drop_eq_slice_append (b : Bytes) (offset count : Nat) :
    b.drop offset = slice b offset count ++ b.drop (offset + count) := by
  rw [slice, ← List.drop_drop, List.take_append_drop]

theorem slice_drop (b : Bytes) (base offset count : Nat) :
    slice (b.drop base) offset count = slice b (base + offset) count := by
  rw [slice, slice, List.drop_drop]

theorem slice_slice (b : Bytes) {base size offset count : Nat} (h : offset + count ≤ size) :
    slice (slice b base size) offset count = slice b (base + offset) count := by
  simp only [slice, List.drop_take, List.drop_drop, List.take_take]
  rw [Nat.min_eq_left (by omega)]

theorem field_slice (b : Bytes) {base size offset width : Nat} (h : offset + width ≤ size) :
    field (slice b base size) offset width = field b (base + offset) width := by
  rw [field, field, slice_slice b h]

theorem drop_eq_slice {b : Bytes} {offset count : Nat} (h : offset + count = b.length) :
    b.drop offset = slice b offset count := by
  have hrest : b.drop (offset + count) = [] := List.drop_eq_nil_of_le (by omega)
  rw [drop_eq_slice_append b offset count, hrest, List.append_nil]

theorem slice_rfind {word b : Bytes} {position : Nat} (h : rfind word b = some position) :
    slice b position word.length = word := by
  induction b generalizing position with
  | nil =>
    simp only [rfind, Option.ite_none_right_eq_some, Option.some.injEq] at h
    simp [slice, h.1]
  | cons byte bytes ih =>
    simp only [rfind] at h
    cases hrest : rfind word bytes with
    | some later =>
      rw [hrest] at h
      cases h
      exact ih hrest
    | none =>
      rw [hrest] at h
      simp only [Option.ite_none_right_eq_some, Option.some.injEq] at h
      rw [← h.2]
      exact h.1

/-- The last occurrence in the end of a file is the last one in the file. -/
theorem rfind_of_drop {word b : Bytes} {base position : Nat} (hword : word ≠ [])
    (h : rfind word (b.drop base) = some position) : rfind word b = some (base + position) := by
  induction b generalizing base with
  | nil =>
    rw [List.drop_nil, rfind, if_neg hword] at h
    cases h
  | cons byte bytes ih =>
    cases base with
    | zero =>
      rw [Nat.zero_add]
      exact h
    | succ base => rw [rfind, ih h, Nat.succ_add]

end Foundation
