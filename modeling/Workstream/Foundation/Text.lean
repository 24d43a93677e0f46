import Mathlib.Algebra.GroupWithZero.Nat
import Mathlib.Data.List.Basic

/-!
# Fixed words and decimal fields in text
-/

namespace Foundation

def dropWord : List Char → List Char → Option (List Char)
  | [], cs => some cs
  | _ :: _, [] => none
  | w :: word, c :: cs => if c = w then dropWord word cs else none

@[simp] theorem dropWord_append (word rest : List Char) : dropWord word (word ++ rest) = some rest := by
  induction word with
  | nil => rfl
  | cons w word ih => simp [dropWord, ih]

@[simp] theorem dropWord_cons (c : Char) (rest : List Char) : dropWord [c] (c :: rest) = some rest :=
  dropWord_append [c] rest

def pad (width n : Nat) : List Char :=
  List.replicate (width - (Nat.toDigits 10 n).length) '0' ++ Nat.toDigits 10 n

theorem isDigit_of_mem_pad {width n : Nat} {c : Char} (h : c ∈ pad width n) : c.isDigit = true := by
  rcases List.mem_append.mp h with hzero | hdigit
  · rw [List.eq_of_mem_replicate hzero]
    rfl
  · exact Nat.isDigit_of_mem_toDigits (by omega) (by omega) hdigit

theorem width_le_length_pad (width n : Nat) : width ≤ (pad width n).length := by
  simp only [pad, List.length_append, List.length_replicate]
  omega

theorem length_pad {width n : Nat} (hwidth : 0 < width) (h : n < 10 ^ width) :
    (pad width n).length = width := by
  have hlen : (Nat.toDigits 10 n).length ≤ width :=
    (Nat.length_toDigits_le_iff (by omega) hwidth).mpr h
  simp only [pad, List.length_append, List.length_replicate]
  omega

@[simp] theorem ofDigitChars_pad (width n : Nat) : Nat.ofDigitChars 10 (pad width n) 0 = n := by
  simp [pad, Nat.ofDigitChars_append]

def readFixed (width : Nat) (cs : List Char) : Option (Nat × List Char) :=
  let digits := cs.take width
  if digits.length = width ∧ digits.all Char.isDigit then
    some (Nat.ofDigitChars 10 digits 0, cs.drop width)
  else none

theorem readFixed_pad {width n : Nat} (hwidth : 0 < width) (h : n < 10 ^ width) (rest : List Char) :
    readFixed width (pad width n ++ rest) = some (n, rest) := by
  have hlen := length_pad hwidth h
  have htake : (pad width n ++ rest).take width = pad width n := List.take_left' hlen
  have hdrop : (pad width n ++ rest).drop width = rest := List.drop_left' hlen
  have hall : (pad width n).all Char.isDigit = true :=
    List.all_eq_true.mpr fun c hc => isDigit_of_mem_pad hc
  simp [readFixed, htake, hdrop, hlen, hall]

def readAtLeast (width : Nat) (cs : List Char) : Option (Nat × List Char) :=
  let digits := cs.takeWhile Char.isDigit
  if width ≤ digits.length then some (Nat.ofDigitChars 10 digits 0, cs.dropWhile Char.isDigit)
  else none

theorem readAtLeast_pad (width n : Nat) {c : Char} (hc : c.isDigit = false) (rest : List Char) :
    readAtLeast width (pad width n ++ c :: rest) = some (n, c :: rest) := by
  have hall : ∀ d ∈ pad width n, d.isDigit = true := fun d hd => isDigit_of_mem_pad hd
  have htake : (pad width n ++ c :: rest).takeWhile Char.isDigit = pad width n := by
    rw [List.takeWhile_append_of_pos hall, List.takeWhile_cons_of_neg (by simp [hc]), List.append_nil]
  have hdrop : (pad width n ++ c :: rest).dropWhile Char.isDigit = c :: rest := by
    rw [List.dropWhile_append_of_pos hall, List.dropWhile_cons_of_neg (by simp [hc])]
  simp [readAtLeast, htake, hdrop, width_le_length_pad]

end Foundation
