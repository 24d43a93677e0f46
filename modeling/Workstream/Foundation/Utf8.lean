import Mathlib.Data.List.Lex
import Mathlib.Data.Nat.Basic
import Mathlib.Data.String.Basic

/-!
# Byte order and code point order

A code that writes each letter as a nonempty word, and a smaller letter always as the smaller word
whatever follows the two, keeps the lexicographic order of texts (`flatMap_lt_iff`).
-/

namespace Foundation

section Codes

variable {α β : Type} [LinearOrder α] [LinearOrder β]

/-- A smaller letter is written as the smaller word, whatever follows. -/
def KeepsOrder (code : α → List β) : Prop :=
  ∀ a b : α, a < b → ∀ x y : List β, code a ++ x < code b ++ y

theorem append_lt_append_iff (word x y : List β) : word ++ x < word ++ y ↔ x < y := by
  induction word with
  | nil => rfl
  | cons c word ih => simpa [List.cons_lt_cons_iff] using ih

variable {code : α → List β}

theorem KeepsOrder.flatMap_lt (horder : KeepsOrder code) (hword : ∀ a, code a ≠ []) :
    ∀ s t : List α, s < t → s.flatMap code < t.flatMap code
  | s, [], h => absurd h (List.not_lt_nil s)
  | [], b :: t, _ => by
    obtain ⟨c, word, hcode⟩ := List.exists_cons_of_ne_nil (hword b)
    rw [List.flatMap_nil, List.flatMap_cons, hcode, List.cons_append]
    exact List.nil_lt_cons c _
  | a :: s, b :: t, h => by
    rw [List.flatMap_cons, List.flatMap_cons]
    rcases List.cons_lt_cons_iff.mp h with hlt | ⟨rfl, htail⟩
    · exact horder a b hlt _ _
    · exact (append_lt_append_iff _ _ _).mpr (horder.flatMap_lt hword s t htail)

/-- Texts compare as their codes do. -/
theorem KeepsOrder.flatMap_lt_iff (horder : KeepsOrder code) (hword : ∀ a, code a ≠ [])
    (s t : List α) : s.flatMap code < t.flatMap code ↔ s < t := by
  refine ⟨fun h => ?_, horder.flatMap_lt hword s t⟩
  rcases lt_trichotomy s t with hlt | rfl | hgt
  · exact hlt
  · exact absurd h (lt_irrefl _)
  · exact absurd h (lt_asymm (horder.flatMap_lt hword t s hgt))

end Codes

def utf8Char (c : Char) : List ℕ := (String.utf8EncodeChar c).map UInt8.toNat

/-- The bytes of a string. -/
def utf8 (s : String) : List ℕ := s.toList.flatMap utf8Char

theorem toNat_lt_of_char (c : Char) : c.toNat < 1114112 := by
  have hvalid : c.toNat < 55296 ∨ 57343 < c.toNat ∧ c.toNat < 1114112 := c.valid
  omega

theorem utf8Char_eq (c : Char) :
    utf8Char c =
      if c.toNat ≤ 127 then [c.toNat]
      else if c.toNat ≤ 2047 then [c.toNat / 64 + 192, c.toNat % 64 + 128]
      else if c.toNat ≤ 65535 then
        [c.toNat / 4096 + 224, c.toNat / 64 % 64 + 128, c.toNat % 64 + 128]
      else [c.toNat / 262144 + 240, c.toNat / 4096 % 64 + 128, c.toNat / 64 % 64 + 128,
        c.toNat % 64 + 128] := by
  have hmax := toNat_lt_of_char c
  have hbyte : ∀ n : ℕ, (UInt8.ofNat n).toNat = n % 256 := fun n => UInt8.toNat_ofNat'
  simp only [utf8Char, String.utf8EncodeChar, show c.val.toNat = c.toNat from rfl]
  split_ifs <;> simp only [List.map_cons, List.map_nil, hbyte, List.cons.injEq, and_true] <;> omega

theorem utf8Char_ne_nil (c : Char) : utf8Char c ≠ [] := by
  rw [utf8Char_eq]
  split_ifs <;> exact List.cons_ne_nil _ _

theorem utf8Char_keepsOrder : KeepsOrder utf8Char := by
  intro a b hlt x y
  have hab : a.toNat < b.toNat := hlt
  rw [utf8Char_eq, utf8Char_eq]
  split_ifs <;> simp only [List.cons_append, List.nil_append, List.cons_lt_cons_iff] <;> omega

/-- Strings compare by their bytes as by their code points. -/
theorem utf8_lt_iff (s t : String) : utf8 s < utf8 t ↔ s < t := by
  exact utf8Char_keepsOrder.flatMap_lt_iff utf8Char_ne_nil s.toList t.toList

theorem utf8_le_iff (s t : String) : utf8 s ≤ utf8 t ↔ s ≤ t := by
  rw [← not_lt, ← not_lt, utf8_lt_iff]

theorem utf8_injective {s t : String} (h : utf8 s = utf8 t) : s = t :=
  le_antisymm ((utf8_le_iff s t).mp h.le) ((utf8_le_iff t s).mp h.ge)

end Foundation
