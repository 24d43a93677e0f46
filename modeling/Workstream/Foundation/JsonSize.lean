import Mathlib.Algebra.GroupWithZero.Nat
import Workstream.Foundation.Json
import Workstream.Foundation.Utf8
import Mathlib.Algebra.Order.BigOperators.Group.List

/-!
# How many bytes a JSON text has

A value is folded from its leaves (`cata`).
-/

namespace Foundation

/-- The bytes of a text in UTF-8. -/
def byteCount (text : List Char) : ℕ := (text.flatMap utf8Char).length

@[simp] theorem byteCount_nil : byteCount [] = 0 := rfl

@[simp] theorem byteCount_cons (c : Char) (text : List Char) :
    byteCount (c :: text) = (utf8Char c).length + byteCount text := by
  simp [byteCount]

@[simp] theorem byteCount_append (text rest : List Char) :
    byteCount (text ++ rest) = byteCount text + byteCount rest := by
  simp [byteCount]

theorem length_utf8 (s : String) : (utf8 s).length = byteCount s.toList := rfl

theorem length_utf8Char_pos (c : Char) : 0 < (utf8Char c).length :=
  List.length_pos_of_ne_nil (utf8Char_ne_nil c)

theorem length_utf8Char_of_ascii {c : Char} (h : c.toNat ≤ 127) : (utf8Char c).length = 1 := by
  rw [utf8Char_eq, if_pos h]
  rfl

theorem byteCount_of_ascii {text : List Char} (h : ∀ c ∈ text, c.toNat ≤ 127) :
    byteCount text = text.length := by
  induction text with
  | nil => rfl
  | cons c text ih =>
    have hrest : ∀ d ∈ text, d.toNat ≤ 127 := fun d hd => h d (List.mem_cons_of_mem c hd)
    rw [byteCount_cons, length_utf8Char_of_ascii (h c List.mem_cons_self), ih hrest, List.length_cons]
    omega

theorem byteCount_intercalate (separator : List Char) (texts : List (List Char)) :
    byteCount (separator.intercalate texts) =
      byteCount separator * (texts.length - 1) + (texts.map byteCount).sum := by
  induction texts with
  | nil => rfl
  | cons first rest ih =>
    cases rest with
    | nil => simp
    | cons second rest =>
      rw [List.intercalate_cons_cons, byteCount_append, byteCount_append, ih]
      simp only [List.map_cons, List.sum_cons, List.length_cons, Nat.add_sub_cancel, Nat.mul_add]
      omega

namespace Json

section Cata

variable {α : Type} (leaf : Json → α) (arr : List α → α) (obj : List (String × α) → α)

mutual
/-- A value folded from its leaves. -/
def cata : Json → α
  | .arr items => arr (cataItems items)
  | .obj fields => obj (cataFields fields)
  | .null => leaf .null
  | .bool b => leaf (.bool b)
  | .num n => leaf (.num n)
  | .str s => leaf (.str s)

def cataItems : List Json → List α
  | [] => []
  | v :: vs => cata v :: cataItems vs

def cataFields : List (String × Json) → List (String × α)
  | [] => []
  | (k, v) :: rest => (k, cata v) :: cataFields rest
end

theorem cata_arr (items : List Json) :
    cata leaf arr obj (.arr items) = arr (items.map (cata leaf arr obj)) := by
  have hitems : cataItems leaf arr obj items = items.map (cata leaf arr obj) := by
    induction items with
    | nil => rfl
    | cons v vs ih => rw [cataItems, ih, List.map_cons]
  rw [cata, hitems]

theorem cata_obj (fields : List (String × Json)) :
    cata leaf arr obj (.obj fields) = obj (fields.map fun p => (p.1, cata leaf arr obj p.2)) := by
  have hfields : cataFields leaf arr obj fields = fields.map fun p => (p.1, cata leaf arr obj p.2) := by
    induction fields with
    | nil => rfl
    | cons p rest ih => rw [cataFields, ih, List.map_cons]
  rw [cata, hfields]

end Cata

theorem length_escape_le (c : Char) : byteCount (escape c) ≤ 6 * (utf8Char c).length := by
  have hpositive := length_utf8Char_pos c
  have hslash : (utf8Char '\\').length = 1 := by decide +kernel
  have hpair : ∀ d : Char, (utf8Char d).length = 1 →
      byteCount ['\\', d] ≤ 6 * (utf8Char c).length := by
    intro d hd
    rw [byteCount_cons, byteCount_cons, byteCount_nil, hslash, hd]
    omega
  have hdigit : ∀ n < 16, (utf8Char (Nat.digitChar n)).length = 1 := by decide +kernel
  unfold escape
  split_ifs
  iterate 7 exact hpair _ (by decide +kernel)
  · have hhigh := hdigit (c.toNat / 16) (by omega)
    have hlow := hdigit (c.toNat % 16) (Nat.mod_lt _ (by omega))
    have hfixed : byteCount ['\\', 'u', '0', '0'] = 4 := by decide +kernel
    simp only [byteCount_cons, byteCount_nil] at hfixed ⊢
    omega
  · rw [byteCount_cons, byteCount_nil]
    omega

theorem byteCount_renderString_le (s : String) :
    byteCount (renderString s) ≤ 6 * (utf8 s).length + 2 := by
  have hescaped : ∀ cs : List Char, byteCount (cs.flatMap escape) ≤ 6 * byteCount cs := by
    intro cs
    induction cs with
    | nil => exact Nat.le_refl _
    | cons c cs ih =>
      have hhead := length_escape_le c
      rw [List.flatMap_cons, byteCount_append, byteCount_cons]
      omega
  have hbody := hescaped s.toList
  have hquote : (utf8Char '"').length = 1 := by decide +kernel
  simp only [renderString, List.cons_append, byteCount_cons, byteCount_append, byteCount_nil, hquote,
    length_utf8]
  omega

theorem byteCount_renderInt (n : ℤ) : byteCount (renderInt n) = (renderInt n).length := by
  have hdigits : ∀ m : ℕ, ∀ c ∈ Nat.toDigits 10 m, c.toNat ≤ 127 := by
    intro m c hc
    have hdigit := Nat.isDigit_of_mem_toDigits (by omega) (by omega) hc
    have hle : c ≤ '9' := by
      simp only [Char.isDigit, Bool.and_eq_true, decide_eq_true_eq] at hdigit
      exact hdigit.2
    exact Nat.le_trans (Char.le_def.mp hle) (by decide)
  refine byteCount_of_ascii fun c hc => ?_
  cases n with
  | ofNat n => exact hdigits n c hc
  | negSucc n =>
    rcases List.mem_cons.mp hc with rfl | hdigit
    · decide
    · exact hdigits (n + 1) c hdigit

/-- The bytes of a text in which every separator and every colon takes `gap` bytes. -/
def treeSize (gap : ℕ) : Json → ℕ :=
  cata (fun v => byteCount (render v)) (fun sizes => 2 + gap * (sizes.length - 1) + sizes.sum)
    (fun members => 2 + gap * (members.length - 1) +
      (members.map fun m => byteCount (renderString m.1) + gap + m.2).sum)

theorem treeSize_arr (gap : ℕ) (items : List Json) :
    treeSize gap (.arr items) = 2 + gap * (items.length - 1) + (items.map (treeSize gap)).sum := by
  rw [treeSize, cata_arr, List.length_map]

theorem treeSize_obj (gap : ℕ) (fields : List (String × Json)) :
    treeSize gap (.obj fields) = 2 + gap * (fields.length - 1) +
      (fields.map fun p => byteCount (renderString p.1) + gap + treeSize gap p.2).sum := by
  rw [treeSize, cata_obj, List.length_map, List.map_map]
  rfl

theorem render_arr (items : List Json) :
    render (.arr items) = '[' :: [','].intercalate (items.map render) ++ [']'] := by
  have hmore : ∀ vs : List Json, ∀ v, render v ++ renderMoreItems vs =
      [','].intercalate ((v :: vs).map render) ++ [']'] := by
    intro vs
    induction vs with
    | nil => intro v; simp [renderMoreItems]
    | cons w vs ih =>
      intro v
      rw [renderMoreItems, List.cons_append, ih w]
      simp [List.intercalate_cons_cons]
  cases items with
  | nil => rfl
  | cons v vs => rw [render, renderItems, hmore, List.cons_append]

theorem render_obj (fields : List (String × Json)) :
    render (.obj fields) =
      '{' :: [','].intercalate (fields.map fun p => renderString p.1 ++ ':' :: render p.2) ++ ['}'] := by
  have hmore : ∀ rest : List (String × Json), ∀ p : String × Json,
      renderString p.1 ++ ':' :: render p.2 ++ renderMoreFields rest =
        [','].intercalate ((p :: rest).map fun p => renderString p.1 ++ ':' :: render p.2) ++ ['}'] := by
    intro rest
    induction rest with
    | nil => intro p; simp [renderMoreFields]
    | cons q rest ih =>
      intro p
      have hq := ih q
      simp [renderMoreFields, List.intercalate_cons_cons, hq]
  cases fields with
  | nil => rfl
  | cons p rest => rw [render, renderFields, hmore, List.cons_append]

theorem byteCount_bracketed {opening closing : Char} (hopening : (utf8Char opening).length = 1)
    (hclosing : (utf8Char closing).length = 1) (separator : List Char) (texts : List (List Char)) :
    byteCount (opening :: separator.intercalate texts ++ [closing]) =
      2 + byteCount separator * (texts.length - 1) + (texts.map byteCount).sum := by
  rw [List.cons_append, byteCount_cons, byteCount_append, byteCount_intercalate, byteCount_cons,
    byteCount_nil, hopening, hclosing]
  omega

/-- The size of what a writer writes that puts the members of an object in some order. -/
theorem byteCount_writer {write : Json → List Char} {separator colon : List Char} {gap : ℕ}
    (hseparator : byteCount separator = gap) (hcolon : byteCount colon = gap)
    (hleaf : ∀ v, (∀ items, v ≠ .arr items) → (∀ fields, v ≠ .obj fields) → write v = render v)
    (harr : ∀ items, write (.arr items) = '[' :: separator.intercalate (items.map write) ++ [']'])
    (hobj : ∀ fields, ∃ members : List (String × List Char),
      members.Perm (fields.map fun p => (p.1, write p.2)) ∧ write (.obj fields) =
        '{' :: separator.intercalate (members.map fun m => renderString m.1 ++ colon ++ m.2) ++ ['}'])
    (v : Json) : byteCount (write v) = treeSize gap v := by
  induction v using Json.induction with
  | null | bool | num | str => rw [hleaf _ (by simp) (by simp)]; rfl
  | arr items ih =>
    have hsizes : (items.map write).map byteCount = items.map (treeSize gap) := by
      rw [List.map_map]
      exact List.map_congr_left ih
    rw [harr, byteCount_bracketed (by decide +kernel) (by decide +kernel), hseparator, hsizes,
      List.length_map, treeSize_arr]
  | obj fields ih =>
    obtain ⟨members, hperm, hwrite⟩ := hobj fields
    have hsizes : (fields.map fun p => (p.1, write p.2)).map
          (fun m => byteCount (renderString m.1 ++ colon ++ m.2)) =
        fields.map fun p => byteCount (renderString p.1) + gap + treeSize gap p.2 := by
      rw [List.map_map]
      refine List.map_congr_left fun p hp => ?_
      simp only [Function.comp_apply, byteCount_append, hcolon, ih p hp]
    have hsum := (hperm.map fun m => byteCount (renderString m.1 ++ colon ++ m.2)).sum_eq
    have hlength := hperm.length_eq
    rw [List.length_map] at hlength
    rw [hwrite, byteCount_bracketed (by decide +kernel) (by decide +kernel), hseparator, List.map_map,
      List.length_map, hlength, treeSize_obj, ← hsizes, ← hsum]
    rfl

/-- The canonical text has one byte for every separator and every colon. -/
theorem length_utf8_dumps (v : Json) : (utf8 v.dumps).length = treeSize 1 v := by
  rw [length_utf8, dumps, String.toList_ofList]
  refine @byteCount_writer (fun v => render v.canon) [','] [':'] 1 (by decide +kernel) (by decide +kernel)
    ?_ (fun items => ?_) (fun fields => ?_) v
  · intro v harr hobj
    cases v <;> first | rfl | exact absurd rfl (harr _) | exact absurd rfl (hobj _)
  · rw [canon, canonItems_eq_map, render_arr, List.map_map]
    rfl
  · refine ⟨(sortFields (canonFields fields)).map fun p => (p.1, render p.2), ?_, ?_⟩
    · have hperm := (sortFields_perm (canonFields fields)).map fun p => (p.1, render p.2)
      rw [canonFields_eq_map, List.map_map] at hperm
      rwa [canonFields_eq_map]
    · simp only [canon, render_obj, List.map_map, Function.comp_def, List.append_assoc, List.cons_append,
        List.nil_append]

end Json
end Foundation
