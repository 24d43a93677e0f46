import Mathlib.Algebra.GroupWithZero.Nat
import Mathlib.Algebra.BigOperators.Group.List.Basic
import Mathlib.Data.List.Nodup

/-!
# Tables

A table is the list of its rows, each found by its key.
-/

namespace Foundation
namespace Table

variable {α κ : Type} [DecidableEq κ] (key : α → κ)

def find (rows : List α) (k : κ) : Option α := rows.find? (fun r => key r = k)

def replace (rows : List α) (row : α) : List α := rows.map fun r => if key r = key row then row else r

variable {key} {rows : List α} {row r : α} {k : κ}

theorem mem_append (h : r ∈ rows ++ [row]) : r ∈ rows ∨ r = row :=
  (List.mem_append.mp h).imp_right List.mem_singleton.mp

theorem forall_append {P : α → Prop} (h : ∀ r ∈ rows, P r) (hrow : P row) : ∀ r ∈ rows ++ [row], P r :=
  List.forall_mem_append.mpr ⟨h, List.forall_mem_singleton.mpr hrow⟩

theorem find_eq_some (h : find key rows k = some r) : r ∈ rows ∧ key r = k :=
  ⟨List.mem_of_find?_eq_some h, by simpa using List.find?_some h⟩

theorem find_eq_none : find key rows k = none ↔ ∀ r ∈ rows, key r ≠ k := by
  simp [find]

omit [DecidableEq κ] in
theorem not_mem_of_forall_ne (h : ∀ r ∈ rows, key r ≠ k) : k ∉ rows.map key := by
  intro hin
  obtain ⟨r, hr, heq⟩ := List.mem_map.mp hin
  exact h r hr heq

theorem not_mem_of_find_eq_none (h : find key rows k = none) : k ∉ rows.map key :=
  not_mem_of_forall_ne (find_eq_none.mp h)

theorem map_key_replace (rows : List α) (row : α) : (replace key rows row).map key = rows.map key := by
  rw [replace, List.map_map]
  apply List.map_congr_left
  intro r _
  by_cases h : key r = key row
  · simp [h]
  · simp [h]

theorem map_replace_of_eq {δ : Type} {g : α → δ} (h : ∀ r ∈ rows, key r = key row → g r = g row) :
    (replace key rows row).map g = rows.map g := by
  rw [replace, List.map_map]
  apply List.map_congr_left
  intro r hr
  by_cases hkey : key r = key row
  · rw [Function.comp_apply, if_pos hkey, h r hr hkey]
  · rw [Function.comp_apply, if_neg hkey]

theorem mem_replace (h : r ∈ replace key rows row) : r = row ∨ (r ∈ rows ∧ key r ≠ key row) := by
  obtain ⟨old, hold, rfl⟩ := List.mem_map.mp h
  by_cases hkey : key old = key row
  · exact .inl (if_pos hkey)
  · rw [if_neg hkey]
    exact .inr ⟨hold, hkey⟩

theorem forall_replace {P : α → Prop} (h : ∀ r ∈ rows, P r) (hrow : P row) :
    ∀ r ∈ replace key rows row, P r := by
  intro r hr
  rcases mem_replace hr with rfl | ⟨hold, -⟩
  · exact hrow
  · exact h r hold

theorem mem_replace_self {old : α} (hold : old ∈ rows) (hkey : key old = key row) :
    row ∈ replace key rows row :=
  List.mem_map.mpr ⟨old, hold, if_pos hkey⟩

theorem mem_replace_of_ne (hr : r ∈ rows) (hkey : key r ≠ key row) : r ∈ replace key rows row :=
  List.mem_map.mpr ⟨r, hr, if_neg hkey⟩

omit [DecidableEq κ] in
/-- Under a unique key, rows with one key are one row. -/
theorem eq_of_key_eq (hunique : (rows.map key).Nodup) {r' : α} (hr : r ∈ rows) (hr' : r' ∈ rows)
    (h : key r = key r') : r = r' :=
  List.inj_on_of_nodup_map hunique hr hr' h

theorem countP_le_add {p q s : α → Bool} (h : ∀ r ∈ rows, p r = true → q r = true ∨ s r = true) :
    rows.countP p ≤ rows.countP q + rows.countP s := by
  induction rows with
  | nil => exact Nat.zero_le _
  | cons row rows ih =>
    have hrest := ih (fun r hr => h r (List.mem_cons_of_mem _ hr))
    have hrow := h row (List.mem_cons_self ..)
    rw [List.countP_cons, List.countP_cons, List.countP_cons]
    by_cases hp : p row = true
    · rcases hrow hp with hq | hs
      · simp only [hp, hq, if_true]
        omega
      · simp only [hp, hs, if_true]
        omega
    · rw [if_neg hp]
      omega

omit [DecidableEq κ] in
theorem countP_le_one (hunique : (rows.map key).Nodup) {p : α → Bool}
    (h : ∀ r ∈ rows, ∀ r' ∈ rows, p r = true → p r' = true → key r = key r') : rows.countP p ≤ 1 := by
  induction rows with
  | nil => exact Nat.zero_le _
  | cons row rows ih =>
    rw [List.map_cons, List.nodup_cons] at hunique
    by_cases hrow : p row = true
    · have hrest : rows.countP p = 0 := by
        refine List.countP_eq_zero.mpr ?_
        intro r hr hp
        refine hunique.1 (List.mem_map.mpr ⟨r, hr, ?_⟩)
        exact h r (List.mem_cons_of_mem _ hr) row (List.mem_cons_self ..) hp hrow
      rw [List.countP_cons_of_pos hrow]
      omega
    · rw [List.countP_cons_of_neg hrow]
      refine ih hunique.2 ?_
      intro r hr r' hr'
      exact h r (List.mem_cons_of_mem _ hr) r' (List.mem_cons_of_mem _ hr')

theorem find_of_mem (hunique : (rows.map key).Nodup) (hr : r ∈ rows) : find key rows (key r) = some r := by
  cases h : find key rows (key r) with
  | none => exact absurd rfl (find_eq_none.mp h r hr)
  | some r' =>
    obtain ⟨hr', hkey⟩ := find_eq_some h
    rw [eq_of_key_eq hunique hr' hr hkey]

theorem find_replace_self {old : α} (hold : find key rows (key row) = some old) :
    find key (replace key rows row) (key row) = some row := by
  induction rows with
  | nil => cases hold
  | cons r rows ih =>
    by_cases hkey : key r = key row
    · simp [find, replace, hkey]
    · have hrest : find key rows (key row) = some old := by simpa [find, hkey] using hold
      simpa [find, replace, hkey] using ih hrest

theorem find_replace_of_ne (hne : k ≠ key row) :
    find key (replace key rows row) k = find key rows k := by
  induction rows with
  | nil => rfl
  | cons r rows ih =>
    by_cases hkey : key r = key row
    · have hk : key r ≠ k := by rw [hkey]; exact hne.symm
      simpa [find, replace, hkey, hk, hne.symm] using ih
    · by_cases hk : key r = k
      · simp [find, replace, hk, hne]
      · simpa [find, replace, hkey, hk] using ih

theorem replace_of_forall_ne (h : ∀ r ∈ rows, key r ≠ key row) : replace key rows row = rows := by
  conv_rhs => rw [← List.map_id rows]
  apply List.map_congr_left
  intro r hr
  rw [if_neg (h r hr), id]

/-- A column's sum after an update, against the replaced row. -/
theorem sum_replace {M : Type} [AddCommMonoid M] (f : α → M) (hunique : (rows.map key).Nodup)
    {old : α} (hold : old ∈ rows) (hkey : key old = key row) :
    ((replace key rows row).map f).sum + f old = (rows.map f).sum + f row := by
  induction rows with
  | nil => cases hold
  | cons r rows ih =>
    rw [List.map_cons, List.nodup_cons] at hunique
    by_cases hr : key r = key row
    · have hother : ∀ r' ∈ rows, key r' ≠ key row := by
        intro r' hr' h
        exact hunique.1 (List.mem_map.mpr ⟨r', hr', h.trans hr.symm⟩)
      have hsame : old = r := by
        rcases List.mem_cons.mp hold with h | h
        · exact h
        · exact absurd hkey (hother old h)
      have hrest := replace_of_forall_ne hother
      rw [replace] at hrest
      rw [replace, List.map_cons, if_pos hr, hrest, hsame, List.map_cons, List.map_cons,
        List.sum_cons, List.sum_cons, add_right_comm, add_comm (f row), add_right_comm, add_comm (f r)]
    · have hmem : old ∈ rows := by
        rcases List.mem_cons.mp hold with rfl | h
        · exact absurd hkey hr
        · exact h
      have hrest := ih hunique.2 hmem
      rw [replace] at hrest
      rw [replace, List.map_cons, if_neg hr, List.map_cons, List.map_cons, List.sum_cons, List.sum_cons,
        add_assoc, hrest, add_assoc]

theorem find_append_of_some (rows' : List α) (h : find key rows k = some r) :
    find key (rows ++ rows') k = some r := by
  rw [find, List.find?_append, ← find, h]
  rfl

theorem find_append_of_ne (h : key row ≠ k) : find key (rows ++ [row]) k = find key rows k := by
  rw [find, List.find?_append, List.find?_singleton, if_neg (by simpa using h), Option.or_none, find]

theorem find_append_self (h : key row ∉ rows.map key) :
    find key (rows ++ [row]) (key row) = some row := by
  have hnone : find key rows (key row) = none := by
    rw [find_eq_none]
    intro r hr heq
    exact h (List.mem_map.mpr ⟨r, hr, heq⟩)
  rw [find, List.find?_append, ← find, hnone, List.find?_singleton, if_pos (by simp)]
  rfl

omit [DecidableEq κ] in
theorem nodup_append (hunique : (rows.map key).Nodup) (h : key row ∉ rows.map key) :
    ((rows ++ [row]).map key).Nodup := by
  rw [List.map_append, List.map_singleton, ← List.concat_eq_append]
  exact hunique.concat h

theorem sum_filter_eq {M : Type} [AddCommMonoid M] (select : α → Bool) (f : α → M) (rows : List α) :
    ((rows.filter select).map f).sum = (rows.map (fun r => if select r then f r else 0)).sum := by
  induction rows with
  | nil => rfl
  | cons r rows ih =>
    by_cases h : select r = true
    · simp [h, ih]
    · simp [h, ih]

theorem sum_filter_ne {M : Type} [AddCommMonoid M] (f : α → M) (hunique : (rows.map key).Nodup)
    (hrow : row ∈ rows) :
    ((rows.filter (fun r => key r ≠ key row)).map f).sum + f row = (rows.map f).sum := by
  induction rows with
  | nil => cases hrow
  | cons r rows ih =>
    rw [List.map_cons, List.nodup_cons] at hunique
    obtain ⟨hfresh, hunique⟩ := hunique
    rcases List.mem_cons.mp hrow with rfl | hrest
    · have hkeep : rows.filter (fun r => key r ≠ key row) = rows := by
        apply List.filter_eq_self.mpr
        intro r hr
        apply decide_eq_true
        intro heq
        exact hfresh (List.mem_map.mpr ⟨r, hr, heq⟩)
      rw [List.filter_cons_of_neg (by simp), hkeep, List.map_cons, List.sum_cons, add_comm]
    · have hne : key r ≠ key row := by
        intro heq
        exact hfresh (List.mem_map.mpr ⟨row, hrest, heq.symm⟩)
      rw [List.filter_cons_of_pos (by simp [hne]), List.map_cons, List.map_cons, List.sum_cons,
        List.sum_cons, add_assoc, ih hunique hrest]

/-- An update that keeps a row in, or out of, a selection. -/
theorem sum_filter_replace {M : Type} [AddCommMonoid M] (select : α → Bool) (f : α → M)
    (hunique : (rows.map key).Nodup) {old : α} (hold : old ∈ rows) (hkey : key old = key row)
    (hselect : select row = select old) :
    (((replace key rows row).filter select).map f).sum + (if select old then f old else 0) =
      ((rows.filter select).map f).sum + (if select old then f row else 0) := by
  have hsum := sum_replace (fun r => if select r then f r else 0) hunique hold hkey
  rw [sum_filter_eq, sum_filter_eq]
  rwa [hselect] at hsum

end Table
end Foundation
