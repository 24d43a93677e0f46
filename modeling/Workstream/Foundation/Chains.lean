import Mathlib.Data.List.MinMax

/-!
# Chains of records

Records that are numbered from one, each naming the one before it, where only the last may still be
open.
-/

namespace Foundation

variable {α κ : Type}

/-- A chain: its numbers, its links, and what is closed before its end. -/
structure Chained (number : α → Nat) (parent : α → Option κ) (key : α → κ) (closed : α → Bool)
    (rows : List α) : Prop where
  numbered : ∀ i r, rows[i]? = some r → number r = i + 1
  first : ∀ r, rows[0]? = some r → parent r = none
  linked : ∀ i r r', rows[i]? = some r → rows[i + 1]? = some r' → parent r' = some (key r)
  closed_before : ∀ i r, rows[i]? = some r → i + 1 < rows.length → closed r = true

theorem getElem?_singleton_eq_some {row r : α} {i : Nat} (h : [row][i]? = some r) : i = 0 ∧ r = row := by
  rw [List.getElem?_singleton] at h
  split at h
  · rename_i hzero
    exact ⟨hzero, (Option.some.inj h).symm⟩
  · cases h

namespace Chained

variable {number : α → Nat} {parent : α → Option κ} {key : α → κ} {closed : α → Bool} {rows : List α}

theorem nil : Chained number parent key closed [] where
  numbered := by intro i r h; cases h
  first := by intro r h; cases h
  linked := by intro i r r' h; cases h
  closed_before := by intro i r h; cases h

theorem singleton {row : α} (hnumber : number row = 1) (hparent : parent row = none) :
    Chained number parent key closed [row] where
  numbered := by
    intro i r h
    obtain ⟨rfl, rfl⟩ := getElem?_singleton_eq_some h
    exact hnumber
  first := by
    intro r h
    cases h
    exact hparent
  linked := by
    intro i r r' _ h
    cases h
  closed_before := by
    intro i r _ h
    simp at h

theorem last_of_open (h : Chained number parent key closed rows) {i : Nat} {r : α}
    (hr : rows[i]? = some r) (hopen : closed r ≠ true) : i + 1 = rows.length := by
  have hlt := (List.getElem?_eq_some_iff.mp hr).1
  by_contra hne
  exact hopen (h.closed_before i r hr (by omega))

theorem getElem?_of_argmax (h : Chained number parent key closed rows) {r : α}
    (hmax : rows.argmax number = some r) : rows[rows.length - 1]? = some r := by
  have hmem := List.argmax_mem hmax
  obtain ⟨i, hi⟩ := List.mem_iff_getElem?.mp hmem
  have hlt := (List.getElem?_eq_some_iff.mp hi).1
  have hend : rows[rows.length - 1]? = some rows[rows.length - 1] := List.getElem?_eq_getElem (by omega)
  have hle := List.le_of_mem_argmax (List.mem_of_getElem? hend) hmax
  rw [h.numbered _ _ hend, h.numbered _ _ hi] at hle
  have heq : i = rows.length - 1 := by omega
  rw [← heq]
  exact hi

theorem append (h : Chained number parent key closed rows) {last row : α}
    (hlast : rows[rows.length - 1]? = some last) (hclosed : closed last = true)
    (hnumber : number row = number last + 1) (hparent : parent row = some (key last)) :
    Chained number parent key closed (rows ++ [row]) := by
  have hlength := (List.getElem?_eq_some_iff.mp hlast).1
  have hnumberLast := h.numbered _ _ hlast
  have hold : ∀ i r, i < rows.length → (rows ++ [row])[i]? = some r → rows[i]? = some r := by
    intro i r hi hr
    rw [List.getElem?_append_left hi] at hr
    exact hr
  have hnew : ∀ i r, rows.length ≤ i → (rows ++ [row])[i]? = some r → i = rows.length ∧ r = row := by
    intro i r hi hr
    rw [List.getElem?_append_right hi] at hr
    obtain ⟨hzero, rfl⟩ := getElem?_singleton_eq_some hr
    exact ⟨by omega, rfl⟩
  refine ⟨?_, ?_, ?_, ?_⟩
  · intro i r hr
    by_cases hi : i < rows.length
    · exact h.numbered i r (hold i r hi hr)
    · obtain ⟨rfl, rfl⟩ := hnew i r (by omega) hr
      omega
  · intro r hr
    exact h.first r (hold 0 r (by omega) hr)
  · intro i r r' hr hr'
    by_cases hi : i + 1 < rows.length
    · exact h.linked i r r' (hold i r (by omega) hr) (hold (i + 1) r' hi hr')
    · obtain ⟨hi', rfl⟩ := hnew (i + 1) r' (by omega) hr'
      have hr := hold i r (by omega) hr
      have heq : rows.length - 1 = i := by omega
      rw [heq, hr] at hlast
      cases hlast
      exact hparent
  · intro i r hr hi
    rw [List.length_append, List.length_singleton] at hi
    have hr := hold i r (by omega) hr
    by_cases hi' : i + 1 < rows.length
    · exact h.closed_before i r hr hi'
    · have heq : rows.length - 1 = i := by omega
      rw [heq, hr] at hlast
      cases hlast
      exact hclosed

/-- Updates that keep numbers, links and keys, and closed records closed. -/
theorem map (h : Chained number parent key closed rows) {g : α → α}
    (hnumber : ∀ r ∈ rows, number (g r) = number r) (hparent : ∀ r ∈ rows, parent (g r) = parent r)
    (hkey : ∀ r ∈ rows, key (g r) = key r)
    (hclosed : ∀ r ∈ rows, closed r = true → closed (g r) = true) :
    Chained number parent key closed (rows.map g) := by
  have hget : ∀ (i : Nat) (r : α), (rows.map g)[i]? = some r → ∃ old, rows[i]? = some old ∧
      old ∈ rows ∧ g old = r := by
    intro i r hr
    rw [List.getElem?_map] at hr
    obtain ⟨old, hold, rfl⟩ := Option.map_eq_some_iff.mp hr
    exact ⟨old, hold, List.mem_of_getElem? hold, rfl⟩
  refine ⟨?_, ?_, ?_, ?_⟩
  · intro i r hr
    obtain ⟨old, hold, hmem, rfl⟩ := hget i r hr
    rw [hnumber old hmem]
    exact h.numbered i old hold
  · intro r hr
    obtain ⟨old, hold, hmem, rfl⟩ := hget 0 r hr
    rw [hparent old hmem]
    exact h.first old hold
  · intro i r r' hr hr'
    obtain ⟨old, hold, hmem, rfl⟩ := hget i r hr
    obtain ⟨old', hold', hmem', rfl⟩ := hget (i + 1) r' hr'
    rw [hparent old' hmem', hkey old hmem]
    exact h.linked i old old' hold hold'
  · intro i r hr hi
    obtain ⟨old, hold, hmem, rfl⟩ := hget i r hr
    rw [List.length_map] at hi
    exact hclosed old hmem (h.closed_before i old hold hi)

/-- At most one record is open. -/
theorem countP_open_le_one (h : Chained number parent key closed rows) :
    rows.countP (fun r => !closed r) ≤ 1 := by
  rcases List.eq_nil_or_concat rows with rfl | ⟨init, last, rfl⟩
  · exact Nat.zero_le _
  · rw [List.concat_eq_append] at h ⊢
    have hinit : init.countP (fun r => !closed r) = 0 := by
      apply List.countP_eq_zero.mpr
      intro r hr
      obtain ⟨i, hi⟩ := List.mem_iff_getElem?.mp hr
      have hlt := (List.getElem?_eq_some_iff.mp hi).1
      have hclosed := h.closed_before i r (by rw [List.getElem?_append_left hlt, hi])
        (by rw [List.length_append, List.length_singleton]; omega)
      simp [hclosed]
    rw [List.countP_append, hinit, Nat.zero_add]
    exact List.countP_le_length

end Chained

end Foundation
