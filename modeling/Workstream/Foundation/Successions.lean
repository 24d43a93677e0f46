import Mathlib.Data.List.Chain

/-!
# Successions of records

Records that follow one another by naming the one before, where only the last may still be open.
-/

namespace Foundation

variable {α κ : Type}

structure Succession (parent : α → Option κ) (key : α → κ) (closed : α → Prop) (rows : List α) : Prop where
  first : ∀ r ∈ rows.head?, parent r = none
  linked : rows.IsChain (fun r r' => parent r' = some (key r) ∧ closed r)

namespace Succession

variable {parent : α → Option κ} {key : α → κ} {closed : α → Prop} {rows : List α} {row source : α}

theorem nil : Succession parent key closed [] :=
  ⟨by simp, .nil⟩

theorem singleton (h : parent row = none) : Succession parent key closed [row] :=
  ⟨by simpa using h, .singleton row⟩

theorem eq_nil_of_forall (h : Succession parent key closed rows) (hnone : ∀ r ∈ rows, parent r ≠ none) :
    rows = [] := by
  cases rows with
  | nil => rfl
  | cons r rows => exact absurd (h.first r rfl) (hnone r List.mem_cons_self)

theorem last_of_unnamed (h : Succession parent key closed rows) (hsource : source ∈ rows)
    (hfree : ∀ r ∈ rows, parent r ≠ some (key source)) : ∃ init, rows = init ++ [source] := by
  obtain ⟨init, rest, rfl⟩ := List.append_of_mem hsource
  cases rest with
  | nil => exact ⟨init, rfl⟩
  | cons next rest =>
    have hlink := (List.isChain_append_cons_cons.mp h.linked).2.1
    exact absurd hlink.1 (hfree next (by simp))

theorem append (h : Succession parent key closed rows) (hsource : source ∈ rows) (hclosed : closed source)
    (hfree : ∀ r ∈ rows, parent r ≠ some (key source)) (hparent : parent row = some (key source)) :
    Succession parent key closed (rows ++ [row]) := by
  obtain ⟨init, rfl⟩ := h.last_of_unnamed hsource hfree
  constructor
  · intro r hr
    refine h.first r ?_
    cases init with
    | nil => exact hr
    | cons r' init => exact hr
  · refine h.linked.append (.singleton row) (fun last hlast r hr => ?_)
    rw [List.getLast?_concat] at hlast
    obtain rfl := Option.some.inj hlast
    obtain rfl := Option.some.inj hr
    exact ⟨hparent, hclosed⟩

/-- Updates that keep links and keys, and closed records closed. -/
theorem map (h : Succession parent key closed rows) {g : α → α}
    (hparent : ∀ r ∈ rows, parent (g r) = parent r) (hkey : ∀ r ∈ rows, key (g r) = key r)
    (hclosed : ∀ r ∈ rows, closed r → closed (g r)) : Succession parent key closed (rows.map g) := by
  constructor
  · intro r hr
    rw [List.head?_map] at hr
    obtain ⟨old, hold, rfl⟩ := Option.map_eq_some_iff.mp hr
    rw [hparent old (List.mem_of_mem_head? hold)]
    exact h.first old hold
  · rw [List.isChain_map]
    refine h.linked.imp_of_mem_imp (fun r r' hr hr' hlink => ?_)
    rw [hparent r' hr', hkey r hr]
    exact ⟨hlink.1, hclosed r hr hlink.2⟩

/-- At most one record is open. -/
theorem countP_open_le_one [DecidablePred closed] (h : Succession parent key closed rows) :
    rows.countP (fun r => ¬closed r) ≤ 1 := by
  rcases List.eq_nil_or_concat rows with rfl | ⟨init, last, rfl⟩
  · exact Nat.zero_le _
  · rw [List.concat_eq_append] at h ⊢
    have hinit : init.countP (fun r => ¬closed r) = 0 := by
      apply List.countP_eq_zero.mpr
      intro r hr
      obtain ⟨start, rest, rfl⟩ := List.append_of_mem hr
      have hlinked := h.linked
      rw [List.append_assoc, List.cons_append] at hlinked
      cases rest with
      | nil | cons =>
        have hclosed := (List.isChain_append_cons_cons.mp hlinked).2.1.2
        simpa using hclosed
    rw [List.countP_append, hinit, Nat.zero_add]
    exact List.countP_le_length

end Succession

end Foundation
