import Workstream.ModelUsage.Runs

/-! # Totals under changes -/

namespace Workstream.ModelUsage
open Foundation

namespace ModelUsageEnvelopeTotals

instance : Zero ModelUsageEnvelopeTotals := ⟨⟨0, 0, 0, 0, 0, 0, 0, 0⟩⟩

instance : Add ModelUsageEnvelopeTotals where
  add s t :=
    ⟨s.dispatches + t.dispatches, s.pendingDispatches + t.pendingDispatches,
      s.reservedNanodollars + t.reservedNanodollars, s.settledNanodollars + t.settledNanodollars,
      s.requestBytes + t.requestBytes, s.responseBytes + t.responseBytes,
      s.inputTokens + t.inputTokens, s.outputTokens + t.outputTokens⟩

theorem zero_eq : (0 : ModelUsageEnvelopeTotals) = ⟨0, 0, 0, 0, 0, 0, 0, 0⟩ := rfl

theorem add_eq (s t : ModelUsageEnvelopeTotals) :
    s + t = ⟨s.dispatches + t.dispatches, s.pendingDispatches + t.pendingDispatches,
      s.reservedNanodollars + t.reservedNanodollars, s.settledNanodollars + t.settledNanodollars,
      s.requestBytes + t.requestBytes, s.responseBytes + t.responseBytes,
      s.inputTokens + t.inputTokens, s.outputTokens + t.outputTokens⟩ := rfl

instance : AddCancelCommMonoid ModelUsageEnvelopeTotals where
  add_assoc s t u := by simp only [add_eq, Nat.add_assoc]
  zero_add s := by simp only [add_eq, zero_eq, Nat.zero_add]
  add_zero s := by simp only [add_eq, zero_eq, Nat.add_zero]
  add_comm s t := by simp only [add_eq, Nat.add_comm]
  add_left_cancel s t u h := by
    simp only [add_eq, ModelUsageEnvelopeTotals.mk.injEq, Nat.add_left_cancel_iff] at h
    exact ModelUsageEnvelopeTotals.ext_iff.mpr h
  nsmul := nsmulRec

end ModelUsageEnvelopeTotals

/-- What one effect adds to totals. -/
def ModelUsageEffect.figures (e : ModelUsageEffect) : ModelUsageEnvelopeTotals :=
  ⟨e.dispatched, e.pending, e.outstanding, e.settled, e.requestByteCount, e.responseByteCount,
    e.inputTokens, e.outputTokens⟩

theorem totals_eq_sum (rows : List ModelUsageEffect) :
    totals rows = (rows.map ModelUsageEffect.figures).sum := by
  induction rows with
  | nil => rfl
  | cons row rows ih =>
    rw [List.map_cons, List.sum_cons, ← ih]
    rfl

section Selection

variable {l : Ledger} (admits : SlotView → Bool) {row row' : ModelUsageEffect} {view : SlotView}

theorem effectsWith_grow (hsound : l.Sound) {r : Registry} (g : l.toRegistry.Grows r) :
    Ledger.effectsWith { l with toRegistry := r } admits = l.effectsWith admits := by
  apply List.filter_congr
  intro row hrow
  obtain ⟨view, profile, howned, -⟩ := hsound.owned row hrow
  rw [g.view howned.view_eq, howned.view_eq]

theorem totals_effectsWith_addEffect (hrow : row.figures = 0) :
    totals (Ledger.effectsWith { l with effects := l.effects ++ [row] } admits) =
      totals (l.effectsWith admits) := by
  unfold Ledger.effectsWith
  rw [List.filter_append, totals_eq_sum, totals_eq_sum, List.map_append, List.sum_append]
  have hnew : ((List.filter (fun e => (l.slotView e.owner).any admits) [row]).map
      ModelUsageEffect.figures).sum = 0 := by
    rw [List.filter_singleton]
    cases (l.slotView row.owner).any admits with
    | true => simp [hrow]
    | false => rfl
  rw [hnew, add_zero]

theorem totals_effectsWith_putEffect (hsound : l.Sound) (hrow : row ∈ l.effects)
    (hid : row'.id = row.id) (howner : row'.owner = row.owner)
    (hview : l.slotView row.owner = some view) :
    totals ((l.putEffect row').effectsWith admits) + (if admits view then row.figures else 0) =
      totals (l.effectsWith admits) + (if admits view then row'.figures else 0) := by
  have hsel : (l.slotView row'.owner).any admits = (l.slotView row.owner).any admits := by
    rw [howner]
  have hsum := Table.sum_filter_replace (fun e => (l.slotView e.owner).any admits)
    ModelUsageEffect.figures hsound.effectIds hrow hid.symm hsel
  rw [hview, Option.any_some] at hsum
  rw [totals_eq_sum, totals_eq_sum]
  exact hsum

end Selection

section Figures

variable {e : ModelUsageEffect} {f : ProfileFields}

theorem ModelUsageEffect.Blank.figures (h : e.Blank) : e.figures = 0 := by
  unfold ModelUsageEffect.figures ModelUsageEffect.dispatched ModelUsageEffect.pending
    ModelUsageEffect.outstanding ModelUsageEffect.settled ModelUsageEffect.requestByteCount
    ModelUsageEffect.responseByteCount ModelUsageEffect.inputTokens ModelUsageEffect.outputTokens
  rw [h.state, h.requestEvidence, h.responseEvidence, h.usage, h.settled]
  rfl

namespace ModelUsageEffect.Shape

theorem figures_prepared (h : e.Shape f) (hstate : e.state = .prepared) : e.figures = 0 := by
  obtain ⟨hreq, hresv, hresp, husage, hsettled⟩ := h.of_prepared hstate
  exact ModelUsageEffect.Blank.figures ⟨hstate, hreq, hresv, hresp, husage, hsettled⟩

theorem figures_pending (h : e.Shape f) (hpend : e.state.isPending = true) :
    e.figures = ⟨1, 1, f.dispatchReservation, 0, e.requestByteCount, 0, 0, 0⟩ := by
  obtain ⟨hresv, hresp, husage, hsettled⟩ := h.of_pending hpend
  have hstate : e.state ≠ .prepared := by
    intro hstate
    rw [hstate] at hpend
    cases hpend
  unfold ModelUsageEffect.figures ModelUsageEffect.dispatched ModelUsageEffect.pending
    ModelUsageEffect.outstanding ModelUsageEffect.settled
    ModelUsageEffect.responseByteCount ModelUsageEffect.inputTokens ModelUsageEffect.outputTokens
  rw [if_neg hstate, if_pos hpend, if_pos hpend, hresv, hresp, husage, hsettled]
  rfl

theorem figures_dispatched (h : e.Shape f) (hstate : e.state = .prepared) (evidence : ModelCallEvidence)
    (budget : ModelUsageBudgetConfiguration) (execution : Option ModelCallExecutionFacts)
    (evidenceId : Uuid) (now : Nat) :
    (dispatchedRow e evidence budget f.dispatchReservation execution evidenceId now).figures =
      ⟨1, 1, f.dispatchReservation, 0, evidence.byteCount, 0, 0, 0⟩ :=
  (h.dispatched hstate evidence budget execution evidenceId now).figures_pending rfl

theorem figures_uncertain (h : e.Shape f) (hstate : e.state = .dispatching) (uncertaintyDigest : String)
    (providerResponseId : Option String) (evidenceId : Uuid) :
    (uncertainRow e uncertaintyDigest providerResponseId evidenceId).figures = e.figures := by
  rw [(h.uncertain hstate uncertaintyDigest providerResponseId evidenceId).figures_pending rfl,
    h.figures_pending (by rw [hstate]; rfl)]
  rfl

theorem figures_noEffect (h : e.Shape f) (hpend : e.state.isPending = true)
    (proof : KnownNoEffectProof) (evidenceId : Uuid) (now : Nat) :
    (noEffectRow e proof evidenceId now).figures = ⟨1, 0, 0, 0, e.requestByteCount, 0, 0, 0⟩ := by
  obtain ⟨-, hresp, husage, hsettled⟩ := h.of_pending hpend
  unfold noEffectRow ModelUsageEffect.figures ModelUsageEffect.settled
    ModelUsageEffect.responseByteCount ModelUsageEffect.inputTokens ModelUsageEffect.outputTokens
  rw [hresp, husage, hsettled]
  rfl

end ModelUsageEffect.Shape

theorem figures_settledRow {target : EffectState} (htgt : target = .completed ∨ target = .knownFailed)
    (providerResponseId : String) (evidence : ModelCallEvidence) (usage : ModelCallUsage) (cost : Nat)
    (evidenceId : Uuid) (now : Nat) :
    (settledRow e target providerResponseId evidence usage cost evidenceId now).figures =
      ⟨1, 0, 0, cost, e.requestByteCount, evidence.byteCount, usage.inputTokens, usage.outputTokens⟩ := by
  rcases htgt with rfl | rfl
  · rfl
  · rfl

theorem totals_effectsWith_uncertain {l : Ledger} (admits : SlotView → Bool) (hsound : l.Sound)
    (hrow : e ∈ l.effects) (hstate : e.state = .dispatching) (uncertaintyDigest : String)
    (providerResponseId : Option String) (evidenceId : Uuid) :
    totals ((l.putEffect (uncertainRow e uncertaintyDigest providerResponseId evidenceId)).effectsWith
      admits) = totals (l.effectsWith admits) := by
  obtain ⟨view, profile, howned, -⟩ := hsound.owned e hrow
  have hmove := @totals_effectsWith_putEffect l admits e
    (uncertainRow e uncertaintyDigest providerResponseId evidenceId) view hsound hrow rfl rfl
    howned.view_eq
  rw [(howned.shape hsound).figures_uncertain hstate] at hmove
  exact add_right_cancel hmove

end Figures

end Workstream.ModelUsage
