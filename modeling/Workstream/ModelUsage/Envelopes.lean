import Workstream.ModelUsage.Totals

/-!
# Ceilings of whole runs

Only `reserve_dispatch` compares the totals of an envelope with its profile, with a full allowance for
every pending dispatch.
-/

namespace Workstream.ModelUsage
open Foundation

/-- Totals that a profile allows, if every pending dispatch uses all it may. -/
structure Within (f : ProfileFields) (t : ModelUsageEnvelopeTotals) : Prop where
  dispatches : t.dispatches ≤ f.maximumCalls
  nanodollars : t.reservedNanodollars + t.settledNanodollars ≤ f.runReservation
  requestBytes : t.requestBytes ≤ f.maximumTotalRequestBytes
  responseBytes : t.responseBytes + t.pendingDispatches * f.maximumResponseBytes ≤
    f.maximumTotalResponseBytes
  inputTokens : t.inputTokens + t.pendingDispatches * f.maximumInputTokens ≤ f.maximumTotalInputTokens
  outputTokens : t.outputTokens + t.pendingDispatches * f.maximumOutputTokens ≤
    f.maximumTotalOutputTokens

namespace Within

variable {f : ProfileFields} {t t' : ModelUsageEnvelopeTotals}

theorem zero (f : ProfileFields) : Within f 0 where
  dispatches := Nat.zero_le _
  nanodollars := Nat.zero_le _
  requestBytes := Nat.zero_le _
  responseBytes := by rw [ModelUsageEnvelopeTotals.zero_eq]; simp
  inputTokens := by rw [ModelUsageEnvelopeTotals.zero_eq]; simp
  outputTokens := by rw [ModelUsageEnvelopeTotals.zero_eq]; simp

theorem dispatch {byteCount : Nat} (h : RunAllows f t byteCount f.dispatchReservation f.runReservation)
    (ht : t' = t + ⟨1, 1, f.dispatchReservation, 0, byteCount, 0, 0, 0⟩) : Within f t' := by
  obtain ⟨hcalls, hmoney, hreq, hresp, hinput, houtput⟩ := h
  subst ht
  rw [ModelUsageEnvelopeTotals.add_eq]
  refine ⟨hcalls, ?_, hreq, hresp, hinput, houtput⟩
  dsimp only
  omega

/-- One allowance less pays for figures that are not larger. -/
theorem trade {used pending pending' maximum total figure used' : Nat} (hpend : pending' + 1 = pending)
    (hused : used' = used + figure) (hfigure : figure ≤ maximum)
    (h : used + pending * maximum ≤ total) : used' + pending' * maximum ≤ total := by
  subst hpend hused
  rw [Nat.succ_mul] at h
  omega

theorem settle (h : Within f t) {requestBytes responseBytes inputTokens outputTokens cost : Nat}
    (hcost : cost ≤ f.dispatchReservation) (hresp : responseBytes ≤ f.maximumResponseBytes)
    (hinput : inputTokens ≤ f.maximumInputTokens) (houtput : outputTokens ≤ f.maximumOutputTokens)
    (ht : t' + ⟨1, 1, f.dispatchReservation, 0, requestBytes, 0, 0, 0⟩ =
      t + ⟨1, 0, 0, cost, requestBytes, responseBytes, inputTokens, outputTokens⟩) : Within f t' := by
  rw [ModelUsageEnvelopeTotals.add_eq, ModelUsageEnvelopeTotals.add_eq,
    ModelUsageEnvelopeTotals.mk.injEq] at ht
  dsimp only at ht
  obtain ⟨hdispatches, hpend, hresv, hsettled, hreq, hbytes, hin, hout⟩ := ht
  have hdone := h.dispatches
  have hmoney := h.nanodollars
  have hsent := h.requestBytes
  refine ⟨?_, ?_, ?_, trade hpend hbytes hresp h.responseBytes,
    trade hpend hin hinput h.inputTokens, trade hpend hout houtput h.outputTokens⟩
  · omega
  · omega
  · omega

end Within

/-- Every envelope is within the profile that it names. -/
def RunsWithin (l : Ledger) : Prop :=
  ∀ envelope selector profile, l.envelopeProfile envelope = some selector →
    l.profileExact selector = some profile →
    Within profile.spec.toProfileFields (totals (l.effectsUnder envelope))

theorem runsWithin_empty : RunsWithin {} := by
  intro envelope selector profile _ _
  exact Within.zero _

section Invariant

variable {l l' : Ledger} {row row' : ModelUsageEffect} {view : SlotView} {profile : ProjectModelProfile}

theorem effectsUnder_eq_nil_or (hsound : l.Sound) (envelope : Ref) :
    l.effectsUnder envelope = [] ∨ ∃ selector profile, l.envelopeProfile envelope = some selector ∧
      l.profileExact selector = some profile := by
  by_cases hempty : l.effectsUnder envelope = []
  · exact .inl hempty
  · obtain ⟨row, hrow⟩ := List.exists_mem_of_ne_nil _ hempty
    obtain ⟨hmem, hadm⟩ := List.mem_filter.mp hrow
    obtain ⟨view, profile, howned, -⟩ := hsound.owned row hmem
    rw [howned.view_eq, Option.any_some, decide_eq_true_eq] at hadm
    subst hadm
    exact .inr ⟨view.profile, profile, hsound.registry.envelopeProfile_of_view howned.view_eq,
      howned.profile_eq⟩

theorem RunsWithin.grow (h : RunsWithin l) (hsound : l.Sound) {r : Registry}
    (g : l.toRegistry.Grows r) : RunsWithin { l with toRegistry := r } := by
  intro envelope selector profile hsel hprof
  unfold Ledger.effectsUnder
  rw [effectsWith_grow _ hsound g]
  rcases effectsUnder_eq_nil_or hsound envelope with hnil | ⟨selector', profile', hsel', hprof'⟩
  · unfold Ledger.effectsUnder at hnil
    rw [hnil]
    exact Within.zero _
  · cases hsel.symm.trans (g.envelope hsel')
    cases hprof.symm.trans (g.profile hprof')
    exact h envelope selector profile hsel' hprof'

/-- An update of an effect concerns its own envelope only. -/
theorem RunsWithin.exchange (h : RunsWithin l) (hsound : l.Sound) (account : ModelUsageBudgetAccount)
    (howned : Owned l row view profile) (hid : row'.id = row.id) (howner : row'.owner = row.owner)
    (hown : ∀ t', t' + row.figures = totals (l.effectsUnder view.envelope) + row'.figures →
      Within profile.spec.toProfileFields t') : RunsWithin ((l.putAccount account).putEffect row') := by
  intro envelope selector profile' hsel hprof
  have htotals := totals_effectsWith_putEffect (fun v => v.envelope = envelope) hsound howned.mem hid
    howner howned.view_eq
  by_cases hmine : view.envelope = envelope
  · subst hmine
    rw [decide_eq_true rfl, if_pos rfl, if_pos rfl] at htotals
    have hsame := hsound.registry.envelopeProfile_of_view howned.view_eq
    cases hsel.symm.trans hsame
    cases hprof.symm.trans howned.profile_eq
    exact hown _ htotals
  · rw [decide_eq_false hmine, if_neg Bool.false_ne_true, if_neg Bool.false_ne_true, add_zero,
      add_zero] at htotals
    show Within _ (totals ((l.putEffect row').effectsWith _))
    rw [htotals]
    exact h envelope selector profile' hsel hprof

theorem Change.runsWithin (hsound : l.Sound) (h : RunsWithin l) (hchange : Change l l') :
    RunsWithin l' := by
  have hgrows := hchange.grows
  cases hchange with
  | profile | checkerEnvelope | checkerSlot | setupEnvelope | setupSlot => exact h.grow hsound hgrows
  | opened | adjusted => exact h
  | prepared row hid hview hreq hblank | child row hid hview hreq hblank =>
    intro envelope selector profile hsel hprof
    unfold Ledger.effectsUnder
    rw [totals_effectsWith_addEffect _ hblank.figures]
    exact h envelope selector profile hsel hprof
  | dispatched evidence execution evidenceId now howned hstate hacct hbud hrun =>
    have hshape := howned.shape hsound
    refine h.exchange hsound _ howned (by rfl) (by rfl) ?_
    intro t' ht'
    rw [hshape.figures_prepared hstate, hshape.figures_dispatched hstate, add_zero] at ht'
    exact Within.dispatch hrun ht'
  | uncertain uncertaintyDigest providerResponseId evidenceId hrow hstate =>
    intro envelope selector profile hsel hprof
    unfold Ledger.effectsUnder
    rw [totals_effectsWith_uncertain _ hsound hrow hstate]
    exact h envelope selector profile hsel hprof
  | settled target providerResponseId evidence usage evidenceId now howned hpend htgt hbytes
      hinput houtput hacct hresv hcov =>
    have hshape := howned.shape hsound
    have hbefore := h _ _ _ (hsound.registry.envelopeProfile_of_view howned.view_eq) howned.profile_eq
    refine h.exchange hsound _ howned (by rfl) (by rfl) ?_
    intro t' ht'
    rw [hshape.figures_pending hpend, figures_settledRow htgt] at ht'
    exact hbefore.settle (ProfileFields.price_le_dispatchReservation hinput houtput) hbytes hinput
      houtput ht'
  | released proof evidenceId now howned hpend =>
    have hshape := howned.shape hsound
    have hbefore := h _ _ _ (hsound.registry.envelopeProfile_of_view howned.view_eq) howned.profile_eq
    refine h.exchange hsound _ howned (by rfl) (by rfl) ?_
    intro t' ht'
    rw [hshape.figures_pending hpend, hshape.figures_noEffect hpend] at ht'
    exact hbefore.settle (Nat.zero_le _) (Nat.zero_le _) (Nat.zero_le _) (Nat.zero_le _) ht'

end Invariant

theorem within_iff {f : ProfileFields} {t : ModelUsageEnvelopeTotals} :
    Within f t ↔ t.dispatches ≤ f.maximumCalls ∧
      t.reservedNanodollars + t.settledNanodollars ≤ f.runReservation ∧
      t.requestBytes ≤ f.maximumTotalRequestBytes ∧
      t.responseBytes + t.pendingDispatches * f.maximumResponseBytes ≤ f.maximumTotalResponseBytes ∧
      t.inputTokens + t.pendingDispatches * f.maximumInputTokens ≤ f.maximumTotalInputTokens ∧
      t.outputTokens + t.pendingDispatches * f.maximumOutputTokens ≤ f.maximumTotalOutputTokens :=
  ⟨fun ⟨h₁, h₂, h₃, h₄, h₅, h₆⟩ => ⟨h₁, h₂, h₃, h₄, h₅, h₆⟩,
    fun ⟨h₁, h₂, h₃, h₄, h₅, h₆⟩ => ⟨h₁, h₂, h₃, h₄, h₅, h₆⟩⟩

instance (f : ProfileFields) (t : ModelUsageEnvelopeTotals) : Decidable (Within f t) :=
  decidable_of_iff _ within_iff.symm

def Registry.profileById (r : Registry) (id : Uuid) : Option ProjectModelProfile :=
  Table.find (fun p => p.profileId) r.profiles id

def guardedTotals (others : ModelUsageEnvelopeTotals) (row : ModelUsageEffect) :
    ModelUsageEnvelopeTotals :=
  if row.state = .prepared then others
  else
    { dispatches := others.dispatches + 1
      requestBytes := others.requestBytes + row.requestByteCount
      responseBytes := others.responseBytes + row.responseByteCount
      inputTokens := others.inputTokens + row.inputTokens
      outputTokens := others.outputTokens + row.outputTokens
      pendingDispatches :=
        if row.state.isPending then others.pendingDispatches + 1 else others.pendingDispatches
      reservedNanodollars :=
        if row.state.isPending then others.reservedNanodollars + row.reservedNanodollars.getD 0
        else others.reservedNanodollars
      settledNanodollars := others.settledNanodollars + row.settled }

/-- The ownership and run-total clauses of `guard_model_usage_effect` for a new row. They read only
other effects, which a call leaves alone, so they may be read off the ledger after the call. -/
def guardModelUsageEffect (l : Ledger) (row : ModelUsageEffect) : Except String Unit := do
  let invalid := match row.owner.kind with
    | .checker => "invalid checker model call attempt ownership"
    | .setup => "invalid setup model call attempt ownership"
  let view ← required (l.slotView row.owner) invalid
  let profile ← required (l.profileById view.profile.profileId) invalid
  require (row.requestSha256 = view.requestSha256) invalid
  let others := totals ((l.effectsUnder view.envelope).filter (fun e => e.id ≠ row.id))
  require (Within profile.spec.toProfileFields (guardedTotals others row))
    "model usage run envelope exceeded"

section Guard

variable {l : Ledger} {row : ModelUsageEffect} {view : SlotView} {profile : ProjectModelProfile}

theorem guardedTotals_eq {f : ProfileFields} (hshape : row.Shape f) (others : ModelUsageEnvelopeTotals) :
    guardedTotals others row = others + row.figures := by
  unfold guardedTotals
  by_cases hstate : row.state = .prepared
  · rw [if_pos hstate, hshape.figures_prepared hstate, add_zero]
  · rw [if_neg hstate, ModelUsageEnvelopeTotals.add_eq]
    unfold ModelUsageEffect.figures ModelUsageEffect.dispatched ModelUsageEffect.pending
      ModelUsageEffect.outstanding
    rw [if_neg hstate]
    by_cases hpend : row.state.isPending = true
    · simp only [if_pos hpend]
    · simp only [if_neg hpend, Nat.add_zero]

theorem guardModelUsageEffect_passes (hsound : l.Sound) (h : RunsWithin l) (hrow : row ∈ l.effects) :
    guardModelUsageEffect l row = .ok () := by
  obtain ⟨view, profile, howned, hreq, hshape⟩ := hsound.owned row hrow
  have hprof : l.profileById view.profile.profileId = some profile := by
    obtain ⟨hmem, hsel⟩ := Table.find_eq_some howned.profile_eq
    rw [← hsel]
    exact Table.find_of_mem hsound.registry.profileIds hmem
  have hselect : row ∈ l.effectsUnder view.envelope := by
    refine List.mem_filter.mpr ⟨hrow, ?_⟩
    rw [howned.view_eq, Option.any_some]
    exact decide_eq_true rfl
  have huniq : ((l.effectsUnder view.envelope).map (·.id)).Nodup :=
    hsound.effectIds.sublist (List.filter_sublist.map _)
  have htotals : guardedTotals
      (totals ((l.effectsUnder view.envelope).filter (fun e => e.id ≠ row.id))) row =
      totals (l.effectsUnder view.envelope) := by
    rw [guardedTotals_eq hshape, totals_eq_sum, totals_eq_sum]
    exact Table.sum_filter_ne ModelUsageEffect.figures huniq hselect
  have hwithin := h _ _ _ (hsound.registry.envelopeProfile_of_view howned.view_eq) howned.profile_eq
  unfold guardModelUsageEffect
  simp only [eq_ok]
  refine ⟨view, howned.view_eq, profile, hprof, (), hreq, ?_⟩
  rw [htotals]
  exact hwithin

end Guard

/-- After any calls of either service, in any order, every envelope is within its profile, and the guard
of the effect table rejects no row that a further call writes. -/
theorem run_within (sha256 : String → String) (requests : List Request) :
    let l := run (step sha256) {} requests
    (∀ envelope selector profile, l.envelopeProfile envelope = some selector →
      l.profileExact selector = some profile →
      Within profile.spec.toProfileFields (totals (l.effectsUnder envelope))) ∧
    ∀ p c l', call sha256 l p c = .ok l' → ∀ row ∈ l'.effects, guardModelUsageEffect l' row = .ok () := by
  intro l
  obtain ⟨hsound, hwithin⟩ : l.Sound ∧ RunsWithin l :=
    run_of_change runsWithin_empty (fun _ _ hsound h hchange => hchange.runsWithin hsound h) requests
  refine ⟨hwithin, ?_⟩
  intro p c l' hcall row hrow
  obtain ⟨hsound', hwithin'⟩ := (call_reaches hsound hcall).invariant
    (fun _ _ hsound h hchange => hchange.runsWithin hsound h) hsound hwithin
  exact guardModelUsageEffect_passes hsound' hwithin' hrow

end Workstream.ModelUsage
