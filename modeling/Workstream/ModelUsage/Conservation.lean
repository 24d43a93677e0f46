import Workstream.ModelUsage.Totals

/-!
# Conservation of the lifetime budget

The account of a project holds what its pending effects reserve and what its ended effects cost, and
stays within its current configuration.
-/

namespace Workstream.ModelUsage
open Foundation

namespace Ledger

variable (l : Ledger)

def lifetimeReserved (projectId : Uuid) : Nat :=
  ((l.budgetAccount projectId).map (·.lifetimeReservedNanodollars)).getD 0

def lifetimeSettled (projectId : Uuid) : Nat :=
  ((l.budgetAccount projectId).map (·.lifetimeSettledNanodollars)).getD 0

variable {l} {account account' : ModelUsageBudgetAccount} {projectId : Uuid}

theorem lifetimeReserved_of_account (h : l.budgetAccount projectId = some account) :
    l.lifetimeReserved projectId = account.lifetimeReservedNanodollars := by
  unfold lifetimeReserved
  rw [h]
  rfl

theorem lifetimeSettled_of_account (h : l.budgetAccount projectId = some account) :
    l.lifetimeSettled projectId = account.lifetimeSettledNanodollars := by
  unfold lifetimeSettled
  rw [h]
  rfl

theorem projectId_of_budgetAccount (h : l.budgetAccount projectId = some account) :
    account.projectId = projectId :=
  (Table.find_eq_some h).2

theorem budgetAccount_putAccount_self (h : l.budgetAccount projectId = some account)
    (hproj : account'.projectId = projectId) :
    (l.putAccount account').budgetAccount projectId = some account' := by
  subst hproj
  exact Table.find_replace_self h

theorem budgetAccount_putAccount_of_ne (hne : projectId ≠ account'.projectId) :
    (l.putAccount account').budgetAccount projectId = l.budgetAccount projectId :=
  Table.find_replace_of_ne hne

end Ledger

/-- The account of a project agrees with its effects and its configuration. -/
structure Conserved (l : Ledger) (projectId : Uuid) : Prop where
  reserved : l.lifetimeReserved projectId = (totals (l.effectsOf projectId)).reservedNanodollars
  settled : l.lifetimeSettled projectId = (totals (l.effectsOf projectId)).settledNanodollars
  ceiling : ∀ account, l.budgetAccount projectId = some account → ∃ budget,
    l.currentBudgetConfiguration account = some budget ∧ budget.spec.projectId = projectId ∧
    account.lifetimeReservedNanodollars + account.lifetimeSettledNanodollars ≤
      budget.spec.lifetimeLimitNanodollars

theorem conserved_empty (projectId : Uuid) : Conserved {} projectId :=
  ⟨rfl, rfl, by intro account h; cases h⟩

namespace Conserved

variable {l l' : Ledger} {projectId : Uuid} {account account' : ModelUsageBudgetAccount}

theorem of_account (hfound : l.budgetAccount projectId = some account)
    (hresv : account.lifetimeReservedNanodollars =
      (totals (l.effectsOf projectId)).reservedNanodollars)
    (hsettled : account.lifetimeSettledNanodollars = (totals (l.effectsOf projectId)).settledNanodollars)
    (hceiling : ∃ budget, l.currentBudgetConfiguration account = some budget ∧
      budget.spec.projectId = projectId ∧
      account.lifetimeReservedNanodollars + account.lifetimeSettledNanodollars ≤
        budget.spec.lifetimeLimitNanodollars) : Conserved l projectId := by
  refine ⟨?_, ?_, ?_⟩
  · rw [Ledger.lifetimeReserved_of_account hfound, hresv]
  · rw [Ledger.lifetimeSettled_of_account hfound, hsettled]
  · intro other hother
    cases hfound.symm.trans hother
    exact hceiling

theorem of_same (h : Conserved l projectId) (hacct : l'.budgetAccount projectId = l.budgetAccount projectId)
    (hconfiguration : ∀ account budget, l.currentBudgetConfiguration account = some budget →
      l'.currentBudgetConfiguration account = some budget)
    (htotals : totals (l'.effectsOf projectId) = totals (l.effectsOf projectId)) :
    Conserved l' projectId := by
  refine ⟨?_, ?_, ?_⟩
  · rw [htotals, ← h.reserved]
    unfold Ledger.lifetimeReserved
    rw [hacct]
  · rw [htotals, ← h.settled]
    unfold Ledger.lifetimeSettled
    rw [hacct]
  · intro account hfound
    rw [hacct] at hfound
    obtain ⟨budget, hbud, hrest⟩ := h.ceiling account hfound
    exact ⟨budget, hconfiguration account budget hbud, hrest⟩

theorem totals_of_account (h : Conserved l projectId) (hfound : l.budgetAccount projectId = some account) :
    (totals (l.effectsOf projectId)).reservedNanodollars = account.lifetimeReservedNanodollars ∧
      (totals (l.effectsOf projectId)).settledNanodollars = account.lifetimeSettledNanodollars := by
  rw [← h.reserved, ← h.settled]
  exact ⟨Ledger.lifetimeReserved_of_account hfound, Ledger.lifetimeSettled_of_account hfound⟩

theorem totals_of_none (h : Conserved l projectId) (hnone : l.budgetAccount projectId = none) :
    (totals (l.effectsOf projectId)).reservedNanodollars = 0 ∧
      (totals (l.effectsOf projectId)).settledNanodollars = 0 := by
  rw [← h.reserved, ← h.settled]
  unfold Ledger.lifetimeReserved Ledger.lifetimeSettled
  rw [hnone]
  exact ⟨rfl, rfl⟩

theorem opened {row : ModelUsageBudgetConfiguration} (h : Conserved l projectId)
    (hid : row.id ∉ l.configurations.map (·.id))
    (hacct : row.spec.projectId ∉ l.accounts.map (·.projectId))
    (hconfigurations : l'.configurations = l.configurations ++ [row])
    (haccounts : l'.accounts = l.accounts ++ [⟨row.spec.projectId, row.id, 0, 0⟩])
    (heffects : l'.effectsOf projectId = l.effectsOf projectId) : Conserved l' projectId := by
  by_cases hproj : row.spec.projectId = projectId
  · subst hproj
    have hnone : l.budgetAccount row.spec.projectId = none := by
      apply Table.find_eq_none.mpr
      intro account hmem heq
      exact hacct (List.mem_map.mpr ⟨account, hmem, heq⟩)
    have hnew : l'.budgetAccount row.spec.projectId = some ⟨row.spec.projectId, row.id, 0, 0⟩ := by
      unfold Ledger.budgetAccount
      rw [haccounts]
      exact @Table.find_append_self _ _ _ (fun a : ModelUsageBudgetAccount => a.projectId) l.accounts
        ⟨row.spec.projectId, row.id, 0, 0⟩ hacct
    obtain ⟨hresv, hsettled⟩ := h.totals_of_none hnone
    rw [← heffects] at hresv hsettled
    refine of_account hnew hresv.symm hsettled.symm ⟨row, ?_, rfl, Nat.zero_le _⟩
    unfold Ledger.currentBudgetConfiguration
    rw [hconfigurations]
    exact Table.find_append_self hid
  · refine h.of_same ?_ ?_ (by rw [heffects])
    · unfold Ledger.budgetAccount
      rw [haccounts]
      exact Table.find_append_of_ne hproj
    · intro account budget hbud
      unfold Ledger.currentBudgetConfiguration
      rw [hconfigurations]
      exact Table.find_append_of_some _ hbud

theorem adjusted {row : ModelUsageBudgetConfiguration} (h : Conserved l projectId)
    (hid : row.id ∉ l.configurations.map (·.id))
    (hacct : l.budgetAccount row.spec.projectId = some account)
    (hlimit : account.lifetimeReservedNanodollars + account.lifetimeSettledNanodollars ≤
      row.spec.lifetimeLimitNanodollars) :
    Conserved (({ l with configurations := l.configurations ++ [row] } : Ledger).putAccount
      { account with currentConfigurationId := row.id }) projectId := by
  have hsame := Ledger.projectId_of_budgetAccount hacct
  by_cases hproj : row.spec.projectId = projectId
  · subst hproj
    obtain ⟨hresv, hsettled⟩ := h.totals_of_account hacct
    have hfound : Ledger.budgetAccount { l with configurations := l.configurations ++ [row] }
        row.spec.projectId = some account := hacct
    exact of_account (Ledger.budgetAccount_putAccount_self hfound hsame) hresv.symm hsettled.symm
      ⟨row, Table.find_append_self hid, rfl, hlimit⟩
  · refine h.of_same ?_ ?_ rfl
    · apply Ledger.budgetAccount_putAccount_of_ne
      rw [hsame]
      exact Ne.symm hproj
    · intro account budget hbud
      exact Table.find_append_of_some _ hbud

/-- An update of an effect together with its account keeps the books balanced, if the account takes the
difference of the figures. -/
theorem exchange (hsound : l.Sound) (h : ∀ projectId, Conserved l projectId)
    {row row' : ModelUsageEffect} {view : SlotView} (hrow : row ∈ l.effects) (hid : row'.id = row.id)
    (howner : row'.owner = row.owner) (hview : l.slotView row.owner = some view)
    (hacct : l.budgetAccount view.projectId = some account)
    (hproj : account'.projectId = account.projectId)
    (hcur : account'.currentConfigurationId = account.currentConfigurationId)
    (hresv : account'.lifetimeReservedNanodollars + row.figures.reservedNanodollars =
      account.lifetimeReservedNanodollars + row'.figures.reservedNanodollars)
    (hsettled : account'.lifetimeSettledNanodollars + row.figures.settledNanodollars =
      account.lifetimeSettledNanodollars + row'.figures.settledNanodollars)
    (hceiling : ∀ budget, l.currentBudgetConfiguration account = some budget →
      account.lifetimeReservedNanodollars + account.lifetimeSettledNanodollars ≤
        budget.spec.lifetimeLimitNanodollars →
      account'.lifetimeReservedNanodollars + account'.lifetimeSettledNanodollars ≤
        budget.spec.lifetimeLimitNanodollars) (projectId : Uuid) :
    Conserved ((l.putAccount account').putEffect row') projectId := by
  have hsame : account'.projectId = view.projectId :=
    hproj.trans (Ledger.projectId_of_budgetAccount hacct)
  have htotals := totals_effectsWith_putEffect (fun v => v.projectId = projectId) hsound hrow hid
    howner hview
  by_cases hmine : view.projectId = projectId
  · subst hmine
    obtain ⟨hres, hset⟩ := (h view.projectId).totals_of_account hacct
    rw [decide_eq_true rfl, if_pos rfl, if_pos rfl] at htotals
    have hres' := congrArg ModelUsageEnvelopeTotals.reservedNanodollars htotals
    have hset' := congrArg ModelUsageEnvelopeTotals.settledNanodollars htotals
    rw [ModelUsageEnvelopeTotals.add_eq, ModelUsageEnvelopeTotals.add_eq] at hres' hset'
    dsimp only at hres' hset'
    unfold Ledger.effectsOf at hres hset
    refine of_account (Ledger.budgetAccount_putAccount_self hacct hsame) ?_ ?_ ?_
    · show _ = (totals ((l.putEffect row').effectsWith _)).reservedNanodollars
      omega
    · show _ = (totals ((l.putEffect row').effectsWith _)).settledNanodollars
      omega
    · obtain ⟨budget, hbud, hspec, hlimit⟩ := (h view.projectId).ceiling account hacct
      refine ⟨budget, ?_, hspec, hceiling budget hbud hlimit⟩
      unfold Ledger.currentBudgetConfiguration
      rw [hcur]
      exact hbud
  · rw [decide_eq_false hmine, if_neg Bool.false_ne_true, if_neg Bool.false_ne_true, add_zero,
      add_zero] at htotals
    refine (h projectId).of_same ?_ (fun _ _ hbud => hbud) htotals
    apply Ledger.budgetAccount_putAccount_of_ne
    rw [hsame]
    exact Ne.symm hmine

end Conserved

/-- The step of the invariant: every change keeps the books of every project balanced. -/
theorem Change.conserved {l l' : Ledger} (hsound : l.Sound) (h : ∀ projectId, Conserved l projectId)
    (hchange : Change l l') (projectId : Uuid) : Conserved l' projectId := by
  have hgrows := hchange.grows
  cases hchange with
  | profile | checkerEnvelope | checkerSlot | setupEnvelope | setupSlot =>
    exact (h projectId).of_same rfl (fun _ _ hbud => hbud)
      (congrArg totals (effectsWith_grow _ hsound hgrows))
  | opened row hid hacct => exact (h projectId).opened hid hacct rfl rfl rfl
  | adjusted row hid hacct hlimit => exact (h projectId).adjusted hid hacct hlimit
  | prepared row hid hview hreq hblank | child row hid hview hreq hblank =>
    exact (h projectId).of_same rfl (fun _ _ hbud => hbud)
      (totals_effectsWith_addEffect _ hblank.figures)
  | dispatched evidence execution evidenceId now howned hstate hacct hbud hrun hlife =>
    have hshape := howned.shape hsound
    refine Conserved.exchange hsound h howned.mem (by rfl) (by rfl) howned.view_eq hacct (by rfl)
      (by rfl) ?_ ?_ ?_ projectId
    · rw [hshape.figures_prepared hstate, hshape.figures_dispatched hstate]
      rfl
    · rw [hshape.figures_prepared hstate, hshape.figures_dispatched hstate]
      rfl
    · intro budget hcur _
      cases hbud.symm.trans hcur
      unfold ModelUsageBudgetAccount.reserve
      dsimp only
      omega
  | @uncertain row uncertaintyDigest providerResponseId evidenceId hrow hstate =>
    exact (h projectId).of_same rfl (fun _ _ hbud => hbud)
      (totals_effectsWith_uncertain _ hsound hrow hstate uncertaintyDigest providerResponseId evidenceId)
  | settled target providerResponseId evidence usage evidenceId now howned hpend htgt hbytes
      hinput houtput hacct hresv hcov =>
    have hshape := howned.shape hsound
    have hcost := ProfileFields.price_le_dispatchReservation hinput houtput
    cases hresv.symm.trans (hshape.of_pending hpend).1
    refine Conserved.exchange hsound h howned.mem (by rfl) (by rfl) howned.view_eq hacct (by rfl)
      (by rfl) ?_ ?_ ?_ projectId
    · rw [hshape.figures_pending hpend, figures_settledRow htgt]
      exact Nat.sub_add_cancel hcov
    · rw [hshape.figures_pending hpend, figures_settledRow htgt]
      rfl
    · -- The cost takes the place of the reservation, which is not smaller.
      intro budget hcur hlimit
      unfold ModelUsageBudgetAccount.settle
      dsimp only
      omega
  | released proof evidenceId now howned hpend hacct hresv hcov =>
    have hshape := howned.shape hsound
    cases hresv.symm.trans (hshape.of_pending hpend).1
    refine Conserved.exchange hsound h howned.mem (by rfl) (by rfl) howned.view_eq hacct (by rfl)
      (by rfl) ?_ ?_ ?_ projectId
    · rw [hshape.figures_pending hpend, hshape.figures_noEffect hpend]
      exact Nat.sub_add_cancel hcov
    · rw [hshape.figures_pending hpend, hshape.figures_noEffect hpend]
      rfl
    · intro budget hcur hlimit
      unfold ModelUsageBudgetAccount.settle
      dsimp only
      omega

end Workstream.ModelUsage
