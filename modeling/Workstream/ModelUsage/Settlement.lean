import Workstream.ModelUsage.Conservation
import Mathlib.Algebra.Order.BigOperators.Group.List

/-!
# Settlements find their reservation

`_settle` and `_release` refuse to take more from an account than it holds.
-/

namespace Workstream.ModelUsage
open Foundation

abbrev conservationFailed : ModelCallError := .unavailable "model_budget_conservation_failed"

def Covered (l : Ledger) : Prop :=
  ∀ row view profile account reserved, Owned l row view profile → row.state.isPending = true →
    l.budgetAccount view.projectId = some account → row.reservedNanodollars = some reserved →
    reserved ≤ account.lifetimeReservedNanodollars

theorem covered_of_conserved {l : Ledger} (h : ∀ projectId, Conserved l projectId) : Covered l := by
  intro row view profile account reserved howned hpend hacct hresv
  have hmem : row ∈ l.effectsOf view.projectId := by
    refine List.mem_filter.mpr ⟨howned.mem, ?_⟩
    rw [howned.view_eq]
    simp
  have houtstanding : row.outstanding = reserved := by
    unfold ModelUsageEffect.outstanding
    rw [if_pos hpend, hresv]
    rfl
  calc reserved = row.outstanding := houtstanding.symm
    _ ≤ ((l.effectsOf view.projectId).map (·.outstanding)).sum :=
      List.single_le_sum (fun _ _ => Nat.zero_le _) _ (List.mem_map_of_mem hmem)
    _ = account.lifetimeReservedNanodollars := ((h view.projectId).totals_of_account hacct).1

section Avoids

variable {sha256 : String → String} {l : Ledger} {p : Ports}

@[simp] theorem authorize_avoids (action : String) (facts : Json) {error : ModelCallError}
    (hne : error ≠ conservationFailed) :
    Avoids conservationFailed (authorize sha256 p action facts error) := by
  simp [authorize, hne]

@[simp] theorem requireRun_avoids (f : ProfileFields) (t : ModelUsageEnvelopeTotals) (byteCount : Nat) :
    Avoids conservationFailed (requireRun f t byteCount) := by
  simp [requireRun, ProfileFields.maximumDispatchReservationNanodollars,
    ProfileFields.maximumReservationNanodollars]

@[simp] theorem modelUsageCost_avoids (f : ProfileFields) (usage : ModelCallUsage) :
    Avoids conservationFailed (modelUsageCost f usage) := by
  simp [modelUsageCost, ProfileFields.maximumReservationNanodollars]

@[simp] theorem terminalPreflight_avoids (attemptId : Uuid) :
    Avoids conservationFailed (terminalPreflight l attemptId) := by
  simp [terminalPreflight]

@[simp] theorem lockTerminal_avoids (slot : CheckerModelUsageSlot) (attemptId : Uuid) :
    Avoids conservationFailed (lockTerminal l slot attemptId) := by
  simp [lockTerminal]

@[simp] theorem setupProfile_avoids (key : SetupModelUsageSlotKey) (owner : Option SetupModelOwnerProfile) :
    Avoids conservationFailed (setupProfile l key owner) := by
  simp [setupProfile]

@[simp] theorem setupTerminalPreflight_avoids (effectId : Uuid) :
    Avoids conservationFailed (setupTerminalPreflight l effectId) := by
  simp [setupTerminalPreflight, effectUnavailable]

@[simp] theorem setupLockTerminal_avoids (slot : SetupModelUsageSlot) (effectId : Uuid) :
    Avoids conservationFailed (setupLockTerminal l slot effectId) := by
  simp [setupLockTerminal, effectUnavailable]

@[simp] theorem adjustBudget_avoids (spec : ProjectModelBudgetConfigurationSpec)
    (row : ModelUsageBudgetConfiguration) : Avoids conservationFailed (adjustBudget l spec row) := by
  simp [adjustBudget]
  intros
  split <;> simp [Ledger.addConfiguration, Ledger.addAccount]

@[simp] theorem prepared_avoids (attempt : AttachedModelCallAttempt) :
    Avoids conservationFailed attempt.prepared := by
  unfold AttachedModelCallAttempt.prepared
  split <;> simp

@[simp] theorem requireCheckerEnvelope_avoids (execution : ModelCallExecutionFacts)
    (slot : ModelPaidSlotKey) :
    Avoids conservationFailed (requireCheckerEnvelope l p execution slot) := by
  unfold requireCheckerEnvelope
  split <;> simp [Ledger.addCheckerEnvelope]

@[simp] theorem requireCheckerSlot_avoids (envelope : CheckerModelUsageEnvelope)
    (execution : ModelCallExecutionFacts) (slot : ModelPaidSlotKey) (requestSha256 : String) :
    Avoids conservationFailed (requireCheckerSlot l p envelope execution slot requestSha256) := by
  unfold requireCheckerSlot
  split <;> simp [Ledger.addCheckerSlot]

@[simp] theorem requireSetupEnvelope_avoids (key : SetupModelUsageSlotKey) :
    Avoids conservationFailed (requireSetupEnvelope l p key) := by
  unfold requireSetupEnvelope
  split <;> simp [Ledger.addSetupEnvelope]

@[simp] theorem requireSetupSlot_avoids (envelope : SetupModelUsageEnvelope) (key : SetupModelUsageSlotKey)
    (requestSha256 : String) :
    Avoids conservationFailed (requireSetupSlot l p envelope key requestSha256) := by
  unfold requireSetupSlot
  split <;> simp [Ledger.addSetupSlot]

theorem settle_avoids (hcov : Covered l) {row : ModelUsageEffect} {view : SlotView}
    {profile : ProjectModelProfile} (howned : Owned l row view profile)
    (hpend : row.state.isPending = true) (cost : Nat) :
    Avoids conservationFailed (settle l row view.projectId cost) := by
  refine Avoids.bind (by simp) fun account hacct => ?_
  refine Avoids.bind (by simp) fun reserved hresv => ?_
  rw [required_eq_ok] at hacct hresv
  have henough := hcov row view profile account reserved howned hpend hacct hresv
  exact Avoids.bind (avoids_require.mpr fun _ => henough) fun _ _ => avoids_pure _

theorem completeAs_avoids (hsound : l.Sound) (hcov : Covered l) (target : EffectState)
    (effect : ModelCallEffectAuthorityFacts) (providerResponseId providerModelSnapshot : String)
    (responseEvidence : ModelCallEvidence) (usage : ModelCallUsage) :
    Avoids conservationFailed (completeAs sha256 l p target effect providerResponseId
      providerModelSnapshot responseEvidence usage) := by
  simp only [completeAs, providerResponse, bind_pure_comp, authorityUnavailable, requireEffect,
    requireSameSettlement, storedEvidence, settledResult, map_bind, Functor.map_map, bind_assoc,
    requirePending, Option.mem_def, bind_map_left, avoids_bind, avoids_require, reduceCtorEq,
    IsEmpty.forall_iff, require_eq_ok, ne_eq, ModelCallError.unavailable.injEq, String.reduceEq,
    not_false_eq_true, authorize_avoids, terminalPreflight_avoids, modelUsageCost_avoids,
    lockTerminal_avoids, avoids_ite, avoids_required, required_eq_ok, avoids_functor_map,
    implies_true, and_self, and_true, forall_const, true_and, and_imp, Prod.forall]
  intro _ authority _ _ slot profile hpre _ _ cost _ row hlock _ _ hpend _ _
  exact settle_avoids hcov (owned_of_lockTerminal hsound hpre hlock) hpend cost

theorem setupComplete_avoids (hsound : l.Sound) (hcov : Covered l)
    (supplied : SetupModelEffectAuthorityFacts) (providerResponseId providerModelSnapshot : String)
    (responseEvidence : ModelCallEvidence) (usage : ModelCallUsage) (usable : Bool) :
    Avoids conservationFailed (setupComplete sha256 l p supplied providerResponseId
      providerModelSnapshot responseEvidence usage usable) := by
  simp only [setupComplete, providerResponse, bind_pure_comp, setupAuthorityUnavailable,
    requireSetupEffect, effectUnavailable, requireSameSettlement, storedEvidence, setupCompleted,
    map_bind, Functor.map_map, bind_assoc, requirePending, Option.mem_def, bind_map_left, avoids_bind,
    avoids_require, reduceCtorEq, IsEmpty.forall_iff, require_eq_ok, ne_eq,
    ModelCallError.unavailable.injEq, String.reduceEq, not_false_eq_true, authorize_avoids,
    setupTerminalPreflight_avoids, modelUsageCost_avoids, setupLockTerminal_avoids, avoids_ite,
    avoids_required, required_eq_ok, avoids_functor_map, implies_true, and_self, not_or, and_true,
    forall_const, true_and, and_imp, Prod.forall]
  intro _ authority _ _ slot profile hpre _ _ cost _ row hlock _ _ _ hpend _ _
  exact settle_avoids hcov (owned_of_setupLockTerminal hsound hpre hlock) hpend cost

theorem markKnownNoEffect_avoids (hsound : l.Sound) (hcov : Covered l)
    (effect : ModelCallEffectAuthorityFacts) (proof : KnownNoEffectProof) :
    Avoids conservationFailed (markKnownNoEffect sha256 l p effect proof) := by
  simp only [markKnownNoEffect, authorityUnavailable, requireEffect, bind_pure_comp, requirePending,
    release, bind_assoc, avoids_bind, ne_eq, ModelCallError.unavailable.injEq, String.reduceEq,
    not_false_eq_true, authorize_avoids, terminalPreflight_avoids, lockTerminal_avoids,
    avoids_require, IsEmpty.forall_iff, require_eq_ok, avoids_ite, avoids_functor_map, reduceCtorEq,
    implies_true, forall_const, true_and, Prod.forall]
  intro authority _ slot profile hpre row hlock _ _ hpend _ _
  exact settle_avoids hcov (owned_of_lockTerminal hsound hpre hlock) hpend 0

theorem setupMarkKnownNoEffect_avoids (hsound : l.Sound) (hcov : Covered l)
    (supplied : SetupModelEffectAuthorityFacts) (proof : KnownNoEffectProof) :
    Avoids conservationFailed (setupMarkKnownNoEffect sha256 l p supplied proof) := by
  simp only [setupMarkKnownNoEffect, setupAuthorityUnavailable, requireSetupEffect,
    effectUnavailable, bind_pure_comp, requirePending, release, bind_assoc, avoids_bind, ne_eq,
    ModelCallError.unavailable.injEq, String.reduceEq, not_false_eq_true, authorize_avoids,
    setupTerminalPreflight_avoids, setupLockTerminal_avoids, avoids_require, IsEmpty.forall_iff,
    require_eq_ok, avoids_ite, avoids_functor_map, reduceCtorEq, implies_true, forall_const,
    true_and, Prod.forall]
  intro authority _ slot profile hpre row hlock _ _ hpend _ _
  exact settle_avoids hcov (owned_of_setupLockTerminal hsound hpre hlock) hpend 0

theorem call_avoids (hsound : l.Sound) (hcov : Covered l) (c : Call) :
    Avoids conservationFailed (call sha256 l p c) := by
  unfold call
  cases c <;> rw [avoids_map]
  case provisionProfile =>
    unfold provisionProfile
    split <;> simp [authorityUnavailable, ProfileFields.maximumReservationNanodollars, Ledger.addProfile]
  case provisionBudget =>
    unfold provisionBudget
    split <;> simp [authorityUnavailable]
  case prepareAttempt =>
    simp [prepareAttempt, sha, requireExecutionSlot, authorityUnavailable, profileForSlot]
    intros
    split <;> simp [Ledger.addEffect]
  case prepareRecoveryChild =>
    simp [prepareRecoveryChild, sha, authorityUnavailable, profileForSlot, Ledger.addEffect]
  case reserveDispatch =>
    simp [reserveDispatch, requireExecutionSlot, authorityUnavailable, profileForSlot, lockedAttempt,
      storedEvidence, dispatchResult, reserveLifetime]
  case markUncertain =>
    simp [markUncertain, sha, authorityUnavailable, requireEffect, dispatchResult, storedEvidence]
  case complete => exact completeAs_avoids hsound hcov _ _ _ _ _ _
  case completeKnownFailure => exact completeAs_avoids hsound hcov _ _ _ _ _ _
  case markKnownNoEffect => exact markKnownNoEffect_avoids hsound hcov _ _
  case setupPrepare =>
    simp [setupPrepare, setupAuthorityUnavailable]
    intros
    split <;> simp [Ledger.addEffect]
  case setupReserveDispatch =>
    simp [setupReserveDispatch, setupAuthorityUnavailable, lockedSetupEffect, effectUnavailable,
      setupDispatchResult, reserveLifetime]
  case setupMarkUncertain =>
    simp [setupMarkUncertain, sha, setupAuthorityUnavailable, requireSetupEffect, effectUnavailable]
  case setupComplete => exact setupComplete_avoids hsound hcov _ _ _ _ _ _
  case setupMarkKnownNoEffect => exact setupMarkKnownNoEffect_avoids hsound hcov _ _

end Avoids

/-- `reserved_nanodollars` of the project's effects that are dispatching or uncertain. -/
def Ledger.pendingReservations (l : Ledger) (projectId : Uuid) : Nat :=
  (((l.effectsOf projectId).filter (fun e => e.state.isPending)).map
    (fun e => e.reservedNanodollars.getD 0)).sum

/-- `settled_nanodollars` of the project's effects that are completed or known to have failed. -/
def Ledger.settledCosts (l : Ledger) (projectId : Uuid) : Nat :=
  (((l.effectsOf projectId).filter (fun e => e.state = .completed || e.state = .knownFailed)).map
    (fun e => e.settledNanodollars.getD 0)).sum

theorem pendingReservations_eq (l : Ledger) (projectId : Uuid) :
    l.pendingReservations projectId = (totals (l.effectsOf projectId)).reservedNanodollars :=
  Table.sum_filter_eq _ _ _

theorem settledCosts_eq {l : Ledger} (hsound : l.Sound) (projectId : Uuid) :
    l.settledCosts projectId = (totals (l.effectsOf projectId)).settledNanodollars := by
  unfold Ledger.settledCosts
  rw [Table.sum_filter_eq]
  unfold totals
  congr 1
  apply List.map_congr_left
  intro row hrow
  obtain ⟨view, profile, howned, -, hshape⟩ := hsound.owned row (List.mem_filter.mp hrow).1
  unfold ModelUsageEffect.settled
  unfold ModelUsageEffect.Shape at hshape
  cases hstate : row.state with
  | completed => rfl
  | knownFailed => rfl
  | prepared => rw [hstate] at hshape; rw [hshape.2.2.2.2]; rfl
  | dispatching | uncertain | knownNoEffect => rw [hstate] at hshape; rw [hshape.2.2.2]; rfl

/-- After any calls of either service, in any order, the account of every project holds exactly the
reservations of its pending effects and the costs of its settled ones, within its current
configuration, and no call can find the account short of a reservation. -/
theorem run_conserves (sha256 : String → String) (requests : List Request) :
    let l := run (step sha256) {} requests
    (∀ projectId, l.lifetimeReserved projectId = l.pendingReservations projectId ∧
      l.lifetimeSettled projectId = l.settledCosts projectId ∧
      ∀ account, l.budgetAccount projectId = some account → ∃ budget,
        l.currentBudgetConfiguration account = some budget ∧ budget.spec.projectId = projectId ∧
        account.lifetimeReservedNanodollars + account.lifetimeSettledNanodollars ≤
          budget.spec.lifetimeLimitNanodollars ∧
        budget.spec.externallyReconciledPriorSpendNanodollars + budget.spec.lifetimeLimitNanodollars ≤
          budget.spec.authorizedTotalNanodollars) ∧
    ∀ p c, call sha256 l p c ≠ .error (.unavailable "model_budget_conservation_failed") := by
  intro l
  obtain ⟨hsound, hconserved⟩ : l.Sound ∧ ∀ projectId, Conserved l projectId :=
    run_of_change conserved_empty (fun _ _ hsound h hchange => hchange.conserved hsound h) requests
  refine ⟨?_, ?_⟩
  · intro projectId
    have h := hconserved projectId
    refine ⟨?_, ?_, ?_⟩
    · rw [pendingReservations_eq, h.reserved]
    · rw [settledCosts_eq hsound, h.settled]
    · intro account hacct
      obtain ⟨budget, hbud, hproj, hlimit⟩ := h.ceiling account hacct
      obtain ⟨-, -, -, -, -, -, htotal⟩ := budget.spec.valid
      exact ⟨budget, hbud, hproj, hlimit, htotal⟩
  · intro p c
    exact call_avoids hsound (covered_of_conserved hconserved) c

end Workstream.ModelUsage
