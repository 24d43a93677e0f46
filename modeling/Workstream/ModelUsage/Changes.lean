import Workstream.ModelUsage.Setup

/-!
# Changes of the ledger

Everything that a call of either service can do to the ledger, as a list of elementary changes with the
checks behind them, and the invariant that these changes keep: identifiers are unique, slots belong to
envelopes and profiles, and the columns of an effect fit its state.
-/

namespace Workstream.ModelUsage
open Foundation

/-- What an effect has on record, by its state. -/
def ModelUsageEffect.Shape (f : ProfileFields) (e : ModelUsageEffect) : Prop :=
  match e.state with
  | .prepared =>
    e.requestEvidence = none ∧ e.reservedNanodollars = none ∧ e.responseEvidence = none ∧
      e.usage = none ∧ e.settledNanodollars = none
  | .dispatching | .uncertain | .knownNoEffect =>
    e.reservedNanodollars = some f.dispatchReservation ∧ e.responseEvidence = none ∧ e.usage = none ∧
      e.settledNanodollars = none
  | .completed | .knownFailed =>
    e.reservedNanodollars = some f.dispatchReservation ∧
      ∃ evidence usage, e.responseEvidence = some evidence ∧
        evidence.byteCount ≤ f.maximumResponseBytes ∧ e.usage = some usage ∧
        usage.inputTokens ≤ f.maximumInputTokens ∧ usage.outputTokens ≤ f.maximumOutputTokens ∧
        e.settledNanodollars = some (f.price usage)

/-- A newly prepared effect. -/
structure ModelUsageEffect.Blank (e : ModelUsageEffect) : Prop where
  state : e.state = .prepared
  requestEvidence : e.requestEvidence = none
  reserved : e.reservedNanodollars = none
  responseEvidence : e.responseEvidence = none
  usage : e.usage = none
  settled : e.settledNanodollars = none

theorem ModelUsageEffect.Blank.shape {e : ModelUsageEffect} (h : e.Blank) (f : ProfileFields) :
    e.Shape f := by
  unfold ModelUsageEffect.Shape
  rw [h.state]
  exact ⟨h.requestEvidence, h.reserved, h.responseEvidence, h.usage, h.settled⟩

namespace ModelUsageEffect.Shape

variable {f : ProfileFields} {e : ModelUsageEffect}

theorem of_prepared (h : e.Shape f) (hstate : e.state = .prepared) :
    e.requestEvidence = none ∧ e.reservedNanodollars = none ∧ e.responseEvidence = none ∧
      e.usage = none ∧ e.settledNanodollars = none := by
  unfold ModelUsageEffect.Shape at h
  rw [hstate] at h
  exact h

theorem of_pending (h : e.Shape f) (hpend : e.state.isPending = true) :
    e.reservedNanodollars = some f.dispatchReservation ∧ e.responseEvidence = none ∧
      e.usage = none ∧ e.settledNanodollars = none := by
  unfold ModelUsageEffect.Shape at h
  cases hstate : e.state with
  | dispatching | uncertain => rw [hstate] at h; exact h
  | prepared | completed | knownFailed | knownNoEffect => rw [hstate] at hpend; cases hpend

theorem dispatched (h : e.Shape f) (hstate : e.state = .prepared) (evidence : ModelCallEvidence)
    (budget : ModelUsageBudgetConfiguration) (execution : Option ModelCallExecutionFacts)
    (evidenceId : Uuid) (now : Nat) :
    (dispatchedRow e evidence budget f.dispatchReservation execution evidenceId now).Shape f := by
  obtain ⟨-, -, hresp, husage, hsettled⟩ := h.of_prepared hstate
  exact ⟨rfl, hresp, husage, hsettled⟩

theorem uncertain (h : e.Shape f) (hstate : e.state = .dispatching) (uncertaintyDigest : String)
    (providerResponseId : Option String) (evidenceId : Uuid) :
    (uncertainRow e uncertaintyDigest providerResponseId evidenceId).Shape f :=
  h.of_pending (by rw [hstate]; rfl)

theorem settled (h : e.Shape f) (hpend : e.state.isPending = true) {target : EffectState}
    (htgt : target = .completed ∨ target = .knownFailed) (providerResponseId : String)
    {evidence : ModelCallEvidence} {usage : ModelCallUsage}
    (hbytes : evidence.byteCount ≤ f.maximumResponseBytes)
    (hinput : usage.inputTokens ≤ f.maximumInputTokens)
    (houtput : usage.outputTokens ≤ f.maximumOutputTokens) (evidenceId : Uuid) (now : Nat) :
    (settledRow e target providerResponseId evidence usage (f.price usage) evidenceId now).Shape f := by
  have hresv := (h.of_pending hpend).1
  rcases htgt with rfl | rfl
  · exact ⟨hresv, evidence, usage, rfl, hbytes, rfl, hinput, houtput, rfl⟩
  · exact ⟨hresv, evidence, usage, rfl, hbytes, rfl, hinput, houtput, rfl⟩

theorem noEffect (h : e.Shape f) (hpend : e.state.isPending = true) (proof : KnownNoEffectProof)
    (evidenceId : Uuid) (now : Nat) : (noEffectRow e proof evidenceId now).Shape f :=
  h.of_pending hpend

end ModelUsageEffect.Shape

/-- The account after a dispatch reserved an amount. -/
def ModelUsageBudgetAccount.reserve (a : ModelUsageBudgetAccount) (amount : Nat) :
    ModelUsageBudgetAccount :=
  { a with lifetimeReservedNanodollars := a.lifetimeReservedNanodollars + amount }

/-- The account after a reservation was settled at a cost. -/
def ModelUsageBudgetAccount.settle (a : ModelUsageBudgetAccount) (reserved cost : Nat) :
    ModelUsageBudgetAccount :=
  { a with
    lifetimeReservedNanodollars := a.lifetimeReservedNanodollars - reserved
    lifetimeSettledNanodollars := a.lifetimeSettledNanodollars + cost }

/-- A stored effect with its slot and the slot's profile. -/
structure Owned (l : Ledger) (row : ModelUsageEffect) (view : SlotView) (profile : ProjectModelProfile) :
    Prop where
  mem : row ∈ l.effects
  view_eq : l.slotView row.owner = some view
  profile_eq : l.profileExact view.profile = some profile

/-- One change of the ledger. -/
inductive Change (l : Ledger) : Ledger → Prop
  | profile (row : ProjectModelProfile) (hid : row.profileId ∉ l.profiles.map (·.profileId)) :
      Change l { l with profiles := l.profiles ++ [row] }
  | opened (row : ModelUsageBudgetConfiguration) (hid : row.id ∉ l.configurations.map (·.id))
      (haccount : row.spec.projectId ∉ l.accounts.map (·.projectId)) :
      Change l { l with configurations := l.configurations ++ [row],
                        accounts := l.accounts ++ [⟨row.spec.projectId, row.id, 0, 0⟩] }
  | adjusted (row : ModelUsageBudgetConfiguration) {account : ModelUsageBudgetAccount}
      (hid : row.id ∉ l.configurations.map (·.id))
      (haccount : l.budgetAccount row.spec.projectId = some account)
      (hlimit : account.lifetimeReservedNanodollars + account.lifetimeSettledNanodollars ≤
        row.spec.lifetimeLimitNanodollars) :
      Change l (({ l with configurations := l.configurations ++ [row] } : Ledger).putAccount
        { account with currentConfigurationId := row.id })
  | checkerEnvelope (row : CheckerModelUsageEnvelope) (hid : row.id ∉ l.checkerEnvelopes.map (·.id)) :
      Change l { l with checkerEnvelopes := l.checkerEnvelopes ++ [row] }
  | checkerSlot (row : CheckerModelUsageSlot) {envelope : CheckerModelUsageEnvelope}
      {profile : ProjectModelProfile} (hid : row.id ∉ l.checkerSlots.map (·.id))
      (henvelope : l.envelope row.key.toPaidEnvelopeKey = some envelope)
      (hparent : row.envelopeId = envelope.id)
      (hprofile : l.profileExact row.key.selector = some profile)
      (hproject : profile.spec.projectId = row.key.projectId) :
      Change l { l with checkerSlots := l.checkerSlots ++ [row] }
  | setupEnvelope (row : SetupModelUsageEnvelope) (hid : row.id ∉ l.setupEnvelopes.map (·.id))
      (hattempt : row.key.compilationAttemptId ∉ l.setupEnvelopes.map (·.key.compilationAttemptId)) :
      Change l { l with setupEnvelopes := l.setupEnvelopes ++ [row] }
  | setupSlot (row : SetupModelUsageSlot) {envelope : SetupModelUsageEnvelope}
      {profile : ProjectModelProfile} (hid : row.id ∉ l.setupSlots.map (·.id))
      (henvelope : l.setupEnvelope row.key.toSetupEnvelopeKey = some envelope)
      (hparent : row.envelopeId = envelope.id)
      (hprofile : l.profileExact row.key.selector = some profile)
      (hproject : profile.spec.projectId = row.key.projectId) :
      Change l { l with setupSlots := l.setupSlots ++ [row] }
  | prepared (row : ModelUsageEffect) {view : SlotView} (hid : row.id ∉ l.effects.map (·.id))
      (hview : l.slotView row.owner = some view) (hrequest : row.requestSha256 = view.requestSha256)
      (hblank : row.Blank) (hlatest : l.latestOf row.owner = none) (hnumber : row.attemptNumber = 1)
      (hparent : row.parentAttemptId = none) :
      Change l { l with effects := l.effects ++ [row] }
  | child (row : ModelUsageEffect) {view : SlotView} {latest : ModelUsageEffect}
      (hid : row.id ∉ l.effects.map (·.id)) (hview : l.slotView row.owner = some view)
      (hrequest : row.requestSha256 = view.requestSha256) (hblank : row.Blank)
      (hlatest : l.latestOf row.owner = some latest)
      (hterminal : latest.state = .knownFailed ∨ latest.state = .knownNoEffect)
      (hnumber : row.attemptNumber = latest.attemptNumber + 1)
      (hparent : row.parentAttemptId = some latest.id) :
      Change l { l with effects := l.effects ++ [row] }
  | dispatched {row : ModelUsageEffect} {view : SlotView} {profile : ProjectModelProfile}
      {account : ModelUsageBudgetAccount} {budget : ModelUsageBudgetConfiguration}
      (evidence : ModelCallEvidence) (execution : Option ModelCallExecutionFacts) (evidenceId : Uuid)
      (now : Nat) (howned : Owned l row view profile) (hstate : row.state = .prepared)
      (haccount : l.budgetAccount view.projectId = some account)
      (hbudget : l.currentBudgetConfiguration account = some budget)
      (hrun : RunAllows profile.spec.toProfileFields (totals (l.effectsUnder view.envelope))
        evidence.byteCount profile.spec.dispatchReservation profile.spec.runReservation)
      (hlifetime : account.lifetimeReservedNanodollars + account.lifetimeSettledNanodollars +
        profile.spec.dispatchReservation ≤ budget.spec.lifetimeLimitNanodollars) :
      Change l ((l.putAccount (account.reserve profile.spec.dispatchReservation)).putEffect
        (dispatchedRow row evidence budget profile.spec.dispatchReservation execution evidenceId now))
  | uncertain {row : ModelUsageEffect} (uncertaintyDigest : String) (providerResponseId : Option String)
      (evidenceId : Uuid) (hrow : row ∈ l.effects) (hstate : row.state = .dispatching) :
      Change l (l.putEffect (uncertainRow row uncertaintyDigest providerResponseId evidenceId))
  | settled {row : ModelUsageEffect} {view : SlotView} {profile : ProjectModelProfile}
      {account : ModelUsageBudgetAccount} {reserved : Nat} (target : EffectState)
      (providerResponseId : String) (evidence : ModelCallEvidence) (usage : ModelCallUsage)
      (evidenceId : Uuid) (now : Nat) (howned : Owned l row view profile)
      (hpending : row.state.isPending = true)
      (htarget : target = .completed ∨ target = .knownFailed)
      (hbytes : evidence.byteCount ≤ profile.spec.maximumResponseBytes)
      (hinput : usage.inputTokens ≤ profile.spec.maximumInputTokens)
      (houtput : usage.outputTokens ≤ profile.spec.maximumOutputTokens)
      (haccount : l.budgetAccount view.projectId = some account)
      (hreserved : row.reservedNanodollars = some reserved)
      (hcovered : reserved ≤ account.lifetimeReservedNanodollars) :
      Change l ((l.putAccount (account.settle reserved (profile.spec.price usage))).putEffect
        (settledRow row target providerResponseId evidence usage (profile.spec.price usage) evidenceId
          now))
  | released {row : ModelUsageEffect} {view : SlotView} {profile : ProjectModelProfile}
      {account : ModelUsageBudgetAccount} {reserved : Nat} (proof : KnownNoEffectProof)
      (evidenceId : Uuid) (now : Nat) (howned : Owned l row view profile)
      (hpending : row.state.isPending = true)
      (haccount : l.budgetAccount view.projectId = some account)
      (hreserved : row.reservedNanodollars = some reserved)
      (hcovered : reserved ≤ account.lifetimeReservedNanodollars) :
      Change l ((l.putAccount (account.settle reserved 0)).putEffect
        (noEffectRow row proof evidenceId now))

end Workstream.ModelUsage
