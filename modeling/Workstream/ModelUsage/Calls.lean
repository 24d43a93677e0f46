import Workstream.ModelUsage.Soundness
import Mathlib.Logic.Relation

/-! # Calls make changes -/

namespace Workstream.ModelUsage
open Foundation

/-- Zero or more changes. -/
def Reaches : Ledger → Ledger → Prop := Relation.ReflTransGen Change

namespace Reaches

variable {l l' l'' : Ledger}

theorem refl (l : Ledger) : Reaches l l := Relation.ReflTransGen.refl

theorem single (h : Change l l') : Reaches l l' := Relation.ReflTransGen.single h

theorem trans (h : Reaches l l') (h' : Reaches l' l'') : Reaches l l'' := Relation.ReflTransGen.trans h h'

theorem invariant {I : Ledger → Prop} (hI : ∀ l l', l.Sound → I l → Change l l' → I l')
    (h : Reaches l l') (hsound : l.Sound) (hl : I l) : l'.Sound ∧ I l' := by
  induction h with
  | refl => exact ⟨hsound, hl⟩
  | tail _ hchange ih => exact ⟨hchange.sound ih.1, hI _ _ ih.1 ih.2 hchange⟩

theorem sound (h : Reaches l l') (hsound : l.Sound) : l'.Sound :=
  (h.invariant (fun _ _ _ _ _ => trivial) hsound (I := fun _ => True) trivial).1

theorem grows (h : Reaches l l') : l.toRegistry.Grows l'.toRegistry := by
  induction h with
  | refl => exact .refl _
  | tail _ hchange ih => exact ih.trans hchange.grows

end Reaches

section Shared

variable {sha256 : String → String} {l l' : Ledger} {p : Ports}

variable {row : ModelUsageEffect} {profile : ProjectModelProfile}

theorem addEffect_eq_ok (h : l.addEffect row = .ok l') :
    row.id ∉ l.effects.map (·.id) ∧ l' = { l with effects := l.effects ++ [row] } := by
  unfold Ledger.addEffect at h
  simp only [eq_ok] at h
  obtain ⟨_, hid, rfl⟩ := h
  exact ⟨hid, rfl⟩

theorem authorize_eq_ok {action : String} {facts : Json} {error : ModelCallError}
    {decision : ModelActionEvidence} (h : authorize sha256 p action facts error = .ok decision) :
    p.authority = some decision := by
  unfold authorize at h
  simp only [eq_ok] at h
  obtain ⟨_, hdec, _, _, rfl⟩ := h
  exact hdec

theorem requireRun_eq_ok {f : ProfileFields} {t : ModelUsageEnvelopeTotals} {byteCount reservation : Nat}
    (h : requireRun f t byteCount = .ok reservation) :
    reservation = f.dispatchReservation ∧ RunAllows f t byteCount f.dispatchReservation f.runReservation := by
  unfold requireRun ProfileFields.maximumDispatchReservationNanodollars
    ProfileFields.maximumReservationNanodollars at h
  simp only [eq_ok] at h
  obtain ⟨_, ⟨_, ⟨_, _, rfl⟩, _, _, rfl⟩, _, ⟨_, _, rfl⟩, _, hallows, rfl⟩ := h
  exact ⟨rfl, hallows⟩

theorem modelUsageCost_eq_ok {f : ProfileFields} {usage : ModelCallUsage} {cost : Nat}
    (h : modelUsageCost f usage = .ok cost) :
    cost = f.price usage ∧ usage.inputTokens ≤ f.maximumInputTokens ∧
      usage.outputTokens ≤ f.maximumOutputTokens := by
  unfold modelUsageCost at h
  simp only [eq_ok] at h
  obtain ⟨_, ⟨hinput, houtput⟩, _, _, _, _, rfl⟩ := h
  exact ⟨rfl, hinput, houtput⟩

theorem settle_eq_ok {projectId : Uuid} {cost : Nat} (h : settle l row projectId cost = .ok l') :
    ∃ account reserved, l.budgetAccount projectId = some account ∧
      row.reservedNanodollars = some reserved ∧ reserved ≤ account.lifetimeReservedNanodollars ∧
      l' = l.putAccount (account.settle reserved cost) := by
  unfold settle at h
  simp only [eq_ok] at h
  obtain ⟨account, hacct, reserved, hresv, _, hcov, rfl⟩ := h
  exact ⟨account, reserved, hacct, hresv, hcov, rfl⟩

theorem requirePending_eq_ok {conflict unreserved : ModelCallError} {u : Unit}
    (h : requirePending row conflict unreserved = .ok u) : row.state.isPending = true := by
  unfold requirePending at h
  simp only [eq_ok] at h
  obtain ⟨_, hpend, _⟩ := h
  exact hpend

theorem profileForSlot_eq_ok {slot : ModelPaidSlotKey} (h : profileForSlot l slot = .ok profile) :
    l.profileExact slot.selector = some profile ∧ profile.spec.projectId = slot.projectId := by
  unfold profileForSlot at h
  simp only [eq_ok] at h
  obtain ⟨_, hprof, _, hproj, rfl⟩ := h
  exact ⟨hprof, hproj⟩

theorem setupProfile_eq_ok {key : SetupModelUsageSlotKey} {owner : Option SetupModelOwnerProfile}
    (h : setupProfile l key owner = .ok profile) :
    l.profileExact key.selector = some profile ∧ profile.spec.projectId = key.projectId := by
  unfold setupProfile at h
  simp only [eq_ok] at h
  obtain ⟨_, hprof, _, ⟨hproj, _⟩, rfl⟩ := h
  exact ⟨hprof, hproj⟩

end Shared

section Provisioning

variable {sha256 : String → String} {l l' : Ledger} {p : Ports}

theorem provisionProfile_reaches {facts : ModelProfileProvisioningFacts} {result : ProjectModelProfile}
    (h : provisionProfile sha256 l p facts = .ok (result, l')) : Reaches l l' := by
  unfold provisionProfile at h
  simp only [bind_eq_ok] at h
  obtain ⟨_, _, _, _, authority, _, h⟩ := h
  split at h
  · simp only [eq_ok] at h
    obtain ⟨_, _, _, rfl⟩ := h
    exact .refl l
  · simp only [eq_ok] at h
    obtain ⟨_, _, _, _, l₁, hadd, _, rfl⟩ := h
    unfold Ledger.addProfile at hadd
    simp only [eq_ok] at hadd
    obtain ⟨_, hid, rfl⟩ := hadd
    exact .single (.profile _ hid)

theorem adjustBudget_reaches {spec : ProjectModelBudgetConfigurationSpec}
    {row : ModelUsageBudgetConfiguration} {account : ModelUsageBudgetAccount} (hspec : row.spec = spec)
    (h : adjustBudget l spec row = .ok (account, l')) : Reaches l l' := by
  subst hspec
  unfold adjustBudget at h
  simp only [bind_eq_ok] at h
  obtain ⟨_, _, _, _, _, _, h⟩ := h
  split at h
  · unfold Ledger.addConfiguration Ledger.addAccount at h
    simp only [eq_ok] at h
    obtain ⟨_, ⟨_, hid, rfl⟩, _, ⟨_, hacct, rfl⟩, _, rfl⟩ := h
    exact .single (.opened row hid hacct)
  · rename_i current hacct
    unfold Ledger.addConfiguration at h
    simp only [eq_ok] at h
    obtain ⟨_, hlimit, _, ⟨_, hid, rfl⟩, _, rfl⟩ := h
    exact .single (.adjusted row hid hacct hlimit)

theorem provisionBudget_reaches {facts : ModelBudgetProvisioningFacts}
    {result : ProjectModelBudgetConfiguration}
    (h : provisionBudget sha256 l p facts = .ok (result, l')) : Reaches l l' := by
  unfold provisionBudget at h
  simp only [bind_eq_ok] at h
  obtain ⟨_, _, authority, _, h⟩ := h
  split at h
  · simp only [eq_ok] at h
    obtain ⟨_, _, _, _, _, rfl⟩ := h
    exact .refl l
  · simp only [eq_ok] at h
    obtain ⟨⟨account, l₁⟩, hadjust, _, rfl⟩ := h
    exact @adjustBudget_reaches l l₁ facts.spec _ account rfl hadjust

end Provisioning

section Preparation

variable {sha256 : String → String} {l l' : Ledger} {p : Ports}

variable {row : ModelUsageEffect} {result : PreparedModelCallAttempt}
  {execution : ModelCallExecutionFacts} {slot : ModelPaidSlotKey} {requestSha256 : String}
  {profile : ProjectModelProfile} {key : SetupModelUsageSlotKey}
  {envelope : SetupModelUsageEnvelope}

theorem mem_of_latestOf {owner : Ref} (h : l.latestOf owner = some row) :
    row ∈ l.effects ∧ row.owner = owner := by
  obtain ⟨hmem, howner⟩ := List.mem_filter.mp (List.argmax_mem h)
  exact ⟨hmem, of_decide_eq_true howner⟩

theorem prepared_eq_ok {slot : CheckerModelUsageSlot} {replayed : Bool}
    (h : (attemptOf slot row replayed).prepared = .ok result) :
    result.toAttachedModelCallAttempt = attemptOf slot row result.replayed := by
  unfold AttachedModelCallAttempt.prepared at h
  split at h
  · cases h
    rfl
  · cases h

theorem requireCheckerEnvelope_reaches {envelope : CheckerModelUsageEnvelope}
    (h : requireCheckerEnvelope l p execution slot = .ok (envelope, l')) :
    Reaches l l' ∧ l'.envelope slot.toPaidEnvelopeKey = some envelope := by
  unfold requireCheckerEnvelope at h
  split at h
  · rename_i habsent
    unfold Ledger.addCheckerEnvelope at h
    simp only [eq_ok] at h
    obtain ⟨_, ⟨_, hid, rfl⟩, rfl, rfl⟩ := h
    refine ⟨.single (.checkerEnvelope _ hid), ?_⟩
    exact Table.find_append_self (Table.not_mem_of_find_eq_none habsent)
  · rename_i row hfound
    simp only [eq_ok] at h
    obtain ⟨_, _, rfl, rfl⟩ := h
    exact ⟨.refl l, hfound⟩

theorem requireCheckerSlot_reaches {envelope : CheckerModelUsageEnvelope}
    {slotRow : CheckerModelUsageSlot}
    (henv : l.envelope slot.toPaidEnvelopeKey = some envelope)
    (hprof : l.profileExact slot.selector = some profile)
    (hproj : profile.spec.projectId = slot.projectId)
    (h : requireCheckerSlot l p envelope execution slot requestSha256 = .ok (slotRow, l')) :
    Reaches l l' ∧ slotRow ∈ l'.checkerSlots ∧ slotRow.firstRequestSha256 = requestSha256 := by
  unfold requireCheckerSlot at h
  split at h
  · unfold Ledger.addCheckerSlot at h
    simp only [eq_ok] at h
    obtain ⟨_, ⟨_, hid, rfl⟩, rfl, rfl⟩ := h
    exact ⟨.single (.checkerSlot _ hid henv rfl hprof hproj),
      List.mem_append_right _ List.mem_cons_self, rfl⟩
  · rename_i row hfound
    simp only [eq_ok] at h
    obtain ⟨_, ⟨hreq, _⟩, rfl, rfl⟩ := h
    exact ⟨.refl l, (Table.find_eq_some hfound).1, hreq⟩

/-- A preparation returns the only attempt of a new slot, or the latest one. -/
theorem prepareAttempt_eq_ok (hsound : l.Sound) {result : AttachedModelCallAttempt}
    (h : prepareAttempt sha256 l p execution slot requestSha256 = .ok (result, l')) :
    Reaches l l' ∧ ∃ slotRow ∈ l'.checkerSlots, ∃ row ∈ l'.effects,
      row.owner = ⟨.checker, slotRow.id⟩ ∧ result = attemptOf slotRow row result.replayed := by
  unfold prepareAttempt at h
  simp only [bind_eq_ok] at h
  obtain ⟨_, _, _, _, authority, _, _, _, profile, hprof, ⟨envelope, l₁⟩, henv,
    ⟨slotRow, l₂⟩, hslot, h⟩ := h
  obtain ⟨hexact, hproj⟩ := profileForSlot_eq_ok hprof
  obtain ⟨hreach₁, hfound⟩ := requireCheckerEnvelope_reaches henv
  obtain ⟨hreach₂, hmem, hreq⟩ :=
    requireCheckerSlot_reaches hfound (hreach₁.grows.profile hexact) hproj hslot
  have hreach := hreach₁.trans hreach₂
  have hsound₂ := hreach.sound hsound
  split at h
  · rename_i attempt hlatest
    obtain ⟨rfl, rfl⟩ := h
    obtain ⟨hstored, howner⟩ := mem_of_latestOf hlatest
    exact ⟨hreach, slotRow, hmem, attempt, hstored, howner, rfl⟩
  · rename_i hlatest
    simp only [eq_ok] at h
    obtain ⟨l₃, hadd, rfl, rfl⟩ := h
    obtain ⟨hid, rfl⟩ := addEffect_eq_ok hadd
    refine ⟨hreach.trans (.single (.prepared _ hid (hsound₂.registry.view_of_slot hmem) hreq.symm ?_
      hlatest rfl rfl)), slotRow, hmem, _, List.mem_append_right _ List.mem_cons_self, rfl, rfl⟩
    exact ⟨rfl, rfl, rfl, rfl, rfl, rfl⟩

theorem terminal_of_storedRetryTerminalDigest {digest : String}
    (h : storedRetryTerminalDigest sha256 row = some digest) :
    row.state = .knownFailed ∨ row.state = .knownNoEffect := by
  unfold storedRetryTerminalDigest at h
  cases hstate : row.state with
  | knownFailed => exact .inl rfl
  | knownNoEffect => exact .inr rfl
  | prepared | dispatching | uncertain | completed => rw [hstate] at h; cases h

theorem prepareRecoveryChild_eq_ok (hsound : l.Sound) {parentAttemptId : Uuid}
    {terminalDigest : String}
    (h : prepareRecoveryChild sha256 l p slot parentAttemptId terminalDigest requestSha256 =
      .ok (result, l')) :
    Reaches l l' ∧ ∃ slotRow ∈ l'.checkerSlots, ∃ row ∈ l'.effects, row.owner = ⟨.checker, slotRow.id⟩ ∧
      result.toAttachedModelCallAttempt = attemptOf slotRow row result.replayed := by
  unfold prepareRecoveryChild at h
  simp only [eq_ok] at h
  obtain ⟨_, _, request, _, authority, _, _, _, _, _, _, _, slotRow, hslot, _, hreq, latest, hlatest,
    parent, hpar, _, ⟨_, heligible⟩, h⟩ := h
  have hmem := (Table.find_eq_some hslot).1
  split at h
  · simp only [eq_ok] at h
    obtain ⟨_, _, attempt, hatt, rfl, rfl⟩ := h
    obtain ⟨hstored, howner⟩ := mem_of_latestOf hlatest
    exact ⟨.refl l, slotRow, hmem, latest, hstored, howner, prepared_eq_ok hatt⟩
  · rename_i hsame
    have hlast : latest.id = parentAttemptId := not_not.mp hsame
    rw [recoveryParent, if_pos hlast] at hpar
    cases hpar
    have hterm := terminal_of_storedRetryTerminalDigest (of_decide_eq_true heligible)
    simp only [eq_ok] at h
    obtain ⟨l₁, hadd, attempt, hatt, rfl, rfl⟩ := h
    obtain ⟨hid, rfl⟩ := addEffect_eq_ok hadd
    refine ⟨.single (.child _ hid (hsound.registry.view_of_slot hmem) hreq.symm ?_ hlatest hterm
      rfl (congrArg some hlast.symm)), slotRow, hmem, _, List.mem_append_right _ List.mem_cons_self, rfl,
      prepared_eq_ok hatt⟩
    exact ⟨rfl, rfl, rfl, rfl, rfl, rfl⟩

theorem requireSetupEnvelope_reaches (h : requireSetupEnvelope l p key = .ok (envelope, l')) :
    Reaches l l' ∧ l'.setupEnvelope key.toSetupEnvelopeKey = some envelope := by
  unfold requireSetupEnvelope at h
  split at h
  · rename_i habsent
    unfold Ledger.addSetupEnvelope at h
    simp only [eq_ok] at h
    obtain ⟨_, ⟨_, hid, _, hatt, rfl⟩, rfl, rfl⟩ := h
    refine ⟨.single (.setupEnvelope _ hid hatt), ?_⟩
    exact Table.find_append_self (Table.not_mem_of_find_eq_none habsent)
  · rename_i row hfound
    obtain ⟨rfl, rfl⟩ := h
    exact ⟨.refl l, hfound⟩

theorem requireSetupSlot_reaches {slot : SetupModelUsageSlot}
    (henv : l.setupEnvelope key.toSetupEnvelopeKey = some envelope)
    (hprof : l.profileExact key.selector = some profile)
    (hproj : profile.spec.projectId = key.projectId)
    (h : requireSetupSlot l p envelope key requestSha256 = .ok (slot, l')) :
    Reaches l l' ∧ slot ∈ l'.setupSlots ∧ slot.requestSha256 = requestSha256 := by
  unfold requireSetupSlot at h
  split at h
  · unfold Ledger.addSetupSlot at h
    simp only [eq_ok] at h
    obtain ⟨_, ⟨_, hid, rfl⟩, rfl, rfl⟩ := h
    exact ⟨.single (.setupSlot _ hid henv rfl hprof hproj),
      List.mem_append_right _ List.mem_cons_self, rfl⟩
  · rename_i row hfound
    simp only [eq_ok] at h
    obtain ⟨_, ⟨hreq, _⟩, rfl, rfl⟩ := h
    exact ⟨.refl l, (Table.find_eq_some hfound).1, hreq⟩

/-- The slot of a key has this key, although it is found by fewer columns: its envelope is the key's. -/
theorem requireSetupSlot_key (hsound : l.Sound) {slot : SetupModelUsageSlot}
    (henv : l.setupEnvelope key.toSetupEnvelopeKey = some envelope)
    (h : requireSetupSlot l p envelope key requestSha256 = .ok (slot, l')) :
    slot.key = key ∧ slot.envelopeId = envelope.id := by
  unfold requireSetupSlot at h
  split at h
  · simp only [eq_ok] at h
    obtain ⟨_, _, rfl, -⟩ := h
    exact ⟨rfl, rfl⟩
  · rename_i row hfound
    simp only [eq_ok] at h
    obtain ⟨_, ⟨_, hpar⟩, rfl, -⟩ := h
    obtain ⟨hmem, hstable⟩ := Table.find_eq_some hfound
    obtain ⟨stored, hstored, hid⟩ := hsound.registry.setupSlotEnvelope row hmem
    obtain ⟨hstoredMem, hstoredKey⟩ := Table.find_eq_some hstored
    obtain ⟨henvelopeMem, henvelopeKey⟩ := Table.find_eq_some henv
    have hsame : stored = envelope := Table.eq_of_key_eq hsound.registry.setupEnvelopeIds hstoredMem
      henvelopeMem (hid.symm.trans hpar)
    have hrun : row.key.toSetupEnvelopeKey = key.toSetupEnvelopeKey := by
      rw [← hstoredKey, hsame, henvelopeKey]
    unfold SetupModelUsageSlotKey.stableIdentity at hstable
    simp only [Prod.mk.injEq] at hstable
    obtain ⟨-, -, -, hphase, hindex⟩ := hstable
    refine ⟨?_, hpar⟩
    obtain ⟨run, phase, callIndex⟩ := key
    subst hrun hphase hindex
    rfl

theorem setupPrepare_eq_ok (hsound : l.Sound) {result : PreparedSetupModelUsageEffect}
    (h : setupPrepare sha256 l p key requestSha256 = .ok (result, l')) :
    Reaches l l' ∧ ∃ slot ∈ l'.setupSlots, ∃ envelope, slot.envelopeId = envelope.id ∧
      ∃ row ∈ l'.effects, row.owner = ⟨.setup, slot.id⟩ ∧
        result = setupPrepared envelope slot row slot.key result.replayed := by
  unfold setupPrepare at h
  simp only [bind_eq_ok] at h
  obtain ⟨authority, _, _, _, profile, hprof, _, _, ⟨envelope, l₁⟩, henv, ⟨slot, l₂⟩, hslot,
    h⟩ := h
  obtain ⟨hexact, hproj⟩ := setupProfile_eq_ok hprof
  obtain ⟨hreach₁, hfound⟩ := requireSetupEnvelope_reaches henv
  obtain ⟨hreach₂, hmem, hreq⟩ :=
    requireSetupSlot_reaches hfound (hreach₁.grows.profile hexact) hproj hslot
  obtain ⟨rfl, hpar⟩ := requireSetupSlot_key (hreach₁.sound hsound) hfound hslot
  have hreach := hreach₁.trans hreach₂
  have hsound₂ := hreach.sound hsound
  split at h
  · rename_i effect hlatest
    obtain ⟨rfl, rfl⟩ := h
    obtain ⟨hstored, howner⟩ := mem_of_latestOf hlatest
    exact ⟨hreach, slot, hmem, envelope, hpar, effect, hstored, howner, rfl⟩
  · rename_i hlatest
    simp only [eq_ok] at h
    obtain ⟨l₃, hadd, rfl, rfl⟩ := h
    obtain ⟨hid, rfl⟩ := addEffect_eq_ok hadd
    refine ⟨hreach.trans (.single (.prepared _ hid (hsound₂.registry.view_of_setupSlot hmem)
      hreq.symm ?_ hlatest rfl rfl)), slot, hmem, envelope, hpar, _,
      List.mem_append_right _ List.mem_cons_self, rfl, rfl⟩
    exact ⟨rfl, rfl, rfl, rfl, rfl, rfl⟩

end Preparation

section Dispatch

variable {sha256 : String → String} {l l' : Ledger} {p : Ports}

variable {budget : ModelUsageBudgetConfiguration} {attempt : PreparedModelCallAttempt}
  {row : ModelUsageEffect} {requestEvidence : ModelCallEvidence}
  {execution : ModelCallExecutionFacts} {prepared : PreparedSetupModelUsageEffect}
  {envelope : SetupModelUsageEnvelope} {slot : SetupModelUsageSlot}
  {result : SetupModelDispatchReservation}

theorem reserveLifetime_eq_ok {exhausted : ModelCallError} {projectId : Uuid} {reservation : Nat}
    (h : reserveLifetime l exhausted projectId reservation = .ok (budget, l')) :
    ∃ account, l.budgetAccount projectId = some account ∧
      l.currentBudgetConfiguration account = some budget ∧
      account.lifetimeReservedNanodollars + account.lifetimeSettledNanodollars + reservation ≤
        budget.spec.lifetimeLimitNanodollars ∧ l' = l.putAccount (account.reserve reservation) := by
  unfold reserveLifetime at h
  simp only [eq_ok] at h
  obtain ⟨account, hacct, _, hbud, _, hlimit, rfl, rfl⟩ := h
  exact ⟨account, hacct, hbud, hlimit, rfl⟩

theorem lockedAttempt_eq_ok {envelope : CheckerModelUsageEnvelope} {slotRow : CheckerModelUsageSlot}
    (h : lockedAttempt l attempt = .ok (envelope, slotRow, row)) :
    l.envelope attempt.slotKey.toPaidEnvelopeKey = some envelope ∧ slotRow ∈ l.checkerSlots ∧
      slotRow.key = attempt.slotKey ∧ l.attempt attempt.attemptId = some row ∧
      row.owner = ⟨.checker, slotRow.id⟩ := by
  unfold lockedAttempt at h
  simp only [eq_ok] at h
  obtain ⟨_, henv, _, hslot, _, _, _, hrow, _, howner, rfl, rfl, rfl⟩ := h
  obtain ⟨hmem, hkey⟩ := Table.find_eq_some hslot
  exact ⟨henv, hmem, hkey, hrow, howner⟩

def Dispatched (l l' : Ledger) (row : ModelUsageEffect) (requestEvidence : ModelCallEvidence)
    (execution : Option ModelCallExecutionFacts) (evidenceId : Uuid) (now : Nat) : Prop :=
  row.state = .prepared ∧ ∃ view profile account budget, Owned l row view profile ∧
    l.budgetAccount view.projectId = some account ∧ l.currentBudgetConfiguration account = some budget ∧
    RunAllows profile.spec.toProfileFields (totals (l.effectsUnder view.envelope))
      requestEvidence.byteCount profile.spec.dispatchReservation profile.spec.runReservation ∧
    account.lifetimeReservedNanodollars + account.lifetimeSettledNanodollars +
      profile.spec.dispatchReservation ≤ budget.spec.lifetimeLimitNanodollars ∧
    l' = (l.putAccount (account.reserve profile.spec.dispatchReservation)).putEffect
      (dispatchedRow row requestEvidence budget profile.spec.dispatchReservation execution evidenceId now)

theorem Dispatched.change {execution : Option ModelCallExecutionFacts} {evidenceId : Uuid}
    {now : Nat} (h : Dispatched l l' row requestEvidence execution evidenceId now) :
    Change l l' := by
  obtain ⟨hprep, view, profile, account, budget, howned, hacct, hbud, hallows, hlimit, rfl⟩ := h
  exact .dispatched requestEvidence execution evidenceId now howned hprep hacct hbud hallows
    hlimit

theorem reserveDispatch_eq_ok (hsound : l.Sound) {result : ModelDispatchReservation}
    (h : reserveDispatch sha256 l p execution attempt requestEvidence = .ok (result, l')) :
    execution.projectId = attempt.slotKey.projectId ∧ ∃ row decision,
      l.attempt attempt.attemptId = some row ∧ p.authority = some decision ∧
      (row.state ≠ .prepared ∧ l' = l ∨
        Dispatched l l' row requestEvidence (some execution) decision.evidenceId p.now) := by
  unfold reserveDispatch at h
  simp only [bind_eq_ok] at h
  obtain ⟨_, hexecution, decision, hdec, _, _, _, _, profile, hprof, _, _,
    ⟨envelope, slotRow, row⟩, hlocked, h⟩ := h
  obtain ⟨hexact, hproj⟩ := profileForSlot_eq_ok hprof
  obtain ⟨henv, hslot, hkey, hrow, howner⟩ := lockedAttempt_eq_ok hlocked
  have hsame := (require_eq_ok.mp hexecution).1
  refine ⟨hsame, row, decision, hrow, authorize_eq_ok hdec, ?_⟩
  split at h
  · rename_i hdone
    simp only [eq_ok] at h
    obtain ⟨_, _, _, _, _, _, _, rfl⟩ := h
    exact .inl ⟨hdone, rfl⟩
  · rename_i hprep
    simp only [eq_ok] at h
    obtain ⟨_, _, reservation, hrun, ⟨budget, l₁⟩, hlife, _, _, _, rfl⟩ := h
    obtain ⟨rfl, hallows⟩ := requireRun_eq_ok hrun
    obtain ⟨account, hacct, hbud, hlimit, rfl⟩ := reserveLifetime_eq_ok hlife
    have howned : Owned l row slotRow.view profile := by
      refine ⟨(Table.find_eq_some hrow).1, ?_, ?_⟩
      · rw [howner]
        exact hsound.registry.view_of_slot hslot
      · unfold CheckerModelUsageSlot.view
        rw [hkey]
        exact hexact
    -- The slot hangs on the envelope whose totals were read: both have the paid key of the attempt.
    obtain ⟨envelope', hfound, hid⟩ := hsound.registry.slotEnvelope slotRow hslot
    rw [hkey, henv] at hfound
    cases hfound
    rw [← hkey] at hacct
    refine .inr ⟨not_not.mp hprep, slotRow.view, profile, account, budget, howned, hacct, hbud,
      ?_, hlimit, rfl⟩
    unfold CheckerModelUsageSlot.view
    rw [hid]
    exact hallows

theorem reserveDispatch_reaches (hsound : l.Sound) {result : ModelDispatchReservation}
    (h : reserveDispatch sha256 l p execution attempt requestEvidence = .ok (result, l')) :
    Reaches l l' := by
  obtain ⟨-, row, decision, -, -, ⟨-, rfl⟩ | hdisp⟩ := reserveDispatch_eq_ok hsound h
  · exact .refl _
  · exact .single hdisp.change

theorem lockedSetupEffect_eq_ok (h : lockedSetupEffect l prepared = .ok (envelope, slot, row)) :
    l.setupEnvelope prepared.slotKey.toSetupEnvelopeKey = some envelope ∧ slot ∈ l.setupSlots ∧
      l.attempt prepared.effectId = some row ∧ row.owner = ⟨.setup, slot.id⟩ := by
  unfold lockedSetupEffect at h
  simp only [eq_ok] at h
  obtain ⟨_, henv, _, _, _, hslot, _, _, _, hrow, _, howner, rfl, rfl, rfl⟩ := h
  exact ⟨henv, (Table.find_eq_some hslot).1, hrow, howner⟩

theorem setupDispatchResult_eq_ok {key : SetupModelUsageSlotKey} {evidence : ModelCallEvidence}
    {replayed : Bool} (h : setupDispatchResult envelope slot row key evidence replayed = .ok result) :
    slot.key = key := by
  unfold setupDispatchResult at h
  simp only [eq_ok] at h
  obtain ⟨_, _, _, _, _, ⟨_, hkey⟩, _⟩ := h
  exact hkey

theorem setupReserveDispatch_eq_ok (hsound : l.Sound)
    (h : setupReserveDispatch sha256 l p prepared requestEvidence = .ok (result, l')) :
    ∃ row decision, l.attempt prepared.effectId = some row ∧ p.authority = some decision ∧
      (row.state ≠ .prepared ∧ l' = l ∨
        Dispatched l l' row requestEvidence row.dispatchExecutionFacts decision.evidenceId p.now) := by
  unfold setupReserveDispatch at h
  simp only [bind_eq_ok] at h
  obtain ⟨decision, hdec, _, _, _, _, profile, hprof, _, _, ⟨envelope, slot, row⟩, hlocked, h⟩ := h
  obtain ⟨hexact, hproj⟩ := setupProfile_eq_ok hprof
  obtain ⟨henv, hslot, hrow, howner⟩ := lockedSetupEffect_eq_ok hlocked
  refine ⟨row, decision, hrow, authorize_eq_ok hdec, ?_⟩
  split at h
  · rename_i hdone
    simp only [eq_ok] at h
    obtain ⟨_, _, _, _, _, _, _, rfl⟩ := h
    exact .inl ⟨hdone, rfl⟩
  · rename_i hprep
    simp only [eq_ok] at h
    obtain ⟨reservation, hrun, ⟨budget, l₁⟩, hlife, _, hres, _, rfl⟩ := h
    obtain ⟨rfl, hallows⟩ := requireRun_eq_ok hrun
    obtain ⟨account, hacct, hbud, hlimit, rfl⟩ := reserveLifetime_eq_ok hlife
    have hkey := setupDispatchResult_eq_ok hres
    have howned : Owned l row slot.view profile := by
      refine ⟨(Table.find_eq_some hrow).1, ?_, ?_⟩
      · rw [howner]
        exact hsound.registry.view_of_setupSlot hslot
      · unfold SetupModelUsageSlot.view
        rw [hkey]
        exact hexact
    obtain ⟨envelope', hfound, hid⟩ := hsound.registry.setupSlotEnvelope slot hslot
    rw [hkey, henv] at hfound
    cases hfound
    rw [← hkey] at hacct
    refine .inr ⟨not_not.mp hprep, slot.view, profile, account, budget, howned, hacct, hbud, ?_,
      hlimit, rfl⟩
    unfold SetupModelUsageSlot.view
    rw [hid]
    exact hallows

theorem setupReserveDispatch_reaches (hsound : l.Sound)
    (h : setupReserveDispatch sha256 l p prepared requestEvidence = .ok (result, l')) :
    Reaches l l' := by
  obtain ⟨row, decision, -, -, ⟨-, rfl⟩ | hdisp⟩ := setupReserveDispatch_eq_ok hsound h
  · exact .refl _
  · exact .single hdisp.change

end Dispatch

end Workstream.ModelUsage
