import Workstream.ModelUsage.Advances
import Workstream.ModelUsage.DispatchAuthority

/-!
# Handles of prepared effects

A caller gets a handle from the first preparation of a slot or, after a crash, from a later one, which
marks it as replayed.
-/

namespace Workstream.ModelUsage
open Foundation

theorem DispatchHandle.Describes.of_same {l l' : Ledger} {row row' : ModelUsageEffect}
    {handle : DispatchHandle} (h : handle.Describes l row)
    (hgrows : l.toRegistry.Grows l'.toRegistry) (hsame : row.Same row') (hprep : row'.state = .prepared) :
    handle.Describes l' row' := by
  cases handle with
  | checker execution attempt =>
    obtain ⟨slot, hslot, howner, heq⟩ := h
    refine ⟨slot, hgrows.checkerSlots.subset hslot, hsame.owner.trans howner, ?_⟩
    have hstate : row.state = .prepared := by
      rw [← attempt.isPrepared, heq]
      rfl
    rw [heq]
    unfold attemptOf
    rw [hsame.id, hsame.attemptNumber, hsame.internalCallRequestId, hsame.requestSha256, hprep, hstate]
  | setup =>
    obtain ⟨slot, hslot, envelope, henv, howner, heq⟩ := h
    refine ⟨slot, hgrows.setupSlots.subset hslot, envelope, henv, hsame.owner.trans howner, ?_⟩
    rw [heq]
    unfold setupPrepared
    rw [hsame.id, hsame.attemptNumber, hsame.internalCallRequestId, hsame.requestSha256]

/-- What a caller can hold in a ledger: the result of a preparation in a run that led to it. -/
def DispatchHandle.Obtained (sha256 : String → String) (l : Ledger) (handle : DispatchHandle) : Prop :=
  ∃ before after p l₁, l = run (step sha256) l₁ after ∧
    match handle with
    | .checker _ attempt =>
      (∃ execution slot requestSha256,
        prepareAttempt sha256 (run (step sha256) {} before) p execution slot requestSha256 =
          .ok (attempt.toAttachedModelCallAttempt, l₁)) ∨
      ∃ slot parentAttemptId terminalDigest requestSha256,
        prepareRecoveryChild sha256 (run (step sha256) {} before) p slot parentAttemptId terminalDigest
          requestSha256 = .ok (attempt, l₁)
    | .setup prepared => ∃ key requestSha256,
      setupPrepare sha256 (run (step sha256) {} before) p key requestSha256 = .ok (prepared, l₁)

section Obtained

variable {sha256 : String → String} {l : Ledger} {handle : DispatchHandle} {row : ModelUsageEffect}

theorem DispatchHandle.Obtained.origin (h : handle.Obtained sha256 l) :
    ∃ l₁ row₁, l₁.Sound ∧ Reaches l₁ l ∧ row₁ ∈ l₁.effects ∧ handle.Describes l₁ row₁ := by
  obtain ⟨before, after, p, l₁, rfl, h⟩ := h
  have hsound := run_sound sha256 before
  cases handle with
  | checker execution attempt =>
    obtain ⟨hreach, slot, hslot, row, hrow, howner, heq⟩ :
        Reaches (run (step sha256) {} before) l₁ ∧ ∃ slotRow ∈ l₁.checkerSlots, ∃ row ∈ l₁.effects,
          row.owner = ⟨.checker, slotRow.id⟩ ∧
          attempt.toAttachedModelCallAttempt = attemptOf slotRow row attempt.replayed := by
      rcases h with ⟨execution, slot, requestSha256, h⟩ | ⟨slot, parent, digest, requestSha256, h⟩
      · exact prepareAttempt_eq_ok hsound h
      · exact prepareRecoveryChild_eq_ok hsound h
    have hsound₁ := hreach.sound hsound
    exact ⟨l₁, row, hsound₁, run_reaches hsound₁ after, hrow, slot, hslot, howner, heq⟩
  | setup =>
    obtain ⟨key, requestSha256, h⟩ := h
    obtain ⟨hreach, slot, hslot, envelope, henv, row, hrow, howner, heq⟩ := setupPrepare_eq_ok hsound h
    have hsound₁ := hreach.sound hsound
    exact ⟨l₁, row, hsound₁, run_reaches hsound₁ after, hrow, slot, hslot, envelope, henv, howner, heq⟩

/-- The handle of a caller describes the row of its effect, if that is still prepared. -/
theorem DispatchHandle.Obtained.describes (h : handle.Obtained sha256 l) (hrow : row ∈ l.effects)
    (hid : row.id = handle.effectId) (hprep : row.state = .prepared) :
    l.Sound ∧ handle.Describes l row := by
  obtain ⟨l₁, row₁, hsound₁, hreach, hrow₁, hdesc⟩ := h.origin
  have hsound := hreach.sound hsound₁
  obtain ⟨row', hrow', ⟨hsame, -, -, -⟩⟩ := hreach.advances hsound₁ hrow₁
  have heq : row' = row := by
    apply Table.eq_of_key_eq hsound.effectIds hrow' hrow
    rw [hsame.id, hid, hdesc.effectId_eq]
  subst heq
  exact ⟨hsound, hdesc.of_same hreach.grows hsame hprep⟩

end Obtained

/-- For a handle of a prepared effect, wherever the run has come: the guard rebuilds the facts that a
dispatch has authorized, and the dispatch succeeds exactly when it would from the fresh handle, if and
only if the owner is the checker or the handle is fresh. -/
theorem dispatch_facts_agree_iff (sha256 : String → String) (l : Ledger) (handle : DispatchHandle)
    (hobtained : handle.Obtained sha256 l) (row : ModelUsageEffect) (hrow : row ∈ l.effects)
    (hid : row.id = handle.effectId) (hprepared : row.state = .prepared)
    (requestEvidence : ModelCallEvidence) :
    (phaseFacts l (handle.writes row requestEvidence) = some (handle.facts requestEvidence) ∧
      ∀ trail clauses p l',
        dispatch sha256 trail clauses l p handle requestEvidence = .ok l' ↔
          dispatch sha256 trail clauses l p handle.fresh requestEvidence = .ok l') ↔
      handle.kind = .checker ∨ handle.replayed = false := by
  obtain ⟨hsound, hdesc⟩ := hobtained.describes hrow hid hprepared
  have hfacts := phaseFacts_writes_iff hsound hprepared hdesc requestEvidence
  constructor
  · intro h
    exact hfacts.mp h.1
  · intro hagrees
    refine ⟨hfacts.mpr hagrees, ?_⟩
    intro trail clauses p l'
    cases handle with
    | checker => exact Iff.rfl
    | setup prepared =>
      have hflag : prepared.replayed = false := hagrees.resolve_left (fun h => by cases h)
      have hsame : { prepared with replayed := false } = prepared := by
        rw [← hflag]
      unfold DispatchHandle.fresh
      dsimp only
      rw [hsame]

/-! ### A replayed setup handle

A worker prepares a setup call and dies; the next one prepares it again and holds a replayed handle. -/

def sampleDigest : String :=
  "sha256:0000000000000000000000000000000000000000000000000000000000000000"

def sampleSpec : ProjectModelProfileSpec where
  projectId := "project"
  profileVersion := 1
  provider := "provider"
  api := "responses"
  modelSnapshot := "snapshot"
  settings := ⟨.low, .low⟩
  maximumRequestBytes := 100
  maximumOutputBytes := 1
  maximumResponseBytes := 4102
  maximumInputTokens := 10
  maximumOutputTokens := 10
  maximumCalls := 1
  maximumTotalRequestBytes := 100
  maximumTotalResponseBytes := 4102
  maximumTotalInputTokens := 10
  maximumTotalOutputTokens := 10
  allowedTools := []
  maximumToolCalls := 0
  maximumToolOutputBytes := 0
  deadlineMs := 1000
  pricing := ⟨"pricing", 1, sampleDigest, 1, 1, 1⟩
  inRange := by decide
  coherentBounds := by decide

def sampleBudget : ProjectModelBudgetConfigurationSpec where
  projectId := "project"
  configurationVersion := 1
  authorizedTotalNanodollars := 1000
  externallyReconciledPriorSpendNanodollars := 0
  lifetimeLimitNanodollars := 1000
  valid := by decide

def sampleEvidence : ModelCallEvidence :=
  ⟨"binding", "content", "put", "receipt", sampleDigest, 10, by decide⟩

def sampleEffect : ModelUsageEffect :=
  { id := "effect", owner := ⟨.setup, "slot"⟩, attemptNumber := 1, internalCallRequestId := "request",
    requestSha256 := sampleDigest, preparedAuthorizationEvidenceId := "decision" }

section Sample

variable (sha256 : String → String)

def sampleProfile : ProjectModelProfile where
  operationId := "operation"
  actorProfileId := "actor"
  spec := sampleSpec
  profileDigest := canonicalJsonHash sha256 sampleSpec.toJson
  profileId := "profile"
  authorizationEvidenceId := "decision"

def sampleConfiguration : ModelUsageBudgetConfiguration where
  operationId := "operation"
  actorProfileId := "actor"
  spec := sampleBudget
  configurationDigest := canonicalJsonHash sha256 sampleBudget.toJson
  id := "budget"
  authorizationEvidenceId := "decision"

def samplePorts (recordId action : String) (facts : Json) : Ports where
  authority := some ⟨"decision", modelActionDigest sha256 action facts⟩
  current := true
  evidence := true
  owner := some ⟨(sampleProfile sha256).selector, "provider", "responses", "snapshot"⟩
  now := 0
  ids := ⟨recordId, "envelope", "slot", "effect", "request"⟩

def sampleKey : SetupModelUsageSlotKey where
  compilationAttemptId := "compilation"
  projectId := "project"
  guideId := "guide"
  sourceSnapshotId := "source"
  setupRunId := "run"
  setupGeneration := 1
  runtimeConfigurationHash := sampleDigest
  profileId := "profile"
  profileVersion := 1
  profileDigest := canonicalJsonHash sha256 sampleSpec.toJson
  phase := .draft
  callIndex := 0

def samplePreparePorts : Ports :=
  samplePorts sha256 "unused" "setup_prepare"
    (.obj [("slot", (sampleKey sha256).toJson), ("request_sha256", .str sampleDigest)])

def sampleProfileRequest : Request :=
  let facts := (sampleProfile sha256).toModelProfileProvisioningFacts
  ⟨samplePorts sha256 "profile" "profile" facts.toJson, .provisionProfile facts, true⟩

def sampleBudgetRequest : Request :=
  let facts := (sampleConfiguration sha256).toModelBudgetProvisioningFacts
  ⟨samplePorts sha256 "budget" "budget" facts.toJson, .provisionBudget facts, true⟩

def samplePrepared (replayed : Bool) : PreparedSetupModelUsageEffect :=
  ⟨"envelope", "slot", sampleKey sha256, "effect", 1, "request", sampleDigest, replayed⟩

def sampleLedger : Ledger where
  profiles := [sampleProfile sha256]
  configurations := [sampleConfiguration sha256]
  accounts := [⟨"project", "budget", 0, 0⟩]
  setupEnvelopes := [⟨"envelope", (sampleKey sha256).toSetupEnvelopeKey⟩]
  setupSlots := [⟨"slot", "envelope", sampleKey sha256, sampleDigest⟩]
  effects := [sampleEffect]

theorem step_sampleProfileRequest :
    step sha256 {} (sampleProfileRequest sha256) = { profiles := [sampleProfile sha256] } := by
  have hreservation : sampleSpec.maximumReservationNanodollars = .ok 20 := rfl
  have hver : sampleSpec.profileVersion = 1 := rfl
  simp [sampleProfileRequest, step, call, provisionProfile, authorize, samplePorts, sampleProfile,
    hreservation, hver, require, required, Registry.profileByOperation, Registry.profileByVersion,
    Registry.latestProfile, Ledger.addProfile, Table.find, Except.map, bind, Except.bind, pure, Except.pure]

theorem step_sampleBudgetRequest :
    step sha256 { profiles := [sampleProfile sha256] } (sampleBudgetRequest sha256) =
      { profiles := [sampleProfile sha256], configurations := [sampleConfiguration sha256],
        accounts := [⟨"project", "budget", 0, 0⟩] } := by
  simp [sampleBudgetRequest, step, call, provisionBudget, adjustBudget, authorize, samplePorts,
    sampleConfiguration, sampleBudget, require, required, Ledger.budgetConfigurationByOperation,
    Ledger.budgetAccount, Ledger.budgetConfigurationByVersion, Ledger.addConfiguration, Ledger.addAccount,
    Table.find, Except.map, bind, Except.bind, pure, Except.pure]

theorem run_sampleProvisioning :
    run (step sha256) {} [sampleProfileRequest sha256, sampleBudgetRequest sha256] =
      { profiles := [sampleProfile sha256], configurations := [sampleConfiguration sha256],
        accounts := [⟨"project", "budget", 0, 0⟩] } := by
  rw [run_cons, step_sampleProfileRequest, run_cons, step_sampleBudgetRequest, run_nil]

theorem setupProfile_sample {l : Ledger} (hprofiles : l.profiles = [sampleProfile sha256]) :
    setupProfile l (sampleKey sha256) (samplePreparePorts sha256).owner = .ok (sampleProfile sha256) := by
  have hproj : sampleSpec.projectId = "project" := rfl
  have hver : sampleSpec.profileVersion = 1 := rfl
  have hprovider : sampleSpec.provider = "provider" := rfl
  have hapi : sampleSpec.api = "responses" := rfl
  have hsnap : sampleSpec.modelSnapshot = "snapshot" := rfl
  simp [setupProfile, Registry.profileExact, Table.find, hprofiles, sampleProfile, sampleKey,
    ProjectModelProfile.selector, SetupEnvelopeKey.selector, samplePreparePorts, samplePorts, hproj,
    hver, hprovider, hapi, hsnap, require, required, bind, Except.bind, pure, Except.pure]

theorem setupPrepare_sample : setupPrepare sha256
    { profiles := [sampleProfile sha256], configurations := [sampleConfiguration sha256],
      accounts := [⟨"project", "budget", 0, 0⟩] }
    (samplePreparePorts sha256) (sampleKey sha256) sampleDigest =
      .ok (samplePrepared sha256 false, sampleLedger sha256) := by
  have hprof := @setupProfile_sample sha256
    { profiles := [sampleProfile sha256], configurations := [sampleConfiguration sha256],
      accounts := [⟨"project", "budget", 0, 0⟩] } rfl
  have hcall : (sampleKey sha256).callIndex < (sampleProfile sha256).spec.maximumCalls := Nat.zero_lt_one
  simp only [samplePreparePorts, samplePorts] at hprof
  simp [setupPrepare, authorize, samplePreparePorts, samplePorts, hprof, hcall, requireSetupEnvelope,
    requireSetupSlot, Registry.setupEnvelope, Registry.setupSlot, Ledger.addSetupEnvelope,
    Ledger.addSetupSlot, Ledger.addEffect, Ledger.latestSetupEffect, Ledger.latestOf, Ledger.attemptsOf,
    sampleLedger, samplePrepared, setupPrepared, sampleEffect, Table.find, require, required, bind,
    Except.bind, pure, Except.pure]

theorem setupPrepare_sampleLedger : setupPrepare sha256 (sampleLedger sha256) (samplePreparePorts sha256)
    (sampleKey sha256) sampleDigest = .ok (samplePrepared sha256 true, sampleLedger sha256) := by
  have hprof := @setupProfile_sample sha256 (sampleLedger sha256) rfl
  have hcall : (sampleKey sha256).callIndex < (sampleProfile sha256).spec.maximumCalls := Nat.zero_lt_one
  simp only [samplePreparePorts, samplePorts, sampleLedger, sampleEffect] at hprof
  simp [setupPrepare, authorize, samplePreparePorts, samplePorts, hprof, hcall, requireSetupEnvelope,
    requireSetupSlot, Registry.setupEnvelope, Registry.setupSlot, Ledger.latestSetupEffect, Ledger.latestOf,
    Ledger.attemptsOf, sampleLedger, samplePrepared, setupPrepared, sampleEffect, Table.find, require,
    required, bind, Except.bind, pure, Except.pure]

def sampleRequests : List Request :=
  [sampleProfileRequest sha256, sampleBudgetRequest sha256] ++
    [⟨samplePreparePorts sha256, .setupPrepare (sampleKey sha256) sampleDigest, true⟩]

theorem run_sampleRequests : run (step sha256) {} (sampleRequests sha256) = sampleLedger sha256 := by
  unfold sampleRequests
  rw [run_append, run_sampleProvisioning, run_cons, run_nil]
  simp only [step, call, setupPrepare_sample, Except.map]
  rfl

theorem obtained_samplePrepared :
    (DispatchHandle.setup (samplePrepared sha256 true)).Obtained sha256 (sampleLedger sha256) := by
  refine ⟨sampleRequests sha256, [], samplePreparePorts sha256, sampleLedger sha256, rfl, sampleKey sha256,
    sampleDigest, ?_⟩
  rw [run_sampleRequests]
  exact setupPrepare_sampleLedger sha256

theorem lockedSetupEffect_sample (replayed : Bool) :
    lockedSetupEffect (sampleLedger sha256) (samplePrepared sha256 replayed) =
      .ok (⟨"envelope", (sampleKey sha256).toSetupEnvelopeKey⟩,
        ⟨"slot", "envelope", sampleKey sha256, sampleDigest⟩, sampleEffect) := by
  simp [lockedSetupEffect, sampleLedger, samplePrepared, sampleEffect, Registry.setupEnvelope,
    Registry.setupSlot, Ledger.attempt, Table.find, require, required, bind, Except.bind, pure, Except.pure]

theorem requireRun_sample : requireRun (sampleProfile sha256).spec.toProfileFields
    ((sampleLedger sha256).setupEnvelopeTotals "envelope") sampleEvidence.byteCount = .ok 20 := by
  have htotals : (sampleLedger sha256).setupEnvelopeTotals "envelope" = totals [sampleEffect] := by
    simp [Ledger.setupEnvelopeTotals, Ledger.effectsUnder, Ledger.effectsWith, sampleLedger, sampleEffect,
      Registry.slotView, Registry.setupSlotById, Table.find, SetupModelUsageSlot.view]
  have hrun : requireRun sampleSpec.toProfileFields (totals [sampleEffect]) 10 = .ok 20 := by decide
  exact hrun

theorem reserveLifetime_sample :
    reserveLifetime (sampleLedger sha256) (.budgetUnavailable "model_budget_unavailable") "project" 20 =
    .ok (sampleConfiguration sha256, (sampleLedger sha256).putAccount ⟨"project", "budget", 20, 0⟩) := by
  simp [reserveLifetime, sampleLedger, sampleConfiguration, sampleBudget, Ledger.budgetAccount,
    Ledger.currentBudgetConfiguration, Table.find, require, required, bind, Except.bind, pure, Except.pure]

def sampleDispatched : Ledger :=
  ((sampleLedger sha256).putAccount ⟨"project", "budget", 20, 0⟩).putEffect
    (dispatchedRow sampleEffect sampleEvidence (sampleConfiguration sha256) 20 none "decision" 0)

/-- The service itself takes the handle, replayed or not. -/
theorem reserve_samplePrepared (replayed : Bool) : reserve sha256 (sampleLedger sha256)
    (authorizedPorts sha256 (samplePreparePorts sha256) (.setup (samplePrepared sha256 replayed))
      sampleEvidence) (.setup (samplePrepared sha256 replayed)) sampleEvidence =
        .ok (sampleDispatched sha256) := by
  have hprof := @setupProfile_sample sha256 (sampleLedger sha256) rfl
  have hkey : (samplePrepared sha256 replayed).slotKey = sampleKey sha256 := rfl
  have hproj : (sampleKey sha256).projectId = "project" := rfl
  have hdig : sampleEvidence.contentSha256 = (samplePrepared sha256 replayed).requestSha256 := rfl
  have hbytes : sampleEvidence.byteCount ≤ (sampleProfile sha256).spec.maximumRequestBytes :=
    show 10 ≤ 100 by decide
  have hstate : sampleEffect.state = .prepared := rfl
  simp only [samplePreparePorts, samplePorts] at hprof
  simp only [reserve, Except.map, setupReserveDispatch, bind, Except.bind, authorize, required,
    authorizedPorts, OwnerKind.dispatchName, DispatchHandle.kind, DispatchHandle.facts,
    samplePreparePorts, samplePorts, Option.map_some, require, ↓reduceIte, pure, Except.pure, hkey,
    hprof, hdig, hbytes, and_self, lockedSetupEffect_sample, hstate, ne_eq, not_true_eq_false,
    requireRun_sample, hproj, reserveLifetime_sample, setupDispatchResult, dispatchedRow,
    setupEffectFacts, sampleDispatched, Except.ok.injEq]
  rfl

theorem resourceContextDigest_sample_ne :
    resourceContextDigest id .setup "effect" "project"
        (setupDispatchFacts (samplePrepared id true) sampleEvidence) ≠
      resourceContextDigest id .setup "effect" "project"
        (setupDispatchFacts (samplePrepared id false) sampleEvidence) := by
  intro h
  have hdistinct : ∀ replayed digest, Json.DistinctKeys (.obj [("resource_context",
      .obj [("resource_type", .str OwnerKind.setup.resourceType), ("resource_id", .str "effect"),
        ("scope_project_id", .str "project"), ("action_id", .str OwnerKind.setup.dispatchAction),
        ("facts", setupDispatchFacts (samplePrepared id replayed) sampleEvidence),
        ("facts_digest", .str digest)])]) := by
    intro replayed digest
    simp [Json.DistinctKeys, Json.DistinctKeysFields, setupDispatchFacts, number,
      PreparedSetupModelUsageEffect.toJson, SetupModelUsageSlotKey.toJson, ModelCallEvidence.toJson]
  have htext := String.append_right_inj _ |>.mp h
  have hcontext := Json.canon_eq_of_dumps_eq (hdistinct true _) (hdistinct false _) htext
  have hinner := Json.canon_member_eq "resource_context" _ _ (hdistinct false _).1 hcontext (.head _)
    (.head _)
  have hfacts := Json.canon_member_eq "facts" (setupDispatchFacts (samplePrepared id true) sampleEvidence)
    (setupDispatchFacts (samplePrepared id false) sampleEvidence) (by simp) hinner (by simp) (by simp)
  have hprep := Json.canon_member_eq "prepared" (samplePrepared id true).toJson
    (samplePrepared id false).toJson (by simp) hfacts (.head _) (.head _)
  have hreplayed := Json.canon_member_eq "replayed" (.bool true) (.bool false) (by simp) hprep
    (by simp [samplePrepared]) (by simp [samplePrepared])
  simp [Json.canon] at hreplayed

/-- The handle of the second preparation. The facts that its dispatch has authorized are not those that
the guard rebuilds, and the guard refuses the dispatch, whatever is on record; from the first handle the
same dispatch succeeds. -/
theorem dispatch_replayed_setup_refused :
    (DispatchHandle.setup (samplePrepared id true)).Obtained id (sampleLedger id) ∧
    sampleEffect ∈ (sampleLedger id).effects ∧ sampleEffect.state = .prepared ∧
    phaseFacts (sampleLedger id)
        ((DispatchHandle.setup (samplePrepared id true)).writes sampleEffect sampleEvidence) ≠
      some ((DispatchHandle.setup (samplePrepared id true)).facts sampleEvidence) ∧
    ∀ trail,
      (∃ l', dispatch id trail (fun _ _ => true) (sampleLedger id) (samplePreparePorts id)
        (.setup (samplePrepared id false)) sampleEvidence = .ok l') ∧
      ∀ l', dispatch id trail (fun _ _ => true) (sampleLedger id) (samplePreparePorts id)
        (.setup (samplePrepared id true)) sampleEvidence ≠ .ok l' := by
  have hobtained := obtained_samplePrepared id
  have hrow : sampleEffect ∈ (sampleLedger id).effects := .head _
  obtain ⟨hsound, hdesc⟩ := hobtained.describes hrow rfl rfl
  have hfresh : (DispatchHandle.setup (samplePrepared id false)).Describes (sampleLedger id) sampleEffect :=
    ⟨⟨"slot", "envelope", sampleKey id, sampleDigest⟩, .head _,
      ⟨"envelope", (sampleKey id).toSetupEnvelopeKey⟩, rfl, rfl, rfl⟩
  refine ⟨hobtained, hrow, rfl, ?_, ?_⟩
  · intro hfacts
    have hkind := (phaseFacts_writes_iff hsound rfl hdesc sampleEvidence).mp hfacts
    rcases hkind with hkind | hflag
    · cases hkind
    · cases hflag
  · intro trail
    constructor
    · exact ⟨sampleDispatched id, (dispatch_eq_ok_of_agrees hsound hrow rfl hfresh (.inr rfl)).mpr
        ⟨reserve_samplePrepared id false, fun _ _ _ => rfl⟩⟩
    · intro l' h
      have hfresh : { samplePrepared id true with replayed := false } = samplePrepared id false := rfl
      have hproj : (samplePrepared id true).slotKey.projectId = "project" := rfl
      have hdig := dispatch_replayed_setup hsound hrow rfl hdesc h
      exact resourceContextDigest_sample_ne hdig

theorem dispatch_facts_agree_iff_samplePrepared :
    ¬(phaseFacts (sampleLedger id)
          ((DispatchHandle.setup (samplePrepared id true)).writes sampleEffect sampleEvidence) =
        some ((DispatchHandle.setup (samplePrepared id true)).facts sampleEvidence) ∧
      ∀ trail clauses p l',
        dispatch id trail clauses (sampleLedger id) p (.setup (samplePrepared id true)) sampleEvidence =
            .ok l' ↔
          dispatch id trail clauses (sampleLedger id) p (DispatchHandle.setup (samplePrepared id true)).fresh
            sampleEvidence = .ok l') := by
  intro h
  have hcondition := (dispatch_facts_agree_iff id (sampleLedger id) (.setup (samplePrepared id true))
    (obtained_samplePrepared id) sampleEffect (.head _) rfl rfl sampleEvidence).mp h
  rcases hcondition with hkind | hflag
  · cases hkind
  · cases hflag

end Sample

end Workstream.ModelUsage
