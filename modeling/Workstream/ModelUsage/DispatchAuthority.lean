import Workstream.ModelUsage.Runs
import Mathlib.Logic.Function.Basic

/-!
# Authority of a dispatch

A dispatch is authorized for facts that the caller's handle is part of, and the decision is recorded
under their digest. When the row becomes `dispatching`, `guard_model_usage_effect` rebuilds these facts
from the row alone and compares digests.
-/

namespace Workstream.ModelUsage
open Foundation

/-- A prepared effect as its caller holds it; a checker dispatch also names its execution. -/
inductive DispatchHandle where
  | checker (execution : ModelCallExecutionFacts) (attempt : PreparedModelCallAttempt)
  | setup (prepared : PreparedSetupModelUsageEffect)

namespace DispatchHandle

def kind : DispatchHandle → OwnerKind
  | .checker _ _ => .checker
  | .setup _ => .setup

def replayed : DispatchHandle → Bool
  | .checker _ attempt => attempt.replayed
  | .setup prepared => prepared.replayed

/-- The handle that the first preparation returned. -/
def fresh : DispatchHandle → DispatchHandle
  | .checker execution attempt => .checker execution { attempt with replayed := false }
  | .setup prepared => .setup { prepared with replayed := false }

def effectId : DispatchHandle → Uuid
  | .checker _ attempt => attempt.attemptId
  | .setup prepared => prepared.effectId

def execution : DispatchHandle → Option ModelCallExecutionFacts
  | .checker execution _ => some execution
  | .setup _ => none

/-- The project of `_runtime_identity` and `_setup_runtime_identity`. -/
def scopeProjectId : DispatchHandle → Uuid
  | .checker execution _ => execution.projectId
  | .setup prepared => prepared.slotKey.projectId

/-- The facts that `reserve_dispatch` has authorized. -/
def facts (requestEvidence : ModelCallEvidence) : DispatchHandle → Json
  | .checker execution attempt => dispatchFacts execution attempt requestEvidence
  | .setup prepared => setupDispatchFacts prepared requestEvidence

/-- What a dispatch writes of the facts into its row. -/
def writes (handle : DispatchHandle) (row : ModelUsageEffect) (requestEvidence : ModelCallEvidence) :
    ModelUsageEffect :=
  { row with requestEvidence := some requestEvidence, dispatchExecutionFacts := handle.execution }

/-- A handle of a row: what a preparation returns for it. -/
def Describes (l : Ledger) (row : ModelUsageEffect) : DispatchHandle → Prop
  | .checker _ attempt => ∃ slot ∈ l.checkerSlots, row.owner = ⟨.checker, slot.id⟩ ∧
      attempt.toAttachedModelCallAttempt = attemptOf slot row attempt.replayed
  | .setup prepared => ∃ slot ∈ l.setupSlots, ∃ envelope, slot.envelopeId = envelope.id ∧
      row.owner = ⟨.setup, slot.id⟩ ∧
      prepared = setupPrepared envelope slot row slot.key prepared.replayed

end DispatchHandle

def OwnerKind.resourceType : OwnerKind → String
  | .checker => "checker_model_call"
  | .setup => "setup_model_usage"

def OwnerKind.dispatchAction : OwnerKind → String
  | .checker => "checker.model_call.dispatch"
  | .setup => "project.guide_compilation.model.dispatch"

def OwnerKind.dispatchName : OwnerKind → String
  | .checker => "dispatch"
  | .setup => "setup_dispatch"

/-- `audit_events` by identifier: the `resource_context_digest` of an allowed decision. -/
abbrev AuditTrail := Uuid → Option String

section Dispatch

variable (sha256 : String → String)

def resourceContextDigest (kind : OwnerKind) (resourceId scopeProjectId : Uuid) (facts : Json) : String :=
  canonicalJsonHash sha256 (.obj [("resource_context",
    .obj [("resource_type", .str kind.resourceType), ("resource_id", .str resourceId),
      ("scope_project_id", .str scopeProjectId), ("action_id", .str kind.dispatchAction),
      ("facts", facts),
      ("facts_digest", .str (modelActionDigest sha256 kind.dispatchAction facts))])])

/-- `CheckerModelAuthorization`: an allowed decision is evidence for the facts it was asked about. -/
def authorizedPorts (p : Ports) (handle : DispatchHandle) (requestEvidence : ModelCallEvidence) : Ports :=
  { p with
    authority := p.authority.map fun decision =>
      ⟨decision.evidenceId,
        modelActionDigest sha256 handle.kind.dispatchName (handle.facts requestEvidence)⟩ }

def recordDecision (trail : AuditTrail) (p : Ports) (handle : DispatchHandle)
    (requestEvidence : ModelCallEvidence) : AuditTrail :=
  match p.authority with
  | some decision => Function.update trail decision.evidenceId
      (some (resourceContextDigest sha256 handle.kind handle.effectId handle.scopeProjectId
        (handle.facts requestEvidence)))
  | none => trail

/-- `phase_facts` of `guard_model_usage_effect` for a dispatched row. -/
def phaseFacts (l : Ledger) (row : ModelUsageEffect) : Option Json :=
  match row.owner.kind with
  | .checker => do
    let slot ← l.slotById row.owner.id
    let execution ← row.dispatchExecutionFacts
    let requestEvidence ← row.requestEvidence
    some (.obj [("execution", execution.toJson),
      ("attempt", .obj [("slot_id", .str slot.id), ("slot_key", slot.key.toJson),
        ("attempt_id", .str row.id), ("attempt_number", number row.attemptNumber),
        ("internal_call_request_id", .str row.internalCallRequestId),
        ("request_sha256", .str row.requestSha256), ("state", .str "prepared"),
        ("replayed", .bool false)]),
      ("request_evidence", requestEvidence.toJson)])
  | .setup => do
    let slot ← l.setupSlotById row.owner.id
    let envelope ← l.setupEnvelopeById slot.envelopeId
    let requestEvidence ← row.requestEvidence
    some (.obj [("prepared", .obj [("envelope_id", .str envelope.id), ("slot_id", .str slot.id),
        ("slot_key", slot.key.toJson), ("effect_id", .str row.id),
        ("attempt_number", number row.attemptNumber),
        ("internal_call_request_id", .str row.internalCallRequestId),
        ("request_sha256", .str row.requestSha256), ("state", .str "prepared"),
        ("replayed", .bool false)]),
      ("request_evidence", requestEvidence.toJson)])

/-- The dispatch clause of `guard_model_usage_effect`: the decision that the row names was made on the
facts of the row. The other clauses see the row and the ledger, and no handle. -/
def guardDispatched (trail : AuditTrail) (clauses : Ledger → ModelUsageEffect → Bool) (l : Ledger)
    (row : ModelUsageEffect) : Except ModelCallError Unit := do
  let facts ← required (phaseFacts l row) .integrity
  let view ← required (l.slotView row.owner) .integrity
  require (row.dispatchAuthorizationEvidenceId.bind trail =
    some (resourceContextDigest sha256 row.owner.kind row.id view.projectId facts)) .integrity
  require (clauses l row = true) .integrity

def reserve (l : Ledger) (p : Ports) (handle : DispatchHandle) (requestEvidence : ModelCallEvidence) :
    Except ModelCallError Ledger :=
  match handle with
  | .checker execution attempt =>
    (reserveDispatch sha256 l p execution attempt requestEvidence).map (·.2)
  | .setup prepared => (setupReserveDispatch sha256 l p prepared requestEvidence).map (·.2)

/-- A dispatch with the authority and the guard around it. The guard runs on the rows that it writes. -/
def dispatch (trail : AuditTrail) (clauses : Ledger → ModelUsageEffect → Bool) (l : Ledger) (p : Ports)
    (handle : DispatchHandle) (requestEvidence : ModelCallEvidence) : Except ModelCallError Ledger := do
  let l' ← reserve sha256 l (authorizedPorts sha256 p handle requestEvidence) handle requestEvidence
  (l'.effects.filter (· ∉ l.effects)).forM
    (guardDispatched sha256 (recordDecision sha256 trail p handle requestEvidence) clauses l')
  return l'

end Dispatch

section Facts

variable {l : Ledger} {row : ModelUsageEffect}

theorem phaseFacts_checker (hsound : l.Sound) {slot : CheckerModelUsageSlot} (hslot : slot ∈ l.checkerSlots)
    (howner : row.owner = ⟨.checker, slot.id⟩) (hprep : row.state = .prepared)
    {execution : ModelCallExecutionFacts} {requestEvidence : ModelCallEvidence}
    (hexecution : row.dispatchExecutionFacts = some execution)
    (hevid : row.requestEvidence = some requestEvidence) :
    phaseFacts l row = some (.obj [("execution", execution.toJson),
      ("attempt", (attemptOf slot row false).toJson), ("request_evidence", requestEvidence.toJson)]) := by
  have hfound : l.slotById slot.id = some slot := Table.find_of_mem hsound.registry.checkerSlotIds hslot
  unfold phaseFacts AttachedModelCallAttempt.toJson attemptOf
  rw [howner]
  rw [hfound, hexecution, hevid, hprep]
  rfl

theorem phaseFacts_setup (hsound : l.Sound) {slot : SetupModelUsageSlot} (hslot : slot ∈ l.setupSlots)
    (howner : row.owner = ⟨.setup, slot.id⟩) {envelope : SetupModelUsageEnvelope}
    (henv : slot.envelopeId = envelope.id) {requestEvidence : ModelCallEvidence}
    (hevid : row.requestEvidence = some requestEvidence) :
    phaseFacts l row = some (.obj
      [("prepared", (setupPrepared envelope slot row slot.key false).toJson),
       ("request_evidence", requestEvidence.toJson)]) := by
  have hfound : l.setupSlotById slot.id = some slot :=
    Table.find_of_mem hsound.registry.setupSlotIds hslot
  obtain ⟨stored, hstored, hid⟩ := hsound.registry.setupSlotEnvelope slot hslot
  have hpar : l.setupEnvelopeById slot.envelopeId = some stored := by
    rw [hid]
    exact Table.find_of_mem hsound.registry.setupEnvelopeIds (Table.find_eq_some hstored).1
  unfold phaseFacts PreparedSetupModelUsageEffect.toJson setupPrepared
  rw [howner]
  rw [hfound, hevid, ← henv, hid]
  show (l.setupEnvelopeById slot.envelopeId).bind _ = _
  rw [hpar]
  rfl

theorem phaseFacts_writes_iff (hsound : l.Sound) (hprep : row.state = .prepared)
    {handle : DispatchHandle} (hdesc : handle.Describes l row) (requestEvidence : ModelCallEvidence) :
    phaseFacts l (handle.writes row requestEvidence) = some (handle.facts requestEvidence) ↔
      handle.kind = .checker ∨ handle.replayed = false := by
  cases handle with
  | checker execution attempt =>
    obtain ⟨slot, hslot, howner, hatt⟩ := hdesc
    have hfacts := @phaseFacts_checker l
      ((DispatchHandle.checker execution attempt).writes row requestEvidence) hsound slot hslot howner
      hprep execution requestEvidence rfl rfl
    have hnormal : attempt.authorityAttempt.toAttachedModelCallAttempt = attemptOf slot row false := by
      unfold PreparedModelCallAttempt.authorityAttempt
      dsimp only
      rw [hatt]
      rfl
    refine iff_of_true ?_ (.inl rfl)
    rw [hfacts]
    unfold DispatchHandle.facts dispatchFacts
    dsimp only
    rw [hnormal]
    rfl
  | setup prepared =>
    obtain ⟨slot, hslot, envelope, henv, howner, heq⟩ := hdesc
    have hfacts := @phaseFacts_setup l ((DispatchHandle.setup prepared).writes row requestEvidence) hsound
      slot hslot howner envelope henv requestEvidence rfl
    rw [hfacts]
    unfold DispatchHandle.facts setupDispatchFacts
    constructor
    · -- The two objects differ in `replayed` unless the handle is fresh.
      intro hsame
      right
      rw [heq] at hsame
      simp only [PreparedSetupModelUsageEffect.toJson, setupPrepared, DispatchHandle.writes,
        Option.some.injEq, Json.obj.injEq, List.cons.injEq, Prod.mk.injEq, Json.bool.injEq, true_and,
        and_true] at hsame
      exact hsame.symm
    · intro hfresh
      rcases hfresh with hkind | hfresh
      · cases hkind
      · have hflag : prepared.replayed = false := hfresh
        rw [heq, hflag]
        rfl

end Facts

section Guarded

variable {sha256 : String → String} {l l' : Ledger} {p : Ports} {row : ModelUsageEffect}
  {handle : DispatchHandle} {requestEvidence : ModelCallEvidence}

theorem DispatchHandle.Describes.kind_eq (h : handle.Describes l row) : row.owner.kind = handle.kind := by
  cases handle with
  | checker =>
    obtain ⟨slot, -, howner, -⟩ := h
    rw [howner]
    rfl
  | setup =>
    obtain ⟨slot, -, envelope, -, howner, -⟩ := h
    rw [howner]
    rfl

theorem DispatchHandle.Describes.effectId_eq (h : handle.Describes l row) : handle.effectId = row.id := by
  cases handle with
  | checker =>
    obtain ⟨slot, -, -, hatt⟩ := h
    exact congrArg AttachedModelCallAttempt.attemptId hatt
  | setup =>
    obtain ⟨slot, -, envelope, -, -, heq⟩ := h
    exact congrArg PreparedSetupModelUsageEffect.effectId heq

theorem reserve_eq_ok (hsound : l.Sound) (hrow : row ∈ l.effects) (hprep : row.state = .prepared)
    (hdesc : handle.Describes l row) (h : reserve sha256 l p handle requestEvidence = .ok l') :
    ∃ decision execution view, p.authority = some decision ∧
      Dispatched l l' row requestEvidence execution decision.evidenceId p.now ∧
      phaseFacts l { row with requestEvidence := some requestEvidence, dispatchExecutionFacts := execution } =
        phaseFacts l (handle.writes row requestEvidence) ∧
      l.slotView row.owner = some view ∧ handle.scopeProjectId = view.projectId := by
  have hatt : l.attempt handle.effectId = some row := by
    rw [hdesc.effectId_eq]
    exact Table.find_of_mem hsound.effectIds hrow
  cases handle with
  | checker execution =>
    obtain ⟨⟨result, l₁⟩, hresv, rfl⟩ := map_eq_ok.mp h
    obtain ⟨hproj, row', decision, hfound, hdec, hcase⟩ := reserveDispatch_eq_ok hsound hresv
    cases hatt.symm.trans hfound
    obtain ⟨slot, hslot, howner, heq⟩ := hdesc
    rcases hcase with ⟨hne, -⟩ | hdisp
    · exact absurd hprep hne
    · refine ⟨decision, some execution, slot.view, hdec, hdisp, rfl, ?_, ?_⟩
      · rw [howner]
        exact hsound.registry.view_of_slot hslot
      · have hkey := congrArg AttachedModelCallAttempt.slotKey heq
        rw [DispatchHandle.scopeProjectId, hproj, hkey]
        rfl
  | setup prepared =>
    obtain ⟨⟨result, l₁⟩, hresv, rfl⟩ := map_eq_ok.mp h
    obtain ⟨row', decision, hfound, hdec, hcase⟩ := setupReserveDispatch_eq_ok hsound hresv
    cases hatt.symm.trans hfound
    obtain ⟨slot, hslot, envelope, henv, howner, heq⟩ := hdesc
    rcases hcase with ⟨hne, -⟩ | hdisp
    · exact absurd hprep hne
    · refine ⟨decision, row.dispatchExecutionFacts, slot.view, hdec, hdisp, ?_, ?_, ?_⟩
      · rw [@phaseFacts_setup l { row with requestEvidence := some requestEvidence } hsound slot hslot
          howner envelope henv requestEvidence rfl]
        exact (@phaseFacts_setup l ((DispatchHandle.setup prepared).writes row requestEvidence) hsound slot
          hslot howner envelope henv requestEvidence rfl).symm
      · rw [howner]
        exact hsound.registry.view_of_setupSlot hslot
      · have hkey := congrArg PreparedSetupModelUsageEffect.slotKey heq
        rw [DispatchHandle.scopeProjectId, hkey]
        rfl

variable {trail : AuditTrail} {clauses : Ledger → ModelUsageEffect → Bool}

theorem dispatch_eq_ok :
    dispatch sha256 trail clauses l p handle requestEvidence = .ok l' ↔
      reserve sha256 l (authorizedPorts sha256 p handle requestEvidence) handle requestEvidence = .ok l' ∧
      ∀ e ∈ l'.effects, e ∉ l.effects → guardDispatched sha256
        (recordDecision sha256 trail p handle requestEvidence) clauses l' e = .ok () := by
  unfold dispatch
  simp only [eq_ok, forM_eq_ok, List.mem_filter, decide_eq_true_eq]
  constructor
  · rintro ⟨l₁, hresv, -, hguard, rfl⟩
    exact ⟨hresv, fun e he hnew => hguard e ⟨he, hnew⟩⟩
  · rintro ⟨hresv, hguard⟩
    exact ⟨l', hresv, (), fun e he => hguard e he.1 he.2, rfl⟩

theorem guardDispatched_iff (hsound : l.Sound) (hrow : row ∈ l.effects)
    (hprep : row.state = .prepared) (hdesc : handle.Describes l row) {facts : Json}
    (hfacts : phaseFacts l (handle.writes row requestEvidence) = some facts)
    (hresv : reserve sha256 l (authorizedPorts sha256 p handle requestEvidence) handle
      requestEvidence = .ok l')
    {e : ModelUsageEffect} (he : e ∈ l'.effects) (hnew : e ∉ l.effects) :
    guardDispatched sha256 (recordDecision sha256 trail p handle requestEvidence) clauses l' e = .ok () ↔
      resourceContextDigest sha256 handle.kind row.id handle.scopeProjectId
          (handle.facts requestEvidence) =
        resourceContextDigest sha256 handle.kind row.id handle.scopeProjectId facts ∧
      clauses l' e = true := by
  obtain ⟨decision, execution, view, hdec, ⟨-, view', profile, account, budget, howned, -, -, -, -,
    rfl⟩, hsame, hview, hscope⟩ := reserve_eq_ok hsound hrow hprep hdesc hresv
  rcases Table.mem_replace he with rfl | ⟨hold, -⟩
  · obtain ⟨original, horiginal, rfl⟩ := Option.map_eq_some_iff.mp hdec
    have hrec : recordDecision sha256 trail p handle requestEvidence original.evidenceId =
        some (resourceContextDigest sha256 handle.kind row.id handle.scopeProjectId
          (handle.facts requestEvidence)) := by
      unfold recordDecision
      rw [horiginal, hdesc.effectId_eq]
      exact Function.update_self _ _ _
    unfold guardDispatched
    simp only [eq_ok]
    constructor
    · rintro ⟨facts', hfacts', view₁, hview₁, -, hdig, hclauses⟩
      cases (hfacts.symm.trans hsame.symm).trans hfacts'
      cases hview.symm.trans hview₁
      refine ⟨?_, hclauses⟩
      have hdig := Option.some.inj (hrec.symm.trans hdig)
      rw [hdig, ← hdesc.kind_eq, hscope]
      rfl
    · rintro ⟨hdig, hclauses⟩
      refine ⟨facts, hsame.trans hfacts, view, hview, (), ?_, hclauses⟩
      refine hrec.trans ?_
      rw [hdig, ← hdesc.kind_eq, hscope]
      rfl
  · exact absurd hold hnew

/-- The authority clause refuses no handle whose facts the guard rebuilds. -/
theorem dispatch_eq_ok_of_agrees (hsound : l.Sound) (hrow : row ∈ l.effects)
    (hprep : row.state = .prepared) (hdesc : handle.Describes l row)
    (hagrees : handle.kind = .checker ∨ handle.replayed = false) :
    dispatch sha256 trail clauses l p handle requestEvidence = .ok l' ↔
      reserve sha256 l (authorizedPorts sha256 p handle requestEvidence) handle requestEvidence = .ok l' ∧
      ∀ e ∈ l'.effects, e ∉ l.effects → clauses l' e = true := by
  have hfacts := (phaseFacts_writes_iff hsound hprep hdesc requestEvidence).mpr hagrees
  rw [dispatch_eq_ok]
  apply and_congr_right
  intro hresv
  apply forall_congr'
  intro e
  apply forall_congr'
  intro he
  apply forall_congr'
  intro hnew
  rw [guardDispatched_iff hsound hrow hprep hdesc hfacts hresv he hnew]
  exact and_iff_right rfl

/-- A dispatch from a replayed handle of a prepared setup effect needs two objects with one digest. -/
theorem dispatch_replayed_setup (hsound : l.Sound) (hrow : row ∈ l.effects)
    (hprep : row.state = .prepared) {prepared : PreparedSetupModelUsageEffect}
    (hdesc : (DispatchHandle.setup prepared).Describes l row)
    (h : dispatch sha256 trail clauses l p (.setup prepared) requestEvidence = .ok l') :
    resourceContextDigest sha256 .setup row.id prepared.slotKey.projectId
        (setupDispatchFacts prepared requestEvidence) =
      resourceContextDigest sha256 .setup row.id prepared.slotKey.projectId
        (setupDispatchFacts { prepared with replayed := false } requestEvidence) := by
  obtain ⟨hresv, hguard⟩ := dispatch_eq_ok.mp h
  have hfresh : (DispatchHandle.setup prepared).fresh.Describes l row := by
    obtain ⟨slot, hslot, envelope, henv, howner, heq⟩ := hdesc
    refine ⟨slot, hslot, envelope, henv, howner, ?_⟩
    rw [heq]
    rfl
  have hfacts := (phaseFacts_writes_iff hsound hprep hfresh requestEvidence).mpr (.inr rfl)
  obtain ⟨decision, execution, view, -, ⟨-, view', profile, account, budget, -, -, -, -, -, rfl⟩, -⟩ :=
    reserve_eq_ok hsound hrow hprep hdesc hresv
  have hwritten := @Table.mem_replace_self _ _ _ (fun e : ModelUsageEffect => e.id) l.effects
    (dispatchedRow row requestEvidence budget profile.spec.dispatchReservation execution
      decision.evidenceId (authorizedPorts sha256 p (.setup prepared) requestEvidence).now) row hrow rfl
  have hnew : dispatchedRow row requestEvidence budget profile.spec.dispatchReservation execution
      decision.evidenceId (authorizedPorts sha256 p (.setup prepared) requestEvidence).now ∉ l.effects := by
    intro hold
    have heq := Table.eq_of_key_eq hsound.effectIds hold hrow rfl
    rw [← heq] at hprep
    cases hprep
  exact ((guardDispatched_iff hsound hrow hprep hdesc hfacts hresv hwritten hnew).mp
    (hguard _ hwritten hnew)).1

end Guarded

end Workstream.ModelUsage
