import Workstream.ModelUsage.Ledger

/-!
# Checker model calls

`ModelCallService` of `model_usage/service.py`. Each call runs under the advisory locks of its envelope,
its slot and its project's budget until the caller's transaction ends, so it acts on one ledger; a call
that raises leaves nothing behind.
-/

namespace Workstream.ModelUsage
open Foundation

structure NewRecordIds where
  recordId : Uuid
  envelopeId : Uuid
  slotId : Uuid
  effectId : Uuid
  internalCallRequestId : Uuid

structure SetupModelOwnerProfile where
  selector : ModelProfileSelector
  provider : String
  api : String
  modelSnapshot : String

/-- What the injected ports, the clock and the identifier source answer during one call. A port that
raises has no answer. -/
structure Ports where
  authority : Option ModelActionEvidence
  current : Bool
  evidence : Bool
  owner : Option SetupModelOwnerProfile
  now : Nat
  ids : NewRecordIds

def isHexDigit (c : Char) : Bool := isLowerHex c || ('A' ≤ c ∧ c ≤ 'F')

def hexGroups : List Char → Bool
  | [] => false
  | [c] => isHexDigit c
  | c :: d :: cs =>
    if d = '_' then isHexDigit c && hexGroups cs else isHexDigit c && hexGroups (d :: cs)

def isBlank (c : Char) : Bool := c == ' ' || ('\t' ≤ c ∧ c ≤ '\r') || ('\x1c' ≤ c ∧ c ≤ '\x1f')

def dropSign : List Char → List Char
  | '+' :: cs => cs
  | '-' :: cs => cs
  | cs => cs

def dropHexMark : List Char → List Char
  | '0' :: 'x' :: '_' :: cs => cs
  | '0' :: 'X' :: '_' :: cs => cs
  | '0' :: 'x' :: cs => cs
  | '0' :: 'X' :: cs => cs
  | cs => cs

/-- What `int(text, 16)` accepts of ASCII text. -/
def isPythonHex (cs : List Char) : Bool :=
  let stripped := ((cs.dropWhile isBlank).reverse.dropWhile isBlank).reverse
  hexGroups (dropHexMark (dropSign stripped))

/-- `_sha`. Its test is weaker than the digest pattern: `int` also reads signs, blanks, underscores and
a hexadecimal mark. -/
def sha (value : String) : Except ModelCallError String := do
  let invalid : ModelCallError := .conflict "model_call_digest_invalid"
  let rest ← required (dropWord "sha256:".toList value.toList) invalid
  require (value.toList.length = 71) invalid
  require (isPythonHex rest = true) invalid
  require (rest.map Char.toLower = rest) invalid
  return value

def providerResponse (value : String) : Except ModelCallError String := do
  require (isProviderResponseIdentifier value = true) (.valueError "provider response identifier")
  return value

structure AttachedModelCallAttempt where
  slotId : Uuid
  slotKey : ModelPaidSlotKey
  attemptId : Uuid
  attemptNumber : Nat
  internalCallRequestId : Uuid
  requestSha256 : String
  state : EffectState
  replayed : Bool

structure PreparedModelCallAttempt extends AttachedModelCallAttempt where
  isPrepared : state = .prepared

def AttachedModelCallAttempt.toJson (a : AttachedModelCallAttempt) : Json :=
  .obj [("slot_id", .str a.slotId), ("slot_key", a.slotKey.toJson), ("attempt_id", .str a.attemptId),
    ("attempt_number", number a.attemptNumber),
    ("internal_call_request_id", .str a.internalCallRequestId),
    ("request_sha256", .str a.requestSha256), ("state", .str a.state.text),
    ("replayed", .bool a.replayed)]

structure ModelCallEffectAuthorityFacts where
  projectId : Uuid
  taskId : Uuid
  slotId : Uuid
  slotKey : ModelPaidSlotKey
  attemptId : Uuid
  internalCallRequestId : Uuid
deriving DecidableEq

def ModelCallEffectAuthorityFacts.toJson (e : ModelCallEffectAuthorityFacts) : Json :=
  .obj [("project_id", .str e.projectId), ("task_id", .str e.taskId), ("slot_id", .str e.slotId),
    ("slot_key", e.slotKey.toJson), ("attempt_id", .str e.attemptId),
    ("internal_call_request_id", .str e.internalCallRequestId)]

structure ModelDispatchReservation where
  slotId : Uuid
  attemptId : Uuid
  attemptNumber : Nat
  internalCallRequestId : Uuid
  effect : ModelCallEffectAuthorityFacts
  requestSha256 : String
  requestEvidence : ModelCallEvidence
  budgetConfiguration : BudgetIdentity
  reservedNanodollars : Nat
  state : EffectState
  providerResponseId : Option String
  responseEvidence : Option ModelCallEvidence
  replayed : Bool

/-- `CompletedModelCall` and `KnownFailedModelCall`, which have the same fields. -/
structure SettledModelCall where
  slotId : Uuid
  attemptId : Uuid
  attemptNumber : Nat
  internalCallRequestId : Uuid
  providerResponseId : String
  requestEvidence : ModelCallEvidence
  responseEvidence : ModelCallEvidence
  usage : ModelCallUsage
  settledNanodollars : Nat
  completedAt : Nat
  replayed : Bool

structure ProjectModelBudgetConfiguration where
  configuration : ModelUsageBudgetConfiguration
  lifetimeReservedNanodollars : Nat
  lifetimeSettledNanodollars : Nat

/-- `_attempt` -/
def attemptOf (slot : CheckerModelUsageSlot) (row : ModelUsageEffect) (replayed : Bool) :
    AttachedModelCallAttempt where
  slotId := slot.id
  slotKey := slot.key
  attemptId := row.id
  attemptNumber := row.attemptNumber
  internalCallRequestId := row.internalCallRequestId
  requestSha256 := row.requestSha256
  state := row.state
  replayed := replayed

/-- `_effect` -/
def effectFacts (slot : CheckerModelUsageSlot) (row : ModelUsageEffect) :
    ModelCallEffectAuthorityFacts where
  projectId := slot.key.projectId
  taskId := slot.taskId
  slotId := slot.id
  slotKey := slot.key
  attemptId := row.id
  internalCallRequestId := row.internalCallRequestId

/-- `PreparedModelCallAttempt.model_validate` -/
def AttachedModelCallAttempt.prepared (a : AttachedModelCallAttempt) :
    Except ModelCallError PreparedModelCallAttempt :=
  if h : a.state = .prepared then .ok ⟨a, h⟩ else .error (.valueError "state")

def storedEvidence (evidence : Option ModelCallEvidence) : Except ModelCallError ModelCallEvidence :=
  required evidence (.unavailable "model_call_evidence_unavailable")

def storedRetryTerminalDigest (sha256 : String → String) (row : ModelUsageEffect) : Option String :=
  match row.state with
  | .knownNoEffect =>
    match row.noEffectProof, row.reservedNanodollars with
    | some proof, some _ => some (knownNoEffectDigest sha256 proof)
    | _, _ => none
  | .knownFailed =>
    match row.usage, row.providerResponseId, row.responseEvidence, row.settledNanodollars,
        row.settlementAuthorizationEvidenceId, row.settledAt with
    | some usage, some responseId, some evidence, some settled, some _, some _ =>
      some (knownFailedDigest sha256 responseId evidence.contentSha256 usage settled)
    | _, _, _, _, _, _ => none
  | _ => none

def eligibleParent (sha256 : String → String) (row : ModelUsageEffect) (terminalDigest : String) : Bool :=
  storedRetryTerminalDigest sha256 row = some terminalDigest

def dispatchResult (slot : CheckerModelUsageSlot) (row : ModelUsageEffect) (replayed : Bool) :
    Except ModelCallError ModelDispatchReservation := do
  require (row.state = .dispatching ∨ row.state = .uncertain ∨ row.state = .completed)
    (.conflict "model_call_not_dispatchable")
  let requestEvidence ← storedEvidence row.requestEvidence
  let budget ← required row.budgetConfiguration (.valueError "badly formed hexadecimal UUID string")
  let reserved ← required row.reservedNanodollars (.valueError "reserved_nanodollars")
  return { slotId := row.owner.id, attemptId := row.id, attemptNumber := row.attemptNumber,
           internalCallRequestId := row.internalCallRequestId, effect := effectFacts slot row,
           requestSha256 := row.requestSha256, requestEvidence := requestEvidence,
           budgetConfiguration := budget, reservedNanodollars := reserved, state := row.state,
           providerResponseId := row.providerResponseId, responseEvidence := row.responseEvidence,
           replayed := replayed }

variable (row : ModelUsageEffect)

/-- `_completed_result` and `_failed_result` -/
def settledResult (replayed : Bool) : Except ModelCallError SettledModelCall := do
  let incomplete : ModelCallError := .unavailable "model_call_completion_unavailable"
  let usage ← required row.usage incomplete
  let terminalAt ← required row.terminalAt incomplete
  let settled ← required row.settledNanodollars incomplete
  let responseId ← required row.providerResponseId (.valueError "provider_response_id")
  let requestEvidence ← storedEvidence row.requestEvidence
  let responseEvidence ← storedEvidence row.responseEvidence
  return { slotId := row.owner.id, attemptId := row.id, attemptNumber := row.attemptNumber,
           internalCallRequestId := row.internalCallRequestId, providerResponseId := responseId,
           requestEvidence := requestEvidence, responseEvidence := responseEvidence, usage := usage,
           settledNanodollars := settled, completedAt := terminalAt, replayed := replayed }

def authorize (sha256 : String → String) (p : Ports) (action : String) (facts : Json)
    (error : ModelCallError) : Except ModelCallError ModelActionEvidence := do
  let evidence ← required p.authority .port
  require (evidence.factsDigest = modelActionDigest sha256 action facts) error
  return evidence

/-- The totals check of `reserve_dispatch`, in both services: what the run may still use, if every
pending dispatch uses all it may. -/
abbrev RunAllows (f : ProfileFields) (t : ModelUsageEnvelopeTotals) (byteCount reservation maximum : Nat) :
    Prop :=
  t.dispatches < f.maximumCalls ∧
  t.reservedNanodollars + t.settledNanodollars + reservation ≤ maximum ∧
  t.requestBytes + byteCount ≤ f.maximumTotalRequestBytes ∧
  t.responseBytes + (t.pendingDispatches + 1) * f.maximumResponseBytes ≤ f.maximumTotalResponseBytes ∧
  t.inputTokens + (t.pendingDispatches + 1) * f.maximumInputTokens ≤ f.maximumTotalInputTokens ∧
  t.outputTokens + (t.pendingDispatches + 1) * f.maximumOutputTokens ≤ f.maximumTotalOutputTokens

def requireRun (f : ProfileFields) (t : ModelUsageEnvelopeTotals) (byteCount : Nat) :
    Except ModelCallError Nat := do
  let reservation ← f.maximumDispatchReservationNanodollars
  let maximum ← f.maximumReservationNanodollars
  require (RunAllows f t byteCount reservation maximum)
    (.budgetUnavailable "model_run_envelope_unavailable")
  return reservation

def dispatchedRow (evidence : ModelCallEvidence) (budget : ModelUsageBudgetConfiguration)
    (reservation : Nat) (execution : Option ModelCallExecutionFacts) (evidenceId : Uuid) (now : Nat) :
    ModelUsageEffect :=
  { row with
    requestEvidence := some evidence
    budgetConfiguration :=
      some ⟨budget.id, budget.spec.configurationVersion, budget.configurationDigest⟩
    reservedNanodollars := some reservation
    dispatchExecutionFacts := execution
    dispatchAuthorizationEvidenceId := some evidenceId
    dispatchedAt := some now
    state := .dispatching }

def uncertainRow (uncertaintyDigest : String) (providerResponseId : Option String) (evidenceId : Uuid) :
    ModelUsageEffect :=
  { row with
    state := .uncertain
    uncertaintyDigest := some uncertaintyDigest
    providerResponseId := providerResponseId
    observationAuthorizationEvidenceId := some evidenceId }

def settledRow (target : EffectState) (providerResponseId : String) (evidence : ModelCallEvidence)
    (usage : ModelCallUsage) (cost : Nat) (evidenceId : Uuid) (now : Nat) : ModelUsageEffect :=
  { row with
    responseEvidence := some evidence
    usage := some usage
    providerResponseId := some providerResponseId
    settledNanodollars := some cost
    settlementAuthorizationEvidenceId :=
      if target = .knownFailed then some evidenceId else row.settlementAuthorizationEvidenceId
    settledAt := if target = .knownFailed then some now else row.settledAt
    terminalAuthorizationEvidenceId := some evidenceId
    terminalAt := some now
    state := target }

def noEffectRow (proof : KnownNoEffectProof) (evidenceId : Uuid) (now : Nat) : ModelUsageEffect :=
  { row with
    noEffectProof := some proof
    terminalAuthorizationEvidenceId := some evidenceId
    terminalAt := some now
    state := .knownNoEffect }

def settle (l : Ledger) (row : ModelUsageEffect) (projectId : Uuid) (cost : Nat) :
    Except ModelCallError Ledger := do
  let account ← required (l.budgetAccount projectId) (.unavailable "model_budget_unavailable")
  let reserved ← required row.reservedNanodollars (.unavailable "model_budget_unavailable")
  require (reserved ≤ account.lifetimeReservedNanodollars)
    (.unavailable "model_budget_conservation_failed")
  return l.putAccount { account with
    lifetimeReservedNanodollars := account.lifetimeReservedNanodollars - reserved
    lifetimeSettledNanodollars := account.lifetimeSettledNanodollars + cost }

def release (l : Ledger) (row : ModelUsageEffect) (projectId : Uuid) : Except ModelCallError Ledger :=
  settle l row projectId 0

/-- `_require_effect_pending` and `_require_pending` -/
def requirePending (conflict unreserved : ModelCallError) : Except ModelCallError Unit := do
  require (row.state.isPending = true) conflict
  require (row.reservedNanodollars.isSome = true) unreserved

def requireSameSettlement (providerResponseId : String) (evidence : ModelCallEvidence)
    (usage : ModelCallUsage) (cost : Nat) (conflict : ModelCallError) : Except ModelCallError Unit := do
  require (row.providerResponseId = some providerResponseId) conflict
  let stored ← storedEvidence row.responseEvidence
  require (stored = evidence ∧ row.usage = some usage ∧ row.settledNanodollars = some cost) conflict

section Service

variable (sha256 : String → String) (l : Ledger) (p : Ports)

def authorityUnavailable : ModelCallError := .unavailable "model_call_authority_unavailable"

def provisionProfile (facts : ModelProfileProvisioningFacts) :
    Except ModelCallError (ProjectModelProfile × Ledger) := do
  require (facts.profileDigest = canonicalJsonHash sha256 facts.spec.toJson)
    (.valueError "model profile digest mismatch")
  let _ ← facts.spec.maximumReservationNanodollars
  let authority ← authorize sha256 p "profile" facts.toJson authorityUnavailable
  match l.profileByOperation facts.operationId with
  | some existing =>
    require (existing.toModelProfileProvisioningFacts = facts)
      (.conflict "model_profile_operation_conflict")
    return (existing, l)
  | none =>
    require (l.profileByVersion facts.spec.projectId facts.spec.profileVersion = none)
      (.conflict "model_profile_version_conflict")
    let expectedVersion := match l.latestProfile facts.spec.projectId with
      | none => 1
      | some latest => latest.spec.profileVersion + 1
    require (facts.spec.profileVersion = expectedVersion) (.conflict "model_profile_version_conflict")
    let row : ProjectModelProfile :=
      { toModelProfileProvisioningFacts := facts, profileId := p.ids.recordId,
        authorizationEvidenceId := authority.evidenceId }
    let l ← l.addProfile row
    return (row, l)

def budgetResult (row : ModelUsageBudgetConfiguration) (account : ModelUsageBudgetAccount) :
    ProjectModelBudgetConfiguration :=
  ⟨row, account.lifetimeReservedNanodollars, account.lifetimeSettledNanodollars⟩

def adjustBudget (spec : ProjectModelBudgetConfigurationSpec) (row : ModelUsageBudgetConfiguration) :
    Except ModelCallError (ModelUsageBudgetAccount × Ledger) := do
  let account := l.budgetAccount spec.projectId
  let current := account.bind l.currentBudgetConfiguration
  let expectedVersion := match current with
    | none => 1
    | some current => current.spec.configurationVersion + 1
  require (spec.configurationVersion = expectedVersion) (.conflict "model_budget_version_conflict")
  require (∀ c ∈ current, c.spec.authorizedTotalNanodollars ≤ spec.authorizedTotalNanodollars ∧
      c.spec.externallyReconciledPriorSpendNanodollars ≤
        spec.externallyReconciledPriorSpendNanodollars)
    (.conflict "model_budget_reconciliation_conflict")
  require (l.budgetConfigurationByVersion spec.projectId spec.configurationVersion = none)
    (.conflict "model_budget_version_conflict")
  match account with
  | none =>
    let l ← l.addConfiguration row
    let account : ModelUsageBudgetAccount := ⟨spec.projectId, row.id, 0, 0⟩
    let l ← l.addAccount account
    return (account, l)
  | some account =>
    require (account.lifetimeReservedNanodollars + account.lifetimeSettledNanodollars ≤
        spec.lifetimeLimitNanodollars)
      (.budgetUnavailable "model_budget_below_lifetime_usage")
    let l ← l.addConfiguration row
    let account := { account with currentConfigurationId := row.id }
    return (account, l.putAccount account)

def provisionBudget (facts : ModelBudgetProvisioningFacts) :
    Except ModelCallError (ProjectModelBudgetConfiguration × Ledger) := do
  require (facts.configurationDigest = canonicalJsonHash sha256 facts.spec.toJson)
    (.valueError "model budget configuration digest mismatch")
  let authority ← authorize sha256 p "budget" facts.toJson authorityUnavailable
  match l.budgetConfigurationByOperation facts.operationId with
  | some existing =>
    let account ← required (l.budgetAccount facts.spec.projectId)
      (.unavailable "model_budget_account_unavailable")
    require (existing.toModelBudgetProvisioningFacts = facts)
      (.conflict "model_budget_operation_conflict")
    return (budgetResult existing account, l)
  | none =>
    let row : ModelUsageBudgetConfiguration :=
      { toModelBudgetProvisioningFacts := facts, id := p.ids.recordId,
        authorizationEvidenceId := authority.evidenceId }
    let (account, l) ← adjustBudget l facts.spec row
    return (budgetResult row account, l)

variable (execution : ModelCallExecutionFacts)

variable (slot : ModelPaidSlotKey)

def requireExecutionSlot : Except ModelCallError Unit :=
  require (execution.projectId = slot.projectId ∧ execution.assignmentId = slot.assignmentId ∧
    execution.submissionId = slot.submissionId ∧ execution.submissionVersion = slot.submissionVersion)
    (.unavailable "model_call_execution_unavailable")

/-- `_profile_for_slot` and `_profile_for_stored_slot` -/
def profileForSlot : Except ModelCallError ProjectModelProfile := do
  let profile ← required (l.profileExact slot.selector) (.unavailable "model_profile_unavailable")
  require (profile.spec.projectId = slot.projectId) (.unavailable "model_profile_unavailable")
  return profile

def requireCheckerEnvelope : Except ModelCallError (CheckerModelUsageEnvelope × Ledger) :=
  match l.envelope slot.toPaidEnvelopeKey with
  | none => do
    let row : CheckerModelUsageEnvelope := ⟨p.ids.envelopeId, execution.taskId, slot.toPaidEnvelopeKey⟩
    let l ← l.addCheckerEnvelope row
    return (row, l)
  | some row => do
    require (row.taskId = execution.taskId) (.conflict "model_call_envelope_conflict")
    return (row, l)

def requireCheckerSlot (envelope : CheckerModelUsageEnvelope) (execution : ModelCallExecutionFacts)
    (slot : ModelPaidSlotKey) (requestSha256 : String) :
    Except ModelCallError (CheckerModelUsageSlot × Ledger) :=
  match l.slot slot with
  | none => do
    let row : CheckerModelUsageSlot :=
      ⟨p.ids.slotId, envelope.id, execution.taskId, slot, requestSha256⟩
    let l ← l.addCheckerSlot row
    return (row, l)
  | some row => do
    require (row.firstRequestSha256 = requestSha256 ∧ row.taskId = execution.taskId)
      (.conflict "model_call_request_conflict")
    return (row, l)

/-- The first attempt of a slot, or the one that it has already. -/
def prepareAttempt (requestSha256 : String) :
    Except ModelCallError (AttachedModelCallAttempt × Ledger) := do
  let requestSha256 ← sha requestSha256
  requireExecutionSlot execution slot
  let authority ← authorize sha256 p "prepare"
    (.obj [("execution", execution.toJson), ("slot", slot.toJson), ("request_sha256", .str requestSha256)])
    authorityUnavailable
  require (p.current = true) .port
  let _ ← profileForSlot l slot
  let (envelope, l) ← requireCheckerEnvelope l p execution slot
  let (slotRow, l) ← requireCheckerSlot l p envelope execution slot requestSha256
  match l.latestAttempt slotRow.id with
  | some attempt => return (attemptOf slotRow attempt true, l)
  | none =>
    let attempt : ModelUsageEffect :=
      { id := p.ids.effectId, owner := ⟨.checker, slotRow.id⟩, attemptNumber := 1,
        internalCallRequestId := p.ids.internalCallRequestId, requestSha256 := requestSha256,
        preparedExecutionFacts := some execution,
        preparedAuthorizationEvidenceId := authority.evidenceId }
    let l ← l.addEffect attempt
    return (attemptOf slotRow attempt false, l)

def recoveryParent (latest : ModelUsageEffect) (parentAttemptId : Uuid) : Option ModelUsageEffect :=
  if latest.id = parentAttemptId then some latest else l.attempt parentAttemptId

/-- An attempt that follows one that has ended without a usable response. -/
def prepareRecoveryChild (parentAttemptId : Uuid) (terminalDigest : String) (requestSha256 : String) :
    Except ModelCallError (PreparedModelCallAttempt × Ledger) := do
  let terminalDigest ← sha terminalDigest
  let requestSha256 ← sha requestSha256
  let authority ← authorize sha256 p "child"
    (.obj [("project_id", .str slot.projectId), ("parent_attempt_id", .str parentAttemptId),
      ("terminal_digest", .str terminalDigest)]) authorityUnavailable
  require (p.current = true) .port
  let _ ← profileForSlot l slot
  let absent : ModelCallError := .unavailable "model_call_parent_unavailable"
  let _ ← required (l.envelope slot.toPaidEnvelopeKey) absent
  let slotRow ← required (l.slot slot) absent
  require (slotRow.firstRequestSha256 = requestSha256) (.conflict "model_call_request_conflict")
  let latest ← required (l.latestAttempt slotRow.id) absent
  let notRetryable : ModelCallError := .conflict "model_call_parent_not_retryable"
  let parent ← required (recoveryParent l latest parentAttemptId) notRetryable
  require (parent.owner = ⟨.checker, slotRow.id⟩ ∧ eligibleParent sha256 parent terminalDigest = true)
    notRetryable
  if latest.id ≠ parentAttemptId then
    require (1 < latest.attemptNumber ∧ latest.state = .prepared ∧
        latest.parentAttemptId = some parentAttemptId ∧ latest.requestSha256 = requestSha256)
      (.conflict "model_call_parent_superseded")
    let attempt ← (attemptOf slotRow latest true).prepared
    return (attempt, l)
  else
    let child : ModelUsageEffect :=
      { id := p.ids.effectId, owner := ⟨.checker, slotRow.id⟩,
        attemptNumber := latest.attemptNumber + 1,
        internalCallRequestId := p.ids.internalCallRequestId,
        parentAttemptId := some parentAttemptId, requestSha256 := requestSha256,
        preparedAuthorizationEvidenceId := authority.evidenceId }
    let l ← l.addEffect child
    let attempt ← (attemptOf slotRow child false).prepared
    return (attempt, l)

variable (attempt : PreparedModelCallAttempt)

/-- The attempt without how its caller got it: the identity that authority is asked for. -/
def PreparedModelCallAttempt.authorityAttempt : PreparedModelCallAttempt :=
  { attempt with replayed := false }

def dispatchFacts (requestEvidence : ModelCallEvidence) : Json :=
  .obj [("execution", execution.toJson), ("attempt", attempt.authorityAttempt.toJson),
    ("request_evidence", requestEvidence.toJson)]

def lockedAttempt :
    Except ModelCallError (CheckerModelUsageEnvelope × CheckerModelUsageSlot × ModelUsageEffect) := do
  let envelope ← required (l.envelope attempt.slotKey.toPaidEnvelopeKey)
    (.unavailable "model_call_envelope_unavailable")
  let absent : ModelCallError := .unavailable "model_call_attempt_unavailable"
  let slotRow ← required (l.slot attempt.slotKey) absent
  require (slotRow.id = attempt.slotId) absent
  let row ← required (l.attempt attempt.attemptId) absent
  require (row.owner = ⟨.checker, slotRow.id⟩) absent
  return (envelope, slotRow, row)

/-- The reservation on the lifetime budget, in both services, which name a spent budget differently. -/
def reserveLifetime (exhausted : ModelCallError) (projectId : Uuid) (reservation : Nat) :
    Except ModelCallError (ModelUsageBudgetConfiguration × Ledger) := do
  let missing : ModelCallError := .budgetUnavailable "model_budget_unavailable"
  let account ← required (l.budgetAccount projectId) missing
  let budget ← required (l.currentBudgetConfiguration account) missing
  require (account.lifetimeReservedNanodollars + account.lifetimeSettledNanodollars + reservation ≤
    budget.spec.lifetimeLimitNanodollars) exhausted
  return (budget, l.putAccount { account with
    lifetimeReservedNanodollars := account.lifetimeReservedNanodollars + reservation })

/-- Reserve the run and the budget of an attempt before it is sent. -/
def reserveDispatch (requestEvidence : ModelCallEvidence) :
    Except ModelCallError (ModelDispatchReservation × Ledger) := do
  requireExecutionSlot execution attempt.slotKey
  let authority ← authorize sha256 p "dispatch" (dispatchFacts execution attempt requestEvidence)
    authorityUnavailable
  require (p.current = true) .port
  require (p.evidence = true) .port
  let profile ← profileForSlot l attempt.slotKey
  require (requestEvidence.contentSha256 = attempt.requestSha256 ∧
      requestEvidence.byteCount ≤ profile.spec.maximumRequestBytes)
    (.conflict "model_call_request_evidence_conflict")
  let (envelope, slotRow, row) ← lockedAttempt l attempt
  if row.state ≠ .prepared then
    let stored ← storedEvidence row.requestEvidence
    require (stored = requestEvidence) (.conflict "model_call_dispatch_conflict")
    let result ← dispatchResult slotRow row true
    return (result, l)
  else
    require (row.requestSha256 = attempt.requestSha256 ∧ row.attemptNumber = attempt.attemptNumber ∧
      row.internalCallRequestId = attempt.internalCallRequestId) (.conflict "model_call_attempt_conflict")
    let reservation ← requireRun profile.spec.toProfileFields (l.envelopeTotals envelope.id)
      requestEvidence.byteCount
    let (budget, l) ← reserveLifetime l (.budgetUnavailable "model_budget_exhausted")
      attempt.slotKey.projectId reservation
    let row := dispatchedRow row requestEvidence budget reservation (some execution)
      authority.evidenceId p.now
    let result ← dispatchResult slotRow row false
    return (result, l.putEffect row)

def terminalPreflight (attemptId : Uuid) :
    Except ModelCallError (CheckerModelUsageSlot × ProjectModelProfile) := do
  let absent : ModelCallError := .unavailable "model_call_attempt_unavailable"
  let row ← required (l.attempt attemptId) absent
  require (row.owner.kind = .checker) absent
  let slot ← required (l.slotById row.owner.id) absent
  let profile ← required (l.profileExact slot.key.selector) (.unavailable "model_profile_unavailable")
  return (slot, profile)

def lockTerminal (slot : CheckerModelUsageSlot) (attemptId : Uuid) :
    Except ModelCallError ModelUsageEffect := do
  let _ ← required (l.envelope slot.key.toPaidEnvelopeKey)
    (.unavailable "model_call_envelope_unavailable")
  let absent : ModelCallError := .unavailable "model_call_attempt_unavailable"
  let lockedSlot ← required (l.slot slot.key) absent
  require (lockedSlot.id = slot.id) absent
  let row ← required (l.attempt attemptId) absent
  require (row.owner = ⟨.checker, slot.id⟩) absent
  return row

def requireEffect (supplied : ModelCallEffectAuthorityFacts) (slot : CheckerModelUsageSlot)
    (row : ModelUsageEffect) : Except ModelCallError Unit :=
  require (supplied = effectFacts slot row) (.unavailable "model_call_effect_unavailable")

variable (effect : ModelCallEffectAuthorityFacts)

/-- Record that nobody knows what became of a dispatch. -/
def markUncertain (uncertaintyDigest : String) (providerResponseId : Option String) :
    Except ModelCallError (ModelDispatchReservation × Ledger) := do
  let uncertaintyDigest ← sha uncertaintyDigest
  require (∀ id ∈ providerResponseId, isProviderResponseIdentifier id = true)
    (.valueError "provider response identifier")
  let authority ← authorize sha256 p "observe"
    (.obj [("effect", effect.toJson), ("provider_response_id", nullable providerResponseId),
      ("observation_digest", .str uncertaintyDigest)]) authorityUnavailable
  let (slot, _) ← terminalPreflight l effect.attemptId
  let row ← lockTerminal l slot effect.attemptId
  requireEffect effect slot row
  let conflict : ModelCallError := .conflict "model_call_uncertainty_conflict"
  if row.state = .uncertain then
    require (row.uncertaintyDigest = some uncertaintyDigest ∧
      row.providerResponseId = providerResponseId) conflict
    let result ← dispatchResult slot row true
    return (result, l)
  else
    require (row.state = .dispatching) conflict
    let row := uncertainRow row uncertaintyDigest providerResponseId authority.evidenceId
    let result ← dispatchResult slot row false
    return (result, l.putEffect row)

def responseDigest (status : String) (providerResponseId providerModelSnapshot : String)
    (responseEvidence : ModelCallEvidence) (usage : ModelCallUsage) : String :=
  canonicalJsonHash sha256 (.obj [("status", .str status),
    ("provider_response_id", .str providerResponseId),
    ("provider_model_snapshot", .str providerModelSnapshot),
    ("response_evidence", responseEvidence.toJson), ("usage", usage.toJson)])

def completeFacts (effect : Json) (responseEvidence : Option ModelCallEvidence)
    (terminalDigest : String) : Json :=
  .obj [("effect", effect), ("response_evidence", evidenceJson responseEvidence),
    ("terminal_digest", .str terminalDigest)]

/-- `complete` and `complete_known_failure`, which differ in the state they end in. -/
def completeAs (target : EffectState) (effect : ModelCallEffectAuthorityFacts)
    (providerResponseId providerModelSnapshot : String) (responseEvidence : ModelCallEvidence)
    (usage : ModelCallUsage) : Except ModelCallError (SettledModelCall × Ledger) := do
  let providerResponseId ← providerResponse providerResponseId
  let terminalDigest := responseDigest sha256 target.text providerResponseId providerModelSnapshot
    responseEvidence usage
  let authority ← authorize sha256 p "complete"
    (completeFacts effect.toJson (some responseEvidence) terminalDigest) authorityUnavailable
  require (p.evidence = true) .port
  let (slot, profile) ← terminalPreflight l effect.attemptId
  require (providerModelSnapshot = profile.spec.modelSnapshot ∧
      responseEvidence.byteCount ≤ profile.spec.maximumResponseBytes)
    (.conflict "model_call_response_conflict")
  let cost ← modelUsageCost profile.spec.toProfileFields usage
  let row ← lockTerminal l slot effect.attemptId
  requireEffect effect slot row
  let conflict : ModelCallError := .conflict "model_call_terminal_conflict"
  if row.state = target then
    requireSameSettlement row providerResponseId responseEvidence usage cost conflict
    let result ← settledResult row true
    return (result, l)
  else
    requirePending row conflict (.unavailable "model_call_reservation_unavailable")
    require (∀ id ∈ row.providerResponseId, id = providerResponseId)
      (.conflict "model_call_provider_response_conflict")
    let l ← settle l row slot.key.projectId cost
    let row := settledRow row target providerResponseId responseEvidence usage cost
      authority.evidenceId p.now
    let result ← settledResult row false
    return (result, l.putEffect row)

/-- Settle a dispatch at the price of its usage. -/
def complete (providerResponseId providerModelSnapshot : String) (responseEvidence : ModelCallEvidence)
    (usage : ModelCallUsage) : Except ModelCallError (SettledModelCall × Ledger) :=
  completeAs sha256 l p .completed effect providerResponseId providerModelSnapshot responseEvidence usage

/-- Settle a dispatch whose response is of no use. -/
def completeKnownFailure (providerResponseId providerModelSnapshot : String)
    (responseEvidence : ModelCallEvidence) (usage : ModelCallUsage) :
    Except ModelCallError (SettledModelCall × Ledger) :=
  completeAs sha256 l p .knownFailed effect providerResponseId providerModelSnapshot responseEvidence
    usage

/-- Release a dispatch that the provider did not bill. -/
def markKnownNoEffect (proof : KnownNoEffectProof) :
    Except ModelCallError (AttachedModelCallAttempt × Ledger) := do
  let terminalDigest := knownNoEffectDigest sha256 proof
  let authority ← authorize sha256 p "complete" (completeFacts effect.toJson none terminalDigest)
    authorityUnavailable
  let (slot, _) ← terminalPreflight l effect.attemptId
  let row ← lockTerminal l slot effect.attemptId
  requireEffect effect slot row
  let conflict : ModelCallError := .conflict "model_call_terminal_conflict"
  if row.state = .knownNoEffect then
    require (row.noEffectProof = some proof) conflict
    return (attemptOf slot row true, l)
  else
    requirePending row conflict (.unavailable "model_call_reservation_unavailable")
    require (row.providerResponseId = none) (.conflict "model_call_no_effect_conflict")
    let l ← release l row slot.key.projectId
    let row := noEffectRow row proof authority.evidenceId p.now
    return (attemptOf slot row false, l.putEffect row)

end Service

end Workstream.ModelUsage
