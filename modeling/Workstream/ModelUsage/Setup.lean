import Workstream.ModelUsage.Service

/-!
# Setup model calls

`SetupModelUsageService` of `model_usage/setup.py`: the second owner of the ledger, with its own copies
of the state machine.
-/

namespace Workstream.ModelUsage
open Foundation

structure PreparedSetupModelUsageEffect where
  envelopeId : Uuid
  slotId : Uuid
  slotKey : SetupModelUsageSlotKey
  effectId : Uuid
  attemptNumber : Nat
  internalCallRequestId : Uuid
  requestSha256 : String
  replayed : Bool

def PreparedSetupModelUsageEffect.toJson (e : PreparedSetupModelUsageEffect) : Json :=
  .obj [("envelope_id", .str e.envelopeId), ("slot_id", .str e.slotId),
    ("slot_key", e.slotKey.toJson), ("effect_id", .str e.effectId),
    ("attempt_number", number e.attemptNumber),
    ("internal_call_request_id", .str e.internalCallRequestId),
    ("request_sha256", .str e.requestSha256), ("state", .str "prepared"),
    ("replayed", .bool e.replayed)]

structure SetupModelEffectAuthorityFacts where
  projectId : Uuid
  slotId : Uuid
  slotKey : SetupModelUsageSlotKey
  effectId : Uuid
  internalCallRequestId : Uuid
deriving DecidableEq

def SetupModelEffectAuthorityFacts.toJson (e : SetupModelEffectAuthorityFacts) : Json :=
  .obj [("project_id", .str e.projectId), ("slot_id", .str e.slotId), ("slot_key", e.slotKey.toJson),
    ("effect_id", .str e.effectId), ("internal_call_request_id", .str e.internalCallRequestId)]

structure SetupModelDispatchReservation where
  envelopeId : Uuid
  slotId : Uuid
  slotKey : SetupModelUsageSlotKey
  effectId : Uuid
  attemptNumber : Nat
  internalCallRequestId : Uuid
  effect : SetupModelEffectAuthorityFacts
  requestSha256 : String
  requestEvidence : ModelCallEvidence
  budgetConfiguration : BudgetIdentity
  reservedNanodollars : Nat
  replayed : Bool

structure ObservedSetupModelUsageEffect where
  effect : SetupModelEffectAuthorityFacts
  uncertaintyDigest : String
  providerResponseId : Option String
  replayed : Bool

structure CompletedSetupModelUsageEffect where
  effect : SetupModelEffectAuthorityFacts
  providerResponseId : String
  requestEvidence : ModelCallEvidence
  responseEvidence : ModelCallEvidence
  usage : ModelCallUsage
  settledNanodollars : Nat
  completedAt : Nat
  state : EffectState
  replayed : Bool

structure KnownNoEffectSetupModelUsageEffect where
  effect : SetupModelEffectAuthorityFacts
  proof : KnownNoEffectProof
  replayed : Bool

/-- `_prepared` -/
def setupPrepared (envelope : SetupModelUsageEnvelope) (slot : SetupModelUsageSlot)
    (effect : ModelUsageEffect) (key : SetupModelUsageSlotKey) (replayed : Bool) :
    PreparedSetupModelUsageEffect where
  envelopeId := envelope.id
  slotId := slot.id
  slotKey := key
  effectId := effect.id
  attemptNumber := effect.attemptNumber
  internalCallRequestId := effect.internalCallRequestId
  requestSha256 := effect.requestSha256
  replayed := replayed

/-- `_effect` -/
def setupEffectFacts (slot : SetupModelUsageSlot) (row : ModelUsageEffect) :
    SetupModelEffectAuthorityFacts where
  projectId := slot.key.projectId
  slotId := slot.id
  slotKey := slot.key
  effectId := row.id
  internalCallRequestId := row.internalCallRequestId

/-- `_dispatch_result` with the `exact_effect` check of its value. -/
def setupDispatchResult (envelope : SetupModelUsageEnvelope) (slot : SetupModelUsageSlot)
    (effect : ModelUsageEffect) (key : SetupModelUsageSlotKey) (evidence : ModelCallEvidence)
    (replayed : Bool) : Except ModelCallError SetupModelDispatchReservation := do
  let budget ← required effect.budgetConfiguration (.valueError "badly formed hexadecimal UUID string")
  let reserved ← required effect.reservedNanodollars (.valueError "reserved_nanodollars")
  require ((setupEffectFacts slot effect).projectId = key.projectId ∧
    (setupEffectFacts slot effect).slotKey = key)
    (.valueError "setup dispatch effect identity mismatch")
  return { envelopeId := envelope.id, slotId := slot.id, slotKey := key, effectId := effect.id,
           attemptNumber := effect.attemptNumber,
           internalCallRequestId := effect.internalCallRequestId,
           effect := setupEffectFacts slot effect, requestSha256 := effect.requestSha256,
           requestEvidence := evidence, budgetConfiguration := budget,
           reservedNanodollars := reserved, replayed := replayed }

/-- `_completed` -/
def setupCompleted (row : ModelUsageEffect) (slot : SetupModelUsageSlot) (replayed : Bool) :
    Except ModelCallError CompletedSetupModelUsageEffect := do
  let incomplete : ModelCallError := .unavailable "setup_model_completion_unavailable"
  let usage ← required row.usage incomplete
  let terminalAt ← required row.terminalAt incomplete
  let settled ← required row.settledNanodollars incomplete
  let responseId ← required row.providerResponseId (.valueError "provider_response_id")
  let requestEvidence ← storedEvidence row.requestEvidence
  let responseEvidence ← storedEvidence row.responseEvidence
  return { effect := setupEffectFacts slot row, providerResponseId := responseId,
           requestEvidence := requestEvidence, responseEvidence := responseEvidence, usage := usage,
           settledNanodollars := settled, completedAt := terminalAt, state := row.state,
           replayed := replayed }

section Setup

variable (sha256 : String → String) (l : Ledger) (p : Ports)

def setupAuthorityUnavailable : ModelCallError := .unavailable "setup_model_authority_unavailable"

def effectUnavailable : ModelCallError := .unavailable "setup_model_effect_unavailable"

/-- `_profile`. A call under current custody also names the owner's profile. -/
def setupProfile (key : SetupModelUsageSlotKey) (owner : Option SetupModelOwnerProfile) :
    Except ModelCallError ProjectModelProfile := do
  let absent : ModelCallError := .unavailable "model_profile_unavailable"
  let profile ← required (l.profileExact key.selector) absent
  require (profile.spec.projectId = key.projectId ∧ ∀ o ∈ owner, profile.selector = o.selector ∧
    profile.spec.provider = o.provider ∧ profile.spec.api = o.api ∧
    profile.spec.modelSnapshot = o.modelSnapshot) absent
  return profile

def requireSetupEnvelope (key : SetupModelUsageSlotKey) :
    Except ModelCallError (SetupModelUsageEnvelope × Ledger) :=
  match l.setupEnvelope key.toSetupEnvelopeKey with
  | none => do
    let row : SetupModelUsageEnvelope := ⟨p.ids.envelopeId, key.toSetupEnvelopeKey⟩
    let l ← l.addSetupEnvelope row
    return (row, l)
  | some row => return (row, l)

def requireSetupSlot (envelope : SetupModelUsageEnvelope) (key : SetupModelUsageSlotKey)
    (requestSha256 : String) : Except ModelCallError (SetupModelUsageSlot × Ledger) :=
  match l.setupSlot key with
  | none => do
    let row : SetupModelUsageSlot := ⟨p.ids.slotId, envelope.id, key, requestSha256⟩
    let l ← l.addSetupSlot row
    return (row, l)
  | some row => do
    require (row.requestSha256 = requestSha256 ∧ row.envelopeId = envelope.id)
      (.conflict "setup_model_request_conflict")
    return (row, l)

def setupPrepare (key : SetupModelUsageSlotKey) (requestSha256 : String) :
    Except ModelCallError (PreparedSetupModelUsageEffect × Ledger) := do
  let authority ← authorize sha256 p "setup_prepare"
    (.obj [("slot", key.toJson), ("request_sha256", .str requestSha256)]) setupAuthorityUnavailable
  let owner ← required p.owner .port
  let profile ← setupProfile l key (some owner)
  require (key.callIndex < profile.spec.maximumCalls) (.conflict "setup_model_call_index_conflict")
  let (envelope, l) ← requireSetupEnvelope l p key
  let (slot, l) ← requireSetupSlot l p envelope key requestSha256
  match l.latestSetupEffect slot.id with
  | some effect => return (setupPrepared envelope slot effect key true, l)
  | none =>
    let effect : ModelUsageEffect :=
      { id := p.ids.effectId, owner := ⟨.setup, slot.id⟩, attemptNumber := 1,
        internalCallRequestId := p.ids.internalCallRequestId, requestSha256 := requestSha256,
        preparedAuthorizationEvidenceId := authority.evidenceId }
    let l ← l.addEffect effect
    return (setupPrepared envelope slot effect key false, l)

variable (prepared : PreparedSetupModelUsageEffect)

def setupDispatchFacts (requestEvidence : ModelCallEvidence) : Json :=
  .obj [("prepared", prepared.toJson), ("request_evidence", requestEvidence.toJson)]

def lockedSetupEffect :
    Except ModelCallError (SetupModelUsageEnvelope × SetupModelUsageSlot × ModelUsageEffect) := do
  let key := prepared.slotKey
  let envelope ← required (l.setupEnvelope key.toSetupEnvelopeKey)
    (.unavailable "setup_model_envelope_unavailable")
  require (envelope.id = prepared.envelopeId) (.unavailable "setup_model_envelope_unavailable")
  let slot ← required (l.setupSlot key) effectUnavailable
  require (slot.id = prepared.slotId) effectUnavailable
  let effect ← required (l.attempt prepared.effectId) effectUnavailable
  require (effect.owner = ⟨.setup, slot.id⟩) effectUnavailable
  return (envelope, slot, effect)

def setupReserveDispatch (requestEvidence : ModelCallEvidence) :
    Except ModelCallError (SetupModelDispatchReservation × Ledger) := do
  let authority ← authorize sha256 p "setup_dispatch" (setupDispatchFacts prepared requestEvidence)
    setupAuthorityUnavailable
  let key := prepared.slotKey
  let owner ← required p.owner .port
  require (p.evidence = true) .port
  let profile ← setupProfile l key (some owner)
  require (requestEvidence.contentSha256 = prepared.requestSha256 ∧
      requestEvidence.byteCount ≤ profile.spec.maximumRequestBytes)
    (.conflict "setup_model_request_evidence_conflict")
  let (envelope, slot, effect) ← lockedSetupEffect l prepared
  if effect.state ≠ .prepared then
    require ((effect.requestEvidence.map (·.contentSha256)) = some requestEvidence.contentSha256)
      (.conflict "setup_model_dispatch_conflict")
    require (effect.state = .dispatching) (.conflict "setup_model_effect_not_dispatchable")
    let result ← setupDispatchResult envelope slot effect key requestEvidence true
    return (result, l)
  else
    let reservation ← requireRun profile.spec.toProfileFields (l.setupEnvelopeTotals envelope.id)
      requestEvidence.byteCount
    let (budget, l) ← reserveLifetime l (.budgetUnavailable "model_budget_unavailable") key.projectId
      reservation
    let effect := dispatchedRow effect requestEvidence budget reservation
      effect.dispatchExecutionFacts authority.evidenceId p.now
    let result ← setupDispatchResult envelope slot effect key requestEvidence false
    return (result, l.putEffect effect)

/-- `_terminal_preflight` -/
def setupTerminalPreflight (effectId : Uuid) :
    Except ModelCallError (SetupModelUsageSlot × ProjectModelProfile) := do
  let row ← required (l.attempt effectId) effectUnavailable
  require (row.owner.kind = .setup) effectUnavailable
  let slot ← required (l.setupSlotById row.owner.id) effectUnavailable
  let profile ← setupProfile l slot.key none
  return (slot, profile)

/-- `_lock_terminal` -/
def setupLockTerminal (slot : SetupModelUsageSlot) (effectId : Uuid) :
    Except ModelCallError ModelUsageEffect := do
  let _ ← required (l.setupEnvelope slot.key.toSetupEnvelopeKey)
    (.unavailable "setup_model_envelope_unavailable")
  let lockedSlot ← required (l.setupSlot slot.key) effectUnavailable
  require (lockedSlot.id = slot.id) effectUnavailable
  let row ← required (l.attempt effectId) effectUnavailable
  require (row.owner = ⟨.setup, slot.id⟩) effectUnavailable
  return row

variable (supplied : SetupModelEffectAuthorityFacts)

/-- `_require_effect` -/
def requireSetupEffect (slot : SetupModelUsageSlot) (row : ModelUsageEffect) :
    Except ModelCallError Unit :=
  require (supplied = setupEffectFacts slot row) effectUnavailable

def setupMarkUncertain (uncertaintyDigest : String) (providerResponseId : Option String) :
    Except ModelCallError (ObservedSetupModelUsageEffect × Ledger) := do
  let uncertaintyDigest ← sha uncertaintyDigest
  require (∀ id ∈ providerResponseId, isProviderResponseIdentifier id = true)
    (.valueError "provider response identifier")
  let authority ← authorize sha256 p "setup_observe"
    (.obj [("effect", supplied.toJson), ("provider_response_id", nullable providerResponseId),
      ("observation_digest", .str uncertaintyDigest)]) setupAuthorityUnavailable
  let (slot, _) ← setupTerminalPreflight l supplied.effectId
  let row ← setupLockTerminal l slot supplied.effectId
  requireSetupEffect supplied slot row
  let conflict : ModelCallError := .conflict "setup_model_uncertainty_conflict"
  if row.state = .uncertain then
    require (row.uncertaintyDigest = some uncertaintyDigest ∧
      row.providerResponseId = providerResponseId) conflict
    return (⟨setupEffectFacts slot row, uncertaintyDigest, providerResponseId, true⟩, l)
  else
    require (row.state = .dispatching) conflict
    let row := uncertainRow row uncertaintyDigest providerResponseId authority.evidenceId
    return (⟨setupEffectFacts slot row, uncertaintyDigest, providerResponseId, false⟩, l.putEffect row)

def setupResponseDigest (providerResponseId providerModelSnapshot : String)
    (responseEvidence : ModelCallEvidence) (usage : ModelCallUsage) (usable : Bool) : String :=
  canonicalJsonHash sha256 (.obj [("status", .str "completed"),
    ("provider_response_id", .str providerResponseId),
    ("provider_model_snapshot", .str providerModelSnapshot),
    ("response_evidence", responseEvidence.toJson), ("usage", usage.toJson), ("usable", .bool usable)])

def setupComplete (providerResponseId providerModelSnapshot : String)
    (responseEvidence : ModelCallEvidence) (usage : ModelCallUsage) (usable : Bool) :
    Except ModelCallError (CompletedSetupModelUsageEffect × Ledger) := do
  let providerResponseId ← providerResponse providerResponseId
  let terminalDigest := setupResponseDigest sha256 providerResponseId providerModelSnapshot
    responseEvidence usage usable
  let authority ← authorize sha256 p "setup_complete"
    (completeFacts supplied.toJson (some responseEvidence) terminalDigest) setupAuthorityUnavailable
  require (p.evidence = true) .port
  let (slot, profile) ← setupTerminalPreflight l supplied.effectId
  require (providerModelSnapshot = profile.spec.modelSnapshot ∧
      responseEvidence.byteCount ≤ profile.spec.maximumResponseBytes)
    (.conflict "setup_model_response_conflict")
  let cost ← modelUsageCost profile.spec.toProfileFields usage
  let row ← setupLockTerminal l slot supplied.effectId
  requireSetupEffect supplied slot row
  let conflict : ModelCallError := .conflict "setup_model_terminal_conflict"
  let target : EffectState := if usable then .completed else .knownFailed
  if row.state = .completed ∨ row.state = .knownFailed then
    require (row.state = target) conflict
    requireSameSettlement row providerResponseId responseEvidence usage cost conflict
    let result ← setupCompleted row slot true
    return (result, l)
  else
    requirePending row conflict (.unavailable "model_budget_unavailable")
    require (∀ id ∈ row.providerResponseId, id = providerResponseId)
      (.conflict "setup_model_provider_response_conflict")
    let l ← settle l row slot.key.projectId cost
    let row := settledRow row target providerResponseId responseEvidence usage cost
      authority.evidenceId p.now
    let result ← setupCompleted row slot false
    return (result, l.putEffect row)

def setupMarkKnownNoEffect (proof : KnownNoEffectProof) :
    Except ModelCallError (KnownNoEffectSetupModelUsageEffect × Ledger) := do
  let terminalDigest := knownNoEffectDigest sha256 proof
  let authority ← authorize sha256 p "setup_complete"
    (completeFacts supplied.toJson none terminalDigest) setupAuthorityUnavailable
  let (slot, _) ← setupTerminalPreflight l supplied.effectId
  let row ← setupLockTerminal l slot supplied.effectId
  requireSetupEffect supplied slot row
  let conflict : ModelCallError := .conflict "setup_model_terminal_conflict"
  if row.state = .knownNoEffect then
    require (row.noEffectProof = some proof) conflict
    return (⟨setupEffectFacts slot row, proof, true⟩, l)
  else
    requirePending row conflict (.unavailable "model_budget_unavailable")
    require (row.providerResponseId = none) (.conflict "setup_model_no_effect_conflict")
    let l ← release l row slot.key.projectId
    let row := noEffectRow row proof authority.evidenceId p.now
    return (⟨setupEffectFacts slot row, proof, false⟩, l.putEffect row)

end Setup

end Workstream.ModelUsage
