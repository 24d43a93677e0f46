import Workstream.ModelUsage.Api
import Workstream.Foundation.Tables
import Mathlib.Data.List.MinMax

/-!
# The ledger

The tables of `model_usage/models.py` and the reads of `model_usage/repository.py`.
-/

namespace Workstream.ModelUsage
open Foundation

/-- The two owners of paid slots, with one effect table between them. -/
inductive OwnerKind where
  | checker
  | setup
deriving DecidableEq

/-- A slot or an envelope of an owner. -/
structure Ref where
  kind : OwnerKind
  id : Uuid
deriving DecidableEq

inductive EffectState where
  | prepared
  | dispatching
  | uncertain
  | completed
  | knownFailed
  | knownNoEffect
deriving DecidableEq

def EffectState.text : EffectState → String
  | .prepared => "prepared"
  | .dispatching => "dispatching"
  | .uncertain => "uncertain"
  | .completed => "completed"
  | .knownFailed => "known_failed"
  | .knownNoEffect => "known_no_effect"

def EffectState.isPending (state : EffectState) : Bool := state = .dispatching || state = .uncertain

structure ModelUsageBudgetConfiguration extends ModelBudgetProvisioningFacts where
  id : Uuid
  authorizationEvidenceId : Uuid

structure ModelUsageBudgetAccount where
  projectId : Uuid
  currentConfigurationId : Uuid
  lifetimeReservedNanodollars : Nat
  lifetimeSettledNanodollars : Nat

structure CheckerModelUsageEnvelope where
  id : Uuid
  taskId : Uuid
  key : PaidEnvelopeKey

structure CheckerModelUsageSlot where
  id : Uuid
  envelopeId : Uuid
  taskId : Uuid
  key : ModelPaidSlotKey
  firstRequestSha256 : String

structure SetupModelUsageEnvelope where
  id : Uuid
  key : SetupEnvelopeKey

structure SetupModelUsageSlot where
  id : Uuid
  envelopeId : Uuid
  key : SetupModelUsageSlotKey
  requestSha256 : String

structure BudgetIdentity where
  configurationId : Uuid
  configurationVersion : Nat
  configurationDigest : String
deriving DecidableEq

/-- One paid attempt. `checker_slot_id` and `setup_slot_id` are the owner: exactly one is not null. -/
structure ModelUsageEffect where
  id : Uuid
  owner : Ref
  attemptNumber : Nat
  internalCallRequestId : Uuid
  parentAttemptId : Option Uuid := none
  requestSha256 : String
  state : EffectState := .prepared
  preparedExecutionFacts : Option ModelCallExecutionFacts := none
  preparedAuthorizationEvidenceId : Uuid
  requestEvidence : Option ModelCallEvidence := none
  budgetConfiguration : Option BudgetIdentity := none
  reservedNanodollars : Option Nat := none
  dispatchExecutionFacts : Option ModelCallExecutionFacts := none
  dispatchAuthorizationEvidenceId : Option Uuid := none
  dispatchedAt : Option Nat := none
  uncertaintyDigest : Option String := none
  observationAuthorizationEvidenceId : Option Uuid := none
  providerResponseId : Option String := none
  responseEvidence : Option ModelCallEvidence := none
  usage : Option ModelCallUsage := none
  settledNanodollars : Option Nat := none
  settlementAuthorizationEvidenceId : Option Uuid := none
  settledAt : Option Nat := none
  noEffectProof : Option KnownNoEffectProof := none
  terminalAuthorizationEvidenceId : Option Uuid := none
  terminalAt : Option Nat := none
deriving DecidableEq

/-- The tables whose rows never change: profiles, envelopes and slots. -/
structure Registry where
  profiles : List ProjectModelProfile := []
  checkerEnvelopes : List CheckerModelUsageEnvelope := []
  checkerSlots : List CheckerModelUsageSlot := []
  setupEnvelopes : List SetupModelUsageEnvelope := []
  setupSlots : List SetupModelUsageSlot := []

/-- The rows that both services write. -/
structure Ledger extends Registry where
  configurations : List ModelUsageBudgetConfiguration := []
  accounts : List ModelUsageBudgetAccount := []
  effects : List ModelUsageEffect := []

@[ext] structure ModelUsageEnvelopeTotals where
  dispatches : Nat
  pendingDispatches : Nat
  reservedNanodollars : Nat
  settledNanodollars : Nat
  requestBytes : Nat
  responseBytes : Nat
  inputTokens : Nat
  outputTokens : Nat

namespace ModelUsageEffect

variable (e : ModelUsageEffect)

def dispatched : Nat := if e.state = .prepared then 0 else 1

def pending : Nat := if e.state.isPending then 1 else 0

def outstanding : Nat :=
  if e.state.isPending then e.reservedNanodollars.getD 0 else 0

def settled : Nat := e.settledNanodollars.getD 0

def requestByteCount : Nat := (e.requestEvidence.map (·.byteCount)).getD 0

def responseByteCount : Nat := (e.responseEvidence.map (·.byteCount)).getD 0

def inputTokens : Nat := (e.usage.map (·.inputTokens)).getD 0

def outputTokens : Nat := (e.usage.map (·.outputTokens)).getD 0

end ModelUsageEffect

/-- The aggregates of `envelope_totals` over the selected rows. -/
def totals (rows : List ModelUsageEffect) : ModelUsageEnvelopeTotals where
  dispatches := (rows.map (·.dispatched)).sum
  pendingDispatches := (rows.map (·.pending)).sum
  reservedNanodollars := (rows.map (·.outstanding)).sum
  settledNanodollars := (rows.map (·.settled)).sum
  requestBytes := (rows.map (·.requestByteCount)).sum
  responseBytes := (rows.map (·.responseByteCount)).sum
  inputTokens := (rows.map (·.inputTokens)).sum
  outputTokens := (rows.map (·.outputTokens)).sum

structure SlotView where
  envelope : Ref
  projectId : Uuid
  profile : ModelProfileSelector
  requestSha256 : String

def CheckerModelUsageSlot.view (slot : CheckerModelUsageSlot) : SlotView where
  envelope := ⟨.checker, slot.envelopeId⟩
  projectId := slot.key.projectId
  profile := slot.key.selector
  requestSha256 := slot.firstRequestSha256

def SetupModelUsageSlot.view (slot : SetupModelUsageSlot) : SlotView where
  envelope := ⟨.setup, slot.envelopeId⟩
  projectId := slot.key.projectId
  profile := slot.key.selector
  requestSha256 := slot.requestSha256

/-- The columns that `_setup_slot_predicates` compares. -/
def SetupModelUsageSlotKey.stableIdentity (k : SetupModelUsageSlotKey) :
    Uuid × String × ModelProfileSelector × SetupPhase × Nat :=
  (k.compilationAttemptId, k.runtimeConfigurationHash, k.selector, k.phase, k.callIndex)

namespace Registry

variable (r : Registry)

def profileByOperation (operationId : Uuid) : Option ProjectModelProfile :=
  Table.find (fun p => p.operationId) r.profiles operationId

def profileByVersion (projectId : Uuid) (version : Nat) : Option ProjectModelProfile :=
  Table.find (fun p => (p.spec.projectId, p.spec.profileVersion)) r.profiles (projectId, version)

def latestProfile (projectId : Uuid) : Option ProjectModelProfile :=
  (r.profiles.filter (fun p => p.spec.projectId = projectId)).argmax (fun p => p.spec.profileVersion)

def profileExact (selector : ModelProfileSelector) : Option ProjectModelProfile :=
  Table.find ProjectModelProfile.selector r.profiles selector

def envelope (key : PaidEnvelopeKey) : Option CheckerModelUsageEnvelope :=
  Table.find (fun e => e.key) r.checkerEnvelopes key

def slot (key : ModelPaidSlotKey) : Option CheckerModelUsageSlot :=
  Table.find (fun s => s.key) r.checkerSlots key

def slotById (id : Uuid) : Option CheckerModelUsageSlot := Table.find (fun s => s.id) r.checkerSlots id

def setupEnvelope (key : SetupEnvelopeKey) : Option SetupModelUsageEnvelope :=
  Table.find (fun e => e.key) r.setupEnvelopes key

def setupSlot (key : SetupModelUsageSlotKey) : Option SetupModelUsageSlot :=
  Table.find (fun s => s.key.stableIdentity) r.setupSlots key.stableIdentity

def setupSlotById (id : Uuid) : Option SetupModelUsageSlot := Table.find (fun s => s.id) r.setupSlots id

def setupEnvelopeById (id : Uuid) : Option SetupModelUsageEnvelope :=
  Table.find (fun e => e.id) r.setupEnvelopes id

def slotView (owner : Ref) : Option SlotView :=
  match owner.kind with
  | .checker => (r.slotById owner.id).map CheckerModelUsageSlot.view
  | .setup => (r.setupSlotById owner.id).map SetupModelUsageSlot.view

/-- The profile that the slots of an envelope share. -/
def envelopeProfile (envelope : Ref) : Option ModelProfileSelector :=
  match envelope.kind with
  | .checker => (Table.find (fun e => e.id) r.checkerEnvelopes envelope.id).map (·.key.selector)
  | .setup => (Table.find (fun e => e.id) r.setupEnvelopes envelope.id).map (·.key.selector)

end Registry

namespace Ledger

variable (l : Ledger)

def budgetAccount (projectId : Uuid) : Option ModelUsageBudgetAccount :=
  Table.find (fun a => a.projectId) l.accounts projectId

def budgetConfigurationByOperation (operationId : Uuid) : Option ModelUsageBudgetConfiguration :=
  Table.find (fun c => c.operationId) l.configurations operationId

def budgetConfigurationByVersion (projectId : Uuid) (version : Nat) :
    Option ModelUsageBudgetConfiguration :=
  Table.find (fun c => (c.spec.projectId, c.spec.configurationVersion)) l.configurations
    (projectId, version)

def currentBudgetConfiguration (account : ModelUsageBudgetAccount) :
    Option ModelUsageBudgetConfiguration :=
  Table.find (fun c => c.id) l.configurations account.currentConfigurationId

/-- The attempts of a slot, in the order of their creation. -/
def attemptsOf (owner : Ref) : List ModelUsageEffect := l.effects.filter (fun e => e.owner = owner)

def latestOf (owner : Ref) : Option ModelUsageEffect :=
  (l.attemptsOf owner).argmax (fun e => e.attemptNumber)

def latestAttempt (slotId : Uuid) : Option ModelUsageEffect := l.latestOf ⟨.checker, slotId⟩

def latestSetupEffect (slotId : Uuid) : Option ModelUsageEffect := l.latestOf ⟨.setup, slotId⟩

def attempt (attemptId : Uuid) : Option ModelUsageEffect := Table.find (fun e => e.id) l.effects attemptId

def effectsWith (admits : SlotView → Bool) : List ModelUsageEffect :=
  l.effects.filter (fun e => (l.slotView e.owner).any admits)

def effectsUnder (envelope : Ref) : List ModelUsageEffect :=
  l.effectsWith (fun view => view.envelope = envelope)

def effectsOf (projectId : Uuid) : List ModelUsageEffect :=
  l.effectsWith (fun view => view.projectId = projectId)

def envelopeTotals (envelopeId : Uuid) : ModelUsageEnvelopeTotals :=
  totals (l.effectsUnder ⟨.checker, envelopeId⟩)

def setupEnvelopeTotals (envelopeId : Uuid) : ModelUsageEnvelopeTotals :=
  totals (l.effectsUnder ⟨.setup, envelopeId⟩)

def addProfile (row : ProjectModelProfile) : Except ModelCallError Ledger := do
  require (row.profileId ∉ l.profiles.map (·.profileId)) .integrity
  return { l with profiles := l.profiles ++ [row] }

def addConfiguration (row : ModelUsageBudgetConfiguration) : Except ModelCallError Ledger := do
  require (row.id ∉ l.configurations.map (·.id)) .integrity
  return { l with configurations := l.configurations ++ [row] }

def addAccount (row : ModelUsageBudgetAccount) : Except ModelCallError Ledger := do
  require (row.projectId ∉ l.accounts.map (·.projectId)) .integrity
  return { l with accounts := l.accounts ++ [row] }

def putAccount (row : ModelUsageBudgetAccount) : Ledger :=
  { l with accounts := Table.replace (fun a => a.projectId) l.accounts row }

def addCheckerEnvelope (row : CheckerModelUsageEnvelope) : Except ModelCallError Ledger := do
  require (row.id ∉ l.checkerEnvelopes.map (·.id)) .integrity
  return { l with checkerEnvelopes := l.checkerEnvelopes ++ [row] }

def addCheckerSlot (row : CheckerModelUsageSlot) : Except ModelCallError Ledger := do
  require (row.id ∉ l.checkerSlots.map (·.id)) .integrity
  return { l with checkerSlots := l.checkerSlots ++ [row] }

/-- `uq_setup_model_usage_envelopes_one_per_attempt` -/
def addSetupEnvelope (row : SetupModelUsageEnvelope) : Except ModelCallError Ledger := do
  require (row.id ∉ l.setupEnvelopes.map (·.id)) .integrity
  require (row.key.compilationAttemptId ∉ l.setupEnvelopes.map (·.key.compilationAttemptId)) .integrity
  return { l with setupEnvelopes := l.setupEnvelopes ++ [row] }

def addSetupSlot (row : SetupModelUsageSlot) : Except ModelCallError Ledger := do
  require (row.id ∉ l.setupSlots.map (·.id)) .integrity
  return { l with setupSlots := l.setupSlots ++ [row] }

def addEffect (row : ModelUsageEffect) : Except ModelCallError Ledger := do
  require (row.id ∉ l.effects.map (·.id)) .integrity
  return { l with effects := l.effects ++ [row] }

def putEffect (row : ModelUsageEffect) : Ledger :=
  { l with effects := Table.replace (fun e => e.id) l.effects row }

end Ledger

end Workstream.ModelUsage
