import Workstream.Core
import Workstream.Foundation.CivilTime
import Workstream.Foundation.Checks

/-!
# Model call values

The contracts of `model_usage/api.py`: profiles with their pricing and whole-run bounds, budget
configurations, the identities of paid slots, evidence and usage, and the facts that an authority
decision commits.
-/

namespace Workstream.ModelUsage
open Foundation

/-- How a call of the ledger ends without a value. -/
inductive ModelCallError where
  | unavailable (code : String)
  | conflict (code : String)
  | budgetUnavailable (code : String)
  | valueError (message : String)
  /-- An injected port raised. -/
  | port
  /-- The database refused a row. -/
  | integrity
deriving DecidableEq

def matchesPattern (first rest : Char → Bool) (maximum : Nat) (text : String) : Bool :=
  match text.toList with
  | [] => false
  | c :: cs => first c && cs.all rest && decide (cs.length < maximum)

def isLowerAlpha (c : Char) : Bool := 'a' ≤ c ∧ c ≤ 'z'

/-- Pattern `^[a-z][a-z0-9_.-]*$`, at most 100 characters -/
def isIdentifier : String → Bool :=
  matchesPattern isLowerAlpha (fun c => isLowerAlpha c || c.isDigit || ['_', '.', '-'].contains c) 100

/-- Pattern `^[A-Za-z0-9][A-Za-z0-9._:-]*$` with a slash among the later characters, at most 160 -/
def isProviderIdentifier : String → Bool :=
  matchesPattern Char.isAlphanum (fun c => c.isAlphanum || ['.', '_', ':', '/', '-'].contains c) 160

/-- Pattern `^[A-Za-z0-9][A-Za-z0-9._:-]*$`, at most 256 characters -/
def isProviderResponseIdentifier : String → Bool :=
  matchesPattern Char.isAlphanum (fun c => c.isAlphanum || ['.', '_', ':', '-'].contains c) 256

def number (n : Nat) : Json := .num n

def nullable : Option String → Json
  | some text => .str text
  | none => .null

inductive ReasoningEffort where
  | none | minimal | low | medium | high | xhigh | max
deriving DecidableEq

def ReasoningEffort.text : ReasoningEffort → String
  | .none => "none"
  | .minimal => "minimal"
  | .low => "low"
  | .medium => "medium"
  | .high => "high"
  | .xhigh => "xhigh"
  | .max => "max"

inductive TextVerbosity where
  | low | medium | high
deriving DecidableEq

def TextVerbosity.text : TextVerbosity → String
  | .low => "low"
  | .medium => "medium"
  | .high => "high"

structure ModelGenerationSettings where
  reasoningEffort : ReasoningEffort
  textVerbosity : TextVerbosity
deriving DecidableEq

def ModelGenerationSettings.toJson (s : ModelGenerationSettings) : Json :=
  .obj [("reasoning_effort", .str s.reasoningEffort.text), ("text_verbosity", .str s.textVerbosity.text)]

def maximumNanodollars : Nat := 9000000000000000000

structure ModelPricing where
  pricingPolicyId : Uuid
  pricingPolicyVersion : Nat
  pricingPolicyDigest : String
  uncachedInputNanodollarsPerToken : Nat
  cachedInputNanodollarsPerToken : Nat
  outputNanodollarsPerToken : Nat
deriving DecidableEq

def ModelPricing.inputRate (p : ModelPricing) : Nat :=
  max p.uncachedInputNanodollarsPerToken p.cachedInputNanodollarsPerToken

def ModelPricing.toJson (p : ModelPricing) : Json :=
  .obj [("pricing_policy_id", .str p.pricingPolicyId),
    ("pricing_policy_version", number p.pricingPolicyVersion),
    ("pricing_policy_digest", .str p.pricingPolicyDigest),
    ("uncached_input_nanodollars_per_token", number p.uncachedInputNanodollarsPerToken),
    ("cached_input_nanodollars_per_token", number p.cachedInputNanodollarsPerToken),
    ("output_nanodollars_per_token", number p.outputNanodollarsPerToken)]

structure ProfileFields where
  projectId : Uuid
  profileVersion : Nat
  provider : String
  api : String
  modelSnapshot : String
  settings : ModelGenerationSettings
  maximumRequestBytes : Nat
  maximumOutputBytes : Nat
  maximumResponseBytes : Nat
  maximumInputTokens : Nat
  maximumOutputTokens : Nat
  maximumCalls : Nat
  maximumTotalRequestBytes : Nat
  maximumTotalResponseBytes : Nat
  maximumTotalInputTokens : Nat
  maximumTotalOutputTokens : Nat
  allowedTools : List String
  maximumToolCalls : Nat
  maximumToolOutputBytes : Nat
  deadlineMs : Nat
  pricing : ModelPricing
deriving DecidableEq

namespace ProfileFields

variable (f : ProfileFields)

abbrev InRange : Prop :=
  1 ≤ f.profileVersion ∧ isProviderIdentifier f.provider = true ∧ isProviderIdentifier f.api = true ∧
  isProviderIdentifier f.modelSnapshot = true ∧
  (1 ≤ f.maximumRequestBytes ∧ f.maximumRequestBytes ≤ 1048576) ∧
  (1 ≤ f.maximumOutputBytes ∧ f.maximumOutputBytes ≤ 1048576) ∧
  (1 ≤ f.maximumResponseBytes ∧ f.maximumResponseBytes ≤ 1048576) ∧
  (1 ≤ f.maximumInputTokens ∧ f.maximumInputTokens ≤ 10000000) ∧
  (1 ≤ f.maximumOutputTokens ∧ f.maximumOutputTokens ≤ 10000000) ∧
  (1 ≤ f.maximumCalls ∧ f.maximumCalls ≤ 100) ∧
  (1 ≤ f.maximumTotalRequestBytes ∧ f.maximumTotalRequestBytes ≤ 104857600) ∧
  (1 ≤ f.maximumTotalResponseBytes ∧ f.maximumTotalResponseBytes ≤ 104857600) ∧
  (1 ≤ f.maximumTotalInputTokens ∧ f.maximumTotalInputTokens ≤ 100000000) ∧
  (1 ≤ f.maximumTotalOutputTokens ∧ f.maximumTotalOutputTokens ≤ 100000000) ∧
  (∀ tool ∈ f.allowedTools, isIdentifier tool = true) ∧
  f.maximumToolCalls ≤ 1000 ∧ f.maximumToolOutputBytes ≤ 104857600 ∧
  (100 ≤ f.deadlineMs ∧ f.deadlineMs ≤ 3600000) ∧
  1 ≤ f.pricing.pricingPolicyVersion ∧ isDigest f.pricing.pricingPolicyDigest = true ∧
  f.pricing.uncachedInputNanodollarsPerToken ≤ maximumNanodollars ∧
  f.pricing.cachedInputNanodollarsPerToken ≤ maximumNanodollars ∧
  f.pricing.outputNanodollarsPerToken ≤ maximumNanodollars ∧
  0 < max f.pricing.inputRate f.pricing.outputNanodollarsPerToken

def boundedTotals : List (Nat × Nat) :=
  [(f.maximumRequestBytes, f.maximumTotalRequestBytes),
    (f.maximumResponseBytes, f.maximumTotalResponseBytes),
    (f.maximumInputTokens, f.maximumTotalInputTokens),
    (f.maximumOutputTokens, f.maximumTotalOutputTokens)]

abbrev CoherentBounds : Prop :=
  6 * f.maximumOutputBytes + 4096 ≤ f.maximumResponseBytes ∧
  f.allowedTools.Nodup ∧ f.allowedTools.Pairwise (fun a b => ¬b < a) ∧
  (f.allowedTools = [] → f.maximumToolCalls = 0 ∧ f.maximumToolOutputBytes = 0) ∧
  (f.allowedTools ≠ [] → f.maximumToolCalls ≠ 0 ∧ f.maximumToolOutputBytes ≠ 0) ∧
  (∀ bound ∈ f.boundedTotals, bound.1 ≤ bound.2) ∧
  ∀ bound ∈ f.boundedTotals, bound.2 ≤ bound.1 * f.maximumCalls

def toJson : Json :=
  .obj [("project_id", .str f.projectId), ("profile_version", number f.profileVersion),
    ("provider", .str f.provider), ("api", .str f.api), ("model_snapshot", .str f.modelSnapshot),
    ("settings", f.settings.toJson), ("maximum_request_bytes", number f.maximumRequestBytes),
    ("maximum_output_bytes", number f.maximumOutputBytes),
    ("maximum_response_bytes", number f.maximumResponseBytes),
    ("maximum_input_tokens", number f.maximumInputTokens),
    ("maximum_output_tokens", number f.maximumOutputTokens),
    ("maximum_calls", number f.maximumCalls),
    ("maximum_total_request_bytes", number f.maximumTotalRequestBytes),
    ("maximum_total_response_bytes", number f.maximumTotalResponseBytes),
    ("maximum_total_input_tokens", number f.maximumTotalInputTokens),
    ("maximum_total_output_tokens", number f.maximumTotalOutputTokens),
    ("allowed_tools", .arr (f.allowedTools.map .str)),
    ("maximum_tool_calls", number f.maximumToolCalls),
    ("maximum_tool_output_bytes", number f.maximumToolOutputBytes),
    ("deadline_ms", number f.deadlineMs), ("pricing", f.pricing.toJson)]

def runReservation : Nat :=
  f.maximumTotalInputTokens * f.pricing.inputRate +
    f.maximumTotalOutputTokens * f.pricing.outputNanodollarsPerToken

def dispatchReservation : Nat :=
  f.maximumInputTokens * f.pricing.inputRate +
    f.maximumOutputTokens * f.pricing.outputNanodollarsPerToken

def maximumReservationNanodollars : Except ModelCallError Nat := do
  let value := f.runReservation
  require (0 < value ∧ value ≤ maximumNanodollars)
    (.valueError "model profile reservation is outside the supported range")
  return value

def maximumDispatchReservationNanodollars : Except ModelCallError Nat := do
  let value := f.dispatchReservation
  let maximum ← f.maximumReservationNanodollars
  require (0 < value ∧ value ≤ maximum)
    (.valueError "model dispatch reservation is outside the run envelope")
  return value

end ProfileFields

structure ProjectModelProfileSpec extends ProfileFields where
  inRange : toProfileFields.InRange
  coherentBounds : toProfileFields.CoherentBounds
deriving DecidableEq

/-- `ModelProfileSelector`: an exact published profile. -/
structure ModelProfileSelector where
  profileId : Uuid
  profileVersion : Nat
  profileDigest : String
deriving DecidableEq

structure ModelProfileProvisioningFacts where
  operationId : Uuid
  actorProfileId : Uuid
  spec : ProjectModelProfileSpec
  profileDigest : String
deriving DecidableEq

def ModelProfileProvisioningFacts.toJson (f : ModelProfileProvisioningFacts) : Json :=
  .obj [("operation_id", .str f.operationId), ("actor_profile_id", .str f.actorProfileId),
    ("spec", f.spec.toJson), ("profile_digest", .str f.profileDigest)]

/-- A published profile; the row has nothing else. -/
structure ProjectModelProfile extends ModelProfileProvisioningFacts where
  profileId : Uuid
  authorizationEvidenceId : Uuid

def ProjectModelProfile.selector (p : ProjectModelProfile) : ModelProfileSelector :=
  ⟨p.profileId, p.spec.profileVersion, p.profileDigest⟩

structure BudgetFields where
  projectId : Uuid
  configurationVersion : Nat
  authorizedTotalNanodollars : Nat
  externallyReconciledPriorSpendNanodollars : Nat
  lifetimeLimitNanodollars : Nat
deriving DecidableEq

abbrev BudgetFields.Valid (f : BudgetFields) : Prop :=
  1 ≤ f.configurationVersion ∧ f.authorizedTotalNanodollars ≤ maximumNanodollars ∧
  f.externallyReconciledPriorSpendNanodollars ≤ maximumNanodollars ∧
  f.lifetimeLimitNanodollars ≤ maximumNanodollars ∧
  0 < f.lifetimeLimitNanodollars ∧ 0 < f.authorizedTotalNanodollars ∧
  f.externallyReconciledPriorSpendNanodollars + f.lifetimeLimitNanodollars ≤
    f.authorizedTotalNanodollars

structure ProjectModelBudgetConfigurationSpec extends BudgetFields where
  valid : toBudgetFields.Valid
deriving DecidableEq

def BudgetFields.toJson (f : BudgetFields) : Json :=
  .obj [("project_id", .str f.projectId), ("configuration_version", number f.configurationVersion),
    ("authorized_total_nanodollars", number f.authorizedTotalNanodollars),
    ("externally_reconciled_prior_spend_nanodollars",
      number f.externallyReconciledPriorSpendNanodollars),
    ("lifetime_limit_nanodollars", number f.lifetimeLimitNanodollars)]

structure ModelBudgetProvisioningFacts where
  operationId : Uuid
  actorProfileId : Uuid
  spec : ProjectModelBudgetConfigurationSpec
  configurationDigest : String
deriving DecidableEq

def ModelBudgetProvisioningFacts.toJson (f : ModelBudgetProvisioningFacts) : Json :=
  .obj [("operation_id", .str f.operationId), ("actor_profile_id", .str f.actorProfileId),
    ("spec", f.spec.toJson), ("configuration_digest", .str f.configurationDigest)]

structure PaidEnvelopeKey where
  projectId : Uuid
  assignmentId : Uuid
  submissionId : Uuid
  submissionVersion : Nat
  requirementId : String
  registryEntryDigest : String
  configurationSha256 : String
  profileId : Uuid
  profileVersion : Nat
  profileDigest : String
deriving DecidableEq

structure ModelPaidSlotKey extends PaidEnvelopeKey where
  slotIndex : Nat
deriving DecidableEq

def PaidEnvelopeKey.selector (k : PaidEnvelopeKey) : ModelProfileSelector :=
  ⟨k.profileId, k.profileVersion, k.profileDigest⟩

def ModelPaidSlotKey.toJson (k : ModelPaidSlotKey) : Json :=
  .obj [("project_id", .str k.projectId), ("assignment_id", .str k.assignmentId),
    ("submission_id", .str k.submissionId), ("submission_version", number k.submissionVersion),
    ("requirement_id", .str k.requirementId), ("registry_entry_digest", .str k.registryEntryDigest),
    ("configuration_sha256", .str k.configurationSha256), ("profile_id", .str k.profileId),
    ("profile_version", number k.profileVersion), ("profile_digest", .str k.profileDigest),
    ("slot_index", number k.slotIndex)]

inductive SetupPhase where
  | draft | review | correction
deriving DecidableEq

def SetupPhase.text : SetupPhase → String
  | .draft => "draft"
  | .review => "review"
  | .correction => "correction"

structure SetupEnvelopeKey where
  compilationAttemptId : Uuid
  projectId : Uuid
  guideId : Uuid
  sourceSnapshotId : Uuid
  setupRunId : Uuid
  setupGeneration : Nat
  runtimeConfigurationHash : String
  profileId : Uuid
  profileVersion : Nat
  profileDigest : String
deriving DecidableEq

structure SetupModelUsageSlotKey extends SetupEnvelopeKey where
  phase : SetupPhase
  callIndex : Nat
deriving DecidableEq

def SetupEnvelopeKey.selector (k : SetupEnvelopeKey) : ModelProfileSelector :=
  ⟨k.profileId, k.profileVersion, k.profileDigest⟩

def SetupModelUsageSlotKey.toJson (k : SetupModelUsageSlotKey) : Json :=
  .obj [("compilation_attempt_id", .str k.compilationAttemptId), ("project_id", .str k.projectId),
    ("guide_id", .str k.guideId), ("source_snapshot_id", .str k.sourceSnapshotId),
    ("setup_run_id", .str k.setupRunId), ("setup_generation", number k.setupGeneration),
    ("runtime_configuration_hash", .str k.runtimeConfigurationHash),
    ("profile_id", .str k.profileId), ("profile_version", number k.profileVersion),
    ("profile_digest", .str k.profileDigest), ("phase", .str k.phase.text),
    ("call_index", number k.callIndex)]

/-- `worker_lease_expires_at` is the text that `model_dump(mode="json")` writes. -/
structure ModelCallExecutionFacts where
  projectId : Uuid
  taskId : Uuid
  assignmentId : Uuid
  submissionId : Uuid
  submissionVersion : Nat
  evaluationRequestId : Uuid
  evaluationGeneration : Nat
  checkerRunId : Uuid
  workerLeaseId : Uuid
  workerLeaseGeneration : Nat
  workerLeaseExpiresAt : String
deriving DecidableEq

def ModelCallExecutionFacts.toJson (e : ModelCallExecutionFacts) : Json :=
  .obj [("project_id", .str e.projectId), ("task_id", .str e.taskId),
    ("assignment_id", .str e.assignmentId), ("submission_id", .str e.submissionId),
    ("submission_version", number e.submissionVersion),
    ("evaluation_request_id", .str e.evaluationRequestId),
    ("evaluation_generation", number e.evaluationGeneration),
    ("checker_run_id", .str e.checkerRunId), ("worker_lease_id", .str e.workerLeaseId),
    ("worker_lease_generation", number e.workerLeaseGeneration),
    ("worker_lease_expires_at", .str e.workerLeaseExpiresAt)]

structure ModelCallEvidence where
  bindingId : Uuid
  contentId : Uuid
  putAttemptId : Uuid
  verificationReceiptId : Uuid
  contentSha256 : String
  byteCount : Nat
  valid : isDigest contentSha256 = true ∧ 1 ≤ byteCount ∧ byteCount ≤ 1048576
deriving DecidableEq

def ModelCallEvidence.toJson (e : ModelCallEvidence) : Json :=
  .obj [("binding_id", .str e.bindingId), ("content_id", .str e.contentId),
    ("put_attempt_id", .str e.putAttemptId), ("verification_receipt_id", .str e.verificationReceiptId),
    ("content_sha256", .str e.contentSha256), ("byte_count", number e.byteCount),
    ("media_type", .str "application/json")]

def evidenceJson : Option ModelCallEvidence → Json
  | some evidence => evidence.toJson
  | none => .null

structure ModelCallUsage where
  inputTokens : Nat
  cachedInputTokens : Nat
  outputTokens : Nat
  reasoningTokens : Nat
  nestedClasses : cachedInputTokens ≤ inputTokens ∧ reasoningTokens ≤ outputTokens
deriving DecidableEq

def ModelCallUsage.toJson (u : ModelCallUsage) : Json :=
  .obj [("input_tokens", number u.inputTokens), ("cached_input_tokens", number u.cachedInputTokens),
    ("output_tokens", number u.outputTokens), ("reasoning_tokens", number u.reasoningTokens)]

def ProfileFields.price (f : ProfileFields) (u : ModelCallUsage) : Nat :=
  (u.inputTokens - u.cachedInputTokens) * f.pricing.uncachedInputNanodollarsPerToken +
    u.cachedInputTokens * f.pricing.cachedInputNanodollarsPerToken +
    u.outputTokens * f.pricing.outputNanodollarsPerToken

def modelUsageCost (f : ProfileFields) (u : ModelCallUsage) : Except ModelCallError Nat := do
  require (u.inputTokens ≤ f.maximumInputTokens ∧ u.outputTokens ≤ f.maximumOutputTokens)
    (.conflict "model usage exceeds the approved profile")
  let value := f.price u
  let maximum ← f.maximumReservationNanodollars
  require (value ≤ maximum) (.conflict "model usage cost exceeds the approved reservation")
  return value

/-- Usage within the bounds of one call costs at most the reservation of one dispatch, whatever the
split of its input tokens into cached and uncached ones. -/
theorem ProfileFields.price_le_dispatchReservation {f : ProfileFields} {u : ModelCallUsage}
    (hinput : u.inputTokens ≤ f.maximumInputTokens) (houtput : u.outputTokens ≤ f.maximumOutputTokens) :
    f.price u ≤ f.dispatchReservation := by
  have hsplit : u.inputTokens - u.cachedInputTokens + u.cachedInputTokens = u.inputTokens :=
    Nat.sub_add_cancel u.nestedClasses.1
  have huncached : (u.inputTokens - u.cachedInputTokens) * f.pricing.uncachedInputNanodollarsPerToken ≤
      (u.inputTokens - u.cachedInputTokens) * f.pricing.inputRate :=
    Nat.mul_le_mul_left _ (Nat.le_max_left _ _)
  have hcached : u.cachedInputTokens * f.pricing.cachedInputNanodollarsPerToken ≤
      u.cachedInputTokens * f.pricing.inputRate :=
    Nat.mul_le_mul_left _ (Nat.le_max_right _ _)
  calc f.price u
      ≤ (u.inputTokens - u.cachedInputTokens) * f.pricing.inputRate +
          u.cachedInputTokens * f.pricing.inputRate +
          u.outputTokens * f.pricing.outputNanodollarsPerToken :=
        Nat.add_le_add_right (Nat.add_le_add huncached hcached) _
    _ = u.inputTokens * f.pricing.inputRate + u.outputTokens * f.pricing.outputNanodollarsPerToken := by
        rw [← Nat.add_mul, hsplit]
    _ ≤ f.dispatchReservation :=
        Nat.add_le_add (Nat.mul_le_mul_right _ hinput) (Nat.mul_le_mul_right _ houtput)

/-- `model_usage_instant`: the canonical UTC spelling, without trailing zeros of the fraction. -/
def modelUsageInstant (t : Nat) : String :=
  let f := DateTime.fields t
  let fraction := (pad 6 f.micro).reverse.dropWhile (· == '0')
  String.ofList (pad 4 f.date.year ++ '-' :: pad 2 f.date.month ++ '-' :: pad 2 f.date.day ++ 'T' ::
    pad 2 f.hour ++ ':' :: pad 2 f.minute ++ ':' :: pad 2 f.second ++
    (if f.micro = 0 then [] else '.' :: fraction.reverse) ++ "+00:00".toList)

structure KnownNoEffectProof where
  proofId : Uuid
  proofDigest : String
  observedAt : Nat
deriving DecidableEq

structure ModelActionEvidence where
  evidenceId : Uuid
  factsDigest : String

section Digests

variable (sha256 : String → String)

def knownFailedDigest (providerResponseId responseContentSha256 : String) (usage : ModelCallUsage)
    (settledNanodollars : Nat) : String :=
  canonicalJsonHash sha256 (.obj [("state", .str "known_failed"),
    ("provider_response_id", .str providerResponseId),
    ("response_content_sha256", .str responseContentSha256), ("usage", usage.toJson),
    ("settled_nanodollars", number settledNanodollars)])

def knownNoEffectDigest (proof : KnownNoEffectProof) : String :=
  canonicalJsonHash sha256 (.obj [("state", .str "known_no_effect"), ("proof_id", .str proof.proofId),
    ("proof_digest", .str proof.proofDigest),
    ("observed_at", .str (modelUsageInstant proof.observedAt))])

def modelActionDigest (action : String) (facts : Json) : String :=
  canonicalJsonHash sha256 (.obj [("action", .str action), ("facts", facts)])

end Digests

end Workstream.ModelUsage
