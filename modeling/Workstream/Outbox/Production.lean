import Workstream.Outbox.Acceptance

/-!
# The production registry and migration 0046

The registry of `production_outbox_delivery` and the list in the deferred projection of the database are
kept apart.
-/

namespace Workstream.Outbox
open Foundation

def assignmentInvalidationEvent : String := "TaskAssignmentAuthorityInvalidationRequested"

def revisionExpiryEvent : String := "TaskRevisionExpiryRequested"

def revisionExpiredEvent : String := "TaskRevisionExpired"

def revisionContextBlockedEvent : String := "TaskRevisionContextBlocked"

def revisionExhaustedEvent : String := "TaskRevisionExhausted"

def requestEvent : String := "PostSubmissionEvaluationRequested"

def completionEvent : String := "PostSubmissionEvaluationCompleted"

def reconciliationEvent : String := "PostSubmissionDeliveryReconciliationRequested"

/-- The registry that the application wires. -/
def productionRegistry : HandlerRegistry where
  keys := [
    (assignmentInvalidationEvent, 1), (revisionExpiryEvent, 1), (revisionExpiredEvent, 1),
    (revisionContextBlockedEvent, 1), (revisionExhaustedEvent, 1), (requestEvent, 1),
    (completionEvent, 1), (reconciliationEvent, 1)]
  replaySafe := [
    (revisionExpiryEvent, 1), (revisionExpiredEvent, 1), (revisionContextBlockedEvent, 1),
    (revisionExhaustedEvent, 1)]
  wellFormed := by decide
  distinct := by decide
  registered := by decide

/-- The owner `production_outbox_delivery` composes; only evaluation requests have their own limits. -/
def productionOutboxDelivery : OutboxDelivery where
  registry := productionRegistry
  options := {}
  eventOptions := [((requestEvent, 1), { leaseSeconds := 3600, handlerTimeoutSeconds := 3520 })]
  overrides_registered := by decide

instance : Inhabited DeliveryOptions := ⟨{}⟩

/-- The event types that are replay-safe for the registry but not for the database. -/
abbrev unlistedReplaySafe (key : EventKey) : Prop :=
  key = (revisionContextBlockedEvent, 1) ∨ key = (revisionExhaustedEvent, 1)

theorem unlistedReplaySafe_iff {key : EventKey} :
    unlistedReplaySafe key ↔ productionRegistry.canRetryUnknown key.1 key.2 = true ∧
      unknownRetryRegistered key.1 key.2 = false := by
  constructor
  · rintro (rfl | rfl) <;> decide
  · rintro ⟨hsafe, hlist⟩
    have hmem : key ∈ productionRegistry.replaySafe := List.contains_iff_mem.mp hsafe
    simp only [productionRegistry, List.mem_cons, List.not_mem_nil, or_false] at hmem
    rcases hmem with rfl | rfl | rfl | rfl
    · exact absurd hlist (by decide)
    · exact absurd hlist (by decide)
    · exact .inl rfl
    · exact .inr rfl

/-- The outcome table asks for another attempt after an unknown effect exactly when a marker was
committed, the effect is unknown, and the handler may be repeated. -/
theorem unknownRetry_iff {claim : OutboxClaim} {options : DeliveryOptions} {retryUnknown : Bool}
    {invokedAt : Option Nat} {cause : FinalizationCause} {now : Nat} {o : Outcome}
    (hrow : OutcomeRow claim options retryUnknown invokedAt cause now o) :
    (o.invocationUnknown = true ∧ o.deliveryState = .retryable) ↔
      invokedAt ≠ none ∧ (claim.claimExpiresAt ≤ now ∨ cause = .unknown) ∧ retryUnknown = true ∧
        claim.claimGeneration < options.maxAttempts := by
  cases hrow with
  | unknownRetry hunknown hexp hsafe hgen =>
    simp [Outcome.again, hunknown, hsafe, hgen]
  | unknownFinal hunknown hexp hstop =>
    simpa [Outcome.final] using fun _ => hstop
  | acknowledged htime | rejected htime | retryExhausted htime =>
    simp [Outcome.final, Nat.not_le.mpr htime]
  | retryRequested htime => simp [Outcome.again, Nat.not_le.mpr htime]
  | leaseExpired => simp [Outcome.again]
  | leaseExhausted => simp [Outcome.final]

def sampleHash : String := "0000000000000000000000000000000000000000000000000000000000000000"

def sampleDigest : String := "sha256:" ++ sampleHash

def sampleClaim : OutboxClaim where
  eventId := "01900000-0000-7000-8000-000000000001"
  projectId := "01900000-0000-7000-8000-000000000002"
  payloadDigest := sampleDigest
  claimGeneration := 1
  claimOwner := "worker-1"
  claimedAt := 1000000
  claimExpiresAt := 301000000
  valid := by decide

def sampleFacts (eventType : String) : EventFacts where
  eventId := sampleClaim.eventId
  eventType := eventType
  eventVersion := 1
  aggregateType := "task"
  aggregateId := "01900000-0000-7000-8000-000000000003"
  projectId := sampleClaim.projectId
  correlationId := "correlation"
  causationEventId := none
  idempotencyKey := "key"
  payload := .obj []
  payloadDigest := sampleDigest
  occurredAt := 0
  notBeforeAt := none

def sampleAttempt : OutboxDeliveryAttempt :=
  { sampleClaim.toClaimFields with
    stage := .invoked
    invokedAt := some 2000000
    outcomeJson := none
    outcomeDigest := none
    claimDecisionEventId := "claim-decision"
    invokeDecisionEventId := some "invoke-decision"
    finalizeDecisionEventId := none }

def sampleRows (eventType : String) : Custody where
  event := ((claimWrite (appended (sampleFacts eventType)) sampleClaim "claim-decision").event).getD
    (appended (sampleFacts eventType))
  attempts := [sampleAttempt]

theorem sampleRows_finalizable (eventType : String) :
    Finalizable (sampleRows eventType) sampleClaim sampleAttempt where
  projected := by
    refine checkProjection_iff.mpr ⟨rfl, ?_, ?_, .inr ⟨sampleAttempt, rfl, rfl⟩⟩
    · intro x hx
      obtain rfl := List.mem_singleton.mp hx
      exact ⟨Nat.le_refl _, rfl, rfl, Nat.zero_le _, fun h => absurd h (Nat.lt_irrefl _)⟩
    · intro x hx
      obtain rfl := List.mem_singleton.mp hx
      intro h
      cases h
  unique := by simp [sampleRows]
  shown := rfl
  found := rfl
  claim_eq := rfl

def sampleOutcome : Outcome := .again .invokeOutcomeUnknown 405000000 400000000 true (some 2000000)

/-- An outcome of the production owner is admitted by the database, text and rows, exactly if it is
not another attempt after an unknown effect of an unlisted event type. -/
theorem production_outcome_admitted_iff (sha256 : String → String) {rows : Custody}
    {claim : OutboxClaim} {attempt : OutboxDeliveryAttempt} {cause : FinalizationCause} {now : Nat}
    {options : DeliveryOptions} {o : Outcome} (decisionId : Uuid)
    (hrows : Finalizable rows claim attempt)
    (hnow : claim.claimedAt ≤ now ∧ ∀ t, attempt.invokedAt = some t → t ≤ now)
    (houtcome : outcome claim attempt.invokedAt cause now options
      (productionRegistry.canRetryUnknown rows.event.eventType rows.event.eventVersion) = .ok o) :
    (outcomeValid sha256 (encode o) (digestOf sha256 (encode o)) claim.claimedAt claim.claimExpiresAt
        attempt.invokedAt = some true ∧
      checkProjection (rows.apply
        (finalizeWrite rows.event attempt (receiptOf sha256 claim o) o decisionId)) = true) ↔
      ¬(unlistedReplaySafe rows.event.key ∧ attempt.invokedAt ≠ none ∧
        (claim.claimExpiresAt ≤ now ∨ cause = .unknown) ∧
        claim.claimGeneration < options.maxAttempts) := by
  have hrow := outcome_eq_ok_iff.mp houtcome
  have hvalid := outcomeValid_encode sha256 hrow hnow.1 hnow.2
  have hsettled : o.deliveryState ≠ .claimed := by
    rcases hrow.deliveryState_cases with h | h | h <;> simp [h]
  have hretry := unknownRetry_iff hrow
  have hkey := @unlistedReplaySafe_iff rows.event.key
  rw [checkProjection_finalizeWrite hrows sha256 o hsettled decisionId, hkey]
  simp only [hvalid, true_and, OutboxEvent.key]
  constructor
  · rintro hlisted ⟨⟨hsafe, hunlisted⟩, hmark, hunknown, hgen⟩
    obtain ⟨hu, hs⟩ := hretry.mpr ⟨hmark, hunknown, hsafe, hgen⟩
    rw [hlisted hu hs] at hunlisted
    cases hunlisted
  · intro hnot hu hs
    obtain ⟨hmark, hunknown, hsafe, hgen⟩ := hretry.mp ⟨hu, hs⟩
    by_contra hunlisted
    rw [Bool.not_eq_true] at hunlisted
    exact hnot ⟨⟨hsafe, hunlisted⟩, hmark, hunknown, hgen⟩

theorem production_outcome_admitted_iff_expired :
    (outcomeValid (fun _ => "") (encode sampleOutcome) (digestOf (fun _ => "") (encode sampleOutcome))
        sampleClaim.claimedAt sampleClaim.claimExpiresAt sampleAttempt.invokedAt = some true ∧
      checkProjection ((sampleRows revisionExpiredEvent).apply
        (finalizeWrite (sampleRows revisionExpiredEvent).event sampleAttempt
          (receiptOf (fun _ => "") sampleClaim sampleOutcome) sampleOutcome "decision")) = true) ↔
      ¬(unlistedReplaySafe (sampleRows revisionExpiredEvent).event.key ∧
        sampleAttempt.invokedAt ≠ none ∧
        (sampleClaim.claimExpiresAt ≤ 400000000 ∨ FinalizationCause.expired = .unknown) ∧
        sampleClaim.claimGeneration < (default : DeliveryOptions).maxAttempts) :=
  production_outcome_admitted_iff (fun _ => "") "decision" (sampleRows_finalizable revisionExpiredEvent)
    ⟨by decide, by simp [sampleAttempt]⟩ rfl

/-- The recovery of an expired invocation of a context notice produces an outcome that the database
refuses. -/
theorem contextBlocked_outcome_refused :
    (revisionContextBlockedEvent, 1) ∈ productionRegistry.keys ∧
    outcome sampleClaim sampleAttempt.invokedAt .expired 400000000 default
      (productionRegistry.canRetryUnknown revisionContextBlockedEvent 1) = .ok sampleOutcome ∧
    checkProjection ((sampleRows revisionContextBlockedEvent).apply
      (finalizeWrite (sampleRows revisionContextBlockedEvent).event sampleAttempt
        (receiptOf (fun _ => "") sampleClaim sampleOutcome) sampleOutcome "decision")) = false := by
  refine ⟨by decide, rfl, ?_⟩
  rw [← Bool.not_eq_true, checkProjection_finalizeWrite (sampleRows_finalizable _) _ _ (by decide)]
  intro hlisted
  have hreg : unknownRetryRegistered revisionContextBlockedEvent 1 = true := hlisted rfl rfl
  exact absurd hreg (by decide)

end Workstream.Outbox
