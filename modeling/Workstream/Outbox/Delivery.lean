import Workstream.Outbox.Database

/-!
# The delivery owner

The statements of `OutboxDelivery` between two awaits on the database, as functions of the rows they
select and the clock readings they take.
-/

namespace Workstream.Outbox
open Foundation

/-- The delivery service with its registry and its options. -/
structure OutboxDelivery where
  registry : HandlerRegistry
  options : DeliveryOptions
  eventOptions : List (EventKey × DeliveryOptions)
  overrides_registered : ∀ p ∈ eventOptions, p.1 ∈ registry.keys

variable (sha256 : String → String) (d : OutboxDelivery) (claim : OutboxClaim)
  (event : Option OutboxEvent)

def OutboxDelivery.optionsFor (eventType : String) (eventVersion : Nat) : DeliveryOptions :=
  (d.eventOptions.lookup (eventType, eventVersion)).getD d.options

/-- The answer of the authority of a phase: its preparation fails, its consumption does not allow the
exact action, or it allows it with a decision. -/
inductive Authority where
  | refused
  | denied
  | allowed (decisionId : Uuid)

structure TxInput where
  lockedNow : Nat
  consumedNow : Nat
  authority : Authority

def OutboxEvent.due (event : OutboxEvent) (now : Nat) : Bool :=
  match event.nextAttemptAt with
  | some t => t ≤ now
  | none => false

def OutboxEvent.isOpen (event : OutboxEvent) : Bool :=
  event.deliveryState = .pending ∨ event.deliveryState = .retryable

/-- The unlocked read of `claim`: an eligible event leads to the claim of its next generation. -/
def claimRead (projectId : Uuid) (owner : String) (now : Nat) :
    Except DeliveryError (Option OutboxClaim) :=
  match event with
  | none => .ok none
  | some event =>
    let options := d.optionsFor event.eventType event.eventVersion
    if d.registry.get event.eventType event.eventVersion && event.isOpen && event.due now &&
        event.claimGeneration < options.maxAttempts then
      match OutboxClaim.validate {
          eventId := event.eventId
          projectId := projectId
          payloadDigest := event.payloadDigest
          claimGeneration := event.claimGeneration + 1
          claimOwner := owner
          claimedAt := now
          claimExpiresAt := DateTime.addSeconds now options.leaseSeconds } with
      | some claim => .ok (some claim)
      | none => .error .validationError
    else .ok none

def claimWrite (event : OutboxEvent) (claim : OutboxClaim) (decisionId : Uuid) : Write where
  event := some { event with
    deliveryState := .claimed
    attemptCount := claim.claimGeneration
    claimGeneration := claim.claimGeneration
    claimOwner := some claim.claimOwner
    claimedAt := some claim.claimedAt
    claimExpiresAt := some claim.claimExpiresAt
    lastAttemptAt := some claim.claimedAt
    nextAttemptAt := none }
  attempt := {
    claim.toClaimFields with
    stage := .claimed
    invokedAt := none
    outcomeJson := none
    outcomeDigest := none
    claimDecisionEventId := decisionId
    invokeDecisionEventId := none
    finalizeDecisionEventId := none }
  fresh := true

def claimTx (i : TxInput) : Except DeliveryError (Option Write) :=
  match i.authority with
  | .refused => .error unavailable
  | answer =>
    match event with
    | none => .ok none
    | some event =>
      if event.isOpen && (event.claimGeneration + 1 = claim.claimGeneration) &&
          (event.payloadDigest = claim.payloadDigest) && event.due i.lockedNow &&
          i.lockedNow < claim.claimExpiresAt then
        match answer with
        | .allowed decisionId =>
          if claim.claimExpiresAt ≤ i.consumedNow then .error unavailable
          else .ok (some (claimWrite event claim decisionId))
        | _ => .error unavailable
      else .ok none

def invokeWrite (attempt : OutboxDeliveryAttempt) (now : Nat) (decisionId : Uuid) : Write where
  event := none
  attempt := { attempt with
    stage := .invoked
    invokedAt := some now
    invokeDecisionEventId := some decisionId }
  fresh := false

def beginInvocation (attempt : Option OutboxDeliveryAttempt) (i : TxInput) :
    Except DeliveryError (Option (OutboxEventEnvelope × Write)) :=
  match i.authority with
  | .refused => .error unavailable
  | answer =>
    match event, attempt with
    | some event, some attempt =>
      if matchesEvent event claim && (claimFromAttempt attempt = some claim) &&
          (attempt.stage = .claimed) && (i.lockedNow < claim.claimExpiresAt) &&
          d.registry.get event.eventType event.eventVersion then
        if canonicalJsonHash sha256 event.payload = claim.payloadDigest then
          match answer with
          | .allowed decisionId =>
            if claim.claimExpiresAt ≤ i.consumedNow then .error unavailable
            else .ok (some (envelopeOf event claim, invokeWrite attempt i.consumedNow decisionId))
          | _ => .error unavailable
        else .error unavailable
      else .ok none
    | _, _ => .ok none

inductive HandlerResult where
  | outcome (o : HandlerOutcome)
  | otherValue
  | raised

/-- How the wait for a handler task ends: whether the task is done, whether the loop clock is still
before the deadline, whether the task was cancelled, and its result. -/
structure HandlerRun where
  done : Bool
  beforeDeadline : Bool
  cancelled : Bool
  result : HandlerResult

/-- The cause `invoke` finalizes with. Whatever is not an outcome in time is unknown. -/
def HandlerRun.cause (h : HandlerRun) : FinalizationCause :=
  if h.done && h.beforeDeadline && !h.cancelled then
    match h.result with
    | .outcome o => .ofOutcome o
    | _ => .unknown
  else .unknown

def HandlerRun.answeredRetry (h : HandlerRun) : Prop :=
  h.done = true ∧ h.beforeDeadline = true ∧ h.cancelled = false ∧ h.result = .outcome .retry

theorem HandlerRun.answeredRetry_of_cause {h : HandlerRun} (hcause : h.cause = .retry) :
    h.answeredRetry := by
  unfold HandlerRun.cause at hcause
  split at hcause
  case isFalse => cases hcause
  case isTrue hin =>
    simp only [Bool.and_eq_true, Bool.not_eq_true'] at hin
    refine ⟨hin.1.1, hin.1.2, hin.2, ?_⟩
    split at hcause
    case h_1 o ho => cases o <;> simp [FinalizationCause.ofOutcome] at hcause; exact ho
    case h_2 => cases hcause

/-- What `finalize` keeps from its unlocked read: the receipt it proposes, and the facts from which it
derives the outcome again if another finalization wins. -/
structure Proposal where
  receipt : DeliveryReceipt
  invokedAt : Option Nat
  options : DeliveryOptions
  retryUnknown : Bool
deriving DecidableEq

/-- The receipt with the text and digest of an outcome. -/
def receiptOf (o : Outcome) : DeliveryReceipt where
  claim := claim
  outcomeJson := encode o
  outcomeDigest := digestOf sha256 (encode o)

def storedReceipt (attempt : OutboxDeliveryAttempt) : Option DeliveryReceipt := do
  some ⟨claim, ← attempt.outcomeJson, ← attempt.outcomeDigest⟩

/-- The unlocked read of `finalize`. A completed attempt is proposed at its stored time again. -/
def finalizeRead (cause : FinalizationCause) (event : Option OutboxEvent)
    (attempt : Option OutboxDeliveryAttempt) (now : Nat) : Except DeliveryError Proposal :=
  match event, attempt with
  | some event, some attempt =>
    if claimFromAttempt attempt = some claim then
      let options := d.optionsFor event.eventType event.eventVersion
      let retryUnknown := d.registry.canRetryUnknown event.eventType event.eventVersion
      let time : Option Nat :=
        if attempt.stage = .completed then
          (attempt.outcomeJson.bind decode).map Outcome.receiptCompletedAt
        else some now
      match time with
      | none => .error .validationError
      | some now => do
        let value ← outcome claim attempt.invokedAt cause now options retryUnknown
        .ok ⟨receiptOf sha256 claim value, attempt.invokedAt, options, retryUnknown⟩
    else .error unavailable
  | _, _ => .error unavailable

inductive FinalizeResult where
  | raised (error : DeliveryError)
  | completedDuringFinalization (stored : DeliveryReceipt)
  | replayed (stored : DeliveryReceipt)
  | finalized (receipt : DeliveryReceipt) (w : Write)

/-- The event and attempt a committed finalization leaves: the event shows the values of the receipt and
is unclaimed. -/
def finalizeWrite (event : OutboxEvent) (attempt : OutboxDeliveryAttempt) (receipt : DeliveryReceipt)
    (value : Outcome) (decisionId : Uuid) : Write where
  event := some { event with
    deliveryState := value.deliveryState
    lastErrorCode := value.errorCode
    nextAttemptAt := value.nextAttemptAt
    finalizedAt := value.finalizedAt
    claimOwner := none
    claimedAt := none
    claimExpiresAt := none }
  attempt := { attempt with
    stage := .completed
    outcomeJson := some receipt.outcomeJson
    outcomeDigest := some receipt.outcomeDigest
    finalizeDecisionEventId := some decisionId }
  fresh := false

/-- Transaction `_finalize` on an attempt that is not completed. -/
def finalizeOpen (receipt : DeliveryReceipt) (cause : FinalizationCause) (event : OutboxEvent)
    (attempt : OutboxDeliveryAttempt) (i : TxInput) : FinalizeResult :=
  let claim := receipt.claim
  if event.claimGeneration = claim.claimGeneration ∧ matchesEvent event claim then
    match decode receipt.outcomeJson with
    | none => .raised .validationError
    | some value =>
      let completed := value.receiptCompletedAt
      match outcome claim attempt.invokedAt cause completed
          (d.optionsFor event.eventType event.eventVersion)
          (d.registry.canRetryUnknown event.eventType event.eventVersion) with
      | .error e => .raised e
      | .ok expected =>
        if i.lockedNow < completed ∨ encode expected ≠ receipt.outcomeJson ∨
            digestOf sha256 (encode expected) ≠ receipt.outcomeDigest ∨
            (completed < claim.claimExpiresAt ∧ claim.claimExpiresAt ≤ i.lockedNow) then
          .raised unavailable
        else
          match i.authority with
          | .allowed decisionId =>
            if completed < claim.claimExpiresAt ∧ claim.claimExpiresAt ≤ i.consumedNow then
              .raised unavailable
            else .finalized receipt (finalizeWrite event attempt receipt value decisionId)
          | _ => .raised unavailable
  else .raised unavailable

/-- Transaction `_finalize` on a completed attempt: the stored receipt is returned or thrown. -/
def finalizeReplay (receipt : DeliveryReceipt) (attempt : OutboxDeliveryAttempt) (i : TxInput) :
    FinalizeResult :=
  match storedReceipt receipt.claim attempt with
  | none => .raised .validationError
  | some stored =>
    if stored = receipt then
      match i.authority with
      | .allowed _ => .replayed stored
      | _ => .raised unavailable
    else .completedDuringFinalization stored

def finalizeTx (receipt : DeliveryReceipt) (cause : FinalizationCause) (event : Option OutboxEvent)
    (attempt : Option OutboxDeliveryAttempt) (i : TxInput) : FinalizeResult :=
  match i.authority with
  | .refused => .raised unavailable
  | _ =>
    match event, attempt with
    | some event, some attempt =>
      if claimFromAttempt attempt = some receipt.claim then
        if attempt.stage = .completed then finalizeReplay receipt attempt i
        else finalizeOpen sha256 d receipt cause event attempt i
      else .raised unavailable
    | _, _ => .raised unavailable

/-- What `finalize` does after another finalization won: it derives its own outcome at the stored time
from the facts of its unlocked read, and goes on only if that is the stored one. -/
def afterCompleted (proposal : Proposal) (cause : FinalizationCause) (stored : DeliveryReceipt) :
    Except DeliveryError DeliveryReceipt :=
  match decode stored.outcomeJson with
  | none => .error .validationError
  | some value => do
    let expected ← outcome proposal.receipt.claim proposal.invokedAt cause value.receiptCompletedAt
      proposal.options proposal.retryUnknown
    if encode expected = stored.outcomeJson then .ok stored else .error unavailable

/-- The unlocked read of `recover`: an expired claim is finalized as such. -/
def recoverRead (now : Nat) : Except DeliveryError (Option OutboxClaim) :=
  match event with
  | none => .ok none
  | some event =>
    match event.claimOwner, event.claimedAt, event.claimExpiresAt with
    | some owner, some claimedAt, some expires =>
      if event.deliveryState = .claimed ∧ expires ≤ now then
        match OutboxClaim.validate {
            eventId := event.eventId
            projectId := event.projectId
            payloadDigest := event.payloadDigest
            claimGeneration := event.claimGeneration
            claimOwner := owner
            claimedAt := claimedAt
            claimExpiresAt := expires } with
        | some claim => .ok (some claim)
        | none => .error .validationError
      else .ok none
    | _, _, _ => .ok none

/-- The payload of an envelope, if its text is the canonical text of an object with the digest of the
claim. -/
def envelopePayload (envelope : OutboxEventEnvelope) : Option Json :=
  match Json.loads envelope.payloadJson with
  | some (.obj fields) =>
    if Json.dumps (.obj fields) = envelope.payloadJson ∧
        canonicalJsonHash sha256 (.obj fields) = envelope.claim.payloadDigest then some (.obj fields)
    else none
  | _ => none

/-- The columns of the current event and of its attempt that `observe` compares. Two values of type
`jsonb` are equal if they have one canonical form. -/
def showsInvocation (e : OutboxEvent) (a : OutboxDeliveryAttempt) (envelope : OutboxEventEnvelope)
    (payload : Json) (now : Nat) : Bool :=
  let claim := envelope.claim
  (e.eventId = claim.eventId ∧ e.projectId = claim.projectId ∧ e.payloadDigest = claim.payloadDigest ∧
    e.eventType = envelope.eventType ∧ e.eventVersion = envelope.eventVersion ∧
    e.aggregateType = envelope.aggregateType ∧ e.aggregateId = envelope.aggregateId ∧
    e.correlationId = envelope.correlationId ∧ e.causationEventId = envelope.causationEventId ∧
    e.idempotencyKey = envelope.idempotencyKey ∧ e.occurredAt = envelope.occurredAt ∧
    e.payload.canon = payload.canon) &&
  (e.deliveryState = .claimed ∧ a.stage = .invoked ∧ a.outcomeJson = none ∧
    e.claimGeneration = claim.claimGeneration ∧ e.claimOwner = some claim.claimOwner ∧
    e.claimedAt = some claim.claimedAt ∧ e.claimExpiresAt = some claim.claimExpiresAt) &&
  (a.projectId = e.projectId ∧ a.payloadDigest = e.payloadDigest ∧ e.claimOwner = some a.claimOwner ∧
    e.claimedAt = some a.claimedAt ∧ e.claimExpiresAt = some a.claimExpiresAt ∧
    now < claim.claimExpiresAt)

/-- The comparison of an envelope with the rows in one statement at a time of the database. -/
def observe (rows : Custody) (envelope : OutboxEventEnvelope) (now : Nat) :
    Option CommittedInvocationObservation :=
  match envelopePayload sha256 envelope with
  | none => none
  | some payload =>
    match rows.attempts.find? fun a =>
        a.eventId = rows.event.eventId ∧ a.claimGeneration = rows.event.claimGeneration with
    | none => none
    | some a =>
      if showsInvocation rows.event a envelope payload now then some ⟨envelope.claim, now⟩ else none

/-- The result of `fence_invocation` from the rows its two locks found and its comparison. -/
def fenceInvocation (attempt : Option OutboxDeliveryAttempt)
    (observed : Option CommittedInvocationObservation) : Option CommittedInvocationObservation :=
  match event, attempt with
  | some _, some _ => observed
  | _, _ => none

end Workstream.Outbox
