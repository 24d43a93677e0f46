import Workstream.Foundation.CivilTime
import Workstream.Core

/-!
# Delivery values

The closed values of `outbox/api.py` and the handler registry.
-/

namespace Workstream.Outbox
open Foundation

/-- Type and version of an event. -/
abbrev EventKey := String × Nat

def isNameChar (c : Char) : Bool := c.isAlphanum || c == '.' || c == '_' || c == ':' || c == '-'

/-- Pattern `^[A-Za-z0-9._:-]{1,120}$` -/
def isOwner (text : String) : Bool :=
  1 ≤ text.toList.length ∧ text.toList.length ≤ 120 ∧ text.toList.all isNameChar

/-- Pattern `[A-Za-z][A-Za-z0-9._:-]{0,127}` -/
def isEventType (text : String) : Bool :=
  match text.toList with
  | [] => false
  | c :: rest => c.isAlpha ∧ rest.length ≤ 127 ∧ rest.all isNameChar

/-- How a delivery call ends without a value. -/
inductive DeliveryError where
  | deliveryUnavailable (message : String)
  | validationError
  | databaseRejected
  | connectionLost

def unavailable : DeliveryError := .deliveryUnavailable "outbox_delivery_unavailable"

@[ext] structure ClaimFields where
  eventId : Uuid
  projectId : Uuid
  payloadDigest : String
  claimGeneration : Nat
  claimOwner : String
  claimedAt : Nat
  claimExpiresAt : Nat
deriving DecidableEq

abbrev ClaimFields.Valid (f : ClaimFields) : Prop :=
  isDigest f.payloadDigest = true ∧ (1 ≤ f.claimGeneration ∧ f.claimGeneration ≤ 2147483647) ∧
    isOwner f.claimOwner = true ∧
    (f.claimedAt < f.claimExpiresAt ∧ f.claimExpiresAt ≤ DateTime.addSeconds f.claimedAt 3600)

/-- A claim whose fields passed its validator. -/
structure OutboxClaim extends ClaimFields where
  valid : toClaimFields.Valid
deriving DecidableEq

def OutboxClaim.validate (f : ClaimFields) : Option OutboxClaim :=
  if h : f.Valid then some ⟨f, h⟩ else none

theorem OutboxClaim.validate_eq_some {f : ClaimFields} {claim : OutboxClaim} :
    OutboxClaim.validate f = some claim ↔ claim.toClaimFields = f := by
  unfold OutboxClaim.validate
  constructor
  · intro h
    split at h
    · exact (Option.some.inj h) ▸ rfl
    · cases h
  · rintro rfl
    rw [dif_pos claim.valid]

theorem OutboxClaim.ext_fields {claim claim' : OutboxClaim}
    (h : claim.toClaimFields = claim'.toClaimFields) : claim = claim' := by
  cases claim
  cases claim'
  cases h
  rfl

inductive DeliveryState where
  | pending
  | claimed
  | retryable
  | acknowledged
  | deadLetter
  | cancelled
deriving DecidableEq

def DeliveryState.text : DeliveryState → String
  | .pending => "pending"
  | .claimed => "claimed"
  | .retryable => "retryable"
  | .acknowledged => "acknowledged"
  | .deadLetter => "dead_letter"
  | .cancelled => "cancelled"

def DeliveryState.all : List DeliveryState :=
  [.pending, .claimed, .retryable, .acknowledged, .deadLetter, .cancelled]

def DeliveryState.ofText (text : String) : Option DeliveryState :=
  DeliveryState.all.find? (fun state => state.text == text)

@[simp] theorem DeliveryState.ofText_text (state : DeliveryState) :
    DeliveryState.ofText state.text = some state := by
  cases state <;> decide

inductive ErrorCode where
  | handlerRejected
  | invokeOutcomeUnknown
  | attemptsExhausted
  | retryRequested
  | leaseExpiredBeforeInvoke
deriving DecidableEq

def ErrorCode.text : ErrorCode → String
  | .handlerRejected => "HANDLER_REJECTED"
  | .invokeOutcomeUnknown => "INVOKE_OUTCOME_UNKNOWN"
  | .attemptsExhausted => "ATTEMPTS_EXHAUSTED"
  | .retryRequested => "RETRY_REQUESTED"
  | .leaseExpiredBeforeInvoke => "LEASE_EXPIRED_BEFORE_INVOKE"

def ErrorCode.all : List ErrorCode :=
  [.handlerRejected, .invokeOutcomeUnknown, .attemptsExhausted, .retryRequested,
    .leaseExpiredBeforeInvoke]

def ErrorCode.ofText (text : String) : Option ErrorCode :=
  ErrorCode.all.find? (fun code => code.text == text)

@[simp] theorem ErrorCode.ofText_text (code : ErrorCode) : ErrorCode.ofText code.text = some code := by
  cases code <;> decide

inductive HandlerOutcome where
  | acknowledge
  | retry
  | reject

inductive FinalizationCause where
  | acknowledge
  | retry
  | reject
  | expired
  | unknown
deriving DecidableEq

/-- Conversion `FinalizationCause(result.value)`. -/
def FinalizationCause.ofOutcome : HandlerOutcome → FinalizationCause
  | .acknowledge => .acknowledge
  | .retry => .retry
  | .reject => .reject

/-- Lease, timeout, attempts and delays, each within its range. -/
structure DeliveryOptions where
  leaseSeconds : Nat := 300
  handlerTimeoutSeconds : Nat := 240
  maxAttempts : Nat := 5
  retryBaseSeconds : Nat := 5
  retryCapSeconds : Nat := 300
  lease_range : 1 ≤ leaseSeconds ∧ leaseSeconds ≤ 3600 := by decide
  timeout_range : 1 ≤ handlerTimeoutSeconds ∧ handlerTimeoutSeconds ≤ 3600 := by decide
  attempts_range : 1 ≤ maxAttempts ∧ maxAttempts ≤ 100 := by decide
  base_range : 1 ≤ retryBaseSeconds ∧ retryBaseSeconds ≤ 3600 := by decide
  cap_range : 1 ≤ retryCapSeconds ∧ retryCapSeconds ≤ 86400 := by decide
  ordered_limits : handlerTimeoutSeconds < leaseSeconds ∧ retryBaseSeconds ≤ retryCapSeconds := by decide
deriving DecidableEq

/-- The outcome of a claim as it is stored. -/
structure DeliveryReceipt where
  claim : OutboxClaim
  outcomeJson : String
  outcomeDigest : String
deriving DecidableEq

/-- The detached event and the canonical text of its payload, as a handler gets it. -/
structure OutboxEventEnvelope where
  claim : OutboxClaim
  eventType : String
  eventVersion : Nat
  aggregateType : String
  aggregateId : Uuid
  correlationId : String
  causationEventId : Option Uuid
  idempotencyKey : String
  occurredAt : Nat
  payloadJson : String
deriving DecidableEq

structure CommittedInvocationObservation where
  claim : OutboxClaim
  observedAt : Nat

structure HandlerRegistry where
  keys : List EventKey
  replaySafe : List EventKey
  wellFormed : ∀ key ∈ keys, isEventType key.1 = true ∧ 1 ≤ key.2 ∧ key.2 ≤ 32767
  distinct : keys.Nodup
  registered : ∀ key ∈ replaySafe, key ∈ keys

def HandlerRegistry.get (registry : HandlerRegistry) (eventType : String) (version : Nat) : Bool :=
  registry.keys.contains (eventType, version)

def HandlerRegistry.canRetryUnknown (registry : HandlerRegistry) (eventType : String) (version : Nat) :
    Bool :=
  registry.replaySafe.contains (eventType, version)

end Workstream.Outbox
