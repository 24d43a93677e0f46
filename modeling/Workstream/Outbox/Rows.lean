import Workstream.Outbox.Outcome
import Workstream.Foundation.Tables

/-!
# The rows of one event

Every statement of the delivery code selects rows by event identifier, so the delivery of an event reads
and writes one row of `outbox_events` and the rows of `outbox_delivery_attempts` that name it.
-/

namespace Workstream.Outbox
open Foundation

/-- The columns of an event that no update may change. -/
structure EventFacts where
  eventId : Uuid
  eventType : String
  eventVersion : Nat
  aggregateType : String
  aggregateId : Uuid
  projectId : Uuid
  correlationId : String
  causationEventId : Option Uuid
  idempotencyKey : String
  payload : Json
  payloadDigest : String
  occurredAt : Nat
  notBeforeAt : Option Nat
deriving DecidableEq

structure OutboxEvent extends EventFacts where
  deliveryState : DeliveryState
  attemptCount : Nat
  nextAttemptAt : Option Nat
  claimOwner : Option String
  claimGeneration : Nat
  claimedAt : Option Nat
  claimExpiresAt : Option Nat
  lastAttemptAt : Option Nat
  lastErrorCode : Option ErrorCode
  finalizedAt : Option Nat

def OutboxEvent.key (event : OutboxEvent) : EventKey := (event.eventType, event.eventVersion)

/-- The row an append leaves behind: the insert branch of `guard_outbox_event` overwrites all
delivery columns, and the first attempt waits for the event's not-before time. -/
def appended (facts : EventFacts) : OutboxEvent :=
  { facts with
    deliveryState := .pending
    attemptCount := 0
    nextAttemptAt := some (max facts.occurredAt (facts.notBeforeAt.getD facts.occurredAt))
    claimOwner := none
    claimGeneration := 0
    claimedAt := none
    claimExpiresAt := none
    lastAttemptAt := none
    lastErrorCode := none
    finalizedAt := none }

inductive Stage where
  | claimed
  | invoked
  | completed
deriving DecidableEq

structure OutboxDeliveryAttempt extends ClaimFields where
  stage : Stage
  invokedAt : Option Nat
  outcomeJson : Option String
  outcomeDigest : Option String
  claimDecisionEventId : Uuid
  invokeDecisionEventId : Option Uuid
  finalizeDecisionEventId : Option Uuid

def claimFromAttempt (attempt : OutboxDeliveryAttempt) : Option OutboxClaim :=
  OutboxClaim.validate attempt.toClaimFields

def matchesEvent (event : OutboxEvent) (claim : OutboxClaim) : Bool :=
  event.deliveryState = .claimed ∧ event.eventId = claim.eventId ∧
    event.projectId = claim.projectId ∧ event.payloadDigest = claim.payloadDigest ∧
    event.claimGeneration = claim.claimGeneration ∧ event.claimOwner = some claim.claimOwner ∧
    event.claimedAt = some claim.claimedAt ∧ event.claimExpiresAt = some claim.claimExpiresAt

/-- An event with its attempts. -/
structure Custody where
  event : OutboxEvent
  attempts : List OutboxDeliveryAttempt

namespace Custody

def findEvent (rows : Custody) (eventId projectId : Uuid) : Option OutboxEvent :=
  if rows.event.eventId = eventId ∧ rows.event.projectId = projectId then some rows.event else none

def isAttemptOf (claim : OutboxClaim) (attempt : OutboxDeliveryAttempt) : Bool :=
  attempt.eventId = claim.eventId ∧ attempt.claimGeneration = claim.claimGeneration ∧
    attempt.projectId = claim.projectId

def findAttempt (rows : Custody) (claim : OutboxClaim) : Option OutboxDeliveryAttempt :=
  rows.attempts.find? (isAttemptOf claim)

def attemptAt (rows : Custody) (generation : Nat) : Option OutboxDeliveryAttempt :=
  Table.find (fun attempt => attempt.claimGeneration) rows.attempts generation

end Custody

/-- What a transaction writes: the event if it changed, and one attempt, new or updated. -/
structure Write where
  event : Option OutboxEvent
  attempt : OutboxDeliveryAttempt
  fresh : Bool

/-- The rows after a write. Attempts are stored under event and generation. -/
def Custody.apply (rows : Custody) (w : Write) : Custody where
  event := w.event.getD rows.event
  attempts :=
    if w.fresh then rows.attempts ++ [w.attempt]
    else Table.replace (fun attempt => attempt.claimGeneration) rows.attempts w.attempt

/-- The envelope a handler gets for a claim. -/
def envelopeOf (event : OutboxEvent) (claim : OutboxClaim) : OutboxEventEnvelope where
  claim := claim
  eventType := event.eventType
  eventVersion := event.eventVersion
  aggregateType := event.aggregateType
  aggregateId := event.aggregateId
  correlationId := event.correlationId
  causationEventId := event.causationEventId
  idempotencyKey := event.idempotencyKey
  occurredAt := event.occurredAt
  payloadJson := Json.dumps event.payload

end Workstream.Outbox
