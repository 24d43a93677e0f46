import Workstream.Outbox.Rows
import Workstream.Foundation.Sql

/-!
# What the database admits

The `CHECK` constraints of the two delivery tables, their row triggers, and the deferred trigger that
compares an event with its attempts when a transaction commits, as migrations 0044 and 0046 leave them.
-/

namespace Workstream.Outbox
open Foundation

variable (sha256 : String → String)

def jsonType : Json → String
  | .null => "null"
  | .bool _ => "boolean"
  | .num _ => "number"
  | .str _ => "string"
  | .arr _ => "array"
  | .obj _ => "object"

/-- Operator `->>`: a scalar member as text, null if it is missing or null. -/
def textMember (value : Json) (key : String) : Option String :=
  match value.get? key with
  | some (.str text) => some text
  | some (.bool b) => some (if b then "true" else "false")
  | _ => none

def timeMember (value : Json) (key : String) : Option (Option Nat) :=
  match textMember value key with
  | some text => (DateTime.fromIsoformat text).map some
  | none => some none

def memberType (value : Json) (key : String) : Option String := (value.get? key).map jsonType

def receiptKeys : List String :=
  ["delivery_state", "error_code", "finalized_at", "invocation_unknown", "invoked_at",
    "next_attempt_at", "receipt_completed_at"]

def sortedKeys : Json → Option (List String)
  | .obj fields => some ((fields.map Prod.fst).insertionSort (· ≤ ·))
  | _ => none

def receiptShape (value : Json) (body digest : String) : Bool :=
  sortedKeys value == some receiptKeys &&
  body == Json.dumps value && digest == digestOf sha256 body &&
  memberType value "delivery_state" == some "string" &&
  memberType value "invocation_unknown" == some "boolean" &&
  memberType value "receipt_completed_at" == some "string" &&
  ["error_code", "finalized_at", "next_attempt_at", "invoked_at"].all fun key =>
    memberType value key == some "null" || memberType value key == some "string"

structure ReceiptValues where
  completed : Option Nat
  finalTime : Option Nat
  retryTime : Option Nat
  invokedText : Option Nat
  outcomeState : Option String
  code : Option String
  unknown : Option Bool

def receiptValues (value : Json) : Option ReceiptValues := do
  let completed ← timeMember value "receipt_completed_at"
  let finalTime ← timeMember value "finalized_at"
  let retryTime ← timeMember value "next_attempt_at"
  let invokedText ← timeMember value "invoked_at"
  some {
    completed, finalTime, retryTime, invokedText
    outcomeState := textMember value "delivery_state"
    code := textMember value "error_code"
    unknown := (textMember value "invocation_unknown").map (· == "true") }

/-- The remaining conditions of `outbox_delivery_outcome_valid`, in the order of its statements.
Unknown conditions do not act; an unknown result is returned as such. -/
def receiptDecision (v : ReceiptValues) (claimed expires : Nat) (invoked : Option Nat) :
    Sql.Truth :=
  let isText (column : Option String) (text : String) := Sql.eq column (some text)
  if Sql.holds (Sql.or (Sql.or (Sql.lt v.completed (some claimed))
      (Sql.and (Sql.isNotNull invoked) (Sql.lt v.completed invoked)))
      (Sql.distinct v.invokedText invoked)) then some false
  else if Sql.holds (Sql.and (Sql.isNull invoked) (Sql.or (Sql.lt v.completed (some expires))
      (Sql.notIn v.code ["LEASE_EXPIRED_BEFORE_INVOKE", "ATTEMPTS_EXHAUSTED"]))) then some false
  else if Sql.holds (Sql.and (Sql.and (Sql.isNotNull invoked) (Sql.not v.unknown))
      (Sql.le (some expires) v.completed)) then some false
  else if Sql.holds (Sql.lt (v.completed.map (DateTime.addSeconds · 86400)) v.retryTime) then some false
  else if Sql.holds v.unknown then
    Sql.and (Sql.and (Sql.isNotNull invoked) (isText v.code "INVOKE_OUTCOME_UNKNOWN"))
      (Sql.or
        (Sql.and (Sql.and (isText v.outcomeState "dead_letter") (Sql.isNull v.retryTime))
          (Sql.eq v.finalTime v.completed))
        (Sql.and (Sql.and (isText v.outcomeState "retryable") (Sql.lt v.completed v.retryTime))
          (Sql.isNull v.finalTime)))
  else if Sql.holds (isText v.outcomeState "acknowledged") then
    Sql.and (Sql.and (Sql.and (Sql.isNotNull invoked) (Sql.isNull v.code)) (Sql.isNull v.retryTime))
      (Sql.eq v.finalTime v.completed)
  else if Sql.holds (isText v.outcomeState "retryable") then
    Sql.and (Sql.and (Sql.isNull v.finalTime) (Sql.lt v.completed v.retryTime))
      (Sql.or (Sql.and (Sql.isNull invoked) (isText v.code "LEASE_EXPIRED_BEFORE_INVOKE"))
        (Sql.and (Sql.isNotNull invoked) (isText v.code "RETRY_REQUESTED")))
  else if Sql.holds (isText v.outcomeState "dead_letter") then
    Sql.and (Sql.and (Sql.isNull v.retryTime) (Sql.eq v.finalTime v.completed))
      (Sql.or (isText v.code "ATTEMPTS_EXHAUSTED")
        (Sql.and (Sql.isNotNull invoked) (isText v.code "HANDLER_REJECTED")))
  else some false

/-- Function `outbox_delivery_outcome_valid`; every exception makes it false. -/
def outcomeValid (body digest : String) (claimed expires : Nat) (invoked : Option Nat) :
    Sql.Truth :=
  match Json.loads body with
  | none => some false
  | some value =>
    if receiptShape sha256 value body digest then
      match receiptValues value with
      | none => some false
      | some v => receiptDecision v claimed expires invoked
    else some false

variable (a : OutboxDeliveryAttempt)

def stageShape : Bool :=
  match a.stage with
  | .claimed => a.invokedAt.isNone && a.outcomeJson.isNone && a.outcomeDigest.isNone
  | .invoked =>
    (match a.invokedAt with
      | some t => a.claimedAt ≤ t ∧ t < a.claimExpiresAt
      | none => false) && a.outcomeJson.isNone && a.outcomeDigest.isNone
  | .completed =>
    a.outcomeJson.isSome && a.outcomeDigest.isSome &&
      match a.invokedAt with
      | some t => a.claimedAt ≤ t ∧ t < a.claimExpiresAt
      | none => true

def phaseDecisions : Bool :=
  match a.stage with
  | .claimed => a.invokeDecisionEventId.isNone && a.finalizeDecisionEventId.isNone
  | .invoked => a.invokeDecisionEventId.isSome && a.finalizeDecisionEventId.isNone
  | .completed =>
    a.finalizeDecisionEventId.isSome && (a.invokedAt.isSome == a.invokeDecisionEventId.isSome)

def outcomeCheck : Bool :=
  match a.outcomeJson with
  | none => true
  | some body =>
    match a.outcomeDigest with
    | none => false
    | some digest =>
      Sql.holds (outcomeValid sha256 body digest a.claimedAt a.claimExpiresAt a.invokedAt)

def attemptChecks : Bool :=
  (1 ≤ a.claimGeneration ∧ a.claimGeneration ≤ 2147483647) &&
  (a.claimedAt < a.claimExpiresAt ∧ a.claimExpiresAt ≤ DateTime.addSeconds a.claimedAt 3600) &&
  isOwner a.claimOwner && isDigest a.payloadDigest && stageShape a && phaseDecisions a &&
  outcomeCheck sha256 a

def receiptCompleted : Option (Option Nat) :=
  match a.outcomeJson with
  | none => some none
  | some body => do timeMember (← Json.loads body) "receipt_completed_at"

/-- Trigger `guard_outbox_delivery_attempt`, for an insert or an update of an existing row. -/
def guardAttempt (old : Option OutboxDeliveryAttempt) (new : OutboxDeliveryAttempt) (clock : Nat) :
    Bool :=
  (match old with
    | none => new.stage = .claimed ∧ new.claimedAt ≤ clock ∧ clock < new.claimExpiresAt
    | some old =>
      new.toClaimFields = old.toClaimFields ∧
        ((old.stage = .claimed ∧ (new.stage = .invoked ∨ new.stage = .completed)) ∨
          (old.stage = .invoked ∧ new.stage = .completed)) ∧
        ¬(old.stage = .claimed ∧ new.stage = .completed ∧ new.invokedAt.isSome) ∧
        ¬(old.stage = .invoked ∧ new.invokedAt ≠ old.invokedAt)) &&
  !(new.stage = .invoked && Sql.holds (Sql.or (Sql.lt (some clock) new.invokedAt)
      (some (decide (new.claimExpiresAt ≤ clock))))) &&
  !(new.stage = .completed && match receiptCompleted new with
    | none => true
    | some completed => Sql.holds (Sql.lt (some clock) completed))

def deliveryStateShape (e : OutboxEvent) : Bool :=
  let unclaimed := e.claimOwner.isNone && e.claimedAt.isNone && e.claimExpiresAt.isNone
  match e.deliveryState with
  | .pending =>
    e.attemptCount = 0 && e.nextAttemptAt.isSome && unclaimed && e.lastAttemptAt.isNone &&
      e.lastErrorCode.isNone && e.finalizedAt.isNone
  | .claimed =>
    0 < e.attemptCount && e.nextAttemptAt.isNone && e.claimOwner.isSome && e.claimedAt.isSome &&
      e.claimExpiresAt.isSome && Sql.holds (Sql.eq e.lastAttemptAt e.claimedAt) && e.finalizedAt.isNone
  | .retryable =>
    0 < e.attemptCount && e.nextAttemptAt.isSome && unclaimed && e.lastAttemptAt.isSome &&
      e.lastErrorCode.isSome && e.finalizedAt.isNone
  | .acknowledged =>
    0 < e.attemptCount && e.nextAttemptAt.isNone && unclaimed && e.lastAttemptAt.isSome &&
      e.finalizedAt.isSome
  | .deadLetter =>
    0 < e.attemptCount && e.nextAttemptAt.isNone && unclaimed && e.lastAttemptAt.isSome &&
      e.lastErrorCode.isSome && e.finalizedAt.isSome
  | .cancelled =>
    e.nextAttemptAt.isNone && unclaimed && e.finalizedAt.isSome && e.attemptCount = 0 &&
      e.lastAttemptAt.isNone && e.lastErrorCode.isNone

/-- The `CHECK` constraints of the events table on columns that a delivery writes. -/
def eventChecks (e : OutboxEvent) : Bool :=
  let notBefore (t : Option Nat) (bound : Nat) := Sql.passes (Sql.le (some bound) t)
  (e.attemptCount = e.claimGeneration) && e.claimOwner.all isOwner && deliveryStateShape e &&
  notBefore e.nextAttemptAt e.occurredAt && notBefore e.claimedAt e.occurredAt &&
  notBefore e.lastAttemptAt e.occurredAt && Sql.passes (Sql.lt e.claimedAt e.claimExpiresAt) &&
  notBefore e.finalizedAt e.occurredAt && Sql.passes (Sql.le e.lastAttemptAt e.finalizedAt) &&
  match e.notBeforeAt with
  | none => true
  | some bound => notBefore e.nextAttemptAt bound && notBefore e.claimedAt bound

/-- Trigger `guard_outbox_event` for an update of a row that is not archived. -/
def guardEvent (old new : OutboxEvent) : Bool :=
  (new.toEventFacts = old.toEventFacts) &&
  (old.attemptCount ≤ new.attemptCount ∧ old.claimGeneration ≤ new.claimGeneration ∧
    new.attemptCount = new.claimGeneration) &&
  let sameAttempt : Bool := new.attemptCount = old.attemptCount ∧
    new.claimGeneration = old.claimGeneration ∧ new.lastAttemptAt = old.lastAttemptAt
  match old.deliveryState, new.deliveryState with
  | .pending, .claimed | .retryable, .claimed =>
    new.attemptCount = old.attemptCount + 1 ∧ new.claimGeneration = old.claimGeneration + 1 ∧
      new.lastErrorCode = old.lastErrorCode
  | .claimed, .retryable | .claimed, .acknowledged | .claimed, .deadLetter | .claimed, .cancelled =>
    sameAttempt
  | .deadLetter, .retryable | .pending, .cancelled | .retryable, .cancelled =>
    sameAttempt && (new.lastErrorCode = old.lastErrorCode)
  | .pending, .pending | .retryable, .retryable =>
    sameAttempt && (new.claimOwner = old.claimOwner ∧ new.claimedAt = old.claimedAt ∧
      new.claimExpiresAt = old.claimExpiresAt ∧ new.lastErrorCode = old.lastErrorCode ∧
      new.finalizedAt = old.finalizedAt)
  | _, _ => false

/-- The pairs for which migration 0046 admits another attempt after an unknown effect. -/
def unknownRetryRegistered (eventType : String) (eventVersion : Nat) : Bool :=
  ["TaskRevisionExpiryRequested", "TaskRevisionExpired"].contains eventType && eventVersion = 1

def isUnknownRetry : Bool :=
  match a.outcomeJson with
  | none => false
  | some body =>
    match Json.loads body with
    | none => false
    | some value =>
      textMember value "invocation_unknown" = some "true" ∧
        textMember value "delivery_state" = some "retryable"

def projectsReceipt (e : OutboxEvent) (a : OutboxDeliveryAttempt) : Bool :=
  match a.outcomeJson.bind Json.loads with
  | none => false
  | some receipt =>
    a.stage = .completed ∧ e.lastAttemptAt = some a.claimedAt ∧
      some e.deliveryState.text = textMember receipt "delivery_state" ∧
      e.lastErrorCode.map ErrorCode.text = textMember receipt "error_code" ∧
      some e.nextAttemptAt = timeMember receipt "next_attempt_at" ∧
      some e.finalizedAt = timeMember receipt "finalized_at"

def projectsClaim (e : OutboxEvent) (a : OutboxDeliveryAttempt) : Bool :=
  (a.stage = .claimed ∨ a.stage = .invoked) ∧ e.claimOwner = some a.claimOwner ∧
    e.claimedAt = some a.claimedAt ∧ e.claimExpiresAt = some a.claimExpiresAt ∧
    e.lastAttemptAt = some a.claimedAt

def projects (e : OutboxEvent) (a : OutboxDeliveryAttempt) : Bool :=
  if e.deliveryState = .claimed then projectsClaim e a else projectsReceipt e a

/-- Trigger `check_outbox_delivery_projection` over the rows a transaction leaves. -/
def checkProjection (rows : Custody) : Bool :=
  let e := rows.event
  (rows.attempts.length = e.claimGeneration) &&
  (rows.attempts.all fun x =>
    x.claimGeneration ≤ e.claimGeneration ∧ x.projectId = e.projectId ∧
      x.payloadDigest = e.payloadDigest ∧ e.occurredAt ≤ x.claimedAt ∧
      (x.claimGeneration < e.claimGeneration → x.stage = .completed)) &&
  (rows.attempts.all fun x =>
    !(isUnknownRetry x && !unknownRetryRegistered e.eventType e.eventVersion)) &&
  (e.claimGeneration = 0 || (rows.attemptAt e.claimGeneration).any (projects e))

def accepts (rows : Custody) (w : Write) (clock : Nat) : Bool :=
  (match w.event with
    | none => true
    | some e => guardEvent rows.event e && eventChecks e) &&
  (if w.fresh then (rows.attemptAt w.attempt.claimGeneration).isNone && guardAttempt none w.attempt clock
    else match rows.attemptAt w.attempt.claimGeneration with
      | none => false
      | some old => guardAttempt (some old) w.attempt clock) &&
  attemptChecks sha256 w.attempt && checkProjection (rows.apply w)

end Workstream.Outbox
