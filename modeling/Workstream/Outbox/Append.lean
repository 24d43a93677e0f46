import Workstream.Outbox.Rows
import Workstream.Foundation.Runs

/-!
# Appending to the outbox

`OutboxService.append` runs in a transaction that its caller commits or rolls back. The insert waits for
a transaction that has inserted the same idempotency key and not ended; then it either inserts its row,
which others see when the transaction commits, or does nothing because a committed row has the key.
-/

namespace Workstream.Outbox.Appends
open Foundation

/-- The facts of `OutboxAppendInput`; the keys of a `dict` are distinct. -/
structure OutboxAppendInput where
  eventType : String
  eventVersion : ℕ
  aggregateType : String
  aggregateId : Uuid
  projectId : Uuid
  correlationId : String
  causationEventId : Option Uuid
  idempotencyKey : String
  payload : Json
  notBeforeAt : Option ℕ
  distinct : payload.DistinctKeys

/-- Pattern `^[a-z][a-z0-9_]{0,63}$` -/
def isAggregateType (text : String) : Bool :=
  match text.toList with
  | [] => false
  | c :: rest => c.isLower ∧ rest.length ≤ 63 ∧ rest.all fun d => d.isLower || d.isDigit || d == '_'

/-- Pattern `^[A-Za-z0-9._:-]{1,200}$` -/
def isReference (text : String) : Bool :=
  1 ≤ text.toList.length ∧ text.toList.length ≤ 200 ∧ text.toList.all isNameChar

/-- The checks of the model; those on the payload are left open. -/
def OutboxAppendInput.valid (payloadValid : Json → Bool) (value : OutboxAppendInput) : Bool :=
  isEventType value.eventType && 1 ≤ value.eventVersion && value.eventVersion ≤ 32767 &&
    isAggregateType value.aggregateType && isReference value.correlationId &&
    isReference value.idempotencyKey && payloadValid value.payload

mutual
/-- In Python `True == 1` and `False == 0`. -/
def numeric : Json → Json
  | .bool b => .num (if b then 1 else 0)
  | .arr items => .arr (numericItems items)
  | .obj fields => .obj (numericFields fields)
  | v => v

def numericItems : List Json → List Json
  | [] => []
  | v :: vs => numeric v :: numericItems vs

def numericFields : List (String × Json) → List (String × Json)
  | [] => []
  | (k, v) :: rest => (k, numeric v) :: numericFields rest
end

/-- `==` of decoded JSON; the order of a `dict` does not matter. -/
def pyEq (v w : Json) : Bool := (numeric v).canon = (numeric w).canon

/-- `_matches`; the column `producer` is always "workstream". -/
def isMatch (record : OutboxEvent) (value : OutboxAppendInput) (digest : String) : Bool :=
  record.eventType = value.eventType && record.eventVersion = value.eventVersion &&
    record.aggregateType = value.aggregateType && record.aggregateId = value.aggregateId &&
    record.projectId = value.projectId && record.correlationId = value.correlationId &&
    record.causationEventId = value.causationEventId &&
    record.idempotencyKey = value.idempotencyKey && record.payloadDigest = digest &&
    pyEq record.payload value.payload && record.notBeforeAt = value.notBeforeAt

inductive AppendError where
  | input (message : String)
  | persistence (message : String)
  | conflict (message : String)
  | runtime (message : String)

def invalidInput : AppendError := .input "outbox_invalid_input"

def persistenceFailed : AppendError := .persistence "outbox_persistence_failed"

def idempotencyConflict : AppendError := .conflict "outbox_idempotency_conflict"

def notVisible : AppendError := .runtime "outbox_reservation_not_visible"

inductive AppendDisposition where
  | created
  | replayed
deriving DecidableEq

structure AppendResult where
  eventId : Uuid
  disposition : AppendDisposition
  payloadDigest : String
  occurredAt : ℕ

section Append

variable (sha256 : String → String) (payloadValid : Json → Bool)

def newEvent (value : OutboxAppendInput) (eventId : Uuid) (now : ℕ) : OutboxEvent :=
  appended
    { eventId
      eventType := value.eventType
      eventVersion := value.eventVersion
      aggregateType := value.aggregateType
      aggregateId := value.aggregateId
      projectId := value.projectId
      correlationId := value.correlationId
      causationEventId := value.causationEventId
      idempotencyKey := value.idempotencyKey
      payload := value.payload
      payloadDigest := canonicalJsonHash sha256 value.payload
      occurredAt := now
      notBeforeAt := value.notBeforeAt }

def concludes (value : OutboxAppendInput) (created : Bool) (records : List OutboxEvent) :
    Except AppendError AppendResult :=
  match records with
  | [] => .error notVisible
  | [record] =>
    if isMatch record value (canonicalJsonHash sha256 value.payload) then
      .ok
        { eventId := record.eventId
          disposition := if created then .created else .replayed
          payloadDigest := record.payloadDigest
          occurredAt := record.occurredAt }
    else .error idempotencyConflict
  | _ => .error idempotencyConflict

/-- Where a transaction is, with the row it has inserted and what its call returned. -/
inductive Phase where
  | begun
  | inserted (own : Option OutboxEvent)
  | returned (outcome : Except AppendError AppendResult) (own : Option OutboxEvent)
  | committed (outcome : Except AppendError AppendResult)
  | rolledBack (outcome : Option (Except AppendError AppendResult))

def Phase.own : Phase → Option OutboxEvent
  | .inserted own | .returned _ own => own
  | _ => none

def Phase.outcome : Phase → Option (Except AppendError AppendResult)
  | .returned outcome _ | .committed outcome => some outcome
  | .rolledBack outcome => outcome
  | _ => none

/-- An append, with its input and how far it has come. -/
structure Transaction where
  input : OutboxAppendInput
  phase : Phase

/-- The committed rows and the transactions. -/
structure Database where
  rows : List OutboxEvent
  transactions : List Transaction

def Database.pending (db : Database) : List OutboxEvent :=
  db.transactions.filterMap (·.phase.own)

/-- The statements of append transactions, and the deliveries. -/
inductive Action where
  | begin (value : OutboxAppendInput)
  /-- The insert, with the identifier that was minted; the database may refuse it. -/
  | insert (t : ℕ) (eventId : Uuid) (now : ℕ) (accepted : Bool)
  /-- The second statement; it may fail. -/
  | read (t : ℕ) (answered : Bool)
  | commit (t : ℕ)
  | rollback (t : ℕ)
  /-- A delivery changes a committed row but not the event's facts. -/
  | deliver (event : OutboxEvent)

def Database.move (db : Database) (t : ℕ) (input : OutboxAppendInput) (phase : Phase) : Database :=
  { db with transactions := db.transactions.set t ⟨input, phase⟩ }

/-- `INSERT … ON CONFLICT (idempotency_key) DO NOTHING`, when no other transaction holds the key. -/
def Database.insert (db : Database) (value : OutboxAppendInput) (eventId : Uuid) (now : ℕ)
    (accepted : Bool) : Phase :=
  if ¬accepted then .returned (.error persistenceFailed) none
  else if db.rows.any (·.idempotencyKey = value.idempotencyKey) then .inserted none
  else if (db.rows ++ db.pending).any (·.eventId = eventId) then
    .returned (.error persistenceFailed) none
  else .inserted (some (newEvent sha256 value eventId now))

/-- `SELECT … WHERE idempotency_key = …`, and the end of the call. After a failed statement the
transaction has lost what it inserted. -/
def Database.read (db : Database) (value : OutboxAppendInput) (own : Option OutboxEvent)
    (answered : Bool) : Phase :=
  if answered then
    .returned (concludes sha256 value own.isSome
      (db.rows.filter (·.idempotencyKey = value.idempotencyKey) ++ own.toList)) own
  else .returned (.error persistenceFailed) none

/-- One step of the database; a step that is not possible or has to wait does nothing. -/
def Database.act (db : Database) : Action → Database
  | .begin value =>
    let phase : Phase :=
      if value.valid payloadValid then .begun else .returned (.error invalidInput) none
    { db with transactions := db.transactions ++ [⟨value, phase⟩] }
  | .insert t eventId now accepted =>
    match db.transactions[t]? with
    | some ⟨value, .begun⟩ =>
      if db.pending.any (·.idempotencyKey = value.idempotencyKey) then db
      else db.move t value (db.insert sha256 value eventId now accepted)
    | _ => db
  | .read t answered =>
    match db.transactions[t]? with
    | some ⟨value, .inserted own⟩ => db.move t value (db.read sha256 value own answered)
    | _ => db
  | .commit t =>
    match db.transactions[t]? with
    | some ⟨value, .returned outcome own⟩ =>
      { db.move t value (.committed outcome) with rows := db.rows ++ own.toList }
    | _ => db
  | .rollback t =>
    match db.transactions[t]? with
    | some ⟨_, .committed _⟩ => db
    | some ⟨value, phase⟩ => db.move t value (.rolledBack phase.outcome)
    | none => db
  | .deliver event =>
    { db with rows := db.rows.map fun row =>
        if row.toEventFacts = event.toEventFacts then event else row }

/-- The table before the first append. -/
def Database.empty : Database := ⟨[], []⟩

end Append

end Workstream.Outbox.Appends
