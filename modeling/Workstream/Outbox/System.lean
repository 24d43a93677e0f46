import Workstream.Outbox.Delivery
import Workstream.Foundation.Runs

/-!
# Workers on one event

Any number of workers call `claim`, `invoke`, `finalize` and `recover` on the rows of one event. Each
unlocked read and each locked transaction is one action, so a run is an arbitrary interleaving of
them; row locks make a transaction atomic. `deliver` is the sequence recover, claim, invoke of one
worker. A worker can crash before each of its actions, and a transaction can fail to commit. Handlers
commit effects of their own in transactions that `fence_invocation` guards.

The clock of the state is the time of the last commit on the rows. A reading of the database clock
is not before the last commit the reader can see, nor before the reader's own last reading, and
otherwise arbitrary: this is what a nondecreasing clock gives, whatever the order in which concurrent
transactions take their readings.
-/

namespace Workstream.Outbox
open Foundation

/-- Where a worker stands in its call, with its last reading of the clock. -/
inductive Task where
  | idle
  | claiming (claim : OutboxClaim) (readAt : Nat)
  | running (claim : OutboxClaim) (envelope : OutboxEventEnvelope) (readAt : Nat)
  | finalizing (claim : OutboxClaim) (cause : FinalizationCause) (readAt : Nat)
  | proposing (cause : FinalizationCause) (proposal : Proposal) (readAt : Nat)
  | replaying (cause : FinalizationCause) (proposal : Proposal) (stored : DeliveryReceipt)
      (readAt : Nat)
deriving DecidableEq

/-- What happened, for statements about whole runs. The delivery code reads none of it. -/
inductive Entry where
  | claimed (worker : Nat) (claim : OutboxClaim)
  | invoked (worker : Nat) (claim : OutboxClaim)
  | handlerEnded (worker : Nat) (claim : OutboxClaim) (h : HandlerRun)
  | finalizeCalled (worker : Nat) (claim : OutboxClaim) (cause : FinalizationCause)
  | finalized (worker : Nat) (receipt : DeliveryReceipt) (cause : FinalizationCause)
  | returned (worker : Nat) (claim : OutboxClaim) (cause : FinalizationCause)
      (receipt : DeliveryReceipt)
  | raised (worker : Nat) (claim : OutboxClaim) (cause : FinalizationCause) (error : DeliveryError)
  | crashed (worker : Nat)
  | effect (envelope : OutboxEventEnvelope) (observation : CommittedInvocationObservation)

/-- The rows, when they were last written, what each worker does, and a log. -/
structure State where
  rows : Custody
  clock : Nat
  tasks : Nat → Task
  log : List Entry

/-- What the environment chooses for a locked transaction: the time it waits for the locks, for its
authority and for the commit, the authority's answer, and whether the commit goes through. -/
structure TxChoice where
  wait : Nat := 0
  consume : Nat := 0
  commit : Nat := 0
  authority : Authority
  survives : Bool := true

/-- The reads, transactions and handler runs of the workers. -/
inductive Action where
  | claim (worker : Nat) (eventId projectId : Uuid) (owner : String) (delay : Nat)
  | claimTx (worker : Nat) (choice : TxChoice)
  | invoke (worker : Nat) (claim : OutboxClaim) (choice : TxChoice)
  | handlerEnds (worker : Nat) (h : HandlerRun)
  | finalize (worker : Nat) (claim : OutboxClaim) (cause : FinalizationCause)
  | finalizeRead (worker : Nat) (delay : Nat)
  | finalizeTx (worker : Nat) (choice : TxChoice)
  | recover (worker : Nat) (eventId projectId : Uuid) (delay : Nat)
  | crash (worker : Nat)
  | effect (envelope : OutboxEventEnvelope) (delay : Nat) (survives : Bool)

namespace State

def setTask (s : State) (worker : Nat) (task : Task) : State :=
  { s with tasks := Function.update s.tasks worker task }

def record (s : State) (entries : List Entry) : State := { s with log := s.log ++ entries }

def commit (s : State) (w : Write) (committedAt : Nat) : State :=
  { s with rows := s.rows.apply w, clock := committedAt }

def input (s : State) (readAt : Nat) (choice : TxChoice) : TxInput where
  lockedNow := max s.clock readAt + choice.wait
  consumedNow := max s.clock readAt + choice.wait + choice.consume
  authority := choice.authority

def committedAt (s : State) (readAt : Nat) (choice : TxChoice) : Nat :=
  max s.clock readAt + choice.wait + choice.consume + choice.commit

end State

/-- An appended event that nobody has touched. -/
def start (facts : EventFacts) : State where
  rows := ⟨appended facts, []⟩
  clock := facts.occurredAt
  tasks := fun _ => .idle
  log := []

section Step

variable (sha256 : String → String) (d : OutboxDelivery)

namespace State

def admits (s : State) (w : Write) (committedAt : Nat) (survives : Bool) : Bool :=
  survives && accepts sha256 s.rows w committedAt

def endClaim (s : State) (worker : Nat) (claim : OutboxClaim) (found : Option OutboxEvent) (i : TxInput)
    (committedAt : Nat) (survives : Bool) : State :=
  match claimTx claim found i with
  | .ok (some w) =>
    if s.admits sha256 w committedAt survives then
      ((s.commit w committedAt).setTask worker .idle).record [.claimed worker claim]
    else s.setTask worker .idle
  | _ => s.setTask worker .idle

def endInvoke (s : State) (worker : Nat) (claim : OutboxClaim) (found : Option OutboxEvent)
    (attempt : Option OutboxDeliveryAttempt) (i : TxInput) (committedAt : Nat) (survives : Bool) : State :=
  match beginInvocation sha256 d claim found attempt i with
  | .ok (some (envelope, w)) =>
    if s.admits sha256 w committedAt survives then
      ((s.commit w committedAt).setTask worker (.running claim envelope i.consumedNow)).record
        [.invoked worker claim]
    else s
  | _ => s

/-- The end of a `_finalize` transaction that found the given rows. Its receipt comes from the unlocked
read the first time, and from the row after a lost race. -/
def endFinalize (s : State) (worker : Nat) (cause : FinalizationCause) (proposal : Proposal)
    (receipt : DeliveryReceipt) (first : Bool) (found : Option OutboxEvent)
    (attempt : Option OutboxDeliveryAttempt) (i : TxInput) (committedAt : Nat) (survives : Bool) : State :=
  let claim := receipt.claim
  let fail (e : DeliveryError) := (s.setTask worker .idle).record [.raised worker claim cause e]
  match finalizeTx sha256 d receipt cause found attempt i with
  | .raised e => fail e
  | .completedDuringFinalization stored =>
    -- The second `_finalize` is not protected again: its exception reaches the caller.
    if first then
      match afterCompleted proposal cause stored with
      | .ok stored => s.setTask worker (.replaying cause proposal stored i.lockedNow)
      | .error e => fail e
    else fail unavailable
  | .replayed stored => (s.setTask worker .idle).record [.returned worker claim cause stored]
  | .finalized receipt w =>
    if s.admits sha256 w committedAt survives then
      ((s.commit w committedAt).setTask worker .idle).record
        [.finalized worker receipt cause, .returned worker claim cause receipt]
    else fail .databaseRejected

def endEffect (s : State) (envelope : OutboxEventEnvelope)
    (fence : Option CommittedInvocationObservation) (survives : Bool) : State :=
  match fence with
  | some observation => if survives then s.record [.effect envelope observation] else s
  | none => s

def stepFinalize (s : State) (worker : Nat) (cause : FinalizationCause) (proposal : Proposal)
    (receipt : DeliveryReceipt) (first : Bool) (readAt : Nat) (choice : TxChoice) : State :=
  s.endFinalize sha256 d worker cause proposal receipt first
    (s.rows.findEvent receipt.claim.eventId receipt.claim.projectId) (s.rows.findAttempt receipt.claim)
    (s.input readAt choice) (s.committedAt readAt choice) choice.survives

end State

/-- One action of a worker; one that is not possible changes nothing. -/
def step (s : State) : Action → State
  | .claim worker eventId projectId owner delay =>
    match s.tasks worker with
    | .idle =>
      let now := s.clock + delay
      match claimRead d (s.rows.findEvent eventId projectId) projectId owner now with
      | .ok (some claim) => s.setTask worker (.claiming claim now)
      | _ => s
    | _ => s
  | .claimTx worker choice =>
    match s.tasks worker with
    | .claiming claim readAt =>
      s.endClaim sha256 worker claim (s.rows.findEvent claim.eventId claim.projectId)
        (s.input readAt choice) (s.committedAt readAt choice) choice.survives
    | _ => s
  | .invoke worker claim choice =>
    match s.tasks worker with
    | .idle =>
      s.endInvoke sha256 d worker claim (s.rows.findEvent claim.eventId claim.projectId)
        (s.rows.findAttempt claim) (s.input s.clock choice) (s.committedAt s.clock choice)
        choice.survives
    | _ => s
  | .handlerEnds worker h =>
    match s.tasks worker with
    | .running claim _ readAt =>
      (s.setTask worker (.finalizing claim h.cause readAt)).record [.handlerEnded worker claim h]
    | _ => s
  | .finalize worker claim cause =>
    match s.tasks worker with
    | .idle =>
      (s.setTask worker (.finalizing claim cause s.clock)).record [.finalizeCalled worker claim cause]
    | _ => s
  | .finalizeRead worker delay =>
    match s.tasks worker with
    | .finalizing claim cause readAt =>
      let now := max s.clock readAt + delay
      match finalizeRead sha256 d claim cause (s.rows.findEvent claim.eventId claim.projectId)
          (s.rows.findAttempt claim) now with
      | .ok proposal => s.setTask worker (.proposing cause proposal now)
      | .error e => (s.setTask worker .idle).record [.raised worker claim cause e]
    | _ => s
  | .finalizeTx worker choice =>
    match s.tasks worker with
    | .proposing cause proposal readAt =>
      s.stepFinalize sha256 d worker cause proposal proposal.receipt true readAt choice
    | .replaying cause proposal stored readAt =>
      s.stepFinalize sha256 d worker cause proposal stored false readAt choice
    | _ => s
  | .recover worker eventId projectId delay =>
    match s.tasks worker with
    | .idle =>
      let now := s.clock + delay
      match recoverRead (s.rows.findEvent eventId projectId) now with
      | .ok (some claim) => s.setTask worker (.finalizing claim .expired now)
      | _ => s
    | _ => s
  | .crash worker => (s.setTask worker .idle).record [.crashed worker]
  | .effect envelope delay survives =>
    let claim := envelope.claim
    s.endEffect envelope (fenceInvocation (s.rows.findEvent claim.eventId claim.projectId)
      (s.rows.findAttempt claim) (observe sha256 s.rows envelope (s.clock + delay))) survives

end Step

end Workstream.Outbox
