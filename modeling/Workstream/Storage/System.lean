import Workstream.Storage.Verification
import Workstream.Foundation.Runs

/-!
# The artifact store as a system

Callers, observers, verifiers and operators act on one database in any order. Each transaction is one
step; between its claim and its terminal transaction a worker calls the provider, may be overtaken, and
may disappear at any point.
-/

namespace Workstream.Storage
open Foundation

/-- A worker between its claim and its terminal transaction; a caller has `called` once it has invoked
the put of the store. -/
structure PutWorker where
  claim : PutClaim
  called : Bool

/-- The database, and what workers and verifiers hold outside of it. -/
structure State where
  db : Database
  workers : List (ℕ × PutWorker)
  verifiers : List (ℕ × JobClaim)
  /-- The committed claims of put attempts, and the puts the store has seen, with their generations. -/
  claims : List PutClaim
  invocations : List (Uuid × ℕ)

def State.initial : State := ⟨.initial, [], [], [], []⟩

/-- Transactions and provider calls of workers and verifiers, and lost workers. -/
inductive Action where
  | admitArtifact (request : AdmissionRequest)
  | claimPut (worker : ℕ) (request : ClaimRequest)
  | callProvider (worker : ℕ)
  | finishCallerPut (worker : ℕ) (settings : Settings) (answer : Except StoreError (String × Bool))
      (activated : Bool) (ids : TerminalIds)
  | finishObservation (worker : ℕ) (settings : Settings) (observation : Except StoreError (Option String))
      (read : Except StoreError (String × ℕ)) (activated : Bool) (ids : TerminalIds)
  | loseWorker (worker : ℕ)
  | claimVerification (worker : ℕ) (request : JobClaimRequest)
  | finishVerification (worker : ℕ) (settings : Settings) (read : Except StoreError (String × ℕ))
      (activated published : Bool) (receiptId : Uuid) (now : ℕ)
  | loseVerifier (worker : ℕ)
  | retryVerification (request : RecoveryRequest) (authorized : Bool) (ids : RecoveryIds)

variable (s : State)

def State.worker (id : ℕ) : Option PutWorker :=
  (Table.find Prod.fst s.workers id).map Prod.snd

def State.verifier (id : ℕ) : Option JobClaim :=
  (Table.find Prod.fst s.verifiers id).map Prod.snd

def State.withoutWorker (id : ℕ) : State :=
  { s with workers := s.workers.filter (fun w => w.1 ≠ id) }

def State.withoutVerifier (id : ℕ) : State :=
  { s with verifiers := s.verifiers.filter (fun w => w.1 ≠ id) }

def claimPut (db : Database) (request : ClaimRequest) : Option (Database × PutClaim) :=
  match request.mode with
  | .callerPut => (claimCallerPut db request).toOption.join
  | .observation => claimObservation db request

def State.commit {α : Type} (result : Except Failure (Database × α)) : State :=
  match result with
  | .ok (db, _) => { s with db }
  | .error _ => s

def State.claimPut (id : ℕ) (request : ClaimRequest) : State :=
  if id ∈ s.workers.map Prod.fst then s
  else
    match Storage.claimPut s.db request with
    | none => s
    | some (db, claim) => { s with
        db
        workers := s.workers ++ [(id, ⟨claim, false⟩)]
        claims := s.claims ++ [claim] }

def State.callProvider (id : ℕ) : State :=
  match s.worker id with
  | none => s
  | some worker =>
    if worker.claim.mode = .callerPut ∧ worker.called = false then
      let called := (s.withoutWorker id).workers ++ [(id, { worker with called := true })]
      { s with
        workers := called
        invocations := s.invocations ++ [(worker.claim.attemptId, worker.claim.generation)] }
    else s

/-- The terminal transaction of a worker that wrote. -/
def State.finishCallerPut (id : ℕ) (settings : Settings) (answer : Except StoreError (String × Bool))
    (activated : Bool) (ids : TerminalIds) : State :=
  match s.worker id with
  | none => s
  | some worker =>
    if worker.called = true then
      (s.withoutWorker id).commit (Storage.finishCallerPut settings s.db worker.claim answer activated ids)
    else s

def observed (db : Database) (claim : PutClaim) (observation : Except StoreError (Option String))
    (read : Except StoreError (String × ℕ)) : Observed :=
  match db.attempt claim.attemptId with
  | some attempt => classifyObservation attempt observation read
  | none => .conflict

/-- The terminal transaction of a worker that observed. -/
def State.finishObservation (id : ℕ) (settings : Settings)
    (observation : Except StoreError (Option String)) (read : Except StoreError (String × ℕ))
    (activated : Bool) (ids : TerminalIds) : State :=
  match s.worker id with
  | none => s
  | some worker =>
    if worker.claim.mode = .observation then
      (s.withoutWorker id).commit (Storage.finishObservation settings s.db worker.claim
        (observed s.db worker.claim observation read) activated ids)
    else s

def State.claimVerification (id : ℕ) (request : JobClaimRequest) : State :=
  if id ∈ s.verifiers.map Prod.fst then s
  else
    match claimVerificationJob s.db request with
    | none => s
    | some (db, claim) => { s with db, verifiers := s.verifiers ++ [(id, claim)] }

def State.finishVerification (id : ℕ) (settings : Settings) (read : Except StoreError (String × ℕ))
    (activated published : Bool) (receiptId : Uuid) (now : ℕ) : State :=
  match s.verifier id with
  | none => s
  | some claim => (s.withoutVerifier id).commit
      (Storage.finishVerification settings s.db claim read activated published receiptId now)

/-- One action; a transaction that is rolled back leaves the database as it was. -/
def step : Action → State
  | .admitArtifact request => s.commit (admitArtifact s.db request)
  | .claimPut id request => s.claimPut id request
  | .callProvider id => s.callProvider id
  | .finishCallerPut id settings answer activated ids => s.finishCallerPut id settings answer activated ids
  | .finishObservation id settings observation read activated ids =>
    s.finishObservation id settings observation read activated ids
  | .loseWorker id => s.withoutWorker id
  | .claimVerification id request => s.claimVerification id request
  | .finishVerification id settings read activated published receiptId now =>
    s.finishVerification id settings read activated published receiptId now
  | .loseVerifier id => s.withoutVerifier id
  | .retryVerification request authorized ids =>
    s.commit (retryVerification s.db request authorized ids)

end Workstream.Storage
