import Workstream.Storage.Admission

/-!
# Execution of a put attempt

The transactions of `ArtifactStorageOrchestrator` on one put attempt: the claim of a caller's write or
of an observation, and the terminal transaction after the provider has answered.
-/

namespace Workstream.Storage
open Foundation

structure PutClaim where
  attemptId : Uuid
  executorId : Uuid
  generation : ℕ
  mode : ExecutionMode
  seen : List Uuid

variable (db : Database) (attempt : ArtifactPutAttempt) (request : ClaimRequest)

/-- `eligible` of `claim_put_attempt` -/
def ArtifactPutAttempt.Claimable (now : ℕ) : ExecutionMode → Prop
  | .callerPut => attempt.status = .prepared ∨ attempt.status = .absentReplayRequired
  | .observation => attempt.status = .prepared ∨ attempt.status = .acknowledgementUnknown ∨
      (attempt.status = .putInFlight ∧ ∃ lease ∈ attempt.leaseExpiresAt, lease < now)

instance (attempt : ArtifactPutAttempt) (now : ℕ) (mode : ExecutionMode) :
    Decidable (attempt.Claimable now mode) :=
  match mode with
  | .callerPut => inferInstanceAs (Decidable (_ ∨ _))
  | .observation => inferInstanceAs (Decidable (_ ∨ _))

structure ClaimRequest where
  attemptId : Uuid
  executorId : Uuid
  mode : ExecutionMode
  expectedGeneration : ℕ
  /-- The commitment of the caller's source. -/
  source : String × ℕ
  leaseSeconds : ℕ
  now : ℕ

def claimed : ArtifactPutAttempt :=
  { attempt with
    status := .putInFlight
    executorId := some request.executorId
    leaseExpiresAt := some (request.now + request.leaseSeconds)
    executionGeneration := attempt.executionGeneration + 1
    executionMode := some request.mode
    observationCount := attempt.observationCount + if request.mode = .observation then 1 else 0
    nextRunAt := none }

/-- `claim_put_attempt`; `none` when no row is updated. -/
def claimPutAttempt : Option (Database × ArtifactPutAttempt) :=
  match db.attempt request.attemptId with
  | none => none
  | some attempt =>
    if attempt.executionGeneration = request.expectedGeneration ∧
        attempt.Claimable request.now request.mode then
      some (db.setAttempt (claimed attempt request), claimed attempt request)
    else none

def ClaimRequest.claim (seen : List Uuid) : PutClaim where
  attemptId := request.attemptId
  executorId := request.executorId
  generation := request.expectedGeneration + 1
  mode := request.mode
  seen := seen

def Ledger.provisionalIds (ledger : Ledger) (attemptId : Uuid) : List Uuid :=
  ((ledger.linked attemptId).filter (fun charge => charge.state = .provisional)).map (·.id)

/-- The claim transaction of `execute_committed_put`: the charges that were released on absence are
reacquired before the write. `none` is the answer "stale". -/
def claimCallerPut : Except Failure (Option (Database × PutClaim)) :=
  match db.attempt request.attemptId with
  | none => .error (.ingestState "committed source does not match put attempt")
  | some attempt => do
    require (request.source = (attempt.sha256, attempt.byteCount))
      (.ingestState "committed source does not match put attempt")
    match claimPutAttempt db request with
    | none => pure none
    | some (db, _) => do
      let ledger ← (db.ledger.linkedIds request.attemptId).foldlM Ledger.reacquire db.ledger
      pure (some ({ db with ledger }, request.claim (ledger.provisionalIds request.attemptId)))

/-- The claim transaction of `resolve_put_attempt`. -/
def claimObservation : Option (Database × PutClaim) :=
  (claimPutAttempt db request).map (fun claim => (claim.1, request.claim []))

variable (claim : PutClaim)

/-- `_matching_put_fence` -/
abbrev ArtifactPutAttempt.Fenced : Prop :=
  attempt.status = .putInFlight ∧ attempt.executorId = some claim.executorId ∧
    attempt.executionGeneration = claim.generation

def Database.fenced : Option ArtifactPutAttempt :=
  match db.attempt claim.attemptId with
  | some attempt => if attempt.Fenced claim then some attempt else none
  | none => none

def ArtifactPutAttempt.cleared (status : PutStatus) : ArtifactPutAttempt :=
  { attempt with status, executorId := none, leaseExpiresAt := none, executionMode := none }

structure TerminalIds where
  contentId : Uuid
  replicaId : Uuid
  receiptId : Uuid
  jobId : Uuid
  now : ℕ

def getOrCreateContent (sha256 : String) (byteCount : ℕ) (id : Uuid) :
    Except Failure (Database × ArtifactContent) :=
  match Table.find (fun c : ArtifactContent => (c.sha256, c.byteCount)) db.contents (sha256, byteCount) with
  | some content => pure (db, content)
  | none => do
    require (Table.find ArtifactContent.id db.contents id = none) .integrity
    pure ({ db with contents := db.contents ++ [⟨id, sha256, byteCount⟩] }, ⟨id, sha256, byteCount⟩)

def getOrCreateReplica (contentId : Uuid) (providerObjectRef : String) (states : ReplicaStates)
    (id : Uuid) : Except Failure (Database × ArtifactReplica) :=
  match Table.find ArtifactReplica.providerObjectRef db.replicas providerObjectRef with
  | some replica => pure (db, replica)
  | none => do
    require (db.replica id = none) .integrity
    pure ({ db with replicas := db.replicas ++ [⟨id, contentId, providerObjectRef, states⟩] },
      ⟨id, contentId, providerObjectRef, states⟩)

def pendingStates : ReplicaStates := (.pending, .unknown, .unknown)

def mismatchStates : ReplicaStates := (.integrityMismatch, .available, .invalid)

/-- `add_put_observation_receipt`, under `uq_artifact_put_observation_fence`. -/
def addObservationReceipt (receipt : ArtifactPutObservationReceipt) : Except Failure Database := do
  require (∀ other ∈ db.observationReceipts, (other.putAttemptId, other.executionGeneration) ≠
    (receipt.putAttemptId, receipt.executionGeneration)) .integrity
  pure { db with observationReceipts := db.observationReceipts ++ [receipt] }

/-- `add_receipt`, under `uq_artifact_receipt_put_attempt`. -/
def addOperationReceipt (receipt : ArtifactOperationReceipt) : Except Failure Database := do
  require (∀ other ∈ db.operationReceipts, other.putAttemptId ≠ receipt.putAttemptId) .integrity
  pure { db with operationReceipts := db.operationReceipts ++ [receipt] }

/-- `add_verification_job`, under its unique indexes. -/
def addVerificationJob (job : ArtifactVerificationJob) : Except Failure Database := do
  require (db.job job.id = none ∧ ∀ other ∈ db.jobs,
    (job.parentVerificationJobId = none → other.parentVerificationJobId = none →
      other.originatingPutAttemptId ≠ job.originatingPutAttemptId) ∧
    (job.parentVerificationJobId ≠ none →
      other.parentVerificationJobId ≠ job.parentVerificationJobId)) .integrity
  pure { db with jobs := db.jobs ++ [job] }

def newJob (id attemptId replicaId : Uuid) (parent : Option Uuid) (maximumAttempts : ℕ) :
    ArtifactVerificationJob where
  id := id
  originatingPutAttemptId := attemptId
  parentVerificationJobId := parent
  replicaId := replicaId
  status := .pending
  attemptCount := 0
  maximumAttempts := maximumAttempts
  nextRunAt := none
  executorId := none
  leaseExpiresAt := none
  executionGeneration := 0
  casVersion := 0
  terminalResultCode := none
  terminalAt := none

def observationReceipt (id : Uuid) (attempt : ArtifactPutAttempt) (outcome : ObservationOutcome)
    (observed : Option (String × ℕ)) : ArtifactPutObservationReceipt where
  id := id
  putAttemptId := attempt.id
  executionGeneration := attempt.executionGeneration
  outcome := outcome
  observedSha256 := observed.map Prod.fst
  observedByteCount := observed.map Prod.snd

def completeCharges (ledger : Ledger) (claim : PutClaim) (observed : Bool) (now : ℕ) :
    Except Failure Ledger :=
  if observed then (ledger.linkedIds claim.attemptId).foldlM (Ledger.complete now) ledger
  else claim.seen.foldlM (Ledger.completeSeen now) ledger

def confirmedResult (guide observed : Bool) : String :=
  if guide then if observed then "document_stored_observed" else "document_stored"
  else if observed then "observed_confirmed" else "acknowledged"

def confirmedStatus (guide observed : Bool) : String :=
  if guide then "document_stored"
  else if observed then "observed_confirmed" else "stored_pending_verification"

def ArtifactPutAttempt.isGuide : Bool :=
  attempt.producerRequestType = .guide

def confirmedAttempt (replicaId : Uuid) (observed : Bool) (ids : TerminalIds) : ArtifactPutAttempt :=
  { attempt.cleared .objectConfirmed with
    replicaId := some replicaId
    receiptId := if observed then none else some ids.receiptId
    nextRunAt := none
    terminalResultCode := some (confirmedResult attempt.isGuide observed)
    terminalAt := some ids.now }

def operationReceipt (replicaId : Uuid) (providerObjectRef : String) (replayed : Bool) (id : Uuid) :
    ArtifactOperationReceipt where
  id := id
  putAttemptId := attempt.id
  replicaId := replicaId
  providerObjectRef := providerObjectRef
  replayed := replayed
  outcome := if attempt.isGuide then "document_stored" else "stored_pending_verification"
  attemptNumber := max 1 attempt.executionGeneration

def addConfirmation (replicaId : Uuid) (providerObjectRef : String) (replayed observed : Bool)
    (id : Uuid) : Except Failure Database :=
  if observed then
    addObservationReceipt db (observationReceipt id attempt .observedConfirmed
      (some (attempt.sha256, attempt.byteCount)))
  else addOperationReceipt db (operationReceipt attempt replicaId providerObjectRef replayed id)

def addInitialJob (replicaId id : Uuid) (maximumAttempts : ℕ) : Except Failure Database :=
  if attempt.isGuide then pure db
  else addVerificationJob db (newJob id attempt.id replicaId none maximumAttempts)

def conflictAttempt (now : ℕ) : ArtifactPutAttempt :=
  { attempt.cleared .conflict with terminalResultCode := some "conflict", terminalAt := some now }

def conflictPut (ids : TerminalIds) : Except Failure (Database × String) := do
  let db ← addObservationReceipt db (observationReceipt ids.receiptId attempt .conflict none)
  pure (db.setAttempt (conflictAttempt attempt ids.now), "conflict")

/-- Complete the charges, and record the content, the replica and a first job. -/
def completeTransactionB (providerObjectRef : String) (replayed observed : Bool) (maximumAttempts : ℕ)
    (ids : TerminalIds) : Except Failure (Database × String) :=
  match db.fenced claim with
  | none => pure (db, "stale")
  | some attempt => do
    let ledger ← completeCharges db.ledger claim observed ids.now
    let (db, content) ← getOrCreateContent { db with ledger } attempt.sha256 attempt.byteCount ids.contentId
    let (db, replica) ← getOrCreateReplica db content.id providerObjectRef pendingStates ids.replicaId
    if replica.contentId = content.id then do
      let db ← addConfirmation db attempt replica.id providerObjectRef replayed observed ids.receiptId
      let db ← addInitialJob db attempt replica.id ids.jobId maximumAttempts
      pure (db.setAttempt (confirmedAttempt attempt replica.id observed ids),
        confirmedStatus attempt.isGuide observed)
    else conflictPut db attempt ids

/-- `exhausted` of `_record_put_unavailable` -/
abbrev ArtifactPutAttempt.Exhausted (forceAcknowledgementUnknown : Bool) : Prop :=
  forceAcknowledgementUnknown = false ∧ attempt.maximumObservations ≤ attempt.observationCount

def unavailableAttempt (now : ℕ) : ArtifactPutAttempt :=
  { attempt.cleared .providerUnavailable with
    nextRunAt := none
    terminalAt := some now
    terminalResultCode := some "provider_unavailable" }

def unknownAttempt (nextRunAt : ℕ) : ArtifactPutAttempt :=
  { attempt.cleared .acknowledgementUnknown with
    nextRunAt := some nextRunAt
    terminalAt := none
    terminalResultCode := none }

def recordPutUnavailable (forceAcknowledgementUnknown : Bool) (scanInterval now : ℕ) :
    Database × String :=
  match db.fenced claim with
  | none => (db, "stale")
  | some attempt =>
    if attempt.Exhausted forceAcknowledgementUnknown then
      (db.setAttempt (unavailableAttempt attempt now), "provider_unavailable")
    else
      (db.setAttempt (unknownAttempt attempt (now + scanInterval)), "acknowledgement_unknown")

def absentAttempt (now : ℕ) : ArtifactPutAttempt :=
  { attempt.cleared .absentReplayRequired with
    terminalResultCode := some "missing", terminalAt := some now }

/-- Release the charges of an attempt whose object is not there. -/
def recordPutAbsence (ids : TerminalIds) : Except Failure (Database × String) :=
  match db.fenced claim with
  | none => pure (db, "stale")
  | some attempt => do
    let ledger ← (db.ledger.linkedIds claim.attemptId).foldlM (Ledger.release ids.now) db.ledger
    let db ← addObservationReceipt { db with ledger }
      (observationReceipt ids.receiptId attempt .observedMissing none)
    pure (db.setAttempt (absentAttempt attempt ids.now), "missing")

def mismatchAttempt (now : ℕ) : ArtifactPutAttempt :=
  { attempt.cleared .integrityMismatch with
    terminalResultCode := some "integrity_mismatch", terminalAt := some now }

/-- The end of `_record_put_terminal_observation` for bytes that do not match: the replica of the
object is marked, unless it has been found in another state. -/
def mismatchPut (replica : ArtifactReplica) (observed : String × ℕ) (ids : TerminalIds) :
    Except Failure (Database × String) :=
  let attempt := { attempt with replicaId := some replica.id }
  if replica.states = pendingStates ∨ replica.states = mismatchStates then do
    let db ← addObservationReceipt (db.setReplica { replica with states := mismatchStates })
      (observationReceipt ids.receiptId attempt .observedIntegrityMismatch (some observed))
    pure (db.setAttempt (mismatchAttempt attempt ids.now), "integrity_mismatch")
  else conflictPut db attempt ids

def recordPutMismatch (providerObjectRef : String) (observed : String × ℕ) (ids : TerminalIds) :
    Except Failure (Database × String) :=
  match db.fenced claim with
  | none => pure (db, "stale")
  | some attempt => do
    let ledger ← completeCharges db.ledger claim true ids.now
    let (db, content) ← getOrCreateContent { db with ledger } attempt.sha256 attempt.byteCount ids.contentId
    let (db, replica) ← getOrCreateReplica db content.id providerObjectRef mismatchStates ids.replicaId
    mismatchPut db attempt replica observed ids

def recordPutConflict (ids : TerminalIds) : Except Failure (Database × String) :=
  match db.fenced claim with
  | none => pure (db, "stale")
  | some attempt => do
    let ledger ← completeCharges db.ledger claim true ids.now
    conflictPut { db with ledger } attempt ids

inductive StoreError where
  | integrity
  | objectMissing
  | unavailable
  | liveProofRequired
  | configuration
  | other

inductive Observed where
  | confirmed (providerObjectRef : String)
  | absent
  | mismatch (providerObjectRef : String) (sha256 : String) (byteCount : ℕ)
  | conflict
  | unavailable (forceAcknowledgementUnknown : Bool)

/-- Reading the canonical target after the store has refused its own object. -/
def classifyRefusedRead :
    Except StoreError (String × ℕ) → Observed
  | .ok (sha256, byteCount) => .mismatch attempt.canonicalTarget sha256 byteCount
  | .error .unavailable => .unavailable false
  | .error .liveProofRequired => .unavailable true
  | .error .configuration => .unavailable false
  | .error _ => .conflict

/-- The handlers of `resolve_put_attempt`: what `observe_put_result` and the complete read of the
object amount to. -/
def classifyObservation (observation : Except StoreError (Option String))
    (read : Except StoreError (String × ℕ)) : Observed :=
  match observation, read with
  | .ok none, _ => .absent
  | .ok (some ref), .ok (sha256, byteCount) =>
    if (sha256, byteCount) = (attempt.sha256, attempt.byteCount) then .confirmed ref
    else .mismatch ref sha256 byteCount
  | .ok (some _), .error error => classifyError error
  | .error .integrity, read => classifyRefusedRead attempt read
  | .error error, _ => classifyError error
where
  classifyError : StoreError → Observed
    | .objectMissing => .absent
    | .unavailable => .unavailable false
    | .liveProofRequired => .unavailable true
    | .configuration => .unavailable false
    | _ => .conflict

structure Settings where
  scanInterval : ℕ
  maximumAttempts : ℕ

/-- The end of `execute_committed_put`; `activated` is what the activation of the provider answers
inside the terminal transaction. -/
def finishCallerPut (settings : Settings) (db : Database) (claim : PutClaim)
    (answer : Except StoreError (String × Bool)) (activated : Bool) (ids : TerminalIds) :
    Except Failure (Database × String) :=
  match answer, activated with
  | .ok (providerObjectRef, replayed), true =>
    completeTransactionB db claim providerObjectRef replayed false settings.maximumAttempts ids
  | .ok _, false => pure (recordPutUnavailable db claim true settings.scanInterval ids.now)
  | .error .liveProofRequired, _ => pure (recordPutUnavailable db claim true settings.scanInterval ids.now)
  | .error _, _ => pure (recordPutUnavailable db claim false settings.scanInterval ids.now)

/-- The transaction that ends an observation, by what the provider answered. -/
def finishObservation (settings : Settings) (db : Database) (claim : PutClaim) (observed : Observed)
    (activated : Bool) (ids : TerminalIds) : Except Failure (Database × String) :=
  match observed, activated with
  | .unavailable force, _ => pure (recordPutUnavailable db claim force settings.scanInterval ids.now)
  | _, false => pure (recordPutUnavailable db claim true settings.scanInterval ids.now)
  | .confirmed providerObjectRef, true =>
    completeTransactionB db claim providerObjectRef true true settings.maximumAttempts ids
  | .absent, true => recordPutAbsence db claim ids
  | .mismatch providerObjectRef sha256 byteCount, true =>
    recordPutMismatch db claim providerObjectRef (sha256, byteCount) ids
  | .conflict, true => recordPutConflict db claim ids

end Workstream.Storage
