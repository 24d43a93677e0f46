import Workstream.Storage.PutExecution

/-!
# Verification of stored objects and its recovery

`verify_object` as its claim and its terminal transaction, and `ArtifactRecoveryService`, which starts
one retry of a verification that has exhausted its attempts.
-/

namespace Workstream.Storage
open Foundation

structure JobClaimRequest where
  jobId : Uuid
  executorId : Uuid
  expectedGeneration : ℕ
  leaseSeconds : ℕ
  now : ℕ

structure JobClaim where
  jobId : Uuid
  executorId : Uuid
  generation : ℕ
  related : Bool

variable (db : Database) (job : ArtifactVerificationJob)

/-- `eligible` of `claim_verification_job` -/
abbrev ArtifactVerificationJob.Claimable (now : ℕ) : Prop :=
  job.status = .pending ∨
    (job.status = .providerUnavailable ∧ (∃ next ∈ job.nextRunAt, next ≤ now) ∧ job.terminalAt = none) ∨
    (job.status = .running ∧ ∃ lease ∈ job.leaseExpiresAt, lease < now)

def claimedJob (request : JobClaimRequest) : ArtifactVerificationJob :=
  { job with
    status := .running
    executorId := some request.executorId
    leaseExpiresAt := some (request.now + request.leaseSeconds)
    executionGeneration := job.executionGeneration + 1
    attemptCount := job.attemptCount + 1
    nextRunAt := none
    casVersion := job.casVersion + 1 }

/-- `_verification_relationship_matches` -/
def relationshipMatches (replica : ArtifactReplica) (attempt : ArtifactPutAttempt) : Bool :=
  match Table.find ArtifactContent.id db.contents replica.contentId with
  | none => false
  | some content =>
    job.replicaId = replica.id ∧ attempt.replicaId = some replica.id ∧
      content.sha256 = attempt.sha256 ∧ content.byteCount = attempt.byteCount

def Database.jobRows : Option (ArtifactReplica × ArtifactPutAttempt) :=
  match db.replica job.replicaId, db.attempt job.originatingPutAttemptId with
  | some replica, some attempt => some (replica, attempt)
  | _, _ => none

/-- The claim transaction of `verify_object`; `none` is "stale" or "conflict". -/
def claimVerificationJob (request : JobClaimRequest) : Option (Database × JobClaim) :=
  match db.job request.jobId with
  | none => none
  | some job =>
    match db.jobRows job with
    | none => none
    | some (replica, attempt) =>
      if attempt.producerRequestType.isVerified = true ∧
          job.executionGeneration = request.expectedGeneration ∧ job.Claimable request.now then
        some (db.setJob (claimedJob job request), {
          jobId := request.jobId
          executorId := request.executorId
          generation := request.expectedGeneration + 1
          related := relationshipMatches db (claimedJob job request) replica attempt })
      else none

/-- `_matching_job_fence` -/
abbrev ArtifactVerificationJob.Fenced (claim : JobClaim) : Prop :=
  job.status = .running ∧ job.executorId = some claim.executorId ∧
    job.executionGeneration = claim.generation

def Database.fencedJob (claim : JobClaim) :
    Option (ArtifactVerificationJob × ArtifactReplica × ArtifactPutAttempt) :=
  match db.job claim.jobId with
  | none => none
  | some job => if job.Fenced claim then (db.jobRows job).map (fun rows => (job, rows)) else none

def ArtifactVerificationJob.cleared (status : JobStatus) : ArtifactVerificationJob :=
  { job with status, executorId := none, leaseExpiresAt := none, casVersion := job.casVersion + 1 }

def ArtifactVerificationJob.ended (outcome : JobStatus) (now : ℕ) : ArtifactVerificationJob :=
  { job.cleared outcome with
    nextRunAt := none
    terminalResultCode := some outcome
    terminalAt := some now }

def ArtifactRecoveryAttempt.ended (recovery : ArtifactRecoveryAttempt) (outcome : JobStatus) (now : ℕ) :
    ArtifactRecoveryAttempt :=
  { recovery with
    status := if outcome = .verified then .succeeded else .failed
    terminalResultCode := some outcome
    terminalAt := some now }

/-- `_finalize_recovery_for_job` -/
def finalizeRecovery (jobId : Uuid) (outcome : JobStatus) (now : ℕ) : Except Failure Database :=
  match Table.find ArtifactRecoveryAttempt.retryVerificationJobId db.recoveries jobId with
  | none => pure db
  | some recovery => do
    require (recovery.status = .requested ∧ recovery.terminalAt = none)
      (.ingestState "artifact recovery envelope is already terminal")
    pure { db with
      recoveries := Table.replace ArtifactRecoveryAttempt.retryVerificationJobId db.recoveries
        (recovery.ended outcome now) }

inductive VerificationOutcome where
  | verified
  | missing
  | integrityMismatch
  | conflict
deriving DecidableEq

def VerificationOutcome.status : VerificationOutcome → JobStatus
  | .verified => .verified
  | .missing => .missing
  | .integrityMismatch => .integrityMismatch
  | .conflict => .conflict

/-- `mapping` of `_complete_verification_transaction` -/
def VerificationOutcome.states (outcome : VerificationOutcome) (replica : ArtifactReplica) :
    ReplicaStates :=
  match outcome with
  | .verified => (.verified, .available, .valid)
  | .missing => (.missing, .unavailable, .unknown)
  | .integrityMismatch => mismatchStates
  | .conflict => replica.states

def ArtifactReplica.isBad (replica : ArtifactReplica) : Bool :=
  replica.states.1 = .integrityMismatch ∨ replica.states.1 = .missing

def settledOutcome (outcome : VerificationOutcome) (replica : ArtifactReplica) : VerificationOutcome :=
  if replica.isBad = true then
    match replica.states.1, outcome with
    | .integrityMismatch, .integrityMismatch => .integrityMismatch
    | .missing, .missing => .missing
    | _, _ => .conflict
  else outcome

/-- `add_verification_receipt`, under `uq_artifact_verification_fence`. -/
def addVerificationReceipt (receipt : ArtifactVerificationReceipt) : Except Failure Database := do
  require (∀ other ∈ db.verificationReceipts, (other.verificationJobId, other.executionGeneration) ≠
    (receipt.verificationJobId, receipt.executionGeneration)) .integrity
  pure { db with verificationReceipts := db.verificationReceipts ++ [receipt] }

def verificationReceipt (id : Uuid) (job : ArtifactVerificationJob) (outcome : VerificationOutcome)
    (observed : Option (String × ℕ)) : ArtifactVerificationReceipt where
  id := id
  verificationJobId := job.id
  executionGeneration := job.executionGeneration
  outcome := outcome.status
  observedSha256 := if outcome = .conflict then none else observed.map Prod.fst
  observedByteCount := if outcome = .conflict then none else observed.map Prod.snd

def endJob (outcome : VerificationOutcome) (observed : Option (String × ℕ)) (receiptId : Uuid) (now : ℕ) :
    Except Failure (Database × JobStatus) := do
  let db ← addVerificationReceipt db (verificationReceipt receiptId job outcome observed)
  let db ← finalizeRecovery (db.setJob (job.ended outcome.status now)) job.id outcome.status now
  pure (db, outcome.status)

/-- `_complete_verification_transaction`. `published` is what publishing a verified submission bundle
answers: the receipt of a refused one cannot be changed to a conflict, for receipts are immutable. -/
def completeVerification (claim : JobClaim) (outcome : VerificationOutcome)
    (observed : Option (String × ℕ)) (published : Bool) (receiptId : Uuid) (now : ℕ) :
    Except Failure (Database × Option JobStatus) :=
  match db.fencedJob claim with
  | none => pure (db, none)
  | some (job, replica, attempt) => do
    let outcome := if relationshipMatches db job replica attempt = true then outcome else .conflict
    let settled := settledOutcome outcome replica
    require (settled = .verified → published = true) .integrity
    let db := if replica.isBad = true then db
      else db.setReplica { replica with states := settled.states replica }
    let (db, status) ← endJob db job settled observed receiptId now
    pure (db, some status)

def recordVerificationUnavailable (claim : JobClaim) (scanInterval : ℕ) (receiptId : Uuid) (now : ℕ) :
    Except Failure (Database × Option JobStatus) :=
  match db.fencedJob claim with
  | none => pure (db, none)
  | some (job, replica, attempt) =>
    if relationshipMatches db job replica attempt = false then do
      let (db, status) ← endJob db job .conflict none receiptId now
      pure (db, some status)
    else if job.maximumAttempts ≤ job.attemptCount then do
      let db ← finalizeRecovery (db.setJob (job.ended .providerUnavailable now)) job.id
        .providerUnavailable now
      pure (db, some .providerUnavailable)
    else pure (db.setJob { job.cleared .providerUnavailable with
      nextRunAt := some (now + scanInterval)
      terminalAt := none
      terminalResultCode := none }, some .providerUnavailable)

inductive Verified where
  | complete (outcome : VerificationOutcome) (observed : Option (String × ℕ))
  | unavailable

def classifyRead (commitment : String × ℕ) : Except StoreError (String × ℕ) → Verified
  | .ok observed =>
    .complete (if observed = commitment then .verified else .integrityMismatch) (some observed)
  | .error .objectMissing => .complete .missing none
  | .error .unavailable => .unavailable
  | .error .liveProofRequired => .unavailable
  | .error .configuration => .unavailable
  | .error _ => .complete .conflict none

/-- The end of `verify_object`. Rows that did not belong together at the claim are a conflict that no
provider is asked about. -/
def finishVerification (settings : Settings) (db : Database) (claim : JobClaim)
    (read : Except StoreError (String × ℕ)) (activated published : Bool) (receiptId : Uuid) (now : ℕ) :
    Except Failure (Database × Option JobStatus) :=
  match db.fencedJob claim with
  | none => pure (db, none)
  | some (_, _, attempt) =>
    if claim.related = false then completeVerification db claim .conflict none published receiptId now
    else
      match classifyRead (attempt.sha256, attempt.byteCount) read, activated with
      | .unavailable, _ => recordVerificationUnavailable db claim settings.scanInterval receiptId now
      | _, false => recordVerificationUnavailable db claim settings.scanInterval receiptId now
      | .complete outcome observed, true =>
        completeVerification db claim outcome observed published receiptId now

structure RecoveryRequest where
  requesterActorProfileId : Uuid
  projectId : Uuid
  taskId : Uuid
  submissionId : Option Uuid
  sourceVerificationJobId : Uuid
  expectedSourceJobCasVersion : ℕ
  reason : String
  clientIdempotencyKey : String
  /-- `_request_digest` of this request. -/
  requestDigest : String

structure RecoveryIds where
  retryId : Uuid
  recoveryId : Uuid
  maximumAttempts : ℕ

def isBlank (c : Char) : Bool :=
  let n := c.toNat
  (9 ≤ n ∧ n ≤ 13) ∨ (28 ≤ n ∧ n ≤ 32) ∨ n = 0x85 ∨ n = 0xA0 ∨ n = 0x1680 ∨ (0x2000 ≤ n ∧ n ≤ 0x200A) ∨
    n = 0x2028 ∨ n = 0x2029 ∨ n = 0x202F ∨ n = 0x205F ∨ n = 0x3000

def isStripped (text : String) : Bool :=
  text.toList.head?.all (fun c => !isBlank c) && text.toList.getLast?.all (fun c => !isBlank c)

variable (request : RecoveryRequest)

/-- `_validate_request` -/
def validateRecoveryRequest : Except Failure Unit :=
  require (isStripped request.reason = true ∧ request.reason ≠ "" ∧ request.reason.length ≤ 1000 ∧
    isStripped request.clientIdempotencyKey = true ∧ request.clientIdempotencyKey ≠ "" ∧
    request.clientIdempotencyKey.length ≤ 200) (.invalidRequest "invalid artifact recovery request")

/-- `_is_exhausted_unavailable` -/
abbrev ArtifactVerificationJob.ExhaustedUnavailable : Prop :=
  job.status = .providerUnavailable ∧ job.terminalResultCode = some .providerUnavailable ∧
    job.terminalAt.isSome = true ∧ job.nextRunAt = none ∧ job.executorId = none ∧
    job.leaseExpiresAt = none ∧ job.maximumAttempts ≤ job.attemptCount

/-- `_is_exact_replay` -/
abbrev ArtifactRecoveryAttempt.IsReplay (existing : ArtifactRecoveryAttempt) (request : RecoveryRequest) :
    Prop :=
  existing.requesterActorProfileId = request.requesterActorProfileId ∧
    existing.sourceVerificationJobId = request.sourceVerificationJobId ∧
    existing.clientIdempotencyKey = request.clientIdempotencyKey ∧
    existing.requestDigest = request.requestDigest

def recoveryBySource (sourceId : Uuid) : Option ArtifactRecoveryAttempt :=
  Table.find ArtifactRecoveryAttempt.sourceVerificationJobId db.recoveries sourceId

/-- `_current_recovery_source`; the task of the attempt is there when it does not fail. -/
def currentRecoverySource (sourceId : Uuid) (existing : Option ArtifactRecoveryAttempt) :
    Except Failure (ArtifactVerificationJob × ArtifactPutAttempt × Uuid) := do
  let source ← required (db.job sourceId)
    (.recoveryNotFound "artifact recovery resource was not found")
  let attempt ← required (db.attempt source.originatingPutAttemptId)
    (.recoveryNotFound "artifact recovery resource was not found")
  require (attempt.producerRequestType.isVerified = true)
    (.recoveryIneligible "artifact producer does not use verification recovery")
  let taskId ← required attempt.taskId
    (.recoveryIneligible "artifact producer does not use verification recovery")
  require (∀ recovery ∈ existing, (recovery.projectId, recovery.taskId) = (attempt.projectId, taskId))
    (.recoveryConflict "artifact recovery resource facts changed")
  pure (source, attempt, taskId)

def newRecovery (source : ArtifactVerificationJob) (attempt : ArtifactPutAttempt) (taskId : Uuid)
    (parent : Option ArtifactRecoveryAttempt) (ids : RecoveryIds) : ArtifactRecoveryAttempt where
  id := ids.recoveryId
  requesterActorProfileId := request.requesterActorProfileId
  projectId := attempt.projectId
  taskId := taskId
  submissionId := attempt.submissionId
  sourceVerificationJobId := source.id
  retryVerificationJobId := ids.retryId
  parentRecoveryAttemptId := parent.map (·.id)
  reason := request.reason
  clientIdempotencyKey := request.clientIdempotencyKey
  requestDigest := request.requestDigest
  status := .requested
  terminalResultCode := none
  terminalAt := none

def createRecovery (authorized : Bool) (ids : RecoveryIds) :
    Except Failure (Database × Uuid × Bool) := do
  let existing := recoveryBySource db request.sourceVerificationJobId
  let (source, attempt, taskId) ← currentRecoverySource db request.sourceVerificationJobId existing
  require (authorized = true) .denied
  match existing with
  | some recovery => do
    require (recovery.IsReplay request) (.recoveryConflict "artifact recovery source is already owned")
    pure (db, recovery.id, true)
  | none => do
    require (attempt.projectId = request.projectId ∧ taskId = request.taskId ∧
      attempt.submissionId = request.submissionId)
      (.recoveryConflict "artifact recovery resource facts changed")
    require source.ExhaustedUnavailable
      (.recoveryIneligible "artifact verification job is not exhausted provider-unavailable work")
    require (source.casVersion = request.expectedSourceJobCasVersion)
      (.recoveryConflict "artifact verification source changed")
    let parent := Table.find ArtifactRecoveryAttempt.retryVerificationJobId db.recoveries source.id
    let db ← addVerificationJob db
      (newJob ids.retryId source.originatingPutAttemptId source.replicaId
        (some source.id) ids.maximumAttempts)
    require (∀ other ∈ db.recoveries, other.id ≠ ids.recoveryId ∧
      other.retryVerificationJobId ≠ ids.retryId) .integrity
    pure ({ db with recoveries := db.recoveries ++ [newRecovery request source attempt taskId parent ids] },
      ids.recoveryId, false)

def retryVerification (authorized : Bool) (ids : RecoveryIds) :
    Except Failure (Database × Uuid × Bool) := do
  validateRecoveryRequest request
  createRecovery db request authorized ids

end Workstream.Storage
