import Workstream.Core
import Workstream.Foundation.Checks
import Workstream.Foundation.Tables

/-!
# Rows of the artifact store

Admission scopes and charges, put attempts with their receipts, contents and replicas, and the
verification jobs with their recovery attempts, all in the one storage namespace of a deployment.
-/

namespace Workstream.Storage
open Foundation

inductive Failure where
  | ingestState (message : String)
  | configuration (message : String)
  | capacity (message : String)
  | conflict (message : String)
  | invalidRequest (message : String)
  | recoveryNotFound (message : String)
  | recoveryIneligible (message : String)
  | recoveryConflict (message : String)
  | denied
  /-- A constraint or a trigger of the database. -/
  | integrity

inductive ScopeType where
  | deployment
  | producer
  | project
  | task
deriving DecidableEq

def ScopeType.text : ScopeType → String
  | .deployment => "deployment"
  | .producer => "producer"
  | .project => "project"
  | .task => "task"

abbrev ScopeKey := ScopeType × String

structure ArtifactAdmissionScope where
  key : ScopeKey
  limitBytes : ℕ
  countedBytes : ℕ

inductive ChargeState where
  | provisional
  | completed
  | released
deriving DecidableEq

structure ArtifactAdmissionCharge where
  id : Uuid
  scope : ScopeKey
  sha256 : String
  byteCount : ℕ
  state : ChargeState
  completedAt : Option ℕ
  releasedAt : Option ℕ

def ArtifactAdmissionCharge.content (charge : ArtifactAdmissionCharge) : ScopeKey × String × ℕ :=
  (charge.scope, charge.sha256, charge.byteCount)

abbrev ArtifactAdmissionCharge.Stamped (charge : ArtifactAdmissionCharge) : Prop :=
  (charge.state = .completed ↔ charge.completedAt.isSome = true) ∧
    (charge.state = .released ↔ charge.releasedAt.isSome = true)

inductive ProducerRequestType where
  | guide
  | checkerOutput
  | setupModelOutput
  | submissionBundle
  | taskImportSource
deriving DecidableEq

/-- `VERIFICATION_PRODUCERS`: all but the guide documents. -/
def ProducerRequestType.isVerified (type : ProducerRequestType) : Bool := type ≠ .guide

inductive PutStatus where
  | prepared
  | putInFlight
  | acknowledgementUnknown
  | objectConfirmed
  | absentReplayRequired
  | integrityMismatch
  | providerUnavailable
  | conflict
deriving DecidableEq

inductive ExecutionMode where
  | callerPut
  | observation
deriving DecidableEq

structure ArtifactPutAttempt where
  id : Uuid
  producerRequestType : ProducerRequestType
  projectId : Uuid
  taskId : Option Uuid
  submissionId : Option Uuid
  sha256 : String
  byteCount : ℕ
  canonicalTarget : String
  operationIdentity : String
  requestDigest : String
  status : PutStatus
  nextRunAt : Option ℕ
  executorId : Option Uuid
  leaseExpiresAt : Option ℕ
  executionGeneration : ℕ
  executionMode : Option ExecutionMode
  observationCount : ℕ
  maximumObservations : ℕ
  terminalResultCode : Option String
  replicaId : Option Uuid
  receiptId : Option Uuid
  terminalAt : Option ℕ

structure ArtifactOperationReceipt where
  id : Uuid
  putAttemptId : Uuid
  replicaId : Uuid
  providerObjectRef : String
  replayed : Bool
  outcome : String
  attemptNumber : ℕ

inductive ObservationOutcome where
  | observedConfirmed
  | observedMissing
  | observedIntegrityMismatch
  | conflict
deriving DecidableEq

structure ArtifactPutObservationReceipt where
  id : Uuid
  putAttemptId : Uuid
  executionGeneration : ℕ
  outcome : ObservationOutcome
  observedSha256 : Option String
  observedByteCount : Option ℕ

structure ArtifactContent where
  id : Uuid
  sha256 : String
  byteCount : ℕ

inductive VerificationState where
  | pending
  | verified
  | missing
  | integrityMismatch
deriving DecidableEq

inductive AvailabilityState where
  | unknown
  | available
  | unavailable
deriving DecidableEq

inductive IntegrityState where
  | unknown
  | valid
  | invalid
deriving DecidableEq

abbrev ReplicaStates := VerificationState × AvailabilityState × IntegrityState

structure ArtifactReplica where
  id : Uuid
  contentId : Uuid
  providerObjectRef : String
  states : ReplicaStates

inductive JobStatus where
  | pending
  | running
  | verified
  | missing
  | integrityMismatch
  | providerUnavailable
  | conflict
deriving DecidableEq

structure ArtifactVerificationJob where
  id : Uuid
  originatingPutAttemptId : Uuid
  parentVerificationJobId : Option Uuid
  replicaId : Uuid
  status : JobStatus
  attemptCount : ℕ
  maximumAttempts : ℕ
  nextRunAt : Option ℕ
  executorId : Option Uuid
  leaseExpiresAt : Option ℕ
  executionGeneration : ℕ
  casVersion : ℕ
  terminalResultCode : Option JobStatus
  terminalAt : Option ℕ

structure ArtifactVerificationReceipt where
  id : Uuid
  verificationJobId : Uuid
  executionGeneration : ℕ
  outcome : JobStatus
  observedSha256 : Option String
  observedByteCount : Option ℕ

inductive RecoveryStatus where
  | requested
  | succeeded
  | failed
deriving DecidableEq

structure ArtifactRecoveryAttempt where
  id : Uuid
  requesterActorProfileId : Uuid
  projectId : Uuid
  taskId : Uuid
  submissionId : Option Uuid
  sourceVerificationJobId : Uuid
  retryVerificationJobId : Uuid
  parentRecoveryAttemptId : Option Uuid
  reason : String
  clientIdempotencyKey : String
  requestDigest : String
  status : RecoveryStatus
  terminalResultCode : Option JobStatus
  terminalAt : Option ℕ

/-- The tables of durable-byte admission; a link is an attempt with one of its charges. -/
structure Ledger where
  scopes : List ArtifactAdmissionScope
  charges : List ArtifactAdmissionCharge
  links : List (Uuid × Uuid)

/-- The tables of artifact storage. -/
structure Database where
  ledger : Ledger
  attempts : List ArtifactPutAttempt
  operationReceipts : List ArtifactOperationReceipt
  observationReceipts : List ArtifactPutObservationReceipt
  contents : List ArtifactContent
  replicas : List ArtifactReplica
  jobs : List ArtifactVerificationJob
  verificationReceipts : List ArtifactVerificationReceipt
  recoveries : List ArtifactRecoveryAttempt

def Database.initial : Database := ⟨⟨[], [], []⟩, [], [], [], [], [], [], [], []⟩

def Ledger.linkedIds (ledger : Ledger) (attemptId : Uuid) : List Uuid :=
  (ledger.links.filter (fun link => link.1 = attemptId)).map Prod.snd

def Ledger.linked (ledger : Ledger) (attemptId : Uuid) : List ArtifactAdmissionCharge :=
  ledger.charges.filter (fun charge => (attemptId, charge.id) ∈ ledger.links)

variable (db : Database)

def Database.attempt (id : Uuid) : Option ArtifactPutAttempt :=
  Table.find ArtifactPutAttempt.id db.attempts id

def Database.job (id : Uuid) : Option ArtifactVerificationJob :=
  Table.find ArtifactVerificationJob.id db.jobs id

def Database.replica (id : Uuid) : Option ArtifactReplica :=
  Table.find ArtifactReplica.id db.replicas id

def Database.setAttempt (attempt : ArtifactPutAttempt) : Database :=
  { db with attempts := Table.replace ArtifactPutAttempt.id db.attempts attempt }

def Database.setJob (job : ArtifactVerificationJob) : Database :=
  { db with jobs := Table.replace ArtifactVerificationJob.id db.jobs job }

def Database.setReplica (replica : ArtifactReplica) : Database :=
  { db with replicas := Table.replace ArtifactReplica.id db.replicas replica }

end Workstream.Storage
