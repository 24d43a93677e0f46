import Workstream.Storage.Rows

/-!
# Durable-byte admission

`ArtifactAdmissionService.admit`: every scope of a request is charged once for a content, and a put
attempt is created with the links to its charges.
-/

namespace Workstream.Storage
open Foundation

variable (ledger : Ledger)

def Ledger.charge (id : Uuid) : Option ArtifactAdmissionCharge :=
  Table.find ArtifactAdmissionCharge.id ledger.charges id

def Ledger.scope (key : ScopeKey) : Option ArtifactAdmissionScope :=
  Table.find ArtifactAdmissionScope.key ledger.scopes key

def Ledger.setCharge (charge : ArtifactAdmissionCharge) : Ledger :=
  { ledger with charges := Table.replace ArtifactAdmissionCharge.id ledger.charges charge }

def Ledger.setScope (scope : ArtifactAdmissionScope) : Ledger :=
  { ledger with scopes := Table.replace ArtifactAdmissionScope.key ledger.scopes scope }

/-- One turn of the loop of `_record_put_absence`. -/
def Ledger.release (now : ℕ) (ledger : Ledger) (id : Uuid) : Except Failure Ledger :=
  match ledger.charge id with
  | none => pure ledger
  | some charge =>
    if charge.state = .provisional then do
      let scope ← required (ledger.scope charge.scope) .integrity
      -- `counted_bytes_within_limit`
      require (charge.byteCount ≤ scope.countedBytes) .integrity
      pure ((ledger.setCharge { charge with state := .released, releasedAt := some now }).setScope
        { scope with countedBytes := scope.countedBytes - charge.byteCount })
    else pure ledger

/-- One turn of the loop of `execute_committed_put` over the charges of a replay. -/
def Ledger.reacquire (id : Uuid) : Except Failure Ledger :=
  match ledger.charge id with
  | none => pure ledger
  | some charge =>
    if charge.state = .released then do
      let scope ← required (ledger.scope charge.scope) .integrity
      require (scope.countedBytes + charge.byteCount ≤ scope.limitBytes)
        (.capacity "artifact replay cannot reacquire durable-byte capacity")
      pure ((ledger.setCharge { charge with state := .provisional, releasedAt := none }).setScope
        { scope with countedBytes := scope.countedBytes + charge.byteCount })
    else pure ledger

/-- One turn of the loops that complete the charges of an attempt, as an observer reads them. -/
def Ledger.complete (now : ℕ) (ledger : Ledger) (id : Uuid) : Except Failure Ledger :=
  match ledger.charge id with
  | none => pure ledger
  | some charge =>
    if charge.state = .provisional then
      pure (ledger.setCharge { charge with state := .completed, completedAt := some now })
    else pure ledger

/-- The same for a charge that the session of the caller read as provisional at its claim: the
session keeps what it read, whatever another transaction has made of the row since. -/
def Ledger.completeSeen (now : ℕ) (ledger : Ledger) (id : Uuid) : Except Failure Ledger :=
  match ledger.charge id with
  | none => pure ledger
  | some charge => do
    let completed := { charge with state := .completed, completedAt := some now }
    require completed.Stamped .integrity
    pure (ledger.setCharge completed)

structure ScopeSpec where
  key : ScopeKey
  limitBytes : ℕ

inductive ProducerType where
  | actorProfile
  | serviceIdentity

def ProducerType.text : ProducerType → String
  | .actorProfile => "actor_profile"
  | .serviceIdentity => "service_identity"

structure AdmissionLimits where
  task : ℕ
  producer : ℕ
  project : ℕ
  deployment : ℕ

structure AdmissionFacts where
  requestType : ProducerRequestType
  producerType : ProducerType
  producerRef : String
  projectId : Uuid
  taskId : Option Uuid
  submissionId : Option Uuid
  operationIdentity : String
  requestDigest : String
  sha256 : String
  byteCount : ℕ

def artifactStorageNamespaceId : String := "primary"

/-- `_derive_scopes`, in the order of the scope types. -/
def deriveScopes (limits : AdmissionLimits) (facts : AdmissionFacts) : List ScopeSpec :=
  [⟨(.deployment, artifactStorageNamespaceId), limits.deployment⟩,
    ⟨(.producer, facts.producerType.text ++ ":" ++ facts.producerRef), limits.producer⟩,
    ⟨(.project, facts.projectId), limits.project⟩] ++
    facts.taskId.toList.map (fun taskId => ⟨(.task, taskId), limits.task⟩)

/-- `ensure_and_lock_admission_scopes`: one missing counter. -/
def Ledger.ensureScope (spec : ScopeSpec) : Ledger :=
  match ledger.scope spec.key with
  | some _ => ledger
  | none => { ledger with scopes := ledger.scopes ++ [⟨spec.key, spec.limitBytes, 0⟩] }

/-- `get_admission_charge` -/
def Ledger.contentCharge (content : ScopeKey × String × ℕ) : Option ArtifactAdmissionCharge :=
  Table.find ArtifactAdmissionCharge.content ledger.charges content

def Ledger.adoptLimit (spec : ScopeSpec) : Except Failure Ledger := do
  let counter ← required (ledger.scope spec.key)
    (.configuration "artifact admission scope set is incomplete")
  if counter.limitBytes = spec.limitBytes then pure ledger
  else do
    require (counter.countedBytes ≤ spec.limitBytes)
      (.configuration "artifact admission configured limit is below counted bytes")
    pure (ledger.setScope { counter with limitBytes := spec.limitBytes })

def Ledger.chargeNew (spec : ScopeSpec) (facts : AdmissionFacts) (id : Uuid) :
    Except Failure (Ledger × Uuid) := do
  let counter ← required (ledger.scope spec.key)
    (.configuration "artifact admission scope set is incomplete")
  require (counter.countedBytes + facts.byteCount ≤ counter.limitBytes)
    (.capacity ("artifact durable-byte limit exceeded for " ++ spec.key.1.text ++ " scope"))
  let ledger := ledger.setScope { counter with countedBytes := counter.countedBytes + facts.byteCount }
  match ledger.contentCharge (spec.key, facts.sha256, facts.byteCount) with
  | some charge => pure (ledger.setCharge { charge with state := .provisional, releasedAt := none },
      charge.id)
  | none => do
    require (ledger.charge id = none) .integrity
    pure ({ ledger with charges := ledger.charges ++
      [⟨id, spec.key, facts.sha256, facts.byteCount, .provisional, none, none⟩] }, id)

/-- One turn of the loop of `_reserve_charges`: the charge of the content in one scope. -/
def Ledger.reserve (spec : ScopeSpec) (facts : AdmissionFacts) (id : Uuid) :
    Except Failure (Ledger × Uuid) := do
  let ledger ← ledger.adoptLimit spec
  match ledger.contentCharge (spec.key, facts.sha256, facts.byteCount) with
  | some charge =>
    if charge.state = .released then ledger.chargeNew spec facts id else pure (ledger, charge.id)
  | none => ledger.chargeNew spec facts id

def Ledger.reserveCharges (facts : AdmissionFacts) (ledger : Ledger) :
    List (ScopeSpec × Uuid) → Except Failure (Ledger × List Uuid)
  | [] => pure (ledger, [])
  | (spec, id) :: rest => do
    let (ledger, charge) ← ledger.reserve spec facts id
    let (ledger, charges) ← ledger.reserveCharges facts rest
    pure (ledger, charge :: charges)

structure AdmissionRequest where
  facts : AdmissionFacts
  limits : AdmissionLimits
  maximumObservations : ℕ
  attemptId : Uuid
  chargeIds : List Uuid

def configuredLimits (limits : AdmissionLimits) : Except Failure Unit :=
  require (0 < limits.task ∧ 0 < limits.producer ∧ 0 < limits.project ∧ 0 < limits.deployment)
    (.configuration "artifact durable-byte admission is not configured")

def artifactProviderObjectRef (sha256 : String) : String :=
  String.ofList ("sha256/".toList ++ (sha256.toList.drop 7).take 2 ++ "/".toList ++ sha256.toList.drop 9)

def newAttempt (request : AdmissionRequest) : ArtifactPutAttempt where
  id := request.attemptId
  producerRequestType := request.facts.requestType
  projectId := request.facts.projectId
  taskId := request.facts.taskId
  submissionId := request.facts.submissionId
  sha256 := request.facts.sha256
  byteCount := request.facts.byteCount
  canonicalTarget := artifactProviderObjectRef request.facts.sha256
  operationIdentity := request.facts.operationIdentity
  requestDigest := request.facts.requestDigest
  status := .prepared
  nextRunAt := none
  executorId := none
  leaseExpiresAt := none
  executionGeneration := 0
  executionMode := none
  observationCount := 0
  maximumObservations := request.maximumObservations
  terminalResultCode := none
  replicaId := none
  receiptId := none
  terminalAt := none

def existingAttempt (db : Database) (facts : AdmissionFacts) :
    Except Failure (Option ArtifactPutAttempt) :=
  match Table.find ArtifactPutAttempt.operationIdentity db.attempts facts.operationIdentity with
  | none => pure none
  | some existing => do
    require (existing.requestDigest = facts.requestDigest)
      (.conflict "artifact admission operation input changed")
    pure (some existing)

/-- `admit`, after the authorities and the relationships of the request have been found valid. -/
def admitArtifact (db : Database) (request : AdmissionRequest) : Except Failure (Database × Uuid) := do
  configuredLimits request.limits
  let scopes := deriveScopes request.limits request.facts
  require (request.chargeIds.length = scopes.length) .integrity
  let replay ← existingAttempt db request.facts
  let (ledger, charges) ← (scopes.foldl Ledger.ensureScope db.ledger).reserveCharges request.facts
    (scopes.zip request.chargeIds)
  match replay with
  | some attempt => do
    require ((db.ledger.linkedIds attempt.id).Perm charges)
      (.configuration "artifact admission replay charge set is incomplete")
    pure ({ db with ledger }, attempt.id)
  | none => do
    require (db.attempt request.attemptId = none ∧ 0 < request.maximumObservations) .integrity
    pure ({ db with
      ledger := { ledger with
        links := ledger.links ++ charges.map (fun charge => (request.attemptId, charge)) }
      attempts := db.attempts ++ [newAttempt request] }, request.attemptId)

end Workstream.Storage
