import Workstream.Core
import Workstream.Foundation.Checks
import Workstream.Foundation.Tables
import Workstream.Foundation.Utf8

/-!
# Task import batches

`tasks/task_import_batches.py` and `tasks/task_import_membership.py`: the rows of a task file, the
batch, members, tasks and receipts an import writes, and the validation that recovers the original
response of a committed batch.
-/

namespace Workstream.Imports
open Foundation

inductive Refusal where
  /-- `TaskImportBatchError` -/
  | batch (code : String) (statusCode : ℕ) (rowIndexes : List ℕ)
  | invalid (message : String)
  | sourceUnavailable
  | denied
  | integrity
  | rolledBack

def custodyInvalid : Refusal := .batch "task_import_batch_custody_invalid" 409 []

structure TaskInstructions where
  title : String
  description : String
  taskType : Option String
  difficulty : Option String
  skillTags : List String
  estimatedTimeMinutes : Option ℕ
  acceptanceCriteria : Option String
  rejectionCriteria : Option String
deriving DecidableEq

structure TaskImportRow where
  externalTaskId : String
  fields : TaskInstructions

structure TaskImportDocument where
  schemaVersion : String
  label : Option String
  tasks : List TaskImportRow

structure ParsedTaskImport where
  document : TaskImportDocument
  sha256 : String
  byteCount : ℕ

def optional (f : α → Json) (value : Option α) : Json := (value.map f).getD .null

def instructions (externalTaskId : Option String) (fields : TaskInstructions) : Json :=
  .obj [("external_task_id", optional .str externalTaskId), ("title", .str fields.title),
    ("description", .str fields.description), ("task_type", optional .str fields.taskType),
    ("difficulty", optional .str fields.difficulty), ("skill_tags", .arr (fields.skillTags.map .str)),
    ("estimated_time_minutes", optional (fun n : ℕ => .num n) fields.estimatedTimeMinutes),
    ("acceptance_criteria", optional .str fields.acceptanceCriteria),
    ("rejection_criteria", optional .str fields.rejectionCriteria)]

def TaskImportRow.dump (row : TaskImportRow) : Json := instructions (some row.externalTaskId) row.fields

def manifest (schemaVersion : String) (label : Option String) (tasks : List Json) : Json :=
  .obj [("schema_version", .str schemaVersion), ("metadata", .obj [("label", optional .str label)]),
    ("tasks", .arr tasks)]

def TaskImportDocument.dump (document : TaskImportDocument) : Json :=
  manifest document.schemaVersion document.label (document.tasks.map TaskImportRow.dump)

def duplicateRows : List String → ℕ → List TaskImportRow → List ℕ
  | _, _, [] => []
  | seen, index, row :: rows =>
    if row.externalTaskId ∈ seen then index :: duplicateRows seen (index + 1) rows
    else duplicateRows (row.externalTaskId :: seen) (index + 1) rows

/-- What ART has committed to for a source. -/
structure TaskImportSourceCommitment where
  sourceId : Uuid
  projectId : Uuid
  sha256 : String
  byteCount : ℕ
  operationIdentity : String

def requestBody (projectId sourceId : Uuid) : Json :=
  .obj [("project_id", .str projectId), ("source_id", .str sourceId)]

/-- What lies outside the task module: SHA-256, the JSON reader with the schema of a task file, and the
sources ART has committed, with their bytes. -/
structure World where
  sha256 : List ℕ → String
  decode : List ℕ → Except Refusal TaskImportDocument
  sources : List TaskImportSourceCommitment
  content : Uuid → List ℕ

/-- The bytes of the canonical text. -/
def encoded (value : Json) : List ℕ := (Json.render value.canon).flatMap utf8Char

theorem utf8_dumps (value : Json) : utf8 value.dumps = encoded value := by
  rw [utf8, Json.dumps, String.toList_ofList, encoded]

variable (world : World)

/-- `canonical_json_hash` -/
def World.digest (value : Json) : String := "sha256:" ++ world.sha256 (encoded value)

theorem World.digest_eq (value : Json) :
    world.digest value = canonicalJsonHash (fun text => world.sha256 (utf8 text)) value := by
  rw [World.digest, canonicalJsonHash, digestOf, utf8_dumps]

/-- `source_commitment` -/
def World.sourceCommitment (projectId sourceId : Uuid) : Option TaskImportSourceCommitment :=
  world.sources.find? (fun source => source.sourceId = sourceId ∧ source.projectId = projectId)

theorem World.sourceCommitment_ids {world : World} {projectId sourceId : Uuid}
    {facts : TaskImportSourceCommitment} (h : world.sourceCommitment projectId sourceId = some facts) :
    facts.projectId = projectId ∧ facts.sourceId = sourceId := by
  have hfound := List.find?_some h
  exact (of_decide_eq_true hfound).symm

theorem canon_requestBody (projectId sourceId : Uuid) :
    (requestBody projectId sourceId).canon = requestBody projectId sourceId := by
  rw [requestBody, Json.canon_obj_of_sorted]
  · rfl
  · simp only [List.map_cons, List.map_nil]
    decide

theorem distinctKeys_requestBody (projectId sourceId : Uuid) :
    (requestBody projectId sourceId).DistinctKeys := by
  simp [requestBody, Json.DistinctKeys, Json.DistinctKeysFields]

/-- The canonical text of a request names the project and the source. -/
theorem dumps_requestBody_injective {project source project' source' : Uuid}
    (h : (requestBody project source).dumps = (requestBody project' source').dumps) :
    project = project' ∧ source = source' := by
  have hcanon := Json.canon_eq_of_dumps_eq (distinctKeys_requestBody _ _)
    (distinctKeys_requestBody _ _) h
  rw [canon_requestBody, canon_requestBody] at hcanon
  simpa [requestBody] using hcanon

def taskImportMaximumBytes : ℕ := 8 * 1024 * 1024

def parseTaskImport (raw : List ℕ) : Except Refusal ParsedTaskImport := do
  require (0 < raw.length ∧ raw.length ≤ taskImportMaximumBytes)
    (.invalid "task-import JSON must contain 1..8388608 bytes")
  let document ← world.decode raw
  require (duplicateRows [] 0 document.tasks = []) (.invalid "external_task_id duplicates row")
  pure ⟨document, "sha256:" ++ world.sha256 raw, raw.length⟩

def readFirstImport (facts : TaskImportSourceCommitment) : Except Refusal ParsedTaskImport := do
  require ((world.content facts.sourceId).length ≤ taskImportMaximumBytes)
    (.batch "task_import_source_limit_exceeded" 413 [])
  let parsed ← parseTaskImport world (world.content facts.sourceId)
  require (parsed.sha256 = facts.sha256 ∧ parsed.byteCount = facts.byteCount)
    (.batch "task_import_source_custody_invalid" 409 [])
  pure parsed

inductive TaskStatus where
  | draft
  | other (status : String)
deriving DecidableEq

/-- A task row, and the response that shows it to a manager. -/
structure WorkstreamTask where
  id : Uuid
  projectId : Uuid
  sourceType : String
  sourceRef : Option String
  sourcePayloadHash : Option String
  importBatchId : Option String
  externalTaskId : Option String
  fields : TaskInstructions
  status : TaskStatus
  createdBy : Option Uuid
  createdAt : ℕ
deriving DecidableEq

def WorkstreamTask.instructions (task : WorkstreamTask) : Json :=
  Imports.instructions task.externalTaskId task.fields

structure TaskImportBatchResponse where
  batchId : Uuid
  projectId : Uuid
  sourceId : Uuid
  sha256 : String
  byteCount : ℕ
  schemaVersion : String
  mappingVersion : String
  label : Option String
  rowCount : ℕ
  createdAt : ℕ
  tasks : List WorkstreamTask
deriving DecidableEq

structure TaskCommandReceipt where
  id : Uuid
  actorProfileId : Uuid
  actionId : String
  idempotencyKey : Uuid
  taskId : Uuid
  response : WorkstreamTask

structure TaskImportBatchMember where
  batchId : Uuid
  projectId : Uuid
  taskId : Uuid
  rowIndex : ℕ
  externalTaskId : Option String
  rowDigest : String
  createIdempotencyKey : Uuid
  taskCommandReceiptId : Uuid
  response : WorkstreamTask

/-- A batch is pending while it has no response. -/
structure TaskImportBatch where
  id : Uuid
  projectId : Uuid
  sourceId : Uuid
  creationCommandReceiptId : Uuid
  sha256 : String
  byteCount : ℕ
  schemaVersion : String
  mappingVersion : String
  manifestDigest : String
  rowCount : ℕ
  actorProfileId : Uuid
  metadataLabel : Option String
  createdAt : ℕ
  response : Option TaskImportBatchResponse

/-- A command is pending while it has no response. -/
structure TaskImportBatchCommandReceipt where
  id : Uuid
  actorProfileId : Uuid
  idempotencyKey : Uuid
  requestDigest : String
  projectId : Uuid
  sourceId : Uuid
  batchId : Option Uuid
  response : Option TaskImportBatchResponse

structure Database where
  tasks : List WorkstreamTask
  receipts : List TaskCommandReceipt
  batches : List TaskImportBatch
  members : List TaskImportBatchMember
  commands : List TaskImportBatchCommandReceipt

/-- `uq_task_import_batch_file` -/
def TaskImportBatch.file (batch : TaskImportBatch) : Uuid × String × ℕ :=
  (batch.projectId, batch.sha256, batch.byteCount)

def TaskImportSourceCommitment.file (facts : TaskImportSourceCommitment) : Uuid × String × ℕ :=
  (facts.projectId, facts.sha256, facts.byteCount)

/-- `uq_task_import_command_namespace` -/
def TaskImportBatchCommandReceipt.namespaceKey (command : TaskImportBatchCommandReceipt) : Uuid × Uuid :=
  (command.actorProfileId, command.idempotencyKey)

/-- `original_creation_custody` -/
def checkCreation (response : TaskImportBatchResponse) : Except Refusal Unit := do
  require (response.tasks.length = response.rowCount ∧ (response.tasks.map (·.id)).Nodup)
    (.invalid "batch creation result has invalid membership")
  require ((∀ task ∈ response.tasks, task.externalTaskId ≠ none) ∧
    (response.tasks.map (·.externalTaskId)).Nodup)
    (.invalid "batch creation result has invalid external IDs")
  require (∀ task ∈ response.tasks, task.projectId = response.projectId ∧ task.status = .draft ∧
    task.sourceType = "json_import" ∧
    task.sourceRef = some ("task-import-source:" ++ response.sourceId) ∧
    task.sourcePayloadHash = some response.sha256 ∧ task.importBatchId = some response.batchId)
    (.invalid "batch creation result differs from original custody")

def memberRows (db : Database) (batch : TaskImportBatch) :
    List (TaskImportBatchMember × TaskCommandReceipt) :=
  ((db.members.filter (fun member => member.batchId = batch.id)).insertionSort
    (fun a b => a.rowIndex ≤ b.rowIndex)).filterMap (fun member =>
      (Table.find TaskCommandReceipt.id db.receipts member.taskCommandReceiptId).map
        (fun receipt => (member, receipt)))

abbrev memberValid (batch : TaskImportBatch) (original : WorkstreamTask) (index : ℕ)
    (row : TaskImportBatchMember × TaskCommandReceipt) : Prop :=
  row.1.rowIndex = index ∧ row.1.projectId = batch.projectId ∧ row.1.taskId = original.id ∧
    row.1.externalTaskId = original.externalTaskId ∧
    row.1.rowDigest = world.digest original.instructions ∧ row.1.response = original ∧
    row.2.response = row.1.response ∧ row.2.actionId = "project.task.create" ∧
    row.2.taskId = row.1.taskId ∧ row.2.actorProfileId = batch.actorProfileId ∧
    row.2.idempotencyKey = row.1.createIdempotencyKey ∧
    original.createdBy = some batch.actorProfileId

def checkMembers (batch : TaskImportBatch) :
    ℕ → List WorkstreamTask → List (TaskImportBatchMember × TaskCommandReceipt) → Except Refusal Unit
  | _, _, [] => pure ()
  | _, [], _ :: _ => .error custodyInvalid
  | index, original :: originals, row :: rows => do
    require (memberValid world batch original index row) custodyInvalid
    checkMembers batch (index + 1) originals rows

/-- `TaskImportMembership.validate`, up to the creation facts it recovers. -/
def validate (db : Database) (batch : TaskImportBatch) : Except Refusal TaskImportBatchResponse := do
  let response ← required batch.response custodyInvalid
  checkCreation response
  require (response.batchId = batch.id ∧ response.projectId = batch.projectId ∧
    response.sourceId = batch.sourceId ∧ response.sha256 = batch.sha256 ∧
    response.byteCount = batch.byteCount ∧ response.rowCount = batch.rowCount ∧
    response.schemaVersion = batch.schemaVersion ∧ response.mappingVersion = batch.mappingVersion ∧
    response.createdAt = batch.createdAt) custodyInvalid
  require ((memberRows db batch).length = batch.rowCount) custodyInvalid
  require (response.label = batch.metadataLabel ∧
    world.digest (manifest response.schemaVersion response.label
      (response.tasks.map WorkstreamTask.instructions)) = batch.manifestDigest) custodyInvalid
  checkMembers world batch 0 response.tasks (memberRows db batch)
  pure response

end Workstream.Imports
