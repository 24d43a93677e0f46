import Workstream.Tasks.Imports
import Workstream.Foundation.Runs

/-!
# Concurrent import calls

`TaskImportBatchCommands.import_source` as a system of calls on one database. A call reads its source
and the file before it opens its transaction; the transaction then goes through the steps of the source,
and its rows are seen by the others only when it commits.
-/

namespace Workstream.Imports
open Foundation

/-- A call of `import_source`. -/
structure Call where
  actorProfileId : Uuid
  projectId : Uuid
  sourceId : Uuid
  idempotencyKey : Uuid

def Call.namespaceKey (call : Call) : Uuid × Uuid := (call.actorProfileId, call.idempotencyKey)

variable (world : World)

def Call.requestDigest (call : Call) : String :=
  world.digest (requestBody call.projectId call.sourceId)

/-- A row that is staged: its task, the receipt of the task's creation and its membership. -/
structure Staged where
  rowIndex : ℕ
  row : TaskImportRow
  task : WorkstreamTask
  receipt : TaskCommandReceipt
  member : TaskImportBatchMember

structure Work where
  call : Call
  facts : TaskImportSourceCommitment
  parsed : Option ParsedTaskImport
  command : Option TaskImportBatchCommandReceipt
  ownsCommand : Bool
  batch : Option TaskImportBatch
  ownsBatch : Bool
  staging : Bool
  remaining : List (TaskImportRow × ℕ)
  staged : List Staged
  outcome : Option TaskImportBatchResponse

variable (db : Database)

/-- `_preflight`, and `_read_first_import` unless the result can be recovered. -/
def preflight (call : Call) (authorized : Bool) :
    Except Refusal (TaskImportSourceCommitment × Option ParsedTaskImport) :=
  match Table.find TaskImportBatchCommandReceipt.namespaceKey db.commands call.namespaceKey with
  | some command => do
    let facts ← required (world.sourceCommitment command.projectId command.sourceId) .sourceUnavailable
    require (authorized = true) .denied
    pure (facts, none)
  | none => do
    let facts ← required (world.sourceCommitment call.projectId call.sourceId) .sourceUnavailable
    require (authorized = true) .denied
    match Table.find TaskImportBatch.file db.batches facts.file with
    | some _ => pure (facts, none)
    | none => do
      let parsed ← readFirstImport world facts
      pure (facts, some parsed)

def Work.begin (call : Call) (facts : TaskImportSourceCommitment) (parsed : Option ParsedTaskImport) :
    Work where
  call := call
  facts := facts
  parsed := parsed
  command := none
  ownsCommand := false
  batch := none
  ownsBatch := false
  staging := false
  remaining := []
  staged := []
  outcome := none

inductive Outcome where
  | wait
  | next (work : Work)
  | fail (error : Refusal)
  | done (db : Database) (response : TaskImportBatchResponse)

variable (work : Work)

abbrev Work.insertsCommand (key : Uuid × Uuid) : Prop :=
  work.ownsCommand = true ∧ ∃ command ∈ work.command, command.namespaceKey = key

abbrev Work.insertsBatch (file : Uuid × String × ℕ) : Prop :=
  work.ownsBatch = true ∧ ∃ batch ∈ work.batch, batch.file = file

def newCommand (id : Uuid) : TaskImportBatchCommandReceipt where
  id := id
  actorProfileId := work.call.actorProfileId
  idempotencyKey := work.call.idempotencyKey
  requestDigest := work.call.requestDigest world
  projectId := work.facts.projectId
  sourceId := work.facts.sourceId
  batchId := none
  response := none

def reserveCommand (others : List Work) (work : Work) (id : Uuid) : Outcome :=
  if work.command ≠ none ∨ ∃ other ∈ others, other.insertsCommand work.call.namespaceKey then .wait
  else
    match Table.find TaskImportBatchCommandReceipt.namespaceKey db.commands work.call.namespaceKey with
    | some command => .next { work with command := some command }
    | none => .next { work with command := some (newCommand world work id), ownsCommand := true }

def taskImportMappingVersion : String := "workstream.task_import.draft_mapping.v1"

def newBatch (call : Call) (facts : TaskImportSourceCommitment) (parsed : ParsedTaskImport)
    (command : TaskImportBatchCommandReceipt) (id : Uuid) (createdAt : ℕ) : TaskImportBatch where
  id := id
  projectId := facts.projectId
  sourceId := facts.sourceId
  creationCommandReceiptId := command.id
  sha256 := facts.sha256
  byteCount := facts.byteCount
  schemaVersion := parsed.document.schemaVersion
  mappingVersion := taskImportMappingVersion
  manifestDigest := world.digest parsed.document.dump
  rowCount := parsed.document.tasks.length
  actorProfileId := call.actorProfileId
  metadataLabel := parsed.document.label
  createdAt := createdAt
  response := none

/-- The batch of a file, inserted from the parsed document when there is none. -/
def selectBatch (others : List Work) (work : Work) (command : TaskImportBatchCommandReceipt)
    (facts : TaskImportSourceCommitment) (id : Uuid) (createdAt : ℕ) : Outcome :=
  match Table.find TaskImportBatch.file db.batches facts.file, work.parsed with
  | some batch, _ => .next { work with facts, batch := some batch }
  | none, none => .fail custodyInvalid
  | none, some parsed =>
    if ∃ other ∈ others, other.insertsBatch facts.file then .wait
    else .next { work with
      facts
      batch := some (newBatch world work.call facts parsed command id createdAt)
      ownsBatch := true }

/-- `_reserve_batch`, on the facts of the command that holds the key. -/
def reserveBatch (others : List Work) (work : Work) (id : Uuid) (createdAt : ℕ) : Outcome :=
  match work.command, work.batch with
  | some command, none =>
    match world.sourceCommitment command.projectId command.sourceId with
    | some facts => selectBatch world db others work command facts id createdAt
    | none => .fail .sourceUnavailable
  | _, _ => .wait

def sortedRows (document : TaskImportDocument) : List (TaskImportRow × ℕ) :=
  document.tasks.zipIdx.insertionSort (fun a b => utf8 a.1.externalTaskId ≤ utf8 b.1.externalTaskId)

abbrev WorkstreamTask.has (task : WorkstreamTask) (projectId : Uuid) (externalTaskId : String) : Prop :=
  task.projectId = projectId ∧ task.externalTaskId = some externalTaskId

def conflicts (projectId : Uuid) (document : TaskImportDocument) : List ℕ :=
  (document.tasks.zipIdx.filter (fun row =>
    ∃ task ∈ db.tasks, task.has projectId row.1.externalTaskId)).map Prod.snd

structure RowIds where
  taskId : Uuid
  receiptId : Uuid
  idempotencyKey : Uuid
  createdAt : ℕ

/-- `imported_task_payload` and the draft made of it. -/
def draftTask (call : Call) (batch : TaskImportBatch) (facts : TaskImportSourceCommitment)
    (row : TaskImportRow) (ids : RowIds) : WorkstreamTask where
  id := ids.taskId
  projectId := batch.projectId
  sourceType := "json_import"
  sourceRef := some ("task-import-source:" ++ facts.sourceId)
  sourcePayloadHash := some facts.sha256
  importBatchId := some batch.id
  externalTaskId := some row.externalTaskId
  fields := row.fields
  status := .draft
  createdBy := some call.actorProfileId
  createdAt := ids.createdAt

def stage (call : Call) (batch : TaskImportBatch) (facts : TaskImportSourceCommitment)
    (row : TaskImportRow) (index : ℕ) (ids : RowIds) : Staged :=
  let task := draftTask call batch facts row ids
  { rowIndex := index
    row
    task
    receipt := {
      id := ids.receiptId
      actorProfileId := call.actorProfileId
      actionId := "project.task.create"
      idempotencyKey := ids.idempotencyKey
      taskId := ids.taskId
      response := task }
    member := {
      batchId := batch.id
      projectId := batch.projectId
      taskId := task.id
      rowIndex := index
      externalTaskId := task.externalTaskId
      rowDigest := world.digest row.dump
      createIdempotencyKey := ids.idempotencyKey
      taskCommandReceiptId := ids.receiptId
      response := task } }

def externalIdConflict (indexes : List ℕ) : Refusal :=
  .batch "task_import_external_id_conflict" 409 indexes

/-- One turn of the loop of `_stage_rows`. -/
def stageRow (others : List Work) (work : Work) (ids : RowIds) : Outcome :=
  match work.batch, work.remaining with
  | some batch, (row, index) :: rest =>
    if ∃ other ∈ others, ∃ staged ∈ other.staged, staged.task.has batch.projectId row.externalTaskId then
      .wait
    else if (∃ task ∈ db.tasks, task.has batch.projectId row.externalTaskId) ∨
        ∃ staged ∈ work.staged, staged.task.has batch.projectId row.externalTaskId then
      .fail (externalIdConflict [index])
    else .next { work with
      remaining := rest
      staged := work.staged ++ [stage world work.call batch work.facts row index ids] }
  | _, _ => .wait

def creation (batch : TaskImportBatch) (staged : List Staged) : TaskImportBatchResponse where
  batchId := batch.id
  projectId := batch.projectId
  sourceId := batch.sourceId
  sha256 := batch.sha256
  byteCount := batch.byteCount
  schemaVersion := batch.schemaVersion
  mappingVersion := batch.mappingVersion
  label := batch.metadataLabel
  rowCount := batch.rowCount
  createdAt := batch.createdAt
  tasks := (List.range batch.rowCount).filterMap
    (fun index => (Table.find Staged.rowIndex staged index).map (·.task))

def Work.finish (batch : TaskImportBatch) (response : TaskImportBatchResponse) : Work :=
  { work with
    command := if work.ownsCommand then work.command.map (fun command =>
      { command with batchId := some batch.id, response := some response }) else work.command
    batch := some batch
    outcome := some response }

def concludeWith (command : TaskImportBatchCommandReceipt) (batch : TaskImportBatch) (authorized : Bool) :
    Except Refusal Work := do
  -- `_prepare_sources`
  let selected ← required (world.sourceCommitment command.projectId command.sourceId) .sourceUnavailable
  require (selected.sha256 = batch.sha256 ∧ selected.byteCount = batch.byteCount)
    (.batch "task_import_source_custody_invalid" 409 [])
  require (authorized = true) .denied
  require (command.requestDigest = work.call.requestDigest world)
    (.batch "task_import_idempotency_mismatch" 409 [])
  match command.response, batch.response with
  | some _, _ => do
    let original ← validate world db batch
    require (command.batchId = some batch.id ∧ command.response = some original) custodyInvalid
    pure (work.finish batch original)
  | none, some _ => do
    let original ← validate world db batch
    pure (work.finish batch original)
  | none, none => do
    let parsed ← required work.parsed custodyInvalid
    require (conflicts db batch.projectId parsed.document = [])
      (externalIdConflict (conflicts db batch.projectId parsed.document))
    pure { work with staging := true, remaining := sortedRows parsed.document }

def conclude (authorized : Bool) : Outcome :=
  match work.command, work.batch with
  | some command, some batch =>
    if work.staging = true ∨ work.outcome ≠ none then .wait
    else
      match concludeWith world db work command batch authorized with
      | .ok work => .next work
      | .error error => .fail error
  | _, _ => .wait

def finishRows : Outcome :=
  match work.batch with
  | some batch =>
    if work.staging = false ∨ work.remaining ≠ [] ∨ work.outcome ≠ none then .wait
    else
      let response := creation batch work.staged
      match checkCreation response with
      | .ok () => .next (work.finish { batch with response := some response } response)
      | .error error => .fail error
  | none => .wait

def Database.append : Database where
  tasks := db.tasks ++ work.staged.map (·.task)
  receipts := db.receipts ++ work.staged.map (·.receipt)
  batches := db.batches ++ if work.ownsBatch then work.batch.toList else []
  members := db.members ++ work.staged.map (·.member)
  commands := db.commands ++ if work.ownsCommand then work.command.toList else []

abbrev Database.Fresh : Prop :=
  ((db.append work).tasks.map (·.id)).Nodup ∧ ((db.append work).receipts.map (·.id)).Nodup ∧
    ((db.append work).batches.map (·.id)).Nodup ∧ ((db.append work).commands.map (·.id)).Nodup

/-- `accepted` is what the deferred checks of the database answer. -/
def commit (accepted : Bool) : Outcome :=
  match work.outcome with
  | none => .wait
  | some response =>
    if accepted = true ∧ db.Fresh work then .done (db.append work) response else .fail .integrity

/-- What an open call does next. -/
inductive Event where
  | reserveCommand (id : Uuid)
  | reserveBatch (id : Uuid) (createdAt : ℕ)
  | conclude (authorized : Bool)
  | stageRow (ids : RowIds)
  | finishRows
  | commit (accepted : Bool)
  | rollback

def advance (others : List Work) (work : Work) : Event → Outcome
  | .reserveCommand id => reserveCommand world db others work id
  | .reserveBatch id createdAt => reserveBatch world db others work id createdAt
  | .conclude authorized => conclude world db work authorized
  | .stageRow ids => stageRow world db others work ids
  | .finishRows => finishRows work
  | .commit accepted => commit db work accepted
  | .rollback => .fail .rolledBack

/-- The tables, the open calls and the answers. -/
structure State where
  db : Database
  works : List (ℕ × Work)
  results : List (Call × Except Refusal TaskImportBatchResponse)

/-- Calls and their events, and changes of tasks outside of imports. -/
inductive Action where
  | start (id : ℕ) (call : Call) (authorized : Bool)
  | advance (id : ℕ) (event : Event)
  /-- A task created outside an import. -/
  | createTask (task : WorkstreamTask)
  /-- Any later change of a task; its identity and its external id stay. -/
  | changeTask (id : Uuid) (change : WorkstreamTask → WorkstreamTask)

def State.start (s : State) (id : ℕ) (call : Call) (authorized : Bool) : State :=
  if id ∈ s.works.map Prod.fst then s
  else
    match preflight world s.db call authorized with
    | .ok (facts, parsed) => { s with works := s.works ++ [(id, Work.begin call facts parsed)] }
    | .error error => { s with results := s.results ++ [(call, .error error)] }

def State.others (s : State) (id : ℕ) : List (ℕ × Work) := s.works.filter (fun w => w.1 ≠ id)

def State.advance (s : State) (id : ℕ) (event : Event) : State :=
  match Table.find Prod.fst s.works id with
  | none => s
  | some (_, work) =>
    match Imports.advance world s.db ((s.others id).map Prod.snd) work event with
    | .wait => s
    | .next after => { s with works := s.others id ++ [(id, after)] }
    | .fail error => { s with works := s.others id, results := s.results ++ [(work.call, .error error)] }
    | .done db response => {
        db
        works := s.others id
        results := s.results ++ [(work.call, .ok response)] }

def changed (change : WorkstreamTask → WorkstreamTask) (task : WorkstreamTask) : WorkstreamTask :=
  { change task with id := task.id, projectId := task.projectId, externalTaskId := task.externalTaskId }

abbrev State.Free (s : State) (task : WorkstreamTask) : Prop :=
  task.id ∉ s.db.tasks.map (·.id) ∧ ∀ externalTaskId ∈ task.externalTaskId,
    (∀ other ∈ s.db.tasks, ¬other.has task.projectId externalTaskId) ∧
    ∀ work ∈ s.works, ∀ staged ∈ work.2.staged, ¬staged.task.has task.projectId externalTaskId

/-- One action; a call that has to wait does nothing. -/
def step (s : State) : Action → State
  | .start id call authorized => s.start world id call authorized
  | .advance id event => s.advance world id event
  | .createTask task =>
    if s.Free task then { s with db := { s.db with tasks := s.db.tasks ++ [task] } } else s
  | .changeTask id change => { s with db := { s.db with
      tasks := s.db.tasks.map (fun task => if task.id = id then changed change task else task) } }

def State.initial (tasks : List WorkstreamTask) : State := ⟨⟨tasks, [], [], [], []⟩, [], []⟩

end Workstream.Imports
