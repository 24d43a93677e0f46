import Workstream.Tasks.ImportCalls

/-!
# What a finished import has stored

The rows of a file are staged in the order of their external ids and answered in the order of the file.
-/

namespace Workstream.Imports
open Foundation

def inOrder (staged : List Staged) (rowCount : ℕ) : List Staged :=
  (List.range rowCount).filterMap (fun index => Table.find Staged.rowIndex staged index)

def RowsOf (document : TaskImportDocument) (staged : List Staged) : Prop :=
  staged.map (fun s => (s.row, s.rowIndex)) = sortedRows document

variable {document : TaskImportDocument} {staged : List Staged}

theorem sortedRows_perm (document : TaskImportDocument) :
    (sortedRows document).Perm document.tasks.zipIdx :=
  List.perm_insertionSort _ _

theorem RowsOf.indexes_perm (h : RowsOf document staged) :
    (staged.map (·.rowIndex)).Perm (List.range document.tasks.length) := by
  have hmap : staged.map (·.rowIndex) = (sortedRows document).map Prod.snd := by
    rw [← h, List.map_map]
    rfl
  rw [hmap]
  refine ((sortedRows_perm document).map Prod.snd).trans ?_
  rw [List.zipIdx_map_snd, List.range_eq_range']

theorem RowsOf.indexes_nodup (h : RowsOf document staged) : (staged.map (·.rowIndex)).Nodup :=
  h.indexes_perm.nodup_iff.mpr List.nodup_range

theorem RowsOf.length_eq (h : RowsOf document staged) : staged.length = document.tasks.length := by
  simpa using h.indexes_perm.length_eq

theorem RowsOf.find_eq (h : RowsOf document staged) {index : ℕ} (hindex : index < document.tasks.length) :
    ∃ s ∈ staged, s.rowIndex = index ∧ Table.find Staged.rowIndex staged index = some s := by
  have hmem : index ∈ staged.map (·.rowIndex) :=
    h.indexes_perm.mem_iff.mpr (List.mem_range.mpr hindex)
  obtain ⟨s, hs, rfl⟩ := List.mem_map.mp hmem
  exact ⟨s, hs, rfl, Table.find_of_mem h.indexes_nodup hs⟩

theorem RowsOf.indexes_inOrder (h : RowsOf document staged) :
    (inOrder staged document.tasks.length).map (·.rowIndex) = List.range document.tasks.length := by
  have hall : ∀ indexes : List ℕ, (∀ i ∈ indexes, i < document.tasks.length) →
      (indexes.filterMap (fun i => Table.find Staged.rowIndex staged i)).map (·.rowIndex) = indexes := by
    intro indexes
    induction indexes with
    | nil => exact fun _ => rfl
    | cons i indexes ih =>
      intro hindexes
      obtain ⟨hi, hrest⟩ := List.forall_mem_cons.mp hindexes
      obtain ⟨s, -, hs, hfind⟩ := h.find_eq hi
      rw [List.filterMap_cons_some hfind, List.map_cons, ih hrest, hs]
  exact hall _ (fun i hi => List.mem_range.mp hi)

theorem mem_of_mem_inOrder {s : Staged} {rowCount : ℕ} (h : s ∈ inOrder staged rowCount) : s ∈ staged := by
  obtain ⟨i, -, hfind⟩ := List.mem_filterMap.mp h
  exact (Table.find_eq_some hfind).1

theorem RowsOf.inOrder_perm (h : RowsOf document staged) :
    (inOrder staged document.tasks.length).Perm staged := by
  have hnodup : (inOrder staged document.tasks.length).Nodup := by
    apply List.Nodup.of_map (·.rowIndex)
    rw [h.indexes_inOrder]
    exact List.nodup_range
  have hlength : staged.length ≤ (inOrder staged document.tasks.length).length := by
    have hlen := congrArg List.length h.indexes_inOrder
    rw [List.length_map, List.length_range] at hlen
    rw [hlen, h.length_eq]
  exact (List.subperm_of_subset hnodup (fun s hs => mem_of_mem_inOrder hs)).perm_of_length_le hlength

theorem eq_of_perm_of_ordered {α : Type} {key : α → ℕ} {l₁ l₂ : List α} (hperm : l₁.Perm l₂)
    (hnodup : (l₁.map key).Nodup) (h₁ : l₁.Pairwise (fun a b => key a ≤ key b))
    (h₂ : l₂.Pairwise (fun a b => key a ≤ key b)) : l₁ = l₂ := by
  refine List.Perm.eq_of_pairwise (fun a b ha hb hab hba => ?_) h₁ h₂ hperm
  exact List.inj_on_of_nodup_map hnodup ha (hperm.mem_iff.mpr hb) (le_antisymm hab hba)

theorem pairwise_of_map_range {α : Type} {key : α → ℕ} {l : List α} {n : ℕ} (h : l.map key = List.range n) :
    l.Pairwise (fun a b => key a ≤ key b) := by
  rw [← List.pairwise_map, h]
  exact List.pairwise_le_range

/-- In the order of the file the staged rows are the rows of the file. -/
theorem RowsOf.pairs_inOrder (h : RowsOf document staged) :
    (inOrder staged document.tasks.length).map (fun s => (s.row, s.rowIndex)) =
      document.tasks.zipIdx := by
  have hperm : ((inOrder staged document.tasks.length).map (fun s => (s.row, s.rowIndex))).Perm
      document.tasks.zipIdx :=
    ((h.inOrder_perm.map _).trans (List.Perm.of_eq h)).trans (sortedRows_perm document)
  have hkeys : ((inOrder staged document.tasks.length).map (fun s => (s.row, s.rowIndex))).map Prod.snd =
      List.range document.tasks.length := by
    rw [List.map_map]
    exact h.indexes_inOrder
  have hzip : document.tasks.zipIdx.map Prod.snd = List.range document.tasks.length := by
    rw [List.zipIdx_map_snd, List.range_eq_range']
  exact eq_of_perm_of_ordered hperm (hkeys ▸ List.nodup_range) (pairwise_of_map_range hkeys)
    (pairwise_of_map_range hzip)

theorem RowsOf.rows_inOrder (h : RowsOf document staged) :
    (inOrder staged document.tasks.length).map (·.row) = document.tasks := by
  have hrows := congrArg (List.map Prod.fst) h.pairs_inOrder
  rwa [List.map_map, List.zipIdx_map_fst] at hrows

structure Imported (world : World) (call : Call) (facts : TaskImportSourceCommitment)
    (parsed : ParsedTaskImport) (batch : TaskImportBatch) (staged : List Staged) : Prop where
  source : world.sourceCommitment batch.projectId batch.sourceId = some facts
  read : readFirstImport world facts = .ok parsed
  batch_eq : ∃ command id createdAt, batch = { newBatch world call facts parsed command id createdAt with
    response := some (creation batch staged) }
  rows : RowsOf parsed.document staged
  shape : ∀ s ∈ staged, ∃ ids, s = stage world call batch facts s.row s.rowIndex ids
  check : checkCreation (creation batch staged) = .ok ()

structure Stored (db : Database) (batch : TaskImportBatch) (staged : List Staged) : Prop where
  members : db.members.filter (fun member => member.batchId = batch.id) = staged.map (·.member)
  receipts : ∀ s ∈ staged, Table.find TaskCommandReceipt.id db.receipts s.receipt.id = some s.receipt
  tasks : ∀ s ∈ staged, ∃ task ∈ db.tasks, task.id = s.task.id ∧ task.projectId = s.task.projectId ∧
    task.externalTaskId = s.task.externalTaskId

variable {world : World} {call : Call} {facts : TaskImportSourceCommitment} {parsed : ParsedTaskImport}
  {batch : TaskImportBatch} {db : Database}

theorem Imported.rowCount_eq (h : Imported world call facts parsed batch staged) :
    batch.rowCount = parsed.document.tasks.length := by
  obtain ⟨command, id, createdAt, hbatch⟩ := h.batch_eq
  exact congrArg TaskImportBatch.rowCount hbatch

theorem creation_tasks (batch : TaskImportBatch) (staged : List Staged) :
    (creation batch staged).tasks = (inOrder staged batch.rowCount).map (·.task) := by
  rw [inOrder, List.map_filterMap]
  rfl

theorem filterMap_receipts {rows : List Staged}
    (h : ∀ s ∈ rows, s.member.taskCommandReceiptId = s.receipt.id ∧
      Table.find TaskCommandReceipt.id db.receipts s.receipt.id = some s.receipt) :
    (rows.map (·.member)).filterMap (fun member =>
      (Table.find TaskCommandReceipt.id db.receipts member.taskCommandReceiptId).map
        (fun receipt => (member, receipt))) = rows.map (fun s => (s.member, s.receipt)) := by
  induction rows with
  | nil => rfl
  | cons s rows ih =>
    obtain ⟨⟨hid, hfind⟩, hrest⟩ := List.forall_mem_cons.mp h
    rw [List.map_cons, List.map_cons, List.filterMap_cons_some (b := (s.member, s.receipt))
      (by rw [hid, hfind]; rfl), ih hrest]

/-- The stored members of a finished import, joined with their receipts and in row order. -/
theorem memberRows_eq (h : Imported world call facts parsed batch staged) (hstored : Stored db batch staged) :
    memberRows db batch = (inOrder staged batch.rowCount).map (fun s => (s.member, s.receipt)) := by
  rw [h.rowCount_eq]
  have hshape : ∀ s ∈ staged, s.member.rowIndex = s.rowIndex ∧
      s.member.taskCommandReceiptId = s.receipt.id := by
    intro s hs
    obtain ⟨ids, heq⟩ := h.shape s hs
    rw [heq]
    exact ⟨rfl, rfl⟩
  have hkeys : ((inOrder staged parsed.document.tasks.length).map (·.member)).map (·.rowIndex) =
      List.range parsed.document.tasks.length := by
    rw [List.map_map, ← h.rows.indexes_inOrder]
    exact List.map_congr_left (fun s hs => (hshape s (mem_of_mem_inOrder hs)).1)
  have hperm := (h.rows.inOrder_perm.map (·.member)).symm
  have hsorted : (staged.map (·.member)).insertionSort (fun a b => a.rowIndex ≤ b.rowIndex) =
      (inOrder staged parsed.document.tasks.length).map (·.member) := by
    have hp := (List.perm_insertionSort (fun a b : TaskImportBatchMember => a.rowIndex ≤ b.rowIndex)
      (staged.map (·.member))).trans hperm
    refine eq_of_perm_of_ordered hp ?_ (List.pairwise_insertionSort _ _) (pairwise_of_map_range hkeys)
    rw [(hp.map _).nodup_iff, hkeys]
    exact List.nodup_range
  rw [memberRows, hstored.members, hsorted]
  exact filterMap_receipts (fun s hs =>
    ⟨(hshape s (mem_of_mem_inOrder hs)).2, hstored.receipts s (mem_of_mem_inOrder hs)⟩)

theorem checkMembers_eq {rows : List Staged} (index : ℕ)
    (hindex : rows.map (·.rowIndex) = List.range' index rows.length)
    (h : ∀ s ∈ rows, memberValid world batch s.task s.rowIndex (s.member, s.receipt)) :
    checkMembers world batch index (rows.map (·.task)) (rows.map (fun s => (s.member, s.receipt))) =
      .ok () := by
  induction rows generalizing index with
  | nil => rfl
  | cons s rows ih =>
    obtain ⟨hs, hrest⟩ := List.forall_mem_cons.mp h
    rw [List.map_cons, List.length_cons, List.range'_succ, List.cons.injEq] at hindex
    rw [hindex.1] at hs
    simp only [List.map_cons, checkMembers, eq_ok]
    exact ⟨(), hs, ih (index + 1) hindex.2 hrest⟩

theorem Imported.memberValid (h : Imported world call facts parsed batch staged) {s : Staged}
    (hs : s ∈ staged) : memberValid world batch s.task s.rowIndex (s.member, s.receipt) := by
  obtain ⟨command, id, createdAt, hbatch⟩ := h.batch_eq
  have hactor : batch.actorProfileId = call.actorProfileId := congrArg TaskImportBatch.actorProfileId hbatch
  obtain ⟨ids, heq⟩ := h.shape s hs
  rw [heq]
  exact ⟨rfl, rfl, rfl, rfl, rfl, rfl, rfl, rfl, rfl, hactor.symm, rfl, by rw [hactor]; rfl⟩

/-- The instructions of the answered tasks are those of the file. -/
theorem Imported.instructions_eq (h : Imported world call facts parsed batch staged) :
    (creation batch staged).tasks.map WorkstreamTask.instructions =
      parsed.document.tasks.map TaskImportRow.dump := by
  rw [creation_tasks, h.rowCount_eq, List.map_map]
  conv_rhs => rw [← h.rows.rows_inOrder, List.map_map]
  apply List.map_congr_left
  intro s hs
  obtain ⟨ids, heq⟩ := h.shape s (mem_of_mem_inOrder hs)
  rw [heq]
  rfl

/-- Validation gives the original response of a stored import back. -/
theorem Stored.validate_eq (hstored : Stored db batch staged)
    (h : Imported world call facts parsed batch staged) :
    validate world db batch = .ok (creation batch staged) := by
  obtain ⟨command, id, createdAt, hbatch⟩ := h.batch_eq
  have hresp : batch.response = some (creation batch staged) :=
    congrArg TaskImportBatch.response hbatch
  have hman : batch.manifestDigest = world.digest parsed.document.dump :=
    congrArg TaskImportBatch.manifestDigest hbatch
  have hver : batch.schemaVersion = parsed.document.schemaVersion :=
    congrArg TaskImportBatch.schemaVersion hbatch
  have hlabel : batch.metadataLabel = parsed.document.label :=
    congrArg TaskImportBatch.metadataLabel hbatch
  have hlength : (inOrder staged batch.rowCount).length = batch.rowCount := by
    have hlen := congrArg List.length h.rows.indexes_inOrder
    rwa [List.length_map, List.length_range, ← h.rowCount_eq] at hlen
  have hindexes : (inOrder staged batch.rowCount).map (·.rowIndex) =
      List.range' 0 (inOrder staged batch.rowCount).length := by
    rw [hlength, h.rowCount_eq, h.rows.indexes_inOrder, List.range_eq_range']
  simp only [validate, eq_ok]
  refine ⟨_, hresp, (), h.check, (), ⟨rfl, rfl, rfl, rfl, rfl, rfl, rfl, rfl, rfl⟩, (), ?_, (),
    ⟨rfl, ?_⟩, (), ?_, rfl⟩
  · rw [memberRows_eq h hstored, List.length_map, hlength]
  · rw [h.instructions_eq, hman, TaskImportDocument.dump, ← hver, ← hlabel]
    rfl
  · rw [creation_tasks, memberRows_eq h hstored]
    exact checkMembers_eq 0 hindexes (fun s hs => h.memberValid (mem_of_mem_inOrder hs))

end Workstream.Imports
