import Workstream.Tasks.ImportSteps
import Mathlib.Data.List.Induction

/-! # A task file is imported once -/

namespace Workstream.Imports
open Foundation

variable {world : World} {db db' : Database} {work other : Work} {batch : TaskImportBatch}
  {staged : List Staged}

def Work.newBatches (work : Work) : List TaskImportBatch :=
  if work.ownsBatch then work.batch.toList else []

def Work.newCommands (work : Work) : List TaskImportBatchCommandReceipt :=
  if work.ownsCommand then work.command.toList else []

section Owned

variable {α : Type} {owns : Bool} {row : Option α}

/-- The row of a table that a call adds, if it inserted it itself. -/
theorem mem_owned {x : α} : x ∈ (if owns then row.toList else []) ↔ owns = true ∧ row = some x := by
  cases owns with
  | true => simp [Option.mem_toList]
  | false => simp

theorem owned_cases :
    (if owns then row.toList else []) = [] ∨ ∃ x, (if owns then row.toList else []) = [x] := by
  cases owns with
  | true =>
    cases row with
    | none => exact .inl rfl
    | some x => exact .inr ⟨x, rfl⟩
  | false => exact .inl rfl

end Owned

variable {command : TaskImportBatchCommandReceipt} {parsed : ParsedTaskImport}
  {response : TaskImportBatchResponse} {tasks : List WorkstreamTask} {id : ℕ} {call : Call}

theorem append_batches (db : Database) (work : Work) :
    (db.append work).batches = db.batches ++ work.newBatches := rfl

theorem nodup_append_toList {α κ : Type} {key : α → κ} {rows : List α} {new : List α}
    (huniq : (rows.map key).Nodup) (hnew : new = [] ∨ ∃ row, new = [row] ∧ ∀ r ∈ rows, key r ≠ key row) :
    ((rows ++ new).map key).Nodup := by
  rcases hnew with rfl | ⟨row, rfl, hfresh⟩
  · rwa [List.append_nil]
  · refine Table.nodup_append huniq (fun hmem => ?_)
    obtain ⟨r, hr, hkey⟩ := List.mem_map.mp hmem
    exact hfresh r hr hkey

theorem Work.Sound.grow (h : work.Sound world db)
    (hcommands : ∀ command ∈ db.commands, command ∈ db'.commands)
    (hbatches : ∀ batch ∈ db.batches, batch ∈ db'.batches)
    (hnewCommands : ∀ command ∈ db'.commands,
      command ∈ db.commands ∨ ¬work.insertsCommand command.namespaceKey)
    (hnewBatches : ∀ batch ∈ db'.batches, batch ∈ db.batches ∨ ¬work.insertsBatch batch.file) :
    work.Sound world db' := by
  exact { h with
    begun := fun hnone => (h.begun hnone).imp_right
      (fun ⟨command, hmem, hkey⟩ => ⟨command, hcommands command hmem, hkey⟩)
    held := fun command hcmd hown => hcommands command (h.held command hcmd hown)
    reserved := fun command hcmd hown => { h.reserved command hcmd hown with
      fresh := fun other hother hkey => by
        rcases hnewCommands other hother with hold | hnot
        · exact (h.reserved command hcmd hown).fresh other hold hkey
        · exact hnot ⟨hown, command, hcmd, (h.key command hcmd).trans hkey.symm⟩ }
    found := fun batch hbatch hown => by
      obtain ⟨hmem, hrest⟩ := h.found batch hbatch hown
      exact ⟨hbatches batch hmem, hrest⟩
    building := fun batch hbatch hown => by
      obtain ⟨hownCommand, hfresh, hbuilding⟩ := h.building batch hbatch hown
      refine ⟨hownCommand, fun other hother hfile => ?_, hbuilding⟩
      rcases hnewBatches other hother with hold | hnot
      · exact hfresh other hold hfile
      · exact hnot ⟨hown, batch, hbatch, hfile.symm⟩ }

theorem Work.Sound.append (h : other.Sound world db) (hapart : Apart other work) :
    other.Sound world (db.append work) := by
  refine h.grow (fun command hc => List.mem_append_left _ hc) (fun batch hb => List.mem_append_left _ hb)
    (fun command hc => ?_) (fun batch hb => ?_)
  · rcases List.mem_append.mp hc with hold | hnew
    · exact .inl hold
    · obtain ⟨hown, hcmd⟩ := mem_owned.mp hnew
      exact .inr (fun hinserts => hapart.commands _ hinserts ⟨hown, command, hcmd, rfl⟩)
  · rcases List.mem_append.mp hb with hold | hnew
    · exact .inl hold
    · obtain ⟨hown, hbatch⟩ := mem_owned.mp hnew
      exact .inr (fun hinserts => hapart.batches _ hinserts ⟨hown, batch, hbatch, rfl⟩)

/-- The batch a call inserted is a finished import when the call has its response. -/
theorem Building.imported (h : Building world work batch parsed)
    (hout : work.outcome = some response) :
    Imported world work.call work.facts parsed batch work.staged := by
  obtain ⟨hstaging, hrem, rfl, hcheck⟩ := h.outcome response hout
  obtain ⟨command, id, createdAt, heq⟩ := h.batch_eq
  obtain ⟨hproj, hsrc⟩ := World.sourceCommitment_ids h.source
  have hids : batch.projectId = work.facts.projectId ∧ batch.sourceId = work.facts.sourceId := by
    rw [heq]
    exact ⟨rfl, rfl⟩
  have hrows := h.rows hstaging
  rw [hrem, List.append_nil] at hrows
  rw [hout] at heq
  exact {
    source := by rw [hids.1, hids.2, hproj, hsrc, h.source]
    read := h.read
    batch_eq := ⟨command, id, createdAt, heq⟩
    rows := hrows
    shape := h.shape
    check := hcheck }

theorem Building.member_batchId (h : Building world work batch parsed) {s : Staged}
    (hs : s ∈ work.staged) : s.member.batchId = batch.id := by
  obtain ⟨ids, heq⟩ := h.shape s hs
  rw [heq]
  rfl

/-- The members a commit adds belong to a batch it adds. -/
theorem Work.Sound.staged_batch (h : work.Sound world db) {s : Staged} (hs : s ∈ work.staged) :
    ∃ batch ∈ work.newBatches, s.member.batchId = batch.id := by
  cases hbatch : work.batch with
  | none =>
    rw [(h.unselected hbatch).2.2.1] at hs
    exact absurd hs List.not_mem_nil
  | some batch =>
    cases hown : work.ownsBatch with
    | false =>
      rw [(h.found batch hbatch hown).2.2.1] at hs
      exact absurd hs List.not_mem_nil
    | true =>
      obtain ⟨-, -, parsed, hbuilding⟩ := h.building batch hbatch hown
      exact ⟨batch, mem_owned.mpr ⟨hown, hbatch⟩, hbuilding.member_batchId hs⟩

theorem Fresh.batch_ne (hfresh : db.Fresh work) {old new : TaskImportBatch} (hold : old ∈ db.batches)
    (hnew : new ∈ work.newBatches) : old.id ≠ new.id := by
  have hids := hfresh.2.2.1
  rw [append_batches, List.map_append, List.nodup_append] at hids
  exact hids.2.2 _ (List.mem_map_of_mem hold) _ (List.mem_map_of_mem hnew)

theorem Stored.append (h : Stored db batch staged) (hbatch : batch ∈ db.batches)
    (hwork : work.Sound world db) (hfresh : db.Fresh work) : Stored (db.append work) batch staged where
  members := by
    have hnone : (work.staged.map (·.member)).filter (fun member => member.batchId = batch.id) = [] := by
      refine List.filter_eq_nil_iff.mpr (fun member hmember => ?_)
      obtain ⟨s, hs, rfl⟩ := List.mem_map.mp hmember
      obtain ⟨new, hnew, hid⟩ := hwork.staged_batch hs
      rw [decide_eq_true_eq, hid]
      exact (Fresh.batch_ne hfresh hbatch hnew).symm
    calc (db.members ++ work.staged.map (·.member)).filter (fun member => member.batchId = batch.id)
        = staged.map (·.member) ++ [] := by rw [List.filter_append, h.members, hnone]
      _ = staged.map (·.member) := List.append_nil _
  receipts := fun s hs => Table.find_append_of_some _ (h.receipts s hs)
  tasks := fun s hs => by
    obtain ⟨task, htask, hrest⟩ := h.tasks s hs
    exact ⟨task, List.mem_append_left _ htask, hrest⟩

theorem Building.stored (h : Building world work batch parsed) (hdb : db.Sound world)
    (hnew : batch ∈ work.newBatches) (hfresh : db.Fresh work) :
    Stored (db.append work) batch work.staged where
  members := by
    have hnone : db.members.filter (fun member => member.batchId = batch.id) = [] := by
      refine List.filter_eq_nil_iff.mpr (fun member hmember => ?_)
      obtain ⟨old, hold, hid⟩ := hdb.members member hmember
      rw [decide_eq_true_eq, hid]
      exact Fresh.batch_ne hfresh hold hnew
    have hall : (work.staged.map (·.member)).filter (fun member => member.batchId = batch.id) =
        work.staged.map (·.member) := by
      refine List.filter_eq_self.mpr (fun member hmember => ?_)
      obtain ⟨s, hs, rfl⟩ := List.mem_map.mp hmember
      exact decide_eq_true (h.member_batchId hs)
    calc (db.members ++ work.staged.map (·.member)).filter (fun member => member.batchId = batch.id)
        = [] ++ work.staged.map (·.member) := by rw [List.filter_append, hnone, hall]
      _ = work.staged.map (·.member) := List.nil_append _
  receipts := fun s hs =>
    Table.find_of_mem hfresh.2.1 (List.mem_append_right _ (List.mem_map_of_mem hs))
  tasks := fun s hs => ⟨s.task, List.mem_append_right _ (List.mem_map_of_mem hs), rfl, rfl, rfl⟩

theorem Answered.grow (h : Answered world db command)
    (hbatches : ∀ batch ∈ db.batches, batch ∈ db'.batches) : Answered world db' command := by
  obtain ⟨hdig, batch, hbatch, hrest⟩ := h
  exact ⟨hdig, batch, hbatches batch hbatch, hrest⟩

/-- The batch of a call that has its response is in the tables after the commit. -/
theorem Work.Sound.mem_append_batches (h : work.Sound world db) (hbatch : work.batch = some batch) :
    batch ∈ (db.append work).batches := by
  cases hown : work.ownsBatch with
  | false => exact List.mem_append_left _ (h.found batch hbatch hown).1
  | true => exact List.mem_append_right _ (mem_owned.mpr ⟨hown, hbatch⟩)

theorem Work.Sound.mem_append_commands (h : work.Sound world db)
    (hcmd : work.command = some command) : command ∈ (db.append work).commands := by
  cases hown : work.ownsCommand with
  | false => exact List.mem_append_left _ (h.held command hcmd hown)
  | true => exact List.mem_append_right _ (mem_owned.mpr ⟨hown, hcmd⟩)

theorem Work.Sound.answered_new (h : work.Sound world db) (hout : work.outcome = some response)
    (hnew : command ∈ work.newCommands) : Answered world (db.append work) command := by
  obtain ⟨hown, hcmd⟩ := mem_owned.mp hnew
  have hresv := h.reserved command hcmd hown
  obtain ⟨c, batch, hc, hbatch, hresp, hdig, hanswer, hid⟩ := h.answered response hout
  obtain rfl := Option.some.inj (hcmd.symm.trans hc)
  obtain ⟨c, facts, hc, hfacts, hfile⟩ := h.selected batch hbatch
  obtain rfl := Option.some.inj (hcmd.symm.trans hc)
  refine ⟨?_, batch, h.mem_append_batches hbatch, hid, hanswer.trans hresp.symm, facts, hfacts, hfile⟩
  rw [hdig, hresv.project, hresv.source]
  rfl

theorem Database.Sound.append (hdb : db.Sound world) (h : work.Sound world db)
    (hout : work.outcome = some response) (hfresh : db.Fresh work) :
    (db.append work).Sound world where
  keys := by
    refine nodup_append_toList hdb.keys (owned_cases.imp_right (fun ⟨command, heq⟩ => ?_))
    obtain ⟨hown, hcmd⟩ := mem_owned.mp (heq ▸ List.mem_singleton_self command)
    refine ⟨command, heq, fun old hold hkey => ?_⟩
    exact (h.reserved command hcmd hown).fresh old hold (hkey.trans (h.key command hcmd))
  files := by
    refine nodup_append_toList hdb.files (owned_cases.imp_right (fun ⟨batch, heq⟩ => ?_))
    obtain ⟨hown, hbatch⟩ := mem_owned.mp (heq ▸ List.mem_singleton_self batch)
    exact ⟨batch, heq, (h.building batch hbatch hown).2.1⟩
  commands := fun command hmem => by
    rcases List.mem_append.mp hmem with hold | hnew
    · exact (hdb.commands command hold).grow (fun batch hb => List.mem_append_left _ hb)
    · exact h.answered_new hout hnew
  batches := fun batch hmem => by
    rcases List.mem_append.mp hmem with hold | hnew
    · obtain ⟨call, facts, parsed, staged, himported, hstored⟩ := hdb.batches batch hold
      exact ⟨call, facts, parsed, staged, himported, hstored.append hold h hfresh⟩
    · obtain ⟨hown, hbatch⟩ := mem_owned.mp hnew
      obtain ⟨-, -, parsed, hbuilding⟩ := h.building batch hbatch hown
      exact ⟨work.call, work.facts, parsed, work.staged, hbuilding.imported hout,
        hbuilding.stored hdb hnew hfresh⟩
  members := fun member hmem => by
    rcases List.mem_append.mp hmem with hold | hnew
    · obtain ⟨batch, hbatch, hid⟩ := hdb.members member hold
      exact ⟨batch, List.mem_append_left _ hbatch, hid⟩
    · obtain ⟨s, hs, rfl⟩ := List.mem_map.mp hnew
      obtain ⟨batch, hbatch, hid⟩ := h.staged_batch hs
      exact ⟨batch, List.mem_append_right _ hbatch, hid⟩

def KeepsTasks (before after : List WorkstreamTask) : Prop :=
  ∀ task ∈ before, ∃ task' ∈ after, task'.id = task.id ∧ task'.projectId = task.projectId ∧
    task'.externalTaskId = task.externalTaskId

theorem Stored.keepsTasks (h : Stored db batch staged) (htasks : KeepsTasks db.tasks tasks) :
    Stored { db with tasks } batch staged where
  members := h.members
  receipts := h.receipts
  tasks := fun s hs => by
    obtain ⟨task, htask, hid, hproj, hexternal⟩ := h.tasks s hs
    obtain ⟨task', htask', hid', hproj', hexternal'⟩ := htasks task htask
    exact ⟨task', htask', hid'.trans hid, hproj'.trans hproj, hexternal'.trans hexternal⟩

theorem Database.Sound.keepsTasks (hdb : db.Sound world) (htasks : KeepsTasks db.tasks tasks) :
    ({ db with tasks } : Database).Sound world where
  keys := hdb.keys
  files := hdb.files
  commands := fun command hc => (hdb.commands command hc).grow (fun _ hb => hb)
  batches := fun batch hb => by
    obtain ⟨call, facts, parsed, staged, himported, hstored⟩ := hdb.batches batch hb
    exact ⟨call, facts, parsed, staged, himported, hstored.keepsTasks htasks⟩
  members := hdb.members

theorem Work.Sound.keepsTasks (h : work.Sound world db) (tasks : List WorkstreamTask) :
    work.Sound world { db with tasks } :=
  h.grow (fun _ hc => hc) (fun _ hb => hb) (fun _ hc => .inl hc) (fun _ hb => .inl hb)

theorem keepsTasks_append (tasks new : List WorkstreamTask) : KeepsTasks tasks (tasks ++ new) :=
  fun task htask => ⟨task, List.mem_append_left _ htask, rfl, rfl, rfl⟩

theorem keepsTasks_change (tasks : List WorkstreamTask) (id : Uuid)
    (change : WorkstreamTask → WorkstreamTask) :
    KeepsTasks tasks (tasks.map (fun task => if task.id = id then changed change task else task)) := by
  intro task htask
  refine ⟨_, List.mem_map_of_mem htask, ?_⟩
  split <;> exact ⟨rfl, rfl, rfl⟩

def Succeeded (world : World) (db : Database) (call : Call) (response : TaskImportBatchResponse) : Prop :=
  ∃ command ∈ db.commands, command.namespaceKey = call.namespaceKey ∧
    command.requestDigest = call.requestDigest world ∧ command.response = some response

/-- Tables, open calls and answers fit together. -/
structure State.Sound (world : World) (s : State) : Prop where
  db : s.db.Sound world
  works : ∀ w ∈ s.works, w.2.Sound world s.db
  ids : (s.works.map Prod.fst).Nodup
  apart : ∀ a ∈ s.works, ∀ b ∈ s.works, a.1 ≠ b.1 → Apart a.2 b.2
  results : ∀ call response, (call, .ok response) ∈ s.results → Succeeded world s.db call response

variable {s : State} {tasks : List WorkstreamTask}

theorem mem_others {w : ℕ × Work} : w ∈ s.others id ↔ w ∈ s.works ∧ w.1 ≠ id := by
  rw [State.others, List.mem_filter, decide_eq_true_eq]

theorem Succeeded.grow (h : Succeeded world db call response)
    (hcommands : ∀ command ∈ db.commands, command ∈ db'.commands) :
    Succeeded world db' call response := by
  obtain ⟨command, hmem, hrest⟩ := h
  exact ⟨command, hcommands command hmem, hrest⟩

theorem State.Sound.others_nodup (h : s.Sound world) (id : ℕ) :
    ((s.others id).map Prod.fst).Nodup :=
  h.ids.sublist (List.filter_sublist.map Prod.fst)

theorem State.Sound.error (h : s.Sound world) (call : Call) (error : Refusal) :
    ({ s with results := s.results ++ [(call, .error error)] } : State).Sound world where
  db := h.db
  works := h.works
  ids := h.ids
  apart := h.apart
  results := fun c response hmem => by
    rcases List.mem_append.mp hmem with hold | hnew
    · exact h.results c response hold
    · exact absurd (Prod.mk.inj (List.mem_singleton.mp hnew)).2 nofun

theorem State.Sound.leave (h : s.Sound world) (id : ℕ) :
    ({ s with works := s.others id } : State).Sound world where
  db := h.db
  works := fun w hw => h.works w (mem_others.mp hw).1
  ids := h.others_nodup id
  apart := fun a ha b hb => h.apart a (mem_others.mp ha).1 b (mem_others.mp hb).1
  results := h.results

theorem State.Sound.enter (h : s.Sound world) (hid : id ∉ s.works.map Prod.fst)
    (hwork : work.Sound world s.db) (hapart : ∀ w ∈ s.works, Apart w.2 work) :
    ({ s with works := s.works ++ [(id, work)] } : State).Sound world where
  db := h.db
  works := Table.forall_append h.works hwork
  ids := Table.nodup_append h.ids hid
  apart := fun a ha b hb hne => by
    rcases Table.mem_append ha with ha | rfl
    · rcases Table.mem_append hb with hb | rfl
      · exact h.apart a ha b hb hne
      · exact hapart a ha
    · rcases Table.mem_append hb with hb | rfl
      · exact (hapart b hb).symm
      · exact absurd rfl hne
  results := h.results

theorem State.Sound.start (h : s.Sound world) (id : ℕ) (call : Call) (authorized : Bool) :
    (s.start world id call authorized).Sound world := by
  unfold State.start
  split
  · exact h
  · rename_i hid
    split
    · rename_i facts parsed hpre
      exact h.enter hid (sound_begin hpre) (fun w _ => apart_begin w.2 call facts parsed)
    · rename_i error _
      exact h.error call error

theorem State.Sound.commit (h : s.Sound world) (hmem : (id, work) ∈ s.works)
    (hout : work.outcome = some response) (hfresh : s.db.Fresh work) :
    State.Sound world ⟨s.db.append work, s.others id, s.results ++ [(work.call, .ok response)]⟩ where
  db := h.db.append (h.works _ hmem) hout hfresh
  works := fun w hw => by
    obtain ⟨hw, hne⟩ := mem_others.mp hw
    exact (h.works w hw).append (h.apart w hw _ hmem hne)
  ids := h.others_nodup id
  apart := (h.leave id).apart
  results := fun call r hr => by
    rcases List.mem_append.mp hr with hold | hnew
    · exact (h.results call r hold).grow (fun command hc => List.mem_append_left _ hc)
    · obtain ⟨rfl, heq⟩ := Prod.mk.inj (List.mem_singleton.mp hnew)
      obtain rfl := Except.ok.inj heq
      have hwork : work.Sound world s.db := h.works _ hmem
      obtain ⟨command, batch, hcmd, -, -, hdig, hresp, -⟩ := hwork.answered r hout
      exact ⟨command, hwork.mem_append_commands hcmd, hwork.key command hcmd, hdig, hresp⟩

theorem State.Sound.keepsTasks (h : s.Sound world) (htasks : KeepsTasks s.db.tasks tasks) :
    ({ s with db := { s.db with tasks } } : State).Sound world where
  db := h.db.keepsTasks htasks
  works := fun w hw => (h.works w hw).keepsTasks tasks
  ids := h.ids
  apart := h.apart
  results := fun call response hmem => (h.results call response hmem).grow (fun _ hc => hc)

/-- What an action does to the tables and to the answers. -/
inductive Does (s s' : State) : Prop where
  | refuses (db : s'.db = s.db) (results : s'.results = s.results ∨
      ∃ call error, s'.results = s.results ++ [(call, .error error)])
  | changesTasks (tasks : List WorkstreamTask) (keeps : KeepsTasks s.db.tasks tasks)
      (db : s'.db = { s.db with tasks }) (results : s'.results = s.results)
  | commits (id : ℕ) (work : Work) (response : TaskImportBatchResponse) (mem : (id, work) ∈ s.works)
      (outcome : work.outcome = some response) (fresh : s.db.Fresh work) (db : s'.db = s.db.append work)
      (results : s'.results = s.results ++ [(work.call, .ok response)])

theorem State.Sound.advance (h : s.Sound world) (id : ℕ) (event : Event) :
    (s.advance world id event).Sound world ∧ Does s (s.advance world id event) := by
  unfold State.advance
  split
  · exact ⟨h, .refuses rfl (.inl rfl)⟩
  · rename_i id' work hfind
    obtain ⟨hmem, hid⟩ := Table.find_eq_some hfind
    obtain rfl : id' = id := hid
    have hapart : ∀ w ∈ s.others id', Apart w.2 work := by
      intro w hw
      obtain ⟨hw, hne⟩ := mem_others.mp hw
      exact h.apart w hw _ hmem hne
    have hothers : ∀ other ∈ (s.others id').map Prod.snd, Apart other work := by
      intro other hother
      obtain ⟨w, hw, rfl⟩ := List.mem_map.mp hother
      exact hapart w hw
    have hkeeps := advance_keeps h.db (h.works _ hmem) hothers event
    split
    · exact ⟨h, .refuses rfl (.inl rfl)⟩
    · rename_i after heq
      rw [heq] at hkeeps
      obtain ⟨hsound, -, hafter⟩ := hkeeps
      refine ⟨(h.leave id').enter ?_ hsound (fun w hw => ?_), .refuses rfl (.inl rfl)⟩
      · intro hin
        obtain ⟨w, hw, hid⟩ := List.mem_map.mp hin
        exact (mem_others.mp hw).2 hid
      · exact hafter w.2 (List.mem_map_of_mem hw)
    · rename_i error _
      exact ⟨(h.leave id').error work.call error, .refuses rfl (.inr ⟨work.call, error, rfl⟩)⟩
    · rename_i db response heq
      rw [heq] at hkeeps
      obtain ⟨rfl, hout, hfresh⟩ := hkeeps
      exact ⟨h.commit hmem hout hfresh, .commits id' work response hmem hout hfresh rfl rfl⟩

theorem State.Sound.step (h : s.Sound world) (action : Action) :
    (step world s action).Sound world ∧ Does s (step world s action) := by
  cases action with
  | start id call authorized =>
    refine ⟨h.start id call authorized, ?_⟩
    show Does s (s.start world id call authorized)
    unfold State.start
    split
    · exact .refuses rfl (.inl rfl)
    · split
      · exact .refuses rfl (.inl rfl)
      · rename_i error _
        exact .refuses rfl (.inr ⟨call, error, rfl⟩)
  | advance id event => exact h.advance id event
  | createTask task =>
    show (if s.Free task then _ else s : State).Sound world ∧ Does s (if s.Free task then _ else s)
    split
    · exact ⟨h.keepsTasks (keepsTasks_append _ _), .changesTasks _ (keepsTasks_append _ _) rfl rfl⟩
    · exact ⟨h, .refuses rfl (.inl rfl)⟩
  | changeTask id change =>
    exact ⟨h.keepsTasks (keepsTasks_change _ id change),
      .changesTasks _ (keepsTasks_change _ id change) rfl rfl⟩

theorem sound_initial (world : World) (tasks : List WorkstreamTask) :
    (State.initial tasks).Sound world where
  db := {
    keys := List.nodup_nil
    files := List.nodup_nil
    commands := fun _ h => absurd h List.not_mem_nil
    batches := fun _ h => absurd h List.not_mem_nil
    members := fun _ h => absurd h List.not_mem_nil }
  works := fun _ h => absurd h List.not_mem_nil
  ids := List.nodup_nil
  apart := fun _ h => absurd h List.not_mem_nil
  results := fun _ _ h => absurd h List.not_mem_nil

theorem sound_run (world : World) (tasks : List WorkstreamTask) (actions : List Action) :
    (run (step world) (State.initial tasks) actions).Sound world :=
  run_invariant (sound_initial world tasks) (fun _ action h => (h.step action).1) actions

def Origin (world : World) (tasks : List WorkstreamTask) (actions : List Action) (batch : TaskImportBatch)
    (staged : List Staged) : Prop :=
  ∃ before action after, actions = before ++ action :: after ∧
    let s := run (step world) (State.initial tasks) before
    ∃ id work, (id, work) ∈ s.works ∧ batch ∈ work.newBatches ∧ work.staged = staged ∧
      (step world s action).db = s.db.append work

theorem Origin.extend {actions : List Action} (h : Origin world tasks actions batch staged)
    (action : Action) : Origin world tasks (actions ++ [action]) batch staged := by
  obtain ⟨before, a, after, rfl, hrest⟩ := h
  exact ⟨before, a, after ++ [action], by simp, hrest⟩

/-- Every batch is a finished import, and its rows were added by the commit that added it. -/
theorem batches_run (world : World) (tasks : List WorkstreamTask) (actions : List Action) :
    ∀ batch ∈ (run (step world) (State.initial tasks) actions).db.batches, ∃ call facts parsed staged,
      Imported world call facts parsed batch staged ∧
        Stored (run (step world) (State.initial tasks) actions).db batch staged ∧
        Origin world tasks actions batch staged := by
  induction actions using List.reverseRecOn with
  | nil => exact fun _ h => absurd h List.not_mem_nil
  | append_singleton actions action ih =>
    intro batch hbatch
    have hs := sound_run world tasks actions
    have hstep : run (step world) (State.initial tasks) (actions ++ [action]) =
        step world (run (step world) (State.initial tasks) actions) action := by
      rw [run_append, run_cons, run_nil]
    rw [hstep] at hbatch ⊢
    cases (hs.step action).2 with
    | refuses hdb =>
      rw [hdb] at hbatch ⊢
      obtain ⟨call, facts, parsed, staged, himported, hstored, horigin⟩ := ih batch hbatch
      exact ⟨call, facts, parsed, staged, himported, hstored, horigin.extend action⟩
    | changesTasks tasks' hkeeps hdb =>
      rw [hdb] at hbatch ⊢
      obtain ⟨call, facts, parsed, staged, himported, hstored, horigin⟩ := ih batch hbatch
      exact ⟨call, facts, parsed, staged, himported, hstored.keepsTasks hkeeps, horigin.extend action⟩
    | commits id work response hmem hout hfresh hdb _ =>
      rw [hdb] at hbatch ⊢
      have hwork := hs.works _ hmem
      rcases List.mem_append.mp hbatch with hold | hnew
      · obtain ⟨call, facts, parsed, staged, himported, hstored, horigin⟩ := ih batch hold
        exact ⟨call, facts, parsed, staged, himported, hstored.append hold hwork hfresh,
          horigin.extend action⟩
      · obtain ⟨hown, hsome⟩ := mem_owned.mp hnew
        obtain ⟨-, -, parsed, hbuilding⟩ := hwork.building batch hsome hown
        exact ⟨work.call, work.facts, parsed, work.staged, hbuilding.imported hout,
          hbuilding.stored hs.db hnew hfresh, actions, action, [], rfl, id, work, hmem, hnew, rfl, hdb⟩

/-- The one batch of a file: its members are the rows of the file in the order of the file, each with
the draft task made of it, all added by the commit that added the batch; and its response is read
back from the members. -/
structure ImportedFile (world : World) (tasks : List WorkstreamTask) (actions : List Action)
    (db : Database) (batch : TaskImportBatch) (facts : TaskImportSourceCommitment)
    (document : TaskImportDocument) (rows : List Staged) (response : TaskImportBatchResponse) : Prop where
  source : world.sourceCommitment batch.projectId batch.sourceId = some facts
  file : batch.file = facts.file
  read : ∃ parsed, readFirstImport world facts = .ok parsed ∧ parsed.document = document
  rows_eq : rows.map (fun s => (s.row, s.rowIndex)) = document.tasks.zipIdx
  drafts : ∃ call, ∀ s ∈ rows, ∃ ids, s = stage world call batch facts s.row s.rowIndex ids
  members : (db.members.filter (fun member => member.batchId = batch.id)).Perm (rows.map (·.member))
  receipts : ∀ s ∈ rows, s.receipt ∈ db.receipts
  tasks_eq : ∀ s ∈ rows, ∃ task ∈ db.tasks, task.id = s.task.id ∧ task.projectId = s.task.projectId ∧
    task.externalTaskId = s.task.externalTaskId
  origin : ∃ staged, staged.Perm rows ∧ Origin world tasks actions batch staged
  response_eq : batch.response = some response ∧ response.tasks = rows.map (·.task)
  valid : validate world db batch = .ok response

theorem importedFile_run (world : World) (tasks : List WorkstreamTask) (actions : List Action)
    (hbatch : batch ∈ (run (step world) (State.initial tasks) actions).db.batches) :
    ∃ facts document rows response, ImportedFile world tasks actions
      (run (step world) (State.initial tasks) actions).db batch facts document rows response := by
  obtain ⟨call, facts, parsed, staged, himported, hstored, horigin⟩ :=
    batches_run world tasks actions batch hbatch
  obtain ⟨command, id, createdAt, heq⟩ := himported.batch_eq
  have hperm := himported.rows.inOrder_perm
  refine ⟨facts, parsed.document, inOrder staged parsed.document.tasks.length, creation batch staged, ?_⟩
  exact {
    source := himported.source
    file := by rw [heq]; rfl
    read := ⟨parsed, himported.read, rfl⟩
    rows_eq := himported.rows.pairs_inOrder
    drafts := ⟨call, fun s hs => himported.shape s (hperm.mem_iff.mp hs)⟩
    members := by
      rw [hstored.members]
      exact (hperm.map _).symm
    receipts := fun s hs => (Table.find_eq_some (hstored.receipts s (hperm.mem_iff.mp hs))).1
    tasks_eq := fun s hs => hstored.tasks s (hperm.mem_iff.mp hs)
    origin := ⟨staged, hperm.symm, horigin⟩
    response_eq := ⟨congrArg TaskImportBatch.response heq, by
      rw [creation_tasks, himported.rowCount_eq]⟩
    valid := hstored.validate_eq himported }

/-- The requests that hold a key or were answered. -/
def State.requests (s : State) : List Json :=
  s.db.commands.map (fun command => requestBody command.projectId command.sourceId) ++
    s.results.map (fun result => requestBody result.1.projectId result.1.sourceId)

/-- SHA-256 does not collide on the requests of a run. -/
abbrev State.RequestsApart (world : World) (s : State) : Prop :=
  ∀ request ∈ s.requests, ∀ other ∈ s.requests,
    world.sha256 (encoded request) = world.sha256 (encoded other) → encoded request = encoded other

/-- A command and an answered call of one digest are of one project and source. -/
theorem State.RequestsApart.source_eq (h : s.RequestsApart world)
    {answer : Except Refusal TaskImportBatchResponse} (hcmd : command ∈ s.db.commands)
    (hres : (call, answer) ∈ s.results)
    (hdig : world.digest (requestBody command.projectId command.sourceId) = call.requestDigest world) :
    command.projectId = call.projectId ∧ command.sourceId = call.sourceId := by
  have hsame := h _ (List.mem_append_left _ (List.mem_map_of_mem hcmd)) _
    (List.mem_append_right _ (List.mem_map_of_mem hres))
    (by simpa [Call.requestDigest, World.digest] using hdig)
  rw [← utf8_dumps, ← utf8_dumps] at hsame
  exact dumps_requestBody_injective (utf8_injective hsame)

/-- A call that succeeded got the response of the batch of its source's content. -/
theorem State.Sound.exists_batch (hs : s.Sound world) (hsha : s.RequestsApart world)
    (h : (call, .ok response) ∈ s.results) :
    ∃ facts batch, world.sourceCommitment call.projectId call.sourceId = some facts ∧
      batch ∈ s.db.batches ∧ batch.file = facts.file ∧ batch.response = some response := by
  obtain ⟨command, hmem, -, hdig, hresp⟩ := hs.results call response h
  obtain ⟨hreq, batch, hbatch, -, hanswer, facts, hfacts, hfile⟩ := hs.db.commands command hmem
  obtain ⟨hproj, hsrc⟩ := hsha.source_eq hmem h (hreq.symm.trans hdig)
  rw [hproj, hsrc] at hfacts
  exact ⟨facts, batch, hfacts, hbatch, hfile, hanswer.symm.trans hresp⟩

/-- A key that succeeded is held by one command, of the source of the call. -/
theorem State.Sound.command_source (hs : s.Sound world) (hsha : s.RequestsApart world)
    (h : (call, .ok response) ∈ s.results) :
    ∀ command ∈ s.db.commands, command.namespaceKey = call.namespaceKey →
      command.projectId = call.projectId ∧ command.sourceId = call.sourceId := by
  obtain ⟨held, hmem, hkey, hdig, -⟩ := hs.results call response h
  intro command hcmd hsame
  obtain rfl : command = held := Table.eq_of_key_eq hs.db.keys hcmd hmem (hsame.trans hkey.symm)
  exact hsha.source_eq hcmd h ((hs.db.commands command hcmd).1.symm.trans hdig)

/-- In every run of import calls, task creations and task changes: one batch for each project and
content, with exactly the rows of its file; a call that fails leaves the tables as they are; and while
SHA-256 does not collide on the requests of the run, one response for all calls that succeed for a
content, and a key good for one source only. -/
theorem task_file_imported_once (world : World) (tasks : List WorkstreamTask) (actions : List Action) :
    let s := run (step world) (State.initial tasks) actions
    (s.db.batches.map (·.file)).Nodup ∧
    (∀ batch ∈ s.db.batches, ∃ facts document rows response,
      ImportedFile world tasks actions s.db batch facts document rows response) ∧
    (∀ action, Does s (step world s action)) ∧
    (s.RequestsApart world →
      (∀ call response, (call, .ok response) ∈ s.results →
        ∃ facts batch, world.sourceCommitment call.projectId call.sourceId = some facts ∧
          batch ∈ s.db.batches ∧ batch.file = facts.file ∧ batch.response = some response) ∧
      (∀ call response, (call, .ok response) ∈ s.results → ∀ command ∈ s.db.commands,
        command.namespaceKey = call.namespaceKey →
          command.projectId = call.projectId ∧ command.sourceId = call.sourceId) ∧
      ∀ call response call' response' facts facts', (call, .ok response) ∈ s.results →
        (call', .ok response') ∈ s.results →
        world.sourceCommitment call.projectId call.sourceId = some facts →
        world.sourceCommitment call'.projectId call'.sourceId = some facts' →
        facts.file = facts'.file → response = response') := by
  intro s
  have hs : s.Sound world := sound_run world tasks actions
  refine ⟨hs.db.files, fun batch hbatch => importedFile_run world tasks actions hbatch,
    fun action => (hs.step action).2, fun hsha => ⟨fun call response h => hs.exists_batch hsha h,
      fun call response h => hs.command_source hsha h,
      fun call response call' response' facts facts' h h' hfacts hfacts' hfile => ?_⟩⟩
  obtain ⟨f, batch, hf, hbatch, hbatchFile, hresp⟩ := hs.exists_batch hsha h
  obtain ⟨f', batch', hf', hbatch', hbatchFile', hresp'⟩ := hs.exists_batch hsha h'
  obtain rfl := Option.some.inj (hf.symm.trans hfacts)
  obtain rfl := Option.some.inj (hf'.symm.trans hfacts')
  obtain rfl : batch = batch' :=
    Table.eq_of_key_eq hs.db.files hbatch hbatch' (hbatchFile.trans (hfile.trans hbatchFile'.symm))
  exact Option.some.inj (hresp.symm.trans hresp')

def sampleInstructions (title : String) : TaskInstructions where
  title := title
  description := "label every frame"
  taskType := none
  difficulty := some "easy"
  skillTags := ["video"]
  estimatedTimeMinutes := some 15
  acceptanceCriteria := none
  rejectionCriteria := none

/-- A file whose rows are not in the order of their external ids. -/
def sampleDocument : TaskImportDocument where
  schemaVersion := "workstream.task_import.v1"
  label := some "first batch"
  tasks := [⟨"task-b", sampleInstructions "second"⟩, ⟨"task-a", sampleInstructions "first"⟩]

def checksum (raw : List ℕ) : String :=
  toString (raw.foldl (fun sum byte => (31 * sum + byte) % 1000003) 7)

/-- Two sources of one project with the same bytes. -/
def sampleWorld : World where
  sha256 := checksum
  decode _ := .ok sampleDocument
  sources := ["source-1", "source-2"].map
    (fun id => ⟨id, "project", "sha256:" ++ checksum [123, 125], 2, "operation"⟩)
  content _ := [123, 125]

def sampleCall (sourceId key : String) : Call := ⟨"actor", "project", sourceId, key⟩

def sampleRow (n : String) : RowIds := ⟨"task-" ++ n, "receipt-" ++ n, "create-" ++ n, 20⟩

/-- Both calls read the file before either has a batch; the second waits for the first to commit. -/
def sampleActions : List Action :=
  [.start 1 (sampleCall "source-1" "key-1") true, .start 2 (sampleCall "source-2" "key-2") true,
    .advance 1 (.reserveCommand "command-1"), .advance 2 (.reserveCommand "command-2"),
    .advance 1 (.reserveBatch "batch-1" 10), .advance 2 (.reserveBatch "batch-2" 11),
    .advance 1 (.conclude true), .advance 1 (.stageRow (sampleRow "1")),
    .advance 1 (.stageRow (sampleRow "2")), .advance 1 .finishRows, .advance 1 (.commit true),
    .advance 2 (.reserveBatch "batch-2" 12), .advance 2 (.conclude true), .advance 2 (.commit true)]

def sampleRun : State := run (step sampleWorld) (State.initial []) sampleActions

/-- The source of a call with the external ids of the tasks it was answered with. -/
def answeredRows (result : Call × Except Refusal TaskImportBatchResponse) :
    Uuid × Option (List (Option String)) :=
  (result.1.sourceId, result.2.toOption.map (fun response => response.tasks.map (·.externalTaskId)))

/-- Both calls succeed, with one response, whose tasks are in the order of the file. -/
theorem task_file_imported_once_twoSources :
    sampleRun.RequestsApart sampleWorld ∧ sampleRun.db.batches.length = 1 ∧
      sampleRun.results.map answeredRows = [("source-1", some [some "task-b", some "task-a"]),
        ("source-2", some [some "task-b", some "task-a"])] ∧
      ∀ call response call' response', (call, .ok response) ∈ sampleRun.results →
        (call', .ok response') ∈ sampleRun.results → response = response' := by
  obtain ⟨hsha, hone, hrows, hfiles⟩ : sampleRun.RequestsApart sampleWorld ∧
      sampleRun.db.batches.length = 1 ∧
      sampleRun.results.map answeredRows = [("source-1", some [some "task-b", some "task-a"]),
        ("source-2", some [some "task-b", some "task-a"])] ∧
      ∀ result ∈ sampleRun.results,
        (sampleWorld.sourceCommitment result.1.projectId result.1.sourceId).map (·.file) =
          some ("project", "sha256:" ++ checksum [123, 125], 2) := by decide +kernel
  refine ⟨hsha, hone, hrows, fun call response call' response' h h' => ?_⟩
  obtain ⟨facts, hfacts, hfile⟩ := Option.map_eq_some_iff.mp (hfiles _ h)
  obtain ⟨facts', hfacts', hfile'⟩ := Option.map_eq_some_iff.mp (hfiles _ h')
  have honce := (task_file_imported_once sampleWorld [] sampleActions).2.2.2 hsha
  exact honce.2.2 call response call' response' facts facts' h h' hfacts hfacts'
    (hfile.trans hfile'.symm)

end Workstream.Imports
