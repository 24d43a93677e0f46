import Workstream.Tasks.ImportMembership

/-! # What the steps of an import call keep -/

namespace Workstream.Imports
open Foundation

def Answered (world : World) (db : Database) (command : TaskImportBatchCommandReceipt) : Prop :=
  command.requestDigest = world.digest (requestBody command.projectId command.sourceId) ∧
    ∃ batch ∈ db.batches, command.batchId = some batch.id ∧ command.response = batch.response ∧
      ∃ facts, world.sourceCommitment command.projectId command.sourceId = some facts ∧
        batch.file = facts.file

/-- Every batch is a finished import, and every command answers with one. -/
structure Database.Sound (world : World) (db : Database) : Prop where
  keys : (db.commands.map (·.namespaceKey)).Nodup
  files : (db.batches.map (·.file)).Nodup
  commands : ∀ command ∈ db.commands, Answered world db command
  batches : ∀ batch ∈ db.batches, ∃ call facts parsed staged,
    Imported world call facts parsed batch staged ∧ Stored db batch staged
  members : ∀ member ∈ db.members, ∃ batch ∈ db.batches, member.batchId = batch.id

structure Building (world : World) (work : Work) (batch : TaskImportBatch) (parsed : ParsedTaskImport) :
    Prop where
  parsed_eq : work.parsed = some parsed
  source : world.sourceCommitment work.call.projectId work.call.sourceId = some work.facts
  read : readFirstImport world work.facts = .ok parsed
  batch_eq : ∃ command id createdAt, batch = { newBatch world work.call work.facts parsed command id
    createdAt with response := work.outcome }
  unstaged : work.staging = false → work.staged = [] ∧ work.remaining = [] ∧ work.outcome = none
  rows : work.staging = true →
    work.staged.map (fun s => (s.row, s.rowIndex)) ++ work.remaining = sortedRows parsed.document
  shape : ∀ s ∈ work.staged, ∃ ids, s = stage world work.call batch work.facts s.row s.rowIndex ids
  outcome : ∀ response, work.outcome = some response → work.staging = true ∧ work.remaining = [] ∧
    response = creation batch work.staged ∧ checkCreation response = .ok ()

structure Reserved (world : World) (db : Database) (work : Work)
    (command : TaskImportBatchCommandReceipt) : Prop where
  fresh : ∀ other ∈ db.commands, other.namespaceKey ≠ work.call.namespaceKey
  digest : command.requestDigest = work.call.requestDigest world
  project : command.projectId = work.call.projectId
  source : command.sourceId = work.call.sourceId
  pending : work.outcome = none → command.response = none

/-- What an open call has read and staged. -/
structure Work.Sound (world : World) (db : Database) (work : Work) : Prop where
  parsed : ∀ parsed, work.parsed = some parsed → ∃ facts,
    world.sourceCommitment work.call.projectId work.call.sourceId = some facts ∧
      readFirstImport world facts = .ok parsed
  begun : work.command = none →
    world.sourceCommitment work.call.projectId work.call.sourceId = some work.facts ∨
      ∃ command ∈ db.commands, command.namespaceKey = work.call.namespaceKey
  idle : work.command = none → work.ownsCommand = false ∧ work.batch = none
  unselected : work.batch = none → work.ownsBatch = false ∧ work.staging = false ∧
    work.staged = [] ∧ work.remaining = [] ∧ work.outcome = none
  key : ∀ command, work.command = some command → command.namespaceKey = work.call.namespaceKey
  held : ∀ command, work.command = some command → work.ownsCommand = false → command ∈ db.commands
  reserved : ∀ command, work.command = some command → work.ownsCommand = true →
    Reserved world db work command
  selected : ∀ batch, work.batch = some batch → ∃ command facts, work.command = some command ∧
    world.sourceCommitment command.projectId command.sourceId = some facts ∧ batch.file = facts.file
  found : ∀ batch, work.batch = some batch → work.ownsBatch = false →
    batch ∈ db.batches ∧ work.staging = false ∧ work.staged = [] ∧ work.remaining = []
  building : ∀ batch, work.batch = some batch → work.ownsBatch = true → work.ownsCommand = true ∧
    (∀ other ∈ db.batches, other.file ≠ batch.file) ∧ ∃ parsed, Building world work batch parsed
  answered : ∀ response, work.outcome = some response → ∃ command batch, work.command = some command ∧
    work.batch = some batch ∧ batch.response = some response ∧
    command.requestDigest = work.call.requestDigest world ∧ command.response = some response ∧
    command.batchId = some batch.id

structure Apart (a b : Work) : Prop where
  commands : ∀ key, a.insertsCommand key → ¬b.insertsCommand key
  batches : ∀ file, a.insertsBatch file → ¬b.insertsBatch file

theorem Apart.symm {a b : Work} (h : Apart a b) : Apart b a :=
  ⟨fun key hb ha => h.commands key ha hb, fun file hb ha => h.batches file ha hb⟩

variable {world : World} {db : Database} {work after : Work} {others : List Work}

variable {facts : TaskImportSourceCommitment} {batch : TaskImportBatch}
  {command : TaskImportBatchCommandReceipt} {response : TaskImportBatchResponse}

theorem sound_begin {call : Call} {parsed : Option ParsedTaskImport} {authorized : Bool}
    (h : preflight world db call authorized = .ok (facts, parsed)) :
    (Work.begin call facts parsed).Sound world db := by
  have hbegun : (world.sourceCommitment call.projectId call.sourceId = some facts ∨
      ∃ command ∈ db.commands, command.namespaceKey = call.namespaceKey) ∧
      ∀ p, parsed = some p → world.sourceCommitment call.projectId call.sourceId = some facts ∧
        readFirstImport world facts = .ok p := by
    unfold preflight at h
    split at h
    · rename_i command hfind
      simp only [eq_ok] at h
      obtain ⟨f, -, ⟨⟩, -, -, rfl⟩ := h
      obtain ⟨hmem, hkey⟩ := Table.find_eq_some hfind
      exact ⟨.inr ⟨command, hmem, hkey⟩, (by simp)⟩
    · simp only [eq_ok] at h
      obtain ⟨f, hf, ⟨⟩, -, h⟩ := h
      split at h
      · obtain ⟨rfl, rfl⟩ := Prod.mk.inj (pure_eq_ok.mp h)
        exact ⟨.inl hf, (by simp)⟩
      · simp only [eq_ok] at h
        obtain ⟨p, hp, rfl, rfl⟩ := h
        refine ⟨.inl hf, fun q hq => ?_⟩
        obtain rfl := Option.some.inj hq
        exact ⟨hf, hp⟩
  exact {
    parsed := fun p hp => ⟨facts, hbegun.2 p hp⟩
    begun := fun _ => hbegun.1
    idle := fun _ => ⟨rfl, rfl⟩
    unselected := fun _ => ⟨rfl, rfl, rfl, rfl, rfl⟩
    key := by simp [Work.begin]
    held := by simp [Work.begin]
    reserved := by simp [Work.begin]
    selected := by simp [Work.begin]
    found := by simp [Work.begin]
    building := by simp [Work.begin]
    answered := by simp [Work.begin] }

theorem apart_begin (other : Work) (call : Call) (facts : TaskImportSourceCommitment)
    (parsed : Option ParsedTaskImport) : Apart other (Work.begin call facts parsed) :=
  ⟨fun _ _ h => absurd h.1 Bool.false_ne_true, fun _ _ h => absurd h.1 Bool.false_ne_true⟩

def Outcome.Keeps (world : World) (db : Database) (others : List Work) (work : Work) : Outcome → Prop
  | .next after => after.Sound world db ∧ after.call = work.call ∧ ∀ other ∈ others, Apart other after
  | .done after response => after = db.append work ∧ work.outcome = some response ∧ db.Fresh work
  | .wait => True
  | .fail _ => True

theorem reserveCommand_keeps (h : work.Sound world db) (hapart : ∀ other ∈ others, Apart other work)
    (id : Uuid) : (reserveCommand world db others work id).Keeps world db others work := by
  unfold reserveCommand
  split
  · trivial
  · rename_i hfree
    rw [not_or, not_not] at hfree
    obtain ⟨hnone, hfree⟩ := hfree
    obtain ⟨howns, hbatch⟩ := h.idle hnone
    obtain ⟨-, -, -, -, hout⟩ := h.unselected hbatch
    split
    · rename_i command hfind
      obtain ⟨hmem, hkey⟩ := Table.find_eq_some hfind
      refine ⟨?_, rfl, fun other hother => ⟨fun key _ hinserts => ?_, (hapart other hother).batches⟩⟩
      · exact { h with
          begun := nofun
          idle := nofun
          key := fun c hc => Option.some.inj hc ▸ hkey
          held := fun c hc _ => Option.some.inj hc ▸ hmem
          reserved := fun c _ hown => absurd hown (by rw [howns]; exact Bool.false_ne_true)
          selected := fun b hb => absurd hb (by rw [hbatch]; nofun)
          building := fun b hb => absurd hb (by rw [hbatch]; nofun)
          answered := fun r hr => absurd hr (by rw [hout]; nofun) }
      · exact absurd hinserts.1 (by rw [howns]; exact Bool.false_ne_true)
    · rename_i hfind
      have hfresh := Table.find_eq_none.mp hfind
      have hsrc : world.sourceCommitment work.call.projectId work.call.sourceId = some work.facts := by
        rcases h.begun hnone with hsrc | ⟨c, hc, hkey⟩
        · exact hsrc
        · exact absurd hkey (hfresh c hc)
      obtain ⟨hproj, hsourceId⟩ := World.sourceCommitment_ids hsrc
      refine ⟨?_, rfl, fun other hother => ⟨fun key hinserts hnew => ?_, (hapart other hother).batches⟩⟩
      · exact { h with
          begun := nofun
          idle := nofun
          key := fun c hc => Option.some.inj hc ▸ rfl
          held := nofun
          reserved := fun c hc _ => Option.some.inj hc ▸ ⟨hfresh, rfl, hproj, hsourceId, fun _ => rfl⟩
          selected := fun b hb => absurd hb (by rw [hbatch]; nofun)
          building := fun b hb => absurd hb (by rw [hbatch]; nofun)
          answered := fun r hr => absurd hr (by rw [hout]; nofun) }
      · obtain ⟨-, c, hc, hkey⟩ := hnew
        obtain rfl := Option.some.inj hc
        obtain rfl : work.call.namespaceKey = key := hkey
        exact hfree ⟨other, hother, hinserts⟩

theorem Database.Sound.response_ne_none (hdb : db.Sound world) (h : batch ∈ db.batches) :
    batch.response ≠ none := by
  obtain ⟨call, facts, parsed, staged, himported, -⟩ := hdb.batches batch h
  obtain ⟨command, id, createdAt, hbatch⟩ := himported.batch_eq
  rw [congrArg TaskImportBatch.response hbatch]
  exact Option.some_ne_none _

theorem Database.Sound.command_response_ne_none (hdb : db.Sound world) (h : command ∈ db.commands) :
    command.response ≠ none := by
  obtain ⟨-, batch, hbatch, -, hresp, -⟩ := hdb.commands command h
  rw [hresp]
  exact hdb.response_ne_none hbatch

theorem selectBatch_keeps (hdb : db.Sound world) (h : work.Sound world db)
    (hapart : ∀ other ∈ others, Apart other work) (hcmd : work.command = some command)
    (hbatch : work.batch = none)
    (hfacts : world.sourceCommitment command.projectId command.sourceId = some facts) (id : Uuid)
    (createdAt : ℕ) :
    (selectBatch world db others work command facts id createdAt).Keeps world db others work := by
  obtain ⟨hownsBatch, hstaging, hstaged, hrem, hout⟩ := h.unselected hbatch
  unfold selectBatch
  split
  · rename_i batch hfind
    obtain ⟨hmem, hfile⟩ := Table.find_eq_some hfind
    refine ⟨?_, rfl, fun other hother => ⟨(hapart other hother).commands, fun file _ hinserts => ?_⟩⟩
    · exact { h with
        begun := fun hc => absurd hc (by rw [hcmd]; nofun)
        idle := fun hc => absurd hc (by rw [hcmd]; nofun)
        unselected := nofun
        reserved := fun c hc hown => { h.reserved c hc hown with }
        selected := fun b hb => ⟨command, facts, hcmd, hfacts, Option.some.inj hb ▸ hfile⟩
        found := fun b hb _ => ⟨Option.some.inj hb ▸ hmem, hstaging, hstaged, hrem⟩
        building := fun b _ hown => absurd hown (by rw [hownsBatch]; exact Bool.false_ne_true)
        answered := fun r hr => absurd hr (by rw [hout]; nofun) }
    · exact absurd hinserts.1 (by rw [hownsBatch]; exact Bool.false_ne_true)
  · trivial
  · rename_i parsed hfind hparsed
    have hfresh := Table.find_eq_none.mp hfind
    split
    · trivial
    · rename_i hfree
      -- the command of another call would already have a batch of this file
      have hown : work.ownsCommand = true := by
        by_contra hheld
        rw [Bool.not_eq_true] at hheld
        obtain ⟨-, batch, hmem, -, -, f, hf, hfile⟩ := hdb.commands command (h.held command hcmd hheld)
        rw [hfacts] at hf
        exact hfresh batch hmem (Option.some.inj hf ▸ hfile)
      have hresv := h.reserved command hcmd hown
      obtain ⟨f, hf, hread⟩ := h.parsed parsed hparsed
      rw [hresv.project, hresv.source, hf] at hfacts
      obtain rfl := Option.some.inj hfacts
      refine ⟨?_, rfl, fun other hother => ⟨(hapart other hother).commands, fun file hinserts hnew => ?_⟩⟩
      · exact { h with
          begun := fun hc => absurd hc (by rw [hcmd]; nofun)
          idle := fun hc => absurd hc (by rw [hcmd]; nofun)
          unselected := nofun
          reserved := fun c hc hown => { h.reserved c hc hown with }
          selected := fun b hb => ⟨command, f, hcmd,
            by rw [hresv.project, hresv.source, hf], Option.some.inj hb ▸ rfl⟩
          found := nofun
          building := fun b hb _ => by
            obtain rfl := Option.some.inj hb
            refine ⟨hown, hfresh, parsed, hparsed, hf, hread,
              ⟨command, id, createdAt, by rw [hout]; rfl⟩, fun _ => ⟨hstaged, hrem, hout⟩,
              fun hstage => absurd hstage (by rw [hstaging]; exact Bool.false_ne_true),
              fun s hs => absurd hs (by rw [hstaged]; exact List.not_mem_nil),
              fun r hr => absurd hr (by rw [hout]; nofun)⟩
          answered := fun r hr => absurd hr (by rw [hout]; nofun) }
      · obtain ⟨-, b, hb, hfile⟩ := hnew
        obtain rfl := Option.some.inj hb
        obtain rfl : f.file = file := hfile
        exact hfree ⟨other, hother, hinserts⟩

theorem reserveBatch_keeps (hdb : db.Sound world) (h : work.Sound world db)
    (hapart : ∀ other ∈ others, Apart other work) (id : Uuid) (createdAt : ℕ) :
    (reserveBatch world db others work id createdAt).Keeps world db others work := by
  unfold reserveBatch
  split
  · rename_i command hcmd hbatch
    split
    · rename_i facts hfacts
      exact selectBatch_keeps hdb h hapart hcmd hbatch hfacts id createdAt
    · trivial
  · trivial

theorem validate_response (h : validate world db batch = .ok response) :
    batch.response = some response := by
  simp only [validate, eq_ok] at h
  obtain ⟨r, hr, -, -, -, -, -, -, -, -, -, -, rfl⟩ := h
  exact hr

theorem finish_command (h : work.command = some command) :
    (work.finish batch response).command = some (if work.ownsCommand then
      { command with batchId := some batch.id, response := some response } else command) := by
  unfold Work.finish
  split
  · rw [h]
    rfl
  · exact h

theorem Apart.finish {other : Work} (h : Apart other work)
    (hbatch : work.ownsBatch = true → ∃ b, work.batch = some b ∧ b.file = batch.file) :
    Apart other (work.finish batch response) := by
  refine ⟨fun key hother hinserts => ?_, fun file hother hinserts => ?_⟩
  · obtain ⟨hown, c, hc, hkey⟩ := hinserts
    refine h.commands key hother ⟨hown, ?_⟩
    cases hcmd : work.command with
    | none =>
      unfold Work.finish at hc
      rw [hcmd] at hc
      split at hc <;> cases hc
    | some command =>
      rw [finish_command hcmd] at hc
      obtain rfl := Option.some.inj hc
      refine ⟨command, rfl, ?_⟩
      rw [← hkey]
      split <;> rfl
  · obtain ⟨hown, b, hb, hfile⟩ := hinserts
    obtain rfl := Option.some.inj hb
    obtain ⟨old, hold, heq⟩ := hbatch hown
    exact h.batches file hother ⟨hown, old, hold, by rw [heq, hfile]⟩

/-- A call that ends with the response of a batch of the tables. -/
theorem Work.Sound.finish_found (h : work.Sound world db) (hcmd : work.command = some command)
    (hbatch : work.batch = some batch) (hfound : work.ownsBatch = false)
    (hresp : batch.response = some response)
    (hdig : command.requestDigest = work.call.requestDigest world)
    (hheld : work.ownsCommand = false → command.batchId = some batch.id ∧ command.response = some response) :
    (work.finish batch response).Sound world db := by
  have hfin : (work.finish batch response).command = some (if work.ownsCommand then
      { command with batchId := some batch.id, response := some response } else command) :=
    finish_command hcmd
  have hkey : ∀ c, (work.finish batch response).command = some c →
      c.namespaceKey = command.namespaceKey ∧ c.requestDigest = command.requestDigest ∧
        c.projectId = command.projectId ∧ c.sourceId = command.sourceId := by
    intro c hc
    rw [hfin] at hc
    obtain rfl := Option.some.inj hc
    split <;> exact ⟨rfl, rfl, rfl, rfl⟩
  obtain ⟨c, f, hc, hf, hfile⟩ := h.selected batch hbatch
  obtain rfl := Option.some.inj (hcmd.symm.trans hc)
  exact {
    parsed := h.parsed
    begun := fun hnone => absurd hnone (by rw [hfin]; nofun)
    idle := fun hnone => absurd hnone (by rw [hfin]; nofun)
    unselected := nofun
    key := fun c hc => (hkey c hc).1.trans (h.key command hcmd)
    held := fun c hc hown => by
      rw [hfin, show work.ownsCommand = false from hown] at hc
      exact Option.some.inj hc ▸ h.held command hcmd hown
    reserved := fun c hc hown => by
      have hold := h.reserved command hcmd hown
      obtain ⟨-, hd, hp, hs⟩ := hkey c hc
      exact ⟨hold.fresh, hd.trans hold.digest, hp.trans hold.project, hs.trans hold.source, nofun⟩
    selected := fun b hb => by
      obtain rfl := Option.some.inj hb
      obtain ⟨-, -, hp, hs⟩ := hkey _ hfin
      exact ⟨_, f, hfin, by rw [hp, hs, hf], hfile⟩
    found := fun b hb _ => Option.some.inj hb ▸ h.found batch hbatch hfound
    building := fun b _ hown => absurd hown (by
      rw [show (work.finish batch response).ownsBatch = work.ownsBatch from rfl, hfound]
      exact Bool.false_ne_true)
    answered := fun r hr => by
      obtain rfl := Option.some.inj hr
      refine ⟨_, batch, hfin, rfl, hresp, (hkey _ hfin).2.1.trans hdig, ?_⟩
      cases hown : work.ownsCommand with
      | true => exact ⟨rfl, rfl⟩
      | false => exact (hheld hown).symm }

theorem conclude_keeps (hdb : db.Sound world) (h : work.Sound world db)
    (hapart : ∀ other ∈ others, Apart other work) (authorized : Bool) :
    (conclude world db work authorized).Keeps world db others work := by
  unfold conclude
  split
  · rename_i command batch hcmd hbatch
    split
    · trivial
    · rename_i hopen
      rw [not_or, Bool.not_eq_true, not_not] at hopen
      obtain ⟨hstaging, hout⟩ := hopen
      cases hwith : concludeWith world db work command batch authorized with
      | error error => trivial
      | ok after =>
        simp only [concludeWith, eq_ok] at hwith
        obtain ⟨selected, -, ⟨⟩, -, ⟨⟩, -, ⟨⟩, hdig, hwith⟩ := hwith
        have hheld : command.response ≠ none → work.ownsCommand = false := by
          intro hresp
          rw [← Bool.not_eq_true]
          exact fun hown => hresp ((h.reserved command hcmd hown).pending hout)
        have hfound : batch.response ≠ none → work.ownsBatch = false := by
          intro hresp
          rw [← Bool.not_eq_true]
          intro hown
          obtain ⟨-, -, parsed, hbuilding⟩ := h.building batch hbatch hown
          obtain ⟨c, id, createdAt, heq⟩ := hbuilding.batch_eq
          exact hresp (by rw [congrArg TaskImportBatch.response heq]; exact hout)
        have hsame : work.ownsBatch = true → ∃ b, work.batch = some b ∧ b.file = batch.file :=
          fun _ => ⟨batch, hbatch, rfl⟩
        split at hwith
        · rename_i _ r hresp
          simp only [eq_ok] at hwith
          obtain ⟨original, hvalid, ⟨⟩, hcheck, rfl⟩ := hwith
          have hno := hheld (by rw [hresp]; exact Option.some_ne_none _)
          have hnoBatch : work.ownsBatch = false := by
            rw [← Bool.not_eq_true]
            intro hown
            have hcommandOwn := (h.building batch hbatch hown).1
            rw [hno] at hcommandOwn
            exact Bool.false_ne_true hcommandOwn
          exact ⟨h.finish_found hcmd hbatch hnoBatch (validate_response hvalid) hdig
            (fun _ => hcheck), rfl, fun other hother => (hapart other hother).finish hsame⟩
        · rename_i hnone hresp
          simp only [eq_ok] at hwith
          obtain ⟨original, hvalid, rfl⟩ := hwith
          have hnoBatch := hfound (by rw [hresp]; exact Option.some_ne_none _)
          refine ⟨h.finish_found hcmd hbatch hnoBatch (validate_response hvalid) hdig
            (fun hno => ?_), rfl, fun other hother => (hapart other hother).finish hsame⟩
          exact absurd hnone (hdb.command_response_ne_none (h.held command hcmd hno))
        · rename_i hnone hpend
          simp only [eq_ok] at hwith
          obtain ⟨parsed, hparsed, ⟨⟩, -, rfl⟩ := hwith
          have hown : work.ownsBatch = true := by
            by_contra hno
            rw [Bool.not_eq_true] at hno
            exact hdb.response_ne_none (h.found batch hbatch hno).1 hpend
          obtain ⟨hownCommand, hfresh, p, hb⟩ := h.building batch hbatch hown
          obtain rfl := Option.some.inj (hb.parsed_eq.symm.trans hparsed)
          obtain ⟨hstaged, -, -⟩ := hb.unstaged hstaging
          refine ⟨?_, rfl, fun other hother => ⟨(hapart other hother).commands,
            (hapart other hother).batches⟩⟩
          exact { h with
            unselected := fun hnb => absurd hnb (by rw [hbatch]; simp)
            reserved := fun c hc hown => { h.reserved c hc hown with }
            found := fun b _ hno => absurd hno (by rw [hown]; simp)
            building := fun b hb' _ => by
              obtain rfl := Option.some.inj (hbatch.symm.trans hb')
              exact ⟨hownCommand, hfresh, p, { hb with
                unstaged := by simp
                rows := fun _ => by
                  rw [hstaged]
                  rfl
                outcome := fun r hr => absurd hr (by rw [hout]; simp) }⟩
            answered := fun r hr => absurd hr (by rw [hout]; simp) }
  · trivial

theorem stageRow_keeps (h : work.Sound world db) (hapart : ∀ other ∈ others, Apart other work)
    (ids : RowIds) : (stageRow world db others work ids).Keeps world db others work := by
  unfold stageRow
  split
  · rename_i batch row index rest hbatch hrem
    split
    · trivial
    · split
      · trivial
      · -- only a call that inserts the batch has rows left
        have hown : work.ownsBatch = true := by
          by_contra hno
          rw [Bool.not_eq_true] at hno
          exact List.cons_ne_nil _ _ (hrem.symm.trans (h.found batch hbatch hno).2.2.2)
        obtain ⟨hownCommand, hfresh, parsed, hb⟩ := h.building batch hbatch hown
        have houtcome : work.outcome = none := by
          cases hout : work.outcome with
          | none => rfl
          | some response =>
            exact absurd (hrem.symm.trans (hb.outcome response hout).2.1) (List.cons_ne_nil _ _)
        refine ⟨?_, rfl, fun other hother => ⟨(hapart other hother).commands, (hapart other hother).batches⟩⟩
        exact { h with
          unselected := fun hnone => absurd hnone (by rw [hbatch]; nofun)
          reserved := fun c hc hown => { h.reserved c hc hown with }
          found := fun b _ hno => absurd hno (by rw [hown]; nofun)
          building := fun b hb' _ => by
            obtain rfl := Option.some.inj (hbatch.symm.trans hb')
            exact ⟨hownCommand, hfresh, parsed, { hb with
              unstaged := fun hstaging =>
                absurd (hrem.symm.trans (hb.unstaged hstaging).2.1) (List.cons_ne_nil _ _)
              rows := fun hstaging => by
                rw [← hb.rows hstaging, hrem, List.map_append, List.append_assoc]
                rfl
              shape := Table.forall_append hb.shape ⟨ids, rfl⟩
              outcome := fun r hr => absurd hr (by rw [houtcome]; nofun) }⟩
          answered := fun r hr => absurd hr (by rw [houtcome]; nofun) }
  · trivial

theorem finishRows_keeps (h : work.Sound world db) (hapart : ∀ other ∈ others, Apart other work) :
    (finishRows work).Keeps world db others work := by
  unfold finishRows
  split
  · rename_i batch hbatch
    split
    · trivial
    · rename_i hopen
      rw [not_or, not_or, Bool.not_eq_false, not_not, not_not] at hopen
      obtain ⟨hstaging, hrem, hout⟩ := hopen
      dsimp only
      split
      · rename_i hcheck
        have hown : work.ownsBatch = true := by
          by_contra hno
          rw [Bool.not_eq_true] at hno
          exact Bool.false_ne_true ((h.found batch hbatch hno).2.1.symm.trans hstaging)
        obtain ⟨hownCommand, hfresh, parsed, hb⟩ := h.building batch hbatch hown
        obtain ⟨command, facts, hcmd, hfacts, hfile⟩ := h.selected batch hbatch
        have hresv := h.reserved command hcmd hownCommand
        have hfin : (work.finish { batch with response := some (creation batch work.staged) }
            (creation batch work.staged)).command = some { command with
              batchId := some batch.id, response := some (creation batch work.staged) } := by
          rw [finish_command hcmd, if_pos hownCommand]
        refine ⟨?_, rfl, fun other hother => (hapart other hother).finish (fun _ => ⟨batch, hbatch, rfl⟩)⟩
        exact {
          parsed := h.parsed
          begun := fun hnone => absurd hnone (by rw [hfin]; nofun)
          idle := fun hnone => absurd hnone (by rw [hfin]; nofun)
          unselected := nofun
          key := fun c hc => by
            obtain rfl := Option.some.inj (hfin.symm.trans hc)
            exact h.key command hcmd
          held := fun c _ hno => absurd (hownCommand.symm.trans hno) nofun
          reserved := fun c hc _ => by
            obtain rfl := Option.some.inj (hfin.symm.trans hc)
            exact ⟨hresv.fresh, hresv.digest, hresv.project, hresv.source, nofun⟩
          selected := fun b hb => Option.some.inj hb ▸ ⟨_, facts, hfin, hfacts, hfile⟩
          found := fun b _ hno => absurd (hown.symm.trans hno) nofun
          building := fun b hb' _ => by
            obtain rfl := Option.some.inj hb'
            obtain ⟨c, id, createdAt, heq⟩ := hb.batch_eq
            exact ⟨hownCommand, hfresh, parsed, { hb with
              batch_eq := ⟨c, id, createdAt, by rw [heq]; rfl⟩
              unstaged := fun hno => absurd (hstaging.symm.trans hno) nofun
              outcome := fun r hr => by
                obtain rfl := Option.some.inj hr
                exact ⟨hstaging, hrem, rfl, hcheck⟩ }⟩
          answered := fun r hr => by
            obtain rfl := Option.some.inj hr
            exact ⟨_, _, hfin, rfl, rfl, hresv.digest, rfl, rfl⟩ }
      · trivial
  · trivial

theorem commit_keeps (db : Database) (work : Work) (accepted : Bool) :
    (commit db work accepted).Keeps world db others work := by
  unfold commit
  split
  · trivial
  · rename_i response hout
    split
    · rename_i hacc
      exact ⟨rfl, hout, hacc.2⟩
    · trivial

theorem advance_keeps (hdb : db.Sound world) (h : work.Sound world db)
    (hapart : ∀ other ∈ others, Apart other work) (event : Event) :
    (advance world db others work event).Keeps world db others work := by
  cases event with
  | reserveCommand id => exact reserveCommand_keeps h hapart id
  | reserveBatch id createdAt => exact reserveBatch_keeps hdb h hapart id createdAt
  | conclude authorized => exact conclude_keeps hdb h hapart authorized
  | stageRow ids => exact stageRow_keeps h hapart ids
  | finishRows => exact finishRows_keeps h hapart
  | commit accepted => exact commit_keeps db work accepted
  | rollback => trivial

end Workstream.Imports
