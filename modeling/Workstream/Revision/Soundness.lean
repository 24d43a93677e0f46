import Workstream.Foundation.Tables
import Workstream.Revision.Changes

/-!
# What the rows of a task refer to

The invariant behind the results on rounds and windows: identifiers are unique, versions grow, every row
refers to rows that are there, and a receipt's assignment is no longer active.
-/

namespace Workstream.Revision
open Foundation Tasks

structure SubmissionRow where
  id : Uuid
  taskAssignmentId : Uuid
  version : Nat
  supersedesSubmissionId : Option Uuid
  lineage : TaskPolicyLineage

def Submission.row (s : Submission) : SubmissionRow :=
  ⟨s.id, s.taskAssignmentId, s.version, s.supersedesSubmissionId, s.lineage⟩

@[simp] theorem Submission.row_id (s : Submission) : s.row.id = s.id := rfl

@[simp] theorem Submission.row_version (s : Submission) : s.row.version = s.version := rfl

@[simp] theorem Submission.row_taskAssignmentId (s : Submission) :
    s.row.taskAssignmentId = s.taskAssignmentId := rfl

@[simp] theorem Submission.row_supersedesSubmissionId (s : Submission) :
    s.row.supersedesSubmissionId = s.supersedesSubmissionId := rfl

def Database.rows (db : Database) : List SubmissionRow := db.submissions.map Submission.row

def Database.Active (db : Database) (assignmentId : Uuid) : Prop :=
  ∃ assignment ∈ db.assignments, assignment.id = assignmentId ∧ assignment.status = .active

def Database.Settled (db : Database) (routingManifestId assignmentId : Uuid) : Prop :=
  (∃ m ∈ db.manifests, m.id = routingManifestId ∧ m.assignmentId = assignmentId) ∧ ¬db.Active assignmentId

/-- What holds of the rows of a task in every reachable state. -/
structure Sound (db : Database) : Prop where
  assignmentIds : (db.assignments.map Assignment.id).Nodup
  submissionIds : (db.rows.map SubmissionRow.id).Nodup
  manifestIds : (db.manifests.map RoutingManifest.id).Nodup
  preparationIds : (db.preparations.map Preparation.id).Nodup
  versions : db.rows.Pairwise (fun s t => s.version < t.version)
  owners : ∀ s ∈ db.rows, s.taskAssignmentId ∈ db.assignments.map Assignment.id
  supersedes : ∀ t ∈ db.rows, ∀ id, t.supersedesSubmissionId = some id →
    ∃ s ∈ db.rows, s.id = id ∧ s.version < t.version
  sources : ∀ m ∈ db.manifests, ∃ s ∈ db.rows, s.id = m.submissionId ∧ s.version = m.submissionVersion ∧
    s.taskAssignmentId = m.assignmentId
  chains : ∀ p ∈ db.preparations, ∃ m ∈ db.manifests, m.id = p.routingManifestId ∧
    m.submissionId = p.submissionId ∧ m.assignmentId = p.assignmentId
  predecessors : ∀ p ∈ db.preparations, ∀ id, p.predecessorId = some id → ∃ q ∈ db.preparations, q.id = id ∧
    q.routingManifestId = p.routingManifestId ∧ p.sequence = q.sequence + 1
  timers : ∀ p ∈ db.preparations, ∀ deadline, p.deadlineAt = some deadline →
    ∃ e ∈ db.events, e.Times p.routingManifestId deadline
  expired : ∀ e ∈ db.expirations, db.Settled e.routingManifestId e.assignmentId
  exhausted : ∀ e ∈ db.exhaustions, db.Settled e.routingManifestId e.assignmentId

variable {db after : Database} {a : Answers} {expirations : List Expiration}
  {exhaustions : List Exhaustion} {status : AssignmentStatus}

variable {id : Uuid} {assignment : Assignment} {m : RoutingManifest} {row : Preparation}

theorem findAssignment_eq_some (h : db.findAssignment id = some assignment) :
    assignment ∈ db.assignments ∧ assignment.id = id :=
  Table.find_eq_some h

variable {s : Submission}

theorem findSubmission_eq_some (h : db.findSubmission id = some s) :
    s ∈ db.submissions ∧ s.id = id :=
  Table.find_eq_some h

theorem findManifest_eq_some (h : db.findManifest id = some m) : m ∈ db.manifests ∧ m.id = id :=
  Table.find_eq_some h

theorem findPreparation_eq_some {p : Preparation} (h : db.findPreparation id = some p) :
    p ∈ db.preparations ∧ p.id = id :=
  Table.find_eq_some h

theorem active_of_find (h : db.findAssignment id = some assignment)
    (hact : assignment.status = .active) : db.Active id :=
  ⟨assignment, (findAssignment_eq_some h).1, (findAssignment_eq_some h).2, hact⟩

theorem row_mem (h : s ∈ db.submissions) : s.row ∈ db.rows := List.mem_map_of_mem h

variable {t : SubmissionRow}

theorem version_le_latest (h : db.latestSubmission = some s) (ht : t ∈ db.rows) :
    t.version ≤ s.version := by
  obtain ⟨u, hu, rfl⟩ := List.mem_map.mp ht
  exact List.le_of_mem_argmax hu h

theorem latest_mem (h : db.latestSubmission = some s) : s ∈ db.submissions :=
  List.argmax_mem h

theorem version_le_current {fenceCurrent : Bool}
    (h : db.revisionRoutingSourceCurrent fenceCurrent m = true) (ht : t ∈ db.rows) :
    t.version ≤ m.submissionVersion := by
  obtain ⟨u, hu, rfl⟩ := List.mem_map.mp ht
  simp only [Database.revisionRoutingSourceCurrent, decide_eq_true_eq, List.any_eq_true, Bool.not_eq_true',
    List.any_eq_false] at h
  obtain ⟨-, -, s, -, -, hver, hlater⟩ := h
  have := hlater u hu
  rw [← hver]
  exact Nat.le_of_not_lt this

/-- Nothing supersedes a submission that no other one is later than. -/
theorem Sound.not_superseded (h : Sound db) {s : SubmissionRow} (hs : s ∈ db.rows)
    (hlast : ∀ t ∈ db.rows, t.version ≤ s.version) (ht : t ∈ db.rows) :
    t.supersedesSubmissionId ≠ some s.id := by
  intro hsup
  obtain ⟨u, hu, hid, hver⟩ := h.supersedes t ht _ hsup
  have hsame : u = s := Table.eq_of_key_eq h.submissionIds hu hs hid
  have := hlast t ht
  rw [hsame] at hver
  omega

section Writes

variable (h : Sound db)
include h

theorem Sound.task (task : Task) : Sound { db with task } := { h with }

theorem Sound.clock (clock : Nat) : Sound { db with clock } := { h with }

theorem Sound.events (extra : List RevisionEvent) : Sound { db with events := db.events ++ extra } := by
  refine { h with timers := ?_ }
  intro p hp deadline hdeadline
  obtain ⟨e, he, hbefore⟩ := h.timers p hp deadline hdeadline
  exact ⟨e, List.mem_append_left extra he, hbefore⟩

theorem Sound.assignments (f : Assignment → Assignment) (hid : ∀ x, (f x).id = x.id)
    (hact : ∀ x, (f x).status = .active → x.status = .active) :
    Sound { db with assignments := db.assignments.map f } := by
  have hids : (db.assignments.map f).map Assignment.id = db.assignments.map Assignment.id := by
    rw [List.map_map]
    exact List.map_congr_left (fun x _ => hid x)
  have hsettled : ∀ {manifestId assignmentId}, db.Settled manifestId assignmentId →
      ({ db with assignments := db.assignments.map f } : Database).Settled manifestId assignmentId := by
    rintro manifestId assignmentId ⟨hm, hinactive⟩
    refine ⟨hm, ?_⟩
    rintro ⟨x, hx, hxid, hxactive⟩
    obtain ⟨y, hy, rfl⟩ := List.mem_map.mp hx
    exact hinactive ⟨y, hy, (hid y).symm.trans hxid, hact y hxactive⟩
  exact { h with
    assignmentIds := hids ▸ h.assignmentIds
    owners := fun s hs => hids ▸ h.owners s hs
    expired := fun e he => hsettled (h.expired e he)
    exhausted := fun e he => hsettled (h.exhausted e he) }

theorem Sound.of_rows {submissions : List Submission} (hrows : submissions.map Submission.row = db.rows) :
    Sound { db with submissions } := by
  have heq : ({ db with submissions } : Database).rows = db.rows := hrows
  exact { h with
    submissionIds := heq ▸ h.submissionIds
    versions := heq ▸ h.versions
    owners := heq ▸ h.owners
    supersedes := heq ▸ h.supersedes
    sources := heq ▸ h.sources }

end Writes

@[simp] theorem decide_rows (db : Database) (submissionId : Uuid) (outcome : AttemptStatus)
    (reason : Option StatusReason) (decidedAt : Option Nat) :
    (db.decide submissionId outcome reason decidedAt).rows = db.rows := by
  unfold Database.rows Database.decide
  rw [List.map_map]
  refine List.map_congr_left (fun s _ => ?_)
  simp only [Function.comp_apply]
  split <;> rfl

theorem Sound.decide (h : Sound db) (submissionId : Uuid) (outcome : AttemptStatus)
    (reason : Option StatusReason) (decidedAt : Option Nat) :
    Sound (db.decide submissionId outcome reason decidedAt) :=
  h.of_rows (decide_rows db submissionId outcome reason decidedAt)

theorem Sound.insertAssignment (h : Sound db)
    (hfresh : ∀ other ∈ db.assignments, other.id ≠ assignment.id) :
    Sound { db with assignments := db.assignments ++ [assignment] } := by
  have hnew := Table.not_mem_of_forall_ne hfresh
  have hsettled : ∀ {manifestId assignmentId}, db.Settled manifestId assignmentId →
      ({ db with assignments := db.assignments ++ [assignment] } : Database).Settled manifestId
        assignmentId := by
    rintro manifestId assignmentId ⟨⟨m, hm, hmid, hmassignment⟩, hinactive⟩
    refine ⟨⟨m, hm, hmid, hmassignment⟩, ?_⟩
    rintro ⟨x, hx, hxid, hxactive⟩
    rcases Table.mem_append hx with hx | rfl
    · exact hinactive ⟨x, hx, hxid, hxactive⟩
    · obtain ⟨s, hs, -, -, howner⟩ := h.sources m hm
      rw [← hmassignment, ← howner] at hxid
      exact hnew (hxid ▸ h.owners s hs)
  refine { h with
    assignmentIds := Table.nodup_append h.assignmentIds hnew
    owners := fun s hs => ?_
    expired := fun e he => hsettled (h.expired e he)
    exhausted := fun e he => hsettled (h.exhausted e he) }
  rw [List.map_append]
  exact List.mem_append_left _ (h.owners s hs)

variable {new : Submission}

theorem Sound.insertSubmission (h : Sound db) (hfresh : ∀ s ∈ db.submissions, s.id ≠ new.id)
    (hlater : ∀ s ∈ db.rows, s.version < new.version)
    (howner : new.taskAssignmentId ∈ db.assignments.map Assignment.id)
    (hsup : ∀ id, new.supersedesSubmissionId = some id → ∃ s ∈ db.rows, s.id = id) :
    Sound { db with submissions := db.submissions ++ [new] } := by
  have hrows : ({ db with submissions := db.submissions ++ [new] } : Database).rows = db.rows ++
      [new.row] := by
    simp [Database.rows]
  have hmono : ∀ s ∈ db.rows, s ∈ db.rows ++ [new.row] := fun s hs => List.mem_append_left _ hs
  refine { h with submissionIds := ?_, versions := ?_, owners := ?_, supersedes := ?_, sources := ?_ }
  · rw [hrows]
    refine Table.nodup_append h.submissionIds (Table.not_mem_of_forall_ne fun row hrow => ?_)
    obtain ⟨s, hs, rfl⟩ := List.mem_map.mp hrow
    exact hfresh s hs
  · rw [hrows, List.pairwise_append]
    refine ⟨h.versions, List.pairwise_singleton _ _, ?_⟩
    intro s hs t ht
    rw [List.mem_singleton.mp ht]
    exact hlater s hs
  · rw [hrows]
    exact Table.forall_append h.owners howner
  · rw [hrows]
    intro t ht id hid
    rcases Table.mem_append ht with ht | rfl
    · obtain ⟨s, hs, hsid, hver⟩ := h.supersedes t ht id hid
      exact ⟨s, hmono s hs, hsid, hver⟩
    · obtain ⟨s, hs, hsid⟩ := hsup id hid
      exact ⟨s, hmono s hs, hsid, hlater s hs⟩
  · rw [hrows]
    intro m hm
    obtain ⟨s, hs, hfacts⟩ := h.sources m hm
    exact ⟨s, hmono s hs, hfacts⟩

theorem Sound.insertManifest (h : Sound db) (hs : s ∈ db.submissions)
    (hfresh : ∀ other ∈ db.manifests, other.id ≠ m.id) (hsub : m.submissionId = s.id)
    (hver : m.submissionVersion = s.version) (hasgn : m.assignmentId = s.taskAssignmentId) :
    Sound { db with manifests := db.manifests ++ [m] } := by
  have hsettled : ∀ {manifestId assignmentId}, db.Settled manifestId assignmentId →
      ({ db with manifests := db.manifests ++ [m] } : Database).Settled manifestId assignmentId := by
    rintro manifestId assignmentId ⟨⟨other, hother, hfacts⟩, hinactive⟩
    exact ⟨⟨other, List.mem_append_left _ hother, hfacts⟩, hinactive⟩
  refine { h with
    manifestIds := Table.nodup_append h.manifestIds (Table.not_mem_of_forall_ne hfresh)
    sources := Table.forall_append h.sources ⟨s.row, row_mem hs, hsub.symm, hver.symm, hasgn.symm⟩
    chains := fun p hp => ?_
    expired := fun e he => hsettled (h.expired e he)
    exhausted := fun e he => hsettled (h.exhausted e he) }
  obtain ⟨other, hother, hfacts⟩ := h.chains p hp
  exact ⟨other, List.mem_append_left _ hother, hfacts⟩

/-- A new preparation belongs to a manifest, follows its predecessor and has its timer. -/
theorem Sound.insertPreparation (h : Sound db) (hm : m ∈ db.manifests)
    (hfresh : ∀ p ∈ db.preparations, p.id ≠ row.id) (hid : row.routingManifestId = m.id)
    (hsub : row.submissionId = m.submissionId) (hasgn : row.assignmentId = m.assignmentId)
    (hpred : ∀ id, row.predecessorId = some id → ∃ q ∈ db.preparations, q.id = id ∧
      q.routingManifestId = row.routingManifestId ∧ row.sequence = q.sequence + 1)
    (htimer : ∀ deadline, row.deadlineAt = some deadline →
      ∃ e ∈ db.events, e.Times row.routingManifestId deadline) :
    Sound { db with preparations := db.preparations ++ [row] } := by
  refine { h with
    preparationIds := Table.nodup_append h.preparationIds (Table.not_mem_of_forall_ne hfresh)
    chains := Table.forall_append h.chains ⟨m, hm, hid.symm, hsub.symm, hasgn.symm⟩
    predecessors := fun p hp id hpid => ?_
    timers := Table.forall_append h.timers htimer }
  rcases Table.mem_append hp with hp | rfl
  · obtain ⟨q, hq, hfacts⟩ := h.predecessors p hp id hpid
    exact ⟨q, List.mem_append_left _ hq, hfacts⟩
  · obtain ⟨q, hq, hfacts⟩ := hpred id hpid
    exact ⟨q, List.mem_append_left _ hq, hfacts⟩

theorem Sound.receipts (h : Sound db)
    (hexpired : ∀ e ∈ expirations, db.Settled e.routingManifestId e.assignmentId)
    (hexhausted : ∀ e ∈ exhaustions, db.Settled e.routingManifestId e.assignmentId) :
    Sound { db with expirations, exhaustions } :=
  { h with expired := hexpired, exhausted := hexhausted }

theorem not_active_release {assignmentId : Uuid} {releasedAt : Nat} (hstat : status ≠ .active) :
    ¬(db.release assignmentId status releasedAt).Active assignmentId := by
  rintro ⟨x, hx, hid, hact⟩
  obtain ⟨y, -, rfl⟩ := List.mem_map.mp hx
  by_cases hy : y.id = assignmentId
  · rw [if_pos hy] at hact
    exact hstat hact
  · rw [if_neg hy] at hid
    exact hy hid

theorem Sound.release (h : Sound db) (assignmentId : Uuid) (releasedAt : Nat) (hstat : status ≠ .active) :
    Sound (db.release assignmentId status releasedAt) := by
  refine (h.assignments _ ?_ ?_).task _
  · intro x
    split <;> rfl
  · intro x hx
    split at hx
    · exact absurd hx hstat
    · exact hx

theorem Sound.completeAssignment (h : Sound db) (assignmentId : Uuid) :
    Sound (db.completeAssignment assignmentId) := by
  refine (h.assignments _ ?_ ?_).task _
  · intro x
    split <;> rfl
  · intro x hx
    split at hx
    · cases hx
    · exact hx

/-- Adopting a target rewrites the task and the policy version of an assignment. -/
theorem adoptTarget_eq (db : Database) (row : Preparation) :
    ∃ task f, task.status = db.task.status ∧ (∀ x : Assignment, (f x).id = x.id ∧ (f x).status = x.status) ∧
      db.adoptTarget row = { db with task, assignments := db.assignments.map f } := by
  have hsame : ∃ task f, task.status = db.task.status ∧
      (∀ x : Assignment, (f x).id = x.id ∧ (f x).status = x.status) ∧
      db = { db with task, assignments := db.assignments.map f } :=
    ⟨db.task, id, rfl, fun x => ⟨rfl, rfl⟩, by simp⟩
  unfold Database.adoptTarget
  split
  · exact hsame
  · exact hsame
  · refine ⟨_, _, ?_, ?_, rfl⟩
    · rfl
    · intro x
      split <;> exact ⟨rfl, rfl⟩

theorem Prepared.after_eq {routed : Option Uuid} (h : Prepared db a routed m row after) :
    ∃ extra task f, task.status = db.task.status ∧
      (∀ x : Assignment, (f x).id = x.id ∧ (f x).status = x.status) ∧
      after = { db with
        events := db.events ++ extra
        preparations := db.preparations ++ [row]
        task
        assignments := db.assignments.map f } := by
  obtain ⟨extra, hafter⟩ := h.result
  obtain ⟨task, f, hstat, hf, hadopt⟩ := adoptTarget_eq
    { db with preparations := db.preparations ++ [row] } row
  rw [hadopt] at hafter
  exact ⟨extra, task, f, hstat, hf, hafter⟩

/-- A receipt's assignment is released before anything else refers to it. -/
theorem Sound.ended (h : Sound db) (hm : m ∈ db.manifests) (hasgn : m.assignmentId = id)
    (hstat : status ≠ .active)
    (hexpired : ∀ e ∈ expirations, e ∈ db.expirations ∨
      e.routingManifestId = m.id ∧ e.assignmentId = m.assignmentId)
    (hexhausted : ∀ e ∈ exhaustions, e ∈ db.exhaustions ∨
      e.routingManifestId = m.id ∧ e.assignmentId = m.assignmentId) (releasedAt : Nat)
    (submissionId : Uuid) (reason : Option StatusReason) (decidedAt : Option Nat) :
    Sound (({ db with expirations, exhaustions }).ended id status releasedAt submissionId reason
      decidedAt) := by
  subst hasgn
  have hrel : Sound (db.release m.assignmentId status releasedAt) := h.release _ _ hstat
  have hnew : (db.release m.assignmentId status releasedAt).Settled m.id m.assignmentId :=
    ⟨⟨m, hm, rfl, rfl⟩, not_active_release hstat⟩
  refine Sound.decide (hrel.receipts (fun e he => ?_) (fun e he => ?_)) _ _ _ _
  · rcases hexpired e he with hold | ⟨hid, hasgn⟩
    · exact hrel.expired e hold
    · rw [hid, hasgn]
      exact hnew
  · rcases hexhausted e he with hold | ⟨hid, hasgn⟩
    · exact hrel.exhausted e hold
    · rw [hid, hasgn]
      exact hnew

theorem Sound.exhaust (h : Sound db) {e : Exhaustion} (hm : m ∈ db.manifests)
    (hid : e.routingManifestId = m.id) (hasgn : m.assignmentId = e.assignmentId)
    (reason : Option StatusReason) (decidedAt : Option Nat) :
    Sound (db.exhausted e reason decidedAt) :=
  h.ended hm hasgn (by decide) (fun _ hx => .inl hx)
    (Table.forall_append (fun _ hx => .inl hx) (.inr ⟨hid, hasgn.symm⟩)) _ _ _ _

/-- The predecessor that the custody guard of a successor finds. -/
theorem guardCustody_predecessor {routed : Option Uuid} {observed : Nat} {policy : RevisionPolicy}
    (h : db.guardCustody routed observed policy row = .ok ()) (hid : row.predecessorId = some id) :
    ∃ q ∈ db.preparations, q.id = id ∧ q.routingManifestId = row.routingManifestId ∧
      row.sequence = q.sequence + 1 := by
  unfold Database.guardCustody at h
  rw [hid] at h
  simp only [Database.guardSuccessor, eq_ok] at h
  obtain ⟨prior, hprior, -, hfacts, -⟩ := h
  obtain ⟨hmem, hpid⟩ := findPreparation_eq_some hprior
  exact ⟨prior, hmem, hpid, hfacts.1, hfacts.2.1⟩

theorem checkPreparation_fresh (h : db.checkPreparation row = .ok ()) :
    ∀ p ∈ db.preparations, p.id ≠ row.id := by
  simp only [Database.checkPreparation, eq_ok, Bool.not_eq_true', List.any_eq_false,
    decide_eq_true_eq] at h
  obtain ⟨-, -, -, -, -, hfresh, -⟩ := h
  exact hfresh

theorem Sound.prepared (h : Sound db) {routed : Option Uuid}
    (hprep : Prepared db a routed m row after) : Sound after := by
  obtain ⟨found, s, assignment, policy, hsourced⟩ := guardRevisionPreparation_eq_ok hprep.guard
  obtain ⟨hfound, hfoundId⟩ := findManifest_eq_some hsourced.manifest_eq
  have htimer := hprep.timer
  obtain ⟨extra, task, f, -, hf, rfl⟩ := hprep.after_eq
  have hins := (h.events extra).insertPreparation hfound
    (checkPreparation_fresh hprep.check) hfoundId.symm hsourced.submissionId hsourced.assignmentId
    (fun id hid => guardCustody_predecessor hsourced.custody hid) htimer
  exact (hins.assignments f (fun x => (hf x).1) (fun x hx => (hf x).2 ▸ hx)).task task

theorem guardSubmissionRevisionCapacity_version
    (h : db.guardSubmissionRevisionCapacity new = .ok ()) :
    new.version = (db.latestSubmission.map (fun s => s.version)).getD 0 + 1 := by
  simp only [Database.guardSubmissionRevisionCapacity, eq_ok] at h
  exact h.choose_spec.1

/-- A superseding submission follows the latest one, of the same assignment, within its policy's cap. -/
theorem guardSubmissionRevisionCapacity_supersedes
    (h : db.guardSubmissionRevisionCapacity new = .ok ())
    (hid : new.supersedesSubmissionId = some id) :
    ∃ s policy, db.findSubmission id = some s ∧ db.latestSubmission.map (fun l => l.id) = some s.id ∧
      s.taskAssignmentId = new.taskAssignmentId ∧ db.policyOf new.lineage = some policy ∧
      db.countedSubmissions new.taskAssignmentId s.version ≤ policy.maxRevisionRounds := by
  simp only [Database.guardSubmissionRevisionCapacity, eq_ok] at h
  obtain ⟨-, -, h⟩ := h
  rw [hid] at h
  simp only [eq_ok] at h
  obtain ⟨s, hs, -, hfacts, policy, hpol, hcap⟩ := h
  exact ⟨s, policy, hs, hfacts.1, hfacts.2.1, hpol, hcap⟩

theorem version_lt_new (h : db.guardSubmissionRevisionCapacity new = .ok ()) {s : SubmissionRow}
    (hs : s ∈ db.rows) : s.version < new.version := by
  have hver := guardSubmissionRevisionCapacity_version h
  cases hlatest : db.latestSubmission with
  | none =>
    have hnil : db.submissions = [] := List.argmax_eq_none.mp hlatest
    simp [Database.rows, hnil] at hs
  | some latest =>
    have hle := version_le_latest hlatest hs
    rw [hlatest] at hver
    simp only [Option.map_some, Option.getD_some] at hver
    omega

theorem Sound.submitted (h : Sound db) (hnew : Submitted db new assignment) :
    Sound (db.submitted new) := by
  obtain ⟨hmem, hid⟩ := findAssignment_eq_some hnew.assignment_eq
  refine (h.insertSubmission hnew.fresh (fun s hs => version_lt_new hnew.capacity hs) ?_ ?_).task _
  · exact hid ▸ List.mem_map_of_mem hmem
  · intro id hsup
    obtain ⟨s, -, hs, -⟩ := guardSubmissionRevisionCapacity_supersedes hnew.capacity hsup
    obtain ⟨hsmem, hsid⟩ := findSubmission_eq_some hs
    exact ⟨s.row, row_mem hsmem, hsid⟩

theorem Sound.routed (h : Sound db) {r : RoutingRequest} {plan : RoutingPlan}
    (hrouted : Routed db a r s plan assignment) :
    Sound { db with manifests := db.manifests ++ [r.manifest s plan a.readings.now] } :=
  h.insertManifest (latest_mem hrouted.latest) hrouted.fresh rfl rfl rfl

/-- A returned submission, before its revision is prepared. -/
theorem Sound.returned (h : Sound db) (hs : s ∈ db.submissions)
    (hfresh : ∀ other ∈ db.manifests, other.id ≠ m.id) (hsub : m.submissionId = s.id)
    (hver : m.submissionVersion = s.version) (hasgn : m.assignmentId = s.taskAssignmentId)
    (reason : Option StatusReason) (decidedAt : Option Nat) :
    Sound (db.returned m reason decidedAt) :=
  ((h.insertManifest hs hfresh hsub hver hasgn).task _).decide _ _ _ _

theorem Sound.change {action : Action} (h : Sound db) (hchange : Change db action after) : Sound after := by
  cases hchange with
  | announced extra => exact h.events extra
  | claimed hclaimed => exact (h.insertAssignment hclaimed.fresh).task _
  | submitted hsubmitted => exact h.submitted hsubmitted
  | reviewed hrouted => exact ((h.routed hrouted).task _).decide _ _ _ _
  | accepted hrouted => exact ((h.routed hrouted).completeAssignment _).decide _ _ _ _
  | failed hrouted he reason decidedAt =>
    exact (h.routed hrouted).exhaust List.mem_concat_self he.manifestId
      he.assignmentId reason decidedAt
  | @returned a r s _ candidate _ _ _ _ _ hrouted _ _ hrow =>
    have hreturned := h.returned (m := r.returns a s candidate) (latest_mem hrouted.latest) hrouted.fresh
      rfl rfl rfl
    rcases hrow with ⟨-, extra, rfl⟩ | hprep
    · exact (hreturned _ _).events extra
    · exact (hreturned _ _).prepared hprep
  | prepared hm hprep => exact h.prepared hprep
  | exhausted hm _ _ he extra reason decidedAt =>
    exact (h.events extra).exhaust hm he.manifestId he.assignmentId reason decidedAt
  | expired he extra =>
    exact (h.events extra).ended (findManifest_eq_some he.manifest_eq).1 he.assignmentId (by decide)
      (Table.forall_append (fun _ hx => .inl hx) (.inr ⟨he.manifestId, he.assignmentId.symm⟩))
      (fun _ hx => .inl hx) _ _ _ _

theorem Sound.step (h : Sound db) (action : Action) : Sound (db.step action) := by
  unfold Database.step
  split
  · cases hperf : db.perform action with
    | error refusal => exact h
    | ok committed => exact (h.change (change_of_perform hperf)).clock _
  · exact h

theorem Sound.fresh (h : db.Fresh) : Sound db := by
  have hrows : db.rows = [] := by simp [Database.rows, h.submissions]
  refine ⟨?_, ?_, ?_, ?_, ?_, ?_, ?_, ?_, ?_, ?_, ?_, ?_, ?_⟩
  all_goals simp [hrows, h.assignments, h.manifests, h.preparations, h.expirations, h.exhaustions]

/-- A retained routing leaves sound rows: its root has its timer. -/
theorem Sound.retain (h : Sound db) {r : RetainedRouting} (hretain : db.retain r = .ok after) :
    Sound after := by
  simp only [Database.retain, eq_ok, Bool.not_eq_true', List.any_eq_false, decide_eq_true_eq] at hretain
  obtain ⟨-, -, s, hlatest, assignment, -, -, -, -, hfresh, hretain⟩ := hretain
  have hreturned : ∀ reason decidedAt, Sound (db.returned (r.manifest s) reason decidedAt) :=
    fun reason decidedAt => h.returned (latest_mem hlatest) hfresh rfl rfl rfl reason decidedAt
  cases hcand : r.candidate with
  | none =>
    rw [hcand] at hretain
    simp only [pure_eq_ok] at hretain
    rw [← hretain]
    exact hreturned _ _
  | some candidate =>
    rw [hcand] at hretain
    simp only [eq_ok, not_or] at hretain
    obtain ⟨-, hids, rfl⟩ := hretain
    obtain ⟨task, f, -, hf, hadopt⟩ := adoptTarget_eq _ _
    rw [hadopt]
    refine ((((hreturned _ _).events [_]).insertPreparation
      List.mem_concat_self (fun p hp => (hids p hp).1) rfl rfl rfl ?_
      ?_).assignments f (fun x => (hf x).1) (fun x hx => (hf x).2 ▸ hx)).task task
    · intro id hid
      cases hid
    · intro deadline hdeadline
      exact ⟨_, List.mem_concat_self, hdeadline, _, rfl, rfl,
        Option.some.inj hdeadline⟩

theorem Sound.entryStep (h : Sound db) (entry : Entry) : Sound (db.entryStep entry) := by
  cases entry with
  | action action => exact h.step action
  | retained r =>
    unfold Database.entryStep
    dsimp only
    split
    · cases hretain : db.retain r with
      | error refusal => exact h
      | ok committed => exact (h.retain hretain).clock _
    · exact h

/-- Every state of an upgraded deployment is sound. -/
theorem Sound.run (h : db.Fresh) (entries : List Entry) : Sound (run Database.entryStep db entries) :=
  run_invariant (Sound.fresh h) (fun _ entry hs => hs.entryStep entry) entries

end Workstream.Revision
