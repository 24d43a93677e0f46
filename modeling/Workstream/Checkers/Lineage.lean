import Workstream.Checkers.Custody
import Workstream.Foundation.Chains

/-! # The lineage of a submission's runs -/

namespace Workstream.Checkers
open Foundation Tasks

variable {digests : Digests} {request : EvaluationRequest} {ids : ReservationIds}
  {lease : ExecutionLease}

/-- The runs of a submission: one generation after the other, each of an earlier infrastructure failure, with
the fence at the end. A completion event belongs to a completed run. -/
structure Lineage (db : Database) : Prop where
  ids : (db.runs.map CheckerRun.id).Nodup
  chained : Chained CheckerRun.evaluationGeneration CheckerRun.supersedesCheckerRunId CheckerRun.id
    (fun run => decide (run.status = .infrastructureFailed)) db.runs
  fence : db.runs.getLast?.map CheckerRun.id = some db.currentRunId
  unclaimed : ∀ run ∈ db.runs, run.status = .queued → run.lease = none
  keys : (db.events.map EvaluationEvent.idempotencyKey).Nodup
  events : ∀ event ∈ db.events, Requests event ∨ ∃ run ∈ db.runs, run.status = .completed ∧
    Completes run event

theorem reserved_lineage {clock : Nat} (hfirst : request.evaluationGeneration = 1) :
    Lineage (reserved request ids clock) where
  ids := List.nodup_singleton _
  chained := Chained.singleton hfirst rfl
  fence := rfl
  unclaimed := by
    intro run hrun _
    rw [List.mem_singleton.mp hrun]
    rfl
  keys := List.nodup_nil
  events := by
    intro event h
    cases h

namespace Lineage

variable {db after : Database} {run : CheckerRun}

theorem getElem?_current (h : Lineage db) (hcur : db.findRun db.currentRunId = some run) :
    db.runs[db.runs.length - 1]? = some run := by
  obtain ⟨hmem, hid⟩ := Table.find_eq_some hcur
  obtain ⟨last, hlast, hlastId⟩ := Option.map_eq_some_iff.mp h.fence
  have heq : last = run :=
    Table.eq_of_key_eq h.ids (List.mem_of_getLast? hlast) hmem (hlastId.trans hid.symm)
  rw [← List.getLast?_eq_getElem?, hlast, heq]

theorem id_eq_current (h : Lineage db) (hrun : run ∈ db.runs) (hstat : run.status ≠ .infrastructureFailed) :
    run.id = db.currentRunId := by
  obtain ⟨i, hi⟩ := List.mem_iff_getElem?.mp hrun
  have hend := h.chained.last_of_open hi (by simpa using hstat)
  have hfence := h.fence
  rw [List.getLast?_eq_getElem?, ← hend, Nat.add_sub_cancel, hi] at hfence
  exact Option.some.inj hfence

/-- At most one run is completed. -/
theorem completed_unique (h : Lineage db) {run' : CheckerRun} (hrun : run ∈ db.runs) (hrun' : run' ∈ db.runs)
    (hstat : run.status = .completed) (hstat' : run'.status = .completed) : run = run' := by
  apply Table.eq_of_key_eq h.ids hrun hrun'
  rw [h.id_eq_current hrun (by rw [hstat]; nofun), h.id_eq_current hrun' (by rw [hstat']; nofun)]

theorem update (h : Lineage db) (run' : CheckerRun)
    (hcur : db.findRun db.currentRunId = some run) (hact : run.status.terminal = false)
    (hid : run'.id = run.id) (hgen : run'.evaluationGeneration = run.evaluationGeneration)
    (hpar : run'.supersedesCheckerRunId = run.supersedesCheckerRunId) (hstat : run'.status ≠ .queued)
    (hevents : Published (fun event => Completes run event ∧ run'.status = .completed) db.events after.events)
    (hruns : after.runs = (db.update run').runs) (hfence : after.currentRunId = db.currentRunId) :
    Lineage after := by
  obtain ⟨hmem, hrunId⟩ := Table.find_eq_some hcur
  have hrow : ∀ r ∈ db.runs, (r = run ∧ (if r.id = run'.id then run' else r) = run') ∨
      (r.id ≠ run.id ∧ (if r.id = run'.id then run' else r) = r) := by
    intro r hr
    by_cases hr' : r.id = run'.id
    · exact .inl ⟨Table.eq_of_key_eq h.ids hr hmem (hr'.trans hid), if_pos hr'⟩
    · exact .inr ⟨hid ▸ hr', if_neg hr'⟩
  have hids : after.runs.map CheckerRun.id = db.runs.map CheckerRun.id := by
    rw [hruns]
    exact Table.map_key_replace _ _
  have hkept : ∀ r ∈ db.runs, r.status = .completed → r ∈ after.runs := by
    intro r hr hcomp
    rw [hruns]
    apply Table.mem_replace_of_ne hr
    intro hkey
    rw [Table.eq_of_key_eq h.ids hr hmem (hkey.trans hid)] at hcomp
    rw [hcomp] at hact
    cases hact
  have hold : ∀ event ∈ db.events, Requests event ∨
      ∃ run ∈ after.runs, run.status = .completed ∧ Completes run event := by
    intro event hevent
    rcases h.events event hevent with hreq | ⟨r, hr, hcomp, hcompletes⟩
    · exact .inl hreq
    · exact .inr ⟨r, hkept r hr hcomp, hcomp, hcompletes⟩
  refine ⟨hids ▸ h.ids, ?_, ?_, ?_, hevents.keys h.keys, ?_⟩
  · rw [hruns]
    apply h.chained.map
    · intro r hr
      rcases hrow r hr with ⟨rfl, hr'⟩ | ⟨-, hr'⟩
      · rw [hr', hgen]
      · rw [hr']
    · intro r hr
      rcases hrow r hr with ⟨rfl, hr'⟩ | ⟨-, hr'⟩
      · rw [hr', hpar]
      · rw [hr']
    · intro r hr
      rcases hrow r hr with ⟨rfl, hr'⟩ | ⟨-, hr'⟩
      · rw [hr', hid]
      · rw [hr']
    · intro r hr hclosed
      rcases hrow r hr with ⟨rfl, -⟩ | ⟨-, hr'⟩
      · rw [of_decide_eq_true hclosed] at hact
        cases hact
      · rw [hr']
        exact hclosed
  · rw [← List.getLast?_map, hids, List.getLast?_map, h.fence, hfence]
  · intro r hr hqueued
    rw [hruns] at hr
    rcases Table.mem_replace hr with rfl | ⟨hr, -⟩
    · exact absurd hqueued hstat
    · exact h.unclaimed r hr hqueued
  · refine hevents.forall hold ?_
    rintro event ⟨hcompletes, hcomp⟩
    refine .inr ⟨run', ?_, hcomp, ?_⟩
    · rw [hruns]
      exact Table.mem_replace_self hmem hid.symm
    · rw [Completes, hid]
      exact hcompletes

theorem retry (h : Lineage db) (hretry : Retrying db after) : Lineage after := by
  obtain ⟨hruns, hpub⟩ := hretry
  have hkept : ∀ r ∈ db.runs, r ∈ after.runs := by
    intro r hr
    rcases hruns with ⟨hruns, -⟩ | ⟨prior, run, -, -, hruns, -⟩
    · rw [hruns]
      exact hr
    · rw [hruns]
      exact List.mem_append_left _ hr
  have hevents : ∀ event ∈ after.events, Requests event ∨
      ∃ run ∈ after.runs, run.status = .completed ∧ Completes run event := by
    refine hpub.forall ?_ (fun event hrequests => .inl hrequests)
    intro event hevent
    refine (h.events event hevent).imp_right ?_
    rintro ⟨r, hr, hcompletes⟩
    exact ⟨r, hkept r hr, hcompletes⟩
  rcases hruns with ⟨hruns, hfence⟩ | ⟨prior, run, hrun, hprior, hruns, hfence⟩
  · refine ⟨?_, ?_, ?_, ?_, hpub.keys h.keys, hevents⟩
    · rw [hruns]
      exact h.ids
    · rw [hruns]
      exact h.chained
    · rw [hruns, hfence]
      exact h.fence
    · rw [hruns]
      exact h.unclaimed
  · refine ⟨?_, ?_, ?_, ?_, hpub.keys h.keys, hevents⟩
    · rw [hruns]
      exact Table.nodup_append h.ids hrun.fresh
    · rw [hruns]
      exact h.chained.append (h.getElem?_current hrun.current) (by simpa using hprior) hrun.generation
        hrun.supersedes
    · rw [hruns, hfence, List.getLast?_append, List.getLast?_singleton]
      rfl
    · rw [hruns]
      intro r hr hqueued
      rcases Table.mem_append hr with hr | rfl
      · exact h.unclaimed r hr hqueued
      · exact hrun.unleased

theorem leased (h : Lineage db) {a : ClaimAnswers} {lease : ExecutionLease} {evidenceId : Uuid}
    (hleasing : Leasing db a lease run) : Lineage (db.update (run.leased lease a.now evidenceId)) :=
  h.update (run.leased lease a.now evidenceId) hleasing.current hleasing.active rfl rfl rfl nofun
    (.inl rfl) rfl rfl

theorem finished (h : Lineage db) {a : FinalizeAnswers} {facts : FinalizeFacts} {run' : CheckerRun}
    {events : List EvaluationEvent} {results : List CheckerResult} (hfin : Finishing db a facts run run')
    (hpub : Published (fun event => Completes run event ∧ run'.status = .completed) db.events events) :
    Lineage { db.update run' with events, results } := by
  have hact : run.status.terminal = false := by
    rw [hfin.running]
    rfl
  obtain ⟨classification, evidenceId, completionEventId, rfl⟩ := hfin.written
  have hterm : facts.result.outcome.status ≠ .queued := by
    cases facts.result.outcome with
    | completed => nofun
    | infrastructureFailed => nofun
  exact h.update (run.finished facts classification evidenceId completionEventId a.completed) hfin.current
    hact rfl rfl rfl hterm hpub rfl rfl

theorem reserve (h : Lineage db) {canCreate : Bool} {r : EvaluationReservation}
    (hfirst : request.evaluationGeneration = 1)
    (hresv : db.reserveCurrentEvaluation digests canCreate ids request = .ok (r, after)) :
    after = db := by
  rcases reserveCurrentEvaluation_eq_ok hresv with rfl | ⟨prior, hprior, hgen⟩
  · rfl
  · have hnum := h.chained.numbered _ _ (h.getElem?_current hprior)
    omega

theorem perform (h : Lineage db) {action : Action} (hperf : db.perform digests action = .ok after) :
    Lineage after := by
  cases action with
  | claim =>
    obtain ⟨⟨claim, after'⟩, hclaim, rfl⟩ := map_eq_ok.mp hperf
    rcases claim_eq_ok hclaim with ⟨rfl, -⟩ | ⟨lease, run, evidenceId, -, hleasing, rfl⟩
    · exact h
    · exact h.leased hleasing
  | finalize =>
    obtain ⟨⟨result, after'⟩, hfin, rfl⟩ := map_eq_ok.mp hperf
    rcases finalize_eq_ok hfin with ⟨run, -, -, rfl, -⟩ | ⟨run, run', events, results, hrun, hpub, rfl⟩
    · exact h
    · exact h.finished hrun hpub
  | retry =>
    obtain ⟨⟨receipt, after'⟩, hretry, rfl⟩ := map_eq_ok.mp hperf
    exact h.retry (retry_eq_ok hretry)
  | reserve =>
    obtain ⟨⟨r, after'⟩, hresv, rfl⟩ := map_eq_ok.mp hperf
    rw [h.reserve rfl hresv]
    exact h

theorem step (h : Lineage db) (action : Action) : Lineage (db.step digests action) := by
  unfold Database.step
  split
  · split
    · rename_i after hafter
      have hlin := h.perform hafter
      exact ⟨hlin.ids, hlin.chained, hlin.fence, hlin.unclaimed, hlin.keys, hlin.events⟩
    · exact h
  · exact h

end Lineage

/-- The runs after a transaction. -/
inductive RunsAfter (digests : Digests) (db : Database) : Action → List CheckerRun → Prop
  | unchanged {action : Action} : RunsAfter digests db action db.runs
  | leased {a : ClaimAnswers} {request : EvaluationRequest} {lease : ExecutionLease} {run : CheckerRun}
      {evidenceId : Uuid} {after : Database} (hclaim : db.claim digests a request = .ok (.lease lease, after))
      (hleasing : Leasing db a lease run) :
      RunsAfter digests db (.claim a request) (db.update (run.leased lease a.now evidenceId)).runs
  | finished {a : FinalizeAnswers} {facts : FinalizeFacts} {run run' : CheckerRun}
      (hfinishing : Finishing db a facts run run') :
      RunsAfter digests db (.finalize a facts) (db.update run').runs
  | succeeded {a : RetryAnswers} {command : RetryCommand} {prior run : CheckerRun}
      (hrun : Succeeding db prior run) : RunsAfter digests db (.retry a command) (db.runs ++ [run])

theorem perform_runs {db after : Database} {action : Action} (h : Lineage db)
    (hperf : db.perform digests action = .ok after) : RunsAfter digests db action after.runs := by
  cases action with
  | claim =>
    obtain ⟨⟨claim, after'⟩, hclaim, rfl⟩ := map_eq_ok.mp hperf
    rcases claim_eq_ok hclaim with ⟨rfl, -⟩ | ⟨lease, run, evidenceId, rfl, hleasing, rfl⟩
    · exact .unchanged
    · exact .leased hclaim hleasing
  | finalize =>
    obtain ⟨⟨result, after'⟩, hfin, rfl⟩ := map_eq_ok.mp hperf
    rcases finalize_eq_ok hfin with ⟨run, -, -, rfl, -⟩ | ⟨run, run', events, results, hrun, -, rfl⟩
    · exact .unchanged
    · exact .finished hrun
  | retry =>
    obtain ⟨⟨receipt, after'⟩, hretry, rfl⟩ := map_eq_ok.mp hperf
    rcases (retry_eq_ok hretry).runs with ⟨hruns, -⟩ | ⟨prior, run, hrun, -, hruns, -⟩
    · rw [hruns]
      exact .unchanged
    · rw [hruns]
      exact .succeeded hrun
  | reserve =>
    obtain ⟨⟨r, after'⟩, hresv, rfl⟩ := map_eq_ok.mp hperf
    rw [h.reserve rfl hresv]
    exact .unchanged

theorem step_runs {db : Database} (h : Lineage db) (action : Action) :
    RunsAfter digests db action (db.step digests action).runs := by
  unfold Database.step
  split
  · split
    · rename_i after hafter
      have hruns := perform_runs h hafter
      exact hruns
    · exact .unchanged
  · exact .unchanged

/-- What holds of the runs of a submission in every reached state. -/
structure Sequenced (db : Database) : Prop where
  ids : (db.runs.map CheckerRun.id).Nodup
  generations : ∀ i run, db.runs[i]? = some run → run.evaluationGeneration = i + 1
  first : ∀ run, db.runs[0]? = some run → run.supersedesCheckerRunId = none
  supersedes : ∀ i run next, db.runs[i]? = some run → db.runs[i + 1]? = some next →
    next.supersedesCheckerRunId = some run.id
  fence : db.runs.getLast?.map CheckerRun.id = some db.currentRunId
  failed : ∀ i run, db.runs[i]? = some run → i + 1 < db.runs.length → run.status = .infrastructureFailed
  completed : db.runs.countP (fun run => run.status = .completed) ≤ 1
  completions : db.events.countP (fun event => event.payload.isCompletion) ≤ 1

/-- What a transaction may do to the runs of a submission. -/
structure Guarded (digests : Digests) (db : Database) (action : Action) : Prop where
  /-- Runs stay, their lease generations only grow, and a terminal run does not change. -/
  kept : ∀ run ∈ db.runs, ∃ run' ∈ (db.step digests action).runs, run'.id = run.id ∧
    run.workerLeaseGeneration ≤ run'.workerLeaseGeneration ∧ (run.status.terminal = true → run' = run)
  /-- A lease that was not there was issued by a claim. -/
  leases : ∀ run' ∈ (db.step digests action).runs, ∀ lease, run'.lease = some lease →
    (∃ run ∈ db.runs, run.id = run'.id ∧ run.lease = some lease) ∨
      ∃ a request after, action = .claim a request ∧ db.claim digests a request = .ok (.lease lease, after)
  /-- A claim issues a lease on the run of the fence when no unexpired lease exists. -/
  issued : ∀ a request lease after, db.claim digests a request = .ok (.lease lease, after) →
    lease.reservation.attemptId = db.currentRunId ∧
      (∃ run ∈ db.runs, run.id = db.currentRunId ∧ lease.leaseGeneration = run.workerLeaseGeneration + 1) ∧
      ∀ run ∈ db.runs, run.status.terminal = false → ∀ held, run.lease = some held → held.expiresAt ≤ a.now
  /-- A terminal result that was not there was written on the run of the fence under its unexpired lease. -/
  results : ∀ run' ∈ (db.step digests action).runs, run'.status.terminal = true → run' ∈ db.runs ∨
    ∃ a facts run, action = .finalize a facts ∧ run ∈ db.runs ∧ run.id = run'.id ∧ run.id = db.currentRunId ∧
      run.status.terminal = false ∧ run.lease = some facts.lease ∧ a.flushed < facts.lease.expiresAt ∧
      run'.resultJson = some facts.result.toResultBody ∧ run'.resultDigest = some facts.result.resultDigest
  /-- A finalization that finds the run terminal returns its result or is refused, and changes nothing. -/
  replays : ∀ a facts run result after, db.findRun db.currentRunId = some run → run.status.terminal = true →
    db.finalize digests a facts = .ok (result, after) →
    after = db ∧ storedResult digests run = .ok result ∧ result = facts.result

theorem leased_lease {run : CheckerRun} {now : Nat} {evidenceId : Uuid}
    (h : lease.reservation = run.reservation) :
    (run.leased lease now evidenceId).lease = some lease := by
  cases lease
  cases h
  rfl

theorem lease_expiresAt {run : CheckerRun} (h : run.lease = some lease) :
    run.workerLeaseExpiresAt = some lease.expiresAt := by
  simp only [CheckerRun.lease, Option.bind_eq_bind, Option.bind_eq_some_iff] at h
  obtain ⟨leaseId, -, expiresAt, hexp, heq⟩ := h
  rw [hexp, ← Option.some.inj heq]

namespace Finishing

variable {db : Database} {a : FinalizeAnswers} {facts : FinalizeFacts} {run run' : CheckerRun}

theorem active (h : Finishing db a facts run run') : run.status.terminal = false := by
  rw [h.running]
  rfl

theorem id_eq (h : Finishing db a facts run run') : run'.id = run.id := by
  obtain ⟨classification, evidenceId, completionEventId, rfl⟩ := h.written
  rfl

theorem generation_eq (h : Finishing db a facts run run') :
    run'.workerLeaseGeneration = run.workerLeaseGeneration := by
  obtain ⟨classification, evidenceId, completionEventId, rfl⟩ := h.written
  rfl

theorem lease_eq (h : Finishing db a facts run run') : run'.lease = run.lease := by
  obtain ⟨classification, evidenceId, completionEventId, rfl⟩ := h.written
  rfl

end Finishing

namespace RunsAfter

variable {db : Database} {action : Action} {rows : List CheckerRun} {run' : CheckerRun}

theorem leases (h : RunsAfter digests db action rows) (hrun' : run' ∈ rows)
    (hlease : run'.lease = some lease) :
    (∃ run ∈ db.runs, run.id = run'.id ∧ run.lease = some lease) ∨
      ∃ a request after, action = .claim a request ∧
        db.claim digests a request = .ok (.lease lease, after) := by
  cases h with
  | unchanged => exact .inl ⟨run', hrun', rfl, hlease⟩
  | @leased a request lease' run evidenceId after hclaim hleasing =>
    rcases Table.mem_replace hrun' with rfl | ⟨hrun', -⟩
    · rw [leased_lease hleasing.reservation] at hlease
      obtain rfl := Option.some.inj hlease
      exact .inr ⟨a, request, after, rfl, hclaim⟩
    · exact .inl ⟨run', hrun', rfl, hlease⟩
  | @finished a facts run finished hfin =>
    rcases Table.mem_replace hrun' with rfl | ⟨hrun', -⟩
    · exact .inl ⟨run, (Table.find_eq_some hfin.current).1, hfin.id_eq.symm,
        hfin.lease_eq.symm.trans hlease⟩
    · exact .inl ⟨run', hrun', rfl, hlease⟩
  | succeeded hsucceeding =>
    rcases Table.mem_append hrun' with hrun' | rfl
    · exact .inl ⟨run', hrun', rfl, hlease⟩
    · rw [hsucceeding.unleased] at hlease
      cases hlease

theorem results (h : RunsAfter digests db action rows) (hrun' : run' ∈ rows)
    (hterm : run'.status.terminal = true) : run' ∈ db.runs ∨
    ∃ a facts run, action = .finalize a facts ∧ run ∈ db.runs ∧ run.id = run'.id ∧ run.id = db.currentRunId ∧
      run.status.terminal = false ∧ run.lease = some facts.lease ∧ a.flushed < facts.lease.expiresAt ∧
      run'.resultJson = some facts.result.toResultBody ∧
        run'.resultDigest = some facts.result.resultDigest := by
  cases h with
  | unchanged => exact .inl hrun'
  | leased =>
    rcases Table.mem_replace hrun' with rfl | ⟨hrun', -⟩
    · cases hterm
    · exact .inl hrun'
  | @finished a facts run finished hfin =>
    rcases Table.mem_replace hrun' with rfl | ⟨hrun', -⟩
    · obtain ⟨hmem, hid⟩ := Table.find_eq_some hfin.current
      refine .inr ⟨a, facts, run, rfl, hmem, hfin.id_eq.symm, hid, hfin.active, hfin.lease,
        hfin.unexpired, ?_⟩
      obtain ⟨classification, evidenceId, completionEventId, rfl⟩ := hfin.written
      exact ⟨rfl, rfl⟩
    · exact .inl hrun'
  | succeeded hsucceeding =>
    rcases Table.mem_append hrun' with hrun' | rfl
    · exact .inl hrun'
    · rw [hsucceeding.queued] at hterm
      cases hterm

end RunsAfter

theorem finalize_terminal {db after : Database} {a : FinalizeAnswers} {facts : FinalizeFacts}
    {run : CheckerRun} {result : EvaluationResult} (hrun : db.findRun db.currentRunId = some run)
    (hterm : run.status.terminal = true) (hfin : db.finalize digests a facts = .ok (result, after)) :
    after = db ∧ storedResult digests run = .ok result ∧ result = facts.result := by
  rcases finalize_eq_ok hfin with ⟨run', hrun', -, rfl, hstored, hres⟩ | ⟨run', _, _, _, hfinishing, -, -⟩
  · rw [hrun] at hrun'
    obtain rfl := Option.some.inj hrun'
    exact ⟨rfl, hstored, hres⟩
  · have hact := hfinishing.active
    rw [hfinishing.current] at hrun
    rw [Option.some.inj hrun, hterm] at hact
    cases hact

namespace Lineage

variable {db : Database} {action : Action}

/-- Two completion events would be of one run, under one key. -/
theorem countP_completions (h : Lineage db) :
    db.events.countP (fun event => event.payload.isCompletion) ≤ 1 := by
  have hcompletes : ∀ event ∈ db.events, event.payload.isCompletion = true →
      ∃ run ∈ db.runs, run.status = .completed ∧ Completes run event := by
    intro event hevent hcompletion
    rcases h.events event hevent with hrequests | hcompletes
    · rw [Requests, hcompletion] at hrequests
      cases hrequests
    · exact hcompletes
  refine Table.countP_le_one h.keys ?_
  intro event hevent event' hevent' hcompletion hcompletion'
  obtain ⟨run, hrun, hstat, hkey⟩ := hcompletes event hevent hcompletion
  obtain ⟨run', hrun', hstat', hkey'⟩ := hcompletes event' hevent' hcompletion'
  rw [h.completed_unique hrun' hrun hstat' hstat] at hkey'
  exact Eq.trans hkey hkey'.symm

theorem sequenced (h : Lineage db) : Sequenced db where
  ids := h.ids
  generations := h.chained.numbered
  first := h.chained.first
  supersedes := h.chained.linked
  fence := h.fence
  failed := by
    intro i run hrun hi
    exact of_decide_eq_true (h.chained.closed_before i run hrun hi)
  completed := by
    refine (List.countP_mono_left ?_).trans h.chained.countP_open_le_one
    intro run _ hcomp
    rw [of_decide_eq_true hcomp]
    rfl
  completions := h.countP_completions

theorem update_kept (h : Lineage db) {run old new : CheckerRun} (hrun : run ∈ db.runs)
    (hold : db.findRun db.currentRunId = some old) (hact : old.status.terminal = false)
    (hid : new.id = old.id) (hgen : old.workerLeaseGeneration ≤ new.workerLeaseGeneration) :
    ∃ run' ∈ (db.update new).runs, run'.id = run.id ∧
      run.workerLeaseGeneration ≤ run'.workerLeaseGeneration ∧ (run.status.terminal = true → run' = run) := by
  obtain ⟨hmem, -⟩ := Table.find_eq_some hold
  by_cases hne : run.id = new.id
  · obtain rfl := Table.eq_of_key_eq h.ids hrun hmem (hne.trans hid)
    refine ⟨new, Table.mem_replace_self hrun hne, hid, hgen, ?_⟩
    intro hterm
    rw [hact] at hterm
    cases hterm
  · exact ⟨run, Table.mem_replace_of_ne hrun hne, rfl, le_rfl, fun _ => rfl⟩

theorem unleased (h : Lineage db) {a : ClaimAnswers} {held : ExecutionLease} {run run' : CheckerRun}
    (hleasing : Leasing db a lease run) (hrun' : run' ∈ db.runs) (hact : run'.status.terminal = false)
    (hheld : run'.lease = some held) : held.expiresAt ≤ a.now := by
  obtain ⟨hmem, hid⟩ := Table.find_eq_some hleasing.current
  have hopen : run'.status ≠ .infrastructureFailed := by
    intro hstat
    rw [hstat] at hact
    cases hact
  obtain rfl := Table.eq_of_key_eq h.ids hmem hrun' (hid.trans (h.id_eq_current hrun' hopen).symm)
  have hrunning : run.status = .running := by
    cases hstat : run.status with
    | queued =>
      rw [h.unclaimed run hmem hstat] at hheld
      cases hheld
    | running => rfl
    | completed =>
      rw [hstat] at hact
      cases hact
    | infrastructureFailed => exact absurd hstat hopen
  exact hleasing.unleased hrunning _ (lease_expiresAt hheld)

theorem kept (h : Lineage db) {rows : List CheckerRun} (hrows : RunsAfter digests db action rows)
    {run : CheckerRun} (hrun : run ∈ db.runs) :
    ∃ run' ∈ rows, run'.id = run.id ∧ run.workerLeaseGeneration ≤ run'.workerLeaseGeneration ∧
      (run.status.terminal = true → run' = run) := by
  cases hrows with
  | unchanged => exact ⟨run, hrun, rfl, le_rfl, fun _ => rfl⟩
  | leased hclaim hleasing =>
    exact h.update_kept hrun hleasing.current hleasing.active rfl (Nat.le_of_lt hleasing.generation.ge)
  | finished hfin =>
    exact h.update_kept hrun hfin.current hfin.active hfin.id_eq hfin.generation_eq.ge
  | succeeded => exact ⟨run, List.mem_append_left _ hrun, rfl, le_rfl, fun _ => rfl⟩

theorem issued (h : Lineage db) {a : ClaimAnswers} {after : Database}
    (hclaim : db.claim digests a request = .ok (.lease lease, after)) :
    lease.reservation.attemptId = db.currentRunId ∧
      (∃ run ∈ db.runs, run.id = db.currentRunId ∧ lease.leaseGeneration = run.workerLeaseGeneration + 1) ∧
      ∀ run ∈ db.runs, run.status.terminal = false → ∀ held, run.lease = some held →
        held.expiresAt ≤ a.now := by
  rcases claim_eq_ok hclaim with ⟨-, facts, _, hreplay, -⟩ | ⟨issued, run, evidenceId, hissued, hleasing, -⟩
  · cases hreplay
  · obtain rfl := Claim.lease.inj hissued
    obtain ⟨hmem, hid⟩ := Table.find_eq_some hleasing.current
    refine ⟨?_, ⟨run, hmem, hid, hleasing.generation⟩, ?_⟩
    · rw [hleasing.reservation]
      exact hid
    · intro run' hrun' hact held hheld
      exact h.unleased hleasing hrun' hact hheld

theorem guarded (h : Lineage db) : Guarded digests db action where
  kept := fun _ hrun => h.kept (step_runs h action) hrun
  leases := fun _ hrun _ hlease => (step_runs h action).leases hrun hlease
  issued := fun _ _ _ _ hclaim => h.issued hclaim
  results := fun _ hrun hterm => (step_runs h action).results hrun hterm
  replays := fun _ _ _ _ _ hrun hterm hfin => finalize_terminal hrun hterm hfin

end Lineage

/-- In every state that the transactions of workers and operators reach after the first reservation of a
submission, its runs are in sequence, and every next transaction keeps their custody. -/
theorem evaluationCustody (digests : Digests) (request : EvaluationRequest)
    (hfirst : request.evaluationGeneration = 1) (ids : ReservationIds) (clock : Nat) (actions : List Action) :
    Sequenced (run (Database.step digests) (reserved request ids clock) actions) ∧
      ∀ action, Guarded digests (run (Database.step digests) (reserved request ids clock) actions)
        action := by
  have hlin : Lineage (run (Database.step digests) (reserved request ids clock) actions) :=
    run_invariant (reserved_lineage hfirst) (fun db action h => h.step action) actions
  exact ⟨hlin.sequenced, fun action => hlin.guarded⟩

def sampleDigests : Digests where
  request := fun body => body.evaluationRequestId
  result := fun body => body.resultId
  execute := fun facts => facts.lease.leaseId
  finalize := fun facts => facts.executeEvidenceId

def sampleRequest : EvaluationRequest where
  projectId := "project"
  expectedContext := ⟨"policy", "review", ""⟩
  policy := ⟨"policy", []⟩
  evaluationRequestId := "request-1"
  evaluationGeneration := 1
  taskId := "task"
  assignmentId := "assignment"
  submissionId := "submission"
  submissionVersion := 1
  contentId := "content"
  bindingId := "binding"
  contentSha256 := "sha256"
  byteCount := 0
  requestSha256 := "request-1"

def sampleRetried : EvaluationRequest :=
  { sampleRequest with
    evaluationRequestId := "request-2", evaluationGeneration := 2, requestSha256 := "request-2" }

def sampleClaim (request : EvaluationRequest) (leaseId : Uuid) (now : Nat) : Action :=
  .claim ⟨now, now, le_rfl, fun _ => .ok ⟨fun facts => .ok ⟨"execute", facts.lease.leaseId⟩,
    fun _ _ => .ok ()⟩,
    leaseId⟩ request

def sampleFinalize (request : EvaluationRequest) (lease : ExecutionLease) (result : ResultBody)
    (material : Option VerifiedMaterialFacts) (now : Nat) : Action :=
  .finalize ⟨now, now, now, le_rfl, le_rfl, some false,
      fun _ => .ok ⟨fun facts => .ok ⟨"finalize", facts.executeEvidenceId⟩, fun _ _ => .ok ()⟩, "completion"⟩
    { request, lease, material
      result := { result with resultDigest := result.resultId }
      inputMaterializationEvidenceId := material.map (fun _ => "input")
      inputContextCustody := none }

def sampleLease (request : EvaluationRequest) (runId resultId leaseId : Uuid) (now : Nat) : ExecutionLease :=
  ⟨⟨request.evaluationRequestId, request.requestSha256, runId, resultId,
    request.evaluationGeneration⟩, leaseId, 1,
    now + leaseMicroseconds 60000⟩

def sampleActions : List Action :=
  [ sampleClaim sampleRequest "lease-1" 10,
    sampleFinalize sampleRequest (sampleLease sampleRequest "run-1" "result-1" "lease-1" 10)
      ⟨"request-1", "request-1", "run-1", 1, "result-1", .infrastructureFailed, none,
        some .deadlineExceeded⟩ none 20,
    .retry ⟨30, true, true, true, true, true, "request-2", ⟨"run-2", "result-2"⟩, "receipt", "event"⟩
      ⟨"operator", "project", "run-1", "key", "the deadline was too short"⟩,
    sampleClaim sampleRetried "lease-2" 40,
    sampleFinalize sampleRetried (sampleLease sampleRetried "run-2" "result-2" "lease-2" 40)
      ⟨"request-2", "request-2", "run-2", 2, "result-2", .completed, some ⟨"policy", 0, []⟩, none⟩
      (some ⟨"submission", 1, "admission", "binding", "content", "replica", "sha256", 0, ""⟩) 50 ]

theorem evaluationCustody_retriedSample :
    let db := run (Database.step sampleDigests) (reserved sampleRequest ⟨"run-1", "result-1"⟩ 0) sampleActions
    db.runs.map CheckerRun.status = [.infrastructureFailed, .completed] ∧
      sampleRequest.evaluationGeneration = 1 ∧ Sequenced db ∧ ∀ action, Guarded sampleDigests db action :=
  ⟨by decide +kernel, rfl, evaluationCustody sampleDigests sampleRequest rfl
    ⟨"run-1", "result-1"⟩ 0 sampleActions⟩

namespace Lineage

variable {db : Database} {row : CheckerRun}

theorem findRun_current (h : Lineage db) (hrow : row ∈ db.runs) (hcomp : row.status = .completed) :
    db.findRun db.currentRunId = some row := by
  rw [← h.id_eq_current hrow (by simp [hcomp])]
  exact Table.find_of_mem h.ids hrow

theorem not_active (h : Lineage db) (hrow : row ∈ db.runs) (hcomp : row.status = .completed)
    {current : CheckerRun} (hcurrent : db.findRun db.currentRunId = some current) :
    current.status.terminal ≠ false := by
  obtain rfl := Option.some.inj ((h.findRun_current hrow hcomp).symm.trans hcurrent)
  simp [hcomp, RunStatus.terminal]

theorem step_runs_of_completed (h : Lineage db) (hrow : row ∈ db.runs) (hcomp : row.status = .completed)
    (action : Action) : (db.step digests action).runs = db.runs := by
  have hnext : Lineage (db.step digests action) := h.step action
  have hrows : RunsAfter digests db action (db.step digests action).runs := step_runs h action
  generalize hafter : (db.step digests action).runs = rows at hrows
  cases hrows with
  | unchanged => rfl
  | leased _ hleasing => exact absurd hleasing.active (h.not_active hrow hcomp hleasing.current)
  | finished hfin => exact absurd hfin.active (h.not_active hrow hcomp hfin.current)
  | succeeded hsucc =>
    -- The next generation would be the run of the fence, which the completed one still is.
    have hid := hnext.id_eq_current (hafter ▸ List.mem_append_left _ hrow) (by simp [hcomp])
    have hfence := hnext.fence
    rw [hafter, List.getLast?_concat, Option.map_some, ← hid, Option.some.injEq] at hfence
    exact absurd (hfence ▸ List.mem_map_of_mem hrow) hsucc.fresh

theorem run_runs_of_completed (h : Lineage db) (hrow : row ∈ db.runs) (hcomp : row.status = .completed)
    (actions : List Action) : (run (Database.step digests) db actions).runs = db.runs := by
  refine (run_invariant (I := fun s => Lineage s ∧ s.runs = db.runs) ⟨h, rfl⟩ ?_ actions).2
  rintro s action ⟨hs, hruns⟩
  exact ⟨hs.step action, (hs.step_runs_of_completed (hruns ▸ hrow) hcomp action).trans hruns⟩

end Lineage

/-- A completed evaluation is final: whatever workers and operators do afterwards, its submission's runs
stay as they are, and claims and finalizations that are answered get its stored result, never a lease. -/
theorem completed_final (digests : Digests) (request : EvaluationRequest)
    (hfirst : request.evaluationGeneration = 1) (ids : ReservationIds) (clock : Nat)
    (earlier later : List Action) :
    let db := run (Database.step digests) (reserved request ids clock) earlier
    let db' := run (Database.step digests) db later
    ∀ row ∈ db.runs, row.status = .completed → db'.runs = db.runs ∧
      (∀ a request claim after, db'.claim digests a request = .ok (claim, after) →
        after = db' ∧ ∃ facts, claim = .replay facts ∧ storedResult digests row = .ok facts.result) ∧
      ∀ a facts result after, db'.finalize digests a facts = .ok (result, after) →
        after = db' ∧ storedResult digests row = .ok result ∧ result = facts.result := by
  intro db db' row hrow hcomp
  have hdb : Lineage db := run_invariant (reserved_lineage hfirst) (fun _ action h => h.step action) earlier
  have hdb' : Lineage db' := run_invariant hdb (fun _ action h => h.step action) later
  have hruns : db'.runs = db.runs := hdb.run_runs_of_completed hrow hcomp later
  have hrow' : row ∈ db'.runs := hruns ▸ hrow
  refine ⟨hruns, ?_, ?_⟩
  · intro a request claim after hclaim
    rcases claim_eq_ok hclaim with ⟨hafter, facts, run, hreplay, hrun, hresult⟩ |
      ⟨lease, run, evidenceId, -, hleasing, -⟩
    · obtain rfl := Option.some.inj ((hdb'.findRun_current hrow' hcomp).symm.trans hrun)
      exact ⟨hafter, facts, hreplay, hresult⟩
    · exact absurd hleasing.active (hdb'.not_active hrow' hcomp hleasing.current)
  · intro a facts result after hfin
    exact finalize_terminal (hdb'.findRun_current hrow' hcomp) (by simp [hcomp, RunStatus.terminal]) hfin

theorem completed_final_retriedSample :
    let db := run (Database.step sampleDigests) (reserved sampleRequest ⟨"run-1", "result-1"⟩ 0) sampleActions
    (run (Database.step sampleDigests) db [sampleClaim sampleRetried "lease-3" 60]).runs = db.runs := by
  intro db
  obtain ⟨row, hrow, hcomp⟩ : ∃ row ∈ db.runs, row.status = .completed := by decide +kernel
  exact (completed_final sampleDigests sampleRequest rfl ⟨"run-1", "result-1"⟩ 0 sampleActions _ row
    hrow hcomp).1

end Workstream.Checkers
