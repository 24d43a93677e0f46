import Workstream.Checkers.Retry
import Workstream.Foundation.Runs

/-!
# Evaluation custody of a submission

Workers and operators act on the runs of one submission in any order. Each transaction holds the locks of the
submission's fence and run to its end, so an interleaving is a list of actions; a refused one rolls back.
-/

namespace Workstream.Checkers
open Foundation Tasks

/-- One transaction. Only the creation of a submission reserves without a terminal source, and it asks for the
first generation. -/
inductive Action
  | claim (a : ClaimAnswers) (request : EvaluationRequest)
  | finalize (a : FinalizeAnswers) (facts : FinalizeFacts)
  | retry (a : RetryAnswers) (command : RetryCommand)
  | reserve (now : Nat) (canCreate : Bool) (ids : ReservationIds) (body : RequestBody)

def Action.now : Action → Nat
  | .claim a _ => a.now
  | .finalize a _ => a.now
  | .retry a _ => a.now
  | .reserve now _ _ _ => now

def Action.flushed : Action → Nat
  | .claim a _ => a.flushed
  | .finalize a _ => a.flushed
  | .retry a _ => a.now
  | .reserve now _ _ _ => now

variable (digests : Digests) {a : ClaimAnswers} {claim : Claim} {eventId : Uuid} {command : RetryCommand}
  {receipt : RetryReceipt}

def Database.perform (db : Database) : Action → Except Refusal Database
  | .claim a request => (db.claim digests a request).map (fun result => result.2)
  | .finalize a facts => (db.finalize digests a facts).map (fun result => result.2)
  | .retry a command => (db.retry digests a command).map (fun result => result.2)
  | .reserve _ canCreate ids body =>
    (db.reserveCurrentEvaluation digests canCreate ids
      (makeRequest digests { body with evaluationGeneration := 1 })).map (fun result => result.2)

/-- One transaction of a run; the clock does not go back. -/
def Database.step (db : Database) (action : Action) : Database :=
  if db.clock ≤ action.now then
    match db.perform digests action with
    | .ok after => { after with clock := action.flushed }
    | .error _ => db
  else db

variable {digests}

variable {db : Database} {request : EvaluationRequest} {run : CheckerRun}
  {kind : EvaluationEvent → Prop} {before : List EvaluationEvent} {result : EvaluationResult}
  {human : Bool} {ids : ReservationIds} {r : EvaluationReservation}

theorem lockCurrent_eq_ok (h : db.lockCurrent request = .ok run) :
    db.findRun db.currentRunId = some run ∧ run.storedRequest = request := by
  simp only [Database.lockCurrent, eq_ok] at h
  obtain ⟨found, hfound, ⟨⟩, ⟨hdig, hbody⟩, rfl⟩ := h
  refine ⟨hfound, ?_⟩
  rw [CheckerRun.storedRequest, hdig, hbody]

/-- A lease that a claim issues on the current run. -/
structure Leasing (db : Database) (a : ClaimAnswers) (lease : ExecutionLease) (run : CheckerRun) : Prop where
  current : db.findRun db.currentRunId = some run
  active : run.status.terminal = false
  unleased : run.status = .running → ∀ expires, run.workerLeaseExpiresAt = some expires → expires ≤ a.now
  reservation : lease.reservation = run.reservation
  generation : lease.leaseGeneration = run.workerLeaseGeneration + 1
  unexpired : a.flushed < lease.expiresAt

theorem guardLease_eq_ok {old new : CheckerRun} {flushed expires : Nat}
    (h : guardLease old new flushed = .ok ())
    (hexp : new.workerLeaseExpiresAt = some expires) : flushed < expires := by
  simp only [guardLease, require_eq_ok, hexp, Option.all_some, decide_eq_true_eq] at h
  exact h.2.2.2.1.1

variable {after : Database}

theorem acquireLease_eq_ok {prepared : PreparedExecution} (hcur : db.findRun db.currentRunId = some run)
    (hact : run.status.terminal = false)
    (h : db.acquireLease digests a prepared request run = .ok (claim, after)) :
    ∃ lease evidenceId, claim = .lease lease ∧ Leasing db a lease run ∧
      after = db.update (run.leased lease a.now evidenceId) := by
  simp only [Database.acquireLease, eq_ok] at h
  obtain ⟨⟨⟩, hfree, budgetMs, -, evidence, -, ⟨⟩, -, ⟨⟩, hguard, rfl, rfl⟩ := h
  refine ⟨_, evidence.evidenceId, rfl, ⟨hcur, hact, ?_, rfl, rfl, guardLease_eq_ok hguard rfl⟩, rfl⟩
  intro hrunning expires hlease
  by_contra hlt
  refine hfree ⟨hrunning, ?_⟩
  rw [hlease, Option.any_some, decide_eq_true_eq]
  exact Nat.lt_of_not_le hlt

/-- A claim that issues a lease, or one that reads the terminal result. -/
theorem claim_eq_ok (h : db.claim digests a request = .ok (claim, after)) :
    (after = db ∧ ∃ facts run, claim = .replay facts ∧ db.findRun db.currentRunId = some run ∧
      storedResult digests run = .ok facts.result) ∨
    ∃ lease run evidenceId, claim = .lease lease ∧ Leasing db a lease run ∧
      after = db.update (run.leased lease a.now evidenceId) := by
  simp only [Database.claim, bind_eq_ok] at h
  obtain ⟨prepared, -, run, hrun, h⟩ := h
  split at h
  · simp only [replayClaim, eq_ok] at h
    obtain ⟨replay, ⟨lease, -, evidenceId, -, ⟨⟩, -, result, hresult, rfl⟩, rfl, rfl⟩ := h
    exact .inl ⟨rfl, _, run, rfl, (lockCurrent_eq_ok hrun).1, hresult⟩
  · rename_i hterm
    obtain ⟨lease, evidenceId, hclaim, hleasing, hafter⟩ :=
      acquireLease_eq_ok (lockCurrent_eq_ok hrun).1 (Bool.eq_false_iff.mpr hterm) h
    exact .inr ⟨lease, run, evidenceId, hclaim, hleasing, hafter⟩

theorem append_eq_ok {event : EvaluationEvent} (h : db.append event = .ok (eventId, after)) :
    after = db ∨ event.idempotencyKey ∉ db.events.map EvaluationEvent.idempotencyKey ∧
      after = { db with events := db.events ++ [event] } := by
  unfold Database.append at h
  split at h
  · split at h
    · cases h
      exact .inl rfl
    · cases h
  · rename_i hnone
    cases h
    refine .inr ⟨?_, rfl⟩
    rw [List.mem_map]
    rintro ⟨e, he, hkey⟩
    exact (List.find?_eq_none.mp hnone e he) (by simpa using hkey)

def Published (kind : EvaluationEvent → Prop) (before after : List EvaluationEvent) : Prop :=
  after = before ∨ ∃ event, kind event ∧
    event.idempotencyKey ∉ before.map EvaluationEvent.idempotencyKey ∧ after = before ++ [event]

theorem Published.keys {after : List EvaluationEvent} (h : Published kind before after)
    (hkeys : (before.map EvaluationEvent.idempotencyKey).Nodup) :
    (after.map EvaluationEvent.idempotencyKey).Nodup := by
  rcases h with rfl | ⟨event, -, hkey, rfl⟩
  · exact hkeys
  · exact Table.nodup_append hkeys hkey

theorem Published.forall {after : List EvaluationEvent} {P : EvaluationEvent → Prop}
    (h : Published kind before after) (hold : ∀ event ∈ before, P event)
    (hnew : ∀ event, kind event → P event) : ∀ event ∈ after, P event := by
  rcases h with rfl | ⟨event, hkind, -, rfl⟩
  · exact hold
  · exact Table.forall_append hold (hnew event hkind)

/-- A terminal result that a finalization writes on the current run. -/
structure Finishing (db : Database) (a : FinalizeAnswers) (facts : FinalizeFacts)
    (run finished : CheckerRun) :
    Prop where
  current : db.findRun db.currentRunId = some run
  running : run.status = .running
  lease : run.lease = some facts.lease
  unexpired : a.flushed < facts.lease.expiresAt
  request : run.storedRequest = facts.request
  written : ∃ classification evidenceId completionEventId,
    finished = run.finished facts classification evidenceId completionEventId a.completed

theorem requireLease_eq_ok {now : Nat} {lease : ExecutionLease}
    (h : db.requireLease now request lease = .ok run) :
    db.lockCurrent request = .ok run ∧ run.status = .running ∧ run.lease = some lease := by
  simp only [Database.requireLease, eq_ok] at h
  obtain ⟨found, hfound, ⟨⟩, ⟨hrunning, hreservation, hid, hgen, hexp, -⟩, rfl⟩ := h
  refine ⟨hfound, hrunning, ?_⟩
  simp [CheckerRun.lease, hid, hexp, hreservation, hgen]

/-- Whether an event is the completion of a run. -/
def Completes (run : CheckerRun) (event : EvaluationEvent) : Prop :=
  event.idempotencyKey = "checker-completed:" ++ run.id

theorem completes_completionEvent (run : CheckerRun) (facts : FinalizeFacts) (routing : RoutingRecommendation)
    (executeId finalizeId eventId : Uuid) :
    Completes run (completionEvent run facts routing executeId finalizeId eventId) := rfl

theorem classify_routing {routing : RoutingRecommendation}
    (h : (classify result human).routing = some routing) : result.outcome = .completed := by
  unfold classify at h
  cases hout : result.outcome with
  | completed => rfl
  | infrastructureFailed =>
    rw [hout] at h
    cases h

theorem publishCompletion_eq_ok {facts : FinalizeFacts} {executeId finalizeId : Uuid}
    {completionEventId : Option Uuid}
    (h : db.publishCompletion run facts (classify facts.result human) executeId finalizeId eventId =
      .ok (completionEventId, after)) :
    ∃ events, after = { db with events } ∧
      Published (fun event => Completes run event ∧ facts.result.outcome = .completed) db.events events := by
  unfold Database.publishCompletion at h
  split at h
  · cases h
    exact ⟨db.events, rfl, .inl rfl⟩
  · rename_i routing hrouting
    simp only [eq_ok] at h
    obtain ⟨⟨appended, after'⟩, happend, -, rfl⟩ := h
    rcases append_eq_ok happend with rfl | ⟨hkey, rfl⟩
    · exact ⟨after'.events, rfl, .inl rfl⟩
    · exact ⟨_, rfl, .inr ⟨_, ⟨completes_completionEvent .., classify_routing hrouting⟩, hkey, rfl⟩⟩

theorem writeTerminal_eq_ok {a : FinalizeAnswers} {prepared : PreparedFinalization}
    {facts : FinalizeAuthorityFacts}
    (h : db.writeTerminal digests a prepared facts (classify facts.result human) = .ok (result, after)) :
    ∃ run finished events results, Finishing db a facts.toFinalizeFacts run finished ∧
      Published (fun event => Completes run event ∧ finished.status = .completed) db.events events ∧
      after = { db.update finished with events, results } := by
  simp only [Database.writeTerminal, eq_ok] at h
  obtain ⟨run, hrun, evidence, -, ⟨⟩, -, ⟨completionEventId, published⟩, hpub, ⟨⟩, hflushed, -, rfl⟩ := h
  obtain ⟨hlock, hrunning, hlease⟩ := requireLease_eq_ok hrun
  obtain ⟨hcur, hreq⟩ := lockCurrent_eq_ok hlock
  obtain ⟨events, rfl, hevents⟩ := publishCompletion_eq_ok hpub
  refine ⟨run, _, events, _, ⟨hcur, hrunning, hlease, hflushed, hreq, _, _, _, rfl⟩, ?_, rfl⟩
  refine hevents.imp_right ?_
  rintro ⟨event, ⟨hevent, hcomp⟩, hkey, happended⟩
  refine ⟨event, ⟨hevent, ?_⟩, hkey, happended⟩
  simp only [CheckerRun.finished, hcomp, Outcome.status]

/-- A finalization of a terminal run returns the stored result; another one writes under the current lease. -/
theorem finalize_eq_ok {a : FinalizeAnswers} {facts : FinalizeFacts}
    (h : db.finalize digests a facts = .ok (result, after)) :
    (∃ run, db.findRun db.currentRunId = some run ∧ run.status.terminal = true ∧ after = db ∧
      storedResult digests run = .ok result ∧ result = facts.result) ∨
    ∃ run finished events results, Finishing db a facts run finished ∧
      Published (fun event => Completes run event ∧ finished.status = .completed) db.events events ∧
      after = { db.update finished with events, results } := by
  simp only [Database.finalize, eq_ok] at h
  obtain ⟨⟨⟩, -, human, -, prepared, -, run, hrun, executeEvidenceId, -, h⟩ := h
  split at h
  · rename_i hterm
    simp only [replayFinalization, eq_ok] at h
    obtain ⟨replayed, ⟨stored, hstored, ⟨⟩, hsame, evidenceId, -, ⟨⟩, -, rfl⟩, rfl, rfl⟩ := h
    exact .inl ⟨run, (lockCurrent_eq_ok hrun).1, hterm, rfl, hstored, hsame.1⟩
  · exact .inr (writeTerminal_eq_ok h)

/-- A generation that follows a finalized infrastructure failure. -/
structure Succeeding (db : Database) (prior run : CheckerRun) : Prop where
  current : db.findRun db.currentRunId = some prior
  generation : run.evaluationGeneration = prior.evaluationGeneration + 1
  supersedes : run.supersedesCheckerRunId = some prior.id
  queued : run.status = .queued
  unleased : run.lease = none
  fresh : run.id ∉ db.runs.map CheckerRun.id

theorem insertSuccessor_eq_ok {prior : CheckerRun}
    (hcur : db.findRun db.currentRunId = some prior)
    (h : db.insertSuccessor ids request prior = .ok (r, after)) :
    ∃ run, Succeeding db prior run ∧ run.evaluationGeneration = request.evaluationGeneration ∧
      after = { db with runs := db.runs ++ [run], currentRunId := run.id } := by
  simp only [Database.insertSuccessor, eq_ok] at h
  obtain ⟨⟨⟩, hgen, ⟨⟩, hkeys, -, rfl⟩ := h
  refine ⟨queuedRun request ids.runId ids.resultId (some prior.id),
    ⟨hcur, hgen, rfl, rfl, rfl, ?_⟩, rfl, rfl⟩
  intro hmem
  obtain ⟨run, hrun, hid⟩ := List.mem_map.mp hmem
  rw [Bool.not_eq_true', List.any_eq_false] at hkeys
  refine hkeys run hrun ?_
  rw [decide_eq_true_eq]
  exact .inl hid

/-- A reservation with a source is a replay or follows that source, a finalized infrastructure failure. -/
theorem reserveAfterTaskLock_source {sourceId : Uuid}
    (h : db.reserveAfterTaskLock digests ids request (some sourceId) = .ok (r, after)) :
    after = db ∨ ∃ prior run, Succeeding db prior run ∧ prior.status = .infrastructureFailed ∧
      after = { db with runs := db.runs ++ [run], currentRunId := run.id } := by
  simp only [Database.reserveAfterTaskLock, bind_eq_ok] at h
  obtain ⟨replayed, -, h⟩ := h
  cases replayed with
  | some run =>
    simp only [pure_eq_ok] at h
    exact .inl (Prod.mk.inj h).2.symm
  | none =>
    simp only [requireTerminalSource, eq_ok] at h
    obtain ⟨prior, hprior, ⟨⟩, ⟨⟨⟩, hsrc, stored, -, -⟩, h⟩ := h
    obtain ⟨run, hrun, -, hafter⟩ := insertSuccessor_eq_ok hprior h
    exact .inr ⟨prior, run, hrun, hsrc.2.1, hafter⟩

theorem reserveAfterTaskLock_none
    (h : db.reserveAfterTaskLock digests ids request none = .ok (r, after)) :
    after = db ∨ ∃ prior, db.findRun db.currentRunId = some prior ∧
      request.evaluationGeneration = prior.evaluationGeneration + 1 := by
  simp only [Database.reserveAfterTaskLock, bind_eq_ok] at h
  obtain ⟨replayed, -, h⟩ := h
  cases replayed with
  | some run =>
    simp only [pure_eq_ok] at h
    exact .inl (Prod.mk.inj h).2.symm
  | none =>
    simp only [eq_ok] at h
    obtain ⟨prior, hprior, h⟩ := h
    obtain ⟨run, hrun, hgen, -⟩ := insertSuccessor_eq_ok hprior h
    exact .inr ⟨prior, hprior, hgen ▸ hrun.generation⟩

theorem reserveCurrentEvaluation_eq_ok {canCreate : Bool}
    (h : db.reserveCurrentEvaluation digests canCreate ids request = .ok (r, after)) :
    after = db ∨ ∃ prior, db.findRun db.currentRunId = some prior ∧
      request.evaluationGeneration = prior.evaluationGeneration + 1 := by
  simp only [Database.reserveCurrentEvaluation, bind_eq_ok] at h
  obtain ⟨⟨⟩, -, h⟩ := h
  cases canCreate with
  | true =>
    rw [if_pos rfl] at h
    exact reserveAfterTaskLock_none h
  | false =>
    simp only [Bool.false_eq_true, if_false, eq_ok] at h
    obtain ⟨replayed, -, run, -, -, hsame⟩ := h
    exact .inl hsame.symm

/-- Whether an event asks for the evaluation of a later generation. -/
def Requests (event : EvaluationEvent) : Prop := event.payload.isCompletion = false

theorem requests_retryRequestEvent (source : RetrySource) (receiptId : Uuid) (r : EvaluationReservation)
    (eventId : Uuid) : Requests (retryRequestEvent source receiptId r eventId) := rfl

/-- A retry may add the next generation, and it publishes at most its request. -/
structure Retrying (db after : Database) : Prop where
  runs : (after.runs = db.runs ∧ after.currentRunId = db.currentRunId) ∨
    ∃ prior run, Succeeding db prior run ∧ prior.status = .infrastructureFailed ∧
      after.runs = db.runs ++ [run] ∧ after.currentRunId = run.id
  events : Published Requests db.events after.events

theorem Retrying.refl (db : Database) : Retrying db db := ⟨.inl ⟨rfl, rfl⟩, .inl rfl⟩

theorem newRetry_eq_ok {a : RetryAnswers} {source : RetrySource}
    (h : db.newRetry digests a command request source = .ok (receipt, after)) : Retrying db after := by
  simp only [Database.newRetry, eq_ok, mapError_eq_ok] at h
  obtain ⟨⟨⟩, -, ⟨r, reservedDb⟩, hresv, ⟨⟩, -, ⟨eventId, appended⟩, happend, ⟨⟩, -, ⟨⟩, -, -, rfl⟩ := h
  have hevents : reservedDb.events = db.events := by
    rcases reserveAfterTaskLock_source hresv with rfl | ⟨prior, run, -, -, rfl⟩
    · rfl
    · rfl
  have hruns : appended.runs = reservedDb.runs ∧ appended.currentRunId = reservedDb.currentRunId := by
    rcases append_eq_ok happend with rfl | ⟨-, rfl⟩
    · exact ⟨rfl, rfl⟩
    · exact ⟨rfl, rfl⟩
  refine ⟨?_, ?_⟩
  · show (appended.runs = _ ∧ appended.currentRunId = _) ∨ ∃ prior run, _ ∧ _ ∧
      appended.runs = _ ∧ appended.currentRunId = _
    rw [hruns.1, hruns.2]
    rcases reserveAfterTaskLock_source hresv with rfl | ⟨prior, run, hrun, hprior, rfl⟩
    · exact .inl ⟨rfl, rfl⟩
    · exact .inr ⟨prior, run, hrun, hprior, rfl, rfl⟩
  · show Published Requests db.events appended.events
    rw [← hevents]
    rcases append_eq_ok happend with rfl | ⟨hkey, rfl⟩
    · exact .inl rfl
    · exact .inr ⟨_, requests_retryRequestEvent .., hkey, rfl⟩

theorem retry_eq_ok {a : RetryAnswers} (h : db.retry digests a command = .ok (receipt, after)) :
    Retrying db after := by
  simp only [Database.retry, bind_eq_ok] at h
  obtain ⟨⟨⟩, -, run, -, ⟨⟩, -, ⟨⟩, -, ⟨⟩, -, ⟨⟩, -, source, -, h⟩ := h
  split at h
  · simp only [Database.replayRetry, eq_ok] at h
    obtain ⟨⟨⟩, -, ⟨⟩, -, ⟨⟩, -, ⟨⟩, -, -, rfl⟩ := h
    exact .refl db
  · exact newRetry_eq_ok h

end Workstream.Checkers
