import Workstream.Outbox.History
import Workstream.Outbox.Production

/-!
# No repeat after an unknown effect

An invocation marker is committed before the handler runs.
-/

namespace Workstream.Outbox
open Foundation

def Entry.marker : Entry → Option (Nat × OutboxClaim)
  | .invoked worker claim => some (worker, claim)
  | _ => none

def markers (log : List Entry) : List (Nat × OutboxClaim) := log.filterMap Entry.marker

/-- An entry about a handler's run. -/
def Entry.ofHandler : Entry → Bool
  | .invoked .. => true
  | .handlerEnded .. => true
  | _ => false

variable {worker w : Nat} {claim : OutboxClaim} {s' : State} {sha256 : String → String}
  {d : OutboxDelivery}

theorem mem_markers {log : List Entry} :
    (worker, claim) ∈ markers log ↔ .invoked worker claim ∈ log := by
  simp only [markers, List.mem_filterMap]
  constructor
  · rintro ⟨e, he, hmark⟩
    cases e <;> simp only [Entry.marker, Option.some.injEq, Prod.mk.injEq, reduceCtorEq] at hmark
    obtain ⟨rfl, rfl⟩ := hmark
    exact he
  · intro h
    exact ⟨_, h, rfl⟩

@[simp] theorem markers_append (log entries : List Entry) :
    markers (log ++ entries) = markers log ++ markers entries :=
  List.filterMap_append

/-- Markers and handler runs in the history of a state. -/
structure Markers (s : State) : Prop where
  ordered : (markers s.log).Pairwise fun p q => p.2.claimGeneration < q.2.claimGeneration
  marked : ∀ worker claim, .invoked worker claim ∈ s.log →
    ∃ a ∈ s.rows.attempts, a.toClaimFields = claim.toClaimFields ∧ a.invokedAt ≠ none
  running : ∀ worker claim envelope readAt, s.tasks worker = .running claim envelope readAt →
    .invoked worker claim ∈ s.log ∧ ∀ w h, .handlerEnded w claim h ∉ s.log
  ended : ∀ worker claim h, .handlerEnded worker claim h ∈ s.log → .invoked worker claim ∈ s.log
  once : ∀ worker worker' claim h h', .handlerEnded worker claim h ∈ s.log →
    .handlerEnded worker' claim h' ∈ s.log → h = h'

theorem markers_start (facts : EventFacts) : Markers (start facts) where
  ordered := by simp [start, markers]
  marked := by simp [start]
  running := by simp [start]
  ended := by simp [start]
  once := by simp [start]

namespace Markers

variable {s : State}

/-- Two markers of one generation are one marker. -/
theorem worker_eq (h : Markers s) {w' : Nat} {claim' : OutboxClaim} (hw : .invoked w claim ∈ s.log)
    (hw' : .invoked w' claim' ∈ s.log) (hsame : claim.claimGeneration = claim'.claimGeneration) :
    w = w' := by
  have hdistinct : ((markers s.log).map fun p => p.2.claimGeneration).Nodup :=
    List.pairwise_map.mpr (h.ordered.imp fun hlt => Nat.ne_of_lt hlt)
  have heq := Table.eq_of_key_eq hdistinct (mem_markers.mpr hw) (mem_markers.mpr hw') hsame
  exact congrArg Prod.fst heq

theorem marked_persists (h : Markers s) {rows : Custody} (hrows : Persists s.rows rows)
    (hinv : .invoked worker claim ∈ s.log) :
    ∃ a ∈ rows.attempts, a.toClaimFields = claim.toClaimFields ∧ a.invokedAt ≠ none := by
  obtain ⟨a, ha, hfields, hmark⟩ := h.marked worker claim hinv
  obtain ⟨a', ha', hfields', hsame, -⟩ := hrows a ha
  exact ⟨a', ha', hfields'.trans hfields, by rwa [hsame hmark]⟩

theorem quiet (h : Markers s) {entries : List Entry} (hrows : Persists s.rows s'.rows)
    (hlog : s'.log = s.log ++ entries) (hentries : ∀ e ∈ entries, e.ofHandler = false)
    (htasks : ∀ worker claim envelope readAt, s'.tasks worker = .running claim envelope readAt →
      s.tasks worker = .running claim envelope readAt) : Markers s' := by
  have hmem : ∀ e : Entry, e.ofHandler = true → e ∈ s'.log → e ∈ s.log := by
    intro e hhandler he
    rw [hlog] at he
    rcases List.mem_append.mp he with he | he
    · exact he
    · rw [hentries e he] at hhandler
      cases hhandler
  have hkept : ∀ e ∈ s.log, e ∈ s'.log := by
    intro e he
    rw [hlog]
    exact List.mem_append_left _ he
  have hmarkers : markers entries = [] := by
    rw [markers, List.filterMap_eq_nil_iff]
    intro e he
    have hno := hentries e he
    cases e <;> first | rfl | cases hno
  refine ⟨?_, ?_, ?_, ?_, ?_⟩
  · rw [hlog, markers_append, hmarkers, List.append_nil]
    exact h.ordered
  · intro worker claim hinv
    exact h.marked_persists hrows (hmem _ rfl hinv)
  · intro worker claim envelope readAt htask
    obtain ⟨hinv, hopen⟩ := h.running worker claim envelope readAt (htasks _ _ _ _ htask)
    exact ⟨hkept _ hinv, fun w run hended => hopen w run (hmem _ rfl hended)⟩
  · intro worker claim run hended
    exact hkept _ (h.ended worker claim run (hmem _ rfl hended))
  · intro worker worker' claim run run' hended hended'
    exact h.once worker worker' claim run run' (hmem _ rfl hended) (hmem _ rfl hended')

/-- A marker is committed for a generation above all generations with a marker. -/
theorem invoked (h : Markers s) {sha256 : String → String} {d : OutboxDelivery} {facts : EventFacts}
    (hhist : History sha256 d facts s) {worker : Nat} {claim : OutboxClaim}
    {attempt : OutboxDeliveryAttempt} {i : TxInput} {decisionId : Uuid} {now readAt t : Nat}
    {envelope : OutboxEventEnvelope} (hinvokes : Invokes sha256 d s.rows claim attempt i decisionId) :
    Markers (((s.commit (invokeWrite attempt now decisionId) t).setTask worker
      (.running claim envelope readAt)).record [.invoked worker claim]) := by
  obtain ⟨hmem, hgen⟩ := Custody.findAttempt_eq_some hinvokes.found
  obtain ⟨-, -, -, -, hcur, -⟩ := matchesEvent_iff.mp hinvokes.shown
  have hunmarked := hhist.unmarked attempt hmem hinvokes.stage_eq
  have hrows : Persists s.rows (s.rows.apply (invokeWrite attempt now decisionId)) :=
    Persists.apply_update hhist.custody.unique hmem rfl rfl (by simp [hinvokes.stage_eq])
      (fun hmark => absurd hunmarked hmark)
  have habove : ∀ w c, .invoked w c ∈ s.log → c.claimGeneration < claim.claimGeneration := by
    intro w c hinv
    obtain ⟨a, ha, hfields, hmark⟩ := h.marked w c hinv
    have hsame : a.claimGeneration = c.claimGeneration := by rw [hfields]
    have hrange := hhist.custody.generation_range ha
    rcases Nat.lt_or_eq_of_le hrange.2 with hlt | heq
    · omega
    · rw [hhist.custody.eq_of_generation ha hmem (by omega)] at hmark
      exact absurd hunmarked hmark
  have hnew : ∀ w run, .handlerEnded w claim run ∉ s.log := by
    intro w run hended
    exact Nat.lt_irrefl _ (habove w claim (h.ended w claim run hended))
  refine ⟨?_, ?_, ?_, ?_, ?_⟩
  · have hsingle : markers [Entry.invoked worker claim] = [(worker, claim)] := rfl
    rw [record_log, markers_append, hsingle, List.pairwise_append]
    refine ⟨h.ordered, List.pairwise_singleton _ _, ?_⟩
    intro p hp q hq
    obtain rfl := List.mem_singleton.mp hq
    exact habove p.1 p.2 (mem_markers.mp hp)
  · intro w c hinv
    rcases List.mem_append.mp hinv with hold | hlast
    · exact h.marked_persists hrows hold
    · simp only [List.mem_singleton, Entry.invoked.injEq] at hlast
      obtain ⟨rfl, rfl⟩ := hlast
      refine ⟨_, Table.mem_replace_self hmem rfl, ?_, by simp [invokeWrite]⟩
      exact (claimFromAttempt_eq_some.mp hinvokes.claim_eq).symm
  · intro w c e r htask
    rw [record_tasks, setTask_tasks] at htask
    split at htask
    · rename_i hworker
      injection htask with hclaim
      subst hclaim hworker
      simp only [record_log, setTask_log, commit_log, List.mem_append, List.mem_singleton,
        reduceCtorEq, or_false, or_true, true_and]
      exact hnew
    · obtain ⟨hinv, hopen⟩ := h.running w c e r htask
      simp only [record_log, setTask_log, commit_log, List.mem_append, List.mem_singleton,
        reduceCtorEq, or_false]
      exact ⟨.inl hinv, hopen⟩
  · intro w c run hended
    simp only [record_log, setTask_log, commit_log, List.mem_append, List.mem_singleton,
      reduceCtorEq, or_false] at hended ⊢
    exact .inl (h.ended w c run hended)
  · intro w w' c run run' hended hended'
    simp only [record_log, setTask_log, commit_log, List.mem_append, List.mem_singleton,
      reduceCtorEq, or_false] at hended hended'
    exact h.once w w' c run run' hended hended'

theorem handlerEnded (h : Markers s) {worker : Nat} {claim : OutboxClaim}
    {envelope : OutboxEventEnvelope} {readAt : Nat} {run : HandlerRun}
    (htask : s.tasks worker = .running claim envelope readAt) :
    Markers ((s.setTask worker (.finalizing claim run.cause readAt)).record
      [.handlerEnded worker claim run]) := by
  obtain ⟨hinv, hopen⟩ := h.running worker claim envelope readAt htask
  refine ⟨?_, ?_, ?_, ?_, ?_⟩
  · have hnone : markers [Entry.handlerEnded worker claim run] = [] := rfl
    rw [record_log, markers_append, hnone, List.append_nil]
    exact h.ordered
  · intro w c hentry
    simp only [record_log, setTask_log, List.mem_append, List.mem_singleton, reduceCtorEq,
      or_false] at hentry
    exact h.marked w c hentry
  · intro w c e r hrunning
    rw [record_tasks, setTask_tasks] at hrunning
    split at hrunning
    · cases hrunning
    · rename_i hworker
      obtain ⟨hother, hother'⟩ := h.running w c e r hrunning
      simp only [record_log, setTask_log, List.mem_append, List.mem_singleton, reduceCtorEq, or_false,
        Entry.handlerEnded.injEq, not_or]
      refine ⟨hother, fun w' run' => ⟨hother' w' run', ?_⟩⟩
      rintro ⟨-, rfl, -⟩
      exact hworker (h.worker_eq hother hinv rfl)
  · intro w c run' hended
    simp only [record_log, setTask_log, List.mem_append, List.mem_singleton, reduceCtorEq, or_false,
      Entry.handlerEnded.injEq] at hended ⊢
    rcases hended with hended | ⟨rfl, rfl, -⟩
    · exact h.ended w c run' hended
    · exact hinv
  · intro w w' c run₁ run₂ hended hended'
    simp only [record_log, setTask_log, List.mem_append, List.mem_singleton,
      Entry.handlerEnded.injEq] at hended hended'
    rcases hended with hended | ⟨-, rfl, rfl⟩
    · rcases hended' with hended' | ⟨-, rfl, -⟩
      · exact h.once w w' c run₁ run₂ hended hended'
      · exact absurd hended (hopen w run₁)
    · rcases hended' with hended' | ⟨-, -, rfl⟩
      · exact absurd hended' (hopen w' run₂)
      · rfl

end Markers

theorem running_of_setTask {s : State} {task : Task} {envelope : OutboxEventEnvelope} {readAt : Nat}
    (hother : ∀ c e r, task ≠ .running c e r)
    (h : (s.setTask worker task).tasks w = .running claim envelope readAt) :
    s.tasks w = .running claim envelope readAt := by
  rw [setTask_tasks] at h
  split at h
  · exact absurd h (hother _ _ _)
  · exact h

theorem StepTo.markers {facts : EventFacts} {s : State} (hstep : StepTo sha256 d s s')
    (hhist : History sha256 d facts s) (h : Markers s) : Markers s' := by
  have hrows := hstep.persists hhist
  cases hstep with
  | stay => exact h
  | quit hfail =>
    refine h.quiet hrows rfl ?_ (fun w c e r => running_of_setTask (by simp))
    intro e he
    have hfailed := hfail e he
    cases e <;> first | rfl | cases hfailed
  | claimRead | recoverRead | proposed | lostRace =>
    exact h.quiet hrows (List.append_nil _).symm (by simp) (fun w c e r => running_of_setTask (by simp))
  | claimed | finalizeCalled | replayed | finalized =>
    exact h.quiet hrows rfl (by simp [Entry.ofHandler]) (fun w c e r => running_of_setTask (by simp))
  | invoked hinvokes => exact h.invoked hhist hinvokes
  | handlerEnded htask => exact h.handlerEnded htask
  | effect =>
    exact h.quiet hrows rfl (by simp [Entry.ofHandler]) (fun w c e r htask => htask)

theorem run_markers (sha256 : String → String) (d : OutboxDelivery) (facts : EventFacts)
    (actions : List Action) : Markers (run (step sha256 d) (start facts) actions) := by
  have hrun := run_of_stepTo (I := fun s => History sha256 d facts s ∧ Markers s)
    ⟨history_start sha256 d facts, markers_start facts⟩
    (fun s s' hstep h => ⟨hstep.history h.1, hstep.markers h.1 h.2⟩) actions
  exact hrun.2

/-- What a marker allows. An attempt with a marker is followed by another attempt only if its receipt
says that the handler asked for it before the lease ran out; a handler ends at most once; and after a
marker whose handler did not ask for another attempt, by itself or through a caller of `finalize`, no
marker is ever committed again, be it that the handler failed, answered late or never ended. -/
structure NoRepeat (s : State) : Prop where
  retried : ∀ a ∈ s.rows.attempts, a.invokedAt ≠ none →
    ∀ b ∈ s.rows.attempts, a.claimGeneration < b.claimGeneration →
      ∃ claim value, claim.toClaimFields = a.toClaimFields ∧ a.outcomeJson = some (encode value) ∧
        value.errorCode = some .retryRequested ∧ value.invocationUnknown = false ∧
        value.receiptCompletedAt < a.claimExpiresAt ∧ AskedAgain s.log claim
  endedOnce : ∀ worker worker' claim h h', .handlerEnded worker claim h ∈ s.log →
    .handlerEnded worker' claim h' ∈ s.log → h = h'
  lastMarker : ∀ before worker claim after, s.log = before ++ .invoked worker claim :: after →
    ¬AskedAgain s.log claim → ∀ w c, .invoked w c ∉ after

theorem noRepeat_of_history {facts : EventFacts} {s : State}
    (hnotSafe : d.registry.canRetryUnknown facts.eventType facts.eventVersion = false)
    (hhist : History sha256 d facts s) (hmarkers : Markers s) : NoRepeat s := by
  have hretried : ∀ a ∈ s.rows.attempts, a.invokedAt ≠ none →
      ∀ b ∈ s.rows.attempts, a.claimGeneration < b.claimGeneration →
      ∃ claim value, claim.toClaimFields = a.toClaimFields ∧ a.outcomeJson = some (encode value) ∧
        value.errorCode = some .retryRequested ∧ value.invocationUnknown = false ∧
        value.receiptCompletedAt < a.claimExpiresAt ∧ AskedAgain s.log claim := by
    intro a ha hmark b hb hlt
    have hrange := hhist.custody.generation_range hb
    have hearlier : a.claimGeneration < s.rows.event.claimGeneration := by omega
    obtain ⟨claim, cause, value, hrec⟩ :=
      hhist.recorded a ha (hhist.custody.earlier a ha hearlier)
    have hstate := hhist.retried a ha hearlier value hrec.json
    obtain ⟨hcause, hcode, hunknown, htime⟩ :=
      hrec.row.retryable_of_invoked hstate hmark hnotSafe
    rw [hrec.claim_eq] at htime
    exact ⟨claim, value, hrec.claim_eq, hrec.json, hcode, hunknown, htime,
      hrec.backed hcause⟩
  refine ⟨hretried, hmarkers.once, ?_⟩
  intro before worker claim after hlog hnot w c hafter
  have hord := hmarkers.ordered
  have hsplit : markers s.log = markers before ++ (worker, claim) :: markers after := by
    rw [hlog, markers_append]
    rfl
  rw [hsplit, List.pairwise_append, List.pairwise_cons] at hord
  have hlt : claim.claimGeneration < c.claimGeneration :=
    hord.2.1.1 (w, c) (mem_markers.mpr hafter)
  obtain ⟨a, ha, hfields, hmark⟩ := hmarkers.marked worker claim (by rw [hlog]; simp)
  obtain ⟨b, hb, hfields', -⟩ := hmarkers.marked w c (by rw [hlog]; simp [hafter])
  have hagen : a.claimGeneration = claim.claimGeneration := by rw [hfields]
  have hbgen : b.claimGeneration = c.claimGeneration := by rw [hfields']
  obtain ⟨claim', value, hclaim', -, -, -, -, hasked⟩ := hretried a ha hmark b hb (by omega)
  have hsame : claim' = claim := OutboxClaim.ext_fields (hclaim'.trans hfields)
  rw [hsame] at hasked
  exact hnot hasked

/-- In every run on an event that is not replay-safe, a marker whose handler did not ask for another
attempt in time is the last one. -/
theorem run_noRepeat (sha256 : String → String) (d : OutboxDelivery) (facts : EventFacts)
    (hnotSafe : (facts.eventType, facts.eventVersion) ∉ d.registry.replaySafe) (actions : List Action) :
    NoRepeat (run (step sha256 d) (start facts) actions) := by
  have hcannot : d.registry.canRetryUnknown facts.eventType facts.eventVersion = false := by
    rw [HandlerRegistry.canRetryUnknown, ← Bool.not_eq_true, List.contains_iff_mem]
    exact hnotSafe
  exact noRepeat_of_history hcannot (run_history sha256 d facts actions)
    (run_markers sha256 d facts actions)

def sampleRetryRun : List Action :=
  let allowed : TxChoice := { authority := .allowed "decision" }
  [.claim 0 sampleClaim.eventId sampleClaim.projectId "worker-1" 1000000, .claimTx 0 allowed,
    .invoke 0 sampleClaim allowed, .handlerEnds 0 ⟨true, true, false, .outcome .retry⟩,
    .finalizeRead 0 1000000, .finalizeTx 0 allowed,
    .claim 1 sampleClaim.eventId sampleClaim.projectId "worker-2" 6000000, .claimTx 1 allowed]

def sampleRetried : State :=
  run (step (fun _ => sampleHash) productionOutboxDelivery)
    (start (sampleFacts assignmentInvalidationEvent)) sampleRetryRun

theorem run_noRepeat_retried :
    (assignmentInvalidationEvent, 1) ∉ productionRegistry.replaySafe ∧
      sampleRetried.rows.attempts.length = 2 ∧ NoRepeat sampleRetried := by
  refine ⟨by decide, by decide +kernel, ?_⟩
  exact run_noRepeat _ productionOutboxDelivery (sampleFacts assignmentInvalidationEvent) (by decide)
    sampleRetryRun

end Workstream.Outbox
