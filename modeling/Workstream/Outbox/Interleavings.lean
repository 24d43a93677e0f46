import Workstream.Outbox.Locks
import Workstream.Outbox.Progress

/-!
# Deliveries statement by statement

What two moments of one locked run have in common, and what a handler is given. A transaction may be
in the middle of its statements at either moment.
-/

namespace Workstream.Outbox
open Foundation

variable {sha256 : String → String} {d : OutboxDelivery} {facts : EventFacts} {s : State}

theorem Persists.generation_le {rows rows' : Custody} (h : Persists rows rows')
    (hrows : CustodyInvariant rows) (hrows' : CustodyInvariant rows') :
    rows.event.claimGeneration ≤ rows'.event.claimGeneration := by
  rcases Nat.eq_zero_or_pos rows.event.claimGeneration with hzero | hpos
  · omega
  · have hmem : rows.event.claimGeneration ∈ rows.attempts.map (fun a => a.claimGeneration) := by
      rw [hrows.generations, List.mem_map]
      exact ⟨rows.event.claimGeneration - 1, List.mem_range.mpr (by omega), by omega⟩
    obtain ⟨a, ha, hgen⟩ := List.mem_map.mp hmem
    obtain ⟨a', ha', hfields, -⟩ := h a ha
    have hle := (hrows'.generation_range ha').2
    rwa [hfields, hgen] at hle

theorem run_persists (hhist : History sha256 d facts s) (actions : List Action) :
    Persists s.rows (run (step sha256 d) s actions).rows :=
  run_relates (I := History sha256 d facts) (R := fun s s' => Persists s.rows s'.rows) hhist
    (fun s a h => (step_stepTo s a).history h) (fun s => Persists.refl s.rows)
    (fun _ _ _ => Persists.trans) (fun s a h => (step_stepTo s a).persists h) actions

/-- From any moment on, with a transaction under way or not, the store goes on as an atomic run. -/
theorem run_locked_continues {m : Locked State Guarded Tx Memory}
    (hm : LockInvariant (outboxLocking sha256 d) Before m) (later : List (LockAction Tx FreeAction)) :
    ∃ atomic, (run (lockStep (outboxLocking sha256 d)) m later).store =
      run (step sha256 d) m.store atomic := by
  refine run_relates (I := LockInvariant (outboxLocking sha256 d) Before)
    (R := fun m m' => ∃ atomic, m'.store = run (step sha256 d) m.store atomic) hm
    (fun m a h => lockStep_invariant (outboxLocking_lawful sha256 d) h a) (fun _ => ⟨[], rfl⟩) ?_ ?_ later
  · rintro m m' m'' ⟨first, hfirst⟩ ⟨second, hsecond⟩
    exact ⟨first ++ second, by rw [hsecond, hfirst, run_append]⟩
  · intro m a h
    rcases lockStep_atomic h a with hsame | hatomic
    · exact ⟨[], hsame⟩
    · exact atomic_reaches_run (.single hatomic)

/-- The record of a delivery only grows: whatever the statements of other workers in between, the event
keeps its facts, attempts stay with their leases and markers, completed attempts and final events stay as
they are, and generations never fall. An event that is not replay-safe is not repeated. -/
theorem run_locked_record_grows (sha256 : String → String) (d : OutboxDelivery) (facts : EventFacts)
    (earlier later : List (LockAction Tx FreeAction)) :
    let m := run (lockStep (outboxLocking sha256 d)) (unlocked facts) earlier
    let m' := run (lockStep (outboxLocking sha256 d)) m later
    CustodyInvariant m'.store.rows ∧ m'.store.rows.event.toEventFacts = facts ∧
      Persists m.store.rows m'.store.rows ∧
      m.store.rows.event.claimGeneration ≤ m'.store.rows.event.claimGeneration ∧
      (m.store.rows.event.deliveryState = .acknowledged ∨
        m.store.rows.event.deliveryState = .deadLetter → m'.store.rows = m.store.rows) ∧
      (d.registry.canRetryUnknown facts.eventType facts.eventVersion = false → NoRepeat m'.store) := by
  intro m m'
  obtain ⟨before, hbefore⟩ := run_locked_refines sha256 d facts earlier
  obtain ⟨after, hafter⟩ := run_locked_continues (run_lockInvariant (outboxLocking_lawful sha256 d)
    (before_start facts) earlier) later
  have hm : m.store = run (step sha256 d) (start facts) before := hbefore
  have hm' : m'.store = run (step sha256 d) m.store after := hafter
  have hstart : m'.store = run (step sha256 d) (start facts) (before ++ after) := by
    rw [hm', hm, run_append]
  have hhist : History sha256 d facts m.store := hm ▸ run_history sha256 d facts before
  have hhist' : History sha256 d facts m'.store := hstart ▸ run_history sha256 d facts _
  have hpersists : Persists m.store.rows m'.store.rows := hm' ▸ run_persists hhist after
  refine ⟨hhist'.custody, hhist'.facts_eq, hpersists,
    hpersists.generation_le hhist.custody hhist'.custody, ?_, ?_⟩
  · intro hfinal
    rw [hm', run_rows_of_final hfinal after]
  · intro hcannot
    exact noRepeat_of_history hcannot hhist' (hstart ▸ run_markers sha256 d facts _)

/-- A running handler has the envelope of the appended event under its claim. -/
def Handed (sha256 : String → String) (facts : EventFacts) (s : State) : Prop :=
  ∀ worker claim e readAt, s.tasks worker = .running claim e readAt →
    e = envelopeOf (appended facts) claim ∧
      canonicalJsonHash sha256 facts.payload = claim.payloadDigest

theorem envelopeOf_event (hhist : History sha256 d facts s) (claim : OutboxClaim) :
    envelopeOf s.rows.event claim = envelopeOf (appended facts) claim := by
  unfold envelopeOf
  rw [hhist.facts_eq]
  rfl

theorem StepTo.handed {s' : State} (hstep : StepTo sha256 d s s') (hhist : History sha256 d facts s)
    (h : Handed sha256 facts s) : Handed sha256 facts s' := by
  intro w c e r htask
  cases hstep with
  | @invoked worker claim choice decisionId attempt hinvokes =>
    rw [record_tasks, setTask_tasks] at htask
    split at htask
    · obtain ⟨rfl, rfl, -⟩ := Task.running.inj htask
      refine ⟨envelopeOf_event hhist claim, ?_⟩
      rw [← hinvokes.payload, hhist.facts_eq]
    · exact h w c e r htask
  | stay | effect => exact h w c e r htask
  | _ => exact h w c e r (running_of_setTask (by simp) htask)

theorem run_handed (sha256 : String → String) (d : OutboxDelivery) (facts : EventFacts)
    (actions : List Action) : Handed sha256 facts (run (step sha256 d) (start facts) actions) := by
  have hinit : Handed sha256 facts (start facts) := by
    intro w c e r htask
    cases htask
  exact (run_of_stepTo (I := fun s => History sha256 d facts s ∧ Handed sha256 facts s)
    ⟨history_start sha256 d facts, hinit⟩
    (fun s s' hstep h => ⟨hstep.history h.1, hstep.handed h.1 h.2⟩) actions).2

/-- The payload of an envelope is read back from its text. -/
theorem envelopePayload_envelopeOf {fields : List (String × Json)} {event : OutboxEvent}
    {claim : OutboxClaim} (hobject : event.payload = .obj fields) (hkeys : event.payload.DistinctKeys)
    (hhash : canonicalJsonHash sha256 event.payload = claim.payloadDigest) :
    envelopePayload sha256 (envelopeOf event claim) = some event.payload.canon := by
  have hread : Json.loads (envelopeOf event claim).payloadJson = some event.payload.canon :=
    Json.loads_dumps hkeys
  have htext : event.payload.canon.dumps = (envelopeOf event claim).payloadJson := Json.dumps_canon _
  have hcanon : event.payload.canon = .obj (Json.sortFields (Json.canonFields fields)) := by
    rw [hobject]
    rfl
  rw [canonicalJsonHash, ← Json.dumps_canon] at hhash
  unfold envelopePayload
  rw [hread, hcanon]
  exact if_pos ⟨hcanon ▸ htext, hcanon ▸ hhash⟩

/-- A fence finds an invocation exactly when the rows show it and its lease has not ended. -/
theorem observe_iff {fields : List (String × Json)} (hhist : History sha256 d facts s)
    (hobject : facts.payload = .obj fields) (hkeys : facts.payload.DistinctKeys)
    (e : OutboxEventEnvelope) (now : Nat) :
    observe sha256 s.rows e now = some ⟨e.claim, now⟩ ↔
      Shown sha256 s.rows e ∧ now < e.claim.claimExpiresAt := by
  constructor
  · intro h
    obtain ⟨hshown, hlive, -⟩ := observe_eq_some h
    exact ⟨hshown, hlive⟩
  · rintro ⟨⟨henvelope, hdigest, hevent, a, ha, hfields, hstage, hout⟩, hlive⟩
    have hpayload : s.rows.event.payload = facts.payload := by rw [hhist.facts_eq]
    have hread := envelopePayload_envelopeOf (hpayload.trans hobject) (hpayload ▸ hkeys) hdigest
    rw [← henvelope] at hread
    obtain ⟨hstate, hid, hproj, hdig, hgen, howner, hclaimed, hexp⟩ := matchesEvent_iff.mp hevent
    have hfound : ∃ b, s.rows.attempts.find? (fun a => a.eventId = s.rows.event.eventId ∧
        a.claimGeneration = s.rows.event.claimGeneration) = some b := by
      rw [← Option.isSome_iff_exists, List.find?_isSome]
      exact ⟨a, ha, by simp [hfields, hid, hgen]⟩
    obtain ⟨b, hb⟩ := hfound
    have hkey := List.find?_some hb
    simp only [decide_eq_true_eq] at hkey
    obtain rfl : b = a := hhist.custody.eq_of_generation (List.mem_of_find?_eq_some hb) ha
      (by rw [hkey.2, hgen, hfields])
    unfold observe
    rw [hread]
    dsimp only
    rw [hb]
    refine if_pos ?_
    simp only [showsInvocation, Bool.and_eq_true, decide_eq_true_eq]
    rw [henvelope]
    refine ⟨⟨⟨hid, hproj, hdig, rfl, rfl, rfl, rfl, rfl, rfl, rfl, rfl, (Json.canon_canon _).symm⟩,
      hstate, hstage, hout, hgen, howner, hclaimed, hexp⟩, ?_⟩
    rw [hfields]
    exact ⟨hproj.symm, hdig.symm, howner, hclaimed, hexp, hlive⟩

end Workstream.Outbox
