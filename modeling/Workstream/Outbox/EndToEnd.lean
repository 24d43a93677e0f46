import Workstream.Outbox.Idempotency
import Workstream.Outbox.Interleavings
import Workstream.Outbox.Payloads

/-!
# From a producer to the handlers

Appends under the payload rules, and the deliveries of what they left: every handler reads what a producer
appended.
-/

namespace Workstream.Outbox.Appends
open Foundation

/-- `validate_payload`, as `OutboxAppendInput` runs it. -/
def validatePayload (casefold : String → String) (payload : Json) : Bool :=
  (Payloads.validateOutboxPayload casefold payload).isOk

variable {value : OutboxAppendInput} {phase : Phase}

theorem exists_fields_of_validatePayload {casefold : String → String} {v : Json}
    (h : validatePayload casefold v = true) : ∃ fields, v = .obj fields := by
  cases v with
  | obj fields => exact ⟨fields, rfl⟩
  | null | bool | num | str | arr => cases h

/-- A row with the facts of an input that was accepted. -/
def Vouched (sha256 : String → String) (payloadValid : Json → Bool) (row : OutboxEvent) : Prop :=
  ∃ value eventId now, value.valid payloadValid = true ∧
    row.toEventFacts = (newEvent sha256 value eventId now).toEventFacts

structure Transaction.Vetted (sha256 : String → String) (payloadValid : Json → Bool)
    (transaction : Transaction) : Prop where
  begun : transaction.phase = .begun → transaction.input.valid payloadValid = true
  own : ∀ row, transaction.phase.own = some row → Vouched sha256 payloadValid row

/-- Every row comes from an input that passed validation. -/
structure Database.Vetted (sha256 : String → String) (payloadValid : Json → Bool) (db : Database) :
    Prop where
  rows : ∀ row ∈ db.rows, Vouched sha256 payloadValid row
  transactions : ∀ transaction ∈ db.transactions, transaction.Vetted sha256 payloadValid

section Vetted

variable {sha256 : String → String} {payloadValid : Json → Bool} {db : Database}

theorem Database.Vetted.move {t : ℕ} (h : db.Vetted sha256 payloadValid)
    (hnew : Transaction.Vetted sha256 payloadValid ⟨value, phase⟩) :
    (db.move t value phase).Vetted sha256 payloadValid := by
  refine ⟨h.rows, ?_⟩
  intro transaction hmem
  rcases List.mem_or_eq_of_mem_set hmem with hmem | rfl
  · exact h.transactions transaction hmem
  · exact hnew

theorem Transaction.Vetted.of_own_eq_none (hbegun : phase ≠ .begun) (hown : phase.own = none) :
    Transaction.Vetted sha256 payloadValid ⟨value, phase⟩ :=
  ⟨fun h => absurd h hbegun, by simp [hown]⟩

theorem Database.Vetted.act (h : db.Vetted sha256 payloadValid) (action : Action) :
    (db.act sha256 payloadValid action).Vetted sha256 payloadValid := by
  cases action with
  | begin value =>
    refine ⟨h.rows, Table.forall_append h.transactions ?_⟩
    split
    · rename_i hvalid
      exact ⟨fun _ => hvalid, by simp [Phase.own]⟩
    · exact .of_own_eq_none (by simp) rfl
  | insert t eventId now accepted =>
    simp only [Database.act]
    split
    · rename_i value ht
      have hvalid := (h.transactions _ (List.mem_of_getElem? ht)).begun rfl
      split
      · exact h
      · rcases db.insert_cases sha256 value eventId now accepted with heq | ⟨heq, -⟩ | ⟨heq, -⟩
        · exact heq ▸ h.move (.of_own_eq_none (by simp) rfl)
        · exact heq ▸ h.move (.of_own_eq_none (by simp) rfl)
        · rw [heq]
          refine h.move ⟨by simp, fun row hrow => ?_⟩
          obtain rfl := Option.some.inj hrow
          exact ⟨value, eventId, now, hvalid, rfl⟩
    · exact h
  | read t answered =>
    simp only [Database.act]
    split
    · rename_i value own ht
      have hown := (h.transactions _ (List.mem_of_getElem? ht)).own
      unfold Database.read
      split
      · exact h.move ⟨by simp, hown⟩
      · exact h.move (.of_own_eq_none (by simp) rfl)
    · exact h
  | commit t =>
    simp only [Database.act]
    split
    · rename_i value outcome own ht
      have hown := (h.transactions _ (List.mem_of_getElem? ht)).own
      refine ⟨fun row hrow => ?_, (h.move (.of_own_eq_none (by simp) rfl)).transactions⟩
      rcases List.mem_append.mp hrow with hrow | hrow
      · exact h.rows row hrow
      · exact hown row (Option.mem_toList.mp hrow)
    · exact h
  | rollback =>
    simp only [Database.act]
    split
    · exact h
    · exact h.move (.of_own_eq_none (by simp) rfl)
    · exact h
  | deliver event =>
    refine ⟨fun row hrow => ?_, h.transactions⟩
    obtain ⟨source, hsource, rfl⟩ := List.mem_map.mp hrow
    obtain ⟨value, eventId, now, hvalid, hfacts⟩ := h.rows source hsource
    exact ⟨value, eventId, now, hvalid, (deliver_facts event source).trans hfacts⟩

end Vetted

/-- Whatever producers append and however the deliveries of a stored event interleave: the event has the
facts of an input that was accepted, each of its handlers is given this event with a text from which the
payload is read back, and a fence answers exactly as long as the rows show its invocation in its lease. -/
theorem handlers_read_appended (sha256 casefold : String → String) (d : OutboxDelivery)
    (appends : List Action) (deliveries : List (LockAction Tx FreeAction)) :
    let db := run (Database.act sha256 (validatePayload casefold)) Database.empty appends
    (∀ row ∈ db.rows, Vouched sha256 (validatePayload casefold) row) ∧
    ∀ row ∈ db.rows,
      let s := (run (lockStep (outboxLocking sha256 d)) (unlocked row.toEventFacts) deliveries).store
      (∀ worker claim e readAt, s.tasks worker = .running claim e readAt →
        e = envelopeOf (appended row.toEventFacts) claim ∧
          envelopePayload sha256 e = some row.payload.canon) ∧
      ∀ e now, observe sha256 s.rows e now = some ⟨e.claim, now⟩ ↔
        Shown sha256 s.rows e ∧ now < e.claim.claimExpiresAt := by
  intro db
  have hdb : db.Vetted sha256 (validatePayload casefold) :=
    run_invariant ⟨by simp [Database.empty], by simp [Database.empty]⟩ (fun _ action h => h.act action)
      appends
  refine ⟨hdb.rows, fun row hrow => ?_⟩
  obtain ⟨value, eventId, now, hvalid, hfacts⟩ := hdb.rows row hrow
  simp only [OutboxAppendInput.valid, Bool.and_eq_true] at hvalid
  obtain ⟨fields, hfields⟩ := exists_fields_of_validatePayload hvalid.2
  have hpayload : row.payload = value.payload := by
    rw [hfacts]
    rfl
  have hobject : row.payload = .obj fields := hpayload.trans hfields
  have hkeys : row.payload.DistinctKeys := hpayload ▸ value.distinct
  intro s
  obtain ⟨atomic, hatomic⟩ := run_locked_refines sha256 d row.toEventFacts deliveries
  have hs : s = run (step sha256 d) (start row.toEventFacts) atomic := hatomic
  rw [hs]
  refine ⟨?_, observe_iff (run_history sha256 d _ atomic) hobject hkeys⟩
  intro worker claim e readAt htask
  obtain ⟨rfl, hhash⟩ := run_handed sha256 d _ atomic worker claim e readAt htask
  exact ⟨rfl, envelopePayload_envelopeOf hobject hkeys hhash⟩

end Workstream.Outbox.Appends
