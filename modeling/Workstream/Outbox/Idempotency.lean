import Workstream.Outbox.Append
import Workstream.Foundation.Tally

/-! # One event for one idempotency key -/

namespace Workstream.Outbox.Appends
open Foundation

section

variable {sha256 : String → String} {payloadValid : Json → Bool}
variable {value : OutboxAppendInput} {row record : OutboxEvent} {rows : List OutboxEvent}

/-- The facts that a caller gives are those of the event. -/
structure OutboxAppendInput.Describes (value : OutboxAppendInput) (row : EventFacts) : Prop where
  eventType : row.eventType = value.eventType
  eventVersion : row.eventVersion = value.eventVersion
  aggregateType : row.aggregateType = value.aggregateType
  aggregateId : row.aggregateId = value.aggregateId
  projectId : row.projectId = value.projectId
  correlationId : row.correlationId = value.correlationId
  causationEventId : row.causationEventId = value.causationEventId
  payload : row.payload.canon = value.payload.canon
  notBeforeAt : row.notBeforeAt = value.notBeforeAt

/-- Two payloads with different texts and one digest that Python takes for equal. -/
def Collides (sha256 : String → String) (v w : Json) : Prop :=
  v.dumps ≠ w.dumps ∧ sha256 v.dumps = sha256 w.dumps ∧ pyEq v w

/-- What a call reports of a row. -/
def reportOf (row : EventFacts) (disposition : AppendDisposition) : AppendResult :=
  { eventId := row.eventId, disposition, payloadDigest := row.payloadDigest,
    occurredAt := row.occurredAt }

/-- A row that some append wrote and nobody has altered since. -/
def Written (sha256 : String → String) (row : OutboxEvent) : Prop :=
  ∃ value eventId now, row.toEventFacts = (newEvent sha256 value eventId now).toEventFacts

theorem pyEq_self (v : Json) : pyEq v v = true := by
  simp [pyEq]

theorem digestOf_injective {first second : String}
    (h : digestOf sha256 first = digestOf sha256 second) : sha256 first = sha256 second := by
  simpa [digestOf] using h

theorem isMatch_newEvent (value : OutboxAppendInput) (eventId : Uuid) (now : ℕ) :
    isMatch (newEvent sha256 value eventId now) value
      (canonicalJsonHash sha256 value.payload) = true := by
  simp [isMatch, newEvent, appended, pyEq_self]

theorem concludes_congr {row record : OutboxEvent} (h : row.toEventFacts = record.toEventFacts)
    (value : OutboxAppendInput) (created : Bool) :
    concludes sha256 value created [row] = concludes sha256 value created [record] := by
  cases row
  cases record
  cases h
  rfl

theorem concludes_newEvent (value : OutboxAppendInput) (eventId : Uuid) (now : ℕ) :
    concludes sha256 value true [newEvent sha256 value eventId now] =
      .ok (reportOf (newEvent sha256 value eventId now).toEventFacts .created) := by
  simp [concludes, isMatch_newEvent, reportOf]

theorem concludes_single (sha256 : String → String) (value : OutboxAppendInput) (row : OutboxEvent)
    (created : Bool) :
    concludes sha256 value created [row] =
      .ok (reportOf row.toEventFacts (if created then .created else .replayed)) ∧
        isMatch row value (canonicalJsonHash sha256 value.payload) = true ∨
    concludes sha256 value created [row] = .error idempotencyConflict ∧
      isMatch row value (canonicalJsonHash sha256 value.payload) = false := by
  cases hmatch : isMatch row value (canonicalJsonHash sha256 value.payload) with
  | true => left; simp [concludes, hmatch, reportOf]
  | false => right; simp [concludes, hmatch]

theorem describes_of_isMatch (hrow : Written sha256 row)
    (h : isMatch row value (canonicalJsonHash sha256 value.payload) = true) :
    value.Describes row.toEventFacts ∨ Collides sha256 row.payload value.payload := by
  obtain ⟨source, eventId, now, hfacts⟩ := hrow
  have hpayload : row.payload = source.payload := congrArg EventFacts.payload hfacts
  have hdig : row.payloadDigest = canonicalJsonHash sha256 source.payload :=
    congrArg EventFacts.payloadDigest hfacts
  simp only [isMatch, Bool.and_eq_true, decide_eq_true_eq] at h
  obtain ⟨⟨⟨⟨⟨⟨⟨⟨⟨⟨htype, hver⟩, haggregate⟩, hid⟩, hproj⟩, hcorrelation⟩, hcausation⟩, -⟩,
    hsame⟩, hequal⟩, hbefore⟩ := h
  rw [hdig] at hsame
  by_cases htext : source.payload.dumps = value.payload.dumps
  · left
    have hcanon : row.payload.canon = value.payload.canon := by
      rw [hpayload]
      exact Json.canon_eq_of_dumps_eq source.distinct value.distinct htext
    exact ⟨htype, hver, haggregate, hid, hproj, hcorrelation, hcausation, hcanon, hbefore⟩
  · right
    rw [hpayload] at hequal ⊢
    exact ⟨htext, digestOf_injective hsame, hequal⟩

/-- A call that differs from the row it reads is refused. -/
theorem concludes_of_not_describes (hrow : Written sha256 row)
    (hdiffers : ¬value.Describes row.toEventFacts)
    (hcollides : ¬Collides sha256 row.payload value.payload) (created : Bool) :
    concludes sha256 value created [row] = .error idempotencyConflict := by
  rcases concludes_single sha256 value row created with h | h
  · exact ((describes_of_isMatch hrow h.2).elim hdiffers hcollides).elim
  · exact h.1

/-- The call ended before it read a row. -/
def Refused (outcome : Except AppendError AppendResult) : Prop :=
  outcome = .error invalidInput ∨ outcome = .error persistenceFailed

/-- The call read a committed row of its key. -/
def Judged (sha256 : String → String) (rows : List OutboxEvent) (value : OutboxAppendInput)
    (created : Bool) (outcome : Except AppendError AppendResult) : Prop :=
  ∃ row ∈ rows, row.idempotencyKey = value.idempotencyKey ∧
    outcome = concludes sha256 value created [row]

/-- The row that a transaction has inserted is made of its input. -/
def Minted (sha256 : String → String) (value : OutboxAppendInput) (row : OutboxEvent) : Prop :=
  ∃ eventId now, row = newEvent sha256 value eventId now

/-- What a transaction has seen and done, by its phase. -/
def Phase.Sound (sha256 : String → String) (rows : List OutboxEvent) (value : OutboxAppendInput) :
    Phase → Prop
  | .begun => True
  | .inserted (some own) => Minted sha256 value own
  | .inserted none => ∃ row ∈ rows, row.idempotencyKey = value.idempotencyKey
  | .returned outcome (some own) =>
    Minted sha256 value own ∧ outcome = .ok (reportOf own.toEventFacts .created)
  | .returned outcome none => Refused outcome ∨ Judged sha256 rows value false outcome
  | .committed outcome => Refused outcome ∨ ∃ created, Judged sha256 rows value created outcome
  | .rolledBack none => True
  | .rolledBack (some outcome) =>
    Refused outcome ∨ Judged sha256 rows value false outcome ∨
      ∃ own, Minted sha256 value own ∧ outcome = .ok (reportOf own.toEventFacts .created)

/-- Rows are never taken away and keep their facts. -/
def Kept (before after : List OutboxEvent) : Prop :=
  ∀ row ∈ before, ∃ row' ∈ after, row'.toEventFacts = row.toEventFacts

theorem Kept.refl (rows : List OutboxEvent) : Kept rows rows :=
  fun row hrow => ⟨row, hrow, rfl⟩

theorem Kept.trans {first second third : List OutboxEvent} (h : Kept first second)
    (h' : Kept second third) : Kept first third := by
  intro row hrow
  obtain ⟨row', hrow', heq⟩ := h row hrow
  obtain ⟨row'', hrow'', heq'⟩ := h' row' hrow'
  exact ⟨row'', hrow'', heq'.trans heq⟩

theorem Kept.append (rows new : List OutboxEvent) : Kept rows (rows ++ new) :=
  fun row hrow => ⟨row, List.mem_append_left new hrow, rfl⟩

variable {rows' : List OutboxEvent}

theorem Judged.kept {created : Bool} {outcome : Except AppendError AppendResult}
    (hkept : Kept rows rows') (h : Judged sha256 rows value created outcome) :
    Judged sha256 rows' value created outcome := by
  obtain ⟨row, hrow, hkey, hout⟩ := h
  obtain ⟨row', hrow', hfacts⟩ := hkept row hrow
  refine ⟨row', hrow', ?_, ?_⟩
  · rw [hfacts, hkey]
  · rw [hout, concludes_congr hfacts]

theorem Phase.Sound.kept {phase : Phase} (hkept : Kept rows rows') (h : phase.Sound sha256 rows value) :
    phase.Sound sha256 rows' value := by
  match phase, h with
  | .begun, _ => exact trivial
  | .inserted (some _), h => exact h
  | .inserted none, ⟨row, hrow, hkey⟩ =>
    obtain ⟨row', hrow', hfacts⟩ := hkept row hrow
    exact ⟨row', hrow', by rw [hfacts, hkey]⟩
  | .returned _ (some _), h => exact h
  | .returned _ none, h => exact h.imp_right (Judged.kept hkept)
  | .committed _, h => exact h.imp_right fun ⟨created, hjudged⟩ => ⟨created, hjudged.kept hkept⟩
  | .rolledBack none, _ => exact trivial
  | .rolledBack (some _), h => exact h.imp_right (Or.imp_left (Judged.kept hkept))

/-- A row counts for its key. -/
def keyed (key : String) (row : OutboxEvent) : ℕ := if row.idempotencyKey = key then 1 else 0

/-- A row that is inserted and not yet committed counts for its key. -/
def Transaction.holds (key : String) (transaction : Transaction) : ℕ :=
  match transaction.phase.own with
  | some own => keyed key own
  | none => 0

/-- The transaction is committed and its call reported a creation. -/
def Transaction.created (transaction : Transaction) : Bool :=
  match transaction.phase with
  | .committed (.ok result) => result.disposition = .created
  | _ => false

/-- A committed creation counts for its key. -/
def Transaction.creates (key : String) (transaction : Transaction) : ℕ :=
  if transaction.input.idempotencyKey = key ∧ transaction.created then 1 else 0

/-- No key has two rows, committed or not, and every committed row has its creation. -/
structure Database.Sound (sha256 : String → String) (db : Database) : Prop where
  single : ∀ key, tally (keyed key) db.rows + tally (Transaction.holds key) db.transactions ≤ 1
  creations : ∀ key, tally (Transaction.creates key) db.transactions = tally (keyed key) db.rows
  written : ∀ row ∈ db.rows, Written sha256 row
  phases : ∀ transaction ∈ db.transactions,
    transaction.phase.Sound sha256 db.rows transaction.input

theorem Database.Sound.empty : Database.empty.Sound sha256 where
  single := fun _ => by simp [Database.empty]
  creations := fun _ => by simp [Database.empty]
  written := by simp [Database.empty]
  phases := by simp [Database.empty]

variable {db : Database} {t : ℕ} {phase phase' : Phase}

/-- A transaction that moves on keeps the database sound if the rows of every key balance. -/
theorem Database.Sound.move (h : db.Sound sha256) (ht : db.transactions[t]? = some ⟨value, phase⟩)
    (hkept : Kept db.rows rows') (hwritten : ∀ row ∈ rows', Written sha256 row)
    (hphase : phase'.Sound sha256 rows' value)
    (hsingle : ∀ key, tally (keyed key) rows' + tally (Transaction.holds key) db.transactions +
      Transaction.holds key ⟨value, phase'⟩ ≤ 1 + Transaction.holds key ⟨value, phase⟩)
    (hcreations : ∀ key, Transaction.creates key ⟨value, phase'⟩ + tally (keyed key) db.rows =
      Transaction.creates key ⟨value, phase⟩ + tally (keyed key) rows') :
    Database.Sound sha256 { db.move t value phase' with rows := rows' } where
  single := fun key => by
    have hset := tally_set (Transaction.holds key) ht ⟨value, phase'⟩
    have hrow := hsingle key
    simp only [Database.move]
    omega
  creations := fun key => by
    have hset := tally_set (Transaction.creates key) ht ⟨value, phase'⟩
    have hrow := hcreations key
    have hbefore := h.creations key
    simp only [Database.move]
    omega
  written := hwritten
  phases := fun transaction hmem => by
    rcases List.mem_or_eq_of_mem_set hmem with hold | rfl
    · exact (h.phases transaction hold).kept hkept
    · exact hphase

theorem Database.Sound.pass (h : db.Sound sha256) (ht : db.transactions[t]? = some ⟨value, phase⟩)
    (hphase : phase'.Sound sha256 db.rows value)
    (hholds : ∀ key, Transaction.holds key ⟨value, phase'⟩ ≤ Transaction.holds key ⟨value, phase⟩)
    (hbefore : Transaction.created ⟨value, phase⟩ = false)
    (hafter : Transaction.created ⟨value, phase'⟩ = false) :
    (db.move t value phase').Sound sha256 := by
  refine h.move ht (Kept.refl db.rows) h.written hphase (fun key => ?_) (fun key => ?_)
  · have hsingle := h.single key
    have hle := hholds key
    omega
  · simp [Transaction.creates, hbefore, hafter]

theorem keyed_eq_zero {key : String} (h : tally (keyed key) rows = 0) (hrow : row ∈ rows) :
    row.idempotencyKey ≠ key := by
  intro hkey
  have hle := weight_le_tally (keyed key) hrow
  simp [keyed, hkey] at hle
  omega

/-- The only row of a key is what a selection by the key finds. -/
theorem filter_eq_singleton {key : String} (h : tally (keyed key) rows ≤ 1) (hrow : row ∈ rows)
    (hkey : row.idempotencyKey = key) :
    rows.filter (fun other => decide (other.idempotencyKey = key)) = [row] := by
  induction rows with
  | nil => simp at hrow
  | cons first rest ih =>
    rw [tally_cons] at h
    by_cases hfirst : first.idempotencyKey = key
    · have hrest : tally (keyed key) rest = 0 := by
        have hone : keyed key first = 1 := by simp [keyed, hfirst]
        omega
      have hnone : ∀ other ∈ rest, ¬other.idempotencyKey = key :=
        fun other hother => keyed_eq_zero hrest hother
      obtain rfl : row = first := by
        rcases List.mem_cons.mp hrow with heq | hmem
        · exact heq
        · exact absurd hkey (hnone row hmem)
      rw [List.filter_cons_of_pos (by simpa using hfirst), List.filter_eq_nil_iff.mpr (by simpa using hnone)]
    · have hmem : row ∈ rest := by
        rcases List.mem_cons.mp hrow with rfl | hmem
        · exact absurd hkey hfirst
        · exact hmem
      rw [List.filter_cons_of_neg (by simpa using hfirst)]
      exact ih (by omega) hmem

theorem Minted.idempotencyKey (h : Minted sha256 value row) :
    row.idempotencyKey = value.idempotencyKey := by
  obtain ⟨eventId, now, rfl⟩ := h
  rfl

theorem Minted.written (h : Minted sha256 value row) : Written sha256 row := by
  obtain ⟨eventId, now, rfl⟩ := h
  exact ⟨value, eventId, now, rfl⟩

theorem Minted.concludes (h : Minted sha256 value row) :
    concludes sha256 value true [row] = .ok (reportOf row.toEventFacts .created) := by
  obtain ⟨eventId, now, rfl⟩ := h
  exact concludes_newEvent value eventId now

theorem created_of_judged {outcome : Except AppendError AppendResult}
    (h : Refused outcome ∨ Judged sha256 rows value false outcome) :
    Transaction.created ⟨value, .committed outcome⟩ = false := by
  rcases h with (rfl | rfl) | ⟨row, -, -, rfl⟩
  · rfl
  · rfl
  · rcases concludes_single sha256 value row false with ⟨h, -⟩ | ⟨h, -⟩
    · rw [h]
      rfl
    · rw [h]
      rfl

theorem Database.Sound.begin (h : db.Sound sha256) (value : OutboxAppendInput) :
    (db.act sha256 payloadValid (.begin value)).Sound sha256 := by
  have hnew : ∀ phase : Phase, phase.own = none → phase.Sound sha256 db.rows value →
      Transaction.created ⟨value, phase⟩ = false →
      Database.Sound sha256 { db with transactions := db.transactions ++ [⟨value, phase⟩] } := by
    intro phase hown hphase hcreated
    refine ⟨fun key => ?_, fun key => ?_, h.written, fun transaction hmem => ?_⟩
    · have hsingle := h.single key
      simp only [tally_append, tally_cons, tally_nil, Transaction.holds, hown]
      exact hsingle
    · have hcreations := h.creations key
      simp only [tally_append, tally_cons, tally_nil, Transaction.creates, hcreated]
      simpa using hcreations
    · rcases Table.mem_append hmem with hold | rfl
      · exact h.phases transaction hold
      · exact hphase
  simp only [Database.act]
  split
  · exact hnew .begun rfl trivial rfl
  · exact hnew _ rfl (Or.inl (Or.inl rfl)) rfl

/-- What the insert leaves, when no other transaction holds the key. -/
theorem Database.insert_cases (sha256 : String → String) (db : Database) (value : OutboxAppendInput)
    (eventId : Uuid) (now : ℕ) (accepted : Bool) :
    db.insert sha256 value eventId now accepted = .returned (.error persistenceFailed) none ∨
    db.insert sha256 value eventId now accepted = .inserted none ∧
      (∃ row ∈ db.rows, row.idempotencyKey = value.idempotencyKey) ∨
    db.insert sha256 value eventId now accepted =
        .inserted (some (newEvent sha256 value eventId now)) ∧
      ∀ row ∈ db.rows, row.idempotencyKey ≠ value.idempotencyKey := by
  unfold Database.insert
  by_cases hacc : accepted = true
  · rw [if_neg (by simpa using hacc)]
    by_cases hrows : db.rows.any (fun row => decide (row.idempotencyKey = value.idempotencyKey)) = true
    · rw [if_pos hrows]
      refine Or.inr (Or.inl ⟨rfl, ?_⟩)
      simpa using hrows
    · rw [if_neg hrows]
      split
      · exact Or.inl rfl
      · refine Or.inr (Or.inr ⟨rfl, ?_⟩)
        simpa using hrows
  · rw [if_pos hacc]
    exact Or.inl rfl

theorem Database.Sound.insert (h : db.Sound sha256) (t : ℕ) (eventId : Uuid) (now : ℕ)
    (accepted : Bool) :
    (db.act sha256 payloadValid (.insert t eventId now accepted)).Sound sha256 := by
  simp only [Database.act]
  split
  · rename_i value ht
    split
    · exact h
    · rename_i hpend
      rcases db.insert_cases sha256 value eventId now accepted with
        hinsert | ⟨hinsert, hstored⟩ | ⟨hinsert, hnone⟩
      · rw [hinsert]
        exact h.pass ht (Or.inl (Or.inr rfl)) (fun _ => Nat.le_refl _) rfl rfl
      · rw [hinsert]
        exact h.pass ht hstored (fun _ => Nat.le_refl _) rfl rfl
      · rw [hinsert]
        have hminted : Minted sha256 value (newEvent sha256 value eventId now) := ⟨eventId, now, rfl⟩
        refine h.move ht (Kept.refl db.rows) h.written hminted (fun key => ?_) (fun _ => rfl)
        have hsingle := h.single key
        by_cases hkey : value.idempotencyKey = key
        · have hrows : tally (keyed key) db.rows = 0 := tally_eq_zero fun row hrow => by
            have hne := hnone row hrow
            simp [keyed, ← hkey, hne]
          have hheld : tally (Transaction.holds key) db.transactions = 0 :=
            tally_eq_zero fun transaction hmem => by
              unfold Transaction.holds
              split
              · rename_i own hown
                have hmember : own ∈ db.pending := List.mem_filterMap.mpr ⟨transaction, hmem, hown⟩
                have hne : own.idempotencyKey ≠ value.idempotencyKey := by
                  intro heq
                  exact hpend (List.any_eq_true.mpr ⟨own, hmember, by simpa using heq⟩)
                simp [keyed, ← hkey, hne]
              · rfl
          have hone : Transaction.holds key
              ⟨value, .inserted (some (newEvent sha256 value eventId now))⟩ ≤ 1 := by
            simp only [Transaction.holds, Phase.own, keyed]
            split <;> omega
          omega
        · have hzero : Transaction.holds key
              ⟨value, .inserted (some (newEvent sha256 value eventId now))⟩ = 0 := by
            simp only [Transaction.holds, Phase.own, keyed, hminted.idempotencyKey, if_neg hkey]
          omega
  · exact h

/-- A transaction that holds a key leaves no room for a committed row of it. -/
theorem Database.Sound.no_row (h : db.Sound sha256)
    (ht : db.transactions[t]? = some ⟨value, phase⟩) {own : OutboxEvent} (hown : phase.own = some own) :
    ∀ row ∈ db.rows, row.idempotencyKey ≠ own.idempotencyKey := by
  intro row hrow
  have hsingle := h.single own.idempotencyKey
  have hheld := weight_le_tally (Transaction.holds own.idempotencyKey) (List.mem_of_getElem? ht)
  have hone : Transaction.holds own.idempotencyKey ⟨value, phase⟩ = 1 := by
    simp [Transaction.holds, hown, keyed]
  exact keyed_eq_zero (by omega) hrow

/-- What a call concludes after the insert that it made. -/
theorem Database.Sound.read_inserted (h : db.Sound sha256) {own : OutboxEvent}
    (ht : db.transactions[t]? = some ⟨value, .inserted (some own)⟩) :
    db.read sha256 value (some own) true =
      .returned (.ok (reportOf own.toEventFacts .created)) (some own) := by
  have hminted : Minted sha256 value own := h.phases _ (List.mem_of_getElem? ht)
  have hnone : db.rows.filter (fun row => decide (row.idempotencyKey = value.idempotencyKey)) = [] := by
    refine List.filter_eq_nil_iff.mpr fun row hrow => ?_
    have hne := h.no_row ht rfl row hrow
    rw [hminted.idempotencyKey] at hne
    simpa using hne
  have hconcludes := hminted.concludes
  simp only [Database.read, hnone, Option.isSome_some, Option.toList_some, List.nil_append,
    hconcludes, if_true]

/-- What a call concludes that found its key taken. -/
theorem Database.Sound.read_taken (h : db.Sound sha256) (hrow : row ∈ db.rows)
    (hkey : row.idempotencyKey = value.idempotencyKey) :
    db.read sha256 value none true = .returned (concludes sha256 value false [row]) none := by
  have hsingle := h.single value.idempotencyKey
  have hfilter := filter_eq_singleton (by omega) hrow hkey
  simp only [Database.read, hfilter, Option.isSome_none, Option.toList_none, List.append_nil, if_true]

theorem Database.Sound.read (h : db.Sound sha256) (t : ℕ) (answered : Bool) :
    (db.act sha256 payloadValid (.read t answered)).Sound sha256 := by
  simp only [Database.act]
  split
  · rename_i value own ht
    have hphase := h.phases _ (List.mem_of_getElem? ht)
    cases answered with
    | false =>
      exact h.pass ht (Or.inl (Or.inr rfl)) (fun _ => Nat.zero_le _) rfl rfl
    | true =>
      cases own with
      | some own =>
        rw [h.read_inserted ht]
        exact h.pass ht ⟨hphase, rfl⟩ (fun _ => Nat.le_refl _) rfl rfl
      | none =>
        obtain ⟨row, hrow, hkey⟩ := hphase
        rw [h.read_taken hrow hkey]
        exact h.pass ht (Or.inr ⟨row, hrow, hkey, rfl⟩) (fun _ => Nat.le_refl _) rfl rfl
  · exact h

theorem Database.Sound.commit (h : db.Sound sha256) (t : ℕ) :
    (db.act sha256 payloadValid (.commit t)).Sound sha256 := by
  simp only [Database.act]
  split
  · rename_i value outcome own ht
    have hphase := h.phases _ (List.mem_of_getElem? ht)
    cases own with
    | some own =>
      obtain ⟨hminted, hout⟩ := hphase
      have hkey := hminted.idempotencyKey
      refine h.move ht (Kept.append db.rows [own]) (fun row hrow => ?_) ?_ (fun key => ?_)
        (fun key => ?_)
      · rcases Table.mem_append hrow with hold | rfl
        · exact h.written row hold
        · exact hminted.written
      · refine Or.inr ⟨true, own, by simp, hkey, ?_⟩
        rw [hout, hminted.concludes]
      · have hsingle := h.single key
        simp only [Option.toList_some, tally_append, tally_cons, tally_nil, Transaction.holds,
          Phase.own] at hsingle ⊢
        omega
      · simp only [Option.toList_some, tally_append, tally_cons, tally_nil, Transaction.creates,
          Transaction.created, hout, reportOf, keyed, hkey]
        simp [Nat.add_comm]
    | none =>
      have hcreated := created_of_judged hphase
      rw [Option.toList_none, List.append_nil]
      exact h.pass ht (hphase.imp_right fun hjudged => ⟨false, hjudged⟩) (fun _ => Nat.le_refl _)
        rfl hcreated
  · exact h

theorem Database.Sound.rollback (h : db.Sound sha256) (t : ℕ) :
    (db.act sha256 payloadValid (.rollback t)).Sound sha256 := by
  simp only [Database.act]
  split
  · exact h
  · rename_i value phase hopen ht
    have hphase := h.phases _ (List.mem_of_getElem? ht)
    have hended : Phase.Sound sha256 db.rows value (.rolledBack phase.outcome) := by
      match phase, hphase, hopen with
      | .begun, _, _ => exact trivial
      | .inserted _, _, _ => exact trivial
      | .returned _ (some own), hreturned, _ => exact Or.inr (Or.inr ⟨own, hreturned⟩)
      | .returned _ none, hreturned, _ => exact hreturned.imp_right Or.inl
      | .rolledBack none, _, _ => exact trivial
      | .rolledBack (some _), hrolled, _ => exact hrolled
      | .committed outcome, _, hopen => exact (hopen outcome rfl).elim
    have hbefore : Transaction.created ⟨value, phase⟩ = false := by
      match phase, hopen with
      | .begun, _ | .inserted _, _ | .returned _ _, _ | .rolledBack _, _ => rfl
      | .committed outcome, hopen => exact (hopen outcome rfl).elim
    exact h.pass ht hended (fun _ => Nat.zero_le _) hbefore rfl
  · exact h

theorem deliver_facts (event row : OutboxEvent) :
    (if row.toEventFacts = event.toEventFacts then event else row).toEventFacts =
      row.toEventFacts := by
  split
  · rename_i heq
    exact heq.symm
  · rfl

theorem Database.Sound.deliver (h : db.Sound sha256) (event : OutboxEvent) :
    (db.act sha256 payloadValid (.deliver event)).Sound sha256 := by
  have hkept : Kept db.rows (db.rows.map fun row =>
      if row.toEventFacts = event.toEventFacts then event else row) :=
    fun row hrow => ⟨_, List.mem_map_of_mem hrow, deliver_facts event row⟩
  have htally : ∀ key, tally (keyed key) (db.rows.map fun row =>
      if row.toEventFacts = event.toEventFacts then event else row) = tally (keyed key) db.rows := by
    intro key
    simp only [tally, List.map_map]
    congr 1
    refine List.map_congr_left fun row _ => ?_
    simp only [Function.comp, keyed]
    rw [deliver_facts event row]
  refine ⟨fun key => ?_, fun key => ?_, fun row hrow => ?_, fun transaction hmem => ?_⟩
  · rw [Database.act, htally]
    exact h.single key
  · rw [Database.act, htally]
    exact h.creations key
  · obtain ⟨source, hsrc, rfl⟩ := List.mem_map.mp hrow
    obtain ⟨value, eventId, now, hfacts⟩ := h.written source hsrc
    exact ⟨value, eventId, now, (deliver_facts event source).trans hfacts⟩
  · exact (h.phases transaction hmem).kept hkept

theorem Database.Sound.act (h : db.Sound sha256) (action : Action) :
    (db.act sha256 payloadValid action).Sound sha256 := by
  cases action with
  | begin value => exact h.begin value
  | insert t eventId now accepted => exact h.insert t eventId now accepted
  | read t answered => exact h.read t answered
  | commit t => exact h.commit t
  | rollback t => exact h.rollback t
  | deliver event => exact h.deliver event

theorem Database.kept_act (db : Database) (action : Action) :
    Kept db.rows (db.act sha256 payloadValid action).rows := by
  cases action with
  | begin => exact Kept.refl db.rows
  | insert =>
    simp only [Database.act]
    split
    · split
      · exact Kept.refl db.rows
      · exact Kept.refl db.rows
    · exact Kept.refl db.rows
  | read | rollback =>
    simp only [Database.act]
    split <;> exact Kept.refl db.rows
  | commit =>
    simp only [Database.act]
    split
    · exact Kept.append db.rows _
    · exact Kept.refl db.rows
  | deliver event =>
    exact fun row hrow => ⟨_, List.mem_map_of_mem hrow, deliver_facts event row⟩

theorem Database.kept_run (db : Database) (actions : List Action) :
    Kept db.rows (run (Database.act sha256 payloadValid) db actions).rows := by
  induction actions generalizing db with
  | nil => exact Kept.refl db.rows
  | cons action actions ih => exact (db.kept_act action).trans (ih _)

theorem Database.Sound.run (actions : List Action) :
    (run (Database.act sha256 payloadValid) Database.empty actions).Sound sha256 :=
  run_invariant Database.Sound.empty (fun _ action h => h.act action) actions

/-- The transaction that an action belongs to. -/
def Action.transaction : Action → Option ℕ
  | .insert t _ _ _ | .read t _ | .commit t | .rollback t => some t
  | _ => none

def Phase.isRolledBack : Phase → Bool
  | .rolledBack _ => true
  | _ => false

theorem Database.Sound.row_unique (h : db.Sound sha256) (hrow : row ∈ db.rows)
    (hrecord : record ∈ db.rows) (hkey : record.idempotencyKey = row.idempotencyKey) :
    record = row := by
  have hsingle := h.single row.idempotencyKey
  have hfirst := filter_eq_singleton (by omega) hrow rfl
  have hsecond := filter_eq_singleton (by omega) hrecord hkey
  exact List.singleton_inj.mp (hsecond.symm.trans hfirst)

/-- Once a row of its key is stored, a call that has ended was refused before it read, or was
judged by that row, or its own insert was rolled back. -/
theorem Database.Sound.judged (h : db.Sound sha256) {transaction : Transaction}
    (hmem : transaction ∈ db.transactions) (hrow : row ∈ db.rows)
    (hkey : row.idempotencyKey = transaction.input.idempotencyKey)
    {outcome : Except AppendError AppendResult} (hends : transaction.phase.outcome = some outcome) :
    Refused outcome ∨ (∃ created, outcome = concludes sha256 transaction.input created [row]) ∨
      transaction.phase.isRolledBack ∧
        ∃ own : OutboxEvent, outcome = .ok (reportOf own.toEventFacts .created) := by
  have hstored : ∀ created, Judged sha256 db.rows transaction.input created outcome →
      outcome = concludes sha256 transaction.input created [row] := by
    rintro created ⟨other, hother, hotherKey, hconcludes⟩
    rw [hconcludes, h.row_unique hrow hother (hotherKey.trans hkey.symm)]
  obtain ⟨t, ht⟩ := List.mem_iff_getElem?.mp hmem
  obtain ⟨value, phase⟩ := transaction
  have hphase := h.phases _ hmem
  cases phase with
  | begun | inserted => exact nomatch hends
  | returned result own =>
    obtain rfl : result = outcome := Option.some.inj hends
    cases own with
    | some own =>
      exact absurd (hkey.trans hphase.1.idempotencyKey.symm) (h.no_row ht rfl row hrow)
    | none => exact hphase.imp_right fun hjudged => Or.inl ⟨false, hstored false hjudged⟩
  | committed result =>
    obtain rfl : result = outcome := Option.some.inj hends
    exact hphase.imp_right fun ⟨created, hjudged⟩ => Or.inl ⟨created, hstored created hjudged⟩
  | rolledBack result =>
    obtain rfl : result = some outcome := hends
    rcases hphase with hrefused | hjudged | ⟨own, -, hown⟩
    · exact Or.inl hrefused
    · exact Or.inr (Or.inl ⟨false, hstored false hjudged⟩)
    · exact Or.inr (Or.inr ⟨rfl, own, hown⟩)

variable {result : AppendResult}

/-- A call that succeeded and is committed, or that reports a replay, has its row. -/
theorem Database.Sound.stored (h : db.Sound sha256) {transaction : Transaction}
    (hmem : transaction ∈ db.transactions) (hends : transaction.phase.outcome = some (.ok result))
    (hstands : transaction.phase = .committed (.ok result) ∨ result.disposition = .replayed) :
    ∃ row ∈ db.rows, row.idempotencyKey = transaction.input.idempotencyKey := by
  have hstored : ∀ created outcome, Judged sha256 db.rows transaction.input created outcome →
      ∃ row ∈ db.rows, row.idempotencyKey = transaction.input.idempotencyKey :=
    fun _ _ ⟨row, hrow, hkey, _⟩ => ⟨row, hrow, hkey⟩
  have hanswered : ¬Refused (.ok result) := by
    rintro (hinput | hpersistence)
    · exact nomatch hinput
    · exact nomatch hpersistence
  have hreplayed : ∀ own : OutboxEvent,
      (Except.ok result : Except AppendError AppendResult) =
        .ok (reportOf own.toEventFacts .created) → result.disposition ≠ .replayed := by
    intro own hreport
    rw [Except.ok.inj hreport]
    exact nofun
  obtain ⟨value, phase⟩ := transaction
  have hphase := h.phases _ hmem
  cases phase with
  | begun | inserted => exact nomatch hends
  | returned outcome own =>
    obtain rfl : outcome = .ok result := Option.some.inj hends
    cases own with
    | some own => exact absurd (hstands.resolve_left nofun) (hreplayed own hphase.2)
    | none => exact hstored false _ (hphase.resolve_left hanswered)
  | committed outcome =>
    obtain rfl : outcome = .ok result := Option.some.inj hends
    obtain ⟨created, hjudged⟩ := hphase.resolve_left hanswered
    exact hstored created _ hjudged
  | rolledBack outcome =>
    obtain rfl : outcome = some (.ok result) := hends
    rcases hphase.resolve_left hanswered with hjudged | ⟨own, -, hreport⟩
    · exact hstored false _ hjudged
    · exact absurd (hstands.resolve_left nofun) (hreplayed own hreport)

/-- A call that succeeded with a row reports it, and gave its facts. -/
theorem report_of_concludes (hrow : Written sha256 row) {created : Bool}
    (h : Except.ok result = concludes sha256 value created [row]) :
    result = reportOf row.toEventFacts result.disposition ∧
      (value.Describes row.toEventFacts ∨ Collides sha256 row.payload value.payload) := by
  rcases concludes_single sha256 value row created with ⟨hreport, hmatch⟩ | ⟨hconflict, -⟩
  · rw [hreport] at h
    obtain rfl := Except.ok.inj h
    exact ⟨rfl, describes_of_isMatch hrow hmatch⟩
  · rw [hconflict] at h
    exact nomatch h

/-- An insert whose key is stored does not wait and inserts nothing. -/
theorem Database.Sound.insert_taken (h : db.Sound sha256)
    (ht : db.transactions[t]? = some ⟨value, .begun⟩) (hrow : row ∈ db.rows)
    (hkey : row.idempotencyKey = value.idempotencyKey) (eventId : Uuid) (now : ℕ) :
    db.act sha256 payloadValid (.insert t eventId now true) = db.move t value (.inserted none) := by
  have hfree : db.pending.any (fun own => decide (own.idempotencyKey = value.idempotencyKey)) =
      false := by
    refine List.any_eq_false.mpr fun own hown => ?_
    obtain ⟨⟨other, phase⟩, hmem, hphase⟩ := List.mem_filterMap.mp hown
    obtain ⟨i, hi⟩ := List.mem_iff_getElem?.mp hmem
    have hne := h.no_row hi hphase row hrow
    rw [hkey] at hne
    simpa using hne.symm
  have htaken : db.rows.any (fun other => decide (other.idempotencyKey = value.idempotencyKey)) =
      true := List.any_eq_true.mpr ⟨row, hrow, by simpa using hkey⟩
  simp [Database.act, ht, hfree, Database.insert, htaken]

/-- A transaction whose key is stored changes no row. -/
theorem Database.Sound.rows_taken (h : db.Sound sha256) {transaction : Transaction}
    (ht : db.transactions[t]? = some transaction) (hrow : row ∈ db.rows)
    (hkey : row.idempotencyKey = transaction.input.idempotencyKey) {action : Action}
    (haction : action.transaction = some t) :
    (db.act sha256 payloadValid action).rows = db.rows := by
  cases action with
  | begin | deliver => exact nomatch haction
  | insert =>
    simp only [Database.act]
    split
    · split
      · rfl
      · rfl
    · rfl
  | read | rollback =>
    simp only [Database.act]
    split <;> rfl
  | commit i =>
    obtain rfl : i = t := Option.some.inj haction
    simp only [Database.act]
    split
    · rename_i value outcome own hi
      obtain rfl : transaction = ⟨value, .returned outcome own⟩ :=
        Option.some.inj (ht.symm.trans hi)
      cases own with
      | none => simp
      | some own =>
        have hphase := h.phases _ (List.mem_of_getElem? hi)
        exact absurd (hkey.trans hphase.1.idempotencyKey.symm) (h.no_row hi rfl row hrow)
    · rfl

theorem tally_keyed (key : String) (rows : List OutboxEvent) :
    tally (keyed key) rows = rows.countP (fun row => decide (row.idempotencyKey = key)) := by
  induction rows with
  | nil => rfl
  | cons row rows ih =>
    rw [tally_cons, ih, List.countP_cons, Nat.add_comm]
    simp [keyed]

theorem tally_creates (key : String) (transactions : List Transaction) :
    tally (Transaction.creates key) transactions = transactions.countP
      (fun transaction => decide (transaction.input.idempotencyKey = key) && transaction.created) := by
  induction transactions with
  | nil => rfl
  | cons transaction transactions ih =>
    rw [tally_cons, ih, List.countP_cons, Nat.add_comm]
    simp [Transaction.creates]

/-- In every run of the appends and of what commits, rolls back and delivers: a key has at most one
row, which stays with its facts. One committed call reports the creation as soon as any committed
call succeeds. Every call that succeeded and is not rolled back, and every replay, reports that row
and gave its facts. A call that gives other facts ends in the conflict, and no transaction of the
key touches the row. Two payloads with one digest that Python takes for equal are the exception. -/
theorem append_idempotent (sha256 : String → String) (payloadValid : Json → Bool)
    (actions : List Action) :
    let db := run (Database.act sha256 payloadValid) Database.empty actions
    (∀ key, db.rows.countP (fun row => decide (row.idempotencyKey = key)) ≤ 1) ∧
    (∀ later, Kept db.rows (run (Database.act sha256 payloadValid) db later).rows) ∧
    (∀ key, db.transactions.countP (fun transaction =>
      decide (transaction.input.idempotencyKey = key) && transaction.created) ≤ 1) ∧
    (∀ transaction ∈ db.transactions, ∀ result,
      transaction.phase = .committed (.ok result) →
      db.transactions.countP (fun other =>
        decide (other.input.idempotencyKey = transaction.input.idempotencyKey) && other.created) = 1) ∧
    (∀ transaction ∈ db.transactions, ∀ result, transaction.phase.outcome = some (.ok result) →
      transaction.phase = .committed (.ok result) ∨ result.disposition = .replayed →
      ∃ row ∈ db.rows, row.idempotencyKey = transaction.input.idempotencyKey) ∧
    (∀ t transaction row, db.transactions[t]? = some transaction → row ∈ db.rows →
      row.idempotencyKey = transaction.input.idempotencyKey →
      (∀ result, transaction.phase.outcome = some (.ok result) →
        transaction.phase.isRolledBack = false ∨ result.disposition = .replayed →
        result = reportOf row.toEventFacts result.disposition ∧
          (transaction.input.Describes row.toEventFacts ∨
            Collides sha256 row.payload transaction.input.payload)) ∧
      (transaction.phase = .begun → ∀ eventId now,
        db.act sha256 payloadValid (.insert t eventId now true) =
          db.move t transaction.input (.inserted none)) ∧
      (∀ own, transaction.phase = .inserted own →
        ¬transaction.input.Describes row.toEventFacts →
        db.act sha256 payloadValid (.read t true) =
            db.move t transaction.input (.returned (.error idempotencyConflict) none) ∨
          Collides sha256 row.payload transaction.input.payload) ∧
      (∀ action : Action, action.transaction = some t →
        (db.act sha256 payloadValid action).rows = db.rows)) := by
  intro db
  have h : db.Sound sha256 := Database.Sound.run actions
  have hcreations : ∀ key, db.transactions.countP (fun transaction =>
      decide (transaction.input.idempotencyKey = key) && transaction.created) =
        tally (keyed key) db.rows := fun key => by rw [← tally_creates, h.creations]
  refine ⟨fun key => ?_, fun later => db.kept_run later, fun key => ?_, ?_, ?_, ?_⟩
  · have hsingle := h.single key
    rw [← tally_keyed]
    omega
  · have hsingle := h.single key
    rw [hcreations]
    omega
  · intro transaction hmem result hcommitted
    have hends : transaction.phase.outcome = some (.ok result) := by
      rw [hcommitted]
      rfl
    obtain ⟨row, hrow, hkey⟩ := h.stored hmem hends (Or.inl hcommitted)
    have hsingle := h.single transaction.input.idempotencyKey
    have hweight := weight_le_tally (keyed transaction.input.idempotencyKey) hrow
    have hone : keyed transaction.input.idempotencyKey row = 1 := by simp [keyed, hkey]
    rw [hcreations]
    omega
  · intro transaction hmem result hends hstands
    exact h.stored hmem hends hstands
  · intro t transaction row ht hrow hkey
    have hmem := List.mem_of_getElem? ht
    refine ⟨fun result hends hstands => ?_, fun hbegun eventId now => ?_,
      fun own hins hdiffers => ?_, fun action haction => h.rows_taken ht hrow hkey haction⟩
    · rcases h.judged hmem hrow hkey hends with (hrefused | hrefused) | ⟨created, hjudged⟩ | hrolled
      · exact nomatch hrefused
      · exact nomatch hrefused
      · exact report_of_concludes (h.written row hrow) hjudged
      · obtain ⟨hback, own, hreport⟩ := hrolled
        rw [hback, Except.ok.inj hreport] at hstands
        rcases hstands with hstanding | hreplayed
        · exact nomatch hstanding
        · exact nomatch hreplayed
    · obtain ⟨value, phase⟩ := transaction
      obtain rfl : phase = .begun := hbegun
      exact h.insert_taken ht hrow hkey eventId now
    · obtain ⟨value, phase⟩ := transaction
      obtain rfl : phase = .inserted own := hins
      by_cases hcollides : Collides sha256 row.payload value.payload
      · exact Or.inr hcollides
      · left
        cases own with
        | some own =>
          have hminted : Minted sha256 value own := h.phases _ hmem
          exact absurd (hkey.trans hminted.idempotencyKey.symm) (h.no_row ht rfl row hrow)
        | none =>
          simp only [Database.act, ht, h.read_taken hrow hkey,
            concludes_of_not_describes (h.written row hrow) hdiffers hcollides]

end

def sampleInput (count : ℕ) : OutboxAppendInput where
  eventType := "task.released"
  eventVersion := 1
  aggregateType := "task"
  aggregateId := "task"
  projectId := "project"
  correlationId := "request"
  causationEventId := none
  idempotencyKey := "key"
  payload := .obj [("count", .num count)]
  notBeforeAt := none
  distinct := by simp [Json.DistinctKeys, Json.DistinctKeysFields]

def sampleDatabase : Database :=
  run (Database.act id (fun _ => true)) .empty
    [.begin (sampleInput 1), .begin (sampleInput 1), .begin (sampleInput 2), .insert 0 "first" 5 true,
      .insert 1 "second" 6 true, .read 0 true, .commit 0, .insert 1 "second" 7 true, .read 1 true,
      .commit 1, .insert 2 "third" 8 true, .read 2 true]

-- The second append waits for the first and replays it; another payload under the key conflicts.
example : sampleDatabase.rows.map (·.eventId) = ["first"] ∧
    sampleDatabase.transactions.map (fun t => t.phase.outcome.map
      (fun outcome => outcome.toOption.map (·.disposition))) =
        [some (some .created), some (some .replayed), some none] := by
  decide +kernel

end Workstream.Outbox.Appends
