import Workstream.Outbox.History
import Workstream.Outbox.Acceptance

/-!
# Rows that the database admitted

Every row in a reached state passed the checks of the database when it was written.
-/

namespace Workstream.Outbox
open Foundation

variable {sha256 : String → String} {d : OutboxDelivery} {facts : EventFacts} {rows : Custody}
  {e : OutboxEvent} {w : Write} {clock : Nat}

theorem eventChecks_iff :
    eventChecks e = true ↔
      e.attemptCount = e.claimGeneration ∧ (∀ o, e.claimOwner = some o → isOwner o = true) ∧
      deliveryStateShape e = true ∧ (∀ t, e.nextAttemptAt = some t → e.occurredAt ≤ t) ∧
      (∀ t, e.claimedAt = some t → e.occurredAt ≤ t) ∧
      (∀ t, e.lastAttemptAt = some t → e.occurredAt ≤ t) ∧
      (∀ x y, e.claimedAt = some x → e.claimExpiresAt = some y → x < y) ∧
      (∀ t, e.finalizedAt = some t → e.occurredAt ≤ t) ∧
      (∀ x y, e.lastAttemptAt = some x → e.finalizedAt = some y → x ≤ y) ∧
      ∀ b, e.notBeforeAt = some b →
        (∀ t, e.nextAttemptAt = some t → b ≤ t) ∧ ∀ t, e.claimedAt = some t → b ≤ t := by
  unfold eventChecks
  cases hbound : e.notBeforeAt <;> simp only [Bool.and_eq_true, Sql.passes_some_le] <;>
    simp [Sql.passes_le, Sql.passes_lt, and_assoc, Option.all_eq_true]

theorem attemptChecks_iff {a : OutboxDeliveryAttempt} :
    attemptChecks sha256 a = true ↔
      a.toClaimFields.Valid ∧ stageShape a = true ∧ phaseDecisions a = true ∧
      outcomeCheck sha256 a = true := by
  unfold attemptChecks ClaimFields.Valid
  simp only [Bool.and_eq_true, decide_eq_true_eq]
  tauto

theorem accepts_iff :
    accepts sha256 rows w clock = true ↔
      (∀ e, w.event = some e → guardEvent rows.event e = true ∧ eventChecks e = true) ∧
      (w.fresh = true → rows.attemptAt w.attempt.claimGeneration = none ∧
        guardAttempt none w.attempt clock = true) ∧
      (w.fresh = false → ∃ old, rows.attemptAt w.attempt.claimGeneration = some old ∧
        guardAttempt (some old) w.attempt clock = true) ∧
      attemptChecks sha256 w.attempt = true ∧ checkProjection (rows.apply w) = true := by
  unfold accepts
  cases hevent : w.event <;> cases hfresh : w.fresh <;>
    cases hold : rows.attemptAt w.attempt.claimGeneration <;> simp [and_assoc]

/-- The rows pass every check, and the attempts name their event. -/
structure Admitted (sha256 : String → String) (rows : Custody) : Prop where
  event : eventChecks rows.event = true
  attempts : ∀ a ∈ rows.attempts, attemptChecks sha256 a = true
  projected : checkProjection rows = true
  owned : ∀ a ∈ rows.attempts, a.eventId = rows.event.eventId

theorem admitted_appended (sha256 : String → String) (facts : EventFacts) :
    Admitted sha256 ⟨appended facts, []⟩ where
  event := by
    refine eventChecks_iff.mpr ⟨rfl, by simp [appended], rfl, ?_, by simp [appended],
      by simp [appended], by simp [appended], by simp [appended], by simp [appended], ?_⟩
    · intro t ht
      have ht : max facts.occurredAt (facts.notBeforeAt.getD facts.occurredAt) = t :=
        Option.some.inj ht
      rw [← ht]
      exact Nat.le_max_left _ _
    · intro b hb
      have hb : facts.notBeforeAt = some b := hb
      refine ⟨?_, by simp [appended]⟩
      intro t ht
      have ht : max facts.occurredAt (facts.notBeforeAt.getD facts.occurredAt) = t :=
        Option.some.inj ht
      rw [← ht, hb]
      exact Nat.le_max_right _ _
  attempts := by simp
  projected := by
    refine checkProjection_iff.mpr ⟨rfl, by simp, by simp, .inl rfl⟩
  owned := by simp

theorem Admitted.apply (h : Admitted sha256 rows) (hacc : accepts sha256 rows w clock = true)
    (howned : w.attempt.eventId = rows.event.eventId)
    (hevent : (rows.apply w).event.eventId = rows.event.eventId) : Admitted sha256 (rows.apply w) := by
  obtain ⟨hguard, -, -, hchecks, hprojected⟩ := accepts_iff.mp hacc
  have hmem : ∀ a ∈ (rows.apply w).attempts, a ∈ rows.attempts ∨ a = w.attempt := by
    intro a ha
    unfold Custody.apply at ha
    split at ha
    · simpa using ha
    · rcases Table.mem_replace ha with rfl | ⟨hold, -⟩
      · exact .inr rfl
      · exact .inl hold
  refine ⟨?_, ?_, hprojected, ?_⟩
  · cases hw : w.event with
    | none =>
      have hsame : (rows.apply w).event = rows.event := by simp [Custody.apply, hw]
      rw [hsame]
      exact h.event
    | some e =>
      have hsame : (rows.apply w).event = e := by simp [Custody.apply, hw]
      rw [hsame]
      exact (hguard e hw).2
  · intro a ha
    rcases hmem a ha with hold | rfl
    · exact h.attempts a hold
    · exact hchecks
  · intro a ha
    rw [hevent]
    rcases hmem a ha with hold | rfl
    · exact h.owned a hold
    · exact howned

theorem StepTo.admitted {s s' : State} (hstep : StepTo sha256 d s s') (h : Admitted sha256 s.rows) :
    Admitted sha256 s'.rows := by
  cases hstep with
  | claimed htask hclaims hacc => exact h.apply hacc hclaims.eventId_eq.symm rfl
  | invoked hinvokes hacc =>
    have hmem := (Custody.findAttempt_eq_some hinvokes.found).1
    have howned := h.owned _ hmem
    exact h.apply hacc howned rfl
  | finalized htask hfound hfin hacc =>
    have hmem := (Custody.findAttempt_eq_some hfound).1
    have howned := h.owned _ hmem
    exact h.apply hacc howned rfl
  | _ => exact h

theorem deliveryStateShape_of_open (hshape : deliveryStateShape e = true) (hopen : e.isOpen = true) :
    e.nextAttemptAt.isSome = true ∧ e.finalizedAt = none := by
  simp only [OutboxEvent.isOpen, decide_eq_true_eq] at hopen
  rcases hopen with hstate | hstate
  · simp [deliveryStateShape, hstate] at hshape
    exact ⟨hshape.1.1.1.1.2, hshape.2⟩
  · simp [deliveryStateShape, hstate] at hshape
    exact ⟨hshape.1.1.1.1.2, hshape.2⟩

theorem accepts_claimWrite (h : Admitted sha256 rows) (hcust : CustodyInvariant rows)
    {claim : OutboxClaim} {i : TxInput} {decisionId : Uuid} (hclaims : Claims rows claim i decisionId)
    (hdue : rows.event.due claim.claimedAt = true)
    (hclock : claim.claimedAt ≤ clock ∧ clock < claim.claimExpiresAt) :
    accepts sha256 rows (claimWrite rows.event claim decisionId) clock = true := by
  obtain ⟨hcounters, -, hshape, hnext, -, -, -, hfinal, -, hbound⟩ := eventChecks_iff.mp h.event
  obtain ⟨hlen, hatts, hunknown, -⟩ := checkProjection_iff.mp h.projected
  obtain ⟨hsome, hunfinished⟩ := deliveryStateShape_of_open hshape hclaims.isOpen
  have hgen := hclaims.generation
  obtain ⟨t, ht⟩ := Option.isSome_iff_exists.mp hsome
  have hclaimed : t ≤ claim.claimedAt := by simpa [OutboxEvent.due, ht] using hdue
  have hoccurred : rows.event.occurredAt ≤ claim.claimedAt := (hnext t ht).trans hclaimed
  have hlease := claim.valid.2.2.2.1
  refine accepts_iff.mpr ⟨?_, ?_, by simp [claimWrite], ?_, ?_⟩
  · intro e he
    obtain rfl := Option.some.inj he
    constructor
    · have hopen := hclaims.isOpen
      simp only [OutboxEvent.isOpen, decide_eq_true_eq] at hopen
      rcases hopen with hstate | hstate <;> simp [guardEvent, hstate] <;> omega
    · refine eventChecks_iff.mpr ⟨rfl, ?_, ?_, by simp, ?_, ?_, ?_, ?_, ?_, ?_⟩
      · intro o ho
        obtain rfl := Option.some.inj ho
        exact claim.valid.2.2.1
      · have hpos : 0 < claim.claimGeneration := by omega
        simp [deliveryStateShape, hpos, hunfinished]
      · intro t' ht'
        obtain rfl := Option.some.inj ht'
        exact hoccurred
      · intro t' ht'
        obtain rfl := Option.some.inj ht'
        exact hoccurred
      · intro x y hx hy
        obtain rfl := Option.some.inj hx
        obtain rfl := Option.some.inj hy
        exact hlease
      · intro t' ht'
        exact hfinal t' ht'
      · intro x y hx hy
        rw [hunfinished] at hy
        cases hy
      · intro b hb
        refine ⟨by simp, ?_⟩
        intro t' ht'
        obtain rfl := Option.some.inj ht'
        exact ((hbound b hb).1 t ht).trans hclaimed
  · intro _
    constructor
    · refine Table.find_eq_none.mpr ?_
      intro a ha hkey
      have hkey : a.claimGeneration = claim.claimGeneration := hkey
      have hrange := hcust.generation_range ha
      omega
    · simp [guardAttempt, claimWrite, hclock]
  · refine attemptChecks_iff.mpr ⟨claim.valid, rfl, rfl, rfl⟩
  · have hrows : (rows.apply (claimWrite rows.event claim decisionId)).attempts =
        rows.attempts ++ [(claimWrite rows.event claim decisionId).attempt] := rfl
    refine checkProjection_iff.mpr ⟨?_, ?_, ?_, .inr ⟨(claimWrite rows.event claim decisionId).attempt,
      ?_, by simp [projects, projectsClaim, Custody.apply, claimWrite]⟩⟩
    · rw [hrows, List.length_append, hlen]
      exact hgen
    · intro x hx
      rcases Table.mem_append hx with hold | rfl
      · obtain ⟨hle, hproj, hdig, hx, -⟩ := hatts x hold
        have hnewer : x.claimGeneration ≤ claim.claimGeneration := by omega
        exact ⟨hnewer, hproj, hdig, hx,
          fun _ => hcust.completed_of_open hclaims.isOpen hold⟩
      · exact ⟨Nat.le_refl _, hclaims.projectId_eq.symm, hclaims.digest.symm, hoccurred,
          fun hlt => absurd hlt (Nat.lt_irrefl _)⟩
    · intro x hx hretry
      rcases Table.mem_append hx with hold | rfl
      · exact hunknown x hold hretry
      · cases hretry
    · have huniq : ((rows.apply (claimWrite rows.event claim decisionId)).attempts.map
          fun a => a.claimGeneration).Nodup := (hcust.apply_claimWrite hclaims).unique
      have hnew : (claimWrite rows.event claim decisionId).attempt ∈
          (rows.apply (claimWrite rows.event claim decisionId)).attempts := by
        rw [hrows]
        simp
      exact Table.find_of_mem huniq hnew

/-- The columns of a claimed event and of its open attempt. -/
structure OpenAttempt (rows : Custody) (attempt : OutboxDeliveryAttempt) : Prop where
  counters : rows.event.attemptCount = rows.event.claimGeneration
  claimed : rows.event.deliveryState = .claimed
  current : attempt.claimGeneration = rows.event.claimGeneration
  lastAttemptAt : rows.event.lastAttemptAt = some attempt.claimedAt
  occurred : rows.event.occurredAt ≤ attempt.claimedAt
  notBefore : ∀ b, rows.event.notBeforeAt = some b → b ≤ attempt.claimedAt
  marker : ∀ t, attempt.invokedAt = some t → attempt.claimedAt ≤ t ∧ t < attempt.claimExpiresAt
  decision : attempt.invokedAt.isSome = attempt.invokeDecisionEventId.isSome

theorem openAttempt_of_admitted (h : Admitted sha256 rows) (hcust : CustodyInvariant rows)
    {attempt : OutboxDeliveryAttempt} (hmem : attempt ∈ rows.attempts)
    (hstate : rows.event.deliveryState = .claimed)
    (hcur : attempt.claimGeneration = rows.event.claimGeneration) : OpenAttempt rows attempt := by
  obtain ⟨a, ha, hageneration, hstage, -, hclaimedAt, -, hlast⟩ := hcust.claimed hstate
  obtain rfl := hcust.eq_of_generation ha hmem (hageneration.trans hcur.symm)
  obtain ⟨-, -, -, -, -, -, -, -, -, hbound⟩ := eventChecks_iff.mp h.event
  obtain ⟨-, hatts, -, -⟩ := checkProjection_iff.mp h.projected
  obtain ⟨-, hshape, hphase, -⟩ := attemptChecks_iff.mp (h.attempts a ha)
  refine ⟨hcust.counters, hstate, hcur, hlast, (hatts a ha).2.2.2.1,
    fun b hb => (hbound b hb).2 _ hclaimedAt, ?_, ?_⟩
  · intro t ht
    rcases hstage with hstage | hstage <;> simp [stageShape, hstage, ht] at hshape
    exact hshape.1.1
  · rcases hstage with hstage | hstage
    · simp only [phaseDecisions, stageShape, hstage, Bool.and_eq_true, Option.isNone_iff_eq_none]
        at hphase hshape
      simp [hphase.1, hshape.1.1]
    · cases hmark : a.invokedAt <;> simp [phaseDecisions, stageShape, hstage, hmark] at hphase hshape
      simp [hphase.1]

section Finalization

variable {receipt : DeliveryReceipt} {cause : FinalizationCause} {attempt : OutboxDeliveryAttempt}
  {value : Outcome} {decisionId : Uuid} {i : TxInput}

theorem eventChecks_finalizeWrite (hopen : OpenAttempt rows attempt)
    (hfin : Finalizes sha256 d receipt cause rows.event attempt value decisionId i)
    (htime : attempt.claimedAt ≤ value.receiptCompletedAt) :
    eventChecks (rows.apply (finalizeWrite rows.event attempt receipt value decisionId)).event =
      true := by
  have hpos : 0 < rows.event.attemptCount := by
    have hvalid := receipt.claim.valid.2.1.1
    have hfields := claimFromAttempt_eq_some.mp hfin.claim_eq
    have hgen : receipt.claim.claimGeneration = attempt.claimGeneration := by rw [hfields]
    have hcounters := hopen.counters
    have hcur := hopen.current
    omega
  have hlast : ∀ t, rows.event.lastAttemptAt = some t → t = attempt.claimedAt := by
    intro t ht
    rw [hopen.lastAttemptAt] at ht
    exact (Option.some.inj ht).symm
  have hoccurred := hopen.occurred
  refine eventChecks_iff.mpr ⟨hopen.counters, by simp [Custody.apply, finalizeWrite], ?_, ?_,
    by simp [Custody.apply, finalizeWrite], ?_, by simp [Custody.apply, finalizeWrite], ?_, ?_, ?_⟩
  · rcases hfin.row.shape with ⟨hstate, hcode, hfinal, ⟨t, hnext, -⟩, -⟩ |
      ⟨hstate | ⟨hstate, hcode⟩, hfinal, hnext⟩
    · simp [deliveryStateShape, Custody.apply, finalizeWrite, hstate, hcode, hfinal, hnext,
        hopen.lastAttemptAt, hpos]
    · simp [deliveryStateShape, Custody.apply, finalizeWrite, hstate, hfinal, hnext,
        hopen.lastAttemptAt, hpos]
    · simp [deliveryStateShape, Custody.apply, finalizeWrite, hstate, hcode, hfinal, hnext,
        hopen.lastAttemptAt, hpos]
  · intro t ht
    have ht : value.nextAttemptAt = some t := ht
    show rows.event.occurredAt ≤ t
    rcases hfin.row.shape with ⟨-, -, -, ⟨t', hnext, hle⟩, -⟩ | ⟨-, -, hnext⟩
    · rw [hnext] at ht
      obtain rfl := Option.some.inj ht
      omega
    · rw [hnext] at ht
      cases ht
  · intro t ht
    rw [hlast t ht]
    exact hopen.occurred
  · intro t ht
    have ht : value.finalizedAt = some t := ht
    show rows.event.occurredAt ≤ t
    rcases hfin.row.shape with ⟨-, -, hfinal, -⟩ | ⟨-, hfinal, -⟩
    · rw [hfinal] at ht
      cases ht
    · rw [hfinal] at ht
      obtain rfl := Option.some.inj ht
      omega
  · intro x y hx hy
    have hy : value.finalizedAt = some y := hy
    have hx := hlast x hx
    rcases hfin.row.shape with ⟨-, -, hfinal, -⟩ | ⟨-, hfinal, -⟩
    · rw [hfinal] at hy
      cases hy
    · rw [hfinal] at hy
      obtain rfl := Option.some.inj hy
      omega
  · intro b hb
    refine ⟨?_, by simp [Custody.apply, finalizeWrite]⟩
    intro t ht
    have ht : value.nextAttemptAt = some t := ht
    have hbound := hopen.notBefore b hb
    rcases hfin.row.shape with ⟨-, -, -, ⟨t', hnext, hle⟩, -⟩ | ⟨-, -, hnext⟩
    · rw [hnext] at ht
      obtain rfl := Option.some.inj ht
      omega
    · rw [hnext] at ht
      cases ht

theorem attemptChecks_finalizeWrite (hopen : OpenAttempt rows attempt)
    (hfin : Finalizes sha256 d receipt cause rows.event attempt value decisionId i)
    (htime : attempt.claimedAt ≤ value.receiptCompletedAt)
    (hmark : ∀ t, attempt.invokedAt = some t → t ≤ value.receiptCompletedAt) :
    attemptChecks sha256 (finalizeWrite rows.event attempt receipt value decisionId).attempt = true := by
  have hfields := claimFromAttempt_eq_some.mp hfin.claim_eq
  have hrcpt := hfin.receipt_eq
  have hjson : receipt.outcomeJson = encode value := by rw [hrcpt]; rfl
  have hdig : receipt.outcomeDigest = digestOf sha256 (encode value) := by rw [hrcpt]; rfl
  have hclaimed : receipt.claim.claimedAt = attempt.claimedAt := by rw [hfields]
  have hexp : receipt.claim.claimExpiresAt = attempt.claimExpiresAt := by rw [hfields]
  have hvalid := outcomeValid_encode sha256 hfin.row (hclaimed ▸ htime) hmark
  rw [hclaimed, hexp] at hvalid
  refine attemptChecks_iff.mpr ⟨hfields ▸ receipt.claim.valid, ?_, ?_, ?_⟩
  · cases hinv : attempt.invokedAt with
    | none => simp [stageShape, finalizeWrite, hinv]
    | some t => simp [stageShape, finalizeWrite, hinv, hopen.marker t hinv]
  · simp [phaseDecisions, finalizeWrite, hopen.decision]
  · simp [outcomeCheck, finalizeWrite, hjson, hdig, hvalid]

/-- A finalization is admitted unless it is another attempt after an unknown effect of an event type
that migration 0046 does not list. -/
theorem accepts_finalizeWrite (h : Admitted sha256 rows) (hcust : CustodyInvariant rows)
    (hunmarked : attempt.stage = .claimed → attempt.invokedAt = none)
    (hfound : rows.findAttempt receipt.claim = some attempt)
    (hfin : Finalizes sha256 d receipt cause rows.event attempt value decisionId i)
    (htime : attempt.claimedAt ≤ value.receiptCompletedAt)
    (hmark : ∀ t, attempt.invokedAt = some t → t ≤ value.receiptCompletedAt)
    (hclock : value.receiptCompletedAt ≤ clock) :
    accepts sha256 rows (finalizeWrite rows.event attempt receipt value decisionId) clock = true ↔
      (value.invocationUnknown = true → value.deliveryState = .retryable →
        unknownRetryRegistered rows.event.eventType rows.event.eventVersion = true) := by
  obtain ⟨hmem, hgen⟩ := Custody.findAttempt_eq_some hfound
  obtain ⟨hstate, -, -, -, hcur, -⟩ := matchesEvent_iff.mp hfin.shown
  have hshown : attempt.claimGeneration = rows.event.claimGeneration := by omega
  have hopen := openAttempt_of_admitted h hcust hmem hstate hshown
  have hsettled : value.deliveryState ≠ .claimed := by
    rcases hfin.row.deliveryState_cases with hs | hs | hs <;> simp [hs]
  have hprojection := checkProjection_finalizeWrite
    ⟨h.projected, hcust.unique, hfin.shown, hfound, hfin.claim_eq⟩ sha256 value hsettled
    decisionId
  rw [← hfin.receipt_eq] at hprojection
  rw [← hprojection, accepts_iff]
  constructor
  · exact fun hacc => hacc.2.2.2.2
  · intro hprojected
    refine ⟨?_, by simp [finalizeWrite], ?_,
      attemptChecks_finalizeWrite hopen hfin htime hmark, hprojected⟩
    · intro e he
      have hchecks := eventChecks_finalizeWrite hopen hfin htime
      obtain rfl := Option.some.inj he
      refine ⟨?_, hchecks⟩
      have hcounters := hopen.counters
      rcases hfin.row.deliveryState_cases with hs | hs | hs <;>
        simp [guardEvent, hstate, hs, hcounters]
    · intro _
      refine ⟨attempt, Table.find_of_mem hcust.unique hmem, ?_⟩
      have hcomp : receiptCompleted (finalizeWrite rows.event attempt receipt value
          decisionId).attempt = some (some value.receiptCompletedAt) := by
        have hjson : receipt.outcomeJson = encode value := by rw [hfin.receipt_eq]; rfl
        simp [receiptCompleted, finalizeWrite, hjson, loads_encode,
          timeMember_timeJson value.toJson_receiptCompletedAt]
      have hunfinished := hfin.unfinished
      unfold guardAttempt
      rw [hcomp]
      cases hstage : attempt.stage with
      | completed => exact absurd hstage hunfinished
      | claimed => simp [finalizeWrite, hstage, hunmarked hstage, Nat.not_lt.mpr hclock]
      | invoked => simp [finalizeWrite, hstage, Nat.not_lt.mpr hclock]

end Finalization

end Workstream.Outbox
