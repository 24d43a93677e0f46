import Workstream.Outbox.Steps

/-!
# Custody over whole runs

The event row and the attempt rows agree in every state that any interleaving of the delivery
transactions reaches.
-/

namespace Workstream.Outbox
open Foundation

/-- The event and its attempts agree. -/
structure CustodyInvariant (rows : Custody) : Prop where
  counters : rows.event.attemptCount = rows.event.claimGeneration
  generations : rows.attempts.map (fun a => a.claimGeneration) =
    (List.range rows.event.claimGeneration).map (· + 1)
  earlier : ∀ a ∈ rows.attempts, a.claimGeneration < rows.event.claimGeneration → a.stage = .completed
  claimed : rows.event.deliveryState = .claimed →
    ∃ a ∈ rows.attempts, a.claimGeneration = rows.event.claimGeneration ∧
      (a.stage = .claimed ∨ a.stage = .invoked) ∧ rows.event.claimOwner = some a.claimOwner ∧
      rows.event.claimedAt = some a.claimedAt ∧ rows.event.claimExpiresAt = some a.claimExpiresAt ∧
      rows.event.lastAttemptAt = some a.claimedAt
  pending : rows.event.deliveryState = .pending → rows.event.claimGeneration = 0
  settled : rows.event.deliveryState ≠ .claimed → rows.event.deliveryState ≠ .pending →
    ∃ a ∈ rows.attempts, a.claimGeneration = rows.event.claimGeneration ∧ a.stage = .completed ∧
      ∃ o, a.outcomeJson.bind decode = some o ∧ rows.event.deliveryState = o.deliveryState ∧
        rows.event.lastErrorCode = o.errorCode ∧ rows.event.nextAttemptAt = o.nextAttemptAt ∧
        rows.event.finalizedAt = o.finalizedAt

variable {claim : OutboxClaim} {sha256 : String → String} {d : OutboxDelivery} {w : Write}

theorem custodyInvariant_appended (facts : EventFacts) : CustodyInvariant ⟨appended facts, []⟩ where
  counters := rfl
  generations := rfl
  earlier := by simp
  claimed := by simp [appended]
  pending := fun _ => rfl
  settled := by simp [appended]

namespace CustodyInvariant

variable {rows : Custody}

theorem unique (h : CustodyInvariant rows) : (rows.attempts.map fun a => a.claimGeneration).Nodup := by
  rw [h.generations]
  exact List.nodup_range.map (fun a b hab => Nat.succ.inj hab)

variable {a attempt : OutboxDeliveryAttempt} {i : TxInput} {decisionId : Uuid}

theorem generation_range (h : CustodyInvariant rows) (ha : a ∈ rows.attempts) :
    1 ≤ a.claimGeneration ∧ a.claimGeneration ≤ rows.event.claimGeneration := by
  have hmem : a.claimGeneration ∈ rows.attempts.map (fun a => a.claimGeneration) :=
    List.mem_map_of_mem ha
  rw [h.generations, List.mem_map] at hmem
  obtain ⟨n, hn, heq⟩ := hmem
  rw [List.mem_range] at hn
  omega

theorem eq_of_generation (h : CustodyInvariant rows) {b : OutboxDeliveryAttempt}
    (ha : a ∈ rows.attempts) (hb : b ∈ rows.attempts) (hab : a.claimGeneration = b.claimGeneration) :
    a = b :=
  Table.eq_of_key_eq h.unique ha hb hab

theorem completed_of_open (h : CustodyInvariant rows) (hopen : rows.event.isOpen = true)
    (ha : a ∈ rows.attempts) : a.stage = .completed := by
  have hrange := h.generation_range ha
  rcases Nat.lt_or_eq_of_le hrange.2 with hlt | heq
  · exact h.earlier a ha hlt
  · simp only [OutboxEvent.isOpen, decide_eq_true_eq] at hopen
    rcases hopen with hpend | hretryable
    · have hzero := h.pending hpend
      omega
    · obtain ⟨b, hb, hgen, hstage, -⟩ := h.settled (by simp [hretryable]) (by simp [hretryable])
      rw [h.eq_of_generation ha hb (heq.trans hgen.symm)]
      exact hstage

theorem apply_claimWrite (h : CustodyInvariant rows) (hclaims : Claims rows claim i decisionId) :
    CustodyInvariant (rows.apply (claimWrite rows.event claim decisionId)) where
  counters := rfl
  generations := by
    have hnext := hclaims.generation
    simp only [Custody.apply, claimWrite, if_true, List.map_append, List.map_cons, List.map_nil,
      Option.getD_some, h.generations, ← hnext, List.range_succ]
  earlier := by
    intro a ha hlt
    simp only [Custody.apply, claimWrite, if_true, List.mem_append, List.mem_singleton] at ha
    rcases ha with ha | rfl
    · exact h.completed_of_open hclaims.isOpen ha
    · exact absurd hlt (Nat.lt_irrefl _)
  claimed := by
    intro _
    refine ⟨(claimWrite rows.event claim decisionId).attempt, ?_, rfl, .inl rfl, rfl, rfl, rfl, rfl⟩
    simp [Custody.apply, claimWrite]
  pending := by simp [Custody.apply, claimWrite]
  settled := by simp [Custody.apply, claimWrite]

theorem apply_invokeWrite (h : CustodyInvariant rows) {now : Nat}
    (hinvokes : Invokes sha256 d rows claim attempt i decisionId) :
    CustodyInvariant (rows.apply (invokeWrite attempt now decisionId)) := by
  obtain ⟨hmem, hgen⟩ := Custody.findAttempt_eq_some hinvokes.found
  obtain ⟨hstate, -, -, -, hcur, howner, hclaimedAt, hexp⟩ := matchesEvent_iff.mp hinvokes.shown
  have hshown : attempt.claimGeneration = rows.event.claimGeneration := by omega
  refine ⟨h.counters, ?_, ?_, ?_, ?_, ?_⟩
  · exact (Table.map_key_replace _ _).trans h.generations
  · intro a ha hlt
    rcases Table.mem_replace ha with rfl | ⟨hold, -⟩
    · exact absurd hlt (by simp [Custody.apply, invokeWrite, hshown])
    · exact h.earlier a hold hlt
  · intro _
    obtain ⟨b, hb, hbgeneration, -, hbowner, hbclaimed, hbexpires, hblast⟩ := h.claimed hstate
    have hsame := h.eq_of_generation hb hmem (hbgeneration.trans hshown.symm)
    subst hsame
    exact ⟨_, Table.mem_replace_self hmem rfl, hshown, .inr rfl, hbowner, hbclaimed, hbexpires, hblast⟩
  · intro hpend
    have hpend : rows.event.deliveryState = .pending := hpend
    rw [hstate] at hpend
    cases hpend
  · intro hne
    exact absurd hstate hne

theorem apply_finalizeWrite (h : CustodyInvariant rows) {receipt : DeliveryReceipt}
    {cause : FinalizationCause} {value : Outcome}
    (hfound : rows.findAttempt receipt.claim = some attempt)
    (hfin : Finalizes sha256 d receipt cause rows.event attempt value decisionId i) :
    CustodyInvariant (rows.apply (finalizeWrite rows.event attempt receipt value decisionId)) := by
  obtain ⟨hmem, hgen⟩ := Custody.findAttempt_eq_some hfound
  obtain ⟨hstate, -, -, -, hcur, -⟩ := matchesEvent_iff.mp hfin.shown
  have hshown : attempt.claimGeneration = rows.event.claimGeneration := by omega
  have hvalue := hfin.row.deliveryState_cases
  have hjson : receipt.outcomeJson = encode value := by rw [hfin.receipt_eq]; rfl
  refine ⟨h.counters, ?_, ?_, ?_, ?_, ?_⟩
  · exact (Table.map_key_replace _ _).trans h.generations
  · intro a ha hlt
    rcases Table.mem_replace ha with rfl | ⟨hold, -⟩
    · rfl
    · exact h.earlier a hold hlt
  · intro hclaimed
    have hclaimed : value.deliveryState = .claimed := hclaimed
    rw [hclaimed] at hvalue
    simp at hvalue
  · intro hpend
    have hpend : value.deliveryState = .pending := hpend
    rw [hpend] at hvalue
    simp at hvalue
  · intro _ _
    refine ⟨_, Table.mem_replace_self hmem rfl, hshown, rfl, value, ?_, rfl, rfl, rfl, rfl⟩
    simp [finalizeWrite, hjson]

end CustodyInvariant

/-- Attempts stay, with their lease; a marker and a completed attempt never change. -/
def Persists (rows rows' : Custody) : Prop :=
  ∀ a ∈ rows.attempts, ∃ a' ∈ rows'.attempts, a'.toClaimFields = a.toClaimFields ∧
    (a.invokedAt ≠ none → a'.invokedAt = a.invokedAt) ∧ (a.stage = .completed → a' = a)

namespace Persists

theorem refl (rows : Custody) : Persists rows rows :=
  fun a ha => ⟨a, ha, rfl, fun _ => rfl, fun _ => rfl⟩

theorem trans {rows rows' rows'' : Custody} (h : Persists rows rows') (h' : Persists rows' rows'') :
    Persists rows rows'' := by
  intro a ha
  obtain ⟨b, hb, hfields, hmark, hcomp⟩ := h a ha
  obtain ⟨c, hc, hfields', hmark', hcomp'⟩ := h' b hb
  refine ⟨c, hc, hfields'.trans hfields, ?_, ?_⟩
  · intro hinv
    have hsame := hmark hinv
    exact (hmark' (by rwa [hsame])).trans hsame
  · intro hstage
    have hsame := hcomp hstage
    exact (hcomp' (by rwa [hsame])).trans hsame

theorem apply_fresh (rows : Custody) (hfresh : w.fresh = true) : Persists rows (rows.apply w) := by
  intro a ha
  refine ⟨a, ?_, rfl, fun _ => rfl, fun _ => rfl⟩
  rw [Custody.apply, hfresh, if_pos rfl]
  exact List.mem_append_left _ ha

theorem apply_update {rows : Custody} {attempt : OutboxDeliveryAttempt}
    (huniq : (rows.attempts.map fun a => a.claimGeneration).Nodup) (hmem : attempt ∈ rows.attempts)
    (hfresh : w.fresh = false) (hfields : w.attempt.toClaimFields = attempt.toClaimFields)
    (hopen : attempt.stage ≠ .completed)
    (hmark : attempt.invokedAt ≠ none → w.attempt.invokedAt = attempt.invokedAt) :
    Persists rows (rows.apply w) := by
  have hatts : (rows.apply w).attempts =
      Table.replace (fun a => a.claimGeneration) rows.attempts w.attempt := by
    rw [Custody.apply, hfresh]
    rfl
  have hkey : attempt.claimGeneration = w.attempt.claimGeneration := by rw [hfields]
  intro a ha
  rw [hatts]
  by_cases hsame : a.claimGeneration = w.attempt.claimGeneration
  · obtain rfl := Table.eq_of_key_eq huniq ha hmem (hsame.trans hkey.symm)
    exact ⟨w.attempt, Table.mem_replace_self ha hsame, hfields, hmark, fun h => absurd h hopen⟩
  · exact ⟨a, Table.mem_replace_of_ne ha hsame, rfl, fun _ => rfl, fun _ => rfl⟩

end Persists

theorem StepTo.custodyInvariant {s s' : State} (hstep : StepTo sha256 d s s')
    (h : CustodyInvariant s.rows) : CustodyInvariant s'.rows := by
  cases hstep with
  | claimed htask hclaims => exact h.apply_claimWrite hclaims
  | invoked hinvokes => exact h.apply_invokeWrite hinvokes
  | finalized htask hfound hfin => exact h.apply_finalizeWrite hfound hfin
  | _ => exact h

/-- In every state of every run from an appended event, the event and its attempts agree. -/
theorem run_custodyInvariant (sha256 : String → String) (d : OutboxDelivery) (facts : EventFacts)
    (actions : List Action) : CustodyInvariant (run (step sha256 d) (start facts) actions).rows := by
  have hinit : CustodyInvariant (start facts).rows := custodyInvariant_appended facts
  exact run_of_stepTo hinit (fun s s' hstep h => hstep.custodyInvariant h) actions

end Workstream.Outbox
