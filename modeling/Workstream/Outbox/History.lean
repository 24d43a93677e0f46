import Workstream.Outbox.Custody

/-! # Stored outcomes and the calls behind them -/

namespace Workstream.Outbox
open Foundation

/-- Another attempt was asked for: by the handler, or by a direct call of `finalize`. -/
def AskedAgain (log : List Entry) (claim : OutboxClaim) : Prop :=
  (∃ worker h, .handlerEnded worker claim h ∈ log ∧ h.answeredRetry) ∨
    ∃ worker, .finalizeCalled worker claim .retry ∈ log

/-- Behind a cause of retry there is a request for it in the log. -/
def Backed (log : List Entry) (claim : OutboxClaim) (cause : FinalizationCause) : Prop :=
  cause = .retry → AskedAgain log claim

variable {log : List Entry} {claim : OutboxClaim} {cause : FinalizationCause}

theorem Backed.append (h : Backed log claim cause) (entries : List Entry) :
    Backed (log ++ entries) claim cause := by
  intro hretry
  rcases h hretry with ⟨worker, run, hmem, hanswered⟩ | ⟨worker, hmem⟩
  · exact .inl ⟨worker, run, List.mem_append_left _ hmem, hanswered⟩
  · exact .inr ⟨worker, List.mem_append_left _ hmem⟩

def Task.call : Task → Option (OutboxClaim × FinalizationCause)
  | .finalizing claim cause _ => some (claim, cause)
  | .proposing cause proposal _ => some (proposal.receipt.claim, cause)
  | .replaying cause _ stored _ => some (stored.claim, cause)
  | _ => none

variable (sha256 : String → String) (d : OutboxDelivery) (facts : EventFacts)

structure Recorded (log : List Entry) (a : OutboxDeliveryAttempt) (claim : OutboxClaim)
    (cause : FinalizationCause) (value : Outcome) : Prop where
  claim_eq : claim.toClaimFields = a.toClaimFields
  json : a.outcomeJson = some (encode value)
  digest : a.outcomeDigest = some (digestOf sha256 (encode value))
  row : OutcomeRow claim (d.optionsFor facts.eventType facts.eventVersion)
    (d.registry.canRetryUnknown facts.eventType facts.eventVersion) a.invokedAt cause
    value.receiptCompletedAt value
  backed : Backed log claim cause

/-- What the rows and the log of a state know of each other. -/
structure History (s : State) : Prop where
  custody : CustodyInvariant s.rows
  facts_eq : s.rows.event.toEventFacts = facts
  recorded : ∀ a ∈ s.rows.attempts, a.stage = .completed →
    ∃ claim cause value, Recorded sha256 d facts s.log a claim cause value
  retried : ∀ a ∈ s.rows.attempts, a.claimGeneration < s.rows.event.claimGeneration →
    ∀ value, a.outcomeJson = some (encode value) → value.deliveryState = .retryable
  unmarked : ∀ a ∈ s.rows.attempts, a.stage = .claimed → a.invokedAt = none
  backed : ∀ worker claim cause, (s.tasks worker).call = some (claim, cause) → Backed s.log claim cause

theorem history_start : History sha256 d facts (start facts) where
  custody := custodyInvariant_appended facts
  facts_eq := rfl
  recorded := by simp [start]
  retried := by simp [start]
  unmarked := by simp [start]
  backed := by simp [start, Task.call]

variable {sha256 d facts} {s s' : State}

theorem History.event_eq (h : History sha256 d facts s) :
    s.rows.event.eventType = facts.eventType ∧ s.rows.event.eventVersion = facts.eventVersion := by
  rw [← h.facts_eq]
  exact ⟨rfl, rfl⟩

theorem Recorded.append {a : OutboxDeliveryAttempt} {value : Outcome}
    (h : Recorded sha256 d facts log a claim cause value) (entries : List Entry) :
    Recorded sha256 d facts (log ++ entries) a claim cause value :=
  { h with backed := h.backed.append entries }

namespace History

variable {worker t : Nat} {i : TxInput} {decisionId : Uuid} {attempt : OutboxDeliveryAttempt}

theorem backed_setTask (h : History sha256 d facts s) {task : Task} (entries : List Entry)
    (htask : ∀ claim cause, task.call = some (claim, cause) → Backed (s.log ++ entries) claim cause) :
    ∀ w claim cause, ((s.setTask worker task).tasks w).call = some (claim, cause) →
      Backed (s.log ++ entries) claim cause := by
  intro w claim cause hcall
  rw [setTask_tasks] at hcall
  split at hcall
  · exact htask claim cause hcall
  · exact (h.backed w claim cause hcall).append entries

theorem quiet (h : History sha256 d facts s) (worker : Nat) (task : Task) (entries : List Entry)
    (htask : ∀ claim cause, task.call = some (claim, cause) → Backed (s.log ++ entries) claim cause) :
    History sha256 d facts ((s.setTask worker task).record entries) where
  custody := h.custody
  facts_eq := h.facts_eq
  recorded := by
    intro a ha hstage
    obtain ⟨claim, cause, value, hrec⟩ := h.recorded a ha hstage
    exact ⟨claim, cause, value, hrec.append entries⟩
  retried := h.retried
  unmarked := h.unmarked
  backed := h.backed_setTask entries htask

theorem backed_of_task (h : History sha256 d facts s) {proposal : Proposal} {receipt : DeliveryReceipt}
    {readAt : Nat}
    (htask : (s.tasks worker = .proposing cause proposal readAt ∧ receipt = proposal.receipt) ∨
      s.tasks worker = .replaying cause proposal receipt readAt) :
    Backed s.log receipt.claim cause := by
  rcases htask with ⟨htask, rfl⟩ | htask
  · exact h.backed worker _ _ (by rw [htask]; rfl)
  · exact h.backed worker _ _ (by rw [htask]; rfl)

theorem claimed (h : History sha256 d facts s) {claim : OutboxClaim}
    (hclaims : Claims s.rows claim i decisionId) :
    History sha256 d facts (((s.commit (claimWrite s.rows.event claim decisionId) t).setTask worker
      .idle).record [.claimed worker claim]) where
  custody := h.custody.apply_claimWrite hclaims
  facts_eq := h.facts_eq
  recorded := by
    intro a ha hstage
    rcases Table.mem_append ha with hold | rfl
    · obtain ⟨claim', cause, value, hrec⟩ := h.recorded a hold hstage
      exact ⟨claim', cause, value, hrec.append _⟩
    · cases hstage
  retried := by
    intro a ha hlt value hjson
    rcases Table.mem_append ha with hold | rfl
    · have hnext := hclaims.generation
      have hrange := h.custody.generation_range hold
      rcases Nat.lt_or_eq_of_le hrange.2 with hearlier | hcur
      · exact h.retried a hold hearlier value hjson
      · -- The event was open, so the receipt of its current attempt asked for another one.
        have hopen := hclaims.isOpen
        simp only [OutboxEvent.isOpen, decide_eq_true_eq] at hopen
        rcases hopen with hpend | hretryable
        · have hzero := h.custody.pending hpend
          omega
        · obtain ⟨b, hb, hgen, -, o, hdecode, hstate, -⟩ :=
            h.custody.settled (by simp [hretryable]) (by simp [hretryable])
          have hsame := h.custody.eq_of_generation hold hb (hcur.trans hgen.symm)
          rw [← hsame, hjson, Option.bind_some, decode_encode] at hdecode
          rw [Option.some.inj hdecode, ← hstate, hretryable]
    · exact absurd hlt (Nat.lt_irrefl _)
  unmarked := by
    intro a ha hstage
    rcases Table.mem_append ha with hold | rfl
    · exact h.unmarked a hold hstage
    · rfl
  backed := h.backed_setTask _ (by simp [Task.call])

theorem invoked (h : History sha256 d facts s) {claim : OutboxClaim} {now : Nat} {task : Task}
    (hinvokes : Invokes sha256 d s.rows claim attempt i decisionId) (htask : task.call = none) :
    History sha256 d facts (((s.commit (invokeWrite attempt now decisionId) t).setTask worker
      task).record [.invoked worker claim]) := by
  obtain ⟨hmem, hgen⟩ := Custody.findAttempt_eq_some hinvokes.found
  obtain ⟨-, -, -, -, hcur, -⟩ := matchesEvent_iff.mp hinvokes.shown
  refine ⟨h.custody.apply_invokeWrite hinvokes, h.facts_eq, ?_, ?_, ?_, ?_⟩
  · intro a ha hstage
    rcases Table.mem_replace ha with rfl | ⟨hold, -⟩
    · cases hstage
    · obtain ⟨claim', cause, value, hrec⟩ := h.recorded a hold hstage
      exact ⟨claim', cause, value, hrec.append _⟩
  · intro a ha hlt value hjson
    rcases Table.mem_replace ha with rfl | ⟨hold, -⟩
    · have hlt : attempt.claimGeneration < s.rows.event.claimGeneration := hlt
      omega
    · exact h.retried a hold hlt value hjson
  · intro a ha hstage
    rcases Table.mem_replace ha with rfl | ⟨hold, -⟩
    · cases hstage
    · exact h.unmarked a hold hstage
  · exact h.backed_setTask _ (by simp [htask])

theorem finalized (h : History sha256 d facts s) {receipt : DeliveryReceipt}
    {cause : FinalizationCause} {value : Outcome} {entries : List Entry}
    (hbacked : Backed s.log receipt.claim cause)
    (hfound : s.rows.findAttempt receipt.claim = some attempt)
    (hfin : Finalizes sha256 d receipt cause s.rows.event attempt value decisionId i) :
    History sha256 d facts (((s.commit (finalizeWrite s.rows.event attempt receipt value decisionId)
      t).setTask worker .idle).record entries) := by
  obtain ⟨hmem, hgen⟩ := Custody.findAttempt_eq_some hfound
  obtain ⟨-, -, -, -, hcur, -⟩ := matchesEvent_iff.mp hfin.shown
  have hrow := hfin.row
  have hrcpt := hfin.receipt_eq
  obtain ⟨htype, hver⟩ := h.event_eq
  rw [htype, hver] at hrow
  refine ⟨h.custody.apply_finalizeWrite hfound hfin, h.facts_eq, ?_, ?_, ?_, ?_⟩
  · intro a ha hstage
    rcases Table.mem_replace ha with rfl | ⟨hold, -⟩
    · refine ⟨receipt.claim, cause, value, ?_, ?_, ?_, hrow, hbacked.append _⟩
      · exact claimFromAttempt_eq_some.mp hfin.claim_eq
      · rw [finalizeWrite, hrcpt]; rfl
      · rw [finalizeWrite, hrcpt]; rfl
    · obtain ⟨claim', cause', value', hrec⟩ := h.recorded a hold hstage
      exact ⟨claim', cause', value', hrec.append _⟩
  · intro a ha hlt value' hjson
    rcases Table.mem_replace ha with rfl | ⟨hold, -⟩
    · have hlt : attempt.claimGeneration < s.rows.event.claimGeneration := hlt
      omega
    · exact h.retried a hold hlt value' hjson
  · intro a ha hstage
    rcases Table.mem_replace ha with rfl | ⟨hold, -⟩
    · cases hstage
    · exact h.unmarked a hold hstage
  · exact h.backed_setTask _ (by simp [Task.call])

end History

theorem StepTo.history (hstep : StepTo sha256 d s s') (h : History sha256 d facts s) :
    History sha256 d facts s' := by
  cases hstep with
  | stay => exact h
  | @quit worker entries => exact h.quiet worker .idle entries (by simp [Task.call])
  | @claimRead worker _ _ _ claim now =>
    have hquiet := h.quiet worker (.claiming claim now) [] (by simp [Task.call])
    rwa [record_nil] at hquiet
  | claimed htask hclaims => exact h.claimed hclaims
  | invoked hinvokes => exact h.invoked hinvokes rfl
  | @handlerEnded worker claim envelope readAt run =>
    refine h.quiet worker (.finalizing claim run.cause readAt) _ ?_
    intro claim' cause hcall hretry
    obtain ⟨rfl, rfl⟩ := Prod.mk.inj (Option.some.inj hcall)
    exact .inl ⟨worker, run, by simp, HandlerRun.answeredRetry_of_cause hretry⟩
  | @finalizeCalled worker claim cause =>
    refine h.quiet worker (.finalizing claim cause s.clock) _ ?_
    intro claim' cause' hcall hretry
    obtain ⟨rfl, rfl⟩ := Prod.mk.inj (Option.some.inj hcall)
    exact .inr ⟨worker, by simp [hretry]⟩
  | @recoverRead worker _ _ claim now =>
    have hquiet := h.quiet worker (.finalizing claim .expired now) [] (by
      intro claim' cause hcall hretry
      obtain ⟨rfl, rfl⟩ := Prod.mk.inj (Option.some.inj hcall)
      cases hretry)
    rwa [record_nil] at hquiet
  | @proposed worker claim cause readAt now proposal htask hnow hread =>
    obtain ⟨event, attempt, value, -, -, -, hprop, -⟩ := finalizeRead_eq_ok hread
    have hclaim : proposal.receipt.claim = claim := by rw [hprop]; rfl
    have hbacked := h.backed worker claim cause (by rw [htask]; rfl)
    have hquiet := h.quiet worker (.proposing cause proposal now) [] (by
      intro claim' cause' hcall
      obtain ⟨rfl, rfl⟩ := Prod.mk.inj (Option.some.inj hcall)
      rw [hclaim]
      exact hbacked.append [])
    rwa [record_nil] at hquiet
  | @lostRace worker cause proposal readAt now stored attempt htask hfound hclaim hstage hstored =>
    have hbacked := h.backed worker proposal.receipt.claim cause (by rw [htask]; rfl)
    have hquiet := h.quiet worker (.replaying cause proposal stored now) [] (by
      intro claim' cause' hcall
      obtain ⟨rfl, rfl⟩ := Prod.mk.inj (Option.some.inj hcall)
      rw [(storedReceipt_eq_some hstored).1]
      exact hbacked.append [])
    rwa [record_nil] at hquiet
  | @replayed worker =>
    exact h.quiet worker .idle _ (by simp [Task.call])
  | finalized htask hfound hfin =>
    exact h.finalized (h.backed_of_task htask) hfound hfin
  | @effect envelope observation =>
    have hquiet := h.quiet 0 (s.tasks 0) [.effect envelope observation] (by
      intro claim cause hcall
      exact (h.backed 0 claim cause hcall).append _)
    rwa [setTask_self] at hquiet

theorem StepTo.persists (hstep : StepTo sha256 d s s') (h : History sha256 d facts s) :
    Persists s.rows s'.rows := by
  cases hstep with
  | claimed => exact Persists.apply_fresh _ rfl
  | @invoked worker claim choice decisionId attempt hinvokes =>
    have hmem := (Custody.findAttempt_eq_some hinvokes.found).1
    have hunmarked := h.unmarked attempt hmem hinvokes.stage_eq
    exact Persists.apply_update h.custody.unique hmem rfl rfl (by simp [hinvokes.stage_eq])
      (fun hmark => absurd hunmarked hmark)
  | finalized htask hfound hfin =>
    have hmem := (Custody.findAttempt_eq_some hfound).1
    exact Persists.apply_update h.custody.unique hmem rfl rfl hfin.unfinished (fun _ => rfl)
  | _ => exact Persists.refl _

/-- The rows and the calls of every run are accounted for. -/
theorem run_history (sha256 : String → String) (d : OutboxDelivery) (facts : EventFacts)
    (actions : List Action) : History sha256 d facts (run (step sha256 d) (start facts) actions) :=
  run_of_stepTo (history_start sha256 d facts) (fun _ _ hstep h => hstep.history h) actions

end Workstream.Outbox
