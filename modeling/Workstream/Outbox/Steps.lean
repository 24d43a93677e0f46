import Workstream.Outbox.System

/-!
# What a step can do

One lemma per transaction says what it must have found when it writes, and `step_stepTo` lists every
effect an action can have. All invariants are proved from this list.
-/

namespace Workstream.Outbox
open Foundation

variable {rows : Custody} {event : OutboxEvent} {claim : OutboxClaim} {w : Write}
  {stored : DeliveryReceipt} {proposal : Proposal}

theorem Custody.findEvent_eq_some {eventId projectId : Uuid}
    (h : rows.findEvent eventId projectId = some event) :
    event = rows.event ∧ rows.event.eventId = eventId ∧ rows.event.projectId = projectId := by
  unfold Custody.findEvent at h
  split at h
  case isTrue hkey => exact ⟨(Option.some.inj h).symm, hkey⟩
  case isFalse => cases h

theorem Custody.findAttempt_eq_some {attempt : OutboxDeliveryAttempt}
    (h : rows.findAttempt claim = some attempt) :
    attempt ∈ rows.attempts ∧ attempt.claimGeneration = claim.claimGeneration := by
  have hkey := List.find?_some h
  simp only [Custody.isAttemptOf, decide_eq_true_eq] at hkey
  exact ⟨List.mem_of_find?_eq_some h, hkey.2.1⟩

theorem matchesEvent_iff :
    matchesEvent event claim = true ↔
      event.deliveryState = .claimed ∧ event.eventId = claim.eventId ∧
      event.projectId = claim.projectId ∧ event.payloadDigest = claim.payloadDigest ∧
      event.claimGeneration = claim.claimGeneration ∧ event.claimOwner = some claim.claimOwner ∧
      event.claimedAt = some claim.claimedAt ∧ event.claimExpiresAt = some claim.claimExpiresAt := by
  simp [matchesEvent]

theorem claimFromAttempt_eq_some {attempt : OutboxDeliveryAttempt} :
    claimFromAttempt attempt = some claim ↔ claim.toClaimFields = attempt.toClaimFields :=
  OutboxClaim.validate_eq_some

/-- A claim is written only over an open, due event of the generation before it. -/
theorem claimTx_eq_some {found : Option OutboxEvent} {i : TxInput}
    (h : claimTx claim found i = .ok (some w)) :
    ∃ event decisionId, found = some event ∧ i.authority = .allowed decisionId ∧
      event.isOpen = true ∧ event.claimGeneration + 1 = claim.claimGeneration ∧
      event.payloadDigest = claim.payloadDigest ∧ event.due i.lockedNow = true ∧
      i.lockedNow < claim.claimExpiresAt ∧ i.consumedNow < claim.claimExpiresAt ∧
      w = claimWrite event claim decisionId := by
  unfold claimTx at h
  split at h
  · cases h
  · split at h
    · cases h
    · rename_i event
      split at h
      · rename_i hguard
        simp only [Bool.and_eq_true, decide_eq_true_eq] at hguard
        obtain ⟨⟨⟨⟨hopen, hgen⟩, hdig⟩, hdue⟩, hlease⟩ := hguard
        split at h
        · rename_i decisionId hauth
          split at h
          · cases h
          · rename_i hcons
            injection h with h
            exact ⟨event, decisionId, rfl, hauth, hopen, hgen, hdig, hdue, hlease,
              Nat.lt_of_not_le hcons, (Option.some.inj h).symm⟩
        · cases h
      · cases h

/-- A marker is written only on the claimed attempt that the event shows. -/
theorem beginInvocation_eq_some {sha256 : String → String} {d : OutboxDelivery}
    {found : Option OutboxEvent} {attempt? : Option OutboxDeliveryAttempt} {i : TxInput}
    {envelope : OutboxEventEnvelope}
    (h : beginInvocation sha256 d claim found attempt? i = .ok (some (envelope, w))) :
    ∃ event attempt decisionId, found = some event ∧ attempt? = some attempt ∧
      i.authority = .allowed decisionId ∧ matchesEvent event claim = true ∧
      claimFromAttempt attempt = some claim ∧ attempt.stage = .claimed ∧
      d.registry.get event.eventType event.eventVersion = true ∧
      canonicalJsonHash sha256 event.payload = claim.payloadDigest ∧
      i.consumedNow < claim.claimExpiresAt ∧ envelope = envelopeOf event claim ∧
      w = invokeWrite attempt i.consumedNow decisionId := by
  unfold beginInvocation at h
  split at h
  · cases h
  · split at h
    · rename_i event attempt
      split at h
      · rename_i hguard
        simp only [Bool.and_eq_true, decide_eq_true_eq] at hguard
        obtain ⟨⟨⟨⟨hmatch, hclaim⟩, hstage⟩, hlease⟩, hreg⟩ := hguard
        split at h
        · rename_i hpayload
          split at h
          · rename_i decisionId hauth
            split at h
            · cases h
            · rename_i hcons
              injection h with h
              have h := Option.some.inj h
              injection h with henv hwrite
              exact ⟨event, attempt, decisionId, rfl, rfl, hauth, hmatch, hclaim, hstage,
                hreg, hpayload, Nat.lt_of_not_le hcons, henv.symm, hwrite.symm⟩
          · cases h
        · cases h
      · cases h
    · cases h

/-- What a finalization found when it writes the receipt of an outcome: the open attempt the event
shows, the row of the outcome table, and a lease that has not run out since the outcome's time. -/
structure Finalizes (sha256 : String → String) (d : OutboxDelivery) (receipt : DeliveryReceipt)
    (cause : FinalizationCause) (event : OutboxEvent) (attempt : OutboxDeliveryAttempt)
    (value : Outcome) (decisionId : Uuid) (i : TxInput) : Prop where
  allowed : i.authority = .allowed decisionId
  claim_eq : claimFromAttempt attempt = some receipt.claim
  unfinished : attempt.stage ≠ .completed
  shown : matchesEvent event receipt.claim = true
  receipt_eq : receipt = receiptOf sha256 receipt.claim value
  row : OutcomeRow receipt.claim (d.optionsFor event.eventType event.eventVersion)
    (d.registry.canRetryUnknown event.eventType event.eventVersion) attempt.invokedAt cause
    value.receiptCompletedAt value
  past : value.receiptCompletedAt ≤ i.lockedNow
  current : value.receiptCompletedAt < receipt.claim.claimExpiresAt →
    i.lockedNow < receipt.claim.claimExpiresAt ∧ i.consumedNow < receipt.claim.claimExpiresAt

theorem finalizeOpen_eq_finalized {sha256 : String → String} {d : OutboxDelivery}
    {receipt r : DeliveryReceipt} {cause : FinalizationCause} {attempt : OutboxDeliveryAttempt}
    {i : TxInput} (hclaim : claimFromAttempt attempt = some receipt.claim)
    (hstage : attempt.stage ≠ .completed)
    (h : finalizeOpen sha256 d receipt cause event attempt i = .finalized r w) :
    r = receipt ∧ ∃ value decisionId,
      Finalizes sha256 d receipt cause event attempt value decisionId i ∧
      w = finalizeWrite event attempt receipt value decisionId := by
  unfold finalizeOpen at h
  dsimp only at h
  split at h
  case isFalse => cases h
  rename_i hshown
  split at h
  · cases h
  rename_i value hvalue
  split at h
  · cases h
  rename_i expected hexpected
  split at h
  · cases h
  rename_i hchecks
  simp only [not_or, Nat.not_lt, Decidable.not_not] at hchecks
  obtain ⟨hpast, htext, hdig, hcur⟩ := hchecks
  have hsame : expected = value := by
    rw [← htext, decode_encode] at hvalue
    exact Option.some.inj hvalue
  split at h
  · rename_i decisionId hallow
    split at h
    · cases h
    rename_i hcons
    injection h with hrcpt hwrite
    refine ⟨hrcpt.symm, value, decisionId, ?_, hwrite.symm⟩
    refine ⟨hallow, hclaim, hstage, hshown.2, ?_, ?_, hpast, ?_⟩
    · rw [receiptOf, ← hsame, hdig, htext]
    · rw [hsame] at hexpected
      exact outcome_eq_ok_iff.mp hexpected
    · intro hearly
      exact ⟨Nat.lt_of_not_le fun hle => hcur ⟨hearly, hle⟩,
        Nat.lt_of_not_le fun hle => hcons ⟨hearly, hle⟩⟩
  · cases h

theorem storedReceipt_eq_some {attempt : OutboxDeliveryAttempt}
    (h : storedReceipt claim attempt = some stored) :
    stored.claim = claim ∧ attempt.outcomeJson = some stored.outcomeJson ∧
      attempt.outcomeDigest = some stored.outcomeDigest := by
  unfold storedReceipt at h
  cases hjson : attempt.outcomeJson with
  | none => simp [hjson] at h
  | some json =>
    cases hdig : attempt.outcomeDigest with
    | none => simp [hjson, hdig] at h
    | some digest =>
      simp [hjson, hdig] at h
      subst h
      exact ⟨rfl, rfl, rfl⟩

theorem finalizeReplay_cases (receipt : DeliveryReceipt) (attempt : OutboxDeliveryAttempt)
    (i : TxInput) :
    (∃ e, finalizeReplay receipt attempt i = .raised e) ∨
      ∃ stored, storedReceipt receipt.claim attempt = some stored ∧
        (finalizeReplay receipt attempt i = .completedDuringFinalization stored ∨
          (stored = receipt ∧ finalizeReplay receipt attempt i = .replayed stored)) := by
  unfold finalizeReplay
  cases hstored : storedReceipt receipt.claim attempt with
  | none => exact .inl ⟨_, rfl⟩
  | some stored =>
    by_cases hsame : stored = receipt
    · cases hauth : i.authority with
      | allowed => exact .inr ⟨stored, rfl, .inr ⟨hsame, by simp [hsame]⟩⟩
      | refused | denied => exact .inl ⟨unavailable, by simp [hsame]⟩
    · exact .inr ⟨stored, rfl, .inl (by simp [hsame])⟩

theorem finalizeOpen_cases {sha256 : String → String} {d : OutboxDelivery} {receipt : DeliveryReceipt}
    {cause : FinalizationCause} {event : OutboxEvent} {attempt : OutboxDeliveryAttempt} {i : TxInput} :
    (∃ e, finalizeOpen sha256 d receipt cause event attempt i = .raised e) ∨
      ∃ r w, finalizeOpen sha256 d receipt cause event attempt i = .finalized r w := by
  unfold finalizeOpen
  dsimp only
  split
  case isFalse => exact .inl ⟨_, rfl⟩
  split
  · exact .inl ⟨_, rfl⟩
  split
  · exact .inl ⟨_, rfl⟩
  split
  · exact .inl ⟨_, rfl⟩
  split
  · split
    · exact .inl ⟨_, rfl⟩
    · exact .inr ⟨_, _, rfl⟩
  · exact .inl ⟨_, rfl⟩

section FinalizeTx

variable {sha256 : String → String} {d : OutboxDelivery} {receipt r : DeliveryReceipt}
  {cause : FinalizationCause} {found : Option OutboxEvent} {attempt? : Option OutboxDeliveryAttempt}
  {i : TxInput}

theorem finalizeTx_cases :
    (∃ e, finalizeTx sha256 d receipt cause found attempt? i = .raised e) ∨
      ∃ event attempt, found = some event ∧ attempt? = some attempt ∧
        claimFromAttempt attempt = some receipt.claim ∧
        ((attempt.stage = .completed ∧
            finalizeTx sha256 d receipt cause found attempt? i = finalizeReplay receipt attempt i) ∨
          (attempt.stage ≠ .completed ∧
            finalizeTx sha256 d receipt cause found attempt? i =
              finalizeOpen sha256 d receipt cause event attempt i)) := by
  unfold finalizeTx
  split
  · exact .inl ⟨_, rfl⟩
  · split
    · rename_i event attempt
      by_cases hclaim : claimFromAttempt attempt = some receipt.claim
      · rw [if_pos hclaim]
        refine .inr ⟨event, attempt, rfl, rfl, hclaim, ?_⟩
        by_cases hstage : attempt.stage = .completed
        · exact .inl ⟨hstage, if_pos hstage⟩
        · exact .inr ⟨hstage, if_neg hstage⟩
      · exact .inl ⟨_, if_neg hclaim⟩
    · exact .inl ⟨_, rfl⟩

theorem finalizeTx_eq_finalized (h : finalizeTx sha256 d receipt cause found attempt? i = .finalized r w) :
    r = receipt ∧ ∃ event attempt value decisionId, found = some event ∧ attempt? = some attempt ∧
      Finalizes sha256 d receipt cause event attempt value decisionId i ∧
      w = finalizeWrite event attempt receipt value decisionId := by
  obtain ⟨e, he⟩ | ⟨event, attempt, hfound, hatt, hclaim, ⟨-, heq⟩ | ⟨hstage, heq⟩⟩ :=
    @finalizeTx_cases sha256 d receipt cause found attempt? i
  · rw [he] at h
    cases h
  · rw [heq] at h
    obtain ⟨e, he⟩ | ⟨stored, -, he | ⟨-, he⟩⟩ := finalizeReplay_cases receipt attempt i <;>
      rw [he] at h <;> cases h
  · rw [heq] at h
    obtain ⟨hr, value, decisionId, hfin, hw⟩ := finalizeOpen_eq_finalized hclaim hstage h
    exact ⟨hr, event, attempt, value, decisionId, hfound, hatt, hfin, hw⟩

/-- A transaction that neither raises nor writes found a stored receipt in a completed attempt. It throws
the receipt, or returns it if it is exactly the one that was proposed. -/
theorem finalizeTx_stored {result : FinalizeResult}
    (h : finalizeTx sha256 d receipt cause found attempt? i = result) (hraised : ∀ e, result ≠ .raised e)
    (hwrites : ∀ r w, result ≠ .finalized r w) :
    ∃ attempt stored, attempt? = some attempt ∧ claimFromAttempt attempt = some receipt.claim ∧
      attempt.stage = .completed ∧ storedReceipt receipt.claim attempt = some stored ∧
      (result = .completedDuringFinalization stored ∨ stored = receipt ∧ result = .replayed stored) := by
  subst h
  obtain ⟨e, he⟩ | ⟨event, attempt, -, hatt, hclaim, ⟨hstage, heq⟩ | ⟨-, heq⟩⟩ :=
    @finalizeTx_cases sha256 d receipt cause found attempt? i
  · exact absurd he (hraised e)
  · obtain ⟨e, he⟩ | ⟨stored, hstored, he⟩ := finalizeReplay_cases receipt attempt i
    · exact absurd (heq.trans he) (hraised e)
    · rw [← heq] at he
      exact ⟨attempt, stored, hatt, hclaim, hstage, hstored, he⟩
  · obtain ⟨e, he⟩ | ⟨r, w, he⟩ := @finalizeOpen_cases sha256 d receipt cause event attempt i
    · exact absurd (heq.trans he) (hraised e)
    · exact absurd (heq.trans he) (hwrites r w)

theorem finalizeTx_eq_completed
    (h : finalizeTx sha256 d receipt cause found attempt? i = .completedDuringFinalization stored) :
    ∃ attempt, attempt? = some attempt ∧ claimFromAttempt attempt = some receipt.claim ∧
      attempt.stage = .completed ∧ storedReceipt receipt.claim attempt = some stored := by
  obtain ⟨attempt, stored', hatt, hclaim, hstage, hstored, he | ⟨-, he⟩⟩ :=
    finalizeTx_stored h (by simp) (by simp)
  · cases he
    exact ⟨attempt, hatt, hclaim, hstage, hstored⟩
  · cases he

theorem finalizeTx_eq_replayed
    (h : finalizeTx sha256 d receipt cause found attempt? i = .replayed stored) :
    stored = receipt ∧ ∃ attempt, attempt? = some attempt ∧
      claimFromAttempt attempt = some receipt.claim ∧
      attempt.stage = .completed ∧ storedReceipt receipt.claim attempt = some stored := by
  obtain ⟨attempt, stored', hatt, hclaim, hstage, hstored, he | ⟨hsame, he⟩⟩ :=
    finalizeTx_stored h (by simp) (by simp)
  · cases he
  · cases he
    exact ⟨hsame, attempt, hatt, hclaim, hstage, hstored⟩

end FinalizeTx

/-- A proposal is the receipt of a row of the outcome table: at the time of the reading, or at the
stored time if the attempt is completed. -/
theorem finalizeRead_eq_ok {sha256 : String → String} {d : OutboxDelivery} {cause : FinalizationCause}
    {found : Option OutboxEvent} {attempt? : Option OutboxDeliveryAttempt} {now : Nat}
    (h : finalizeRead sha256 d claim cause found attempt? now = .ok proposal) :
    ∃ event attempt value, found = some event ∧ attempt? = some attempt ∧
      claimFromAttempt attempt = some claim ∧
      proposal = ⟨receiptOf sha256 claim value, attempt.invokedAt,
        d.optionsFor event.eventType event.eventVersion,
        d.registry.canRetryUnknown event.eventType event.eventVersion⟩ ∧
      OutcomeRow claim (d.optionsFor event.eventType event.eventVersion)
        (d.registry.canRetryUnknown event.eventType event.eventVersion) attempt.invokedAt cause
        value.receiptCompletedAt value ∧
      (attempt.stage ≠ .completed → value.receiptCompletedAt = now) := by
  unfold finalizeRead at h
  split at h
  · rename_i event attempt
    split at h
    · rename_i hclaim
      dsimp only at h
      split at h
      · cases h
      · rename_i time htime
        cases hvalue : outcome claim attempt.invokedAt cause time
            (d.optionsFor event.eventType event.eventVersion)
            (d.registry.canRetryUnknown event.eventType event.eventVersion) with
        | error e => rw [hvalue] at h; cases h
        | ok value =>
          rw [hvalue] at h
          injection h with h
          have hrow := outcome_eq_ok_iff.mp hvalue
          have hcomp := hrow.receiptCompletedAt_eq
          refine ⟨event, attempt, value, rfl, rfl, hclaim, h.symm, hcomp ▸ hrow, ?_⟩
          intro hstage
          rw [if_neg hstage] at htime
          exact hcomp.trans (Option.some.inj htime).symm
    · cases h
  · cases h

structure Claims (rows : Custody) (claim : OutboxClaim) (i : TxInput) (decisionId : Uuid) : Prop where
  eventId_eq : rows.event.eventId = claim.eventId
  projectId_eq : rows.event.projectId = claim.projectId
  allowed : i.authority = .allowed decisionId
  isOpen : rows.event.isOpen = true
  generation : rows.event.claimGeneration + 1 = claim.claimGeneration
  digest : rows.event.payloadDigest = claim.payloadDigest
  due : rows.event.due i.lockedNow = true
  unexpired : i.lockedNow < claim.claimExpiresAt ∧ i.consumedNow < claim.claimExpiresAt

structure Invokes (sha256 : String → String) (d : OutboxDelivery) (rows : Custody) (claim : OutboxClaim)
    (attempt : OutboxDeliveryAttempt) (i : TxInput) (decisionId : Uuid) : Prop where
  found : rows.findAttempt claim = some attempt
  allowed : i.authority = .allowed decisionId
  shown : matchesEvent rows.event claim = true
  claim_eq : claimFromAttempt attempt = some claim
  stage_eq : attempt.stage = .claimed
  registered : d.registry.get rows.event.eventType rows.event.eventVersion = true
  payload : canonicalJsonHash sha256 rows.event.payload = claim.payloadDigest
  unexpired : i.consumedNow < claim.claimExpiresAt

def Entry.isFailure : Entry → Bool
  | .raised .. => true
  | .crashed .. => true
  | _ => false

inductive StepTo (sha256 : String → String) (d : OutboxDelivery) (s : State) : State → Prop
  | stay : StepTo sha256 d s s
  | quit {worker : Nat} {entries : List Entry} (hfailure : ∀ e ∈ entries, e.isFailure = true) :
      StepTo sha256 d s ((s.setTask worker .idle).record entries)
  | claimRead {worker : Nat} {eventId projectId : Uuid} {owner : String} {claim : OutboxClaim}
      {now : Nat} (hnow : s.clock ≤ now)
      (hread : claimRead d (s.rows.findEvent eventId projectId) projectId owner now =
        .ok (some claim)) :
      StepTo sha256 d s (s.setTask worker (.claiming claim now))
  | claimed {worker : Nat} {claim : OutboxClaim} {readAt : Nat} {choice : TxChoice}
      {decisionId : Uuid} (htask : s.tasks worker = .claiming claim readAt)
      (hclaims : Claims s.rows claim (s.input readAt choice) decisionId)
      (haccepts : accepts sha256 s.rows (claimWrite s.rows.event claim decisionId)
        (s.committedAt readAt choice) = true) :
      StepTo sha256 d s (((s.commit (claimWrite s.rows.event claim decisionId)
        (s.committedAt readAt choice)).setTask worker .idle).record [.claimed worker claim])
  | invoked {worker : Nat} {claim : OutboxClaim} {choice : TxChoice} {decisionId : Uuid}
      {attempt : OutboxDeliveryAttempt}
      (hinvokes : Invokes sha256 d s.rows claim attempt (s.input s.clock choice) decisionId)
      (haccepts : accepts sha256 s.rows
        (invokeWrite attempt (s.input s.clock choice).consumedNow decisionId)
        (s.committedAt s.clock choice) = true) :
      StepTo sha256 d s (((s.commit
        (invokeWrite attempt (s.input s.clock choice).consumedNow decisionId)
        (s.committedAt s.clock choice)).setTask worker (.running claim (envelopeOf s.rows.event claim)
          (s.input s.clock choice).consumedNow)).record [.invoked worker claim])
  | handlerEnded {worker : Nat} {claim : OutboxClaim} {envelope : OutboxEventEnvelope}
      {readAt : Nat} {h : HandlerRun} (htask : s.tasks worker = .running claim envelope readAt) :
      StepTo sha256 d s ((s.setTask worker (.finalizing claim h.cause readAt)).record
        [.handlerEnded worker claim h])
  | finalizeCalled {worker : Nat} {claim : OutboxClaim} {cause : FinalizationCause} :
      StepTo sha256 d s ((s.setTask worker (.finalizing claim cause s.clock)).record
        [.finalizeCalled worker claim cause])
  | recoverRead {worker : Nat} {eventId projectId : Uuid} {claim : OutboxClaim} {now : Nat}
      (hnow : s.clock ≤ now)
      (hread : recoverRead (s.rows.findEvent eventId projectId) now = .ok (some claim)) :
      StepTo sha256 d s (s.setTask worker (.finalizing claim .expired now))
  | proposed {worker : Nat} {claim : OutboxClaim} {cause : FinalizationCause} {readAt now : Nat}
      {proposal : Proposal} (htask : s.tasks worker = .finalizing claim cause readAt)
      (hnow : s.clock ≤ now)
      (hread : finalizeRead sha256 d claim cause (s.rows.findEvent claim.eventId claim.projectId)
        (s.rows.findAttempt claim) now = .ok proposal) :
      StepTo sha256 d s (s.setTask worker (.proposing cause proposal now))
  | lostRace {worker : Nat} {cause : FinalizationCause} {proposal : Proposal} {readAt now : Nat}
      {stored : DeliveryReceipt} {attempt : OutboxDeliveryAttempt}
      (htask : s.tasks worker = .proposing cause proposal readAt)
      (hfound : s.rows.findAttempt proposal.receipt.claim = some attempt)
      (hclaim : claimFromAttempt attempt = some proposal.receipt.claim)
      (hstage : attempt.stage = .completed)
      (hstored : storedReceipt proposal.receipt.claim attempt = some stored)
      (hafter : afterCompleted proposal cause stored = .ok stored) :
      StepTo sha256 d s (s.setTask worker (.replaying cause proposal stored now))
  | replayed {worker : Nat} {cause : FinalizationCause} {proposal : Proposal} {readAt : Nat}
      {receipt : DeliveryReceipt} {attempt : OutboxDeliveryAttempt}
      (htask : (s.tasks worker = .proposing cause proposal readAt ∧ receipt = proposal.receipt) ∨
        s.tasks worker = .replaying cause proposal receipt readAt)
      (hfound : s.rows.findAttempt receipt.claim = some attempt)
      (hclaim : claimFromAttempt attempt = some receipt.claim)
      (hstage : attempt.stage = .completed)
      (hstored : storedReceipt receipt.claim attempt = some receipt) :
      StepTo sha256 d s ((s.setTask worker .idle).record
        [.returned worker receipt.claim cause receipt])
  | finalized {worker : Nat} {cause : FinalizationCause} {proposal : Proposal} {readAt : Nat}
      {receipt : DeliveryReceipt} {attempt : OutboxDeliveryAttempt} {value : Outcome}
      {decisionId : Uuid} {choice : TxChoice}
      (htask : (s.tasks worker = .proposing cause proposal readAt ∧ receipt = proposal.receipt) ∨
        s.tasks worker = .replaying cause proposal receipt readAt)
      (hfound : s.rows.findAttempt receipt.claim = some attempt)
      (hfinalizes : Finalizes sha256 d receipt cause s.rows.event attempt value decisionId
        (s.input readAt choice))
      (haccepts : accepts sha256 s.rows (finalizeWrite s.rows.event attempt receipt value decisionId)
        (s.committedAt readAt choice) = true) :
      StepTo sha256 d s (((s.commit (finalizeWrite s.rows.event attempt receipt value decisionId)
        (s.committedAt readAt choice)).setTask worker .idle).record
        [.finalized worker receipt cause, .returned worker receipt.claim cause receipt])
  | effect {envelope : OutboxEventEnvelope} {observation : CommittedInvocationObservation} {now : Nat}
      (hnow : s.clock ≤ now) (hobserve : observe sha256 s.rows envelope now = some observation) :
      StepTo sha256 d s (s.record [.effect envelope observation])

/-- A lost race goes on only with the stored receipt, and only if the cause leads to it from the facts
of the unlocked read. -/
theorem afterCompleted_eq_ok {cause : FinalizationCause} {r : DeliveryReceipt}
    (h : afterCompleted proposal cause stored = .ok r) :
    r = stored ∧ ∃ value, stored.outcomeJson = encode value ∧
      OutcomeRow proposal.receipt.claim proposal.options proposal.retryUnknown proposal.invokedAt cause
        value.receiptCompletedAt value := by
  unfold afterCompleted at h
  split at h
  · cases h
  rename_i value hvalue
  cases hexpected : outcome proposal.receipt.claim proposal.invokedAt cause value.receiptCompletedAt
      proposal.options proposal.retryUnknown with
  | error e => rw [hexpected] at h; cases h
  | ok expected =>
    rw [hexpected] at h
    simp only [bind, Except.bind] at h
    split at h
    · rename_i htext
      injection h with h
      have hsame : expected = value := by
        rw [← htext, decode_encode] at hvalue
        exact Option.some.inj hvalue
      subst hsame
      exact ⟨h.symm, expected, htext.symm, outcome_eq_ok_iff.mp hexpected⟩
    · cases h

section

variable {sha256 : String → String} {d : OutboxDelivery} {s : State}

theorem State.admits_iff {committedAt : Nat} {survives : Bool} :
    s.admits sha256 w committedAt survives = true ↔
      survives = true ∧ accepts sha256 s.rows w committedAt = true := by
  simp [State.admits]

@[simp] theorem record_nil (s : State) : s.record [] = s := by simp [State.record]

theorem StepTo.idle (worker : Nat) : StepTo sha256 d s (s.setTask worker .idle) := by
  have h := @StepTo.quit sha256 d s worker [] (by simp)
  rwa [record_nil] at h

theorem stepFinalize_stepTo {worker : Nat} {cause : FinalizationCause} {receipt : DeliveryReceipt}
    {first : Bool} {readAt : Nat} {choice : TxChoice}
    (htask : (s.tasks worker = .proposing cause proposal readAt ∧ receipt = proposal.receipt ∧
        first = true) ∨
      (s.tasks worker = .replaying cause proposal receipt readAt ∧ first = false)) :
    StepTo sha256 d s (s.stepFinalize sha256 d worker cause proposal receipt first readAt choice) := by
  have htask' : (s.tasks worker = .proposing cause proposal readAt ∧ receipt = proposal.receipt) ∨
      s.tasks worker = .replaying cause proposal receipt readAt := by
    rcases htask with ⟨h, h', -⟩ | ⟨h, -⟩
    · exact .inl ⟨h, h'⟩
    · exact .inr h
  have hfail : ∀ e, StepTo sha256 d s
      ((s.setTask worker .idle).record [.raised worker receipt.claim cause e]) :=
    fun e => .quit (by simp [Entry.isFailure])
  unfold State.stepFinalize State.endFinalize
  split
  · exact hfail _
  · rename_i stored hthrown
    split
    · rename_i hfirst
      split
      · rename_i r hafter
        obtain ⟨rfl, -⟩ := afterCompleted_eq_ok hafter
        obtain ⟨attempt, hfound, hclaim, hstage, hstored⟩ := finalizeTx_eq_completed hthrown
        rcases htask with ⟨htask, rfl, -⟩ | ⟨-, hsecond⟩
        · exact .lostRace htask hfound hclaim hstage hstored hafter
        · rw [hsecond] at hfirst
          cases hfirst
      · exact hfail _
    · exact hfail _
  · rename_i stored hreplayed
    obtain ⟨rfl, attempt, hfound, hclaim, hstage, hstored⟩ := finalizeTx_eq_replayed hreplayed
    exact .replayed htask' hfound hclaim hstage hstored
  · rename_i r w hfinalized
    split
    · rename_i hadm
      obtain ⟨rfl, event, attempt, value, decisionId, hevent, hfound, hfin, rfl⟩ :=
        finalizeTx_eq_finalized hfinalized
      obtain ⟨rfl, -⟩ := Custody.findEvent_eq_some hevent
      exact .finalized htask' hfound hfin (State.admits_iff.mp hadm).2
    · exact hfail _

/-- An action has one of the effects of the list. -/
theorem step_stepTo (s : State) (a : Action) : StepTo sha256 d s (step sha256 d s a) := by
  cases a with
  | claim worker eventId projectId owner delay =>
    simp only [step]
    split
    · split
      · rename_i claim hread
        exact .claimRead (Nat.le_add_right _ _) hread
      · exact .stay
    · exact .stay
  | claimTx worker choice =>
    simp only [step]
    split
    · rename_i claim readAt htask
      unfold State.endClaim
      split
      · rename_i w htx
        split
        · rename_i hadm
          obtain ⟨event, decisionId, hfound, hallow, hopen, hgen, hdig, hdue, hlocked,
            hcons, rfl⟩ := claimTx_eq_some htx
          obtain ⟨rfl, hevent, hproj⟩ := Custody.findEvent_eq_some hfound
          exact .claimed htask ⟨hevent, hproj, hallow, hopen, hgen, hdig, hdue,
            hlocked, hcons⟩ (State.admits_iff.mp hadm).2
        · exact .idle worker
      · exact .idle worker
    · exact .stay
  | invoke worker claim choice =>
    simp only [step]
    split
    · unfold State.endInvoke
      split
      · rename_i envelope w htx
        split
        · rename_i hadm
          obtain ⟨event, attempt, decisionId, hevent, hfound, hallow, hshown, hclaim, hstage,
            hreg, hpayload, hcons, rfl, rfl⟩ := beginInvocation_eq_some htx
          obtain ⟨rfl, -⟩ := Custody.findEvent_eq_some hevent
          exact .invoked ⟨hfound, hallow, hshown, hclaim, hstage, hreg, hpayload, hcons⟩
            (State.admits_iff.mp hadm).2
        · exact .stay
      · exact .stay
    · exact .stay
  | handlerEnds worker h =>
    simp only [step]
    split
    · rename_i htask
      exact .handlerEnded htask
    · exact .stay
  | finalize =>
    simp only [step]
    split
    · exact .finalizeCalled
    · exact .stay
  | finalizeRead worker delay =>
    simp only [step]
    split
    · rename_i claim cause readAt htask
      split
      · rename_i proposal hread
        exact .proposed htask (by omega) hread
      · exact .quit (by simp [Entry.isFailure])
    · exact .stay
  | finalizeTx worker choice =>
    simp only [step]
    split
    · rename_i htask
      exact stepFinalize_stepTo (.inl ⟨htask, rfl, rfl⟩)
    · rename_i htask
      exact stepFinalize_stepTo (.inr ⟨htask, rfl⟩)
    · exact .stay
  | recover worker eventId projectId delay =>
    simp only [step]
    split
    · split
      · rename_i claim hread
        exact .recoverRead (Nat.le_add_right _ _) hread
      · exact .stay
    · exact .stay
  | crash => exact .quit (by simp [Entry.isFailure])
  | effect envelope delay survives =>
    simp only [step]
    unfold State.endEffect
    split
    · rename_i observation hfence
      split
      · unfold fenceInvocation at hfence
        split at hfence
        · exact .effect (Nat.le_add_right _ _) hfence
        · cases hfence
      · exact .stay
    · exact .stay

theorem run_of_stepTo {I : State → Prop} (hinit : I s)
    (hstep : ∀ s s', StepTo sha256 d s s' → I s → I s') (actions : List Action) :
    I (run (step sha256 d) s actions) :=
  run_invariant hinit (fun s a h => hstep s _ (step_stepTo s a) h) actions

@[simp] theorem setTask_rows (worker : Nat) (task : Task) : (s.setTask worker task).rows = s.rows := rfl

@[simp] theorem setTask_clock (worker : Nat) (task : Task) : (s.setTask worker task).clock = s.clock :=
  rfl

@[simp] theorem setTask_log (worker : Nat) (task : Task) : (s.setTask worker task).log = s.log := rfl

@[simp] theorem record_rows (entries : List Entry) : (s.record entries).rows = s.rows := rfl

@[simp] theorem record_clock (entries : List Entry) : (s.record entries).clock = s.clock := rfl

@[simp] theorem record_tasks (entries : List Entry) : (s.record entries).tasks = s.tasks := rfl

@[simp] theorem record_log (entries : List Entry) : (s.record entries).log = s.log ++ entries := rfl

@[simp] theorem commit_rows (w : Write) (t : Nat) : (s.commit w t).rows = s.rows.apply w := rfl

@[simp] theorem commit_clock (w : Write) (t : Nat) : (s.commit w t).clock = t := rfl

@[simp] theorem commit_tasks (w : Write) (t : Nat) : (s.commit w t).tasks = s.tasks := rfl

@[simp] theorem commit_log (w : Write) (t : Nat) : (s.commit w t).log = s.log := rfl

@[simp] theorem setTask_self (worker : Nat) : s.setTask worker (s.tasks worker) = s := by
  simp [State.setTask]

theorem setTask_tasks (worker w : Nat) (task : Task) :
    (s.setTask worker task).tasks w = if w = worker then task else s.tasks w := by
  simp [State.setTask, Function.update_apply]

theorem input_order (readAt : Nat) (choice : TxChoice) :
    s.clock ≤ (s.input readAt choice).lockedNow ∧ readAt ≤ (s.input readAt choice).lockedNow ∧
      (s.input readAt choice).lockedNow ≤ (s.input readAt choice).consumedNow ∧
      (s.input readAt choice).consumedNow ≤ s.committedAt readAt choice := by
  simp only [State.input, State.committedAt]
  omega

end

end Workstream.Outbox
