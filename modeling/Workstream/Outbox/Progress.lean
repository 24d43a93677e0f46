import Workstream.Outbox.Agreement
import Workstream.Outbox.NoRepeat
import Workstream.Outbox.Admission

/-! # Bounded delivery that does not get stuck -/

namespace Workstream.Outbox
open Foundation

variable {sha256 : String → String} {d : OutboxDelivery} {facts : EventFacts} {s : State}
  {owner : String} {i : TxInput} {decisionId : Uuid} {delay : Nat}

variable {now worker : Nat} {s' : State} {attempt : OutboxDeliveryAttempt}

theorem claimRead_eq_some_iff {event : OutboxEvent} {projectId : Uuid} {claim : OutboxClaim} :
    claimRead d (some event) projectId owner now = .ok (some claim) ↔
      d.registry.get event.eventType event.eventVersion = true ∧ event.isOpen = true ∧
      event.due now = true ∧
      event.claimGeneration < (d.optionsFor event.eventType event.eventVersion).maxAttempts ∧
      claim.toClaimFields = {
        eventId := event.eventId
        projectId := projectId
        payloadDigest := event.payloadDigest
        claimGeneration := event.claimGeneration + 1
        claimOwner := owner
        claimedAt := now
        claimExpiresAt :=
          DateTime.addSeconds now (d.optionsFor event.eventType event.eventVersion).leaseSeconds } := by
  rw [← OutboxClaim.validate_eq_some]
  unfold claimRead
  dsimp only
  constructor
  · intro h
    split at h
    · rename_i hguard
      simp only [Bool.and_eq_true, decide_eq_true_eq] at hguard
      split at h
      · rename_i found hvalid
        injection h with h
        rw [← h]
        exact ⟨hguard.1.1.1, hguard.1.1.2, hguard.1.2, hguard.2, hvalid⟩
      · cases h
    · cases h
  · rintro ⟨hget, hopen, hdue, hlt, hvalid⟩
    simp [hget, hopen, hdue, hlt, hvalid]

/-- Claims stay below the limit of attempts, for registered events. -/
structure Limited (d : OutboxDelivery) (facts : EventFacts) (s : State) : Prop where
  generation : s.rows.event.claimGeneration ≤
    (d.optionsFor facts.eventType facts.eventVersion).maxAttempts
  registered : 0 < s.rows.event.claimGeneration →
    d.registry.get facts.eventType facts.eventVersion = true
  claiming : ∀ worker claim readAt, s.tasks worker = .claiming claim readAt →
    claim.claimGeneration ≤ (d.optionsFor facts.eventType facts.eventVersion).maxAttempts ∧
      d.registry.get facts.eventType facts.eventVersion = true

theorem limited_start (d : OutboxDelivery) (facts : EventFacts) : Limited d facts (start facts) where
  generation := Nat.zero_le _
  registered := fun h => absurd h (Nat.lt_irrefl _)
  claiming := by simp [start]

theorem Limited.next (h : Limited d facts s) {task : Task}
    (hgen : s'.rows.event.claimGeneration = s.rows.event.claimGeneration)
    (htasks : s'.tasks = (s.setTask worker task).tasks)
    (hclaiming : ∀ claim readAt, task = .claiming claim readAt →
      claim.claimGeneration ≤ (d.optionsFor facts.eventType facts.eventVersion).maxAttempts ∧
        d.registry.get facts.eventType facts.eventVersion = true) :
    Limited d facts s' := by
  refine ⟨by rw [hgen]; exact h.generation, by rw [hgen]; exact h.registered, ?_⟩
  intro w claim readAt htask
  rw [htasks, setTask_tasks] at htask
  split at htask
  · exact hclaiming claim readAt htask
  · exact h.claiming w claim readAt htask

theorem StepTo.limited (hstep : StepTo sha256 d s s') (hhist : History sha256 d facts s)
    (h : Limited d facts s) : Limited d facts s' := by
  cases hstep with
  | stay => exact h
  | @claimRead worker eventId projectId owner claim now hnow hread =>
    refine h.next rfl rfl ?_
    intro claim' readAt' heq
    injection heq with hclaim
    subst hclaim
    cases hevent : s.rows.findEvent eventId projectId with
    | none =>
      rw [hevent] at hread
      cases hread
    | some event =>
      obtain ⟨rfl, -⟩ := Custody.findEvent_eq_some hevent
      rw [hevent] at hread
      obtain ⟨hget, -, -, hlt, hfields⟩ := claimRead_eq_some_iff.mp hread
      obtain ⟨htype, hver⟩ := hhist.event_eq
      rw [htype, hver] at hget hlt
      have hgen : claim.claimGeneration = s.rows.event.claimGeneration + 1 := by rw [hfields]
      exact ⟨by omega, hget⟩
  | @claimed worker claim readAt choice decisionId htask =>
    obtain ⟨hle, hget⟩ := h.claiming worker claim readAt htask
    refine ⟨hle, fun _ => hget, ?_⟩
    intro w claim' readAt' htask'
    rw [record_tasks, setTask_tasks] at htask'
    split at htask'
    · cases htask'
    · exact h.claiming w claim' readAt' htask'
  | effect => exact ⟨h.generation, h.registered, h.claiming⟩
  | _ => exact h.next rfl rfl (by simp)

theorem StepTo.rows_of_final (hstep : StepTo sha256 d s s')
    (hfinal : s.rows.event.deliveryState = .acknowledged ∨ s.rows.event.deliveryState = .deadLetter) :
    s'.rows = s.rows := by
  cases hstep with
  | claimed htask hclaims =>
    have hopen := hclaims.isOpen
    rcases hfinal with hstate | hstate <;> simp [OutboxEvent.isOpen, hstate] at hopen
  | invoked hinvokes =>
    have hclaimed := (matchesEvent_iff.mp hinvokes.shown).1
    rcases hfinal with hstate | hstate <;> simp [hstate] at hclaimed
  | finalized htask hfound hfin =>
    have hclaimed := (matchesEvent_iff.mp hfin.shown).1
    rcases hfinal with hstate | hstate <;> simp [hstate] at hclaimed
  | _ => rfl

theorem run_rows_of_final (hfinal : s.rows.event.deliveryState = .acknowledged ∨
      s.rows.event.deliveryState = .deadLetter) (more : List Action) :
    (run (step sha256 d) s more).rows = s.rows := by
  refine run_of_stepTo (I := fun s' => s'.rows = s.rows) rfl ?_ more
  intro t t' hstep hsame
  exact (hstep.rows_of_final (by rw [hsame]; exact hfinal)).trans hsame

theorem retryable_waits (hhist : History sha256 d facts s)
    (hstate : s.rows.event.deliveryState = .retryable) :
    s.rows.event.claimGeneration < (d.optionsFor facts.eventType facts.eventVersion).maxAttempts ∧
      ∃ t, s.rows.event.nextAttemptAt = some t := by
  obtain ⟨a, ha, hgen, hstage, o, hdecode, hshown, -, hnext, -⟩ :=
    hhist.custody.settled (by simp [hstate]) (by simp [hstate])
  obtain ⟨claim, cause, value, hrec⟩ := hhist.recorded a ha hstage
  rw [hrec.json, Option.bind_some, decode_encode] at hdecode
  obtain rfl := Option.some.inj hdecode
  have hclaim : claim.claimGeneration = a.claimGeneration := by rw [hrec.claim_eq]
  rcases hrec.row.shape with ⟨-, -, -, ⟨t, htime, -⟩, hlt⟩ | ⟨hfinal, -, -⟩
  · exact ⟨by omega, t, hnext.trans htime⟩
  · rw [← hshown, hstate] at hfinal
    simp at hfinal

/-- What the environment grants a transaction: an allowed decision, a surviving connection, and a
commit within the given time. -/
def TxChoice.Grants (choice : TxChoice) (within : Nat) : Prop :=
  (∃ decisionId, choice.authority = .allowed decisionId) ∧ choice.survives = true ∧
    choice.wait + choice.consume + choice.commit < within

theorem findEvent_self (rows : Custody) :
    rows.findEvent rows.event.eventId rows.event.projectId = some rows.event := by
  simp [Custody.findEvent]

theorem Claims.claimTx_eq {rows : Custody} {claim : OutboxClaim} (h : Claims rows claim i decisionId) :
    claimTx claim (rows.findEvent claim.eventId claim.projectId) i =
      .ok (some (claimWrite rows.event claim decisionId)) := by
  rw [← h.eventId_eq, ← h.projectId_eq, findEvent_self]
  simp [claimTx, h.allowed, h.isOpen, h.generation, h.digest, h.due, h.unexpired.1,
    Nat.not_le.mpr h.unexpired.2]

variable {choice : TxChoice}

/-- A retryable event whose time has come is claimed by any idle worker. -/
theorem run_claim_of_retryable (hhist : History sha256 d facts s) (hadm : Admitted sha256 s.rows)
    (hlim : Limited d facts s) (hstate : s.rows.event.deliveryState = .retryable) {t : Nat}
    (hnext : s.rows.event.nextAttemptAt = some t) (hidle : s.tasks worker = .idle)
    (howner : isOwner owner = true) (htime : t ≤ s.clock + delay)
    (hgrants : choice.Grants ((d.optionsFor facts.eventType facts.eventVersion).leaseSeconds *
      DateTime.microsPerSecond)) :
    (run (step sha256 d) s [.claim worker s.rows.event.eventId s.rows.event.projectId owner delay,
      .claimTx worker choice]).rows.event.deliveryState = .claimed ∧
    (run (step sha256 d) s [.claim worker s.rows.event.eventId s.rows.event.projectId owner delay,
      .claimTx worker choice]).rows.event.claimGeneration = s.rows.event.claimGeneration + 1 := by
  obtain ⟨⟨decisionId, hallow⟩, hsurvives, hwithin⟩ := hgrants
  obtain ⟨hlt, -⟩ := retryable_waits hhist hstate
  obtain ⟨htype, hver⟩ := hhist.event_eq
  rw [← htype, ← hver] at hlt hwithin
  have hopen : s.rows.event.isOpen = true := by simp [OutboxEvent.isOpen, hstate]
  have hdue : s.rows.event.due (s.clock + delay) = true := by simp [OutboxEvent.due, hnext, htime]
  obtain ⟨a, ha, hgen, -⟩ :=
    hhist.custody.settled (by simp [hstate]) (by simp [hstate])
  have hreg := hlim.registered (by
    have hrange := hhist.custody.generation_range ha
    omega)
  rw [← htype, ← hver] at hreg
  have hlease := (d.optionsFor s.rows.event.eventType s.rows.event.eventVersion).lease_range
  have hatts := (d.optionsFor s.rows.event.eventType s.rows.event.eventVersion).attempts_range
  have hdig : isDigest s.rows.event.payloadDigest = true := by
    have hvalid := (attemptChecks_iff.mp (hadm.attempts a ha)).1
    rw [← ((checkProjection_iff.mp hadm.projected).2.1 a ha).2.2.1]
    exact hvalid.1
  -- The lease of the new claim, from the reading that made it.
  let claim : OutboxClaim := ⟨{
    eventId := s.rows.event.eventId
    projectId := s.rows.event.projectId
    payloadDigest := s.rows.event.payloadDigest
    claimGeneration := s.rows.event.claimGeneration + 1
    claimOwner := owner
    claimedAt := s.clock + delay
    claimExpiresAt := DateTime.addSeconds (s.clock + delay)
      (d.optionsFor s.rows.event.eventType s.rows.event.eventVersion).leaseSeconds }, by
    refine ⟨hdig, ⟨Nat.le_add_left _ _, ?_⟩, howner, ?_⟩
    · show s.rows.event.claimGeneration + 1 ≤ 2147483647
      omega
    · simp only [DateTime.addSeconds, DateTime.microsPerSecond]
      omega⟩
  have hread : claimRead d (some s.rows.event) s.rows.event.projectId owner (s.clock + delay) =
      .ok (some claim) := claimRead_eq_some_iff.mpr ⟨hreg, hopen, hdue, hlt, rfl⟩
  have hfirst : step sha256 d s (.claim worker s.rows.event.eventId s.rows.event.projectId owner delay) =
      s.setTask worker (.claiming claim (s.clock + delay)) := by
    simp only [step, hidle, findEvent_self, hread]
  set s₁ := s.setTask worker (.claiming claim (s.clock + delay)) with hs₁
  have htask : s₁.tasks worker = .claiming claim (s.clock + delay) := by
    rw [hs₁, setTask_tasks, if_pos rfl]
  have horder := @input_order s₁ (s.clock + delay) choice
  have hcommitted : s₁.committedAt (s.clock + delay) choice < claim.claimExpiresAt := by
    show max s.clock (s.clock + delay) + choice.wait + choice.consume + choice.commit <
      DateTime.addSeconds (s.clock + delay) _
    unfold DateTime.addSeconds
    omega
  have hlocked : s₁.rows.event.due (s₁.input (s.clock + delay) choice).lockedNow = true := by
    have hle : t ≤ (s₁.input (s.clock + delay) choice).lockedNow := by omega
    simpa [OutboxEvent.due, hs₁, hnext] using hle
  have hclaims : Claims s₁.rows claim (s₁.input (s.clock + delay) choice) decisionId :=
    ⟨rfl, rfl, hallow, hopen, rfl, rfl, hlocked, by omega, by omega⟩
  have htx : claimTx claim (s₁.rows.findEvent claim.eventId claim.projectId)
      (s₁.input (s.clock + delay) choice) = .ok (some (claimWrite s.rows.event claim decisionId)) :=
    hclaims.claimTx_eq
  have hacc : accepts sha256 s₁.rows (claimWrite s.rows.event claim decisionId)
      (s₁.committedAt (s.clock + delay) choice) = true :=
    accepts_claimWrite hadm hhist.custody hclaims hdue ⟨by
      have hclaimedAt : claim.claimedAt = s.clock + delay := rfl
      omega, hcommitted⟩
  have hadmits : s₁.admits sha256 (claimWrite s.rows.event claim decisionId)
      (s₁.committedAt (s.clock + delay) choice) choice.survives = true :=
    State.admits_iff.mpr ⟨hsurvives, hacc⟩
  rw [run_cons, hfirst, run_cons, run_nil]
  simp only [step, htask, State.endClaim, htx, hadmits, if_true]
  exact ⟨rfl, rfl⟩

theorem exists_expired_row (claim : OutboxClaim) (options : DeliveryOptions) (retryUnknown : Bool)
    (invokedAt : Option Nat) (hexp : claim.claimExpiresAt ≤ now) :
    ∃ value, OutcomeRow claim options retryUnknown invokedAt .expired now value := by
  cases invokedAt with
  | none =>
    by_cases hgen : claim.claimGeneration < options.maxAttempts
    · exact ⟨_, .leaseExpired hexp hgen⟩
    · exact ⟨_, .leaseExhausted hexp (Nat.not_lt.mp hgen)⟩
  | some t =>
    by_cases hretry : retryUnknown = true ∧ claim.claimGeneration < options.maxAttempts
    · exact ⟨_, .unknownRetry (.inl hexp) (fun _ => hexp) hretry.1 hretry.2⟩
    · exact ⟨_, .unknownFinal (.inl hexp) (fun _ => hexp) hretry⟩

theorem exists_open_attempt (hcust : CustodyInvariant s.rows) (hadm : Admitted sha256 s.rows)
    (hstate : s.rows.event.deliveryState = .claimed) :
    ∃ claim attempt, attempt ∈ s.rows.attempts ∧ attempt.stage ≠ .completed ∧
      claimFromAttempt attempt = some claim ∧ s.rows.findAttempt claim = some attempt ∧
      matchesEvent s.rows.event claim = true := by
  obtain ⟨a, ha, hgen, hstage, howner, hclaimedAt, hexp, -⟩ := hcust.claimed hstate
  have hvalid := (attemptChecks_iff.mp (hadm.attempts a ha)).1
  obtain ⟨-, hproj, hdig, -⟩ := (checkProjection_iff.mp hadm.projected).2.1 a ha
  have heventId := hadm.owned a ha
  refine ⟨⟨a.toClaimFields, hvalid⟩, a, ha, ?_, claimFromAttempt_eq_some.mpr rfl,
    Custody.findAttempt_of_mem hcust.unique ha rfl, matchesEvent_iff.mpr ?_⟩
  · rcases hstage with hstage | hstage <;> simp [hstage]
  · exact ⟨hstate, heventId.symm, hproj.symm, hdig.symm, hgen.symm, howner, hclaimedAt,
      hexp⟩

theorem recoverRead_of_shown {event : OutboxEvent} {claim : OutboxClaim}
    (hshown : matchesEvent event claim = true) (hexp : claim.claimExpiresAt ≤ now) :
    recoverRead (some event) now = .ok (some claim) := by
  obtain ⟨hstate, heventId, hproj, hdig, hgen, howner, hclaimedAt, hexpires⟩ :=
    matchesEvent_iff.mp hshown
  have hvalid : OutboxClaim.validate {
      eventId := event.eventId
      projectId := event.projectId
      payloadDigest := event.payloadDigest
      claimGeneration := event.claimGeneration
      claimOwner := claim.claimOwner
      claimedAt := claim.claimedAt
      claimExpiresAt := claim.claimExpiresAt } = some claim := by
    rw [OutboxClaim.validate_eq_some, heventId, hproj, hdig, hgen]
  simp [recoverRead, howner, hclaimedAt, hexpires, hstate, hexp, hvalid]

section Recovery

variable {claim : OutboxClaim} {attempt : OutboxDeliveryAttempt} {event : OutboxEvent} {value : Outcome}
  {now : Nat}

/-- What `finalize` keeps of its unlocked read. -/
def proposalOf (sha256 : String → String) (d : OutboxDelivery) (claim : OutboxClaim) (event : OutboxEvent)
    (attempt : OutboxDeliveryAttempt) (value : Outcome) : Proposal :=
  ⟨receiptOf sha256 claim value, attempt.invokedAt, d.optionsFor event.eventType event.eventVersion,
    d.registry.canRetryUnknown event.eventType event.eventVersion⟩

theorem finalizeRead_of_row {cause : FinalizationCause}
    (hclaim : claimFromAttempt attempt = some claim) (hstage : attempt.stage ≠ .completed)
    (hrow : OutcomeRow claim (d.optionsFor event.eventType event.eventVersion)
      (d.registry.canRetryUnknown event.eventType event.eventVersion) attempt.invokedAt cause now value) :
    finalizeRead sha256 d claim cause (some event) (some attempt) now =
      .ok (proposalOf sha256 d claim event attempt value) := by
  have hout := outcome_eq_ok_iff.mpr hrow
  simp [finalizeRead, proposalOf, hclaim, hstage, hout, bind, Except.bind]

/-- A locked finalization after the lease that is allowed ends with a write. -/
theorem finalizeTx_of_row {cause : FinalizationCause} {i : TxInput} {decisionId : Uuid}
    (hclaim : claimFromAttempt attempt = some claim) (hstage : attempt.stage ≠ .completed)
    (hshown : matchesEvent event claim = true)
    (hrow : OutcomeRow claim (d.optionsFor event.eventType event.eventVersion)
      (d.registry.canRetryUnknown event.eventType event.eventVersion) attempt.invokedAt cause now value)
    (hexp : claim.claimExpiresAt ≤ now) (hlocked : now ≤ i.lockedNow)
    (hallow : i.authority = .allowed decisionId) :
    finalizeTx sha256 d (receiptOf sha256 claim value) cause (some event) (some attempt) i =
      .finalized (receiptOf sha256 claim value)
        (finalizeWrite event attempt (receiptOf sha256 claim value) value decisionId) := by
  have hcomp := hrow.receiptCompletedAt_eq
  have hout := outcome_eq_ok_iff.mpr hrow
  rw [← hcomp] at hout
  have hrcpt : (receiptOf sha256 claim value).claim = claim := rfl
  have hjson : (receiptOf sha256 claim value).outcomeJson = encode value := rfl
  have hdig : (receiptOf sha256 claim value).outcomeDigest = digestOf sha256 (encode value) := rfl
  have hgen := (matchesEvent_iff.mp hshown).2.2.2.2.1
  have hlate : ¬value.receiptCompletedAt < claim.claimExpiresAt := by omega
  have hpast : ¬i.lockedNow < value.receiptCompletedAt := by omega
  simp [finalizeTx, finalizeOpen, hallow, hrcpt, hjson, hdig, hclaim, hstage, hshown,
    hgen, hout, hlate, hpast]

end Recovery

/-- The database and the registry agree on the event, as far as its limit of attempts needs it. -/
abbrev Listed (d : OutboxDelivery) (facts : EventFacts) : Prop :=
  d.registry.canRetryUnknown facts.eventType facts.eventVersion = true →
    1 < (d.optionsFor facts.eventType facts.eventVersion).maxAttempts →
    unknownRetryRegistered facts.eventType facts.eventVersion = true

/-- The recovery of an expired claim by any idle worker ends it. -/
theorem run_recover_of_expired (hlisted : Listed d facts) (hhist : History sha256 d facts s)
    (hadm : Admitted sha256 s.rows) (hstate : s.rows.event.deliveryState = .claimed) {expires : Nat}
    (hexp : s.rows.event.claimExpiresAt = some expires) {delay' : Nat} {within : Nat}
    (hidle : s.tasks worker = .idle) (htime : expires ≤ s.clock + delay) (hgrants : choice.Grants within) :
    (run (step sha256 d) s [.recover worker s.rows.event.eventId s.rows.event.projectId delay,
      .finalizeRead worker delay', .finalizeTx worker choice]).rows.event.deliveryState ≠ .claimed := by
  obtain ⟨⟨decisionId, hallow⟩, hsurvives, -⟩ := hgrants
  obtain ⟨claim, attempt, hmem, hstage, hclaim, hfound, hshown⟩ :=
    exists_open_attempt hhist.custody hadm hstate
  obtain ⟨htype, hver⟩ := hhist.event_eq
  obtain ⟨-, heventId, hproj, -, hcur, -, -, hclaimExpires⟩ := matchesEvent_iff.mp hshown
  have hlease : expires = claim.claimExpiresAt := Option.some.inj (hexp.symm.trans hclaimExpires)
  have hevent : s.rows.findEvent claim.eventId claim.projectId = some s.rows.event := by
    rw [← heventId, ← hproj]
    exact findEvent_self s.rows
  have hread := recoverRead_of_shown hshown (hlease ▸ htime)
  -- The three states of the call: after the read of `recover`, the read of `finalize`, and the write.
  have hfirst : step sha256 d s (.recover worker s.rows.event.eventId s.rows.event.projectId delay) =
      s.setTask worker (.finalizing claim .expired (s.clock + delay)) := by
    simp only [step, hidle, findEvent_self, hread]
  set s₁ := s.setTask worker (.finalizing claim .expired (s.clock + delay)) with hs₁
  have htask₁ : s₁.tasks worker = .finalizing claim .expired (s.clock + delay) := by
    rw [hs₁, setTask_tasks, if_pos rfl]
  set now := max s.clock (s.clock + delay) + delay' with hnow
  have hlate : claim.claimExpiresAt ≤ now := by omega
  obtain ⟨value, hrow⟩ := exists_expired_row claim
    (d.optionsFor s.rows.event.eventType s.rows.event.eventVersion)
    (d.registry.canRetryUnknown s.rows.event.eventType s.rows.event.eventVersion) attempt.invokedAt hlate
  have hsecond : step sha256 d s₁ (.finalizeRead worker delay') =
      s₁.setTask worker (.proposing .expired (proposalOf sha256 d claim s.rows.event attempt value) now) := by
    have hprop := @finalizeRead_of_row sha256 d claim attempt s.rows.event value now .expired
      hclaim hstage hrow
    have hrows : s₁.rows = s.rows := rfl
    have hclock : s₁.clock = s.clock := rfl
    simp only [step, htask₁, hrows, hclock, hevent, hfound, ← hnow, hprop]
  set s₂ := s₁.setTask worker (.proposing .expired
    (proposalOf sha256 d claim s.rows.event attempt value) now) with hs₂
  have htask₂ : s₂.tasks worker = .proposing .expired
      (proposalOf sha256 d claim s.rows.event attempt value) now := by
    rw [hs₂, setTask_tasks, if_pos rfl]
  have horder := @input_order s₂ now choice
  have hauth : (s₂.input now choice).authority = .allowed decisionId := hallow
  have hcomp := hrow.receiptCompletedAt_eq
  have htx := @finalizeTx_of_row sha256 d claim attempt s.rows.event value now .expired
    (s₂.input now choice) decisionId hclaim hstage hshown hrow hlate horder.2.1 hauth
  have hfin : Finalizes sha256 d (receiptOf sha256 claim value) .expired s.rows.event attempt value
      decisionId (s₂.input now choice) :=
    ⟨hauth, hclaim, hstage, hshown, rfl, hcomp.symm ▸ hrow, by omega,
      fun hearly => absurd hearly (by
        have hsame : (receiptOf sha256 claim value).claim = claim := rfl
        rw [hsame]
        omega)⟩
  have hacc : accepts sha256 s.rows
      (finalizeWrite s.rows.event attempt (receiptOf sha256 claim value) value decisionId)
      (s₂.committedAt now choice) = true := by
    have hopen := openAttempt_of_admitted hadm hhist.custody hmem hstate (by
      have hgen := (Custody.findAttempt_eq_some hfound).2
      omega)
    have hfields := claimFromAttempt_eq_some.mp hclaim
    have hattemptExpires : claim.claimExpiresAt = attempt.claimExpiresAt := by rw [hfields]
    have hattemptLease : attempt.claimedAt < attempt.claimExpiresAt := hfields ▸ claim.valid.2.2.2.1
    refine (accepts_finalizeWrite hadm hhist.custody (hhist.unmarked attempt hmem) hfound
      hfin (by omega) ?_ (by omega)).mpr ?_
    · intro t ht
      have hmark := hopen.marker t ht
      omega
    · intro hunknown hretryable
      obtain ⟨-, -, hsafe, hlt⟩ := (unknownRetry_iff hrow).mp ⟨hunknown, hretryable⟩
      rw [htype, hver] at hsafe hlt ⊢
      have hpos := claim.valid.2.1.1
      exact hlisted hsafe (by omega)
  have hadmits : s₂.admits sha256
      (finalizeWrite s.rows.event attempt (receiptOf sha256 claim value) value decisionId)
      (s₂.committedAt now choice) choice.survives = true := State.admits_iff.mpr ⟨hsurvives, hacc⟩
  rw [run_cons, hfirst, run_cons, hsecond, run_cons, run_nil]
  have hrcpt : (receiptOf sha256 claim value).claim = claim := rfl
  have hrows₂ : s₂.rows = s.rows := rfl
  simp only [step, htask₂, State.stepFinalize, proposalOf, State.endFinalize, hrcpt, hrows₂, hevent, hfound,
    htx, hadmits, if_true]
  intro hclaimed
  have hclaimed : value.deliveryState = .claimed := hclaimed
  rcases hrow.deliveryState_cases with hs | hs | hs <;> rw [hs] at hclaimed <;> cases hclaimed

/-- The limits of the attempts, markers and claims of an event, and what remains possible. -/
structure Bounded (sha256 : String → String) (d : OutboxDelivery) (facts : EventFacts) (s : State) :
    Prop where
  attempts : s.rows.attempts.length ≤ (d.optionsFor facts.eventType facts.eventVersion).maxAttempts
  markers : (markers s.log).Pairwise fun p q => p.2.claimGeneration < q.2.claimGeneration
  final : s.rows.event.deliveryState = .acknowledged ∨ s.rows.event.deliveryState = .deadLetter →
    ∀ more, (run (step sha256 d) s more).rows = s.rows
  waits : s.rows.event.deliveryState = .retryable →
    s.rows.event.claimGeneration < (d.optionsFor facts.eventType facts.eventVersion).maxAttempts ∧
      ∃ t, s.rows.event.nextAttemptAt = some t ∧
        ∀ worker owner delay choice, s.tasks worker = .idle → isOwner owner = true →
          t ≤ s.clock + delay →
          choice.Grants ((d.optionsFor facts.eventType facts.eventVersion).leaseSeconds *
            DateTime.microsPerSecond) →
          (run (step sha256 d) s [.claim worker s.rows.event.eventId s.rows.event.projectId owner delay,
            .claimTx worker choice]).rows.event.deliveryState = .claimed ∧
          (run (step sha256 d) s [.claim worker s.rows.event.eventId s.rows.event.projectId owner delay,
            .claimTx worker choice]).rows.event.claimGeneration = s.rows.event.claimGeneration + 1
  recovers : s.rows.event.deliveryState = .claimed →
    ∃ expires, s.rows.event.claimExpiresAt = some expires ∧
      ∀ worker delay delay' choice within, s.tasks worker = .idle → expires ≤ s.clock + delay →
        choice.Grants within →
        (run (step sha256 d) s [.recover worker s.rows.event.eventId s.rows.event.projectId delay,
          .finalizeRead worker delay', .finalizeTx worker choice]).rows.event.deliveryState ≠ .claimed

theorem run_invariants (sha256 : String → String) (d : OutboxDelivery) (facts : EventFacts)
    (actions : List Action) :
    Admitted sha256 (run (step sha256 d) (start facts) actions).rows ∧
      Limited d facts (run (step sha256 d) (start facts) actions) := by
  have hrun := run_of_stepTo
    (I := fun s => History sha256 d facts s ∧ Admitted sha256 s.rows ∧ Limited d facts s)
    ⟨history_start sha256 d facts, admitted_appended sha256 facts, limited_start d facts⟩
    (fun s s' hstep h => ⟨hstep.history h.1, hstep.admitted h.2.1, hstep.limited h.1 h.2.2⟩) actions
  exact hrun.2

/-- In every run on an event that the database lists if the registry calls it replay-safe, delivery is
bounded and no reached state is stranded. -/
theorem run_bounded (sha256 : String → String) (d : OutboxDelivery) (facts : EventFacts)
    (hlisted : Listed d facts) (actions : List Action) :
    Bounded sha256 d facts (run (step sha256 d) (start facts) actions) := by
  have hhist := run_history sha256 d facts actions
  obtain ⟨hadm, hlim⟩ := run_invariants sha256 d facts actions
  have hmarkers := run_markers sha256 d facts actions
  refine ⟨?_, hmarkers.ordered, ?_, ?_, ?_⟩
  · rw [(checkProjection_iff.mp hadm.projected).1]
    exact hlim.generation
  · exact fun hfinal more => run_rows_of_final hfinal more
  · intro hstate
    obtain ⟨hlt, t, hnext⟩ := retryable_waits hhist hstate
    refine ⟨hlt, t, hnext, ?_⟩
    intro worker owner delay choice hidle howner htime hgrants
    exact run_claim_of_retryable hhist hadm hlim hstate hnext hidle howner htime hgrants
  · intro hstate
    obtain ⟨a, -, -, -, -, -, hexp, -⟩ := hhist.custody.claimed hstate
    refine ⟨a.claimExpiresAt, hexp, ?_⟩
    intro worker delay delay' choice within hidle htime hgrants
    exact run_recover_of_expired hlisted hhist hadm hstate hexp hidle htime hgrants

theorem run_bounded_retried :
    Listed productionOutboxDelivery (sampleFacts assignmentInvalidationEvent) ∧
      Bounded (fun _ => sampleHash) productionOutboxDelivery (sampleFacts assignmentInvalidationEvent)
        sampleRetried :=
  ⟨by decide, run_bounded (fun _ => sampleHash) productionOutboxDelivery
    (sampleFacts assignmentInvalidationEvent) (by decide) sampleRetryRun⟩

/-- An entry by which a cause other than expiry enters the system. -/
def Entry.isAnswer : Entry → Bool
  | .handlerEnded .. => true
  | .finalizeCalled .. => true
  | _ => false

/-- No handler has ended, and nobody has called `finalize` directly. -/
def Unanswered (log : List Entry) : Prop := ∀ e ∈ log, e.isAnswer = false

theorem Unanswered.of_append {log entries : List Entry} (h : Unanswered (log ++ entries)) :
    Unanswered log :=
  fun e he => h e (List.mem_append_left _ he)

/-- Without an answer every finalization is a recovery. -/
def OnlyRecoveries (s : State) : Prop :=
  Unanswered s.log → ∀ worker claim cause, (s.tasks worker).call = some (claim, cause) →
    cause = .expired

theorem onlyRecoveries_start (facts : EventFacts) : OnlyRecoveries (start facts) := by
  intro _ worker claim cause hcall
  cases hcall

theorem OnlyRecoveries.next (h : OnlyRecoveries s) {task : Task} {entries : List Entry}
    (hlog : s'.log = s.log ++ entries) (htasks : s'.tasks = (s.setTask worker task).tasks)
    (htask : Unanswered s'.log → ∀ claim cause, task.call = some (claim, cause) → cause = .expired) :
    OnlyRecoveries s' := by
  intro hquiet w claim cause hcall
  rw [htasks, setTask_tasks] at hcall
  split at hcall
  · exact htask hquiet claim cause hcall
  · rw [hlog] at hquiet
    exact h hquiet.of_append w claim cause hcall

theorem StepTo.onlyRecoveries (hstep : StepTo sha256 d s s') (h : OnlyRecoveries s) :
    OnlyRecoveries s' := by
  cases hstep with
  | stay => exact h
  | quit | claimed | invoked | replayed | finalized => exact h.next rfl rfl (by simp [Task.call])
  | claimRead => exact h.next (List.append_nil _).symm rfl (by simp [Task.call])
  | handlerEnded | finalizeCalled =>
    refine h.next rfl rfl ?_
    intro hquiet
    exact absurd (hquiet _ List.mem_concat_self) (by
      simp [Entry.isAnswer])
  | recoverRead =>
    refine h.next (List.append_nil _).symm rfl ?_
    intro _ claim' cause' hcall
    obtain ⟨-, rfl⟩ := Prod.mk.inj (Option.some.inj hcall)
    rfl
  | @proposed worker claim cause readAt now proposal htask =>
    refine h.next (List.append_nil _).symm rfl ?_
    intro hquiet claim' cause' hcall
    obtain ⟨-, rfl⟩ := Prod.mk.inj (Option.some.inj hcall)
    exact h hquiet worker claim cause (by rw [htask]; rfl)
  | @lostRace worker cause proposal readAt now stored attempt htask =>
    refine h.next (List.append_nil _).symm rfl ?_
    intro hquiet claim' cause' hcall
    obtain ⟨-, rfl⟩ := Prod.mk.inj (Option.some.inj hcall)
    exact h hquiet worker proposal.receipt.claim cause (by rw [htask]; rfl)
  | effect =>
    intro hquiet
    exact h hquiet.of_append

/-- The open attempt of an event whose unknown effects the registry repeats and the database does not. -/
structure Unlisted (d : OutboxDelivery) (facts : EventFacts) (s : State)
    (attempt : OutboxDeliveryAttempt) : Prop where
  safe : d.registry.canRetryUnknown facts.eventType facts.eventVersion = true
  unlisted : unknownRetryRegistered facts.eventType facts.eventVersion = false
  state : s.rows.event.deliveryState = .claimed
  mem : attempt ∈ s.rows.attempts
  current : attempt.claimGeneration = s.rows.event.claimGeneration
  stage_eq : attempt.stage = .invoked
  marker : attempt.invokedAt ≠ none
  left : attempt.claimGeneration < (d.optionsFor facts.eventType facts.eventVersion).maxAttempts

/-- No recovery is admitted: its outcome is another attempt after an unknown effect. -/
theorem Unlisted.not_accepts (h : Unlisted d facts s attempt) (hhist : History sha256 d facts s)
    {receipt : DeliveryReceipt} {found : OutboxDeliveryAttempt} {value : Outcome} {clock : Nat}
    (hfound : s.rows.findAttempt receipt.claim = some found)
    (hfin : Finalizes sha256 d receipt .expired s.rows.event found value decisionId i) :
    accepts sha256 s.rows (finalizeWrite s.rows.event found receipt value decisionId) clock ≠ true := by
  intro hacc
  obtain ⟨hmem, hgen⟩ := Custody.findAttempt_eq_some hfound
  obtain ⟨-, -, -, -, hcur, -⟩ := matchesEvent_iff.mp hfin.shown
  have hshown := h.current
  obtain rfl := hhist.custody.eq_of_generation hmem h.mem (by omega)
  obtain ⟨htype, hver⟩ := hhist.event_eq
  have hrow := hfin.row
  rw [htype, hver] at hrow
  have hleft := h.left
  obtain ⟨hunknown, hretryable⟩ : value.invocationUnknown = true ∧ value.deliveryState = .retryable := by
    exact (unknownRetry_iff hrow).mpr ⟨h.marker, .inl (hrow.expired_of_cause rfl), h.safe, by omega⟩
  have hprojected := (accepts_iff.mp hacc).2.2.2.2
  have hjson : (finalizeWrite s.rows.event found receipt value decisionId).attempt.outcomeJson =
      some (encode value) := by
    rw [hfin.receipt_eq]
    rfl
  have hreg := (checkProjection_iff.mp hprojected).2.2.1
    (finalizeWrite s.rows.event found receipt value decisionId).attempt
    (Table.mem_replace_self hmem rfl) ((isUnknownRetry_encode hjson).mpr ⟨hunknown, hretryable⟩)
  have hreg : unknownRetryRegistered s.rows.event.eventType s.rows.event.eventVersion = true :=
    hreg
  rw [htype, hver, h.unlisted] at hreg
  cases hreg

theorem StepTo.log_append (hstep : StepTo sha256 d s s') :
    ∃ entries, s'.log = s.log ++ entries := by
  cases hstep with
  | stay | claimRead | recoverRead | proposed | lostRace => exact ⟨[], (List.append_nil _).symm⟩
  | _ => exact ⟨_, rfl⟩

theorem StepTo.rows_of_unlisted (hstep : StepTo sha256 d s s') (hhist : History sha256 d facts s)
    (honly : OnlyRecoveries s) (hquiet : Unanswered s.log) (h : Unlisted d facts s attempt) :
    s'.rows = s.rows := by
  cases hstep with
  | claimed htask hclaims =>
    have hopen := hclaims.isOpen
    simp [OutboxEvent.isOpen, h.state] at hopen
  | invoked hinvokes hacc =>
    obtain ⟨hmem, hgen⟩ := Custody.findAttempt_eq_some hinvokes.found
    obtain ⟨-, -, -, -, hcur, -⟩ := matchesEvent_iff.mp hinvokes.shown
    have hshown := h.current
    have hsame := hhist.custody.eq_of_generation hmem h.mem (by omega)
    have hstage := hinvokes.stage_eq
    rw [hsame, h.stage_eq] at hstage
    cases hstage
  | @finalized worker cause proposal readAt receipt found value decisionId choice htask hfound
      hfin hacc =>
    have hcause : cause = .expired := by
      rcases htask with ⟨htask, rfl⟩ | htask
      · exact honly hquiet worker _ _ (by rw [htask]; rfl)
      · exact honly hquiet worker _ _ (by rw [htask]; rfl)
    subst hcause
    exact absurd hacc (h.not_accepts hhist hfound hfin)
  | _ => rfl

/-- Without an answer nothing ever changes the rows again, however often recovery is tried. -/
theorem stranded_of_unlisted (h : Unlisted d facts s attempt) (hhist : History sha256 d facts s)
    (honly : OnlyRecoveries s) (more : List Action) :
    Unanswered (run (step sha256 d) s more).log → (run (step sha256 d) s more).rows = s.rows := by
  have hkeeps : ∀ t t', StepTo sha256 d t t' →
      (History sha256 d facts t ∧ OnlyRecoveries t ∧ (Unanswered t.log → t.rows = s.rows)) →
      History sha256 d facts t' ∧ OnlyRecoveries t' ∧ (Unanswered t'.log → t'.rows = s.rows) := by
    rintro t t' hstep ⟨hthistory, htonly, hkept⟩
    refine ⟨hstep.history hthistory, hstep.onlyRecoveries htonly, ?_⟩
    intro hquiet'
    obtain ⟨entries, hlog⟩ := hstep.log_append
    have hquiet : Unanswered t.log := (hlog ▸ hquiet').of_append
    have hsame := hkept hquiet
    have hunlisted : Unlisted d facts t attempt :=
      ⟨h.safe, h.unlisted, hsame ▸ h.state, hsame ▸ h.mem, hsame ▸ h.current, h.stage_eq, h.marker,
        h.left⟩
    exact (hstep.rows_of_unlisted hthistory htonly hquiet hunlisted).trans hsame
  exact (run_of_stepTo (I := fun t => History sha256 d facts t ∧ OnlyRecoveries t ∧
    (Unanswered t.log → t.rows = s.rows)) ⟨hhist, honly, fun _ => rfl⟩ hkeeps more).2.2

def sampleLostRun : List Action :=
  let allowed : TxChoice := { authority := .allowed "decision" }
  [.claim 0 sampleClaim.eventId sampleClaim.projectId "worker-1" 1000000, .claimTx 0 allowed,
    .invoke 0 sampleClaim allowed, .crash 0]

def sampleLost : State :=
  run (step (fun _ => sampleHash) productionOutboxDelivery)
    (start (sampleFacts revisionContextBlockedEvent)) sampleLostRun

/-- The claim of a context notice whose first invocation is lost expires, and no recovery by anyone at
any later time ends it. -/
theorem contextBlocked_stranded :
    sampleLost.rows.event.deliveryState = .claimed ∧
      sampleLost.rows.event.claimExpiresAt = some 301000000 ∧
      ∀ more, Unanswered
        (run (step (fun _ => sampleHash) productionOutboxDelivery) sampleLost more).log →
        (run (step (fun _ => sampleHash) productionOutboxDelivery) sampleLost more).rows =
          sampleLost.rows := by
  have hhist : History (fun _ => sampleHash) productionOutboxDelivery
      (sampleFacts revisionContextBlockedEvent) sampleLost := run_history _ _ _ _
  have honly : OnlyRecoveries sampleLost :=
    run_of_stepTo (onlyRecoveries_start _) (fun _ _ hstep h => hstep.onlyRecoveries h) _
  have hstate : sampleLost.rows.event.deliveryState = .claimed := by decide +kernel
  obtain ⟨attempt, hatt⟩ : ∃ a ∈ sampleLost.rows.attempts, a.claimGeneration = 1 ∧
      a.stage = .invoked ∧ a.invokedAt ≠ none := by decide +kernel
  refine ⟨hstate, by decide +kernel, ?_⟩
  intro more hquiet
  have hunlisted : Unlisted productionOutboxDelivery (sampleFacts revisionContextBlockedEvent)
      sampleLost attempt := by
    refine ⟨by decide, by decide, hstate, hatt.1, ?_, hatt.2.2.1, hatt.2.2.2, ?_⟩
    · have hgen : sampleLost.rows.event.claimGeneration = 1 := by decide +kernel
      rw [hgen]
      exact hatt.2.1
    · rw [hatt.2.1]
      decide
  exact stranded_of_unlisted hunlisted hhist honly more hquiet

end Workstream.Outbox
