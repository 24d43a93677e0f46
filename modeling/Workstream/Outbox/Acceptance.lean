import Workstream.Outbox.Steps

/-!
# The database against the outcome table

Two decision tables decide about a finalization: `_outcome` writes it, and the functions and triggers of
the database admit it.
-/

namespace Workstream.Outbox
open Foundation

theorem loads_encode (o : Outcome) : Json.loads (encode o) = some o.toJson := by
  rw [encode, Json.loads_dumps (distinctKeys_toJson o), canon_toJson]

variable {value : Json} {key : String} {t : Option Nat} {o : Outcome} {a : OutboxDeliveryAttempt}
  {code : Option ErrorCode} {claim : OutboxClaim} {rows : Custody} {e : OutboxEvent}

theorem textMember_timeJson (h : value.get? key = some (timeJson t)) :
    textMember value key = t.map DateTime.isoformat := by
  cases t with
  | none | some => simp [textMember, h, timeJson]

theorem timeMember_timeJson (h : value.get? key = some (timeJson t)) :
    timeMember value key = some t := by
  rw [timeMember, textMember_timeJson h]
  cases t with
  | none => rfl
  | some t => simp [DateTime.fromIsoformat_isoformat]

theorem textMember_codeJson (h : value.get? key = some (codeJson code)) :
    textMember value key = code.map ErrorCode.text := by
  cases code with
  | none | some => simp [textMember, h, codeJson]

theorem nullable_timeJson (h : value.get? key = some (timeJson t)) :
    (memberType value key == some "null" || memberType value key == some "string") = true := by
  cases t <;> simp [memberType, h, timeJson, jsonType]

theorem nullable_codeJson (h : value.get? key = some (codeJson code)) :
    (memberType value key == some "null" || memberType value key == some "string") = true := by
  cases code <;> simp [memberType, h, codeJson, jsonType]

theorem retryDelay_range (options : DeliveryOptions) (generation : Nat) :
    1 ≤ retryDelay options generation ∧ retryDelay options generation ≤ 86400 := by
  have hcap := options.cap_range
  have hbase := options.base_range
  have hpow : 1 ≤ 2 ^ min (generation - 1) 30 := Nat.one_le_two_pow
  have hprod : 1 ≤ options.retryBaseSeconds * 2 ^ min (generation - 1) 30 :=
    Nat.mul_le_mul hbase.1 hpow
  unfold retryDelay
  omega

namespace Outcome

variable (o : Outcome)

@[simp] theorem toJson_deliveryState : o.toJson.get? "delivery_state" = some (.str o.deliveryState.text) := by
  simp [toJson]

@[simp] theorem toJson_errorCode : o.toJson.get? "error_code" = some (codeJson o.errorCode) := by
  simp [toJson]

@[simp] theorem toJson_finalizedAt : o.toJson.get? "finalized_at" = some (timeJson o.finalizedAt) := by
  simp [toJson]

@[simp] theorem toJson_invocationUnknown :
    o.toJson.get? "invocation_unknown" = some (.bool o.invocationUnknown) := by
  simp [toJson]

@[simp] theorem toJson_invokedAt : o.toJson.get? "invoked_at" = some (timeJson o.invokedAt) := by
  simp [toJson]

@[simp] theorem toJson_nextAttemptAt :
    o.toJson.get? "next_attempt_at" = some (timeJson o.nextAttemptAt) := by
  simp [toJson]

@[simp] theorem toJson_receiptCompletedAt :
    o.toJson.get? "receipt_completed_at" = some (timeJson (some o.receiptCompletedAt)) := by
  simp [toJson]

theorem receiptValues_toJson : receiptValues o.toJson = some {
    completed := some o.receiptCompletedAt
    finalTime := o.finalizedAt
    retryTime := o.nextAttemptAt
    invokedText := o.invokedAt
    outcomeState := some o.deliveryState.text
    code := o.errorCode.map ErrorCode.text
    unknown := some o.invocationUnknown } := by
  have hstate : textMember o.toJson "delivery_state" = some o.deliveryState.text := by
    simp [textMember]
  have hunknown : (textMember o.toJson "invocation_unknown").map (· == "true") =
      some o.invocationUnknown := by
    cases h : o.invocationUnknown <;> simp [textMember, h]
  simp only [receiptValues, timeMember_timeJson o.toJson_receiptCompletedAt,
    timeMember_timeJson o.toJson_finalizedAt, timeMember_timeJson o.toJson_nextAttemptAt,
    timeMember_timeJson o.toJson_invokedAt, textMember_codeJson o.toJson_errorCode, hstate, hunknown,
    Option.bind_eq_bind, Option.bind_some]

theorem receiptShape_encode (sha256 : String → String) :
    receiptShape sha256 o.toJson (encode o) (digestOf sha256 (encode o)) = true := by
  have hsorted : receiptKeys.insertionSort (· ≤ ·) = receiptKeys := by decide
  have hkeys : sortedKeys o.toJson = some receiptKeys := congrArg some hsorted
  have hnullable : ["error_code", "finalized_at", "next_attempt_at", "invoked_at"].all (fun key =>
      memberType o.toJson key == some "null" || memberType o.toJson key == some "string") = true := by
    simp only [List.all_cons, List.all_nil, Bool.and_true, Bool.and_eq_true]
    exact ⟨nullable_codeJson o.toJson_errorCode, nullable_timeJson o.toJson_finalizedAt,
      nullable_timeJson o.toJson_nextAttemptAt, nullable_timeJson o.toJson_invokedAt⟩
  unfold receiptShape
  rw [hkeys, hnullable]
  simp [memberType, jsonType, encode, timeJson]

end Outcome

/-- Every row of the outcome table is a valid receipt, whatever the options. -/
theorem outcomeValid_encode (sha256 : String → String) {options : DeliveryOptions} {retryUnknown : Bool}
    {invokedAt : Option Nat} {cause : FinalizationCause} {now : Nat}
    (hrow : OutcomeRow claim options retryUnknown invokedAt cause now o)
    (hclaimed : claim.claimedAt ≤ now) (hinv : ∀ t, invokedAt = some t → t ≤ now) :
    outcomeValid sha256 (encode o) (digestOf sha256 (encode o)) claim.claimedAt claim.claimExpiresAt
      invokedAt = some true := by
  have hdelay : 1 ≤ retryDelay options claim.claimGeneration ∧
      retryDelay options claim.claimGeneration ≤ 86400 := retryDelay_range options _
  have hretry : now < DateTime.addSeconds now (retryDelay options claim.claimGeneration) ∧
      DateTime.addSeconds now (retryDelay options claim.claimGeneration) ≤
        DateTime.addSeconds now 86400 := by
    simp only [DateTime.addSeconds, DateTime.microsPerSecond]
    omega
  simp only [outcomeValid, loads_encode, o.receiptShape_encode, o.receiptValues_toJson, if_true]
  cases hrow with
  | @unknownRetry t =>
    have ht := hinv t rfl
    simp [receiptDecision, Outcome.again, DeliveryState.text, ErrorCode.text, Nat.not_lt.mpr hclaimed,
      Nat.not_lt.mpr ht, Nat.not_lt.mpr hretry.2, hretry.1]
  | @unknownFinal t =>
    have ht := hinv t rfl
    simp [receiptDecision, Outcome.final, DeliveryState.text, ErrorCode.text, Nat.not_lt.mpr hclaimed,
      Nat.not_lt.mpr ht]
  | @acknowledged t now htime =>
    have ht := hinv t rfl
    simp [receiptDecision, Outcome.final, DeliveryState.text, Nat.not_lt.mpr hclaimed,
      Nat.not_lt.mpr ht, htime]
  | @rejected t now htime | @retryExhausted t now htime =>
    have ht := hinv t rfl
    simp [receiptDecision, Outcome.final, DeliveryState.text, ErrorCode.text, Nat.not_lt.mpr hclaimed,
      Nat.not_lt.mpr ht, htime]
  | @retryRequested t now htime =>
    have ht := hinv t rfl
    simp [receiptDecision, Outcome.again, DeliveryState.text, ErrorCode.text, Nat.not_lt.mpr hclaimed,
      Nat.not_lt.mpr ht, Nat.not_lt.mpr hretry.2, hretry.1, htime]
  | leaseExpired htime =>
    simp [receiptDecision, Outcome.again, DeliveryState.text, ErrorCode.text, Nat.not_lt.mpr hclaimed,
      Nat.not_lt.mpr hretry.2, hretry.1, Nat.not_lt.mpr htime]
  | leaseExhausted htime =>
    simp [receiptDecision, Outcome.final, DeliveryState.text, ErrorCode.text, Nat.not_lt.mpr hclaimed,
      Nat.not_lt.mpr htime]

theorem isUnknownRetry_encode (h : a.outcomeJson = some (encode o)) :
    isUnknownRetry a = true ↔ o.invocationUnknown = true ∧ o.deliveryState = .retryable := by
  have hstate : o.deliveryState.text = "retryable" ↔ o.deliveryState = .retryable := by
    cases o.deliveryState <;> simp [DeliveryState.text]
  have hunknown : textMember o.toJson "invocation_unknown" = some "true" ↔
      o.invocationUnknown = true := by
    cases hu : o.invocationUnknown <;> simp [textMember, hu]
  have htext : textMember o.toJson "delivery_state" = some o.deliveryState.text := by
    simp [textMember]
  simp [isUnknownRetry, h, loads_encode, hunknown, htext, hstate]

theorem checkProjection_iff :
    checkProjection rows = true ↔
      rows.attempts.length = rows.event.claimGeneration ∧
      (∀ x ∈ rows.attempts, x.claimGeneration ≤ rows.event.claimGeneration ∧
        x.projectId = rows.event.projectId ∧ x.payloadDigest = rows.event.payloadDigest ∧
        rows.event.occurredAt ≤ x.claimedAt ∧
        (x.claimGeneration < rows.event.claimGeneration → x.stage = .completed)) ∧
      (∀ x ∈ rows.attempts, isUnknownRetry x = true →
        unknownRetryRegistered rows.event.eventType rows.event.eventVersion = true) ∧
      (rows.event.claimGeneration = 0 ∨ ∃ a, rows.attemptAt rows.event.claimGeneration = some a ∧
        projects rows.event a = true) := by
  simp only [checkProjection, Bool.and_eq_true, Bool.or_eq_true, List.all_eq_true, decide_eq_true_eq,
    Bool.not_eq_true', Bool.and_eq_false_iff, Bool.not_eq_false', Option.any_eq_true, and_assoc]
  simp only [← Bool.not_eq_true, ← imp_iff_not_or]

theorem projectsClaim_iff :
    projectsClaim e a = true ↔
      (a.stage = .claimed ∨ a.stage = .invoked) ∧ e.claimOwner = some a.claimOwner ∧
        e.claimedAt = some a.claimedAt ∧ e.claimExpiresAt = some a.claimExpiresAt ∧
        e.lastAttemptAt = some a.claimedAt := by
  simp [projectsClaim]

theorem projectsReceipt_encode (hstage : a.stage = .completed) (hjson : a.outcomeJson = some (encode o))
    (hlast : e.lastAttemptAt = some a.claimedAt) (hstate : e.deliveryState = o.deliveryState)
    (hcode : e.lastErrorCode = o.errorCode) (hnext : e.nextAttemptAt = o.nextAttemptAt)
    (hfinal : e.finalizedAt = o.finalizedAt) : projectsReceipt e a = true := by
  have htext : textMember o.toJson "delivery_state" = some o.deliveryState.text := by
    simp [textMember]
  simp [projectsReceipt, hjson, loads_encode, hstage, hlast, hstate, hcode, hnext, hfinal, htext,
    textMember_codeJson o.toJson_errorCode, timeMember_timeJson o.toJson_nextAttemptAt,
    timeMember_timeJson o.toJson_finalizedAt]

/-- What a finalization meets: admitted rows whose event shows the open attempt of its claim. -/
structure Finalizable (rows : Custody) (claim : OutboxClaim) (attempt : OutboxDeliveryAttempt) :
    Prop where
  projected : checkProjection rows = true
  unique : (rows.attempts.map fun a => a.claimGeneration).Nodup
  shown : matchesEvent rows.event claim = true
  found : rows.findAttempt claim = some attempt
  claim_eq : claimFromAttempt attempt = some claim

/-- The rows after a finalization are admitted exactly if they do not ask for another attempt after
an unknown effect of an unlisted event type. -/
theorem checkProjection_finalizeWrite {attempt : OutboxDeliveryAttempt}
    (h : Finalizable rows claim attempt) (sha256 : String → String) (o : Outcome)
    (hsettled : o.deliveryState ≠ .claimed) (decisionId : Uuid) :
    checkProjection (rows.apply
        (finalizeWrite rows.event attempt (receiptOf sha256 claim o) o decisionId)) = true ↔
      (o.invocationUnknown = true → o.deliveryState = .retryable →
        unknownRetryRegistered rows.event.eventType rows.event.eventVersion = true) := by
  obtain ⟨hlength, hatts, hunknown, hcur⟩ := checkProjection_iff.mp h.projected
  obtain ⟨hmem, hgen⟩ := Custody.findAttempt_eq_some h.found
  obtain ⟨hstate, -, -, -, hshown, -⟩ := matchesEvent_iff.mp h.shown
  have hsame : attempt.claimGeneration = rows.event.claimGeneration := by omega
  have hat : rows.attemptAt rows.event.claimGeneration = some attempt := by
    rw [← hsame]
    exact Table.find_of_mem h.unique hmem
  have hlast : rows.event.lastAttemptAt = some attempt.claimedAt := by
    rcases hcur with hzero | ⟨a, ha, hprojects⟩
    · have := claim.valid.2.1.1
      omega
    · rw [hat] at ha
      obtain rfl := Option.some.inj ha
      rw [projects, if_pos hstate] at hprojects
      exact (projectsClaim_iff.mp hprojects).2.2.2.2
  set write := finalizeWrite rows.event attempt (receiptOf sha256 claim o) o decisionId with hwrite
  have hjson : write.attempt.outcomeJson = some (encode o) := rfl
  have hnew : write.attempt ∈ (rows.apply write).attempts := Table.mem_replace_self hmem rfl
  constructor
  · intro hprojection hu hretryable
    exact (checkProjection_iff.mp hprojection).2.2.1 write.attempt hnew
      ((isUnknownRetry_encode hjson).mpr ⟨hu, hretryable⟩)
  · intro hlisted
    refine checkProjection_iff.mpr ⟨?_, ?_, ?_, ?_⟩
    · have hlen : (rows.apply write).attempts.length = rows.attempts.length := List.length_map _
      exact hlen.trans hlength
    · intro x hx
      rcases Table.mem_replace hx with rfl | ⟨hold, -⟩
      · obtain ⟨hle, hproj, hdig, hoccurred, -⟩ := hatts attempt hmem
        exact ⟨hle, hproj, hdig, hoccurred, fun _ => rfl⟩
      · exact hatts x hold
    · intro x hx hretry
      rcases Table.mem_replace hx with rfl | ⟨hold, -⟩
      · obtain ⟨hu, hretryable⟩ := (isUnknownRetry_encode hjson).mp hretry
        exact hlisted hu hretryable
      · exact hunknown x hold hretry
    · refine .inr ⟨write.attempt, ?_, ?_⟩
      · have hkey : (rows.apply write).event.claimGeneration = write.attempt.claimGeneration := hsame.symm
        rw [hkey]
        exact Table.find_replace_self (hsame ▸ hat)
      · have hstate' : (rows.apply write).event.deliveryState ≠ .claimed := hsettled
        rw [projects, if_neg hstate']
        exact projectsReceipt_encode rfl hjson hlast rfl rfl rfl rfl

end Workstream.Outbox
