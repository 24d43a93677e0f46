import Workstream.Outbox.Api

/-!
# Delivery outcomes

`outcome` is the decision table of `_outcome`; `encode` is the canonical text that is stored and hashed.
-/

namespace Workstream.Outbox
open Foundation

/-- The dictionary `_outcome` returns, with its texts read as the values they denote. -/
structure Outcome where
  deliveryState : DeliveryState
  errorCode : Option ErrorCode
  nextAttemptAt : Option Nat
  finalizedAt : Option Nat
  receiptCompletedAt : Nat
  invocationUnknown : Bool
  invokedAt : Option Nat

def retryDelay (options : DeliveryOptions) (generation : Nat) : Nat :=
  min options.retryCapSeconds (options.retryBaseSeconds * 2 ^ min (generation - 1) 30)

/-- Map a disposition to the outcome at a database time. -/
def outcome (claim : OutboxClaim) (invokedAt : Option Nat) (cause : FinalizationCause)
    (now : Nat) (options : DeliveryOptions) (retryUnknown : Bool) :
    Except DeliveryError Outcome :=
  let expired := claim.claimExpiresAt ≤ now
  if (invokedAt = none ∧ (cause ≠ .expired ∨ ¬expired)) ∨ (cause = .expired ∧ ¬expired) then
    .error unavailable
  else
    let unknown : Bool := invokedAt.isSome ∧ (expired ∨ cause = .unknown)
    let retry := DateTime.addSeconds now (retryDelay options claim.claimGeneration)
    let (state, code, nextAttemptAt) : DeliveryState × Option ErrorCode × Option Nat :=
      if unknown then
        if retryUnknown ∧ claim.claimGeneration < options.maxAttempts then
          (.retryable, some .invokeOutcomeUnknown, some retry)
        else (.deadLetter, some .invokeOutcomeUnknown, none)
      else if cause = .acknowledge then (.acknowledged, none, none)
      else if cause = .retry ∨ cause = .expired then
        if options.maxAttempts ≤ claim.claimGeneration then
          (.deadLetter, some .attemptsExhausted, none)
        else
          (.retryable, some (if invokedAt.isSome then .retryRequested else .leaseExpiredBeforeInvoke),
            some retry)
      else (.deadLetter, some .handlerRejected, none)
    .ok
      { deliveryState := state
        errorCode := code
        nextAttemptAt := nextAttemptAt
        finalizedAt := if state = .retryable then none else some now
        receiptCompletedAt := now
        invocationUnknown := unknown
        invokedAt := invokedAt }

def Outcome.again (code : ErrorCode) (retry now : Nat) (unknown : Bool)
    (invokedAt : Option Nat) : Outcome :=
  ⟨.retryable, some code, some retry, none, now, unknown, invokedAt⟩

def Outcome.final (state : DeliveryState) (code : Option ErrorCode) (now : Nat) (unknown : Bool)
    (invokedAt : Option Nat) : Outcome :=
  ⟨state, code, none, some now, now, unknown, invokedAt⟩

/-- Every way `outcome` can end in an outcome: the marker, the cause and the time that lead to it,
and the outcome itself. -/
inductive OutcomeRow (claim : OutboxClaim) (options : DeliveryOptions) (retryUnknown : Bool) :
    Option Nat → FinalizationCause → Nat → Outcome → Prop
  | unknownRetry {t now : Nat} {cause : FinalizationCause}
      (hunknown : claim.claimExpiresAt ≤ now ∨ cause = .unknown)
      (hexpired : cause = .expired → claim.claimExpiresAt ≤ now) (hsafe : retryUnknown = true)
      (hgeneration : claim.claimGeneration < options.maxAttempts) :
      OutcomeRow claim options retryUnknown (some t) cause now
        (.again .invokeOutcomeUnknown
          (DateTime.addSeconds now (retryDelay options claim.claimGeneration)) now true (some t))
  | unknownFinal {t now : Nat} {cause : FinalizationCause}
      (hunknown : claim.claimExpiresAt ≤ now ∨ cause = .unknown)
      (hexpired : cause = .expired → claim.claimExpiresAt ≤ now)
      (hstop : ¬(retryUnknown = true ∧ claim.claimGeneration < options.maxAttempts)) :
      OutcomeRow claim options retryUnknown (some t) cause now
        (.final .deadLetter (some .invokeOutcomeUnknown) now true (some t))
  | acknowledged {t now : Nat} (htime : now < claim.claimExpiresAt) :
      OutcomeRow claim options retryUnknown (some t) .acknowledge now
        (.final .acknowledged none now false (some t))
  | rejected {t now : Nat} (htime : now < claim.claimExpiresAt) :
      OutcomeRow claim options retryUnknown (some t) .reject now
        (.final .deadLetter (some .handlerRejected) now false (some t))
  | retryRequested {t now : Nat} (htime : now < claim.claimExpiresAt)
      (hgeneration : claim.claimGeneration < options.maxAttempts) :
      OutcomeRow claim options retryUnknown (some t) .retry now
        (.again .retryRequested
          (DateTime.addSeconds now (retryDelay options claim.claimGeneration)) now false (some t))
  | retryExhausted {t now : Nat} (htime : now < claim.claimExpiresAt)
      (hgeneration : options.maxAttempts ≤ claim.claimGeneration) :
      OutcomeRow claim options retryUnknown (some t) .retry now
        (.final .deadLetter (some .attemptsExhausted) now false (some t))
  | leaseExpired {now : Nat} (htime : claim.claimExpiresAt ≤ now)
      (hgeneration : claim.claimGeneration < options.maxAttempts) :
      OutcomeRow claim options retryUnknown none .expired now
        (.again .leaseExpiredBeforeInvoke
          (DateTime.addSeconds now (retryDelay options claim.claimGeneration)) now false none)
  | leaseExhausted {now : Nat} (htime : claim.claimExpiresAt ≤ now)
      (hgeneration : options.maxAttempts ≤ claim.claimGeneration) :
      OutcomeRow claim options retryUnknown none .expired now
        (.final .deadLetter (some .attemptsExhausted) now false none)

theorem outcome_eq_ok_iff {claim : OutboxClaim} {invokedAt : Option Nat}
    {cause : FinalizationCause} {now : Nat} {options : DeliveryOptions} {retryUnknown : Bool}
    {o : Outcome} :
    outcome claim invokedAt cause now options retryUnknown = .ok o ↔
      OutcomeRow claim options retryUnknown invokedAt cause now o := by
  constructor
  · intro h
    by_cases hexp : claim.claimExpiresAt ≤ now
    · by_cases hgen : claim.claimGeneration < options.maxAttempts
      · cases invokedAt with
        | none =>
          cases cause <;> simp [outcome, hexp, Nat.not_le.mpr hgen] at h
          rw [← h]
          exact .leaseExpired hexp hgen
        | some t =>
          cases hsafe : retryUnknown with
          | true =>
            simp [outcome, hexp, hgen, hsafe] at h
            rw [← h]
            exact .unknownRetry (.inl hexp) (fun _ => hexp) rfl hgen
          | false =>
            simp [outcome, hexp, hsafe] at h
            rw [← h]
            exact .unknownFinal (.inl hexp) (fun _ => hexp) (by simp)
      · cases invokedAt with
        | none =>
          cases cause <;> simp [outcome, hexp, Nat.not_lt.mp hgen] at h
          rw [← h]
          exact .leaseExhausted hexp (Nat.not_lt.mp hgen)
        | some t =>
          simp [outcome, hexp, hgen] at h
          rw [← h]
          exact .unknownFinal (.inl hexp) (fun _ => hexp) (by simp [hgen])
    · have htime : now < claim.claimExpiresAt := Nat.lt_of_not_le hexp
      cases invokedAt with
      | none => simp [outcome, hexp] at h
      | some t =>
        cases cause with
        | acknowledge =>
          simp [outcome, hexp] at h
          rw [← h]
          exact .acknowledged htime
        | reject =>
          simp [outcome, hexp] at h
          rw [← h]
          exact .rejected htime
        | expired => simp [outcome, hexp] at h
        | retry =>
          by_cases hgen : options.maxAttempts ≤ claim.claimGeneration
          · simp [outcome, hexp, hgen] at h
            rw [← h]
            exact .retryExhausted htime hgen
          · simp [outcome, hexp, hgen] at h
            rw [← h]
            exact .retryRequested htime (Nat.lt_of_not_le hgen)
        | unknown =>
          by_cases hsafe : retryUnknown = true ∧ claim.claimGeneration < options.maxAttempts
          · simp [outcome, hexp, hsafe] at h
            rw [← h]
            exact .unknownRetry (.inr rfl) (by simp) hsafe.1 hsafe.2
          · simp [outcome, hexp, hsafe] at h
            rw [← h]
            exact .unknownFinal (.inr rfl) (by simp) hsafe
  · intro h
    cases h with
    | unknownRetry hunknown hexp hsafe hgen =>
      simpa [outcome, hunknown, hsafe, hgen, Outcome.again] using hexp
    | unknownFinal hunknown hexp hstop =>
      simpa [outcome, hunknown, hstop, Outcome.final] using hexp
    | acknowledged htime | rejected htime => simp [outcome, Nat.not_le.mpr htime, Outcome.final]
    | retryRequested htime hgen =>
      simp [outcome, Nat.not_le.mpr htime, Nat.not_le.mpr hgen, Outcome.again]
    | retryExhausted htime hgen =>
      simp [outcome, Nat.not_le.mpr htime, hgen, Outcome.final]
    | leaseExpired htime hgen =>
      simp [outcome, htime, Nat.not_le.mpr hgen, Outcome.again]
    | leaseExhausted htime hgen => simp [outcome, htime, hgen, Outcome.final]

theorem outcome_eq_error {claim : OutboxClaim} {invokedAt : Option Nat} {cause : FinalizationCause}
    {now : Nat} {options : DeliveryOptions} {retryUnknown : Bool} {e : DeliveryError}
    (h : outcome claim invokedAt cause now options retryUnknown = .error e) : e = unavailable := by
  unfold outcome at h
  dsimp only at h
  split at h
  · injection h with h
    exact h.symm
  · cases h

namespace OutcomeRow

variable {claim : OutboxClaim} {options : DeliveryOptions} {retryUnknown : Bool}
  {invokedAt : Option Nat} {cause : FinalizationCause} {now : Nat} {o : Outcome}

theorem receiptCompletedAt_eq (h : OutcomeRow claim options retryUnknown invokedAt cause now o) :
    o.receiptCompletedAt = now := by
  cases h <;> rfl

theorem invokedAt_eq (h : OutcomeRow claim options retryUnknown invokedAt cause now o) :
    o.invokedAt = invokedAt := by
  cases h <;> rfl

theorem deliveryState_cases (h : OutcomeRow claim options retryUnknown invokedAt cause now o) :
    o.deliveryState = .retryable ∨ o.deliveryState = .acknowledged ∨ o.deliveryState = .deadLetter := by
  cases h <;> simp [Outcome.again, Outcome.final]

theorem expired_of_cause (h : OutcomeRow claim options retryUnknown invokedAt cause now o)
    (hcause : cause = .expired) : claim.claimExpiresAt ≤ now := by
  cases h with
  | unknownRetry hunknown hexp | unknownFinal hunknown hexp => exact hexp hcause
  | leaseExpired htime => exact htime
  | leaseExhausted htime => exact htime
  | _ => cases hcause

/-- Another attempt has a time and attempts left; every other outcome is final. -/
theorem shape (h : OutcomeRow claim options retryUnknown invokedAt cause now o) :
    (o.deliveryState = .retryable ∧ o.errorCode.isSome = true ∧ o.finalizedAt = none ∧
        (∃ t, o.nextAttemptAt = some t ∧ now ≤ t) ∧ claim.claimGeneration < options.maxAttempts) ∨
      ((o.deliveryState = .acknowledged ∨ (o.deliveryState = .deadLetter ∧ o.errorCode.isSome = true)) ∧
        o.finalizedAt = some now ∧ o.nextAttemptAt = none) := by
  have hretry : now ≤ DateTime.addSeconds now (retryDelay options claim.claimGeneration) :=
    Nat.le_add_right _ _
  cases h with
  | unknownRetry hunknown hexp hsafe hgen | retryRequested htime hgen | leaseExpired htime hgen =>
    exact .inl ⟨rfl, rfl, rfl, ⟨_, rfl, hretry⟩, hgen⟩
  | acknowledged => exact .inr ⟨.inl rfl, rfl, rfl⟩
  | _ => exact .inr ⟨.inr ⟨rfl, rfl⟩, rfl, rfl⟩

/-- Only the handler's own request in time, or an explicitly replay-safe handler, leads from a
committed marker to another attempt. -/
theorem retryable_of_invoked (h : OutcomeRow claim options retryUnknown invokedAt cause now o)
    (hstate : o.deliveryState = .retryable) (hinv : invokedAt ≠ none)
    (hsafe : retryUnknown = false) :
    cause = .retry ∧ o.errorCode = some .retryRequested ∧ o.invocationUnknown = false ∧
      o.receiptCompletedAt < claim.claimExpiresAt := by
  cases h with
  | unknownRetry hunknown hexp hsafe' => rw [hsafe] at hsafe'; cases hsafe'
  | retryRequested htime => exact ⟨rfl, rfl, rfl, htime⟩
  | leaseExpired => exact absurd rfl hinv
  | _ => cases hstate

end OutcomeRow

def timeJson : Option Nat → Json
  | some t => .str (DateTime.isoformat t)
  | none => .null

def codeJson : Option ErrorCode → Json
  | some code => .str code.text
  | none => .null

def Outcome.toJson (o : Outcome) : Json :=
  .obj [
    ("delivery_state", .str o.deliveryState.text),
    ("error_code", codeJson o.errorCode),
    ("finalized_at", timeJson o.finalizedAt),
    ("invocation_unknown", .bool o.invocationUnknown),
    ("invoked_at", timeJson o.invokedAt),
    ("next_attempt_at", timeJson o.nextAttemptAt),
    ("receipt_completed_at", timeJson (some o.receiptCompletedAt))]

/-- The stored text of an outcome. -/
def encode (o : Outcome) : String := Json.dumps o.toJson

def readTime : Json → Option (Option Nat)
  | .str text => (DateTime.fromIsoformat text).map some
  | .null => some none
  | _ => none

def readState : Json → Option DeliveryState
  | .str text => DeliveryState.ofText text
  | _ => none

def readCode : Json → Option (Option ErrorCode)
  | .str text => (ErrorCode.ofText text).map some
  | .null => some none
  | _ => none

def readBool : Json → Option Bool
  | .bool b => some b
  | _ => none

def decode (text : String) : Option Outcome := do
  let value ← Json.loads text
  let state ← value.get? "delivery_state" >>= readState
  let code ← value.get? "error_code" >>= readCode
  let retry ← value.get? "next_attempt_at" >>= readTime
  let finalized ← value.get? "finalized_at" >>= readTime
  let completed ← value.get? "receipt_completed_at" >>= readTime
  let completed ← completed
  let unknown ← value.get? "invocation_unknown" >>= readBool
  let invoked ← value.get? "invoked_at" >>= readTime
  some ⟨state, code, retry, finalized, completed, unknown, invoked⟩

theorem distinctKeys_toJson (o : Outcome) : o.toJson.DistinctKeys := by
  have htime : ∀ t, (timeJson t).DistinctKeys := by
    intro t
    cases t <;> trivial
  have hcode : (codeJson o.errorCode).DistinctKeys := by
    cases o.errorCode <;> trivial
  have hkeys : ["delivery_state", "error_code", "finalized_at", "invocation_unknown", "invoked_at",
      "next_attempt_at", "receipt_completed_at"].Nodup := by decide
  exact ⟨hkeys, trivial, hcode, htime _, trivial, htime _, htime _, htime _, trivial⟩

@[simp] theorem canon_timeJson (t : Option Nat) : (timeJson t).canon = timeJson t := by
  cases t <;> rfl

@[simp] theorem canon_codeJson (code : Option ErrorCode) : (codeJson code).canon = codeJson code := by
  cases code <;> rfl

theorem canon_toJson (o : Outcome) : o.toJson.canon = o.toJson := by
  have hkeys : ["delivery_state", "error_code", "finalized_at", "invocation_unknown", "invoked_at",
      "next_attempt_at", "receipt_completed_at"].Pairwise (· ≤ ·) := by decide
  rw [Outcome.toJson, Json.canon_obj_of_sorted]
  · simp [Json.canonFields, Json.canon]
  · exact hkeys

@[simp] theorem readTime_timeJson (t : Option Nat) : readTime (timeJson t) = some t := by
  cases t with
  | none => rfl
  | some t => simp [timeJson, readTime, DateTime.fromIsoformat_isoformat]

@[simp] theorem readCode_codeJson (code : Option ErrorCode) :
    readCode (codeJson code) = some code := by
  cases code <;> simp [codeJson, readCode]

/-- The stored text determines the outcome. -/
@[simp] theorem decode_encode (o : Outcome) : decode (encode o) = some o := by
  rw [decode, encode, Json.loads_dumps (distinctKeys_toJson o), canon_toJson]
  simp [Outcome.toJson, readState, readBool]

theorem encode_injective {o p : Outcome} (h : encode o = encode p) : o = p := by
  have hread := decode_encode o
  rw [h, decode_encode] at hread
  exact (Option.some.inj hread).symm

end Workstream.Outbox
