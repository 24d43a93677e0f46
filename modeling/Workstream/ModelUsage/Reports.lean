import Workstream.ModelUsage.Calls

/-!
# Reports on a dispatched effect

The reports that either service takes about one dispatched effect: its outcome is uncertain, a response
has come back, the provider did nothing.
-/

namespace Workstream.ModelUsage
open Foundation

/-- The effect that a report is about, as its caller describes it. -/
inductive Subject where
  | checker (effect : ModelCallEffectAuthorityFacts)
  | setup (supplied : SetupModelEffectAuthorityFacts)

def Subject.id : Subject → Uuid
  | .checker effect => effect.attemptId
  | .setup supplied => supplied.effectId

/-- What a report says; a response is usable, or it is a known failure. -/
inductive Outcome where
  | uncertain (uncertaintyDigest : String) (providerResponseId : Option String)
  | response (usable : Bool) (providerResponseId providerModelSnapshot : String)
      (responseEvidence : ModelCallEvidence) (usage : ModelCallUsage)
  | noEffect (proof : KnownNoEffectProof)

/-- The report ends its effect. -/
def Outcome.isTerminal : Outcome → Bool
  | .uncertain _ _ => false
  | .response .. | .noEffect _ => true

def responseState (usable : Bool) : EffectState :=
  if usable then .completed else .knownFailed

/-- What the service returns for a report. -/
inductive Receipt where
  | dispatch (result : ModelDispatchReservation)
  | settled (result : SettledModelCall)
  | attempt (result : AttachedModelCallAttempt)
  | setupObserved (result : ObservedSetupModelUsageEffect)
  | setupSettled (result : CompletedSetupModelUsageEffect)
  | setupNoEffect (result : KnownNoEffectSetupModelUsageEffect)

/-- The receipt that says `replayed = true` and otherwise the same. -/
def Receipt.replay : Receipt → Receipt
  | .dispatch result => .dispatch { result with replayed := true }
  | .settled result => .settled { result with replayed := true }
  | .attempt result => .attempt { result with replayed := true }
  | .setupObserved result => .setupObserved { result with replayed := true }
  | .setupSettled result => .setupSettled { result with replayed := true }
  | .setupNoEffect result => .setupNoEffect { result with replayed := true }

/-- The call that makes a report, with its result. -/
def report (sha256 : String → String) (l : Ledger) (p : Ports) :
    Subject → Outcome → Except ModelCallError (Receipt × Ledger)
  | .checker effect, .uncertain uncertaintyDigest providerResponseId =>
    (markUncertain sha256 l p effect uncertaintyDigest providerResponseId).map (Prod.map .dispatch id)
  | .checker effect, .response true providerResponseId providerModelSnapshot responseEvidence usage =>
    (complete sha256 l p effect providerResponseId providerModelSnapshot responseEvidence usage).map
      (Prod.map .settled id)
  | .checker effect, .response false providerResponseId providerModelSnapshot responseEvidence usage =>
    (completeKnownFailure sha256 l p effect providerResponseId providerModelSnapshot responseEvidence
      usage).map (Prod.map .settled id)
  | .checker effect, .noEffect proof =>
    (markKnownNoEffect sha256 l p effect proof).map (Prod.map .attempt id)
  | .setup supplied, .uncertain uncertaintyDigest providerResponseId =>
    (setupMarkUncertain sha256 l p supplied uncertaintyDigest providerResponseId).map
      (Prod.map .setupObserved id)
  | .setup supplied, .response usable providerResponseId providerModelSnapshot responseEvidence usage =>
    (setupComplete sha256 l p supplied providerResponseId providerModelSnapshot responseEvidence usage
      usable).map (Prod.map .setupSettled id)
  | .setup supplied, .noEffect proof =>
    (setupMarkKnownNoEffect sha256 l p supplied proof).map (Prod.map .setupNoEffect id)

inductive PaidSlot where
  | checker (slot : CheckerModelUsageSlot)
  | setup (slot : SetupModelUsageSlot)

def PaidSlot.view : PaidSlot → SlotView
  | .checker slot => slot.view
  | .setup slot => slot.view

/-- The effect of a report, as its service finds it. -/
def Found (l : Ledger) (profile : ProjectModelProfile) (row : ModelUsageEffect) :
    Subject → PaidSlot → Prop
  | .checker effect, .checker slot => terminalPreflight l effect.attemptId = .ok (slot, profile) ∧
      lockTerminal l slot effect.attemptId = .ok row ∧ effect = effectFacts slot row
  | .setup supplied, .setup slot => setupTerminalPreflight l supplied.effectId = .ok (slot, profile) ∧
      setupLockTerminal l slot supplied.effectId = .ok row ∧ supplied = setupEffectFacts slot row
  | _, _ => False

/-- The answer about an effect that has ended. -/
def PaidSlot.receipt (row : ModelUsageEffect) (replayed : Bool) :
    PaidSlot → Outcome → Except ModelCallError Receipt
  | .checker slot, .noEffect _ => .ok (.attempt (attemptOf slot row replayed))
  | .checker _, _ => (settledResult row replayed).map .settled
  | .setup slot, .noEffect proof =>
    .ok (.setupNoEffect ⟨setupEffectFacts slot row, proof, replayed⟩)
  | .setup slot, _ => (setupCompleted row slot replayed).map .setupSettled

def Subject.authorize (sha256 : String → String) (p : Ports) :
    Subject → Outcome → Except ModelCallError ModelActionEvidence
  | .checker effect, .response usable responseId snapshot evidence usage =>
    ModelUsage.authorize sha256 p "complete" (completeFacts effect.toJson (some evidence) (responseDigest
      sha256 (responseState usable).text responseId snapshot evidence usage)) authorityUnavailable
  | .setup supplied, .response usable responseId snapshot evidence usage =>
    ModelUsage.authorize sha256 p "setup_complete" (completeFacts supplied.toJson (some evidence)
      (setupResponseDigest sha256 responseId snapshot evidence usage usable)) setupAuthorityUnavailable
  | .checker effect, .noEffect proof => ModelUsage.authorize sha256 p "complete"
    (completeFacts effect.toJson none (knownNoEffectDigest sha256 proof)) authorityUnavailable
  | .setup supplied, .noEffect proof => ModelUsage.authorize sha256 p "setup_complete"
    (completeFacts supplied.toJson none (knownNoEffectDigest sha256 proof)) setupAuthorityUnavailable
  | _, .uncertain _ _ => .error .port

namespace Outcome

/-- The checks of an outcome that read nothing but the profile. -/
def Fits (p : Ports) (profile : ProjectModelProfile) : Outcome → Prop
  | .response _ responseId snapshot evidence usage => isProviderResponseIdentifier responseId = true ∧
      p.evidence = true ∧
      snapshot = profile.spec.modelSnapshot ∧ evidence.byteCount ≤ profile.spec.maximumResponseBytes ∧
      modelUsageCost profile.spec.toProfileFields usage = .ok (profile.spec.price usage)
  | _ => True

/-- What a report costs. -/
def cost (profile : ProjectModelProfile) : Outcome → Nat
  | .response _ _ _ _ usage => profile.spec.price usage
  | _ => 0

/-- The row after the report. -/
def write (profile : ProjectModelProfile) (row : ModelUsageEffect) (evidenceId : Uuid) (now : Nat) :
    Outcome → ModelUsageEffect
  | .response usable responseId _ evidence usage =>
    settledRow row (responseState usable) responseId evidence usage (profile.spec.price usage) evidenceId now
  | .noEffect proof => noEffectRow row proof evidenceId now
  | .uncertain _ _ => row

/-- The row says that its effect has ended in this way. -/
def Recorded (profile : ProjectModelProfile) (row : ModelUsageEffect) : Outcome → Prop
  | .response usable responseId _ evidence usage => row.state = responseState usable ∧
      row.providerResponseId = some responseId ∧ row.responseEvidence = some evidence ∧
        row.usage = some usage ∧
      row.settledNanodollars = some (profile.spec.price usage)
  | .noEffect proof => row.state = .knownNoEffect ∧ row.noEffectProof = some proof
  | .uncertain _ _ => False

end Outcome

section Owned

variable {l : Ledger} {profile : ProjectModelProfile}

theorem owned_of_lockTerminal (hsound : l.Sound) {attemptId : Uuid} {slot : CheckerModelUsageSlot}
    {row : ModelUsageEffect} (hpre : terminalPreflight l attemptId = .ok (slot, profile))
    (hlock : lockTerminal l slot attemptId = .ok row) : Owned l row slot.view profile := by
  unfold terminalPreflight at hpre
  simp only [eq_ok] at hpre
  obtain ⟨_, _, _, _, _, hslot, _, hprof, rfl, rfl⟩ := hpre
  unfold lockTerminal at hlock
  simp only [eq_ok] at hlock
  obtain ⟨_, _, _, _, _, _, _, hrow, _, howner, rfl⟩ := hlock
  refine ⟨(Table.find_eq_some hrow).1, ?_, hprof⟩
  rw [howner]
  exact hsound.registry.view_of_slot (Table.find_eq_some hslot).1

theorem owned_of_setupLockTerminal (hsound : l.Sound) {effectId : Uuid} {slot : SetupModelUsageSlot}
    {row : ModelUsageEffect} (hpre : setupTerminalPreflight l effectId = .ok (slot, profile))
    (hlock : setupLockTerminal l slot effectId = .ok row) : Owned l row slot.view profile := by
  unfold setupTerminalPreflight at hpre
  simp only [eq_ok] at hpre
  obtain ⟨_, _, _, _, _, hslot, _, hprof, rfl, rfl⟩ := hpre
  unfold setupLockTerminal at hlock
  simp only [eq_ok] at hlock
  obtain ⟨_, _, _, _, _, _, _, hrow, _, howner, rfl⟩ := hlock
  refine ⟨(Table.find_eq_some hrow).1, ?_, (setupProfile_eq_ok hprof).1⟩
  rw [howner]
  exact hsound.registry.view_of_setupSlot (Table.find_eq_some hslot).1

end Owned

section Reports

variable {sha256 : String → String} {l l' : Ledger} {p : Ports} {profile : ProjectModelProfile}
  {row : ModelUsageEffect} {subject : Subject} {slot : PaidSlot} {outcome : Outcome} {receipt : Receipt}

theorem Found.owned (hsound : l.Sound) (h : Found l profile row subject slot) :
    Owned l row slot.view profile := by
  cases subject <;> cases slot <;> try exact h.elim
  · exact owned_of_lockTerminal hsound h.1 h.2.1
  · exact owned_of_setupLockTerminal hsound h.1 h.2.1

section Response

variable {usable : Bool} {responseId snapshot : String} {evidence : ModelCallEvidence}
  {usage : ModelCallUsage}

theorem requireSameSettlement_eq_ok {cost : Nat} {conflict : ModelCallError} {u : Unit} :
    requireSameSettlement row responseId evidence usage cost conflict = .ok u ↔
      row.providerResponseId = some responseId ∧ row.responseEvidence = some evidence ∧
      row.usage = some usage ∧ row.settledNanodollars = some cost := by
  simp [requireSameSettlement, storedEvidence, bind_eq_ok, require_eq_ok, required_eq_ok]

theorem report_response_checker {effect : ModelCallEffectAuthorityFacts} :
    report sha256 l p (.checker effect) (.response usable responseId snapshot evidence usage) =
      (completeAs sha256 l p (responseState usable) effect responseId snapshot evidence usage).map
        (Prod.map .settled id) := by
  cases usable <;> rfl

theorem terminal_responseState : responseState usable = .completed ∨ responseState usable = .knownFailed := by
  cases usable with
  | true => exact .inl rfl
  | false => exact .inr rfl

end Response

/-- What a report on the end of an effect has checked, and what it has done: the row says the same
already, or the outcome is written into it. -/
theorem report_eq_ok (hends : outcome.isTerminal = true)
    (h : report sha256 l p subject outcome = .ok (receipt, l')) :
    ∃ slot profile row decision, Found l profile row subject slot ∧
      subject.authorize sha256 p outcome = .ok decision ∧ outcome.Fits p profile ∧
      (outcome.Recorded profile row ∧ slot.receipt row true outcome = .ok receipt ∧ l' = l ∨
        row.state.isPending = true ∧ ∃ l₁, settle l row slot.view.projectId (outcome.cost profile) = .ok l₁ ∧
          slot.receipt (outcome.write profile row decision.evidenceId p.now) false outcome = .ok receipt ∧
          l' = l₁.putEffect (outcome.write profile row decision.evidenceId p.now)) := by
  cases outcome with
  | uncertain => cases hends
  | response usable responseId snapshot evidence usage =>
    cases subject with
    | checker effect =>
      rw [report_response_checker] at h
      obtain ⟨⟨result, _⟩, hcall, heq⟩ := map_eq_ok.mp h
      cases heq
      unfold completeAs providerResponse requireEffect at hcall
      simp only [eq_ok] at hcall
      obtain ⟨_, ⟨_, hid, rfl⟩, decision, hdec, _, hevid, ⟨slot, profile⟩, hpre, _,
        ⟨hsnap, hbytes⟩, cost, hcost, row, hlock, _, heff, hcall⟩ := hcall
      obtain ⟨rfl, -⟩ := modelUsageCost_eq_ok hcost
      refine ⟨.checker slot, profile, row, decision, ⟨hpre, hlock, heff⟩, hdec,
        ⟨hid, hevid, hsnap, hbytes, hcost⟩, ?_⟩
      split at hcall
      · rename_i hstate
        simp only [eq_ok, requireSameSettlement_eq_ok] at hcall
        obtain ⟨_, hsame, _, hres, rfl, rfl⟩ := hcall
        exact .inl ⟨⟨hstate, hsame⟩, map_eq_ok.mpr ⟨_, hres, rfl⟩, rfl⟩
      · simp only [eq_ok] at hcall
        obtain ⟨_, hpend, _, _, l₁, hsettle, _, hres, rfl, rfl⟩ := hcall
        exact .inr ⟨requirePending_eq_ok hpend, l₁, hsettle, map_eq_ok.mpr ⟨_, hres, rfl⟩, rfl⟩
    | setup =>
      obtain ⟨⟨result, _⟩, hcall, heq⟩ := map_eq_ok.mp h
      cases heq
      unfold setupComplete providerResponse requireSetupEffect at hcall
      simp only [eq_ok] at hcall
      obtain ⟨_, ⟨_, hid, rfl⟩, decision, hdec, _, hevid, ⟨slot, profile⟩, hpre, _,
        ⟨hsnap, hbytes⟩, cost, hcost, row, hlock, _, heff, hcall⟩ := hcall
      obtain ⟨rfl, -⟩ := modelUsageCost_eq_ok hcost
      refine ⟨.setup slot, profile, row, decision, ⟨hpre, hlock, heff⟩, hdec,
        ⟨hid, hevid, hsnap, hbytes, hcost⟩, ?_⟩
      split at hcall
      · simp only [eq_ok, requireSameSettlement_eq_ok] at hcall
        obtain ⟨_, hstate, _, hsame, _, hres, rfl, rfl⟩ := hcall
        exact .inl ⟨⟨hstate, hsame⟩, map_eq_ok.mpr ⟨_, hres, rfl⟩, rfl⟩
      · simp only [eq_ok] at hcall
        obtain ⟨_, hpend, _, _, l₁, hsettle, _, hres, rfl, rfl⟩ := hcall
        exact .inr ⟨requirePending_eq_ok hpend, l₁, hsettle, map_eq_ok.mpr ⟨_, hres, rfl⟩, rfl⟩
  | noEffect proof =>
    cases subject with
    | checker effect =>
      obtain ⟨⟨result, _⟩, hcall, heq⟩ := map_eq_ok.mp h
      cases heq
      unfold markKnownNoEffect requireEffect at hcall
      simp only [eq_ok] at hcall
      obtain ⟨decision, hdec, ⟨slot, profile⟩, hpre, row, hlock, _, heff, hcall⟩ := hcall
      refine ⟨.checker slot, profile, row, decision, ⟨hpre, hlock, heff⟩, hdec, trivial, ?_⟩
      split at hcall
      · rename_i hstate
        simp only [eq_ok] at hcall
        obtain ⟨_, hproof, rfl, rfl⟩ := hcall
        exact .inl ⟨⟨hstate, hproof⟩, rfl, rfl⟩
      · simp only [eq_ok] at hcall
        obtain ⟨_, hpend, _, _, l₁, hsettle, rfl, rfl⟩ := hcall
        exact .inr ⟨requirePending_eq_ok hpend, l₁, hsettle, rfl, rfl⟩
    | setup supplied =>
      obtain ⟨⟨result, _⟩, hcall, heq⟩ := map_eq_ok.mp h
      cases heq
      unfold setupMarkKnownNoEffect requireSetupEffect at hcall
      simp only [eq_ok] at hcall
      obtain ⟨decision, hdec, ⟨slot, profile⟩, hpre, row, hlock, _, heff, hcall⟩ := hcall
      refine ⟨.setup slot, profile, row, decision, ⟨hpre, hlock, heff⟩, hdec, trivial, ?_⟩
      split at hcall
      · rename_i hstate
        simp only [eq_ok] at hcall
        obtain ⟨_, hproof, rfl, rfl⟩ := hcall
        exact .inl ⟨⟨hstate, hproof⟩, rfl, rfl⟩
      · simp only [eq_ok] at hcall
        obtain ⟨_, hpend, _, _, l₁, hsettle, rfl, rfl⟩ := hcall
        exact .inr ⟨requirePending_eq_ok hpend, l₁, hsettle, rfl, rfl⟩

/-- A report that says what the row says is answered from the row. -/
theorem report_of_recorded {decision : ModelActionEvidence} (hfound : Found l profile row subject slot)
    (hdec : subject.authorize sha256 p outcome = .ok decision) (hfits : outcome.Fits p profile)
    (hrec : outcome.Recorded profile row) (hrcpt : slot.receipt row true outcome = .ok receipt) :
    report sha256 l p subject outcome = .ok (receipt, l) := by
  cases outcome with
  | uncertain => exact hrec.elim
  | response =>
    obtain ⟨hid, hevid, hsnap, hbytes, hcost⟩ := hfits
    obtain ⟨hstate, hsame⟩ := hrec
    cases subject <;> cases slot <;> try exact hfound.elim
    case checker.checker effect slot =>
      obtain ⟨hpre, hlock, heff⟩ := hfound
      obtain ⟨result, hres, rfl⟩ := map_eq_ok.mp hrcpt
      rw [report_response_checker, map_eq_ok]
      refine ⟨(result, l), ?_, rfl⟩
      simp only [completeAs, providerResponse, requireEffect, eq_ok]
      refine ⟨_, ⟨(), hid, rfl⟩, decision, hdec, (), hevid, (slot, profile), hpre, (),
        ⟨hsnap, hbytes⟩, _, hcost, row, hlock, (), heff, ?_⟩
      rw [if_pos hstate]
      simp only [bind_eq_ok, requireSameSettlement_eq_ok]
      exact ⟨(), hsame, result, hres, rfl⟩
    case setup.setup supplied slot =>
      obtain ⟨hpre, hlock, heff⟩ := hfound
      obtain ⟨result, hres, rfl⟩ := map_eq_ok.mp hrcpt
      refine map_eq_ok.mpr ⟨(result, l), ?_, rfl⟩
      simp only [setupComplete, providerResponse, requireSetupEffect, eq_ok]
      refine ⟨_, ⟨(), hid, rfl⟩, decision, hdec, (), hevid, (slot, profile), hpre, (),
        ⟨hsnap, hbytes⟩, _, hcost, row, hlock, (), heff, ?_⟩
      rw [if_pos (hstate ▸ terminal_responseState)]
      simp only [bind_eq_ok, require_eq_ok, requireSameSettlement_eq_ok]
      exact ⟨(), hstate, (), hsame, result, hres, rfl⟩
  | noEffect proof =>
    obtain ⟨hstate, hproof⟩ := hrec
    cases subject <;> cases slot <;> try exact hfound.elim
    case checker.checker effect slot =>
      obtain ⟨hpre, hlock, heff⟩ := hfound
      cases hrcpt
      refine map_eq_ok.mpr ⟨(attemptOf slot row true, l), ?_, rfl⟩
      simp only [markKnownNoEffect, requireEffect, eq_ok]
      refine ⟨decision, hdec, (slot, profile), hpre, row, hlock, (), heff, ?_⟩
      rw [if_pos hstate, bind_eq_ok]
      exact ⟨(), require_eq_ok.mpr hproof, rfl⟩
    case setup.setup supplied slot =>
      obtain ⟨hpre, hlock, heff⟩ := hfound
      cases hrcpt
      refine map_eq_ok.mpr ⟨(⟨setupEffectFacts slot row, proof, true⟩, l), ?_, rfl⟩
      simp only [setupMarkKnownNoEffect, requireSetupEffect, eq_ok]
      refine ⟨decision, hdec, (slot, profile), hpre, row, hlock, (), heff, ?_⟩
      rw [if_pos hstate, bind_eq_ok]
      exact ⟨(), require_eq_ok.mpr hproof, rfl⟩

theorem report_uncertain_eq_ok {digest : String} {responseId : Option String}
    (h : report sha256 l p subject (.uncertain digest responseId) = .ok (receipt, l')) :
    ∃ slot profile row, Found l profile row subject slot ∧ (row.state = .uncertain ∧ l' = l ∨
      row.state = .dispatching ∧ ∃ digest evidenceId,
        l' = l.putEffect (uncertainRow row digest responseId evidenceId)) := by
  cases subject with
  | checker effect =>
    obtain ⟨⟨result, _⟩, hcall, heq⟩ := map_eq_ok.mp h
    cases heq
    unfold markUncertain requireEffect at hcall
    simp only [eq_ok] at hcall
    obtain ⟨_, _, _, _, _, _, ⟨slot, profile⟩, hpre, row, hlock, _, heff, hcall⟩ := hcall
    refine ⟨.checker slot, profile, row, ⟨hpre, hlock, heff⟩, ?_⟩
    split at hcall
    · rename_i hstate
      simp only [eq_ok] at hcall
      obtain ⟨_, _, _, _, _, rfl⟩ := hcall
      exact .inl ⟨hstate, rfl⟩
    · simp only [eq_ok] at hcall
      obtain ⟨_, hstate, _, _, _, rfl⟩ := hcall
      exact .inr ⟨hstate, _, _, rfl⟩
  | setup supplied =>
    obtain ⟨⟨result, _⟩, hcall, heq⟩ := map_eq_ok.mp h
    cases heq
    unfold setupMarkUncertain requireSetupEffect at hcall
    simp only [eq_ok] at hcall
    obtain ⟨_, _, _, _, _, _, ⟨slot, profile⟩, hpre, row, hlock, _, heff, hcall⟩ := hcall
    refine ⟨.setup slot, profile, row, ⟨hpre, hlock, heff⟩, ?_⟩
    split at hcall
    · rename_i hstate
      simp only [eq_ok] at hcall
      obtain ⟨_, _, _, rfl⟩ := hcall
      exact .inl ⟨hstate, rfl⟩
    · simp only [eq_ok] at hcall
      obtain ⟨_, hstate, _, rfl⟩ := hcall
      exact .inr ⟨hstate, _, _, rfl⟩

theorem report_reaches (hsound : l.Sound) (h : report sha256 l p subject outcome = .ok (receipt, l')) :
    Reaches l l' := by
  cases hends : outcome.isTerminal with
  | false =>
    cases outcome with
    | uncertain =>
      obtain ⟨slot, profile, row, hfound, ⟨-, rfl⟩ | ⟨hstate, _, _, rfl⟩⟩ := report_uncertain_eq_ok h
      · exact .refl _
      · exact .single (.uncertain _ _ _ (hfound.owned hsound).mem hstate)
    | response => cases hends
    | noEffect => cases hends
  | true =>
    obtain ⟨slot, profile, row, decision, hfound, -, hfits, ⟨-, -, rfl⟩ | ⟨hpend, l₁, hsettle, -, rfl⟩⟩ :=
      report_eq_ok hends h
    · exact .refl _
    · have howned := hfound.owned hsound
      obtain ⟨account, reserved, hacct, hresv, hcov, rfl⟩ := settle_eq_ok hsettle
      cases outcome with
      | uncertain => cases hends
      | response usable responseId snapshot evidence usage =>
        obtain ⟨-, -, -, hbytes, hcost⟩ := hfits
        obtain ⟨-, hinput, houtput⟩ := modelUsageCost_eq_ok hcost
        exact .single (.settled _ responseId evidence usage _ _ howned hpend terminal_responseState hbytes
          hinput houtput hacct hresv hcov)
      | noEffect proof => exact .single (.released proof _ _ howned hpend hacct hresv hcov)

end Reports

end Workstream.ModelUsage
