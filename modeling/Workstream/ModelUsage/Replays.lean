import Workstream.ModelUsage.Handles

/-!
# Settlement happens once

Once a report has ended an effect, no call of either service changes its row.
-/

namespace Workstream.ModelUsage
open Foundation

/-- Ports that answer a call as others did: authority over the same facts, and the same about the
evidence. -/
structure Ports.AnswerAs (p' p : Ports) : Prop where
  authority : p'.authority.map (·.factsDigest) = p.authority.map (·.factsDigest)
  evidence : p'.evidence = p.evidence

section Replay

variable {sha256 : String → String} {l l₁ l₂ : Ledger} {p p' : Ports} {profile profile' : ProjectModelProfile}
  {row row₂ : ModelUsageEffect} {subject subject' : Subject} {slot slot' : PaidSlot}
  {outcome outcome' : Outcome} {receipt : Receipt}

theorem authorize_answerAs (hports : p'.AnswerAs p) {action : String} {facts : Json}
    {error : ModelCallError} {evidence : ModelActionEvidence}
    (h : authorize sha256 p action facts error = .ok evidence) :
    ∃ evidence', authorize sha256 p' action facts error = .ok evidence' := by
  unfold authorize at h ⊢
  simp only [eq_ok] at h ⊢
  obtain ⟨_, hauth, _, hdig, rfl⟩ := h
  obtain ⟨evidence', hauth', hsame⟩ := Option.map_eq_some_iff.mp
    (hports.authority.trans (congrArg (Option.map _) hauth))
  exact ⟨evidence', evidence', hauth', (), hsame.trans hdig, rfl⟩

theorem Subject.authorize_answerAs (hports : p'.AnswerAs p) {decision : ModelActionEvidence}
    (h : subject.authorize sha256 p outcome = .ok decision) :
    ∃ decision', subject.authorize sha256 p' outcome = .ok decision' := by
  cases subject <;> cases outcome <;> first | exact ModelUsage.authorize_answerAs hports h | cases h

theorem Outcome.Fits.answerAs (hports : p'.AnswerAs p) (h : outcome.Fits p profile) :
    outcome.Fits p' profile := by
  cases outcome with
  | response => exact ⟨h.1, hports.evidence.trans h.2.1, h.2.2⟩
  | uncertain | noEffect => trivial

theorem attempt_of_same (hsound : l₂.Sound) {id : Uuid} (hfound : l.attempt id = some row)
    (hrow : row₂ ∈ l₂.effects) (hsame : row.Same row₂) : l₂.attempt id = some row₂ := by
  have hid : row₂.id = id := hsame.id.trans (Table.find_eq_some hfound).2
  rw [← hid]
  exact Table.find_of_mem hsound.effectIds hrow

theorem Found.attempt (h : Found l profile row subject slot) :
    l.attempt subject.id = some row ∧ row.owner.kind = match subject with
      | .checker _ => OwnerKind.checker
      | .setup _ => .setup := by
  cases subject <;> cases slot <;> try exact h.elim
  all_goals
    have hlock := h.2.1
    simp only [lockTerminal, setupLockTerminal, eq_ok] at hlock
    obtain ⟨_, _, _, _, _, _, _, hfound, _, howner, rfl⟩ := hlock
    exact ⟨hfound, by rw [howner]⟩

theorem Found.later (hsound : l.Sound) (hreach : Reaches l l₂) (h : Found l profile row subject slot)
    (hrow : row₂ ∈ l₂.effects) (hsame : row.Same row₂) : Found l₂ profile row₂ subject slot := by
  have hsound₂ := hreach.sound hsound
  have hgrows := hreach.grows
  cases subject <;> cases slot <;> try exact h.elim
  case checker.checker effect slot =>
    obtain ⟨hpre, hlock, heff⟩ := h
    simp only [Found, effectFacts, hsame.id, hsame.internalCallRequestId]
    simp only [terminalPreflight, lockTerminal, eq_ok] at hpre hlock ⊢
    obtain ⟨_, _, _, _, slot, hslot, _, hprof, rfl, rfl⟩ := hpre
    obtain ⟨_, henv, lockedSlot, hlocked, _, hid, _, hfound, _, howner, rfl⟩ := hlock
    have hfound₂ := attempt_of_same hsound₂ hfound hrow hsame
    have howner₂ := hsame.owner.trans howner
    have hslot₂ : l₂.slotById row₂.owner.id = some slot := by
      rw [howner₂]
      exact Table.find_of_mem hsound₂.registry.checkerSlotIds
        (hgrows.checkerSlots.subset (Table.find_eq_some hslot).1)
    exact ⟨⟨row₂, hfound₂, (), by rw [howner₂], _, hslot₂, _, hgrows.profile hprof, rfl, rfl⟩,
      ⟨_, hgrows.checkerEnvelopes.find?_eq_some henv, lockedSlot,
        hgrows.checkerSlots.find?_eq_some hlocked, (), hid, row₂, hfound₂, (), howner₂, rfl⟩, heff⟩
  case setup.setup supplied slot =>
    obtain ⟨hpre, hlock, heff⟩ := h
    simp only [Found, setupEffectFacts, hsame.id, hsame.internalCallRequestId]
    simp only [setupTerminalPreflight, setupProfile, setupLockTerminal, eq_ok] at hpre hlock ⊢
    obtain ⟨_, _, _, _, slot, hslot, _, ⟨_, hprof, _, hproj, rfl⟩, rfl, rfl⟩ := hpre
    obtain ⟨_, henv, lockedSlot, hlocked, _, hid, _, hfound, _, howner, rfl⟩ := hlock
    have hfound₂ := attempt_of_same hsound₂ hfound hrow hsame
    have howner₂ := hsame.owner.trans howner
    have hslot₂ : l₂.setupSlotById row₂.owner.id = some slot := by
      rw [howner₂]
      exact Table.find_of_mem hsound₂.registry.setupSlotIds
        (hgrows.setupSlots.subset (Table.find_eq_some hslot).1)
    exact ⟨⟨row₂, hfound₂, (), by rw [howner₂], _, hslot₂, _,
        ⟨_, hgrows.profile hprof, (), hproj, rfl⟩, rfl, rfl⟩,
      ⟨_, hgrows.setupEnvelopes.find?_eq_some henv, lockedSlot,
        hgrows.setupSlots.find?_eq_some hlocked, (), hid, row₂, hfound₂, (), howner₂, rfl⟩, heff⟩

theorem Found.unique (h : Found l profile row subject slot) (h' : Found l profile' row subject' slot')
    (hid : subject'.id = subject.id) : subject' = subject ∧ slot' = slot ∧ profile' = profile := by
  have hkind := h.attempt.2
  rw [h'.attempt.2] at hkind
  cases subject <;> cases slot <;> try exact h.elim
  all_goals
    cases subject' <;> cases slot' <;> try first | exact h'.elim | cases hkind
    obtain ⟨hpre, -, heff⟩ := h
    obtain ⟨hpre', -, heff'⟩ := h'
    simp only [Subject.id] at hid
    rw [hid, hpre] at hpre'
    cases hpre'
    exact ⟨by rw [heff, heff'], rfl, rfl⟩

theorem Outcome.Recorded.isTerminal (h : outcome.Recorded profile row) : row.state.isTerminal = true := by
  cases outcome with
  | uncertain => exact h.elim
  | response usable => rcases @terminal_responseState usable with hstate | hstate <;> rw [h.1, hstate] <;> rfl
  | noEffect => rw [h.1]; rfl

theorem Outcome.Recorded.unique (h : outcome.Recorded profile row) (hfits : outcome.Fits p profile)
    (h' : outcome'.Recorded profile row) (hfits' : outcome'.Fits p' profile) : outcome' = outcome := by
  cases outcome <;> cases outcome' <;> try first | exact h.elim | exact h'.elim
  all_goals have hstate := h.1.symm.trans h'.1
  case response.response usable _ _ _ _ usable' _ _ _ _ =>
    have husable : usable' = usable := by cases usable <;> cases usable' <;> first | rfl | cases hstate
    obtain ⟨-, hid, hevid, husage, -⟩ := h
    obtain ⟨-, hid', hevid', husage', -⟩ := h'
    obtain ⟨-, -, hsnap, -⟩ := hfits
    obtain ⟨-, -, hsnap', -⟩ := hfits'
    rw [husable, hsnap, hsnap', Option.some.inj (hid'.symm.trans hid),
      Option.some.inj (hevid'.symm.trans hevid), Option.some.inj (husage'.symm.trans husage)]
  case response.noEffect usable _ _ _ _ _ => cases usable <;> cases hstate
  case noEffect.response usable _ _ _ _ => cases usable <;> cases hstate
  case noEffect.noEffect => rw [Option.some.inj (h.2.symm.trans h'.2)]

theorem settledResult_replay {replayed : Bool} {result : SettledModelCall}
    (h : settledResult row replayed = .ok result) :
    settledResult row true = .ok { result with replayed := true } := by
  unfold settledResult at h ⊢
  simp only [eq_ok] at h ⊢
  obtain ⟨_, husage, _, hat, _, hcost, _, hid, _, hreq, _, hresp, rfl⟩ := h
  exact ⟨_, husage, _, hat, _, hcost, _, hid, _, hreq, _, hresp, rfl⟩

theorem setupCompleted_replay {slot : SetupModelUsageSlot} {replayed : Bool}
    {result : CompletedSetupModelUsageEffect} (h : setupCompleted row slot replayed = .ok result) :
    setupCompleted row slot true = .ok { result with replayed := true } := by
  unfold setupCompleted at h ⊢
  simp only [eq_ok] at h ⊢
  obtain ⟨_, husage, _, hat, _, hcost, _, hid, _, hreq, _, hresp, rfl⟩ := h
  exact ⟨_, husage, _, hat, _, hcost, _, hid, _, hreq, _, hresp, rfl⟩

theorem mem_putEffect_settle {projectId : Uuid} {cost : Nat} {new : ModelUsageEffect}
    (hrow : row ∈ l.effects) (hsettle : settle l row projectId cost = .ok l₁) (hid : row.id = new.id) :
    new ∈ (l₁.putEffect new).effects := by
  obtain ⟨account, reserved, -, -, -, rfl⟩ := settle_eq_ok hsettle
  exact Table.mem_replace_self hrow hid

theorem PaidSlot.receipt_replay {replayed : Bool} (h : slot.receipt row replayed outcome = .ok receipt) :
    slot.receipt row true outcome = .ok receipt.replay := by
  have hmap {α : Type} {f : α → Receipt} {x x' : Except ModelCallError α} {g : α → α}
      (h : x.map f = .ok receipt) (hx : ∀ result, x = .ok result → x' = .ok (g result))
      (hg : ∀ result, f (g result) = (f result).replay) : x'.map f = .ok receipt.replay := by
    obtain ⟨result, hres, rfl⟩ := map_eq_ok.mp h
    exact map_eq_ok.mpr ⟨g result, hx result hres, hg result⟩
  cases slot <;> cases outcome
  case checker.noEffect | setup.noEffect => cases h; rfl
  case checker.uncertain | checker.response => exact hmap h (fun _ => settledResult_replay) fun _ => rfl
  case setup.uncertain | setup.response => exact hmap h (fun _ => setupCompleted_replay) fun _ => rfl

theorem report_replays (hsound : l.Sound) (hends : outcome.isTerminal = true)
    (h : report sha256 l p subject outcome = .ok (receipt, l₁)) :
    (∃ row, l₁.attempt subject.id = some row ∧ row.state.isTerminal = true) ∧
      ∀ l₂ p', Reaches l₁ l₂ → p'.AnswerAs p →
        report sha256 l₂ p' subject outcome = .ok (receipt.replay, l₂) := by
  have hfirst := report_reaches hsound h
  have hsound₁ := hfirst.sound hsound
  obtain ⟨slot, profile, row, decision, hfound, hdec, hfits, hbr⟩ := report_eq_ok hends h
  -- The row as the first report left it.
  obtain ⟨row₁, hrow₁, hsame, hrec, hrcpt⟩ : ∃ row₁ ∈ l₁.effects, row.Same row₁ ∧
      outcome.Recorded profile row₁ ∧ slot.receipt row₁ true outcome = .ok receipt.replay := by
    rcases hbr with ⟨hrec, hrcpt, rfl⟩ | ⟨-, l', hsettle, hrcpt, rfl⟩
    · exact ⟨row, (hfound.owned hsound).mem, .refl row, hrec, PaidSlot.receipt_replay hrcpt⟩
    · have hsame : row.Same (outcome.write profile row decision.evidenceId p.now) := by
        cases outcome <;> exact ⟨rfl, rfl, rfl, rfl, rfl⟩
      refine ⟨_, mem_putEffect_settle (hfound.owned hsound).mem hsettle hsame.id.symm, hsame, ?_,
        PaidSlot.receipt_replay hrcpt⟩
      cases outcome with
      | uncertain => cases hends
      | response => exact ⟨rfl, rfl, rfl, rfl, rfl⟩
      | noEffect => exact ⟨rfl, rfl⟩
  refine ⟨⟨row₁, attempt_of_same hsound₁ hfound.attempt.1 hrow₁ hsame, hrec.isTerminal⟩, ?_⟩
  intro l₂ p' hreach hports
  have hrow₂ := hreach.mem_of_ended hsound₁ hrow₁ hrec.isTerminal
  obtain ⟨decision', hdec'⟩ := Subject.authorize_answerAs hports hdec
  exact report_of_recorded (hfound.later hsound (hfirst.trans hreach) hrow₂ hsame) hdec'
    (hfits.answerAs hports) hrec hrcpt

/-- A report on an effect that has ended says what the row says, and leaves the ledger as it is. -/
theorem report_of_ended (hrow : l.attempt subject.id = some row) (hterm : row.state.isTerminal = true)
    (h : report sha256 l p subject outcome = .ok (receipt, l₁)) :
    l₁ = l ∧ ∃ slot profile, Found l profile row subject slot ∧ outcome.Fits p profile ∧
      outcome.Recorded profile row ∧ slot.receipt row true outcome = .ok receipt := by
  cases hends : outcome.isTerminal with
  | false =>
    cases outcome with
    | uncertain =>
      obtain ⟨slot, profile, row', hfound, hstate⟩ := report_uncertain_eq_ok h
      cases hfound.attempt.1.symm.trans hrow
      rcases hstate with ⟨hstate, -⟩ | ⟨hstate, -⟩ <;> rw [hstate] at hterm <;> cases hterm
    | response | noEffect => cases hends
  | true =>
    obtain ⟨slot, profile, row', decision, hfound, -, hfits, hbr⟩ := report_eq_ok hends h
    cases hfound.attempt.1.symm.trans hrow
    rcases hbr with ⟨hrec, hrcpt, rfl⟩ | ⟨hpend, -⟩
    · exact ⟨rfl, slot, profile, hfound, hfits, hrec, hrcpt⟩
    · rw [isTerminal_of_isPending hpend] at hterm
      cases hterm

theorem run_reports_eq (hterm : row.state.isTerminal = true) (later : List Request)
    (hreports : ∀ request ∈ later, ∃ subject outcome, request.call = Subject.call subject outcome ∧
      l.attempt subject.id = some row) :
    run (step sha256) l later = l := by
  induction later with
  | nil => rfl
  | cons request later ih =>
    obtain ⟨subject, outcome, hcall, hrow⟩ := hreports request (.head _)
    have hstep : step sha256 l request = l := by
      unfold step
      rw [hcall, call_report]
      cases hreport : report sha256 l request.ports subject outcome with
      | error error => rfl
      | ok answer =>
        have hsame := (report_of_ended hrow hterm hreport).1
        simp [Except.map, hsame]
    rw [run_cons, hstep]
    exact ih (fun request' hreq => hreports request' (.tail _ hreq))

end Replay

/-- Once a report has ended an effect, its row stays as it is through all later calls of both
services, and later reports on it change nothing at all. With the same ports the same report is
answered as a replay of the first answer; a report on the effect that differs in anything raises. -/
theorem settlement_once (sha256 : String → String) (history : List Request) (p : Ports)
    (subject : Subject) (outcome : Outcome) (receipt : Receipt) (l : Ledger)
    (hends : outcome.isTerminal = true)
    (hreport : report sha256 (run (step sha256) {} history) p subject outcome = .ok (receipt, l))
    (later : List Request) :
    (∃ row, row.state.isTerminal = true ∧ l.attempt subject.id = some row ∧
      (run (step sha256) l later).attempt subject.id = some row) ∧
    ((∀ request ∈ later, ∃ subject' outcome', request.call = Subject.call subject' outcome' ∧
      subject'.id = subject.id) → run (step sha256) l later = l) ∧
    (∀ p', p'.AnswerAs p → report sha256 (run (step sha256) l later) p' subject outcome =
      .ok (receipt.replay, run (step sha256) l later)) ∧
    ∀ p' subject' outcome' receipt' l', subject'.id = subject.id →
      report sha256 (run (step sha256) l later) p' subject' outcome' = .ok (receipt', l') →
      subject' = subject ∧ outcome' = outcome ∧ receipt' = receipt.replay ∧
        l' = run (step sha256) l later := by
  have hsound := run_sound sha256 history
  have hsound₁ := (report_reaches hsound hreport).sound hsound
  have hreach : Reaches l (run (step sha256) l later) := run_reaches hsound₁ later
  obtain ⟨⟨row, hrow, hterm⟩, hagain⟩ := report_replays hsound hends hreport
  have hrow₂ : (run (step sha256) l later).attempt subject.id = some row :=
    attempt_of_same (hreach.sound hsound₁) hrow
      (hreach.mem_of_ended hsound₁ (Table.find_eq_some hrow).1 hterm) (.refl row)
  refine ⟨⟨row, hterm, hrow, hrow₂⟩, ?_, fun p' hports => hagain _ p' hreach hports, ?_⟩
  · intro hreports
    apply run_reports_eq hterm later
    intro request hreq
    obtain ⟨subject', outcome', hcall, hid⟩ := hreports request hreq
    exact ⟨subject', outcome', hcall, hid ▸ hrow⟩
  · intro p' subject' outcome' receipt' l' hid hreport'
    obtain ⟨-, slot, profile, hfound, hfits, hrec, hrcpt⟩ :=
      report_of_ended hrow₂ hterm (hagain _ p hreach ⟨rfl, rfl⟩)
    obtain ⟨hsame, slot', profile', hfound', hfits', hrec', hrcpt'⟩ :=
      report_of_ended (hid ▸ hrow₂) hterm hreport'
    obtain ⟨hsubject, rfl, rfl⟩ := hfound.unique hfound' hid
    cases hrec.unique hfits hrec' hfits'
    exact ⟨hsubject, rfl, Except.ok.inj (hrcpt'.symm.trans hrcpt), hsame⟩

/-! The provider never saw the call of the prepared effect, and the worker says so. -/

def sampleProof : KnownNoEffectProof := ⟨"proof", sampleDigest, 0⟩

variable (sha256 : String → String)

def sampleFacts : SetupModelEffectAuthorityFacts :=
  setupEffectFacts ⟨"slot", "envelope", sampleKey sha256, sampleDigest⟩ sampleEffect

def sampleDispatchRequest : Request :=
  ⟨authorizedPorts sha256 (samplePreparePorts sha256) (.setup (samplePrepared sha256 false)) sampleEvidence,
    .setupReserveDispatch (samplePrepared sha256 false) sampleEvidence, true⟩

def sampleReleasePorts : Ports :=
  samplePorts sha256 "unused" "setup_complete"
    (completeFacts (sampleFacts sha256).toJson none (knownNoEffectDigest sha256 sampleProof))

theorem run_sampleDispatch :
    run (step sha256) {} (sampleRequests sha256 ++ [sampleDispatchRequest sha256]) =
      sampleDispatched sha256 := by
  have hcall : call sha256 (sampleLedger sha256) (sampleDispatchRequest sha256).ports
      (sampleDispatchRequest sha256).call = .ok (sampleDispatched sha256) :=
        reserve_samplePrepared sha256 false
  rw [run_append, run_sampleRequests, run_cons, run_nil]
  unfold step
  rw [hcall]
  rfl

theorem report_sampleRelease :
    ∃ l, report sha256 (sampleDispatched sha256) (sampleReleasePorts sha256) (.setup (sampleFacts sha256))
      (.noEffect sampleProof) = .ok (.setupNoEffect ⟨sampleFacts sha256, sampleProof, false⟩, l) := by
  let slot : SetupModelUsageSlot := ⟨"slot", "envelope", sampleKey sha256, sampleDigest⟩
  let row := dispatchedRow sampleEffect sampleEvidence (sampleConfiguration sha256) 20 none "decision" 0
  obtain ⟨hprof, -⟩ := setupProfile_eq_ok (@setupProfile_sample sha256 (sampleDispatched sha256) rfl)
  have hpre : setupTerminalPreflight (sampleDispatched sha256) "effect" =
      .ok (slot, sampleProfile sha256) := by
    simp only [setupTerminalPreflight, setupProfile, eq_ok]
    exact ⟨row, rfl, (), rfl, slot, rfl, _, ⟨_, hprof, (), ⟨rfl, by simp⟩, rfl⟩, rfl, rfl⟩
  have hlock : setupLockTerminal (sampleDispatched sha256) slot "effect" = .ok row := by
    simp [setupLockTerminal, sampleDispatched, sampleLedger, slot, row, Ledger.putEffect, Ledger.putAccount,
      Registry.setupEnvelope, Registry.setupSlot, Ledger.attempt, Table.find, Table.replace, sampleEffect,
      dispatchedRow, require, required, bind, Except.bind, pure, Except.pure]
  have hrelease : release (sampleDispatched sha256) row "project" =
      .ok ((sampleDispatched sha256).putAccount ⟨"project", "budget", 0, 0⟩) := by
    simp [release, settle, sampleDispatched, sampleLedger, row, Ledger.putEffect, Ledger.putAccount,
      Ledger.budgetAccount, Table.find, Table.replace, dispatchedRow, require, required, bind, Except.bind,
      pure, Except.pure]
  obtain ⟨authority, hauth⟩ : ∃ authority, authorize sha256 (sampleReleasePorts sha256)
      "setup_complete" (completeFacts (sampleFacts sha256).toJson none
        (knownNoEffectDigest sha256 sampleProof)) setupAuthorityUnavailable = .ok authority := by
    simp [authorize, sampleReleasePorts, samplePorts, require, required, bind, Except.bind, pure, Except.pure]
  refine ⟨((sampleDispatched sha256).putAccount ⟨"project", "budget", 0, 0⟩).putEffect
    (noEffectRow row sampleProof authority.evidenceId 0),
    map_eq_ok.mpr ⟨(⟨sampleFacts sha256, sampleProof, false⟩, _), ?_, rfl⟩⟩
  simp only [setupMarkKnownNoEffect, bind_eq_ok]
  refine ⟨authority, hauth, (slot, sampleProfile sha256), hpre, row, hlock, (),
    require_eq_ok.mpr rfl, ?_⟩
  rw [if_neg (fun hstate => EffectState.noConfusion hstate)]
  simp only [bind_eq_ok]
  exact ⟨(), rfl, (), require_eq_ok.mpr rfl, _, hrelease, rfl⟩

theorem settlement_once_released :
    ∃ l, report id (run (step id) {} (sampleRequests id ++ [sampleDispatchRequest id]))
        (sampleReleasePorts id) (.setup (sampleFacts id)) (.noEffect sampleProof) =
          .ok (.setupNoEffect ⟨sampleFacts id, sampleProof, false⟩, l) ∧
      report id l (sampleReleasePorts id) (.setup (sampleFacts id)) (.noEffect sampleProof) =
        .ok (.setupNoEffect ⟨sampleFacts id, sampleProof, true⟩, l) := by
  obtain ⟨l, hreport⟩ := report_sampleRelease id
  rw [← run_sampleDispatch id] at hreport
  obtain ⟨-, -, hagain, -⟩ := settlement_once id _ _ _ _ _ l rfl hreport []
  exact ⟨l, hreport, hagain _ ⟨rfl, rfl⟩⟩

end Workstream.ModelUsage
