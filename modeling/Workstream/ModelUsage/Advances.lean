import Workstream.ModelUsage.Conservation

/-!
# Effects and accounts only move forward

What two moments of a run of both services have in common, whatever the calls between them.
-/

namespace Workstream.ModelUsage
open Foundation

def EffectState.rank : EffectState → Nat
  | .prepared => 0
  | .dispatching => 1
  | .uncertain => 2
  | .completed | .knownFailed | .knownNoEffect => 3

/-- An effect that has ended. -/
def EffectState.isTerminal (state : EffectState) : Bool :=
  state = .completed || state = .knownFailed || state = .knownNoEffect

theorem isTerminal_of_isPending {state : EffectState} (h : state.isPending = true) :
    state.isTerminal = false := by
  cases state <;> first | rfl | cases h

structure ModelUsageEffect.Same (row row' : ModelUsageEffect) : Prop where
  id : row'.id = row.id
  owner : row'.owner = row.owner
  attemptNumber : row'.attemptNumber = row.attemptNumber
  internalCallRequestId : row'.internalCallRequestId = row.internalCallRequestId
  requestSha256 : row'.requestSha256 = row.requestSha256

theorem ModelUsageEffect.Same.refl (row : ModelUsageEffect) : row.Same row := ⟨rfl, rfl, rfl, rfl, rfl⟩

theorem ModelUsageEffect.Same.trans {row row' row'' : ModelUsageEffect} (h : row.Same row')
    (h' : row'.Same row'') :
    row.Same row'' :=
  ⟨h'.id.trans h.id, h'.owner.trans h.owner, h'.attemptNumber.trans h.attemptNumber,
    h'.internalCallRequestId.trans h.internalCallRequestId, h'.requestSha256.trans h.requestSha256⟩

/-- The columns that a dispatch writes. -/
def ModelUsageEffect.dispatchColumns (row : ModelUsageEffect) :=
  (row.requestEvidence, row.budgetConfiguration, row.reservedNanodollars, row.dispatchExecutionFacts,
    row.dispatchAuthorizationEvidenceId, row.dispatchedAt)

/-- A row and a later one of the same effect: what a dispatch fixed stays, and so does an end. -/
structure ModelUsageEffect.Advances (row row' : ModelUsageEffect) : Prop where
  same : row.Same row'
  rank : row.state.rank ≤ row'.state.rank
  dispatched : row.state ≠ .prepared → row'.dispatchColumns = row.dispatchColumns
  ended : row.state.isTerminal = true → row' = row

namespace ModelUsageEffect.Advances

variable {row row' row'' : ModelUsageEffect}

theorem refl (row : ModelUsageEffect) : row.Advances row :=
  ⟨.refl row, Nat.le_refl _, fun _ => rfl, fun _ => rfl⟩

theorem trans (h : row.Advances row') (h' : row'.Advances row'') : row.Advances row'' := by
  refine ⟨h.same.trans h'.same, Nat.le_trans h.rank h'.rank, ?_, ?_⟩
  · intro hstate
    have hstate' : row'.state ≠ .prepared := by
      intro heq
      have hrank := h.rank
      rw [heq] at hrank
      cases hcase : row.state <;> simp_all [EffectState.rank]
    exact (h'.dispatched hstate').trans (h.dispatched hstate)
  · intro hend
    obtain rfl := h.ended hend
    exact h'.ended hend

theorem of_pending (hsame : row.Same row') (hpend : row.state.isPending = true)
    (hrank : 2 ≤ row'.state.rank) (hdisp : row'.dispatchColumns = row.dispatchColumns) :
    row.Advances row' := by
  refine ⟨hsame, ?_, fun _ => hdisp, ?_⟩
  · cases hstate : row.state with
    | dispatching | uncertain => exact Nat.le_trans (by decide) hrank
    | prepared | completed | knownFailed | knownNoEffect => rw [hstate] at hpend; cases hpend
  · intro hend
    rw [isTerminal_of_isPending hpend] at hend
    cases hend

end ModelUsageEffect.Advances

variable {l l' : Ledger} {row : ModelUsageEffect}

theorem advances_putEffect {old new : ModelUsageEffect} (hsound : l.Sound) (hold : old ∈ l.effects)
    (h : old.Advances new) (hrow : row ∈ l.effects) :
    ∃ row' ∈ (l.putEffect new).effects, row.Advances row' := by
  by_cases hid : row.id = new.id
  · obtain rfl := Table.eq_of_key_eq hsound.effectIds hrow hold (hid.trans h.same.id)
    exact ⟨new, Table.mem_replace_self hrow hid, h⟩
  · exact ⟨row, Table.mem_replace_of_ne hrow hid, .refl row⟩

theorem Change.advances (hsound : l.Sound) (h : Change l l') (hrow : row ∈ l.effects) :
    ∃ row' ∈ l'.effects, row.Advances row' := by
  cases h with
  | profile | checkerEnvelope | checkerSlot | setupEnvelope | setupSlot | opened | adjusted =>
    exact ⟨row, hrow, .refl row⟩
  | prepared | child => exact ⟨row, List.mem_append_left _ hrow, .refl row⟩
  | dispatched evidence execution evidenceId now howned hstate =>
    refine advances_putEffect (hsound.putAccount _) howned.mem ⟨⟨rfl, rfl, rfl, rfl, rfl⟩, ?_,
      fun hother => absurd hstate hother, fun hend => ?_⟩ hrow
    · rw [hstate]
      exact Nat.zero_le _
    · rw [hstate] at hend
      cases hend
  | uncertain digest providerResponseId evidenceId hold hstate =>
    exact advances_putEffect hsound hold (.of_pending ⟨rfl, rfl, rfl, rfl, rfl⟩ (by rw [hstate]; rfl)
      (Nat.le_refl 2) rfl) hrow
  | settled target providerResponseId evidence usage evidenceId now howned hpend htgt =>
    refine advances_putEffect (hsound.putAccount _) howned.mem (.of_pending ⟨rfl, rfl, rfl, rfl, rfl⟩
      hpend ?_ rfl) hrow
    rcases htgt with rfl | rfl <;> exact Nat.le_succ 2
  | released proof evidenceId now howned hpend =>
    exact advances_putEffect (hsound.putAccount _) howned.mem (.of_pending ⟨rfl, rfl, rfl, rfl, rfl⟩
      hpend (Nat.le_succ 2) rfl) hrow

theorem lifetimeSettled_le_of_put (account' : ModelUsageBudgetAccount)
    {account : ModelUsageBudgetAccount} {projectId : Uuid} (hacct : l.budgetAccount projectId = some account)
    (hput : l'.accounts = (l.putAccount account').accounts) (hid : account'.projectId = account.projectId)
    (hle : account.lifetimeSettledNanodollars ≤ account'.lifetimeSettledNanodollars) (other : Uuid) :
    l.lifetimeSettled other ≤ l'.lifetimeSettled other := by
  have hproj := hid.trans (Ledger.projectId_of_budgetAccount hacct)
  have hfound : l'.budgetAccount other = (l.putAccount account').budgetAccount other := by
    unfold Ledger.budgetAccount
    rw [hput]
  by_cases heq : other = projectId
  · subst heq
    rw [Ledger.lifetimeSettled_of_account hacct, Ledger.lifetimeSettled_of_account
      (hfound.trans (Ledger.budgetAccount_putAccount_self hacct hproj))]
    exact hle
  · unfold Ledger.lifetimeSettled
    rw [hfound, Ledger.budgetAccount_putAccount_of_ne (by rwa [hproj])]

theorem Change.lifetimeSettled_le (h : Change l l') (projectId : Uuid) :
    l.lifetimeSettled projectId ≤ l'.lifetimeSettled projectId := by
  cases h with
  | profile | checkerEnvelope | checkerSlot | setupEnvelope | setupSlot | prepared | child | uncertain =>
    exact Nat.le_refl _
  | opened row =>
    unfold Ledger.lifetimeSettled
    cases hfound : l.budgetAccount projectId with
    | none => exact Nat.zero_le _
    | some account =>
      have hfound' := Table.find_append_of_some [⟨row.spec.projectId, row.id, 0, 0⟩] hfound
      unfold Ledger.budgetAccount
      rw [hfound']
  | @adjusted row account hid hacct =>
    exact lifetimeSettled_le_of_put { account with currentConfigurationId := row.id } hacct rfl rfl
      (Nat.le_refl _) projectId
  | dispatched evidence execution evidenceId now howned hstate hacct =>
    exact lifetimeSettled_le_of_put (.reserve _ _) hacct rfl rfl (Nat.le_refl _) projectId
  | settled target providerResponseId evidence usage evidenceId now howned hpend htgt hbytes hin hout hacct
  | released proof evidenceId now howned hpend hacct =>
    exact lifetimeSettled_le_of_put (.settle _ _ _) hacct rfl rfl (Nat.le_add_right _ _) projectId

theorem Reaches.advances (h : Reaches l l') (hsound : l.Sound) (hrow : row ∈ l.effects) :
    ∃ row' ∈ l'.effects, row.Advances row' := by
  induction h with
  | refl => exact ⟨row, hrow, .refl row⟩
  | tail hsteps hchange ih =>
    obtain ⟨row₁, hrow₁, hadv⟩ := ih
    obtain ⟨row₂, hrow₂, hadv'⟩ := hchange.advances (Reaches.sound hsteps hsound) hrow₁
    exact ⟨row₂, hrow₂, hadv.trans hadv'⟩

theorem Reaches.mem_of_ended (h : Reaches l l') (hsound : l.Sound) (hrow : row ∈ l.effects)
    (hend : row.state.isTerminal = true) : row ∈ l'.effects := by
  obtain ⟨row', hrow', hadv⟩ := h.advances hsound hrow
  exact hadv.ended hend ▸ hrow'

theorem run_reaches {sha256 : String → String} (hsound : l.Sound) (requests : List Request) :
    Reaches l (run (step sha256) l requests) :=
  run_relates (I := Ledger.Sound) (R := Reaches) hsound
    (fun _ request h => (step_reaches h request).sound h) Reaches.refl (fun _ _ _ => Reaches.trans)
    (fun _ request h => step_reaches h request) requests

theorem run_sound (sha256 : String → String) (requests : List Request) :
    (run (step sha256) {} requests).Sound :=
  (run_of_change (I := fun _ => True) trivial (fun _ _ _ _ _ => trivial) requests).1

theorem Reaches.lifetimeSettled_le (h : Reaches l l') (projectId : Uuid) :
    l.lifetimeSettled projectId ≤ l'.lifetimeSettled projectId := by
  induction h with
  | refl => exact Nat.le_refl _
  | tail _ hchange ih => exact Nat.le_trans ih (hchange.lifetimeSettled_le projectId)

/-- Whatever both services are called for after a moment, every effect of that moment is still there and
has at most moved on; profiles, envelopes and slots are found as they were; and no project has less
settled than it had. -/
theorem run_advances (sha256 : String → String) (history later : List Request) :
    let l := run (step sha256) {} history
    let l' := run (step sha256) l later
    (∀ row ∈ l.effects, ∃ row' ∈ l'.effects, row.Advances row') ∧ l.toRegistry.Grows l'.toRegistry ∧
      ∀ projectId, l.lifetimeSettled projectId ≤ l'.lifetimeSettled projectId := by
  intro l l'
  have hsound := run_sound sha256 history
  have hreach : Reaches l l' := run_reaches hsound later
  exact ⟨fun row => hreach.advances hsound, hreach.grows, hreach.lifetimeSettled_le⟩

end Workstream.ModelUsage
