import Workstream.ModelUsage.Runs
import Workstream.Foundation.Chains

/-!
# Attempts of a slot

The attempts of a paid slot form a chain: a recovery child is created only behind the latest attempt,
and only once that attempt is known to have failed or to have had no effect.
-/

namespace Workstream.ModelUsage
open Foundation

/-- States that a recovery child may follow. -/
def EffectState.isRetryable (state : EffectState) : Bool := state = .knownFailed || state = .knownNoEffect

/-- Attempts numbered from one, each the parent of the next, and all but the last retryable. -/
def AttemptChain (attempts : List ModelUsageEffect) : Prop :=
  Chained (fun e => e.attemptNumber) (fun e => e.parentAttemptId) (fun e => e.id)
    (fun e => e.state.isRetryable) attempts

theorem not_isRetryable_of_isPending {state : EffectState} (h : state.isPending = true) :
    state.isRetryable ≠ true := by
  cases state with
  | dispatching | uncertain => exact Bool.false_ne_true
  | prepared => cases h
  | completed => cases h
  | knownFailed => cases h
  | knownNoEffect => cases h

section Attempts

variable {l l' : Ledger} {owner : Ref} {row row' : ModelUsageEffect}

theorem attemptsOf_addEffect (l : Ledger) (row : ModelUsageEffect) (owner : Ref) :
    Ledger.attemptsOf { l with effects := l.effects ++ [row] } owner =
      if row.owner = owner then l.attemptsOf owner ++ [row] else l.attemptsOf owner := by
  unfold Ledger.attemptsOf
  rw [List.filter_append]
  by_cases howner : row.owner = owner
  · rw [if_pos howner, List.filter_cons_of_pos (by simp [howner]), List.filter_nil]
  · rw [if_neg howner, List.filter_cons_of_neg (by simp [howner]), List.filter_nil, List.append_nil]

theorem attemptsOf_putEffect (hsound : l.Sound) (hrow : row ∈ l.effects) (hid : row'.id = row.id)
    (howner : row'.owner = row.owner) (owner : Ref) :
    (l.putEffect row').attemptsOf owner =
      (l.attemptsOf owner).map (fun e => if e.id = row'.id then row' else e) := by
  unfold Ledger.attemptsOf Ledger.putEffect Table.replace
  rw [List.filter_map]
  congr 1
  apply List.filter_congr
  intro e he
  by_cases hsame : e.id = row'.id
  · have heq : e = row := Table.eq_of_key_eq hsound.effectIds he hrow (hsame.trans hid)
    subst heq
    simp [hsame, howner]
  · simp [hsame]

theorem AttemptChain.put (h : AttemptChain (l.attemptsOf owner)) (hsound : l.Sound)
    (hrow : row ∈ l.effects) (hopen : row.state.isRetryable ≠ true) (hid : row'.id = row.id)
    (howner : row'.owner = row.owner) (hnum : row'.attemptNumber = row.attemptNumber)
    (hpar : row'.parentAttemptId = row.parentAttemptId) :
    AttemptChain ((l.putEffect row').attemptsOf owner) := by
  rw [attemptsOf_putEffect hsound hrow hid howner]
  have hold : ∀ e ∈ l.attemptsOf owner, e.id = row'.id → e = row := by
    intro e he hsame
    exact Table.eq_of_key_eq hsound.effectIds (List.mem_filter.mp he).1 hrow (hsame.trans hid)
  refine Chained.map h ?_ ?_ ?_ ?_
  · intro e he
    split
    · rename_i hsame
      rw [hold e he hsame, hnum]
    · rfl
  · intro e he
    split
    · rename_i hsame
      rw [hold e he hsame, hpar]
    · rfl
  · intro e he
    split
    · rename_i hsame
      exact hsame.symm
    · rfl
  · intro e he hclosed
    split
    · rename_i hsame
      rw [hold e he hsame] at hclosed
      exact absurd hclosed hopen
    · exact hclosed

theorem AttemptChain.prepared (h : AttemptChain (l.attemptsOf owner))
    (hlatest : l.latestOf row.owner = none) (hnum : row.attemptNumber = 1)
    (hpar : row.parentAttemptId = none) :
    AttemptChain (Ledger.attemptsOf { l with effects := l.effects ++ [row] } owner) := by
  rw [attemptsOf_addEffect]
  split
  · rename_i hmine
    subst hmine
    have hempty : l.attemptsOf row.owner = [] := List.argmax_eq_none.mp hlatest
    rw [hempty, List.nil_append]
    exact Chained.singleton hnum hpar
  · exact h

theorem AttemptChain.child (h : AttemptChain (l.attemptsOf owner)) {latest : ModelUsageEffect}
    (hlatest : l.latestOf row.owner = some latest)
    (hterm : latest.state = .knownFailed ∨ latest.state = .knownNoEffect)
    (hnum : row.attemptNumber = latest.attemptNumber + 1)
    (hpar : row.parentAttemptId = some latest.id) :
    AttemptChain (Ledger.attemptsOf { l with effects := l.effects ++ [row] } owner) := by
  rw [attemptsOf_addEffect]
  split
  · rename_i hmine
    subst hmine
    have hlast := Chained.getElem?_of_argmax h hlatest
    have hclosed : latest.state.isRetryable = true := by
      rcases hterm with hstate | hstate
      · rw [hstate]
        rfl
      · rw [hstate]
        rfl
    exact Chained.append h hlast hclosed hnum hpar
  · exact h

/-- The step of the invariant: every change keeps the attempts of every slot a chain. -/
theorem Change.attemptChain (hsound : l.Sound) (h : ∀ owner, AttemptChain (l.attemptsOf owner))
    (hchange : Change l l') (owner : Ref) : AttemptChain (l'.attemptsOf owner) := by
  cases hchange with
  | profile | checkerEnvelope | checkerSlot | setupEnvelope | setupSlot | opened | adjusted =>
    exact h owner
  | prepared row hid hview hreq hblank hlatest hnum hpar =>
    exact (h owner).prepared hlatest hnum hpar
  | child row hid hview hreq hblank hlatest hterm hnum hpar =>
    exact (h owner).child hlatest hterm hnum hpar
  | dispatched evidence execution evidenceId now howned hstate =>
    have hopen := (congrArg EffectState.isRetryable hstate).trans_ne Bool.false_ne_true
    exact (h owner).put hsound howned.mem hopen rfl rfl rfl rfl
  | uncertain uncertaintyDigest providerResponseId evidenceId hrow hstate =>
    have hopen := (congrArg EffectState.isRetryable hstate).trans_ne Bool.false_ne_true
    exact (h owner).put hsound hrow hopen rfl rfl rfl rfl
  | settled target providerResponseId evidence usage evidenceId now howned hpend
  | released proof evidenceId now howned hpend =>
    exact (h owner).put hsound howned.mem (not_isRetryable_of_isPending hpend) rfl rfl rfl rfl

end Attempts

theorem run_attemptChain (sha256 : String → String) (requests : List Request) :
    (run (step sha256) {} requests).Sound ∧
      ∀ owner, AttemptChain ((run (step sha256) {} requests).attemptsOf owner) :=
  run_of_change (I := fun l => ∀ owner, AttemptChain (l.attemptsOf owner)) (fun _ => Chained.nil)
    (fun _ _ hsound h hchange => hchange.attemptChain hsound h) requests

/-- After any calls of either service, in any order, the attempts of a checker slot are numbered without
gaps, each but the first has its predecessor as parent, all carry the request of the slot, and only the
last can be in another state than a retryable one. -/
theorem run_attempts_chained (sha256 : String → String) (requests : List Request) (slotId : Uuid) :
    let l := run (step sha256) {} requests
    let attempts := l.attemptsOf ⟨.checker, slotId⟩
    (∀ i e, attempts[i]? = some e → e.attemptNumber = i + 1) ∧
    (∀ e, attempts[0]? = some e → e.parentAttemptId = none) ∧
    (∀ i e e', attempts[i]? = some e → attempts[i + 1]? = some e' → e'.parentAttemptId = some e.id) ∧
    (∀ slot ∈ l.checkerSlots, slot.id = slotId →
      ∀ e ∈ attempts, e.requestSha256 = slot.firstRequestSha256) ∧
    (∀ i e, attempts[i]? = some e → i + 1 < attempts.length →
      e.state = .knownFailed ∨ e.state = .knownNoEffect) ∧
    attempts.countP (fun e => !(e.state = .knownFailed || e.state = .knownNoEffect)) ≤ 1 ∧
    (∀ i e, attempts[i]? = some e → e.state = .completed → i + 1 = attempts.length) := by
  intro l attempts
  obtain ⟨hsound, hall⟩ := run_attemptChain sha256 requests
  have hchain : AttemptChain attempts := hall ⟨.checker, slotId⟩
  refine ⟨hchain.numbered, hchain.first, hchain.linked, ?_, ?_, hchain.countP_open_le_one, ?_⟩
  · intro slot hslot hid e he
    obtain ⟨hmem, howner⟩ := List.mem_filter.mp he
    obtain ⟨view, profile, howned, hreq, -⟩ := hsound.owned e hmem
    have hview := hsound.registry.view_of_slot hslot
    rw [hid, ← of_decide_eq_true howner] at hview
    cases howned.view_eq.symm.trans hview
    exact hreq
  · intro i e he hi
    have hclosed := hchain.closed_before i e he hi
    unfold EffectState.isRetryable at hclosed
    rw [Bool.or_eq_true, decide_eq_true_eq, decide_eq_true_eq] at hclosed
    exact hclosed
  · intro i e he hstate
    apply hchain.last_of_open he
    rw [hstate]
    exact Bool.false_ne_true

end Workstream.ModelUsage
