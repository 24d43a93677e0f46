import Workstream.ModelUsage.Reports
import Workstream.Foundation.Runs

/-!
# Runs of the two services

Any sequence of calls of either service, by any callers, on one ledger. A call that raises, or whose
transaction does not commit, changes nothing.
-/

namespace Workstream.ModelUsage
open Foundation

/-- A call of either service that can change the ledger. -/
inductive Call where
  | provisionProfile (facts : ModelProfileProvisioningFacts)
  | provisionBudget (facts : ModelBudgetProvisioningFacts)
  | prepareAttempt (execution : ModelCallExecutionFacts) (slot : ModelPaidSlotKey)
      (requestSha256 : String)
  | prepareRecoveryChild (slot : ModelPaidSlotKey) (parentAttemptId : Uuid)
      (terminalDigest requestSha256 : String)
  | reserveDispatch (execution : ModelCallExecutionFacts) (attempt : PreparedModelCallAttempt)
      (requestEvidence : ModelCallEvidence)
  | markUncertain (effect : ModelCallEffectAuthorityFacts) (uncertaintyDigest : String)
      (providerResponseId : Option String)
  | complete (effect : ModelCallEffectAuthorityFacts) (providerResponseId providerModelSnapshot : String)
      (responseEvidence : ModelCallEvidence) (usage : ModelCallUsage)
  | completeKnownFailure (effect : ModelCallEffectAuthorityFacts)
      (providerResponseId providerModelSnapshot : String) (responseEvidence : ModelCallEvidence)
      (usage : ModelCallUsage)
  | markKnownNoEffect (effect : ModelCallEffectAuthorityFacts) (proof : KnownNoEffectProof)
  | setupPrepare (key : SetupModelUsageSlotKey) (requestSha256 : String)
  | setupReserveDispatch (prepared : PreparedSetupModelUsageEffect) (requestEvidence : ModelCallEvidence)
  | setupMarkUncertain (supplied : SetupModelEffectAuthorityFacts) (uncertaintyDigest : String)
      (providerResponseId : Option String)
  | setupComplete (supplied : SetupModelEffectAuthorityFacts)
      (providerResponseId providerModelSnapshot : String) (responseEvidence : ModelCallEvidence)
      (usage : ModelCallUsage) (usable : Bool)
  | setupMarkKnownNoEffect (supplied : SetupModelEffectAuthorityFacts) (proof : KnownNoEffectProof)

/-- The ledger that a call leaves. -/
def call (sha256 : String → String) (l : Ledger) (p : Ports) : Call → Except ModelCallError Ledger
  | .provisionProfile facts => (provisionProfile sha256 l p facts).map (·.2)
  | .provisionBudget facts => (provisionBudget sha256 l p facts).map (·.2)
  | .prepareAttempt execution slot requestSha256 =>
    (prepareAttempt sha256 l p execution slot requestSha256).map (·.2)
  | .prepareRecoveryChild slot parentAttemptId terminalDigest requestSha256 =>
    (prepareRecoveryChild sha256 l p slot parentAttemptId terminalDigest requestSha256).map (·.2)
  | .reserveDispatch execution attempt requestEvidence =>
    (reserveDispatch sha256 l p execution attempt requestEvidence).map (·.2)
  | .markUncertain effect uncertaintyDigest providerResponseId =>
    (markUncertain sha256 l p effect uncertaintyDigest providerResponseId).map (·.2)
  | .complete effect providerResponseId providerModelSnapshot responseEvidence usage =>
    (complete sha256 l p effect providerResponseId providerModelSnapshot responseEvidence usage).map (·.2)
  | .completeKnownFailure effect providerResponseId providerModelSnapshot responseEvidence usage =>
    (completeKnownFailure sha256 l p effect providerResponseId providerModelSnapshot responseEvidence
      usage).map (·.2)
  | .markKnownNoEffect effect proof => (markKnownNoEffect sha256 l p effect proof).map (·.2)
  | .setupPrepare key requestSha256 => (setupPrepare sha256 l p key requestSha256).map (·.2)
  | .setupReserveDispatch prepared requestEvidence =>
    (setupReserveDispatch sha256 l p prepared requestEvidence).map (·.2)
  | .setupMarkUncertain supplied uncertaintyDigest providerResponseId =>
    (setupMarkUncertain sha256 l p supplied uncertaintyDigest providerResponseId).map (·.2)
  | .setupComplete supplied providerResponseId providerModelSnapshot responseEvidence usage usable =>
    (setupComplete sha256 l p supplied providerResponseId providerModelSnapshot responseEvidence usage
      usable).map (·.2)
  | .setupMarkKnownNoEffect supplied proof => (setupMarkKnownNoEffect sha256 l p supplied proof).map (·.2)

/-- The same call among all calls of the services. -/
def Subject.call : Subject → Outcome → Call
  | .checker effect, .uncertain uncertaintyDigest providerResponseId =>
    .markUncertain effect uncertaintyDigest providerResponseId
  | .checker effect, .response true providerResponseId providerModelSnapshot responseEvidence usage =>
    .complete effect providerResponseId providerModelSnapshot responseEvidence usage
  | .checker effect, .response false providerResponseId providerModelSnapshot responseEvidence usage =>
    .completeKnownFailure effect providerResponseId providerModelSnapshot responseEvidence usage
  | .checker effect, .noEffect proof => .markKnownNoEffect effect proof
  | .setup supplied, .uncertain uncertaintyDigest providerResponseId =>
    .setupMarkUncertain supplied uncertaintyDigest providerResponseId
  | .setup supplied, .response usable providerResponseId providerModelSnapshot responseEvidence usage =>
    .setupComplete supplied providerResponseId providerModelSnapshot responseEvidence usage usable
  | .setup supplied, .noEffect proof => .setupMarkKnownNoEffect supplied proof

/-- A call, what its ports answer, and whether its transaction commits. -/
structure Request where
  ports : Ports
  call : Call
  commits : Bool

/-- A call in its transaction: committed, rolled back or refused. -/
def step (sha256 : String → String) (l : Ledger) (request : Request) : Ledger :=
  match call sha256 l request.ports request.call with
  | .ok l' => if request.commits then l' else l
  | .error _ => l

section Runs

variable {sha256 : String → String} {l l' : Ledger} {p : Ports}

theorem call_report {subject : Subject} {outcome : Outcome} : call sha256 l p (subject.call outcome) =
    (report sha256 l p subject outcome).map (·.2) := by
  have hmap {α : Type} (x : Except ModelCallError (α × Ledger)) (f : α → Receipt) :
      (x.map (Prod.map f id)).map (·.2) = x.map (·.2) := by cases x <;> rfl
  cases subject <;> rcases outcome with _ | ⟨_ | _, _, _, _, _⟩ | _ <;> exact (hmap _ _).symm

theorem call_reaches (hsound : l.Sound) {c : Call} (h : call sha256 l p c = .ok l') : Reaches l l' := by
  have hmap {α : Type} {x : Except ModelCallError (α × Ledger)}
      (hx : ∀ result l₁, x = .ok (result, l₁) → Reaches l l₁) (h : x.map (·.2) = .ok l') :
      Reaches l l' := by
    obtain ⟨answer, hanswer, rfl⟩ := map_eq_ok.mp h
    exact hx answer.1 answer.2 hanswer
  have hreport (subject : Subject) (outcome : Outcome)
      (h : call sha256 l p (subject.call outcome) = .ok l') : Reaches l l' := by
    rw [call_report] at h
    exact hmap (fun _ _ => report_reaches hsound) h
  cases c with
  | provisionProfile => exact hmap (fun _ _ => provisionProfile_reaches) h
  | provisionBudget => exact hmap (fun _ _ => provisionBudget_reaches) h
  | prepareAttempt => exact hmap (fun _ _ hcall => (prepareAttempt_eq_ok hsound hcall).1) h
  | prepareRecoveryChild => exact hmap (fun _ _ hcall => (prepareRecoveryChild_eq_ok hsound hcall).1) h
  | reserveDispatch => exact hmap (fun _ _ => reserveDispatch_reaches hsound) h
  | setupPrepare => exact hmap (fun _ _ hcall => (setupPrepare_eq_ok hsound hcall).1) h
  | setupReserveDispatch => exact hmap (fun _ _ => setupReserveDispatch_reaches hsound) h
  | markUncertain effect digest id => exact hreport (.checker effect) (.uncertain digest id) h
  | complete effect id snapshot evidence usage =>
    exact hreport (.checker effect) (.response true id snapshot evidence usage) h
  | completeKnownFailure effect id snapshot evidence usage =>
    exact hreport (.checker effect) (.response false id snapshot evidence usage) h
  | markKnownNoEffect effect proof => exact hreport (.checker effect) (.noEffect proof) h
  | setupMarkUncertain supplied digest id => exact hreport (.setup supplied) (.uncertain digest id) h
  | setupComplete supplied id snapshot evidence usage usable =>
    exact hreport (.setup supplied) (.response usable id snapshot evidence usage) h
  | setupMarkKnownNoEffect supplied proof => exact hreport (.setup supplied) (.noEffect proof) h

theorem step_reaches (hsound : l.Sound) (request : Request) : Reaches l (step sha256 l request) := by
  unfold step
  split
  · rename_i l' hcall
    split
    · exact call_reaches hsound hcall
    · exact .refl l
  · exact .refl l

theorem run_of_change {I : Ledger → Prop} (hinit : I {})
    (hI : ∀ l l', l.Sound → I l → Change l l' → I l') (requests : List Request) :
    (run (step sha256) {} requests).Sound ∧ I (run (step sha256) {} requests) := by
  apply run_invariant (I := fun l => l.Sound ∧ I l) ⟨Ledger.sound_empty, hinit⟩
  intro l request h
  exact (step_reaches h.1 request).invariant hI h.1 h.2

end Runs

end Workstream.ModelUsage
