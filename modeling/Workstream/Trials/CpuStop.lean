import Workstream.Artifacts.ArchiveIntake
import Workstream.Trials.Receipts

/-!
# Where CPU time stops a trial

The relay checks the CPU time of all operations together on both sides of the limit, and that of each
operation only from above.
-/

namespace Workstream.Trials

open Foundation Artifacts

abbrev Operation := TrialOperationOutcome × Usage

variable (execution : TrialExecution)

def TrialExecution.operations : List Operation :=
  (execution.build.outcome, execution.build.usage) ::
    execution.steps.map (fun item => (item.outcome, item.usage))

def cpuTime (operations : List Operation) : Nat := (operations.map (·.2.cpuTimeMs)).sum

def TrialExecution.cpuTimeOf (count : Nat) : Nat :=
  cpuTime (execution.operations.take count)

def skippedOperation : Operation := (.dependencySkipped, Usage.none)

/-- `upper_with_overrun` of an operation's CPU time, against what is left after `consumed`. -/
def Bounded (limit overrun consumed : Nat) (operation : Operation) : Prop :=
  upperWithOverrun operation.2.cpuTimeMs (limit - consumed) overrun (operation.1 = .cpuExceeded) = true

/-- The loop over the steps: nothing runs once the limit is reached. -/
def Halts (limit overrun : Nat) : Nat → List Operation → Prop
  | _, [] => True
  | consumed, operation :: rest =>
    (limit ≤ consumed → operation = skippedOperation) ∧ Bounded limit overrun consumed operation ∧
      Halts limit overrun (consumed + operation.2.cpuTimeMs) rest

variable {consumed i index position j : Nat} {scan : RelayScan}

theorem cpuTime_cons (operation : Operation) (rest : List Operation) :
    cpuTime (operation :: rest) = operation.2.cpuTimeMs + cpuTime rest := by
  rw [cpuTime, List.map_cons, List.sum_cons, cpuTime]

variable {operations : List Operation}

theorem Halts.drop {limit overrun : Nat} (h : Halts limit overrun consumed operations) (count : Nat) :
    Halts limit overrun (consumed + cpuTime (operations.take count)) (operations.drop count) := by
  induction operations generalizing consumed count with
  | nil =>
    rw [List.drop_nil]
    trivial
  | cons operation rest ih =>
    cases count with
    | zero => exact h
    | succ count =>
      rw [List.take_succ_cons, cpuTime_cons, List.drop_succ_cons, ← Nat.add_assoc]
      exact ih h.2.2 count

variable {operation : Operation}

theorem Halts.turn {limit overrun : Nat} (h : Halts limit overrun consumed operations)
    (hi : operations[i]? = some operation) :
    (limit ≤ consumed + cpuTime (operations.take i) → operation = skippedOperation) ∧
      Bounded limit overrun (consumed + cpuTime (operations.take i)) operation := by
  obtain ⟨hlt, rfl⟩ := List.getElem?_eq_some_iff.mp hi
  have hrest := h.drop i
  rw [List.drop_eq_getElem_cons hlt] at hrest
  exact ⟨hrest.1, hrest.2.1⟩

theorem Halts.skipped {limit overrun : Nat} (h : Halts limit overrun consumed operations)
    (hlimit : limit ≤ consumed) : ∀ operation ∈ operations, operation = skippedOperation := by
  induction operations generalizing consumed with
  | nil => simp
  | cons operation rest ih =>
    intro other hother
    rcases List.mem_cons.mp hother with rfl | hrest
    · exact h.1 hlimit
    · exact ih h.2.2 (Nat.le_trans hlimit (Nat.le_add_right _ _)) other hrest

section

variable {sha : Sha256} {plan : TrialPlan} {profile : TrialProfile} {buildSucceeded : Bool}

end

/-- What an accepted execution satisfies: the limits of the build, of the steps and of all together. -/
structure CpuChecked (limit overrun : Nat) (execution : TrialExecution) : Prop where
  build : Bounded limit overrun 0 (execution.build.outcome, execution.build.usage)
  halts : Halts limit overrun execution.build.usage.cpuTimeMs
    (execution.steps.map (fun item => (item.outcome, item.usage)))
  total : measuredLimit (cpuTime execution.operations) limit overrun (anyCpuExceeded execution) = true

section

variable {execution}
variable {limit overrun : Nat} {execution : TrialExecution}

theorem CpuChecked.turn (h : CpuChecked limit overrun execution)
    (hi : execution.operations[i]? = some operation) :
    (limit < execution.cpuTimeOf i → operation = skippedOperation) ∧
      Bounded limit overrun (execution.cpuTimeOf i) operation := by
  cases i with
  | zero =>
    obtain rfl := Option.some.inj hi
    exact ⟨fun hlimit => absurd hlimit (Nat.not_lt_zero limit), h.build⟩
  | succ i =>
    rw [TrialExecution.cpuTimeOf, TrialExecution.operations, List.take_succ_cons, cpuTime_cons]
    obtain ⟨hskipped, hbounded⟩ := h.halts.turn hi
    exact ⟨fun hlimit => hskipped (Nat.le_of_lt hlimit), hbounded⟩

/-- Behind an operation that passed the limit everything is skipped. -/
theorem CpuChecked.skipped (h : CpuChecked limit overrun execution)
    (hlimit : limit < execution.cpuTimeOf (position + 1)) :
    ∀ operation ∈ execution.operations.drop (position + 1), operation = skippedOperation := by
  refine (h.halts.drop position).skipped (Nat.le_of_lt ?_)
  exact hlimit

theorem CpuChecked.after (h : CpuChecked limit overrun execution)
    (hlimit : limit < execution.cpuTimeOf (i + 1)) (hij : i < j)
    (hj : execution.operations[j]? = some operation) : operation = skippedOperation := by
  refine h.skipped hlimit operation (List.mem_of_getElem? (i := j - (i + 1)) ?_)
  rw [List.getElem?_drop, show i + 1 + (j - (i + 1)) = j by omega]
  exact hj

end

end Workstream.Trials
