import Workstream.Outbox.Payloads

/-!
# The payloads that are accepted

`_encoding_budget` walks a payload once, counting nodes and bytes as it goes and refusing at the first
value that is not allowed. Here are the rules without the walk.
-/

namespace Workstream.Outbox.Payloads
open Foundation Json

/-- The values that a payload may have as an element or a member at a depth. -/
def Admissible (casefold : String → String) : Json → ℕ → Prop :=
  cata
    (fun leaf _ =>
      match leaf with
      | .str s => (utf8 s).length ≤ maxStringBytes
      | .num n => n.natAbs ≤ maxIntegerMagnitude
      | _ => True)
    (fun items depth => (depth ≤ maxDepth ∧ items.length ≤ maxMembers) ∧ ∀ item ∈ items, item (depth + 1))
    (fun members depth => (depth ≤ maxDepth ∧ members.length ≤ maxMembers) ∧ ∀ member ∈ members,
      isSensitiveKey casefold member.1 = false ∧ ((utf8 member.1).length ≤ maxKeyBytes ∧
        isKey member.1 = true) ∧ member.2 (depth + 1))

/-- The values of a tree, itself included. -/
def nodeCount : Json → ℕ :=
  cata (fun _ => 1) (fun counts => 1 + counts.sum) (fun members => 1 + (members.map Prod.snd).sum)

/-- The bytes a payload is charged for: every character of a string and of a key as if it were escaped. -/
def charge : Json → ℕ :=
  cata
    (fun leaf =>
      match leaf with
      | .str s => 6 * (utf8 s).length + 2
      | .num n => (renderInt n).length
      | .bool _ => 5
      | _ => 4)
    (fun items => 2 + (items.length - 1) + items.sum)
    (fun members => 2 + (members.length - 1) +
      (members.map fun member => 6 * (utf8 member.1).length + 3 + member.2).sum)

variable {casefold : String → String}

def Walks (casefold : String → String) (v : Json) : Prop :=
  ∀ depth nodes answer, encodingBudget casefold v depth nodes = .ok answer ↔
    Admissible casefold v depth ∧ nodes + nodeCount v ≤ maxNodes ∧ (charge v, nodes + nodeCount v) = answer

theorem countNode_eq_ok_iff {nodes nodes' : ℕ} :
    countNode nodes = .ok nodes' ↔ nodes + 1 ≤ maxNodes ∧ nodes + 1 = nodes' := by
  simp only [countNode, eq_ok, exists_const]

theorem itemsBudget_eq_ok_iff {items : List Json} (hitems : ∀ v ∈ items, Walks casefold v)
    {depth nodes : ℕ} (hnodes : nodes ≤ maxNodes) (answer : ℕ × ℕ) :
    itemsBudget casefold items depth nodes = .ok answer ↔
      (∀ v ∈ items, Admissible casefold v depth) ∧ nodes + (items.map nodeCount).sum ≤ maxNodes ∧
        ((items.map charge).sum, nodes + (items.map nodeCount).sum) = answer := by
  induction items generalizing nodes answer with
  | nil => simp [itemsBudget, pure_eq_ok, hnodes]
  | cons v vs ih =>
    obtain ⟨hv, hvs⟩ := List.forall_mem_cons.mp hitems
    simp only [itemsBudget, eq_ok, hv _ _ _, List.forall_mem_cons, List.map_cons, List.sum_cons]
    constructor
    · rintro ⟨_, ⟨hadm, hle, rfl⟩, _, hrest, rfl⟩
      obtain ⟨hadms, hles, rfl⟩ := (ih hvs hle _).mp hrest
      exact ⟨⟨hadm, hadms⟩, by omega, by simp only [Nat.add_assoc]⟩
    · rintro ⟨⟨hadm, hadms⟩, hle, rfl⟩
      have hfirst : nodes + nodeCount v ≤ maxNodes := by omega
      exact ⟨_, ⟨hadm, hfirst, rfl⟩, _, (ih hvs hfirst _).mpr ⟨hadms, by omega, rfl⟩, by
        simp only [Nat.add_assoc]⟩

theorem membersBudget_eq_ok_iff {fields : List (String × Json)} (hfields : ∀ p ∈ fields, Walks casefold p.2)
    {depth nodes : ℕ} (hnodes : nodes ≤ maxNodes) (answer : ℕ × ℕ) :
    membersBudget casefold fields depth nodes = .ok answer ↔
      (∀ p ∈ fields, isSensitiveKey casefold p.1 = false ∧
        ((utf8 p.1).length ≤ maxKeyBytes ∧ isKey p.1 = true) ∧ Admissible casefold p.2 depth) ∧
        nodes + (fields.map fun p => nodeCount p.2).sum ≤ maxNodes ∧
        ((fields.map fun p => 6 * (utf8 p.1).length + 3 + charge p.2).sum,
          nodes + (fields.map fun p => nodeCount p.2).sum) = answer := by
  induction fields generalizing nodes answer with
  | nil => simp [membersBudget, pure_eq_ok, hnodes]
  | cons p rest ih =>
    obtain ⟨hp, hrests⟩ := List.forall_mem_cons.mp hfields
    simp only [membersBudget, eq_ok, hp _ _ _, List.forall_mem_cons, List.map_cons, List.sum_cons,
      exists_const]
    constructor
    · rintro ⟨hsafe, hkey, _, ⟨hadm, hle, rfl⟩, _, hrest, rfl⟩
      obtain ⟨hadms, hles, rfl⟩ := (ih hrests hle _).mp hrest
      exact ⟨⟨⟨hsafe, hkey, hadm⟩, hadms⟩, by omega, by simp only [Nat.add_assoc]⟩
    · rintro ⟨⟨⟨hsafe, hkey, hadm⟩, hadms⟩, hle, rfl⟩
      have hfirst : nodes + nodeCount p.2 ≤ maxNodes := by omega
      exact ⟨hsafe, hkey, _, ⟨hadm, hfirst, rfl⟩, _, (ih hrests hfirst _).mpr ⟨hadms, by omega, rfl⟩, by
        simp only [Nat.add_assoc]⟩

theorem walks (casefold : String → String) (v : Json) : Walks casefold v := by
  induction v using Json.induction with
  | null | bool =>
    intro depth nodes answer
    simp only [encodingBudget, eq_ok, countNode_eq_ok_iff]
    constructor
    · rintro ⟨_, ⟨hle, rfl⟩, rfl⟩
      exact ⟨trivial, hle, rfl⟩
    · rintro ⟨-, hle, rfl⟩
      exact ⟨_, ⟨hle, rfl⟩, rfl⟩
  | num | str =>
    intro depth nodes answer
    simp only [encodingBudget, eq_ok, countNode_eq_ok_iff, exists_const]
    constructor
    · rintro ⟨_, ⟨hle, rfl⟩, hleaf, rfl⟩
      exact ⟨hleaf, hle, rfl⟩
    · rintro ⟨hleaf, hle, rfl⟩
      exact ⟨_, ⟨hle, rfl⟩, hleaf, rfl⟩
  | arr items ih =>
    intro depth nodes answer
    have hadm : Admissible casefold (.arr items) depth ↔ (depth ≤ maxDepth ∧ items.length ≤ maxMembers) ∧
        ∀ v ∈ items, Admissible casefold v (depth + 1) := by
      simp [Admissible, cata_arr]
    have hcount : nodeCount (.arr items) = 1 + (items.map nodeCount).sum := cata_arr ..
    have hcharge : charge (.arr items) = 2 + (items.length - 1) + (items.map charge).sum := by
      simp [charge, cata_arr]
    simp only [encodingBudget, eq_ok, countNode_eq_ok_iff, exists_const, hadm, hcount, hcharge]
    constructor
    · rintro ⟨_, ⟨hle, rfl⟩, hbound, _, hitems, rfl⟩
      obtain ⟨hadms, hles, rfl⟩ := (itemsBudget_eq_ok_iff ih hle _).mp hitems
      exact ⟨⟨hbound, hadms⟩, by omega, by simp only [Nat.add_assoc]⟩
    · rintro ⟨⟨hbound, hadms⟩, hle, rfl⟩
      have hfirst : nodes + 1 ≤ maxNodes := by omega
      exact ⟨_, ⟨hfirst, rfl⟩, hbound, _, (itemsBudget_eq_ok_iff ih hfirst _).mpr ⟨hadms, by omega, rfl⟩, by
        simp only [Nat.add_assoc]⟩
  | obj fields ih =>
    intro depth nodes answer
    have hadm : Admissible casefold (.obj fields) depth ↔
        (depth ≤ maxDepth ∧ fields.length ≤ maxMembers) ∧ ∀ p ∈ fields, isSensitiveKey casefold p.1 = false ∧
          ((utf8 p.1).length ≤ maxKeyBytes ∧ isKey p.1 = true) ∧ Admissible casefold p.2 (depth + 1) := by
      simp [Admissible, cata_obj]
    have hcount : nodeCount (.obj fields) = 1 + (fields.map fun p => nodeCount p.2).sum := by
      simp [nodeCount, cata_obj, Function.comp_def]
    have hcharge : charge (.obj fields) = 2 + (fields.length - 1) +
        (fields.map fun p => 6 * (utf8 p.1).length + 3 + charge p.2).sum := by
      simp [charge, cata_obj, Function.comp_def]
    simp only [encodingBudget, eq_ok, countNode_eq_ok_iff, exists_const, hadm, hcount, hcharge]
    constructor
    · rintro ⟨_, ⟨hle, rfl⟩, hbound, _, hfields, rfl⟩
      obtain ⟨hadms, hles, rfl⟩ := (membersBudget_eq_ok_iff ih hle _).mp hfields
      exact ⟨⟨hbound, hadms⟩, by omega, by simp only [Nat.add_assoc]⟩
    · rintro ⟨⟨hbound, hadms⟩, hle, rfl⟩
      have hfirst : nodes + 1 ≤ maxNodes := by omega
      exact ⟨_, ⟨hfirst, rfl⟩, hbound, _, (membersBudget_eq_ok_iff ih hfirst _).mpr ⟨hadms, by omega, rfl⟩, by
        simp only [Nat.add_assoc]⟩

/-- A payload is accepted, and returned as it is, exactly if it is an object, every value in it is
admissible where it stands, and its nodes and its charge are within the limits; how the walk came to its
counts does not matter. -/
theorem validateOutboxPayload_ok_iff (casefold : String → String) (v accepted : Json) :
    validateOutboxPayload casefold v = .ok accepted ↔ v = accepted ∧ (∃ fields, v = .obj fields) ∧
      Admissible casefold v 1 ∧ nodeCount v ≤ maxNodes ∧ charge v ≤ maxEncodingBudget := by
  cases v with
  | null | bool | num | str | arr => simp [validateOutboxPayload]
  | obj fields =>
    rw [validateOutboxPayload_eq_ok]
    simp only [walks casefold _ _ _ _, Nat.zero_add, Prod.mk.injEq]
    constructor
    · rintro ⟨rfl, _, _, ⟨hadm, hcount, rfl, rfl⟩, hle⟩
      exact ⟨rfl, ⟨fields, rfl⟩, hadm, hcount, hle⟩
    · rintro ⟨rfl, -, hadm, hcount, hle⟩
      exact ⟨rfl, _, _, ⟨hadm, hcount, rfl, rfl⟩, hle⟩

end Workstream.Outbox.Payloads
