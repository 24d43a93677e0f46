import Mathlib.Logic.Basic

/-!
# Three-valued conditions

A condition over nullable columns is true, false or unknown. `IF`, `WHERE` and `EXISTS` act only on
a true one; a `CHECK` rejects only a false one.
-/

namespace Foundation
namespace Sql

/-- Three-valued truth: `none` is unknown. -/
abbrev Truth := Option Bool

def and : Truth → Truth → Truth
  | some false, _ => some false
  | _, some false => some false
  | some true, t => t
  | none, _ => none

def or : Truth → Truth → Truth
  | some true, _ => some true
  | _, some true => some true
  | some false, t => t
  | none, _ => none

def not : Truth → Truth := Option.map Bool.not

def compare {α β : Type} (r : α → β → Bool) (a : Option α) (b : Option β) : Truth :=
  a.bind fun a => b.map (r a)

def eq {α : Type} [DecidableEq α] (a b : Option α) : Truth := compare (fun a b => a = b) a b

def lt (a b : Option Nat) : Truth := compare (fun a b => a < b) a b

def le (a b : Option Nat) : Truth := compare (fun a b => a ≤ b) a b

def notIn {α : Type} [DecidableEq α] (a : Option α) (values : List α) : Truth :=
  a.map fun a => !(values.contains a)

def isNull {α : Type} (a : Option α) : Truth := some a.isNone

def isNotNull {α : Type} (a : Option α) : Truth := some a.isSome

/-- Operator `IS DISTINCT FROM`: null is a value like any other. -/
def distinct {α : Type} [DecidableEq α] (a b : α) : Truth := some (decide (a ≠ b))

variable (t : Truth)

/-- What makes `IF` and `WHERE` act. -/
def holds : Bool := t == some true

/-- What lets a row pass a `CHECK`. -/
def passes : Bool := t != some false

section

variable {α β : Type}

@[simp] theorem compare_some (r : α → β → Bool) (a : α) (b : β) :
    compare r (some a) (some b) = some (r a b) := rfl

@[simp] theorem compare_none_left (r : α → β → Bool) (b : Option β) : compare r none b = none := rfl

@[simp] theorem compare_none_right (r : α → β → Bool) (a : Option α) : compare r a none = none := by
  cases a <;> rfl

@[simp] theorem eq_some [DecidableEq α] (a b : α) : eq (some a) (some b) = some (decide (a = b)) := rfl

@[simp] theorem eq_none_right [DecidableEq α] (a : Option α) : eq a none = none := compare_none_right _ a

@[simp] theorem eq_none_left [DecidableEq α] (b : Option α) : eq none b = none := rfl

@[simp] theorem lt_some (a b : Nat) : lt (some a) (some b) = some (decide (a < b)) := rfl

@[simp] theorem lt_none_right (a : Option Nat) : lt a none = none := compare_none_right _ a

@[simp] theorem lt_none_left (b : Option Nat) : lt none b = none := rfl

@[simp] theorem le_some (a b : Nat) : le (some a) (some b) = some (decide (a ≤ b)) := rfl

@[simp] theorem le_none_right (a : Option Nat) : le a none = none := compare_none_right _ a

@[simp] theorem le_none_left (b : Option Nat) : le none b = none := rfl

@[simp] theorem notIn_some [DecidableEq α] (a : α) (values : List α) :
    notIn (some a) values = some (!(values.contains a)) := rfl

@[simp] theorem isNull_some (a : α) : isNull (some a) = some false := rfl

@[simp] theorem isNull_none : isNull (none : Option α) = some true := rfl

@[simp] theorem isNotNull_some (a : α) : isNotNull (some a) = some true := rfl

@[simp] theorem isNotNull_none : isNotNull (none : Option α) = some false := rfl

@[simp] theorem distinct_eq [DecidableEq α] (a b : α) : distinct a b = some (decide (a ≠ b)) := rfl

@[simp] theorem and_some (a b : Bool) : and (some a) (some b) = some (a && b) := by
  cases a <;> cases b <;> rfl

@[simp] theorem or_some (a b : Bool) : or (some a) (some b) = some (a || b) := by
  cases a <;> cases b <;> rfl

@[simp] theorem and_false_right : and t (some false) = some false := by
  rcases t with _ | _ | _ <;> rfl

@[simp] theorem and_false_left : and (some false) t = some false := rfl

@[simp] theorem and_true_left : and (some true) t = t := by
  rcases t with _ | _ | _ <;> rfl

@[simp] theorem or_true_right : or t (some true) = some true := by
  rcases t with _ | _ | _ <;> rfl

@[simp] theorem or_true_left : or (some true) t = some true := rfl

@[simp] theorem or_false_left : or (some false) t = t := by
  rcases t with _ | _ | _ <;> rfl

@[simp] theorem not_some (b : Bool) : not (some b) = some (!b) := rfl

@[simp] theorem not_none : not none = none := rfl

@[simp] theorem holds_some (b : Bool) : holds (some b) = b := by cases b <;> rfl

@[simp] theorem holds_none : holds none = false := rfl

@[simp] theorem passes_some (b : Bool) : passes (some b) = b := by cases b <;> rfl

@[simp] theorem passes_none : passes none = true := rfl

theorem passes_le {a b : Option Nat} :
    passes (le a b) = true ↔ ∀ x y, a = some x → b = some y → x ≤ y := by
  cases a <;> cases b <;> simp

theorem passes_some_le {x : Nat} {b : Option Nat} :
    passes (le (some x) b) = true ↔ ∀ y, b = some y → x ≤ y := by
  cases b <;> simp

theorem passes_lt {a b : Option Nat} :
    passes (lt a b) = true ↔ ∀ x y, a = some x → b = some y → x < y := by
  cases a <;> cases b <;> simp

end

end Sql
end Foundation
