import Mathlib.Data.List.Sort
import Mathlib.Data.List.Nodup
import Mathlib.Data.String.Basic

/-!
# JSON values and their canonical text

The canonical text of a value is the one `json.dumps(value, sort_keys=True,
separators=(",", ":"), ensure_ascii=False)` writes: object members in code point order of their
keys, no blanks, and only quotation marks, backslashes and control characters escaped. Numbers are
integers.
-/

namespace Foundation

/-- JSON values whose numbers are integers. -/
inductive Json where
  | null
  | bool (b : Bool)
  | num (n : Int)
  | str (s : String)
  | arr (items : List Json)
  | obj (fields : List (String × Json))
deriving Repr, Inhabited

namespace Json

mutual
def beq : Json → Json → Bool
  | .null, .null => true
  | .bool a, .bool b => a = b
  | .num a, .num b => a = b
  | .str a, .str b => a = b
  | .arr a, .arr b => beqItems a b
  | .obj a, .obj b => beqFields a b
  | _, _ => false

def beqItems : List Json → List Json → Bool
  | [], [] => true
  | a :: as, b :: bs => beq a b && beqItems as bs
  | _, _ => false

def beqFields : List (String × Json) → List (String × Json) → Bool
  | [], [] => true
  | (k, a) :: as, (l, b) :: bs => (k = l) && (beq a b && beqFields as bs)
  | _, _ => false
end

mutual
theorem beq_iff : ∀ a b : Json, beq a b = true ↔ a = b
  | .null, b => by cases b <;> simp [beq]
  | .bool a, b => by cases b <;> simp [beq]
  | .num a, b => by cases b <;> simp [beq]
  | .str a, b => by cases b <;> simp [beq]
  | .arr a, b => by cases b <;> simp [beq, beqItems_iff a]
  | .obj a, b => by cases b <;> simp [beq, beqFields_iff a]

theorem beqItems_iff : ∀ a b : List Json, beqItems a b = true ↔ a = b
  | [], b => by cases b <;> simp [beqItems]
  | a :: as, b => by cases b <;> simp [beqItems, beq_iff a, beqItems_iff as]

theorem beqFields_iff : ∀ a b : List (String × Json), beqFields a b = true ↔ a = b
  | [], b => by cases b <;> simp [beqFields]
  | (k, a) :: as, b => by
    cases b with
    | nil => simp [beqFields]
    | cons p bs =>
      obtain ⟨l, b⟩ := p
      simp [beqFields, beq_iff a, beqFields_iff as, and_assoc]
end

instance : DecidableEq Json := fun a b => decidable_of_iff _ (beq_iff a b)

/-- What holds of an array or object whenever it holds of what they contain, holds of every value. -/
@[elab_as_elim]
theorem induction {motive : Json → Prop} (null : motive .null) (bool : ∀ b, motive (.bool b))
    (num : ∀ n, motive (.num n)) (str : ∀ s, motive (.str s))
    (arr : ∀ items : List Json, (∀ v ∈ items, motive v) → motive (.arr items))
    (obj : ∀ fields : List (String × Json), (∀ p ∈ fields, motive p.2) → motive (.obj fields))
    (v : Json) : motive v :=
  @Json.rec motive (fun items => ∀ v ∈ items, motive v) (fun fields => ∀ p ∈ fields, motive p.2)
    (fun p => motive p.2) null bool num str arr obj
    (List.forall_mem_nil _) (fun _ _ hv hvs => List.forall_mem_cons.mpr ⟨hv, hvs⟩)
    (List.forall_mem_nil _) (fun _ _ hp hps => List.forall_mem_cons.mpr ⟨hp, hps⟩)
    (fun _ _ hv => hv) v

def get? : Json → String → Option Json
  | .obj fields, key => fields.lookup key
  | _, _ => none

@[simp] theorem get?_cons (k key : String) (v : Json) (rest : List (String × Json)) :
    get? (.obj ((k, v) :: rest)) key = if key = k then some v else get? (.obj rest) key := by
  by_cases h : key = k
  · simp [get?, h]
  · have hne : (key == k) = false := by simpa using h
    simp [get?, List.lookup_cons, h, hne]

variable (fields : List (String × Json))

def sortFields : List (String × Json) :=
  fields.insertionSort (fun a b => a.1 ≤ b.1)

theorem sortFields_perm : (sortFields fields).Perm fields :=
  List.perm_insertionSort _ fields

theorem sortFields_pairwise : (sortFields fields).Pairwise (fun a b => a.1 ≤ b.1) := by
  exact List.pairwise_insertionSort _ fields

theorem sortFields_of_pairwise {fields : List (String × Json)}
    (h : fields.Pairwise (fun a b => a.1 ≤ b.1)) : sortFields fields = fields :=
  List.Pairwise.insertionSort_eq h

mutual
/-- The value with the members of every object in key order. -/
def canon : Json → Json
  | .null => .null
  | .bool b => .bool b
  | .num n => .num n
  | .str s => .str s
  | .arr items => .arr (canonItems items)
  | .obj fields => .obj (sortFields (canonFields fields))

def canonItems : List Json → List Json
  | [] => []
  | v :: vs => canon v :: canonItems vs

def canonFields : List (String × Json) → List (String × Json)
  | [] => []
  | (k, v) :: rest => (k, canon v) :: canonFields rest
end

theorem canonFields_eq_map : canonFields fields = fields.map (fun p => (p.1, canon p.2)) := by
  induction fields with
  | nil => rfl
  | cons p rest ih => obtain ⟨k, v⟩ := p; simp [canonFields, ih]

theorem canonItems_eq_map (items : List Json) : canonItems items = items.map canon := by
  induction items with
  | nil => rfl
  | cons v rest ih => simp [canonItems, ih]

theorem canonFields_sortFields : canonFields (sortFields fields) = sortFields (canonFields fields) := by
  simp only [canonFields_eq_map, sortFields]
  exact List.map_insertionSort _ _ _ _ (fun _ _ _ _ => Iff.rfl)

mutual
theorem canon_canon : ∀ v : Json, canon (canon v) = canon v
  | .null => rfl
  | .bool _ => rfl
  | .num _ => rfl
  | .str _ => rfl
  | .arr items => by rw [canon, canon, canonItems_canonItems items]
  | .obj fields => by
    rw [canon, canon, canonFields_sortFields, canonFields_canonFields fields,
      sortFields_of_pairwise (sortFields_pairwise _)]

theorem canonItems_canonItems : ∀ items : List Json,
    canonItems (canonItems items) = canonItems items
  | [] => rfl
  | v :: vs => by rw [canonItems, canonItems, canon_canon v, canonItems_canonItems vs]

theorem canonFields_canonFields : ∀ fields : List (String × Json),
    canonFields (canonFields fields) = canonFields fields
  | [] => rfl
  | (k, v) :: rest => by rw [canonFields, canonFields, canon_canon v, canonFields_canonFields rest]
end

mutual
/-- Every object of the value has distinct keys, as every dictionary does. -/
def DistinctKeys : Json → Prop
  | .arr items => DistinctKeysItems items
  | .obj fields => (fields.map Prod.fst).Nodup ∧ DistinctKeysFields fields
  | _ => True

def DistinctKeysItems : List Json → Prop
  | [] => True
  | v :: vs => DistinctKeys v ∧ DistinctKeysItems vs

def DistinctKeysFields : List (String × Json) → Prop
  | [] => True
  | (_, v) :: rest => DistinctKeys v ∧ DistinctKeysFields rest
end

theorem distinctKeysItems_iff (items : List Json) :
    DistinctKeysItems items ↔ ∀ v ∈ items, DistinctKeys v := by
  induction items with
  | nil => simp [DistinctKeysItems]
  | cons v vs ih => simp [DistinctKeysItems, ih]

theorem distinctKeysFields_iff : DistinctKeysFields fields ↔ ∀ p ∈ fields, DistinctKeys p.2 := by
  induction fields with
  | nil => simp [DistinctKeysFields]
  | cons p rest ih => obtain ⟨k, v⟩ := p; simp [DistinctKeysFields, ih]

theorem keys_canonFields : (canonFields fields).map Prod.fst = fields.map Prod.fst := by
  rw [canonFields_eq_map, List.map_map]
  rfl

theorem canon_obj_of_sorted {fields : List (String × Json)}
    (h : (fields.map Prod.fst).Pairwise (· ≤ ·)) : canon (.obj fields) = .obj (canonFields fields) := by
  rw [canon, sortFields_of_pairwise]
  rw [← keys_canonFields, List.pairwise_map] at h
  exact h

mutual
theorem distinctKeys_canon : ∀ v : Json, DistinctKeys v → DistinctKeys (canon v)
  | .null => fun h => h
  | .bool _ => fun h => h
  | .num _ => fun h => h
  | .str _ => fun h => h
  | .arr items => fun h => distinctKeysItems_canonItems items h
  | .obj fields => fun h => by
    have hperm := sortFields_perm (canonFields fields)
    refine ⟨?_, ?_⟩
    · rw [(hperm.map Prod.fst).nodup_iff, keys_canonFields]
      exact h.1
    · rw [distinctKeysFields_iff]
      intro p hp
      exact (distinctKeysFields_iff _).mp (distinctKeysFields_canonFields fields h.2) p
        (hperm.mem_iff.mp hp)

theorem distinctKeysItems_canonItems : ∀ items : List Json,
    DistinctKeysItems items → DistinctKeysItems (canonItems items)
  | [] => fun h => h
  | v :: vs => fun h => ⟨distinctKeys_canon v h.1, distinctKeysItems_canonItems vs h.2⟩

theorem distinctKeysFields_canonFields : ∀ fields : List (String × Json),
    DistinctKeysFields fields → DistinctKeysFields (canonFields fields)
  | [] => fun h => h
  | (_, v) :: rest => fun h => ⟨distinctKeys_canon v h.1, distinctKeysFields_canonFields rest h.2⟩
end

/-- Objects with one canonical form agree in every member that both have. -/
theorem canon_member_eq {fields fields' : List (String × Json)} (key : String) (v w : Json)
    (hkeys : (fields'.map Prod.fst).Nodup) (h : canon (.obj fields) = canon (.obj fields'))
    (hv : (key, v) ∈ fields) (hw : (key, w) ∈ fields') : canon v = canon w := by
  simp only [canon, Json.obj.injEq] at h
  have hperm : (canonFields fields).Perm (canonFields fields') := by
    have hsorted := sortFields_perm (canonFields fields)
    rw [h] at hsorted
    exact hsorted.symm.trans (sortFields_perm _)
  rw [canonFields_eq_map, canonFields_eq_map] at hperm
  have hmem := hperm.mem_iff.mp (List.mem_map_of_mem hv)
  obtain ⟨⟨key', w'⟩, hw', heq⟩ := List.mem_map.mp hmem
  obtain ⟨rfl, hcanon⟩ := Prod.mk.inj heq
  have hsame := List.inj_on_of_nodup_map hkeys hw' hw rfl
  rw [← hcanon, (Prod.mk.inj hsame).2]

def escape (c : Char) : List Char :=
  if c = '"' then ['\\', '"']
  else if c = '\\' then ['\\', '\\']
  else if c = '\n' then ['\\', 'n']
  else if c = '\r' then ['\\', 'r']
  else if c = '\t' then ['\\', 't']
  else if c = '\x0c' then ['\\', 'f']
  else if c = '\x08' then ['\\', 'b']
  else if c.toNat < 32 then
    ['\\', 'u', '0', '0', Nat.digitChar (c.toNat / 16), Nat.digitChar (c.toNat % 16)]
  else [c]

def renderString (s : String) : List Char :=
  '"' :: s.toList.flatMap escape ++ ['"']

def renderInt : Int → List Char
  | .ofNat n => Nat.toDigits 10 n
  | .negSucc n => '-' :: Nat.toDigits 10 (n + 1)

mutual
def render : Json → List Char
  | .null => ['n', 'u', 'l', 'l']
  | .bool true => ['t', 'r', 'u', 'e']
  | .bool false => ['f', 'a', 'l', 's', 'e']
  | .num n => renderInt n
  | .str s => renderString s
  | .arr items => '[' :: renderItems items
  | .obj fields => '{' :: renderFields fields

/-- The items of an array up to the closing bracket. -/
def renderItems : List Json → List Char
  | [] => [']']
  | v :: vs => render v ++ renderMoreItems vs

def renderMoreItems : List Json → List Char
  | [] => [']']
  | v :: vs => ',' :: render v ++ renderMoreItems vs

/-- The members of an object up to the closing brace. -/
def renderFields : List (String × Json) → List Char
  | [] => ['}']
  | (k, v) :: rest => renderString k ++ ':' :: render v ++ renderMoreFields rest

def renderMoreFields : List (String × Json) → List Char
  | [] => ['}']
  | (k, v) :: rest => ',' :: renderString k ++ ':' :: render v ++ renderMoreFields rest
end

/-- The canonical text of a value. -/
def dumps (v : Json) : String := String.ofList (render (canon v))

theorem dumps_canon (v : Json) : dumps (canon v) = dumps v := by
  rw [dumps, canon_canon, dumps]

end Json
end Foundation
