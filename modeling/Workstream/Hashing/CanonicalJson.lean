import Workstream.Core
import Workstream.Foundation.Checks
import Workstream.Foundation.Utf8
import Mathlib.Data.List.Induction
import Mathlib.Data.List.TakeWhile

/-!
# One canonical JSON in three languages

Four encoders write the text that is digested: `json.dumps` under `canonical_json_hash`,
`_canonical_json` of `checkers/api/external.py`, `canonical_json` of the checker SDK, and the function
`project_guide_projection_canonical_json` of the database.
-/

namespace Workstream.Hashing
open Foundation

inductive Refusal where
  | contract (message : String)
deriving DecidableEq

def memberText (member : String × List Char) : List Char :=
  Json.renderString member.1 ++ ':' :: member.2

def arrayText (items : List (List Char)) : List Char :=
  '[' :: [','].intercalate items ++ [']']

def objectText (members : List (String × List Char)) : List Char :=
  '{' :: [','].intercalate (members.map memberText) ++ ['}']

/-- Members by the code points of their keys, as `sorted` and `sort_keys` order them. -/
def sortedItems {α : Type} (members : List (String × α)) : List (String × α) :=
  members.insertionSort (fun a b => a.1 ≤ b.1)

/-- Members by the bytes of their keys, as `Vec::sort` and the collation `C` order them. -/
def sortedBytes {α : Type} (members : List (String × α)) : List (String × α) :=
  members.insertionSort (fun a b => utf8 a.1 ≤ utf8 b.1)

def hasNul (text : String) : Bool := text.toList.contains '\x00'

mutual

/-- No string and no key of the value holds the character NUL. -/
def noNul : Json → Bool
  | .str s => !hasNul s
  | .arr items => noNulItems items
  | .obj fields => noNulFields fields
  | _ => true

def noNulItems : List Json → Bool
  | [] => true
  | item :: items => noNul item && noNulItems items

def noNulFields : List (String × Json) → Bool
  | [] => true
  | (key, item) :: rest => !hasNul key && noNul item && noNulFields rest
end

namespace External

def notCanonical : Refusal := .contract "external checker value is not canonical JSON"

mutual
def writeValue : Json → Except Refusal (List Char)
  | .obj fields => do
    require (∀ p ∈ fields, hasNul p.1 = false) notCanonical
    let members ← writeMembers fields
    pure (objectText (sortedItems members))
  | .arr items => do
    let texts ← writeItems items
    pure (arrayText texts)
  | .null => pure "null".toList
  | .bool b => pure (if b then "true" else "false").toList
  | .num n => pure (Json.renderInt n)
  | .str s => do
    require (hasNul s = false) notCanonical
    pure (Json.renderString s)

def writeItems : List Json → Except Refusal (List (List Char))
  | [] => pure []
  | item :: items => do
    let text ← writeValue item
    let texts ← writeItems items
    pure (text :: texts)

def writeMembers : List (String × Json) → Except Refusal (List (String × List Char))
  | [] => pure []
  | (key, item) :: rest => do
    let text ← writeValue item
    let members ← writeMembers rest
    pure ((key, text) :: members)
end

def canonicalJson (value : Json) : Except Refusal String :=
  (writeValue value).map String.ofList

/-- The digest of a value in the backend. -/
def externalCheckerJsonHash (sha256 : String → String) (value : Json) : Except Refusal String :=
  (canonicalJson value).map (digestOf sha256)

end External

namespace Sdk

/-- `serde_json::Value`; a number is kept as its source text. -/
inductive Value where
  | null
  | bool (b : Bool)
  | number (source : String)
  | string (s : String)
  | array (items : List Value)
  | object (members : List (String × Value))

/-- What the writer returns for a numeral with a fraction or an exponent is left open. -/
def canonicalNumber (float : String → Except Refusal String) (source : String) :
    Except Refusal String :=
  if source.toList.any (fun c => c = '.' ∨ c = 'e' ∨ c = 'E') then float source
  else pure (if source = "-0" then "0" else source)

def nulRefused : Refusal := .contract "NUL is not canonical JSON"

def writeMember (member : String × Except Refusal (List Char)) :
    Except Refusal (String × List Char) := do
  require (hasNul member.1 = false) nulRefused
  let text ← member.2
  pure (member.1, text)

variable (float : String → Except Refusal String)

mutual
def writeCanonical : Value → Except Refusal (List Char)
  | .null => pure "null".toList
  | .bool b => pure (if b then "true" else "false").toList
  | .number source => (canonicalNumber float source).map String.toList
  | .string s => do
    require (hasNul s = false) nulRefused
    pure (Json.renderString s)
  | .array items => do
    let texts ← writeItems items
    pure (arrayText texts)
  | .object members => do
    let members ← (sortedBytes (valueTexts members)).mapM writeMember
    pure (objectText members)

def writeItems : List Value → Except Refusal (List (List Char))
  | [] => pure []
  | item :: items => do
    let text ← writeCanonical item
    let texts ← writeItems items
    pure (text :: texts)

/-- What writing the value under each key returns. -/
def valueTexts : List (String × Value) → List (String × Except Refusal (List Char))
  | [] => []
  | (key, item) :: rest => (key, writeCanonical item) :: valueTexts rest
end

def canonicalJson (value : Value) : Except Refusal String :=
  (writeCanonical float value).map String.ofList

def canonicalHash (sha256 : String → String) (value : Value) : Except Refusal String :=
  (canonicalJson float value).map (digestOf sha256)

/-! The value that was read: its numerals are the integers they denote. -/

mutual
def Value.toJson : Value → Option Json
  | .null => some .null
  | .bool b => some (.bool b)
  | .number source =>
    match Json.parseInt source.toList with
    | some (n, []) => some (.num n)
    | _ => none
  | .string s => some (.str s)
  | .array items => (Value.toItems items).map .arr
  | .object members => (Value.toFields members).map .obj

def Value.toItems : List Value → Option (List Json)
  | [] => some []
  | item :: items => do
    let v ← item.toJson
    let vs ← Value.toItems items
    some (v :: vs)

def Value.toFields : List (String × Value) → Option (List (String × Json))
  | [] => some []
  | (key, item) :: rest => do
    let v ← item.toJson
    let vs ← Value.toFields rest
    some ((key, v) :: vs)
end

/-- The value reads as a JSON value, whatever the order of its maps. -/
def Value.Represents (value : Value) (v : Json) : Prop :=
  ∃ w, value.toJson = some w ∧ w.canon = v.canon

end Sdk

namespace Sql

def stringAgg : List (List Char) → Option (List Char)
  | [] => none
  | rows => some ([','].intercalate rows)

mutual
def encode : Json → List Char
  | .obj fields =>
    '{' :: (stringAgg ((sortedBytes (encodeFields fields)).map memberText)).getD [] ++ ['}']
  | .arr items => '[' :: (stringAgg (encodeItems items)).getD [] ++ [']']
  -- `value::text`
  | .null => Json.render .null
  | .bool b => Json.render (.bool b)
  | .num n => Json.render (.num n)
  | .str s => Json.render (.str s)

def encodeItems : List Json → List (List Char)
  | [] => []
  | item :: items => encode item :: encodeItems items

def encodeFields : List (String × Json) → List (String × List Char)
  | [] => []
  | (key, item) :: rest => (key, encode item) :: encodeFields rest
end

/-- The canonical text that the database computes. -/
def projectGuideProjectionCanonicalJson (value : Json) : String := String.ofList (encode value)

/-- `'sha256:' || encode(sha256(convert_to(…, 'UTF8')), 'hex')` -/
def canonicalDigest (sha256 : String → String) (value : Json) : String :=
  digestOf sha256 (projectGuideProjectionCanonicalJson value)

end Sql

variable {c : Char} {cs : List Char} {n : Nat} {source : String} {v : Json}

theorem sortedBytes_eq {α : Type} (members : List (String × α)) :
    sortedBytes members = sortedItems members := by
  simp only [sortedBytes, sortedItems, utf8_le_iff]

theorem sortedItems_map {α β : Type} (f : α → β) (members : List (String × α)) :
    sortedItems (members.map (fun p => (p.1, f p.2))) =
      (sortedItems members).map (fun p => (p.1, f p.2)) := by
  symm
  apply List.map_insertionSort
  exact fun _ _ _ _ => Iff.rfl

theorem itemsText_eq_intercalate {β : Type} (text : β → List Char) (close : Char) (items : List β) :
    Json.itemsText text close items = [','].intercalate (items.map text) ++ [close] := by
  cases items with
  | nil => rfl
  | cons b bs =>
    rw [Json.itemsText, Json.moreText, ← List.append_assoc]
    congr 1
    induction bs generalizing b with
    | nil => simp
    | cons c bs ih =>
      rw [List.flatMap_cons, List.map_cons, List.map_cons, List.intercalate_cons_cons, ← List.map_cons,
        ← ih c]
      simp

/-- The canonical text of a value. -/
def canonicalText (v : Json) : List Char := v.canon.render

theorem canonicalText_arr (items : List Json) :
    canonicalText (.arr items) = arrayText (items.map canonicalText) := by
  rw [canonicalText, Json.canon, Json.render, Json.renderItems_eq, itemsText_eq_intercalate,
    Json.canonItems_eq_map, List.map_map]
  rfl

theorem canonicalText_obj (fields : List (String × Json)) :
    canonicalText (.obj fields) =
      objectText (sortedItems (fields.map (fun p => (p.1, canonicalText p.2)))) := by
  rw [canonicalText, Json.canon, Json.render, Json.renderFields_eq, itemsText_eq_intercalate,
    Json.canonFields_eq_map]
  have hsort := sortedItems_map Json.canon fields
  rw [sortedItems] at hsort
  rw [Json.sortFields, hsort, sortedItems_map canonicalText, objectText, List.map_map, List.map_map]
  rfl

theorem noNulItems_iff (items : List Json) : noNulItems items = true ↔ ∀ v ∈ items, noNul v = true := by
  induction items with
  | nil => simp [noNulItems]
  | cons v items ih => simp [noNulItems, ih]

theorem noNulFields_iff (fields : List (String × Json)) :
    noNulFields fields = true ↔ ∀ p ∈ fields, hasNul p.1 = false ∧ noNul p.2 = true := by
  induction fields with
  | nil => simp [noNulFields]
  | cons p fields ih => obtain ⟨key, v⟩ := p; simp [noNulFields, ih]

namespace External

theorem writeItems_eq {items : List Json}
    (h : ∀ v ∈ items, writeValue v = .ok (canonicalText v)) :
    writeItems items = .ok (items.map canonicalText) := by
  induction items with
  | nil => rfl
  | cons v items ih =>
    obtain ⟨hv, hitems⟩ := List.forall_mem_cons.mp h
    rw [writeItems, hv, ih hitems]
    rfl

theorem writeMembers_eq {fields : List (String × Json)}
    (h : ∀ p ∈ fields, writeValue p.2 = .ok (canonicalText p.2)) :
    writeMembers fields = .ok (fields.map (fun p => (p.1, canonicalText p.2))) := by
  induction fields with
  | nil => rfl
  | cons p fields ih =>
    obtain ⟨hp, hfields⟩ := List.forall_mem_cons.mp h
    rw [writeMembers, hp, ih hfields]
    rfl

theorem writeValue_eq (v : Json) : noNul v = true → writeValue v = .ok (canonicalText v) := by
  induction v using Json.induction with
  | null | num => exact fun _ => rfl
  | bool b => cases b <;> exact fun _ => rfl
  | str s =>
    intro h
    have hs : hasNul s = false := by simpa [noNul] using h
    rw [writeValue, require, if_pos hs]
    rfl
  | arr items ih =>
    intro h
    rw [noNul, noNulItems_iff] at h
    rw [writeValue, writeItems_eq (fun v hv => ih v hv (h v hv)), canonicalText_arr]
    rfl
  | obj fields ih =>
    intro h
    rw [noNul, noNulFields_iff] at h
    have hkeys : ∀ p ∈ fields, hasNul p.1 = false := fun p hp => (h p hp).1
    rw [writeValue, writeMembers_eq (fun p hp => ih p hp (h p hp).2), canonicalText_obj, require,
      if_pos hkeys]
    rfl

end External

namespace Sql

theorem getD_stringAgg (rows : List (List Char)) :
    (stringAgg rows).getD [] = [','].intercalate rows := by
  cases rows <;> rfl

theorem encodeItems_eq_map (items : List Json) : encodeItems items = items.map encode := by
  induction items with
  | nil => rfl
  | cons v items ih => rw [encodeItems, ih, List.map_cons]

theorem encodeFields_eq_map (fields : List (String × Json)) :
    encodeFields fields = fields.map (fun p => (p.1, encode p.2)) := by
  induction fields with
  | nil => rfl
  | cons p fields ih => rw [encodeFields, ih, List.map_cons]

theorem encode_eq (v : Json) : encode v = canonicalText v := by
  induction v using Json.induction with
  | null => rfl
  | bool => rfl
  | num => rfl
  | str => rfl
  | arr items ih =>
    rw [encode, getD_stringAgg, encodeItems_eq_map, List.map_congr_left ih, canonicalText_arr]
    rfl
  | obj fields ih =>
    have hrows : fields.map (fun p => (p.1, encode p.2)) =
        fields.map (fun p => (p.1, canonicalText p.2)) :=
      List.map_congr_left (fun p hp => by rw [ih p hp])
    rw [encode, getD_stringAgg, encodeFields_eq_map, hrows, sortedBytes_eq, canonicalText_obj]
    rfl

end Sql

theorem digitChar_of_isDigit (h : c.isDigit = true) :
    c.toNat - '0'.toNat < 10 ∧ Nat.digitChar (c.toNat - '0'.toNat) = c := by
  have hrange : 48 ≤ c.toNat ∧ c.toNat ≤ 57 := by
    simpa [Char.isDigit, UInt32.le_iff_toNat_le] using h
  have hall : ∀ n < 10, Nat.digitChar n = Char.ofNat (n + 48) := by decide
  have hsub : c.toNat - '0'.toNat = c.toNat - 48 := rfl
  refine ⟨by omega, ?_⟩
  rw [hsub, hall _ (by omega), Nat.sub_add_cancel hrange.1, Char.ofNat_toNat]

/-- A run of digits without a superfluous zero is the numeral of the number it denotes. -/
theorem toDigits_ofDigitChars (digits : List Char) (hdigits : ∀ c ∈ digits, c.isDigit = true)
    (hne : digits ≠ []) (hzero : ¬(1 < digits.length ∧ digits.head? = some '0')) :
    Nat.toDigits 10 (Nat.ofDigitChars 10 digits 0) = digits := by
  induction digits using List.reverseRecOn with
  | nil => exact absurd rfl hne
  | append_singleton digits c ih =>
    obtain ⟨hlt, hchar⟩ := digitChar_of_isDigit (hdigits c (by simp))
    rw [Nat.ofDigitChars_append, Nat.ofDigitChars_cons, Nat.ofDigitChars_nil]
    by_cases hnil : digits = []
    · subst hnil
      rw [Nat.ofDigitChars_nil, Nat.mul_zero, Nat.zero_add, Nat.toDigits_of_lt_base hlt, hchar]
      rfl
    · -- the digits before the last one start without a zero, so they denote a positive number
      have hhead : digits.head? ≠ some '0' := by
        intro hhead
        apply hzero
        rw [List.head?_append_of_ne_nil _ hnil, List.length_append]
        exact ⟨by have := List.length_pos_of_ne_nil hnil; simp; omega, hhead⟩
      have hread := ih (fun d hd => hdigits d (List.mem_append_left _ hd)) hnil (fun h => hhead h.2)
      have hpos : 0 < Nat.ofDigitChars 10 digits 0 := by
        rcases Nat.eq_zero_or_pos (Nat.ofDigitChars 10 digits 0) with h0 | hpos
        · rw [h0] at hread
          exact absurd (by rw [← hread]; rfl) hhead
        · exact hpos
      rw [← Nat.toDigits_append_toDigits (by omega) hpos hlt, hread, Nat.toDigits_of_lt_base hlt, hchar]

theorem parseNat_eq_some (h : Json.parseNat cs = some (n, [])) : Nat.toDigits 10 n = cs := by
  simp only [Json.parseNat] at h
  split at h
  · cases h
  · rename_i hshape
    obtain ⟨hn, hdrop⟩ := Prod.mk.inj (Option.some.inj h)
    have hall : ∀ c ∈ cs, c.isDigit = true := List.dropWhile_eq_nil_iff.mp hdrop
    rw [List.takeWhile_eq_self_iff.mpr hall] at hshape hn
    rw [not_or] at hshape
    exact hn ▸ toDigits_ofDigitChars cs hall hshape.1 hshape.2

theorem isDigit_of_mem_numeral (h : c ∈ Nat.toDigits 10 n) : c.isDigit = true :=
  Nat.isDigit_of_mem_toDigits (by omega) (by omega) h

theorem read_eq_some {read : Option (Int × List Char)} {q : Int × List Char}
    (h : (read.bind fun p => if Json.endsNumber p.2 = true then some p else none) = some q) :
    read = some q := by
  obtain ⟨p, hp, hends⟩ := Option.bind_eq_some_iff.mp h
  split at hends
  · rw [hp, hends]
  · cases hends

/-- The texts that read as an integer: a numeral, or a minus sign before one. -/
theorem parseInt_eq_some {n : Int} (h : Json.parseInt cs = some (n, [])) :
    (∃ m : Nat, cs = '-' :: Nat.toDigits 10 m ∧ n = -(m : Int)) ∨
      ∃ m : Nat, cs = Nat.toDigits 10 m ∧ n = (m : Int) := by
  cases cs with
  | nil => cases h
  | cons c cs =>
    simp only [Json.parseInt, Option.bind_eq_bind] at h
    split at h
    · rename_i hminus
      obtain ⟨⟨m, rest⟩, hm, hpair⟩ := Option.map_eq_some_iff.mp (read_eq_some h)
      obtain ⟨hn, rfl⟩ := Prod.mk.inj hpair
      exact .inl ⟨m, by rw [hminus, parseNat_eq_some hm], hn.symm⟩
    · obtain ⟨⟨m, rest⟩, hm, hpair⟩ := Option.map_eq_some_iff.mp (read_eq_some h)
      obtain ⟨hn, rfl⟩ := Prod.mk.inj hpair
      exact .inr ⟨m, (parseNat_eq_some hm).symm, hn.symm⟩

namespace Sdk

theorem canonicalNumber_of_digits (float : String → Except Refusal String)
    (h : ∀ c ∈ source.toList, c.isDigit = true ∨ c = '-') :
    canonicalNumber float source = .ok (if source = "-0" then "0" else source) := by
  have hplain : source.toList.any (fun c => c = '.' ∨ c = 'e' ∨ c = 'E') = false := by
    rw [List.any_eq_false]
    intro c hc hfloat
    rcases of_decide_eq_true hfloat with rfl | rfl | rfl <;> rcases h _ hc with hd | hd <;>
      exact absurd hd (by decide)
  rw [canonicalNumber, hplain]
  rfl

/-- A numeral that denotes an integer is written as that integer. -/
theorem canonicalNumber_eq (float : String → Except Refusal String) {n : Int}
    (h : Json.parseInt source.toList = some (n, [])) :
    canonicalNumber float source = .ok (String.ofList (Json.renderInt n)) := by
  rcases parseInt_eq_some h with ⟨m, hsrc, rfl⟩ | ⟨m, hsrc, rfl⟩
  · have heq : source = String.ofList ('-' :: Nat.toDigits 10 m) := by
      rw [← hsrc, String.ofList_toList]
    rw [canonicalNumber_of_digits float (fun c hc => ?_)]
    · cases m with
      | zero => rw [heq]; rfl
      | succ m =>
        have hne : source ≠ "-0" := by
          rintro rfl
          have hhead := Json.head?_toDigits (Nat.succ_ne_zero m)
          rw [← (List.cons.inj hsrc).2] at hhead
          exact hhead rfl
        rw [if_neg hne, heq]
        rfl
    · rw [hsrc] at hc
      rcases List.mem_cons.mp hc with rfl | hdigit
      · exact .inr rfl
      · exact .inl (isDigit_of_mem_numeral hdigit)
  · have hdigits : ∀ c ∈ source.toList, c.isDigit = true :=
      fun c hc => isDigit_of_mem_numeral (hsrc ▸ hc)
    rw [canonicalNumber_of_digits float (fun c hc => .inl (hdigits c hc))]
    have hne : source ≠ "-0" := by
      rintro rfl
      exact absurd (hdigits '-' (by decide)) (by decide)
    have heq : source = String.ofList (Nat.toDigits 10 m) := by rw [← hsrc, String.ofList_toList]
    rw [if_neg hne, heq]
    rfl

@[elab_as_elim]
theorem Value.induction {motive : Value → Prop} (null : motive .null) (bool : ∀ b, motive (.bool b))
    (number : ∀ source, motive (.number source)) (string : ∀ s, motive (.string s))
    (array : ∀ items : List Value, (∀ v ∈ items, motive v) → motive (.array items))
    (object : ∀ members : List (String × Value), (∀ p ∈ members, motive p.2) →
      motive (.object members)) (v : Value) : motive v :=
  @Value.rec motive (fun items => ∀ v ∈ items, motive v) (fun members => ∀ p ∈ members, motive p.2)
    (fun p => motive p.2) null bool number string array object
    (List.forall_mem_nil _) (fun _ _ hv hvs => List.forall_mem_cons.mpr ⟨hv, hvs⟩)
    (List.forall_mem_nil _) (fun _ _ hp hps => List.forall_mem_cons.mpr ⟨hp, hps⟩)
    (fun _ _ hv => hv) v

variable (float : String → Except Refusal String)

/-- The writer returns the canonical text of the value that was read. -/
def Value.Canonical (value : Value) : Prop :=
  ∀ v, value.toJson = some v → noNul v = true → writeCanonical float value = .ok (canonicalText v)

variable {float}

theorem writeItems_eq {items : List Value} (ih : ∀ item ∈ items, item.Canonical float) :
    ∀ vs, Value.toItems items = some vs → noNulItems vs = true →
      writeItems float items = .ok (vs.map canonicalText) := by
  induction items with
  | nil =>
    intro vs hvs _
    obtain rfl := Option.some.inj hvs
    rfl
  | cons item items hitems =>
    intro vs hvs hnul
    obtain ⟨hitem, hrest⟩ := List.forall_mem_cons.mp ih
    obtain ⟨v, hv, hvs⟩ := Option.bind_eq_some_iff.mp hvs
    obtain ⟨ws, hws, heq⟩ := Option.bind_eq_some_iff.mp hvs
    obtain rfl := Option.some.inj heq
    obtain ⟨hnulv, hnulws⟩ := Bool.and_eq_true_iff.mp hnul
    rw [writeItems, hitem v hv hnulv, hitems hrest ws hws hnulws]
    rfl

theorem valueTexts_eq {members : List (String × Value)} (ih : ∀ p ∈ members, p.2.Canonical float) :
    ∀ fields, Value.toFields members = some fields → noNulFields fields = true →
      valueTexts float members = fields.map (fun p => (p.1, .ok (canonicalText p.2))) := by
  induction members with
  | nil =>
    intro fields hfields _
    obtain rfl := Option.some.inj hfields
    rfl
  | cons p members hmembers =>
    intro fields hfields hnul
    obtain ⟨key, item⟩ := p
    obtain ⟨hitem, hrest⟩ := List.forall_mem_cons.mp ih
    obtain ⟨v, hv, hfields⟩ := Option.bind_eq_some_iff.mp hfields
    obtain ⟨ws, hws, heq⟩ := Option.bind_eq_some_iff.mp hfields
    obtain rfl := Option.some.inj heq
    rw [noNulFields, Bool.and_eq_true_iff, Bool.and_eq_true_iff] at hnul
    rw [valueTexts, hitem v hv hnul.1.2, hmembers hrest ws hws hnul.2]
    rfl

theorem mapM_writeMember {members : List (String × List Char)}
    (h : ∀ p ∈ members, hasNul p.1 = false) :
    (members.map (fun p => (p.1, (.ok p.2 : Except Refusal (List Char))))).mapM writeMember =
      .ok members := by
  induction members with
  | nil => rfl
  | cons p members ih =>
    obtain ⟨hp, hmembers⟩ := List.forall_mem_cons.mp h
    rw [List.map_cons, List.mapM_cons, ih hmembers, writeMember, require, if_pos hp]
    rfl

theorem writeCanonical_eq (value : Value) : value.Canonical float := by
  induction value using Value.induction with
  | null =>
    intro v hv _
    obtain rfl := Option.some.inj hv
    rfl
  | bool b =>
    intro v hv _
    obtain rfl := Option.some.inj hv
    cases b <;> rfl
  | number source =>
    intro v hv _
    rw [Value.toJson] at hv
    split at hv
    · rename_i n hread
      obtain rfl := Option.some.inj hv
      rw [writeCanonical, canonicalNumber_eq float hread, Except.map, String.toList_ofList]
      rfl
    · cases hv
  | string s =>
    intro v hv hnul
    obtain rfl := Option.some.inj hv
    have hs : hasNul s = false := by simpa [noNul] using hnul
    rw [writeCanonical, require, if_pos hs]
    rfl
  | array items ih =>
    intro v hv hnul
    obtain ⟨vs, hvs, rfl⟩ := Option.map_eq_some_iff.mp hv
    rw [writeCanonical, writeItems_eq ih vs hvs hnul, canonicalText_arr]
    rfl
  | object members ih =>
    intro v hv hnul
    obtain ⟨fields, hfields, rfl⟩ := Option.map_eq_some_iff.mp hv
    have hkeys : ∀ p ∈ sortedItems (fields.map (fun p => (p.1, canonicalText p.2))),
        hasNul p.1 = false := by
      intro p hp
      obtain ⟨q, hq, rfl⟩ := List.mem_map.mp ((List.perm_insertionSort _ _).mem_iff.mp hp)
      exact ((noNulFields_iff fields).mp hnul q hq).1
    have hsort := sortedItems_map (fun text => (.ok text : Except Refusal (List Char)))
      (fields.map (fun p => (p.1, canonicalText p.2)))
    rw [List.map_map] at hsort
    rw [writeCanonical, valueTexts_eq ih fields hfields hnul, sortedBytes_eq]
    rw [show fields.map (fun p => (p.1, (.ok (canonicalText p.2) : Except Refusal (List Char)))) =
      fields.map ((fun p => (p.1, .ok p.2)) ∘ fun p => (p.1, canonicalText p.2)) from rfl, hsort,
      mapM_writeMember hkeys, canonicalText_obj]
    rfl

end Sdk

theorem noNul_canon (v : Json) : noNul v.canon = noNul v := by
  induction v using Json.induction with
  | null => rfl
  | bool => rfl
  | num => rfl
  | str => rfl
  | arr items ih =>
    rw [Json.canon, noNul, noNul, Bool.eq_iff_iff, noNulItems_iff, noNulItems_iff,
      Json.canonItems_eq_map, List.forall_mem_map]
    exact forall₂_congr (fun v hv => by rw [ih v hv])
  | obj fields ih =>
    have hperm := Json.sortFields_perm (Json.canonFields fields)
    rw [Json.canon, noNul, noNul, Bool.eq_iff_iff, noNulFields_iff, noNulFields_iff]
    simp only [hperm.mem_iff]
    rw [Json.canonFields_eq_map, List.forall_mem_map]
    exact forall₂_congr (fun p hp => by rw [ih p hp])

theorem canonicalText_congr {w : Json} (h : w.canon = v.canon) : canonicalText w = canonicalText v := by
  rw [canonicalText, canonicalText, h]

theorem Sdk.canonicalJson_eq (float : String → Except Refusal String) {value : Sdk.Value}
    (hvalue : value.Represents v) (hnul : noNul v = true) :
    Sdk.canonicalJson float value = .ok v.dumps := by
  obtain ⟨w, hw, hcanon⟩ := hvalue
  have hnulw : noNul w = true := by rw [← noNul_canon, hcanon, noNul_canon, hnul]
  rw [Sdk.canonicalJson, Sdk.writeCanonical_eq value w hw hnulw, canonicalText_congr hcanon]
  rfl

/-- The four encoders write one text for a value without NUL, and so give one digest. `value` is
the value as the SDK reads it, `stored` the value as `jsonb` keeps it: the same value with the
members of its objects in any order. -/
theorem canonicalJson_agrees (sha256 : String → String) (float : String → Except Refusal String)
    (v : Json) (hnul : noNul v = true) (value : Sdk.Value) (hvalue : value.Represents v)
    (stored : Json) (hstored : stored.canon = v.canon) :
    External.canonicalJson v = .ok v.dumps ∧
      Sdk.canonicalJson float value = .ok v.dumps ∧
      Sql.projectGuideProjectionCanonicalJson stored = v.dumps ∧
      External.externalCheckerJsonHash sha256 v = .ok (canonicalJsonHash sha256 v) ∧
      Sdk.canonicalHash float sha256 value = .ok (canonicalJsonHash sha256 v) ∧
      Sql.canonicalDigest sha256 stored = canonicalJsonHash sha256 v := by
  have hexternal : External.canonicalJson v = .ok v.dumps := by
    rw [External.canonicalJson, External.writeValue_eq v hnul]
    rfl
  have hsdk := Sdk.canonicalJson_eq float hvalue hnul
  have hsql : Sql.projectGuideProjectionCanonicalJson stored = v.dumps := by
    rw [Sql.projectGuideProjectionCanonicalJson, Sql.encode_eq, canonicalText_congr hstored]
    rfl
  refine ⟨hexternal, hsdk, hsql, ?_, ?_, ?_⟩
  · rw [External.externalCheckerJsonHash, hexternal]
    rfl
  · rw [Sdk.canonicalHash, hsdk]
    rfl
  · rw [Sql.canonicalDigest, hsql]
    rfl

/-- The digest that the SDK computes is the one that the database computes exactly if both have the same
value, up to the order of members, or their two texts collide. -/
theorem canonicalHash_binds (sha256 : String → String) (float : String → Except Refusal String)
    (v stored : Json) (hnul : noNul v = true) (hkeys : v.DistinctKeys) (hstored : stored.DistinctKeys)
    (value : Sdk.Value) (hvalue : value.Represents v) :
    Sdk.canonicalHash float sha256 value = .ok (Sql.canonicalDigest sha256 stored) ↔
      stored.canon = v.canon ∨ (stored.dumps ≠ v.dumps ∧ sha256 stored.dumps = sha256 v.dumps) := by
  have hsdk : Sdk.canonicalHash float sha256 value = .ok (digestOf sha256 v.dumps) := by
    rw [Sdk.canonicalHash, Sdk.canonicalJson_eq float hvalue hnul]
    rfl
  have hsql : Sql.canonicalDigest sha256 stored = digestOf sha256 stored.dumps := by
    rw [Sql.canonicalDigest, Sql.projectGuideProjectionCanonicalJson, Sql.encode_eq]
    rfl
  have hdigest : digestOf sha256 v.dumps = digestOf sha256 stored.dumps ↔
      sha256 stored.dumps = sha256 v.dumps := by
    simp [digestOf, eq_comm]
  have htext : stored.dumps = v.dumps ↔ stored.canon = v.canon :=
    ⟨Json.canon_eq_of_dumps_eq hstored hkeys, fun h => congrArg String.ofList (canonicalText_congr h)⟩
  rw [hsdk, hsql, Except.ok.injEq, hdigest, ← htext]
  by_cases hsame : stored.dumps = v.dumps
  · simp [hsame]
  · simp [hsame]

/-- Two keys that UTF-16 would order the other way round. -/
def sampleValue : Json := .obj [("𐀀", .num 0), ("ﬀ\n", .arr [.null, .str "\x1f"])]

def sampleSdkValue : Sdk.Value :=
  .object [("ﬀ\n", .array [.null, .string "\x1f"]), ("𐀀", .number "-0")]

def sampleStored : Json := .obj [("ﬀ\n", .arr [.null, .str "\x1f"]), ("𐀀", .num 0)]

theorem canonicalJson_agrees_sampleValue :
    Sdk.canonicalHash (fun _ => .error Sdk.nulRefused) id sampleSdkValue =
      .ok (Sql.canonicalDigest id sampleStored) := by
  have hstored : sampleStored.canon = sampleValue.canon := by decide +kernel
  have h := canonicalJson_agrees id (fun _ => .error Sdk.nulRefused) sampleValue
    (by decide +kernel) sampleSdkValue ⟨sampleStored, by decide +kernel, hstored⟩ sampleStored hstored
  rw [h.2.2.2.2.1, h.2.2.2.2.2]

theorem canonicalHash_binds_sampleValue :
    Sdk.canonicalHash (fun _ => .error Sdk.nulRefused) id sampleSdkValue ≠
      .ok (Sql.canonicalDigest id (.arr [sampleStored])) := by
  have hkeys : sampleValue.DistinctKeys ∧ (Json.arr [sampleStored]).DistinctKeys := by
    simp [sampleValue, sampleStored, Json.DistinctKeys, Json.DistinctKeysItems, Json.DistinctKeysFields]
  rw [Ne, canonicalHash_binds id _ sampleValue _ (by decide +kernel) hkeys.1 hkeys.2 sampleSdkValue
    ⟨sampleStored, by decide +kernel, by decide +kernel⟩]
  rintro (h | ⟨hne, hsame⟩)
  · exact absurd h (by decide +kernel)
  · exact hne hsame

end Workstream.Hashing
