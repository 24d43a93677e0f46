import Workstream.Foundation.Json
import Workstream.Foundation.Text

/-!
# Reading JSON text

`loads` reads a value back from its text: blanks are skipped between tokens, a repeated key keeps its
last value, and the text must end after the value.
-/

namespace Foundation
namespace Json

def isSpace (c : Char) : Bool := c == ' ' || c == '\n' || c == '\r' || c == '\t'

def skip (cs : List Char) : List Char := cs.dropWhile isSpace

def hexDigit (c : Char) : Option Nat :=
  if '0' ≤ c ∧ c ≤ '9' then some (c.toNat - 48)
  else if 'a' ≤ c ∧ c ≤ 'f' then some (c.toNat - 87)
  else if 'A' ≤ c ∧ c ≤ 'F' then some (c.toNat - 55)
  else none

/-- The character of a four digit escape. Half of a surrogate pair is no character. -/
def codePoint (a b c d : Char) : Option Char := do
  let a ← hexDigit a
  let b ← hexDigit b
  let c ← hexDigit c
  let d ← hexDigit d
  let n := ((a * 16 + b) * 16 + c) * 16 + d
  if n.isValidChar then some (Char.ofNat n) else none

def unescape (c : Char) : Option Char :=
  if c = '"' then some '"'
  else if c = '\\' then some '\\'
  else if c = '/' then some '/'
  else if c = 'n' then some '\n'
  else if c = 'r' then some '\r'
  else if c = 't' then some '\t'
  else if c = 'f' then some '\x0c'
  else if c = 'b' then some '\x08'
  else none

def parseChars : List Char → Option (List Char × List Char)
  | [] => none
  | c :: rest =>
    if c = '"' then some ([], rest)
    else if c = '\\' then
      match rest with
      | [] => none
      | e :: tail =>
        if e = 'u' then
          match tail with
          | x :: y :: z :: w :: tail =>
            (codePoint x y z w).bind (fun d => (parseChars tail).map (fun p => (d :: p.1, p.2)))
          | _ => none
        else (unescape e).bind (fun d => (parseChars tail).map (fun p => (d :: p.1, p.2)))
    else if c.toNat < 32 then none
    else (parseChars rest).map (fun p => (c :: p.1, p.2))

def parseNat (cs : List Char) : Option (Nat × List Char) :=
  let digits := cs.takeWhile Char.isDigit
  if digits = [] ∨ (1 < digits.length ∧ digits.head? = some '0') then none
  else some (Nat.ofDigitChars 10 digits 0, cs.dropWhile Char.isDigit)

def endsNumber (cs : List Char) : Bool :=
  match cs with
  | [] => true
  | c :: _ => !(c.isDigit || c == '.' || c == 'e' || c == 'E')

def parseInt : List Char → Option (Int × List Char)
  | [] => none
  | c :: cs => do
    let p ←
      if c = '-' then (parseNat cs).map (fun p => (-(p.1 : Int), p.2))
      else (parseNat (c :: cs)).map (fun p => ((p.1 : Int), p.2))
    if endsNumber p.2 then some p else none

section Sequences

variable {β : Type} (item : List Char → Option (β × List Char)) (close : Char)

def parseMore : Nat → List Char → Option (List β × List Char)
  | 0, _ => none
  | n + 1, cs =>
    match skip cs with
    | [] => none
    | c :: rest =>
      if c = close then some ([], rest)
      else if c = ',' then do
        let p ← item rest
        let q ← parseMore n p.2
        some (p.1 :: q.1, q.2)
      else none

def parseItems (n : Nat) (cs : List Char) : Option (List β × List Char) :=
  match skip cs with
  | [] => none
  | c :: rest =>
    if c = close then some ([], rest)
    else do
      let p ← item (c :: rest)
      let q ← parseMore item close n p.2
      some (p.1 :: q.1, q.2)

end Sequences

def parseMember (value : List Char → Option (Json × List Char)) (cs : List Char) :
    Option ((String × Json) × List Char) := do
  let rest ← dropWord ['"'] (skip cs)
  let k ← parseChars rest
  let rest ← dropWord [':'] (skip k.2)
  let v ← value rest
  some ((String.ofList k.1, v.1), v.2)

def setField (fields : List (String × Json)) (p : String × Json) : List (String × Json) :=
  if p.1 ∈ fields.map Prod.fst then fields.map (fun q => if q.1 = p.1 then p else q)
  else fields ++ [p]

def dict (pairs : List (String × Json)) : List (String × Json) := pairs.foldl setField []

def parseValue : Nat → List Char → Option (Json × List Char)
  | 0, _ => none
  | n + 1, cs =>
    match skip cs with
    | [] => none
    | c :: rest =>
      if c = 'n' then (dropWord ['u', 'l', 'l'] rest).map (fun rest => (.null, rest))
      else if c = 't' then (dropWord ['r', 'u', 'e'] rest).map (fun rest => (.bool true, rest))
      else if c = 'f' then (dropWord ['a', 'l', 's', 'e'] rest).map (fun rest => (.bool false, rest))
      else if c = '"' then (parseChars rest).map (fun p => (.str (String.ofList p.1), p.2))
      else if c = '[' then
        (parseItems (parseValue n) ']' n rest).map (fun p => (.arr p.1, p.2))
      else if c = '{' then
        (parseItems (parseMember (parseValue n)) '}' n rest).map (fun p => (.obj (dict p.1), p.2))
      else (parseInt (c :: rest)).map (fun p => (.num p.1, p.2))

/-- The value a text denotes, if it is the text of one. -/
def loads (text : String) : Option Json := do
  let p ← parseValue (text.toList.length + 1) text.toList
  if skip p.2 = [] then some p.1 else none

theorem skip_cons {c : Char} (h : isSpace c = false) (cs : List Char) : skip (c :: cs) = c :: cs := by
  simp [skip, h]

theorem codePoint_control (n : Nat) (h : n < 32) :
    codePoint '0' '0' (Nat.digitChar (n / 16)) (Nat.digitChar (n % 16)) = some (Char.ofNat n) := by
  have hall : ∀ n < 32, codePoint '0' '0' (Nat.digitChar (n / 16)) (Nat.digitChar (n % 16)) =
      some (Char.ofNat n) := by decide
  exact hall n h

theorem parseChars_quote (rest : List Char) : parseChars ('"' :: rest) = some ([], rest) := by
  rw [parseChars.eq_def]
  simp

theorem parseChars_plain {c : Char} (hquote : c ≠ '"') (hback : c ≠ '\\') (h : ¬c.toNat < 32)
    (rest : List Char) :
    parseChars (c :: rest) = (parseChars rest).map (fun p => (c :: p.1, p.2)) := by
  rw [parseChars.eq_def]
  simp [hquote, hback, h]

theorem parseChars_short {c d : Char} (hu : d ≠ 'u') (h : unescape d = some c) (rest : List Char) :
    parseChars ('\\' :: d :: rest) = (parseChars rest).map (fun p => (c :: p.1, p.2)) := by
  rw [parseChars.eq_def]
  simp [hu, h]

theorem parseChars_unicode {c x y z w : Char} (h : codePoint x y z w = some c) (rest : List Char) :
    parseChars ('\\' :: 'u' :: x :: y :: z :: w :: rest) =
      (parseChars rest).map (fun p => (c :: p.1, p.2)) := by
  rw [parseChars.eq_def]
  simp [h]

theorem parseChars_escape (c : Char) (rest : List Char) :
    parseChars (escape c ++ rest) = (parseChars rest).map (fun p => (c :: p.1, p.2)) := by
  unfold escape
  split_ifs with hquote hback hn hr ht hf hb hcontrol
  · subst hquote; exact parseChars_short (by decide) rfl rest
  · subst hback; exact parseChars_short (by decide) rfl rest
  · subst hn; exact parseChars_short (by decide) rfl rest
  · subst hr; exact parseChars_short (by decide) rfl rest
  · subst ht; exact parseChars_short (by decide) rfl rest
  · subst hf; exact parseChars_short (by decide) rfl rest
  · subst hb; exact parseChars_short (by decide) rfl rest
  · have hpoint := codePoint_control c.toNat hcontrol
    rw [Char.ofNat_toNat] at hpoint
    exact parseChars_unicode hpoint rest
  · exact parseChars_plain hquote hback hcontrol rest

theorem parseChars_flatMap (cs rest : List Char) :
    parseChars (cs.flatMap escape ++ '"' :: rest) = some (cs, rest) := by
  induction cs with
  | nil => exact parseChars_quote rest
  | cons c cs ih => rw [List.flatMap_cons, List.append_assoc, parseChars_escape, ih, Option.map_some]

theorem head?_toDigits {n : Nat} (h : n ≠ 0) : (Nat.toDigits 10 n).head? ≠ some '0' := by
  induction n using Nat.base_induction 10 (by omega) with
  | single m hm =>
    rw [Nat.toDigits_of_lt_base hm]
    have hall : ∀ m < 10, m ≠ 0 → [Nat.digitChar m].head? ≠ some '0' := by decide
    exact hall m hm h
  | digit m k hk hm ih =>
    rw [← Nat.toDigits_append_toDigits (by omega) hm hk, List.head?_append_of_ne_nil _ Nat.toDigits_ne_nil]
    exact ih (by omega)

theorem endsNumber_head {cs : List Char} (h : endsNumber cs = true) :
    cs.takeWhile Char.isDigit = [] ∧ cs.dropWhile Char.isDigit = cs := by
  cases cs with
  | nil => simp
  | cons c cs =>
    have hc : c.isDigit = false := by
      simp only [endsNumber, Bool.not_eq_true', Bool.or_eq_false_iff] at h
      exact h.1.1.1
    simp [hc]

theorem parseNat_toDigits (n : Nat) {rest : List Char} (h : endsNumber rest = true) :
    parseNat (Nat.toDigits 10 n ++ rest) = some (n, rest) := by
  have hdigits : ∀ c ∈ Nat.toDigits 10 n, c.isDigit = true :=
    fun c hc => Nat.isDigit_of_mem_toDigits (by omega) (by omega) hc
  obtain ⟨htake, hdrop⟩ := endsNumber_head h
  have hread : (Nat.toDigits 10 n ++ rest).takeWhile Char.isDigit = Nat.toDigits 10 n := by
    rw [List.takeWhile_append_of_pos hdigits, htake, List.append_nil]
  have hleft : (Nat.toDigits 10 n ++ rest).dropWhile Char.isDigit = rest := by
    rw [List.dropWhile_append_of_pos hdigits, hdrop]
  have hshort : ¬(1 < (Nat.toDigits 10 n).length ∧ (Nat.toDigits 10 n).head? = some '0') := by
    rintro ⟨hlen, hhead⟩
    by_cases hn : n = 0
    · subst hn; simp at hlen
    · exact head?_toDigits hn hhead
  simp only [parseNat, hread, hleft, Nat.ofDigitChars_ten_toDigits]
  rw [if_neg]
  rintro (hnil | hzero)
  · exact Nat.toDigits_ne_nil hnil
  · exact hshort hzero

theorem toDigits_eq_cons (n : Nat) :
    ∃ c cs, Nat.toDigits 10 n = c :: cs ∧ c.isDigit = true := by
  cases h : Nat.toDigits 10 n with
  | nil => exact absurd h Nat.toDigits_ne_nil
  | cons c cs =>
    exact ⟨c, cs, rfl, Nat.isDigit_of_mem_toDigits (by omega) (by omega) (h ▸ List.mem_cons_self)⟩

theorem parseInt_renderInt (n : Int) {rest : List Char} (h : endsNumber rest = true) :
    parseInt (renderInt n ++ rest) = some (n, rest) := by
  cases n with
  | ofNat n =>
    obtain ⟨c, cs, hcs, hc⟩ := toDigits_eq_cons n
    have hminus : c ≠ '-' := by rintro rfl; simp at hc
    have hread := parseNat_toDigits n h
    rw [hcs] at hread
    rw [renderInt, hcs]
    simp only [List.cons_append] at hread ⊢
    simp [parseInt, hminus, hread, h]
  | negSucc =>
    simp [renderInt, parseInt, parseNat_toDigits _ h, h, Int.negSucc_eq]

theorem dict_of_nodup {pairs : List (String × Json)} (h : (pairs.map Prod.fst).Nodup) :
    dict pairs = pairs := by
  have hfold : ∀ more done : List (String × Json), ((done ++ more).map Prod.fst).Nodup →
      more.foldl setField done = done ++ more := by
    intro more
    induction more with
    | nil => intro done _; simp
    | cons p more ih =>
      intro done hnodup
      have hnew : p.1 ∉ done.map Prod.fst := by
        rw [List.map_append, List.nodup_append] at hnodup
        intro hmem
        exact hnodup.2.2 p.1 hmem p.1 (by simp) rfl
      rw [List.foldl_cons, setField, if_neg hnew, ih]
      · simp
      · simpa using hnodup
  simpa [dict] using hfold pairs [] (by simpa using h)

section Sequences

variable {β : Type} (text : β → List Char)

/-- Each item after a comma, then the closing character. -/
def moreText (close : Char) (items : List β) : List Char :=
  items.flatMap (fun b => ',' :: text b) ++ [close]

/-- Every item, then the closing character. -/
def itemsText (close : Char) : List β → List Char
  | [] => [close]
  | b :: bs => text b ++ moreText text close bs

variable {text} {item : List Char → Option (β × List Char)} {close : Char}

theorem endsNumber_moreText (hclose : close = ']' ∨ close = '}') (items : List β)
    (rest : List Char) : endsNumber (moreText text close items ++ rest) = true := by
  cases items with
  | nil => rcases hclose with rfl | rfl <;> simp [moreText, endsNumber]
  | cons b bs => simp [moreText, endsNumber]

theorem parseMore_moreText (hclose : close = ']' ∨ close = '}') {items : List β}
    (hitem : ∀ b ∈ items, ∀ rest, endsNumber rest = true → item (text b ++ rest) = some (b, rest))
    {n : Nat} (hn : (moreText text close items).length ≤ n) (rest : List Char) :
    parseMore item close n (moreText text close items ++ rest) = some (items, rest) := by
  have hspace : isSpace close = false := by rcases hclose with rfl | rfl <;> decide
  have hcomma : ',' ≠ close := by rcases hclose with rfl | rfl <;> decide
  induction items generalizing n with
  | nil =>
    obtain ⟨n, rfl⟩ : ∃ k, n = k + 1 := ⟨n - 1, by simp [moreText] at hn; omega⟩
    simp [parseMore, moreText, skip_cons hspace]
  | cons b bs ih =>
    have hlen : (moreText text close (b :: bs)).length =
        (text b).length + 1 + (moreText text close bs).length := by
      simp [moreText]; omega
    obtain ⟨n, rfl⟩ : ∃ k, n = k + 1 := ⟨n - 1, by omega⟩
    have hmore := ih (fun c hc => hitem c (List.mem_cons_of_mem b hc)) (n := n) (by omega)
    have hfirst := hitem b List.mem_cons_self (moreText text close bs ++ rest)
      (endsNumber_moreText hclose bs rest)
    have htext : moreText text close (b :: bs) ++ rest =
        ',' :: (text b ++ (moreText text close bs ++ rest)) := by simp [moreText]
    rw [htext, parseMore, skip_cons (by decide)]
    simp [hcomma, hfirst, hmore]

/-- The text of a list of items is read back if the text of each item is, and an item's text does
not start with a blank or the closing character. -/
theorem parseItems_text (hclose : close = ']' ∨ close = '}') {items : List β}
    (hitem : ∀ b ∈ items, ∀ rest, endsNumber rest = true → item (text b ++ rest) = some (b, rest))
    (hstart : ∀ b ∈ items, ∃ c cs, text b = c :: cs ∧ isSpace c = false ∧ c ≠ close)
    {n : Nat} (hn : (itemsText text close items).length ≤ n) (rest : List Char) :
    parseItems item close n (itemsText text close items ++ rest) = some (items, rest) := by
  have hspace : isSpace close = false := by rcases hclose with rfl | rfl <;> decide
  cases items with
  | nil => simp [parseItems, itemsText, skip_cons hspace]
  | cons b bs =>
    rw [itemsText] at hn ⊢
    obtain ⟨c, cs, hcs, hc, hne⟩ := hstart b List.mem_cons_self
    have hmore := parseMore_moreText hclose (fun c hc => hitem c (List.mem_cons_of_mem b hc))
      (n := n) (by simp at hn; omega) rest
    have hfirst := hitem b List.mem_cons_self (moreText text close bs ++ rest)
      (endsNumber_moreText hclose bs rest)
    simp only [hcs, List.cons_append, List.append_assoc] at hfirst ⊢
    simp [parseItems, skip_cons hc, hne, hfirst, hmore]

theorem length_text_le {items : List β} {b : β} (h : b ∈ items) :
    (text b).length ≤ (itemsText text close items).length := by
  cases h with
  | head bs => simp [itemsText]
  | tail c h =>
    obtain ⟨before, after, rfl⟩ := List.append_of_mem h
    simp only [itemsText, moreText, List.flatMap_append, List.flatMap_cons, List.length_append,
      List.length_cons]
    omega

end Sequences

theorem renderMoreItems_eq (items : List Json) : renderMoreItems items = moreText render ']' items := by
  induction items with
  | nil => simp [renderMoreItems, moreText]
  | cons v vs ih => simp [renderMoreItems, moreText, ih]

theorem renderItems_eq (items : List Json) : renderItems items = itemsText render ']' items := by
  cases items with
  | nil => rfl
  | cons v vs => rw [renderItems, renderMoreItems_eq, itemsText]

def renderMember (p : String × Json) : List Char := renderString p.1 ++ ':' :: render p.2

theorem renderMoreFields_eq (fields : List (String × Json)) :
    renderMoreFields fields = moreText renderMember '}' fields := by
  induction fields with
  | nil => simp [renderMoreFields, moreText]
  | cons p rest ih => obtain ⟨k, v⟩ := p; simp [renderMoreFields, renderMember, moreText, ih]

theorem renderFields_eq (fields : List (String × Json)) :
    renderFields fields = itemsText renderMember '}' fields := by
  cases fields with
  | nil => rfl
  | cons p rest => rw [renderFields, renderMoreFields_eq, itemsText, renderMember]

theorem render_start (v : Json) :
    ∃ c cs, render v = c :: cs ∧ isSpace c = false ∧ c ≠ ']' := by
  cases v with
  | null | str | arr | obj => exact ⟨_, _, rfl, by decide, by decide⟩
  | bool b => cases b <;> exact ⟨_, _, rfl, by decide, by decide⟩
  | num n =>
    cases n with
    | ofNat n =>
      obtain ⟨c, cs, hcs, hc⟩ := toDigits_eq_cons n
      refine ⟨c, cs, hcs, ?_, by rintro rfl; simp at hc⟩
      by_contra hspace
      simp only [isSpace, Bool.not_eq_false, Bool.or_eq_true, beq_iff_eq] at hspace
      rcases hspace with ((rfl | rfl) | rfl) | rfl <;> simp at hc
    | negSucc => exact ⟨_, _, rfl, by decide, by decide⟩

theorem parseMember_renderMember {value : List Char → Option (Json × List Char)} (p : String × Json)
    {rest : List Char} (hvalue : value (render p.2 ++ rest) = some (p.2, rest)) :
    parseMember value (renderMember p ++ rest) = some (p, rest) := by
  have htext : renderMember p ++ rest =
      '"' :: (p.1.toList.flatMap escape ++ '"' :: ':' :: (render p.2 ++ rest)) := by
    simp [renderMember, renderString]
  rw [htext, parseMember, skip_cons (by decide)]
  simp only [dropWord, Option.bind_eq_bind, Option.bind_some, parseChars_flatMap, if_true,
    skip_cons (show isSpace ':' = false by decide), hvalue, String.ofList_toList]

/-- A value's text is read back, and nothing of what follows it. -/
theorem parseValue_render (n : Nat) (v : Json) (hkeys : DistinctKeys v) (hn : (render v).length ≤ n)
    {rest : List Char} (hrest : endsNumber rest = true) :
    parseValue n (render v ++ rest) = some (v, rest) := by
  induction n generalizing v rest with
  | zero =>
    obtain ⟨c, cs, hcs, -⟩ := render_start v
    simp [hcs] at hn
  | succ n ih =>
    cases v with
    | null => simp [render, parseValue, skip_cons (show isSpace 'n' = false by decide), dropWord]
    | bool b =>
      cases b
      · simp [render, parseValue, skip_cons (show isSpace 'f' = false by decide), dropWord]
      · simp [render, parseValue, skip_cons (show isSpace 't' = false by decide), dropWord]
    | num k =>
      obtain ⟨c, cs, hcs, hspace, -⟩ := render_start (.num k)
      have hread := parseInt_renderInt k hrest
      rw [render] at hcs
      rw [hcs] at hread
      have hstart : c = '-' ∨ c.isDigit = true := by
        cases k with
        | ofNat k =>
          obtain ⟨d, ds, hds, hd⟩ := toDigits_eq_cons k
          rw [renderInt, hds] at hcs
          injection hcs with hhead
          exact .inr (hhead ▸ hd)
        | negSucc => injection hcs with hhead; exact .inl hhead.symm
      have hother : ∀ d : Char, d ≠ '-' → d.isDigit = false → c ≠ d := by
        rintro d hminus hdigit rfl
        rcases hstart with rfl | hc
        · exact hminus rfl
        · rw [hdigit] at hc; cases hc
      rw [render, hcs, List.cons_append, parseValue, skip_cons hspace]
      simp [hother 'n', hother 't', hother 'f', hother '"', hother '[', hother '{',
        show parseInt (c :: (cs ++ rest)) = some (k, rest) from hread]
    | str s =>
      have htext : render (.str s) ++ rest = '"' :: (s.toList.flatMap escape ++ '"' :: rest) := by
        simp [render, renderString]
      rw [htext, parseValue, skip_cons (by decide)]
      simp [parseChars_flatMap]
    | arr items =>
      rw [render, renderItems_eq] at hn ⊢
      rw [List.length_cons] at hn
      have hread : parseItems (parseValue n) ']' n (itemsText render ']' items ++ rest) =
          some (items, rest) := by
        refine parseItems_text (.inl rfl) (fun v hv rest hrest => ?_) (fun v _ => render_start v)
          (by omega) rest
        have hlen : (render v).length ≤ (itemsText render ']' items).length := length_text_le hv
        exact ih v ((distinctKeysItems_iff items).mp hkeys v hv) (by omega) hrest
      rw [List.cons_append, parseValue, skip_cons (by decide)]
      simp [hread]
    | obj fields =>
      rw [render, renderFields_eq] at hn ⊢
      rw [List.length_cons] at hn
      have hstart : ∀ p ∈ fields, ∃ c cs, renderMember p = c :: cs ∧ isSpace c = false ∧ c ≠ '}' :=
        fun p _ => ⟨'"', _, rfl, by decide, by decide⟩
      have hread : parseItems (parseMember (parseValue n)) '}' n
          (itemsText renderMember '}' fields ++ rest) = some (fields, rest) := by
        refine parseItems_text (.inr rfl) (fun p hp rest hrest => ?_) hstart (by omega) rest
        have hlen : (renderMember p).length ≤ (itemsText renderMember '}' fields).length :=
          length_text_le hp
        have hvalue : (render p.2).length ≤ n := by
          simp only [renderMember, List.length_append, List.length_cons] at hlen
          omega
        exact parseMember_renderMember p
          (ih p.2 ((distinctKeysFields_iff fields).mp hkeys.2 p hp) hvalue hrest)
      rw [List.cons_append, parseValue, skip_cons (by decide)]
      simp [hread, dict_of_nodup hkeys.1]

/-- The canonical text of a value is read back as its canonical form. -/
theorem loads_dumps {v : Json} (hkeys : DistinctKeys v) : loads (dumps v) = some (canon v) := by
  have hread : parseValue ((render (canon v)).length + 1) (render (canon v) ++ []) =
      some (canon v, []) :=
    parseValue_render _ (canon v) (distinctKeys_canon v hkeys) (by omega) rfl
  rw [List.append_nil] at hread
  unfold loads dumps
  rw [String.toList_ofList, hread]
  rfl

/-- Values with one canonical text have one canonical form. -/
theorem canon_eq_of_dumps_eq {v w : Json} (hv : DistinctKeys v) (hw : DistinctKeys w)
    (h : dumps v = dumps w) : canon v = canon w := by
  have hread := loads_dumps hv
  rw [h, loads_dumps hw] at hread
  exact (Option.some.inj hread).symm

example : loads " [ -12 , \"\\u0041\\n\" ] " = some (.arr [.num (-12), .str "A\n"]) := by
  decide +kernel

end Json
end Foundation
