import Workstream.Foundation.Text

/-!
# Instants and their ISO 8601 text

An instant is a natural number: it counts microseconds from the start of year 1 in UTC. Its text is the
one `datetime.isoformat` writes for an aware UTC value, over the proleptic Gregorian calendar, with the
fraction left out when it is zero.
-/

namespace Foundation
namespace DateTime

def microsPerSecond : Nat := 1000000

def addSeconds (t : Nat) (seconds : Nat) : Nat := t + seconds * microsPerSecond

def isLeap (year : Nat) : Bool :=
  year % 4 == 0 && (year % 100 != 0 || year % 400 == 0)

def daysBeforeYear (year : Nat) : Nat :=
  (year - 1) * 365 + (year - 1) / 4 - (year - 1) / 100 + (year - 1) / 400

def daysBeforeMonth (leap : Bool) (month : Nat) : Nat :=
  [0, 31, 59, 90, 120, 151, 181, 212, 243, 273, 304, 334].getD (month - 1) 0 +
    if leap ∧ 2 < month then 1 else 0

def daysInMonth (leap : Bool) (month : Nat) : Nat :=
  if month = 2 then (if leap then 29 else 28)
  else if month = 4 ∨ month = 6 ∨ month = 9 ∨ month = 11 then 30
  else 31

structure Date where
  year : Nat
  month : Nat
  day : Nat

def Date.toDays (date : Date) : Nat :=
  daysBeforeYear date.year + daysBeforeMonth (isLeap date.year) date.month + date.day - 1

def Date.Valid (date : Date) : Prop :=
  1 ≤ date.year ∧ 1 ≤ date.month ∧ date.month ≤ 12 ∧ 1 ≤ date.day ∧
    date.day ≤ daysInMonth (isLeap date.year) date.month

instance (date : Date) : Decidable date.Valid := by unfold Date.Valid; infer_instance

def monthAndDay (leap : Bool) (n : Nat) : Nat × Nat :=
  let month := (n + 50) / 32
  let preceding := daysBeforeMonth leap month
  if n < preceding then (month - 1, n - daysBeforeMonth leap (month - 1) + 1)
  else (month, n - preceding + 1)

def dateOfDays (days : Nat) : Date :=
  let n400 := days / 146097
  let n := days % 146097
  let n100 := n / 36524
  let n := n % 36524
  let n4 := n / 1461
  let n := n % 1461
  let n1 := n / 365
  let n := n % 365
  let year := n400 * 400 + n100 * 100 + n4 * 4 + n1 + 1
  if n1 = 4 ∨ n100 = 4 then ⟨year - 1, 12, 31⟩
  else
    let leap : Bool := n1 = 3 ∧ (n4 ≠ 24 ∨ n100 = 3)
    let p := monthAndDay leap n
    ⟨year, p.1, p.2⟩

theorem monthAndDay_spec (leap : Bool) {n : Nat} (h : n < 365) :
    let p := monthAndDay leap n
    daysBeforeMonth leap p.1 + p.2 - 1 = n ∧ 1 ≤ p.1 ∧ p.1 ≤ 12 ∧ 1 ≤ p.2 ∧
      p.2 ≤ daysInMonth leap p.1 := by
  have hall : ∀ leap : Bool, ∀ n < 365,
      daysBeforeMonth leap (monthAndDay leap n).1 + (monthAndDay leap n).2 - 1 = n ∧
      1 ≤ (monthAndDay leap n).1 ∧ (monthAndDay leap n).1 ≤ 12 ∧ 1 ≤ (monthAndDay leap n).2 ∧
      (monthAndDay leap n).2 ≤ daysInMonth leap (monthAndDay leap n).1 := by decide +kernel
  exact hall leap n h

theorem daysBeforeYear_cycles {a b c d : Nat} (hb : b ≤ 3) (hc : c ≤ 24) (hd : d ≤ 3) :
    daysBeforeYear (a * 400 + b * 100 + c * 4 + d + 1) = a * 146097 + b * 36524 + c * 1461 + d * 365 := by
  have h4 : (a * 400 + b * 100 + c * 4 + d) / 4 = a * 100 + b * 25 + c := by omega
  have h100 : (a * 400 + b * 100 + c * 4 + d) / 100 = a * 4 + b := by omega
  have h400 : (a * 400 + b * 100 + c * 4 + d) / 400 = a := by omega
  simp only [daysBeforeYear, Nat.add_sub_cancel, h4, h100, h400]
  omega

theorem isLeap_cycles {a b c d : Nat} (hb : b ≤ 3) (hc : c ≤ 24) (hd : d ≤ 3) :
    isLeap (a * 400 + b * 100 + c * 4 + d + 1) = decide (d = 3 ∧ (c ≠ 24 ∨ b = 3)) := by
  rw [Bool.eq_iff_iff]
  simp only [isLeap, Bool.and_eq_true, Bool.or_eq_true, beq_iff_eq, bne_iff_ne, decide_eq_true_eq]
  omega

theorem lastDay_spec {a b c : Nat} (hb : b ≤ 3) (hc : c ≤ 24) (hleap : c ≠ 24 ∨ b = 3) :
    let date : Date := ⟨a * 400 + b * 100 + c * 4 + 3 + 1, 12, 31⟩
    date.toDays = a * 146097 + b * 36524 + c * 1461 + 1460 ∧ date.Valid := by
  have hyear := daysBeforeYear_cycles (a := a) hb hc (Nat.le_refl 3)
  have hleap' : isLeap (a * 400 + b * 100 + c * 4 + 3 + 1) = true := by
    rw [isLeap_cycles hb hc (Nat.le_refl 3)]
    simpa using hleap
  simp only [Date.toDays, Date.Valid, hyear, hleap']
  have hmonth : daysBeforeMonth true 12 = 335 := by decide
  have hdays : daysInMonth true 12 = 31 := by decide
  omega

theorem dateOfDays_spec (days : Nat) :
    (dateOfDays days).toDays = days ∧ (dateOfDays days).Valid := by
  have hn := Nat.div_add_mod days 146097
  have hn' := Nat.mod_lt days (show 0 < 146097 by omega)
  generalize hn400 : days / 146097 = n400 at hn
  generalize hr400 : days % 146097 = r400 at hn hn'
  have hn100 := Nat.div_add_mod r400 36524
  have hn100' := Nat.mod_lt r400 (show 0 < 36524 by omega)
  generalize hq100 : r400 / 36524 = n100 at hn100
  generalize hr100 : r400 % 36524 = r100 at hn100 hn100'
  have hn4 := Nat.div_add_mod r100 1461
  have hn4' := Nat.mod_lt r100 (show 0 < 1461 by omega)
  generalize hq4 : r100 / 1461 = n4 at hn4
  generalize hr4 : r100 % 1461 = r4 at hn4 hn4'
  have hn1 := Nat.div_add_mod r4 365
  have hn1' := Nat.mod_lt r4 (show 0 < 365 by omega)
  generalize hq1 : r4 / 365 = n1 at hn1
  generalize hr1 : r4 % 365 = r1 at hn1 hn1'
  simp only [dateOfDays, hn400, hr400, hq100, hr100, hq4, hr4, hq1, hr1]
  by_cases hlast : n1 = 4 ∨ n100 = 4
  · rw [if_pos hlast]
    by_cases hcentury : n100 = 4
    · have hday := lastDay_spec (a := n400) (b := 3) (c := 24) (by omega) (by omega) (by omega)
      have hyear : n400 * 400 + n100 * 100 + n4 * 4 + n1 + 1 - 1 =
          n400 * 400 + 3 * 100 + 24 * 4 + 3 + 1 := by omega
      rw [hyear]
      exact ⟨by rw [hday.1]; omega, hday.2⟩
    · have hday := lastDay_spec (a := n400) (b := n100) (c := n4) (by omega) (by omega) (by omega)
      have hyear : n400 * 400 + n100 * 100 + n4 * 4 + n1 + 1 - 1 =
          n400 * 400 + n100 * 100 + n4 * 4 + 3 + 1 := by omega
      rw [hyear]
      exact ⟨by rw [hday.1]; omega, hday.2⟩
  · rw [if_neg hlast]
    have hyear := daysBeforeYear_cycles (a := n400) (b := n100) (c := n4) (d := n1) (by omega) (by omega)
      (by omega)
    have hleap := isLeap_cycles (a := n400) (b := n100) (c := n4) (d := n1) (by omega) (by omega) (by omega)
    have hmonth := monthAndDay_spec (isLeap (n400 * 400 + n100 * 100 + n4 * 4 + n1 + 1)) hn1'
    simp only [Date.toDays, Date.Valid, ← hleap, hyear]
    omega

structure Fields where
  date : Date
  hour : Nat
  minute : Nat
  second : Nat
  micro : Nat

def Fields.Valid (f : Fields) : Prop :=
  f.date.Valid ∧ f.hour < 24 ∧ f.minute < 60 ∧ f.second < 60

instance (f : Fields) : Decidable f.Valid := by unfold Fields.Valid; infer_instance

def Fields.toDateTime (f : Fields) : Nat :=
  (((f.date.toDays * 24 + f.hour) * 60 + f.minute) * 60 + f.second) * 1000000 + f.micro

def fields (t : Nat) : Fields :=
  ⟨dateOfDays (t / 86400000000), t / 3600000000 % 24, t / 60000000 % 60, t / 1000000 % 60, t % 1000000⟩

theorem fields_spec (t : Nat) : (fields t).toDateTime = t ∧ (fields t).Valid := by
  have hdate := dateOfDays_spec (t / 86400000000)
  refine ⟨?_, hdate.2, Nat.mod_lt _ (by omega), Nat.mod_lt _ (by omega), Nat.mod_lt _ (by omega)⟩
  have hminute : t / 60000000 = t / 1000000 / 60 := by rw [Nat.div_div_eq_div_mul]
  have hhour : t / 3600000000 = t / 1000000 / 60 / 60 := by simp only [Nat.div_div_eq_div_mul]
  have hday : t / 86400000000 = t / 1000000 / 60 / 60 / 24 := by simp only [Nat.div_div_eq_div_mul]
  simp only [fields, Fields.toDateTime, hdate.1]
  rw [hminute, hhour, hday]
  have hs := Nat.div_add_mod t 1000000
  have hm := Nat.div_add_mod (t / 1000000) 60
  have hh := Nat.div_add_mod (t / 1000000 / 60) 60
  have hd := Nat.div_add_mod (t / 1000000 / 60 / 60) 24
  rw [Nat.mul_comm (t / 1000000 / 60 / 60 / 24), hd, Nat.mul_comm (t / 1000000 / 60 / 60), hh,
    Nat.mul_comm (t / 1000000 / 60), hm, Nat.mul_comm (t / 1000000), hs]

def isoformatFraction (micro : Nat) : List Char :=
  if micro = 0 then [] else '.' :: pad 6 micro

def isoformat (t : Nat) : String :=
  let f := fields t
  String.ofList (pad 4 f.date.year ++ '-' :: (pad 2 f.date.month ++ '-' :: (pad 2 f.date.day ++
    'T' :: (pad 2 f.hour ++ ':' :: (pad 2 f.minute ++ ':' :: (pad 2 f.second ++
      (isoformatFraction f.micro ++ ['+', '0', '0', ':', '0', '0'])))))))

def readFraction (cs : List Char) : Option (Nat × List Char) :=
  match dropWord ['.'] cs with
  | some rest => readFixed 6 rest
  | none => some (0, cs)

def fromIsoformat (text : String) : Option Nat := do
  let year ← readAtLeast 4 text.toList
  let month ← (dropWord ['-'] year.2).bind (readFixed 2)
  let day ← (dropWord ['-'] month.2).bind (readFixed 2)
  let hour ← (dropWord ['T'] day.2).bind (readFixed 2)
  let minute ← (dropWord [':'] hour.2).bind (readFixed 2)
  let second ← (dropWord [':'] minute.2).bind (readFixed 2)
  let micro ← readFraction second.2
  let rest ← dropWord ['+', '0', '0', ':', '0', '0'] micro.2
  let f : Fields := ⟨⟨year.1, month.1, day.1⟩, hour.1, minute.1, second.1, micro.1⟩
  if f.Valid ∧ rest = [] then some f.toDateTime else none

theorem readFraction_isoformatFraction {micro : Nat} (h : micro < 1000000) (rest : List Char) :
    readFraction (isoformatFraction micro ++ '+' :: rest) = some (micro, '+' :: rest) := by
  by_cases hzero : micro = 0
  · simp [isoformatFraction, readFraction, hzero, dropWord]
  · rw [isoformatFraction, if_neg hzero, List.cons_append, readFraction, dropWord_cons]
    exact readFixed_pad (by omega) h _

theorem fromIsoformat_isoformat (t : Nat) : fromIsoformat (isoformat t) = some t := by
  obtain ⟨htime, hvalid⟩ := fields_spec t
  have hdays : ∀ leap month, daysInMonth leap month ≤ 31 := by
    intro leap month
    unfold daysInMonth
    split_ifs <;> omega
  have hmicro : (fields t).micro < 1000000 := Nat.mod_lt _ (by omega)
  obtain ⟨⟨hyear, hmonth, hmonth', hday, hday'⟩, hhour, hminute, hsecond⟩ := hvalid
  have hday'' := hdays (isLeap (fields t).date.year) (fields t).date.month
  have hread := readFraction_isoformatFraction hmicro ['0', '0', ':', '0', '0']
  simp only [fromIsoformat, isoformat, String.toList_ofList, Option.bind_eq_bind, Option.bind_some,
    readAtLeast_pad 4 _ (show Char.isDigit '-' = false by decide), dropWord_cons,
    readFixed_pad (show 0 < 2 by omega) (show (fields t).date.month < 10 ^ 2 by omega),
    readFixed_pad (show 0 < 2 by omega) (show (fields t).date.day < 10 ^ 2 by omega),
    readFixed_pad (show 0 < 2 by omega) (show (fields t).hour < 10 ^ 2 by omega),
    readFixed_pad (show 0 < 2 by omega) (show (fields t).minute < 10 ^ 2 by omega),
    readFixed_pad (show 0 < 2 by omega) (show (fields t).second < 10 ^ 2 by omega), hread]
  have hend : dropWord ['+', '0', '0', ':', '0', '0'] ['+', '0', '0', ':', '0', '0'] = some [] := rfl
  have hvalid := (fields_spec t).2
  simp only [hend, Option.bind_some, and_true]
  rw [if_pos hvalid]
  exact congrArg some htime

example : isoformat 63844847999000007 = "2024-02-29T23:59:59.000007+00:00" := by decide +kernel

end DateTime
end Foundation
