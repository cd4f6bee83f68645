/-
Daao.Lib.GoTime — `Format` and `Parse` of Go's times in UTC with the layout
`RFC3339Nano`.

A time is written as year, month and day, hour, minute and second, each
padded with zeros, and the fraction of the second without the zeros at its
end, and is read back as it was (`parse_format`).

`parse` has the texts in UTC that have this form. Go reads some more, of
other zones among them, which `format` does not write.
-/
import Mathlib.Data.List.Basic
import Mathlib.Tactic.Linarith

namespace Daao.Lib.GoTime

open List

/-! ## 1. Numbers -/

/-- The last `w` digits of a number. -/
def lowDigits : Nat → Nat → List Char
  | 0, _ => []
  | w + 1, n => Nat.digitChar (n / 10 ^ w % 10) :: lowDigits w n

/-- A number of `w` digits, and what is after it. -/
def number : Nat → List Char → Option (Nat × List Char)
  | 0, text => some (0, text)
  | w + 1, c :: text =>
    if c.isDigit then (number w text).map fun x => ((c.toNat - '0'.toNat) * 10 ^ w + x.1, x.2)
    else none
  | _ + 1, [] => none

def skip (c : Char) (text : List Char) : Option (List Char) :=
  if text.head? = some c then some text.tail else none

theorem isDigit_digitChar_mod (n : Nat) : (Nat.digitChar (n % 10)).isDigit = true := by
  rw [Nat.isDigit_digitChar]
  exact decide_eq_true (Nat.mod_lt _ (by decide))

theorem toNat_digitChar_mod (n : Nat) : (Nat.digitChar (n % 10)).toNat - '0'.toNat = n % 10 := by
  rw [Nat.toNat_digitChar_of_lt_ten (Nat.mod_lt _ (by decide))]
  exact Nat.add_sub_cancel_left 48 _

theorem number_lowDigits_mod (w n : Nat) (rest : List Char) :
    number w (lowDigits w n ++ rest) = some (n % 10 ^ w, rest) := by
  induction w with
  | zero => simp [lowDigits, number, Nat.mod_one]
  | succ w ih =>
    rw [lowDigits, List.cons_append, number, if_pos (isDigit_digitChar_mod _), ih,
      toNat_digitChar_mod, Nat.pow_succ, Nat.mod_mul, Option.map_some, Nat.add_comm, Nat.mul_comm]

@[simp] theorem number_lowDigits {w n : Nat} (h : n < 10 ^ w) (rest : List Char) :
    number w (lowDigits w n ++ rest) = some (n, rest) := by
  rw [number_lowDigits_mod, Nat.mod_eq_of_lt h]

@[simp] theorem skip_cons (c : Char) (rest : List Char) : skip c (c :: rest) = some rest := by
  simp [skip]

/-! ## 2. Dates -/

def isLeap (year : Int) : Bool := year % 4 = 0 && (year % 100 ≠ 0 || year % 400 = 0)

def daysIn (month year : Int) : Int :=
  if month = 2 then if isLeap year then 29 else 28
  else if month = 4 ∨ month = 6 ∨ month = 9 ∨ month = 11 then 30 else 31

structure Date where
  year : Int
  month : Int
  day : Int
  deriving DecidableEq

/-- The date of a day, counted from 1 March of the year 0. Years begin in
March here, so that a leap day is the last of its year: `dayOfYear` is the
day in such a year, and its month has five in 153 days. -/
def dateOf (days : Int) : Date :=
  let rest := days % 146097
  let century := min 3 (rest / 36524)
  let rest := rest - 36524 * century
  let year := min 3 (rest % 1461 / 365)
  let dayOfYear := rest % 1461 - 365 * year
  let month := (5 * dayOfYear + 2) / 153
  { year := days / 146097 * 400 + century * 100 + rest / 1461 * 4 + year
      + if month < 10 then 0 else 1
    month := if month < 10 then month + 3 else month - 9
    day := dayOfYear - (153 * month + 2) / 5 + 1 }

def daysOf (date : Date) : Int :=
  let year := if date.month ≤ 2 then date.year - 1 else date.year
  let month := if date.month ≤ 2 then date.month + 9 else date.month - 3
  year / 400 * 146097 + year % 400 * 365 + year % 400 / 4 - year % 400 / 100
    + (153 * month + 2) / 5 + date.day - 1

/-- What `dateOf` computes on its way: the day lies in a year of its
century, and in a month of that year. -/
theorem dateOf_parts (days : Int) : ∃ era century olympiad year day month : Int,
    days = era * 146097 + century * 36524 + olympiad * 1461 + year * 365 + day ∧
      (0 ≤ century ∧ century ≤ 3) ∧ (0 ≤ olympiad ∧ olympiad ≤ 24) ∧ (0 ≤ year ∧ year ≤ 3) ∧
      (0 ≤ day ∧ day ≤ 365) ∧ (day = 365 → year = 3 ∧ (olympiad = 24 → century = 3)) ∧
      (0 ≤ month ∧ month ≤ 11) ∧ (153 * month + 2) / 5 ≤ day ∧ day < (153 * month + 155) / 5 ∧
      dateOf days = {
        year := era * 400 + century * 100 + olympiad * 4 + year + if month < 10 then 0 else 1
        month := if month < 10 then month + 3 else month - 9
        day := day - (153 * month + 2) / 5 + 1 } := by
  refine ⟨_, _, _, _, _, _, ?_, ?_, ?_, ?_, ?_, ?_, ?_, ?_, ?_, rfl⟩
  all_goals omega

theorem dateOf_spec (days : Int) :
    daysOf (dateOf days) = days ∧ (1 ≤ (dateOf days).month ∧ (dateOf days).month ≤ 12) ∧
      (1 ≤ (dateOf days).day ∧ (dateOf days).day ≤ daysIn (dateOf days).month (dateOf days).year) ∧
      (-60 ≤ days ∧ days < 3652365 → 0 ≤ (dateOf days).year ∧ (dateOf days).year ≤ 9999) := by
  obtain ⟨era, century, olympiad, year, day, month, hdays, hc, ho, hy, hd, hleap, hm, hlo, hhi,
    hdate⟩ := dateOf_parts days
  rw [hdate]
  refine ⟨?_, ?_, ?_, ?_⟩
  · simp only [daysOf]
    split_ifs <;> omega
  · dsimp only
    split_ifs <;> omega
  · simp only [daysIn, isLeap]
    split_ifs <;> simp_all <;> omega
  · intro h
    have hera : era = -1 ∨ (0 ≤ era ∧ era ≤ 23) ∨ era = 24 := by omega
    dsimp only
    rcases hera with h | h | h <;> split_ifs <;> omega

/-! ## 3. The fraction of a second -/

/-- The first `w` digits after the point, up to the last that is not zero. -/
def fractionDigits : Nat → Nat → List Char
  | 0, _ => []
  | w + 1, n =>
    if n = 0 then [] else Nat.digitChar (n / 10 ^ w % 10) :: fractionDigits w (n % 10 ^ w)

/-- The microseconds, as `.999999999` has them. -/
def fraction (micros : Nat) : List Char :=
  if micros = 0 then [] else '.' :: fractionDigits 6 micros

/-- The digits after the point, of which `w` count. -/
def readDigits : Nat → List Char → Nat × List Char
  | _, [] => (0, [])
  | w, c :: text =>
    if c.isDigit then
      let (n, rest) := readDigits (w - 1) text
      (if w = 0 then 0 else (c.toNat - '0'.toNat) * 10 ^ (w - 1) + n, rest)
    else (0, c :: text)

/-- A fraction at the start of a text, cut to microseconds, and what is
after it. -/
def readFraction : List Char → Nat × List Char
  | '.' :: c :: text => if c.isDigit then readDigits 6 (c :: text) else (0, '.' :: c :: text)
  | text => (0, text)

theorem readDigits_fractionDigits {w n : Nat} (h : n < 10 ^ w) :
    readDigits w (fractionDigits w n ++ ['Z']) = (n, ['Z']) := by
  induction w generalizing n with
  | zero =>
    obtain rfl : n = 0 := by simpa using h
    rfl
  | succ w ih =>
    rw [fractionDigits]
    split
    · subst n
      rfl
    have hq : n / 10 ^ w % 10 = n / 10 ^ w :=
      Nat.mod_eq_of_lt (Nat.div_lt_of_lt_mul (by rwa [Nat.pow_succ] at h))
    rw [cons_append, readDigits, if_pos (isDigit_digitChar_mod _), toNat_digitChar_mod,
      Nat.add_sub_cancel, ih (Nat.mod_lt _ (by positivity)), hq]
    simp [Nat.div_add_mod']

theorem readFraction_fraction {micros : Nat} (h : micros < 10 ^ 6) :
    readFraction (fraction micros ++ ['Z']) = (micros, ['Z']) := by
  unfold fraction
  split
  · subst micros
    rfl
  rename_i hne
  have hd := readDigits_fractionDigits h
  rw [fractionDigits, if_neg hne] at hd ⊢
  rw [cons_append, cons_append, readFraction, if_pos (isDigit_digitChar_mod _)]
  exact hd

/-! ## 4. Times -/

/-- An `int64` with the low bits of a number. -/
def wrapInt64 (n : Int) : Int := (n + 2 ^ 63) % 2 ^ 64 - 2 ^ 63

/-- `time.Duration(minutes) * time.Minute`. -/
def minutesDuration (minutes : Int) : Int := wrapInt64 (minutes * 60000000000)

/-- In UTC, in microseconds since 1970. The year is one that `MarshalJSON`
accepts. -/
structure Time where
  micros : Int
  year_nonneg : -62167219200000000 ≤ micros
  year_le : micros < 253402300800000000
  deriving DecidableEq

/-- Since 1 March of the year 0. -/
def Time.days (t : Time) : Int := t.micros / 1000000 / 86400 + 719468

def format (t : Time) : String :=
  let second := t.micros / 1000000 % 86400
  let date := dateOf t.days
  String.ofList (lowDigits 4 date.year.toNat ++ '-' :: (lowDigits 2 date.month.toNat ++ '-' ::
    (lowDigits 2 date.day.toNat ++ 'T' :: (lowDigits 2 (second / 3600).toNat ++ ':' ::
    (lowDigits 2 (second / 60 % 60).toNat ++ ':' :: (lowDigits 2 (second % 60).toNat ++
    (fraction (t.micros % 1000000).toNat ++ ['Z'])))))))

theorem format_ne_empty (t : Time) : format t ≠ "" := by
  intro h
  have := congrArg String.toList h
  simp [format] at this

def parse (text : String) : Option Int := do
  let (year, text) ← number 4 text.toList
  let text ← skip '-' text
  let (month, text) ← number 2 text
  let text ← skip '-' text
  let (day, text) ← number 2 text
  let text ← skip 'T' text
  let (hour, text) ← number 2 text
  let text ← skip ':' text
  let (minute, text) ← number 2 text
  let text ← skip ':' text
  let (second, text) ← number 2 text
  let (micros, text) := readFraction text
  if text = ['Z'] ∧ (1 ≤ month ∧ month ≤ 12) ∧ (1 ≤ day ∧ day ≤ daysIn month year) ∧
      hour < 24 ∧ minute < 60 ∧ second < 60 then
    let days := daysOf { year := year, month := month, day := day } - 719468
    some ((days * 86400 + hour * 3600 + minute * 60 + second) * 1000000 + micros)
  else none

/-- **Round trip.** -/
theorem parse_format (t : Time) : parse (format t) = some t.micros := by
  obtain ⟨hdays, hmonth, hday, hyear⟩ := dateOf_spec t.days
  obtain ⟨micros, hlo, hhi⟩ := t
  replace hyear := hyear (by simp only [Time.days]; omega)
  have hday31 : (dateOf (Time.days ⟨micros, hlo, hhi⟩)).day ≤ 31 := by
    refine hday.2.trans ?_
    unfold daysIn
    split_ifs <;> decide
  unfold format
  simp only [Time.days] at *
  generalize dateOf (micros / 1000000 / 86400 + 719468) = date at *
  obtain ⟨year, month, day⟩ := date
  simp only at hmonth hday hday31 hyear
  have hy : year.toNat < 10 ^ 4 := by omega
  have hm : month.toNat < 10 ^ 2 := by omega
  have hd : day.toNat < 10 ^ 2 := by omega
  have hh : (micros / 1000000 % 86400 / 3600).toNat < 10 ^ 2 := by omega
  have hmi : (micros / 1000000 % 86400 / 60 % 60).toNat < 10 ^ 2 := by omega
  have hs : (micros / 1000000 % 86400 % 60).toNat < 10 ^ 2 := by omega
  have hf : (micros % 1000000).toNat < 10 ^ 6 := by omega
  simp only [parse, String.toList_ofList, Option.bind_eq_bind, number_lowDigits hy,
    number_lowDigits hm, number_lowDigits hd, number_lowDigits hh, number_lowDigits hmi,
    number_lowDigits hs, skip_cons, Option.bind_some, readFraction_fraction hf]
  rw [Int.toNat_of_nonneg hyear.1, Int.toNat_of_nonneg (by omega : 0 ≤ month),
    Int.toNat_of_nonneg (by omega : 0 ≤ day), hdays, if_pos]
  · congr 1
    omega
  · exact ⟨trivial, by omega, ⟨by omega, hday.2⟩, by omega, by omega, by omega⟩

end Daao.Lib.GoTime
