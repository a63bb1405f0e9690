import CoreBanking.Base.Time
import Mathlib.Data.Int.Order.Basic
import Mathlib.Data.List.Basic
import Mathlib.Tactic.IntervalCases

/-!
# The calendar

Days of the Gregorian calendar, extended to the years before it, as Go counts them.

- `Date`: a day that is in its month;
- `Date.number`: the days since January 1 of year 1, which tells dates apart (`number_inj`);
- `parseDate`, `Date.text`: a date as `YYYY-MM-DD`. What is parsed is the text of what it was
  parsed to (`text_of_parseDate`);
- `Date.midnight`: the instant in UTC, whose `dateKey` is the number of the day.
-/

namespace CoreBanking

/-! ## Days -/

def IsLeap (year : ℕ) : Prop := year % 4 = 0 ∧ (year % 100 ≠ 0 ∨ year % 400 = 0)

instance (year : ℕ) : Decidable (IsLeap year) := inferInstanceAs (Decidable (_ ∧ _))

/-- The number of days of a month. -/
def daysIn (year month : ℕ) : ℕ :=
  if month = 2 then if IsLeap year then 29 else 28
  else if month = 4 ∨ month = 6 ∨ month = 9 ∨ month = 11 then 30
  else 31

@[ext]
structure Date where
  year : ℕ
  month : ℕ
  day : ℕ
  month_pos : 0 < month
  month_le : month ≤ 12
  day_pos : 0 < day
  day_le : day ≤ daysIn year month
deriving DecidableEq

/-- The number of days of the first `months` months. -/
def daysOf (year : ℕ) : ℕ → ℕ
  | 0 => 0
  | months + 1 => daysOf year months + daysIn year (months + 1)

/-- The days from January 1 of year 1 to January 1 of `year`. -/
def daysBeforeYear (year : ℕ) : ℤ :=
  365 * (year - 1 : ℤ) + (year - 1 : ℤ) / 4 - (year - 1 : ℤ) / 100 + (year - 1 : ℤ) / 400

theorem daysOf_year (year : ℕ) : daysOf year 12 = if IsLeap year then 366 else 365 := by
  by_cases h : IsLeap year <;> simp [daysOf, daysIn, h]

theorem daysBeforeYear_succ (year : ℕ) :
    daysBeforeYear (year + 1) = daysBeforeYear year + daysOf year 12 := by
  rw [daysOf_year, daysBeforeYear, daysBeforeYear]
  by_cases h : IsLeap year
  · rw [if_pos h]
    unfold IsLeap at h
    omega
  · rw [if_neg h]
    unfold IsLeap at h
    omega

theorem daysOf_mono (year : ℕ) {m m' : ℕ} (h : m ≤ m') : daysOf year m ≤ daysOf year m' := by
  induction h with
  | refl => exact le_rfl
  | step _ ih => exact ih.trans (Nat.le_add_right _ _)

theorem daysBeforeYear_mono {y y' : ℕ} (h : y ≤ y') : daysBeforeYear y ≤ daysBeforeYear y' := by
  induction h with
  | refl => exact le_rfl
  | @step n _ ih =>
    have hsucc := daysBeforeYear_succ n
    show daysBeforeYear y ≤ daysBeforeYear (n + 1)
    omega

namespace Date

/-- The days since January 1 of year 1. -/
def number (d : Date) : ℤ :=
  daysBeforeYear d.year + (daysOf d.year (d.month - 1) + (d.day - 1) : ℕ)

/-- The day of the year, from zero. -/
theorem dayOfYear_lt (d : Date) :
    daysOf d.year (d.month - 1) + (d.day - 1) < daysOf d.year d.month := by
  obtain ⟨month, hmonth⟩ : ∃ m, d.month = m + 1 := ⟨d.month - 1, by have := d.month_pos; omega⟩
  have hday := d.day_le
  have hpos := d.day_pos
  rw [hmonth] at hday ⊢
  rw [daysOf, Nat.add_sub_cancel]
  omega

theorem number_lt_of_year {d d' : Date} (h : d.year < d'.year) : d.number < d'.number := by
  have hday := d.dayOfYear_lt
  have hpos := d.day_pos
  have hyear := daysOf_mono d.year d.month_le
  have hsucc := daysBeforeYear_succ d.year
  have hle : daysBeforeYear (d.year + 1) ≤ daysBeforeYear d'.year := daysBeforeYear_mono h
  have hpos' := d'.day_pos
  simp only [number]
  omega

theorem number_lt_of_month {d d' : Date} (hyear : d.year = d'.year) (h : d.month < d'.month) :
    d.number < d'.number := by
  have hday := d.dayOfYear_lt
  have hpos := d.day_pos
  have hmonth : d.month ≤ d'.month - 1 := by omega
  have hmono := daysOf_mono d.year hmonth
  have hpos' := d'.day_pos
  simp only [number, ← hyear]
  omega

/-- Different dates have different numbers. -/
theorem number_inj {d d' : Date} (h : d.number = d'.number) : d = d' := by
  rcases lt_trichotomy d.year d'.year with hlt | hyear | hlt
  · exact absurd h (number_lt_of_year hlt).ne
  · rcases lt_trichotomy d.month d'.month with hlt | hmonth | hlt
    · exact absurd h (number_lt_of_month hyear hlt).ne
    · have hpos := d.day_pos
      have hpos' := d'.day_pos
      simp only [number, hyear, hmonth] at h
      exact Date.ext hyear hmonth (by omega)
    · exact absurd h.symm (number_lt_of_month hyear.symm hlt).ne
  · exact absurd h.symm (number_lt_of_year hlt).ne

/-- Midnight in UTC. -/
def midnight (d : Date) : Time := ⟨d.number * (24 * Time.hour), 0⟩

@[simp] theorem dateKey_midnight (d : Date) : d.midnight.dateKey = d.number := by
  simp only [midnight, Time.dateKey, Time.hour]
  omega

end Date

/-! ## Texts -/

def digit (c : Char) : Option ℕ := if c.isDigit then some (c.toNat - '0'.toNat) else none

/-- The number with some digits, the first one first. -/
def decimal (digits : List Char) : Option ℕ :=
  digits.foldlM (fun n c => (digit c).map (10 * n + ·)) 0

theorem digitChar_of_digit {c : Char} {n : ℕ} (h : digit c = some n) :
    n < 10 ∧ Nat.digitChar n = c := by
  rw [digit] at h
  split at h
  · rename_i hdigit
    cases h
    have hrange : 48 ≤ c.toNat ∧ c.toNat ≤ 57 := by
      rw [Char.isDigit, Bool.and_eq_true, decide_eq_true_eq, decide_eq_true_eq] at hdigit
      exact ⟨UInt32.le_iff_toNat_le.mp hdigit.1, UInt32.le_iff_toNat_le.mp hdigit.2⟩
    obtain ⟨k, hk⟩ : ∃ k, c = Char.ofNat (48 + k) ∧ k < 10 := by
      refine ⟨c.toNat - 48, ?_, by omega⟩
      rw [Nat.add_sub_cancel' hrange.1, Char.ofNat_toNat]
    obtain ⟨rfl, hlt⟩ := hk
    interval_cases k <;> decide
  · cases h

theorem decimal_append_eq_some {cs : List Char} {c : Char} {n : ℕ}
    (h : decimal (cs ++ [c]) = some n) :
    ∃ m, decimal cs = some m ∧ n / 10 = m ∧ Nat.digitChar (n % 10) = c := by
  rw [decimal, List.foldlM_append, Option.bind_eq_bind, Option.bind_eq_some_iff] at h
  obtain ⟨m, hm, hlast⟩ := h
  simp only [List.foldlM_cons, List.foldlM_nil, Option.bind_eq_bind, Option.bind_eq_some_iff,
    Option.map_eq_some_iff, Option.pure_def, Option.some.injEq] at hlast
  obtain ⟨_, ⟨k, hk, rfl⟩, rfl⟩ := hlast
  obtain ⟨hlt, hchar⟩ := digitChar_of_digit hk
  refine ⟨m, hm, by omega, ?_⟩
  rwa [Nat.mul_add_mod, Nat.mod_eq_of_lt hlt]

/-- `time.Parse` with the layout `2006-01-02`. -/
def parseDate (s : String) : Option Date :=
  match s.toList with
  | [y₁, y₂, y₃, y₄, '-', m₁, m₂, '-', d₁, d₂] => do
    let year ← decimal [y₁, y₂, y₃, y₄]
    let month ← decimal [m₁, m₂]
    let day ← decimal [d₁, d₂]
    if h : 0 < month ∧ month ≤ 12 ∧ 0 < day ∧ day ≤ daysIn year month then
      some ⟨year, month, day, h.1, h.2.1, h.2.2.1, h.2.2.2⟩
    else none
  | _ => none

/-- The text of a date with a year of four digits. -/
def Date.text (d : Date) : String :=
  String.ofList (
    [d.year / 10 / 10 / 10 % 10, d.year / 10 / 10 % 10, d.year / 10 % 10, d.year % 10].map
      Nat.digitChar ++ ['-'] ++ [d.month / 10 % 10, d.month % 10].map Nat.digitChar ++ ['-'] ++
      [d.day / 10 % 10, d.day % 10].map Nat.digitChar)

example : (parseDate "2024-02-29").map Date.text = some "2024-02-29" := by decide +kernel

example : parseDate "2023-02-29" = none := by decide +kernel

theorem decimal_two {a b : Char} {n : ℕ} (h : decimal [a, b] = some n) :
    [n / 10 % 10, n % 10].map Nat.digitChar = [a, b] := by
  obtain ⟨m, hm, rfl, hb⟩ := decimal_append_eq_some (show decimal ([a] ++ [b]) = some n from h)
  obtain ⟨_, -, -, ha⟩ := decimal_append_eq_some (show decimal ([] ++ [a]) = some _ from hm)
  simp only [List.map_cons, List.map_nil, ha, hb]

theorem decimal_four {a b c d : Char} {n : ℕ} (h : decimal [a, b, c, d] = some n) :
    [n / 10 / 10 / 10 % 10, n / 10 / 10 % 10, n / 10 % 10, n % 10].map Nat.digitChar
      = [a, b, c, d] := by
  obtain ⟨m, hm, rfl, hd⟩ :=
    decimal_append_eq_some (show decimal ([a, b, c] ++ [d]) = some n from h)
  obtain ⟨m', hm', rfl, hc⟩ :=
    decimal_append_eq_some (show decimal ([a, b] ++ [c]) = some _ from hm)
  have hab := decimal_two hm'
  simp only [List.map_cons, List.map_nil, List.cons.injEq] at hab ⊢
  exact ⟨hab.1, hab.2.1, hc, hd, trivial⟩

/-- A parsed date has the text that it was parsed from. -/
theorem text_of_parseDate {s : String} {d : Date} (h : parseDate s = some d) : d.text = s := by
  unfold parseDate at h
  split at h
  · rename_i y₁ y₂ y₃ y₄ m₁ m₂ d₁ d₂ hs
    simp only [Option.bind_eq_bind, Option.bind_eq_some_iff] at h
    obtain ⟨year, hyear, month, hmonth, day, hday, h⟩ := h
    split at h
    · cases h
      rw [Date.text, decimal_four hyear, decimal_two hmonth, decimal_two hday]
      rw [← String.toList_inj, String.toList_ofList, hs]
      rfl
    · cases h
  · cases h

/-- Texts of one date are the same. -/
theorem parseDate_inj {s s' : String} {d : Date} (h : parseDate s = some d)
    (h' : parseDate s' = some d) : s = s' := by
  rw [← text_of_parseDate h, text_of_parseDate h']

end CoreBanking
