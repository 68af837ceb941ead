/-
Dates of the Gregorian calendar.

* `CalendarDate` — a year from 1 to 9999, a month and a day of it;
* `ordinal` — the number of the day, from the first of the year 1 on;
* `ordinal_lt_iff` — the numbers are ordered as year, month and day are.
-/
import Mathlib.Algebra.Order.Ring.Int
import Mathlib.Data.List.Basic
import Mathlib.Order.SuccPred.Archimedean
import Mathlib.Tactic.Common

namespace Calendar

def isLeap (year : ℕ) : Bool := year % 4 = 0 && (year % 100 ≠ 0 || year % 400 = 0)

def daysInMonth (year month : ℕ) : ℕ :=
  if month = 2 then (if isLeap year then 29 else 28)
  else if month ∈ [4, 6, 9, 11] then 30 else 31

/-- The days of a year before the first of a month. -/
def daysBeforeMonth (year month : ℕ) : ℕ :=
  ((List.range' 1 (month - 1)).map (daysInMonth year)).sum

/-- The days before the first of January. -/
def daysBeforeYear (year : ℕ) : ℕ :=
  (year - 1) * 365 + (year - 1) / 4 - (year - 1) / 100 + (year - 1) / 400

/-- A date of a four-digit year. -/
structure CalendarDate where
  year : ℕ
  month : ℕ
  day : ℕ
  year_pos : 1 ≤ year
  year_le : year ≤ 9999
  month_pos : 1 ≤ month
  month_le : month ≤ 12
  day_pos : 1 ≤ day
  day_le : day ≤ daysInMonth year month
  deriving DecidableEq

/-- The date of a year, a month and a day, if there is one. -/
def date? (year month day : ℕ) : Option CalendarDate :=
  if h : 1 ≤ year ∧ year ≤ 9999 ∧ 1 ≤ month ∧ month ≤ 12 ∧ 1 ≤ day ∧
      day ≤ daysInMonth year month then
    some ⟨year, month, day, h.1, h.2.1, h.2.2.1, h.2.2.2.1, h.2.2.2.2.1, h.2.2.2.2.2⟩
  else none

theorem date?_self (d : CalendarDate) : date? d.year d.month d.day = some d :=
  dif_pos ⟨d.year_pos, d.year_le, d.month_pos, d.month_le, d.day_pos, d.day_le⟩

/-- The number of a day. -/
def CalendarDate.ordinal (d : CalendarDate) : ℤ :=
  daysBeforeYear d.year + daysBeforeMonth d.year d.month + d.day

/-! ### The order of the days -/

theorem daysBeforeMonth_succ {year month : ℕ} (hmonth : 1 ≤ month) :
    daysBeforeMonth year (month + 1) = daysBeforeMonth year month + daysInMonth year month := by
  obtain ⟨m, rfl⟩ : ∃ m, month = m + 1 := ⟨month - 1, by omega⟩
  rw [daysBeforeMonth, daysBeforeMonth, Nat.add_sub_cancel, Nat.add_sub_cancel,
    List.range'_1_concat, List.map_append, List.sum_append, Nat.add_comm 1 m]
  simp

/-- A month ends before a later one begins. -/
theorem daysBeforeMonth_of_lt {year m m' : ℕ} (hpos : 1 ≤ m) (h : m < m') :
    daysBeforeMonth year m + daysInMonth year m ≤ daysBeforeMonth year m' := by
  induction m', h using Nat.le_induction with
  | base => exact (daysBeforeMonth_succ hpos).ge
  | succ n hn ih =>
    rw [daysBeforeMonth_succ (by omega)]
    omega

/-- The days of a year are those of its months. -/
theorem daysBeforeMonth_end (year : ℕ) :
    daysBeforeMonth year 13 = 365 + if isLeap year then 1 else 0 := by
  cases h : isLeap year <;> simp [daysBeforeMonth, daysInMonth, List.range', h]

/-- Every fourth year is a leap year, of the hundredth ones every fourth. -/
theorem daysBeforeYear_succ {year : ℕ} (hyear : 1 ≤ year) :
    daysBeforeYear (year + 1) = daysBeforeYear year + 365 + if isLeap year then 1 else 0 := by
  obtain ⟨y, rfl⟩ : ∃ y, year = y + 1 := ⟨year - 1, by omega⟩
  have h4 := Nat.succ_div (a := y) (b := 4)
  have h100 := Nat.succ_div (a := y) (b := 100)
  have h400 := Nat.succ_div (a := y) (b := 400)
  have hle : y / 100 ≤ y / 4 := Nat.div_le_div_left (by omega) (by omega)
  have hof100 : 100 ∣ y + 1 → 4 ∣ y + 1 := fun h => Dvd.dvd.trans (by decide) h
  have hof400 : 400 ∣ y + 1 → 100 ∣ y + 1 := fun h => Dvd.dvd.trans (by decide) h
  have hleap : isLeap (y + 1) = true ↔ 4 ∣ y + 1 ∧ (¬100 ∣ y + 1 ∨ 400 ∣ y + 1) := by
    simp [isLeap, Nat.dvd_iff_mod_eq_zero]
  simp only [daysBeforeYear, Nat.add_sub_cancel, hleap]
  by_cases c4 : 4 ∣ y + 1
  · rw [if_pos c4] at h4
    by_cases c100 : 100 ∣ y + 1
    · rw [if_pos c100] at h100
      by_cases c400 : 400 ∣ y + 1
      · rw [if_pos c400] at h400
        rw [if_pos ⟨c4, .inr c400⟩]
        omega
      · rw [if_neg c400] at h400
        rw [if_neg fun h => h.2.elim (fun hnot => hnot c100) c400]
        omega
    · rw [if_neg c100] at h100
      rw [if_neg fun h => c100 (hof400 h)] at h400
      rw [if_pos ⟨c4, .inl c100⟩]
      omega
  · have c100 : ¬100 ∣ y + 1 := fun h => c4 (hof100 h)
    rw [if_neg c4] at h4
    rw [if_neg c100] at h100
    rw [if_neg fun h => c100 (hof400 h)] at h400
    rw [if_neg fun h => c4 h.1]
    omega

theorem daysBeforeYear_mono {y y' : ℕ} (hpos : 1 ≤ y) (h : y ≤ y') :
    daysBeforeYear y ≤ daysBeforeYear y' := by
  induction y', h using Nat.le_induction with
  | base => exact le_rfl
  | succ n hn ih =>
    rw [daysBeforeYear_succ (by omega)]
    omega

namespace CalendarDate

theorem day_le_end (d : CalendarDate) :
    daysBeforeMonth d.year d.month + d.day ≤ daysBeforeMonth d.year 13 := by
  have hmonth : daysBeforeMonth d.year d.month + daysInMonth d.year d.month ≤
      daysBeforeMonth d.year 13 :=
    daysBeforeMonth_of_lt d.month_pos (Nat.lt_succ_of_le d.month_le)
  have hday := d.day_le
  omega

/-- The days are ordered by year, month and day. -/
theorem ordinal_lt_of {d d' : CalendarDate}
    (h : d.year < d'.year ∨ d.year = d'.year ∧
      (d.month < d'.month ∨ d.month = d'.month ∧ d.day < d'.day)) : d.ordinal < d'.ordinal := by
  have hday := d.day_le
  have hpos := d'.day_pos
  rw [ordinal, ordinal]
  rcases h with hyear | ⟨hyear, hmonth | ⟨hmonth, hlt⟩⟩
  · -- the earlier year ends before the later one begins
    have hend := d.day_le_end
    have hsucc := daysBeforeYear_succ d.year_pos
    have hmono := daysBeforeYear_mono (y := d.year + 1) (by omega) hyear
    rw [daysBeforeMonth_end] at hend
    omega
  · have hbefore : daysBeforeMonth d.year d.month + daysInMonth d.year d.month ≤
        daysBeforeMonth d.year d'.month := daysBeforeMonth_of_lt d.month_pos hmonth
    rw [← hyear]
    omega
  · rw [← hyear, ← hmonth]
    omega

theorem ordinal_lt_iff {d d' : CalendarDate} :
    d.ordinal < d'.ordinal ↔ d.year < d'.year ∨ d.year = d'.year ∧
      (d.month < d'.month ∨ d.month = d'.month ∧ d.day < d'.day) := by
  constructor
  · intro h
    by_contra hnot
    rcases Nat.lt_trichotomy d.year d'.year with hy | hy | hy
    · exact hnot (.inl hy)
    · rcases Nat.lt_trichotomy d.month d'.month with hm | hm | hm
      · exact hnot (.inr ⟨hy, .inl hm⟩)
      · rcases Nat.lt_trichotomy d.day d'.day with hd | hd | hd
        · exact hnot (.inr ⟨hy, .inr ⟨hm, hd⟩⟩)
        · rw [ordinal, ordinal, hy, hm, hd] at h
          exact lt_irrefl _ h
        · exact absurd (ordinal_lt_of (.inr ⟨hy.symm, .inr ⟨hm.symm, hd⟩⟩)) (by omega)
      · exact absurd (ordinal_lt_of (.inr ⟨hy.symm, .inl hm⟩)) (by omega)
    · exact absurd (ordinal_lt_of (.inl hy)) (by omega)
  · exact ordinal_lt_of

end CalendarDate

end Calendar
