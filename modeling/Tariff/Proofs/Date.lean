/-
  Tariff.Proofs.Date — the day after a date.

  No date lies between a date and the next one. `next?` has the day after of every date
  but the last of the calendar, so of every date with a later one.
  - `exists_next`: that day, and that it is the first later one.
-/
import Tariff.Date

namespace Tariff.Date

/-! ## Order -/

theorem lt_iff_ordinal {a b : Date} : a < b ↔ a.ordinal < b.ordinal := Iff.rfl

theorem le_iff_ordinal {a b : Date} : a ≤ b ↔ a.ordinal ≤ b.ordinal := Iff.rfl

theorem not_le {a b : Date} : ¬ a ≤ b ↔ b < a := Int.not_le

theorem le_trans {a b c : Date} (h : a ≤ b) (h' : b ≤ c) : a ≤ c := Int.le_trans h h'

theorem le_of_lt {a b : Date} (h : a < b) : a ≤ b := Int.le_of_lt h

/-! ## The calendar -/

theorem onCalendar_iff {year : Int} {month day : Nat} : onCalendar year month day = true ↔
    (firstYear ≤ year ∧ year ≤ lastYear) ∧ (1 ≤ month ∧ month ≤ 12) ∧ 1 ≤ day ∧ day ≤ monthLength year month := by
  simp [onCalendar, and_assoc]

theorem one_le_monthLength (year : Int) (month : Nat) : 1 ≤ monthLength year month := by
  unfold monthLength
  repeat' split
  all_goals omega

theorem monthLength_le (year : Int) (month : Nat) : monthLength year month ≤ 31 := by
  unfold monthLength
  repeat' split
  all_goals omega

theorem of?_eq_some {year : Int} {month day : Nat} (h : onCalendar year month day = true) :
    of? year month day = some ⟨year, month, day, h⟩ :=
  dif_pos h

theorem of?_eq_none {year : Int} {month day : Nat} (h : ¬ onCalendar year month day = true) :
    of? year month day = none :=
  dif_neg h

/-! ## The next day -/

/-- A date after the last day of a month is in a later month. -/
theorem month_lt_of_last {b d : Date} (last : b.day = monthLength b.year b.month) (h : b < d) :
    b.year * 16 + b.month < d.year * 16 + d.month := by
  obtain ⟨-, hbm, -⟩ := onCalendar_iff.mp b.valid
  obtain ⟨-, hdm, -, hle⟩ := onCalendar_iff.mp d.valid
  have hlen := monthLength_le d.year d.month
  rw [lt_iff_ordinal, ordinal, ordinal] at h
  by_cases same : b.year * 16 + b.month = d.year * 16 + d.month
  · have hy : d.year = b.year := by omega
    have hm : d.month = b.month := by omega
    rw [hy, hm, ← last] at hle
    omega
  · omega

/-- What is next when the day before ends its month is the first day that is in a later one. -/
theorem first_iff {b n : Date} (last : b.day = monthLength b.year b.month) (first : n.day = 1)
    (later : b.year * 16 + b.month < n.year * 16 + n.month)
    (soonest : ∀ d : Date, b < d → n.year * 16 + n.month ≤ d.year * 16 + d.month) (d : Date) : n ≤ d ↔ b < d := by
  obtain ⟨-, -, hpos, -⟩ := onCalendar_iff.mp d.valid
  have hlen := monthLength_le b.year b.month
  constructor
  · intro hd
    rw [le_iff_ordinal, ordinal, ordinal] at hd
    rw [lt_iff_ordinal, ordinal, ordinal]
    omega
  · intro hd
    have := soonest d hd
    rw [le_iff_ordinal, ordinal, ordinal]
    omega

/-- A date with a later one has a next one, which is the first of them. -/
theorem exists_next {b c : Date} (h : b < c) : ∃ n, b.next? = some n ∧ ∀ d : Date, n ≤ d ↔ b < d := by
  obtain ⟨hyear, hmonth, hday⟩ := onCalendar_iff.mp b.valid
  unfold next?
  by_cases day : onCalendar b.year b.month (b.day + 1) = true
  · refine ⟨⟨b.year, b.month, b.day + 1, day⟩, by rw [of?_eq_some day]; rfl, ?_⟩
    intro d
    simp only [lt_iff_ordinal, le_iff_ordinal, ordinal]
    omega
  -- the day is the last of its month
  rw [of?_eq_none day, Option.none_or]
  have last : b.day = monthLength b.year b.month := by
    have : ¬ b.day + 1 ≤ monthLength b.year b.month := by
      intro hle
      exact day (onCalendar_iff.mpr ⟨hyear, hmonth, by omega, hle⟩)
    omega
  by_cases month : onCalendar b.year (b.month + 1) 1 = true
  · refine ⟨⟨b.year, b.month + 1, 1, month⟩, by rw [of?_eq_some month]; rfl, ?_⟩
    refine first_iff last rfl (by simp only; omega) ?_
    intro d hd
    have := month_lt_of_last last hd
    simp only
    omega
  -- the month is the last of its year
  rw [of?_eq_none month, Option.none_or]
  have december : b.month = 12 := by
    have : ¬ b.month + 1 ≤ 12 := by
      intro hle
      exact month (onCalendar_iff.mpr ⟨hyear, ⟨by omega, hle⟩, by omega, one_le_monthLength ..⟩)
    omega
  have nextYear (d : Date) (hd : b < d) : b.year + 1 ≤ d.year := by
    obtain ⟨-, hdm, -⟩ := onCalendar_iff.mp d.valid
    have := month_lt_of_last last hd
    omega
  have year : onCalendar (b.year + 1) 1 1 = true := by
    obtain ⟨hcy, -, -⟩ := onCalendar_iff.mp c.valid
    have := nextYear c h
    exact onCalendar_iff.mpr ⟨by omega, by omega, by omega, one_le_monthLength ..⟩
  refine ⟨⟨b.year + 1, 1, 1, year⟩, of?_eq_some year, first_iff last rfl (by simp only; omega) ?_⟩
  intro d hd
  obtain ⟨-, hdm, -⟩ := onCalendar_iff.mp d.valid
  have := nextYear d hd
  simp only
  omega

end Tariff.Date
