import Mathlib.Tactic.Common
import Mathlib.Algebra.Order.Group.Nat

namespace loranode.rtc

def SecondsInMinute : Nat := 60
def SecondsInHour : Nat := 3600
def SecondsInDay : Nat := 86400
def SecondsInLeapYear : Nat := 31622400
def SecondsInYear : Nat := 31536000

def DaysInMonth : List Nat := [31, 28, 31, 30, 31, 30, 31, 31, 30, 31, 30, 31]
def DaysInMonthLeapYear : List Nat := [31, 29, 31, 30, 31, 30, 31, 31, 30, 31, 30, 31]

/-- The date and the time that the hardware counts. -/
structure Calendar where
  Year : Nat
  Month : Nat
  Date : Nat
  Hours : Nat
  Minutes : Nat
  Seconds : Nat
  deriving DecidableEq, Repr

namespace Calendar

/-- The days of each month; the hardware takes every fourth year for a leap year. -/
def days (c : Calendar) : List Nat :=
  if c.Year % 4 = 0 then DaysInMonthLeapYear else DaysInMonth

/-- One calendar second of the hardware, with the roll-over from year 99 to 00. -/
def tick (c : Calendar) : Calendar :=
  if c.Seconds + 1 < 60 then { c with Seconds := c.Seconds + 1 }
  else if c.Minutes + 1 < 60 then { c with Seconds := 0, Minutes := c.Minutes + 1 }
  else if c.Hours + 1 < 24 then { c with Seconds := 0, Minutes := 0, Hours := c.Hours + 1 }
  else if c.Date < c.days.getD (c.Month - 1) 0 then
    { c with Seconds := 0, Minutes := 0, Hours := 0, Date := c.Date + 1 }
  else if c.Month < 12 then
    { c with Seconds := 0, Minutes := 0, Hours := 0, Date := 1, Month := c.Month + 1 }
  else ⟨(c.Year + 1) % 100, 1, 1, 0, 0, 0⟩

/-- The 1st of January 2000, 00:00:00, as `RtcInit` sets it. -/
def initial : Calendar := ⟨0, 1, 1, 0, 0, 0⟩

/-- What the hardware can hold. -/
structure Valid (c : Calendar) : Prop where
  year : c.Year < 100
  month : 1 ≤ c.Month ∧ c.Month ≤ 12
  date : 1 ≤ c.Date ∧ c.Date ≤ c.days.getD (c.Month - 1) 0
  hours : c.Hours < 24
  minutes : c.Minutes < 60
  seconds : c.Seconds < 60

end Calendar

theorem foldl_range_succ {α : Type} (f : α → Nat → α) (a : α) (n : Nat) :
    (List.range (n + 1)).foldl f a = f ((List.range n).foldl f a) n := by
  rw [List.range_succ, List.foldl_append, List.foldl_cons, List.foldl_nil]

/-- The loop over the months before `month`. -/
def monthsSeconds (days : List Nat) (month : Nat) : Nat :=
  (List.range (month - 1)).foldl (fun sum i => sum + days.getD i 0 * SecondsInDay) 0

/-- The loop over the years before `year`. -/
def yearsSeconds (year : Nat) : Nat :=
  (List.range year).foldl
    (fun sum i => sum + if i = 0 ∨ i % 4 = 0 then SecondsInLeapYear else SecondsInYear) 0

theorem yearsSeconds_succ (year : Nat) :
    yearsSeconds (year + 1) =
      yearsSeconds year + if year % 4 = 0 then SecondsInLeapYear else SecondsInYear := by
  have hzero : (year = 0 ∨ year % 4 = 0) ↔ year % 4 = 0 := by omega
  unfold yearsSeconds
  rw [foldl_range_succ]
  simp only [hzero]

theorem yearsSeconds_eq (year : Nat) :
    yearsSeconds year = 31536000 * year + 86400 * ((year + 3) / 4) := by
  induction year with
  | zero => rfl
  | succ year ih =>
    rw [yearsSeconds_succ, ih, SecondsInLeapYear, SecondsInYear]
    split <;> omega

theorem monthsSeconds_succ (days : List Nat) {month : Nat} (hmonth : 1 ≤ month) :
    monthsSeconds days (month + 1) =
      monthsSeconds days month + days.getD (month - 1) 0 * SecondsInDay := by
  obtain ⟨m, rfl⟩ := Nat.exists_eq_add_of_le' hmonth
  exact foldl_range_succ _ 0 m

namespace Calendar

/-- The seconds of the year that have gone. -/
def secondOfYear (c : Calendar) : Nat :=
  monthsSeconds c.days c.Month + (c.Date - 1) * SecondsInDay + c.Hours * SecondsInHour +
    c.Minutes * SecondsInMinute + c.Seconds

def yearLength (c : Calendar) : Nat :=
  if c.Year % 4 = 0 then SecondsInLeapYear else SecondsInYear

theorem monthsSeconds_thirteen (c : Calendar) : monthsSeconds c.days 13 = c.yearLength := by
  unfold days yearLength
  split <;> rfl

theorem secondOfYear_newYear (year : Nat) : secondOfYear ⟨year, 1, 1, 0, 0, 0⟩ = 0 := by
  simp [secondOfYear, monthsSeconds]

/-- The first day of every month exists. -/
theorem one_le_days (c : Calendar) {month : Nat} (hmonth : 1 ≤ month ∧ month ≤ 12) :
    1 ≤ c.days.getD (month - 1) 0 := by
  have hall : ∀ days ∈ [DaysInMonthLeapYear, DaysInMonth], ∀ i < 12, 1 ≤ days.getD i 0 := by
    decide
  refine hall c.days ?_ (month - 1) (by omega)
  unfold days
  split <;> simp

/-- A tick adds a second to the year, or begins the next one. -/
theorem tick_cases {c : Calendar} (hc : c.Valid) :
    c.tick.Valid ∧
      (c.tick.Year = c.Year ∧ c.tick.secondOfYear = c.secondOfYear + 1 ∨
        c.secondOfYear + 1 = c.yearLength ∧ c.tick = ⟨(c.Year + 1) % 100, 1, 1, 0, 0, 0⟩) := by
  obtain ⟨hyear, hmonth, hdate, hhours, hminutes, hseconds⟩ := hc
  have hfirst := c.one_le_days hmonth
  have hnext := monthsSeconds_succ c.days hmonth.1
  unfold tick
  split
  · next h =>
    exact ⟨⟨hyear, hmonth, hdate, hhours, hminutes, h⟩, .inl ⟨rfl, rfl⟩⟩
  split
  · next h =>
    refine ⟨⟨hyear, hmonth, hdate, hhours, h, Nat.succ_pos _⟩, .inl ⟨rfl, ?_⟩⟩
    simp only [secondOfYear, SecondsInMinute, days]
    omega
  split
  · next h =>
    refine ⟨⟨hyear, hmonth, hdate, h, Nat.succ_pos _, Nat.succ_pos _⟩, .inl ⟨rfl, ?_⟩⟩
    simp only [secondOfYear, SecondsInMinute, SecondsInHour, days]
    omega
  split
  · next h =>
    refine ⟨⟨hyear, hmonth, ⟨Nat.succ_pos _, h⟩, Nat.succ_pos _, Nat.succ_pos _, Nat.succ_pos _⟩,
      .inl ⟨rfl, ?_⟩⟩
    simp only [secondOfYear, SecondsInMinute, SecondsInHour, SecondsInDay, days]
    omega
  -- the last second of a month
  have hlast : c.secondOfYear + 1 = monthsSeconds c.days (c.Month + 1) := by
    simp only [secondOfYear, SecondsInMinute, SecondsInHour, SecondsInDay] at hnext ⊢
    have hdays : c.Date = c.days.getD (c.Month - 1) 0 := by omega
    rw [hnext, ← hdays]
    omega
  split
  · next h =>
    refine ⟨⟨hyear, ⟨Nat.succ_pos _, h⟩, ⟨Nat.le_refl 1, ?_⟩, Nat.succ_pos _, Nat.succ_pos _,
      Nat.succ_pos _⟩, .inl ⟨rfl, ?_⟩⟩
    · exact c.one_le_days ⟨Nat.succ_pos _, h⟩
    · rw [hlast]
      simp [secondOfYear, days]
  · next h =>
    have hdecember : c.Month = 12 := by omega
    have hjanuary : 1 ≤ 1 ∧ 1 ≤ 12 := by decide
    rw [hdecember, monthsSeconds_thirteen] at hlast
    refine ⟨⟨Nat.mod_lt _ (by decide), hjanuary, ⟨Nat.le_refl 1, ?_⟩,
      Nat.succ_pos _, Nat.succ_pos _, Nat.succ_pos _⟩, .inr ⟨hlast, rfl⟩⟩
    exact one_le_days _ hjanuary

theorem monthsSeconds_le (c : Calendar) {month : Nat} (hmonth : month ≤ 13) :
    monthsSeconds c.days month ≤ c.yearLength := by
  have hall : ∀ days ∈ [DaysInMonthLeapYear, DaysInMonth], ∀ month < 14,
      monthsSeconds days month ≤ monthsSeconds days 13 := by decide +kernel
  rw [← monthsSeconds_thirteen]
  refine hall c.days ?_ month (by omega)
  unfold days
  split <;> simp

theorem secondOfYear_lt {c : Calendar} (hc : c.Valid) : c.secondOfYear < c.yearLength := by
  obtain ⟨-, hmonth, hdate, hhours, hminutes, hseconds⟩ := hc
  have hnext := monthsSeconds_succ c.days hmonth.1
  have hle := c.monthsSeconds_le (show c.Month + 1 ≤ 13 by omega)
  have hdays : (c.Date - 1) * 86400 + 86400 ≤ c.days.getD (c.Month - 1) 0 * 86400 := by omega
  simp only [secondOfYear, SecondsInMinute, SecondsInHour, SecondsInDay] at hnext ⊢
  omega

theorem valid_initial : initial.Valid :=
  ⟨by decide, by decide, by decide, by decide, by decide, by decide⟩

end Calendar

end loranode.rtc
