import LoRaNode.Rtc.Calendar
import Mathlib.Logic.Function.Iterate

namespace loranode.rtc

def HoursInDay : Nat := 24

def RTC_ALARM_MAX_NUMBER_OF_DAYS : Nat := 28

/-- One of the loops that carry: while `unit` can be taken from the value, a `uint16_t` counts. -/
def carry (unit value count : Nat) : Nat × Nat :=
  if 0 < unit ∧ unit ≤ value then carry unit (value - unit) ((count + 1) % 2 ^ 16)
  else (value, count)
termination_by value

/-- The second half of `RtcComputeTimerTimeToAlarmTick`, which adds calendar seconds to `now`. The
fields of the alarm are bytes, and the month and the year of it are not used. -/
def addTicks (Century : UInt16) (now : Calendar) (timeoutValue : Nat) : Calendar :=
  let (timeoutValue, days) := carry SecondsInDay timeoutValue now.Date
  let (timeoutValue, hours) := carry SecondsInHour timeoutValue now.Hours
  let (timeoutValue, minutes) := carry SecondsInMinute timeoutValue now.Minutes
  let seconds := (now.Seconds + timeoutValue) % 2 ^ 16
  let (seconds, minutes) := carry 60 seconds minutes
  let (minutes, hours) := carry 60 minutes hours
  let (hours, days) := carry HoursInDay hours days
  let days := if now.Year = 0 ∨ (now.Year + Century.toNat) % 4 = 0 then
      if days > DaysInMonthLeapYear.getD (now.Month - 1) 0 then
        days % DaysInMonthLeapYear.getD (now.Month - 1) 0
      else days
    else
      if days > DaysInMonth.getD (now.Month - 1) 0 then days % DaysInMonth.getD (now.Month - 1) 0
      else days
  { now with
    Seconds := seconds % 256, Minutes := minutes % 256, Hours := hours % 256, Date := days % 256 }

/-- The most milliseconds that a timeout can have. -/
def maxTimeCounter : Nat := RTC_ALARM_MAX_NUMBER_OF_DAYS * SecondsInDay * 125 / 256

/-- The milliseconds that are counted with. -/
def limited (timeCounter : UInt32) : Nat :=
  if min timeCounter.toNat maxTimeCounter < 1 then 1 else min timeCounter.toNat maxTimeCounter

/-- A `double` has 53 binary digits. What is longer is rounded to the nearest number that has not
more, and half way between two of them to the one with the even last digit. -/
def roundDigits (n : Nat) : Nat :=
  let unit := 2 ^ (n.log2 - 52)
  let digits := n / unit
  let rest := 2 * (n % unit)
  (if unit < rest ∨ rest = unit ∧ digits % 2 = 1 then digits + 1 else digits) * unit

/-- A result as a `double` holds it. The numbers here are in units of `2 ^ -51`. -/
def double (n : Int) : Int :=
  if n < 0 then -(roundDigits n.natAbs : Int) else roundDigits n.natAbs

/-- The `double` that 2.048 is read as. -/
def RTC_ALARM_TICK_PER_MS : Nat := 4611686018427388

/-- The first half, from milliseconds to calendar seconds, with the error in microseconds that has
gathered and that is truncated to an integer each time. -/
def alarmTicks (TimeoutValueError : Int) (timeCounter : UInt32) : Nat × Int :=
  let timeoutValueTemp := roundDigits (limited timeCounter * RTC_ALARM_TICK_PER_MS)
  let timeoutValue := (2 * timeoutValueTemp + 2251799813685248) / 4503599627370496
  let error := double (2251799813685248 * timeoutValue - timeoutValueTemp)
  let sum := double (2251799813685248 * TimeoutValueError + double (1000 * error))
  let TimeoutValueError := sum.tdiv 2251799813685248
  if TimeoutValueError ≥ 488 then (timeoutValue + 1, TimeoutValueError - 488)
  else (timeoutValue, TimeoutValueError)

def RtcComputeTimerTimeToAlarmTick (Century : UInt16) (TimeoutValueError : Int)
    (timeCounter : UInt32) (now : Calendar) : Calendar × Int :=
  let (timeoutValue, TimeoutValueError) := alarmTicks TimeoutValueError timeCounter
  (addTicks Century now timeoutValue, TimeoutValueError)

theorem roundDigits_near {n : Nat} (hn : n < 2 ^ 74) :
    n ≤ roundDigits n + 2097152 ∧ roundDigits n ≤ n + 2097152 := by
  have hlog : n.log2 - 52 ≤ 21 := by
    by_cases hzero : n = 0
    · subst hzero
      decide
    · have := (Nat.log2_lt hzero).mpr hn
      omega
  have hunit : 2 ^ (n.log2 - 52) ≤ 2097152 := Nat.pow_le_pow_right (by decide) hlog
  have hpos : 0 < 2 ^ (n.log2 - 52) := Nat.two_pow_pos _
  unfold roundDigits
  dsimp only
  generalize 2 ^ (n.log2 - 52) = unit at hunit hpos
  have hsum := Nat.div_add_mod' n unit
  have hrest := Nat.mod_lt n hpos
  split
  · rw [Nat.add_one_mul]
    omega
  · omega

theorem alarmTicks_bounds (error : Int) (timeCounter : UInt32) :
    1 ≤ (alarmTicks error timeCounter).1 ∧
      (alarmTicks error timeCounter).1 ≤ RTC_ALARM_MAX_NUMBER_OF_DAYS * SecondsInDay + 1 := by
  have hlimited : 1 ≤ limited timeCounter ∧ limited timeCounter ≤ 1181250 := by
    have hmax : maxTimeCounter = 1181250 := rfl
    unfold limited
    split <;> omega
  have hmax : RTC_ALARM_MAX_NUMBER_OF_DAYS * SecondsInDay = 2419200 := rfl
  have hnear := roundDigits_near (n := limited timeCounter * RTC_ALARM_TICK_PER_MS)
    (by unfold RTC_ALARM_TICK_PER_MS; omega)
  unfold alarmTicks
  unfold RTC_ALARM_TICK_PER_MS at hnear ⊢
  dsimp only
  split <;> dsimp only <;> omega

/-- The error of 94 ms is 0.488, and as a `double` below that. -/
example : alarmTicks 0 94 = (193, 487) := by decide

/-- A loop that carries divides, as long as its counter does not overflow. -/
theorem carry_eq {unit value count : Nat} (hunit : 0 < unit)
    (hcount : count + value / unit < 2 ^ 16) :
    carry unit value count = (value % unit, count + value / unit) := by
  induction value using Nat.strong_induction_on generalizing count with
  | _ value ih =>
    unfold carry
    split
    · next h =>
      have hdiv : value / unit = (value - unit) / unit + 1 := Nat.div_eq_sub_div hunit h.2
      have hnext : count + 1 + (value - unit) / unit < 2 ^ 16 := by omega
      rw [Nat.mod_eq_of_lt (Nat.lt_of_le_of_lt (Nat.le_add_right _ _) hnext),
        ih _ (by omega) hnext, ← Nat.mod_eq_sub_mod h.2, hdiv, Nat.add_right_comm, Nat.add_assoc]
    · next h =>
      have hlt : value < unit := by omega
      rw [Nat.mod_eq_of_lt hlt, Nat.div_eq_of_lt hlt, Nat.add_zero]

namespace Calendar

/-- The seconds of the day that have gone. -/
def secondOfDay (c : Calendar) : Nat :=
  c.Hours * SecondsInHour + c.Minutes * SecondsInMinute + c.Seconds

/-- The seconds of the month that have gone. -/
def secondOfMonth (c : Calendar) : Nat := (c.Date - 1) * SecondsInDay + c.secondOfDay

/-- The days of the month. -/
def monthLength (c : Calendar) : Nat := c.days.getD (c.Month - 1) 0

/-- The start of the next month. -/
def nextMonth (c : Calendar) : Calendar :=
  if c.Month < 12 then ⟨c.Year, c.Month + 1, 1, 0, 0, 0⟩ else ⟨(c.Year + 1) % 100, 1, 1, 0, 0, 0⟩

theorem Valid.secondOfDay_lt {c : Calendar} (hc : c.Valid) : c.secondOfDay < SecondsInDay := by
  have hhours := hc.hours
  have hminutes := hc.minutes
  have hseconds := hc.seconds
  simp only [secondOfDay, SecondsInHour, SecondsInMinute, SecondsInDay]
  omega

/-- A tick adds a second to the month, or begins the next one. -/
theorem tick_month {c : Calendar} (hc : c.Valid) :
    c.secondOfMonth + 1 < c.monthLength * SecondsInDay ∧
        c.tick.secondOfMonth = c.secondOfMonth + 1 ∧ c.tick.Year = c.Year ∧
          c.tick.Month = c.Month ∨
      c.secondOfMonth + 1 = c.monthLength * SecondsInDay ∧ c.tick = c.nextMonth := by
  obtain ⟨-, -, hdate, hhours, hminutes, hseconds⟩ := hc
  change 1 ≤ c.Date ∧ c.Date ≤ c.monthLength at hdate
  simp only [secondOfMonth, secondOfDay, SecondsInDay, SecondsInHour, SecondsInMinute]
  unfold tick
  split
  · exact .inl ⟨by omega, by simp only; omega, rfl, rfl⟩
  split
  · exact .inl ⟨by omega, by simp only; omega, rfl, rfl⟩
  split
  · exact .inl ⟨by omega, by simp only; omega, rfl, rfl⟩
  split
  · next h =>
    change c.Date < c.monthLength at h
    exact .inl ⟨by omega, by simp only; omega, rfl, rfl⟩
  -- the last second of a month
  next h =>
    change ¬c.Date < c.monthLength at h
    refine .inr ⟨by omega, ?_⟩
    unfold nextMonth
    split
    · rfl
    · rfl

theorem Valid.tick {c : Calendar} (hc : c.Valid) : c.tick.Valid := (tick_cases hc).1

theorem Valid.iterate {c : Calendar} (hc : c.Valid) (n : Nat) : (Calendar.tick^[n] c).Valid := by
  induction n with
  | zero => exact hc
  | succ n ih =>
    rw [Function.iterate_succ_apply']
    exact ih.tick

/-- The rest of a month. -/
theorem iterate_month {c : Calendar} (hc : c.Valid) {n : Nat}
    (hn : c.secondOfMonth + n < c.monthLength * SecondsInDay) :
    (Calendar.tick^[n] c).secondOfMonth = c.secondOfMonth + n ∧
      (Calendar.tick^[n] c).monthLength = c.monthLength ∧
      (Calendar.tick^[n] c).nextMonth = c.nextMonth := by
  induction n with
  | zero => simp
  | succ n ih =>
    obtain ⟨hsecond, hlength, hnext⟩ := ih (by omega)
    rw [Function.iterate_succ_apply']
    obtain ⟨-, htick, hyear, hmonth⟩ | ⟨hend, -⟩ := tick_month (hc.iterate n)
    · refine ⟨by omega, ?_, ?_⟩
      · rw [← hlength]
        simp only [monthLength, days, hyear, hmonth]
      · rw [← hnext]
        simp only [nextMonth, hyear, hmonth]
    · rw [hlength] at hend
      omega

/-- From a month into the next one. -/
theorem iterate_nextMonth {c : Calendar} (hc : c.Valid) {n k : Nat}
    (hn : c.secondOfMonth + n = c.monthLength * SecondsInDay + k)
    (hin : c.secondOfMonth < c.monthLength * SecondsInDay) :
    Calendar.tick^[n] c = Calendar.tick^[k] c.nextMonth := by
  obtain ⟨m, hm⟩ : ∃ m, c.secondOfMonth + (m + 1) = c.monthLength * SecondsInDay :=
    ⟨c.monthLength * SecondsInDay - c.secondOfMonth - 1, by omega⟩
  obtain ⟨hsecond, hlength, hnext⟩ := iterate_month hc (n := m) (by omega)
  have hlast : Calendar.tick^[m + 1] c = c.nextMonth := by
    rw [Function.iterate_succ_apply']
    obtain ⟨hlt, -⟩ | ⟨-, htick⟩ := tick_month (hc.iterate m)
    · rw [hlength] at hlt
      omega
    · rw [htick, hnext]
  rw [show n = k + (m + 1) by omega, Function.iterate_add_apply, hlast]

theorem Valid.secondOfMonth_lt {c : Calendar} (hc : c.Valid) :
    c.secondOfMonth < c.monthLength * SecondsInDay := by
  have hday := hc.secondOfDay_lt
  have hdate : 1 ≤ c.Date ∧ c.Date ≤ c.monthLength := hc.date
  simp only [secondOfMonth, SecondsInDay] at hday ⊢
  omega

/-- The second of the month tells the date and the time. -/
theorem Valid.date_time {c : Calendar} (hc : c.Valid) :
    c.Date = c.secondOfMonth / 86400 + 1 ∧ c.Hours = c.secondOfMonth / 3600 % 24 ∧
      c.Minutes = c.secondOfMonth / 60 % 60 ∧ c.Seconds = c.secondOfMonth % 60 := by
  obtain ⟨-, -, hdate, hhours, hminutes, hseconds⟩ := hc
  simp only [secondOfMonth, secondOfDay, SecondsInDay, SecondsInHour, SecondsInMinute]
  refine ⟨?_, ?_, ?_, ?_⟩ <;> omega

theorem Valid.nextMonth {c : Calendar} (hc : c.Valid) : c.nextMonth.Valid := by
  have hin := hc.secondOfMonth_lt
  have hnext := iterate_nextMonth hc (n := c.monthLength * SecondsInDay - c.secondOfMonth) (k := 0)
    (by omega) hin
  change _ = c.nextMonth at hnext
  rw [← hnext]
  exact hc.iterate _

theorem secondOfMonth_nextMonth (c : Calendar) : c.nextMonth.secondOfMonth = 0 := by
  unfold Calendar.nextMonth
  split
  · simp [secondOfMonth, secondOfDay]
  · simp [secondOfMonth, secondOfDay]

/-- The months have 28 to 31 days, and only January, which has 31, comes before 28 days. -/
theorem Valid.monthLength_bounds {c : Calendar} (hc : c.Valid) :
    (28 ≤ c.monthLength ∧ c.monthLength ≤ 31) ∧
      (28 ≤ c.nextMonth.monthLength ∧ c.nextMonth.monthLength ≤ 31) ∧
      (c.nextMonth.monthLength = 28 → c.monthLength = 31) := by
  have hmonth := hc.month
  have hdays : c.days ∈ [DaysInMonthLeapYear, DaysInMonth] := by
    unfold days
    split <;> simp
  unfold Calendar.nextMonth
  split
  · next hnext =>
    have hall : ∀ days ∈ [DaysInMonthLeapYear, DaysInMonth], ∀ i < 11,
        (28 ≤ days.getD i 0 ∧ days.getD i 0 ≤ 31) ∧
        (28 ≤ days.getD (i + 1) 0 ∧ days.getD (i + 1) 0 ≤ 31) ∧
        (days.getD (i + 1) 0 = 28 → days.getD i 0 = 31) := by decide
    have hsucc : c.Month + 1 - 1 = c.Month - 1 + 1 := by omega
    unfold monthLength
    dsimp only
    rw [hsucc]
    exact hall c.days hdays (c.Month - 1) (by omega)
  · next hlast =>
    have hall : ∀ days ∈ [DaysInMonthLeapYear, DaysInMonth],
        days.getD 11 0 = 31 ∧ days.getD 0 0 = 31 := by decide
    have hdecember : c.monthLength = 31 := by
      unfold monthLength
      rw [show c.Month - 1 = 11 by omega]
      exact (hall c.days hdays).1
    have hjanuary (year : Nat) : monthLength ⟨year, 1, 1, 0, 0, 0⟩ = 31 := by
      unfold monthLength days
      split <;> rfl
    rw [hdecember, hjanuary]
    decide

/-- How many days of whole months lie before the date that comes `n` seconds later. -/
theorem iterate_past {c : Calendar} (hc : c.Valid) {n : Nat} (hn : n ≤ 28 * 86400 + 1) :
    ∃ past, (Calendar.tick^[n] c).secondOfMonth + past * 86400 = c.secondOfMonth + n ∧
      (past = 0 ∧ (Calendar.tick^[n] c).secondOfMonth < c.monthLength * 86400 ∨
        past = c.monthLength ∧
          (Calendar.tick^[n] c).secondOfMonth < c.nextMonth.monthLength * 86400 ∨
        past = c.monthLength + c.nextMonth.monthLength ∧ c.nextMonth.monthLength = 28) := by
  have hin := hc.secondOfMonth_lt
  have hfirst := secondOfMonth_nextMonth c
  have hsecond := secondOfMonth_nextMonth c.nextMonth
  obtain ⟨⟨hlow, hhigh⟩, ⟨hlow', hhigh'⟩, -⟩ := hc.monthLength_bounds
  obtain ⟨⟨hlow'', -⟩, -⟩ := hc.nextMonth.nextMonth.monthLength_bounds
  have hday : SecondsInDay = 86400 := rfl
  have hin' : c.secondOfMonth < c.monthLength * 86400 := by
    rw [← hday]
    exact hin
  by_cases hsame : c.secondOfMonth + n < c.monthLength * 86400
  · obtain ⟨hmonth, -⟩ := iterate_month hc (n := n) (by rw [hday]; exact hsame)
    exact ⟨0, by rw [Nat.zero_mul, Nat.add_zero, hmonth], .inl ⟨rfl, hmonth.trans_lt hsame⟩⟩
  obtain ⟨k, hk⟩ := Nat.exists_eq_add_of_le (Nat.not_lt.mp hsame)
  rw [iterate_nextMonth hc (k := k) (by rw [hday]; exact hk) hin]
  by_cases hnext : k < c.nextMonth.monthLength * 86400
  · obtain ⟨hmonth, -⟩ := iterate_month hc.nextMonth (n := k) (by rw [hday]; omega)
    exact ⟨c.monthLength, by omega, .inr (.inl ⟨rfl, by omega⟩)⟩
  obtain ⟨l, hl⟩ := Nat.exists_eq_add_of_le (Nat.not_lt.mp hnext)
  have hnextIn := hc.nextMonth.secondOfMonth_lt
  rw [iterate_nextMonth hc.nextMonth (k := l) (by rw [hday]; omega) hnextIn]
  obtain ⟨hmonth, -⟩ := iterate_month hc.nextMonth.nextMonth (n := l)
    (by rw [hday]; omega)
  exact ⟨_, by omega, .inr (.inr ⟨rfl, by omega⟩)⟩

end Calendar

/-- The table that the code looks into is the one of the year. -/
theorem daysInMonth_eq {Century : UInt16} (hcentury : Century.toNat % 4 = 0) (now : Calendar)
    (days : Nat) :
    (if now.Year = 0 ∨ (now.Year + Century.toNat) % 4 = 0 then
      if days > DaysInMonthLeapYear.getD (now.Month - 1) 0 then
        days % DaysInMonthLeapYear.getD (now.Month - 1) 0
      else days
    else
      if days > DaysInMonth.getD (now.Month - 1) 0 then days % DaysInMonth.getD (now.Month - 1) 0
      else days) =
    if days > now.monthLength then days % now.monthLength else days := by
  have hleap : (now.Year = 0 ∨ (now.Year + Century.toNat) % 4 = 0) ↔ now.Year % 4 = 0 := by omega
  unfold Calendar.monthLength Calendar.days
  simp only [hleap]
  split
  · rfl
  · rfl

/-- The sums that the loops make. -/
theorem addTicks_eq {Century : UInt16} {now : Calendar} (hnow : now.Valid)
    (hcentury : Century.toNat % 4 = 0) {n : Nat} (hn : n ≤ 28 * 86400 + 1) :
    addTicks Century now n = { now with
      Seconds := (now.secondOfDay + n) % 60
      Minutes := (now.secondOfDay + n) / 60 % 60
      Hours := (now.secondOfDay + n) / 3600 % 24
      Date := if now.Date + (now.secondOfDay + n) / 86400 > now.monthLength then
          (now.Date + (now.secondOfDay + n) / 86400) % now.monthLength
        else now.Date + (now.secondOfDay + n) / 86400 } := by
  obtain ⟨hfirst, hlength⟩ : 28 ≤ now.monthLength ∧ now.monthLength ≤ 31 :=
    hnow.monthLength_bounds.1
  obtain ⟨-, -, ⟨-, hdate⟩, hhours, hminutes, hseconds⟩ := hnow
  change now.Date ≤ now.monthLength at hdate
  simp (disch := omega) only [addTicks, carry_eq, SecondsInDay, SecondsInHour, SecondsInMinute,
    HoursInDay]
  rw [daysInMonth_eq hcentury]
  simp only [Calendar.mk.injEq, true_and, Calendar.secondOfDay, SecondsInHour, SecondsInMinute]
  refine ⟨?_, by omega, by omega, by omega⟩
  have hdays : now.Date + n / 86400 +
      (now.Hours + n % 86400 / 3600 + (now.Minutes + n % 86400 % 3600 / 60 +
        (now.Seconds + n % 86400 % 3600 % 60) % 2 ^ 16 / 60) / 60) / 24 =
      now.Date + (now.Hours * 3600 + now.Minutes * 60 + now.Seconds + n) / 86400 := by omega
  rw [hdays]
  refine Nat.mod_eq_of_lt ?_
  split
  · have hlt := Nat.mod_lt (now.Date + (now.Hours * 3600 + now.Minutes * 60 + now.Seconds + n) /
      86400) (show 0 < now.monthLength by omega)
    omega
  · omega

/-- Whole days do not change the time. -/
theorem time_congr {a b : Nat} (h : a % 86400 = b % 86400) :
    a / 3600 % 24 = b / 3600 % 24 ∧ a / 60 % 60 = b / 60 % 60 ∧ a % 60 = b % 60 := by
  refine ⟨?_, ?_, ?_⟩ <;> omega

/-- The alarm goes off at a time: at its hour, minute and second, on its day of the month. -/
structure RightAlarm (alarm time : Calendar) : Prop where
  hours : alarm.Hours < 24 ∧ alarm.Hours = time.Hours
  minutes : alarm.Minutes < 60 ∧ alarm.Minutes = time.Minutes
  seconds : alarm.Seconds < 60 ∧ alarm.Seconds = time.Seconds
  date : alarm.Date = time.Date

/-- The alarm is right exactly if the remainder is a subtraction: the day, counted on from the start
of this month, lies below twice the length of it, and not behind the next month. The code takes the
day modulo the length of the month, and so sets the day 0 where it meets a multiple. -/
theorem rightAlarm_iff {Century : UInt16} {now : Calendar} {n : Nat} (hnow : now.Valid)
    (hcentury : Century.toNat % 4 = 0) (hmax : n ≤ 28 * 86400 + 1) :
    RightAlarm (addTicks Century now n) (Calendar.tick^[n] now) ↔
      now.Date + (now.secondOfDay + n) / 86400 ≤
        now.monthLength + min (now.monthLength - 1) now.nextMonth.monthLength := by
  obtain ⟨hone, hdate⟩ : 1 ≤ now.Date ∧ now.Date ≤ now.monthLength := hnow.date
  have hday := hnow.secondOfDay_lt
  obtain ⟨⟨hlow, hhigh⟩, ⟨hlow', hhigh'⟩, hjanuary⟩ := hnow.monthLength_bounds
  obtain ⟨hDate, hHours, hMinutes, hSeconds⟩ := (hnow.iterate n).date_time
  obtain ⟨past, hsecond, hpast⟩ := Calendar.iterate_past hnow hmax
  have hstart : now.secondOfMonth = (now.Date - 1) * 86400 + now.secondOfDay := by
    simp only [Calendar.secondOfMonth, SecondsInDay]
  unfold SecondsInDay at hday
  have hsum : (Calendar.tick^[n] now).Date + past = now.Date + (now.secondOfDay + n) / 86400 := by
    omega
  -- the time is always right, and the date is left
  have htime : RightAlarm (addTicks Century now n) (Calendar.tick^[n] now) ↔
      (addTicks Century now n).Date = (Calendar.tick^[n] now).Date := by
    obtain ⟨hhours, hminutes, hseconds⟩ := time_congr (a := now.secondOfDay + n)
      (b := (Calendar.tick^[n] now).secondOfMonth) (by omega)
    refine ⟨RightAlarm.date, fun hright => ?_⟩
    rw [addTicks_eq hnow hcentury hmax] at hright ⊢
    exact ⟨⟨Nat.mod_lt _ (by decide), hhours.trans hHours.symm⟩,
      ⟨Nat.mod_lt _ (by decide), hminutes.trans hMinutes.symm⟩,
      ⟨Nat.mod_lt _ (by decide), hseconds.trans hSeconds.symm⟩, hright⟩
  rw [htime, addTicks_eq hnow hcentury hmax]
  dsimp only
  rw [← hsum]
  obtain ⟨rfl, hin⟩ | ⟨rfl, hin⟩ | ⟨rfl, hfebruary⟩ := hpast
  · have hle : (Calendar.tick^[n] now).Date ≤ now.monthLength := by omega
    rw [Nat.add_zero, if_neg (Nat.not_lt.mpr hle)]
    exact iff_of_true rfl (by omega)
  · rw [if_pos (by omega), Nat.add_mod_right]
    by_cases hbelow : (Calendar.tick^[n] now).Date < now.monthLength
    · exact iff_of_true (Nat.mod_eq_of_lt hbelow) (by omega)
    · have hlt := Nat.mod_lt (Calendar.tick^[n] now).Date (show 0 < now.monthLength by omega)
      exact iff_of_false (by omega) (by omega)
  · have hlength := hjanuary hfebruary
    have hmarch : (Calendar.tick^[n] now).Date = 1 := by omega
    rw [hmarch, hlength, hfebruary]
    decide

/-- From the last day of January, for the longest timeout, into the last day of February. -/
theorem rightAlarm_iff_january : Calendar.Valid ⟨1, 1, 31, 12, 0, 0⟩ ∧
    RightAlarm (addTicks 0 ⟨1, 1, 31, 12, 0, 0⟩ (28 * 86400))
      (Calendar.tick^[28 * 86400] ⟨1, 1, 31, 12, 0, 0⟩) := by
  have hvalid : Calendar.Valid ⟨1, 1, 31, 12, 0, 0⟩ :=
    ⟨by decide, by decide, by decide, by decide, by decide, by decide⟩
  exact ⟨hvalid, (rightAlarm_iff hvalid rfl (by decide)).mpr (by decide)⟩

/-- On the 28th of February of a year of 365 days, with the longest timeout: the alarm is set for
the day 0, where the timeout ends on the 28th of March. -/
theorem not_rightAlarm_february : (alarmTicks 0 1181250).1 = 28 * 86400 ∧
    ¬RightAlarm (RtcComputeTimerTimeToAlarmTick 0 0 1181250 ⟨1, 2, 28, 0, 0, 0⟩).1
      (Calendar.tick^[28 * 86400] ⟨1, 2, 28, 0, 0, 0⟩) := by
  have hvalid : Calendar.Valid ⟨1, 2, 28, 0, 0, 0⟩ :=
    ⟨by decide, by decide, by decide, by decide, by decide, by decide⟩
  have hticks : (alarmTicks 0 1181250).1 = 28 * 86400 := by decide
  refine ⟨hticks, fun hright => ?_⟩
  have hdate := hright.date
  have hzero : (addTicks 0 ⟨1, 2, 28, 0, 0, 0⟩ (28 * 86400)).Date = 0 := by
    rw [addTicks_eq hvalid rfl (by decide)]
    decide
  change (addTicks 0 _ (alarmTicks 0 1181250).1).Date = _ at hdate
  rw [hticks, hzero] at hdate
  have hone := (hvalid.iterate (28 * 86400)).date.1
  omega

end loranode.rtc
