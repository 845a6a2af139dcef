import Mathlib.Algebra.Group.Int.Defs
import LoRaNode.Lib.Transition
import LoRaNode.Rtc.Calendar

namespace loranode.rtc

structure RtcCalendar_t extends Calendar where
  CalendarCentury : UInt16

/-- The calendar of the hardware and the variables that continue it. Kept for the proofs only are
`ticks` and `years`, the calendar seconds and the calendar years since the start, and `seen`, which
tells whether the calendar has been read in this year. -/
structure Rtc where
  calendar : Calendar
  Century : UInt16
  CallendarRollOverReady : Bool
  ticks : Nat
  years : Nat
  seen : Bool

def Rtc.initial : Rtc := ⟨.initial, 0, false, 0, 0, false⟩

def RtcCheckCalendarRollOver (s : Rtc) (year : Nat) : Rtc :=
  let s := if year = 99 then { s with CallendarRollOverReady := true } else s
  if s.CallendarRollOverReady = true ∧ year + s.Century.toNat = s.Century.toNat then
    { s with CallendarRollOverReady := false, Century := s.Century + 100 }
  else s

/-- `RtcGetCalendar` takes the century before the check for a roll-over changes it. -/
def RtcGetCalendar (s : Rtc) : RtcCalendar_t × Rtc :=
  (⟨s.calendar, s.Century⟩,
    { RtcCheckCalendarRollOver s s.calendar.Year with seen := true })

/-- The sum that `RtcConvertCalendarTickToTimerTime` makes. -/
def calendarSeconds (now : RtcCalendar_t) : Nat :=
  yearsSeconds (now.Year + now.CalendarCentury.toNat) +
    monthsSeconds
      (if now.Year = 0 ∨ (now.Year + now.CalendarCentury.toNat) % 4 = 0 then DaysInMonthLeapYear
        else DaysInMonth) now.Month +
    (now.Seconds + now.Minutes * SecondsInMinute + now.Hours * SecondsInHour +
      now.Date * SecondsInDay)

/-- `round` of the seconds times `RTC_ALARM_TICK_DURATION`, which is 125/256. -/
def roundToMs (seconds : Nat) : Nat := (125 * seconds + 128) / 256

/-- The conversion of a `double` to `uint32_t`. It is undefined for a value that is no `uint32_t`,
so that anything can come out. -/
def toTimerTime (undefined : UInt32) (ms : Nat) : UInt32 :=
  if ms < 2 ^ 32 then UInt32.ofNat ms else undefined

/-- `RtcConvertCalendarTickToTimerTime`. The index of the loop over the years is an `int16_t`: with
more than 32767 years the loop does not end. -/
def RtcConvertCalendarTickToTimerTime (undefined : UInt32) (now : RtcCalendar_t) : Option UInt32 :=
  if now.Year + now.CalendarCentury.toNat ≤ 32767 then
    some (toTimerTime undefined (roundToMs (calendarSeconds now)))
  else none

def RtcGetTimerValue (undefined : UInt32) (s : Rtc) : Option (UInt32 × Rtc) :=
  let (now, s) := RtcGetCalendar s
  (RtcConvertCalendarTickToTimerTime undefined now).map (·, s)

/-- The difference of two times, where the clock may have started again between them. -/
def elapsedSince (currentTime eventInTime : UInt32) : UInt32 :=
  if currentTime < eventInTime then currentTime + (0xFFFFFFFF - eventInTime)
  else currentTime - eventInTime

def RtcComputeElapsedTime (undefined : UInt32) (s : Rtc) (eventInTime : UInt32) :
    Option (UInt32 × Rtc) :=
  if eventInTime = 0 then some (0, s)
  else (RtcGetTimerValue undefined s).map fun (currentTime, s) =>
    (elapsedSince currentTime eventInTime, s)

/-- A calendar second goes by, or somebody reads the calendar. -/
inductive Event where
  | tick
  | RtcGetCalendar
  deriving DecidableEq, Repr

def step (s : Rtc) : Event → Rtc
  | .tick => { s with
      calendar := s.calendar.tick
      ticks := s.ticks + 1
      years := if s.calendar.tick.Year = s.calendar.Year then s.years else s.years + 1
      seen := s.seen && s.calendar.tick.Year = s.calendar.Year }
  | .RtcGetCalendar => (RtcGetCalendar s).2

def run (s : Rtc) (events : List Event) : Rtc := events.foldl step s

/-- The calendar is right, up to the roll-overs of its year, and the century is one of leap
years. -/
structure Rtc.Sound (s : Rtc) : Prop where
  valid : s.calendar.Valid
  ticks : s.ticks = yearsSeconds s.years + s.calendar.secondOfYear
  years : s.years % 100 = s.calendar.Year
  century : s.Century.toNat % 4 = 0

theorem sound_initial : Rtc.initial.Sound :=
  ⟨Calendar.valid_initial, rfl, rfl, rfl⟩

theorem RtcCheckCalendarRollOver_cases (s : Rtc) (year : Nat) :
    ¬ (year = 0 ∧ s.CallendarRollOverReady = true) ∧
        RtcCheckCalendarRollOver s year =
          { s with CallendarRollOverReady := s.CallendarRollOverReady || year = 99 } ∨
      (year = 0 ∧ s.CallendarRollOverReady = true) ∧
        RtcCheckCalendarRollOver s year =
          { s with CallendarRollOverReady := false, Century := s.Century + 100 } := by
  unfold RtcCheckCalendarRollOver
  dsimp only
  split
  · next hyear =>
    rw [if_neg (by simp [hyear])]
    exact .inl ⟨by simp [hyear], by simp [hyear]⟩
  · next hyear =>
    split
    · next h => exact .inr ⟨⟨by omega, h.1⟩, rfl⟩
    · next h =>
      refine .inl ⟨fun hroll => h ⟨hroll.2, by omega⟩, ?_⟩
      simp [hyear]

theorem Rtc.Sound.read {s : Rtc} (h : s.Sound) : (RtcGetCalendar s).2.Sound := by
  unfold RtcGetCalendar
  obtain ⟨-, heq⟩ | ⟨-, heq⟩ := RtcCheckCalendarRollOver_cases s s.calendar.Year
  · rw [heq]
    exact ⟨h.valid, h.ticks, h.years, h.century⟩
  · rw [heq]
    refine ⟨h.valid, h.ticks, h.years, ?_⟩
    have := h.century
    rw [UInt16.toNat_add, show (100 : UInt16).toNat = 100 from rfl]
    omega

theorem Rtc.Sound.tick {s : Rtc} (h : s.Sound) : (step s .tick).Sound := by
  obtain ⟨hvalid, ⟨hyear, hsecond⟩ | ⟨hlast, hnew⟩⟩ := Calendar.tick_cases h.valid
  · refine ⟨hvalid, ?_, ?_, h.century⟩
    · change s.ticks + 1 = yearsSeconds (if _ then _ else _) + s.calendar.tick.secondOfYear
      rw [if_pos hyear, hsecond, h.ticks, Nat.add_assoc]
    · change (if _ then _ else _) % 100 = s.calendar.tick.Year
      rw [if_pos hyear, hyear, h.years]
  · have hyears := h.years
    have hbound := h.valid.year
    have hyear : s.calendar.tick.Year = (s.calendar.Year + 1) % 100 := by rw [hnew]
    have hchanged : ¬ s.calendar.tick.Year = s.calendar.Year := by omega
    refine ⟨hvalid, ?_, ?_, h.century⟩
    · change s.ticks + 1 = yearsSeconds (if _ then _ else _) + s.calendar.tick.secondOfYear
      have hleap : s.years % 4 = 0 ↔ s.calendar.Year % 4 = 0 := by omega
      rw [if_neg hchanged, yearsSeconds_succ, h.ticks, Nat.add_assoc, hlast, hnew,
        Calendar.secondOfYear_newYear, Nat.add_zero, Calendar.yearLength]
      simp only [hleap]
    · change (if _ then _ else _) % 100 = s.calendar.tick.Year
      rw [if_neg hchanged, hyear]
      omega

theorem Rtc.Sound.run {s : Rtc} (h : s.Sound) (events : List Event) : (run s events).Sound := by
  unfold rtc.run
  induction events generalizing s with
  | nil => exact h
  | cons e events ih =>
    cases e with
    | tick => exact ih h.tick
    | RtcGetCalendar => exact ih h.read

/-- How many calendar years the software is behind. -/
def Rtc.lag (s : Rtc) : Int := s.years - (s.calendar.Year + s.Century.toNat)

/-- The calendar with its century, as a reading takes them. -/
def Rtc.now (s : Rtc) : RtcCalendar_t := ⟨s.calendar, s.Century⟩

/-- The milliseconds that the software counts. -/
def Rtc.ms (s : Rtc) : Nat := roundToMs (calendarSeconds s.now)

/-- The seconds that the software counts: those since the start of the day before, less the years
that it is behind, which are 365.25 days long on the average. -/
theorem calendarSeconds_now {s : Rtc} (h : s.Sound) :
    (calendarSeconds s.now : Int) = s.ticks + 86400 - 31557600 * s.lag ∧ s.lag % 4 = 0 := by
  obtain ⟨hvalid, hticks, hyears, hcentury⟩ := h
  have hyear := hvalid.year
  have hdate := hvalid.date.1
  have hleap : (s.now.Year = 0 ∨ (s.now.Year + s.now.CalendarCentury.toNat) % 4 = 0) ↔
      s.calendar.Year % 4 = 0 := by
    change (s.calendar.Year = 0 ∨ (s.calendar.Year + s.Century.toNat) % 4 = 0) ↔ _
    omega
  have hseconds : calendarSeconds s.now =
      yearsSeconds (s.calendar.Year + s.Century.toNat) + s.calendar.secondOfYear + 86400 := by
    simp only [calendarSeconds, hleap]
    simp only [Rtc.now, Calendar.secondOfYear, Calendar.days, SecondsInDay, SecondsInHour,
      SecondsInMinute]
    omega
  rw [yearsSeconds_eq] at hticks hseconds
  unfold Rtc.lag
  omega

theorem toNat_elapsedSince (currentTime eventInTime : UInt32) :
    (elapsedSince currentTime eventInTime).toNat =
      if currentTime.toNat < eventInTime.toNat then
        currentTime.toNat + (4294967295 - eventInTime.toNat)
      else currentTime.toNat - eventInTime.toNat := by
  have hcurrent := currentTime.toNat_lt
  have hevent := eventInTime.toNat_lt
  unfold elapsedSince
  by_cases hlt : currentTime < eventInTime
  · have hmax : eventInTime ≤ 0xFFFFFFFF := UInt32.le_iff_toNat_le.mpr (by
      change _ ≤ 4294967295
      omega)
    rw [if_pos hlt, if_pos (UInt32.lt_iff_toNat_lt.mp hlt), UInt32.toNat_add,
      UInt32.toNat_sub_of_le _ _ hmax, show (0xFFFFFFFF : UInt32).toNat = 4294967295 from rfl]
    have := UInt32.lt_iff_toNat_lt.mp hlt
    omega
  · have hle : eventInTime ≤ currentTime := by
      rw [UInt32.lt_iff_toNat_lt] at hlt
      exact UInt32.le_iff_toNat_le.mpr (by omega)
    rw [if_neg hlt, if_neg (by rwa [UInt32.lt_iff_toNat_lt] at hlt), UInt32.toNat_sub_of_le _ _ hle]

theorem toNat_elapsedSince_self (v : UInt32) : (elapsedSince v v).toNat = 0 := by
  rw [toNat_elapsedSince, if_neg (Nat.lt_irrefl _), Nat.sub_self]

/-- A number of milliseconds that is right for a number of ticks, to within 1 ms. -/
def Accurate (ms ticks : Nat) : Prop :=
  256 * ms ≤ 125 * ticks + 256 ∧ 125 * ticks ≤ 256 * ms + 256

/-- For a time that `RtcGetTimerValue` has returned at `s₁` and that is not 0, the elapsed time at
`s₂` is right; and the time does not go back before the 32-bit value starts again. This is
required for every outcome of the conversions that are undefined. -/
def Exact (s₁ s₂ : Rtc) : Prop :=
  ∀ undefined₁ undefined₂ v₁ t, RtcGetTimerValue undefined₁ s₁ = some (v₁, t) → v₁ ≠ 0 →
    ∃ elapsed u, RtcComputeElapsedTime undefined₂ s₂ v₁ = some (elapsed, u) ∧
      Accurate elapsed.toNat (s₂.ticks - s₁.ticks) ∧
      (roundToMs (s₂.ticks + SecondsInDay) < 2 ^ 32 →
        ∀ v₂ u, RtcGetTimerValue undefined₂ s₂ = some (v₂, u) → v₁ ≤ v₂)

/-- The loop over the years ends. -/
def Rtc.Returns (s : Rtc) : Prop := s.calendar.Year + s.Century.toNat ≤ 32767

theorem RtcGetTimerValue_eq_some {undefined v : UInt32} {s t : Rtc} :
    RtcGetTimerValue undefined s = some (v, t) ↔
      s.Returns ∧ v = toTimerTime undefined s.ms ∧
        t = (RtcGetCalendar s).2 := by
  unfold RtcGetTimerValue RtcConvertCalendarTickToTimerTime Rtc.Returns
  dsimp only [RtcGetCalendar]
  split
  · next h => simp [h, Rtc.ms, Rtc.now, eq_comm]
  · next h => simp [h]

theorem toTimerTime_of_lt {undefined : UInt32} {ms : Nat} (hms : ms < 2 ^ 32) :
    (toTimerTime undefined ms).toNat = ms := by
  rw [toTimerTime, if_pos hms]
  exact UInt32.toNat_ofNat_of_lt' hms

theorem toTimerTime_of_ge {undefined : UInt32} {ms : Nat} (hms : ¬ ms < 2 ^ 32) :
    toTimerTime undefined ms = undefined :=
  if_neg hms

/-- The times that the software counts start on the first day of a month. -/
theorem le_roundToMs {s : Rtc} (h : s.Sound) : 42187 ≤ s.ms := by
  have hdate := h.valid.date.1
  have hday : 86400 ≤ calendarSeconds s.now := by
    simp only [calendarSeconds, Rtc.now, SecondsInDay]
    omega
  unfold Rtc.ms roundToMs
  omega

/-- A time of 32 bits is reached before the loop over the years gets out of hand. -/
theorem returns_of_lt {s : Rtc} (hms : s.ms < 2 ^ 32) : s.Returns := by
  have hyears : 31536000 * (s.calendar.Year + s.Century.toNat) ≤ calendarSeconds s.now := by
    simp only [calendarSeconds, Rtc.now, yearsSeconds_eq]
    omega
  unfold Rtc.ms roundToMs at hms
  unfold Rtc.Returns
  omega

/-- No elapsed time is right for every reading of the clock. -/
theorem not_forall_accurate (v : UInt32) (ticks : Nat) :
    ¬ ∀ u, Accurate (elapsedSince u v).toNat ticks := by
  intro h
  have hbound := v.toNat_lt
  have hzero := h v
  have hother := h (if v.toNat < 4294966296 then UInt32.ofNat (v.toNat + 1000)
    else UInt32.ofNat (v.toNat - 1000))
  rw [toNat_elapsedSince_self] at hzero
  rw [toNat_elapsedSince] at hother
  split at hother
  · rw [UInt32.toNat_ofNat_of_lt' (show _ < 4294967296 by omega)] at hother
    unfold Accurate at hzero hother
    split at hother <;> omega
  · rw [UInt32.toNat_ofNat_of_lt' (show _ < 4294967296 by omega)] at hother
    unfold Accurate at hzero hother
    split at hother <;> omega

/-- No reading of the clock is right for every saved time. -/
theorem not_forall_accurate_saved {v : UInt32} (hv : 42187 ≤ v.toNat) (ticks : Nat) :
    ¬ ∀ u, u ≠ 0 → Accurate (elapsedSince v u).toNat ticks := by
  intro h
  have hbound := v.toNat_lt
  have hsaved : (UInt32.ofNat (v.toNat - 1000)).toNat = v.toNat - 1000 :=
    UInt32.toNat_ofNat_of_lt' (show _ < 4294967296 by omega)
  have hzero := h v fun heq => by
    rw [heq] at hv
    exact absurd hv (by decide)
  have hother := h (UInt32.ofNat (v.toNat - 1000)) fun heq => by
    rw [heq, show (0 : UInt32).toNat = 0 from rfl] at hsaved
    omega
  rw [toNat_elapsedSince_self] at hzero
  rw [toNat_elapsedSince, hsaved] at hother
  unfold Accurate at hzero hother
  split at hother <;> omega

/-- Two times that the software counts are as far apart as the ticks exactly if it is behind by
the same number of years at both. -/
theorem accurate_iff {s₁ s₂ : Rtc} (h₁ : s₁.Sound) (h₂ : s₂.Sound) (hle : s₁.ticks ≤ s₂.ticks)
    (undefined₁ undefined₂ : UInt32) (hms₁ : s₁.ms < 2 ^ 32)
    (hms₂ : s₂.ms < 2 ^ 32) :
    Accurate (elapsedSince (toTimerTime undefined₂ s₂.ms)
        (toTimerTime undefined₁ s₁.ms)).toNat
        (s₂.ticks - s₁.ticks) ↔ s₁.lag = s₂.lag := by
  obtain ⟨hcounted₁, hleap₁⟩ := calendarSeconds_now h₁
  obtain ⟨hcounted₂, hleap₂⟩ := calendarSeconds_now h₂
  rw [toNat_elapsedSince, toTimerTime_of_lt hms₁, toTimerTime_of_lt hms₂]
  unfold Rtc.ms at *
  generalize calendarSeconds s₁.now = c₁ at hcounted₁ hms₁ ⊢
  generalize calendarSeconds s₂.now = c₂ at hcounted₂ hms₂ ⊢
  unfold Accurate roundToMs at *
  obtain ⟨k₁, hk₁⟩ := Int.dvd_of_emod_eq_zero hleap₁
  obtain ⟨k₂, hk₂⟩ := Int.dvd_of_emod_eq_zero hleap₂
  rw [hk₁] at hcounted₁ ⊢
  rw [hk₂] at hcounted₂ ⊢
  clear hleap₁ hleap₂ hk₁ hk₂
  split
  · -- four calendar years are 61635937.5 ms, which does not divide the range of the clock
    rcases Int.lt_or_le (k₂ - k₁) 70 with hk | hk <;> omega
  · omega

/-- A conversion gives 0 only if it is undefined. -/
theorem toTimerTime_ne_zero {s : Rtc} (h : s.Sound) {u : UInt32} (hu : u ≠ 0) :
    toTimerTime u s.ms ≠ 0 := by
  by_cases hms : s.ms < 2 ^ 32
  · intro hzero
    have hvalue : (toTimerTime u s.ms).toNat = s.ms := toTimerTime_of_lt hms
    have hday := le_roundToMs h
    rw [hzero, show (0 : UInt32).toNat = 0 from rfl] at hvalue
    omega
  · rwa [toTimerTime_of_ge hms]

section

variable {s₁ s₂ : Rtc} (h₁ : s₁.Sound) (h₂ : s₂.Sound)

theorem Exact.accurate (h : Exact s₁ s₂) (hreturns : s₁.Returns) {u₁ : UInt32}
    (hne : toTimerTime u₁ s₁.ms ≠ 0) (u₂ : UInt32) :
    Accurate (elapsedSince (toTimerTime u₂ s₂.ms) (toTimerTime u₁ s₁.ms)).toNat
      (s₂.ticks - s₁.ticks) := by
  obtain ⟨elapsed, u, helapsed, haccurate, -⟩ :=
    h u₁ u₂ _ _ (RtcGetTimerValue_eq_some.mpr ⟨hreturns, rfl, rfl⟩) hne
  rw [RtcComputeElapsedTime, if_neg hne, Option.map_eq_some_iff] at helapsed
  obtain ⟨⟨v₂, t⟩, hvalue, heq⟩ := helapsed
  cases heq
  rwa [(RtcGetTimerValue_eq_some.mp hvalue).2.1] at haccurate

include h₁ h₂

/-- Conversions that are undefined are not right. -/
theorem Exact.ms_lt (h : Exact s₁ s₂) (hreturns : s₁.Returns) :
    s₁.ms < 2 ^ 32 ∧ s₂.ms < 2 ^ 32 := by
  have hms₂ : s₂.ms < 2 ^ 32 := by
    by_contra hms₂
    apply not_forall_accurate (toTimerTime 1 s₁.ms) (s₂.ticks - s₁.ticks)
    intro u
    have hone : toTimerTime 1 s₁.ms ≠ 0 := toTimerTime_ne_zero h₁ (by decide)
    have haccurate := h.accurate hreturns hone u
    rwa [toTimerTime_of_ge hms₂] at haccurate
  refine ⟨?_, hms₂⟩
  by_contra hms₁
  have hday : 42187 ≤ (toTimerTime 0 s₂.ms).toNat := by
    rw [toTimerTime_of_lt hms₂]
    exact le_roundToMs h₂
  apply not_forall_accurate_saved hday (s₂.ticks - s₁.ticks)
  intro u hu
  have haccurate := h.accurate hreturns (toTimerTime_ne_zero h₁ hu) 0
  rwa [toTimerTime_of_ge hms₁] at haccurate

/-- The elapsed time is right exactly if the software is behind by the same number of years at
both instants and the times that it counts are 32 bits wide. -/
theorem exact_iff_of_sound (hle : s₁.ticks ≤ s₂.ticks) :
    Exact s₁ s₂ ↔ ¬ s₁.Returns ∨ s₁.lag = s₂.lag ∧
      125 * (s₂.ticks + 86400 - 31557600 * s₂.lag) + 128 < 2 ^ 40 := by
  have hwide : s₂.ms < 2 ^ 32 ↔
      125 * (s₂.ticks + 86400 - 31557600 * s₂.lag) + 128 < 2 ^ 40 := by
    rw [← (calendarSeconds_now h₂).1]
    unfold Rtc.ms roundToMs
    omega
  rw [← hwide]
  constructor
  · intro h
    by_cases hreturns : s₁.Returns
    · obtain ⟨hms₁, hms₂⟩ := h.ms_lt h₁ h₂ hreturns
      have hone : toTimerTime 1 s₁.ms ≠ 0 := toTimerTime_ne_zero h₁ (by decide)
      have haccurate := h.accurate hreturns hone 1
      exact .inr ⟨(accurate_iff h₁ h₂ hle 1 1 hms₁ hms₂).mp haccurate, hms₂⟩
    · exact .inl hreturns
  · rintro (hreturns | ⟨hlag, hms₂⟩) undefined₁ undefined₂ v₁ t hv₁ hne
    · exact absurd (RtcGetTimerValue_eq_some.mp hv₁).1 hreturns
    · obtain ⟨-, rfl, rfl⟩ := RtcGetTimerValue_eq_some.mp hv₁
      have hms : s₁.ms ≤ s₂.ms := by
        have hcounted₁ := (calendarSeconds_now h₁).1
        have hcounted₂ := (calendarSeconds_now h₂).1
        rw [hlag] at hcounted₁
        unfold Rtc.ms roundToMs
        omega
      have hms₁ := Nat.lt_of_le_of_lt hms hms₂
      refine ⟨_, (RtcGetCalendar s₂).2, ?_,
        (accurate_iff h₁ h₂ hle undefined₁ undefined₂ hms₁ hms₂).mpr hlag, fun _ v₂ u hv₂ => ?_⟩
      · rw [RtcComputeElapsedTime, if_neg hne,
          RtcGetTimerValue_eq_some.mpr ⟨returns_of_lt hms₂, rfl, rfl⟩]
        rfl
      · rw [(RtcGetTimerValue_eq_some.mp hv₂).2.1, UInt32.le_iff_toNat_le, toTimerTime_of_lt hms₁,
          toTimerTime_of_lt hms₂]
        exact hms

end

theorem ticks_read (s : Rtc) : (RtcGetCalendar s).2.ticks = s.ticks := by
  unfold RtcGetCalendar
  obtain ⟨-, heq⟩ | ⟨-, heq⟩ := RtcCheckCalendarRollOver_cases s s.calendar.Year
  · rw [heq]
  · rw [heq]

theorem ticks_le_run (s : Rtc) (events : List Event) : s.ticks ≤ (run s events).ticks := by
  unfold run
  induction events generalizing s with
  | nil => exact Nat.le_refl _
  | cons e events ih =>
    refine Nat.le_trans ?_ (ih (step s e))
    cases e with
    | tick => exact Nat.le_succ _
    | RtcGetCalendar => exact Nat.le_of_eq (ticks_read s).symm

/-- For a time that was taken after any events, and any events until the elapsed time is asked
for: that is right exactly if the software is behind by the same number of years at both instants
and the time that it counts at the second one is 32 bits wide. -/
theorem exact_iff (before between : List Event) :
    let s₁ := run .initial before
    let s₂ := run (RtcGetCalendar s₁).2 between
    Exact s₁ s₂ ↔ ¬ s₁.Returns ∨ s₁.lag = s₂.lag ∧
      125 * (s₂.ticks + 86400 - 31557600 * s₂.lag) + 128 < 2 ^ 40 := by
  intro s₁ s₂
  have h₁ : s₁.Sound := sound_initial.run before
  refine exact_iff_of_sound h₁ (h₁.read.run between) ?_
  rw [← ticks_read s₁]
  exact ticks_le_run _ between

/-- A year ends only after the calendar has been read in it. -/
def Watched (s : Rtc) : Event → Prop
  | .tick => s.calendar.tick.Year ≠ s.calendar.Year → s.seen = true
  | .RtcGetCalendar => True

/-- The year of the last reading, if there is one in every year. -/
def Rtc.lastSeen (s : Rtc) : Nat := if s.seen then s.years else s.years - 1

/-- The variables that continue the calendar belong to the year of the last reading. -/
structure Rtc.Tracked (s : Rtc) : Prop where
  sound : s.Sound
  century : s.Century.toNat = 100 * (s.lastSeen / 100) % 65536
  ready : s.CallendarRollOverReady = true ↔ s.lastSeen % 100 = 99

theorem tracked_initial : Rtc.initial.Tracked :=
  ⟨sound_initial, rfl, by decide⟩

theorem Rtc.lastSeen_cases (s : Rtc) : s.lastSeen = s.years ∨ s.lastSeen = s.years - 1 := by
  unfold Rtc.lastSeen
  split
  · exact .inl rfl
  · exact .inr rfl

theorem Rtc.Tracked.read {s : Rtc} (h : s.Tracked) : (RtcGetCalendar s).2.Tracked := by
  obtain ⟨hsound, hcentury, hready⟩ := h
  have hyear := hsound.years
  have hlast := s.lastSeen_cases
  suffices hread : (RtcGetCalendar s).2.Century.toNat =
        100 * ((RtcGetCalendar s).2.lastSeen / 100) % 65536 ∧
      ((RtcGetCalendar s).2.CallendarRollOverReady = true ↔
        (RtcGetCalendar s).2.lastSeen % 100 = 99) from ⟨hsound.read, hread.1, hread.2⟩
  unfold RtcGetCalendar
  obtain ⟨hkept, heq⟩ | ⟨hroll, heq⟩ := RtcCheckCalendarRollOver_cases s s.calendar.Year
  · rw [heq]
    change s.Century.toNat = 100 * (s.years / 100) % 65536 ∧
      ((s.CallendarRollOverReady || decide (s.calendar.Year = 99)) = true ↔ s.years % 100 = 99)
    rw [Bool.or_eq_true, decide_eq_true_eq, hready]
    rw [hready] at hkept
    omega
  · rw [heq]
    change (s.Century + 100).toNat = 100 * (s.years / 100) % 65536 ∧
      (false = true ↔ s.years % 100 = 99)
    rw [hready] at hroll
    have hnext : s.years / 100 = s.lastSeen / 100 + 1 := by omega
    refine ⟨?_, nofun, fun h => by omega⟩
    rw [UInt16.toNat_add, show (100 : UInt16).toNat = 100 from rfl, hcentury, Nat.mod_add_mod,
      hnext, Nat.mul_add]

theorem Rtc.Tracked.tick {s : Rtc} (h : s.Tracked) (hwatched : Watched s .tick) :
    (step s .tick).Tracked := by
  have hlast : (step s .tick).lastSeen = s.lastSeen := by
    unfold Rtc.lastSeen step
    dsimp only
    by_cases hyear : s.calendar.tick.Year = s.calendar.Year
    · simp [hyear]
    · simp [hyear, hwatched hyear]
  exact ⟨h.sound.tick, hlast ▸ h.century, hlast ▸ h.ready⟩

theorem Rtc.Tracked.run {s : Rtc} (h : s.Tracked) {events : List Event}
    (hwatched : transition.AllowedAlong step Watched s events) : (run s events).Tracked := by
  unfold rtc.run
  induction events generalizing s with
  | nil => exact h
  | cons e events ih =>
    cases e with
    | tick => exact ih (h.tick hwatched.1) hwatched.2
    | RtcGetCalendar => exact ih h.read hwatched.2

/-- With a reading in every year, the software is behind only where the next reading is the first
one after the roll-over of the calendar: it is behind by the 100 years. -/
theorem Rtc.Tracked.lag_eq {s : Rtc} (h : s.Tracked) (hyears : s.years < 65536) :
    s.lag = if s.CallendarRollOverReady = true ∧ s.calendar.Year = 0 then 100 else 0 := by
  obtain ⟨hsound, hcentury, hready⟩ := h
  have hyear := hsound.years
  have hlast := s.lastSeen_cases
  unfold Rtc.lag
  split
  · next hroll =>
    rw [hready] at hroll
    omega
  · next hkept =>
    rw [hready] at hkept
    omega

/-- A calendar that is read before every tick. -/
def polled (n : Nat) : List Event := (List.replicate n [.RtcGetCalendar, .tick]).flatten

theorem polled_succ (n : Nat) : polled (n + 1) = .RtcGetCalendar :: .tick :: polled n := rfl

theorem allowedAlong_polled (s : Rtc) (n : Nat) :
    transition.AllowedAlong step Watched s (polled n) := by
  induction n generalizing s with
  | zero => trivial
  | succ n ih =>
    rw [polled_succ]
    exact ⟨trivial, fun _ => rfl, ih _⟩

theorem ticks_run_polled (s : Rtc) (n : Nat) : (run s (polled n)).ticks = s.ticks + n := by
  induction n generalizing s with
  | zero => rfl
  | succ n ih =>
    have hrest := ih (step (RtcGetCalendar s).2 .tick)
    have htick : (step (RtcGetCalendar s).2 .tick).ticks = s.ticks + 1 :=
      congrArg (· + 1) (ticks_read s)
    rw [htick] at hrest
    rw [polled_succ, Nat.add_comm n 1, ← Nat.add_assoc]
    exact hrest

/-- In the last second of the year 99 the time is right, and a tick later it is 100 years
behind. -/
theorem not_exact_of_ticks {s : Rtc} (h : s.Tracked) (hticks : s.ticks = 3155759999) :
    ¬ Exact s (run (RtcGetCalendar s).2 [.tick]) := by
  have hlast := s.lastSeen_cases
  have hcentury := h.century
  have hyear := h.sound.years
  have hseconds := h.sound.ticks
  have hlt := Calendar.secondOfYear_lt h.sound.valid
  have hyears : s.years = 99 := by
    rw [yearsSeconds_eq] at hseconds
    unfold Calendar.yearLength SecondsInLeapYear SecondsInYear at hlt
    split at hlt <;> omega
  rw [hyears] at hseconds hyear
  have hcentury : s.Century.toNat = 0 := by omega
  -- the tick begins the year 00
  have hnew : s.calendar.tick = ⟨0, 1, 1, 0, 0, 0⟩ := by
    obtain ⟨hvalid, ⟨hsame, hnext⟩ | ⟨-, hnew⟩⟩ := Calendar.tick_cases h.sound.valid
    · have hnextlt := Calendar.secondOfYear_lt hvalid
      rw [Calendar.yearLength, hsame, ← hyear, if_neg (by decide), hnext, SecondsInYear] at hnextlt
      rw [yearsSeconds_eq] at hseconds
      omega
    · rw [hnew, ← hyear]
  have hread : (RtcGetCalendar s).2 = { s with CallendarRollOverReady := true, seen := true } := by
    obtain ⟨-, heq⟩ | ⟨hroll, -⟩ := RtcCheckCalendarRollOver_cases s s.calendar.Year
    · rw [RtcGetCalendar, heq, ← hyear]
      simp
    · omega
  intro hexact
  have hafter : (run (RtcGetCalendar s).2 [.tick]).lag = 100 := by
    change ((step (RtcGetCalendar s).2 .tick).years : Int) -
      ((step (RtcGetCalendar s).2 .tick).calendar.Year + (step (RtcGetCalendar s).2 .tick).Century.toNat) = 100
    rw [hread]
    simp [step, hnew, hyears, hcentury, ← hyear]
  have hbefore : s.lag = 0 := by
    unfold Rtc.lag
    omega
  have hticks' : s.ticks ≤ (run (RtcGetCalendar s).2 [.tick]).ticks := by
    rw [← ticks_read s]
    exact ticks_le_run _ _
  obtain hreturns | ⟨hlag, -⟩ :=
    (exact_iff_of_sound h.sound (h.sound.read.run [.tick]) hticks').mp hexact
  · unfold Rtc.Returns at hreturns
    omega
  · rw [hbefore, hafter] at hlag
    cases hlag

/-- The calendar is read before every tick, so also in every year, and the time is taken in the
last second before the roll-over: a tick later the elapsed time is wrong. -/
theorem not_exact_rollover :
    transition.AllowedAlong step Watched .initial (polled 3155759999) ∧
      ¬ Exact (run .initial (polled 3155759999))
        (run (RtcGetCalendar (run .initial (polled 3155759999))).2 [.tick]) := by
  have hwatched := allowedAlong_polled .initial 3155759999
  exact ⟨hwatched, not_exact_of_ticks (tracked_initial.run hwatched)
    ((ticks_run_polled .initial 3155759999).trans (Nat.zero_add _))⟩

end loranode.rtc
