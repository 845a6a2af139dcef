import LoRaNode.Timer.State

namespace loranode.timer

variable {Id : Type}

/-- An alarm that is armed finds a timer in the list. -/
def Armed (s : Timers Id) : Prop := s.alarm = true → s.TimerListHead ≠ []

theorem armed_of_ne_nil {s : Timers Id} (h : s.TimerListHead ≠ []) : Armed s := fun _ => h

theorem TimerListHead_RtcGetAdjustedTimeoutValue (s : Timers Id) (timeout : Nat) :
    (RtcGetAdjustedTimeoutValue s timeout).2.TimerListHead = s.TimerListHead := by
  unfold RtcGetAdjustedTimeoutValue
  by_cases h : s.McuWakeUpTime < timeout ∧ s.NonScheduledWakeUp = true
  · rw [if_pos h]
    dsimp only
    split <;> rfl
  · rw [if_neg h]
    dsimp only
    split <;> rfl

variable [DecidableEq Id]

@[simp] theorem TimerListHead_TimerSetTimeout (s : Timers Id) (obj : Id) :
    (TimerSetTimeout s obj).TimerListHead = s.TimerListHead :=
  TimerListHead_RtcGetAdjustedTimeoutValue s _

theorem armed_TimerStart (s : Timers Id) (obj : Id) : Armed (TimerStart s obj) := by
  refine armed_of_ne_nil ?_
  unfold TimerStart
  split
  · next hexists =>
    exact List.ne_nil_of_mem (List.contains_iff_mem.mp hexists)
  · unfold insertTimer
    split
    · simp [TimerInsertNewHeadTimer]
    · next hlist =>
      split
      · simp [TimerInsertNewHeadTimer]
      · simp [TimerInsertTimer, hlist]

/-- `TimerStop` does not disarm the alarm, so that it must leave a timer. -/
theorem armed_TimerStop {s : Timers Id} {obj : Id} (hs : Armed s)
    (hlast : s.alarm = true → s.TimerListHead ≠ [obj]) : Armed (TimerStop s obj) := by
  unfold TimerStop
  split
  · exact hs
  · next head rest hlist =>
    split
    · next heq =>
      cases rest with
      | nil =>
        intro halarm
        exact absurd (heq ▸ hlist) (hlast halarm)
      | cons next rest =>
        refine armed_of_ne_nil ?_
        simp only [stopHead]
        split <;> simp
    · exact armed_of_ne_nil (List.cons_ne_nil _ _)

/-- The end of `TimerIrqHandler` arms the alarm for the head of the list. -/
theorem armed_startHead {s : Timers Id} (hs : s.TimerListHead ≠ []) : Armed (startHead s) := by
  refine armed_of_ne_nil ?_
  unfold startHead
  split
  · exact hs
  · split
    · exact hs
    · simpa [Timers.setRunning, Timers.set] using hs

/-- The loop of `TimerIrqHandler` stops at a timer that has not expired. -/
theorem armed_expire {s : Timers Id} {list : List Id}
    (hs : s.alarm = true → ∃ id ∈ list, (s.obj id).Timestamp ≠ 0) : Armed (expire s list) := by
  induction list generalizing s with
  | nil =>
    intro halarm
    obtain ⟨id, hid, _⟩ := hs halarm
    cases hid
  | cons obj rest ih =>
    unfold expire
    split
    · next hzero =>
      have hrest : s.alarm = true → ∃ id ∈ rest, (s.obj id).Timestamp ≠ 0 := by
        intro halarm
        obtain ⟨id, hid, hne⟩ := hs halarm
        rcases List.mem_cons.mp hid with rfl | hid
        · exact absurd hzero hne
        · exact ⟨id, hid, hne⟩
      dsimp only
      split
      · intro halarm
        obtain ⟨id, hid, _⟩ := hrest halarm
        exact List.ne_nil_of_mem hid
      · exact ih hrest
    · exact armed_startHead (List.cons_ne_nil _ _)

/-- What must hold so that the list is not empty while the alarm is armed. Alarms come only while
they are armed. A `TimerReset` leaves its timer in the list; the `TimerStop` of one that is
interrupted before its `TimerStart` is an event of its own, and has to meet the condition. -/
def KeepsTimer (s : Timers Id) : Event Id → Prop
  | .call (.TimerSetValue obj _) => s.alarm = true → s.TimerListHead ≠ [obj]
  | .call (.TimerStop obj) => s.alarm = true → s.TimerListHead ≠ [obj]
  | .alarm _ _ => s.alarm = true
  | .callbackReturn => s.alarm = true → ∃ id ∈ s.TimerListHead, (s.obj id).Timestamp ≠ 0
  | _ => True

theorem armed_callInside {s : Timers Id} (hs : Armed s) (call : Call Id)
    (hkeeps : KeepsTimer s (.call call)) : Armed (s.callInside call) := by
  cases call with
  | TimerSetValue obj value => exact armed_TimerStop (s := s.record _) hs hkeeps
  | TimerStart obj => exact armed_TimerStart _ obj
  | TimerStop obj => exact armed_TimerStop (s := s.record _) hs hkeeps
  | TimerReset obj => exact armed_TimerStart _ obj

theorem armed_callOutside {s : Timers Id} (hs : Armed s) (call : Call Id)
    (hkeeps : KeepsTimer s (.call call)) : Armed (s.callOutside call) := by
  cases call with
  | TimerSetValue obj value => exact armed_TimerStop (s := s.record _) hs hkeeps
  | TimerStart obj => exact armed_callInside hs _ hkeeps
  | TimerStop obj => exact armed_callInside hs _ hkeeps
  | TimerReset obj => exact armed_callInside hs _ hkeeps

theorem armed_goOn {s t : Timers Id} (hs : Armed s) (hstep : s.goOn = some t) : Armed t := by
  unfold Timers.goOn at hstep
  split at hstep
  · cases hstep
  · obtain rfl := Option.some.inj hstep
    exact hs
  · obtain rfl := Option.some.inj hstep
    exact hs

/-- The alarm that goes off is not armed any more. -/
theorem armed_RTC_Alarm_IRQHandler {s t : Timers Id} {scheduled : Bool} {wakeUpTime : Nat}
    (hstep : RTC_Alarm_IRQHandler s scheduled wakeUpTime = some t) : Armed t := by
  unfold RTC_Alarm_IRQHandler TimerIrqHandler at hstep
  split at hstep
  · cases hstep
  · obtain rfl := Option.some.inj hstep
    exact armed_expire nofun

theorem armed_step {s t : Timers Id} {e : Event Id} (hs : Armed s) (hkeeps : KeepsTimer s e)
    (hstep : step s e = some t) : Armed t := by
  cases e with
  | call call =>
    simp only [step] at hstep
    split at hstep
    · obtain rfl := Option.some.inj hstep
      exact armed_callInside hs call hkeeps
    · split at hstep
      · cases hstep
      · obtain rfl := Option.some.inj hstep
        exact armed_callOutside hs call hkeeps
  | assignment =>
    simp only [step] at hstep
    split at hstep
    · cases hstep
    · exact armed_goOn hs hstep
  | alarm scheduled wakeUpTime =>
    simp only [step] at hstep
    split at hstep
    · cases hstep
    · exact armed_RTC_Alarm_IRQHandler hstep
  | callbackReturn =>
    simp only [step] at hstep
    split at hstep
    · obtain rfl := Option.some.inj hstep
      exact armed_expire hkeeps
    · cases hstep
  | tick ms =>
    obtain rfl := Option.some.inj hstep
    exact hs

/-- While the alarm is armed there is a timer in the list, and so the handler of the alarm does not
read through `NULL`. The run is any interleaving of the main loop, which can be interrupted between
the assignments of `TimerSetValue`, with alarms and the calls that their callbacks make. -/
theorem alarm_finds_timer {hasCallback : Id → Bool} {es : List (Event Id)} {s : Timers Id}
    (hrun : Runs KeepsTimer (Timers.init hasCallback) es s) (halarm : s.alarm = true) :
    s.TimerListHead ≠ [] ∧
      ∀ scheduled wakeUpTime, (RTC_Alarm_IRQHandler s scheduled wakeUpTime).isSome := by
  have hs : Armed s := hrun.invariant nofun fun _ _ _ => armed_step
  refine ⟨hs halarm, fun scheduled wakeUpTime => ?_⟩
  obtain ⟨head, rest, hlist⟩ := List.exists_cons_of_ne_nil (hs halarm)
  simp [RTC_Alarm_IRQHandler, TimerIrqHandler, hlist]

instance (s : Timers Id) : ∀ e, Decidable (KeepsTimer s e)
  | .call (.TimerSetValue obj _) =>
    inferInstanceAs (Decidable (s.alarm = true → s.TimerListHead ≠ [obj]))
  | .call (.TimerStop obj) =>
    inferInstanceAs (Decidable (s.alarm = true → s.TimerListHead ≠ [obj]))
  | .call (.TimerStart _) => .isTrue trivial
  | .call (.TimerReset _) => .isTrue trivial
  | .alarm _ _ => inferInstanceAs (Decidable (s.alarm = true))
  | .callbackReturn =>
    inferInstanceAs
      (Decidable (s.alarm = true → ∃ id ∈ s.TimerListHead, (s.obj id).Timestamp ≠ 0))
  | .assignment => .isTrue trivial
  | .tick _ => .isTrue trivial

/-- The second of two timers is stopped while the first is running. -/
def stopSecondEvents : List (Event (Fin 2)) :=
  setAndStart 0 10 ++ setAndStart 1 30 ++ [.tick 4, .call (.TimerStop 1)]

theorem alarm_finds_timer_stopSecond :
    ∃ s, Runs KeepsTimer (Timers.init fun _ => true) stopSecondEvents s ∧ s.alarm = true ∧
      s.TimerListHead ≠ [] ∧
      ∀ scheduled wakeUpTime, (RTC_Alarm_IRQHandler s scheduled wakeUpTime).isSome := by
  obtain ⟨s, hrun, hs⟩ := transition.Run.of_after step KeepsTimer (Timers.init fun _ => true)
    stopSecondEvents (fun s => s.alarm) (by decide +kernel)
  exact ⟨s, hrun, hs, alarm_finds_timer hrun hs⟩

/-- Alarms come only while they are armed. -/
def FiresArmed (s : Timers Id) : Event Id → Prop
  | .alarm _ _ => s.alarm = true
  | _ => True

omit [DecidableEq Id] in
instance (s : Timers Id) : ∀ e, Decidable (FiresArmed s e)
  | .alarm _ _ => inferInstanceAs (Decidable (s.alarm = true))
  | .assignment => .isTrue trivial
  | .call _ => .isTrue trivial
  | .callbackReturn => .isTrue trivial
  | .tick _ => .isTrue trivial

/-- The only timer is started and stopped. -/
def stopLastEvents : List (Event Unit) := setAndStart () 10 ++ [.call (.TimerStop ())]

/-- The alarm stays armed, and its handler then reads through `NULL`. -/
theorem alarm_misses_timer_stopLast :
    ∃ s, Runs FiresArmed (Timers.init fun _ => true) stopLastEvents s ∧ s.alarm = true ∧
      s.TimerListHead = [] ∧ RTC_Alarm_IRQHandler s true 0 = none := by
  obtain ⟨s, hrun, hs⟩ := transition.Run.of_after step FiresArmed (Timers.init fun _ => true)
    stopLastEvents (fun s => decide (s.alarm = true ∧ s.TimerListHead = [])) (by decide +kernel)
  obtain ⟨halarm, hlist⟩ := of_decide_eq_true hs
  refine ⟨s, hrun, halarm, hlist, ?_⟩
  simp [RTC_Alarm_IRQHandler, TimerIrqHandler, hlist]

end loranode.timer
