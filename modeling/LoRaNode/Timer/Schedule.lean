import LoRaNode.Lib.Monitor
import LoRaNode.Timer.Queue

open deltaqueue monitor

namespace loranode.timer

variable {Id : Type} [DecidableEq Id]

/-- The times at which the timers are due. A timer that is not due is queued by `TimerStart`,
until it is stopped or expires, which it may do when its delay has passed. -/
def schedule : Monitor (Action Id) (Id → Option Nat) where
  start := fun _ => none
  next := fun due a => match a with
    | .TimerStart obj time delay =>
      if (due obj).isSome then due else Function.update due obj (some (time + delay))
    | .TimerStop obj => Function.update due obj none
    | .expired obj _ => Function.update due obj none
  ok := fun due a => match a with
    | .expired obj time => (due obj).any (fun t => decide (t ≤ time)) = true
    | _ => True

/-- The queue holds the timers that are due, and none of them expires early. -/
structure Scheduled (s : Timers Id) : Prop where
  linked : Linked s
  bounded : Bounded s
  due : ∀ e ∈ offsets 0 s.queue, ∃ t, schedule.after s.log e.1 = some t ∧ t ≤ s.now + e.2
  queued : ∀ id, (schedule.after s.log id).isSome → id ∈ s.TimerListHead
  accepts : schedule.Accepts s.log
  assigned : ∀ a ∈ s.assigning, a.2.1 < 2 ^ 32

/-- Between the alarms the head is running. -/
structure Timely (s : Timers Id) : Prop extends Scheduled s where
  started : s.inCallback = false → Started s

/-- The schedule has a time for the timers in the list, and for no others. -/
theorem Scheduled.isSome_iff {s : Timers Id} (hs : Scheduled s) (id : Id) :
    (schedule.after s.log id).isSome ↔ id ∈ s.TimerListHead := by
  refine ⟨hs.queued id, fun hid => ?_⟩
  rw [← keys_queue, mem_keys_iff (b := 0)] at hid
  obtain ⟨t, ht⟩ := hid
  obtain ⟨due, hdue, _⟩ := hs.due _ ht
  rw [hdue]
  rfl

/-- A recorded action changes the queue as it changes the schedule. -/
theorem Scheduled.of_unqueued {s t : Timers Id} {a : Action Id} {q : DeltaQueue Id}
    (hs : Scheduled s) (hlinked : Linked t) (hqueue : t.queue = q)
    (hframe : t.unqueued = (s.record a).unqueued)
    (hok : schedule.ok (schedule.after s.log) a)
    (hoffset : ∀ e ∈ offsets 0 q, e.2 ≤ (s.obj e.1).ReloadValue)
    (hdue : ∀ e ∈ offsets 0 q,
      ∃ due, schedule.next (schedule.after s.log) a e.1 = some due ∧ due ≤ s.now + e.2)
    (hqueued : ∀ id, (schedule.next (schedule.after s.log) a id).isSome → id ∈ keys q) :
    Scheduled t := by
  have hlog : t.log = s.log ++ [a] := (congrArg Timers.log hframe :)
  have hnow : t.now = s.now := (congrArg Timers.now hframe :)
  have hassigning : t.assigning = s.assigning := (congrArg Timers.assigning hframe :)
  have hreload : ∀ id, (t.obj id).ReloadValue = (s.obj id).ReloadValue := fun id =>
    (congrArg (fun u : Timers Id => (u.obj id).ReloadValue) hframe :)
  refine ⟨hlinked, ⟨?_, ?_⟩, ?_, ?_, ?_, ?_⟩
  · intro id
    rw [hreload]
    exact hs.bounded.delay id
  · intro e he
    rw [hqueue] at he
    rw [hreload]
    exact hoffset e he
  · intro e he
    rw [hqueue] at he
    rw [hlog, Monitor.after_snoc, hnow]
    exact hdue e he
  · intro id hid
    rw [hlog, Monitor.after_snoc] at hid
    rw [← keys_queue, hqueue]
    exact hqueued id hid
  · rw [hlog]
    exact Monitor.accepts_snoc.mpr ⟨hs.accepts, hok⟩
  · rw [hassigning]
    exact hs.assigned

/-- A call that records an action keeps the head running. -/
theorem Timely.of_performs {s t : Timers Id} {a : Action Id} {q : DeltaQueue Id} (hs : Timely s)
    (hperforms : Performs (s.record a) t q) (hok : schedule.ok (schedule.after s.log) a)
    (hoffset : ∀ e ∈ offsets 0 q, e.2 ≤ (s.obj e.1).ReloadValue)
    (hdue : ∀ e ∈ offsets 0 q,
      ∃ due, schedule.next (schedule.after s.log) a e.1 = some due ∧ due ≤ s.now + e.2)
    (hqueued : ∀ id, (schedule.next (schedule.after s.log) a id).isSome → id ∈ keys q) :
    Timely t where
  toScheduled := hs.toScheduled.of_unqueued hperforms.linked hperforms.queue hperforms.frame hok
    hoffset hdue hqueued
  started := fun hcallback =>
    hperforms.started (hs.started ((congrArg Timers.inCallback hperforms.frame :).symm.trans hcallback))

omit [DecidableEq Id] in
theorem Linked.record {s : Timers Id} (hs : Linked s) (a : Action Id) : Linked (s.record a) :=
  ⟨hs.nodup, hs.still, hs.wakeUp, hs.past⟩

omit [DecidableEq Id] in
theorem Bounded.record {s : Timers Id} (hs : Bounded s) (a : Action Id) : Bounded (s.record a) :=
  ⟨hs.delay, hs.offset⟩

omit [DecidableEq Id] in
theorem mem_list_of_mem_offsets {s : Timers Id} {e : Id × Nat} (he : e ∈ offsets 0 s.queue) :
    e.1 ∈ s.TimerListHead := by
  rw [← keys_queue, mem_keys_iff (b := 0)]
  exact ⟨e.2, he⟩

theorem isSome_update_none {due : Id → Option Nat} {obj id : Id} :
    (Function.update due obj none id).isSome ↔ id ≠ obj ∧ (due id).isSome := by
  by_cases h : id = obj
  · simp [h]
  · simp [h]

theorem timely_start {s : Timers Id} (hs : Timely s) (obj : Id) : Timely (s.start obj) := by
  unfold Timers.start
  have hlinked := hs.linked.record (.TimerStart obj s.now (s.obj obj).ReloadValue)
  have hbounded := hs.bounded.record (.TimerStart obj s.now (s.obj obj).ReloadValue)
  by_cases hmem : obj ∈ s.TimerListHead
  · have hnext : schedule.next (schedule.after s.log)
        (.TimerStart obj s.now (s.obj obj).ReloadValue) = schedule.after s.log :=
      if_pos ((hs.isSome_iff obj).mpr hmem)
    rw [TimerStart_of_mem (s := s.record _) hmem]
    refine hs.of_performs (Performs.refl hlinked) trivial hs.bounded.offset ?_ ?_
    · rw [hnext]
      exact hs.due
    · rw [hnext, keys_queue]
      exact hs.queued
  · have hnone : schedule.after s.log obj = none := by
      rw [← Option.not_isSome_iff_eq_none, hs.isSome_iff]
      exact hmem
    have hnext : schedule.next (schedule.after s.log)
        (.TimerStart obj s.now (s.obj obj).ReloadValue) =
          Function.update (schedule.after s.log) obj (some (s.now + (s.obj obj).ReloadValue)) :=
      if_neg (by rw [hnone]; simp)
    have hperforms := performs_TimerStart hlinked (fun _ => hbounded.lt) (hbounded.delay obj) hmem
    refine hs.of_performs hperforms trivial ?_ ?_ ?_
    · intro e he
      rcases mem_offsets_enqueue.mp he with rfl | he
      · exact Nat.le_of_eq (Nat.zero_add _)
      · exact hs.bounded.offset e he
    · intro e he
      rw [hnext]
      rcases mem_offsets_enqueue.mp he with rfl | he
      · refine ⟨_, Function.update_self .., ?_⟩
        rw [Nat.zero_add]
        exact Nat.le_refl _
      · rw [Function.update_of_ne (ne_of_mem_of_not_mem (mem_list_of_mem_offsets he) hmem)]
        exact hs.due e he
    · intro id hid
      rw [hnext] at hid
      rw [(keys_enqueue_perm _ _ _).mem_iff, List.mem_cons, keys_queue]
      by_cases heq : id = obj
      · exact Or.inl heq
      · rw [Function.update_of_ne heq] at hid
        exact Or.inr (hs.queued id hid)

theorem timely_stop {s : Timers Id} (hs : Timely s) (obj : Id) : Timely (s.stop obj) := by
  unfold Timers.stop
  have hperforms := performs_TimerStop (hs.linked.record (.TimerStop obj))
    (fun _ => (hs.bounded.record (.TimerStop obj)).lt) obj
  refine hs.of_performs hperforms trivial ?_ ?_ ?_
  · intro e he
    exact hs.bounded.offset e (mem_offsets_of_mem_remove he)
  · intro e he
    have hkey : e.1 ∈ keys (remove obj s.queue) := mem_keys_iff.mpr ⟨e.2, he⟩
    rw [keys_remove, keys_queue, hs.linked.nodup.mem_erase_iff] at hkey
    obtain ⟨due, hdue, hle⟩ := hs.due e (mem_offsets_of_mem_remove he)
    exact ⟨due, (Function.update_of_ne hkey.1 _ _).trans hdue, hle⟩
  · intro id hid
    obtain ⟨hne, hsome⟩ := isSome_update_none.mp hid
    rw [keys_remove, keys_queue]
    exact hs.linked.nodup.mem_erase_iff.mpr ⟨hne, hs.queued id hsome⟩

theorem not_mem_stop {s : Timers Id} (hs : Timely s) (obj : Id) :
    obj ∉ (s.stop obj).TimerListHead := by
  have hperforms := performs_TimerStop (hs.linked.record (.TimerStop obj))
    (fun _ => (hs.bounded.record (.TimerStop obj)).lt) obj
  rw [← keys_queue, Timers.stop, hperforms.queue, keys_remove, keys_queue]
  exact hs.linked.nodup.not_mem_erase

/-- `TimerSetValue` can write to a timer that is not in the list. -/
theorem timely_set {s : Timers Id} (hs : Timely s) {obj : Id} (hnot : obj ∉ s.TimerListHead)
    {t : TimerEvent_t} (ht : t.ReloadValue < 2 ^ 32) : Timely (s.set obj t) := by
  refine ⟨⟨linked_set hnot t hs.linked, ⟨fun id => ?_, fun e he => ?_⟩, ?_, hs.queued, hs.accepts,
    hs.assigned⟩, fun hcallback => started_set hnot t (hs.started hcallback)⟩
  · by_cases h : id = obj
    · rw [h]
      simpa [Timers.set] using ht
    · simpa [Timers.set, h] using hs.bounded.delay id
  · rw [queue_set hnot t] at he
    rw [set_obj_of_mem hnot t (mem_list_of_mem_offsets he)]
    exact hs.bounded.offset e he
  · rw [queue_set hnot t]
    exact hs.due

theorem timely_assign {s : Timers Id} (hs : Timely s) {obj : Id} (hnot : obj ∉ s.TimerListHead)
    {value : Nat} (hvalue : value < 2 ^ 32) (a : Assignment) : Timely (s.assign obj value a) := by
  cases a with
  | Timestamp => exact timely_set hs hnot (hs.bounded.delay obj)
  | ReloadValue => exact timely_set hs hnot hvalue

omit [DecidableEq Id] in
theorem remainingTime_tick {s : Timers Id} (hs : s.RtcCalendarContext ≤ s.now) (ms : Nat) (head : Id) :
    ∃ c ≤ ms, remainingTime s head = remainingTime (s.tick ms) head + c := by
  cases hrunning : (s.obj head).IsRunning with
  | false =>
    refine ⟨0, Nat.zero_le _, ?_⟩
    rw [remainingTime_of_idle hrunning, remainingTime_of_idle (s := s.tick ms) hrunning]
    rfl
  | true =>
    refine ⟨remainingTime s head - remainingTime (s.tick ms) head, ?_⟩
    have hlater : s.RtcCalendarContext ≤ s.now + ms := Nat.le_add_right_of_le hs
    rw [remainingTime_of_past hs hrunning, remainingTime_of_past (s := s.tick ms) hlater hrunning]
    simp only [Timers.tick]
    omega

omit [DecidableEq Id] in
/-- Time that passes brings the queue forward by as much, or by less where the head has expired
or does not run. -/
theorem queue_tick {s : Timers Id} (hs : Linked s) (ms : Nat) :
    ∃ c ≤ ms, s.queue = postpone c (s.tick ms).queue := by
  cases hlist : s.TimerListHead with
  | nil =>
    refine ⟨0, Nat.zero_le _, ?_⟩
    simp [Timers.queue, Timers.tick, hlist, postpone]
  | cons head rest =>
    obtain ⟨c, hc, hremaining⟩ := remainingTime_tick hs.past ms head
    refine ⟨c, hc, ?_⟩
    rw [queue_cons hlist, queue_cons (s := s.tick ms) hlist, postpone,
      hremaining]
    rfl

theorem timely_tick {s : Timers Id} (hs : Timely s) (ms : Nat) :
    Timely (s.tick ms) := by
  obtain ⟨c, hc, hqueue⟩ := queue_tick hs.linked ms
  have hmem : ∀ e ∈ offsets 0 (s.tick ms).queue,
      (e.1, e.2 + c) ∈ offsets 0 s.queue := by
    intro e he
    rw [hqueue, offsets_postpone]
    exact mem_offsets_add.mpr he
  refine ⟨⟨⟨hs.linked.nodup, hs.linked.still, hs.linked.wakeUp, ?_⟩, ⟨hs.bounded.delay, ?_⟩, ?_,
    hs.queued, hs.accepts, hs.assigned⟩, hs.started⟩
  · exact Nat.le_add_right_of_le hs.linked.past
  · intro e he
    exact Nat.le_of_add_right_le (hs.bounded.offset _ (hmem e he))
  · intro e he
    obtain ⟨due, hdue, hle⟩ := hs.due _ (hmem e he)
    refine ⟨due, hdue, ?_⟩
    simp only [Timers.tick]
    omega

/-- A head that is popped in the loop of `TimerIrqHandler` is due. -/
theorem scheduled_pop {s : Timers Id} (hs : Scheduled s) {obj : Id} {rest : List Id}
    (hlist : s.TimerListHead = obj :: rest) (hzero : (s.obj obj).Timestamp = 0) :
    Scheduled { s.record (.expired obj s.now) with TimerListHead := rest } := by
  have hnodup := hs.linked.nodup
  have hstill := hs.linked.still
  rw [hlist] at hnodup hstill
  obtain ⟨hobj, hrest⟩ := List.nodup_cons.mp hnodup
  have hqueue : s.queue = (obj, 0) :: s.timed rest := by
    have hremaining := remainingTime_le s obj
    rw [hzero] at hremaining
    rw [queue_cons hlist, Nat.le_zero.mp hremaining]
  have hoffsets : offsets 0 s.queue = (obj, 0) :: offsets 0 (s.timed rest) := by
    rw [hqueue, offsets_cons]
  have hpopped : ({ s.record (.expired obj s.now) with TimerListHead := rest } : Timers Id).queue =
      s.timed rest :=
    queue_of_idle fun id hid => hstill id (List.mem_of_mem_head? hid)
  have hmem : ∀ e ∈ offsets 0 (s.timed rest), e ∈ offsets 0 s.queue := by
    intro e he
    rw [hoffsets]
    exact List.mem_cons_of_mem _ he
  refine hs.of_unqueued (a := .expired obj s.now) ?_ hpopped rfl ?_ ?_ ?_ ?_
  · exact ⟨hrest, fun id hid => hstill id (List.mem_of_mem_tail hid), hs.linked.wakeUp, hs.linked.past⟩
  · obtain ⟨due, hdue, hle⟩ := hs.due (obj, 0) (by rw [hoffsets]; exact List.mem_cons_self)
    simp only [schedule] at hdue ⊢
    simpa [hdue] using hle
  · intro e he
    exact hs.bounded.offset e (hmem e he)
  · intro e he
    have hkey : e.1 ∈ keys (s.timed rest) := mem_keys_iff.mpr ⟨e.2, he⟩
    rw [keys_timed] at hkey
    obtain ⟨due, hdue, hle⟩ := hs.due e (hmem e he)
    exact ⟨due, (Function.update_of_ne (ne_of_mem_of_not_mem hkey hobj) _ _).trans hdue, hle⟩
  · intro id hid
    obtain ⟨hne, hsome⟩ := isSome_update_none.mp hid
    have hmem := hs.queued id hsome
    rw [hlist, List.mem_cons] at hmem
    rw [keys_timed]
    exact hmem.resolve_left hne

theorem Scheduled.of_queue_eq {s t : Timers Id} (hs : Scheduled s) (hlinked : Linked t)
    (hqueue : t.queue = s.queue) (hframe : t.unqueued = s.unqueued) : Scheduled t := by
  have hlog : t.log = s.log := (congrArg Timers.log hframe :)
  have hnow : t.now = s.now := (congrArg Timers.now hframe :)
  have hassigning : t.assigning = s.assigning := (congrArg Timers.assigning hframe :)
  have hreload : ∀ id, (t.obj id).ReloadValue = (s.obj id).ReloadValue := fun id =>
    (congrArg (fun u : Timers Id => (u.obj id).ReloadValue) hframe :)
  have hlist : t.TimerListHead = s.TimerListHead := by
    rw [← keys_queue, hqueue, keys_queue]
  refine ⟨hlinked, ⟨?_, ?_⟩, ?_, ?_, ?_, ?_⟩
  · intro id
    rw [hreload]
    exact hs.bounded.delay id
  · intro e he
    rw [hqueue] at he
    rw [hreload]
    exact hs.bounded.offset e he
  · rw [hqueue, hlog, hnow]
    exact hs.due
  · rw [hlog, hlist]
    exact hs.queued
  · rw [hlog]
    exact hs.accepts
  · rw [hassigning]
    exact hs.assigned

theorem Scheduled.inCallback {s : Timers Id} (hs : Scheduled s) (inCallback : Bool) :
    Scheduled { s with inCallback := inCallback } :=
  ⟨⟨hs.linked.nodup, hs.linked.still, hs.linked.wakeUp, hs.linked.past⟩,
    ⟨hs.bounded.delay, hs.bounded.offset⟩, hs.due, hs.queued, hs.accepts, hs.assigned⟩

theorem timely_startHead {s : Timers Id} (hs : Scheduled s) (list : List Id)
    (hlist : s.TimerListHead = list) :
    Timely (startHead { s with TimerListHead := list, inCallback := false }) := by
  subst hlist
  have hs' := hs.inCallback false
  have hperforms := performs_startHead hs'.linked
  exact ⟨hs'.of_queue_eq hperforms.linked hperforms.queue hperforms.frame,
    fun _ => started_startHead hs'.linked⟩

/-- The loop of `TimerIrqHandler`, up to a callback. -/
theorem timely_expire {s : Timers Id} {list : List Id} (hs : Scheduled s)
    (hlist : s.TimerListHead = list) : Timely (expire s list) := by
  induction list generalizing s with
  | nil => exact timely_startHead hs [] hlist
  | cons obj rest ih =>
    unfold expire
    split
    · next hzero =>
      have hpop := scheduled_pop hs hlist hzero
      dsimp only
      split
      · exact ⟨hpop.inCallback true, nofun⟩
      · exact ih hpop rfl
    · exact timely_startHead hs (obj :: rest) hlist

/-- A head that is stopped with what remains of it leaves the queue as it is. -/
theorem scheduled_halt {s : Timers Id} (hs : Scheduled s) {head : Id} {rest : List Id}
    (hlist : s.TimerListHead = head :: rest) {Timestamp : Nat}
    (hremaining : Timestamp = remainingTime s head) :
    Scheduled (s.set head { s.obj head with Timestamp := Timestamp, IsRunning := false }) := by
  have hnodup := hs.linked.nodup
  have hstill := hs.linked.still
  rw [hlist] at hnodup hstill
  let s' := s.set head { s.obj head with Timestamp := Timestamp, IsRunning := false }
  have hlist' : s'.TimerListHead = head :: rest := hlist
  have hhead : s'.obj head = { s.obj head with Timestamp := Timestamp, IsRunning := false } :=
    Function.update_self ..
  have hrest : ∀ id ∈ rest, s'.obj id = s.obj id := fun id hid =>
    Function.update_of_ne (ne_of_mem_of_not_mem hid (List.nodup_cons.mp hnodup).1) _ _
  refine hs.of_queue_eq ⟨hs.linked.nodup, ?_, hs.linked.wakeUp, hs.linked.past⟩ ?_
    (unqueued_set s head Timestamp false)
  · change ∀ id ∈ s'.TimerListHead.tail, (s'.obj id).IsRunning = false
    rw [hlist']
    intro id hid
    rw [hrest id hid]
    exact hstill id hid
  · change s'.queue = s.queue
    have htimed : s'.timed rest = s.timed rest := timed_congr fun id hid => by rw [hrest id hid]
    rw [queue_cons hlist', queue_cons hlist, remainingTime_of_idle (by rw [hhead]), hhead, htimed,
      ← hremaining]

omit [DecidableEq Id] in
/-- `TimerIrqHandler` takes the elapsed time off the head as `TimerStart` and `TimerStop` do. -/
theorem remainingTime_alarm {s : Timers Id} {head : Id}
    (hrunning : (s.obj head).IsRunning = true) :
    (if (s.obj head).Timestamp ≤ TimerGetValue s then 0
      else (s.obj head).Timestamp - TimerGetValue s) = remainingTime s head := by
  unfold remainingTime
  rw [if_pos hrunning]
  split
  · omega
  · omega

theorem timely_TimerIrqHandler {s t : Timers Id} (hs : Scheduled s) (hstarted : Started s)
    (hstep : TimerIrqHandler s = some t) : Timely t := by
  unfold TimerIrqHandler at hstep
  cases hlist : s.TimerListHead with
  | nil =>
    rw [hlist] at hstep
    cases hstep
  | cons head rest =>
    rw [hlist] at hstep
    obtain rfl := Option.some.inj hstep
    have hrunning : (s.obj head).IsRunning = true := hstarted head (by rw [hlist]; rfl)
    exact timely_expire (scheduled_halt hs hlist (remainingTime_alarm hrunning)) rfl

theorem timely_alarm {s t : Timers Id} (hs : Timely s) (hcallback : s.inCallback = false)
    {scheduled : Bool} (hstep : RTC_Alarm_IRQHandler s scheduled 0 = some t) : Timely t := by
  refine timely_TimerIrqHandler ?_ ?_ hstep
  · refine ⟨⟨hs.linked.nodup, hs.linked.still, ?_, hs.linked.past⟩,
      ⟨hs.bounded.delay, hs.bounded.offset⟩, hs.due, hs.queued, hs.accepts, hs.assigned⟩
    dsimp only
    rw [hs.linked.wakeUp, ite_self]
  · exact hs.started hcallback

theorem timely_callInside {s : Timers Id} (hs : Timely s) (call : Call Id) :
    Timely (s.callInside call) := by
  cases call with
  | TimerSetValue obj value =>
    have hnot := not_mem_stop hs obj
    have hstop := timely_stop hs obj
    have hTimestamp := timely_assign hstop hnot value.toNat_lt .Timestamp
    exact timely_assign hTimestamp hnot value.toNat_lt .ReloadValue
  | TimerStart obj => exact timely_start hs obj
  | TimerStop obj => exact timely_stop hs obj
  | TimerReset obj => exact timely_start (timely_stop hs obj) obj

theorem timely_assigning {s : Timers Id} (hs : Timely s)
    {assigning : Option (Id × Nat × Assignment)} (hassigning : ∀ a ∈ assigning, a.2.1 < 2 ^ 32) :
    Timely { s with assigning := assigning } :=
  ⟨⟨⟨hs.linked.nodup, hs.linked.still, hs.linked.wakeUp, hs.linked.past⟩,
    ⟨hs.bounded.delay, hs.bounded.offset⟩, hs.due, hs.queued, hs.accepts, hassigning⟩, hs.started⟩

theorem timely_callOutside {s : Timers Id} (hs : Timely s) (call : Call Id) :
    Timely (s.callOutside call) := by
  cases call with
  | TimerSetValue obj value =>
    refine timely_assigning (timely_stop hs obj) ?_
    rintro _ ⟨⟩
    exact value.toNat_lt
  | TimerStart obj => exact timely_callInside hs (.TimerStart obj)
  | TimerStop obj => exact timely_callInside hs (.TimerStop obj)
  | TimerReset obj => exact timely_callInside hs (.TimerReset obj)

theorem timely_goOn {s t : Timers Id} (hs : Timely s)
    (hnot : ∀ a ∈ s.assigning, a.1 ∉ s.TimerListHead) (hstep : s.goOn = some t) : Timely t := by
  unfold Timers.goOn at hstep
  split at hstep
  · cases hstep
  · next obj value hassigning =>
    obtain rfl := Option.some.inj hstep
    have hvalue : value < 2 ^ 32 := hs.assigned _ hassigning
    refine timely_assigning (timely_assign hs (hnot _ hassigning) hvalue .Timestamp) ?_
    rintro _ ⟨⟩
    exact hvalue
  · next obj value hassigning =>
    obtain rfl := Option.some.inj hstep
    have hvalue : value < 2 ^ 32 := hs.assigned _ hassigning
    exact timely_assigning (timely_assign hs (hnot _ hassigning) hvalue .ReloadValue) nofun

/-- What must hold so that no timer expires early or is lost: the wake-up time is not
compensated, and a timer whose value the main loop assigns is not in the list. -/
def OnTime (s : Timers Id) : Event Id → Prop
  | .alarm _ wakeUpTime => wakeUpTime = 0
  | .assignment => ∀ a ∈ s.assigning, a.1 ∉ s.TimerListHead
  | _ => True

theorem timely_step {s t : Timers Id} {e : Event Id} (hs : Timely s) (hallowed : OnTime s e)
    (hstep : step s e = some t) : Timely t := by
  cases e with
  | call call =>
    simp only [step] at hstep
    split at hstep
    · obtain rfl := Option.some.inj hstep
      exact timely_callInside hs call
    · split at hstep
      · cases hstep
      · obtain rfl := Option.some.inj hstep
        exact timely_callOutside hs call
  | assignment =>
    simp only [step] at hstep
    split at hstep
    · cases hstep
    · exact timely_goOn hs hallowed hstep
  | alarm scheduled wakeUpTime =>
    have hzero : wakeUpTime = 0 := hallowed
    subst hzero
    simp only [step] at hstep
    split at hstep
    · cases hstep
    · next hcallback => exact timely_alarm hs (Bool.eq_false_iff.mpr hcallback) hstep
  | callbackReturn =>
    simp only [step] at hstep
    split at hstep
    · obtain rfl := Option.some.inj hstep
      exact timely_expire hs.toScheduled rfl
    · cases hstep
  | tick ms =>
    obtain rfl := Option.some.inj hstep
    exact timely_tick hs ms

theorem timely_init (hasCallback : Id → Bool) : Timely (Timers.init hasCallback) := by
  refine ⟨⟨⟨List.nodup_nil, nofun, rfl, Nat.le_refl _⟩, ⟨fun _ => ?_, nofun⟩, nofun, nofun, trivial,
    nofun⟩, fun _ => nofun⟩
  exact Nat.two_pow_pos 32

/-- A timer expires only if it was started and not stopped since, and not before its delay has
passed. Until then it is in the list, once. The run is any interleaving of calls from the main loop
and from callbacks; the delays may have any sum. -/
theorem expires_on_time {hasCallback : Id → Bool} {es : List (Event Id)} {s : Timers Id}
    (hrun : Runs OnTime (Timers.init hasCallback) es s) :
    schedule.Accepts s.log ∧
      ∀ id, (schedule.after s.log id).isSome → s.TimerListHead.count id = 1 := by
  have hs : Timely s := hrun.invariant (timely_init hasCallback) fun _ _ _ => timely_step
  exact ⟨hs.accepts, fun id hid => List.count_eq_one_of_mem hs.linked.nodup (hs.queued id hid)⟩

instance (s : Timers Id) : ∀ e, Decidable (OnTime s e)
  | .alarm _ wakeUpTime => inferInstanceAs (Decidable (wakeUpTime = 0))
  | .assignment => inferInstanceAs (Decidable (∀ a ∈ s.assigning, a.1 ∉ s.TimerListHead))
  | .call _ => .isTrue trivial
  | .callbackReturn => .isTrue trivial
  | .tick _ => .isTrue trivial

instance (due : Id → Option Nat) : ∀ a, Decidable (schedule.ok due a)
  | .expired obj time => inferInstanceAs (Decidable ((due obj).any (fun t => decide (t ≤ time)) = true))
  | .TimerStart .. => .isTrue trivial
  | .TimerStop _ => .isTrue trivial

local instance neZero_two : NeZero 2 := ⟨by decide⟩

/-- Two timers, the first of which starts again when it expires, after an early alarm. -/
def relayEvents : List (Event (Fin 2)) :=
  setAndStart 0 10 ++ setAndStart 1 30 ++
    [.tick 4, .alarm true 0, .tick 6, .alarm true 0, .call (.TimerReset 0), .tick 1, .callbackReturn]

theorem expires_on_time_relay :
    ∃ s, Runs OnTime (Timers.init fun _ => true) relayEvents s ∧
      Action.expired 0 10 ∈ s.log ∧ s.TimerListHead = [0, 1] ∧ schedule.Accepts s.log ∧
      ∀ id, (schedule.after s.log id).isSome → s.TimerListHead.count id = 1 := by
  obtain ⟨s, hrun, hs⟩ := transition.Run.of_after step OnTime (Timers.init fun _ => true)
    relayEvents (fun s => decide (.expired 0 10 ∈ s.log ∧ s.TimerListHead = [0, 1]))
    (by decide +kernel)
  obtain ⟨hexpired, hlist⟩ := of_decide_eq_true hs
  exact ⟨s, hrun, hexpired, hlist, expires_on_time hrun⟩

/-- The wake-up time is not compensated. -/
def Uncompensated (_ : Timers Id) : Event Id → Prop
  | .alarm _ wakeUpTime => wakeUpTime = 0
  | _ => True

instance (s : Timers Id) : ∀ e, Decidable (Uncompensated s e)
  | .alarm _ wakeUpTime => inferInstanceAs (Decidable (wakeUpTime = 0))
  | .assignment => .isTrue trivial
  | .call _ => .isTrue trivial
  | .callbackReturn => .isTrue trivial
  | .tick _ => .isTrue trivial

/-- An alarm interrupts the main loop in `TimerSetValue` on the second timer, with a callback
that starts this timer. Its new value is then written into the list, and the third timer takes it
over when the main loop stops the second one. -/
def interruptedEvents : List (Event (Fin 3)) :=
  setAndStart 0 1 ++ [.call (.TimerSetValue 1 100), .assignment, .assignment] ++ setAndStart 2 200 ++
    [.call (.TimerSetValue 1 5), .tick 1, .alarm true 0, .call (.TimerStart 1), .callbackReturn,
      .assignment, .assignment, .call (.TimerStop 1), .tick 104, .alarm true 0]

/-- The third timer, which was started at 0 with a delay of 200 ms, expires at 105 ms. -/
theorem not_onTime_interrupted :
    ∃ s, Runs Uncompensated (Timers.init fun _ => true) interruptedEvents s ∧
      Action.TimerStart 2 0 200 ∈ s.log ∧ Action.expired 2 105 ∈ s.log ∧
      ¬ schedule.Accepts s.log := by
  obtain ⟨s, hrun, hs⟩ := transition.Run.of_after step Uncompensated (Timers.init fun _ => true)
    interruptedEvents
    (fun s => decide (.TimerStart 2 0 200 ∈ s.log ∧ .expired 2 105 ∈ s.log ∧ ¬ schedule.Accepts s.log))
    (by decide +kernel)
  exact ⟨s, hrun, of_decide_eq_true hs⟩

end loranode.timer
