import Mathlib.Data.List.Nodup
import LoRaNode.Lib.DeltaQueue
import LoRaNode.Timer.State

open deltaqueue

namespace loranode.timer

variable {Id : Type}

/-- Timers with their field `Timestamp`. -/
def Timers.timed (s : Timers Id) (list : List Id) : DeltaQueue Id :=
  list.map fun id => (id, (s.obj id).Timestamp)

/-- The queue that starts now. -/
def Timers.queue (s : Timers Id) : DeltaQueue Id :=
  match s.TimerListHead with
  | [] => []
  | head :: rest => (head, remainingTime s head) :: s.timed rest

theorem keys_timed (s : Timers Id) (list : List Id) : keys (s.timed list) = list := by
  simp [keys, Timers.timed, Function.comp_def]

theorem keys_queue (s : Timers Id) : keys s.queue = s.TimerListHead := by
  unfold Timers.queue
  split
  · next h => rw [h, keys_nil]
  · next h => rw [h, keys_cons, keys_timed]

/-- The list has no timer twice, and at most its head is running. No wake-up time is compensated,
and the alarm was set in the past. -/
structure Linked (s : Timers Id) : Prop where
  nodup : s.TimerListHead.Nodup
  still : ∀ id ∈ s.TimerListHead.tail, (s.obj id).IsRunning = false
  wakeUp : s.McuWakeUpTime = 0
  past : s.RtcCalendarContext ≤ s.now

/-- The head of the list is running. -/
def Started (s : Timers Id) : Prop :=
  ∀ id ∈ s.TimerListHead.head?, (s.obj id).IsRunning = true

/-- What the queue does not say about the timers. -/
def Timers.unqueued (s : Timers Id) : Timers Id :=
  { s with
    RtcCalendarContext := 0
    alarm := false
    NonScheduledWakeUp := false
    TimerListHead := []
    obj := fun id => { s.obj id with Timestamp := 0, IsRunning := false } }

/-- The timers expire no later than after their delay, which is a `uint32_t`. -/
structure Bounded (s : Timers Id) : Prop where
  delay : ∀ id, (s.obj id).ReloadValue < 2 ^ 32
  offset : ∀ e ∈ offsets 0 s.queue, e.2 ≤ (s.obj e.1).ReloadValue

theorem Bounded.lt {s : Timers Id} (hs : Bounded s) {e : Id × Nat} (he : e ∈ offsets 0 s.queue) :
    e.2 < 2 ^ 32 :=
  Nat.lt_of_le_of_lt (hs.offset e he) (hs.delay e.1)

theorem add32_eq {a b : Nat} (h : a + b < 2 ^ 32) : add32 a b = a + b := Nat.mod_eq_of_lt h

theorem sub32_eq {a b : Nat} (h : b ≤ a) (ha : a < 2 ^ 32) : sub32 a b = a - b := by
  unfold sub32
  omega

/-- What remains of a head that is running, in truncated subtraction. -/
theorem remainingTime_of_past {s : Timers Id} (hs : s.RtcCalendarContext ≤ s.now) {head : Id}
    (hrunning : (s.obj head).IsRunning = true) :
    remainingTime s head = (s.obj head).Timestamp - (s.now - s.RtcCalendarContext) := by
  unfold remainingTime TimerGetValue RtcGetElapsedAlarmTime
  rw [if_pos hrunning, if_neg (Nat.not_lt.mpr hs)]
  omega

theorem remainingTime_of_idle {s : Timers Id} {head : Id}
    (hidle : (s.obj head).IsRunning = false) : remainingTime s head = (s.obj head).Timestamp :=
  if_neg (by rw [hidle]; exact Bool.false_ne_true)

theorem remainingTime_le (s : Timers Id) (head : Id) :
    remainingTime s head ≤ (s.obj head).Timestamp := by
  unfold remainingTime
  dsimp only
  split
  · exact Nat.sub_le _ _
  · exact Nat.le_refl _

/-- The timers with other values of `Timestamp`. -/
def Timers.retimed (s : Timers Id) (ts : Id → Nat) : Timers Id :=
  { s with obj := fun id => { s.obj id with Timestamp := ts id } }

@[simp] theorem timed_nil (s : Timers Id) : s.timed [] = [] := rfl

@[simp] theorem timed_cons (s : Timers Id) (id : Id) (list : List Id) :
    s.timed (id :: list) = (id, (s.obj id).Timestamp) :: s.timed list := rfl

@[simp] theorem retimed_obj (s : Timers Id) (ts : Id → Nat) (id : Id) :
    (s.retimed ts).obj id = { s.obj id with Timestamp := ts id } := rfl

/-- Only the values in the list count. -/
theorem timed_congr {s t : Timers Id} {list : List Id}
    (h : ∀ id ∈ list, (t.obj id).Timestamp = (s.obj id).Timestamp) : t.timed list = s.timed list :=
  List.map_congr_left fun id hid => by rw [h id hid]

variable [DecidableEq Id]

theorem setTimestamp_eq (s : Timers Id) (obj : Id) (Timestamp : Nat) :
    s.setTimestamp obj Timestamp =
      s.retimed (Function.update (fun id => (s.obj id).Timestamp) obj Timestamp) := by
  unfold Timers.setTimestamp Timers.set Timers.retimed
  congr 1
  funext id
  by_cases h : id = obj
  · subst h
    simp
  · simp [h]

omit [DecidableEq Id] in
/-- Without a wake-up time there is nothing to compensate. -/
theorem RtcGetAdjustedTimeoutValue_eq {s : Timers Id} (hs : s.McuWakeUpTime = 0) (timeout : Nat) :
    ∃ wakeUp, RtcGetAdjustedTimeoutValue s timeout =
      (timeout, { s with NonScheduledWakeUp := wakeUp }) := by
  have hsub : timeout - s.McuWakeUpTime = timeout := by
    rw [hs, Nat.sub_zero]
  unfold RtcGetAdjustedTimeoutValue
  by_cases hfirst : s.McuWakeUpTime < timeout ∧ s.NonScheduledWakeUp = true
  · refine ⟨false, ?_⟩
    rw [if_pos hfirst, hsub]
    dsimp only
    rw [hsub, ite_self]
  · refine ⟨s.NonScheduledWakeUp, ?_⟩
    rw [if_neg hfirst]
    dsimp only
    rw [hsub, ite_self]

theorem TimerSetTimeout_eq {s : Timers Id} (hs : s.McuWakeUpTime = 0) (obj : Id) :
    ∃ wakeUp, TimerSetTimeout s obj =
      { s with RtcCalendarContext := s.now, alarm := true, NonScheduledWakeUp := wakeUp } := by
  obtain ⟨wakeUp, hwakeUp⟩ := RtcGetAdjustedTimeoutValue_eq hs (s.obj obj).Timestamp
  refine ⟨wakeUp, ?_⟩
  unfold TimerSetTimeout
  rw [hwakeUp]
  change RtcSetTimeout { s with
    NonScheduledWakeUp := wakeUp
    obj := Function.update s.obj obj (s.obj obj) } = _
  rw [Function.update_eq_self]
  rfl

/-- The loop of `TimerInsertTimer` inserts into the queue behind the head. -/
theorem insertBehind_eq (s : Timers Id) {obj : Id} {aggregated : Nat} {list : List Id}
    (hnot : obj ∉ list) (hnodup : list.Nodup)
    (hbound : ∀ e ∈ offsets aggregated (s.timed list), e.2 < 2 ^ 32)
    (hlt : (s.obj obj).Timestamp < 2 ^ 32) (hle : aggregated ≤ (s.obj obj).Timestamp) :
    ∃ ts, (insertBehind s obj aggregated list).2 = s.retimed ts ∧
      (∀ id, id ≠ obj → id ∉ list → ts id = (s.obj id).Timestamp) ∧
      (s.retimed ts).timed (insertBehind s obj aggregated list).1 =
        enqueue obj ((s.obj obj).Timestamp - aggregated) (s.timed list) := by
  induction list generalizing aggregated with
  | nil =>
    refine ⟨Function.update (fun id => (s.obj id).Timestamp) obj
      ((s.obj obj).Timestamp - aggregated), ?_, ?_, ?_⟩
    · unfold insertBehind
      rw [sub32_eq hle hlt]
      exact setTimestamp_eq ..
    · intro id hne _
      exact Function.update_of_ne hne _ _
    · simp [insertBehind, enqueue]
  | cons cur rest ih =>
    obtain ⟨hcur, hrest⟩ := List.nodup_cons.mp hnodup
    rw [List.mem_cons, not_or] at hnot
    have hsmall := hbound (cur, aggregated + (s.obj cur).Timestamp) List.mem_cons_self
    unfold insertBehind
    rw [add32_eq hsmall, timed_cons, enqueue]
    by_cases hless : (s.obj obj).Timestamp < aggregated + (s.obj cur).Timestamp
    · have hlater : (s.obj obj).Timestamp - aggregated < (s.obj cur).Timestamp := by omega
      refine ⟨Function.update (Function.update (fun id => (s.obj id).Timestamp) obj
        ((s.obj obj).Timestamp - aggregated)) cur
        ((s.obj cur).Timestamp - ((s.obj obj).Timestamp - aggregated)), ?_, ?_, ?_⟩
      · rw [if_pos hless, sub32_eq hle hlt]
        dsimp only
        rw [sub32_eq (Nat.le_of_lt hlater) (by omega), setTimestamp_eq, setTimestamp_eq]
        rfl
      · intro id hne hmem
        rw [List.mem_cons, not_or] at hmem
        rw [Function.update_of_ne hmem.1, Function.update_of_ne hne]
      · rw [if_pos hless, if_pos hlater, timed_cons, timed_cons, retimed_obj, retimed_obj]
        dsimp only
        rw [Function.update_self, Function.update_of_ne hnot.1, Function.update_self]
        congr 2
        refine timed_congr fun id hid => ?_
        rw [retimed_obj, Function.update_of_ne (ne_of_mem_of_not_mem hid hcur),
          Function.update_of_ne (ne_of_mem_of_not_mem hid hnot.2)]
    · obtain ⟨ts, hstate, hother, hqueue⟩ := @ih (aggregated + (s.obj cur).Timestamp)
        hnot.2 hrest (fun e he => hbound e (List.mem_cons_of_mem _ he)) (by omega)
      refine ⟨ts, ?_, fun id hne hmem => ?_, ?_⟩
      · rw [if_neg hless]
        exact hstate
      · exact hother id hne fun h => hmem (List.mem_cons_of_mem _ h)
      · rw [if_neg hless, if_neg (by omega), timed_cons, retimed_obj,
          hother cur (Ne.symm hnot.1) hcur, Nat.sub_sub, ← hqueue]

/-- The loop of `TimerStop` takes the timer out of the queue behind the head. -/
theorem stopBehind_eq (s : Timers Id) (obj : Id) {b : Nat} {list : List Id} (hnodup : list.Nodup)
    (hbound : ∀ e ∈ offsets b (s.timed list), e.2 < 2 ^ 32) :
    ∃ ts, (stopBehind s obj list).2 = s.retimed ts ∧
      (∀ id ∉ list, ts id = (s.obj id).Timestamp) ∧
      (s.retimed ts).timed (stopBehind s obj list).1 = remove obj (s.timed list) := by
  induction list generalizing b with
  | nil => exact ⟨fun id => (s.obj id).Timestamp, rfl, fun _ _ => rfl, rfl⟩
  | cons cur rest ih =>
    obtain ⟨hcur, hrest⟩ := List.nodup_cons.mp hnodup
    obtain ⟨ts, hstate, hother, hqueue⟩ := ih (b := b + (s.obj cur).Timestamp) hrest
      fun e he => hbound e (List.mem_cons_of_mem _ he)
    rw [timed_cons, remove]
    cases rest with
    | nil =>
      refine ⟨fun id => (s.obj id).Timestamp, ?_, fun _ _ => rfl, ?_⟩
      · unfold stopBehind
        split <;> rfl
      · unfold stopBehind
        split <;> rfl
    | cons next rest =>
      unfold stopBehind
      by_cases heq : cur = obj
      · subst heq
        have hsmall : b + (s.obj cur).Timestamp + (s.obj next).Timestamp < 2 ^ 32 :=
          hbound (next, _) (List.mem_cons_of_mem _ List.mem_cons_self)
        refine ⟨Function.update (fun id => (s.obj id).Timestamp) next
          ((s.obj next).Timestamp + (s.obj cur).Timestamp), ?_, fun id hid => ?_, ?_⟩
        · rw [if_pos rfl, add32_eq (by omega), setTimestamp_eq]
        · refine Function.update_of_ne (fun h => hid ?_) _ _
          rw [h]
          exact List.mem_cons_of_mem _ List.mem_cons_self
        · rw [if_pos rfl, if_pos rfl, timed_cons, timed_cons, postpone, retimed_obj,
            Function.update_self]
          congr 1
          refine timed_congr fun id hid => ?_
          rw [retimed_obj,
            Function.update_of_ne (ne_of_mem_of_not_mem hid (List.nodup_cons.mp hrest).1)]
      · refine ⟨ts, ?_, fun id hid => hother id fun h => hid (List.mem_cons_of_mem _ h), ?_⟩
        · rw [if_neg heq]
          exact hstate
        · rw [if_neg heq, if_neg heq, timed_cons, retimed_obj, hother cur hcur, ← hqueue]

/-- A function leaves a well linked list, with the queue `q`, and changes nothing else. -/
structure Performs (s t : Timers Id) (q : DeltaQueue Id) : Prop where
  linked : Linked t
  started : Started s → Started t
  queue : t.queue = q
  frame : t.unqueued = s.unqueued

omit [DecidableEq Id] in
/-- Where the head has just been started, nothing has been taken off its value yet. -/
theorem queue_of_armed {s : Timers Id} (h : s.RtcCalendarContext = s.now) :
    s.queue = s.timed s.TimerListHead := by
  have helapsed : TimerGetValue s = 0 := by
    simp [TimerGetValue, RtcGetElapsedAlarmTime, h]
  unfold Timers.queue
  split
  · next hlist => rw [hlist, timed_nil]
  · next hlist => simp [hlist, remainingTime, helapsed]

omit [DecidableEq Id] in
theorem queue_of_idle {s : Timers Id}
    (hidle : ∀ id ∈ s.TimerListHead.head?, (s.obj id).IsRunning = false) :
    s.queue = s.timed s.TimerListHead := by
  unfold Timers.queue
  split
  · next hlist => rw [hlist, timed_nil]
  · next head rest hlist =>
    rw [hlist] at hidle ⊢
    rw [remainingTime_of_idle (hidle head rfl), timed_cons]

theorem unqueued_set (s : Timers Id) (obj : Id) (Timestamp : Nat) (IsRunning : Bool) :
    (s.set obj { s.obj obj with Timestamp := Timestamp, IsRunning := IsRunning }).unqueued =
      s.unqueued := by
  unfold Timers.unqueued Timers.set
  congr 1
  funext id
  by_cases h : id = obj
  · subst h
    simp
  · simp [h]

/-- `TimerSetTimeout` on the head of a list that has been linked anew. -/
theorem performs_TimerSetTimeout {s : Timers Id} (hs : Linked s) (s' : Timers Id) {obj : Id}
    {rest : List Id} (hlist : s'.TimerListHead = obj :: rest) (hnodup : (obj :: rest).Nodup)
    (hrunning : (s'.obj obj).IsRunning = true)
    (hstill : ∀ id ∈ rest, (s'.obj id).IsRunning = false)
    (hframe : s'.unqueued = s.unqueued) :
    Performs s (TimerSetTimeout s' obj) ((obj, (s'.obj obj).Timestamp) :: s'.timed rest) := by
  have hwakeUp : s'.McuWakeUpTime = 0 := (congrArg Timers.McuWakeUpTime hframe :).trans hs.wakeUp
  obtain ⟨wakeUp, hstate⟩ := TimerSetTimeout_eq hwakeUp obj
  rw [hstate]
  refine ⟨⟨?_, ?_, hwakeUp, Nat.le_refl _⟩, ?_, ?_, hframe⟩
  · rw [hlist]
    exact hnodup
  · rw [hlist]
    exact hstill
  · intro _ id hid
    rw [hlist] at hid
    cases hid
    exact hrunning
  · rw [queue_of_armed rfl, hlist]
    rfl

/-- A new head expires before the others. -/
theorem performs_TimerInsertNewHeadTimer {s : Timers Id} (hs : Linked s) {obj : Id}
    (hnot : obj ∉ s.TimerListHead) {r : Nat}
    (hhead : ∀ head ∈ s.TimerListHead.head?,
      r = remainingTime s head ∧ (s.obj obj).Timestamp < r ∧ r < 2 ^ 32) :
    Performs s (TimerInsertNewHeadTimer s obj r)
      (enqueue obj (s.obj obj).Timestamp s.queue) := by
  unfold TimerInsertNewHeadTimer Timers.queue
  have hnodup := hs.nodup
  cases hlist : s.TimerListHead with
  | nil =>
    let s' : Timers Id := { s.setRunning obj true with TimerListHead := [obj] }
    have hobj : s'.obj obj = { s.obj obj with IsRunning := true } := Function.update_self ..
    have hperforms := performs_TimerSetTimeout hs s' rfl (List.nodup_singleton _)
      (by rw [hobj]) nofun (unqueued_set s obj _ true)
    rw [hobj] at hperforms
    exact hperforms
  | cons cur rest =>
    obtain ⟨hr, hlt, hsmall⟩ := hhead cur (by rw [hlist]; rfl)
    rw [hlist] at hnot hnodup
    have hne : cur ≠ obj := fun h => hnot (h ▸ List.mem_cons_self)
    let s' : Timers Id := { (s.set cur { s.obj cur with
      Timestamp := sub32 r (s.obj obj).Timestamp
      IsRunning := false }).setRunning obj true with TimerListHead := obj :: cur :: rest }
    have hobj : s'.obj obj = { s.obj obj with IsRunning := true } := by
      simp [s', Timers.setRunning, Timers.set, Ne.symm hne]
    have hcur : s'.obj cur = { s.obj cur with
        Timestamp := r - (s.obj obj).Timestamp
        IsRunning := false } := by
      simp [s', Timers.setRunning, Timers.set, hne, sub32_eq (Nat.le_of_lt hlt) hsmall]
    have hrest : ∀ id ∈ rest, s'.obj id = s.obj id := by
      intro id hid
      have hid_obj : id ≠ obj := fun h => hnot (h ▸ List.mem_cons_of_mem _ hid)
      have hid_cur : id ≠ cur := fun h => (List.nodup_cons.mp hnodup).1 (h ▸ hid)
      simp [s', Timers.setRunning, Timers.set, hid_obj, hid_cur]
    have hstill : ∀ id ∈ cur :: rest, (s'.obj id).IsRunning = false := by
      intro id hid
      rcases List.mem_cons.mp hid with rfl | hid
      · rw [hcur]
      · rw [hrest id hid]
        exact hs.still id (by rw [hlist]; exact hid)
    have htimed : s'.timed rest = s.timed rest := timed_congr fun id hid => by rw [hrest id hid]
    have hperforms := performs_TimerSetTimeout hs s' rfl
      (List.nodup_cons.mpr ⟨hnot, hnodup⟩) (by rw [hobj]) hstill
      ((unqueued_set _ obj _ true).trans (unqueued_set s cur _ false))
    rw [hobj, timed_cons, hcur, htimed] at hperforms
    dsimp only
    rw [enqueue, ← hr, if_pos hlt]
    exact hperforms

omit [DecidableEq Id] in
theorem queue_cons {s : Timers Id} {head : Id} {rest : List Id}
    (hlist : s.TimerListHead = head :: rest) :
    s.queue = (head, remainingTime s head) :: s.timed rest := by
  unfold Timers.queue
  rw [hlist]

omit [DecidableEq Id] in
/-- A change behind the head leaves the time that remains of it. -/
theorem performs_behind {s : Timers Id} (hs : Linked s) {head : Id} {rest list : List Id}
    (hlist : s.TimerListHead = head :: rest) {ts : Id → Nat}
    (hhead : ts head = (s.obj head).Timestamp) (hnodup : (head :: list).Nodup)
    (hstill : ∀ id ∈ list, (s.obj id).IsRunning = false) :
    Performs s { s.retimed ts with TimerListHead := head :: list }
      ((head, remainingTime s head) :: (s.retimed ts).timed list) := by
  refine ⟨⟨hnodup, hstill, hs.wakeUp, hs.past⟩, ?_, ?_, rfl⟩
  · intro hstarted id hid
    cases hid
    exact hstarted head (by rw [hlist]; rfl)
  · rw [queue_cons rfl]
    have hremaining : remainingTime { s.retimed ts with TimerListHead := head :: list } head =
        remainingTime s head := by
      simp only [remainingTime, retimed_obj, hhead]
      rfl
    rw [hremaining]
    rfl

theorem performs_TimerInsertTimer {s : Timers Id} (hs : Linked s) {obj : Id}
    (hnot : obj ∉ s.TimerListHead) (hidle : (s.obj obj).IsRunning = false)
    (hsmall : (s.obj obj).Timestamp < 2 ^ 32) (hbound : ∀ e ∈ offsets 0 s.queue, e.2 < 2 ^ 32)
    {head : Id} {rest : List Id} (hlist : s.TimerListHead = head :: rest)
    (hle : remainingTime s head ≤ (s.obj obj).Timestamp) :
    Performs s (TimerInsertTimer s obj (remainingTime s head))
      (enqueue obj (s.obj obj).Timestamp s.queue) := by
  have hnodup := hs.nodup
  have hstill := hs.still
  rw [hlist] at hnodup hstill hnot
  rw [queue_cons hlist] at hbound
  obtain ⟨hhead, hrest⟩ := List.nodup_cons.mp hnodup
  obtain ⟨hne, hbehind⟩ := not_or.mp (mt List.mem_cons.mpr hnot)
  obtain ⟨ts, hstate, hother, hqueue⟩ := insertBehind_eq s hbehind hrest
    (fun e he => hbound e (List.mem_cons_of_mem _ (by simpa using he))) hsmall hle
  have hperm : (insertBehind s obj (remainingTime s head) rest).1.Perm (obj :: rest) := by
    have hkeys := keys_enqueue_perm obj ((s.obj obj).Timestamp - remainingTime s head) (s.timed rest)
    rw [← hqueue, keys_timed, keys_timed] at hkeys
    exact hkeys
  unfold TimerInsertTimer
  rw [hlist, queue_cons hlist, enqueue, if_neg (Nat.not_lt.mpr hle), ← hqueue]
  dsimp only
  rw [hstate]
  refine performs_behind hs hlist (hother head (Ne.symm hne) hhead) ?_ fun id hid => ?_
  · rw [(hperm.cons head).nodup_iff, List.nodup_cons, List.mem_cons, not_or]
    exact ⟨⟨Ne.symm hne, hhead⟩, List.nodup_cons.mpr ⟨hbehind, hrest⟩⟩
  · rcases List.mem_cons.mp (hperm.mem_iff.mp hid) with rfl | hid
    · exact hidle
    · exact hstill id hid

omit [DecidableEq Id] in
/-- Only the timers in the list count. -/
theorem queue_congr {s t : Timers Id} (hlist : t.TimerListHead = s.TimerListHead)
    (hobj : ∀ id ∈ s.TimerListHead, t.obj id = s.obj id) (hnow : t.now = s.now)
    (hcontext : t.RtcCalendarContext = s.RtcCalendarContext) : t.queue = s.queue := by
  cases h : s.TimerListHead with
  | nil =>
    unfold Timers.queue
    rw [hlist, h]
  | cons head rest =>
    rw [h] at hobj hlist
    have hhead : remainingTime t head = remainingTime s head := by
      simp only [remainingTime, TimerGetValue, RtcGetElapsedAlarmTime, hnow, hcontext,
        hobj head List.mem_cons_self]
    rw [queue_cons hlist, queue_cons h, hhead]
    congr 1
    exact timed_congr fun id hid => by rw [hobj id (List.mem_cons_of_mem _ hid)]

omit [DecidableEq Id] in
theorem Performs.trans {s t u : Timers Id} {q r : DeltaQueue Id} (h : Performs s t q)
    (h' : Performs t u r) : Performs s u r where
  linked := h'.linked
  started := fun hs => h'.started (h.started hs)
  queue := h'.queue
  frame := h'.frame.trans h.frame

theorem performs_insertTimer {s : Timers Id} (hs : Linked s) {obj : Id}
    (hnot : obj ∉ s.TimerListHead) (hidle : (s.obj obj).IsRunning = false)
    (hsmall : (s.obj obj).Timestamp < 2 ^ 32) (hbound : ∀ e ∈ offsets 0 s.queue, e.2 < 2 ^ 32) :
    Performs s (insertTimer s obj) (enqueue obj (s.obj obj).Timestamp s.queue) := by
  unfold insertTimer
  split
  · next hlist =>
    refine performs_TimerInsertNewHeadTimer hs hnot ?_
    rw [hlist]
    nofun
  · next head rest hlist =>
    split
    · next hlt =>
      refine performs_TimerInsertNewHeadTimer hs hnot ?_
      rw [hlist]
      rintro _ ⟨⟩
      refine ⟨rfl, hlt, hbound (head, remainingTime s head) ?_⟩
      rw [queue_cons hlist, offsets_cons, Nat.zero_add]
      exact List.mem_cons_self
    · next hle =>
      exact performs_TimerInsertTimer hs hnot hidle hsmall hbound hlist (Nat.not_lt.mp hle)

section Set

variable {s : Timers Id} {obj : Id} (hnot : obj ∉ s.TimerListHead) (t : TimerEvent_t)

include hnot

theorem set_obj_of_mem {id : Id} (hid : id ∈ s.TimerListHead) : (s.set obj t).obj id = s.obj id :=
  Function.update_of_ne (ne_of_mem_of_not_mem hid hnot) _ _

theorem queue_set : (s.set obj t).queue = s.queue :=
  queue_congr rfl (fun _ => set_obj_of_mem hnot t) rfl rfl

theorem linked_set (hs : Linked s) : Linked (s.set obj t) := by
  refine ⟨hs.nodup, fun id hid => ?_, hs.wakeUp, hs.past⟩
  rw [set_obj_of_mem hnot t (List.mem_of_mem_tail hid)]
  exact hs.still id hid

theorem started_set (hs : Started s) : Started (s.set obj t) := by
  intro id hid
  rw [set_obj_of_mem hnot t (List.mem_of_mem_head? hid)]
  exact hs id hid

end Set

/-- A timer that is not in the list can be written to. -/
theorem performs_set {s : Timers Id} (hs : Linked s) {obj : Id} (hnot : obj ∉ s.TimerListHead)
    (Timestamp : Nat) (IsRunning : Bool) :
    Performs s (s.set obj { s.obj obj with Timestamp := Timestamp, IsRunning := IsRunning })
      s.queue :=
  ⟨linked_set hnot _ hs, started_set hnot _, queue_set hnot _, unqueued_set ..⟩

theorem TimerStart_of_mem {s : Timers Id} {obj : Id} (h : obj ∈ s.TimerListHead) :
    TimerStart s obj = s :=
  if_pos (by simpa [TimerExists] using h)

/-- `TimerStart` puts the timer into the queue. -/
theorem performs_TimerStart {s : Timers Id} (hs : Linked s)
    (hbound : ∀ e ∈ offsets 0 s.queue, e.2 < 2 ^ 32) {obj : Id}
    (hdelay : (s.obj obj).ReloadValue < 2 ^ 32) (hnot : obj ∉ s.TimerListHead) :
    Performs s (TimerStart s obj) (enqueue obj (s.obj obj).ReloadValue s.queue) := by
  have hset := performs_set hs hnot (s.obj obj).ReloadValue false
  have hinsert := performs_insertTimer hset.linked hnot
    (by simp [Timers.set]) (by simpa [Timers.set] using hdelay)
    (by rw [hset.queue]; exact hbound)
  unfold TimerStart
  rw [if_neg (by simpa [TimerExists] using hnot)]
  rw [hset.queue] at hinsert
  simpa [Timers.set] using hset.trans hinsert

/-- The next timer is started in the place of a running head. -/
theorem performs_stopRunning {s : Timers Id} (hs : Linked s) {obj next : Id} {rest : List Id}
    (hlist : s.TimerListHead = obj :: next :: rest) (Timestamp : Nat) :
    Performs s
      (TimerSetTimeout { (s.setRunning obj false).set next { s.obj next with
        Timestamp := Timestamp
        IsRunning := true } with TimerListHead := next :: rest } next)
      ((next, Timestamp) :: s.timed rest) := by
  have hnodup := hs.nodup
  have hstill := hs.still
  rw [hlist] at hnodup hstill
  obtain ⟨hobj, hrest⟩ := List.nodup_cons.mp hnodup
  have hne : next ≠ obj := fun h => hobj (h ▸ List.mem_cons_self)
  have hkept : (s.setRunning obj false).obj next = s.obj next := Function.update_of_ne hne _ _
  let s' : Timers Id := { (s.setRunning obj false).set next { s.obj next with
    Timestamp := Timestamp
    IsRunning := true } with TimerListHead := next :: rest }
  have hframe : s'.unqueued = s.unqueued := by
    have hset := (unqueued_set (s.setRunning obj false) next Timestamp true).trans
      (unqueued_set s obj _ false)
    rw [hkept] at hset
    exact hset
  have hs'next : s'.obj next = { s.obj next with Timestamp := Timestamp, IsRunning := true } :=
    Function.update_self ..
  have hs'rest : ∀ id ∈ rest, s'.obj id = s.obj id := by
    intro id hid
    have hid_next : id ≠ next := fun h => (List.nodup_cons.mp hrest).1 (h ▸ hid)
    have hid_obj : id ≠ obj := fun h => hobj (h ▸ List.mem_cons_of_mem _ hid)
    simp [s', Timers.setRunning, Timers.set, hid_next, hid_obj]
  have hperforms := performs_TimerSetTimeout hs s' rfl hrest (by rw [hs'next])
    (fun id hid => by rw [hs'rest id hid]; exact hstill id (List.mem_cons_of_mem _ hid)) hframe
  rw [hs'next, timed_congr (s := s) fun id hid => by rw [hs'rest id hid]] at hperforms
  exact hperforms

/-- In a callback the next timer is left as it is. -/
theorem performs_stopIdle {s : Timers Id} (hs : Linked s) {obj next : Id} {rest : List Id}
    (hlist : s.TimerListHead = obj :: next :: rest) (hidle : ¬ (s.obj obj).IsRunning = true)
    (Timestamp : Nat) :
    Performs s { s.setTimestamp next Timestamp with TimerListHead := next :: rest }
      ((next, Timestamp) :: s.timed rest) := by
  have hnodup := hs.nodup
  have hstill := hs.still
  rw [hlist] at hnodup hstill
  have hrest := (List.nodup_cons.mp hnodup).2
  have hrunning : ∀ id ∈ next :: rest,
      ((s.setTimestamp next Timestamp).obj id).IsRunning = false := by
    intro id hid
    rw [setTimestamp_eq]
    exact hstill id hid
  refine ⟨⟨hrest, fun id hid => hrunning id (List.mem_cons_of_mem _ hid), hs.wakeUp, hs.past⟩,
    ?_, ?_, unqueued_set s next Timestamp _⟩
  · intro hstarted
    exact absurd (hstarted obj (by rw [hlist]; rfl)) hidle
  · refine (queue_of_idle ?_).trans ?_
    · rintro _ ⟨⟩
      exact hrunning next List.mem_cons_self
    · dsimp only
      rw [setTimestamp_eq, timed_cons, retimed_obj, Function.update_self]
      congr 1
      refine timed_congr fun id hid => ?_
      rw [retimed_obj,
        Function.update_of_ne (ne_of_mem_of_not_mem hid (List.nodup_cons.mp hrest).1)]

/-- `TimerStop` on the head. -/
theorem performs_stopHead {s : Timers Id} (hs : Linked s)
    (hbound : ∀ e ∈ offsets 0 s.queue, e.2 < 2 ^ 32) {obj : Id} {rest : List Id}
    (hlist : s.TimerListHead = obj :: rest) :
    Performs s (stopHead s obj rest) (remove obj s.queue) := by
  rw [queue_cons hlist, remove, if_pos rfl]
  unfold stopHead
  cases rest with
  | nil =>
    refine ⟨⟨List.nodup_nil, ?_, hs.wakeUp, hs.past⟩, ?_, rfl, rfl⟩
    · simp
    · simp [Started]
  | cons next rest =>
    have hsmall : remainingTime s obj + (s.obj next).Timestamp < 2 ^ 32 := by
      refine hbound (next, _) ?_
      rw [queue_cons hlist]
      simp
    dsimp only
    rw [add32_eq (by omega), timed_cons, postpone]
    split
    · exact performs_stopRunning hs hlist _
    · next hidle => exact performs_stopIdle hs hlist hidle _

omit [DecidableEq Id] in
theorem Performs.refl {s : Timers Id} (hs : Linked s) : Performs s s s.queue :=
  ⟨hs, id, rfl, rfl⟩

/-- `TimerStop` takes the timer out of the queue. -/
theorem performs_TimerStop {s : Timers Id} (hs : Linked s)
    (hbound : ∀ e ∈ offsets 0 s.queue, e.2 < 2 ^ 32) (obj : Id) :
    Performs s (TimerStop s obj) (remove obj s.queue) := by
  unfold TimerStop
  split
  · next hlist =>
    have hqueue : s.queue = [] := by
      unfold Timers.queue
      rw [hlist]
    have hperforms := Performs.refl hs
    rw [hqueue] at hperforms ⊢
    exact hperforms
  · next head rest hlist =>
    have hnodup := hs.nodup
    have hstill := hs.still
    rw [hlist] at hnodup hstill
    obtain ⟨hhead, hrest⟩ := List.nodup_cons.mp hnodup
    by_cases heq : head = obj
    · rw [if_pos heq]
      subst heq
      exact performs_stopHead hs hbound hlist
    · obtain ⟨ts, hstate, hother, hqueue⟩ := stopBehind_eq s obj (b := remainingTime s head) hrest
        fun e he => hbound e (by rw [queue_cons hlist]; simpa using Or.inr he)
      have hkeys : (stopBehind s obj rest).1 = rest.erase obj := by
        rw [← keys_timed (s.retimed ts) (stopBehind s obj rest).1, hqueue, keys_remove, keys_timed]
      rw [if_neg heq, queue_cons hlist, remove, if_neg heq, ← hqueue]
      dsimp only
      rw [hstate]
      refine performs_behind hs hlist (hother head hhead) ?_ fun id hid => ?_
      · rw [hkeys, List.nodup_cons]
        exact ⟨fun h => hhead (List.mem_of_mem_erase h), hrest.erase obj⟩
      · rw [hkeys] at hid
        exact hstill id (List.mem_of_mem_erase hid)

/-- The loop of `TimerStop` that does not find the timer. -/
theorem stopBehind_of_notMem (s : Timers Id) {obj : Id} {list : List Id} (hnot : obj ∉ list) :
    stopBehind s obj list = (list, s) := by
  induction list with
  | nil => rfl
  | cons cur rest ih =>
    rw [List.mem_cons, not_or] at hnot
    have hne : cur ≠ obj := fun h => hnot.1 h.symm
    cases rest with
    | nil => rw [stopBehind, if_neg hne]
    | cons next rest => rw [stopBehind, if_neg hne, ih hnot.2]

theorem TimerStop_of_notMem (s : Timers Id) {obj : Id} (hnot : obj ∉ s.TimerListHead) :
    TimerStop s obj = s := by
  unfold TimerStop
  split
  · rfl
  · next head rest hlist =>
    rw [hlist, List.mem_cons, not_or] at hnot
    rw [if_neg fun h => hnot.1 h.symm, stopBehind_of_notMem s hnot.2]
    dsimp only
    rw [← hlist]

omit [DecidableEq Id] in
/-- The queued timers in their order, with the time at which each of them expires: what remains
of the head from now on, and the distances up to the timer. -/
def Timers.expiries (s : Timers Id) : List (Id × Nat) := offsets s.now s.queue

omit [DecidableEq Id] in
theorem Performs.expiries {s t : Timers Id} {q : DeltaQueue Id} (h : Performs s t q) :
    t.expiries = offsets s.now q := by
  have hnow : t.now = s.now := (congrArg Timers.now h.frame :)
  rw [Timers.expiries, h.queue, hnow]

/-- Starting or stopping a timer does not move the others. A started timer expires after its
delay, behind all those that expire no later; stopping a timer that is not queued does
nothing. -/
theorem expiries_of_others_kept (s : Timers Id) (hs : Linked s) (hstarted : Started s)
    (hbound : ∀ e ∈ offsets 0 s.queue, e.2 < 2 ^ 32) (obj : Id)
    (hdelay : (s.obj obj).ReloadValue < 2 ^ 32) :
    (obj ∉ s.TimerListHead →
      TimerStop s obj = s ∧ Started (TimerStart s obj) ∧
      ∃ before behind, s.expiries = before ++ behind ∧
        (TimerStart s obj).expiries =
          before ++ (obj, s.now + (s.obj obj).ReloadValue) :: behind ∧
        (∀ e ∈ before, e.2 ≤ s.now + (s.obj obj).ReloadValue) ∧
        ∀ e ∈ behind, s.now + (s.obj obj).ReloadValue < e.2) ∧
    (obj ∈ s.TimerListHead →
      Started (TimerStop s obj) ∧
      ∃ before time behind, s.expiries = before ++ (obj, time) :: behind ∧
        (TimerStop s obj).expiries = before ++ behind) := by
  constructor
  · intro hnot
    have hperforms := performs_TimerStart hs hbound hdelay hnot
    refine ⟨TimerStop_of_notMem s hnot, hperforms.started hstarted, ?_⟩
    rw [hperforms.expiries]
    exact offsets_enqueue s.now (s.obj obj).ReloadValue s.queue obj
  · intro hmem
    have hperforms := performs_TimerStop hs hbound obj
    refine ⟨hperforms.started hstarted, ?_⟩
    rw [hperforms.expiries]
    rw [← keys_queue] at hmem
    exact offsets_remove s.now hmem

/-- The head of two timers has 70 ms left; a third one with that delay is put behind it. The head
is stopped, and the second timer expires when it did. -/
theorem expiries_of_others_kept_third :
    let s : Timers (Fin 3) := {
      now := 1030, RtcCalendarContext := 1000, alarm := true, McuWakeUpTime := 0
      WakeUpTimeInitialized := true, NonScheduledWakeUp := false, TimerListHead := [0, 1]
      obj := fun id => ⟨100, 70, id = 0, true⟩, inCallback := false, assigning := none, log := [] }
    (∃ before behind, s.expiries = before ++ behind ∧
      (TimerStart s 2).expiries = before ++ (2, 1100) :: behind ∧
      (∀ e ∈ before, e.2 ≤ 1100) ∧ ∀ e ∈ behind, 1100 < e.2) ∧
    ∃ before time behind, s.expiries = before ++ (0, time) :: behind ∧
      (TimerStop s 0).expiries = before ++ behind := by
  intro s
  have hlinked : Linked s := ⟨by decide, by decide, rfl, by decide⟩
  have hstarted : Started s := by
    rintro _ ⟨⟩
    rfl
  exact ⟨((expiries_of_others_kept s hlinked hstarted (by decide) 2 (by decide)).1 (by decide)).2.2,
    ((expiries_of_others_kept s hlinked hstarted (by decide) 0 (by decide)).2 (by decide)).2⟩

/-- The end of `TimerIrqHandler` starts the head, without a change to the queue. -/
theorem performs_startHead {s : Timers Id} (hs : Linked s) : Performs s (startHead s) s.queue := by
  unfold startHead
  split
  · exact Performs.refl hs
  · next head rest hlist =>
    split
    · exact Performs.refl hs
    · next hidle =>
      have hnodup := hs.nodup
      have hstill := hs.still
      rw [hlist] at hnodup hstill
      have hobj : (s.setRunning head true).obj head = { s.obj head with IsRunning := true } :=
        Function.update_self ..
      have hrest : ∀ id ∈ rest, (s.setRunning head true).obj id = s.obj id := fun id hid =>
        Function.update_of_ne (ne_of_mem_of_not_mem hid (List.nodup_cons.mp hnodup).1) _ _
      have hperforms := performs_TimerSetTimeout hs (s.setRunning head true) hlist hnodup
        (by rw [hobj]) (fun id hid => by rw [hrest id hid]; exact hstill id hid)
        (unqueued_set s head _ true)
      rw [hobj, timed_congr (s := s) fun id hid => by rw [hrest id hid]] at hperforms
      have hqueue : s.queue = s.timed s.TimerListHead := by
        refine queue_of_idle ?_
        rw [hlist]
        rintro _ ⟨⟩
        exact Bool.eq_false_iff.mpr hidle
      rw [hqueue, hlist]
      exact hperforms

theorem started_startHead {s : Timers Id} (hs : Linked s) : Started (startHead s) := by
  unfold startHead
  split
  · next hlist =>
    intro id hid
    rw [hlist] at hid
    cases hid
  · next head rest hlist =>
    split
    · next hrunning =>
      intro id hid
      rw [hlist] at hid
      cases hid
      exact hrunning
    · obtain ⟨wakeUp, hstate⟩ := TimerSetTimeout_eq (s := s.setRunning head true) hs.wakeUp head
      rw [hstate]
      intro id hid
      have hhead : id ∈ s.TimerListHead.head? := hid
      rw [hlist] at hhead
      cases hhead
      exact congrArg TimerEvent_t.IsRunning (Function.update_self head _ s.obj)

end loranode.timer
