import Mathlib.Algebra.Ring.Nat
import Mathlib.Logic.Function.Basic
import LoRaNode.Lib.Transition

namespace loranode.timer

/-- A timer object; `hasCallback` tells whether `Callback` is not `NULL`. -/
structure TimerEvent_t where
  Timestamp : Nat
  ReloadValue : Nat
  IsRunning : Bool
  hasCallback : Bool
  deriving DecidableEq, Repr

/-- What the users of the timers see: their calls, with the time and the delay of a start, and
the timers that expire. -/
inductive Action (Id : Type) where
  | TimerStart (obj : Id) (time delay : Nat)
  | TimerStop (obj : Id)
  | expired (obj : Id) (time : Nat)
  deriving DecidableEq, Repr

/-- The assignments of `TimerSetValue` behind its `TimerStop`, which are made with interrupts
enabled. -/
inductive Assignment where
  | Timestamp | ReloadValue
  deriving DecidableEq, Repr

/-- The globals of `timer.c` and of `rtc-board.c`, and the objects that they point to.
`TimerListHead` is the list that the field `Next` makes. `now` is the clock in milliseconds,
`alarm` tells whether the alarm is armed, and `inCallback` whether `TimerIrqHandler` has called a
callback that has not returned. `assigning` is what a `TimerSetValue` of the main loop has still
to assign. -/
structure Timers (Id : Type) where
  now : Nat
  RtcCalendarContext : Nat
  alarm : Bool
  McuWakeUpTime : Nat
  WakeUpTimeInitialized : Bool
  NonScheduledWakeUp : Bool
  TimerListHead : List Id
  obj : Id → TimerEvent_t
  inCallback : Bool
  assigning : Option (Id × Nat × Assignment)
  log : List (Action Id)

/-- `a + b` and `a - b` on `uint32_t`. -/
def add32 (a b : Nat) : Nat := (a + b) % 2 ^ 32

def sub32 (a b : Nat) : Nat := (a + (2 ^ 32 - b)) % 2 ^ 32

variable {Id : Type}

def Timers.record (s : Timers Id) (a : Action Id) : Timers Id := { s with log := s.log ++ [a] }

def RtcGetAdjustedTimeoutValue (s : Timers Id) (timeout : Nat) : Nat × Timers Id :=
  let (timeout, s) :=
    if s.McuWakeUpTime < timeout ∧ s.NonScheduledWakeUp = true then
      (timeout - s.McuWakeUpTime, { s with NonScheduledWakeUp := false })
    else (timeout, s)
  -- there is no low power mode, and so no compensation, for less than 50 ms
  if s.McuWakeUpTime < timeout ∧ 50 ≤ timeout then (timeout - s.McuWakeUpTime, s) else (timeout, s)

/-- `RtcSetTimeout`, which is `RtcStartWakeUpAlarm`: it keeps the time and arms the alarm. When
that goes off is left open, so that it can be early or late. -/
def RtcSetTimeout (s : Timers Id) : Timers Id :=
  { s with RtcCalendarContext := s.now, alarm := true }

def RtcGetElapsedAlarmTime (s : Timers Id) : Nat :=
  if s.now < s.RtcCalendarContext then s.now + (0xFFFFFFFF - s.RtcCalendarContext)
  else s.now - s.RtcCalendarContext

def TimerGetValue (s : Timers Id) : Nat := RtcGetElapsedAlarmTime s

/-- `remainingTime` of the head, as `TimerStart` and `TimerStop` compute it. -/
def remainingTime (s : Timers Id) (head : Id) : Nat :=
  let Timestamp := (s.obj head).Timestamp
  if (s.obj head).IsRunning then Timestamp - min (TimerGetValue s) Timestamp else Timestamp

variable [DecidableEq Id]

namespace Timers

def set (s : Timers Id) (obj : Id) (t : TimerEvent_t) : Timers Id :=
  { s with obj := Function.update s.obj obj t }

def setTimestamp (s : Timers Id) (obj : Id) (Timestamp : Nat) : Timers Id :=
  s.set obj { s.obj obj with Timestamp := Timestamp }

def setRunning (s : Timers Id) (obj : Id) (IsRunning : Bool) : Timers Id :=
  s.set obj { s.obj obj with IsRunning := IsRunning }

end Timers

def TimerSetTimeout (s : Timers Id) (obj : Id) : Timers Id :=
  let (Timestamp, s) := RtcGetAdjustedTimeoutValue s (s.obj obj).Timestamp
  RtcSetTimeout (s.setTimestamp obj Timestamp)

def TimerExists (s : Timers Id) (obj : Id) : Bool := s.TimerListHead.contains obj

def TimerInsertNewHeadTimer (s : Timers Id) (obj : Id) (remainingTime : Nat) : Timers Id :=
  let s' := match s.TimerListHead with
    | [] => s
    | cur :: _ => s.set cur { s.obj cur with
        Timestamp := sub32 remainingTime (s.obj obj).Timestamp
        IsRunning := false }
  TimerSetTimeout { s'.setRunning obj true with TimerListHead := obj :: s.TimerListHead } obj

/-- The loop of `TimerInsertTimer`: the list behind `prev`, with `obj` in it. -/
def insertBehind (s : Timers Id) (obj : Id) (aggregatedTimestamp : Nat) :
    List Id → List Id × Timers Id
  | [] => ([obj], s.setTimestamp obj (sub32 (s.obj obj).Timestamp aggregatedTimestamp))
  | cur :: rest =>
    let aggregatedTimestampNext := add32 aggregatedTimestamp (s.obj cur).Timestamp
    if (s.obj obj).Timestamp < aggregatedTimestampNext then
      let Timestamp := sub32 (s.obj obj).Timestamp aggregatedTimestamp
      (obj :: cur :: rest,
        (s.setTimestamp obj Timestamp).setTimestamp cur (sub32 (s.obj cur).Timestamp Timestamp))
    else
      let (rest, s) := insertBehind s obj aggregatedTimestampNext rest
      (cur :: rest, s)

def TimerInsertTimer (s : Timers Id) (obj : Id) (remainingTime : Nat) : Timers Id :=
  match s.TimerListHead with
  | [] => s
  | head :: rest =>
    let (rest, s) := insertBehind s obj remainingTime rest
    { s with TimerListHead := head :: rest }

/-- The end of `TimerStart`, for a timer that is not in the list. -/
def insertTimer (s : Timers Id) (obj : Id) : Timers Id :=
  match s.TimerListHead with
  | [] => TimerInsertNewHeadTimer s obj (s.obj obj).Timestamp
  | head :: _ =>
    if (s.obj obj).Timestamp < remainingTime s head then
      TimerInsertNewHeadTimer s obj (remainingTime s head)
    else TimerInsertTimer s obj (remainingTime s head)

def TimerStart (s : Timers Id) (obj : Id) : Timers Id :=
  if TimerExists s obj then s
  else insertTimer (s.set obj { s.obj obj with
    Timestamp := (s.obj obj).ReloadValue
    IsRunning := false }) obj

/-- The loop of `TimerStop` over the list behind the head. -/
def stopBehind (s : Timers Id) (obj : Id) : List Id → List Id × Timers Id
  | [] => ([], s)
  | [cur] => if cur = obj then ([], s) else ([cur], s)
  | cur :: next :: rest =>
    if cur = obj then
      (next :: rest,
        s.setTimestamp next (add32 (s.obj next).Timestamp (s.obj obj).Timestamp))
    else
      let (rest, s) := stopBehind s obj (next :: rest)
      (cur :: rest, s)

/-- `TimerStop` on the head. Where it is the last timer, the alarm stays armed. -/
def stopHead (s : Timers Id) (obj : Id) (rest : List Id) : Timers Id :=
  match rest with
  | [] => { s with TimerListHead := [] }
  | next :: _ =>
    let Timestamp := add32 (s.obj next).Timestamp (remainingTime s obj)
    if (s.obj obj).IsRunning then
      let s := (s.setRunning obj false).set next { s.obj next with
        Timestamp := Timestamp
        IsRunning := true }
      TimerSetTimeout { s with TimerListHead := rest } next
    else { s.setTimestamp next Timestamp with TimerListHead := rest }

def TimerStop (s : Timers Id) (obj : Id) : Timers Id :=
  match s.TimerListHead with
  | [] => s
  | head :: rest =>
    if head = obj then stopHead s obj rest
    else
      let (rest, s) := stopBehind s obj rest
      { s with TimerListHead := head :: rest }

/-- The end of `TimerIrqHandler`: the next timer is started, unless a callback has done it. -/
def startHead (s : Timers Id) : Timers Id :=
  match s.TimerListHead with
  | [] => s
  | head :: _ =>
    if (s.obj head).IsRunning then s else TimerSetTimeout (s.setRunning head true) head

/-- The loop of `TimerIrqHandler` over `list`, which is `TimerListHead`, up to the first callback
that it calls. -/
def expire (s : Timers Id) : (list : List Id) → Timers Id
  | [] => startHead { s with TimerListHead := [], inCallback := false }
  | obj :: rest =>
    if (s.obj obj).Timestamp = 0 then
      let s := { s.record (.expired obj s.now) with TimerListHead := rest }
      if (s.obj obj).hasCallback then { s with inCallback := true } else expire s rest
    else startHead { s with TimerListHead := obj :: rest, inCallback := false }

/-- `TimerIrqHandler` up to the first callback; `none` where it reads through `NULL`. -/
def TimerIrqHandler (s : Timers Id) : Option (Timers Id) :=
  match s.TimerListHead with
  | [] => none
  | head :: _ =>
    let elapsedTime := TimerGetValue s
    let Timestamp := (s.obj head).Timestamp
    let s := s.set head { s.obj head with
      Timestamp := if Timestamp ≤ elapsedTime then 0 else Timestamp - elapsedTime
      IsRunning := false }
    some (expire s s.TimerListHead)

/-- `RTC_Alarm_IRQHandler`. `scheduled` is the flag `PWR_FLAG_WU`, and `wakeUpTime` is what the
first alarm measures. -/
def RTC_Alarm_IRQHandler (s : Timers Id) (scheduled : Bool) (wakeUpTime : Nat) :
    Option (Timers Id) :=
  TimerIrqHandler { s with
    alarm := false
    NonScheduledWakeUp := s.NonScheduledWakeUp || !scheduled
    McuWakeUpTime := if s.WakeUpTimeInitialized then s.McuWakeUpTime else wakeUpTime
    WakeUpTimeInitialized := true }

/-- The calls of the main loop and of the callbacks. -/
inductive Call (Id : Type) where
  | TimerSetValue (obj : Id) (value : UInt32)
  | TimerStart (obj : Id)
  | TimerStop (obj : Id)
  | TimerReset (obj : Id)

namespace Timers

def start (s : Timers Id) (obj : Id) : Timers Id :=
  TimerStart (s.record (.TimerStart obj s.now (s.obj obj).ReloadValue)) obj

def stop (s : Timers Id) (obj : Id) : Timers Id := TimerStop (s.record (.TimerStop obj)) obj

/-- One of the assignments of `TimerSetValue`. -/
def assign (s : Timers Id) (obj : Id) (value : Nat) : Assignment → Timers Id
  | .Timestamp => s.setTimestamp obj value
  | .ReloadValue => s.set obj { s.obj obj with ReloadValue := value }

/-- A call from a callback, which no alarm interrupts. -/
def callInside (s : Timers Id) : Call Id → Timers Id
  | .TimerSetValue obj value =>
    ((s.stop obj).assign obj value.toNat .Timestamp).assign obj value.toNat .ReloadValue
  | .TimerStart obj => s.start obj
  | .TimerStop obj => s.stop obj
  | .TimerReset obj => (s.stop obj).start obj

/-- A call from the main loop. `TimerSetValue` enables interrupts before it assigns. -/
def callOutside (s : Timers Id) : Call Id → Timers Id
  | .TimerSetValue obj value =>
    { s.stop obj with assigning := some (obj, value.toNat, .Timestamp) }
  | call => s.callInside call

/-- The main loop goes on with a `TimerSetValue`. -/
def goOn (s : Timers Id) : Option (Timers Id) :=
  match s.assigning with
  | none => none
  | some (obj, value, .Timestamp) =>
    some { s.assign obj value .Timestamp with assigning := some (obj, value, .ReloadValue) }
  | some (obj, value, .ReloadValue) =>
    some { s.assign obj value .ReloadValue with assigning := none }

def tick (s : Timers Id) (ms : Nat) : Timers Id := { s with now := s.now + ms }

end Timers

/-- What can happen next: a call, the next assignment of the main loop, an alarm, the return of a
callback, or time that passes. -/
inductive Event (Id : Type) where
  | call (call : Call Id)
  | assignment
  | alarm (scheduled : Bool) (wakeUpTime : Nat)
  | callbackReturn
  | tick (ms : Nat)

/-- One step. An alarm interrupts the main loop between its calls and inside `TimerSetValue`. A
`TimerReset` of the main loop is one step where no alarm comes between its two calls; one that is
interrupted there is the two events of its `TimerStop` and its `TimerStart`. Only time passes, and
calls are made, while a callback runs. -/
def step (s : Timers Id) : Event Id → Option (Timers Id)
  | .call call =>
    if s.inCallback then some (s.callInside call)
    else if s.assigning.isSome then none
    else some (s.callOutside call)
  | .assignment => if s.inCallback then none else s.goOn
  | .alarm scheduled wakeUpTime =>
    if s.inCallback then none else RTC_Alarm_IRQHandler s scheduled wakeUpTime
  | .callbackReturn => if s.inCallback then some (expire s s.TimerListHead) else none
  | .tick ms => some (s.tick ms)

/-- A run of the timers from `s` to `t`. -/
abbrev Runs (allowed : Timers Id → Event Id → Prop) (s : Timers Id) (es : List (Event Id))
    (t : Timers Id) : Prop :=
  transition.Run (fun s e t => step s e = some t) allowed s es t

omit [DecidableEq Id] in
/-- The main loop sets a timer and starts it. -/
def setAndStart (obj : Id) (value : UInt32) : List (Event Id) :=
  [.call (.TimerSetValue obj value), .assignment, .assignment, .call (.TimerStart obj)]

omit [DecidableEq Id] in
/-- The timers after `TimerInit`, which is given the callbacks. -/
def Timers.init (hasCallback : Id → Bool) : Timers Id where
  now := 0
  RtcCalendarContext := 0
  alarm := false
  McuWakeUpTime := 0
  WakeUpTimeInitialized := false
  NonScheduledWakeUp := false
  TimerListHead := []
  obj := fun id => ⟨0, 0, false, hasCallback id⟩
  inCallback := false
  assigning := none
  log := []

end loranode.timer
