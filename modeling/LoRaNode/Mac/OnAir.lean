import LoRaNode.Lib.Monitor
import LoRaNode.Mac.Cycle

open monitor

namespace loranode.mac

open LoRaMacStatus_t LoRaMacFrameType_t

/-- Whether a data frame is on the air. Until the radio tells its end, no other frame may be sent
and no request be confirmed. -/
def airMonitor : Monitor Action Bool where
  start := false
  next onAir
    | .Send sent => sent.frame.isSome
    | .TxDone _ | .TxTimeout => false
    | _ => onAir
  ok onAir
    | .Send _ | .MacMcpsConfirm _ => onAir = false
    | _ => True

instance (onAir : Bool) (a : Action) : Decidable (airMonitor.ok onAir a) :=
  match a with
  | .Send _ | .MacMcpsConfirm _ => inferInstanceAs (Decidable (onAir = false))
  | .TxDone _ | .TxTimeout | .Accepted | .MacMlmeConfirm _ | .MacMcpsIndication _ _ =>
    .isTrue trivial

/-- A data frame has been given to the radio, which has not told its end. -/
def Mac.onAir (s : Mac) : Bool := airMonitor.after s.board.log

/-- No transmission was declared finished while it was on the air. -/
structure Undisturbed (s : Mac) : Prop where
  accepts : airMonitor.Accepts s.board.log
  running : s.onAir = true → s.LoRaMacState.MAC_TX_RUNNING = true

/-- What an event must meet: the state check does not find `MacDone` while a data frame is on the
air, nor a trial to be made of a frame that is not to be acknowledged; and no frame that was
delayed is due while a data frame is on the air. -/
def Unhurried (s : Mac) : Event → Prop
  | .macStateCheckTimer => s.LoRaMacFlags.MacDone = true →
    s.onAir = false ∧ (s.NodeAckRequested = true ∨ s.AckTimeoutRetry = false)
  | .txDelayedTimer => s.onAir = false
  | _ => True

instance (s : Mac) (e : Event) : Decidable (Unhurried s e) :=
  match e with
  | .macStateCheckTimer => inferInstanceAs (Decidable (s.LoRaMacFlags.MacDone = true →
      s.onAir = false ∧ (s.NodeAckRequested = true ∨ s.AckTimeoutRetry = false)))
  | .txDelayedTimer => inferInstanceAs (Decidable (s.onAir = false))
  | .request _ | .upperReturn | .radio _ | .rxWindowTimer1 | .rxWindowTimer2
  | .ackTimeoutTimer => .isTrue trivial

namespace Undisturbed

theorem congr {s t : Mac} (hs : Undisturbed s) (hlog : t.board.log = s.board.log)
    (hrunning : t.LoRaMacState.MAC_TX_RUNNING = s.LoRaMacState.MAC_TX_RUNNING) :
    Undisturbed t := by
  refine ⟨?_, fun hair => ?_⟩
  · rw [hlog]
    exact hs.accepts
  · unfold Mac.onAir at hair
    rw [hlog] at hair
    rw [hrunning]
    exact hs.running hair

/-- While nothing is on the air it does not matter whether a transmission is said to run. -/
theorem of_landed {s t : Mac} (hs : Undisturbed s) (hair : s.onAir = false)
    (hlog : t.board.log = s.board.log) : Undisturbed t := by
  have hair' : t.onAir = false := by
    unfold Mac.onAir
    rw [hlog]
    exact hair
  refine ⟨?_, fun h => ?_⟩
  · rw [hlog]
    exact hs.accepts
  · rw [hair'] at h
    cases h

theorem landed {s : Mac} (hs : Undisturbed s) (hidle : s.LoRaMacState.MAC_TX_RUNNING = false) :
    s.onAir = false := by
  by_contra hair
  have hrunning := hs.running (Bool.eq_true_of_not_eq_false hair)
  rw [hidle] at hrunning
  cases hrunning

/-- An action that does not matter for what is on the air. -/
theorem record {s t : Mac} {a : Action} (hs : Undisturbed s) (ha : airMonitor.Ignores a)
    (hlog : t.board.log = s.board.log ++ [a])
    (hrunning : t.LoRaMacState.MAC_TX_RUNNING = s.LoRaMacState.MAC_TX_RUNNING) :
    Undisturbed t := by
  refine ⟨?_, fun hair => ?_⟩
  · rw [hlog]
    exact ha.accepts_snoc hs.accepts
  · unfold Mac.onAir at hair
    rw [hlog, ha.after_snoc] at hair
    rw [hrunning]
    exact hs.running hair

end Undisturbed

theorem undisturbed_ScheduleTx {s t : Mac} {status : LoRaMacStatus_t}
    (h : ScheduleTx s = some (status, t)) (hs : Undisturbed s) (hair : s.onAir = false) :
    Undisturbed t := by
  rcases log_ScheduleTx h with ⟨hlog, -⟩ | ⟨sent, -, hlog, hrunning⟩
  · exact hs.of_landed hair hlog
  · refine ⟨?_, fun _ => hrunning⟩
    rw [hlog]
    exact Monitor.accepts_snoc.mpr ⟨hs.accepts, hair⟩

theorem undisturbed_Send {s t : Mac} {macHdr : LoRaMacFrameType_t} {fPort : UInt8}
    {fBuffer : Option Mem} {fBufferSize : UInt16} {status : LoRaMacStatus_t}
    (h : Send s macHdr fPort fBuffer fBufferSize = some (status, t)) (hs : Undisturbed s)
    (hair : s.onAir = false) : Undisturbed t := by
  obtain ⟨status', u, hframe, hout⟩ := Send_cases h
  have hview := unprepared_PrepareFrame s macHdr ⟨0, false, false, false, s.AdrCtrlOn⟩ fPort fBuffer
    fBufferSize
  rw [hframe] at hview
  have hlog : u.board.log = s.board.log := (congrArg (·.board.log) hview :)
  rcases hout with ⟨-, -, rfl⟩ | ⟨-, hschedule⟩
  · exact hs.of_landed hair hlog
  · refine undisturbed_ScheduleTx hschedule (hs.of_landed hair hlog) ?_
    unfold Mac.onAir at hair ⊢
    rw [← hlog] at hair
    exact hair

theorem undisturbed_indicate {s : Mac} (hs : Undisturbed s) : Undisturbed (indicate s) := by
  unfold indicate
  split
  · exact hs.record (a := .MacMcpsIndication s.McpsIndication _) (fun _ => ⟨rfl, trivial⟩) rfl rfl
  · exact hs

theorem undisturbed_confirmMlme {s : Mac} (hs : Undisturbed s) : Undisturbed (confirmMlme s) := by
  unfold confirmMlme
  split
  · exact hs.record (a := .MacMlmeConfirm s.MlmeConfirm) (fun _ => ⟨rfl, trivial⟩) rfl rfl
  · exact undisturbed_indicate (hs.congr rfl rfl)

/-- A request is confirmed in `MAC_IDLE` only, and so not while a frame is on the air. -/
theorem undisturbed_confirmRequests {s : Mac} (hs : Undisturbed s) :
    Undisturbed (confirmRequests s) := by
  unfold confirmRequests
  split
  · next hidle =>
    have hair : s.onAir = false := hs.landed (by rw [hidle]; rfl)
    unfold confirmMcps
    split
    · have hlog : Undisturbed (s.record (.MacMcpsConfirm s.McpsConfirm)) := by
        refine ⟨Monitor.accepts_snoc.mpr ⟨hs.accepts, hair⟩, fun h => ?_⟩
        unfold Mac.onAir at h
        rw [show (s.record (.MacMcpsConfirm s.McpsConfirm)).board.log =
          s.board.log ++ [.MacMcpsConfirm s.McpsConfirm] from rfl, Monitor.after_snoc] at h
        exact hs.running h
      exact hlog.congr rfl rfl
    · exact undisturbed_confirmMlme hs
  · exact undisturbed_indicate (hs.congr rfl rfl)

theorem undisturbed_OnMacStateCheckTimerEvent {s t : Mac}
    (h : OnMacStateCheckTimerEvent s = some t) (hs : Undisturbed s)
    (hdone : s.LoRaMacFlags.MacDone = true →
      s.onAir = false ∧ (s.NodeAckRequested = true ∨ s.AckTimeoutRetry = false)) :
    Undisturbed t := by
  obtain ⟨u, rfl, hu⟩ := OnMacStateCheckTimerEvent_cases h
  have hcycle : Undisturbed u := by
    rcases hu with ⟨-, rfl⟩ | ⟨hmacDone, hcycle⟩
    · exact hs.congr rfl rfl
    · obtain ⟨hair, hretry⟩ := hdone hmacDone
      rcases completeCycle_cases hcycle hretry with ⟨v, status, hv, hschedule⟩ | hsettled
      · have hlog : v.board.log = s.board.log := (congrArg (·.board.log) hv.recycled :)
        refine undisturbed_ScheduleTx hschedule (hs.of_landed hair hlog) ?_
        unfold Mac.onAir at hair ⊢
        rw [hlog]
        exact hair
      · exact hs.of_landed hair (congrArg (·.board.log) hsettled.settled :)
  exact undisturbed_confirmRequests (hcycle.congr rfl rfl)

theorem undisturbed_LoRaMacMcpsRequest {s t : Mac} {r : McpsReq_t} {status : LoRaMacStatus_t}
    (h : LoRaMacMcpsRequest s r = some (status, t)) (hs : Undisturbed s) : Undisturbed t := by
  rcases LoRaMacMcpsRequest_cases h with ⟨-, -, rfl⟩ | ⟨⟨hidle, -⟩, ⟨-, hview, -⟩ | ⟨u, v, macHdr,
    status', type, -, hrequested, hsend, hout⟩⟩
  · exact hs
  · exact hs.of_landed (hs.landed hidle) (congrArg (·.board.log) hview :)
  · have hair := hs.landed hidle
    have hlog : u.board.log = s.board.log := (congrArg (·.board.log) hrequested.unrequested :)
    have hv : Undisturbed v := by
      refine undisturbed_Send hsend (hs.of_landed hair hlog) ?_
      unfold Mac.onAir at hair ⊢
      rw [hlog]
      exact hair
    rcases hout with ⟨-, -, rfl⟩ | ⟨-, -, rfl⟩
    · exact hv.record (a := .Accepted) (fun _ => ⟨rfl, trivial⟩) rfl rfl
    · exact hv.congr rfl rfl

theorem undisturbed_LoRaMacMlmeRequest {s t : Mac} {r : MlmeReq_t} {status : LoRaMacStatus_t}
    (h : LoRaMacMlmeRequest s r = some (status, t)) (hs : Undisturbed s) : Undisturbed t := by
  have hout {x : LoRaMacStatus_t × Mac} (heq : (status, t) = mlmeOutcome x)
      (hx : Undisturbed x.2) : Undisturbed t := by
    have ht : t = (mlmeOutcome x).2 := congrArg Prod.snd heq
    rw [ht]
    unfold mlmeOutcome
    split
    · exact hx
    · exact hx.congr rfl rfl
  rcases LoRaMacMlmeRequest_cases h with ⟨-, rfl, -⟩ | ⟨hidle, ⟨-, -, rfl⟩ | ⟨DevEui, AppEui,
    AppKey, v, status', -, -, hsend, houtcome⟩ | ⟨-, houtcome⟩⟩
  · exact hs
  · exact hs.congr rfl rfl
  · exact hout houtcome (undisturbed_Send hsend (hs.congr rfl rfl) (hs.landed hidle))
  · refine hout houtcome (hs.of_landed (hs.landed hidle) ?_)
    exact (congrArg (·.board.log) (uncommanded_AddMacCommand _ _ _ _) :)

/-- The end of a transmission: nothing is on the air then. -/
theorem undisturbed_end {s t : Mac} {a : Action} (hs : Undisturbed s)
    (ha : ∀ onAir, airMonitor.next onAir a = false ∧ airMonitor.ok onAir a)
    (hlog : t.board.log = s.board.log ++ [a]) : Undisturbed t := by
  refine ⟨?_, fun hair => ?_⟩
  · rw [hlog]
    exact Monitor.accepts_snoc.mpr ⟨hs.accepts, (ha _).2⟩
  · unfold Mac.onAir at hair
    rw [hlog, Monitor.after_snoc, (ha _).1] at hair
    cases hair

theorem undisturbed_step {s t : Mac} {e : Event} (h : step s e = some t) (he : Unhurried s e)
    (hs : Undisturbed s) : Undisturbed t := by
  cases moved_of_step h with
  | received hreceived _ =>
    exact hs.congr (congrArg (·.board.log) hreceived.control :)
      (congrArg (·.LoRaMacState.MAC_TX_RUNNING) hreceived.control :)
  | mcps hmcps => exact undisturbed_LoRaMacMcpsRequest hmcps hs
  | mlme hmlme => exact undisturbed_LoRaMacMlmeRequest hmlme hs
  | mib hidle =>
    exact hs.congr (congrArg (·.board.log) (unset_mibSet s _) :)
      (congrArg (·.LoRaMacState.MAC_TX_RUNNING) (unset_mibSet s _) :)
  | @upperReturn p hinside =>
    cases p with
    | MacMcpsConfirm => exact undisturbed_confirmMlme (hs.congr rfl rfl)
    | MacMlmeConfirm => exact undisturbed_indicate (hs.congr rfl rfl)
    | MacMcpsIndication => exact hs.congr rfl rfl
  | txDone =>
    exact undisturbed_end (a := .TxDone (s.env.clock s.board.reads)) hs
      (fun _ => ⟨rfl, trivial⟩) (log_OnRadioTxDone _)
  | txTimeout =>
    exact undisturbed_end (a := .TxTimeout) hs (fun _ => ⟨rfl, trivial⟩)
      (congrArg (·.board.log) (light_OnRadioTxTimeout _).quiet :)
  | stateCheck _ _ hcheck => exact undisturbed_OnMacStateCheckTimerEvent hcheck hs he
  | txDelayed _ _ hdelayed =>
    obtain ⟨u, status, hschedule, hu⟩ := OnTxDelayedTimerEvent_cases hdelayed
    have hlog : u.board.log = s.board.log := by
      rcases hu with ⟨-, rfl⟩ | ⟨-, rfl⟩
      · rfl
      · have hview := unprepared_PrepareFrame s.undelayed FRAME_TYPE_JOIN_REQ
          ⟨0, false, false, false, s.AdrCtrlOn⟩ 0 none 0
        exact (congrArg (·.board.log) hview :)
    have hair : s.onAir = false := he
    refine undisturbed_ScheduleTx hschedule (hs.of_landed hair hlog) ?_
    unfold Mac.onAir at hair ⊢
    rw [hlog]
    exact hair

/-- In every run of such events a data frame stays alone on the air until the radio tells its end,
`MAC_TX_RUNNING` stays set, and no request is confirmed. This is for both device classes, and for
any interleaving of requests, receptions and timers that meets the condition. -/
theorem undisturbed_of_unhurried {env : Env} {es : List Event} {t : Mac}
    (hrun : Runs Unhurried (Mac.boot env) es t) :
    airMonitor.Accepts t.board.log ∧
      (t.onAir = true → t.LoRaMacState.MAC_TX_RUNNING = true) := by
  have hboot : Undisturbed (Mac.boot env) := ⟨trivial, fun h => by cases h⟩
  have ht : Undisturbed t := hrun.invariant hboot
    fun _ _ _ hs he hstep => undisturbed_step hstep he hs
  exact ⟨ht.accepts, ht.running⟩

/-- A node that is given a session sends a data frame, which ends on the air before the state
check finds it. -/
theorem undisturbed_of_unhurried_sent :
    ∃ t, Runs Unhurried (Mac.boot Env.plain) [.request (.mib (.MIB_NETWORK_JOINED true)),
        .request (.mcps (.Unconfirmed 1 none 0 5)), .macStateCheckTimer, .radio .TxDone] t ∧
      t.board.log.length = 3 ∧ airMonitor.Accepts t.board.log := by
  obtain ⟨t, hrun, hlength⟩ := transition.Run.of_after step Unhurried (Mac.boot Env.plain)
    [.request (.mib (.MIB_NETWORK_JOINED true)), .request (.mcps (.Unconfirmed 1 none 0 5)),
      .macStateCheckTimer, .radio .TxDone]
    (fun t => t.board.log.length = 3) (by decide +kernel)
  exact ⟨t, hrun, by simpa using hlength, (undisturbed_of_unhurried hrun).1⟩

/-- A node of class C hears a frame of another node, and sends before the state check. -/
def listenAndSend : List Event :=
  [.request (.mib (.MIB_NETWORK_JOINED true)), .request (.mib (.MIB_DEV_ADDR 1)),
    .request (.mib (.MIB_DEVICE_CLASS .CLASS_C)), .radio (.RxDone foreignFrame 0 0 true),
    .request (.mcps (.Unconfirmed 1 none 0 5)), .macStateCheckTimer]

/-- The state check ends the transmission of the new frame and confirms it, for the reception
that was refused before. -/
theorem not_undisturbed_listenAndSend :
    ∃ t, Runs (fun _ _ => True) (Mac.boot Env.plain) listenAndSend t ∧
      ¬ airMonitor.Accepts t.board.log ∧
      ¬ (t.onAir = true → t.LoRaMacState.MAC_TX_RUNNING = true) := by
  obtain ⟨t, hrun, ht⟩ := transition.Run.of_after step (fun _ _ => True)
    (Mac.boot Env.plain) listenAndSend
    (fun t => !decide (airMonitor.Accepts t.board.log) &&
      (t.onAir && !t.LoRaMacState.MAC_TX_RUNNING)) (by decide +kernel)
  refine ⟨t, hrun, ?_⟩
  simpa using ht

end loranode.mac
