import LoRaNode.Mac.Cycle

namespace loranode.mac

open LoRaMacStatus_t LoRaMacFrameType_t LoRaMacEventInfoStatus_t

/-- The frame that an action gives to the radio. -/
def Action.transmission : Action → Option Transmission
  | .Send sent => some sent
  | _ => none

/-- What the radio has been given since `s`. -/
def sentSince (s t : Mac) : List Transmission :=
  (t.board.log.drop s.board.log.length).filterMap Action.transmission

theorem sentSince_append {s t u : Mac} {actions : List Action} (h : s.board.log <+: t.board.log)
    (hlog : u.board.log = t.board.log ++ actions) :
    sentSince s u = sentSince s t ++ actions.filterMap Action.transmission := by
  unfold sentSince
  rw [hlog, List.drop_append_of_le_length h.length_le, List.filterMap_append]

/-- Between the two states the radio is given nothing. -/
def Silent (s t : Mac) : Prop :=
  ∃ actions, t.board.log = s.board.log ++ actions ∧ actions.filterMap Action.transmission = []

namespace Silent

theorem of_log {s t : Mac} (h : t.board.log = s.board.log) : Silent s t :=
  ⟨[], h.trans (List.append_nil _).symm, rfl⟩

theorem of_record {s t : Mac} {a : Action} (h : t.board.log = s.board.log ++ [a])
    (ha : a.transmission = none) : Silent s t :=
  ⟨[a], h, by rw [List.filterMap_cons_none ha, List.filterMap_nil]⟩

theorem prefix_log {s t u : Mac} (h : Silent t u) (hlog : s.board.log <+: t.board.log) :
    s.board.log <+: u.board.log := by
  obtain ⟨actions, hu, -⟩ := h
  rw [hu]
  exact hlog.trans (List.prefix_append _ _)

theorem sentSince_eq {s t u : Mac} (h : Silent t u) (hlog : s.board.log <+: t.board.log) :
    sentSince s u = sentSince s t := by
  obtain ⟨actions, hu, hnone⟩ := h
  rw [sentSince_append hlog hu, hnone, List.append_nil]

end Silent

theorem silent_indicate (s : Mac) : Silent s (indicate s) := by
  unfold indicate
  split
  · exact .of_record rfl rfl
  · exact .of_log rfl

theorem silent_confirmMlme (s : Mac) : Silent s (confirmMlme s) := by
  unfold confirmMlme
  split
  · exact .of_record rfl rfl
  · exact silent_indicate { s with LoRaMacFlags := { s.LoRaMacFlags with MacDone := false } }

theorem silent_confirmRequests (s : Mac) : Silent s (confirmRequests s) := by
  unfold confirmRequests confirmMcps
  split
  · split
    · exact .of_record rfl rfl
    · exact silent_confirmMlme s
  · exact silent_indicate { s with
      MacStateCheckTimer :=
        TimerStart (TimerSetValue s.MacStateCheckTimer MAC_STATE_CHECK_TIMEOUT) }

theorem silent_returnFrom (s : Mac) (p : Primitive) : Silent s (returnFrom s p) := by
  cases p with
  | MacMcpsConfirm => exact silent_confirmMlme { s with
      inside := none, LoRaMacFlags := { s.LoRaMacFlags with McpsReq := false } }
  | MacMlmeConfirm => exact silent_indicate { s with
      inside := none, LoRaMacFlags := { s.LoRaMacFlags with MlmeReq := false, MacDone := false } }
  | MacMcpsIndication => exact .of_log rfl

/-- One of the confirms reports that the transmission has timed out. -/
def Mac.timedOut (s : Mac) : Bool :=
  s.McpsConfirm.Status = LORAMAC_EVENT_INFO_STATUS_TX_TIMEOUT ||
    s.MlmeConfirm.Status = LORAMAC_EVENT_INFO_STATUS_TX_TIMEOUT

theorem txTimeout_of_not_timedOut {s : Mac} (h : s.timedOut = false) : txTimeout s = false := by
  unfold Mac.timedOut at h
  unfold txTimeout
  rw [h, Bool.and_false]

/-- The state of the radio once a window has been set up: it only opens if the radio is idle. -/
def openWindow (status : RadioState_t) : RadioState_t :=
  if status = .RF_IDLE then .RF_RX_RUNNING else status

theorem RxWindowSetup_eq (s : Mac) (freq : UInt32) (datarate : Int) (bandwidth : UInt32)
    (timeout : UInt16) (rxContinuous : Bool) : ∃ windows lookups indication,
    RxWindowSetup s freq datarate bandwidth timeout rxContinuous = { s with
      board := { s.board with
        status := openWindow s.board.status, windows := windows, lookups := lookups }
      McpsIndication := indication } := by
  unfold RxWindowSetup
  dsimp only
  split
  · next hidle =>
    have hopen : openWindow s.board.status = .RF_RX_RUNNING := if_pos hidle
    rw [hopen]
    exact ⟨_, _, _, rfl⟩
  · next hbusy =>
    have hopen : openWindow s.board.status = s.board.status := if_neg hbusy
    rw [hopen]
    exact ⟨s.board.windows, _, s.McpsIndication, rfl⟩

theorem not_classC {s : Mac} (hclass : s.LoRaMacDeviceClass = .CLASS_A) :
    s.LoRaMacDeviceClass ≠ .CLASS_C := by
  rw [hclass]
  decide

theorem OnRxWindow1TimerEvent_eq {s : Mac} (hclass : s.LoRaMacDeviceClass = .CLASS_A) :
    ∃ windows lookups indication, OnRxWindow1TimerEvent s = { s with
      RxWindowTimer1 := TimerStop s.RxWindowTimer1
      RxSlot := 0
      board := { s.board with
        status := openWindow s.board.status, windows := windows, lookups := lookups }
      McpsIndication := indication } := by
  unfold OnRxWindow1TimerEvent
  dsimp only
  rw [if_neg (not_classC hclass)]
  exact RxWindowSetup_eq { s with RxWindowTimer1 := TimerStop s.RxWindowTimer1, RxSlot := 0 } _ _ _
    _ _

theorem OnRxWindow2TimerEvent_eq (s : Mac) :
    ∃ windows lookups indication, OnRxWindow2TimerEvent s = { s with
      RxWindowTimer2 := TimerStop s.RxWindowTimer2
      RxSlot := 1
      board := { s.board with
        status := openWindow s.board.status, windows := windows, lookups := lookups }
      McpsIndication := indication } :=
  RxWindowSetup_eq { s with RxWindowTimer2 := TimerStop s.RxWindowTimer2, RxSlot := 1 } _ _ _ _ _

theorem leaveRadio_of_classA {s : Mac} (hclass : s.LoRaMacDeviceClass = .CLASS_A) :
    leaveRadio s = Radio_Sleep s := by
  unfold leaveRadio
  rw [if_neg (not_classC hclass)]

theorem OnAckTimeoutTimerEvent_of_classA {s : Mac} (hclass : s.LoRaMacDeviceClass = .CLASS_A) :
    OnAckTimeoutTimerEvent s = { s with
      AckTimeoutTimer := TimerStop s.AckTimeoutTimer
      AckTimeoutRetry := s.AckTimeoutRetry || s.NodeAckRequested
      LoRaMacState := { s.LoRaMacState with
        MAC_ACK_REQ := s.LoRaMacState.MAC_ACK_REQ && !s.NodeAckRequested } } := by
  unfold OnAckTimeoutTimerEvent
  dsimp only
  cases s.NodeAckRequested with
  | true =>
    rw [if_pos rfl, if_neg (not_classC hclass)]
    simp
  | false =>
    rw [if_neg Bool.false_ne_true, if_neg (not_classC hclass)]
    simp

/-- What decides about a frame that is on its way, with the data rates at which it has been sent. -/
structure Flight where
  sent : List Int
  running : Bool
  delayed : Bool
  aborted : Bool
  delayTimer : Bool
  radio : RadioState_t
  window2 : Bool
  slot : UInt8
  macDone : Bool
  mcpsReq : Bool
  mcpsInd : Bool
  inside : Option Primitive
  joining : Bool
  repetitions : UInt8
  nbRep : UInt8
  datarate : Int
  ackRequested : Bool
  ackReceived : Bool
  retry : Bool
  trial : UInt8
  trials : UInt8
  counter : UInt32
  maxDCycle : UInt8
  deviceClass : DeviceClass_t
  joined : Bool
  windows : Bool
  fixed : Bool
  timedOut : Bool

/-- The frame that is on its way in `s`, when it has been accepted in `s₀`. -/
def Mac.flight (s s₀ : Mac) : Flight where
  sent := (sentSince s₀ s).map (·.Datarate)
  running := s.LoRaMacState.MAC_TX_RUNNING
  delayed := s.LoRaMacState.MAC_TX_DELAYED
  aborted := s.LoRaMacState.MAC_RX_ABORT
  delayTimer := s.TxDelayedTimer.queued
  radio := s.board.status
  window2 := s.RxWindowTimer2.queued
  slot := s.RxSlot
  macDone := s.LoRaMacFlags.MacDone
  mcpsReq := s.LoRaMacFlags.McpsReq
  mcpsInd := s.LoRaMacFlags.McpsInd
  inside := s.inside
  joining := s.joining
  repetitions := s.ChannelsNbRepCounter
  nbRep := s.LoRaMacParams.ChannelsNbRep
  datarate := s.LoRaMacParams.ChannelsDatarate
  ackRequested := s.NodeAckRequested
  ackReceived := s.McpsConfirm.AckReceived
  retry := s.AckTimeoutRetry
  trial := s.AckTimeoutRetriesCounter
  trials := s.AckTimeoutRetries
  counter := s.UpLinkCounter
  maxDCycle := s.MaxDCycle
  deviceClass := s.LoRaMacDeviceClass
  joined := s.IsLoRaMacNetworkJoined
  windows := s.IsRxWindowsEnabled
  fixed := s.IsUpLinkCounterFixed
  timedOut := s.timedOut

namespace Flight

/-- The frame is given to the radio. -/
def send (f : Flight) (datarate : Int) : Flight :=
  { f with
    sent := f.sent ++ [datarate]
    running := true
    radio := .RF_TX_RUNNING
    datarate := datarate
    timedOut := false }

/-- The frame waits until a band is free. -/
def wait (f : Flight) (datarate : Int) : Flight :=
  { f with delayed := true, delayTimer := true, datarate := datarate }

end Flight

/-- Scheduling a frame while the device is switched on. -/
theorem flight_ScheduleTx {s₀ s t : Mac} {status : LoRaMacStatus_t}
    (h : ScheduleTx s = some (status, t)) (hon : s.MaxDCycle ≠ 255)
    (hlog : s₀.board.log <+: s.board.log) : s₀.board.log <+: t.board.log ∧
      (t.flight s₀ = (s.flight s₀).send t.LoRaMacParams.ChannelsDatarate ∨
        t.flight s₀ = (s.flight s₀).wait t.LoRaMacParams.ChannelsDatarate) := by
  rcases ScheduleTx_cases h with ⟨hoff, -, -⟩ | ⟨-, -, u, hu, ht⟩
  · exact absurd hoff hon
  · have hulog : u.board.log = s.board.log := (congrArg (·.board.log) hu.unchosen :)
    have hflight : u.flight s₀ = { s.flight s₀ with
        datarate := u.LoRaMacParams.ChannelsDatarate } := by
      have hview : ({ u.flight s₀ with datarate := 0 } : Flight) =
          { s.flight s₀ with datarate := 0 } :=
        (congrArg (fun s : Mac => { s.flight s₀ with datarate := 0 }) hu.unchosen :)
      exact (congrArg (fun f : Flight => { f with
        datarate := u.LoRaMacParams.ChannelsDatarate }) hview :)
    rcases ht with rfl | ⟨time, rfl⟩
    · generalize u.Channels u.Channel.toNat = channel
      have htlog : (SendFrameOnChannel u channel).board.log =
          s.board.log ++ [.Send (transmission u channel)] := by
        rw [← hulog]
        rfl
      have hsent : sentSince s₀ (SendFrameOnChannel u channel) =
          sentSince s₀ s ++ [transmission u channel] := sentSince_append hlog htlog
      refine ⟨htlog ▸ hlog.trans (List.prefix_append _ _), .inl ?_⟩
      have hsend : (SendFrameOnChannel u channel).flight s₀ = { u.flight s₀ with
          sent := (sentSince s₀ (SendFrameOnChannel u channel)).map (·.Datarate)
          running := true
          radio := .RF_TX_RUNNING
          timedOut := false } := rfl
      rw [hsend, hflight, hsent, List.map_append]
      rfl
    · have hwait : (delayTx u time).flight s₀ = { u.flight s₀ with
          delayed := true, delayTimer := true } := rfl
      refine ⟨hulog ▸ hlog, .inr ?_⟩
      rw [hwait, hflight]
      rfl

theorem flight_window1 (s₀ : Mac) {s : Mac} (hclass : s.LoRaMacDeviceClass = .CLASS_A) :
    (OnRxWindow1TimerEvent s).flight s₀ = { s.flight s₀ with
      radio := openWindow s.board.status, slot := 0 } := by
  obtain ⟨windows, lookups, indication, h⟩ := OnRxWindow1TimerEvent_eq hclass
  rw [h]
  rfl

theorem flight_window2 (s₀ s : Mac) : (OnRxWindow2TimerEvent s).flight s₀ = { s.flight s₀ with
    radio := openWindow s.board.status, slot := 1, window2 := false } := by
  obtain ⟨windows, lookups, indication, h⟩ := OnRxWindow2TimerEvent_eq s
  rw [h]
  rfl

theorem flight_ackTimeout (s₀ : Mac) {s : Mac} (hclass : s.LoRaMacDeviceClass = .CLASS_A) :
    (OnAckTimeoutTimerEvent s).flight s₀ = { s.flight s₀ with
      retry := s.AckTimeoutRetry || s.NodeAckRequested } := by
  rw [OnAckTimeoutTimerEvent_of_classA hclass]
  rfl

theorem timedOut_eq_false {s : Mac} : s.timedOut = false ↔
    s.McpsConfirm.Status ≠ LORAMAC_EVENT_INFO_STATUS_TX_TIMEOUT ∧
      s.MlmeConfirm.Status ≠ LORAMAC_EVENT_INFO_STATUS_TX_TIMEOUT := by
  unfold Mac.timedOut
  rw [Bool.or_eq_false_iff, decide_eq_false_iff_not, decide_eq_false_iff_not]

/-- The end of a window without a frame: the second one ends the cycle. -/
theorem flight_endWindow (s₀ : Mac) {s : Mac} {Status : LoRaMacEventInfoStatus_t}
    (hclass : s.LoRaMacDeviceClass = .CLASS_A)
    (hstatus : Status ≠ LORAMAC_EVENT_INFO_STATUS_TX_TIMEOUT) :
    ∃ timedOut, (s.timedOut = false → timedOut = false) ∧
      (endWindow s Status).flight s₀ = { s.flight s₀ with
        radio := .RF_IDLE
        macDone := s.LoRaMacFlags.MacDone || s.RxSlot = 1
        timedOut := timedOut } := by
  unfold endWindow
  rw [leaveRadio_of_classA hclass]
  dsimp only
  by_cases hslot : s.RxSlot = 1
  · rw [if_pos (show (Radio_Sleep s).RxSlot = 1 from hslot), decide_eq_true hslot, Bool.or_true]
    split
    · refine ⟨_, fun _ => ?_, rfl⟩
      exact timedOut_eq_false.mpr ⟨hstatus, hstatus⟩
    · refine ⟨_, fun hs => ?_, rfl⟩
      exact timedOut_eq_false.mpr ⟨(timedOut_eq_false.mp hs).1, hstatus⟩
  · rw [if_neg (show ¬(Radio_Sleep s).RxSlot = 1 from hslot), decide_eq_false hslot, Bool.or_false]
    exact ⟨s.timedOut, id, rfl⟩

/-- The repetitions once a frame has been sent: one more, unless it is to be acknowledged. -/
def Flight.counted (f : Flight) : UInt8 :=
  if f.ackRequested then f.repetitions else f.repetitions + 1

theorem flight_countRepetition (s₀ s : Mac) : ∃ timedOut, (s.timedOut = false → timedOut = false) ∧
    (countRepetition s).flight s₀ = { s.flight s₀ with
      repetitions := (s.flight s₀).counted, timedOut := timedOut } := by
  unfold countRepetition Flight.counted
  split
  · next hnode =>
    rw [if_pos (show (s.flight s₀).ackRequested = true from hnode)]
    exact ⟨s.timedOut, id, rfl⟩
  · next hnode =>
    rw [if_neg (show ¬(s.flight s₀).ackRequested = true from hnode)]
    have hok : LORAMAC_EVENT_INFO_STATUS_OK ≠ LORAMAC_EVENT_INFO_STATUS_TX_TIMEOUT := by decide
    refine ⟨_, fun hs => ?_, rfl⟩
    exact timedOut_eq_false.mpr ⟨hok, (timedOut_eq_false.mp hs).2⟩

/-- The end of a transmission: the windows are set up, and a frame without acknowledgement has been
sent once more. -/
theorem flight_OnRadioTxDone (s₀ : Mac) {s : Mac} (hclass : s.LoRaMacDeviceClass = .CLASS_A)
    (hwindows : s.IsRxWindowsEnabled = true) :
    ∃ timedOut, (s.timedOut = false → timedOut = false) ∧
      (OnRadioTxDone s).flight s₀ = { s.flight s₀ with
        radio := .RF_IDLE
        window2 := true
        repetitions := (s.flight s₀).counted
        timedOut := timedOut } := by
  have hradio : leaveRadio (TimerGetCurrentTime s).2 = Radio_Sleep (TimerGetCurrentTime s).2 :=
    leaveRadio_of_classA hclass
  have hdone : ∃ u, OnRadioTxDone s = countRepetition (startAckTimeout u) ∧
      u.flight s₀ = { s.flight s₀ with radio := .RF_IDLE, window2 := true } := by
    unfold OnRadioTxDone openRxWindows
    dsimp only
    rw [hradio, if_pos (by exact hwindows)]
    unfold startRxWindows startRxWindow2
    rw [if_neg (by exact not_classC hclass)]
    exact ⟨_, rfl, rfl⟩
  have hack (u : Mac) : (startAckTimeout u).flight s₀ = u.flight s₀ := by
    unfold startAckTimeout
    split <;> rfl
  obtain ⟨u, hu, hflight⟩ := hdone
  obtain ⟨timedOut, htimely, hcount⟩ := flight_countRepetition s₀ (startAckTimeout u)
  rw [hack, hflight] at hcount
  refine ⟨timedOut, fun hs => htimely ?_, ?_⟩
  · exact (congrArg Flight.timedOut ((hack u).trans hflight)).trans hs
  · rw [hu]
    exact hcount

/-- The radio has sent the frame. -/
theorem flight_txDone {s₀ s t : Mac} (h : onRadio s .TxDone = some t)
    (hlog : s₀.board.log <+: s.board.log) (hclass : s.LoRaMacDeviceClass = .CLASS_A)
    (hwindows : s.IsRxWindowsEnabled = true) :
    s.board.status = .RF_TX_RUNNING ∧ s₀.board.log <+: t.board.log ∧
      ∃ timedOut, (s.timedOut = false → timedOut = false) ∧ t.flight s₀ = { s.flight s₀ with
        radio := .RF_IDLE
        window2 := true
        repetitions := (s.flight s₀).counted
        timedOut := timedOut } := by
  obtain ⟨u, hu, rfl⟩ := Option.map_eq_some_iff.mp h
  obtain ⟨hradio, rfl⟩ := radioIrq_eq_some.mp hu
  generalize hrecorded : (s.setStatus .RF_IDLE).record
    (.TxDone ((s.setStatus .RF_IDLE).env.clock (s.setStatus .RF_IDLE).board.reads)) = u
  have hsilent : Silent s u := hrecorded ▸ .of_record rfl rfl
  have hview : u.flight s₀ = { s.flight s₀ with radio := .RF_IDLE } := by
    have hview : u.flight s₀ = { s.flight s₀ with
        sent := (sentSince s₀ u).map (·.Datarate), radio := .RF_IDLE } := hrecorded ▸ rfl
    rw [hview, hsilent.sentSince_eq hlog]
    rfl
  have huclass : u.LoRaMacDeviceClass = .CLASS_A :=
    (congrArg Flight.deviceClass hview).trans hclass
  have huwindows : u.IsRxWindowsEnabled = true := (congrArg Flight.windows hview).trans hwindows
  obtain ⟨timedOut, htimely, hflight⟩ := flight_OnRadioTxDone s₀ huclass huwindows
  refine ⟨hradio, (log_OnRadioTxDone u).symm ▸ hsilent.prefix_log hlog, timedOut, fun hs => ?_, ?_⟩
  · exact htimely ((congrArg Flight.timedOut hview).trans hs)
  · rw [hflight, hview]
    rfl

/-- A window closes without a frame. -/
theorem flight_windowClosed (s₀ : Mac) {s t : Mac} {rxContinuous : Bool}
    (h : onRadio s (.RxError rxContinuous) = some t ∨ onRadio s (.RxTimeout rxContinuous) = some t)
    (hclass : s.LoRaMacDeviceClass = .CLASS_A) :
    s.board.status = .RF_RX_RUNNING ∧ t.board.log = s.board.log ∧
      ∃ timedOut, (s.timedOut = false → timedOut = false) ∧ t.flight s₀ = { s.flight s₀ with
        radio := .RF_IDLE
        macDone := s.LoRaMacFlags.MacDone || s.RxSlot = 1
        timedOut := timedOut } := by
  have hclosed : ∃ Status, Status ≠ LORAMAC_EVENT_INFO_STATUS_TX_TIMEOUT ∧
      (radioIrq s .RF_RX_RUNNING (rxStatus rxContinuous)).map (endWindow · Status) = some t := by
    rcases h with h | h
    · exact ⟨_, by decide, h⟩
    · exact ⟨_, by decide, h⟩
  obtain ⟨Status, hstatus, hclosed⟩ := hclosed
  obtain ⟨u, hu, rfl⟩ := Option.map_eq_some_iff.mp hclosed
  obtain ⟨hradio, rfl⟩ := radioIrq_eq_some.mp hu
  refine ⟨hradio, (congrArg (·.board.log) (light_endWindow (s.setStatus _) Status).quiet :), ?_⟩
  exact flight_endWindow (s := s.setStatus (rxStatus rxContinuous)) s₀ hclass hstatus

theorem flight_beginReception (s₀ : Mac) {s : Mac} (hclass : s.LoRaMacDeviceClass = .CLASS_A)
    (rssi snr : Int) :
    (beginReception s rssi snr).board.log = s.board.log ∧
      (beginReception s rssi snr).flight s₀ = { s.flight s₀ with
        radio := .RF_IDLE, window2 := false, ackReceived := false } := by
  unfold beginReception
  dsimp only
  rw [if_neg (not_classC hclass)]
  exact ⟨rfl, rfl⟩

theorem flight_endReception (s₀ : Mac) {s : Mac} (hclass : s.LoRaMacDeviceClass = .CLASS_A) :
    (endReception s).board.log = s.board.log ∧
      (endReception s).flight s₀ = { s.flight s₀ with macDone := true } := by
  unfold endReception reopenWindow2
  rw [if_neg fun h => not_classC hclass h.2]
  exact ⟨rfl, rfl⟩

/-- A node that has joined passes over a join-accept, which still ends its windows. -/
theorem flight_joinAccept (s₀ : Mac) {s t : Mac} {frame : RxFrame} {rssi snr : Int}
    {rxContinuous : Bool} (h : onRadio s (.RxDone frame rssi snr rxContinuous) = some t)
    (hclass : s.LoRaMacDeviceClass = .CLASS_A) (hjoined : s.IsLoRaMacNetworkJoined = true)
    (htype : frame.macHdr = FRAME_TYPE_JOIN_ACCEPT) :
    s.board.status = .RF_RX_RUNNING ∧ t.board.log = s.board.log ∧
      t.flight s₀ = { s.flight s₀ with
        radio := .RF_IDLE, window2 := false, ackReceived := false, macDone := true } := by
  obtain ⟨u, hu, hdone⟩ := Option.bind_eq_some_iff.mp h
  obtain ⟨hradio, rfl⟩ := radioIrq_eq_some.mp hu
  obtain ⟨hlog, hflight⟩ := flight_beginReception (s := s.setStatus (rxStatus rxContinuous)) s₀
    hclass rssi snr
  unfold OnRadioRxDone receiveJoinAccept at hdone
  rw [htype] at hdone
  dsimp only at hdone
  generalize beginReception (s.setStatus (rxStatus rxContinuous)) rssi snr = u at *
  have hujoined : u.IsLoRaMacNetworkJoined = true := (congrArg Flight.joined hflight).trans hjoined
  have huclass : u.LoRaMacDeviceClass = .CLASS_A :=
    (congrArg Flight.deviceClass hflight).trans hclass
  rw [if_pos hujoined] at hdone
  cases hdone
  obtain ⟨hendLog, hendFlight⟩ := flight_endReception s₀ huclass
  refine ⟨hradio, hendLog.trans hlog, ?_⟩
  rw [hendFlight, hflight]
  rfl

theorem flight_LoRaMacChannelAdd (s₀ s : Mac) (id : UInt8) (params : ChannelParams_t) :
    (LoRaMacChannelAdd s id params).2.flight s₀ = s.flight s₀ := by
  unfold LoRaMacChannelAdd
  split
  · rfl
  · split
    · rfl
    · split <;> rfl

theorem flight_LoRaMacChannelRemove (s₀ s : Mac) (id : UInt8) :
    (LoRaMacChannelRemove s id).2.flight s₀ = s.flight s₀ := by
  unfold LoRaMacChannelRemove
  split
  · rfl
  · split <;> rfl

theorem flight_LoRaMacMulticastChannelLink (s₀ s : Mac) (group : MulticastParams_t) :
    (LoRaMacMulticastChannelLink s group).2.flight s₀ = s.flight s₀ := by
  unfold LoRaMacMulticastChannelLink
  split <;> rfl

theorem flight_LoRaMacMulticastChannelUnlink (s₀ s : Mac) (i : Nat) :
    (LoRaMacMulticastChannelUnlink s i).2.flight s₀ = s.flight s₀ := by
  unfold LoRaMacMulticastChannelUnlink
  split <;> rfl

/-- While a frame is on its way a request does nothing to it, unless it is made of the MLME or the
MIB. -/
theorem flight_request (s₀ : Mac) {s t : Mac} {r : Request} (h : request s r = some t)
    (hbusy : s.busy = true) : (∃ q, r = .mlme q) ∨ (∃ q, r = .mib q) ∨
      t.board.log = s.board.log ∧ t.flight s₀ = s.flight s₀ := by
  cases r with
  | mcps r =>
    obtain ⟨⟨status, u⟩, hmcps, rfl⟩ := Option.map_eq_some_iff.mp h
    rcases LoRaMacMcpsRequest_cases hmcps with ⟨-, -, rfl⟩ | ⟨⟨hrunning, hdelayed⟩, -⟩
    · exact .inr (.inr ⟨rfl, rfl⟩)
    · unfold Mac.busy at hbusy
      rw [hrunning, hdelayed] at hbusy
      cases hbusy
  | mlme r => exact .inl ⟨r, rfl⟩
  | mib r => exact .inr (.inl ⟨r, rfl⟩)
  | channelAdd id params =>
    cases h
    exact .inr (.inr ⟨(congrArg (·.board.log) (uncommanded_LoRaMacChannelAdd s id params) :),
      flight_LoRaMacChannelAdd s₀ s id params⟩)
  | channelRemove id =>
    cases h
    exact .inr (.inr ⟨(congrArg (·.board.log) (uncommanded_LoRaMacChannelRemove s id) :),
      flight_LoRaMacChannelRemove s₀ s id⟩)
  | multicastLink group =>
    cases h
    refine .inr (.inr ⟨?_, flight_LoRaMacMulticastChannelLink s₀ s group⟩)
    unfold LoRaMacMulticastChannelLink
    split <;> rfl
  | multicastUnlink i =>
    cases h
    refine .inr (.inr ⟨?_, flight_LoRaMacMulticastChannelUnlink s₀ s i⟩)
    unfold LoRaMacMulticastChannelUnlink
    split <;> rfl

/-- A link check is requested. It may find no room for its command. -/
theorem flight_linkCheck (s₀ : Mac) {s t : Mac} {status : LoRaMacStatus_t}
    (h : LoRaMacMlmeRequest s .LinkCheck = some (status, t)) : t.board.log = s.board.log ∧
    (t.flight s₀ = s.flight s₀ ∨ ∃ timedOut ackRequested, (s.timedOut = false → timedOut = false) ∧
      (s.NodeAckRequested = false → ackRequested = false) ∧ t.flight s₀ = { s.flight s₀ with
        joining := false, timedOut := timedOut, ackRequested := ackRequested }) := by
  have herror : LORAMAC_EVENT_INFO_STATUS_ERROR ≠ LORAMAC_EVENT_INFO_STATUS_TX_TIMEOUT := by decide
  unfold LoRaMacMlmeRequest at h
  split at h
  · cases h
    exact ⟨rfl, .inl rfl⟩
  · unfold AddMacCommand at h
    dsimp only at h
    split at h
    · cases h
      refine ⟨rfl, .inr ⟨_, _, fun hs => ?_, id, rfl⟩⟩
      exact timedOut_eq_false.mpr ⟨(timedOut_eq_false.mp hs).1, herror⟩
    · cases h
      refine ⟨rfl, .inr ⟨_, _, fun hs => ?_, fun _ => rfl, rfl⟩⟩
      exact timedOut_eq_false.mpr ⟨(timedOut_eq_false.mp hs).1, herror⟩

/-- A primitive of the upper layer is called, if there is a frame to indicate. -/
def Flight.indicated (f : Flight) : Flight :=
  { f with inside := if f.mcpsInd then some .MacMcpsIndication else f.inside }

theorem flight_indicate {s₀ s : Mac} (hlog : s₀.board.log <+: s.board.log) :
    (indicate s).flight s₀ = (s.flight s₀).indicated := by
  have hsent := (silent_indicate s).sentSince_eq hlog
  have hview : (indicate s).flight s₀ = { s.flight s₀ with
      sent := (sentSince s₀ (indicate s)).map (·.Datarate), inside := (indicate s).inside } := by
    unfold indicate
    split <;> rfl
  have hinside : (indicate s).inside = ((s.flight s₀).indicated).inside := by
    unfold indicate Flight.indicated
    split
    · next hind => exact (if_pos hind).symm
    · next hind => exact (if_neg hind).symm
  rw [hview, hsent, hinside]
  rfl

/-- While a frame is on its way the state check confirms nothing. -/
theorem flight_confirmRequests {s₀ s : Mac} (hlog : s₀.board.log <+: s.board.log)
    (hbusy : s.busy = true) : (confirmRequests s).flight s₀ = (s.flight s₀).indicated := by
  have hstate : s.LoRaMacState ≠ MAC_IDLE := by
    intro hidle
    unfold Mac.busy at hbusy
    rw [hidle] at hbusy
    cases hbusy
  unfold confirmRequests
  rw [if_neg hstate]
  exact flight_indicate hlog

/-- The end of the state check only calls a primitive, or clears `MacDone`. -/
theorem flight_confirmRequests_eq {s₀ s : Mac} (hlog : s₀.board.log <+: s.board.log) :
    ∃ inside macDone, (confirmRequests s).flight s₀ = { s.flight s₀ with
      inside := inside, macDone := macDone } := by
  have hview : ∃ inside macDone, (confirmRequests s).flight s₀ = { s.flight s₀ with
      sent := (sentSince s₀ (confirmRequests s)).map (·.Datarate)
      inside := inside
      macDone := macDone } := by
    unfold confirmRequests confirmMcps confirmMlme endConfirms indicate
    split
    · split
      · exact ⟨_, _, rfl⟩
      · split
        · exact ⟨_, _, rfl⟩
        · split <;> exact ⟨_, _, rfl⟩
    · split <;> exact ⟨_, _, rfl⟩
  rw [(silent_confirmRequests s).sentSince_eq hlog] at hview
  exact hview

theorem flight_return_MlmeConfirm {s₀ s : Mac} (hlog : s₀.board.log <+: s.board.log) :
    (returnFrom s .MacMlmeConfirm).flight s₀ = Flight.indicated { s.flight s₀ with
      inside := none, macDone := false, joining := false } :=
  flight_indicate (s := { s with
    inside := none, LoRaMacFlags := { s.LoRaMacFlags with MlmeReq := false, MacDone := false } }) hlog

theorem flight_return_McpsIndication (s₀ s : Mac) :
    (returnFrom s .MacMcpsIndication).flight s₀ = { s.flight s₀ with
      inside := none, mcpsInd := false } := rfl

/-- Without ADR the data rate of a frame stays as it is. -/
theorem flight_adaptDatarate (s₀ s : Mac) (adrEnabled : Bool) : ∃ datarate,
    (adaptDatarate s adrEnabled).2.flight s₀ = { s.flight s₀ with datarate := datarate } ∧
      (adrEnabled = false → datarate = s.LoRaMacParams.ChannelsDatarate) := by
  unfold adaptDatarate AdrNextDr
  dsimp only
  split
  · exact ⟨_, rfl, fun _ => rfl⟩
  · next hadr =>
    have hoff {datarate : Int} (h : adrEnabled = false) :
        datarate = s.LoRaMacParams.ChannelsDatarate := absurd h hadr
    split
    · exact ⟨_, rfl, hoff⟩
    · split
      · split
        · split <;> exact ⟨_, rfl, hoff⟩
        · split <;> exact ⟨_, rfl, hoff⟩
      · exact ⟨_, rfl, hoff⟩

theorem flight_buildDataFrame (s₀ s : Mac) (fCtrl : LoRaMacFrameCtrl_t) (fPort : UInt8)
    (fBuffer : Option Mem) (fBufferSize : UInt16) :
    (buildDataFrame s fCtrl fPort fBuffer fBufferSize).flight s₀ = s.flight s₀ := by
  have hcommands (s : Mac) (fCtrl : LoRaMacFrameCtrl_t) (payloadSize : UInt8) :
      (placeMacCommands s fCtrl fPort fBuffer payloadSize).2.flight s₀ = s.flight s₀ := by
    unfold placeMacCommands
    split
    · split <;> rfl
    · split <;> rfl
  have hpayload (s : Mac) (plan : FramePlan) : (placePayload s plan).2.flight s₀ = s.flight s₀ := by
    unfold placePayload
    split
    · rfl
    · split <;> rfl
  refine (hpayload _ _).trans ?_
  exact (hcommands _ _ _ :)

theorem flight_prepareData (s₀ : Mac) {s t : Mac} {fCtrl : LoRaMacFrameCtrl_t} {fPort : UInt8}
    {fBuffer : Option Mem} {fBufferSize : UInt16}
    (h : prepareData s fCtrl fPort fBuffer fBufferSize = (LORAMAC_STATUS_OK, t)) :
    s.IsLoRaMacNetworkJoined = true ∧ ∃ datarate,
      t.flight s₀ = { s.flight s₀ with datarate := datarate } := by
  obtain ⟨datarate, hadapt, -⟩ := flight_adaptDatarate s₀ s fCtrl.Adr
  unfold prepareData at h
  dsimp only at h
  split at h
  · cases h
  · next hjoined =>
    refine ⟨Bool.eq_true_of_not_eq_false hjoined, datarate, ?_⟩
    split at h
    · cases h
      rw [flight_buildDataFrame, hadapt]
    · cases h

/-- The flight of a data frame as `PrepareFrame` leaves it. -/
theorem flight_PrepareFrame (s₀ : Mac) {s t : Mac} {fCtrl : LoRaMacFrameCtrl_t} {fPort : UInt8}
    {fBuffer : Option Mem} {fBufferSize : UInt16} (confirmed : Bool)
    (h : PrepareFrame s (if confirmed then FRAME_TYPE_DATA_CONFIRMED_UP
      else FRAME_TYPE_DATA_UNCONFIRMED_UP) fCtrl fPort fBuffer fBufferSize =
        (LORAMAC_STATUS_OK, t)) :
    s.IsLoRaMacNetworkJoined = true ∧ ∃ datarate, t.flight s₀ = { s.flight s₀ with
      ackRequested := confirmed, datarate := datarate } := by
  cases confirmed with
  | true => exact flight_prepareData s₀ h
  | false => exact flight_prepareData s₀ h

/-- A data frame that `Send` builds is sent at once, or waits until a band is free. -/
theorem flight_Send {s₀ s t : Mac} {fPort : UInt8} {fBuffer : Option Mem} {fBufferSize : UInt16}
    (confirmed : Bool) (h : Send s (if confirmed then FRAME_TYPE_DATA_CONFIRMED_UP
      else FRAME_TYPE_DATA_UNCONFIRMED_UP) fPort fBuffer fBufferSize = some (LORAMAC_STATUS_OK, t))
    (hlog : s₀.board.log <+: s.board.log) :
    s.IsLoRaMacNetworkJoined = true ∧ s.MaxDCycle ≠ 255 ∧ s₀.board.log <+: t.board.log ∧
      ∃ f, f = { s.flight s₀ with ackRequested := confirmed, ackReceived := false } ∧
        (t.flight s₀ = f.send t.LoRaMacParams.ChannelsDatarate ∨
          t.flight s₀ = f.wait t.LoRaMacParams.ChannelsDatarate) := by
  obtain ⟨status, u, hprepare, ⟨hne, hstatus, -⟩ | ⟨rfl, hschedule⟩⟩ := Send_cases h
  · exact absurd hstatus.symm hne
  · obtain ⟨hjoined, datarate, hflight⟩ := flight_PrepareFrame s₀ confirmed hprepare
    have hview := unprepared_PrepareFrame s (if confirmed then FRAME_TYPE_DATA_CONFIRMED_UP
      else FRAME_TYPE_DATA_UNCONFIRMED_UP) ⟨0, false, false, false, s.AdrCtrlOn⟩ fPort fBuffer
      fBufferSize
    rw [hprepare] at hview
    have hulog : u.board.log = s.board.log := (congrArg (·.board.log) hview :)
    have hon : u.MaxDCycle = s.MaxDCycle := (congrArg Mac.MaxDCycle hview :)
    have hduty : u.MaxDCycle ≠ 255 := by
      rcases ScheduleTx_cases hschedule with ⟨-, hoff, -⟩ | ⟨hduty, -⟩
      · cases hoff
      · exact hduty
    obtain ⟨htlog, hout⟩ := flight_ScheduleTx hschedule hduty (hulog ▸ hlog)
    refine ⟨hjoined, hon ▸ hduty, htlog, _, rfl, ?_⟩
    have hbuilt : ({ u with McpsConfirm := { u.McpsConfirm with
          NbRetries := 0, AckReceived := false, UpLinkCounter := u.UpLinkCounter } } : Mac).flight s₀ =
        { u.flight s₀ with ackReceived := false } := rfl
    rw [hbuilt, hflight] at hout
    exact hout

theorem flight_sendRequest {s₀ s t : Mac} {type : Mcps_t} {fPort : UInt8} {fBuffer : Option Mem}
    {fBufferSize : UInt16} {datarate : Int} (confirmed : Bool)
    (h : sendRequest s type (if confirmed then FRAME_TYPE_DATA_CONFIRMED_UP
      else FRAME_TYPE_DATA_UNCONFIRMED_UP) fPort fBuffer fBufferSize datarate =
        some (LORAMAC_STATUS_OK, t))
    (hlog : s₀.board.log <+: s.board.log) :
    s.IsLoRaMacNetworkJoined = true ∧ s.MaxDCycle ≠ 255 ∧ s₀.board.log <+: t.board.log ∧
      ∃ f, f = { s.flight s₀ with
          ackRequested := confirmed, ackReceived := false, mcpsReq := true } ∧
        (t.flight s₀ = f.send t.LoRaMacParams.ChannelsDatarate ∨
          t.flight s₀ = f.wait t.LoRaMacParams.ChannelsDatarate) := by
  rcases sendRequest_cases h with ⟨⟨hne, -⟩, -⟩ | ⟨-, v, status, hsend, ⟨rfl, -, rfl⟩ | ⟨hne, hstatus,
    -⟩⟩
  · exact absurd rfl hne
  · obtain ⟨hjoined, hon, hvlog, f, hf, hout⟩ := flight_Send confirmed hsend hlog
    have hsilent : Silent v (v.record .Accepted) := .of_record rfl rfl
    refine ⟨hjoined, hon, hsilent.prefix_log hvlog, _, rfl, ?_⟩
    have hview : ({ v.record .Accepted with
        McpsConfirm := { v.McpsConfirm with McpsRequest := type }
        LoRaMacFlags := { v.LoRaMacFlags with McpsReq := true } } : Mac).flight s₀ =
        { v.flight s₀ with
          sent := (sentSince s₀ (v.record .Accepted)).map (·.Datarate), mcpsReq := true } := rfl
    rw [hview, hsilent.sentSince_eq hvlog]
    subst hf
    rcases hout with hout | hout
    · exact .inl (congrArg (fun f : Flight => { f with mcpsReq := true }) hout :)
    · exact .inr (congrArg (fun f : Flight => { f with mcpsReq := true }) hout :)
  · exact absurd hstatus.symm hne

theorem sentSince_self (s : Mac) : sentSince s s = [] := by
  unfold sentSince
  rw [List.drop_length, List.filterMap_nil]

/-- The flight of a frame when its request is accepted. -/
def Mac.takeOff (s : Mac) (confirmed : Bool) (trial trials : UInt8) : Flight :=
  { s.flight s with
    sent := []
    ackRequested := confirmed
    ackReceived := false
    mcpsReq := true
    trial := trial
    trials := trials
    timedOut := s.MlmeConfirm.Status = LORAMAC_EVENT_INFO_STATUS_TX_TIMEOUT }

/-- A request for an unconfirmed frame is accepted: the frame is sent, or it waits until a band is
free. -/
theorem flight_unconfirmed {s t : Mac} {fPort : UInt8} {fBuffer : Option Mem} {fBufferSize : UInt16}
    {Datarate : Int} (h : LoRaMacMcpsRequest s (.Unconfirmed fPort fBuffer fBufferSize Datarate) =
      some (LORAMAC_STATUS_OK, t)) :
    s.busy = false ∧ s.MaxDCycle ≠ 255 ∧ s.board.log <+: t.board.log ∧
      ∃ f, f = s.takeOff false s.AckTimeoutRetriesCounter 1 ∧
        (t.flight s = f.send t.LoRaMacParams.ChannelsDatarate ∨
          t.flight s = f.wait t.LoRaMacParams.ChannelsDatarate) := by
  unfold LoRaMacMcpsRequest at h
  split at h
  · cases h
  · next hbusy =>
    obtain ⟨-, hon, hlog, f, hf, hout⟩ := flight_sendRequest false h (List.prefix_refl s.board.log)
    have htakeOff : f = { s.takeOff false s.AckTimeoutRetriesCounter 1 with
        sent := (sentSince s s).map (·.Datarate) } := hf
    rw [sentSince_self] at htakeOff
    exact ⟨busy_eq_false.mpr hbusy, hon, hlog, f, htakeOff, hout⟩

/-- A request for a confirmed frame is accepted. -/
theorem flight_confirmed {s t : Mac} {fPort : UInt8} {fBuffer : Option Mem} {fBufferSize : UInt16}
    {Datarate : Int} {NbTrials : UInt8}
    (h : LoRaMacMcpsRequest s (.Confirmed fPort fBuffer fBufferSize Datarate NbTrials) =
      some (LORAMAC_STATUS_OK, t)) :
    s.busy = false ∧ s.IsLoRaMacNetworkJoined = true ∧ s.MaxDCycle ≠ 255 ∧
      s.board.log <+: t.board.log ∧ ∃ f, f = s.takeOff true 1 NbTrials ∧
        (t.flight s = f.send t.LoRaMacParams.ChannelsDatarate ∨
          t.flight s = f.wait t.LoRaMacParams.ChannelsDatarate) := by
  unfold LoRaMacMcpsRequest at h
  split at h
  · cases h
  · next hbusy =>
    obtain ⟨hjoined, hon, hlog, f, hf, hout⟩ :=
      flight_sendRequest true h (List.prefix_refl s.board.log)
    have htakeOff : f = { s.takeOff true 1 NbTrials with
        sent := (sentSince s s).map (·.Datarate) } := hf
    rw [sentSince_self] at htakeOff
    exact ⟨busy_eq_false.mpr hbusy, hjoined, hon, hlog, f, htakeOff, hout⟩

/-- A run behind an accepted request is found by computing it. -/
theorem exists_run_of_accepted (allowed : Mac → Event → Prop) [∀ s e, Decidable (allowed s e)]
    (s : Mac) (r : McpsReq_t) (es : List Event) (p : Mac → Bool)
    (h : (LoRaMacMcpsRequest s r).any (fun x => decide (x.1 = LORAMAC_STATUS_OK) &&
      (transition.after step allowed x.2 es).any p) = true) :
    ∃ t u, LoRaMacMcpsRequest s r = some (LORAMAC_STATUS_OK, t) ∧ Runs allowed t es u ∧
      p u = true := by
  cases hrequest : LoRaMacMcpsRequest s r with
  | none =>
    rw [hrequest] at h
    cases h
  | some x =>
    obtain ⟨status, t⟩ := x
    rw [hrequest, Option.any_some, Bool.and_eq_true, decide_eq_true_eq] at h
    obtain ⟨rfl, hafter⟩ := h
    obtain ⟨u, hrun, hu⟩ := transition.Run.of_after step allowed t es p hafter
    exact ⟨t, u, rfl, hrun, hu⟩

end loranode.mac
