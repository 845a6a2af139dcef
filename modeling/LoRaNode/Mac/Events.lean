import LoRaNode.Lib.Transition
import LoRaNode.Mac.Requests

namespace loranode.mac

open LoRaMacStatus_t LoRaMacFrameType_t LoRaMacEventInfoStatus_t

/-- `UpLinkCounter++`, unless the counter is fixed. -/
def countUplink (s : Mac) : UInt32 :=
  if s.IsUpLinkCounterFixed then s.UpLinkCounter else s.UpLinkCounter + 1

def setTxRunning (s : Mac) (on : Bool) : Mac :=
  { s with LoRaMacState := { s.LoRaMacState with MAC_TX_RUNNING := on } }

/-- A refused frame ends the transmission. -/
def checkRxAbort (s : Mac) : Mac :=
  if s.LoRaMacState.MAC_RX_ABORT then
    { s with
      LoRaMacState := { s.LoRaMacState with MAC_RX_ABORT := false, MAC_TX_RUNNING := false } }
  else s

/-- The transmission has timed out. -/
def txTimeout (s : Mac) : Bool :=
  (s.LoRaMacFlags.MlmeReq || s.LoRaMacFlags.McpsReq) &&
    (s.McpsConfirm.Status = LORAMAC_EVENT_INFO_STATUS_TX_TIMEOUT ||
      s.MlmeConfirm.Status = LORAMAC_EVENT_INFO_STATUS_TX_TIMEOUT)

/-- A transmission that has timed out is given up. -/
def checkTxTimeout (s : Mac) : Mac :=
  if txTimeout s then
    { setTxRunning s false with
      McpsConfirm := { s.McpsConfirm with
        NbRetries := s.AckTimeoutRetriesCounter, AckReceived := false, TxTimeOnAir := 0 } }
  else s

/-- A join request is repeated until it is answered. -/
def checkJoin (s : Mac) : Mac :=
  if s.LoRaMacFlags.MlmeReq = true ∧ s.MlmeConfirm.MlmeRequest = .MLME_JOIN then
    if s.MlmeConfirm.Status = LORAMAC_EVENT_INFO_STATUS_OK then
      { s with ChannelsNbRepCounter := s.LoRaMacParams.ChannelsNbRep, UpLinkCounter := 0 }
    else { s with ChannelsNbRepCounter := 0 }
  else s

/-- A frame without acknowledgement is done with, or sent again. -/
def checkRepetition (s : Mac) : Option Mac :=
  let s := checkJoin s
  if s.LoRaMacFlags.MlmeReq || s.LoRaMacFlags.McpsReq then
    if s.LoRaMacParams.ChannelsNbRep ≤ s.ChannelsNbRepCounter ∨ s.LoRaMacFlags.McpsInd = true then
      some { setTxRunning s false with
        ChannelsNbRepCounter := 0
        AdrAckCounter := s.AdrAckCounter + 1
        UpLinkCounter := countUplink s }
    else
      (ScheduleTx { s with LoRaMacFlags := { s.LoRaMacFlags with MacDone := false } }).map Prod.snd
  else some s

/-- A received frame ends the wait for an acknowledgement. -/
def acknowledged (s : Mac) : Bool :=
  s.LoRaMacFlags.McpsInd &&
    (s.McpsConfirm.AckReceived || s.AckTimeoutRetries < s.AckTimeoutRetriesCounter)

def checkAck (s : Mac) : Mac :=
  if acknowledged s then
    { setTxRunning s false with
      AckTimeoutRetry := false
      NodeAckRequested := false
      UpLinkCounter := countUplink s
      McpsConfirm := { s.McpsConfirm with NbRetries := s.AckTimeoutRetriesCounter } }
  else s

/-- There are trials left to get a frame acknowledged. -/
def trialsLeft (s : Mac) : Bool :=
  s.AckTimeoutRetriesCounter < s.AckTimeoutRetries && s.AckTimeoutRetriesCounter ≤ MAX_ACK_RETRIES

/-- The next trial. Every second one is made at a lower data rate. -/
def nextTrial (s : Mac) : Mac :=
  let counter := s.AckTimeoutRetriesCounter + 1
  { s with
    AckTimeoutRetriesCounter := counter
    LoRaMacParams :=
      if counter % 2 = 1 then
        { s.LoRaMacParams with
          ChannelsDatarate := max (s.LoRaMacParams.ChannelsDatarate - 1) LORAMAC_TX_MIN_DATARATE }
      else s.LoRaMacParams
    LoRaMacFlags := { s.LoRaMacFlags with MacDone := false } }

/-- The frame stays without acknowledgement. -/
def giveUpTrials (s : Mac) : Mac :=
  { setTxRunning s false with
    LoRaMacParams := enableDefaultChannels s.LoRaMacParams
    NodeAckRequested := false
    McpsConfirm := { s.McpsConfirm with
      AckReceived := false, NbRetries := s.AckTimeoutRetriesCounter }
    UpLinkCounter := countUplink s }

def checkAckTimeout (s : Mac) : Option Mac :=
  if s.AckTimeoutRetry = true ∧ s.LoRaMacState.MAC_TX_DELAYED = false then
    let s := { s with AckTimeoutRetry := false }
    if trialsLeft s then (ScheduleTx (nextTrial s)).map Prod.snd else some (giveUpTrials s)
  else some s

/-- What the state check does once `MacDone` is set. -/
def completeCycle (s : Mac) : Option Mac :=
  let s := checkRxAbort s
  let timedOut := txTimeout s
  let s := checkTxTimeout s
  (if s.NodeAckRequested = false ∧ timedOut = false then checkRepetition s else some s).bind
    fun s => checkAckTimeout (checkAck s)

/-- `MacMcpsIndication`, with the bytes that the indication points to. -/
def indicate (s : Mac) : Mac :=
  if s.LoRaMacFlags.McpsInd then
    let bytes :=
      if s.McpsIndication.hasBuffer then
        s.LoRaMacRxPayload.read 0 s.McpsIndication.BufferSize.toNat
      else []
    { s.record (.MacMcpsIndication s.McpsIndication bytes) with
      inside := some .MacMcpsIndication }
  else s

/-- The state check behind the confirms. -/
def endConfirms (s : Mac) : Mac :=
  indicate { s with LoRaMacFlags := { s.LoRaMacFlags with MacDone := false } }

/-- `MacMlmeConfirm`, if there is a request to confirm. -/
def confirmMlme (s : Mac) : Mac :=
  if s.LoRaMacFlags.MlmeReq then
    { s.record (.MacMlmeConfirm s.MlmeConfirm) with inside := some .MacMlmeConfirm }
  else endConfirms s

/-- `MacMcpsConfirm`, if there is a request to confirm. -/
def confirmMcps (s : Mac) : Mac :=
  if s.LoRaMacFlags.McpsReq then
    { s.record (.MacMcpsConfirm s.McpsConfirm) with inside := some .MacMcpsConfirm }
  else confirmMlme s

/-- The requests are confirmed when the MAC is idle; else the check is to run again. -/
def confirmRequests (s : Mac) : Mac :=
  if s.LoRaMacState = MAC_IDLE then confirmMcps s
  else indicate { s with
    MacStateCheckTimer :=
      TimerStart (TimerSetValue s.MacStateCheckTimer MAC_STATE_CHECK_TIMEOUT) }

/-- `OnMacStateCheckTimerEvent` up to the first primitive of the upper layer that it calls. -/
def OnMacStateCheckTimerEvent (s : Mac) : Option Mac :=
  let s := { s with MacStateCheckTimer := TimerStop s.MacStateCheckTimer }
  (if s.LoRaMacFlags.MacDone then completeCycle s else some s).map fun s =>
    confirmRequests { s with LoRaMacState := { s.LoRaMacState with MAC_RX := false } }

/-- The rest of `OnMacStateCheckTimerEvent` once a primitive has returned, again up to the
next one. -/
def returnFrom (s : Mac) : Primitive → Mac
  | .MacMcpsConfirm => confirmMlme { s with
      inside := none, LoRaMacFlags := { s.LoRaMacFlags with McpsReq := false } }
  | .MacMlmeConfirm => endConfirms { s with
      inside := none, LoRaMacFlags := { s.LoRaMacFlags with MlmeReq := false } }
  | .MacMcpsIndication => { s with
      inside := none, LoRaMacFlags := { s.LoRaMacFlags with McpsInd := false } }

def OnTxDelayedTimerEvent (s : Mac) : Option Mac :=
  let s := { s with
    TxDelayedTimer := TimerStop s.TxDelayedTimer
    LoRaMacState := { s.LoRaMacState with MAC_TX_DELAYED := false } }
  let s :=
    -- the server remembers the nonces of join requests, so that one is built again
    if s.LoRaMacFlags.MlmeReq = true ∧ s.MlmeConfirm.MlmeRequest = .MLME_JOIN then
      (PrepareFrame s FRAME_TYPE_JOIN_REQ ⟨0, false, false, false, s.AdrCtrlOn⟩ 0 none 0).2
    else s
  (ScheduleTx s).map Prod.snd

/-- The callbacks of the radio. `rxContinuous` tells whether it goes on receiving. -/
inductive RadioEvent where
  | TxDone
  | TxTimeout
  | RxDone (frame : RxFrame) (rssi snr : Int) (rxContinuous : Bool)
  | RxError (rxContinuous : Bool)
  | RxTimeout (rxContinuous : Bool)

/-- What can happen next: a request, the return of a primitive, a callback of the radio, or
the end of a timer. -/
inductive Event where
  | request (r : Request)
  | upperReturn
  | radio (e : RadioEvent)
  | macStateCheckTimer
  | txDelayedTimer
  | rxWindowTimer1
  | rxWindowTimer2
  | ackTimeoutTimer

def Mac.setStatus (s : Mac) (status : RadioState_t) : Mac :=
  { s with board := { s.board with status := status } }

/-- The interrupt of the radio before it calls back: it leaves `state`, which the event
belongs to, for `next`. -/
def radioIrq (s : Mac) (state next : RadioState_t) : Option Mac :=
  if s.board.status = state then some (s.setStatus next) else none

theorem radioIrq_eq_some {s t : Mac} {state next : RadioState_t} :
    radioIrq s state next = some t ↔ s.board.status = state ∧ t = s.setStatus next := by
  unfold radioIrq
  split
  · next hstate => simp [hstate, eq_comm]
  · next hstate => simp [hstate]

/-- The state of the radio after a reception. -/
def rxStatus (rxContinuous : Bool) : RadioState_t :=
  if rxContinuous then .RF_RX_RUNNING else .RF_IDLE

/-- The end of a transmission is the time that `OnRadioTxDone` reads first. -/
def onRadio (s : Mac) : RadioEvent → Option Mac
  | .TxDone => (radioIrq s .RF_TX_RUNNING .RF_IDLE).map fun s =>
    OnRadioTxDone (s.record (.TxDone (s.env.clock s.board.reads)))
  | .TxTimeout => (radioIrq s .RF_TX_RUNNING .RF_IDLE).map fun s =>
    OnRadioTxTimeout (s.record .TxTimeout)
  | .RxDone frame rssi snr rxContinuous =>
    (radioIrq s .RF_RX_RUNNING (rxStatus rxContinuous)).bind (OnRadioRxDone · frame rssi snr)
  | .RxError rxContinuous =>
    (radioIrq s .RF_RX_RUNNING (rxStatus rxContinuous)).map OnRadioRxError
  | .RxTimeout rxContinuous =>
    (radioIrq s .RF_RX_RUNNING (rxStatus rxContinuous)).map OnRadioRxTimeout

/-- The end of a timer, or nothing if that is not queued. -/
def onTimer (timer : TimerEvent_t) (handler : Option Mac) : Option Mac :=
  if timer.queued then handler else none

/-- What happens while no primitive is running. -/
def handle (s : Mac) : Event → Option Mac
  | .request _ | .upperReturn => none
  | .radio e => onRadio s e
  | .macStateCheckTimer => onTimer s.MacStateCheckTimer (OnMacStateCheckTimerEvent s)
  | .txDelayedTimer => onTimer s.TxDelayedTimer (OnTxDelayedTimerEvent s)
  | .rxWindowTimer1 => onTimer s.RxWindowTimer1 (some (OnRxWindow1TimerEvent s))
  | .rxWindowTimer2 => onTimer s.RxWindowTimer2 (some (OnRxWindow2TimerEvent s))
  | .ackTimeoutTimer => onTimer s.AckTimeoutTimer (some (OnAckTimeoutTimerEvent s))

/-- One step of the MAC. The upper layer can make requests at any time, also from inside a
primitive, which returns before anything else happens. There is no step for a timer that is
not queued, for a callback that the radio does not make in its state, and for a call that
does not return. -/
def step (s : Mac) (e : Event) : Option Mac :=
  match e, s.inside with
  | .request r, _ => request s r
  | .upperReturn, some p => some (returnFrom s p)
  | e, none => handle s e
  | _, some _ => none

/-- The number of clock readings that have been taken when the event is over. -/
def Mac.readsAfter (s : Mac) (e : Event) : Nat := (step s e).elim s.board.reads (·.board.reads)

theorem readsAfter_eq {s t : Mac} {e : Event} (h : step s e = some t) :
    s.readsAfter e = t.board.reads := by
  unfold Mac.readsAfter
  rw [h]
  rfl

theorem onTimer_eq_some {timer : TimerEvent_t} {handler : Option Mac} {t : Mac} :
    onTimer timer handler = some t ↔ timer.queued = true ∧ handler = some t := by
  unfold onTimer
  split
  · next hqueued => simp [hqueued]
  · next hqueued => simp [hqueued]

theorem step_cases {s t : Mac} {e : Event} (h : step s e = some t) :
    (∃ r, e = .request r ∧ request s r = some t) ∨
      (∃ p, e = .upperReturn ∧ s.inside = some p ∧ t = returnFrom s p) ∨
      s.inside = none ∧ handle s e = some t := by
  unfold step at h
  split at h
  · exact .inl ⟨_, rfl, h⟩
  · next hinside =>
    cases h
    exact .inr (.inl ⟨_, rfl, hinside, rfl⟩)
  · next hinside => exact .inr (.inr ⟨hinside, h⟩)
  · cases h

/-- A run of the MAC from `s` to `t`: every event meets `allowed` in the state that it finds. -/
abbrev Runs (allowed : Mac → Event → Prop) (s : Mac) (es : List Event) (t : Mac) : Prop :=
  transition.Run (fun s e t => step s e = some t) allowed s es t

/-- `LoRaMacParamsDefaults` as `LoRaMacInitialization` leaves it. -/
def defaultParams : LoRaMacParams_t where
  ChannelsTxPower := 1
  ChannelsDatarate := 5
  MaxRxWindow := 3000
  ReceiveDelay1 := 1000
  ReceiveDelay2 := 2000
  JoinAcceptDelay1 := 5000
  JoinAcceptDelay2 := 6000
  ChannelsNbRep := 1
  Rx1DrOffset := 0
  Rx2Channel := ⟨869525000, 0⟩
  ChannelsMask := defaultChannels

/-- The table `Channels` at the start: `LC1`, `LC2` and `LC3`. -/
def defaultChannelTable : Nat → ChannelParams_t
  | 0 => ⟨868100000, 0x50, 1⟩
  | 1 => ⟨868300000, 0x50, 1⟩
  | 2 => ⟨868500000, 0x50, 1⟩
  | _ => ⟨0, 0, 0⟩

/-- The table `Bands` at the start. -/
def defaultBands : Nat → Band_t
  | 2 => ⟨1000, 0, 0⟩
  | 3 => ⟨10, 0, 0⟩
  | _ => ⟨100, 0, 0⟩

/-- The MAC after `LoRaMacInitialization`. The pointers to the two EUIs and to the application key,
which are `NULL` until a join is requested, are empty lists. -/
def Mac.boot (env : Env) : Mac where
  env := env
  board := ⟨.RF_IDLE, 0, 0, 0, 0, [], [], [], []⟩
  inside := none
  LoRaMacDevEui := []
  LoRaMacAppEui := []
  LoRaMacAppKey := []
  LoRaMacNwkSKey := List.replicate 16 0
  LoRaMacAppSKey := List.replicate 16 0
  LoRaMacDevNonce := 0
  LoRaMacNetID := 0
  LoRaMacDevAddr := 0
  MulticastChannels := []
  LoRaMacDeviceClass := .CLASS_A
  RepeaterSupport := false
  LoRaMacBuffer := fun _ => 0
  LoRaMacBufferPktLen := 0
  PreparedFrame := none
  LoRaMacPayload := fun _ => 0
  LoRaMacRxPayload := fun _ => 0
  strayBytes := fun _ => 0
  UpLinkCounter := 1
  DownLinkCounter := 0
  IsUpLinkCounterFixed := false
  IsRxWindowsEnabled := true
  IsLoRaMacNetworkJoined := false
  AdrCtrlOn := false
  AdrAckCounter := 0
  NodeAckRequested := false
  SrvAckRequested := false
  MacCommandsInNextTx := false
  MacCommandsBufferIndex := 0
  MacCommandsBufferToRepeatIndex := 0
  MacCommandsBuffer := fun _ => 0
  MacCommandsBufferToRepeat := fun _ => 0
  Bands := defaultBands
  Channels := defaultChannelTable
  LoRaMacParams := defaultParams
  LoRaMacParamsDefaults := defaultParams
  ChannelsNbRepCounter := 0
  MaxDCycle := 0
  AggregatedDCycle := 1
  AggregatedLastTxDoneTime := 0
  AggregatedTimeOff := 0
  DutyCycleOn := true
  Channel := UInt8.ofNat LORA_MAX_NB_CHANNELS
  LastTxChannel := 0
  LoRaMacState := MAC_IDLE
  MacStateCheckTimer := ⟨MAC_STATE_CHECK_TIMEOUT, false⟩
  TxDelayedTimer := ⟨0, false⟩
  RxWindowTimer1 := ⟨0, false⟩
  RxWindowTimer2 := ⟨0, false⟩
  RxWindow1Delay := 0
  RxWindow2Delay := 0
  AckTimeoutTimer := ⟨0, false⟩
  AckTimeoutRetries := 1
  AckTimeoutRetriesCounter := 1
  AckTimeoutRetry := false
  TxTimeOnAir := 0
  JoinRequestTrials := 0
  McpsIndication := ⟨.MCPS_UNCONFIRMED, LORAMAC_EVENT_INFO_STATUS_OK, false, 0, 0, false, false, 0,
    false, 0, 0, 0, false, 0⟩
  McpsConfirm := ⟨.MCPS_UNCONFIRMED, LORAMAC_EVENT_INFO_STATUS_OK, 0, 0, false, 0, 0, 0⟩
  MlmeConfirm := ⟨.MLME_JOIN, LORAMAC_EVENT_INFO_STATUS_OK, 0, 0, 0⟩
  RxSlot := 0
  LoRaMacFlags := ⟨false, false, false, false⟩

/-- A board with a cipher and a MIC that are 0, a clock that stands at 1, frames that take
50 ms, and a radio for every frequency. -/
def Env.plain : Env where
  aes_encrypt := fun _ _ _ => 0
  LoRaMacComputeMic := fun _ _ _ _ _ => 0
  LoRaMacJoinComputeMic := fun _ _ => 0
  CheckRfFrequency := fun _ => true
  TimeOnAir := fun _ _ => 50
  Random := fun _ => 0
  rand := fun _ => 0
  clock := fun _ => 1
  GetBatteryLevel := none

/-- A board whose clock is read every 100 s. -/
def Env.slow : Env := { Env.plain with clock := fun reads => UInt32.ofNat (100000 * (reads + 1)) }

/-- A frame with these bytes, in memory that is 0 elsewhere. -/
def RxFrame.ofBytes (bytes : List UInt8) : RxFrame :=
  ⟨fun i => bytes.getD i 0, fun _ => 0, UInt8.ofNat bytes.length⟩

/-- A frame for another node, whose address is 2. -/
def foreignFrame : RxFrame := .ofBytes [0x60, 2, 0, 0, 0, 0, 0, 0, 0, 0, 0, 0]

/-- A node with a session, as activation by personalisation leaves it: its address is 1. -/
def Mac.personalised (env : Env) : Mac :=
  { Mac.boot env with IsLoRaMacNetworkJoined := true, LoRaMacDevAddr := 1 }

end loranode.mac
