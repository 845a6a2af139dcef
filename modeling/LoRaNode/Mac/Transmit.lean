import LoRaNode.Mac.Commands

namespace loranode.mac

open LoRaMacStatus_t LoRaMacFrameType_t

/-- Re-enables the default channels `LC1`, `LC2` and `LC3`. -/
def enableDefaultChannels (p : LoRaMacParams_t) : LoRaMacParams_t :=
  { p with ChannelsMask := p.ChannelsMask ||| defaultChannels }

/-- `AdrNextDr`: the request for an acknowledgement, and the next data rate. -/
def AdrNextDr (s : Mac) (adrEnabled updateChannelMask : Bool) : Bool × Int × Mac :=
  let datarate := s.LoRaMacParams.ChannelsDatarate
  if adrEnabled = false then (false, datarate, s)
  else if datarate = LORAMAC_TX_MIN_DATARATE then (false, datarate, { s with AdrAckCounter := 0 })
  else
    let adrAckReq : Bool := ADR_ACK_LIMIT ≤ s.AdrAckCounter
    if ADR_ACK_LIMIT + ADR_ACK_DELAY ≤ s.AdrAckCounter ∧ s.AdrAckCounter % ADR_ACK_DELAY = 0 then
      let datarate := if LORAMAC_TX_MIN_DATARATE < datarate then datarate - 1 else datarate
      if datarate = LORAMAC_TX_MIN_DATARATE ∧ updateChannelMask = true then
        (adrAckReq, datarate, { s with LoRaMacParams := enableDefaultChannels s.LoRaMacParams })
      else (adrAckReq, datarate, s)
    else (adrAckReq, datarate, s)

/-- The table of the largest payloads that is in force. -/
def maxPayloads (s : Mac) : List Nat :=
  if s.RepeaterSupport then MaxPayloadOfDatarateRepeater else MaxPayloadOfDatarate

/-- The largest payload at a data rate. -/
def maxPayload (s : Mac) (datarate : Int) : Nat := (maxPayloads s).getD datarate.toNat 0

def ValidatePayloadLength (s : Mac) (lenN : UInt8) (datarate : Int) (fOptsLen : UInt8) : Bool :=
  let payloadSize := lenN.toNat + fOptsLen.toNat
  payloadSize ≤ maxPayload s datarate && payloadSize ≤ LORAMAC_PHY_MAXPAYLOAD

/-- A join request in `LoRaMacBuffer`. -/
def prepareJoinRequest (s : Mac) : Mac :=
  let (random, s) := Radio_Random s
  let DevNonce := random.toUInt16
  let bytes := [FRAME_TYPE_JOIN_REQ.header] ++ (s.LoRaMacAppEui.take 8).reverse ++
    (s.LoRaMacDevEui.take 8).reverse ++ bytes16 DevNonce
  let frame := bytes ++ bytes32 (s.env.LoRaMacJoinComputeMic bytes s.LoRaMacAppKey)
  { s with
    RxWindow1Delay := s.LoRaMacParams.JoinAcceptDelay1 - RADIO_WAKEUP_TIME
    RxWindow2Delay := s.LoRaMacParams.JoinAcceptDelay2 - RADIO_WAKEUP_TIME
    LoRaMacDevNonce := DevNonce
    LoRaMacBuffer := s.LoRaMacBuffer.write 0 frame
    LoRaMacBufferPktLen := frame.length }

/-- The MAC commands that go into a frame: those to repeat are put behind the new ones. -/
def collectMacCommands (s : Mac) : Mac :=
  { s.access (List.range' s.MacCommandsBufferIndex.toNat s.MacCommandsBufferToRepeatIndex.toNat ++
      List.range s.MacCommandsBufferToRepeatIndex.toNat) with
    MacCommandsBuffer := s.MacCommandsBuffer.write s.MacCommandsBufferIndex.toNat
      (s.MacCommandsBufferToRepeat.read 0 s.MacCommandsBufferToRepeatIndex.toNat)
    MacCommandsBufferIndex := s.MacCommandsBufferIndex + s.MacCommandsBufferToRepeatIndex }

/-- What `PrepareFrame` does with the MAC commands once they are in the frame. -/
def retireMacCommands (s : Mac) : Mac :=
  let (index, toRepeat, accesses) := ParseMacCommandsToRepeat s.MacCommandsBuffer
    s.MacCommandsBufferIndex s.MacCommandsBufferToRepeat
  { s.access accesses with
    MacCommandsBufferToRepeat := toRepeat
    MacCommandsBufferToRepeatIndex := index
    MacCommandsInNextTx := 0 < index
    MacCommandsBufferIndex := 0 }

/-- Where `PrepareFrame` stands before the payload: the length of the header, the payload
to encrypt, its size and its port. -/
structure FramePlan where
  pktHeaderLen : Nat
  payload : Option Mem
  payloadSize : UInt8
  framePort : UInt8

/-- The MAC commands go into the field `FOpts` next to a payload, and are the payload
where there is none. -/
def placeMacCommands (s : Mac) (fCtrl : LoRaMacFrameCtrl_t) (fPort : UInt8) (fBuffer : Option Mem)
    (payloadSize : UInt8) : FramePlan × Mac :=
  if fBuffer.isSome = true ∧ 0 < payloadSize then
    if s.MacCommandsBufferIndex.toNat ≤ LORA_MAC_COMMAND_MAX_LENGTH ∧
        s.MacCommandsInNextTx = true then
      let fCtrl := { fCtrl with
        FOptsLen := (fCtrl.FOptsLen + s.MacCommandsBufferIndex.toNat) % 16 }
      let fOpts := s.MacCommandsBuffer.read 0 s.MacCommandsBufferIndex.toNat
      (⟨8 + fOpts.length, fBuffer, payloadSize, fPort⟩, {
        s.access (List.range s.MacCommandsBufferIndex.toNat) with
        LoRaMacBuffer := (s.LoRaMacBuffer.write 5 [fCtrl.Value]).write 8 fOpts })
    else (⟨8, fBuffer, payloadSize, fPort⟩, s)
  else if 0 < s.MacCommandsBufferIndex ∧ s.MacCommandsInNextTx = true then
    (⟨8, some s.MacCommandsBuffer, s.MacCommandsBufferIndex, 0⟩,
      s.access (List.range s.MacCommandsBufferIndex.toNat))
  else (⟨8, fBuffer, payloadSize, fPort⟩, s)

/-- The port and the encrypted payload. -/
def placePayload (s : Mac) (plan : FramePlan) : Nat × Mac :=
  match plan.payload with
  | none => (plan.pktHeaderLen, s)
  | some payload =>
    if 0 < plan.payloadSize then
      let key := if plan.framePort = 0 then s.LoRaMacNwkSKey else s.LoRaMacAppSKey
      let encrypted := LoRaMacPayloadEncrypt s.env payload plan.payloadSize.toNat key
        s.LoRaMacDevAddr UP_LINK s.UpLinkCounter s.LoRaMacPayload
      (plan.pktHeaderLen + 1, { s with
        LoRaMacPayload := encrypted
        LoRaMacBuffer := (s.LoRaMacBuffer.write plan.pktHeaderLen [plan.framePort]).write
          (plan.pktHeaderLen + 1) (encrypted.read 0 plan.payloadSize.toNat) })
    else (plan.pktHeaderLen, s)

/-- The MIC, behind `length` bytes of the frame. `LoRaMacComputeMic` cuts the length of what
it covers to 8 bits. -/
def placeMic (s : Mac) (length : Nat) (fBufferSize : Option UInt16) : Mac :=
  let mic := s.env.LoRaMacComputeMic (s.LoRaMacBuffer.read 0 (length % 256)) s.LoRaMacNwkSKey
    s.LoRaMacDevAddr UP_LINK s.UpLinkCounter
  { s with
    LoRaMacBuffer := s.LoRaMacBuffer.write length (bytes32 mic)
    LoRaMacBufferPktLen := length + LORAMAC_MFR_LEN
    PreparedFrame := some ⟨s.UpLinkCounter, fBufferSize⟩ }

/-- The data frame, once its length has been accepted. -/
def buildDataFrame (s : Mac) (fCtrl : LoRaMacFrameCtrl_t) (fPort : UInt8) (fBuffer : Option Mem)
    (fBufferSize : UInt16) : Mac :=
  let payloadSize := fBufferSize.toUInt8
  let fCtrl := if s.SrvAckRequested then { fCtrl with Ack := true } else fCtrl
  let s := { s with
    RxWindow1Delay := s.LoRaMacParams.ReceiveDelay1 - RADIO_WAKEUP_TIME
    RxWindow2Delay := s.LoRaMacParams.ReceiveDelay2 - RADIO_WAKEUP_TIME
    SrvAckRequested := false
    LoRaMacBuffer := s.LoRaMacBuffer.write 1 (bytes32 s.LoRaMacDevAddr ++ [fCtrl.Value] ++
      bytes16 s.UpLinkCounter.toUInt16) }
  let (plan, s) := placeMacCommands (collectMacCommands s) fCtrl fPort fBuffer payloadSize
  let (pktHeaderLen, s) := placePayload (retireMacCommands s) plan
  placeMic s (pktHeaderLen + plan.payloadSize.toNat) (fBuffer.map fun _ => fBufferSize)

/-- The call of `AdrNextDr` in `PrepareFrame`, and the look at the table that follows it. -/
def adaptDatarate (s : Mac) (adrEnabled : Bool) : Bool × Mac :=
  let (adrAckReq, datarate, s) := AdrNextDr s adrEnabled true
  (adrAckReq, { s.lookup [(datarate, (maxPayloads s).length)] with
    LoRaMacParams := { s.LoRaMacParams with ChannelsDatarate := datarate } })

/-- The length that is checked: 0 without a buffer, and else the size in 8 bits. -/
def checkedLength (fBuffer : Option Mem) (fBufferSize : UInt16) : UInt8 :=
  if fBuffer.isSome then fBufferSize.toUInt8 else 0

/-- The two cases of `PrepareFrame` for data. -/
def prepareData (s : Mac) (fCtrl : LoRaMacFrameCtrl_t) (fPort : UInt8) (fBuffer : Option Mem)
    (fBufferSize : UInt16) : LoRaMacStatus_t × Mac :=
  if s.IsLoRaMacNetworkJoined = false then (LORAMAC_STATUS_NO_NETWORK_JOINED, s)
  else
    let (adrAckReq, s) := adaptDatarate s fCtrl.Adr
    if ValidatePayloadLength s (checkedLength fBuffer fBufferSize)
        s.LoRaMacParams.ChannelsDatarate s.MacCommandsBufferIndex then
      (LORAMAC_STATUS_OK, buildDataFrame s { fCtrl with AdrAckReq := adrAckReq } fPort fBuffer
        fBufferSize)
    else (LORAMAC_STATUS_LENGTH_ERROR, s)

/-- The case of `PrepareFrame` for a proprietary frame. -/
def prepareProprietary (s : Mac) (fBuffer : Option Mem) (fBufferSize : UInt16) : Mac :=
  match fBuffer with
  | none => s
  | some buffer =>
    if 0 < fBufferSize then
      { s with
        LoRaMacBuffer := s.LoRaMacBuffer.write 1 (buffer.read 0 fBufferSize.toNat)
        LoRaMacBufferPktLen := (1 + fBufferSize.toNat) % 65536 }
    else s

def PrepareFrame (s : Mac) (macHdr : LoRaMacFrameType_t) (fCtrl : LoRaMacFrameCtrl_t)
    (fPort : UInt8) (fBuffer : Option Mem) (fBufferSize : UInt16) : LoRaMacStatus_t × Mac :=
  let s := { s with
    LoRaMacBufferPktLen := 0
    PreparedFrame := none
    NodeAckRequested := false
    LoRaMacBuffer := s.LoRaMacBuffer.write 0 [macHdr.header] }
  match macHdr with
  | FRAME_TYPE_JOIN_REQ => (LORAMAC_STATUS_OK, prepareJoinRequest s)
  | FRAME_TYPE_DATA_CONFIRMED_UP =>
    prepareData { s with NodeAckRequested := true } fCtrl fPort fBuffer fBufferSize
  | FRAME_TYPE_DATA_UNCONFIRMED_UP => prepareData s fCtrl fPort fBuffer fBufferSize
  | FRAME_TYPE_PROPRIETARY => (LORAMAC_STATUS_OK, prepareProprietary s fBuffer fBufferSize)
  | _ => (LORAMAC_STATUS_SERVICE_UNKNOWN, s)

/-- `RetransmissionDutyCylce`. -/
def RetransmissionDutyCylce (s : Mac) : UInt16 × Mac :=
  let (timeElapsed, s) := TimerGetElapsedTime s 0
  if timeElapsed < 3600000 then (BACKOFF_DC_1_HOUR, s)
  else if timeElapsed < 3600000 + 36000000 then (BACKOFF_DC_10_HOURS, s)
  else (BACKOFF_DC_24_HOURS, s)

def setTimeOff (s : Mac) (band : Nat) (TimeOff : TimerTime_t) : Mac :=
  { s with Bands := Function.update s.Bands band { s.Bands band with TimeOff := TimeOff } }

/-- The duty cycle that a band is charged with: a node that has not joined is given a
stricter one as time goes on. -/
def backOffDutyCycle (s : Mac) (band : Nat) : UInt16 × Mac :=
  if s.IsLoRaMacNetworkJoined then ((s.Bands band).DCycle, s)
  else
    let (joinDutyCycle, s) := RetransmissionDutyCylce s
    (max (s.Bands band).DCycle joinDutyCycle, s)

/-- Charges a band with the time on air of the last frame. -/
def chargeBand (s : Mac) (band : Nat) (dutyCycle : UInt16) : Mac :=
  setTimeOff s band
    (if s.DutyCycleOn then s.TxTimeOnAir * dutyCycle.toUInt32 - s.TxTimeOnAir else 0)

/-- The random back-off of a node that has not joined. It spares the first transmission. -/
def randomBackOff (s : Mac) (band : Nat) : Mac :=
  if s.IsLoRaMacNetworkJoined = false ∧ 0 < s.TxTimeOnAir then
    let TimeOff := (s.Bands band).TimeOff
    let (r, s) := randr s TimeOff.toBitVec.toInt (TimeOff + BACKOFF_RND_OFFSET).toBitVec.toInt
    setTimeOff s band (toUInt32 r)
  else s

def CalculateBackOff (s : Mac) (channel : UInt8) : Mac :=
  let band := (s.Channels channel.toNat).Band.toNat
  let (dutyCycle, s) := backOffDutyCycle s band
  let s := randomBackOff (chargeBand s band dutyCycle) band
  { s with
    AggregatedTimeOff := s.AggregatedTimeOff +
      (s.TxTimeOnAir * s.AggregatedDCycle.toUInt32 - s.TxTimeOnAir) }

/-- Frees a band once its time off has passed. -/
def releaseBand (s : Mac) (i : Nat) (elapsed : TimerTime_t) : Mac :=
  if (s.Bands i).TimeOff ≤ elapsed then setTimeOff s i 0 else s

/-- One turn of the loop of `SetNextChannel` over the bands. `MIN` evaluates its smaller
operand twice, and so reads the clock again. -/
def updateBand (nextTxDelay : TimerTime_t) (s : Mac) (i : Nat) : TimerTime_t × Mac :=
  if s.DutyCycleOn = false then (0, setTimeOff s i 0)
  else
    let (elapsed, s) := TimerGetElapsedTime s (s.Bands i).LastTxDoneTime
    let s := releaseBand s i elapsed
    let TimeOff := (s.Bands i).TimeOff
    if TimeOff = 0 then (nextTxDelay, s)
    else
      let (elapsed, s) := TimerGetElapsedTime s (s.Bands i).LastTxDoneTime
      if TimeOff - elapsed < nextTxDelay then
        let (elapsed, s) := TimerGetElapsedTime s (s.Bands i).LastTxDoneTime
        (TimeOff - elapsed, s)
      else (nextTxDelay, s)

/-- The loop over the bands. It starts from the largest delay. -/
def updateBands (s : Mac) : TimerTime_t × Mac :=
  (List.range LORA_MAX_NB_BANDS).foldl (fun (delay, s) i => updateBand delay s i) (0xFFFFFFFF, s)

/-- The channels that `SetNextChannel` may use at the current data rate, whether or not
their band is free. -/
def candidateChannels (s : Mac) : List Nat :=
  (List.range LORA_MAX_NB_CHANNELS).filter fun j =>
    s.LoRaMacParams.ChannelsMask.toNat.testBit j && (s.Channels j).Frequency != 0 &&
      (s.IsLoRaMacNetworkJoined || defaultChannels.toNat.testBit j) &&
      ValueInRange s.LoRaMacParams.ChannelsDatarate (s.Channels j).Min (s.Channels j).Max

/-- The candidates whose band is free: `enabledChannels` of the source. -/
def enabledChannels (s : Mac) : List Nat :=
  (candidateChannels s).filter fun j => (s.Bands (s.Channels j).Band.toNat).TimeOff = 0

/-- A mask without any channel is given the default ones. -/
def ensureMask (s : Mac) : Mac :=
  if CountBits s.LoRaMacParams.ChannelsMask 16 = 0 then
    { s with LoRaMacParams := enableDefaultChannels s.LoRaMacParams }
  else s

/-- The choice among the channels, once the bands are up to date. -/
def pickChannel (s : Mac) (nextTxDelay : TimerTime_t) : Bool × TimerTime_t × Mac :=
  if 0 < (enabledChannels s).length then
    let (r, s') := randr s 0 ((enabledChannels s).length - 1 : Nat)
    (true, 0, { s' with Channel := UInt8.ofNat ((enabledChannels s).getD r.toNat 0) })
  else if 0 < (candidateChannels s).length then (true, nextTxDelay, s)
  else (false, 0, s)

/-- `SetNextChannel`: the status, the time to wait, and the state with the new `Channel`. -/
def SetNextChannel (s : Mac) : Bool × TimerTime_t × Mac :=
  let s := ensureMask s
  let (elapsed, s) := TimerGetElapsedTime s s.AggregatedLastTxDoneTime
  if s.AggregatedTimeOff ≤ elapsed then
    let (nextTxDelay, s) := updateBands { s with AggregatedTimeOff := 0 }
    pickChannel s nextTxDelay
  else
    let (elapsed, s) := TimerGetElapsedTime s s.AggregatedLastTxDoneTime
    (true, s.AggregatedTimeOff - elapsed, s)

/-- What `ScheduleTx` restores when no channel takes the data rate. -/
def restoreDefaults (s : Mac) : Mac :=
  { s with LoRaMacParams := enableDefaultChannels { s.LoRaMacParams with
      ChannelsDatarate := s.LoRaMacParamsDefaults.ChannelsDatarate } }

/-- At most `fuel` turns of the loop of `ScheduleTx`. -/
def selectChannel : (fuel : Nat) → Mac → Option (TimerTime_t × Mac)
  | 0, _ => none
  | fuel + 1, s =>
    match SetNextChannel s with
    | (true, dutyCycleTimeOff, s) => some (dutyCycleTimeOff, s)
    | (false, _, s) => selectChannel fuel (restoreDefaults s)

/-- The frame that `SendFrameOnChannel` gives to the radio, and when. -/
def transmission (s : Mac) (channel : ChannelParams_t) : Transmission where
  size := s.LoRaMacBufferPktLen
  bytes := s.LoRaMacBuffer.read 0 (s.LoRaMacBufferPktLen % 256)
  frame := s.PreparedFrame
  Frequency := channel.Frequency
  Datarate := s.LoRaMacParams.ChannelsDatarate
  TxPower := TxPowers.getD s.LoRaMacParams.ChannelsTxPower.toNat 0
  maxPayload := maxPayload s s.LoRaMacParams.ChannelsDatarate
  TimeOnAir := s.env.TimeOnAir s.LoRaMacParams.ChannelsDatarate (s.LoRaMacBufferPktLen % 256)
  started := s.env.clock (s.board.reads - 1)

/-- `SendFrameOnChannel`. -/
def SendFrameOnChannel (s : Mac) (channel : ChannelParams_t) : Mac :=
  let datarate := s.LoRaMacParams.ChannelsDatarate
  let txPowerIndex := s.LoRaMacParams.ChannelsTxPower
  let TxTimeOnAir := (transmission s channel).TimeOnAir
  { s with
    TxTimeOnAir := TxTimeOnAir
    MlmeConfirm := { s.MlmeConfirm with
      Status := .LORAMAC_EVENT_INFO_STATUS_ERROR, TxTimeOnAir := TxTimeOnAir }
    McpsConfirm := { s.McpsConfirm with
      Status := .LORAMAC_EVENT_INFO_STATUS_ERROR
      Datarate := toUInt8 datarate
      TxPower := txPowerIndex
      TxTimeOnAir := TxTimeOnAir }
    MacStateCheckTimer := TimerStart (TimerSetValue s.MacStateCheckTimer MAC_STATE_CHECK_TIMEOUT)
    board := { s.board with
      status := .RF_TX_RUNNING
      lookups :=
        s.board.lookups ++ [(datarate, Datarates.length), (txPowerIndex, TxPowers.length)]
      log := s.board.log ++ [.Send (transmission s channel)] }
    LoRaMacState := { s.LoRaMacState with MAC_TX_RUNNING := true } }

/-- The frame waits until a band is free. -/
def delayTx (s : Mac) (dutyCycleTimeOff : TimerTime_t) : Mac :=
  { s with
    LoRaMacState := { s.LoRaMacState with MAC_TX_DELAYED := true }
    TxDelayedTimer := TimerStart (TimerSetValue s.TxDelayedTimer dutyCycleTimeOff) }

/-- `MaxDCycle` 0 lifts the aggregated limit. -/
def updateTimeOff (s : Mac) : Mac :=
  if s.MaxDCycle = 0 then { s with AggregatedTimeOff := 0 } else s

/-- `ScheduleTx`; `none` when its loop does not end. Two turns of the loop decide: the
second one is made with the defaults, and so is every one after it. -/
def ScheduleTx (s : Mac) : Option (LoRaMacStatus_t × Mac) :=
  if s.MaxDCycle = 255 then some (LORAMAC_STATUS_DEVICE_OFF, s)
  else
    match selectChannel 2 (CalculateBackOff (updateTimeOff s) s.LastTxChannel) with
    | none => none
    | some (dutyCycleTimeOff, s) =>
      if dutyCycleTimeOff = 0 then
        some (LORAMAC_STATUS_OK, SendFrameOnChannel s (s.Channels s.Channel.toNat))
      else some (LORAMAC_STATUS_OK, delayTx s dutyCycleTimeOff)

def Send (s : Mac) (macHdr : LoRaMacFrameType_t) (fPort : UInt8) (fBuffer : Option Mem)
    (fBufferSize : UInt16) : Option (LoRaMacStatus_t × Mac) :=
  match PrepareFrame s macHdr ⟨0, false, false, false, s.AdrCtrlOn⟩ fPort fBuffer fBufferSize with
  | (LORAMAC_STATUS_OK, s) =>
    ScheduleTx { s with
      McpsConfirm := { s.McpsConfirm with
        NbRetries := 0, AckReceived := false, UpLinkCounter := s.UpLinkCounter } }
  | (status, s) => some (status, s)

end loranode.mac
