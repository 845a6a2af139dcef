import LoRaNode.Mac.Transmit

namespace loranode.mac

open LoRaMacFrameType_t LoRaMacEventInfoStatus_t

def RxWindowSetup (s : Mac) (freq : UInt32) (datarate : Int) (bandwidth : UInt32)
    (timeout : UInt16) (rxContinuous : Bool) : Mac :=
  let s := s.lookup [(datarate, Datarates.length)]
  if s.board.status = .RF_IDLE then
    { s with
      McpsIndication := { s.McpsIndication with RxDatarate := toUInt8 datarate }
      board := { s.board with
        status := .RF_RX_RUNNING
        lookups := s.board.lookups ++ [(datarate, (maxPayloads s).length)]
        windows := s.board.windows ++ [⟨freq, Datarates.getD datarate.toNat 0, bandwidth, timeout,
          maxPayload s datarate + LORA_MAC_FRMPAYLOAD_OVERHEAD, rxContinuous,
          if rxContinuous then 0 else s.LoRaMacParams.MaxRxWindow⟩] } }
  else s

/-- The symbols after which a window at a data rate times out. -/
def symbTimeout (datarate : Int) : UInt16 :=
  if datarate = 3 ∨ datarate = 4 then 8
  else if datarate = 5 then 10
  else if datarate = 6 then 14
  else 5

/-- The bandwidth of a data rate: 250 kHz for `DR_6`, and 125 kHz else. -/
def bandwidth (datarate : Int) : UInt32 := if datarate = 6 then 1 else 0

/-- The data rate of the first window. -/
def rx1Datarate (s : Mac) : Int :=
  max 0 (s.LoRaMacParams.ChannelsDatarate - s.LoRaMacParams.Rx1DrOffset.toNat)

/-- The data rate of the second window, which `RxWindowSetup` takes as a signed byte. -/
def rx2Datarate (s : Mac) : Int := s.LoRaMacParams.Rx2Channel.Datarate.toBitVec.toInt

def OnRxWindow1TimerEvent (s : Mac) : Mac :=
  let s := { s with RxWindowTimer1 := TimerStop s.RxWindowTimer1, RxSlot := 0 }
  let s := if s.LoRaMacDeviceClass = .CLASS_C then Radio_Sleep s else s
  RxWindowSetup s (s.Channels s.Channel.toNat).Frequency (rx1Datarate s)
    (bandwidth (rx1Datarate s)) (symbTimeout (rx1Datarate s)) false

def OnRxWindow2TimerEvent (s : Mac) : Mac :=
  let s := { s with RxWindowTimer2 := TimerStop s.RxWindowTimer2, RxSlot := 1 }
  RxWindowSetup s s.LoRaMacParams.Rx2Channel.Frequency (rx2Datarate s)
    (bandwidth (rx2Datarate s)) (symbTimeout (rx2Datarate s)) (s.LoRaMacDeviceClass = .CLASS_C)

def OnAckTimeoutTimerEvent (s : Mac) : Mac :=
  let s := { s with AckTimeoutTimer := TimerStop s.AckTimeoutTimer }
  let s :=
    if s.NodeAckRequested then
      { s with
        AckTimeoutRetry := true
        LoRaMacState := { s.LoRaMacState with MAC_ACK_REQ := false } }
    else s
  if s.LoRaMacDeviceClass = .CLASS_C then
    { s with LoRaMacFlags := { s.LoRaMacFlags with MacDone := true } }
  else s

/-- The radio goes to sleep after an event, or listens on in class C. -/
def leaveRadio (s : Mac) : Mac :=
  if s.LoRaMacDeviceClass = .CLASS_C then OnRxWindow2TimerEvent s else Radio_Sleep s

/-- The timer of the second window, which class C does without. -/
def startRxWindow2 (s : Mac) : Mac :=
  if s.LoRaMacDeviceClass = .CLASS_C then s
  else { s with RxWindowTimer2 := TimerStart (TimerSetValue s.RxWindowTimer2 s.RxWindow2Delay) }

/-- The timer that limits the wait for an acknowledgement. -/
def startAckTimeout (s : Mac) : Mac :=
  if s.LoRaMacDeviceClass = .CLASS_C ∨ s.NodeAckRequested = true then
    let (r, s) := randr s (-ACK_TIMEOUT_RND) ACK_TIMEOUT_RND
    { s with AckTimeoutTimer := TimerStart (TimerSetValue s.AckTimeoutTimer
        (s.RxWindow2Delay + ACK_TIMEOUT + toUInt32 r)) }
  else s

/-- The timers that `OnRadioTxDone` starts for the reception windows. -/
def startRxWindows (s : Mac) : Mac :=
  startAckTimeout (startRxWindow2 { s with
    RxWindowTimer1 := TimerStart (TimerSetValue s.RxWindowTimer1 s.RxWindow1Delay) })

/-- What `OnRadioTxDone` does instead when the windows are switched off. -/
def completeWithoutWindows (s : Mac) : Mac :=
  { s with
    McpsConfirm := { s.McpsConfirm with Status := LORAMAC_EVENT_INFO_STATUS_OK }
    MlmeConfirm := { s.MlmeConfirm with Status := LORAMAC_EVENT_INFO_STATUS_RX2_TIMEOUT }
    LoRaMacFlags := { s.LoRaMacFlags with
      McpsReq := s.LoRaMacFlags.McpsReq || s.LoRaMacFlags = ⟨false, false, false, false⟩
      MacDone := true } }

/-- The end of a transmission counts for the duty cycle of its band. -/
def recordTxDone (s : Mac) (curTime : TimerTime_t) : Mac :=
  let band := (s.Channels s.Channel.toNat).Band.toNat
  { s with
    LastTxChannel := s.Channel
    Bands := Function.update s.Bands band { s.Bands band with LastTxDoneTime := curTime }
    AggregatedLastTxDoneTime := curTime }

def openRxWindows (s : Mac) : Mac :=
  if s.IsRxWindowsEnabled then startRxWindows s else completeWithoutWindows s

/-- A frame without acknowledgement has been sent once more. -/
def countRepetition (s : Mac) : Mac :=
  if s.NodeAckRequested then s
  else { s with
    McpsConfirm := { s.McpsConfirm with Status := LORAMAC_EVENT_INFO_STATUS_OK }
    ChannelsNbRepCounter := s.ChannelsNbRepCounter + 1 }

def OnRadioTxDone (s : Mac) : Mac :=
  let (curTime, s) := TimerGetCurrentTime s
  countRepetition (openRxWindows (recordTxDone (leaveRadio s) curTime))

/-- Makes the state check run as soon as possible. -/
def trigStateCheck (s : Mac) : Mac :=
  { s with MacStateCheckTimer := TimerStart (TimerSetValue s.MacStateCheckTimer 1) }

/-- A frame ends the first window of a class C node, which then listens on. -/
def reopenWindow2 (s : Mac) : Mac :=
  if s.RxSlot = 0 ∧ s.LoRaMacDeviceClass = .CLASS_C then OnRxWindow2TimerEvent s else s

def PrepareRxDoneAbort (s : Mac) : Mac :=
  let s := { s with LoRaMacState := { s.LoRaMacState with MAC_RX_ABORT := true } }
  let s := if s.NodeAckRequested then OnAckTimeoutTimerEvent s else s
  let s := reopenWindow2 s
  trigStateCheck { s with
    LoRaMacFlags := { s.LoRaMacFlags with McpsInd := true, MacDone := true } }

/-- A frame as `OnRadioRxDone` gets it: the memory from `payload` on, the memory in front
of it, and the length, which the radio counts in 8 bits. -/
structure RxFrame where
  payload : Mem
  before : Mem
  size : UInt8

/-- The byte at an index that a subtraction may have made negative. -/
def byteAt (m before : Mem) : Int → UInt8
  | .ofNat i => m i
  | .negSucc i => before i

/-- The MIC at the end of a frame of `size` bytes. -/
def micAt (m before : Mem) (size : Nat) : UInt32 :=
  ofBytes32 (byteAt m before (size - 4)) (byteAt m before (size - 3)) (byteAt m before (size - 2))
    (byteAt m before (size - 1))

/-- The number of bytes of a frame that the MIC covers: `size - LORAMAC_MFR_LEN` in 8 bits. -/
def micLength (size : UInt8) : Nat := (size - UInt8.ofNat LORAMAC_MFR_LEN).toNat

def RxFrame.macHdr (frame : RxFrame) : LoRaMacFrameType_t := ofHeader (frame.payload 0)

def RxFrame.address (frame : RxFrame) : UInt32 :=
  ofBytes32 (frame.payload 1) (frame.payload 2) (frame.payload 3) (frame.payload 4)

def RxFrame.fCtrl (frame : RxFrame) : LoRaMacFrameCtrl_t := .ofValue (frame.payload 5)

def RxFrame.sequenceCounter (frame : RxFrame) : UInt16 :=
  ofBytes16 (frame.payload 6) (frame.payload 7)

def RxFrame.micRx (frame : RxFrame) : UInt32 := micAt frame.payload frame.before frame.size.toNat

/-- The first statements of `OnRadioRxDone`. -/
def beginReception (s : Mac) (rssi snr : Int) : Mac :=
  let s := { s with
    McpsConfirm := { s.McpsConfirm with AckReceived := false }
    McpsIndication := { s.McpsIndication with
      Rssi := rssi
      Snr := toUInt8 snr
      RxSlot := s.RxSlot
      Port := 0
      Multicast := false
      FramePending := false
      hasBuffer := false
      BufferSize := 0
      RxData := false
      AckReceived := false
      DownLinkCounter := 0
      McpsIndication := .MCPS_UNCONFIRMED } }
  let s := if s.LoRaMacDeviceClass = .CLASS_C then s else Radio_Sleep s
  { s with RxWindowTimer2 := TimerStop s.RxWindowTimer2 }

/-- The last statements of `OnRadioRxDone`. -/
def endReception (s : Mac) : Mac :=
  let s := reopenWindow2 s
  trigStateCheck { s with LoRaMacFlags := { s.LoRaMacFlags with MacDone := true } }

/-- A frame is refused: its indication reports `Status`. -/
def abortReception (s : Mac) (Status : LoRaMacEventInfoStatus_t) : Mac :=
  PrepareRxDoneAbort { s with McpsIndication := { s.McpsIndication with Status := Status } }

/-- `LoRaMacRxPayload` with the deciphered join-accept. -/
def joinPayload (s : Mac) (frame : RxFrame) : Mem :=
  (LoRaMacJoinDecrypt s.env (fun i => frame.payload (1 + i)) (frame.size - 1).toNat s.LoRaMacAppKey
    s.LoRaMacRxPayload 1).write 0 [frame.payload 0]

/-- The MIC of a join-accept as it should be, and as it was received. -/
def joinMic (s : Mac) (frame : RxFrame) : UInt32 :=
  s.env.LoRaMacJoinComputeMic ((joinPayload s frame).read 0 (micLength frame.size)) s.LoRaMacAppKey

def joinMicRx (s : Mac) (frame : RxFrame) : UInt32 :=
  micAt (joinPayload s frame) s.strayBytes frame.size.toNat

/-- The channels of the optional list in a join-accept: 3 to 7. -/
def addCFList (s : Mac) (p : Mem) : Mac :=
  setTxConfig ((List.range 5).foldl
    (fun s k => (LoRaMacChannelAdd s (UInt8.ofNat (3 + k))
      ⟨frequencyAt p (13 + 3 * k) (14 + 3 * k) (15 + 3 * k), 0x50, 0⟩).2)
    (setTxConfig s true)) false

/-- The keys, the address and the parameters of the join-accept `p`. -/
def takeSession (s : Mac) (p : Mem) : Mac :=
  let (NwkSKey, AppSKey) :=
    LoRaMacJoinComputeSKeys s.env s.LoRaMacAppKey (p.read 1 6) s.LoRaMacDevNonce
  let delay := if p 12 &&& 0x0F = 0 then 1 else (p 12 &&& 0x0F).toUInt32
  { s with
    LoRaMacNwkSKey := NwkSKey
    LoRaMacAppSKey := AppSKey
    LoRaMacNetID := ofBytes32 (p 4) (p 5) (p 6) 0
    LoRaMacDevAddr := ofBytes32 (p 7) (p 8) (p 9) (p 10)
    LoRaMacParams := { s.LoRaMacParams with
      Rx1DrOffset := p 11 >>> 4 &&& 0x07
      Rx2Channel := { s.LoRaMacParams.Rx2Channel with Datarate := p 11 &&& 0x0F }
      ReceiveDelay1 := delay * 1000
      ReceiveDelay2 := delay * 1000 + 1000 } }

/-- The session that an authentic join-accept `p` opens. -/
def openSession (s : Mac) (p : Mem) (size : Nat) : Mac :=
  let s := takeSession s p
  let s := if 17 < size then addCFList s p else s
  { s with
    MlmeConfirm := { s.MlmeConfirm with Status := LORAMAC_EVENT_INFO_STATUS_OK }
    IsLoRaMacNetworkJoined := true
    LoRaMacParams := { s.LoRaMacParams with
      ChannelsDatarate := s.LoRaMacParamsDefaults.ChannelsDatarate } }

/-- `case FRAME_TYPE_JOIN_ACCEPT`. -/
def receiveJoinAccept (s : Mac) (frame : RxFrame) : Mac :=
  if s.IsLoRaMacNetworkJoined then s
  else
    let p := joinPayload s frame
    let s' := { s with LoRaMacRxPayload := p }
    if joinMicRx s frame = joinMic s frame then openSession s' p frame.size.toNat
    else { s' with
      MlmeConfirm := { s.MlmeConfirm with Status := LORAMAC_EVENT_INFO_STATUS_JOIN_FAIL } }

/-- Whom a data frame is for: the node itself or a multicast group, with the keys and the
counter that go with it. -/
structure Destination where
  multicast : Bool
  nwkSKey : List UInt8
  appSKey : List UInt8
  downLinkCounter : UInt32

/-- The search for the address of a data frame. -/
def destination (s : Mac) (address : UInt32) : Option Destination :=
  if address = s.LoRaMacDevAddr then
    some ⟨false, s.LoRaMacNwkSKey, s.LoRaMacAppSKey, s.DownLinkCounter⟩
  else
    (s.MulticastChannels.find? (·.Address = address)).map fun group =>
      ⟨true, group.NwkSKey, group.AppSKey, group.DownLinkCounter⟩

/-- The difference between the counter of a frame and the last one, in 16 bits. -/
def sequenceCounterDiff (frame : RxFrame) (dest : Destination) : UInt16 :=
  frame.sequenceCounter - dest.downLinkCounter.toUInt16

/-- The 32-bit counter that the MIC of a frame is computed with: the last one advanced by
the difference, or past the next roll-over of the low half. -/
def frameCounter (frame : RxFrame) (dest : Destination) : UInt32 :=
  let diff := sequenceCounterDiff frame dest
  if diff < 0x8000 then dest.downLinkCounter + diff.toUInt32
  else dest.downLinkCounter + 0x10000 + toUInt32 diff.toBitVec.toInt

/-- The MIC that a data frame should have. -/
def dataMic (s : Mac) (frame : RxFrame) (dest : Destination) : UInt32 :=
  s.env.LoRaMacComputeMic (frame.payload.read 0 (micLength frame.size)) dest.nwkSKey frame.address
    DOWN_LINK (frameCounter frame dest)

/-- Sets the counter of the first group with an address. -/
def setMulticastCounter (address downLinkCounter : UInt32) :
    List MulticastParams_t → List MulticastParams_t
  | [] => []
  | group :: groups =>
    if group.Address = address then { group with DownLinkCounter := downLinkCounter } :: groups
    else group :: setMulticastCounter address downLinkCounter groups

/-- The acknowledgement bit of an accepted frame. -/
def receiveAck (s : Mac) (Ack : Bool) : Mac :=
  let s := { s with
    McpsConfirm := { s.McpsConfirm with AckReceived := Ack }
    McpsIndication := { s.McpsIndication with
      AckReceived := s.McpsIndication.AckReceived || Ack } }
  if Ack = true ∨ s.AckTimeoutRetries < s.AckTimeoutRetriesCounter then
    { s with AckTimeoutTimer := TimerStop s.AckTimeoutTimer }
  else s

/-- The MAC commands in the field `FOpts` of an accepted frame. -/
def processFOpts (s : Mac) (frame : RxFrame) (snr : Int) : Option Mac :=
  if 0 < frame.fCtrl.FOptsLen then
    ProcessMacCommands s frame.payload 8 (UInt8.ofNat (8 + frame.fCtrl.FOptsLen)) (toUInt8 snr)
  else some s

/-- The payload and the MAC commands of an accepted frame; the flag tells whether the
indication is to be skipped. -/
def receivePayload (s : Mac) (frame : RxFrame) (dest : Destination) (skipIndication : Bool)
    (snr : Int) : Option (Bool × Mac) :=
  let start := 8 + frame.fCtrl.FOptsLen
  if start + 4 < frame.size.toNat then
    let port := frame.payload start
    let frameLen := frame.size.toNat - 4 - (start + 1)
    let s := { s with McpsIndication := { s.McpsIndication with Port := port } }
    let decrypt (key : List UInt8) := LoRaMacPayloadDecrypt s.env
      (fun i => frame.payload (start + 1 + i)) frameLen key frame.address DOWN_LINK
      (frameCounter frame dest) s.LoRaMacRxPayload
    if port = 0 then
      if frame.fCtrl.FOptsLen = 0 then
        (ProcessMacCommands { s with LoRaMacRxPayload := decrypt dest.nwkSKey }
          (decrypt dest.nwkSKey) 0 (UInt8.ofNat frameLen) (toUInt8 snr)).map (skipIndication, ·)
      else some (true, s)
    else (processFOpts s frame snr).map fun s =>
      let s := { s with LoRaMacRxPayload := decrypt dest.appSKey }
      if skipIndication then (true, s)
      else (false, { s with
        McpsIndication := { s.McpsIndication with
          hasBuffer := true, BufferSize := UInt8.ofNat frameLen, RxData := true } })
  else (processFOpts s frame snr).map (skipIndication, ·)

/-- The end of an accepted data frame. -/
def deliverData (s : Mac) (frame : RxFrame) (dest : Destination) (skipIndication : Bool)
    (snr : Int) : Option Mac :=
  (receivePayload (receiveAck s frame.fCtrl.Ack) frame dest skipIndication snr).map
    fun (skipIndication, s) => endReception (if skipIndication then s
      else { s with LoRaMacFlags := { s.LoRaMacFlags with McpsInd := true } })

/-- The fields of the indication and of the confirm that an authentic frame sets, whether
or not it is a duplicate. -/
def acceptFrame (s : Mac) (frame : RxFrame) (dest : Destination) : Mac :=
  { s with
    McpsIndication := { s.McpsIndication with
      Status := LORAMAC_EVENT_INFO_STATUS_OK
      Multicast := dest.multicast
      FramePending := frame.fCtrl.FPending
      hasBuffer := false
      BufferSize := 0
      DownLinkCounter := frameCounter frame dest }
    McpsConfirm := { s.McpsConfirm with Status := LORAMAC_EVENT_INFO_STATUS_OK }
    AdrAckCounter := 0
    MacCommandsBufferToRepeatIndex := 0 }

/-- The counter of an authentic frame is the last one again. The counter 0 does not count. -/
def repeated (frame : RxFrame) (dest : Destination) : Bool :=
  dest.downLinkCounter = frameCounter frame dest && dest.downLinkCounter != 0

/-- An authentic multicast frame. -/
def receiveMulticast (s : Mac) (frame : RxFrame) (dest : Destination) (snr : Int) : Option Mac :=
  let s := { s with McpsIndication := { s.McpsIndication with McpsIndication := .MCPS_MULTICAST } }
  if repeated frame dest then
    some (abortReception s LORAMAC_EVENT_INFO_STATUS_DOWNLINK_REPEATED)
  else
    deliverData { s with
      MulticastChannels :=
        setMulticastCounter frame.address (frameCounter frame dest) s.MulticastChannels }
      frame dest false snr

/-- An authentic frame for the node itself. A duplicate of a confirmed frame is not
refused: only its indication is skipped. -/
def receiveUnicast (s : Mac) (frame : RxFrame) (dest : Destination) (snr : Int) : Option Mac :=
  if frame.macHdr = FRAME_TYPE_DATA_CONFIRMED_DOWN then
    deliverData { s with
      SrvAckRequested := true
      McpsIndication := { s.McpsIndication with McpsIndication := .MCPS_CONFIRMED }
      DownLinkCounter := frameCounter frame dest } frame dest (repeated frame dest) snr
  else
    let s := { s with
      SrvAckRequested := false
      McpsIndication := { s.McpsIndication with McpsIndication := .MCPS_UNCONFIRMED } }
    if repeated frame dest then
      some (abortReception s LORAMAC_EVENT_INFO_STATUS_DOWNLINK_REPEATED)
    else deliverData { s with DownLinkCounter := frameCounter frame dest } frame dest false snr

/-- The counter that a refused frame reports: past a roll-over only with a valid MIC. -/
def reportedCounter (s : Mac) (frame : RxFrame) (dest : Destination) : UInt32 :=
  if sequenceCounterDiff frame dest < 0x8000 ∨ frame.micRx = dataMic s frame dest then
    frameCounter frame dest
  else dest.downLinkCounter

/-- `case FRAME_TYPE_DATA_CONFIRMED_DOWN` and `case FRAME_TYPE_DATA_UNCONFIRMED_DOWN`. -/
def receiveData (s : Mac) (frame : RxFrame) (snr : Int) : Option Mac :=
  match destination s frame.address with
  | none => some (abortReception s LORAMAC_EVENT_INFO_STATUS_ADDRESS_FAIL)
  | some dest =>
    if MAX_FCNT_GAP ≤ sequenceCounterDiff frame dest then
      some (abortReception { s with
        McpsIndication := { s.McpsIndication with
          DownLinkCounter := reportedCounter s frame dest } }
        LORAMAC_EVENT_INFO_STATUS_DOWNLINK_TOO_MANY_FRAMES_LOSS)
    else if frame.micRx = dataMic s frame dest then
      if dest.multicast then receiveMulticast (acceptFrame s frame dest) frame dest snr
      else receiveUnicast (acceptFrame s frame dest) frame dest snr
    else some (abortReception s LORAMAC_EVENT_INFO_STATUS_MIC_FAIL)

/-- `case FRAME_TYPE_PROPRIETARY`. -/
def receiveProprietary (s : Mac) (frame : RxFrame) : Mac :=
  { s with
    LoRaMacRxPayload := s.LoRaMacRxPayload.write 0 (frame.payload.read 1 frame.size.toNat)
    McpsIndication := { s.McpsIndication with
      McpsIndication := .MCPS_PROPRIETARY
      Status := LORAMAC_EVENT_INFO_STATUS_OK
      hasBuffer := true
      BufferSize := frame.size - 1 }
    LoRaMacFlags := { s.LoRaMacFlags with McpsInd := true } }

/-- `OnRadioRxDone`; `none` when the MAC commands of the frame are not done with. -/
def OnRadioRxDone (s : Mac) (frame : RxFrame) (rssi snr : Int) : Option Mac :=
  let s := beginReception s rssi snr
  match frame.macHdr with
  | FRAME_TYPE_JOIN_ACCEPT => some (endReception (receiveJoinAccept s frame))
  | FRAME_TYPE_DATA_CONFIRMED_DOWN | FRAME_TYPE_DATA_UNCONFIRMED_DOWN => receiveData s frame snr
  | FRAME_TYPE_PROPRIETARY => some (endReception (receiveProprietary s frame))
  | _ => some (endReception (abortReception s LORAMAC_EVENT_INFO_STATUS_ERROR))

def OnRadioTxTimeout (s : Mac) : Mac :=
  let s := leaveRadio s
  { s with
    McpsConfirm := { s.McpsConfirm with Status := LORAMAC_EVENT_INFO_STATUS_TX_TIMEOUT }
    MlmeConfirm := { s.MlmeConfirm with Status := LORAMAC_EVENT_INFO_STATUS_TX_TIMEOUT }
    LoRaMacFlags := { s.LoRaMacFlags with MacDone := true } }

/-- `OnRadioRxError` and `OnRadioRxTimeout`, which differ in the status they report. -/
def endWindow (s : Mac) (Status : LoRaMacEventInfoStatus_t) : Mac :=
  let s := leaveRadio s
  if s.RxSlot = 1 then
    { s with
      McpsConfirm :=
        if s.NodeAckRequested then { s.McpsConfirm with Status := Status } else s.McpsConfirm
      MlmeConfirm := { s.MlmeConfirm with Status := Status }
      LoRaMacFlags := { s.LoRaMacFlags with MacDone := true } }
  else s

def OnRadioRxError (s : Mac) : Mac := endWindow s LORAMAC_EVENT_INFO_STATUS_RX2_ERROR

def OnRadioRxTimeout (s : Mac) : Mac := endWindow s LORAMAC_EVENT_INFO_STATUS_RX2_TIMEOUT

end loranode.mac
