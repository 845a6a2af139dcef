import LoRaNode.Mac.Crypto

namespace loranode.mac

open LoRaMacStatus_t

inductive LoRaMacMoteCmd_t where
  | MOTE_MAC_LINK_CHECK_REQ | MOTE_MAC_LINK_ADR_ANS | MOTE_MAC_DUTY_CYCLE_ANS
  | MOTE_MAC_RX_PARAM_SETUP_ANS | MOTE_MAC_DEV_STATUS_ANS | MOTE_MAC_NEW_CHANNEL_ANS
  | MOTE_MAC_RX_TIMING_SETUP_ANS
  deriving DecidableEq, Repr

inductive LoRaMacSrvCmd_t where
  | SRV_MAC_LINK_CHECK_ANS | SRV_MAC_LINK_ADR_REQ | SRV_MAC_DUTY_CYCLE_REQ
  | SRV_MAC_RX_PARAM_SETUP_REQ | SRV_MAC_DEV_STATUS_REQ | SRV_MAC_NEW_CHANNEL_REQ
  | SRV_MAC_RX_TIMING_SETUP_REQ
  deriving DecidableEq, Repr

def LoRaMacMoteCmd_t.code : LoRaMacMoteCmd_t → UInt8
  | MOTE_MAC_LINK_CHECK_REQ => 0x02
  | MOTE_MAC_LINK_ADR_ANS => 0x03
  | MOTE_MAC_DUTY_CYCLE_ANS => 0x04
  | MOTE_MAC_RX_PARAM_SETUP_ANS => 0x05
  | MOTE_MAC_DEV_STATUS_ANS => 0x06
  | MOTE_MAC_NEW_CHANNEL_ANS => 0x07
  | MOTE_MAC_RX_TIMING_SETUP_ANS => 0x08

def LoRaMacSrvCmd_t.ofCode (code : UInt8) : Option LoRaMacSrvCmd_t :=
  match code.toNat with
  | 2 => some SRV_MAC_LINK_CHECK_ANS
  | 3 => some SRV_MAC_LINK_ADR_REQ
  | 4 => some SRV_MAC_DUTY_CYCLE_REQ
  | 5 => some SRV_MAC_RX_PARAM_SETUP_REQ
  | 6 => some SRV_MAC_DEV_STATUS_REQ
  | 7 => some SRV_MAC_NEW_CHANNEL_REQ
  | 8 => some SRV_MAC_RX_TIMING_SETUP_REQ
  | _ => none

/-- The bytes of a command: its code, and the parameters that it takes. -/
def LoRaMacMoteCmd_t.bytes (cmd : LoRaMacMoteCmd_t) (p1 p2 : UInt8) : List UInt8 :=
  match cmd with
  | MOTE_MAC_LINK_CHECK_REQ | MOTE_MAC_DUTY_CYCLE_ANS | MOTE_MAC_RX_TIMING_SETUP_ANS => [cmd.code]
  | MOTE_MAC_LINK_ADR_ANS | MOTE_MAC_RX_PARAM_SETUP_ANS | MOTE_MAC_NEW_CHANNEL_ANS => [cmd.code, p1]
  | MOTE_MAC_DEV_STATUS_ANS => [cmd.code, p1, p2]

/-- `AddMacCommand`. The room is what the commands to repeat leave of the buffer; the
subtraction is made in 8 bits. -/
def AddMacCommand (s : Mac) (cmd : LoRaMacMoteCmd_t) (p1 p2 : UInt8) : LoRaMacStatus_t × Mac :=
  let bufLen := UInt8.ofNat LORA_MAC_COMMAND_MAX_LENGTH - s.MacCommandsBufferToRepeatIndex
  let bytes := cmd.bytes p1 p2
  if s.MacCommandsBufferIndex.toNat < bufLen.toNat - (bytes.length - 1) then
    (LORAMAC_STATUS_OK, { s.access (List.range' s.MacCommandsBufferIndex.toNat bytes.length) with
      MacCommandsBuffer := s.MacCommandsBuffer.write s.MacCommandsBufferIndex.toNat bytes
      MacCommandsBufferIndex := s.MacCommandsBufferIndex + UInt8.ofNat bytes.length
      MacCommandsInNextTx := true })
  else (LORAMAC_STATUS_BUSY, s)

/-- The loop of `ParseMacCommandsToRepeat` from the byte at `i` on. A setup answer is
copied with the two bytes after it. The last result has the indices that are accessed. -/
def parseMacCommandsFrom (cmdBufIn : Mem) (length : Nat) :
    (fuel i cmdCount : Nat) → (cmdBufOut : Mem) → Nat × Mem × List Nat
  | 0, _, cmdCount, cmdBufOut => (cmdCount, cmdBufOut, [])
  | fuel + 1, i, cmdCount, cmdBufOut =>
    if length ≤ i then (cmdCount, cmdBufOut, [])
    else if cmdBufIn i = LoRaMacMoteCmd_t.MOTE_MAC_RX_PARAM_SETUP_ANS.code then
      let (count, out, accesses) := parseMacCommandsFrom cmdBufIn length fuel (i + 3) (cmdCount + 3)
        (cmdBufOut.write cmdCount (cmdBufIn.read i 3))
      (count, out, List.range' i 3 ++ List.range' cmdCount 3 ++ accesses)
    else if cmdBufIn i = LoRaMacMoteCmd_t.MOTE_MAC_RX_TIMING_SETUP_ANS.code then
      let (count, out, accesses) := parseMacCommandsFrom cmdBufIn length fuel (i + 1) (cmdCount + 1)
        (cmdBufOut.write cmdCount [cmdBufIn i])
      (count, out, [i, cmdCount] ++ accesses)
    else
      let (count, out, accesses) :=
        parseMacCommandsFrom cmdBufIn length fuel (i + 1) cmdCount cmdBufOut
      (count, out, i :: accesses)

/-- `ParseMacCommandsToRepeat`: the size of what is to be repeated, the buffer, and the
indices that are accessed. -/
def ParseMacCommandsToRepeat (cmdBufIn : Mem) (length : UInt8) (cmdBufOut : Mem) :
    UInt8 × Mem × List Nat :=
  let (cmdCount, cmdBufOut, accesses) :=
    parseMacCommandsFrom cmdBufIn length.toNat length.toNat 0 0 cmdBufOut
  (UInt8.ofNat cmdCount, cmdBufOut, accesses)

/-- The sub-band that holds a frequency, if there is one. -/
def bandOfFrequency (Frequency : UInt32) : Option UInt8 :=
  if 865000000 ≤ Frequency ∧ Frequency ≤ 868000000 then some 0
  else if 868000000 < Frequency ∧ Frequency ≤ 868600000 then some 1
  else if 868700000 ≤ Frequency ∧ Frequency ≤ 869200000 then some 2
  else if 869400000 ≤ Frequency ∧ Frequency ≤ 869650000 then some 3
  else if 869700000 ≤ Frequency ∧ Frequency ≤ 870000000 then some 4
  else none

/-- The channel table may not change while a frame is on the air, unless the MAC itself
asks for it. -/
def configLocked (s : Mac) : Bool :=
  s.LoRaMacState.MAC_TX_RUNNING && !s.LoRaMacState.MAC_TX_CONFIG

/-- The check of the data rates in `LoRaMacChannelAdd`. -/
def datarateInvalid (s : Mac) (id : UInt8) (params : ChannelParams_t) : Bool :=
  params.Max < params.Min ||
    !ValueInRange params.Min LORAMAC_TX_MIN_DATARATE LORAMAC_TX_MAX_DATARATE ||
    !ValueInRange params.Max LORAMAC_TX_MIN_DATARATE LORAMAC_TX_MAX_DATARATE ||
    id < 3 && (s.LoRaMacParamsDefaults.ChannelsDatarate < params.Min ||
      !ValueInRange params.Max 5 LORAMAC_TX_MAX_DATARATE)

/-- The sub-band of the new channel, or `none` when its frequency is invalid. -/
def channelBand (s : Mac) (id : UInt8) (params : ChannelParams_t) : Option UInt8 :=
  if s.env.CheckRfFrequency params.Frequency = true ∧ 0 < params.Frequency ∧
      ¬(id < 3 ∧ params.Frequency ≠ (s.Channels id.toNat).Frequency) then
    bandOfFrequency params.Frequency
  else none

def LoRaMacChannelAdd (s : Mac) (id : UInt8) (params : ChannelParams_t) : LoRaMacStatus_t × Mac :=
  if LORA_MAX_NB_CHANNELS ≤ id.toNat then (LORAMAC_STATUS_PARAMETER_INVALID, s)
  else if configLocked s then (LORAMAC_STATUS_BUSY, s)
  else match datarateInvalid s id params, channelBand s id params with
    | true, none => (LORAMAC_STATUS_FREQ_AND_DR_INVALID, s)
    | true, some _ => (LORAMAC_STATUS_DATARATE_INVALID, s)
    | false, none => (LORAMAC_STATUS_FREQUENCY_INVALID, s)
    | false, some band => (LORAMAC_STATUS_OK, { s with
        Channels := Function.update s.Channels id.toNat { params with Band := band }
        LoRaMacParams := { s.LoRaMacParams with
          ChannelsMask := s.LoRaMacParams.ChannelsMask ||| 1 <<< id.toUInt16 } })

/-- `LoRaMacChannelRemove`. `DisableChannelInMask` accepts every index of the table. -/
def LoRaMacChannelRemove (s : Mac) (id : UInt8) : LoRaMacStatus_t × Mac :=
  if configLocked s then (LORAMAC_STATUS_BUSY, s)
  else if id < 3 ∨ LORA_MAX_NB_CHANNELS ≤ id.toNat then (LORAMAC_STATUS_PARAMETER_INVALID, s)
  else (LORAMAC_STATUS_OK, { s with
    Channels := Function.update s.Channels id.toNat ⟨0, 0, 0⟩
    LoRaMacParams := { s.LoRaMacParams with
      ChannelsMask := s.LoRaMacParams.ChannelsMask &&& ~~~(1 <<< id.toUInt16) } })

/-- Sets `MAC_TX_CONFIG`, or clears it. -/
def setTxConfig (s : Mac) (on : Bool) : Mac :=
  { s with LoRaMacState := { s.LoRaMacState with MAC_TX_CONFIG := on } }

/-- A 24-bit frequency in steps of 100 Hz. -/
def frequencyAt (payload : Mem) (i0 i1 i2 : Nat) : UInt32 :=
  ofBytes32 (payload i0) (payload i1) (payload i2) 0 * 100

/-- `SRV_MAC_LINK_CHECK_ANS`. The handlers get the index behind the code, and give back
the one behind the command. -/
def linkCheckAns (s : Mac) (payload : Mem) (macIndex : UInt8) : UInt8 × Mac :=
  (macIndex + 2, { s with
    MlmeConfirm := { s.MlmeConfirm with
      Status := .LORAMAC_EVENT_INFO_STATUS_OK
      DemodMargin := payload macIndex.toNat
      NbGateways := payload (macIndex + 1).toNat } })

/-- The channel mask of a link ADR request: the status bits left of 7, and the mask. -/
def linkAdrMask (s : Mac) (chMaskCntl : UInt8) (chMask : UInt16) : UInt8 × UInt16 :=
  if chMaskCntl = 0 ∧ chMask = 0 then (0xFE, s.LoRaMacParams.ChannelsMask)
  else if chMaskCntl ≠ 0 ∧ chMaskCntl ≠ 6 then (0xFE, s.LoRaMacParams.ChannelsMask)
  else (List.range LORA_MAX_NB_CHANNELS).foldl
    (fun (status, chMask) i =>
      if chMaskCntl = 6 then
        (status, if (s.Channels i).Frequency ≠ 0 then chMask ||| UInt16.ofNat (1 <<< i) else chMask)
      else
        (if chMask.toNat.testBit i = true ∧ (s.Channels i).Frequency = 0 then status &&& 0xFE
          else status, chMask))
    (0xFF, chMask)

/-- The status of a link ADR answer: the bits of the mask, of the data rate and of the power. -/
def linkAdrStatus (maskStatus : UInt8) (datarate txPower : Int) : UInt8 :=
  let status := 0x07 &&& maskStatus
  let status :=
    if ValueInRange datarate LORAMAC_TX_MIN_DATARATE LORAMAC_TX_MAX_DATARATE then status
    else status &&& 0xFD
  if ValueInRange txPower LORAMAC_MAX_TX_POWER LORAMAC_MIN_TX_POWER then status
  else status &&& 0xFB

/-- `SRV_MAC_LINK_ADR_REQ`. -/
def linkAdrReq (s : Mac) (payload : Mem) (macIndex : UInt8) : UInt8 × Mac :=
  let txPower : Int := (payload macIndex.toNat &&& 0x0F).toNat
  let datarate : Int := (payload macIndex.toNat >>> 4).toNat
  if s.AdrCtrlOn = false ∧ (s.LoRaMacParams.ChannelsDatarate ≠ datarate ∨
      s.LoRaMacParams.ChannelsTxPower ≠ txPower) then
    (macIndex + 4, (AddMacCommand s .MOTE_MAC_LINK_ADR_ANS 0 0).2)
  else
    let chMask := ofBytes16 (payload (macIndex + 1).toNat) (payload (macIndex + 2).toNat)
    let redundancy := payload (macIndex + 3).toNat
    let nbRep := if redundancy &&& 0x0F = 0 then 1 else redundancy &&& 0x0F
    let (maskStatus, channelsMask) := linkAdrMask s (redundancy >>> 4 &&& 0x07) chMask
    let status := linkAdrStatus maskStatus datarate txPower
    let s :=
      if status &&& 0x07 = 0x07 then
        { s with
          LoRaMacParams := { s.LoRaMacParams with
            ChannelsDatarate := datarate
            ChannelsTxPower := txPower
            ChannelsMask := channelsMask
            ChannelsNbRep := nbRep } }
      else s
    (macIndex + 4, (AddMacCommand s .MOTE_MAC_LINK_ADR_ANS status 0).2)

/-- `SRV_MAC_DUTY_CYCLE_REQ`. -/
def dutyCycleReq (s : Mac) (payload : Mem) (macIndex : UInt8) : UInt8 × Mac :=
  let MaxDCycle := payload macIndex.toNat
  let s := { s with
    MaxDCycle := MaxDCycle, AggregatedDCycle := UInt16.ofNat (1 <<< MaxDCycle.toNat) }
  (macIndex + 1, (AddMacCommand s .MOTE_MAC_DUTY_CYCLE_ANS 0 0).2)

def Rx2FreqInRange (s : Mac) (freq : UInt32) : Bool := s.env.CheckRfFrequency freq

/-- The status of a setup answer: the bits of the frequency, of the data rate and of the
offset. -/
def rxParamSetupStatus (s : Mac) (freq : UInt32) (datarate drOffset : UInt8) : UInt8 :=
  let status : UInt8 := if Rx2FreqInRange s freq then 0x07 else 0x07 &&& 0xFE
  let status :=
    if ValueInRange datarate.toNat LORAMAC_RX_MIN_DATARATE LORAMAC_RX_MAX_DATARATE then status
    else status &&& 0xFD
  if ValueInRange drOffset.toNat LORAMAC_MIN_RX1_DR_OFFSET LORAMAC_MAX_RX1_DR_OFFSET then status
  else status &&& 0xFB

/-- `SRV_MAC_RX_PARAM_SETUP_REQ`. -/
def rxParamSetupReq (s : Mac) (payload : Mem) (macIndex : UInt8) : UInt8 × Mac :=
  let drOffset := payload macIndex.toNat >>> 4 &&& 0x07
  let datarate := payload macIndex.toNat &&& 0x0F
  let freq := frequencyAt payload (macIndex + 1).toNat (macIndex + 2).toNat (macIndex + 3).toNat
  let status := rxParamSetupStatus s freq datarate drOffset
  let s :=
    if status &&& 0x07 = 0x07 then
      { s with
        LoRaMacParams := { s.LoRaMacParams with
          Rx2Channel := ⟨freq, datarate⟩
          Rx1DrOffset := drOffset } }
    else s
  (macIndex + 4, (AddMacCommand s .MOTE_MAC_RX_PARAM_SETUP_ANS status 0).2)

/-- `SRV_MAC_DEV_STATUS_REQ`. -/
def devStatusReq (s : Mac) (macIndex snr : UInt8) : UInt8 × Mac :=
  match s.env.GetBatteryLevel with
  | none => (macIndex, (AddMacCommand s .MOTE_MAC_DEV_STATUS_ANS BAT_LEVEL_NO_MEASURE snr).2)
  | some level =>
    let batteryLevel := level s.board.measures
    let s := { s with board := { s.board with measures := s.board.measures + 1 } }
    (macIndex, (AddMacCommand s .MOTE_MAC_DEV_STATUS_ANS batteryLevel snr).2)

/-- The change of the channel table that a new channel request asks for. The index is a
signed byte there, and an unsigned one in the functions that are called. -/
def newChannel (s : Mac) (channelIndex : UInt8) (chParam : ChannelParams_t) : UInt8 × Mac :=
  if chParam.Frequency = 0 then
    if channelIndex.toBitVec.toInt < 3 then (0x00, s)
    else match LoRaMacChannelRemove s channelIndex with
      | (LORAMAC_STATUS_OK, s) => (0x03, s)
      | (_, s) => (0x00, s)
  else match LoRaMacChannelAdd s channelIndex chParam with
    | (LORAMAC_STATUS_OK, s) => (0x03, s)
    | (LORAMAC_STATUS_FREQUENCY_INVALID, s) => (0x02, s)
    | (LORAMAC_STATUS_DATARATE_INVALID, s) => (0x01, s)
    | (_, s) => (0x00, s)

/-- `SRV_MAC_NEW_CHANNEL_REQ`. -/
def newChannelReq (s : Mac) (payload : Mem) (macIndex : UInt8) : UInt8 × Mac :=
  let chParam : ChannelParams_t := ⟨frequencyAt payload (macIndex + 1).toNat (macIndex + 2).toNat
    (macIndex + 3).toNat, payload (macIndex + 4).toNat, 0⟩
  let (status, s) := newChannel (setTxConfig s true) (payload macIndex.toNat) chParam
  (macIndex + 5, (AddMacCommand (setTxConfig s false) .MOTE_MAC_NEW_CHANNEL_ANS status 0).2)

/-- `SRV_MAC_RX_TIMING_SETUP_REQ`. -/
def rxTimingSetupReq (s : Mac) (payload : Mem) (macIndex : UInt8) : UInt8 × Mac :=
  let delay := payload macIndex.toNat &&& 0x0F
  let delay := if delay = 0 then 1 else delay
  let s := { s with
    LoRaMacParams := { s.LoRaMacParams with
      ReceiveDelay1 := delay.toUInt32 * 1000
      ReceiveDelay2 := delay.toUInt32 * 1000 + 1000 } }
  (macIndex + 1, (AddMacCommand s .MOTE_MAC_RX_TIMING_SETUP_ANS 0 0).2)

/-- One turn of the loop of `ProcessMacCommands`, behind the code of the command. -/
def processMacCommand (s : Mac) (payload : Mem) (macIndex snr : UInt8) :
    LoRaMacSrvCmd_t → UInt8 × Mac
  | .SRV_MAC_LINK_CHECK_ANS => linkCheckAns s payload macIndex
  | .SRV_MAC_LINK_ADR_REQ => linkAdrReq s payload macIndex
  | .SRV_MAC_DUTY_CYCLE_REQ => dutyCycleReq s payload macIndex
  | .SRV_MAC_RX_PARAM_SETUP_REQ => rxParamSetupReq s payload macIndex
  | .SRV_MAC_DEV_STATUS_REQ => devStatusReq s macIndex snr
  | .SRV_MAC_NEW_CHANNEL_REQ => newChannelReq s payload macIndex
  | .SRV_MAC_RX_TIMING_SETUP_REQ => rxTimingSetupReq s payload macIndex

/-- The loop of `ProcessMacCommands`. -/
def processMacCommandsFrom (payload : Mem) (commandsSize snr : UInt8) :
    (fuel : Nat) → (s : Mac) → (macIndex : UInt8) → Option Mac
  | 0, _, _ => none
  | fuel + 1, s, macIndex =>
    if macIndex < commandsSize then
      match LoRaMacSrvCmd_t.ofCode (payload macIndex.toNat) with
      | none => some s
      | some cmd =>
        let (macIndex, s) := processMacCommand s payload (macIndex + 1) snr cmd
        processMacCommandsFrom payload commandsSize snr fuel s macIndex
    else some s

/-- `ProcessMacCommands`. Where the 8-bit index goes next depends on the payload only, so
that a loop which has not ended after 257 turns has come back to an index it had before,
and does not end: the result is then `none`. -/
def ProcessMacCommands (s : Mac) (payload : Mem) (macIndex commandsSize snr : UInt8) : Option Mac :=
  processMacCommandsFrom payload commandsSize snr 257 s macIndex

end loranode.mac
