import LoRaNode.Lib.Memory

namespace loranode.mac

def LORAMAC_MFR_LEN : Nat := 4
def LORA_MAC_COMMAND_MAX_LENGTH : Nat := 15
def LORAMAC_PHY_MAXPAYLOAD : Nat := 255
def LORA_MAC_FRMPAYLOAD_OVERHEAD : Nat := 13
def LORA_MAX_NB_CHANNELS : Nat := 16
def LORA_MAX_NB_BANDS : Nat := 5
def LORAMAC_TX_MIN_DATARATE : Int := 0
def LORAMAC_TX_MAX_DATARATE : Int := 7
def LORAMAC_RX_MIN_DATARATE : Int := 0
def LORAMAC_RX_MAX_DATARATE : Int := 7
def LORAMAC_MIN_RX1_DR_OFFSET : Int := 0
def LORAMAC_MAX_RX1_DR_OFFSET : Int := 5
def LORAMAC_MAX_TX_POWER : Int := 0
def LORAMAC_MIN_TX_POWER : Int := 5
def MAX_FCNT_GAP : UInt16 := 16384
def ADR_ACK_LIMIT : UInt32 := 64
def ADR_ACK_DELAY : UInt32 := 32
def ACK_TIMEOUT : UInt32 := 2000
def ACK_TIMEOUT_RND : Int := 1000
def MAC_STATE_CHECK_TIMEOUT : UInt32 := 1000
def MAX_ACK_RETRIES : UInt8 := 8
def RADIO_WAKEUP_TIME : UInt32 := 3
def UP_LINK : UInt8 := 0
def DOWN_LINK : UInt8 := 1
def BACKOFF_DC_1_HOUR : UInt16 := 100
def BACKOFF_DC_10_HOURS : UInt16 := 1000
def BACKOFF_DC_24_HOURS : UInt16 := 10000
def BACKOFF_RND_OFFSET : UInt32 := 600000
def BAT_LEVEL_NO_MEASURE : UInt8 := 255

/-- `LC( 1 ) + LC( 2 ) + LC( 3 )`, which is also `JOIN_CHANNELS`. -/
def defaultChannels : UInt16 := 7

def Datarates : List Nat := [12, 11, 10, 9, 8, 7, 7, 50]
def MaxPayloadOfDatarate : List Nat := [51, 51, 51, 115, 242, 242, 242, 242]
def MaxPayloadOfDatarateRepeater : List Nat := [51, 51, 51, 115, 222, 222, 222, 222]
def TxPowers : List Nat := [20, 14, 11, 8, 5, 2]

abbrev TimerTime_t := UInt32

inductive DeviceClass_t where
  | CLASS_A | CLASS_B | CLASS_C
  deriving DecidableEq, Repr

inductive LoRaMacFrameType_t where
  | FRAME_TYPE_JOIN_REQ | FRAME_TYPE_JOIN_ACCEPT | FRAME_TYPE_DATA_UNCONFIRMED_UP
  | FRAME_TYPE_DATA_UNCONFIRMED_DOWN | FRAME_TYPE_DATA_CONFIRMED_UP
  | FRAME_TYPE_DATA_CONFIRMED_DOWN | FRAME_TYPE_RFU | FRAME_TYPE_PROPRIETARY
  deriving DecidableEq, Repr

inductive LoRaMacStatus_t where
  | LORAMAC_STATUS_OK | LORAMAC_STATUS_BUSY | LORAMAC_STATUS_SERVICE_UNKNOWN
  | LORAMAC_STATUS_PARAMETER_INVALID | LORAMAC_STATUS_FREQUENCY_INVALID
  | LORAMAC_STATUS_DATARATE_INVALID | LORAMAC_STATUS_FREQ_AND_DR_INVALID
  | LORAMAC_STATUS_NO_NETWORK_JOINED | LORAMAC_STATUS_LENGTH_ERROR
  | LORAMAC_STATUS_MAC_CMD_LENGTH_ERROR | LORAMAC_STATUS_DEVICE_OFF
  deriving DecidableEq, Repr

inductive LoRaMacEventInfoStatus_t where
  | LORAMAC_EVENT_INFO_STATUS_OK | LORAMAC_EVENT_INFO_STATUS_ERROR
  | LORAMAC_EVENT_INFO_STATUS_TX_TIMEOUT | LORAMAC_EVENT_INFO_STATUS_RX2_TIMEOUT
  | LORAMAC_EVENT_INFO_STATUS_RX2_ERROR | LORAMAC_EVENT_INFO_STATUS_JOIN_FAIL
  | LORAMAC_EVENT_INFO_STATUS_DOWNLINK_REPEATED
  | LORAMAC_EVENT_INFO_STATUS_DOWNLINK_TOO_MANY_FRAMES_LOSS
  | LORAMAC_EVENT_INFO_STATUS_ADDRESS_FAIL | LORAMAC_EVENT_INFO_STATUS_MIC_FAIL
  deriving DecidableEq, Repr

inductive Mcps_t where
  | MCPS_UNCONFIRMED | MCPS_CONFIRMED | MCPS_MULTICAST | MCPS_PROPRIETARY
  deriving DecidableEq, Repr

inductive Mlme_t where
  | MLME_JOIN | MLME_LINK_CHECK
  deriving DecidableEq, Repr

inductive RadioState_t where
  | RF_IDLE | RF_RX_RUNNING | RF_TX_RUNNING | RF_CAD
  deriving DecidableEq, Repr

/-- `DrRange` is a union: its low half is the signed field `Min`, its high half `Max`. -/
structure ChannelParams_t where
  Frequency : UInt32
  DrRange : UInt8
  Band : UInt8
  deriving DecidableEq, Repr

def ChannelParams_t.Min (c : ChannelParams_t) : Int :=
  (BitVec.ofNat 4 c.DrRange.toNat).toInt

def ChannelParams_t.Max (c : ChannelParams_t) : Int :=
  (BitVec.ofNat 4 (c.DrRange.toNat >>> 4)).toInt

structure Band_t where
  DCycle : UInt16
  LastTxDoneTime : TimerTime_t
  TimeOff : TimerTime_t
  deriving DecidableEq, Repr

structure Rx2ChannelParams_t where
  Frequency : UInt32
  Datarate : UInt8
  deriving DecidableEq, Repr

/-- With 16 channels only the first word of `ChannelsMask` is used. -/
structure LoRaMacParams_t where
  ChannelsTxPower : Int
  ChannelsDatarate : Int
  MaxRxWindow : UInt32
  ReceiveDelay1 : UInt32
  ReceiveDelay2 : UInt32
  JoinAcceptDelay1 : UInt32
  JoinAcceptDelay2 : UInt32
  ChannelsNbRep : UInt8
  Rx1DrOffset : UInt8
  Rx2Channel : Rx2ChannelParams_t
  ChannelsMask : UInt16
  deriving DecidableEq, Repr

structure MulticastParams_t where
  Address : UInt32
  NwkSKey : List UInt8
  AppSKey : List UInt8
  DownLinkCounter : UInt32
  deriving DecidableEq, Repr

/-- The bits of `LoRaMacState`. -/
structure LoRaMacState_t where
  MAC_TX_RUNNING : Bool
  MAC_RX : Bool
  MAC_ACK_REQ : Bool
  MAC_ACK_RETRY : Bool
  MAC_TX_DELAYED : Bool
  MAC_TX_CONFIG : Bool
  MAC_RX_ABORT : Bool
  deriving DecidableEq, Repr

def MAC_IDLE : LoRaMacState_t := ⟨false, false, false, false, false, false, false⟩

structure LoRaMacFlags_t where
  McpsReq : Bool
  McpsInd : Bool
  MlmeReq : Bool
  MacDone : Bool
  deriving DecidableEq, Repr

structure McpsConfirm_t where
  McpsRequest : Mcps_t
  Status : LoRaMacEventInfoStatus_t
  Datarate : UInt8
  TxPower : Int
  AckReceived : Bool
  NbRetries : UInt8
  TxTimeOnAir : TimerTime_t
  UpLinkCounter : UInt32
  deriving DecidableEq, Repr

/-- `Buffer` is `NULL` or points to `LoRaMacRxPayload`. -/
structure McpsIndication_t where
  McpsIndication : Mcps_t
  Status : LoRaMacEventInfoStatus_t
  Multicast : Bool
  Port : UInt8
  RxDatarate : UInt8
  FramePending : Bool
  hasBuffer : Bool
  BufferSize : UInt8
  RxData : Bool
  Rssi : Int
  Snr : UInt8
  RxSlot : UInt8
  AckReceived : Bool
  DownLinkCounter : UInt32
  deriving DecidableEq, Repr

structure MlmeConfirm_t where
  MlmeRequest : Mlme_t
  Status : LoRaMacEventInfoStatus_t
  TxTimeOnAir : TimerTime_t
  DemodMargin : UInt8
  NbGateways : UInt8
  deriving DecidableEq, Repr

/-- A software timer: its period, and whether it stands in the list of `timer.c`. -/
structure TimerEvent_t where
  ReloadValue : TimerTime_t
  queued : Bool
  deriving DecidableEq, Repr

/-- `TimerSetValue` stops the timer. -/
def TimerSetValue (_obj : TimerEvent_t) (value : TimerTime_t) : TimerEvent_t := ⟨value, false⟩

def TimerStart (obj : TimerEvent_t) : TimerEvent_t := { obj with queued := true }

def TimerStop (obj : TimerEvent_t) : TimerEvent_t := { obj with queued := false }

/-- What a data frame was built from: the `UpLinkCounter` that it is encrypted and
authenticated with, and the size of the buffer of the request, if that is not `NULL`. -/
structure FrameTag where
  counter : UInt32
  fBufferSize : Option UInt16
  deriving DecidableEq, Repr

/-- A call of `Radio.Send`, which takes the `size` of the frame in 8 bits. `frame` is `none`
for what is not a data frame, `maxPayload` is the limit that goes with the data rate, and
`started` is what the clock was last read as: the call is not earlier. -/
structure Transmission where
  size : Nat
  bytes : List UInt8
  frame : Option FrameTag
  Frequency : UInt32
  Datarate : Int
  TxPower : Nat
  maxPayload : Nat
  TimeOnAir : TimerTime_t
  started : TimerTime_t
  deriving DecidableEq, Repr

/-- The primitives of the upper layer that the state check calls. -/
inductive Primitive where
  | MacMcpsConfirm | MacMlmeConfirm | MacMcpsIndication
  deriving DecidableEq, Repr

/-- What passes between the MAC, the radio and the upper layer: frames and their ends,
data requests that are accepted, and the calls of the primitives. -/
inductive Action where
  | Send (t : Transmission)
  | TxDone (time : TimerTime_t)
  | TxTimeout
  | Accepted
  | MacMcpsConfirm (mcpsConfirm : McpsConfirm_t)
  | MacMlmeConfirm (mlmeConfirm : MlmeConfirm_t)
  | MacMcpsIndication (mcpsIndication : McpsIndication_t) (bytes : List UInt8)
  deriving DecidableEq, Repr

/-- A call of `RxWindowSetup` that finds the radio idle. -/
structure RxWindow where
  freq : UInt32
  downlinkDatarate : Nat
  bandwidth : UInt32
  timeout : UInt16
  maxPayload : Nat
  rxContinuous : Bool
  MaxRxWindow : UInt32
  deriving DecidableEq, Repr

/-- What the MAC calls and does not contain: the ciphers, the radio, the real-time clock
and the battery. `clock`, `Random` and `rand`, which is the generator behind `rand1`, give
their successive values. -/
structure Env where
  aes_encrypt : List UInt8 → List UInt8 → Mem
  LoRaMacComputeMic : List UInt8 → List UInt8 → UInt32 → UInt8 → UInt32 → UInt32
  LoRaMacJoinComputeMic : List UInt8 → List UInt8 → UInt32
  CheckRfFrequency : UInt32 → Bool
  TimeOnAir : Int → Nat → TimerTime_t
  Random : Nat → UInt32
  rand : Nat → UInt32
  clock : Nat → TimerTime_t
  GetBatteryLevel : Option (Nat → UInt8)

/-- The state of the board: the radio, and how often the clock, the generators and the
battery were read. `log` has the actions up to now, `windows` the windows that were opened,
`accesses` the indices at which the two buffers of MAC commands were read or written, and
`lookups` the indices that the tables of constants were read at, with their lengths. -/
structure Board where
  status : RadioState_t
  next : Nat
  reads : Nat
  draws : Nat
  measures : Nat
  log : List Action
  windows : List RxWindow
  accesses : List Nat
  lookups : List (Int × Nat)

/-- The globals of `LoRaMac.c`. `PreparedFrame` tells what the frame in `LoRaMacBuffer` was
built from, `strayBytes` is what lies in memory in front of `LoRaMacRxPayload`, and `inside`
is the primitive that the state check has called and that has not returned. -/
structure Mac where
  env : Env
  board : Board
  inside : Option Primitive
  LoRaMacDevEui : List UInt8
  LoRaMacAppEui : List UInt8
  LoRaMacAppKey : List UInt8
  LoRaMacNwkSKey : List UInt8
  LoRaMacAppSKey : List UInt8
  LoRaMacDevNonce : UInt16
  LoRaMacNetID : UInt32
  LoRaMacDevAddr : UInt32
  MulticastChannels : List MulticastParams_t
  LoRaMacDeviceClass : DeviceClass_t
  RepeaterSupport : Bool
  LoRaMacBuffer : Mem
  LoRaMacBufferPktLen : Nat
  PreparedFrame : Option FrameTag
  LoRaMacPayload : Mem
  LoRaMacRxPayload : Mem
  strayBytes : Mem
  UpLinkCounter : UInt32
  DownLinkCounter : UInt32
  IsUpLinkCounterFixed : Bool
  IsRxWindowsEnabled : Bool
  IsLoRaMacNetworkJoined : Bool
  AdrCtrlOn : Bool
  AdrAckCounter : UInt32
  NodeAckRequested : Bool
  SrvAckRequested : Bool
  MacCommandsInNextTx : Bool
  MacCommandsBufferIndex : UInt8
  MacCommandsBufferToRepeatIndex : UInt8
  MacCommandsBuffer : Mem
  MacCommandsBufferToRepeat : Mem
  Bands : Nat → Band_t
  Channels : Nat → ChannelParams_t
  LoRaMacParams : LoRaMacParams_t
  LoRaMacParamsDefaults : LoRaMacParams_t
  ChannelsNbRepCounter : UInt8
  MaxDCycle : UInt8
  AggregatedDCycle : UInt16
  AggregatedLastTxDoneTime : TimerTime_t
  AggregatedTimeOff : TimerTime_t
  DutyCycleOn : Bool
  Channel : UInt8
  LastTxChannel : UInt8
  LoRaMacState : LoRaMacState_t
  MacStateCheckTimer : TimerEvent_t
  TxDelayedTimer : TimerEvent_t
  RxWindowTimer1 : TimerEvent_t
  RxWindowTimer2 : TimerEvent_t
  RxWindow1Delay : UInt32
  RxWindow2Delay : UInt32
  AckTimeoutTimer : TimerEvent_t
  AckTimeoutRetries : UInt8
  AckTimeoutRetriesCounter : UInt8
  AckTimeoutRetry : Bool
  TxTimeOnAir : TimerTime_t
  JoinRequestTrials : UInt16
  McpsIndication : McpsIndication_t
  McpsConfirm : McpsConfirm_t
  MlmeConfirm : MlmeConfirm_t
  RxSlot : UInt8
  LoRaMacFlags : LoRaMacFlags_t

/-- Adds an action to the log. -/
def Mac.record (s : Mac) (a : Action) : Mac :=
  { s with board := { s.board with log := s.board.log ++ [a] } }

/-- The buffers of MAC commands are accessed at some indices. -/
def Mac.access (s : Mac) (indices : List Nat) : Mac :=
  { s with board := { s.board with accesses := s.board.accesses ++ indices } }

/-- Tables of constants are read at some indices. -/
def Mac.lookup (s : Mac) (indices : List (Int × Nat)) : Mac :=
  { s with board := { s.board with lookups := s.board.lookups ++ indices } }

/-- `TimerGetCurrentTime`. -/
def TimerGetCurrentTime (s : Mac) : TimerTime_t × Mac :=
  (s.env.clock s.board.reads, { s with board := { s.board with reads := s.board.reads + 1 } })

/-- `TimerGetElapsedTime`, which is `RtcComputeElapsedTime`: 0 for a saved time of 0. -/
def TimerGetElapsedTime (s : Mac) (savedTime : TimerTime_t) : TimerTime_t × Mac :=
  if savedTime = 0 then (0, s)
  else
    let (currentTime, s) := TimerGetCurrentTime s
    (if currentTime < savedTime then currentTime + (0xFFFFFFFF - savedTime)
      else currentTime - savedTime, s)

/-- `rand1`: the next value of a generator, reduced below `RAND_LOCAL_MAX`. -/
def rand1 (s : Mac) : Int × Mac :=
  ((s.env.rand s.board.next).toNat % 2147483647,
    { s with board := { s.board with next := s.board.next + 1 } })

/-- `randr`. The arithmetic of `int32_t` wraps round. -/
def randr (s : Mac) (min max : Int) : Int × Mac :=
  let (r, s) := rand1 s
  ((r.tmod ((max - min + 1).bmod 4294967296) + min).bmod 4294967296, s)

/-- `Radio.Sleep` and `Radio.Standby` leave the radio idle. -/
def Radio_Sleep (s : Mac) : Mac :=
  { s with board := { s.board with status := .RF_IDLE } }

def Radio_Random (s : Mac) : UInt32 × Mac :=
  (s.env.Random s.board.draws, { s with board := { s.board with draws := s.board.draws + 1 } })

/-- The conversion of an `int` to `uint8_t`, `uint32_t`. -/
def toUInt8 (x : Int) : UInt8 := UInt8.ofNat (x % 256).toNat

def toUInt32 (x : Int) : UInt32 := UInt32.ofNat (x % 4294967296).toNat

def ValueInRange (value min max : Int) : Bool :=
  min ≤ value && value ≤ max

theorem ValueInRange_eq_true {value min max : Int} :
    ValueInRange value min max = true ↔ min ≤ value ∧ value ≤ max := by
  simp [ValueInRange]

/-- `CountBits( mask, nbBits )`. -/
def CountBits (mask : UInt16) (nbBits : Nat) : Nat :=
  ((List.range nbBits).filter fun j => mask.toNat.testBit j).length

end loranode.mac
