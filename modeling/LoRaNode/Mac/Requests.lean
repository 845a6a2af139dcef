import LoRaNode.Mac.Receive

namespace loranode.mac

open LoRaMacStatus_t LoRaMacFrameType_t LoRaMacEventInfoStatus_t

inductive McpsReq_t where
  | Unconfirmed (fPort : UInt8) (fBuffer : Option Mem) (fBufferSize : UInt16) (Datarate : Int)
  | Confirmed (fPort : UInt8) (fBuffer : Option Mem) (fBufferSize : UInt16) (Datarate : Int)
      (NbTrials : UInt8)
  | Proprietary (fBuffer : Option Mem) (fBufferSize : UInt16) (Datarate : Int)
  | Multicast

/-- The management requests; a type that is neither of the two is refused by the code. -/
inductive MlmeReq_t where
  | Join (DevEui AppEui AppKey : Option (List UInt8))
  | LinkCheck

/-- `LoRaMacMcpsRequest` once the frame is known: `readyToSend` is true. -/
def sendRequest (s : Mac) (type : Mcps_t) (macHdr : LoRaMacFrameType_t) (fPort : UInt8)
    (fBuffer : Option Mem) (fBufferSize : UInt16) (datarate : Int) :
    Option (LoRaMacStatus_t × Mac) :=
  if s.AdrCtrlOn = false ∧
      ValueInRange datarate LORAMAC_TX_MIN_DATARATE LORAMAC_TX_MAX_DATARATE = false then
    some (LORAMAC_STATUS_PARAMETER_INVALID, s)
  else
    let s :=
      if s.AdrCtrlOn then s
      else { s with LoRaMacParams := { s.LoRaMacParams with ChannelsDatarate := datarate } }
    match Send s macHdr fPort fBuffer fBufferSize with
    | none => none
    | some (LORAMAC_STATUS_OK, s) => some (LORAMAC_STATUS_OK, { s.record .Accepted with
        McpsConfirm := { s.McpsConfirm with McpsRequest := type }
        LoRaMacFlags := { s.LoRaMacFlags with McpsReq := true } })
    | some (status, s) => some (status, { s with NodeAckRequested := false })

def LoRaMacMcpsRequest (s : Mac) (mcpsRequest : McpsReq_t) : Option (LoRaMacStatus_t × Mac) :=
  if s.LoRaMacState.MAC_TX_RUNNING = true ∨ s.LoRaMacState.MAC_TX_DELAYED = true then
    some (LORAMAC_STATUS_BUSY, s)
  else
    let s := { s with
      McpsConfirm := ⟨.MCPS_UNCONFIRMED, LORAMAC_EVENT_INFO_STATUS_ERROR, 0, 0, false, 0, 0, 0⟩ }
    match mcpsRequest with
    | .Unconfirmed fPort fBuffer fBufferSize Datarate =>
      sendRequest { s with AckTimeoutRetries := 1 } .MCPS_UNCONFIRMED FRAME_TYPE_DATA_UNCONFIRMED_UP
        fPort fBuffer fBufferSize Datarate
    | .Confirmed fPort fBuffer fBufferSize Datarate NbTrials =>
      sendRequest { s with AckTimeoutRetriesCounter := 1, AckTimeoutRetries := NbTrials }
        .MCPS_CONFIRMED FRAME_TYPE_DATA_CONFIRMED_UP fPort fBuffer fBufferSize Datarate
    | .Proprietary fBuffer fBufferSize Datarate =>
      sendRequest { s with AckTimeoutRetries := 1 } .MCPS_PROPRIETARY FRAME_TYPE_PROPRIETARY 0
        fBuffer fBufferSize Datarate
    | .Multicast => some (LORAMAC_STATUS_SERVICE_UNKNOWN, s)

def ResetMacParameters (s : Mac) : Mac :=
  { s with
    IsLoRaMacNetworkJoined := false
    UpLinkCounter := 1
    DownLinkCounter := 0
    AdrAckCounter := 0
    ChannelsNbRepCounter := 0
    AckTimeoutRetries := 1
    AckTimeoutRetriesCounter := 1
    AckTimeoutRetry := false
    MaxDCycle := 0
    AggregatedDCycle := 1
    MacCommandsBufferIndex := 0
    MacCommandsBufferToRepeatIndex := 0
    IsRxWindowsEnabled := true
    LoRaMacParams := s.LoRaMacParamsDefaults
    NodeAckRequested := false
    SrvAckRequested := false
    MacCommandsInNextTx := false
    MulticastChannels := s.MulticastChannels.map fun group => { group with DownLinkCounter := 0 }
    Channel := UInt8.ofNat LORA_MAX_NB_CHANNELS }

def AlternateDatarate (nbTrials : UInt16) : Int :=
  if nbTrials % 48 = 0 then 0
  else if nbTrials % 32 = 0 then 1
  else if nbTrials % 24 = 0 then 2
  else if nbTrials % 16 = 0 then 3
  else if nbTrials % 8 = 0 then 4
  else 5

/-- The end of `LoRaMacMlmeRequest`. -/
def mlmeOutcome : LoRaMacStatus_t × Mac → LoRaMacStatus_t × Mac
  | (LORAMAC_STATUS_OK, s) => (LORAMAC_STATUS_OK, s)
  | (status, s) => (status, { s with
      NodeAckRequested := false
      LoRaMacFlags := { s.LoRaMacFlags with MlmeReq := false } })

/-- `case MLME_JOIN` of `LoRaMacMlmeRequest`. -/
def joinRequest (s : Mac) (DevEui AppEui AppKey : Option (List UInt8)) :
    Option (LoRaMacStatus_t × Mac) :=
  if s.LoRaMacState.MAC_TX_DELAYED then some (LORAMAC_STATUS_BUSY, s)
  else match DevEui, AppEui, AppKey with
    | some DevEui, some AppEui, some AppKey =>
      let s := ResetMacParameters { s with
        LoRaMacFlags := { s.LoRaMacFlags with MlmeReq := true }
        LoRaMacDevEui := DevEui
        LoRaMacAppEui := AppEui
        LoRaMacAppKey := AppKey }
      let trials := s.JoinRequestTrials + 1
      let s := { s with
        JoinRequestTrials := trials
        LoRaMacParams := { s.LoRaMacParams with ChannelsDatarate := AlternateDatarate trials } }
      (Send s FRAME_TYPE_JOIN_REQ 0 none 0).map mlmeOutcome
    | _, _, _ => some (LORAMAC_STATUS_PARAMETER_INVALID, s)

/-- `LoRaMacMlmeRequest`. Clearing `MlmeConfirm` makes its `MlmeRequest` a join. -/
def LoRaMacMlmeRequest (s : Mac) (mlmeRequest : MlmeReq_t) : Option (LoRaMacStatus_t × Mac) :=
  if s.LoRaMacState.MAC_TX_RUNNING then some (LORAMAC_STATUS_BUSY, s)
  else
    let s := { s with MlmeConfirm := ⟨.MLME_JOIN, LORAMAC_EVENT_INFO_STATUS_ERROR, 0, 0, 0⟩ }
    match mlmeRequest with
    | .Join DevEui AppEui AppKey => joinRequest s DevEui AppEui AppKey
    | .LinkCheck =>
      some (mlmeOutcome (AddMacCommand { s with
        LoRaMacFlags := { s.LoRaMacFlags with MlmeReq := true }
        MlmeConfirm := { s.MlmeConfirm with MlmeRequest := .MLME_LINK_CHECK } }
        .MOTE_MAC_LINK_CHECK_REQ 0 0))

/-- The attributes of `Mib_t` with the values that a request has for them. The last two
can only be read. -/
inductive MibSet where
  | MIB_DEVICE_CLASS (Class : DeviceClass_t)
  | MIB_NETWORK_JOINED (IsNetworkJoined : Bool)
  | MIB_ADR (AdrEnable : Bool)
  | MIB_NET_ID (NetID : UInt32)
  | MIB_DEV_ADDR (DevAddr : UInt32)
  | MIB_NWK_SKEY (NwkSKey : Option (List UInt8))
  | MIB_APP_SKEY (AppSKey : Option (List UInt8))
  | MIB_PUBLIC_NETWORK (EnablePublicNetwork : Bool)
  | MIB_REPEATER_SUPPORT (EnableRepeaterSupport : Bool)
  | MIB_RX2_CHANNEL (Rx2Channel : Rx2ChannelParams_t)
  | MIB_CHANNELS_MASK (ChannelsMask : Option UInt16)
  | MIB_CHANNELS_NB_REP (ChannelNbRep : UInt8)
  | MIB_MAX_RX_WINDOW_DURATION (MaxRxWindow : UInt32)
  | MIB_RECEIVE_DELAY_1 (ReceiveDelay1 : UInt32)
  | MIB_RECEIVE_DELAY_2 (ReceiveDelay2 : UInt32)
  | MIB_JOIN_ACCEPT_DELAY_1 (JoinAcceptDelay1 : UInt32)
  | MIB_JOIN_ACCEPT_DELAY_2 (JoinAcceptDelay2 : UInt32)
  | MIB_CHANNELS_DEFAULT_DATARATE (ChannelsDefaultDatarate : Int)
  | MIB_CHANNELS_DATARATE (ChannelsDatarate : Int)
  | MIB_CHANNELS_TX_POWER (ChannelsTxPower : Int)
  | MIB_UPLINK_COUNTER (UpLinkCounter : UInt32)
  | MIB_DOWNLINK_COUNTER (DownLinkCounter : UInt32)
  | MIB_CHANNELS
  | MIB_MULTICAST_CHANNEL

/-- `case MIB_DEVICE_CLASS`. -/
def setDeviceClass (s : Mac) (Class : DeviceClass_t) : Mac :=
  let s := { s with LoRaMacDeviceClass := Class }
  match Class with
  | .CLASS_A => Radio_Sleep s
  | .CLASS_B => s
  | .CLASS_C => OnRxWindow2TimerEvent { s with NodeAckRequested := false }

/-- Gives `LoRaMacParams` a new value if it is valid. -/
def setParams (s : Mac) (valid : Bool) (params : LoRaMacParams_t) : LoRaMacStatus_t × Mac :=
  if valid then (LORAMAC_STATUS_OK, { s with LoRaMacParams := params })
  else (LORAMAC_STATUS_PARAMETER_INVALID, s)

/-- The `switch` of `LoRaMacMibSetRequestConfirm`. The kind of the network goes to the radio
only. -/
def mibSet (s : Mac) : MibSet → LoRaMacStatus_t × Mac
  | .MIB_DEVICE_CLASS Class => (LORAMAC_STATUS_OK, setDeviceClass s Class)
  | .MIB_NETWORK_JOINED joined => (LORAMAC_STATUS_OK, { s with IsLoRaMacNetworkJoined := joined })
  | .MIB_ADR on => (LORAMAC_STATUS_OK, { s with AdrCtrlOn := on })
  | .MIB_NET_ID NetID => (LORAMAC_STATUS_OK, { s with LoRaMacNetID := NetID })
  | .MIB_DEV_ADDR DevAddr => (LORAMAC_STATUS_OK, { s with LoRaMacDevAddr := DevAddr })
  | .MIB_NWK_SKEY (some NwkSKey) => (LORAMAC_STATUS_OK, { s with LoRaMacNwkSKey := NwkSKey })
  | .MIB_APP_SKEY (some AppSKey) => (LORAMAC_STATUS_OK, { s with LoRaMacAppSKey := AppSKey })
  | .MIB_NWK_SKEY none | .MIB_APP_SKEY none => (LORAMAC_STATUS_PARAMETER_INVALID, s)
  | .MIB_PUBLIC_NETWORK _ => (LORAMAC_STATUS_OK, s)
  | .MIB_REPEATER_SUPPORT on => (LORAMAC_STATUS_OK, { s with RepeaterSupport := on })
  | .MIB_RX2_CHANNEL channel => setParams s true { s.LoRaMacParams with Rx2Channel := channel }
  | .MIB_CHANNELS_MASK mask =>
    setParams s mask.isSome { s.LoRaMacParams with ChannelsMask := mask.getD 0 }
  | .MIB_CHANNELS_NB_REP nbRep =>
    setParams s (1 ≤ nbRep && nbRep ≤ 15) { s.LoRaMacParams with ChannelsNbRep := nbRep }
  | .MIB_MAX_RX_WINDOW_DURATION window =>
    setParams s true { s.LoRaMacParams with MaxRxWindow := window }
  | .MIB_RECEIVE_DELAY_1 delay => setParams s true { s.LoRaMacParams with ReceiveDelay1 := delay }
  | .MIB_RECEIVE_DELAY_2 delay => setParams s true { s.LoRaMacParams with ReceiveDelay2 := delay }
  | .MIB_JOIN_ACCEPT_DELAY_1 delay =>
    setParams s true { s.LoRaMacParams with JoinAcceptDelay1 := delay }
  | .MIB_JOIN_ACCEPT_DELAY_2 delay =>
    setParams s true { s.LoRaMacParams with JoinAcceptDelay2 := delay }
  | .MIB_CHANNELS_DEFAULT_DATARATE datarate =>
    if ValueInRange datarate LORAMAC_TX_MIN_DATARATE LORAMAC_TX_MAX_DATARATE then
      (LORAMAC_STATUS_OK, { s with
        LoRaMacParamsDefaults := { s.LoRaMacParamsDefaults with ChannelsDatarate := datarate } })
    else (LORAMAC_STATUS_PARAMETER_INVALID, s)
  | .MIB_CHANNELS_DATARATE datarate =>
    setParams s (ValueInRange datarate LORAMAC_TX_MIN_DATARATE LORAMAC_TX_MAX_DATARATE)
      { s.LoRaMacParams with ChannelsDatarate := datarate }
  | .MIB_CHANNELS_TX_POWER power =>
    setParams s (ValueInRange power LORAMAC_MAX_TX_POWER LORAMAC_MIN_TX_POWER)
      { s.LoRaMacParams with ChannelsTxPower := power }
  | .MIB_UPLINK_COUNTER counter => (LORAMAC_STATUS_OK, { s with UpLinkCounter := counter })
  | .MIB_DOWNLINK_COUNTER counter => (LORAMAC_STATUS_OK, { s with DownLinkCounter := counter })
  | .MIB_CHANNELS | .MIB_MULTICAST_CHANNEL => (LORAMAC_STATUS_SERVICE_UNKNOWN, s)

def LoRaMacMibSetRequestConfirm (s : Mac) (r : MibSet) : LoRaMacStatus_t × Mac :=
  if s.LoRaMacState.MAC_TX_RUNNING then (LORAMAC_STATUS_BUSY, s) else mibSet s r

/-- `LoRaMacMulticastChannelLink` for a group that is not in the list. -/
def LoRaMacMulticastChannelLink (s : Mac) (group : MulticastParams_t) : LoRaMacStatus_t × Mac :=
  if s.LoRaMacState.MAC_TX_RUNNING then (LORAMAC_STATUS_BUSY, s)
  else (LORAMAC_STATUS_OK, { s with
    MulticastChannels := s.MulticastChannels ++ [{ group with DownLinkCounter := 0 }] })

/-- `LoRaMacMulticastChannelUnlink` for the group at some place of the list. -/
def LoRaMacMulticastChannelUnlink (s : Mac) (i : Nat) : LoRaMacStatus_t × Mac :=
  if s.LoRaMacState.MAC_TX_RUNNING then (LORAMAC_STATUS_BUSY, s)
  else (LORAMAC_STATUS_OK, { s with MulticastChannels := s.MulticastChannels.eraseIdx i })

/-- The calls that the upper layer can make. `LoRaMacQueryTxPossible` is not among them. -/
inductive Request where
  | mcps (mcpsRequest : McpsReq_t)
  | mlme (mlmeRequest : MlmeReq_t)
  | mib (r : MibSet)
  | channelAdd (id : UInt8) (params : ChannelParams_t)
  | channelRemove (id : UInt8)
  | multicastLink (group : MulticastParams_t)
  | multicastUnlink (i : Nat)

def request (s : Mac) : Request → Option Mac
  | .mcps mcpsRequest => (LoRaMacMcpsRequest s mcpsRequest).map Prod.snd
  | .mlme mlmeRequest => (LoRaMacMlmeRequest s mlmeRequest).map Prod.snd
  | .mib r => some (LoRaMacMibSetRequestConfirm s r).2
  | .channelAdd id params => some (LoRaMacChannelAdd s id params).2
  | .channelRemove id => some (LoRaMacChannelRemove s id).2
  | .multicastLink group => some (LoRaMacMulticastChannelLink s group).2
  | .multicastUnlink i => some (LoRaMacMulticastChannelUnlink s i).2

end loranode.mac
