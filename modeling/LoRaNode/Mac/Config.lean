import LoRaNode.Mac.Schedule

namespace loranode.mac

open LoRaMacStatus_t LoRaMacFrameType_t LoRaMacEventInfoStatus_t

/-- The part of the state that the server, the upper layer and the retries configure, with
the accesses that go with it. -/
structure Config where
  accesses : List Nat
  lookups : List (Int × Nat)
  MacCommandsInNextTx : Bool
  MacCommandsBufferIndex : UInt8
  MacCommandsBufferToRepeatIndex : UInt8
  MacCommandsBuffer : Mem
  MacCommandsBufferToRepeat : Mem
  Channels : Nat → ChannelParams_t
  LoRaMacParams : LoRaMacParams_t
  LoRaMacParamsDefaults : LoRaMacParams_t

def Mac.config (s : Mac) : Config where
  accesses := s.board.accesses
  lookups := s.board.lookups
  MacCommandsInNextTx := s.MacCommandsInNextTx
  MacCommandsBufferIndex := s.MacCommandsBufferIndex
  MacCommandsBufferToRepeatIndex := s.MacCommandsBufferToRepeatIndex
  MacCommandsBuffer := s.MacCommandsBuffer
  MacCommandsBufferToRepeat := s.MacCommandsBufferToRepeat
  Channels := s.Channels
  LoRaMacParams := s.LoRaMacParams
  LoRaMacParamsDefaults := s.LoRaMacParamsDefaults

/-- How a MAC command of the server changes the parameters. -/
inductive Commanded (p : LoRaMacParams_t) : LoRaMacParams_t → Prop where
  | linkAdr {datarate txPower : Int} {mask : UInt16} {nbRep : UInt8}
      (hdatarate : 0 ≤ datarate ∧ datarate ≤ 7) (hpower : 0 ≤ txPower ∧ txPower ≤ 5)
      (hnbRep : 1 ≤ nbRep ∧ nbRep ≤ 15) :
      Commanded p { p with
        ChannelsDatarate := datarate
        ChannelsTxPower := txPower
        ChannelsMask := mask
        ChannelsNbRep := nbRep }
  | rxParamSetup {freq : UInt32} {datarate drOffset : UInt8} (hdatarate : datarate ≤ 7)
      (hoffset : drOffset ≤ 5) :
      Commanded p { p with Rx2Channel := ⟨freq, datarate⟩, Rx1DrOffset := drOffset }
  | rxTimingSetup {delay1 delay2 : UInt32} :
      Commanded p { p with ReceiveDelay1 := delay1, ReceiveDelay2 := delay2 }

/-- What the MAC itself keeps, whatever the server and the upper layer do. -/
structure Kept (P : Config → Prop) : Prop where
  accepted : ∀ {s t : Mac}, P s.config → Accepted s t → P t.config
  commanded : ∀ {s : Mac} {p : LoRaMacParams_t}, Commanded s.LoRaMacParams p → P s.config →
    P { s.config with LoRaMacParams := p }
  addMacCommand : ∀ (s : Mac) cmd p1 p2, P s.config → P (AddMacCommand s cmd p1 p2).2.config
  schedule : ∀ {s t : Mac} {status}, ScheduleTx s = some (status, t) → P s.config → P t.config
  nextTrial : ∀ {s : Mac}, P s.config → P (nextTrial s).config
  giveUpTrials : ∀ {s : Mac}, P s.config → P (giveUpTrials s).config
  reset : ∀ {s : Mac}, P s.config → P (ResetMacParameters s).config
  datarate : ∀ {s : Mac} {datarate : Int}, 0 ≤ datarate → datarate ≤ 7 → P s.config →
    P { s.config with LoRaMacParams := { s.LoRaMacParams with ChannelsDatarate := datarate } }
  channelAdd : ∀ {s : Mac} id params, P s.config → P (LoRaMacChannelAdd s id params).2.config
  channelRemove : ∀ {s : Mac} id, P s.config → P (LoRaMacChannelRemove s id).2.config

/-- A status with a bit cleared is not complete. -/
theorem mask_of_complete {status mask : UInt8} (h : status &&& mask &&& 0x07 = 0x07) :
    status &&& 0x07 = 0x07 ∧ mask &&& 0x07 = 0x07 := by
  have hstatus : status &&& (status &&& mask &&& 0x07) = status &&& mask &&& 0x07 := by
    rw [← UInt8.and_assoc, ← UInt8.and_assoc, UInt8.and_self]
  have hmask : mask &&& (status &&& mask &&& 0x07) = status &&& mask &&& 0x07 := by
    rw [← UInt8.and_assoc, UInt8.and_comm mask, UInt8.and_assoc status, UInt8.and_self]
  rw [h] at hstatus hmask
  exact ⟨hstatus, hmask⟩

theorem range_of_linkAdrStatus {maskStatus : UInt8} {datarate txPower : Int}
    (h : linkAdrStatus maskStatus datarate txPower &&& 0x07 = 0x07) :
    (0 ≤ datarate ∧ datarate ≤ 7) ∧ 0 ≤ txPower ∧ txPower ≤ 5 := by
  unfold linkAdrStatus at h
  dsimp only at h
  split at h
  · next hpower =>
    refine ⟨?_, ValueInRange_eq_true.mp hpower⟩
    split at h
    · next hdatarate => exact ValueInRange_eq_true.mp hdatarate
    · exact absurd (mask_of_complete h).2 (by decide)
  · exact absurd (mask_of_complete h).2 (by decide)

theorem range_of_rxParamSetupStatus {s : Mac} {freq : UInt32} {datarate drOffset : UInt8}
    (h : rxParamSetupStatus s freq datarate drOffset &&& 0x07 = 0x07) :
    datarate ≤ 7 ∧ drOffset ≤ 5 := by
  unfold rxParamSetupStatus at h
  dsimp only at h
  split at h
  · next hoffset =>
    refine ⟨?_, UInt8.le_iff_toNat_le.mpr (Int.ofNat_le.mp (ValueInRange_eq_true.mp hoffset).2)⟩
    split at h
    · next hdatarate =>
      exact UInt8.le_iff_toNat_le.mpr (Int.ofNat_le.mp (ValueInRange_eq_true.mp hdatarate).2)
    · exact absurd (mask_of_complete h).2 (by decide)
  · exact absurd (mask_of_complete h).2 (by decide)

/-- The repetitions of a link ADR request: 0 stands for 1. -/
theorem range_of_redundancy (redundancy : UInt8) :
    1 ≤ (if redundancy &&& 0x0F = 0 then 1 else redundancy &&& 0x0F) ∧
      (if redundancy &&& 0x0F = 0 then 1 else redundancy &&& 0x0F) ≤ 15 := by
  split
  · decide
  · next hne =>
    have hmax : (redundancy &&& 0x0F).toNat ≤ 15 := by
      rw [UInt8.toNat_and]
      exact Nat.and_le_right
    have hmin : (redundancy &&& 0x0F).toNat ≠ 0 := fun h => hne (UInt8.toNat_inj.mp h)
    exact ⟨UInt8.le_iff_toNat_le.mpr (Nat.one_le_iff_ne_zero.mpr hmin),
      UInt8.le_iff_toNat_le.mpr hmax⟩

theorem config_indicate (s : Mac) : (indicate s).config = s.config := by
  unfold indicate
  split <;> rfl

theorem config_confirmMlme (s : Mac) : (confirmMlme s).config = s.config := by
  unfold confirmMlme
  split
  · rfl
  · exact config_indicate _

theorem config_confirmRequests (s : Mac) : (confirmRequests s).config = s.config := by
  unfold confirmRequests
  split
  · unfold confirmMcps
    split
    · rfl
    · exact config_confirmMlme s
  · exact config_indicate _

theorem config_returnFrom (s : Mac) (p : Primitive) : (returnFrom s p).config = s.config := by
  cases p with
  | MacMcpsConfirm => exact config_confirmMlme _
  | MacMlmeConfirm => exact config_indicate _
  | MacMcpsIndication => rfl

/-- An attribute changes parameters and their defaults, or it opens the window of class C. -/
theorem config_mibSet (s : Mac) (r : MibSet) :
    (∃ u, u.config = s.config ∧ Light u (mibSet s r).2) ∨
      ∃ params defaults, (mibSet s r).2.config =
        { s.config with LoRaMacParams := params, LoRaMacParamsDefaults := defaults } := by
  have hset (valid : Bool) (p : LoRaMacParams_t) : ∃ params defaults,
      (setParams s valid p).2.config =
        { s.config with LoRaMacParams := params, LoRaMacParamsDefaults := defaults } := by
    unfold setParams
    split <;> exact ⟨_, _, rfl⟩
  cases r with
  | MIB_DEVICE_CLASS Class =>
    cases Class with
    | CLASS_A => exact .inr ⟨_, _, rfl⟩
    | CLASS_B => exact .inr ⟨_, _, rfl⟩
    | CLASS_C => exact .inl ⟨{ s with LoRaMacDeviceClass := .CLASS_C, NodeAckRequested := false },
        rfl, light_OnRxWindow2TimerEvent _⟩
  | MIB_NWK_SKEY NwkSKey => cases NwkSKey <;> exact .inr ⟨_, _, rfl⟩
  | MIB_APP_SKEY AppSKey => cases AppSKey <;> exact .inr ⟨_, _, rfl⟩
  | MIB_CHANNELS_DEFAULT_DATARATE datarate =>
    rw [mibSet]
    split <;> exact .inr ⟨_, _, rfl⟩
  | MIB_NETWORK_JOINED | MIB_ADR | MIB_NET_ID | MIB_DEV_ADDR | MIB_PUBLIC_NETWORK
  | MIB_REPEATER_SUPPORT | MIB_UPLINK_COUNTER | MIB_DOWNLINK_COUNTER | MIB_CHANNELS
  | MIB_MULTICAST_CHANNEL => exact .inr ⟨_, _, rfl⟩
  | _ => exact .inr (hset _ _)

section

variable {P : Config → Prop}

theorem Kept.light (hP : Kept P) {s t : Mac} (h : Light s t) (hs : P s.config) : P t.config :=
  hP.accepted hs h.refused.accepted

theorem kept_newChannel (hP : Kept P) {s : Mac} (channelIndex : UInt8) (chParam : ChannelParams_t)
    (hs : P s.config) : P (newChannel s channelIndex chParam).2.config := by
  rcases newChannel_snd s channelIndex chParam with h | h | h <;> rw [h]
  · exact hs
  · exact hP.channelRemove channelIndex hs
  · exact hP.channelAdd channelIndex chParam hs

theorem kept_processMacCommand (hP : Kept P) (s : Mac) (payload : Mem) (macIndex snr : UInt8)
    (cmd : LoRaMacSrvCmd_t) (hs : P s.config) :
    P (processMacCommand s payload macIndex snr cmd).2.config := by
  cases cmd with
  | SRV_MAC_LINK_CHECK_ANS => exact hs
  | SRV_MAC_LINK_ADR_REQ =>
    unfold processMacCommand linkAdrReq
    dsimp only
    split
    · exact hP.addMacCommand _ _ _ _ hs
    · refine hP.addMacCommand _ _ _ _ ?_
      split
      · next hstatus =>
        obtain ⟨hdatarate, hpower⟩ := range_of_linkAdrStatus hstatus
        exact hP.commanded (s := s) (.linkAdr hdatarate hpower (range_of_redundancy _)) hs
      · exact hs
  | SRV_MAC_DUTY_CYCLE_REQ => exact hP.addMacCommand _ _ _ _ hs
  | SRV_MAC_RX_PARAM_SETUP_REQ =>
    unfold processMacCommand rxParamSetupReq
    dsimp only
    refine hP.addMacCommand _ _ _ _ ?_
    split
    · next hstatus =>
      obtain ⟨hdatarate, hoffset⟩ := range_of_rxParamSetupStatus hstatus
      exact hP.commanded (s := s) (.rxParamSetup hdatarate hoffset) hs
    · exact hs
  | SRV_MAC_DEV_STATUS_REQ =>
    change P (devStatusReq s macIndex snr).2.config
    unfold devStatusReq
    split
    · exact hP.addMacCommand _ _ _ _ hs
    · exact hP.addMacCommand _ _ _ _ hs
  | SRV_MAC_NEW_CHANNEL_REQ =>
    unfold processMacCommand newChannelReq
    refine hP.addMacCommand _ _ _ _ ?_
    exact kept_newChannel hP (s := setTxConfig s true) _ _ hs
  | SRV_MAC_RX_TIMING_SETUP_REQ =>
    exact hP.addMacCommand _ _ _ _ (hP.commanded (s := s) .rxTimingSetup hs)

theorem kept_addCFList (hP : Kept P) {s : Mac} (p : Mem) (hs : P s.config) :
    P (addCFList s p).config := by
  have hlist (ks : List Nat) (s : Mac) (hs : P s.config) : P
      (ks.foldl (fun s k => (LoRaMacChannelAdd s (UInt8.ofNat (3 + k))
        ⟨frequencyAt p (13 + 3 * k) (14 + 3 * k) (15 + 3 * k), 0x50, 0⟩).2) s).config := by
    induction ks generalizing s with
    | nil => exact hs
    | cons k ks ih => exact ih _ (hP.channelAdd _ _ hs)
  exact hlist (List.range 5) (setTxConfig s true) hs

/-- A session that a join-accept opens keeps what its own parameters keep. -/
theorem kept_openSession (hP : Kept P) {s : Mac} (p : Mem) (size : Nat)
    (hs : P (takeSession s p).config)
    (hdatarate : ∀ {t : Mac}, P t.config → P { t.config with
      LoRaMacParams := { t.LoRaMacParams with
        ChannelsDatarate := t.LoRaMacParamsDefaults.ChannelsDatarate } }) :
    P (openSession s p size).config := by
  have hadded : P (if 17 < size then addCFList (takeSession s p) p
      else takeSession s p).config := by
    split
    · exact kept_addCFList hP p hs
    · exact hs
  have hopened := hdatarate hadded
  exact hopened

/-- An attribute keeps what does not depend on the parameters. -/
theorem kept_mibSet (hP : Kept P) {s : Mac} (r : MibSet) (hs : P s.config)
    (hparams : ∀ params defaults, P
      { s.config with LoRaMacParams := params, LoRaMacParamsDefaults := defaults }) :
    P (mibSet s r).2.config := by
  rcases config_mibSet s r with ⟨u, hu, hlight⟩ | ⟨params, defaults, h⟩
  · rw [← hu] at hs
    exact hP.light hlight hs
  · rw [h]
    exact hparams params defaults

theorem kept_OnRadioTxDone (hP : Kept P) {s : Mac} (hs : P s.config) :
    P (OnRadioTxDone s).config := by
  obtain ⟨u, hlight, hu⟩ := light_OnRadioTxDone s
  refine hP.light hlight ?_
  have hradio : P (leaveRadio (TimerGetCurrentTime s).2).config := hP.light (light_leaveRadio _) hs
  rcases hu with rfl | ⟨_, rfl⟩
  · exact hradio
  · exact hradio

theorem kept_completeCycle (hP : Kept P) {s t : Mac} (h : completeCycle s = some t)
    (hs : P s.config) : P t.config := by
  have hrepetition {s t : Mac} (h : checkRepetition s = some t) (hs : P s.config) : P t.config := by
    have hjoin : (checkJoin s).config = s.config := by
      unfold checkJoin
      split
      · split <;> rfl
      · rfl
    unfold checkRepetition at h
    dsimp only at h
    split at h
    · split at h
      · cases h
        rw [← hjoin] at hs
        exact hs
      · obtain ⟨⟨status, u⟩, hschedule, rfl⟩ := Option.map_eq_some_iff.mp h
        rw [← hjoin] at hs
        exact hP.schedule hschedule hs
    · cases h
      rw [hjoin]
      exact hs
  have hack (s : Mac) : (checkAck s).config = s.config := by
    unfold checkAck
    split <;> rfl
  have htimeout {s t : Mac} (h : checkAckTimeout s = some t) (hs : P s.config) : P t.config := by
    unfold checkAckTimeout at h
    dsimp only at h
    split at h
    · split at h
      · obtain ⟨⟨status, u⟩, hschedule, rfl⟩ := Option.map_eq_some_iff.mp h
        exact hP.schedule hschedule (hP.nextTrial (s := { s with AckTimeoutRetry := false }) hs)
      · cases h
        exact hP.giveUpTrials (s := { s with AckTimeoutRetry := false }) hs
    · cases h
      exact hs
  have habort : (checkTxTimeout (checkRxAbort s)).config = s.config := by
    unfold checkTxTimeout checkRxAbort
    split <;> split <;> rfl
  unfold completeCycle at h
  obtain ⟨u, hu, hut⟩ := Option.bind_eq_some_iff.mp h
  have hu : P u.config := by
    rw [← habort] at hs
    split at hu
    · exact hrepetition hu hs
    · cases hu
      exact hs
  refine htimeout hut ?_
  rw [hack]
  exact hu

theorem kept_OnMacStateCheckTimerEvent (hP : Kept P) {s t : Mac}
    (h : OnMacStateCheckTimerEvent s = some t) (hs : P s.config) : P t.config := by
  obtain ⟨u, hu, rfl⟩ := Option.map_eq_some_iff.mp h
  have hcycle : P u.config := by
    split at hu
    · exact kept_completeCycle hP hu hs
    · cases hu
      exact hs
  rw [config_confirmRequests]
  exact hcycle

theorem kept_OnTxDelayedTimerEvent (hP : Kept P) {s t : Mac}
    (h : OnTxDelayedTimerEvent s = some t) (hs : P s.config) : P t.config := by
  obtain ⟨⟨status, u⟩, hschedule, rfl⟩ := Option.map_eq_some_iff.mp h
  refine hP.schedule hschedule ?_
  split
  · exact hs
  · exact hs

theorem kept_onRadio (hP : Kept P) {s t : Mac} {e : RadioEvent} (h : onRadio s e = some t)
    (hjoin : ∀ u frame rssi snr rxContinuous, e = .RxDone frame rssi snr rxContinuous →
      s.IsLoRaMacNetworkJoined = false → frame.macHdr = FRAME_TYPE_JOIN_ACCEPT →
      joinMicRx s frame = joinMic s frame → P u.config →
      P (openSession u (joinPayload s frame) frame.size.toNat).config)
    (hs : P s.config) : P t.config := by
  cases e with
  | TxDone =>
    obtain ⟨u, hu, rfl⟩ := Option.map_eq_some_iff.mp h
    obtain ⟨-, rfl⟩ := radioIrq_eq_some.mp hu
    exact kept_OnRadioTxDone hP hs
  | TxTimeout =>
    obtain ⟨u, hu, rfl⟩ := Option.map_eq_some_iff.mp h
    obtain ⟨-, rfl⟩ := radioIrq_eq_some.mp hu
    exact hP.light (light_OnRadioTxTimeout _) hs
  | RxDone frame rssi snr rxContinuous =>
    obtain ⟨u, hu, hut⟩ := Option.bind_eq_some_iff.mp h
    obtain ⟨-, rfl⟩ := radioIrq_eq_some.mp hu
    obtain ⟨hmic, hmicRx⟩ := joinMic_setStatus s (rxStatus rxContinuous) frame
    refine OnRadioRxDone_induction (P := fun u => P u.config) hP.accepted
      (kept_processMacCommand hP) ?_ hut hs
    intro u hnew htype hauthentic hu
    rw [hmic, hmicRx] at hauthentic
    rw [joinPayload_setStatus]
    exact hjoin u frame rssi snr rxContinuous rfl hnew htype hauthentic hu
  | RxError rxContinuous =>
    obtain ⟨u, hu, rfl⟩ := Option.map_eq_some_iff.mp h
    obtain ⟨-, rfl⟩ := radioIrq_eq_some.mp hu
    exact hP.light (light_endWindow _ _) hs
  | RxTimeout rxContinuous =>
    obtain ⟨u, hu, rfl⟩ := Option.map_eq_some_iff.mp h
    obtain ⟨-, rfl⟩ := radioIrq_eq_some.mp hu
    exact hP.light (light_endWindow _ _) hs

theorem kept_Send (hP : Kept P) {s t : Mac} {macHdr : LoRaMacFrameType_t} {fPort : UInt8}
    {fBuffer : Option Mem} {fBufferSize : UInt16} {status : LoRaMacStatus_t}
    (h : Send s macHdr fPort fBuffer fBufferSize = some (status, t))
    (hprepare : P (PrepareFrame s macHdr ⟨0, false, false, false, s.AdrCtrlOn⟩ fPort fBuffer
      fBufferSize).2.config) : P t.config := by
  obtain ⟨status', u, hframe, ⟨_, _, rfl⟩ | ⟨_, hschedule⟩⟩ := Send_cases h
  · rw [hframe] at hprepare
    exact hprepare
  · rw [hframe] at hprepare
    exact hP.schedule hschedule hprepare

theorem kept_LoRaMacMcpsRequest (hP : Kept P) {s t : Mac} {r : McpsReq_t}
    {status : LoRaMacStatus_t} (h : LoRaMacMcpsRequest s r = some (status, t))
    (hprepare : ∀ u macHdr, Requested r s u → r.macHdr = some macHdr → P u.config →
      P (PrepareFrame u macHdr ⟨0, false, false, false, u.AdrCtrlOn⟩ r.fPort r.fBuffer
        r.fBufferSize).2.config)
    (hs : P s.config) : P t.config := by
  rcases LoRaMacMcpsRequest_cases h with ⟨-, -, rfl⟩ | ⟨-, ⟨-, hview, hparams⟩ | ⟨u, v, macHdr,
    status', type, hhdr, hrequested, hsend, hout⟩⟩
  · exact hs
  · have hconfig : t.config = { s.config with LoRaMacParams := t.LoRaMacParams } :=
      (congrArg (fun u => { u.config with LoRaMacParams := t.LoRaMacParams }) hview :)
    rw [hconfig, hparams]
    exact hs
  · have hu : P u.config := by
      have hconfig : u.config = { s.config with LoRaMacParams := { s.LoRaMacParams with
          ChannelsDatarate := u.LoRaMacParams.ChannelsDatarate } } :=
        (congrArg (fun v => { v.config with LoRaMacParams := { v.LoRaMacParams with
          ChannelsDatarate := u.LoRaMacParams.ChannelsDatarate } }) hrequested.unrequested :)
      rw [hconfig, hrequested.datarate]
      split
      · exact hs
      · next hadr =>
        rcases hrequested.valid with hon | ⟨hmin, hmax⟩
        · exact absurd hon hadr
        · exact hP.datarate hmin hmax hs
    have hv : P v.config := kept_Send hP hsend (hprepare u macHdr hrequested hhdr hu)
    rcases hout with ⟨-, -, rfl⟩ | ⟨-, -, rfl⟩
    · exact hv
    · exact hv

theorem config_mlmeOutcome (x : LoRaMacStatus_t × Mac) :
    (mlmeOutcome x).2.config = x.2.config := by
  unfold mlmeOutcome
  split <;> rfl

theorem kept_LoRaMacMlmeRequest (hP : Kept P) {s t : Mac} {r : MlmeReq_t}
    {status : LoRaMacStatus_t} (h : LoRaMacMlmeRequest s r = some (status, t))
    (hs : P s.config) : P t.config := by
  have hout {x : LoRaMacStatus_t × Mac} (heq : (status, t) = mlmeOutcome x) (hx : P x.2.config) :
      P t.config := by
    rw [← config_mlmeOutcome, ← heq] at hx
    exact hx
  rcases LoRaMacMlmeRequest_cases h with ⟨-, rfl, -⟩ | ⟨-, ⟨-, -, rfl⟩ | ⟨DevEui, AppEui, AppKey, v,
    status', -, -, hsend, houtcome⟩ | ⟨-, houtcome⟩⟩
  · exact hs
  · exact hs
  · refine hout houtcome (kept_Send hP hsend ?_)
    have hdatarate (n : UInt16) : 0 ≤ AlternateDatarate n ∧ AlternateDatarate n ≤ 7 := by
      unfold AlternateDatarate
      split_ifs <;> decide
    obtain ⟨hmin, hmax⟩ := hdatarate (s.JoinRequestTrials + 1)
    have hjoining := hP.datarate hmin hmax (hP.reset hs)
    exact hjoining
  · exact hout houtcome (hP.addMacCommand _ _ _ _ hs)

/-- A step keeps what the MAC itself keeps, if the data request, the attribute or the
join-accept that it is about does. -/
theorem kept_step (hP : Kept P) {s t : Mac} {e : Event} (h : step s e = some t)
    (hprepare : ∀ r u macHdr, e = .request (.mcps r) → Requested r s u →
      r.macHdr = some macHdr → P u.config →
      P (PrepareFrame u macHdr ⟨0, false, false, false, u.AdrCtrlOn⟩ r.fPort r.fBuffer
        r.fBufferSize).2.config)
    (hmib : ∀ r, e = .request (.mib r) → s.LoRaMacState.MAC_TX_RUNNING = false →
      P (mibSet s r).2.config)
    (hjoin : ∀ u frame rssi snr rxContinuous, e = .radio (.RxDone frame rssi snr rxContinuous) →
      s.IsLoRaMacNetworkJoined = false → frame.macHdr = FRAME_TYPE_JOIN_ACCEPT →
      joinMicRx s frame = joinMic s frame → P u.config →
      P (openSession u (joinPayload s frame) frame.size.toNat).config)
    (hs : P s.config) : P t.config := by
  rcases step_cases h with ⟨r, rfl, hrequest⟩ | ⟨p, rfl, -, rfl⟩ | ⟨-, hhandle⟩
  · cases r with
    | mcps r =>
      obtain ⟨⟨status, u⟩, hmcps, rfl⟩ := Option.map_eq_some_iff.mp hrequest
      exact kept_LoRaMacMcpsRequest hP hmcps (fun u macHdr => hprepare r u macHdr rfl) hs
    | mlme r =>
      obtain ⟨⟨status, u⟩, hmlme, rfl⟩ := Option.map_eq_some_iff.mp hrequest
      exact kept_LoRaMacMlmeRequest hP hmlme hs
    | mib r =>
      cases hrequest
      unfold LoRaMacMibSetRequestConfirm
      split
      · exact hs
      · next hidle => exact hmib r rfl (Bool.eq_false_of_not_eq_true hidle)
    | channelAdd id params =>
      cases hrequest
      exact hP.channelAdd id params hs
    | channelRemove id =>
      cases hrequest
      exact hP.channelRemove id hs
    | multicastLink group =>
      cases hrequest
      unfold LoRaMacMulticastChannelLink
      split <;> exact hs
    | multicastUnlink i =>
      cases hrequest
      unfold LoRaMacMulticastChannelUnlink
      split <;> exact hs
  · rw [config_returnFrom]
    exact hs
  · cases e with
    | request r => cases hhandle
    | upperReturn => cases hhandle
    | radio e =>
      exact kept_onRadio hP hhandle
        (fun u frame rssi snr c he => hjoin u frame rssi snr c (by rw [he])) hs
    | macStateCheckTimer =>
      exact kept_OnMacStateCheckTimerEvent hP (onTimer_eq_some.mp hhandle).2 hs
    | txDelayedTimer => exact kept_OnTxDelayedTimerEvent hP (onTimer_eq_some.mp hhandle).2 hs
    | rxWindowTimer1 =>
      cases (onTimer_eq_some.mp hhandle).2
      exact hP.light (light_OnRxWindow1TimerEvent s) hs
    | rxWindowTimer2 =>
      cases (onTimer_eq_some.mp hhandle).2
      exact hP.light (light_OnRxWindow2TimerEvent s) hs
    | ackTimeoutTimer =>
      cases (onTimer_eq_some.mp hhandle).2
      exact hP.light (light_OnAckTimeoutTimerEvent s) hs

end

end loranode.mac
