import LoRaNode.Mac.Frame

namespace loranode.mac

open LoRaMacStatus_t LoRaMacFrameType_t LoRaMacEventInfoStatus_t

/-- The state without what the search for a channel writes: the bands, the data rate and the
mask, the channel, and the readings of the clock and of the generator. -/
def Mac.unchosen (s : Mac) : Mac :=
  { s with
    board := { s.board with next := 0, reads := 0 }
    Bands := fun _ => ⟨0, 0, 0⟩
    LoRaMacParams := { s.LoRaMacParams with ChannelsDatarate := 0, ChannelsMask := 0 }
    AggregatedTimeOff := 0
    Channel := 0 }

/-- The search for a channel may take the default data rate instead of the one in force. -/
structure Chosen (s t : Mac) : Prop where
  unchosen : t.unchosen = s.unchosen
  datarate : t.LoRaMacParams.ChannelsDatarate = s.LoRaMacParams.ChannelsDatarate ∨
    t.LoRaMacParams.ChannelsDatarate = s.LoRaMacParamsDefaults.ChannelsDatarate
  reads : s.board.reads ≤ t.board.reads

theorem Chosen.refl (s : Mac) : Chosen s s := ⟨rfl, .inl rfl, Nat.le_refl _⟩

theorem Chosen.trans {s t u : Mac} (hst : Chosen s t) (htu : Chosen t u) : Chosen s u := by
  have hdefaults : t.LoRaMacParamsDefaults = s.LoRaMacParamsDefaults :=
    (congrArg Mac.LoRaMacParamsDefaults hst.unchosen :)
  refine ⟨htu.unchosen.trans hst.unchosen, ?_, Nat.le_trans hst.reads htu.reads⟩
  rcases htu.datarate with hu | hu
  · rw [hu]
    exact hst.datarate
  · exact .inr (by rw [hu, hdefaults])

theorem chosen_TimerGetElapsedTime (s : Mac) (savedTime : TimerTime_t) :
    Chosen s (TimerGetElapsedTime s savedTime).2 := by
  unfold TimerGetElapsedTime
  split
  · exact .refl s
  · exact ⟨rfl, .inl rfl, Nat.le_succ _⟩

theorem chosen_setTimeOff (s : Mac) (band : Nat) (TimeOff : TimerTime_t) :
    Chosen s (setTimeOff s band TimeOff) := ⟨rfl, .inl rfl, Nat.le_refl _⟩

theorem chosen_backOffDutyCycle (s : Mac) (band : Nat) :
    Chosen s (backOffDutyCycle s band).2 := by
  unfold backOffDutyCycle
  split
  · exact .refl s
  · have helapsed := chosen_TimerGetElapsedTime s 0
    unfold RetransmissionDutyCylce
    dsimp only
    split
    · exact helapsed
    · split <;> exact helapsed

theorem chosen_randomBackOff (s : Mac) (band : Nat) : Chosen s (randomBackOff s band) := by
  unfold randomBackOff
  split
  · exact ⟨rfl, .inl rfl, Nat.le_refl _⟩
  · exact .refl s

theorem chosen_CalculateBackOff (s : Mac) (channel : UInt8) :
    Chosen s (CalculateBackOff s channel) := by
  unfold CalculateBackOff
  dsimp only
  generalize (s.Channels channel.toNat).Band.toNat = band
  have hduty := chosen_backOffDutyCycle s band
  generalize backOffDutyCycle s band = x at hduty ⊢
  obtain ⟨dutyCycle, u⟩ := x
  have hcharge : Chosen u (chargeBand u band dutyCycle) := chosen_setTimeOff _ _ _
  have hrandom := chosen_randomBackOff (chargeBand u band dutyCycle) band
  exact ((hduty.trans hcharge).trans hrandom).trans ⟨rfl, .inl rfl, Nat.le_refl _⟩

theorem chosen_releaseBand (s : Mac) (i : Nat) (elapsed : TimerTime_t) :
    Chosen s (releaseBand s i elapsed) := by
  unfold releaseBand
  split
  · exact chosen_setTimeOff s i 0
  · exact .refl s

theorem chosen_updateBand (nextTxDelay : TimerTime_t) (s : Mac) (i : Nat) :
    Chosen s (updateBand nextTxDelay s i).2 := by
  unfold updateBand
  split
  · exact chosen_setTimeOff s i 0
  · have helapsed := chosen_TimerGetElapsedTime s (s.Bands i).LastTxDoneTime
    generalize TimerGetElapsedTime s (s.Bands i).LastTxDoneTime = x at helapsed ⊢
    obtain ⟨elapsed, u⟩ := x
    have hrelease : Chosen s (releaseBand u i elapsed) :=
      helapsed.trans (chosen_releaseBand u i elapsed)
    dsimp only
    generalize releaseBand u i elapsed = v at hrelease ⊢
    split
    · exact hrelease
    · have hagain := chosen_TimerGetElapsedTime v (v.Bands i).LastTxDoneTime
      split
      · exact (hrelease.trans hagain).trans (chosen_TimerGetElapsedTime _ _)
      · exact hrelease.trans hagain

theorem chosen_updateBands (s : Mac) : Chosen s (updateBands s).2 := by
  have hfold (bands : List Nat) (x : TimerTime_t × Mac) :
      Chosen x.2 (bands.foldl (fun x i => updateBand x.1 x.2 i) x).2 := by
    induction bands generalizing x with
    | nil => exact .refl x.2
    | cons i bands ih =>
      have hband := chosen_updateBand x.1 x.2 i
      exact hband.trans (ih (updateBand x.1 x.2 i))
  exact hfold (List.range LORA_MAX_NB_BANDS) (0xFFFFFFFF, s)

theorem chosen_ensureMask (s : Mac) : Chosen s (ensureMask s) := by
  unfold ensureMask
  split
  · exact ⟨rfl, .inl rfl, Nat.le_refl _⟩
  · exact .refl s

theorem chosen_pickChannel (s : Mac) (delay : TimerTime_t) :
    Chosen s (pickChannel s delay).2.2 := by
  unfold pickChannel
  split
  · exact ⟨rfl, .inl rfl, Nat.le_refl _⟩
  · split
    · exact .refl s
    · exact .refl s

theorem chosen_SetNextChannel (s : Mac) : Chosen s (SetNextChannel s).2.2 := by
  unfold SetNextChannel
  have hmask := chosen_ensureMask s
  generalize ensureMask s = u at hmask ⊢
  have helapsed := chosen_TimerGetElapsedTime u u.AggregatedLastTxDoneTime
  dsimp only
  generalize TimerGetElapsedTime u u.AggregatedLastTxDoneTime = x at helapsed ⊢
  obtain ⟨elapsed, v⟩ := x
  have hv : Chosen s v := hmask.trans helapsed
  dsimp only
  split
  · have haggregated : Chosen v { v with AggregatedTimeOff := 0 } := ⟨rfl, .inl rfl, Nat.le_refl _⟩
    have hbands := chosen_updateBands { v with AggregatedTimeOff := 0 }
    exact ((hv.trans haggregated).trans hbands).trans (chosen_pickChannel _ _)
  · exact hv.trans (chosen_TimerGetElapsedTime _ _)

theorem chosen_selectChannel {fuel : Nat} {s t : Mac} {time : TimerTime_t}
    (h : selectChannel fuel s = some (time, t)) : Chosen s t := by
  induction fuel generalizing s with
  | zero => cases h
  | succ fuel ih =>
    have hnext := chosen_SetNextChannel s
    unfold selectChannel at h
    split at h
    · next heq =>
      cases h
      rwa [heq] at hnext
    · next heq =>
      rw [heq] at hnext
      have hdefaults (s : Mac) : Chosen s (restoreDefaults s) := ⟨rfl, .inr rfl, Nat.le_refl _⟩
      exact (hnext.trans (hdefaults _)).trans (ih h)

theorem chosen_updateTimeOff (s : Mac) : Chosen s (updateTimeOff s) := by
  unfold updateTimeOff
  split
  · exact ⟨rfl, .inl rfl, Nat.le_refl _⟩
  · exact .refl s

/-- What `ScheduleTx` can do: nothing on a node that is switched off, and else, once a
channel is chosen, send the frame or delay it. -/
theorem ScheduleTx_cases {s t : Mac} {status : LoRaMacStatus_t}
    (h : ScheduleTx s = some (status, t)) :
    (s.MaxDCycle = 255 ∧ status = LORAMAC_STATUS_DEVICE_OFF ∧ t = s) ∨
      (s.MaxDCycle ≠ 255 ∧ status = LORAMAC_STATUS_OK ∧ ∃ u, Chosen s u ∧
        (t = SendFrameOnChannel u (u.Channels u.Channel.toNat) ∨ ∃ time, t = delayTx u time)) := by
  unfold ScheduleTx at h
  split at h
  · next hoff =>
    cases h
    exact .inl ⟨hoff, rfl, rfl⟩
  · next hon =>
    refine .inr ⟨hon, ?_⟩
    split at h
    · cases h
    · next time u hselect =>
      have hu : Chosen s u := ((chosen_updateTimeOff s).trans (chosen_CalculateBackOff _ _)).trans
        (chosen_selectChannel hselect)
      split at h
      · cases h
        exact ⟨rfl, u, hu, .inl rfl⟩
      · cases h
        exact ⟨rfl, u, hu, .inr ⟨time, rfl⟩⟩

/-- The state without what building a frame writes: the frame, the MAC commands, the data
rate and the mask, and what the frame acknowledges or asks to be acknowledged. -/
def Mac.unprepared (s : Mac) : Mac :=
  { s with
    board := { s.board with draws := 0, accesses := [], lookups := [] }
    LoRaMacDevNonce := 0
    LoRaMacBuffer := fun _ => 0
    LoRaMacBufferPktLen := 0
    PreparedFrame := none
    LoRaMacPayload := fun _ => 0
    AdrAckCounter := 0
    NodeAckRequested := false
    SrvAckRequested := false
    MacCommandsInNextTx := false
    MacCommandsBufferIndex := 0
    MacCommandsBufferToRepeatIndex := 0
    MacCommandsBuffer := fun _ => 0
    MacCommandsBufferToRepeat := fun _ => 0
    LoRaMacParams := { s.LoRaMacParams with ChannelsDatarate := 0, ChannelsMask := 0 }
    RxWindow1Delay := 0
    RxWindow2Delay := 0 }

theorem adaptDatarate_snd (s : Mac) (adrEnabled : Bool) : ∃ counter lookups params,
    (adaptDatarate s adrEnabled).2 = { s with
      board := { s.board with lookups := lookups }
      AdrAckCounter := counter
      LoRaMacParams := params } := by
  unfold adaptDatarate AdrNextDr
  dsimp only
  split
  · exact ⟨_, _, _, rfl⟩
  · split
    · exact ⟨_, _, _, rfl⟩
    · split
      · split
        · split <;> exact ⟨_, _, _, rfl⟩
        · split <;> exact ⟨_, _, _, rfl⟩
      · exact ⟨_, _, _, rfl⟩

theorem unprepared_AdrNextDr (s : Mac) (adrEnabled updateChannelMask : Bool) :
    (AdrNextDr s adrEnabled updateChannelMask).2.2.unprepared = s.unprepared := by
  unfold AdrNextDr
  dsimp only
  split
  · rfl
  · split
    · rfl
    · split
      · split
        · split <;> rfl
        · split <;> rfl
      · rfl

theorem unprepared_placeMacCommands (s : Mac) (fCtrl : LoRaMacFrameCtrl_t) (fPort : UInt8)
    (fBuffer : Option Mem) (payloadSize : UInt8) :
    (placeMacCommands s fCtrl fPort fBuffer payloadSize).2.unprepared = s.unprepared := by
  unfold placeMacCommands
  split
  · split <;> rfl
  · split <;> rfl

theorem unprepared_placePayload (s : Mac) (plan : FramePlan) :
    (placePayload s plan).2.unprepared = s.unprepared := by
  unfold placePayload
  split
  · rfl
  · split <;> rfl

theorem unprepared_buildDataFrame (s : Mac) (fCtrl : LoRaMacFrameCtrl_t) (fPort : UInt8)
    (fBuffer : Option Mem) (fBufferSize : UInt16) :
    (buildDataFrame s fCtrl fPort fBuffer fBufferSize).unprepared = s.unprepared := by
  refine (unprepared_placePayload _ _).trans ?_
  exact (unprepared_placeMacCommands _ _ _ _ _ :)

theorem unprepared_prepareData (s : Mac) (fCtrl : LoRaMacFrameCtrl_t) (fPort : UInt8)
    (fBuffer : Option Mem) (fBufferSize : UInt16) :
    (prepareData s fCtrl fPort fBuffer fBufferSize).2.unprepared = s.unprepared := by
  have hadr : (adaptDatarate s fCtrl.Adr).2.unprepared = s.unprepared :=
    unprepared_AdrNextDr s fCtrl.Adr true
  unfold prepareData
  dsimp only
  split
  · rfl
  · split
    · exact (unprepared_buildDataFrame _ _ _ _ _).trans hadr
    · exact hadr

theorem unprepared_PrepareFrame (s : Mac) (macHdr : LoRaMacFrameType_t)
    (fCtrl : LoRaMacFrameCtrl_t) (fPort : UInt8) (fBuffer : Option Mem) (fBufferSize : UInt16) :
    (PrepareFrame s macHdr fCtrl fPort fBuffer fBufferSize).2.unprepared = s.unprepared := by
  unfold PrepareFrame
  dsimp only
  split
  · rfl
  · exact unprepared_prepareData _ _ _ _ _
  · exact unprepared_prepareData _ _ _ _ _
  · unfold prepareProprietary
    split
    · rfl
    · split <;> rfl
  · rfl

/-- `Send` gives up on a frame that cannot be built, and else schedules it. -/
theorem Send_cases {s t : Mac} {macHdr : LoRaMacFrameType_t} {fPort : UInt8}
    {fBuffer : Option Mem} {fBufferSize : UInt16} {status : LoRaMacStatus_t}
    (h : Send s macHdr fPort fBuffer fBufferSize = some (status, t)) :
    ∃ status' u, PrepareFrame s macHdr ⟨0, false, false, false, s.AdrCtrlOn⟩ fPort fBuffer
        fBufferSize = (status', u) ∧
      (status' ≠ LORAMAC_STATUS_OK ∧ status = status' ∧ t = u ∨
        status' = LORAMAC_STATUS_OK ∧ ScheduleTx { u with
          McpsConfirm := { u.McpsConfirm with
            NbRetries := 0, AckReceived := false, UpLinkCounter := u.UpLinkCounter } } =
          some (status, t)) := by
  unfold Send at h
  split at h
  · next u hprepare => exact ⟨_, u, hprepare, .inr ⟨rfl, h⟩⟩
  · next status' u hne hprepare =>
    cases h
    exact ⟨_, _, hprepare, .inl ⟨hne, rfl, rfl⟩⟩

namespace McpsReq_t

/-- The header of the frame that a request asks for. -/
def macHdr : McpsReq_t → Option LoRaMacFrameType_t
  | Unconfirmed .. => some FRAME_TYPE_DATA_UNCONFIRMED_UP
  | Confirmed .. => some FRAME_TYPE_DATA_CONFIRMED_UP
  | Proprietary .. => some FRAME_TYPE_PROPRIETARY
  | Multicast => none

def fPort : McpsReq_t → UInt8
  | Unconfirmed fPort .. | Confirmed fPort .. => fPort
  | _ => 0

def fBuffer : McpsReq_t → Option Mem
  | Unconfirmed _ fBuffer .. | Confirmed _ fBuffer .. | Proprietary fBuffer .. => fBuffer
  | Multicast => none

def fBufferSize : McpsReq_t → UInt16
  | Unconfirmed _ _ fBufferSize _ | Confirmed _ _ fBufferSize _ _ | Proprietary _ fBufferSize _ =>
    fBufferSize
  | Multicast => 0

def Datarate : McpsReq_t → Int
  | Unconfirmed _ _ _ Datarate | Confirmed _ _ _ Datarate _ | Proprietary _ _ Datarate => Datarate
  | Multicast => 0

end McpsReq_t

/-- The state without what a data request writes before it builds a frame. -/
def Mac.unrequested (s : Mac) : Mac :=
  { s with
    McpsConfirm := ⟨.MCPS_UNCONFIRMED, LORAMAC_EVENT_INFO_STATUS_OK, 0, 0, false, 0, 0, 0⟩
    AckTimeoutRetries := 0
    AckTimeoutRetriesCounter := 0
    LoRaMacParams := { s.LoRaMacParams with ChannelsDatarate := 0 } }

/-- A frame is on its way: no data request is accepted. -/
def Mac.busy (s : Mac) : Bool := s.LoRaMacState.MAC_TX_RUNNING || s.LoRaMacState.MAC_TX_DELAYED

theorem busy_eq_false {s : Mac} : s.busy = false ↔
    ¬(s.LoRaMacState.MAC_TX_RUNNING = true ∨ s.LoRaMacState.MAC_TX_DELAYED = true) := by
  unfold Mac.busy
  rw [Bool.or_eq_false_iff, not_or, Bool.not_eq_true, Bool.not_eq_true]

/-- The state in which a data request builds its frame: it has taken the data rate of the
request where ADR is off. -/
structure Requested (r : McpsReq_t) (s t : Mac) : Prop where
  unrequested : t.unrequested = s.unrequested
  datarate : t.LoRaMacParams.ChannelsDatarate =
    if s.AdrCtrlOn then s.LoRaMacParams.ChannelsDatarate else r.Datarate
  valid : s.AdrCtrlOn = true ∨ 0 ≤ r.Datarate ∧ r.Datarate ≤ 7
  idle : s.busy = false

theorem sendRequest_cases {s t : Mac} {type : Mcps_t} {macHdr : LoRaMacFrameType_t} {fPort : UInt8}
    {fBuffer : Option Mem} {fBufferSize : UInt16} {datarate : Int} {status : LoRaMacStatus_t}
    (h : sendRequest s type macHdr fPort fBuffer fBufferSize datarate = some (status, t)) :
    ((status ≠ LORAMAC_STATUS_OK ∧ s.AdrCtrlOn = false ∧ ¬(0 ≤ datarate ∧ datarate ≤ 7)) ∧ t = s) ∨
      (s.AdrCtrlOn = true ∨ 0 ≤ datarate ∧ datarate ≤ 7) ∧
      ∃ v status', Send { s with LoRaMacParams := { s.LoRaMacParams with
          ChannelsDatarate := if s.AdrCtrlOn then s.LoRaMacParams.ChannelsDatarate else datarate } }
          macHdr fPort fBuffer fBufferSize = some (status', v) ∧
        (status' = LORAMAC_STATUS_OK ∧ status = LORAMAC_STATUS_OK ∧ t = { v.record .Accepted with
            McpsConfirm := { v.McpsConfirm with McpsRequest := type }
            LoRaMacFlags := { v.LoRaMacFlags with McpsReq := true } } ∨
          status' ≠ LORAMAC_STATUS_OK ∧ status = status' ∧ t = { v with NodeAckRequested := false }) := by
  have hdatarate : (if s.AdrCtrlOn then s
      else { s with LoRaMacParams := { s.LoRaMacParams with ChannelsDatarate := datarate } }) =
      { s with LoRaMacParams := { s.LoRaMacParams with
        ChannelsDatarate := if s.AdrCtrlOn then s.LoRaMacParams.ChannelsDatarate else datarate } } := by
    split <;> rfl
  unfold sendRequest at h
  dsimp only at h
  split at h
  · next hinvalid =>
    cases h
    rw [← ValueInRange_eq_true, Bool.not_eq_true]
    exact .inl ⟨⟨by decide, hinvalid⟩, rfl⟩
  · next hvalid =>
    refine .inr ⟨?_, ?_⟩
    · rw [not_and_or, Bool.not_eq_false, Bool.not_eq_false, ValueInRange_eq_true] at hvalid
      exact hvalid
    · rw [hdatarate] at h
      split at h
      · cases h
      · next v hsend =>
        cases h
        exact ⟨v, _, hsend, .inl ⟨rfl, rfl, rfl⟩⟩
      · next status' v hne hsend =>
        cases h
        exact ⟨v, _, hsend, .inr ⟨hne, rfl, rfl⟩⟩

/-- What `LoRaMacMcpsRequest` can do: refuse the request, or try to send its frame. -/
theorem LoRaMacMcpsRequest_cases {s t : Mac} {r : McpsReq_t} {status : LoRaMacStatus_t}
    (h : LoRaMacMcpsRequest s r = some (status, t)) :
    (s.LoRaMacState.MAC_TX_RUNNING = true ∨ s.LoRaMacState.MAC_TX_DELAYED = true) ∧
        status = LORAMAC_STATUS_BUSY ∧ t = s ∨
      (s.LoRaMacState.MAC_TX_RUNNING = false ∧ s.LoRaMacState.MAC_TX_DELAYED = false) ∧
        ((status ≠ LORAMAC_STATUS_OK ∧ (r.macHdr = none ∨
              s.AdrCtrlOn = false ∧ ¬(0 ≤ r.Datarate ∧ r.Datarate ≤ 7))) ∧
            t.unrequested = s.unrequested ∧ t.LoRaMacParams = s.LoRaMacParams ∨
          ∃ u v macHdr status' type, r.macHdr = some macHdr ∧ Requested r s u ∧
            Send u macHdr r.fPort r.fBuffer r.fBufferSize = some (status', v) ∧
            (status' = LORAMAC_STATUS_OK ∧ status = LORAMAC_STATUS_OK ∧
                t = { v.record .Accepted with
                  McpsConfirm := { v.McpsConfirm with McpsRequest := type }
                  LoRaMacFlags := { v.LoRaMacFlags with McpsReq := true } } ∨
              status' ≠ LORAMAC_STATUS_OK ∧ status = status' ∧
                t = { v with NodeAckRequested := false })) := by
  unfold LoRaMacMcpsRequest at h
  split at h
  · next hbusy =>
    cases h
    exact .inl ⟨hbusy, rfl, rfl⟩
  · next hidle =>
    have hfree := busy_eq_false.mpr hidle
    rw [not_or, Bool.not_eq_true, Bool.not_eq_true] at hidle
    refine .inr ⟨hidle, ?_⟩
    dsimp only at h
    cases r with
    | Unconfirmed fPort fBuffer fBufferSize Datarate =>
      rcases sendRequest_cases h with ⟨⟨hne, hinvalid⟩, rfl⟩ | ⟨hvalid, v, status', hsend, hout⟩
      · exact .inl ⟨⟨hne, .inr hinvalid⟩, rfl, rfl⟩
      · refine .inr ⟨_, v, _, status', _, rfl, ?_, hsend, hout⟩
        exact ⟨rfl, rfl, hvalid, hfree⟩
    | Confirmed fPort fBuffer fBufferSize Datarate NbTrials =>
      rcases sendRequest_cases h with ⟨⟨hne, hinvalid⟩, rfl⟩ | ⟨hvalid, v, status', hsend, hout⟩
      · exact .inl ⟨⟨hne, .inr hinvalid⟩, rfl, rfl⟩
      · refine .inr ⟨_, v, _, status', _, rfl, ?_, hsend, hout⟩
        exact ⟨rfl, rfl, hvalid, hfree⟩
    | Proprietary fBuffer fBufferSize Datarate =>
      rcases sendRequest_cases h with ⟨⟨hne, hinvalid⟩, rfl⟩ | ⟨hvalid, v, status', hsend, hout⟩
      · exact .inl ⟨⟨hne, .inr hinvalid⟩, rfl, rfl⟩
      · refine .inr ⟨_, v, _, status', _, rfl, ?_, hsend, hout⟩
        exact ⟨rfl, rfl, hvalid, hfree⟩
    | Multicast =>
      cases h
      exact .inl ⟨⟨by decide, .inl rfl⟩, rfl, rfl⟩

/-- Nothing that the state and the request show speaks against a data request: no frame is on its
way, the device is not switched off, the type of the request is known, its data rate is one where it
counts, and a node that is to send data has joined. -/
def Mac.MayAccept (s : Mac) (r : McpsReq_t) : Prop :=
  s.busy = false ∧ s.MaxDCycle ≠ 255 ∧ r.macHdr ≠ none ∧
    (s.AdrCtrlOn = true ∨ 0 ≤ r.Datarate ∧ r.Datarate ≤ 7) ∧
    (r.macHdr ≠ some FRAME_TYPE_PROPRIETARY → s.IsLoRaMacNetworkJoined = true)

instance (s : Mac) (r : McpsReq_t) : Decidable (s.MayAccept r) :=
  inferInstanceAs (Decidable (_ ∧ _))

theorem joined_of_prepareData {s u : Mac} {fCtrl : LoRaMacFrameCtrl_t} {fPort : UInt8}
    {fBuffer : Option Mem} {fBufferSize : UInt16}
    (h : prepareData s fCtrl fPort fBuffer fBufferSize = (LORAMAC_STATUS_OK, u)) :
    s.IsLoRaMacNetworkJoined = true := by
  by_contra hnot
  unfold prepareData at h
  rw [if_pos (Bool.eq_false_of_not_eq_true hnot)] at h
  cases h

theorem joined_of_PrepareFrame {s u : Mac} {macHdr : LoRaMacFrameType_t}
    {fCtrl : LoRaMacFrameCtrl_t} {fPort : UInt8} {fBuffer : Option Mem} {fBufferSize : UInt16}
    (h : PrepareFrame s macHdr fCtrl fPort fBuffer fBufferSize = (LORAMAC_STATUS_OK, u))
    (hdata : macHdr = FRAME_TYPE_DATA_UNCONFIRMED_UP ∨ macHdr = FRAME_TYPE_DATA_CONFIRMED_UP) :
    s.IsLoRaMacNetworkJoined = true := by
  unfold PrepareFrame at h
  rcases hdata with rfl | rfl <;> dsimp only at h
  · have hjoined := joined_of_prepareData h
    exact hjoined
  · have hjoined := joined_of_prepareData h
    exact hjoined

theorem mayAccept_of_accepted {s t : Mac} {r : McpsReq_t}
    (h : LoRaMacMcpsRequest s r = some (LORAMAC_STATUS_OK, t)) : s.MayAccept r := by
  rcases LoRaMacMcpsRequest_cases h with ⟨-, hbusy, -⟩ | ⟨-, ⟨⟨hne, -⟩, -, -⟩ |
    ⟨u, v, macHdr, status', type, hhdr, hrequested, hsend, hout⟩⟩
  · cases hbusy
  · exact absurd rfl hne
  · obtain rfl : status' = LORAMAC_STATUS_OK := by
      rcases hout with ⟨hok, -, -⟩ | ⟨hne, hok, -⟩
      · exact hok
      · exact hok.symm
    obtain ⟨status', w, hprepare, ⟨hne, hok, -⟩ | ⟨rfl, hschedule⟩⟩ := Send_cases hsend
    · exact absurd hok.symm hne
    · have hview := unprepared_PrepareFrame u macHdr ⟨0, false, false, false, u.AdrCtrlOn⟩ r.fPort
        r.fBuffer r.fBufferSize
      rw [hprepare] at hview
      have hdcycle : w.MaxDCycle = s.MaxDCycle := (congrArg Mac.MaxDCycle hview :).trans
        (congrArg Mac.MaxDCycle hrequested.unrequested :)
      have hon : w.MaxDCycle ≠ 255 := by
        rcases ScheduleTx_cases hschedule with ⟨-, hoff, -⟩ | ⟨hon, -, -⟩
        · cases hoff
        · exact hon
      refine ⟨hrequested.idle, hdcycle ▸ hon, ?_, hrequested.valid, fun hdata => ?_⟩
      · rw [hhdr]
        exact Option.some_ne_none macHdr
      · have hjoined : u.IsLoRaMacNetworkJoined = true := by
          cases r with
          | Unconfirmed => exact joined_of_PrepareFrame hprepare (.inl (Option.some.inj hhdr).symm)
          | Confirmed => exact joined_of_PrepareFrame hprepare (.inr (Option.some.inj hhdr).symm)
          | Proprietary => exact absurd rfl hdata
          | Multicast => cases hhdr
        exact (congrArg Mac.IsLoRaMacNetworkJoined hrequested.unrequested :).symm.trans hjoined

/-- The state in which a join request is sent. -/
def joining (s : Mac) (DevEui AppEui AppKey : List UInt8) : Mac :=
  let s := ResetMacParameters { s with
    MlmeConfirm := ⟨.MLME_JOIN, LORAMAC_EVENT_INFO_STATUS_ERROR, 0, 0, 0⟩
    LoRaMacFlags := { s.LoRaMacFlags with MlmeReq := true }
    LoRaMacDevEui := DevEui
    LoRaMacAppEui := AppEui
    LoRaMacAppKey := AppKey }
  { s with
    JoinRequestTrials := s.JoinRequestTrials + 1
    LoRaMacParams := { s.LoRaMacParams with
      ChannelsDatarate := AlternateDatarate (s.JoinRequestTrials + 1) } }

/-- What `LoRaMacMlmeRequest` can do: refuse the request, reset the MAC and send a join
request, or queue a link check. -/
theorem LoRaMacMlmeRequest_cases {s t : Mac} {r : MlmeReq_t} {status : LoRaMacStatus_t}
    (h : LoRaMacMlmeRequest s r = some (status, t)) :
    status = LORAMAC_STATUS_BUSY ∧ t = s ∧ s.LoRaMacState.MAC_TX_RUNNING = true ∨
      s.LoRaMacState.MAC_TX_RUNNING = false ∧
        (status ≠ LORAMAC_STATUS_OK ∧ (∃ DevEui AppEui AppKey, r = .Join DevEui AppEui AppKey) ∧
            t = { s with MlmeConfirm := ⟨.MLME_JOIN, LORAMAC_EVENT_INFO_STATUS_ERROR, 0, 0, 0⟩ } ∨
          (∃ DevEui AppEui AppKey v status', r = .Join (some DevEui) (some AppEui) (some AppKey) ∧
            s.LoRaMacState.MAC_TX_DELAYED = false ∧
            Send (joining s DevEui AppEui AppKey) FRAME_TYPE_JOIN_REQ 0 none 0 = some (status', v) ∧
            (status, t) = mlmeOutcome (status', v)) ∨
          r = .LinkCheck ∧ (status, t) = mlmeOutcome (AddMacCommand { s with
              MlmeConfirm := ⟨.MLME_LINK_CHECK, LORAMAC_EVENT_INFO_STATUS_ERROR, 0, 0, 0⟩
              LoRaMacFlags := { s.LoRaMacFlags with MlmeReq := true } }
            .MOTE_MAC_LINK_CHECK_REQ 0 0)) := by
  unfold LoRaMacMlmeRequest at h
  split at h
  · next hrunning =>
    cases h
    exact .inl ⟨rfl, rfl, hrunning⟩
  · next hrunning =>
    refine .inr ⟨Bool.eq_false_iff.mpr hrunning, ?_⟩
    dsimp only at h
    cases r with
    | LinkCheck => exact .inr (.inr ⟨rfl, (Option.some.inj h).symm⟩)
    | Join DevEui AppEui AppKey =>
      dsimp only at h
      unfold joinRequest at h
      split at h
      · cases h
        exact .inl ⟨by decide, ⟨_, _, _, rfl⟩, rfl⟩
      · next hdelayed =>
        split at h
        · obtain ⟨⟨status', v⟩, hsend, hout⟩ := Option.map_eq_some_iff.mp h
          exact .inr (.inl ⟨_, _, _, v, status', rfl, Bool.eq_false_iff.mpr hdelayed, hsend,
            hout.symm⟩)
        · cases h
          exact .inl ⟨by decide, ⟨_, _, _, rfl⟩, rfl⟩

end loranode.mac
