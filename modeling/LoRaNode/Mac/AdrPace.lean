import LoRaNode.Lib.Pace
import LoRaNode.Mac.Acceptance
import LoRaNode.Mac.Advance
import LoRaNode.Mac.DutyCycle
import LoRaNode.Mac.Size

open pace

namespace loranode.mac

open LoRaMacStatus_t LoRaMacFrameType_t LoRaMacEventInfoStatus_t

theorem adrAckCounter_AdrNextDr (s : Mac) (adrEnabled updateChannelMask : Bool) :
    (AdrNextDr s adrEnabled updateChannelMask).2.2.AdrAckCounter = s.AdrAckCounter ∨
      (AdrNextDr s adrEnabled updateChannelMask).2.2.AdrAckCounter = 0 := by
  unfold AdrNextDr
  dsimp only
  split
  · exact .inl rfl
  · split
    · exact .inr rfl
    · split
      · split
        · split <;> exact .inl rfl
        · split <;> exact .inl rfl
      · exact .inl rfl

theorem adrAckCounter_buildDataFrame (s : Mac) (fCtrl : LoRaMacFrameCtrl_t) (fPort : UInt8)
    (fBuffer : Option Mem) (fBufferSize : UInt16) :
    (buildDataFrame s fCtrl fPort fBuffer fBufferSize).AdrAckCounter = s.AdrAckCounter := by
  have hcommands (s : Mac) (fCtrl : LoRaMacFrameCtrl_t) (payloadSize : UInt8) :
      (placeMacCommands s fCtrl fPort fBuffer payloadSize).2.AdrAckCounter = s.AdrAckCounter := by
    unfold placeMacCommands
    split
    · split <;> rfl
    · split <;> rfl
  have hpayload (s : Mac) (plan : FramePlan) :
      (placePayload s plan).2.AdrAckCounter = s.AdrAckCounter := by
    unfold placePayload
    split
    · rfl
    · split <;> rfl
  exact (hpayload _ _).trans (hcommands _ _ _ :)

/-- Building a frame leaves the counter, unless it finds the lowest data rate. -/
theorem adrAckCounter_PrepareFrame (s : Mac) (macHdr : LoRaMacFrameType_t)
    (fCtrl : LoRaMacFrameCtrl_t) (fPort : UInt8) (fBuffer : Option Mem) (fBufferSize : UInt16) :
    (PrepareFrame s macHdr fCtrl fPort fBuffer fBufferSize).2.AdrAckCounter = s.AdrAckCounter ∨
      (PrepareFrame s macHdr fCtrl fPort fBuffer fBufferSize).2.AdrAckCounter = 0 := by
  have hdata (s : Mac) :
      (prepareData s fCtrl fPort fBuffer fBufferSize).2.AdrAckCounter = s.AdrAckCounter ∨
        (prepareData s fCtrl fPort fBuffer fBufferSize).2.AdrAckCounter = 0 := by
    have hadapt : (adaptDatarate s fCtrl.Adr).2.AdrAckCounter = s.AdrAckCounter ∨
        (adaptDatarate s fCtrl.Adr).2.AdrAckCounter = 0 := adrAckCounter_AdrNextDr s fCtrl.Adr true
    unfold prepareData
    dsimp only
    split
    · exact .inl rfl
    · split
      · dsimp only
        rw [adrAckCounter_buildDataFrame]
        exact hadapt
      · exact hadapt
  unfold PrepareFrame
  dsimp only
  split
  · exact .inl rfl
  · exact hdata _
  · exact hdata _
  · unfold prepareProprietary
    split
    · exact .inl rfl
    · split <;> exact .inl rfl
  · exact .inl rfl

theorem adrAckCounter_ScheduleTx {s t : Mac} {status : LoRaMacStatus_t}
    (h : ScheduleTx s = some (status, t)) : t.AdrAckCounter = s.AdrAckCounter :=
  (congrArg Mac.AdrAckCounter (unscheduled_ScheduleTx h) :)

theorem adrAckCounter_Send {s t : Mac} {macHdr : LoRaMacFrameType_t} {fPort : UInt8}
    {fBuffer : Option Mem} {fBufferSize : UInt16} {status : LoRaMacStatus_t}
    (h : Send s macHdr fPort fBuffer fBufferSize = some (status, t)) :
    t.AdrAckCounter = s.AdrAckCounter ∨ t.AdrAckCounter = 0 := by
  obtain ⟨status', u, hframe, hout⟩ := Send_cases h
  have hu := adrAckCounter_PrepareFrame s macHdr ⟨0, false, false, false, s.AdrCtrlOn⟩ fPort fBuffer
    fBufferSize
  rw [hframe] at hu
  rcases hout with ⟨-, -, rfl⟩ | ⟨-, hschedule⟩
  · exact hu
  · rw [adrAckCounter_ScheduleTx hschedule]
    exact hu

theorem adrAckCounter_LoRaMacMcpsRequest {s t : Mac} {r : McpsReq_t} {status : LoRaMacStatus_t}
    (h : LoRaMacMcpsRequest s r = some (status, t)) :
    t.AdrAckCounter = s.AdrAckCounter ∨ t.AdrAckCounter = 0 := by
  rcases LoRaMacMcpsRequest_cases h with ⟨-, -, rfl⟩ | ⟨-, ⟨-, hview, -⟩ | ⟨u, v, macHdr, status',
    type, -, hu, hsend, hout⟩⟩
  · exact .inl rfl
  · exact .inl (congrArg Mac.AdrAckCounter hview :)
  · have hv := adrAckCounter_Send hsend
    rw [show u.AdrAckCounter = s.AdrAckCounter from
      (congrArg Mac.AdrAckCounter hu.unrequested :)] at hv
    rcases hout with ⟨-, -, rfl⟩ | ⟨-, -, rfl⟩
    · exact hv
    · exact hv

theorem adrAckCounter_LoRaMacMlmeRequest {s t : Mac} {r : MlmeReq_t} {status : LoRaMacStatus_t}
    (h : LoRaMacMlmeRequest s r = some (status, t)) :
    t.AdrAckCounter = s.AdrAckCounter ∨ t.AdrAckCounter = 0 := by
  have hout (x : LoRaMacStatus_t × Mac) : (mlmeOutcome x).2.AdrAckCounter = x.2.AdrAckCounter := by
    unfold mlmeOutcome
    split <;> rfl
  rcases LoRaMacMlmeRequest_cases h with ⟨-, rfl, -⟩ | ⟨-, ⟨-, -, rfl⟩ | ⟨DevEui, AppEui, AppKey, v,
    status', -, -, hsend, houtcome⟩ | ⟨-, houtcome⟩⟩
  · exact .inl rfl
  · exact .inl rfl
  · obtain rfl : t = _ := congrArg Prod.snd houtcome
    rw [hout]
    -- a join request starts from a reset
    rcases adrAckCounter_Send hsend with hv | hv
    · exact .inr hv
    · exact .inr hv
  · obtain rfl : t = _ := congrArg Prod.snd houtcome
    rw [hout]
    have hview := uncommanded_AddMacCommand { s with
      MlmeConfirm := ⟨.MLME_LINK_CHECK, LORAMAC_EVENT_INFO_STATUS_ERROR, 0, 0, 0⟩
      LoRaMacFlags := { s.LoRaMacFlags with MlmeReq := true } } .MOTE_MAC_LINK_CHECK_REQ 0 0
    generalize AddMacCommand _ _ _ _ = x at hview ⊢
    exact .inl (congrArg Mac.AdrAckCounter hview :)

theorem adrAckCounter_checkAckTimeout {s t : Mac} (h : checkAckTimeout (checkAck s) = some t) :
    t.AdrAckCounter = s.AdrAckCounter := by
  have hack : (checkAck s).AdrAckCounter = s.AdrAckCounter := by
    unfold checkAck
    split <;> rfl
  rw [← hack]
  rcases checkAckTimeout_cases h with ⟨-, rfl⟩ | ⟨-, ⟨-, status, hschedule⟩ | ⟨-, rfl⟩⟩
  · rfl
  · exact (adrAckCounter_ScheduleTx hschedule :)
  · rfl

theorem adrAckCounter_checkRepetition {s t : Mac} (h : checkRepetition s = some t) :
    t.AdrAckCounter = s.AdrAckCounter ∨ (s.pending = true ∧
      (s.LoRaMacParams.ChannelsNbRep ≤ (checkJoin s).ChannelsNbRepCounter ∨
        s.LoRaMacFlags.McpsInd = true)) ∧ t.AdrAckCounter = s.AdrAckCounter + 1 := by
  obtain ⟨repetitions, counter, hjoin, -⟩ := checkJoin_eq s
  unfold checkRepetition at h
  rw [hjoin] at h ⊢
  dsimp only at h ⊢
  split at h
  · next hpending =>
    split at h
    · next hends =>
      cases h
      exact .inr ⟨⟨hpending, hends⟩, rfl⟩
    · obtain ⟨⟨status, u⟩, hschedule, rfl⟩ := Option.map_eq_some_iff.mp h
      exact .inl (adrAckCounter_ScheduleTx hschedule :)
  · cases h
    exact .inl rfl

/-- Only a frame that is not to be acknowledged is counted when it ends. -/
theorem adrAckCounter_OnMacStateCheckTimerEvent {s t : Mac}
    (h : OnMacStateCheckTimerEvent s = some t) :
    t.AdrAckCounter = s.AdrAckCounter ∨ (s.LoRaMacFlags.MacDone = true ∧ s.endsFrame) ∧
      t.AdrAckCounter = s.AdrAckCounter + 1 := by
  obtain ⟨u, rfl, hu⟩ := OnMacStateCheckTimerEvent_cases h
  have hconfirm : (confirmRequests u.unreceived).AdrAckCounter = u.AdrAckCounter :=
    (congrArg Mac.AdrAckCounter (untold_confirmRequests u.unreceived) :)
  rw [hconfirm]
  rcases hu with ⟨-, rfl⟩ | ⟨hdone, hcycle⟩
  · exact .inl rfl
  · obtain ⟨confirm, v, hconfirm, hv, hvt⟩ := completeCycle_parts hcycle
    rw [adrAckCounter_checkAckTimeout hvt]
    rcases hv with ⟨hcase, hv⟩ | ⟨-, rfl⟩
    · rw [hconfirm hcase.2] at hv
      refine (adrAckCounter_checkRepetition hv).imp_right fun ⟨hends, hcount⟩ => ⟨⟨hdone, hcase, ?_⟩, hcount⟩
      rw [(checkJoin_congr (s := s) (t := s.checked.ended s.checked.McpsConfirm) rfl rfl rfl rfl rfl).2]
        at hends
      exact hends
    · exact .inl rfl

/-- What one step does with the counter. -/
theorem adrAckCounter_step {s t : Mac} {e : Event} (h : step s e = some t) :
    (t.AdrAckCounter = s.AdrAckCounter ∨ t.AdrAckCounter = 0) ∨ e = .macStateCheckTimer ∧
      (s.LoRaMacFlags.MacDone = true ∧ s.endsFrame) ∧ t.AdrAckCounter = s.AdrAckCounter + 1 := by
  cases moved_of_step h with
  | received hreceived _ => exact .inl hreceived.adrAckCounter
  | mcps hmcps => exact .inl (adrAckCounter_LoRaMacMcpsRequest hmcps)
  | mlme hmlme => exact .inl (adrAckCounter_LoRaMacMlmeRequest hmlme)
  | mib hidle => exact .inl (.inl (congrArg Mac.AdrAckCounter (unset_mibSet s _) :))
  | @upperReturn p hinside =>
    exact .inl (.inl (congrArg Mac.AdrAckCounter (untold_returnFrom s p) :))
  | txDone => exact .inl (.inl (congrArg Mac.AdrAckCounter (unaired_OnRadioTxDone _) :))
  | txTimeout => exact .inl (.inl (congrArg Mac.AdrAckCounter (light_OnRadioTxTimeout _).quiet :))
  | stateCheck _ _ hcheck =>
    rcases adrAckCounter_OnMacStateCheckTimerEvent hcheck with hsame | hcount
    · exact .inl (.inl hsame)
    · exact .inr ⟨rfl, hcount⟩
  | txDelayed _ _ hdelayed =>
    obtain ⟨u, status, hschedule, hu⟩ := OnTxDelayedTimerEvent_cases hdelayed
    rw [adrAckCounter_ScheduleTx hschedule]
    rcases hu with ⟨-, rfl⟩ | ⟨-, rfl⟩
    · exact .inl (.inl rfl)
    · exact .inl (adrAckCounter_PrepareFrame _ _ _ _ _ _)

/-- A data frame for the node or for one of its groups has a valid MIC, and its counter is not too
far ahead. -/
def Downlinks (s : Mac) : Event → Prop
  | .radio (.RxDone frame _ _ _) => frame.IsData ∧ ∃ dest ∈ destination s frame.address,
      sequenceCounterDiff frame dest < MAX_FCNT_GAP ∧ frame.micRx = dataMic s frame dest
  | _ => False

theorem adrAckCounter_receiveData {s t : Mac} {frame : RxFrame} {dest : Destination} {snr : Int}
    (hdest : destination s frame.address = some dest)
    (hgap : sequenceCounterDiff frame dest < MAX_FCNT_GAP)
    (hmic : frame.micRx = dataMic s frame dest) (h : receiveData s frame snr = some t) :
    t.AdrAckCounter = 0 := by
  have hkeep {u v : Mac} (hu : u.AdrAckCounter = 0) (huv : Accepted u v) :
      v.AdrAckCounter = 0 := by
    rcases huv.adrAckCounter with hsame | hzero
    · exact hsame.trans hu
    · exact hzero
  have hcommand (u : Mac) (payload : Mem) (macIndex snr : UInt8) (cmd : LoRaMacSrvCmd_t)
      (hu : u.AdrAckCounter = 0) :
      (processMacCommand u payload macIndex snr cmd).2.AdrAckCounter = 0 :=
    (congrArg Mac.AdrAckCounter (uncommanded_processMacCommand u payload macIndex snr cmd) :).trans hu
  unfold receiveData at h
  rw [hdest] at h
  dsimp only at h
  rw [if_neg (UInt16.not_le.mpr hgap), if_pos hmic] at h
  split at h
  · exact receiveMulticast_induction (P := fun s => s.AdrAckCounter = 0) hkeep hcommand h rfl
  · exact receiveUnicast_induction (P := fun s => s.AdrAckCounter = 0) hkeep hcommand h rfl

/-- Such a frame sets the counter back. -/
theorem adrAckCounter_of_downlinks {s t : Mac} {e : Event} (h : step s e = some t)
    (he : Downlinks s e) : t.AdrAckCounter = 0 := by
  cases e with
  | radio e =>
    cases e with
    | RxDone frame rssi snr rxContinuous =>
      obtain ⟨htype, dest, hdest, hgap, hmic⟩ := he
      rcases step_cases h with ⟨r, hr, -⟩ | ⟨p, hp, -⟩ | ⟨-, hhandle⟩
      · cases hr
      · cases hp
      · obtain ⟨u, hu, hut⟩ := Option.bind_eq_some_iff.mp hhandle
        obtain ⟨-, rfl⟩ := radioIrq_eq_some.mp hu
        rw [OnRadioRxDone_of_isData htype] at hut
        have hcore := (refused_beginReception (s.setStatus (rxStatus rxContinuous)) rssi snr).core
        refine adrAckCounter_receiveData ?_ hgap ?_ hut
        · exact (destination_eq_of_core_eq hcore frame.address).trans hdest
        · exact hmic.trans (dataMic_eq_of_core_eq hcore frame dest).symm
    | _ => cases he
  | _ => cases he

/-- The state check ends the transmission of a frame: the frame has been repeated often enough, or
a frame has been received; or the wait for its acknowledgement is over. -/
def Completes (s : Mac) : Event → Prop
  | .macStateCheckTimer => s.LoRaMacFlags.MacDone = true ∧ (s.endsFrame ∨
      s.NodeAckRequested = true ∧ (acknowledged (checkTxTimeout s) = true ∨ s.givesUp))
  | _ => False

/-- A data request is made with ADR on, and `PrepareFrame` leaves a lower data rate. -/
def Lowers (s : Mac) : Event → Prop
  | .request (.mcps r) =>
      (s.LoRaMacState.MAC_TX_RUNNING = false ∧ s.LoRaMacState.MAC_TX_DELAYED = false) ∧
        s.AdrCtrlOn = true ∧ ∃ macHdr ∈ r.macHdr,
          (PrepareFrame s macHdr ⟨0, false, false, false, true⟩ r.fPort r.fBuffer
            r.fBufferSize).2.LoRaMacParams.ChannelsDatarate < s.LoRaMacParams.ChannelsDatarate
  | _ => False

/-- The frame of a data request finds the counter at a value that asks for a lower data rate. -/
structure AdrDue (s : Mac) (r : McpsReq_t) : Prop where
  idle : s.LoRaMacState.MAC_TX_RUNNING = false ∧ s.LoRaMacState.MAC_TX_DELAYED = false
  adr : s.AdrCtrlOn = true
  joined : s.IsLoRaMacNetworkJoined = true
  data : ∃ macHdr ∈ r.macHdr, macHdr.IsDataUp
  datarate : LORAMAC_TX_MIN_DATARATE < s.LoRaMacParams.ChannelsDatarate
  late : ADR_ACK_LIMIT + ADR_ACK_DELAY ≤ s.AdrAckCounter
  multiple : s.AdrAckCounter % ADR_ACK_DELAY = 0

theorem nextDatarate_lt_iff {s : Mac} :
    nextDatarate s true < s.LoRaMacParams.ChannelsDatarate ↔
      LORAMAC_TX_MIN_DATARATE < s.LoRaMacParams.ChannelsDatarate ∧
        ADR_ACK_LIMIT + ADR_ACK_DELAY ≤ s.AdrAckCounter ∧ s.AdrAckCounter % ADR_ACK_DELAY = 0 := by
  unfold nextDatarate AdrNextDr
  dsimp only
  rw [if_neg (by decide)]
  by_cases hlowest : s.LoRaMacParams.ChannelsDatarate = LORAMAC_TX_MIN_DATARATE
  · rw [if_pos hlowest, hlowest]
    simp
  · rw [if_neg hlowest]
    by_cases hlate : ADR_ACK_LIMIT + ADR_ACK_DELAY ≤ s.AdrAckCounter ∧
        s.AdrAckCounter % ADR_ACK_DELAY = 0
    · rw [if_pos hlate]
      by_cases hlow : LORAMAC_TX_MIN_DATARATE < s.LoRaMacParams.ChannelsDatarate
      · rw [if_pos hlow]
        split <;> simp [hlow, hlate]
      · rw [if_neg hlow]
        split <;> simp [hlow]
    · rw [if_neg hlate]
      simp only [lt_irrefl, false_iff, not_and]
      exact fun _ => not_and.mp hlate

/-- What `PrepareFrame` makes of the data rate. -/
theorem datarate_PrepareFrame_eq (s : Mac) (macHdr : LoRaMacFrameType_t) (adr : Bool) (fPort : UInt8)
    (fBuffer : Option Mem) (fBufferSize : UInt16) :
    (macHdr.IsDataUp ∧ s.IsLoRaMacNetworkJoined = true ∧
        (PrepareFrame s macHdr ⟨0, false, false, false, adr⟩ fPort fBuffer
          fBufferSize).2.LoRaMacParams.ChannelsDatarate = nextDatarate s adr) ∨
      ¬ (macHdr.IsDataUp ∧ s.IsLoRaMacNetworkJoined = true) ∧
        (PrepareFrame s macHdr ⟨0, false, false, false, adr⟩ fPort fBuffer
          fBufferSize).2.LoRaMacParams.ChannelsDatarate = s.LoRaMacParams.ChannelsDatarate := by
  by_cases hdata : macHdr.IsDataUp
  · have hadapted : (adapted s macHdr adr).LoRaMacParams.ChannelsDatarate = nextDatarate s adr :=
      (AdrNextDr_congr (s := s) (t := startFrame s macHdr) adr true rfl rfl).2
    have hbuild := congrArg (·.2.1.ChannelsDatarate) (ranges_buildDataFrame (adapted s macHdr adr)
      (adrRequesting s ⟨0, false, false, false, adr⟩) fPort fBuffer fBufferSize)
    rw [PrepareFrame_of_isDataUp hdata]
    by_cases hjoined : s.IsLoRaMacNetworkJoined = false
    · rw [if_pos hjoined]
      exact .inr ⟨by simp [hjoined], rfl⟩
    · rw [if_neg hjoined]
      refine .inl ⟨hdata, Bool.not_eq_false _ ▸ hjoined, ?_⟩
      split
      · exact hbuild.trans hadapted
      · exact hadapted
  · refine .inr ⟨fun h => hdata h.1, ?_⟩
    unfold PrepareFrame
    dsimp only
    split
    · rfl
    · exact absurd (.inl rfl) hdata
    · exact absurd (.inr rfl) hdata
    · unfold prepareProprietary
      split
      · rfl
      · split <;> rfl
    · rfl

theorem lowers_iff {s : Mac} {r : McpsReq_t} : Lowers s (.request (.mcps r)) ↔ AdrDue s r := by
  constructor
  · rintro ⟨hidle, hadr, macHdr, hmacHdr, hlower⟩
    rcases datarate_PrepareFrame_eq s macHdr true r.fPort r.fBuffer r.fBufferSize with
      ⟨hdata, hjoined, hdatarate⟩ | ⟨-, hdatarate⟩
    · rw [hdatarate, nextDatarate_lt_iff] at hlower
      exact ⟨hidle, hadr, hjoined, ⟨macHdr, hmacHdr, hdata⟩, hlower.1, hlower.2.1, hlower.2.2⟩
    · rw [hdatarate] at hlower
      exact absurd hlower (lt_irrefl _)
  · rintro ⟨hidle, hadr, hjoined, ⟨macHdr, hmacHdr, hdata⟩, hdatarate, hlate, hmultiple⟩
    refine ⟨hidle, hadr, macHdr, hmacHdr, ?_⟩
    rcases datarate_PrepareFrame_eq s macHdr true r.fPort r.fBuffer r.fBufferSize with
      ⟨-, -, hnext⟩ | ⟨hnot, -⟩
    · rw [hnext, nextDatarate_lt_iff]
      exact ⟨hdatarate, hlate, hmultiple⟩
    · exact absurd ⟨hdata, hjoined⟩ hnot

instance (s : Mac) : Decidable s.endsFrame :=
  inferInstanceAs (Decidable ((_ ∧ _) ∧ _ ∧ (_ ∨ _)))

instance (s : Mac) : Decidable s.givesUp := inferInstanceAs (Decidable (_ ∧ _ ∧ _))

instance (macHdr : LoRaMacFrameType_t) : Decidable macHdr.IsDataUp :=
  inferInstanceAs (Decidable (_ ∨ _))

instance (s : Mac) (e : Event) : Decidable (Downlinks s e) :=
  match e with
  | .radio (.RxDone frame _ _ _) => inferInstanceAs (Decidable (frame.IsData ∧
      ∃ dest ∈ destination s frame.address,
        sequenceCounterDiff frame dest < MAX_FCNT_GAP ∧ frame.micRx = dataMic s frame dest))
  | .radio .TxDone | .radio .TxTimeout | .radio (.RxError _) | .radio (.RxTimeout _)
  | .request _ | .upperReturn | .macStateCheckTimer | .txDelayedTimer | .rxWindowTimer1
  | .rxWindowTimer2 | .ackTimeoutTimer => .isFalse id

instance (s : Mac) (e : Event) : Decidable (Completes s e) :=
  match e with
  | .macStateCheckTimer => inferInstanceAs (Decidable (_ ∧ (_ ∨ _ ∧ (_ ∨ _))))
  | .radio _ | .request _ | .upperReturn | .txDelayedTimer | .rxWindowTimer1 | .rxWindowTimer2
  | .ackTimeoutTimer => .isFalse id

instance (s : Mac) (r : McpsReq_t) : Decidable (AdrDue s r) :=
  decidable_of_iff ((s.LoRaMacState.MAC_TX_RUNNING = false ∧
      s.LoRaMacState.MAC_TX_DELAYED = false) ∧ s.AdrCtrlOn = true ∧
      s.IsLoRaMacNetworkJoined = true ∧ (∃ macHdr ∈ r.macHdr, macHdr.IsDataUp) ∧
      LORAMAC_TX_MIN_DATARATE < s.LoRaMacParams.ChannelsDatarate ∧
      ADR_ACK_LIMIT + ADR_ACK_DELAY ≤ s.AdrAckCounter ∧ s.AdrAckCounter % ADR_ACK_DELAY = 0)
    ⟨fun ⟨h₁, h₂, h₃, h₄, h₅, h₆, h₇⟩ => ⟨h₁, h₂, h₃, h₄, h₅, h₆, h₇⟩,
      fun ⟨h₁, h₂, h₃, h₄, h₅, h₆, h₇⟩ => ⟨h₁, h₂, h₃, h₄, h₅, h₆, h₇⟩⟩

instance (s : Mac) (e : Event) : Decidable (Lowers s e) :=
  match e with
  | .request (.mcps _) => decidable_of_iff _ lowers_iff.symm
  | .request (.mlme _) | .request (.mib _) | .request (.channelAdd _ _)
  | .request (.channelRemove _) | .request (.multicastLink _) | .request (.multicastUnlink _)
  | .radio _ | .upperReturn | .macStateCheckTimer | .txDelayedTimer | .rxWindowTimer1
  | .rxWindowTimer2 | .ackTimeoutTimer => .isFalse id

/-- The radio is given a frame between two states of a run. -/
def sends (s t : Mac) : Bool := (t.board.log.drop s.board.log.length).any Action.isSend

/-- The MAC, with what a run has shown: whether the radio has been given a frame that has not been
completed, and the completed uplinks since the last accepted downlink, next to the lowering of the
data rate. -/
structure Paced where
  unended : Bool
  pace : Pace
  state : Mac

/-- An accepted downlink starts the count of the uplinks again. -/
def Paced.paceAfter (p : Paced) (e : Event) (t : Mac) : Pace :=
  if Downlinks p.state e then ⟨0, none, false⟩
  else if Lowers p.state e then p.pace.act
  else
    let pace := if p.unended = true ∧ Completes p.state e then p.pace.tick else p.pace
    if t.AdrAckCounter = p.state.AdrAckCounter then pace else pace.move

def Paced.step (p : Paced) (e : Event) : Option Paced :=
  (mac.step p.state e).map fun t =>
    ⟨sends p.state t || p.unended && !decide (Completes p.state e), p.paceAfter e t, t⟩

/-- The data rate is lowered after 96 completed uplinks at the earliest, and after 32 more since it
was lowered last. -/
def LowersLate (p : Paced) (e : Event) : Prop :=
  Lowers p.state e → ADR_ACK_LIMIT.toNat + ADR_ACK_DELAY.toNat ≤ p.pace.ticks ∧
    ∀ n ∈ p.pace.last, n + ADR_ACK_DELAY.toNat ≤ p.pace.ticks

/-- The events that keep the pace. The state check counts a frame only if the radio has been given
one since the last that was completed, and a data request that finds the counter at a value that
asks for a lower data rate finds it moved since the data rate was lowered last. -/
def Paces (p : Paced) : Event → Prop
  | .macStateCheckTimer =>
      p.state.LoRaMacFlags.MacDone = true → p.state.endsFrame → p.unended = true
  | .request (.mcps r) => AdrDue p.state r → p.pace.last.isSome = true → p.pace.moved = true
  | _ => True

instance (p : Paced) (e : Event) : Decidable (Paces p e) :=
  match e with
  | .macStateCheckTimer => inferInstanceAs (Decidable (_ → _ → _))
  | .request (.mcps _) => inferInstanceAs (Decidable (_ → _ → _))
  | .request (.mlme _) | .request (.mib _) | .request (.channelAdd _ _)
  | .request (.channelRemove _) | .request (.multicastLink _) | .request (.multicastUnlink _)
  | .radio _ | .upperReturn | .txDelayedTimer | .rxWindowTimer1 | .rxWindowTimer2
  | .ackTimeoutTimer => .isTrue trivial

/-- A data rate is lowered by a data request, at a multiple of the period. -/
theorem adrDue_of_lowers {s : Mac} {e : Event} (h : Lowers s e) :
    ∃ r, e = .request (.mcps r) ∧ AdrDue s r := by
  cases e with
  | request r =>
    cases r with
    | mcps r => exact ⟨r, rfl, lowers_iff.mp h⟩
    | _ => cases h
  | _ => cases h

theorem AdrDue.modEq {s : Mac} {r : McpsReq_t} (h : AdrDue s r) :
    s.AdrAckCounter.toNat ≡ 0 [MOD ADR_ACK_DELAY.toNat] := by
  have hmultiple := congrArg UInt32.toNat h.multiple
  rw [UInt32.toNat_mod] at hmultiple
  exact hmultiple

theorem AdrDue.le {s : Mac} {r : McpsReq_t} (h : AdrDue s r) :
    ADR_ACK_LIMIT.toNat + ADR_ACK_DELAY.toNat ≤ s.AdrAckCounter.toNat :=
  UInt32.le_iff_toNat_le.mp h.late

/-- One step keeps the count of the MAC within the count of the uplinks. -/
theorem sound_paceAfter {p : Paced} {e : Event} {t : Mac}
    (hp : p.pace.Sound ADR_ACK_DELAY.toNat p.state.AdrAckCounter.toNat) (he : Paces p e)
    (h : step p.state e = some t) :
    (p.paceAfter e t).Sound ADR_ACK_DELAY.toNat t.AdrAckCounter.toNat := by
  unfold Paced.paceAfter
  by_cases hdownlink : Downlinks p.state e
  · rw [if_pos hdownlink, adrAckCounter_of_downlinks h hdownlink]
    exact .start
  rw [if_neg hdownlink]
  have hcounter := adrAckCounter_step h
  by_cases hlowers : Lowers p.state e
  · obtain ⟨r, rfl, hdue⟩ := adrDue_of_lowers hlowers
    rw [if_pos hlowers]
    rcases hcounter with (hsame | hzero) | ⟨hcheck, -⟩
    · rw [hsame]
      exact hp.act hdue.modEq
    · rw [hzero]
      exact hp.reset.act rfl
    · cases hcheck
  rw [if_neg hlowers]
  have htick : (if p.unended = true ∧ Completes p.state e then p.pace.tick else p.pace).Sound
      ADR_ACK_DELAY.toNat p.state.AdrAckCounter.toNat := by
    split
    · exact hp.tick
    · exact hp
  by_cases hsame : t.AdrAckCounter = p.state.AdrAckCounter
  · rw [hsame, if_pos rfl]
    exact htick
  · rw [if_neg hsame]
    rcases hcounter with (hsame' | hzero) | ⟨rfl, ⟨hdone, hends⟩, hcount⟩
    · exact absurd hsame' hsame
    · rw [hzero]
      exact htick.reset
    · -- a frame is counted, and it is one that the radio was given
      rw [if_pos ⟨he hdone hends, hdone, .inl hends⟩, hcount, UInt32.toNat_add]
      exact hp.count (by decide)

/-- In every run of such events `AdrNextDr` keeps the pace, whatever frames are sent or refused and
however the radio and the timers interleave: the data rate is not lowered before the documented
number of frames without an answer, and not again before another 32 of them. -/
theorem lowersLate_of_paces {env : Env} {es : List Event} {p : Paced} {e : Event}
    (hrun : transition.Run (fun p e q => Paced.step p e = some q) Paces
      ⟨false, ⟨0, none, false⟩, Mac.boot env⟩ es p)
    (he : Paces p e) : LowersLate p e := by
  have hboot : Pace.Sound ADR_ACK_DELAY.toNat ⟨0, none, false⟩ (Mac.boot env).AdrAckCounter.toNat :=
    Pace.Sound.start
  have hp : p.pace.Sound ADR_ACK_DELAY.toNat p.state.AdrAckCounter.toNat := by
    refine hrun.invariant (P := fun (p : Paced) =>
      p.pace.Sound ADR_ACK_DELAY.toNat p.state.AdrAckCounter.toNat) hboot fun p e q hp he hstep => ?_
    obtain ⟨t, ht, rfl⟩ := Option.map_eq_some_iff.mp hstep
    exact sound_paceAfter hp he ht
  intro hlowers
  obtain ⟨r, rfl, hdue⟩ := adrDue_of_lowers hlowers
  refine ⟨hdue.le.trans hp.le_ticks, fun n hn => ?_⟩
  have hmoved : p.pace.moved = true := he hdue (by rw [Option.mem_def.mp hn]; rfl)
  exact hp.le_of_moved hdue.modEq (Nat.lt_of_lt_of_le (by decide) hdue.le) hmoved n hn

/-- A node is given a session and sends 96 unconfirmed frames with ADR on. -/
def adrUplinks : List Event :=
  [.request (.mib (.MIB_NETWORK_JOINED true)), .request (.mib (.MIB_ADR true)),
    .request (.mib (.MIB_CHANNELS_DATARATE 5))] ++ (List.replicate 96 exchange).flatten

/-- A request for a payload that is too long at every data rate. -/
def tooLong : Event := .request (.mcps (.Unconfirmed 1 (some fun _ => 0) 250 5))

set_option maxRecDepth 4000 in
/-- The frames keep the pace. A request that is refused after them lowers the data rate, and so
does the next one. -/
theorem run_adrUplinks : ∃ p q, transition.Run (fun p e q => Paced.step p e = some q) Paces
      ⟨false, ⟨0, none, false⟩, Mac.boot Env.slow⟩ adrUplinks p ∧
    (Paces p tooLong ∧ Lowers p.state tooLong) ∧ Paced.step p tooLong = some q ∧
    Lowers q.state tooLong ∧ q.pace.ticks = 96 ∧ q.pace.last = some 96 := by
  obtain ⟨p, hrun, hp⟩ := transition.Run.of_after Paced.step Paces
    ⟨false, ⟨0, none, false⟩, Mac.boot Env.slow⟩ adrUplinks
    (fun p => decide (Paces p tooLong ∧ Lowers p.state tooLong) &&
      (p.step tooLong).any fun (q : Paced) =>
        decide (Lowers q.state tooLong ∧ q.pace.ticks = 96 ∧ q.pace.last = some 96))
    (by decide +kernel)
  rw [Bool.and_eq_true] at hp
  obtain ⟨q, hq, hlowers⟩ := (Option.any_eq_true _ _).mp hp.2
  exact ⟨p, q, hrun, of_decide_eq_true hp.1, hq, of_decide_eq_true hlowers⟩

theorem lowersLate_of_paces_adrUplinks : ∃ p,
    transition.Run (fun p e q => Paced.step p e = some q) Paces
      ⟨false, ⟨0, none, false⟩, Mac.boot Env.slow⟩ adrUplinks p ∧
      Lowers p.state tooLong ∧ 96 ≤ p.pace.ticks := by
  obtain ⟨p, q, hrun, ⟨he, hlowers⟩, -⟩ := run_adrUplinks
  exact ⟨p, hrun, hlowers, (lowersLate_of_paces hrun he hlowers).1⟩

/-- No uplink is completed between the two requests. -/
theorem not_lowersLate_tooLong : ∃ q,
    transition.Run (fun p e q => Paced.step p e = some q) (fun _ _ => True)
      ⟨false, ⟨0, none, false⟩, Mac.boot Env.slow⟩ (adrUplinks ++ [tooLong]) q ∧
      ¬ LowersLate q tooLong := by
  obtain ⟨p, q, hrun, -, hq, hlowers, hticks, hlast⟩ := run_adrUplinks
  refine ⟨q, .snoc (hrun.mono fun _ _ _ => trivial) trivial hq, fun hlate => ?_⟩
  have hspaced := (hlate hlowers).2 96 hlast
  rw [hticks] at hspaced
  exact absurd hspaced (by decide)

end loranode.mac
