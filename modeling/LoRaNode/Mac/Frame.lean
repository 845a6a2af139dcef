import LoRaNode.Mac.Events

namespace loranode.mac

open LoRaMacStatus_t LoRaMacFrameType_t LoRaMacEventInfoStatus_t

/-- The state without what the timers of the reception, and the callbacks of the radio that
bring no frame, write: these timers, the radio, the status of the confirms, and flags. -/
def Mac.quiet (s : Mac) : Mac :=
  { s with
    board := { s.board with status := .RF_IDLE, next := 0, windows := [], lookups := [] }
    ChannelsNbRepCounter := 0
    LoRaMacState := { s.LoRaMacState with MAC_ACK_REQ := false }
    RxWindowTimer1 := ⟨0, false⟩
    RxWindowTimer2 := ⟨0, false⟩
    AckTimeoutTimer := ⟨0, false⟩
    AckTimeoutRetry := false
    McpsIndication := { s.McpsIndication with RxDatarate := 0 }
    McpsConfirm := { s.McpsConfirm with Status := LORAMAC_EVENT_INFO_STATUS_OK }
    MlmeConfirm := { s.MlmeConfirm with Status := LORAMAC_EVENT_INFO_STATUS_OK }
    RxSlot := 0
    LoRaMacFlags := { s.LoRaMacFlags with MacDone := false } }

/-- The looks at the tables that opening a window can take. -/
def windowLookups (s : Mac) : List (Int × Nat) :=
  [(rx1Datarate s, Datarates.length), (rx1Datarate s, (maxPayloads s).length),
    (rx2Datarate s, Datarates.length), (rx2Datarate s, (maxPayloads s).length)]

/-- How these handlers change the state. They open windows at no other data rates, and set
`AckTimeoutRetry` only for a frame that is to be acknowledged. -/
structure Light (s t : Mac) : Prop where
  quiet : t.quiet = s.quiet
  macDone : s.LoRaMacFlags.MacDone = true → t.LoRaMacFlags.MacDone = true
  ackTimeoutRetry : t.AckTimeoutRetry = true →
    s.AckTimeoutRetry = true ∨ s.NodeAckRequested = true
  lookups : t.board.lookups ⊆ s.board.lookups ++ windowLookups s
  ackReq : t.LoRaMacState.MAC_ACK_REQ = true → s.LoRaMacState.MAC_ACK_REQ = true

namespace Light

theorem trans {s t u : Mac} (hst : Light s t) (htu : Light t u) : Light s u := by
  refine ⟨htu.quiet.trans hst.quiet, htu.macDone ∘ hst.macDone, fun hretry => ?_, ?_,
    hst.ackReq ∘ htu.ackReq⟩
  · have hack : t.NodeAckRequested = s.NodeAckRequested :=
      (congrArg Mac.NodeAckRequested hst.quiet :)
    rcases htu.ackTimeoutRetry hretry with hretry | hreq
    · exact hst.ackTimeoutRetry hretry
    · exact .inr (hack ▸ hreq)
  · have hwindows : windowLookups t = windowLookups s := (congrArg windowLookups hst.quiet :)
    have hlookups := htu.lookups
    rw [hwindows] at hlookups
    exact List.Subset.trans hlookups
      (List.append_subset.mpr ⟨hst.lookups, List.subset_append_right _ _⟩)

/-- A handler that only writes what `quiet` erases, opens no window and sets no flag. -/
theorem of_quiet {s t : Mac} (hquiet : t.quiet = s.quiet) (hflags : t.LoRaMacFlags = s.LoRaMacFlags)
    (hretry : t.AckTimeoutRetry = s.AckTimeoutRetry)
    (hlookups : t.board.lookups = s.board.lookups)
    (hreq : t.LoRaMacState.MAC_ACK_REQ = s.LoRaMacState.MAC_ACK_REQ) : Light s t := by
  refine ⟨hquiet, fun h => by rwa [hflags], fun h => .inl (hretry ▸ h), ?_, fun h => hreq ▸ h⟩
  rw [hlookups]
  exact List.subset_append_left _ _

theorem refl (s : Mac) : Light s s := .of_quiet rfl rfl rfl rfl rfl

end Light

theorem light_Radio_Sleep (s : Mac) : Light s (Radio_Sleep s) :=
  .of_quiet rfl rfl rfl rfl rfl

theorem light_RxWindowSetup {s : Mac} {datarate : Int}
    (hdatarate : datarate = rx1Datarate s ∨ datarate = rx2Datarate s) (freq bandwidth : UInt32)
    (timeout : UInt16) (rxContinuous : Bool) :
    Light s (RxWindowSetup s freq datarate bandwidth timeout rxContinuous) := by
  have hlook (length : Nat) (h : length = Datarates.length ∨ length = (maxPayloads s).length) :
      (datarate, length) ∈ windowLookups s := by
    unfold windowLookups
    rcases hdatarate with rfl | rfl <;> rcases h with rfl | rfl <;> simp
  have hfirst : Light s (s.lookup [(datarate, Datarates.length)]) := by
    refine ⟨rfl, id, .inl, List.append_subset.mpr ⟨List.subset_append_left _ _, ?_⟩, id⟩
    exact List.cons_subset.mpr
      ⟨List.mem_append_right _ (hlook _ (.inl rfl)), List.nil_subset _⟩
  unfold RxWindowSetup
  dsimp only
  split
  · refine hfirst.trans
      ⟨rfl, id, .inl, List.append_subset.mpr ⟨List.subset_append_left _ _, ?_⟩, id⟩
    exact List.cons_subset.mpr
      ⟨List.mem_append_right _ (hlook _ (.inr rfl)), List.nil_subset _⟩
  · exact hfirst

theorem light_OnRxWindow1TimerEvent (s : Mac) : Light s (OnRxWindow1TimerEvent s) := by
  unfold OnRxWindow1TimerEvent
  refine Light.trans ?_ (light_RxWindowSetup (.inl rfl) _ _ _ _)
  split
  · exact .of_quiet rfl rfl rfl rfl rfl
  · exact .of_quiet rfl rfl rfl rfl rfl

theorem light_OnRxWindow2TimerEvent (s : Mac) : Light s (OnRxWindow2TimerEvent s) := by
  have hstop : Light s { s with RxWindowTimer2 := TimerStop s.RxWindowTimer2, RxSlot := 1 } :=
    .of_quiet rfl rfl rfl rfl rfl
  exact hstop.trans (light_RxWindowSetup (.inr rfl) _ _ _ _)

theorem light_OnAckTimeoutTimerEvent (s : Mac) : Light s (OnAckTimeoutTimerEvent s) := by
  unfold OnAckTimeoutTimerEvent
  dsimp only
  by_cases hack : s.NodeAckRequested = true
  · rw [if_pos hack]
    split
    · exact ⟨rfl, fun _ => rfl, fun _ => .inr hack, List.subset_append_left _ _,
        fun h => absurd h Bool.false_ne_true⟩
    · exact ⟨rfl, id, fun _ => .inr hack, List.subset_append_left _ _,
        fun h => absurd h Bool.false_ne_true⟩
  · rw [if_neg hack]
    split
    · exact ⟨rfl, fun _ => rfl, .inl, List.subset_append_left _ _, id⟩
    · exact .of_quiet rfl rfl rfl rfl rfl

theorem light_leaveRadio (s : Mac) : Light s (leaveRadio s) := by
  unfold leaveRadio
  split
  · exact light_OnRxWindow2TimerEvent s
  · exact light_Radio_Sleep s

theorem light_startRxWindows (s : Mac) : Light s (startRxWindows s) := by
  have hstart : Light s { s with
      RxWindowTimer1 := TimerStart (TimerSetValue s.RxWindowTimer1 s.RxWindow1Delay) } :=
    .of_quiet rfl rfl rfl rfl rfl
  have hwindow2 (s : Mac) : Light s (startRxWindow2 s) := by
    unfold startRxWindow2
    split
    · exact .refl s
    · exact .of_quiet rfl rfl rfl rfl rfl
  have hack (s : Mac) : Light s (startAckTimeout s) := by
    unfold startAckTimeout
    split
    · exact .of_quiet rfl rfl rfl rfl rfl
    · exact .refl s
  exact (hstart.trans (hwindow2 _)).trans (hack _)

theorem light_countRepetition (s : Mac) : Light s (countRepetition s) := by
  unfold countRepetition
  split
  · exact .refl s
  · exact .of_quiet rfl rfl rfl rfl rfl

/-- `OnRadioTxDone` records the end of the transmission; then it is light, or the windows
are switched off. -/
theorem light_OnRadioTxDone (s : Mac) :
    ∃ u, Light u (OnRadioTxDone s) ∧
      (u = recordTxDone (leaveRadio (TimerGetCurrentTime s).2) (TimerGetCurrentTime s).1 ∨
        s.IsRxWindowsEnabled = false ∧ u = completeWithoutWindows
          (recordTxDone (leaveRadio (TimerGetCurrentTime s).2) (TimerGetCurrentTime s).1)) := by
  have hradio : (leaveRadio (TimerGetCurrentTime s).2).IsRxWindowsEnabled =
      s.IsRxWindowsEnabled :=
    (congrArg Mac.IsRxWindowsEnabled (light_leaveRadio (TimerGetCurrentTime s).2).quiet :)
  unfold OnRadioTxDone openRxWindows
  dsimp only
  split
  · exact ⟨_, (light_startRxWindows _).trans (light_countRepetition _), .inl rfl⟩
  · next hwindows =>
    refine ⟨_, light_countRepetition _, .inr ⟨?_, rfl⟩⟩
    rw [← hradio]
    exact Bool.eq_false_iff.mpr hwindows

theorem light_OnRadioTxTimeout (s : Mac) : Light s (OnRadioTxTimeout s) := by
  refine (light_leaveRadio s).trans ?_
  exact ⟨rfl, fun _ => rfl, .inl, List.subset_append_left _ _, id⟩

theorem light_endWindow (s : Mac) (Status : LoRaMacEventInfoStatus_t) :
    Light s (endWindow s Status) := by
  unfold endWindow
  refine (light_leaveRadio s).trans ?_
  dsimp only
  split
  · refine ⟨?_, fun _ => rfl, .inl, List.subset_append_left _ _, id⟩
    split <;> rfl
  · exact .refl _

/-- The state without what the MAC commands of the server write: the parameters, the channels,
the duty cycle and the answers. -/
def Mac.uncommanded (s : Mac) : Mac :=
  { s with
    board := { s.board with measures := 0, accesses := [] }
    LoRaMacParams := defaultParams
    Channels := defaultChannelTable
    MaxDCycle := 0
    AggregatedDCycle := 0
    MlmeConfirm := ⟨s.MlmeConfirm.MlmeRequest, LORAMAC_EVENT_INFO_STATUS_OK,
      s.MlmeConfirm.TxTimeOnAir, 0, 0⟩
    MacCommandsInNextTx := false
    MacCommandsBufferIndex := 0
    MacCommandsBuffer := fun _ => 0
    LoRaMacState := { s.LoRaMacState with MAC_TX_CONFIG := false } }

theorem uncommanded_AddMacCommand (s : Mac) (cmd : LoRaMacMoteCmd_t) (p1 p2 : UInt8) :
    (AddMacCommand s cmd p1 p2).2.uncommanded = s.uncommanded := by
  unfold AddMacCommand
  dsimp only
  split <;> rfl

theorem uncommanded_LoRaMacChannelAdd (s : Mac) (id : UInt8) (params : ChannelParams_t) :
    (LoRaMacChannelAdd s id params).2.uncommanded = s.uncommanded := by
  unfold LoRaMacChannelAdd
  split
  · rfl
  · split
    · rfl
    · split <;> rfl

theorem uncommanded_LoRaMacChannelRemove (s : Mac) (id : UInt8) :
    (LoRaMacChannelRemove s id).2.uncommanded = s.uncommanded := by
  unfold LoRaMacChannelRemove
  split
  · rfl
  · split <;> rfl

theorem state_AddMacCommand (s : Mac) (cmd : LoRaMacMoteCmd_t) (p1 p2 : UInt8) :
    (AddMacCommand s cmd p1 p2).2.LoRaMacState = s.LoRaMacState := by
  unfold AddMacCommand
  dsimp only
  split <;> rfl

theorem state_LoRaMacChannelAdd (s : Mac) (id : UInt8) (params : ChannelParams_t) :
    (LoRaMacChannelAdd s id params).2.LoRaMacState = s.LoRaMacState := by
  unfold LoRaMacChannelAdd
  split
  · rfl
  · split
    · rfl
    · split <;> rfl

theorem state_LoRaMacChannelRemove (s : Mac) (id : UInt8) :
    (LoRaMacChannelRemove s id).2.LoRaMacState = s.LoRaMacState := by
  unfold LoRaMacChannelRemove
  split
  · rfl
  · split <;> rfl

theorem newChannel_snd (s : Mac) (channelIndex : UInt8) (chParam : ChannelParams_t) :
    (newChannel s channelIndex chParam).2 = s ∨
      (newChannel s channelIndex chParam).2 = (LoRaMacChannelRemove s channelIndex).2 ∨
      (newChannel s channelIndex chParam).2 = (LoRaMacChannelAdd s channelIndex chParam).2 := by
  unfold newChannel
  split
  · split
    · exact .inl rfl
    · refine .inr (.inl ?_)
      split <;> simp_all
  · refine .inr (.inr ?_)
    split <;> simp_all

theorem uncommanded_processMacCommand (s : Mac) (payload : Mem) (macIndex snr : UInt8)
    (cmd : LoRaMacSrvCmd_t) :
    (processMacCommand s payload macIndex snr cmd).2.uncommanded = s.uncommanded := by
  cases cmd with
  | SRV_MAC_LINK_CHECK_ANS => rfl
  | SRV_MAC_LINK_ADR_REQ =>
    unfold processMacCommand linkAdrReq
    dsimp only
    split
    · exact uncommanded_AddMacCommand s _ _ _
    · rw [uncommanded_AddMacCommand]
      split <;> rfl
  | SRV_MAC_DUTY_CYCLE_REQ => exact uncommanded_AddMacCommand _ _ _ _
  | SRV_MAC_RX_PARAM_SETUP_REQ =>
    unfold processMacCommand rxParamSetupReq
    dsimp only
    rw [uncommanded_AddMacCommand]
    split <;> rfl
  | SRV_MAC_DEV_STATUS_REQ =>
    change (devStatusReq s macIndex snr).2.uncommanded = s.uncommanded
    unfold devStatusReq
    split
    · exact uncommanded_AddMacCommand _ _ _ _
    · exact uncommanded_AddMacCommand _ _ _ _
  | SRV_MAC_NEW_CHANNEL_REQ =>
    refine (uncommanded_AddMacCommand _ _ _ _).trans ?_
    have hnew (s : Mac) (channelIndex : UInt8) (chParam : ChannelParams_t) :
        (newChannel s channelIndex chParam).2.uncommanded = s.uncommanded := by
      rcases newChannel_snd s channelIndex chParam with h | h | h <;> rw [h]
      · exact uncommanded_LoRaMacChannelRemove s _
      · exact uncommanded_LoRaMacChannelAdd s _ _
    exact hnew (setTxConfig s true) _ _
  | SRV_MAC_RX_TIMING_SETUP_REQ => exact uncommanded_AddMacCommand _ _ _ _

/-- A command leaves `LoRaMacState` alone, or clears `MAC_TX_CONFIG` behind it. -/
theorem state_processMacCommand (s : Mac) (payload : Mem) (macIndex snr : UInt8)
    (cmd : LoRaMacSrvCmd_t) :
    (processMacCommand s payload macIndex snr cmd).2.LoRaMacState = s.LoRaMacState ∨
      (processMacCommand s payload macIndex snr cmd).2.LoRaMacState.MAC_TX_CONFIG = false := by
  cases cmd with
  | SRV_MAC_LINK_CHECK_ANS => exact .inl rfl
  | SRV_MAC_LINK_ADR_REQ =>
    refine .inl ?_
    unfold processMacCommand linkAdrReq
    dsimp only
    split
    · exact state_AddMacCommand s _ _ _
    · rw [state_AddMacCommand]
      split <;> rfl
  | SRV_MAC_DUTY_CYCLE_REQ => exact .inl (state_AddMacCommand _ _ _ _)
  | SRV_MAC_RX_PARAM_SETUP_REQ =>
    refine .inl ?_
    unfold processMacCommand rxParamSetupReq
    dsimp only
    rw [state_AddMacCommand]
    split <;> rfl
  | SRV_MAC_DEV_STATUS_REQ =>
    refine .inl ?_
    change (devStatusReq s macIndex snr).2.LoRaMacState = s.LoRaMacState
    unfold devStatusReq
    split
    · exact state_AddMacCommand _ _ _ _
    · exact state_AddMacCommand _ _ _ _
  | SRV_MAC_NEW_CHANNEL_REQ =>
    refine .inr ?_
    unfold processMacCommand newChannelReq
    dsimp only
    rw [state_AddMacCommand]
    rfl
  | SRV_MAC_RX_TIMING_SETUP_REQ => exact .inl (state_AddMacCommand _ _ _ _)

/-- What every command keeps, `ProcessMacCommands` keeps. -/
theorem ProcessMacCommands_induction {P : Mac → Prop} {payload : Mem} {snr : UInt8}
    (hcommand : ∀ s macIndex cmd, P s → P (processMacCommand s payload macIndex snr cmd).2)
    {s t : Mac} {macIndex commandsSize : UInt8}
    (h : ProcessMacCommands s payload macIndex commandsSize snr = some t) (hs : P s) : P t := by
  unfold ProcessMacCommands at h
  generalize 257 = fuel at h
  induction fuel generalizing s macIndex with
  | zero => cases h
  | succ fuel ih =>
    unfold processMacCommandsFrom at h
    split at h
    · split at h
      · cases h
        exact hs
      · exact ih (hcommand _ _ _ hs) h
    · cases h
      exact hs

theorem uncommanded_ProcessMacCommands {s t : Mac} {payload : Mem}
    {macIndex commandsSize snr : UInt8}
    (h : ProcessMacCommands s payload macIndex commandsSize snr = some t) :
    t.uncommanded = s.uncommanded :=
  ProcessMacCommands_induction (P := fun u => u.uncommanded = s.uncommanded)
    (fun u _ _ hu => (uncommanded_processMacCommand u _ _ _ _).trans hu) h rfl

/-- The state without what a frame that is refused can write: what `quiet` erases, the
indication and its buffer, the acknowledgement, and the marks of the refusal. -/
def Mac.core (s : Mac) : Mac :=
  { s.quiet with
    LoRaMacRxPayload := fun _ => 0
    LoRaMacState := { s.LoRaMacState with MAC_ACK_REQ := false, MAC_RX_ABORT := false }
    MacStateCheckTimer := ⟨0, false⟩
    McpsIndication := ⟨.MCPS_UNCONFIRMED, LORAMAC_EVENT_INFO_STATUS_OK, false, 0, 0, false, false, 0,
      false, 0, 0, 0, false, 0⟩
    McpsConfirm := { s.McpsConfirm with
      Status := LORAMAC_EVENT_INFO_STATUS_OK, AckReceived := false }
    LoRaMacFlags := { s.LoRaMacFlags with McpsInd := false, MacDone := false } }

theorem Light.core {s t : Mac} (h : Light s t) : t.core = s.core :=
  (congrArg Mac.core h.quiet :)

/-- The destination and the MIC of a data frame depend on the core of the state only. -/
theorem destination_eq_of_core_eq {s t : Mac} (h : t.core = s.core) (address : UInt32) :
    destination t address = destination s address := by
  change destination t.core address = destination s.core address
  rw [h]

theorem dataMic_eq_of_core_eq {s t : Mac} (h : t.core = s.core) (frame : RxFrame)
    (dest : Destination) : dataMic t frame dest = dataMic s frame dest := by
  change dataMic t.core frame dest = dataMic s.core frame dest
  rw [h]

/-- The marks that a reception leaves: it sets flags, a refusal sets `MAC_RX_ABORT` together with
them, and the state check stays queued. -/
structure Marked (s t : Mac) : Prop where
  mcpsInd : s.LoRaMacFlags.McpsInd = true → t.LoRaMacFlags.McpsInd = true
  macDone : s.LoRaMacFlags.MacDone = true → t.LoRaMacFlags.MacDone = true
  rxAbort : t.LoRaMacState.MAC_RX_ABORT = true → s.LoRaMacState.MAC_RX_ABORT = true ∨
    t.LoRaMacFlags.McpsInd = true ∧ t.LoRaMacFlags.MacDone = true
  ackTimeoutRetry : t.AckTimeoutRetry = true →
    s.AckTimeoutRetry = true ∨ s.NodeAckRequested = true
  lookups : t.board.lookups ⊆ s.board.lookups ++ windowLookups s
  stateCheck : s.MacStateCheckTimer.queued = true → t.MacStateCheckTimer.queued = true
  ackReq : t.LoRaMacState.MAC_ACK_REQ = true → s.LoRaMacState.MAC_ACK_REQ = true

theorem Marked.of_eq {s t : Mac} (hflags : t.LoRaMacFlags = s.LoRaMacFlags)
    (habort : t.LoRaMacState.MAC_RX_ABORT = s.LoRaMacState.MAC_RX_ABORT)
    (hretry : t.AckTimeoutRetry = s.AckTimeoutRetry)
    (hlookups : t.board.lookups = s.board.lookups)
    (hcheck : t.MacStateCheckTimer = s.MacStateCheckTimer)
    (hreq : t.LoRaMacState.MAC_ACK_REQ = s.LoRaMacState.MAC_ACK_REQ) : Marked s t := by
  refine ⟨?_, ?_, ?_, ?_, ?_, ?_, fun h => hreq ▸ h⟩
  · rw [hflags]
    exact id
  · rw [hflags]
    exact id
  · rw [habort]
    exact .inl
  · rw [hretry]
    exact .inl
  · rw [hlookups]
    exact List.subset_append_left _ _
  · rw [hcheck]
    exact id

theorem Marked.trans {s t u : Mac} (hst : Marked s t) (htu : Marked t u)
    (hack : t.NodeAckRequested = s.NodeAckRequested)
    (hwindows : windowLookups t = windowLookups s) : Marked s u := by
  refine ⟨htu.mcpsInd ∘ hst.mcpsInd, htu.macDone ∘ hst.macDone, fun habort => ?_,
    fun hretry => ?_, ?_, htu.stateCheck ∘ hst.stateCheck, hst.ackReq ∘ htu.ackReq⟩
  · rcases htu.rxAbort habort with habort | hflags
    · rcases hst.rxAbort habort with habort | ⟨hind, hdone⟩
      · exact .inl habort
      · exact .inr ⟨htu.mcpsInd hind, htu.macDone hdone⟩
    · exact .inr hflags
  · rcases htu.ackTimeoutRetry hretry with hretry | hreq
    · exact hst.ackTimeoutRetry hretry
    · exact .inr (hack ▸ hreq)
  · have hlookups := htu.lookups
    rw [hwindows] at hlookups
    exact List.Subset.trans hlookups
      (List.append_subset.mpr ⟨hst.lookups, List.subset_append_right _ _⟩)

/-- What a frame does that is refused, or that is none of the MAC's business. -/
structure Refused (s t : Mac) : Prop extends Marked s t where
  core : t.core = s.core

theorem Refused.of_core {s t : Mac} (hcore : t.core = s.core)
    (hflags : t.LoRaMacFlags = s.LoRaMacFlags)
    (habort : t.LoRaMacState.MAC_RX_ABORT = s.LoRaMacState.MAC_RX_ABORT)
    (hretry : t.AckTimeoutRetry = s.AckTimeoutRetry)
    (hlookups : t.board.lookups = s.board.lookups)
    (hcheck : t.MacStateCheckTimer = s.MacStateCheckTimer)
    (hreq : t.LoRaMacState.MAC_ACK_REQ = s.LoRaMacState.MAC_ACK_REQ) : Refused s t :=
  ⟨.of_eq hflags habort hretry hlookups hcheck hreq, hcore⟩

theorem Refused.trans {s t u : Mac} (hst : Refused s t) (htu : Refused t u) : Refused s u :=
  ⟨hst.toMarked.trans htu.toMarked (congrArg Mac.NodeAckRequested hst.core :)
    (congrArg windowLookups hst.core :), htu.core.trans hst.core⟩

theorem Light.refused {s t : Mac} (h : Light s t) : Refused s t := by
  have hind : t.LoRaMacFlags.McpsInd = s.LoRaMacFlags.McpsInd :=
    (congrArg (·.LoRaMacFlags.McpsInd) h.quiet :)
  have habort : t.LoRaMacState.MAC_RX_ABORT = s.LoRaMacState.MAC_RX_ABORT :=
    (congrArg (·.LoRaMacState.MAC_RX_ABORT) h.quiet :)
  have hcheck : t.MacStateCheckTimer = s.MacStateCheckTimer :=
    (congrArg Mac.MacStateCheckTimer h.quiet :)
  refine ⟨⟨?_, h.macDone, ?_, h.ackTimeoutRetry, h.lookups, ?_, h.ackReq⟩, h.core⟩
  · rw [hind]
    exact id
  · rw [habort]
    exact .inl
  · rw [hcheck]
    exact id

theorem refused_reopenWindow2 (s : Mac) : Refused s (reopenWindow2 s) := by
  unfold reopenWindow2
  split
  · exact (light_OnRxWindow2TimerEvent s).refused
  · exact (Light.refl s).refused

theorem refused_PrepareRxDoneAbort (s : Mac) : Refused s (PrepareRxDoneAbort s) := by
  have hack (t : Mac) : Refused t (if t.NodeAckRequested then OnAckTimeoutTimerEvent t else t) := by
    split
    · exact (light_OnAckTimeoutTimerEvent t).refused
    · exact (Light.refl t).refused
  have hwindow := (hack { s with
    LoRaMacState := { s.LoRaMacState with MAC_RX_ABORT := true } }).trans (refused_reopenWindow2 _)
  unfold PrepareRxDoneAbort
  dsimp only
  generalize reopenWindow2 _ = u at hwindow ⊢
  exact ⟨⟨fun _ => rfl, fun _ => rfl, fun _ => .inr ⟨rfl, rfl⟩, hwindow.ackTimeoutRetry,
    hwindow.lookups, fun _ => rfl, hwindow.ackReq⟩, hwindow.core⟩

theorem refused_abortReception (s : Mac) (Status : LoRaMacEventInfoStatus_t) :
    Refused s (abortReception s Status) := by
  have hstatus : Refused s { s with
      McpsIndication := { s.McpsIndication with Status := Status } } :=
    .of_core rfl rfl rfl rfl rfl rfl rfl
  exact hstatus.trans (refused_PrepareRxDoneAbort _)

theorem refused_beginReception (s : Mac) (rssi snr : Int) :
    Refused s (beginReception s rssi snr) := by
  unfold beginReception
  dsimp only
  split
  · exact .of_core rfl rfl rfl rfl rfl rfl rfl
  · exact .of_core rfl rfl rfl rfl rfl rfl rfl

theorem refused_endReception (s : Mac) : Refused s (endReception s) := by
  have hwindow := refused_reopenWindow2 s
  unfold endReception
  generalize reopenWindow2 s = u at hwindow ⊢
  refine ⟨⟨hwindow.mcpsInd, fun _ => rfl, fun habort => ?_, hwindow.ackTimeoutRetry,
    hwindow.lookups, fun _ => rfl, hwindow.ackReq⟩, hwindow.core⟩
  rcases hwindow.rxAbort habort with habort | ⟨hind, _⟩
  · exact .inl habort
  · exact .inr ⟨hind, rfl⟩

theorem joinPayload_beginReception (s : Mac) (frame : RxFrame) (rssi snr : Int) :
    joinPayload (beginReception s rssi snr) frame = joinPayload s frame := by
  unfold joinPayload beginReception
  dsimp only
  split <;> rfl

theorem joinMic_beginReception (s : Mac) (frame : RxFrame) (rssi snr : Int) :
    joinMic (beginReception s rssi snr) frame = joinMic s frame ∧
      joinMicRx (beginReception s rssi snr) frame = joinMicRx s frame := by
  unfold joinMic joinMicRx
  rw [joinPayload_beginReception]
  unfold beginReception
  dsimp only
  split <;> exact ⟨rfl, rfl⟩

theorem joinPayload_setStatus (s : Mac) (status : RadioState_t) (frame : RxFrame) :
    joinPayload (s.setStatus status) frame = joinPayload s frame := rfl

theorem joinMic_setStatus (s : Mac) (status : RadioState_t) (frame : RxFrame) :
    joinMic (s.setStatus status) frame = joinMic s frame ∧
      joinMicRx (s.setStatus status) frame = joinMicRx s frame := by
  unfold joinMic joinMicRx
  rw [joinPayload_setStatus]
  exact ⟨rfl, rfl⟩

/-- The state without what a data frame can write by being accepted, apart from its MAC
commands: what `core` erases, the counters, and what is to be acknowledged or repeated. -/
def Mac.unaccepted (s : Mac) : Mac :=
  { s.core with
    DownLinkCounter := 0
    MulticastChannels := []
    AdrAckCounter := 0
    SrvAckRequested := false
    MacCommandsBufferToRepeatIndex := 0 }

/-- What a data frame does apart from its MAC commands. -/
structure Accepted (s t : Mac) : Prop extends Marked s t where
  unaccepted : t.unaccepted = s.unaccepted
  toRepeat : t.MacCommandsBufferToRepeatIndex = s.MacCommandsBufferToRepeatIndex ∨
    t.MacCommandsBufferToRepeatIndex = 0
  adrAckCounter : t.AdrAckCounter = s.AdrAckCounter ∨ t.AdrAckCounter = 0

theorem Refused.accepted {s t : Mac} (h : Refused s t) : Accepted s t :=
  ⟨h.toMarked, (congrArg Mac.unaccepted h.core :),
    .inl (congrArg Mac.MacCommandsBufferToRepeatIndex h.core :),
    .inl (congrArg Mac.AdrAckCounter h.core :)⟩

theorem Accepted.of_core {s t : Mac} (hcore : t.core = s.core)
    (hflags : t.LoRaMacFlags = s.LoRaMacFlags)
    (habort : t.LoRaMacState.MAC_RX_ABORT = s.LoRaMacState.MAC_RX_ABORT)
    (hretry : t.AckTimeoutRetry = s.AckTimeoutRetry)
    (hlookups : t.board.lookups = s.board.lookups)
    (hcheck : t.MacStateCheckTimer = s.MacStateCheckTimer)
    (hreq : t.LoRaMacState.MAC_ACK_REQ = s.LoRaMacState.MAC_ACK_REQ) : Accepted s t :=
  (Refused.of_core hcore hflags habort hretry hlookups hcheck hreq).accepted

section Reception

variable {P : Mac → Prop} {frame : RxFrame}
  (haccepted : ∀ {s t}, P s → Accepted s t → P t)
  (hcommand : ∀ s payload macIndex snr cmd, P s →
    P (processMacCommand s payload macIndex snr cmd).2)

include haccepted hcommand

theorem receivePayload_induction {s t : Mac} {dest : Destination} {skip skip' : Bool} {snr : Int}
    (h : receivePayload s frame dest skip snr = some (skip', t)) (hs : P s) : P t := by
  have hcommands {s t : Mac} {payload : Mem} {macIndex commandsSize snr : UInt8}
      (h : ProcessMacCommands s payload macIndex commandsSize snr = some t) (hs : P s) : P t :=
    ProcessMacCommands_induction (fun s macIndex cmd => hcommand s payload macIndex snr cmd) h hs
  have hport (port : UInt8) : P { s with
      McpsIndication := { s.McpsIndication with Port := port } } :=
    haccepted hs (.of_core rfl rfl rfl rfl rfl rfl rfl)
  have hfopts {s t : Mac} (h : processFOpts s frame snr = some t) (hs : P s) : P t := by
    unfold processFOpts at h
    split at h
    · exact hcommands h hs
    · cases h
      exact hs
  unfold receivePayload at h
  dsimp only at h
  split at h
  · split at h
    · split at h
      · obtain ⟨u, hu, hut⟩ := Option.map_eq_some_iff.mp h
        cases hut
        exact hcommands hu (haccepted hs (.of_core rfl rfl rfl rfl rfl rfl rfl))
      · cases h
        exact hport _
    · obtain ⟨u, hu, hut⟩ := Option.map_eq_some_iff.mp h
      have hu : P u := hfopts hu (hport _)
      split at hut
      · cases hut
        exact haccepted hu (.of_core rfl rfl rfl rfl rfl rfl rfl)
      · cases hut
        exact haccepted hu (.of_core rfl rfl rfl rfl rfl rfl rfl)
  · obtain ⟨u, hu, hut⟩ := Option.map_eq_some_iff.mp h
    cases hut
    exact hfopts hu hs

theorem deliverData_induction {s t : Mac} {dest : Destination} {skip : Bool} {snr : Int}
    (h : deliverData s frame dest skip snr = some t) (hs : P s) : P t := by
  have hack : P (receiveAck s frame.fCtrl.Ack) := by
    refine haccepted hs ?_
    unfold receiveAck
    dsimp only
    split
    · exact .of_core rfl rfl rfl rfl rfl rfl rfl
    · exact .of_core rfl rfl rfl rfl rfl rfl rfl
  obtain ⟨⟨skip', u⟩, hu, hut⟩ := Option.map_eq_some_iff.mp h
  have hu : P u := receivePayload_induction haccepted hcommand hu hack
  cases hut
  refine haccepted (haccepted hu ?_) (refused_endReception _).accepted
  split
  · exact .of_core rfl rfl rfl rfl rfl rfl rfl
  · exact ⟨⟨fun _ => rfl, id, .inl, .inl, List.subset_append_left _ _, id, id⟩, rfl, .inl rfl,
      .inl rfl⟩

theorem receiveMulticast_induction {s t : Mac} {dest : Destination} {snr : Int}
    (h : receiveMulticast s frame dest snr = some t) (hs : P s) : P t := by
  have hmulticast : P { s with
      McpsIndication := { s.McpsIndication with McpsIndication := .MCPS_MULTICAST } } :=
    haccepted hs (.of_core rfl rfl rfl rfl rfl rfl rfl)
  unfold receiveMulticast at h
  dsimp only at h
  split at h
  · cases h
    exact haccepted hmulticast (refused_abortReception _ _).accepted
  · refine deliverData_induction haccepted hcommand h (haccepted hmulticast ?_)
    exact ⟨.of_eq rfl rfl rfl rfl rfl rfl, rfl, .inl rfl, .inl rfl⟩

theorem receiveUnicast_induction {s t : Mac} {dest : Destination} {snr : Int}
    (h : receiveUnicast s frame dest snr = some t) (hs : P s) : P t := by
  have hunconfirmed : P { s with
      SrvAckRequested := false
      McpsIndication := { s.McpsIndication with McpsIndication := .MCPS_UNCONFIRMED } } :=
    haccepted hs ⟨.of_eq rfl rfl rfl rfl rfl rfl, rfl, .inl rfl, .inl rfl⟩
  unfold receiveUnicast at h
  dsimp only at h
  split at h
  · refine deliverData_induction haccepted hcommand h (haccepted hs ?_)
    exact ⟨.of_eq rfl rfl rfl rfl rfl rfl, rfl, .inl rfl, .inl rfl⟩
  · split at h
    · cases h
      exact haccepted hunconfirmed (refused_abortReception _ _).accepted
    · refine deliverData_induction haccepted hcommand h (haccepted hunconfirmed ?_)
      exact ⟨.of_eq rfl rfl rfl rfl rfl rfl, rfl, .inl rfl, .inl rfl⟩

/-- What the acceptance of a frame and each MAC command keep, `receiveData` keeps. -/
theorem receiveData_induction {s t : Mac} {snr : Int} (h : receiveData s frame snr = some t)
    (hs : P s) : P t := by
  have hloss (counter : UInt32) : P { s with
      McpsIndication := { s.McpsIndication with DownLinkCounter := counter } } :=
    haccepted hs (.of_core rfl rfl rfl rfl rfl rfl rfl)
  unfold receiveData at h
  split at h
  · cases h
    exact haccepted hs (refused_abortReception s _).accepted
  · next dest _ =>
    have haccept : P (acceptFrame s frame dest) :=
      haccepted hs ⟨.of_eq rfl rfl rfl rfl rfl rfl, rfl, .inr rfl, .inr rfl⟩
    split at h
    · cases h
      exact haccepted (hloss _) (refused_abortReception _ _).accepted
    · split at h
      · split at h
        · exact receiveMulticast_induction haccepted hcommand h haccept
        · exact receiveUnicast_induction haccepted hcommand h haccept
      · cases h
        exact haccepted hs (refused_abortReception s _).accepted

/-- What the acceptance of a frame, each MAC command and an authentic join-accept keep,
`OnRadioRxDone` keeps. -/
theorem OnRadioRxDone_induction {s t : Mac} {rssi snr : Int}
    (hjoin : ∀ u, s.IsLoRaMacNetworkJoined = false → frame.macHdr = FRAME_TYPE_JOIN_ACCEPT →
      joinMicRx s frame = joinMic s frame → P u →
      P (openSession u (joinPayload s frame) frame.size.toNat))
    (h : OnRadioRxDone s frame rssi snr = some t) (hs : P s) : P t := by
  have hbegin : P (beginReception s rssi snr) :=
    haccepted hs (refused_beginReception s rssi snr).accepted
  have hend {u : Mac} (hu : P u) : P (endReception u) :=
    haccepted hu (refused_endReception u).accepted
  unfold OnRadioRxDone at h
  dsimp only at h
  cases htype : frame.macHdr <;> rw [htype] at h <;> dsimp only at h
  case FRAME_TYPE_JOIN_ACCEPT =>
    cases h
    apply hend
    obtain ⟨hmic, hmicRx⟩ := joinMic_beginReception s frame rssi snr
    have hjoined : (beginReception s rssi snr).IsLoRaMacNetworkJoined = s.IsLoRaMacNetworkJoined :=
      (congrArg Mac.IsLoRaMacNetworkJoined (refused_beginReception s rssi snr).core :)
    unfold receiveJoinAccept
    dsimp only
    rw [hmic, hmicRx, joinPayload_beginReception]
    split
    · exact hbegin
    · next hnew =>
      rw [hjoined, Bool.not_eq_true] at hnew
      split
      · next hauthentic => exact hjoin _ hnew htype hauthentic (haccepted hbegin (.of_core rfl rfl rfl rfl rfl rfl rfl))
      · exact haccepted hbegin (.of_core rfl rfl rfl rfl rfl rfl rfl)
  case FRAME_TYPE_DATA_CONFIRMED_DOWN => exact receiveData_induction haccepted hcommand h hbegin
  case FRAME_TYPE_DATA_UNCONFIRMED_DOWN => exact receiveData_induction haccepted hcommand h hbegin
  case FRAME_TYPE_PROPRIETARY =>
    cases h
    exact hend (haccepted hbegin ⟨⟨fun _ => rfl, id, .inl, .inl, List.subset_append_left _ _, id, id⟩,
      rfl, .inl rfl, .inl rfl⟩)
  all_goals
    cases h
    exact hend (haccepted hbegin (refused_abortReception _ _).accepted)

end Reception

end loranode.mac
