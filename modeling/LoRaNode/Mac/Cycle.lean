import LoRaNode.Mac.Schedule

namespace loranode.mac

open LoRaMacStatus_t LoRaMacFrameType_t LoRaMacEventInfoStatus_t

/-- The state without anything that a reception can write. What is left is the frame that is
being sent, with the counters, the bands and the flags that go with it. -/
def Mac.control (s : Mac) : Mac :=
  { s.unaccepted.uncommanded with
    LoRaMacNwkSKey := []
    LoRaMacAppSKey := []
    LoRaMacNetID := 0
    LoRaMacDevAddr := 0
    IsLoRaMacNetworkJoined := false }

/-- No bit is set that has nothing to do with a transmission or a reception. -/
def LoRaMacState_t.plain (state : LoRaMacState_t) : Bool :=
  !state.MAC_RX && !state.MAC_ACK_REQ && !state.MAC_ACK_RETRY && !state.MAC_TX_CONFIG

/-- A step that has nothing to do with the frame that is being sent: a reception, or a change
of the channels or of the multicast groups. -/
structure Received (s t : Mac) : Prop where
  control : t.control = s.control
  joined : s.IsLoRaMacNetworkJoined = true → t.IsLoRaMacNetworkJoined = true
  mcpsInd : s.LoRaMacFlags.McpsInd = true → t.LoRaMacFlags.McpsInd = true
  macDone : s.LoRaMacFlags.MacDone = true → t.LoRaMacFlags.MacDone = true
  rxAbort : t.LoRaMacState.MAC_RX_ABORT = true → s.LoRaMacState.MAC_RX_ABORT = true ∨
    t.LoRaMacFlags.McpsInd = true ∧ t.LoRaMacFlags.MacDone = true
  ackTimeoutRetry : t.AckTimeoutRetry = true →
    s.AckTimeoutRetry = true ∨ s.NodeAckRequested = true
  stateCheck : s.MacStateCheckTimer.queued = true → t.MacStateCheckTimer.queued = true
  plain : s.LoRaMacState.plain = true → t.LoRaMacState.plain = true
  adrAckCounter : t.AdrAckCounter = s.AdrAckCounter ∨ t.AdrAckCounter = 0

namespace Received

theorem trans {s t u : Mac} (hst : Received s t) (htu : Received t u) : Received s u := by
  have hack : t.NodeAckRequested = s.NodeAckRequested :=
    (congrArg Mac.NodeAckRequested hst.control :)
  refine ⟨htu.control.trans hst.control, htu.joined ∘ hst.joined, htu.mcpsInd ∘ hst.mcpsInd,
    htu.macDone ∘ hst.macDone, fun habort => ?_, fun hretry => ?_, htu.stateCheck ∘ hst.stateCheck,
    htu.plain ∘ hst.plain, ?_⟩
  · rcases htu.rxAbort habort with habort | hflags
    · rcases hst.rxAbort habort with habort | ⟨hind, hdone⟩
      · exact .inl habort
      · exact .inr ⟨htu.mcpsInd hind, htu.macDone hdone⟩
    · exact .inr hflags
  · rcases htu.ackTimeoutRetry hretry with hretry | hreq
    · exact hst.ackTimeoutRetry hretry
    · exact .inr (hack ▸ hreq)
  · rcases htu.adrAckCounter with hcounter | hzero
    · rw [hcounter]
      exact hst.adrAckCounter
    · exact .inr hzero

/-- A step that writes none of the flags. -/
theorem of_control {s t : Mac} (hcontrol : t.control = s.control)
    (hjoined : s.IsLoRaMacNetworkJoined = true → t.IsLoRaMacNetworkJoined = true)
    (hflags : t.LoRaMacFlags = s.LoRaMacFlags)
    (hstate : t.LoRaMacState = s.LoRaMacState)
    (hretry : t.AckTimeoutRetry = s.AckTimeoutRetry)
    (hcheck : t.MacStateCheckTimer = s.MacStateCheckTimer)
    (hcounter : t.AdrAckCounter = s.AdrAckCounter) : Received s t := by
  refine ⟨hcontrol, hjoined, ?_, ?_, ?_, ?_, ?_, ?_, .inl hcounter⟩
  · rw [hflags]
    exact id
  · rw [hflags]
    exact id
  · rw [hstate]
    exact .inl
  · rw [hretry]
    exact .inl
  · rw [hcheck]
    exact id
  · rw [hstate]
    exact id

theorem refl (s : Mac) : Received s s := .of_control rfl id rfl rfl rfl rfl rfl

theorem plain_of_txConfig {s t : LoRaMacState_t} (hrx : t.MAC_RX = s.MAC_RX)
    (hreq : t.MAC_ACK_REQ = true → s.MAC_ACK_REQ = true) (hackRetry : t.MAC_ACK_RETRY = s.MAC_ACK_RETRY)
    (hconfig : t.MAC_TX_CONFIG = true → s.MAC_TX_CONFIG = true) (hs : s.plain = true) :
    t.plain = true := by
  unfold LoRaMacState_t.plain at hs ⊢
  simp only [Bool.and_eq_true, Bool.not_eq_eq_eq_not, Bool.not_true] at hs ⊢
  obtain ⟨⟨⟨hsrx, hsreq⟩, hsretry⟩, hsconfig⟩ := hs
  refine ⟨⟨⟨hrx.trans hsrx, ?_⟩, hackRetry.trans hsretry⟩, ?_⟩
  · exact Bool.eq_false_iff.mpr fun h => Bool.eq_false_iff.mp hsreq (hreq h)
  · exact Bool.eq_false_iff.mpr fun h => Bool.eq_false_iff.mp hsconfig (hconfig h)

theorem of_uncommanded {s t : Mac} (h : t.uncommanded = s.uncommanded)
    (hstate : t.LoRaMacState = s.LoRaMacState ∨ t.LoRaMacState.MAC_TX_CONFIG = false) :
    Received s t := by
  have hjoined : t.IsLoRaMacNetworkJoined = s.IsLoRaMacNetworkJoined :=
    (congrArg Mac.IsLoRaMacNetworkJoined h :)
  have hflags : t.LoRaMacFlags = s.LoRaMacFlags := (congrArg Mac.LoRaMacFlags h :)
  have habort : t.LoRaMacState.MAC_RX_ABORT = s.LoRaMacState.MAC_RX_ABORT :=
    (congrArg (·.LoRaMacState.MAC_RX_ABORT) h :)
  have hretry : t.AckTimeoutRetry = s.AckTimeoutRetry := (congrArg Mac.AckTimeoutRetry h :)
  have hcheck : t.MacStateCheckTimer = s.MacStateCheckTimer :=
    (congrArg Mac.MacStateCheckTimer h :)
  have hreq : t.LoRaMacState.MAC_ACK_REQ = s.LoRaMacState.MAC_ACK_REQ :=
    (congrArg (·.LoRaMacState.MAC_ACK_REQ) h :)
  refine ⟨(congrArg Mac.control h :), ?_, ?_, ?_, ?_, ?_, ?_, plain_of_txConfig
    (congrArg (·.LoRaMacState.MAC_RX) h :) (fun h => hreq ▸ h)
    (congrArg (·.LoRaMacState.MAC_ACK_RETRY) h :) fun hconfig => ?_,
    .inl (congrArg Mac.AdrAckCounter h :)⟩
  · rw [hjoined]
    exact id
  · rw [hflags]
    exact id
  · rw [hflags]
    exact id
  · rw [habort]
    exact .inl
  · rw [hretry]
    exact .inl
  · rw [hcheck]
    exact id
  · rcases hstate with hstate | hfalse
    · exact hstate ▸ hconfig
    · exact absurd (hconfig.symm.trans hfalse) (by decide)

end Received

theorem Accepted.received {s t : Mac} (h : Accepted s t) : Received s t := by
  have hjoined : t.IsLoRaMacNetworkJoined = s.IsLoRaMacNetworkJoined :=
    (congrArg Mac.IsLoRaMacNetworkJoined h.unaccepted :)
  have hconfig : t.LoRaMacState.MAC_TX_CONFIG = s.LoRaMacState.MAC_TX_CONFIG :=
    (congrArg (·.LoRaMacState.MAC_TX_CONFIG) h.unaccepted :)
  refine ⟨(congrArg Mac.control h.unaccepted :), ?_, h.mcpsInd, h.macDone, h.rxAbort,
    h.ackTimeoutRetry, h.stateCheck, Received.plain_of_txConfig
      (congrArg (·.LoRaMacState.MAC_RX) h.unaccepted :) h.ackReq
      (congrArg (·.LoRaMacState.MAC_ACK_RETRY) h.unaccepted :) (fun h => hconfig ▸ h),
    h.adrAckCounter⟩
  rw [hjoined]
  exact id

theorem Light.received {s t : Mac} (h : Light s t) : Received s t := h.refused.accepted.received

theorem received_openSession (s : Mac) (p : Mem) (size : Nat) :
    Received s (openSession s p size) := by
  have hlist (ks : List Nat) (s : Mac) : (ks.foldl (fun s k =>
      (LoRaMacChannelAdd s (UInt8.ofNat (3 + k))
        ⟨frequencyAt p (13 + 3 * k) (14 + 3 * k) (15 + 3 * k), 0x50, 0⟩).2) s).uncommanded =
      s.uncommanded := by
    induction ks generalizing s with
    | nil => rfl
    | cons k ks ih => exact (ih _).trans (uncommanded_LoRaMacChannelAdd s _ _)
  have htake : Received s (takeSession s p) := .of_control rfl id rfl rfl rfl rfl rfl
  have hCFList (s : Mac) : Received s (addCFList s p) :=
    .of_uncommanded (hlist (List.range 5) (setTxConfig s true)) (.inr rfl)
  have hend (u : Mac) : Received u { u with
      MlmeConfirm := { u.MlmeConfirm with Status := LORAMAC_EVENT_INFO_STATUS_OK }
      IsLoRaMacNetworkJoined := true
      LoRaMacParams := { u.LoRaMacParams with
        ChannelsDatarate := u.LoRaMacParamsDefaults.ChannelsDatarate } } :=
    .of_control rfl (fun _ => rfl) rfl rfl rfl rfl rfl
  unfold openSession
  dsimp only
  split
  · exact (htake.trans (hCFList _)).trans (hend _)
  · exact htake.trans (hend _)

theorem received_OnRadioRxDone {s t : Mac} {frame : RxFrame} {rssi snr : Int}
    (h : OnRadioRxDone s frame rssi snr = some t) : Received s t :=
  OnRadioRxDone_induction (P := Received s) (fun hs h => hs.trans h.received)
    (fun u payload macIndex snr cmd hu =>
      hu.trans (.of_uncommanded (uncommanded_processMacCommand u payload macIndex snr cmd)
        (state_processMacCommand u payload macIndex snr cmd)))
    (fun u _ _ _ hu => hu.trans (received_openSession u _ _)) h (.refl s)

/-- The steps of the MAC. A primitive that is running keeps receptions away, but not a change of
the channels or of the multicast groups. -/
inductive Moved (s : Mac) : Event → Mac → Prop where
  | received {e : Event} {t : Mac} (h : Received s t)
      (hside : s.inside = none ∨ t.LoRaMacState = s.LoRaMacState) : Moved s e t
  | mcps {r : McpsReq_t} {status : LoRaMacStatus_t} {t : Mac}
      (h : LoRaMacMcpsRequest s r = some (status, t)) : Moved s (.request (.mcps r)) t
  | mlme {r : MlmeReq_t} {status : LoRaMacStatus_t} {t : Mac}
      (h : LoRaMacMlmeRequest s r = some (status, t)) : Moved s (.request (.mlme r)) t
  | mib {r : MibSet} (hidle : s.LoRaMacState.MAC_TX_RUNNING = false) :
      Moved s (.request (.mib r)) (mibSet s r).2
  | upperReturn {p : Primitive} (hinside : s.inside = some p) :
      Moved s .upperReturn (returnFrom s p)
  | txDone (hinside : s.inside = none) (hstatus : s.board.status = .RF_TX_RUNNING) :
      Moved s (.radio .TxDone) (OnRadioTxDone ((s.setStatus .RF_IDLE).record
        (.TxDone (s.env.clock s.board.reads))))
  | txTimeout (hinside : s.inside = none) (hstatus : s.board.status = .RF_TX_RUNNING) :
      Moved s (.radio .TxTimeout) (OnRadioTxTimeout ((s.setStatus .RF_IDLE).record .TxTimeout))
  | stateCheck {t : Mac} (hinside : s.inside = none) (hqueued : s.MacStateCheckTimer.queued = true)
      (h : OnMacStateCheckTimerEvent s = some t) : Moved s .macStateCheckTimer t
  | txDelayed {t : Mac} (hinside : s.inside = none) (hqueued : s.TxDelayedTimer.queued = true)
      (h : OnTxDelayedTimerEvent s = some t) : Moved s .txDelayedTimer t

theorem moved_request {s t : Mac} {r : Request} (h : request s r = some t) :
    Moved s (.request r) t := by
  cases r with
  | mcps r =>
    obtain ⟨⟨status, u⟩, hmcps, rfl⟩ := Option.map_eq_some_iff.mp h
    exact .mcps hmcps
  | mlme r =>
    obtain ⟨⟨status, u⟩, hmlme, rfl⟩ := Option.map_eq_some_iff.mp h
    exact .mlme hmlme
  | mib r =>
    cases h
    unfold LoRaMacMibSetRequestConfirm
    split
    · exact .received (.refl s) (.inr rfl)
    · next hidle => exact .mib (Bool.eq_false_of_not_eq_true hidle)
  | channelAdd id params =>
    cases h
    have hstate := state_LoRaMacChannelAdd s id params
    exact .received (.of_uncommanded (uncommanded_LoRaMacChannelAdd s id params) (.inl hstate))
      (.inr hstate)
  | channelRemove id =>
    cases h
    have hstate := state_LoRaMacChannelRemove s id
    exact .received (.of_uncommanded (uncommanded_LoRaMacChannelRemove s id) (.inl hstate))
      (.inr hstate)
  | multicastLink group =>
    cases h
    unfold LoRaMacMulticastChannelLink
    split
    · exact .received (.refl s) (.inr rfl)
    · exact .received (.of_control rfl id rfl rfl rfl rfl rfl) (.inr rfl)
  | multicastUnlink i =>
    cases h
    unfold LoRaMacMulticastChannelUnlink
    split
    · exact .received (.refl s) (.inr rfl)
    · exact .received (.of_control rfl id rfl rfl rfl rfl rfl) (.inr rfl)

theorem moved_onRadio {s t : Mac} {e : RadioEvent} (hinside : s.inside = none)
    (h : onRadio s e = some t) : Moved s (.radio e) t := by
  have hstatus (status : RadioState_t) : Received s (s.setStatus status) :=
    .of_control rfl id rfl rfl rfl rfl rfl
  cases e with
  | TxDone =>
    obtain ⟨u, hu, rfl⟩ := Option.map_eq_some_iff.mp h
    obtain ⟨hrunning, rfl⟩ := radioIrq_eq_some.mp hu
    exact .txDone hinside hrunning
  | TxTimeout =>
    obtain ⟨u, hu, rfl⟩ := Option.map_eq_some_iff.mp h
    obtain ⟨hrunning, rfl⟩ := radioIrq_eq_some.mp hu
    exact .txTimeout hinside hrunning
  | RxDone frame rssi snr rxContinuous =>
    obtain ⟨u, hu, hut⟩ := Option.bind_eq_some_iff.mp h
    obtain ⟨-, rfl⟩ := radioIrq_eq_some.mp hu
    exact .received ((hstatus _).trans (received_OnRadioRxDone hut)) (.inl hinside)
  | RxError rxContinuous =>
    obtain ⟨u, hu, rfl⟩ := Option.map_eq_some_iff.mp h
    obtain ⟨-, rfl⟩ := radioIrq_eq_some.mp hu
    exact .received ((hstatus _).trans (light_endWindow _ _).received) (.inl hinside)
  | RxTimeout rxContinuous =>
    obtain ⟨u, hu, rfl⟩ := Option.map_eq_some_iff.mp h
    obtain ⟨-, rfl⟩ := radioIrq_eq_some.mp hu
    exact .received ((hstatus _).trans (light_endWindow _ _).received) (.inl hinside)

theorem moved_of_step {s t : Mac} {e : Event} (h : step s e = some t) : Moved s e t := by
  rcases step_cases h with ⟨r, rfl, hrequest⟩ | ⟨p, rfl, hinside, rfl⟩ | ⟨hinside, hhandle⟩
  · exact moved_request hrequest
  · exact .upperReturn hinside
  · cases e with
    | request r => cases hhandle
    | upperReturn => cases hhandle
    | radio e => exact moved_onRadio hinside hhandle
    | macStateCheckTimer =>
      obtain ⟨hqueued, hevent⟩ := onTimer_eq_some.mp hhandle
      exact .stateCheck hinside hqueued hevent
    | txDelayedTimer =>
      obtain ⟨hqueued, hevent⟩ := onTimer_eq_some.mp hhandle
      exact .txDelayed hinside hqueued hevent
    | rxWindowTimer1 =>
      cases (onTimer_eq_some.mp hhandle).2
      exact .received (light_OnRxWindow1TimerEvent s).received (.inl hinside)
    | rxWindowTimer2 =>
      cases (onTimer_eq_some.mp hhandle).2
      exact .received (light_OnRxWindow2TimerEvent s).received (.inl hinside)
    | ackTimeoutTimer =>
      cases (onTimer_eq_some.mp hhandle).2
      exact .received (light_OnAckTimeoutTimerEvent s).received (.inl hinside)

/-- A request waits for its confirm. -/
def Mac.pending (s : Mac) : Bool := s.LoRaMacFlags.MlmeReq || s.LoRaMacFlags.McpsReq

/-- A join request waits for its confirm. -/
def Mac.joining (s : Mac) : Bool :=
  s.LoRaMacFlags.MlmeReq && s.MlmeConfirm.MlmeRequest = .MLME_JOIN

theorem checkRxAbort_eq (s : Mac) : checkRxAbort s = { s with
    LoRaMacState := { s.LoRaMacState with
      MAC_TX_RUNNING := s.LoRaMacState.MAC_TX_RUNNING && !s.LoRaMacState.MAC_RX_ABORT
      MAC_RX_ABORT := false } } := by
  have hstate (state : LoRaMacState_t) (habort : state.MAC_RX_ABORT = false) :
      { state with
        MAC_TX_RUNNING := state.MAC_TX_RUNNING && !state.MAC_RX_ABORT
        MAC_RX_ABORT := false } = state := by
    cases state
    cases habort
    simp
  unfold checkRxAbort
  split
  · next habort => rw [habort, Bool.not_true, Bool.and_false]
  · next habort => rw [hstate s.LoRaMacState (Bool.eq_false_of_not_eq_true habort)]

theorem checkTxTimeout_eq (s : Mac) : ∃ confirm, (txTimeout s = false → confirm = s.McpsConfirm) ∧
    checkTxTimeout s = { s with
      LoRaMacState := { s.LoRaMacState with
        MAC_TX_RUNNING := s.LoRaMacState.MAC_TX_RUNNING && !txTimeout s }
      McpsConfirm := confirm } := by
  unfold checkTxTimeout
  cases txTimeout s with
  | true =>
    refine ⟨{ s.McpsConfirm with
      NbRetries := s.AckTimeoutRetriesCounter, AckReceived := false, TxTimeOnAir := 0 },
      (fun h => by cases h), ?_⟩
    rw [if_pos rfl, Bool.not_true, Bool.and_false]
    rfl
  | false =>
    refine ⟨s.McpsConfirm, fun _ => rfl, ?_⟩
    rw [if_neg Bool.false_ne_true, Bool.not_false, Bool.and_true]

theorem checkJoin_eq (s : Mac) : ∃ repetitions counter,
    checkJoin s = { s with ChannelsNbRepCounter := repetitions, UpLinkCounter := counter } ∧
      (counter = s.UpLinkCounter ∨ s.joining = true ∧ repetitions = s.LoRaMacParams.ChannelsNbRep) := by
  unfold checkJoin
  split
  · next hjoin =>
    split
    · refine ⟨_, _, rfl, .inr ⟨?_, rfl⟩⟩
      unfold Mac.joining
      rw [hjoin.1, hjoin.2]
      rfl
    · exact ⟨_, _, rfl, .inl rfl⟩
  · exact ⟨_, _, rfl, .inl rfl⟩

theorem checkJoin_of_not_joining {s : Mac} (h : s.joining = false) : checkJoin s = s := by
  unfold checkJoin
  rw [if_neg]
  intro hjoining
  unfold Mac.joining at h
  simp [hjoining] at h

/-- A frame that is not acknowledged is to be repeated. -/
def Mac.repeatable (s : Mac) : Prop :=
  s.pending = true ∧ s.LoRaMacFlags.McpsInd = false ∧
    (s.joining = true ∨ s.ChannelsNbRepCounter < s.LoRaMacParams.ChannelsNbRep)

/-- The end of a frame without acknowledgement, its repetition, or nothing to do. -/
theorem checkRepetition_cases {s t : Mac} (h : checkRepetition s = some t) :
    (s.pending = false ∧ t = s) ∨
      s.pending = true ∧
        ((∃ counter, t = { setTxRunning s false with
            ChannelsNbRepCounter := 0
            AdrAckCounter := s.AdrAckCounter + 1
            UpLinkCounter := counter } ∧
            (s.IsUpLinkCounterFixed = false → s.joining = false → counter = s.UpLinkCounter + 1)) ∨
          s.repeatable ∧ ∃ repetitions status, ScheduleTx { s with
            ChannelsNbRepCounter := repetitions
            LoRaMacFlags := { s.LoRaMacFlags with MacDone := false } } = some (status, t)) := by
  obtain ⟨repetitions, counter, hjoin, hcounter⟩ := checkJoin_eq s
  have hjoining (h : s.joining = false) : counter = s.UpLinkCounter := by
    rcases hcounter with hcounter | ⟨hjoining, -⟩
    · exact hcounter
    · rw [h] at hjoining
      cases hjoining
  unfold checkRepetition at h
  rw [hjoin] at h
  dsimp only at h
  split at h
  · next hpending =>
    refine .inr ⟨hpending, ?_⟩
    split at h
    · cases h
      refine .inl ⟨_, rfl, fun hfixed hjoin => ?_⟩
      unfold countUplink
      dsimp only
      rw [hfixed, if_neg Bool.false_ne_true, hjoining hjoin]
    · next hrepeat =>
      rw [not_or, Bool.not_eq_true] at hrepeat
      have hrepeatable : s.repeatable := by
        refine ⟨hpending, hrepeat.2, ?_⟩
        cases hnot : s.joining with
        | true => exact .inl rfl
        | false =>
          have hsame := hjoin.symm.trans (checkJoin_of_not_joining hnot)
          have hrepetitions : repetitions = s.ChannelsNbRepCounter :=
            (congrArg Mac.ChannelsNbRepCounter hsame :)
          rw [hrepetitions] at hrepeat
          exact .inr (UInt8.not_le.mp hrepeat.1)
      obtain ⟨⟨status, u⟩, hschedule, rfl⟩ := Option.map_eq_some_iff.mp h
      refine .inr ⟨hrepeatable, repetitions, status, ?_⟩
      rcases hcounter with rfl | ⟨-, rfl⟩
      · exact hschedule
      · exact absurd (UInt8.le_refl _) hrepeat.1
  · next hpending =>
    cases h
    have hpending : s.pending = false := Bool.eq_false_of_not_eq_true hpending
    have hnot : s.joining = false := by
      unfold Mac.pending at hpending
      unfold Mac.joining
      rw [(Bool.or_eq_false_iff.mp hpending).1, Bool.false_and]
    exact .inl ⟨hpending, hjoin.symm.trans (checkJoin_of_not_joining hnot)⟩

theorem checkAck_cases (s : Mac) :
    (acknowledged s = false ∧ checkAck s = s) ∨
      ∃ confirm counter, checkAck s = { setTxRunning s false with
          AckTimeoutRetry := false
          NodeAckRequested := false
          UpLinkCounter := counter
          McpsConfirm := confirm } ∧
        (s.IsUpLinkCounterFixed = false → counter = s.UpLinkCounter + 1) := by
  unfold checkAck
  split
  · refine .inr ⟨_, _, rfl, fun hfixed => ?_⟩
    unfold countUplink
    rw [hfixed, if_neg Bool.false_ne_true]
  · next hack => exact .inl ⟨Bool.eq_false_of_not_eq_true hack, rfl⟩

theorem checkAckTimeout_cases {s t : Mac} (h : checkAckTimeout s = some t) :
    ((s.AckTimeoutRetry = false ∨ s.LoRaMacState.MAC_TX_DELAYED = true) ∧ t = s) ∨
      (s.AckTimeoutRetry = true ∧ s.LoRaMacState.MAC_TX_DELAYED = false) ∧
        ((trialsLeft s = true ∧ ∃ status,
            ScheduleTx (nextTrial { s with AckTimeoutRetry := false }) = some (status, t)) ∨
          trialsLeft s = false ∧ t = giveUpTrials { s with AckTimeoutRetry := false }) := by
  unfold checkAckTimeout at h
  dsimp only at h
  split at h
  · next hretry =>
    refine .inr ⟨hretry, ?_⟩
    split at h
    · next hleft =>
      obtain ⟨⟨status, u⟩, hschedule, rfl⟩ := Option.map_eq_some_iff.mp h
      exact .inl ⟨hleft, status, hschedule⟩
    · next hleft =>
      cases h
      exact .inr ⟨Bool.eq_false_of_not_eq_true hleft, rfl⟩
  · next hretry =>
    cases h
    rw [not_and_or, Bool.not_eq_true, Bool.not_eq_false] at hretry
    exact .inl ⟨hretry, rfl⟩

theorem eq_of_checkAckTimeout {s t : Mac} (h : checkAckTimeout s = some t)
    (hretry : s.AckTimeoutRetry = false) : t = s := by
  rcases checkAckTimeout_cases h with ⟨-, rfl⟩ | ⟨⟨hretried, -⟩, -⟩
  · rfl
  · exact absurd (hretried.symm.trans hretry) (by decide)

/-- `MAC_TX_RUNNING` once the state check has ended transmissions that were aborted or have
timed out. -/
def Mac.stillRunning (s : Mac) : Bool :=
  s.LoRaMacState.MAC_TX_RUNNING && !s.LoRaMacState.MAC_RX_ABORT && !txTimeout s

/-- The state without what the state check writes before it sends a frame again. -/
def Mac.recycled (s : Mac) : Mac :=
  { s with
    LoRaMacParams := { s.LoRaMacParams with ChannelsDatarate := 0 }
    ChannelsNbRepCounter := 0
    LoRaMacState := { s.LoRaMacState with MAC_TX_RUNNING := false, MAC_RX_ABORT := false }
    AckTimeoutRetriesCounter := 0
    AckTimeoutRetry := false
    McpsConfirm := ⟨.MCPS_UNCONFIRMED, LORAMAC_EVENT_INFO_STATUS_OK, 0, 0, false, 0, 0, 0⟩
    LoRaMacFlags := { s.LoRaMacFlags with MacDone := false } }

/-- In `u` the state check sends the frame again: it is repeated, or it is tried again because
it has not been acknowledged. -/
structure Rescheduled (s u : Mac) : Prop where
  recycled : u.recycled = s.recycled
  running : u.LoRaMacState.MAC_TX_RUNNING = s.stillRunning
  rxAbort : u.LoRaMacState.MAC_RX_ABORT = false
  macDone : u.LoRaMacFlags.MacDone = false
  ackTimeoutRetry : u.AckTimeoutRetry = false
  cause : (s.NodeAckRequested = false ∧ txTimeout s = false ∧ s.pending = true ∧
        s.LoRaMacFlags.McpsInd = false ∧
        u.LoRaMacParams.ChannelsDatarate = s.LoRaMacParams.ChannelsDatarate) ∨
      s.NodeAckRequested = true ∧ s.AckTimeoutRetry = true ∧
        s.LoRaMacState.MAC_TX_DELAYED = false ∧ trialsLeft s = true ∧
        u.LoRaMacParams.ChannelsDatarate = (nextTrial s).LoRaMacParams.ChannelsDatarate

/-- The state without what the state check writes when it does not send. -/
def Mac.settled (s : Mac) : Mac :=
  { s with
    LoRaMacParams := { s.LoRaMacParams with ChannelsMask := 0 }
    ChannelsNbRepCounter := 0
    AdrAckCounter := 0
    UpLinkCounter := 0
    NodeAckRequested := false
    LoRaMacState := { s.LoRaMacState with MAC_TX_RUNNING := false, MAC_RX_ABORT := false }
    AckTimeoutRetry := false
    McpsConfirm := ⟨.MCPS_UNCONFIRMED, LORAMAC_EVENT_INFO_STATUS_OK, 0, 0, false, 0, 0, 0⟩ }

/-- The frame is not done with: its counter stays, and so does what waits for it. -/
structure Unfinished (s t : Mac) : Prop where
  UpLinkCounter : t.UpLinkCounter = s.UpLinkCounter
  running : t.LoRaMacState.MAC_TX_RUNNING = s.stillRunning
  NodeAckRequested : t.NodeAckRequested = s.NodeAckRequested
  ackTimeoutRetry : t.AckTimeoutRetry = s.AckTimeoutRetry
  pending : s.NodeAckRequested = true ∨ txTimeout s = true ∨ s.pending = false
  unacknowledged : txTimeout s = false → acknowledged s = false
  waiting : s.AckTimeoutRetry = false ∨ s.LoRaMacState.MAC_TX_DELAYED = true

/-- The frame is done with, and its counter is used up. -/
structure Finished (s t : Mac) : Prop where
  running : t.LoRaMacState.MAC_TX_RUNNING = false
  NodeAckRequested : t.NodeAckRequested = false
  ackTimeoutRetry : t.AckTimeoutRetry = false
  UpLinkCounter : s.IsUpLinkCounterFixed = false → s.joining = false →
    t.UpLinkCounter = s.UpLinkCounter + 1 ∨ t.UpLinkCounter = s.UpLinkCounter + 1 + 1

/-- The state check does not send. -/
structure Settled (s t : Mac) : Prop where
  settled : t.settled = s.settled
  rxAbort : t.LoRaMacState.MAC_RX_ABORT = false
  outcome : Unfinished s t ∨ Finished s t

/-- The state without what scheduling a frame writes. -/
def Mac.unscheduled (s : Mac) : Mac :=
  { s.unchosen with
    board := { s.unchosen.board with status := .RF_IDLE, log := [], lookups := [] }
    LoRaMacState := { s.LoRaMacState with MAC_TX_RUNNING := false, MAC_TX_DELAYED := false }
    MacStateCheckTimer := ⟨0, false⟩
    TxDelayedTimer := ⟨0, false⟩
    TxTimeOnAir := 0
    McpsConfirm := { s.McpsConfirm with
      Status := LORAMAC_EVENT_INFO_STATUS_OK, Datarate := 0, TxPower := 0, TxTimeOnAir := 0 }
    MlmeConfirm := { s.MlmeConfirm with
      Status := LORAMAC_EVENT_INFO_STATUS_OK, TxTimeOnAir := 0 } }

theorem unscheduled_ScheduleTx {s t : Mac} {status : LoRaMacStatus_t}
    (h : ScheduleTx s = some (status, t)) : t.unscheduled = s.unscheduled := by
  rcases ScheduleTx_cases h with ⟨-, -, rfl⟩ | ⟨-, -, u, hu, ht⟩
  · rfl
  · have hview : u.unscheduled = s.unscheduled := (congrArg Mac.unscheduled hu.unchosen :)
    rw [← hview]
    rcases ht with rfl | ⟨time, rfl⟩
    · rfl
    · rfl

theorem ScheduleTx_flags {s t : Mac} {status : LoRaMacStatus_t}
    (h : ScheduleTx s = some (status, t)) :
    t.LoRaMacFlags = s.LoRaMacFlags ∧ t.AckTimeoutRetry = s.AckTimeoutRetry :=
  ⟨(congrArg Mac.LoRaMacFlags (unscheduled_ScheduleTx h) :),
    (congrArg Mac.AckTimeoutRetry (unscheduled_ScheduleTx h) :)⟩

/-- Scheduling a frame sends it, or it does not change the log. -/
theorem log_ScheduleTx {s t : Mac} {status : LoRaMacStatus_t}
    (h : ScheduleTx s = some (status, t)) :
    (t.board.log = s.board.log ∧
        t.LoRaMacState.MAC_TX_RUNNING = s.LoRaMacState.MAC_TX_RUNNING) ∨
      ∃ sent, sent.frame = s.PreparedFrame ∧ t.board.log = s.board.log ++ [.Send sent] ∧
        t.LoRaMacState.MAC_TX_RUNNING = true := by
  rcases ScheduleTx_cases h with ⟨-, -, rfl⟩ | ⟨-, -, u, hu, ht⟩
  · exact .inl ⟨rfl, rfl⟩
  · have hlog : u.board.log = s.board.log := (congrArg (·.board.log) hu.unchosen :)
    have hstate : u.LoRaMacState = s.LoRaMacState := (congrArg Mac.LoRaMacState hu.unchosen :)
    have hframe : u.PreparedFrame = s.PreparedFrame := (congrArg Mac.PreparedFrame hu.unchosen :)
    rcases ht with rfl | ⟨time, rfl⟩
    · refine .inr ⟨transmission u (u.Channels u.Channel.toNat), hframe, ?_, rfl⟩
      rw [← hlog]
      rfl
    · refine .inl ⟨hlog, ?_⟩
      change u.LoRaMacState.MAC_TX_RUNNING = _
      rw [hstate]

/-- The state once transmissions that were aborted or have timed out are ended. -/
def Mac.ended (s : Mac) (confirm : McpsConfirm_t) : Mac :=
  { s with
    LoRaMacState := { s.LoRaMacState with
      MAC_TX_RUNNING := s.stillRunning, MAC_RX_ABORT := false }
    McpsConfirm := confirm }

theorem checkTxTimeout_checkRxAbort (s : Mac) :
    ∃ confirm, (txTimeout s = false → confirm = s.McpsConfirm) ∧
      checkTxTimeout (checkRxAbort s) = s.ended confirm := by
  have h := checkTxTimeout_eq (checkRxAbort s)
  rw [checkRxAbort_eq] at h ⊢
  exact h

theorem settled_ended (s : Mac) (confirm : McpsConfirm_t) :
    (s.ended confirm).settled = s.settled := rfl

theorem settled_unretried (s : Mac) :
    ({ s with AckTimeoutRetry := false } : Mac).settled = s.settled := rfl

theorem settled_giveUp (s : Mac) : (giveUpTrials s).settled = s.settled := rfl

theorem recycled_ended (s : Mac) (confirm : McpsConfirm_t) :
    (s.ended confirm).recycled = s.recycled := rfl

theorem recycled_unretried (s : Mac) :
    ({ s with AckTimeoutRetry := false } : Mac).recycled = s.recycled := rfl

theorem recycled_nextTrial (s : Mac) : (nextTrial s).recycled = s.recycled := by
  unfold nextTrial
  dsimp only
  split <;> rfl

theorem rescheduled_nextTrial {s : Mac} (confirm : McpsConfirm_t)
    (hnode : s.NodeAckRequested = true) (hretry : s.AckTimeoutRetry = true)
    (hdelayed : s.LoRaMacState.MAC_TX_DELAYED = false) (hleft : trialsLeft s = true) :
    Rescheduled s (nextTrial { s.ended confirm with AckTimeoutRetry := false }) := by
  refine ⟨?_, rfl, rfl, rfl, rfl, .inr ⟨hnode, hretry, hdelayed, hleft, rfl⟩⟩
  rw [recycled_nextTrial, recycled_unretried, recycled_ended]

theorem settled_giveUpTrials (s : Mac) (confirm : McpsConfirm_t) :
    Settled s (giveUpTrials { s.ended confirm with AckTimeoutRetry := false }) := by
  refine ⟨?_, rfl, .inr ⟨rfl, rfl, rfl, fun hfixed _ => .inl ?_⟩⟩
  · rw [settled_giveUp, settled_unretried, settled_ended]
  · change (if s.IsUpLinkCounterFixed then s.UpLinkCounter else s.UpLinkCounter + 1) = _
    rw [hfixed, if_neg Bool.false_ne_true]

theorem settled_setTxRunning (s : Mac) : (setTxRunning s false).settled = s.settled := rfl

theorem settled_acknowledged (s : Mac) (confirm : McpsConfirm_t) (counter : UInt32) :
    ({ s with
      AckTimeoutRetry := false
      NodeAckRequested := false
      UpLinkCounter := counter
      McpsConfirm := confirm } : Mac).settled = s.settled := rfl

theorem settled_counted (s : Mac) (acks counter : UInt32) :
    ({ s with
      ChannelsNbRepCounter := 0
      AdrAckCounter := acks
      UpLinkCounter := counter } : Mac).settled = s.settled := rfl

theorem recycled_repeated (s : Mac) (repetitions : UInt8) :
    ({ s with
      ChannelsNbRepCounter := repetitions
      LoRaMacFlags := { s.LoRaMacFlags with MacDone := false } } : Mac).recycled =
      s.recycled := rfl

/-- The state check of a frame that it neither repeats nor ends before it looks for an
acknowledgement. -/
theorem acknowledge_cases {s t : Mac} {confirm : McpsConfirm_t}
    (hretry : s.NodeAckRequested = true ∨ s.AckTimeoutRetry = false)
    (hpending : s.NodeAckRequested = true ∨ txTimeout s = true ∨ s.pending = false)
    (hconfirm : txTimeout s = false → confirm = s.McpsConfirm)
    (h : checkAckTimeout (checkAck (s.ended confirm)) = some t) :
    (∃ u status, Rescheduled s u ∧ ScheduleTx u = some (status, t)) ∨ Settled s t := by
  rcases checkAck_cases (s.ended confirm) with ⟨hack, hsame⟩ | ⟨confirm', counter, hdone, hcounter⟩
  · rw [hsame] at h
    rcases checkAckTimeout_cases h with ⟨hwaiting, rfl⟩ | ⟨⟨hretried, hdelayed⟩, hout⟩
    · refine .inr ⟨settled_ended s confirm, rfl,
        .inl ⟨rfl, rfl, rfl, rfl, hpending, fun hin => ?_, hwaiting⟩⟩
      rw [hconfirm hin] at hack
      exact hack
    · have hnode : s.NodeAckRequested = true := by
        rcases hretry with hnode | hfalse
        · exact hnode
        · exact absurd (hretried.symm.trans hfalse) (by decide)
      rcases hout with ⟨hleft, status, hschedule⟩ | ⟨-, rfl⟩
      · exact .inl ⟨_, status, rescheduled_nextTrial confirm hnode hretried hdelayed hleft, hschedule⟩
      · exact .inr (settled_giveUpTrials s confirm)
  · rw [hdone] at h
    cases eq_of_checkAckTimeout h rfl
    refine .inr ⟨?_, rfl, .inr ⟨rfl, rfl, rfl, fun hfixed _ => .inl (hcounter hfixed)⟩⟩
    rw [settled_acknowledged, settled_setTxRunning, settled_ended]

/-- The state check of a frame that is not to be acknowledged. -/
theorem repetition_cases {s t u : Mac} (hnode : s.NodeAckRequested = false)
    (hin : txTimeout s = false) (hretry : s.AckTimeoutRetry = false)
    (h : checkRepetition (s.ended s.McpsConfirm) = some u)
    (hut : checkAckTimeout (checkAck u) = some t) :
    (∃ u status, Rescheduled s u ∧ ScheduleTx u = some (status, t)) ∨ Settled s t := by
  rcases checkRepetition_cases h with ⟨hpending, rfl⟩ | ⟨hpending, ⟨counter, hu, hcounter⟩ |
    ⟨⟨-, hind, -⟩, repetitions, status, hschedule⟩⟩
  · exact acknowledge_cases (.inr hretry) (.inr (.inr hpending)) (fun _ => rfl) hut
  · have hsettled : u.settled = s.settled := by
      rw [hu, settled_counted, settled_setTxRunning, settled_ended]
    have huretry : u.AckTimeoutRetry = false := by
      rw [hu]
      exact hretry
    have hrunning : u.LoRaMacState.MAC_TX_RUNNING = false ∧
        u.LoRaMacState.MAC_RX_ABORT = false := by
      rw [hu]
      exact ⟨rfl, rfl⟩
    have hunode : u.NodeAckRequested = false := by
      rw [hu]
      exact hnode
    have hucounter : u.UpLinkCounter = counter ∧
        u.IsUpLinkCounterFixed = s.IsUpLinkCounterFixed := by
      rw [hu]
      exact ⟨rfl, rfl⟩
    refine .inr ?_
    rcases checkAck_cases u with ⟨-, hsame⟩ | ⟨confirm', counter', hdone, hcounter'⟩
    · rw [hsame] at hut
      cases eq_of_checkAckTimeout hut huretry
      refine ⟨hsettled, hrunning.2, .inr ⟨hrunning.1, hunode, huretry, fun hfixed hjoin => .inl ?_⟩⟩
      rw [hucounter.1]
      exact hcounter hfixed hjoin
    · rw [hdone] at hut
      cases eq_of_checkAckTimeout hut rfl
      refine ⟨?_, hrunning.2, .inr ⟨rfl, rfl, rfl, fun hfixed hjoin => .inr ?_⟩⟩
      · rw [settled_acknowledged, settled_setTxRunning, hsettled]
      · have hfirst := hcounter hfixed hjoin
        have hsecond := hcounter' (hucounter.2.trans hfixed)
        rw [hucounter.1, hfirst] at hsecond
        exact hsecond
  · -- the flags of the frame that is sent again end the state check here
    obtain ⟨hflags, hretry'⟩ := ScheduleTx_flags hschedule
    have huind : u.LoRaMacFlags.McpsInd = false := by
      rw [hflags]
      exact hind
    have hack : acknowledged u = false := by
      unfold acknowledged
      rw [huind, Bool.false_and]
    have hsame : checkAck u = u := by
      unfold checkAck
      rw [hack, if_neg Bool.false_ne_true]
    rw [hsame] at hut
    cases eq_of_checkAckTimeout hut (hretry'.trans hretry)
    refine .inl ⟨_, status, ?_, hschedule⟩
    refine ⟨?_, rfl, rfl, rfl, hretry, .inl ⟨hnode, hin, hpending, hind, rfl⟩⟩
    rw [recycled_repeated, recycled_ended]

/-- The two parts of the state check: what has been sent without asking for an acknowledgement is
repeated or ended, and then the acknowledgement is looked for. -/
theorem completeCycle_parts {s t : Mac} (h : completeCycle s = some t) : ∃ confirm u,
    (txTimeout s = false → confirm = s.McpsConfirm) ∧
      ((s.NodeAckRequested = false ∧ txTimeout s = false) ∧
          checkRepetition (s.ended confirm) = some u ∨
        (s.NodeAckRequested = true ∨ txTimeout s = true) ∧ u = s.ended confirm) ∧
      checkAckTimeout (checkAck u) = some t := by
  obtain ⟨confirm, hconfirm, hended⟩ := checkTxTimeout_checkRxAbort s
  have htimeout : txTimeout (checkRxAbort s) = txTimeout s := by
    rw [checkRxAbort_eq]
    rfl
  unfold completeCycle at h
  dsimp only at h
  rw [hended, htimeout] at h
  obtain ⟨u, hu, hut⟩ := Option.bind_eq_some_iff.mp h
  refine ⟨confirm, u, hconfirm, ?_, hut⟩
  split at hu
  · next hcase => exact .inl ⟨hcase, hu⟩
  · next hcase =>
    cases hu
    rw [not_and_or, Bool.not_eq_false, Bool.not_eq_false] at hcase
    exact .inr ⟨hcase, rfl⟩

/-- What the state check does with a frame, unless it finds a trial to be made of a frame that
is not to be acknowledged: it sends the frame once more, or it does not send. -/
theorem completeCycle_cases {s t : Mac} (h : completeCycle s = some t)
    (hretry : s.NodeAckRequested = true ∨ s.AckTimeoutRetry = false) :
    (∃ u status, Rescheduled s u ∧ ScheduleTx u = some (status, t)) ∨ Settled s t := by
  obtain ⟨confirm, u, hconfirm, hu, hut⟩ := completeCycle_parts h
  rcases hu with ⟨⟨hnode, hin⟩, hu⟩ | ⟨hcase, rfl⟩
  · have hretry : s.AckTimeoutRetry = false := by
      rcases hretry with htrue | hretry
      · rw [hnode] at htrue
        cases htrue
      · exact hretry
    rw [hconfirm hin] at hu
    exact repetition_cases hnode hin hretry hu hut
  · refine acknowledge_cases hretry ?_ hconfirm hut
    rcases hcase with hnode | hout
    · exact .inl hnode
    · exact .inr (.inl hout)

/-- What decides about another trial of a frame. -/
def Mac.trials (s : Mac) : UInt8 × UInt8 × Bool × Bool × Bool :=
  (s.AckTimeoutRetries, s.AckTimeoutRetriesCounter, s.AckTimeoutRetry, s.LoRaMacFlags.McpsInd,
    s.McpsConfirm.AckReceived)

theorem delayed_ScheduleTx {s t : Mac} {status : LoRaMacStatus_t}
    (h : ScheduleTx s = some (status, t)) (ht : t.LoRaMacState.MAC_TX_DELAYED = false) :
    s.LoRaMacState.MAC_TX_DELAYED = false := by
  rcases ScheduleTx_cases h with ⟨-, -, rfl⟩ | ⟨-, -, u, hu, rfl | ⟨time, rfl⟩⟩
  · exact ht
  · have hstate : u.LoRaMacState = s.LoRaMacState := (congrArg Mac.LoRaMacState hu.unchosen :)
    rw [← hstate]
    exact ht
  · cases ht

/-- A frame that is to be acknowledged is to be tried again. -/
def Mac.retriable (s : Mac) : Prop :=
  s.AckTimeoutRetry = true ∧ s.LoRaMacState.MAC_TX_DELAYED = false ∧ trialsLeft s = true ∧
    acknowledged s = false

theorem retriable_of_trials {s u : Mac} (htrials : u.trials = s.trials)
    (hdelayed : u.LoRaMacState.MAC_TX_DELAYED = false → s.LoRaMacState.MAC_TX_DELAYED = false)
    (hu : u.retriable) : s.retriable := by
  obtain ⟨hretry, hnow, hleft, hack⟩ := hu
  unfold Mac.trials at htrials
  simp only [Prod.mk.injEq] at htrials
  obtain ⟨hretries, hcounter, hretry', hind, hreceived⟩ := htrials
  refine ⟨hretry' ▸ hretry, hdelayed hnow, ?_, ?_⟩
  · unfold trialsLeft at hleft ⊢
    rw [← hretries, ← hcounter]
    exact hleft
  · unfold acknowledged at hack ⊢
    rw [← hretries, ← hcounter, ← hind, ← hreceived]
    exact hack

/-- The last part of the state check schedules the next trial, or it does not send. -/
theorem checkAckTimeout_checkAck_cases {s t : Mac} (h : checkAckTimeout (checkAck s) = some t) :
    (s.retriable ∧ ∃ status,
        ScheduleTx (nextTrial { s with AckTimeoutRetry := false }) = some (status, t)) ∨ t.settled = s.settled := by
  rcases checkAck_cases s with ⟨hack, hsame⟩ | ⟨confirm, counter, hdone, -⟩
  · rw [hsame] at h
    rcases checkAckTimeout_cases h with ⟨-, rfl⟩ | ⟨⟨hretry, hdelayed⟩, ⟨hleft, hschedule⟩ | ⟨-, rfl⟩⟩
    · exact .inr rfl
    · exact .inl ⟨⟨hretry, hdelayed, hleft, hack⟩, hschedule⟩
    · exact .inr (by rw [settled_giveUp, settled_unretried])
  · rw [hdone] at h
    cases eq_of_checkAckTimeout h rfl
    exact .inr (by rw [settled_acknowledged, settled_setTxRunning])

/-- The state check is about to repeat a frame that is not to be acknowledged. -/
def Repeats (s : Mac) : Prop :=
  s.NodeAckRequested = false ∧ txTimeout s = false ∧ s.repeatable

/-- The state check is about to try a frame again that has not been acknowledged. -/
def Retries (s : Mac) : Prop :=
  s.AckTimeoutRetry = true ∧ s.LoRaMacState.MAC_TX_DELAYED = false ∧ trialsLeft s = true ∧
    (txTimeout s = false → acknowledged s = false)

instance (s : Mac) : Decidable (Repeats s) :=
  inferInstanceAs (Decidable (_ ∧ _ ∧ _ ∧ _ ∧ (_ ∨ _)))

instance (s : Mac) : Decidable (Retries s) := inferInstanceAs (Decidable (_ ∧ _ ∧ _ ∧ (_ → _)))

theorem retries_of_retriable {s : Mac} {confirm : McpsConfirm_t}
    (hconfirm : txTimeout s = false → confirm = s.McpsConfirm) (h : (s.ended confirm).retriable) :
    Retries s := by
  obtain ⟨hretry, hdelayed, hleft, hack⟩ := h
  refine ⟨hretry, hdelayed, hleft, fun hin => ?_⟩
  rw [hconfirm hin] at hack
  exact hack

/-- The state without what the state check writes once it has ended transmissions that were
aborted or have timed out. -/
def Mac.uncycled (s : Mac) : Mac :=
  { s.unscheduled with
    LoRaMacParams := defaultParams
    ChannelsNbRepCounter := 0
    AdrAckCounter := 0
    UpLinkCounter := 0
    NodeAckRequested := false
    AckTimeoutRetriesCounter := 0
    AckTimeoutRetry := false
    McpsConfirm := ⟨.MCPS_UNCONFIRMED, LORAMAC_EVENT_INFO_STATUS_OK, 0, 0, false, 0, 0, 0⟩
    LoRaMacFlags := { s.LoRaMacFlags with MacDone := false } }

/-- Between the two states the MAC only writes what the state check writes, and has the radio send
any number of frames. -/
structure Cycling (s t : Mac) : Prop where
  uncycled : t.uncycled = s.uncycled
  log : ∃ sent : List Transmission, t.board.log = s.board.log ++ sent.map .Send

namespace Cycling

theorem of_log {s t : Mac} (hview : t.uncycled = s.uncycled) (hlog : t.board.log = s.board.log) :
    Cycling s t :=
  ⟨hview, [], by rw [hlog, List.map_nil, List.append_nil]⟩

theorem refl (s : Mac) : Cycling s s := .of_log rfl rfl

theorem trans {s t u : Mac} (hst : Cycling s t) (htu : Cycling t u) : Cycling s u := by
  obtain ⟨sent, hsent⟩ := hst.log
  obtain ⟨sent', hsent'⟩ := htu.log
  refine ⟨htu.uncycled.trans hst.uncycled, sent ++ sent', ?_⟩
  rw [hsent', hsent, List.append_assoc, List.map_append]

end Cycling

theorem cycling_ScheduleTx {s t : Mac} {status : LoRaMacStatus_t}
    (h : ScheduleTx s = some (status, t)) : Cycling s t := by
  refine ⟨(congrArg Mac.uncycled (unscheduled_ScheduleTx h) :), ?_⟩
  rcases log_ScheduleTx h with ⟨hlog, -⟩ | ⟨sent, -, hlog, -⟩
  · exact ⟨[], by rw [hlog, List.map_nil, List.append_nil]⟩
  · exact ⟨[sent], hlog⟩

/-- The state without what building and scheduling a frame write. -/
def Mac.unsent (s : Mac) : Mac :=
  { s.unprepared.unscheduled with
    McpsConfirm := ⟨.MCPS_UNCONFIRMED, LORAMAC_EVENT_INFO_STATUS_OK, 0, 0, false, 0, 0, 0⟩ }

theorem unsent_Send {s t : Mac} {macHdr : LoRaMacFrameType_t} {fPort : UInt8}
    {fBuffer : Option Mem} {fBufferSize : UInt16} {status : LoRaMacStatus_t}
    (h : Send s macHdr fPort fBuffer fBufferSize = some (status, t)) : t.unsent = s.unsent := by
  obtain ⟨status', u, hframe, hout⟩ := Send_cases h
  have hview := unprepared_PrepareFrame s macHdr ⟨0, false, false, false, s.AdrCtrlOn⟩ fPort fBuffer
    fBufferSize
  rw [hframe] at hview
  have hunsent : u.unsent = s.unsent := (congrArg Mac.unsent hview :)
  rcases hout with ⟨-, -, rfl⟩ | ⟨-, hschedule⟩
  · exact hunsent
  · have hscheduled : t.unsent = u.unsent :=
      (congrArg Mac.unsent (unscheduled_ScheduleTx hschedule) :)
    exact hscheduled.trans hunsent

theorem log_Send {s t : Mac} {macHdr : LoRaMacFrameType_t} {fPort : UInt8}
    {fBuffer : Option Mem} {fBufferSize : UInt16} {status : LoRaMacStatus_t}
    (h : Send s macHdr fPort fBuffer fBufferSize = some (status, t)) :
    ∃ sent : List Transmission, t.board.log = s.board.log ++ sent.map .Send := by
  obtain ⟨status', u, hframe, hout⟩ := Send_cases h
  have hview := unprepared_PrepareFrame s macHdr ⟨0, false, false, false, s.AdrCtrlOn⟩ fPort fBuffer
    fBufferSize
  rw [hframe] at hview
  have hlog : u.board.log = s.board.log := (congrArg (·.board.log) hview :)
  rcases hout with ⟨-, -, rfl⟩ | ⟨-, hschedule⟩
  · exact ⟨[], by rw [hlog, List.map_nil, List.append_nil]⟩
  · rw [← hlog]
    exact (cycling_ScheduleTx hschedule).log

theorem cycling_checkRepetition {s t : Mac} (h : checkRepetition s = some t) : Cycling s t := by
  rcases checkRepetition_cases h with ⟨-, rfl⟩ | ⟨-, ⟨counter, rfl, -⟩ | ⟨-, repetitions, status,
    hschedule⟩⟩
  · exact .refl _
  · exact .of_log rfl rfl
  · have hscheduled := cycling_ScheduleTx hschedule
    refine Cycling.trans ?_ hscheduled
    exact .of_log rfl rfl

theorem cycling_checkAck (s : Mac) : Cycling s (checkAck s) := by
  rcases checkAck_cases s with ⟨-, hsame⟩ | ⟨confirm, counter, hdone, -⟩
  · rw [hsame]
    exact .refl s
  · rw [hdone]
    exact .of_log rfl rfl

theorem cycling_nextTrial (s : Mac) : Cycling s (nextTrial s) := .of_log rfl rfl

theorem cycling_giveUpTrials (s : Mac) : Cycling s (giveUpTrials s) := .of_log rfl rfl

theorem cycling_checkAckTimeout {s t : Mac} (h : checkAckTimeout s = some t) : Cycling s t := by
  have hretry : Cycling s { s with AckTimeoutRetry := false } := .of_log rfl rfl
  rcases checkAckTimeout_cases h with ⟨-, rfl⟩ | ⟨-, ⟨-, status, hschedule⟩ | ⟨-, rfl⟩⟩
  · exact .refl _
  · exact (hretry.trans (cycling_nextTrial _)).trans (cycling_ScheduleTx hschedule)
  · exact hretry.trans (cycling_giveUpTrials _)

theorem cycling_completeCycle {s t : Mac} (h : completeCycle s = some t) :
    ∃ confirm, Cycling (s.ended confirm) t := by
  obtain ⟨confirm, u, -, hu, hut⟩ := completeCycle_parts h
  have hsu : Cycling (s.ended confirm) u := by
    rcases hu with ⟨-, hu⟩ | ⟨-, rfl⟩
    · exact cycling_checkRepetition hu
    · exact .refl _
  exact ⟨confirm, (hsu.trans (cycling_checkAck u)).trans (cycling_checkAckTimeout hut)⟩

/-- The state check once its timer has stopped. -/
def Mac.checked (s : Mac) : Mac := { s with MacStateCheckTimer := TimerStop s.MacStateCheckTimer }

/-- The state behind a state check that found `u`, before the primitives. -/
def Mac.unreceived (u : Mac) : Mac :=
  { u with LoRaMacState := { u.LoRaMacState with MAC_RX := false } }

theorem OnMacStateCheckTimerEvent_cases {s t : Mac} (h : OnMacStateCheckTimerEvent s = some t) :
    ∃ u, t = confirmRequests u.unreceived ∧
      (s.LoRaMacFlags.MacDone = false ∧ u = s.checked ∨
        s.LoRaMacFlags.MacDone = true ∧ completeCycle s.checked = some u) := by
  obtain ⟨u, hu, rfl⟩ := Option.map_eq_some_iff.mp h
  refine ⟨u, rfl, ?_⟩
  split at hu
  · next hdone => exact .inr ⟨hdone, hu⟩
  · next hdone =>
    cases hu
    exact .inl ⟨Bool.eq_false_of_not_eq_true hdone, rfl⟩

/-- The state once the timer of a frame that was delayed has ended. -/
def Mac.undelayed (s : Mac) : Mac :=
  { s with
    TxDelayedTimer := TimerStop s.TxDelayedTimer
    LoRaMacState := { s.LoRaMacState with MAC_TX_DELAYED := false } }

theorem OnTxDelayedTimerEvent_cases {s t : Mac} (h : OnTxDelayedTimerEvent s = some t) :
    ∃ u status, ScheduleTx u = some (status, t) ∧
      (s.joining = false ∧ u = s.undelayed ∨ s.joining = true ∧ u = (PrepareFrame s.undelayed
        FRAME_TYPE_JOIN_REQ ⟨0, false, false, false, s.AdrCtrlOn⟩ 0 none 0).2) := by
  obtain ⟨⟨status, u⟩, hschedule, rfl⟩ := Option.map_eq_some_iff.mp h
  refine ⟨_, status, hschedule, ?_⟩
  unfold Mac.joining
  split
  · next hjoin =>
    refine .inr ⟨?_, rfl⟩
    rw [show s.LoRaMacFlags.MlmeReq = true from hjoin.1,
      show s.MlmeConfirm.MlmeRequest = .MLME_JOIN from hjoin.2]
    rfl
  · next hjoin =>
    refine .inl ⟨?_, rfl⟩
    rw [Bool.and_eq_false_iff, decide_eq_false_iff_not, ← Bool.not_eq_true, ← not_and_or]
    exact hjoin

/-- The state without what the end of a transmission writes. -/
def Mac.unlanded (s : Mac) : Mac :=
  { s.quiet with
    board := { s.quiet.board with reads := 0 }
    Bands := fun _ => ⟨0, 0, 0⟩
    AggregatedLastTxDoneTime := 0
    LastTxChannel := 0 }

/-- The end of a transmission, with the windows switched on. -/
structure Landed (s t : Mac) : Prop where
  unlanded : t.unlanded = s.unlanded
  macDone : s.LoRaMacFlags.MacDone = true → t.LoRaMacFlags.MacDone = true
  ackTimeoutRetry : t.AckTimeoutRetry = true →
    s.AckTimeoutRetry = true ∨ s.NodeAckRequested = true
  ackReq : t.LoRaMacState.MAC_ACK_REQ = true → s.LoRaMacState.MAC_ACK_REQ = true

theorem Light.landed {s t : Mac} (h : Light s t) : Landed s t :=
  ⟨(congrArg Mac.unlanded h.quiet :), h.macDone, h.ackTimeoutRetry, h.ackReq⟩

theorem landed_OnRadioTxDone {s : Mac} (hwindows : s.IsRxWindowsEnabled = true) :
    Landed s (OnRadioTxDone s) := by
  obtain ⟨u, hlight, hu⟩ := light_OnRadioTxDone s
  have hradio := (light_leaveRadio (TimerGetCurrentTime s).2).landed
  have hlanded := hlight.landed
  rcases hu with rfl | ⟨hoff, -⟩
  · refine ⟨hlanded.unlanded.trans hradio.unlanded, hlanded.macDone ∘ hradio.macDone, ?_,
      hradio.ackReq ∘ hlanded.ackReq⟩
    intro hretry
    rcases hlanded.ackTimeoutRetry hretry with hretry | hnode
    · exact hradio.ackTimeoutRetry hretry
    · have hsame : (leaveRadio (TimerGetCurrentTime s).2).NodeAckRequested = s.NodeAckRequested :=
        (congrArg Mac.NodeAckRequested hradio.unlanded :)
      exact .inr (hsame ▸ hnode)
  · rw [hwindows] at hoff
    cases hoff

/-- The state without what `OnRadioTxDone` writes, with the windows switched on or off. -/
def Mac.unaired (s : Mac) : Mac := { s.unlanded with LoRaMacFlags := ⟨false, false, false, false⟩ }

theorem Light.unaired {s t : Mac} (h : Light s t) : t.unaired = s.unaired :=
  (congrArg Mac.unaired h.quiet :)

theorem unaired_OnRadioTxDone (s : Mac) : (OnRadioTxDone s).unaired = s.unaired := by
  obtain ⟨u, hlight, hu⟩ := light_OnRadioTxDone s
  have hradio : (leaveRadio (TimerGetCurrentTime s).2).unaired = s.unaired :=
    (light_leaveRadio (TimerGetCurrentTime s).2).unaired
  have hrecord (u : Mac) (time : TimerTime_t) : (recordTxDone u time).unaired = u.unaired := rfl
  have hwithout (u : Mac) : (completeWithoutWindows u).unaired = u.unaired := rfl
  rw [hlight.unaired]
  rcases hu with rfl | ⟨-, rfl⟩
  · rw [hrecord, hradio]
  · rw [hwithout, hrecord, hradio]

theorem log_OnRadioTxDone (s : Mac) : (OnRadioTxDone s).board.log = s.board.log :=
  (congrArg (·.board.log) (unaired_OnRadioTxDone s) :)

theorem state_OnRxWindow2TimerEvent (s : Mac) :
    (OnRxWindow2TimerEvent s).LoRaMacState = s.LoRaMacState := by
  unfold OnRxWindow2TimerEvent RxWindowSetup
  dsimp only
  split <;> rfl

/-- The state without what the end of the state check writes. -/
def Mac.untold (s : Mac) : Mac :=
  { s with
    board := { s.board with log := [] }
    inside := none
    MacStateCheckTimer := ⟨0, false⟩
    LoRaMacFlags := ⟨false, false, false, false⟩ }

theorem untold_indicate (s : Mac) : (indicate s).untold = s.untold := by
  unfold indicate
  split <;> rfl

theorem untold_confirmMlme (s : Mac) : (confirmMlme s).untold = s.untold := by
  unfold confirmMlme
  split
  · rfl
  · exact untold_indicate _

theorem untold_confirmRequests (s : Mac) : (confirmRequests s).untold = s.untold := by
  unfold confirmRequests confirmMcps
  split
  · split
    · rfl
    · exact untold_confirmMlme s
  · exact untold_indicate _

theorem untold_returnFrom (s : Mac) (p : Primitive) : (returnFrom s p).untold = s.untold := by
  cases p with
  | MacMcpsConfirm => exact untold_confirmMlme _
  | MacMlmeConfirm => exact untold_indicate _
  | MacMcpsIndication => rfl

/-- The state without what the upper layer can set as an attribute, and without the radio, which
class C turns to reception. -/
def Mac.unset (s : Mac) : Mac :=
  { s.quiet with
    LoRaMacState := s.LoRaMacState
    LoRaMacNwkSKey := []
    LoRaMacAppSKey := []
    LoRaMacNetID := 0
    LoRaMacDevAddr := 0
    LoRaMacDeviceClass := .CLASS_A
    RepeaterSupport := false
    UpLinkCounter := 0
    DownLinkCounter := 0
    IsLoRaMacNetworkJoined := false
    AdrCtrlOn := false
    NodeAckRequested := false
    LoRaMacParams := defaultParams
    LoRaMacParamsDefaults := defaultParams }

theorem unset_of_quiet {s t : Mac} (hquiet : t.quiet = s.quiet)
    (hstate : t.LoRaMacState = s.LoRaMacState) : t.unset = s.unset := by
  have hunset : ({ t.quiet with LoRaMacState := t.LoRaMacState } : Mac).unset =
      ({ s.quiet with LoRaMacState := s.LoRaMacState } : Mac).unset := by
    rw [hquiet, hstate]
  exact hunset

theorem unset_mibSet (s : Mac) (r : MibSet) : (mibSet s r).2.unset = s.unset := by
  have hset (valid : Bool) (p : LoRaMacParams_t) : (setParams s valid p).2.unset = s.unset := by
    unfold setParams
    split <;> rfl
  cases r with
  | MIB_DEVICE_CLASS Class =>
    cases Class with
    | CLASS_A => rfl
    | CLASS_B => rfl
    | CLASS_C =>
      rw [mibSet]
      refine (unset_of_quiet (light_OnRxWindow2TimerEvent _).quiet
        (state_OnRxWindow2TimerEvent _)).trans ?_
      rfl
  | MIB_NWK_SKEY NwkSKey => cases NwkSKey <;> rfl
  | MIB_APP_SKEY AppSKey => cases AppSKey <;> rfl
  | MIB_CHANNELS_DEFAULT_DATARATE datarate =>
    rw [mibSet]
    split <;> rfl
  | MIB_NETWORK_JOINED | MIB_ADR | MIB_NET_ID | MIB_DEV_ADDR | MIB_PUBLIC_NETWORK
  | MIB_REPEATER_SUPPORT | MIB_UPLINK_COUNTER | MIB_DOWNLINK_COUNTER | MIB_CHANNELS
  | MIB_MULTICAST_CHANNEL => rfl
  | _ => exact hset _ _

end loranode.mac
