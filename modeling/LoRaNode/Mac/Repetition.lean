import LoRaNode.Mac.Course

namespace loranode.mac

open LoRaMacStatus_t LoRaMacFrameType_t LoRaMacEventInfoStatus_t

namespace Flight

/-- The frame is not to be acknowledged, its request is pending, and nothing is left of another
request or of a reception, unless a primitive is still running that has been told of it. -/
structure Unconfirmed (f : Flight) (n : UInt8) : Prop where
  nbRep : f.nbRep = n
  ackRequested : f.ackRequested = false
  retry : f.retry = false
  mcpsReq : f.mcpsReq = true
  aborted : f.aborted = false
  maxDCycle : f.maxDCycle ≠ 255
  windows : f.windows = true
  deviceClass : f.deviceClass = .CLASS_A
  timedOut : f.timedOut = false
  inside : f.inside ≠ some .MacMcpsConfirm
  joining : f.joining = true → f.inside = some .MacMlmeConfirm
  mcpsInd : f.mcpsInd = true → f.inside ≠ none

/-- The frame is on its way, and is to be sent `n` times. It has been sent once more than
`ChannelsNbRepCounter` says while it is on the air. `MacDone` is only set behind a transmission,
once the second window has been opened or is not going to be. -/
structure Repeating (f : Flight) (n : UInt8) : Prop extends f.Unconfirmed n where
  busy : f.running = true ∨ f.delayed = true
  delayTimer : f.delayTimer = true → f.delayed = true
  count : f.sent.length = f.repetitions.toNat + if f.radio = .RF_TX_RUNNING then 1 else 0
  most : f.sent.length ≤ n.toNat
  delayed : f.delayed = true → f.radio ≠ .RF_TX_RUNNING ∧ f.sent.length < n.toNat
  macDone : f.macDone = true → f.inside = some .MacMlmeConfirm ∨
    f.delayed = false ∧ f.radio ≠ .RF_TX_RUNNING
  window2 : f.macDone = true ∨ f.delayed = true → f.window2 = false
  slot : f.radio = .RF_RX_RUNNING → f.window2 = true ∨ f.macDone = true ∨ f.delayed = true →
    f.slot = 0

/-- The frame is about to be scheduled, and not for the last time that it may. -/
structure Due (f : Flight) (n : UInt8) : Prop extends f.Unconfirmed n where
  delayTimer : f.delayTimer = false
  delayed : f.delayed = false
  count : f.sent.length = f.repetitions.toNat
  left : f.sent.length < n.toNat
  radio : f.radio ≠ .RF_TX_RUNNING
  macDone : f.macDone = true → f.inside = some .MacMlmeConfirm
  window2 : f.window2 = false
  slot : f.radio = .RF_RX_RUNNING → f.slot = 0

theorem Due.send {f : Flight} {n : UInt8} (h : f.Due n) (datarate : Int) :
    (f.send datarate).Repeating n := by
  have hlength : (f.sent ++ [datarate]).length = f.sent.length + 1 := List.length_append
  have hmost : (f.sent ++ [datarate]).length ≤ n.toNat := hlength ▸ h.left
  rw [h.count] at hlength
  exact { h.toUnconfirmed with
    timedOut := rfl
    busy := .inl rfl
    delayTimer := fun hqueued => absurd (hqueued.symm.trans h.delayTimer) (by decide)
    count := hlength
    most := hmost
    delayed := fun hdelayed => absurd (hdelayed.symm.trans h.delayed) (by decide)
    macDone := fun hdone => .inl (h.macDone hdone)
    window2 := fun _ => h.window2
    slot := fun hreceiving => by cases hreceiving }

theorem Due.wait {f : Flight} {n : UInt8} (h : f.Due n) (datarate : Int) :
    (f.wait datarate).Repeating n :=
  { h.toUnconfirmed with
    busy := .inr rfl
    delayTimer := fun _ => rfl
    count := by
      rw [if_neg (show (f.wait datarate).radio ≠ .RF_TX_RUNNING from h.radio)]
      exact h.count
    most := h.left.le
    delayed := fun _ => ⟨h.radio, h.left⟩
    macDone := fun hdone => .inl (h.macDone hdone)
    window2 := fun _ => h.window2
    slot := fun hreceiving _ => h.slot hreceiving }

namespace Repeating

variable {f : Flight} {n : UInt8}

theorem openWindow_eq_tx {radio : RadioState_t} :
    openWindow radio = .RF_TX_RUNNING ↔ radio = .RF_TX_RUNNING := by
  cases radio <;> decide

/-- While the second window is to come neither `MacDone` is set nor is the frame delayed. -/
theorem listening (h : f.Repeating n) (hwindow : f.window2 = true) :
    ¬(f.macDone = true ∨ f.delayed = true) := by
  intro hcase
  rw [h.window2 hcase] at hwindow
  cases hwindow

theorem window1 (h : f.Repeating n) :
    Repeating { f with radio := openWindow f.radio, slot := 0 } n :=
  { h with
    count := by
      simp only [openWindow_eq_tx]
      exact h.count
    delayed := fun hdelayed => (h.delayed hdelayed).imp_left (mt openWindow_eq_tx.mp)
    macDone := fun hdone => (h.macDone hdone).imp_right (And.imp_right (mt openWindow_eq_tx.mp))
    slot := fun _ _ => rfl }

theorem window2_opened (h : f.Repeating n) (hwindow : f.window2 = true) :
    Repeating { f with radio := openWindow f.radio, slot := 1, window2 := false } n :=
  { h with
    count := by
      simp only [openWindow_eq_tx]
      exact h.count
    delayed := fun hdelayed => (h.delayed hdelayed).imp_left (mt openWindow_eq_tx.mp)
    macDone := fun hdone => (h.macDone hdone).imp_right (And.imp_right (mt openWindow_eq_tx.mp))
    window2 := fun _ => rfl
    slot := fun _ hcase => by
      rcases hcase with hfalse | hcase
      · cases hfalse
      · exact absurd hcase (h.listening hwindow) }

/-- A window closes. The first one can only set `MacDone` once the second one is past. -/
theorem closed (h : f.Repeating n) (hradio : f.radio = .RF_RX_RUNNING) {timedOut : Bool}
    (htimely : timedOut = false) :
    Repeating { f with
      radio := .RF_IDLE, macDone := f.macDone || f.slot = 1, timedOut := timedOut } n := by
  have hidle : RadioState_t.RF_IDLE ≠ .RF_TX_RUNNING := by decide
  have hslot (hcase : f.window2 = true ∨ f.macDone = true ∨ f.delayed = true) : f.slot ≠ 1 := by
    rw [h.slot hradio hcase]
    decide
  refine { h with
    timedOut := htimely
    count := ?_
    delayed := fun hdelayed => ⟨hidle, (h.delayed hdelayed).2⟩
    macDone := fun hdone => ?_
    window2 := fun hcase => ?_
    slot := fun hreceiving => by cases hreceiving }
  · have hcount := h.count
    rw [hradio] at hcount
    exact hcount
  · rw [Bool.or_eq_true, decide_eq_true_eq] at hdone
    rcases hdone with hdone | hlast
    · exact (h.macDone hdone).imp_right (And.imp_right fun _ => hidle)
    · refine .inr ⟨Bool.eq_false_iff.mpr fun hdelayed => ?_, hidle⟩
      exact hslot (.inr (.inr hdelayed)) hlast
  · rw [Bool.or_eq_true, decide_eq_true_eq] at hcase
    rcases hcase with (hdone | hlast) | hdelayed
    · exact h.window2 (.inl hdone)
    · exact Bool.eq_false_iff.mpr fun hwindow => hslot (.inl hwindow) hlast
    · exact h.window2 (.inr hdelayed)

/-- A frame is passed over: the windows end, and the cycle with them. -/
theorem passedOver (h : f.Repeating n) (hradio : f.radio = .RF_RX_RUNNING)
    (hdelayed : f.delayed = false) :
    Repeating { f with
      radio := .RF_IDLE, window2 := false, ackReceived := false, macDone := true } n := by
  have hidle : RadioState_t.RF_IDLE ≠ .RF_TX_RUNNING := by decide
  have hcount := h.count
  rw [hradio] at hcount
  exact { h with
    count := hcount
    delayed := fun hwaits => absurd (hdelayed.symm.trans hwaits) (by decide)
    macDone := fun _ => .inr ⟨hdelayed, hidle⟩
    window2 := fun _ => rfl
    slot := fun hreceiving => by cases hreceiving }

/-- The transmission ends, and is counted. -/
theorem landed (h : f.Repeating n) (hradio : f.radio = .RF_TX_RUNNING) (hinside : f.inside = none)
    {timedOut : Bool} (htimely : timedOut = false) :
    Repeating { f with
      radio := .RF_IDLE
      window2 := true
      repetitions := f.counted
      timedOut := timedOut } n := by
  have hdelayed : f.delayed ≠ true := fun hdelayed => (h.delayed hdelayed).1 hradio
  have hdone : f.macDone ≠ true := by
    intro hdone
    rcases h.macDone hdone with hmlme | ⟨-, hlanded⟩
    · rw [hinside] at hmlme
      cases hmlme
    · exact hlanded hradio
  have hcount := h.count
  rw [if_pos hradio] at hcount
  have hcounted : f.counted.toNat = f.repetitions.toNat + 1 := by
    have hmost := h.most
    have hbound := n.toNat_lt
    unfold Flight.counted
    rw [h.ackRequested, if_neg Bool.false_ne_true, UInt8.toNat_add, UInt8.toNat_one]
    exact Nat.mod_eq_of_lt (by omega)
  exact { h with
    timedOut := htimely
    count := hcount.trans hcounted.symm
    delayed := fun h => absurd h hdelayed
    macDone := fun h => absurd h hdone
    window2 := fun h => (h.elim hdone hdelayed).elim
    slot := fun hreceiving => by cases hreceiving }

/-- The wait for a band is over. -/
theorem undelayed (h : f.Repeating n) (hdelayed : f.delayed = true) :
    Due { f with delayTimer := false, delayed := false } n := by
  obtain ⟨hradio, hleft⟩ := h.delayed hdelayed
  have hcount := h.count
  rw [if_neg hradio] at hcount
  exact { h.toUnconfirmed with
    delayTimer := rfl
    delayed := rfl
    count := hcount
    left := hleft
    radio := hradio
    macDone := fun hdone => by
      rcases h.macDone hdone with hmlme | ⟨hnot, -⟩
      · exact hmlme
      · exact absurd (hdelayed.symm.trans hnot) (by decide)
    window2 := h.window2 (.inr hdelayed)
    slot := fun hreceiving => h.slot hreceiving (.inr (.inr hdelayed)) }

/-- The state check only finds `MacDone` behind a transmission, which has been counted. -/
theorem settled (h : f.Repeating n) (hdone : f.macDone = true) (hinside : f.inside = none) :
    f.delayed = false ∧ f.radio ≠ .RF_TX_RUNNING ∧ f.sent.length = f.repetitions.toNat := by
  have hcount := h.count
  rcases h.macDone hdone with hmlme | ⟨hdelayed, hradio⟩
  · rw [hinside] at hmlme
    cases hmlme
  · rw [if_neg hradio, Nat.add_zero] at hcount
    exact ⟨hdelayed, hradio, hcount⟩

/-- The state check finds that the frame is not done with. -/
theorem again (h : f.Repeating n) (hdone : f.macDone = true) (hinside : f.inside = none)
    (hleft : f.repetitions < f.nbRep) : Due { f with macDone := false } n := by
  obtain ⟨hdelayed, hradio, hcount⟩ := h.settled hdone hinside
  rw [h.nbRep, UInt8.lt_iff_toNat_lt, ← hcount] at hleft
  exact { h.toUnconfirmed with
    delayTimer := Bool.eq_false_iff.mpr fun hqueued =>
      absurd ((h.delayTimer hqueued).symm.trans hdelayed) (by decide)
    delayed := hdelayed
    count := hcount
    left := hleft
    radio := hradio
    macDone := fun h => by cases h
    window2 := h.window2 (.inl hdone)
    slot := fun hreceiving => h.slot hreceiving (.inr (.inl hdone)) }

/-- The state check finds that the frame is done with. -/
theorem done (h : f.Repeating n) (hdone : f.macDone = true) (hinside : f.inside = none)
    (hlast : f.nbRep ≤ f.repetitions) : f.sent.length = n.toNat ∧ f.delayed = false := by
  obtain ⟨hdelayed, -, hcount⟩ := h.settled hdone hinside
  rw [h.nbRep, UInt8.le_iff_toNat_le, ← hcount] at hlast
  exact ⟨le_antisymm h.most hlast, hdelayed⟩

/-- `MacMlmeConfirm` returns. -/
theorem mlmeConfirmed (h : f.Repeating n) :
    Repeating (indicated { f with inside := none, macDone := false, joining := false }) n := by
  have hinside : (if f.mcpsInd then some .MacMcpsIndication else none) ≠
      some Primitive.MacMcpsConfirm := by
    split <;> simp
  have hcalled (hind : f.mcpsInd = true) :
      (if f.mcpsInd then some Primitive.MacMcpsIndication else none) ≠ none := by
    rw [if_pos hind]
    exact Option.some_ne_none _
  exact { h with
    inside := hinside
    joining := fun hjoining => by cases hjoining
    mcpsInd := hcalled
    macDone := fun hdone => by cases hdone
    window2 := fun hcase => h.window2 (.inr (hcase.resolve_left Bool.false_ne_true))
    slot := fun hreceiving hcase => h.slot hreceiving
      (hcase.imp_right fun hcase => .inr (hcase.resolve_left Bool.false_ne_true)) }

/-- `MacMcpsIndication` returns. -/
theorem indicationReturned (h : f.Repeating n) (hinside : f.inside = some .MacMcpsIndication) :
    Repeating { f with inside := none, mcpsInd := false } n := by
  have hother : f.inside ≠ some .MacMlmeConfirm := by
    rw [hinside]
    decide
  exact { h with
    inside := fun hnone => by cases hnone
    joining := fun hjoining => absurd (h.joining hjoining) hother
    mcpsInd := fun hind => by cases hind
    macDone := fun hdone => .inr ((h.macDone hdone).resolve_left hother) }

/-- An attribute is set while the frame is delayed. It may put the radio to sleep. -/
theorem set (h : f.Repeating n) (hrunning : f.running = false) {radio : RadioState_t}
    (hradio : radio = f.radio ∨ radio = .RF_IDLE) (datarate : Int) (counter : UInt32)
    (joined : Bool) :
    Repeating { f with
      radio := radio, datarate := datarate, counter := counter, joined := joined } n := by
  have hdelayed : f.delayed = true := h.busy.resolve_left (by rw [hrunning]; decide)
  obtain ⟨hsilent, hleft⟩ := h.delayed hdelayed
  have hnotSending : radio ≠ .RF_TX_RUNNING := by
    rcases hradio with rfl | rfl
    · exact hsilent
    · decide
  have hcount := h.count
  rw [if_neg hsilent] at hcount
  exact { h with
    count := by
      rw [if_neg hnotSending]
      exact hcount
    delayed := fun _ => ⟨hnotSending, hleft⟩
    macDone := fun hdone => (h.macDone hdone).imp_right (And.imp_right fun _ => hnotSending)
    slot := fun hreceiving hcase => by
      rcases hradio with rfl | rfl
      · exact h.slot hreceiving hcase
      · cases hreceiving }

end Repeating

end Flight

/-- Without a refused frame and a timeout the first part of the state check has nothing to do. -/
theorem ended_eq {s : Mac} (habort : s.LoRaMacState.MAC_RX_ABORT = false)
    (htimely : txTimeout s = false) : s.ended s.McpsConfirm = s := by
  have hrunning : s.stillRunning = s.LoRaMacState.MAC_TX_RUNNING := by
    unfold Mac.stillRunning
    rw [habort, htimely, Bool.not_false, Bool.and_true, Bool.and_true]
  have hstate : ({ s.LoRaMacState with
      MAC_TX_RUNNING := s.LoRaMacState.MAC_TX_RUNNING, MAC_RX_ABORT := false } : LoRaMacState_t) =
      s.LoRaMacState := by
    rw [← habort]
  unfold Mac.ended
  rw [hrunning, hstate]

/-- The state check of a frame that is not to be acknowledged, when nothing has been received: the
frame is done with, or it is scheduled again. -/
theorem completeCycle_unconfirmed {s t : Mac} (h : completeCycle s = some t)
    (habort : s.LoRaMacState.MAC_RX_ABORT = false) (htimely : txTimeout s = false)
    (hnode : s.NodeAckRequested = false) (hretry : s.AckTimeoutRetry = false)
    (hreq : s.LoRaMacFlags.McpsReq = true) (hind : s.LoRaMacFlags.McpsInd = false)
    (hjoining : s.joining = false) :
    s.LoRaMacParams.ChannelsNbRep ≤ s.ChannelsNbRepCounter ∧ t = { setTxRunning s false with
        ChannelsNbRepCounter := 0
        AdrAckCounter := s.AdrAckCounter + 1
        UpLinkCounter := countUplink s } ∨
      s.ChannelsNbRepCounter < s.LoRaMacParams.ChannelsNbRep ∧ ∃ status, ScheduleTx { s with
        LoRaMacFlags := { s.LoRaMacFlags with MacDone := false } } = some (status, t) := by
  obtain ⟨confirm, u, hconfirm, hu, hut⟩ := completeCycle_parts h
  have hlast (hind : u.LoRaMacFlags.McpsInd = false) (hretry : u.AckTimeoutRetry = false) :
      t = u := by
    have hack : checkAck u = u := by
      unfold checkAck acknowledged
      rw [hind, Bool.false_and, if_neg Bool.false_ne_true]
    rw [hack] at hut
    exact eq_of_checkAckTimeout hut hretry
  rcases hu with ⟨-, hu⟩ | ⟨hcase, -⟩
  · rw [hconfirm htimely, ended_eq habort htimely] at hu
    unfold checkRepetition at hu
    rw [checkJoin_of_not_joining hjoining] at hu
    dsimp only at hu
    rw [if_pos (by rw [hreq, Bool.or_true])] at hu
    split at hu
    · next hdone =>
      cases hu
      exact .inl ⟨hdone.resolve_right (Bool.eq_false_iff.mp hind), hlast hind hretry⟩
    · next hnot =>
      obtain ⟨⟨status, v⟩, hschedule, rfl⟩ := Option.map_eq_some_iff.mp hu
      obtain ⟨hflags, hretry'⟩ := ScheduleTx_flags hschedule
      have hvind : v.LoRaMacFlags.McpsInd = false := by
        rw [hflags]
        exact hind
      refine .inr ⟨UInt8.not_le.mp fun hle => hnot (.inl hle), status, ?_⟩
      rw [hlast hvind (hretry'.trans hretry)]
      exact hschedule
  · rw [hnode, htimely] at hcase
    rcases hcase with hcase | hcase <;> cases hcase

/-- The attribute changes neither the class of the device nor the number of repetitions. -/
def MibSet.Neutral (s : Mac) : MibSet → Prop
  | .MIB_DEVICE_CLASS Class => Class = s.LoRaMacDeviceClass
  | .MIB_CHANNELS_NB_REP nbRep => nbRep = s.LoRaMacParams.ChannelsNbRep
  | _ => True

theorem flight_mibSet (s₀ : Mac) {s : Mac} {r : MibSet} (hclass : s.LoRaMacDeviceClass = .CLASS_A)
    (hr : r.Neutral s) : ∃ radio datarate counter joined,
      (radio = s.board.status ∨ radio = .RF_IDLE) ∧ (mibSet s r).2.flight s₀ = { s.flight s₀ with
        radio := radio, datarate := datarate, counter := counter, joined := joined } := by
  have hset {valid : Bool} {params : LoRaMacParams_t}
      (hrep : params.ChannelsNbRep = s.LoRaMacParams.ChannelsNbRep) :
      ∃ radio datarate counter joined, (radio = s.board.status ∨ radio = .RF_IDLE) ∧
        (setParams s valid params).2.flight s₀ = { s.flight s₀ with
          radio := radio, datarate := datarate, counter := counter, joined := joined } := by
    have hview : ({ s with LoRaMacParams := params } : Mac).flight s₀ = { s.flight s₀ with
        datarate := params.ChannelsDatarate, nbRep := params.ChannelsNbRep } := rfl
    rw [hrep] at hview
    unfold setParams
    split
    · exact ⟨_, _, _, _, .inl rfl, hview⟩
    · exact ⟨_, _, _, _, .inl rfl, rfl⟩
  cases r with
  | MIB_DEVICE_CLASS Class =>
    obtain rfl : Class = .CLASS_A := hr.trans hclass
    have hview : (mibSet s (.MIB_DEVICE_CLASS .CLASS_A)).2.flight s₀ = { s.flight s₀ with
        radio := .RF_IDLE, deviceClass := .CLASS_A } := rfl
    refine ⟨.RF_IDLE, s.LoRaMacParams.ChannelsDatarate, s.UpLinkCounter, s.IsLoRaMacNetworkJoined,
      .inr rfl, ?_⟩
    rw [hview, ← hclass]
    rfl
  | MIB_CHANNELS_NB_REP nbRep => exact hset hr
  | MIB_NWK_SKEY key => cases key <;> exact ⟨_, _, _, _, .inl rfl, rfl⟩
  | MIB_APP_SKEY key => cases key <;> exact ⟨_, _, _, _, .inl rfl, rfl⟩
  | MIB_CHANNELS_DEFAULT_DATARATE datarate =>
    rw [mibSet]
    split <;> exact ⟨_, _, _, _, .inl rfl, rfl⟩
  | MIB_RX2_CHANNEL _ | MIB_CHANNELS_MASK _ | MIB_MAX_RX_WINDOW_DURATION _ | MIB_RECEIVE_DELAY_1 _
  | MIB_RECEIVE_DELAY_2 _ | MIB_JOIN_ACCEPT_DELAY_1 _ | MIB_JOIN_ACCEPT_DELAY_2 _
  | MIB_CHANNELS_DATARATE _ | MIB_CHANNELS_TX_POWER _ => exact hset rfl
  | MIB_NETWORK_JOINED _ | MIB_ADR _ | MIB_NET_ID _ | MIB_DEV_ADDR _ | MIB_PUBLIC_NETWORK _
  | MIB_REPEATER_SUPPORT _ | MIB_UPLINK_COUNTER _ | MIB_DOWNLINK_COUNTER _ | MIB_CHANNELS
  | MIB_MULTICAST_CHANNEL => exact ⟨_, _, _, _, .inl rfl, rfl⟩

/-- What an event must meet while a frame is repeated. Nothing is received but join-accepts, which a
node that has joined passes over, and these not while the frame waits to be sent. No transmission
times out, and the class of the device and the number of repetitions stay. While the frame waits and
a link check is pending no join is requested. -/
def Unheard (s : Mac) : Event → Prop
  | .radio .TxTimeout => False
  | .radio (.RxDone frame _ _ _) => frame.macHdr = FRAME_TYPE_JOIN_ACCEPT ∧
    s.IsLoRaMacNetworkJoined = true ∧ s.LoRaMacState.MAC_TX_DELAYED = false
  | .request (.mlme (.Join ..)) =>
    s.LoRaMacState.MAC_TX_RUNNING = true ∨ s.LoRaMacFlags.MlmeReq = false
  | .request (.mib r) => s.LoRaMacState.MAC_TX_RUNNING = true ∨ r.Neutral s
  | _ => True

/-- A frame that was accepted in `s₀` is on its way in `s`, and is to be sent `n` times. -/
structure UnderWay (s₀ : Mac) (n : UInt8) (s : Mac) : Prop where
  log : s₀.board.log <+: s.board.log
  repeating : (s.flight s₀).Repeating n

namespace UnderWay

variable {s₀ s t : Mac} {n : UInt8}

theorem of_flight (hs : UnderWay s₀ n s) (hlog : t.board.log = s.board.log)
    (hflight : t.flight s₀ = s.flight s₀) : UnderWay s₀ n t :=
  ⟨hlog ▸ hs.log, hflight ▸ hs.repeating⟩

theorem running_or_delayed (hs : UnderWay s₀ n s) :
    s.LoRaMacState.MAC_TX_RUNNING = true ∨ s.LoRaMacState.MAC_TX_DELAYED = true :=
  hs.repeating.busy

theorem mlmeRequest {r : MlmeReq_t} {status : LoRaMacStatus_t} (hs : UnderWay s₀ n s)
    (h : LoRaMacMlmeRequest s r = some (status, t)) (hallowed : Unheard s (.request (.mlme r))) :
    UnderWay s₀ n t := by
  cases r with
  | Join DevEui AppEui AppKey =>
    rcases LoRaMacMlmeRequest_cases h with ⟨-, rfl, -⟩ | ⟨hidle, ⟨-, -, rfl⟩ | ⟨_, _, _, _, _, -,
      hfree, -⟩ | ⟨hlink, -⟩⟩
    · exact hs
    · have hunasked : s.LoRaMacFlags.MlmeReq = false :=
        hallowed.resolve_left (by rw [hidle]; decide)
      have htimely := timedOut_eq_false.mp hs.repeating.timedOut
      have herror : LORAMAC_EVENT_INFO_STATUS_ERROR ≠ LORAMAC_EVENT_INFO_STATUS_TX_TIMEOUT := by
        decide
      refine ⟨hs.log, ?_⟩
      exact { hs.repeating with
        timedOut := timedOut_eq_false.mpr ⟨htimely.1, herror⟩
        joining := fun hjoining => by
          have hasked : s.LoRaMacFlags.MlmeReq = true := (Bool.and_eq_true_iff.mp hjoining).1
          exact absurd (hunasked.symm.trans hasked) (by decide) }
    · rcases hs.running_or_delayed with hrunning | hdelayed
      · exact absurd (hidle.symm.trans hrunning) (by decide)
      · exact absurd (hfree.symm.trans hdelayed) (by decide)
    · cases hlink
  | LinkCheck =>
    obtain ⟨hlog, hsame | ⟨timedOut, ackRequested, htimely, hack, hflight⟩⟩ := flight_linkCheck s₀ h
    · exact hs.of_flight hlog hsame
    · refine ⟨hlog ▸ hs.log, ?_⟩
      rw [hflight]
      exact { hs.repeating with
        ackRequested := hack hs.repeating.ackRequested
        timedOut := htimely hs.repeating.timedOut
        joining := fun hjoining => by cases hjoining }

theorem mibRequest {r : MibSet} (hs : UnderWay s₀ n s)
    (hallowed : Unheard s (.request (.mib r))) :
    UnderWay s₀ n (LoRaMacMibSetRequestConfirm s r).2 := by
  unfold LoRaMacMibSetRequestConfirm
  split
  · exact hs
  · next hrunning =>
    obtain ⟨radio, datarate, counter, joined, hradio, hflight⟩ :=
      flight_mibSet s₀ hs.repeating.deviceClass (hallowed.resolve_left hrunning)
    have hlog : (mibSet s r).2.board.log = s.board.log :=
      (congrArg (·.board.log) (unset_mibSet s r) :)
    refine ⟨hlog ▸ hs.log, ?_⟩
    rw [hflight]
    exact hs.repeating.set (Bool.eq_false_of_not_eq_true hrunning) hradio datarate counter joined

theorem request {r : Request} (hs : UnderWay s₀ n s) (h : mac.request s r = some t)
    (hallowed : Unheard s (.request r)) : UnderWay s₀ n t := by
  have hbusy : s.busy = true := Bool.or_eq_true_iff.mpr hs.running_or_delayed
  rcases flight_request s₀ h hbusy with ⟨q, rfl⟩ | ⟨q, rfl⟩ | ⟨hlog, hflight⟩
  · obtain ⟨⟨status, u⟩, hmlme, rfl⟩ := Option.map_eq_some_iff.mp h
    exact hs.mlmeRequest hmlme hallowed
  · cases h
    exact hs.mibRequest hallowed
  · exact hs.of_flight hlog hflight

theorem returned {p : Primitive} (hs : UnderWay s₀ n s) (hinside : s.inside = some p) :
    UnderWay s₀ n (returnFrom s p) := by
  refine ⟨(silent_returnFrom s p).prefix_log hs.log, ?_⟩
  cases p with
  | MacMcpsConfirm => exact absurd hinside hs.repeating.inside
  | MacMlmeConfirm =>
    rw [flight_return_MlmeConfirm hs.log]
    exact hs.repeating.mlmeConfirmed
  | MacMcpsIndication =>
    rw [flight_return_McpsIndication]
    exact hs.repeating.indicationReturned hinside

theorem radio {e : RadioEvent} (hs : UnderWay s₀ n s) (hinside : s.inside = none)
    (h : onRadio s e = some t) (hallowed : Unheard s (.radio e)) : UnderWay s₀ n t := by
  have hclosed {rxContinuous : Bool} (h : onRadio s (.RxError rxContinuous) = some t ∨
      onRadio s (.RxTimeout rxContinuous) = some t) : UnderWay s₀ n t := by
    obtain ⟨hradio, hlog, timedOut, htimely, hflight⟩ :=
      flight_windowClosed s₀ h hs.repeating.deviceClass
    refine ⟨hlog ▸ hs.log, ?_⟩
    rw [hflight]
    exact hs.repeating.closed hradio (htimely hs.repeating.timedOut)
  cases e with
  | TxDone =>
    obtain ⟨hradio, hlog, timedOut, htimely, hflight⟩ :=
      flight_txDone h hs.log hs.repeating.deviceClass hs.repeating.windows
    refine ⟨hlog, ?_⟩
    rw [hflight]
    exact hs.repeating.landed hradio hinside (htimely hs.repeating.timedOut)
  | TxTimeout => exact hallowed.elim
  | RxDone frame rssi snr rxContinuous =>
    obtain ⟨htype, hjoined, hdelayed⟩ := hallowed
    obtain ⟨hradio, hlog, hflight⟩ :=
      flight_joinAccept s₀ h hs.repeating.deviceClass hjoined htype
    refine ⟨hlog ▸ hs.log, ?_⟩
    rw [hflight]
    exact hs.repeating.passedOver hradio hdelayed
  | RxError rxContinuous => exact hclosed (.inl h)
  | RxTimeout rxContinuous => exact hclosed (.inr h)

/-- Outside the primitives no request to join and no frame to indicate is left. -/
theorem nothing_left (hs : UnderWay s₀ n s) (hinside : s.inside = none) :
    s.joining = false ∧ s.LoRaMacFlags.McpsInd = false := by
  refine ⟨Bool.eq_false_iff.mpr fun hjoining => ?_,
    Bool.eq_false_iff.mpr fun hind => hs.repeating.mcpsInd hind hinside⟩
  have hmlme : s.inside = some .MacMlmeConfirm := hs.repeating.joining hjoining
  rw [hinside] at hmlme
  cases hmlme

theorem of_due {status : LoRaMacStatus_t} (h : ScheduleTx s = some (status, t))
    (hlog : s₀.board.log <+: s.board.log) (hdue : (s.flight s₀).Due n) : UnderWay s₀ n t := by
  obtain ⟨htlog, hsend | hwait⟩ := flight_ScheduleTx h hdue.maxDCycle hlog
  · exact ⟨htlog, hsend ▸ hdue.send _⟩
  · exact ⟨htlog, hwait ▸ hdue.wait _⟩

theorem txDelayed (hs : UnderWay s₀ n s) (hinside : s.inside = none)
    (hqueued : s.TxDelayedTimer.queued = true) (h : OnTxDelayedTimerEvent s = some t) :
    UnderWay s₀ n t := by
  have hdue := hs.repeating.undelayed (hs.repeating.delayTimer hqueued)
  obtain ⟨u, status, hschedule, ⟨-, rfl⟩ | ⟨hjoining, -⟩⟩ := OnTxDelayedTimerEvent_cases h
  · exact of_due hschedule hs.log hdue
  · exact absurd (hjoining.symm.trans (hs.nothing_left hinside).1) (by decide)

/-- Without a frame to indicate the end of the state check leaves the flight alone. -/
theorem confirmRequests (hs : UnderWay s₀ n s) (hind : s.LoRaMacFlags.McpsInd = false) :
    UnderWay s₀ n (mac.confirmRequests s) := by
  have hbusy : s.busy = true := Bool.or_eq_true_iff.mpr hs.running_or_delayed
  refine ⟨(silent_confirmRequests s).prefix_log hs.log, ?_⟩
  have hindicated : (s.flight s₀).indicated = s.flight s₀ := by
    unfold Flight.indicated
    rw [if_neg (show ¬(s.flight s₀).mcpsInd = true from Bool.eq_false_iff.mp hind)]
  rw [flight_confirmRequests hs.log hbusy, hindicated]
  exact hs.repeating

/-- The state check goes on with the frame, or it is done with and has been sent `n` times. -/
theorem stateCheck (hs : UnderWay s₀ n s) (hinside : s.inside = none)
    (h : OnMacStateCheckTimerEvent s = some t) :
    UnderWay s₀ n t ∨ t.busy = false ∧ (sentSince s₀ t).length = n.toNat := by
  obtain ⟨hjoining, hind⟩ := hs.nothing_left hinside
  obtain ⟨u, rfl, ⟨-, rfl⟩ | ⟨hdone, hcycle⟩⟩ := OnMacStateCheckTimerEvent_cases h
  · have hchecked : UnderWay s₀ n s.checked.unreceived := hs.of_flight rfl rfl
    exact .inl (hchecked.confirmRequests hind)
  · rcases completeCycle_unconfirmed hcycle hs.repeating.aborted
      (txTimeout_of_not_timedOut hs.repeating.timedOut) hs.repeating.ackRequested
      hs.repeating.retry hs.repeating.mcpsReq hind hjoining with ⟨hlast, rfl⟩ | ⟨hleft, status,
        hschedule⟩
    · refine .inr ?_
      obtain ⟨hcount, hdelayed⟩ := hs.repeating.done hdone hinside hlast
      generalize hended : Mac.unreceived _ = u
      have hulog : u.board.log = s.board.log := hended ▸ rfl
      have hview : u.flight s₀ = { s.flight s₀ with
          running := false, repetitions := 0, counter := u.UpLinkCounter } := hended ▸ rfl
      obtain ⟨inside, macDone, hflight⟩ := flight_confirmRequests_eq (hulog ▸ hs.log)
      rw [hview] at hflight
      have hrunning : (mac.confirmRequests u).LoRaMacState.MAC_TX_RUNNING = false :=
        congrArg Flight.running hflight
      have hwaiting : (mac.confirmRequests u).LoRaMacState.MAC_TX_DELAYED = false :=
        (congrArg Flight.delayed hflight).trans hdelayed
      have hsent := congrArg (fun f : Flight => f.sent.length) hflight
      refine ⟨Bool.or_eq_false_iff.mpr ⟨hrunning, hwaiting⟩, ?_⟩
      exact (List.length_map _).symm.trans (hsent.trans hcount)
    · have hdue := hs.repeating.again hdone hinside hleft
      have hu : UnderWay s₀ n u := of_due hschedule hs.log hdue
      have huind : u.LoRaMacFlags.McpsInd = false := by
        rw [(ScheduleTx_flags hschedule).1]
        exact hind
      have hunreceived : UnderWay s₀ n u.unreceived := hu.of_flight rfl rfl
      exact .inl (hunreceived.confirmRequests huind)

/-- What a step does with a frame that is on its way. -/
theorem step {e : Event} (hs : UnderWay s₀ n s) (h : mac.step s e = some t)
    (hallowed : Unheard s e) :
    UnderWay s₀ n t ∨ t.busy = false ∧ (sentSince s₀ t).length = n.toNat := by
  have hclass : s.LoRaMacDeviceClass = .CLASS_A := hs.repeating.deviceClass
  rcases step_cases h with ⟨r, rfl, hrequest⟩ | ⟨p, rfl, hinside, rfl⟩ | ⟨hinside, hhandle⟩
  · exact .inl (hs.request hrequest hallowed)
  · exact .inl (hs.returned hinside)
  · cases e with
    | request r => cases hhandle
    | upperReturn => cases hhandle
    | radio e => exact .inl (hs.radio hinside hhandle hallowed)
    | macStateCheckTimer => exact hs.stateCheck hinside (onTimer_eq_some.mp hhandle).2
    | txDelayedTimer =>
      obtain ⟨hqueued, hevent⟩ := onTimer_eq_some.mp hhandle
      exact .inl (hs.txDelayed hinside hqueued hevent)
    | rxWindowTimer1 =>
      cases (onTimer_eq_some.mp hhandle).2
      refine .inl ⟨?_, flight_window1 s₀ hclass ▸ hs.repeating.window1⟩
      have hlog : (OnRxWindow1TimerEvent s).board.log = s.board.log :=
        (congrArg (·.board.log) (light_OnRxWindow1TimerEvent s).quiet :)
      exact hlog ▸ hs.log
    | rxWindowTimer2 =>
      obtain ⟨hqueued, hevent⟩ := onTimer_eq_some.mp hhandle
      cases hevent
      refine .inl ⟨?_, flight_window2 s₀ s ▸ hs.repeating.window2_opened hqueued⟩
      have hlog : (OnRxWindow2TimerEvent s).board.log = s.board.log :=
        (congrArg (·.board.log) (light_OnRxWindow2TimerEvent s).quiet :)
      exact hlog ▸ hs.log
    | ackTimeoutTimer =>
      cases (onTimer_eq_some.mp hhandle).2
      have hlog : (OnAckTimeoutTimerEvent s).board.log = s.board.log :=
        (congrArg (·.board.log) (light_OnAckTimeoutTimerEvent s).quiet :)
      refine .inl ⟨hlog ▸ hs.log, ?_⟩
      rw [flight_ackTimeout s₀ hclass]
      exact { hs.repeating with
        retry := Bool.or_eq_false_iff.mpr ⟨hs.repeating.retry, hs.repeating.ackRequested⟩ }

end UnderWay

/-- Nothing is left of the frames before: the last transmission and its windows are over, what they
have set is cleared, and the request does not come from inside `MacMcpsConfirm`. A request from
inside another primitive finds flags that are cleared behind it. -/
structure Ready (s : Mac) : Prop where
  deviceClass : s.LoRaMacDeviceClass = .CLASS_A
  windows : s.IsRxWindowsEnabled = true
  repetitions : s.ChannelsNbRepCounter = 0
  retry : s.AckTimeoutRetry = false
  aborted : s.LoRaMacState.MAC_RX_ABORT = false
  timely : s.MlmeConfirm.Status ≠ LORAMAC_EVENT_INFO_STATUS_TX_TIMEOUT
  inside : s.inside ≠ some .MacMcpsConfirm
  joining : s.joining = true → s.inside = some .MacMlmeConfirm
  mcpsInd : s.LoRaMacFlags.McpsInd = true → s.inside ≠ none
  macDone : s.LoRaMacFlags.MacDone = true → s.inside = some .MacMlmeConfirm
  delayTimer : s.TxDelayedTimer.queued = false
  radio : s.board.status ≠ .RF_TX_RUNNING
  window2 : s.RxWindowTimer2.queued = false
  slot : s.board.status = .RF_RX_RUNNING → s.RxSlot = 0

theorem Ready.underWay {s t : Mac} {fPort : UInt8} {fBuffer : Option Mem} {fBufferSize : UInt16}
    {Datarate : Int} (hs : Ready s) (hrep : 0 < s.LoRaMacParams.ChannelsNbRep)
    (h : LoRaMacMcpsRequest s (.Unconfirmed fPort fBuffer fBufferSize Datarate) =
      some (LORAMAC_STATUS_OK, t)) : UnderWay s s.LoRaMacParams.ChannelsNbRep t := by
  obtain ⟨hbusy, hon, hlog, f, rfl, hout⟩ := flight_unconfirmed h
  have hrepetitions : 0 = s.ChannelsNbRepCounter.toNat := by
    rw [hs.repetitions]
    rfl
  have hdue : (s.takeOff false s.AckTimeoutRetriesCounter 1).Due s.LoRaMacParams.ChannelsNbRep :=
    { nbRep := rfl
      ackRequested := rfl
      retry := hs.retry
      mcpsReq := rfl
      aborted := hs.aborted
      maxDCycle := hon
      windows := hs.windows
      deviceClass := hs.deviceClass
      timedOut := decide_eq_false hs.timely
      inside := hs.inside
      joining := hs.joining
      mcpsInd := hs.mcpsInd
      delayTimer := hs.delayTimer
      delayed := (Bool.or_eq_false_iff.mp hbusy).2
      count := hrepetitions
      left := UInt8.lt_iff_toNat_lt.mp hrep
      radio := hs.radio
      macDone := hs.macDone
      window2 := hs.window2
      slot := hs.slot }
  rcases hout with hsend | hwait
  · exact ⟨hlog, hsend ▸ hdue.send _⟩
  · exact ⟨hlog, hwait ▸ hdue.wait _⟩

/-- The frame that was accepted in `s` has been given to the radio `n` times at most, and exactly
`n` times once the MAC is done with it. Until then its request is pending. -/
structure SentTimes (s t : Mac) (n : Nat) : Prop where
  most : (sentSince s t).length ≤ n
  all : t.busy = false → (sentSince s t).length = n
  pending : t.busy = true → t.LoRaMacFlags.McpsReq = true

theorem UnderWay.sentTimes {s₀ s : Mac} {n : UInt8} (hs : UnderWay s₀ n s) :
    SentTimes s₀ s n.toNat := by
  have hmost := hs.repeating.most
  refine ⟨(List.length_map _).symm.trans_le hmost, fun hfree => ?_, fun _ => hs.repeating.mcpsReq⟩
  exact absurd hs.running_or_delayed (busy_eq_false.mp hfree)

/-- While a frame that is not to be acknowledged is on its way and nothing is received that counts,
it is sent `ChannelsNbRep` times: at most so often in every state of the run, and exactly so often
once the MAC is done with it, in any interleaving of requests, radio events and timers. -/
theorem sentTimes_of_unheard {s t u : Mac} {fPort : UInt8} {fBuffer : Option Mem}
    {fBufferSize : UInt16} {Datarate : Int} {es : List Event} (hs : Ready s)
    (hrep : 0 < s.LoRaMacParams.ChannelsNbRep)
    (haccepted : LoRaMacMcpsRequest s (.Unconfirmed fPort fBuffer fBufferSize Datarate) =
      some (LORAMAC_STATUS_OK, t))
    (hrun : Runs (fun s e => s.busy = true ∧ Unheard s e) t es u) :
    SentTimes s u s.LoRaMacParams.ChannelsNbRep.toNat := by
  generalize hn : s.LoRaMacParams.ChannelsNbRep = n
  have hreached : UnderWay s n u ∨ u.busy = false ∧ (sentSince s u).length = n.toNat := by
    refine hrun.invariant (P := fun u =>
      UnderWay s n u ∨ u.busy = false ∧ (sentSince s u).length = n.toNat)
      (.inl (hn ▸ hs.underWay hrep haccepted)) ?_
    rintro v e w hv ⟨hbusy, hallowed⟩ hstep
    rcases hv with hv | ⟨hfree, -⟩
    · exact hv.step hstep hallowed
    · exact absurd (hbusy.symm.trans hfree) (by decide)
  rcases hreached with hu | ⟨hfree, hcount⟩
  · exact hu.sentTimes
  · refine ⟨hcount.le, fun _ => hcount, fun hbusy => ?_⟩
    exact absurd (hbusy.symm.trans hfree) (by decide)

instance (s : Mac) (r : MibSet) : Decidable (r.Neutral s) :=
  match r with
  | .MIB_DEVICE_CLASS Class => inferInstanceAs (Decidable (Class = s.LoRaMacDeviceClass))
  | .MIB_CHANNELS_NB_REP nbRep =>
    inferInstanceAs (Decidable (nbRep = s.LoRaMacParams.ChannelsNbRep))
  | .MIB_NETWORK_JOINED _ | .MIB_ADR _ | .MIB_NET_ID _ | .MIB_DEV_ADDR _ | .MIB_NWK_SKEY _
  | .MIB_APP_SKEY _ | .MIB_PUBLIC_NETWORK _ | .MIB_REPEATER_SUPPORT _ | .MIB_RX2_CHANNEL _
  | .MIB_CHANNELS_MASK _ | .MIB_MAX_RX_WINDOW_DURATION _ | .MIB_RECEIVE_DELAY_1 _
  | .MIB_RECEIVE_DELAY_2 _ | .MIB_JOIN_ACCEPT_DELAY_1 _ | .MIB_JOIN_ACCEPT_DELAY_2 _
  | .MIB_CHANNELS_DEFAULT_DATARATE _ | .MIB_CHANNELS_DATARATE _ | .MIB_CHANNELS_TX_POWER _
  | .MIB_UPLINK_COUNTER _ | .MIB_DOWNLINK_COUNTER _ | .MIB_CHANNELS | .MIB_MULTICAST_CHANNEL =>
    .isTrue trivial

instance (s : Mac) (e : Event) : Decidable (Unheard s e) :=
  match e with
  | .radio .TxTimeout => .isFalse id
  | .radio (.RxDone frame _ _ _) => inferInstanceAs (Decidable (frame.macHdr =
      FRAME_TYPE_JOIN_ACCEPT ∧ s.IsLoRaMacNetworkJoined = true ∧
      s.LoRaMacState.MAC_TX_DELAYED = false))
  | .request (.mlme (.Join ..)) => inferInstanceAs (Decidable
      (s.LoRaMacState.MAC_TX_RUNNING = true ∨ s.LoRaMacFlags.MlmeReq = false))
  | .request (.mib r) =>
    inferInstanceAs (Decidable (s.LoRaMacState.MAC_TX_RUNNING = true ∨ r.Neutral s))
  | .request (.mcps _) | .request (.mlme .LinkCheck) | .request (.channelAdd ..)
  | .request (.channelRemove _) | .request (.multicastLink _) | .request (.multicastUnlink _)
  | .upperReturn | .radio .TxDone | .radio (.RxError _) | .radio (.RxTimeout _)
  | .macStateCheckTimer | .txDelayedTimer | .rxWindowTimer1 | .rxWindowTimer2
  | .ackTimeoutTimer => .isTrue trivial

/-- A node with a session that sends each frame twice. -/
def Mac.twice : Mac :=
  { Mac.personalised Env.slow with
    LoRaMacParams := { defaultParams with ChannelsNbRep := 2 } }

theorem ready_twice : Ready Mac.twice := by
  constructor <;> decide

/-- A transmission behind which no window brings a frame. -/
def unansweredWindows : List Event :=
  [.radio .TxDone, .rxWindowTimer1, .radio (.RxTimeout false), .rxWindowTimer2,
    .radio (.RxTimeout false), .macStateCheckTimer]

theorem sentTimes_of_unheard_twice :
    ∃ t u, LoRaMacMcpsRequest Mac.twice (.Unconfirmed 1 none 0 5) = some (LORAMAC_STATUS_OK, t) ∧
      Runs (fun s e => s.busy = true ∧ Unheard s e) t (unansweredWindows ++ unansweredWindows) u ∧
        u.busy = false ∧ SentTimes Mac.twice u 2 := by
  obtain ⟨t, u, haccepted, hrun, hu⟩ := exists_run_of_accepted
    (fun s e => s.busy = true ∧ Unheard s e) Mac.twice (.Unconfirmed 1 none 0 5)
    (unansweredWindows ++ unansweredWindows) (fun u => !u.busy) (by decide +kernel)
  refine ⟨t, u, haccepted, hrun, ?_, ?_⟩
  · exact (Bool.not_eq_eq_eq_not).mp hu
  · exact sentTimes_of_unheard ready_twice (by decide) haccepted hrun

/-- A frame for the node, or for one of its groups, is received with a valid MIC. -/
def Addressed (s : Mac) : Event → Prop
  | .radio (.RxDone frame _ _ _) =>
    ∃ dest ∈ destination s frame.address, frame.micRx = dataMic s frame dest
  | _ => False

instance (s : Mac) (e : Event) : Decidable (Addressed s e) :=
  match e with
  | .radio (.RxDone frame _ _ _) => inferInstanceAs (Decidable
      (∃ dest ∈ destination s frame.address, frame.micRx = dataMic s frame dest))
  | .radio .TxDone | .radio .TxTimeout | .radio (.RxError _) | .radio (.RxTimeout _)
  | .request _ | .upperReturn | .macStateCheckTimer | .txDelayedTimer | .rxWindowTimer1
  | .rxWindowTimer2 | .ackTimeoutTimer => .isFalse id

/-- The radio gives up on a transmission. -/
def Event.isTxTimeout : Event → Bool
  | .radio .TxTimeout => true
  | _ => false

/-- A frame of another node in the first window ends the repetitions. -/
theorem not_sentTimes_foreignFrame :
    Ready Mac.twice ∧ ∃ t u,
      LoRaMacMcpsRequest Mac.twice (.Unconfirmed 1 none 0 5) = some (LORAMAC_STATUS_OK, t) ∧
      Runs (fun s e => s.LoRaMacDeviceClass = .CLASS_A ∧ s.LoRaMacParams.ChannelsNbRep = 2 ∧
          e.isTxTimeout = false ∧ ¬Addressed s e)
        t [.radio .TxDone, .rxWindowTimer1, .radio (.RxDone foreignFrame 0 0 false),
          .macStateCheckTimer] u ∧
      (sentSince Mac.twice u).length = 1 ∧ ¬SentTimes Mac.twice u 2 := by
  obtain ⟨t, u, haccepted, hrun, hu⟩ := exists_run_of_accepted
    (fun s e => s.LoRaMacDeviceClass = .CLASS_A ∧ s.LoRaMacParams.ChannelsNbRep = 2 ∧
      e.isTxTimeout = false ∧ ¬Addressed s e) Mac.twice (.Unconfirmed 1 none 0 5)
    [.radio .TxDone, .rxWindowTimer1, .radio (.RxDone foreignFrame 0 0 false), .macStateCheckTimer]
    (fun u => decide (u.busy = false ∧ (sentSince Mac.twice u).length = 1)) (by decide +kernel)
  obtain ⟨hfree, hcount⟩ := of_decide_eq_true hu
  refine ⟨ready_twice, t, u, haccepted, hrun, hcount, fun hsent => ?_⟩
  exact absurd (hcount.symm.trans (hsent.all hfree)) (by decide)

end loranode.mac
