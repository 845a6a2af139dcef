import LoRaNode.Mac.Advance
import LoRaNode.Mac.Overheard
import LoRaNode.Mac.Query

namespace loranode.mac

open LoRaMacStatus_t LoRaMacFrameType_t LoRaMacEventInfoStatus_t

/-- The data rate of the `k`-th trial: it is lowered behind every second one. -/
def trialRate (d : Int) (k : Nat) : Int := max (d - ((k - 1) / 2 : Nat)) 0

/-- The data rates of the first `k` trials. -/
def trialRates (d : Int) (k : Nat) : List Int := (List.range k).map fun i => trialRate d (i + 1)

theorem trialRates_succ (d : Int) (k : Nat) :
    trialRates d (k + 1) = trialRates d k ++ [trialRate d (k + 1)] := by
  unfold trialRates
  rw [List.range_succ, List.map_append]
  rfl

/-- How often the code tries a frame. The counter starts at one, and it is compared with
`MAX_ACK_RETRIES` before it is incremented. -/
def trialLimit (n : UInt8) : Nat := min (max n.toNat 1) (MAX_ACK_RETRIES.toNat + 1)

/-- Some enabled channel takes the data rate in force. -/
def Mac.Supported (s : Mac) : Prop := candidateChannels (ensureMask s) ≠ []

instance (s : Mac) : Decidable s.Supported := inferInstanceAs (Decidable (_ ≠ _))

theorem ScheduleTx_supported {s t : Mac} {status : LoRaMacStatus_t} (hs : s.Supported)
    (h : ScheduleTx s = some (status, t)) :
    t.LoRaMacParams.ChannelsDatarate = s.LoRaMacParams.ChannelsDatarate := by
  rw [ScheduleTx_datarate h, if_neg fun hfalls => hs hfalls.2.2]

/-- The state with the data rate that a request is to be sent with: the one that is given, or the
one that ADR comes to. -/
def Mac.wanted (s : Mac) (Datarate : Int) : Mac :=
  (adaptDatarate { s with LoRaMacParams := { s.LoRaMacParams with
    ChannelsDatarate := if s.AdrCtrlOn then s.LoRaMacParams.ChannelsDatarate else Datarate } }
    s.AdrCtrlOn).2

theorem nextDatarate_nonneg {s : Mac} (adrEnabled : Bool)
    (hs : 0 ≤ s.LoRaMacParams.ChannelsDatarate) : 0 ≤ nextDatarate s adrEnabled := by
  unfold nextDatarate AdrNextDr LORAMAC_TX_MIN_DATARATE
  dsimp only
  split
  · exact hs
  · split
    · exact hs
    · split
      · split
        · split <;> dsimp only <;> omega
        · split <;> exact hs
      · exact hs

theorem wanted_nonneg {s : Mac} {Datarate : Int} (hlast : 0 ≤ s.LoRaMacParams.ChannelsDatarate)
    (hgiven : s.AdrCtrlOn = true ∨ 0 ≤ Datarate) :
    0 ≤ (s.wanted Datarate).LoRaMacParams.ChannelsDatarate := by
  refine nextDatarate_nonneg s.AdrCtrlOn ?_
  dsimp only
  split
  · exact hlast
  · next hadr => exact hgiven.resolve_left hadr

theorem SameChoice.trans {s t u : Mac} (hst : SameChoice s t) (htu : SameChoice t u) :
    SameChoice s u :=
  ⟨htu.params.trans hst.params, htu.defaults.trans hst.defaults, htu.channels.trans hst.channels,
    htu.joined.trans hst.joined⟩

theorem SameChoice.supported {s t : Mac} (h : SameChoice s t) (hs : s.Supported) :
    t.Supported := by
  unfold Mac.Supported
  rw [h.ensureMask_eq]
  exact hs

theorem SameChoice.adapted {s t : Mac} (h : SameChoice s t)
    (hcounter : t.AdrAckCounter = s.AdrAckCounter) (adrEnabled : Bool) :
    SameChoice (adaptDatarate s adrEnabled).2 (adaptDatarate t adrEnabled).2 := by
  have hparams := adaptDatarate_params_congr h.params hcounter adrEnabled
  obtain ⟨counter, lookups, params, hs⟩ := adaptDatarate_snd s adrEnabled
  obtain ⟨counter', lookups', params', ht⟩ := adaptDatarate_snd t adrEnabled
  rw [hs, ht] at hparams ⊢
  exact ⟨hparams, h.defaults, h.channels, h.joined⟩

/-- A data frame that is built waits for a channel at the data rate wanted. -/
theorem sameChoice_PrepareFrame {s u : Mac} {fCtrl : LoRaMacFrameCtrl_t} {fPort : UInt8}
    {fBuffer : Option Mem} {fBufferSize : UInt16}
    (h : PrepareFrame s FRAME_TYPE_DATA_CONFIRMED_UP fCtrl fPort fBuffer fBufferSize =
      (LORAMAC_STATUS_OK, u)) : SameChoice (adaptDatarate s fCtrl.Adr).2 u := by
  have hview := unprepared_PrepareFrame s FRAME_TYPE_DATA_CONFIRMED_UP fCtrl fPort fBuffer
    fBufferSize
  rw [h] at hview
  obtain ⟨counter, lookups, params, hadapted⟩ := adaptDatarate_snd s fCtrl.Adr
  have hparams : u.LoRaMacParams = (adaptDatarate s fCtrl.Adr).2.LoRaMacParams := by
    unfold PrepareFrame prepareData at h
    dsimp only at h
    split at h
    · cases h
    · split at h
      · cases h
        refine (congrArg (·.2.1) (ranges_buildDataFrame _ _ _ _ _)).trans ?_
        exact adaptDatarate_params_congr (s := s)
          (t := startFrame s FRAME_TYPE_DATA_CONFIRMED_UP) rfl rfl fCtrl.Adr
      · cases h
  rw [hadapted] at hparams ⊢
  exact ⟨hparams, (congrArg Mac.LoRaMacParamsDefaults hview :), (congrArg Mac.Channels hview :),
    (congrArg Mac.IsLoRaMacNetworkJoined hview :)⟩

/-- A confirmed frame is scheduled with the data rate wanted, if some channel takes that. -/
theorem datarate_of_accepted {s t : Mac} {fPort : UInt8} {fBuffer : Option Mem}
    {fBufferSize : UInt16} {Datarate : Int} {NbTrials : UInt8}
    (h : LoRaMacMcpsRequest s (.Confirmed fPort fBuffer fBufferSize Datarate NbTrials) =
      some (LORAMAC_STATUS_OK, t)) (hsupported : (s.wanted Datarate).Supported) :
    (s.AdrCtrlOn = true ∨ 0 ≤ Datarate) ∧ t.LoRaMacParams.ChannelsDatarate =
      (s.wanted Datarate).LoRaMacParams.ChannelsDatarate := by
  unfold LoRaMacMcpsRequest at h
  split at h
  · cases h
  · rcases sendRequest_cases h with ⟨⟨hne, -⟩, -⟩ | ⟨hgiven, v, status, hsend, ⟨rfl, -, rfl⟩ | ⟨hne,
      hstatus, -⟩⟩
    · exact absurd rfl hne
    · refine ⟨hgiven.imp_right And.left, ?_⟩
      obtain ⟨status, u, hprepare, ⟨hne, hstatus, -⟩ | ⟨rfl, hschedule⟩⟩ := Send_cases hsend
      · exact absurd hstatus.symm hne
      · have hchoice : SameChoice (s.wanted Datarate) u := by
          refine SameChoice.trans ?_ (sameChoice_PrepareFrame hprepare)
          refine SameChoice.adapted ?_ ?_ _
          · exact ⟨rfl, rfl, rfl, rfl⟩
          · rfl
        refine (ScheduleTx_supported ?_ hschedule).trans ?_
        · refine SameChoice.supported (s := u) ?_ (hchoice.supported hsupported)
          exact ⟨rfl, rfl, rfl, rfl⟩
        · exact congrArg LoRaMacParams_t.ChannelsDatarate hchoice.params
    · exact absurd hstatus.symm hne

theorem flight_nextTrial (s₀ s : Mac) : (nextTrial s).flight s₀ = { s.flight s₀ with
    macDone := false
    trial := s.AckTimeoutRetriesCounter + 1
    datarate := (nextTrial s).LoRaMacParams.ChannelsDatarate } := by
  unfold nextTrial
  dsimp only
  split <;> rfl

theorem flight_checkAck (s₀ : Mac) {s : Mac} (hack : acknowledged s = true) :
    (checkAck s).flight s₀ = { s.flight s₀ with
      running := false, retry := false, ackRequested := false, counter := countUplink s } := by
  unfold checkAck
  rw [if_pos hack]
  rfl

theorem log_checkAck (s : Mac) : (checkAck s).board.log = s.board.log := by
  unfold checkAck
  split <;> rfl

theorem flight_giveUpTrials (s₀ s : Mac) : (giveUpTrials s).flight s₀ = { s.flight s₀ with
    running := false
    ackRequested := false
    ackReceived := false
    counter := countUplink s } := rfl

theorem nextTrial_datarate {s : Mac} {d : Int} {k : Nat} (hk : s.AckTimeoutRetriesCounter.toNat = k)
    (hfirst : 1 ≤ k) (hlast : k < 255) (h : s.LoRaMacParams.ChannelsDatarate = trialRate d k) :
    (s.AckTimeoutRetriesCounter + 1).toNat = k + 1 ∧
      (nextTrial s).LoRaMacParams.ChannelsDatarate = trialRate d (k + 1) := by
  have hcounter : (s.AckTimeoutRetriesCounter + 1).toNat = k + 1 := by
    rw [UInt8.toNat_add, hk, UInt8.toNat_one, Nat.mod_eq_of_lt (by omega)]
  have hodd : (s.AckTimeoutRetriesCounter + 1) % 2 = 1 ↔ (k + 1) % 2 = 1 := by
    rw [← UInt8.toNat_inj, UInt8.toNat_mod, hcounter]
    rfl
  refine ⟨hcounter, ?_⟩
  unfold nextTrial
  dsimp only
  unfold trialRate at h ⊢
  by_cases hparity : (k + 1) % 2 = 1
  · rw [if_pos (hodd.mpr hparity)]
    dsimp only
    unfold LORAMAC_TX_MIN_DATARATE
    omega
  · rw [if_neg (mt hodd.mp hparity)]
    omega

namespace Flight

/-- The frame is to be acknowledged in up to `n` trials, and the uplink counter still is `c`. A
request to join is left only while the primitives run that will clear it. -/
structure Confirmed (f : Flight) (n : UInt8) (c : UInt32) : Prop where
  ackRequested : f.ackRequested = true
  ackReceived : f.ackReceived = false
  trials : f.trials = n
  counter : f.counter = c
  first : 1 ≤ f.trial.toNat
  last : f.trial.toNat ≤ trialLimit n
  maxDCycle : f.maxDCycle ≠ 255
  windows : f.windows = true
  deviceClass : f.deviceClass = .CLASS_A
  joined : f.joined = true
  fixed : f.fixed = false
  timedOut : f.timedOut = false
  joining : f.joining = true → f.inside = some .MacMcpsConfirm ∨ f.inside = some .MacMlmeConfirm
  aborted : f.aborted = true → f.retry = true

/-- The frame is on its way. A frame that is delayed waits to be sent for its last trial. -/
structure Trying (f : Flight) (d : Int) (n : UInt8) (c : UInt32) : Prop extends
    f.Confirmed n c where
  busy : f.running = true ∨ f.delayed = true
  delayTimer : f.delayTimer = true → f.delayed = true
  sent : f.delayed = false → f.sent = trialRates d f.trial.toNat
  unsent : f.delayed = true → f.sent = trialRates d (f.trial.toNat - 1)
  datarate : f.datarate = trialRate d f.trial.toNat
  mcpsInd : f.mcpsInd = true → f.delayed = true → n = 0 → f.inside ≠ none

/-- The frame is about to be scheduled for its last trial. -/
structure TrialDue (f : Flight) (d : Int) (n : UInt8) (c : UInt32) : Prop extends
    f.Confirmed n c where
  delayTimer : f.delayTimer = false
  delayed : f.delayed = false
  sent : f.sent = trialRates d (f.trial.toNat - 1)
  datarate : f.datarate = trialRate d f.trial.toNat
  mcpsInd : f.mcpsInd = true → n = 0 → f.inside ≠ none

namespace TrialDue

variable {f : Flight} {d : Int} {n : UInt8} {c : UInt32}

theorem send (h : f.TrialDue d n c) : (f.send f.datarate).Trying d n c := by
  have hsent : f.sent ++ [f.datarate] = trialRates d f.trial.toNat := by
    have hsucc := trialRates_succ d (f.trial.toNat - 1)
    rw [Nat.sub_add_cancel h.first] at hsucc
    rw [h.sent, h.datarate, hsucc]
  exact { h.toConfirmed with
    timedOut := rfl
    busy := .inl rfl
    delayTimer := fun hqueued => absurd (hqueued.symm.trans h.delayTimer) (by decide)
    sent := fun _ => hsent
    unsent := fun hdelayed => absurd (hdelayed.symm.trans h.delayed) (by decide)
    datarate := h.datarate
    mcpsInd := fun hind _ => h.mcpsInd hind }

theorem wait (h : f.TrialDue d n c) : (f.wait f.datarate).Trying d n c :=
  { h.toConfirmed with
    busy := .inr rfl
    delayTimer := fun _ => rfl
    sent := fun hdelayed => by cases hdelayed
    unsent := fun _ => h.sent
    datarate := h.datarate
    mcpsInd := fun hind _ => h.mcpsInd hind }

end TrialDue

namespace Trying

variable {f : Flight} {d : Int} {n : UInt8} {c : UInt32}

/-- The wait for a band is over. -/
theorem undelayed (h : f.Trying d n c) (hdelayed : f.delayed = true) :
    TrialDue { f with delayTimer := false, delayed := false } d n c :=
  { h.toConfirmed with
    delayTimer := rfl
    delayed := rfl
    sent := h.unsent hdelayed
    datarate := h.datarate
    mcpsInd := fun hind => h.mcpsInd hind hdelayed }

/-- The radio has sent the frame, or a window has closed. -/
theorem settle (h : f.Trying d n c) (radio : RadioState_t) (window2 : Bool) (slot : UInt8)
    (macDone : Bool) (repetitions : UInt8) {timedOut : Bool} (htimely : timedOut = false) :
    Trying { f with
      radio := radio
      window2 := window2
      slot := slot
      macDone := macDone
      repetitions := repetitions
      timedOut := timedOut } d n c :=
  { h with timedOut := htimely }

/-- The acknowledgement is overdue. -/
theorem overdue (h : f.Trying d n c) :
    Trying { f with retry := f.retry || f.ackRequested } d n c :=
  { h with aborted := fun _ => by rw [h.ackRequested, Bool.or_true] }

/-- Without a reason to try again nothing has been refused. -/
theorem checked (h : f.Trying d n c) (hwaiting : f.retry = false ∨ f.delayed = true) {running : Bool}
    (hrunning : f.aborted = false → running = f.running) :
    Trying { f with running := running, aborted := false } d n c := by
  refine { h with
    aborted := fun hfalse => by cases hfalse
    busy := ?_ }
  rcases hwaiting with hretry | hdelayed
  · have haborted : f.aborted = false := Bool.eq_false_iff.mpr fun haborted =>
      absurd ((h.aborted haborted).symm.trans hretry) (by decide)
    rw [hrunning haborted]
    exact h.busy
  · exact .inr hdelayed

/-- The next trial is due. -/
theorem next (h : f.Trying d n c) (hdelayed : f.delayed = false) (hleft : f.trial < n)
    (hmost : f.trial ≤ MAX_ACK_RETRIES) (running : Bool) {datarate : Int}
    (hdatarate : datarate = trialRate d (f.trial.toNat + 1)) :
    TrialDue { f with
      running := running
      aborted := false
      retry := false
      macDone := false
      trial := f.trial + 1
      datarate := datarate } d n c := by
  rw [UInt8.lt_iff_toNat_lt] at hleft
  rw [UInt8.le_iff_toNat_le] at hmost
  have hbound := n.toNat_lt
  have hnext : (f.trial + 1).toNat = f.trial.toNat + 1 := by
    rw [UInt8.toNat_add, UInt8.toNat_one, Nat.mod_eq_of_lt (by omega)]
  exact { h.toConfirmed with
    first := hnext ▸ Nat.le_add_left 1 _
    last := by
      rw [hnext]
      unfold trialLimit
      omega
    aborted := fun hfalse => by cases hfalse
    delayTimer := Bool.eq_false_iff.mpr fun hqueued =>
      absurd ((h.delayTimer hqueued).symm.trans hdelayed) (by decide)
    delayed := hdelayed
    sent := by
      rw [hnext, Nat.add_sub_cancel]
      exact h.sent hdelayed
    datarate := hnext ▸ hdatarate
    mcpsInd := fun _ hzero => by
      rw [hzero, UInt8.toNat_zero] at hleft
      omega }

/-- No trial is left. -/
theorem sent_all (h : f.Trying d n c) (hdelayed : f.delayed = false)
    (hleft : ¬(f.trial < n ∧ f.trial ≤ MAX_ACK_RETRIES)) :
    f.sent = trialRates d (trialLimit n) := by
  have hfirst := h.first
  have hlast := h.last
  rw [UInt8.lt_iff_toNat_lt, UInt8.le_iff_toNat_le] at hleft
  rw [h.sent hdelayed]
  congr 1
  unfold trialLimit at hlast ⊢
  omega

/-- A frame that asks for no trial at all is done with when anything has been received. -/
theorem untried (h : f.Trying d n c) (hinside : f.inside = none) (hind : f.mcpsInd = true)
    (hover : n < f.trial) : f.delayed = false ∧ f.sent = trialRates d (trialLimit n) := by
  have hlast := h.last
  rw [UInt8.lt_iff_toNat_lt] at hover
  have hzero : n.toNat = 0 := by
    unfold trialLimit at hlast
    omega
  have hdelayed : f.delayed = false := Bool.eq_false_iff.mpr fun hdelayed =>
    h.mcpsInd hind hdelayed (UInt8.toNat_inj.mp hzero) hinside
  refine ⟨hdelayed, h.sent_all hdelayed fun hleft => ?_⟩
  rw [UInt8.lt_iff_toNat_lt] at hleft
  omega

/-- A primitive is called, or the state check ends. -/
theorem enter (h : f.Trying d n c) (macDone mcpsReq joining : Bool) {inside : Option Primitive}
    (hjoining : joining = true → inside = some .MacMlmeConfirm)
    (hind : f.mcpsInd = true → inside ≠ none) :
    Trying { f with
      inside := inside, macDone := macDone, mcpsReq := mcpsReq, joining := joining } d n c :=
  { h with
    joining := fun hjoins => .inr (hjoining hjoins)
    mcpsInd := fun h _ _ => hind h }

/-- `MacMcpsIndication` returns. -/
theorem indicationReturned (h : f.Trying d n c) (hinside : f.inside = some .MacMcpsIndication) :
    Trying { f with inside := none, mcpsInd := false } d n c :=
  { h with
    joining := fun hjoining => by
      rcases h.joining hjoining with hother | hother <;> rw [hinside] at hother <;> cases hother
    mcpsInd := fun hind => by cases hind }

/-- Something is received, and refused or taken without acknowledgement. -/
theorem heard (h : f.Trying d n c) (hreceived : f.delayed = false ∨ n ≠ 0) (radio : RadioState_t)
    (window2 : Bool) (slot : UInt8) (macDone mcpsInd : Bool) (repetitions : UInt8)
    {aborted ackReceived retry timedOut : Bool} (hack : ackReceived = false)
    (htimely : timedOut = false) (haborted : aborted = true → retry = true) :
    Trying { f with
      aborted := aborted
      radio := radio
      window2 := window2
      slot := slot
      macDone := macDone
      mcpsInd := mcpsInd
      repetitions := repetitions
      ackReceived := ackReceived
      retry := retry
      timedOut := timedOut } d n c :=
  { h with
    ackReceived := hack
    timedOut := htimely
    aborted := haborted
    mcpsInd := fun _ hdelayed hzero => by
      rcases hreceived with hnot | hsome
      · exact absurd (hdelayed.symm.trans hnot) (by decide)
      · exact absurd hzero hsome }

end Trying

end Flight

/-- The state check of a frame that is to be acknowledged, when the transmission has not timed out:
the wait is over, it goes on, the next trial is made, or none is left. -/
theorem completeCycle_confirmed {s t : Mac} (h : completeCycle s = some t)
    (htimely : txTimeout s = false) (hnode : s.NodeAckRequested = true) :
    (acknowledged s = true ∧ t = checkAck (s.ended s.McpsConfirm)) ∨
      ((s.AckTimeoutRetry = false ∨ s.LoRaMacState.MAC_TX_DELAYED = true) ∧
        t = s.ended s.McpsConfirm) ∨
      s.LoRaMacState.MAC_TX_DELAYED = false ∧
        ((trialsLeft s = true ∧ ∃ status, ScheduleTx (nextTrial { s.ended s.McpsConfirm with
            AckTimeoutRetry := false }) = some (status, t)) ∨
          trialsLeft s = false ∧
            t = giveUpTrials { s.ended s.McpsConfirm with AckTimeoutRetry := false }) := by
  obtain ⟨confirm, u, hconfirm, hu, hut⟩ := completeCycle_parts h
  rw [hconfirm htimely] at hu
  obtain rfl : u = s.ended s.McpsConfirm := by
    rcases hu with ⟨⟨hnot, -⟩, -⟩ | ⟨-, hu⟩
    · exact absurd (hnode.symm.trans hnot) (by decide)
    · exact hu
  by_cases hack : acknowledged s = true
  · have hdone : (checkAck (s.ended s.McpsConfirm)).AckTimeoutRetry = false := by
      unfold checkAck
      rw [if_pos (show acknowledged (s.ended s.McpsConfirm) = true from hack)]
    exact .inl ⟨hack, eq_of_checkAckTimeout hut hdone⟩
  · have hsame : checkAck (s.ended s.McpsConfirm) = s.ended s.McpsConfirm :=
      if_neg (show ¬acknowledged (s.ended s.McpsConfirm) = true from hack)
    rw [hsame] at hut
    rcases checkAckTimeout_cases hut with ⟨hwaiting, rfl⟩ | ⟨⟨-, hdelayed⟩, hout⟩
    · exact .inr (.inl ⟨hwaiting, rfl⟩)
    · exact .inr (.inr ⟨hdelayed, hout⟩)

/-- `MacMcpsConfirm` returns. -/
theorem flight_return_McpsConfirm {s₀ s : Mac} (hlog : s₀.board.log <+: s.board.log) :
    ∃ inside macDone, (s.joining = true → inside = some .MacMlmeConfirm) ∧
      (s.LoRaMacFlags.McpsInd = true → inside ≠ none) ∧
      (returnFrom s .MacMcpsConfirm).flight s₀ = { s.flight s₀ with
        inside := inside, macDone := macDone, mcpsReq := false } := by
  have hview : ∃ inside macDone, (s.joining = true → inside = some .MacMlmeConfirm) ∧
      (s.LoRaMacFlags.McpsInd = true → inside ≠ none) ∧
      (returnFrom s .MacMcpsConfirm).flight s₀ = { s.flight s₀ with
        sent := (sentSince s₀ (returnFrom s .MacMcpsConfirm)).map (·.Datarate)
        inside := inside
        macDone := macDone
        mcpsReq := false } := by
    unfold returnFrom confirmMlme
    dsimp only
    split
    · exact ⟨_, _, fun _ => rfl, fun _ => Option.some_ne_none _, rfl⟩
    · next hmlme =>
      have hjoining : s.joining ≠ true := by
        unfold Mac.joining
        rw [Bool.eq_false_of_not_eq_true hmlme, Bool.false_and]
        exact Bool.false_ne_true
      unfold endConfirms indicate
      split
      · exact ⟨_, _, fun h => absurd h hjoining, fun _ => Option.some_ne_none _, rfl⟩
      · next hind => exact ⟨_, _, fun h => absurd h hjoining, fun h => absurd h hind, rfl⟩
  rw [(silent_returnFrom s .MacMcpsConfirm).sentSince_eq hlog] at hview
  exact hview

/-- What an event must meet while a confirmed frame stays without answer. No transmission times out,
and what is received and taken has neither an acknowledgement nor MAC commands; nothing is received
while a frame waits for its band that asks for no trial. Requests to the MLME and the MIB come while
they are refused, and some channel takes the data rate of the trial that is to be made. -/
def Unanswered (s : Mac) : Event → Prop
  | .radio .TxTimeout => False
  | .radio (.RxDone frame _ _ _) =>
    (s.LoRaMacState.MAC_TX_DELAYED = false ∨ s.AckTimeoutRetries ≠ 0) ∧
      (Delivers s frame → frame.Bare)
  | .request (.mlme _) | .request (.mib _) => s.LoRaMacState.MAC_TX_RUNNING = true
  | .macStateCheckTimer => trialsLeft s = true → (nextTrial s).Supported
  | .txDelayedTimer => s.Supported
  | _ => True

/-- A confirmed frame that was accepted in `s₀` is on its way in `s`. -/
structure Attempt (s₀ : Mac) (d : Int) (n : UInt8) (s : Mac) : Prop where
  log : s₀.board.log <+: s.board.log
  trying : (s.flight s₀).Trying d n s₀.UpLinkCounter

/-- The confirmed frame that was accepted in `s₀` is given up in `s`. -/
structure Abandoned (s₀ : Mac) (d : Int) (n : UInt8) (s : Mac) : Prop where
  free : s.busy = false
  sent : (sentSince s₀ s).map (·.Datarate) = trialRates d (trialLimit n)
  ackRequested : s.NodeAckRequested = false
  counter : s.UpLinkCounter = s₀.UpLinkCounter + 1

namespace Attempt

variable {s₀ s t : Mac} {d : Int} {n : UInt8}

theorem of_flight (hs : Attempt s₀ d n s) (hlog : t.board.log = s.board.log)
    (hflight : t.flight s₀ = s.flight s₀) : Attempt s₀ d n t :=
  ⟨hlog ▸ hs.log, hflight ▸ hs.trying⟩

theorem busy (hs : Attempt s₀ d n s) : s.busy = true := Bool.or_eq_true_iff.mpr hs.trying.busy

theorem not_joining (hs : Attempt s₀ d n s) (hinside : s.inside = none) : s.joining = false := by
  refine Bool.eq_false_iff.mpr fun hjoining => ?_
  have hprimitive : s.inside = some .MacMcpsConfirm ∨ s.inside = some .MacMlmeConfirm :=
    hs.trying.joining hjoining
  rw [hinside] at hprimitive
  rcases hprimitive with hfalse | hfalse <;> cases hfalse

theorem request {r : Request} (hs : Attempt s₀ d n s) (h : mac.request s r = some t)
    (hallowed : Unanswered s (.request r)) : Attempt s₀ d n t := by
  rcases flight_request s₀ h hs.busy with ⟨q, rfl⟩ | ⟨q, rfl⟩ | ⟨hlog, hflight⟩
  · have hrefused : LoRaMacMlmeRequest s q = some (LORAMAC_STATUS_BUSY, s) := if_pos hallowed
    obtain ⟨x, hx, rfl⟩ := Option.map_eq_some_iff.mp h
    cases hrefused.symm.trans hx
    exact hs
  · have hrefused : LoRaMacMibSetRequestConfirm s q = (LORAMAC_STATUS_BUSY, s) := if_pos hallowed
    cases h
    rw [hrefused]
    exact hs
  · exact hs.of_flight hlog hflight

theorem returned {p : Primitive} (hs : Attempt s₀ d n s) (hinside : s.inside = some p) :
    Attempt s₀ d n (returnFrom s p) := by
  refine ⟨(silent_returnFrom s p).prefix_log hs.log, ?_⟩
  cases p with
  | MacMcpsConfirm =>
    obtain ⟨inside, macDone, hjoining, hind, hflight⟩ := flight_return_McpsConfirm hs.log
    rw [hflight]
    exact hs.trying.enter macDone false _ hjoining hind
  | MacMlmeConfirm =>
    rw [flight_return_MlmeConfirm hs.log]
    refine hs.trying.enter false _ false (fun hfalse => by cases hfalse) fun hind => ?_
    exact (if_pos hind).trans_ne (Option.some_ne_none _)
  | MacMcpsIndication =>
    rw [flight_return_McpsIndication]
    exact hs.trying.indicationReturned hinside

theorem radio {e : RadioEvent} (hs : Attempt s₀ d n s) (h : onRadio s e = some t)
    (hallowed : Unanswered s (.radio e)) : Attempt s₀ d n t := by
  have hclosed {rxContinuous : Bool} (h : onRadio s (.RxError rxContinuous) = some t ∨
      onRadio s (.RxTimeout rxContinuous) = some t) : Attempt s₀ d n t := by
    obtain ⟨-, hlog, timedOut, htimely, hflight⟩ := flight_windowClosed s₀ h hs.trying.deviceClass
    refine ⟨hlog ▸ hs.log, ?_⟩
    rw [hflight]
    exact hs.trying.settle _ _ _ _ _ (htimely hs.trying.timedOut)
  cases e with
  | TxDone =>
    obtain ⟨-, hlog, timedOut, htimely, hflight⟩ :=
      flight_txDone h hs.log hs.trying.deviceClass hs.trying.windows
    refine ⟨hlog, ?_⟩
    rw [hflight]
    exact hs.trying.settle _ _ _ _ _ (htimely hs.trying.timedOut)
  | TxTimeout => exact hallowed.elim
  | RxDone frame rssi snr rxContinuous =>
    obtain ⟨hreceived, hbare⟩ := hallowed
    obtain ⟨u, hu, hut⟩ := Option.bind_eq_some_iff.mp h
    obtain ⟨-, rfl⟩ := radioIrq_eq_some.mp hu
    have hjoined : (s.setStatus (rxStatus rxContinuous)).IsLoRaMacNetworkJoined = true :=
      hs.trying.joined
    have hheard := overheard_OnRadioRxDone hjoined hbare hut
    have hlog : t.board.log = s.board.log := (congrArg (·.board.log) hheard.unaccepted :)
    refine ⟨hlog ▸ hs.log, ?_⟩
    rw [hheard.flight s₀]
    refine hs.trying.heard ?_ _ _ _ _ _ _ ?_ ?_ ?_
    · exact hs.trying.trials ▸ hreceived
    · exact Bool.eq_false_iff.mpr fun hack => absurd
        ((hheard.ackReceived hack).symm.trans hs.trying.ackReceived) (by decide)
    · exact hheard.timely hs.trying.timedOut
    · intro haborted
      rcases hheard.aborted haborted with hold | hretry
      · exact hheard.retry (hs.trying.aborted hold)
      · exact hretry hs.trying.ackRequested
  | RxError rxContinuous => exact hclosed (.inl h)
  | RxTimeout rxContinuous => exact hclosed (.inr h)

theorem of_due {status : LoRaMacStatus_t} (h : ScheduleTx s = some (status, t))
    (hsupported : s.Supported) (hlog : s₀.board.log <+: s.board.log)
    (hdue : (s.flight s₀).TrialDue d n s₀.UpLinkCounter) : Attempt s₀ d n t := by
  have hout := flight_ScheduleTx h hdue.maxDCycle hlog
  rw [ScheduleTx_supported hsupported h] at hout
  obtain ⟨htlog, hsend | hwait⟩ := hout
  · exact ⟨htlog, hsend ▸ hdue.send⟩
  · exact ⟨htlog, hwait ▸ hdue.wait⟩

theorem txDelayed (hs : Attempt s₀ d n s) (hinside : s.inside = none)
    (hqueued : s.TxDelayedTimer.queued = true) (h : OnTxDelayedTimerEvent s = some t)
    (hsupported : s.Supported) : Attempt s₀ d n t := by
  have hdue := hs.trying.undelayed (hs.trying.delayTimer hqueued)
  obtain ⟨u, status, hschedule, ⟨-, rfl⟩ | ⟨hjoining, -⟩⟩ := OnTxDelayedTimerEvent_cases h
  · refine of_due hschedule ?_ hs.log hdue
    exact SameChoice.supported (s := s) ⟨rfl, rfl, rfl, rfl⟩ hsupported
  · exact absurd (hjoining.symm.trans (hs.not_joining hinside)) (by decide)

theorem confirmRequests (hs : Attempt s₀ d n s) (hinside : s.inside = none) :
    Attempt s₀ d n (mac.confirmRequests s) := by
  refine ⟨(silent_confirmRequests s).prefix_log hs.log, ?_⟩
  rw [flight_confirmRequests hs.log hs.busy]
  refine hs.trying.enter s.LoRaMacFlags.MacDone s.LoRaMacFlags.McpsReq s.joining
    (fun hjoining => ?_) fun hind => ?_
  · exact absurd (hjoining.symm.trans (hs.not_joining hinside)) (by decide)
  · exact (if_pos hind).trans_ne (Option.some_ne_none _)

/-- The end of the state check behind a frame that is given up. -/
theorem abandoned {v : Mac} (hs : Attempt s₀ d n s) (hlog : v.board.log = s.board.log)
    (hdelayed : s.LoRaMacState.MAC_TX_DELAYED = false)
    (hsent : (s.flight s₀).sent = trialRates d (trialLimit n)) {aborted retry ackReceived : Bool}
    (hflight : v.flight s₀ = { s.flight s₀ with
      running := false
      aborted := aborted
      retry := retry
      ackRequested := false
      ackReceived := ackReceived
      counter := countUplink s }) : Abandoned s₀ d n (mac.confirmRequests v.unreceived) := by
  have hfixed : s.IsUpLinkCounterFixed = false := hs.trying.fixed
  have hcounted : countUplink s = s₀.UpLinkCounter + 1 :=
    (countUplink_of_free hfixed).trans (congrArg (· + 1) hs.trying.counter)
  have hvlog : s₀.board.log <+: v.unreceived.board.log := hlog.symm ▸ hs.log
  obtain ⟨inside, macDone, hconfirm⟩ := flight_confirmRequests_eq hvlog
  have hview : v.unreceived.flight s₀ = v.flight s₀ := rfl
  rw [hview, hflight] at hconfirm
  refine ⟨Bool.or_eq_false_iff.mpr ⟨?_, ?_⟩, ?_, ?_, ?_⟩
  · exact congrArg Flight.running hconfirm
  · exact (congrArg Flight.delayed hconfirm).trans hdelayed
  · exact (congrArg Flight.sent hconfirm).trans hsent
  · exact congrArg Flight.ackRequested hconfirm
  · exact (congrArg Flight.counter hconfirm).trans hcounted

/-- A frame that asks for no trial is done with. -/
theorem acknowledge (hs : Attempt s₀ d n s) (hinside : s.inside = none)
    (hack : acknowledged s = true) :
    Abandoned s₀ d n (mac.confirmRequests (checkAck (s.ended s.McpsConfirm)).unreceived) := by
  have hflight := flight_checkAck s₀ (show acknowledged (s.ended s.McpsConfirm) = true from hack)
  have hlog : (checkAck (s.ended s.McpsConfirm)).board.log = s.board.log := log_checkAck _
  unfold acknowledged at hack
  rw [Bool.and_eq_true, Bool.or_eq_true, decide_eq_true_eq] at hack
  have hover : n < s.AckTimeoutRetriesCounter := by
    rw [← hs.trying.trials]
    refine hack.2.resolve_left fun hreceived => ?_
    exact absurd (hreceived.symm.trans hs.trying.ackReceived) (by decide)
  obtain ⟨hdelayed, hsent⟩ := hs.trying.untried hinside hack.1 hover
  exact hs.abandoned hlog hdelayed hsent hflight

/-- The wait for an acknowledgement goes on. -/
theorem waiting (hs : Attempt s₀ d n s) (htimely : txTimeout s = false)
    (hwaiting : s.AckTimeoutRetry = false ∨ s.LoRaMacState.MAC_TX_DELAYED = true) :
    Attempt s₀ d n (s.ended s.McpsConfirm) := by
  have hrunning (haborted : s.LoRaMacState.MAC_RX_ABORT = false) :
      s.stillRunning = s.LoRaMacState.MAC_TX_RUNNING := by
    unfold Mac.stillRunning
    rw [htimely, haborted, Bool.not_false, Bool.and_true, Bool.and_true]
  exact ⟨hs.log, hs.trying.checked hwaiting hrunning⟩

/-- The next trial is made. -/
theorem tryAgain {v : Mac} {status : LoRaMacStatus_t} (hs : Attempt s₀ d n s)
    (hdelayed : s.LoRaMacState.MAC_TX_DELAYED = false) (hleft : trialsLeft s = true)
    (hsupported : (nextTrial s).Supported)
    (hv : v = { s.ended s.McpsConfirm with AckTimeoutRetry := false })
    (h : ScheduleTx (nextTrial v) = some (status, t)) : Attempt s₀ d n t := by
  unfold trialsLeft at hleft
  rw [Bool.and_eq_true, decide_eq_true_eq, decide_eq_true_eq] at hleft
  have hview : v.flight s₀ = { s.flight s₀ with
      running := s.stillRunning, aborted := false, retry := false } := hv ▸ rfl
  have htrial : v.AckTimeoutRetriesCounter = s.AckTimeoutRetriesCounter :=
    congrArg Flight.trial hview
  have hmost : s.AckTimeoutRetriesCounter.toNat ≤ 8 := UInt8.le_iff_toNat_le.mp hleft.2
  obtain ⟨-, hrate⟩ := nextTrial_datarate (congrArg UInt8.toNat htrial) hs.trying.first
    (by omega) ((congrArg Flight.datarate hview).trans hs.trying.datarate)
  have hchoice : SameChoice (nextTrial s) (nextTrial v) := hv ▸ ⟨rfl, rfl, rfl, rfl⟩
  have hlog : (nextTrial v).board.log = s.board.log := hv ▸ rfl
  refine of_due h (hchoice.supported hsupported) (hlog.symm ▸ hs.log) ?_
  rw [flight_nextTrial, hview, htrial]
  exact hs.trying.next hdelayed (hs.trying.trials ▸ hleft.1) hleft.2 _ hrate

/-- No trial is left. -/
theorem giveUp (hs : Attempt s₀ d n s) (hdelayed : s.LoRaMacState.MAC_TX_DELAYED = false)
    (hleft : trialsLeft s = false) : Abandoned s₀ d n (mac.confirmRequests
      (giveUpTrials { s.ended s.McpsConfirm with AckTimeoutRetry := false }).unreceived) := by
  unfold trialsLeft at hleft
  rw [← Bool.not_eq_true, Bool.and_eq_true, decide_eq_true_eq, decide_eq_true_eq] at hleft
  refine hs.abandoned rfl hdelayed (hs.trying.sent_all hdelayed ?_) (flight_giveUpTrials s₀ _)
  exact hs.trying.trials ▸ hleft

theorem completeCycle (hs : Attempt s₀ d n s) (hinside : s.inside = none)
    (hsupported : trialsLeft s = true → (nextTrial s).Supported)
    (h : mac.completeCycle s = some t) : Attempt s₀ d n t ∧ t.inside = none ∨
      Abandoned s₀ d n (mac.confirmRequests t.unreceived) := by
  have htimely : txTimeout s = false := txTimeout_of_not_timedOut hs.trying.timedOut
  rcases completeCycle_confirmed h htimely hs.trying.ackRequested with ⟨hack, rfl⟩ |
    ⟨hwaiting, rfl⟩ | ⟨hdelayed, ⟨hleft, status, hschedule⟩ | ⟨hleft, rfl⟩⟩
  · exact .inr (hs.acknowledge hinside hack)
  · exact .inl ⟨hs.waiting htimely hwaiting, hinside⟩
  · have hsame : t.inside = s.inside := (congrArg Mac.inside (unscheduled_ScheduleTx hschedule) :)
    exact .inl ⟨hs.tryAgain hdelayed hleft (hsupported hleft) rfl hschedule, hsame.trans hinside⟩
  · exact .inr (hs.giveUp hdelayed hleft)

/-- The state check goes on with the frame, or gives it up. -/
theorem stateCheck (hs : Attempt s₀ d n s) (hinside : s.inside = none)
    (h : OnMacStateCheckTimerEvent s = some t)
    (hsupported : trialsLeft s = true → (nextTrial s).Supported) :
    Attempt s₀ d n t ∨ Abandoned s₀ d n t := by
  have hconfirm {u : Mac} (hu : Attempt s₀ d n u) (hinside : u.inside = none) :
      Attempt s₀ d n (mac.confirmRequests u.unreceived) := by
    have hunreceived : Attempt s₀ d n u.unreceived := hu.of_flight rfl rfl
    exact hunreceived.confirmRequests hinside
  have hchecked : Attempt s₀ d n s.checked := hs.of_flight rfl rfl
  obtain ⟨u, rfl, ⟨-, rfl⟩ | ⟨-, hcycle⟩⟩ := OnMacStateCheckTimerEvent_cases h
  · exact .inl (hconfirm hchecked hinside)
  · have hnext (hleft : trialsLeft s.checked = true) : (nextTrial s.checked).Supported :=
      SameChoice.supported (s := nextTrial s) ⟨rfl, rfl, rfl, rfl⟩ (hsupported hleft)
    rcases hchecked.completeCycle hinside hnext hcycle with ⟨hu, huinside⟩ | hover
    · exact .inl (hconfirm hu huinside)
    · exact .inr hover

theorem step {e : Event} (hs : Attempt s₀ d n s) (h : mac.step s e = some t)
    (hallowed : Unanswered s e) : Attempt s₀ d n t ∨ Abandoned s₀ d n t := by
  have hclass : s.LoRaMacDeviceClass = .CLASS_A := hs.trying.deviceClass
  rcases step_cases h with ⟨r, rfl, hrequest⟩ | ⟨p, rfl, hinside, rfl⟩ | ⟨hinside, hhandle⟩
  · exact .inl (hs.request hrequest hallowed)
  · exact .inl (hs.returned hinside)
  · cases e with
    | request r => cases hhandle
    | upperReturn => cases hhandle
    | radio e => exact .inl (hs.radio hhandle hallowed)
    | macStateCheckTimer => exact hs.stateCheck hinside (onTimer_eq_some.mp hhandle).2 hallowed
    | txDelayedTimer =>
      obtain ⟨hqueued, hevent⟩ := onTimer_eq_some.mp hhandle
      exact .inl (hs.txDelayed hinside hqueued hevent hallowed)
    | rxWindowTimer1 =>
      cases (onTimer_eq_some.mp hhandle).2
      have hlog : (OnRxWindow1TimerEvent s).board.log = s.board.log :=
        (congrArg (·.board.log) (light_OnRxWindow1TimerEvent s).quiet :)
      refine .inl ⟨hlog ▸ hs.log, ?_⟩
      rw [flight_window1 s₀ hclass]
      exact hs.trying.settle _ _ _ _ _ hs.trying.timedOut
    | rxWindowTimer2 =>
      cases (onTimer_eq_some.mp hhandle).2
      have hlog : (OnRxWindow2TimerEvent s).board.log = s.board.log :=
        (congrArg (·.board.log) (light_OnRxWindow2TimerEvent s).quiet :)
      refine .inl ⟨hlog ▸ hs.log, ?_⟩
      rw [flight_window2]
      exact hs.trying.settle _ _ _ _ _ hs.trying.timedOut
    | ackTimeoutTimer =>
      cases (onTimer_eq_some.mp hhandle).2
      have hlog : (OnAckTimeoutTimerEvent s).board.log = s.board.log :=
        (congrArg (·.board.log) (light_OnAckTimeoutTimerEvent s).quiet :)
      refine .inl ⟨hlog ▸ hs.log, ?_⟩
      rw [flight_ackTimeout s₀ hclass]
      exact hs.trying.overdue

end Attempt

/-- Nothing is left of the frames before that could end a confirmed frame early. A request from
inside a primitive finds flags that are cleared behind it. -/
structure Cleared (s : Mac) : Prop where
  deviceClass : s.LoRaMacDeviceClass = .CLASS_A
  windows : s.IsRxWindowsEnabled = true
  fixed : s.IsUpLinkCounterFixed = false
  datarate : 0 ≤ s.LoRaMacParams.ChannelsDatarate
  aborted : s.LoRaMacState.MAC_RX_ABORT = false
  timely : s.MlmeConfirm.Status ≠ LORAMAC_EVENT_INFO_STATUS_TX_TIMEOUT
  joining : s.joining = true → s.inside = some .MacMcpsConfirm ∨ s.inside = some .MacMlmeConfirm
  mcpsInd : s.LoRaMacFlags.McpsInd = true → s.inside ≠ none
  delayTimer : s.TxDelayedTimer.queued = false

theorem Cleared.attempt {s t : Mac} {fPort : UInt8} {fBuffer : Option Mem} {fBufferSize : UInt16}
    {Datarate : Int} {NbTrials : UInt8} (hs : Cleared s)
    (hsupported : (s.wanted Datarate).Supported)
    (h : LoRaMacMcpsRequest s (.Confirmed fPort fBuffer fBufferSize Datarate NbTrials) =
      some (LORAMAC_STATUS_OK, t)) :
    Attempt s (s.wanted Datarate).LoRaMacParams.ChannelsDatarate NbTrials t := by
  obtain ⟨hgiven, hrate⟩ := datarate_of_accepted h hsupported
  have hpos := wanted_nonneg hs.datarate hgiven
  obtain ⟨hbusy, hjoined, hon, hlog, f, rfl, hout⟩ := flight_confirmed h
  rw [hrate] at hout
  generalize (s.wanted Datarate).LoRaMacParams.ChannelsDatarate = d at hout hpos ⊢
  have hrate : d = trialRate d 1 := by
    unfold trialRate
    omega
  have hfirst : 1 ≤ trialLimit NbTrials := le_min (le_max_right _ _) (by decide)
  have hdue : Flight.TrialDue { s.takeOff true 1 NbTrials with datarate := d } d NbTrials
      s.UpLinkCounter :=
    { ackRequested := rfl
      ackReceived := rfl
      trials := rfl
      counter := rfl
      first := Nat.le_refl 1
      last := hfirst
      maxDCycle := hon
      windows := hs.windows
      deviceClass := hs.deviceClass
      joined := hjoined
      fixed := hs.fixed
      timedOut := decide_eq_false hs.timely
      joining := hs.joining
      aborted := fun haborted => absurd (haborted.symm.trans hs.aborted) (by decide)
      delayTimer := hs.delayTimer
      delayed := (Bool.or_eq_false_iff.mp hbusy).2
      sent := rfl
      datarate := hrate
      mcpsInd := fun hind _ => hs.mcpsInd hind }
  rcases hout with hsend | hwait
  · exact ⟨hlog, hsend ▸ hdue.send⟩
  · exact ⟨hlog, hwait ▸ hdue.wait⟩

/-- The confirmed frame that was accepted in `s` has been given to the radio in at most `n` trials
of the schedule, and in all of them once the MAC is done with it. Only then it waits no longer for
an acknowledgement, and counts. -/
structure SentTrials (s : Mac) (d : Int) (n : Nat) (t : Mac) : Prop where
  part : ∃ k ≤ n, (sentSince s t).map (·.Datarate) = trialRates d k
  all : t.busy = false → (sentSince s t).map (·.Datarate) = trialRates d n ∧
    t.NodeAckRequested = false ∧ t.UpLinkCounter = s.UpLinkCounter + 1
  pending : t.busy = true → t.NodeAckRequested = true ∧ t.UpLinkCounter = s.UpLinkCounter

theorem Attempt.sentTrials {s₀ s : Mac} {d : Int} {n : UInt8} (hs : Attempt s₀ d n s) :
    SentTrials s₀ d (trialLimit n) s := by
  have hlast := hs.trying.last
  refine ⟨?_, fun hfree => ?_, fun _ => ⟨hs.trying.ackRequested, hs.trying.counter⟩⟩
  · cases hdelayed : s.LoRaMacState.MAC_TX_DELAYED with
    | false => exact ⟨_, hlast, hs.trying.sent hdelayed⟩
    | true => exact ⟨_, (Nat.sub_le _ 1).trans hlast, hs.trying.unsent hdelayed⟩
  · exact absurd (hs.busy.symm.trans hfree) (by decide)

theorem Abandoned.sentTrials {s₀ s : Mac} {d : Int} {n : UInt8} (hs : Abandoned s₀ d n s) :
    SentTrials s₀ d (trialLimit n) s := by
  refine ⟨⟨_, Nat.le_refl _, hs.sent⟩, fun _ => ⟨hs.sent, hs.ackRequested, hs.counter⟩,
    fun hbusy => ?_⟩
  exact absurd (hbusy.symm.trans hs.free) (by decide)

section Run

variable {s t u : Mac} {fPort : UInt8} {fBuffer : Option Mem} {fBufferSize : UInt16}
  {Datarate : Int} {NbTrials : UInt8} {es : List Event}

/-- While a confirmed frame stays without answer, it is sent in as many trials as the code makes. -/
theorem sentTrials_trialLimit (hs : Cleared s) (hsupported : (s.wanted Datarate).Supported)
    (haccepted : LoRaMacMcpsRequest s (.Confirmed fPort fBuffer fBufferSize Datarate NbTrials) =
      some (LORAMAC_STATUS_OK, t))
    (hrun : Runs (fun s e => s.busy = true ∧ Unanswered s e) t es u) :
    SentTrials s (s.wanted Datarate).LoRaMacParams.ChannelsDatarate (trialLimit NbTrials) u := by
  have hstart := hs.attempt hsupported haccepted
  generalize (s.wanted Datarate).LoRaMacParams.ChannelsDatarate = d at hstart ⊢
  have hreached : Attempt s d NbTrials u ∨ Abandoned s d NbTrials u := by
    refine hrun.invariant (P := fun u => Attempt s d NbTrials u ∨ Abandoned s d NbTrials u)
      (.inl hstart) ?_
    rintro v e w hv ⟨hbusy, hallowed⟩ hstep
    rcases hv with hv | hover
    · exact hv.step hstep hallowed
    · exact absurd (hbusy.symm.trans hover.free) (by decide)
  rcases hreached with hu | hu
  · exact hu.sentTrials
  · exact hu.sentTrials

/-- With at most `MAX_ACK_RETRIES` trials the frame is sent as often as it is documented, at the
documented data rates, and then counts as one uplink that waits no longer for an acknowledgement.
This holds in every state of the run, for any mix of windows that stay empty and receptions that are
refused. -/
theorem sentTrials_of_unanswered (hs : Cleared s) (hsupported : (s.wanted Datarate).Supported)
    (hmost : NbTrials ≤ MAX_ACK_RETRIES)
    (haccepted : LoRaMacMcpsRequest s (.Confirmed fPort fBuffer fBufferSize Datarate NbTrials) =
      some (LORAMAC_STATUS_OK, t))
    (hrun : Runs (fun s e => s.busy = true ∧ Unanswered s e) t es u) :
    SentTrials s (s.wanted Datarate).LoRaMacParams.ChannelsDatarate
      (min (max NbTrials.toNat 1) MAX_ACK_RETRIES.toNat) u := by
  have hlimit : trialLimit NbTrials = min (max NbTrials.toNat 1) MAX_ACK_RETRIES.toNat := by
    have hmax : MAX_ACK_RETRIES.toNat = 8 := rfl
    rw [UInt8.le_iff_toNat_le] at hmost
    unfold trialLimit
    omega
  rw [← hlimit]
  exact sentTrials_trialLimit hs hsupported haccepted hrun

end Run

instance (s : Mac) (e : Event) : Decidable (Unanswered s e) :=
  match e with
  | .radio .TxTimeout => .isFalse id
  | .radio (.RxDone frame _ _ _) => inferInstanceAs (Decidable
      ((s.LoRaMacState.MAC_TX_DELAYED = false ∨ s.AckTimeoutRetries ≠ 0) ∧
        (Delivers s frame → frame.Bare)))
  | .request (.mlme _) | .request (.mib _) =>
    inferInstanceAs (Decidable (s.LoRaMacState.MAC_TX_RUNNING = true))
  | .macStateCheckTimer =>
    inferInstanceAs (Decidable (trialsLeft s = true → (nextTrial s).Supported))
  | .txDelayedTimer => inferInstanceAs (Decidable s.Supported)
  | .request (.mcps _) | .request (.channelAdd ..) | .request (.channelRemove _)
  | .request (.multicastLink _) | .request (.multicastUnlink _) | .upperReturn | .radio .TxDone
  | .radio (.RxError _) | .radio (.RxTimeout _) | .rxWindowTimer1 | .rxWindowTimer2
  | .ackTimeoutTimer => .isTrue trivial

theorem cleared_personalised : Cleared (Mac.personalised Env.slow) := by
  constructor <;> decide

/-- A trial that ends with the timeout of the acknowledgement. -/
def unansweredTrial : List Event :=
  [.radio .TxDone, .rxWindowTimer1, .radio (.RxTimeout false), .rxWindowTimer2,
    .radio (.RxTimeout false), .ackTimeoutTimer, .macStateCheckTimer]

/-- A trial that ends with the frame of another node in the first window. -/
def refusedTrial : List Event :=
  [.radio .TxDone, .rxWindowTimer1, .radio (.RxDone foreignFrame 0 0 false), .macStateCheckTimer,
    .upperReturn]

theorem sentTrials_of_unanswered_three :
    ∃ t u, LoRaMacMcpsRequest (Mac.personalised Env.slow) (.Confirmed 1 none 0 5 3) =
        some (LORAMAC_STATUS_OK, t) ∧
      Runs (fun s e => s.busy = true ∧ Unanswered s e) t
        (unansweredTrial ++ refusedTrial ++ unansweredTrial) u ∧
      u.busy = false ∧ (sentSince (Mac.personalised Env.slow) u).map (·.Datarate) = [5, 5, 4] := by
  obtain ⟨t, u, haccepted, hrun, hu⟩ := exists_run_of_accepted
    (fun s e => s.busy = true ∧ Unanswered s e) (Mac.personalised Env.slow) (.Confirmed 1 none 0 5 3)
    (unansweredTrial ++ refusedTrial ++ unansweredTrial) (fun u => !u.busy) (by decide +kernel)
  have hfree : u.busy = false := (Bool.not_eq_eq_eq_not).mp hu
  have hsent := sentTrials_of_unanswered cleared_personalised (by decide +kernel) (by decide)
    haccepted hrun
  refine ⟨t, u, haccepted, hrun, hfree, (hsent.all hfree).1.trans ?_⟩
  decide +kernel

/-- With nine trials asked for the frame is sent nine times. -/
theorem not_sentTrials_nine :
    Cleared (Mac.personalised Env.slow) ∧ ((Mac.personalised Env.slow).wanted 5).Supported ∧
      ∃ t u, LoRaMacMcpsRequest (Mac.personalised Env.slow) (.Confirmed 1 none 0 5 9) =
          some (LORAMAC_STATUS_OK, t) ∧
        Runs (fun s e => s.busy = true ∧ Unanswered s e) t
          (List.replicate 9 unansweredTrial).flatten u ∧
        (sentSince (Mac.personalised Env.slow) u).length = 9 ∧
        ¬SentTrials (Mac.personalised Env.slow)
          ((Mac.personalised Env.slow).wanted 5).LoRaMacParams.ChannelsDatarate
          (min (max 9 1) MAX_ACK_RETRIES.toNat) u := by
  obtain ⟨t, u, haccepted, hrun, hu⟩ := exists_run_of_accepted
    (fun s e => s.busy = true ∧ Unanswered s e) (Mac.personalised Env.slow) (.Confirmed 1 none 0 5 9)
    (List.replicate 9 unansweredTrial).flatten
    (fun u => decide ((sentSince (Mac.personalised Env.slow) u).length = 9)) (by decide +kernel)
  have hcount := of_decide_eq_true hu
  refine ⟨cleared_personalised, by decide +kernel, t, u, haccepted, hrun, hcount, fun hsent => ?_⟩
  obtain ⟨k, hk, hrates⟩ := hsent.part
  have hlength := congrArg List.length hrates
  have hmost : k ≤ 8 := hk
  unfold trialRates at hlength
  rw [List.length_map, List.length_map, List.length_range] at hlength
  omega

end loranode.mac
