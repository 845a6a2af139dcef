import LoRaNode.Mac.Config

namespace loranode.mac

open LoRaMacStatus_t LoRaMacFrameType_t

/-- Parameters that the tables of EU868 have entries for. -/
structure InRange (p : LoRaMacParams_t) : Prop where
  ChannelsDatarate : 0 ≤ p.ChannelsDatarate ∧ p.ChannelsDatarate ≤ 7
  Rx2Channel : p.Rx2Channel.Datarate ≤ 7
  ChannelsTxPower : 0 ≤ p.ChannelsTxPower ∧ p.ChannelsTxPower ≤ 5
  Rx1DrOffset : p.Rx1DrOffset ≤ 5
  ChannelsNbRep : 1 ≤ p.ChannelsNbRep ∧ p.ChannelsNbRep ≤ 15

instance (p : LoRaMacParams_t) : Decidable (InRange p) :=
  decidable_of_iff ((0 ≤ p.ChannelsDatarate ∧ p.ChannelsDatarate ≤ 7) ∧
      p.Rx2Channel.Datarate ≤ 7 ∧ (0 ≤ p.ChannelsTxPower ∧ p.ChannelsTxPower ≤ 5) ∧
      p.Rx1DrOffset ≤ 5 ∧ 1 ≤ p.ChannelsNbRep ∧ p.ChannelsNbRep ≤ 15)
    ⟨fun ⟨hdatarate, hrx2, hpower, hoffset, hrep⟩ => ⟨hdatarate, hrx2, hpower, hoffset, hrep⟩,
      fun h => ⟨h.1, h.2, h.3, h.4, h.5⟩⟩

/-- The index lies in the table that it is used for. -/
def InTable (lookup : Int × Nat) : Prop := 0 ≤ lookup.1 ∧ lookup.1 < lookup.2

instance : DecidablePred InTable := fun _ => inferInstanceAs (Decidable (_ ∧ _))

/-- The parameters and their defaults are in range, and so was every look at a table. -/
structure Ranged (c : Config) : Prop where
  params : InRange c.LoRaMacParams
  defaults : InRange c.LoRaMacParamsDefaults
  lookups : ∀ lookup ∈ c.lookups, InTable lookup

theorem ranged_boot (env : Env) : Ranged (Mac.boot env).config := by
  have hdefaults : InRange defaultParams := by decide
  exact ⟨hdefaults, hdefaults, fun _ h => absurd h List.not_mem_nil⟩

theorem InRange.setDatarate {p : LoRaMacParams_t} (h : InRange p) {datarate : Int}
    (hmin : 0 ≤ datarate) (hmax : datarate ≤ 7) :
    InRange { p with ChannelsDatarate := datarate } :=
  ⟨⟨hmin, hmax⟩, h.Rx2Channel, h.ChannelsTxPower, h.Rx1DrOffset, h.ChannelsNbRep⟩

theorem InRange.enableDefaultChannels {p : LoRaMacParams_t} (h : InRange p) :
    InRange (enableDefaultChannels p) :=
  ⟨h.ChannelsDatarate, h.Rx2Channel, h.ChannelsTxPower, h.Rx1DrOffset, h.ChannelsNbRep⟩

theorem length_maxPayloads (s : Mac) : (maxPayloads s).length = 8 := by
  unfold maxPayloads
  split <;> rfl

/-- A data rate in range is in the table of the data rates, and in both tables of the
payloads. -/
theorem inTable_datarate {s : Mac} {datarate : Int} (hmin : 0 ≤ datarate) (hmax : datarate ≤ 7) :
    InTable (datarate, Datarates.length) ∧ InTable (datarate, (maxPayloads s).length) := by
  have hlength : Datarates.length = 8 := rfl
  unfold InTable
  rw [length_maxPayloads, hlength]
  dsimp only
  omega

theorem inTable_windowLookups {s : Mac} (h : InRange s.LoRaMacParams) :
    ∀ lookup ∈ windowLookups s, InTable lookup := by
  obtain ⟨hmin, hmax⟩ := h.ChannelsDatarate
  have hrx1 : 0 ≤ rx1Datarate s ∧ rx1Datarate s ≤ 7 := by
    unfold rx1Datarate
    omega
  have hrx2 : 0 ≤ rx2Datarate s ∧ rx2Datarate s ≤ 7 := by
    have hdatarate := UInt8.le_iff_toNat_le.mp h.Rx2Channel
    have hsigned : rx2Datarate s = s.LoRaMacParams.Rx2Channel.Datarate.toNat :=
      BitVec.toInt_eq_toNat_of_lt (by
        change 2 * s.LoRaMacParams.Rx2Channel.Datarate.toNat < 256
        have hseven : (7 : UInt8).toNat = 7 := rfl
        omega)
    rw [hsigned]
    exact ⟨Int.natCast_nonneg _, Int.ofNat_le.mpr hdatarate⟩
  intro lookup hmem
  simp only [windowLookups, List.mem_cons, List.not_mem_nil, or_false] at hmem
  rcases hmem with rfl | rfl | rfl | rfl
  · exact (inTable_datarate (s := s) hrx1.1 hrx1.2).1
  · exact (inTable_datarate hrx1.1 hrx1.2).2
  · exact (inTable_datarate (s := s) hrx2.1 hrx2.2).1
  · exact (inTable_datarate hrx2.1 hrx2.2).2

theorem ranged_AddMacCommand {s : Mac} (cmd : LoRaMacMoteCmd_t) (p1 p2 : UInt8)
    (hs : Ranged s.config) : Ranged (AddMacCommand s cmd p1 p2).2.config := by
  unfold AddMacCommand
  dsimp only
  split
  · exact ⟨hs.params, hs.defaults, hs.lookups⟩
  · exact hs

theorem ranged_LoRaMacChannelAdd {s : Mac} (id : UInt8) (params : ChannelParams_t)
    (hs : Ranged s.config) : Ranged (LoRaMacChannelAdd s id params).2.config := by
  have hparams := hs.params
  unfold LoRaMacChannelAdd
  split
  · exact hs
  · split
    · exact hs
    · split
      · exact hs
      · exact hs
      · exact hs
      · exact ⟨⟨hparams.1, hparams.2, hparams.3, hparams.4, hparams.5⟩, hs.defaults, hs.lookups⟩

theorem ranged_LoRaMacChannelRemove {s : Mac} (id : UInt8) (hs : Ranged s.config) :
    Ranged (LoRaMacChannelRemove s id).2.config := by
  have hparams := hs.params
  unfold LoRaMacChannelRemove
  split
  · exact hs
  · split
    · exact hs
    · exact ⟨⟨hparams.1, hparams.2, hparams.3, hparams.4, hparams.5⟩, hs.defaults, hs.lookups⟩

/-- What `Ranged` is about. -/
def Config.ranges (c : Config) : List (Int × Nat) × LoRaMacParams_t × LoRaMacParams_t :=
  (c.lookups, c.LoRaMacParams, c.LoRaMacParamsDefaults)

theorem Ranged.congr {c d : Config} (hc : Ranged c) (h : d.ranges = c.ranges) : Ranged d := by
  obtain ⟨hlookups, hparams, hdefaults⟩ : d.lookups = c.lookups ∧
      d.LoRaMacParams = c.LoRaMacParams ∧ d.LoRaMacParamsDefaults = c.LoRaMacParamsDefaults := by
    unfold Config.ranges at h
    simpa only [Prod.mk.injEq] using h
  refine ⟨?_, ?_, ?_⟩
  · rw [hparams]
    exact hc.params
  · rw [hdefaults]
    exact hc.defaults
  · rw [hlookups]
    exact hc.lookups

theorem ranges_buildDataFrame (s : Mac) (fCtrl : LoRaMacFrameCtrl_t) (fPort : UInt8)
    (fBuffer : Option Mem) (fBufferSize : UInt16) :
    (buildDataFrame s fCtrl fPort fBuffer fBufferSize).config.ranges = s.config.ranges := by
  have hcommands (s : Mac) (fCtrl : LoRaMacFrameCtrl_t) (payloadSize : UInt8) :
      (placeMacCommands s fCtrl fPort fBuffer payloadSize).2.config.ranges = s.config.ranges := by
    unfold placeMacCommands
    split
    · split <;> rfl
    · split <;> rfl
  have hpayload (s : Mac) (plan : FramePlan) :
      (placePayload s plan).2.config.ranges = s.config.ranges := by
    unfold placePayload
    split
    · rfl
    · split <;> rfl
  have hretire (s : Mac) : (retireMacCommands s).config.ranges = s.config.ranges := by
    unfold retireMacCommands
    rfl
  unfold buildDataFrame
  dsimp only
  change (placePayload _ _).2.config.ranges = _
  rw [hpayload, hretire, hcommands]
  rfl

theorem datarate_AdrNextDr {s : Mac} (adrEnabled updateChannelMask : Bool)
    (hs : InRange s.LoRaMacParams) :
    (0 ≤ (AdrNextDr s adrEnabled updateChannelMask).2.1 ∧
      (AdrNextDr s adrEnabled updateChannelMask).2.1 ≤ 7) ∧
    InRange (AdrNextDr s adrEnabled updateChannelMask).2.2.LoRaMacParams := by
  have hdatarate := hs.ChannelsDatarate
  have hlower (h : LORAMAC_TX_MIN_DATARATE < s.LoRaMacParams.ChannelsDatarate) :
      0 ≤ s.LoRaMacParams.ChannelsDatarate - 1 ∧ s.LoRaMacParams.ChannelsDatarate - 1 ≤ 7 := by
    unfold LORAMAC_TX_MIN_DATARATE at h
    omega
  unfold AdrNextDr
  dsimp only
  split
  · exact ⟨hdatarate, hs⟩
  · split
    · exact ⟨hdatarate, hs⟩
    · split
      · split
        · next hmin =>
          split
          · exact ⟨hlower hmin, hs.enableDefaultChannels⟩
          · exact ⟨hlower hmin, hs⟩
        · split
          · exact ⟨hdatarate, hs.enableDefaultChannels⟩
          · exact ⟨hdatarate, hs⟩
      · exact ⟨hdatarate, hs⟩

theorem board_AdrNextDr (s : Mac) (adrEnabled updateChannelMask : Bool) :
    (AdrNextDr s adrEnabled updateChannelMask).2.2.board = s.board := by
  unfold AdrNextDr
  dsimp only
  split
  · rfl
  · split
    · rfl
    · split
      · split
        · split <;> rfl
        · split <;> rfl
      · rfl

theorem ranged_adaptDatarate {s : Mac} (adrEnabled : Bool) (hs : Ranged s.config) :
    Ranged (adaptDatarate s adrEnabled).2.config := by
  obtain ⟨⟨hmin, hmax⟩, hparams⟩ := datarate_AdrNextDr adrEnabled true hs.params
  have hdefaults : (AdrNextDr s adrEnabled true).2.2.LoRaMacParamsDefaults =
      s.LoRaMacParamsDefaults :=
    (congrArg Mac.LoRaMacParamsDefaults (unprepared_AdrNextDr s adrEnabled true) :)
  have hlookups : (adaptDatarate s adrEnabled).2.config.lookups = s.board.lookups ++
      [((AdrNextDr s adrEnabled true).2.1, (maxPayloads (AdrNextDr s adrEnabled true).2.2).length)] :=
    (congrArg (fun board => board.lookups ++ [((AdrNextDr s adrEnabled true).2.1,
      (maxPayloads (AdrNextDr s adrEnabled true).2.2).length)]) (board_AdrNextDr s adrEnabled true) :)
  refine ⟨hparams.setDatarate hmin hmax, ?_, fun lookup hmem => ?_⟩
  · change InRange (AdrNextDr s adrEnabled true).2.2.LoRaMacParamsDefaults
    rw [hdefaults]
    exact hs.defaults
  · rw [hlookups] at hmem
    rcases List.mem_append.mp hmem with hold | hnew
    · exact hs.lookups lookup hold
    · rw [List.mem_singleton.mp hnew]
      exact (inTable_datarate hmin hmax).2

theorem ranged_PrepareFrame {s : Mac} (macHdr : LoRaMacFrameType_t) (fCtrl : LoRaMacFrameCtrl_t)
    (fPort : UInt8) (fBuffer : Option Mem) (fBufferSize : UInt16) (hs : Ranged s.config) :
    Ranged (PrepareFrame s macHdr fCtrl fPort fBuffer fBufferSize).2.config := by
  have hdata {s : Mac} (hs : Ranged s.config) :
      Ranged (prepareData s fCtrl fPort fBuffer fBufferSize).2.config := by
    unfold prepareData
    split
    · exact hs
    · have hadapted := ranged_adaptDatarate fCtrl.Adr hs
      dsimp only
      split
      · exact hadapted.congr (ranges_buildDataFrame _ _ _ _ _)
      · exact hadapted
  unfold PrepareFrame
  dsimp only
  split
  · exact hs.congr rfl
  · exact hdata (hs.congr rfl)
  · exact hdata (hs.congr rfl)
  · refine hs.congr ?_
    unfold prepareProprietary
    split
    · rfl
    · split <;> rfl
  · exact hs.congr rfl

theorem ranged_ScheduleTx {s t : Mac} {status : LoRaMacStatus_t}
    (h : ScheduleTx s = some (status, t)) (hs : Ranged s.config) : Ranged t.config := by
  rcases ScheduleTx_cases h with ⟨-, -, rfl⟩ | ⟨-, -, u, hu, ht⟩
  · exact hs
  · have hdefaults : u.LoRaMacParamsDefaults = s.LoRaMacParamsDefaults :=
      (congrArg Mac.LoRaMacParamsDefaults hu.unchosen :)
    have hlookups : u.board.lookups = s.board.lookups :=
      (congrArg (fun u => u.board.lookups) hu.unchosen :)
    have hparams : u.LoRaMacParams = { s.LoRaMacParams with
        ChannelsDatarate := u.LoRaMacParams.ChannelsDatarate
        ChannelsMask := u.LoRaMacParams.ChannelsMask } :=
      (congrArg (fun v => { v.LoRaMacParams with
        ChannelsDatarate := u.LoRaMacParams.ChannelsDatarate
        ChannelsMask := u.LoRaMacParams.ChannelsMask }) hu.unchosen :)
    have hdatarate : 0 ≤ u.LoRaMacParams.ChannelsDatarate ∧
        u.LoRaMacParams.ChannelsDatarate ≤ 7 := by
      rcases hu.datarate with hdatarate | hdatarate
      · rw [hdatarate]
        exact hs.params.ChannelsDatarate
      · rw [hdatarate]
        exact hs.defaults.ChannelsDatarate
    have hranged : Ranged u.config := by
      refine ⟨?_, ?_, ?_⟩
      · change InRange u.LoRaMacParams
        rw [hparams]
        exact ⟨hdatarate, hs.params.2, hs.params.3, hs.params.4, hs.params.5⟩
      · change InRange u.LoRaMacParamsDefaults
        rw [hdefaults]
        exact hs.defaults
      · change ∀ lookup ∈ u.board.lookups, InTable lookup
        rw [hlookups]
        exact hs.lookups
    rcases ht with rfl | ⟨time, rfl⟩
    · refine ⟨hranged.params, hranged.defaults, fun lookup hmem => ?_⟩
      rcases List.mem_append.mp hmem with hold | hnew
      · exact hranged.lookups lookup hold
      · obtain ⟨hpmin, hpmax⟩ := hranged.params.ChannelsTxPower
        simp only [List.mem_cons, List.not_mem_nil, or_false] at hnew
        rcases hnew with rfl | rfl
        · exact (inTable_datarate (s := u) hdatarate.1 hdatarate.2).1
        · exact ⟨hpmin, Int.lt_add_one_of_le hpmax⟩
    · exact hranged.congr rfl

/-- The parameters of a join-accept that are in range: `DLSettings` has the offset of the first
window and the data rate of the second one. -/
def validDLSettings (p : Mem) : Prop := p 11 >>> 4 &&& 0x07 ≤ 5 ∧ p 11 &&& 0x0F ≤ 7

/-- Everything but a join-accept and an attribute keeps the parameters in range. -/
theorem kept_ranged : Kept Ranged where
  accepted := by
    intro s t hs h
    have hparams : t.LoRaMacParams = s.LoRaMacParams := (congrArg Mac.LoRaMacParams h.unaccepted :)
    have hdefaults : t.LoRaMacParamsDefaults = s.LoRaMacParamsDefaults :=
      (congrArg Mac.LoRaMacParamsDefaults h.unaccepted :)
    refine ⟨?_, ?_, fun lookup hmem => ?_⟩
    · change InRange t.LoRaMacParams
      rw [hparams]
      exact hs.params
    · change InRange t.LoRaMacParamsDefaults
      rw [hdefaults]
      exact hs.defaults
    · rcases List.mem_append.mp (h.lookups hmem) with hold | hwindow
      · exact hs.lookups lookup hold
      · exact inTable_windowLookups hs.params lookup hwindow
  commanded := by
    rintro s p (⟨hdatarate, hpower, hnbRep⟩ | ⟨hdatarate, hoffset⟩ | _) hs
    all_goals refine ⟨?_, hs.defaults, hs.lookups⟩
    · exact ⟨hdatarate, hs.params.2, hpower, hs.params.4, hnbRep⟩
    · exact ⟨hs.params.1, hdatarate, hs.params.3, hoffset, hs.params.5⟩
    · exact ⟨hs.params.1, hs.params.2, hs.params.3, hs.params.4, hs.params.5⟩
  addMacCommand s cmd p1 p2 hs := ranged_AddMacCommand cmd p1 p2 hs
  schedule h hs := ranged_ScheduleTx h hs
  nextTrial := by
    intro s hs
    obtain ⟨hmin, hmax⟩ := hs.params.ChannelsDatarate
    refine ⟨?_, hs.defaults, hs.lookups⟩
    change InRange (if (s.AckTimeoutRetriesCounter + 1) % 2 = 1 then _ else _)
    split
    · have hlower : 0 ≤ max (s.LoRaMacParams.ChannelsDatarate - 1) LORAMAC_TX_MIN_DATARATE ∧
          max (s.LoRaMacParams.ChannelsDatarate - 1) LORAMAC_TX_MIN_DATARATE ≤ 7 := by
        change 0 ≤ s.LoRaMacParams.ChannelsDatarate at hmin
        change s.LoRaMacParams.ChannelsDatarate ≤ 7 at hmax
        unfold LORAMAC_TX_MIN_DATARATE
        omega
      exact hs.params.setDatarate hlower.1 hlower.2
    · exact hs.params
  giveUpTrials hs := ⟨hs.params.enableDefaultChannels, hs.defaults, hs.lookups⟩
  reset hs := ⟨hs.defaults, hs.defaults, hs.lookups⟩
  datarate hmin hmax hs := ⟨hs.params.setDatarate hmin hmax, hs.defaults, hs.lookups⟩
  channelAdd id params hs := ranged_LoRaMacChannelAdd id params hs
  channelRemove id hs := ranged_LoRaMacChannelRemove id hs

theorem ranged_openSession {s : Mac} {p : Mem} (size : Nat) (hp : validDLSettings p)
    (hs : Ranged s.config) : Ranged (openSession s p size).config := by
  refine kept_openSession kept_ranged p size ?_ fun {t} ht => ?_
  · exact ⟨⟨hs.params.1, hp.2, hs.params.3, hp.1, hs.params.5⟩, hs.defaults, hs.lookups⟩
  · obtain ⟨hmin, hmax⟩ := ht.defaults.ChannelsDatarate
    exact ⟨ht.params.setDatarate hmin hmax, ht.defaults, ht.lookups⟩

theorem ranged_mibSet {s : Mac} {r : MibSet} (hs : Ranged s.config)
    (hr : ∀ channel, r = .MIB_RX2_CHANNEL channel → channel.Datarate ≤ 7) :
    Ranged (mibSet s r).2.config := by
  have hset {valid : Bool} {p : LoRaMacParams_t} (hp : valid = true → InRange p) :
      Ranged (setParams s valid p).2.config := by
    unfold setParams
    split
    · next hvalid => exact ⟨hp hvalid, hs.defaults, hs.lookups⟩
    · exact hs
  obtain ⟨hdatarate, hrx2, hpower, hoffset, hrep⟩ := hs.params
  cases r with
  | MIB_DEVICE_CLASS Class =>
    cases Class with
    | CLASS_A => exact hs
    | CLASS_B => exact hs
    | CLASS_C =>
      exact kept_ranged.light (light_OnRxWindow2TimerEvent _) (hs.congr rfl)
  | MIB_NWK_SKEY NwkSKey => cases NwkSKey <;> exact hs
  | MIB_APP_SKEY AppSKey => cases AppSKey <;> exact hs
  | MIB_RX2_CHANNEL channel =>
    exact hset fun _ => ⟨hdatarate, hr channel rfl, hpower, hoffset, hrep⟩
  | MIB_CHANNELS_NB_REP nbRep =>
    refine hset fun hvalid => ⟨hdatarate, hrx2, hpower, hoffset, ?_⟩
    rw [Bool.and_eq_true, decide_eq_true_eq, decide_eq_true_eq] at hvalid
    exact hvalid
  | MIB_CHANNELS_DEFAULT_DATARATE datarate =>
    rw [mibSet]
    split
    · next hvalid =>
      obtain ⟨hmin, hmax⟩ := ValueInRange_eq_true.mp hvalid
      exact ⟨hs.params, hs.defaults.setDatarate hmin hmax, hs.lookups⟩
    · exact hs
  | MIB_CHANNELS_DATARATE datarate =>
    exact hset fun hvalid => ⟨ValueInRange_eq_true.mp hvalid, hrx2, hpower, hoffset, hrep⟩
  | MIB_CHANNELS_TX_POWER power =>
    exact hset fun hvalid => ⟨hdatarate, hrx2, ValueInRange_eq_true.mp hvalid, hoffset, hrep⟩
  | MIB_CHANNELS_MASK | MIB_MAX_RX_WINDOW_DURATION | MIB_RECEIVE_DELAY_1 | MIB_RECEIVE_DELAY_2
  | MIB_JOIN_ACCEPT_DELAY_1 | MIB_JOIN_ACCEPT_DELAY_2 =>
    exact hset fun _ => ⟨hdatarate, hrx2, hpower, hoffset, hrep⟩
  | _ => exact hs

/-- What an event must meet: a data rate that the upper layer gives the second window, and the
`DLSettings` of an authentic join-accept, are in range. -/
def KeepsRange (s : Mac) : Event → Prop
  | .request (.mib (.MIB_RX2_CHANNEL channel)) =>
    s.LoRaMacState.MAC_TX_RUNNING = false → channel.Datarate ≤ 7
  | .radio (.RxDone frame _ _ _) =>
    s.IsLoRaMacNetworkJoined = false → frame.macHdr = FRAME_TYPE_JOIN_ACCEPT →
      joinMicRx s frame = joinMic s frame → validDLSettings (joinPayload s frame)
  | _ => True

theorem ranged_step {s t : Mac} {e : Event} (h : step s e = some t) (he : KeepsRange s e)
    (hs : Ranged s.config) : Ranged t.config := by
  refine kept_step kept_ranged h ?_ ?_ ?_ hs
  · intro r u macHdr _ _ _ hu
    exact ranged_PrepareFrame macHdr _ r.fPort r.fBuffer r.fBufferSize hu
  · rintro r rfl hidle
    refine ranged_mibSet hs ?_
    rintro channel rfl
    exact he hidle
  · rintro u frame rssi snr rxContinuous rfl hnew htype hauthentic hu
    exact ranged_openSession _ (he hnew htype hauthentic) hu

/-- In every run of such events the parameters stay in range, and every look at a table is at one of
its entries. MAC commands check what they set; the settings of the second window come without a
check from the upper layer and from a join-accept, which the condition is about. -/
theorem ranged_of_keepsRange {env : Env} {es : List Event} {t : Mac}
    (hrun : Runs KeepsRange (Mac.boot env) es t) : Ranged t.config :=
  hrun.invariant (P := fun t => Ranged t.config) (ranged_boot env)
    fun _ _ _ hs he hstep => ranged_step hstep he hs

theorem ranged_of_keepsRange_rx2Channel :
    ∃ t, Runs KeepsRange (Mac.boot Env.plain)
        [.request (.mib (.MIB_RX2_CHANNEL ⟨869525000, 3⟩)),
          .request (.mib (.MIB_DEVICE_CLASS .CLASS_C))] t ∧
      t.LoRaMacParams.Rx2Channel.Datarate = 3 ∧ Ranged t.config := by
  have hrun : Runs KeepsRange (Mac.boot Env.plain)
      [.request (.mib (.MIB_RX2_CHANNEL ⟨869525000, 3⟩)),
        .request (.mib (.MIB_DEVICE_CLASS .CLASS_C))] _ :=
    .cons (fun _ => by decide) rfl (.cons trivial rfl .nil)
  exact ⟨_, hrun, rfl, ranged_of_keepsRange hrun⟩

/-- A server whose join-accepts decrypt to bytes that are all 0x6F, with a MIC that goes with
them: the offset of the first window is 6, and the data rate of the second one 15. -/
def Env.wideSettings : Env :=
  { Env.plain with
    aes_encrypt := fun _ _ _ => 0x6F
    LoRaMacJoinComputeMic := fun _ _ => 0x6F6F6F6F }

/-- A node joins, and its upper layer turns to class C. -/
def joinAndListen : List Event :=
  [.request (.mlme (.Join (some (List.replicate 8 1)) (some (List.replicate 8 2))
      (some (List.replicate 16 3)))), .radio .TxDone, .rxWindowTimer1,
    .radio (.RxDone (.ofBytes (0x20 :: List.replicate 16 0)) 0 0 false), .macStateCheckTimer,
    .upperReturn, .request (.mib (.MIB_DEVICE_CLASS .CLASS_C))]

/-- Nothing checks the `DLSettings` of a join-accept, and the window of class C reads behind the
end of the tables. -/
theorem not_ranged_joinAndListen :
    ∃ t, Runs (fun _ _ => True) (Mac.boot Env.wideSettings) joinAndListen t ∧
      ¬ InRange t.LoRaMacParams ∧ ¬ ∀ lookup ∈ t.board.lookups, InTable lookup := by
  obtain ⟨t, hrun, ht⟩ := transition.Run.of_after step (fun _ _ => True)
    (Mac.boot Env.wideSettings) joinAndListen
    (fun t => !decide (InRange t.LoRaMacParams) && !t.board.lookups.all fun l => decide (InTable l))
    (by decide +kernel)
  refine ⟨t, hrun, ?_⟩
  simpa using ht

end loranode.mac
