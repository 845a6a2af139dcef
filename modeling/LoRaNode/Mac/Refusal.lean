import LoRaNode.Mac.Size

namespace loranode.mac

open LoRaMacStatus_t LoRaMacFrameType_t LoRaMacEventInfoStatus_t

/-- The MAC commands that wait for the next frame, and those that are to be repeated. -/
structure Commands where
  MacCommandsBuffer : Mem
  MacCommandsBufferIndex : UInt8
  MacCommandsBufferToRepeat : Mem
  MacCommandsBufferToRepeatIndex : UInt8
  MacCommandsInNextTx : Bool

def Mac.commands (s : Mac) : Commands :=
  ⟨s.MacCommandsBuffer, s.MacCommandsBufferIndex, s.MacCommandsBufferToRepeat,
    s.MacCommandsBufferToRepeatIndex, s.MacCommandsInNextTx⟩

/-- A request in flight finds in `t` all that it finds in `s`, and ends as it does there. -/
structure Spares (s t : Mac) : Prop where
  NodeAckRequested : t.NodeAckRequested = s.NodeAckRequested
  LoRaMacFlags : t.LoRaMacFlags = s.LoRaMacFlags
  MlmeConfirm : t.MlmeConfirm = s.MlmeConfirm
  framed : t.framed = s.framed
  commands : t.commands = s.commands
  later : ∀ es u, Runs (fun _ _ => True) t es u ↔ Runs (fun _ _ => True) s es u

theorem Spares.refl (s : Mac) : Spares s s := ⟨rfl, rfl, rfl, rfl, rfl, fun _ _ => Iff.rfl⟩

/-- `MlmeConfirm` as a request leaves it at once. -/
def clearedConfirm (request : Mlme_t) : MlmeConfirm_t :=
  ⟨request, LORAMAC_EVENT_INFO_STATUS_ERROR, 0, 0, 0⟩

/-- The traces of a management request that is refused are there already. -/
def Mac.marked (s : Mac) : MlmeReq_t → Prop
  | .Join .. => s.MlmeConfirm = clearedConfirm .MLME_JOIN
  | .LinkCheck => s.MlmeConfirm = clearedConfirm .MLME_LINK_CHECK ∧ s.NodeAckRequested = false ∧
    s.LoRaMacFlags.MlmeReq = false

/-- A join request that reaches the radio is not refused: it lifts the limit that switches
the device off. -/
theorem status_joining {s v : Mac} {DevEui AppEui AppKey : List UInt8} {status : LoRaMacStatus_t}
    (h : Send (joining s DevEui AppEui AppKey) FRAME_TYPE_JOIN_REQ 0 none 0 = some (status, v)) :
    status = LORAMAC_STATUS_OK := by
  obtain ⟨status', u, hframe, hout⟩ := Send_cases h
  have hview := unprepared_PrepareFrame (joining s DevEui AppEui AppKey) FRAME_TYPE_JOIN_REQ
    ⟨0, false, false, false, (joining s DevEui AppEui AppKey).AdrCtrlOn⟩ 0 none 0
  rw [hframe] at hview
  have hon : u.MaxDCycle = 0 := (congrArg Mac.MaxDCycle hview :)
  rcases hout with ⟨hne, -, -⟩ | ⟨-, hschedule⟩
  · have hok : status' = LORAMAC_STATUS_OK := (congrArg Prod.fst hframe).symm
    exact absurd hok hne
  · rcases ScheduleTx_cases hschedule with ⟨hoff, -, -⟩ | ⟨-, hok, -⟩
    · exact absurd (hon.symm.trans hoff) (by decide)
    · exact hok

/-- What a refused management request leaves. -/
theorem refused_LoRaMacMlmeRequest {s t : Mac} {r : MlmeReq_t} {status : LoRaMacStatus_t}
    (h : LoRaMacMlmeRequest s r = some (status, t)) (hne : status ≠ LORAMAC_STATUS_OK) :
    s.LoRaMacState.MAC_TX_RUNNING = true ∧ t = s ∨
      s.LoRaMacState.MAC_TX_RUNNING = false ∧
        ((∃ DevEui AppEui AppKey, r = .Join DevEui AppEui AppKey) ∧
            t = { s with MlmeConfirm := clearedConfirm .MLME_JOIN } ∨
          r = .LinkCheck ∧ t = { s with
            MlmeConfirm := clearedConfirm .MLME_LINK_CHECK
            NodeAckRequested := false
            LoRaMacFlags := { s.LoRaMacFlags with MlmeReq := false } }) := by
  rcases LoRaMacMlmeRequest_cases h with ⟨-, rfl, hrunning⟩ | ⟨hidle, ⟨-, hjoin, rfl⟩ | ⟨DevEui,
    AppEui, AppKey, v, status', -, -, hsend, hout⟩ | ⟨hlink, hout⟩⟩
  · exact .inl ⟨hrunning, rfl⟩
  · exact .inr ⟨hidle, .inl ⟨hjoin, rfl⟩⟩
  · rw [status_joining hsend] at hout
    exact absurd (congrArg Prod.fst hout) hne
  · refine .inr ⟨hidle, .inr ⟨hlink, ?_⟩⟩
    unfold AddMacCommand at hout
    dsimp only at hout
    split at hout
    · exact absurd (congrArg Prod.fst hout) hne
    · exact congrArg Prod.snd hout

/-- A management request that is refused spares what is in flight exactly when a frame is on the
air, or when its traces are there already. `MlmeConfirm` is cleared before the request is looked at,
and a link check that is refused takes `MlmeReq` and `NodeAckRequested` with it. -/
theorem spares_LoRaMacMlmeRequest_iff {s t : Mac} {r : MlmeReq_t} {status : LoRaMacStatus_t}
    (h : LoRaMacMlmeRequest s r = some (status, t)) (hne : status ≠ LORAMAC_STATUS_OK) :
    Spares s t ↔ s.LoRaMacState.MAC_TX_RUNNING = true ∨ s.marked r := by
  rcases refused_LoRaMacMlmeRequest h hne with ⟨hrunning, rfl⟩ | ⟨hidle, ⟨⟨DevEui, AppEui, AppKey,
    rfl⟩, rfl⟩ | ⟨rfl, rfl⟩⟩
  · exact ⟨fun _ => .inl hrunning, fun _ => .refl t⟩
  · constructor
    · intro hspares
      exact .inr hspares.MlmeConfirm.symm
    · rintro (hrunning | hmarked)
      · exact absurd (hidle.symm.trans hrunning) (by decide)
      · have hmarked : s.MlmeConfirm = clearedConfirm .MLME_JOIN := hmarked
        rw [← hmarked]
        exact .refl s
  · constructor
    · intro hspares
      exact .inr ⟨hspares.MlmeConfirm.symm, hspares.NodeAckRequested.symm,
        (congrArg LoRaMacFlags_t.MlmeReq hspares.LoRaMacFlags).symm⟩
    · rintro (hrunning | hmarked)
      · exact absurd (hidle.symm.trans hrunning) (by decide)
      · obtain ⟨hconfirm, hack, hrequested⟩ := hmarked
        have hflags : { s.LoRaMacFlags with MlmeReq := false } = s.LoRaMacFlags := by
          rw [← hrequested]
        rw [hflags, ← hconfirm, ← hack]
        exact .refl s

/-- A frame is on the air; and the air is free, and a join request has been refused before. -/
theorem spares_LoRaMacMlmeRequest_iff_running :
    (∃ s t, LoRaMacMlmeRequest s .LinkCheck = some (LORAMAC_STATUS_BUSY, t) ∧ Spares s t) ∧
      ∃ s t, s.LoRaMacState.MAC_TX_RUNNING = false ∧
        LoRaMacMlmeRequest s (.Join none none none) = some (LORAMAC_STATUS_PARAMETER_INVALID, t) ∧
        Spares s t := by
  refine ⟨⟨setTxRunning (Mac.personalised Env.plain) true, _, rfl, ?_⟩,
    { Mac.personalised Env.plain with MlmeConfirm := clearedConfirm .MLME_JOIN }, _, rfl, rfl, ?_⟩
  · exact (spares_LoRaMacMlmeRequest_iff (r := .LinkCheck) rfl (by decide)).mpr (.inl rfl)
  · exact (spares_LoRaMacMlmeRequest_iff (r := .Join none none none) rfl (by decide)).mpr (.inr rfl)

/-- A frame, and then a link check and a second frame, which has to wait for the band. -/
def linkCheckDelayed : List Event :=
  [.request (.mcps (.Unconfirmed 1 none 0 5)), .radio .TxDone, .rxWindowTimer2,
    .radio (.RxTimeout false), .macStateCheckTimer, .upperReturn, .request (.mlme .LinkCheck),
    .request (.mcps (.Unconfirmed 1 none 0 5))]

def joinAgain : MlmeReq_t := .Join (some []) (some []) (some [])

/-- The node is told that it is busy, and still the frame that waits is replaced by a join
request. -/
theorem not_spares_joinAgain : ∃ s t u,
    Runs (fun _ _ => True) (Mac.personalised Env.plain) linkCheckDelayed s ∧
      LoRaMacMlmeRequest s joinAgain = some (LORAMAC_STATUS_BUSY, t) ∧
      step t .txDelayedTimer = some u ∧
      (s.PreparedFrame.isSome = true ∧ u.PreparedFrame = none) ∧ ¬ Spares s t := by
  obtain ⟨s, hrun, hs⟩ := transition.Run.of_after step (fun _ _ => True)
    (Mac.personalised Env.plain) linkCheckDelayed
    (fun s => (LoRaMacMlmeRequest s joinAgain).any fun (x : LoRaMacStatus_t × Mac) =>
      decide (x.1 = LORAMAC_STATUS_BUSY ∧ x.2.MlmeConfirm ≠ s.MlmeConfirm) &&
        (step x.2 .txDelayedTimer).any fun (u : Mac) =>
          decide (s.PreparedFrame.isSome = true ∧ u.PreparedFrame = none))
    (by decide +kernel)
  obtain ⟨⟨status, t⟩, hrequest, ht⟩ := (Option.any_eq_true _ _).mp hs
  rw [Bool.and_eq_true] at ht
  obtain ⟨hbusy, hlost⟩ := ht
  obtain ⟨u, hstep, hu⟩ := (Option.any_eq_true _ _).mp hlost
  obtain ⟨rfl, hconfirm⟩ := of_decide_eq_true hbusy
  exact ⟨s, t, u, hrun, hrequest, hstep, of_decide_eq_true hu,
    fun hspares => hconfirm hspares.MlmeConfirm⟩

/-- What a data request that is refused is to leave as it is. -/
structure Protocol extends Commands where
  ChannelsDatarate : Int
  ChannelsMask : UInt16
  AdrAckCounter : UInt32
  SrvAckRequested : Bool
  UpLinkCounter : UInt32

def Mac.protocol (s : Mac) : Protocol :=
  ⟨s.commands, s.LoRaMacParams.ChannelsDatarate, s.LoRaMacParams.ChannelsMask, s.AdrAckCounter,
    s.SrvAckRequested, s.UpLinkCounter⟩

/-- `AdrNextDr` finds nothing to change. -/
def Mac.adrSteady (s : Mac) : Prop :=
  (s.LoRaMacParams.ChannelsDatarate = 0 → s.AdrAckCounter = 0) ∧
    (0 < s.LoRaMacParams.ChannelsDatarate →
      ¬ (ADR_ACK_LIMIT + ADR_ACK_DELAY ≤ s.AdrAckCounter ∧ s.AdrAckCounter % ADR_ACK_DELAY = 0))

/-- There is no new MAC command, and those to repeat are where the last frame has left them. -/
structure Mac.Retired (s : Mac) : Prop where
  index : s.MacCommandsBufferIndex = 0
  front : s.MacCommandsBuffer.read 0 s.MacCommandsBufferToRepeatIndex.toNat =
    s.MacCommandsBufferToRepeat.read 0 s.MacCommandsBufferToRepeatIndex.toNat
  count : (ParseMacCommandsToRepeat s.MacCommandsBuffer s.MacCommandsBufferToRepeatIndex
    s.MacCommandsBufferToRepeat).1 = s.MacCommandsBufferToRepeatIndex
  toRepeat : (ParseMacCommandsToRepeat s.MacCommandsBuffer s.MacCommandsBufferToRepeatIndex
    s.MacCommandsBufferToRepeat).2.1 = s.MacCommandsBufferToRepeat
  inNextTx : s.MacCommandsInNextTx = decide (0 < s.MacCommandsBufferToRepeatIndex)

/-- What is to be repeated, found among the MAC commands of a frame. -/
def Commands.parse (c : Commands) : Commands :=
  let parsed := ParseMacCommandsToRepeat c.MacCommandsBuffer c.MacCommandsBufferIndex
    c.MacCommandsBufferToRepeat
  ⟨c.MacCommandsBuffer, 0, parsed.2.1, parsed.1, 0 < parsed.1⟩

/-- The MAC commands behind a frame, from those in front of it. -/
def Commands.retire (c : Commands) : Commands :=
  Commands.parse { c with
    MacCommandsBuffer := c.MacCommandsBuffer.write c.MacCommandsBufferIndex.toNat
      (c.MacCommandsBufferToRepeat.read 0 c.MacCommandsBufferToRepeatIndex.toNat)
    MacCommandsBufferIndex := c.MacCommandsBufferIndex + c.MacCommandsBufferToRepeatIndex }

theorem retire_commands_iff (s : Mac) : s.commands.retire = s.commands ↔ s.Retired := by
  have hwrite := @Mem.write_eq_self_iff s.MacCommandsBuffer 0
    (s.MacCommandsBufferToRepeat.read 0 s.MacCommandsBufferToRepeatIndex.toNat)
  rw [Mem.length_read] at hwrite
  constructor
  · intro h
    have hindex : s.MacCommandsBufferIndex = 0 := (congrArg Commands.MacCommandsBufferIndex h).symm
    have hbuffer := congrArg Commands.MacCommandsBuffer h
    have hcount := congrArg Commands.MacCommandsBufferToRepeatIndex h
    have htoRepeat := congrArg Commands.MacCommandsBufferToRepeat h
    have hnext := congrArg Commands.MacCommandsInNextTx h
    simp only [Commands.retire, Commands.parse, Mac.commands, hindex, UInt8.toNat_zero,
      UInt8.zero_add] at hbuffer
    simp only [Commands.retire, Commands.parse, Mac.commands, hindex, UInt8.toNat_zero,
      UInt8.zero_add, hbuffer] at hcount htoRepeat hnext
    rw [hcount] at hnext
    exact ⟨hindex, hwrite.mp hbuffer, hcount, htoRepeat, hnext.symm⟩
  · rintro ⟨hindex, hfront, hcount, htoRepeat, hnext⟩
    simp only [Commands.retire, Commands.parse, Mac.commands, hindex, UInt8.toNat_zero,
      UInt8.zero_add, hwrite.mpr hfront, hcount, htoRepeat, hnext]

theorem protocol_placeMacCommands (s : Mac) (fCtrl : LoRaMacFrameCtrl_t) (fPort : UInt8)
    (fBuffer : Option Mem) (payloadSize : UInt8) :
    (placeMacCommands s fCtrl fPort fBuffer payloadSize).2.protocol = s.protocol := by
  unfold placeMacCommands
  split
  · split <;> rfl
  · split <;> rfl

theorem protocol_placePayload (s : Mac) (plan : FramePlan) :
    (placePayload s plan).2.protocol = s.protocol := by
  unfold placePayload
  split
  · rfl
  · split <;> rfl

/-- A data frame takes the acknowledgement and the MAC commands with it. -/
theorem protocol_buildDataFrame (s : Mac) (fCtrl : LoRaMacFrameCtrl_t) (fPort : UInt8)
    (fBuffer : Option Mem) (fBufferSize : UInt16) :
    (buildDataFrame s fCtrl fPort fBuffer fBufferSize).protocol =
      { s.protocol with toCommands := s.commands.retire, SrvAckRequested := false } := by
  have hplace := protocol_placeMacCommands (collectMacCommands (startDataFrame s fCtrl))
    (acknowledging s fCtrl) fPort fBuffer fBufferSize.toUInt8
  cases hplan : placeMacCommands (collectMacCommands (startDataFrame s fCtrl))
    (acknowledging s fCtrl) fPort fBuffer fBufferSize.toUInt8 with
  | mk plan u =>
    rw [hplan] at hplace
    have hpayload := protocol_placePayload (retireMacCommands u) plan
    have hretire := congrArg (fun q : Protocol => { q with toCommands := q.toCommands.parse }) hplace
    rw [buildDataFrame_eq s fCtrl fPort fBuffer fBufferSize hplan]
    exact hpayload.trans hretire

/-- `AdrNextDr` leaves the protocol state exactly when it finds nothing to change. -/
theorem protocol_adaptDatarate_iff (s : Mac) (adrEnabled : Bool) :
    (adaptDatarate s adrEnabled).2.protocol = s.protocol ↔ (adrEnabled = true → s.adrSteady) := by
  unfold adaptDatarate AdrNextDr Mac.adrSteady LORAMAC_TX_MIN_DATARATE
  dsimp only
  by_cases hon : adrEnabled = false
  · rw [if_pos hon]
    exact ⟨fun _ htrue => absurd (hon.symm.trans htrue) (by decide), fun _ => rfl⟩
  · rw [if_neg hon]
    by_cases hmin : s.LoRaMacParams.ChannelsDatarate = 0
    · rw [if_pos hmin]
      constructor
      · intro h _
        have hcounter : s.AdrAckCounter = 0 := (congrArg Protocol.AdrAckCounter h).symm
        exact ⟨fun _ => hcounter, fun hpos => absurd hmin (by omega)⟩
      · intro hsteady
        have hcounter := (hsteady (Bool.eq_true_of_not_eq_false hon)).1 hmin
        rw [Mac.protocol, Mac.protocol, hcounter]
        rfl
    · rw [if_neg hmin]
      by_cases hlate : ADR_ACK_LIMIT + ADR_ACK_DELAY ≤ s.AdrAckCounter ∧
          s.AdrAckCounter % ADR_ACK_DELAY = 0
      · rw [if_pos hlate]
        by_cases hpos : 0 < s.LoRaMacParams.ChannelsDatarate
        · rw [if_pos hpos]
          constructor
          · intro h
            have hdatarate := congrArg Protocol.ChannelsDatarate h
            split at hdatarate
            · have hlower : s.LoRaMacParams.ChannelsDatarate - 1 =
                  s.LoRaMacParams.ChannelsDatarate := hdatarate
              omega
            · have hlower : s.LoRaMacParams.ChannelsDatarate - 1 =
                  s.LoRaMacParams.ChannelsDatarate := hdatarate
              omega
          · intro hsteady
            exact absurd hlate ((hsteady (Bool.eq_true_of_not_eq_false hon)).2 hpos)
        · rw [if_neg hpos, if_neg (fun h => hmin h.1)]
          exact ⟨fun _ _ => ⟨fun h => absurd h hmin, fun h => absurd h hpos⟩, fun _ => rfl⟩
      · rw [if_neg hlate]
        exact ⟨fun _ _ => ⟨fun h => absurd h hmin, fun _ => hlate⟩, fun _ => rfl⟩

/-- What a data request that is refused behind its first checks must find so that it changes
nothing: its own data rate where ADR is off, an ADR that is steady, and, where its frame is built,
nothing that the frame would take along. -/
structure Inert (s : Mac) (r : McpsReq_t) : Prop where
  datarate : s.AdrCtrlOn = false → r.Datarate = s.LoRaMacParams.ChannelsDatarate
  adr : r.IsData → s.IsLoRaMacNetworkJoined = true → s.AdrCtrlOn = true → s.adrSteady
  retired : r.IsData → Accepts s s.AdrCtrlOn r.fBuffer r.fBufferSize →
    s.SrvAckRequested = false ∧ s.Retired

theorem protocol_of_unrequested {s u : Mac} (h : u.unrequested = s.unrequested) :
    u.protocol = { s.protocol with ChannelsDatarate := u.LoRaMacParams.ChannelsDatarate } := by
  have hview : ({ u.protocol with ChannelsDatarate := 0 } : Protocol) =
      { s.protocol with ChannelsDatarate := 0 } := (congrArg Mac.protocol h :)
  exact congrArg (fun q : Protocol =>
    { q with ChannelsDatarate := u.LoRaMacParams.ChannelsDatarate }) hview

section Requested

variable {r : McpsReq_t} {s u : Mac} (hu : Requested r s u)
include hu

/-- Before the frame is built, only the data rate can have changed. -/
theorem protocol_requested_iff : u.protocol = s.protocol ↔
    (s.AdrCtrlOn = false → r.Datarate = s.LoRaMacParams.ChannelsDatarate) := by
  have hdatarate := hu.datarate
  constructor
  · intro h hoff
    rw [hoff, if_neg Bool.false_ne_true] at hdatarate
    rw [← hdatarate]
    exact congrArg Protocol.ChannelsDatarate h
  · intro h
    rw [protocol_of_unrequested hu.unrequested, hdatarate]
    cases hadr : s.AdrCtrlOn with
    | true => rfl
    | false =>
      rw [if_neg Bool.false_ne_true, h hadr]
      rfl

theorem adrSteady_of_requested
    (hdatarate : u.LoRaMacParams.ChannelsDatarate = s.LoRaMacParams.ChannelsDatarate) :
    u.adrSteady ↔ s.adrSteady := by
  have hcounter : u.AdrAckCounter = s.AdrAckCounter :=
    (congrArg Mac.AdrAckCounter hu.unrequested :)
  unfold Mac.adrSteady
  rw [hdatarate, hcounter]

theorem accepts_of_requested
    (hdatarate : u.LoRaMacParams.ChannelsDatarate = s.LoRaMacParams.ChannelsDatarate)
    (fBuffer : Option Mem) (fBufferSize : UInt16) :
    Accepts u u.AdrCtrlOn fBuffer fBufferSize ↔ Accepts s s.AdrCtrlOn fBuffer fBufferSize := by
  have hcounter : u.AdrAckCounter = s.AdrAckCounter :=
    (congrArg Mac.AdrAckCounter hu.unrequested :)
  have hadr : u.AdrCtrlOn = s.AdrCtrlOn := (congrArg Mac.AdrCtrlOn hu.unrequested :)
  have hjoined : u.IsLoRaMacNetworkJoined = s.IsLoRaMacNetworkJoined :=
    (congrArg Mac.IsLoRaMacNetworkJoined hu.unrequested :)
  have hindex : u.MacCommandsBufferIndex = s.MacCommandsBufferIndex :=
    (congrArg Mac.MacCommandsBufferIndex hu.unrequested :)
  have hrepeater : u.RepeaterSupport = s.RepeaterSupport :=
    (congrArg Mac.RepeaterSupport hu.unrequested :)
  have hnext : nextDatarate u s.AdrCtrlOn = nextDatarate s s.AdrCtrlOn :=
    (AdrNextDr_congr s.AdrCtrlOn true hdatarate hcounter).2
  unfold Accepts ValidatePayloadLength maxPayload maxPayloads
  rw [hadr, hjoined, hindex, hrepeater, hnext]

/-- The frame that is to be built finds the protocol state as it was. -/
theorem protocol_adapted_iff (macHdr : LoRaMacFrameType_t) :
    (adapted u macHdr u.AdrCtrlOn).protocol = s.protocol ↔
      (s.AdrCtrlOn = false → r.Datarate = s.LoRaMacParams.ChannelsDatarate) ∧
        (s.AdrCtrlOn = true → s.adrSteady) := by
  have hadr : u.AdrCtrlOn = s.AdrCtrlOn := (congrArg Mac.AdrCtrlOn hu.unrequested :)
  have hrequested := protocol_requested_iff hu
  have hadapt : (adapted u macHdr u.AdrCtrlOn).protocol = u.protocol ↔
      (u.AdrCtrlOn = true → u.adrSteady) :=
    protocol_adaptDatarate_iff (startFrame u macHdr) u.AdrCtrlOn
  have hsame (h : u.protocol = s.protocol) : u.adrSteady ↔ s.adrSteady :=
    adrSteady_of_requested hu (congrArg Protocol.ChannelsDatarate h)
  rw [hadr] at hadapt ⊢
  cases hon : s.AdrCtrlOn with
  | true =>
    rw [hon] at hadapt hrequested
    have hkept : u.protocol = s.protocol := hrequested.mpr nofun
    rw [← hkept, hadapt, hsame hkept]
    exact ⟨fun h => ⟨nofun, h⟩, fun h => h.2⟩
  | false =>
    rw [hon] at hadapt hrequested
    rw [hadapt.mpr nofun, hrequested]
    exact ⟨fun h => ⟨h, nofun⟩, fun h => h.1⟩

theorem commands_adapted (macHdr : LoRaMacFrameType_t) (adrEnabled : Bool) :
    (adapted u macHdr adrEnabled).commands = s.commands ∧
      (adapted u macHdr adrEnabled).SrvAckRequested = s.SrvAckRequested := by
  obtain ⟨counter, lookups, params, hadapted⟩ :=
    adaptDatarate_snd (startFrame u macHdr) adrEnabled
  have hcommands : u.commands = s.commands := (congrArg Mac.commands hu.unrequested :)
  have hack : u.SrvAckRequested = s.SrvAckRequested :=
    (congrArg Mac.SrvAckRequested hu.unrequested :)
  unfold adapted
  rw [hadapted]
  exact ⟨hcommands, hack⟩

theorem protocol_PrepareFrame_iff {macHdr : LoRaMacFrameType_t} (hmacHdr : r.macHdr = some macHdr) :
    (PrepareFrame u macHdr ⟨0, false, false, false, u.AdrCtrlOn⟩ r.fPort r.fBuffer
      r.fBufferSize).2.protocol = s.protocol ↔ Inert s r := by
  have hrequested := protocol_requested_iff hu
  have hadapted := protocol_adapted_iff hu macHdr
  have hjoined : u.IsLoRaMacNetworkJoined = s.IsLoRaMacNetworkJoined :=
    (congrArg Mac.IsLoRaMacNetworkJoined hu.unrequested :)
  have haccepts (h : s.AdrCtrlOn = false → r.Datarate = s.LoRaMacParams.ChannelsDatarate) :=
    accepts_of_requested hu (congrArg Protocol.ChannelsDatarate (hrequested.mpr h))
      r.fBuffer r.fBufferSize
  by_cases htype : macHdr.IsDataUp
  · have hdata : r.IsData := by
      rcases htype with rfl | rfl
      · exact .inl hmacHdr
      · exact .inr hmacHdr
    rw [PrepareFrame_of_isDataUp htype]
    by_cases hin : u.IsLoRaMacNetworkJoined = false
    · -- refused before the data rate is adapted
      rw [if_pos hin]
      have hout : s.IsLoRaMacNetworkJoined = false := hjoined.symm.trans hin
      have hnot (h : s.IsLoRaMacNetworkJoined = true) : False :=
        absurd (hout.symm.trans h) (by decide)
      refine hrequested.trans ⟨fun h => ⟨h, fun _ h' => (hnot h').elim, fun _ h' => (hnot h'.1).elim⟩,
        fun h => h.datarate⟩
    · rw [if_neg hin]
      have hjoined : s.IsLoRaMacNetworkJoined = true :=
        hjoined.symm.trans (Bool.eq_true_of_not_eq_false hin)
      split
      · next hvalid =>
        have hu' : Accepts u u.AdrCtrlOn r.fBuffer r.fBufferSize :=
          ⟨Bool.eq_true_of_not_eq_false hin, hvalid⟩
        obtain ⟨hcommands, hack⟩ := commands_adapted hu macHdr u.AdrCtrlOn
        rw [protocol_buildDataFrame, hcommands]
        constructor
        · intro h
          have hretire : s.commands.retire = s.commands := congrArg Protocol.toCommands h
          have hsent : s.SrvAckRequested = false := (congrArg Protocol.SrvAckRequested h).symm
          have hrest : (adapted u macHdr u.AdrCtrlOn).protocol =
              { (adapted u macHdr u.AdrCtrlOn).protocol with
                toCommands := s.commands, SrvAckRequested := s.SrvAckRequested } := by
            rw [← hcommands, ← hack]
            rfl
          have hkept : (adapted u macHdr u.AdrCtrlOn).protocol = s.protocol :=
            hrest.trans (congrArg (fun q : Protocol => { q with
              toCommands := s.commands, SrvAckRequested := s.SrvAckRequested }) h)
          obtain ⟨hdatarate, hsteady⟩ := hadapted.mp hkept
          exact ⟨hdatarate, fun _ _ => hsteady,
            fun _ _ => ⟨hsent, (retire_commands_iff s).mp hretire⟩⟩
        · intro h
          obtain ⟨hsent, hretired⟩ := h.retired hdata ((haccepts h.datarate).mp hu')
          rw [hadapted.mpr ⟨h.datarate, h.adr hdata hjoined⟩, (retire_commands_iff s).mpr hretired,
            ← hsent]
          rfl
      · next hinvalid =>
        refine hadapted.trans ⟨fun h => ⟨h.1, fun _ _ => h.2, fun _ h' => ?_⟩,
          fun h => ⟨h.datarate, h.adr hdata hjoined⟩⟩
        exact absurd ((haccepts h.1).mpr h').2 hinvalid
  · have hsame : (PrepareFrame u macHdr ⟨0, false, false, false, u.AdrCtrlOn⟩ r.fPort r.fBuffer
        r.fBufferSize).2.protocol = u.protocol := by
      cases r with
      | Unconfirmed => exact absurd (.inr (Option.some.inj hmacHdr).symm) htype
      | Confirmed => exact absurd (.inl (Option.some.inj hmacHdr).symm) htype
      | Proprietary fBuffer fBufferSize =>
        cases hmacHdr
        unfold PrepareFrame prepareProprietary
        dsimp only
        split
        · rfl
        · split <;> rfl
      | Multicast => cases hmacHdr
    have hother : ¬ r.IsData := by
      rintro (h | h)
      · exact htype (.inl (Option.some.inj (hmacHdr.symm.trans h)))
      · exact htype (.inr (Option.some.inj (hmacHdr.symm.trans h)))
    rw [hsame, hrequested]
    exact ⟨fun h => ⟨h, fun h' => (hother h').elim, fun h' => (hother h').elim⟩, fun h => h.datarate⟩

end Requested

/-- A data request is refused by one of the first checks, before it changes anything. -/
def Mac.turnsAway (s : Mac) (r : McpsReq_t) : Prop :=
  s.LoRaMacState.MAC_TX_RUNNING = true ∨ s.LoRaMacState.MAC_TX_DELAYED = true ∨ r.macHdr = none ∨
    s.AdrCtrlOn = false ∧ ¬ (0 ≤ r.Datarate ∧ r.Datarate ≤ 7)

/-- The frame of a request that is refused behind the first checks. -/
theorem refused_Send {u v : Mac} {macHdr : LoRaMacFrameType_t} {fPort : UInt8}
    {fBuffer : Option Mem} {fBufferSize : UInt16} {status : LoRaMacStatus_t}
    (h : Send u macHdr fPort fBuffer fBufferSize = some (status, v))
    (hne : status ≠ LORAMAC_STATUS_OK) :
    v.protocol = (PrepareFrame u macHdr ⟨0, false, false, false, u.AdrCtrlOn⟩ fPort fBuffer
      fBufferSize).2.protocol := by
  obtain ⟨status', w, hframe, ⟨-, -, rfl⟩ | ⟨-, hschedule⟩⟩ := Send_cases h
  · rw [hframe]
  · rcases ScheduleTx_cases hschedule with ⟨-, -, rfl⟩ | ⟨-, hok, -⟩
    · rw [hframe]
      rfl
    · exact absurd hok hne

/-- A data request that is refused leaves the protocol state exactly when one of the first checks
refuses it, or when there was nothing to change. Behind these checks the data rate is set,
`AdrNextDr` is called and, if only `MaxDCycle` stops the frame, it is built with the acknowledgement
and the answers in it. -/
theorem protocol_LoRaMacMcpsRequest_iff {s t : Mac} {r : McpsReq_t} {status : LoRaMacStatus_t}
    (h : LoRaMacMcpsRequest s r = some (status, t)) (hne : status ≠ LORAMAC_STATUS_OK) :
    t.protocol = s.protocol ↔ s.turnsAway r ∨ Inert s r := by
  rcases LoRaMacMcpsRequest_cases h with ⟨hbusy, -, rfl⟩ | ⟨⟨hidle, hundelayed⟩, ⟨⟨-, hchecked⟩,
    hview, hparams⟩ | ⟨u, v, macHdr, status', type, hmacHdr, hu, hsend, hout⟩⟩
  · refine ⟨fun _ => .inl ?_, fun _ => rfl⟩
    rcases hbusy with hrunning | hdelayed
    · exact .inl hrunning
    · exact .inr (.inl hdelayed)
  · refine ⟨fun _ => .inl (.inr (.inr hchecked)), fun _ => ?_⟩
    rw [protocol_of_unrequested hview, hparams]
    rfl
  · rcases hout with ⟨-, hok, -⟩ | ⟨hrefused, rfl, rfl⟩
    · exact absurd hok hne
    · have hnot : ¬ s.turnsAway r := by
        rintro (hrunning | hdelayed | hnone | ⟨hoff, hinvalid⟩)
        · exact absurd (hidle.symm.trans hrunning) (by decide)
        · exact absurd (hundelayed.symm.trans hdelayed) (by decide)
        · rw [hnone] at hmacHdr
          cases hmacHdr
        · rcases hu.valid with hon | hvalid
          · exact absurd (hoff.symm.trans hon) (by decide)
          · exact hinvalid hvalid
      change v.protocol = s.protocol ↔ _
      rw [refused_Send hsend hrefused, protocol_PrepareFrame_iff hu hmacHdr]
      exact ⟨.inr, fun hcase => hcase.resolve_left hnot⟩

/-- At its own data rate. -/
theorem protocol_LoRaMacMcpsRequest_iff_unjoined : ∃ t,
    LoRaMacMcpsRequest (Mac.boot Env.plain) (.Unconfirmed 1 none 0 5) =
        some (LORAMAC_STATUS_NO_NETWORK_JOINED, t) ∧
      t.protocol = (Mac.boot Env.plain).protocol := by
  refine ⟨_, rfl, ?_⟩
  refine (protocol_LoRaMacMcpsRequest_iff (r := .Unconfirmed 1 none 0 5) rfl (by decide)).mpr
    (.inr ⟨fun _ => rfl, fun _ hjoined => ?_, fun _ haccepts => ?_⟩)
  · exact absurd hjoined (by decide)
  · exact absurd haccepts.1 (by decide)

/-- A node that has not joined takes the data rate of the request that it refuses. -/
theorem not_protocol_LoRaMacMcpsRequest : ∃ t,
    LoRaMacMcpsRequest (Mac.boot Env.plain) (.Unconfirmed 1 none 0 0) =
        some (LORAMAC_STATUS_NO_NETWORK_JOINED, t) ∧
      t.LoRaMacParams.ChannelsDatarate = 0 ∧
      t.protocol ≠ (Mac.boot Env.plain).protocol := by
  refine ⟨_, rfl, rfl, fun h => ?_⟩
  have hdatarate : (0 : Int) = 5 := congrArg Protocol.ChannelsDatarate h
  exact absurd hdatarate (by decide)

end loranode.mac
