import LoRaNode.Mac.Fallback
import LoRaNode.Mac.Size

namespace loranode.mac

open LoRaMacStatus_t LoRaMacFrameType_t

structure LoRaMacTxInfo_t where
  MaxPossiblePayload : UInt8
  CurrentPayloadSize : UInt8
  deriving DecidableEq, Repr

/-- `LoRaMacQueryTxPossible`, with a `txInfo` that is not `NULL`. What it does not write of this is
left as it was. -/
def LoRaMacQueryTxPossible (s : Mac) (size : UInt8) (txInfo : LoRaMacTxInfo_t) :
    LoRaMacStatus_t × LoRaMacTxInfo_t × Mac :=
  let fOptLen := s.MacCommandsBufferIndex + s.MacCommandsBufferToRepeatIndex
  let (_, datarate, s) := AdrNextDr s s.AdrCtrlOn false
  let s := s.lookup [(datarate, (maxPayloads s).length)]
  let txInfo := { txInfo with CurrentPayloadSize := UInt8.ofNat (maxPayload s datarate) }
  if fOptLen ≤ txInfo.CurrentPayloadSize then
    let txInfo := { txInfo with MaxPossiblePayload := txInfo.CurrentPayloadSize - fOptLen }
    if ValidatePayloadLength s size datarate 0 = false then
      (LORAMAC_STATUS_LENGTH_ERROR, txInfo, s)
    else if ValidatePayloadLength s size datarate fOptLen = false then
      (LORAMAC_STATUS_MAC_CMD_LENGTH_ERROR, txInfo, s)
    else (LORAMAC_STATUS_OK, txInfo, s)
  else (LORAMAC_STATUS_MAC_CMD_LENGTH_ERROR, txInfo, s)

/-- The MAC commands that the query counts, in 8 bits: those of both buffers. -/
def Mac.fOptLen (s : Mac) : Nat :=
  (s.MacCommandsBufferIndex + s.MacCommandsBufferToRepeatIndex).toNat

/-- The query finds room for so many bytes next to the MAC commands. -/
def Mac.RoomFor (s : Mac) (size : Nat) : Prop :=
  size + s.fOptLen ≤ maxPayload s (nextDatarate s s.AdrCtrlOn)

/-- Whether the mask is to be updated makes no difference to the data rate. -/
theorem AdrNextDr_datarate (s : Mac) (adrEnabled updateChannelMask : Bool) :
    (AdrNextDr s adrEnabled updateChannelMask).2.1 = nextDatarate s adrEnabled := by
  unfold nextDatarate AdrNextDr
  dsimp only
  split_ifs <;> rfl

theorem AdrNextDr_unmasked (s : Mac) (adrEnabled : Bool) : ∃ counter,
    (AdrNextDr s adrEnabled false).2.2 = { s with AdrAckCounter := counter } := by
  unfold AdrNextDr
  dsimp only
  split
  · exact ⟨s.AdrAckCounter, rfl⟩
  · split
    · exact ⟨0, rfl⟩
    · split
      · rw [if_neg (fun h => Bool.false_ne_true h.2)]
        exact ⟨s.AdrAckCounter, rfl⟩
      · exact ⟨s.AdrAckCounter, rfl⟩

theorem ValidatePayloadLength_eq_true (s : Mac) (lenN : UInt8) (datarate : Int) (fOptsLen : UInt8) :
    ValidatePayloadLength s lenN datarate fOptsLen = true ↔
      lenN.toNat + fOptsLen.toNat ≤ maxPayload s datarate := by
  have hmax := maxPayload_le s datarate
  unfold ValidatePayloadLength LORAMAC_PHY_MAXPAYLOAD
  rw [Bool.and_eq_true, decide_eq_true_eq, decide_eq_true_eq]
  omega

/-- The state behind the query. -/
def queried (s : Mac) : Mac :=
  let t := (AdrNextDr s s.AdrCtrlOn false).2.2
  t.lookup [(nextDatarate s s.AdrCtrlOn, (maxPayloads t).length)]

theorem queried_eq (s : Mac) : ∃ counter lookups, queried s =
    { s with AdrAckCounter := counter, board := { s.board with lookups := lookups } } := by
  obtain ⟨counter, hcounter⟩ := AdrNextDr_unmasked s s.AdrCtrlOn
  unfold queried
  rw [hcounter]
  exact ⟨counter, _, rfl⟩

section Query

variable (s : Mac) (size : UInt8) (txInfo : LoRaMacTxInfo_t)

theorem LoRaMacQueryTxPossible_state :
    (LoRaMacQueryTxPossible s size txInfo).2.2 = queried s := by
  unfold LoRaMacQueryTxPossible queried
  dsimp only
  rw [AdrNextDr_datarate]
  split_ifs <;> rfl

theorem maxPayload_queried (datarate : Int) :
    maxPayload (queried s) datarate = maxPayload s datarate := by
  obtain ⟨counter, lookups, hqueried⟩ := queried_eq s
  rw [hqueried]
  rfl

theorem toNat_ofNat_maxPayload (datarate : Int) :
    (UInt8.ofNat (maxPayload s datarate)).toNat = maxPayload s datarate := by
  have hmax := maxPayload_le s datarate
  rw [UInt8.toNat_ofNat']
  omega

/-- The query in terms of the numbers that it compares. -/
theorem LoRaMacQueryTxPossible_eq :
    LoRaMacQueryTxPossible s size txInfo =
      let largest := maxPayload s (nextDatarate s s.AdrCtrlOn)
      if s.fOptLen ≤ largest then
        (if largest < size.toNat then LORAMAC_STATUS_LENGTH_ERROR
          else if largest < size.toNat + s.fOptLen then LORAMAC_STATUS_MAC_CMD_LENGTH_ERROR
          else LORAMAC_STATUS_OK,
          ⟨UInt8.ofNat largest - (s.MacCommandsBufferIndex + s.MacCommandsBufferToRepeatIndex),
            UInt8.ofNat largest⟩, queried s)
      else (LORAMAC_STATUS_MAC_CMD_LENGTH_ERROR,
        { txInfo with CurrentPayloadSize := UInt8.ofNat largest }, queried s) := by
  have hmax := maxPayload_queried s (nextDatarate s s.AdrCtrlOn)
  have hinvalid (fOptsLen : UInt8) : ValidatePayloadLength (queried s) size
      (nextDatarate s s.AdrCtrlOn) fOptsLen = false ↔
        maxPayload s (nextDatarate s s.AdrCtrlOn) < size.toNat + fOptsLen.toNat := by
    rw [← Bool.not_eq_true, ValidatePayloadLength_eq_true, hmax, Nat.not_le]
  have hroom : s.MacCommandsBufferIndex + s.MacCommandsBufferToRepeatIndex ≤
      UInt8.ofNat (maxPayload s (nextDatarate s s.AdrCtrlOn)) ↔
        s.fOptLen ≤ maxPayload s (nextDatarate s s.AdrCtrlOn) := by
    rw [UInt8.le_iff_toNat_le, toNat_ofNat_maxPayload]
    rfl
  unfold LoRaMacQueryTxPossible
  dsimp only
  rw [AdrNextDr_datarate]
  rw [show (AdrNextDr s s.AdrCtrlOn false).2.2.lookup [(nextDatarate s s.AdrCtrlOn,
    (maxPayloads (AdrNextDr s s.AdrCtrlOn false).2.2).length)] = queried s from rfl]
  simp only [hinvalid, hmax, hroom, UInt8.toNat_zero, Nat.add_zero]
  change (if s.fOptLen ≤ _ then if _ then _ else if _ < size.toNat + s.fOptLen then _ else _
    else _) = _
  split_ifs <;> rfl

/-- The query is answered with yes exactly when there is room. -/
theorem LoRaMacQueryTxPossible_ok :
    (LoRaMacQueryTxPossible s size txInfo).1 = LORAMAC_STATUS_OK ↔ s.RoomFor size.toNat := by
  rw [LoRaMacQueryTxPossible_eq]
  unfold Mac.RoomFor
  dsimp only
  split_ifs with hcommands hlong hlonger
  · exact iff_of_false (by decide) (by omega)
  · exact iff_of_false (by decide) (by omega)
  · exact iff_of_true rfl (by omega)
  · exact iff_of_false (by decide) (by omega)

/-- If there is room for anything, the query tells how much. -/
theorem isGreatest_MaxPossiblePayload (h : s.RoomFor size.toNat) :
    IsGreatest { n | (LoRaMacQueryTxPossible s n txInfo).1 = LORAMAC_STATUS_OK }
      (LoRaMacQueryTxPossible s size txInfo).2.1.MaxPossiblePayload := by
  have hmax := toNat_ofNat_maxPayload s (nextDatarate s s.AdrCtrlOn)
  have hcommands : s.fOptLen ≤ maxPayload s (nextDatarate s s.AdrCtrlOn) :=
    Nat.le_trans (Nat.le_add_left ..) h
  have hreported : (LoRaMacQueryTxPossible s size txInfo).2.1.MaxPossiblePayload.toNat =
      maxPayload s (nextDatarate s s.AdrCtrlOn) - s.fOptLen := by
    rw [LoRaMacQueryTxPossible_eq]
    dsimp only
    rw [if_pos hcommands]
    dsimp only
    rw [UInt8.toNat_sub_of_le _ _ (by rwa [UInt8.le_iff_toNat_le, hmax]), hmax]
    rfl
  constructor
  · rw [Set.mem_ofPred_eq, LoRaMacQueryTxPossible_ok, Mac.RoomFor, hreported]
    omega
  · intro n hn
    rw [Set.mem_ofPred_eq, LoRaMacQueryTxPossible_ok, Mac.RoomFor] at hn
    rw [UInt8.le_iff_toNat_le, hreported]
    omega

end Query

/-- What `LoRaMacMcpsRequest` makes of the result of `Send`. -/
def settleRequest (type : Mcps_t) : LoRaMacStatus_t × Mac → LoRaMacStatus_t × Mac
  | (LORAMAC_STATUS_OK, s) => (LORAMAC_STATUS_OK, { s.record .Accepted with
      McpsConfirm := { s.McpsConfirm with McpsRequest := type }
      LoRaMacFlags := { s.LoRaMacFlags with McpsReq := true } })
  | (status, s) => (status, { s with NodeAckRequested := false })

theorem settleRequest_fst (type : Mcps_t) (x : LoRaMacStatus_t × Mac) :
    (settleRequest type x).1 = x.1 := by
  obtain ⟨status, s⟩ := x
  cases status <;> rfl

/-- The frame is the one that `Send` has built, and so is the data rate. -/
theorem settleRequest_snd (type : Mcps_t) (x : LoRaMacStatus_t × Mac) :
    (settleRequest type x).2.framed = x.2.framed ∧ (settleRequest type x).2.limits = x.2.limits ∧
      (settleRequest type x).2.LoRaMacParams = x.2.LoRaMacParams := by
  obtain ⟨status, s⟩ := x
  cases status <;> exact ⟨rfl, rfl, rfl⟩

/-- The frame of a request in `LoRaMacBuffer`, ready to be scheduled. -/
structure Framed (s : Mac) (fBuffer : Option Mem) (fBufferSize : UInt16) (u : Mac) : Prop where
  prepared : u.PreparedFrame = some ⟨s.UpLinkCounter, fBuffer.map fun _ => fBufferSize⟩
  length : u.LoRaMacBufferPktLen = 13 + load s fBuffer fBufferSize
  fOpts : u.LoRaMacBufferPktLen = 13 + u.fOptsLen + fBufferSize.toNat
  view : u.unprepared.unrequested = s.unprepared.unrequested
  params : u.LoRaMacParams = (adaptDatarate s true).2.LoRaMacParams

theorem adaptDatarate_params_congr {s t : Mac} (hparams : t.LoRaMacParams = s.LoRaMacParams)
    (hcounter : t.AdrAckCounter = s.AdrAckCounter) (adrEnabled : Bool) :
    (adaptDatarate t adrEnabled).2.LoRaMacParams = (adaptDatarate s adrEnabled).2.LoRaMacParams := by
  unfold adaptDatarate AdrNextDr
  simp only [hparams, hcounter]
  split_ifs <;> simp only [hparams]

theorem framed_PrepareFrame {s : Mac} {macHdr : LoRaMacFrameType_t} (htype : macHdr.IsDataUp)
    (fPort : UInt8) {fBuffer : Option Mem} {fBufferSize : UInt16}
    (haccepts : Accepts s true fBuffer fBufferSize) (hbuffer : fBuffer.isSome = true)
    (hpos : 0 < fBufferSize) (hsmall : fBufferSize.toNat < 256) : ∃ u,
      PrepareFrame s macHdr ⟨0, false, false, false, true⟩ fPort fBuffer fBufferSize =
          (LORAMAC_STATUS_OK, u) ∧ Framed s fBuffer fBufferSize u := by
  have hprepare : PrepareFrame s macHdr ⟨0, false, false, false, true⟩ fPort fBuffer fBufferSize = _ :=
    PrepareFrame_accepted htype haccepts
  have hview := unprepared_PrepareFrame s macHdr ⟨0, false, false, false, true⟩ fPort fBuffer
    fBufferSize
  have hzero : (adrRequesting s ⟨0, false, false, false, true⟩).FOptsLen = 0 := rfl
  obtain ⟨hshaped, -, hlength⟩ := @shaped_buildDataFrame (adapted s macHdr true) _ fPort fBuffer
    fBufferSize hzero fun _ => hsmall
  have hparams : (buildDataFrame (adapted s macHdr true) (adrRequesting s
      ⟨0, false, false, false, true⟩) fPort fBuffer fBufferSize).LoRaMacParams =
        (adaptDatarate s true).2.LoRaMacParams := by
    have hranges := congrArg (·.2.1) (ranges_buildDataFrame (adapted s macHdr true)
      (adrRequesting s ⟨0, false, false, false, true⟩) fPort fBuffer fBufferSize)
    exact hranges.trans (adaptDatarate_params_congr (s := s) (t := startFrame s macHdr) rfl rfl true)
  have hcut : 0 < fBufferSize.toUInt8 := by
    rw [UInt8.lt_iff_toNat_lt, UInt16.toNat_toUInt8, Nat.mod_eq_of_lt hsmall]
    exact UInt16.lt_iff_toNat_lt.mp hpos
  rw [load_adapted] at hlength
  rw [hprepare] at hview
  have hcounter : (buildDataFrame (adapted s macHdr true) (adrRequesting s
      ⟨0, false, false, false, true⟩) fPort fBuffer fBufferSize).UpLinkCounter = s.UpLinkCounter :=
    (congrArg Mac.UpLinkCounter hview :)
  have hframe : (buildDataFrame (adapted s macHdr true) (adrRequesting s
      ⟨0, false, false, false, true⟩) fPort fBuffer fBufferSize).PreparedFrame =
        some ⟨s.UpLinkCounter, fBuffer.map fun _ => fBufferSize⟩ := by
    rw [← hcounter]
    rfl
  obtain ⟨buffer, rfl⟩ := Option.isSome_iff_exists.mp hbuffer
  refine ⟨_, hprepare, hframe, hlength rfl hcut, ?_, congrArg Mac.unrequested hview, hparams⟩
  refine (hshaped _ hframe).whole fBufferSize rfl fun hzero => ?_
  rw [hzero] at hpos
  exact absurd hpos (by decide)

theorem sendRequest_of_adr (s : Mac) (type : Mcps_t) (macHdr : LoRaMacFrameType_t) (fPort : UInt8)
    (fBuffer : Option Mem) (fBufferSize : UInt16) (datarate : Int) (hadr : s.AdrCtrlOn = true) :
    sendRequest s type macHdr fPort fBuffer fBufferSize datarate =
      (Send s macHdr fPort fBuffer fBufferSize).map (settleRequest type) := by
  unfold sendRequest
  rw [if_neg (by simp [hadr]), if_pos hadr]
  dsimp only
  generalize Send s macHdr fPort fBuffer fBufferSize = sent
  obtain _ | ⟨status, t⟩ := sent
  · rfl
  · cases status <;> rfl

/-- A data request that finds the MAC idle is sent. -/
theorem LoRaMacMcpsRequest_of_idle {s : Mac} {r : McpsReq_t} (hidle : s.busy = false)
    (hadr : s.AdrCtrlOn = true) (hdata : r.IsData) : ∃ u macHdr type, macHdr.IsDataUp ∧
      u.unrequested = s.unrequested ∧ u.LoRaMacParams = s.LoRaMacParams ∧
      LoRaMacMcpsRequest s r =
        (Send u macHdr r.fPort r.fBuffer r.fBufferSize).map (settleRequest type) := by
  unfold LoRaMacMcpsRequest
  rw [if_neg (busy_eq_false.mp hidle)]
  cases r with
  | Unconfirmed fPort fBuffer fBufferSize Datarate =>
    refine ⟨_, _, _, .inr rfl, ?_, ?_, sendRequest_of_adr _ _ _ _ _ _ _ hadr⟩ <;> rfl
  | Confirmed fPort fBuffer fBufferSize Datarate NbTrials =>
    refine ⟨_, _, _, .inl rfl, ?_, ?_, sendRequest_of_adr _ _ _ _ _ _ _ hadr⟩ <;> rfl
  | Proprietary fBuffer fBufferSize Datarate => rcases hdata with h | h <;> cases h
  | Multicast => rcases hdata with h | h <;> cases h

theorem Framed.of_requested {s t u : Mac} {fBuffer : Option Mem} {fBufferSize : UInt16}
    (h : Framed t fBuffer fBufferSize u) (hview : t.unrequested = s.unrequested)
    (hparams : t.LoRaMacParams = s.LoRaMacParams) : Framed s fBuffer fBufferSize u := by
  have hcounter : t.UpLinkCounter = s.UpLinkCounter := (congrArg Mac.UpLinkCounter hview :)
  have hload : load t fBuffer fBufferSize = load s fBuffer fBufferSize :=
    (congrArg (load · fBuffer fBufferSize) hview :)
  refine ⟨hcounter ▸ h.prepared, hload ▸ h.length, h.fOpts, h.view.trans ?_, h.params.trans ?_⟩
  · exact (congrArg Mac.unprepared hview :)
  · exact adaptDatarate_params_congr hparams (congrArg Mac.AdrAckCounter hview :) true

section Request

variable {s : Mac} {r : McpsReq_t} (hidle : s.busy = false) (hjoined : s.IsLoRaMacNetworkJoined = true)
  (hadr : s.AdrCtrlOn = true) (hdata : r.IsData) (hbuffer : r.fBuffer.isSome = true)
  (hpos : 0 < r.fBufferSize) (hsmall : r.fBufferSize.toNat < 256)
include hidle hjoined hadr hdata hbuffer hsmall

/-- The new MAC commands are let through with the request. -/
def Admitted (s : Mac) (r : McpsReq_t) : Prop :=
  r.fBufferSize.toNat + s.MacCommandsBufferIndex.toNat ≤ maxPayload s (nextDatarate s true)

omit hidle hjoined hadr hdata in
theorem admitted_iff {u : Mac} (hview : u.unrequested = s.unrequested)
    (hparams : u.LoRaMacParams = s.LoRaMacParams) :
    ValidatePayloadLength u (checkedLength r.fBuffer r.fBufferSize) (nextDatarate u true)
      u.MacCommandsBufferIndex = true ↔ Admitted s r := by
  have hindex : u.MacCommandsBufferIndex = s.MacCommandsBufferIndex :=
    (congrArg Mac.MacCommandsBufferIndex hview :)
  have hrate : nextDatarate u true = nextDatarate s true :=
    (AdrNextDr_congr true true (congrArg LoRaMacParams_t.ChannelsDatarate hparams)
      (congrArg Mac.AdrAckCounter hview :)).2
  have hmax (datarate : Int) : maxPayload u datarate = maxPayload s datarate :=
    (congrArg (maxPayload · datarate) hview :)
  have hlength : (checkedLength r.fBuffer r.fBufferSize).toNat = r.fBufferSize.toNat := by
    rw [checkedLength, if_pos hbuffer, UInt16.toNat_toUInt8, Nat.mod_eq_of_lt hsmall]
  rw [ValidatePayloadLength_eq_true, hlength, hindex, hrate, hmax]
  rfl

theorem LoRaMacMcpsRequest_of_not_admitted (h : ¬Admitted s r) : ∃ t,
    LoRaMacMcpsRequest s r = some (LORAMAC_STATUS_LENGTH_ERROR, t) := by
  obtain ⟨u, macHdr, type, htype, hview, hparams, hrequest⟩ :=
    LoRaMacMcpsRequest_of_idle hidle hadr hdata
  have hjoined' : u.IsLoRaMacNetworkJoined = true :=
    (congrArg Mac.IsLoRaMacNetworkJoined hview :).trans hjoined
  have hadr' : u.AdrCtrlOn = true := (congrArg Mac.AdrCtrlOn hview :).trans hadr
  have hprepare : PrepareFrame u macHdr ⟨0, false, false, false, true⟩ r.fPort r.fBuffer
      r.fBufferSize = (LORAMAC_STATUS_LENGTH_ERROR, adapted u macHdr true) := by
    rw [PrepareFrame_of_isDataUp htype, if_neg (by simp [hjoined']),
      if_neg (mt (admitted_iff hbuffer hsmall hview hparams).mp h)]
  have hsend : Send u macHdr r.fPort r.fBuffer r.fBufferSize =
      some (LORAMAC_STATUS_LENGTH_ERROR, adapted u macHdr true) := by
    unfold Send
    rw [hadr', hprepare]
  rw [hrequest, hsend]
  exact ⟨_, rfl⟩

include hpos in
theorem LoRaMacMcpsRequest_of_admitted (h : Admitted s r) : ∃ v type,
    Framed s r.fBuffer r.fBufferSize v ∧
      LoRaMacMcpsRequest s r = (ScheduleTx v).map (settleRequest type) := by
  obtain ⟨u, macHdr, type, htype, hview, hparams, hrequest⟩ :=
    LoRaMacMcpsRequest_of_idle hidle hadr hdata
  have hjoined' : u.IsLoRaMacNetworkJoined = true :=
    (congrArg Mac.IsLoRaMacNetworkJoined hview :).trans hjoined
  have hadr' : u.AdrCtrlOn = true := (congrArg Mac.AdrCtrlOn hview :).trans hadr
  have haccepts : Accepts u true r.fBuffer r.fBufferSize :=
    ⟨hjoined', (admitted_iff hbuffer hsmall hview hparams).mpr h⟩
  obtain ⟨v, hprepare, hframed⟩ := framed_PrepareFrame htype r.fPort haccepts hbuffer hpos hsmall
  have hframed := hframed.of_requested hview hparams
  have hsend : Send u macHdr r.fPort r.fBuffer r.fBufferSize = ScheduleTx { v with
      McpsConfirm := { v.McpsConfirm with
        NbRetries := 0, AckReceived := false, UpLinkCounter := v.UpLinkCounter } } := by
    unfold Send
    rw [hadr', hprepare]
  rw [hrequest, hsend]
  refine ⟨_, type, ?_, rfl⟩
  exact ⟨hframed.prepared, hframed.length, hframed.fOpts, hframed.view, hframed.params⟩

end Request

/-- The data frame of a node with ADR on finds no channel at its data rate: the device is on, the
aggregated limit does not put the frame off, and of the channels that `AdrNextDr` leaves enabled
none takes the data rate. -/
def Mac.Reverts (s : Mac) : Prop :=
  s.MaxDCycle ≠ 255 ∧ ¬s.PutOff ∧ candidateChannels (ensureMask (adaptDatarate s true).2) = []

/-- With the defaults restored there is a channel for the frame of the request, and the frame fits
in the default data rate. -/
@[mk_iff]
structure DefaultServes (s : Mac) (r : McpsReq_t) : Prop where
  channel : candidateChannels (restoreDefaults (adaptDatarate s true).2) ≠ []
  fits : load s r.fBuffer r.fBufferSize ≤ maxPayload s s.LoRaMacParamsDefaults.ChannelsDatarate

section Framed

variable {s v : Mac} {fBuffer : Option Mem} {fBufferSize : UInt16}
  (h : Framed s fBuffer fBufferSize v)
include h

theorem Framed.limits : v.limits = s.limits := (congrArg Mac.limits h.view :)

theorem Framed.sameChoice : SameChoice (adaptDatarate s true).2 v := by
  have hparams := h.params
  obtain ⟨counter, lookups, params, hadapted⟩ := adaptDatarate_snd s true
  rw [hadapted] at hparams ⊢
  exact ⟨hparams, (congrArg Mac.LoRaMacParamsDefaults h.view :), (congrArg Mac.Channels h.view :),
    (congrArg Mac.IsLoRaMacNetworkJoined h.view :)⟩

theorem Framed.fallsBack_iff (hjoined : s.IsLoRaMacNetworkJoined = true) :
    v.FallsBack ↔ s.Reverts := by
  have hjoined' : v.IsLoRaMacNetworkJoined = true :=
    (congrArg Mac.IsLoRaMacNetworkJoined h.view :).trans hjoined
  have hon : v.MaxDCycle = s.MaxDCycle := (congrArg Mac.MaxDCycle h.view :)
  have hputOff : v.PutOff ↔ s.PutOff := iff_of_eq (congrArg Mac.PutOff h.view :)
  unfold Mac.FallsBack Mac.Reverts
  rw [limited_backedOff_of_joined hjoined', hputOff, hon, h.sameChoice.ensureMask_eq]

/-- The frame is scheduled with the default data rate exactly when it reverts to that. -/
theorem Framed.datarate {t : Mac} {status : LoRaMacStatus_t}
    (hjoined : s.IsLoRaMacNetworkJoined = true) (hschedule : ScheduleTx v = some (status, t)) :
    (s.Reverts ∧ t.LoRaMacParams.ChannelsDatarate = s.LoRaMacParamsDefaults.ChannelsDatarate) ∨
      (¬s.Reverts ∧ t.LoRaMacParams.ChannelsDatarate = nextDatarate s true) := by
  have hdefaults : v.LoRaMacParamsDefaults = s.LoRaMacParamsDefaults :=
    (congrArg Mac.LoRaMacParamsDefaults h.view :)
  have hrate := ScheduleTx_datarate hschedule
  by_cases hfalls : v.FallsBack
  · rw [if_pos hfalls, hdefaults] at hrate
    exact .inl ⟨(h.fallsBack_iff hjoined).mp hfalls, hrate⟩
  · rw [if_neg hfalls, h.params] at hrate
    exact .inr ⟨mt (h.fallsBack_iff hjoined).mpr hfalls, hrate⟩

end Framed

/-- A second `AdrNextDr` comes to the same result as the one of the query. -/
theorem adr_queried (s : Mac) :
    nextDatarate (queried s) true = nextDatarate s true ∧
      (adaptDatarate (queried s) true).2.LoRaMacParams = (adaptDatarate s true).2.LoRaMacParams := by
  obtain ⟨counter, lookups, hqueried⟩ := queried_eq s
  have hparams : (queried s).LoRaMacParams = s.LoRaMacParams := by rw [hqueried]
  by_cases hmin : s.LoRaMacParams.ChannelsDatarate = LORAMAC_TX_MIN_DATARATE
  · -- Only here the query may reset the counter, and here nothing depends on it.
    unfold adaptDatarate nextDatarate AdrNextDr
    simp only [hparams, hmin, if_true, Bool.true_eq_false, if_false]
    exact ⟨trivial, trivial⟩
  · have hcounter : (queried s).AdrAckCounter = s.AdrAckCounter := by
      unfold queried AdrNextDr
      dsimp only
      rw [if_neg hmin]
      split_ifs <;> rfl
    exact ⟨(AdrNextDr_congr true true (congrArg LoRaMacParams_t.ChannelsDatarate hparams) hcounter).2,
      adaptDatarate_params_congr hparams hcounter true⟩

theorem framed_ScheduleTx {s t : Mac} {status : LoRaMacStatus_t}
    (h : ScheduleTx s = some (status, t)) :
    t.framed = s.framed ∧ t.limits = s.limits ∧ status ≠ LORAMAC_STATUS_LENGTH_ERROR ∧
      status ≠ LORAMAC_STATUS_BUSY := by
  rcases ScheduleTx_cases h with ⟨-, rfl, rfl⟩ | ⟨-, rfl, u, hu, rfl | ⟨time, rfl⟩⟩
  · exact ⟨rfl, rfl, by decide, by decide⟩
  · exact ⟨(congrArg Mac.framed hu.unchosen :), (congrArg Mac.limits hu.unchosen :), by decide,
      by decide⟩
  · exact ⟨(congrArg Mac.framed hu.unchosen :), (congrArg Mac.limits hu.unchosen :), by decide,
      by decide⟩

def Mac.payloadLength (s : Mac) : Nat := s.LoRaMacBufferPktLen - (13 + s.fOptsLen)

/-- In `LoRaMacBuffer` is the data frame of a request of so many bytes, and it fits in the data
rate in force. -/
structure Suits (s : Mac) (fBufferSize : UInt16) : Prop where
  built : ∃ counter, s.PreparedFrame = some ⟨counter, some fBufferSize⟩
  fits : s.fOptsLen + s.payloadLength ≤ maxPayload s s.LoRaMacParams.ChannelsDatarate

/-- A frame that has been scheduled fits when its load does. -/
theorem Framed.suits_iff {s v t : Mac} {fBuffer : Option Mem} {fBufferSize : UInt16}
    (h : Framed s fBuffer fBufferSize v) (hbuffer : fBuffer.isSome = true)
    (hframed : t.framed = v.framed) (hlimits : t.limits = v.limits) :
    Suits t fBufferSize ↔ load s fBuffer fBufferSize ≤
      maxPayload s t.LoRaMacParams.ChannelsDatarate := by
  have hprepared : t.PreparedFrame = v.PreparedFrame := congrArg (·.1) hframed
  have hlength : t.LoRaMacBufferPktLen = v.LoRaMacBufferPktLen := congrArg (·.2.2) hframed
  have hfOpts : t.fOptsLen = v.fOptsLen := by
    unfold Mac.fOptsLen
    rw [show t.LoRaMacBuffer = v.LoRaMacBuffer from congrArg (·.2.1) hframed]
  have hrepeater : t.RepeaterSupport = s.RepeaterSupport :=
    congrArg (·.1) (hlimits.trans h.limits)
  have hmax : maxPayload t t.LoRaMacParams.ChannelsDatarate =
      maxPayload s t.LoRaMacParams.ChannelsDatarate := by
    unfold maxPayload maxPayloads
    rw [hrepeater]
  have hload : t.fOptsLen + t.payloadLength = load s fBuffer fBufferSize := by
    have hheader := h.fOpts
    have hpkt := h.length
    unfold Mac.payloadLength
    omega
  obtain ⟨buffer, rfl⟩ := Option.isSome_iff_exists.mp hbuffer
  rw [← hload, ← hmax]
  exact ⟨Suits.fits, fun hfits => ⟨⟨_, hprepared.trans h.prepared⟩, hfits⟩⟩

/-- The answer yes to the query is kept by the request that comes next: it returns, and has built
the frame. And the query tells the largest size that has this answer. -/
def QueryKept (s : Mac) (r : McpsReq_t) (txInfo : LoRaMacTxInfo_t) : Prop :=
  let query := LoRaMacQueryTxPossible s r.fBufferSize.toUInt8 txInfo
  query.1 = LORAMAC_STATUS_OK →
    (∃ status t, LoRaMacMcpsRequest query.2.2 r = some (status, t) ∧
      status ≠ LORAMAC_STATUS_LENGTH_ERROR ∧ status ≠ LORAMAC_STATUS_BUSY ∧
        Suits t r.fBufferSize) ∧
    IsGreatest { n | (LoRaMacQueryTxPossible s n txInfo).1 = LORAMAC_STATUS_OK }
      query.2.1.MaxPossiblePayload

/-- What the frame of a request has to carry is not more than what the query counts. -/
theorem load_le {s : Mac} {r : McpsReq_t} (hbuffer : r.fBuffer.isSome = true)
    (hpos : 0 < r.fBufferSize) (hsmall : r.fBufferSize.toNat < 256) :
    load s r.fBuffer r.fBufferSize ≤ r.fBufferSize.toNat + s.fOptLen := by
  have hsize : r.fBufferSize.toUInt8.toNat = r.fBufferSize.toNat := by
    rw [UInt16.toNat_toUInt8, Nat.mod_eq_of_lt hsmall]
  have hcut : 0 < r.fBufferSize.toUInt8 := by
    rw [UInt8.lt_iff_toNat_lt, hsize]
    exact UInt16.lt_iff_toNat_lt.mp hpos
  have hcommands : s.commandsLength ≤ s.fOptLen := by
    unfold Mac.commandsLength
    split
    · exact Nat.le_refl _
    · exact Nat.zero_le _
  unfold load
  rw [if_pos ⟨hbuffer, hcut⟩, hsize]
  split <;> omega

/-- The frame of such a request, once it has been scheduled. -/
theorem Framed.scheduled_suits_iff {s v w : Mac} {r : McpsReq_t} {status : LoRaMacStatus_t}
    (h : Framed s r.fBuffer r.fBufferSize v) (hjoined : s.IsLoRaMacNetworkJoined = true)
    (hbuffer : r.fBuffer.isSome = true)
    (hload : load s r.fBuffer r.fBufferSize ≤ maxPayload s (nextDatarate s true))
    (hschedule : ScheduleTx v = some (status, w)) (type : Mcps_t) :
    Suits (settleRequest type (status, w)).2 r.fBufferSize ↔
      (s.Reverts → load s r.fBuffer r.fBufferSize ≤
        maxPayload s s.LoRaMacParamsDefaults.ChannelsDatarate) := by
  obtain ⟨hframed, hlimits, -⟩ := framed_ScheduleTx hschedule
  obtain ⟨hframed', hlimits', hparams⟩ := settleRequest_snd type (status, w)
  rw [h.suits_iff hbuffer (hframed'.trans hframed) (hlimits'.trans hlimits), hparams]
  rcases h.datarate hjoined hschedule with ⟨hreverts, hrate⟩ | ⟨hsame, hrate⟩
  · rw [hrate, imp_iff_right hreverts]
  · rw [hrate]
    exact iff_of_true hload fun hreverts => absurd hreverts hsame

section Requested

variable {s : Mac} {r : McpsReq_t} (hjoined : s.IsLoRaMacNetworkJoined = true)
  (hadr : s.AdrCtrlOn = true) (hdata : r.IsData) (hbuffer : r.fBuffer.isSome = true)
  (hpos : 0 < r.fBufferSize) (hsmall : r.fBufferSize.toNat < 256)
include hjoined hadr hdata hbuffer hpos hsmall

/-- The request that the query has found room for. -/
theorem request_suits_iff (hroom : s.RoomFor r.fBufferSize.toNat) :
    (∃ status t, LoRaMacMcpsRequest s r = some (status, t) ∧
      status ≠ LORAMAC_STATUS_LENGTH_ERROR ∧ status ≠ LORAMAC_STATUS_BUSY ∧
        Suits t r.fBufferSize) ↔
    s.busy = false ∧ Admitted s r ∧ (s.Reverts → DefaultServes s r) := by
  by_cases hidle : s.busy = false
  · rw [and_iff_right hidle]
    by_cases hadmitted : Admitted s r
    · obtain ⟨v, type, hframed, hrequest⟩ := LoRaMacMcpsRequest_of_admitted hidle hjoined hadr hdata
        hbuffer hpos hsmall hadmitted
      have hload : load s r.fBuffer r.fBufferSize ≤ maxPayload s (nextDatarate s true) := by
        unfold Mac.RoomFor at hroom
        rw [hadr] at hroom
        exact Nat.le_trans (load_le hbuffer hpos hsmall) hroom
      have hfalls := hframed.fallsBack_iff hjoined
      rw [and_iff_right hadmitted, hrequest]
      constructor
      · rintro ⟨status, t, h, -, -, hsuits⟩ hreverts
        obtain ⟨⟨status', w⟩, hschedule, hsettled⟩ := Option.map_eq_some_iff.mp h
        have hchannel := (ScheduleTx_isSome (hfalls.mpr hreverts)).mp (by rw [hschedule]; rfl)
        rw [hframed.sameChoice.restoreDefaults_eq] at hchannel
        have hsuits' : Suits (settleRequest type (status', w)).2 r.fBufferSize := by
          rw [hsettled]
          exact hsuits
        exact ⟨hchannel, (hframed.scheduled_suits_iff hjoined hbuffer hload hschedule type).mp
          hsuits' hreverts⟩
      · intro hdefault
        have hreturns : (ScheduleTx v).isSome = true := by
          rw [ScheduleTx_isSome_iff, hfalls, hframed.sameChoice.restoreDefaults_eq]
          exact fun hreverts => (hdefault hreverts).channel
        obtain ⟨⟨status, w⟩, hschedule⟩ := Option.isSome_iff_exists.mp hreturns
        obtain ⟨-, -, hlength, hfree⟩ := framed_ScheduleTx hschedule
        refine ⟨status, (settleRequest type (status, w)).2, ?_, hlength, hfree, ?_⟩
        · rw [hschedule]
          exact congrArg some (Prod.ext (settleRequest_fst type (status, w)) rfl)
        · exact (hframed.scheduled_suits_iff hjoined hbuffer hload hschedule type).mpr
            fun hreverts => (hdefault hreverts).fits
    · obtain ⟨t, hrequest⟩ := LoRaMacMcpsRequest_of_not_admitted hidle hjoined hadr hdata hbuffer
        hsmall hadmitted
      refine iff_of_false ?_ fun h => hadmitted h.1
      rintro ⟨status, t', h, hlength, -⟩
      cases hrequest.symm.trans h
      exact hlength rfl
  · have hrequest : LoRaMacMcpsRequest s r = some (LORAMAC_STATUS_BUSY, s) :=
      if_pos (not_not.mp (mt busy_eq_false.mpr hidle))
    refine iff_of_false ?_ fun h => hidle h.1
    rintro ⟨status, t, h, -, hfree, -⟩
    cases hrequest.symm.trans h
    exact hfree rfl

end Requested

/-- The query leaves what the request depends on. -/
theorem queried_spec (s : Mac) (r : McpsReq_t) :
    (queried s).busy = s.busy ∧ (Admitted (queried s) r ↔ Admitted s r) ∧
      ((queried s).Reverts ↔ s.Reverts) ∧ (DefaultServes (queried s) r ↔ DefaultServes s r) := by
  obtain ⟨hrate, hparams⟩ := adr_queried s
  obtain ⟨counter, lookups, hqueried⟩ := queried_eq s
  have hbusy : (queried s).busy = s.busy := by
    rw [hqueried]
    rfl
  have hadmitted : Admitted (queried s) r ↔ Admitted s r := by
    unfold Admitted
    rw [hrate, maxPayload_queried, hqueried]
  have hload : load (queried s) r.fBuffer r.fBufferSize = load s r.fBuffer r.fBufferSize := by
    rw [hqueried]
    rfl
  have hputOff : (queried s).PutOff ↔ s.PutOff := by
    rw [hqueried]
    rfl
  have hon : (queried s).MaxDCycle = s.MaxDCycle := by rw [hqueried]
  have hdefaults : (queried s).LoRaMacParamsDefaults = s.LoRaMacParamsDefaults := by rw [hqueried]
  have hsame : SameChoice (adaptDatarate s true).2 (adaptDatarate (queried s) true).2 := by
    obtain ⟨counter₁, lookups₁, params₁, hadapted₁⟩ := adaptDatarate_snd (queried s) true
    obtain ⟨counter₂, lookups₂, params₂, hadapted₂⟩ := adaptDatarate_snd s true
    refine ⟨hparams, ?_, ?_, ?_⟩ <;> rw [hadapted₁, hadapted₂, hqueried]
  have hreverts : (queried s).Reverts ↔ s.Reverts := by
    unfold Mac.Reverts
    rw [hon, hputOff, hsame.ensureMask_eq]
  have hserves : DefaultServes (queried s) r ↔ DefaultServes s r := by
    rw [defaultServes_iff, defaultServes_iff, hsame.restoreDefaults_eq, hload, maxPayload_queried,
      hdefaults]
  exact ⟨hbusy, hadmitted, hreverts, hserves⟩

/-- A personalised node with ADR on. -/
def Mac.adaptive (env : Env) : Mac := { Mac.personalised env with AdrCtrlOn := true }

def sendUnconfirmed (size : UInt16) : McpsReq_t := .Unconfirmed 1 (some fun _ => 0) size 0

/-- The upper layer chooses a data rate that none of the default channels takes, and DR_0 as the
default one. -/
def defaultZero : List Event :=
  [.request (.mib (.MIB_NETWORK_JOINED true)), .request (.mib (.MIB_ADR true)),
    .request (.mib (.MIB_CHANNELS_DEFAULT_DATARATE 0)),
    .request (.mib (.MIB_CHANNELS_DATARATE 7))]

end loranode.mac
