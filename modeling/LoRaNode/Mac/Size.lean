import LoRaNode.Mac.Layout
import LoRaNode.Mac.Range

namespace loranode.mac

open LoRaMacStatus_t LoRaMacFrameType_t

/-- The length of `FOpts` as the frame tells it. -/
def Transmission.fOptsLen (t : Transmission) : Nat :=
  (LoRaMacFrameCtrl_t.ofValue (t.bytes.getD 5 0)).FOptsLen

/-- The length of `FRMPayload`: what is left of the frame without header, port and MIC. -/
def Transmission.payloadLength (t : Transmission) : Nat := t.size - (13 + t.fOptsLen)

/-- A data frame of a legal size: it fits in `LoRaMacBuffer` and in the data rate, and it has the
whole payload of its request. -/
structure Legal (t : Transmission) : Prop where
  size : t.size ≤ LORAMAC_PHY_MAXPAYLOAD
  maxPayload : t.fOptsLen + t.payloadLength ≤ t.maxPayload
  whole (tag : FrameTag) (n : UInt16) : t.frame = some tag → tag.fBufferSize = some n → n ≠ 0 →
    t.payloadLength = n.toNat

/-- The frame in `LoRaMacBuffer` fits in a data rate. A header without `FOpts`, the port and the MIC
take 13 bytes. -/
def Fits (s : Mac) (datarate : Int) : Prop := s.LoRaMacBufferPktLen ≤ 13 + maxPayload s datarate

def Mac.fOptsLen (s : Mac) : Nat := (LoRaMacFrameCtrl_t.ofValue (s.LoRaMacBuffer 5)).FOptsLen

/-- The data frame in `LoRaMacBuffer` has a header, and the payload of the request that it was
built from. -/
structure Shaped (s : Mac) (tag : FrameTag) : Prop where
  header : 12 ≤ s.LoRaMacBufferPktLen
  fOpts : s.fOptsLen = 0 ∨ 13 + s.fOptsLen ≤ s.LoRaMacBufferPktLen
  whole (n : UInt16) : tag.fBufferSize = some n → n ≠ 0 →
    s.LoRaMacBufferPktLen = 13 + s.fOptsLen + n.toNat

/-- Every data frame up to now has a legal size, and the one in `LoRaMacBuffer` is well formed. -/
structure Sized (s : Mac) : Prop where
  shaped : ∀ tag ∈ s.PreparedFrame, Shaped s tag
  sent (t : Transmission) : .Send t ∈ s.board.log → t.frame.isSome = true → Legal t

theorem maxPayload_le (s : Mac) (datarate : Int) : maxPayload s datarate ≤ 242 := by
  have hle : ∀ n ∈ maxPayloads s, n ≤ 242 := by
    unfold maxPayloads
    split <;> decide
  unfold maxPayload
  rw [List.getD_eq_getElem?_getD]
  rcases hn : (maxPayloads s)[datarate.toNat]? with _ | n
  · simp
  · exact hle n (List.mem_of_getElem? hn)

/-- A well-formed frame that fits in the data rate is legal. -/
theorem Shaped.legal {s : Mac} {tag : FrameTag} (hs : Shaped s tag)
    (hframe : s.PreparedFrame = some tag) (hfits : Fits s s.LoRaMacParams.ChannelsDatarate)
    (channel : ChannelParams_t) : Legal (transmission s channel) := by
  have hmax := maxPayload_le s s.LoRaMacParams.ChannelsDatarate
  have hheader := hs.header
  unfold Fits at hfits
  have hlength : s.LoRaMacBufferPktLen % 256 = s.LoRaMacBufferPktLen := by omega
  have hbyte : (s.LoRaMacBuffer.read 0 (s.LoRaMacBufferPktLen % 256)).getD 5 0 =
      s.LoRaMacBuffer 5 := by
    rw [Mem.getD_read _ _ _ _ (by omega)]
  have hfOpts : (transmission s channel).fOptsLen = s.fOptsLen := by
    unfold Transmission.fOptsLen transmission Mac.fOptsLen
    rw [hbyte]
  have hpayload : (transmission s channel).payloadLength =
      s.LoRaMacBufferPktLen - (13 + s.fOptsLen) := by
    unfold Transmission.payloadLength
    rw [hfOpts]
    rfl
  refine ⟨?_, ?_, fun tag' n htag hn hpos => ?_⟩
  · change s.LoRaMacBufferPktLen ≤ 255
    omega
  · rw [hfOpts, hpayload]
    change _ ≤ maxPayload s s.LoRaMacParams.ChannelsDatarate
    have hopts := hs.fOpts
    omega
  · have hsame : tag = tag' := Option.some.inj (hframe.symm.trans htag)
    rw [hpayload, hs.whole n (hsame ▸ hn) hpos]
    omega

/-- The frame in `LoRaMacBuffer`. -/
def Mac.framed (s : Mac) : Option FrameTag × Mem × Nat :=
  (s.PreparedFrame, s.LoRaMacBuffer, s.LoRaMacBufferPktLen)

/-- The table of the largest payloads, and the default data rate. -/
def Mac.limits (s : Mac) : Bool × Int :=
  (s.RepeaterSupport, s.LoRaMacParamsDefaults.ChannelsDatarate)

theorem fits_congr {s t : Mac} (h : t.framed = s.framed) (hlimits : t.limits = s.limits)
    (datarate : Int) : Fits t datarate ↔ Fits s datarate := by
  have hlength : t.LoRaMacBufferPktLen = s.LoRaMacBufferPktLen := congrArg (·.2.2) h
  have hrepeater : t.RepeaterSupport = s.RepeaterSupport := congrArg (·.1) hlimits
  unfold Fits maxPayload maxPayloads
  rw [hlength, hrepeater]

theorem Shaped.congr {s t : Mac} {tag : FrameTag} (hs : Shaped s tag) (h : t.framed = s.framed) :
    Shaped t tag := by
  have hlength : t.LoRaMacBufferPktLen = s.LoRaMacBufferPktLen := congrArg (·.2.2) h
  have hfOpts : t.fOptsLen = s.fOptsLen := by
    unfold Mac.fOptsLen
    rw [show t.LoRaMacBuffer = s.LoRaMacBuffer from congrArg (·.2.1) h]
  refine ⟨?_, ?_, fun n => ?_⟩
  · rw [hlength]
    exact hs.header
  · rw [hlength, hfOpts]
    exact hs.fOpts
  · rw [hlength, hfOpts]
    exact hs.whole n

namespace Sized

/-- The log may grow by actions that are no data frames. -/
theorem grow {s t : Mac} (hs : Sized s) (h : t.framed = s.framed)
    (hlog : ∀ sent : Transmission, .Send sent ∈ t.board.log → .Send sent ∈ s.board.log ∨
      (sent.frame.isSome = true → Legal sent)) : Sized t := by
  refine ⟨fun tag htag => ?_, fun sent hmem hframe => ?_⟩
  · have hframe : t.PreparedFrame = s.PreparedFrame := congrArg (·.1) h
    exact (hs.shaped tag (hframe ▸ htag)).congr h
  · rcases hlog sent hmem with hold | hlegal
    · exact hs.sent sent hold hframe
    · exact hlegal hframe

theorem congr {s t : Mac} (hs : Sized s) (h : t.framed = s.framed)
    (hlog : t.board.log = s.board.log) : Sized t :=
  hs.grow h fun _ hmem => .inl (hlog ▸ hmem)

theorem record {s t : Mac} {a : Action} (hs : Sized s) (ha : ∀ sent, a ≠ .Send sent)
    (h : t.framed = s.framed) (hlog : t.board.log = s.board.log ++ [a]) : Sized t := by
  refine hs.grow h fun sent hmem => .inl ?_
  rw [hlog, List.mem_append, List.mem_singleton] at hmem
  exact hmem.resolve_right fun heq => ha sent heq.symm

end Sized

/-- The frame fits in the data rate, and in the default one that `ScheduleTx` falls back to. -/
def FitsScheduled (s : Mac) (datarate : Int) : Prop :=
  Fits s datarate ∧ Fits s s.LoRaMacParamsDefaults.ChannelsDatarate

/-- What scheduling leaves of the state as far as the size of frames is concerned. -/
theorem sized_ScheduleTx {s t : Mac} {status : LoRaMacStatus_t}
    (h : ScheduleTx s = some (status, t)) (hs : Sized s)
    (hfits : s.PreparedFrame.isSome = true → FitsScheduled s s.LoRaMacParams.ChannelsDatarate) :
    Sized t ∧ t.framed = s.framed ∧ t.limits = s.limits ∧
      (t.LoRaMacParams.ChannelsDatarate = s.LoRaMacParams.ChannelsDatarate ∨
        t.LoRaMacParams.ChannelsDatarate = s.LoRaMacParamsDefaults.ChannelsDatarate) := by
  rcases ScheduleTx_cases h with ⟨-, -, rfl⟩ | ⟨-, -, u, hu, ht⟩
  · exact ⟨hs, rfl, rfl, .inl rfl⟩
  · have hview : u.framed = s.framed := (congrArg Mac.framed hu.unchosen :)
    have hlimits : u.limits = s.limits := (congrArg Mac.limits hu.unchosen :)
    have hlog : u.board.log = s.board.log := (congrArg (·.board.log) hu.unchosen :)
    have hsized : Sized u := hs.congr hview hlog
    rcases ht with rfl | ⟨time, rfl⟩
    · refine ⟨hsized.grow rfl fun sent hmem => ?_, hview, hlimits, hu.datarate⟩
      rcases List.mem_append.mp hmem with hold | hnew
      · exact .inl hold
      · refine .inr fun hframe => ?_
        cases List.mem_singleton.mp hnew
        obtain ⟨tag, htag⟩ := Option.isSome_iff_exists.mp hframe
        have htag : u.PreparedFrame = some tag := htag
        have hprepared : s.PreparedFrame = some tag :=
          (congrArg (·.1) hview : u.PreparedFrame = s.PreparedFrame) ▸ htag
        obtain ⟨hcurrent, hdefault⟩ := hfits (by rw [hprepared]; rfl)
        refine (hsized.shaped tag htag).legal htag ?_ _
        rw [fits_congr hview hlimits]
        rcases hu.datarate with hsame | hback
        · rw [hsame]
          exact hcurrent
        · rw [hback]
          exact hdefault
    · exact ⟨hsized.congr rfl rfl, hview, hlimits, hu.datarate⟩

/-- The MAC commands that are to go into the next frame, in bytes. -/
def Mac.commandsLength (s : Mac) : Nat :=
  if s.MacCommandsInNextTx then
    (s.MacCommandsBufferIndex + s.MacCommandsBufferToRepeatIndex).toNat
  else 0

/-- What a frame has to carry for a request: its payload, with the MAC commands next to it unless
they are too many, or the MAC commands alone. A size without a buffer counts. -/
def load (s : Mac) (fBuffer : Option Mem) (fBufferSize : UInt16) : Nat :=
  if fBuffer.isSome = true ∧ 0 < fBufferSize.toUInt8 then
    (if s.commandsLength ≤ LORA_MAC_COMMAND_MAX_LENGTH then s.commandsLength else 0) +
      fBufferSize.toUInt8.toNat
  else if 0 < s.commandsLength then s.commandsLength
  else fBufferSize.toUInt8.toNat

theorem placePayload_front (s : Mac) (plan : FramePlan) {i : Nat} (hi : i < plan.pktHeaderLen) :
    (placePayload s plan).2.LoRaMacBuffer i = s.LoRaMacBuffer i := by
  unfold placePayload
  cases plan.payload with
  | none => rfl
  | some payload =>
    dsimp only
    split
    · dsimp only
      rw [Mem.write_of_lt (by omega), Mem.write_of_lt hi]
    · rfl

theorem placePayload_length (s : Mac) (plan : FramePlan) : (placePayload s plan).1 =
    plan.pktHeaderLen + (if plan.payload.isSome = true ∧ 0 < plan.payloadSize then 1 else 0) := by
  unfold placePayload
  cases plan.payload with
  | none => simp
  | some payload =>
    dsimp only
    split
    · next hpos => simp [hpos]
    · next hpos => simp [hpos]

/-- `FOptsLen` in the header, and what the frame has room for behind it. -/
structure Planned (s u : Mac) (fBuffer : Option Mem) (fBufferSize : UInt16) (plan : FramePlan) :
    Prop where
  header : plan.pktHeaderLen = 8 + u.fOptsLen
  payload : fBuffer.isSome = true → 0 < fBufferSize.toUInt8 →
    plan.payload.isSome = true ∧ plan.payloadSize = fBufferSize.toUInt8
  empty : u.fOptsLen = 0 ∨ plan.payload.isSome = true ∧ 0 < plan.payloadSize
  load : u.fOptsLen + plan.payloadSize.toNat = load s fBuffer fBufferSize

theorem planned_placeMacCommands {s t : Mac} (fCtrl : LoRaMacFrameCtrl_t) (fPort : UInt8)
    (fBuffer : Option Mem) (fBufferSize : UInt16)
    (hindex : t.MacCommandsBufferIndex =
      s.MacCommandsBufferIndex + s.MacCommandsBufferToRepeatIndex)
    (hnext : t.MacCommandsInNextTx = s.MacCommandsInNextTx) (hzero : fCtrl.FOptsLen = 0)
    (hctrl : t.LoRaMacBuffer 5 = fCtrl.Value) :
    Planned s (placeMacCommands t fCtrl fPort fBuffer fBufferSize.toUInt8).2 fBuffer fBufferSize
      (placeMacCommands t fCtrl fPort fBuffer fBufferSize.toUInt8).1 := by
  have hempty : t.fOptsLen = 0 := by
    unfold Mac.fOptsLen
    rw [hctrl, LoRaMacFrameCtrl_t.ofValue_Value _ (by omega), hzero]
  have hlength : s.commandsLength = if t.MacCommandsInNextTx then t.MacCommandsBufferIndex.toNat
      else 0 := by
    rw [hindex, hnext]
    rfl
  unfold placeMacCommands
  by_cases hpayload : fBuffer.isSome = true ∧ 0 < fBufferSize.toUInt8
  · rw [if_pos hpayload]
    by_cases hfew : t.MacCommandsBufferIndex.toNat ≤ LORA_MAC_COMMAND_MAX_LENGTH ∧
        t.MacCommandsInNextTx = true
    · rw [if_pos hfew]
      have hlt : t.MacCommandsBufferIndex.toNat ≤ 15 := hfew.1
      rw [if_pos hfew.2] at hlength
      have hvalue : LoRaMacFrameCtrl_t.FOptsLen (.ofValue { fCtrl with
          FOptsLen := (fCtrl.FOptsLen + t.MacCommandsBufferIndex.toNat) % 16 }.Value) =
          t.MacCommandsBufferIndex.toNat := by
        rw [LoRaMacFrameCtrl_t.ofValue_Value _ (Nat.mod_lt _ (by omega))]
        change (fCtrl.FOptsLen + t.MacCommandsBufferIndex.toNat) % 16 = _
        omega
      refine ⟨?_, fun _ _ => ⟨hpayload.1, rfl⟩, .inr hpayload, ?_⟩
      · exact (congrArg (8 + ·) (Mem.length_read ..)).trans (congrArg (8 + ·) hvalue.symm)
      · unfold load
        rw [if_pos hpayload, hlength, if_pos hfew.1]
        exact congrArg (· + fBufferSize.toUInt8.toNat) hvalue
    · rw [if_neg hfew]
      refine ⟨?_, fun _ _ => ⟨hpayload.1, rfl⟩, .inl hempty, ?_⟩
      · rw [hempty]
      · unfold load
        rw [if_pos hpayload, hempty]
        congr 1
        split
        · next hle =>
          rw [hlength] at hle ⊢
          split
          · next hin =>
            rw [if_pos hin] at hle
            exact absurd ⟨hle, hin⟩ hfew
          · rfl
        · rfl
  · rw [if_neg hpayload]
    have hnone (hsome : fBuffer.isSome = true) (hpos : 0 < fBufferSize.toUInt8) : False :=
      hpayload ⟨hsome, hpos⟩
    by_cases hcommands : 0 < t.MacCommandsBufferIndex ∧ t.MacCommandsInNextTx = true
    · rw [if_pos hcommands]
      rw [if_pos hcommands.2] at hlength
      have hpos : 0 < t.MacCommandsBufferIndex.toNat := hcommands.1
      refine ⟨?_, fun hsome hpos => (hnone hsome hpos).elim, .inr ⟨rfl, hcommands.1⟩, ?_⟩
      · exact congrArg (8 + ·) hempty.symm
      · unfold load
        rw [if_neg hpayload, hlength, if_pos hpos]
        exact (congrArg (· + _) hempty).trans (Nat.zero_add _)
    · rw [if_neg hcommands]
      refine ⟨?_, fun hsome hpos => (hnone hsome hpos).elim, .inl hempty, ?_⟩
      · rw [hempty]
      · have hzero' : s.commandsLength = 0 := by
          rw [hlength]
          split
          · next hin =>
            exact Nat.eq_zero_of_not_pos fun hpos => hcommands ⟨hpos, hin⟩
          · rfl
        unfold load
        rw [if_neg hpayload, hzero', if_neg (Nat.lt_irrefl 0), hempty, Nat.zero_add]

/-- A data frame is well formed, and no longer than what it has to carry. -/
theorem shaped_buildDataFrame (s : Mac) {fCtrl : LoRaMacFrameCtrl_t} (fPort : UInt8)
    {fBuffer : Option Mem} {fBufferSize : UInt16} (hzero : fCtrl.FOptsLen = 0)
    (hsize : fBuffer.isSome = true → fBufferSize.toNat < 256) :
    (∀ tag ∈ (buildDataFrame s fCtrl fPort fBuffer fBufferSize).PreparedFrame,
        Shaped (buildDataFrame s fCtrl fPort fBuffer fBufferSize) tag) ∧
      (buildDataFrame s fCtrl fPort fBuffer fBufferSize).LoRaMacBufferPktLen ≤
        13 + load s fBuffer fBufferSize ∧
      (fBuffer.isSome = true → 0 < fBufferSize.toUInt8 →
        (buildDataFrame s fCtrl fPort fBuffer fBufferSize).LoRaMacBufferPktLen =
          13 + load s fBuffer fBufferSize) := by
  have hctrl : (acknowledging s fCtrl).FOptsLen = 0 := by
    unfold acknowledging
    split <;> exact hzero
  obtain ⟨plan, u, hplace⟩ : ∃ plan u, placeMacCommands (collectMacCommands (startDataFrame s fCtrl))
      (acknowledging s fCtrl) fPort fBuffer fBufferSize.toUInt8 = (plan, u) := ⟨_, _, rfl⟩
  have hplanned : Planned s u fBuffer fBufferSize plan := by
    have hplanned := planned_placeMacCommands (s := s)
      (t := collectMacCommands (startDataFrame s fCtrl)) (acknowledging s fCtrl) fPort fBuffer
      fBufferSize rfl rfl hctrl rfl
    rw [hplace] at hplanned
    exact hplanned
  have hfront := placePayload_front (retireMacCommands u) plan
    (show 5 < plan.pktHeaderLen by rw [hplanned.header]; omega)
  have hlength := placePayload_length (retireMacCommands u) plan
  rw [buildDataFrame_eq s fCtrl fPort fBuffer fBufferSize hplace]
  generalize placePayload (retireMacCommands u) plan = placed at hfront hlength
  obtain ⟨pktHeaderLen, v⟩ := placed
  dsimp only at hfront hlength ⊢
  have hheader := hplanned.header
  have hfOpts : (placeMic v (pktHeaderLen + plan.payloadSize.toNat)
      (fBuffer.map fun _ => fBufferSize)).fOptsLen = u.fOptsLen := by
    unfold Mac.fOptsLen placeMic
    dsimp only
    rw [Mem.write_of_lt (by omega), hfront]
    rfl
  generalize hplaced : placeMic v (pktHeaderLen + plan.payloadSize.toNat)
    (fBuffer.map fun _ => fBufferSize) = t at hfOpts
  have hpkt : t.LoRaMacBufferPktLen = pktHeaderLen + plan.payloadSize.toNat + 4 := by
    rw [← hplaced]
    rfl
  have htag : ∀ tag ∈ t.PreparedFrame, tag.fBufferSize = fBuffer.map fun _ => fBufferSize := by
    rw [← hplaced]
    rintro tag ⟨⟩
    rfl
  have hload := hplanned.load
  refine ⟨fun tag hmem => ⟨by omega, ?_, fun n hn hpos => ?_⟩, ?_, fun hsome hpos => ?_⟩
  · rw [hfOpts]
    rcases hplanned.empty with hempty | hpayload
    · exact .inl hempty
    · rw [if_pos hpayload] at hlength
      exact .inr (by omega)
  · rw [htag tag hmem] at hn
    obtain ⟨buffer, rfl, rfl⟩ := Option.map_eq_some_iff.mp hn
    have hcut : fBufferSize.toUInt8.toNat = fBufferSize.toNat := by
      rw [UInt16.toNat_toUInt8]
      exact Nat.mod_eq_of_lt (hsize rfl)
    have hpos' : 0 < fBufferSize.toUInt8 := by
      rw [UInt8.lt_iff_toNat_lt, hcut]
      exact Nat.pos_of_ne_zero fun h => hpos (UInt16.toNat.inj h)
    obtain ⟨hsome, hplanSize⟩ := hplanned.payload rfl hpos'
    rw [if_pos ⟨hsome, hplanSize ▸ hpos'⟩] at hlength
    rw [hplanSize, hcut] at hpkt
    omega
  · split at hlength <;> omega
  · obtain ⟨hpayload, hplanSize⟩ := hplanned.payload hsome hpos
    rw [if_pos ⟨hpayload, hplanSize ▸ hpos⟩] at hlength
    omega

theorem load_adapted (s : Mac) (macHdr : LoRaMacFrameType_t) (adrEnabled : Bool)
    (fBuffer : Option Mem) (fBufferSize : UInt16) :
    load (adapted s macHdr adrEnabled) fBuffer fBufferSize = load s fBuffer fBufferSize :=
  (congrArg (load · fBuffer fBufferSize) (unframed_adapted s macHdr adrEnabled) :)

theorem preparedFrame_of_not_isDataUp {s : Mac} {macHdr : LoRaMacFrameType_t}
    (fCtrl : LoRaMacFrameCtrl_t) (fPort : UInt8) (fBuffer : Option Mem) (fBufferSize : UInt16)
    (htype : ¬ macHdr.IsDataUp) :
    (PrepareFrame s macHdr fCtrl fPort fBuffer fBufferSize).2.PreparedFrame = none := by
  cases macHdr with
  | FRAME_TYPE_DATA_CONFIRMED_UP => exact absurd (.inl rfl) htype
  | FRAME_TYPE_DATA_UNCONFIRMED_UP => exact absurd (.inr rfl) htype
  | FRAME_TYPE_PROPRIETARY =>
    change (prepareProprietary _ fBuffer fBufferSize).PreparedFrame = none
    unfold prepareProprietary
    cases fBuffer with
    | none => rfl
    | some buffer =>
      dsimp only
      split <;> rfl
  | _ => rfl

section Prepare

variable {s : Mac} {macHdr : LoRaMacFrameType_t} {adr : Bool} {fPort : UInt8}
  {fBuffer : Option Mem} {fBufferSize : UInt16}

theorem preparedFrame_of_not_accepts (htype : macHdr.IsDataUp)
    (haccepts : ¬ Accepts s adr fBuffer fBufferSize) :
    (PrepareFrame s macHdr ⟨0, false, false, false, adr⟩ fPort fBuffer
      fBufferSize).2.PreparedFrame = none := by
  rw [PrepareFrame_of_isDataUp htype]
  split
  · rfl
  · next hjoined =>
    split
    · next hvalid => exact absurd ⟨Bool.eq_true_of_not_eq_false hjoined, hvalid⟩ haccepts
    · obtain ⟨counter, lookups, params, hview⟩ := adaptDatarate_snd (startFrame s macHdr) adr
      exact (congrArg Mac.PreparedFrame hview :)

/-- The frame that a request leaves in `LoRaMacBuffer`, if it is a data frame. -/
theorem shaped_PrepareFrame
    (hsize : macHdr.IsDataUp → Accepts s adr fBuffer fBufferSize → fBuffer.isSome = true →
      fBufferSize.toNat < 256) :
    ∀ tag ∈ (PrepareFrame s macHdr ⟨0, false, false, false, adr⟩ fPort fBuffer
        fBufferSize).2.PreparedFrame,
      Shaped (PrepareFrame s macHdr ⟨0, false, false, false, adr⟩ fPort fBuffer fBufferSize).2 tag ∧
        macHdr.IsDataUp ∧ Accepts s adr fBuffer fBufferSize ∧
        (PrepareFrame s macHdr ⟨0, false, false, false, adr⟩ fPort fBuffer
          fBufferSize).2.LoRaMacBufferPktLen ≤ 13 + load s fBuffer fBufferSize := by
  intro tag htag
  by_cases htype : macHdr.IsDataUp
  · by_cases haccepts : Accepts s adr fBuffer fBufferSize
    · have hprepare : PrepareFrame s macHdr ⟨0, false, false, false, adr⟩ fPort fBuffer fBufferSize =
          _ := PrepareFrame_accepted htype haccepts
      have hzero : (adrRequesting s ⟨0, false, false, false, adr⟩).FOptsLen = 0 := rfl
      obtain ⟨hshaped, hlength, -⟩ := shaped_buildDataFrame (adapted s macHdr adr) fPort hzero
        (hsize htype haccepts)
      rw [load_adapted] at hlength
      rw [hprepare] at htag ⊢
      exact ⟨hshaped tag htag, htype, haccepts, hlength⟩
    · rw [preparedFrame_of_not_accepts htype haccepts] at htag
      cases htag
  · rw [preparedFrame_of_not_isDataUp _ _ _ _ htype] at htag
    cases htag

theorem datarate_PrepareFrame (htype : macHdr.IsDataUp)
    (haccepts : Accepts s adr fBuffer fBufferSize) :
    (PrepareFrame s macHdr ⟨0, false, false, false, adr⟩ fPort fBuffer
      fBufferSize).2.LoRaMacParams.ChannelsDatarate = nextDatarate s adr := by
  have hprepare : PrepareFrame s macHdr ⟨0, false, false, false, adr⟩ fPort fBuffer fBufferSize =
      _ := PrepareFrame_accepted htype haccepts
  have hparams := congrArg (·.2.1.ChannelsDatarate) (ranges_buildDataFrame (adapted s macHdr adr)
    (adrRequesting s ⟨0, false, false, false, adr⟩) fPort fBuffer fBufferSize)
  rw [hprepare]
  refine hparams.trans ?_
  exact (AdrNextDr_congr (s := s) (t := startFrame s macHdr) adr true rfl rfl).2

end Prepare

/-- The data rate of a request: ADR goes on from the last one. -/
def requestDatarate (s : Mac) (r : McpsReq_t) : Int :=
  if s.AdrCtrlOn then nextDatarate s true else r.Datarate

/-- The MAC accepts a request for data: it is idle and joined, and the length check passes. -/
def Admits (s : Mac) (r : McpsReq_t) : Prop :=
  s.LoRaMacState.MAC_TX_RUNNING = false ∧ s.LoRaMacState.MAC_TX_DELAYED = false ∧
    s.IsLoRaMacNetworkJoined = true ∧
    ValidatePayloadLength s (checkedLength r.fBuffer r.fBufferSize) (requestDatarate s r)
      s.MacCommandsBufferIndex = true

/-- The request has less than 256 bytes, and these fit in the data rate and in the default one
together with all MAC commands that are to go with them. -/
structure FitsRequest (s : Mac) (r : McpsReq_t) : Prop where
  size : r.fBuffer.isSome = true → r.fBufferSize.toNat < 256
  datarate : load s r.fBuffer r.fBufferSize ≤ maxPayload s (requestDatarate s r)
  default : load s r.fBuffer r.fBufferSize ≤
    maxPayload s s.LoRaMacParamsDefaults.ChannelsDatarate

theorem sized_Send {s t : Mac} {macHdr : LoRaMacFrameType_t} {fPort : UInt8}
    {fBuffer : Option Mem} {fBufferSize : UInt16} {status : LoRaMacStatus_t}
    (h : Send s macHdr fPort fBuffer fBufferSize = some (status, t)) (hs : Sized s)
    (hfits : macHdr.IsDataUp → Accepts s s.AdrCtrlOn fBuffer fBufferSize →
      (fBuffer.isSome = true → fBufferSize.toNat < 256) ∧
        load s fBuffer fBufferSize ≤ maxPayload s (nextDatarate s s.AdrCtrlOn) ∧
        load s fBuffer fBufferSize ≤ maxPayload s s.LoRaMacParamsDefaults.ChannelsDatarate) :
    Sized t := by
  obtain ⟨status', u, hframe, hout⟩ := Send_cases h
  have hview := unprepared_PrepareFrame s macHdr ⟨0, false, false, false, s.AdrCtrlOn⟩ fPort fBuffer
    fBufferSize
  have hshaped := @shaped_PrepareFrame s macHdr s.AdrCtrlOn fPort fBuffer fBufferSize
    fun htype haccepts => (hfits htype haccepts).1
  rw [hframe] at hview hshaped
  have hlog : u.board.log = s.board.log := (congrArg (·.board.log) hview :)
  have hu : Sized u := ⟨fun tag htag => (hshaped tag htag).1, fun sent hmem =>
    hs.sent sent (hlog ▸ hmem)⟩
  rcases hout with ⟨-, -, rfl⟩ | ⟨-, hschedule⟩
  · exact hu
  · refine (sized_ScheduleTx hschedule (hu.congr rfl rfl) fun hsome => ?_).1
    obtain ⟨tag, htag⟩ := Option.isSome_iff_exists.mp hsome
    obtain ⟨-, htype, haccepts, hlength⟩ := hshaped tag htag
    obtain ⟨-, hdatarate, hdefault⟩ := hfits htype haccepts
    have hrate := @datarate_PrepareFrame s macHdr s.AdrCtrlOn fPort fBuffer fBufferSize htype haccepts
    rw [hframe] at hrate
    have hmax (datarate : Int) : maxPayload u datarate = maxPayload s datarate :=
      (congrArg (maxPayload · datarate) hview :)
    have hdefaults : u.LoRaMacParamsDefaults = s.LoRaMacParamsDefaults :=
      (congrArg Mac.LoRaMacParamsDefaults hview :)
    constructor
    · change u.LoRaMacBufferPktLen ≤ 13 + maxPayload u u.LoRaMacParams.ChannelsDatarate
      rw [hmax, hrate]
      exact hlength.trans (Nat.add_le_add_left hdatarate 13)
    · change u.LoRaMacBufferPktLen ≤ 13 + maxPayload u u.LoRaMacParamsDefaults.ChannelsDatarate
      rw [hmax, hdefaults]
      exact hlength.trans (Nat.add_le_add_left hdefault 13)

/-- The request is for a data frame. -/
def McpsReq_t.IsData (r : McpsReq_t) : Prop :=
  r.macHdr = some FRAME_TYPE_DATA_CONFIRMED_UP ∨ r.macHdr = some FRAME_TYPE_DATA_UNCONFIRMED_UP

theorem nextDatarate_of_requested {s u : Mac} {r : McpsReq_t} (hu : Requested r s u) :
    nextDatarate u u.AdrCtrlOn = requestDatarate s r := by
  have hadr : u.AdrCtrlOn = s.AdrCtrlOn := (congrArg Mac.AdrCtrlOn hu.unrequested :)
  have hcounter : u.AdrAckCounter = s.AdrAckCounter := (congrArg Mac.AdrAckCounter hu.unrequested :)
  have hdatarate := hu.datarate
  unfold requestDatarate
  rw [hadr]
  split
  · next hon =>
    rw [if_pos hon] at hdatarate
    rw [hon]
    exact (AdrNextDr_congr true true hdatarate hcounter).2
  · next hoff =>
    rw [if_neg hoff] at hdatarate
    rw [Bool.eq_false_of_not_eq_true hoff]
    exact hdatarate

theorem sized_LoRaMacMcpsRequest {s t : Mac} {r : McpsReq_t} {status : LoRaMacStatus_t}
    (h : LoRaMacMcpsRequest s r = some (status, t)) (hs : Sized s)
    (hfits : r.IsData → Admits s r → FitsRequest s r) : Sized t := by
  rcases LoRaMacMcpsRequest_cases h with ⟨-, -, rfl⟩ | ⟨⟨hidle, hundelayed⟩, ⟨-, hview, -⟩ | ⟨u, v,
    macHdr, status', type, hmacHdr, hrequested, hsend, hout⟩⟩
  · exact hs
  · exact hs.congr (congrArg Mac.framed hview :) (congrArg (·.board.log) hview :)
  · have hview := hrequested.unrequested
    have hu : Sized u := hs.congr (congrArg Mac.framed hview :) (congrArg (·.board.log) hview :)
    have hdatarate := nextDatarate_of_requested hrequested
    have hmax (datarate : Int) : maxPayload u datarate = maxPayload s datarate :=
      (congrArg (maxPayload · datarate) hview :)
    have hload : load u r.fBuffer r.fBufferSize = load s r.fBuffer r.fBufferSize :=
      (congrArg (load · r.fBuffer r.fBufferSize) hview :)
    have hdefaults : u.LoRaMacParamsDefaults = s.LoRaMacParamsDefaults :=
      (congrArg Mac.LoRaMacParamsDefaults hview :)
    have hv : Sized v := by
      refine sized_Send hsend hu fun htype haccepts => ?_
      have hadmits : Admits s r := by
        refine ⟨hidle, hundelayed, ?_, ?_⟩
        · have hjoined : u.IsLoRaMacNetworkJoined = s.IsLoRaMacNetworkJoined :=
            (congrArg Mac.IsLoRaMacNetworkJoined hview :)
          exact hjoined.symm.trans haccepts.1
        · have hvalid := haccepts.2
          rw [hdatarate] at hvalid
          have hsame : ValidatePayloadLength u (checkedLength r.fBuffer r.fBufferSize)
              (requestDatarate s r) u.MacCommandsBufferIndex =
              ValidatePayloadLength s (checkedLength r.fBuffer r.fBufferSize)
                (requestDatarate s r) s.MacCommandsBufferIndex :=
            (congrArg (fun v => ValidatePayloadLength v (checkedLength r.fBuffer r.fBufferSize)
              (requestDatarate s r) v.MacCommandsBufferIndex) hview :)
          exact hsame.symm.trans hvalid
      have hdata : r.IsData := by
        rcases htype with rfl | rfl
        · exact .inl hmacHdr
        · exact .inr hmacHdr
      have hfit := hfits hdata hadmits
      rw [hload, hmax, hmax, hdatarate, hdefaults]
      exact ⟨hfit.size, hfit.datarate, hfit.default⟩
    rcases hout with ⟨-, -, rfl⟩ | ⟨-, -, rfl⟩
    · exact hv.record (a := .Accepted) (fun _ => by simp) rfl rfl
    · exact hv.congr rfl rfl

/-- The state check has made `t` of `s`, and may have sent the frame once more. -/
structure Resent (s t : Mac) : Prop where
  sized : Sized t
  framed : t.framed = s.framed
  limits : t.limits = s.limits
  trials : t.trials = s.trials
  datarate : t.LoRaMacParams.ChannelsDatarate = s.LoRaMacParams.ChannelsDatarate ∨
    t.LoRaMacParams.ChannelsDatarate = s.LoRaMacParamsDefaults.ChannelsDatarate
  delayed : t.LoRaMacState.MAC_TX_DELAYED = false → s.LoRaMacState.MAC_TX_DELAYED = false

theorem resent_checkRepetition {s t : Mac} (h : checkRepetition s = some t) (hs : Sized s)
    (hfits : s.repeatable → s.PreparedFrame.isSome = true →
      FitsScheduled s s.LoRaMacParams.ChannelsDatarate) : Resent s t := by
  rcases checkRepetition_cases h with ⟨-, rfl⟩ | ⟨-, ⟨counter, rfl, -⟩ | ⟨hrepeatable, repetitions,
    status, hschedule⟩⟩
  · exact ⟨hs, rfl, rfl, rfl, .inl rfl, id⟩
  · exact ⟨hs.congr rfl rfl, rfl, rfl, rfl, .inl rfl, id⟩
  · obtain ⟨hsized, hframed, hlimits, hdatarate⟩ := sized_ScheduleTx hschedule (hs.congr rfl rfl)
      (hfits hrepeatable)
    have hdelayed := delayed_ScheduleTx hschedule
    exact ⟨hsized, hframed, hlimits, (congrArg Mac.trials (unscheduled_ScheduleTx hschedule) :),
      hdatarate, hdelayed⟩

/-- The data rate of the next trial, from the one before. -/
def retryDatarate (s : Mac) (datarate : Int) : Int :=
  if (s.AckTimeoutRetriesCounter + 1) % 2 = 1 then max (datarate - 1) LORAMAC_TX_MIN_DATARATE
  else datarate

theorem datarate_nextTrial (s : Mac) : (nextTrial s).LoRaMacParams.ChannelsDatarate =
    retryDatarate s s.LoRaMacParams.ChannelsDatarate := by
  unfold nextTrial retryDatarate
  dsimp only
  split <;> rfl

/-- The frame fits in the data rates of the next trial. -/
def FitsRetry (s : Mac) : Prop :=
  FitsScheduled s (retryDatarate s s.LoRaMacParams.ChannelsDatarate) ∧
    Fits s (retryDatarate s s.LoRaMacParamsDefaults.ChannelsDatarate)

theorem sized_checkAckTimeout {s u t : Mac} (h : checkAckTimeout (checkAck u) = some t)
    (hu : Resent s u) (hfits : s.retriable → s.PreparedFrame.isSome = true → FitsRetry s) :
    Sized t := by
  rcases checkAckTimeout_checkAck_cases h with ⟨hretriable, status, hschedule⟩ | hsettled
  · refine (sized_ScheduleTx hschedule (hu.sized.congr rfl rfl) fun hsome => ?_).1
    have hprepared : u.PreparedFrame = s.PreparedFrame := congrArg (·.1) hu.framed
    obtain ⟨⟨hcurrent, hdefault⟩, hlowered⟩ :=
      hfits (retriable_of_trials hu.trials hu.delayed hretriable) (hprepared ▸ hsome)
    have hmoved (datarate : Int) :
        Fits (nextTrial { u with AckTimeoutRetry := false }) datarate ↔ Fits s datarate :=
      fits_congr hu.framed hu.limits datarate
    have hcounter : u.AckTimeoutRetriesCounter = s.AckTimeoutRetriesCounter :=
      congrArg (·.2.1) hu.trials
    have hrate (datarate : Int) :
        retryDatarate { u with AckTimeoutRetry := false } datarate = retryDatarate s datarate := by
      unfold retryDatarate
      rw [hcounter]
    have hback : u.LoRaMacParamsDefaults.ChannelsDatarate =
        s.LoRaMacParamsDefaults.ChannelsDatarate := congrArg (·.2) hu.limits
    rw [datarate_nextTrial, hrate]
    refine ⟨(hmoved _).mpr ?_, (hmoved _).mpr ?_⟩
    · change Fits s (retryDatarate s u.LoRaMacParams.ChannelsDatarate)
      rcases hu.datarate with hsame | hdefaulted
      · rw [hsame]
        exact hcurrent
      · rw [hdefaulted]
        exact hlowered
    · change Fits s u.LoRaMacParamsDefaults.ChannelsDatarate
      rw [hback]
      exact hdefault
  · have hlog : t.board.log = u.board.log := (congrArg (·.board.log) hsettled :)
    exact hu.sized.congr (congrArg Mac.framed hsettled :) hlog

theorem sized_completeCycle {s t : Mac} (h : completeCycle s = some t) (hs : Sized s)
    (hrepeats : Repeats s → s.PreparedFrame.isSome = true →
      FitsScheduled s s.LoRaMacParams.ChannelsDatarate)
    (hretries : Retries s → s.PreparedFrame.isSome = true → FitsRetry s) : Sized t := by
  obtain ⟨confirm, u, hconfirm, hu, hut⟩ := completeCycle_parts h
  have hsized : Sized (s.ended confirm) := hs.congr rfl rfl
  have hresent : Resent (s.ended confirm) u := by
    rcases hu with ⟨hcase, hu⟩ | ⟨-, rfl⟩
    · exact resent_checkRepetition hu hsized fun hrepeatable =>
        hrepeats ⟨hcase.1, hcase.2, hrepeatable⟩
    · exact ⟨hsized, rfl, rfl, rfl, .inl rfl, id⟩
  exact sized_checkAckTimeout hut hresent fun hretriable =>
    hretries (retries_of_retriable hconfirm hretriable)

theorem sized_indicate {s : Mac} (hs : Sized s) : Sized (indicate s) := by
  unfold indicate
  split
  · exact hs.record (a := .MacMcpsIndication s.McpsIndication _) (fun _ => by simp) rfl rfl
  · exact hs

theorem sized_confirmMlme {s : Mac} (hs : Sized s) : Sized (confirmMlme s) := by
  unfold confirmMlme
  split
  · exact hs.record (a := .MacMlmeConfirm s.MlmeConfirm) (fun _ => by simp) rfl rfl
  · exact sized_indicate (hs.congr rfl rfl)

theorem sized_confirmRequests {s : Mac} (hs : Sized s) : Sized (confirmRequests s) := by
  unfold confirmRequests confirmMcps
  split
  · split
    · exact hs.record (a := .MacMcpsConfirm s.McpsConfirm) (fun _ => by simp) rfl rfl
    · exact sized_confirmMlme hs
  · exact sized_indicate (hs.congr rfl rfl)

theorem framed_OnRadioTxDone (s : Mac) : (OnRadioTxDone s).framed = s.framed :=
  (congrArg Mac.framed (unaired_OnRadioTxDone s) :)

theorem sized_joinRequest {s t : Mac} (hs : Sized s) (hprepared : t.PreparedFrame = none)
    (hlog : t.board.log = s.board.log) : Sized t := by
  refine ⟨fun tag htag => ?_, fun sent hmem => hs.sent sent (hlog ▸ hmem)⟩
  rw [hprepared] at htag
  cases htag

theorem sized_OnTxDelayedTimerEvent {s t : Mac} (h : OnTxDelayedTimerEvent s = some t) (hs : Sized s)
    (hfits : s.joining = false → s.PreparedFrame.isSome = true →
      FitsScheduled s s.LoRaMacParams.ChannelsDatarate) : Sized t := by
  obtain ⟨u, status, hschedule, ⟨hjoining, rfl⟩ | ⟨-, rfl⟩⟩ := OnTxDelayedTimerEvent_cases h
  · exact (sized_ScheduleTx hschedule (hs.congr rfl rfl) (hfits hjoining)).1
  · have hview := unprepared_PrepareFrame s.undelayed FRAME_TYPE_JOIN_REQ
      ⟨0, false, false, false, s.AdrCtrlOn⟩ 0 none 0
    refine (sized_ScheduleTx hschedule
      (sized_joinRequest hs rfl (congrArg (·.board.log) hview :)) fun hsome => ?_).1
    cases hsome

theorem sized_LoRaMacMlmeRequest {s t : Mac} {r : MlmeReq_t} {status : LoRaMacStatus_t}
    (h : LoRaMacMlmeRequest s r = some (status, t)) (hs : Sized s) : Sized t := by
  have hout {x : LoRaMacStatus_t × Mac} (heq : (status, t) = mlmeOutcome x) (hx : Sized x.2) :
      Sized t := by
    have ht : t = (mlmeOutcome x).2 := congrArg Prod.snd heq
    rw [ht]
    unfold mlmeOutcome
    split
    · exact hx
    · exact hx.congr rfl rfl
  rcases LoRaMacMlmeRequest_cases h with ⟨-, rfl, -⟩ | ⟨-, ⟨-, -, rfl⟩ | ⟨DevEui, AppEui, AppKey, v,
    status', -, -, hsend, houtcome⟩ | ⟨-, houtcome⟩⟩
  · exact hs
  · exact hs.congr rfl rfl
  · refine hout houtcome (sized_Send hsend (hs.congr rfl rfl) fun htype => ?_)
    rcases htype with htype | htype <;> cases htype
  · refine hout houtcome (hs.congr ?_ ?_)
    · exact (congrArg Mac.framed (uncommanded_AddMacCommand _ _ _ _) :)
    · exact (congrArg (·.board.log) (uncommanded_AddMacCommand _ _ _ _) :)

/-- The events that keep every data frame at a legal size. A request has to fit with all MAC
commands that go with it, and a frame that was built before has to fit in the data rates that it
may be sent at now. -/
def KeepsSize (s : Mac) : Event → Prop
  | .request (.mcps r) => r.IsData → Admits s r → FitsRequest s r
  | .macStateCheckTimer => s.LoRaMacFlags.MacDone = true → s.PreparedFrame.isSome = true →
      (Repeats s → FitsScheduled s s.LoRaMacParams.ChannelsDatarate) ∧ (Retries s → FitsRetry s)
  | .txDelayedTimer => s.joining = false → s.PreparedFrame.isSome = true →
      FitsScheduled s s.LoRaMacParams.ChannelsDatarate
  | _ => True

instance (s : Mac) (datarate : Int) : Decidable (Fits s datarate) :=
  inferInstanceAs (Decidable (_ ≤ _))

instance (s : Mac) (datarate : Int) : Decidable (FitsScheduled s datarate) :=
  inferInstanceAs (Decidable (_ ∧ _))

instance (s : Mac) : Decidable (FitsRetry s) := inferInstanceAs (Decidable (_ ∧ _))

instance (r : McpsReq_t) : Decidable r.IsData := inferInstanceAs (Decidable (_ ∨ _))

instance (s : Mac) (r : McpsReq_t) : Decidable (Admits s r) :=
  inferInstanceAs (Decidable (_ ∧ _ ∧ _ ∧ _))

instance (s : Mac) (r : McpsReq_t) : Decidable (FitsRequest s r) :=
  decidable_of_iff ((r.fBuffer.isSome = true → r.fBufferSize.toNat < 256) ∧
      load s r.fBuffer r.fBufferSize ≤ maxPayload s (requestDatarate s r) ∧
      load s r.fBuffer r.fBufferSize ≤ maxPayload s s.LoRaMacParamsDefaults.ChannelsDatarate)
    ⟨fun h => ⟨h.1, h.2.1, h.2.2⟩, fun h => ⟨h.size, h.datarate, h.default⟩⟩

instance (s : Mac) (e : Event) : Decidable (KeepsSize s e) :=
  match e with
  | .request (.mcps r) => inferInstanceAs (Decidable (r.IsData → Admits s r → FitsRequest s r))
  | .macStateCheckTimer => inferInstanceAs (Decidable (s.LoRaMacFlags.MacDone = true →
      s.PreparedFrame.isSome = true →
        (Repeats s → FitsScheduled s s.LoRaMacParams.ChannelsDatarate) ∧ (Retries s → FitsRetry s)))
  | .txDelayedTimer => inferInstanceAs (Decidable (s.joining = false →
      s.PreparedFrame.isSome = true → FitsScheduled s s.LoRaMacParams.ChannelsDatarate))
  | .request (.mlme _) | .request (.mib _) | .request (.channelAdd _ _) | .request (.channelRemove _)
  | .request (.multicastLink _) | .request (.multicastUnlink _) | .upperReturn | .radio _
  | .rxWindowTimer1 | .rxWindowTimer2 | .ackTimeoutTimer => .isTrue trivial

theorem sized_step {s t : Mac} {e : Event} (h : step s e = some t) (he : KeepsSize s e)
    (hs : Sized s) : Sized t := by
  cases moved_of_step h with
  | received hreceived _ =>
    exact hs.congr (congrArg Mac.framed hreceived.control :)
      (congrArg (·.board.log) hreceived.control :)
  | mcps hmcps => exact sized_LoRaMacMcpsRequest hmcps hs he
  | mlme hmlme => exact sized_LoRaMacMlmeRequest hmlme hs
  | mib hidle =>
    exact hs.congr (congrArg Mac.framed (unset_mibSet s _) :)
      (congrArg (·.board.log) (unset_mibSet s _) :)
  | @upperReturn p hinside =>
    cases p with
    | MacMcpsConfirm => exact sized_confirmMlme (hs.congr rfl rfl)
    | MacMlmeConfirm => exact sized_indicate (hs.congr rfl rfl)
    | MacMcpsIndication => exact hs.congr rfl rfl
  | txDone =>
    exact hs.record (a := .TxDone (s.env.clock s.board.reads)) (fun _ => by simp)
      (framed_OnRadioTxDone _) (log_OnRadioTxDone _)
  | txTimeout =>
    exact hs.record (a := .TxTimeout) (fun _ => by simp)
      (congrArg Mac.framed (light_OnRadioTxTimeout _).quiet :)
      (congrArg (·.board.log) (light_OnRadioTxTimeout _).quiet :)
  | stateCheck _ _ hcheck =>
    obtain ⟨u, rfl, hu⟩ := OnMacStateCheckTimerEvent_cases hcheck
    have hcycle : Sized u := by
      rcases hu with ⟨-, rfl⟩ | ⟨hdone, hcycle⟩
      · exact hs.congr rfl rfl
      · exact sized_completeCycle hcycle (hs.congr rfl rfl) (fun hrepeats hsome =>
          (he hdone hsome).1 hrepeats) fun hretries hsome => (he hdone hsome).2 hretries
    exact sized_confirmRequests (hcycle.congr rfl rfl)
  | txDelayed _ _ hdelayed => exact sized_OnTxDelayedTimerEvent hdelayed hs he

/-- In every run of such events, each data frame that the radio is given has a legal size: at most
the largest payload of the data rate it is sent at, also where that is lowered for another trial,
after `AdrNextDr`, or set back to the default one because no channel was found. -/
theorem legal_of_keepsSize {env : Env} {es : List Event} {s : Mac}
    (hrun : Runs KeepsSize (Mac.boot env) es s) (t : Transmission) (ht : .Send t ∈ s.board.log)
    (hframe : t.frame.isSome = true) : Legal t := by
  have hboot : Sized (Mac.boot env) := ⟨fun _ htag => (nomatch htag), fun _ hmem => (nomatch hmem)⟩
  have hs : Sized s := hrun.invariant hboot fun _ _ _ hs he hstep => sized_step hstep he hs
  exact hs.sent t ht hframe

/-- A node with a session sends some bytes. -/
def sendBytes (size : UInt16) : List Event :=
  [.request (.mib (.MIB_NETWORK_JOINED true)),
    .request (.mcps (.Unconfirmed 1 (some fun _ => 0) size 5))]

/-- The first action is a data frame. -/
def firstFrame : List Action → Option Transmission
  | .Send t :: _ => if t.frame.isSome then some t else none
  | _ => none

theorem mem_of_firstFrame {log : List Action} {t : Transmission} (h : firstFrame log = some t) :
    .Send t ∈ log ∧ t.frame.isSome = true := by
  unfold firstFrame at h
  split at h
  · split at h
    · next hframe =>
      cases h
      exact ⟨List.mem_cons_self, hframe⟩
    · cases h
  · cases h

theorem legal_of_keepsSize_sendBytes :
    ∃ s t, Runs KeepsSize (Mac.boot Env.plain) (sendBytes 200) s ∧ firstFrame s.board.log = some t ∧
      Legal t := by
  obtain ⟨s, hrun, hs⟩ := transition.Run.of_after step KeepsSize (Mac.boot Env.plain) (sendBytes 200)
    (fun s => (firstFrame s.board.log).isSome) (by decide +kernel)
  obtain ⟨t, ht⟩ := Option.isSome_iff_exists.mp hs
  obtain ⟨hmem, hframe⟩ := mem_of_firstFrame ht
  exact ⟨s, t, hrun, ht, legal_of_keepsSize hrun t hmem hframe⟩

/-- Of 300 bytes the frame has 44. -/
theorem not_legal_sendBytes :
    ∃ s t, Runs (fun _ _ => True) (Mac.boot Env.plain) (sendBytes 300) s ∧
      firstFrame s.board.log = some t ∧ t.payloadLength = 44 ∧ ¬ Legal t := by
  obtain ⟨s, hrun, hs⟩ := transition.Run.of_after step (fun _ _ => True) (Mac.boot Env.plain)
    (sendBytes 300) (fun s => (firstFrame s.board.log).map (fun t => (t.payloadLength, t.frame)) =
      some (44, some ⟨1, some 300⟩)) (by decide +kernel)
  obtain ⟨t, ht, hfields⟩ := Option.map_eq_some_iff.mp (of_decide_eq_true hs)
  obtain ⟨hlength, hframe⟩ := Prod.mk.inj hfields
  refine ⟨s, t, hrun, ht, hlength, fun hlegal => ?_⟩
  have hwhole := hlegal.whole _ 300 hframe rfl (by decide)
  rw [hlength] at hwhole
  exact absurd hwhole (by decide)

end loranode.mac
