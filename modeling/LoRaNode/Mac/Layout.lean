import LoRaNode.Mac.Downlink

namespace loranode.mac

open LoRaMacStatus_t LoRaMacFrameType_t

/-- The bytes of a data frame in front of its MIC; `body` is the port with the encrypted
payload, or nothing. -/
def uplinkBytes (macHdr : UInt8) (address : UInt32) (fCtrl : LoRaMacFrameCtrl_t) (counter : UInt16)
    (fOpts body : List UInt8) : List UInt8 :=
  [macHdr] ++ bytes32 address ++ [fCtrl.Value] ++ bytes16 counter ++ fOpts ++ body

/-- The bytes that `LoRaMacPayloadEncrypt` writes. -/
def encrypted (env : Env) (buffer : Mem) (size : Nat) (key : List UInt8) (address : UInt32)
    (dir : UInt8) (sequenceCounter : UInt32) : List UInt8 :=
  (List.range size).map fun i =>
    buffer i ^^^ env.aes_encrypt key (aBlock address dir sequenceCounter (i / 16 + 1)) (i % 16)

@[simp] theorem length_encrypted (env : Env) (buffer : Mem) (size : Nat) (key : List UInt8)
    (address : UInt32) (dir : UInt8) (sequenceCounter : UInt32) :
    (encrypted env buffer size key address dir sequenceCounter).length = size := by
  simp [encrypted]

theorem read_LoRaMacPayloadEncrypt (env : Env) (buffer : Mem) (size : Nat) (key : List UInt8)
    (address : UInt32) (dir : UInt8) (sequenceCounter : UInt32) (encBuffer : Mem) :
    (LoRaMacPayloadEncrypt env buffer size key address dir sequenceCounter encBuffer).read 0 size =
      encrypted env buffer size key address dir sequenceCounter := by
  have hread := Mem.read_write_self encBuffer 0
    (encrypted env buffer size key address dir sequenceCounter)
  rw [length_encrypted] at hread
  exact hread

/-- The MAC commands that go into `FOpts`. -/
def plannedFOpts (s : Mac) (fBuffer : Option Mem) (payloadSize : UInt8) : List UInt8 :=
  if fBuffer.isSome = true ∧ 0 < payloadSize then
    if s.MacCommandsBufferIndex.toNat ≤ LORA_MAC_COMMAND_MAX_LENGTH ∧
        s.MacCommandsInNextTx = true then
      s.MacCommandsBuffer.read 0 s.MacCommandsBufferIndex.toNat
    else []
  else []

/-- The frame control with the length of `FOpts`. -/
def LoRaMacFrameCtrl_t.withFOpts (fCtrl : LoRaMacFrameCtrl_t) (fOpts : List UInt8) :
    LoRaMacFrameCtrl_t :=
  { fCtrl with FOptsLen := (fCtrl.FOptsLen + fOpts.length) % 16 }

theorem LoRaMacFrameCtrl_t.Value_withFOpts_nil (fCtrl : LoRaMacFrameCtrl_t) :
    (fCtrl.withFOpts []).Value = fCtrl.Value := by
  simp [withFOpts, Value]

theorem LoRaMacFrameCtrl_t.ofValue_Value (fCtrl : LoRaMacFrameCtrl_t) (hlength : fCtrl.FOptsLen < 16) :
    ofValue fCtrl.Value = fCtrl := by
  have hall : ∀ (n : Fin 16) (pending ack adrAckReq adr : Bool),
      ofValue (Value ⟨n, pending, ack, adrAckReq, adr⟩) = ⟨n, pending, ack, adrAckReq, adr⟩ := by
    decide +kernel
  exact hall ⟨fCtrl.FOptsLen, hlength⟩ _ _ _ _

/-- The port and the encrypted payload of a plan. -/
def FramePlan.body (plan : FramePlan) (s : Mac) : List UInt8 :=
  match plan.payload with
  | none => []
  | some payload =>
    if 0 < plan.payloadSize then
      plan.framePort :: encrypted s.env payload plan.payloadSize.toNat
        (if plan.framePort = 0 then s.LoRaMacNwkSKey else s.LoRaMacAppSKey) s.LoRaMacDevAddr UP_LINK
        s.UpLinkCounter
    else []

theorem placeMacCommands_plan (s : Mac) (fCtrl : LoRaMacFrameCtrl_t) (fPort : UInt8)
    (fBuffer : Option Mem) (payloadSize : UInt8) :
    (placeMacCommands s fCtrl fPort fBuffer payloadSize).1.pktHeaderLen =
      8 + (plannedFOpts s fBuffer payloadSize).length := by
  unfold placeMacCommands plannedFOpts
  split
  · split <;> rfl
  · split <;> rfl

/-- The plan depends on the MAC commands only. -/
theorem placeMacCommands_fst_congr {s t : Mac} (hbuffer : t.MacCommandsBuffer = s.MacCommandsBuffer)
    (hindex : t.MacCommandsBufferIndex = s.MacCommandsBufferIndex)
    (hnext : t.MacCommandsInNextTx = s.MacCommandsInNextTx) (fCtrl fCtrl' : LoRaMacFrameCtrl_t)
    (fPort : UInt8) (fBuffer : Option Mem) (payloadSize : UInt8) :
    (placeMacCommands t fCtrl' fPort fBuffer payloadSize).1 =
      (placeMacCommands s fCtrl fPort fBuffer payloadSize).1 := by
  unfold placeMacCommands
  rw [hbuffer, hindex, hnext]
  split
  · split <;> rfl
  · split <;> rfl

/-- The header of the frame: `FCtrl` gets the length of `FOpts` afterwards. -/
theorem read_placeMacCommands (s : Mac) (fCtrl : LoRaMacFrameCtrl_t) (fPort : UInt8)
    (fBuffer : Option Mem) (payloadSize : UInt8) {macHdr : UInt8} {address : UInt32}
    {counter : UInt16}
    (hheader : s.LoRaMacBuffer.read 0 8 = uplinkBytes macHdr address fCtrl counter [] []) :
    (placeMacCommands s fCtrl fPort fBuffer payloadSize).2.LoRaMacBuffer.read 0
        (8 + (plannedFOpts s fBuffer payloadSize).length) =
      uplinkBytes macHdr address (fCtrl.withFOpts (plannedFOpts s fBuffer payloadSize)) counter
        (plannedFOpts s fBuffer payloadSize) [] := by
  have hempty : s.LoRaMacBuffer.read 0 8 =
      uplinkBytes macHdr address (fCtrl.withFOpts []) counter [] [] := by
    rw [hheader]
    simp only [uplinkBytes, fCtrl.Value_withFOpts_nil]
  unfold placeMacCommands plannedFOpts
  split
  · split
    · have hsplit : s.LoRaMacBuffer.read 0 5 ++ s.LoRaMacBuffer.read 5 1 ++
          s.LoRaMacBuffer.read 6 2 =
          ([macHdr] ++ bytes32 address) ++ [fCtrl.Value] ++ bytes16 counter := by
        simpa [uplinkBytes, Mem.read_add _ 0 5 3, Mem.read_add _ 5 1 2] using hheader
      obtain ⟨hfront, hback⟩ := List.append_inj hsplit (by simp [bytes32, word.leBytes])
      have hstart := (List.append_inj hfront (by simp [bytes32, word.leBytes])).1
      rw [Mem.read_write_end, show 8 = 5 + (1 + 2) from rfl, Mem.read_write_byte, hstart, hback]
      simp [uplinkBytes, LoRaMacFrameCtrl_t.withFOpts]
    · exact hempty
  · split <;> exact hempty

/-- Every byte up to the MIC is written: there is a payload, or none is counted. -/
def FramePlan.Solid (plan : FramePlan) : Prop :=
  plan.payload.isSome = true ∨ plan.payloadSize = 0

theorem FramePlan.Solid.length {plan : FramePlan} (hsolid : plan.Solid) (s : Mac) :
    (placePayload s plan).1 + plan.payloadSize.toNat = plan.pktHeaderLen + (plan.body s).length := by
  unfold placePayload body
  obtain ⟨pktHeaderLen, payload, payloadSize, framePort⟩ := plan
  cases payload with
  | none =>
    have hzero : payloadSize = 0 := hsolid.resolve_left (by simp)
    simp [hzero]
  | some payload =>
    by_cases hpos : 0 < payloadSize
    · simp only [if_pos hpos, List.length_cons, length_encrypted]
      omega
    · have hzero : payloadSize = 0 := by simpa using hpos
      simp [hzero]

theorem FramePlan.read_placePayload (plan : FramePlan) (s : Mac) :
    (placePayload s plan).2.LoRaMacBuffer.read 0 (plan.pktHeaderLen + (plan.body s).length) =
      s.LoRaMacBuffer.read 0 plan.pktHeaderLen ++ plan.body s := by
  unfold placePayload body
  obtain ⟨pktHeaderLen, payload, payloadSize, framePort⟩ := plan
  cases payload with
  | none => simp
  | some payload =>
    by_cases hpos : 0 < payloadSize
    · simp only [if_pos hpos, List.length_cons, length_encrypted, read_LoRaMacPayloadEncrypt]
      generalize hbody : encrypted s.env payload payloadSize.toNat _ _ _ _ = body
      have hlength : body.length = payloadSize.toNat := by rw [← hbody, length_encrypted]
      have hwrite := Mem.write_write_append s.LoRaMacBuffer pktHeaderLen [framePort] body
      simp only [List.length_singleton] at hwrite
      have hread := Mem.read_write_end s.LoRaMacBuffer pktHeaderLen ([framePort] ++ body)
      rw [List.length_append, hlength, List.length_singleton, Nat.add_comm 1] at hread
      rw [hwrite, hread]
      rfl
    · simp [if_neg hpos]

/-- The MIC of an uplink frame. `LoRaMacComputeMic` cuts the length to 8 bits. -/
def uplinkMic (s : Mac) (bytes : List UInt8) : UInt32 :=
  s.env.LoRaMacComputeMic (bytes.take (bytes.length % 256)) s.LoRaMacNwkSKey s.LoRaMacDevAddr UP_LINK
    s.UpLinkCounter

theorem read_placeMic (s : Mac) {bytes : List UInt8} {length : Nat} (fBufferSize : Option UInt16)
    (hread : s.LoRaMacBuffer.read 0 length = bytes) :
    (placeMic s length fBufferSize).LoRaMacBuffer.read 0
        (placeMic s length fBufferSize).LoRaMacBufferPktLen =
      bytes ++ bytes32 (uplinkMic s bytes) := by
  have hmic : s.LoRaMacBuffer.read 0 (length % 256) = bytes.take (bytes.length % 256) := by
    rw [← hread, Mem.take_read _ _ (Nat.mod_le _ _ |>.trans (by simp)), Mem.length_read]
  simp only [placeMic, hmic]
  change (Mem.write _ length (bytes32 (uplinkMic s bytes))).read 0 (length + 4) = _
  have hend := Mem.read_write_end s.LoRaMacBuffer length (bytes32 (uplinkMic s bytes))
  rw [hread] at hend
  exact hend

section DataFrame

variable (s : Mac) (fCtrl : LoRaMacFrameCtrl_t) (fPort : UInt8) (fBuffer : Option Mem)
  (fBufferSize : UInt16)

/-- What a data frame carries: the plan is made with the commands that are to be repeated
behind the new ones. -/
def framePlan : FramePlan :=
  (placeMacCommands (collectMacCommands s) fCtrl fPort fBuffer fBufferSize.toUInt8).1

def frameFOpts : List UInt8 :=
  plannedFOpts (collectMacCommands s) fBuffer fBufferSize.toUInt8

/-- The frame control with the acknowledgement that the server asked for. -/
def acknowledging : LoRaMacFrameCtrl_t :=
  if s.SrvAckRequested then { fCtrl with Ack := true } else fCtrl

/-- The state once the fixed part of the header is written. -/
def startDataFrame : Mac :=
  { s with
    RxWindow1Delay := s.LoRaMacParams.ReceiveDelay1 - RADIO_WAKEUP_TIME
    RxWindow2Delay := s.LoRaMacParams.ReceiveDelay2 - RADIO_WAKEUP_TIME
    SrvAckRequested := false
    LoRaMacBuffer := s.LoRaMacBuffer.write 1 (bytes32 s.LoRaMacDevAddr ++
      [(acknowledging s fCtrl).Value] ++ bytes16 s.UpLinkCounter.toUInt16) }

theorem buildDataFrame_eq {plan : FramePlan} {u : Mac}
    (hplace : placeMacCommands (collectMacCommands (startDataFrame s fCtrl)) (acknowledging s fCtrl)
      fPort fBuffer fBufferSize.toUInt8 = (plan, u)) :
    buildDataFrame s fCtrl fPort fBuffer fBufferSize =
      placeMic (placePayload (retireMacCommands u) plan).2
        ((placePayload (retireMacCommands u) plan).1 + plan.payloadSize.toNat)
        (fBuffer.map fun _ => fBufferSize) := by
  obtain ⟨hplan, hu⟩ := Prod.mk.inj (hplace :)
  rw [← hplan, ← hu]
  rfl

/-- The bytes of a data frame in front of its MIC. -/
def dataBytes (macHdr : UInt8) : List UInt8 :=
  uplinkBytes macHdr s.LoRaMacDevAddr
    ((acknowledging s fCtrl).withFOpts (frameFOpts s fBuffer fBufferSize))
    s.UpLinkCounter.toUInt16 (frameFOpts s fBuffer fBufferSize)
    ((framePlan s fCtrl fPort fBuffer fBufferSize).body s)

/-- `LoRaMacBuffer` holds the data frame, provided that all of it has been written. -/
theorem read_buildDataFrame {macHdr : UInt8} (hheader : s.LoRaMacBuffer 0 = macHdr)
    (hsolid : (framePlan s fCtrl fPort fBuffer fBufferSize).Solid) :
    (buildDataFrame s fCtrl fPort fBuffer fBufferSize).LoRaMacBuffer.read 0
        (buildDataFrame s fCtrl fPort fBuffer fBufferSize).LoRaMacBufferPktLen =
      dataBytes s fCtrl fPort fBuffer fBufferSize macHdr ++
        bytes32 (uplinkMic s (dataBytes s fCtrl fPort fBuffer fBufferSize macHdr)) := by
  have hstart : (startDataFrame s fCtrl).LoRaMacBuffer.read 0 8 =
      uplinkBytes macHdr s.LoRaMacDevAddr (acknowledging s fCtrl) s.UpLinkCounter.toUInt16 [] [] := by
    have hend := Mem.read_write_end s.LoRaMacBuffer 1 (bytes32 s.LoRaMacDevAddr ++
      [(acknowledging s fCtrl).Value] ++ bytes16 s.UpLinkCounter.toUInt16)
    have hfirst : s.LoRaMacBuffer.read 0 1 = [macHdr] := by
      rw [Mem.read_succ, hheader, Mem.read_zero]
    rw [hfirst] at hend
    refine hend.trans ?_
    simp [uplinkBytes]
  have hplace := read_placeMacCommands (collectMacCommands (startDataFrame s fCtrl))
    (acknowledging s fCtrl) fPort fBuffer fBufferSize.toUInt8 hstart
  have hplan : (placeMacCommands (collectMacCommands (startDataFrame s fCtrl))
      (acknowledging s fCtrl) fPort fBuffer fBufferSize.toUInt8).1 =
      framePlan s fCtrl fPort fBuffer fBufferSize :=
    placeMacCommands_fst_congr (s := collectMacCommands s)
      (t := collectMacCommands (startDataFrame s fCtrl)) rfl rfl rfl ..
  have hview := unprepared_placeMacCommands (collectMacCommands (startDataFrame s fCtrl))
    (acknowledging s fCtrl) fPort fBuffer fBufferSize.toUInt8
  obtain ⟨plan, s₃, hs₃⟩ : ∃ plan u, placeMacCommands (collectMacCommands (startDataFrame s fCtrl))
      (acknowledging s fCtrl) fPort fBuffer fBufferSize.toUInt8 = (plan, u) := ⟨_, _, rfl⟩
  rw [hs₃] at hplace hview hplan
  have hp : framePlan s fCtrl fPort fBuffer fBufferSize = plan := hplan.symm
  have hbuild := buildDataFrame_eq s fCtrl fPort fBuffer fBufferSize hs₃
  have hlen : plan.pktHeaderLen = 8 + (frameFOpts s fBuffer fBufferSize).length := by
    rw [← hp]
    exact placeMacCommands_plan ..
  have hbody : plan.body (retireMacCommands s₃) = plan.body s := (congrArg plan.body hview :)
  have hread : (placePayload (retireMacCommands s₃) plan).2.LoRaMacBuffer.read 0
      (plan.pktHeaderLen + (plan.body s).length) =
        dataBytes s fCtrl fPort fBuffer fBufferSize macHdr := by
    have hpayload := plan.read_placePayload (retireMacCommands s₃)
    rw [hbody, hlen] at hpayload
    rw [hlen, hpayload]
    change s₃.LoRaMacBuffer.read 0 _ ++ _ = _
    have hfront : s₃.LoRaMacBuffer.read 0 (8 + (frameFOpts s fBuffer fBufferSize).length) = _ :=
      hplace
    rw [hfront, dataBytes, hp]
    simp only [uplinkBytes, List.append_nil]
    rfl
  have hmic : uplinkMic (placePayload (retireMacCommands s₃) plan).2 = uplinkMic s :=
    (congrArg uplinkMic ((unprepared_placePayload (retireMacCommands s₃) plan).trans hview) :)
  rw [hp] at hsolid
  rw [hbuild, hsolid.length, hbody, read_placeMic _ _ hread, hmic]

end DataFrame

/-- The plan leaves no gap unless a size is counted for a `NULL` buffer and no MAC command
takes its place. -/
theorem framePlan_solid_iff (s : Mac) (fCtrl : LoRaMacFrameCtrl_t) (fPort : UInt8)
    (fBuffer : Option Mem) (fBufferSize : UInt16) :
    (framePlan s fCtrl fPort fBuffer fBufferSize).Solid ↔
      (fBuffer = none → fBufferSize.toUInt8 ≠ 0 →
        0 < s.MacCommandsBufferIndex + s.MacCommandsBufferToRepeatIndex ∧
          s.MacCommandsInNextTx = true) := by
  have hindex : (collectMacCommands s).MacCommandsBufferIndex =
      s.MacCommandsBufferIndex + s.MacCommandsBufferToRepeatIndex := rfl
  have hnext : (collectMacCommands s).MacCommandsInNextTx = s.MacCommandsInNextTx := rfl
  unfold framePlan placeMacCommands FramePlan.Solid
  rw [hindex, hnext]
  cases fBuffer with
  | none =>
    simp only [Option.isSome_none, Bool.false_eq_true, false_and, if_false, true_implies]
    by_cases hcommands : 0 < s.MacCommandsBufferIndex + s.MacCommandsBufferToRepeatIndex ∧
        s.MacCommandsInNextTx = true
    · simp [hcommands]
    · simp [hcommands]
  | some buffer =>
    simp only [reduceCtorEq, false_implies, iff_true]
    left
    split
    · split <;> rfl
    · split <;> rfl

/-- Where the plan leaves a gap, its first byte is what `LoRaMacBuffer` held before. -/
theorem buildDataFrame_stale {s : Mac} {fCtrl : LoRaMacFrameCtrl_t} {fPort : UInt8}
    {fBuffer : Option Mem} {fBufferSize : UInt16}
    (hgap : ¬ (framePlan s fCtrl fPort fBuffer fBufferSize).Solid) :
    (buildDataFrame s fCtrl fPort fBuffer fBufferSize).LoRaMacBuffer 8 = s.LoRaMacBuffer 8 ∧
      8 < (buildDataFrame s fCtrl fPort fBuffer fBufferSize).LoRaMacBufferPktLen := by
  rw [framePlan_solid_iff] at hgap
  obtain ⟨rfl, hsize, hcommands⟩ : fBuffer = none ∧ fBufferSize.toUInt8 ≠ 0 ∧ _ := by
    simpa only [Classical.not_imp] using hgap
  have hpos : 0 < fBufferSize.toUInt8.toNat :=
    Nat.pos_of_ne_zero fun h => hsize (UInt8.toNat.inj h)
  have hcommands' : ¬ (0 < (collectMacCommands s).MacCommandsBufferIndex ∧
      (collectMacCommands s).MacCommandsInNextTx = true) := hcommands
  have hplace (t : Mac) (fCtrl : LoRaMacFrameCtrl_t)
      (ht : ¬ (0 < t.MacCommandsBufferIndex ∧ t.MacCommandsInNextTx = true)) :
      placeMacCommands t fCtrl fPort none fBufferSize.toUInt8 =
        (⟨8, none, fBufferSize.toUInt8, fPort⟩, t) := by
    unfold placeMacCommands
    rw [if_neg (by simp), if_neg ht]
  have hbuild := buildDataFrame_eq s fCtrl fPort none fBufferSize
    (hplace (collectMacCommands (startDataFrame s fCtrl)) (acknowledging s fCtrl) hcommands')
  rw [hbuild]
  simp only [placePayload, placeMic]
  constructor
  · rw [Mem.write_of_lt (by omega)]
    change (startDataFrame s fCtrl).LoRaMacBuffer 8 = _
    have hheader : 1 + (bytes32 s.LoRaMacDevAddr ++ [(acknowledging s fCtrl).Value] ++
        bytes16 s.UpLinkCounter.toUInt16).length ≤ 8 := by
      simp [bytes32, bytes16]
    exact Mem.write_of_ge hheader
  · omega

/-- The frame types that `PrepareFrame` builds a data frame for. -/
def LoRaMacFrameType_t.IsDataUp (macHdr : LoRaMacFrameType_t) : Prop :=
  macHdr = FRAME_TYPE_DATA_CONFIRMED_UP ∨ macHdr = FRAME_TYPE_DATA_UNCONFIRMED_UP

/-- The state in which `PrepareFrame` turns to the type of the frame. -/
def startFrame (s : Mac) (macHdr : LoRaMacFrameType_t) : Mac :=
  { s with
    LoRaMacBufferPktLen := 0
    PreparedFrame := none
    NodeAckRequested := macHdr = FRAME_TYPE_DATA_CONFIRMED_UP
    LoRaMacBuffer := s.LoRaMacBuffer.write 0 [macHdr.header] }

/-- The state in which a data frame is built. -/
def adapted (s : Mac) (macHdr : LoRaMacFrameType_t) (adrEnabled : Bool) : Mac :=
  (adaptDatarate (startFrame s macHdr) adrEnabled).2

/-- The frame control with the request for an acknowledgement that `AdrNextDr` makes. -/
def adrRequesting (s : Mac) (fCtrl : LoRaMacFrameCtrl_t) : LoRaMacFrameCtrl_t :=
  { fCtrl with AdrAckReq := (AdrNextDr s fCtrl.Adr true).1 }

/-- The data rate that a data frame is checked against. -/
def nextDatarate (s : Mac) (adrEnabled : Bool) : Int := (AdrNextDr s adrEnabled true).2.1

theorem AdrNextDr_congr {s t : Mac} (adrEnabled updateChannelMask : Bool)
    (hdatarate : t.LoRaMacParams.ChannelsDatarate = s.LoRaMacParams.ChannelsDatarate)
    (hcounter : t.AdrAckCounter = s.AdrAckCounter) :
    (AdrNextDr t adrEnabled updateChannelMask).1 = (AdrNextDr s adrEnabled updateChannelMask).1 ∧
      (AdrNextDr t adrEnabled updateChannelMask).2.1 =
        (AdrNextDr s adrEnabled updateChannelMask).2.1 := by
  unfold AdrNextDr
  rw [hdatarate, hcounter]
  dsimp only
  split_ifs <;> exact ⟨rfl, rfl⟩

section PrepareFrame

variable {s : Mac} {macHdr : LoRaMacFrameType_t} {fCtrl : LoRaMacFrameCtrl_t} {fPort : UInt8}
  {fBuffer : Option Mem} {fBufferSize : UInt16}

/-- `PrepareFrame` accepts a request for data on a joined node whose payload fits. -/
def Accepts (s : Mac) (adrEnabled : Bool) (fBuffer : Option Mem) (fBufferSize : UInt16) : Prop :=
  s.IsLoRaMacNetworkJoined = true ∧
    ValidatePayloadLength s (checkedLength fBuffer fBufferSize) (nextDatarate s adrEnabled)
      s.MacCommandsBufferIndex = true

theorem PrepareFrame_of_isDataUp (htype : macHdr.IsDataUp) :
    PrepareFrame s macHdr fCtrl fPort fBuffer fBufferSize =
      if s.IsLoRaMacNetworkJoined = false then
        (LORAMAC_STATUS_NO_NETWORK_JOINED, startFrame s macHdr)
      else if ValidatePayloadLength s (checkedLength fBuffer fBufferSize) (nextDatarate s fCtrl.Adr)
          s.MacCommandsBufferIndex = true then
        (LORAMAC_STATUS_OK, buildDataFrame (adapted s macHdr fCtrl.Adr) (adrRequesting s fCtrl) fPort
          fBuffer fBufferSize)
      else (LORAMAC_STATUS_LENGTH_ERROR, adapted s macHdr fCtrl.Adr) := by
  obtain ⟨hrequest, hdatarate⟩ := AdrNextDr_congr (s := s) (t := startFrame s macHdr) fCtrl.Adr true
    rfl rfl
  have hvalid : ValidatePayloadLength (adapted s macHdr fCtrl.Adr) (checkedLength fBuffer fBufferSize)
      (adapted s macHdr fCtrl.Adr).LoRaMacParams.ChannelsDatarate
      (adapted s macHdr fCtrl.Adr).MacCommandsBufferIndex =
      ValidatePayloadLength s (checkedLength fBuffer fBufferSize) (nextDatarate s fCtrl.Adr)
        s.MacCommandsBufferIndex := by
    obtain ⟨counter, lookups, params, hview⟩ := adaptDatarate_snd (startFrame s macHdr) fCtrl.Adr
    have hdr : (adapted s macHdr fCtrl.Adr).LoRaMacParams.ChannelsDatarate =
        nextDatarate s fCtrl.Adr := hdatarate
    rw [hdr]
    unfold adapted
    rw [hview]
    rfl
  rw [adrRequesting, ← hvalid, ← hrequest]
  rcases htype with rfl | rfl <;> rfl

theorem PrepareFrame_ok (htype : macHdr.IsDataUp)
    (hok : (PrepareFrame s macHdr fCtrl fPort fBuffer fBufferSize).1 = LORAMAC_STATUS_OK) :
    Accepts s fCtrl.Adr fBuffer fBufferSize := by
  rw [PrepareFrame_of_isDataUp htype] at hok
  by_cases hjoined : s.IsLoRaMacNetworkJoined = false
  · rw [if_pos hjoined] at hok
    cases hok
  · rw [if_neg hjoined] at hok
    by_cases hvalid : ValidatePayloadLength s (checkedLength fBuffer fBufferSize)
        (nextDatarate s fCtrl.Adr) s.MacCommandsBufferIndex = true
    · exact ⟨Bool.eq_true_of_not_eq_false hjoined, hvalid⟩
    · rw [if_neg hvalid] at hok
      cases hok

theorem PrepareFrame_accepted (htype : macHdr.IsDataUp)
    (haccepts : Accepts s fCtrl.Adr fBuffer fBufferSize) :
    PrepareFrame s macHdr fCtrl fPort fBuffer fBufferSize =
      (LORAMAC_STATUS_OK, buildDataFrame (adapted s macHdr fCtrl.Adr) (adrRequesting s fCtrl) fPort
        fBuffer fBufferSize) := by
  rw [PrepareFrame_of_isDataUp htype, if_neg (by simp [haccepts.1]), if_pos haccepts.2]

end PrepareFrame

/-- What a data frame is made from: the rest of the state is left out. -/
def Mac.unframed (s : Mac) : Mac :=
  { s with
    board := { s.board with lookups := [] }
    AdrAckCounter := 0
    LoRaMacParams := defaultParams
    LoRaMacBuffer := fun _ => 0
    LoRaMacPayload := fun _ => 0
    LoRaMacBufferPktLen := 0
    PreparedFrame := none
    NodeAckRequested := false }

theorem unframed_adapted (s : Mac) (macHdr : LoRaMacFrameType_t) (adrEnabled : Bool) :
    (adapted s macHdr adrEnabled).unframed = s.unframed := by
  obtain ⟨counter, lookups, params, hview⟩ := adaptDatarate_snd (startFrame s macHdr) adrEnabled
  exact (congrArg Mac.unframed hview :)

section Frame

variable (s : Mac) (fCtrl : LoRaMacFrameCtrl_t) (fPort : UInt8) (fBuffer : Option Mem)
  (fBufferSize : UInt16) (macHdr : UInt8)

/-- The bytes of a data frame. -/
def uplinkFrame : List UInt8 :=
  dataBytes s fCtrl fPort fBuffer fBufferSize macHdr ++
    bytes32 (uplinkMic s (dataBytes s fCtrl fPort fBuffer fBufferSize macHdr))

theorem uplinkFrame_unframed : uplinkFrame s.unframed fCtrl fPort fBuffer fBufferSize macHdr =
    uplinkFrame s fCtrl fPort fBuffer fBufferSize macHdr := by
  have hplan : framePlan s.unframed fCtrl fPort fBuffer fBufferSize =
      framePlan s fCtrl fPort fBuffer fBufferSize :=
    placeMacCommands_fst_congr (s := collectMacCommands s) (t := collectMacCommands s.unframed)
      rfl rfl rfl ..
  unfold uplinkFrame dataBytes
  rw [hplan]
  rfl

end Frame

theorem LoRaMacBuffer_adapted (s : Mac) (macHdr : LoRaMacFrameType_t) (adrEnabled : Bool) :
    (adapted s macHdr adrEnabled).LoRaMacBuffer = s.LoRaMacBuffer.write 0 [macHdr.header] := by
  obtain ⟨counter, lookups, params, hview⟩ := adaptDatarate_snd (startFrame s macHdr) adrEnabled
  exact (congrArg Mac.LoRaMacBuffer hview :)

theorem framePlan_adapted_solid_iff (s : Mac) (macHdr : LoRaMacFrameType_t) (adrEnabled : Bool)
    (fCtrl : LoRaMacFrameCtrl_t) (fPort : UInt8) (fBuffer : Option Mem) (fBufferSize : UInt16) :
    (framePlan (adapted s macHdr adrEnabled) fCtrl fPort fBuffer fBufferSize).Solid ↔
      (fBuffer = none → fBufferSize.toUInt8 ≠ 0 →
        0 < s.MacCommandsBufferIndex + s.MacCommandsBufferToRepeatIndex ∧
          s.MacCommandsInNextTx = true) := by
  have hview := unframed_adapted s macHdr adrEnabled
  have hindex : (adapted s macHdr adrEnabled).MacCommandsBufferIndex = s.MacCommandsBufferIndex :=
    (congrArg Mac.MacCommandsBufferIndex hview :)
  have hrepeat : (adapted s macHdr adrEnabled).MacCommandsBufferToRepeatIndex =
      s.MacCommandsBufferToRepeatIndex :=
    (congrArg Mac.MacCommandsBufferToRepeatIndex hview :)
  have hnext : (adapted s macHdr adrEnabled).MacCommandsInNextTx = s.MacCommandsInNextTx :=
    (congrArg Mac.MacCommandsInNextTx hview :)
  rw [framePlan_solid_iff, hindex, hrepeat, hnext]

/-- The frame that `PrepareFrame` leaves for an accepted request. -/
theorem read_PrepareFrame {s : Mac} {macHdr : LoRaMacFrameType_t} {fCtrl : LoRaMacFrameCtrl_t}
    {fBuffer : Option Mem} {fBufferSize : UInt16} (fPort : UInt8) (htype : macHdr.IsDataUp)
    (haccepts : Accepts s fCtrl.Adr fBuffer fBufferSize)
    (hgap : fBuffer = none → fBufferSize.toUInt8 ≠ 0 →
      0 < s.MacCommandsBufferIndex + s.MacCommandsBufferToRepeatIndex ∧
        s.MacCommandsInNextTx = true) :
    (PrepareFrame s macHdr fCtrl fPort fBuffer fBufferSize).2.LoRaMacBuffer.read 0
        (PrepareFrame s macHdr fCtrl fPort fBuffer fBufferSize).2.LoRaMacBufferPktLen =
      uplinkFrame s (adrRequesting s fCtrl) fPort fBuffer fBufferSize macHdr.header := by
  have hheader : (adapted s macHdr fCtrl.Adr).LoRaMacBuffer 0 = macHdr.header := by
    rw [LoRaMacBuffer_adapted]
    rfl
  have hframe : uplinkFrame (adapted s macHdr fCtrl.Adr) (adrRequesting s fCtrl) fPort fBuffer
      fBufferSize macHdr.header =
        uplinkFrame s (adrRequesting s fCtrl) fPort fBuffer fBufferSize macHdr.header := by
    rw [← uplinkFrame_unframed, unframed_adapted, uplinkFrame_unframed]
  rw [PrepareFrame_accepted htype haccepts, ← hframe]
  exact read_buildDataFrame _ _ _ _ _ hheader
    ((framePlan_adapted_solid_iff s macHdr fCtrl.Adr _ fPort fBuffer fBufferSize).mpr hgap)

/-- The state with other contents of the two buffers that a frame is built in. -/
def Mac.withBuffers (s : Mac) (buffer payload : Mem) : Mac :=
  { s with
    LoRaMacBuffer := buffer
    LoRaMacPayload := payload }

section Fresh

variable {s : Mac} {macHdr : LoRaMacFrameType_t} {fCtrl : LoRaMacFrameCtrl_t} {fPort : UInt8}
  {fBuffer : Option Mem} {fBufferSize : UInt16}

theorem accepts_withBuffers (buffer payload : Mem) :
    Accepts (s.withBuffers buffer payload) fCtrl.Adr fBuffer fBufferSize ↔
      Accepts s fCtrl.Adr fBuffer fBufferSize := by
  have hdatarate : nextDatarate (s.withBuffers buffer payload) fCtrl.Adr =
      nextDatarate s fCtrl.Adr :=
    (AdrNextDr_congr (s := s) (t := s.withBuffers buffer payload) fCtrl.Adr true rfl rfl).2
  unfold Accepts
  rw [hdatarate]
  rfl

/-- The frame that `PrepareFrame` leaves in `LoRaMacBuffer` does not depend on what the two buffers
held before. -/
def Fresh (s : Mac) (macHdr : LoRaMacFrameType_t) (fCtrl : LoRaMacFrameCtrl_t) (fPort : UInt8)
    (fBuffer : Option Mem) (fBufferSize : UInt16) : Prop :=
  ∀ buffer payload buffer' payload' t t',
    PrepareFrame (s.withBuffers buffer payload) macHdr fCtrl fPort fBuffer fBufferSize =
      (LORAMAC_STATUS_OK, t) →
    PrepareFrame (s.withBuffers buffer' payload') macHdr fCtrl fPort fBuffer fBufferSize =
      (LORAMAC_STATUS_OK, t') →
    t'.LoRaMacBufferPktLen = t.LoRaMacBufferPktLen ∧
      t'.LoRaMacBuffer.read 0 t'.LoRaMacBufferPktLen = t.LoRaMacBuffer.read 0 t.LoRaMacBufferPktLen

/-- It is enough to give the bytes of the frame as a function of the rest of the state. -/
theorem fresh_of_read (bytes : List UInt8)
    (h : ∀ buffer payload t,
      PrepareFrame (s.withBuffers buffer payload) macHdr fCtrl fPort fBuffer fBufferSize =
        (LORAMAC_STATUS_OK, t) → t.LoRaMacBuffer.read 0 t.LoRaMacBufferPktLen = bytes) :
    Fresh s macHdr fCtrl fPort fBuffer fBufferSize := by
  intro buffer payload buffer' payload' t t' ht ht'
  have hread := h _ _ _ ht
  have hread' := h _ _ _ ht'
  refine ⟨?_, hread'.trans hread.symm⟩
  have hlength := congrArg List.length (hread'.trans hread.symm)
  rwa [Mem.length_read, Mem.length_read] at hlength

theorem fresh_joinRequest : Fresh s FRAME_TYPE_JOIN_REQ fCtrl fPort fBuffer fBufferSize := by
  refine fresh_of_read ((prepareJoinRequest s).LoRaMacBuffer.read 0
    (prepareJoinRequest s).LoRaMacBufferPktLen) fun buffer payload t ht => ?_
  cases ht
  exact (Mem.read_write_self _ _ _).trans (Mem.read_write_self _ _ _).symm

/-- The bytes of a proprietary frame: its length is kept in 16 bits. -/
def proprietaryBytes (header : UInt8) (fBuffer : Option Mem) (fBufferSize : UInt16) : List UInt8 :=
  match fBuffer with
  | none => []
  | some buffer =>
    if 0 < fBufferSize then
      (header :: buffer.read 0 fBufferSize.toNat).take ((1 + fBufferSize.toNat) % 65536)
    else []

theorem read_prepareProprietary (s : Mac) {header : UInt8} (fBuffer : Option Mem)
    (fBufferSize : UInt16) (hheader : s.LoRaMacBuffer 0 = header)
    (hempty : s.LoRaMacBufferPktLen = 0) :
    (prepareProprietary s fBuffer fBufferSize).LoRaMacBuffer.read 0
        (prepareProprietary s fBuffer fBufferSize).LoRaMacBufferPktLen =
      proprietaryBytes header fBuffer fBufferSize := by
  unfold prepareProprietary proprietaryBytes
  cases fBuffer with
  | none =>
    dsimp only
    rw [hempty, Mem.read_zero]
  | some buffer =>
    dsimp only
    split
    · have hend := Mem.read_write_end s.LoRaMacBuffer 1 (buffer.read 0 fBufferSize.toNat)
      rw [Mem.length_read, Mem.read_succ, Mem.read_zero, hheader] at hend
      change _ = (([header] ++ buffer.read 0 fBufferSize.toNat)).take _
      rw [← hend, Mem.take_read _ _ (Nat.mod_le _ _)]
    · rw [hempty, Mem.read_zero]

theorem fresh_proprietary : Fresh s FRAME_TYPE_PROPRIETARY fCtrl fPort fBuffer fBufferSize := by
  refine fresh_of_read (proprietaryBytes FRAME_TYPE_PROPRIETARY.header fBuffer fBufferSize)
    fun buffer payload t ht => ?_
  cases ht
  exact read_prepareProprietary _ _ _ rfl rfl

theorem fresh_dataUp (htype : macHdr.IsDataUp)
    (hgap : Accepts s fCtrl.Adr fBuffer fBufferSize → fBuffer = none → fBufferSize.toUInt8 ≠ 0 →
      0 < s.MacCommandsBufferIndex + s.MacCommandsBufferToRepeatIndex ∧
        s.MacCommandsInNextTx = true) :
    Fresh s macHdr fCtrl fPort fBuffer fBufferSize := by
  refine fresh_of_read (uplinkFrame s (adrRequesting s fCtrl) fPort fBuffer fBufferSize
    macHdr.header) fun buffer payload t ht => ?_
  have haccepts : Accepts (s.withBuffers buffer payload) fCtrl.Adr fBuffer fBufferSize :=
    PrepareFrame_ok htype (congrArg Prod.fst ht)
  have hread := read_PrepareFrame fPort htype haccepts
    (hgap ((accepts_withBuffers buffer payload).mp haccepts))
  rw [ht] at hread
  have hrequest : adrRequesting (s.withBuffers buffer payload) fCtrl = adrRequesting s fCtrl := by
    unfold adrRequesting
    rw [(AdrNextDr_congr (s := s) (t := s.withBuffers buffer payload) fCtrl.Adr true rfl rfl).1]
  rw [hrequest] at hread
  refine hread.trans ?_
  rw [← uplinkFrame_unframed]
  exact uplinkFrame_unframed s ..

/-- A size that is counted without a buffer lets the bytes of an earlier frame through. -/
theorem not_fresh_of_gap (htype : macHdr.IsDataUp)
    (haccepts : Accepts s fCtrl.Adr none fBufferSize) (hsize : fBufferSize.toUInt8 ≠ 0)
    (hcommands : ¬ (0 < s.MacCommandsBufferIndex + s.MacCommandsBufferToRepeatIndex ∧
      s.MacCommandsInNextTx = true)) :
    ¬ Fresh s macHdr fCtrl fPort none fBufferSize := by
  intro hfresh
  have hstale (b : UInt8) : ∃ t, PrepareFrame (s.withBuffers (fun _ => b) s.LoRaMacPayload) macHdr
      fCtrl fPort none fBufferSize = (LORAMAC_STATUS_OK, t) ∧ t.LoRaMacBuffer 8 = b ∧
        8 < t.LoRaMacBufferPktLen := by
    refine ⟨_, PrepareFrame_accepted htype ((accepts_withBuffers _ _).mpr haccepts), ?_⟩
    have hgap : ¬ (framePlan (adapted (s.withBuffers (fun _ => b) s.LoRaMacPayload) macHdr fCtrl.Adr)
        (adrRequesting (s.withBuffers (fun _ => b) s.LoRaMacPayload) fCtrl) fPort none
          fBufferSize).Solid := by
      rw [framePlan_adapted_solid_iff]
      exact fun hsolid => hcommands (hsolid rfl hsize)
    obtain ⟨hbyte, hlength⟩ := buildDataFrame_stale hgap
    refine ⟨hbyte.trans ?_, hlength⟩
    rw [LoRaMacBuffer_adapted]
    rfl
  obtain ⟨t, ht, hzero, hlt⟩ := hstale 0
  obtain ⟨t', ht', hone, hlt'⟩ := hstale 1
  obtain ⟨hlength, hread⟩ := hfresh _ _ _ _ t t' ht ht'
  rw [hlength, Mem.read_eq_read_iff] at hread
  have h := hread 8 hlt
  rw [Nat.zero_add, hone, hzero] at h
  exact absurd h (by decide)

/-- A frame holds nothing from an earlier one unless it is a data frame with a size but no buffer,
and no MAC command takes the place of the payload. Such a frame is given its length and its MIC, but
neither a port nor a payload is written, and the bytes there are those of the frame before. -/
theorem PrepareFrame_fresh_iff :
    Fresh s macHdr fCtrl fPort fBuffer fBufferSize ↔
      (macHdr.IsDataUp → Accepts s fCtrl.Adr fBuffer fBufferSize → fBuffer = none →
        fBufferSize.toUInt8 ≠ 0 →
          0 < s.MacCommandsBufferIndex + s.MacCommandsBufferToRepeatIndex ∧
            s.MacCommandsInNextTx = true) := by
  constructor
  · intro hfresh htype haccepts hnone hsize
    subst hnone
    by_contra hcommands
    exact not_fresh_of_gap htype haccepts hsize hcommands hfresh
  · intro hgap
    have hother (hstatus : ∀ u : Mac, (PrepareFrame u macHdr fCtrl fPort fBuffer fBufferSize).1 =
        LORAMAC_STATUS_SERVICE_UNKNOWN) : Fresh s macHdr fCtrl fPort fBuffer fBufferSize := by
      intro buffer payload _ _ _ _ ht
      have hunknown := hstatus (s.withBuffers buffer payload)
      rw [ht] at hunknown
      cases hunknown
    cases macHdr with
    | FRAME_TYPE_JOIN_REQ => exact fresh_joinRequest
    | FRAME_TYPE_DATA_UNCONFIRMED_UP => exact fresh_dataUp (.inr rfl) (hgap (.inr rfl))
    | FRAME_TYPE_DATA_CONFIRMED_UP => exact fresh_dataUp (.inl rfl) (hgap (.inl rfl))
    | FRAME_TYPE_PROPRIETARY => exact fresh_proprietary
    | FRAME_TYPE_JOIN_ACCEPT => exact hother fun _ => rfl
    | FRAME_TYPE_DATA_UNCONFIRMED_DOWN => exact hother fun _ => rfl
    | FRAME_TYPE_DATA_CONFIRMED_DOWN => exact hother fun _ => rfl
    | FRAME_TYPE_RFU => exact hother fun _ => rfl

/-- A request for 4 bytes without a buffer: the frame carries 4 bytes of the last one. -/
theorem not_fresh_nullBuffer :
    ¬ Fresh (Mac.personalised Env.plain) FRAME_TYPE_DATA_UNCONFIRMED_UP
      ⟨0, false, false, false, false⟩ 1 none 4 :=
  not_fresh_of_gap (.inr rfl) ⟨rfl, by decide⟩ (by decide) (by decide)

end Fresh

end loranode.mac
