import LoRaNode.Mac.Layout

namespace loranode.mac

open LoRaMacStatus_t LoRaMacFrameType_t

/-- The fields of an uplink data frame. -/
structure UplinkFields where
  macHdr : UInt8
  DevAddr : UInt32
  fCtrl : LoRaMacFrameCtrl_t
  FCnt : UInt16
  FOpts : List UInt8
  fPort : UInt8
  FRMPayload : List UInt8
  mic : UInt32

/-- Reads `MHDR | DevAddr | FCtrl | FCnt | FOpts | FPort | FRMPayload | MIC`. -/
def parseUplink : List UInt8 → Option UplinkFields
  | macHdr :: a0 :: a1 :: a2 :: a3 :: ctrl :: c0 :: c1 :: rest =>
    let fCtrl := LoRaMacFrameCtrl_t.ofValue ctrl
    match rest.drop fCtrl.FOptsLen with
    | fPort :: body =>
      match body.drop (body.length - LORAMAC_MFR_LEN) with
      | [m0, m1, m2, m3] => some {
          macHdr := macHdr
          DevAddr := ofBytes32 a0 a1 a2 a3
          fCtrl := fCtrl
          FCnt := ofBytes16 c0 c1
          FOpts := rest.take fCtrl.FOptsLen
          fPort := fPort
          FRMPayload := body.take (body.length - LORAMAC_MFR_LEN)
          mic := ofBytes32 m0 m1 m2 m3 }
      | _ => none
    | [] => none
  | _ => none

theorem ofBytes16_bytes (x : UInt16) : ofBytes16 x.toUInt8 (x >>> 8).toUInt8 = x := by
  have hlow : x.toNat % 256 < 2 ^ 8 := Nat.mod_lt _ (by decide)
  have hx := x.toNat_lt
  apply UInt16.toNat.inj
  simp only [ofBytes16, UInt16.toNat_or, UInt16.toNat_shiftLeft, UInt8.toNat_toUInt16,
    UInt16.toNat_toUInt8, UInt16.toNat_shiftRight]
  change x.toNat % 256 ||| (x.toNat >>> 8 % 256) <<< 8 % 2 ^ 16 = x.toNat
  have hshift : (x.toNat >>> 8 % 256) <<< 8 % 2 ^ 16 = (x.toNat / 256) <<< 8 := by
    rw [Nat.shiftRight_eq_div_pow, Nat.shiftLeft_eq, Nat.shiftLeft_eq]
    omega
  rw [hshift, Nat.or_comm, ← Nat.shiftLeft_add_eq_or_of_lt hlow, Nat.shiftLeft_eq]
  omega

theorem ofBytes32_bytes (x : UInt32) :
    ofBytes32 (word.byte x.toBitVec 0) (word.byte x.toBitVec 1) (word.byte x.toBitVec 2)
      (word.byte x.toBitVec 3) = x := by
  rw [ofBytes32, word.le32_leBytes]

/-- What the parser reads is what the frame was made from. -/
theorem parseUplink_uplinkBytes (macHdr : UInt8) (address : UInt32) {fCtrl : LoRaMacFrameCtrl_t}
    (counter : UInt16) {fOpts : List UInt8} (fPort : UInt8) (payload : List UInt8) (mic : UInt32)
    (hlength : fCtrl.FOptsLen = fOpts.length) (hlt : fOpts.length < 16) :
    parseUplink (uplinkBytes macHdr address fCtrl counter fOpts (fPort :: payload) ++ bytes32 mic) =
      some ⟨macHdr, address, fCtrl, counter, fOpts, fPort, payload, mic⟩ := by
  have hcons : uplinkBytes macHdr address fCtrl counter fOpts (fPort :: payload) ++ bytes32 mic =
      macHdr :: word.byte address.toBitVec 0 :: word.byte address.toBitVec 1 ::
        word.byte address.toBitVec 2 :: word.byte address.toBitVec 3 :: fCtrl.Value ::
        counter.toUInt8 :: (counter >>> 8).toUInt8 ::
        (fOpts ++ fPort :: (payload ++ bytes32 mic)) := by
    simp [uplinkBytes, bytes32, word.leBytes, bytes16]
  have hvalue : LoRaMacFrameCtrl_t.ofValue fCtrl.Value = fCtrl :=
    fCtrl.ofValue_Value (hlength ▸ hlt)
  have hbody : (payload ++ bytes32 mic).length - LORAMAC_MFR_LEN = payload.length := by
    simp [bytes32, LORAMAC_MFR_LEN]
  rw [hcons, parseUplink]
  simp only [hvalue, hlength, List.drop_left, List.take_left, hbody]
  simp only [bytes32, word.leBytes, ofBytes32_bytes, ofBytes16_bytes]

/-- The cipher masks each byte, and so undoes itself. -/
theorem encrypted_encrypted (env : Env) {buffer m : Mem} {size : Nat} {key : List UInt8}
    {address : UInt32} {dir : UInt8} {sequenceCounter : UInt32}
    (hm : m.read 0 size = encrypted env buffer size key address dir sequenceCounter) :
    encrypted env m size key address dir sequenceCounter = buffer.read 0 size := by
  unfold Mem.read encrypted at *
  apply List.map_congr_left
  intro i hi
  have hbyte := (List.map_inj_left.mp hm) i hi
  rw [Nat.zero_add] at hbyte ⊢
  rw [hbyte, UInt8.xor_assoc, UInt8.xor_self, UInt8.xor_zero]

/-- The MAC commands that a frame is to carry: the new ones and those to repeat. -/
def Mac.pendingCommands (s : Mac) : List UInt8 :=
  s.MacCommandsBuffer.read 0 s.MacCommandsBufferIndex.toNat ++
    s.MacCommandsBufferToRepeat.read 0 s.MacCommandsBufferToRepeatIndex.toNat

/-- The key of a payload. -/
def Mac.payloadKey (s : Mac) (fPort : UInt8) : List UInt8 :=
  if fPort = 0 then s.LoRaMacNwkSKey else s.LoRaMacAppSKey

/-- The fields are those of a request for `size` bytes of `buffer` on `fPort` in state `s`. -/
structure UplinkFields.Carries (fields : UplinkFields) (s : Mac) (macHdr : LoRaMacFrameType_t)
    (adr : Bool) (fPort : UInt8) (buffer : Mem) (size : Nat) : Prop where
  macHdr : fields.macHdr = macHdr.header
  DevAddr : fields.DevAddr = s.LoRaMacDevAddr
  fCtrl : fields.fCtrl =
    ⟨fields.FOpts.length, false, s.SrvAckRequested, (AdrNextDr s adr true).1, adr⟩
  FCnt : fields.FCnt = s.UpLinkCounter.toUInt16
  FOpts : fields.FOpts = if s.MacCommandsInNextTx then s.pendingCommands else []
  length : fields.FRMPayload.length = size
  FRMPayload (m decBuffer : Mem) : m.read 0 size = fields.FRMPayload →
    (LoRaMacPayloadDecrypt s.env m size (s.payloadKey fPort) s.LoRaMacDevAddr UP_LINK
      s.UpLinkCounter decBuffer).read 0 size = buffer.read 0 size
  fPort : fields.fPort = fPort

/-- The frame in `LoRaMacBuffer` is inside the buffer, and its fields are those of the request. -/
def Decodable (s t : Mac) (macHdr : LoRaMacFrameType_t) (adr : Bool) (fPort : UInt8) (buffer : Mem)
    (size : Nat) : Prop :=
  t.LoRaMacBufferPktLen ≤ LORAMAC_PHY_MAXPAYLOAD ∧
    ∃ fields, parseUplink (t.LoRaMacBuffer.read 0 t.LoRaMacBufferPktLen) = some fields ∧
      fields.Carries s macHdr adr fPort buffer size ∧
      fields.mic = s.env.LoRaMacComputeMic
        (t.LoRaMacBuffer.read 0 (t.LoRaMacBufferPktLen - LORAMAC_MFR_LEN)) s.LoRaMacNwkSKey
        s.LoRaMacDevAddr UP_LINK s.UpLinkCounter

section Request

variable {s : Mac} {buffer : Mem} {size : UInt16}

theorem frameFOpts_eq
    (hcommands : s.MacCommandsBufferIndex.toNat + s.MacCommandsBufferToRepeatIndex.toNat ≤ 15)
    (hpos : 0 < size.toUInt8) :
    frameFOpts s (some buffer) size = if s.MacCommandsInNextTx then s.pendingCommands else [] := by
  have hindex : (collectMacCommands s).MacCommandsBufferIndex.toNat =
      s.MacCommandsBufferIndex.toNat + s.MacCommandsBufferToRepeatIndex.toNat := by
    change (s.MacCommandsBufferIndex + s.MacCommandsBufferToRepeatIndex).toNat = _
    rw [UInt8.toNat_add]
    omega
  have hnext : (collectMacCommands s).MacCommandsInNextTx = s.MacCommandsInNextTx := rfl
  have hread : (collectMacCommands s).MacCommandsBuffer.read 0
      (s.MacCommandsBufferIndex.toNat + s.MacCommandsBufferToRepeatIndex.toNat) =
        s.pendingCommands := by
    have hend := Mem.read_write_end s.MacCommandsBuffer s.MacCommandsBufferIndex.toNat
      (s.MacCommandsBufferToRepeat.read 0 s.MacCommandsBufferToRepeatIndex.toNat)
    rw [Mem.length_read] at hend
    exact hend
  unfold frameFOpts plannedFOpts
  rw [if_pos ⟨rfl, hpos⟩, hindex, hnext, hread]
  simp [LORA_MAC_COMMAND_MAX_LENGTH, hcommands]

theorem length_pendingCommands (s : Mac) : s.pendingCommands.length =
    s.MacCommandsBufferIndex.toNat + s.MacCommandsBufferToRepeatIndex.toNat := by
  simp [Mac.pendingCommands]

theorem body_framePlan (fCtrl : LoRaMacFrameCtrl_t) (fPort : UInt8) (hpos : 0 < size.toUInt8) :
    (framePlan s fCtrl fPort (some buffer) size).body s =
      fPort :: encrypted s.env buffer size.toUInt8.toNat (s.payloadKey fPort) s.LoRaMacDevAddr
        UP_LINK s.UpLinkCounter := by
  have hplan : ∃ pktHeaderLen, framePlan s fCtrl fPort (some buffer) size =
      ⟨pktHeaderLen, some buffer, size.toUInt8, fPort⟩ := by
    unfold framePlan placeMacCommands
    rw [if_pos ⟨rfl, hpos⟩]
    split
    · exact ⟨_, rfl⟩
    · exact ⟨_, rfl⟩
  obtain ⟨pktHeaderLen, hplan⟩ := hplan
  rw [hplan]
  exact if_pos hpos

theorem acknowledging_adrRequesting (s : Mac) (adr : Bool) :
    acknowledging s (adrRequesting s ⟨0, false, false, false, adr⟩) =
      ⟨0, false, s.SrvAckRequested, (AdrNextDr s adr true).1, adr⟩ := by
  unfold acknowledging adrRequesting
  cases s.SrvAckRequested <;> rfl

/-- The fields that a request gives to its frame. -/
def requestFields (s : Mac) (macHdr : LoRaMacFrameType_t) (adr : Bool) (fPort : UInt8) (buffer : Mem)
    (size : UInt16) : UplinkFields :=
  let fOpts := if s.MacCommandsInNextTx then s.pendingCommands else []
  { macHdr := macHdr.header
    DevAddr := s.LoRaMacDevAddr
    fCtrl := ⟨fOpts.length, false, s.SrvAckRequested, (AdrNextDr s adr true).1, adr⟩
    FCnt := s.UpLinkCounter.toUInt16
    FOpts := fOpts
    fPort := fPort
    FRMPayload := encrypted s.env buffer size.toUInt8.toNat (s.payloadKey fPort) s.LoRaMacDevAddr
      UP_LINK s.UpLinkCounter
    mic := 0 }

/-- The frame with these fields, in front of its MIC. -/
def UplinkFields.bytes (fields : UplinkFields) : List UInt8 :=
  uplinkBytes fields.macHdr fields.DevAddr fields.fCtrl fields.FCnt fields.FOpts
    (fields.fPort :: fields.FRMPayload)

theorem dataBytes_request (macHdr : LoRaMacFrameType_t) (adr : Bool) (fPort : UInt8)
    (hcommands : s.MacCommandsBufferIndex.toNat + s.MacCommandsBufferToRepeatIndex.toNat ≤ 15)
    (hpos : 0 < size.toUInt8) :
    dataBytes s (adrRequesting s ⟨0, false, false, false, adr⟩) fPort (some buffer) size
        macHdr.header = (requestFields s macHdr adr fPort buffer size).bytes := by
  have hlength : (frameFOpts s (some buffer) size).length ≤ 15 := by
    rw [frameFOpts_eq hcommands hpos]
    split
    · rw [length_pendingCommands]
      exact hcommands
    · exact Nat.zero_le _
  unfold dataBytes
  rw [acknowledging_adrRequesting, body_framePlan _ _ hpos]
  have hctrl (fCtrl : LoRaMacFrameCtrl_t) (fOpts : List UInt8) (hzero : fCtrl.FOptsLen = 0)
      (hle : fOpts.length ≤ 15) : fCtrl.withFOpts fOpts = { fCtrl with FOptsLen := fOpts.length } := by
    rw [LoRaMacFrameCtrl_t.withFOpts, hzero, Nat.zero_add, Nat.mod_eq_of_lt (by omega)]
  rw [hctrl _ _ rfl hlength, frameFOpts_eq hcommands hpos]
  rfl

theorem length_bytes (fields : UplinkFields) : fields.bytes.length =
    9 + fields.FOpts.length + fields.FRMPayload.length := by
  simp [UplinkFields.bytes, uplinkBytes, bytes32, bytes16]
  omega

theorem length_FOpts (s : Mac) (macHdr : LoRaMacFrameType_t) (adr : Bool) (fPort : UInt8)
    (buffer : Mem) (size : UInt16) : (requestFields s macHdr adr fPort buffer size).FOpts.length =
      if s.MacCommandsInNextTx then
        s.MacCommandsBufferIndex.toNat + s.MacCommandsBufferToRepeatIndex.toNat
      else 0 := by
  rw [← length_pendingCommands]
  exact apply_ite List.length _ _ _

theorem length_FRMPayload (s : Mac) (macHdr : LoRaMacFrameType_t) (adr : Bool) (fPort : UInt8)
    (buffer : Mem) (size : UInt16) :
    (requestFields s macHdr adr fPort buffer size).FRMPayload.length = size.toUInt8.toNat :=
  length_encrypted ..

theorem carries_requestFields (s : Mac) (macHdr : LoRaMacFrameType_t) (adr : Bool) (fPort : UInt8)
    (buffer : Mem) (size : UInt16) (mic : UInt32) :
    UplinkFields.Carries { requestFields s macHdr adr fPort buffer size with mic := mic } s macHdr adr
      fPort buffer size.toUInt8.toNat where
  macHdr := rfl
  DevAddr := rfl
  fCtrl := rfl
  FCnt := rfl
  FOpts := rfl
  length := length_encrypted ..
  FRMPayload m decBuffer hm := by
    rw [LoRaMacPayloadDecrypt, read_LoRaMacPayloadEncrypt]
    exact encrypted_encrypted s.env hm
  fPort := rfl

section Prepared

variable {t : Mac} {macHdr : LoRaMacFrameType_t} {adr : Bool} {fPort : UInt8}
  (htype : macHdr.IsDataUp)
  (hcommands : s.MacCommandsBufferIndex.toNat + s.MacCommandsBufferToRepeatIndex.toNat ≤ 15)
  (hpos : 0 < size.toUInt8)
  (hok : PrepareFrame s macHdr ⟨0, false, false, false, adr⟩ fPort (some buffer) size =
    (LORAMAC_STATUS_OK, t))

include htype hcommands hpos hok

theorem read_request :
    t.LoRaMacBuffer.read 0 t.LoRaMacBufferPktLen =
      (requestFields s macHdr adr fPort buffer size).bytes ++
        bytes32 (uplinkMic s (requestFields s macHdr adr fPort buffer size).bytes) := by
  have hread := @read_PrepareFrame s macHdr ⟨0, false, false, false, adr⟩ (some buffer) size fPort htype
    (PrepareFrame_ok htype (congrArg Prod.fst hok)) (fun h => nomatch h)
  rw [hok, uplinkFrame, dataBytes_request macHdr adr fPort hcommands hpos] at hread
  exact hread

theorem length_request : t.LoRaMacBufferPktLen =
    13 + (requestFields s macHdr adr fPort buffer size).FOpts.length + size.toUInt8.toNat := by
  have hlength := congrArg List.length (read_request htype hcommands hpos hok)
  simp only [Mem.length_read, List.length_append, length_bytes, length_FRMPayload] at hlength
  have hmic : (bytes32 (uplinkMic s (requestFields s macHdr adr fPort buffer size).bytes)).length =
      4 := rfl
  omega

/-- What the MIC should cover. -/
theorem read_covered : t.LoRaMacBuffer.read 0 (t.LoRaMacBufferPktLen - LORAMAC_MFR_LEN) =
    (requestFields s macHdr adr fPort buffer size).bytes := by
  have hlength := congrArg List.length (read_request htype hcommands hpos hok)
  rw [Mem.length_read, List.length_append] at hlength
  rw [← Mem.take_read _ _ (Nat.sub_le _ _), read_request htype hcommands hpos hok]
  apply List.take_left'
  rw [hlength]
  exact (Nat.add_sub_cancel ..).symm

theorem parseUplink_request :
    parseUplink (t.LoRaMacBuffer.read 0 t.LoRaMacBufferPktLen) =
      some { requestFields s macHdr adr fPort buffer size with
        mic := uplinkMic s (requestFields s macHdr adr fPort buffer size).bytes } := by
  have hlt : (requestFields s macHdr adr fPort buffer size).FOpts.length < 16 := by
    rw [length_FOpts]
    split <;> omega
  rw [read_request htype hcommands hpos hok]
  exact parseUplink_uplinkBytes _ _ _ _ _ _ rfl hlt

end Prepared

/-- A frame can be read back exactly when its commands, those to repeat included, leave room for its
payload. The ciphers are any functions; the check of the size counts the new commands, and those to
repeat are added behind it. -/
theorem decodable_iff {t : Mac} {macHdr : LoRaMacFrameType_t} {adr : Bool} {fPort : UInt8}
    (htype : macHdr.IsDataUp)
    (hcommands : s.MacCommandsBufferIndex.toNat + s.MacCommandsBufferToRepeatIndex.toNat ≤ 15)
    (hsize : 1 ≤ size.toNat ∧ size.toNat ≤ 242)
    (hok : PrepareFrame s macHdr ⟨0, false, false, false, adr⟩ fPort (some buffer) size =
      (LORAMAC_STATUS_OK, t)) :
    Decodable s t macHdr adr fPort buffer size.toNat ↔
      (s.MacCommandsInNextTx = true →
        s.MacCommandsBufferIndex.toNat + s.MacCommandsBufferToRepeatIndex.toNat + size.toNat ≤
          242) := by
  have hcut : size.toUInt8.toNat = size.toNat := by
    rw [UInt16.toNat_toUInt8]
    omega
  have hpos : 0 < size.toUInt8 := by
    rw [UInt8.lt_iff_toNat_lt, hcut]
    exact hsize.1
  have hlength := length_request htype hcommands hpos hok
  have hfOpts := length_FOpts s macHdr adr fPort buffer size
  have hroom : t.LoRaMacBufferPktLen ≤ LORAMAC_PHY_MAXPAYLOAD ↔ (s.MacCommandsInNextTx = true →
      s.MacCommandsBufferIndex.toNat + s.MacCommandsBufferToRepeatIndex.toNat + size.toNat ≤
        242) := by
    rw [hlength, hfOpts, hcut, LORAMAC_PHY_MAXPAYLOAD]
    by_cases hnext : s.MacCommandsInNextTx = true
    · simp only [hnext, if_true, true_implies]
      omega
    · simp only [hnext, Bool.false_eq_true, if_false, false_implies, iff_true]
      omega
  refine ⟨fun h => hroom.mp h.1, fun h => ?_⟩
  have hle := hroom.mpr h
  refine ⟨hle, _, parseUplink_request htype hcommands hpos hok, ?_, ?_⟩
  · rw [← hcut]
    exact carries_requestFields ..
  · rw [read_covered htype hcommands hpos hok]
    have hcovered : (requestFields s macHdr adr fPort buffer size).bytes.length % 256 =
        (requestFields s macHdr adr fPort buffer size).bytes.length := by
      rw [LORAMAC_PHY_MAXPAYLOAD] at hle
      rw [length_bytes, length_FRMPayload, Nat.mod_eq_of_lt]
      omega
    change uplinkMic s (requestFields s macHdr adr fPort buffer size).bytes = _
    rw [uplinkMic, hcovered, List.take_length]

end Request

/-- A board whose MIC counts the bytes that it covers. -/
def Env.counting : Env :=
  { Env.plain with LoRaMacComputeMic := fun bytes _ _ _ _ => UInt32.ofNat bytes.length }

/-- A node at the data rate 5. -/
def Mac.counting : Mac :=
  { Mac.personalised Env.counting with
    LoRaMacParams := { defaultParams with ChannelsDatarate := 5 } }

/-- The node with seven answers to `RXTimingSetupReq` that are to be repeated. -/
def Mac.repeating : Mac :=
  { Mac.counting with
    MacCommandsInNextTx := true
    MacCommandsBufferToRepeat := fun _ => 0x08
    MacCommandsBufferToRepeatIndex := 7 }

/-- Four bytes next to the answers. -/
theorem decodable_repeating : ∃ t,
    PrepareFrame Mac.repeating FRAME_TYPE_DATA_UNCONFIRMED_UP ⟨0, false, false, false, true⟩ 1
      (some fun _ => 0) 4 = (LORAMAC_STATUS_OK, t) ∧
    Decodable Mac.repeating t FRAME_TYPE_DATA_UNCONFIRMED_UP true 1 (fun _ => 0) 4 := by
  obtain ⟨t, hok⟩ : ∃ t, PrepareFrame Mac.repeating FRAME_TYPE_DATA_UNCONFIRMED_UP
      ⟨0, false, false, false, true⟩ 1 (some fun _ => 0) 4 = (LORAMAC_STATUS_OK, t) :=
    ⟨_, PrepareFrame_accepted (.inr rfl) ⟨rfl, by decide⟩⟩
  exact ⟨t, hok, (decodable_iff (.inr rfl) (by decide) (by decide) hok).mpr (by decide)⟩

/-- With 242 bytes next to the answers the frame has 262 bytes, and its MIC covers the first two. -/
theorem not_decodable_repeating : ∃ t,
    PrepareFrame Mac.repeating FRAME_TYPE_DATA_UNCONFIRMED_UP ⟨0, false, false, false, true⟩ 1
      (some fun _ => 0) 242 = (LORAMAC_STATUS_OK, t) ∧ t.LoRaMacBufferPktLen = 262 ∧
    ¬ ∃ fields, parseUplink (t.LoRaMacBuffer.read 0 t.LoRaMacBufferPktLen) = some fields ∧
      fields.mic = Mac.repeating.env.LoRaMacComputeMic
        (t.LoRaMacBuffer.read 0 (t.LoRaMacBufferPktLen - LORAMAC_MFR_LEN))
        Mac.repeating.LoRaMacNwkSKey Mac.repeating.LoRaMacDevAddr UP_LINK
        Mac.repeating.UpLinkCounter := by
  obtain ⟨t, hok⟩ : ∃ t, PrepareFrame Mac.repeating FRAME_TYPE_DATA_UNCONFIRMED_UP
      ⟨0, false, false, false, true⟩ 1 (some fun _ => 0) 242 = (LORAMAC_STATUS_OK, t) :=
    ⟨_, PrepareFrame_accepted (.inr rfl) ⟨rfl, by decide⟩⟩
  have hlength := length_request (.inr rfl) (by decide) (by decide) hok
  rw [length_FOpts] at hlength
  refine ⟨t, hok, hlength, ?_⟩
  rintro ⟨fields, hparse, hmic⟩
  rw [parseUplink_request (.inr rfl) (by decide) (by decide) hok] at hparse
  rw [read_covered (.inr rfl) (by decide) (by decide) hok] at hmic
  cases hparse
  have hbytes : (requestFields Mac.repeating FRAME_TYPE_DATA_UNCONFIRMED_UP true 1 (fun _ => 0)
      242).bytes.length = 258 := by
    rw [length_bytes, length_FOpts, length_FRMPayload]
    rfl
  change UInt32.ofNat (List.take _ _).length = UInt32.ofNat _ at hmic
  rw [List.length_take, hbytes] at hmic
  exact absurd hmic (by decide)

end loranode.mac
