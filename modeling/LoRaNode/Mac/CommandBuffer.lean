import LoRaNode.Mac.Config

namespace loranode.mac

open LoRaMacStatus_t LoRaMacFrameType_t

/-- The new commands and those to repeat fit into one buffer together, and every access to the
two buffers was inside them. -/
structure Bounded (c : Config) : Prop where
  room : c.MacCommandsBufferIndex.toNat + c.MacCommandsBufferToRepeatIndex.toNat ≤
    LORA_MAC_COMMAND_MAX_LENGTH
  accesses : ∀ i ∈ c.accesses, i < LORA_MAC_COMMAND_MAX_LENGTH

/-- The byte at `i` of the commands that wait: the new ones, and behind them those to repeat. -/
def Mac.queuedByte (s : Mac) (i : Nat) : UInt8 :=
  if i < s.MacCommandsBufferIndex.toNat then s.MacCommandsBuffer i
  else s.MacCommandsBufferToRepeat (i - s.MacCommandsBufferIndex.toNat)

/-- `ParseMacCommandsToRepeat` takes the byte at `i` for a setup answer: it has the code of one, and
is not one of the two bytes that are copied with the answer before it. -/
def setupAt (byte : Nat → UInt8) : Nat → Bool
  | 0 => byte 0 == LoRaMacMoteCmd_t.MOTE_MAC_RX_PARAM_SETUP_ANS.code
  | 1 => byte 1 == LoRaMacMoteCmd_t.MOTE_MAC_RX_PARAM_SETUP_ANS.code && !setupAt byte 0
  | i + 2 => byte (i + 2) == LoRaMacMoteCmd_t.MOTE_MAC_RX_PARAM_SETUP_ANS.code &&
    !setupAt byte (i + 1) && !setupAt byte i

/-- No setup answer is found among the commands that wait at the last two places of the buffer, 13
and 14, where the three bytes that are copied for it would not fit. -/
def Mac.Repeatable (s : Mac) : Prop :=
  ∀ i, 13 ≤ i → i < s.MacCommandsBufferIndex.toNat + s.MacCommandsBufferToRepeatIndex.toNat →
    setupAt s.queuedByte i = false

instance (s : Mac) : Decidable s.Repeatable :=
  inferInstanceAs (Decidable (∀ i, 13 ≤ i →
    i < s.MacCommandsBufferIndex.toNat + s.MacCommandsBufferToRepeatIndex.toNat →
    setupAt s.queuedByte i = false))

theorem setupAt_congr {byte byte' : Nat → UInt8} {n : Nat} (h : ∀ i < n, byte' i = byte i) :
    ∀ i < n, setupAt byte' i = setupAt byte i
  | 0, hi => by rw [setupAt, setupAt, h 0 hi]
  | 1, hi => by
    have hzero := setupAt_congr h 0 (by omega)
    change (byte' 1 == _ && !setupAt byte' 0) = (byte 1 == _ && !setupAt byte 0)
    rw [h 1 hi, hzero]
  | i + 2, hi => by
    rw [setupAt, setupAt, h (i + 2) hi, setupAt_congr h (i + 1) (by omega),
      setupAt_congr h i (by omega)]

/-- The parser stands at `i`: no answer that it has copied reaches that far. -/
def Stands (byte : Nat → UInt8) (i : Nat) : Prop :=
  ∀ j < i, i ≤ j + 2 → setupAt byte j = false

theorem Stands.setupAt_eq {byte : Nat → UInt8} : ∀ {i : Nat}, Stands byte i →
    setupAt byte i = (byte i == LoRaMacMoteCmd_t.MOTE_MAC_RX_PARAM_SETUP_ANS.code)
  | 0, _ => rfl
  | 1, h => by rw [setupAt, h 0 (by omega) (by omega), Bool.not_false, Bool.and_true]
  | i + 2, h => by
    rw [setupAt, h (i + 1) (by omega) (by omega), h i (by omega) (by omega), Bool.not_false,
      Bool.and_true, Bool.and_true]

theorem Stands.next {byte : Nat → UInt8} {i : Nat} (h : Stands byte i)
    (hi : setupAt byte i = false) : Stands byte (i + 1) := by
  intro j hj hle
  rcases Nat.lt_or_eq_of_le (Nat.le_of_lt_succ hj) with hlt | rfl
  · exact h j hlt (by omega)
  · exact hi

/-- The two bytes after a setup answer belong to it. -/
theorem stands_of_setupAt {byte : Nat → UInt8} {i : Nat} (hi : setupAt byte i = true) :
    Stands byte (i + 3) := by
  have hfirst : setupAt byte (i + 1) = false := by
    cases i <;> rw [setupAt, hi] <;> simp
  have hsecond : setupAt byte (i + 2) = false := by
    rw [setupAt, hi]
    simp
  intro j hj hle
  obtain rfl | rfl : j = i + 1 ∨ j = i + 2 := by omega
  · exact hfirst
  · exact hsecond

theorem length_bytes_pos (cmd : LoRaMacMoteCmd_t) (p1 p2 : UInt8) :
    0 < (cmd.bytes p1 p2).length ∧ (cmd.bytes p1 p2).length ≤ 3 := by
  cases cmd <;> simp [LoRaMacMoteCmd_t.bytes]

theorem toNat_room {s : Mac} (hs : Bounded s.config) :
    (UInt8.ofNat LORA_MAC_COMMAND_MAX_LENGTH - s.MacCommandsBufferToRepeatIndex).toNat =
      LORA_MAC_COMMAND_MAX_LENGTH - s.MacCommandsBufferToRepeatIndex.toNat := by
  refine UInt8.toNat_sub_of_le _ _ (UInt8.le_iff_toNat_le.mpr ?_)
  have hroom := hs.room
  change s.MacCommandsBufferIndex.toNat + s.MacCommandsBufferToRepeatIndex.toNat ≤ 15 at hroom
  change s.MacCommandsBufferToRepeatIndex.toNat ≤ 15
  omega

theorem bounded_AddMacCommand {s : Mac} (cmd : LoRaMacMoteCmd_t) (p1 p2 : UInt8)
    (hs : Bounded s.config) : Bounded (AddMacCommand s cmd p1 p2).2.config := by
  have hroom := hs.room
  have htoNat := toNat_room hs
  obtain ⟨hpos, hlength⟩ := length_bytes_pos cmd p1 p2
  change s.MacCommandsBufferIndex.toNat + s.MacCommandsBufferToRepeatIndex.toNat ≤ 15 at hroom
  unfold LORA_MAC_COMMAND_MAX_LENGTH at htoNat
  unfold AddMacCommand
  dsimp only
  split
  · next hfits =>
    unfold LORA_MAC_COMMAND_MAX_LENGTH at hfits
    rw [htoNat] at hfits
    have hindex : (s.MacCommandsBufferIndex + UInt8.ofNat (cmd.bytes p1 p2).length).toNat =
        s.MacCommandsBufferIndex.toNat + (cmd.bytes p1 p2).length := by
      rw [UInt8.toNat_add, UInt8.toNat_ofNat_of_lt' (by change _ < 256; omega)]
      exact Nat.mod_eq_of_lt (by omega)
    refine ⟨?_, fun i hi => ?_⟩
    · change (s.MacCommandsBufferIndex + UInt8.ofNat (cmd.bytes p1 p2).length).toNat +
        s.MacCommandsBufferToRepeatIndex.toNat ≤ 15
      omega
    · rcases List.mem_append.mp hi with hold | hnew
      · exact hs.accesses i hold
      · obtain ⟨hlow, hhigh⟩ := List.mem_range'_1.mp hnew
        change i < 15
        omega
  · exact hs

/-- The parser writes no further than it has read, and with no setup answer near the end it
reads no further than the buffer goes. -/
theorem parseMacCommandsFrom_bounded {buf : Mem} {length : Nat}
    (hlength : length ≤ LORA_MAC_COMMAND_MAX_LENGTH)
    (hend : ∀ i, 13 ≤ i → i < length → setupAt buf i = false)
    (fuel i cmdCount : Nat) (out : Mem) (hcount : cmdCount ≤ i)
    (hi : i ≤ LORA_MAC_COMMAND_MAX_LENGTH) (hstands : Stands buf i) :
    (parseMacCommandsFrom buf length fuel i cmdCount out).1 ≤ LORA_MAC_COMMAND_MAX_LENGTH ∧
      ∀ j ∈ (parseMacCommandsFrom buf length fuel i cmdCount out).2.2,
        j < LORA_MAC_COMMAND_MAX_LENGTH := by
  unfold LORA_MAC_COMMAND_MAX_LENGTH at *
  induction fuel generalizing i cmdCount out with
  | zero => exact ⟨Nat.le_trans hcount hi, fun j hj => absurd hj List.not_mem_nil⟩
  | succ fuel ih =>
    unfold parseMacCommandsFrom
    split
    · exact ⟨Nat.le_trans hcount hi, fun j hj => absurd hj List.not_mem_nil⟩
    · next hinside =>
      split
      · next hsetup =>
        have htaken : setupAt buf i = true := by
          rw [hstands.setupAt_eq, hsetup]
          exact beq_self_eq_true _
        have hearly : i < 13 := by
          by_contra hlate
          rw [hend i (by omega) (by omega)] at htaken
          cases htaken
        obtain ⟨hcount', haccesses⟩ := ih (i + 3) (cmdCount + 3)
          (out.write cmdCount (buf.read i 3)) (by omega) (by omega) (stands_of_setupAt htaken)
        refine ⟨hcount', fun j hj => ?_⟩
        rcases List.mem_append.mp hj with hcopy | hlater
        · rcases List.mem_append.mp hcopy with hread | hwrite
          · have hj := List.mem_range'_1.mp hread
            omega
          · have hj := List.mem_range'_1.mp hwrite
            omega
        · exact haccesses j hlater
      · next hother =>
        have hnext : Stands buf (i + 1) := hstands.next (by
          rw [hstands.setupAt_eq]
          exact beq_eq_false_iff_ne.mpr hother)
        split
        · obtain ⟨hcount', haccesses⟩ := ih (i + 1) (cmdCount + 1)
            (out.write cmdCount [buf i]) (by omega) (by omega) hnext
          refine ⟨hcount', fun j hj => ?_⟩
          rcases List.mem_append.mp hj with hcopy | hlater
          · simp only [List.mem_cons, List.not_mem_nil, or_false] at hcopy
            omega
          · exact haccesses j hlater
        · obtain ⟨hcount', haccesses⟩ := ih (i + 1) cmdCount out (by omega) (by omega) hnext
          refine ⟨hcount', fun j hj => ?_⟩
          rcases List.mem_cons.mp hj with rfl | hlater
          · omega
          · exact haccesses j hlater

/-- The state in which a frame takes the commands: they are all in one buffer. -/
structure Collected (s : Mac) : Prop where
  room : s.MacCommandsBufferIndex.toNat ≤ LORA_MAC_COMMAND_MAX_LENGTH
  accesses : ∀ i ∈ s.board.accesses, i < LORA_MAC_COMMAND_MAX_LENGTH
  repeatable : ∀ i, 13 ≤ i → i < s.MacCommandsBufferIndex.toNat →
    setupAt s.MacCommandsBuffer i = false

theorem collected_collectMacCommands {s : Mac} (hs : Bounded s.config) (hrepeat : s.Repeatable) :
    Collected (collectMacCommands s) := by
  have hroom := hs.room
  change s.MacCommandsBufferIndex.toNat + s.MacCommandsBufferToRepeatIndex.toNat ≤ 15 at hroom
  have hindex : (collectMacCommands s).MacCommandsBufferIndex.toNat =
      s.MacCommandsBufferIndex.toNat + s.MacCommandsBufferToRepeatIndex.toNat := by
    change (s.MacCommandsBufferIndex + s.MacCommandsBufferToRepeatIndex).toNat = _
    rw [UInt8.toNat_add]
    exact Nat.mod_eq_of_lt (by omega)
  refine ⟨?_, fun i hi => ?_, fun i hlate hi => ?_⟩
  · rw [hindex]
    exact hroom
  · change i < 15
    rcases List.mem_append.mp hi with hold | hnew
    · exact hs.accesses i hold
    · rcases List.mem_append.mp hnew with hwrite | hread
      · have hi := List.mem_range'_1.mp hwrite
        omega
      · have hi := List.mem_range.mp hread
        omega
  · rw [hindex] at hi
    have hbyte : ∀ i < s.MacCommandsBufferIndex.toNat + s.MacCommandsBufferToRepeatIndex.toNat,
        (collectMacCommands s).MacCommandsBuffer i = s.queuedByte i := by
      intro i hi
      change s.MacCommandsBuffer.write s.MacCommandsBufferIndex.toNat
        (s.MacCommandsBufferToRepeat.read 0 s.MacCommandsBufferToRepeatIndex.toNat) i = _
      unfold Mac.queuedByte
      split
      · next hnew => exact Mem.write_of_lt hnew
      · next hold =>
        obtain ⟨j, rfl⟩ := Nat.exists_eq_add_of_le (Nat.le_of_not_lt hold)
        have hj : j < s.MacCommandsBufferToRepeatIndex.toNat := by omega
        rw [Mem.write_of_mem (by rw [Mem.length_read]; exact hj), Mem.getD_read _ _ _ _ hj,
          Nat.zero_add, Nat.add_sub_cancel_left]
    rw [setupAt_congr hbyte i hi]
    exact hrepeat i hlate hi

theorem collected_placeMacCommands {s : Mac} (fCtrl : LoRaMacFrameCtrl_t) (fPort : UInt8)
    (fBuffer : Option Mem) (payloadSize : UInt8) (hs : Collected s) :
    Collected (placeMacCommands s fCtrl fPort fBuffer payloadSize).2 := by
  have haccess : Collected (s.access (List.range s.MacCommandsBufferIndex.toNat)) := by
    refine ⟨hs.room, fun i hi => ?_, hs.repeatable⟩
    rcases List.mem_append.mp hi with hold | hread
    · exact hs.accesses i hold
    · exact Nat.lt_of_lt_of_le (List.mem_range.mp hread) hs.room
  unfold placeMacCommands
  split
  · split
    · exact ⟨haccess.room, haccess.accesses, haccess.repeatable⟩
    · exact hs
  · split
    · exact haccess
    · exact hs

theorem bounded_retireMacCommands {s : Mac} (hs : Collected s) :
    Bounded (retireMacCommands s).config := by
  obtain ⟨hcount, haccesses⟩ := parseMacCommandsFrom_bounded hs.room hs.repeatable
    s.MacCommandsBufferIndex.toNat 0 0 s.MacCommandsBufferToRepeat (Nat.le_refl 0) (Nat.zero_le _)
    (fun j hj => absurd hj (Nat.not_lt_zero j))
  refine ⟨?_, fun i hi => ?_⟩
  · change 0 + (UInt8.ofNat (parseMacCommandsFrom s.MacCommandsBuffer
      s.MacCommandsBufferIndex.toNat s.MacCommandsBufferIndex.toNat 0 0
      s.MacCommandsBufferToRepeat).1).toNat ≤ 15
    rw [Nat.zero_add, UInt8.toNat_ofNat']
    exact Nat.le_trans (Nat.mod_le _ _) hcount
  · rcases List.mem_append.mp hi with hold | hparsed
    · exact hs.accesses i hold
    · exact haccesses i hparsed

theorem bounded_placePayload {s : Mac} (plan : FramePlan) (hs : Bounded s.config) :
    Bounded (placePayload s plan).2.config := by
  unfold placePayload
  split
  · exact hs
  · split <;> exact hs

theorem bounded_buildDataFrame {s : Mac} (fCtrl : LoRaMacFrameCtrl_t) (fPort : UInt8)
    (fBuffer : Option Mem) (fBufferSize : UInt16) (hs : Bounded s.config)
    (hrepeat : s.Repeatable) :
    Bounded (buildDataFrame s fCtrl fPort fBuffer fBufferSize).config := by
  unfold buildDataFrame
  dsimp only
  refine bounded_placePayload _ (bounded_retireMacCommands (collected_placeMacCommands _ _ _ _
    (collected_collectMacCommands ?_ ?_)))
  · exact hs
  · exact hrepeat

theorem bounded_adaptDatarate {s : Mac} (adrEnabled : Bool) (hs : Bounded s.config)
    (hrepeat : s.Repeatable) :
    Bounded (adaptDatarate s adrEnabled).2.config ∧
      (adaptDatarate s adrEnabled).2.Repeatable := by
  obtain ⟨counter, lookups, params, h⟩ := adaptDatarate_snd s adrEnabled
  rw [h]
  exact ⟨⟨hs.room, hs.accesses⟩, hrepeat⟩

theorem bounded_prepareData {s : Mac} (fCtrl : LoRaMacFrameCtrl_t) (fPort : UInt8)
    (fBuffer : Option Mem) (fBufferSize : UInt16) (hs : Bounded s.config)
    (hrepeat : s.IsLoRaMacNetworkJoined = true → s.Repeatable) :
    Bounded (prepareData s fCtrl fPort fBuffer fBufferSize).2.config := by
  unfold prepareData
  split
  · exact hs
  · next hjoined =>
    rw [Bool.not_eq_false] at hjoined
    obtain ⟨hadapted, hrepeat⟩ := bounded_adaptDatarate fCtrl.Adr hs (hrepeat hjoined)
    dsimp only
    split
    · exact bounded_buildDataFrame _ _ _ _ hadapted hrepeat
    · exact hadapted

theorem bounded_PrepareFrame {s : Mac} (macHdr : LoRaMacFrameType_t) (fCtrl : LoRaMacFrameCtrl_t)
    (fPort : UInt8) (fBuffer : Option Mem) (fBufferSize : UInt16) (hs : Bounded s.config)
    (hrepeat : macHdr ≠ FRAME_TYPE_PROPRIETARY → s.IsLoRaMacNetworkJoined = true →
      s.Repeatable) :
    Bounded (PrepareFrame s macHdr fCtrl fPort fBuffer fBufferSize).2.config := by
  unfold PrepareFrame
  dsimp only
  split
  · exact hs
  · exact bounded_prepareData _ _ _ _ hs (hrepeat (by decide))
  · exact bounded_prepareData _ _ _ _ hs (hrepeat (by decide))
  · unfold prepareProprietary
    split
    · exact hs
    · split <;> exact hs
  · exact hs

theorem bounded_LoRaMacChannelAdd {s : Mac} (id : UInt8) (params : ChannelParams_t)
    (hs : Bounded s.config) : Bounded (LoRaMacChannelAdd s id params).2.config := by
  unfold LoRaMacChannelAdd
  split
  · exact hs
  · split
    · exact hs
    · split
      · exact hs
      · exact hs
      · exact hs
      · exact ⟨hs.room, hs.accesses⟩

theorem bounded_LoRaMacChannelRemove {s : Mac} (id : UInt8) (hs : Bounded s.config) :
    Bounded (LoRaMacChannelRemove s id).2.config := by
  unfold LoRaMacChannelRemove
  split
  · exact hs
  · split
    · exact hs
    · exact ⟨hs.room, hs.accesses⟩

/-- Everything but the making of a data frame keeps the commands inside their buffers. -/
theorem kept_bounded : Kept Bounded where
  accepted := by
    intro s t hs h
    have hindex : t.MacCommandsBufferIndex = s.MacCommandsBufferIndex :=
      (congrArg Mac.MacCommandsBufferIndex h.unaccepted :)
    have haccesses : t.board.accesses = s.board.accesses :=
      (congrArg (fun t => t.board.accesses) h.unaccepted :)
    have hroom := hs.room
    refine ⟨?_, ?_⟩
    · change t.MacCommandsBufferIndex.toNat + t.MacCommandsBufferToRepeatIndex.toNat ≤ _
      rcases h.toRepeat with hrepeat | hrepeat
      · rw [hindex, hrepeat]
        exact hroom
      · rw [hindex, hrepeat]
        exact Nat.le_trans (Nat.add_le_add_left (Nat.zero_le _) _) hroom
    · change ∀ i ∈ t.board.accesses, i < _
      rw [haccesses]
      exact hs.accesses
  commanded _ hs := ⟨hs.room, hs.accesses⟩
  addMacCommand s cmd p1 p2 hs := bounded_AddMacCommand cmd p1 p2 hs
  schedule := by
    intro s t status h hs
    rcases ScheduleTx_cases h with ⟨-, -, rfl⟩ | ⟨-, -, u, hu, ht⟩
    · exact hs
    · have hindex : u.MacCommandsBufferIndex = s.MacCommandsBufferIndex :=
        (congrArg Mac.MacCommandsBufferIndex hu.unchosen :)
      have hrepeat : u.MacCommandsBufferToRepeatIndex = s.MacCommandsBufferToRepeatIndex :=
        (congrArg Mac.MacCommandsBufferToRepeatIndex hu.unchosen :)
      have haccesses : u.board.accesses = s.board.accesses :=
        (congrArg (fun u => u.board.accesses) hu.unchosen :)
      have hroom : u.MacCommandsBufferIndex.toNat + u.MacCommandsBufferToRepeatIndex.toNat ≤
          LORA_MAC_COMMAND_MAX_LENGTH := by
        rw [hindex, hrepeat]
        exact hs.room
      have haccess : ∀ i ∈ u.board.accesses, i < LORA_MAC_COMMAND_MAX_LENGTH := by
        rw [haccesses]
        exact hs.accesses
      rcases ht with rfl | ⟨time, rfl⟩
      · exact ⟨hroom, haccess⟩
      · exact ⟨hroom, haccess⟩
  nextTrial hs := ⟨hs.room, hs.accesses⟩
  giveUpTrials hs := ⟨hs.room, hs.accesses⟩
  reset hs := ⟨Nat.zero_le _, hs.accesses⟩
  datarate _ _ hs := ⟨hs.room, hs.accesses⟩
  channelAdd id params hs := bounded_LoRaMacChannelAdd id params hs
  channelRemove id hs := bounded_LoRaMacChannelRemove id hs

/-- What an event must meet: a data request that finds the node joined and no frame on its way finds
commands that can be repeated. -/
def KeepsRoom (s : Mac) : Event → Prop
  | .request (.mcps (.Unconfirmed ..)) | .request (.mcps (.Confirmed ..)) =>
    s.busy = false → s.IsLoRaMacNetworkJoined = true → s.Repeatable
  | _ => True

instance (s : Mac) : ∀ e, Decidable (KeepsRoom s e)
  | .request (.mcps (.Unconfirmed ..)) | .request (.mcps (.Confirmed ..)) =>
    inferInstanceAs (Decidable (s.busy = false → s.IsLoRaMacNetworkJoined = true → s.Repeatable))
  | .request (.mcps (.Proprietary ..)) | .request (.mcps .Multicast) | .request (.mlme _)
  | .request (.mib _) | .request (.channelAdd ..) | .request (.channelRemove _)
  | .request (.multicastLink _) | .request (.multicastUnlink _) | .upperReturn | .radio _
  | .macStateCheckTimer | .txDelayedTimer | .rxWindowTimer1 | .rxWindowTimer2
  | .ackTimeoutTimer => .isTrue trivial

theorem bounded_step {s t : Mac} {e : Event} (h : step s e = some t) (he : KeepsRoom s e)
    (hs : Bounded s.config) : Bounded t.config := by
  refine kept_step kept_bounded h ?_ ?_ ?_ hs
  · rintro r u macHdr rfl hrequested hhdr hu
    refine bounded_PrepareFrame _ _ _ _ _ hu fun hdata hjoined => ?_
    have hsjoined : s.IsLoRaMacNetworkJoined = true :=
      (congrArg Mac.IsLoRaMacNetworkJoined hrequested.unrequested :).symm.trans hjoined
    have hrepeat : s.Repeatable := by
      cases r with
      | Unconfirmed => exact he hrequested.idle hsjoined
      | Confirmed => exact he hrequested.idle hsjoined
      | Proprietary =>
        cases hhdr
        exact absurd rfl hdata
      | Multicast => cases hhdr
    have hview : u.Repeatable = s.Repeatable :=
      (congrArg Mac.Repeatable hrequested.unrequested :)
    rw [hview]
    exact hrepeat
  · intro r _ _
    exact kept_mibSet kept_bounded r hs fun _ _ => ⟨hs.room, hs.accesses⟩
  · intro u frame _ _ _ _ _ _ _ hu
    exact kept_openSession kept_bounded _ _ ⟨hu.room, hu.accesses⟩ fun ht => ⟨ht.room, ht.accesses⟩

/-- In every run of such events the commands stay inside their buffers: the new ones and those to
repeat have room together, and no access to either buffer is behind its end. The events are
arbitrary but for the data requests that find a setup answer too near to the end. -/
theorem bounded_of_keepsRoom {env : Env} {es : List Event} {t : Mac}
    (hrun : Runs KeepsRoom (Mac.boot env) es t) :
    t.MacCommandsBufferIndex.toNat + t.MacCommandsBufferToRepeatIndex.toNat ≤ 15 ∧
      ∀ i ∈ t.board.accesses, i < 15 := by
  have hboot : Bounded (Mac.boot env).config :=
    ⟨Nat.zero_le _, fun i hi => absurd hi List.not_mem_nil⟩
  have ht : Bounded t.config := hrun.invariant (P := fun t => Bounded t.config) hboot
    fun _ _ _ hs he hstep => bounded_step hstep he hs
  exact ⟨ht.room, ht.accesses⟩

/-- A frame on port 0 with a timing setup request and a parameter setup request. -/
def twoRequests : RxFrame :=
  .ofBytes [0x60, 1, 0, 0, 0, 0, 0, 0, 0, 0x08, 1, 0x05, 0, 0xD2, 0xAD, 0x84, 0, 0, 0, 0]

/-- A node that is given a session sends, and gets the frame. It answers with its next frame, and,
having heard nothing, repeats the answers with the one after that. -/
def answerAndRepeat : List Event :=
  [.request (.mib (.MIB_NETWORK_JOINED true)), .request (.mib (.MIB_DEV_ADDR 1)),
    .request (.mcps (.Unconfirmed 1 none 0 5)), .radio .TxDone, .rxWindowTimer1,
    .radio (.RxDone twoRequests 0 0 false), .macStateCheckTimer, .upperReturn, .upperReturn,
    .request (.mcps (.Unconfirmed 1 none 0 5)), .radio .TxDone, .rxWindowTimer2,
    .radio (.RxTimeout false), .macStateCheckTimer, .upperReturn,
    .request (.mcps (.Unconfirmed 1 none 0 5))]

theorem bounded_of_keepsRoom_answerAndRepeat :
    ∃ t, Runs KeepsRoom (Mac.boot Env.slow) answerAndRepeat t ∧
      t.MacCommandsBufferToRepeatIndex = 4 ∧ t.board.accesses.length = 34 ∧
      ∀ i ∈ t.board.accesses, i < 15 := by
  obtain ⟨t, hrun, ht⟩ := transition.Run.of_after step KeepsRoom (Mac.boot Env.slow)
    answerAndRepeat
    (fun t => decide (t.MacCommandsBufferToRepeatIndex = 4 ∧ t.board.accesses.length = 34))
    (by decide +kernel)
  obtain ⟨hindex, hlength⟩ := of_decide_eq_true ht
  exact ⟨t, hrun, hindex, hlength, (bounded_of_keepsRoom hrun).2⟩

/-- A frame on port 0 with 13 timing setup requests and a parameter setup request. -/
def setupFrame : RxFrame :=
  .ofBytes ([0x60, 1, 0, 0, 0, 0, 0, 0, 0] ++ (List.replicate 13 [0x08, 1]).flatten ++
    [0x05, 0, 0xD2, 0xAD, 0x84] ++ [0, 0, 0, 0])

/-- A node that is given a session sends, gets the frame, and sends again. -/
def setupAndSend : List Event :=
  [.request (.mib (.MIB_NETWORK_JOINED true)), .request (.mib (.MIB_DEV_ADDR 1)),
    .request (.mcps (.Unconfirmed 1 none 0 5)), .radio .TxDone, .rxWindowTimer1,
    .radio (.RxDone setupFrame 0 0 false), .macStateCheckTimer, .upperReturn,
    .request (.mcps (.Unconfirmed 1 none 0 5))]

/-- The answers fill the buffer, and the last one of them is a parameter setup answer. It has
two bytes, and three are copied. -/
theorem not_bounded_setupAndSend :
    ∃ t, Runs (fun _ _ => True) (Mac.boot Env.plain) setupAndSend t ∧
      ¬ t.MacCommandsBufferIndex.toNat + t.MacCommandsBufferToRepeatIndex.toNat ≤ 15 ∧
      ¬ ∀ i ∈ t.board.accesses, i < 15 := by
  obtain ⟨t, hrun, ht⟩ := transition.Run.of_after step (fun _ _ => True)
    (Mac.boot Env.plain) setupAndSend
    (fun t => !decide
        (t.MacCommandsBufferIndex.toNat + t.MacCommandsBufferToRepeatIndex.toNat ≤ 15) &&
      !t.board.accesses.all fun i => decide (i < 15))
    (by decide +kernel)
  refine ⟨t, hrun, ?_⟩
  simpa using ht

end loranode.mac
