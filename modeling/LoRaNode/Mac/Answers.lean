import LoRaNode.Mac.Reads
import LoRaNode.Mac.CommandBuffer

namespace loranode.mac

open LoRaMacStatus_t LoRaMacMoteCmd_t

/-- The answers that wait in `MacCommandsBuffer`. -/
def Mac.answers (s : Mac) : List UInt8 :=
  s.MacCommandsBuffer.read 0 s.MacCommandsBufferIndex.toNat

/-- An answer of `n` bytes has room in the buffer, next to the commands to repeat. -/
def Mac.HasRoom (s : Mac) (n : Nat) : Prop :=
  s.MacCommandsBufferIndex.toNat + n ≤
    (UInt8.ofNat LORA_MAC_COMMAND_MAX_LENGTH - s.MacCommandsBufferToRepeatIndex).toNat

instance (s : Mac) (n : Nat) : Decidable (s.HasRoom n) :=
  inferInstanceAs (Decidable (_ ≤ _))

/-- The state without the answers and what their making leaves behind. -/
def Mac.unanswered (s : Mac) : Mac :=
  { s with
    MacCommandsBuffer := fun _ => 0
    MacCommandsBufferIndex := 0
    MacCommandsInNextTx := false
    board := { s.board with accesses := [], measures := 0 } }

theorem unanswered_AddMacCommand (s : Mac) (cmd : LoRaMacMoteCmd_t) (p1 p2 : UInt8) :
    (AddMacCommand s cmd p1 p2).2.unanswered = s.unanswered := by
  unfold AddMacCommand
  dsimp only
  split <;> rfl

theorem hasRoom_iff {s : Mac} (cmd : LoRaMacMoteCmd_t) (p1 p2 : UInt8) :
    s.MacCommandsBufferIndex.toNat <
        (UInt8.ofNat LORA_MAC_COMMAND_MAX_LENGTH - s.MacCommandsBufferToRepeatIndex).toNat -
          ((cmd.bytes p1 p2).length - 1) ↔
      s.HasRoom (cmd.bytes p1 p2).length := by
  have hpos := (length_bytes_pos cmd p1 p2).1
  unfold Mac.HasRoom
  omega

/-- An answer that has room is appended to those that wait. -/
theorem answers_AddMacCommand {s : Mac} {cmd : LoRaMacMoteCmd_t} {p1 p2 : UInt8}
    (hroom : s.HasRoom (cmd.bytes p1 p2).length) :
    (AddMacCommand s cmd p1 p2).2.MacCommandsBufferIndex.toNat =
        s.MacCommandsBufferIndex.toNat + (cmd.bytes p1 p2).length ∧
      (AddMacCommand s cmd p1 p2).2.answers = s.answers ++ cmd.bytes p1 p2 := by
  have hindex : (s.MacCommandsBufferIndex + UInt8.ofNat (cmd.bytes p1 p2).length).toNat =
      s.MacCommandsBufferIndex.toNat + (cmd.bytes p1 p2).length := by
    have hlength := (length_bytes_pos cmd p1 p2).2
    have hlast := (UInt8.ofNat LORA_MAC_COMMAND_MAX_LENGTH -
      s.MacCommandsBufferToRepeatIndex).toNat_lt
    unfold Mac.HasRoom at hroom
    rw [UInt8.toNat_add, UInt8.toNat_ofNat_of_lt' (by change _ < 256; omega)]
    exact Nat.mod_eq_of_lt (by omega)
  unfold AddMacCommand
  dsimp only
  rw [if_pos ((hasRoom_iff cmd p1 p2).mpr hroom)]
  refine ⟨hindex, ?_⟩
  change (s.MacCommandsBuffer.write _ _).read 0 (s.MacCommandsBufferIndex + _).toNat = _
  rw [hindex, Mem.read_write_end]
  rfl

/-- An answer without room is lost. -/
theorem AddMacCommand_of_not_hasRoom {s : Mac} {cmd : LoRaMacMoteCmd_t} {p1 p2 : UInt8}
    (hroom : ¬s.HasRoom (cmd.bytes p1 p2).length) : (AddMacCommand s cmd p1 p2).2 = s := by
  unfold AddMacCommand
  dsimp only
  rw [if_neg (mt (hasRoom_iff cmd p1 p2).mp hroom)]

section linkAdr

/-- Every channel of the mask is defined. -/
def Mac.Defines (s : Mac) (mask : UInt16) : Prop :=
  ∀ i < LORA_MAX_NB_CHANNELS, mask.toNat.testBit i = true → (s.Channels i).Frequency ≠ 0

instance (s : Mac) (mask : UInt16) : Decidable (s.Defines mask) :=
  inferInstanceAs (Decidable (∀ i < LORA_MAX_NB_CHANNELS, _))

/-- Adds a channel to the mask if it is defined. -/
def Mac.addDefined (s : Mac) (mask : UInt16) (i : Nat) : UInt16 :=
  if (s.Channels i).Frequency ≠ 0 then mask ||| UInt16.ofNat (1 <<< i) else mask

/-- The mask of all channels that are defined. -/
def Mac.definedChannels (s : Mac) : UInt16 :=
  (List.range LORA_MAX_NB_CHANNELS).foldl s.addDefined 0

theorem testBit_or_bit (mask : UInt16) (i k : Nat) (hk : k < 16) :
    (mask ||| UInt16.ofNat (1 <<< i)).toNat.testBit k = (mask.toNat.testBit k || decide (i = k)) := by
  rw [UInt16.toNat_or, Nat.testBit_or, UInt16.toNat_ofNat', Nat.testBit_mod_two_pow,
    Nat.one_shiftLeft, Nat.testBit_two_pow]
  simp [hk]

/-- The loop that adds the defined channels to a mask. -/
theorem testBit_foldl_or (s : Mac) (channels : List Nat) (mask : UInt16) {k : Nat} (hk : k < 16) :
    (channels.foldl s.addDefined mask).toNat.testBit k = true ↔
      mask.toNat.testBit k = true ∨ k ∈ channels ∧ (s.Channels k).Frequency ≠ 0 := by
  induction channels generalizing mask with
  | nil => simp
  | cons i channels ih =>
    rw [List.foldl_cons, ih, List.mem_cons]
    unfold Mac.addDefined
    by_cases hdefined : (s.Channels i).Frequency ≠ 0
    · rw [if_pos hdefined, testBit_or_bit mask i k hk]
      simp only [Bool.or_eq_true, decide_eq_true_eq]
      constructor
      · rintro ((hbit | rfl) | hlater)
        · exact .inl hbit
        · exact .inr ⟨.inl rfl, hdefined⟩
        · exact .inr ⟨.inr hlater.1, hlater.2⟩
      · rintro (hbit | ⟨rfl | hlater, hk⟩)
        · exact .inl (.inl hbit)
        · exact .inl (.inr rfl)
        · exact .inr ⟨hlater, hk⟩
    · rw [if_neg hdefined]
      constructor
      · rintro (hbit | hlater)
        · exact .inl hbit
        · exact .inr ⟨.inr hlater.1, hlater.2⟩
      · rintro (hbit | ⟨rfl | hlater, hk⟩)
        · exact .inl hbit
        · exact absurd hk hdefined
        · exact .inr ⟨hlater, hk⟩

theorem testBit_definedChannels (s : Mac) {k : Nat} (hk : k < LORA_MAX_NB_CHANNELS) :
    s.definedChannels.toNat.testBit k = true ↔ (s.Channels k).Frequency ≠ 0 := by
  unfold Mac.definedChannels
  rw [testBit_foldl_or s _ 0 hk]
  simp [hk]

/-- A mask of 16 channels is given by their bits. -/
theorem eq_of_testBit_iff {mask mask' : UInt16}
    (h : ∀ k < LORA_MAX_NB_CHANNELS, mask.toNat.testBit k = true ↔ mask'.toNat.testBit k = true) :
    mask = mask' := by
  apply UInt16.toNat.inj
  apply Nat.eq_of_testBit_eq
  intro k
  by_cases hk : k < LORA_MAX_NB_CHANNELS
  · exact Bool.eq_iff_iff.mpr (h k hk)
  · have hpow : 2 ^ 16 ≤ 2 ^ k := Nat.pow_le_pow_right (by decide) (Nat.le_of_not_lt hk)
    rw [Nat.testBit_lt_two_pow (Nat.lt_of_lt_of_le mask.toNat_lt hpow),
      Nat.testBit_lt_two_pow (Nat.lt_of_lt_of_le mask'.toNat_lt hpow)]

/-- With control 6 the loop adds the defined channels to what the server has sent. -/
theorem linkAdrMask_six (s : Mac) (chMask : UInt16) :
    linkAdrMask s 6 chMask = (0xFF, chMask ||| s.definedChannels) := by
  have hloop (channels : List Nat) (mask : UInt16) :
      channels.foldl (fun (x : UInt8 × UInt16) i => (x.1, s.addDefined x.2 i)) (0xFF, mask) =
        ((0xFF : UInt8), channels.foldl s.addDefined mask) := by
    induction channels generalizing mask with
    | nil => rfl
    | cons i channels ih => exact ih _
  have hmask : linkAdrMask s 6 chMask =
      ((0xFF : UInt8), (List.range LORA_MAX_NB_CHANNELS).foldl s.addDefined chMask) :=
    hloop (List.range LORA_MAX_NB_CHANNELS) chMask
  rw [hmask]
  congr 1
  apply eq_of_testBit_iff
  intro k hk
  rw [testBit_foldl_or s _ chMask hk, UInt16.toNat_or, Nat.testBit_or, Bool.or_eq_true,
    testBit_definedChannels s hk]
  simp [hk]

/-- With control 0 the loop checks what the server has sent. -/
theorem linkAdrMask_zero (s : Mac) {chMask : UInt16} (hsome : chMask ≠ 0) :
    ∃ status : UInt8, linkAdrMask s 0 chMask = (status, chMask) ∧
      (status &&& 0x07 = 0x07 ↔ s.Defines chMask) := by
  have hloop (channels : List Nat) (status : UInt8) :
      ∃ status' : UInt8, channels.foldl (fun (x : UInt8 × UInt16) i =>
          (if x.2.toNat.testBit i = true ∧ (s.Channels i).Frequency = 0 then x.1 &&& 0xFE
            else x.1, x.2)) (status, chMask) = (status', chMask) ∧
        (status' &&& 0x07 = 0x07 ↔ status &&& 0x07 = 0x07 ∧
          ∀ i ∈ channels, chMask.toNat.testBit i = true → (s.Channels i).Frequency ≠ 0) := by
    induction channels generalizing status with
    | nil => exact ⟨status, rfl, by simp⟩
    | cons i channels ih =>
      rw [List.foldl_cons]
      by_cases hmissing : chMask.toNat.testBit i = true ∧ (s.Channels i).Frequency = 0
      · obtain ⟨status', hfold, hstatus⟩ := ih (status &&& 0xFE)
        refine ⟨status', ?_, ?_⟩
        · simpa only [if_pos hmissing] using hfold
        · rw [hstatus]
          constructor
          · intro h
            exact absurd (mask_of_complete h.1).2 (by decide)
          · intro h
            exact absurd hmissing.2 (h.2 i (List.mem_cons_self ..) hmissing.1)
      · obtain ⟨status', hfold, hstatus⟩ := ih status
        refine ⟨status', ?_, ?_⟩
        · simpa only [if_neg hmissing] using hfold
        · have hi : chMask.toNat.testBit i = true → (s.Channels i).Frequency ≠ 0 :=
            fun hbit hzero => hmissing ⟨hbit, hzero⟩
          rw [hstatus, List.forall_mem_cons]
          exact ⟨fun h => ⟨h.1, hi, h.2⟩, fun h => ⟨h.1, h.2.2⟩⟩
  obtain ⟨status, hfold, hstatus⟩ := hloop (List.range LORA_MAX_NB_CHANNELS) 0xFF
  refine ⟨status, ?_, ?_⟩
  · rw [← hfold]
    unfold linkAdrMask
    rw [if_neg (fun h => hsome h.2), if_neg (fun h => h.1 rfl)]
    rfl
  · rw [hstatus]
    simp only [List.mem_range]
    exact ⟨fun h => h.2, fun h => ⟨by decide, h⟩⟩

theorem linkAdrStatus_of_range {maskStatus : UInt8} {datarate txPower : Int}
    (hdatarate : 0 ≤ datarate ∧ datarate ≤ 7) (hpower : 0 ≤ txPower ∧ txPower ≤ 5) :
    linkAdrStatus maskStatus datarate txPower = maskStatus &&& 0x07 := by
  have hdatarate' : ValueInRange datarate LORAMAC_TX_MIN_DATARATE LORAMAC_TX_MAX_DATARATE = true :=
    ValueInRange_eq_true.mpr hdatarate
  have hpower' : ValueInRange txPower LORAMAC_MAX_TX_POWER LORAMAC_MIN_TX_POWER = true :=
    ValueInRange_eq_true.mpr hpower
  unfold linkAdrStatus
  dsimp only
  rw [if_pos hpower', if_pos hdatarate', UInt8.and_comm]

/-- The answer is 7 exactly when the request is carried out. -/
theorem linkAdrStatus_eq_iff {maskStatus : UInt8} {datarate txPower : Int} :
    linkAdrStatus maskStatus datarate txPower = 0x07 ↔
      linkAdrStatus maskStatus datarate txPower &&& 0x07 = 0x07 := by
  constructor
  · intro h
    rw [h]
    rfl
  · intro h
    obtain ⟨hdatarate, hpower⟩ := range_of_linkAdrStatus h
    rw [linkAdrStatus_of_range hdatarate hpower] at h ⊢
    rwa [UInt8.and_assoc, UInt8.and_self] at h

/-- What a link ADR request asks for. -/
structure LinkAdr where
  datarate : Int
  txPower : Int
  chMask : UInt16
  chMaskCntl : UInt8
  nbRep : UInt8
  deriving DecidableEq

/-- The request behind the code at `macIndex`. -/
def linkAdrAt (payload : Mem) (macIndex : UInt8) : LinkAdr where
  datarate := (payload macIndex.toNat >>> 4).toNat
  txPower := (payload macIndex.toNat &&& 0x0F).toNat
  chMask := ofBytes16 (payload (macIndex + 1).toNat) (payload (macIndex + 2).toNat)
  chMaskCntl := payload (macIndex + 3).toNat >>> 4 &&& 0x07
  nbRep := if payload (macIndex + 3).toNat &&& 0x0F = 0 then 1
    else payload (macIndex + 3).toNat &&& 0x0F

/-- The channels that the request asks for: with control 6 all that are defined. -/
def LinkAdr.channels (r : LinkAdr) (s : Mac) : UInt16 :=
  if r.chMaskCntl = 6 then s.definedChannels else r.chMask

/-- The request is one that the node carries out. -/
structure LinkAdr.Acceptable (r : LinkAdr) (s : Mac) : Prop where
  adr : s.AdrCtrlOn = false →
    s.LoRaMacParams.ChannelsDatarate = r.datarate ∧ s.LoRaMacParams.ChannelsTxPower = r.txPower
  datarate : 0 ≤ r.datarate ∧ r.datarate ≤ 7
  txPower : 0 ≤ r.txPower ∧ r.txPower ≤ 5
  mask : r.chMaskCntl = 6 ∨ r.chMaskCntl = 0 ∧ r.chMask ≠ 0 ∧ s.Defines r.chMask

instance (r : LinkAdr) (s : Mac) : Decidable (r.Acceptable s) :=
  decidable_of_iff ((s.AdrCtrlOn = false → s.LoRaMacParams.ChannelsDatarate = r.datarate ∧
      s.LoRaMacParams.ChannelsTxPower = r.txPower) ∧ (0 ≤ r.datarate ∧ r.datarate ≤ 7) ∧
      (0 ≤ r.txPower ∧ r.txPower ≤ 5) ∧
      (r.chMaskCntl = 6 ∨ r.chMaskCntl = 0 ∧ r.chMask ≠ 0 ∧ s.Defines r.chMask))
    ⟨fun h => ⟨h.1, h.2.1, h.2.2.1, h.2.2.2⟩, fun h => ⟨h.adr, h.datarate, h.txPower, h.mask⟩⟩

/-- The four values that a link ADR request sets. -/
structure AdrValues where
  ChannelsDatarate : Int
  ChannelsTxPower : Int
  ChannelsMask : UInt16
  ChannelsNbRep : UInt8
  deriving DecidableEq

def Mac.adrValues (s : Mac) : AdrValues where
  ChannelsDatarate := s.LoRaMacParams.ChannelsDatarate
  ChannelsTxPower := s.LoRaMacParams.ChannelsTxPower
  ChannelsMask := s.LoRaMacParams.ChannelsMask
  ChannelsNbRep := s.LoRaMacParams.ChannelsNbRep

/-- The mask that the handler makes of an acceptable request. -/
def LinkAdr.mask (r : LinkAdr) (s : Mac) : UInt16 :=
  if r.chMaskCntl = 6 then r.chMask ||| s.definedChannels else r.chMask

/-- Carries out the request. -/
def LinkAdr.adopt (r : LinkAdr) (s : Mac) : Mac :=
  { s with
    LoRaMacParams := { s.LoRaMacParams with
      ChannelsDatarate := r.datarate
      ChannelsTxPower := r.txPower
      ChannelsMask := r.mask s
      ChannelsNbRep := r.nbRep } }

/-- The mask is good exactly for an acceptable request, and is then the one of `mask`. -/
theorem linkAdrMask_complete_iff (s : Mac) (r : LinkAdr) :
    ((linkAdrMask s r.chMaskCntl r.chMask).1 &&& 0x07 = 0x07 ↔
        r.chMaskCntl = 6 ∨ r.chMaskCntl = 0 ∧ r.chMask ≠ 0 ∧ s.Defines r.chMask) ∧
      ((linkAdrMask s r.chMaskCntl r.chMask).1 &&& 0x07 = 0x07 →
        (linkAdrMask s r.chMaskCntl r.chMask).2 = r.mask s) := by
  unfold LinkAdr.mask
  by_cases hsix : r.chMaskCntl = 6
  · have hfull : (0xFF : UInt8) &&& 0x07 = 0x07 := by decide
    simp [hsix, linkAdrMask_six, hfull]
  · have hbad : ¬(0xFE : UInt8) &&& 0x07 = 0x07 := by decide
    by_cases hzero : r.chMaskCntl = 0
    · by_cases hsome : r.chMask = 0
      · simp [linkAdrMask, hzero, hsome, hbad]
      · obtain ⟨status, hmask, hstatus⟩ := linkAdrMask_zero s hsome
        rw [hzero, hmask, hstatus]
        simp [hsome]
    · simp [linkAdrMask, hzero, hsix, hbad]

/-- The handler carries the request out when it is acceptable, and the answer says so. -/
theorem linkAdrReq_cases (s : Mac) (payload : Mem) (macIndex : UInt8) :
    (linkAdrAt payload macIndex).Acceptable s ∧
        (linkAdrReq s payload macIndex).2 =
          (AddMacCommand ((linkAdrAt payload macIndex).adopt s) MOTE_MAC_LINK_ADR_ANS 0x07 0).2 ∨
      ¬(linkAdrAt payload macIndex).Acceptable s ∧ ∃ status : UInt8, status ≠ 0x07 ∧
        (linkAdrReq s payload macIndex).2 =
          (AddMacCommand s MOTE_MAC_LINK_ADR_ANS status 0).2 := by
  let r := linkAdrAt payload macIndex
  obtain ⟨hmask, hvalue⟩ := linkAdrMask_complete_iff s r
  by_cases hrefused : s.AdrCtrlOn = false ∧ (s.LoRaMacParams.ChannelsDatarate ≠ r.datarate ∨
      s.LoRaMacParams.ChannelsTxPower ≠ r.txPower)
  · refine .inr ⟨fun h => ?_, 0, by decide, ?_⟩
    · obtain ⟨hdatarate, hpower⟩ := h.adr hrefused.1
      exact hrefused.2.elim (fun hne => hne hdatarate) (fun hne => hne hpower)
    · exact congrArg Prod.snd (if_pos hrefused)
  · have hadr (hoff : s.AdrCtrlOn = false) : s.LoRaMacParams.ChannelsDatarate = r.datarate ∧
        s.LoRaMacParams.ChannelsTxPower = r.txPower := by
      have hsame := not_and.mp hrefused hoff
      rw [not_or, not_not, not_not] at hsame
      exact hsame
    have hturn : (linkAdrReq s payload macIndex).2 =
        (AddMacCommand
          (if linkAdrStatus (linkAdrMask s r.chMaskCntl r.chMask).1 r.datarate r.txPower &&& 0x07 =
              0x07 then
            { s with
              LoRaMacParams := { s.LoRaMacParams with
                ChannelsDatarate := r.datarate
                ChannelsTxPower := r.txPower
                ChannelsMask := (linkAdrMask s r.chMaskCntl r.chMask).2
                ChannelsNbRep := r.nbRep } }
          else s) MOTE_MAC_LINK_ADR_ANS
          (linkAdrStatus (linkAdrMask s r.chMaskCntl r.chMask).1 r.datarate r.txPower) 0).2 :=
      congrArg Prod.snd (if_neg hrefused)
    by_cases hcomplete :
        linkAdrStatus (linkAdrMask s r.chMaskCntl r.chMask).1 r.datarate r.txPower &&& 0x07 = 0x07
    · rw [hturn, if_pos hcomplete, linkAdrStatus_eq_iff.mpr hcomplete]
      obtain ⟨hdatarate, hpower⟩ := range_of_linkAdrStatus hcomplete
      rw [linkAdrStatus_of_range hdatarate hpower, UInt8.and_assoc, UInt8.and_self] at hcomplete
      rw [hvalue hcomplete]
      exact .inl ⟨⟨hadr, hdatarate, hpower, hmask.mp hcomplete⟩, rfl⟩
    · rw [hturn, if_neg hcomplete]
      refine .inr ⟨fun h => hcomplete ?_, _, mt linkAdrStatus_eq_iff.mp hcomplete, rfl⟩
      rw [linkAdrStatus_of_range h.datarate h.txPower, UInt8.and_assoc, UInt8.and_self]
      exact hmask.mpr h.mask

/-- The request has been carried out, and the answer says so. -/
structure CarriedOut (s t : Mac) (r : LinkAdr) : Prop where
  answer : t.answers = s.answers ++ [MOTE_MAC_LINK_ADR_ANS.code, 0x07]
  values : t.adrValues = ⟨r.datarate, r.txPower, r.channels s, r.nbRep⟩
  datarate : 0 ≤ r.datarate ∧ r.datarate ≤ 7
  txPower : 0 ≤ r.txPower ∧ r.txPower ≤ 5
  nbRep : 1 ≤ r.nbRep ∧ r.nbRep ≤ 15
  defined : t.Defines t.LoRaMacParams.ChannelsMask
  enabled : ∃ i < LORA_MAX_NB_CHANNELS, t.LoRaMacParams.ChannelsMask.toNat.testBit i = true

/-- Nothing has changed, and no answer says otherwise. -/
structure TurnedDown (s t : Mac) : Prop where
  answer : t.answers ≠ s.answers ++ [MOTE_MAC_LINK_ADR_ANS.code, 0x07]
  values : t.adrValues = s.adrValues

theorem exists_testBit_of_ne_zero {mask : UInt16} (h : mask ≠ 0) :
    ∃ i < LORA_MAX_NB_CHANNELS, mask.toNat.testBit i = true := by
  by_contra hnone
  apply h
  apply eq_of_testBit_iff
  intro k hk
  have hbit : ¬mask.toNat.testBit k = true := fun hbit => hnone ⟨k, hk, hbit⟩
  simp [hbit]

/-- The mask that the handler makes is the requested one exactly when the server sends no
undefined channel along with control 6. -/
theorem mask_eq_channels_iff (r : LinkAdr) (s : Mac) :
    r.mask s = r.channels s ↔ (r.chMaskCntl = 6 → s.Defines r.chMask) := by
  unfold LinkAdr.mask LinkAdr.channels
  by_cases hsix : r.chMaskCntl = 6
  · rw [if_pos hsix, if_pos hsix]
    constructor
    · intro h _ i hi hbit
      rw [← testBit_definedChannels s hi, ← h, UInt16.toNat_or, Nat.testBit_or, hbit, Bool.true_or]
    · intro h
      apply eq_of_testBit_iff
      intro k hk
      rw [UInt16.toNat_or, Nat.testBit_or, Bool.or_eq_true, testBit_definedChannels s hk]
      exact ⟨fun hbit => hbit.elim (h hsix k hk) id, .inr⟩
  · simp [hsix]

theorem answers_ne_append {s : Mac} {bytes : List UInt8} (h : bytes ≠ []) :
    s.answers ≠ s.answers ++ bytes := by
  intro heq
  exact h (List.append_right_eq_self.mp heq.symm)

/-- When the effect of an acceptable request and its answer agree: there is room for the
answer, and with control 6 the server names defined channels only and there is one; or there
is no room, and the request asks for what is set. -/
def LinkAdr.Agrees (r : LinkAdr) (s : Mac) : Prop :=
  if s.HasRoom 2 then
    r.chMaskCntl = 6 → s.Defines r.chMask ∧
      ∃ i < LORA_MAX_NB_CHANNELS, (s.Channels i).Frequency ≠ 0
  else s.adrValues = ⟨r.datarate, r.txPower, r.mask s, r.nbRep⟩

/-- With room for the answer, an acceptable request is carried out as it should be unless
control 6 goes with undefined channels or finds none. -/
theorem carriedOut_adopt_iff {r : LinkAdr} {s : Mac} (h : r.Acceptable s)
    (hnbRep : 1 ≤ r.nbRep ∧ r.nbRep ≤ 15) (hroom : s.HasRoom 2) :
    CarriedOut s (AddMacCommand (r.adopt s) MOTE_MAC_LINK_ADR_ANS 0x07 0).2 r ↔
      (r.chMaskCntl = 6 → s.Defines r.chMask ∧
        ∃ i < LORA_MAX_NB_CHANNELS, (s.Channels i).Frequency ≠ 0) := by
  have hunanswered := unanswered_AddMacCommand (r.adopt s) MOTE_MAC_LINK_ADR_ANS 0x07 0
  have hanswer : (AddMacCommand (r.adopt s) MOTE_MAC_LINK_ADR_ANS 0x07 0).2.answers =
      s.answers ++ [MOTE_MAC_LINK_ADR_ANS.code, 0x07] := (answers_AddMacCommand hroom).2
  generalize (AddMacCommand (r.adopt s) MOTE_MAC_LINK_ADR_ANS 0x07 0).2 = t at hunanswered hanswer ⊢
  have hparams : t.LoRaMacParams = (r.adopt s).LoRaMacParams :=
    (congrArg Mac.LoRaMacParams hunanswered :)
  have hchannels : t.Channels = s.Channels := (congrArg Mac.Channels hunanswered :)
  have hmask : t.LoRaMacParams.ChannelsMask = r.mask s := by
    rw [hparams]
    rfl
  have hvalues : t.adrValues = ⟨r.datarate, r.txPower, r.mask s, r.nbRep⟩ := by
    unfold Mac.adrValues
    rw [hparams]
    rfl
  constructor
  · intro hdone hsix
    have hsame : r.mask s = r.channels s := by
      rw [hdone.values] at hvalues
      exact (congrArg AdrValues.ChannelsMask hvalues).symm
    obtain ⟨i, hi, hbit⟩ := hdone.enabled
    have hdefined := hdone.defined i hi hbit
    rw [hchannels] at hdefined
    exact ⟨(mask_eq_channels_iff r s).mp hsame hsix, i, hi, hdefined⟩
  · intro hsound
    have hsame : r.mask s = r.channels s :=
      (mask_eq_channels_iff r s).mpr fun hsix => (hsound hsix).1
    have hcovered : s.Defines (r.channels s) ∧
        ∃ i < LORA_MAX_NB_CHANNELS, (r.channels s).toNat.testBit i = true := by
      unfold LinkAdr.channels
      by_cases hsix : r.chMaskCntl = 6
      · obtain ⟨i, hi, hdefined⟩ := (hsound hsix).2
        rw [if_pos hsix]
        exact ⟨fun k hk => (testBit_definedChannels s hk).mp, i, hi,
          (testBit_definedChannels s hi).mpr hdefined⟩
      · obtain ⟨-, hsome, hdefined⟩ := h.mask.resolve_left hsix
        rw [if_neg hsix]
        exact ⟨hdefined, exists_testBit_of_ne_zero hsome⟩
    refine ⟨hanswer, hsame ▸ hvalues, h.datarate, h.txPower, hnbRep, ?_, ?_⟩
    · rw [hmask, hsame]
      intro i hi hbit
      rw [hchannels]
      exact hcovered.1 i hi hbit
    · rw [hmask, hsame]
      exact hcovered.2

/-- A link ADR request is carried out or turned down as a whole, and enables defined channels only,
exactly when it is not acceptable or its effect and its answer agree. The settings are changed
before it is known whether the answer finds room, and a request for all channels adds its own mask
to the defined ones. -/
theorem linkAdrReq_allOrNothing_iff (s : Mac) (payload : Mem) (macIndex : UInt8) :
    CarriedOut s (linkAdrReq s payload macIndex).2 (linkAdrAt payload macIndex) ∨
        TurnedDown s (linkAdrReq s payload macIndex).2 ↔
      ((linkAdrAt payload macIndex).Acceptable s → (linkAdrAt payload macIndex).Agrees s) := by
  have hnbRep : 1 ≤ (linkAdrAt payload macIndex).nbRep ∧ (linkAdrAt payload macIndex).nbRep ≤ 15 :=
    range_of_redundancy _
  obtain ⟨haccepted, hturn⟩ | ⟨hrefused, status, hstatus, hturn⟩ :=
    linkAdrReq_cases s payload macIndex
  · generalize linkAdrAt payload macIndex = r at *
    rw [hturn]
    simp only [haccepted, true_implies, LinkAdr.Agrees]
    by_cases hroom : s.HasRoom 2
    · have hanswer : (AddMacCommand (r.adopt s) MOTE_MAC_LINK_ADR_ANS 0x07 0).2.answers =
          s.answers ++ [MOTE_MAC_LINK_ADR_ANS.code, 0x07] := (answers_AddMacCommand hroom).2
      rw [if_pos hroom, ← carriedOut_adopt_iff haccepted hnbRep hroom]
      exact or_iff_left fun hdown => hdown.answer hanswer
    · have hlost : (AddMacCommand (r.adopt s) MOTE_MAC_LINK_ADR_ANS 0x07 0).2 = r.adopt s :=
        AddMacCommand_of_not_hasRoom hroom
      rw [if_neg hroom, hlost]
      constructor
      · rintro (hdone | hdown)
        · exact absurd hdone.answer (answers_ne_append (s := s) (by simp))
        · exact hdown.values.symm
      · intro hsame
        exact .inr ⟨answers_ne_append (s := s) (by simp), hsame.symm⟩
  · have hdown : TurnedDown s (AddMacCommand s MOTE_MAC_LINK_ADR_ANS status 0).2 := by
      constructor
      · by_cases hroom : s.HasRoom 2
        · have hanswer : (AddMacCommand s MOTE_MAC_LINK_ADR_ANS status 0).2.answers =
              s.answers ++ [MOTE_MAC_LINK_ADR_ANS.code, status] := (answers_AddMacCommand hroom).2
          rw [hanswer]
          simp [hstatus]
        · have hlost : (AddMacCommand s MOTE_MAC_LINK_ADR_ANS status 0).2 = s :=
            AddMacCommand_of_not_hasRoom hroom
          rw [hlost]
          exact answers_ne_append (by simp)
      · exact (congrArg Mac.adrValues (unanswered_AddMacCommand s MOTE_MAC_LINK_ADR_ANS status 0) :)
    rw [hturn]
    exact ⟨fun _ h => absurd h hrefused, fun _ => .inr hdown⟩

/-- A request to enable all channels whose mask names all sixteen: the three that are defined
and thirteen that are not are enabled, and the answer accepts the request. -/
theorem not_linkAdrReq_allOrNothing_enableAll :
    let s := Mac.personalised Env.plain
    let payload : Mem := fun i => [0x51, 0xFF, 0xFF, 0x61].getD i 0
    s.Defines s.LoRaMacParams.ChannelsMask ∧
      (linkAdrReq s payload 0).2.answers = [0x03, 0x07] ∧
      (linkAdrReq s payload 0).2.LoRaMacParams.ChannelsMask = 0xFFFF ∧
      ((linkAdrReq s payload 0).2.Channels 15).Frequency = 0 ∧
      ¬(CarriedOut s (linkAdrReq s payload 0).2 (linkAdrAt payload 0) ∨
        TurnedDown s (linkAdrReq s payload 0).2) := by
  intro s payload
  have hanswers : (linkAdrReq s payload 0).2.answers = [0x03, 0x07] := by decide +kernel
  have hmask : (linkAdrReq s payload 0).2.LoRaMacParams.ChannelsMask = 0xFFFF := by decide +kernel
  have hmissing : ((linkAdrReq s payload 0).2.Channels 15).Frequency = 0 := by decide +kernel
  refine ⟨by decide +kernel, hanswers, hmask, hmissing, ?_⟩
  rintro (hdone | hdown)
  · apply hdone.defined 15 (by decide) ?_ hmissing
    rw [hmask]
    decide
  · exact hdown.answer hanswers

end linkAdr

section silent

/-- What the server can set. -/
structure Settings where
  LoRaMacParams : LoRaMacParams_t
  MaxDCycle : UInt8
  Channels : Nat → ChannelParams_t

def Mac.settings (s : Mac) : Settings where
  LoRaMacParams := s.LoRaMacParams
  MaxDCycle := s.MaxDCycle
  Channels := s.Channels

/-- The answer that belongs to a command of the server. -/
def LoRaMacSrvCmd_t.answer : LoRaMacSrvCmd_t → Option LoRaMacMoteCmd_t
  | SRV_MAC_LINK_CHECK_ANS => none
  | SRV_MAC_LINK_ADR_REQ => some MOTE_MAC_LINK_ADR_ANS
  | SRV_MAC_DUTY_CYCLE_REQ => some MOTE_MAC_DUTY_CYCLE_ANS
  | SRV_MAC_RX_PARAM_SETUP_REQ => some MOTE_MAC_RX_PARAM_SETUP_ANS
  | SRV_MAC_DEV_STATUS_REQ => some MOTE_MAC_DEV_STATUS_ANS
  | SRV_MAC_NEW_CHANNEL_REQ => some MOTE_MAC_NEW_CHANNEL_ANS
  | SRV_MAC_RX_TIMING_SETUP_REQ => some MOTE_MAC_RX_TIMING_SETUP_ANS

def LoRaMacSrvCmd_t.answerLength (cmd : LoRaMacSrvCmd_t) : Nat :=
  match cmd.answer with
  | none => 0
  | some answer => (answer.bytes 0 0).length

theorem length_bytes_eq (answer : LoRaMacMoteCmd_t) (p1 p2 : UInt8) :
    (answer.bytes p1 p2).length = (answer.bytes 0 0).length := by
  cases answer <;> rfl

/-- What a command asks for, by the checks of its handler and without its answer. -/
def requested (s : Mac) (payload : Mem) (macIndex : UInt8) : LoRaMacSrvCmd_t → Mac
  | .SRV_MAC_LINK_CHECK_ANS => (linkCheckAns s payload macIndex).2
  | .SRV_MAC_LINK_ADR_REQ =>
    if (linkAdrAt payload macIndex).Acceptable s then (linkAdrAt payload macIndex).adopt s else s
  | .SRV_MAC_DUTY_CYCLE_REQ =>
    { s with
      MaxDCycle := payload macIndex.toNat
      AggregatedDCycle := UInt16.ofNat (1 <<< (payload macIndex.toNat).toNat) }
  | .SRV_MAC_RX_PARAM_SETUP_REQ =>
    let drOffset := payload macIndex.toNat >>> 4 &&& 0x07
    let datarate := payload macIndex.toNat &&& 0x0F
    let freq := frequencyAt payload (macIndex + 1).toNat (macIndex + 2).toNat (macIndex + 3).toNat
    if rxParamSetupStatus s freq datarate drOffset &&& 0x07 = 0x07 then
      { s with
        LoRaMacParams := { s.LoRaMacParams with
          Rx2Channel := ⟨freq, datarate⟩
          Rx1DrOffset := drOffset } }
    else s
  | .SRV_MAC_DEV_STATUS_REQ => s
  | .SRV_MAC_NEW_CHANNEL_REQ =>
    let chParam : ChannelParams_t := ⟨frequencyAt payload (macIndex + 1).toNat
      (macIndex + 2).toNat (macIndex + 3).toNat, payload (macIndex + 4).toNat, 0⟩
    setTxConfig (newChannel (setTxConfig s true) (payload macIndex.toNat) chParam).2 false
  | .SRV_MAC_RX_TIMING_SETUP_REQ =>
    let delay := payload macIndex.toNat &&& 0x0F
    let delay := if delay = 0 then 1 else delay
    { s with
      LoRaMacParams := { s.LoRaMacParams with
        ReceiveDelay1 := delay.toUInt32 * 1000
        ReceiveDelay2 := delay.toUInt32 * 1000 + 1000 } }

/-- What the answers are made of: the buffer, and the room in it. -/
def Mac.queue (s : Mac) : Mem × UInt8 × UInt8 :=
  (s.MacCommandsBuffer, s.MacCommandsBufferIndex, s.MacCommandsBufferToRepeatIndex)

theorem queue_newChannel (s : Mac) (channelIndex : UInt8) (chParam : ChannelParams_t) :
    (newChannel s channelIndex chParam).2.queue = s.queue := by
  have hremove : (LoRaMacChannelRemove s channelIndex).2.queue = s.queue := by
    unfold LoRaMacChannelRemove
    split_ifs <;> rfl
  have hadd : (LoRaMacChannelAdd s channelIndex chParam).2.queue = s.queue := by
    unfold LoRaMacChannelAdd
    split_ifs
    · rfl
    · rfl
    · split <;> rfl
  obtain h | h | h := newChannel_snd s channelIndex chParam <;> rw [h]
  · exact hremove
  · exact hadd

/-- A handler does what is requested, and then adds its answer. -/
theorem processMacCommand_eq (s : Mac) (payload : Mem) (macIndex snr : UInt8)
    (cmd : LoRaMacSrvCmd_t) :
    ∃ u : Mac, u.unanswered = (requested s payload macIndex cmd).unanswered ∧
      u.queue = s.queue ∧
      (cmd.answer = none ∧ (processMacCommand s payload macIndex snr cmd).2 = u ∨
        ∃ answer p1 p2, cmd.answer = some answer ∧
          (processMacCommand s payload macIndex snr cmd).2 =
            (AddMacCommand u answer p1 p2).2) := by
  cases cmd with
  | SRV_MAC_LINK_CHECK_ANS => exact ⟨_, rfl, rfl, .inl ⟨rfl, rfl⟩⟩
  | SRV_MAC_LINK_ADR_REQ =>
    obtain ⟨haccepted, hturn⟩ | ⟨hrefused, status, -, hturn⟩ :=
      linkAdrReq_cases s payload macIndex
    · exact ⟨_, congrArg Mac.unanswered (if_pos haccepted).symm, rfl,
        .inr ⟨_, _, _, rfl, hturn⟩⟩
    · exact ⟨_, congrArg Mac.unanswered (if_neg hrefused).symm, rfl, .inr ⟨_, _, _, rfl, hturn⟩⟩
  | SRV_MAC_DUTY_CYCLE_REQ => exact ⟨_, rfl, rfl, .inr ⟨_, _, _, rfl, rfl⟩⟩
  | SRV_MAC_RX_PARAM_SETUP_REQ =>
    refine ⟨requested s payload macIndex .SRV_MAC_RX_PARAM_SETUP_REQ, rfl, ?_,
      .inr ⟨_, _, _, rfl, rfl⟩⟩
    unfold requested
    dsimp only
    split <;> rfl
  | SRV_MAC_DEV_STATUS_REQ =>
    unfold processMacCommand devStatusReq
    cases s.env.GetBatteryLevel with
    | none => exact ⟨s, rfl, rfl, .inr ⟨_, _, _, rfl, rfl⟩⟩
    | some level =>
      exact ⟨{ s with board := { s.board with measures := s.board.measures + 1 } }, rfl, rfl,
        .inr ⟨_, _, _, rfl, rfl⟩⟩
  | SRV_MAC_NEW_CHANNEL_REQ =>
    exact ⟨_, rfl, queue_newChannel (setTxConfig s true) _ _, .inr ⟨_, _, _, rfl, rfl⟩⟩
  | SRV_MAC_RX_TIMING_SETUP_REQ => exact ⟨_, rfl, rfl, .inr ⟨_, _, _, rfl, rfl⟩⟩

theorem newChannel_unanswered (s : Mac) (channelIndex : UInt8) (chParam : ChannelParams_t) :
    (newChannel s.unanswered channelIndex chParam).2 =
      (newChannel s channelIndex chParam).2.unanswered := by
  have hremove : LoRaMacChannelRemove s.unanswered channelIndex =
      ((LoRaMacChannelRemove s channelIndex).1,
        (LoRaMacChannelRemove s channelIndex).2.unanswered) := by
    have hlocked : configLocked s.unanswered = configLocked s := rfl
    unfold LoRaMacChannelRemove
    rw [hlocked]
    split_ifs <;> rfl
  have hadd : LoRaMacChannelAdd s.unanswered channelIndex chParam =
      ((LoRaMacChannelAdd s channelIndex chParam).1,
        (LoRaMacChannelAdd s channelIndex chParam).2.unanswered) := by
    have hlocked : configLocked s.unanswered = configLocked s := rfl
    have hdatarate : datarateInvalid s.unanswered = datarateInvalid s := rfl
    have hband : channelBand s.unanswered = channelBand s := rfl
    unfold LoRaMacChannelAdd
    rw [hlocked, hdatarate, hband]
    split_ifs
    · rfl
    · rfl
    · cases datarateInvalid s channelIndex chParam <;>
        cases channelBand s channelIndex chParam <;> rfl
  unfold newChannel
  rw [hremove, hadd]
  split_ifs
  · rfl
  · obtain ⟨status, t⟩ := LoRaMacChannelRemove s channelIndex
    cases status <;> rfl
  · obtain ⟨status, t⟩ := LoRaMacChannelAdd s channelIndex chParam
    cases status <;> rfl

/-- What is requested does not depend on the answers that wait. -/
theorem requested_unanswered (s : Mac) (payload : Mem) (macIndex : UInt8) (cmd : LoRaMacSrvCmd_t) :
    requested s.unanswered payload macIndex cmd = (requested s payload macIndex cmd).unanswered := by
  cases cmd with
  | SRV_MAC_LINK_ADR_REQ =>
    by_cases h : (linkAdrAt payload macIndex).Acceptable s
    · have h' : (linkAdrAt payload macIndex).Acceptable s.unanswered :=
        ⟨h.adr, h.datarate, h.txPower, h.mask⟩
      simp only [requested, if_pos h, if_pos h']
      rfl
    · have h' : ¬(linkAdrAt payload macIndex).Acceptable s.unanswered :=
        fun h' => h ⟨h'.adr, h'.datarate, h'.txPower, h'.mask⟩
      simp only [requested, if_neg h, if_neg h']
  | SRV_MAC_RX_PARAM_SETUP_REQ =>
    have hstatus : rxParamSetupStatus s.unanswered = rxParamSetupStatus s := rfl
    simp only [requested, hstatus]
    split <;> rfl
  | SRV_MAC_NEW_CHANNEL_REQ =>
    exact congrArg (setTxConfig · false) (newChannel_unanswered (setTxConfig s true) _ _)
  | _ => rfl

/-- What the command asks for. -/
def SrvCommand.request (c : SrvCommand) (s : Mac) : Mac :=
  requested s c.payload 1 c.cmd

/-- The room that is left for answers. -/
def Mac.room (s : Mac) : Nat :=
  (UInt8.ofNat LORA_MAC_COMMAND_MAX_LENGTH - s.MacCommandsBufferToRepeatIndex).toNat -
    s.MacCommandsBufferIndex.toNat

/-- The room that the answer to a command leaves, if it finds enough. -/
def spare (room : Nat) (c : SrvCommand) : Nat :=
  if c.cmd.answerLength ≤ room then room - c.cmd.answerLength else room

/-- The answer to the command has been appended. -/
def SrvCommand.Answered (c : SrvCommand) (s t : Mac) : Prop :=
  ∃ answer p1 p2, c.cmd.answer = some answer ∧ t.answers = s.answers ++ answer.bytes p1 p2

/-- An answer takes its room, or is lost. -/
theorem room_AddMacCommand (s : Mac) (cmd : LoRaMacMoteCmd_t) (p1 p2 : UInt8) :
    ((cmd.bytes p1 p2).length ≤ s.room ∧
        (AddMacCommand s cmd p1 p2).2.room = s.room - (cmd.bytes p1 p2).length ∧
        (AddMacCommand s cmd p1 p2).2.answers = s.answers ++ cmd.bytes p1 p2) ∨
      (s.room < (cmd.bytes p1 p2).length ∧ (AddMacCommand s cmd p1 p2).2 = s) := by
  have hpos := (length_bytes_pos cmd p1 p2).1
  by_cases hroom : s.HasRoom (cmd.bytes p1 p2).length
  · obtain ⟨hindex, hanswers⟩ := answers_AddMacCommand hroom
    have hrepeat : (AddMacCommand s cmd p1 p2).2.MacCommandsBufferToRepeatIndex =
        s.MacCommandsBufferToRepeatIndex :=
      (congrArg Mac.MacCommandsBufferToRepeatIndex (unanswered_AddMacCommand s cmd p1 p2) :)
    refine .inl ⟨?_, ?_, hanswers⟩
    · unfold Mac.HasRoom at hroom
      unfold Mac.room
      omega
    · unfold Mac.room
      rw [hindex, hrepeat]
      omega
  · refine .inr ⟨?_, AddMacCommand_of_not_hasRoom hroom⟩
    unfold Mac.HasRoom at hroom
    unfold Mac.room
    omega

theorem room_of_queue_eq {s t : Mac} (h : t.queue = s.queue) :
    t.room = s.room ∧ t.answers = s.answers := by
  obtain ⟨hbuffer, hindex, hrepeat⟩ : t.MacCommandsBuffer = s.MacCommandsBuffer ∧
      t.MacCommandsBufferIndex = s.MacCommandsBufferIndex ∧
      t.MacCommandsBufferToRepeatIndex = s.MacCommandsBufferToRepeatIndex := by
    simpa [Mac.queue] using h
  simp only [Mac.room, Mac.answers, hbuffer, hindex, hrepeat, and_self]

theorem not_answered_of_answers_eq {c : SrvCommand} {s t : Mac} (h : t.answers = s.answers) :
    ¬c.Answered s t := by
  rintro ⟨answer, p1, p2, -, hanswers⟩
  rw [h] at hanswers
  have hpos := (length_bytes_pos answer p1 p2).1
  exact absurd hanswers (answers_ne_append (List.ne_nil_of_length_pos hpos))

/-- The command does what is requested, and its answer is appended if it finds room. -/
theorem SrvCommand.apply_spec (c : SrvCommand) (snr : UInt8) (s : Mac) :
    (c.apply snr s).unanswered = (c.request s).unanswered ∧
      (c.apply snr s).room = spare s.room c ∧ s.answers <+: (c.apply snr s).answers ∧
      (c.cmd.answer ≠ none → (c.Answered s (c.apply snr s) ↔ c.cmd.answerLength ≤ s.room)) := by
  obtain ⟨u, hunanswered, hqueue, ⟨hnone, hturn⟩ | ⟨answer, p1, p2, hanswer, hturn⟩⟩ :=
    processMacCommand_eq s c.payload 1 snr c.cmd
  all_goals
    obtain ⟨hroom, hanswers⟩ := room_of_queue_eq hqueue
    change c.apply snr s = _ at hturn
    rw [hturn]
  · have hlength : c.cmd.answerLength = 0 := by simp only [LoRaMacSrvCmd_t.answerLength, hnone]
    refine ⟨hunanswered, ?_, ?_, fun h => absurd hnone h⟩
    · simp [hroom, spare, hlength]
    · exact hanswers ▸ List.prefix_refl _
  · have hlength : (answer.bytes p1 p2).length = c.cmd.answerLength := by
      simp only [LoRaMacSrvCmd_t.answerLength, hanswer, length_bytes_eq answer p1 p2]
    refine ⟨(unanswered_AddMacCommand ..).trans hunanswered, ?_⟩
    obtain ⟨hfits, hleft, hadded⟩ | ⟨hfull, hlost⟩ := room_AddMacCommand u answer p1 p2
    · rw [hlength, hroom] at hfits hleft
      rw [hanswers] at hadded
      refine ⟨?_, ?_, fun _ => ?_⟩
      · rw [hleft, spare, if_pos hfits]
      · rw [hadded]
        exact List.prefix_append ..
      · exact iff_of_true ⟨answer, p1, p2, hanswer, hadded⟩ hfits
    · rw [hlength, hroom] at hfull
      rw [hlost]
      refine ⟨?_, ?_, fun _ => ?_⟩
      · rw [hroom, spare, if_neg (Nat.not_le_of_lt hfull)]
      · exact hanswers ▸ List.prefix_refl _
      · exact iff_of_false (not_answered_of_answers_eq hanswers) (Nat.not_le_of_lt hfull)

/-- Every request of the list that changes a setting has its answer among those that wait at
the end, in `t`. -/
def Announced (snr : UInt8) (s t : Mac) (commands : List SrvCommand) : Prop :=
  ∀ before c after, commands = before ++ c :: after →
    let u := before.foldl (fun s c => c.apply snr s) s
    (c.apply snr u).settings ≠ u.settings →
      c.Answered u (c.apply snr u) ∧ (c.apply snr u).answers <+: t.answers

/-- Every request of the list that asks for a new setting finds room for its answer, behind
the answers to the requests before it. -/
def Affordable (s : Mac) (commands : List SrvCommand) : Prop :=
  ∀ before c after, commands = before ++ c :: after →
    let u := before.foldl (fun s c => c.request s) s
    (c.request u).settings ≠ u.settings → c.cmd.answerLength ≤ before.foldl spare s.room

theorem foldl_request_unanswered (commands : List SrvCommand) (s : Mac) :
    commands.foldl (fun s c => c.request s) s.unanswered =
      (commands.foldl (fun s c => c.request s) s).unanswered := by
  induction commands generalizing s with
  | nil => rfl
  | cons c commands ih =>
    have hstep : c.request s.unanswered = (c.request s).unanswered := requested_unanswered ..
    rw [List.foldl_cons, List.foldl_cons, hstep, ih]

/-- The run of the commands, step by step: the settings are those requested, the room is what
the answers leave, and no answer is withdrawn. -/
theorem foldl_apply_spec (snr : UInt8) (commands : List SrvCommand) (s : Mac) :
    (commands.foldl (fun s c => c.apply snr s) s).unanswered =
        (commands.foldl (fun s c => c.request s) s).unanswered ∧
      (commands.foldl (fun s c => c.apply snr s) s).room = commands.foldl spare s.room ∧
      s.answers <+: (commands.foldl (fun s c => c.apply snr s) s).answers := by
  induction commands generalizing s with
  | nil => exact ⟨rfl, rfl, List.prefix_refl _⟩
  | cons c commands ih =>
    obtain ⟨hunanswered, hroom, hprefix, -⟩ := c.apply_spec snr s
    obtain ⟨ihunanswered, ihroom, ihprefix⟩ := ih (c.apply snr s)
    simp only [List.foldl_cons]
    refine ⟨?_, ?_, hprefix.trans ihprefix⟩
    · rw [ihunanswered, ← foldl_request_unanswered, hunanswered, foldl_request_unanswered]
    · rw [ihroom, hroom]

/-- Only a request with an answer changes a setting. -/
theorem answer_of_settings_ne {c : SrvCommand} {s : Mac} (h : (c.request s).settings ≠ s.settings) :
    c.cmd.answer ≠ none := by
  intro hnone
  apply h
  unfold SrvCommand.request
  cases hcmd : c.cmd with
  | SRV_MAC_LINK_CHECK_ANS => rfl
  | _ =>
    rw [hcmd] at hnone
    cases hnone

/-- No request takes effect silently, on any list of well-formed requests wherever it stands in the
payload, exactly when every request that asks for a new setting finds room for its answer. The room
is what the answers before it in the list leave; one that does not fit takes nothing. -/
theorem announced_ProcessMacCommands_iff (s : Mac) (snr : UInt8) (commands : List SrvCommand)
    (payload : Mem) (macIndex : UInt8)
    (hread : payload.read macIndex.toNat (stream commands).length = stream commands)
    (hfits : macIndex.toNat + (stream commands).length ≤ 255) :
    ∃ t, ProcessMacCommands s payload macIndex
        (macIndex + UInt8.ofNat (stream commands).length) snr = some t ∧
      (Announced snr s t commands ↔ Affordable s commands) := by
  have hend : macIndex.toNat + (stream commands).length =
      (macIndex + UInt8.ofNat (stream commands).length).toNat := by
    simp
    omega
  refine ⟨_, ProcessMacCommands_eq_foldl s snr commands hread hend, ?_⟩
  refine forall_congr' fun before => forall_congr' fun c => forall_congr' fun after =>
    forall_congr' fun hsplit => ?_
  obtain ⟨hunanswered, hroom, -⟩ := foldl_apply_spec snr before s
  dsimp only
  generalize hu : before.foldl (fun s c => c.apply snr s) s = u at hunanswered hroom ⊢
  generalize before.foldl (fun s c => c.request s) s = v at hunanswered ⊢
  obtain ⟨hturn, -, -, hanswered⟩ := c.apply_spec snr u
  have hrequest : (c.request u).unanswered = (c.request v).unanswered := by
    unfold SrvCommand.request
    rw [← requested_unanswered, hunanswered, requested_unanswered]
  have hafter : (c.apply snr u).settings = (c.request v).settings :=
    (congrArg Mac.settings (hturn.trans hrequest) :)
  have hbefore : u.settings = v.settings := (congrArg Mac.settings hunanswered :)
  have hkept : (c.apply snr u).answers <+:
      (commands.foldl (fun s c => c.apply snr s) s).answers := by
    rw [hsplit, List.foldl_append, hu, List.foldl_cons]
    exact (foldl_apply_spec snr after (c.apply snr u)).2.2
  rw [hafter, hbefore]
  refine forall_congr' fun hchange => ?_
  rw [hanswered (answer_of_settings_ne hchange), hroom]
  exact and_iff_left hkept

/-- Sixteen requests in one downlink of 32 bytes: fifteen that ask for the present duty cycle and
fill the buffer with their answers, and one that asks for another. -/
def sixteenRequests : List SrvCommand :=
  List.replicate 15 ⟨.SRV_MAC_DUTY_CYCLE_REQ, [0], rfl⟩ ++ [⟨.SRV_MAC_DUTY_CYCLE_REQ, [1], rfl⟩]

theorem announced_ProcessMacCommands_iff_threeCommands :
    ∃ t, ProcessMacCommands (Mac.personalised Env.plain)
        (fun i => (stream threeCommands).getD i 0) 0 12 7 = some t ∧
      (Announced 7 (Mac.personalised Env.plain) t threeCommands ↔
        Affordable (Mac.personalised Env.plain) threeCommands) :=
  announced_ProcessMacCommands_iff (Mac.personalised Env.plain) 7 threeCommands
    (fun i => (stream threeCommands).getD i 0) 0 (by decide) (by decide)

/-- The last request sets the duty cycle, and no answer tells the server. -/
theorem not_announced_sixteenRequests :
    ∃ t, ProcessMacCommands (Mac.personalised Env.plain)
        (fun i => (stream sixteenRequests).getD i 0) 0 32 7 = some t ∧
      t.MaxDCycle = 1 ∧ t.answers = List.replicate 15 0x04 ∧
      ¬Announced 7 (Mac.personalised Env.plain) t sixteenRequests := by
  refine ⟨sixteenRequests.foldl (fun s c => c.apply 7 s) (Mac.personalised Env.plain),
    ProcessMacCommands_eq_foldl _ 7 sixteenRequests (by decide +kernel) (by decide +kernel),
    by decide +kernel, by decide +kernel, fun h => ?_⟩
  obtain ⟨hanswered, -⟩ := h (List.replicate 15 ⟨.SRV_MAC_DUTY_CYCLE_REQ, [0], rfl⟩)
    ⟨.SRV_MAC_DUTY_CYCLE_REQ, [1], rfl⟩ [] rfl
    (fun hsame => absurd (congrArg Settings.MaxDCycle hsame) (by decide +kernel))
  exact not_answered_of_answers_eq (by decide +kernel) hanswered

end silent

end loranode.mac
