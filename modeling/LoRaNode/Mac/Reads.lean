import LoRaNode.Mac.Acceptance

namespace loranode.mac

open LoRaMacFrameType_t

/-- A link ADR request is refused unseen: ADR is off, and the first byte asks for another
data rate or power than the present ones. -/
def linkAdrRefused (s : Mac) (b : UInt8) : Bool :=
  !s.AdrCtrlOn && (decide (s.LoRaMacParams.ChannelsDatarate ≠ ((b >>> 4).toNat : Int)) ||
    decide (s.LoRaMacParams.ChannelsTxPower ≠ ((b &&& 0x0F).toNat : Int)))

/-- How many bytes behind its code the handler of a command reads, `b` being the first. -/
def LoRaMacSrvCmd_t.reads (cmd : LoRaMacSrvCmd_t) (s : Mac) (b : UInt8) : Nat :=
  if cmd = SRV_MAC_LINK_ADR_REQ ∧ linkAdrRefused s b = true then 1 else cmd.size

theorem LoRaMacSrvCmd_t.reads_le (cmd : LoRaMacSrvCmd_t) (s : Mac) (b : UInt8) :
    cmd.reads s b ≤ cmd.size := by
  unfold reads
  split
  · next h =>
    rw [h.1]
    decide
  · exact Nat.le_refl _

/-- The indices that the loop of `ProcessMacCommands` reads. -/
def processMacCommandsReads (payload : Mem) (commandsSize snr : UInt8) :
    (fuel : Nat) → (s : Mac) → (macIndex : UInt8) → List Nat
  | 0, _, _ => []
  | fuel + 1, s, macIndex =>
    if macIndex < commandsSize then
      macIndex.toNat :: match LoRaMacSrvCmd_t.ofCode (payload macIndex.toNat) with
        | none => []
        | some cmd =>
          (List.range (cmd.reads s (payload (macIndex + 1).toNat))).map
              (fun k => (macIndex + 1 + UInt8.ofNat k).toNat) ++
            processMacCommandsReads payload commandsSize snr fuel
              (processMacCommand s payload (macIndex + 1) snr cmd).2
              (processMacCommand s payload (macIndex + 1) snr cmd).1
    else []

/-- What decides whether a link ADR request is refused unseen. -/
def Mac.adr (s : Mac) : Bool × Int × Int :=
  (s.AdrCtrlOn, s.LoRaMacParams.ChannelsDatarate, s.LoRaMacParams.ChannelsTxPower)

theorem adr_AddMacCommand (s : Mac) (cmd : LoRaMacMoteCmd_t) (p1 p2 : UInt8) :
    (AddMacCommand s cmd p1 p2).2.adr = s.adr := by
  unfold AddMacCommand
  dsimp only
  split <;> rfl

theorem adr_newChannel (s : Mac) (channelIndex : UInt8) (chParam : ChannelParams_t) :
    (newChannel s channelIndex chParam).2.adr = s.adr := by
  have hremove : (LoRaMacChannelRemove s channelIndex).2.adr = s.adr := by
    unfold LoRaMacChannelRemove
    split
    · rfl
    · split <;> rfl
  have hadd : (LoRaMacChannelAdd s channelIndex chParam).2.adr = s.adr := by
    unfold LoRaMacChannelAdd
    split
    · rfl
    · split
      · rfl
      · split <;> rfl
  obtain h | h | h := newChannel_snd s channelIndex chParam <;> rw [h]
  · exact hremove
  · exact hadd

theorem linkAdrRefused_of_adr_eq {s t : Mac} (h : t.adr = s.adr) :
    linkAdrRefused t = linkAdrRefused s := by
  obtain ⟨hon, hrate, hpower⟩ : t.AdrCtrlOn = s.AdrCtrlOn ∧
      t.LoRaMacParams.ChannelsDatarate = s.LoRaMacParams.ChannelsDatarate ∧
      t.LoRaMacParams.ChannelsTxPower = s.LoRaMacParams.ChannelsTxPower := by
    simpa [Mac.adr] using h
  funext b
  simp only [linkAdrRefused, hon, hrate, hpower]

/-- With ADR off, a request that is not refused asks for the present data rate and power. -/
theorem linkAdrRefused_linkAdrReq (s : Mac) (payload : Mem) (macIndex : UInt8) :
    linkAdrRefused (linkAdrReq s payload macIndex).2 = linkAdrRefused s := by
  unfold linkAdrReq
  dsimp only
  split
  · exact linkAdrRefused_of_adr_eq (adr_AddMacCommand ..)
  · next haccepted =>
    rw [linkAdrRefused_of_adr_eq (adr_AddMacCommand ..)]
    split
    · by_cases hon : s.AdrCtrlOn = true
      · funext b
        simp only [linkAdrRefused, hon, Bool.not_true, Bool.false_and]
      · have hsame := not_and.mp haccepted (Bool.eq_false_iff.mpr hon)
        simp only [ne_eq, not_or, not_not] at hsame
        apply linkAdrRefused_of_adr_eq
        simp only [Mac.adr, hsame.1, hsame.2]
    · rfl

theorem linkAdrRefused_processMacCommand (s : Mac) (payload : Mem) (macIndex snr : UInt8)
    (cmd : LoRaMacSrvCmd_t) :
    linkAdrRefused (processMacCommand s payload macIndex snr cmd).2 = linkAdrRefused s := by
  cases cmd with
  | SRV_MAC_LINK_CHECK_ANS => rfl
  | SRV_MAC_LINK_ADR_REQ => exact linkAdrRefused_linkAdrReq s payload macIndex
  | SRV_MAC_DUTY_CYCLE_REQ => exact linkAdrRefused_of_adr_eq (adr_AddMacCommand ..)
  | SRV_MAC_RX_PARAM_SETUP_REQ =>
    unfold processMacCommand rxParamSetupReq
    dsimp only
    rw [linkAdrRefused_of_adr_eq (adr_AddMacCommand ..)]
    split <;> rfl
  | SRV_MAC_DEV_STATUS_REQ =>
    simp only [processMacCommand, devStatusReq]
    split <;> exact linkAdrRefused_of_adr_eq (adr_AddMacCommand ..)
  | SRV_MAC_NEW_CHANNEL_REQ =>
    unfold processMacCommand newChannelReq
    apply linkAdrRefused_of_adr_eq
    exact (adr_AddMacCommand ..).trans (adr_newChannel (setTxConfig s true) _ _)
  | SRV_MAC_RX_TIMING_SETUP_REQ => exact linkAdrRefused_of_adr_eq (adr_AddMacCommand ..)

theorem LoRaMacSrvCmd_t.reads_congr {s t : Mac} (h : linkAdrRefused t = linkAdrRefused s)
    (cmd : LoRaMacSrvCmd_t) (b : UInt8) : cmd.reads t b = cmd.reads s b := by
  simp only [reads, h]

/-- The commands from `macIndex` on, up to `commandsSize`, are not cut off: what their
handlers read lies below `bound`. -/
def commandsWithin (s : Mac) (payload : Mem) (commandsSize bound : Nat) :
    (fuel macIndex : Nat) → Bool
  | 0, _ => true
  | fuel + 1, macIndex =>
    if macIndex < commandsSize then
      decide (macIndex < bound) && match LoRaMacSrvCmd_t.ofCode (payload macIndex) with
        | none => true
        | some cmd =>
          decide (macIndex + cmd.reads s (payload (macIndex + 1)) < bound) &&
            commandsWithin s payload commandsSize bound fuel (macIndex + 1 + cmd.size)
    else true

/-- The parameters of a command follow its code without a wrap. -/
theorem params_lt_iff {macIndex : UInt8} {n : Nat} (bound : Nat) (hlt : macIndex.toNat < 250)
    (hn : n ≤ 5) :
    (macIndex.toNat < bound ∧
      ∀ i ∈ (List.range n).map fun k => (macIndex + 1 + UInt8.ofNat k).toNat, i < bound) ↔
      macIndex.toNat < bound ∧ macIndex.toNat + n < bound := by
  have hindex : ∀ k < n, (macIndex + 1 + UInt8.ofNat k).toNat = macIndex.toNat + 1 + k := by
    intro k hk
    simp
    omega
  simp only [List.mem_map, List.mem_range, forall_exists_index, and_imp,
    forall_apply_eq_imp_iff₂]
  constructor
  · intro ⟨hcode, hall⟩
    refine ⟨hcode, ?_⟩
    by_cases hzero : n = 0
    · omega
    · have hlast := hall (n - 1) (by omega)
      rw [hindex (n - 1) (by omega)] at hlast
      omega
  · intro ⟨hcode, hlast⟩
    refine ⟨hcode, ?_⟩
    intro k hk
    rw [hindex k hk]
    omega

theorem processMacCommandsReads_lt_iff (payload : Mem) {commandsSize : UInt8} (snr : UInt8)
    (hsize : commandsSize.toNat ≤ 250) (bound fuel : Nat) (s t : Mac)
    (hadr : linkAdrRefused t = linkAdrRefused s) (macIndex : UInt8) :
    (∀ i ∈ processMacCommandsReads payload commandsSize snr fuel t macIndex, i < bound) ↔
      commandsWithin s payload commandsSize.toNat bound fuel macIndex.toNat = true := by
  induction fuel generalizing t macIndex with
  | zero => simp [processMacCommandsReads, commandsWithin]
  | succ fuel ih =>
    rw [processMacCommandsReads, commandsWithin]
    by_cases hlt : macIndex < commandsSize
    · have hlt' := UInt8.lt_iff_toNat_lt.mp hlt
      have hnext : (macIndex + 1).toNat = macIndex.toNat + 1 := by
        simp
        omega
      rw [if_pos hlt, if_pos hlt']
      cases hcmd : LoRaMacSrvCmd_t.ofCode (payload macIndex.toNat) with
      | none => simp
      | some cmd =>
        have hmoved := toNat_processMacCommand_fst t payload snr cmd
          (show macIndex.toNat < 250 by omega)
        have hparams := params_lt_iff bound (show macIndex.toNat < 250 by omega)
          ((cmd.reads_le s (payload (macIndex.toNat + 1))).trans cmd.size_le)
        have hrest := ih _ ((linkAdrRefused_processMacCommand t payload (macIndex + 1) snr cmd).trans
          hadr) (processMacCommand t payload (macIndex + 1) snr cmd).1
        rw [hmoved] at hrest
        simp only [hnext, cmd.reads_congr hadr, List.forall_mem_cons, List.forall_mem_append, hrest,
          Bool.and_eq_true, decide_eq_true_eq, ← and_assoc, hparams]
    · have hlt' : ¬ macIndex.toNat < commandsSize.toNat :=
        fun h => hlt (UInt8.lt_iff_toNat_lt.mpr h)
      rw [if_neg hlt, if_neg hlt']
      simp

/-- What a reception accesses: the indices of the bytes of `payload` and of
`LoRaMacRxPayload` that are read, the indices of `LoRaMacRxPayload` that are written, and
the values of the expressions that are used as lengths. -/
structure Accesses where
  payload : List Int
  rxPayload : List Int
  written : List Int
  lengths : List Int

namespace Accesses

def append (a b : Accesses) : Accesses :=
  ⟨a.payload ++ b.payload, a.rxPayload ++ b.rxPayload, a.written ++ b.written,
    a.lengths ++ b.lengths⟩

/-- Every byte that is read belongs to the frame of `size` bytes, either in `payload` or
copied from it, and no length is negative. -/
structure Inside (size : Nat) (a : Accesses) : Prop where
  payload : ∀ i ∈ a.payload, 0 ≤ i ∧ i < size
  rxPayload : ∀ i ∈ a.rxPayload, i ∈ a.written
  lengths : ∀ n ∈ a.lengths, 0 ≤ n

end Accesses

/-- The indices of `n` bytes from `start` on. -/
def span (start n : Nat) : List Int :=
  (List.range' start n).map Int.ofNat

/-- The indices of the MIC at the end of a frame. -/
def micIndices (size : Nat) : List Int :=
  [size - 4, size - 3, size - 2, size - 1]

@[simp] theorem mem_span {start n : Nat} {i : Int} : i ∈ span start n ↔ start ≤ i ∧ i < start + n := by
  simp only [span, List.mem_map, List.mem_range'_1]
  constructor
  · rintro ⟨k, hk, rfl⟩
    simp only [Int.ofNat_eq_natCast]
    omega
  · intro hi
    exact ⟨i.toNat, by omega, by simp only [Int.ofNat_eq_natCast]; omega⟩

@[simp] theorem mem_micIndices {size : Nat} {i : Int} :
    i ∈ micIndices size ↔ (size : Int) - 4 ≤ i ∧ i < size := by
  simp only [micIndices, List.mem_cons, List.not_mem_nil, or_false]
  omega

/-- `case FRAME_TYPE_JOIN_ACCEPT`: `LoRaMacJoinDecrypt` reads one block of 16 bytes, or two
from a length of 16 on. -/
def joinAcceptAccesses (s : Mac) (frame : RxFrame) : Accesses :=
  if s.IsLoRaMacNetworkJoined then ⟨span 0 1, [], [], []⟩
  else
    let blocks := if 16 ≤ (frame.size - 1).toNat then 32 else 16
    ⟨span 0 1 ++ span 1 blocks,
      span 0 (micLength frame.size) ++ micIndices frame.size.toNat ++
        (if joinMicRx s frame = joinMic s frame then
          span 1 12 ++ if 17 < frame.size.toNat then span 13 15 else []
        else []),
      span 0 1 ++ span 1 blocks, [frame.size.toNat - 4]⟩

/-- The MAC commands in `FOpts`. -/
def fOptsReads (s : Mac) (frame : RxFrame) (snr : Int) : List Int :=
  if 0 < frame.fCtrl.FOptsLen then
    (processMacCommandsReads frame.payload (UInt8.ofNat (8 + frame.fCtrl.FOptsLen)) (toUInt8 snr)
      257 s 8).map Int.ofNat
  else []

/-- The deciphered payload of a data frame, as `LoRaMacRxPayload` holds it. -/
def dataPayload (s : Mac) (frame : RxFrame) (dest : Destination) (key : List UInt8) : Mem :=
  LoRaMacPayloadDecrypt s.env (fun i => frame.payload (8 + frame.fCtrl.FOptsLen + 1 + i))
    (frame.size.toNat - 4 - (8 + frame.fCtrl.FOptsLen + 1)) key frame.address DOWN_LINK
    (frameCounter frame dest) s.LoRaMacRxPayload

/-- The payload and the MAC commands of an accepted frame. -/
def payloadAccesses (s : Mac) (frame : RxFrame) (dest : Destination) (snr : Int) : Accesses :=
  let start := 8 + frame.fCtrl.FOptsLen
  if start + 4 < frame.size.toNat then
    let frameLen := frame.size.toNat - 4 - (start + 1)
    if frame.payload start = 0 then
      if frame.fCtrl.FOptsLen = 0 then
        ⟨span start 1 ++ span (start + 1) frameLen,
          (processMacCommandsReads (dataPayload s frame dest dest.nwkSKey) (UInt8.ofNat frameLen)
            (toUInt8 snr) 257 s 0).map Int.ofNat,
          span 0 frameLen, [frameLen]⟩
      else ⟨span start 1, [], [], [frameLen]⟩
    else ⟨span start 1 ++ fOptsReads s frame snr ++ span (start + 1) frameLen, [], span 0 frameLen,
      [frameLen]⟩
  else ⟨fOptsReads s frame snr, [], [], []⟩

/-- The frame gets past the counter, the MIC and the duplicate test. -/
def Acceptable (s : Mac) (frame : RxFrame) (dest : Destination) : Prop :=
  sequenceCounterDiff frame dest < MAX_FCNT_GAP ∧ frame.micRx = dataMic s frame dest ∧
    ¬ (repeated frame dest = true ∧
      (dest.multicast = true ∨ frame.macHdr ≠ FRAME_TYPE_DATA_CONFIRMED_DOWN))

instance (s : Mac) (frame : RxFrame) (dest : Destination) : Decidable (Acceptable s frame dest) :=
  inferInstanceAs (Decidable (_ ∧ _))

/-- `case FRAME_TYPE_DATA_CONFIRMED_DOWN` and `case FRAME_TYPE_DATA_UNCONFIRMED_DOWN`: the
address; for a frame to this node the rest of the header and the MIC; and then the
payload, unless the frame is refused. -/
def dataAccesses (s : Mac) (frame : RxFrame) (snr : Int) : Accesses :=
  match destination s frame.address with
  | none => ⟨span 0 5, [], [], []⟩
  | some dest =>
    let header : Accesses :=
      ⟨span 0 8 ++ micIndices frame.size.toNat ++ span 0 (micLength frame.size), [], [],
        [frame.size.toNat - 4]⟩
    if Acceptable s frame dest then header.append (payloadAccesses s frame dest snr) else header

/-- The accesses of `OnRadioRxDone`. The copy of a proprietary frame starts at index 1 and
has the full length. -/
def rxDoneAccesses (s : Mac) (frame : RxFrame) (snr : Int) : Accesses :=
  match frame.macHdr with
  | FRAME_TYPE_JOIN_ACCEPT => joinAcceptAccesses s frame
  | FRAME_TYPE_DATA_CONFIRMED_DOWN | FRAME_TYPE_DATA_UNCONFIRMED_DOWN => dataAccesses s frame snr
  | FRAME_TYPE_PROPRIETARY =>
    ⟨span 0 1 ++ span 1 frame.size.toNat, [], span 0 frame.size.toNat, [frame.size.toNat]⟩
  | _ => ⟨span 0 1, [], [], []⟩

section Dependence

variable {payload payload' : Mem}

/-- The handler of a command depends on the bytes that it reads. -/
theorem processMacCommand_congr (s : Mac) (macIndex snr : UInt8) (cmd : LoRaMacSrvCmd_t)
    (hsame : ∀ k < cmd.reads s (payload macIndex.toNat),
      payload' (macIndex + UInt8.ofNat k).toNat = payload (macIndex + UInt8.ofNat k).toNat) :
    processMacCommand s payload' macIndex snr cmd = processMacCommand s payload macIndex snr cmd := by
  by_cases hrefused : cmd = .SRV_MAC_LINK_ADR_REQ ∧ linkAdrRefused s (payload macIndex.toNat) = true
  · have hfirst : payload' macIndex.toNat = payload macIndex.toNat := by
      have hbyte := hsame 0 (by rw [LoRaMacSrvCmd_t.reads, if_pos hrefused]; decide)
      simpa using hbyte
    obtain ⟨rfl, hadr⟩ := hrefused
    simp only [linkAdrRefused, Bool.and_eq_true, Bool.not_eq_true', Bool.or_eq_true,
      decide_eq_true_eq] at hadr
    simp only [processMacCommand, linkAdrReq, hfirst, if_pos hadr]
  · apply Prod.ext
    · rw [processMacCommand_fst, processMacCommand_fst]
    · apply processMacCommand_snd_congr
      intro k hk
      exact hsame k (by rw [LoRaMacSrvCmd_t.reads, if_neg hrefused]; exact hk)

theorem processMacCommandsFrom_congr (commandsSize snr : UInt8) (fuel : Nat) (s : Mac)
    (macIndex : UInt8)
    (hsame : ∀ i ∈ processMacCommandsReads payload commandsSize snr fuel s macIndex,
      payload' i = payload i) :
    processMacCommandsFrom payload' commandsSize snr fuel s macIndex =
      processMacCommandsFrom payload commandsSize snr fuel s macIndex := by
  induction fuel generalizing s macIndex with
  | zero => rfl
  | succ fuel ih =>
    rw [processMacCommandsReads] at hsame
    rw [processMacCommandsFrom, processMacCommandsFrom]
    by_cases hlt : macIndex < commandsSize
    · rw [if_pos hlt, List.forall_mem_cons] at hsame
      rw [if_pos hlt, if_pos hlt, hsame.1]
      cases hcmd : LoRaMacSrvCmd_t.ofCode (payload macIndex.toNat) with
      | none => rfl
      | some cmd =>
        rw [hcmd, List.forall_mem_append] at hsame
        have hcommand := processMacCommand_congr s (macIndex + 1) snr cmd fun k hk =>
          hsame.2.1 _ (List.mem_map_of_mem (List.mem_range.mpr hk))
        simp only [hcommand]
        exact ih _ _ hsame.2.2
    · rw [if_neg hlt, if_neg hlt]

/-- Where the loop reads depends on the state by the refusal of link ADR requests only. -/
theorem processMacCommandsReads_congr (commandsSize snr : UInt8) (fuel : Nat) {s t : Mac}
    (hadr : linkAdrRefused t = linkAdrRefused s) (macIndex : UInt8) :
    processMacCommandsReads payload commandsSize snr fuel t macIndex =
      processMacCommandsReads payload commandsSize snr fuel s macIndex := by
  induction fuel generalizing s t macIndex with
  | zero => rfl
  | succ fuel ih =>
    rw [processMacCommandsReads, processMacCommandsReads]
    cases LoRaMacSrvCmd_t.ofCode (payload macIndex.toNat) with
    | none => rfl
    | some cmd =>
      have hadr' : linkAdrRefused (processMacCommand t payload (macIndex + 1) snr cmd).2 =
          linkAdrRefused (processMacCommand s payload (macIndex + 1) snr cmd).2 := by
        rw [linkAdrRefused_processMacCommand, linkAdrRefused_processMacCommand, hadr]
      simp only [cmd.reads_congr hadr, processMacCommand_fst, ih hadr']

end Dependence

/-- Two frames agree on the bytes at some indices. -/
def Agree (frame frame' : RxFrame) (is : List Int) : Prop :=
  ∀ i ∈ is, byteAt frame'.payload frame'.before i = byteAt frame.payload frame.before i

theorem Agree.byte {frame frame' : RxFrame} {is : List Int} (h : Agree frame frame' is) {n : Nat}
    (hn : (n : Int) ∈ is) : frame'.payload n = frame.payload n :=
  h n hn

theorem Agree.append {frame frame' : RxFrame} {is js : List Int} :
    Agree frame frame' (is ++ js) ↔ Agree frame frame' is ∧ Agree frame frame' js :=
  List.forall_mem_append

theorem Agree.span {frame frame' : RxFrame} {start n : Nat}
    (h : Agree frame frame' (loranode.mac.span start n)) :
    ∀ k < n, frame'.payload (start + k) = frame.payload (start + k) := by
  intro k hk
  apply h.byte
  rw [mem_span]
  omega

/-- Two frames have the same length and the same header up to the counter. -/
structure SameHeader (frame frame' : RxFrame) : Prop where
  size : frame'.size = frame.size
  macHdr : frame'.macHdr = frame.macHdr
  address : frame'.address = frame.address
  fCtrl : frame'.fCtrl = frame.fCtrl
  sequenceCounter : frame'.sequenceCounter = frame.sequenceCounter

theorem SameHeader.diff {frame frame' : RxFrame} (h : SameHeader frame frame')
    (dest : Destination) : sequenceCounterDiff frame' dest = sequenceCounterDiff frame dest := by
  rw [sequenceCounterDiff, h.sequenceCounter, sequenceCounterDiff]

theorem SameHeader.counter {frame frame' : RxFrame} (h : SameHeader frame frame')
    (dest : Destination) : frameCounter frame' dest = frameCounter frame dest := by
  unfold frameCounter
  rw [h.diff]

theorem processFOpts_congr {s t : Mac} {frame frame' : RxFrame} {snr : Int}
    (hheader : SameHeader frame frame') (hadr : linkAdrRefused t = linkAdrRefused s)
    (hsame : Agree frame frame' (fOptsReads s frame snr)) :
    processFOpts t frame' snr = processFOpts t frame snr := by
  unfold processFOpts
  rw [hheader.fCtrl]
  by_cases hpos : 0 < frame.fCtrl.FOptsLen
  · rw [if_pos hpos, if_pos hpos]
    apply processMacCommandsFrom_congr
    intro i hi
    apply hsame.byte
    rw [fOptsReads, if_pos hpos]
    rw [processMacCommandsReads_congr _ _ _ hadr] at hi
    exact List.mem_map_of_mem hi
  · rw [if_neg hpos, if_neg hpos]

theorem LoRaMacPayloadDecrypt_congr (env : Env) {buffer buffer' : Mem} {size : Nat}
    (key : List UInt8) (address : UInt32) (dir : UInt8) (sequenceCounter : UInt32)
    (decBuffer : Mem) (hsame : ∀ k < size, buffer' k = buffer k) :
    LoRaMacPayloadDecrypt env buffer' size key address dir sequenceCounter decBuffer =
      LoRaMacPayloadDecrypt env buffer size key address dir sequenceCounter decBuffer := by
  unfold LoRaMacPayloadDecrypt LoRaMacPayloadEncrypt
  congr 1
  apply List.map_congr_left
  intro k hk
  rw [hsame k (List.mem_range.mp hk)]

theorem receivePayload_congr {s t : Mac} {frame frame' : RxFrame} {dest : Destination} {snr : Int}
    (skip : Bool) (hheader : SameHeader frame frame') (hadr : linkAdrRefused t = linkAdrRefused s)
    (hsame : Agree frame frame' (payloadAccesses s frame dest snr).payload) :
    receivePayload t frame' dest skip snr = receivePayload t frame dest skip snr := by
  unfold receivePayload
  unfold payloadAccesses at hsame
  simp only [hheader.fCtrl, hheader.size, hheader.address, hheader.counter]
  dsimp only at hsame
  generalize hstart : 8 + frame.fCtrl.FOptsLen = start at *
  have hdecrypt (key : List UInt8)
      (h : Agree frame frame' (span (start + 1) (frame.size.toNat - 4 - (start + 1)))) :=
    LoRaMacPayloadDecrypt_congr t.env key frame.address DOWN_LINK (frameCounter frame dest)
      t.LoRaMacRxPayload h.span
  by_cases hport : start + 4 < frame.size.toNat
  · rw [if_pos hport] at hsame
    rw [if_pos hport, if_pos hport]
    by_cases hzero : frame.payload start = 0
    · rw [if_pos hzero] at hsame
      by_cases hnone : frame.fCtrl.FOptsLen = 0
      · rw [if_pos hnone] at hsame
        obtain ⟨hbyte, hbody⟩ := Agree.append.mp hsame
        have hport' := hbyte.span 0 Nat.one_pos
        simp only [Nat.add_zero] at hport'
        simp only [hport', hzero, hnone, if_true, hdecrypt _ hbody]
      · rw [if_neg hnone] at hsame
        have hport' := Agree.span hsame 0 Nat.one_pos
        simp only [Nat.add_zero] at hport'
        simp only [hport', hzero, hnone, if_true, if_false]
    · rw [if_neg hzero] at hsame
      obtain ⟨hfirst, hbody⟩ := Agree.append.mp hsame
      obtain ⟨hbyte, hopts⟩ := Agree.append.mp hfirst
      have hport' := hbyte.span 0 Nat.one_pos
      simp only [Nat.add_zero] at hport'
      simp only [hport', hzero, if_false, hdecrypt _ hbody]
      rw [processFOpts_congr hheader _ hopts]
      exact hadr
  · rw [if_neg hport] at hsame
    rw [if_neg hport, if_neg hport, processFOpts_congr hheader hadr hsame]

theorem deliverData_congr {s t : Mac} {frame frame' : RxFrame} {dest : Destination} {snr : Int}
    (skip : Bool) (hheader : SameHeader frame frame') (hadr : t.adr = s.adr)
    (hsame : Agree frame frame' (payloadAccesses s frame dest snr).payload) :
    deliverData t frame' dest skip snr = deliverData t frame dest skip snr := by
  have hack : (receiveAck t frame.fCtrl.Ack).adr = t.adr := by
    unfold receiveAck
    dsimp only
    split <;> rfl
  unfold deliverData
  rw [hheader.fCtrl, receivePayload_congr skip hheader
    (linkAdrRefused_of_adr_eq (hack.trans hadr)) hsame]

/-- The header and the MIC of a data frame, from the bytes that are read of them. -/
theorem sameHeader_of_agree {frame frame' : RxFrame} (hsize : frame'.size = frame.size)
    (hsame : Agree frame frame' (span 0 8 ++ micIndices frame.size.toNat ++
      span 0 (micLength frame.size))) :
    SameHeader frame frame' ∧ frame'.micRx = frame.micRx ∧
      frame'.payload.read 0 (micLength frame'.size) =
        frame.payload.read 0 (micLength frame.size) := by
  obtain ⟨hfirst, hread⟩ := Agree.append.mp hsame
  obtain ⟨hheader, hmic⟩ := Agree.append.mp hfirst
  have hbyte (k : Nat) (hk : k < 8) : frame'.payload k = frame.payload k := by
    simpa using hheader.span k hk
  refine ⟨⟨hsize, ?_, ?_, ?_, ?_⟩, ?_, ?_⟩
  · simp only [RxFrame.macHdr, hbyte 0 (by decide)]
  · simp only [RxFrame.address, hbyte 1 (by decide), hbyte 2 (by decide), hbyte 3 (by decide),
      hbyte 4 (by decide)]
  · simp only [RxFrame.fCtrl, hbyte 5 (by decide)]
  · simp only [RxFrame.sequenceCounter, hbyte 6 (by decide), hbyte 7 (by decide)]
  · have hindex (i : Int) (hi : i ∈ micIndices frame.size.toNat) := hmic i hi
    simp only [micIndices, List.mem_cons, List.not_mem_nil, or_false] at hindex
    simp only [RxFrame.micRx, micAt, hsize]
    rw [hindex _ (.inl rfl), hindex _ (.inr (.inl rfl)), hindex _ (.inr (.inr (.inl rfl))),
      hindex _ (.inr (.inr (.inr rfl)))]
  · rw [hsize]
    exact Mem.read_eq_read_iff.mpr hread.span

theorem receiveData_congr {s u : Mac} {frame frame' : RxFrame} {snr : Int}
    (hsize : frame'.size = frame.size) (hmacHdr : frame'.macHdr = frame.macHdr)
    (hcore : u.core = s.core) (hsame : Agree frame frame' (dataAccesses s frame snr).payload) :
    receiveData u frame' snr = receiveData u frame snr := by
  have hdest : destination u frame.address = destination s frame.address :=
    destination_eq_of_core_eq hcore frame.address
  unfold dataAccesses at hsame
  cases hfound : destination s frame.address with
  | none =>
    rw [hfound] at hsame
    have haddress : frame'.address = frame.address := by
      have hbyte (k : Nat) (hk : k < 5) : frame'.payload k = frame.payload k := by
        simpa using Agree.span hsame k hk
      simp only [RxFrame.address, hbyte 1 (by decide), hbyte 2 (by decide), hbyte 3 (by decide),
        hbyte 4 (by decide)]
    simp only [receiveData, haddress, hdest, hfound]
  | some dest =>
    rw [hfound] at hsame
    dsimp only at hsame
    have hheader : Agree frame frame' (span 0 8 ++ micIndices frame.size.toNat ++
        span 0 (micLength frame.size)) := by
      split at hsame
      · exact (Agree.append.mp hsame).1
      · exact hsame
    obtain ⟨hhead, hmicRx, hread⟩ := sameHeader_of_agree hsize hheader
    have hmic : dataMic u frame' dest = dataMic u frame dest := by
      simp only [dataMic, hread, hhead.address, hhead.counter]
    have haccept : acceptFrame u frame' dest = acceptFrame u frame dest := by
      simp only [acceptFrame, hhead.fCtrl, hhead.counter]
    have hreport : reportedCounter u frame' dest = reportedCounter u frame dest := by
      unfold reportedCounter
      rw [hhead.diff, hhead.counter, hmicRx, hmic]
    have hrepeated : repeated frame' dest = repeated frame dest := by
      simp only [repeated, hhead.counter]
    unfold receiveData
    rw [hhead.address, hdest, hfound]
    dsimp only
    rw [hhead.diff, hmicRx, hmic, haccept, hreport]
    by_cases hgap : MAX_FCNT_GAP ≤ sequenceCounterDiff frame dest
    · rw [if_pos hgap, if_pos hgap]
    by_cases hvalid : frame.micRx = dataMic u frame dest
    · -- from here on the payload is read, unless the frame is refused as a duplicate
      have hpayload (hnew : ¬ (repeated frame dest = true ∧
          (dest.multicast = true ∨ frame.macHdr ≠ FRAME_TYPE_DATA_CONFIRMED_DOWN))) :
          Agree frame frame' (payloadAccesses s frame dest snr).payload := by
        have hmic' : dataMic u frame dest = dataMic s frame dest :=
          dataMic_eq_of_core_eq hcore frame dest
        rw [if_pos ⟨UInt16.not_le.mp hgap, hvalid.trans hmic', hnew⟩] at hsame
        exact (Agree.append.mp hsame).2
      have hadr : u.adr = s.adr := (congrArg Mac.adr hcore :)
      rw [if_neg hgap, if_neg hgap, if_pos hvalid, if_pos hvalid]
      by_cases hmulticast : dest.multicast = true
      · rw [if_pos hmulticast, if_pos hmulticast]
        unfold receiveMulticast
        rw [hrepeated, hhead.address, hhead.counter]
        by_cases hrep : repeated frame dest = true
        · simp only [if_pos hrep]
        · simp only [if_neg hrep]
          exact deliverData_congr false hhead hadr (hpayload fun h => hrep h.1)
      · rw [if_neg hmulticast, if_neg hmulticast]
        unfold receiveUnicast
        rw [hrepeated, hmacHdr, hhead.counter]
        by_cases hconfirmed : frame.macHdr = FRAME_TYPE_DATA_CONFIRMED_DOWN
        · simp only [if_pos hconfirmed]
          exact deliverData_congr _ hhead hadr
            (hpayload fun h => h.2.elim hmulticast fun hne => hne hconfirmed)
        · simp only [if_neg hconfirmed]
          by_cases hrep : repeated frame dest = true
          · simp only [if_pos hrep]
          · simp only [if_neg hrep]
            exact deliverData_congr false hhead hadr (hpayload fun h => hrep h.1)
    · rw [if_neg hvalid, if_neg hvalid]

theorem joinPayload_congr {s : Mac} {frame frame' : RxFrame} (hsize : frame'.size = frame.size)
    (hjoined : s.IsLoRaMacNetworkJoined = false)
    (hsame : Agree frame frame' (joinAcceptAccesses s frame).payload) :
    joinPayload s frame' = joinPayload s frame := by
  rw [joinAcceptAccesses, hjoined, if_neg Bool.false_ne_true] at hsame
  obtain ⟨hfirst, hblocks⟩ := Agree.append.mp hsame
  have hhdr : frame'.payload 0 = frame.payload 0 := hfirst.span 0 Nat.one_pos
  have hbyte := hblocks.span
  unfold joinPayload LoRaMacJoinDecrypt
  simp only [hhdr, hsize]
  have hblock : Mem.read (fun i => frame'.payload (1 + i)) 0 16 =
      Mem.read (fun i => frame.payload (1 + i)) 0 16 := by
    apply Mem.read_eq_read_iff.mpr
    intro k hk
    simp only [Nat.zero_add]
    apply hbyte
    split <;> omega
  by_cases hlong : 16 ≤ (frame.size - 1).toNat
  · rw [if_pos hlong] at hbyte
    have hsecond : Mem.read (fun i => frame'.payload (1 + i)) 16 16 =
        Mem.read (fun i => frame.payload (1 + i)) 16 16 := by
      apply Mem.read_eq_read_iff.mpr
      intro k hk
      exact hbyte (16 + k) (by omega)
    simp only [if_pos hlong, hblock, hsecond]
  · simp only [if_neg hlong, hblock]

theorem zero_mem_rxDoneAccesses (s : Mac) (frame : RxFrame) (snr : Int) :
    0 ∈ (rxDoneAccesses s frame snr).payload := by
  have hjoin : 0 ∈ (joinAcceptAccesses s frame).payload := by
    unfold joinAcceptAccesses
    split <;> simp
  have hdata : 0 ∈ (dataAccesses s frame snr).payload := by
    unfold dataAccesses
    split
    · simp
    · dsimp only
      split <;> simp [Accesses.append]
  unfold rxDoneAccesses
  split
  · exact hjoin
  · exact hdata
  · exact hdata
  · simp
  · simp

/-- `OnRadioRxDone` depends on no byte of `payload` but those that it is said to read. -/
theorem OnRadioRxDone_congr {s : Mac} {frame frame' : RxFrame} (rssi snr : Int)
    (hsize : frame'.size = frame.size)
    (hsame : Agree frame frame' (rxDoneAccesses s frame snr).payload) :
    OnRadioRxDone s frame' rssi snr = OnRadioRxDone s frame rssi snr := by
  have hcore := (refused_beginReception s rssi snr).core
  have hmacHdr : frame'.macHdr = frame.macHdr := by
    rw [RxFrame.macHdr, hsame.byte (zero_mem_rxDoneAccesses s frame snr)]
    rfl
  unfold OnRadioRxDone
  dsimp only
  rw [hmacHdr]
  cases htype : frame.macHdr <;> simp only [rxDoneAccesses, htype] at hsame ⊢
  case FRAME_TYPE_JOIN_ACCEPT =>
    have hjoined : (beginReception s rssi snr).IsLoRaMacNetworkJoined = s.IsLoRaMacNetworkJoined :=
      (congrArg Mac.IsLoRaMacNetworkJoined hcore :)
    congr 2
    unfold receiveJoinAccept
    rw [hjoined]
    by_cases hnew : s.IsLoRaMacNetworkJoined = true
    · rw [if_pos hnew, if_pos hnew]
    · have hpayload := joinPayload_congr hsize (Bool.eq_false_iff.mpr hnew) hsame
      simp only [joinMicRx, joinMic, joinPayload_beginReception, hpayload, hsize]
  case FRAME_TYPE_DATA_CONFIRMED_DOWN => exact receiveData_congr hsize hmacHdr hcore hsame
  case FRAME_TYPE_DATA_UNCONFIRMED_DOWN => exact receiveData_congr hsize hmacHdr hcore hsame
  case FRAME_TYPE_PROPRIETARY =>
    have hcopy : frame'.payload.read 1 frame.size.toNat = frame.payload.read 1 frame.size.toNat :=
      Mem.read_eq_read_iff.mpr (Agree.append.mp hsame).2.span
    simp only [receiveProprietary, hsize, hcopy]

/-- The MAC commands of an accepted frame are not cut off: those of a payload on port 0 by
the end of the payload, and those of `FOpts`, in a frame that has no port, by the end of
the frame. -/
def commandsComplete (s : Mac) (frame : RxFrame) (dest : Destination) : Prop :=
  let start := 8 + frame.fCtrl.FOptsLen
  if start + 4 < frame.size.toNat then
    frame.payload start = 0 → frame.fCtrl.FOptsLen = 0 →
      commandsWithin s (dataPayload s frame dest dest.nwkSKey) (frame.size.toNat - 4 - (start + 1))
        (frame.size.toNat - 4 - (start + 1)) 257 0 = true
  else commandsWithin s frame.payload start frame.size.toNat 257 8 = true

/-- The frames that are parsed inside their length. -/
def Parsable (s : Mac) (frame : RxFrame) : Prop :=
  match frame.macHdr with
  | FRAME_TYPE_JOIN_ACCEPT => s.IsLoRaMacNetworkJoined = true ∨ frame.size = 33
  | FRAME_TYPE_DATA_CONFIRMED_DOWN | FRAME_TYPE_DATA_UNCONFIRMED_DOWN =>
    5 ≤ frame.size.toNat ∧ ∀ dest, destination s frame.address = some dest →
      8 ≤ frame.size.toNat ∧ (Acceptable s frame dest → commandsComplete s frame dest)
  | FRAME_TYPE_PROPRIETARY => False
  | _ => True

theorem micLength_of_le {size : UInt8} (h : 4 ≤ size.toNat) : micLength size = size.toNat - 4 :=
  UInt8.toNat_sub_of_le size 4 (UInt8.le_iff_toNat_le.mpr h)

theorem inside_joinAcceptAccesses_iff (s : Mac) {frame : RxFrame} (hpos : 1 ≤ frame.size.toNat) :
    (joinAcceptAccesses s frame).Inside frame.size.toNat ↔
      s.IsLoRaMacNetworkJoined = true ∨ frame.size = 33 := by
  have hpred : (frame.size - 1).toNat = frame.size.toNat - 1 :=
    UInt8.toNat_sub_of_le _ 1 (UInt8.le_iff_toNat_le.mpr hpos)
  by_cases hjoined : s.IsLoRaMacNetworkJoined = true
  · rw [joinAcceptAccesses, if_pos hjoined]
    refine ⟨fun _ => .inl hjoined, fun _ => ⟨?_, by simp, by simp⟩⟩
    intro i hi
    simp only [mem_span] at hi
    omega
  · rw [joinAcceptAccesses, if_neg hjoined, or_iff_right hjoined]
    simp only [hpred]
    constructor
    · intro hinside
      have hblock := hinside.payload 16 (by
        simp only [List.mem_append, mem_span]
        split <;> omega)
      have hsecond := hinside.payload 32 (by
        simp only [List.mem_append, mem_span]
        rw [if_pos (by omega)]
        omega)
      have hlast := hinside.rxPayload (frame.size.toNat - 1) (by
        simp only [List.mem_append, mem_micIndices]
        omega)
      simp only [List.mem_append, mem_span] at hlast
      rw [if_pos (by omega)] at hlast
      apply UInt8.toNat.inj
      change frame.size.toNat = 33
      omega
    · intro hsize
      have hsize' : frame.size.toNat = 33 := congrArg UInt8.toNat hsize
      simp only [hsize', micLength_of_le (show 4 ≤ frame.size.toNat by omega)]
      refine ⟨?_, ?_, by simp⟩
      · intro i hi
        simp only [List.mem_append, mem_span, Nat.reduceLeDiff, if_true, Nat.reduceSub] at hi
        omega
      · intro i hi
        simp only [List.mem_append, mem_span, mem_micIndices, Nat.reduceSub, Nat.reduceLeDiff,
          if_true, Nat.reduceLT] at hi ⊢
        split at hi
        · simp only [List.mem_append, mem_span] at hi
          omega
        · simp only [List.not_mem_nil, or_false] at hi
          omega

/-- Commands that end at least 5 bytes in front of `bound` are within it. -/
theorem commandsWithin_of_le (s : Mac) (payload : Mem) {commandsSize bound : Nat}
    (hroom : commandsSize + 5 ≤ bound) (fuel macIndex : Nat) :
    commandsWithin s payload commandsSize bound fuel macIndex = true := by
  induction fuel generalizing macIndex with
  | zero => rfl
  | succ fuel ih =>
    rw [commandsWithin]
    by_cases hlt : macIndex < commandsSize
    · rw [if_pos hlt, Bool.and_eq_true, decide_eq_true_eq]
      refine ⟨by omega, ?_⟩
      cases LoRaMacSrvCmd_t.ofCode (payload macIndex) with
      | none => rfl
      | some cmd =>
        have hreads := cmd.reads_le s (payload (macIndex + 1))
        have hsize := cmd.size_le
        simp only [ih, Bool.and_true, decide_eq_true_eq]
        omega
    · rw [if_neg hlt]

theorem fOptsReads_lt_iff (s : Mac) (frame : RxFrame) (snr : Int) (bound : Nat) :
    (∀ i ∈ fOptsReads s frame snr, 0 ≤ i ∧ i < bound) ↔
      commandsWithin s frame.payload (8 + frame.fCtrl.FOptsLen) bound 257 8 = true := by
  have hlen := frame.FOptsLen_lt
  have hsize : (UInt8.ofNat (8 + frame.fCtrl.FOptsLen)).toNat = 8 + frame.fCtrl.FOptsLen := by
    simp
    omega
  have hreads := processMacCommandsReads_lt_iff frame.payload (toUInt8 snr)
    (show (UInt8.ofNat (8 + frame.fCtrl.FOptsLen)).toNat ≤ 250 by omega) bound 257 s s rfl 8
  rw [hsize] at hreads
  by_cases hpos : 0 < frame.fCtrl.FOptsLen
  · rw [fOptsReads, if_pos hpos]
    rw [show (8 : UInt8).toNat = 8 from rfl] at hreads
    rw [← hreads]
    simp
  · have hzero : frame.fCtrl.FOptsLen = 0 := by omega
    simp [fOptsReads, hzero, commandsWithin]

theorem inside_payloadAccesses_iff (s : Mac) (frame : RxFrame) (dest : Destination) (snr : Int) :
    (payloadAccesses s frame dest snr).Inside frame.size.toNat ↔ commandsComplete s frame dest := by
  have hbyte := frame.size.toNat_lt
  have hFOpts := fOptsReads_lt_iff s frame snr frame.size.toNat
  unfold payloadAccesses commandsComplete
  dsimp only
  generalize hstart : 8 + frame.fCtrl.FOptsLen = start at *
  by_cases hport : start + 4 < frame.size.toNat
  · obtain ⟨frameLen, hframeLen⟩ : ∃ n, frame.size.toNat - 4 - (start + 1) = n := ⟨_, rfl⟩
    rw [if_pos hport, if_pos hport, hframeLen]
    by_cases hzero : frame.payload start = 0
    · by_cases hnone : frame.fCtrl.FOptsLen = 0
      · have hsize : (UInt8.ofNat frameLen).toNat = frameLen := by
          simp
          omega
        have hreads := processMacCommandsReads_lt_iff (dataPayload s frame dest dest.nwkSKey)
          (toUInt8 snr) (show (UInt8.ofNat frameLen).toNat ≤ 250 by omega) frameLen 257 s s rfl 0
        rw [hsize, show (0 : UInt8).toNat = 0 from rfl] at hreads
        simp only [hzero, hnone, if_true, true_implies]
        rw [← hreads]
        constructor
        · intro hinside i hi
          have hmem := hinside.rxPayload i (List.mem_map_of_mem hi)
          rw [mem_span] at hmem
          omega
        · intro hall
          refine ⟨?_, ?_, by simp⟩
          · intro i hi
            simp only [List.mem_append, mem_span] at hi
            omega
          · intro i hi
            obtain ⟨k, hk, rfl⟩ := List.mem_map.mp hi
            have hlt := hall k hk
            rw [mem_span, Int.ofNat_eq_natCast]
            omega
      · simp only [hzero, hnone, if_true, if_false, true_implies, false_implies, iff_true]
        refine ⟨?_, by simp, by simp⟩
        intro i hi
        simp only [mem_span] at hi
        omega
    · simp only [hzero, if_false, false_implies, iff_true]
      have hopts := hFOpts.mpr (commandsWithin_of_le s frame.payload (by omega) _ _)
      refine ⟨?_, by simp, by simp⟩
      intro i hi
      simp only [List.mem_append, mem_span] at hi
      obtain (hi | hi) | hi := hi
      · omega
      · exact hopts i hi
      · omega
  · rw [if_neg hport, if_neg hport, ← hFOpts]
    exact ⟨fun h => h.payload, fun h => ⟨h, by simp, by simp⟩⟩

theorem inside_dataAccesses_iff (s : Mac) (frame : RxFrame) (snr : Int) :
    (dataAccesses s frame snr).Inside frame.size.toNat ↔
      5 ≤ frame.size.toNat ∧ ∀ dest, destination s frame.address = some dest →
        8 ≤ frame.size.toNat ∧ (Acceptable s frame dest → commandsComplete s frame dest) := by
  unfold dataAccesses
  cases hdest : destination s frame.address with
  | none =>
    simp only [reduceCtorEq, false_implies, implies_true, and_true]
    constructor
    · intro hinside
      have hlast := hinside.payload 4 (by simp)
      omega
    · intro hsize
      refine ⟨?_, by simp, by simp⟩
      intro i hi
      rw [mem_span] at hi
      omega
  | some dest =>
    have hheader : (∀ i ∈ span 0 8 ++ micIndices frame.size.toNat ++ span 0 (micLength frame.size),
        0 ≤ i ∧ i < frame.size.toNat) ↔ 8 ≤ frame.size.toNat := by
      constructor
      · intro hinside
        have hlast := hinside 7 (by simp)
        omega
      · intro hsize i hi
        simp only [List.mem_append, mem_span, mem_micIndices,
          micLength_of_le (show 4 ≤ frame.size.toNat by omega)] at hi
        omega
    have hpayload := inside_payloadAccesses_iff s frame dest snr
    simp only [Option.some.injEq, forall_eq']
    by_cases haccept : Acceptable s frame dest
    · simp only [haccept, if_true, true_implies, ← hpayload]
      constructor
      · intro hinside
        have hsize := hheader.mp fun i hi => hinside.payload i (List.mem_append_left _ hi)
        refine ⟨by omega, hsize, ⟨?_, hinside.rxPayload, ?_⟩⟩
        · exact fun i hi => hinside.payload i (List.mem_append_right _ hi)
        · exact fun n hn => hinside.lengths n (List.mem_append_right _ hn)
      · intro ⟨_, hsize, hinside⟩
        refine ⟨?_, hinside.rxPayload, ?_⟩
        · intro i hi
          obtain hi | hi := List.mem_append.mp hi
          · exact hheader.mpr hsize i hi
          · exact hinside.payload i hi
        · intro n hn
          obtain hn | hn := List.mem_append.mp hn
          · rw [List.mem_singleton] at hn
            omega
          · exact hinside.lengths n hn
    · simp only [haccept, if_false, false_implies, and_true]
      constructor
      · intro hinside
        have hsize := hheader.mp hinside.payload
        exact ⟨by omega, hsize⟩
      · intro ⟨_, hsize⟩
        refine ⟨hheader.mpr hsize, by simp, ?_⟩
        intro n hn
        rw [List.mem_singleton] at hn
        omega

/-- Which frames are parsed inside their length. A join-accept has exactly the length with
a list of channels; a proprietary frame is always copied with one byte too many; and a
data frame has its header, and complete MAC commands if it is accepted. -/
theorem inside_rxDoneAccesses_iff (s : Mac) (frame : RxFrame) (snr : Int)
    (hpos : 1 ≤ frame.size.toNat) :
    (rxDoneAccesses s frame snr).Inside frame.size.toNat ↔ Parsable s frame := by
  have hother : (⟨span 0 1, [], [], []⟩ : Accesses).Inside frame.size.toNat := by
    refine ⟨?_, by simp, by simp⟩
    intro i hi
    rw [mem_span] at hi
    omega
  unfold rxDoneAccesses Parsable
  cases frame.macHdr with
  | FRAME_TYPE_JOIN_ACCEPT => exact inside_joinAcceptAccesses_iff s hpos
  | FRAME_TYPE_DATA_CONFIRMED_DOWN => exact inside_dataAccesses_iff s frame snr
  | FRAME_TYPE_DATA_UNCONFIRMED_DOWN => exact inside_dataAccesses_iff s frame snr
  | FRAME_TYPE_PROPRIETARY =>
    simp only [iff_false]
    intro hinside
    have hlast := hinside.payload frame.size.toNat (by
      simp only [List.mem_append, mem_span]
      omega)
    omega
  | _ => exact iff_true_intro hother

theorem inside_rxDoneAccesses_iff_dataFrame :
    (rxDoneAccesses (Mac.personalised Env.plain) (dataFrame 1) 0).Inside
      (dataFrame 1).size.toNat := by
  apply (inside_rxDoneAccesses_iff (Mac.personalised Env.plain) (dataFrame 1) 0 (by decide)).mpr
  refine ⟨by decide, fun dest hdest => ⟨by decide, fun _ => ?_⟩⟩
  intro hport
  exact absurd hport (by decide)

/-- A join-accept without a list of channels: 17 bytes. -/
def joinAcceptFrame : RxFrame :=
  .ofBytes ([0x20, 1, 2, 3, 0, 0, 0, 1, 0, 0, 0, 0, 1] ++ [0, 0, 0, 0])

/-- The usual join-accept is deciphered with the 16 bytes behind it, and a proprietary frame
is copied with the byte behind it. -/
theorem not_inside_joinAcceptFrame :
    ¬ (rxDoneAccesses (Mac.boot Env.plain) joinAcceptFrame 0).Inside joinAcceptFrame.size.toNat ∧
      ¬ (rxDoneAccesses (Mac.boot Env.plain) (.ofBytes [0xE0, 7]) 0).Inside 2 := by
  constructor
  · intro hinside
    exact absurd (hinside.payload 17 (by decide)) (by decide)
  · intro hinside
    exact absurd (hinside.payload 2 (by decide)) (by decide)

end loranode.mac
