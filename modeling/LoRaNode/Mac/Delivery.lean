import LoRaNode.Mac.Session
import LoRaNode.Mac.Acceptance
import LoRaNode.Mac.Reads

namespace loranode.mac

open crypto word LoRaMacStatus_t LoRaMacFrameType_t LoRaMacEventInfoStatus_t

/-- Data as they are delivered: whom they are for, the counter of the frame, the port and the
bytes. -/
structure Data where
  Multicast : Bool
  DownLinkCounter : UInt32
  Port : UInt8
  bytes : List UInt8
deriving DecidableEq

/-- The data that an indication delivers with the bytes that it points to. -/
def McpsIndication_t.data (ind : McpsIndication_t) (bytes : List UInt8) : Option Data :=
  if ind.Status = LORAMAC_EVENT_INFO_STATUS_OK ∧ ind.RxData = true then
    some ⟨ind.Multicast, ind.DownLinkCounter, ind.Port, bytes⟩
  else none

/-- The data that the next indication delivers. -/
def Mac.data (s : Mac) : Option Data :=
  s.McpsIndication.data (if s.McpsIndication.hasBuffer then
    s.LoRaMacRxPayload.read 0 s.McpsIndication.BufferSize.toNat else [])

theorem Mac.data_of_rxData {s : Mac} (h : s.McpsIndication.RxData = false) : s.data = none := by
  rw [Mac.data, McpsIndication_t.data, if_neg]
  rintro ⟨-, hdata⟩
  exact absurd (h.symm.trans hdata) (by decide)

theorem Mac.data_of_rxStatus {s : Mac} (h : s.rxStatus ≠ LORAMAC_EVENT_INFO_STATUS_OK) :
    s.data = none := by
  rw [Mac.data, McpsIndication_t.data, if_neg]
  rintro ⟨hok, -⟩
  exact h hok

theorem Light.data {s t : Mac} (h : Light s t) : t.data = s.data :=
  (congrArg Mac.data h.quiet :)

theorem data_endReception (s : Mac) : (endReception s).data = s.data := by
  have hreopen : (reopenWindow2 s).data = s.data := by
    unfold reopenWindow2
    split
    · exact (light_OnRxWindow2TimerEvent s).data
    · rfl
  exact hreopen

theorem data_abortReception (s : Mac) {Status : LoRaMacEventInfoStatus_t}
    (h : Status ≠ LORAMAC_EVENT_INFO_STATUS_OK) : (abortReception s Status).data = none := by
  apply Mac.data_of_rxStatus
  rwa [rxStatus_abortReception]

namespace RxFrame

variable (frame : RxFrame)

/-- The data of a frame for a destination, deciphered. -/
def data (env : Env) (dest : Destination) : Data where
  Multicast := dest.multicast
  DownLinkCounter := frameCounter frame dest
  Port := frame.payload frame.portIndex
  bytes := encrypted env (fun i => frame.payload (frame.portIndex + 1 + i))
    (frame.size.toNat - 4 - (frame.portIndex + 1)) dest.appSKey frame.address DOWN_LINK
    (frameCounter frame dest)

end RxFrame

/-- An indication that is filled in for a frame, but for the port and the payload. -/
structure Indicates (ind : McpsIndication_t) (frame : RxFrame) (dest : Destination) : Prop where
  status : ind.Status = LORAMAC_EVENT_INFO_STATUS_OK
  multicast : ind.Multicast = dest.multicast
  counter : ind.DownLinkCounter = frameCounter frame dest
  rxData : ind.RxData = false

theorem indication_ProcessMacCommands {s t : Mac} {payload : Mem}
    {macIndex commandsSize snr : UInt8}
    (h : ProcessMacCommands s payload macIndex commandsSize snr = some t) :
    t.McpsIndication = s.McpsIndication :=
  (congrArg Mac.McpsIndication (uncommanded_ProcessMacCommands h) :)

theorem indication_processFOpts {s t : Mac} {frame : RxFrame} {snr : Int}
    (h : processFOpts s frame snr = some t) : t.McpsIndication = s.McpsIndication := by
  unfold processFOpts at h
  split at h
  · exact indication_ProcessMacCommands h
  · cases h
    rfl

/-- The payload of an accepted frame is deciphered and left for the indication, unless that is to
be skipped. -/
theorem data_receivePayload {s : Mac} {frame : RxFrame} {dest : Destination} {skip : Bool}
    {snr : Int} {r : Bool × Mac} (h : receivePayload s frame dest skip snr = some r)
    (hs : Indicates s.McpsIndication frame dest) :
    r.2.data = if skip = false ∧ frame.HasData then some (frame.data s.env dest) else none := by
  unfold receivePayload at h
  dsimp only at h
  by_cases hsize : frame.portIndex + 4 < frame.size.toNat
  · rw [if_pos (show 8 + frame.fCtrl.FOptsLen + 4 < _ from hsize)] at h
    by_cases hport : frame.payload frame.portIndex = 0
    · rw [if_neg (show ¬ (skip = false ∧ frame.HasData) from fun hdata => hdata.2.2 hport)]
      rw [if_pos (show frame.payload (8 + frame.fCtrl.FOptsLen) = 0 from hport)] at h
      apply Mac.data_of_rxData
      split at h
      · obtain ⟨u, hu, rfl⟩ := Option.map_eq_some_iff.mp h
        exact (congrArg (·.RxData) (indication_ProcessMacCommands hu)).trans hs.rxData
      · cases h
        exact hs.rxData
    · rw [if_neg (show ¬ frame.payload (8 + frame.fCtrl.FOptsLen) = 0 from hport)] at h
      obtain ⟨u, hu, rfl⟩ := Option.map_eq_some_iff.mp h
      have hind := indication_processFOpts hu
      cases skip with
      | true =>
        simp only [Bool.true_eq_false, false_and, if_false, if_true]
        exact Mac.data_of_rxData ((congrArg (·.RxData) hind).trans hs.rxData)
      | false =>
        have hhas : frame.HasData := ⟨hsize, hport⟩
        simp only [hhas, true_and, Bool.false_eq_true, if_false, if_true]
        have hlength : (UInt8.ofNat (frame.size.toNat - 4 - (frame.portIndex + 1))).toNat =
            frame.size.toNat - 4 - (frame.portIndex + 1) := by
          have hlt := frame.size.toNat_lt
          rw [UInt8.toNat_ofNat']
          omega
        rw [Mac.data, McpsIndication_t.data, if_pos ⟨by rw [hind]; exact hs.status, rfl⟩]
        simp only [if_true, RxFrame.data, Option.some.injEq, Data.mk.injEq, hind]
        refine ⟨hs.multicast, hs.counter, rfl, ?_⟩
        change Mem.read _ 0 (UInt8.ofNat (frame.size.toNat - 4 - (frame.portIndex + 1))).toNat = _
        rw [hlength]
        exact read_LoRaMacPayloadEncrypt ..
  · rw [if_neg (show ¬ 8 + frame.fCtrl.FOptsLen + 4 < _ from hsize)] at h
    rw [if_neg (show ¬ (skip = false ∧ frame.HasData) from fun hdata => hsize hdata.2.1)]
    obtain ⟨u, hu, rfl⟩ := Option.map_eq_some_iff.mp h
    exact Mac.data_of_rxData ((congrArg (·.RxData) (indication_processFOpts hu)).trans hs.rxData)

theorem data_deliverData {s t : Mac} {frame : RxFrame} {dest : Destination} {skip : Bool}
    {snr : Int} (h : deliverData s frame dest skip snr = some t)
    (hs : Indicates s.McpsIndication frame dest) :
    t.data = if skip = false ∧ frame.HasData then some (frame.data s.env dest) else none := by
  have hack : Indicates (receiveAck s frame.fCtrl.Ack).McpsIndication frame dest ∧
      (receiveAck s frame.fCtrl.Ack).env = s.env := by
    unfold receiveAck
    dsimp only
    split <;> exact ⟨⟨hs.status, hs.multicast, hs.counter, hs.rxData⟩, rfl⟩
  obtain ⟨⟨skip', u⟩, hu, rfl⟩ := Option.map_eq_some_iff.mp h
  have hdata := data_receivePayload hu hack.1
  rw [hack.2] at hdata
  rw [data_endReception, ← hdata]
  split <;> rfl

theorem data_receiveMulticast {s t : Mac} {frame : RxFrame} {dest : Destination} {snr : Int}
    (h : receiveMulticast s frame dest snr = some t)
    (hs : Indicates s.McpsIndication frame dest) :
    t.data = if repeated frame dest = false ∧ frame.HasData then some (frame.data s.env dest)
      else none := by
  unfold receiveMulticast at h
  dsimp only at h
  cases hrepeated : repeated frame dest with
  | true =>
    rw [hrepeated, if_pos rfl] at h
    cases h
    rw [if_neg (show ¬ (true = false ∧ _) from fun hdata => absurd hdata.1 (by decide))]
    exact data_abortReception _ (by decide)
  | false =>
    rw [hrepeated, if_neg Bool.false_ne_true] at h
    have hdata := data_deliverData h ⟨hs.status, hs.multicast, hs.counter, hs.rxData⟩
    exact hdata

/-- A repetition delivers nothing, be it refused or, if it is confirmed, only skipped. -/
theorem data_receiveUnicast {s t : Mac} {frame : RxFrame} {dest : Destination} {snr : Int}
    (h : receiveUnicast s frame dest snr = some t)
    (hs : Indicates s.McpsIndication frame dest) :
    t.data = if repeated frame dest = false ∧ frame.HasData then some (frame.data s.env dest)
      else none := by
  unfold receiveUnicast at h
  dsimp only at h
  split at h
  · have hdata := data_deliverData h ⟨hs.status, hs.multicast, hs.counter, hs.rxData⟩
    exact hdata
  · cases hrepeated : repeated frame dest with
    | true =>
      rw [hrepeated, if_pos rfl] at h
      cases h
      rw [if_neg (show ¬ (true = false ∧ _) from fun hdata => absurd hdata.1 (by decide))]
      exact data_abortReception _ (by decide)
    | false =>
      rw [hrepeated, if_neg Bool.false_ne_true] at h
      have hdata := data_deliverData h ⟨hs.status, hs.multicast, hs.counter, hs.rxData⟩
      exact hdata

/-- The node takes data from a frame for `dest`: its counter is near, its MIC valid, and it is no
repetition. -/
structure TakesData (s : Mac) (frame : RxFrame) (dest : Destination) : Prop where
  type : frame.IsData
  found : destination s frame.address = some dest
  near : sequenceCounterDiff frame dest < MAX_FCNT_GAP
  mic : frame.micRx = dataMic s frame dest
  new : repeated frame dest = false
  hasData : frame.HasData

theorem data_receiveData {s t : Mac} {frame : RxFrame} {snr : Int} (htype : frame.IsData)
    (h : receiveData s frame snr = some t) (hs : s.McpsIndication.RxData = false) :
    (∀ dest, TakesData s frame dest → t.data = some (frame.data s.env dest)) ∧
      ((∀ dest, ¬ TakesData s frame dest) → t.data = none) := by
  unfold receiveData at h
  cases hdest : destination s frame.address with
  | none =>
    rw [hdest] at h
    cases h
    refine ⟨fun dest htakes => ?_, fun _ => data_abortReception _ (by decide)⟩
    exact absurd (hdest.symm.trans htakes.found) (Option.some_ne_none dest).symm
  | some dest =>
    rw [hdest] at h
    dsimp only at h
    have hunique : ∀ dest', TakesData s frame dest' → dest' = dest := fun dest' htakes =>
      Option.some.inj (htakes.found.symm.trans hdest)
    by_cases hgap : MAX_FCNT_GAP ≤ sequenceCounterDiff frame dest
    · rw [if_pos hgap] at h
      cases h
      refine ⟨fun dest' htakes => ?_, fun _ => data_abortReception _ (by decide)⟩
      cases hunique dest' htakes
      exact absurd htakes.near (UInt16.not_lt.mpr hgap)
    rw [if_neg hgap] at h
    by_cases hmic : frame.micRx = dataMic s frame dest
    · have haccept : Indicates (acceptFrame s frame dest).McpsIndication frame dest :=
        ⟨rfl, rfl, rfl, hs⟩
      have hdata : t.data = if repeated frame dest = false ∧ frame.HasData then
          some (frame.data s.env dest) else none := by
        rw [if_pos hmic] at h
        split at h
        · have hmulticast := data_receiveMulticast h haccept
          exact hmulticast
        · have hunicast := data_receiveUnicast h haccept
          exact hunicast
      refine ⟨fun dest' htakes => ?_, fun hstale => ?_⟩
      · cases hunique dest' htakes
        rw [hdata, if_pos ⟨htakes.new, htakes.hasData⟩]
      · rw [hdata, if_neg]
        rintro ⟨hnew, hhas⟩
        exact hstale dest ⟨htype, hdest, UInt16.not_le.mp hgap, hmic, hnew, hhas⟩
    · rw [if_neg hmic] at h
      cases h
      refine ⟨fun dest' htakes => ?_, fun _ => data_abortReception _ (by decide)⟩
      cases hunique dest' htakes
      exact absurd htakes.mic hmic

theorem uncommanded_addCFList (s : Mac) (p : Mem) :
    (addCFList s p).uncommanded = s.uncommanded := by
  have hfold : ∀ (ks : List Nat) (u : Mac), u.uncommanded = s.uncommanded →
      (ks.foldl (fun s k => (LoRaMacChannelAdd s (UInt8.ofNat (3 + k))
        ⟨frequencyAt p (13 + 3 * k) (14 + 3 * k) (15 + 3 * k), 0x50, 0⟩).2) u).uncommanded =
        s.uncommanded := by
    intro ks
    induction ks with
    | nil => exact fun u hu => hu
    | cons k ks ih =>
      exact fun u hu => ih _ ((uncommanded_LoRaMacChannelAdd u _ _).trans hu)
  exact hfold (List.range 5) (setTxConfig s true) rfl

/-- A join-accept has no part in the indication. -/
theorem indication_receiveJoinAccept (s : Mac) (frame : RxFrame) :
    (receiveJoinAccept s frame).McpsIndication.RxData = s.McpsIndication.RxData := by
  unfold receiveJoinAccept openSession
  dsimp only
  split
  · rfl
  · split
    · split
      · exact (congrArg (·.McpsIndication.RxData)
          (uncommanded_addCFList (takeSession _ _) (joinPayload s frame)) :)
      · rfl
    · rfl

/-- The data that `OnRadioRxDone` leaves for the indication: those of a fresh frame, and none
else. -/
theorem data_OnRadioRxDone {s t : Mac} {frame : RxFrame} {rssi snr : Int}
    (h : OnRadioRxDone s frame rssi snr = some t) :
    (∀ dest, TakesData s frame dest → t.data = some (frame.data s.env dest)) ∧
      ((∀ dest, ¬ TakesData s frame dest) → t.data = none) := by
  have hcore := (refused_beginReception s rssi snr).core
  have hrx := (downlink_beginReception s rssi snr).2
  by_cases htype : frame.IsData
  · rw [OnRadioRxDone_of_isData htype] at h
    generalize beginReception s rssi snr = u at hcore hrx h
    have henv : u.env = s.env := (congrArg Mac.env hcore :)
    have htakes : ∀ dest, TakesData u frame dest ↔ TakesData s frame dest := by
      intro dest
      have hmic := dataMic_eq_of_core_eq hcore frame dest
      have hdest := destination_eq_of_core_eq hcore frame.address
      constructor
      · exact fun hu => ⟨hu.type, hdest ▸ hu.found, hu.near, hmic ▸ hu.mic, hu.new, hu.hasData⟩
      · exact fun hs => ⟨hs.type, hdest ▸ hs.found, hs.near, hmic ▸ hs.mic, hs.new, hs.hasData⟩
    have hdata := data_receiveData htype h hrx
    simp only [htakes, henv] at hdata
    exact hdata
  · refine ⟨fun dest htakes => absurd htakes.type htype, fun _ => ?_⟩
    unfold OnRadioRxDone at h
    dsimp only at h
    generalize beginReception s rssi snr = u at hrx h
    cases hhdr : frame.macHdr <;> rw [hhdr] at h <;> dsimp only at h
    case FRAME_TYPE_DATA_CONFIRMED_DOWN => exact absurd (.inl hhdr) htype
    case FRAME_TYPE_DATA_UNCONFIRMED_DOWN => exact absurd (.inr hhdr) htype
    case FRAME_TYPE_JOIN_ACCEPT =>
      cases h
      rw [data_endReception]
      apply Mac.data_of_rxData
      rw [← hrx]
      exact indication_receiveJoinAccept u frame
    case FRAME_TYPE_PROPRIETARY =>
      cases h
      rw [data_endReception]
      exact Mac.data_of_rxData hrx
    all_goals
      cases h
      rw [data_endReception]
      exact data_abortReception _ (by decide)

/-- A data frame as a server makes it: the type, the control field, MAC commands, and a payload
with its port if there is one. -/
structure Downlink where
  confirmed : Bool
  FPending : Bool
  Ack : Bool
  Adr : Bool
  FOpts : List UInt8
  body : Option (UInt8 × List UInt8)
  fOpts_lt : FOpts.length < 16
  size_lt : 13 + FOpts.length + (body.elim 0 fun b => b.2.length) < 256

/-- A part of what is read is what stands at its place. -/
theorem read_of_append {m : Mem} {n : Nat} {as bs cs : List UInt8}
    (h : m.read 0 n = as ++ (bs ++ cs)) : m.read as.length bs.length = bs := by
  have hn : n = as.length + (bs.length + cs.length) := by
    rw [← Mem.length_read m 0 n, h, List.length_append, List.length_append]
  rw [hn, Mem.read_add, Mem.read_add, Nat.zero_add] at h
  have hbehind := (List.append_inj h (Mem.length_read ..)).2
  exact (List.append_inj hbehind (Mem.length_read ..)).1

namespace Downlink

variable (d : Downlink) (env : Env) (dest : Destination) (address n : UInt32)

def macHdr : LoRaMacFrameType_t :=
  if d.confirmed then FRAME_TYPE_DATA_CONFIRMED_DOWN else FRAME_TYPE_DATA_UNCONFIRMED_DOWN

def fCtrl : LoRaMacFrameCtrl_t := ⟨d.FOpts.length, d.FPending, d.Ack, false, d.Adr⟩

/-- The payload, enciphered with the key that belongs to the port. -/
def cipherText (fPort : UInt8) (payload : List UInt8) : List UInt8 :=
  encrypted env (memoryOf payload) payload.length
    (if fPort = 0 then dest.nwkSKey else dest.appSKey) address DOWN_LINK n

/-- The bytes in front of the MIC. -/
def bytes : List UInt8 :=
  uplinkBytes d.macHdr.header address d.fCtrl n.toUInt16 d.FOpts
    (d.body.elim [] fun b => b.1 :: cipherText env dest address n b.1 b.2)

/-- The frame that the server sends to `address` with the counter `n`. -/
def frame : List UInt8 :=
  d.bytes env dest address n ++ bytes32 (env.LoRaMacComputeMic (d.bytes env dest address n)
    dest.nwkSKey address DOWN_LINK n)

/-- The data for the upper layer. A payload on port 0 is for the MAC. -/
def data : Option Data :=
  d.body.bind fun b => if b.1 = 0 then none else some ⟨dest.multicast, n, b.1, b.2⟩

theorem length_bytes : (d.bytes env dest address n).length =
    8 + d.FOpts.length + d.body.elim 0 fun b => 1 + b.2.length := by
  rw [bytes, uplinkBytes]
  cases d.body with
  | none =>
    simp [bytes32, leBytes, bytes16]
    omega
  | some b =>
    simp [bytes32, leBytes, bytes16, cipherText]
    omega

theorem length_frame_lt : (d.frame env dest address n).length < 256 := by
  have hsize := d.size_lt
  rw [Downlink.frame, List.length_append, length_bytes]
  change _ + 4 < 256
  cases hbody : d.body with
  | none => simp only [hbody, Option.elim_none] at hsize ⊢; omega
  | some b => simp only [hbody, Option.elim_some] at hsize ⊢; omega

section Received

variable {d env dest address n} {frame : RxFrame}
  (hframe : frame.payload.read 0 frame.size.toNat = d.frame env dest address n)

include hframe

theorem size_eq : frame.size.toNat = (d.bytes env dest address n).length + 4 := by
  rw [← Mem.length_read frame.payload 0 frame.size.toNat, hframe, Downlink.frame,
    List.length_append]
  rfl

/-- The header of the frame, as `OnRadioRxDone` reads it. -/
theorem header_eq : frame.macHdr = d.macHdr ∧ frame.address = address ∧ frame.fCtrl = d.fCtrl ∧
    frame.sequenceCounter = n.toUInt16 := by
  have hcons : ∃ rest, d.frame env dest address n =
      d.macHdr.header :: byte address.toBitVec 0 :: byte address.toBitVec 1 ::
        byte address.toBitVec 2 :: byte address.toBitVec 3 :: d.fCtrl.Value ::
        n.toUInt16.toUInt8 :: (n.toUInt16 >>> 8).toUInt8 :: rest :=
    ⟨_, by
      simp only [Downlink.frame, bytes, uplinkBytes, bytes32, leBytes, bytes16, List.cons_append,
        List.nil_append]
      rfl⟩
  obtain ⟨rest, hcons⟩ := hcons
  rw [hcons] at hframe
  have hbyte : ∀ i < 8, frame.payload i = _ := fun i hi =>
    apply_of_read hframe (show i < _ by simp only [List.length_cons]; omega)
  refine ⟨?_, ?_, ?_, ?_⟩
  · rw [RxFrame.macHdr, hbyte 0 (by decide)]
    exact ofHeader_header _
  · rw [RxFrame.address, hbyte 1 (by decide), hbyte 2 (by decide), hbyte 3 (by decide),
      hbyte 4 (by decide)]
    exact ofBytes32_bytes address
  · rw [RxFrame.fCtrl, hbyte 5 (by decide)]
    exact LoRaMacFrameCtrl_t.ofValue_Value _ d.fOpts_lt
  · rw [RxFrame.sequenceCounter, hbyte 6 (by decide), hbyte 7 (by decide)]
    exact ofBytes16_bytes _

/-- The frame is authentic for the node if this takes it to have the counter `n`. -/
theorem mic_eq {s : Mac} (henv : s.env = env) (hcounter : frameCounter frame dest = n) :
    frame.micRx = dataMic s frame dest := by
  have hsize := size_eq hframe
  have hcovered : frame.payload.read 0 (micLength frame.size) = d.bytes env dest address n := by
    rw [micLength_of_le (by omega), ← Mem.take_read _ 0 (Nat.sub_le frame.size.toNat 4), hframe,
      Downlink.frame, hsize, Nat.add_sub_cancel, List.take_left]
  rw [RxFrame.micRx, micAt_of_read hframe, dataMic, hcovered, (header_eq hframe).2.1, hcounter,
    henv]

/-- The port and the payload, where the node looks for them. -/
theorem body_eq {fPort : UInt8} {payload : List UInt8} (hbody : d.body = some (fPort, payload)) :
    frame.payload frame.portIndex = fPort ∧
      frame.size.toNat = frame.portIndex + 1 + payload.length + 4 ∧
      frame.payload.read (frame.portIndex + 1) payload.length =
        cipherText env dest address n fPort payload := by
  have hindex : frame.portIndex = 8 + d.FOpts.length := by
    rw [RxFrame.portIndex, (header_eq hframe).2.2.1]
    rfl
  have hcipher : (cipherText env dest address n fPort payload).length = payload.length :=
    length_encrypted ..
  have hsize : frame.size.toNat = frame.portIndex + 1 + payload.length + 4 := by
    rw [size_eq hframe, length_bytes, hbody, hindex]
    simp only [Option.elim_some]
    omega
  have hsplit : ∃ front, front.length = frame.portIndex ∧ d.bytes env dest address n =
      front ++ ([fPort] ++ cipherText env dest address n fPort payload) := by
    refine ⟨uplinkBytes d.macHdr.header address d.fCtrl n.toUInt16 d.FOpts [], ?_, ?_⟩
    · rw [hindex]
      simp [uplinkBytes, bytes32, leBytes, bytes16]
      omega
    · rw [bytes, hbody, Option.elim_some, uplinkBytes, uplinkBytes, List.append_nil]
      rfl
  obtain ⟨front, hfront, hsplit⟩ := hsplit
  rw [Downlink.frame, hsplit, List.append_assoc, List.append_assoc] at hframe
  have hport := read_of_append hframe
  rw [← List.append_assoc] at hframe
  have hread := read_of_append hframe
  rw [hfront] at hport
  rw [List.length_append, hfront, hcipher] at hread
  exact ⟨(List.cons.inj hport).1, hsize, hread⟩

/-- The node takes a frame of the server whose counter `n` is near and new. -/
theorem accepted {s : Mac} (henv : s.env = env) (hdest : destination s address = some dest)
    (hnear : n - dest.downLinkCounter < 16384) (hnew : n ≠ dest.downLinkCounter ∨ n = 0) :
    frameCounter frame dest = n ∧ frame.IsData ∧ destination s frame.address = some dest ∧
      sequenceCounterDiff frame dest < MAX_FCNT_GAP ∧ frame.micRx = dataMic s frame dest ∧
      repeated frame dest = false := by
  obtain ⟨hmacHdr, haddress, -, hlow⟩ := header_eq hframe
  obtain ⟨hgap, hcounter⟩ := frameCounter_of_near hnear hlow
  refine ⟨hcounter, ?_, haddress ▸ hdest, hgap, mic_eq hframe henv hcounter, ?_⟩
  · rw [RxFrame.IsData, hmacHdr, macHdr]
    cases d.confirmed <;> decide
  · rw [repeated, hcounter]
    obtain hne | rfl := hnew
    · simp [hne.symm]
    · by_cases hzero : dest.downLinkCounter = 0 <;> simp [hzero]

/-- The frame has data for the upper layer exactly when the server has put some into it. -/
theorem hasData_iff : frame.HasData ↔ (d.data dest n).isSome = true := by
  cases hbody : d.body with
  | none =>
    have hsize := size_eq hframe
    rw [length_bytes, hbody, Option.elim_none] at hsize
    rw [data, hbody, RxFrame.HasData, RxFrame.portIndex, (header_eq hframe).2.2.1, fCtrl]
    simp only [Option.bind_none, Option.isSome_none, Bool.false_eq_true, iff_false]
    omega
  | some b =>
    obtain ⟨hport, hsize, -⟩ := body_eq hframe hbody
    rw [data, hbody, Option.bind_some, RxFrame.HasData, hport]
    by_cases hzero : b.1 = 0
    · simp [hzero]
    · simp only [hzero, if_false, Option.isSome_some, ne_eq, not_false_eq_true, and_true, iff_true]
      omega

/-- The data of the frame, deciphered. -/
theorem data_eq (hcounter : frameCounter frame dest = n) (hhas : frame.HasData) :
    some (frame.data env dest) = d.data dest n := by
  have hsome := (hasData_iff hframe).mp hhas
  cases hbody : d.body with
  | none =>
    rw [data, hbody] at hsome
    cases hsome
  | some b =>
    obtain ⟨fPort, payload⟩ := b
    obtain ⟨hport, hsize, hcipher⟩ := body_eq hframe hbody
    have hzero : fPort ≠ 0 := hport ▸ hhas.2
    have hlength : frame.size.toNat - 4 - (frame.portIndex + 1) = payload.length := by omega
    have hread : Mem.read (fun i => frame.payload (frame.portIndex + 1 + i)) 0 payload.length =
        encrypted env (memoryOf payload) payload.length dest.appSKey address DOWN_LINK n := by
      rw [cipherText, if_neg hzero] at hcipher
      rw [← hcipher]
      exact Mem.read_drop frame.payload (frame.portIndex + 1) 0 payload.length
    rw [RxFrame.data, hlength, (header_eq hframe).2.1, hcounter, encrypted_encrypted env hread,
      read_memoryOf, hport, data, hbody, Option.bind_some, if_neg hzero]

end Received

end Downlink

/-- What the search for an address looks at. -/
def Mac.addressees (s : Mac) : UInt32 × List UInt8 × List UInt8 × UInt32 × List MulticastParams_t :=
  (s.LoRaMacDevAddr, s.LoRaMacNwkSKey, s.LoRaMacAppSKey, s.DownLinkCounter, s.MulticastChannels)

theorem destination_congr {s t : Mac} (h : t.addressees = s.addressees) (address : UInt32) :
    destination t address = destination s address := by
  simp only [Mac.addressees, Prod.mk.injEq] at h
  obtain ⟨haddr, hnwk, happ, hcounter, hgroups⟩ := h
  rw [destination, destination, haddr, hnwk, happ, hcounter, hgroups]

/-- What an accepted frame leaves apart from its data and its MAC commands. -/
structure Receipt where
  addressees : UInt32 × List UInt8 × List UInt8 × UInt32 × List MulticastParams_t
  SrvAckRequested : Bool
  FramePending : Bool
  AckReceived : Bool

def Mac.receipt (s : Mac) : Receipt where
  addressees := s.addressees
  SrvAckRequested := s.SrvAckRequested
  FramePending := s.McpsIndication.FramePending
  AckReceived := s.McpsIndication.AckReceived

theorem receipt_ProcessMacCommands {s t : Mac} {payload : Mem} {macIndex commandsSize snr : UInt8}
    (h : ProcessMacCommands s payload macIndex commandsSize snr = some t) :
    t.receipt = s.receipt :=
  (congrArg Mac.receipt (uncommanded_ProcessMacCommands h) :)

theorem receipt_processFOpts {s t : Mac} {frame : RxFrame} {snr : Int}
    (h : processFOpts s frame snr = some t) : t.receipt = s.receipt := by
  unfold processFOpts at h
  split at h
  · exact receipt_ProcessMacCommands h
  · cases h
    rfl

theorem receipt_receivePayload {s : Mac} {frame : RxFrame} {dest : Destination} {skip : Bool}
    {snr : Int} {r : Bool × Mac} (h : receivePayload s frame dest skip snr = some r) :
    r.2.receipt = s.receipt ∧ (frame.HasData → r.1 = skip) := by
  unfold receivePayload at h
  dsimp only at h
  split at h
  · split at h
    · next hport =>
      refine ⟨?_, fun hhas => absurd hport hhas.2⟩
      split at h
      · obtain ⟨u, hu, rfl⟩ := Option.map_eq_some_iff.mp h
        have hreceipt := receipt_ProcessMacCommands hu
        exact hreceipt
      · cases h
        rfl
    · obtain ⟨u, hu, rfl⟩ := Option.map_eq_some_iff.mp h
      have hreceipt := receipt_processFOpts hu
      cases skip <;> exact ⟨hreceipt, fun _ => rfl⟩
  · obtain ⟨u, hu, rfl⟩ := Option.map_eq_some_iff.mp h
    exact ⟨receipt_processFOpts hu, fun _ => rfl⟩

theorem receipt_endReception (s : Mac) : (endReception s).receipt = s.receipt := by
  have hreopen : (reopenWindow2 s).receipt = s.receipt := by
    unfold reopenWindow2
    split
    · exact (congrArg Mac.receipt (light_OnRxWindow2TimerEvent s).quiet :)
    · rfl
  exact hreopen

theorem receipt_deliverData {s t : Mac} {frame : RxFrame} {dest : Destination} {skip : Bool}
    {snr : Int} (h : deliverData s frame dest skip snr = some t) :
    t.receipt = { s.receipt with
        AckReceived := s.McpsIndication.AckReceived || frame.fCtrl.Ack } ∧
      (frame.HasData → skip = false → t.LoRaMacFlags.McpsInd = true) := by
  have hack : (receiveAck s frame.fCtrl.Ack).receipt = { s.receipt with
      AckReceived := s.McpsIndication.AckReceived || frame.fCtrl.Ack } := by
    unfold receiveAck
    dsimp only
    split <;> rfl
  obtain ⟨⟨skip', u⟩, hu, rfl⟩ := Option.map_eq_some_iff.mp h
  obtain ⟨hreceipt, hskip⟩ := receipt_receivePayload hu
  refine ⟨?_, fun hhas hnot => ?_⟩
  · rw [receipt_endReception, ← hack, ← hreceipt]
    split <;> rfl
  · apply (refused_endReception _).mcpsInd
    rw [show skip' = false from (hskip hhas).trans hnot]
    rfl

theorem find_setMulticastCounter (address n other : UInt32) (groups : List MulticastParams_t) :
    (setMulticastCounter address n groups).find? (·.Address = other) =
      if other = address then
        (groups.find? (·.Address = address)).map ({ · with DownLinkCounter := n })
      else groups.find? (·.Address = other) := by
  induction groups with
  | nil => simp [setMulticastCounter]
  | cons group groups ih =>
    rw [setMulticastCounter]
    by_cases hgroup : group.Address = address
    · rw [if_pos hgroup]
      by_cases hother : other = address
      · simp [hother, hgroup]
      · simp [hother, hgroup, Ne.symm hother]
    · rw [if_neg hgroup, List.find?_cons, List.find?_cons, List.find?_cons, ih]
      by_cases hother : other = address
      · simp [hother, hgroup]
      · simp [hother]

theorem destination_setCounter {s : Mac} {address : UInt32} {dest : Destination}
    (hdest : destination s address = some dest) (hunicast : dest.multicast = false)
    (n other : UInt32) :
    destination { s with DownLinkCounter := n } other =
      if other = address then some { dest with downLinkCounter := n } else destination s other := by
  have haddress := (multicast_of_destination hdest).mp hunicast
  rw [destination, if_pos haddress] at hdest
  cases hdest
  subst haddress
  rw [destination, destination]
  split <;> rfl

theorem destination_setMulticastCounter {s : Mac} {address : UInt32} {dest : Destination}
    (hdest : destination s address = some dest) (hmulticast : dest.multicast = true)
    (n other : UInt32) :
    destination { s with
        MulticastChannels := setMulticastCounter address n s.MulticastChannels } other =
      if other = address then some { dest with downLinkCounter := n } else destination s other := by
  have haddress : address ≠ s.LoRaMacDevAddr := fun haddress =>
    absurd (((multicast_of_destination hdest).mpr haddress).symm.trans hmulticast) (by decide)
  rw [destination, if_neg haddress] at hdest
  obtain ⟨group, hgroup, rfl⟩ := Option.map_eq_some_iff.mp hdest
  rw [destination, destination, find_setMulticastCounter]
  by_cases hother : other = address
  · rw [if_pos hother, if_pos hother, if_neg (hother ▸ haddress), hgroup]
    rfl
  · rw [if_neg hother, if_neg hother]

/-- What a data frame leaves that is taken: it moves the counter of its addressee, and no other. -/
structure Taking (s : Mac) (frame : RxFrame) (dest : Destination) (t : Mac) : Prop where
  pending : t.McpsIndication.FramePending = frame.fCtrl.FPending
  ack : t.McpsIndication.AckReceived = (s.McpsIndication.AckReceived || frame.fCtrl.Ack)
  srvAck : t.SrvAckRequested = if dest.multicast then s.SrvAckRequested else
    decide (frame.macHdr = FRAME_TYPE_DATA_CONFIRMED_DOWN)
  mcpsInd : frame.HasData → t.LoRaMacFlags.McpsInd = true
  destination (other : UInt32) : destination t other = if other = frame.address then
    some { dest with downLinkCounter := frameCounter frame dest } else destination s other

theorem taking_receiveMulticast {s t : Mac} {frame : RxFrame} {dest : Destination} {snr : Int}
    (hdest : destination s frame.address = some dest) (hmulticast : dest.multicast = true)
    (hnew : repeated frame dest = false)
    (h : receiveMulticast (acceptFrame s frame dest) frame dest snr = some t) :
    Taking s frame dest t := by
  unfold receiveMulticast at h
  rw [hnew, if_neg Bool.false_ne_true] at h
  obtain ⟨hreceipt, hflag⟩ := receipt_deliverData h
  refine ⟨congrArg Receipt.FramePending hreceipt, congrArg Receipt.AckReceived hreceipt, ?_,
    fun hhas => hflag hhas rfl, fun other => ?_⟩
  · rw [hmulticast]
    exact congrArg Receipt.SrvAckRequested hreceipt
  · rw [← destination_setMulticastCounter hdest hmulticast]
    have haddressees := congrArg Receipt.addressees hreceipt
    exact destination_congr haddressees other

theorem taking_receiveUnicast {s t : Mac} {frame : RxFrame} {dest : Destination} {snr : Int}
    (hdest : destination s frame.address = some dest) (hunicast : dest.multicast = false)
    (hnew : repeated frame dest = false)
    (h : receiveUnicast (acceptFrame s frame dest) frame dest snr = some t) :
    Taking s frame dest t := by
  unfold receiveUnicast at h
  rw [hnew] at h
  by_cases hconfirmed : frame.macHdr = FRAME_TYPE_DATA_CONFIRMED_DOWN
  · rw [if_pos hconfirmed] at h
    obtain ⟨hreceipt, hflag⟩ := receipt_deliverData h
    refine ⟨congrArg Receipt.FramePending hreceipt, congrArg Receipt.AckReceived hreceipt, ?_,
      fun hhas => hflag hhas rfl, fun other => ?_⟩
    · rw [hunicast, if_neg Bool.false_ne_true, hconfirmed]
      exact congrArg Receipt.SrvAckRequested hreceipt
    · rw [← destination_setCounter hdest hunicast]
      have haddressees := congrArg Receipt.addressees hreceipt
      exact destination_congr haddressees other
  · rw [if_neg hconfirmed, if_neg Bool.false_ne_true] at h
    obtain ⟨hreceipt, hflag⟩ := receipt_deliverData h
    refine ⟨congrArg Receipt.FramePending hreceipt, congrArg Receipt.AckReceived hreceipt, ?_,
      fun hhas => hflag hhas rfl, fun other => ?_⟩
    · rw [hunicast, if_neg Bool.false_ne_true, decide_eq_false hconfirmed]
      exact congrArg Receipt.SrvAckRequested hreceipt
    · rw [← destination_setCounter hdest hunicast]
      have haddressees := congrArg Receipt.addressees hreceipt
      exact destination_congr haddressees other

theorem taking_OnRadioRxDone {s t : Mac} {frame : RxFrame} {dest : Destination} {rssi snr : Int}
    (htype : frame.IsData) (hdest : destination s frame.address = some dest)
    (hgap : sequenceCounterDiff frame dest < MAX_FCNT_GAP)
    (hmic : frame.micRx = dataMic s frame dest) (hnew : repeated frame dest = false)
    (h : OnRadioRxDone s frame rssi snr = some t) :
    Taking (beginReception s rssi snr) frame dest t := by
  have hcore := (refused_beginReception s rssi snr).core
  rw [OnRadioRxDone_of_isData htype] at h
  generalize beginReception s rssi snr = u at hcore h ⊢
  have hdest' : destination u frame.address = some dest :=
    (destination_eq_of_core_eq hcore frame.address).trans hdest
  have hmic' : frame.micRx = dataMic u frame dest :=
    hmic.trans (dataMic_eq_of_core_eq hcore frame dest).symm
  unfold receiveData at h
  rw [hdest'] at h
  dsimp only at h
  rw [if_neg (UInt16.not_le.mpr hgap), if_pos hmic'] at h
  by_cases hmulticast : dest.multicast = true
  · rw [if_pos hmulticast] at h
    exact taking_receiveMulticast hdest' hmulticast hnew h
  · rw [if_neg hmulticast] at h
    exact taking_receiveUnicast hdest' (Bool.eq_false_iff.mpr hmulticast) hnew h

/-- A frame of the server with a counter that is near and new delivers its data, to the node itself
or to a group of it: the next indication has the port and the plain payload. The counter of the
addressee is then that of the frame, and no other counter has moved. -/
theorem delivery_of_downlink {s : Mac} {dest : Destination} {address n : UInt32} {frame : RxFrame}
    (d : Downlink) (hdest : destination s address = some dest)
    (hnear : n - dest.downLinkCounter < 16384) (hnew : n ≠ dest.downLinkCounter ∨ n = 0)
    (hframe : frame.payload.read 0 frame.size.toNat = d.frame s.env dest address n)
    (rssi snr : Int) :
    ∃ t, OnRadioRxDone s frame rssi snr = some t ∧ t.data = d.data dest n ∧
      ((d.data dest n).isSome = true → t.LoRaMacFlags.McpsInd = true) ∧
      t.McpsIndication.FramePending = d.FPending ∧ t.McpsIndication.AckReceived = d.Ack ∧
      t.SrvAckRequested = (if dest.multicast then s.SrvAckRequested else d.confirmed) ∧
      ∀ other, destination t other =
        if other = address then some { dest with downLinkCounter := n }
        else destination s other := by
  obtain ⟨t, ht⟩ := OnRadioRxDone_isSome s frame rssi snr
  obtain ⟨hcounter, htype, hfound, hgap, hmic, hrepeated⟩ :=
    Downlink.accepted hframe rfl hdest hnear hnew
  obtain ⟨hmacHdr, haddress, hfCtrl, -⟩ := Downlink.header_eq hframe
  have htaking := taking_OnRadioRxDone htype hfound hgap hmic hrepeated ht
  have hcore := (refused_beginReception s rssi snr).core
  have hbegin : (beginReception s rssi snr).McpsIndication.AckReceived = false := by
    unfold beginReception
    dsimp only
    split <;> rfl
  refine ⟨t, ht, ?_, fun hsome => htaking.mcpsInd ((Downlink.hasData_iff hframe).mpr hsome),
    ?_, ?_, ?_, fun other => ?_⟩
  · obtain ⟨hsome, hnone⟩ := data_OnRadioRxDone ht
    by_cases hhas : frame.HasData
    · rw [hsome dest ⟨htype, hfound, hgap, hmic, hrepeated, hhas⟩]
      exact Downlink.data_eq hframe hcounter hhas
    · rw [hnone fun _ htakes => hhas htakes.hasData]
      rw [Downlink.hasData_iff hframe, Bool.not_eq_true, Option.isSome_eq_false_iff,
        Option.isNone_iff_eq_none] at hhas
      exact hhas.symm
  · rw [htaking.pending, hfCtrl]
    rfl
  · rw [htaking.ack, hbegin, hfCtrl]
    rfl
  · have hsrv : (beginReception s rssi snr).SrvAckRequested = s.SrvAckRequested :=
      (congrArg Mac.SrvAckRequested hcore :)
    rw [htaking.srvAck, hsrv, hmacHdr, Downlink.macHdr]
    cases d.confirmed <;> rfl
  · rw [htaking.destination, haddress, hcounter, destination_eq_of_core_eq hcore]

/-- A confirmed frame with two bytes on port 5, behind a command that asks for the status. -/
def greeting : Downlink where
  confirmed := true
  FPending := false
  Ack := false
  Adr := false
  FOpts := [6]
  body := some (5, [104, 105])
  fOpts_lt := by decide
  size_lt := by decide

theorem delivery_of_downlink_greeting :
    let s := Mac.personalised Env.plain
    ∃ t, OnRadioRxDone s (.ofBytes (greeting.frame s.env s.unicast 1 3)) 0 0 = some t ∧
      t.data = some ⟨false, 3, 5, [104, 105]⟩ ∧ t.LoRaMacFlags.McpsInd = true ∧
      t.SrvAckRequested = true ∧
      destination t 1 = some { s.unicast with downLinkCounter := 3 } := by
  intro s
  obtain ⟨t, ht, hdata, hflag, -, -, hack, hdest⟩ := delivery_of_downlink greeting
    (show destination s 1 = some s.unicast from rfl) (n := 3) (by decide) (.inl (by decide))
    (read_ofBytes (greeting.length_frame_lt s.env s.unicast 1 3)) 0 0
  exact ⟨t, ht, hdata, hflag rfl, hack, hdest 1⟩

end loranode.mac
