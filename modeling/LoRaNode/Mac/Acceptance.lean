import LoRaNode.Mac.Stream
import LoRaNode.Mac.Downlink

namespace loranode.mac

open LoRaMacFrameType_t LoRaMacEventInfoStatus_t

theorem RxFrame.FOptsLen_lt (frame : RxFrame) : frame.fCtrl.FOptsLen < 16 :=
  Nat.mod_lt _ (by decide)

theorem processFOpts_isSome (s : Mac) (frame : RxFrame) (snr : Int) :
    ∃ t, processFOpts s frame snr = some t := by
  have hFOpts := frame.FOptsLen_lt
  unfold processFOpts
  by_cases hpos : 0 < frame.fCtrl.FOptsLen
  · rw [if_pos hpos]
    apply ProcessMacCommands_isSome
    simp
    omega
  · exact ⟨s, if_neg hpos⟩

/-- The MAC commands of an accepted frame come to an end. -/
theorem receivePayload_isSome (s : Mac) (frame : RxFrame) (dest : Destination) (skip : Bool)
    (snr : Int) : ∃ r, receivePayload s frame dest skip snr = some r := by
  have hsize := frame.size.toNat_lt
  unfold receivePayload
  dsimp only
  split
  · split
    · split
      · obtain ⟨t, ht⟩ := ProcessMacCommands_isSome _ _ 0 (toUInt8 snr)
          (show (UInt8.ofNat (frame.size.toNat - 4 - (8 + frame.fCtrl.FOptsLen + 1))).toNat ≤ 250 by
            simp
            omega)
        exact ⟨_, by rw [ht]; rfl⟩
      · exact ⟨_, rfl⟩
    · obtain ⟨t, ht⟩ := processFOpts_isSome _ frame snr
      exact ⟨_, by rw [ht]; rfl⟩
  · obtain ⟨t, ht⟩ := processFOpts_isSome s frame snr
    exact ⟨_, by rw [ht]; rfl⟩

theorem deliverData_isSome (s : Mac) (frame : RxFrame) (dest : Destination) (skip : Bool)
    (snr : Int) : ∃ t, deliverData s frame dest skip snr = some t := by
  obtain ⟨r, hr⟩ := receivePayload_isSome (receiveAck s frame.fCtrl.Ack) frame dest skip snr
  exact ⟨_, by rw [deliverData, hr]; rfl⟩

/-- `OnRadioRxDone` returns on every frame. -/
theorem OnRadioRxDone_isSome (s : Mac) (frame : RxFrame) (rssi snr : Int) :
    ∃ t, OnRadioRxDone s frame rssi snr = some t := by
  have hdata (u : Mac) : ∃ t, receiveData u frame snr = some t := by
    unfold receiveData receiveMulticast receiveUnicast
    dsimp only
    repeat' split
    all_goals first | exact ⟨_, rfl⟩ | apply deliverData_isSome
  unfold OnRadioRxDone
  dsimp only
  split
  · exact ⟨_, rfl⟩
  · exact hdata _
  · exact hdata _
  · exact ⟨_, rfl⟩
  · exact ⟨_, rfl⟩

/-- The status of the indication. -/
def Mac.rxStatus (s : Mac) : LoRaMacEventInfoStatus_t := s.McpsIndication.Status

theorem rxStatus_reopenWindow2 (s : Mac) : (reopenWindow2 s).rxStatus = s.rxStatus := by
  unfold reopenWindow2
  split
  · exact (congrArg Mac.rxStatus (light_OnRxWindow2TimerEvent s).quiet :)
  · rfl

theorem rxStatus_abortReception (s : Mac) (Status : LoRaMacEventInfoStatus_t) :
    (abortReception s Status).rxStatus = Status := by
  have hack (t : Mac) :
      (if t.NodeAckRequested then OnAckTimeoutTimerEvent t else t).rxStatus = t.rxStatus := by
    split
    · exact (congrArg Mac.rxStatus (light_OnAckTimeoutTimerEvent t).quiet :)
    · rfl
  exact (rxStatus_reopenWindow2 _).trans (hack _)

theorem rxStatus_ProcessMacCommands {s t : Mac} {payload : Mem}
    {macIndex commandsSize snr : UInt8}
    (h : ProcessMacCommands s payload macIndex commandsSize snr = some t) :
    t.rxStatus = s.rxStatus :=
  (congrArg Mac.rxStatus (uncommanded_ProcessMacCommands h) :)

theorem rxStatus_processFOpts {s t : Mac} {frame : RxFrame} {snr : Int}
    (h : processFOpts s frame snr = some t) : t.rxStatus = s.rxStatus := by
  unfold processFOpts at h
  split at h
  · exact rxStatus_ProcessMacCommands h
  · cases h
    rfl

/-- Neither the payload nor the MAC commands of a frame change the status. -/
theorem rxStatus_receivePayload {s : Mac} {frame : RxFrame} {dest : Destination} {skip : Bool}
    {snr : Int} {r : Bool × Mac} (h : receivePayload s frame dest skip snr = some r) :
    r.2.rxStatus = s.rxStatus := by
  unfold receivePayload at h
  dsimp only at h
  split at h
  · split at h
    · split at h
      · obtain ⟨u, hu, rfl⟩ := Option.map_eq_some_iff.mp h
        have hstatus := rxStatus_ProcessMacCommands hu
        exact hstatus
      · cases h
        rfl
    · obtain ⟨u, hu, rfl⟩ := Option.map_eq_some_iff.mp h
      have hstatus := rxStatus_processFOpts hu
      split <;> exact hstatus
  · obtain ⟨u, hu, rfl⟩ := Option.map_eq_some_iff.mp h
    exact rxStatus_processFOpts hu

theorem rxStatus_deliverData {s t : Mac} {frame : RxFrame} {dest : Destination} {skip : Bool}
    {snr : Int} (h : deliverData s frame dest skip snr = some t) : t.rxStatus = s.rxStatus := by
  have hack : (receiveAck s frame.fCtrl.Ack).rxStatus = s.rxStatus := by
    unfold receiveAck
    dsimp only
    split <;> rfl
  obtain ⟨⟨skip', u⟩, hu, rfl⟩ := Option.map_eq_some_iff.mp h
  have hpayload : u.rxStatus = _ := rxStatus_receivePayload hu
  rw [← hack, ← hpayload]
  refine (rxStatus_reopenWindow2 _).trans ?_
  split <;> rfl

/-- A frame that counts as data for this node or for one of its groups. -/
def RxFrame.IsData (frame : RxFrame) : Prop :=
  frame.macHdr = FRAME_TYPE_DATA_CONFIRMED_DOWN ∨ frame.macHdr = FRAME_TYPE_DATA_UNCONFIRMED_DOWN

instance RxFrame.decidableIsData (frame : RxFrame) : Decidable frame.IsData :=
  inferInstanceAs (Decidable (_ ∨ _))

theorem OnRadioRxDone_of_isData {s : Mac} {frame : RxFrame} (htype : frame.IsData)
    (rssi snr : Int) :
    OnRadioRxDone s frame rssi snr = receiveData (beginReception s rssi snr) frame snr := by
  unfold OnRadioRxDone
  obtain htype | htype := htype <;> simp only [htype]

/-- The state at the duplicate test: what accepting a frame writes before it. -/
def beforeDuplicateTest (s : Mac) (frame : RxFrame) (dest : Destination) : Mac :=
  if dest.multicast then acceptFrame s frame dest
  else { acceptFrame s frame dest with SrvAckRequested := false }

/-- What becomes of a data frame with a valid MIC: it is refused for its counter, refused
as a duplicate, or accepted. -/
inductive Outcome (s : Mac) (frame : RxFrame) (dest : Destination) (t : Mac) : Prop where
  | lost (hgap : MAX_FCNT_GAP ≤ sequenceCounterDiff frame dest) (hcore : t.core = s.core)
      (hstatus : t.rxStatus = LORAMAC_EVENT_INFO_STATUS_DOWNLINK_TOO_MANY_FRAMES_LOSS)
  | duplicate (hgap : sequenceCounterDiff frame dest < MAX_FCNT_GAP)
      (hrepeated : repeated frame dest = true)
      (hkind : dest.multicast = true ∨ frame.macHdr ≠ FRAME_TYPE_DATA_CONFIRMED_DOWN)
      (hcore : t.core = (beforeDuplicateTest s frame dest).core)
      (hstatus : t.rxStatus = LORAMAC_EVENT_INFO_STATUS_DOWNLINK_REPEATED)
  | accepted (hgap : sequenceCounterDiff frame dest < MAX_FCNT_GAP)
      (hnew : repeated frame dest = true →
        dest.multicast = false ∧ frame.macHdr = FRAME_TYPE_DATA_CONFIRMED_DOWN)
      (hcounter : dest.multicast = false → t.DownLinkCounter = frameCounter frame dest)
      (hstatus : t.rxStatus = LORAMAC_EVENT_INFO_STATUS_OK)

theorem outcome_receiveMulticast {s t : Mac} {frame : RxFrame} {dest : Destination} {snr : Int}
    (hgap : sequenceCounterDiff frame dest < MAX_FCNT_GAP) (hmulticast : dest.multicast = true)
    (h : receiveMulticast (acceptFrame s frame dest) frame dest snr = some t) :
    Outcome s frame dest t := by
  unfold receiveMulticast at h
  dsimp only at h
  split at h
  · next hrepeated =>
    cases h
    refine .duplicate hgap hrepeated (.inl hmulticast) ?_ (rxStatus_abortReception _ _)
    rw [(refused_abortReception _ _).core, beforeDuplicateTest, if_pos hmulticast]
    rfl
  · next hnew =>
    refine .accepted hgap (fun hrepeated => absurd hrepeated hnew) ?_ ?_
    · rw [hmulticast]
      exact fun h => absurd h (by decide)
    · have hstatus := rxStatus_deliverData h
      exact hstatus

theorem outcome_receiveUnicast {s t : Mac} {frame : RxFrame} {dest : Destination} {snr : Int}
    (hgap : sequenceCounterDiff frame dest < MAX_FCNT_GAP) (hunicast : dest.multicast = false)
    (hdata : s.McpsIndication.RxData = false)
    (h : receiveUnicast (acceptFrame s frame dest) frame dest snr = some t) :
    Outcome s frame dest t := by
  have hdelivered {u : Mac} {skip : Bool} (h : deliverData u frame dest skip snr = some t)
      (hu : u.McpsIndication.RxData = false) :
      t.DownLinkCounter = u.DownLinkCounter ∧ t.rxStatus = u.rxStatus :=
    ⟨(downlink_deliverData h hu).1, rxStatus_deliverData h⟩
  unfold receiveUnicast at h
  dsimp only at h
  split at h
  · next hconfirmed =>
    have hresult := hdelivered h hdata
    exact .accepted hgap (fun _ => ⟨hunicast, hconfirmed⟩) (fun _ => hresult.1) hresult.2
  · next hunconfirmed =>
    split at h
    · next hrepeated =>
      cases h
      refine .duplicate hgap hrepeated (.inr hunconfirmed) ?_ (rxStatus_abortReception _ _)
      rw [(refused_abortReception _ _).core, beforeDuplicateTest, if_neg (by rw [hunicast]; decide)]
      rfl
    · next hnew =>
      have hresult := hdelivered h hdata
      exact .accepted hgap (fun hrepeated => absurd hrepeated hnew) (fun _ => hresult.1) hresult.2

theorem outcome_receiveData {s t : Mac} {frame : RxFrame} {dest : Destination} {snr : Int}
    (hdest : destination s frame.address = some dest) (hmic : frame.micRx = dataMic s frame dest)
    (hdata : s.McpsIndication.RxData = false) (h : receiveData s frame snr = some t) :
    Outcome s frame dest t := by
  unfold receiveData at h
  simp only [hdest, if_pos hmic] at h
  split at h
  · next hgap =>
    cases h
    refine .lost hgap ?_ (rxStatus_abortReception _ _)
    exact (refused_abortReception _ _).core
  · next hgap =>
    have hgap := UInt16.not_le.mp hgap
    by_cases hmulticast : dest.multicast = true
    · rw [if_pos hmulticast] at h
      exact outcome_receiveMulticast hgap hmulticast h
    · rw [if_neg hmulticast] at h
      exact outcome_receiveUnicast hgap (Bool.eq_false_iff.mpr hmulticast) hdata h

theorem core_beforeDuplicateTest {s t : Mac} (hcore : t.core = s.core) (frame : RxFrame)
    (dest : Destination) :
    (beforeDuplicateTest t frame dest).core = (beforeDuplicateTest s frame dest).core := by
  unfold beforeDuplicateTest
  split
  · exact (congrArg (fun m => (acceptFrame m frame dest).core) hcore :)
  · exact (congrArg
      (fun m => { acceptFrame m frame dest with SrvAckRequested := false }.core) hcore :)

/-- The outcome of a data frame with a valid MIC. -/
theorem outcome_OnRadioRxDone {s t : Mac} {frame : RxFrame} {dest : Destination} {rssi snr : Int}
    (htype : frame.IsData) (hdest : destination s frame.address = some dest)
    (hmic : frame.micRx = dataMic s frame dest) (h : OnRadioRxDone s frame rssi snr = some t) :
    Outcome s frame dest t := by
  have hcore := (refused_beginReception s rssi snr).core
  have hdata := (downlink_beginReception s rssi snr).2
  rw [OnRadioRxDone_of_isData htype] at h
  generalize beginReception s rssi snr = u at hcore hdata h
  have hdest' : destination u frame.address = some dest :=
    (destination_eq_of_core_eq hcore frame.address).trans hdest
  have hmic' : frame.micRx = dataMic u frame dest :=
    hmic.trans (dataMic_eq_of_core_eq hcore frame dest).symm
  cases outcome_receiveData hdest' hmic' hdata h with
  | lost hgap hcore' hstatus => exact .lost hgap (hcore'.trans hcore) hstatus
  | duplicate hgap hrepeated hkind hcore' hstatus =>
    exact .duplicate hgap hrepeated hkind
      (hcore'.trans (core_beforeDuplicateTest hcore frame dest)) hstatus
  | accepted hgap hnew hcounter hstatus => exact .accepted hgap hnew hcounter hstatus

/-- What accepting a data frame writes. -/
structure Acceptance where
  AdrAckCounter : UInt32
  MacCommandsBufferToRepeatIndex : UInt8
  SrvAckRequested : Bool
  DownLinkCounter : UInt32
  multicastCounters : List UInt32
  LoRaMacParams : LoRaMacParams_t
  MacCommandsBuffer : Mem
  MacCommandsBufferIndex : UInt8
  MacCommandsBufferToRepeat : Mem

def Mac.acceptance (s : Mac) : Acceptance where
  AdrAckCounter := s.AdrAckCounter
  MacCommandsBufferToRepeatIndex := s.MacCommandsBufferToRepeatIndex
  SrvAckRequested := s.SrvAckRequested
  DownLinkCounter := s.DownLinkCounter
  multicastCounters := s.MulticastChannels.map (·.DownLinkCounter)
  LoRaMacParams := s.LoRaMacParams
  MacCommandsBuffer := s.MacCommandsBuffer
  MacCommandsBufferIndex := s.MacCommandsBufferIndex
  MacCommandsBufferToRepeat := s.MacCommandsBufferToRepeat

theorem acceptance_eq_of_core_eq {s t : Mac} (h : t.core = s.core) : t.acceptance = s.acceptance :=
  (congrArg Mac.acceptance h :)

/-- Up to the duplicate test three fields are written, the last of them only by a frame
for the node itself. -/
theorem acceptance_beforeDuplicateTest (s : Mac) (frame : RxFrame) (dest : Destination) :
    (beforeDuplicateTest s frame dest).acceptance =
      { s.acceptance with
        AdrAckCounter := 0
        MacCommandsBufferToRepeatIndex := 0
        SrvAckRequested := s.SrvAckRequested && dest.multicast } := by
  unfold beforeDuplicateTest
  cases dest.multicast with
  | true =>
    rw [Bool.and_true]
    rfl
  | false =>
    rw [Bool.and_false]
    rfl

theorem multicast_of_destination {s : Mac} {address : UInt32} {dest : Destination}
    (h : destination s address = some dest) :
    dest.multicast = false ↔ address = s.LoRaMacDevAddr := by
  unfold destination at h
  split at h
  · next haddress =>
    cases h
    simp [haddress]
  · next haddress =>
    obtain ⟨group, -, rfl⟩ := Option.map_eq_some_iff.mp h
    simp [haddress]

/-- A frame with a valid MIC that is refused for its counter leaves no trace when the
counter is too far ahead. A duplicate has reset the ADR counter, the answers to repeat
and, in a frame for the node itself, the acknowledgement by then: it leaves no trace
only where there was nothing to reset. -/
theorem acceptance_eq_iff {s t : Mac} {frame : RxFrame} {dest : Destination} {rssi snr : Int}
    (htype : frame.IsData) (hdest : destination s frame.address = some dest)
    (hmic : frame.micRx = dataMic s frame dest) (h : OnRadioRxDone s frame rssi snr = some t)
    (hstatus : t.McpsIndication.Status = LORAMAC_EVENT_INFO_STATUS_DOWNLINK_REPEATED ∨
      t.McpsIndication.Status = LORAMAC_EVENT_INFO_STATUS_DOWNLINK_TOO_MANY_FRAMES_LOSS) :
    t.acceptance = s.acceptance ↔ MAX_FCNT_GAP ≤ sequenceCounterDiff frame dest ∨
      s.AdrAckCounter = 0 ∧ s.MacCommandsBufferToRepeatIndex = 0 ∧
        (frame.address = s.LoRaMacDevAddr → s.SrvAckRequested = false) := by
  cases outcome_OnRadioRxDone htype hdest hmic h with
  | lost hgap hcore =>
    simp only [hgap, true_or, iff_true]
    exact acceptance_eq_of_core_eq hcore
  | duplicate hgap hrepeated hkind hcore =>
    rw [acceptance_eq_of_core_eq hcore, acceptance_beforeDuplicateTest,
      ← multicast_of_destination hdest]
    simp only [UInt16.not_le.mpr hgap, false_or]
    constructor
    · intro hsame
      refine ⟨(congrArg Acceptance.AdrAckCounter hsame).symm,
        (congrArg Acceptance.MacCommandsBufferToRepeatIndex hsame).symm, ?_⟩
      intro hunicast
      have hack : s.SrvAckRequested = (s.SrvAckRequested && dest.multicast) :=
        (congrArg Acceptance.SrvAckRequested hsame).symm
      simpa [hunicast] using hack
    · intro ⟨hadr, hrepeat, hack⟩
      have hsrv : (s.SrvAckRequested && dest.multicast) = s.SrvAckRequested := by
        cases hmulticast : dest.multicast with
        | true => simp
        | false => simp [hack hmulticast]
      rw [hsrv, ← hadr, ← hrepeat]
      rfl
  | accepted _ _ _ hok =>
    change t.rxStatus = _ ∨ t.rxStatus = _ at hstatus
    simp [hok] at hstatus

/-- A node that has received the frame with the counter 1. -/
def Mac.received (env : Env) : Mac :=
  { Mac.personalised env with DownLinkCounter := 1 }

/-- Nothing waits to be reset: the duplicate leaves no trace. -/
theorem acceptance_eq_iff_received :
    ∃ t, OnRadioRxDone (Mac.received Env.plain) (dataFrame 1) 0 0 = some t ∧
      t.acceptance = (Mac.received Env.plain).acceptance := by
  obtain ⟨t, ht⟩ : ∃ t, OnRadioRxDone (Mac.received Env.plain) (dataFrame 1) 0 0 = some t :=
    ⟨_, rfl⟩
  have hstatus : ∀ u, OnRadioRxDone (Mac.received Env.plain) (dataFrame 1) 0 0 = some u →
      u.McpsIndication.Status = LORAMAC_EVENT_INFO_STATUS_DOWNLINK_REPEATED := by
    intro u hu
    cases hu
    rfl
  refine ⟨t, ht, (acceptance_eq_iff (.inr rfl) (show destination (Mac.received Env.plain)
    (dataFrame 1).address = some (Mac.received Env.plain).unicast from rfl) rfl ht
    (.inl (hstatus t ht))).mpr ?_⟩
  exact .inr ⟨rfl, rfl, fun _ => rfl⟩

/-- The node has sent three frames since the frame with the counter 1, and has to repeat an
answer until it hears from the server. The same frame is received again: it is refused as
a duplicate, but the answer is dropped and the ADR counter starts anew. -/
theorem acceptance_ne_of_duplicate :
    ∃ s t : Mac, s = { Mac.received Env.plain with
        AdrAckCounter := 3
        MacCommandsBufferToRepeat := fun _ => 8
        MacCommandsBufferToRepeatIndex := 1 } ∧
      (dataFrame 1).micRx = dataMic s (dataFrame 1) s.unicast ∧
      OnRadioRxDone s (dataFrame 1) 0 0 = some t ∧
      t.McpsIndication.Status = LORAMAC_EVENT_INFO_STATUS_DOWNLINK_REPEATED ∧
      t.acceptance ≠ s.acceptance := by
  refine ⟨_, _, rfl, rfl, rfl, rfl, ?_⟩
  intro hsame
  have hcounter := congrArg Acceptance.AdrAckCounter hsame
  exact absurd hcounter (by decide)

/-- The true counter `n` is recovered from its low half and the last counter when it is
less than 2^14 ahead, across every wrap. -/
theorem frameCounter_of_near {frame : RxFrame} {dest : Destination} {n : UInt32}
    (hnear : n - dest.downLinkCounter < 16384) (hlow : frame.sequenceCounter = n.toUInt16) :
    sequenceCounterDiff frame dest < MAX_FCNT_GAP ∧ frameCounter frame dest = n := by
  have hdiff : sequenceCounterDiff frame dest = (n - dest.downLinkCounter).toUInt16 := by
    rw [sequenceCounterDiff, hlow, UInt32.toUInt16_sub]
  have hnat : (n - dest.downLinkCounter).toNat < 16384 := UInt32.lt_iff_toNat_lt.mp hnear
  have hwide : (n - dest.downLinkCounter).toUInt16.toUInt32 = n - dest.downLinkCounter := by
    apply UInt32.toNat.inj
    simp only [UInt16.toNat_toUInt32, UInt32.toNat_toUInt16]
    omega
  have hsmall : (sequenceCounterDiff frame dest).toNat < 16384 := by
    rw [hdiff, UInt32.toNat_toUInt16]
    omega
  have hbelow : sequenceCounterDiff frame dest < 0x8000 :=
    UInt16.lt_iff_toNat_lt.mpr (show _ < 32768 by omega)
  refine ⟨UInt16.lt_iff_toNat_lt.mpr hsmall, ?_⟩
  rw [frameCounter, if_pos hbelow, hdiff, hwide]
  rw [UInt32.add_comm, UInt32.sub_add_cancel]

/-- A frame for the node that carries the low half of `n` and a MIC for `n`, less than 2^14
ahead of the last counter, leaves exactly `n` as the last counter. It is accepted unless
it is an unconfirmed repetition of the last frame. A frame whose low half is 2^14 or more
ahead does not move the counter, whatever its MIC. -/
theorem DownLinkCounter_exact {s : Mac} {frame : RxFrame} (rssi snr : Int) (htype : frame.IsData)
    (haddress : frame.address = s.LoRaMacDevAddr) :
    (∀ n : UInt32, n - s.DownLinkCounter < 16384 → frame.sequenceCounter = n.toUInt16 →
      frame.micRx = s.env.LoRaMacComputeMic (frame.payload.read 0 (micLength frame.size))
        s.LoRaMacNwkSKey frame.address DOWN_LINK n →
      ∃ t, OnRadioRxDone s frame rssi snr = some t ∧ t.DownLinkCounter = n ∧
        t.McpsIndication.Status =
          if frame.macHdr = FRAME_TYPE_DATA_UNCONFIRMED_DOWN ∧ n = s.DownLinkCounter ∧ n ≠ 0 then
            LORAMAC_EVENT_INFO_STATUS_DOWNLINK_REPEATED
          else LORAMAC_EVENT_INFO_STATUS_OK) ∧
    (16384 ≤ frame.sequenceCounter - s.DownLinkCounter.toUInt16 →
      ∃ t, OnRadioRxDone s frame rssi snr = some t ∧ t.DownLinkCounter = s.DownLinkCounter) := by
  obtain ⟨t, ht⟩ := OnRadioRxDone_isSome s frame rssi snr
  have hdest : destination s frame.address = some s.unicast := if_pos haddress
  constructor
  · intro n hnear hlow hmic
    obtain ⟨hgap, hcounter⟩ : _ ∧ frameCounter frame s.unicast = n :=
      frameCounter_of_near (show n - s.unicast.downLinkCounter < 16384 from hnear) hlow
    have hvalid : frame.micRx = dataMic s frame s.unicast := by
      rw [dataMic, hcounter]
      exact hmic
    have hrepeated : repeated frame s.unicast = true ↔ n = s.DownLinkCounter ∧ n ≠ 0 := by
      have hlast : s.unicast.downLinkCounter = s.DownLinkCounter := rfl
      simp only [repeated, hcounter, hlast, Bool.and_eq_true, decide_eq_true_eq, bne_iff_ne]
      constructor
      · intro ⟨hsame, hne⟩
        exact ⟨hsame.symm, hsame ▸ hne⟩
      · intro ⟨hsame, hne⟩
        exact ⟨hsame.symm, hsame ▸ hne⟩
    have hconfirmed : frame.macHdr = FRAME_TYPE_DATA_CONFIRMED_DOWN →
        ¬ frame.macHdr = FRAME_TYPE_DATA_UNCONFIRMED_DOWN := by
      intro h
      rw [h]
      decide
    refine ⟨t, ht, ?_⟩
    change _ ∧ t.rxStatus = _
    cases outcome_OnRadioRxDone htype hdest hvalid ht with
    | lost hlost => exact absurd hlost (UInt16.not_le.mpr hgap)
    | duplicate _ hdup hkind hcore hstatus =>
      have hunconfirmed : frame.macHdr = FRAME_TYPE_DATA_UNCONFIRMED_DOWN :=
        htype.resolve_left (hkind.resolve_left Bool.false_ne_true)
      have hsame := (congrArg Mac.DownLinkCounter hcore :)
      rw [hstatus, if_pos ⟨hunconfirmed, hrepeated.mp hdup⟩]
      refine ⟨?_, rfl⟩
      rw [(hrepeated.mp hdup).1]
      exact hsame
    | accepted _ hnew hmoved hstatus =>
      rw [hstatus, if_neg]
      · exact ⟨(hmoved rfl).trans hcounter, rfl⟩
      · intro ⟨hunconfirmed, hdup⟩
        exact hconfirmed (hnew (hrepeated.mpr hdup)).2 hunconfirmed
  · intro hfar
    refine ⟨t, ht, ?_⟩
    rw [OnRadioRxDone_of_isData htype] at ht
    have hcore := (refused_beginReception s rssi snr).core
    have hdata := (downlink_beginReception s rssi snr).2
    generalize beginReception s rssi snr = u at hcore hdata ht
    have hlast : u.DownLinkCounter = s.DownLinkCounter := (congrArg Mac.DownLinkCounter hcore :)
    obtain hkept | htaken := downlink_receiveData htype ht hdata
    · exact (congrArg Prod.fst hkept).trans hlast
    · have hgap := htaken.authentic.2.2.1
      rw [sequenceCounterDiff, Mac.unicast, hlast] at hgap
      exact absurd hfar (UInt16.not_le.mpr hgap)

/-- The counter goes on at 0 after 2^32 - 1. -/
theorem DownLinkCounter_exact_wrap :
    ∃ t, OnRadioRxDone { Mac.personalised Env.plain with DownLinkCounter := 0xFFFFFFFF }
        (dataFrame 0) 0 0 = some t ∧ t.DownLinkCounter = 0 ∧
      t.McpsIndication.Status = LORAMAC_EVENT_INFO_STATUS_OK := by
  obtain ⟨t, ht, hcounter, hstatus⟩ := (@DownLinkCounter_exact
    { Mac.personalised Env.plain with DownLinkCounter := 0xFFFFFFFF } (dataFrame 0) 0 0 (.inr rfl)
    rfl).1 0 (by decide) rfl rfl
  exact ⟨t, ht, hcounter, hstatus⟩

/-- The last frame once more, with its own counter and a MIC for it, is not accepted. -/
theorem not_accepted_of_repetition :
    ∃ t, (dataFrame 1).IsData ∧ (dataFrame 1).address = (Mac.received Env.plain).LoRaMacDevAddr ∧
      (1 : UInt32) - (Mac.received Env.plain).DownLinkCounter < 16384 ∧
      (dataFrame 1).sequenceCounter = (1 : UInt32).toUInt16 ∧
      (dataFrame 1).micRx = Env.plain.LoRaMacComputeMic
        ((dataFrame 1).payload.read 0 (micLength (dataFrame 1).size))
        (Mac.received Env.plain).LoRaMacNwkSKey (dataFrame 1).address DOWN_LINK 1 ∧
      OnRadioRxDone (Mac.received Env.plain) (dataFrame 1) 0 0 = some t ∧
      t.McpsIndication.Status = LORAMAC_EVENT_INFO_STATUS_DOWNLINK_REPEATED :=
  ⟨_, .inr rfl, rfl, by decide, rfl, rfl, rfl, rfl⟩

end loranode.mac
