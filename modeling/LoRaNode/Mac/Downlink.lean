import LoRaNode.Mac.Cycle

namespace loranode.mac

open LoRaMacStatus_t LoRaMacFrameType_t LoRaMacEventInfoStatus_t

/-- The counter of the data that an indication delivers, if these are for the node itself. -/
def McpsIndication_t.delivery (ind : McpsIndication_t) : Option UInt32 :=
  if ind.Status = LORAMAC_EVENT_INFO_STATUS_OK ∧ ind.RxData = true ∧
      ind.McpsIndication ≠ .MCPS_MULTICAST then
    some ind.DownLinkCounter
  else none

theorem McpsIndication_t.delivery_of_rxData {ind : McpsIndication_t} (h : ind.RxData = false) :
    ind.delivery = none := by
  unfold McpsIndication_t.delivery
  rw [if_neg]
  rintro ⟨-, hdata, -⟩
  exact absurd (h.symm.trans hdata) (by decide)

theorem McpsIndication_t.delivery_of_status {ind : McpsIndication_t}
    (h : ind.Status ≠ LORAMAC_EVENT_INFO_STATUS_OK) : ind.delivery = none := by
  unfold McpsIndication_t.delivery
  rw [if_neg]
  rintro ⟨hok, -⟩
  exact h hok

/-- The counters of the data that a log delivers. -/
def deliveredCounters (log : List Action) : List UInt32 :=
  log.filterMap fun
    | .MacMcpsIndication ind _ => ind.delivery
    | _ => none

/-- `DownLinkCounter`, and the counter of the data that the next indication delivers. -/
def Mac.downlink (s : Mac) : UInt32 × Option UInt32 := (s.DownLinkCounter, s.McpsIndication.delivery)

theorem Light.downlink {s t : Mac} (h : Light s t) : t.downlink = s.downlink :=
  (congrArg Mac.downlink h.quiet :)

theorem downlink_reopenWindow2 (s : Mac) : (reopenWindow2 s).downlink = s.downlink := by
  unfold reopenWindow2
  split
  · exact (light_OnRxWindow2TimerEvent s).downlink
  · rfl

/-- A frame that is refused is not delivered. -/
theorem downlink_abortReception (s : Mac) {Status : LoRaMacEventInfoStatus_t}
    (h : Status ≠ LORAMAC_EVENT_INFO_STATUS_OK) :
    (abortReception s Status).downlink = (s.DownLinkCounter, none) := by
  have hack (t : Mac) :
      (if t.NodeAckRequested then OnAckTimeoutTimerEvent t else t).downlink = t.downlink := by
    split
    · exact (light_OnAckTimeoutTimerEvent t).downlink
    · rfl
  refine (downlink_reopenWindow2 _).trans ((hack _).trans ?_)
  exact congrArg _ (McpsIndication_t.delivery_of_status h)

theorem downlink_endReception (s : Mac) : (endReception s).downlink = s.downlink :=
  downlink_reopenWindow2 s

theorem downlink_beginReception (s : Mac) (rssi snr : Int) :
    (beginReception s rssi snr).downlink = (s.DownLinkCounter, none) ∧
      (beginReception s rssi snr).McpsIndication.RxData = false := by
  unfold beginReception Mac.downlink
  dsimp only
  split
  · exact ⟨congrArg _ (McpsIndication_t.delivery_of_rxData rfl), rfl⟩
  · exact ⟨congrArg _ (McpsIndication_t.delivery_of_rxData rfl), rfl⟩

namespace RxFrame

variable (frame : RxFrame)

/-- Where the port is, if there is one. -/
def portIndex : Nat := 8 + frame.fCtrl.FOptsLen

/-- The frame has a payload for the upper layer. -/
def HasData : Prop :=
  frame.portIndex + 4 < frame.size.toNat ∧ frame.payload frame.portIndex ≠ 0

instance decidableHasData : Decidable frame.HasData := inferInstanceAs (Decidable (_ ∧ _))

end RxFrame

/-- The payload of a frame is delivered unless its indication is to be skipped. -/
theorem downlink_receivePayload {s t : Mac} {frame : RxFrame} {dest : Destination} {skip skip' : Bool}
    {snr : Int} (h : receivePayload s frame dest skip snr = some (skip', t))
    (hdata : s.McpsIndication.RxData = false) :
    t.DownLinkCounter = s.DownLinkCounter ∧ (t.McpsIndication.delivery = none ∨
      (skip = false ∧ frame.HasData) ∧
        t.McpsIndication.delivery = { s.McpsIndication with RxData := true }.delivery) := by
  have hcommands {u v : Mac} {payload : Mem} {macIndex commandsSize snr : UInt8}
      (h : ProcessMacCommands u payload macIndex commandsSize snr = some v) :
      v.DownLinkCounter = u.DownLinkCounter ∧ v.McpsIndication = u.McpsIndication :=
    ⟨(congrArg Mac.DownLinkCounter (uncommanded_ProcessMacCommands h) :),
      (congrArg Mac.McpsIndication (uncommanded_ProcessMacCommands h) :)⟩
  have hFOpts {u v : Mac} (h : processFOpts u frame snr = some v) :
      v.DownLinkCounter = u.DownLinkCounter ∧ v.McpsIndication = u.McpsIndication := by
    unfold processFOpts at h
    split at h
    · exact hcommands h
    · cases h
      exact ⟨rfl, rfl⟩
  unfold receivePayload at h
  dsimp only at h
  split at h
  · next hsize =>
    split at h
    · split at h
      · obtain ⟨u, hu, hut⟩ := Option.map_eq_some_iff.mp h
        cases hut
        obtain ⟨hcounter, hind⟩ := hcommands hu
        refine ⟨hcounter, .inl (McpsIndication_t.delivery_of_rxData ?_)⟩
        rw [hind]
        exact hdata
      · cases h
        exact ⟨rfl, .inl (McpsIndication_t.delivery_of_rxData hdata)⟩
    · next hport =>
      obtain ⟨u, hu, hut⟩ := Option.map_eq_some_iff.mp h
      obtain ⟨hcounter, hind⟩ := hFOpts hu
      split at hut
      · cases hut
        refine ⟨hcounter, .inl (McpsIndication_t.delivery_of_rxData ?_)⟩
        change u.McpsIndication.RxData = false
        rw [hind]
        exact hdata
      · next hskip =>
        cases hut
        refine ⟨hcounter, .inr ⟨⟨Bool.eq_false_iff.mpr hskip, hsize, hport⟩, ?_⟩⟩
        dsimp only
        rw [hind]
        rfl
  · obtain ⟨u, hu, hut⟩ := Option.map_eq_some_iff.mp h
    cases hut
    obtain ⟨hcounter, hind⟩ := hFOpts hu
    refine ⟨hcounter, .inl (McpsIndication_t.delivery_of_rxData ?_)⟩
    rw [hind]
    exact hdata

theorem downlink_deliverData {s t : Mac} {frame : RxFrame} {dest : Destination} {skip : Bool}
    {snr : Int} (h : deliverData s frame dest skip snr = some t)
    (hdata : s.McpsIndication.RxData = false) :
    t.DownLinkCounter = s.DownLinkCounter ∧ (t.McpsIndication.delivery = none ∨
      (skip = false ∧ frame.HasData) ∧
        t.McpsIndication.delivery = { s.McpsIndication with RxData := true }.delivery) := by
  have hack : (receiveAck s frame.fCtrl.Ack).DownLinkCounter = s.DownLinkCounter ∧
      ∃ ack, (receiveAck s frame.fCtrl.Ack).McpsIndication =
        { s.McpsIndication with AckReceived := ack } := by
    unfold receiveAck
    dsimp only
    split <;> exact ⟨rfl, _, rfl⟩
  obtain ⟨hcounter, ack, hind⟩ := hack
  obtain ⟨⟨skip', u⟩, hu, rfl⟩ := Option.map_eq_some_iff.mp h
  have hpayload := downlink_receivePayload hu (by rw [hind]; exact hdata)
  rw [hcounter, hind] at hpayload
  have hend : (endReception (if skip' then u
      else { u with LoRaMacFlags := { u.LoRaMacFlags with McpsInd := true } })).downlink =
      u.downlink := by
    rw [downlink_endReception]
    split <;> rfl
  have hend' := Prod.mk.inj hend
  exact ⟨hend'.1.trans hpayload.1, by rw [hend'.2]; exact hpayload.2⟩

/-- The node itself, as the destination of a frame. -/
def Mac.unicast (s : Mac) : Destination :=
  ⟨false, s.LoRaMacNwkSKey, s.LoRaMacAppSKey, s.DownLinkCounter⟩

/-- The 32-bit counter of a frame for the node. -/
def Mac.counterOf (s : Mac) (frame : RxFrame) : UInt32 := frameCounter frame s.unicast

/-- A data frame for the node has a valid MIC, and its counter is not too far ahead. -/
def Authentic (s : Mac) (frame : RxFrame) : Prop :=
  (frame.macHdr = FRAME_TYPE_DATA_CONFIRMED_DOWN ∨
      frame.macHdr = FRAME_TYPE_DATA_UNCONFIRMED_DOWN) ∧
    frame.address = s.LoRaMacDevAddr ∧ sequenceCounterDiff frame s.unicast < MAX_FCNT_GAP ∧
    frame.micRx = dataMic s frame s.unicast

/-- A frame is taken as data for the node: its counter becomes the last one, and what it carries may
be delivered unless it is a repetition. -/
structure Taken (s : Mac) (frame : RxFrame) (t : Mac) : Prop where
  authentic : Authentic s frame
  counter : t.DownLinkCounter = s.counterOf frame
  delivery : t.McpsIndication.delivery = none ∨
    (repeated frame s.unicast = false ∧ frame.HasData) ∧
      t.McpsIndication.delivery = some (s.counterOf frame)

/-- What is not for a multicast group is for the node itself. -/
theorem destination_of_unicast {s : Mac} {address : UInt32} {dest : Destination}
    (h : destination s address = some dest) (hmulticast : dest.multicast = false) :
    address = s.LoRaMacDevAddr ∧ dest = s.unicast := by
  unfold destination at h
  split at h
  · next haddress => exact ⟨haddress, (Option.some.inj h).symm⟩
  · obtain ⟨group, -, rfl⟩ := Option.map_eq_some_iff.mp h
    cases hmulticast

theorem downlink_receiveUnicast {s t : Mac} {frame : RxFrame} {snr : Int}
    (h : receiveUnicast (acceptFrame s frame s.unicast) frame s.unicast snr = some t)
    (hdata : s.McpsIndication.RxData = false) :
    t.DownLinkCounter = s.counterOf frame ∧ (t.McpsIndication.delivery = none ∨
      (repeated frame s.unicast = false ∧ frame.HasData) ∧
        t.McpsIndication.delivery = some (s.counterOf frame)) := by
  unfold receiveUnicast at h
  dsimp only at h
  split at h
  · exact downlink_deliverData h hdata
  · split at h
    · next hrepeated =>
      cases h
      have habort := Prod.mk.inj (downlink_abortReception { acceptFrame s frame s.unicast with
        SrvAckRequested := false
        McpsIndication := { (acceptFrame s frame s.unicast).McpsIndication with
          McpsIndication := .MCPS_UNCONFIRMED } }
        (show LORAMAC_EVENT_INFO_STATUS_DOWNLINK_REPEATED ≠ LORAMAC_EVENT_INFO_STATUS_OK by decide))
      refine ⟨habort.1.trans ?_, .inl habort.2⟩
      unfold repeated at hrepeated
      rw [Bool.and_eq_true, decide_eq_true_eq] at hrepeated
      exact hrepeated.1
    · next hrepeated =>
      obtain ⟨hcounter, hdelivery⟩ := downlink_deliverData h hdata
      exact ⟨hcounter, hdelivery.imp_right fun hd =>
        ⟨⟨Bool.eq_false_iff.mpr hrepeated, hd.1.2⟩, hd.2⟩⟩

/-- A multicast frame is not for the node itself. -/
theorem downlink_receiveMulticast {s t : Mac} {frame : RxFrame} {dest : Destination} {snr : Int}
    (h : receiveMulticast s frame dest snr = some t) (hdata : s.McpsIndication.RxData = false) :
    t.downlink = (s.DownLinkCounter, none) := by
  unfold receiveMulticast at h
  dsimp only at h
  split at h
  · cases h
    exact downlink_abortReception _ (by decide)
  · obtain ⟨hcounter, hdelivery⟩ := downlink_deliverData h hdata
    refine Prod.ext hcounter ?_
    rcases hdelivery with hnone | ⟨-, hsome⟩
    · exact hnone
    · refine hsome.trans ?_
      unfold McpsIndication_t.delivery
      rw [if_neg]
      rintro ⟨-, -, hkind⟩
      exact hkind rfl

theorem downlink_receiveData {s t : Mac} {frame : RxFrame} {snr : Int}
    (htype : frame.macHdr = FRAME_TYPE_DATA_CONFIRMED_DOWN ∨
      frame.macHdr = FRAME_TYPE_DATA_UNCONFIRMED_DOWN)
    (h : receiveData s frame snr = some t) (hdata : s.McpsIndication.RxData = false) :
    t.downlink = (s.DownLinkCounter, none) ∨ Taken s frame t := by
  unfold receiveData at h
  split at h
  · cases h
    exact .inl (downlink_abortReception s (by decide))
  · next dest hdest =>
    split at h
    · cases h
      exact .inl (downlink_abortReception _ (by decide))
    · next hgap =>
      split at h
      · next hmic =>
        split at h
        · have hmulticast := downlink_receiveMulticast h hdata
          exact .inl hmulticast
        · next hmulticast =>
          obtain ⟨haddress, rfl⟩ :=
            destination_of_unicast hdest (Bool.eq_false_iff.mpr hmulticast)
          obtain ⟨hcounter, hdelivery⟩ := downlink_receiveUnicast h hdata
          exact .inr ⟨⟨htype, haddress, UInt16.not_le.mp hgap, hmic⟩, hcounter, hdelivery⟩
      · cases h
        exact .inl (downlink_abortReception s (by decide))

/-- What a frame does to `DownLinkCounter` and to the next indication, in a session. -/
theorem downlink_OnRadioRxDone {s t : Mac} {frame : RxFrame} {rssi snr : Int}
    (h : OnRadioRxDone s frame rssi snr = some t) (hjoined : s.IsLoRaMacNetworkJoined = true) :
    t.downlink = (s.DownLinkCounter, none) ∨ Taken s frame t := by
  obtain ⟨hbegin, hdata⟩ := downlink_beginReception s rssi snr
  have hcore := (refused_beginReception s rssi snr).core
  generalize hu : beginReception s rssi snr = u at *
  have hjoined' : u.IsLoRaMacNetworkJoined = true :=
    (congrArg Mac.IsLoRaMacNetworkJoined hcore :).trans hjoined
  have hunicast : u.unicast = s.unicast := (congrArg Mac.unicast hcore :)
  have hcounter : u.DownLinkCounter = s.DownLinkCounter := (congrArg Mac.DownLinkCounter hcore :)
  have haddress : u.LoRaMacDevAddr = s.LoRaMacDevAddr := (congrArg Mac.LoRaMacDevAddr hcore :)
  have hmic (dest : Destination) : dataMic u frame dest = dataMic s frame dest :=
    dataMic_eq_of_core_eq hcore frame dest
  have hreceive (htype : frame.macHdr = FRAME_TYPE_DATA_CONFIRMED_DOWN ∨
      frame.macHdr = FRAME_TYPE_DATA_UNCONFIRMED_DOWN) (h : receiveData u frame snr = some t) :
      t.downlink = (s.DownLinkCounter, none) ∨ Taken s frame t := by
    rw [← hcounter]
    refine (downlink_receiveData htype h hdata).imp_right fun htaken => ?_
    obtain ⟨⟨-, hdevice, hgap, hvalid⟩, hcount, hdelivery⟩ := htaken
    unfold Mac.counterOf at hcount hdelivery
    rw [hunicast] at hgap hvalid hcount hdelivery
    rw [haddress] at hdevice
    rw [hmic] at hvalid
    exact ⟨⟨htype, hdevice, hgap, hvalid⟩, hcount, hdelivery⟩
  unfold OnRadioRxDone at h
  dsimp only at h
  rw [hu] at h
  cases htype : frame.macHdr <;> rw [htype] at h <;> dsimp only at h
  case FRAME_TYPE_DATA_CONFIRMED_DOWN => exact hreceive (.inl htype) h
  case FRAME_TYPE_DATA_UNCONFIRMED_DOWN => exact hreceive (.inr htype) h
  case FRAME_TYPE_JOIN_ACCEPT =>
    cases h
    refine .inl ((downlink_endReception _).trans ?_)
    unfold receiveJoinAccept
    rw [if_pos hjoined']
    exact hbegin
  case FRAME_TYPE_PROPRIETARY =>
    cases h
    refine .inl ((downlink_endReception _).trans (Prod.ext hcounter ?_))
    exact McpsIndication_t.delivery_of_rxData hdata
  all_goals
    cases h
    refine .inl ((downlink_endReception _).trans ?_)
    rw [← hcounter]
    exact downlink_abortReception u (by decide)

theorem deliveredCounters_snoc_indication (log : List Action) (ind : McpsIndication_t)
    (bytes : List UInt8) :
    deliveredCounters (log ++ [.MacMcpsIndication ind bytes]) =
      deliveredCounters log ++ ind.delivery.toList := by
  unfold deliveredCounters
  rw [List.filterMap_append]
  rfl

theorem deliveredCounters_append_sent (log : List Action) (sent : List Transmission) :
    deliveredCounters (log ++ sent.map .Send) = deliveredCounters log := by
  unfold deliveredCounters
  rw [List.filterMap_append, List.filterMap_map]
  have hnone : List.filterMap ((fun
      | Action.MacMcpsIndication ind _ => ind.delivery
      | _ => none) ∘ Action.Send) sent = [] := List.filterMap_eq_nil_iff.mpr fun _ _ => rfl
  rw [hnone, List.append_nil]

/-- What the delivery of data depends on, apart from the log. -/
structure Reception where
  IsLoRaMacNetworkJoined : Bool
  IsRxWindowsEnabled : Bool
  downlink : UInt32 × Option UInt32
  McpsInd : Bool
  inside : Option Primitive

def Mac.reception (s : Mac) : Reception :=
  ⟨s.IsLoRaMacNetworkJoined, s.IsRxWindowsEnabled, s.downlink, s.LoRaMacFlags.McpsInd, s.inside⟩

/-- No counter was delivered twice, none beyond `DownLinkCounter`, and the next one is a new
one. -/
structure Delivered (s : Mac) : Prop where
  joined : s.IsLoRaMacNetworkJoined = true
  windows : s.IsRxWindowsEnabled = true
  nodup : (deliveredCounters s.board.log).Nodup
  le : ∀ c ∈ deliveredCounters s.board.log, c ≤ s.DownLinkCounter
  next : s.LoRaMacFlags.McpsInd = true → s.inside ≠ some .MacMcpsIndication →
    ∀ c ∈ s.McpsIndication.delivery,
      c ≤ s.DownLinkCounter ∧ c ∉ deliveredCounters s.board.log

/-- The attributes that make a session: setting one of them starts another one. -/
def MibSet.ofSession : MibSet → Bool
  | .MIB_NETWORK_JOINED _ | .MIB_DEV_ADDR _ | .MIB_NWK_SKEY _ | .MIB_APP_SKEY _
  | .MIB_DOWNLINK_COUNTER _ => true
  | _ => false

/-- What an event of a session must meet. It does not start another session. The counter of an
authentic frame does not overflow, and if it is 0 and the frame carries data, no data were
delivered with the counter 0 before. -/
def NotReplayed (s : Mac) : Event → Prop
  | .request (.mlme (.Join ..)) => False
  | .request (.mib r) => r.ofSession = false
  | .radio (.RxDone frame _ _ _) => Authentic s frame →
    s.DownLinkCounter.toNat + (sequenceCounterDiff frame s.unicast).toNat < 2 ^ 32 ∧
      (s.counterOf frame = 0 → frame.HasData → 0 ∉ deliveredCounters s.board.log)
  | _ => True

theorem Delivered.congr {s t : Mac} (hs : Delivered s) (h : t.reception = s.reception)
    (hlog : deliveredCounters t.board.log = deliveredCounters s.board.log) : Delivered t := by
  have hcounter : t.DownLinkCounter = s.DownLinkCounter := (congrArg (·.downlink.1) h :)
  have hdelivery : t.McpsIndication.delivery = s.McpsIndication.delivery :=
    (congrArg (·.downlink.2) h :)
  have hind : t.LoRaMacFlags.McpsInd = s.LoRaMacFlags.McpsInd := (congrArg (·.McpsInd) h :)
  have hinside : t.inside = s.inside := (congrArg (·.inside) h :)
  refine ⟨(congrArg (·.IsLoRaMacNetworkJoined) h :).trans hs.joined,
    (congrArg (·.IsRxWindowsEnabled) h :).trans hs.windows, ?_, ?_, ?_⟩
  · rw [hlog]
    exact hs.nodup
  · rw [hlog, hcounter]
    exact hs.le
  · rw [hind, hinside, hdelivery, hcounter, hlog]
    exact hs.next

/-- The difference of the counters is below 2^15, so that an authentic frame brings the counter
that it stands for. -/
theorem counterOf_toNat {s : Mac} {frame : RxFrame} (h : Authentic s frame)
    (hbound : s.DownLinkCounter.toNat + (sequenceCounterDiff frame s.unicast).toNat < 2 ^ 32) :
    (s.counterOf frame).toNat =
      s.DownLinkCounter.toNat + (sequenceCounterDiff frame s.unicast).toNat := by
  have hsmall : sequenceCounterDiff frame s.unicast < 0x8000 :=
    UInt16.lt_trans h.2.2.1 (by decide)
  unfold Mac.counterOf frameCounter
  dsimp only
  rw [if_pos hsmall, UInt32.toNat_add, UInt16.toNat_toUInt32]
  exact Nat.mod_eq_of_lt hbound

/-- A frame that is taken delivers a new counter, if any. -/
theorem Delivered.of_taken {s t : Mac} {frame : RxFrame} (hs : Delivered s)
    (h : Taken s frame t) (hjoined : t.IsLoRaMacNetworkJoined = true)
    (hwindows : t.IsRxWindowsEnabled = true) (hlog : t.board.log = s.board.log)
    (hbound : s.DownLinkCounter.toNat + (sequenceCounterDiff frame s.unicast).toNat < 2 ^ 32)
    (hzero : s.counterOf frame = 0 → frame.HasData → 0 ∉ deliveredCounters s.board.log) :
    Delivered t ∧ s.DownLinkCounter ≤ t.DownLinkCounter := by
  have hcounter := counterOf_toNat h.authentic hbound
  have hle : s.DownLinkCounter ≤ t.DownLinkCounter := by
    rw [h.counter, UInt32.le_iff_toNat_le, hcounter]
    exact Nat.le_add_right _ _
  refine ⟨⟨hjoined, hwindows, ?_, ?_, ?_⟩, hle⟩
  · rw [hlog]
    exact hs.nodup
  · rw [hlog]
    exact fun c hc => UInt32.le_trans (hs.le c hc) hle
  · intro _ _ c hc
    rcases h.delivery with hnone | ⟨⟨hrepeated, hhas⟩, hsome⟩
    · rw [hnone] at hc
      cases hc
    · rw [hsome] at hc
      obtain rfl := Option.mem_some.mp hc
      rw [h.counter, hlog]
      refine ⟨UInt32.le_refl _, fun hmem => ?_⟩
      -- the counter was delivered before, so that it is the last one, and it is not 0
      have hlast : s.DownLinkCounter = s.counterOf frame := by
        have hmax := UInt32.le_iff_toNat_le.mp (hs.le _ hmem)
        exact UInt32.toNat_inj.mp (by omega)
      unfold repeated at hrepeated
      change (decide (s.DownLinkCounter = s.counterOf frame) && s.DownLinkCounter != 0) = false
        at hrepeated
      rw [decide_eq_true hlast, Bool.true_and, bne_eq_false_iff_eq] at hrepeated
      have hcount : s.counterOf frame = 0 := hlast.symm.trans hrepeated
      rw [hcount] at hmem
      exact hzero hcount hhas hmem

/-- A step that takes no frame. -/
def Untaken (s t : Mac) : Prop := Delivered t ∧ t.DownLinkCounter = s.DownLinkCounter

theorem Delivered.untaken {s t : Mac} (hs : Delivered s) (h : t.reception = s.reception)
    (hlog : deliveredCounters t.board.log = deliveredCounters s.board.log) : Untaken s t :=
  ⟨hs.congr h hlog, (congrArg (·.downlink.1) h :)⟩

theorem Light.untaken {s t : Mac} (h : Light s t) (hs : Delivered s) : Untaken s t :=
  hs.untaken (congrArg Mac.reception h.quiet :)
    (congrArg (fun s : Mac => deliveredCounters s.board.log) h.quiet :)

theorem untaken_of_uncommanded {s t : Mac} (h : t.uncommanded = s.uncommanded)
    (hs : Delivered s) : Untaken s t :=
  hs.untaken (congrArg Mac.reception h :)
    (congrArg (fun s : Mac => deliveredCounters s.board.log) h :)

/-- The indication delivers a new counter. -/
theorem delivered_indicate {s : Mac} (hs : Delivered s)
    (hinside : s.inside ≠ some .MacMcpsIndication) : Untaken s (indicate s) := by
  unfold indicate
  split
  · next hind =>
    have hlog := deliveredCounters_snoc_indication s.board.log s.McpsIndication
      (if s.McpsIndication.hasBuffer = true then
        s.LoRaMacRxPayload.read 0 s.McpsIndication.BufferSize.toNat else [])
    have hnext := hs.next hind hinside
    refine ⟨⟨hs.joined, hs.windows, ?_, ?_, fun _ h => absurd rfl h⟩, rfl⟩
    · refine (congrArg List.Nodup hlog).mpr (List.nodup_append.mpr ⟨hs.nodup, ?_, ?_⟩)
      · cases s.McpsIndication.delivery with
        | none => exact List.nodup_nil
        | some c => exact List.nodup_cons.mpr ⟨List.not_mem_nil, List.nodup_nil⟩
      · rintro c hc _ hc' rfl
        exact (hnext c (Option.mem_toList.mp hc')).2 hc
    · intro c hc
      have hc : c ∈ deliveredCounters s.board.log ++ s.McpsIndication.delivery.toList := hlog ▸ hc
      rcases List.mem_append.mp hc with hc | hc
      · exact hs.le c hc
      · exact (hnext c (Option.mem_toList.mp hc)).1
  · exact ⟨hs, rfl⟩

/-- The upper layer is called for a confirm, or has returned. -/
theorem Delivered.enter {s t : Mac} (hs : Delivered s)
    (hinside : s.inside ≠ some .MacMcpsIndication)
    (h : t.reception = { s.reception with inside := t.inside })
    (hlog : deliveredCounters t.board.log = deliveredCounters s.board.log) : Untaken s t := by
  have ht : Untaken s { t with inside := s.inside } := by
    refine hs.untaken ?_ hlog
    exact congrArg (fun r : Reception => { r with inside := s.inside }) h
  exact ⟨⟨ht.1.joined, ht.1.windows, ht.1.nodup, ht.1.le, fun hind _ => ht.1.next hind hinside⟩,
    ht.2⟩

theorem delivered_endConfirms {s : Mac} (hs : Delivered s)
    (hinside : s.inside ≠ some .MacMcpsIndication) : Untaken s (endConfirms s) :=
  delivered_indicate (s := { s with LoRaMacFlags := { s.LoRaMacFlags with MacDone := false } })
    (hs.congr rfl rfl) hinside

theorem deliveredCounters_snoc {log : List Action} {a : Action}
    (ha : ∀ ind bytes, a ≠ .MacMcpsIndication ind bytes) :
    deliveredCounters (log ++ [a]) = deliveredCounters log := by
  unfold deliveredCounters
  rw [List.filterMap_append]
  cases a with
  | MacMcpsIndication ind bytes => exact absurd rfl (ha ind bytes)
  | _ => exact List.append_nil _

theorem delivered_confirmMlme {s : Mac} (hs : Delivered s)
    (hinside : s.inside ≠ some .MacMcpsIndication) : Untaken s (confirmMlme s) := by
  unfold confirmMlme
  split
  · exact hs.enter hinside rfl (deliveredCounters_snoc fun _ _ h => by cases h)
  · exact delivered_endConfirms hs hinside

theorem delivered_confirmRequests {s : Mac} (hs : Delivered s)
    (hinside : s.inside ≠ some .MacMcpsIndication) : Untaken s (confirmRequests s) := by
  unfold confirmRequests
  split
  · unfold confirmMcps
    split
    · exact hs.enter hinside rfl (deliveredCounters_snoc fun _ _ h => by cases h)
    · exact delivered_confirmMlme hs hinside
  · have hs : Delivered { s with
        MacStateCheckTimer :=
          TimerStart (TimerSetValue s.MacStateCheckTimer MAC_STATE_CHECK_TIMEOUT) } :=
      hs.congr rfl rfl
    exact delivered_indicate hs hinside

theorem delivered_returnFrom {s : Mac} {p : Primitive} (hs : Delivered s)
    (hinside : s.inside = some p) : Untaken s (returnFrom s p) := by
  cases p with
  | MacMcpsConfirm =>
    have hother : s.inside ≠ some .MacMcpsIndication := by
      rw [hinside]
      decide
    have hreturned := hs.enter (t := { s with
      inside := none, LoRaMacFlags := { s.LoRaMacFlags with McpsReq := false } }) hother rfl rfl
    exact delivered_confirmMlme hreturned.1 nofun
  | MacMlmeConfirm =>
    have hother : s.inside ≠ some .MacMcpsIndication := by
      rw [hinside]
      decide
    have hreturned := hs.enter (t := { s with
      inside := none, LoRaMacFlags := { s.LoRaMacFlags with MlmeReq := false } }) hother rfl rfl
    exact delivered_endConfirms hreturned.1 nofun
  | MacMcpsIndication => exact ⟨⟨hs.joined, hs.windows, hs.nodup, hs.le, nofun⟩, rfl⟩

theorem delivered_LoRaMacMcpsRequest {s t : Mac} {r : McpsReq_t} {status : LoRaMacStatus_t}
    (h : LoRaMacMcpsRequest s r = some (status, t)) (hs : Delivered s) : Untaken s t := by
  rcases LoRaMacMcpsRequest_cases h with ⟨-, -, rfl⟩ | ⟨-, ⟨-, hview, -⟩ | ⟨u, v, macHdr, status',
    type, -, hrequested, hsend, hout⟩⟩
  · exact ⟨hs, rfl⟩
  · exact hs.untaken (congrArg Mac.reception hview :)
      (congrArg (fun s : Mac => deliveredCounters s.board.log) hview :)
  · have hu : u.reception = s.reception := (congrArg Mac.reception hrequested.unrequested :)
    have hv : v.reception = u.reception := (congrArg Mac.reception (unsent_Send hsend) :)
    have hulog : u.board.log = s.board.log := (congrArg (·.board.log) hrequested.unrequested :)
    have hlog : deliveredCounters v.board.log = deliveredCounters s.board.log := by
      obtain ⟨sent, hsent⟩ := log_Send hsend
      rw [hsent, deliveredCounters_append_sent, hulog]
    rcases hout with ⟨-, -, rfl⟩ | ⟨-, -, rfl⟩
    · refine hs.untaken (hv.trans hu) ?_
      refine Eq.trans ?_ hlog
      exact deliveredCounters_snoc (a := .Accepted) fun _ _ h => by cases h
    · exact hs.untaken (hv.trans hu) hlog

theorem delivered_LoRaMacMlmeRequest {s t : Mac} {status : LoRaMacStatus_t}
    (h : LoRaMacMlmeRequest s .LinkCheck = some (status, t)) (hs : Delivered s) : Untaken s t := by
  rcases LoRaMacMlmeRequest_cases h with ⟨-, rfl, -⟩ | ⟨-, ⟨-, ⟨_, _, _, hjoin⟩, -⟩ |
    ⟨_, _, _, _, _, hjoin, -⟩ | ⟨-, houtcome⟩⟩
  · exact ⟨hs, rfl⟩
  · cases hjoin
  · cases hjoin
  · have hview := uncommanded_AddMacCommand { s with
        MlmeConfirm := ⟨.MLME_LINK_CHECK, .LORAMAC_EVENT_INFO_STATUS_ERROR, 0, 0, 0⟩
        LoRaMacFlags := { s.LoRaMacFlags with MlmeReq := true } } .MOTE_MAC_LINK_CHECK_REQ 0 0
    generalize AddMacCommand _ _ _ _ = x at houtcome hview
    have hx : x.2.reception = s.reception := (congrArg Mac.reception hview :)
    have hlog : x.2.board.log = s.board.log := (congrArg (·.board.log) hview :)
    have ht : t = (mlmeOutcome x).2 := congrArg Prod.snd houtcome
    have htx : (mlmeOutcome x).2.reception = x.2.reception ∧
        (mlmeOutcome x).2.board.log = x.2.board.log := by
      unfold mlmeOutcome
      split <;> exact ⟨rfl, rfl⟩
    rw [ht]
    refine hs.untaken (htx.1.trans hx) ?_
    rw [htx.2, hlog]

/-- The other attributes have no part in the reception of data. -/
theorem reception_mibSet (s : Mac) {r : MibSet} (hr : r.ofSession = false) :
    (mibSet s r).2.reception = s.reception ∧ (mibSet s r).2.board.log = s.board.log := by
  have hset (valid : Bool) (p : LoRaMacParams_t) : (setParams s valid p).2.reception = s.reception ∧
      (setParams s valid p).2.board.log = s.board.log := by
    unfold setParams
    split <;> exact ⟨rfl, rfl⟩
  cases r with
  | MIB_NETWORK_JOINED | MIB_DEV_ADDR | MIB_NWK_SKEY | MIB_APP_SKEY | MIB_DOWNLINK_COUNTER =>
    cases hr
  | MIB_DEVICE_CLASS Class =>
    cases Class with
    | CLASS_A | CLASS_B => exact ⟨rfl, rfl⟩
    | CLASS_C =>
      have hquiet := (light_OnRxWindow2TimerEvent
        { s with LoRaMacDeviceClass := .CLASS_C, NodeAckRequested := false }).quiet
      exact ⟨(congrArg Mac.reception hquiet :), (congrArg (·.board.log) hquiet :)⟩
  | MIB_CHANNELS_DEFAULT_DATARATE datarate =>
    rw [mibSet]
    split <;> exact ⟨rfl, rfl⟩
  | MIB_ADR | MIB_NET_ID | MIB_PUBLIC_NETWORK | MIB_REPEATER_SUPPORT | MIB_UPLINK_COUNTER
  | MIB_CHANNELS | MIB_MULTICAST_CHANNEL => exact ⟨rfl, rfl⟩
  | _ => exact hset _ _

theorem delivered_request {s t : Mac} {r : Request} (h : request s r = some t)
    (he : NotReplayed s (.request r)) (hs : Delivered s) : Untaken s t := by
  cases r with
  | mcps r =>
    obtain ⟨⟨status, u⟩, hmcps, rfl⟩ := Option.map_eq_some_iff.mp h
    exact delivered_LoRaMacMcpsRequest hmcps hs
  | mlme r =>
    cases r with
    | Join => exact he.elim
    | LinkCheck =>
      obtain ⟨⟨status, u⟩, hmlme, rfl⟩ := Option.map_eq_some_iff.mp h
      exact delivered_LoRaMacMlmeRequest hmlme hs
  | mib r =>
    cases h
    unfold LoRaMacMibSetRequestConfirm
    split
    · exact ⟨hs, rfl⟩
    · obtain ⟨hreception, hlog⟩ := reception_mibSet s he
      exact hs.untaken hreception (congrArg deliveredCounters hlog)
  | channelAdd id params =>
    cases h
    exact untaken_of_uncommanded (uncommanded_LoRaMacChannelAdd s id params) hs
  | channelRemove id =>
    cases h
    exact untaken_of_uncommanded (uncommanded_LoRaMacChannelRemove s id) hs
  | multicastLink group =>
    cases h
    unfold LoRaMacMulticastChannelLink
    split <;> exact hs.untaken rfl rfl
  | multicastUnlink i =>
    cases h
    unfold LoRaMacMulticastChannelUnlink
    split <;> exact hs.untaken rfl rfl

theorem delivered_OnMacStateCheckTimerEvent {s t : Mac} (h : OnMacStateCheckTimerEvent s = some t)
    (hs : Delivered s) (hinside : s.inside = none) : Untaken s t := by
  obtain ⟨u, rfl, hu⟩ := OnMacStateCheckTimerEvent_cases h
  have hsu : u.reception = s.reception ∧
      deliveredCounters u.board.log = deliveredCounters s.board.log := by
    rcases hu with ⟨-, rfl⟩ | ⟨-, hcycle⟩
    · exact ⟨rfl, rfl⟩
    · obtain ⟨confirm, hcycling⟩ := cycling_completeCycle hcycle
      obtain ⟨sent, hsent⟩ := hcycling.log
      refine ⟨(congrArg Mac.reception hcycling.uncycled :), ?_⟩
      rw [hsent, deliveredCounters_append_sent]
      rfl
  have hdelivered := hs.untaken hsu.1 hsu.2
  have hnone : u.inside ≠ some .MacMcpsIndication := by
    rw [show u.inside = s.inside from (congrArg (·.inside) hsu.1 :), hinside]
    nofun
  have hout := delivered_confirmRequests (s := u.unreceived) (hdelivered.1.congr rfl rfl) hnone
  exact ⟨hout.1, hout.2.trans hdelivered.2⟩

theorem delivered_OnTxDelayedTimerEvent {s t : Mac} (h : OnTxDelayedTimerEvent s = some t)
    (hs : Delivered s) : Untaken s t := by
  obtain ⟨u, status, hschedule, hu⟩ := OnTxDelayedTimerEvent_cases h
  have hcycling := cycling_ScheduleTx hschedule
  have hview : u.unprepared = s.undelayed.unprepared := by
    rcases hu with ⟨-, rfl⟩ | ⟨-, rfl⟩
    · rfl
    · exact unprepared_PrepareFrame _ _ _ _ _ _
  have hsu : u.reception = s.reception := (congrArg Mac.reception hview :)
  have hut : t.reception = u.reception := (congrArg Mac.reception hcycling.uncycled :)
  have hulog : u.board.log = s.board.log := (congrArg (·.board.log) hview :)
  refine hs.untaken (hut.trans hsu) ?_
  obtain ⟨sent, hsent⟩ := hcycling.log
  rw [hsent, deliveredCounters_append_sent, hulog]

/-- A step keeps the counters apart. It moves `DownLinkCounter` only forward, and only for an
authentic frame. -/
structure Advancing (s : Mac) (e : Event) (t : Mac) : Prop where
  delivered : Delivered t
  le : s.DownLinkCounter ≤ t.DownLinkCounter
  authentic : t.DownLinkCounter ≠ s.DownLinkCounter →
    ∃ frame rssi snr rxContinuous, e = .radio (.RxDone frame rssi snr rxContinuous) ∧
      Authentic s frame

theorem Untaken.advancing {s t : Mac} (h : Untaken s t) (e : Event) : Advancing s e t := by
  refine ⟨h.1, ?_, fun hne => absurd h.2 hne⟩
  rw [h.2]
  exact UInt32.le_refl _

theorem advancing_rxDone {s t : Mac} {frame : RxFrame} {rssi snr : Int} {rxContinuous : Bool}
    (h : OnRadioRxDone (s.setStatus (rxStatus rxContinuous)) frame rssi snr = some t)
    (he : NotReplayed s (.radio (.RxDone frame rssi snr rxContinuous))) (hs : Delivered s) :
    Advancing s (.radio (.RxDone frame rssi snr rxContinuous)) t := by
  have hreceived := received_OnRadioRxDone h
  have hjoined : t.IsLoRaMacNetworkJoined = true := hreceived.joined hs.joined
  have hwindows : t.IsRxWindowsEnabled = true :=
    (congrArg Mac.IsRxWindowsEnabled hreceived.control :).trans hs.windows
  have hlog : t.board.log = s.board.log := (congrArg (·.board.log) hreceived.control :)
  rcases downlink_OnRadioRxDone h hs.joined with hdownlink | ⟨hauthentic, hcounter, hdelivery⟩
  · obtain ⟨hcounter, hdelivery⟩ := Prod.mk.inj hdownlink
    refine Untaken.advancing (s := s) ⟨⟨hjoined, hwindows, hlog ▸ hs.nodup, ?_, ?_⟩, hcounter⟩ _
    · rw [hlog, hcounter]
      exact hs.le
    · intro _ _ c hc
      rw [hdelivery] at hc
      cases hc
  · have htaken : Taken s frame t := ⟨hauthentic, hcounter, hdelivery⟩
    obtain ⟨hbound, hzero⟩ := he hauthentic
    obtain ⟨hdelivered, hle⟩ := hs.of_taken htaken hjoined hwindows hlog hbound hzero
    exact ⟨hdelivered, hle, fun _ => ⟨frame, rssi, snr, rxContinuous, rfl, hauthentic⟩⟩

theorem advancing_onRadio {s t : Mac} {e : RadioEvent} (h : onRadio s e = some t)
    (he : NotReplayed s (.radio e)) (hs : Delivered s) : Advancing s (.radio e) t := by
  have hstatus (status : RadioState_t) : Delivered (s.setStatus status) := hs.congr rfl rfl
  have hrecord {a : Action} (ha : ∀ ind bytes, a ≠ .MacMcpsIndication ind bytes) :
      Delivered ((s.setStatus .RF_IDLE).record a) := hs.congr rfl (deliveredCounters_snoc ha)
  cases e with
  | TxDone =>
    obtain ⟨u, hu, rfl⟩ := Option.map_eq_some_iff.mp h
    obtain ⟨-, rfl⟩ := radioIrq_eq_some.mp hu
    have hu : Delivered ((s.setStatus .RF_IDLE).record (.TxDone (s.env.clock s.board.reads))) :=
      hrecord fun _ _ h => by cases h
    have hview := (landed_OnRadioTxDone hu.windows).unlanded
    have hout : Untaken s (OnRadioTxDone
        ((s.setStatus .RF_IDLE).record (.TxDone (s.env.clock s.board.reads)))) :=
      hu.untaken (congrArg Mac.reception hview :)
        (congrArg (fun s : Mac => deliveredCounters s.board.log) hview :)
    exact hout.advancing _
  | TxTimeout =>
    obtain ⟨u, hu, rfl⟩ := Option.map_eq_some_iff.mp h
    obtain ⟨-, rfl⟩ := radioIrq_eq_some.mp hu
    have hu : Delivered ((s.setStatus .RF_IDLE).record .TxTimeout) :=
      hrecord fun _ _ h => by cases h
    have hout : Untaken s (OnRadioTxTimeout ((s.setStatus .RF_IDLE).record .TxTimeout)) :=
      (light_OnRadioTxTimeout _).untaken hu
    exact hout.advancing _
  | RxDone frame rssi snr rxContinuous =>
    obtain ⟨u, hu, hut⟩ := Option.bind_eq_some_iff.mp h
    obtain ⟨-, rfl⟩ := radioIrq_eq_some.mp hu
    exact advancing_rxDone hut he hs
  | RxError rxContinuous =>
    obtain ⟨u, hu, rfl⟩ := Option.map_eq_some_iff.mp h
    obtain ⟨-, rfl⟩ := radioIrq_eq_some.mp hu
    have hout : Untaken s (OnRadioRxError (s.setStatus (rxStatus rxContinuous))) :=
      (light_endWindow _ _).untaken (hstatus (rxStatus rxContinuous))
    exact hout.advancing _
  | RxTimeout rxContinuous =>
    obtain ⟨u, hu, rfl⟩ := Option.map_eq_some_iff.mp h
    obtain ⟨-, rfl⟩ := radioIrq_eq_some.mp hu
    have hout : Untaken s (OnRadioRxTimeout (s.setStatus (rxStatus rxContinuous))) :=
      (light_endWindow _ _).untaken (hstatus (rxStatus rxContinuous))
    exact hout.advancing _

theorem advancing_step {s t : Mac} {e : Event} (h : step s e = some t) (he : NotReplayed s e)
    (hs : Delivered s) : Advancing s e t := by
  rcases step_cases h with ⟨r, rfl, hrequest⟩ | ⟨p, rfl, hinside, rfl⟩ | ⟨hinside, hhandle⟩
  · exact (delivered_request hrequest he hs).advancing _
  · exact (delivered_returnFrom hs hinside).advancing _
  · cases e with
    | request r => cases hhandle
    | upperReturn => cases hhandle
    | radio e => exact advancing_onRadio hhandle he hs
    | macStateCheckTimer =>
      have hevent := (onTimer_eq_some.mp hhandle).2
      exact (delivered_OnMacStateCheckTimerEvent hevent hs hinside).advancing _
    | txDelayedTimer =>
      exact (delivered_OnTxDelayedTimerEvent (onTimer_eq_some.mp hhandle).2 hs).advancing _
    | rxWindowTimer1 =>
      cases (onTimer_eq_some.mp hhandle).2
      exact ((light_OnRxWindow1TimerEvent s).untaken hs).advancing _
    | rxWindowTimer2 =>
      cases (onTimer_eq_some.mp hhandle).2
      exact ((light_OnRxWindow2TimerEvent s).untaken hs).advancing _
    | ackTimeoutTimer =>
      cases (onTimer_eq_some.mp hhandle).2
      exact ((light_OnAckTimeoutTimerEvent s).untaken hs).advancing _

/-- The start of a session as its downlinks see it: no data were delivered in it, and none
wait. -/
structure DownlinkStart (s : Mac) : Prop where
  joined : s.IsLoRaMacNetworkJoined = true
  windows : s.IsRxWindowsEnabled = true
  delivered : deliveredCounters s.board.log = []
  mcpsInd : s.LoRaMacFlags.McpsInd = false

theorem DownlinkStart.delivered_start {s : Mac} (hs : DownlinkStart s) : Delivered s := by
  refine ⟨hs.joined, hs.windows, ?_, ?_, fun h => ?_⟩
  · rw [hs.delivered]
    exact List.nodup_nil
  · rw [hs.delivered]
    exact fun c hc => absurd hc List.not_mem_nil
  · exact absurd (hs.mcpsInd.symm.trans h) (by decide)

/-- In every run of such events from the start of a session no counter is delivered twice, and no
step moves `DownLinkCounter` backwards, or at all without an authentic frame. The frames are any
bytes at any time; a counter of 0 is the one value that the test for a repetition leaves out. -/
theorem delivered_of_notReplayed {s t : Mac} {es : List Event} (hs : DownlinkStart s)
    (hrun : Runs NotReplayed s es t) :
    (deliveredCounters t.board.log).Nodup ∧
      ∀ e u, NotReplayed t e → step t e = some u → t.DownLinkCounter ≤ u.DownLinkCounter ∧
        (u.DownLinkCounter ≠ t.DownLinkCounter →
          ∃ frame rssi snr rxContinuous, e = .radio (.RxDone frame rssi snr rxContinuous) ∧
            Authentic t frame) := by
  have ht : Delivered t := hrun.invariant hs.delivered_start
    fun _ _ _ hs he hstep => (advancing_step hstep he hs).delivered
  refine ⟨ht.nodup, fun e u he hstep => ?_⟩
  have hadvancing := advancing_step hstep he ht
  exact ⟨hadvancing.le, hadvancing.authentic⟩

instance (s : Mac) (frame : RxFrame) : Decidable (Authentic s frame) :=
  inferInstanceAs (Decidable (_ ∧ _))

instance (s : Mac) (e : Event) : Decidable (NotReplayed s e) :=
  match e with
  | .request (.mlme (.Join ..)) => .isFalse id
  | .request (.mib r) => inferInstanceAs (Decidable (r.ofSession = false))
  | .radio (.RxDone frame _ _ _) => inferInstanceAs (Decidable (Authentic s frame →
      s.DownLinkCounter.toNat + (sequenceCounterDiff frame s.unicast).toNat < 2 ^ 32 ∧
        (s.counterOf frame = 0 → frame.HasData → 0 ∉ deliveredCounters s.board.log)))
  | .request (.mcps _) | .request (.mlme .LinkCheck) | .request (.channelAdd _ _)
  | .request (.channelRemove _) | .request (.multicastLink _) | .request (.multicastUnlink _)
  | .upperReturn | .radio .TxDone | .radio .TxTimeout | .radio (.RxError _)
  | .radio (.RxTimeout _) | .macStateCheckTimer | .txDelayedTimer | .rxWindowTimer1
  | .rxWindowTimer2 | .ackTimeoutTimer => .isTrue trivial

theorem downlinkStart_personalised (env : Env) : DownlinkStart (Mac.personalised env) :=
  ⟨rfl, rfl, rfl, rfl⟩

/-- A data frame for the node whose address is 1: its counter, port 1, one byte, and a MIC. -/
def dataFrame (FCnt : UInt8) : RxFrame := .ofBytes [0x60, 1, 0, 0, 0, 0, FCnt, 0, 1, 7, 0, 0, 0, 0]

/-- The node sends, and receives a frame in its first window. -/
def sendAndReceive (frame : RxFrame) : List Event :=
  [.request (.mcps (.Unconfirmed 1 none 0 5)), .radio .TxDone, .rxWindowTimer1,
    .radio (.RxDone frame 0 0 false), .macStateCheckTimer, .upperReturn, .upperReturn]

/-- Two frames are delivered, and a repetition of the second is not. -/
theorem delivered_of_notReplayed_dataFrame :
    ∃ t, Runs NotReplayed (Mac.personalised Env.slow)
        (sendAndReceive (dataFrame 0) ++ sendAndReceive (dataFrame 1) ++
          sendAndReceive (dataFrame 1)) t ∧
      deliveredCounters t.board.log = [0, 1] ∧ (deliveredCounters t.board.log).Nodup ∧
      ∀ e u, NotReplayed t e → step t e = some u → t.DownLinkCounter ≤ u.DownLinkCounter ∧
        (u.DownLinkCounter ≠ t.DownLinkCounter →
          ∃ frame rssi snr rxContinuous, e = .radio (.RxDone frame rssi snr rxContinuous) ∧
            Authentic t frame) := by
  obtain ⟨t, hrun, hcounters⟩ := transition.Run.of_after step NotReplayed
    (Mac.personalised Env.slow) (sendAndReceive (dataFrame 0) ++ sendAndReceive (dataFrame 1) ++
      sendAndReceive (dataFrame 1))
    (fun t => deliveredCounters t.board.log = [0, 1]) (by decide +kernel)
  exact ⟨t, hrun, by simpa using hcounters,
    delivered_of_notReplayed (downlinkStart_personalised _) hrun⟩

/-- A frame with the counter 0 is delivered as often as it is received. -/
theorem not_delivered_once_replay :
    ∃ t, Runs (fun _ _ => True) (Mac.personalised Env.slow)
        (sendAndReceive (dataFrame 0) ++ sendAndReceive (dataFrame 0)) t ∧
      ¬ (deliveredCounters t.board.log).Nodup := by
  obtain ⟨t, hrun, ht⟩ := transition.Run.of_after step (fun _ _ => True)
    (Mac.personalised Env.slow) (sendAndReceive (dataFrame 0) ++ sendAndReceive (dataFrame 0))
    (fun t => !decide (deliveredCounters t.board.log).Nodup) (by decide +kernel)
  refine ⟨t, hrun, ?_⟩
  rw [Bool.not_eq_true', decide_eq_false_iff_not] at ht
  exact ht

end loranode.mac
