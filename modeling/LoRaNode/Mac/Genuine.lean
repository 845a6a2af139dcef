import LoRaNode.Mac.Delivery

namespace loranode.mac

open LoRaMacStatus_t LoRaMacFrameType_t LoRaMacEventInfoStatus_t

/-- The data that the indications of a log have delivered. -/
def deliveredData (log : List Action) : List Data :=
  log.filterMap fun
    | .MacMcpsIndication ind bytes => ind.data bytes
    | _ => none

theorem deliveredData_snoc {log : List Action} {a : Action}
    (ha : ∀ ind bytes, a ≠ .MacMcpsIndication ind bytes) :
    deliveredData (log ++ [a]) = deliveredData log := by
  unfold deliveredData
  rw [List.filterMap_append]
  cases a with
  | MacMcpsIndication ind bytes => exact absurd rfl (ha ind bytes)
  | _ => exact List.append_nil _

theorem deliveredData_append_sent (log : List Action) (sent : List Transmission) :
    deliveredData (log ++ sent.map .Send) = deliveredData log := by
  unfold deliveredData
  rw [List.filterMap_append, List.filterMap_map]
  have hnone : List.filterMap ((fun
      | Action.MacMcpsIndication ind bytes => ind.data bytes
      | _ => none) ∘ Action.Send) sent = [] := List.filterMap_eq_nil_iff.mpr fun _ _ => rfl
  rw [hnone, List.append_nil]

/-- The MAC goes on without a reception: it can only hand over the data that wait. -/
structure Hands (s t : Mac) : Prop where
  data : t.data = s.data
  log : deliveredData t.board.log ⊆ deliveredData s.board.log ++ s.data.toList

namespace Hands

theorem of_eq {s t : Mac} (hdata : t.data = s.data)
    (hlog : deliveredData t.board.log = deliveredData s.board.log) : Hands s t := by
  refine ⟨hdata, ?_⟩
  rw [hlog]
  exact List.subset_append_left _ _

theorem refl (s : Mac) : Hands s s := .of_eq rfl rfl

theorem trans {s t u : Mac} (hst : Hands s t) (htu : Hands t u) : Hands s u := by
  refine ⟨htu.data.trans hst.data, ?_⟩
  have hlog := htu.log
  rw [hst.data] at hlog
  exact List.Subset.trans hlog
    (List.append_subset.mpr ⟨hst.log, List.subset_append_right _ _⟩)

end Hands

theorem Light.hands {s t : Mac} (h : Light s t) : Hands s t :=
  .of_eq h.data (congrArg (fun s : Mac => deliveredData s.board.log) h.quiet :)

theorem hands_of_uncommanded {s t : Mac} (h : t.uncommanded = s.uncommanded) : Hands s t :=
  .of_eq (congrArg Mac.data h :) (congrArg (fun s : Mac => deliveredData s.board.log) h :)

theorem Cycling.hands {s t : Mac} (h : Cycling s t) : Hands s t := by
  obtain ⟨sent, hsent⟩ := h.log
  refine .of_eq (congrArg Mac.data h.uncycled :) ?_
  rw [hsent, deliveredData_append_sent]

/-- The upper layer is called for something else than an indication. -/
theorem hands_record (s : Mac) {a : Action} (ha : ∀ ind bytes, a ≠ .MacMcpsIndication ind bytes) :
    Hands s (s.record a) :=
  .of_eq rfl (deliveredData_snoc ha)

theorem hands_indicate (s : Mac) : Hands s (indicate s) := by
  unfold indicate
  split
  · refine ⟨rfl, ?_⟩
    change deliveredData (s.board.log ++ [_]) ⊆ _
    unfold deliveredData
    rw [List.filterMap_append]
    refine List.append_subset.mpr ⟨List.subset_append_left _ _, fun x hx => ?_⟩
    obtain ⟨a, ha, hx⟩ := List.mem_filterMap.mp hx
    cases List.mem_singleton.mp ha
    exact List.mem_append_right _ (Option.mem_toList.mpr hx)
  · exact .refl s

theorem hands_endConfirms (s : Mac) : Hands s (endConfirms s) := by
  have hindicate := hands_indicate
    { s with LoRaMacFlags := { s.LoRaMacFlags with MacDone := false } }
  exact ⟨hindicate.data, hindicate.log⟩

theorem hands_confirmMlme (s : Mac) : Hands s (confirmMlme s) := by
  unfold confirmMlme
  split
  · have hrecord := hands_record s (a := .MacMlmeConfirm s.MlmeConfirm) fun _ _ h => by cases h
    exact ⟨hrecord.data, hrecord.log⟩
  · exact hands_endConfirms s

theorem hands_confirmRequests (s : Mac) : Hands s (confirmRequests s) := by
  unfold confirmRequests
  split
  · unfold confirmMcps
    split
    · have hrecord := hands_record s (a := .MacMcpsConfirm s.McpsConfirm) fun _ _ h => by cases h
      exact ⟨hrecord.data, hrecord.log⟩
    · exact hands_confirmMlme s
  · have hindicate := hands_indicate { s with
      MacStateCheckTimer :=
        TimerStart (TimerSetValue s.MacStateCheckTimer MAC_STATE_CHECK_TIMEOUT) }
    exact ⟨hindicate.data, hindicate.log⟩

theorem hands_returnFrom (s : Mac) (p : Primitive) : Hands s (returnFrom s p) := by
  cases p with
  | MacMcpsConfirm =>
    have hrest := hands_confirmMlme { s with
      inside := none, LoRaMacFlags := { s.LoRaMacFlags with McpsReq := false } }
    exact ⟨hrest.data, hrest.log⟩
  | MacMlmeConfirm =>
    have hrest := hands_endConfirms { s with
      inside := none, LoRaMacFlags := { s.LoRaMacFlags with MlmeReq := false } }
    exact ⟨hrest.data, hrest.log⟩
  | MacMcpsIndication => exact .of_eq rfl rfl

theorem hands_Send {s t : Mac} {macHdr : LoRaMacFrameType_t} {fPort : UInt8} {fBuffer : Option Mem}
    {fBufferSize : UInt16} {status : LoRaMacStatus_t}
    (h : Send s macHdr fPort fBuffer fBufferSize = some (status, t)) : Hands s t := by
  obtain ⟨sent, hsent⟩ := log_Send h
  refine .of_eq (congrArg Mac.data (unsent_Send h) :) ?_
  rw [hsent, deliveredData_append_sent]

theorem hands_LoRaMacMcpsRequest {s t : Mac} {r : McpsReq_t} {status : LoRaMacStatus_t}
    (h : LoRaMacMcpsRequest s r = some (status, t)) : Hands s t := by
  rcases LoRaMacMcpsRequest_cases h with ⟨-, -, rfl⟩ | ⟨-, ⟨-, hview, -⟩ | ⟨u, v, macHdr, status',
    type, -, hrequested, hsend, hout⟩⟩
  · exact .refl _
  · exact .of_eq (congrArg Mac.data hview :)
      (congrArg (fun s : Mac => deliveredData s.board.log) hview :)
  · have hview := hrequested.unrequested
    have hu : Hands s u := .of_eq (congrArg Mac.data hview :)
      (congrArg (fun s : Mac => deliveredData s.board.log) hview :)
    have hv : Hands s v := hu.trans (hands_Send hsend)
    rcases hout with ⟨-, -, rfl⟩ | ⟨-, -, rfl⟩
    · have hrecord := hv.trans (hands_record v (a := .Accepted) fun _ _ h => by cases h)
      exact ⟨hrecord.data, hrecord.log⟩
    · exact ⟨hv.data, hv.log⟩

theorem hands_LoRaMacMlmeRequest {s t : Mac} {r : MlmeReq_t} {status : LoRaMacStatus_t}
    (h : LoRaMacMlmeRequest s r = some (status, t)) : Hands s t := by
  have hout (x : LoRaMacStatus_t × Mac) : Hands x.2 (mlmeOutcome x).2 := by
    unfold mlmeOutcome
    split <;> exact .of_eq rfl rfl
  rcases LoRaMacMlmeRequest_cases h with ⟨-, rfl, -⟩ | ⟨-, ⟨-, -, rfl⟩ |
    ⟨DevEui, AppEui, AppKey, v, status', -, -, hsend, houtcome⟩ | ⟨-, houtcome⟩⟩
  · exact .refl _
  · exact .of_eq rfl rfl
  · have hjoining : Hands s (joining s DevEui AppEui AppKey) := .of_eq rfl rfl
    rw [show t = (mlmeOutcome (status', v)).2 from congrArg Prod.snd houtcome]
    exact (hjoining.trans (hands_Send hsend)).trans (hout (status', v))
  · rw [show t = (mlmeOutcome _).2 from congrArg Prod.snd houtcome]
    refine Hands.trans ?_ (hout _)
    have hadd := hands_of_uncommanded (uncommanded_AddMacCommand { s with
      MlmeConfirm := ⟨.MLME_LINK_CHECK, LORAMAC_EVENT_INFO_STATUS_ERROR, 0, 0, 0⟩
      LoRaMacFlags := { s.LoRaMacFlags with MlmeReq := true } } .MOTE_MAC_LINK_CHECK_REQ 0 0)
    exact ⟨hadd.data, hadd.log⟩

theorem hands_mibSet (s : Mac) (r : MibSet) : Hands s (mibSet s r).2 := by
  have hset (valid : Bool) (p : LoRaMacParams_t) : Hands s (setParams s valid p).2 := by
    unfold setParams
    split <;> exact .of_eq rfl rfl
  cases r with
  | MIB_DEVICE_CLASS Class =>
    cases Class with
    | CLASS_A | CLASS_B => exact .of_eq rfl rfl
    | CLASS_C =>
      have hwindow := (light_OnRxWindow2TimerEvent
        { s with LoRaMacDeviceClass := .CLASS_C, NodeAckRequested := false }).hands
      exact ⟨hwindow.data, hwindow.log⟩
  | MIB_NWK_SKEY key | MIB_APP_SKEY key => cases key <;> exact .of_eq rfl rfl
  | MIB_CHANNELS_DEFAULT_DATARATE datarate =>
    rw [mibSet]
    split <;> exact .of_eq rfl rfl
  | MIB_NETWORK_JOINED | MIB_DEV_ADDR | MIB_DOWNLINK_COUNTER | MIB_ADR | MIB_NET_ID
  | MIB_PUBLIC_NETWORK | MIB_REPEATER_SUPPORT | MIB_UPLINK_COUNTER | MIB_CHANNELS
  | MIB_MULTICAST_CHANNEL => exact .of_eq rfl rfl
  | _ => exact hset _ _

theorem hands_request {s t : Mac} {r : Request} (h : request s r = some t) : Hands s t := by
  cases r with
  | mcps r =>
    obtain ⟨⟨status, u⟩, hmcps, rfl⟩ := Option.map_eq_some_iff.mp h
    exact hands_LoRaMacMcpsRequest hmcps
  | mlme r =>
    obtain ⟨⟨status, u⟩, hmlme, rfl⟩ := Option.map_eq_some_iff.mp h
    exact hands_LoRaMacMlmeRequest hmlme
  | mib r =>
    cases h
    unfold LoRaMacMibSetRequestConfirm
    split
    · exact .refl s
    · exact hands_mibSet s r
  | channelAdd id params =>
    cases h
    exact hands_of_uncommanded (uncommanded_LoRaMacChannelAdd s id params)
  | channelRemove id =>
    cases h
    exact hands_of_uncommanded (uncommanded_LoRaMacChannelRemove s id)
  | multicastLink group =>
    cases h
    unfold LoRaMacMulticastChannelLink
    split <;> exact .of_eq rfl rfl
  | multicastUnlink i =>
    cases h
    unfold LoRaMacMulticastChannelUnlink
    split <;> exact .of_eq rfl rfl

theorem hands_OnMacStateCheckTimerEvent {s t : Mac} (h : OnMacStateCheckTimerEvent s = some t) :
    Hands s t := by
  obtain ⟨u, rfl, hu⟩ := OnMacStateCheckTimerEvent_cases h
  have hchecked : Hands s s.checked := .of_eq rfl rfl
  have hcycle : Hands s.checked u := by
    rcases hu with ⟨-, rfl⟩ | ⟨-, hcycle⟩
    · exact .refl _
    · obtain ⟨confirm, hcycling⟩ := cycling_completeCycle hcycle
      have hhands := hcycling.hands
      exact ⟨hhands.data, hhands.log⟩
  have hunreceived : Hands u u.unreceived := .of_eq rfl rfl
  exact ((hchecked.trans hcycle).trans hunreceived).trans (hands_confirmRequests _)

theorem hands_OnTxDelayedTimerEvent {s t : Mac} (h : OnTxDelayedTimerEvent s = some t) :
    Hands s t := by
  obtain ⟨u, status, hschedule, hu⟩ := OnTxDelayedTimerEvent_cases h
  have hview : u.unprepared = s.undelayed.unprepared := by
    rcases hu with ⟨-, rfl⟩ | ⟨-, rfl⟩
    · rfl
    · exact unprepared_PrepareFrame _ _ _ _ _ _
  have hsu : Hands s u := .of_eq (congrArg Mac.data hview :)
    (congrArg (fun s : Mac => deliveredData s.board.log) hview :)
  exact hsu.trans (cycling_ScheduleTx hschedule).hands

theorem hands_OnRadioTxDone (s : Mac) : Hands s (OnRadioTxDone s) := by
  obtain ⟨u, hlight, hu⟩ := light_OnRadioTxDone s
  have hradio : Hands s (leaveRadio (TimerGetCurrentTime s).2) := by
    have hleave := (light_leaveRadio (TimerGetCurrentTime s).2).hands
    exact ⟨hleave.data, hleave.log⟩
  refine Hands.trans ?_ hlight.hands
  rcases hu with rfl | ⟨-, rfl⟩
  · exact ⟨hradio.data, hradio.log⟩
  · exact ⟨hradio.data, hradio.log⟩

/-- All data that wait or were delivered are such as `P` admits. -/
structure Genuine (P : Data → Prop) (s : Mac) : Prop where
  waiting : ∀ x ∈ s.data, P x
  delivered : ∀ x ∈ deliveredData s.board.log, P x

theorem Hands.genuine {P : Data → Prop} {s t : Mac} (h : Hands s t) (hs : Genuine P s) :
    Genuine P t := by
  refine ⟨h.data ▸ hs.waiting, fun x hx => ?_⟩
  rcases List.mem_append.mp (h.log hx) with hx | hx
  · exact hs.delivered x hx
  · exact hs.waiting x (Option.mem_toList.mp hx)

/-- What the server has `sent` to an address with a counter is all that the MIC lets through: a
data frame whose MIC the node finds valid is one of the server, with the counter that the node
takes it to have. -/
def Unforged (sent : UInt32 → UInt32 → Downlink → Prop) (s : Mac) : Event → Prop
  | .radio (.RxDone frame _ _ _) => frame.IsData →
    ∀ dest, destination s frame.address = some dest → frame.micRx = dataMic s frame dest →
      ∃ d, sent frame.address (frameCounter frame dest) d ∧
        frame.payload.read 0 frame.size.toNat =
          d.frame s.env dest frame.address (frameCounter frame dest)
  | _ => True

/-- The data are those of a frame of the server with their counter. -/
def SentBy (sent : UInt32 → UInt32 → Downlink → Prop) (x : Data) : Prop :=
  ∃ address d, sent address x.DownLinkCounter d ∧ d.body = some (x.Port, x.bytes) ∧ x.Port ≠ 0

variable {sent : UInt32 → UInt32 → Downlink → Prop}

theorem Downlink.sentBy_of_data {d : Downlink} {dest : Destination} {address n : UInt32} {x : Data}
    (hsent : sent address n d) (h : d.data dest n = some x) : SentBy sent x := by
  obtain ⟨⟨fPort, payload⟩, hbody, hx⟩ := Option.bind_eq_some_iff.mp h
  split at hx
  · cases hx
  · next hport =>
    cases hx
    exact ⟨address, d, hsent, hbody, hport⟩

/-- A reception leaves no data but those that the server has put into the frame. -/
theorem genuine_OnRadioRxDone {s t : Mac} {frame : RxFrame} {rssi snr : Int} {rxContinuous : Bool}
    (h : OnRadioRxDone (s.setStatus (rxStatus rxContinuous)) frame rssi snr = some t)
    (he : Unforged sent s (.radio (.RxDone frame rssi snr rxContinuous)))
    (hs : Genuine (SentBy sent) s) : Genuine (SentBy sent) t := by
  have hlog : t.board.log = s.board.log :=
    (congrArg (·.board.log) (received_OnRadioRxDone h).control :)
  refine ⟨?_, hlog ▸ hs.delivered⟩
  obtain ⟨hsome, hnone⟩ := data_OnRadioRxDone h
  by_cases htakes : ∃ dest, TakesData (s.setStatus (rxStatus rxContinuous)) frame dest
  · obtain ⟨dest, htakes⟩ := htakes
    obtain ⟨d, hsent, hframe⟩ := he htakes.type dest htakes.found htakes.mic
    intro x hx
    rw [hsome dest htakes] at hx
    have hdata := Downlink.data_eq hframe rfl htakes.hasData
    exact Downlink.sentBy_of_data hsent (hdata.symm.trans hx)
  · rw [hnone fun dest h => htakes ⟨dest, h⟩]
    exact fun x hx => by cases hx

theorem genuine_onRadio {s t : Mac} {e : RadioEvent} (h : onRadio s e = some t)
    (he : Unforged sent s (.radio e)) (hs : Genuine (SentBy sent) s) : Genuine (SentBy sent) t := by
  have hstatus (status : RadioState_t) : Hands s (s.setStatus status) := .of_eq rfl rfl
  cases e with
  | RxDone frame rssi snr rxContinuous =>
    obtain ⟨u, hu, hut⟩ := Option.bind_eq_some_iff.mp h
    obtain ⟨-, rfl⟩ := radioIrq_eq_some.mp hu
    exact genuine_OnRadioRxDone hut he hs
  | TxDone =>
    obtain ⟨u, hu, rfl⟩ := Option.map_eq_some_iff.mp h
    obtain ⟨-, rfl⟩ := radioIrq_eq_some.mp hu
    have hrecord := hands_record (s.setStatus .RF_IDLE)
      (a := .TxDone (s.env.clock s.board.reads)) fun _ _ h => by cases h
    exact (((hstatus .RF_IDLE).trans hrecord).trans (hands_OnRadioTxDone _)).genuine hs
  | TxTimeout =>
    obtain ⟨u, hu, rfl⟩ := Option.map_eq_some_iff.mp h
    obtain ⟨-, rfl⟩ := radioIrq_eq_some.mp hu
    have hrecord := hands_record (s.setStatus .RF_IDLE) (a := .TxTimeout) fun _ _ h => by cases h
    exact (((hstatus .RF_IDLE).trans hrecord).trans (light_OnRadioTxTimeout _).hands).genuine hs
  | RxError rxContinuous =>
    obtain ⟨u, hu, rfl⟩ := Option.map_eq_some_iff.mp h
    obtain ⟨-, rfl⟩ := radioIrq_eq_some.mp hu
    exact ((hstatus (rxStatus rxContinuous)).trans (light_endWindow _ _).hands).genuine hs
  | RxTimeout rxContinuous =>
    obtain ⟨u, hu, rfl⟩ := Option.map_eq_some_iff.mp h
    obtain ⟨-, rfl⟩ := radioIrq_eq_some.mp hu
    exact ((hstatus (rxStatus rxContinuous)).trans (light_endWindow _ _).hands).genuine hs

theorem genuine_step {s t : Mac} {e : Event} (h : step s e = some t) (he : Unforged sent s e)
    (hs : Genuine (SentBy sent) s) : Genuine (SentBy sent) t := by
  rcases step_cases h with ⟨r, rfl, hrequest⟩ | ⟨p, rfl, hinside, rfl⟩ | ⟨hinside, hhandle⟩
  · exact (hands_request hrequest).genuine hs
  · exact (hands_returnFrom s p).genuine hs
  · cases e with
    | request r => cases hhandle
    | upperReturn => cases hhandle
    | radio e => exact genuine_onRadio hhandle he hs
    | macStateCheckTimer =>
      exact (hands_OnMacStateCheckTimerEvent (onTimer_eq_some.mp hhandle).2).genuine hs
    | txDelayedTimer =>
      exact (hands_OnTxDelayedTimerEvent (onTimer_eq_some.mp hhandle).2).genuine hs
    | rxWindowTimer1 =>
      cases (onTimer_eq_some.mp hhandle).2
      exact (light_OnRxWindow1TimerEvent s).hands.genuine hs
    | rxWindowTimer2 =>
      cases (onTimer_eq_some.mp hhandle).2
      exact (light_OnRxWindow2TimerEvent s).hands.genuine hs
    | ackTimeoutTimer =>
      cases (onTimer_eq_some.mp hhandle).2
      exact (light_OnAckTimeoutTimerEvent s).hands.genuine hs

/-- As long as the MIC lets no other frames through than those of the server, the upper layer is
given no other data in any run: with the counter, on the port and with the bytes that the server
has sent, whatever is requested, received or overheard in between. -/
theorem deliveredData_sent {s t : Mac} {es : List Event} (hdata : s.data = none)
    (hlog : deliveredData s.board.log = []) (hrun : Runs (Unforged sent) s es t) :
    ∀ x ∈ deliveredData t.board.log, ∃ address d,
      sent address x.DownLinkCounter d ∧ d.body = some (x.Port, x.bytes) ∧ x.Port ≠ 0 := by
  have hstart : Genuine (SentBy sent) s := by
    refine ⟨fun x hx => ?_, fun x hx => ?_⟩
    · rw [hdata] at hx
      cases hx
    · rw [hlog] at hx
      cases hx
  have ht : Genuine (SentBy sent) t :=
    hrun.invariant hstart fun _ _ _ hs he hstep => genuine_step hstep he hs
  exact ht.delivered

/-- The frame of a greeting is received as what the server has made it. -/
def Greeted (s : Mac) : Event → Prop
  | .radio (.RxDone frame _ _ _) => s.LoRaMacDevAddr = 1 ∧ s.counterOf frame = 3 ∧
    frame.payload.read 0 frame.size.toNat = greeting.frame s.env s.unicast 1 3
  | _ => True

instance decidableGreeted (s : Mac) (e : Event) : Decidable (Greeted s e) :=
  match e with
  | .radio (.RxDone frame _ _ _) => inferInstanceAs (Decidable (s.LoRaMacDevAddr = 1 ∧
      s.counterOf frame = 3 ∧
      frame.payload.read 0 frame.size.toNat = greeting.frame s.env s.unicast 1 3))
  | .request _ | .upperReturn | .radio .TxDone | .radio .TxTimeout | .radio (.RxError _)
  | .radio (.RxTimeout _) | .macStateCheckTimer | .txDelayedTimer | .rxWindowTimer1
  | .rxWindowTimer2 | .ackTimeoutTimer => .isTrue trivial

theorem Greeted.unforged {s : Mac} {e : Event} (h : Greeted s e) :
    Unforged (fun address n d => address = 1 ∧ n = 3 ∧ d = greeting) s e := by
  cases e with
  | radio e =>
    cases e with
    | RxDone frame rssi snr rxContinuous =>
      obtain ⟨haddr, hcounter, hframe⟩ := h
      intro _ dest hdest _
      have haddress := (Downlink.header_eq hframe).2.1
      have hunicast : dest = s.unicast := by
        rw [haddress, destination, if_pos haddr.symm] at hdest
        exact (Option.some.inj hdest).symm
      have hn : frameCounter frame dest = 3 := hunicast ▸ hcounter
      refine ⟨greeting, ⟨haddress, hn, rfl⟩, ?_⟩
      rw [hn, haddress, hunicast]
      exact hframe
    | _ => trivial
  | _ => trivial

/-- The node sends, is greeted in its first window, and delivers the greeting. -/
theorem deliveredData_sent_greeting :
    ∃ t, Runs (Unforged fun address n d => address = 1 ∧ n = 3 ∧ d = greeting)
        (Mac.personalised Env.slow) (sendAndReceive (.ofBytes (greeting.frame Env.slow
          (Mac.personalised Env.slow).unicast 1 3))) t ∧
      deliveredData t.board.log = [⟨false, 3, 5, [104, 105]⟩] ∧
      ∀ x ∈ deliveredData t.board.log, ∃ (address : UInt32) (d : Downlink),
        (address = 1 ∧ x.DownLinkCounter = 3 ∧ d = greeting) ∧
          d.body = some (x.Port, x.bytes) ∧ x.Port ≠ 0 := by
  obtain ⟨t, hrun, hdata⟩ := transition.Run.of_after step Greeted (Mac.personalised Env.slow)
    (sendAndReceive (.ofBytes (greeting.frame Env.slow (Mac.personalised Env.slow).unicast 1 3)))
    (fun t => deliveredData t.board.log = [⟨false, 3, 5, [104, 105]⟩]) (by decide +kernel)
  have hunforged := hrun.mono fun s e h => Greeted.unforged h
  exact ⟨t, hunforged, by simpa using hdata, deliveredData_sent rfl rfl hunforged⟩

end loranode.mac
