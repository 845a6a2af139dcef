import LoRaNode.Mac.Acceptance
import LoRaNode.Mac.Course

namespace loranode.mac

open LoRaMacFrameType_t LoRaMacEventInfoStatus_t

/-- A data frame without acknowledgement and without MAC commands. -/
def RxFrame.Bare (frame : RxFrame) : Prop :=
  frame.fCtrl.Ack = false ∧ frame.fCtrl.FOptsLen = 0 ∧
    (12 < frame.size.toNat → frame.payload 8 ≠ 0)

/-- The frame is taken for a new one, or for the repetition of one that is to be acknowledged. -/
def TakenIn (frame : RxFrame) (dest : Destination) : Prop :=
  repeated frame dest = false ∨
    dest.multicast = false ∧ frame.macHdr = FRAME_TYPE_DATA_CONFIRMED_DOWN

/-- What the data frame carries is taken in: its address, its counter and its MIC are right. -/
def Delivers (s : Mac) (frame : RxFrame) : Prop :=
  frame.IsData ∧ ∃ dest ∈ destination s frame.address,
    sequenceCounterDiff frame dest < MAX_FCNT_GAP ∧ frame.micRx = dataMic s frame dest ∧
      TakenIn frame dest

instance (frame : RxFrame) : Decidable frame.Bare := inferInstanceAs (Decidable (_ ∧ _ ∧ _))

instance (frame : RxFrame) (dest : Destination) : Decidable (TakenIn frame dest) :=
  inferInstanceAs (Decidable (_ ∨ _))

instance (s : Mac) (frame : RxFrame) : Decidable (Delivers s frame) :=
  inferInstanceAs (Decidable (_ ∧ ∃ dest ∈ destination s frame.address, _ ∧ _ ∧ _))

/-- How a reception can change the state that brings neither an acknowledgement nor a command. A
frame that is to be acknowledged is to be tried again once a frame has been refused. -/
structure Overheard (s t : Mac) : Prop where
  unaccepted : t.unaccepted = s.unaccepted
  ackReceived : t.McpsConfirm.AckReceived = true → s.McpsConfirm.AckReceived = true
  timely : s.timedOut = false → t.timedOut = false
  retry : s.AckTimeoutRetry = true → t.AckTimeoutRetry = true
  aborted : t.LoRaMacState.MAC_RX_ABORT = true → s.LoRaMacState.MAC_RX_ABORT = true ∨
    (s.NodeAckRequested = true → t.AckTimeoutRetry = true)

namespace Overheard

theorem trans {s t u : Mac} (hst : Overheard s t) (htu : Overheard t u) : Overheard s u := by
  have hnode : t.NodeAckRequested = s.NodeAckRequested :=
    (congrArg Mac.NodeAckRequested hst.unaccepted :)
  refine ⟨htu.unaccepted.trans hst.unaccepted, hst.ackReceived ∘ htu.ackReceived,
    htu.timely ∘ hst.timely, htu.retry ∘ hst.retry, fun haborted => ?_⟩
  rcases htu.aborted haborted with haborted | hretry
  · exact (hst.aborted haborted).imp_right fun hretry hs => htu.retry (hretry hs)
  · exact .inr fun hs => hretry (hnode ▸ hs)

/-- A step that writes none of the marks of a reception. -/
theorem of_unaccepted {s t : Mac} (h : t.unaccepted = s.unaccepted)
    (hmcps : t.McpsConfirm = s.McpsConfirm) (hmlme : t.MlmeConfirm = s.MlmeConfirm)
    (hretry : t.AckTimeoutRetry = s.AckTimeoutRetry)
    (habort : t.LoRaMacState.MAC_RX_ABORT = s.LoRaMacState.MAC_RX_ABORT) : Overheard s t := by
  refine ⟨h, fun hack => hmcps ▸ hack, fun hs => ?_, fun hs => hretry.trans hs,
    fun haborted => .inl (habort ▸ haborted)⟩
  unfold Mac.timedOut at hs ⊢
  rw [hmcps, hmlme]
  exact hs

theorem refl (s : Mac) : Overheard s s := .of_unaccepted rfl rfl rfl rfl rfl

theorem flight {s t : Mac} (h : Overheard s t) (s₀ : Mac) : t.flight s₀ = { s.flight s₀ with
    aborted := t.LoRaMacState.MAC_RX_ABORT
    radio := t.board.status
    window2 := t.RxWindowTimer2.queued
    slot := t.RxSlot
    macDone := t.LoRaMacFlags.MacDone
    mcpsInd := t.LoRaMacFlags.McpsInd
    repetitions := t.ChannelsNbRepCounter
    ackReceived := t.McpsConfirm.AckReceived
    retry := t.AckTimeoutRetry
    timedOut := t.timedOut } := by
  have hview := congrArg (fun s => s.flight s₀) h.unaccepted
  exact (congrArg (fun f : Flight => { f with
    aborted := t.LoRaMacState.MAC_RX_ABORT
    radio := t.board.status
    window2 := t.RxWindowTimer2.queued
    slot := t.RxSlot
    macDone := t.LoRaMacFlags.MacDone
    mcpsInd := t.LoRaMacFlags.McpsInd
    repetitions := t.ChannelsNbRepCounter
    ackReceived := t.McpsConfirm.AckReceived
    retry := t.AckTimeoutRetry
    timedOut := t.timedOut }) hview :)

end Overheard

theorem overheard_reopenWindow2 (s : Mac) : Overheard s (reopenWindow2 s) := by
  unfold reopenWindow2
  split
  · obtain ⟨windows, lookups, indication, h⟩ := OnRxWindow2TimerEvent_eq s
    rw [h]
    exact .of_unaccepted rfl rfl rfl rfl rfl
  · exact .refl s

theorem overheard_endReception (s : Mac) : Overheard s (endReception s) := by
  refine (overheard_reopenWindow2 s).trans ?_
  exact .of_unaccepted rfl rfl rfl rfl rfl

theorem overheard_PrepareRxDoneAbort (s : Mac) : Overheard s (PrepareRxDoneAbort s) := by
  have habort : Overheard s (if s.NodeAckRequested then
      OnAckTimeoutTimerEvent { s with LoRaMacState := { s.LoRaMacState with MAC_RX_ABORT := true } }
      else { s with LoRaMacState := { s.LoRaMacState with MAC_RX_ABORT := true } }) := by
    split
    · next hnode =>
      unfold OnAckTimeoutTimerEvent
      dsimp only
      rw [if_pos hnode]
      split
      · exact ⟨rfl, id, id, fun _ => rfl, fun _ => .inr fun _ => rfl⟩
      · exact ⟨rfl, id, id, fun _ => rfl, fun _ => .inr fun _ => rfl⟩
    · next hnode => exact ⟨rfl, id, id, id, fun _ => .inr fun hs => absurd hs hnode⟩
  refine (habort.trans (overheard_reopenWindow2 _)).trans ?_
  exact .of_unaccepted rfl rfl rfl rfl rfl

theorem overheard_abortReception (s : Mac) (Status : LoRaMacEventInfoStatus_t) :
    Overheard s (abortReception s Status) := by
  have hstatus : Overheard s { s with
      McpsIndication := { s.McpsIndication with Status := Status } } :=
    .of_unaccepted rfl rfl rfl rfl rfl
  exact hstatus.trans (overheard_PrepareRxDoneAbort _)

theorem overheard_beginReception (s : Mac) (rssi snr : Int) :
    Overheard s (beginReception s rssi snr) := by
  unfold beginReception
  dsimp only
  split
  · exact ⟨rfl, (fun hack => by cases hack), id, id, .inl⟩
  · exact ⟨rfl, (fun hack => by cases hack), id, id, .inl⟩

theorem overheard_acceptFrame (s : Mac) (frame : RxFrame) (dest : Destination) :
    Overheard s (acceptFrame s frame dest) := by
  have hok : LORAMAC_EVENT_INFO_STATUS_OK ≠ LORAMAC_EVENT_INFO_STATUS_TX_TIMEOUT := by decide
  refine ⟨rfl, id, fun hs => ?_, id, .inl⟩
  exact timedOut_eq_false.mpr ⟨hok, (timedOut_eq_false.mp hs).2⟩

theorem overheard_receiveAck (s : Mac) : Overheard s (receiveAck s false) := by
  unfold receiveAck
  dsimp only
  split
  · exact ⟨rfl, (fun hack => by cases hack), id, id, .inl⟩
  · exact ⟨rfl, (fun hack => by cases hack), id, id, .inl⟩

theorem overheard_receivePayload {s t : Mac} {frame : RxFrame} {dest : Destination}
    {skip skip' : Bool} {snr : Int} (hbare : frame.Bare)
    (h : receivePayload s frame dest skip snr = some (skip', t)) : Overheard s t := by
  obtain ⟨-, hopts, hport⟩ := hbare
  have hfopts (s : Mac) : processFOpts s frame snr = some s := by
    unfold processFOpts
    rw [hopts, if_neg (by decide)]
  unfold receivePayload at h
  dsimp only at h
  rw [hopts] at h
  split at h
  · next hsize =>
    rw [if_neg (hport hsize), hfopts, Option.map_some] at h
    cases hskip : skip <;> rw [hskip] at h <;> cases h <;> exact .of_unaccepted rfl rfl rfl rfl rfl
  · rw [hfopts] at h
    cases h
    exact .refl s

theorem overheard_deliverData {s t : Mac} {frame : RxFrame} {dest : Destination} {skip : Bool}
    {snr : Int} (hbare : frame.Bare) (h : deliverData s frame dest skip snr = some t) :
    Overheard s t := by
  unfold deliverData at h
  rw [hbare.1] at h
  obtain ⟨⟨skip', u⟩, hu, hut⟩ := Option.map_eq_some_iff.mp h
  cases hut
  refine ((overheard_receiveAck s).trans (overheard_receivePayload hbare hu)).trans ?_
  refine Overheard.trans ?_ (overheard_endReception _)
  split
  · exact .refl u
  · exact .of_unaccepted rfl rfl rfl rfl rfl

/-- A data frame that is refused, or that is bare. -/
theorem overheard_receiveData {s t : Mac} {frame : RxFrame} {snr : Int}
    (hbare : ∀ dest ∈ destination s frame.address, sequenceCounterDiff frame dest < MAX_FCNT_GAP →
      frame.micRx = dataMic s frame dest → TakenIn frame dest → frame.Bare)
    (h : receiveData s frame snr = some t) : Overheard s t := by
  unfold receiveData at h
  split at h
  · cases h
    exact overheard_abortReception s _
  · next dest hdest =>
    split at h
    · cases h
      refine Overheard.trans ?_ (overheard_abortReception _ _)
      exact .of_unaccepted rfl rfl rfl rfl rfl
    · next hgap =>
      split at h
      · next hmic =>
        replace hbare := hbare dest hdest (UInt16.not_le.mp hgap) hmic
        refine (overheard_acceptFrame s frame dest).trans ?_
        split at h
        · next hmulticast =>
          unfold receiveMulticast at h
          dsimp only at h
          split at h
          · cases h
            refine Overheard.trans ?_ (overheard_abortReception _ _)
            exact .of_unaccepted rfl rfl rfl rfl rfl
          · next hnew =>
            refine Overheard.trans ?_ (overheard_deliverData (hbare (.inl ?_)) h)
            · exact .of_unaccepted rfl rfl rfl rfl rfl
            · exact Bool.eq_false_of_not_eq_true hnew
        · next hunicast =>
          unfold receiveUnicast at h
          dsimp only at h
          split at h
          · next hconfirmed =>
            refine Overheard.trans ?_ (overheard_deliverData (hbare (.inr ⟨?_, hconfirmed⟩)) h)
            · exact .of_unaccepted rfl rfl rfl rfl rfl
            · exact Bool.eq_false_of_not_eq_true hunicast
          · split at h
            · cases h
              refine Overheard.trans ?_ (overheard_abortReception _ _)
              exact .of_unaccepted rfl rfl rfl rfl rfl
            · next hnew =>
              refine Overheard.trans ?_ (overheard_deliverData (hbare (.inl ?_)) h)
              · exact .of_unaccepted rfl rfl rfl rfl rfl
              · exact Bool.eq_false_of_not_eq_true hnew
      · cases h
        exact overheard_abortReception s _

theorem overheard_OnRadioRxDone {s t : Mac} {frame : RxFrame} {rssi snr : Int}
    (hjoined : s.IsLoRaMacNetworkJoined = true) (hbare : Delivers s frame → frame.Bare)
    (h : OnRadioRxDone s frame rssi snr = some t) : Overheard s t := by
  have hcore := (refused_beginReception s rssi snr).core
  have hdata (htype : frame.IsData)
      (h : receiveData (beginReception s rssi snr) frame snr = some t) :
      Overheard (beginReception s rssi snr) t := by
    refine overheard_receiveData (fun dest hdest hgap hmic htaken => hbare ?_) h
    rw [destination_eq_of_core_eq hcore] at hdest
    rw [dataMic_eq_of_core_eq hcore] at hmic
    exact ⟨htype, dest, hdest, hgap, hmic, htaken⟩
  refine (overheard_beginReception s rssi snr).trans ?_
  unfold OnRadioRxDone at h
  dsimp only at h
  cases htype : frame.macHdr <;> rw [htype] at h <;> dsimp only at h
  case FRAME_TYPE_JOIN_ACCEPT =>
    cases h
    have hkept : (beginReception s rssi snr).IsLoRaMacNetworkJoined = true :=
      (congrArg Mac.IsLoRaMacNetworkJoined hcore :).trans hjoined
    unfold receiveJoinAccept
    rw [if_pos hkept]
    exact overheard_endReception _
  case FRAME_TYPE_DATA_CONFIRMED_DOWN => exact hdata (.inl htype) h
  case FRAME_TYPE_DATA_UNCONFIRMED_DOWN => exact hdata (.inr htype) h
  case FRAME_TYPE_PROPRIETARY =>
    cases h
    refine Overheard.trans ?_ (overheard_endReception _)
    exact .of_unaccepted rfl rfl rfl rfl rfl
  all_goals
    cases h
    exact (overheard_abortReception _ _).trans (overheard_endReception _)

end loranode.mac
