import LoRaNode.Mac.Fallback
import LoRaNode.Mac.JoinBackOff
import LoRaNode.Mac.Cycle

namespace loranode.mac

open LoRaMacStatus_t

/-- Band `i` is closed, and has been closed for too short a time at each reading of the clock from
the next one on, up to the one before `high`. -/
def Mac.Closed (s : Mac) (high i : Nat) : Prop :=
  (s.Bands i).TimeOff ≠ 0 ∧ ∀ r < high, s.board.reads ≤ r →
    s.env.elapsed r (s.Bands i).LastTxDoneTime < (s.Bands i).TimeOff

/-- At each reading of the clock from the next one on, up to the one before `high`, every channel
that the node may choose has a band that is still closed, and no time off ends between two of these
readings. Before the node has joined, it may choose the default channels only. -/
structure Held (high : Nat) (s : Mac) : Prop where
  duty : s.DutyCycleOn = true
  standing : Standing high s
  closed : ∀ j < LORA_MAX_NB_CHANNELS, (s.Channels j).Frequency ≠ 0 →
    (s.IsLoRaMacNetworkJoined || defaultChannels.toNat.testBit j) = true →
      s.Closed high (s.Channels j).Band.toNat

instance (s : Mac) (high i : Nat) : Decidable (s.Closed high i) :=
  inferInstanceAs (Decidable (_ ∧ ∀ r < high, _))

instance (high : Nat) (s : Mac) : Decidable (Standing high s) :=
  decidable_of_iff (_ ∧ _) ⟨fun ⟨h₁, h₂⟩ => ⟨h₁, h₂⟩, fun ⟨h₁, h₂⟩ => ⟨h₁, h₂⟩⟩

instance (high : Nat) (s : Mac) : Decidable (Held high s) :=
  decidable_of_iff (_ ∧ _ ∧ _) ⟨fun ⟨h₁, h₂, h₃⟩ => ⟨h₁, h₂, h₃⟩, fun ⟨h₁, h₂, h₃⟩ => ⟨h₁, h₂, h₃⟩⟩

namespace Held

variable {high : Nat} {s t : Mac}

theorem mono (h : Held high s) {high' : Nat} (hhigh : high' ≤ high) : Held high' s := by
  refine ⟨h.duty, h.standing.mono hhigh, fun j hj hfrequency hallowed => ?_⟩
  obtain ⟨hne, hclosed⟩ := h.closed j hj hfrequency hallowed
  exact ⟨hne, fun r hr => hclosed r (Nat.lt_of_lt_of_le hr hhigh)⟩

/-- A search frees no band of such a channel at the readings that it takes. -/
theorem of_searched (h : Held high s) (hst : Searched s t) (hhigh : t.board.reads ≤ high) :
    Held high t := by
  have hchannels : t.Channels = s.Channels := (congrArg Mac.Channels hst.unchosen :)
  have hjoined : t.IsLoRaMacNetworkJoined = s.IsLoRaMacNetworkJoined :=
    (congrArg Mac.IsLoRaMacNetworkJoined hst.unchosen :)
  refine ⟨hst.dutyCycleOn h.duty, h.standing.of_searched hst, fun j hj hfrequency hallowed => ?_⟩
  rw [hchannels] at hfrequency ⊢
  rw [hjoined] at hallowed
  obtain ⟨hne, hclosed⟩ := h.closed j hj hfrequency hallowed
  rcases hst.bands (s.Channels j).Band.toNat with hkept | ⟨-, r, hlow, hr, hpassed⟩
  · unfold Mac.Closed
    rw [hkept, hst.env]
    exact ⟨hne, fun r hr hlow => hclosed r hr (Nat.le_trans hst.le hlow)⟩
  · have hstill := hclosed r (Nat.lt_of_lt_of_le hr hhigh) hlow
    exact absurd hstill (UInt32.not_lt.mpr hpassed)

theorem enabledChannels_eq_nil (h : Held high s) : enabledChannels s = [] := by
  rw [List.eq_nil_iff_forall_not_mem]
  intro j hj
  unfold enabledChannels candidateChannels at hj
  simp only [List.mem_filter, List.mem_range, Bool.and_eq_true, bne_iff_ne, decide_eq_true_eq] at hj
  obtain ⟨⟨hlt, ⟨⟨-, hfrequency⟩, hallowed⟩, -⟩, hfree⟩ := hj
  exact (h.closed j hlt hfrequency hallowed).1 hfree

/-- A turn of the search does not find a channel that can be used at once. -/
theorem SetNextChannel_ne_zero (h : Held (SetNextChannel s).2.2.board.reads s)
    (hfound : (SetNextChannel s).1 = true) : (SetNextChannel s).2.1 ≠ 0 := by
  by_cases hlimited : s.Limited
  · exact SetNextChannel_ne_zero_of_limited hlimited h.standing
  · have hdelay := updateBands_lifted_ne_zero h.duty hlimited h.standing
    have hsearched := (searched_lifted s).trans
      (searched_updateBands ((searched_lifted s).dutyCycleOn h.duty))
    rw [SetNextChannel_of_lifted hlimited] at h hfound ⊢
    have hreads := (pickChannel_spec (updateBands s.lifted).2 (updateBands s.lifted).1).2.1
    have hnone := (h.of_searched hsearched (Nat.le_of_eq hreads.symm)).enabledChannels_eq_nil
    unfold pickChannel at hfound ⊢
    rw [hnone, if_neg (by decide)] at hfound ⊢
    split at hfound
    · next hcandidates =>
      rw [if_pos hcandidates]
      exact hdelay
    · cases hfound

theorem selectChannel_ne_zero {fuel : Nat} {time : TimerTime_t}
    (hselect : selectChannel fuel s = some (time, t)) (h : Held t.board.reads s) : time ≠ 0 := by
  induction fuel generalizing s with
  | zero => cases hselect
  | succ fuel ih =>
    cases hfirst : (SetNextChannel s).1 with
    | true =>
      rw [selectChannel_of_true hfirst] at hselect
      have hresult : (SetNextChannel s).2 = (time, t) := Option.some.inj hselect
      have hreads : (SetNextChannel s).2.2.board.reads = t.board.reads :=
        congrArg (·.2.board.reads) hresult
      rw [← hreads] at h
      have hne := h.SetNextChannel_ne_zero hfirst
      rwa [hresult] at hne
    | false =>
      rw [selectChannel_of_false hfirst] at hselect
      have hnext := (searched_SetNextChannel h.duty).trans (searched_restoreDefaults _)
      have hrest := (selectChannel_spec hselect (hnext.dutyCycleOn h.duty)).1
      exact ih hselect (h.of_searched hnext hrest.le)

end Held

/-- The state without what the state check writes and `CalculateBackOff` does not look at. -/
def Mac.billed (s : Mac) : Mac :=
  { s with
    LoRaMacParams := defaultParams
    ChannelsNbRepCounter := 0
    AdrAckCounter := 0
    UpLinkCounter := 0
    NodeAckRequested := false
    LoRaMacState := MAC_IDLE
    MacStateCheckTimer := ⟨0, false⟩
    TxDelayedTimer := ⟨0, false⟩
    AckTimeoutRetriesCounter := 0
    AckTimeoutRetry := false
    McpsConfirm := ⟨.MCPS_UNCONFIRMED, .LORAMAC_EVENT_INFO_STATUS_OK, 0, 0, false, 0, 0, 0⟩
    LoRaMacFlags := ⟨false, false, false, false⟩ }

theorem backOffDutyCycle_billed (s : Mac) (band : Nat) : backOffDutyCycle s.billed band =
    ((backOffDutyCycle s band).1, (backOffDutyCycle s band).2.billed) := by
  unfold backOffDutyCycle
  rw [RetransmissionDutyCylce_eq, RetransmissionDutyCylce_eq]
  change (if s.IsLoRaMacNetworkJoined then _ else _) = _
  split <;> rfl

theorem randomBackOff_billed (s : Mac) (band : Nat) :
    randomBackOff s.billed band = (randomBackOff s band).billed := by
  unfold randomBackOff
  change (if s.IsLoRaMacNetworkJoined = false ∧ 0 < s.TxTimeOnAir then _ else _) = _
  split <;> rfl

theorem CalculateBackOff_billed (s : Mac) (channel : UInt8) :
    CalculateBackOff s.billed channel = (CalculateBackOff s channel).billed := by
  have hduty := backOffDutyCycle_billed s (s.Channels channel.toNat).Band.toNat
  unfold CalculateBackOff
  dsimp only
  rw [show s.billed.Channels = s.Channels from rfl, hduty]
  dsimp only
  rw [show chargeBand (backOffDutyCycle s (s.Channels channel.toNat).Band.toNat).2.billed
      (s.Channels channel.toNat).Band.toNat
      (backOffDutyCycle s (s.Channels channel.toNat).Band.toNat).1 =
        (chargeBand (backOffDutyCycle s (s.Channels channel.toNat).Band.toNat).2
          (s.Channels channel.toNat).Band.toNat
          (backOffDutyCycle s (s.Channels channel.toNat).Band.toNat).1).billed from rfl,
    randomBackOff_billed]
  rfl

theorem backedOff_billed (s : Mac) : s.billed.backedOff = s.backedOff.billed := by
  have hupdate : updateTimeOff s.billed = (updateTimeOff s).billed := by
    unfold updateTimeOff
    change (if s.MaxDCycle = 0 then _ else _) = _
    split <;> rfl
  unfold Mac.backedOff
  rw [hupdate, CalculateBackOff_billed]
  rfl

/-- Whether a frame is held back does not depend on what the state check writes. -/
theorem Held.of_billed {high : Nat} {s t : Mac} (h : Held high s.backedOff)
    (hbilled : t.billed = s.billed) : Held high t.backedOff := by
  have hback : t.backedOff.billed = s.backedOff.billed := by
    rw [← backedOff_billed, ← backedOff_billed, hbilled]
  have hview : Held high s.backedOff.billed :=
    ⟨h.duty, ⟨h.standing.bands, h.standing.aggregated⟩, h.closed⟩
  rw [← hback] at hview
  exact ⟨hview.duty, ⟨hview.standing.bands, hview.standing.aggregated⟩, hview.closed⟩

/-- A frame that is held back is put off, unless the device is switched off. -/
theorem Held.ScheduleTx_cases {s v t : Mac} {status : LoRaMacStatus_t}
    (h : Held t.board.reads s.backedOff) (hschedule : ScheduleTx v = some (status, t))
    (hbilled : v.billed = s.billed) :
    t = v ∨ ∃ u time, Chosen v u ∧ t = delayTx u time := by
  rcases mac.ScheduleTx_cases hschedule with ⟨-, -, rfl⟩ | ⟨hon, -, -⟩
  · exact .inl rfl
  · cases hselect : selectChannel 2 v.backedOff with
    | none => cases (ScheduleTx_of_none hon hselect).symm.trans hschedule
    | some x =>
      obtain ⟨time, u⟩ := x
      have hput := ScheduleTx_of_some hon hselect
      have ht : (if time = 0 then SendFrameOnChannel u (u.Channels u.Channel.toNat)
          else delayTx u time) = t :=
        congrArg Prod.snd (Option.some.inj (hput.symm.trans hschedule))
      have hreads : t.board.reads = u.board.reads := by
        rw [← ht]
        split <;> rfl
      rw [hreads] at h
      rw [if_neg (selectChannel_ne_zero hselect (h.of_billed hbilled))] at hput
      cases hput.symm.trans hschedule
      exact .inr ⟨u, time, (chosen_backedOff v).trans (chosen_selectChannel hselect), rfl⟩

/-- What the first part of the state check leaves of a frame that is held back. -/
theorem Held.checkRepetition_cases {s u : Mac} {confirm : McpsConfirm_t}
    (h : checkRepetition (s.ended confirm) = some u)
    (hheld : (s.ended confirm).repeatable → Held u.board.reads s.backedOff) :
    (u.board.log = s.board.log ∧ u.LoRaMacState.MAC_TX_DELAYED = true) ∨
      u.billed = s.billed ∧ u.trials = (s.ended confirm).trials ∧
        u.LoRaMacState.MAC_TX_DELAYED = s.LoRaMacState.MAC_TX_DELAYED := by
  rcases mac.checkRepetition_cases h with ⟨-, rfl⟩ | ⟨-, ⟨counter, rfl, -⟩ | ⟨hrepeat, repetitions,
    status, hschedule⟩⟩
  · exact .inr ⟨rfl, rfl, rfl⟩
  · exact .inr ⟨rfl, rfl, rfl⟩
  · rcases (hheld hrepeat).ScheduleTx_cases hschedule rfl with rfl | ⟨v, time, hv, rfl⟩
    · exact .inr ⟨rfl, rfl, rfl⟩
    · exact .inl ⟨(congrArg (·.board.log) hv.unchosen :), rfl⟩

theorem reads_le_ScheduleTx {s t : Mac} {status : LoRaMacStatus_t}
    (h : ScheduleTx s = some (status, t)) : s.board.reads ≤ t.board.reads := by
  rcases mac.ScheduleTx_cases h with ⟨-, -, rfl⟩ | ⟨-, -, u, hu, rfl | ⟨time, rfl⟩⟩
  · exact Nat.le_refl _
  · exact hu.reads
  · exact hu.reads

/-- The state check does not send a frame that is held back at the readings of the clock that it
takes. -/
theorem Held.log_completeCycle {s t : Mac} (h : completeCycle s = some t)
    (hheld : Repeats s ∨ Retries s → Held t.board.reads s.backedOff) :
    t.board.log = s.board.log := by
  obtain ⟨confirm, u, hconfirm, hu, hut⟩ := completeCycle_parts h
  have hreads : u.board.reads ≤ t.board.reads := by
    rcases checkAckTimeout_checkAck_cases hut with ⟨-, status, hschedule⟩ | hsettled
    · exact (reads_le_ScheduleTx hschedule :)
    · exact Nat.le_of_eq (congrArg (·.board.reads) hsettled :).symm
  have hfirst : (u.board.log = s.board.log ∧ u.LoRaMacState.MAC_TX_DELAYED = true) ∨
      u.billed = s.billed ∧ u.trials = (s.ended confirm).trials ∧
        u.LoRaMacState.MAC_TX_DELAYED = s.LoRaMacState.MAC_TX_DELAYED := by
    rcases hu with ⟨⟨hnode, hin⟩, hu⟩ | ⟨-, rfl⟩
    · exact checkRepetition_cases hu fun hrepeat =>
        (hheld (.inl ⟨hnode, hin, hrepeat⟩)).mono hreads
    · exact .inr ⟨rfl, rfl, rfl⟩
  rcases checkAckTimeout_checkAck_cases hut with ⟨hretry, status, hschedule⟩ | hsettled
  · rcases hfirst with ⟨-, hdelayed⟩ | ⟨hbilled, htrials, hdelayed⟩
    · exact absurd (hretry.2.1.symm.trans hdelayed) Bool.false_ne_true
    · have hretries : Retries s := retries_of_retriable hconfirm
        (retriable_of_trials htrials (fun hnow => (hdelayed.symm.trans hnow :)) hretry)
      have hlog : u.board.log = s.board.log := (congrArg (·.board.log) hbilled :)
      rcases (hheld (.inr hretries)).ScheduleTx_cases hschedule hbilled with rfl | ⟨v, time, hv, rfl⟩
      · exact hlog
      · exact (congrArg (·.board.log) hv.unchosen :).trans hlog
  · have hlog : t.board.log = u.board.log := (congrArg (·.board.log) hsettled :)
    rcases hfirst with ⟨hsame, -⟩ | ⟨hbilled, -⟩
    · exact hlog.trans hsame
    · exact hlog.trans (congrArg (·.board.log) hbilled :)

end loranode.mac
