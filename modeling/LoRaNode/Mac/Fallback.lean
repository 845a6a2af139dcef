import LoRaNode.Mac.Selection

namespace loranode.mac

open LoRaMacStatus_t

/-- What `CalculateBackOff` adds to the aggregated time off. -/
def Mac.charge (s : Mac) : TimerTime_t :=
  s.TxTimeOnAir * s.AggregatedDCycle.toUInt32 - s.TxTimeOnAir

/-- Every scheduling of a frame charges the aggregated limit. -/
theorem CalculateBackOff_eq (s : Mac) (channel : UInt8) : ∃ t, Touched s t ∧
    CalculateBackOff s channel = { t with AggregatedTimeOff := s.AggregatedTimeOff + s.charge } := by
  have hduty (band : Nat) : Touched s (backOffDutyCycle s band).2 := by
    unfold backOffDutyCycle
    split
    · exact .refl s
    · unfold RetransmissionDutyCylce
      rw [TimerGetElapsedTime_eq]
      dsimp only
      split
      · exact ⟨_, _, rfl⟩
      · split <;> exact ⟨_, _, rfl⟩
  have hrandom (u : Mac) (band : Nat) : Touched u (randomBackOff u band) := by
    unfold randomBackOff
    split
    · exact ⟨_, _, rfl⟩
    · exact .refl u
  unfold CalculateBackOff
  dsimp only
  generalize (s.Channels channel.toNat).Band.toNat = band
  have htouched := (hduty band).trans (Touched.trans ⟨_, _, rfl⟩
    (hrandom (chargeBand (backOffDutyCycle s band).2 band (backOffDutyCycle s band).1) band))
  generalize randomBackOff (chargeBand (backOffDutyCycle s band).2 band
    (backOffDutyCycle s band).1) band = t at htouched ⊢
  refine ⟨t, htouched, ?_⟩
  obtain ⟨Bands, board, rfl⟩ := htouched
  rfl

/-- `ScheduleTx` finds no channel for the data rate and takes the default one: the device is on, the
aggregated limit does not put the choice off, and no enabled channel takes the data rate. -/
def Mac.FallsBack (s : Mac) : Prop :=
  s.MaxDCycle ≠ 255 ∧ ¬s.backedOff.Limited ∧ candidateChannels (ensureMask s) = []

instance (s : Mac) : Decidable s.FallsBack :=
  inferInstanceAs (Decidable (_ ∧ _ ∧ _))

theorem backedOff_touched (s : Mac) : ∃ Bands board time, s.backedOff =
    { s with Bands := Bands, board := board, AggregatedTimeOff := time } := by
  unfold Mac.backedOff
  obtain ⟨t, ⟨Bands, board, rfl⟩, hcharged⟩ := CalculateBackOff_eq (updateTimeOff s) s.LastTxChannel
  rw [hcharged]
  unfold updateTimeOff
  split <;> exact ⟨Bands, board, _, rfl⟩

/-- The candidates are the same in the two states, with the parameters in force and with the
defaults restored. -/
structure SameChoice (s t : Mac) : Prop where
  params : t.LoRaMacParams = s.LoRaMacParams
  defaults : t.LoRaMacParamsDefaults = s.LoRaMacParamsDefaults
  channels : t.Channels = s.Channels
  joined : t.IsLoRaMacNetworkJoined = s.IsLoRaMacNetworkJoined

theorem SameChoice.ensureMask_eq {s t : Mac} (h : SameChoice s t) :
    candidateChannels (ensureMask t) = candidateChannels (ensureMask s) := by
  unfold candidateChannels ensureMask
  rw [h.params]
  split <;> simp only [h.params, h.channels, h.joined]

theorem SameChoice.restoreDefaults_eq {s t : Mac} (h : SameChoice s t) :
    candidateChannels (restoreDefaults t) = candidateChannels (restoreDefaults s) := by
  unfold candidateChannels restoreDefaults
  simp only [h.params, h.defaults, h.channels, h.joined]

theorem SetNextChannel_datarate (s : Mac) :
    (SetNextChannel s).2.2.LoRaMacParams.ChannelsDatarate = s.LoRaMacParams.ChannelsDatarate := by
  obtain ⟨mask, hmask⟩ := ensureMask_eq s
  obtain ⟨-, delay, t, hturn, htouched⟩ | ⟨-, delay, t, htouched, hturn⟩ := SetNextChannel_cases s
  · rw [hmask] at htouched
    obtain ⟨Bands, board, rfl⟩ := htouched
    rw [hturn]
  · rw [hmask] at htouched
    obtain ⟨Bands, board, rfl⟩ := htouched
    rw [hturn]
    unfold pickChannel
    split
    · rfl
    · split <;> rfl

theorem fallsBack_iff {s : Mac} (hon : s.MaxDCycle ≠ 255) :
    s.FallsBack ↔ (SetNextChannel s.backedOff).1 = false := by
  obtain ⟨Bands, board, time, hback⟩ := backedOff_touched s
  have hcandidates : candidateChannels (ensureMask s.backedOff) =
      candidateChannels (ensureMask s) := by
    rw [hback]
    exact SameChoice.ensureMask_eq ⟨rfl, rfl, rfl, rfl⟩
  rw [← Bool.not_eq_true, SetNextChannel_fst, not_or, hcandidates, not_not]
  exact and_iff_right hon

theorem restoreDefaults_ensureMask (s : Mac) :
    restoreDefaults (ensureMask s) = restoreDefaults s := by
  unfold ensureMask
  split
  · simp only [restoreDefaults, enableDefaultChannels, UInt16.or_assoc, UInt16.or_self]
  · rfl

/-- The state in which the second turn of the loop looks for a channel. -/
theorem restoreDefaults_SetNextChannel {s : Mac} (h : s.FallsBack) : ∃ Bands board,
    restoreDefaults (SetNextChannel s.backedOff).2.2 =
      { restoreDefaults s with Bands := Bands, board := board, AggregatedTimeOff := 0 } := by
  obtain ⟨Bands, board, hturn⟩ := SetNextChannel_of_false ((fallsBack_iff h.1).mp h)
  obtain ⟨Bands', board', time, hback⟩ := backedOff_touched s
  have hrestored : restoreDefaults (ensureMask s.backedOff) =
      { restoreDefaults s with Bands := Bands', board := board', AggregatedTimeOff := time } := by
    rw [restoreDefaults_ensureMask, hback]
    rfl
  refine ⟨Bands, board, ?_⟩
  rw [hturn]
  exact congrArg (fun t : Mac => { t with Bands := Bands, board := board, AggregatedTimeOff := 0 })
    hrestored

theorem selectChannel_datarate {s u : Mac} {time : TimerTime_t} (hon : s.MaxDCycle ≠ 255)
    (h : selectChannel 2 s.backedOff = some (time, u)) :
    u.LoRaMacParams.ChannelsDatarate = if s.FallsBack then
      s.LoRaMacParamsDefaults.ChannelsDatarate else s.LoRaMacParams.ChannelsDatarate := by
  by_cases hfalls : s.FallsBack
  · obtain ⟨Bands, board, hsecond⟩ := restoreDefaults_SetNextChannel hfalls
    rw [if_pos hfalls]
    rw [selectChannel_of_false ((fallsBack_iff hon).mp hfalls)] at h
    cases hfound : (SetNextChannel (restoreDefaults (SetNextChannel s.backedOff).2.2)).1 with
    | true =>
      rw [selectChannel_of_true hfound] at h
      have hu := SetNextChannel_datarate (restoreDefaults (SetNextChannel s.backedOff).2.2)
      rw [Option.some.inj h, hsecond] at hu
      exact hu
    | false =>
      rw [selectChannel_of_false hfound] at h
      cases h
  · obtain ⟨Bands, board, time, hback⟩ := backedOff_touched s
    have hfound : (SetNextChannel s.backedOff).1 = true :=
      Bool.eq_true_of_not_eq_false (mt (fallsBack_iff hon).mpr hfalls)
    rw [if_neg hfalls]
    rw [selectChannel_of_true hfound] at h
    have hu := SetNextChannel_datarate s.backedOff
    rw [Option.some.inj h, hback] at hu
    exact hu

/-- The data rate that a frame is scheduled with. -/
theorem ScheduleTx_datarate {s t : Mac} {status : LoRaMacStatus_t}
    (h : ScheduleTx s = some (status, t)) :
    t.LoRaMacParams.ChannelsDatarate = if s.FallsBack then
      s.LoRaMacParamsDefaults.ChannelsDatarate else s.LoRaMacParams.ChannelsDatarate := by
  by_cases hon : s.MaxDCycle = 255
  · have hoff : ScheduleTx s = some (LORAMAC_STATUS_DEVICE_OFF, s) := if_pos hon
    cases hoff.symm.trans h
    exact (if_neg fun hfalls : s.FallsBack => hfalls.1 hon).symm
  · cases hselect : selectChannel 2 s.backedOff with
    | none => cases (ScheduleTx_of_none hon hselect).symm.trans h
    | some x =>
      obtain ⟨time, u⟩ := x
      cases (ScheduleTx_of_some hon hselect).symm.trans h
      have hu := selectChannel_datarate hon hselect
      split <;> exact hu

/-- The scheduling that falls back returns exactly if a channel takes the default data rate. -/
theorem ScheduleTx_isSome {s : Mac} (h : s.FallsBack) :
    (ScheduleTx s).isSome = true ↔ candidateChannels (restoreDefaults s) ≠ [] := by
  obtain ⟨Bands, board, hsecond⟩ := restoreDefaults_SetNextChannel h
  have hfound : (SetNextChannel (restoreDefaults (SetNextChannel s.backedOff).2.2)).1 = true ↔
      candidateChannels (restoreDefaults s) ≠ [] := by
    rw [SetNextChannel_fst, ensureMask_of_defaults (restoreDefaults_restoreDefaults _), hsecond]
    refine or_iff_right fun hlimited => ?_
    exact UInt32.not_lt_zero hlimited
  rw [← hfound]
  have hselect := selectChannel_of_false ((fallsBack_iff h.1).mp h) 1
  cases hturn : (SetNextChannel (restoreDefaults (SetNextChannel s.backedOff).2.2)).1 with
  | true =>
    rw [selectChannel_of_true hturn] at hselect
    rw [ScheduleTx_of_some h.1 hselect]
    exact iff_of_true rfl rfl
  | false =>
    rw [selectChannel_of_false hturn] at hselect
    rw [ScheduleTx_of_none h.1 hselect]
    exact iff_of_false Bool.false_ne_true Bool.false_ne_true

/-- The scheduling returns unless it falls back and finds no channel then either. -/
theorem ScheduleTx_isSome_iff (s : Mac) : (ScheduleTx s).isSome = true ↔
    (s.FallsBack → candidateChannels (restoreDefaults s) ≠ []) := by
  by_cases hfalls : s.FallsBack
  · rw [ScheduleTx_isSome hfalls, imp_iff_right hfalls]
  · refine iff_of_true ?_ fun h => absurd h hfalls
    by_cases hon : s.MaxDCycle = 255
    · have hoff : ScheduleTx s = some (LORAMAC_STATUS_DEVICE_OFF, s) := if_pos hon
      rw [hoff, Option.isSome_some]
    · have hfound : (SetNextChannel s.backedOff).1 = true :=
        Bool.eq_true_of_not_eq_false (mt (fallsBack_iff hon).mpr hfalls)
      rw [ScheduleTx_of_some hon (selectChannel_of_true hfound 1), Option.isSome_some]

/-- The aggregated limit, charged with the last frame, holds at the next reading of the clock. -/
def Mac.PutOff (s : Mac) : Prop :=
  s.env.elapsed s.board.reads s.AggregatedLastTxDoneTime <
    (if s.MaxDCycle = 0 then 0 else s.AggregatedTimeOff) + s.charge

theorem AggregatedTimeOff_backedOff (s : Mac) : s.backedOff.AggregatedTimeOff =
    (if s.MaxDCycle = 0 then 0 else s.AggregatedTimeOff) + s.charge := by
  obtain ⟨t, -, hcharged⟩ := CalculateBackOff_eq (updateTimeOff s) s.LastTxChannel
  unfold Mac.backedOff
  rw [hcharged]
  change (updateTimeOff s).AggregatedTimeOff + (updateTimeOff s).charge = _
  unfold updateTimeOff
  split <;> rfl

/-- A node that has joined does not read the clock for the back-off. -/
theorem board_backedOff_of_joined {s : Mac} (hjoined : s.IsLoRaMacNetworkJoined = true) :
    s.backedOff.board = s.board := by
  obtain ⟨time, hupdated⟩ : ∃ time, updateTimeOff s = { s with AggregatedTimeOff := time } := by
    unfold updateTimeOff
    split <;> exact ⟨_, rfl⟩
  have hduty (band : Nat) : backOffDutyCycle { s with AggregatedTimeOff := time } band =
      ((s.Bands band).DCycle, { s with AggregatedTimeOff := time }) := if_pos hjoined
  unfold Mac.backedOff CalculateBackOff
  rw [hupdated]
  dsimp only
  rw [hduty]
  dsimp only
  unfold randomBackOff
  rw [if_neg fun h => Bool.false_ne_true (h.1.symm.trans hjoined)]
  rfl

theorem limited_backedOff_of_joined {s : Mac} (hjoined : s.IsLoRaMacNetworkJoined = true) :
    s.backedOff.Limited ↔ s.PutOff := by
  have hview := (chosen_backedOff s).unchosen
  have henv : s.backedOff.env = s.env := (congrArg Mac.env hview :)
  have hlast : s.backedOff.AggregatedLastTxDoneTime = s.AggregatedLastTxDoneTime :=
    (congrArg Mac.AggregatedLastTxDoneTime hview :)
  unfold Mac.Limited Mac.PutOff
  rw [henv, hlast, board_backedOff_of_joined hjoined, AggregatedTimeOff_backedOff]

end loranode.mac
