import LoRaNode.Mac.BackOff

namespace loranode.mac

/-- The step reads the clock and writes to the bands, and does nothing else. -/
def Touched (s t : Mac) : Prop :=
  ∃ Bands board, t = { s with Bands := Bands, board := board }

theorem Touched.refl (s : Mac) : Touched s s := ⟨s.Bands, s.board, rfl⟩

theorem Touched.trans {s t u : Mac} (hst : Touched s t) (htu : Touched t u) : Touched s u := by
  obtain ⟨_, _, rfl⟩ := hst
  obtain ⟨Bands, board, rfl⟩ := htu
  exact ⟨Bands, board, rfl⟩

theorem touched_updateBand (nextTxDelay : TimerTime_t) (s : Mac) (i : Nat) :
    Touched s (updateBand nextTxDelay s i).2 := by
  cases hduty : s.DutyCycleOn with
  | false =>
    unfold updateBand
    rw [if_pos hduty]
    exact ⟨_, _, rfl⟩
  | true =>
    rw [updateBand_eq hduty]
    dsimp only
    split
    · exact ⟨_, _, rfl⟩
    · split <;> exact ⟨_, _, rfl⟩

theorem touched_updateBands (s : Mac) : Touched s (updateBands s).2 := by
  have hfold (bands : List Nat) (x : TimerTime_t × Mac) :
      Touched x.2 (bands.foldl (fun x i => updateBand x.1 x.2 i) x).2 := by
    induction bands generalizing x with
    | nil => exact .refl x.2
    | cons i bands ih => exact (touched_updateBand x.1 x.2 i).trans (ih _)
  exact hfold (List.range LORA_MAX_NB_BANDS) (0xFFFFFFFF, s)

/-- The candidates do not depend on the bands. -/
theorem Touched.candidateChannels_eq {s t : Mac} (h : Touched s t) :
    candidateChannels t = candidateChannels s := by
  obtain ⟨Bands, board, rfl⟩ := h
  rfl

/-- What one turn of the loop of `ScheduleTx` does: the aggregated limit delays the frame, or the
bands are brought up to date and a channel is picked. -/
theorem SetNextChannel_cases (s : Mac) :
    (s.Limited ∧ ∃ delay t, SetNextChannel s = (true, delay, t) ∧ Touched (ensureMask s) t) ∨
      ¬s.Limited ∧ ∃ delay t, Touched { ensureMask s with AggregatedTimeOff := 0 } t ∧
        SetNextChannel s = pickChannel t delay := by
  by_cases hlimited : s.Limited
  · exact .inl ⟨hlimited, _, _, SetNextChannel_of_limited hlimited, _, _, rfl⟩
  · have hlifted : Touched { ensureMask s with AggregatedTimeOff := 0 } s.lifted := ⟨_, _, rfl⟩
    exact .inr ⟨hlimited, _, _, hlifted.trans (touched_updateBands _),
      SetNextChannel_of_lifted hlimited⟩

theorem pickChannel_fst (s : Mac) (delay : TimerTime_t) :
    (pickChannel s delay).1 = true ↔ candidateChannels s ≠ [] := by
  have hsub : 0 < (enabledChannels s).length → candidateChannels s ≠ [] := by
    intro hpos hnone
    simp [enabledChannels, hnone] at hpos
  unfold pickChannel
  split
  · next henabled => exact iff_of_true rfl (hsub henabled)
  · split
    · next hcandidates => exact iff_of_true rfl (List.ne_nil_of_length_pos hcandidates)
    · next hnone => exact iff_of_false Bool.false_ne_true fun h => hnone (List.length_pos_of_ne_nil h)

/-- A turn fails exactly when the aggregated limit does not hold and no channel takes the data
rate. -/
theorem SetNextChannel_fst (s : Mac) :
    (SetNextChannel s).1 = true ↔ s.Limited ∨ candidateChannels (ensureMask s) ≠ [] := by
  obtain ⟨hlimited, delay, t, hturn, -⟩ | ⟨hlifted, delay, t, htouched, hturn⟩ :=
    SetNextChannel_cases s
  · rw [hturn]
    exact iff_of_true rfl (.inl hlimited)
  · have hcandidates : candidateChannels t = candidateChannels (ensureMask s) :=
      htouched.candidateChannels_eq
    rw [hturn, pickChannel_fst, hcandidates]
    exact (or_iff_right hlifted).symm

/-- A turn that fails lifts the aggregated limit and leaves the parameters as they were. -/
theorem SetNextChannel_of_false {s : Mac} (h : (SetNextChannel s).1 = false) :
    Touched { ensureMask s with AggregatedTimeOff := 0 } (SetNextChannel s).2.2 := by
  obtain ⟨-, delay, t, hturn, -⟩ | ⟨-, delay, t, htouched, hturn⟩ := SetNextChannel_cases s
  · rw [hturn] at h
    cases h
  · rw [hturn] at h ⊢
    unfold pickChannel at h ⊢
    split at h
    · cases h
    · next henabled =>
      rw [if_neg henabled]
      split at h
      · cases h
      · next hcandidates =>
        rw [if_neg hcandidates]
        exact htouched

theorem restoreDefaults_restoreDefaults (s : Mac) :
    restoreDefaults (restoreDefaults s) = restoreDefaults s := by
  have hmask : s.LoRaMacParams.ChannelsMask ||| defaultChannels ||| defaultChannels =
      s.LoRaMacParams.ChannelsMask ||| defaultChannels := by
    rw [UInt16.or_assoc, UInt16.or_self]
  simp only [restoreDefaults, enableDefaultChannels, hmask]

/-- The defaults include the default channels, so that these are not given again. -/
theorem ensureMask_of_defaults {s : Mac} (h : restoreDefaults s = s) : ensureMask s = s := by
  unfold ensureMask
  split
  · have hmask : (restoreDefaults s).LoRaMacParams.ChannelsMask = s.LoRaMacParams.ChannelsMask := by
      rw [h]
    change s.LoRaMacParams.ChannelsMask ||| defaultChannels = s.LoRaMacParams.ChannelsMask at hmask
    rw [enableDefaultChannels, hmask]
  · rfl

/-- No channel takes the data rate, although the defaults are in force and the aggregated limit
is lifted. -/
structure Hopeless (s : Mac) : Prop where
  lifted : s.AggregatedTimeOff = 0
  defaults : restoreDefaults s = s
  candidates : candidateChannels s = []

/-- A turn that fails with the defaults in force leaves no hope. -/
theorem hopeless_of_false {s : Mac} (hs : restoreDefaults s = s) (h : (SetNextChannel s).1 = false) :
    Hopeless (restoreDefaults (SetNextChannel s).2.2) := by
  have hcandidates : candidateChannels s = [] := by
    have hfails := mt (SetNextChannel_fst s).mpr (Bool.eq_false_iff.mp h)
    rw [not_or, ensureMask_of_defaults hs, not_not] at hfails
    exact hfails.2
  have htouched := SetNextChannel_of_false h
  rw [ensureMask_of_defaults hs] at htouched
  obtain ⟨Bands, board, hturn⟩ := htouched
  have hrestored : restoreDefaults
      { s with AggregatedTimeOff := 0, Bands := Bands, board := board } =
        { s with AggregatedTimeOff := 0, Bands := Bands, board := board } :=
    congrArg (fun p => { s with
        AggregatedTimeOff := 0, Bands := Bands, board := board, LoRaMacParams := p })
      (congrArg Mac.LoRaMacParams hs)
  rw [hturn, hrestored]
  exact ⟨rfl, hrestored, hcandidates⟩

theorem Hopeless.turn {s : Mac} (h : Hopeless s) :
    (SetNextChannel s).1 = false ∧ Hopeless (restoreDefaults (SetNextChannel s).2.2) := by
  have hfails : (SetNextChannel s).1 = false := by
    rw [Bool.eq_false_iff, Ne, SetNextChannel_fst, not_or, ensureMask_of_defaults h.defaults]
    refine ⟨?_, fun hsome => hsome h.candidates⟩
    unfold Mac.Limited
    rw [h.lifted]
    exact UInt32.not_lt_zero
  exact ⟨hfails, hopeless_of_false h.defaults hfails⟩

/-- The turn that fails is followed by one with the defaults. -/
theorem selectChannel_of_false {s : Mac} (h : (SetNextChannel s).1 = false) (fuel : Nat) :
    selectChannel (fuel + 1) s = selectChannel fuel (restoreDefaults (SetNextChannel s).2.2) := by
  rw [selectChannel]
  generalize SetNextChannel s = x at h ⊢
  obtain ⟨found, delay, t⟩ := x
  cases h
  rfl

theorem selectChannel_of_true {s : Mac} (h : (SetNextChannel s).1 = true) (fuel : Nat) :
    selectChannel (fuel + 1) s = some (SetNextChannel s).2 := by
  rw [selectChannel]
  generalize SetNextChannel s = x at h ⊢
  obtain ⟨found, delay, t⟩ := x
  cases h
  rfl

theorem Hopeless.selectChannel_eq_none {s : Mac} (h : Hopeless s) (fuel : Nat) :
    selectChannel fuel s = none := by
  induction fuel generalizing s with
  | zero => rfl
  | succ fuel ih =>
    obtain ⟨hfails, hnext⟩ := h.turn
    rw [selectChannel_of_false hfails]
    exact ih hnext

/-- Two turns of the loop of `ScheduleTx` decide: the second one is made with the defaults, and so
is every one after it. -/
theorem selectChannel_add_two (fuel : Nat) (s : Mac) :
    selectChannel (fuel + 2) s = selectChannel 2 s := by
  cases hfirst : (SetNextChannel s).1 with
  | true => rw [selectChannel_of_true hfirst, selectChannel_of_true hfirst]
  | false =>
    rw [selectChannel_of_false hfirst, selectChannel_of_false hfirst]
    generalize hu : restoreDefaults (SetNextChannel s).2.2 = u
    cases hsecond : (SetNextChannel u).1 with
    | true => rw [selectChannel_of_true hsecond, selectChannel_of_true hsecond]
    | false =>
      have hdefaults : restoreDefaults u = u := by rw [← hu, restoreDefaults_restoreDefaults]
      have hhopeless := hopeless_of_false hdefaults hsecond
      rw [selectChannel_of_false hsecond, selectChannel_of_false hsecond,
        hhopeless.selectChannel_eq_none, hhopeless.selectChannel_eq_none]

/-- The loop of `ScheduleTx` ends after finitely many turns. -/
def Exits (s : Mac) : Prop :=
  s.MaxDCycle ≠ 255 → ∃ turns, (selectChannel turns s.backedOff).isSome = true

theorem ScheduleTx_of_none {s : Mac} (hon : s.MaxDCycle ≠ 255)
    (h : selectChannel 2 s.backedOff = none) : ScheduleTx s = none := by
  unfold Mac.backedOff at h
  unfold ScheduleTx
  rw [if_neg hon, h]

/-- Once the loop has ended, the frame is sent or put off. -/
theorem ScheduleTx_of_some {s u : Mac} {time : TimerTime_t} (hon : s.MaxDCycle ≠ 255)
    (h : selectChannel 2 s.backedOff = some (time, u)) :
    ScheduleTx s = some (.LORAMAC_STATUS_OK, if time = 0 then
      SendFrameOnChannel u (u.Channels u.Channel.toNat) else delayTx u time) := by
  unfold Mac.backedOff at h
  unfold ScheduleTx
  rw [if_neg hon, h]
  exact (apply_ite (fun t => some (LoRaMacStatus_t.LORAMAC_STATUS_OK, t)) (time = 0) _ _).symm

/-- The model gives no result for `ScheduleTx` exactly when the loop does not end. -/
theorem exits_iff (s : Mac) : Exits s ↔ (ScheduleTx s).isSome = true := by
  have hschedule : (ScheduleTx s).isSome = true ↔
      s.MaxDCycle = 255 ∨ (selectChannel 2 s.backedOff).isSome = true := by
    by_cases hon : s.MaxDCycle = 255
    · have hoff : ScheduleTx s = some (.LORAMAC_STATUS_DEVICE_OFF, s) := if_pos hon
      simp [hoff, hon]
    · cases hselect : selectChannel 2 s.backedOff with
      | none => simp [ScheduleTx_of_none hon hselect, hon]
      | some x => simp [ScheduleTx_of_some hon hselect]
  have hturns : (∃ turns, (selectChannel turns s.backedOff).isSome = true) ↔
      (selectChannel 2 s.backedOff).isSome = true := by
    refine ⟨fun ⟨turns, hsome⟩ => ?_, fun h => ⟨2, h⟩⟩
    obtain _ | _ | turns := turns
    · cases hsome
    · cases hfirst : (SetNextChannel s.backedOff).1 with
      | true => rw [selectChannel_of_true hfirst, Option.isSome_some]
      | false =>
        rw [selectChannel_of_false hfirst] at hsome
        cases hsome
    · rwa [selectChannel_add_two] at hsome
  rw [hschedule, Exits, hturns]
  exact Decidable.or_iff_not_imp_left.symm

/-- One of the default channels takes the default data rate. -/
def SupportsDefault (Channels : Nat → ChannelParams_t) (defaults : LoRaMacParams_t) : Prop :=
  ∃ i < 3, (Channels i).Frequency ≠ 0 ∧
    ValueInRange defaults.ChannelsDatarate (Channels i).Min (Channels i).Max = true

/-- With the defaults in force, that channel is a candidate. -/
theorem candidateChannels_of_supportsDefault {s : Mac}
    (h : SupportsDefault s.Channels s.LoRaMacParamsDefaults) :
    candidateChannels (restoreDefaults s) ≠ [] := by
  obtain ⟨i, hi, hfrequency, hrange⟩ := h
  have hdefault : defaultChannels.toNat.testBit i = true := by
    match i, hi with
    | 0, _ => rfl
    | 1, _ => rfl
    | 2, _ => rfl
  apply List.ne_nil_of_mem (a := i)
  unfold candidateChannels
  rw [List.mem_filter, List.mem_range]
  refine ⟨Nat.lt_trans hi (by decide), ?_⟩
  have hmask : (s.LoRaMacParams.ChannelsMask ||| defaultChannels).toNat.testBit i = true := by
    rw [UInt16.toNat_or, Nat.testBit_or, hdefault, Bool.or_true]
  simp only [restoreDefaults, enableDefaultChannels, hmask, hdefault, hrange, Bool.or_true,
    Bool.and_true, Bool.true_and, bne_iff_ne]
  exact hfrequency

theorem chosen_backedOff (s : Mac) : Chosen s s.backedOff :=
  (chosen_updateTimeOff s).trans (chosen_CalculateBackOff (updateTimeOff s) s.LastTxChannel)

/-- The loop ends where one of the default channels takes the default data rate. -/
theorem exits_of_supportsDefault {s : Mac}
    (h : SupportsDefault s.Channels s.LoRaMacParamsDefaults) : Exits s := by
  intro _
  refine ⟨2, ?_⟩
  cases hfirst : (SetNextChannel s.backedOff).1 with
  | true => rw [selectChannel_of_true hfirst, Option.isSome_some]
  | false =>
    rw [selectChannel_of_false hfirst]
    have hchosen := (chosen_backedOff s).trans (chosen_SetNextChannel s.backedOff)
    generalize (SetNextChannel s.backedOff).2.2 = t at hchosen ⊢
    have hchannels : t.Channels = s.Channels := (congrArg Mac.Channels hchosen.unchosen :)
    have hdefaults : t.LoRaMacParamsDefaults = s.LoRaMacParamsDefaults :=
      (congrArg Mac.LoRaMacParamsDefaults hchosen.unchosen :)
    have hcandidates : candidateChannels (restoreDefaults t) ≠ [] :=
      candidateChannels_of_supportsDefault (by rwa [hchannels, hdefaults])
    have hsecond : (SetNextChannel (restoreDefaults t)).1 = true := by
      rw [SetNextChannel_fst, ensureMask_of_defaults (restoreDefaults_restoreDefaults t)]
      exact .inr hcandidates
    rw [selectChannel_of_true hsecond, Option.isSome_some]

end loranode.mac
