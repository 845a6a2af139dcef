import LoRaNode.Mac.Schedule

namespace loranode.mac

/-- The time since `savedTime` at a reading of the clock. -/
def Env.elapsed (env : Env) (reading : Nat) (savedTime : TimerTime_t) : TimerTime_t :=
  if savedTime = 0 then 0
  else if env.clock reading < savedTime then env.clock reading + (0xFFFFFFFF - savedTime)
  else env.clock reading - savedTime

/-- The same state with `n` readings of the clock behind it. -/
def Mac.readsTo (s : Mac) (n : Nat) : Mac := { s with board := { s.board with reads := n } }

/-- The readings that a call of `TimerGetElapsedTime` takes. -/
def cost (savedTime : TimerTime_t) : Nat := if savedTime = 0 then 0 else 1

theorem TimerGetElapsedTime_eq (s : Mac) (savedTime : TimerTime_t) :
    TimerGetElapsedTime s savedTime =
      (s.env.elapsed s.board.reads savedTime, s.readsTo (s.board.reads + cost savedTime)) := by
  unfold TimerGetElapsedTime cost Env.elapsed
  split
  · rfl
  · rfl

/-- A band is freed only at a reading of the clock at which its time off has passed. -/
structure Searched (s t : Mac) : Prop where
  unchosen : t.unchosen = s.unchosen
  le : s.board.reads ≤ t.board.reads
  bands : ∀ i, t.Bands i = s.Bands i ∨ t.Bands i = { s.Bands i with TimeOff := 0 } ∧
    ∃ r, s.board.reads ≤ r ∧ r < t.board.reads ∧
      (s.Bands i).TimeOff ≤ s.env.elapsed r (s.Bands i).LastTxDoneTime
  aggregated : t.AggregatedTimeOff = s.AggregatedTimeOff ∨ t.AggregatedTimeOff = 0

namespace Searched

variable {s t u : Mac}

theorem env (h : Searched s t) : t.env = s.env :=
  (congrArg Mac.env h.unchosen :)

theorem dutyCycleOn (h : Searched s t) (hduty : s.DutyCycleOn = true) : t.DutyCycleOn = true :=
  (congrArg Mac.DutyCycleOn h.unchosen :).trans hduty

/-- A step that does not write to a band. -/
theorem of_unfreed (hunchosen : t.unchosen = s.unchosen) (hle : s.board.reads ≤ t.board.reads)
    (hbands : t.Bands = s.Bands)
    (haggregated : t.AggregatedTimeOff = s.AggregatedTimeOff ∨ t.AggregatedTimeOff = 0) :
    Searched s t :=
  ⟨hunchosen, hle, fun i => .inl (by rw [hbands]), haggregated⟩

theorem trans (hst : Searched s t) (htu : Searched t u) : Searched s u := by
  refine ⟨htu.unchosen.trans hst.unchosen, Nat.le_trans hst.le htu.le, fun i => ?_, ?_⟩
  · rcases hst.bands i with hkept | ⟨hfreed, r, hlow, hhigh, hpassed⟩
    · rcases htu.bands i with hkept' | ⟨hfreed, r, hlow, hhigh, hpassed⟩
      · exact .inl (hkept'.trans hkept)
      · rw [hkept] at hfreed
        rw [hkept, hst.env] at hpassed
        exact .inr ⟨hfreed, r, Nat.le_trans hst.le hlow, hhigh, hpassed⟩
    · refine .inr ⟨?_, r, hlow, Nat.lt_of_lt_of_le hhigh htu.le, hpassed⟩
      rcases htu.bands i with hkept | ⟨hfreed', -⟩
      · exact hkept.trans hfreed
      · rw [hfreed', hfreed]
  · rcases htu.aggregated with hkept | hfreed
    · rw [hkept]
      exact hst.aggregated
    · exact .inr hfreed

end Searched

theorem searched_readsTo (s : Mac) (k : Nat) : Searched s (s.readsTo (s.board.reads + k)) :=
  .of_unfreed rfl (Nat.le_add_right _ _) rfl (.inl rfl)

@[simp] theorem elapsed_zero (env : Env) (reading : Nat) : env.elapsed reading 0 = 0 := rfl

/-- Whether a time off has passed is the same at every reading of the clock from `low` on, up to
the one before `high`. -/
def Unlapsed (env : Env) (low high : Nat) (savedTime TimeOff : TimerTime_t) : Prop :=
  ∀ r < high, low ≤ r →
    (env.elapsed r savedTime < TimeOff ↔ env.elapsed low savedTime < TimeOff)

instance (env : Env) (low high : Nat) (savedTime TimeOff : TimerTime_t) :
    Decidable (Unlapsed env low high savedTime TimeOff) :=
  inferInstanceAs (Decidable (∀ r < high, _))

namespace Unlapsed

variable {env : Env} {low high : Nat} {savedTime TimeOff : TimerTime_t}

/-- A time off that runs at the first reading runs at the others. Where no time has been saved, the
clock is not read. -/
theorem lt (h : Unlapsed env low high savedTime TimeOff) {r : Nat} (hlow : low ≤ r)
    (hhigh : savedTime ≠ 0 → r < high) (hlt : env.elapsed low savedTime < TimeOff) :
    env.elapsed r savedTime < TimeOff := by
  by_cases hsaved : savedTime = 0
  · rw [hsaved] at hlt ⊢
    exact hlt
  · exact (h r (hhigh hsaved) hlow).mpr hlt

theorem mono (h : Unlapsed env low high savedTime TimeOff) {low' high' : Nat} (hlow : low ≤ low')
    (hhigh : high' ≤ high) : Unlapsed env low' high' savedTime TimeOff := by
  intro r hr hlow'
  rw [h r (by omega) (by omega), h low' (by omega) hlow]

theorem zero : Unlapsed env low high savedTime 0 := fun _ _ _ =>
  ⟨fun h => absurd h UInt32.not_lt_zero, fun h => absurd h UInt32.not_lt_zero⟩

end Unlapsed

/-- A time off that does not end between the readings does not end between fewer of them, also
where the band has been freed. -/
theorem Searched.unlapsed {s t : Mac} (h : Searched s t) {high i : Nat}
    (hsteady : Unlapsed s.env s.board.reads high (s.Bands i).LastTxDoneTime (s.Bands i).TimeOff) :
    Unlapsed t.env t.board.reads high (t.Bands i).LastTxDoneTime (t.Bands i).TimeOff := by
  rw [h.env]
  rcases h.bands i with hkept | ⟨hfreed, -⟩
  · rw [hkept]
    exact hsteady.mono h.le (Nat.le_refl _)
  · rw [hfreed]
    exact .zero

theorem Searched.unlapsed_aggregated {s t : Mac} (h : Searched s t) {high : Nat}
    (hsteady : Unlapsed s.env s.board.reads high s.AggregatedLastTxDoneTime s.AggregatedTimeOff) :
    Unlapsed t.env t.board.reads high t.AggregatedLastTxDoneTime t.AggregatedTimeOff := by
  have hlast : t.AggregatedLastTxDoneTime = s.AggregatedLastTxDoneTime :=
    (congrArg Mac.AggregatedLastTxDoneTime h.unchosen :)
  rw [h.env, hlast]
  rcases h.aggregated with hkept | hfreed
  · rw [hkept]
    exact hsteady.mono h.le (Nat.le_refl _)
  · rw [hfreed]
    exact .zero

/-- One turn of the loop: the clock is read once if the band is freed, and two or three times if
it stays closed. -/
theorem updateBand_eq {s : Mac} (hduty : s.DutyCycleOn = true) (delay : TimerTime_t) (i : Nat) :
    updateBand delay s i =
      let band := s.Bands i
      let elapsed reading := s.env.elapsed reading band.LastTxDoneTime
      let reads := s.board.reads
      let c := cost band.LastTxDoneTime
      if band.TimeOff ≤ elapsed reads then (delay, (setTimeOff s i 0).readsTo (reads + c))
      else if band.TimeOff - elapsed (reads + c) < delay then
        (band.TimeOff - elapsed (reads + c + c), s.readsTo (reads + c + c + c))
      else (delay, s.readsTo (reads + c + c)) := by
  unfold updateBand
  rw [if_neg (by rw [hduty]; decide), TimerGetElapsedTime_eq]
  dsimp only
  by_cases hpassed : (s.Bands i).TimeOff ≤ s.env.elapsed s.board.reads (s.Bands i).LastTxDoneTime
  · have hrelease : releaseBand (s.readsTo (s.board.reads + cost (s.Bands i).LastTxDoneTime)) i
        (s.env.elapsed s.board.reads (s.Bands i).LastTxDoneTime) =
        (setTimeOff s i 0).readsTo (s.board.reads + cost (s.Bands i).LastTxDoneTime) :=
      if_pos hpassed
    have hfreed : (((setTimeOff s i 0).readsTo
        (s.board.reads + cost (s.Bands i).LastTxDoneTime)).Bands i).TimeOff = 0 := by
      change (Function.update s.Bands i _ i).TimeOff = 0
      rw [Function.update_self]
    rw [hrelease, if_pos hfreed, if_pos hpassed]
  · have hrelease : releaseBand (s.readsTo (s.board.reads + cost (s.Bands i).LastTxDoneTime)) i
        (s.env.elapsed s.board.reads (s.Bands i).LastTxDoneTime) =
        s.readsTo (s.board.reads + cost (s.Bands i).LastTxDoneTime) := if_neg hpassed
    have hclosed : ¬((s.readsTo (s.board.reads + cost (s.Bands i).LastTxDoneTime)).Bands
        i).TimeOff = 0 := by
      intro hzero
      change (s.Bands i).TimeOff = 0 at hzero
      rw [hzero] at hpassed
      exact hpassed UInt32.zero_le
    rw [hrelease, if_neg hclosed, if_neg hpassed]
    simp only [TimerGetElapsedTime_eq]
    rfl

/-- A band that is freed has been closed for long enough at its first reading. -/
theorem searched_setTimeOff {s : Mac} {i : Nat}
    (hpassed : (s.Bands i).TimeOff ≤ s.env.elapsed s.board.reads (s.Bands i).LastTxDoneTime) :
    Searched s ((setTimeOff s i 0).readsTo
      (s.board.reads + cost (s.Bands i).LastTxDoneTime)) := by
  refine ⟨rfl, Nat.le_add_right _ _, fun j => ?_, .inl rfl⟩
  change Function.update s.Bands i _ j = s.Bands j ∨ Function.update s.Bands i _ j = _ ∧ _
  by_cases hj : j = i
  · subst hj
    rw [Function.update_self]
    by_cases hlast : (s.Bands j).LastTxDoneTime = 0
    · left
      rw [hlast, elapsed_zero] at hpassed
      have hzero : (s.Bands j).TimeOff = 0 := UInt32.le_antisymm hpassed UInt32.zero_le
      rw [← hzero]
    · right
      refine ⟨rfl, s.board.reads, Nat.le_refl _, ?_, hpassed⟩
      change s.board.reads < s.board.reads + cost (s.Bands j).LastTxDoneTime
      unfold cost
      rw [if_neg hlast]
      exact Nat.lt_succ_self _
  · rw [Function.update_of_ne hj]
    exact .inl rfl

theorem searched_updateBand {s : Mac} (hduty : s.DutyCycleOn = true) (nextTxDelay : TimerTime_t)
    (i : Nat) : Searched s (updateBand nextTxDelay s i).2 := by
  rw [updateBand_eq hduty]
  dsimp only
  split
  · next hpassed => exact searched_setTimeOff hpassed
  · rw [Nat.add_assoc, Nat.add_assoc]
    split
    · exact searched_readsTo s _
    · exact searched_readsTo s _

theorem sub_ne_zero_of_lt {a b : TimerTime_t} (h : b < a) : a - b ≠ 0 := by
  intro heq
  have hnat : (a - b).toNat = 0 := by rw [heq]; rfl
  rw [UInt32.toNat_sub_of_le _ _ (UInt32.le_of_lt h)] at hnat
  have hlt : b.toNat < a.toNat := h
  omega

theorem cost_of_ne_zero {savedTime : TimerTime_t} (h : savedTime ≠ 0) : cost savedTime = 1 :=
  if_neg h

/-- The delay does not come out as 0 if the time off does not end between the readings of the
turn. -/
theorem updateBand_ne_zero {s : Mac} (hduty : s.DutyCycleOn = true) {nextTxDelay : TimerTime_t}
    (hdelay : nextTxDelay ≠ 0) {i : Nat}
    (hsteady : Unlapsed s.env s.board.reads (updateBand nextTxDelay s i).2.board.reads
      (s.Bands i).LastTxDoneTime (s.Bands i).TimeOff) :
    (updateBand nextTxDelay s i).1 ≠ 0 := by
  rw [updateBand_eq hduty] at hsteady ⊢
  dsimp only at hsteady ⊢
  split
  · exact hdelay
  · next hclosed =>
    split
    · next hshorter =>
      rw [if_neg hclosed, if_pos hshorter] at hsteady
      refine sub_ne_zero_of_lt (hsteady.lt (by omega) (fun hsaved => ?_) (UInt32.not_le.mp hclosed))
      dsimp only [Mac.readsTo]
      rw [cost_of_ne_zero hsaved]
      omega
    · exact hdelay

theorem searched_foldl_updateBand (bands : List Nat) {x : TimerTime_t × Mac}
    (hduty : x.2.DutyCycleOn = true) :
    Searched x.2 (bands.foldl (fun x i => updateBand x.1 x.2 i) x).2 := by
  induction bands generalizing x with
  | nil => exact .of_unfreed rfl (Nat.le_refl _) rfl (.inl rfl)
  | cons i bands ih =>
    have hband := searched_updateBand hduty x.1 i
    exact hband.trans (ih (hband.dutyCycleOn hduty))

/-- The loop over the bands. Those that are left are as at the start, or freed. -/
theorem foldl_updateBand_ne_zero {bands : List Nat} {x : TimerTime_t × Mac} (hdelay : x.1 ≠ 0)
    (hduty : x.2.DutyCycleOn = true)
    (hsteady : ∀ i ∈ bands, Unlapsed x.2.env x.2.board.reads
      (bands.foldl (fun x i => updateBand x.1 x.2 i) x).2.board.reads
      (x.2.Bands i).LastTxDoneTime (x.2.Bands i).TimeOff) :
    (bands.foldl (fun x i => updateBand x.1 x.2 i) x).1 ≠ 0 := by
  induction bands generalizing x with
  | nil => exact hdelay
  | cons i bands ih =>
    have hband := searched_updateBand hduty x.1 i
    have hrest := searched_foldl_updateBand bands (x := updateBand x.1 x.2 i)
      (hband.dutyCycleOn hduty)
    rw [List.foldl_cons] at hsteady ⊢
    refine ih ?_ (hband.dutyCycleOn hduty) fun j hj => ?_
    · exact updateBand_ne_zero hduty hdelay
        ((hsteady i List.mem_cons_self).mono (Nat.le_refl _) hrest.le)
    · exact hband.unlapsed (hsteady j (List.mem_cons_of_mem _ hj))

theorem searched_updateBands {s : Mac} (hduty : s.DutyCycleOn = true) :
    Searched s (updateBands s).2 :=
  searched_foldl_updateBand _ (x := (0xFFFFFFFF, s)) hduty

theorem updateBands_ne_zero {s : Mac} (hduty : s.DutyCycleOn = true)
    (hsteady : ∀ i < LORA_MAX_NB_BANDS, Unlapsed s.env s.board.reads (updateBands s).2.board.reads
      (s.Bands i).LastTxDoneTime (s.Bands i).TimeOff) : (updateBands s).1 ≠ 0 :=
  foldl_updateBand_ne_zero (x := (0xFFFFFFFF, s)) (show (0xFFFFFFFF : TimerTime_t) ≠ 0 by decide)
    hduty fun i hi => hsteady i (List.mem_range.mp hi)

/-- The channel is in use, and its band is free. -/
def Free (s : Mac) : Prop :=
  (s.Channels s.Channel.toNat).Frequency ≠ 0 ∧
    (s.Bands (s.Channels s.Channel.toNat).Band.toNat).TimeOff = 0

theorem randr_lt (s : Mac) {n : Nat} (hn : 0 < n) (hsmall : n ≤ LORA_MAX_NB_CHANNELS) :
    (randr s 0 (n - 1 : Nat)).1.toNat < n := by
  have hsmall : n ≤ 16 := hsmall
  have hsize : (((n - 1 : Nat) : Int) - 0 + 1).bmod 4294967296 = n := by
    rw [Int.bmod_eq_of_le_mul_two (by omega) (by omega)]
    omega
  have hbound := Int.emod_lt_of_pos ((s.env.rand s.board.next).toNat % 2147483647)
    (show (0 : Int) < n by omega)
  have hlow := Int.emod_nonneg ((s.env.rand s.board.next).toNat % 2147483647)
    (show (n : Int) ≠ 0 by omega)
  unfold randr rand1
  dsimp only
  rw [hsize, Int.tmod_eq_emod_of_nonneg (by omega), Int.add_zero,
    Int.bmod_eq_of_le_mul_two (by omega) (by omega)]
  omega

theorem length_enabledChannels_le (s : Mac) :
    (enabledChannels s).length ≤ LORA_MAX_NB_CHANNELS := by
  have hcandidates : (candidateChannels s).length ≤ (List.range LORA_MAX_NB_CHANNELS).length :=
    List.length_filter_le _ _
  rw [List.length_range] at hcandidates
  exact Nat.le_trans (List.length_filter_le _ _) hcandidates

theorem free_of_mem {s : Mac} {j : Nat} (h : j ∈ enabledChannels s) :
    Free { s with Channel := UInt8.ofNat j } := by
  unfold enabledChannels candidateChannels at h
  simp only [List.mem_filter, List.mem_range, LORA_MAX_NB_CHANNELS, Bool.and_eq_true,
    bne_iff_ne, decide_eq_true_eq] at h
  have hj : (UInt8.ofNat j).toNat = j := UInt8.toNat_ofNat_of_lt (Nat.lt_trans h.1.1 (by decide))
  unfold Free
  dsimp only
  rw [hj]
  exact ⟨h.1.2.1.1.2, h.2⟩

/-- A channel that is picked is free, and the clock is not read for it. -/
theorem pickChannel_spec (s : Mac) (nextTxDelay : TimerTime_t) :
    Searched s (pickChannel s nextTxDelay).2.2 ∧
      (pickChannel s nextTxDelay).2.2.board.reads = s.board.reads ∧
      (nextTxDelay ≠ 0 → (pickChannel s nextTxDelay).1 = true →
        (pickChannel s nextTxDelay).2.1 = 0 → Free (pickChannel s nextTxDelay).2.2) := by
  have hsame : Searched s s := .of_unfreed rfl (Nat.le_refl _) rfl (.inl rfl)
  unfold pickChannel
  split
  · next hsome =>
    refine ⟨.of_unfreed rfl (Nat.le_refl _) rfl (.inl rfl), rfl, fun _ _ _ => ?_⟩
    have hr := randr_lt s hsome (length_enabledChannels_le s)
    refine free_of_mem ?_
    rw [List.getD_eq_getElem _ _ hr]
    exact (List.getElem_mem hr :)
  · split
    · exact ⟨hsame, rfl, fun hdelay _ hzero => absurd hzero hdelay⟩
    · exact ⟨hsame, rfl, fun _ => nofun⟩

theorem ensureMask_eq (s : Mac) : ∃ mask, ensureMask s =
    { s with LoRaMacParams := { s.LoRaMacParams with ChannelsMask := mask } } := by
  unfold ensureMask
  split
  · exact ⟨_, rfl⟩
  · exact ⟨s.LoRaMacParams.ChannelsMask, rfl⟩

/-- The aggregated limit holds at the next reading of the clock. -/
def Mac.Limited (s : Mac) : Prop :=
  s.env.elapsed s.board.reads s.AggregatedLastTxDoneTime < s.AggregatedTimeOff

instance (s : Mac) : Decidable s.Limited :=
  inferInstanceAs (Decidable
    (s.env.elapsed s.board.reads s.AggregatedLastTxDoneTime < s.AggregatedTimeOff))

/-- The state in which `SetNextChannel` goes through the bands. -/
def Mac.lifted (s : Mac) : Mac :=
  { ensureMask s with AggregatedTimeOff := 0 }.readsTo
    (s.board.reads + cost s.AggregatedLastTxDoneTime)

theorem SetNextChannel_of_lifted {s : Mac} (h : ¬s.Limited) :
    SetNextChannel s = pickChannel (updateBands s.lifted).2 (updateBands s.lifted).1 := by
  have hhigh : s.AggregatedTimeOff ≤ s.env.elapsed s.board.reads s.AggregatedLastTxDoneTime :=
    UInt32.not_lt.mp h
  unfold SetNextChannel Mac.lifted
  obtain ⟨mask, hmask⟩ := ensureMask_eq s
  rw [hmask]
  dsimp only
  rw [TimerGetElapsedTime_eq]
  exact if_pos hhigh

/-- While the aggregated limit holds, the clock is read a second time for the delay. -/
theorem SetNextChannel_of_limited {s : Mac} (h : s.Limited) :
    SetNextChannel s = (true, s.AggregatedTimeOff -
      s.env.elapsed (s.board.reads + cost s.AggregatedLastTxDoneTime) s.AggregatedLastTxDoneTime,
      (ensureMask s).readsTo (s.board.reads + cost s.AggregatedLastTxDoneTime +
        cost s.AggregatedLastTxDoneTime)) := by
  have hlow : ¬s.AggregatedTimeOff ≤ s.env.elapsed s.board.reads s.AggregatedLastTxDoneTime :=
    UInt32.not_le.mpr h
  unfold SetNextChannel
  obtain ⟨mask, hmask⟩ := ensureMask_eq s
  rw [hmask]
  simp only [TimerGetElapsedTime_eq]
  exact if_neg hlow

theorem searched_lifted (s : Mac) : Searched s s.lifted := by
  obtain ⟨mask, hmask⟩ := ensureMask_eq s
  unfold Mac.lifted
  rw [hmask]
  exact .of_unfreed rfl (Nat.le_add_right _ _) rfl (.inr rfl)

theorem searched_SetNextChannel {s : Mac} (hduty : s.DutyCycleOn = true) :
    Searched s (SetNextChannel s).2.2 := by
  by_cases hlimited : s.Limited
  · obtain ⟨mask, hmask⟩ := ensureMask_eq s
    rw [SetNextChannel_of_limited hlimited, hmask, Nat.add_assoc]
    exact .of_unfreed rfl (Nat.le_add_right _ _) rfl (.inl rfl)
  · have hlifted := searched_lifted s
    rw [SetNextChannel_of_lifted hlimited]
    exact (hlifted.trans (searched_updateBands (hlifted.dutyCycleOn hduty))).trans
      (pickChannel_spec _ _).1

/-- No time off, of a band or the aggregated one, ends between the readings of the clock from the
next one on, up to the one before `high`. -/
structure Standing (high : Nat) (s : Mac) : Prop where
  bands : ∀ i < LORA_MAX_NB_BANDS,
    Unlapsed s.env s.board.reads high (s.Bands i).LastTxDoneTime (s.Bands i).TimeOff
  aggregated : Unlapsed s.env s.board.reads high s.AggregatedLastTxDoneTime s.AggregatedTimeOff

theorem Standing.mono {high high' : Nat} {s : Mac} (h : Standing high s) (hhigh : high' ≤ high) :
    Standing high' s :=
  ⟨fun i hi => (h.bands i hi).mono (Nat.le_refl _) hhigh, h.aggregated.mono (Nat.le_refl _) hhigh⟩

theorem Standing.of_searched {high : Nat} {s t : Mac} (h : Standing high s) (hst : Searched s t) :
    Standing high t :=
  ⟨fun i hi => hst.unlapsed (h.bands i hi), hst.unlapsed_aggregated h.aggregated⟩

/-- While the aggregated limit holds, the delay does not come out as 0. -/
theorem SetNextChannel_ne_zero_of_limited {s : Mac} (hlimited : s.Limited)
    (h : Standing (SetNextChannel s).2.2.board.reads s) : (SetNextChannel s).2.1 ≠ 0 := by
  rw [SetNextChannel_of_limited hlimited] at h ⊢
  refine sub_ne_zero_of_lt (h.aggregated.lt (Nat.le_add_right _ _) (fun hsaved => ?_) hlimited)
  dsimp only [Mac.readsTo]
  rw [cost_of_ne_zero hsaved]
  omega

theorem updateBands_lifted_ne_zero {s : Mac} (hduty : s.DutyCycleOn = true) (hlifted : ¬s.Limited)
    (h : Standing (SetNextChannel s).2.2.board.reads s) : (updateBands s.lifted).1 ≠ 0 := by
  rw [SetNextChannel_of_lifted hlifted, (pickChannel_spec _ _).2.1] at h
  exact updateBands_ne_zero ((searched_lifted s).dutyCycleOn hduty)
    (h.of_searched (searched_lifted s)).bands

/-- One turn of the search. -/
theorem free_SetNextChannel {s : Mac} (hduty : s.DutyCycleOn = true)
    (h : Standing (SetNextChannel s).2.2.board.reads s) (hfound : (SetNextChannel s).1 = true)
    (hzero : (SetNextChannel s).2.1 = 0) : Free (SetNextChannel s).2.2 := by
  by_cases hlimited : s.Limited
  · exact absurd hzero (SetNextChannel_ne_zero_of_limited hlimited h)
  · have hdelay := updateBands_lifted_ne_zero hduty hlimited h
    rw [SetNextChannel_of_lifted hlimited] at hfound hzero ⊢
    exact (pickChannel_spec _ _).2.2 hdelay hfound hzero

theorem searched_restoreDefaults (s : Mac) : Searched s (restoreDefaults s) :=
  .of_unfreed rfl (Nat.le_refl _) rfl (.inl rfl)

/-- The loop of `ScheduleTx`: a channel that is taken at once is free. -/
theorem selectChannel_spec {fuel : Nat} {s t : Mac} {time : TimerTime_t}
    (h : selectChannel fuel s = some (time, t)) (hduty : s.DutyCycleOn = true) :
    Searched s t ∧ (Standing t.board.reads s → time = 0 → Free t) := by
  induction fuel generalizing s with
  | zero => cases h
  | succ fuel ih =>
    have hnext := searched_SetNextChannel hduty
    have hfree := free_SetNextChannel hduty
    unfold selectChannel at h
    split at h
    · next heq =>
      cases h
      rw [heq] at hnext hfree
      exact ⟨hnext, fun hstanding hzero => hfree hstanding rfl hzero⟩
    · next u heq =>
      rw [heq] at hnext
      have hdefaults := hnext.trans (searched_restoreDefaults u)
      obtain ⟨hrest, hfree⟩ := ih h (hdefaults.dutyCycleOn hduty)
      exact ⟨hdefaults.trans hrest, fun hstanding => hfree (hstanding.of_searched hdefaults)⟩

/-- What a frame is charged with is computed in 32 bits. -/
theorem toNat_bandCharge (air : UInt32) {dutyCycle : UInt16} (hcycle : 1 ≤ dutyCycle.toNat) :
    (air * dutyCycle.toUInt32 - air).toNat =
      air.toNat * (dutyCycle.toNat - 1) % 2 ^ 32 := by
  obtain ⟨d, hd⟩ := Nat.exists_eq_add_of_le hcycle
  have hair := air.toNat_lt
  rw [UInt32.toNat_sub, UInt32.toNat_mul, UInt16.toNat_toUInt32, hd, Nat.mul_add, Nat.mul_one,
    Nat.add_sub_cancel_left]
  generalize air.toNat * d = charge
  omega

/-- The state in which `ScheduleTx` searches for a channel. -/
def Mac.backedOff (s : Mac) : Mac := CalculateBackOff (updateTimeOff s) s.LastTxChannel

/-- What `ScheduleTx` does, if no time off ends between its readings of the clock: it delays the
frame, or it sends it on a channel that is free. -/
theorem ScheduleTx_backedOff {s t : Mac} {status : LoRaMacStatus_t}
    (h : ScheduleTx s = some (status, t)) (hduty : s.backedOff.DutyCycleOn = true)
    (hstanding : Standing t.board.reads s.backedOff) :
    t = s ∨ ∃ u, Searched s.backedOff u ∧
      ((∃ time, t = delayTx u time) ∨
        Free u ∧ t = SendFrameOnChannel u (u.Channels u.Channel.toNat)) := by
  unfold ScheduleTx at h
  split at h
  · cases h
    exact .inl rfl
  · right
    split at h
    · cases h
    · next time u hselect =>
      obtain ⟨hsearched, hfree⟩ := selectChannel_spec hselect hduty
      refine ⟨u, hsearched, ?_⟩
      split at h
      · next hzero =>
        cases h
        exact .inr ⟨hfree hstanding hzero, rfl⟩
      · cases h
        exact .inl ⟨time, rfl⟩

/-- A node that has joined charges the band of the last channel with the time on air. -/
theorem CalculateBackOff_of_joined {s : Mac} (hjoined : s.IsLoRaMacNetworkJoined = true)
    (hduty : s.DutyCycleOn = true) (channel : UInt8) :
    CalculateBackOff s channel =
      { setTimeOff s (s.Channels channel.toNat).Band.toNat
          (s.TxTimeOnAir * (s.Bands (s.Channels channel.toNat).Band.toNat).DCycle.toUInt32 -
            s.TxTimeOnAir) with
        AggregatedTimeOff := s.AggregatedTimeOff +
          (s.TxTimeOnAir * s.AggregatedDCycle.toUInt32 - s.TxTimeOnAir) } := by
  have hduty' : backOffDutyCycle s (s.Channels channel.toNat).Band.toNat =
      ((s.Bands (s.Channels channel.toNat).Band.toNat).DCycle, s) := if_pos hjoined
  unfold CalculateBackOff
  dsimp only
  rw [hduty']
  dsimp only
  unfold randomBackOff chargeBand
  rw [if_pos hduty, if_neg]
  · rfl
  · rintro ⟨hnot, -⟩
    have hnot : s.IsLoRaMacNetworkJoined = false := hnot
    rw [hjoined] at hnot
    cases hnot

end loranode.mac
