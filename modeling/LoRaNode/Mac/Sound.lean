import LoRaNode.Mac.Selection

namespace loranode.mac

/-- A turn of the loop over the bands frees its own band or leaves it closed. -/
structure Turned (i : Nat) (s t : Mac) : Prop where
  env : t.env = s.env
  duty : t.DutyCycleOn = s.DutyCycleOn
  reads : s.board.reads ≤ t.board.reads
  others : ∀ j, j ≠ i → t.Bands j = s.Bands j
  own : ((s.DutyCycleOn = false ∨
        (s.Bands i).TimeOff ≤ s.env.elapsed s.board.reads (s.Bands i).LastTxDoneTime) ∧
      t.Bands i = { s.Bands i with TimeOff := 0 }) ∨
    s.DutyCycleOn = true ∧
      s.env.elapsed s.board.reads (s.Bands i).LastTxDoneTime < (s.Bands i).TimeOff ∧
        t.Bands i = s.Bands i

theorem turned_updateBand (delay : TimerTime_t) (s : Mac) (i : Nat) :
    Turned i s (updateBand delay s i).2 := by
  have hfree (n : Nat) (hn : s.board.reads ≤ n) (hpassed : s.DutyCycleOn = false ∨
      (s.Bands i).TimeOff ≤ s.env.elapsed s.board.reads (s.Bands i).LastTxDoneTime) :
      Turned i s ((setTimeOff s i 0).readsTo n) :=
    ⟨rfl, rfl, hn, fun j hj => Function.update_of_ne hj .., .inl ⟨hpassed, Function.update_self ..⟩⟩
  cases hduty : s.DutyCycleOn with
  | false =>
    unfold updateBand
    rw [if_pos hduty]
    exact hfree s.board.reads (Nat.le_refl _) (.inl hduty)
  | true =>
    rw [updateBand_eq hduty]
    dsimp only
    split
    · next hpassed => exact hfree _ (Nat.le_add_right _ _) (.inr hpassed)
    · next hclosed =>
      have hown := UInt32.not_le.mp hclosed
      have hkeep (n : Nat) (hn : s.board.reads ≤ n) : Turned i s (s.readsTo n) :=
        ⟨rfl, rfl, hn, fun _ _ => rfl, .inr ⟨hduty, hown, rfl⟩⟩
      split
      · exact hkeep _ (by omega)
      · exact hkeep _ (by omega)

/-- Without the duty cycle there is no delay. -/
theorem foldl_updateBand_of_off {bands : List Nat} (hbands : bands ≠ []) {x : TimerTime_t × Mac}
    (hoff : x.2.DutyCycleOn = false) :
    (bands.foldl (fun x i => updateBand x.1 x.2 i) x).1 = 0 := by
  have hturn (x : TimerTime_t × Mac) (hx : x.2.DutyCycleOn = false) (i : Nat) :
      updateBand x.1 x.2 i = (0, setTimeOff x.2 i 0) := if_pos hx
  induction bands generalizing x with
  | nil => exact absurd rfl hbands
  | cons i bands ih =>
    rw [List.foldl_cons, hturn x hoff]
    by_cases hrest : bands = []
    · subst hrest
      rfl
    · exact ih hrest hoff

/-- The delay so far, and the state in which the loop over the bands comes to band `i`. -/
def Mac.comesTo (s : Mac) (i : Nat) : TimerTime_t × Mac :=
  (List.range i).foldl (fun x i => updateBand x.1 x.2 i) (0xFFFFFFFF, s.lifted)

theorem comesTo_succ (s : Mac) (i : Nat) :
    s.comesTo (i + 1) = updateBand (s.comesTo i).1 (s.comesTo i).2 i := by
  unfold Mac.comesTo
  rw [List.range_succ, List.foldl_concat]

/-- What the loop leaves alone until it comes to band `i`. -/
theorem comesTo_spec (s : Mac) (i : Nat) :
    (s.comesTo i).2.env = s.env ∧ (s.comesTo i).2.DutyCycleOn = s.DutyCycleOn ∧
      ∀ j, i ≤ j → (s.comesTo i).2.Bands j = s.Bands j := by
  induction i with
  | zero =>
    unfold Mac.comesTo Mac.lifted
    obtain ⟨mask, hmask⟩ := ensureMask_eq s
    rw [hmask]
    exact ⟨rfl, rfl, fun _ _ => rfl⟩
  | succ i ih =>
    obtain ⟨henv, hduty, hbands⟩ := ih
    have hturn := turned_updateBand (s.comesTo i).1 (s.comesTo i).2 i
    rw [comesTo_succ]
    refine ⟨hturn.env.trans henv, hturn.duty.trans hduty, fun j hj => ?_⟩
    exact (hturn.others j (by omega)).trans (hbands j (by omega))

/-- The time since the last transmission in band `i`, at reading `r` of the clock. -/
def Mac.since (s : Mac) (i r : Nat) : TimerTime_t := s.env.elapsed r (s.Bands i).LastTxDoneTime

/-- What the clock has decided before it is read for a band: the reading that comes next, and the
band that a frame has to wait for, with the reading which its delay is computed from. -/
structure Outlook where
  reading : Nat
  awaited : Option (Nat × Nat)

/-- What is left of the time off that is waited for. While there is none it is the largest delay. -/
def Mac.left (s : Mac) : Option (Nat × Nat) → TimerTime_t
  | none => 0xFFFFFFFF
  | some (i, r) => (s.Bands i).TimeOff - s.since i r

/-- From band to band: one that is closed at its first reading, and at its second has less left than
the one that is waited for, takes the place of that, with its third reading. -/
def Mac.outlook (s : Mac) : Nat → Outlook
  | 0 => ⟨s.board.reads + cost s.AggregatedLastTxDoneTime, none⟩
  | i + 1 =>
    let ⟨r, awaited⟩ := s.outlook i
    let c := cost (s.Bands i).LastTxDoneTime
    if (s.Bands i).TimeOff ≤ s.since i r then ⟨r + c, awaited⟩
    else if s.left (some (i, r + c)) < s.left awaited then ⟨r + c + c + c, some (i, r + c + c)⟩
    else ⟨r + c + c, awaited⟩

theorem outlook_succ (s : Mac) (i : Nat) : s.outlook (i + 1) =
    let c := cost (s.Bands i).LastTxDoneTime
    let r := (s.outlook i).reading
    if (s.Bands i).TimeOff ≤ s.since i r then ⟨r + c, (s.outlook i).awaited⟩
    else if s.left (some (i, r + c)) < s.left (s.outlook i).awaited then
      ⟨r + c + c + c, some (i, r + c + c)⟩
    else ⟨r + c + c, (s.outlook i).awaited⟩ := rfl

/-- The reading which the delay is computed from has been taken, if there was one to take. -/
theorem outlook_spec (s : Mac) (i : Nat) :
    s.board.reads ≤ (s.outlook i).reading ∧
      ∀ j r, (s.outlook i).awaited = some (j, r) → j < i ∧ s.board.reads ≤ r ∧
        ((s.Bands j).LastTxDoneTime ≠ 0 → r < (s.outlook i).reading) := by
  induction i with
  | zero => exact ⟨Nat.le_add_right _ _, nofun⟩
  | succ i ih =>
    obtain ⟨hreading, hawaited⟩ := ih
    have hkept {n : Nat} (hn : (s.outlook i).reading ≤ n) (j r : Nat)
        (h : (s.outlook i).awaited = some (j, r)) : j < i + 1 ∧ s.board.reads ≤ r ∧
          ((s.Bands j).LastTxDoneTime ≠ 0 → r < n) := by
      obtain ⟨hj, hr, hlt⟩ := hawaited j r h
      exact ⟨Nat.lt_succ_of_lt hj, hr, fun hsaved => Nat.lt_of_lt_of_le (hlt hsaved) hn⟩
    rw [outlook_succ]
    dsimp only
    split
    · exact ⟨Nat.le_add_right_of_le hreading, hkept (Nat.le_add_right _ _)⟩
    · split
      · refine ⟨by dsimp only; omega, fun j r h => ?_⟩
        obtain ⟨rfl, rfl⟩ := Prod.mk.inj (Option.some.inj h)
        refine ⟨Nat.lt_succ_self i, by omega, fun hsaved => ?_⟩
        dsimp only
        rw [cost_of_ne_zero hsaved]
        omega
      · exact ⟨by dsimp only; omega, hkept (by dsimp only; omega)⟩

/-- With the duty cycle on, the delay so far is what is left for the band that is waited for. -/
theorem comesTo_outlook {s : Mac} (hduty : s.DutyCycleOn = true) (i : Nat) :
    (s.comesTo i).1 = s.left (s.outlook i).awaited ∧
      (s.comesTo i).2.board.reads = (s.outlook i).reading := by
  induction i with
  | zero => exact ⟨rfl, rfl⟩
  | succ i ih =>
    obtain ⟨hdelay, hreads⟩ := ih
    obtain ⟨henv, hduty', hbands⟩ := comesTo_spec s i
    rw [comesTo_succ, updateBand_eq (hduty'.trans hduty), henv, hbands i (Nat.le_refl i), hdelay,
      hreads, outlook_succ]
    have hsince (r : Nat) : s.env.elapsed r (s.Bands i).LastTxDoneTime = s.since i r := rfl
    have hleft (r : Nat) : (s.Bands i).TimeOff - s.since i r = s.left (some (i, r)) := rfl
    simp only [hsince, hleft]
    split
    · exact ⟨rfl, rfl⟩
    · split <;> exact ⟨rfl, rfl⟩

/-- The first reading finds band `i` free. A band that is not in the table is not looked at. -/
def Mac.FoundFree (s : Mac) (i : Nat) : Prop :=
  if i < LORA_MAX_NB_BANDS then
    s.DutyCycleOn = false ∨ (s.Bands i).TimeOff ≤ s.since i (s.outlook i).reading
  else (s.Bands i).TimeOff = 0

theorem comesTo_freed (s : Mac) {i n : Nat} (hin : i < n) :
    ((s.comesTo n).2.Bands i).TimeOff = 0 ↔
      s.DutyCycleOn = false ∨ (s.Bands i).TimeOff ≤ s.since i (s.outlook i).reading := by
  induction n with
  | zero => cases hin
  | succ n ih =>
    have hturn := turned_updateBand (s.comesTo n).1 (s.comesTo n).2 n
    rw [comesTo_succ]
    by_cases hlast : i = n
    · subst hlast
      obtain ⟨henv, hduty, hbands⟩ := comesTo_spec s i
      have hown := hturn.own
      rw [henv, hduty, hbands i (Nat.le_refl i)] at hown
      cases hon : s.DutyCycleOn with
      | false =>
        rw [hon] at hown
        obtain ⟨-, hfreed⟩ | ⟨hon, -⟩ := hown
        · rw [hfreed]
          exact iff_of_true rfl (.inl rfl)
        · cases hon
      | true =>
        rw [hon, (comesTo_outlook hon i).2] at hown
        obtain ⟨hpassed, hfreed⟩ | ⟨-, hclosed, hkept⟩ := hown
        · rw [hfreed]
          exact iff_of_true rfl hpassed
        · rw [hkept]
          refine iff_of_false (fun hzero => ?_) ?_
          · rw [hzero] at hclosed
            exact UInt32.not_lt_zero hclosed
          · rintro (hoff | hpassed)
            · cases hoff
            · exact UInt32.not_lt.mpr hpassed hclosed
    · rw [hturn.others i hlast]
      exact ih (by omega)

theorem foundFree_iff (s : Mac) (i : Nat) :
    ((updateBands s.lifted).2.Bands i).TimeOff = 0 ↔ s.FoundFree i := by
  change ((s.comesTo LORA_MAX_NB_BANDS).2.Bands i).TimeOff = 0 ↔ s.FoundFree i
  unfold Mac.FoundFree
  split
  · next hi => exact comesTo_freed s hi
  · next hi => rw [(comesTo_spec s LORA_MAX_NB_BANDS).2.2 i (Nat.not_lt.mp hi)]

/-- The times that `SetNextChannel` counts from. -/
def Mac.savedTimes (s : Mac) : List TimerTime_t :=
  s.AggregatedLastTxDoneTime ::
    (List.range LORA_MAX_NB_BANDS).map fun i => (s.Bands i).LastTxDoneTime

/-- At the readings of the clock that `SetNextChannel` takes, the results of the successive calls of
`TimerGetElapsedTime` do not decrease. -/
def Mac.Steady (s : Mac) : Prop :=
  ∀ savedTime ∈ s.savedTimes, ∀ n k, s.board.reads ≤ n → n ≤ k →
    k < (SetNextChannel s).2.2.board.reads →
      s.env.elapsed n savedTime ≤ s.env.elapsed k savedTime

/-- Channel `j` may be used at the current data rate, and now. A node that has not joined may use
the channels for the join request only. -/
structure Usable (s : Mac) (j : Nat) : Prop where
  mask : s.LoRaMacParams.ChannelsMask.toNat.testBit j = true
  frequency : (s.Channels j).Frequency ≠ 0
  datarate : ValueInRange s.LoRaMacParams.ChannelsDatarate (s.Channels j).Min (s.Channels j).Max
  free : (s.Bands (s.Channels j).Band.toNat).TimeOff = 0
  join : s.IsLoRaMacNetworkJoined = false → defaultChannels.toNat.testBit j = true

/-- At the next reading of the clock so much is left of the aggregated time off, or of the time off
of some band. -/
def Mac.Remains (s : Mac) (time : Nat) : Prop :=
  time ≤ s.AggregatedTimeOff.toNat -
      (s.env.elapsed s.board.reads s.AggregatedLastTxDoneTime).toNat ∨
    ∃ i < LORA_MAX_NB_BANDS, time ≤ (s.Bands i).TimeOff.toNat -
      (s.env.elapsed s.board.reads (s.Bands i).LastTxDoneTime).toNat

instance (s : Mac) (time : Nat) : Decidable (s.Remains time) :=
  inferInstanceAs (Decidable (_ ∨ ∃ i < LORA_MAX_NB_BANDS, _))

/-- What `SetNextChannel` returns in state `s` is sound: with the time 0 a channel that may be
used, and otherwise a delay that some time off accounts for. -/
def Sound (s : Mac) (result : Bool × TimerTime_t × Mac) : Prop :=
  result.1 = true →
    (result.2.1 = 0 → Usable result.2.2 result.2.2.Channel.toNat) ∧
      (result.2.1 ≠ 0 → s.Remains result.2.1.toNat)

def Mac.onChannel (s : Mac) (Channel : UInt8) : Mac := { s with Channel := Channel }

/-- `SetNextChannel` is sound whichever channel was used before: a channel that it returns is one
that it has set. -/
def SelectsSoundly (s : Mac) : Prop := ∀ Channel, Sound s (SetNextChannel (s.onChannel Channel))

theorem lt_of_testBit {mask : UInt16} {j : Nat} (h : mask.toNat.testBit j = true) : j < 16 := by
  by_contra hge
  have hbound : 2 ^ 16 ≤ 2 ^ j := Nat.pow_le_pow_right (by decide) (Nat.not_lt.mp hge)
  rw [Nat.testBit_lt_two_pow (Nat.lt_of_lt_of_le mask.toNat_lt hbound)] at h
  cases h

theorem mem_enabledChannels {s : Mac} {j : Nat} : j ∈ enabledChannels s ↔ Usable s j := by
  unfold enabledChannels candidateChannels
  simp only [List.mem_filter, List.mem_range, LORA_MAX_NB_CHANNELS, Bool.and_eq_true, bne_iff_ne,
    decide_eq_true_eq, Bool.or_eq_true]
  constructor
  · rintro ⟨⟨-, ⟨⟨hmask, hfrequency⟩, hjoin⟩, hdatarate⟩, hfree⟩
    refine ⟨hmask, hfrequency, hdatarate, hfree, fun hout => hjoin.resolve_left ?_⟩
    rw [hout]
    exact Bool.false_ne_true
  · rintro ⟨hmask, hfrequency, hdatarate, hfree, hjoin⟩
    refine ⟨⟨lt_of_testBit hmask, ⟨⟨hmask, hfrequency⟩, ?_⟩, hdatarate⟩, hfree⟩
    cases hout : s.IsLoRaMacNetworkJoined with
    | false => exact .inr (hjoin hout)
    | true => exact .inl rfl

theorem usable_of_mem {s : Mac} {j : Nat} (h : j ∈ enabledChannels s) (board : Board) :
    Usable { s with board := board, Channel := UInt8.ofNat j } (UInt8.ofNat j).toNat := by
  have hlt := List.mem_range.mp (List.mem_filter.mp (List.mem_filter.mp h).1).1
  have hj : (UInt8.ofNat j).toNat = j :=
    UInt8.toNat_ofNat_of_lt (Nat.lt_trans hlt (by decide))
  have husable := mem_enabledChannels.mp h
  rw [hj]
  exact ⟨husable.mask, husable.frequency, husable.datarate, husable.free, husable.join⟩

/-- The choice is sound if there is a channel to choose, or none at all; otherwise it depends on
the delay. -/
theorem sound_pickChannel_iff (s t : Mac) (delay : TimerTime_t) :
    Sound s (pickChannel t delay) ↔
      enabledChannels t ≠ [] ∨ candidateChannels t = [] ∨ delay ≠ 0 ∧ s.Remains delay.toNat := by
  unfold pickChannel
  split
  · next hsome =>
    refine iff_of_true (fun _ => ⟨fun _ => ?_, fun hne => absurd rfl hne⟩)
      (.inl (List.ne_nil_of_length_pos hsome))
    have hr := randr_lt t hsome (length_enabledChannels_le t)
    have hmem := List.getElem_mem hr
    rw [← List.getD_eq_getElem _ 0 hr] at hmem
    exact usable_of_mem hmem _
  · next hnone =>
    have henabled : enabledChannels t = [] := List.eq_nil_of_length_eq_zero (by omega)
    split
    · next hcandidates =>
      have hsome : candidateChannels t ≠ [] := List.ne_nil_of_length_pos hcandidates
      constructor
      · intro hsound
        obtain ⟨hzero, hdelay⟩ := hsound rfl
        have hne : delay ≠ 0 := by
          intro h
          have hmem := mem_enabledChannels.mpr (hzero h)
          dsimp only at hmem
          rw [henabled] at hmem
          cases hmem
        exact .inr (.inr ⟨hne, hdelay hne⟩)
      · rintro (h | h | ⟨hne, hremains⟩) -
        · exact absurd henabled h
        · exact absurd h hsome
        · exact ⟨fun h => absurd h hne, fun _ => hremains⟩
    · next hcandidates =>
      exact iff_of_true nofun (.inr (.inl (List.eq_nil_of_length_eq_zero (by omega))))

/-- The difference between the time off and the time that has passed is a delay that some time off
accounts for: the time off still runs, or it is over, the difference has wrapped round, and as much
is left of another one. -/
def Mac.Accounts (s : Mac) (TimeOff elapsed : TimerTime_t) : Prop :=
  elapsed < TimeOff ∨
    TimeOff < elapsed ∧ s.Remains (4294967296 - (elapsed.toNat - TimeOff.toNat))

instance (s : Mac) (TimeOff elapsed : TimerTime_t) : Decidable (s.Accounts TimeOff elapsed) :=
  inferInstanceAs (Decidable (_ ∨ _ ∧ _))

theorem accounts_iff {s : Mac} {TimeOff elapsed : TimerTime_t}
    (h : s.Remains (TimeOff.toNat - elapsed.toNat)) :
    TimeOff - elapsed ≠ 0 ∧ s.Remains (TimeOff - elapsed).toNat ↔ s.Accounts TimeOff elapsed := by
  obtain hlt | heq | hgt := Nat.lt_trichotomy elapsed.toNat TimeOff.toNat
  · rw [← UInt32.lt_iff_toNat_lt] at hlt
    rw [UInt32.toNat_sub_of_le _ _ (UInt32.le_of_lt hlt)]
    exact iff_of_true ⟨sub_ne_zero_of_lt hlt, h⟩ (.inl hlt)
  · obtain rfl := UInt32.toNat_inj.mp heq
    refine iff_of_false (fun hne => hne.1 (UInt32.sub_self elapsed)) ?_
    rintro (hlt | ⟨hlt, -⟩)
    · exact UInt32.lt_irrefl _ hlt
    · exact UInt32.lt_irrefl _ hlt
  · have hover := UInt32.lt_iff_toNat_lt.mpr hgt
    have hsub : (TimeOff - elapsed).toNat = 4294967296 - (elapsed.toNat - TimeOff.toNat) := by
      have hbound := elapsed.toNat_lt
      rw [UInt32.toNat_sub]
      omega
    have hne : TimeOff - elapsed ≠ 0 := by
      intro hzero
      have hbound := elapsed.toNat_lt
      rw [hzero] at hsub
      change 0 = _ at hsub
      omega
    unfold Mac.Accounts
    rw [and_iff_right hne, hsub,
      or_iff_right fun hlt => UInt32.lt_irrefl _ (UInt32.lt_trans hlt hover), and_iff_right hover]

/-- Some time off accounts for the delay of the band that is waited for. -/
def Mac.AccountsFor (s : Mac) : Option (Nat × Nat) → Prop
  | none => s.Remains 4294967295
  | some (i, r) => s.Accounts (s.Bands i).TimeOff (s.since i r)

instance (s : Mac) : (awaited : Option (Nat × Nat)) → Decidable (s.AccountsFor awaited)
  | none => inferInstanceAs (Decidable (s.Remains _))
  | some (i, r) => inferInstanceAs (Decidable (s.Accounts (s.Bands i).TimeOff (s.since i r)))

section Steady

variable {s : Mac} (hsteady : s.Steady)
include hsteady

/-- A time off that runs has no more left at a later reading. -/
theorem elapsed_grown {savedTime : TimerTime_t} (hmem : savedTime ∈ s.savedTimes) {r : Nat}
    (hr : s.board.reads ≤ r)
    (htaken : savedTime ≠ 0 → r < (SetNextChannel s).2.2.board.reads) (TimeOff : TimerTime_t) :
    TimeOff.toNat - (s.env.elapsed r savedTime).toNat ≤
      TimeOff.toNat - (s.env.elapsed s.board.reads savedTime).toNat := by
  refine Nat.sub_le_sub_left ?_ _
  by_cases hsaved : savedTime = 0
  · rw [hsaved, elapsed_zero, elapsed_zero]
  · exact UInt32.le_iff_toNat_le.mp (hsteady _ hmem _ r (Nat.le_refl _) hr (htaken hsaved))

theorem remains_aggregated (hlimited : s.Limited) :
    s.Remains (s.AggregatedTimeOff.toNat -
      (s.env.elapsed (s.board.reads + 1) s.AggregatedLastTxDoneTime).toNat) := by
  refine .inl (elapsed_grown hsteady List.mem_cons_self (Nat.le_succ _) (fun hsaved => ?_) _)
  rw [SetNextChannel_of_limited hlimited, cost_of_ne_zero hsaved]
  exact Nat.lt_succ_self _

theorem remains_band {i r : Nat} (hi : i < LORA_MAX_NB_BANDS) (hr : s.board.reads ≤ r)
    (htaken : (s.Bands i).LastTxDoneTime ≠ 0 → r < (SetNextChannel s).2.2.board.reads) :
    s.Remains ((s.Bands i).TimeOff.toNat - (s.since i r).toNat) := by
  have hmem : (s.Bands i).LastTxDoneTime ∈ s.savedTimes :=
    List.mem_cons_of_mem _ (List.mem_map.mpr ⟨i, List.mem_range.mpr hi, rfl⟩)
  exact .inr ⟨i, hi, elapsed_grown hsteady hmem hr htaken _⟩

theorem accountsFor_iff (hlifted : ¬s.Limited) (hduty : s.DutyCycleOn = true) :
    (updateBands s.lifted).1 ≠ 0 ∧ s.Remains (updateBands s.lifted).1.toNat ↔
      s.AccountsFor (s.outlook LORA_MAX_NB_BANDS).awaited := by
  obtain ⟨hdelay, hreads⟩ := comesTo_outlook hduty LORA_MAX_NB_BANDS
  change (updateBands s.lifted).1 = _ at hdelay
  change (updateBands s.lifted).2.board.reads = _ at hreads
  have htaken : (SetNextChannel s).2.2.board.reads = (s.outlook LORA_MAX_NB_BANDS).reading := by
    rw [SetNextChannel_of_lifted hlifted, (pickChannel_spec _ _).2.1, hreads]
  have hawaited := (outlook_spec s LORA_MAX_NB_BANDS).2
  rw [← htaken] at hawaited
  rw [hdelay]
  generalize (s.outlook LORA_MAX_NB_BANDS).awaited = awaited at hawaited
  match awaited with
  | none => exact and_iff_right (show (0xFFFFFFFF : TimerTime_t) ≠ 0 by decide)
  | some (i, r) =>
    obtain ⟨hi, hr, hlast⟩ := hawaited i r rfl
    exact accounts_iff (remains_band hsteady hi hr hlast)

end Steady

/-- The readings of the clock decide as they should. The aggregated limit that holds at the first
reading holds at the second one. Where it does not hold, no channel takes the data rate, or the
loop finds the band of such a channel free, or the band that it waits for is still closed at the
reading which the delay is computed from. -/
def Mac.Decided (s : Mac) : Prop :=
  s.Limited ∧ s.Accounts s.AggregatedTimeOff
      (s.env.elapsed (s.board.reads + 1) s.AggregatedLastTxDoneTime) ∨
    ¬s.Limited ∧ (candidateChannels (ensureMask s) = [] ∨
      (∃ j ∈ candidateChannels (ensureMask s), s.FoundFree (s.Channels j).Band.toNat) ∨
        s.DutyCycleOn = true ∧ s.AccountsFor (s.outlook LORA_MAX_NB_BANDS).awaited)

theorem updateBand_onChannel (delay : TimerTime_t) (s : Mac) (i : Nat) (Channel : UInt8) :
    updateBand delay (s.onChannel Channel) i =
      ((updateBand delay s i).1, (updateBand delay s i).2.onChannel Channel) := by
  cases hduty : s.DutyCycleOn with
  | false =>
    unfold updateBand
    rw [if_pos hduty, if_pos (show (s.onChannel Channel).DutyCycleOn = false from hduty)]
    rfl
  | true =>
    have hduty' : (s.onChannel Channel).DutyCycleOn = true := hduty
    rw [updateBand_eq hduty, updateBand_eq hduty']
    dsimp only [Mac.onChannel]
    split
    · rfl
    · split <;> rfl

/-- The loop over the bands does not depend on the channel. -/
theorem updateBands_onChannel (s : Mac) (Channel : UInt8) :
    updateBands (s.onChannel Channel).lifted =
      ((updateBands s.lifted).1, (updateBands s.lifted).2.onChannel Channel) := by
  have hfold (bands : List Nat) (x : TimerTime_t × Mac) :
      bands.foldl (fun x i => updateBand x.1 x.2 i) (x.1, x.2.onChannel Channel) =
        ((bands.foldl (fun x i => updateBand x.1 x.2 i) x).1,
          (bands.foldl (fun x i => updateBand x.1 x.2 i) x).2.onChannel Channel) := by
    induction bands generalizing x with
    | nil => rfl
    | cons i bands ih =>
      rw [List.foldl_cons, List.foldl_cons, updateBand_onChannel, ih]
  have hlifted : (s.onChannel Channel).lifted = s.lifted.onChannel Channel := by
    have hmask : ensureMask (s.onChannel Channel) = (ensureMask s).onChannel Channel := by
      unfold ensureMask
      change (if CountBits s.LoRaMacParams.ChannelsMask 16 = 0 then _ else _) = _
      split <;> rfl
    unfold Mac.lifted
    rw [hmask]
    rfl
  unfold updateBands
  rw [hlifted]
  exact hfold (List.range LORA_MAX_NB_BANDS) (0xFFFFFFFF, s.lifted)

/-- The clock is read again only where a time has been saved. -/
theorem elapsed_add_cost (env : Env) (r : Nat) (savedTime : TimerTime_t) :
    env.elapsed (r + cost savedTime) savedTime = env.elapsed (r + 1) savedTime := by
  by_cases hsaved : savedTime = 0
  · rw [hsaved]
    rfl
  · rw [cost_of_ne_zero hsaved]

/-- While the aggregated limit holds, no channel is set: the delay has to be sound. -/
theorem selectsSoundly_of_limited {s : Mac} (hsteady : s.Steady) (hlimited : s.Limited) :
    SelectsSoundly s ↔ s.Accounts s.AggregatedTimeOff
      (s.env.elapsed (s.board.reads + 1) s.AggregatedLastTxDoneTime) := by
  have hsecond := elapsed_add_cost s.env s.board.reads s.AggregatedLastTxDoneTime
  have hturn (Channel : UInt8) := SetNextChannel_of_limited (s := s.onChannel Channel) hlimited
  rw [← accounts_iff (remains_aggregated hsteady hlimited), ← hsecond]
  constructor
  · intro hsound
    have hresult := hsound 255
    rw [hturn 255] at hresult
    obtain ⟨hzero, hdelay⟩ := hresult rfl
    have hne : s.AggregatedTimeOff - s.env.elapsed
        (s.board.reads + cost s.AggregatedLastTxDoneTime) s.AggregatedLastTxDoneTime ≠ 0 := by
      intro h
      have hlt := lt_of_testBit (hzero h).mask
      obtain ⟨mask, hmask⟩ := ensureMask_eq (s.onChannel 255)
      change (ensureMask (s.onChannel 255)).Channel.toNat < 16 at hlt
      rw [hmask] at hlt
      change (255 : UInt8).toNat < 16 at hlt
      exact absurd hlt (by decide)
    exact ⟨hne, hdelay hne⟩
  · rintro ⟨hne, hremains⟩ Channel
    rw [hturn Channel]
    exact fun _ => ⟨fun hzero => absurd hzero hne, fun _ => hremains⟩

theorem selectsSoundly_of_lifted {s : Mac} (hlifted : ¬s.Limited) :
    SelectsSoundly s ↔ candidateChannels (ensureMask s) = [] ∨
      (∃ j ∈ candidateChannels (ensureMask s), s.FoundFree (s.Channels j).Band.toNat) ∨
        (updateBands s.lifted).1 ≠ 0 ∧ s.Remains (updateBands s.lifted).1.toNat := by
  have hturn (Channel : UInt8) : SetNextChannel (s.onChannel Channel) =
      pickChannel ((updateBands s.lifted).2.onChannel Channel) (updateBands s.lifted).1 := by
    rw [SetNextChannel_of_lifted (s := s.onChannel Channel) hlifted, updateBands_onChannel]
  have htouched := touched_updateBands s.lifted
  have hlift : candidateChannels s.lifted = candidateChannels (ensureMask s) ∧
      s.lifted.Channels = s.Channels := by
    unfold Mac.lifted
    obtain ⟨mask, hmask⟩ := ensureMask_eq s
    rw [hmask]
    exact ⟨rfl, rfl⟩
  have hcandidates : candidateChannels (updateBands s.lifted).2 =
      candidateChannels (ensureMask s) := htouched.candidateChannels_eq.trans hlift.1
  have hchannels : (updateBands s.lifted).2.Channels = s.Channels := by
    obtain ⟨Bands, board, htouched⟩ := htouched
    rw [htouched]
    exact hlift.2
  have henabled : enabledChannels (updateBands s.lifted).2 ≠ [] ↔
      ∃ j ∈ candidateChannels (ensureMask s), s.FoundFree (s.Channels j).Band.toNat := by
    unfold enabledChannels
    rw [hcandidates, hchannels, Ne, List.filter_eq_nil_iff]
    push Not
    simp only [decide_eq_true_eq, foundFree_iff]
  have hsound (Channel : UInt8) : Sound s (SetNextChannel (s.onChannel Channel)) ↔
      candidateChannels (ensureMask s) = [] ∨
        (∃ j ∈ candidateChannels (ensureMask s), s.FoundFree (s.Channels j).Band.toNat) ∨
          (updateBands s.lifted).1 ≠ 0 ∧ s.Remains (updateBands s.lifted).1.toNat := by
    rw [hturn, sound_pickChannel_iff, ← henabled, ← hcandidates]
    exact or_left_comm
  exact ⟨fun h => (hsound 0).mp (h 0), fun h Channel => (hsound Channel).mpr h⟩

/-- For every state, every draw and all elapsed times that do not decrease, `SetNextChannel` is
sound exactly when no time off runs off between the readings that it is judged by. The clock is read
again for the delay, and a time off that has ended by then leaves the time 0 and no channel, or a
delay that has wrapped round. -/
theorem selectsSoundly_iff {s : Mac} (hsteady : s.Steady) : SelectsSoundly s ↔ s.Decided := by
  unfold Mac.Decided
  by_cases hlimited : s.Limited
  · rw [selectsSoundly_of_limited hsteady hlimited, and_iff_right hlimited]
    exact (or_iff_left fun h => h.1 hlimited).symm
  · have hwaits : (updateBands s.lifted).1 ≠ 0 ∧ s.Remains (updateBands s.lifted).1.toNat ↔
        s.DutyCycleOn = true ∧ s.AccountsFor (s.outlook LORA_MAX_NB_BANDS).awaited := by
      cases hduty : s.DutyCycleOn with
      | false =>
        have hoff : s.lifted.DutyCycleOn = false := (comesTo_spec s 0).2.1.trans hduty
        have hzero : (updateBands s.lifted).1 = 0 :=
          foldl_updateBand_of_off (show List.range LORA_MAX_NB_BANDS ≠ [] by decide)
            (x := (0xFFFFFFFF, s.lifted)) hoff
        exact iff_of_false (fun h => h.1 hzero) fun h => Bool.false_ne_true h.1
      | true => exact (accountsFor_iff hsteady hlimited hduty).trans (and_iff_right rfl).symm
    rw [selectsSoundly_of_lifted hlimited, hwaits, and_iff_right hlimited]
    exact (or_iff_right fun h => hlimited h.1).symm

/-- A frame of 50 ms on channel 0 ended at 1000, on a node that may use half of the time. -/
def lapsing (clock : Nat → TimerTime_t) : Mac :=
  { Mac.personalised { Env.plain with clock := clock } with
    MaxDCycle := 1
    AggregatedDCycle := 2
    TxTimeOnAir := 50
    AggregatedLastTxDoneTime := 1000
    AggregatedTimeOff := 50
    Bands := fun i => if i = 1 then ⟨100, 1000, 4950⟩ else (Mac.boot Env.plain).Bands i
    Channel := 0
    LastTxChannel := 0 }

theorem steady_lapsing {clock : Nat → TimerTime_t} (hlow : ∀ n, 1000 ≤ clock n)
    (hclock : ∀ n k, n ≤ k → clock n ≤ clock k) : (lapsing clock).Steady := by
  intro savedTime hsaved n k _ hnk _
  have hcases : savedTime = 1000 ∨ savedTime = 0 := by
    change savedTime ∈ [1000, 0, 1000, 0, 0, 0] at hsaved
    simp only [List.mem_cons, List.not_mem_nil, or_false] at hsaved
    tauto
  obtain rfl | rfl := hcases
  · have helapsed (n : Nat) : (lapsing clock).env.elapsed n 1000 = clock n - 1000 := by
      unfold Env.elapsed
      rw [if_neg (by decide)]
      exact if_neg (UInt32.not_lt.mpr (hlow n))
    have hle := UInt32.le_iff_toNat_le.mp (hclock n k hnk)
    rw [helapsed, helapsed, UInt32.le_iff_toNat_le, UInt32.toNat_sub_of_le _ _ (hlow n),
      UInt32.toNat_sub_of_le _ _ (hlow k)]
    omega
  · exact UInt32.le_refl _

/-- With the clock at 1010 the aggregated limit delays the next frame by 40 ms, and with the clock
at 1060 the band does, by 4890 ms: just what is left of them. -/
theorem selectsSoundly_iff_waiting :
    (SetNextChannel (lapsing fun _ => 1010)).2.1 = 40 ∧ SelectsSoundly (lapsing fun _ => 1010) ∧
      (SetNextChannel (lapsing fun _ => 1060)).2.1 = 4890 ∧
        SelectsSoundly (lapsing fun _ => 1060) := by
  have hsteady {now : TimerTime_t} (hnow : 1000 ≤ now) : (lapsing fun _ => now).Steady :=
    steady_lapsing (fun _ => hnow) fun _ _ _ => UInt32.le_refl _
  refine ⟨by decide, (selectsSoundly_iff (hsteady (by decide))).mpr ?_, by decide,
    (selectsSoundly_iff (hsteady (by decide))).mpr ?_⟩
  · exact .inl ⟨by decide, by decide⟩
  · exact .inr ⟨by decide, .inr (.inr ⟨rfl, by decide +kernel⟩)⟩

/-- The aggregated limit holds at 1049 and has ended at 1050. `SetNextChannel` returns the time 0,
and the channel is the one of the last frame, whose band 1 is closed. -/
theorem not_sound_lapsing :
    let s := lapsing fun reads => if reads = 0 then 1049 else 1050
    s.Steady ∧ (SetNextChannel s).1 = true ∧ (SetNextChannel s).2.1 = 0 ∧
      (SetNextChannel s).2.2.Channel = 0 ∧ ((SetNextChannel s).2.2.Bands 1).TimeOff = 4950 ∧
        ¬Sound s (SetNextChannel s) := by
  refine ⟨steady_lapsing (fun n => ?_) (fun n k hnk => ?_), by decide, by decide, by decide,
    by decide, fun hsound => ?_⟩
  · split <;> decide
  · split
    · split <;> decide
    · rw [if_neg (by omega)]
      exact UInt32.le_refl _
  · have hfree := ((hsound (by decide)).1 (by decide)).free
    exact absurd hfree (by decide)

end loranode.mac
