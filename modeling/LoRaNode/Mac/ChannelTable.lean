import LoRaNode.Mac.Config

namespace loranode.mac

open LoRaMacStatus_t

/-- The sub-bands of EU868 in Hz, the first with index 0. -/
def subBands : List (Nat × Nat) :=
  [(865000000, 868000000), (868000000, 868600000), (868700000, 869200000),
    (869400000, 869650000), (869700000, 870000000)]

/-- The sub-band with index `b` contains the frequency `f`. -/
def InSubBand (b : UInt8) (f : UInt32) : Prop :=
  ∃ low high, subBands[b.toNat]? = some (low, high) ∧ low ≤ f.toNat ∧ f.toNat ≤ high

theorem inSubBand_of_bandOfFrequency {f : UInt32} {b : UInt8} (h : bandOfFrequency f = some b) :
    InSubBand b f := by
  unfold bandOfFrequency at h
  split_ifs at h with h0 h1 h2 h3 h4 <;> cases h
  · exact ⟨865000000, 868000000, rfl, h0.1, h0.2⟩
  · exact ⟨868000000, 868600000, rfl, Nat.le_of_lt h1.1, h1.2⟩
  · exact ⟨868700000, 869200000, rfl, h2.1, h2.2⟩
  · exact ⟨869400000, 869650000, rfl, h3.1, h3.2⟩
  · exact ⟨869700000, 870000000, rfl, h4.1, h4.2⟩

/-- Every channel in use has a range of data rates that makes sense and the band of its
frequency, and the default channels keep their frequencies. -/
structure Consistent (Channels : Nat → ChannelParams_t) : Prop where
  range : ∀ i, (Channels i).Frequency ≠ 0 →
    0 ≤ (Channels i).Min ∧ (Channels i).Min ≤ (Channels i).Max ∧ (Channels i).Max ≤ 7
  band : ∀ i, (Channels i).Frequency ≠ 0 →
    bandOfFrequency (Channels i).Frequency = some (Channels i).Band
  fixed : ∀ i < 3, (Channels i).Frequency = (defaultChannelTable i).Frequency

theorem consistent_defaultChannelTable : Consistent defaultChannelTable := by
  refine ⟨fun i h => ?_, fun i h => ?_, fun _ _ => rfl⟩
  all_goals
    match i with
    | 0 => decide
    | 1 => decide
    | 2 => decide
    | _ + 3 => exact absurd rfl h

/-- A table stays consistent when one of its channels is replaced by a consistent one. -/
theorem Consistent.update {Channels : Nat → ChannelParams_t} (hc : Consistent Channels) {id : Nat}
    {c : ChannelParams_t} (hrange : c.Frequency ≠ 0 → 0 ≤ c.Min ∧ c.Min ≤ c.Max ∧ c.Max ≤ 7)
    (hband : c.Frequency ≠ 0 → bandOfFrequency c.Frequency = some c.Band)
    (hfixed : id < 3 → c.Frequency = (Channels id).Frequency) :
    Consistent (Function.update Channels id c) := by
  refine ⟨fun i => ?_, fun i => ?_, fun i hi => ?_⟩
  · rcases eq_or_ne i id with rfl | hne
    · rw [Function.update_self]
      exact hrange
    · rw [Function.update_of_ne hne]
      exact hc.range i
  · rcases eq_or_ne i id with rfl | hne
    · rw [Function.update_self]
      exact hband
    · rw [Function.update_of_ne hne]
      exact hc.band i
  · rcases eq_or_ne i id with rfl | hne
    · rw [Function.update_self, hfixed hi]
      exact hc.fixed i hi
    · rw [Function.update_of_ne hne]
      exact hc.fixed i hi

theorem range_of_datarateInvalid {s : Mac} {id : UInt8} {params : ChannelParams_t}
    (h : datarateInvalid s id params = false) :
    0 ≤ params.Min ∧ params.Min ≤ params.Max ∧ params.Max ≤ 7 := by
  unfold datarateInvalid at h
  simp only [Bool.or_eq_false_iff, Bool.not_eq_false', ValueInRange_eq_true, decide_eq_false_iff_not,
    not_lt] at h
  obtain ⟨⟨⟨horder, hmin, -⟩, -, hmax⟩, -⟩ := h
  exact ⟨hmin, horder, hmax⟩

theorem channelBand_eq_some {s : Mac} {id : UInt8} {params : ChannelParams_t} {band : UInt8}
    (h : channelBand s id params = some band) :
    bandOfFrequency params.Frequency = some band ∧
      (id < 3 → params.Frequency = (s.Channels id.toNat).Frequency) := by
  unfold channelBand at h
  split at h
  · next hvalid =>
    refine ⟨h, fun hid => ?_⟩
    by_contra hne
    exact hvalid.2.2 ⟨hid, hne⟩
  · cases h

theorem consistent_LoRaMacChannelAdd {s : Mac} (id : UInt8) (params : ChannelParams_t)
    (hs : Consistent s.Channels) : Consistent (LoRaMacChannelAdd s id params).2.Channels := by
  unfold LoRaMacChannelAdd
  split
  · exact hs
  · split
    · exact hs
    · split
      · exact hs
      · exact hs
      · exact hs
      · next band hdatarate hfrequency =>
        obtain ⟨hband, hfixed⟩ := channelBand_eq_some hfrequency
        exact hs.update (fun _ => range_of_datarateInvalid hdatarate) (fun _ => hband) hfixed

theorem consistent_LoRaMacChannelRemove {s : Mac} (id : UInt8) (hs : Consistent s.Channels) :
    Consistent (LoRaMacChannelRemove s id).2.Channels := by
  unfold LoRaMacChannelRemove
  split
  · exact hs
  · split
    · exact hs
    · next hid =>
      refine hs.update (fun h => absurd rfl h) (fun h => absurd rfl h) fun hlow => ?_
      exact absurd (Or.inl hlow) hid

theorem channels_AddMacCommand (s : Mac) (cmd : LoRaMacMoteCmd_t) (p1 p2 : UInt8) :
    (AddMacCommand s cmd p1 p2).2.Channels = s.Channels := by
  unfold AddMacCommand
  dsimp only
  split <;> rfl

/-- Nothing but the functions of the channel table and the commands writes to it. -/
theorem kept_consistent : Kept fun c => Consistent c.Channels where
  accepted := by
    intro s t hs h
    have hchannels : t.Channels = s.Channels := (congrArg Mac.Channels h.unaccepted :)
    change Consistent t.Channels
    rw [hchannels]
    exact hs
  commanded _ hs := hs
  addMacCommand s cmd p1 p2 hs := by
    change Consistent (AddMacCommand s cmd p1 p2).2.Channels
    rw [channels_AddMacCommand]
    exact hs
  schedule := by
    intro s t status h hs
    rcases ScheduleTx_cases h with ⟨-, -, rfl⟩ | ⟨-, -, u, hu, ht⟩
    · exact hs
    · have hchannels : u.Channels = s.Channels := (congrArg Mac.Channels hu.unchosen :)
      have hu : Consistent u.Channels := by
        rw [hchannels]
        exact hs
      rcases ht with rfl | ⟨time, rfl⟩ <;> exact hu
  nextTrial hs := hs
  giveUpTrials hs := hs
  reset hs := hs
  datarate _ _ hs := hs
  channelAdd id params hs := consistent_LoRaMacChannelAdd id params hs
  channelRemove id hs := consistent_LoRaMacChannelRemove id hs

theorem consistent_step {s t : Mac} {e : Event} (h : step s e = some t)
    (hs : Consistent s.Channels) : Consistent t.Channels := by
  refine kept_step kept_consistent h ?_ ?_ ?_ hs
  · intro r u macHdr _ _ _ hu
    have hchannels : (PrepareFrame u macHdr ⟨0, false, false, false, u.AdrCtrlOn⟩ r.fPort r.fBuffer
        r.fBufferSize).2.Channels = u.Channels :=
      (congrArg Mac.Channels (unprepared_PrepareFrame u macHdr _ _ _ _) :)
    change Consistent _
    rw [Mac.config, hchannels]
    exact hu
  · intro r _ _
    exact kept_mibSet kept_consistent r hs fun _ _ => hs
  · intro u frame _ _ _ _ _ _ _ hu
    exact kept_openSession kept_consistent _ _ hu id

theorem LoRaMacChannelAdd_of_ne {s : Mac} {id : UInt8} {params : ChannelParams_t}
    (h : (LoRaMacChannelAdd s id params).1 ≠ LORAMAC_STATUS_OK) :
    (LoRaMacChannelAdd s id params).2 = s := by
  revert h
  unfold LoRaMacChannelAdd
  split
  · exact fun _ => rfl
  · split
    · exact fun _ => rfl
    · split
      · exact fun _ => rfl
      · exact fun _ => rfl
      · exact fun _ => rfl
      · exact fun h => absurd rfl h

theorem LoRaMacChannelRemove_of_ne {s : Mac} {id : UInt8}
    (h : (LoRaMacChannelRemove s id).1 ≠ LORAMAC_STATUS_OK) :
    (LoRaMacChannelRemove s id).2 = s := by
  revert h
  unfold LoRaMacChannelRemove
  split
  · exact fun _ => rfl
  · split
    · exact fun _ => rfl
    · exact fun h => absurd rfl h

/-- A new channel request that is not answered with 3 fails in one of the two functions, or
before it calls them. -/
theorem newChannel_of_ne {s : Mac} {channelIndex : UInt8} {chParam : ChannelParams_t}
    (h : (newChannel s channelIndex chParam).1 ≠ 0x03) :
    (newChannel s channelIndex chParam).2 = s := by
  revert h
  unfold newChannel
  split
  · split
    · exact fun _ => rfl
    · have hremove (h : (LoRaMacChannelRemove s channelIndex).1 ≠ LORAMAC_STATUS_OK) :=
        LoRaMacChannelRemove_of_ne h
      split <;> simp_all
  · have hadd (h : (LoRaMacChannelAdd s channelIndex chParam).1 ≠ LORAMAC_STATUS_OK) :=
      LoRaMacChannelAdd_of_ne h
    split <;> simp_all

/-- In every state that the MAC reaches from its initialisation the channel table is consistent, and
calls that fail do not change it. The events are arbitrary: requests, MAC commands and join-accepts
add and remove channels, and the mask follows the table. -/
theorem channelTable_consistent {env : Env} {es : List Event} {t : Mac}
    (hrun : Runs (fun _ _ => True) (Mac.boot env) es t) :
    (∀ i, (t.Channels i).Frequency ≠ 0 →
      0 ≤ (t.Channels i).Min ∧ (t.Channels i).Min ≤ (t.Channels i).Max ∧ (t.Channels i).Max ≤ 7 ∧
        InSubBand (t.Channels i).Band (t.Channels i).Frequency) ∧
    (∀ i < 3, (t.Channels i).Frequency = (defaultChannelTable i).Frequency) ∧
    ∀ u : Mac,
      (∀ id params, (LoRaMacChannelAdd u id params).1 ≠ LORAMAC_STATUS_OK →
        (LoRaMacChannelAdd u id params).2.Channels = u.Channels ∧
        (LoRaMacChannelAdd u id params).2.LoRaMacParams.ChannelsMask =
          u.LoRaMacParams.ChannelsMask) ∧
      (∀ id, (LoRaMacChannelRemove u id).1 ≠ LORAMAC_STATUS_OK →
        (LoRaMacChannelRemove u id).2.Channels = u.Channels ∧
        (LoRaMacChannelRemove u id).2.LoRaMacParams.ChannelsMask =
          u.LoRaMacParams.ChannelsMask) ∧
      ∀ id params, (newChannel u id params).1 ≠ 0x03 →
        (newChannel u id params).2.Channels = u.Channels ∧
        (newChannel u id params).2.LoRaMacParams.ChannelsMask = u.LoRaMacParams.ChannelsMask := by
  have ht : Consistent t.Channels := hrun.invariant (P := fun t => Consistent t.Channels)
    consistent_defaultChannelTable fun _ _ _ hs _ hstep => consistent_step hstep hs
  refine ⟨fun i hi => ?_, ht.fixed, fun u => ⟨fun id params h => ?_, fun id h => ?_,
    fun id params h => ?_⟩⟩
  · obtain ⟨hmin, horder, hmax⟩ := ht.range i hi
    exact ⟨hmin, horder, hmax, inSubBand_of_bandOfFrequency (ht.band i hi)⟩
  · rw [LoRaMacChannelAdd_of_ne h]
    exact ⟨rfl, rfl⟩
  · rw [LoRaMacChannelRemove_of_ne h]
    exact ⟨rfl, rfl⟩
  · rw [newChannel_of_ne h]
    exact ⟨rfl, rfl⟩

theorem channelTable_consistent_added :
    ∃ t, Runs (fun _ _ => True) (Mac.boot Env.plain)
        [.request (.channelAdd 3 ⟨867100000, 0x50, 0⟩), .request (.channelRemove 4)] t ∧
      t.LoRaMacParams.ChannelsMask = 0xF ∧
      InSubBand (t.Channels 3).Band (t.Channels 3).Frequency := by
  obtain ⟨t, hrun, ht⟩ := transition.Run.of_after step (fun _ _ => True) (Mac.boot Env.plain)
    [.request (.channelAdd 3 ⟨867100000, 0x50, 0⟩), .request (.channelRemove 4)]
    (fun t => t.LoRaMacParams.ChannelsMask == 0xF && (t.Channels 3).Frequency != 0)
    (by decide +kernel)
  rw [Bool.and_eq_true, beq_iff_eq, bne_iff_ne] at ht
  exact ⟨t, hrun, ht.1, ((channelTable_consistent hrun).1 3 ht.2).2.2.2⟩

end loranode.mac
