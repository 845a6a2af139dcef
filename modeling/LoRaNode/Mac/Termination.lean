import LoRaNode.Mac.Selection
import LoRaNode.Mac.ChannelTable

namespace loranode.mac

open LoRaMacStatus_t

/-- The default channels take at least the data rates up to 5, from a lowest one on, and the
default data rate is one of those for some of them. -/
structure Defaulted (Channels : Nat → ChannelParams_t) (defaults : LoRaMacParams_t) : Prop where
  defined : ∀ i < 3, (Channels i).Frequency ≠ 0
  max : ∀ i < 3, 5 ≤ (Channels i).Max
  datarate : defaults.ChannelsDatarate ≤ 5
  min : ∃ i < 3, (Channels i).Min ≤ defaults.ChannelsDatarate

theorem Defaulted.supportsDefault {Channels : Nat → ChannelParams_t} {defaults : LoRaMacParams_t}
    (h : Defaulted Channels defaults) : SupportsDefault Channels defaults := by
  obtain ⟨i, hi, hmin⟩ := h.min
  refine ⟨i, hi, h.defined i hi, ValueInRange_eq_true.mpr ⟨hmin, ?_⟩⟩
  exact Int.le_trans h.datarate (h.max i hi)

/-- A channel behind the default ones may be replaced. -/
theorem Defaulted.update_of_le {Channels : Nat → ChannelParams_t} {defaults : LoRaMacParams_t}
    (h : Defaulted Channels defaults) {id : Nat} (hid : 3 ≤ id) {c : ChannelParams_t} :
    Defaulted (Function.update Channels id c) defaults := by
  have hkept (i : Nat) (hi : i < 3) : Function.update Channels id c i = Channels i :=
    Function.update_of_ne (by omega) c Channels
  obtain ⟨i, hi, hmin⟩ := h.min
  refine ⟨fun i hi => ?_, fun i hi => ?_, h.datarate, i, hi, ?_⟩
  · rw [hkept i hi]
    exact h.defined i hi
  · rw [hkept i hi]
    exact h.max i hi
  · rw [hkept i hi]
    exact hmin

/-- A default channel may be replaced by one that takes the default data rate. -/
theorem Defaulted.update_of_lt {Channels : Nat → ChannelParams_t} {defaults : LoRaMacParams_t}
    (h : Defaulted Channels defaults) {id : Nat} (hid : id < 3) {c : ChannelParams_t}
    (hdefined : c.Frequency ≠ 0) (hmin : c.Min ≤ defaults.ChannelsDatarate) (hmax : 5 ≤ c.Max) :
    Defaulted (Function.update Channels id c) defaults := by
  refine ⟨fun i hi => ?_, fun i hi => ?_, h.datarate, id, hid, ?_⟩
  · by_cases heq : i = id
    · rw [heq, Function.update_self]
      exact hdefined
    · rw [Function.update_of_ne heq]
      exact h.defined i hi
  · by_cases heq : i = id
    · rw [heq, Function.update_self]
      exact hmax
    · rw [Function.update_of_ne heq]
      exact h.max i hi
  · rw [Function.update_self]
    exact hmin

theorem defaulted_defaultChannelTable : Defaulted defaultChannelTable defaultParams := by
  refine ⟨fun i hi => ?_, fun i hi => ?_, Int.le_refl 5, 0, by decide, by decide⟩
  all_goals
    match i, hi with
    | 0, _ => decide
    | 1, _ => decide
    | 2, _ => decide

/-- A new value of a default channel is checked against the default data rate. -/
theorem range_of_datarateInvalid_default {s : Mac} {id : UInt8} {params : ChannelParams_t}
    (h : datarateInvalid s id params = false) (hid : id < 3) :
    params.Min ≤ s.LoRaMacParamsDefaults.ChannelsDatarate ∧ 5 ≤ params.Max := by
  unfold datarateInvalid at h
  simp only [Bool.or_eq_false_iff, Bool.and_eq_false_iff, Bool.not_eq_false', ValueInRange_eq_true,
    decide_eq_false_iff_not, not_lt, hid, decide_true, Bool.true_eq_false, false_or] at h
  exact ⟨h.2.1, h.2.2.1⟩

theorem defaulted_LoRaMacChannelAdd {s : Mac} (id : UInt8) (params : ChannelParams_t)
    (hs : Defaulted s.Channels s.LoRaMacParamsDefaults) :
    Defaulted (LoRaMacChannelAdd s id params).2.Channels
      (LoRaMacChannelAdd s id params).2.LoRaMacParamsDefaults := by
  unfold LoRaMacChannelAdd
  split
  · exact hs
  · split
    · exact hs
    · split
      · exact hs
      · exact hs
      · exact hs
      · next band hdatarate hfrequency =>
        obtain ⟨-, hfixed⟩ := channelBand_eq_some hfrequency
        by_cases hid : id < 3
        · obtain ⟨hmin, hmax⟩ := range_of_datarateInvalid_default hdatarate hid
          refine hs.update_of_lt hid ?_ hmin hmax
          change params.Frequency ≠ 0
          rw [hfixed hid]
          exact hs.defined _ hid
        · exact hs.update_of_le (Nat.le_of_not_lt hid)

theorem defaulted_LoRaMacChannelRemove {s : Mac} (id : UInt8)
    (hs : Defaulted s.Channels s.LoRaMacParamsDefaults) :
    Defaulted (LoRaMacChannelRemove s id).2.Channels
      (LoRaMacChannelRemove s id).2.LoRaMacParamsDefaults := by
  unfold LoRaMacChannelRemove
  split
  · exact hs
  · split
    · exact hs
    · next hid => exact hs.update_of_le (Nat.le_of_not_lt fun hlow => hid (.inl hlow))

/-- The functions of the channel table check the default channels, and nothing else writes to them
or to the default data rate but the upper layer. -/
theorem kept_defaulted : Kept fun c => Defaulted c.Channels c.LoRaMacParamsDefaults where
  accepted := by
    intro s t hs h
    have hchannels : t.Channels = s.Channels := (congrArg Mac.Channels h.unaccepted :)
    have hdefaults : t.LoRaMacParamsDefaults = s.LoRaMacParamsDefaults :=
      (congrArg Mac.LoRaMacParamsDefaults h.unaccepted :)
    change Defaulted t.Channels t.LoRaMacParamsDefaults
    rw [hchannels, hdefaults]
    exact hs
  commanded _ hs := hs
  addMacCommand s cmd p1 p2 hs := by
    unfold AddMacCommand
    dsimp only
    split <;> exact hs
  schedule := by
    intro s t status h hs
    rcases ScheduleTx_cases h with ⟨-, -, rfl⟩ | ⟨-, -, u, hu, ht⟩
    · exact hs
    · have hchannels : u.Channels = s.Channels := (congrArg Mac.Channels hu.unchosen :)
      have hdefaults : u.LoRaMacParamsDefaults = s.LoRaMacParamsDefaults :=
        (congrArg Mac.LoRaMacParamsDefaults hu.unchosen :)
      have hu : Defaulted u.Channels u.LoRaMacParamsDefaults := by
        rw [hchannels, hdefaults]
        exact hs
      rcases ht with rfl | ⟨time, rfl⟩ <;> exact hu
  nextTrial hs := hs
  giveUpTrials hs := hs
  reset hs := hs
  datarate _ _ hs := hs
  channelAdd id params hs := defaulted_LoRaMacChannelAdd id params hs
  channelRemove id hs := defaulted_LoRaMacChannelRemove id hs

/-- What an event must meet: a default data rate that the upper layer sets is at most 5, and at
least the lowest one of some default channel. -/
def KeepsDefault (s : Mac) : Event → Prop
  | .request (.mib (.MIB_CHANNELS_DEFAULT_DATARATE datarate)) =>
    s.LoRaMacState.MAC_TX_RUNNING = false → 0 ≤ datarate → datarate ≤ 7 →
      datarate ≤ 5 ∧ ∃ i < 3, (s.Channels i).Min ≤ datarate
  | _ => True

theorem defaulted_mibSet {s : Mac} {r : MibSet} (hidle : s.LoRaMacState.MAC_TX_RUNNING = false)
    (he : KeepsDefault s (.request (.mib r)))
    (hs : Defaulted s.Channels s.LoRaMacParamsDefaults) :
    Defaulted (mibSet s r).2.Channels (mibSet s r).2.LoRaMacParamsDefaults := by
  have hset (valid : Bool) (p : LoRaMacParams_t) : Defaulted (setParams s valid p).2.Channels
      (setParams s valid p).2.LoRaMacParamsDefaults := by
    unfold setParams
    split <;> exact hs
  cases r with
  | MIB_CHANNELS_DEFAULT_DATARATE datarate =>
    rw [mibSet]
    split
    · next hrange =>
      obtain ⟨hlow, hhigh⟩ := ValueInRange_eq_true.mp hrange
      obtain ⟨hmax, hmin⟩ := he hidle hlow hhigh
      exact ⟨hs.defined, hs.max, hmax, hmin⟩
    · exact hs
  | MIB_DEVICE_CLASS Class =>
    cases Class with
    | CLASS_A => exact hs
    | CLASS_B => exact hs
    | CLASS_C => exact kept_defaulted.light (light_OnRxWindow2TimerEvent
        { s with LoRaMacDeviceClass := .CLASS_C, NodeAckRequested := false }) hs
  | MIB_NWK_SKEY NwkSKey => cases NwkSKey <;> exact hs
  | MIB_APP_SKEY AppSKey => cases AppSKey <;> exact hs
  | MIB_NETWORK_JOINED | MIB_ADR | MIB_NET_ID | MIB_DEV_ADDR | MIB_PUBLIC_NETWORK
  | MIB_REPEATER_SUPPORT | MIB_UPLINK_COUNTER | MIB_DOWNLINK_COUNTER | MIB_CHANNELS
  | MIB_MULTICAST_CHANNEL => exact hs
  | _ => exact hset _ _

theorem defaulted_step {s t : Mac} {e : Event} (h : step s e = some t) (he : KeepsDefault s e)
    (hs : Defaulted s.Channels s.LoRaMacParamsDefaults) :
    Defaulted t.Channels t.LoRaMacParamsDefaults := by
  refine kept_step kept_defaulted h ?_ ?_ ?_ hs
  · intro r u macHdr _ _ _ hu
    have hprepare := unprepared_PrepareFrame u macHdr ⟨0, false, false, false, u.AdrCtrlOn⟩ r.fPort
      r.fBuffer r.fBufferSize
    generalize (PrepareFrame u macHdr ⟨0, false, false, false, u.AdrCtrlOn⟩ r.fPort r.fBuffer
      r.fBufferSize).2 = v at hprepare ⊢
    have hchannels : v.Channels = u.Channels := (congrArg Mac.Channels hprepare :)
    have hdefaults : v.LoRaMacParamsDefaults = u.LoRaMacParamsDefaults :=
      (congrArg Mac.LoRaMacParamsDefaults hprepare :)
    change Defaulted v.Channels v.LoRaMacParamsDefaults
    rw [hchannels, hdefaults]
    exact hu
  · rintro r rfl hidle
    exact defaulted_mibSet hidle he hs
  · intro u frame _ _ _ _ _ _ _ hu
    exact kept_openSession kept_defaulted _ _ hu id

/-- In every state that the MAC reaches by such events the loop of `ScheduleTx` ends, also where
it is called in the course of an event: with the channels and the defaults of that state, and
anything else as it may be. -/
theorem exits_of_keepsDefault {env : Env} {es : List Event} {t : Mac}
    (hrun : Runs KeepsDefault (Mac.boot env) es t) (u : Mac) (hchannels : u.Channels = t.Channels)
    (hdefaults : u.LoRaMacParamsDefaults = t.LoRaMacParamsDefaults) : Exits u := by
  have ht : Defaulted t.Channels t.LoRaMacParamsDefaults :=
    hrun.invariant (P := fun t => Defaulted t.Channels t.LoRaMacParamsDefaults)
      defaulted_defaultChannelTable fun _ _ _ hs he hstep => defaulted_step hstep he hs
  apply exits_of_supportsDefault
  rw [hchannels, hdefaults]
  exact ht.supportsDefault

theorem exits_of_keepsDefault_lowered :
    ∃ t, Runs KeepsDefault (Mac.boot Env.plain)
        [.request (.mib (.MIB_CHANNELS_DEFAULT_DATARATE 3)),
          .request (.mib (.MIB_CHANNELS_DATARATE 7))] t ∧
      t.LoRaMacParamsDefaults.ChannelsDatarate = 3 ∧ t.LoRaMacParams.ChannelsDatarate = 7 ∧
      Exits t := by
  have hrun : Runs KeepsDefault (Mac.boot Env.plain)
      [.request (.mib (.MIB_CHANNELS_DEFAULT_DATARATE 3)),
        .request (.mib (.MIB_CHANNELS_DATARATE 7))] _ :=
    .cons (fun _ _ _ => ⟨by decide, 0, by decide, by decide⟩) rfl (.cons trivial rfl .nil)
  exact ⟨_, hrun, rfl, rfl, exits_of_keepsDefault hrun _ rfl rfl⟩

/-- The upper layer chooses a data rate that only a further channel could take, and makes it the
default. -/
def defaultSix : List Event :=
  [.request (.mib (.MIB_NETWORK_JOINED true)),
    .request (.mib (.MIB_CHANNELS_DEFAULT_DATARATE 6)),
    .request (.mib (.MIB_CHANNELS_DATARATE 6))]

/-- The loop of `ScheduleTx` does not end then, and a request to send does not return. -/
theorem not_exits_defaultSix :
    ∃ t, Runs (fun _ _ => True) (Mac.boot Env.plain) defaultSix t ∧ ¬Exits t ∧
      step t (.request (.mcps (.Unconfirmed 1 (some fun _ => 0) 1 6))) = none := by
  obtain ⟨t, hrun, ht⟩ := transition.Run.of_after step (fun _ _ => True) (Mac.boot Env.plain)
    defaultSix (fun t => (ScheduleTx t).isNone &&
      (step t (.request (.mcps (.Unconfirmed 1 (some fun _ => 0) 1 6)))).isNone) (by decide +kernel)
  rw [Bool.and_eq_true, Option.isNone_iff_eq_none, Option.isNone_iff_eq_none] at ht
  refine ⟨t, hrun, ?_, ht.2⟩
  rw [exits_iff, ht.1]
  exact Bool.false_ne_true

end loranode.mac
