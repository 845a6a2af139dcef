import LoRaNode.Lib.Monitor
import LoRaNode.Mac.BackOff
import LoRaNode.Mac.ChannelTable
import LoRaNode.Mac.Cycle

open monitor

namespace loranode.mac

open LoRaMacStatus_t LoRaMacFrameType_t

/-- The frame on the air, and the frames whose end the radio has told, with its time. The last of
them comes first. -/
structure Airtime where
  onAir : Option Transmission
  ended : List (Transmission × TimerTime_t)

/-- The time for which a frame keeps a sub-band closed, behind its end. -/
def offTime (sent : Transmission) (b : UInt8) : Nat :=
  sent.TimeOnAir.toNat * ((defaultBands b.toNat).DCycle.toNat - 1)

/-- A frame may be sent when every frame that ended in its sub-band has kept it closed for as long
as the duty cycle asks for. -/
def dutyMonitor : Monitor Action Airtime where
  start := ⟨none, []⟩
  next air
    | .Send sent => { air with onAir := some sent }
    | .TxDone time => ⟨none, (air.onAir.map fun sent => (sent, time)).toList ++ air.ended⟩
    | .TxTimeout => { air with onAir := none }
    | _ => air
  ok air
    | .Send sent => ∀ f ∈ air.ended, ∀ b ∈ bandOfFrequency f.1.Frequency,
      bandOfFrequency sent.Frequency = some b → f.2.toNat + offTime f.1 b ≤ sent.started.toNat
    | _ => True

instance (air : Airtime) (a : Action) : Decidable (dutyMonitor.ok air a) :=
  match a with
  | .Send sent => inferInstanceAs (Decidable (∀ f ∈ air.ended,
      ∀ b ∈ bandOfFrequency f.1.Frequency, bandOfFrequency sent.Frequency = some b →
        f.2.toNat + offTime f.1 b ≤ sent.started.toNat))
  | .TxDone _ | .TxTimeout | .Accepted | .MacMcpsConfirm _ | .MacMlmeConfirm _
  | .MacMcpsIndication _ _ => .isTrue trivial

/-- The clock, the frames and the bands. -/
structure Meter where
  env : Env
  reads : Nat
  log : List Action
  Bands : Nat → Band_t
  DutyCycleOn : Bool

def Mac.meter (s : Mac) : Meter where
  env := s.env
  reads := s.board.reads
  log := s.board.log
  Bands := s.Bands
  DutyCycleOn := s.DutyCycleOn

namespace Meter

def air (m : Meter) : Airtime := dutyMonitor.after m.log

/-- The last reading of the clock. -/
def now (m : Meter) : Nat := (m.env.clock (m.reads - 1)).toNat

/-- A frame does not keep the sub-band closed any more. -/
def Passed (m : Meter) (f : Transmission × TimerTime_t) (b : UInt8) : Prop :=
  f.2.toNat + offTime f.1 b ≤ m.now

/-- The band is charged with at least what is left of the time for which a frame keeps it
closed. -/
def Covered (m : Meter) (f : Transmission × TimerTime_t) (b : UInt8) : Prop :=
  m.Passed f b ∨ (m.Bands b.toNat).TimeOff ≠ 0 ∧ f.2.toNat + offTime f.1 b ≤
    (m.Bands b.toNat).LastTxDoneTime.toNat + (m.Bands b.toNat).TimeOff.toNat

end Meter

/-- The bands are charged with every frame but the last one that ended, which is charged when the
next frame is scheduled. -/
structure Metered (m : Meter) : Prop where
  clock : ∀ i j, i ≤ j → (m.env.clock i).toNat ≤ (m.env.clock j).toNat
  dutyCycleOn : m.DutyCycleOn = true
  dCycle : ∀ b, (m.Bands b).DCycle = (defaultBands b).DCycle
  accepts : dutyMonitor.Accepts m.log
  last : ∀ f ∈ m.air.ended, ∃ b, bandOfFrequency f.1.Frequency = some b ∧
    f.2.toNat ≤ (m.Bands b.toNat).LastTxDoneTime.toNat ∧
    (m.Bands b.toNat).LastTxDoneTime.toNat ≤ m.now
  older : ∀ f ∈ m.air.ended.tail, ∀ b, bandOfFrequency f.1.Frequency = some b → m.Covered f b ∧
    ∀ h ∈ m.air.ended.head?, bandOfFrequency h.1.Frequency = some b → m.Passed f b
  onAir : ∀ h ∈ m.air.onAir, (∃ b, bandOfFrequency h.Frequency = some b) ∧
    ∀ f ∈ m.air.ended, ∀ b, bandOfFrequency f.1.Frequency = some b →
      m.Covered f b ∧ (bandOfFrequency h.Frequency = some b → m.Passed f b)

/-- What `ScheduleTx` reads of the state before it searches for a channel. -/
structure Charging extends Meter where
  IsLoRaMacNetworkJoined : Bool
  Channels : Nat → ChannelParams_t
  MaxDCycle : UInt8
  AggregatedDCycle : UInt16
  AggregatedLastTxDoneTime : TimerTime_t
  AggregatedTimeOff : TimerTime_t
  LastTxChannel : UInt8
  TxTimeOnAir : TimerTime_t

def Mac.charging (s : Mac) : Charging where
  toMeter := s.meter
  IsLoRaMacNetworkJoined := s.IsLoRaMacNetworkJoined
  Channels := s.Channels
  MaxDCycle := s.MaxDCycle
  AggregatedDCycle := s.AggregatedDCycle
  AggregatedLastTxDoneTime := s.AggregatedLastTxDoneTime
  AggregatedTimeOff := s.AggregatedTimeOff
  LastTxChannel := s.LastTxChannel
  TxTimeOnAir := s.TxTimeOnAir

namespace Charging

/-- The band that the last frame is charged to. -/
def band (s : Charging) : UInt8 := (s.Channels s.LastTxChannel.toNat).Band

/-- The time off of a band once the last frame is charged. -/
def timeOff (s : Charging) (i : Nat) : TimerTime_t :=
  if i = s.band.toNat then s.TxTimeOnAir * (s.Bands i).DCycle.toUInt32 - s.TxTimeOnAir
  else (s.Bands i).TimeOff

def aggregatedTimeOff (s : Charging) : TimerTime_t :=
  (if s.MaxDCycle = 0 then 0 else s.AggregatedTimeOff) +
    (s.TxTimeOnAir * s.AggregatedDCycle.toUInt32 - s.TxTimeOnAir)

end Charging

/-- What must hold where a frame is scheduled on a node that has joined: the last channel has the
band of the frame that ended last, which was not longer on the air than the frame that was sent
last; and no time off ends between two readings of the clock that this scheduling takes. They are
those before `high`. -/
structure Schedulable (s : Charging) (high : Nat) : Prop where
  joined : s.IsLoRaMacNetworkJoined = true
  last : ∀ f ∈ s.air.ended.head?, bandOfFrequency f.1.Frequency = some s.band ∧
    f.1.TimeOnAir.toNat ≤ s.TxTimeOnAir.toNat ∧
    s.TxTimeOnAir.toNat * (defaultBands s.band.toNat).DCycle.toNat < 2 ^ 32
  bands : ∀ i < LORA_MAX_NB_BANDS,
    Unlapsed s.env s.reads high (s.Bands i).LastTxDoneTime (s.timeOff i)
  aggregated : Unlapsed s.env s.reads high s.AggregatedLastTxDoneTime s.aggregatedTimeOff

/-- The clock is read, and times off are set. -/
structure Advanced (m m' : Meter) : Prop where
  env : m'.env = m.env
  reads : m.reads ≤ m'.reads
  log : m'.log = m.log
  dutyCycleOn : m'.DutyCycleOn = m.DutyCycleOn
  dCycle : ∀ b, (m'.Bands b).DCycle = (m.Bands b).DCycle
  last : ∀ b, (m'.Bands b).LastTxDoneTime = (m.Bands b).LastTxDoneTime

theorem Advanced.trans {m m' m'' : Meter} (h : Advanced m m') (h' : Advanced m' m'') :
    Advanced m m'' where
  env := h'.env.trans h.env
  reads := Nat.le_trans h.reads h'.reads
  log := h'.log.trans h.log
  dutyCycleOn := h'.dutyCycleOn.trans h.dutyCycleOn
  dCycle b := (h'.dCycle b).trans (h.dCycle b)
  last b := (h'.last b).trans (h.last b)

theorem Advanced.air {m m' : Meter} (h : Advanced m m') : m'.air = m.air :=
  congrArg dutyMonitor.after h.log

/-- Time does not go back. -/
theorem Metered.now_le {m m' : Meter} (hm : Metered m) (henv : m'.env = m.env)
    (hreads : m.reads ≤ m'.reads) : m.now ≤ m'.now := by
  unfold Meter.now
  rw [henv]
  exact hm.clock _ _ (Nat.sub_le_sub_right hreads 1)

theorem Meter.Passed.mono {m m' : Meter} {f : Transmission × TimerTime_t} {b : UInt8}
    (h : m.Passed f b) (hnow : m.now ≤ m'.now) : m'.Passed f b :=
  Nat.le_trans h hnow

theorem Metered.advance {m m' : Meter} (hm : Metered m) (h : Advanced m m')
    (hcovered : ∀ f ∈ m.air.ended, ∀ b, bandOfFrequency f.1.Frequency = some b → m'.Covered f b) :
    Metered m' := by
  have hnow := hm.now_le h.env h.reads
  refine ⟨?_, h.dutyCycleOn.trans hm.dutyCycleOn, fun b => (h.dCycle b).trans (hm.dCycle b), ?_,
    ?_, ?_, ?_⟩
  · rw [h.env]
    exact hm.clock
  · rw [h.log]
    exact hm.accepts
  · rw [h.air]
    intro f hf
    obtain ⟨b, hb, hend, hlast⟩ := hm.last f hf
    rw [← h.last] at hend hlast
    exact ⟨b, hb, hend, Nat.le_trans hlast hnow⟩
  · rw [h.air]
    intro f hf b hb
    refine ⟨hcovered f (List.mem_of_mem_tail hf) b hb, fun g hg hband => ?_⟩
    exact ((hm.older f hf b hb).2 g hg hband).mono hnow
  · rw [h.air]
    intro g hg
    obtain ⟨hband, hended⟩ := hm.onAir g hg
    refine ⟨hband, fun f hf b hb => ⟨hcovered f hf b hb, fun hgb => ?_⟩⟩
    exact ((hended f hf b hb).2 hgb).mono hnow

theorem Searched.advanced {s t : Mac} (h : Searched s t) :
    Advanced s.meter t.meter where
  env := h.env
  reads := h.le
  log := (congrArg (·.board.log) h.unchosen :)
  dutyCycleOn := (congrArg Mac.DutyCycleOn h.unchosen :)
  dCycle b := by
    change (t.Bands b).DCycle = (s.Bands b).DCycle
    rcases h.bands b with hkept | ⟨hfreed, -⟩
    · rw [hkept]
    · rw [hfreed]
  last b := by
    change (t.Bands b).LastTxDoneTime = (s.Bands b).LastTxDoneTime
    rcases h.bands b with hkept | ⟨hfreed, -⟩
    · rw [hkept]
    · rw [hfreed]

theorem end_le_of_elapsed {env : Env} {reading : Nat} {savedTime TimeOff : TimerTime_t}
    (hsaved : savedTime.toNat ≤ (env.clock reading).toNat) (hne : TimeOff ≠ 0)
    (hpassed : TimeOff ≤ env.elapsed reading savedTime) :
    savedTime.toNat + TimeOff.toNat ≤ (env.clock reading).toNat := by
  unfold Env.elapsed at hpassed
  split at hpassed
  · exact absurd (UInt32.le_antisymm hpassed UInt32.zero_le) hne
  · rw [if_neg (UInt32.not_lt.mpr hsaved)] at hpassed
    have hle : TimeOff.toNat ≤ (env.clock reading - savedTime).toNat := hpassed
    rw [UInt32.toNat_sub_of_le _ _ hsaved] at hle
    omega

/-- A band is freed only when the frames in it have kept it closed for long enough. -/
theorem Searched.covered {s t : Mac} (h : Searched s t)
    (hclock : ∀ i j, i ≤ j → (s.env.clock i).toNat ≤ (s.env.clock j).toNat)
    {f : Transmission × TimerTime_t} {b : UInt8}
    (hlast : (s.Bands b.toNat).LastTxDoneTime.toNat ≤ s.meter.now)
    (hcovered : s.meter.Covered f b) : t.meter.Covered f b := by
  have hnow : s.meter.now ≤ t.meter.now := by
    unfold Meter.now
    rw [h.advanced.env]
    exact hclock _ _ (Nat.sub_le_sub_right h.le 1)
  rcases hcovered with hpassed | ⟨hne, hle⟩
  · exact .inl (hpassed.mono hnow)
  · rcases h.bands b.toNat with hkept | ⟨-, r, hlow, hhigh, hpassed⟩
    · right
      change (t.Bands b.toNat).TimeOff ≠ 0 ∧ _ ≤
        (t.Bands b.toNat).LastTxDoneTime.toNat + (t.Bands b.toNat).TimeOff.toNat
      rw [hkept]
      exact ⟨hne, hle⟩
    · left
      have hreading : s.meter.now ≤ (s.env.clock r).toNat :=
        hclock _ _ (Nat.le_trans (Nat.sub_le _ _) hlow)
      have hnow' : (s.env.clock r).toNat ≤ t.meter.now := by
        unfold Meter.now
        rw [h.advanced.env]
        exact hclock _ _ (Nat.le_sub_one_of_lt hhigh)
      have hend := end_le_of_elapsed (Nat.le_trans hlast hreading) hne hpassed
      exact Nat.le_trans hle (Nat.le_trans hend hnow')

section BackedOff

variable {s : Mac} (hjoined : s.IsLoRaMacNetworkJoined = true) (hduty : s.DutyCycleOn = true)

include hjoined hduty

theorem backedOff_eq :
    s.backedOff = { setTimeOff s s.charging.band.toNat (s.charging.timeOff s.charging.band.toNat) with
      AggregatedTimeOff := s.charging.aggregatedTimeOff } := by
  have htimeOff : s.charging.timeOff s.charging.band.toNat =
      s.TxTimeOnAir * (s.Bands s.charging.band.toNat).DCycle.toUInt32 - s.TxTimeOnAir := if_pos rfl
  unfold Mac.backedOff updateTimeOff
  rw [htimeOff]
  split
  · next hzero =>
    rw [CalculateBackOff_of_joined (s := { s with AggregatedTimeOff := 0 }) hjoined hduty]
    have haggregated : s.charging.aggregatedTimeOff =
        0 + (s.TxTimeOnAir * s.AggregatedDCycle.toUInt32 - s.TxTimeOnAir) :=
      congrArg (· + _) (if_pos hzero)
    rw [haggregated]
    rfl
  · next hne =>
    rw [CalculateBackOff_of_joined hjoined hduty]
    have haggregated : s.charging.aggregatedTimeOff = s.AggregatedTimeOff +
        (s.TxTimeOnAir * s.AggregatedDCycle.toUInt32 - s.TxTimeOnAir) :=
      congrArg (· + _) (if_neg hne)
    rw [haggregated]
    rfl

/-- What the charge of the last frame does to the bands. -/
theorem Bands_backedOff (i : Nat) :
    s.backedOff.Bands i = { s.Bands i with TimeOff := s.charging.timeOff i } := by
  have hbands : s.backedOff.Bands = Function.update s.Bands s.charging.band.toNat
      { s.Bands s.charging.band.toNat with
        TimeOff := s.charging.timeOff s.charging.band.toNat } := by
    rw [backedOff_eq hjoined hduty]
    rfl
  rw [hbands]
  by_cases hi : i = s.charging.band.toNat
  · rw [hi, Function.update_self]
  · have hkept : s.charging.timeOff i = (s.Bands i).TimeOff := if_neg hi
    rw [Function.update_of_ne hi, hkept]

theorem advanced_backedOff : Advanced s.meter s.backedOff.meter := by
  have hbands := Bands_backedOff hjoined hduty
  refine ⟨?_, ?_, ?_, ?_, fun b => ?_, fun b => ?_⟩
  · rw [backedOff_eq hjoined hduty]
    rfl
  · rw [backedOff_eq hjoined hduty]
    exact Nat.le_refl _
  · rw [backedOff_eq hjoined hduty]
    rfl
  · rw [backedOff_eq hjoined hduty]
    rfl
  · exact (congrArg Band_t.DCycle (hbands b) :)
  · exact (congrArg Band_t.LastTxDoneTime (hbands b) :)

end BackedOff

theorem board_backedOff {s : Mac} (hjoined : s.IsLoRaMacNetworkJoined = true)
    (hduty : s.DutyCycleOn = true) : s.backedOff.board = s.board := by
  rw [backedOff_eq hjoined hduty]
  rfl

theorem one_le_DCycle (b : Nat) : 1 ≤ (defaultBands b).DCycle.toNat := by
  unfold defaultBands
  split <;> decide

/-- The charge of a frame does not overflow where the time on air is short enough. -/
theorem toNat_charge {TxTimeOnAir : TimerTime_t} {DCycle : UInt16} (hpos : 1 ≤ DCycle.toNat)
    (hsmall : TxTimeOnAir.toNat * DCycle.toNat < 2 ^ 32) :
    (TxTimeOnAir * DCycle.toUInt32 - TxTimeOnAir).toNat =
      TxTimeOnAir.toNat * (DCycle.toNat - 1) := by
  have hproduct : (TxTimeOnAir * DCycle.toUInt32).toNat = TxTimeOnAir.toNat * DCycle.toNat := by
    rw [UInt32.toNat_mul, UInt16.toNat_toUInt32, Nat.mod_eq_of_lt hsmall]
  have hle : TxTimeOnAir ≤ TxTimeOnAir * DCycle.toUInt32 := by
    rw [UInt32.le_iff_toNat_le, hproduct]
    exact Nat.le_mul_of_pos_right _ hpos
  rw [UInt32.toNat_sub_of_le _ _ hle, hproduct, Nat.mul_sub_one]

theorem toNat_timeOff {s : Mac} (hm : Metered s.meter)
    (hsmall : s.TxTimeOnAir.toNat * (defaultBands s.charging.band.toNat).DCycle.toNat < 2 ^ 32) :
    (s.charging.timeOff s.charging.band.toNat).toNat =
      s.TxTimeOnAir.toNat * ((defaultBands s.charging.band.toNat).DCycle.toNat - 1) := by
  have htimeOff : s.charging.timeOff s.charging.band.toNat =
      s.TxTimeOnAir * (s.Bands s.charging.band.toNat).DCycle.toUInt32 - s.TxTimeOnAir := if_pos rfl
  have hdCycle : (s.Bands s.charging.band.toNat).DCycle =
      (defaultBands s.charging.band.toNat).DCycle := hm.dCycle _
  rw [htimeOff, hdCycle]
  exact toNat_charge (one_le_DCycle _) hsmall

theorem timeOff_of_ne {s : Mac} {b : UInt8} (h : b ≠ s.charging.band) :
    s.charging.timeOff b.toNat = (s.Bands b.toNat).TimeOff :=
  if_neg fun heq => h (UInt8.toNat_inj.mp heq)

/-- The charge of the last frame covers it, and leaves the other frames covered. -/
theorem covered_backedOff {s : Mac} (hm : Metered s.meter) {high : Nat}
    (hs : Schedulable s.charging high) {f : Transmission × TimerTime_t}
    (hf : f ∈ s.meter.air.ended) {b : UInt8} (hb : bandOfFrequency f.1.Frequency = some b) :
    s.backedOff.meter.Covered f b := by
  have hadvanced := advanced_backedOff hs.joined hm.dutyCycleOn
  have hnow := hm.now_le hadvanced.env hadvanced.reads
  have hbands := Bands_backedOff hs.joined hm.dutyCycleOn b.toNat
  unfold Meter.Covered
  change _ ∨ (s.backedOff.Bands b.toNat).TimeOff ≠ 0 ∧ _ ≤
    (s.backedOff.Bands b.toNat).LastTxDoneTime.toNat + (s.backedOff.Bands b.toNat).TimeOff.toNat
  rw [hbands]
  dsimp only
  have hlast := hs.last
  have holder := hm.older
  obtain ⟨b', hb', hend, hlastNow⟩ := hm.last f hf
  obtain rfl : b' = b := Option.some.inj (hb'.symm.trans hb)
  change ∀ g ∈ s.meter.air.ended.head?, _ at hlast
  generalize s.meter.air.ended = ended at hf hlast holder
  cases hf with
  | head rest =>
    obtain ⟨hband, htime, hsmall⟩ := hlast f rfl
    obtain rfl : b' = s.charging.band := Option.some.inj (hb.symm.trans hband)
    have hcharge := toNat_timeOff hm hsmall
    have hoff : offTime f.1 s.charging.band ≤ (s.charging.timeOff s.charging.band.toNat).toNat := by
      rw [hcharge]
      exact Nat.mul_le_mul_right _ htime
    by_cases hzero : s.charging.timeOff s.charging.band.toNat = 0
    · left
      rw [hzero] at hoff
      have hnone : offTime f.1 s.charging.band = 0 := Nat.le_zero.mp hoff
      unfold Meter.Passed
      rw [hnone]
      exact Nat.le_trans hend (Nat.le_trans hlastNow hnow)
    · exact .inr ⟨hzero, Nat.add_le_add hend hoff⟩
  | @tail g rest hf =>
    obtain ⟨hcovered, hpassed⟩ := holder f hf b' hb
    by_cases heq : b' = s.charging.band
    · have hband := (hlast g rfl).1
      rw [← heq] at hband
      exact .inl ((hpassed g rfl hband).mono hnow)
    · rw [timeOff_of_ne heq]
      exact hcovered.imp_left fun h => h.mono hnow

/-- Another frame is on the air. -/
theorem air_Send {m : Meter} {sent : Transmission} {log : List Action}
    (hlog : log = m.log ++ [.Send sent]) :
    dutyMonitor.after log = { m.air with onAir := some sent } := by
  rw [hlog, Monitor.after_snoc]
  rfl

/-- A channel that is free can be used: the frames in its band do not keep it closed. -/
theorem metered_SendFrameOnChannel {u : Mac} (hm : Metered u.meter) (hchannels : Consistent u.Channels)
    (hcovered : ∀ f ∈ u.meter.air.ended, ∀ b, bandOfFrequency f.1.Frequency = some b →
      u.meter.Covered f b) (hfree : Free u) :
    Metered (SendFrameOnChannel u (u.Channels u.Channel.toNat)).meter := by
  have hband : bandOfFrequency (u.Channels u.Channel.toNat).Frequency =
      some (u.Channels u.Channel.toNat).Band := hchannels.band _ hfree.1
  have hpassed : ∀ f ∈ u.meter.air.ended, ∀ b, bandOfFrequency f.1.Frequency = some b →
      bandOfFrequency (u.Channels u.Channel.toNat).Frequency = some b → u.meter.Passed f b := by
    intro f hf b hb hsame
    rcases hcovered f hf b hb with hpassed | ⟨hne, -⟩
    · exact hpassed
    · obtain rfl := Option.some.inj (hband.symm.trans hsame)
      exact absurd hfree.2 hne
  have hair : (SendFrameOnChannel u (u.Channels u.Channel.toNat)).meter.air =
      { u.meter.air with onAir := some (transmission u (u.Channels u.Channel.toNat)) } :=
    air_Send rfl
  refine ⟨hm.clock, hm.dutyCycleOn, hm.dCycle, ?_, ?_, ?_, ?_⟩
  · refine Monitor.accepts_snoc.mpr ⟨hm.accepts, ?_⟩
    exact fun f hf b hb hsame => hpassed f hf b hb hsame
  · rw [hair]
    exact hm.last
  · rw [hair]
    exact hm.older
  · rw [hair]
    rintro _ ⟨⟩
    exact ⟨⟨_, hband⟩, fun f hf b hb => ⟨hcovered f hf b hb, hpassed f hf b hb⟩⟩

theorem metered_ScheduleTx {s t : Mac} {status : LoRaMacStatus_t}
    (h : ScheduleTx s = some (status, t)) (hm : Metered s.meter) (hchannels : Consistent s.Channels)
    (hs : Schedulable s.charging t.board.reads) : Metered t.meter := by
  have hadvanced := advanced_backedOff hs.joined hm.dutyCycleOn
  have hboard := board_backedOff hs.joined hm.dutyCycleOn
  have henv : s.backedOff.env = s.env := hadvanced.env
  have hbands := Bands_backedOff hs.joined hm.dutyCycleOn
  have haggregated : s.backedOff.AggregatedTimeOff = s.charging.aggregatedTimeOff := by
    rw [backedOff_eq hs.joined hm.dutyCycleOn]
  have hlastTime : s.backedOff.AggregatedLastTxDoneTime = s.AggregatedLastTxDoneTime := by
    rw [backedOff_eq hs.joined hm.dutyCycleOn]
    rfl
  have hstanding : Standing t.board.reads s.backedOff := by
    constructor
    · intro i hi
      rw [henv, hboard, hbands]
      exact hs.bands i hi
    · rw [henv, hboard, haggregated, hlastTime]
      exact hs.aggregated
  rcases ScheduleTx_backedOff h (hadvanced.dutyCycleOn.trans hm.dutyCycleOn) hstanding with
    rfl | ⟨u, hsearched, hout⟩
  · exact hm
  · have hclock : ∀ i j, i ≤ j →
        (s.backedOff.env.clock i).toNat ≤ (s.backedOff.env.clock j).toNat := by
      rw [henv]
      exact hm.clock
    have hcovered : ∀ f ∈ s.meter.air.ended, ∀ b, bandOfFrequency f.1.Frequency = some b →
        u.meter.Covered f b := by
      intro f hf b hb
      obtain ⟨b', hb', -, hlast⟩ := hm.last f hf
      obtain rfl : b' = b := Option.some.inj (hb'.symm.trans hb)
      refine hsearched.covered hclock ?_ (covered_backedOff hm hs hf hb)
      rw [hbands]
      exact Nat.le_trans hlast (hm.now_le hadvanced.env hadvanced.reads)
    have hsu := hadvanced.trans hsearched.advanced
    have hu := hm.advance hsu hcovered
    rw [← hsu.air] at hcovered
    rcases hout with ⟨time, rfl⟩ | ⟨hfree, rfl⟩
    · exact hu
    · refine metered_SendFrameOnChannel hu ?_ hcovered hfree
      have hchannels' : u.Channels = s.Channels := by
        refine (congrArg Mac.Channels hsearched.unchosen :).trans ?_
        rw [backedOff_eq hs.joined hm.dutyCycleOn]
        rfl
      rw [hchannels']
      exact hchannels

/-- Before a frame is scheduled, what its schedule depends on may have been left alone. -/
theorem metered_of_charging {s u t : Mac} {status : LoRaMacStatus_t}
    (h : ScheduleTx u = some (status, t)) (hcharging : u.charging = s.charging)
    (hm : Metered s.meter) (hchannels : Consistent s.Channels)
    (hs : Schedulable s.charging t.board.reads) : Metered t.meter := by
  have hsame : u.Channels = s.Channels := congrArg Charging.Channels hcharging
  have hmeter : u.meter = s.meter := congrArg Charging.toMeter hcharging
  refine metered_ScheduleTx h ?_ ?_ ?_
  · rw [hmeter]
    exact hm
  · rw [hsame]
    exact hchannels
  · rw [hcharging]
    exact hs

/-- The meter when the radio tells the end of a frame, which is entered in a band. -/
def Meter.landed (m : Meter) (c : UInt8) : Meter :=
  { m with
    reads := m.reads + 1
    log := m.log ++ [.TxDone (m.env.clock m.reads)]
    Bands := Function.update m.Bands c.toNat
      { m.Bands c.toNat with LastTxDoneTime := m.env.clock m.reads } }

namespace Meter

variable (m : Meter) (c b : UInt8)

theorem air_landed : (m.landed c).air =
    ⟨none, (m.air.onAir.map fun sent => (sent, m.env.clock m.reads)).toList ++ m.air.ended⟩ := by
  unfold Meter.air Meter.landed
  rw [Monitor.after_snoc]
  rfl

theorem TimeOff_landed : ((m.landed c).Bands b.toNat).TimeOff = (m.Bands b.toNat).TimeOff := by
  unfold Meter.landed
  by_cases h : b.toNat = c.toNat
  · simp [h]
  · simp [h]

theorem LastTxDoneTime_landed : ((m.landed c).Bands b.toNat).LastTxDoneTime =
    if b = c then m.env.clock m.reads else (m.Bands b.toNat).LastTxDoneTime := by
  unfold Meter.landed
  by_cases h : b = c
  · simp [h]
  · have hne : b.toNat ≠ c.toNat := fun heq => h (UInt8.toNat_inj.mp heq)
    simp [h, hne]

theorem DCycle_landed (i : Nat) : ((m.landed c).Bands i).DCycle = (m.Bands i).DCycle := by
  unfold Meter.landed
  by_cases h : i = c.toNat
  · simp [h]
  · simp [h]

end Meter

/-- The last end of a frame in a band only moves forward. -/
theorem Metered.last_landed {m : Meter} (hm : Metered m) (c : UInt8)
    {f : Transmission × TimerTime_t} (hf : f ∈ m.air.ended) :
    ∃ b, bandOfFrequency f.1.Frequency = some b ∧
      f.2.toNat ≤ ((m.landed c).Bands b.toNat).LastTxDoneTime.toNat ∧
      ((m.landed c).Bands b.toNat).LastTxDoneTime.toNat ≤ (m.landed c).now := by
  have hnow : m.now ≤ (m.landed c).now := hm.now_le rfl (Nat.le_add_right _ 1)
  obtain ⟨b, hb, hend, hlast⟩ := hm.last f hf
  refine ⟨b, hb, ?_⟩
  rw [Meter.LastTxDoneTime_landed]
  split
  · exact ⟨Nat.le_trans hend (Nat.le_trans hlast hnow), Nat.le_refl _⟩
  · exact ⟨hend, Nat.le_trans hlast hnow⟩

theorem Metered.covered_landed {m : Meter} (hm : Metered m) (c : UInt8)
    {f : Transmission × TimerTime_t} (hf : f ∈ m.air.ended) {b : UInt8}
    (hb : bandOfFrequency f.1.Frequency = some b) (hcovered : m.Covered f b) :
    (m.landed c).Covered f b := by
  have hnow : m.now ≤ (m.landed c).now := hm.now_le rfl (Nat.le_add_right _ 1)
  obtain ⟨b', hb', -, hlast⟩ := hm.last f hf
  obtain rfl : b' = b := Option.some.inj (hb'.symm.trans hb)
  rcases hcovered with hpassed | ⟨hne, hle⟩
  · exact .inl (hpassed.mono hnow)
  · right
    rw [Meter.TimeOff_landed, Meter.LastTxDoneTime_landed]
    refine ⟨hne, Nat.le_trans hle (Nat.add_le_add_right ?_ _)⟩
    split
    · exact Nat.le_trans hlast hnow
    · exact Nat.le_refl _

/-- A frame that ends is entered in its band, and is the next one to be charged. -/
theorem metered_landed {m : Meter} (hm : Metered m) {c : UInt8}
    (hband : ∀ h ∈ m.air.onAir, bandOfFrequency h.Frequency = some c) : Metered (m.landed c) := by
  have hnow : m.now ≤ (m.landed c).now := hm.now_le rfl (Nat.le_add_right _ 1)
  have hair := m.air_landed c
  have honAir := hm.onAir
  refine ⟨hm.clock, hm.dutyCycleOn, fun b => (m.DCycle_landed c b).trans (hm.dCycle b),
    Monitor.accepts_snoc.mpr ⟨hm.accepts, trivial⟩, ?_, ?_, ?_⟩
  · rw [hair]
    intro f hf
    rcases List.mem_append.mp hf with hf | hf
    · obtain ⟨sent, hsent, rfl⟩ := Option.map_eq_some_iff.mp (Option.mem_toList.mp hf)
      refine ⟨c, hband sent hsent, ?_⟩
      rw [Meter.LastTxDoneTime_landed, if_pos rfl]
      exact ⟨Nat.le_refl _, Nat.le_refl _⟩
    · exact hm.last_landed c hf
  · rw [hair]
    cases hsent : m.air.onAir with
    | none =>
      intro f hf b hb
      obtain ⟨hcovered, hpassed⟩ := hm.older f hf b hb
      exact ⟨hm.covered_landed c (List.mem_of_mem_tail hf) hb hcovered,
        fun g hg hgb => (hpassed g hg hgb).mono hnow⟩
    | some sent =>
      intro f hf b hb
      obtain ⟨hcovered, hpassed⟩ := (honAir sent hsent).2 f hf b hb
      refine ⟨hm.covered_landed c hf hb hcovered, ?_⟩
      rintro _ ⟨⟩ hgb
      exact (hpassed hgb).mono hnow
  · rw [hair]
    nofun

theorem metered_timeout {m : Meter} (hm : Metered m) :
    Metered { m with log := m.log ++ [.TxTimeout] } := by
  have hair : ({ m with log := m.log ++ [.TxTimeout] } : Meter).air = { m.air with onAir := none } := by
    unfold Meter.air
    rw [Monitor.after_snoc]
    rfl
  refine ⟨hm.clock, hm.dutyCycleOn, hm.dCycle, Monitor.accepts_snoc.mpr ⟨hm.accepts, trivial⟩,
    ?_, ?_, ?_⟩
  · rw [hair]
    exact hm.last
  · rw [hair]
    exact hm.older
  · rw [hair]
    nofun

/-- An action that has nothing to do with the frames on the air. -/
theorem metered_ignored {m : Meter} (hm : Metered m) {a : Action} (ha : dutyMonitor.Ignores a) :
    Metered { m with log := m.log ++ [a] } := by
  have hair : ({ m with log := m.log ++ [a] } : Meter).air = m.air := ha.after_snoc m.log
  refine ⟨hm.clock, hm.dutyCycleOn, hm.dCycle, ha.accepts_snoc hm.accepts, ?_, ?_, ?_⟩
  · rw [hair]
    exact hm.last
  · rw [hair]
    exact hm.older
  · rw [hair]
    exact hm.onAir

theorem meter_OnRadioTxDone (s : Mac) :
    (OnRadioTxDone s).meter = { s.meter with
      reads := s.board.reads + 1
      Bands := Function.update s.Bands (s.Channels s.Channel.toNat).Band.toNat
        { s.Bands (s.Channels s.Channel.toNat).Band.toNat with
          LastTxDoneTime := s.env.clock s.board.reads } } := by
  obtain ⟨u, hlight, hu⟩ := light_OnRadioTxDone s
  have hmeter : (OnRadioTxDone s).meter = u.meter := (congrArg Mac.meter hlight.quiet :)
  have hradio := (light_leaveRadio (TimerGetCurrentTime s).2).quiet
  have hleft : (leaveRadio (TimerGetCurrentTime s).2).meter = (TimerGetCurrentTime s).2.meter :=
    (congrArg Mac.meter hradio :)
  have hrecord : u.meter =
      (recordTxDone (leaveRadio (TimerGetCurrentTime s).2) (s.env.clock s.board.reads)).meter := by
    rcases hu with rfl | ⟨-, rfl⟩
    · rfl
    · rfl
  have hbands : (leaveRadio (TimerGetCurrentTime s).2).Bands = s.Bands :=
    (congrArg Mac.Bands hradio :)
  have hchannels : (leaveRadio (TimerGetCurrentTime s).2).Channels = s.Channels :=
    (congrArg Mac.Channels hradio :)
  have hchannel : (leaveRadio (TimerGetCurrentTime s).2).Channel = s.Channel :=
    (congrArg Mac.Channel hradio :)
  have henter (v : Mac) (time : TimerTime_t) : (recordTxDone v time).meter = { v.meter with
      Bands := Function.update v.Bands (v.Channels v.Channel.toNat).Band.toNat
        { v.Bands (v.Channels v.Channel.toNat).Band.toNat with LastTxDoneTime := time } } := rfl
  rw [hmeter, hrecord, henter, hleft, hbands, hchannels, hchannel]
  rfl

/-- What must hold so that the duty cycle is respected on a node that stays in its network. At the
end of a frame its channel still has the band of its frequency, and the state check does not find
one frame both to repeat and to try again. -/
def Spaced (s : Mac) : Event → Prop
  | .request (.mcps r) => s.LoRaMacState.MAC_TX_RUNNING = false →
    s.LoRaMacState.MAC_TX_DELAYED = false →
      Schedulable s.charging (s.readsAfter (.request (.mcps r)))
  | .request (.mlme (.Join ..)) => False
  | .macStateCheckTimer => s.LoRaMacFlags.MacDone = true →
    (Repeats s ∨ Retries s → Schedulable s.charging (s.readsAfter .macStateCheckTimer)) ∧
      ¬ (Repeats s ∧ Retries s)
  | .txDelayedTimer => Schedulable s.charging (s.readsAfter .txDelayedTimer)
  | .radio .TxDone => ∀ sent ∈ s.meter.air.onAir,
    bandOfFrequency sent.Frequency = some (s.Channels s.Channel.toNat).Band
  | _ => True

theorem metered_Send {s t : Mac} {macHdr : LoRaMacFrameType_t} {fPort : UInt8}
    {fBuffer : Option Mem} {fBufferSize : UInt16} {status : LoRaMacStatus_t}
    (h : Send s macHdr fPort fBuffer fBufferSize = some (status, t)) (hm : Metered s.meter)
    (hchannels : Consistent s.Channels) (hs : Schedulable s.charging t.board.reads) :
    Metered t.meter := by
  obtain ⟨status', u, hframe, hout⟩ := Send_cases h
  have hview := unprepared_PrepareFrame s macHdr ⟨0, false, false, false, s.AdrCtrlOn⟩ fPort fBuffer
    fBufferSize
  rw [hframe] at hview
  have hcharging : u.charging = s.charging := (congrArg Mac.charging hview :)
  have hmeter : u.meter = s.meter := congrArg Charging.toMeter hcharging
  rcases hout with ⟨-, -, rfl⟩ | ⟨-, hschedule⟩
  · rw [hmeter]
    exact hm
  · exact metered_of_charging hschedule hcharging hm hchannels hs

theorem metered_LoRaMacMcpsRequest {s t : Mac} {r : McpsReq_t} {status : LoRaMacStatus_t}
    (h : LoRaMacMcpsRequest s r = some (status, t)) (hm : Metered s.meter)
    (hchannels : Consistent s.Channels)
    (hs : s.LoRaMacState.MAC_TX_RUNNING = false → s.LoRaMacState.MAC_TX_DELAYED = false →
      Schedulable s.charging t.board.reads) : Metered t.meter := by
  rcases LoRaMacMcpsRequest_cases h with ⟨-, -, rfl⟩ | ⟨⟨hidle, hdelayed⟩, ⟨-, hview, -⟩ | ⟨u, v,
    macHdr, status', type, -, hrequested, hsend, hout⟩⟩
  · exact hm
  · have hmeter : t.meter = s.meter := (congrArg Mac.meter hview :)
    rw [hmeter]
    exact hm
  · have hcharging : u.charging = s.charging := (congrArg Mac.charging hrequested.unrequested :)
    have hsame : u.Channels = s.Channels := congrArg Charging.Channels hcharging
    have hmeter : u.meter = s.meter := congrArg Charging.toMeter hcharging
    have hreads : v.board.reads = t.board.reads := by
      rcases hout with ⟨-, -, rfl⟩ | ⟨-, -, rfl⟩
      · rfl
      · rfl
    have hv : Metered v.meter := by
      refine metered_Send hsend ?_ ?_ ?_
      · rw [hmeter]
        exact hm
      · rw [hsame]
        exact hchannels
      · rw [hcharging, hreads]
        exact hs hidle hdelayed
    rcases hout with ⟨-, -, rfl⟩ | ⟨-, -, rfl⟩
    · exact metered_ignored hv (a := .Accepted) fun _ => ⟨rfl, trivial⟩
    · exact hv

theorem metered_indicate {s : Mac} (hm : Metered s.meter) : Metered (indicate s).meter := by
  unfold indicate
  split
  · exact metered_ignored hm (a := .MacMcpsIndication s.McpsIndication _) fun _ => ⟨rfl, trivial⟩
  · exact hm

theorem metered_confirmMlme {s : Mac} (hm : Metered s.meter) : Metered (confirmMlme s).meter := by
  unfold confirmMlme
  split
  · exact metered_ignored hm (a := .MacMlmeConfirm s.MlmeConfirm) fun _ => ⟨rfl, trivial⟩
  · exact metered_indicate hm

theorem metered_confirmRequests {s : Mac} (hm : Metered s.meter) :
    Metered (confirmRequests s).meter := by
  unfold confirmRequests
  split
  · unfold confirmMcps
    split
    · exact metered_ignored hm (a := .MacMcpsConfirm s.McpsConfirm) fun _ => ⟨rfl, trivial⟩
    · exact metered_confirmMlme hm
  · exact metered_indicate hm

/-- The state check sends a frame at most once, and with the charges as they are before it. -/
theorem metered_completeCycle {s t : Mac} (h : completeCycle s = some t) (hm : Metered s.meter)
    (hchannels : Consistent s.Channels)
    (hs : Repeats s ∨ Retries s → Schedulable s.charging t.board.reads)
    (honce : ¬ (Repeats s ∧ Retries s)) : Metered t.meter := by
  obtain ⟨confirm, u, hconfirm, hu, hut⟩ := completeCycle_parts h
  -- what is left of the first part if it does not send
  have hleft (hsettled : u.settled = (s.ended confirm).settled)
      (htrials : u.trials = (s.ended confirm).trials)
      (hdelayed : u.LoRaMacState.MAC_TX_DELAYED = false → s.LoRaMacState.MAC_TX_DELAYED = false) :
      Metered t.meter := by
    have hcharging : u.charging = s.charging := (congrArg Mac.charging hsettled :)
    rcases checkAckTimeout_checkAck_cases hut with ⟨hretriable, status, hschedule⟩ | hsame
    · have hretries := retries_of_retriable hconfirm (retriable_of_trials htrials hdelayed hretriable)
      have hnext := recycled_nextTrial { u with AckTimeoutRetry := false }
      refine metered_of_charging hschedule ?_ hm hchannels (hs (.inr hretries))
      exact (congrArg Mac.charging hnext :).trans hcharging
    · have hmeter : t.meter = s.meter :=
        (congrArg Mac.meter hsame :).trans (congrArg Mac.meter hsettled :)
      rw [hmeter]
      exact hm
  rcases hu with ⟨hcase, hu⟩ | ⟨-, rfl⟩
  · rcases checkRepetition_cases hu with ⟨-, rfl⟩ | ⟨-, ⟨counter, hu, -⟩ | ⟨hrepeatable, repetitions,
      status, hschedule⟩⟩
    · exact hleft rfl rfl id
    · rw [hu] at hleft
      exact hleft (by rw [settled_counted, settled_setTxRunning]) rfl id
    · have hrepeats : Repeats s := ⟨hcase.1, hcase.2, hrepeatable⟩
      rcases checkAckTimeout_checkAck_cases hut with ⟨hretriable, -⟩ | hsame
      · have htrials : u.trials = (s.ended confirm).trials :=
          (congrArg Mac.trials (unscheduled_ScheduleTx hschedule) :)
        have hdelayed := delayed_ScheduleTx hschedule
        have hretries := retries_of_retriable hconfirm
          (retriable_of_trials htrials hdelayed hretriable)
        exact absurd ⟨hrepeats, hretries⟩ honce
      · have hmeter : t.meter = u.meter := (congrArg Mac.meter hsame :)
        have hschedulable := hs (.inl hrepeats)
        rw [show t.board.reads = u.board.reads from congrArg Meter.reads hmeter] at hschedulable
        rw [hmeter]
        exact metered_of_charging hschedule rfl hm hchannels hschedulable
  · exact hleft rfl rfl id

theorem metered_OnMacStateCheckTimerEvent {s t : Mac} (h : OnMacStateCheckTimerEvent s = some t)
    (hm : Metered s.meter) (hchannels : Consistent s.Channels)
    (hs : s.LoRaMacFlags.MacDone = true →
      (Repeats s ∨ Retries s → Schedulable s.charging t.board.reads) ∧
        ¬ (Repeats s ∧ Retries s)) : Metered t.meter := by
  obtain ⟨u, rfl, hu⟩ := OnMacStateCheckTimerEvent_cases h
  have hreads : (confirmRequests u.unreceived).board.reads = u.board.reads :=
    (congrArg (·.board.reads) (untold_confirmRequests u.unreceived) :)
  rw [hreads] at hs
  refine metered_confirmRequests (s := u.unreceived) ?_
  rcases hu with ⟨-, rfl⟩ | ⟨hdone, hcycle⟩
  · exact hm
  · obtain ⟨hschedulable, honce⟩ := hs hdone
    have hu : Metered u.meter := metered_completeCycle hcycle hm hchannels hschedulable honce
    exact hu

theorem metered_OnTxDelayedTimerEvent {s t : Mac} (h : OnTxDelayedTimerEvent s = some t)
    (hm : Metered s.meter) (hchannels : Consistent s.Channels)
    (hs : Schedulable s.charging t.board.reads) : Metered t.meter := by
  obtain ⟨u, status, hschedule, hu⟩ := OnTxDelayedTimerEvent_cases h
  have hcharging : u.charging = s.charging := by
    rcases hu with ⟨-, rfl⟩ | ⟨-, rfl⟩
    · rfl
    · have hview := unprepared_PrepareFrame s.undelayed FRAME_TYPE_JOIN_REQ
        ⟨0, false, false, false, s.AdrCtrlOn⟩ 0 none 0
      exact (congrArg Mac.charging hview :)
  exact metered_of_charging hschedule hcharging hm hchannels hs

theorem meter_mlmeOutcome (x : LoRaMacStatus_t × Mac) : (mlmeOutcome x).2.meter = x.2.meter := by
  unfold mlmeOutcome
  split <;> rfl

theorem metered_LoRaMacMlmeRequest {s t : Mac} {r : MlmeReq_t} {status : LoRaMacStatus_t}
    (h : LoRaMacMlmeRequest s r = some (status, t)) (hm : Metered s.meter)
    (hr : Spaced s (.request (.mlme r))) : Metered t.meter := by
  rcases LoRaMacMlmeRequest_cases h with ⟨-, rfl, -⟩ | ⟨-, ⟨-, -, rfl⟩ | ⟨DevEui, AppEui, AppKey, v,
    status', rfl, -⟩ | ⟨-, houtcome⟩⟩
  · exact hm
  · exact hm
  · cases hr
  · have ht : t = (mlmeOutcome _).2 := congrArg Prod.snd houtcome
    rw [ht, meter_mlmeOutcome]
    have hmeter (u : Mac) : (AddMacCommand u .MOTE_MAC_LINK_CHECK_REQ 0 0).2.meter = u.meter :=
      (congrArg Mac.meter (uncommanded_AddMacCommand u _ _ _) :)
    rw [hmeter]
    exact hm

theorem metered_step {s t : Mac} {e : Event} (h : step s e = some t) (he : Spaced s e)
    (hm : Metered s.meter) (hchannels : Consistent s.Channels) : Metered t.meter := by
  have hreads := readsAfter_eq h
  cases moved_of_step h with
  | received hreceived _ =>
    have hmeter : t.meter = s.meter := (congrArg Mac.meter hreceived.control :)
    rw [hmeter]
    exact hm
  | mcps hmcps => exact metered_LoRaMacMcpsRequest hmcps hm hchannels (hreads ▸ he)
  | mlme hmlme => exact metered_LoRaMacMlmeRequest hmlme hm he
  | @mib r hidle =>
    have hmeter : (mibSet s r).2.meter = s.meter := (congrArg Mac.meter (unset_mibSet s r) :)
    rw [hmeter]
    exact hm
  | @upperReturn p hinside =>
    cases p with
    | MacMcpsConfirm => exact metered_confirmMlme (by exact hm)
    | MacMlmeConfirm => exact metered_indicate (by exact hm)
    | MacMcpsIndication => exact hm
  | txDone =>
    rw [meter_OnRadioTxDone]
    exact metered_landed hm he
  | txTimeout =>
    have hmeter : (OnRadioTxTimeout ((s.setStatus .RF_IDLE).record .TxTimeout)).meter =
        ((s.setStatus .RF_IDLE).record .TxTimeout).meter :=
      (congrArg Mac.meter (light_OnRadioTxTimeout _).quiet :)
    rw [hmeter]
    exact metered_timeout hm
  | stateCheck _ _ hcheck =>
    exact metered_OnMacStateCheckTimerEvent hcheck hm hchannels (hreads ▸ he)
  | txDelayed _ _ hdelayed =>
    exact metered_OnTxDelayedTimerEvent hdelayed hm hchannels (hreads ▸ he)

/-- Where the frames are counted from: a node with its tables as they were initialised, on a board
with a clock that does not go back. -/
structure Initialised (s : Mac) : Prop where
  clock : ∀ i j, i ≤ j → (s.env.clock i).toNat ≤ (s.env.clock j).toNat
  log : s.board.log = []
  channels : Consistent s.Channels
  dutyCycleOn : s.DutyCycleOn = true
  dCycle : ∀ b, (s.Bands b).DCycle = (defaultBands b).DCycle

theorem metered_initialised {s : Mac} (hs : Initialised s) : Metered s.meter := by
  have hair : s.meter.air = ⟨none, []⟩ := congrArg dutyMonitor.after hs.log
  refine ⟨hs.clock, hs.dutyCycleOn, hs.dCycle, ?_, ?_, ?_, ?_⟩
  · change dutyMonitor.Accepts s.board.log
    rw [hs.log]
    trivial
  · rw [hair]
    nofun
  · rw [hair]
    nofun
  · rw [hair]
    nofun

/-- In every run of such events a frame is sent only when every frame that ended before in the same
sub-band has kept it closed for its time on air, as often as the duty cycle asks for. This covers
frames that are sent at once and those that are delayed and then sent when their timer ends. -/
theorem dutyCycle_respected {s t : Mac} {es : List Event} (hs : Initialised s)
    (hrun : Runs Spaced s es t) : dutyMonitor.Accepts t.board.log := by
  have ht : Metered t.meter ∧ Consistent t.Channels :=
    hrun.invariant (P := fun u => Metered u.meter ∧ Consistent u.Channels)
      ⟨metered_initialised hs, hs.channels⟩
      fun _ _ _ hu he hstep => ⟨metered_step hstep he hu.1 hu.2, consistent_step hstep hu.2⟩
  exact ht.1.accepts

instance (s : Charging) (high : Nat) : Decidable (Schedulable s high) :=
  decidable_of_iff
    (s.IsLoRaMacNetworkJoined = true ∧
      (∀ f ∈ s.air.ended.head?, bandOfFrequency f.1.Frequency = some s.band ∧
        f.1.TimeOnAir.toNat ≤ s.TxTimeOnAir.toNat ∧
        s.TxTimeOnAir.toNat * (defaultBands s.band.toNat).DCycle.toNat < 2 ^ 32) ∧
      (∀ i < LORA_MAX_NB_BANDS,
        Unlapsed s.env s.reads high (s.Bands i).LastTxDoneTime (s.timeOff i)) ∧
      Unlapsed s.env s.reads high s.AggregatedLastTxDoneTime s.aggregatedTimeOff)
    ⟨fun ⟨hjoined, hlast, hbands, haggregated⟩ => ⟨hjoined, hlast, hbands, haggregated⟩,
      fun ⟨hjoined, hlast, hbands, haggregated⟩ => ⟨hjoined, hlast, hbands, haggregated⟩⟩

instance (s : Mac) (e : Event) : Decidable (Spaced s e) :=
  match e with
  | .request (.mcps _) => inferInstanceAs (Decidable (s.LoRaMacState.MAC_TX_RUNNING = false →
      s.LoRaMacState.MAC_TX_DELAYED = false → Schedulable s.charging _))
  | .request (.mlme (.Join ..)) => .isFalse id
  | .macStateCheckTimer => inferInstanceAs (Decidable (s.LoRaMacFlags.MacDone = true →
      (Repeats s ∨ Retries s → Schedulable s.charging _) ∧ ¬ (Repeats s ∧ Retries s)))
  | .txDelayedTimer => inferInstanceAs (Decidable (Schedulable s.charging _))
  | .radio .TxDone => inferInstanceAs (Decidable (∀ sent ∈ s.meter.air.onAir,
      bandOfFrequency sent.Frequency = some (s.Channels s.Channel.toNat).Band))
  | .request (.mlme .LinkCheck) | .request (.mib _) | .request (.channelAdd ..)
  | .request (.channelRemove _) | .request (.multicastLink _) | .request (.multicastUnlink _)
  | .upperReturn | .radio .TxTimeout | .radio (.RxDone ..) | .radio (.RxError _)
  | .radio (.RxTimeout _) | .rxWindowTimer1 | .rxWindowTimer2 | .ackTimeoutTimer => .isTrue trivial

/-- A board whose clock goes on by `ms` at each of the first 1000 readings, and whose generator
gives the last of four channels. -/
def Env.ticking (ms : Nat) : Env :=
  { Env.plain with
    clock := fun reads => UInt32.ofNat (ms * (min reads 1000 + 1))
    rand := fun _ => 3 }

theorem initialised_personalised {ms : Nat} (hms : ms ≤ 100000) :
    Initialised (Mac.personalised (Env.ticking ms)) := by
  have hclock (i : Nat) : ((Env.ticking ms).clock i).toNat = ms * (min i 1000 + 1) := by
    refine UInt32.toNat_ofNat_of_lt ?_
    have hbound : ms * (min i 1000 + 1) ≤ 100000 * 1001 := Nat.mul_le_mul hms (by omega)
    exact Nat.lt_of_le_of_lt hbound (by decide)
  refine ⟨fun i j hij => ?_, rfl, consistent_defaultChannelTable, rfl, fun _ => rfl⟩
  change ((Env.ticking ms).clock i).toNat ≤ ((Env.ticking ms).clock j).toNat
  rw [hclock, hclock]
  exact Nat.mul_le_mul_left _ (by omega)

/-- A frame without payload, and the windows behind it. -/
def exchange : List Event :=
  [.request (.mcps (.Unconfirmed 1 none 0 5)), .radio .TxDone, .rxWindowTimer2,
    .radio (.RxTimeout false), .macStateCheckTimer, .upperReturn]

def Action.isSend : Action → Bool
  | .Send _ => true
  | _ => false

/-- The number of frames that the radio was given. -/
def sentCount (log : List Action) : Nat := log.countP Action.isSend

/-- A board whose clock reads 1000 first, 1100 four times, and 6000 from then on. -/
def Env.delaying : Env :=
  { Env.plain with
    clock := fun reads => if reads = 0 then 1000 else if reads < 5 then 1100 else 6000 }

theorem initialised_delaying : Initialised (Mac.personalised Env.delaying) := by
  refine ⟨fun i j hij => ?_, rfl, consistent_defaultChannelTable, rfl, fun _ => rfl⟩
  change (Env.delaying.clock i).toNat ≤ (Env.delaying.clock j).toNat
  unfold Env.delaying
  dsimp only
  split_ifs <;> first | omega | decide

/-- The second frame is asked for 100 ms after the end of the first one, and is delayed. When the
timer of the delay ends, the band is free again, and the frame is sent. -/
theorem dutyCycle_respected_delayed :
    ∃ t, Runs Spaced (Mac.personalised Env.delaying)
        (exchange ++ [.request (.mcps (.Unconfirmed 1 none 0 5)), .txDelayedTimer]) t ∧
      sentCount t.board.log = 2 ∧ dutyMonitor.Accepts t.board.log := by
  obtain ⟨t, hrun, ht⟩ := transition.Run.of_after step Spaced (Mac.personalised Env.delaying)
    (exchange ++ [.request (.mcps (.Unconfirmed 1 none 0 5)), .txDelayedTimer])
    (fun t => decide (sentCount t.board.log = 2)) (by decide +kernel)
  exact ⟨t, hrun, of_decide_eq_true ht, dutyCycle_respected initialised_delaying hrun⟩

/-- The channel that was used last is removed, and its frequency is given to another one. -/
def replaceChannel : List Event :=
  .request (.channelAdd 3 ⟨868900000, 0x50, 0⟩) :: exchange ++
    [.request (.channelRemove 3), .request (.channelAdd 4 ⟨868900000, 0x50, 0⟩),
      .request (.mcps (.Unconfirmed 1 none 0 5))]

/-- The first frame is charged to the band of a channel that is not in use, and the second one
follows at once in the sub-band of the first. -/
theorem not_dutyCycle_replaceChannel :
    Initialised (Mac.personalised (Env.ticking 3000)) ∧
      ∃ t, Runs (fun s _ => s.IsLoRaMacNetworkJoined = true ∧ s.DutyCycleOn = true)
          (Mac.personalised (Env.ticking 3000)) replaceChannel t ∧
        sentCount t.board.log = 2 ∧ ¬ dutyMonitor.Accepts t.board.log := by
  refine ⟨initialised_personalised (by decide), ?_⟩
  obtain ⟨t, hrun, ht⟩ := transition.Run.of_after step
    (fun s _ => s.IsLoRaMacNetworkJoined = true ∧ s.DutyCycleOn = true)
    (Mac.personalised (Env.ticking 3000)) replaceChannel
    (fun t => decide (sentCount t.board.log = 2 ∧ ¬ dutyMonitor.Accepts t.board.log))
    (by decide +kernel)
  exact ⟨t, hrun, of_decide_eq_true ht⟩

end loranode.mac
