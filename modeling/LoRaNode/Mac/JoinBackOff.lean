import LoRaNode.Mac.BackOff
import LoRaNode.Mac.Events

namespace loranode.mac

/-- The duty cycle that a join procedure is to keep to at a time since the start. -/
def joinTier (time : TimerTime_t) : UInt16 :=
  if time < 3600000 then BACKOFF_DC_1_HOUR
  else if time < 3600000 + 36000000 then BACKOFF_DC_10_HOURS
  else BACKOFF_DC_24_HOURS

/-- The random time off between `TimeOff` and `TimeOff + BACKOFF_RND_OFFSET`, for a value `r` of
`rand1`. The sum wraps round. -/
def randomTimeOff (TimeOff : UInt32) (r : Nat) : UInt32 :=
  TimeOff + UInt32.ofNat (r % 600001)

/-- `RtcComputeElapsedTime` gives 0 for a saved time of 0: the duty cycle is always that of the
first hour. -/
theorem RetransmissionDutyCylce_eq (s : Mac) :
    RetransmissionDutyCylce s = (BACKOFF_DC_1_HOUR, s) := by
  unfold RetransmissionDutyCylce
  rw [TimerGetElapsedTime, if_pos rfl]
  rfl

theorem toInt_eq (x : UInt32) :
    x.toBitVec.toInt = x.toNat ∧ x.toNat < 2147483648 ∨
      x.toBitVec.toInt = (x.toNat : Int) - 4294967296 ∧ 2147483648 ≤ x.toNat := by
  have hcond := BitVec.toInt_eq_toNat_cond x.toBitVec
  rw [UInt32.toNat_toBitVec] at hcond
  split at hcond
  · exact .inl ⟨hcond, by omega⟩
  · exact .inr ⟨hcond, by omega⟩

theorem toNat_toUInt32 (x : Int) : ((toUInt32 x).toNat : Int) = x % 4294967296 := by
  unfold toUInt32
  rw [UInt32.toNat_ofNat']
  omega

theorem toNat_randomTimeOff (x : UInt32) (r : Nat) :
    (randomTimeOff x r).toNat = (x.toNat + r % 600001) % 4294967296 := by
  unfold randomTimeOff
  rw [UInt32.toNat_add, UInt32.toNat_ofNat_of_lt' (Nat.lt_trans (Nat.mod_lt r (by decide))
    (by decide))]

/-- The bounds are passed as signed integers, and the number of values between them is right in
32 bits also where only one of them is negative. -/
theorem bmod_bounds (x : UInt32) :
    ((x + BACKOFF_RND_OFFSET).toBitVec.toInt - x.toBitVec.toInt + 1).bmod 4294967296 = 600001 := by
  have hsum : (x + BACKOFF_RND_OFFSET).toNat = (x.toNat + 600000) % 4294967296 :=
    UInt32.toNat_add x BACKOFF_RND_OFFSET
  have hx := x.toNat_lt
  rw [Int.bmod_def]
  have hlow := toInt_eq x
  have hhigh := toInt_eq (x + BACKOFF_RND_OFFSET)
  omega

/-- What `CalculateBackOff` makes of `randr`. -/
theorem toUInt32_randr (s : Mac) (x : UInt32) :
    toUInt32 (randr s x.toBitVec.toInt (x + BACKOFF_RND_OFFSET).toBitVec.toInt).1 =
      randomTimeOff x ((s.env.rand s.board.next).toNat % 2147483647) := by
  unfold randr rand1
  dsimp only
  have hdraw : ((s.env.rand s.board.next).toNat : Int) % 2147483647 =
      ((s.env.rand s.board.next).toNat % 2147483647 : Nat) := by omega
  rw [bmod_bounds, hdraw, Int.tmod_eq_emod_of_nonneg (Int.natCast_nonneg _)]
  generalize (s.env.rand s.board.next).toNat % 2147483647 = r
  have hvalue := toNat_toUInt32 (((r : Int) % 600001 + x.toBitVec.toInt).bmod 4294967296)
  have hemod : ((r : Int) % 600001 + x.toBitVec.toInt).bmod 4294967296 % 4294967296 =
      ((r : Int) % 600001 + x.toBitVec.toInt) % 4294967296 := Int.bmod_emod
  have htime := toNat_randomTimeOff x r
  have hlow := toInt_eq x
  apply UInt32.toNat.inj
  omega

theorem TimeOff_randomBackOff {s : Mac} (hjoined : s.IsLoRaMacNetworkJoined = false)
    (hair : 0 < s.TxTimeOnAir) (band : Nat) :
    ((randomBackOff s band).Bands band).TimeOff =
      randomTimeOff (s.Bands band).TimeOff ((s.env.rand s.board.next).toNat % 2147483647) := by
  unfold randomBackOff
  rw [if_pos ⟨hjoined, hair⟩, ← toUInt32_randr]
  unfold setTimeOff
  simp only [Function.update_self]

/-- The time off of the band after `CalculateBackOff`. -/
theorem TimeOff_CalculateBackOff {s : Mac} (hjoined : s.IsLoRaMacNetworkJoined = false)
    (hduty : s.DutyCycleOn = true) (hair : 0 < s.TxTimeOnAir) (channel : UInt8) :
    ((CalculateBackOff s channel).Bands (s.Channels channel.toNat).Band.toNat).TimeOff =
      randomTimeOff
        (s.TxTimeOnAir * (max (s.Bands (s.Channels channel.toNat).Band.toNat).DCycle
          BACKOFF_DC_1_HOUR).toUInt32 - s.TxTimeOnAir)
        ((s.env.rand s.board.next).toNat % 2147483647) := by
  have hcycle : backOffDutyCycle s (s.Channels channel.toNat).Band.toNat =
      (max (s.Bands (s.Channels channel.toNat).Band.toNat).DCycle BACKOFF_DC_1_HOUR, s) := by
    unfold backOffDutyCycle
    rw [RetransmissionDutyCylce_eq, hjoined]
    rfl
  unfold CalculateBackOff
  dsimp only
  rw [hcycle]
  generalize (s.Channels channel.toNat).Band.toNat = band
  unfold chargeBand
  dsimp only
  rw [hduty, if_pos rfl, TimeOff_randomBackOff (by exact hjoined) (by exact hair)]
  unfold setTimeOff
  simp only [Function.update_self]

/-- The random part is added if the sum is a `uint32_t`. -/
theorem le_randomTimeOff {x : UInt32} (r : Nat) (hx : x.toNat + 600000 < 4294967296) :
    x.toNat ≤ (randomTimeOff x r).toNat := by
  have hvalue := toNat_randomTimeOff x r
  omega

/-- A draw of 0 adds nothing. -/
theorem randomTimeOff_zero (x : UInt32) : (randomTimeOff x 0).toNat = x.toNat := by
  have hvalue := toNat_randomTimeOff x 0
  have hx := x.toNat_lt
  omega

/-- The largest draw makes a sum that is no `uint32_t` wrap around. -/
theorem randomTimeOff_wraps {x : UInt32} (hx : 4294967296 ≤ x.toNat + 600000) :
    (randomTimeOff x 600000).toNat < x.toNat := by
  have hvalue := toNat_randomTimeOff x 600000
  have hbound := x.toNat_lt
  omega

theorem toNat_max (a b : UInt16) : (max a b).toNat = max a.toNat b.toNat := by
  change (if a ≤ b then b else a).toNat = _
  split
  · next h => exact (Nat.max_eq_right (UInt16.le_iff_toNat_le.mp h)).symm
  · next h =>
    have hle : b.toNat ≤ a.toNat := Nat.le_of_not_le fun hle => h (UInt16.le_iff_toNat_le.mpr hle)
    exact (Nat.max_eq_left hle).symm

/-- The time off reaches `air * (D - 1)` for every draw exactly if it is computed with `D` and
does not wrap around. -/
theorem forall_le_randomTimeOff_iff {air : UInt32} (hair : 0 < air.toNat) {dutyCycle : UInt16}
    (hcycle : 1 ≤ dutyCycle.toNat) {D : Nat} (hD : dutyCycle.toNat ≤ D) :
    (∀ r < 2147483647,
        air.toNat * (D - 1) ≤ (randomTimeOff (air * dutyCycle.toUInt32 - air) r).toNat) ↔
      D ≤ dutyCycle.toNat ∧ air.toNat * (dutyCycle.toNat - 1) + 600000 < 2 ^ 32 := by
  have hx := toNat_bandCharge air hcycle
  have hmono : air.toNat * (dutyCycle.toNat - 1) ≤ air.toNat * (D - 1) :=
    Nat.mul_le_mul_left _ (by omega)
  generalize air * dutyCycle.toUInt32 - air = x at hx ⊢
  constructor
  · intro h
    have hfirst := h 0 (by decide)
    rw [randomTimeOff_zero] at hfirst
    have hfits : air.toNat * (dutyCycle.toNat - 1) < 2 ^ 32 :=
      Nat.lt_of_le_of_lt (Nat.le_trans hmono hfirst) x.toNat_lt
    rw [Nat.mod_eq_of_lt hfits] at hx
    rw [hx] at hfirst
    refine ⟨?_, Nat.lt_of_not_le fun hwraps => ?_⟩
    · have := Nat.le_of_mul_le_mul_left hfirst hair
      omega
    · have hlast := h 600000 (by decide)
      have hlt : (randomTimeOff x 600000).toNat < x.toNat := randomTimeOff_wraps (hx.symm ▸ hwraps)
      omega
  · rintro ⟨hle, hfits⟩ r -
    rw [Nat.mod_eq_of_lt (by omega)] at hx
    obtain rfl : D = dutyCycle.toNat := Nat.le_antisymm hle hD
    rw [← hx] at hfits ⊢
    exact le_randomTimeOff r hfits

/-- The used band's time off is at least `A * (D - 1)`, whatever the draw, where `D` is the
larger one of the duty cycle of the band and of that of the join procedure at this time. -/
def BacksOff (s : Mac) (channel : UInt8) : Prop :=
  let band := (s.Channels channel.toNat).Band.toNat
  let D := max (s.Bands band).DCycle.toNat (joinTier (s.env.clock s.board.reads)).toNat
  ∀ rand, s.TxTimeOnAir.toNat * (D - 1) ≤
    ((CalculateBackOff { s with env := { s.env with rand := rand } } channel).Bands
      band).TimeOff.toNat

/-- The back-off is kept exactly if the first hour is not over, or the duty cycle of the band is the
stricter one anyway, and if the time off with its random part is a `uint32_t`. The elapsed time is
asked for with a saved time of 0, for which the answer is always 0, so that no later tier is ever
reached. -/
theorem backsOff_iff (s : Mac) (channel : UInt8) (hjoined : s.IsLoRaMacNetworkJoined = false)
    (hduty : s.DutyCycleOn = true) (hair : 0 < s.TxTimeOnAir) :
    BacksOff s channel ↔
      (joinTier (s.env.clock s.board.reads)).toNat ≤
          max (s.Bands (s.Channels channel.toNat).Band.toNat).DCycle.toNat 100 ∧
        s.TxTimeOnAir.toNat *
            (max (s.Bands (s.Channels channel.toNat).Band.toNat).DCycle.toNat 100 - 1) + 600000 <
          2 ^ 32 := by
  have hvalue (rand : Nat → UInt32) :=
    @TimeOff_CalculateBackOff { s with env := { s.env with rand := rand } } hjoined hduty hair
      channel
  unfold BacksOff
  dsimp only at hvalue ⊢
  generalize (s.Channels channel.toNat).Band.toNat = band at hvalue ⊢
  simp only [hvalue]
  have htier : 100 ≤ (joinTier (s.env.clock s.board.reads)).toNat := by
    unfold joinTier
    split
    · decide
    · split <;> decide
  have hmax : (max (s.Bands band).DCycle BACKOFF_DC_1_HOUR).toNat =
      max (s.Bands band).DCycle.toNat 100 := toNat_max _ _
  have hiff := forall_le_randomTimeOff_iff (UInt32.lt_iff_toNat_lt.mp hair)
    (show 1 ≤ (max (s.Bands band).DCycle BACKOFF_DC_1_HOUR).toNat by omega)
    (show (max (s.Bands band).DCycle BACKOFF_DC_1_HOUR).toNat ≤
      max (s.Bands band).DCycle.toNat (joinTier (s.env.clock s.board.reads)).toNat by omega)
  rw [hmax] at hiff
  constructor
  · intro h
    obtain ⟨hle, hfits⟩ := hiff.mp fun r hr => by
      have hdraw := h fun _ => UInt32.ofNat r
      rwa [UInt32.toNat_ofNat_of_lt' (Nat.lt_trans hr (by decide)), Nat.mod_eq_of_lt hr] at hdraw
    exact ⟨by omega, hfits⟩
  · rintro ⟨hle, hfits⟩ rand
    exact hiff.mpr ⟨by omega, hfits⟩ _ (Nat.mod_lt _ (by decide))

/-- A node that has sent a join request of 1483 ms, as one takes at the lowest data rate, and
looks at a clock that stands at `time`. -/
def Mac.joiningAt (time : TimerTime_t) : Mac :=
  { Mac.boot { Env.plain with clock := fun _ => time } with TxTimeOnAir := 1483 }

theorem backsOff_iff_first_hour :
    BacksOff (Mac.joiningAt 3599999) 0 ↔
      (100 : Nat) ≤ max 100 100 ∧ 1483 * (100 - 1) + 600000 < 2 ^ 32 :=
  backsOff_iff (Mac.joiningAt 3599999) 0 rfl rfl (by decide)

/-- After an hour the node is still charged as in the first one. -/
theorem not_backsOff_second_hour : ¬ BacksOff (Mac.joiningAt 3600000) 0 := by
  intro h
  have hdraw := h fun _ => 0
  revert hdraw
  decide +kernel

end loranode.mac
