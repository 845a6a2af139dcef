import LoRaNode.Mac.Fallback

namespace loranode.mac

/-- An execution of `ScheduleTx` that ends in a delay. -/
def DelayedTo (s t : Mac) : Prop :=
  s.MaxDCycle ≠ 255 ∧ ∃ time u, selectChannel 2 s.backedOff = some (time, u) ∧ time ≠ 0 ∧
    t = delayTx u time

theorem DelayedTo.ScheduleTx_eq {s t : Mac} (h : DelayedTo s t) :
    ScheduleTx s = some (.LORAMAC_STATUS_OK, t) := by
  obtain ⟨hon, time, u, hselect, htime, rfl⟩ := h
  rw [ScheduleTx_of_some hon hselect, if_neg htime]

/-- The state in which `OnTxDelayedTimerEvent` calls `ScheduleTx`. -/
def txDelayExpired (s : Mac) : Mac :=
  let s := { s with
    TxDelayedTimer := TimerStop s.TxDelayedTimer
    LoRaMacState := { s.LoRaMacState with MAC_TX_DELAYED := false } }
  if s.LoRaMacFlags.MlmeReq = true ∧ s.MlmeConfirm.MlmeRequest = .MLME_JOIN then
    (PrepareFrame s .FRAME_TYPE_JOIN_REQ ⟨0, false, false, false, s.AdrCtrlOn⟩ 0 none 0).2
  else s

theorem DelayedTo.OnTxDelayedTimerEvent_eq {s t : Mac} (h : DelayedTo (txDelayExpired s) t) :
    OnTxDelayedTimerEvent s = some t := by
  have hschedule : OnTxDelayedTimerEvent s = (ScheduleTx (txDelayExpired s)).map Prod.snd := rfl
  rw [hschedule, h.ScheduleTx_eq]
  rfl

/-- The frame that waits is put off again and again: by the first execution of `ScheduleTx`, and
each time that the timer of the delay has run off. Listed are the readings of the clock at which the
executions look at the aggregated limit, the last one first. -/
inductive Postponed : List Nat → Mac → Mac → Prop where
  | once {s t : Mac} (h : DelayedTo s t) : Postponed [s.board.reads] s t
  | again {readings : List Nat} {s t u : Mac} (hpostponed : Postponed readings s t)
      (h : DelayedTo (txDelayExpired t) u) : Postponed (t.board.reads :: readings) s u

/-- The time for which the last frame is to keep the aggregated limit in force, behind its end. -/
def Mac.limit (s : Mac) : Nat := s.TxTimeOnAir.toNat * (2 ^ s.MaxDCycle.toNat - 1)

/-- Once the frame of state `s` has been put off, the aggregated limit is charged just once: the
time off is the time on air times the duty cycle less one, and where the next execution reads the
clock as late as that, the limit does not hold any more. -/
def ChargedOnce (s t : Mac) : Prop :=
  t.AggregatedTimeOff.toNat = s.limit ∧
    let next := (txDelayExpired t).backedOff
    (s.AggregatedLastTxDoneTime.toNat + s.limit ≤ (next.env.clock next.board.reads).toNat →
      ¬next.Limited)

/-- What a search for a channel does to the aggregated limit. -/
theorem AggregatedTimeOff_SetNextChannel (s : Mac) :
    (SetNextChannel s).2.2.AggregatedTimeOff = s.AggregatedTimeOff ∧ s.Limited ∨
      (SetNextChannel s).2.2.AggregatedTimeOff = 0 ∧ ¬s.Limited := by
  obtain ⟨hlimited, delay, t, hturn, Bands, board, rfl⟩ |
    ⟨hlifted, delay, t, ⟨Bands, board, rfl⟩, hturn⟩ := SetNextChannel_cases s
  · rw [hturn]
    obtain ⟨mask, hmask⟩ := ensureMask_eq s
    rw [hmask]
    exact .inl ⟨rfl, hlimited⟩
  · rw [hturn]
    refine .inr ⟨?_, hlifted⟩
    unfold pickChannel
    split
    · rfl
    · split <;> rfl

theorem AggregatedTimeOff_restoreDefaults (s : Mac) :
    (restoreDefaults s).AggregatedTimeOff = s.AggregatedTimeOff := rfl

theorem AggregatedTimeOff_selectChannel {s u : Mac} {time : TimerTime_t}
    (h : selectChannel 2 s = some (time, u)) :
    u.AggregatedTimeOff = s.AggregatedTimeOff ∧ s.Limited ∨ u.AggregatedTimeOff = 0 ∧ ¬s.Limited := by
  have hfirst := AggregatedTimeOff_SetNextChannel s
  cases hfound : (SetNextChannel s).1 with
  | true =>
    rw [selectChannel_of_true hfound] at h
    have hu : (SetNextChannel s).2.2 = u := congrArg Prod.snd (Option.some.inj h)
    rw [hu] at hfirst
    exact hfirst
  | false =>
    have hlifted : ¬s.Limited := fun hlimited => by
      rw [(SetNextChannel_fst s).mpr (.inl hlimited)] at hfound
      cases hfound
    refine .inr ⟨?_, hlifted⟩
    have hzero := (hfirst.resolve_left fun h => hlifted h.2).1
    rw [selectChannel_of_false hfound] at h
    have hv : (restoreDefaults (SetNextChannel s).2.2).AggregatedTimeOff = 0 := by
      rw [AggregatedTimeOff_restoreDefaults, hzero]
    generalize restoreDefaults (SetNextChannel s).2.2 = v at h hv
    cases hagain : (SetNextChannel v).1 with
    | true =>
      rw [selectChannel_of_true hagain] at h
      have hu : (SetNextChannel v).2.2 = u := congrArg Prod.snd (Option.some.inj h)
      have hsecond := AggregatedTimeOff_SetNextChannel v
      rw [hu, hv] at hsecond
      exact hsecond.elim And.left And.left
    | false =>
      rw [selectChannel_of_false hagain] at h
      cases h

/-- What the charge of the aggregated limit, and the end of it, are computed from. -/
def Mac.tariff (s : Mac) : Env × TimerTime_t × TimerTime_t × UInt16 × UInt8 × Bool :=
  (s.env, s.AggregatedLastTxDoneTime, s.TxTimeOnAir, s.AggregatedDCycle, s.MaxDCycle,
    s.IsLoRaMacNetworkJoined)

theorem tariff_delayedTo {s t : Mac} (h : DelayedTo s t) : t.tariff = s.tariff := by
  obtain ⟨-, time, u, hselect, -, rfl⟩ := h
  have hview := ((chosen_backedOff s).trans (chosen_selectChannel hselect)).unchosen
  exact (congrArg Mac.tariff hview :)

/-- The end of the delay leaves the aggregated limit alone, and does not read the clock. -/
theorem txDelayExpired_spec (s : Mac) :
    (txDelayExpired s).tariff = s.tariff ∧
      (txDelayExpired s).AggregatedTimeOff = s.AggregatedTimeOff ∧
        (txDelayExpired s).board.reads = s.board.reads := by
  unfold txDelayExpired
  dsimp only
  split
  · have hprepare := unprepared_PrepareFrame { s with
      TxDelayedTimer := TimerStop s.TxDelayedTimer
      LoRaMacState := { s.LoRaMacState with MAC_TX_DELAYED := false } } .FRAME_TYPE_JOIN_REQ
      ⟨0, false, false, false, s.AdrCtrlOn⟩ 0 none 0
    exact ⟨(congrArg Mac.tariff hprepare :), (congrArg Mac.AggregatedTimeOff hprepare :),
      (congrArg (·.board.reads) hprepare :)⟩
  · exact ⟨rfl, rfl, rfl⟩

/-- In state `u` the limit is charged and looked at as in state `s`, with the time off and the clock
of state `t`. -/
structure Resumed (s t u : Mac) : Prop where
  env : u.env = s.env
  last : u.AggregatedLastTxDoneTime = s.AggregatedLastTxDoneTime
  charge : u.charge = s.charge
  maxDCycle : u.MaxDCycle = s.MaxDCycle
  joined : u.IsLoRaMacNetworkJoined = s.IsLoRaMacNetworkJoined
  timeOff : u.AggregatedTimeOff = t.AggregatedTimeOff
  reads : u.board.reads = t.board.reads

theorem resumed_txDelayExpired {s t : Mac} (h : t.tariff = s.tariff) :
    Resumed s t (txDelayExpired t) := by
  obtain ⟨hexpired, htimeOff, hreads⟩ := txDelayExpired_spec t
  have hsame := hexpired.trans h
  simp only [Mac.tariff, Prod.mk.injEq] at hsame
  obtain ⟨henv, hlast, hair, hdCycle, hmax, hjoined⟩ := hsame
  refine ⟨henv, hlast, ?_, hmax, hjoined, htimeOff, hreads⟩
  unfold Mac.charge
  rw [hair, hdCycle]

/-- An execution charges the limit, and sets it back if it is over by then. -/
theorem AggregatedTimeOff_delayedTo {s t : Mac} (hjoined : s.IsLoRaMacNetworkJoined = true)
    (hcycle : s.MaxDCycle ≠ 0) (h : DelayedTo s t) :
    t.AggregatedTimeOff = if s.AggregatedTimeOff + s.charge ≤
        s.env.elapsed s.board.reads s.AggregatedLastTxDoneTime then 0
      else s.AggregatedTimeOff + s.charge := by
  have hback := AggregatedTimeOff_backedOff s
  have hlimited := limited_backedOff_of_joined hjoined
  unfold Mac.PutOff at hlimited
  rw [if_neg hcycle] at hback hlimited
  obtain ⟨-, time, u, hselect, -, rfl⟩ := h
  change u.AggregatedTimeOff = _
  obtain ⟨hkept, hin⟩ | ⟨hzero, hout⟩ := AggregatedTimeOff_selectChannel hselect
  · rw [if_neg (UInt32.not_le.mpr (hlimited.mp hin)), hkept, hback]
  · rw [if_pos (UInt32.not_lt.mp (mt hlimited.mpr hout)), hzero]

/-- The aggregated time off that is left over when the limit has been looked at at these readings of
the clock, the last one first. -/
def Mac.leftOver (s : Mac) : List Nat → TimerTime_t
  | [] => s.AggregatedTimeOff
  | r :: readings =>
    if s.leftOver readings + s.charge ≤ s.env.elapsed r s.AggregatedLastTxDoneTime then 0
    else s.leftOver readings + s.charge

theorem leftOver_cons (s : Mac) (r : Nat) (readings : List Nat) : s.leftOver (r :: readings) =
    if s.leftOver readings + s.charge ≤ s.env.elapsed r s.AggregatedLastTxDoneTime then 0
    else s.leftOver readings + s.charge := rfl

theorem Postponed.leftOver {readings : List Nat} {s t : Mac} (h : Postponed readings s t)
    (hjoined : s.IsLoRaMacNetworkJoined = true) (hcycle : s.MaxDCycle ≠ 0) :
    t.tariff = s.tariff ∧ t.AggregatedTimeOff = s.leftOver readings := by
  induction h with
  | once h => exact ⟨tariff_delayedTo h, AggregatedTimeOff_delayedTo hjoined hcycle h⟩
  | @again readings s t u _ h ih =>
    obtain ⟨htariff, htimeOff⟩ := ih hjoined hcycle
    have hu := resumed_txDelayExpired htariff
    have hnext := AggregatedTimeOff_delayedTo (hu.joined.trans hjoined) (hu.maxDCycle ▸ hcycle) h
    rw [hu.timeOff, hu.charge, htimeOff, hu.env, hu.last, hu.reads] at hnext
    exact ⟨(tariff_delayedTo h).trans ((txDelayExpired_spec t).1.trans htariff), hnext⟩

/-- The limit as the next execution finds it. -/
theorem Postponed.limited_iff {readings : List Nat} {s t : Mac} (h : Postponed readings s t)
    (hjoined : s.IsLoRaMacNetworkJoined = true) (hcycle : s.MaxDCycle ≠ 0) :
    (txDelayExpired t).backedOff.Limited ↔
      s.env.elapsed t.board.reads s.AggregatedLastTxDoneTime < s.leftOver readings + s.charge := by
  obtain ⟨htariff, htimeOff⟩ := h.leftOver hjoined hcycle
  have hu := resumed_txDelayExpired htariff
  rw [limited_backedOff_of_joined (hu.joined.trans hjoined), Mac.PutOff, hu.env, hu.last, hu.reads,
    hu.maxDCycle, if_neg hcycle, hu.timeOff, htimeOff, hu.charge]

/-- The reading of the clock that the next execution takes first. -/
theorem Postponed.clock_eq {readings : List Nat} {s t : Mac} (h : Postponed readings s t)
    (hjoined : s.IsLoRaMacNetworkJoined = true) (hcycle : s.MaxDCycle ≠ 0) :
    (txDelayExpired t).backedOff.env.clock (txDelayExpired t).backedOff.board.reads =
      s.env.clock t.board.reads := by
  have hu := resumed_txDelayExpired (h.leftOver hjoined hcycle).1
  have henv : (txDelayExpired t).backedOff.env = (txDelayExpired t).env :=
    (congrArg Mac.env (chosen_backedOff (txDelayExpired t)).unchosen :)
  rw [henv, hu.env, board_backedOff_of_joined (hu.joined.trans hjoined), hu.reads]

/-- The charge is the time on air times the duty cycle less one, in 32 bits. -/
theorem toNat_aggregatedCharge {s : Mac} {m : Nat} (hm : m ≤ 15)
    (hcycle : s.AggregatedDCycle = UInt16.ofNat (2 ^ m)) :
    s.charge.toNat = s.TxTimeOnAir.toNat * (2 ^ m - 1) % 2 ^ 32 := by
  have hpow : 2 ^ m ≤ 2 ^ 15 := Nat.pow_le_pow_right (by decide) hm
  have hpos : 1 ≤ 2 ^ m := Nat.two_pow_pos m
  have hnat : s.AggregatedDCycle.toNat = 2 ^ m := by
    rw [hcycle, UInt16.toNat_ofNat', Nat.mod_eq_of_lt (by omega)]
  have hcharge := toNat_bandCharge s.TxTimeOnAir (hnat.symm ▸ hpos)
  rw [hnat] at hcharge
  exact hcharge

/-- Where the limit is looked at at the readings `before`, at `last` and, for the next execution, at
`next`: a frame that was on the air has been charged once if nothing was left over before the last
execution, the limit was in force then, and the next execution is not late enough for one charge
while it is too early for two. -/
def Mac.SingleCharge (s : Mac) (before : List Nat) (last next : Nat) : Prop :=
  if s.TxTimeOnAir = 0 then
    s.leftOver before ≤ s.env.elapsed last s.AggregatedLastTxDoneTime
  else
    s.leftOver before = 0 ∧ s.limit < 2 ^ 32 ∧
      (s.env.elapsed last s.AggregatedLastTxDoneTime).toNat < s.limit ∧
        (s.AggregatedLastTxDoneTime.toNat + s.limit ≤ (s.env.clock next).toNat →
          s.charge + s.charge ≤ s.env.elapsed next s.AggregatedLastTxDoneTime)

section Charge

variable {s : Mac} (hpos : 1 ≤ s.MaxDCycle) (hm : s.MaxDCycle ≤ 15)
  (hcycle : s.AggregatedDCycle = UInt16.ofNat (2 ^ s.MaxDCycle.toNat))
include hm hcycle

theorem toNat_charge_of_limit (hfits : s.limit < 2 ^ 32) : s.charge.toNat = s.limit := by
  rw [toNat_aggregatedCharge (UInt8.le_iff_toNat_le.mp hm) hcycle]
  exact Nat.mod_eq_of_lt hfits

include hpos

/-- The charge, and what is left over, in terms of one charge. -/
theorem leftOver_eq_limit (hair : s.TxTimeOnAir ≠ 0) (r : Nat) (readings : List Nat) :
    (s.leftOver (r :: readings)).toNat = s.limit ↔ s.leftOver readings = 0 ∧ s.limit < 2 ^ 32 ∧
      (s.env.elapsed r s.AggregatedLastTxDoneTime).toNat < s.limit := by
  have hlimit : s.limit ≠ 0 := by
    have hpow : 2 ^ s.MaxDCycle.toNat - 1 ≠ 0 :=
      (Nat.sub_pos_of_lt (Nat.one_lt_two_pow (Nat.ne_of_gt (UInt8.le_iff_toNat_le.mp hpos)))).ne'
    exact Nat.mul_ne_zero (fun hzero => hair (UInt32.toNat_inj.mp hzero)) hpow
  have hcharge := toNat_charge_of_limit hm hcycle
  constructor
  · intro heq
    have hfits : s.limit < 2 ^ 32 := heq ▸ (s.leftOver (r :: readings)).toNat_lt
    rw [leftOver_cons] at heq
    split at heq
    · exact absurd heq.symm hlimit
    · next hover =>
      have hsame : s.leftOver readings + s.charge = s.charge :=
        UInt32.toNat_inj.mp (heq.trans (hcharge hfits).symm)
      rw [hsame, UInt32.not_le, UInt32.lt_iff_toNat_lt, hcharge hfits] at hover
      exact ⟨UInt32.add_eq_right.mp hsame, hfits, hover⟩
  · rintro ⟨hzero, hfits, hearly⟩
    rw [leftOver_cons, hzero, UInt32.zero_add, if_neg, hcharge hfits]
    rw [UInt32.not_le, UInt32.lt_iff_toNat_lt, hcharge hfits]
    exact hearly

end Charge

/-- For every joined state and every number of executions of `ScheduleTx` that put the frame off:
the aggregated limit is charged just once exactly when nothing was left over of it before the last
of them. Each execution charges the limit before it looks at it, and sets it back only if it is
over. -/
theorem chargedOnce_iff {s t : Mac} {last : Nat} {before : List Nat}
    (hjoined : s.IsLoRaMacNetworkJoined = true) (hpos : 1 ≤ s.MaxDCycle) (hm : s.MaxDCycle ≤ 15)
    (hcycle : s.AggregatedDCycle = UInt16.ofNat (2 ^ s.MaxDCycle.toNat))
    (h : Postponed (last :: before) s t) :
    ChargedOnce s t ↔ s.SingleCharge before last t.board.reads := by
  have hcycle₀ : s.MaxDCycle ≠ 0 := by
    intro hzero
    rw [hzero] at hpos
    exact absurd hpos (by decide)
  unfold ChargedOnce Mac.SingleCharge
  dsimp only
  rw [(h.leftOver hjoined hcycle₀).2, h.limited_iff hjoined hcycle₀, h.clock_eq hjoined hcycle₀]
  by_cases hzero : s.TxTimeOnAir = 0
  · have hnone : s.charge = 0 := by
      unfold Mac.charge
      rw [hzero]
      simp
    have hlimit : s.limit = 0 := by
      unfold Mac.limit
      rw [hzero]
      simp
    rw [if_pos hzero, hlimit, hnone, UInt32.add_zero]
    rw [leftOver_cons, hnone, UInt32.add_zero]
    split
    · next hover => exact iff_of_true ⟨rfl, fun _ => UInt32.not_lt_zero⟩ hover
    · next hover =>
      refine iff_of_false (fun hsingle => hover ?_) hover
      rw [UInt32.toNat_inj.mp (hsingle.1.trans UInt32.toNat_zero.symm)]
      exact UInt32.zero_le
  · rw [if_neg hzero, leftOver_eq_limit hpos hm hcycle hzero]
    simp only [and_assoc]
    refine and_congr_right fun hleft => and_congr_right fun hfits => and_congr_right fun hearly => ?_
    have honce : s.leftOver (last :: before) = s.charge := by
      refine UInt32.toNat_inj.mp (((leftOver_eq_limit hpos hm hcycle hzero last before).mpr
        ⟨hleft, hfits, hearly⟩).trans (toNat_charge_of_limit hm hcycle hfits).symm)
    rw [honce, UInt32.not_lt]

/-- A frame of 50 ms ended at 1000 on a node that may use half of the time. The next one is
scheduled at 1010, and the timer of its delay has run off at `expiry`. -/
def halfCycle (expiry : TimerTime_t) : Mac :=
  { Mac.personalised
      { Env.plain with clock := fun reads => if reads < 2 then 1010 else expiry } with
    MaxDCycle := 1
    AggregatedDCycle := 2
    TxTimeOnAir := 50
    AggregatedLastTxDoneTime := 1000 }

/-- If the timer is so late that 100 ms have passed since the last frame, one delay is all. -/
theorem chargedOnce_iff_late : ∃ t, Postponed [0] (halfCycle 1100) t ∧
    t.AggregatedTimeOff = 50 ∧ ChargedOnce (halfCycle 1100) t := by
  have hdelayed : DelayedTo (halfCycle 1100) _ := ⟨by decide, _, _, rfl, by decide, rfl⟩
  have h : Postponed [0] (halfCycle 1100) _ := .once hdelayed
  refine ⟨_, h, by decide, (chargedOnce_iff rfl (by decide) (by decide) rfl h).mpr ?_⟩
  unfold Mac.SingleCharge
  rw [if_neg (by decide)]
  exact ⟨by decide, by decide, by decide, by decide⟩

/-- At 1050, when the 50 ms have passed, the limit has been charged for 100 ms, and the frame is
delayed again. -/
theorem not_chargedOnce_halfCycle : (halfCycle 1050).IsLoRaMacNetworkJoined = true ∧
    (halfCycle 1050).MaxDCycle = 1 ∧ (halfCycle 1050).AggregatedDCycle = UInt16.ofNat (2 ^ 1) ∧
      ∃ t, Postponed [0] (halfCycle 1050) t ∧ ¬ChargedOnce (halfCycle 1050) t := by
  have hdelayed : DelayedTo (halfCycle 1050) _ := ⟨by decide, _, _, rfl, by decide, rfl⟩
  refine ⟨rfl, rfl, rfl, _, .once hdelayed, fun h => ?_⟩
  exact h.2 (by decide) (by decide)

end loranode.mac
