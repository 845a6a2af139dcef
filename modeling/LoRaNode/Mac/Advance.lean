import LoRaNode.Mac.Cycle

namespace loranode.mac

/-- The state check ends a frame that is not to be acknowledged: it has been repeated often
enough, or a frame has been received. -/
def Mac.endsFrame (s : Mac) : Prop :=
  (s.NodeAckRequested = false ∧ txTimeout s = false) ∧ s.pending = true ∧
    (s.LoRaMacParams.ChannelsNbRep ≤ (checkJoin s).ChannelsNbRepCounter ∨
      s.LoRaMacFlags.McpsInd = true)

/-- The state check gives up a frame that has not been acknowledged. -/
def Mac.givesUp (s : Mac) : Prop :=
  s.AckTimeoutRetry = true ∧ s.LoRaMacState.MAC_TX_DELAYED = false ∧ trialsLeft s = false

/-- The state check ends one frame twice, and the second count shows: it is not hidden by the end
of a session or by the end of the 32 bits. -/
structure Mac.CountsTwice (s : Mac) : Prop where
  macDone : s.LoRaMacFlags.MacDone = true
  free : s.IsUpLinkCounterFixed = false
  endsFrame : s.endsFrame
  endsWait : acknowledged s = true ∨ s.givesUp
  shows : s.UpLinkCounter.toNat + 1 < ((checkJoin s).UpLinkCounter + 1 + 1).toNat

theorem countUplink_of_free {s : Mac} (h : s.IsUpLinkCounterFixed = false) :
    countUplink s = s.UpLinkCounter + 1 := by
  unfold countUplink
  rw [h, if_neg Bool.false_ne_true]

theorem toNat_countUplink_le (s : Mac) : (countUplink s).toNat ≤ s.UpLinkCounter.toNat + 1 := by
  unfold countUplink
  split
  · exact Nat.le_succ _
  · rw [UInt32.toNat_add]
    exact Nat.mod_le _ _

/-- A join that is accepted starts the counter again. -/
theorem toNat_checkJoin_le (s : Mac) :
    (checkJoin s).UpLinkCounter.toNat ≤ s.UpLinkCounter.toNat := by
  unfold checkJoin
  split
  · split
    · exact Nat.zero_le _
    · exact Nat.le_refl _
  · exact Nat.le_refl _

/-- The wait for an acknowledgement ends with one count. -/
theorem counter_checkAckTimeout {s t : Mac} (h : checkAckTimeout (checkAck s) = some t) :
    (acknowledged s = true ∨ s.givesUp) ∧ t.UpLinkCounter = countUplink s ∨
      ¬ (acknowledged s = true ∨ s.givesUp) ∧ t.UpLinkCounter = s.UpLinkCounter := by
  unfold checkAck at h
  by_cases hack : acknowledged s = true
  · rw [if_pos hack] at h
    cases eq_of_checkAckTimeout h rfl
    exact .inl ⟨.inl hack, rfl⟩
  · rw [if_neg hack] at h
    have hnot (hgives : ¬ s.givesUp) : ¬ (acknowledged s = true ∨ s.givesUp) :=
      fun hends => hends.elim hack hgives
    rcases checkAckTimeout_cases h with ⟨hwaiting, rfl⟩ | ⟨⟨hretry, hdelayed⟩, ⟨hleft, status,
      hschedule⟩ | ⟨hleft, rfl⟩⟩
    · refine .inr ⟨hnot fun hgive => ?_, rfl⟩
      rcases hwaiting with hfalse | hdelayed
      · exact absurd (hgive.1.symm.trans hfalse) (by decide)
      · exact absurd (hdelayed.symm.trans hgive.2.1) (by decide)
    · refine .inr ⟨hnot fun hgive => ?_, ?_⟩
      · exact absurd (hgive.2.2.symm.trans hleft) (by decide)
      · exact (congrArg Mac.UpLinkCounter (unscheduled_ScheduleTx hschedule) :)
    · exact .inl ⟨.inr ⟨hretry, hdelayed, hleft⟩, rfl⟩

/-- A frame that is not to be acknowledged ends with one count, and leaves what decides about the
wait for an acknowledgement. -/
theorem counter_checkRepetition {s t : Mac} (h : checkRepetition s = some t) :
    (s.pending = true ∧ (s.LoRaMacParams.ChannelsNbRep ≤ (checkJoin s).ChannelsNbRepCounter ∨
          s.LoRaMacFlags.McpsInd = true)) ∧
        t.UpLinkCounter = (if s.IsUpLinkCounterFixed then (checkJoin s).UpLinkCounter
          else (checkJoin s).UpLinkCounter + 1) ∧
        t.IsUpLinkCounterFixed = s.IsUpLinkCounterFixed ∧
        (acknowledged t = true ∨ t.givesUp ↔ acknowledged s = true ∨ s.givesUp) ∨
      ¬ (s.pending = true ∧ (s.LoRaMacParams.ChannelsNbRep ≤ (checkJoin s).ChannelsNbRepCounter ∨
          s.LoRaMacFlags.McpsInd = true)) ∧
        t.UpLinkCounter = (checkJoin s).UpLinkCounter := by
  obtain ⟨repetitions, counter, hjoin, -⟩ := checkJoin_eq s
  unfold checkRepetition at h
  rw [hjoin] at h ⊢
  dsimp only at h ⊢
  split at h
  · next hpending =>
    split at h
    · next hends =>
      cases h
      exact .inl ⟨⟨hpending, hends⟩, rfl, rfl, Iff.rfl⟩
    · next hends =>
      obtain ⟨⟨status, u⟩, hschedule, rfl⟩ := Option.map_eq_some_iff.mp h
      refine .inr ⟨fun hboth => hends hboth.2, ?_⟩
      exact (congrArg Mac.UpLinkCounter (unscheduled_ScheduleTx hschedule) :)
  · next hpending =>
    cases h
    exact .inr ⟨fun hboth => hpending hboth.1, rfl⟩

theorem checkJoin_congr {s t : Mac} (hflags : t.LoRaMacFlags = s.LoRaMacFlags)
    (hconfirm : t.MlmeConfirm = s.MlmeConfirm) (hparams : t.LoRaMacParams = s.LoRaMacParams)
    (hrepetitions : t.ChannelsNbRepCounter = s.ChannelsNbRepCounter)
    (hcounter : t.UpLinkCounter = s.UpLinkCounter) :
    (checkJoin t).UpLinkCounter = (checkJoin s).UpLinkCounter ∧
      (checkJoin t).ChannelsNbRepCounter = (checkJoin s).ChannelsNbRepCounter := by
  unfold checkJoin
  rw [hflags, hconfirm, hparams]
  split
  · split
    · exact ⟨rfl, rfl⟩
    · exact ⟨hcounter, rfl⟩
  · exact ⟨hcounter, hrepetitions⟩

/-- One turn of the state check counts one frame, unless it ends it twice. -/
theorem counter_completeCycle {s t : Mac} (h : completeCycle s = some t)
    (hdone : s.LoRaMacFlags.MacDone = true) :
    t.UpLinkCounter.toNat ≤ s.UpLinkCounter.toNat + 1 ↔ ¬ s.CountsTwice := by
  obtain ⟨confirm, u, hconfirm, hu, hut⟩ := completeCycle_parts h
  have hle := toNat_checkJoin_le s
  have hone (hucounter : u.UpLinkCounter.toNat ≤ s.UpLinkCounter.toNat) :
      t.UpLinkCounter.toNat ≤ s.UpLinkCounter.toNat + 1 := by
    have hcount := toNat_countUplink_le u
    rcases counter_checkAckTimeout hut with ⟨-, ht⟩ | ⟨-, ht⟩
    · rw [ht]
      omega
    · rw [ht]
      omega
  rcases hu with ⟨hcase, hu⟩ | ⟨hcase, rfl⟩
  · rw [hconfirm hcase.2] at hu
    obtain ⟨hcounter, hrepetitions⟩ : (checkJoin (s.ended s.McpsConfirm)).UpLinkCounter =
          (checkJoin s).UpLinkCounter ∧
        (checkJoin (s.ended s.McpsConfirm)).ChannelsNbRepCounter =
          (checkJoin s).ChannelsNbRepCounter := checkJoin_congr rfl rfl rfl rfl rfl
    have hparts := counter_checkRepetition hu
    rw [hcounter, hrepetitions] at hparts
    rcases hparts with ⟨hends, hucounter, hfixed, hwait⟩ | ⟨hends, hucounter⟩
    · cases hfree : s.IsUpLinkCounterFixed with
      | true =>
        have hucounter : u.UpLinkCounter = (checkJoin s).UpLinkCounter :=
          hucounter.trans (if_pos hfree)
        refine ⟨fun _ htwice => ?_, fun _ => hone ?_⟩
        · exact absurd (hfree.symm.trans htwice.free) (by decide)
        · rw [hucounter]
          exact hle
      | false =>
        have hucounter : u.UpLinkCounter = (checkJoin s).UpLinkCounter + 1 :=
          hucounter.trans (if_neg (by simp [Mac.ended, hfree]))
        have hcount : countUplink u = (checkJoin s).UpLinkCounter + 1 + 1 := by
          rw [countUplink_of_free (hfixed.trans hfree), hucounter]
        rcases counter_checkAckTimeout hut with ⟨hends', ht⟩ | ⟨hends', ht⟩
        · rw [ht, hcount]
          constructor
          · intro hbound htwice
            exact absurd htwice.shows (by omega)
          · intro hnot
            by_contra hbound
            exact hnot ⟨hdone, hfree, ⟨hcase, hends⟩, hwait.mp hends', by omega⟩
        · rw [ht, hucounter]
          refine ⟨fun _ htwice => hends' (hwait.mpr htwice.endsWait), fun _ => ?_⟩
          rw [UInt32.toNat_add]
          exact (Nat.mod_le _ _).trans (Nat.add_le_add_right hle 1)
    · refine ⟨fun _ htwice => hends htwice.endsFrame.2, fun _ => hone ?_⟩
      rw [hucounter]
      exact hle
  · refine ⟨fun _ htwice => ?_, fun _ => hone (Nat.le_refl _)⟩
    obtain ⟨hnode, hin⟩ := htwice.endsFrame.1
    rcases hcase with htrue | htrue
    · exact absurd (hnode.symm.trans htrue) (by decide)
    · exact absurd (hin.symm.trans htrue) (by decide)

theorem counter_confirmRequests (s : Mac) :
    (confirmRequests s).UpLinkCounter = s.UpLinkCounter := by
  have hindicate (s : Mac) : (indicate s).UpLinkCounter = s.UpLinkCounter := by
    unfold indicate
    split <;> rfl
  unfold confirmRequests confirmMcps confirmMlme
  split
  · split
    · rfl
    · split
      · rfl
      · exact hindicate _
  · exact hindicate _

/-- `OnMacStateCheckTimerEvent` moves the uplink counter by one at most exactly when it does not end
a frame twice. It looks for the end of a frame that is not to be acknowledged and for the end of a
wait one after the other, and counts for each; the two meet where a wait is left over from another
frame. -/
theorem counter_OnMacStateCheckTimerEvent_iff {s t : Mac}
    (h : OnMacStateCheckTimerEvent s = some t) :
    t.UpLinkCounter.toNat ≤ s.UpLinkCounter.toNat + 1 ↔ ¬ s.CountsTwice := by
  obtain ⟨u, rfl, ⟨hdone, rfl⟩ | ⟨hdone, hcycle⟩⟩ := OnMacStateCheckTimerEvent_cases h
  · rw [counter_confirmRequests]
    refine ⟨fun _ htwice => ?_, fun _ => Nat.le_succ _⟩
    exact absurd (hdone.symm.trans htwice.macDone) (by decide)
  · have hcounter := counter_completeCycle hcycle hdone
    obtain ⟨hjoin, hrepetitions⟩ : (checkJoin s.checked).UpLinkCounter =
          (checkJoin s).UpLinkCounter ∧
        (checkJoin s.checked).ChannelsNbRepCounter = (checkJoin s).ChannelsNbRepCounter :=
      checkJoin_congr rfl rfl rfl rfl rfl
    have htwice : s.checked.CountsTwice ↔ s.CountsTwice := by
      constructor
      · rintro ⟨hdone, hfree, ⟨hcase, hends⟩, hwait, hshows⟩
        rw [hjoin] at hshows
        rw [hrepetitions] at hends
        exact ⟨hdone, hfree, ⟨hcase, hends⟩, hwait, hshows⟩
      · rintro ⟨hdone, hfree, ⟨hcase, hends⟩, hwait, hshows⟩
        rw [← hjoin] at hshows
        rw [← hrepetitions] at hends
        exact ⟨hdone, hfree, ⟨hcase, hends⟩, hwait, hshows⟩
    rw [counter_confirmRequests, ← htwice]
    exact hcounter

/-- A frame that is to be acknowledged, in two trials that stay without answer. -/
def unanswered : List Event :=
  [.request (.mcps (.Confirmed 1 none 0 5 2)), .radio .TxDone, .rxWindowTimer2,
    .radio (.RxTimeout false), .ackTimeoutTimer, .macStateCheckTimer, .radio .TxDone,
    .rxWindowTimer2, .radio (.RxTimeout false), .ackTimeoutTimer]

/-- The second trial is given up. -/
theorem counter_OnMacStateCheckTimerEvent_iff_unanswered : ∃ s t,
    Runs (fun _ _ => True) (Mac.personalised Env.slow) unanswered s ∧
      OnMacStateCheckTimerEvent s = some t ∧ s.givesUp ∧
      t.UpLinkCounter.toNat ≤ s.UpLinkCounter.toNat + 1 := by
  obtain ⟨s, hrun, hs⟩ := transition.Run.of_after step (fun _ _ => True)
    (Mac.personalised Env.slow) unanswered
    (fun s => decide (s.NodeAckRequested = true ∧ s.AckTimeoutRetry = true ∧
      s.LoRaMacState.MAC_TX_DELAYED = false ∧ trialsLeft s = false) &&
        (OnMacStateCheckTimerEvent s).isSome)
    (by decide +kernel)
  rw [Bool.and_eq_true] at hs
  obtain ⟨hack, hgives⟩ := of_decide_eq_true hs.1
  obtain ⟨t, ht⟩ := Option.isSome_iff_exists.mp hs.2
  refine ⟨s, t, hrun, ht, hgives, (counter_OnMacStateCheckTimerEvent_iff ht).mpr fun htwice => ?_⟩
  exact absurd (hack.symm.trans htwice.endsFrame.1.1) (by decide)

/-- Behind it a frame that is not to be acknowledged, and a reception in its first window. -/
def answered : List Event :=
  unanswered ++ [.macStateCheckTimer, .upperReturn, .request (.mcps (.Unconfirmed 1 none 0 5)),
    .radio .TxDone, .rxWindowTimer1, .radio (.RxDone foreignFrame 0 0 false)]

/-- The trials of the first frame are compared with those of the second one, which counts
twice. -/
theorem not_counter_OnMacStateCheckTimerEvent_answered : ∃ s t,
    Runs (fun _ _ => True) (Mac.personalised Env.slow) answered s ∧
      OnMacStateCheckTimerEvent s = some t ∧
      (s.UpLinkCounter = 2 ∧ t.UpLinkCounter = 4) ∧
      ¬ t.UpLinkCounter.toNat ≤ s.UpLinkCounter.toNat + 1 := by
  obtain ⟨s, hrun, hs⟩ := transition.Run.of_after step (fun _ _ => True)
    (Mac.personalised Env.slow) answered
    (fun s => (OnMacStateCheckTimerEvent s).any fun (t : Mac) =>
      decide (s.UpLinkCounter = 2 ∧ t.UpLinkCounter = 4))
    (by decide +kernel)
  obtain ⟨t, ht, hcounters⟩ := (Option.any_eq_true _ _).mp hs
  obtain ⟨hbefore, hafter⟩ := of_decide_eq_true hcounters
  refine ⟨s, t, hrun, ht, ⟨hbefore, hafter⟩, ?_⟩
  rw [hbefore, hafter]
  decide

end loranode.mac
