import LoRaNode.Lib.Monitor
import LoRaNode.Mac.Cycle

open monitor

namespace loranode.mac

open LoRaMacStatus_t LoRaMacFrameType_t

/-- Whether a data request has been accepted and not been confirmed. None is accepted before the
one before it is confirmed, and none is confirmed that has not been accepted. -/
def confirmMonitor : Monitor Action Bool where
  start := false
  next outstanding
    | .Accepted => true
    | .MacMcpsConfirm _ => false
    | _ => outstanding
  ok outstanding
    | .Accepted => outstanding = false
    | .MacMcpsConfirm _ => outstanding = true
    | _ => True

instance (outstanding : Bool) (a : Action) : Decidable (confirmMonitor.ok outstanding a) :=
  match a with
  | .Accepted => inferInstanceAs (Decidable (outstanding = false))
  | .MacMcpsConfirm _ => inferInstanceAs (Decidable (outstanding = true))
  | .Send _ | .TxDone _ | .TxTimeout | .MacMlmeConfirm _ | .MacMcpsIndication _ _ => .isTrue trivial

/-- A data request has been accepted and not been confirmed. -/
def Mac.outstanding (s : Mac) : Bool := confirmMonitor.after s.board.log

/-- A step that neither accepts a data request nor confirms one. -/
structure Passing (s t : Mac) : Prop where
  outstanding : t.outstanding = s.outstanding
  accepts : confirmMonitor.Accepts s.board.log → confirmMonitor.Accepts t.board.log
  mcpsReq : t.LoRaMacFlags.McpsReq = s.LoRaMacFlags.McpsReq
  inside : t.inside = s.inside
  windows : t.IsRxWindowsEnabled = s.IsRxWindowsEnabled
  plain : s.LoRaMacState.plain = true → t.LoRaMacState.plain = true

namespace Passing

theorem trans {s t u : Mac} (hst : Passing s t) (htu : Passing t u) : Passing s u :=
  ⟨htu.outstanding.trans hst.outstanding, htu.accepts ∘ hst.accepts,
    htu.mcpsReq.trans hst.mcpsReq, htu.inside.trans hst.inside, htu.windows.trans hst.windows,
    htu.plain ∘ hst.plain⟩

/-- A step that does nothing of interest for the monitor. -/
theorem of_log {s t : Mac}
    (hlog : ∃ log, (∀ a ∈ log, confirmMonitor.Ignores a) ∧ t.board.log = s.board.log ++ log)
    (hmcpsReq : t.LoRaMacFlags.McpsReq = s.LoRaMacFlags.McpsReq) (hinside : t.inside = s.inside)
    (hwindows : t.IsRxWindowsEnabled = s.IsRxWindowsEnabled)
    (hplain : s.LoRaMacState.plain = true → t.LoRaMacState.plain = true) : Passing s t := by
  obtain ⟨log, hignores, hlog⟩ := hlog
  obtain ⟨hafter, haccepts⟩ := Monitor.accepts_append_of_ignores s.board.log hignores
  refine ⟨?_, ?_, hmcpsReq, hinside, hwindows, hplain⟩
  · unfold Mac.outstanding
    rw [hlog, hafter]
  · rw [hlog]
    exact haccepts

theorem of_eq {s t : Mac} (hlog : t.board.log = s.board.log)
    (hmcpsReq : t.LoRaMacFlags.McpsReq = s.LoRaMacFlags.McpsReq) (hinside : t.inside = s.inside)
    (hwindows : t.IsRxWindowsEnabled = s.IsRxWindowsEnabled)
    (hplain : s.LoRaMacState.plain = true → t.LoRaMacState.plain = true) : Passing s t :=
  .of_log ⟨[], fun _ h => absurd h List.not_mem_nil, by rw [hlog, List.append_nil]⟩ hmcpsReq
    hinside hwindows hplain

theorem of_snoc {s t : Mac} {a : Action} (ha : confirmMonitor.Ignores a)
    (hlog : t.board.log = s.board.log ++ [a])
    (hmcpsReq : t.LoRaMacFlags.McpsReq = s.LoRaMacFlags.McpsReq) (hinside : t.inside = s.inside)
    (hwindows : t.IsRxWindowsEnabled = s.IsRxWindowsEnabled)
    (hplain : s.LoRaMacState.plain = true → t.LoRaMacState.plain = true) : Passing s t :=
  .of_log ⟨[a], fun _ h => List.mem_singleton.mp h ▸ ha, hlog⟩ hmcpsReq hinside hwindows hplain

end Passing

/-- The frames that the radio sends are of no interest for the monitor. -/
theorem ignores_sent (sent : List Transmission) :
    ∀ a ∈ sent.map Action.Send, confirmMonitor.Ignores a := by
  intro a ha
  obtain ⟨x, -, rfl⟩ := List.mem_map.mp ha
  exact fun _ => ⟨rfl, trivial⟩

theorem Cycling.passing {s t : Mac} (h : Cycling s t) : Passing s t := by
  obtain ⟨sent, hsent⟩ := h.log
  have hplain : t.LoRaMacState.plain = s.LoRaMacState.plain :=
    (congrArg (·.LoRaMacState.plain) h.uncycled :)
  exact .of_log ⟨_, ignores_sent sent, hsent⟩ (congrArg (·.LoRaMacFlags.McpsReq) h.uncycled :)
    (congrArg Mac.inside h.uncycled :) (congrArg Mac.IsRxWindowsEnabled h.uncycled :)
    (fun h => hplain ▸ h)

/-- A frame that is scheduled is on its way, or is delayed. -/
theorem busy_ScheduleTx {s t : Mac} (h : ScheduleTx s = some (LORAMAC_STATUS_OK, t)) :
    t.LoRaMacState.MAC_TX_RUNNING = true ∨ t.LoRaMacState.MAC_TX_DELAYED = true := by
  rcases ScheduleTx_cases h with ⟨-, hstatus, -⟩ | ⟨-, -, u, -, rfl | ⟨time, rfl⟩⟩
  · cases hstatus
  · exact .inl rfl
  · exact .inr rfl

theorem passing_PrepareFrame (s : Mac) (macHdr : LoRaMacFrameType_t) (fCtrl : LoRaMacFrameCtrl_t)
    (fPort : UInt8) (fBuffer : Option Mem) (fBufferSize : UInt16) :
    Passing s (PrepareFrame s macHdr fCtrl fPort fBuffer fBufferSize).2 := by
  have hview := unprepared_PrepareFrame s macHdr fCtrl fPort fBuffer fBufferSize
  have hstate : (PrepareFrame s macHdr fCtrl fPort fBuffer fBufferSize).2.LoRaMacState =
      s.LoRaMacState := (congrArg Mac.LoRaMacState hview :)
  refine .of_eq (congrArg (·.board.log) hview :)
    (congrArg (·.LoRaMacFlags.McpsReq) hview :) (congrArg Mac.inside hview :)
    (congrArg Mac.IsRxWindowsEnabled hview :) ?_
  rw [hstate]
  exact id

theorem passing_Send {s t : Mac} {macHdr : LoRaMacFrameType_t} {fPort : UInt8}
    {fBuffer : Option Mem} {fBufferSize : UInt16} {status : LoRaMacStatus_t}
    (h : Send s macHdr fPort fBuffer fBufferSize = some (status, t)) : Passing s t := by
  have hview := unsent_Send h
  have hplain : t.LoRaMacState.plain = s.LoRaMacState.plain :=
    (congrArg (·.LoRaMacState.plain) hview :)
  obtain ⟨sent, hsent⟩ := log_Send h
  exact .of_log ⟨_, ignores_sent sent, hsent⟩ (congrArg (·.LoRaMacFlags.McpsReq) hview :)
    (congrArg Mac.inside hview :) (congrArg Mac.IsRxWindowsEnabled hview :) (fun h => hplain ▸ h)

theorem busy_Send {s t : Mac} {macHdr : LoRaMacFrameType_t} {fPort : UInt8}
    {fBuffer : Option Mem} {fBufferSize : UInt16}
    (h : Send s macHdr fPort fBuffer fBufferSize = some (LORAMAC_STATUS_OK, t)) :
    t.LoRaMacState.MAC_TX_RUNNING = true ∨ t.LoRaMacState.MAC_TX_DELAYED = true := by
  obtain ⟨status', u, -, ⟨hne, rfl, -⟩ | ⟨-, hschedule⟩⟩ := Send_cases h
  · exact absurd rfl hne
  · exact busy_ScheduleTx hschedule

/-- The state check confirms nothing before it has ended the cycle, and no refusal is left
then. -/
theorem passing_completeCycle {s t : Mac} (h : completeCycle s = some t) :
    Passing s t ∧ t.LoRaMacState.MAC_RX_ABORT = false := by
  obtain ⟨confirm, hcycling⟩ := cycling_completeCycle h
  have hended : Passing s (s.ended confirm) := .of_eq rfl rfl rfl rfl id
  exact ⟨hended.trans hcycling.passing, (congrArg (·.LoRaMacState.MAC_RX_ABORT) hcycling.uncycled :)⟩

/-- The requests that are accepted and the confirms match, with the flag that remembers an
accepted request until its confirm has returned, and a transmission that it waits for. -/
structure Matched (s : Mac) : Prop where
  accepts : confirmMonitor.Accepts s.board.log
  flag : s.LoRaMacFlags.McpsReq = true ↔
    s.outstanding = true ∨ s.inside = some .MacMcpsConfirm
  inside : s.inside = some .MacMcpsConfirm → s.outstanding = false
  busy : s.outstanding = true →
    s.LoRaMacState.MAC_TX_RUNNING = true ∨ s.LoRaMacState.MAC_TX_DELAYED = true
  plain : s.LoRaMacState.plain = true
  windows : s.IsRxWindowsEnabled = true

/-- What an event must meet: no data request that may be accepted comes from inside
`MacMcpsConfirm`, and the device is not switched off by `MaxDCycle` when a frame of a data request
that was delayed is due. -/
def Retained (s : Mac) : Event → Prop
  | .request (.mcps r) => s.MayAccept r → s.inside ≠ some .MacMcpsConfirm
  | .txDelayedTimer => ¬ (s.MaxDCycle = 255 ∧ s.LoRaMacFlags.McpsReq = true ∧
    s.LoRaMacState.MAC_TX_RUNNING = false)
  | _ => True

namespace Matched

theorem of_passing {s t : Mac} (hs : Matched s) (h : Passing s t)
    (hbusy : s.outstanding = true →
      t.LoRaMacState.MAC_TX_RUNNING = true ∨ t.LoRaMacState.MAC_TX_DELAYED = true) :
    Matched t := by
  refine ⟨h.accepts hs.accepts, ?_, ?_, ?_, h.plain hs.plain, h.windows.trans hs.windows⟩
  · rw [h.mcpsReq, h.outstanding, h.inside]
    exact hs.flag
  · rw [h.inside, h.outstanding]
    exact hs.inside
  · rw [h.outstanding]
    exact hbusy

/-- Nothing is outstanding while no frame is on its way. -/
theorem settled {s : Mac} (hs : Matched s) (hrunning : s.LoRaMacState.MAC_TX_RUNNING = false)
    (hdelayed : s.LoRaMacState.MAC_TX_DELAYED = false) : s.outstanding = false := by
  refine Bool.eq_false_iff.mpr fun houtstanding => ?_
  rcases hs.busy houtstanding with h | h
  · rw [hrunning] at h
    cases h
  · rw [hdelayed] at h
    cases h

end Matched

/-- The upper layer is called for something else than a confirm of a data request, or has
returned from there. -/
theorem Matched.enter {s t : Mac} (hs : Matched s) (hinside : s.inside ≠ some .MacMcpsConfirm)
    (hinside' : t.inside ≠ some .MacMcpsConfirm)
    (hlog : t.board.log = s.board.log ∨
      ∃ a, confirmMonitor.Ignores a ∧ t.board.log = s.board.log ++ [a])
    (hmcpsReq : t.LoRaMacFlags.McpsReq = s.LoRaMacFlags.McpsReq)
    (hstate : t.LoRaMacState = s.LoRaMacState)
    (hwindows : t.IsRxWindowsEnabled = s.IsRxWindowsEnabled) : Matched t := by
  have hplain : s.LoRaMacState.plain = true → t.LoRaMacState.plain = true := by
    rw [hstate]
    exact id
  have hpassing : Passing s { t with inside := s.inside } := by
    rcases hlog with hlog | ⟨a, ha, hlog⟩
    · exact .of_eq hlog hmcpsReq rfl hwindows hplain
    · exact .of_snoc ha hlog hmcpsReq rfl hwindows hplain
  have ht : Matched { t with inside := s.inside } := by
    refine hs.of_passing hpassing fun houtstanding => ?_
    change t.LoRaMacState.MAC_TX_RUNNING = true ∨ t.LoRaMacState.MAC_TX_DELAYED = true
    rw [hstate]
    exact hs.busy houtstanding
  refine ⟨ht.accepts, ?_, fun h => absurd h hinside', ht.busy, ht.plain, ht.windows⟩
  have hflag : t.LoRaMacFlags.McpsReq = true ↔
    t.outstanding = true ∨ s.inside = some .MacMcpsConfirm := ht.flag
  rw [hflag, or_iff_left hinside, or_iff_left hinside']

theorem matched_indicate {s : Mac} (hs : Matched s) (hinside : s.inside ≠ some .MacMcpsConfirm) :
    Matched (indicate s) := by
  unfold indicate
  split
  · exact hs.enter hinside nofun
      (.inr ⟨.MacMcpsIndication s.McpsIndication _, fun _ => ⟨rfl, trivial⟩, rfl⟩) rfl rfl rfl
  · exact hs

theorem matched_endConfirms {s : Mac} (hs : Matched s)
    (hinside : s.inside ≠ some .MacMcpsConfirm) : Matched (endConfirms s) :=
  matched_indicate (hs.enter hinside hinside (.inl rfl) rfl rfl rfl) hinside

theorem matched_confirmMlme {s : Mac} (hs : Matched s)
    (hinside : s.inside ≠ some .MacMcpsConfirm) : Matched (confirmMlme s) := by
  unfold confirmMlme
  split
  · exact hs.enter hinside nofun
      (.inr ⟨.MacMlmeConfirm s.MlmeConfirm, fun _ => ⟨rfl, trivial⟩, rfl⟩) rfl rfl rfl
  · exact matched_endConfirms hs hinside

theorem matched_returnFrom {s : Mac} {p : Primitive} (hs : Matched s)
    (hinside : s.inside = some p) : Matched (returnFrom s p) := by
  cases p with
  | MacMcpsConfirm =>
    have houtstanding := hs.inside hinside
    have hcleared : Matched { s with
        inside := none, LoRaMacFlags := { s.LoRaMacFlags with McpsReq := false } } := by
      refine ⟨hs.accepts, ⟨fun h => (by cases h), ?_⟩, (fun h => by cases h), hs.busy, hs.plain,
        hs.windows⟩
      rintro (h | h)
      · exact absurd (houtstanding.symm.trans h) (by decide)
      · cases h
    exact matched_confirmMlme hcleared nofun
  | MacMlmeConfirm =>
    have hother : s.inside ≠ some .MacMcpsConfirm := by
      rw [hinside]
      decide
    exact matched_endConfirms (hs.enter hother nofun (.inl rfl) rfl rfl rfl) nofun
  | MacMcpsIndication =>
    have hother : s.inside ≠ some .MacMcpsConfirm := by
      rw [hinside]
      decide
    exact hs.enter hother nofun (.inl rfl) rfl rfl rfl

/-- In `MAC_IDLE` a data request that is outstanding is confirmed, and so nothing is outstanding
then; else it waits for the next state check. -/
theorem matched_confirmRequests {s : Mac} (haccepts : confirmMonitor.Accepts s.board.log)
    (hflag : s.LoRaMacFlags.McpsReq = true ↔ s.outstanding = true) (hinside : s.inside = none)
    (hbusy : s.LoRaMacState ≠ MAC_IDLE → s.outstanding = true →
      s.LoRaMacState.MAC_TX_RUNNING = true ∨ s.LoRaMacState.MAC_TX_DELAYED = true)
    (hplain : s.LoRaMacState.plain = true) (hwindows : s.IsRxWindowsEnabled = true) :
    Matched (confirmRequests s) := by
  have hother : s.inside ≠ some .MacMcpsConfirm := by
    rw [hinside]
    decide
  have hmatched (h : s.outstanding = true → s.LoRaMacState.MAC_TX_RUNNING = true ∨
      s.LoRaMacState.MAC_TX_DELAYED = true) : Matched s := by
    refine ⟨haccepts, ?_, fun h => absurd h hother, h, hplain, hwindows⟩
    rw [or_iff_left hother]
    exact hflag
  unfold confirmRequests
  split
  · unfold confirmMcps
    split
    · next hreq =>
      have houtstanding := hflag.mp hreq
      have hafter : confirmMonitor.after (s.board.log ++ [.MacMcpsConfirm s.McpsConfirm]) = false := by
        rw [Monitor.after_snoc]
        rfl
      refine ⟨Monitor.accepts_snoc.mpr ⟨haccepts, houtstanding⟩, ?_, fun _ => hafter,
        fun h => absurd (hafter.symm.trans h) (by decide), hplain, hwindows⟩
      exact ⟨fun _ => .inr rfl, fun _ => hreq⟩
    · next hreq =>
      refine matched_confirmMlme (hmatched fun h => ?_) hother
      exact absurd (hflag.mpr h) hreq
  · next hidle =>
    refine matched_indicate ?_ hother
    exact (hmatched (hbusy hidle)).enter hother hother (.inl rfl) rfl rfl rfl

/-- Only a transmission, or a refusal, keeps a plain state from being `MAC_IDLE`. -/
theorem LoRaMacState_t.busy_of_plain {state : LoRaMacState_t} (hplain : state.plain = true)
    (habort : state.MAC_RX_ABORT = false) (hidle : state ≠ MAC_IDLE) :
    state.MAC_TX_RUNNING = true ∨ state.MAC_TX_DELAYED = true := by
  obtain ⟨running, rx, ackReq, ackRetry, delayed, config, abort⟩ := state
  revert hplain habort hidle
  revert running rx ackReq ackRetry delayed config abort
  decide

theorem matched_OnMacStateCheckTimerEvent {s t : Mac}
    (h : OnMacStateCheckTimerEvent s = some t) (hs : Matched s) (hinside : s.inside = none) :
    Matched t := by
  obtain ⟨u, rfl, hu⟩ := OnMacStateCheckTimerEvent_cases h
  have hother : s.inside ≠ some .MacMcpsConfirm := by
    rw [hinside]
    nofun
  have hpassing : Passing s u := by
    rcases hu with ⟨-, rfl⟩ | ⟨-, hcycle⟩
    · exact .of_eq rfl rfl rfl rfl id
    · have hchecked := (passing_completeCycle hcycle).1
      refine Passing.trans ?_ hchecked
      exact .of_eq rfl rfl rfl rfl id
  have hplain : u.unreceived.LoRaMacState.plain = true := by
    have h := hpassing.plain hs.plain
    unfold LoRaMacState_t.plain at h ⊢
    simp only [Bool.and_eq_true] at h ⊢
    exact ⟨⟨⟨rfl, h.1.1.2⟩, h.1.2⟩, h.2⟩
  refine matched_confirmRequests (hpassing.accepts hs.accepts) ?_
    (hpassing.inside.trans hinside) (fun hidle houtstanding => ?_) hplain
    (hpassing.windows.trans hs.windows)
  · have hflag := hs.flag
    rw [or_iff_left hother, ← hpassing.mcpsReq, ← hpassing.outstanding] at hflag
    exact hflag
  · rcases hu with ⟨-, rfl⟩ | ⟨-, hcycle⟩
    · exact hs.busy houtstanding
    · exact LoRaMacState_t.busy_of_plain hplain (passing_completeCycle hcycle).2 hidle

theorem passing_of_unrequested {s t : Mac} (h : t.unrequested = s.unrequested) : Passing s t := by
  have hstate : t.LoRaMacState = s.LoRaMacState := (congrArg Mac.LoRaMacState h :)
  refine .of_eq (congrArg (·.board.log) h :) (congrArg (·.LoRaMacFlags.McpsReq) h :)
    (congrArg Mac.inside h :) (congrArg Mac.IsRxWindowsEnabled h :) ?_
  rw [hstate]
  exact id

theorem matched_LoRaMacMcpsRequest {s t : Mac} {r : McpsReq_t} {status : LoRaMacStatus_t}
    (h : LoRaMacMcpsRequest s r = some (status, t)) (hs : Matched s)
    (hinside : s.MayAccept r → s.inside ≠ some .MacMcpsConfirm) : Matched t := by
  rcases LoRaMacMcpsRequest_cases h with ⟨-, -, rfl⟩ | ⟨⟨hrunning, hdelayed⟩, ⟨-, hview, -⟩ |
    ⟨u, v, macHdr, status', type, -, hrequested, hsend, hout⟩⟩
  · exact hs
  · have hstate : t.LoRaMacState = s.LoRaMacState := (congrArg Mac.LoRaMacState hview :)
    refine hs.of_passing (passing_of_unrequested hview) ?_
    rw [hstate]
    exact hs.busy
  · have houtstanding := hs.settled hrunning hdelayed
    have hsv := (passing_of_unrequested hrequested.unrequested).trans (passing_Send hsend)
    have hv : Matched v := hs.of_passing hsv
      fun h => absurd (houtstanding.symm.trans h) (by decide)
    have hvoutstanding : v.outstanding = false := hsv.outstanding.trans houtstanding
    rcases hout with ⟨hok, rfl, rfl⟩ | ⟨-, -, rfl⟩
    · subst hok
      have haccepted := h
      have hbusy := busy_Send hsend
      have hafter : confirmMonitor.after (v.board.log ++ [.Accepted]) = true := by
        rw [Monitor.after_snoc]
        rfl
      refine ⟨Monitor.accepts_snoc.mpr ⟨hv.accepts, hvoutstanding⟩,
        ⟨fun _ => .inl hafter, fun _ => rfl⟩, fun h => ?_, fun _ => hbusy, hv.plain, hv.windows⟩
      exact absurd (hsv.inside.symm.trans h) (hinside (mayAccept_of_accepted haccepted))
    · exact hv.of_passing (.of_eq rfl rfl rfl rfl id) hv.busy

theorem matched_LoRaMacMlmeRequest {s t : Mac} {r : MlmeReq_t} {status : LoRaMacStatus_t}
    (h : LoRaMacMlmeRequest s r = some (status, t)) (hs : Matched s) : Matched t := by
  have hout {x : LoRaMacStatus_t × Mac} (heq : (status, t) = mlmeOutcome x)
      (hx : Matched x.2) : Matched t := by
    have ht : t = (mlmeOutcome x).2 := congrArg Prod.snd heq
    rw [ht]
    unfold mlmeOutcome
    split
    · exact hx
    · exact hx.of_passing (.of_eq rfl rfl rfl rfl id) hx.busy
  rcases LoRaMacMlmeRequest_cases h with ⟨-, rfl, -⟩ | ⟨hrunning, ⟨-, -, rfl⟩ | ⟨DevEui, AppEui,
    AppKey, v, status', -, hdelayed, hsend, houtcome⟩ | ⟨-, houtcome⟩⟩
  · exact hs
  · exact hs.of_passing (.of_eq rfl rfl rfl rfl id) hs.busy
  · have hjoining : Passing s (joining s DevEui AppEui AppKey) :=
      .of_eq rfl rfl rfl hs.windows.symm id
    refine hout houtcome (hs.of_passing (hjoining.trans (passing_Send hsend)) fun h => ?_)
    exact absurd ((hs.settled hrunning hdelayed).symm.trans h) (by decide)
  · refine hout houtcome ?_
    have hlink : Matched { s with
        MlmeConfirm := ⟨.MLME_LINK_CHECK, .LORAMAC_EVENT_INFO_STATUS_ERROR, 0, 0, 0⟩
        LoRaMacFlags := { s.LoRaMacFlags with MlmeReq := true } } :=
      hs.of_passing (.of_eq rfl rfl rfl rfl id) hs.busy
    have hview := uncommanded_AddMacCommand { s with
        MlmeConfirm := ⟨.MLME_LINK_CHECK, .LORAMAC_EVENT_INFO_STATUS_ERROR, 0, 0, 0⟩
        LoRaMacFlags := { s.LoRaMacFlags with MlmeReq := true } } .MOTE_MAC_LINK_CHECK_REQ 0 0
    have hstate := state_AddMacCommand { s with
        MlmeConfirm := ⟨.MLME_LINK_CHECK, .LORAMAC_EVENT_INFO_STATUS_ERROR, 0, 0, 0⟩
        LoRaMacFlags := { s.LoRaMacFlags with MlmeReq := true } } .MOTE_MAC_LINK_CHECK_REQ 0 0
    refine hlink.of_passing (.of_eq (congrArg (·.board.log) hview :)
      (congrArg (·.LoRaMacFlags.McpsReq) hview :) (congrArg Mac.inside hview :)
      (congrArg Mac.IsRxWindowsEnabled hview :) ?_) ?_
    · rw [hstate]
      exact id
    · rw [hstate]
      exact hlink.busy

/-- A step that has nothing to do with the frame that is being sent. -/
theorem Received.passing {s t : Mac} (h : Received s t) : Passing s t :=
  .of_eq (congrArg (·.board.log) h.control :) (congrArg (·.LoRaMacFlags.McpsReq) h.control :)
    (congrArg Mac.inside h.control :) (congrArg Mac.IsRxWindowsEnabled h.control :) h.plain

theorem Landed.passing {s t : Mac} (h : Landed s t) : Passing s t := by
  have hconfig : t.LoRaMacState.MAC_TX_CONFIG = s.LoRaMacState.MAC_TX_CONFIG :=
    (congrArg (·.LoRaMacState.MAC_TX_CONFIG) h.unlanded :)
  exact .of_eq (congrArg (·.board.log) h.unlanded :)
    (congrArg (·.LoRaMacFlags.McpsReq) h.unlanded :) (congrArg Mac.inside h.unlanded :)
    (congrArg Mac.IsRxWindowsEnabled h.unlanded :)
    (Received.plain_of_txConfig (congrArg (·.LoRaMacState.MAC_RX) h.unlanded :) h.ackReq
      (congrArg (·.LoRaMacState.MAC_ACK_RETRY) h.unlanded :) fun h => hconfig ▸ h)

theorem matched_landed {s t : Mac} (hs : Matched s) {a : Action} (ha : confirmMonitor.Ignores a)
    (h : Landed ((s.setStatus .RF_IDLE).record a) t) : Matched t := by
  have hrecord : Passing s ((s.setStatus .RF_IDLE).record a) :=
    .of_snoc ha rfl rfl rfl rfl id
  have hrunning : t.LoRaMacState.MAC_TX_RUNNING = s.LoRaMacState.MAC_TX_RUNNING :=
    (congrArg (·.LoRaMacState.MAC_TX_RUNNING) h.unlanded :)
  have hdelayed : t.LoRaMacState.MAC_TX_DELAYED = s.LoRaMacState.MAC_TX_DELAYED :=
    (congrArg (·.LoRaMacState.MAC_TX_DELAYED) h.unlanded :)
  refine hs.of_passing (hrecord.trans h.passing) ?_
  rw [hrunning, hdelayed]
  exact hs.busy

/-- A frame of a data request that was delayed is sent or delayed again, unless the device is
switched off. -/
theorem matched_OnTxDelayedTimerEvent {s t : Mac} (h : OnTxDelayedTimerEvent s = some t)
    (hs : Matched s) (hon : ¬ (s.MaxDCycle = 255 ∧
      s.LoRaMacFlags.McpsReq = true ∧ s.LoRaMacState.MAC_TX_RUNNING = false)) : Matched t := by
  obtain ⟨u, status, hschedule, hu⟩ := OnTxDelayedTimerEvent_cases h
  have hundelayed : Passing s s.undelayed := .of_eq rfl rfl rfl rfl id
  have hview : u.unprepared = s.undelayed.unprepared ∧ Passing s.undelayed u := by
    rcases hu with ⟨-, rfl⟩ | ⟨-, rfl⟩
    · exact ⟨rfl, .of_eq rfl rfl rfl rfl id⟩
    · exact ⟨unprepared_PrepareFrame _ _ _ _ _ _, passing_PrepareFrame _ _ _ _ _ _⟩
  refine hs.of_passing ((hundelayed.trans hview.2).trans (cycling_ScheduleTx hschedule).passing)
    fun houtstanding => ?_
  have hdcycle : u.MaxDCycle = s.MaxDCycle := (congrArg Mac.MaxDCycle hview.1 :)
  have hrunning : u.LoRaMacState.MAC_TX_RUNNING = s.LoRaMacState.MAC_TX_RUNNING :=
    (congrArg (·.LoRaMacState.MAC_TX_RUNNING) hview.1 :)
  rcases ScheduleTx_cases hschedule with ⟨hoff, -, rfl⟩ | ⟨-, rfl, -⟩
  · refine .inl ?_
    rw [hrunning]
    by_contra hnot
    exact hon ⟨hdcycle ▸ hoff, hs.flag.mpr (.inl houtstanding), Bool.eq_false_iff.mpr hnot⟩
  · exact busy_ScheduleTx hschedule

theorem matched_step {s t : Mac} {e : Event} (h : step s e = some t) (he : Retained s e)
    (hs : Matched s) : Matched t := by
  cases moved_of_step h with
  | received hreceived _ =>
    have hrunning : t.LoRaMacState.MAC_TX_RUNNING = s.LoRaMacState.MAC_TX_RUNNING :=
      (congrArg (·.LoRaMacState.MAC_TX_RUNNING) hreceived.control :)
    have hdelayed : t.LoRaMacState.MAC_TX_DELAYED = s.LoRaMacState.MAC_TX_DELAYED :=
      (congrArg (·.LoRaMacState.MAC_TX_DELAYED) hreceived.control :)
    refine hs.of_passing hreceived.passing ?_
    rw [hrunning, hdelayed]
    exact hs.busy
  | mcps hmcps => exact matched_LoRaMacMcpsRequest hmcps hs he
  | mlme hmlme => exact matched_LoRaMacMlmeRequest hmlme hs
  | @mib r hidle =>
    have hview := unset_mibSet s r
    have hstate : (mibSet s r).2.LoRaMacState = s.LoRaMacState :=
      (congrArg Mac.LoRaMacState hview :)
    refine hs.of_passing (.of_eq (congrArg (·.board.log) hview :)
      (congrArg (·.LoRaMacFlags.McpsReq) hview :) (congrArg Mac.inside hview :)
      (congrArg Mac.IsRxWindowsEnabled hview :) ?_) ?_
    · rw [hstate]
      exact id
    · rw [hstate]
      exact hs.busy
  | upperReturn hinside => exact matched_returnFrom hs hinside
  | txDone =>
    exact matched_landed (a := .TxDone (s.env.clock s.board.reads)) hs (fun _ => ⟨rfl, trivial⟩)
      (landed_OnRadioTxDone hs.windows)
  | txTimeout =>
    exact matched_landed (a := .TxTimeout) hs (fun _ => ⟨rfl, trivial⟩)
      (light_OnRadioTxTimeout _).landed
  | stateCheck hinside _ hcheck => exact matched_OnMacStateCheckTimerEvent hcheck hs hinside
  | txDelayed _ _ hdelayed => exact matched_OnTxDelayedTimerEvent hdelayed hs he

/-- In every run of such events the data requests that are accepted and their confirms alternate,
`McpsReq` is set from the acceptance of a request until its confirm has returned, and the MAC is
not idle while a request is outstanding. -/
theorem matched_of_retained {env : Env} {es : List Event} {t : Mac}
    (hrun : Runs Retained (Mac.boot env) es t) :
    confirmMonitor.Accepts t.board.log ∧
      (t.LoRaMacFlags.McpsReq = true ↔
        t.outstanding = true ∨ t.inside = some .MacMcpsConfirm) ∧
      (t.outstanding = true → t.LoRaMacState ≠ MAC_IDLE) := by
  have hboot : Matched (Mac.boot env) :=
    ⟨trivial, ⟨nofun, fun h => by rcases h with h | h <;> cases h⟩, nofun, nofun, rfl, rfl⟩
  have ht : Matched t := hrun.invariant hboot
    fun _ _ _ hs he hstep => matched_step hstep he hs
  refine ⟨ht.accepts, ht.flag, fun houtstanding hidle => ?_⟩
  rcases ht.busy houtstanding with h | h
  · rw [hidle] at h
    cases h
  · rw [hidle] at h
    cases h

instance (s : Mac) (e : Event) : Decidable (Retained s e) :=
  match e with
  | .request (.mcps r) =>
    inferInstanceAs (Decidable (s.MayAccept r → s.inside ≠ some .MacMcpsConfirm))
  | .txDelayedTimer => inferInstanceAs (Decidable (¬ (s.MaxDCycle = 255 ∧
      s.LoRaMacFlags.McpsReq = true ∧ s.LoRaMacState.MAC_TX_RUNNING = false)))
  | .request (.mlme _) | .request (.mib _) | .request (.channelAdd _ _)
  | .request (.channelRemove _) | .request (.multicastLink _) | .request (.multicastUnlink _)
  | .upperReturn | .radio _ | .macStateCheckTimer | .rxWindowTimer1 | .rxWindowTimer2
  | .ackTimeoutTimer => .isTrue trivial

/-- A data frame is sent, its second window stays empty, and it is confirmed. -/
def sendAndConfirm : List Event :=
  [.request (.mib (.MIB_NETWORK_JOINED true)), .request (.mcps (.Unconfirmed 1 none 0 5)),
    .radio .TxDone, .rxWindowTimer2, .radio (.RxTimeout false), .macStateCheckTimer]

theorem matched_of_retained_sendAndConfirm :
    ∃ t, Runs Retained (Mac.boot Env.plain) sendAndConfirm t ∧
      t.inside = some .MacMcpsConfirm ∧ confirmMonitor.Accepts t.board.log ∧
      t.LoRaMacFlags.McpsReq = true := by
  obtain ⟨t, hrun, ht⟩ := transition.Run.of_after step Retained (Mac.boot Env.plain)
    sendAndConfirm (fun t => decide (t.inside = some .MacMcpsConfirm)) (by decide +kernel)
  have hinside : t.inside = some .MacMcpsConfirm := by simpa using ht
  obtain ⟨haccepts, hflag, -⟩ := matched_of_retained hrun
  exact ⟨t, hrun, hinside, haccepts, hflag.mpr (.inr hinside)⟩

/-- The upper layer sends its next frame as soon as the one before it is confirmed. -/
def sendFromConfirm : List Event :=
  sendAndConfirm ++ [.request (.mcps (.Unconfirmed 1 none 0 5)), .upperReturn, .radio .TxDone,
    .rxWindowTimer2, .radio (.RxTimeout false), .macStateCheckTimer]

/-- The flag of a request that is accepted inside `MacMcpsConfirm` is cleared on the return. The
state check behind the frame of this request does not confirm it. -/
theorem not_matched_sendFromConfirm :
    ∃ t, Runs (fun _ _ => True) (Mac.boot Env.slow) sendFromConfirm t ∧
      t.inside = none ∧ t.outstanding = true ∧ t.LoRaMacFlags.McpsReq = false := by
  obtain ⟨t, hrun, ht⟩ := transition.Run.of_after step (fun _ _ => True)
    (Mac.boot Env.slow) sendFromConfirm (fun t => decide (t.inside = none) &&
      (t.outstanding && !t.LoRaMacFlags.McpsReq)) (by decide +kernel)
  refine ⟨t, hrun, ?_⟩
  simpa using ht

end loranode.mac
