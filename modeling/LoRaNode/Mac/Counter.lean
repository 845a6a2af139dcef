import LoRaNode.Lib.Ledger
import LoRaNode.Mac.Cycle

open ledger

namespace loranode.mac

open LoRaMacStatus_t LoRaMacFrameType_t

/-- The data frame that an action gives to the radio, with the counter that it was encrypted
and authenticated with. -/
def Action.dataFrame : Action → Option (Nat × List UInt8)
  | .Send sent => sent.frame.map fun tag => (tag.counter.toNat, sent.bytes)
  | _ => none

/-- The data frames that a log gives to the radio. -/
def sentFrames (log : List Action) : List (Nat × List UInt8) := log.filterMap Action.dataFrame

theorem sentFrames_snoc (log : List Action) (a : Action) :
    sentFrames (log ++ [a]) = sentFrames log ++ a.dataFrame.toList := by
  unfold sentFrames
  rw [List.filterMap_append]
  rfl

/-- The bytes that `Radio.Send` is given. -/
def Mac.frameBytes (s : Mac) : List UInt8 :=
  s.LoRaMacBuffer.read 0 (s.LoRaMacBufferPktLen % 256)

/-- The use that the MAC makes of `UpLinkCounter`. -/
def Mac.ledger (s : Mac) : Ledger (List UInt8) where
  sent := sentFrames s.board.log
  counter := s.UpLinkCounter.toNat
  current := s.PreparedFrame.map fun tag => (tag.counter.toNat, s.frameBytes)

/-- An action that gives no data frame to the radio is not in the ledger. -/
theorem ledger_eq_of_log {s t : Mac} {a : Action} (ha : a.dataFrame = none)
    (hlog : t.board.log = s.board.log ++ [a]) (hcounter : t.UpLinkCounter = s.UpLinkCounter)
    (hframe : t.PreparedFrame = s.PreparedFrame) (hbytes : t.frameBytes = s.frameBytes) :
    t.ledger = s.ledger := by
  unfold Mac.ledger
  rw [hlog, sentFrames_snoc, ha, Option.toList_none, List.append_nil, hcounter, hframe, hbytes]

/-- Scheduling a frame sends the prepared one, or delays it, unless the device is switched
off. -/
theorem ledger_ScheduleTx {s t : Mac} {status : LoRaMacStatus_t}
    (h : ScheduleTx s = some (status, t)) :
    s.MaxDCycle = 255 ∧ status = LORAMAC_STATUS_DEVICE_OFF ∧ t = s ∨
      status = LORAMAC_STATUS_OK ∧
        (t.ledger = s.ledger.send ∧ t.LoRaMacState.MAC_TX_RUNNING = true ∨
          t.ledger = s.ledger ∧ t.LoRaMacState.MAC_TX_DELAYED = true ∧
            t.LoRaMacState.MAC_TX_RUNNING = s.LoRaMacState.MAC_TX_RUNNING) := by
  rcases ScheduleTx_cases h with hoff | ⟨-, hok, u, hu, ht⟩
  · exact .inl hoff
  · refine .inr ⟨hok, ?_⟩
    have hledger : u.ledger = s.ledger := (congrArg Mac.ledger hu.unchosen :)
    have hstate : u.LoRaMacState = s.LoRaMacState := (congrArg Mac.LoRaMacState hu.unchosen :)
    rcases ht with rfl | ⟨time, rfl⟩
    · refine .inl ⟨?_, rfl⟩
      rw [← hledger]
      change Ledger.mk (sentFrames (u.board.log ++ [_])) _ _ = Ledger.send u.ledger
      rw [sentFrames_snoc]
      rfl
    · refine .inr ⟨hledger, rfl, ?_⟩
      rw [← hstate]
      rfl

/-- A frame with the current counter may be out: it is being sent, or it waits to be sent
again. -/
def Mac.Transmitting (s : Mac) : Prop :=
  s.LoRaMacState.MAC_TX_RUNNING = true ∧ s.pending = true ∨
    s.LoRaMacState.MAC_TX_DELAYED = true ∧ s.LoRaMacFlags.McpsReq = true

/-- Unless a frame is on its way, the counter is free for the next one. -/
def Mac.Free (s : Mac) : Prop := s.Transmitting ∨ s.ledger.Unused

/-- The counter has not been used for two frames, with what keeps it so. A frame that waits for
an acknowledgement belongs to a data request and is on its way, a refusal is known to the state
check that follows, and no join request is made. -/
structure Counted (s : Mac) : Prop where
  fixed : s.IsUpLinkCounterFixed = false
  windows : s.IsRxWindowsEnabled = true
  sound : s.ledger.Sound
  free : s.Free
  acknowledge : s.NodeAckRequested = true ∨ s.AckTimeoutRetry = true →
    s.LoRaMacFlags.McpsReq = true ∧
      (s.LoRaMacState.MAC_TX_RUNNING = true ∨ s.LoRaMacState.MAC_TX_DELAYED = true)
  rxAbort : s.LoRaMacState.MAC_RX_ABORT = true →
    s.inside = none ∧ s.LoRaMacFlags.McpsInd = true ∧ s.LoRaMacFlags.MacDone = true
  mcpsConfirm : s.inside = some .MacMcpsConfirm →
    s.LoRaMacState.MAC_TX_RUNNING = false ∧ s.LoRaMacState.MAC_TX_DELAYED = false
  mlmeConfirm : s.inside = some .MacMlmeConfirm →
    s.LoRaMacState.MAC_TX_RUNNING = true ∨ s.LoRaMacState.MAC_TX_DELAYED = true →
      s.LoRaMacFlags.McpsReq = true
  joining : s.joining = true → s.inside = some .MacMlmeConfirm

/-- What an event of a session must meet. No attribute is set and no join is requested. No data
request that may be accepted comes from inside `MacMcpsConfirm`. The state check does not find a
transmission that has timed out, nor a frame whose wait for an acknowledgement a refusal has ended,
unless it is acknowledged, delayed or tried again; and the counter does not overflow. A frame that
was delayed is due while its request is pending, and is not lost because the device is switched
off. -/
def CountsOn (s : Mac) : Event → Prop
  | .request (.mcps r) => s.MayAccept r → s.inside ≠ some .MacMcpsConfirm
  | .request (.mlme (.Join ..)) | .request (.mib _) => False
  | .macStateCheckTimer => s.LoRaMacFlags.MacDone = true →
    txTimeout s = false ∧ s.UpLinkCounter.toNat + 2 < 2 ^ 32 ∧
      (s.LoRaMacState.MAC_RX_ABORT = true → s.NodeAckRequested = true →
        s.LoRaMacState.MAC_TX_DELAYED = true ∨ acknowledged s = true ∨
          s.AckTimeoutRetry = true ∧ (trialsLeft s = true → s.MaxDCycle ≠ 255))
  | .txDelayedTimer => s.pending = true ∧
    (s.MaxDCycle = 255 → s.LoRaMacState.MAC_TX_RUNNING = true)
  | _ => True

namespace Counted

/-- While no frame is on its way the counter is free. -/
theorem unused {s : Mac} (hs : Counted s) (hrunning : s.LoRaMacState.MAC_TX_RUNNING = false)
    (hdelayed : s.LoRaMacState.MAC_TX_DELAYED = false) : s.ledger.Unused := by
  rcases hs.free with (⟨h, -⟩ | ⟨h, -⟩) | hunused
  · rw [hrunning] at h
    cases h
  · rw [hdelayed] at h
    cases h
  · exact hunused

/-- While no frame is on its way none waits for an acknowledgement. -/
theorem unacknowledged {s : Mac} (hs : Counted s)
    (hrunning : s.LoRaMacState.MAC_TX_RUNNING = false)
    (hdelayed : s.LoRaMacState.MAC_TX_DELAYED = false) :
    s.NodeAckRequested = false ∧ s.AckTimeoutRetry = false := by
  have hnot : ¬ (s.NodeAckRequested = true ∨ s.AckTimeoutRetry = true) := by
    intro h
    rcases (hs.acknowledge h).2 with h | h
    · rw [hrunning] at h
      cases h
    · rw [hdelayed] at h
      cases h
  rw [not_or, Bool.not_eq_true, Bool.not_eq_true] at hnot
  exact hnot

/-- A step that leaves the frame alone. -/
theorem congr {s t : Mac} (hs : Counted s)
    (hfixed : t.IsUpLinkCounterFixed = s.IsUpLinkCounterFixed)
    (hwindows : t.IsRxWindowsEnabled = s.IsRxWindowsEnabled) (hledger : t.ledger = s.ledger)
    (hrunning : t.LoRaMacState.MAC_TX_RUNNING = s.LoRaMacState.MAC_TX_RUNNING)
    (hdelayed : t.LoRaMacState.MAC_TX_DELAYED = s.LoRaMacState.MAC_TX_DELAYED)
    (hmcps : t.LoRaMacFlags.McpsReq = s.LoRaMacFlags.McpsReq) (hpending : t.pending = s.pending)
    (hjoining : t.joining = s.joining) (hinside : t.inside = s.inside)
    (hnode : t.NodeAckRequested = s.NodeAckRequested)
    (hretry : t.AckTimeoutRetry = true → s.AckTimeoutRetry = true ∨ s.NodeAckRequested = true)
    (habort : t.LoRaMacState.MAC_RX_ABORT = true →
      t.inside = none ∧ t.LoRaMacFlags.McpsInd = true ∧ t.LoRaMacFlags.MacDone = true) :
    Counted t := by
  refine ⟨hfixed.trans hs.fixed, hwindows.trans hs.windows, ?_, ?_, ?_, habort, ?_, ?_, ?_⟩
  · rw [hledger]
    exact hs.sound
  · unfold Mac.Free Mac.Transmitting
    rw [hledger, hrunning, hdelayed, hpending, hmcps]
    exact hs.free
  · rw [hnode, hmcps, hrunning, hdelayed]
    rintro (hnode | hretried)
    · exact hs.acknowledge (.inl hnode)
    · exact hs.acknowledge (hretry hretried).symm
  · rw [hinside, hrunning, hdelayed]
    exact hs.mcpsConfirm
  · rw [hinside, hrunning, hdelayed, hmcps]
    exact hs.mlmeConfirm
  · rw [hjoining, hinside]
    exact hs.joining

theorem of_received {s t : Mac} (hs : Counted s) (h : Received s t)
    (hside : s.inside = none ∨ t.LoRaMacState = s.LoRaMacState) : Counted t := by
  have hinside : t.inside = s.inside := (congrArg Mac.inside h.control :)
  refine hs.congr (congrArg Mac.IsUpLinkCounterFixed h.control :)
    (congrArg Mac.IsRxWindowsEnabled h.control :) (congrArg Mac.ledger h.control :)
    (congrArg (·.LoRaMacState.MAC_TX_RUNNING) h.control :)
    (congrArg (·.LoRaMacState.MAC_TX_DELAYED) h.control :)
    (congrArg (·.LoRaMacFlags.McpsReq) h.control :) (congrArg Mac.pending h.control :)
    (congrArg Mac.joining h.control :) hinside (congrArg Mac.NodeAckRequested h.control :)
    h.ackTimeoutRetry fun habort => ?_
  rw [hinside]
  rcases hside with hnone | hstate
  · refine ⟨hnone, ?_⟩
    rcases h.rxAbort habort with habort | hflags
    · exact ⟨h.mcpsInd (hs.rxAbort habort).2.1, h.macDone (hs.rxAbort habort).2.2⟩
    · exact hflags
  · rw [hstate] at habort
    obtain ⟨hnone, hind, hdone⟩ := hs.rxAbort habort
    exact ⟨hnone, h.mcpsInd hind, h.macDone hdone⟩

/-- The end of a transmission. -/
theorem of_landed {s t : Mac} {a : Action} (hs : Counted s) (ha : a.dataFrame = none)
    (h : Landed ((s.setStatus .RF_IDLE).record a) t) : Counted t := by
  have hrecord : ((s.setStatus .RF_IDLE).record a).ledger = s.ledger :=
    ledger_eq_of_log ha rfl rfl rfl rfl
  have hledger : t.ledger = s.ledger := (congrArg Mac.ledger h.unlanded :).trans hrecord
  have habort : t.LoRaMacState.MAC_RX_ABORT = s.LoRaMacState.MAC_RX_ABORT :=
    (congrArg (·.LoRaMacState.MAC_RX_ABORT) h.unlanded :)
  have hind : t.LoRaMacFlags.McpsInd = s.LoRaMacFlags.McpsInd :=
    (congrArg (·.LoRaMacFlags.McpsInd) h.unlanded :)
  have hinside : t.inside = s.inside := (congrArg Mac.inside h.unlanded :)
  refine hs.congr (congrArg Mac.IsUpLinkCounterFixed h.unlanded :)
    (congrArg Mac.IsRxWindowsEnabled h.unlanded :) hledger
    (congrArg (·.LoRaMacState.MAC_TX_RUNNING) h.unlanded :)
    (congrArg (·.LoRaMacState.MAC_TX_DELAYED) h.unlanded :)
    (congrArg (·.LoRaMacFlags.McpsReq) h.unlanded :) (congrArg Mac.pending h.unlanded :)
    (congrArg Mac.joining h.unlanded :) hinside (congrArg Mac.NodeAckRequested h.unlanded :)
    h.ackTimeoutRetry ?_
  rw [habort, hind, hinside]
  intro habort
  obtain ⟨hnone, hind, hdone⟩ := hs.rxAbort habort
  exact ⟨hnone, hind, h.macDone hdone⟩

end Counted

/-- A prepared data frame is made for the current counter. -/
theorem preparedFrame_PrepareFrame (s : Mac) (macHdr : LoRaMacFrameType_t)
    (fCtrl : LoRaMacFrameCtrl_t) (fPort : UInt8) (fBuffer : Option Mem) (fBufferSize : UInt16) :
    ∀ tag ∈ (PrepareFrame s macHdr fCtrl fPort fBuffer fBufferSize).2.PreparedFrame,
      tag.counter = s.UpLinkCounter := by
  have hdata {s : Mac} {tag : FrameTag}
      (htag : tag ∈ (prepareData s fCtrl fPort fBuffer fBufferSize).2.PreparedFrame)
      (hs : s.PreparedFrame = none) : tag.counter = s.UpLinkCounter := by
    obtain ⟨counter, lookups, params, hadapt⟩ := adaptDatarate_snd s fCtrl.Adr
    unfold prepareData at htag
    dsimp only at htag
    rw [hadapt] at htag
    split at htag
    · rw [hs] at htag
      cases htag
    · split at htag
      · obtain rfl := Option.mem_some.mp htag
        refine (congrArg Mac.UpLinkCounter (unprepared_placePayload _ _)).trans ?_
        exact (congrArg Mac.UpLinkCounter (unprepared_placeMacCommands _ _ _ _ _) :)
      · have htag : tag ∈ s.PreparedFrame := htag
        rw [hs] at htag
        cases htag
  unfold PrepareFrame
  dsimp only
  intro tag htag
  split at htag
  · cases htag
  · exact (hdata htag rfl :)
  · exact (hdata htag rfl :)
  · unfold prepareProprietary at htag
    split at htag
    · cases htag
    · split at htag <;> cases htag
  · cases htag

theorem ledger_PrepareFrame (s : Mac) (macHdr : LoRaMacFrameType_t) (fCtrl : LoRaMacFrameCtrl_t)
    (fPort : UInt8) (fBuffer : Option Mem) (fBufferSize : UInt16) :
    ∃ a, (PrepareFrame s macHdr fCtrl fPort fBuffer fBufferSize).2.ledger = s.ledger.renew a := by
  have hview := unprepared_PrepareFrame s macHdr fCtrl fPort fBuffer fBufferSize
  have hprepared := preparedFrame_PrepareFrame s macHdr fCtrl fPort fBuffer fBufferSize
  generalize (PrepareFrame s macHdr fCtrl fPort fBuffer fBufferSize).2 = t at *
  have hlog : t.board.log = s.board.log := (congrArg (·.board.log) hview :)
  have hcounter : t.UpLinkCounter = s.UpLinkCounter := (congrArg Mac.UpLinkCounter hview :)
  refine ⟨t.PreparedFrame.map fun _ => t.frameBytes, ?_⟩
  unfold Mac.ledger Ledger.renew
  rw [hlog, hcounter]
  cases htag : t.PreparedFrame with
  | none => rfl
  | some tag =>
    rw [htag] at hprepared
    rw [Option.map_some, Option.map_some, Option.map_some, hprepared tag rfl]

/-- What `Send` makes of a free counter: a frame that is built and not scheduled leaves it free,
and else a frame is on its way. -/
structure Sent (s t : Mac) (status : LoRaMacStatus_t) : Prop where
  unsent : t.unsent = s.unsent
  sound : t.ledger.Sound
  refused : status ≠ LORAMAC_STATUS_OK → t.ledger.Unused ∧ t.LoRaMacState = s.LoRaMacState
  accepted : status = LORAMAC_STATUS_OK →
    t.LoRaMacState.MAC_TX_RUNNING = true ∨ t.LoRaMacState.MAC_TX_DELAYED = true

theorem sent_Send {s t : Mac} {macHdr : LoRaMacFrameType_t} {fPort : UInt8}
    {fBuffer : Option Mem} {fBufferSize : UInt16} {status : LoRaMacStatus_t}
    (h : Send s macHdr fPort fBuffer fBufferSize = some (status, t)) (hsound : s.ledger.Sound)
    (hunused : s.ledger.Unused) : Sent s t status := by
  obtain ⟨status', u, hframe, hout⟩ := Send_cases h
  have hview := unprepared_PrepareFrame s macHdr ⟨0, false, false, false, s.AdrCtrlOn⟩ fPort fBuffer
    fBufferSize
  obtain ⟨a, hledger⟩ := ledger_PrepareFrame s macHdr ⟨0, false, false, false, s.AdrCtrlOn⟩ fPort
    fBuffer fBufferSize
  rw [hframe] at hview hledger
  have hstate : u.LoRaMacState = s.LoRaMacState := (congrArg Mac.LoRaMacState hview :)
  have hu : u.ledger = s.ledger.renew a := hledger
  have husound : u.ledger.Sound := by
    rw [hu]
    exact hsound.renew hunused a
  have huunused : u.ledger.Unused := by
    rw [hu]
    exact hunused
  have hunsent := unsent_Send h
  rcases hout with ⟨hne, rfl, rfl⟩ | ⟨-, hschedule⟩
  · exact ⟨hunsent, husound, fun _ => ⟨huunused, hstate⟩, fun hok => absurd hok hne⟩
  · refine ⟨hunsent, ?_, ?_, ?_⟩
    · rcases ledger_ScheduleTx hschedule with ⟨-, -, rfl⟩ | ⟨-, ⟨hsend, -⟩ | ⟨hsame, -⟩⟩
      · exact husound
      · rw [hsend]
        exact husound.send
      · rw [hsame]
        exact husound
    · rcases ledger_ScheduleTx hschedule with ⟨-, -, rfl⟩ | ⟨hok, -⟩
      · exact fun _ => ⟨huunused, hstate⟩
      · exact fun hne => absurd hok hne
    · rcases ledger_ScheduleTx hschedule with ⟨-, hoff, -⟩ | ⟨-, ⟨-, hrunning⟩ | ⟨-, hdelayed, -⟩⟩
      · exact fun hok => absurd (hoff.symm.trans hok) (by decide)
      · exact fun _ => .inl hrunning
      · exact fun _ => .inr hdelayed

theorem counted_LoRaMacMcpsRequest {s t : Mac} {r : McpsReq_t} {status : LoRaMacStatus_t}
    (h : LoRaMacMcpsRequest s r = some (status, t)) (hs : Counted s)
    (hinside : s.MayAccept r → s.inside ≠ some .MacMcpsConfirm) : Counted t := by
  rcases LoRaMacMcpsRequest_cases h with ⟨-, -, rfl⟩ | ⟨⟨hrunning, hdelayed⟩, ⟨-, hview, -⟩ |
    ⟨u, v, macHdr, status', type, -, hrequested, hsend, hout⟩⟩
  · exact hs
  · have hflags : t.LoRaMacFlags = s.LoRaMacFlags := (congrArg Mac.LoRaMacFlags hview :)
    have hstate : t.LoRaMacState = s.LoRaMacState := (congrArg Mac.LoRaMacState hview :)
    have hside : t.inside = s.inside := (congrArg Mac.inside hview :)
    have hretry : t.AckTimeoutRetry = s.AckTimeoutRetry := (congrArg Mac.AckTimeoutRetry hview :)
    refine hs.congr (congrArg Mac.IsUpLinkCounterFixed hview :)
      (congrArg Mac.IsRxWindowsEnabled hview :) (congrArg Mac.ledger hview :) (by rw [hstate])
      (by rw [hstate]) (by rw [hflags]) (congrArg Mac.pending hview :)
      (congrArg Mac.joining hview :) hside (congrArg Mac.NodeAckRequested hview :)
      (fun h => .inl (hretry ▸ h)) ?_
    rw [hstate, hflags, hside]
    exact hs.rxAbort
  · have hu := hrequested.unrequested
    have huledger : u.ledger = s.ledger := (congrArg Mac.ledger hu :)
    have hsent := sent_Send hsend (huledger ▸ hs.sound) (huledger ▸ hs.unused hrunning hdelayed)
    have hview : v.unsent.unrequested = s.unsent.unrequested :=
      (congrArg Mac.unrequested hsent.unsent :).trans (congrArg Mac.unsent hu :)
    have hflags : v.LoRaMacFlags = s.LoRaMacFlags := (congrArg Mac.LoRaMacFlags hview :)
    have hside : v.inside = s.inside := (congrArg Mac.inside hview :)
    have habort : v.LoRaMacState.MAC_RX_ABORT = s.LoRaMacState.MAC_RX_ABORT :=
      (congrArg (·.LoRaMacState.MAC_RX_ABORT) hview :)
    have hjoining : v.joining = s.joining := (congrArg Mac.joining hview :)
    have hretry : v.AckTimeoutRetry = false :=
      (congrArg Mac.AckTimeoutRetry hview :).trans (hs.unacknowledged hrunning hdelayed).2
    have hfixed : v.IsUpLinkCounterFixed = false :=
      (congrArg Mac.IsUpLinkCounterFixed hview :).trans hs.fixed
    have hwindows : v.IsRxWindowsEnabled = true :=
      (congrArg Mac.IsRxWindowsEnabled hview :).trans hs.windows
    have hvabort : v.LoRaMacState.MAC_RX_ABORT = true →
        v.inside = none ∧ v.LoRaMacFlags.McpsInd = true ∧ v.LoRaMacFlags.MacDone = true := by
      rw [habort, hside, hflags]
      exact hs.rxAbort
    have hvjoining : v.joining = true → v.inside = some .MacMlmeConfirm := by
      rw [hjoining, hside]
      exact hs.joining
    rcases hout with ⟨hok, rfl, rfl⟩ | ⟨hne, -, rfl⟩
    · have hvinside : v.inside ≠ some .MacMcpsConfirm := by
        rw [hside]
        exact hinside (mayAccept_of_accepted h)
      have hledger : ({ v.record .Accepted with
          McpsConfirm := { v.McpsConfirm with McpsRequest := type }
          LoRaMacFlags := { v.LoRaMacFlags with McpsReq := true } } : Mac).ledger = v.ledger :=
        ledger_eq_of_log (a := .Accepted) rfl rfl rfl rfl rfl
      refine ⟨hfixed, hwindows, hledger ▸ hsent.sound, .inl ?_,
        fun _ => ⟨rfl, hsent.accepted hok⟩, hvabort, fun h => absurd h hvinside, fun _ _ => rfl,
        hvjoining⟩
      rcases hsent.accepted hok with hrunning | hdelayed
      · exact .inl ⟨hrunning, Bool.or_true _⟩
      · exact .inr ⟨hdelayed, rfl⟩
    · obtain ⟨hunused, hstate⟩ := hsent.refused hne
      have hstate : v.LoRaMacState = s.LoRaMacState :=
        hstate.trans (congrArg Mac.LoRaMacState hu :)
      refine ⟨hfixed, hwindows, hsent.sound, .inr hunused, ?_, hvabort, fun _ => ?_, ?_,
        hvjoining⟩
      · rintro (h | h)
        · cases h
        · exact absurd (hretry.symm.trans h) (by decide)
      · change v.LoRaMacState.MAC_TX_RUNNING = false ∧ v.LoRaMacState.MAC_TX_DELAYED = false
        rw [hstate]
        exact ⟨hrunning, hdelayed⟩
      · change v.inside = _ → v.LoRaMacState.MAC_TX_RUNNING = true ∨
          v.LoRaMacState.MAC_TX_DELAYED = true → _
        rw [hstate, hrunning, hdelayed]
        nofun

theorem counted_LoRaMacMlmeRequest {s t : Mac} {status : LoRaMacStatus_t}
    (h : LoRaMacMlmeRequest s .LinkCheck = some (status, t)) (hs : Counted s) : Counted t := by
  rcases LoRaMacMlmeRequest_cases h with ⟨-, rfl, -⟩ | ⟨hrunning, ⟨-, ⟨_, _, _, hjoin⟩, -⟩ |
    ⟨_, _, _, _, _, hjoin, -⟩ | ⟨-, houtcome⟩⟩
  · exact hs
  · cases hjoin
  · cases hjoin
  · have hview := uncommanded_AddMacCommand { s with
        MlmeConfirm := ⟨.MLME_LINK_CHECK, .LORAMAC_EVENT_INFO_STATUS_ERROR, 0, 0, 0⟩
        LoRaMacFlags := { s.LoRaMacFlags with MlmeReq := true } } .MOTE_MAC_LINK_CHECK_REQ 0 0
    generalize AddMacCommand _ _ _ _ = x at houtcome hview
    obtain ⟨added, u⟩ := x
    have hledger : u.ledger = s.ledger := (congrArg Mac.ledger hview :)
    have hflags : u.LoRaMacFlags = { s.LoRaMacFlags with MlmeReq := true } :=
      (congrArg Mac.LoRaMacFlags hview :)
    have hlink : u.MlmeConfirm.MlmeRequest = .MLME_LINK_CHECK :=
      (congrArg (·.MlmeConfirm.MlmeRequest) hview :)
    have hrun : u.LoRaMacState.MAC_TX_RUNNING = s.LoRaMacState.MAC_TX_RUNNING :=
      (congrArg (·.LoRaMacState.MAC_TX_RUNNING) hview :)
    have hdelayed : u.LoRaMacState.MAC_TX_DELAYED = s.LoRaMacState.MAC_TX_DELAYED :=
      (congrArg (·.LoRaMacState.MAC_TX_DELAYED) hview :)
    have hinside : u.inside = s.inside := (congrArg Mac.inside hview :)
    have hnode : u.NodeAckRequested = s.NodeAckRequested :=
      (congrArg Mac.NodeAckRequested hview :)
    have hretry : u.AckTimeoutRetry = s.AckTimeoutRetry := (congrArg Mac.AckTimeoutRetry hview :)
    have habort : u.LoRaMacState.MAC_RX_ABORT = s.LoRaMacState.MAC_RX_ABORT :=
      (congrArg (·.LoRaMacState.MAC_RX_ABORT) hview :)
    have hfree : u.LoRaMacState.MAC_TX_DELAYED = true ∧ u.LoRaMacFlags.McpsReq = true ∨
        u.ledger.Unused := by
      rw [hledger, hdelayed, hflags]
      rcases hs.free with (⟨h, -⟩ | h) | hunused
      · rw [hrunning] at h
        cases h
      · exact .inl h
      · exact .inr hunused
    have hu : Counted u := by
      refine ⟨(congrArg Mac.IsUpLinkCounterFixed hview :).trans hs.fixed,
        (congrArg Mac.IsRxWindowsEnabled hview :).trans hs.windows, hledger ▸ hs.sound,
        hfree.imp_left .inr, ?_, ?_, ?_, ?_, fun hjoin => ?_⟩
      · rw [hnode, hretry, hflags, hrun, hdelayed]
        exact hs.acknowledge
      · rw [habort, hinside, hflags]
        exact hs.rxAbort
      · rw [hinside, hrun, hdelayed]
        exact hs.mcpsConfirm
      · rw [hinside, hrun, hdelayed, hflags]
        exact hs.mlmeConfirm
      · unfold Mac.joining at hjoin
        rw [hlink, Bool.and_eq_true] at hjoin
        exact absurd hjoin.2 (by decide)
    have ht : t = (mlmeOutcome (added, u)).2 := congrArg Prod.snd houtcome
    rw [ht]
    unfold mlmeOutcome
    split
    · next heq =>
      cases heq
      exact hu
    · next heq =>
      -- a link check that finds no room takes the request for an acknowledgement back
      cases heq
      refine ⟨hu.fixed, hu.windows, hu.sound, hfree.imp_left .inr, ?_, hu.rxAbort, hu.mcpsConfirm,
        hu.mlmeConfirm, nofun⟩
      rintro (h | h)
      · cases h
      · exact hu.acknowledge (.inr h)

/-- The upper layer is called for an indication. -/
theorem counted_indicate {s : Mac} (hs : Counted s) (hinside : s.inside = none)
    (habort : s.LoRaMacState.MAC_RX_ABORT = false) : Counted (indicate s) := by
  unfold indicate
  split
  · have hjoining : s.joining = true → False := fun h => by
      have hmlme := hs.joining h
      rw [hinside] at hmlme
      cases hmlme
    dsimp only
    generalize (if s.McpsIndication.hasBuffer = true then _ else _) = bytes
    have hledger : ({ s.record (.MacMcpsIndication s.McpsIndication bytes) with
        inside := some .MacMcpsIndication } : Mac).ledger = s.ledger :=
      ledger_eq_of_log (a := .MacMcpsIndication s.McpsIndication bytes) rfl rfl rfl rfl rfl
    refine ⟨hs.fixed, hs.windows, hledger ▸ hs.sound, ?_, hs.acknowledge,
      fun h => absurd (habort.symm.trans h) (by decide), nofun, nofun, fun h => (hjoining h).elim⟩
    unfold Mac.Free
    rw [hledger]
    exact hs.free
  · exact hs

theorem counted_endConfirms {s : Mac} (hs : Counted s) (hinside : s.inside = none)
    (habort : s.LoRaMacState.MAC_RX_ABORT = false) : Counted (endConfirms s) := by
  refine counted_indicate (hs.congr rfl rfl rfl rfl rfl rfl rfl rfl rfl rfl .inl ?_) hinside habort
  exact fun h => absurd (habort.symm.trans h) (by decide)

/-- The upper layer is called for a confirm that is not the one of a data request. -/
theorem counted_confirmMlme {s : Mac} (hs : Counted s) (hinside : s.inside = none)
    (habort : s.LoRaMacState.MAC_RX_ABORT = false)
    (hrunning : s.LoRaMacState.MAC_TX_RUNNING = false)
    (hdelayed : s.LoRaMacState.MAC_TX_DELAYED = false) : Counted (confirmMlme s) := by
  unfold confirmMlme
  split
  · have hledger : ({ s.record (.MacMlmeConfirm s.MlmeConfirm) with
        inside := some .MacMlmeConfirm } : Mac).ledger = s.ledger :=
      ledger_eq_of_log (a := .MacMlmeConfirm s.MlmeConfirm) rfl rfl rfl rfl rfl
    refine ⟨hs.fixed, hs.windows, hledger ▸ hs.sound, ?_, hs.acknowledge,
      fun h => absurd (habort.symm.trans h) (by decide), nofun, fun _ h => ?_, fun _ => rfl⟩
    · unfold Mac.Free
      rw [hledger]
      exact hs.free
    · change s.LoRaMacState.MAC_TX_RUNNING = true ∨ s.LoRaMacState.MAC_TX_DELAYED = true at h
      rw [hrunning, hdelayed] at h
      rcases h with h | h <;> cases h
  · exact counted_endConfirms hs hinside habort

theorem counted_confirmRequests {s : Mac} (hs : Counted s) (hinside : s.inside = none)
    (habort : s.LoRaMacState.MAC_RX_ABORT = false) : Counted (confirmRequests s) := by
  unfold confirmRequests
  split
  · next hidle =>
    have hrunning : s.LoRaMacState.MAC_TX_RUNNING = false := by
      rw [hidle]
      rfl
    have hdelayed : s.LoRaMacState.MAC_TX_DELAYED = false := by
      rw [hidle]
      rfl
    unfold confirmMcps
    split
    · have hledger : ({ s.record (.MacMcpsConfirm s.McpsConfirm) with
          inside := some .MacMcpsConfirm } : Mac).ledger = s.ledger :=
        ledger_eq_of_log (a := .MacMcpsConfirm s.McpsConfirm) rfl rfl rfl rfl rfl
      refine ⟨hs.fixed, hs.windows, hledger ▸ hs.sound, ?_, hs.acknowledge,
        fun h => absurd (habort.symm.trans h) (by decide), fun _ => ⟨hrunning, hdelayed⟩, nofun,
        fun h => ?_⟩
      · unfold Mac.Free
        rw [hledger]
        exact hs.free
      · exact absurd (hinside.symm.trans (hs.joining h)) nofun
    · exact counted_confirmMlme hs hinside habort hrunning hdelayed
  · refine counted_indicate (hs.congr rfl rfl rfl rfl rfl rfl rfl rfl rfl rfl .inl ?_) hinside habort
    exact fun h => absurd (habort.symm.trans h) (by decide)

theorem counted_returnFrom {s : Mac} {p : Primitive} (hs : Counted s)
    (hinside : s.inside = some p) : Counted (returnFrom s p) := by
  have habort : s.LoRaMacState.MAC_RX_ABORT = false := by
    refine Bool.eq_false_iff.mpr fun h => ?_
    exact absurd (hinside.symm.trans (hs.rxAbort h).1) nofun
  have hnot {t : Mac} (h : t.LoRaMacState.MAC_RX_ABORT = true)
      (ht : t.LoRaMacState = s.LoRaMacState) : False := by
    rw [ht, habort] at h
    cases h
  cases p with
  | MacMcpsConfirm =>
    obtain ⟨hrunning, hdelayed⟩ := hs.mcpsConfirm hinside
    obtain ⟨hnode, hretry⟩ := hs.unacknowledged hrunning hdelayed
    refine counted_confirmMlme ?_ rfl habort hrunning hdelayed
    refine ⟨hs.fixed, hs.windows, hs.sound, .inr (hs.unused hrunning hdelayed), ?_,
      fun h => (hnot h rfl).elim, nofun, nofun, fun h => ?_⟩
    · rintro (h | h)
      · exact absurd (hnode.symm.trans h) (by decide)
      · exact absurd (hretry.symm.trans h) (by decide)
    · exact absurd (hinside.symm.trans (hs.joining h)) (by decide)
  | MacMlmeConfirm =>
    refine counted_endConfirms ?_ rfl habort
    refine ⟨hs.fixed, hs.windows, hs.sound, ?_, hs.acknowledge, fun h => (hnot h rfl).elim, nofun,
      nofun, nofun⟩
    rcases hs.free with (⟨hrunning, -⟩ | hdelayed) | hunused
    · exact .inl (.inl ⟨hrunning, hs.mlmeConfirm hinside (.inl hrunning)⟩)
    · exact .inl (.inr hdelayed)
    · exact .inr hunused
  | MacMcpsIndication =>
    refine ⟨hs.fixed, hs.windows, hs.sound, hs.free, hs.acknowledge, fun h => (hnot h rfl).elim,
      nofun, nofun, fun h => ?_⟩
    exact absurd (hinside.symm.trans (hs.joining h)) (by decide)

/-- A frame that was delayed is sent, delayed again, or still on its way. -/
theorem counted_OnTxDelayedTimerEvent {s t : Mac} (h : OnTxDelayedTimerEvent s = some t)
    (hs : Counted s) (hinside : s.inside = none) (hpending : s.pending = true)
    (hoff : s.MaxDCycle = 255 → s.LoRaMacState.MAC_TX_RUNNING = true) : Counted t := by
  obtain ⟨u, status, hschedule, hu⟩ := OnTxDelayedTimerEvent_cases h
  have hjoining : s.joining = false := by
    refine Bool.eq_false_iff.mpr fun h => ?_
    exact absurd (hinside.symm.trans (hs.joining h)) nofun
  obtain rfl : u = s.undelayed := by
    rcases hu with ⟨-, hu⟩ | ⟨hjoin, -⟩
    · exact hu
    · rw [hjoining] at hjoin
      cases hjoin
  have hview := unscheduled_ScheduleTx hschedule
  have hflags : t.LoRaMacFlags = s.LoRaMacFlags := (congrArg Mac.LoRaMacFlags hview :)
  have hside : t.inside = none := (congrArg Mac.inside hview :).trans hinside
  have habort : t.LoRaMacState.MAC_RX_ABORT = s.LoRaMacState.MAC_RX_ABORT :=
    (congrArg (·.LoRaMacState.MAC_RX_ABORT) hview :)
  have hnode : t.NodeAckRequested = s.NodeAckRequested := (congrArg Mac.NodeAckRequested hview :)
  have hretry : t.AckTimeoutRetry = s.AckTimeoutRetry := (congrArg Mac.AckTimeoutRetry hview :)
  have htpending : t.pending = true := (congrArg Mac.pending hview :).trans hpending
  have htjoining : t.joining = false := (congrArg Mac.joining hview :).trans hjoining
  have hbusy : t.LoRaMacState.MAC_TX_RUNNING = true ∨ t.LoRaMacState.MAC_TX_DELAYED = true := by
    rcases ledger_ScheduleTx hschedule with ⟨hdcycle, -, rfl⟩ | ⟨-, ⟨-, hrun⟩ | ⟨-, hdelay, -⟩⟩
    · exact .inl (hoff hdcycle)
    · exact .inl hrun
    · exact .inr hdelay
  have hfree : t.ledger.Sound ∧ t.Free := by
    rcases ledger_ScheduleTx hschedule with ⟨hdcycle, -, rfl⟩ | ⟨-, ⟨hsend, hrun⟩ |
      ⟨hsame, hdelay, hrun⟩⟩
    · exact ⟨hs.sound, .inl (.inl ⟨hoff hdcycle, hpending⟩)⟩
    · exact ⟨hsend ▸ hs.sound.send, .inl (.inl ⟨hrun, htpending⟩)⟩
    · refine ⟨hsame ▸ hs.sound, ?_⟩
      unfold Mac.Free Mac.Transmitting
      rw [hsame, hrun, hdelay, htpending, hflags]
      rcases hs.free with (⟨hrunning, -⟩ | ⟨-, hmcps⟩) | hunused
      · exact .inl (.inl ⟨hrunning, rfl⟩)
      · exact .inl (.inr ⟨rfl, hmcps⟩)
      · exact .inr hunused
  refine ⟨(congrArg Mac.IsUpLinkCounterFixed hview :).trans hs.fixed,
    (congrArg Mac.IsRxWindowsEnabled hview :).trans hs.windows, hfree.1, hfree.2, ?_, ?_, ?_, ?_, ?_⟩
  · rw [hnode, hretry, hflags]
    exact fun h => ⟨(hs.acknowledge h).1, hbusy⟩
  · rw [habort, hflags, hside]
    exact fun h => ⟨rfl, (hs.rxAbort h).2⟩
  · rw [hside]
    nofun
  · rw [hside]
    nofun
  · rw [htjoining]
    nofun

/-- A state in the course of the state check. -/
structure Settling (s : Mac) : Prop where
  fixed : s.IsUpLinkCounterFixed = false
  windows : s.IsRxWindowsEnabled = true
  sound : s.ledger.Sound
  joining : s.joining = false
  inside : s.inside = none
  rxAbort : s.LoRaMacState.MAC_RX_ABORT = false

/-- What the state check has to see to before it makes its confirms. -/
def Mac.SeenTo (s : Mac) : Prop := Counted s ∧ s.inside = none ∧ s.LoRaMacState.MAC_RX_ABORT = false

theorem Settling.seenTo {s : Mac} (hs : Settling s) (hfree : s.Free)
    (hack : s.NodeAckRequested = true ∨ s.AckTimeoutRetry = true → s.LoRaMacFlags.McpsReq = true ∧
      (s.LoRaMacState.MAC_TX_RUNNING = true ∨ s.LoRaMacState.MAC_TX_DELAYED = true)) :
    s.SeenTo := by
  have hside (p : Primitive) : s.inside ≠ some p := by
    rw [hs.inside]
    nofun
  refine ⟨⟨hs.fixed, hs.windows, hs.sound, hfree, hack, fun h => ?_, fun h => absurd h (hside _),
    fun h => absurd h (hside _), fun h => ?_⟩, hs.inside, hs.rxAbort⟩
  · exact absurd (hs.rxAbort.symm.trans h) (by decide)
  · exact absurd (hs.joining.symm.trans h) (by decide)

/-- The counter goes on by one. -/
theorem ledger_advance {s t : Mac} (hbound : s.UpLinkCounter.toNat + 1 < 2 ^ 32)
    (hcounter : t.UpLinkCounter = s.UpLinkCounter + 1) (hlog : t.board.log = s.board.log)
    (hframe : t.PreparedFrame = s.PreparedFrame) (hbytes : t.frameBytes = s.frameBytes) :
    t.ledger = s.ledger.advance 1 := by
  have hsucc : t.UpLinkCounter.toNat = s.UpLinkCounter.toNat + 1 := by
    rw [hcounter, UInt32.toNat_add]
    exact Nat.mod_eq_of_lt hbound
  unfold Mac.ledger Ledger.advance
  rw [hlog, hframe, hbytes, hsucc]

/-- A frame that is done with leaves the next counter free. -/
theorem Settling.advance {s t : Mac} (hs : Settling s) (hledger : t.ledger = s.ledger.advance 1)
    (hfixed : t.IsUpLinkCounterFixed = s.IsUpLinkCounterFixed)
    (hwindows : t.IsRxWindowsEnabled = s.IsRxWindowsEnabled) (hjoining : t.joining = s.joining)
    (hinside : t.inside = s.inside)
    (habort : t.LoRaMacState.MAC_RX_ABORT = s.LoRaMacState.MAC_RX_ABORT) :
    Settling t ∧ t.Free := by
  refine ⟨⟨hfixed.trans hs.fixed, hwindows.trans hs.windows, ?_, hjoining.trans hs.joining,
    hinside.trans hs.inside, habort.trans hs.rxAbort⟩, .inr ?_⟩
  · rw [hledger]
    exact hs.sound.advance 1
  · rw [hledger]
    exact hs.sound.unused_advance Nat.one_pos

theorem Settling.of_view {s t : Mac} (hs : Settling s) (h : t.unscheduled = s.unscheduled)
    (hsound : t.ledger.Sound) : Settling t :=
  ⟨(congrArg Mac.IsUpLinkCounterFixed h :).trans hs.fixed,
    (congrArg Mac.IsRxWindowsEnabled h :).trans hs.windows, hsound,
    (congrArg Mac.joining h :).trans hs.joining, (congrArg Mac.inside h :).trans hs.inside,
    (congrArg (·.LoRaMacState.MAC_RX_ABORT) h :).trans hs.rxAbort⟩

/-- The last part of the state check. A trial is made for a data request, and a frame that is
left as it is must have been on its way, or not have used the counter. -/
theorem seenTo_checkAckTimeout {s t : Mac} (h : checkAckTimeout s = some t) (hs : Settling s)
    (hbound : s.UpLinkCounter.toNat + 1 < 2 ^ 32)
    (hretry : s.AckTimeoutRetry = true → s.LoRaMacFlags.McpsReq = true)
    (hstay : s.AckTimeoutRetry = false ∨ s.LoRaMacState.MAC_TX_DELAYED = true ∨
        trialsLeft s = true ∧ s.MaxDCycle = 255 →
      s.Free ∧ (s.NodeAckRequested = true → s.LoRaMacFlags.McpsReq = true ∧
        (s.LoRaMacState.MAC_TX_RUNNING = true ∨ s.LoRaMacState.MAC_TX_DELAYED = true))) :
    t.SeenTo := by
  rcases checkAckTimeout_cases h with ⟨hwaiting, rfl⟩ | ⟨⟨hretried, -⟩, ⟨hleft, status,
    hschedule⟩ | ⟨-, rfl⟩⟩
  · obtain ⟨hfree, hnode⟩ := hstay (hwaiting.imp_right .inl)
    refine hs.seenTo hfree ?_
    rintro (h | h)
    · exact hnode h
    · rcases hwaiting with hfalse | hdelayed
      · exact absurd (hfalse.symm.trans h) (by decide)
      · exact ⟨hretry h, .inr hdelayed⟩
  · have hmcps := hretry hretried
    have htrial : Settling (nextTrial { s with AckTimeoutRetry := false }) :=
      ⟨hs.fixed, hs.windows, hs.sound, hs.joining, hs.inside, hs.rxAbort⟩
    have hview := unscheduled_ScheduleTx hschedule
    have hflags : t.LoRaMacFlags.McpsReq = true :=
      (congrArg (·.LoRaMacFlags.McpsReq) hview :).trans hmcps
    have hpending : t.pending = true := by
      unfold Mac.pending
      rw [hflags, Bool.or_true]
    rcases ledger_ScheduleTx hschedule with ⟨hoff, -, rfl⟩ | ⟨-, ⟨hsend, hrun⟩ | ⟨hsame, hdelay, -⟩⟩
    · obtain ⟨hfree, hnode⟩ := hstay (.inr (.inr ⟨hleft, hoff⟩))
      refine htrial.seenTo hfree ?_
      rintro (h | h)
      · exact hnode h
      · cases h
    · exact (htrial.of_view hview (hsend ▸ htrial.sound.send)).seenTo
        (.inl (.inl ⟨hrun, hpending⟩)) fun _ => ⟨hflags, .inl hrun⟩
    · exact (htrial.of_view hview (hsame ▸ htrial.sound)).seenTo
        (.inl (.inr ⟨hdelay, hflags⟩)) fun _ => ⟨hflags, .inr hdelay⟩
  · have hcounter : (giveUpTrials { s with AckTimeoutRetry := false }).UpLinkCounter =
        s.UpLinkCounter + 1 := by
      change (if s.IsUpLinkCounterFixed then s.UpLinkCounter else s.UpLinkCounter + 1) = _
      rw [hs.fixed, if_neg Bool.false_ne_true]
    obtain ⟨hsettling, hfree⟩ := hs.advance (ledger_advance hbound hcounter rfl rfl rfl) rfl rfl
      rfl rfl rfl
    refine hsettling.seenTo hfree ?_
    rintro (h | h) <;> cases h

/-- The parts of the state check that look for an acknowledgement. -/
theorem seenTo_checkAck {s t : Mac} (h : checkAckTimeout (checkAck s) = some t) (hs : Settling s)
    (hbound : s.UpLinkCounter.toNat + 1 < 2 ^ 32)
    (hretry : s.AckTimeoutRetry = true → s.LoRaMacFlags.McpsReq = true)
    (hstay : acknowledged s = false → (s.AckTimeoutRetry = false ∨
        s.LoRaMacState.MAC_TX_DELAYED = true ∨ trialsLeft s = true ∧ s.MaxDCycle = 255) →
      s.Free ∧ (s.NodeAckRequested = true → s.LoRaMacFlags.McpsReq = true ∧
        (s.LoRaMacState.MAC_TX_RUNNING = true ∨ s.LoRaMacState.MAC_TX_DELAYED = true))) :
    t.SeenTo := by
  rcases checkAck_cases s with ⟨hack, hsame⟩ | ⟨confirm, counter, hdone, hcounter⟩
  · rw [hsame] at h
    exact seenTo_checkAckTimeout h hs hbound hretry (hstay hack)
  · rw [hdone] at h
    have hledger : (checkAck s).ledger = s.ledger.advance 1 := by
      rw [hdone]
      exact ledger_advance hbound (hcounter hs.fixed) rfl rfl rfl
    rw [hdone] at hledger
    cases eq_of_checkAckTimeout h rfl
    obtain ⟨hsettling, hfree⟩ := hs.advance hledger rfl rfl rfl rfl rfl
    refine hsettling.seenTo hfree ?_
    rintro (h | h) <;> cases h

/-- The state check of a frame that waits for an acknowledgement. -/
theorem seenTo_acknowledge {s t : Mac} {confirm : McpsConfirm_t}
    (h : checkAckTimeout (checkAck (s.ended confirm)) = some t) (hs : Counted s)
    (hended : Settling (s.ended confirm)) (hconfirm : confirm = s.McpsConfirm)
    (hin : txTimeout s = false) (hbound : s.UpLinkCounter.toNat + 1 < 2 ^ 32)
    (hlost : s.LoRaMacState.MAC_RX_ABORT = true → s.NodeAckRequested = true →
      s.LoRaMacState.MAC_TX_DELAYED = true ∨ acknowledged s = true ∨
        s.AckTimeoutRetry = true ∧ (trialsLeft s = true → s.MaxDCycle ≠ 255))
    (hnode : s.NodeAckRequested = true) : t.SeenTo := by
  refine seenTo_checkAck h hended hbound (fun hretry => (hs.acknowledge (.inr hretry)).1) ?_
  intro hack hstay
  obtain ⟨hmcps, hbusy⟩ := hs.acknowledge (.inl hnode)
  have hack : acknowledged s = false := by
    rw [hconfirm] at hack
    exact hack
  by_cases habort : s.LoRaMacState.MAC_RX_ABORT = true
  · have hdelayed : s.LoRaMacState.MAC_TX_DELAYED = true := by
      rcases hlost habort hnode with hdelayed | hacked | ⟨hretry, hon⟩
      · exact hdelayed
      · exact absurd (hack.symm.trans hacked) (by decide)
      · rcases hstay with hfalse | hdelayed | ⟨hleft, hoff⟩
        · exact absurd (hretry.symm.trans hfalse) (by decide)
        · exact hdelayed
        · exact absurd hoff (hon hleft)
    exact ⟨.inl (.inr ⟨hdelayed, hmcps⟩), fun _ => ⟨hmcps, .inr hdelayed⟩⟩
  · have hrunning : (s.ended confirm).LoRaMacState.MAC_TX_RUNNING =
        s.LoRaMacState.MAC_TX_RUNNING := by
      change s.stillRunning = _
      unfold Mac.stillRunning
      rw [Bool.eq_false_iff.mpr habort, hin, Bool.not_false, Bool.and_true, Bool.and_true]
    refine ⟨?_, fun _ => ⟨hmcps, ?_⟩⟩
    · unfold Mac.Free Mac.Transmitting
      rw [hrunning]
      exact hs.free
    · rw [hrunning]
      exact hbusy

/-- The state check of a frame that is not to be acknowledged. -/
theorem seenTo_repetition {s t u : Mac} (h : checkRepetition (s.ended s.McpsConfirm) = some u)
    (hut : checkAckTimeout (checkAck u) = some t) (hs : Counted s)
    (hended : Settling (s.ended s.McpsConfirm)) (hin : txTimeout s = false)
    (hbound : s.UpLinkCounter.toNat + 2 < 2 ^ 32) (hnode : s.NodeAckRequested = false) :
    t.SeenTo := by
  have hretry : s.AckTimeoutRetry = true → s.LoRaMacFlags.McpsReq = true :=
    fun hretry => (hs.acknowledge (.inr hretry)).1
  have hunode (h : u.NodeAckRequested = s.NodeAckRequested) (htrue : u.NodeAckRequested = true) :
      False := by
    rw [h, hnode] at htrue
    cases htrue
  rcases checkRepetition_cases h with ⟨hpending, rfl⟩ | ⟨hpending, ⟨counter, hu, hcounter⟩ |
    ⟨⟨-, hind, -⟩, repetitions, status, hschedule⟩⟩
  · have hunused : s.ledger.Unused := by
      have hpending : s.pending = false := hpending
      rcases hs.free with (⟨-, h⟩ | ⟨-, h⟩) | hunused
      · exact absurd (hpending.symm.trans h) (by decide)
      · unfold Mac.pending at hpending
        rw [h, Bool.or_true] at hpending
        cases hpending
      · exact hunused
    exact seenTo_checkAck hut hended (Nat.lt_of_succ_lt hbound) hretry
      fun _ _ => ⟨.inr hunused, fun h => (hunode rfl h).elim⟩
  · have hsucc : counter = s.UpLinkCounter + 1 := hcounter hended.fixed hended.joining
    have hbound' : s.UpLinkCounter.toNat + 1 < 2 ^ 32 := Nat.lt_of_succ_lt hbound
    have hledger : u.ledger = (s.ended s.McpsConfirm).ledger.advance 1 := by
      rw [hu]
      exact ledger_advance hbound' hsucc rfl rfl rfl
    have hunext : u.UpLinkCounter.toNat + 1 < 2 ^ 32 := by
      have hcount : u.ledger.counter = s.UpLinkCounter.toNat + 1 := by
        rw [hledger]
        rfl
      change u.UpLinkCounter.toNat = _ at hcount
      omega
    obtain ⟨hsettling, hfree⟩ := hended.advance hledger (by rw [hu]; rfl) (by rw [hu]; rfl)
      (by rw [hu]; rfl) (by rw [hu]; rfl) (by rw [hu]; rfl)
    refine seenTo_checkAck hut hsettling hunext ?_ fun _ _ => ⟨hfree, fun h => ?_⟩
    · rw [hu]
      exact hretry
    · exact (hunode (by rw [hu]; rfl) h).elim
  · -- the frame is sent once more, and no refusal has ended its transmission
    have habort : s.LoRaMacState.MAC_RX_ABORT = false := by
      refine Bool.eq_false_iff.mpr fun h => ?_
      have hind : s.LoRaMacFlags.McpsInd = false := hind
      exact absurd (hind.symm.trans (hs.rxAbort h).2.1) (by decide)
    have hrunning : (s.ended s.McpsConfirm).LoRaMacState.MAC_TX_RUNNING =
        s.LoRaMacState.MAC_TX_RUNNING := by
      change s.stillRunning = _
      unfold Mac.stillRunning
      rw [habort, hin, Bool.not_false, Bool.and_true, Bool.and_true]
    have hview := unscheduled_ScheduleTx hschedule
    have hupending : u.pending = true := (congrArg Mac.pending hview :).trans hpending
    have humcps : u.LoRaMacFlags.McpsReq = s.LoRaMacFlags.McpsReq :=
      (congrArg (·.LoRaMacFlags.McpsReq) hview :)
    have huretry : u.AckTimeoutRetry = s.AckTimeoutRetry := (congrArg Mac.AckTimeoutRetry hview :)
    have hucounter : u.UpLinkCounter = s.UpLinkCounter := (congrArg Mac.UpLinkCounter hview :)
    have hagain : Settling { s.ended s.McpsConfirm with
        ChannelsNbRepCounter := repetitions
        LoRaMacFlags := { s.LoRaMacFlags with MacDone := false } } :=
      ⟨hended.fixed, hended.windows, hended.sound, hended.joining, hended.inside, hended.rxAbort⟩
    have hstayed (hdelay : u.LoRaMacState.MAC_TX_DELAYED = true ∨
        u.LoRaMacState.MAC_TX_DELAYED = s.LoRaMacState.MAC_TX_DELAYED)
        (hrun : u.LoRaMacState.MAC_TX_RUNNING = s.LoRaMacState.MAC_TX_RUNNING)
        (hsame : u.ledger = s.ledger) : u.Free := by
      unfold Mac.Free Mac.Transmitting
      rw [hsame, hrun, hupending, humcps]
      rcases hs.free with (⟨hrun, -⟩ | ⟨hdelayed, hmcps⟩) | hunused
      · exact .inl (.inl ⟨hrun, rfl⟩)
      · refine .inl (.inr ⟨?_, hmcps⟩)
        rcases hdelay with hdelay | hdelay
        · exact hdelay
        · exact hdelay.trans hdelayed
      · exact .inr hunused
    have hout : Settling u ∧ u.Free := by
      rcases ledger_ScheduleTx hschedule with ⟨-, -, rfl⟩ | ⟨-, ⟨hsend, hrun⟩ |
        ⟨hsame, hdelay, hrun⟩⟩
      · exact ⟨hagain, hstayed (.inr rfl) hrunning rfl⟩
      · exact ⟨hagain.of_view hview (hsend ▸ hagain.sound.send), .inl (.inl ⟨hrun, hupending⟩)⟩
      · exact ⟨hagain.of_view hview (hsame ▸ hagain.sound),
          hstayed (.inl hdelay) (hrun.trans hrunning) hsame⟩
    refine seenTo_checkAck hut hout.1 ?_ ?_ fun _ _ => ⟨hout.2, fun h => ?_⟩
    · rw [hucounter]
      exact Nat.lt_of_succ_lt hbound
    · rw [huretry, humcps]
      exact hretry
    · exact (hunode (congrArg Mac.NodeAckRequested hview :) h).elim

theorem seenTo_completeCycle {s t : Mac} (h : completeCycle s = some t) (hs : Counted s)
    (hinside : s.inside = none) (hin : txTimeout s = false)
    (hbound : s.UpLinkCounter.toNat + 2 < 2 ^ 32)
    (hlost : s.LoRaMacState.MAC_RX_ABORT = true → s.NodeAckRequested = true →
      s.LoRaMacState.MAC_TX_DELAYED = true ∨ acknowledged s = true ∨
        s.AckTimeoutRetry = true ∧ (trialsLeft s = true → s.MaxDCycle ≠ 255)) : t.SeenTo := by
  obtain ⟨confirm, u, hconfirm, hu, hut⟩ := completeCycle_parts h
  have hjoining : s.joining = false := by
    refine Bool.eq_false_iff.mpr fun h => ?_
    exact absurd (hinside.symm.trans (hs.joining h)) nofun
  have hsettling : Settling (s.ended confirm) :=
    ⟨hs.fixed, hs.windows, hs.sound, hjoining, hinside, rfl⟩
  obtain rfl := hconfirm hin
  rcases hu with ⟨⟨hnode, -⟩, hu⟩ | ⟨hcase, rfl⟩
  · exact seenTo_repetition hu hut hs hsettling hin hbound hnode
  · have hnode : s.NodeAckRequested = true := by
      rcases hcase with hnode | hout
      · exact hnode
      · rw [hin] at hout
        cases hout
    exact seenTo_acknowledge hut hs hsettling rfl hin (Nat.lt_of_succ_lt hbound) hlost hnode

theorem counted_OnMacStateCheckTimerEvent {s t : Mac} (h : OnMacStateCheckTimerEvent s = some t)
    (hs : Counted s) (hinside : s.inside = none) (he : CountsOn s .macStateCheckTimer) :
    Counted t := by
  obtain ⟨u, rfl, hu⟩ := OnMacStateCheckTimerEvent_cases h
  have hseen : u.SeenTo := by
    rcases hu with ⟨hdone, rfl⟩ | ⟨hdone, hcycle⟩
    · have habort : s.LoRaMacState.MAC_RX_ABORT = false := by
        refine Bool.eq_false_iff.mpr fun h => ?_
        exact absurd (hdone.symm.trans (hs.rxAbort h).2.2) (by decide)
      exact ⟨hs.congr rfl rfl rfl rfl rfl rfl rfl rfl rfl rfl .inl hs.rxAbort, hinside, habort⟩
    · obtain ⟨hin, hbound, hlost⟩ := he hdone
      have hchecked : Counted s.checked :=
        hs.congr rfl rfl rfl rfl rfl rfl rfl rfl rfl rfl .inl hs.rxAbort
      exact seenTo_completeCycle hcycle hchecked hinside hin hbound hlost
  obtain ⟨hcounted, hnone, habort⟩ := hseen
  refine counted_confirmRequests ?_ hnone habort
  exact hcounted.congr rfl rfl rfl rfl rfl rfl rfl rfl rfl rfl .inl hcounted.rxAbort

theorem counted_step {s t : Mac} {e : Event} (h : step s e = some t) (he : CountsOn s e)
    (hs : Counted s) : Counted t := by
  cases moved_of_step h with
  | received hreceived hside => exact hs.of_received hreceived hside
  | mcps hmcps => exact counted_LoRaMacMcpsRequest hmcps hs he
  | @mlme r _ _ hmlme =>
    cases r with
    | Join => exact he.elim
    | LinkCheck => exact counted_LoRaMacMlmeRequest hmlme hs
  | mib => exact he.elim
  | upperReturn hinside => exact counted_returnFrom hs hinside
  | txDone => exact hs.of_landed rfl (landed_OnRadioTxDone hs.windows)
  | txTimeout => exact hs.of_landed rfl (light_OnRadioTxTimeout _).landed
  | stateCheck hinside _ hcheck => exact counted_OnMacStateCheckTimerEvent hcheck hs hinside he
  | txDelayed hinside _ hdelayed =>
    exact counted_OnTxDelayedTimerEvent hdelayed hs hinside he.1 he.2

/-- The start of a session: no data frame was built or sent in it, none is on its way, and the
join request that has opened the session, if any, is being confirmed or has been. -/
structure SessionStart (s : Mac) : Prop where
  fixed : s.IsUpLinkCounterFixed = false
  windows : s.IsRxWindowsEnabled = true
  sent : sentFrames s.board.log = []
  prepared : s.PreparedFrame = none
  running : s.LoRaMacState.MAC_TX_RUNNING = false
  delayed : s.LoRaMacState.MAC_TX_DELAYED = false
  rxAbort : s.LoRaMacState.MAC_RX_ABORT = false
  node : s.NodeAckRequested = false
  retry : s.AckTimeoutRetry = false
  joining : s.joining = true → s.inside = some .MacMlmeConfirm

theorem SessionStart.counted {s : Mac} (hs : SessionStart s) : Counted s := by
  have hledger : s.ledger = ⟨[], s.UpLinkCounter.toNat, none⟩ := by
    unfold Mac.ledger
    rw [hs.sent, hs.prepared]
    rfl
  refine ⟨hs.fixed, hs.windows, ?_, .inr ?_, ?_, fun h => ?_, fun _ => ⟨hs.running, hs.delayed⟩,
    fun _ h => ?_, hs.joining⟩
  · rw [hledger]
    exact .empty _
  · rw [hledger]
    nofun
  · rw [hs.node, hs.retry]
    rintro (h | h) <;> cases h
  · exact absurd (hs.rxAbort.symm.trans h) (by decide)
  · rw [hs.running, hs.delayed] at h
    rcases h with h | h <;> cases h

/-- In every run of such events from the start of a session, data frames with different contents
were encrypted and authenticated with different counters. A frame that is repeated or tried again
keeps its counter and its contents; every other one finds the counter moved on since the last one
was sent. -/
theorem distinctCounters_of_countsOn {s t : Mac} {es : List Event} (hs : SessionStart s)
    (hrun : Runs CountsOn s es t) :
    ∀ x ∈ sentFrames t.board.log, ∀ y ∈ sentFrames t.board.log, x.2 ≠ y.2 → x.1 ≠ y.1 := by
  have ht : Counted t := hrun.invariant hs.counted
    fun _ _ _ hs he hstep => counted_step hstep he hs
  exact ht.sound.distinct

instance (s : Mac) (e : Event) : Decidable (CountsOn s e) :=
  match e with
  | .request (.mcps r) =>
    inferInstanceAs (Decidable (s.MayAccept r → s.inside ≠ some .MacMcpsConfirm))
  | .request (.mlme (.Join ..)) | .request (.mib _) => .isFalse id
  | .macStateCheckTimer => inferInstanceAs (Decidable (s.LoRaMacFlags.MacDone = true →
      txTimeout s = false ∧ s.UpLinkCounter.toNat + 2 < 2 ^ 32 ∧
        (s.LoRaMacState.MAC_RX_ABORT = true → s.NodeAckRequested = true →
          s.LoRaMacState.MAC_TX_DELAYED = true ∨ acknowledged s = true ∨
            s.AckTimeoutRetry = true ∧ (trialsLeft s = true → s.MaxDCycle ≠ 255))))
  | .txDelayedTimer => inferInstanceAs (Decidable (s.pending = true ∧
      (s.MaxDCycle = 255 → s.LoRaMacState.MAC_TX_RUNNING = true)))
  | .request (.mlme .LinkCheck) | .request (.channelAdd _ _) | .request (.channelRemove _)
  | .request (.multicastLink _) | .request (.multicastUnlink _) | .upperReturn | .radio _
  | .rxWindowTimer1 | .rxWindowTimer2 | .ackTimeoutTimer => .isTrue trivial

theorem sessionStart_personalised (env : Env) : SessionStart (Mac.personalised env) :=
  ⟨rfl, rfl, rfl, rfl, rfl, rfl, rfl, rfl, rfl, nofun⟩

/-- A request for one byte on port 1. -/
def oneByte (b : UInt8) : Event := .request (.mcps (.Unconfirmed 1 (some fun _ => b) 1 5))

/-- A data frame is sent and confirmed, without an answer. -/
def sendOne (b : UInt8) : List Event :=
  [oneByte b, .radio .TxDone, .rxWindowTimer2, .radio (.RxTimeout false), .macStateCheckTimer,
    .upperReturn]

/-- Two frames are sent, with different counters. -/
theorem distinctCounters_of_countsOn_sendOne :
    ∃ t, Runs CountsOn (Mac.personalised Env.slow) (sendOne 1 ++ [oneByte 2]) t ∧
      (sentFrames t.board.log).length = 2 ∧
      ∀ x ∈ sentFrames t.board.log, ∀ y ∈ sentFrames t.board.log, x.2 ≠ y.2 → x.1 ≠ y.1 := by
  obtain ⟨t, hrun, hlength⟩ := transition.Run.of_after step CountsOn (Mac.personalised Env.slow)
    (sendOne 1 ++ [oneByte 2]) (fun t => (sentFrames t.board.log).length = 2) (by decide +kernel)
  exact ⟨t, hrun, by simpa using hlength,
    distinctCounters_of_countsOn (sessionStart_personalised _) hrun⟩

/-- The radio does not end the second transmission, which is given up. -/
def sendAndTimeOut : List Event :=
  sendOne 1 ++ [oneByte 2, .radio .TxTimeout, .macStateCheckTimer, .upperReturn, oneByte 3]

/-- The counter of the frame that has timed out is used again. -/
theorem not_distinctCounters_sendAndTimeOut :
    ∃ t, Runs (fun _ _ => True) (Mac.personalised Env.slow) sendAndTimeOut t ∧
      ¬ ∀ x ∈ sentFrames t.board.log, ∀ y ∈ sentFrames t.board.log, x.2 ≠ y.2 → x.1 ≠ y.1 := by
  obtain ⟨t, hrun, ht⟩ := transition.Run.of_after step (fun _ _ => True)
    (Mac.personalised Env.slow) sendAndTimeOut
    (fun t => !decide (∀ x ∈ sentFrames t.board.log, ∀ y ∈ sentFrames t.board.log,
      x.2 ≠ y.2 → x.1 ≠ y.1)) (by decide +kernel)
  refine ⟨t, hrun, ?_⟩
  rw [Bool.not_eq_true', decide_eq_false_iff_not] at ht
  exact ht

end loranode.mac
