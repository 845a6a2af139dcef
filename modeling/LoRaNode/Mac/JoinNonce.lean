import LoRaNode.Mac.Counter
import LoRaNode.Mac.Held
import LoRaNode.Mac.Size

namespace loranode.mac

open LoRaMacStatus_t LoRaMacFrameType_t LoRaMacEventInfoStatus_t

/-- The frame is a join request. -/
def Transmission.isJoin (t : Transmission) : Bool :=
  t.bytes.head? = some FRAME_TYPE_JOIN_REQ.header

/-- The field `DevNonce` of a join request: the two bytes in front of the MIC. -/
def Transmission.DevNonce (t : Transmission) : List UInt8 := (t.bytes.drop (t.size - 6)).take 2

def Action.joinRequest : Action → Option Transmission
  | .Send t => if t.isJoin then some t else none
  | _ => none

/-- The join requests that the radio is given between two states of a run. -/
def joinsSent (s t : Mac) : List Transmission :=
  (t.board.log.drop s.board.log.length).filterMap Action.joinRequest

/-- The step sends no join request, or it sends one with the nonce that `LoRaMacDevNonce` has, and
`Radio.Random` has been asked since `aired`, the number of draws when the last one was sent. -/
def FreshJoin (aired : Nat) (s t : Mac) : Prop :=
  joinsSent s t = [] ∨ ∃ x, joinsSent s t = [x] ∧ aired < t.board.draws ∧
    x.DevNonce = bytes16 t.LoRaMacDevNonce

/-- The MAC, and the number of draws of `Radio.Random` when the last join request was sent. -/
structure Watched where
  aired : Nat
  state : Mac

def Watched.step (w : Watched) (e : Event) : Option Watched :=
  (mac.step w.state e).map fun t => ⟨if joinsSent w.state t = [] then w.aired else t.board.draws, t⟩

/-- In `LoRaMacBuffer` is a join request. -/
def Mac.joinFramed (s : Mac) : Prop := s.frameBytes.head? = some FRAME_TYPE_JOIN_REQ.header

instance (s : Mac) : Decidable s.joinFramed :=
  inferInstanceAs (Decidable (s.frameBytes.head? = some FRAME_TYPE_JOIN_REQ.header))

/-- The frame in `LoRaMacBuffer`, the nonce that is stored, and the number of draws. -/
def Mac.airFrame (s : Mac) : Mem × Nat × UInt16 × Nat :=
  (s.LoRaMacBuffer, s.LoRaMacBufferPktLen, s.LoRaMacDevNonce, s.board.draws)

/-- A join request in `LoRaMacBuffer` has the nonce that is stored. -/
structure Nonced (w : Watched) : Prop where
  aired : w.aired ≤ w.state.board.draws
  nonce : w.state.joinFramed →
    (w.state.frameBytes.drop (w.state.LoRaMacBufferPktLen - 6)).take 2 = bytes16 w.state.LoRaMacDevNonce

theorem frameBytes_congr {s t : Mac} (h : t.airFrame = s.airFrame) :
    t.frameBytes = s.frameBytes := by
  have hbuffer : t.LoRaMacBuffer = s.LoRaMacBuffer := congrArg (·.1) h
  have hlength : t.LoRaMacBufferPktLen = s.LoRaMacBufferPktLen := congrArg (·.2.1) h
  unfold Mac.frameBytes
  rw [hbuffer, hlength]

theorem joinFramed_congr {s t : Mac} (h : t.airFrame = s.airFrame) :
    t.joinFramed ↔ s.joinFramed := by
  unfold Mac.joinFramed
  rw [frameBytes_congr h]

theorem Nonced.congr {aired : Nat} {s t : Mac} (hs : Nonced ⟨aired, s⟩)
    (h : t.airFrame = s.airFrame) : Nonced ⟨aired, t⟩ := by
  have hlength : t.LoRaMacBufferPktLen = s.LoRaMacBufferPktLen := congrArg (·.2.1) h
  have hnonce : t.LoRaMacDevNonce = s.LoRaMacDevNonce := congrArg (·.2.2.1) h
  have hdraws : t.board.draws = s.board.draws := congrArg (·.2.2.2) h
  refine ⟨hs.aired.trans_eq hdraws.symm, fun hjoin => ?_⟩
  have hold := hs.nonce ((joinFramed_congr h).mp hjoin)
  change (t.frameBytes.drop (t.LoRaMacBufferPktLen - 6)).take 2 = bytes16 t.LoRaMacDevNonce
  rw [frameBytes_congr h, hlength, hnonce]
  exact hold

/-- From `s` to `t` the frame stays, and the radio is given no join request. -/
structure Unsent (s t : Mac) : Prop where
  frame : t.airFrame = s.airFrame
  log : ∃ log, t.board.log = s.board.log ++ log ∧ ∀ a ∈ log, a.joinRequest = none

namespace Unsent

theorem of_same {s t : Mac} (hframe : t.airFrame = s.airFrame)
    (hlog : t.board.log = s.board.log) : Unsent s t :=
  ⟨hframe, [], by rw [hlog, List.append_nil], by simp⟩

theorem of_record {s t : Mac} {a : Action} (hframe : t.airFrame = s.airFrame)
    (hlog : t.board.log = s.board.log ++ [a]) (ha : a.joinRequest = none) : Unsent s t :=
  ⟨hframe, [a], hlog, by simpa using ha⟩

theorem indicate (s : Mac) : Unsent s (indicate s) := by
  unfold mac.indicate
  split
  · exact .of_record rfl rfl rfl
  · exact .of_same rfl rfl

theorem endConfirms (s : Mac) : Unsent s (endConfirms s) :=
  have h := Unsent.indicate { s with LoRaMacFlags := { s.LoRaMacFlags with MacDone := false } }
  ⟨h.frame, h.log⟩

theorem confirmMlme (s : Mac) : Unsent s (confirmMlme s) := by
  unfold mac.confirmMlme
  split
  · exact .of_record rfl rfl rfl
  · exact .endConfirms s

theorem confirmRequests (s : Mac) : Unsent s (confirmRequests s) := by
  unfold mac.confirmRequests confirmMcps
  split
  · split
    · exact .of_record rfl rfl rfl
    · exact .confirmMlme s
  · have h := Unsent.indicate { s with
      MacStateCheckTimer :=
        TimerStart (TimerSetValue s.MacStateCheckTimer MAC_STATE_CHECK_TIMEOUT) }
    exact ⟨h.frame, h.log⟩

end Unsent

/-- What a step makes of the frame and of the radio. -/
structure Stepped (aired : Nat) (s t : Mac) : Prop where
  grows : s.board.log <+: t.board.log
  fresh : FreshJoin aired s t
  nonced : Nonced ⟨if joinsSent s t = [] then aired else t.board.draws, t⟩

namespace Stepped

variable {aired : Nat} {s t u : Mac} {log : List Action}

/-- A step that gives no join request to the radio. -/
theorem of_log (hlog : t.board.log = s.board.log ++ log)
    (hunsent : ∀ a ∈ log, a.joinRequest = none) (ht : Nonced ⟨aired, t⟩) : Stepped aired s t := by
  have hnone : joinsSent s t = [] := by
    unfold joinsSent
    rw [hlog, List.drop_left]
    exact List.filterMap_eq_nil_iff.mpr hunsent
  refine ⟨⟨log, hlog.symm⟩, .inl hnone, ?_⟩
  rw [if_pos hnone]
  exact ht

theorem of_same (hlog : t.board.log = s.board.log) (ht : Nonced ⟨aired, t⟩) :
    Stepped aired s t := by
  have hnil : t.board.log = s.board.log ++ [] := by rw [hlog, List.append_nil]
  exact of_log hnil (by simp) ht

theorem of_unsent (h : Unsent s t) (hs : Nonced ⟨aired, s⟩) : Stepped aired s t := by
  obtain ⟨log, hlog, hunsent⟩ := h.log
  exact of_log hlog hunsent (hs.congr h.frame)

/-- The rest of a step that gives no join request to the radio. -/
theorem extend (h : Stepped aired s u) (hut : Unsent u t) : Stepped aired s t := by
  obtain ⟨log, hlog, hunsent⟩ := hut.log
  have hsent : joinsSent s t = joinsSent s u := by
    unfold joinsSent
    rw [hlog, List.drop_append_of_le_length h.grows.length_le, List.filterMap_append,
      List.filterMap_eq_nil_iff.mpr hunsent, List.append_nil]
  have hnonce : t.LoRaMacDevNonce = u.LoRaMacDevNonce := congrArg (·.2.2.1) hut.frame
  have hdraws : t.board.draws = u.board.draws := congrArg (·.2.2.2) hut.frame
  refine ⟨h.grows.trans ⟨log, hlog.symm⟩, ?_, ?_⟩
  · unfold FreshJoin
    rw [hsent, hdraws, hnonce]
    exact h.fresh
  · rw [hsent, hdraws]
    exact h.nonced.congr hut.frame

/-- A frame is scheduled. If it is a join request, it must have been built since the last one was
sent. -/
theorem of_ScheduleTx {status : LoRaMacStatus_t} (h : ScheduleTx u = some (status, t))
    (hlog : u.board.log = s.board.log) (hu : Nonced ⟨aired, u⟩)
    (hbuilt : u.joinFramed → aired < u.board.draws) : Stepped aired s t := by
  rcases ScheduleTx_cases h with ⟨-, -, rfl⟩ | ⟨-, -, v, hv, ht⟩
  · exact of_same hlog hu
  · have hview : v.airFrame = u.airFrame := (congrArg Mac.airFrame hv.unchosen :)
    have hlog' : v.board.log = s.board.log := (congrArg (·.board.log) hv.unchosen :).trans hlog
    have hnonced := hu.congr hview
    rcases ht with rfl | ⟨time, rfl⟩
    · have hsend : (SendFrameOnChannel v (v.Channels v.Channel.toNat)).board.log =
          s.board.log ++ [.Send (transmission v (v.Channels v.Channel.toNat))] := by
        rw [← hlog']
        rfl
      by_cases hjoin : v.joinFramed
      · have hisJoin : (transmission v (v.Channels v.Channel.toNat)).isJoin = true :=
          decide_eq_true hjoin
        have hsent : joinsSent s (SendFrameOnChannel v (v.Channels v.Channel.toNat)) =
            [transmission v (v.Channels v.Channel.toNat)] := by
          unfold joinsSent
          rw [hsend, List.drop_left]
          simp [Action.joinRequest, hisJoin]
        have hdraws : v.board.draws = u.board.draws := congrArg (·.2.2.2) hview
        refine ⟨⟨_, hsend.symm⟩, .inr ⟨_, hsent, ?_, hnonced.nonce hjoin⟩, ?_⟩
        · exact (hbuilt ((joinFramed_congr hview).mp hjoin)).trans_eq hdraws.symm
        · rw [hsent, if_neg (List.cons_ne_nil _ _)]
          exact ⟨Nat.le_refl _, hnonced.nonce⟩
      · refine of_log hsend (fun a ha => ?_) (hnonced.congr rfl)
        rw [List.mem_singleton.mp ha]
        exact if_neg fun hisJoin => hjoin (of_decide_eq_true hisJoin)
    · exact of_same hlog' (hnonced.congr rfl)

end Stepped

/-- The first byte of `LoRaMacBuffer`, and the number of draws. -/
def Mac.begun (s : Mac) : UInt8 × Nat := (s.LoRaMacBuffer 0, s.board.draws)

theorem begun_buildDataFrame (s : Mac) (fCtrl : LoRaMacFrameCtrl_t) (fPort : UInt8)
    (fBuffer : Option Mem) (fBufferSize : UInt16) :
    (buildDataFrame s fCtrl fPort fBuffer fBufferSize).begun = s.begun := by
  obtain ⟨plan, u, hplace⟩ : ∃ plan u, placeMacCommands (collectMacCommands (startDataFrame s fCtrl))
      (acknowledging s fCtrl) fPort fBuffer fBufferSize.toUInt8 = (plan, u) := ⟨_, _, rfl⟩
  have hu : u.begun = s.begun := by
    unfold placeMacCommands at hplace
    split at hplace
    · split at hplace <;> cases hplace <;> rfl
    · split at hplace <;> cases hplace <;> rfl
  have hfront : 0 < plan.pktHeaderLen := by
    have hplan := placeMacCommands_plan (collectMacCommands (startDataFrame s fCtrl))
      (acknowledging s fCtrl) fPort fBuffer fBufferSize.toUInt8
    rw [hplace] at hplan
    dsimp only at hplan
    omega
  have hdraws : (placePayload (retireMacCommands u) plan).2.board.draws = u.board.draws := by
    unfold placePayload
    split
    · rfl
    · split <;> rfl
  have hlength := placePayload_length (retireMacCommands u) plan
  rw [buildDataFrame_eq _ _ _ _ _ hplace, ← hu]
  refine Prod.ext ?_ hdraws
  refine (Mem.write_of_lt ?_).trans (placePayload_front (retireMacCommands u) plan hfront)
  omega

theorem begun_PrepareFrame (s : Mac) {macHdr : LoRaMacFrameType_t} (fCtrl : LoRaMacFrameCtrl_t)
    (fPort : UInt8) (fBuffer : Option Mem) (fBufferSize : UInt16)
    (hother : macHdr ≠ FRAME_TYPE_JOIN_REQ) :
    (PrepareFrame s macHdr fCtrl fPort fBuffer fBufferSize).2.begun =
      (macHdr.header, s.board.draws) := by
  have hdata (s : Mac) : (prepareData s fCtrl fPort fBuffer fBufferSize).2.begun = s.begun := by
    obtain ⟨counter, lookups, params, hadapt⟩ := adaptDatarate_snd s fCtrl.Adr
    have hbegun : (adaptDatarate s fCtrl.Adr).2.begun = s.begun := by
      rw [hadapt]
      rfl
    unfold prepareData
    dsimp only
    split
    · rfl
    · split
      · exact (begun_buildDataFrame _ _ _ _ _).trans hbegun
      · exact hbegun
  unfold PrepareFrame
  dsimp only
  split
  · exact absurd rfl hother
  · exact hdata _
  · exact hdata _
  · unfold prepareProprietary
    split
    · rfl
    · split <;> rfl
  · rfl

theorem Mac.joinFramed.first {s : Mac} (h : s.joinFramed) :
    s.LoRaMacBuffer 0 = FRAME_TYPE_JOIN_REQ.header := by
  unfold Mac.joinFramed Mac.frameBytes at h
  cases hlength : s.LoRaMacBufferPktLen % 256 with
  | zero =>
    rw [hlength] at h
    cases h
  | succ n =>
    rw [hlength, Nat.add_comm, Mem.read_add] at h
    exact Option.some.inj h

theorem nonce_prepareJoinRequest (s : Mac) :
    ((prepareJoinRequest s).frameBytes.drop ((prepareJoinRequest s).LoRaMacBufferPktLen - 6)).take 2 =
      bytes16 (prepareJoinRequest s).LoRaMacDevNonce := by
  obtain ⟨front, mic, hfront, hbuffer, hlength⟩ : ∃ front mic, front.length ≤ 17 ∧
      (prepareJoinRequest s).LoRaMacBuffer = s.LoRaMacBuffer.write 0 (front ++
        bytes16 (prepareJoinRequest s).LoRaMacDevNonce ++ bytes32 mic) ∧
      (prepareJoinRequest s).LoRaMacBufferPktLen = (front ++
        bytes16 (prepareJoinRequest s).LoRaMacDevNonce ++ bytes32 mic).length := by
    refine ⟨_, _, ?_, rfl, rfl⟩
    simp only [List.length_append, List.length_reverse, List.length_take, List.length_singleton]
    omega
  have htotal : (front ++ bytes16 (prepareJoinRequest s).LoRaMacDevNonce ++ bytes32 mic).length =
      front.length + 6 := by
    rw [List.length_append, List.length_append]
    rfl
  have hframe : (prepareJoinRequest s).frameBytes =
      front ++ bytes16 (prepareJoinRequest s).LoRaMacDevNonce ++ bytes32 mic := by
    unfold Mac.frameBytes
    rw [hlength, Nat.mod_eq_of_lt (by omega), hbuffer, Mem.read_write_self]
  rw [hframe, hlength, htotal, Nat.add_sub_cancel, List.append_assoc, List.drop_left]
  rfl

/-- The frame that `PrepareFrame` leaves is one to watch: a join request has the new nonce, and
all others have another header. -/
theorem nonced_PrepareFrame {aired : Nat} {s : Mac} (macHdr : LoRaMacFrameType_t)
    (fCtrl : LoRaMacFrameCtrl_t) (fPort : UInt8) (fBuffer : Option Mem) (fBufferSize : UInt16)
    (hs : aired ≤ s.board.draws) :
    Nonced ⟨aired, (PrepareFrame s macHdr fCtrl fPort fBuffer fBufferSize).2⟩ ∧
      ((PrepareFrame s macHdr fCtrl fPort fBuffer fBufferSize).2.joinFramed →
        aired < (PrepareFrame s macHdr fCtrl fPort fBuffer fBufferSize).2.board.draws) := by
  by_cases htype : macHdr = FRAME_TYPE_JOIN_REQ
  · subst htype
    have hdraws : aired < s.board.draws + 1 := Nat.lt_succ_of_le hs
    exact ⟨⟨hdraws.le, fun _ => nonce_prepareJoinRequest _⟩, fun _ => hdraws⟩
  · have hbegun := begun_PrepareFrame s fCtrl fPort fBuffer fBufferSize htype
    generalize (PrepareFrame s macHdr fCtrl fPort fBuffer fBufferSize).2 = u at *
    have hframed : ¬ u.joinFramed := by
      intro hjoin
      have hheader : macHdr.header = FRAME_TYPE_JOIN_REQ.header :=
        (congrArg Prod.fst hbegun :).symm.trans hjoin.first
      refine htype ?_
      rw [← LoRaMacFrameType_t.ofHeader_header macHdr, hheader]
      rfl
    exact ⟨⟨hs.trans_eq (congrArg Prod.snd hbegun :).symm, fun hjoin => absurd hjoin hframed⟩,
      fun hjoin => absurd hjoin hframed⟩

theorem Stepped.of_Send {aired : Nat} {s t u : Mac} {macHdr : LoRaMacFrameType_t} {fPort : UInt8}
    {fBuffer : Option Mem} {fBufferSize : UInt16} {status : LoRaMacStatus_t}
    (h : Send u macHdr fPort fBuffer fBufferSize = some (status, t))
    (hlog : u.board.log = s.board.log) (hu : aired ≤ u.board.draws) : Stepped aired s t := by
  obtain ⟨status', v, hframe, hout⟩ := Send_cases h
  have hview := unprepared_PrepareFrame u macHdr ⟨0, false, false, false, u.AdrCtrlOn⟩ fPort fBuffer
    fBufferSize
  obtain ⟨hnonced, hbuilt⟩ := nonced_PrepareFrame macHdr ⟨0, false, false, false, u.AdrCtrlOn⟩ fPort
    fBuffer fBufferSize hu
  rw [hframe] at hview hnonced hbuilt
  have hlog' : v.board.log = s.board.log := (congrArg (·.board.log) hview :).trans hlog
  rcases hout with ⟨-, -, rfl⟩ | ⟨-, hschedule⟩
  · exact .of_same hlog' hnonced
  · exact .of_ScheduleTx hschedule hlog' (hnonced.congr rfl) hbuilt

theorem stepped_LoRaMacMcpsRequest {aired : Nat} {s t : Mac} {r : McpsReq_t}
    {status : LoRaMacStatus_t} (h : LoRaMacMcpsRequest s r = some (status, t))
    (hs : Nonced ⟨aired, s⟩) : Stepped aired s t := by
  rcases LoRaMacMcpsRequest_cases h with ⟨-, -, rfl⟩ | ⟨-, ⟨-, hview, -⟩ | ⟨u, v, macHdr, status',
    type, -, hu, hsend, hout⟩⟩
  · exact .of_same rfl hs
  · exact .of_unsent (.of_same (congrArg Mac.airFrame hview :) (congrArg (·.board.log) hview :)) hs
  · have hdraws : u.board.draws = s.board.draws := (congrArg (·.board.draws) hu.unrequested :)
    have hv : Stepped aired s v :=
      .of_Send hsend (congrArg (·.board.log) hu.unrequested :) (hs.aired.trans_eq hdraws.symm)
    rcases hout with ⟨-, -, rfl⟩ | ⟨-, -, rfl⟩
    · exact hv.extend (.of_record (a := .Accepted) rfl rfl rfl)
    · exact hv.extend (.of_same rfl rfl)

theorem stepped_LoRaMacMlmeRequest {aired : Nat} {s t : Mac} {r : MlmeReq_t}
    {status : LoRaMacStatus_t} (h : LoRaMacMlmeRequest s r = some (status, t))
    (hs : Nonced ⟨aired, s⟩) : Stepped aired s t := by
  have hout {x : LoRaMacStatus_t × Mac} (heq : (status, t) = mlmeOutcome x)
      (hx : Stepped aired s x.2) : Stepped aired s t := by
    have ht : t = (mlmeOutcome x).2 := congrArg Prod.snd heq
    rw [ht]
    unfold mlmeOutcome
    split
    · exact hx
    · exact hx.extend (.of_same rfl rfl)
  rcases LoRaMacMlmeRequest_cases h with ⟨-, rfl, -⟩ | ⟨-, ⟨-, -, rfl⟩ | ⟨DevEui, AppEui, AppKey, v,
    status', -, -, hsend, houtcome⟩ | ⟨-, houtcome⟩⟩
  · exact .of_same rfl hs
  · exact .of_same rfl (hs.congr rfl)
  · exact hout houtcome (.of_Send hsend rfl hs.aired)
  · have hview := uncommanded_AddMacCommand { s with
      MlmeConfirm := ⟨.MLME_LINK_CHECK, LORAMAC_EVENT_INFO_STATUS_ERROR, 0, 0, 0⟩
      LoRaMacFlags := { s.LoRaMacFlags with MlmeReq := true } } .MOTE_MAC_LINK_CHECK_REQ 0 0
    generalize AddMacCommand _ _ _ _ = x at houtcome hview
    exact hout houtcome (.of_unsent
      (.of_same (congrArg Mac.airFrame hview :) (congrArg (·.board.log) hview :)) hs)

/-- From `s` to `t` the frame stays, and the radio is given nothing but this frame. -/
structure Resends (s t : Mac) : Prop where
  frame : t.airFrame = s.airFrame
  log : ∃ log, t.board.log = s.board.log ++ log ∧
    ∀ a ∈ log, ∃ x, a = .Send x ∧ x.bytes = s.frameBytes

namespace Resends

theorem of_same {s t : Mac} (hframe : t.airFrame = s.airFrame)
    (hlog : t.board.log = s.board.log) : Resends s t :=
  ⟨hframe, [], by rw [hlog, List.append_nil], by simp⟩

theorem trans {s t u : Mac} (hst : Resends s t) (htu : Resends t u) : Resends s u := by
  obtain ⟨log, ht, hlog⟩ := hst.log
  obtain ⟨log', hu, hlog'⟩ := htu.log
  refine ⟨htu.frame.trans hst.frame, log ++ log', ?_, fun a ha => ?_⟩
  · rw [hu, ht, List.append_assoc]
  · rcases List.mem_append.mp ha with ha | ha
    · exact hlog a ha
    · obtain ⟨x, rfl, hx⟩ := hlog' a ha
      exact ⟨x, rfl, hx.trans (frameBytes_congr hst.frame)⟩

theorem of_ScheduleTx {s t u : Mac} {status : LoRaMacStatus_t}
    (h : ScheduleTx u = some (status, t)) (hframe : u.airFrame = s.airFrame)
    (hlog : u.board.log = s.board.log) : Resends s t := by
  rcases ScheduleTx_cases h with ⟨-, -, rfl⟩ | ⟨-, -, v, hv, ht⟩
  · exact .of_same hframe hlog
  · have hframe' : v.airFrame = s.airFrame := (congrArg Mac.airFrame hv.unchosen :).trans hframe
    have hlog' : v.board.log = s.board.log := (congrArg (·.board.log) hv.unchosen :).trans hlog
    rcases ht with rfl | ⟨time, rfl⟩
    · refine ⟨hframe', [.Send (transmission v (v.Channels v.Channel.toNat))], ?_, fun a ha => ?_⟩
      · rw [← hlog']
        rfl
      · exact ⟨_, List.mem_singleton.mp ha, frameBytes_congr hframe'⟩
    · exact .of_same hframe' hlog'

theorem of_completeCycle {s t : Mac} (h : completeCycle s = some t) : Resends s t := by
  obtain ⟨confirm, u, -, hu, hut⟩ := completeCycle_parts h
  have hfirst : Resends s u := by
    rcases hu with ⟨-, hu⟩ | ⟨-, rfl⟩
    · rcases mac.checkRepetition_cases hu with ⟨-, rfl⟩ | ⟨-, ⟨counter, rfl, -⟩ | ⟨-, repetitions,
        status, hschedule⟩⟩
      · exact .of_same rfl rfl
      · exact .of_same rfl rfl
      · exact .of_ScheduleTx hschedule rfl rfl
    · exact .of_same rfl rfl
  refine hfirst.trans ?_
  rcases checkAckTimeout_checkAck_cases hut with ⟨-, status, hschedule⟩ | hsettled
  · exact .of_ScheduleTx hschedule rfl rfl
  · exact .of_same (congrArg Mac.airFrame hsettled :) (congrArg (·.board.log) hsettled :)

/-- A frame that is no join request can be sent again. -/
theorem unsent {s t : Mac} (h : Resends s t) (hother : ¬ s.joinFramed) : Unsent s t := by
  obtain ⟨log, hlog, hsends⟩ := h.log
  refine ⟨h.frame, log, hlog, fun a ha => ?_⟩
  obtain ⟨x, rfl, hx⟩ := hsends a ha
  refine if_neg fun hjoin => hother ?_
  rw [Transmission.isJoin, hx] at hjoin
  exact of_decide_eq_true hjoin

end Resends

/-- The events that leave the join requests fresh. A state check that finds a join request to
repeat finds it held back, and a join request that was sent before is built again once its delay
has passed. -/
def Rebuilds (w : Watched) : Event → Prop
  | .macStateCheckTimer => w.state.LoRaMacFlags.MacDone = true → w.state.joinFramed →
      Repeats w.state.checked ∨ Retries w.state.checked →
        Held (w.state.readsAfter .macStateCheckTimer) w.state.checked.backedOff
  | .txDelayedTimer => w.state.joinFramed → w.aired = w.state.board.draws → w.state.joining = true
  | _ => True

instance (w : Watched) : (e : Event) → Decidable (Rebuilds w e)
  | .macStateCheckTimer => inferInstanceAs (Decidable (_ → _ → _ ∨ _ → _))
  | .txDelayedTimer => inferInstanceAs (Decidable (_ → _ → _))
  | .request _ | .upperReturn | .radio _ | .rxWindowTimer1 | .rxWindowTimer2 | .ackTimeoutTimer =>
    inferInstanceAs (Decidable True)

theorem stepped_OnMacStateCheckTimerEvent {w : Watched} {t : Mac}
    (h : OnMacStateCheckTimerEvent w.state = some t) (hw : Nonced w)
    (he : w.state.LoRaMacFlags.MacDone = true → w.state.joinFramed →
      Repeats w.state.checked ∨ Retries w.state.checked →
        Held t.board.reads w.state.checked.backedOff) : Stepped w.aired w.state t := by
  obtain ⟨u, rfl, hu⟩ := OnMacStateCheckTimerEvent_cases h
  have hreads : (confirmRequests u.unreceived).board.reads = u.board.reads :=
    (congrArg (·.board.reads) (untold_confirmRequests u.unreceived) :)
  rw [hreads] at he
  have hcycle : Unsent w.state u := by
    rcases hu with ⟨-, rfl⟩ | ⟨hdone, hcycle⟩
    · exact .of_same rfl rfl
    · have hresends := Resends.of_completeCycle hcycle
      by_cases hjoin : w.state.joinFramed
      · have hlog := Held.log_completeCycle hcycle (he hdone hjoin)
        exact .of_same hresends.frame hlog
      · have hunsent := hresends.unsent hjoin
        exact ⟨hunsent.frame, hunsent.log⟩
  refine (Stepped.of_unsent hcycle hw).extend ?_
  have hconfirm := Unsent.confirmRequests u.unreceived
  exact ⟨hconfirm.frame, hconfirm.log⟩

theorem stepped_OnTxDelayedTimerEvent {w : Watched} {t : Mac}
    (h : OnTxDelayedTimerEvent w.state = some t) (hw : Nonced w)
    (he : Rebuilds w .txDelayedTimer) : Stepped w.aired w.state t := by
  obtain ⟨u, status, hschedule, hu⟩ := OnTxDelayedTimerEvent_cases h
  rcases hu with ⟨hjoining, rfl⟩ | ⟨-, rfl⟩
  · refine .of_ScheduleTx hschedule rfl (hw.congr rfl) fun hjoin => ?_
    refine Nat.lt_of_le_of_ne hw.aired fun haired => ?_
    rw [he hjoin haired] at hjoining
    cases hjoining
  · have hview := unprepared_PrepareFrame w.state.undelayed FRAME_TYPE_JOIN_REQ
      ⟨0, false, false, false, w.state.AdrCtrlOn⟩ 0 none 0
    obtain ⟨hnonced, hbuilt⟩ := nonced_PrepareFrame (s := w.state.undelayed) FRAME_TYPE_JOIN_REQ
      ⟨0, false, false, false, w.state.AdrCtrlOn⟩ 0 none 0 hw.aired
    exact .of_ScheduleTx hschedule (congrArg (·.board.log) hview :) hnonced hbuilt

theorem stepped_step {w : Watched} {t : Mac} {e : Event} (h : step w.state e = some t)
    (hw : Nonced w) (he : Rebuilds w e) : Stepped w.aired w.state t := by
  have hreads := readsAfter_eq h
  cases moved_of_step h with
  | received hreceived _ =>
    exact .of_unsent (.of_same (congrArg Mac.airFrame hreceived.control :)
      (congrArg (·.board.log) hreceived.control :)) hw
  | mcps hmcps => exact stepped_LoRaMacMcpsRequest hmcps hw
  | mlme hmlme => exact stepped_LoRaMacMlmeRequest hmlme hw
  | mib hidle =>
    exact .of_unsent (.of_same (congrArg Mac.airFrame (unset_mibSet w.state _) :)
      (congrArg (·.board.log) (unset_mibSet w.state _) :)) hw
  | @upperReturn p hinside =>
    cases p with
    | MacMcpsConfirm =>
      have hconfirm := Unsent.confirmMlme { w.state with
        inside := none, LoRaMacFlags := { w.state.LoRaMacFlags with McpsReq := false } }
      exact .of_unsent ⟨hconfirm.frame, hconfirm.log⟩ hw
    | MacMlmeConfirm =>
      have hconfirm := Unsent.endConfirms { w.state with
        inside := none, LoRaMacFlags := { w.state.LoRaMacFlags with MlmeReq := false } }
      exact .of_unsent ⟨hconfirm.frame, hconfirm.log⟩ hw
    | MacMcpsIndication => exact .of_unsent (.of_same rfl rfl) hw
  | txDone =>
    exact .of_unsent (.of_record (a := .TxDone (w.state.env.clock w.state.board.reads))
      (congrArg Mac.airFrame (unaired_OnRadioTxDone _) :) (log_OnRadioTxDone _) rfl) hw
  | txTimeout =>
    have hquiet := (light_OnRadioTxTimeout ((w.state.setStatus .RF_IDLE).record .TxTimeout)).quiet
    exact .of_unsent (.of_record (a := .TxTimeout) (congrArg Mac.airFrame hquiet :)
      (congrArg (·.board.log) hquiet :) rfl) hw
  | stateCheck _ _ hcheck => exact stepped_OnMacStateCheckTimerEvent hcheck hw (hreads ▸ he)
  | txDelayed _ _ hdelayed => exact stepped_OnTxDelayedTimerEvent hdelayed hw he

/-- In every run of such events, with the duty cycle on or off, each join request that the radio is
given was built since the one before it, and has the nonce that is stored. A request that is delayed
is built anew when its timer ends; the state check that tries it again sends the frame as it is. -/
theorem freshJoin_of_rebuilds {env : Env} {DutyCycleOn : Bool} {es : List Event} {w : Watched}
    {e : Event} {t : Mac} (hrun : transition.Run (fun w e v => Watched.step w e = some v) Rebuilds
      ⟨0, { Mac.boot env with DutyCycleOn := DutyCycleOn }⟩ es w)
    (he : Rebuilds w e) (h : step w.state e = some t) : FreshJoin w.aired w.state t := by
  have hw : Nonced w := by
    refine hrun.invariant ⟨Nat.le_refl 0, fun hjoin => by cases hjoin⟩ fun w e v hw he hstep => ?_
    obtain ⟨t, ht, rfl⟩ := Option.map_eq_some_iff.mp hstep
    exact (stepped_step ht hw he).nonced
  exact (stepped_step h hw he).fresh

/-- A join request that nothing answers. -/
def joinUnanswered : List Event :=
  [.request (.mlme (.Join (some []) (some []) (some []))), .radio .TxDone, .rxWindowTimer1,
    .radio (.RxTimeout false), .rxWindowTimer2, .radio (.RxTimeout false)]

/-- A board on which a join request takes 1000 ms and ends at 1000. The clock reads 8000 while the
state check runs, and 100000 when the time off of the band is over. -/
def Env.unhurried : Env :=
  { Env.plain with
    TimeOnAir := fun _ _ => 1000
    Random := fun draws => UInt32.ofNat (draws + 1)
    clock := fun reads => if reads = 0 then 1000 else if reads < 5 then 8000 else 100000 }

/-- The state check puts off a join request that nothing has answered. Once its time off is over,
the request is built again and sent, with another nonce. -/
theorem freshJoin_of_rebuilds_delayed : ∃ w t,
    transition.Run (fun w e v => Watched.step w e = some v) Rebuilds
      ⟨0, { Mac.boot Env.unhurried with DutyCycleOn := true }⟩
      (joinUnanswered ++ [.macStateCheckTimer]) w ∧
      step w.state .txDelayedTimer = some t ∧ (joinsSent w.state t).length = 1 ∧
      w.state.LoRaMacDevNonce = 1 ∧ t.LoRaMacDevNonce = 2 ∧ FreshJoin w.aired w.state t := by
  obtain ⟨w, hrun, hw⟩ := transition.Run.of_after Watched.step Rebuilds
    ⟨0, { Mac.boot Env.unhurried with DutyCycleOn := true }⟩
    (joinUnanswered ++ [.macStateCheckTimer])
    (fun w => decide (Rebuilds w .txDelayedTimer) && (step w.state .txDelayedTimer).any fun t =>
      decide ((joinsSent w.state t).length = 1 ∧ w.state.LoRaMacDevNonce = 1 ∧
        t.LoRaMacDevNonce = 2)) (by decide +kernel)
  rw [Bool.and_eq_true] at hw
  obtain ⟨t, ht, hsent⟩ := (Option.any_eq_true _ _).mp hw.2
  obtain ⟨hlength, hfirst, hsecond⟩ := of_decide_eq_true hsent
  exact ⟨w, t, hrun, ht, hlength, hfirst, hsecond,
    freshJoin_of_rebuilds hrun (of_decide_eq_true hw.1) ht⟩

/-- The time off of the first join request has passed when the state check runs: it gives the radio
the same frame again. -/
theorem not_freshJoin_joinUnanswered : ∃ w t,
    transition.Run (fun w e v => Watched.step w e = some v) (fun _ _ => True)
      ⟨0, { Mac.boot Env.slow with DutyCycleOn := true }⟩ joinUnanswered w ∧
      step w.state .macStateCheckTimer = some t ∧
      (joinsSent w.state t).map Transmission.bytes =
        (joinsSent (Mac.boot Env.slow) w.state).map Transmission.bytes ∧
      ¬ FreshJoin w.aired w.state t := by
  obtain ⟨w, hrun, hw⟩ := transition.Run.of_after Watched.step (fun _ _ => True)
    ⟨0, { Mac.boot Env.slow with DutyCycleOn := true }⟩ joinUnanswered
    (fun w => (step w.state .macStateCheckTimer).any fun t =>
      decide ((joinsSent w.state t).map Transmission.bytes =
          (joinsSent (Mac.boot Env.slow) w.state).map Transmission.bytes) &&
        (decide (joinsSent w.state t ≠ []) && decide (t.board.draws ≤ w.aired)))
    (by decide +kernel)
  obtain ⟨t, ht, hsent⟩ := (Option.any_eq_true _ _).mp hw
  rw [Bool.and_eq_true, Bool.and_eq_true, decide_eq_true_iff, decide_eq_true_iff,
    decide_eq_true_iff] at hsent
  obtain ⟨hsame, hsome, hdraws⟩ := hsent
  refine ⟨w, t, hrun, ht, hsame, ?_⟩
  rintro (hnone | ⟨x, -, hnew, -⟩)
  · exact hsome hnone
  · exact absurd hnew (Nat.not_lt.mpr hdraws)

end loranode.mac
