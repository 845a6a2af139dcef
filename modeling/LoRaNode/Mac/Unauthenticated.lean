import LoRaNode.Mac.Frame

namespace loranode.mac

open LoRaMacFrameType_t LoRaMacEventInfoStatus_t

/-- What a frame of unknown origin must not change: the keys and the address of the
session, the parameters and the channels, the counters, and the MAC commands that wait
for an uplink. -/
structure Session where
  LoRaMacNwkSKey : List UInt8
  LoRaMacAppSKey : List UInt8
  LoRaMacDevAddr : UInt32
  LoRaMacNetID : UInt32
  IsLoRaMacNetworkJoined : Bool
  LoRaMacParams : LoRaMacParams_t
  Channels : Nat → ChannelParams_t
  MaxDCycle : UInt8
  UpLinkCounter : UInt32
  DownLinkCounter : UInt32
  MulticastChannels : List MulticastParams_t
  AdrAckCounter : UInt32
  SrvAckRequested : Bool
  MacCommandsBuffer : Mem
  MacCommandsBufferIndex : UInt8
  MacCommandsBufferToRepeat : Mem
  MacCommandsBufferToRepeatIndex : UInt8

def Mac.session (s : Mac) : Session where
  LoRaMacNwkSKey := s.LoRaMacNwkSKey
  LoRaMacAppSKey := s.LoRaMacAppSKey
  LoRaMacDevAddr := s.LoRaMacDevAddr
  LoRaMacNetID := s.LoRaMacNetID
  IsLoRaMacNetworkJoined := s.IsLoRaMacNetworkJoined
  LoRaMacParams := s.LoRaMacParams
  Channels := s.Channels
  MaxDCycle := s.MaxDCycle
  UpLinkCounter := s.UpLinkCounter
  DownLinkCounter := s.DownLinkCounter
  MulticastChannels := s.MulticastChannels
  AdrAckCounter := s.AdrAckCounter
  SrvAckRequested := s.SrvAckRequested
  MacCommandsBuffer := s.MacCommandsBuffer
  MacCommandsBufferIndex := s.MacCommandsBufferIndex
  MacCommandsBufferToRepeat := s.MacCommandsBufferToRepeat
  MacCommandsBufferToRepeatIndex := s.MacCommandsBufferToRepeatIndex

theorem session_eq_of_core_eq {s t : Mac} (h : t.core = s.core) : t.session = s.session := by
  change t.core.session = s.core.session
  rw [h]

/-- The frame is not from the network: a join-accept whose MIC is wrong; a data frame that is
for nobody here, or whose MIC is wrong; a proprietary frame, or one of any other type. -/
def Unauthenticated (s : Mac) (frame : RxFrame) : Prop :=
  match frame.macHdr with
  | FRAME_TYPE_JOIN_ACCEPT => joinMicRx s frame ≠ joinMic s frame
  | FRAME_TYPE_DATA_CONFIRMED_DOWN | FRAME_TYPE_DATA_UNCONFIRMED_DOWN =>
    ∀ dest, destination s frame.address = some dest → frame.micRx ≠ dataMic s frame dest
  | _ => True

theorem core_receiveJoinAccept {s : Mac} {frame : RxFrame}
    (hmic : joinMicRx s frame ≠ joinMic s frame) : (receiveJoinAccept s frame).core = s.core := by
  unfold receiveJoinAccept
  dsimp only
  by_cases hjoined : s.IsLoRaMacNetworkJoined = true
  · rw [if_pos hjoined]
  · rw [if_neg hjoined, if_neg hmic]
    rfl

/-- A data frame without a valid MIC is refused on one of three ways. -/
theorem receiveData_of_forged {s : Mac} {frame : RxFrame} (snr : Int)
    (hmic : ∀ dest, destination s frame.address = some dest → frame.micRx ≠ dataMic s frame dest) :
    ∃ t, receiveData s frame snr = some t ∧ t.core = s.core := by
  unfold receiveData
  cases hdest : destination s frame.address with
  | none => exact ⟨_, rfl, (refused_abortReception s _).core⟩
  | some dest =>
    dsimp only
    split
    · exact ⟨_, rfl, (refused_abortReception _ _).core⟩
    · rw [if_neg (hmic dest hdest)]
      exact ⟨_, rfl, (refused_abortReception s _).core⟩

theorem OnRadioRxDone_of_unauthenticated {s : Mac} {frame : RxFrame} (rssi snr : Int)
    (h : Unauthenticated s frame) :
    ∃ t, OnRadioRxDone s frame rssi snr = some t ∧ t.core = s.core := by
  have hbegin := (refused_beginReception s rssi snr).core
  obtain ⟨hjoin, hjoinRx⟩ := joinMic_beginReception s frame rssi snr
  have hdata (hforged : ∀ dest, destination s frame.address = some dest →
      frame.micRx ≠ dataMic s frame dest) :
      ∃ t, receiveData (beginReception s rssi snr) frame snr = some t ∧ t.core = s.core := by
    rw [← hbegin]
    apply receiveData_of_forged
    intro dest hdest
    rw [destination_eq_of_core_eq hbegin] at hdest
    rw [dataMic_eq_of_core_eq hbegin]
    exact hforged dest hdest
  unfold Unauthenticated at h
  unfold OnRadioRxDone
  dsimp only
  cases htype : frame.macHdr <;> rw [htype] at h <;> dsimp only at h ⊢
  case FRAME_TYPE_JOIN_ACCEPT =>
    rw [← hjoin, ← hjoinRx] at h
    refine ⟨_, rfl, ?_⟩
    rw [(refused_endReception _).core, core_receiveJoinAccept h, hbegin]
  case FRAME_TYPE_DATA_CONFIRMED_DOWN => exact hdata h
  case FRAME_TYPE_DATA_UNCONFIRMED_DOWN => exact hdata h
  case FRAME_TYPE_PROPRIETARY =>
    refine ⟨_, rfl, ?_⟩
    rw [(refused_endReception _).core]
    exact hbegin
  all_goals
    refine ⟨_, rfl, ?_⟩
    rw [(refused_endReception _).core, (refused_abortReception _ _).core, hbegin]

/-- A frame that is not authentic leaves the session as it is: `OnRadioRxDone` returns, and
the keys, the addresses, the parameters, the counters and the MAC commands are unchanged.
The two MICs are any functions of what they are computed from. -/
theorem session_of_unauthenticated (s : Mac) (frame : RxFrame) (rssi snr : Int)
    (h : Unauthenticated s frame) :
    ∃ t, OnRadioRxDone s frame rssi snr = some t ∧ t.session = s.session := by
  obtain ⟨t, hdone, hcore⟩ := OnRadioRxDone_of_unauthenticated rssi snr h
  exact ⟨t, hdone, session_eq_of_core_eq hcore⟩

theorem session_of_unauthenticated_foreignFrame :
    ∃ t, OnRadioRxDone (Mac.personalised Env.plain) foreignFrame 0 0 = some t ∧
      t.session = (Mac.personalised Env.plain).session := by
  apply session_of_unauthenticated
  intro dest hdest
  have hnone : destination (Mac.personalised Env.plain) foreignFrame.address = none := by decide
  rw [hnone] at hdest
  cases hdest

end loranode.mac
