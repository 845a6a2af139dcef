import LoRaNode.Mac.Stream

namespace loranode.mac

/-- What the commands of the server are for: the parameters, the channels, the duty cycle and
the answers. -/
structure Effect where
  LoRaMacParams : LoRaMacParams_t
  Channels : Nat → ChannelParams_t
  MaxDCycle : UInt8
  AggregatedDCycle : UInt16
  MacCommandsBuffer : Mem
  MacCommandsBufferIndex : UInt8

def Mac.effect (s : Mac) : Effect where
  LoRaMacParams := s.LoRaMacParams
  Channels := s.Channels
  MaxDCycle := s.MaxDCycle
  AggregatedDCycle := s.AggregatedDCycle
  MacCommandsBuffer := s.MacCommandsBuffer
  MacCommandsBufferIndex := s.MacCommandsBufferIndex

/-- `ProcessMacCommands` ends on both payloads, with the same effect. -/
def SameEffect (s : Mac) (macIndex commandsSize snr : UInt8) (payload payload' : Mem) : Prop :=
  ∃ t t', ProcessMacCommands s payload macIndex commandsSize snr = some t ∧
    ProcessMacCommands s payload' macIndex commandsSize snr = some t' ∧ t'.effect = t.effect

/-- The two payloads agree on the bytes that the commands own. -/
def AgreeOn (payload payload' : Mem) (macIndex commandsSize : UInt8) : Prop :=
  ∀ i, macIndex.toNat ≤ i → i < commandsSize.toNat → payload' i = payload i

/-- The known bytes of a payload: whole commands, and possibly a code that ends the loop. -/
structure Known where
  commands : List SrvCommand
  stop : Option UInt8
  unknown : ∀ b ∈ stop, LoRaMacSrvCmd_t.ofCode b = none

def Known.bytes (known : Known) : List UInt8 :=
  stream known.commands ++ known.stop.toList

/-- The loop has the turns that it needs for a stream in a payload, and one more. -/
theorem exists_fuel_eq (commands : List SrvCommand) (h : (stream commands).length ≤ 255) :
    ∃ fuel, 257 - commands.length = fuel + 1 := by
  have hcount := length_le_length_stream commands
  exact ⟨256 - commands.length, by omega⟩

/-- Whole commands up to `commandsSize`, or up to a code that ends the loop, are processed
without another byte. -/
theorem ProcessMacCommands_of_known (s : Mac) (known : Known) {payload : Mem}
    {macIndex commandsSize : UInt8} (snr : UInt8)
    (hread : payload.read macIndex.toNat known.bytes.length = known.bytes)
    (hfits : known.bytes.length ≤ commandsSize.toNat - macIndex.toNat)
    (hend : commandsSize.toNat ≤ macIndex.toNat + (stream known.commands).length ∨
      known.stop.isSome = true) :
    ProcessMacCommands s payload macIndex commandsSize snr =
      some (known.commands.foldl (fun s c => c.apply snr s) s) := by
  have hsize := commandsSize.toNat_lt
  rw [Known.bytes, List.length_append] at hfits hread
  rw [Mem.read_add] at hread
  obtain ⟨hown, hstop⟩ := List.append_inj hread (Mem.length_read ..)
  by_cases hempty : commandsSize.toNat ≤ macIndex.toNat
  · -- nothing is known, and nothing is processed
    have hcount := length_le_length_stream known.commands
    have hnone : known.commands = [] := List.eq_nil_of_length_eq_zero (by omega)
    have hover : ¬macIndex < commandsSize := fun h => by
      have := UInt8.lt_iff_toNat_lt.mp h
      omega
    rw [hnone, ProcessMacCommands, processMacCommandsFrom, if_neg hover]
    rfl
  · obtain ⟨fuel, hfuel⟩ := exists_fuel_eq known.commands (by omega)
    have hindex : (macIndex + UInt8.ofNat (stream known.commands).length).toNat =
        macIndex.toNat + (stream known.commands).length := by
      simp
      omega
    rw [ProcessMacCommands, processMacCommandsFrom_stream known.commands payload commandsSize snr 257
      s macIndex (by omega) hown, hfuel, processMacCommandsFrom]
    cases hcode : known.stop with
    | none =>
      have hlast : commandsSize.toNat ≤ macIndex.toNat + (stream known.commands).length := by
        simpa [hcode] using hend
      rw [if_neg]
      intro hlt
      have := UInt8.lt_iff_toNat_lt.mp hlt
      omega
    | some b =>
      rw [hcode] at hfits hstop
      have hlength : (some b).toList.length = 1 := rfl
      have hlt : macIndex + UInt8.ofNat (stream known.commands).length < commandsSize :=
        UInt8.lt_iff_toNat_lt.mpr (by omega)
      have hbyte : payload (macIndex.toNat + (stream known.commands).length) = b := by
        simpa [Mem.read] using hstop
      rw [if_pos hlt, hindex, hbyte, known.unknown b hcode]

/-- Whole commands, and the code of a duty cycle request as the last byte: the duty cycle is
the byte behind `commandsSize`. -/
theorem processMacCommandsFrom_cut (commands : List SrvCommand) (payload : Mem)
    {commandsSize : UInt8} (snr : UInt8) (fuel : Nat) (s : Mac) {macIndex : UInt8}
    (hend : macIndex.toNat + (stream commands).length + 1 = commandsSize.toNat)
    (hread : payload.read macIndex.toNat (stream commands).length = stream commands)
    (hcode : payload (macIndex.toNat + (stream commands).length) =
      LoRaMacSrvCmd_t.SRV_MAC_DUTY_CYCLE_REQ.code) :
    processMacCommandsFrom payload commandsSize snr fuel s macIndex =
      processMacCommandsFrom payload commandsSize snr (fuel - commands.length - 1)
        (dutyCycleReq (commands.foldl (fun s c => c.apply snr s) s) payload commandsSize).2
        (commandsSize + 1) := by
  have hsize := commandsSize.toNat_lt
  rw [processMacCommandsFrom_stream commands payload commandsSize snr fuel s macIndex (by omega)
    hread]
  have hindex : (macIndex + UInt8.ofNat (stream commands).length).toNat =
      macIndex.toNat + (stream commands).length := by
    simp
    omega
  have hnext : macIndex + UInt8.ofNat (stream commands).length + 1 = commandsSize := by
    apply UInt8.toNat.inj
    rw [UInt8.toNat_add, hindex]
    change (macIndex.toNat + (stream commands).length + 1) % 256 = commandsSize.toNat
    omega
  cases fuel - commands.length with
  | zero => rfl
  | succ fuel =>
    have hlt : macIndex + UInt8.ofNat (stream commands).length < commandsSize :=
      UInt8.lt_iff_toNat_lt.mpr (by omega)
    rw [processMacCommandsFrom, if_pos hlt, hindex, hcode, LoRaMacSrvCmd_t.ofCode_code]
    simp only [processMacCommand, hnext]
    rfl

theorem MaxDCycle_dutyCycleReq (s : Mac) (payload : Mem) (macIndex : UInt8) :
    (dutyCycleReq s payload macIndex).2.MaxDCycle = payload macIndex.toNat := by
  unfold dutyCycleReq AddMacCommand
  dsimp only
  split <;> rfl

/-- Where the payload starts at index 0 and ends at 255, the index comes back to 0 behind the
request, and the loop does not end. -/
theorem processMacCommandsFrom_cut_eq_none (commands : List SrvCommand) (payload : Mem)
    (snr : UInt8) (fuel : Nat) (s : Mac) (hend : (stream commands).length = 254)
    (hread : payload.read 0 254 = stream commands)
    (hcode : payload 254 = LoRaMacSrvCmd_t.SRV_MAC_DUTY_CYCLE_REQ.code) :
    processMacCommandsFrom payload 255 snr fuel s 0 = none := by
  induction fuel using Nat.strong_induction_on generalizing s with
  | _ fuel ih =>
    cases fuel with
    | zero => rfl
    | succ fuel =>
      rw [processMacCommandsFrom_cut commands payload snr (fuel + 1) s (by rw [hend]; rfl)
        (by rw [hend]; exact hread) (by rw [hend]; exact hcode)]
      exact ih _ (by omega) _

/-- Otherwise the loop ends behind the request, if need be at the byte at index 0. -/
theorem ProcessMacCommands_cut (commands : List SrvCommand) {payload : Mem}
    {commandsSize : UInt8} (snr : UInt8) (s : Mac) {macIndex : UInt8}
    (hend : macIndex.toNat + (stream commands).length + 1 = commandsSize.toNat)
    (hread : payload.read macIndex.toNat (stream commands).length = stream commands)
    (hcode : payload (macIndex.toNat + (stream commands).length) =
      LoRaMacSrvCmd_t.SRV_MAC_DUTY_CYCLE_REQ.code)
    (hzero : commandsSize = 255 → payload 0 = 0) :
    ∃ t, ProcessMacCommands s payload macIndex commandsSize snr = some t ∧
      t.MaxDCycle = payload commandsSize.toNat := by
  have hsize := commandsSize.toNat_lt
  have hcount := length_le_length_stream commands
  obtain ⟨fuel, hfuel⟩ : ∃ fuel, 257 - commands.length - 1 = fuel + 1 :=
    ⟨255 - commands.length, by omega⟩
  refine ⟨_, ?_, MaxDCycle_dutyCycleReq (commands.foldl (fun s c => c.apply snr s) s) payload
    commandsSize⟩
  rw [ProcessMacCommands, processMacCommandsFrom_cut commands payload snr 257 s hend hread hcode,
    hfuel, processMacCommandsFrom]
  by_cases hlast : commandsSize = 255
  · subst hlast
    have hunknown : LoRaMacSrvCmd_t.ofCode (payload (255 + 1 : UInt8).toNat) = none := by
      have hbyte : payload (255 + 1 : UInt8).toNat = 0 := hzero rfl
      rw [hbyte]
      rfl
    rw [if_pos (by decide), hunknown]
  · rw [if_neg]
    intro hlt
    have hne : commandsSize.toNat ≠ 255 := fun h => hlast (UInt8.toNat.inj h)
    have hlt' := UInt8.lt_iff_toNat_lt.mp hlt
    rw [UInt8.toNat_add] at hlt'
    simp at hlt'
    omega

theorem size_statusRequest :
    ([] : List UInt8).length = LoRaMacSrvCmd_t.SRV_MAC_DEV_STATUS_REQ.size := rfl

/-- A request without a parameter. -/
def statusRequest : SrvCommand := ⟨.SRV_MAC_DEV_STATUS_REQ, [], size_statusRequest⟩

theorem stream_append (commands commands' : List SrvCommand) :
    stream (commands ++ commands') = stream commands ++ stream commands' :=
  List.flatMap_append

theorem length_stream_statusRequests (n : Nat) :
    (stream (List.replicate n statusRequest)).length = n := by
  induction n with
  | zero => rfl
  | succ n ih =>
    have hcons : stream (List.replicate (n + 1) statusRequest) =
        statusRequest.bytes ++ stream (List.replicate n statusRequest) := rfl
    rw [hcons, List.length_append, ih, Nat.add_comm]
    rfl

/-- The whole commands of a payload that is cut short: the known ones, and status requests up to
its last byte. -/
def cutCommands (known : Known) (macIndex commandsSize : UInt8) : List SrvCommand :=
  known.commands ++ List.replicate
    (commandsSize.toNat - 1 - macIndex.toNat - (stream known.commands).length) statusRequest

/-- A payload whose last byte is the code of a duty cycle request, with `x` behind it. -/
def cutPayload (known : Known) (macIndex commandsSize x : UInt8) : Mem :=
  Mem.write (fun _ => 0) macIndex.toNat
    (stream (cutCommands known macIndex commandsSize) ++
      [LoRaMacSrvCmd_t.SRV_MAC_DUTY_CYCLE_REQ.code, x])

theorem length_stream_cutCommands {known : Known} {macIndex commandsSize : UInt8}
    (hleft : macIndex.toNat + (stream known.commands).length < commandsSize.toNat) :
    macIndex.toNat + (stream (cutCommands known macIndex commandsSize)).length + 1 =
      commandsSize.toNat := by
  rw [cutCommands, stream_append, List.length_append, length_stream_statusRequests]
  omega

theorem cutPayload_read (known : Known) (macIndex commandsSize x : UInt8) :
    let commands := cutCommands known macIndex commandsSize
    let payload := cutPayload known macIndex commandsSize x
    payload.read macIndex.toNat (stream commands).length = stream commands ∧
      payload (macIndex.toNat + (stream commands).length) =
        LoRaMacSrvCmd_t.SRV_MAC_DUTY_CYCLE_REQ.code ∧
      payload (macIndex.toNat + (stream commands).length + 1) = x := by
  intro commands payload
  have hread : payload.read macIndex.toNat ((stream commands).length + 2) =
      stream commands ++ [LoRaMacSrvCmd_t.SRV_MAC_DUTY_CYCLE_REQ.code, x] := by
    have hself := Mem.read_write_self (fun _ => 0) macIndex.toNat
      (stream commands ++ [LoRaMacSrvCmd_t.SRV_MAC_DUTY_CYCLE_REQ.code, x])
    rwa [List.length_append] at hself
  rw [Mem.read_add] at hread
  obtain ⟨hwhole, hcut⟩ := List.append_inj hread (Mem.length_read ..)
  rw [Mem.read_succ, Mem.read_succ] at hcut
  exact ⟨hwhole, (List.cons.inj hcut).1, (List.cons.inj (List.cons.inj hcut).2).1⟩

/-- The payloads differ in the byte behind the last only. -/
theorem agreeOn_cutPayload {known : Known} {macIndex commandsSize : UInt8}
    (hleft : macIndex.toNat + (stream known.commands).length < commandsSize.toNat) (x y : UInt8) :
    AgreeOn (cutPayload known macIndex commandsSize x) (cutPayload known macIndex commandsSize y)
      macIndex commandsSize := by
  intro i hlow hhigh
  have hlength := length_stream_cutCommands hleft
  obtain ⟨k, rfl⟩ := Nat.exists_eq_add_of_le hlow
  obtain ⟨hwhole, hcode, -⟩ := cutPayload_read known macIndex commandsSize x
  obtain ⟨hwhole', hcode', -⟩ := cutPayload_read known macIndex commandsSize y
  by_cases hk : k < (stream (cutCommands known macIndex commandsSize)).length
  · rw [Mem.read_eq_iff.mp hwhole k hk, Mem.read_eq_iff.mp hwhole' k hk]
  · obtain rfl : k = (stream (cutCommands known macIndex commandsSize)).length := by omega
    rw [hcode, hcode']

theorem cutPayload_known {known : Known} {macIndex commandsSize x : UInt8}
    (hstop : known.stop = none) :
    (cutPayload known macIndex commandsSize x).read macIndex.toNat known.bytes.length =
      known.bytes := by
  have hwhole := (cutPayload_read known macIndex commandsSize x).1
  rw [cutCommands, stream_append, List.length_append, Mem.read_add] at hwhole
  have hbytes : known.bytes = stream known.commands := by simp [Known.bytes, hstop]
  rw [hbytes]
  exact (List.append_inj hwhole (Mem.length_read ..)).1

/-- The duty cycle that the cut request sets is the byte behind the payload, unless the loop
does not end at all. -/
theorem not_sameEffect_cutPayload (s : Mac) {macIndex commandsSize : UInt8} (snr : UInt8)
    {known : Known}
    (hleft : macIndex.toNat + (stream known.commands).length < commandsSize.toNat) :
    ¬SameEffect s macIndex commandsSize snr (cutPayload known macIndex commandsSize 0)
      (cutPayload known macIndex commandsSize 1) := by
  rintro ⟨t, t', hrun, hrun', heffect⟩
  have hlength := length_stream_cutCommands hleft
  obtain ⟨hwhole, hcode, hx⟩ := cutPayload_read known macIndex commandsSize 0
  obtain ⟨hwhole', hcode', hx'⟩ := cutPayload_read known macIndex commandsSize 1
  by_cases hround : macIndex = 0 ∧ commandsSize = 255
  · obtain ⟨rfl, rfl⟩ := hround
    have hall : (stream (cutCommands known 0 255)).length = 254 := by
      change 0 + (stream (cutCommands known 0 255)).length + 1 = 255 at hlength
      omega
    have hnone := processMacCommandsFrom_cut_eq_none (cutCommands known 0 255)
      (cutPayload known 0 255 0) snr 257 s hall (by rw [← hall]; exact hwhole)
      (by rw [← hcode, hall]; rfl)
    rw [ProcessMacCommands, hnone] at hrun
    cases hrun
  · have hzero (x : UInt8) (h : commandsSize = 255) : cutPayload known macIndex commandsSize x 0 = 0 := by
      have hpos : 0 < macIndex.toNat := by
        by_contra hnot
        exact hround ⟨UInt8.toNat.inj (Nat.eq_zero_of_not_pos hnot), h⟩
      exact Mem.write_of_lt hpos
    obtain ⟨u, hu, hcycle⟩ := ProcessMacCommands_cut _ snr s hlength hwhole hcode (hzero 0)
    obtain ⟨u', hu', hcycle'⟩ := ProcessMacCommands_cut _ snr s hlength hwhole' hcode' (hzero 1)
    obtain rfl : u = t := Option.some.inj (hu.symm.trans hrun)
    obtain rfl : u' = t' := Option.some.inj (hu'.symm.trans hrun')
    have hsame : u'.MaxDCycle = u.MaxDCycle := congrArg Effect.MaxDCycle heffect
    rw [hcycle, hcycle', ← hlength, hx, hx'] at hsame
    cases hsame

/-- Two payloads that begin with the known bytes and agree on those that the commands own have the
same effect, exactly when the known bytes are all of them or end the loop. As soon as one byte is
left, a command that is cut short there takes its parameters from behind the end. -/
theorem sameEffect_iff (s : Mac) (macIndex commandsSize snr : UInt8) (known : Known)
    (hfits : known.bytes.length ≤ commandsSize.toNat - macIndex.toNat) :
    (∀ payload payload' : Mem, payload.read macIndex.toNat known.bytes.length = known.bytes →
        AgreeOn payload payload' macIndex commandsSize →
          SameEffect s macIndex commandsSize snr payload payload') ↔
      commandsSize.toNat ≤ macIndex.toNat + (stream known.commands).length ∨
        known.stop.isSome = true := by
  constructor
  · intro hsame
    by_contra hcut
    rw [not_or, Nat.not_le, Option.not_isSome_iff_eq_none] at hcut
    obtain ⟨hleft, hstop⟩ := hcut
    exact not_sameEffect_cutPayload s snr hleft
      (hsame _ _ (cutPayload_known hstop) (agreeOn_cutPayload hleft 0 1))
  · intro hend payload payload' hread hagree
    have hread' : payload'.read macIndex.toNat known.bytes.length = known.bytes := by
      refine (Mem.read_eq_read_iff.mpr fun i hi => ?_).trans hread
      exact hagree _ (by omega) (by omega)
    exact ⟨_, _, ProcessMacCommands_of_known s known snr hread hfits hend,
      ProcessMacCommands_of_known s known snr hread' hfits hend, rfl⟩

theorem sameEffect_iff_threeCommands :
    (∀ payload payload' : Mem, payload.read 0 12 = stream threeCommands →
        AgreeOn payload payload' 0 12 →
          SameEffect (Mac.personalised Env.plain) 0 12 7 payload payload') ↔
      12 ≤ 0 + (stream threeCommands).length ∨ (none : Option UInt8).isSome = true :=
  sameEffect_iff (Mac.personalised Env.plain) 0 12 7 ⟨threeCommands, none, by simp⟩ (by decide)

/-- A frame whose options are the single byte 4, and the same frame on another port: the port
becomes the duty cycle. -/
theorem not_sameEffect_port :
    let payload : Mem := fun i => [0x60, 1, 0, 0, 0, 1, 1, 0, 0x04, 1].getD i 0
    let payload' : Mem := fun i => [0x60, 1, 0, 0, 0, 1, 1, 0, 0x04, 2].getD i 0
    AgreeOn payload payload' 8 9 ∧
      (ProcessMacCommands (Mac.personalised Env.plain) payload 8 9 7).any
        (fun t => t.MaxDCycle == 1) = true ∧
      (ProcessMacCommands (Mac.personalised Env.plain) payload' 8 9 7).any
        (fun t => t.MaxDCycle == 2) = true ∧
      ¬SameEffect (Mac.personalised Env.plain) 8 9 7 payload payload' := by
  intro payload payload'
  have hone : (ProcessMacCommands (Mac.personalised Env.plain) payload 8 9 7).any
      (fun t => t.MaxDCycle == 1) = true := by decide +kernel
  have htwo : (ProcessMacCommands (Mac.personalised Env.plain) payload' 8 9 7).any
      (fun t => t.MaxDCycle == 2) = true := by decide +kernel
  refine ⟨?_, hone, htwo, ?_⟩
  · intro i hlow hhigh
    obtain rfl : i = 8 := Nat.le_antisymm (Nat.le_of_lt_succ hhigh) hlow
    rfl
  · rintro ⟨t, t', hrun, hrun', heffect⟩
    have hsame : t'.MaxDCycle = t.MaxDCycle := congrArg Effect.MaxDCycle heffect
    rw [hrun, Option.any_some, beq_iff_eq] at hone
    rw [hrun', Option.any_some, beq_iff_eq] at htwo
    rw [hone, htwo] at hsame
    cases hsame

end loranode.mac
