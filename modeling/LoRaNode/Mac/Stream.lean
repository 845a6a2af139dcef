import LoRaNode.Mac.Events

namespace loranode.mac

def LoRaMacSrvCmd_t.code : LoRaMacSrvCmd_t → UInt8
  | SRV_MAC_LINK_CHECK_ANS => 0x02
  | SRV_MAC_LINK_ADR_REQ => 0x03
  | SRV_MAC_DUTY_CYCLE_REQ => 0x04
  | SRV_MAC_RX_PARAM_SETUP_REQ => 0x05
  | SRV_MAC_DEV_STATUS_REQ => 0x06
  | SRV_MAC_NEW_CHANNEL_REQ => 0x07
  | SRV_MAC_RX_TIMING_SETUP_REQ => 0x08

/-- How many bytes follow the code of a command. -/
def LoRaMacSrvCmd_t.size : LoRaMacSrvCmd_t → Nat
  | SRV_MAC_LINK_CHECK_ANS => 2
  | SRV_MAC_LINK_ADR_REQ => 4
  | SRV_MAC_DUTY_CYCLE_REQ => 1
  | SRV_MAC_RX_PARAM_SETUP_REQ => 4
  | SRV_MAC_DEV_STATUS_REQ => 0
  | SRV_MAC_NEW_CHANNEL_REQ => 5
  | SRV_MAC_RX_TIMING_SETUP_REQ => 1

@[simp] theorem LoRaMacSrvCmd_t.ofCode_code (cmd : LoRaMacSrvCmd_t) : ofCode cmd.code = some cmd := by
  cases cmd <;> rfl

theorem LoRaMacSrvCmd_t.size_le (cmd : LoRaMacSrvCmd_t) : cmd.size ≤ 5 := by
  cases cmd <;> decide

/-- Every handler moves the index behind the bytes of its command, in all its branches. -/
theorem processMacCommand_fst (s : Mac) (payload : Mem) (macIndex snr : UInt8)
    (cmd : LoRaMacSrvCmd_t) :
    (processMacCommand s payload macIndex snr cmd).1 = macIndex + UInt8.ofNat cmd.size := by
  cases cmd with
  | SRV_MAC_LINK_ADR_REQ =>
    simp only [processMacCommand, linkAdrReq]
    split <;> rfl
  | SRV_MAC_DEV_STATUS_REQ =>
    simp only [processMacCommand, devStatusReq, LoRaMacSrvCmd_t.size]
    split <;> simp
  | _ => rfl

/-- One turn of the loop moves on by the whole command, without a wrap below 250. -/
theorem toNat_processMacCommand_fst (s : Mac) (payload : Mem) {macIndex : UInt8} (snr : UInt8)
    (cmd : LoRaMacSrvCmd_t) (hlt : macIndex.toNat < 250) :
    (processMacCommand s payload (macIndex + 1) snr cmd).1.toNat =
      macIndex.toNat + 1 + cmd.size := by
  have hsize := cmd.size_le
  rw [processMacCommand_fst]
  simp
  omega

theorem processMacCommandsFrom_isSome (payload : Mem) {commandsSize : UInt8} (snr : UInt8)
    (hsize : commandsSize.toNat ≤ 250) {fuel : Nat} (s : Mac) (macIndex : UInt8)
    (hfuel : commandsSize.toNat - macIndex.toNat < fuel) :
    ∃ t, processMacCommandsFrom payload commandsSize snr fuel s macIndex = some t := by
  induction fuel generalizing s macIndex with
  | zero => omega
  | succ fuel ih =>
    rw [processMacCommandsFrom]
    by_cases hlt : macIndex < commandsSize
    · have hlt' := UInt8.lt_iff_toNat_lt.mp hlt
      rw [if_pos hlt]
      cases LoRaMacSrvCmd_t.ofCode (payload macIndex.toNat) with
      | none => exact ⟨s, rfl⟩
      | some cmd =>
        have hmoved := toNat_processMacCommand_fst s payload snr cmd
          (show macIndex.toNat < 250 by omega)
        exact ih (processMacCommand s payload (macIndex + 1) snr cmd).2
          (processMacCommand s payload (macIndex + 1) snr cmd).1 (by omega)
    · exact ⟨s, if_neg hlt⟩

/-- The loop ends on every payload whose end is not within one command of 256. -/
theorem ProcessMacCommands_isSome (s : Mac) (payload : Mem) (macIndex : UInt8)
    {commandsSize : UInt8} (snr : UInt8) (hsize : commandsSize.toNat ≤ 250) :
    ∃ t, ProcessMacCommands s payload macIndex commandsSize snr = some t :=
  processMacCommandsFrom_isSome payload snr hsize s macIndex (by omega)

/-- A handler reads nothing but the bytes of its command. -/
theorem processMacCommand_snd_congr (s : Mac) {payload payload' : Mem} {macIndex macIndex' : UInt8}
    (snr : UInt8) (cmd : LoRaMacSrvCmd_t)
    (hsame : ∀ k < cmd.size, payload (macIndex + UInt8.ofNat k).toNat =
      payload' (macIndex' + UInt8.ofNat k).toNat) :
    (processMacCommand s payload macIndex snr cmd).2 =
      (processMacCommand s payload' macIndex' snr cmd).2 := by
  have hfirst (h : 0 < cmd.size) : payload macIndex.toNat = payload' macIndex'.toNat := by
    simpa using hsame 0 h
  cases cmd with
  | SRV_MAC_LINK_CHECK_ANS =>
    have hsecond := hsame 1 (by decide)
    simp only [UInt8.reduceOfNat] at hsecond
    simp only [processMacCommand, linkCheckAns, hfirst (by decide), hsecond]
  | SRV_MAC_LINK_ADR_REQ =>
    have h1 := hsame 1 (by decide)
    have h2 := hsame 2 (by decide)
    have h3 := hsame 3 (by decide)
    simp only [UInt8.reduceOfNat] at h1 h2 h3
    simp only [processMacCommand, linkAdrReq, hfirst (by decide), h1, h2, h3]
    split <;> rfl
  | SRV_MAC_DUTY_CYCLE_REQ =>
    simp only [processMacCommand, dutyCycleReq, hfirst (by decide)]
  | SRV_MAC_RX_PARAM_SETUP_REQ =>
    have h1 := hsame 1 (by decide)
    have h2 := hsame 2 (by decide)
    have h3 := hsame 3 (by decide)
    simp only [UInt8.reduceOfNat] at h1 h2 h3
    have h0 := hfirst (by decide)
    -- named bytes, so that both sides are rewritten alike, down to their `Decidable` instances
    generalize hb0 : payload' macIndex'.toNat = b0 at h0
    generalize hb1 : payload' (macIndex' + 1).toNat = b1 at h1
    generalize hb2 : payload' (macIndex' + 2).toNat = b2 at h2
    generalize hb3 : payload' (macIndex' + 3).toNat = b3 at h3
    simp only [processMacCommand, rxParamSetupReq, frequencyAt, h0, h1, h2, h3, hb0, hb1, hb2, hb3]
  | SRV_MAC_DEV_STATUS_REQ =>
    simp only [processMacCommand, devStatusReq]
    split <;> rfl
  | SRV_MAC_NEW_CHANNEL_REQ =>
    have h1 := hsame 1 (by decide)
    have h2 := hsame 2 (by decide)
    have h3 := hsame 3 (by decide)
    have h4 := hsame 4 (by decide)
    simp only [UInt8.reduceOfNat] at h1 h2 h3 h4
    simp only [processMacCommand, newChannelReq, frequencyAt, hfirst (by decide), h1, h2, h3, h4]
  | SRV_MAC_RX_TIMING_SETUP_REQ =>
    simp only [processMacCommand, rxTimingSetupReq, hfirst (by decide)]

/-- The loop of `ProcessMacCommands` with the index at which it stops. -/
def processMacCommandsLoop (payload : Mem) (commandsSize snr : UInt8) :
    (fuel : Nat) → (s : Mac) → (macIndex : UInt8) → Option (UInt8 × Mac)
  | 0, _, _ => none
  | fuel + 1, s, macIndex =>
    if macIndex < commandsSize then
      match LoRaMacSrvCmd_t.ofCode (payload macIndex.toNat) with
      | none => some (macIndex + 1, s)
      | some cmd =>
        let (macIndex, s) := processMacCommand s payload (macIndex + 1) snr cmd
        processMacCommandsLoop payload commandsSize snr fuel s macIndex
    else some (macIndex, s)

theorem processMacCommandsLoop_map_snd (payload : Mem) (commandsSize snr : UInt8) (fuel : Nat)
    (s : Mac) (macIndex : UInt8) :
    (processMacCommandsLoop payload commandsSize snr fuel s macIndex).map Prod.snd =
      processMacCommandsFrom payload commandsSize snr fuel s macIndex := by
  induction fuel generalizing s macIndex with
  | zero => rfl
  | succ fuel ih =>
    unfold processMacCommandsLoop processMacCommandsFrom
    by_cases hlt : macIndex < commandsSize
    · simp only [if_pos hlt]
      cases LoRaMacSrvCmd_t.ofCode (payload macIndex.toNat) with
      | none => rfl
      | some cmd => exact ih _ _
    · simp only [if_neg hlt, Option.map_some]

/-- A command of the server with its full payload. -/
structure SrvCommand where
  cmd : LoRaMacSrvCmd_t
  params : List UInt8
  full : params.length = cmd.size

namespace SrvCommand

def bytes (c : SrvCommand) : List UInt8 :=
  c.cmd.code :: c.params

@[simp] theorem length_bytes (c : SrvCommand) : c.bytes.length = c.cmd.size + 1 := by
  simp [bytes, c.full]

/-- A payload that holds just the command. -/
def payload (c : SrvCommand) : Mem :=
  fun i => c.bytes.getD i 0

/-- What the command does to the state. -/
def apply (c : SrvCommand) (snr : UInt8) (s : Mac) : Mac :=
  (processMacCommand s c.payload 1 snr c.cmd).2

end SrvCommand

/-- The concatenation of the commands. -/
def stream (commands : List SrvCommand) : List UInt8 :=
  commands.flatMap SrvCommand.bytes

/-- Wherever the command stands in a payload, one turn of the loop applies it. -/
theorem processMacCommand_of_read (c : SrvCommand) (s : Mac) {payload : Mem} {macIndex : UInt8}
    (snr : UInt8) (hfits : macIndex.toNat + c.bytes.length ≤ 255)
    (hread : payload.read macIndex.toNat c.bytes.length = c.bytes) :
    LoRaMacSrvCmd_t.ofCode (payload macIndex.toNat) = some c.cmd ∧
      processMacCommand s payload (macIndex + 1) snr c.cmd =
        (macIndex + UInt8.ofNat c.bytes.length, c.apply snr s) := by
  have hbytes := Mem.read_eq_iff.mp hread
  rw [c.length_bytes] at hfits hbytes
  constructor
  · have hcode := hbytes 0 (by omega)
    rw [Nat.add_zero] at hcode
    rw [hcode]
    exact c.cmd.ofCode_code
  · apply Prod.ext
    · rw [processMacCommand_fst, c.length_bytes]
      apply UInt8.toNat.inj
      simp
      omega
    · apply processMacCommand_snd_congr
      intro k hk
      have hbyte := hbytes (k + 1) (by omega)
      have hindex : (macIndex + 1 + UInt8.ofNat k).toNat = macIndex.toNat + (k + 1) := by
        simp
        omega
      have hown : (1 + UInt8.ofNat k).toNat = k + 1 := by
        simp
        omega
      rw [hindex, hown, hbyte]
      rfl

/-- The loop applies the commands of a stream in order, and stops behind the last. The
induction is on the commands that are left from `macIndex` on. -/
theorem processMacCommandsLoop_stream (commands : List SrvCommand) (payload : Mem)
    (commandsSize snr : UInt8) {fuel : Nat} (s : Mac) (macIndex : UInt8)
    (hfuel : commands.length < fuel)
    (hend : macIndex.toNat + (stream commands).length = commandsSize.toNat)
    (hread : payload.read macIndex.toNat (stream commands).length = stream commands) :
    processMacCommandsLoop payload commandsSize snr fuel s macIndex =
      some (commandsSize, commands.foldl (fun s c => c.apply snr s) s) := by
  induction commands generalizing fuel s macIndex with
  | nil =>
    obtain ⟨fuel, rfl⟩ := Nat.exists_eq_succ_of_ne_zero (Nat.ne_of_gt hfuel)
    have hindex : macIndex = commandsSize := UInt8.toNat.inj hend
    simp [processMacCommandsLoop, hindex]
  | cons c commands ih =>
    obtain ⟨fuel, rfl⟩ := Nat.exists_eq_succ_of_ne_zero (Nat.ne_of_gt (Nat.zero_lt_of_lt hfuel))
    have hcons : stream (c :: commands) = c.bytes ++ stream commands := rfl
    rw [hcons, List.length_append] at hend hread
    rw [Mem.read_add] at hread
    obtain ⟨hown, hrest⟩ := List.append_inj hread (Mem.length_read ..)
    have hsize := commandsSize.toNat_lt
    have hbytes := c.length_bytes
    obtain ⟨hcode, hturn⟩ := processMacCommand_of_read c s snr (by omega) hown
    have hlt : macIndex < commandsSize := UInt8.lt_iff_toNat_lt.mpr (by omega)
    have hnext : (macIndex + UInt8.ofNat c.bytes.length).toNat =
        macIndex.toNat + c.bytes.length := by
      simp
      omega
    rw [processMacCommandsLoop, if_pos hlt, hcode]
    simp only [hturn, List.foldl_cons]
    apply ih
    · simpa using hfuel
    · rw [hnext]
      omega
    · rw [hnext, hrest]

/-- The loop takes one turn for each command of a stream that ends in the payload, and goes on
behind the last with the fuel that is left. -/
theorem processMacCommandsFrom_stream (commands : List SrvCommand) (payload : Mem)
    (commandsSize snr : UInt8) (fuel : Nat) (s : Mac) (macIndex : UInt8)
    (hend : macIndex.toNat + (stream commands).length ≤ commandsSize.toNat)
    (hread : payload.read macIndex.toNat (stream commands).length = stream commands) :
    processMacCommandsFrom payload commandsSize snr fuel s macIndex =
      processMacCommandsFrom payload commandsSize snr (fuel - commands.length)
        (commands.foldl (fun s c => c.apply snr s) s)
        (macIndex + UInt8.ofNat (stream commands).length) := by
  induction commands generalizing fuel s macIndex with
  | nil => simp [stream]
  | cons c commands ih =>
    cases fuel with
    | zero => simp [processMacCommandsFrom]
    | succ fuel =>
      have hcons : stream (c :: commands) = c.bytes ++ stream commands := rfl
      rw [hcons, List.length_append] at hend hread
      rw [Mem.read_add] at hread
      obtain ⟨hown, hrest⟩ := List.append_inj hread (Mem.length_read ..)
      have hsize := commandsSize.toNat_lt
      have hbytes := c.length_bytes
      obtain ⟨hcode, hturn⟩ := processMacCommand_of_read c s snr (by omega) hown
      have hlt : macIndex < commandsSize := UInt8.lt_iff_toNat_lt.mpr (by omega)
      have hnext : (macIndex + UInt8.ofNat c.bytes.length).toNat =
          macIndex.toNat + c.bytes.length := by
        simp
        omega
      rw [processMacCommandsFrom, if_pos hlt, hcode]
      simp only [hturn, List.foldl_cons]
      rw [ih fuel (c.apply snr s) (macIndex + UInt8.ofNat c.bytes.length) (by rw [hnext]; omega)
        (by rw [hnext, hrest]), hcons, List.length_append, List.length_cons, Nat.add_sub_add_right,
        UInt8.ofNat_add, UInt8.add_assoc]

theorem length_le_length_stream (commands : List SrvCommand) :
    commands.length ≤ (stream commands).length := by
  induction commands with
  | nil => simp
  | cons c commands ih =>
    have hcons : stream (c :: commands) = c.bytes ++ stream commands := rfl
    rw [hcons, List.length_append, c.length_bytes, List.length_cons]
    omega

/-- Runs of `ProcessMacCommands` on each command by itself, one after the other. -/
def processSeparately (snr : UInt8) (commands : List SrvCommand) (s : Mac) : Option Mac :=
  commands.foldlM
    (fun s c => ProcessMacCommands s c.payload 0 (UInt8.ofNat c.bytes.length) snr) s

theorem SrvCommand.ProcessMacCommands_payload (c : SrvCommand) (snr : UInt8) (s : Mac) :
    ProcessMacCommands s c.payload 0 (UInt8.ofNat c.bytes.length) snr = some (c.apply snr s) := by
  have hsize := c.cmd.size_le
  have hstream : stream [c] = c.bytes := by simp [stream]
  have hend : (0 : UInt8).toNat + (stream [c]).length = (UInt8.ofNat c.bytes.length).toNat := by
    rw [hstream, c.length_bytes]
    simp
    omega
  have hread : c.payload.read (0 : UInt8).toNat (stream [c]).length = stream [c] := by
    rw [hstream]
    apply Mem.read_eq_iff.mpr
    simp [SrvCommand.payload]
  have hloop := processMacCommandsLoop_stream [c] c.payload _ snr s 0
    (show [c].length < 257 by simp) hend hread
  rw [ProcessMacCommands, ← processMacCommandsLoop_map_snd, hloop]
  rfl

theorem processSeparately_eq (snr : UInt8) (commands : List SrvCommand) (s : Mac) :
    processSeparately snr commands s = some (commands.foldl (fun s c => c.apply snr s) s) := by
  induction commands generalizing s with
  | nil => rfl
  | cons c commands ih =>
    rw [processSeparately, List.foldlM_cons, c.ProcessMacCommands_payload]
    exact ih _

/-- `ProcessMacCommands` applies the commands of a stream one after the other. -/
theorem ProcessMacCommands_eq_foldl (s : Mac) (snr : UInt8) (commands : List SrvCommand)
    {payload : Mem} {macIndex commandsSize : UInt8}
    (hread : payload.read macIndex.toNat (stream commands).length = stream commands)
    (hend : macIndex.toNat + (stream commands).length = commandsSize.toNat) :
    ProcessMacCommands s payload macIndex commandsSize snr =
      some (commands.foldl (fun s c => c.apply snr s) s) := by
  have hcount := length_le_length_stream commands
  have hsize := commandsSize.toNat_lt
  rw [ProcessMacCommands, ← processMacCommandsLoop_map_snd,
    processMacCommandsLoop_stream commands payload commandsSize snr s macIndex (by omega) hend hread]
  rfl

/-- `ProcessMacCommands` on a concatenation of commands is `ProcessMacCommands` on each of
them in turn, and its index stops exactly behind the last. This covers a payload of
242 bytes, which is read from index 0, as well as `FOpts`, which is read from index 8. -/
theorem ProcessMacCommands_stream (s : Mac) (snr : UInt8) (commands : List SrvCommand)
    (payload : Mem) (macIndex : UInt8)
    (hread : payload.read macIndex.toNat (stream commands).length = stream commands)
    (hfits : macIndex.toNat + (stream commands).length ≤ 255) :
    ∃ s', ProcessMacCommands s payload macIndex
        (macIndex + UInt8.ofNat (stream commands).length) snr = some s' ∧
      processMacCommandsLoop payload (macIndex + UInt8.ofNat (stream commands).length) snr 257 s
        macIndex = some (macIndex + UInt8.ofNat (stream commands).length, s') ∧
      processSeparately snr commands s = some s' := by
  have hend : macIndex.toNat + (stream commands).length =
      (macIndex + UInt8.ofNat (stream commands).length).toNat := by
    simp
    omega
  have hcount := length_le_length_stream commands
  have hloop := processMacCommandsLoop_stream commands payload _ snr s macIndex
    (show commands.length < 257 by omega) hend hread
  exact ⟨_, ProcessMacCommands_eq_foldl s snr commands hread hend, hloop,
    processSeparately_eq snr commands s⟩

/-- A new channel, a change of the second window and a request for the status. -/
def threeCommands : List SrvCommand :=
  [⟨.SRV_MAC_NEW_CHANNEL_REQ, [3, 0x18, 0x4F, 0x84, 0x50], rfl⟩,
    ⟨.SRV_MAC_RX_PARAM_SETUP_REQ, [0x01, 0xD2, 0xAD, 0x84], rfl⟩,
    ⟨.SRV_MAC_DEV_STATUS_REQ, [], rfl⟩]

theorem ProcessMacCommands_stream_threeCommands :
    ∃ s', ProcessMacCommands (Mac.personalised Env.plain)
        (fun i => (stream threeCommands).getD i 0) 0 12 7 = some s' ∧
      processMacCommandsLoop (fun i => (stream threeCommands).getD i 0) 12 7 257
        (Mac.personalised Env.plain) 0 = some (12, s') ∧
      processSeparately 7 threeCommands (Mac.personalised Env.plain) = some s' :=
  ProcessMacCommands_stream (Mac.personalised Env.plain) 7 threeCommands
    (fun i => (stream threeCommands).getD i 0) 0 (by decide) (by decide)

end loranode.mac
