import LoRaNode.Crypto.Cmac
import LoRaNode.Crypto.Payload

open loranode.aes loranode.cmac loranode.mac

namespace loranode.crypto

/-- The static variables that the MICs are computed with. -/
structure MicVariables where
  MicBlockB0 : uint8_block
  Mic : uint8_block
  AesCmacCtx : AES_CMAC_CTX

/-- The static variables at the start of the program. -/
def MicVariables.initial : MicVariables where
  MicBlockB0 := #v[0x49, 0, 0, 0, 0, 0, 0, 0, 0, 0, 0, 0, 0, 0, 0, 0]
  Mic := Vector.replicate 16 0
  AesCmacCtx := ⟨⟨fun _ => 0, 0⟩, Vector.replicate 16 0, Vector.replicate 16 0, 0⟩

/-- The memory from an array on. -/
def memoryOf (bytes : List UInt8) : Mem := fun i => bytes.getD i 0

/-- `*mic`, from the first four bytes of `Mic`. -/
def micOf (Mic : uint8_block) : UInt32 := ofBytes32 (Mic.get 0) (Mic.get 1) (Mic.get 2) (Mic.get 3)

def LoRaMacComputeMic (v : MicVariables) (buffer : Mem) (size : UInt16) (key : Mem)
    (address : UInt32) (dir : UInt8) (sequenceCounter : UInt32) : UInt32 × MicVariables :=
  let MicBlockB0 := setByte v.MicBlockB0 5 dir
  let MicBlockB0 := setByte MicBlockB0 6 address.toUInt8
  let MicBlockB0 := setByte MicBlockB0 7 (address >>> 8).toUInt8
  let MicBlockB0 := setByte MicBlockB0 8 (address >>> 16).toUInt8
  let MicBlockB0 := setByte MicBlockB0 9 (address >>> 24).toUInt8
  let MicBlockB0 := setByte MicBlockB0 10 sequenceCounter.toUInt8
  let MicBlockB0 := setByte MicBlockB0 11 (sequenceCounter >>> 8).toUInt8
  let MicBlockB0 := setByte MicBlockB0 12 (sequenceCounter >>> 16).toUInt8
  let MicBlockB0 := setByte MicBlockB0 13 (sequenceCounter >>> 24).toUInt8
  let MicBlockB0 := setByte MicBlockB0 15 size.toUInt8
  let ctx := AES_CMAC_SetKey (AES_CMAC_Init v.AesCmacCtx) key
  let ctx := AES_CMAC_Update ctx (memoryOf MicBlockB0.toList) 16
  let ctx := AES_CMAC_Update ctx buffer (size &&& 0xFF).toUInt32
  let (Mic, ctx) := AES_CMAC_Final ctx
  (micOf Mic, ⟨MicBlockB0, Mic, ctx⟩)

def LoRaMacJoinComputeMic (v : MicVariables) (buffer : Mem) (size : UInt16) (key : Mem) :
    UInt32 × MicVariables :=
  let ctx := AES_CMAC_SetKey (AES_CMAC_Init v.AesCmacCtx) key
  let ctx := AES_CMAC_Update ctx buffer (size &&& 0xFF).toUInt32
  let (Mic, ctx) := AES_CMAC_Final ctx
  (micOf Mic, { v with Mic := Mic, AesCmacCtx := ctx })

/-- The block `B0` that the MIC of a data frame starts with. -/
def blockB0 (length : Nat) (address : UInt32) (dir : UInt8) (sequenceCounter : UInt32) :
    List UInt8 :=
  [0x49, 0, 0, 0, 0, dir] ++ bytes32 address ++ bytes32 sequenceCounter ++ [0, UInt8.ofNat length]

/-- A board whose ciphers are those of the program. -/
def enciphering (env : Env) : Env :=
  { env with
    aes_encrypt := fun key block =>
      memoryOf (aes128 (memoryOf key) (cmac.ofList block)).toList
    LoRaMacComputeMic := fun bytes key address dir sequenceCounter =>
      micOf (cmac.mac (aes128 (memoryOf key))
        (blockB0 bytes.length address dir sequenceCounter ++ bytes))
    LoRaMacJoinComputeMic := fun bytes key => micOf (cmac.mac (aes128 (memoryOf key)) bytes) }

theorem aes_encrypt_enciphering (env : Env) (key block : List UInt8) :
    (enciphering env).aes_encrypt key block =
      memoryOf (aes128 (memoryOf key) (cmac.ofList block)).toList := by
  simp only [enciphering]

/-- A call of one of the two functions. -/
inductive MicCall where
  | LoRaMacComputeMic (buffer : Mem) (size : UInt16) (key : Mem) (address : UInt32) (dir : UInt8)
      (sequenceCounter : UInt32)
  | LoRaMacJoinComputeMic (buffer : Mem) (size : UInt16) (key : Mem)

/-- What a call returns, and the variables behind it. -/
def MicCall.run (v : MicVariables) : MicCall → UInt32 × MicVariables
  | .LoRaMacComputeMic buffer size key address dir sequenceCounter =>
    crypto.LoRaMacComputeMic v buffer size key address dir sequenceCounter
  | .LoRaMacJoinComputeMic buffer size key => crypto.LoRaMacJoinComputeMic v buffer size key

/-- The MIC that a call should give. The functions cut the length to 8 bits. -/
def MicCall.mic (env : Env) : MicCall → UInt32
  | .LoRaMacComputeMic buffer size key address dir sequenceCounter =>
    (enciphering env).LoRaMacComputeMic (buffer.read 0 (size.toNat % 256)) (key.read 0 16) address
      dir sequenceCounter
  | .LoRaMacJoinComputeMic buffer size key =>
    (enciphering env).LoRaMacJoinComputeMic (buffer.read 0 (size.toNat % 256)) (key.read 0 16)

theorem read_memoryOf (bytes : List UInt8) : (memoryOf bytes).read 0 bytes.length = bytes :=
  Mem.read_eq_iff.mpr fun i _ => by rw [Nat.zero_add, memoryOf]

/-- Only the first 16 bytes of a key count. -/
theorem aes128_memoryOf_read (key : Mem) : aes128 (memoryOf (key.read 0 16)) = aes128 key := by
  have hkey : ∀ i < 4 * 4, memoryOf (key.read 0 16) i = key i := by
    intro i hi
    rw [memoryOf, Mem.getD_read _ _ _ _ hi, Nat.zero_add]
  have hround : rijndael.roundKey rijndael.sbox 4 (memoryOf (key.read 0 16)) =
      rijndael.roundKey rijndael.sbox 4 key := by
    funext r i
    rw [rijndael.roundKey, rijndael.keyWord_congr (by decide) hkey]
    rfl
  funext block
  rw [aes128, hround]
  rfl

theorem toNat_and_255 (size : UInt16) : (size &&& 0xFF).toUInt32.toNat = size.toNat % 256 := by
  rw [UInt16.toNat_toUInt32, UInt16.toNat_and]
  exact Nat.and_two_pow_sub_one_eq_mod size.toNat 8

/-- The bytes of `MicBlockB0` that no call assigns are those of the start. -/
def MicVariables.Fixed (v : MicVariables) : Prop :=
  ∃ b5 b6 b7 b8 b9 b10 b11 b12 b13 b15,
    v.MicBlockB0 = #v[0x49, 0, 0, 0, 0, b5, b6, b7, b8, b9, b10, b11, b12, b13, 0, b15]

/-- `MicBlockB0` behind a call. -/
theorem MicBlockB0_eq {v : MicVariables} (hv : v.Fixed) (buffer : Mem) (size : UInt16) (key : Mem)
    (address : UInt32) (dir : UInt8) (sequenceCounter : UInt32) :
    let v' := (LoRaMacComputeMic v buffer size key address dir sequenceCounter).2
    v'.Fixed ∧ v'.MicBlockB0.toList = blockB0 (size.toNat % 256) address dir sequenceCounter := by
  obtain ⟨b5, b6, b7, b8, b9, b10, b11, b12, b13, b15, h⟩ := hv
  have hsize : size.toUInt8 = UInt8.ofNat (size.toNat % 256) := by
    rw [← UInt8.toNat_inj, UInt16.toNat_toUInt8, UInt8.toNat_ofNat']
    omega
  rw [blockB0, bytes32_eq, bytes32_eq, ← hsize, LoRaMacComputeMic, h]
  exact ⟨⟨_, _, _, _, _, _, _, _, _, _, rfl⟩, rfl⟩

theorem LoRaMacComputeMic_eq (env : Env) {v : MicVariables} (hv : v.Fixed) (buffer : Mem)
    (size : UInt16) (key : Mem) (address : UInt32) (dir : UInt8) (sequenceCounter : UInt32) :
    (LoRaMacComputeMic v buffer size key address dir sequenceCounter).1 =
      (enciphering env).LoRaMacComputeMic (buffer.read 0 (size.toNat % 256)) (key.read 0 16) address
        dir sequenceCounter := by
  have hB0 := (MicBlockB0_eq hv buffer size key address dir sequenceCounter).2
  generalize hv' :
    (LoRaMacComputeMic v buffer size key address dir sequenceCounter).2.MicBlockB0 = B0 at hB0
  have hread : (memoryOf B0.toList).read 0 (16 : UInt32).toNat = B0.toList := by
    have := read_memoryOf B0.toList
    rwa [Vector.length_toList] at this
  have hmessage : Parts.message [(memoryOf B0.toList, 16), (buffer, (size &&& 0xFF).toUInt32)] =
      blockB0 (size.toNat % 256) address dir sequenceCounter ++
        buffer.read 0 (size.toNat % 256) := by
    simp only [Parts.message, List.flatMap_cons, List.flatMap_nil, List.append_nil, toNat_and_255]
    rw [hread, hB0]
  have hrun : (LoRaMacComputeMic v buffer size key address dir sequenceCounter).1 =
      micOf (AES_CMAC_Final (update v.AesCmacCtx key
        [(memoryOf B0.toList, 16), (buffer, (size &&& 0xFF).toUInt32)])).1 := by
    rw [← hv']
    rfl
  rw [hrun, digest_update, hmessage]
  simp only [enciphering, aes128_memoryOf_read, Mem.length_read]

theorem LoRaMacJoinComputeMic_eq (env : Env) (v : MicVariables) (buffer : Mem) (size : UInt16)
    (key : Mem) :
    (LoRaMacJoinComputeMic v buffer size key).1 =
      (enciphering env).LoRaMacJoinComputeMic (buffer.read 0 (size.toNat % 256))
        (key.read 0 16) := by
  have hdigest := digest_update v.AesCmacCtx key [(buffer, (size &&& 0xFF).toUInt32)]
  simp only [Parts.message, List.flatMap_cons, List.flatMap_nil, List.append_nil, toNat_and_255]
    at hdigest
  simp only [enciphering, aes128_memoryOf_read, ← hdigest]
  rfl

theorem MicCall.fixed_run {v : MicVariables} (hv : v.Fixed) (call : MicCall) :
    (call.run v).2.Fixed := by
  cases call with
  | LoRaMacComputeMic buffer size key address dir sequenceCounter =>
    exact (MicBlockB0_eq hv buffer size key address dir sequenceCounter).1
  | LoRaMacJoinComputeMic buffer size key => exact hv

theorem MicCall.fixed_foldl (calls : List MicCall) {v : MicVariables} (hv : v.Fixed) :
    (calls.foldl (fun v call => (call.run v).2) v).Fixed := by
  induction calls generalizing v with
  | nil => exact hv
  | cons call calls ih => exact ih (call.fixed_run hv)

/-- Whatever has been computed before on the same static variables, a call gives the first four
bytes of the AES-CMAC of its own arguments: of the block `B0` and the frame for a data frame, and
of the frame alone for a join. So the MICs are the functions of their arguments that the MAC layer
takes them for. -/
theorem mic_of_calls (env : Env) (calls : List MicCall) (call : MicCall) :
    (call.run (calls.foldl (fun v call => (call.run v).2) MicVariables.initial)).1 =
      call.mic env := by
  have hinitial : MicVariables.initial.Fixed := ⟨0, 0, 0, 0, 0, 0, 0, 0, 0, 0, rfl⟩
  have hfixed := MicCall.fixed_foldl calls hinitial
  cases call with
  | LoRaMacComputeMic buffer size key address dir sequenceCounter =>
    exact LoRaMacComputeMic_eq env hfixed buffer size key address dir sequenceCounter
  | LoRaMacJoinComputeMic buffer size key => exact LoRaMacJoinComputeMic_eq env _ buffer size key

end loranode.crypto
