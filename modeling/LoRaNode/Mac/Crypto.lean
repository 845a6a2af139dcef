import LoRaNode.Lib.Word
import LoRaNode.Mac.State

open word

namespace loranode.mac

/-- The bytes of a 32-bit value, the least significant first. -/
def bytes32 (x : UInt32) : List UInt8 := leBytes x.toBitVec

def ofBytes32 (b0 b1 b2 b3 : UInt8) : UInt32 := UInt32.ofBitVec (le32 b0 b1 b2 b3)

def bytes16 (x : UInt16) : List UInt8 := [x.toUInt8, (x >>> 8).toUInt8]

def ofBytes16 (b0 b1 : UInt8) : UInt16 := b0.toUInt16 ||| b1.toUInt16 <<< 8

namespace LoRaMacFrameType_t

/-- The field `MType` of a MAC header. -/
def ofHeader (macHdr : UInt8) : LoRaMacFrameType_t :=
  match (macHdr >>> 5).toNat with
  | 0 => FRAME_TYPE_JOIN_REQ
  | 1 => FRAME_TYPE_JOIN_ACCEPT
  | 2 => FRAME_TYPE_DATA_UNCONFIRMED_UP
  | 3 => FRAME_TYPE_DATA_UNCONFIRMED_DOWN
  | 4 => FRAME_TYPE_DATA_CONFIRMED_UP
  | 5 => FRAME_TYPE_DATA_CONFIRMED_DOWN
  | 6 => FRAME_TYPE_RFU
  | _ => FRAME_TYPE_PROPRIETARY

/-- The MAC header of a type, with all other bits 0. -/
def header : LoRaMacFrameType_t → UInt8
  | FRAME_TYPE_JOIN_REQ => 0x00
  | FRAME_TYPE_JOIN_ACCEPT => 0x20
  | FRAME_TYPE_DATA_UNCONFIRMED_UP => 0x40
  | FRAME_TYPE_DATA_UNCONFIRMED_DOWN => 0x60
  | FRAME_TYPE_DATA_CONFIRMED_UP => 0x80
  | FRAME_TYPE_DATA_CONFIRMED_DOWN => 0xA0
  | FRAME_TYPE_RFU => 0xC0
  | FRAME_TYPE_PROPRIETARY => 0xE0

@[simp] theorem ofHeader_header (t : LoRaMacFrameType_t) : ofHeader t.header = t := by
  cases t <;> decide

end LoRaMacFrameType_t

structure LoRaMacFrameCtrl_t where
  FOptsLen : Nat
  FPending : Bool
  Ack : Bool
  AdrAckReq : Bool
  Adr : Bool
  deriving DecidableEq, Repr

namespace LoRaMacFrameCtrl_t

def Value (fCtrl : LoRaMacFrameCtrl_t) : UInt8 :=
  UInt8.ofNat (fCtrl.FOptsLen % 16 + 16 * fCtrl.FPending.toNat + 32 * fCtrl.Ack.toNat +
    64 * fCtrl.AdrAckReq.toNat + 128 * fCtrl.Adr.toNat)

def ofValue (v : UInt8) : LoRaMacFrameCtrl_t where
  FOptsLen := v.toNat % 16
  FPending := v.toNat.testBit 4
  Ack := v.toNat.testBit 5
  AdrAckReq := v.toNat.testBit 6
  Adr := v.toNat.testBit 7

end LoRaMacFrameCtrl_t

/-- The block `aBlock` that `LoRaMacPayloadEncrypt` enciphers with `ctr` in its last byte. -/
def aBlock (address : UInt32) (dir : UInt8) (sequenceCounter : UInt32) (ctr : Nat) : List UInt8 :=
  [1, 0, 0, 0, 0, dir] ++ bytes32 address ++ bytes32 sequenceCounter ++ [0, UInt8.ofNat ctr]

/-- `LoRaMacPayloadEncrypt`: the byte at `i` is masked with byte `i % 16` of the block
whose counter is `i / 16 + 1`. -/
def LoRaMacPayloadEncrypt (env : Env) (buffer : Mem) (size : Nat) (key : List UInt8)
    (address : UInt32) (dir : UInt8) (sequenceCounter : UInt32) (encBuffer : Mem) : Mem :=
  encBuffer.write 0 ((List.range size).map fun i =>
    buffer i ^^^ env.aes_encrypt key (aBlock address dir sequenceCounter (i / 16 + 1)) (i % 16))

def LoRaMacPayloadDecrypt (env : Env) (buffer : Mem) (size : Nat) (key : List UInt8)
    (address : UInt32) (dir : UInt8) (sequenceCounter : UInt32) (decBuffer : Mem) : Mem :=
  LoRaMacPayloadEncrypt env buffer size key address dir sequenceCounter decBuffer

/-- `LoRaMacJoinDecrypt` to `decBuffer` from `off` on. -/
def LoRaMacJoinDecrypt (env : Env) (buffer : Mem) (size : Nat) (key : List UInt8)
    (decBuffer : Mem) (off : Nat) : Mem :=
  let decBuffer := decBuffer.write off ((env.aes_encrypt key (buffer.read 0 16)).read 0 16)
  if 16 ≤ size then
    decBuffer.write (off + 16) ((env.aes_encrypt key (buffer.read 16 16)).read 0 16)
  else decBuffer

/-- `LoRaMacJoinComputeSKeys`: `NwkSKey` and `AppSKey`. -/
def LoRaMacJoinComputeSKeys (env : Env) (key appNonce : List UInt8) (devNonce : UInt16) :
    List UInt8 × List UInt8 :=
  let nonce (kind : UInt8) := [kind] ++ appNonce ++ bytes16 devNonce ++ List.replicate 7 0
  ((env.aes_encrypt key (nonce 1)).read 0 16, (env.aes_encrypt key (nonce 2)).read 0 16)

end loranode.mac
