import LoRaNode.Lib.Memory
import Mathlib.Tactic.Ring

namespace word

/-- Byte `k` of a word, counted from its least significant end. -/
def byte {w : Nat} (x : BitVec w) (k : Nat) : UInt8 :=
  UInt8.ofNat (x.toNat >>> (8 * k))

/-- The word whose bytes are, least significant first, `b0` to `b3`. -/
def le32 (b0 b1 b2 b3 : UInt8) : BitVec 32 :=
  BitVec.ofNat 32 (b0.toNat ||| b1.toNat <<< 8 ||| b2.toNat <<< 16 ||| b3.toNat <<< 24)

/-- The word whose most significant byte is `hi`. -/
def be16 (hi lo : UInt8) : BitVec 16 :=
  BitVec.ofNat 16 (hi.toNat <<< 8 ||| lo.toNat)

/-- The four bytes of a word in memory order on a little-endian machine. -/
def leBytes (x : BitVec 32) : List UInt8 :=
  [byte x 0, byte x 1, byte x 2, byte x 3]

@[simp] theorem length_leBytes (x : BitVec 32) : (leBytes x).length = 4 := rfl

theorem toNat_byte {w : Nat} (x : BitVec w) (k : Nat) :
    (byte x k).toNat = x.toNat / 2 ^ (8 * k) % 256 := by
  simp [byte, Nat.shiftRight_eq_div_pow]

theorem toNat_lt_256 (b : UInt8) : b.toNat < 256 := b.toNat_lt

private theorem shiftLeft_or {a b i : Nat} (hb : b < 2 ^ i) :
    b ||| a <<< i = b + a * 2 ^ i := by
  rw [Nat.or_comm, ← Nat.shiftLeft_add_eq_or_of_lt hb, Nat.shiftLeft_eq, Nat.add_comm]

theorem toNat_le32 (b0 b1 b2 b3 : UInt8) :
    (le32 b0 b1 b2 b3).toNat =
      b0.toNat + b1.toNat * 2 ^ 8 + b2.toNat * 2 ^ 16 + b3.toNat * 2 ^ 24 := by
  have h0 := toNat_lt_256 b0
  have h1 := toNat_lt_256 b1
  have h2 := toNat_lt_256 b2
  have h3 := toNat_lt_256 b3
  have hlow : b0.toNat ||| b1.toNat <<< 8 = b0.toNat + b1.toNat * 2 ^ 8 := shiftLeft_or (by omega)
  rw [le32, BitVec.toNat_ofNat, hlow, shiftLeft_or (i := 16) (by omega)]
  rw [shiftLeft_or (i := 24) (by omega)]
  omega

theorem toNat_be16 (hi lo : UInt8) : (be16 hi lo).toNat = hi.toNat * 2 ^ 8 + lo.toNat := by
  have h0 := toNat_lt_256 hi
  have h1 := toNat_lt_256 lo
  rw [be16, BitVec.toNat_ofNat, ← Nat.shiftLeft_add_eq_or_of_lt (by omega), Nat.shiftLeft_eq]
  omega

@[simp] theorem leBytes_le32 (b0 b1 b2 b3 : UInt8) :
    leBytes (le32 b0 b1 b2 b3) = [b0, b1, b2, b3] := by
  have h0 := toNat_lt_256 b0
  have h1 := toNat_lt_256 b1
  have h2 := toNat_lt_256 b2
  have h3 := toNat_lt_256 b3
  simp only [leBytes, List.cons.injEq, and_true, ← UInt8.toNat_inj, toNat_byte, toNat_le32]
  omega

@[simp] theorem le32_leBytes (x : BitVec 32) :
    le32 (byte x 0) (byte x 1) (byte x 2) (byte x 3) = x := by
  have hx := x.isLt
  apply BitVec.eq_of_toNat_eq
  simp only [toNat_le32, toNat_byte]
  omega

@[simp] theorem byte_one_be16 (hi lo : UInt8) : byte (be16 hi lo) 1 = hi := by
  have h0 := toNat_lt_256 hi
  have h1 := toNat_lt_256 lo
  rw [← UInt8.toNat_inj, toNat_byte, toNat_be16]
  omega

@[simp] theorem byte_zero_be16 (hi lo : UInt8) : byte (be16 hi lo) 0 = lo := by
  have h1 := toNat_lt_256 lo
  rw [← UInt8.toNat_inj, toNat_byte, toNat_be16]
  omega

@[simp] theorem be16_byte (x : BitVec 16) : be16 (byte x 1) (byte x 0) = x := by
  have hx := x.isLt
  apply BitVec.eq_of_toNat_eq
  simp only [toNat_be16, toNat_byte]
  omega

/-- The word stored at `off` in little-endian order. -/
def le32At (m : Mem) (off : Nat) : BitVec 32 :=
  le32 (m off) (m (off + 1)) (m (off + 2)) (m (off + 3))

/-- The word stored at `off` with its most significant byte first. -/
def be16At (m : Mem) (off : Nat) : BitVec 16 :=
  be16 (m off) (m (off + 1))

theorem leBytes_le32At (m : Mem) (off : Nat) : leBytes (le32At m off) = m.read off 4 := by
  rw [le32At, leBytes_le32]
  rfl

end word
