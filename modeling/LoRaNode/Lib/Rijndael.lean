import Mathlib.Algebra.Ring.Nat
import Mathlib.Data.Fin.VecNotation
import Mathlib.Data.List.Basic
import Mathlib.Logic.Function.Iterate

namespace rijndael

/-- A polynomial with coefficients 0 and 1, multiplied by `x` modulo `x⁸ + x⁴ + x³ + x + 1`. -/
def double (p : Nat) : Nat := 2 * p ^^^ p / 128 * 0x11b

/-- The product of two polynomials of degree below 8, by the coefficients of the first. -/
def product (p q : Nat) : Nat :=
  Nat.rec 0 (fun k r => double r ^^^ p / 2 ^ (7 - k) % 2 * q) 8

def mul (a b : UInt8) : UInt8 := UInt8.ofNat (product a.toNat b.toNat)

/-- The powers 2, 4, ..., 2 ^ `n` of a polynomial, multiplied together and with `r`. -/
def squares (p : Nat) : Nat → Nat → Nat
  | 0, r => r
  | n + 1, r => squares (product p p) n (product r (product p p))

/-- The affine map of the S-box: the sum of a byte and its rotations by 1 to 4, and a constant. -/
def affine (p : Nat) : Nat :=
  let q := p * 1 ^^^ p * 2 ^^^ p * 4 ^^^ p * 8 ^^^ p * 16
  q ^^^ q / 256 ^^^ 0x63

/-- The S-box of the standard: the inverse in the field, which is the power 254, and the affine
map. The inverse of 0 is 0. -/
def sbox (b : UInt8) : UInt8 := UInt8.ofNat (affine (squares b.toNat 7 1))

/-- A block: the byte at `4 * c + r` stands in column `c` and row `r`. -/
abbrev Block := Fin 16 → UInt8

/-- The byte `k` rows below another one, in the same column. -/
def below (i : Fin 16) (k : Nat) : Fin 16 := ⟨i / 4 * 4 + (i + k) % 4, by omega⟩

section

-- the substitution may be any function of bytes
variable (S : UInt8 → UInt8)

def subBytes (s : Block) : Block := fun i => S (s i)

/-- Row `r` is rotated by `r` columns. -/
def shiftRows (s : Block) : Block := fun i => s (5 * i)

def mixColumns (s : Block) : Block := fun i =>
  mul 2 (s (below i 0)) ^^^ mul 3 (s (below i 1)) ^^^ s (below i 2) ^^^ s (below i 3)

def addRoundKey (k s : Block) : Block := fun i => s i ^^^ k i

def round (k s : Block) : Block := addRoundKey k (mixColumns (shiftRows (subBytes S s)))

def finalRound (k s : Block) : Block := addRoundKey k (shiftRows (subBytes S s))

/-- The first `n` rounds after the key 0 has been added. -/
def rounds (k : Nat → Block) (s : Block) : Nat → Block
  | 0 => addRoundKey (k 0) s
  | n + 1 => round S (k (n + 1)) (rounds k s n)

/-- The cipher with `n + 1` rounds. -/
def cipher (n : Nat) (k : Nat → Block) (s : Block) : Block :=
  finalRound S (k (n + 1)) (rounds S k s n)

/-- What is added to the word `nk` places back for word `i` of the expanded key. -/
def keyWordMask (nk i : Nat) (w : Fin 4 → UInt8) : Fin 4 → UInt8 :=
  if i % nk = 0 then fun j => S (w (j + 1)) ^^^ if j = 0 then (mul 2)^[i / nk - 1] 1 else 0
  else if 6 < nk ∧ i % nk = 4 then fun j => S (w j)
  else w

/-- Word `i` of the expanded key, for a key of `nk` words. -/
def keyWord (nk : Nat) (key : Nat → UInt8) (i : Nat) : Fin 4 → UInt8 :=
  if i < nk ∨ nk = 0 then fun j => key (4 * i + j)
  else fun j => keyWord nk key (i - nk) j ^^^ keyWordMask S nk i (keyWord nk key (i - 1)) j
termination_by i

/-- The key of round `r`. -/
def roundKey (nk : Nat) (key : Nat → UInt8) (r : Nat) : Block :=
  fun i => keyWord S nk key (4 * r + i / 4) ⟨i % 4, by omega⟩

end

private theorem forall_byte {P : UInt8 → Prop} (h : ∀ n < 256, P (UInt8.ofNat n)) (b : UInt8) :
    P b := by
  simpa using h b.toNat b.toNat_lt

/-- The product with 2 on the bits of the byte. -/
theorem mul_two (b : UInt8) : mul 2 b = b <<< 1 ^^^ (b >>> 7) * 0x1b := by
  revert b
  exact forall_byte (by decide +kernel)

theorem mul_three (b : UInt8) : mul 3 b = mul 2 b ^^^ b := by
  revert b
  exact forall_byte (by decide +kernel)

private theorem top_mul (b : UInt8) :
    (b >>> 7) * 0x1b = UInt8.ofBitVec (bif b.toBitVec.msb then 0x1b#8 else 0#8) := by
  revert b
  exact forall_byte (by decide +kernel)

theorem mul_two_xor (a b : UInt8) : mul 2 (a ^^^ b) = mul 2 a ^^^ mul 2 b := by
  have hshift : (a ^^^ b) <<< 1 = a <<< 1 ^^^ b <<< 1 := by
    simp [← UInt8.toBitVec_inj, BitVec.shiftLeft_xor_distrib]
  have htop : ((a ^^^ b) >>> 7) * (0x1b : UInt8) =
      (a >>> 7) * (0x1b : UInt8) ^^^ (b >>> 7) * (0x1b : UInt8) := by
    rw [top_mul, top_mul, top_mul, UInt8.toBitVec_xor, BitVec.msb_xor]
    cases a.toBitVec.msb <;> cases b.toBitVec.msb <;> decide
  rw [mul_two, mul_two, mul_two, hshift, htop]
  ac_rfl

@[simp] theorem below_below (i : Fin 16) (j k : Nat) : below (below i j) k = below i (j + k) := by
  simp only [below, Fin.mk.injEq]
  omega

theorem below_add_four (i : Fin 16) (k : Nat) : below i (k + 4) = below i k := by
  simp only [below, Fin.mk.injEq]
  omega

theorem below_zero (i : Fin 16) : below i 0 = i := by
  apply Fin.ext
  simp only [below]
  omega

private theorem xor_left_comm (a b c : UInt8) : a ^^^ (b ^^^ c) = b ^^^ (a ^^^ c) := by
  ac_rfl

private theorem xor_cancel_left (a b : UInt8) : a ^^^ (a ^^^ b) = b := by
  rw [← UInt8.xor_assoc, UInt8.xor_self, UInt8.zero_xor]

/-- Mixing a column twice cancels half of it. -/
theorem mixColumns_twice (s : Block) (i : Fin 16) :
    mixColumns (mixColumns s) i =
      mul 2 (mul 2 (s i)) ^^^ s i ^^^ mul 2 (mul 2 (s (below i 2))) := by
  simp only [mixColumns, mul_three, mul_two_xor, below_below, Nat.reduceAdd, below_zero,
    below_add_four i 0, below_add_four i 1, below_add_four i 2]
  generalize below i 1 = b, below i 2 = c, below i 3 = d
  simp only [UInt8.xor_assoc, UInt8.xor_comm, xor_left_comm, xor_cancel_left]

/-- Mixing a column four times gives it back. -/
theorem mixColumns_iterate_four (s : Block) :
    mixColumns (mixColumns (mixColumns (mixColumns s))) = s := by
  funext i
  rw [mixColumns_twice (mixColumns (mixColumns s))]
  simp only [mixColumns_twice, mul_two_xor, below_below, Nat.reduceAdd, below_add_four i 0,
    below_zero, UInt8.xor_assoc, UInt8.xor_comm, xor_left_comm, xor_cancel_left, UInt8.xor_self,
    UInt8.xor_zero]

theorem bijective_mixColumns : Function.Bijective mixColumns := by
  constructor
  · intro s s' h
    rw [← mixColumns_iterate_four s, h, mixColumns_iterate_four]
  · intro s
    exact ⟨_, mixColumns_iterate_four s⟩

theorem bijective_shiftRows : Function.Bijective shiftRows := by
  have hindex : ∀ i : Fin 16, 13 * (5 * i) = i ∧ 5 * (13 * i) = i := by decide
  constructor
  · intro s s' h
    funext i
    have hi := congrFun h (13 * i)
    simpa only [shiftRows, (hindex i).2] using hi
  · intro s
    refine ⟨fun i => s (13 * i), ?_⟩
    funext i
    exact congrArg s (hindex i).1

theorem bijective_addRoundKey (k : Block) : Function.Bijective (addRoundKey k) := by
  have hself : ∀ s, addRoundKey k (addRoundKey k s) = s := by
    intro s
    funext i
    simp only [addRoundKey, UInt8.xor_assoc, UInt8.xor_self, UInt8.xor_zero]
  exact Function.Involutive.bijective hself

variable {S : UInt8 → UInt8}

theorem bijective_subBytes (hS : Function.Bijective S) : Function.Bijective (subBytes S) := by
  constructor
  · intro s s' h
    funext i
    exact hS.1 (congrFun h i)
  · intro s
    choose t ht using fun i => hS.2 (s i)
    exact ⟨t, funext ht⟩

theorem bijective_round (hS : Function.Bijective S) (k : Block) : Function.Bijective (round S k) :=
  (bijective_addRoundKey k).comp
    (bijective_mixColumns.comp (bijective_shiftRows.comp (bijective_subBytes hS)))

theorem bijective_rounds (hS : Function.Bijective S) (k : Nat → Block) (n : Nat) :
    Function.Bijective fun s => rounds S k s n := by
  induction n with
  | zero => exact bijective_addRoundKey (k 0)
  | succ n ih => exact (bijective_round hS (k (n + 1))).comp ih

/-- The expanded key depends on the bytes of the key only. -/
theorem keyWord_congr {nk : Nat} {key key' : Nat → UInt8} (hnk : 0 < nk)
    (h : ∀ i < 4 * nk, key i = key' i) (i : Nat) : keyWord S nk key i = keyWord S nk key' i := by
  induction i using Nat.strongRecOn with
  | ind i ih =>
    rw [keyWord.eq_1 S nk key i, keyWord.eq_1 S nk key' i]
    by_cases hi : i < nk ∨ nk = 0
    · rw [if_pos hi, if_pos hi]
      funext j
      exact h (4 * i + j) (by omega)
    · rw [if_neg hi, if_neg hi, ih (i - nk) (by omega), ih (i - 1) (by omega)]

theorem rounds_congr {k k' : Nat → Block} {n : Nat} (h : ∀ r ≤ n, k r = k' r) (s : Block) :
    rounds S k s n = rounds S k' s n := by
  induction n with
  | zero => exact congrArg (addRoundKey · s) (h 0 (Nat.le_refl 0))
  | succ n ih =>
    rw [rounds, rounds, ih fun r hr => h r (Nat.le_succ_of_le hr), h (n + 1) (Nat.le_refl _)]

/-- The cipher with `n + 1` rounds uses no round key beyond `n + 1`. -/
theorem cipher_congr {k k' : Nat → Block} {n : Nat} (h : ∀ r ≤ n + 1, k r = k' r) (s : Block) :
    cipher S n k s = cipher S n k' s := by
  rw [cipher, cipher, h (n + 1) (Nat.le_refl _),
    rounds_congr fun r hr => h r (Nat.le_succ_of_le hr)]

/-- With a substitution that is a permutation of the bytes, the cipher permutes the blocks. -/
theorem bijective_cipher (hS : Function.Bijective S) (n : Nat) (k : Nat → Block) :
    Function.Bijective (cipher S n k) :=
  (bijective_addRoundKey _).comp
    (bijective_shiftRows.comp ((bijective_subBytes hS).comp (bijective_rounds hS k n)))

end rijndael
