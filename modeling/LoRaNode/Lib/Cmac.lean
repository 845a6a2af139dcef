import Mathlib.Algebra.Ring.Nat
import Mathlib.Data.List.GetD
import Mathlib.Data.List.Induction

namespace cmac

section

variable {α β : Type*} (n : Nat) (absorb : β → List α → β)

/-- Absorbs the blocks of `n` elements of a message, apart from the last one: the value reached,
and the elements that are left. A full block is left when nothing comes behind it. -/
def chain (x : β) (message : List α) : β × List α :=
  if 0 < n ∧ n < message.length then chain (absorb x (message.take n)) (message.drop n)
  else (x, message)
termination_by message.length
decreasing_by
  rw [List.length_drop]
  omega

variable {n} {absorb}

theorem chain_of_length_le {message : List α} (h : message.length ≤ n) (x : β) :
    chain n absorb x message = (x, message) := by
  rw [chain, if_neg (by omega)]

/-- A block that more elements come behind is absorbed. -/
theorem chain_append_of_length_eq {block rest : List α} (hn : 0 < n) (hblock : block.length = n)
    (hrest : rest ≠ []) (x : β) :
    chain n absorb x (block ++ rest) = chain n absorb (absorb x block) rest := by
  have hlength := List.length_pos_iff.mpr hrest
  rw [chain, if_pos ⟨hn, by rw [List.length_append]; omega⟩, List.take_left' hblock,
    List.drop_left' hblock]

/-- What is left of a message is taken up with what comes behind it. -/
theorem chain_append (hn : 0 < n) (x : β) (message more : List α) :
    chain n absorb x (message ++ more) =
      chain n absorb (chain n absorb x message).1 ((chain n absorb x message).2 ++ more) := by
  induction x, message using chain.induct n absorb with
  | case1 x message h ih =>
    have hblock : (message.take n).length = n := List.length_take_of_le (Nat.le_of_lt h.2)
    have hrest : message.drop n ++ more ≠ [] := by
      have hlength : 0 < (message.drop n).length := by
        rw [List.length_drop]
        omega
      exact List.append_ne_nil_of_left_ne_nil (List.length_pos_iff.mp hlength) more
    rw [chain.eq_1 n absorb x message, if_pos h, ← ih, ← chain_append_of_length_eq hn hblock hrest,
      ← List.append_assoc, List.take_append_drop]
  | case2 x message h => rw [chain.eq_1 n absorb x message, if_neg h]

end

abbrev Block := Vector UInt8 16

/-- The block with the first bytes of a list, and 0 behind them. -/
def ofList (bytes : List UInt8) : Block := Vector.ofFn fun i => bytes.getD i 0

def xor (a b : Block) : Block := Vector.zipWith (· ^^^ ·) a b

/-- The number that a string of bytes stands for, the most significant byte first. -/
def value (bytes : List UInt8) : Nat := bytes.foldl (fun v b => 2 ^ 8 * v + b.toNat) 0

def ofValue (v : Nat) : Block := Vector.ofFn fun i => UInt8.ofNat (v / 2 ^ (8 * (15 - i.val)))

/-- The double of a block in the field of 128-bit strings: it is shifted by a bit, and reduced by
`x¹²⁸ + x⁷ + x² + x + 1`. -/
def double (b : Block) : Block :=
  let v := value b.toList
  ofValue (2 * v ^^^ if v.testBit 127 then 0x87 else 0)

variable (E : Block → Block)

/-- The last block, which is not longer than 16 bytes: masked with one key if it is full, and
padded and masked with another one if it is not. -/
def lastBlock (bytes : List UInt8) : Block :=
  let k1 := double (E (ofList []))
  if bytes.length = 16 then xor (ofList bytes) k1 else xor (ofList (bytes ++ [0x80])) (double k1)

/-- The authentication code of a message under the cipher `E`. -/
def mac (message : List UInt8) : Block :=
  let (x, bytes) := chain 16 (fun x block => E (xor x (ofList block))) (ofList []) message
  E (xor x (lastBlock E bytes))

theorem testBit_value (bytes : List UInt8) (k : Nat) :
    (value bytes).testBit k = (bytes.reverse.getD (k / 8) 0).toNat.testBit (k % 8) := by
  induction bytes using List.reverseRecOn generalizing k with
  | nil => simp [value]
  | append_singleton bytes b ih =>
    have hstep : value (bytes ++ [b]) = 2 ^ 8 * value bytes + b.toNat := by
      rw [value, List.foldl_append]
      rfl
    rw [hstep, Nat.testBit_two_pow_mul_add _ b.toNat_lt, List.reverse_concat]
    split
    next hk =>
      rw [Nat.div_eq_of_lt hk, Nat.mod_eq_of_lt hk]
      rfl
    next hk =>
      obtain ⟨m, rfl⟩ := Nat.exists_eq_add_of_le (Nat.le_of_not_lt hk)
      rw [Nat.add_sub_cancel_left, ih, Nat.add_div_left _ (by decide), Nat.add_mod_left]
      rfl

theorem testBit_value_block (b : Block) (i : Fin 16) {j : Nat} (hj : j < 8) :
    (value b.toList).testBit (8 * (15 - i.val) + j) = (b.get i).toNat.testBit j := by
  have hi := i.isLt
  have hbyte : b.toList.reverse.getD (15 - i.val) 0 = b.get i := by
    rw [List.getD_eq_getElem _ _ (by simp; omega), List.getElem_reverse]
    change _ = b[i.val]
    simp only [Vector.length_toList, Vector.getElem_toList]
    congr 1
    omega
  rw [testBit_value, Nat.mul_add_div (by decide), Nat.div_eq_of_lt hj, Nat.add_zero, hbyte,
    Nat.mul_add_mod, Nat.mod_eq_of_lt hj]

theorem testBit_ofValue (v : Nat) (i : Fin 16) {j : Nat} (hj : j < 8) :
    ((ofValue v).get i).toNat.testBit j = v.testBit (8 * (15 - i.val) + j) := by
  change ((ofValue v)[i.val]).toNat.testBit j = _
  rw [ofValue, Vector.getElem_ofFn, UInt8.toNat_ofNat', Nat.testBit_mod_two_pow,
    Nat.testBit_div_two_pow]
  simp [hj, Nat.add_comm]

theorem byte_ext {a b : UInt8} (h : ∀ j < 8, a.toNat.testBit j = b.toNat.testBit j) : a = b := by
  apply UInt8.toNat_inj.mp
  apply Nat.eq_of_testBit_eq
  intro j
  rcases Nat.lt_or_ge j 8 with hj | hj
  · exact h j hj
  · have hpow : 2 ^ 8 ≤ 2 ^ j := Nat.pow_le_pow_right (by decide) hj
    rw [Nat.testBit_lt_two_pow (Nat.lt_of_lt_of_le a.toNat_lt hpow),
      Nat.testBit_lt_two_pow (Nat.lt_of_lt_of_le b.toNat_lt hpow)]

theorem testBit_shiftLeft_one (b : UInt8) {j : Nat} (hj : j < 8) :
    (b <<< 1).toNat.testBit j = (j != 0 && b.toNat.testBit (j - 1)) := by
  rw [UInt8.toNat_shiftLeft, Nat.testBit_mod_two_pow, Nat.testBit_shiftLeft]
  cases j with
  | zero => simp
  | succ j => simp [hj]

theorem testBit_shiftRight_seven (b : UInt8) (j : Nat) :
    (b >>> 7).toNat.testBit j = (j == 0 && b.toNat.testBit 7) := by
  rw [UInt8.toNat_shiftRight, Nat.testBit_shiftRight]
  cases j with
  | zero => simp
  | succ j =>
    have hpow : 2 ^ 8 ≤ 2 ^ (7 + (j + 1)) := Nat.pow_le_pow_right (by decide) (by omega)
    simpa using Nat.testBit_lt_two_pow (Nat.lt_of_lt_of_le b.toNat_lt hpow)

theorem testBit_seven (b : UInt8) : b.toNat.testBit 7 = (b &&& 0x80 != 0) := by
  have hbytes : ∀ n < 256, (UInt8.ofNat n).toNat.testBit 7 = (UInt8.ofNat n &&& 0x80 != 0) := by
    decide +kernel
  simpa using hbytes b.toNat b.toNat_lt

/-- A bit of the double. -/
theorem testBit_double (b : Block) (i : Fin 16) {j : Nat} (hj : j < 8) :
    ((double b).get i).toNat.testBit j =
      ((8 * (15 - i.val) + j != 0 && (value b.toList).testBit (8 * (15 - i.val) + j - 1)) ^^
        ((b.get 0).toNat.testBit 7 && Nat.testBit 0x87 (8 * (15 - i.val) + j))) := by
  have htop : (value b.toList).testBit 127 = (b.get 0).toNat.testBit 7 :=
    testBit_value_block b 0 (j := 7) (by decide)
  rw [double, testBit_ofValue _ _ hj, Nat.testBit_xor, htop]
  generalize 8 * (15 - i.val) + j = k
  congr 1
  · cases k with
    | zero => simp
    | succ k => simp [Nat.testBit_succ]
  · cases (b.get 0).toNat.testBit 7 <;> simp

/-- A byte of the double that is not the last one. -/
theorem get_double_of_lt (b : Block) {i : Nat} (hi : i < 15) :
    (double b).get ⟨i, by omega⟩ = b.get ⟨i, by omega⟩ <<< 1 ||| b.get ⟨i + 1, by omega⟩ >>> 7 := by
  apply byte_ext
  intro j hj
  have hsmall : Nat.testBit 0x87 (8 * (15 - i) + j) = false :=
    Nat.testBit_lt_two_pow (Nat.lt_of_lt_of_le (by decide : 0x87 < 2 ^ 8)
      (Nat.pow_le_pow_right (by decide) (by omega)))
  rw [testBit_double b _ hj, UInt8.toNat_or, Nat.testBit_or, testBit_shiftLeft_one _ hj,
    testBit_shiftRight_seven, hsmall, Bool.and_false, Bool.xor_false]
  cases j with
  | zero =>
    have hnext := testBit_value_block b ⟨i + 1, by omega⟩ (j := 7) (by decide)
    have hindex : 8 * (15 - i) + 0 - 1 = 8 * (15 - (i + 1)) + 7 := by omega
    have hne : (8 * (15 - i) + 0 != 0) = true := by simp; omega
    rw [hne, hindex, hnext]
    simp
  | succ j =>
    rw [← Nat.add_assoc, Nat.add_sub_cancel, testBit_value_block b ⟨i, by omega⟩ (by omega)]
    simp

/-- The last byte of the double. -/
theorem get_double_last (b : Block) :
    (double b).get 15 = b.get 15 <<< 1 ^^^ if b.get 0 &&& 0x80 = 0 then 0 else 0x87 := by
  apply byte_ext
  intro j hj
  have hzero : ∀ j, 8 * (15 - (15 : Fin 16).val) + j = j := by
    intro j
    change 8 * (15 - 15) + j = j
    omega
  rw [testBit_double b _ hj, UInt8.toNat_xor, Nat.testBit_xor, testBit_shiftLeft_one _ hj,
    testBit_seven, hzero]
  congr 1
  · cases j with
    | zero => rfl
    | succ j =>
      have hbit := testBit_value_block b 15 (show j < 8 by omega)
      rw [hzero] at hbit
      rw [Nat.add_sub_cancel, hbit]
  · by_cases h : b.get 0 &&& 0x80 = 0 <;> simp [h]

end cmac
