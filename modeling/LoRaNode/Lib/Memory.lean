import Mathlib.Data.List.Basic
import Mathlib.Data.List.GetD

/-- Byte-addressed memory: an address gives the byte stored there. A buffer is
the part of a memory that starts at its first byte; bytes which nothing has
written keep whatever value the memory already holds. -/
abbrev Mem := Nat → UInt8

namespace Mem

/-- The `n` bytes that start at `off`. -/
def read (m : Mem) (off n : Nat) : List UInt8 :=
  (List.range n).map fun i => m (off + i)

/-- `memcpy` of `bs` to `off`. -/
def write (m : Mem) (off : Nat) (bs : List UInt8) : Mem :=
  fun i => if off ≤ i ∧ i < off + bs.length then bs.getD (i - off) 0 else m i

/-- The memory seen from `off` on. -/
def drop (m : Mem) (off : Nat) : Mem :=
  fun i => m (off + i)

/-- The memory seen from where `bs` has been written in front of it. -/
def prepend (m : Mem) (bs : List UInt8) : Mem :=
  fun i => if i < bs.length then bs.getD i 0 else m (i - bs.length)

@[simp] theorem length_read (m : Mem) (off n : Nat) : (m.read off n).length = n := by
  simp [read]

@[simp] theorem read_zero (m : Mem) (off : Nat) : m.read off 0 = [] := rfl

theorem getElem_read (m : Mem) (off n i : Nat) (hi : i < (m.read off n).length) :
    (m.read off n)[i] = m (off + i) := by
  simp [read]

theorem getD_read (m : Mem) (off n i : Nat) (hi : i < n) :
    (m.read off n).getD i 0 = m (off + i) := by
  rw [List.getD_eq_getElem _ _ (by simpa using hi), getElem_read]

/-- Two memories give the same bytes exactly when they agree on the range. -/
theorem read_eq_read_iff {m m' : Mem} {off off' n : Nat} :
    m.read off n = m'.read off' n ↔ ∀ i < n, m (off + i) = m' (off' + i) := by
  simp [read]

theorem read_eq_iff {m : Mem} {off : Nat} {bs : List UInt8} :
    m.read off bs.length = bs ↔ ∀ i < bs.length, m (off + i) = bs.getD i 0 := by
  constructor
  · intro h i hi
    rw [← getD_read m off bs.length i hi, h]
  · intro h
    apply List.ext_getElem (by simp)
    intro i hi hi'
    rw [getElem_read, h i hi', List.getD_eq_getElem _ _ hi']

theorem read_add (m : Mem) (off a b : Nat) :
    m.read off (a + b) = m.read off a ++ m.read (off + a) b := by
  simp [read, List.range_add, Nat.add_assoc]

/-- A part of a range on which two memories agree. -/
theorem read_part {m m' : Mem} {off k n : Nat} (h : m.read 0 n = m'.read 0 n) (hk : off + k ≤ n) :
    m.read off k = m'.read off k := by
  rw [read_eq_read_iff] at h ⊢
  intro i hi
  simpa using h (off + i) (by omega)

theorem read_succ (m : Mem) (off n : Nat) :
    m.read off (n + 1) = m off :: m.read (off + 1) n := by
  rw [Nat.add_comm n 1, read_add]
  simp [read]

@[simp] theorem drop_apply (m : Mem) (off i : Nat) : m.drop off i = m (off + i) := rfl

@[simp] theorem read_drop (m : Mem) (k off n : Nat) :
    (m.drop k).read off n = m.read (k + off) n := by
  simp [read, Nat.add_assoc]

theorem write_of_lt {m : Mem} {off i : Nat} {bs : List UInt8} (hi : i < off) :
    m.write off bs i = m i := by
  rw [write, if_neg (by omega)]

theorem write_of_ge {m : Mem} {off i : Nat} {bs : List UInt8} (hi : off + bs.length ≤ i) :
    m.write off bs i = m i := by
  rw [write, if_neg (by omega)]

theorem write_of_mem {m : Mem} {off i : Nat} {bs : List UInt8} (hi : i < bs.length) :
    m.write off bs (off + i) = bs.getD i 0 := by
  rw [write, if_pos (by omega), Nat.add_sub_cancel_left]

@[simp] theorem write_nil (m : Mem) (off : Nat) : m.write off [] = m := by
  funext i
  exact if_neg (by simp)

/-- The bytes of a copy are read back. -/
@[simp] theorem read_write_self (m : Mem) (off : Nat) (bs : List UInt8) :
    (m.write off bs).read off bs.length = bs :=
  read_eq_iff.2 fun _ hi => write_of_mem hi

/-- A copy of what is there already changes nothing. -/
theorem write_eq_self_iff {m : Mem} {off : Nat} {bs : List UInt8} :
    m.write off bs = m ↔ m.read off bs.length = bs := by
  constructor
  · intro h
    rw [← h]
    exact read_write_self m off bs
  · intro h
    funext i
    unfold write
    split
    · next hi =>
      obtain ⟨k, rfl⟩ := Nat.exists_eq_add_of_le hi.1
      rw [Nat.add_sub_cancel_left]
      exact (read_eq_iff.mp h k (by omega)).symm
    · rfl

/-- A copy changes no range that lies outside it. -/
theorem read_write_of_disjoint {m : Mem} {off off' n : Nat} {bs : List UInt8}
    (h : off' + n ≤ off ∨ off + bs.length ≤ off') :
    (m.write off bs).read off' n = m.read off' n := by
  rw [read_eq_read_iff]
  intro i hi
  rcases h with h | h
  · exact write_of_lt (by omega)
  · exact write_of_ge (by omega)

/-- Bytes in front of a copy: together they are the bytes of both. -/
theorem prepend_write (m : Mem) (as bs : List UInt8) {i : Nat} (hi : i < (as ++ bs).length) :
    (m.write 0 bs).prepend as i = (as ++ bs).getD i 0 := by
  rw [List.length_append] at hi
  unfold prepend
  split
  next h => rw [List.getD_append _ _ _ _ h]
  next h =>
    rw [List.getD_append_right _ _ _ _ (by omega), ← write_of_mem (show i - as.length < bs.length by omega),
      Nat.zero_add]

/-- Two copies to adjacent ranges are one copy of both byte strings. -/
theorem write_write_append (m : Mem) (off : Nat) (as bs : List UInt8) :
    (m.write off as).write (off + as.length) bs = m.write off (as ++ bs) := by
  funext i
  rcases Nat.lt_or_ge i (off + as.length) with h | h
  · rw [write_of_lt h]
    rcases Nat.lt_or_ge i off with h' | h'
    · rw [write_of_lt h', write_of_lt h']
    · obtain ⟨k, rfl⟩ := Nat.exists_eq_add_of_le h'
      have hk : k < as.length := by omega
      rw [write_of_mem hk, write_of_mem (by rw [List.length_append]; omega),
        List.getD_append _ _ _ _ hk]
  · rcases Nat.lt_or_ge i (off + as.length + bs.length) with h' | h'
    · obtain ⟨k, rfl⟩ := Nat.exists_eq_add_of_le h
      rw [write_of_mem (by omega), Nat.add_assoc,
        write_of_mem (by rw [List.length_append]; omega),
        List.getD_append_right _ _ _ _ (by omega), Nat.add_sub_cancel_left]
    · rw [write_of_ge h', write_of_ge h, write_of_ge (by rw [List.length_append]; omega)]

/-- Two copies to adjacent ranges are read back as one byte string. -/
theorem read_write_append (m : Mem) (off : Nat) (as bs : List UInt8) :
    ((m.write off as).write (off + as.length) bs).read off (as.length + bs.length) = as ++ bs := by
  rw [write_write_append, ← List.length_append, read_write_self]

/-- A copy behind the first `off` bytes extends them. -/
theorem read_write_end (m : Mem) (off : Nat) (bs : List UInt8) :
    (m.write off bs).read 0 (off + bs.length) = m.read 0 off ++ bs := by
  rw [read_add, Nat.zero_add, read_write_self, read_write_of_disjoint (.inl (by omega))]

/-- A copy behind the first `n` bytes leaves them as they are. -/
theorem read_write_of_le {m : Mem} {off n : Nat} (bs : List UInt8) (h : n ≤ off) :
    (m.write off bs).read 0 n = m.read 0 n :=
  read_write_of_disjoint (.inl (by omega))

/-- A byte that is overwritten between others. -/
theorem read_write_byte (m : Mem) (off n : Nat) (b : UInt8) :
    (m.write off [b]).read 0 (off + (1 + n)) = m.read 0 off ++ b :: m.read (off + 1) n := by
  have hself : (m.write off [b]).read off 1 = [b] := read_write_self m off [b]
  rw [read_add, read_add, Nat.zero_add, hself, read_write_of_le _ (Nat.le_refl _),
    read_write_of_disjoint (.inr (by simp))]
  rfl

theorem take_read (m : Mem) (off : Nat) {k n : Nat} (h : k ≤ n) :
    (m.read off n).take k = m.read off k := by
  obtain ⟨d, rfl⟩ := Nat.exists_eq_add_of_le h
  rw [read_add, List.take_left' (length_read ..)]

end Mem
