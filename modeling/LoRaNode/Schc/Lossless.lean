import LoRaNode.Schc.Residue
import Mathlib.Algebra.BigOperators.Group.List.Basic
import Mathlib.Algebra.BigOperators.Ring.List
import Mathlib.Algebra.Order.BigOperators.Group.List

open word

namespace loranode.schc

private theorem finRange_eq : List.finRange 18 =
    [0, 1, 2, 3, 4, 5, 6, 7, 8, 9, 10, 11, 12, 13, 14, 15, 16, 17] :=
  rfl

/-- The residue of the first `n` fields. -/
def SCHC_Rule.residueUpTo (rule : SCHC_Rule) : Nat → List UInt8
  | 0 => []
  | n + 1 => rule.residueUpTo n ++ if h : n < 18 then (rule.fields ⟨n, h⟩).residue else []

theorem SCHC_Rule.residueUpTo_all (rule : SCHC_Rule) : rule.residueUpTo 18 = rule.residue := by
  simp only [residue, finRange_eq, List.flatMap_cons, List.flatMap_nil, residueUpTo, List.append_assoc,
    List.nil_append, List.append_nil]
  rfl

theorem SCHC_Rule.readOffset_eq_sum (rule : SCHC_Rule) :
    rule.readOffset 18 = 1 + ((List.finRange 18).map rule.readBytes).sum := by
  rw [finRange_eq]
  simp only [readOffset, List.map_cons, List.map_nil, List.sum_cons, List.sum_nil, Nat.add_assoc]
  rfl

theorem SCHC_Rule.residueUpTo_succ (rule : SCHC_Rule) (i : Fin 18) :
    rule.residueUpTo (i + 1) = rule.residueUpTo i ++ (rule.fields i).residue := by
  simp [residueUpTo]

theorem SCHC_Rule.residueUpTo_prefix (rule : SCHC_Rule) {m n : Nat} (h : m ≤ n) :
    rule.residueUpTo m <+: rule.residueUpTo n := by
  induction h with
  | refl => exact List.prefix_rfl
  | step _ ih => exact ih.trans (List.prefix_append _ _)

/-- Where the bytes of a sent field stand in the residue. -/
theorem SCHC_Rule.residue_getD (rule : SCHC_Rule) (i : Fin 18) {k : Nat}
    (hk : k < (rule.fields i).residue.length) :
    rule.residue.getD ((rule.residueUpTo i).length + k) 0 = (rule.fields i).residue.getD k 0 := by
  obtain ⟨rest, hrest⟩ := rule.residueUpTo_prefix (show (i : Nat) + 1 ≤ 18 from i.isLt)
  rw [← rule.residueUpTo_all, ← hrest, rule.residueUpTo_succ, List.append_assoc,
    List.getD_append_right _ _ _ _ (Nat.le_add_right _ _), Nat.add_sub_cancel_left,
    List.getD_append _ _ _ _ hk]

theorem SCHC_Rule.residue_of_sends {rule : SCHC_Rule} {i : Fin 18} (h : rule.Sends i) :
    (rule.fields i).residue = (rule.fields i).targetBytes :=
  if_pos h

theorem SCHC_Rule.residue_of_not_sends {rule : SCHC_Rule} {i : Fin 18} (h : ¬ rule.Sends i) :
    (rule.fields i).residue = [] :=
  if_neg h

/-- The fields of which the compressor sends one byte more than the decompressor
reads: the version, the two ports and the checksum. -/
def Long (i : Fin 18) : Prop :=
  i = 0 ∨ i = 14 ∨ i = 15 ∨ i = 17

instance (i : Fin 18) : Decidable (Long i) :=
  inferInstanceAs (Decidable (i = 0 ∨ i = 14 ∨ i = 15 ∨ i = 17))

/-- Every field that is sent is as long as what the decompressor reads for it. -/
def Aligned (rule : SCHC_Rule) : Prop :=
  ∀ i, rule.Sends i → ¬ Long i ∧ (rule.fields i).fieldLength ≠ 0

instance (rule : SCHC_Rule) : Decidable (Aligned rule) :=
  inferInstanceAs (Decidable (∀ i, rule.Sends i → ¬ Long i ∧ (rule.fields i).fieldLength ≠ 0))

/-- The four long fields are sent, and so is exactly one field of width 0, of which
the compressor sends nothing and the decompressor reads four bytes. -/
def Compensated (rule : SCHC_Rule) : Prop :=
  (∀ i, Long i → rule.Sends i) ∧
    ∃ i, (rule.Sends i ∧ (rule.fields i).fieldLength = 0) ∧
      ∀ j, rule.Sends j → (rule.fields j).fieldLength = 0 → j = i

private theorem indicator_le (P : Prop) [Decidable P] : (if P then 1 else 0) ≤ 1 := by
  split <;> decide

private theorem of_indicator {P : Prop} [Decidable P] (h : (if P then 1 else 0) = 1) : P := by
  by_contra hP
  simp [hP] at h

section Lengths

variable {rule : SCHC_Rule} (hrule : SendsOrOmits rule)

include hrule

theorem SendsOrOmits.byteLength (i : Fin 18) (h3 : i ≠ 3) (h16 : i ≠ 16) :
    (rule.fields i).byteLength =
      if (rule.fields i).fieldLength = 0 then 0 else readLength i + if Long i then 1 else 0 := by
  unfold SCHC_Field.byteLength
  rcases hrule.width i with h | h <;> rw [h] <;> clear h <;> decide +revert

theorem SendsOrOmits.zero_width {i : Fin 18} (hzero : (rule.fields i).fieldLength = 0) :
    i = 8 ∨ i = 9 ∨ i = 12 ∨ i = 13 := by
  rcases hrule.width i with h | h <;> rw [hzero] at h <;> clear hzero <;> decide +revert

/-- The bytes sent and the bytes read for one field differ by the excess of a long
field, or by the four bytes of a field of width 0. -/
theorem SendsOrOmits.length_residue (i : Fin 18) :
    (rule.fields i).residue.length +
        4 * (if rule.Sends i ∧ (rule.fields i).fieldLength = 0 then 1 else 0) =
      rule.readBytes i + if rule.Sends i ∧ Long i then 1 else 0 := by
  by_cases hsent : rule.Sends i
  · have h3 : i ≠ 3 := fun h => hrule.not_sends_length (.inl h) hsent
    have h16 : i ≠ 16 := fun h => hrule.not_sends_length (.inr h) hsent
    rw [SCHC_Rule.residue_of_sends hsent, SCHC_Field.length_targetBytes, hrule.byteLength i h3 h16,
      SCHC_Rule.readBytes, if_pos hsent]
    by_cases hzero : (rule.fields i).fieldLength = 0
    · rcases hrule.zero_width hzero with rfl | rfl | rfl | rfl <;> simp [hsent, hzero] <;> decide
    · simp [hsent, hzero]
  · rw [SCHC_Rule.residue_of_not_sends hsent, SCHC_Rule.readBytes, if_neg hsent]
    simp [hsent]

/-- Over the whole header: the excess of the four long fields, against the four
bytes of each interface identifier word of width 0. -/
theorem SendsOrOmits.length_residue_all :
    let e := fun i => if rule.Sends i ∧ Long i then 1 else 0
    let z := fun i => if rule.Sends i ∧ (rule.fields i).fieldLength = 0 then 1 else 0
    1 + rule.residue.length + 4 * (z 8 + z 9 + z 12 + z 13) =
      rule.readOffset 18 + (e 0 + e 14 + e 15 + e 17) := by
  intro e z
  have hsum : ((List.finRange 18).map fun i => (rule.fields i).residue.length + 4 * z i).sum =
      ((List.finRange 18).map fun i => rule.readBytes i + e i).sum :=
    congrArg List.sum (List.map_congr_left fun i _ => hrule.length_residue i)
  have hlength : rule.residue.length =
      ((List.finRange 18).map fun i => (rule.fields i).residue.length).sum := List.length_flatMap
  have hread := rule.readOffset_eq_sum
  have hz : ((List.finRange 18).map z).sum = z 8 + z 9 + z 12 + z 13 := by
    have hzero : ∀ i, ¬ (i = 8 ∨ i = 9 ∨ i = 12 ∨ i = 13) → z i = 0 :=
      fun i hi => if_neg fun h => hi (hrule.zero_width h.2)
    rw [finRange_eq]
    simp only [List.map_cons, List.map_nil, List.sum_cons, List.sum_nil, hzero 0 (by decide),
      hzero 1 (by decide), hzero 2 (by decide), hzero 3 (by decide), hzero 4 (by decide),
      hzero 5 (by decide), hzero 6 (by decide), hzero 7 (by decide), hzero 10 (by decide),
      hzero 11 (by decide), hzero 14 (by decide), hzero 15 (by decide), hzero 16 (by decide),
      hzero 17 (by decide), Nat.zero_add, Nat.add_zero, Nat.add_assoc]
  have he : ((List.finRange 18).map e).sum = e 0 + e 14 + e 15 + e 17 := by
    have hzero : ∀ i, ¬ Long i → e i = 0 := fun i hi => if_neg fun h => hi h.2
    rw [finRange_eq]
    simp only [List.map_cons, List.map_nil, List.sum_cons, List.sum_nil, hzero 1 (by decide),
      hzero 2 (by decide), hzero 3 (by decide), hzero 4 (by decide), hzero 5 (by decide),
      hzero 6 (by decide), hzero 7 (by decide), hzero 8 (by decide), hzero 9 (by decide),
      hzero 10 (by decide), hzero 11 (by decide), hzero 12 (by decide), hzero 13 (by decide),
      hzero 16 (by decide), Nat.zero_add, Nat.add_zero, Nat.add_assoc]
  rw [List.sum_map_add, List.sum_map_add, List.sum_map_mul_left, hz, he, ← hlength] at hsum
  omega

/-- The decompressor ends where the compressor does in two cases only. -/
theorem SendsOrOmits.balanced_iff :
    rule.readOffset 18 = 1 + rule.residue.length ↔ Aligned rule ∨ Compensated rule := by
  have htotal := hrule.length_residue_all
  let e : Fin 18 → Nat := fun i => if rule.Sends i ∧ Long i then 1 else 0
  let z : Fin 18 → Nat := fun i =>
    if rule.Sends i ∧ (rule.fields i).fieldLength = 0 then 1 else 0
  have hbalance : rule.readOffset 18 = 1 + rule.residue.length ↔
      e 0 + e 14 + e 15 + e 17 = 4 * (z 8 + z 9 + z 12 + z 13) := by
    change 1 + rule.residue.length + 4 * (z 8 + z 9 + z 12 + z 13) =
      rule.readOffset 18 + (e 0 + e 14 + e 15 + e 17) at htotal
    omega
  rw [hbalance]
  clear htotal hbalance
  constructor
  · intro hsum
    have he : ∀ i, e i ≤ 1 := fun i => indicator_le _
    have he0 := he 0
    have he14 := he 14
    have he15 := he 15
    have he17 := he 17
    by_cases hnone : z 8 + z 9 + z 12 + z 13 = 0
    · left
      intro i hi
      constructor
      · intro hlong
        have hei : e i = 1 := if_pos ⟨hi, hlong⟩
        rcases hlong with rfl | rfl | rfl | rfl <;> omega
      · intro hzero
        have hzi : z i = 1 := if_pos ⟨hi, hzero⟩
        rcases hrule.zero_width hzero with rfl | rfl | rfl | rfl <;> omega
    · right
      have hone : z 8 + z 9 + z 12 + z 13 = 1 := by omega
      constructor
      · intro i hlong
        have hei : e i = 1 := by rcases hlong with rfl | rfl | rfl | rfl <;> omega
        exact (of_indicator hei).1
      · obtain ⟨i, hi, hunique⟩ : ∃ i, z i = 1 ∧
            ∀ j, j = 8 ∨ j = 9 ∨ j = 12 ∨ j = 13 → z j = 1 → j = i := by
          obtain h | h | h | h : z 8 = 1 ∨ z 9 = 1 ∨ z 12 = 1 ∨ z 13 = 1 := by omega
          · exact ⟨8, h, by rintro j (rfl | rfl | rfl | rfl) hj <;> first | rfl | omega⟩
          · exact ⟨9, h, by rintro j (rfl | rfl | rfl | rfl) hj <;> first | rfl | omega⟩
          · exact ⟨12, h, by rintro j (rfl | rfl | rfl | rfl) hj <;> first | rfl | omega⟩
          · exact ⟨13, h, by rintro j (rfl | rfl | rfl | rfl) hj <;> first | rfl | omega⟩
        exact ⟨i, of_indicator hi, fun j hj hzero =>
          hunique j (hrule.zero_width hzero) (if_pos ⟨hj, hzero⟩)⟩
  · rintro (halign | ⟨hlong, i, hi, hunique⟩)
    · have hezero : ∀ i, e i = 0 := fun i => if_neg fun h => (halign i h.1).1 h.2
      have hzzero : ∀ i, z i = 0 := fun i => if_neg fun h => (halign i h.1).2 h.2
      simp only [hezero, hzzero]
    · have heone : ∀ i, Long i → e i = 1 := fun i h => if_pos ⟨hlong i h, h⟩
      have hzi : z i = 1 := if_pos hi
      have hzj : ∀ j, j ≠ i → z j = 0 := fun j hj => if_neg fun h => hj (hunique j h.1 h.2)
      rw [heone 0 (by decide), heone 14 (by decide), heone 15 (by decide), heone 17 (by decide)]
      rcases hrule.zero_width hi.2 with rfl | rfl | rfl | rfl
      · rw [hzi, hzj 9 (by decide), hzj 12 (by decide), hzj 13 (by decide)]
      · rw [hzi, hzj 8 (by decide), hzj 12 (by decide), hzj 13 (by decide)]
      · rw [hzi, hzj 8 (by decide), hzj 9 (by decide), hzj 13 (by decide)]
      · rw [hzi, hzj 8 (by decide), hzj 9 (by decide), hzj 12 (by decide)]

/-- No field is read from a byte past the 41st. -/
theorem SendsOrOmits.readOffset_le : rule.readOffset 18 ≤ 42 := by
  let bound : Fin 18 → Nat := fun i => if i = 3 ∨ i = 16 then 0 else readLength i
  have hle : ∀ i ∈ List.finRange 18, rule.readBytes i ≤ bound i := by
    intro i _
    by_cases hi : i = 3 ∨ i = 16
    · rw [hrule.readBytes_length hi]
      exact Nat.zero_le _
    · simp only [bound, if_neg hi, SCHC_Rule.readBytes]
      split
      · exact Nat.le_refl _
      · exact Nat.zero_le _
  have hbound : ((List.finRange 18).map bound).sum = 41 := by decide
  have hsum := List.sum_le_sum hle
  rw [rule.readOffset_eq_sum]
  omega

theorem SendsOrOmits.readOffset_of_aligned (halign : Aligned rule) {n : Nat} (hn : n ≤ 18) :
    rule.readOffset n = 1 + (rule.residueUpTo n).length := by
  induction n with
  | zero => rfl
  | succ n ih =>
    let i : Fin 18 := ⟨n, hn⟩
    have hstep := hrule.length_residue i
    rw [if_neg fun h => (halign i h.1).2 h.2, if_neg fun h => (halign i h.1).1 h.2] at hstep
    have hread : rule.readOffset (n + 1) = rule.readOffset n + rule.readBytes i :=
      rule.readOffset_succ i
    have hresidue : rule.residueUpTo (n + 1) = rule.residueUpTo n ++ (rule.fields i).residue :=
      rule.residueUpTo_succ i
    rw [hread, hresidue, List.length_append, ih (by omega)]
    omega

/-- In an aligned rule the decompressor finds every sent field's target value. -/
theorem SendsOrOmits.frame_getD (halign : Aligned rule) (data : List UInt8) {i : Fin 18}
    (hsent : rule.Sends i) {k : Nat} (hk : k < readLength i) :
    (1 :: (rule.residue ++ data)).getD (rule.readOffset i + k) 0 =
      byte (rule.fields i).targetValue k := by
  have h3 : i ≠ 3 := fun h => hrule.not_sends_length (.inl h) hsent
  have h16 : i ≠ 16 := fun h => hrule.not_sends_length (.inr h) hsent
  have hbytes : (rule.fields i).residue.length = readLength i := by
    rw [SCHC_Rule.residue_of_sends hsent, SCHC_Field.length_targetBytes, hrule.byteLength i h3 h16,
      if_neg (halign i hsent).2, if_neg (halign i hsent).1, Nat.add_zero]
  have hlt : (rule.residueUpTo i).length + k < rule.residue.length := by
    obtain ⟨rest, hrest⟩ := rule.residueUpTo_prefix (show (i : Nat) + 1 ≤ 18 from i.isLt)
    rw [rule.residueUpTo_all, rule.residueUpTo_succ] at hrest
    rw [← hrest, List.length_append, List.length_append]
    omega
  rw [hrule.readOffset_of_aligned halign i.isLt.le,
    show 1 + (rule.residueUpTo i).length + k = (rule.residueUpTo i).length + k + 1 by omega,
    List.getD_cons_succ, List.getD_append _ _ _ _ hlt, rule.residue_getD i (by omega),
    SCHC_Rule.residue_of_sends hsent]
  have hk' : k < (rule.fields i).byteLength := by
    rwa [← SCHC_Field.length_targetBytes, ← SCHC_Rule.residue_of_sends hsent, hbytes]
  simp [SCHC_Field.targetBytes, List.getD_eq_getElem?_getD, hk']

end Lengths

/-- What comes back for a sent field when its own target value is read for it: a
byte of it, or the word. Of the flow label it is the third byte. -/
def sentBack (target : BitVec 32) : Fin 18 → BitVec 32 :=
  let low := BitVec.ofNat 32 (byte target 0).toNat
  ![0, low, BitVec.ofNat 32 (byte target 2).toNat, 0, low, low, target, target, target, target,
    target, target, target, target, low, low, 0, low]

/-- The bytes of the compressed packet, as `pbuf_get_at` gives them. -/
def frameBytes (rule : SCHC_Rule) (data : List UInt8) : Mem :=
  fun i => (1 :: (rule.residue ++ data)).getD i 0

theorem SendsOrOmits.readBack_of_aligned {rule : SCHC_Rule} (hrule : SendsOrOmits rule)
    (halign : Aligned rule) (data : List UInt8) :
    ∀ i, rule.Sends i →
      rule.readBack (frameBytes rule data) i = sentBack (rule.fields i).targetValue i := by
  have hget : ∀ (i : Fin 18) (k : Nat), rule.Sends i → k < readLength i →
      frameBytes rule data (rule.readOffset i + k) = byte (rule.fields i).targetValue k :=
    fun i k hsent hk => hrule.frame_getD halign data hsent hk
  have hone : ∀ i : Fin 18, 0 < readLength i → rule.Sends i →
      BitVec.ofNat 32 (frameBytes rule data (rule.readOffset i)).toNat =
        BitVec.ofNat 32 (byte (rule.fields i).targetValue 0).toNat := by
    intro i hi hsent
    have h0 := hget i 0 hsent hi
    rw [Nat.add_zero] at h0
    rw [h0]
  have hflabel : rule.Sends 2 →
      BitVec.ofNat 32 (frameBytes rule data (rule.readOffset 2 + 2)).toNat =
        BitVec.ofNat 32 (byte (rule.fields 2).targetValue 2).toNat := by
    intro hsent
    have h2 : frameBytes rule data (rule.readOffset 2 + 2) = _ := hget 2 2 hsent (by decide)
    rw [h2]
  have hword : ∀ i : Fin 18, readLength i = 4 → rule.Sends i →
      le32At (frameBytes rule data) (rule.readOffset i) = (rule.fields i).targetValue := by
    intro i h4 hsent
    have h0 := hget i 0 hsent (by omega)
    rw [Nat.add_zero] at h0
    rw [le32At, h0, hget i 1 hsent (by omega), hget i 2 hsent (by omega),
      hget i 3 hsent (by omega), le32_leBytes]
  rw [forall_fin18]
  exact ⟨fun h => absurd (.inl rfl) (halign 0 h).1, hone 1 (by decide), hflabel,
    fun h => absurd h (hrule.not_sends_length (.inl rfl)), hone 4 (by decide), hone 5 (by decide),
    hword 6 rfl, hword 7 rfl, hword 8 rfl, hword 9 rfl, hword 10 rfl, hword 11 rfl, hword 12 rfl,
    hword 13 rfl, hone 14 (by decide), hone 15 (by decide),
    fun h => absurd h (hrule.not_sends_length (.inr rfl)), hone 17 (by decide)⟩

/-- The compressed packet: what `schc_compression` leaves in its buffer, followed by
the bytes behind the headers. -/
def compressedBytes (rules : RuleTable) (ip : ipv6_hdr) (udp : udp_schc_hdr) (schc_buffer : Mem)
    (data : List UInt8) : List UInt8 :=
  (schc_compression rules ip udp schc_buffer).1.read 0
    (schc_compression rules ip udp schc_buffer).2 ++ data

/-- `schc_decompression` of the compressed packet gives all 18 fields back, with the
global headers holding `ip₀` and `udp₀` before the call. -/
def Restores (rules : RuleTable) (ip : ipv6_hdr) (udp : udp_schc_hdr) (schc_buffer : Mem)
    (data : List UInt8) (ip₀ : ipv6_hdr) (udp₀ : udp_schc_hdr) : Prop :=
  let packet := compressedBytes rules ip udp schc_buffer data
  let headers := schc_decompression rules (fun i => packet.getD i 0) packet.length ip₀ udp₀
    (packet.getD 0 0)
  headers.1 = ip ∧ headers.2.1 = udp

instance (rules : RuleTable) (ip : ipv6_hdr) (udp : udp_schc_hdr) (schc_buffer : Mem)
    (data : List UInt8) (ip₀ : ipv6_hdr) (udp₀ : udp_schc_hdr) :
    Decidable (Restores rules ip udp schc_buffer data ip₀ udp₀) :=
  inferInstanceAs (Decidable (_ = ip ∧ _ = udp))

/-- The lengths come back right exactly when compressor and decompressor agree on
where the header ends. -/
theorem computed_length_eq_iff {n offset residue : Nat} {x : BitVec 16} (hx : x.toNat = n + 8)
    (hoffset : offset ≤ 42) (hfit : 1 + residue + n < 256) :
    BitVec.ofNat 16 ((1 + residue + n) % 256 + UDP_HLEN) - BitVec.ofNat 16 offset = x ↔
      offset = 1 + residue := by
  rw [← BitVec.toNat_inj, hx, BitVec.toNat_sub, BitVec.toNat_ofNat, BitVec.toNat_ofNat, UDP_HLEN]
  omega

/-- Compression followed by decompression restores every field exactly when each
field that is sent is as long as what is read for it and its target value is what
the header holds (of the flow label: the third byte of the target), or when the
four long fields make up for one field of width 0 and the bytes at the places so
displaced happen to spell the header. -/
theorem schc_lossless_iff {rules : RuleTable} (hrule : SendsOrOmits (rules 0)) {ip : ipv6_hdr}
    {udp : udp_schc_hdr} (hmatch : (rules 0).accepts ip udp = true) {data : List UInt8}
    (hip : ip.paylength.toNat = data.length + 8) (hudp : udp.length.toNat = data.length + 8)
    (htotal : 48 + data.length ≤ 255) (schc_buffer : Mem) (ip₀ : ipv6_hdr) (udp₀ : udp_schc_hdr) :
    Restores rules ip udp schc_buffer data ip₀ udp₀ ↔
      (Aligned (rules 0) ∧ ∀ i, (rules 0).Sends i →
        headerField ip udp i = sentBack ((rules 0).fields i).targetValue i) ∨
      (Compensated (rules 0) ∧ ∀ i, (rules 0).Sends i →
        headerField ip udp i = (rules 0).readBack (frameBytes (rules 0) data) i) := by
  have hoffset := hrule.readOffset_le
  have hresidue : (rules 0).residue.length ≤ 45 := by
    have hsum := hrule.length_residue_all
    have hle : ∀ P : Prop, ∀ [Decidable P], (if P then 1 else 0) ≤ 1 := indicator_le
    have h0 := hle ((rules 0).Sends 0 ∧ Long 0)
    have h14 := hle ((rules 0).Sends 14 ∧ Long 14)
    have h15 := hle ((rules 0).Sends 15 ∧ Long 15)
    have h17 := hle ((rules 0).Sends 17 ∧ Long 17)
    simp only at hsum
    omega
  have hbytes : compressedBytes rules ip udp schc_buffer data = 1 :: ((rules 0).residue ++ data) := by
    have hread := read_schc_compression_of_accepts schc_buffer hmatch
    have hcompress := congrArg Prod.snd (schc_compression_of_accepts schc_buffer hmatch)
    rw [Nat.mod_eq_of_lt (by omega)] at hcompress
    rw [compressedBytes, hcompress, hread, List.cons_append]
  have hlength : (1 :: ((rules 0).residue ++ data)).length =
      1 + (rules 0).residue.length + data.length := by
    rw [List.length_cons, List.length_append]
    omega
  have hslot : rules ((1 : UInt8) - 1).toNat = rules 0 := rfl
  have hrestored := hrule.restored_iff hmatch hslot (frameBytes (rules 0) data)
    (1 + (rules 0).residue.length + data.length) ip₀ udp₀
  rw [computed_length_eq_iff hip hoffset (by omega), computed_length_eq_iff hudp hoffset (by omega),
    and_self, hrule.balanced_iff] at hrestored
  have hunfold : Restores rules ip udp schc_buffer data ip₀ udp₀ ↔
      (Aligned (rules 0) ∨ Compensated (rules 0)) ∧ ∀ i, (rules 0).Sends i →
        headerField ip udp i = (rules 0).readBack (frameBytes (rules 0) data) i := by
    rw [← hrestored, Restores, hbytes, hlength]
    rfl
  rw [hunfold, or_and_right]
  refine or_congr (and_congr_right fun halign => ?_) Iff.rfl
  exact forall₂_congr fun i hsent => by rw [hrule.readBack_of_aligned halign data i hsent]

/-- A rule like rule 1 for a fixed source address that sends the hop limit. -/
def hopLimitRule : SCHC_Rule where
  id := 1
  fields := ![
    ⟨4, 0, 6, some .equal, .NOTSENT⟩,
    ⟨8, 0, 0, some .equal, .NOTSENT⟩,
    ⟨20, 0, 0, some .equal, .NOTSENT⟩,
    ⟨16, 0, 0, some .ignore, .COMPUTELENGTH⟩,
    ⟨8, 0, 17, some .equal, .NOTSENT⟩,
    ⟨8, 0, 255, some .ignore, .VALUESENT⟩,
    ⟨32, 0, 0xA8060120, some .equal, .NOTSENT⟩,
    ⟨32, 0, 0x0206801D, some .equal, .NOTSENT⟩,
    ⟨32, 0, 0x8500AF00, some .equal, .NOTSENT⟩,
    ⟨32, 0, 0x1F00A189, some .equal, .NOTSENT⟩,
    ⟨32, 0, 0xA8060120, some .equal, .NOTSENT⟩,
    ⟨32, 0, 0x2120801D, some .equal, .NOTSENT⟩,
    ⟨32, 0, 0xFF483002, some .equal, .NOTSENT⟩,
    ⟨32, 0, 0xE43E5AFE, some .equal, .NOTSENT⟩,
    ⟨16, 0, 1086, some .equal, .NOTSENT⟩,
    ⟨16, 0, 5683, some .equal, .NOTSENT⟩,
    ⟨16, 0, 0, some .ignore, .COMPUTELENGTH⟩,
    ⟨16, 0, 0, some .equal, .NOTSENT⟩]

theorem sendsOrOmits_hopLimitRule : SendsOrOmits hopLimitRule :=
  ⟨by decide, by decide, by decide⟩

/-- The headers of an uplink packet without payload, with the given hop limit. -/
def uplinkHeaders (hlimit : BitVec 8) : ipv6_hdr × udp_schc_hdr :=
  (⟨6, 0, 0, 8, 17, hlimit, ⟨0xA8060120, 0x0206801D, 0x8500AF00, 0x1F00A189⟩,
    ⟨0xA8060120, 0x2120801D, 0xFF483002, 0xE43E5AFE⟩⟩, ⟨1086, 5683, 8, 0⟩)

/-- The hop limit the rule sends is its own 255: a packet with hop limit 64 matches
the rule and comes back with hop limit 255. -/
theorem hopLimitRule_not_lossless :
    SendsOrOmits hopLimitRule ∧
      hopLimitRule.accepts (uplinkHeaders 64).1 (uplinkHeaders 64).2 = true ∧
      (uplinkHeaders 64).1.paylength.toNat = 8 ∧ (uplinkHeaders 64).2.length.toNat = 8 ∧
      ¬ Restores (fun _ => hopLimitRule) (uplinkHeaders 64).1 (uplinkHeaders 64).2 (fun _ => 0) []
        (uplinkHeaders 64).1 (uplinkHeaders 64).2 :=
  ⟨sendsOrOmits_hopLimitRule, by decide, by decide, by decide, by decide⟩

theorem schc_lossless_iff_hopLimitRule :
    Restores (fun _ => hopLimitRule) (uplinkHeaders 255).1 (uplinkHeaders 255).2 (fun _ => 0) []
      (uplinkHeaders 0).1 (uplinkHeaders 0).2 :=
  Iff.mpr (schc_lossless_iff sendsOrOmits_hopLimitRule (by decide) rfl rfl (by decide) _ _ _)
    (.inl ⟨by decide, by decide⟩)

end loranode.schc
