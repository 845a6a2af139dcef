import LoRaNode.Schc.Compression
import LoRaNode.Schc.Decompression
import Mathlib.Tactic.FinCases

open word

namespace loranode.schc

/-- The rules that either omit a field they have compared, or send a field they
have not: the field widths are those of one of the two installed rules, and the
two length fields are computed. -/
structure SendsOrOmits (rule : SCHC_Rule) : Prop where
  width : ∀ i, (rule.fields i).fieldLength = ((rule1 fun _ => 0).fields i).fieldLength ∨
    (rule.fields i).fieldLength = ((rule2 fun _ => 0).fields i).fieldLength
  lengths : ∀ i, i = 3 ∨ i = 16 → (rule.fields i).matchingOperator = some .ignore ∧
    (rule.fields i).action = .COMPUTELENGTH
  others : ∀ i, i ≠ 3 → i ≠ 16 →
    ((rule.fields i).matchingOperator = some .equal ∧ (rule.fields i).action = .NOTSENT) ∨
    ((rule.fields i).matchingOperator = some .ignore ∧ (rule.fields i).action = .VALUESENT)

/-- Field `i` is sent. -/
def SCHC_Rule.Sends (rule : SCHC_Rule) (i : Fin 18) : Prop :=
  (rule.fields i).action = .VALUESENT

instance (rule : SCHC_Rule) (i : Fin 18) : Decidable (rule.Sends i) :=
  inferInstanceAs (Decidable ((rule.fields i).action = .VALUESENT))

/-- The bytes `schc_decompression` reads for a field that is sent. The version is
never read, and only one byte of a port or of the checksum is. -/
def readLength : Fin 18 → Nat :=
  ![0, 1, 3, 2, 1, 1, 4, 4, 4, 4, 4, 4, 4, 4, 1, 1, 2, 1]

def SCHC_Rule.readBytes (rule : SCHC_Rule) (i : Fin 18) : Nat :=
  if rule.Sends i then readLength i else 0

/-- Where `schc_decompression` looks for field `n`. -/
def SCHC_Rule.readOffset (rule : SCHC_Rule) : Nat → Nat
  | 0 => 1
  | n + 1 => rule.readOffset n + if h : n < 18 then rule.readBytes ⟨n, h⟩ else 0

/-- The value `schc_decompression` gives field `i`: what it read, or the target. -/
def SCHC_Rule.pick {w : Nat} (rule : SCHC_Rule) (i : Fin 18) (sent : BitVec w) : BitVec w :=
  if rule.Sends i then sent else (rule.fields i).targetValue.setWidth w

/-- What `schc_decompression` makes of the bytes it reads for each field, as a
32-bit value. The version is taken from the rule even when it is sent. -/
def SCHC_Rule.readBack (rule : SCHC_Rule) (get : Mem) : Fin 18 → BitVec 32 :=
  let oneByte := fun i => BitVec.ofNat 32 (get (rule.readOffset i)).toNat
  let word := fun i => le32At get (rule.readOffset i)
  ![((rule.fields 0).targetValue.setWidth 4).setWidth 32, oneByte 1,
    BitVec.ofNat 32 (get (rule.readOffset 2 + 2)).toNat, 0, oneByte 4, oneByte 5,
    word 6, word 7, word 8, word 9, word 10, word 11, word 12, word 13,
    oneByte 14, oneByte 15, 0, oneByte 17]

theorem SendsOrOmits.action {rule : SCHC_Rule} (h : SendsOrOmits rule) {i : Fin 18} (h3 : i ≠ 3)
    (h16 : i ≠ 16) : (rule.fields i).action = .NOTSENT ∨ (rule.fields i).action = .VALUESENT :=
  (h.others i h3 h16).imp And.right And.right

/-- The masks leave of the flow label only the last byte that is read. -/
theorem flabelSent_eq (get : Mem) (off : Nat) :
    flabelSent get off = BitVec.ofNat 20 (get (off + 2)).toNat := by
  have h0 := toNat_lt_256 (get off)
  have hhigh : (get off).toNat <<< 20 &&& 983040 = 0 := by
    apply Nat.eq_of_testBit_eq
    intro i
    rw [Nat.testBit_and, Nat.testBit_shiftLeft, show 983040 = (2 ^ 4 - 1) <<< 16 from rfl,
      Nat.testBit_shiftLeft, Nat.testBit_two_pow_sub_one, Nat.zero_testBit]
    by_cases hi : 20 ≤ i
    · simp [show ¬ i - 16 < 4 by omega]
    · simp [hi]
  have hmid : (get (off + 1)).toNat <<< 16 &&& 65280 = 0 := by
    apply Nat.eq_of_testBit_eq
    intro i
    rw [Nat.testBit_and, Nat.testBit_shiftLeft, show 65280 = (2 ^ 8 - 1) <<< 8 from rfl,
      Nat.testBit_shiftLeft, Nat.testBit_two_pow_sub_one, Nat.zero_testBit]
    by_cases hi : 16 ≤ i
    · simp [show ¬ i - 8 < 8 by omega]
    · simp [hi]
  rw [flabelSent, hhigh, hmid, Nat.zero_or, Nat.zero_or]

section Switches

variable {field : SCHC_Field} (hact : field.action = .NOTSENT ∨ field.action = .VALUESENT)
  (get : Mem) (off : Nat)

include hact

theorem restore_eq {w : Nat} (old sent : BitVec w) (n : Nat) :
    restore field old off sent n =
      (if field.action = .VALUESENT then sent else field.targetValue.setWidth w,
        off + if field.action = .VALUESENT then n else 0) := by
  rcases hact with h | h <;> simp [restore, h]

theorem restoreTclass_eq (old : BitVec 8) :
    restoreTclass field get off old =
      restore field old off (BitVec.ofNat 8 (get off).toNat) 1 := by
  rcases hact with h | h <;> simp [restoreTclass, h]

theorem restoreFlabel_eq (old : BitVec 20) :
    restoreFlabel field get off old =
      restore field old off (BitVec.ofNat 20 (get (off + 2)).toNat) 3 := by
  rcases hact with h | h <;> simp [restoreFlabel, h, flabelSent_eq]

theorem restoreIID_eq (old : BitVec 32) (k : Nat) :
    restoreIID field get off old k = restore field old off (le32At get off) 4 := by
  rcases hact with h | h <;> simp [restoreIID, h]

theorem restoreChecksum_eq (old : BitVec 16) :
    restoreChecksum field get off old =
      restore field old off (BitVec.ofNat 16 (get off).toNat) 1 := by
  rcases hact with h | h <;> simp [restoreChecksum, h]

end Switches

theorem SCHC_Rule.readOffset_succ (rule : SCHC_Rule) (i : Fin 18) :
    rule.readOffset (i + 1) = rule.readOffset i + rule.readBytes i := by
  simp [readOffset]

theorem SCHC_Rule.readOffset_one (rule : SCHC_Rule) : rule.readOffset 1 = 1 := by
  have hzero : rule.readBytes 0 = 0 := ite_self 0
  rw [show (1 : Nat) = (0 : Fin 18) + 1 from rfl, rule.readOffset_succ 0, hzero]
  rfl

section Decompression

variable {rule : SCHC_Rule} (hrule : SendsOrOmits rule)

include hrule

theorem SendsOrOmits.not_sends_length {i : Fin 18} (hi : i = 3 ∨ i = 16) : ¬ rule.Sends i := by
  rw [SCHC_Rule.Sends, (hrule.lengths i hi).2]
  decide

theorem SendsOrOmits.readBytes_length {i : Fin 18} (hi : i = 3 ∨ i = 16) : rule.readBytes i = 0 :=
  if_neg (hrule.not_sends_length hi)

/-- One switch of `schc_decompression`: the value it picks, and the next offset. -/
theorem SendsOrOmits.restore_step {w : Nat} (i : Fin 18) (h3 : i ≠ 3) (h16 : i ≠ 16)
    (old sent : BitVec w) :
    restore (rule.fields i) old (rule.readOffset i) sent (readLength i) =
      (rule.pick i sent, rule.readOffset (i + 1)) := by
  rw [restore_eq (hrule.action h3 h16), rule.readOffset_succ]
  rfl

/-- `schc_decompression` in closed form: each field is read where the fields in
front of it end, and the two lengths are what is left of the packet. -/
theorem schc_decompression_eq {rules : RuleTable} {ruleId : UInt8}
    (hslot : rules (ruleId - 1).toNat = rule) (get : Mem) (tot_len : Nat) (ip : ipv6_hdr)
    (udp : udp_schc_hdr) :
    let at' := rule.readOffset
    let oneByte := fun w i => BitVec.ofNat w (get (at' i)).toNat
    let length := BitVec.ofNat 16 (tot_len % 256 + UDP_HLEN) - BitVec.ofNat 16 (at' 18)
    schc_decompression rules get tot_len ip udp ruleId =
      ({ version := (rule.fields 0).targetValue.setWidth 4
         tclass := rule.pick 1 (oneByte 8 1)
         flabel := rule.pick 2 (BitVec.ofNat 20 (get (at' 2 + 2)).toNat)
         paylength := length
         nheader := rule.pick 4 (oneByte 8 4)
         hlimit := rule.pick 5 (oneByte 8 5)
         ip6_src := ⟨rule.pick 6 (le32At get (at' 6)), rule.pick 7 (le32At get (at' 7)),
           rule.pick 8 (le32At get (at' 8)), rule.pick 9 (le32At get (at' 9))⟩
         ip6_dst := ⟨rule.pick 10 (le32At get (at' 10)), rule.pick 11 (le32At get (at' 11)),
           rule.pick 12 (le32At get (at' 12)), rule.pick 13 (le32At get (at' 13))⟩ },
       { srcPort := rule.pick 14 (oneByte 16 14)
         dstPort := rule.pick 15 (oneByte 16 15)
         length := length
         checksum := rule.pick 17 (oneByte 16 17) },
       at' 18) := by
  intro at' oneByte length
  have hpay : (rule.fields 3).action = .COMPUTELENGTH := (hrule.lengths 3 (.inl rfl)).2
  have hlen : (rule.fields 16).action = .COMPUTELENGTH := (hrule.lengths 16 (.inr rfl)).2
  have hone : at' 1 = 1 := rule.readOffset_one
  have htclass : restoreTclass (rule.fields 1) get (at' 1) ip.tclass =
      (rule.pick 1 (oneByte 8 1), at' 2) := by
    rw [restoreTclass_eq (hrule.action (by decide) (by decide))]
    exact hrule.restore_step 1 (by decide) (by decide) ..
  rw [hone] at htclass
  have hflabel : restoreFlabel (rule.fields 2) get (at' 2) ip.flabel =
      (rule.pick 2 (BitVec.ofNat 20 (get (at' 2 + 2)).toNat), at' 3) := by
    rw [restoreFlabel_eq (hrule.action (by decide) (by decide))]
    exact hrule.restore_step 2 (by decide) (by decide) ..
  have hpaylength : restorePaylength (rule.fields 3) get (at' 3) ip.paylength =
      (ip.paylength, at' 4) := by
    have hnext : at' 4 = at' 3 + rule.readBytes 3 := rule.readOffset_succ 3
    rw [hnext, hrule.readBytes_length (.inl rfl), restorePaylength, hpay]
    rfl
  have hlength : restoreUDPlength (rule.fields 16) get (at' 16) udp.length =
      (udp.length, at' 17) := by
    have hnext : at' 17 = at' 16 + rule.readBytes 16 := rule.readOffset_succ 16
    rw [hnext, hrule.readBytes_length (.inr rfl), restoreUDPlength, hlen]
    rfl
  have hchecksum : restoreChecksum (rule.fields 17) get (at' 17) udp.checksum =
      (rule.pick 17 (oneByte 16 17), at' 18) := by
    rw [restoreChecksum_eq (hrule.action (by decide) (by decide))]
    exact hrule.restore_step 17 (by decide) (by decide) ..
  have hnheader : restoreNheader (rule.fields 4) get (at' 4) ip.nheader =
      (rule.pick 4 (oneByte 8 4), at' 5) := hrule.restore_step 4 (by decide) (by decide) ..
  have hhlimit : restoreHlimit (rule.fields 5) get (at' 5) ip.hlimit =
      (rule.pick 5 (oneByte 8 5), at' 6) := hrule.restore_step 5 (by decide) (by decide) ..
  have h6 : restorePrefix (rule.fields 6) get (at' 6) ip.ip6_src.Prefix1 =
      (rule.pick 6 (le32At get (at' 6)), at' 7) :=
    hrule.restore_step 6 (by decide) (by decide) ..
  have h7 : restorePrefix (rule.fields 7) get (at' 7) ip.ip6_src.Prefix2 =
      (rule.pick 7 (le32At get (at' 7)), at' 8) :=
    hrule.restore_step 7 (by decide) (by decide) ..
  have h8 : restoreIID (rule.fields 8) get (at' 8) ip.ip6_src.IID1 0 =
      (rule.pick 8 (le32At get (at' 8)), at' 9) :=
    (restoreIID_eq (hrule.action (by decide) (by decide)) ..).trans
      (hrule.restore_step 8 (by decide) (by decide) ..)
  have h9 : restoreIID (rule.fields 9) get (at' 9) ip.ip6_src.IID2 4 =
      (rule.pick 9 (le32At get (at' 9)), at' 10) :=
    (restoreIID_eq (hrule.action (by decide) (by decide)) ..).trans
      (hrule.restore_step 9 (by decide) (by decide) ..)
  have h10 : restorePrefix (rule.fields 10) get (at' 10) ip.ip6_dst.Prefix1 =
      (rule.pick 10 (le32At get (at' 10)), at' 11) :=
    hrule.restore_step 10 (by decide) (by decide) ..
  have h11 : restorePrefix (rule.fields 11) get (at' 11) ip.ip6_dst.Prefix2 =
      (rule.pick 11 (le32At get (at' 11)), at' 12) :=
    hrule.restore_step 11 (by decide) (by decide) ..
  have h12 : restoreIID (rule.fields 12) get (at' 12) ip.ip6_dst.IID1 0 =
      (rule.pick 12 (le32At get (at' 12)), at' 13) :=
    (restoreIID_eq (hrule.action (by decide) (by decide)) ..).trans
      (hrule.restore_step 12 (by decide) (by decide) ..)
  have h13 : restoreIID (rule.fields 13) get (at' 13) ip.ip6_dst.IID2 4 =
      (rule.pick 13 (le32At get (at' 13)), at' 14) :=
    (restoreIID_eq (hrule.action (by decide) (by decide)) ..).trans
      (hrule.restore_step 13 (by decide) (by decide) ..)
  have h14 : restorePort (rule.fields 14) get (at' 14) udp.srcPort =
      (rule.pick 14 (oneByte 16 14), at' 15) :=
    hrule.restore_step 14 (by decide) (by decide) ..
  have h15 : restorePort (rule.fields 15) get (at' 15) udp.dstPort =
      (rule.pick 15 (oneByte 16 15), at' 16) :=
    hrule.restore_step 15 (by decide) (by decide) ..
  simp only [schc_decompression, hslot, htclass, hflabel, hpaylength, hnheader, hhlimit, h6, h7, h8,
    h9, h10, h11, h12, h13, h14, h15, hlength, hchecksum, computeLength, hpay, hlen]
  rfl

end Decompression

theorem forall_fin18 {P : Fin 18 → Prop} :
    (∀ i, P i) ↔ P 0 ∧ P 1 ∧ P 2 ∧ P 3 ∧ P 4 ∧ P 5 ∧ P 6 ∧ P 7 ∧ P 8 ∧ P 9 ∧ P 10 ∧ P 11 ∧ P 12 ∧
      P 13 ∧ P 14 ∧ P 15 ∧ P 16 ∧ P 17 := by
  simp [Fin.forall_fin_succ]

section Restored

variable {rule : SCHC_Rule} (hrule : SendsOrOmits rule) {ip : ipv6_hdr} {udp : udp_schc_hdr}
  (hmatch : rule.accepts ip udp = true)

include hrule hmatch

/-- A field comes back right exactly when, if it is sent, the bytes read for it
spell its value. A field that is not sent has been compared with its target. -/
theorem SendsOrOmits.pick_eq_iff {w : Nat} (hw : w ≤ 32) (i : Fin 18) (h3 : i ≠ 3) (h16 : i ≠ 16)
    {x sent : BitVec w} (hx : headerField ip udp i = x.setWidth 32) :
    rule.pick i sent = x ↔ (rule.Sends i → headerField ip udp i = sent.setWidth 32) := by
  rw [SCHC_Rule.pick, hx]
  split
  next hsent =>
    constructor
    · rintro rfl _
      rfl
    · intro h
      have hset := congrArg (BitVec.setWidth w) (h hsent)
      rw [BitVec.setWidth_setWidth_of_le _ hw, BitVec.setWidth_setWidth_of_le _ hw,
        BitVec.setWidth_eq, BitVec.setWidth_eq] at hset
      exact hset.symm
  next hsent =>
    have hequal : (rule.fields i).targetValue = headerField ip udp i := by
      rcases hrule.others i h3 h16 with ⟨hop, -⟩ | ⟨-, hact⟩
      · exact (SCHC_Field.accepts_equal hop _).1 ((rule.accepts_iff ip udp).1 hmatch i)
      · exact absurd hact hsent
    exact ⟨fun _ h => absurd h hsent,
      fun _ => (eq_setWidth_of_setWidth_eq hw (hequal.trans hx)).symm⟩

/-- All fields come back right exactly when the lengths do, and the bytes read for
every sent field spell its value. -/
theorem SendsOrOmits.restored_iff {rules : RuleTable} {ruleId : UInt8}
    (hslot : rules (ruleId - 1).toNat = rule) (get : Mem) (tot_len : Nat) (ip₀ : ipv6_hdr)
    (udp₀ : udp_schc_hdr) :
    ((schc_decompression rules get tot_len ip₀ udp₀ ruleId).1 = ip ∧
      (schc_decompression rules get tot_len ip₀ udp₀ ruleId).2.1 = udp) ↔
    (BitVec.ofNat 16 (tot_len % 256 + UDP_HLEN) - BitVec.ofNat 16 (rule.readOffset 18) = ip.paylength ∧
      BitVec.ofNat 16 (tot_len % 256 + UDP_HLEN) - BitVec.ofNat 16 (rule.readOffset 18) = udp.length) ∧
      ∀ i, rule.Sends i → headerField ip udp i = rule.readBack get i := by
  have hbyte : ∀ (w : Nat) (b : UInt8), 8 ≤ w → w ≤ 32 →
      (BitVec.ofNat w b.toNat).setWidth 32 = BitVec.ofNat 32 b.toNat := by
    intro w b hlow hhigh
    have hb := toNat_lt_256 b
    have hpow : 2 ^ 8 ≤ 2 ^ w := Nat.pow_le_pow_right (by decide) hlow
    apply BitVec.eq_of_toNat_eq
    rw [BitVec.toNat_setWidth, BitVec.toNat_ofNat, BitVec.toNat_ofNat,
      Nat.mod_eq_of_lt (show b.toNat < 2 ^ w by omega)]
  have hversion : (rule.fields 0).targetValue.setWidth 4 = ip.version ↔
      (rule.Sends 0 → headerField ip udp 0 = rule.readBack get 0) := by
    have hpick : rule.pick 0 ((rule.fields 0).targetValue.setWidth 4) =
        (rule.fields 0).targetValue.setWidth 4 := ite_self _
    rw [← hpick]
    exact hrule.pick_eq_iff hmatch (by decide) 0 (by decide) (by decide) rfl
  have hone : ∀ (w : Nat) (i : Fin 18) (x : BitVec w), 8 ≤ w → w ≤ 32 → i ≠ 3 → i ≠ 16 →
      headerField ip udp i = x.setWidth 32 →
      rule.readBack get i = BitVec.ofNat 32 (get (rule.readOffset i)).toNat →
      (rule.pick i (BitVec.ofNat w (get (rule.readOffset i)).toNat) = x ↔
        (rule.Sends i → headerField ip udp i = rule.readBack get i)) := by
    intro w i x hlow hhigh h3 h16 hx hback
    rw [hback, ← hbyte w _ hlow hhigh]
    exact hrule.pick_eq_iff hmatch hhigh i h3 h16 hx
  have hword : ∀ (i : Fin 18) (x : BitVec 32), i ≠ 3 → i ≠ 16 → headerField ip udp i = x →
      rule.readBack get i = le32At get (rule.readOffset i) →
      (rule.pick i (le32At get (rule.readOffset i)) = x ↔
        (rule.Sends i → headerField ip udp i = rule.readBack get i)) := by
    intro i x h3 h16 hx hback
    rw [hback, ← BitVec.setWidth_eq (le32At get (rule.readOffset i))]
    exact hrule.pick_eq_iff hmatch (Nat.le_refl 32) i h3 h16 (by rw [hx, BitVec.setWidth_eq])
  have hflabel : rule.pick 2 (BitVec.ofNat 20 (get (rule.readOffset 2 + 2)).toNat) = ip.flabel ↔
      (rule.Sends 2 → headerField ip udp 2 = rule.readBack get 2) := by
    have hback : rule.readBack get 2 = BitVec.ofNat 32 (get (rule.readOffset 2 + 2)).toNat := rfl
    rw [hback, ← hbyte 20 _ (by decide) (by decide)]
    exact hrule.pick_eq_iff hmatch (by decide) 2 (by decide) (by decide) rfl
  have heq := schc_decompression_eq hrule hslot get tot_len ip₀ udp₀
  simp only at heq
  have h1 := hone 8 1 ip.tclass (by decide) (by decide) (by decide) (by decide) rfl rfl
  have h4 := hone 8 4 ip.nheader (by decide) (by decide) (by decide) (by decide) rfl rfl
  have h5 := hone 8 5 ip.hlimit (by decide) (by decide) (by decide) (by decide) rfl rfl
  have h6 := hword 6 ip.ip6_src.Prefix1 (by decide) (by decide) rfl rfl
  have h7 := hword 7 ip.ip6_src.Prefix2 (by decide) (by decide) rfl rfl
  have h8 := hword 8 ip.ip6_src.IID1 (by decide) (by decide) rfl rfl
  have h9 := hword 9 ip.ip6_src.IID2 (by decide) (by decide) rfl rfl
  have h10 := hword 10 ip.ip6_dst.Prefix1 (by decide) (by decide) rfl rfl
  have h11 := hword 11 ip.ip6_dst.Prefix2 (by decide) (by decide) rfl rfl
  have h12 := hword 12 ip.ip6_dst.IID1 (by decide) (by decide) rfl rfl
  have h13 := hword 13 ip.ip6_dst.IID2 (by decide) (by decide) rfl rfl
  have h14 := hone 16 14 udp.srcPort (by decide) (by decide) (by decide) (by decide) rfl rfl
  have h15 := hone 16 15 udp.dstPort (by decide) (by decide) (by decide) (by decide) rfl rfl
  have h17 := hone 16 17 udp.checksum (by decide) (by decide) (by decide) (by decide) rfl rfl
  rw [heq]
  constructor
  · rintro ⟨hip, hudp⟩
    have hsrc := congrArg ipv6_hdr.ip6_src hip
    have hdst := congrArg ipv6_hdr.ip6_dst hip
    refine ⟨⟨congrArg ipv6_hdr.paylength hip, congrArg udp_schc_hdr.length hudp⟩, ?_⟩
    rw [forall_fin18]
    exact ⟨hversion.1 (congrArg ipv6_hdr.version hip), h1.1 (congrArg ipv6_hdr.tclass hip),
      hflabel.1 (congrArg ipv6_hdr.flabel hip),
      fun h => absurd h (hrule.not_sends_length (.inl rfl)),
      h4.1 (congrArg ipv6_hdr.nheader hip), h5.1 (congrArg ipv6_hdr.hlimit hip),
      h6.1 (congrArg v6_addr.Prefix1 hsrc), h7.1 (congrArg v6_addr.Prefix2 hsrc),
      h8.1 (congrArg v6_addr.IID1 hsrc), h9.1 (congrArg v6_addr.IID2 hsrc),
      h10.1 (congrArg v6_addr.Prefix1 hdst), h11.1 (congrArg v6_addr.Prefix2 hdst),
      h12.1 (congrArg v6_addr.IID1 hdst), h13.1 (congrArg v6_addr.IID2 hdst),
      h14.1 (congrArg udp_schc_hdr.srcPort hudp), h15.1 (congrArg udp_schc_hdr.dstPort hudp),
      fun h => absurd h (hrule.not_sends_length (.inr rfl)),
      h17.1 (congrArg udp_schc_hdr.checksum hudp)⟩
  · rintro ⟨⟨hpay, hlen⟩, hall⟩
    exact ⟨ipv6_hdr.ext (hversion.2 (hall 0)) (h1.2 (hall 1)) (hflabel.2 (hall 2)) hpay
        (h4.2 (hall 4)) (h5.2 (hall 5))
        (v6_addr.ext (h6.2 (hall 6)) (h7.2 (hall 7)) (h8.2 (hall 8)) (h9.2 (hall 9)))
        (v6_addr.ext (h10.2 (hall 10)) (h11.2 (hall 11)) (h12.2 (hall 12)) (h13.2 (hall 13))),
      udp_schc_hdr.ext (h14.2 (hall 14)) (h15.2 (hall 15)) hlen (h17.2 (hall 17))⟩

end Restored

end loranode.schc
