import LoRaNode.Schc.Lossless
import Mathlib.Algebra.Order.BigOperators.Group.List

open word

namespace loranode.schc

/-- The rules whose fields have the widths of one of the two installed rules, with any actions. -/
structure InstalledWidths (rule : SCHC_Rule) : Prop where
  width : ∀ i, (rule.fields i).fieldLength = ((rule1 fun _ => 0).fields i).fieldLength ∨
    (rule.fields i).fieldLength = ((rule2 fun _ => 0).fields i).fieldLength
  msb : ∀ i, (rule.fields i).msbLength ≤ (rule.fields i).fieldLength

/-- The bytes of the bits that an `LSB` field leaves to be sent. -/
def SCHC_Field.lsbBytes (field : SCHC_Field) : Nat :=
  let bits := field.fieldLength.toNat - field.msbLength.toNat
  if bits % 8 = 0 then bits / 8 else bits / 8 + 1

/-- The bytes by which `schc_decompression` advances for field `i`. The action `LSB` is read back
only for the traffic class and the flow label. -/
def SCHC_Rule.consumed (rule : SCHC_Rule) (i : Fin 18) : Nat :=
  match (rule.fields i).action with
  | .VALUESENT => readLength i
  | .LSB => if i = 1 then 1 else if i = 2 then (rule.fields i).lsbBytes else 0
  | _ => 0

section Switches

variable (rule : SCHC_Rule) (get : Mem) (off : Nat)

theorem restore_snd {w : Nat} (field : SCHC_Field) (old sent : BitVec w) (n : Nat) :
    (restore field old off sent n).2 = off + if field.action = .VALUESENT then n else 0 := by
  unfold restore
  cases field.action <;> simp

/-- A field that is read back only when it is sent. -/
theorem SCHC_Rule.consumed_eq (i : Fin 18) (h1 : i ≠ 1) (h2 : i ≠ 2) :
    rule.consumed i = if (rule.fields i).action = .VALUESENT then readLength i else 0 := by
  unfold SCHC_Rule.consumed
  cases (rule.fields i).action <;> simp [h1, h2]

theorem restoreTclass_snd (old : BitVec 8) :
    (restoreTclass (rule.fields 1) get off old).2 = off + rule.consumed 1 := by
  unfold restoreTclass SCHC_Rule.consumed
  cases hact : (rule.fields 1).action <;> simp [restore, hact, readLength]

theorem restoreFlabel_snd (old : BitVec 20) :
    (restoreFlabel (rule.fields 2) get off old).2 = off + rule.consumed 2 := by
  unfold restoreFlabel SCHC_Rule.consumed
  cases hact : (rule.fields 2).action <;> simp [restore, hact, readLength, SCHC_Field.lsbBytes]

theorem restorePaylength_snd (old : BitVec 16) :
    (restorePaylength (rule.fields 3) get off old).2 = off + rule.consumed 3 := by
  unfold restorePaylength SCHC_Rule.consumed
  cases (rule.fields 3).action <;> simp [readLength]

theorem restoreUDPlength_snd (old : BitVec 16) :
    (restoreUDPlength (rule.fields 16) get off old).2 = off + rule.consumed 16 := by
  unfold restoreUDPlength SCHC_Rule.consumed
  cases (rule.fields 16).action <;> simp [readLength]

theorem restoreChecksum_snd (old : BitVec 16) :
    (restoreChecksum (rule.fields 17) get off old).2 = off + rule.consumed 17 := by
  unfold restoreChecksum SCHC_Rule.consumed
  cases hact : (rule.fields 17).action <;> simp [restore, hact, readLength]

theorem restoreIID_snd (i : Fin 18) (hi : i = 8 ∨ i = 9 ∨ i = 12 ∨ i = 13) (old : BitVec 32)
    (k : Nat) : (restoreIID (rule.fields i) get off old k).2 = off + rule.consumed i := by
  rw [rule.consumed_eq i (by rintro rfl; simp at hi) (by rintro rfl; simp at hi)]
  have hlength : readLength i = 4 := by
    rcases hi with rfl | rfl | rfl | rfl <;> rfl
  unfold restoreIID
  cases hact : (rule.fields i).action <;> simp [restore, hact, hlength]

theorem restoreNheader_snd (old : BitVec 8) :
    (restoreNheader (rule.fields 4) get off old).2 = off + rule.consumed 4 := by
  rw [restoreNheader, restore_snd, rule.consumed_eq 4 (by decide) (by decide)]
  rfl

theorem restoreHlimit_snd (old : BitVec 8) :
    (restoreHlimit (rule.fields 5) get off old).2 = off + rule.consumed 5 := by
  rw [restoreHlimit, restore_snd, rule.consumed_eq 5 (by decide) (by decide)]
  rfl

theorem restorePrefix_snd (i : Fin 18) (hi : i = 6 ∨ i = 7 ∨ i = 10 ∨ i = 11) (old : BitVec 32) :
    (restorePrefix (rule.fields i) get off old).2 = off + rule.consumed i := by
  rw [restorePrefix, restore_snd]
  rcases hi with rfl | rfl | rfl | rfl <;>
    rw [rule.consumed_eq _ (by decide) (by decide)] <;> rfl

theorem restorePort_snd (i : Fin 18) (hi : i = 14 ∨ i = 15) (old : BitVec 16) :
    (restorePort (rule.fields i) get off old).2 = off + rule.consumed i := by
  rw [restorePort, restore_snd]
  rcases hi with rfl | rfl <;> rw [rule.consumed_eq _ (by decide) (by decide)] <;> rfl

end Switches

theorem sum_fin18 (f : Fin 18 → Nat) : ((List.finRange 18).map f).sum =
    f 0 + f 1 + f 2 + f 3 + f 4 + f 5 + f 6 + f 7 + f 8 + f 9 + f 10 + f 11 + f 12 + f 13 + f 14 +
      f 15 + f 16 + f 17 := by
  simp [List.finRange_succ]
  omega

/-- The offset that `schc_decompression` returns does not depend on the packet. -/
theorem offset_schc_decompression {rules : RuleTable} {ruleId : UInt8} {rule : SCHC_Rule}
    (hslot : rules (ruleId - 1).toNat = rule) (get : Mem) (tot_len : Nat) (ip : ipv6_hdr)
    (udp : udp_schc_hdr) :
    (schc_decompression rules get tot_len ip udp ruleId).2.2 =
      1 + ((List.finRange 18).map rule.consumed).sum := by
  have hversion : rule.consumed 0 = 0 := by
    rw [rule.consumed_eq 0 (by decide) (by decide)]
    exact ite_self 0
  rw [sum_fin18, hversion]
  simp only [schc_decompression, hslot, restoreChecksum_snd, restoreUDPlength_snd,
    restorePort_snd rule get _ 14 (.inl rfl), restorePort_snd rule get _ 15 (.inr rfl),
    restoreIID_snd rule get _ 8 (by decide), restoreIID_snd rule get _ 9 (by decide),
    restoreIID_snd rule get _ 12 (by decide), restoreIID_snd rule get _ 13 (by decide),
    restorePrefix_snd rule get _ 6 (by decide), restorePrefix_snd rule get _ 7 (by decide),
    restorePrefix_snd rule get _ 10 (by decide), restorePrefix_snd rule get _ 11 (by decide),
    restoreHlimit_snd, restoreNheader_snd, restorePaylength_snd, restoreFlabel_snd,
    restoreTclass_snd]
  omega

/-- The bytes that are sent for field `i`. -/
def SCHC_Rule.sent (rule : SCHC_Rule) (i : Fin 18) : Nat := (rule.fields i).residue.length

/-- The bytes that are sent for field `i` and not read back: the version is not read at all, and of
a port and of the checksum only one byte is. -/
def SCHC_Rule.unread (rule : SCHC_Rule) (i : Fin 18) : Nat :=
  if rule.Sends i ∧ (i = 0 ∨ i = 14 ∨ i = 15 ∨ i = 17) then 1 else 0

/-- The bytes that are read back for field `i` and not sent: those of an identifier word of width 0,
and what `LSB` leaves of the traffic class and of the flow label. -/
def SCHC_Rule.unsent (rule : SCHC_Rule) (i : Fin 18) : Nat :=
  match (rule.fields i).action with
  | .VALUESENT => if (rule.fields i).fieldLength = 0 then 4 else 0
  | .LSB => if i = 1 then 1 else if i = 2 then (rule.fields i).lsbBytes else 0
  | _ => 0

theorem SCHC_Rule.sent_of_sends {rule : SCHC_Rule} {i : Fin 18} (h : rule.Sends i) :
    rule.sent i = (rule.fields i).byteLength := by
  have hact : (rule.fields i).action = .VALUESENT := h
  rw [sent, SCHC_Field.residue, if_pos hact, SCHC_Field.length_targetBytes]

theorem SCHC_Rule.sent_of_not_sends {rule : SCHC_Rule} {i : Fin 18} (h : ¬ rule.Sends i) :
    rule.sent i = 0 := by
  have hact : (rule.fields i).action ≠ .VALUESENT := h
  rw [sent, SCHC_Field.residue, if_neg hact, List.length_nil]

/-- The bytes of a sent field, by the widths of the installed rules. -/
theorem InstalledWidths.byteLength {rule : SCHC_Rule} (hrule : InstalledWidths rule) (i : Fin 18) :
    (rule.fields i).byteLength + (if (rule.fields i).fieldLength = 0 then 4 else 0) =
      readLength i + if i = 0 ∨ i = 14 ∨ i = 15 ∨ i = 17 then 1 else 0 := by
  unfold SCHC_Field.byteLength
  rcases hrule.width i with h | h
  · rw [h]
    clear h
    revert i
    decide
  · rw [h]
    clear h
    revert i
    decide

/-- What is sent and what is read back, field by field. -/
theorem InstalledWidths.sent_add_unsent {rule : SCHC_Rule} (hrule : InstalledWidths rule)
    (i : Fin 18) : rule.sent i + rule.unsent i = rule.consumed i + rule.unread i := by
  by_cases hsends : rule.Sends i
  · have hbytes := hrule.byteLength i
    have hact : (rule.fields i).action = .VALUESENT := hsends
    rw [SCHC_Rule.sent_of_sends hsends, SCHC_Rule.unsent, SCHC_Rule.consumed, SCHC_Rule.unread, hact]
    simp only [hsends, true_and]
    exact hbytes
  · have hact : (rule.fields i).action ≠ .VALUESENT := hsends
    rw [SCHC_Rule.sent_of_not_sends hsends, SCHC_Rule.unread, SCHC_Rule.unsent, SCHC_Rule.consumed]
    cases h : (rule.fields i).action <;> simp_all

theorem SCHC_Rule.length_residue (rule : SCHC_Rule) :
    rule.residue.length = ((List.finRange 18).map rule.sent).sum := by
  rw [residue, List.length_flatMap]
  rfl

/-- The compressed header of a rule with these widths has at most 50 bytes. -/
theorem InstalledWidths.length_residue_le {rule : SCHC_Rule} (hrule : InstalledWidths rule) :
    rule.residue.length ≤ 49 := by
  have hle (i : Fin 18) : rule.sent i ≤
      readLength i + if i = 0 ∨ i = 14 ∨ i = 15 ∨ i = 17 then 1 else 0 := by
    have hbytes := hrule.byteLength i
    by_cases hsends : rule.Sends i
    · rw [SCHC_Rule.sent_of_sends hsends]
      omega
    · rw [SCHC_Rule.sent_of_not_sends hsends]
      exact Nat.zero_le _
  rw [rule.length_residue]
  refine Nat.le_trans (List.sum_le_sum fun i _ => hle i) ?_
  decide

/-- For a header that its rule matches, compressor and decompressor agree on where the payload
starts exactly if as many bytes are sent in vain as are read without having been sent. The two sides
take the length of a field from different places, field by field. -/
theorem schc_offset_eq_iff {rules : RuleTable} {ip : ipv6_hdr} {udp : udp_schc_hdr} (b : Mem)
    (payload : List UInt8) (ip₀ : ipv6_hdr) (udp₀ : udp_schc_hdr)
    (hrule : InstalledWidths (rules 0)) (hmatch : (rules 0).accepts ip udp = true) :
    let header := schc_compression rules ip udp b
    let packet := header.1.read 0 header.2 ++ payload
    header.2 = (schc_decompression rules (fun i => packet.getD i 0) packet.length ip₀ udp₀
        (packet.getD 0 0)).2.2 ↔
      ((List.finRange 18).map (rules 0).unread).sum =
        ((List.finRange 18).map (rules 0).unsent).sum := by
  intro header packet
  have hle := hrule.length_residue_le
  have hoffset : header.2 = 1 + ((List.finRange 18).map (rules 0).sent).sum := by
    rw [← SCHC_Rule.length_residue]
    change (schc_compression rules ip udp b).2 = _
    rw [schc_compression_of_accepts b hmatch]
    exact Nat.mod_eq_of_lt (by omega)
  have hid : packet.getD 0 0 = 1 := by
    have hbytes := read_schc_compression_of_accepts b hmatch
    change (header.1.read 0 header.2 ++ payload).getD 0 0 = 1
    rw [hoffset, ← SCHC_Rule.length_residue, hbytes]
    rfl
  have hslot : rules ((1 : UInt8) - 1).toNat = rules 0 := rfl
  have hread := offset_schc_decompression hslot (fun i => packet.getD i 0) packet.length ip₀ udp₀
  have hsum : ((List.finRange 18).map (rules 0).sent).sum +
        ((List.finRange 18).map (rules 0).unsent).sum =
      ((List.finRange 18).map (rules 0).consumed).sum +
        ((List.finRange 18).map (rules 0).unread).sum := by
    rw [← List.sum_map_add, ← List.sum_map_add]
    exact congrArg List.sum (List.map_congr_left fun i _ => hrule.sent_add_unsent i)
  rw [hid, hread, hoffset]
  omega

theorem installedWidths_hopLimitRule : InstalledWidths hopLimitRule := ⟨by decide, by decide⟩

/-- The hop limit is sent with the one byte that is read back. -/
theorem schc_offset_eq_iff_hopLimitRule :
    let header := schc_compression (fun _ => hopLimitRule) (uplinkHeaders 255).1
      (uplinkHeaders 255).2 (fun _ => 0)
    let packet := header.1.read 0 header.2 ++ [7]
    header.2 = 2 ∧
      header.2 = (schc_decompression (fun _ => hopLimitRule) (fun i => packet.getD i 0)
        packet.length (uplinkHeaders 0).1 (uplinkHeaders 0).2 (packet.getD 0 0)).2.2 :=
  ⟨by decide, (@schc_offset_eq_iff (fun _ => hopLimitRule) (uplinkHeaders 255).1
    (uplinkHeaders 255).2 (fun _ => 0) [7] (uplinkHeaders 0).1 (uplinkHeaders 0).2
    installedWidths_hopLimitRule (by decide)).mpr (by decide)⟩

/-- `rule1` with a source port that is sent. -/
def srcPortRule : SCHC_Rule :=
  { rule1 (fun _ => 0) with
    fields := Function.update (rule1 fun _ => 0).fields 14 ⟨16, 0, 1086, some .ignore, .VALUESENT⟩ }

/-- The source port is sent with two bytes, of which one is read back: the decompressor takes the
second one for the first byte of the payload. -/
theorem srcPortRule_offset_ne :
    InstalledWidths srcPortRule ∧
      srcPortRule.accepts (uplinkHeaders 255).1 (uplinkHeaders 255).2 = true ∧
      let header := schc_compression (fun _ => srcPortRule) (uplinkHeaders 255).1
        (uplinkHeaders 255).2 (fun _ => 0)
      let packet := header.1.read 0 header.2 ++ [7]
      header.2 ≠ (schc_decompression (fun _ => srcPortRule) (fun i => packet.getD i 0)
        packet.length (uplinkHeaders 0).1 (uplinkHeaders 0).2 (packet.getD 0 0)).2.2 :=
  ⟨⟨by decide, by decide⟩, by decide, by decide⟩

end loranode.schc
