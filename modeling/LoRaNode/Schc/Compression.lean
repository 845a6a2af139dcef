import LoRaNode.Schc.Rule

open word

namespace loranode.schc

/-- The checks of one turn of the search loop of `schc_compression`: the rule is
taken when the operator of every field accepts the header's value. -/
def SCHC_Rule.accepts (rule : SCHC_Rule) (ip : ipv6_hdr) (udp : udp_schc_hdr) : Bool :=
  (List.finRange 18).all fun i => (rule.fields i).accepts (headerField ip udp i)

/-- The search loop: `n` slots are left to try, starting with `ruleId`. -/
def searchRules (rules : RuleTable) (ip : ipv6_hdr) (udp : udp_schc_hdr) : Nat → Nat → Option Nat
  | 0, _ => none
  | n + 1, ruleId =>
    if (rules ruleId).accepts ip udp then some ruleId
    else searchRules rules ip udp n (ruleId + 1)

/-- The number of bytes that hold `fieldLength` bits. -/
def SCHC_Field.byteLength (field : SCHC_Field) : Nat :=
  if field.fieldLength.toNat % 8 = 0 then field.fieldLength.toNat / 8
  else field.fieldLength.toNat / 8 + 1

/-- The bytes `memcpy` copies from `&targetValue` on a little-endian machine. -/
def SCHC_Field.targetBytes (field : SCHC_Field) : List UInt8 :=
  (List.range field.byteLength).map (byte field.targetValue)

/-- The loop that fills `schc_buffer` from `schc_offset` on. -/
def compressFields (rule : SCHC_Rule) : List (Fin 18) → Mem → Nat → Mem × Nat
  | [], schc_buffer, schc_offset => (schc_buffer, schc_offset)
  | fieldId :: rest, schc_buffer, schc_offset =>
    let field := rule.fields fieldId
    match field.action with
    | .NOTSENT => compressFields rule rest schc_buffer schc_offset
    | .VALUESENT =>
      compressFields rule rest (schc_buffer.write schc_offset field.targetBytes)
        (schc_offset + field.byteLength)
    | .LSB => compressFields rule rest schc_buffer schc_offset
    | .COMPUTELENGTH => compressFields rule rest schc_buffer schc_offset
    | .COMPUTECHECKSUM => compressFields rule rest schc_buffer schc_offset
    | .BUILDIID => compressFields rule rest schc_buffer schc_offset

/-- The buffer after `schc_compression` and the offset it returns as a `uint8_t`.
Only slot 0 of the table is searched, because the loop runs while `ruleId<1`. -/
def schc_compression (rules : RuleTable) (ip : ipv6_hdr) (udp : udp_schc_hdr) (schc_buffer : Mem) :
    Mem × Nat :=
  match searchRules rules ip udp 1 0 with
  | some ruleId =>
    let (schc_buffer, schc_offset) := compressFields (rules ruleId) (List.finRange 18) schc_buffer 1
    (schc_buffer.write 0 [UInt8.ofNat (ruleId + 1)], schc_offset % 256)
  | none => (schc_buffer.write 0 [0], 1)

theorem SCHC_Rule.accepts_iff (rule : SCHC_Rule) (ip : ipv6_hdr) (udp : udp_schc_hdr) :
    rule.accepts ip udp = true ↔
      ∀ i, (rule.fields i).accepts (headerField ip udp i) = true := by
  simp [accepts]

theorem SCHC_Field.accepts_equal {field : SCHC_Field} (hop : field.matchingOperator = some .equal)
    (value : BitVec 32) : field.accepts value = true ↔ field.targetValue = value := by
  simp [accepts, hop, equal]

/-- A value that an operator sees widened to 32 bits is the narrowed target. -/
theorem eq_setWidth_of_setWidth_eq {w : Nat} {target : BitVec 32} {value : BitVec w} (hw : w ≤ 32)
    (h : target = value.setWidth 32) : value = target.setWidth w := by
  rw [h, BitVec.setWidth_setWidth_of_le _ hw, BitVec.setWidth_eq]

/-- The bytes a field adds to the compressed header. -/
def SCHC_Field.residue (field : SCHC_Field) : List UInt8 :=
  if field.action = .VALUESENT then field.targetBytes else []

@[simp] theorem SCHC_Field.length_targetBytes (field : SCHC_Field) :
    field.targetBytes.length = field.byteLength := by
  simp [targetBytes]

/-- The loop appends the residues of the fields in their order, whatever the
buffer held before. -/
theorem compressFields_eq (rule : SCHC_Rule) (ids : List (Fin 18)) (b : Mem) (off : Nat) :
    compressFields rule ids b off =
      (b.write off (ids.flatMap fun i => (rule.fields i).residue),
        off + (ids.flatMap fun i => (rule.fields i).residue).length) := by
  induction ids generalizing b off with
  | nil => simp [compressFields]
  | cons i ids ih =>
    rw [List.flatMap_cons, List.length_append]
    by_cases hsent : (rule.fields i).action = .VALUESENT
    · have hres : (rule.fields i).residue = (rule.fields i).targetBytes := if_pos hsent
      simp only [compressFields, hsent, ih, hres, ← Mem.write_write_append,
        SCHC_Field.length_targetBytes, Nat.add_assoc]
    · have hres : (rule.fields i).residue = [] := if_neg hsent
      rw [hres, List.nil_append, List.length_nil, Nat.zero_add, ← ih]
      cases hact : (rule.fields i).action <;> simp_all [compressFields]

/-- The residue of a whole rule. -/
def SCHC_Rule.residue (rule : SCHC_Rule) : List UInt8 :=
  (List.finRange 18).flatMap fun i => (rule.fields i).residue

/-- A packet that slot 0 matches gets rule id 1, followed by the rule's residue. -/
theorem schc_compression_of_accepts {rules : RuleTable} {ip : ipv6_hdr} {udp : udp_schc_hdr}
    (b : Mem) (hmatch : (rules 0).accepts ip udp = true) :
    schc_compression rules ip udp b =
      ((b.write 1 (rules 0).residue).write 0 [1], (1 + (rules 0).residue.length) % 256) := by
  simp only [schc_compression, searchRules, hmatch, if_true, compressFields_eq, SCHC_Rule.residue]
  rfl

/-- A packet that slot 0 does not match gets rule id 0 and no residue. -/
theorem schc_compression_of_not_accepts {rules : RuleTable} {ip : ipv6_hdr} {udp : udp_schc_hdr}
    (b : Mem) (hmatch : (rules 0).accepts ip udp = false) :
    schc_compression rules ip udp b = (b.write 0 [0], 1) := by
  simp [schc_compression, searchRules, hmatch]

/-- The compressed header, as the bytes `schc_buffer` holds up to the returned offset. -/
theorem read_schc_compression_of_accepts {rules : RuleTable} {ip : ipv6_hdr} {udp : udp_schc_hdr}
    (b : Mem) (hmatch : (rules 0).accepts ip udp = true) :
    (schc_compression rules ip udp b).1.read 0 (1 + (rules 0).residue.length) =
      1 :: (rules 0).residue := by
  rw [schc_compression_of_accepts b hmatch, Nat.add_comm 1, Mem.read_succ,
    Mem.read_write_of_disjoint (by simp), Mem.read_write_self]
  rfl

end loranode.schc
