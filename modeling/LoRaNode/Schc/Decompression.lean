import LoRaNode.Schc.Rule

open word

namespace loranode.schc

/-- The cases that the switches of `schc_decompression` share: the target value,
or the `n` bytes `sent` behind `schc_offset`. Any other action leaves the global
header field, and the offset, as they are. -/
def restore {w : Nat} (field : SCHC_Field) (old : BitVec w) (schc_offset : Nat) (sent : BitVec w)
    (n : Nat) : BitVec w × Nat :=
  match field.action with
  | .NOTSENT => (field.targetValue.setWidth w, schc_offset)
  | .VALUESENT => (sent, schc_offset + n)
  | _ => (old, schc_offset)

/-- The logical `||` of the source makes the value of an `LSB` field 0 or 1. -/
def lsbValue (field : SCHC_Field) (b : UInt8) : Nat :=
  if field.targetValue <<< (field.fieldLength.toNat - field.msbLength.toNat) ≠ 0 ∨ b ≠ 0 then 1 else 0

def restoreTclass (field : SCHC_Field) (get : Mem) (schc_offset : Nat) (old : BitVec 8) :
    BitVec 8 × Nat :=
  match field.action with
  | .LSB => (BitVec.ofNat 8 (lsbValue field (get schc_offset)), schc_offset + 1)
  | _ => restore field old schc_offset (BitVec.ofNat 8 (get schc_offset).toNat) 1

/-- The masks of the source select no bit of the first two bytes it reads. -/
def flabelSent (get : Mem) (schc_offset : Nat) : BitVec 20 :=
  BitVec.ofNat 20 ((get schc_offset).toNat <<< 20 &&& 983040 |||
    (get (schc_offset + 1)).toNat <<< 16 &&& 65280 ||| (get (schc_offset + 2)).toNat)

def restoreFlabel (field : SCHC_Field) (get : Mem) (schc_offset : Nat) (old : BitVec 20) :
    BitVec 20 × Nat :=
  match field.action with
  | .LSB =>
    let bits := field.fieldLength.toNat - field.msbLength.toNat
    (BitVec.ofNat 20 (lsbValue field (get schc_offset)),
      schc_offset + if bits % 8 = 0 then bits / 8 else bits / 8 + 1)
  | _ => restore field old schc_offset (flabelSent get schc_offset) 3

def restorePaylength (field : SCHC_Field) (get : Mem) (schc_offset : Nat) (old : BitVec 16) :
    BitVec 16 × Nat :=
  match field.action with
  | .VALUESENT =>
    (BitVec.ofNat 16 ((get schc_offset).toNat <<< 16 &&& 65280 |||
      (get (schc_offset + 1)).toNat &&& 255), schc_offset + 2)
  | _ => (old, schc_offset)

def restoreNheader (field : SCHC_Field) (get : Mem) (schc_offset : Nat) (old : BitVec 8) :
    BitVec 8 × Nat :=
  restore field old schc_offset (BitVec.ofNat 8 (get schc_offset).toNat) 1

def restoreHlimit (field : SCHC_Field) (get : Mem) (schc_offset : Nat) (old : BitVec 8) :
    BitVec 8 × Nat :=
  restore field old schc_offset (BitVec.ofNat 8 (get schc_offset).toNat) 1

def restorePrefix (field : SCHC_Field) (get : Mem) (schc_offset : Nat) (old : BitVec 32) :
    BitVec 32 × Nat :=
  restore field old schc_offset (le32At get schc_offset) 4

/-- An interface identifier word, which `BUILDIID` takes from the four bytes of
`DevEuiArray` at `k`. -/
def restoreIID (field : SCHC_Field) (get : Mem) (schc_offset : Nat) (old : BitVec 32) (k : Nat) :
    BitVec 32 × Nat :=
  match field.action with
  | .BUILDIID => (le32At (fun i => DevEuiArray.getD i 0) k, schc_offset)
  | _ => restore field old schc_offset (le32At get schc_offset) 4

/-- A port, of which only one byte is read back. -/
def restorePort (field : SCHC_Field) (get : Mem) (schc_offset : Nat) (old : BitVec 16) :
    BitVec 16 × Nat :=
  restore field old schc_offset (BitVec.ofNat 16 (get schc_offset).toNat) 1

def restoreUDPlength (field : SCHC_Field) (get : Mem) (schc_offset : Nat) (old : BitVec 16) :
    BitVec 16 × Nat :=
  match field.action with
  | .VALUESENT => (be16At get schc_offset, schc_offset + 2)
  | _ => (old, schc_offset)

def restoreChecksum (field : SCHC_Field) (get : Mem) (schc_offset : Nat) (old : BitVec 16) :
    BitVec 16 × Nat :=
  match field.action with
  | .COMPUTECHECKSUM => (0, schc_offset)
  | _ => restore field old schc_offset (BitVec.ofNat 16 (get schc_offset).toNat) 1

/-- The last two switches: `(uint8_t) p->tot_len + UDP_HLEN - schc_offset`, as a `uint16_t`. -/
def computeLength (field : SCHC_Field) (tot_len schc_offset : Nat) (old : BitVec 16) : BitVec 16 :=
  match field.action with
  | .COMPUTELENGTH => BitVec.ofNat 16 (tot_len % 256 + UDP_HLEN) - BitVec.ofNat 16 schc_offset
  | _ => old

/-- `schc_decompression` on the packet whose bytes are `get` (as `pbuf_get_at`
gives them) and whose total length is `tot_len`: the two global headers and the
offset behind the compressed header. `ruleId--` wraps in a `uint8_t`. The offset
stays below 76, so its own 8 bits never overflow. -/
def schc_decompression (rules : RuleTable) (get : Mem) (tot_len : Nat) (ip : ipv6_hdr)
    (udp : udp_schc_hdr) (ruleId : UInt8) : ipv6_hdr × udp_schc_hdr × Nat :=
  let field := (rules (ruleId - 1).toNat).fields
  let version := (field 0).targetValue.setWidth 4
  let tclass := restoreTclass (field 1) get 1 ip.tclass
  let flabel := restoreFlabel (field 2) get tclass.2 ip.flabel
  let paylength := restorePaylength (field 3) get flabel.2 ip.paylength
  let nheader := restoreNheader (field 4) get paylength.2 ip.nheader
  let hlimit := restoreHlimit (field 5) get nheader.2 ip.hlimit
  let srcPrefix1 := restorePrefix (field 6) get hlimit.2 ip.ip6_src.Prefix1
  let srcPrefix2 := restorePrefix (field 7) get srcPrefix1.2 ip.ip6_src.Prefix2
  let srcIID1 := restoreIID (field 8) get srcPrefix2.2 ip.ip6_src.IID1 0
  let srcIID2 := restoreIID (field 9) get srcIID1.2 ip.ip6_src.IID2 4
  let dstPrefix1 := restorePrefix (field 10) get srcIID2.2 ip.ip6_dst.Prefix1
  let dstPrefix2 := restorePrefix (field 11) get dstPrefix1.2 ip.ip6_dst.Prefix2
  let dstIID1 := restoreIID (field 12) get dstPrefix2.2 ip.ip6_dst.IID1 0
  let dstIID2 := restoreIID (field 13) get dstIID1.2 ip.ip6_dst.IID2 4
  let srcPort := restorePort (field 14) get dstIID2.2 udp.srcPort
  let dstPort := restorePort (field 15) get srcPort.2 udp.dstPort
  let length := restoreUDPlength (field 16) get dstPort.2 udp.length
  let checksum := restoreChecksum (field 17) get length.2 udp.checksum
  let schc_offset := checksum.2
  ({ version := version, tclass := tclass.1, flabel := flabel.1,
     paylength := computeLength (field 3) tot_len schc_offset paylength.1,
     nheader := nheader.1, hlimit := hlimit.1,
     ip6_src := ⟨srcPrefix1.1, srcPrefix2.1, srcIID1.1, srcIID2.1⟩,
     ip6_dst := ⟨dstPrefix1.1, dstPrefix2.1, dstIID1.1, dstIID2.1⟩ },
   { srcPort := srcPort.1, dstPort := dstPort.1,
     length := computeLength (field 16) tot_len schc_offset length.1, checksum := checksum.1 },
   schc_offset)

/-- The length both headers get from a rule that sends nothing but its id. -/
def computedLength (tot_len : Nat) : BitVec 16 :=
  BitVec.ofNat 16 (tot_len % 256 + UDP_HLEN) - BitVec.ofNat 16 1

theorem toNat_computedLength {tot_len : Nat} (h : tot_len < 256) :
    (computedLength tot_len).toNat = tot_len + 7 := by
  simp only [computedLength, UDP_HLEN, BitVec.toNat_sub, BitVec.toNat_ofNat]
  omega

/-- The headers that the installed rules stand for, in a packet of total length
`tot_len`: rule id 1 from the node to the server, any other id the way back. -/
def installedHeaders (ruleId : UInt8) (tot_len : Nat) : ipv6_hdr × udp_schc_hdr :=
  let node : v6_addr := ⟨0xA8060120, 0x0206801D, 0x8500AF00, 0x1F00A189⟩
  let server : v6_addr := ⟨0xA8060120, 0x2120801D, 0xFF483002, 0xE43E5AFE⟩
  let length := computedLength tot_len
  if ruleId = 1 then (⟨6, 0, 0, length, 17, 255, node, server⟩, ⟨1086, 5683, length, 0⟩)
  else (⟨6, 0, 0, length, 17, 255, server, node⟩, ⟨5683, 1086, length, 0⟩)

/-- Under the installed rules 1 and 2 no header value depends on the packet's
bytes or on the headers of an earlier packet. -/
theorem schc_decompression_installed (rules : RuleTable) (msb1 msb2 : Fin 18 → UInt8) (get : Mem)
    (tot_len : Nat) (ip : ipv6_hdr) (udp : udp_schc_hdr) {ruleId : UInt8}
    (hid : ruleId = 1 ∨ ruleId = 2) :
    schc_decompression (initializeRules rules msb1 msb2) get tot_len ip udp ruleId =
      ((installedHeaders ruleId tot_len).1, (installedHeaders ruleId tot_len).2, 1) := by
  rcases hid with rfl | rfl <;> rfl

theorem paylength_installedHeaders (ruleId : UInt8) (tot_len : Nat) :
    (installedHeaders ruleId tot_len).1.paylength = computedLength tot_len := by
  unfold installedHeaders
  split <;> rfl

/-- Rule ids 3 and 4 name slots that hold no rule: the lengths stay those of the
packet before. -/
theorem schc_decompression_empty {rules : RuleTable} {ruleId : UInt8} (get : Mem) (tot_len : Nat)
    (ip : ipv6_hdr) (udp : udp_schc_hdr) (hempty : rules (ruleId - 1).toNat = emptyRule) :
    schc_decompression rules get tot_len ip udp ruleId =
      ({ version := 0, tclass := 0, flabel := 0, paylength := ip.paylength,
         nheader := 0, hlimit := 0, ip6_src := ⟨0, 0, 0, 0⟩, ip6_dst := ⟨0, 0, 0, 0⟩ },
       { srcPort := 0, dstPort := 0, length := udp.length, checksum := 0 }, 1) := by
  rw [schc_decompression, hempty]
  rfl

end loranode.schc
