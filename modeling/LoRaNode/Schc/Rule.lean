import LoRaNode.Schc.Header
import Mathlib.Data.Fin.VecNotation

namespace loranode.schc

inductive CompDecompAction where
  | NOTSENT
  | VALUESENT
  | LSB
  | COMPUTELENGTH
  | COMPUTECHECKSUM
  | BUILDIID
  deriving DecidableEq, Repr

/-- The functions a field's `matchingOperator` may point to. -/
inductive MatchingOperator where
  | equal
  | ignore
  | MSB
  deriving DecidableEq, Repr

/-- `struct SCHC_Field`. The operator is `none` where the pointer is `NULL`, in
the slots of the rule table that `initializeRules` copies from untouched globals. -/
structure SCHC_Field where
  fieldLength : UInt8
  msbLength : UInt8
  targetValue : BitVec 32
  matchingOperator : Option MatchingOperator
  action : CompDecompAction
  deriving DecidableEq, Repr

instance neZero_amountOfFields : NeZero 18 :=
  ⟨Nat.succ_ne_zero 17⟩

/-- `struct SCHC_Rule`, of `AMOUNT_OF_FIELDS` fields. -/
structure SCHC_Rule where
  id : UInt8
  fields : Fin 18 → SCHC_Field

/-- The array `rules[4]`; an index past its end reads whatever memory follows it. -/
abbrev RuleTable := Nat → SCHC_Rule

def equal (field : SCHC_Field) (headerField : BitVec 32) : Bool :=
  field.targetValue == headerField

def ignore (_field : SCHC_Field) (_headerField : BitVec 32) : Bool :=
  true

def MSB (field : SCHC_Field) (headerField : BitVec 32) : Bool :=
  field.targetValue >>> (field.fieldLength.toNat - field.msbLength.toNat) ==
    headerField >>> (field.fieldLength.toNat - field.msbLength.toNat)

/-- The call through the pointer `matchingOperator`. The search of
`schc_compression` stays in slot 0, so the `NULL` of an empty slot is not called. -/
def SCHC_Field.accepts (field : SCHC_Field) (headerField : BitVec 32) : Bool :=
  match field.matchingOperator with
  | some .equal => equal field headerField
  | some .ignore => ignore field headerField
  | some .MSB => MSB field headerField
  | none => false

/-- The value of each of the 18 header fields, in the order of the rules, widened
to the 32-bit parameter of a matching operator. -/
def headerField (ip : ipv6_hdr) (udp : udp_schc_hdr) : Fin 18 → BitVec 32 :=
  ![ip.version.setWidth 32, ip.tclass.setWidth 32, ip.flabel.setWidth 32,
    ip.paylength.setWidth 32, ip.nheader.setWidth 32, ip.hlimit.setWidth 32,
    ip.ip6_src.Prefix1, ip.ip6_src.Prefix2, ip.ip6_src.IID1, ip.ip6_src.IID2,
    ip.ip6_dst.Prefix1, ip.ip6_dst.Prefix2, ip.ip6_dst.IID1, ip.ip6_dst.IID2,
    udp.srcPort.setWidth 32, udp.dstPort.setWidth 32, udp.length.setWidth 32,
    udp.checksum.setWidth 32]

/-- The fields of a zero-initialised `struct SCHC_Rule`, such as the globals
`rule3` and `rule4`. -/
def emptyRule : SCHC_Rule where
  id := 0
  fields := fun _ => ⟨0, 0, 0, none, .NOTSENT⟩

/-- `rule1`. No assignment sets `msbLength`: each field keeps what its stack slot held. -/
def rule1 (msb : Fin 18 → UInt8) : SCHC_Rule where
  id := 1
  fields := ![
    ⟨4, msb 0, 6, some .equal, .NOTSENT⟩,
    ⟨8, msb 1, 0, some .equal, .NOTSENT⟩,
    ⟨20, msb 2, 0, some .equal, .NOTSENT⟩,
    ⟨16, msb 3, 0, some .ignore, .COMPUTELENGTH⟩,
    ⟨8, msb 4, 17, some .equal, .NOTSENT⟩,
    ⟨8, msb 5, 255, some .ignore, .NOTSENT⟩,
    ⟨32, msb 6, 0xA8060120, some .equal, .NOTSENT⟩,
    ⟨32, msb 7, 0x0206801D, some .equal, .NOTSENT⟩,
    ⟨0, msb 8, 0, some .ignore, .BUILDIID⟩,
    ⟨0, msb 9, 0, some .ignore, .BUILDIID⟩,
    ⟨32, msb 10, 0xA8060120, some .equal, .NOTSENT⟩,
    ⟨32, msb 11, 0x2120801D, some .equal, .NOTSENT⟩,
    ⟨32, msb 12, 0xFF483002, some .equal, .NOTSENT⟩,
    ⟨32, msb 13, 0xE43E5AFE, some .equal, .NOTSENT⟩,
    ⟨16, msb 14, 1086, some .equal, .NOTSENT⟩,
    ⟨16, msb 15, 5683, some .equal, .NOTSENT⟩,
    ⟨16, msb 16, 0, some .ignore, .COMPUTELENGTH⟩,
    ⟨16, msb 17, 0, some .ignore, .COMPUTECHECKSUM⟩]

/-- `rule2`, with the roles of the two addresses and ports exchanged. -/
def rule2 (msb : Fin 18 → UInt8) : SCHC_Rule where
  id := 2
  fields := ![
    ⟨4, msb 0, 6, some .equal, .NOTSENT⟩,
    ⟨8, msb 1, 0, some .ignore, .NOTSENT⟩,
    ⟨20, msb 2, 0, some .ignore, .NOTSENT⟩,
    ⟨16, msb 3, 0, some .ignore, .COMPUTELENGTH⟩,
    ⟨8, msb 4, 17, some .equal, .NOTSENT⟩,
    ⟨8, msb 5, 255, some .ignore, .NOTSENT⟩,
    ⟨32, msb 6, 0xA8060120, some .equal, .NOTSENT⟩,
    ⟨32, msb 7, 0x2120801D, some .equal, .NOTSENT⟩,
    ⟨32, msb 8, 0xFF483002, some .equal, .NOTSENT⟩,
    ⟨32, msb 9, 0xE43E5AFE, some .equal, .NOTSENT⟩,
    ⟨32, msb 10, 0xA8060120, some .equal, .NOTSENT⟩,
    ⟨32, msb 11, 0x0206801D, some .equal, .NOTSENT⟩,
    ⟨0, msb 12, 0, some .ignore, .BUILDIID⟩,
    ⟨0, msb 13, 0, some .ignore, .BUILDIID⟩,
    ⟨16, msb 14, 5683, some .equal, .NOTSENT⟩,
    ⟨16, msb 15, 1086, some .equal, .NOTSENT⟩,
    ⟨16, msb 16, 0, some .ignore, .COMPUTELENGTH⟩,
    ⟨16, msb 17, 0, some .ignore, .COMPUTECHECKSUM⟩]

/-- The rule table after `initializeRules`; `rule3` and `rule4` are never assigned. -/
def initializeRules (rules : RuleTable) (msb1 msb2 : Fin 18 → UInt8) : RuleTable
  | 0 => rule1 msb1
  | 1 => rule2 msb2
  | 2 => emptyRule
  | 3 => emptyRule
  | k => rules k

/-- `LORAWAN_DEVICE_EUI`. -/
def DevEuiArray : List UInt8 :=
  [0x00, 0xAF, 0x00, 0x85, 0x89, 0xA1, 0x00, 0x1F]

end loranode.schc
