import LoRaNode.Lib.Word

open word

namespace loranode.schc

/-- `struct v6_addr`: an address as four words, each holding four bytes of the
address in memory order. -/
@[ext] structure v6_addr where
  Prefix1 : BitVec 32
  Prefix2 : BitVec 32
  IID1 : BitVec 32
  IID2 : BitVec 32
  deriving DecidableEq

@[ext] structure ipv6_hdr where
  version : BitVec 4
  tclass : BitVec 8
  flabel : BitVec 20
  paylength : BitVec 16
  nheader : BitVec 8
  hlimit : BitVec 8
  ip6_src : v6_addr
  ip6_dst : v6_addr
  deriving DecidableEq

@[ext] structure udp_schc_hdr where
  srcPort : BitVec 16
  dstPort : BitVec 16
  length : BitVec 16
  checksum : BitVec 16
  deriving DecidableEq

def IP6_HLEN : Nat := 40
def UDP_HLEN : Nat := 8

def v6_addr.ofBuffer (buffer : Mem) (off : Nat) : v6_addr where
  Prefix1 := le32At buffer off
  Prefix2 := le32At buffer (off + 4)
  IID1 := le32At buffer (off + 8)
  IID2 := le32At buffer (off + 12)

/-- The assignments to the global `ipv6_header` at the start of `schc_output`. -/
def ipv6_hdr.ofBuffer (buffer : Mem) : ipv6_hdr where
  version := BitVec.ofNat 4 ((buffer 0).toNat >>> 4 &&& 15)
  tclass := BitVec.ofNat 8 ((buffer 0).toNat <<< 4 &&& 240 ||| (buffer 1).toNat >>> 4 &&& 15)
  flabel := BitVec.ofNat 20
    ((buffer 1).toNat <<< 16 &&& 983040 ||| (buffer 2).toNat <<< 8 &&& 65280 ||| (buffer 3).toNat)
  paylength := be16At buffer 4
  nheader := BitVec.ofNat 8 (buffer 6).toNat
  hlimit := BitVec.ofNat 8 (buffer 7).toNat
  ip6_src := v6_addr.ofBuffer buffer 8
  ip6_dst := v6_addr.ofBuffer buffer 24

/-- The assignments to the global `udp_header` at the start of `schc_output`. -/
def udp_schc_hdr.ofBuffer (buffer : Mem) : udp_schc_hdr where
  srcPort := be16At buffer 40
  dstPort := be16At buffer 42
  length := be16At buffer 44
  checksum := be16At buffer 46

def v6_addr.toBytes (a : v6_addr) : List UInt8 :=
  leBytes a.Prefix1 ++ leBytes a.Prefix2 ++ leBytes a.IID1 ++ leBytes a.IID2

/-- The first 40 bytes of the array `buffer[48]` that `schc_input` fills. -/
def ipv6_hdr.toBytes (h : ipv6_hdr) : List UInt8 :=
  [UInt8.ofNat (h.version.toNat <<< 4 ||| h.tclass.toNat >>> 4),
    UInt8.ofNat (h.tclass.toNat <<< 4 ||| h.flabel.toNat >>> 16),
    UInt8.ofNat (h.flabel.toNat >>> 8), UInt8.ofNat h.flabel.toNat,
    byte h.paylength 1, byte h.paylength 0, byte h.nheader 0, byte h.hlimit 0] ++
    h.ip6_src.toBytes ++ h.ip6_dst.toBytes

/-- The last 8 bytes of the array `buffer[48]` that `schc_input` fills. -/
def udp_schc_hdr.toBytes (u : udp_schc_hdr) : List UInt8 :=
  [byte u.srcPort 1, byte u.srcPort 0, byte u.dstPort 1, byte u.dstPort 0,
    byte u.length 1, byte u.length 0, byte u.checksum 1, byte u.checksum 0]

@[simp] theorem v6_addr.length_toBytes (a : v6_addr) : a.toBytes.length = 16 := rfl

@[simp] theorem ipv6_hdr.length_toBytes (h : ipv6_hdr) : h.toBytes.length = 40 := rfl

@[simp] theorem udp_schc_hdr.length_toBytes (u : udp_schc_hdr) : u.toBytes.length = 8 := rfl

private theorem shiftLeft_and_mask (x n k : Nat) :
    x <<< n &&& (2 ^ k - 1) <<< n = x % 2 ^ k * 2 ^ n := by
  rw [← Nat.shiftLeft_and_distrib, Nat.and_two_pow_sub_one_eq_mod, Nat.shiftLeft_eq]

/-- The version is the high nibble of the first byte. -/
theorem ipv6_hdr.toNat_version_ofBuffer (b : Mem) :
    (ipv6_hdr.ofBuffer b).version.toNat = (b 0).toNat / 16 := by
  have h0 := toNat_lt_256 (b 0)
  have hmask := Nat.and_two_pow_sub_one_eq_mod ((b 0).toNat >>> 4) 4
  simp only [ofBuffer, BitVec.toNat_ofNat]
  rw [show (15 : Nat) = 2 ^ 4 - 1 from rfl, hmask, Nat.shiftRight_eq_div_pow]
  omega

/-- The traffic class straddles the first two bytes. -/
theorem ipv6_hdr.toNat_tclass_ofBuffer (b : Mem) :
    (ipv6_hdr.ofBuffer b).tclass.toNat = (b 0).toNat % 16 * 16 + (b 1).toNat / 16 := by
  have h1 := toNat_lt_256 (b 1)
  have hhigh := shiftLeft_and_mask (b 0).toNat 4 4
  have hlow := Nat.and_two_pow_sub_one_eq_mod ((b 1).toNat >>> 4) 4
  simp only [ofBuffer, BitVec.toNat_ofNat]
  rw [show (240 : Nat) = (2 ^ 4 - 1) <<< 4 from rfl, hhigh, show (15 : Nat) = 2 ^ 4 - 1 from rfl,
    hlow, Nat.shiftRight_eq_div_pow, ← Nat.shiftLeft_eq, ← Nat.shiftLeft_add_eq_or_of_lt (by omega),
    Nat.shiftLeft_eq]
  omega

/-- The flow label is the low 20 bits of the first four bytes. -/
theorem ipv6_hdr.toNat_flabel_ofBuffer (b : Mem) :
    (ipv6_hdr.ofBuffer b).flabel.toNat =
      (b 1).toNat % 16 * 65536 + (b 2).toNat * 256 + (b 3).toNat := by
  have h2 := toNat_lt_256 (b 2)
  have h3 := toNat_lt_256 (b 3)
  have hhigh := shiftLeft_and_mask (b 1).toNat 16 4
  have hmid := shiftLeft_and_mask (b 2).toNat 8 8
  simp only [ofBuffer, BitVec.toNat_ofNat]
  rw [show (983040 : Nat) = (2 ^ 4 - 1) <<< 16 from rfl, hhigh,
    show (65280 : Nat) = (2 ^ 8 - 1) <<< 8 from rfl, hmid, ← Nat.shiftLeft_eq _ 16,
    ← Nat.shiftLeft_add_eq_or_of_lt (by omega)]
  have hshift : ((b 1).toNat % 2 ^ 4) <<< 16 + (b 2).toNat % 2 ^ 8 * 2 ^ 8 =
      ((b 1).toNat % 2 ^ 4 * 2 ^ 8 + (b 2).toNat % 2 ^ 8) <<< 8 := by
    simp only [Nat.shiftLeft_eq]
    omega
  rw [hshift, ← Nat.shiftLeft_add_eq_or_of_lt (by omega), Nat.shiftLeft_eq]
  omega

theorem ipv6_hdr.toNat_toBytes_zero (h : ipv6_hdr) :
    (UInt8.ofNat (h.version.toNat <<< 4 ||| h.tclass.toNat >>> 4)).toNat =
      h.version.toNat * 16 + h.tclass.toNat / 16 := by
  have hv := h.version.isLt
  have ht := h.tclass.isLt
  rw [UInt8.toNat_ofNat', Nat.shiftRight_eq_div_pow, ← Nat.shiftLeft_add_eq_or_of_lt (by omega),
    Nat.shiftLeft_eq]
  omega

theorem ipv6_hdr.toNat_toBytes_one (h : ipv6_hdr) :
    (UInt8.ofNat (h.tclass.toNat <<< 4 ||| h.flabel.toNat >>> 16)).toNat =
      h.tclass.toNat % 16 * 16 + h.flabel.toNat / 65536 := by
  have ht := h.tclass.isLt
  have hf := h.flabel.isLt
  rw [UInt8.toNat_ofNat', Nat.shiftRight_eq_div_pow, ← Nat.shiftLeft_add_eq_or_of_lt (by omega),
    Nat.shiftLeft_eq]
  omega

@[simp] theorem v6_addr.toBytes_ofBuffer (b : Mem) (off : Nat) :
    (v6_addr.ofBuffer b off).toBytes = b.read off 16 := by
  simp only [toBytes, ofBuffer, leBytes_le32At]
  rw [show (16 : Nat) = 4 + 4 + 4 + 4 from rfl, Mem.read_add, Mem.read_add, Mem.read_add]

/-- Writing out a header that was read from a packet gives back the packet's
first 40 bytes. -/
@[simp] theorem ipv6_hdr.toBytes_ofBuffer (b : Mem) :
    (ipv6_hdr.ofBuffer b).toBytes = b.read 0 40 := by
  have h0 := toNat_lt_256 (b 0)
  have h1 := toNat_lt_256 (b 1)
  have h2 := toNat_lt_256 (b 2)
  have h3 := toNat_lt_256 (b 3)
  have hfirst : UInt8.ofNat ((ofBuffer b).version.toNat <<< 4 ||| (ofBuffer b).tclass.toNat >>> 4) =
      b 0 := by
    rw [← UInt8.toNat_inj, toNat_toBytes_zero, toNat_version_ofBuffer, toNat_tclass_ofBuffer]
    omega
  have hsecond : UInt8.ofNat ((ofBuffer b).tclass.toNat <<< 4 ||| (ofBuffer b).flabel.toNat >>> 16) =
      b 1 := by
    rw [← UInt8.toNat_inj, toNat_toBytes_one, toNat_tclass_ofBuffer, toNat_flabel_ofBuffer]
    omega
  have hthird : UInt8.ofNat ((ofBuffer b).flabel.toNat >>> 8) = b 2 := by
    rw [← UInt8.toNat_inj, UInt8.toNat_ofNat', toNat_flabel_ofBuffer, Nat.shiftRight_eq_div_pow]
    omega
  have hfourth : UInt8.ofNat (ofBuffer b).flabel.toNat = b 3 := by
    rw [← UInt8.toNat_inj, UInt8.toNat_ofNat', toNat_flabel_ofBuffer]
    omega
  have hbyte : ∀ x : UInt8, byte (BitVec.ofNat 8 x.toNat) 0 = x := by
    intro x
    have hx := toNat_lt_256 x
    rw [← UInt8.toNat_inj, toNat_byte, BitVec.toNat_ofNat]
    omega
  rw [toBytes, hfirst, hsecond, hthird, hfourth]
  simp only [ofBuffer, v6_addr.toBytes_ofBuffer, be16At, byte_one_be16, byte_zero_be16, hbyte]
  rw [show (40 : Nat) = 8 + 16 + 16 from rfl, Mem.read_add, Mem.read_add]
  rfl

/-- Writing out a UDP header that was read from a packet gives back its bytes. -/
@[simp] theorem udp_schc_hdr.toBytes_ofBuffer (b : Mem) :
    (udp_schc_hdr.ofBuffer b).toBytes = b.read 40 8 := by
  simp only [toBytes, ofBuffer, be16At, byte_one_be16, byte_zero_be16]
  rfl

section Assembled

variable (m : Mem) (ip : ipv6_hdr) (udp : udp_schc_hdr)

/-- The array `buffer[48]` of `schc_input`, whatever stands behind it. -/
def headerBuffer : Mem := m.write 0 (ip.toBytes ++ udp.toBytes)

/-- Reading the IPv6 header that was written out gives back its fields. -/
theorem ipv6_hdr.ofBuffer_headerBuffer : ipv6_hdr.ofBuffer (headerBuffer m ip udp) = ip := by
  have hversion := ip.version.isLt
  have htclass := ip.tclass.isLt
  have hflabel := ip.flabel.isLt
  have h0 : (headerBuffer m ip udp 0).toNat = _ := ip.toNat_toBytes_zero
  have h1 : (headerBuffer m ip udp 1).toNat = _ := ip.toNat_toBytes_one
  have h2 : (headerBuffer m ip udp 2).toNat = ip.flabel.toNat / 256 % 256 := by
    change (UInt8.ofNat (ip.flabel.toNat >>> 8)).toNat = _
    rw [UInt8.toNat_ofNat', Nat.shiftRight_eq_div_pow]
  have h3 : (headerBuffer m ip udp 3).toNat = ip.flabel.toNat % 256 := UInt8.toNat_ofNat'
  have hbyte (x : BitVec 8) : BitVec.ofNat 8 (byte x 0).toNat = x := by
    apply BitVec.eq_of_toNat_eq
    rw [BitVec.toNat_ofNat, toNat_byte]
    omega
  ext1
  · apply BitVec.eq_of_toNat_eq
    rw [toNat_version_ofBuffer, h0]
    omega
  · apply BitVec.eq_of_toNat_eq
    rw [toNat_tclass_ofBuffer, h0, h1]
    omega
  · apply BitVec.eq_of_toNat_eq
    rw [toNat_flabel_ofBuffer, h1, h2, h3]
    omega
  · exact be16_byte ip.paylength
  · exact hbyte ip.nheader
  · exact hbyte ip.hlimit
  · exact v6_addr.ext (le32_leBytes _) (le32_leBytes _) (le32_leBytes _) (le32_leBytes _)
  · exact v6_addr.ext (le32_leBytes _) (le32_leBytes _) (le32_leBytes _) (le32_leBytes _)

/-- Reading the UDP header that was written out gives back its fields. -/
theorem udp_schc_hdr.ofBuffer_headerBuffer : udp_schc_hdr.ofBuffer (headerBuffer m ip udp) = udp :=
  udp_schc_hdr.ext (be16_byte _) (be16_byte _) (be16_byte _) (be16_byte _)

end Assembled

/-- Extraction and assembly of the two headers are inverse to each other: on every 48 bytes, and on
all values of the fields. So no bit of a header is lost or moved between the bytes of a packet and
the two structures, whatever the rules then do with the fields. -/
theorem headers_bijective :
    (∀ buffer : Mem, (ipv6_hdr.ofBuffer buffer).toBytes ++ (udp_schc_hdr.ofBuffer buffer).toBytes =
      buffer.read 0 48) ∧
    ∀ (m : Mem) (ip : ipv6_hdr) (udp : udp_schc_hdr),
      ipv6_hdr.ofBuffer (headerBuffer m ip udp) = ip ∧
        udp_schc_hdr.ofBuffer (headerBuffer m ip udp) = udp := by
  refine ⟨fun buffer => ?_, fun m ip udp =>
    ⟨ip.ofBuffer_headerBuffer m udp, udp.ofBuffer_headerBuffer m ip⟩⟩
  rw [ipv6_hdr.toBytes_ofBuffer, udp_schc_hdr.toBytes_ofBuffer, ← Nat.zero_add 40, ← Mem.read_add]

end loranode.schc
