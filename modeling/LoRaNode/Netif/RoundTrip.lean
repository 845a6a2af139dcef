import LoRaNode.Netif.Input
import LoRaNode.Netif.Output

open loranode.lwip loranode.schc word

namespace loranode.netif

theorem residue_rule1 (msb : Fin 18 → UInt8) : (rule1 msb).residue = [] :=
  rfl

/-- What rule 1 demands of a header: everything but the lengths, the hop limit,
the source interface identifier and the checksum is fixed. -/
theorem rule1_accepts {msb : Fin 18 → UInt8} {ip : ipv6_hdr} {udp : udp_schc_hdr}
    (h : (rule1 msb).accepts ip udp = true) :
    ip = { version := 6, tclass := 0, flabel := 0, paylength := ip.paylength, nheader := 17,
           hlimit := ip.hlimit,
           ip6_src := ⟨0xA8060120, 0x0206801D, ip.ip6_src.IID1, ip.ip6_src.IID2⟩,
           ip6_dst := ⟨0xA8060120, 0x2120801D, 0xFF483002, 0xE43E5AFE⟩ } ∧
      udp = { srcPort := 1086, dstPort := 5683, length := udp.length, checksum := udp.checksum } := by
  have hfield := (SCHC_Rule.accepts_iff _ _ _).1 h
  have heq : ∀ i, ((rule1 msb).fields i).matchingOperator = some .equal →
      ((rule1 msb).fields i).targetValue = headerField ip udp i :=
    fun i hop => (SCHC_Field.accepts_equal hop _).1 (hfield i)
  have hversion : ip.version = _ := eq_setWidth_of_setWidth_eq (by decide) (heq 0 rfl)
  have htclass : ip.tclass = _ := eq_setWidth_of_setWidth_eq (by decide) (heq 1 rfl)
  have hflabel : ip.flabel = _ := eq_setWidth_of_setWidth_eq (by decide) (heq 2 rfl)
  have hnheader : ip.nheader = _ := eq_setWidth_of_setWidth_eq (by decide) (heq 4 rfl)
  have hsrcPort : udp.srcPort = _ := eq_setWidth_of_setWidth_eq (by decide) (heq 14 rfl)
  have hdstPort : udp.dstPort = _ := eq_setWidth_of_setWidth_eq (by decide) (heq 15 rfl)
  constructor
  · refine ipv6_hdr.ext hversion htclass hflabel rfl hnheader rfl ?_ ?_
    · exact v6_addr.ext (heq 6 rfl).symm (heq 7 rfl).symm rfl rfl
    · exact v6_addr.ext (heq 10 rfl).symm (heq 11 rfl).symm (heq 12 rfl).symm (heq 13 rfl).symm
  · exact udp_schc_hdr.ext hsrcPort hdstPort rfl rfl

/-- A packet with its hop limit set to 255, its source interface identifier to the
device's EUI and its UDP checksum to 0. -/
def normalised (packet : Mem) : Mem :=
  ((packet.write 7 [255]).write 16 DevEuiArray).write 46 [0, 0]

/-- The headers that rule 1 stands for are those of the normalised packet, if the
lengths agree. -/
theorem installedHeaders_one_eq {rules : RuleTable} {msb1 msb2 : Fin 18 → UInt8} {packet : Mem}
    {n : Nat} (hmatch : ruleMatches (initializeRules rules msb1 msb2) packet = true)
    (hip : (ipv6_hdr.ofBuffer packet).paylength = computedLength n)
    (hudp : (udp_schc_hdr.ofBuffer packet).length = computedLength n) :
    installedHeaders 1 n =
      (ipv6_hdr.ofBuffer (normalised packet), udp_schc_hdr.ofBuffer (normalised packet)) := by
  obtain ⟨hipv6, hudpv6⟩ := rule1_accepts hmatch
  have hIID1 : le32At (normalised packet) 16 = 0x8500AF00 :=
    show le32 0x00 0xAF 0x00 0x85 = 0x8500AF00 from rfl
  have hIID2 : le32At (normalised packet) 20 = 0x1F00A189 :=
    show le32 0x89 0xA1 0x00 0x1F = 0x1F00A189 from rfl
  have hsrc : (ipv6_hdr.ofBuffer (normalised packet)).ip6_src =
      { (ipv6_hdr.ofBuffer packet).ip6_src with IID1 := 0x8500AF00, IID2 := 0x1F00A189 } :=
    v6_addr.ext rfl rfl hIID1 hIID2
  have hnormal : ipv6_hdr.ofBuffer (normalised packet) =
      { ipv6_hdr.ofBuffer packet with
        hlimit := 255
        ip6_src := { (ipv6_hdr.ofBuffer packet).ip6_src with
          IID1 := 0x8500AF00, IID2 := 0x1F00A189 } } :=
    ipv6_hdr.ext rfl rfl rfl rfl rfl rfl hsrc rfl
  have hnormal' : udp_schc_hdr.ofBuffer (normalised packet) =
      { udp_schc_hdr.ofBuffer packet with checksum := 0 } :=
    udp_schc_hdr.ext rfl rfl rfl (show be16 0 0 = 0 from rfl)
  rw [hnormal, hnormal', hipv6, hudpv6, hip, hudp]
  rfl

theorem read_normalised_tail (packet : Mem) (n : Nat) :
    (normalised packet).read 48 n = packet.read 48 n := by
  rw [normalised, Mem.read_write_of_disjoint (.inr (by decide)),
    Mem.read_write_of_disjoint (.inr (by decide)), Mem.read_write_of_disjoint (.inr (by decide))]

theorem read_normalised (packet : Mem) (n : Nat) :
    (normalised packet).read 0 (48 + n) =
      (normalised packet).read 0 40 ++ (normalised packet).read 40 8 ++ packet.read 48 n := by
  rw [← read_normalised_tail, show 48 + n = 40 + (8 + n) by omega, Mem.read_add, Mem.read_add,
    List.append_assoc]

theorem Net.frame_mailed (s : Net) (frame : List UInt8) (buffer : Mem) (heap : Heap)
    (hlen : frame.length < 256) : (s.mailed frame buffer heap).frame = frame := by
  have hsize : (UInt8.ofNat frame.length).toNat = frame.length := by
    rw [UInt8.toNat_ofNat']
    exact Nat.mod_eq_of_lt hlen
  simp only [Net.frame, Net.mailed, hsize, Mem.read_write_self]

/-- The way there and back of a packet that misses the rule. -/
theorem delivered_of_miss {s : Net} {p : Nat} (hp : s.heap.Contiguous p)
    (hmiss : ruleMatches s.rules (s.heap.pbufs p).payload = false)
    (hhigh : (s.heap.pbufs p).len ≤ 239)
    (hmem : s.heap.mem_malloc s.heap.requests = true) (hpool : 2 ≤ s.heap.pool) :
    (virtualloraif_input (schc_output s p).2).trace.delivered =
      s.trace.delivered ++ [some (s.heap.packet (some p))] := by
  obtain ⟨heap, hheap, hout⟩ :=
    (emits_uncompressed hp.isPacket hmiss (by rw [hp.tot_len]; omega) hmem).schc_output
  have hframe := s.frame_mailed (0 :: s.heap.packet (some p)) (s.heap.pbufs p).payload heap
    (by rw [List.length_cons, hp.packet, Mem.length_read]; omega)
  have htrace := trace_virtualloraif_input_zero (Nat.le_trans hpool hheap) hframe
  rw [hout, htrace]
  rfl

/-- The way there and back of a packet that matches rule 1. -/
theorem delivered_of_match {s : Net} {rules : RuleTable} {msb1 msb2 : Fin 18 → UInt8} {p : Nat}
    (hrules : s.rules = initializeRules rules msb1 msb2) (hp : s.heap.Contiguous p)
    (hmatch : ruleMatches s.rules (s.heap.pbufs p).payload = true)
    (hlow : 48 ≤ (s.heap.pbufs p).len) (hhigh : (s.heap.pbufs p).len ≤ 302)
    (hmem : s.heap.mem_malloc s.heap.requests = true) (hpool : 2 ≤ s.heap.pool) :
    (virtualloraif_input (schc_output s p).2).trace.delivered = s.trace.delivered ++
      [some ((installedHeaders 1 ((s.heap.pbufs p).len - 47)).1.toBytes ++
        (installedHeaders 1 ((s.heap.pbufs p).len - 47)).2.toBytes ++
        (s.heap.pbufs p).payload.read 48 ((s.heap.pbufs p).len - 48))] := by
  have hresidue : (s.rules 0).residue = [] := by
    rw [hrules]
    exact residue_rule1 msb1
  have htot := hp.tot_len
  obtain ⟨heap, hheap, hout⟩ := (emits_compressed hp.isPacket hmatch
    (by rw [hresidue]; decide) (by omega) (by omega) hmem).schc_output
  rw [hresidue, List.nil_append, htot] at hout
  have hframe := s.frame_mailed
    (1 :: (s.heap.pbufs p).payload.read 48 ((s.heap.pbufs p).len - 48)) (s.heap.pbufs p).payload heap
    (by rw [List.length_cons, Mem.length_read]; omega)
  have htrace := trace_virtualloraif_input_installed (s := s.mailed _ _ heap) hrules
    (Nat.le_trans hpool hheap) (.inl rfl) hframe
  have hlength : (s.heap.pbufs p).len - 48 + 1 = (s.heap.pbufs p).len - 47 := by omega
  rw [Mem.length_read, hlength] at htrace
  rw [hout, htrace]
  rfl

theorem eq_computedLength {len : Nat} {x : BitVec 16} (hlow : 48 ≤ len) (hhigh : len ≤ 302)
    (hx : x.toNat = len - 40) : x = computedLength (len - 47) := by
  apply BitVec.eq_of_toNat_eq
  rw [hx, toNat_computedLength (by omega)]
  omega

/-- A packet of 48 to 239 bytes that goes out through `schc_output` and whose
mailbox image comes back through `virtualloraif_input` reaches `ip6_input`
unchanged when no rule matches it, and normalised when rule 1 does and both of
its length fields are right. The packet is one referenced buffer; nothing is
assumed of the uninitialised `msbLength` fields, of the rest of the rule table's
memory, or of the headers and the mailbox left by earlier packets. -/
theorem schc_round_trip {s : Net} {rules : RuleTable} {msb1 msb2 : Fin 18 → UInt8} {p : Nat}
    (hrules : s.rules = initializeRules rules msb1 msb2) (hp : s.heap.Contiguous p)
    (hlow : 48 ≤ (s.heap.pbufs p).len) (hhigh : (s.heap.pbufs p).len ≤ 239)
    (hmem : s.heap.mem_malloc s.heap.requests = true) (hpool : 2 ≤ s.heap.pool) :
    (ruleMatches s.rules (s.heap.pbufs p).payload = false →
      (virtualloraif_input (schc_output s p).2).trace.delivered =
        s.trace.delivered ++ [some (s.heap.packet (some p))]) ∧
    (ruleMatches s.rules (s.heap.pbufs p).payload = true →
      (ipv6_hdr.ofBuffer (s.heap.pbufs p).payload).paylength.toNat = (s.heap.pbufs p).len - 40 →
      (udp_schc_hdr.ofBuffer (s.heap.pbufs p).payload).length.toNat = (s.heap.pbufs p).len - 40 →
      (virtualloraif_input (schc_output s p).2).trace.delivered =
        s.trace.delivered ++
          [some ((normalised (s.heap.pbufs p).payload).read 0 (s.heap.pbufs p).len)]) := by
  constructor
  · intro hmiss
    exact delivered_of_miss hp hmiss hhigh hmem hpool
  · intro hmatch hip hudp
    have hheaders := installedHeaders_one_eq (hrules ▸ hmatch)
      (eq_computedLength hlow (by omega) hip) (eq_computedLength hlow (by omega) hudp)
    have hsplit := read_normalised (s.heap.pbufs p).payload ((s.heap.pbufs p).len - 48)
    rw [Nat.add_sub_cancel' hlow] at hsplit
    rw [delivered_of_match hrules hp hmatch hlow (by omega) hmem hpool, hheaders,
      ipv6_hdr.toBytes_ofBuffer, udp_schc_hdr.toBytes_ofBuffer, hsplit]

/-- An uplink packet of the node: empty CoAP payload, hop limit 64, checksum 0xBEEF. -/
def uplinkPacket : List UInt8 :=
  [0x60, 0, 0, 0, 0, 8, 17, 64,
    0x20, 0x01, 0x06, 0xA8, 0x1D, 0x80, 0x06, 0x02, 0x00, 0xAF, 0x00, 0x85, 0x89, 0xA1, 0x00, 0x1F,
    0x20, 0x01, 0x06, 0xA8, 0x1D, 0x80, 0x20, 0x21, 0x02, 0x30, 0x48, 0xFF, 0xFE, 0x5A, 0x3E, 0xE4,
    0x04, 0x3E, 0x16, 0x33, 0x00, 0x08, 0xBE, 0xEF]

/-- A started node that holds one packet. -/
def Net.holding (packet : List UInt8) : Net :=
  { Net.boot with
    heap := Net.boot.heap.filledBuffer packet.length .PBUF_RAM (fun i => packet.getD i 0) }

theorem schc_round_trip_uplinkPacket :
    (virtualloraif_input (schc_output (Net.holding uplinkPacket) 0).2).trace.delivered =
      [some ((normalised fun i => uplinkPacket.getD i 0).read 0 48)] :=
  (schc_round_trip (s := Net.holding uplinkPacket) (p := 0) rfl (contiguous_filledBuffer ..)
    (by decide) (by decide) rfl (by decide)).2 rfl rfl rfl

end loranode.netif
