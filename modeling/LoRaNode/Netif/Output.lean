import LoRaNode.Netif.Interface

open loranode.lwip loranode.schc

namespace loranode.netif

/-- `low_level_output` of a packet whose total length is right leaves the packet
in the mailbox, and frees nothing but buffers. -/
theorem low_level_output_packet {s : Net} {k : Nat}
    (htot : (s.heap.pbufs k).tot_len = (s.heap.packet (some k)).length) :
    ∃ heap, s.heap.SameBuffers heap ∧ low_level_output s (some k) =
      (.ERR_OK, { s with
        AppData := s.AppData.write 0 (s.heap.packet (some k))
        AppDataSize := UInt8.ofNat (s.heap.packet (some k)).length
        heap := heap
        trace := { s.trace with
          extents := s.trace.extents ++ [(s.heap.packet (some k)).length] } }) := by
  obtain ⟨h', hcopy, hsame⟩ := pbuf_copy_partial_packet s.heap (some k) s.AppData
  refine ⟨pbuf_free h' (some k), hsame.trans (sameBuffers_pbuf_free _ _), ?_⟩
  simp only [low_level_output, copyToAppData, setAppDataSize, htot, hcopy, hsame.tot_len]

/-- An uncompressed packet is chained behind one buffer with the rule id 0. -/
theorem compressedPacket_zero {h : Heap} {p : Nat} (schc_header : Mem) (hp : h.IsPacket p)
    (hzero : schc_header 0 = 0) (hlen : (h.pbufs p).tot_len < 65536 - 1)
    (hmem : h.mem_malloc h.requests = true) :
    ∃ h', compressedPacket h p schc_header 1 = (some h.handles, h') ∧ h'.pool = h.pool ∧
      (h'.pbufs h.handles).tot_len = (h.pbufs p).tot_len + 1 ∧
      h'.packet (some h.handles) = 0 :: h.packet (some p) := by
  have halloc := pbuf_alloc_ram_of_le .PBUF_RAW 1 (by decide) hmem
  have hread : schc_header.read 0 1 = [0] := by
    rw [Mem.read_succ, hzero, Mem.read_zero]
  have htake := pbuf_take_freshBuffer h 1 .PBUF_RAM [0] (Nat.le_refl 1)
  have hne : p ≠ h.handles := Nat.ne_of_lt hp.lt
  let h₂ := h.filledBuffer 1 .PBUF_RAM ((h.fresh h.handles).write 0 [0])
  have hother₂ {k : Nat} (hk : k ≠ h.handles) : h₂.pbufs k = h.pbufs k :=
    filledBuffer_pbufs_of_ne _ _ _ hk
  have hself₂ : h₂.pbufs h.handles =
      ⟨none, (h.fresh h.handles).write 0 [0], 1, 1, .PBUF_RAM, 1⟩ := filledBuffer_pbufs_self ..
  have hchain : h₂.chain (some h.handles) = [h.handles] := (contiguous_filledBuffer ..).chain
  have htouch : h₂.touch p = h₂ := Heap.touch_of_ref (by rw [hother₂ hne]; exact hp.ref)
  let h₃ := h₂.set h.handles
    { h₂.pbufs h.handles with
      tot_len := ((h₂.pbufs h.handles).tot_len + (h₂.pbufs p).tot_len) % 65536
      next := some p }
  have hself₃ : h₃.pbufs h.handles = ⟨some p, (h.fresh h.handles).write 0 [0],
      (1 + (h.pbufs p).tot_len) % 65536, 1, .PBUF_RAM, 1⟩ := by
    rw [Heap.set_pbufs_self, hself₂, hother₂ hne]
  have hother₃ {k : Nat} (hk : k ∈ h.chain (some p)) : h₃.pbufs k = h.pbufs k := by
    have hk' := Nat.ne_of_lt (hp.allocated k hk)
    rw [Heap.set_pbufs_of_ne _ hk', hother₂ hk']
  have hchain₃ : h₃.chain (some h.handles) = h.handles :: h.chain (some p) := by
    change h.handles :: h₃.walk h.handles (h₃.pbufs h.handles).next = _
    rw [hself₃, Heap.chain, Heap.walk_congr fun k hk => by rw [hother₃ hk]]
  have hcat : pbuf_cat h₂ (some h.handles) (some p) = h₃ := by
    simp only [pbuf_cat, hchain, htouch, pbuf_cat_loop]
    rfl
  refine ⟨h₃, ?_, rfl, ?_, ?_⟩
  · simp only [compressedPacket, hzero, if_true, halloc, hread, htake]
    exact congrArg (Prod.mk _) hcat
  · rw [hself₃]
    show (1 + (h.pbufs p).tot_len) % 65536 = (h.pbufs p).tot_len + 1
    omega
  · have hfirst : ((h.fresh h.handles).write 0 [0]).read 0 1 = [0] := Mem.read_write_self _ 0 [0]
    have hrest : (h.chain (some p)).flatMap
        (fun k => (h₃.pbufs k).payload.read 0 (h₃.pbufs k).len) = h.packet (some p) :=
      List.flatMap_congr fun k hk => by rw [hother₃ hk]
    rw [Heap.packet, hchain₃, List.flatMap_cons, hrest, hself₃, hfirst]
    rfl

/-- A compressed packet is a new buffer: the compressed header, then what
followed the two headers of the original. -/
theorem compressedPacket_ne_zero {h : Heap} {p : Nat} (schc_header : Mem) (schc_offset : Nat)
    (hid : schc_header 0 ≠ 0) (hlow : 48 ≤ (h.pbufs p).tot_len)
    (hroom : (h.pbufs p).tot_len + schc_offset ≤ 3000) (hmem : h.mem_malloc h.requests = true) :
    ∃ h', compressedPacket h p schc_header schc_offset = (some h.handles, h') ∧ h'.pool = h.pool ∧
      (h'.pbufs h.handles).tot_len = schc_offset + ((h.pbufs p).tot_len - 48) ∧
      h'.packet (some h.handles) = schc_header.read 0 schc_offset ++
        (h.pbufs p).payload.read 48 ((h.pbufs p).tot_len - 48) := by
  let n := (h.pbufs p).tot_len - 48
  have hdata : sub16 (h.pbufs p).tot_len (IP6_HLEN + UDP_HLEN) = n := sub16_of_le hlow
  have htotal : (n + schc_offset) % 65536 = schc_offset + n := by
    rw [Nat.mod_eq_of_lt (by omega), Nat.add_comm]
  have halloc : pbuf_alloc h .PBUF_RAW (schc_offset + n) .PBUF_RAM =
      (some h.handles, h.freshBuffer (schc_offset + n) .PBUF_RAM) := by
    refine pbuf_alloc_ram_of_le _ _ ?_ hmem
    simp only [SIZEOF_STRUCT_PBUF, pbuf_layer.offset, MEM_SIZE]
    omega
  have htake := pbuf_take_freshBuffer h (schc_offset + n) .PBUF_RAM
    (schc_header.read 0 schc_offset) (by rw [Mem.length_read]; exact Nat.le_add_right _ _)
  let m := (h.fresh h.handles).write 0 (schc_header.read 0 schc_offset)
  have htake_at := pbuf_take_at_filledBuffer h (schc_offset + n) .PBUF_RAM m
    ((h.pbufs p).payload.read 48 n) schc_offset (by rw [Mem.length_read])
  refine ⟨h.filledBuffer (schc_offset + n) .PBUF_RAM
    (m.write schc_offset ((h.pbufs p).payload.read 48 n)), ?_, rfl, ?_, ?_⟩
  · simp only [compressedPacket, if_neg hid, hdata, htotal, halloc]
    rw [htake]
    exact congrArg (Prod.mk _) htake_at
  · rw [filledBuffer_pbufs_self]
  · rw [packet_filledBuffer]
    have hread := Mem.read_write_append (h.fresh h.handles) 0 (schc_header.read 0 schc_offset)
      ((h.pbufs p).payload.read 48 n)
    rw [Mem.length_read, Mem.length_read, Nat.zero_add] at hread
    exact hread

/-- Slot 0 of the rule table matches the headers at the start of the packet in `buffer`. -/
def ruleMatches (rules : RuleTable) (buffer : Mem) : Bool :=
  (rules 0).accepts (ipv6_hdr.ofBuffer buffer) (udp_schc_hdr.ofBuffer buffer)

/-- The frame that stands for the packet of `len` bytes in `buffer`: its rule id,
followed by the residue of the rule and the bytes behind the headers, or by the
whole packet. -/
def uplinkFrame (rules : RuleTable) (buffer : Mem) (len : Nat) : List UInt8 :=
  if ruleMatches rules buffer then 1 :: ((rules 0).residue ++ buffer.read 48 (len - 48))
  else 0 :: buffer.read 0 len

/-- The state after `low_level_output` has put `frame` into the mailbox. -/
def Net.mailed (s : Net) (frame : List UInt8) (buffer : Mem) (heap : Heap) : Net :=
  { s with
    heap := heap
    ipv6_header := ipv6_hdr.ofBuffer buffer
    udp_header := udp_schc_hdr.ofBuffer buffer
    AppData := s.AppData.write 0 frame
    AppDataSize := UInt8.ofNat frame.length
    trace := { s.trace with extents := s.trace.extents ++ [frame.length] } }

/-- `schc_output` hands `frame` to `low_level_output` in place of the packet `p`. -/
def Emits (s : Net) (p : Nat) (frame : List UInt8) : Prop :=
  ∃ heap, s.heap.pool ≤ heap.pool ∧
    schc_output_packet s p = (some s.heap.handles, { s with
      heap := heap
      ipv6_header := ipv6_hdr.ofBuffer (s.heap.pbufs p).payload
      udp_header := udp_schc_hdr.ofBuffer (s.heap.pbufs p).payload }) ∧
    heap.packet (some s.heap.handles) = frame ∧
    (heap.pbufs s.heap.handles).tot_len = frame.length

theorem emits_of_compressedPacket {s : Net} {p : Nat} {schc_header : Mem} {schc_offset : Nat}
    {h : Heap} (hp : s.heap.IsPacket p)
    (hcompress : schc_compression s.rules (ipv6_hdr.ofBuffer (s.heap.pbufs p).payload)
      (udp_schc_hdr.ofBuffer (s.heap.pbufs p).payload) s.schc_header = (schc_header, schc_offset))
    (hpacket : compressedPacket s.heap p schc_header schc_offset = (some s.heap.handles, h))
    (hpool : h.pool = s.heap.pool)
    (htot : (h.pbufs s.heap.handles).tot_len = (h.packet (some s.heap.handles)).length) :
    Emits s p (h.packet (some s.heap.handles)) := by
  have hfree := sameBuffers_pbuf_free h (some p)
  refine ⟨pbuf_free h (some p), hpool ▸ hfree.pool, ?_, hfree.packet _, ?_⟩
  · simp only [schc_output_packet, Heap.touch_of_ref hp.ref, hcompress, hpacket]
  · rw [hfree.tot_len, htot]

/-- What is emitted ends up in the mailbox. -/
theorem Emits.schc_output {s : Net} {p : Nat} {frame : List UInt8} (hemits : Emits s p frame) :
    ∃ heap, s.heap.pool ≤ heap.pool ∧
      schc_output s p = (.ERR_OK, s.mailed frame (s.heap.pbufs p).payload heap) := by
  obtain ⟨h, hpool, hpacket, hframe, htot⟩ := hemits
  obtain ⟨heap, hsame, hout⟩ := low_level_output_packet
    (s := { s with
      heap := h
      ipv6_header := ipv6_hdr.ofBuffer (s.heap.pbufs p).payload
      udp_header := udp_schc_hdr.ofBuffer (s.heap.pbufs p).payload })
    (k := s.heap.handles) (by rw [hframe]; exact htot)
  refine ⟨heap, Nat.le_trans hpool hsame.pool, ?_⟩
  simp only [hframe] at hout
  simp only [netif.schc_output, hpacket, schc_frag]
  exact hout

/-- A packet that misses the rule goes out whole, behind the rule id 0. -/
theorem emits_uncompressed {s : Net} {p : Nat} (hp : s.heap.IsPacket p)
    (hmiss : ruleMatches s.rules (s.heap.pbufs p).payload = false)
    (hlen : (s.heap.pbufs p).tot_len < 65535)
    (hmem : s.heap.mem_malloc s.heap.requests = true) :
    Emits s p (0 :: s.heap.packet (some p)) := by
  have hcompress := schc_compression_of_not_accepts s.schc_header hmiss
  obtain ⟨h', hpacket, hpool, htot, hbytes⟩ :=
    compressedPacket_zero (s.schc_header.write 0 [0]) hp rfl hlen hmem
  have hlength : (h'.pbufs s.heap.handles).tot_len =
      (h'.packet (some s.heap.handles)).length := by
    rw [htot, hbytes, List.length_cons, hp.tot_len]
  have hemits := emits_of_compressedPacket hp hcompress hpacket hpool hlength
  rwa [hbytes] at hemits

/-- A packet that matches the rule goes out without its headers, behind the rule id 1
and the residue. What follows the headers is taken from the first buffer of the packet,
whose length is not looked at. -/
theorem emits_compressed {s : Net} {p : Nat} (hp : s.heap.IsPacket p)
    (hmatch : ruleMatches s.rules (s.heap.pbufs p).payload = true)
    (hresidue : (s.rules 0).residue.length < 255)
    (hlow : 48 ≤ (s.heap.pbufs p).tot_len) (hhigh : (s.heap.pbufs p).tot_len ≤ 2000)
    (hmem : s.heap.mem_malloc s.heap.requests = true) :
    Emits s p (1 :: ((s.rules 0).residue ++
      (s.heap.pbufs p).payload.read 48 ((s.heap.pbufs p).tot_len - 48))) := by
  have hcompress := schc_compression_of_accepts s.schc_header hmatch
  have hheader := read_schc_compression_of_accepts s.schc_header hmatch
  rw [hcompress] at hheader
  rw [Nat.mod_eq_of_lt (by omega)] at hcompress
  obtain ⟨h', hpacket, hpool, htot, hbytes⟩ :=
    compressedPacket_ne_zero ((s.schc_header.write 1 (s.rules 0).residue).write 0 [1])
      (1 + (s.rules 0).residue.length) (by change (1 : UInt8) ≠ 0; decide) hlow (by omega) hmem
  have hlength : (h'.pbufs s.heap.handles).tot_len =
      (h'.packet (some s.heap.handles)).length := by
    rw [htot, hbytes, List.length_append, Mem.length_read, Mem.length_read]
  have hemits := emits_of_compressedPacket hp hcompress hpacket hpool hlength
  rwa [hbytes, hheader, List.cons_append] at hemits

/-- The two cases together: `schc_output` refines `uplinkFrame`. -/
theorem emits_uplinkFrame {s : Net} {p : Nat} (hp : s.heap.Contiguous p)
    (hresidue : (s.rules 0).residue.length < 255)
    (hlow : 48 ≤ (s.heap.pbufs p).len) (hhigh : (s.heap.pbufs p).len ≤ 2000)
    (hmem : s.heap.mem_malloc s.heap.requests = true) :
    Emits s p (uplinkFrame s.rules (s.heap.pbufs p).payload (s.heap.pbufs p).len) := by
  rw [← hp.tot_len] at hlow hhigh ⊢
  cases hmatch : ruleMatches s.rules (s.heap.pbufs p).payload with
  | true =>
    simpa [uplinkFrame, hmatch] using emits_compressed hp.isPacket hmatch hresidue hlow hhigh hmem
  | false =>
    have hpacket : s.heap.packet (some p) =
        (s.heap.pbufs p).payload.read 0 (s.heap.pbufs p).tot_len := by
      rw [hp.packet, hp.tot_len]
    simpa [uplinkFrame, hmatch, hpacket] using
      emits_uncompressed hp.isPacket hmatch (by omega) hmem

end loranode.netif
