import LoRaNode.Netif.RoundTrip

open loranode.lwip loranode.schc

namespace loranode.netif

/-- From `s` to `s'` one image went to the mailbox: nothing was written outside the
array `AppData`, and `AppDataSize` is the number of bytes written. -/
def MailboxWritten (s s' : Net) : Prop :=
  ∃ n, n ≤ sizeofAppData ∧ s'.trace.extents = s.trace.extents ++ [n] ∧
    s'.AppDataSize.toNat = n ∧ s'.trace.null_reads = s.trace.null_reads ∧
    ∀ i, sizeofAppData ≤ i → s'.AppData i = s.AppData i

theorem mailboxWritten_mailed_iff (s : Net) (frame : List UInt8) (buffer : Mem) (heap : Heap) :
    MailboxWritten s (s.mailed frame buffer heap) ↔ frame.length ≤ sizeofAppData := by
  constructor
  · rintro ⟨n, hn, hextents, -⟩
    have hlength : frame.length = n := (List.cons.inj (List.append_cancel_left hextents)).1
    exact hlength ▸ hn
  · intro hlength
    refine ⟨frame.length, hlength, rfl, ?_, rfl, ?_⟩
    · rw [sizeofAppData] at hlength
      exact UInt8.toNat_ofNat_of_lt' (show frame.length < 256 by omega)
    · intro i hi
      exact Mem.write_of_ge (by omega)

/-- When no buffer can be allocated, `low_level_output` reads a length through `NULL`. -/
theorem not_mailboxWritten_of_null {s : Net} {p : Nat} {schc_header : Mem} {schc_offset : Nat}
    (hp : s.heap.IsPacket p)
    (hcompress : schc_compression s.rules (ipv6_hdr.ofBuffer (s.heap.pbufs p).payload)
      (udp_schc_hdr.ofBuffer (s.heap.pbufs p).payload) s.schc_header = (schc_header, schc_offset))
    (hnull : (compressedPacket s.heap p schc_header schc_offset).1 = none) :
    ¬ MailboxWritten s (schc_output s p).2 := by
  have hreads : (schc_output s p).2.trace.null_reads = s.trace.null_reads + 1 + 1 := by
    simp only [schc_output, schc_output_packet, Heap.touch_of_ref hp.ref, hcompress, schc_frag,
      hnull, low_level_output, copyToAppData, setAppDataSize]
  rintro ⟨n, -, -, -, hsame, -⟩
  rw [hreads] at hsame
  omega

theorem compressedPacket_fst (h : Heap) (p : Nat) (schc_header : Mem) (schc_offset : Nat) :
    (compressedPacket h p schc_header schc_offset).1 =
      (pbuf_alloc h .PBUF_RAW
        (if schc_header 0 = 0 then schc_offset
          else (sub16 (h.pbufs p).tot_len (IP6_HLEN + UDP_HLEN) + schc_offset) % 65536)
        .PBUF_RAM).1 := by
  unfold compressedPacket
  split <;> rfl

/-- A matching packet of 47 bytes becomes an empty one: the length wraps to 0. -/
theorem compressedPacket_of_47 {h : Heap} {p : Nat} {schc_header : Mem} (hid : schc_header 0 ≠ 0)
    (htot : (h.pbufs p).tot_len = 47) (hmem : h.mem_malloc h.requests = true) :
    compressedPacket h p schc_header 1 = (some h.handles, h.freshBuffer 0 .PBUF_RAM) := by
  have halloc := pbuf_alloc_ram_of_le .PBUF_RAW 0 (by decide) hmem
  have hself := freshBuffer_pbufs_self h 0 .PBUF_RAM
  have hdata : sub16 47 (IP6_HLEN + UDP_HLEN) = 65535 := rfl
  have htake : (pbuf_take (h.freshBuffer 0 .PBUF_RAM) (some h.handles) (schc_header.read 0 1)).2 =
      h.freshBuffer 0 .PBUF_RAM :=
    pbuf_take_refused (by rw [hself, Mem.length_read]; exact Nat.one_pos)
  have htake_at (data : List UInt8) :
      (pbuf_take_at (h.freshBuffer 0 .PBUF_RAM) (some h.handles) data 1).2 =
        h.freshBuffer 0 .PBUF_RAM :=
    pbuf_take_at_refused (contiguous_freshBuffer ..)
      (by rw [hself]; exact Nat.add_pos_left Nat.one_pos _)
  simp only [compressedPacket, if_neg hid, htot, hdata, halloc, htake, htake_at]

/-- The bound on a packet that misses the rule: its image is one byte longer. -/
theorem mailboxWritten_of_miss {s : Net} {p : Nat} (hp : s.heap.IsPacket p)
    (hmiss : ruleMatches s.rules (s.heap.pbufs p).payload = false)
    (hmtu : (s.heap.pbufs p).tot_len ≤ mtu) :
    MailboxWritten s (schc_output s p).2 ↔
      s.heap.mem_malloc s.heap.requests = true ∧ (s.heap.pbufs p).tot_len ≤ 239 := by
  rw [mtu] at hmtu
  cases hmem : s.heap.mem_malloc s.heap.requests with
  | false =>
    have hnull := not_mailboxWritten_of_null hp (schc_compression_of_not_accepts s.schc_header hmiss)
      (by rw [compressedPacket_fst]; exact pbuf_alloc_ram_null _ _ (.inr (.inr hmem)))
    simp [hnull]
  | true =>
    obtain ⟨heap, -, hout⟩ := (emits_uncompressed hp hmiss (by omega) hmem).schc_output
    rw [hout, mailboxWritten_mailed_iff, List.length_cons, ← hp.tot_len, sizeofAppData]
    simp only [true_and]
    omega

/-- A matching packet that is shorter than its headers asks for a buffer of almost
64 KiB. -/
theorem compressedPacket_null {h : Heap} {p : Nat} {schc_header : Mem} (hid : schc_header 0 ≠ 0)
    (htot : (h.pbufs p).tot_len < 47) : (compressedPacket h p schc_header 1).1 = none := by
  have hdata : sub16 (h.pbufs p).tot_len (IP6_HLEN + UDP_HLEN) = (h.pbufs p).tot_len + 65488 := by
    rw [IP6_HLEN, UDP_HLEN, sub16_of_lt (by omega)]
    omega
  rw [compressedPacket_fst, if_neg hid, hdata]
  apply pbuf_alloc_ram_null
  simp only [SIZEOF_STRUCT_PBUF, pbuf_layer.offset, MEM_SIZE]
  omega

/-- A packet that matches a rule without residue fits whenever it holds its headers. -/
theorem mailboxWritten_of_match {s : Net} {p : Nat} (hp : s.heap.IsPacket p)
    (hmatch : ruleMatches s.rules (s.heap.pbufs p).payload = true)
    (hresidue : (s.rules 0).residue = []) (hmtu : (s.heap.pbufs p).tot_len ≤ mtu) :
    MailboxWritten s (schc_output s p).2 ↔
      s.heap.mem_malloc s.heap.requests = true ∧ 47 ≤ (s.heap.pbufs p).tot_len := by
  rw [mtu] at hmtu
  have hcompress := schc_compression_of_accepts s.schc_header hmatch
  rw [hresidue] at hcompress
  have hid : ((s.schc_header.write 1 []).write 0 [1]) 0 ≠ 0 := by
    change (1 : UInt8) ≠ 0
    decide
  cases hmem : s.heap.mem_malloc s.heap.requests with
  | false =>
    have hnull := not_mailboxWritten_of_null hp hcompress
      (by rw [compressedPacket_fst]; exact pbuf_alloc_ram_null _ _ (.inr (.inr hmem)))
    simp [hnull]
  | true =>
    rcases Nat.lt_trichotomy (s.heap.pbufs p).tot_len 47 with hlow | hlow | hlow
    · have hnull := not_mailboxWritten_of_null hp hcompress (compressedPacket_null hid hlow)
      simp only [hnull, true_and, false_iff]
      omega
    · have hempty := emits_of_compressedPacket hp hcompress (compressedPacket_of_47 hid hlow hmem)
        rfl (by rw [(contiguous_freshBuffer ..).packet, freshBuffer_pbufs_self, Mem.length_read])
      obtain ⟨heap, -, hout⟩ := hempty.schc_output
      rw [hout, mailboxWritten_mailed_iff, (contiguous_freshBuffer ..).packet,
        freshBuffer_pbufs_self, Mem.length_read]
      simp [hlow]
    · obtain ⟨heap, -, hout⟩ := (emits_compressed hp hmatch (by rw [hresidue]; decide)
        (by omega) (by omega) hmem).schc_output
      rw [hout, mailboxWritten_mailed_iff, List.length_cons, List.length_append, Mem.length_read,
        hresidue, sizeofAppData]
      simp only [List.length_nil, true_and]
      omega

/-- `schc_output` keeps the mailbox within its bounds exactly when the heap serves
the new buffer and the packet is at most 239 bytes long, if it misses the rule, or
long enough for the headers that a matching packet is stripped of. -/
theorem mailboxWritten_iff {s : Net} {rules : RuleTable} {msb1 msb2 : Fin 18 → UInt8} {p : Nat}
    (hrules : s.rules = initializeRules rules msb1 msb2) (hp : s.heap.IsPacket p)
    (hmtu : (s.heap.pbufs p).tot_len ≤ mtu) :
    MailboxWritten s (schc_output s p).2 ↔
      s.heap.mem_malloc s.heap.requests = true ∧
        if ruleMatches s.rules (s.heap.pbufs p).payload then 47 ≤ (s.heap.pbufs p).tot_len
        else (s.heap.pbufs p).tot_len ≤ 239 := by
  cases hmatch : ruleMatches s.rules (s.heap.pbufs p).payload with
  | false => simpa using mailboxWritten_of_miss hp hmatch hmtu
  | true =>
    have hresidue : (s.rules 0).residue = [] := by
      rw [hrules]
      exact residue_rule1 msb1
    simpa using mailboxWritten_of_match hp hmatch hresidue hmtu

/-- An ICMPv6 packet of 240 bytes from the node. -/
def echoReply : List UInt8 :=
  [0x60, 0, 0, 0, 0, 200, 58, 64,
    0x20, 0x01, 0x06, 0xA8, 0x1D, 0x80, 0x06, 0x02, 0x00, 0xAF, 0x00, 0x85, 0x89, 0xA1, 0x00, 0x1F,
    0x20, 0x01, 0x06, 0xA8, 0x1D, 0x80, 0x20, 0x21, 0x02, 0x30, 0x48, 0xFF, 0xFE, 0x5A, 0x3E, 0xE4] ++
    List.replicate 200 0

/-- The image of a packet of 240 bytes that misses the rule is one byte longer than
the array `AppData`. -/
theorem not_mailboxWritten_echoReply :
    ¬ MailboxWritten (Net.holding echoReply) (schc_output (Net.holding echoReply) 0).2 := by
  have hp : (Net.holding echoReply).heap.IsPacket 0 := (contiguous_filledBuffer ..).isPacket
  have hlength : echoReply.length = 240 := by
    rw [echoReply, List.length_append, List.length_replicate]
    rfl
  have htot : ((Net.holding echoReply).heap.pbufs 0).tot_len = 240 :=
    (congrArg pbuf.tot_len (filledBuffer_pbufs_self ..)).trans hlength
  obtain ⟨heap, -, hout⟩ := (emits_uncompressed hp (by decide) (by omega) rfl).schc_output
  rw [hout, mailboxWritten_mailed_iff, List.length_cons, ← hp.tot_len, htot]
  decide

theorem mailboxWritten_iff_uplinkPacket :
    MailboxWritten (Net.holding uplinkPacket) (schc_output (Net.holding uplinkPacket) 0).2 :=
  (mailboxWritten_iff (s := Net.holding uplinkPacket) (p := 0) rfl
    (contiguous_filledBuffer ..).isPacket (by decide)).2 (by decide)

end loranode.netif
