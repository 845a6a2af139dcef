import LoRaNode.Netif.Interface

open loranode.lwip loranode.schc

namespace loranode.netif

/-- The frame in the mailbox. -/
def Net.frame (s : Net) : List UInt8 :=
  s.AppData.read 0 s.AppDataSize.toNat

@[simp] theorem Net.length_frame (s : Net) : s.frame.length = s.AppDataSize.toNat :=
  Mem.length_read ..

theorem Net.length_frame_lt (s : Net) : s.frame.length < 256 := by
  rw [s.length_frame]
  exact s.AppDataSize.toNat_lt

/-- The state after `low_level_input` has taken the frame from the mailbox. -/
def Net.receive (s : Net) : Net :=
  { s with
    heap := s.heap.filledBuffer s.AppDataSize.toNat .PBUF_POOL
      ((s.heap.fresh s.heap.handles).write 0 s.frame) }

theorem Net.contiguous_receive (s : Net) : s.receive.heap.Contiguous s.heap.handles :=
  contiguous_filledBuffer ..

theorem Net.packet_receive (s : Net) : s.receive.heap.packet (some s.heap.handles) = s.frame := by
  rw [receive, packet_filledBuffer, ← s.length_frame, Mem.read_write_self]

theorem Net.pool_receive {s : Net} (hpool : 2 ≤ s.heap.pool) : 0 < s.receive.heap.pool := by
  change 0 < s.heap.pool - 1
  omega

/-- With a free pool element, `low_level_input` takes the whole frame over. -/
theorem low_level_input_of_pool {s : Net} (hpool : 0 < s.heap.pool) :
    low_level_input s = (some s.heap.handles, s.receive) := by
  have hsize := s.AppDataSize.toNat_lt
  have halloc := pbuf_alloc_pool_of_le .PBUF_RAW s.AppDataSize.toNat hpool
    (by simp only [PBUF_POOL_BUFSIZE, pbuf_layer.offset]; omega)
  let h₁ := s.heap.freshBuffer s.AppDataSize.toNat .PBUF_POOL
  have hset : h₁.set s.heap.handles { h₁.pbufs s.heap.handles with len := s.AppDataSize.toNat } =
      h₁ := by
    have hsame := Heap.setPayload_self h₁ s.heap.handles
    rw [Heap.setPayload, freshBuffer_pbufs_self] at hsame
    rw [freshBuffer_pbufs_self]
    exact hsame
  have htake := pbuf_take_freshBuffer s.heap s.AppDataSize.toNat .PBUF_POOL s.frame
    s.length_frame.le
  simp only [low_level_input, halloc]
  rw [hset]
  exact congrArg (fun heap => (some s.heap.handles, { s with heap := heap })) htake

theorem low_level_input_of_empty {s : Net} (hpool : s.heap.pool = 0) :
    low_level_input s = (none, s) := by
  simp only [low_level_input, pbuf_alloc_pool_empty .PBUF_RAW _ hpool]

/-- What `schc_input` hands to `ip6_input` is the packet as it was built: freeing
the received frame does not touch it. -/
theorem trace_schc_input {s : Net} {p : Nat} {r : pbuf_ptr × Net}
    (hbuilt : (if pbuf_get_at s.heap (some p) 0 = 0 then inputUncompressed s p
      else inputCompressed s p (pbuf_get_at s.heap (some p) 0)) = r) :
    (schc_input s p).2.trace =
      { r.2.trace with
        delivered := r.2.trace.delivered ++ [r.1.map fun k => r.2.heap.packet (some k)] } := by
  rw [schc_input, hbuilt]
  simp only [ip6_input, (sameBuffers_pbuf_free r.2.heap (some p)).packet]

/-- The first byte of a contiguous frame is its rule id. -/
theorem pbuf_get_at_zero {h : Heap} {p : Nat} {id : UInt8} {data : List UInt8}
    (hp : h.Contiguous p) (hframe : h.packet (some p) = id :: data) :
    pbuf_get_at h (some p) 0 = id ∧ (h.pbufs p).tot_len = data.length + 1 ∧
      (h.pbufs p).payload.read 1 data.length = data := by
  rw [hp.packet] at hframe
  have hlength : (h.pbufs p).len = data.length + 1 := by
    simpa using congrArg List.length hframe
  rw [hlength, Mem.read_succ, List.cons.injEq] at hframe
  refine ⟨?_, by rw [hp.tot_len, hlength], hframe.2⟩
  rw [pbuf_get_at_contiguous hp, if_pos (by omega), hframe.1]

/-- An uncompressed frame is stripped of its rule id. -/
theorem inputUncompressed_eq {s : Net} {p : Nat} {data : List UInt8}
    (htot : (s.heap.pbufs p).tot_len = data.length + 1)
    (hdata : (s.heap.pbufs p).payload.read 1 data.length = data)
    (hlen : data.length ≤ 536) (hpool : 0 < s.heap.pool) :
    inputUncompressed s p =
      (some s.heap.handles, { s with
        heap := s.heap.filledBuffer data.length .PBUF_POOL
          ((s.heap.fresh s.heap.handles).write 0 data) }) := by
  have hsub : sub16 (s.heap.pbufs p).tot_len 1 = data.length := by
    rw [htot]
    exact sub16_of_le (by omega)
  have halloc := pbuf_alloc_pool_of_le .PBUF_IP data.length hpool hlen
  have htake := pbuf_take_freshBuffer s.heap data.length .PBUF_POOL data (Nat.le_refl _)
  have hunder : ¬ (s.heap.pbufs p).tot_len < 1 := by omega
  simp only [inputUncompressed, hsub, hdata, halloc, htake, if_neg hunder, Nat.add_zero]

/-- A compressed frame gets the headers of its rule in front of what follows the
compressed header, provided the length the rule computes is the right one. -/
theorem inputCompressed_eq (s : Net) (p : Nat) (ruleId : UInt8) (ip : ipv6_hdr)
    (udp : udp_schc_hdr) (off : Nat) (data : List UInt8)
    (hdecompress : schc_decompression s.rules (pbuf_get_at s.heap (some p))
      (s.heap.pbufs p).tot_len s.ipv6_header s.udp_header ruleId = (ip, udp, off))
    (htot : (s.heap.pbufs p).tot_len = off + data.length)
    (hdata : (s.heap.pbufs p).payload.read off data.length = data)
    (hoff : off ≤ (off + data.length) % 256 + UDP_HLEN)
    (hpaylength : ip.paylength.toNat = data.length + 8)
    (hlen : data.length ≤ 488) (hpool : 0 < s.heap.pool) :
    inputCompressed s p ruleId =
      (some s.heap.handles, { s with
        heap := s.heap.filledBuffer (48 + data.length) .PBUF_POOL
          ((s.heap.fresh s.heap.handles).write 0 (ip.toBytes ++ udp.toBytes ++ data))
        ipv6_header := ip
        udp_header := udp
        trace := { s.trace with indexed := s.trace.indexed ++ [(ruleId - 1).toNat] } }) := by
  have hsub : sub16 (off + data.length) off = data.length := by
    rw [sub16_of_le (Nat.le_add_right _ _), Nat.add_sub_cancel_left]
  have hsize : (IP6_HLEN + (data.length + 8)) % 65536 = 48 + data.length := by
    rw [IP6_HLEN]
    omega
  have halloc := pbuf_alloc_pool_of_le .PBUF_IP (48 + data.length) hpool
    (show 48 + data.length ≤ 536 by omega)
  have hheader : (ip.toBytes ++ udp.toBytes).length = IP6_HLEN + UDP_HLEN := by
    rw [List.length_append, ip.length_toBytes, udp.length_toBytes, IP6_HLEN, UDP_HLEN]
  have htake := pbuf_take_freshBuffer s.heap (48 + data.length) .PBUF_POOL
    (ip.toBytes ++ udp.toBytes)
    (by rw [hheader]; exact Nat.le_add_right _ _)
  have htake_at := pbuf_take_at_filledBuffer s.heap (48 + data.length) .PBUF_POOL
    ((s.heap.fresh s.heap.handles).write 0 (ip.toBytes ++ udp.toBytes)) data (IP6_HLEN + UDP_HLEN)
    (Nat.le_refl _)
  have happend := Mem.write_write_append (s.heap.fresh s.heap.handles) 0 (ip.toBytes ++ udp.toBytes)
    data
  rw [Nat.zero_add, hheader] at happend
  rw [happend] at htake_at
  rw [htot] at hdecompress
  simp only [inputCompressed, htot, hdecompress, hsub, hdata, hpaylength, hsize, halloc, htake,
    htake_at, if_neg (Nat.not_lt.2 (Nat.le_add_right off data.length)),
    if_neg (Nat.not_lt.2 hoff), Nat.add_zero]

/-- The trace of a whole reception, once the mailbox has been emptied into a buffer. -/
theorem trace_virtualloraif_input {s : Net} (hpool : 0 < s.heap.pool) :
    (virtualloraif_input s).trace = (schc_input s.receive s.heap.handles).2.trace := by
  simp only [virtualloraif_input, low_level_input_of_pool hpool]
  split <;> rfl

theorem trace_virtualloraif_input_zero {s : Net} {data : List UInt8} (hpool : 2 ≤ s.heap.pool)
    (hframe : s.frame = 0 :: data) :
    (virtualloraif_input s).trace =
      { s.trace with delivered := s.trace.delivered ++ [some data] } := by
  have hlen := s.length_frame_lt
  rw [hframe, List.length_cons] at hlen
  obtain ⟨hid, htot, hdata⟩ :=
    pbuf_get_at_zero s.contiguous_receive (s.packet_receive.trans hframe)
  have hinput := inputUncompressed_eq htot hdata (by omega) (s.pool_receive hpool)
  rw [trace_virtualloraif_input (by omega), trace_schc_input ((if_pos hid).trans hinput)]
  simp only [Option.map_some, packet_filledBuffer, Mem.read_write_self]
  rfl

theorem trace_virtualloraif_input_installed {s : Net} {rules : RuleTable}
    {msb1 msb2 : Fin 18 → UInt8} {ruleId : UInt8} {data : List UInt8}
    (hrules : s.rules = initializeRules rules msb1 msb2) (hpool : 2 ≤ s.heap.pool)
    (hid : ruleId = 1 ∨ ruleId = 2) (hframe : s.frame = ruleId :: data) :
    (virtualloraif_input s).trace =
      { s.trace with
        indexed := s.trace.indexed ++ [(ruleId - 1).toNat]
        delivered := s.trace.delivered ++
          [some ((installedHeaders ruleId (data.length + 1)).1.toBytes ++
            (installedHeaders ruleId (data.length + 1)).2.toBytes ++ data)] } := by
  have hlen := s.length_frame_lt
  rw [hframe, List.length_cons] at hlen
  obtain ⟨hget, htot, hdata⟩ :=
    pbuf_get_at_zero s.contiguous_receive (s.packet_receive.trans hframe)
  obtain ⟨ip, udp, hheaders⟩ : ∃ ip udp, installedHeaders ruleId (data.length + 1) = (ip, udp) :=
    ⟨_, _, rfl⟩
  have hpaylength : ip.paylength.toNat = data.length + 8 := by
    have hip := paylength_installedHeaders ruleId (data.length + 1)
    rw [hheaders] at hip
    rw [hip, toNat_computedLength hlen]
  have hdecompress := schc_decompression_installed rules msb1 msb2
    (pbuf_get_at s.receive.heap (some s.heap.handles)) (data.length + 1) s.ipv6_header s.udp_header
    hid
  rw [← hrules, hheaders] at hdecompress
  have hinput := inputCompressed_eq s.receive s.heap.handles ruleId ip udp 1 data
    (by rw [htot]; exact hdecompress) (by rw [htot, Nat.add_comm]) hdata
    (by rw [UDP_HLEN]; omega) hpaylength (by omega) (s.pool_receive hpool)
  have hne : ¬ ruleId = 0 := by rcases hid with rfl | rfl <;> decide
  have hsize : 48 + data.length = (ip.toBytes ++ udp.toBytes ++ data).length := by
    simp only [List.length_append, ipv6_hdr.length_toBytes, udp_schc_hdr.length_toBytes]
  rw [trace_virtualloraif_input (by omega),
    trace_schc_input ((if_neg (hget ▸ hne)).trans (hget ▸ hinput))]
  simp only [Option.map_some, packet_filledBuffer, hheaders]
  rw [hsize, Mem.read_write_self, hget]
  rfl

end loranode.netif
