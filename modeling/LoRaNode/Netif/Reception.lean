import LoRaNode.Netif.Input
import LoRaNode.Netif.RoundTrip

open loranode.lwip loranode.schc word

namespace loranode.netif

/-- The value of the payload length field of an IPv6 packet. -/
def payloadLengthField (packet : List UInt8) : Nat :=
  (be16 (packet.getD 4 0) (packet.getD 5 0)).toNat

/-- What a reception must not do: hand a packet to `ip6_input` that could not be
allocated, read a slot of `rules[]` that holds no rule, let a length wrap below 0,
or, for a compressed frame, deliver a packet whose length field is wrong or whose
last bytes are not the frame's payload. -/
structure SafeReception (s : Net) : Prop where
  delivers : (virtualloraif_input s).trace.delivered = s.trace.delivered ∨
    ∃ packet, (virtualloraif_input s).trace.delivered = s.trace.delivered ++ [some packet] ∧
      ∀ id data, s.frame = id :: data → id ≠ 0 →
        payloadLengthField packet = packet.length - 40 ∧
          packet.drop (packet.length - data.length) = data
  indexes : (virtualloraif_input s).trace.indexed = s.trace.indexed ∨
    ∃ i, (virtualloraif_input s).trace.indexed = s.trace.indexed ++ [i] ∧ (i = 0 ∨ i = 1)
  underflows : (virtualloraif_input s).trace.underflows = s.trace.underflows

/-- Without a pool element for the frame, the frame is dropped. -/
theorem virtualloraif_input_of_empty {s : Net} (hpool : s.heap.pool = 0) :
    virtualloraif_input s = s := by
  simp only [virtualloraif_input, low_level_input_of_empty hpool]

/-- The frame's rule id names the slot that is read. -/
theorem indexed_virtualloraif_input {s : Net} {id : UInt8} {data : List UInt8}
    (hpool : 0 < s.heap.pool) (hframe : s.frame = id :: data) (hid : id ≠ 0) :
    (virtualloraif_input s).trace.indexed = s.trace.indexed ++ [(id - 1).toNat] := by
  obtain ⟨hget, -, -⟩ := pbuf_get_at_zero s.contiguous_receive (s.packet_receive.trans hframe)
  rw [trace_virtualloraif_input hpool, trace_schc_input (if_neg (hget ▸ hid)), hget]
  rfl

/-- An empty frame has no rule id; its length minus 1 wraps. -/
theorem underflows_virtualloraif_input {s : Net} (hpool : 0 < s.heap.pool) (hframe : s.frame = []) :
    (virtualloraif_input s).trace.underflows = s.trace.underflows + 1 := by
  have hlen : (s.receive.heap.pbufs s.heap.handles).len = 0 := by
    have hpacket := s.packet_receive.trans hframe
    rw [s.contiguous_receive.packet] at hpacket
    simpa using congrArg List.length hpacket
  have hget : pbuf_get_at s.receive.heap (some s.heap.handles) 0 = 0 := by
    rw [pbuf_get_at_contiguous s.contiguous_receive, if_neg (by omega)]
  have htot : (s.receive.heap.pbufs s.heap.handles).tot_len < 1 := by
    rw [s.contiguous_receive.tot_len, hlen]
    exact Nat.one_pos
  rw [trace_virtualloraif_input hpool, trace_schc_input (if_pos hget)]
  exact congrArg (s.trace.underflows + ·) (if_pos htot)

/-- With a single pool element, which the frame takes, there is none for the packet. -/
theorem delivered_virtualloraif_input_of_one {s : Net} (hpool : s.heap.pool = 1) :
    (virtualloraif_input s).trace.delivered = s.trace.delivered ++ [none] := by
  have hempty : s.receive.heap.pool = 0 := by
    change s.heap.pool - 1 = 0
    omega
  rw [trace_virtualloraif_input (by omega)]
  by_cases hget : pbuf_get_at s.receive.heap (some s.heap.handles) 0 = 0
  · rw [trace_schc_input (if_pos hget)]
    simp only [inputUncompressed, pbuf_alloc_pool_empty _ _ hempty]
    rfl
  · rw [trace_schc_input (if_neg hget)]
    simp only [inputCompressed, pbuf_alloc_pool_empty _ _ hempty]
    rfl

theorem payloadLengthField_toBytes (ip : ipv6_hdr) (rest : List UInt8) :
    payloadLengthField (ip.toBytes ++ rest) = ip.paylength.toNat := by
  change (be16 (byte ip.paylength 1) (byte ip.paylength 0)).toNat = ip.paylength.toNat
  rw [be16_byte]

private theorem ruleId_cases {id : UInt8} (h : id ≤ 4) :
    id = 0 ∨ id = 1 ∨ id = 2 ∨ id = 3 ∨ id = 4 := by
  have hle : id.toNat ≤ 4 := UInt8.le_iff_toNat_le.1 h
  simp only [← UInt8.toNat_inj]
  change id.toNat = 0 ∨ id.toNat = 1 ∨ id.toNat = 2 ∨ id.toNat = 3 ∨ id.toNat = 4
  omega

private theorem installed_of_le {id : UInt8} (h : id ≤ 2) : id = 0 ∨ (id = 1 ∨ id = 2) := by
  rcases ruleId_cases (UInt8.le_trans h (by decide)) with rfl | rfl | rfl | rfl | rfl
  · exact .inl rfl
  · exact .inr (.inl rfl)
  · exact .inr (.inr rfl)
  · exact absurd h (by decide)
  · exact absurd h (by decide)

/-- A frame under an installed rule, or not compressed at all, is handled safely. -/
theorem SafeReception.of_installed {s : Net} {rules : RuleTable} {msb1 msb2 : Fin 18 → UInt8}
    {id : UInt8} {data : List UInt8} (hrules : s.rules = initializeRules rules msb1 msb2)
    (hpool : 2 ≤ s.heap.pool) (hframe : s.frame = id :: data) (hid : id ≤ 2) :
    SafeReception s := by
  obtain rfl | hid := installed_of_le hid
  · have htrace := trace_virtualloraif_input_zero hpool hframe
    refine ⟨.inr ⟨data, by rw [htrace], ?_⟩, .inl (by rw [htrace]), by rw [htrace]⟩
    intro id' data' hframe' hne
    rw [hframe, List.cons.injEq] at hframe'
    exact absurd hframe'.1.symm hne
  · have htrace := trace_virtualloraif_input_installed hrules hpool hid hframe
    have hlen := s.length_frame_lt
    rw [hframe, List.length_cons] at hlen
    refine ⟨.inr ⟨_, by rw [htrace], ?_⟩, .inr ⟨_, by rw [htrace], ?_⟩, by rw [htrace]⟩
    · intro id' data' hframe' _
      rw [hframe, List.cons.injEq] at hframe'
      obtain ⟨-, rfl⟩ := hframe'
      rw [List.append_assoc, payloadLengthField_toBytes, paylength_installedHeaders,
        toNat_computedLength hlen, ← List.append_assoc]
      simp only [List.length_append, ipv6_hdr.length_toBytes, udp_schc_hdr.length_toBytes]
      refine ⟨by omega, ?_⟩
      rw [Nat.add_sub_cancel]
      exact List.drop_left' (by simp)
    · rcases hid with rfl | rfl
      · exact .inl rfl
      · exact .inr rfl

/-- A received frame is handled safely exactly when it carries the rule id 0, 1 or 2
and two pool elements are free, or when none is, in which case the frame is dropped
before `schc_input` sees it. -/
theorem safe_reception_iff {s : Net} {rules : RuleTable} {msb1 msb2 : Fin 18 → UInt8}
    (hrules : s.rules = initializeRules rules msb1 msb2) :
    SafeReception s ↔
      s.heap.pool = 0 ∨
        (2 ≤ s.heap.pool ∧ ∃ id data, s.frame = id :: data ∧ id ≤ 2) := by
  constructor
  · intro hsafe
    by_contra hnot
    rw [not_or] at hnot
    obtain ⟨hempty, hbad⟩ := hnot
    have hpool : 0 < s.heap.pool := Nat.pos_of_ne_zero hempty
    cases hframe : s.frame with
    | nil =>
      have hunder := underflows_virtualloraif_input hpool hframe
      rw [hsafe.underflows] at hunder
      omega
    | cons id data =>
      by_cases hid : id ≤ 2
      · have hone : s.heap.pool = 1 := by
          by_contra hne
          exact hbad ⟨by omega, id, data, hframe, hid⟩
        have hnull := delivered_virtualloraif_input_of_one hone
        rcases hsafe.delivers with h | ⟨packet, h, -⟩ <;> simp [hnull] at h
      · have hne : id ≠ 0 := by
          rintro rfl
          exact hid (by decide)
        have hindex := indexed_virtualloraif_input hpool hframe hne
        have hslot : ¬ ((id - 1).toNat = 0 ∨ (id - 1).toNat = 1) := by
          rw [UInt8.le_iff_toNat_le] at hid
          change ¬ id.toNat ≤ 2 at hid
          have hlt := id.toNat_lt
          rw [UInt8.toNat_sub]
          change ¬ ((2 ^ 8 - 1 + id.toNat) % 2 ^ 8 = 0 ∨ (2 ^ 8 - 1 + id.toNat) % 2 ^ 8 = 1)
          omega
        rcases hsafe.indexes with h | ⟨i, h, hi⟩
        · simp [hindex] at h
        · rw [hindex, List.append_cancel_left_eq, List.cons.injEq] at h
          exact hslot (h.1 ▸ hi)
  · rintro (hempty | ⟨hpool, id, data, hframe, hid⟩)
    · have htrace := congrArg Net.trace (virtualloraif_input_of_empty hempty)
      exact ⟨.inl (by rw [htrace]), .inl (by rw [htrace]), by rw [htrace]⟩
    · exact .of_installed hrules hpool hframe hid

/-- A node whose mailbox holds the single byte `id`. -/
def Net.pinged (id : UInt8) : Net :=
  { Net.boot with AppData := fun _ => id, AppDataSize := 1 }

/-- A frame that carries rule id 5 makes reception read `rules[4]`, one slot past the
last one of the table. -/
theorem not_safeReception_pinged : ¬ SafeReception (Net.pinged 5) := by
  intro hsafe
  have hframe : (Net.pinged 5).frame = [5] := rfl
  have hindex : (virtualloraif_input (Net.pinged 5)).trace.indexed = [4] :=
    indexed_virtualloraif_input (s := Net.pinged 5) (by decide) hframe (by decide)
  rcases hsafe.indexes with h | ⟨i, h, hi⟩
  · rw [hindex] at h
    exact absurd h (by decide)
  · rw [hindex] at h
    obtain rfl : 4 = i := (List.cons.inj h).1
    exact absurd hi (by decide)

theorem safe_reception_iff_pinged :
    SafeReception (Net.pinged 1) ∧ ¬ SafeReception (Net.pinged 3) := by
  constructor
  · rw [safe_reception_iff (s := Net.pinged 1) rfl]
    exact .inr ⟨by decide, 1, [], rfl, by decide⟩
  · rw [safe_reception_iff (s := Net.pinged 3) rfl]
    rintro (h | ⟨-, id, data, hframe, hid⟩)
    · exact absurd h (by decide)
    · obtain rfl : 3 = id := (List.cons.inj hframe).1
      exact absurd hid (by decide)

/-- The same state with other values in the globals `ipv6_header` and `udp_header`,
as another history of calls would have left there. -/
def Net.withHeaders (s : Net) (ip : ipv6_hdr) (udp : udp_schc_hdr) : Net :=
  { s with ipv6_header := ip, udp_header := udp }

@[simp] theorem Net.frame_withHeaders (s : Net) (ip : ipv6_hdr) (udp : udp_schc_hdr) :
    (s.withHeaders ip udp).frame = s.frame :=
  rfl

/-- What one reception hands to `ip6_input`. -/
def Net.delivers (s : Net) : List (Option (List UInt8)) :=
  (virtualloraif_input s).trace.delivered.drop s.trace.delivered.length

theorem Net.delivers_of_append {s : Net} {packets : List (Option (List UInt8))}
    (h : (virtualloraif_input s).trace.delivered = s.trace.delivered ++ packets) :
    s.delivers = packets := by
  rw [delivers, h, List.drop_left]

theorem Net.delivers_of_pool_lt {s : Net} (hpool : s.heap.pool < 2) :
    s.delivers = if s.heap.pool = 0 then [] else [none] := by
  apply delivers_of_append
  split
  next hempty => rw [virtualloraif_input_of_empty hempty, List.append_nil]
  next hne => rw [delivered_virtualloraif_input_of_one (by omega)]

/-- A header that claims fewer than 8 bytes of payload makes `pbuf_take` refuse the
headers and `pbuf_take_at` the data: `ip6_input` gets the buffer as it was allocated. -/
theorem inputCompressed_of_short (s : Net) (p : Nat) (ruleId : UInt8) {ip : ipv6_hdr}
    {udp : udp_schc_hdr} {off : Nat} (hdecompress : schc_decompression s.rules
      (pbuf_get_at s.heap (some p)) (s.heap.pbufs p).tot_len s.ipv6_header s.udp_header ruleId =
        (ip, udp, off))
    (hpaylength : ip.paylength.toNat < 8) (hpool : 0 < s.heap.pool) :
    (inputCompressed s p ruleId).1 = some s.heap.handles ∧
      (inputCompressed s p ruleId).2.heap =
        s.heap.freshBuffer (40 + ip.paylength.toNat) .PBUF_POOL ∧
      (inputCompressed s p ruleId).2.trace.delivered = s.trace.delivered := by
  have hsize : (IP6_HLEN + ip.paylength.toNat) % 65536 = 40 + ip.paylength.toNat := by
    rw [IP6_HLEN]
    omega
  have hbuffer := contiguous_freshBuffer s.heap (40 + ip.paylength.toNat) .PBUF_POOL
  have hself := freshBuffer_pbufs_self s.heap (40 + ip.paylength.toNat) .PBUF_POOL
  have halloc := pbuf_alloc_pool_of_le .PBUF_IP (40 + ip.paylength.toNat) hpool
    (show 40 + ip.paylength.toNat ≤ 536 by omega)
  have htake : (pbuf_take (s.heap.freshBuffer (40 + ip.paylength.toNat) .PBUF_POOL)
      (some s.heap.handles) (ip.toBytes ++ udp.toBytes)).2 =
        s.heap.freshBuffer (40 + ip.paylength.toNat) .PBUF_POOL := by
    apply pbuf_take_refused
    rw [hself, List.length_append, ip.length_toBytes, udp.length_toBytes]
    change 40 + ip.paylength.toNat < 48
    omega
  have htake_at (data : List UInt8) :
      (pbuf_take_at (s.heap.freshBuffer (40 + ip.paylength.toNat) .PBUF_POOL)
        (some s.heap.handles) data (IP6_HLEN + UDP_HLEN)).2 =
          s.heap.freshBuffer (40 + ip.paylength.toNat) .PBUF_POOL := by
    apply pbuf_take_at_refused hbuffer
    rw [hself]
    change 40 + ip.paylength.toNat < 48 + data.length
    omega
  simp only [inputCompressed, hdecompress, hsize, halloc, htake, htake_at, and_self]

/-- Under a slot that holds no rule, the delivered packet is as long as the last
packet's header says. -/
theorem length_delivers_of_empty {s : Net} {id : UInt8} {data : List UInt8} (ip : ipv6_hdr)
    (udp : udp_schc_hdr) (hpool : 2 ≤ s.heap.pool) (hframe : s.frame = id :: data) (hid : id ≠ 0)
    (hslot : s.rules (id - 1).toNat = emptyRule) (hpaylength : ip.paylength.toNat < 8) :
    (s.withHeaders ip udp).delivers.map (Option.map List.length) =
      [some (40 + ip.paylength.toNat)] := by
  let t := s.withHeaders ip udp
  have hpool' : 2 ≤ t.heap.pool := hpool
  obtain ⟨hget, -, -⟩ := pbuf_get_at_zero t.contiguous_receive (t.packet_receive.trans hframe)
  obtain ⟨hbuffer, hheap, htrace⟩ := inputCompressed_of_short t.receive t.heap.handles id
    (schc_decompression_empty _ _ _ _ hslot) hpaylength (t.pool_receive hpool')
  have hdelivered : (virtualloraif_input t).trace.delivered = t.trace.delivered ++
      [some ((t.receive.heap.fresh t.receive.heap.handles).read 0 (40 + ip.paylength.toNat))] := by
    rw [trace_virtualloraif_input (by omega), trace_schc_input (if_neg (hget ▸ hid)), hget]
    simp only [hbuffer, hheap, htrace, Option.map_some]
    rw [(contiguous_freshBuffer ..).packet, freshBuffer_pbufs_self]
    rfl
  rw [Net.delivers_of_append hdelivered]
  simp

/-- What a compressed frame delivers does not depend on the headers of earlier
packets exactly when its rule is installed, or when the pool has no element for
the packet, whatever it is. -/
theorem delivers_withHeaders_eq_iff {s : Net} {rules : RuleTable} {msb1 msb2 : Fin 18 → UInt8}
    {id : UInt8} {data : List UInt8} (hrules : s.rules = initializeRules rules msb1 msb2)
    (hframe : s.frame = id :: data) (hpos : 1 ≤ id) (hle : id ≤ 4) :
    (∀ ip udp ip' udp', (s.withHeaders ip udp).delivers = (s.withHeaders ip' udp').delivers) ↔
      id ≤ 2 ∨ s.heap.pool < 2 := by
  constructor
  · intro hsame
    by_contra hnot
    rw [not_or, Nat.not_lt] at hnot
    obtain ⟨hempty, hpool⟩ := hnot
    have hslot : s.rules (id - 1).toNat = emptyRule := by
      rw [hrules]
      rcases ruleId_cases hle with rfl | rfl | rfl | rfl | rfl
      · exact absurd hpos (by decide)
      · exact absurd (by decide) hempty
      · exact absurd (by decide) hempty
      · rfl
      · rfl
    have hid : id ≠ 0 := by
      rintro rfl
      exact absurd hpos (by decide)
    -- two headers that differ in the payload length only
    let short : ipv6_hdr := ⟨0, 0, 0, 0, 0, 0, ⟨0, 0, 0, 0⟩, ⟨0, 0, 0, 0⟩⟩
    have hshort := length_delivers_of_empty short s.udp_header hpool hframe hid hslot (by decide)
    have hlong := length_delivers_of_empty { short with paylength := 1 } s.udp_header hpool hframe
      hid hslot (by decide)
    rw [hsame short s.udp_header { short with paylength := 1 } s.udp_header, hlong] at hshort
    exact absurd hshort (by decide)
  · intro hcond ip udp ip' udp'
    by_cases hpool : s.heap.pool < 2
    · rw [Net.delivers_of_pool_lt (s := s.withHeaders ip udp) hpool,
        Net.delivers_of_pool_lt (s := s.withHeaders ip' udp') hpool]
      rfl
    · obtain rfl | hid := installed_of_le (hcond.resolve_right hpool)
      · exact absurd hpos (by decide)
      have hinstalled (ip : ipv6_hdr) (udp : udp_schc_hdr) :=
        Net.delivers_of_append (congrArg Trace.delivered
          (trace_virtualloraif_input_installed (s := s.withHeaders ip udp) hrules
            (Nat.not_lt.1 hpool) hid hframe))
      rw [hinstalled, hinstalled]

/-- The headers that the reception of an empty packet under rule 1 leaves behind. -/
def staleHeaders : ipv6_hdr × udp_schc_hdr :=
  ((virtualloraif_input (Net.pinged 1)).ipv6_header, (virtualloraif_input (Net.pinged 1)).udp_header)

/-- Under rule id 3 a node that has received an empty packet before delivers 48
bytes, and a node that has received nothing 40. -/
theorem delivers_staleHeaders_ne :
    ((Net.pinged 3).withHeaders staleHeaders.1 staleHeaders.2).delivers ≠
      (Net.pinged 3).delivers := by
  decide

theorem delivers_withHeaders_eq_iff_pinged :
    (∀ ip udp ip' udp', ((Net.pinged 2).withHeaders ip udp).delivers =
      ((Net.pinged 2).withHeaders ip' udp').delivers) ∧
    ¬ ∀ ip udp ip' udp', ((Net.pinged 4).withHeaders ip udp).delivers =
      ((Net.pinged 4).withHeaders ip' udp').delivers := by
  have hframe (id : UInt8) : (Net.pinged id).frame = [id] := rfl
  constructor
  · rw [delivers_withHeaders_eq_iff (s := Net.pinged 2) rfl (hframe 2) (by decide) (by decide)]
    exact .inl (by decide)
  · rw [delivers_withHeaders_eq_iff (s := Net.pinged 4) rfl (hframe 4) (by decide) (by decide)]
    decide

end loranode.netif
