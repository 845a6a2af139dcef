import LoRaNode.Coap.Client
import LoRaNode.Lwip.Ownership

open loranode.lwip loranode.schc loranode.netif

namespace loranode.coap

/-- One allocation from the heap: `NULL`, or one contiguous buffer. -/
theorem pbuf_alloc_ram_cases (h : Heap) (layer : pbuf_layer) (length : Nat) :
    (∃ h', pbuf_alloc h layer length .PBUF_RAM = (none, h') ∧ h.OnlyReads h' ∧
      h'.misuse = h.misuse) ∨
    pbuf_alloc h layer length .PBUF_RAM = (some h.handles, h.freshBuffer length .PBUF_RAM) := by
  simp only [pbuf_alloc]
  split
  · exact .inl ⟨_, rfl, .refl h, rfl⟩
  · split
    · exact .inl ⟨_, rfl, ⟨rfl, rfl, List.prefix_rfl⟩, rfl⟩
    · exact .inr rfl

/-- The packet that replaces `p` is `NULL`, a new buffer, or a new buffer with `p`
chained behind it. -/
theorem compressedPacket_cases {h : Heap} {p : Nat} (hp : h.Contiguous p) (schc_header : Mem)
    (schc_offset : Nat) :
    (∃ h', compressedPacket h p schc_header schc_offset = (none, h') ∧ h.OnlyReads h' ∧
      h'.misuse = h.misuse) ∨
    (∃ n m, compressedPacket h p schc_header schc_offset =
      (some h.handles, h.filledBuffer n .PBUF_RAM m)) ∨
    ∃ n m tot_len, compressedPacket h p schc_header schc_offset =
      (some h.handles, (h.filledBuffer n .PBUF_RAM m).set h.handles
        ⟨some p, m, tot_len, n, .PBUF_RAM, 1⟩) := by
  by_cases hid : schc_header 0 = 0
  · simp only [compressedPacket, if_pos hid]
    rcases pbuf_alloc_ram_cases h .PBUF_RAW schc_offset with ⟨h', halloc, hsame, hmisuse⟩ | halloc
    · refine .inl ⟨h', ?_, hsame, hmisuse⟩
      simp only [halloc, pbuf_take, pbuf_cat]
    · obtain ⟨m, htake⟩ := pbuf_take_freshBuffer_exists h schc_offset .PBUF_RAM
        (schc_header.read 0 schc_offset)
      have hself := filledBuffer_pbufs_self h schc_offset .PBUF_RAM m
      have hlive : 0 < ((h.filledBuffer schc_offset .PBUF_RAM m).pbufs p).ref := by
        rw [filledBuffer_pbufs_of_ne _ _ _ (Nat.ne_of_lt hp.lt)]
        exact hp.ref
      refine .inr (.inr ⟨schc_offset, m, (schc_offset + (h.pbufs p).tot_len) % 65536, ?_⟩)
      simp only [halloc, htake, pbuf_cat, (contiguous_filledBuffer ..).chain, pbuf_cat_loop,
        Heap.touch_of_ref hlive, hself, filledBuffer_pbufs_of_ne _ _ _ (Nat.ne_of_lt hp.lt)]
  · let n := (sub16 (h.pbufs p).tot_len (IP6_HLEN + UDP_HLEN) + schc_offset) % 65536
    simp only [compressedPacket, if_neg hid]
    rcases pbuf_alloc_ram_cases h .PBUF_RAW n with ⟨h', halloc, hsame, hmisuse⟩ | halloc
    · refine .inl ⟨h', ?_, hsame, hmisuse⟩
      simp only [n] at halloc
      simp only [halloc, pbuf_take, pbuf_take_at, pbuf_skip, Heap.chain_none, pbuf_skip_loop]
    · obtain ⟨m, htake⟩ := pbuf_take_freshBuffer_exists h n .PBUF_RAM
        (schc_header.read 0 schc_offset)
      obtain ⟨m', htake_at⟩ := pbuf_take_at_filledBuffer_exists h n .PBUF_RAM m
        ((h.pbufs p).payload.read (IP6_HLEN + UDP_HLEN)
          (sub16 (h.pbufs p).tot_len (IP6_HLEN + UDP_HLEN))) schc_offset
      refine .inr (.inl ⟨n, m', ?_⟩)
      simp only [n] at halloc htake htake_at ⊢
      simp only [halloc, htake, htake_at]

/-- What is left of `p` when `schc_output` returns: its count is 0, or something has
gone wrong with it already. -/
structure Released (h h' : Heap) (p : Nat) : Prop where
  misuse : h.misuse <+: h'.misuse
  handles : 0 < h'.handles
  ref : (h'.pbufs p).ref = 0 ∨ h'.misuse ≠ h.misuse

/-- Whoever frees `p` once more is found out. -/
theorem Released.misuse_pbuf_free_ne {h h' : Heap} {p : Nat} (hreleased : Released h h' p) :
    (pbuf_free h' (some p)).misuse ≠ h.misuse := by
  intro hsame
  rcases hreleased.ref with hzero | hne
  · have hfreed := (misuse_pbuf_free_unreferenced hreleased.handles hzero).length_le
    have hle := hreleased.misuse.length_le
    rw [hsame, List.length_append, List.length_singleton] at hfreed
    omega
  · have hfreed := misuse_pbuf_free h' (some p)
    rw [hsame] at hfreed
    exact hne (hfreed.eq_of_length_le hreleased.misuse.length_le)

/-- A fresh buffer besides `p` does not change what becomes of `p`. -/
theorem released_pbuf_free_other {h h₁ : Heap} {p c : Nat} (hmisuse : h.misuse <+: h₁.misuse)
    (hc : h₁.chain (some c) = [c]) (hne : p ≠ c) (hpos : 0 < h₁.handles)
    (href : (h₁.pbufs p).ref = 0) : Released h (pbuf_free h₁ (some c)) p where
  misuse := hmisuse.trans (misuse_pbuf_free h₁ (some c))
  handles := by
    rw [(sameBuffers_pbuf_free h₁ (some c)).handles]
    exact hpos
  ref := by
    left
    rw [pbuf_free, hc, pbuf_free_loop_pbufs_of_not_mem h₁ (by simpa using hne)]
    exact href

/-- `p` chained behind a buffer is freed with it, once too often. -/
theorem released_pbuf_free_chained {h h₁ : Heap} {p c : Nat} {ps : List Nat}
    (hmisuse : h.misuse <+: h₁.misuse) (hc : h₁.chain (some c) = c :: p :: ps) (hne : p ≠ c)
    (hlast : (h₁.pbufs c).ref = 1) (hpos : 0 < h₁.handles) (href : (h₁.pbufs p).ref = 0) :
    Released h (pbuf_free h₁ (some c)) p := by
  obtain ⟨h₂, hloop, hmisuse₂, -, hpbufs⟩ := pbuf_free_loop_cons (p :: ps) hlast
  have hfreed : h₁.misuse ++ [.free_unreferenced p] <+: (pbuf_free h₁ (some c)).misuse := by
    rw [pbuf_free, hc, hloop, ← hmisuse₂]
    apply misuse_pbuf_free_loop_cons
    rw [hpbufs, Function.update_of_ne hne, href]
  refine ⟨hmisuse.trans (misuse_pbuf_free h₁ (some c)), ?_, .inr ?_⟩
  · rw [(sameBuffers_pbuf_free h₁ (some c)).handles]
    exact hpos
  · intro hsame
    have hlength := hfreed.length_le
    have hle := hmisuse.length_le
    rw [hsame, List.length_append, List.length_singleton] at hlength
    omega

/-- `schc_output` has freed `p`; `low_level_output` then frees what replaces it. -/
theorem released_low_level_output {h h₁ : Heap} {s : Net} {p c : Nat}
    (hheap : s.heap = pbuf_free h₁ (some p)) (hmisuse : h₁.misuse = h.misuse)
    (hp : h₁.Contiguous p) (href : (h₁.pbufs p).ref = 1) (hne : p ≠ c)
    (hlast : (h₁.pbufs c).ref = 1)
    (hc : h₁.chain (some c) = [c] ∨ ∃ ps, h₁.chain (some c) = c :: p :: ps) :
    Released h (low_level_output s (some c)).2.heap p := by
  obtain ⟨hmisuse₂, hpbufs₂⟩ := pbuf_free_contiguous hp href
  have hsame := sameBuffers_pbuf_free h₁ (some p)
  have hread := onlyReads_pbuf_copy_partial s.heap (some c) s.AppData (s.heap.pbufs c).tot_len 0
  change Released h (pbuf_free
    ( pbuf_copy_partial s.heap (some c) s.AppData (s.heap.pbufs c).tot_len 0).2.2 (some c)) p
  generalize ( pbuf_copy_partial s.heap (some c) s.AppData (s.heap.pbufs c).tot_len 0).2.2 = h₃
    at hread ⊢
  rw [hheap] at hread
  have hmisuse₃ : h.misuse <+: h₃.misuse := by
    rw [← hmisuse, ← hmisuse₂]
    exact hread.misuse
  have hpos : 0 < h₃.handles := by
    rw [hread.handles, hsame.handles]
    exact Nat.zero_lt_of_lt hp.lt
  have href₃ : (h₃.pbufs p).ref = 0 := by
    rw [hread.pbufs, hpbufs₂, Function.update_self]
  have hlast₃ : (h₃.pbufs c).ref = 1 := by
    rw [hread.pbufs, hpbufs₂, Function.update_of_ne hne.symm, hlast]
  have hchain : h₃.chain (some c) = h₁.chain (some c) :=
    (hread.chain _).trans (hsame.chain _)
  rcases hc with hc | ⟨ps, hc⟩
  · exact released_pbuf_free_other hmisuse₃ (hchain.trans hc) hne hpos href₃
  · exact released_pbuf_free_chained hmisuse₃ (hchain.trans hc) hne hlast₃ hpos href₃

/-- `schc_output` drops the caller's only reference to `p`. -/
theorem released_schc_output {s : Net} {p : Nat} (hp : s.heap.Contiguous p)
    (href : (s.heap.pbufs p).ref = 1) : Released s.heap (schc_output s p).2.heap p := by
  have hne : p ≠ s.heap.handles := Nat.ne_of_lt hp.lt
  simp only [schc_output, schc_output_packet, Heap.touch_of_ref hp.ref, schc_frag]
  generalize schc_compression s.rules (ipv6_hdr.ofBuffer (s.heap.pbufs p).payload)
    (udp_schc_hdr.ofBuffer (s.heap.pbufs p).payload) s.schc_header = header
  rcases compressedPacket_cases hp header.1 header.2 with
    ⟨h₁, hpacket, hread, hmisuse⟩ | ⟨n, m, hpacket⟩ | ⟨n, m, tot_len, hpacket⟩
  · have hp₁ : h₁.Contiguous p := by
      obtain ⟨hlt, hnext, htot, hlive⟩ := hp
      exact ⟨by rwa [hread.handles], by rwa [hread.pbufs], by rwa [hread.pbufs],
        by rwa [hread.pbufs]⟩
    obtain ⟨hmisuse₂, hpbufs₂⟩ := pbuf_free_contiguous hp₁ (by rw [hread.pbufs, href])
    simp only [hpacket, low_level_output, copyToAppData, setAppDataSize, pbuf_free_null]
    refine ⟨?_, ?_, .inl ?_⟩
    · exact ⟨[], by rw [List.append_nil, hmisuse₂, hmisuse]⟩
    · rw [(sameBuffers_pbuf_free h₁ (some p)).handles]
      exact Nat.zero_lt_of_lt hp₁.lt
    · rw [hpbufs₂, Function.update_self]
  · have hp₁ : (s.heap.filledBuffer n .PBUF_RAM m).Contiguous p :=
      (hp.freshBuffer n .PBUF_RAM).setPayload m
    rw [hpacket]
    refine released_low_level_output rfl rfl hp₁ ?_ hne ?_ (.inl (contiguous_filledBuffer ..).chain)
    · rw [filledBuffer_pbufs_of_ne _ _ _ hne, href]
    · rw [filledBuffer_pbufs_self]
  · let b : pbuf := ⟨some p, m, tot_len, n, .PBUF_RAM, 1⟩
    let h₁ := (s.heap.filledBuffer n .PBUF_RAM m).set s.heap.handles b
    have hother : h₁.pbufs p = s.heap.pbufs p := by
      rw [Heap.set_pbufs_of_ne _ hne, filledBuffer_pbufs_of_ne _ _ _ hne]
    have hself : h₁.pbufs s.heap.handles = b := Heap.set_pbufs_self ..
    have hlt : p < h₁.handles := Nat.lt_succ_of_lt hp.lt
    have hp₁ : h₁.Contiguous p :=
      ⟨hlt, by rw [hother, hp.next], by rw [hother, hp.tot_len], by rw [hother]; exact hp.ref⟩
    have hchain : h₁.chain (some s.heap.handles) = [s.heap.handles, p] := by
      have hlive := hp.lt
      refine Heap.chain_of_next_some ?_ (by rw [hself]) (by rw [hother, hp.next])
      change 2 ≤ s.heap.handles + 1
      omega
    rw [hpacket]
    exact released_low_level_output rfl rfl hp₁ (by rw [hother, href]) hne (by rw [hself])
      (.inr ⟨[], hchain⟩)

/-- From `s` to `s'` every reference was dropped once: no `pbuf_free` found a count of
0, no buffer was read after its count reached 0, and no buffer allocated on the way is
still referenced. -/
structure Balanced (s s' : Net) : Prop where
  misuse : s'.heap.misuse = s.heap.misuse
  released : ∀ k, s.heap.handles ≤ k → k < s'.heap.handles → (s'.heap.pbufs k).ref = 0
  null_reads : s'.trace.null_reads = s.trace.null_reads

theorem contiguous_pbuf_header (h : Heap) (n : Nat) (m : Mem) (header : List UInt8) :
    (pbuf_header (h.filledBuffer n .PBUF_RAM m) h.handles header).Contiguous h.handles ∧
      ((pbuf_header (h.filledBuffer n .PBUF_RAM m) h.handles header).pbufs h.handles).ref = 1 := by
  have hbuffer := contiguous_filledBuffer h n .PBUF_RAM m
  have hself := filledBuffer_pbufs_self h n .PBUF_RAM m
  simp only [pbuf_header, hself]
  exact ⟨⟨hbuffer.lt, by simp, by simp, by simp⟩, by simp⟩

theorem schc_output_fst (s : Net) (p : Nat) : (schc_output s p).1 = .ERR_OK := by
  rfl

/-- A message fits the heap whenever the heap serves the request. -/
theorem pbuf_alloc_msg_send {h : Heap} (msg_send : coap_pdu)
    (hmem : h.mem_malloc h.requests = true) :
    pbuf_alloc h .PBUF_TRANSPORT msg_send.bytes.length .PBUF_RAM =
      (some h.handles, h.freshBuffer msg_send.bytes.length .PBUF_RAM) := by
  refine pbuf_alloc_ram_of_le _ _ ?_ hmem
  have hfits := msg_send.length_le
  rw [MSG_BUF_LEN] at hfits
  change 16 + 74 + msg_send.bytes.length ≤ 3000
  omega

/-- A message that is passed down is freed by `schc_output`, and again by `coap_output`. -/
theorem misuse_coap_output_of_routed {s : Net} (msg_send : coap_pdu) {header : List UInt8}
    (hlength : header.length = IP6_HLEN + UDP_HLEN)
    (hmem : s.heap.mem_malloc s.heap.requests = true) :
    (coap_output s msg_send (.routed header hlength)).2.heap.misuse ≠ s.heap.misuse := by
  obtain ⟨m, htake⟩ := pbuf_take_freshBuffer_exists s.heap msg_send.bytes.length .PBUF_RAM
    msg_send.bytes
  obtain ⟨hp, href⟩ := contiguous_pbuf_header s.heap msg_send.bytes.length m header
  have hreleased := released_schc_output (s := { s with
    heap := pbuf_header (s.heap.filledBuffer msg_send.bytes.length .PBUF_RAM m) s.heap.handles
      header }) hp href
  simp only [coap_output, pbuf_alloc_msg_send msg_send hmem, htake, udp_send, schc_output_fst,
    ne_eq, not_true, if_false]
  exact hreleased.misuse_pbuf_free_ne

/-- The only call of `coap_output` that keeps the balance is one that neither gets a
buffer nor a route: once a buffer is allocated, an error leaves it allocated, and a
packet that is passed down is freed twice. -/
theorem balanced_coap_output_iff (s : Net) (msg_send : coap_pdu) (route : Route) :
    Balanced s (coap_output s msg_send route).2 ↔
      s.heap.mem_malloc s.heap.requests = false ∧ ∃ err herr, route = .refused err herr := by
  cases hmem : s.heap.mem_malloc s.heap.requests with
  | true =>
    simp only [Bool.true_eq_false, false_and, iff_false]
    intro hbalanced
    cases route with
    | routed header hlength =>
      exact misuse_coap_output_of_routed msg_send hlength hmem hbalanced.misuse
    | refused err herr =>
      -- the buffer is still referenced when `coap_output` returns the error
      obtain ⟨m, htake⟩ := pbuf_take_freshBuffer_exists s.heap msg_send.bytes.length .PBUF_RAM
        msg_send.bytes
      have hreleased := hbalanced.released s.heap.handles (Nat.le_refl _)
      simp only [coap_output, pbuf_alloc_msg_send msg_send hmem, htake, udp_send, herr, ne_eq,
        not_false_eq_true, if_true, filledBuffer_pbufs_self] at hreleased
      exact absurd (hreleased (Nat.lt_succ_self _)) Nat.one_ne_zero
  | false =>
    obtain ⟨h', halloc, hread, hmisuse⟩ : ∃ h', pbuf_alloc s.heap .PBUF_TRANSPORT
        msg_send.bytes.length .PBUF_RAM = (none, h') ∧ s.heap.OnlyReads h' ∧
          h'.misuse = s.heap.misuse := by
      rcases pbuf_alloc_ram_cases s.heap .PBUF_TRANSPORT msg_send.bytes.length with h | h
      · exact h
      · have hnull := pbuf_alloc_ram_null .PBUF_TRANSPORT msg_send.bytes.length (.inr (.inr hmem))
        rw [h] at hnull
        exact absurd hnull (Option.some_ne_none _)
    simp only [true_and]
    cases route with
    | routed header hlength =>
      simp only [reduceCtorEq, exists_false, iff_false]
      intro hbalanced
      have hreads := hbalanced.null_reads
      simp only [coap_output, halloc, pbuf_take, udp_send, ne_eq, not_true, if_false] at hreads
      omega
    | refused err herr =>
      refine ⟨fun _ => ⟨err, herr, rfl⟩, fun _ => ?_⟩
      simp only [coap_output, halloc, pbuf_take, udp_send, herr, ne_eq, not_false_eq_true, if_true]
      refine ⟨hmisuse, fun k hle hlt => ?_, rfl⟩
      change k < h'.handles at hlt
      rw [hread.handles] at hlt
      omega

/-- A `PUT` of six bytes to the resource `temp`. -/
def putTemp : coap_pdu where
  bytes := [0x50, 0x03, 0x12, 0x34, 0xB4, 0x74, 0x65, 0x6D, 0x70, 0xFF, 50, 56, 50, 57, 50, 57]
  length_le := by decide

/-- The headers that lwIP puts in front of a message of 16 bytes to the server. -/
def toServer : Route :=
  .routed
    [0x60, 0, 0, 0, 0, 24, 17, 255,
      0x20, 0x01, 0x06, 0xA8, 0x1D, 0x80, 0x06, 0x02, 0x00, 0xAF, 0x00, 0x85, 0x89, 0xA1, 0x00, 0x1F,
      0x20, 0x01, 0x06, 0xA8, 0x1D, 0x80, 0x20, 0x21, 0x02, 0x30, 0x48, 0xFF, 0xFE, 0x5A, 0x3E, 0xE4,
      0x04, 0x3E, 0x16, 0x33, 0x00, 0x18, 0xBE, 0xEF]
    rfl

/-- On a started node, with a route to the server, the buffer of the message is freed
once too often. -/
theorem not_balanced_coap_output_putTemp :
    ¬ Balanced Net.boot (coap_output Net.boot putTemp toServer).2 := by
  intro hbalanced
  exact absurd hbalanced.misuse (by decide)

end loranode.coap
