import LoRaNode.Netif.Input
import LoRaNode.Netif.Mailbox
import LoRaNode.Coap.Ownership

open loranode.lwip loranode.schc loranode.netif

namespace loranode.coap

/-- The functions that must not be called with a `NULL` packet. -/
inductive Callee where
  | pbuf_take
  | ip6_input
  | linkoutput
  | udp_send
  deriving DecidableEq, Repr

/-- The packet `schc_input` builds from the frame `p`. -/
def inputPacket (s : Net) (p : Nat) : pbuf_ptr × Net :=
  if pbuf_get_at s.heap (some p) 0 = 0 then inputUncompressed s p
  else inputCompressed s p (pbuf_get_at s.heap (some p) 0)

theorem schc_input_eq (s : Net) (p : Nat) :
    schc_input s p = ip6_input
      { (inputPacket s p).2 with heap := pbuf_free (inputPacket s p).2.heap (some p) }
      (inputPacket s p).1 :=
  rfl

/-- The calls that `schc_input` makes, with the packet it passes. -/
def schc_input_calls (s : Net) (p : Nat) : List (Callee × pbuf_ptr) :=
  [(.pbuf_take, (inputPacket s p).1), (.ip6_input, (inputPacket s p).1)]

/-- The calls that `schc_output` makes; `netif->linkoutput` is called by `schc_frag`. -/
def schc_output_calls (s : Net) (p : Nat) : List (Callee × pbuf_ptr) :=
  [(.pbuf_take, (schc_output_packet s p).1), (.linkoutput, (schc_output_packet s p).1)]

/-- The calls that `coap_output` makes, and those of `schc_output` below it. -/
def coap_output_calls (s : Net) (msg_send : coap_pdu) (route : Route) :
    List (Callee × pbuf_ptr) :=
  let (p, heap) := pbuf_alloc s.heap .PBUF_TRANSPORT msg_send.bytes.length .PBUF_RAM
  let heap := (pbuf_take heap p msg_send.bytes).2
  [(.pbuf_take, p), (.udp_send, p)] ++
    match p, route with
    | some k, .routed header _ => schc_output_calls { s with heap := pbuf_header heap k header } k
    | _, _ => []

/-- What surviving the exhaustion of buffers means for one call: no callee gets `NULL`,
success is reported only for a packet that went to `delivery`, and a packet that did
not is `released`. -/
structure Survives (calls : List (Callee × pbuf_ptr)) (success : Prop) (delivery : Callee)
    (released : Prop) : Prop where
  not_null : ∀ call ∈ calls, call.2 ≠ none
  delivered : success → ∃ k, (delivery, some k) ∈ calls
  released : ¬ success → released

/-- From `h` to `h'` the references to `p` were dropped, and not one more. -/
def ReleasedOnce (h h' : Heap) (p : Nat) : Prop :=
  h'.misuse = h.misuse ∧ (h'.pbufs p).ref = 0

/-- The reception of the frame in the mailbox. Without a buffer for the frame,
`virtualloraif_input` does not call `schc_input`. -/
def SurvivesInput (s : Net) : Prop :=
  match low_level_input s with
  | (none, _) => True
  | (some p, s₁) =>
    Survives (schc_input_calls s₁ p) ((schc_input s₁ p).1 = .ERR_OK) .ip6_input
      (ReleasedOnce s.heap (virtualloraif_input s).heap p)

def SurvivesOutput (s : Net) (p : Nat) : Prop :=
  Survives (schc_output_calls s p) ((schc_output s p).1 = .ERR_OK) .linkoutput
    (ReleasedOnce s.heap (schc_output s p).2.heap p)

/-- `coap_output` is given no packet: there is none to release. -/
def SurvivesCoap (s : Net) (msg_send : coap_pdu) (route : Route) : Prop :=
  Survives (coap_output_calls s msg_send route) ((coap_output s msg_send route).1 = 0) .linkoutput
    True

/-- The length of the packet that the frame in the mailbox stands for: it is taken
from the frame for rule id 0, and from the restored header otherwise. -/
def inputLength (s : Net) : Nat :=
  if s.frame.getD 0 0 = 0 then sub16 s.frame.length 1
  else
    (IP6_HLEN + (schc_decompression s.rules (fun i => s.frame.getD i 0) s.frame.length
      s.ipv6_header s.udp_header (s.frame.getD 0 0)).1.paylength.toNat) % 65536

/-- The length of the buffer that `schc_output` asks for in place of the packet `p`. -/
def outputLength (s : Net) (p : Nat) : Nat :=
  if ruleMatches s.rules (s.heap.pbufs p).payload then
    (sub16 (s.heap.pbufs p).tot_len (IP6_HLEN + UDP_HLEN) +
      (1 + (s.rules 0).residue.length) % 256) % 65536
  else 1

/-- What is read from the received buffer is the frame, and 0 behind it. -/
theorem pbuf_get_at_receive (s : Net) :
    pbuf_get_at s.receive.heap (some s.heap.handles) = fun i => s.frame.getD i 0 := by
  funext i
  have hself : s.receive.heap.pbufs s.heap.handles = ⟨none,
      (s.heap.fresh s.heap.handles).write 0 s.frame, s.AppDataSize.toNat, s.AppDataSize.toNat,
      .PBUF_POOL, 1⟩ := filledBuffer_pbufs_self ..
  rw [pbuf_get_at_contiguous s.contiguous_receive, hself]
  by_cases hi : i < s.AppDataSize.toNat
  · have hread := Mem.getD_read ((s.heap.fresh s.heap.handles).write 0 s.frame) 0 s.frame.length i
      (by rwa [s.length_frame])
    rw [Mem.read_write_self, Nat.zero_add] at hread
    rw [if_pos hi, hread]
  · rw [if_neg hi, List.getD_eq_default]
    rw [s.length_frame]
    omega

/-- The packet is one request to the pool. -/
theorem inputPacket_receive_fst (s : Net) :
    (inputPacket s.receive s.heap.handles).1 =
      (pbuf_alloc s.receive.heap .PBUF_IP (inputLength s) .PBUF_POOL).1 := by
  have htot : (s.receive.heap.pbufs s.heap.handles).tot_len = s.frame.length := by
    rw [s.length_frame, Net.receive, filledBuffer_pbufs_self]
  unfold inputPacket inputLength
  simp only [pbuf_get_at_receive]
  split
  · simp only [inputUncompressed, htot]
  · simp only [inputCompressed, htot, pbuf_get_at_receive]
    rfl

/-- With a free pool element that is long enough, the packet is one more buffer. -/
theorem inputPacket_of_le {s : Net} (hpool : 2 ≤ s.heap.pool) (hlen : inputLength s ≤ 536) :
    ∃ m, (inputPacket s.receive s.heap.handles).2.heap =
      s.receive.heap.filledBuffer (inputLength s) .PBUF_POOL m := by
  have halloc := pbuf_alloc_pool_of_le .PBUF_IP (inputLength s) (s.pool_receive hpool) hlen
  have htot : (s.receive.heap.pbufs s.heap.handles).tot_len = s.frame.length := by
    rw [s.length_frame, Net.receive, filledBuffer_pbufs_self]
  by_cases hid : s.frame.getD 0 0 = 0
  · have hlength : inputLength s = sub16 s.frame.length 1 := if_pos hid
    rw [hlength] at halloc ⊢
    obtain ⟨m, htake⟩ := pbuf_take_freshBuffer_exists s.receive.heap (sub16 s.frame.length 1)
      .PBUF_POOL ((s.receive.heap.pbufs s.heap.handles).payload.read 1 (sub16 s.frame.length 1))
    refine ⟨m, ?_⟩
    simp only [inputPacket, pbuf_get_at_receive, hid, if_true, inputUncompressed, htot, halloc,
      htake]
  · have hlength : inputLength s = _ := if_neg hid
    obtain ⟨header, hheader⟩ : ∃ header, schc_decompression s.rules (fun i => s.frame.getD i 0)
        s.frame.length s.ipv6_header s.udp_header (s.frame.getD 0 0) = header := ⟨_, rfl⟩
    rw [hheader] at hlength
    have hrestored : schc_decompression s.receive.rules (fun i => s.frame.getD i 0)
        s.frame.length s.receive.ipv6_header s.receive.udp_header (s.frame.getD 0 0) = header :=
      hheader
    obtain ⟨m, htake⟩ := pbuf_take_freshBuffer_exists s.receive.heap (inputLength s)
      .PBUF_POOL (header.1.toBytes ++ header.2.1.toBytes)
    obtain ⟨m', htake_at⟩ := pbuf_take_at_filledBuffer_exists s.receive.heap (inputLength s)
      .PBUF_POOL m ((s.receive.heap.pbufs s.heap.handles).payload.read header.2.2
        (sub16 s.frame.length header.2.2)) (IP6_HLEN + UDP_HLEN)
    refine ⟨m', ?_⟩
    simp only [inputPacket, pbuf_get_at_receive, hid, if_false, inputCompressed, htot, hrestored]
    simp only [← hlength, halloc, htake, htake_at]

theorem ip6_result_inputPacket (s : Net) (p : Nat) :
    (inputPacket s p).2.ip6_result = s.ip6_result := by
  unfold inputPacket
  split <;> rfl

/-- Which allocations the reception needs: after the frame, one element of the pool. -/
theorem inputPacket_ne_null_iff {s : Net} (hpool : 0 < s.heap.pool) (hsmall : s.heap.pool ≤ 2) :
    (inputPacket s.receive s.heap.handles).1 ≠ none ↔ s.heap.pool = 2 ∧ inputLength s ≤ 536 := by
  have hleft : s.receive.heap.pool = s.heap.pool - 1 := rfl
  rw [inputPacket_receive_fst]
  by_cases htwo : s.heap.pool = 2
  · by_cases hlen : inputLength s ≤ 536
    · rw [pbuf_alloc_pool_of_le .PBUF_IP _ (by omega) hlen]
      simp [htwo, hlen]
    · rw [pbuf_alloc_pool_last .PBUF_IP (by omega) (show 536 < inputLength s by omega)]
      simp [hlen]
  · rw [pbuf_alloc_pool_empty .PBUF_IP _ (by omega)]
    simp [htwo]

/-- When `ip6_input` reports an error, `schc_input` has freed the frame, and
`virtualloraif_input` frees it again. -/
theorem not_releasedOnce_virtualloraif_input {s : Net} (hpool : s.heap.pool = 2)
    (hlen : inputLength s ≤ 536) (herr : s.ip6_result ≠ .ERR_OK) :
    ¬ ReleasedOnce s.heap (virtualloraif_input s).heap s.heap.handles := by
  obtain ⟨m, hheap⟩ := inputPacket_of_le (by omega) hlen
  have hq : (inputPacket s.receive s.heap.handles).1 = some s.receive.heap.handles := by
    rw [inputPacket_receive_fst,
      pbuf_alloc_pool_of_le .PBUF_IP _ (s.pool_receive (by omega)) hlen]
  have hne : s.heap.handles ≠ s.receive.heap.handles :=
    Nat.ne_of_lt s.contiguous_receive.lt
  let h₁ := s.receive.heap.filledBuffer (inputLength s) .PBUF_POOL m
  have hp : h₁.Contiguous s.heap.handles :=
    (s.contiguous_receive.freshBuffer (inputLength s) .PBUF_POOL).setPayload m
  have href : (h₁.pbufs s.heap.handles).ref = 1 := by
    rw [filledBuffer_pbufs_of_ne _ _ _ hne, Net.receive, filledBuffer_pbufs_self]
  obtain ⟨hmisuse, hpbufs⟩ := pbuf_free_contiguous hp href
  have hsame := sameBuffers_pbuf_free h₁ (some s.heap.handles)
  have hreleased : Released s.heap (schc_input s.receive s.heap.handles).2.heap s.heap.handles := by
    rw [schc_input_eq, hq, hheap]
    refine released_pbuf_free_other ?_ ?_ hne ?_ ?_
    · rw [hmisuse]
      exact List.prefix_rfl
    · rw [hsame.chain]
      exact (contiguous_filledBuffer ..).chain
    · rw [hsame.handles]
      exact Nat.zero_lt_of_lt hp.lt
    · rw [hpbufs, Function.update_self]
  have herr' : (schc_input s.receive s.heap.handles).1 ≠ .ERR_OK := by
    rw [schc_input_eq]
    exact (ip6_result_inputPacket ..).trans_ne herr
  rintro ⟨hclean, -⟩
  apply hreleased.misuse_pbuf_free_ne
  simp only [virtualloraif_input, low_level_input_of_pool (show 0 < s.heap.pool by omega),
    if_neg herr'] at hclean
  exact hclean

theorem survivesInput_iff {s : Net} (hsmall : s.heap.pool ≤ 2) :
    SurvivesInput s ↔ s.heap.pool = 0 ∨
      s.heap.pool = 2 ∧ inputLength s ≤ 536 ∧ s.ip6_result = .ERR_OK := by
  unfold SurvivesInput
  by_cases hpool : s.heap.pool = 0
  · rw [low_level_input_of_empty hpool]
    simp [hpool]
  · have hpos := Nat.pos_of_ne_zero hpool
    have hnull := inputPacket_ne_null_iff hpos hsmall
    have hresult : (schc_input s.receive s.heap.handles).1 = s.ip6_result := by
      rw [schc_input_eq]
      exact ip6_result_inputPacket ..
    rw [low_level_input_of_pool hpos]
    simp only [hresult, hpool, false_or]
    constructor
    · intro hsurvives
      obtain ⟨htwo, hlen⟩ := hnull.mp (hsurvives.not_null (.pbuf_take, _) (by simp [schc_input_calls]))
      refine ⟨htwo, hlen, ?_⟩
      by_contra herr
      exact not_releasedOnce_virtualloraif_input htwo hlen herr (hsurvives.released herr)
    · intro ⟨htwo, hlen, hok⟩
      have hsome := hnull.mpr ⟨htwo, hlen⟩
      obtain ⟨k, hk⟩ := Option.ne_none_iff_exists'.mp hsome
      exact ⟨by simp [schc_input_calls, hk], fun _ => ⟨k, by simp [schc_input_calls, hk]⟩,
        fun herr => absurd hok herr⟩

theorem schc_output_packet_ne_null_iff (s : Net) (p : Nat) :
    (schc_output_packet s p).1 ≠ none ↔
      16 + outputLength s p ≤ MEM_SIZE ∧ s.heap.mem_malloc s.heap.requests = true := by
  have hlength : outputLength s p < 65536 := by
    unfold outputLength
    split <;> omega
  have hfst : (schc_output_packet s p).1 =
      (pbuf_alloc (s.heap.touch p) .PBUF_RAW (outputLength s p) .PBUF_RAM).1 := by
    simp only [schc_output_packet, compressedPacket_fst, Heap.touch_pbufs]
    by_cases hmatch : ruleMatches s.rules (s.heap.pbufs p).payload = true
    · rw [outputLength, if_pos hmatch, schc_compression_of_accepts _ hmatch]
      rfl
    · rw [outputLength, if_neg hmatch,
        schc_compression_of_not_accepts _ (Bool.not_eq_true _ ▸ hmatch)]
      rfl
  have htouch : (s.heap.touch p).mem_malloc = s.heap.mem_malloc ∧
      (s.heap.touch p).requests = s.heap.requests := by
    unfold Heap.touch
    split <;> exact ⟨rfl, rfl⟩
  rw [hfst, pbuf_alloc_ram_ne_null_iff _ _ hlength, htouch.1, htouch.2]
  rfl

theorem survivesOutput_iff (s : Net) (p : Nat) :
    SurvivesOutput s p ↔
      16 + outputLength s p ≤ MEM_SIZE ∧ s.heap.mem_malloc s.heap.requests = true := by
  rw [← schc_output_packet_ne_null_iff]
  constructor
  · intro hsurvives
    exact hsurvives.not_null (.pbuf_take, _) (by simp [schc_output_calls])
  · intro hsome
    obtain ⟨k, hk⟩ := Option.ne_none_iff_exists'.mp hsome
    exact ⟨by simp [schc_output_calls, hk], fun _ => ⟨k, by simp [schc_output_calls, hk]⟩,
      fun herr => absurd (schc_output_fst s p) herr⟩

/-- The buffer in place of a message with its headers always fits the heap. -/
theorem outputLength_pbuf_header_le (s : Net) (msg_send : coap_pdu) (m : Mem)
    {header : List UInt8} (hlength : header.length = IP6_HLEN + UDP_HLEN) :
    16 + outputLength { s with
      heap := pbuf_header (s.heap.filledBuffer msg_send.bytes.length .PBUF_RAM m) s.heap.handles
        header } s.heap.handles ≤ MEM_SIZE := by
  have hfits := msg_send.length_le
  have hself := filledBuffer_pbufs_self s.heap msg_send.bytes.length .PBUF_RAM m
  simp only [MSG_BUF_LEN, IP6_HLEN, UDP_HLEN] at hfits hlength
  simp only [outputLength, pbuf_header, Heap.set_pbufs_self, hself, MEM_SIZE, IP6_HLEN, UDP_HLEN]
  rw [sub16_of_le (by omega)]
  split <;> omega

theorem survivesCoap_iff (s : Net) (msg_send : coap_pdu) (route : Route) :
    SurvivesCoap s msg_send route ↔ s.heap.mem_malloc s.heap.requests = true ∧
      ((∃ header hlength, route = .routed header hlength) →
        s.heap.mem_malloc (s.heap.requests + 1) = true) := by
  by_cases hmem : s.heap.mem_malloc s.heap.requests = true
  · have halloc := pbuf_alloc_msg_send msg_send hmem
    obtain ⟨m, htake⟩ := pbuf_take_freshBuffer_exists s.heap msg_send.bytes.length .PBUF_RAM
      msg_send.bytes
    simp only [hmem, true_and]
    cases route with
    | refused err herr =>
      have hcalls : coap_output_calls s msg_send (.refused err herr) =
          [(.pbuf_take, some s.heap.handles), (.udp_send, some s.heap.handles)] := by
        simp only [coap_output_calls, halloc, List.append_nil]
      have hresult : (coap_output s msg_send (.refused err herr)).1 ≠ 0 := by
        simp [coap_output, udp_send, herr]
      simp only [reduceCtorEq, exists_false, false_implies, iff_true]
      exact ⟨by simp [hcalls], fun h => absurd h hresult, fun _ => trivial⟩
    | routed header hlength =>
      let s₁ : Net := { s with
        heap := pbuf_header (s.heap.filledBuffer msg_send.bytes.length .PBUF_RAM m) s.heap.handles
          header }
      have hcalls : coap_output_calls s msg_send (.routed header hlength) =
          [(.pbuf_take, some s.heap.handles), (.udp_send, some s.heap.handles)] ++
            schc_output_calls s₁ s.heap.handles := by
        simp only [coap_output_calls, halloc, htake]
        rfl
      have hnull := schc_output_packet_ne_null_iff s₁ s.heap.handles
      have hfits := outputLength_pbuf_header_le s msg_send m hlength
      constructor
      · intro hsurvives _
        have hsome := hsurvives.not_null (.pbuf_take, (schc_output_packet s₁ s.heap.handles).1)
          (by simp [hcalls, schc_output_calls])
        exact (hnull.mp hsome).2
      · intro hserved
        have hsome := hnull.mpr ⟨hfits, hserved ⟨header, hlength, rfl⟩⟩
        obtain ⟨k, hk⟩ := Option.ne_none_iff_exists'.mp hsome
        exact ⟨by simp [hcalls, schc_output_calls, hk],
          fun _ => ⟨k, by simp [hcalls, schc_output_calls, hk]⟩, fun _ => trivial⟩
  · have hnull : (pbuf_alloc s.heap .PBUF_TRANSPORT msg_send.bytes.length .PBUF_RAM).1 = none :=
      pbuf_alloc_ram_null _ _ (.inr (.inr (Bool.not_eq_true _ ▸ hmem)))
    simp only [hmem, Bool.false_eq_true, false_and, iff_false]
    intro hsurvives
    refine hsurvives.not_null (.pbuf_take, _) ?_ hnull
    simp [coap_output_calls]

/-- Exhaustion is survived exactly when nothing is exhausted: the pool still holds both
of its elements and the packet fits one of them, or there is no element for the frame
at all, and the heap serves each of the requests that are made of it. -/
theorem survives_iff (s : Net) (hsmall : s.heap.pool ≤ 2) :
    (SurvivesInput s ↔ s.heap.pool = 0 ∨
      s.heap.pool = 2 ∧ inputLength s ≤ 536 ∧ s.ip6_result = .ERR_OK) ∧
    (∀ p, SurvivesOutput s p ↔
      16 + outputLength s p ≤ MEM_SIZE ∧ s.heap.mem_malloc s.heap.requests = true) ∧
    ∀ msg_send route, SurvivesCoap s msg_send route ↔
      s.heap.mem_malloc s.heap.requests = true ∧
        ((∃ header hlength, route = .routed header hlength) →
          s.heap.mem_malloc (s.heap.requests + 1) = true) :=
  ⟨survivesInput_iff hsmall, survivesOutput_iff s, survivesCoap_iff s⟩

theorem survives_iff_boot :
    SurvivesInput { Net.boot with AppDataSize := 20 } ∧ SurvivesCoap Net.boot putTemp toServer := by
  constructor
  · apply (survives_iff { Net.boot with AppDataSize := 20 } (by decide)).1.mpr
    exact .inr ⟨rfl, by decide, rfl⟩
  · apply ((survives_iff Net.boot (by decide)).2.2 putTemp toServer).mpr
    exact ⟨rfl, fun _ => rfl⟩

/-- A node whose heap is used up. -/
def exhausted : Net :=
  { Net.boot with
    heap := { Net.boot.heap with mem_malloc := fun _ => false } }

/-- With the heap used up, `coap_output` passes `NULL` to `udp_send` and reports
success. With the pool untouched, an empty downlink makes `schc_input` ask for 65535
bytes, and `ip6_input` gets `NULL`. -/
theorem not_survives_exhausted :
    (coap_output exhausted putTemp toServer).1 = 0 ∧
      (.udp_send, none) ∈ coap_output_calls exhausted putTemp toServer ∧
      ¬ SurvivesCoap exhausted putTemp toServer ∧
      ¬ SurvivesInput { Net.boot with AppDataSize := 0 } := by
  refine ⟨by decide, by decide, ?_, ?_⟩
  · intro hsurvives
    exact hsurvives.not_null (.udp_send, none) (by decide) rfl
  · intro hsurvives
    exact hsurvives.not_null (.ip6_input, none) (by decide) rfl

end loranode.coap
