import LoRaNode.Lwip.Packet
import LoRaNode.Schc.Compression
import LoRaNode.Schc.Decompression

open loranode.lwip loranode.schc

namespace loranode.netif

/-- What the code does that its state does not show. `delivered` lists the calls
of `ip6_input` with the bytes of the packet (`none` for a `NULL` packet), `indexed`
the slots of `rules[]` that reception reads, `underflows` the length subtractions
that go below 0, `extents` how many bytes each `low_level_output` writes from the
start of `AppData`, and `null_reads` the reads through a `NULL` packet. -/
structure Trace where
  delivered : List (Option (List UInt8))
  indexed : List Nat
  underflows : Nat
  extents : List Nat
  null_reads : Nat
  deriving DecidableEq, Repr

/-- The globals of `schcCompressor.c`, `virtualloraif.c` and the application's
mailbox `AppData`/`AppDataSize`, with lwIP's memory. `schc_header` is what the
stack holds where `schc_output` puts its array, `null_tot_len` what a read of
`tot_len` through `NULL` gives, and `ip6_result` what `ip6_input` returns. -/
structure Net where
  heap : Heap
  rules : RuleTable
  ipv6_header : ipv6_hdr
  udp_header : udp_schc_hdr
  AppData : Mem
  AppDataSize : UInt8
  schc_header : Mem
  null_tot_len : Nat
  ip6_result : err_t
  trace : Trace

/-- The size of the array `AppData` in the application. -/
def sizeofAppData : Nat := 240

/-- The largest packet the interface advertises to lwIP. -/
def mtu : Nat := 255

/-- A node that has just run `initializeRules`: no buffer is in use, and the heap
serves every request. -/
def Net.boot : Net where
  heap := ⟨fun _ => ⟨none, fun _ => 0, 0, 0, .PBUF_RAM, 0⟩, 0, 2, 0, fun _ => true, fun _ _ => 0, []⟩
  rules := initializeRules (fun _ => emptyRule) (fun _ => 0) (fun _ => 0)
  ipv6_header := ⟨0, 0, 0, 0, 0, 0, ⟨0, 0, 0, 0⟩, ⟨0, 0, 0, 0⟩⟩
  udp_header := ⟨0, 0, 0, 0⟩
  AppData := fun _ => 0
  AppDataSize := 240
  schc_header := fun _ => 0
  null_tot_len := 0
  ip6_result := .ERR_OK
  trace := ⟨[], [], 0, [], 0⟩

/-- The first statement of `low_level_output`: `pbuf_copy_partial` of the whole packet
to `AppData`. It refuses `NULL`, but `p->tot_len` has been read by then. -/
def copyToAppData (s : Net) : pbuf_ptr → Net
  | none => { s with
      trace := { s.trace with
        extents := s.trace.extents ++ [0], null_reads := s.trace.null_reads + 1 } }
  | some k =>
    let (AppData, copied, heap) :=
      pbuf_copy_partial s.heap (some k) s.AppData (s.heap.pbufs k).tot_len 0
    { s with
      AppData := AppData
      heap := heap
      trace := { s.trace with extents := s.trace.extents ++ [copied] } }

/-- The second statement of `low_level_output`: `AppDataSize` gets the total length,
cut to 8 bits. -/
def setAppDataSize (s : Net) : pbuf_ptr → Net
  | none => { s with
      AppDataSize := UInt8.ofNat s.null_tot_len
      trace := { s.trace with null_reads := s.trace.null_reads + 1 } }
  | some k => { s with AppDataSize := UInt8.ofNat (s.heap.pbufs k).tot_len }

def low_level_output (s : Net) (p : pbuf_ptr) : err_t × Net :=
  let s := setAppDataSize (copyToAppData s p) p
  (.ERR_OK, { s with heap := pbuf_free s.heap p })

/-- `schc_frag` does not fragment: `netif->linkoutput` is `low_level_output`. -/
def schc_frag (s : Net) (p : pbuf_ptr) : err_t × Net :=
  low_level_output s p

/-- The packet that replaces `p`, given the compressed header and its length:
the rule id in front of the whole packet, or in front of what follows the headers. -/
def compressedPacket (h : Heap) (p : Nat) (schc_header : Mem) (schc_offset : Nat) :
    pbuf_ptr × Heap :=
  let b := h.pbufs p
  if schc_header 0 = 0 then
    let (p_compressed, h) := pbuf_alloc h .PBUF_RAW schc_offset .PBUF_RAM
    let h := (pbuf_take h p_compressed (schc_header.read 0 schc_offset)).2
    (p_compressed, pbuf_cat h p_compressed (some p))
  else
    let data_length := sub16 b.tot_len (IP6_HLEN + UDP_HLEN)
    let compressed_packet_length := (data_length + schc_offset) % 65536
    let (p_compressed, h) := pbuf_alloc h .PBUF_RAW compressed_packet_length .PBUF_RAM
    let h := (pbuf_take h p_compressed (schc_header.read 0 schc_offset)).2
    let h := (pbuf_take_at h p_compressed (b.payload.read (IP6_HLEN + UDP_HLEN) data_length)
      schc_offset).2
    (p_compressed, h)

/-- `schc_output` up to the call of `schc_frag`: the packet to send, once `p` is freed.
The call `mem_free(schc_header)` is given a pointer outside the heap, which `mem_free`
ignores. -/
def schc_output_packet (s : Net) (p : Nat) : pbuf_ptr × Net :=
  let heap := s.heap.touch p
  let buffer := (heap.pbufs p).payload
  let ipv6_header := ipv6_hdr.ofBuffer buffer
  let udp_header := udp_schc_hdr.ofBuffer buffer
  let (schc_header, schc_offset) :=
    schc_compression s.rules ipv6_header udp_header s.schc_header
  let (p_compressed, heap) := compressedPacket heap p schc_header schc_offset
  (p_compressed, { s with
    heap := pbuf_free heap (some p)
    ipv6_header := ipv6_header
    udp_header := udp_header })

def schc_output (s : Net) (p : Nat) : err_t × Net :=
  let (p_compressed, s) := schc_output_packet s p
  schc_frag s p_compressed

/-- `ip6_input` takes the packet over and frees it. What lwIP may answer by itself, an echo reply or
an unreachable message, is left out; it would go through `schc_output` and write the mailbox. -/
def ip6_input (s : Net) (q : pbuf_ptr) : err_t × Net :=
  (s.ip6_result, { s with
    heap := pbuf_free s.heap q
    trace := { s.trace with
      delivered := s.trace.delivered ++ [q.map fun k => s.heap.packet (some k)] } })

/-- The packet `schc_input` builds when the frame `p` is not compressed. -/
def inputUncompressed (s : Net) (p : Nat) : pbuf_ptr × Net :=
  let b := s.heap.pbufs p
  let length := sub16 b.tot_len 1
  let (q, heap) := pbuf_alloc s.heap .PBUF_IP length .PBUF_POOL
  let heap := (pbuf_take heap q (b.payload.read 1 length)).2
  (q, { s with
    heap := heap
    trace := { s.trace with
      underflows := s.trace.underflows + if b.tot_len < 1 then 1 else 0 } })

/-- The packet `schc_input` builds when the frame `p` is compressed. -/
def inputCompressed (s : Net) (p : Nat) (ruleId : UInt8) : pbuf_ptr × Net :=
  let b := s.heap.pbufs p
  let (ipv6_header, udp_header, schc_offset) :=
    schc_decompression s.rules (pbuf_get_at s.heap (some p)) b.tot_len s.ipv6_header s.udp_header
      ruleId
  let (q, heap) :=
    pbuf_alloc s.heap .PBUF_IP ((IP6_HLEN + ipv6_header.paylength.toNat) % 65536) .PBUF_POOL
  let heap := (pbuf_take heap q (ipv6_header.toBytes ++ udp_header.toBytes)).2
  let length := sub16 b.tot_len schc_offset
  let heap := (pbuf_take_at heap q (b.payload.read schc_offset length) (IP6_HLEN + UDP_HLEN)).2
  (q, { s with
    heap := heap
    ipv6_header := ipv6_header
    udp_header := udp_header
    trace := { s.trace with
      indexed := s.trace.indexed ++ [(ruleId - 1).toNat]
      underflows := s.trace.underflows + (if b.tot_len < schc_offset then 1 else 0) +
        if b.tot_len % 256 + UDP_HLEN < schc_offset then 1 else 0 } })

/-- `schc_input`. The payload pointer of an allocated buffer is not `NULL`, so the
`ERR_BUF` of the source is not reached. -/
def schc_input (s : Net) (p : Nat) : err_t × Net :=
  let ruleId := pbuf_get_at s.heap (some p) 0
  let (q, s) := if ruleId = 0 then inputUncompressed s p else inputCompressed s p ruleId
  ip6_input { s with heap := pbuf_free s.heap (some p) } q

def low_level_input (s : Net) : pbuf_ptr × Net :=
  let len := s.AppDataSize.toNat
  let (p, heap) := pbuf_alloc s.heap .PBUF_RAW len .PBUF_POOL
  match p with
  | none => (none, { s with heap := heap })
  | some k =>
    let heap := heap.set k { heap.pbufs k with len := len }
    (some k, { s with heap := (pbuf_take heap (some k) (s.AppData.read 0 len)).2 })

/-- `virtualloraif_input`: `netif->input` is `schc_input`. -/
def virtualloraif_input (s : Net) : Net :=
  match low_level_input s with
  | (none, s) => s
  | (some p, s) =>
    let (err, s) := schc_input s p
    if err = .ERR_OK then s else { s with heap := pbuf_free s.heap (some p) }

end loranode.netif
