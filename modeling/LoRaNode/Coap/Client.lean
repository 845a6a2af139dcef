import LoRaNode.Netif.Interface

open loranode.lwip loranode.schc loranode.netif

namespace loranode.coap

def MSG_BUF_LEN : Nat := 64

/-- A message as the functions of `coap.c` leave it in `msg_send`, whose buffer has
`MSG_BUF_LEN` bytes. -/
structure coap_pdu where
  bytes : List UInt8
  length_le : bytes.length ≤ MSG_BUF_LEN

/-- What lwIP's UDP and IPv6 layers decide about a datagram: they refuse it, before
they touch it, or they find the 48 bytes of headers that go in front of it. -/
inductive Route where
  | refused (err : err_t) (herr : err ≠ .ERR_OK)
  | routed (header : List UInt8) (hlength : header.length = IP6_HLEN + UDP_HLEN)

/-- The two calls of `pbuf_header`, for UDP and for IPv6, and what is written to the
room they make. `PBUF_TRANSPORT` leaves enough of it. -/
def pbuf_header (h : Heap) (p : Nat) (header : List UInt8) : Heap :=
  let b := h.pbufs p
  h.set p { b with
    payload := b.payload.prepend header
    len := b.len + header.length
    tot_len := b.tot_len + header.length }

/-- `udp_send`, down to `netif->output_ip6`, which is `schc_output`. With a `NULL`
packet the headers are written through the pointer that `NULL` is read for. -/
def udp_send (s : Net) (p : pbuf_ptr) : Route → err_t × Net
  | .refused err _ => (err, s)
  | .routed header _ =>
    match p with
    | none => (.ERR_OK, { s with trace := { s.trace with null_reads := s.trace.null_reads + 1 } })
    | some p => schc_output { s with heap := pbuf_header s.heap p header } p

/-- `coap_output`, from where the message is built on. -/
def coap_output (s : Net) (msg_send : coap_pdu) (route : Route) : Nat × Net :=
  let (p, heap) := pbuf_alloc s.heap .PBUF_TRANSPORT msg_send.bytes.length .PBUF_RAM
  let heap := (pbuf_take heap p msg_send.bytes).2
  let (err, s) := udp_send { s with heap := heap } p route
  if err ≠ .ERR_OK then (1, s)
  else (0, { s with heap := pbuf_free s.heap p })

end loranode.coap
