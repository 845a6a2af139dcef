import LoRaNode.Lib.Memory
import Mathlib.Logic.Function.Basic

namespace loranode.lwip

inductive err_t where
  | ERR_OK
  | ERR_MEM
  | ERR_BUF
  | ERR_RTE
  | ERR_VAL
  | ERR_USE
  | ERR_ARG
  deriving DecidableEq, Repr

inductive pbuf_layer where
  | PBUF_TRANSPORT
  | PBUF_IP
  | PBUF_LINK
  | PBUF_RAW_TX
  | PBUF_RAW
  deriving DecidableEq, Repr

/-- The two kinds of buffer this firmware asks for: a block of the lwIP heap, or
elements of `MEMP_PBUF_POOL`. -/
inductive pbuf_type where
  | PBUF_RAM
  | PBUF_POOL
  deriving DecidableEq, Repr

def PBUF_LINK_ENCAPSULATION_HLEN : Nat := 0
def PBUF_LINK_HLEN : Nat := 14
def PBUF_IP_HLEN : Nat := 40
def PBUF_TRANSPORT_HLEN : Nat := 20
def PBUF_POOL_BUFSIZE : Nat := 590
def SIZEOF_STRUCT_PBUF : Nat := 16
def MEM_SIZE : Nat := 3000

/-- The header room `pbuf_alloc` leaves in front of the payload. -/
def pbuf_layer.offset : pbuf_layer → Nat
  | .PBUF_TRANSPORT =>
    PBUF_LINK_ENCAPSULATION_HLEN + PBUF_LINK_HLEN + PBUF_IP_HLEN + PBUF_TRANSPORT_HLEN
  | .PBUF_IP => PBUF_LINK_ENCAPSULATION_HLEN + PBUF_LINK_HLEN + PBUF_IP_HLEN
  | .PBUF_LINK => PBUF_LINK_ENCAPSULATION_HLEN + PBUF_LINK_HLEN
  | .PBUF_RAW_TX => PBUF_LINK_ENCAPSULATION_HLEN
  | .PBUF_RAW => 0

/-- A pointer to a `struct pbuf`: `none` is `NULL`, and `some k` is the buffer
which the `k`th allocation handed out. -/
abbrev pbuf_ptr := Option Nat

/-- `struct pbuf`. The memory `payload` starts at the payload pointer; `len`,
`tot_len` and `ref` are 16-bit. -/
structure pbuf where
  next : pbuf_ptr
  payload : Mem
  tot_len : Nat
  len : Nat
  type : pbuf_type
  ref : Nat

/-- What goes wrong with a buffer without any effect the C code would notice:
`pbuf_free` finds a count of 0, or a buffer is read after its count reached 0. -/
inductive Misuse where
  | free_unreferenced (p : Nat)
  | read_freed (p : Nat)
  deriving DecidableEq, Repr

/-- The memory of lwIP. `handles` buffers have been allocated so far, `pool`
elements of `MEMP_PBUF_POOL` are free, and `mem_malloc k` says whether the heap
can serve its `k`th request. `fresh k` is what the memory of buffer `k` holds
when it is handed out: `pbuf_alloc` does not clear it. -/
structure Heap where
  pbufs : Nat → pbuf
  handles : Nat
  pool : Nat
  requests : Nat
  mem_malloc : Nat → Bool
  fresh : Nat → Mem
  misuse : List Misuse

/-- Subtraction of 16-bit values, which wraps below 0. -/
def sub16 (a b : Nat) : Nat :=
  if a < b then a + 65536 - b else a - b

theorem sub16_of_le {a b : Nat} (h : b ≤ a) : sub16 a b = a - b :=
  if_neg (Nat.not_lt.2 h)

theorem sub16_of_lt {a b : Nat} (h : a < b) : sub16 a b = a + 65536 - b :=
  if_pos h

namespace Heap

def set (h : Heap) (p : Nat) (b : pbuf) : Heap :=
  { h with pbufs := Function.update h.pbufs p b }

/-- Reading a buffer whose count is 0 is recorded; nothing else happens. -/
def touch (h : Heap) (p : Nat) : Heap :=
  if (h.pbufs p).ref = 0 then { h with misuse := h.misuse ++ [.read_freed p] } else h

/-- Hands out the next buffer. -/
def push (h : Heap) (b : pbuf) : Heap :=
  { h with pbufs := Function.update h.pbufs h.handles b, handles := h.handles + 1 }

/-- The buffers met when following `next` from `p`. A chain of distinct buffers
is no longer than the number of buffers allocated. -/
def walk (h : Heap) : Nat → pbuf_ptr → List Nat
  | 0, _ => []
  | _ + 1, none => []
  | n + 1, some p => p :: h.walk n (h.pbufs p).next

def chain (h : Heap) (p : pbuf_ptr) : List Nat :=
  h.walk h.handles p

end Heap

/-- `memp_malloc(MEMP_PBUF_POOL)`, with the fields `pbuf_alloc` then sets. -/
def memp_malloc (h : Heap) (len tot_len : Nat) : Option Heap :=
  if h.pool = 0 then none
  else some { h.push ⟨none, h.fresh h.handles, tot_len, len, .PBUF_POOL, 1⟩ with pool := h.pool - 1 }

/-- The loop that allocates the tail of a pool chain behind `r`; `fuel` bounds
it by the number of free pool elements. -/
def pbuf_alloc_tail : Nat → Heap → Nat → Nat → Option Heap
  | fuel, h, r, rem_len =>
    if rem_len = 0 then some h
    else match fuel with
      | 0 => none
      | fuel + 1 =>
        let q := h.handles
        match memp_malloc h (min rem_len PBUF_POOL_BUFSIZE) rem_len with
        | none => none
        | some h =>
          let h := h.set r { h.pbufs r with next := some q }
          pbuf_alloc_tail fuel h q (rem_len - min rem_len PBUF_POOL_BUFSIZE)

def pbuf_alloc (h : Heap) (layer : pbuf_layer) (length : Nat) (type : pbuf_type) :
    pbuf_ptr × Heap :=
  let offset := layer.offset
  match type with
  | .PBUF_POOL =>
    let len := min length (PBUF_POOL_BUFSIZE - offset)
    match memp_malloc h len length with
    | none => (none, h)
    | some h' =>
      match pbuf_alloc_tail h'.pool h' h.handles (length - len) with
      -- the pool ran empty: the chain allocated so far is freed again
      | none => (none, h)
      | some h' => (some h.handles, h')
  | .PBUF_RAM =>
    let alloc_len := (SIZEOF_STRUCT_PBUF + offset + length) % 65536
    if alloc_len < length then (none, h)
    else
      let h' := { h with requests := h.requests + 1 }
      if alloc_len > MEM_SIZE ∨ h.mem_malloc h.requests = false then (none, h')
      else (some h.handles, h'.push ⟨none, h.fresh h.handles, length, length, .PBUF_RAM, 1⟩)

/-- The loop of `pbuf_free` over the chain `ps`: it stops at the first buffer
that is still referenced after the decrement of its 16-bit count. -/
def pbuf_free_loop : List Nat → Heap → Heap
  | [], h => h
  | p :: ps, h =>
    let b := h.pbufs p
    let h := if b.ref = 0 then { h with misuse := h.misuse ++ [.free_unreferenced p] } else h
    let ref := sub16 b.ref 1
    let h := h.set p { b with ref := ref }
    if ref = 0 then
      pbuf_free_loop ps (if b.type = .PBUF_POOL then { h with pool := h.pool + 1 } else h)
    else h

def pbuf_free (h : Heap) (p : pbuf_ptr) : Heap :=
  pbuf_free_loop (h.chain p) h

/-- The loop of `pbuf_cat` over the chain of the head: every total grows by
`t->tot_len`, and the last buffer is linked to the tail. -/
def pbuf_cat_loop (t : Nat) : List Nat → Heap → Heap
  | [], h => h
  | [p], h =>
    let b := h.pbufs p
    h.set p { b with tot_len := (b.tot_len + (h.pbufs t).tot_len) % 65536, next := some t }
  | p :: ps, h =>
    let b := h.pbufs p
    pbuf_cat_loop t ps (h.set p { b with tot_len := (b.tot_len + (h.pbufs t).tot_len) % 65536 })

def pbuf_cat (h : Heap) (head tail : pbuf_ptr) : Heap :=
  match head, tail with
  | some _, some t => pbuf_cat_loop t (h.chain head) (h.touch t)
  | _, _ => h

/-- The loop of `pbuf_copy_partial`: the destination, the number of bytes
already copied, the bytes still wanted and the offset into the next buffer. -/
def pbuf_copy_partial_loop : List Nat → Heap → Mem → Nat → Nat → Nat → Mem × Nat × Heap
  | [], h, dst, left, _, _ => (dst, left, h)
  | p :: ps, h, dst, left, len, offset =>
    if len = 0 then (dst, left, h)
    else
      let b := h.pbufs p
      let h := h.touch p
      if offset ≠ 0 ∧ b.len ≤ offset then
        pbuf_copy_partial_loop ps h dst left len (offset - b.len)
      else
        let n := min (b.len - offset) len
        pbuf_copy_partial_loop ps h (dst.write left (b.payload.read offset n)) (left + n) (len - n) 0

/-- The destination memory after the copy, the number of bytes copied, and lwIP's
memory, where only reads of freed buffers are recorded. -/
def pbuf_copy_partial (h : Heap) (buf : pbuf_ptr) (dataptr : Mem) (len offset : Nat) :
    Mem × Nat × Heap :=
  pbuf_copy_partial_loop (h.chain buf) h dataptr 0 len offset

def pbuf_take_loop : List Nat → Heap → List UInt8 → Heap
  | [], h, _ => h
  | p :: ps, h, data =>
    if data = [] then h
    else
      let b := h.pbufs p
      let h := h.touch p
      pbuf_take_loop ps (h.set p { b with payload := b.payload.write 0 (data.take b.len) })
        (data.drop b.len)

/-- `pbuf_take` of the bytes `data`; `NULL`, and a buffer that is too small, are refused. -/
def pbuf_take (h : Heap) (buf : pbuf_ptr) (data : List UInt8) : err_t × Heap :=
  match buf with
  | none => (.ERR_ARG, h)
  | some p =>
    if (h.pbufs p).tot_len < data.length then (.ERR_MEM, h)
    else (.ERR_OK, pbuf_take_loop (h.chain buf) h data)

/-- `pbuf_skip`: the buffer of the chain that holds byte `offset`, and the offset in it. -/
def pbuf_skip_loop (h : Heap) : List Nat → Nat → pbuf_ptr × Nat
  | [], offset => (none, offset)
  | q :: qs, offset =>
    if (h.pbufs q).len ≤ offset then pbuf_skip_loop h qs (offset - (h.pbufs q).len)
    else (some q, offset)

def pbuf_skip (h : Heap) (p : pbuf_ptr) (offset : Nat) : pbuf_ptr × Nat :=
  pbuf_skip_loop h (h.chain p) offset

def pbuf_take_at (h : Heap) (buf : pbuf_ptr) (data : List UInt8) (offset : Nat) : err_t × Heap :=
  match pbuf_skip h buf offset with
  | (none, _) => (.ERR_MEM, h)
  | (some q, target_offset) =>
    let b := h.pbufs q
    if b.tot_len < target_offset + data.length then (.ERR_MEM, h)
    else
      let first_copy_len := min (b.len - target_offset) data.length
      let h := h.touch q
      let h := h.set q { b with payload := b.payload.write target_offset (data.take first_copy_len) }
      if data.length - first_copy_len = 0 then (.ERR_OK, h)
      else pbuf_take h b.next (data.drop first_copy_len)

/-- `pbuf_get_at` gives 0 outside the packet. -/
def pbuf_get_at (h : Heap) (p : pbuf_ptr) (offset : Nat) : UInt8 :=
  match pbuf_skip h p offset with
  | (none, _) => 0
  | (some q, q_idx) => if q_idx < (h.pbufs q).len then (h.pbufs q).payload q_idx else 0

end loranode.lwip
