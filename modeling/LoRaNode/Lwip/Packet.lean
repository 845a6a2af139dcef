import LoRaNode.Lwip.Pbuf

namespace loranode.lwip

namespace Heap

/-- The bytes of the packet that starts at `p`, over its whole chain. -/
def packet (h : Heap) (p : pbuf_ptr) : List UInt8 :=
  (h.chain p).flatMap fun k => (h.pbufs k).payload.read 0 (h.pbufs k).len

/-- `p` is a referenced packet in one contiguous buffer. -/
structure Contiguous (h : Heap) (p : Nat) : Prop where
  lt : p < h.handles
  next : (h.pbufs p).next = none
  tot_len : (h.pbufs p).tot_len = (h.pbufs p).len
  ref : 0 < (h.pbufs p).ref

/-- `p` starts a referenced packet, in one buffer or more, whose total length is right. -/
structure IsPacket (h : Heap) (p : Nat) : Prop where
  lt : p < h.handles
  allocated : ∀ k ∈ h.chain (some p), k < h.handles
  tot_len : (h.pbufs p).tot_len = (h.packet (some p)).length
  ref : 0 < (h.pbufs p).ref

/-- Replaces the bytes of a buffer. -/
def setPayload (h : Heap) (p : Nat) (m : Mem) : Heap :=
  h.set p { h.pbufs p with payload := m }

/-- The two memories hold the same buffers, up to reference counts; `h'` has no
fewer free pool elements. -/
structure SameBuffers (h h' : Heap) : Prop where
  handles : h'.handles = h.handles
  requests : h'.requests = h.requests
  mem_malloc : h'.mem_malloc = h.mem_malloc
  fresh : h'.fresh = h.fresh
  pool : h.pool ≤ h'.pool
  next : ∀ k, (h'.pbufs k).next = (h.pbufs k).next
  payload : ∀ k, (h'.pbufs k).payload = (h.pbufs k).payload
  tot_len : ∀ k, (h'.pbufs k).tot_len = (h.pbufs k).tot_len
  len : ∀ k, (h'.pbufs k).len = (h.pbufs k).len

theorem SameBuffers.refl (h : Heap) : h.SameBuffers h :=
  ⟨rfl, rfl, rfl, rfl, Nat.le_refl _, fun _ => rfl, fun _ => rfl, fun _ => rfl, fun _ => rfl⟩

theorem SameBuffers.trans {h₁ h₂ h₃ : Heap} (h : h₁.SameBuffers h₂) (h' : h₂.SameBuffers h₃) :
    h₁.SameBuffers h₃ where
  handles := h'.handles.trans h.handles
  requests := h'.requests.trans h.requests
  mem_malloc := h'.mem_malloc.trans h.mem_malloc
  fresh := h'.fresh.trans h.fresh
  pool := Nat.le_trans h.pool h'.pool
  next k := (h'.next k).trans (h.next k)
  payload k := (h'.payload k).trans (h.payload k)
  tot_len k := (h'.tot_len k).trans (h.tot_len k)
  len k := (h'.len k).trans (h.len k)

theorem SameBuffers.walk {h h' : Heap} (hs : h.SameBuffers h') (n : Nat) (p : pbuf_ptr) :
    h'.walk n p = h.walk n p := by
  induction n generalizing p with
  | zero => rfl
  | succ n ih =>
    cases p with
    | none => rfl
    | some p => simp only [Heap.walk, ih, hs.next]

theorem SameBuffers.chain {h h' : Heap} (hs : h.SameBuffers h') (p : pbuf_ptr) :
    h'.chain p = h.chain p := by
  rw [Heap.chain, hs.handles, hs.walk, Heap.chain]

theorem SameBuffers.packet {h h' : Heap} (hs : h.SameBuffers h') (p : pbuf_ptr) :
    h'.packet p = h.packet p := by
  simp only [Heap.packet, hs.chain, hs.payload, hs.len]

@[simp] theorem set_pbufs_self (h : Heap) (p : Nat) (b : pbuf) : (h.set p b).pbufs p = b := by
  simp [set]

theorem set_pbufs_of_ne {h : Heap} {p k : Nat} (b : pbuf) (hne : k ≠ p) :
    (h.set p b).pbufs k = h.pbufs k := by
  simp [set, hne]

theorem touch_of_ref {h : Heap} {p : Nat} (href : 0 < (h.pbufs p).ref) : h.touch p = h :=
  if_neg (by omega)

@[simp] theorem touch_pbufs (h : Heap) (p : Nat) : (h.touch p).pbufs = h.pbufs := by
  rw [touch]
  split <;> rfl

@[simp] theorem touch_handles (h : Heap) (p : Nat) : (h.touch p).handles = h.handles := by
  rw [touch]
  split <;> rfl

theorem sameBuffers_touch (h : Heap) (p : Nat) : h.SameBuffers (h.touch p) := by
  rw [touch]
  split
  · exact ⟨rfl, rfl, rfl, rfl, Nat.le_refl _, fun _ => rfl, fun _ => rfl, fun _ => rfl, fun _ => rfl⟩
  · exact .refl h

theorem setPayload_self (h : Heap) (p : Nat) : h.setPayload p (h.pbufs p).payload = h := by
  simp [setPayload, set]

theorem chain_of_next_none {h : Heap} {p : Nat} (hlt : p < h.handles)
    (hnext : (h.pbufs p).next = none) : h.chain (some p) = [p] := by
  obtain ⟨n, hn⟩ : ∃ n, h.handles = n + 1 := ⟨h.handles - 1, by omega⟩
  rw [chain, hn, walk, hnext]
  cases n <;> rfl

@[simp] theorem chain_none (h : Heap) : h.chain none = [] := by
  rw [chain]
  cases h.handles <;> rfl

theorem Contiguous.chain {h : Heap} {p : Nat} (hp : h.Contiguous p) : h.chain (some p) = [p] :=
  chain_of_next_none hp.lt hp.next

theorem Contiguous.packet {h : Heap} {p : Nat} (hp : h.Contiguous p) :
    h.packet (some p) = (h.pbufs p).payload.read 0 (h.pbufs p).len := by
  simp [Heap.packet, hp.chain]

theorem Contiguous.isPacket {h : Heap} {p : Nat} (hp : h.Contiguous p) : h.IsPacket p where
  lt := hp.lt
  allocated := by simp [hp.chain, hp.lt]
  tot_len := by rw [hp.tot_len, hp.packet, Mem.length_read]
  ref := hp.ref

/-- A chain is not changed by what happens outside its buffers. -/
theorem walk_congr {h h' : Heap} {n : Nat} {p : pbuf_ptr}
    (hsame : ∀ k ∈ h.walk n p, (h'.pbufs k).next = (h.pbufs k).next) :
    h'.walk n p = h.walk n p := by
  induction n generalizing p with
  | zero => rfl
  | succ n ih =>
    cases p with
    | none => rfl
    | some p =>
      simp only [walk, List.forall_mem_cons] at hsame ⊢
      rw [hsame.1, ih hsame.2]

@[simp] theorem push_pbufs_self (h : Heap) (b : pbuf) : (h.push b).pbufs h.handles = b := by
  simp [push]

@[simp] theorem setPayload_pbufs_self (h : Heap) (p : Nat) (m : Mem) :
    (h.setPayload p m).pbufs p = { h.pbufs p with payload := m } :=
  set_pbufs_self ..

theorem setPayload_pbufs_of_ne {h : Heap} {p k : Nat} (m : Mem) (hne : k ≠ p) :
    (h.setPayload p m).pbufs k = h.pbufs k :=
  set_pbufs_of_ne _ hne

theorem setPayload_setPayload (h : Heap) (p : Nat) (m m' : Mem) :
    (h.setPayload p m).setPayload p m' = h.setPayload p m' := by
  simp [setPayload, set]

theorem Contiguous.setPayload {h : Heap} {p k : Nat} (hk : h.Contiguous k) (m : Mem) :
    (h.setPayload p m).Contiguous k := by
  by_cases hkp : k = p
  · subst hkp
    refine ⟨hk.lt, ?_, ?_, ?_⟩ <;> rw [setPayload_pbufs_self]
    · exact hk.next
    · exact hk.tot_len
    · exact hk.ref
  · refine ⟨hk.lt, ?_, ?_, ?_⟩ <;> rw [setPayload_pbufs_of_ne m hkp]
    · exact hk.next
    · exact hk.tot_len
    · exact hk.ref

/-- Two linked buffers: the chain `pbuf_cat` makes of two contiguous packets. -/
theorem chain_of_next_some {h : Heap} {p q : Nat} (hlt : 2 ≤ h.handles)
    (hnext : (h.pbufs p).next = some q) (hlast : (h.pbufs q).next = none) :
    h.chain (some p) = [p, q] := by
  obtain ⟨n, hn⟩ : ∃ n, h.handles = n + 2 := ⟨h.handles - 2, by omega⟩
  rw [Heap.chain, hn, walk, hnext, walk, hlast]
  cases n <;> rfl

end Heap

open Heap

theorem pbuf_take_contiguous {h : Heap} {p : Nat} (hp : h.Contiguous p) (data : List UInt8)
    (hlen : data.length ≤ (h.pbufs p).len) :
    pbuf_take h (some p) data =
      (.ERR_OK, h.setPayload p ((h.pbufs p).payload.write 0 data)) := by
  have hroom : ¬ (h.pbufs p).tot_len < data.length := by
    rw [hp.tot_len]
    omega
  rw [pbuf_take, if_neg hroom, hp.chain]
  by_cases hdata : data = []
  · subst hdata
    simp [pbuf_take_loop, setPayload_self]
  · simp [pbuf_take_loop, hdata, touch_of_ref hp.ref, List.take_of_length_le hlen, setPayload]

/-- A copy that fits is made; an empty copy at the very end of the buffer is
refused by `pbuf_skip` and changes nothing either. -/
theorem pbuf_take_at_contiguous {h : Heap} {p : Nat} (hp : h.Contiguous p) (data : List UInt8)
    (offset : Nat) (hlen : offset + data.length ≤ (h.pbufs p).len) :
    (pbuf_take_at h (some p) data offset).2 =
      h.setPayload p ((h.pbufs p).payload.write offset data) := by
  rw [pbuf_take_at, pbuf_skip, hp.chain]
  rcases Nat.lt_or_ge offset (h.pbufs p).len with hoff | hoff
  · have hmin : min ((h.pbufs p).len - offset) data.length = data.length := by omega
    have hroom : ¬ (h.pbufs p).tot_len < offset + data.length := by
      rw [hp.tot_len]
      omega
    have hskip : pbuf_skip_loop h [p] offset = (some p, offset) := by
      rw [pbuf_skip_loop, if_neg (by omega)]
    simp only [hskip, if_neg hroom, hmin, Nat.sub_self, if_true, List.take_length,
      touch_of_ref hp.ref, setPayload]
  · have hdata : data = [] := List.eq_nil_of_length_eq_zero (by omega)
    have hskip : pbuf_skip_loop h [p] offset = (none, offset - (h.pbufs p).len) := by
      rw [pbuf_skip_loop, if_pos hoff, pbuf_skip_loop]
    simp only [hskip, hdata, Mem.write_nil, setPayload_self]

theorem pbuf_take_refused {h : Heap} {p : Nat} {data : List UInt8}
    (hshort : (h.pbufs p).tot_len < data.length) : (pbuf_take h (some p) data).2 = h := by
  rw [pbuf_take, if_pos hshort]

theorem pbuf_take_at_refused {h : Heap} {p : Nat} (hp : h.Contiguous p) {data : List UInt8}
    {offset : Nat} (hshort : (h.pbufs p).len < offset + data.length) :
    (pbuf_take_at h (some p) data offset).2 = h := by
  rw [pbuf_take_at, pbuf_skip, hp.chain, pbuf_skip_loop]
  rcases Nat.lt_or_ge offset (h.pbufs p).len with hoff | hoff
  · rw [if_neg (by omega)]
    simp only [hp.tot_len, if_pos hshort]
  · rw [if_pos hoff, pbuf_skip_loop]

theorem pbuf_get_at_contiguous {h : Heap} {p i : Nat} (hp : h.Contiguous p) :
    pbuf_get_at h (some p) i = if i < (h.pbufs p).len then (h.pbufs p).payload i else 0 := by
  rw [pbuf_get_at, pbuf_skip, hp.chain, pbuf_skip_loop]
  by_cases hi : i < (h.pbufs p).len
  · rw [if_neg (by omega)]
  · rw [if_pos (by omega), if_neg hi, pbuf_skip_loop]

/-- The memory after handing out one contiguous buffer. -/
def Heap.freshBuffer (h : Heap) (length : Nat) : pbuf_type → Heap
  | .PBUF_RAM => { h with requests := h.requests + 1 }.push
      ⟨none, h.fresh h.handles, length, length, .PBUF_RAM, 1⟩
  | .PBUF_POOL => { h.push ⟨none, h.fresh h.handles, length, length, .PBUF_POOL, 1⟩ with
      pool := h.pool - 1 }

theorem freshBuffer_pbufs_self (h : Heap) (length : Nat) (type : pbuf_type) :
    (h.freshBuffer length type).pbufs h.handles =
      ⟨none, h.fresh h.handles, length, length, type, 1⟩ := by
  cases type <;> simp [freshBuffer, push]

theorem freshBuffer_pbufs_of_ne {h : Heap} {k : Nat} (length : Nat) (type : pbuf_type)
    (hne : k ≠ h.handles) : (h.freshBuffer length type).pbufs k = h.pbufs k := by
  cases type <;> simp [freshBuffer, push, hne]

@[simp] theorem freshBuffer_handles (h : Heap) (length : Nat) (type : pbuf_type) :
    (h.freshBuffer length type).handles = h.handles + 1 := by
  cases type <;> rfl

theorem contiguous_freshBuffer (h : Heap) (length : Nat) (type : pbuf_type) :
    (h.freshBuffer length type).Contiguous h.handles := by
  have hself := freshBuffer_pbufs_self h length type
  exact ⟨by simp, by rw [hself], by rw [hself], by rw [hself]; exact Nat.one_pos⟩

theorem Heap.Contiguous.freshBuffer {h : Heap} {p : Nat} (hp : h.Contiguous p) (length : Nat)
    (type : pbuf_type) : (h.freshBuffer length type).Contiguous p := by
  have hsame := freshBuffer_pbufs_of_ne length type (Nat.ne_of_lt hp.lt)
  have hlt := hp.lt
  exact ⟨by rw [freshBuffer_handles]; omega, by rw [hsame, hp.next], by rw [hsame, hp.tot_len],
    by rw [hsame]; exact hp.ref⟩

/-- The memory after filling a contiguous buffer just handed out. -/
def Heap.filledBuffer (h : Heap) (length : Nat) (type : pbuf_type) (m : Mem) : Heap :=
  (h.freshBuffer length type).setPayload h.handles m

theorem filledBuffer_pbufs_self (h : Heap) (length : Nat) (type : pbuf_type) (m : Mem) :
    (h.filledBuffer length type m).pbufs h.handles = ⟨none, m, length, length, type, 1⟩ := by
  rw [filledBuffer, setPayload_pbufs_self, freshBuffer_pbufs_self]

theorem filledBuffer_pbufs_of_ne {h : Heap} {k : Nat} (length : Nat) (type : pbuf_type) (m : Mem)
    (hne : k ≠ h.handles) : (h.filledBuffer length type m).pbufs k = h.pbufs k := by
  rw [filledBuffer, setPayload_pbufs_of_ne m hne, freshBuffer_pbufs_of_ne _ _ hne]

theorem contiguous_filledBuffer (h : Heap) (length : Nat) (type : pbuf_type) (m : Mem) :
    (h.filledBuffer length type m).Contiguous h.handles :=
  (contiguous_freshBuffer h length type).setPayload m

theorem packet_filledBuffer (h : Heap) (length : Nat) (type : pbuf_type) (m : Mem) :
    (h.filledBuffer length type m).packet (some h.handles) = m.read 0 length := by
  rw [(contiguous_filledBuffer h length type m).packet, filledBuffer_pbufs_self]

/-- Filling a new buffer from its start. -/
theorem pbuf_take_freshBuffer (h : Heap) (length : Nat) (type : pbuf_type) (as : List UInt8)
    (hlen : as.length ≤ length) :
    (pbuf_take (h.freshBuffer length type) (some h.handles) as).2 =
      h.filledBuffer length type ((h.fresh h.handles).write 0 as) := by
  have hself := freshBuffer_pbufs_self h length type
  rw [pbuf_take_contiguous (contiguous_freshBuffer h length type) as (by rw [hself]; exact hlen),
    hself]
  rfl

/-- Filling a new buffer by one copy behind another. -/
theorem pbuf_take_at_filledBuffer (h : Heap) (length : Nat) (type : pbuf_type) (m : Mem)
    (bs : List UInt8) (offset : Nat) (hlen : offset + bs.length ≤ length) :
    (pbuf_take_at (h.filledBuffer length type m) (some h.handles) bs offset).2 =
      h.filledBuffer length type (m.write offset bs) := by
  have hself := filledBuffer_pbufs_self h length type m
  rw [pbuf_take_at_contiguous (contiguous_filledBuffer h length type m) bs offset
    (by rw [hself]; exact hlen), hself]
  exact setPayload_setPayload ..

/-- Whatever is copied to a new buffer, only its bytes may change. -/
theorem pbuf_take_freshBuffer_exists (h : Heap) (length : Nat) (type : pbuf_type)
    (data : List UInt8) :
    ∃ m, (pbuf_take (h.freshBuffer length type) (some h.handles) data).2 =
      h.filledBuffer length type m := by
  rcases Nat.lt_or_ge length data.length with hshort | hlen
  · refine ⟨(h.fresh h.handles), ?_⟩
    have hself := freshBuffer_pbufs_self h length type
    have hsame := setPayload_self (h.freshBuffer length type) h.handles
    rw [hself] at hsame
    rw [pbuf_take_refused (by rw [hself]; exact hshort), Heap.filledBuffer, hsame]
  · exact ⟨_, pbuf_take_freshBuffer h length type data hlen⟩

theorem pbuf_take_at_filledBuffer_exists (h : Heap) (length : Nat) (type : pbuf_type) (m : Mem)
    (data : List UInt8) (offset : Nat) :
    ∃ m', (pbuf_take_at (h.filledBuffer length type m) (some h.handles) data offset).2 =
      h.filledBuffer length type m' := by
  rcases Nat.lt_or_ge length (offset + data.length) with hshort | hlen
  · refine ⟨m, pbuf_take_at_refused (contiguous_filledBuffer ..) ?_⟩
    rw [filledBuffer_pbufs_self]
    exact hshort
  · exact ⟨_, pbuf_take_at_filledBuffer h length type m data offset hlen⟩

/-- The head of a pool chain is all of it when the request fits one element. -/
theorem pbuf_alloc_pool_of_le {h : Heap} (layer : pbuf_layer) (length : Nat) (hpool : 0 < h.pool)
    (hlen : length ≤ PBUF_POOL_BUFSIZE - layer.offset) :
    pbuf_alloc h layer length .PBUF_POOL =
      (some h.handles, h.freshBuffer length .PBUF_POOL) := by
  have hmin : min length (PBUF_POOL_BUFSIZE - layer.offset) = length := Nat.min_eq_left hlen
  simp only [pbuf_alloc, memp_malloc, hmin, if_neg (Nat.ne_of_gt hpool), Nat.sub_self]
  unfold pbuf_alloc_tail
  rfl

theorem pbuf_alloc_pool_empty {h : Heap} (layer : pbuf_layer) (length : Nat) (hpool : h.pool = 0) :
    pbuf_alloc h layer length .PBUF_POOL = (none, h) := by
  simp only [pbuf_alloc, memp_malloc, if_pos hpool]

/-- The last pool element does not hold a longer request, and there is none to chain to it. -/
theorem pbuf_alloc_pool_last {h : Heap} (layer : pbuf_layer) {length : Nat} (hpool : h.pool = 1)
    (hlen : PBUF_POOL_BUFSIZE - layer.offset < length) :
    pbuf_alloc h layer length .PBUF_POOL = (none, h) := by
  have hmin : min length (PBUF_POOL_BUFSIZE - layer.offset) = PBUF_POOL_BUFSIZE - layer.offset :=
    Nat.min_eq_right (Nat.le_of_lt hlen)
  have hrest : length - (PBUF_POOL_BUFSIZE - layer.offset) ≠ 0 := by omega
  simp only [pbuf_alloc, memp_malloc, hmin, hpool, Nat.one_ne_zero, if_false, Nat.sub_self]
  unfold pbuf_alloc_tail
  simp only [if_neg hrest]

theorem pbuf_alloc_ram_of_le {h : Heap} (layer : pbuf_layer) (length : Nat)
    (hlen : SIZEOF_STRUCT_PBUF + layer.offset + length ≤ MEM_SIZE)
    (hmem : h.mem_malloc h.requests = true) :
    pbuf_alloc h layer length .PBUF_RAM =
      (some h.handles, h.freshBuffer length .PBUF_RAM) := by
  have hmod : (SIZEOF_STRUCT_PBUF + layer.offset + length) % 65536 =
      SIZEOF_STRUCT_PBUF + layer.offset + length :=
    Nat.mod_eq_of_lt (by rw [MEM_SIZE] at hlen; omega)
  have hnot : ¬ (SIZEOF_STRUCT_PBUF + layer.offset + length > MEM_SIZE ∨
      h.mem_malloc h.requests = false) := by
    rw [hmem]
    simp only [Bool.true_eq_false, or_false]
    omega
  simp only [pbuf_alloc, hmod, if_neg hnot]
  rw [if_neg (by omega)]
  rfl

/-- A request that the heap does not serve, or whose 16-bit size overflows or is
too large, gives `NULL`. -/
theorem pbuf_alloc_ram_null {h : Heap} (layer : pbuf_layer) (length : Nat)
    (hfail : (SIZEOF_STRUCT_PBUF + layer.offset + length) % 65536 < length ∨
      MEM_SIZE < (SIZEOF_STRUCT_PBUF + layer.offset + length) % 65536 ∨
      h.mem_malloc h.requests = false) :
    (pbuf_alloc h layer length .PBUF_RAM).1 = none := by
  rcases hfail with hwrap | hfail
  · simp only [pbuf_alloc, if_pos hwrap]
  · simp only [pbuf_alloc, gt_iff_lt, if_pos hfail]
    split <;> rfl

theorem pbuf_alloc_ram_ne_null_iff (h : Heap) (layer : pbuf_layer) {length : Nat}
    (hlength : length < 65536) :
    (pbuf_alloc h layer length .PBUF_RAM).1 ≠ none ↔
      SIZEOF_STRUCT_PBUF + layer.offset + length ≤ MEM_SIZE ∧ h.mem_malloc h.requests = true := by
  constructor
  · intro hsome
    by_contra hfail
    apply hsome
    apply pbuf_alloc_ram_null
    have hoffset : layer.offset ≤ 74 := by cases layer <;> decide
    simp only [SIZEOF_STRUCT_PBUF, MEM_SIZE, not_and_or, Bool.not_eq_true] at hfail ⊢
    obtain hlong | hmem := hfail
    · omega
    · exact .inr (.inr hmem)
  · intro hserved
    rw [pbuf_alloc_ram_of_le layer length hserved.1 hserved.2]
    simp

private theorem sameBuffers_set_ref (h : Heap) (p ref : Nat) :
    h.SameBuffers (h.set p { h.pbufs p with ref := ref }) := by
  have hfield : ∀ k, (h.set p { h.pbufs p with ref := ref }).pbufs k = h.pbufs k ∨
      k = p ∧ (h.set p { h.pbufs p with ref := ref }).pbufs k = { h.pbufs p with ref := ref } := by
    intro k
    by_cases hk : k = p
    · exact .inr ⟨hk, by simp [hk]⟩
    · exact .inl (set_pbufs_of_ne _ hk)
  refine ⟨rfl, rfl, rfl, rfl, Nat.le_refl _, ?_, ?_, ?_, ?_⟩ <;>
    · intro k
      rcases hfield k with hk | ⟨rfl, hk⟩ <;> rw [hk]

@[simp] theorem pbuf_free_null (h : Heap) : pbuf_free h none = h := by
  rw [pbuf_free, Heap.chain_none, pbuf_free_loop]

/-- Freeing changes counts only: the bytes of a released buffer stay where they are. -/
theorem sameBuffers_pbuf_free_loop (ps : List Nat) (h : Heap) :
    h.SameBuffers (pbuf_free_loop ps h) := by
  induction ps generalizing h with
  | nil => exact .refl h
  | cons p ps ih =>
    let h₁ : Heap :=
      if (h.pbufs p).ref = 0 then { h with misuse := h.misuse ++ [.free_unreferenced p] } else h
    have hmisuse : h.SameBuffers h₁ ∧ h₁.pbufs = h.pbufs := by
      simp only [h₁]
      split
      · exact ⟨⟨rfl, rfl, rfl, rfl, Nat.le_refl _, fun _ => rfl, fun _ => rfl, fun _ => rfl,
          fun _ => rfl⟩, rfl⟩
      · exact ⟨.refl h, rfl⟩
    have hstep := sameBuffers_set_ref h₁ p (sub16 (h.pbufs p).ref 1)
    rw [hmisuse.2] at hstep
    rw [pbuf_free_loop]
    split
    · split
      · refine (hmisuse.1.trans hstep).trans (.trans ?_ (ih _))
        exact ⟨rfl, rfl, rfl, rfl, Nat.le_succ _, fun _ => rfl, fun _ => rfl, fun _ => rfl,
          fun _ => rfl⟩
      · exact (hmisuse.1.trans hstep).trans (ih _)
    · exact hmisuse.1.trans hstep

theorem sameBuffers_pbuf_free (h : Heap) (p : pbuf_ptr) : h.SameBuffers (pbuf_free h p) :=
  sameBuffers_pbuf_free_loop _ h

/-- Copying a whole chain: the destination gets the bytes of its buffers in order. -/
theorem pbuf_copy_partial_loop_eq (ps : List Nat) (h : Heap) (dst : Mem) (left : Nat) :
    let bytes := ps.flatMap fun k => (h.pbufs k).payload.read 0 (h.pbufs k).len
    ∃ h', pbuf_copy_partial_loop ps h dst left bytes.length 0 =
      (dst.write left bytes, left + bytes.length, h') ∧ h.SameBuffers h' := by
  intro bytes
  induction ps generalizing h dst left with
  | nil => exact ⟨h, by simp [bytes, pbuf_copy_partial_loop], .refl h⟩
  | cons p ps ih =>
    have hbytes : bytes = (h.pbufs p).payload.read 0 (h.pbufs p).len ++
        ps.flatMap fun k => (h.pbufs k).payload.read 0 (h.pbufs k).len := List.flatMap_cons
    have hlength : bytes.length = (h.pbufs p).len +
        (ps.flatMap fun k => (h.pbufs k).payload.read 0 (h.pbufs k).len).length := by
      rw [hbytes, List.length_append, Mem.length_read]
    rw [pbuf_copy_partial_loop]
    by_cases hzero : bytes.length = 0
    · have hnil : bytes = [] := List.eq_nil_of_length_eq_zero hzero
      exact ⟨h, by simp [hnil], .refl h⟩
    · have hmin : min ((h.pbufs p).len - 0) bytes.length = (h.pbufs p).len := by omega
      have hrest : bytes.length - (h.pbufs p).len =
          (ps.flatMap fun k => (h.pbufs k).payload.read 0 (h.pbufs k).len).length := by omega
      have htail := ih (h.touch p) (dst.write left ((h.pbufs p).payload.read 0 (h.pbufs p).len))
        (left + (h.pbufs p).len)
      simp only [touch_pbufs] at htail
      obtain ⟨h', heq, hsame⟩ := htail
      refine ⟨h', ?_, (sameBuffers_touch h p).trans hsame⟩
      rw [if_neg hzero, if_neg (by simp)]
      simp only [hmin, hrest, heq]
      rw [hbytes, ← Mem.write_write_append, Mem.length_read, List.length_append, Mem.length_read,
        Nat.add_assoc]

/-- A packet whose total length is right is copied out whole. -/
theorem pbuf_copy_partial_packet (h : Heap) (p : pbuf_ptr) (dst : Mem) :
    ∃ h', pbuf_copy_partial h p dst (h.packet p).length 0 =
      (dst.write 0 (h.packet p), (h.packet p).length, h') ∧ h.SameBuffers h' := by
  obtain ⟨h', heq, hsame⟩ := pbuf_copy_partial_loop_eq (h.chain p) h dst 0
  rw [Nat.zero_add] at heq
  exact ⟨h', heq, hsame⟩

end loranode.lwip
