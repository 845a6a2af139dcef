import LoRaNode.Mac.Crypto
import Mathlib.Data.List.Nodup

open word

namespace loranode.crypto

/-- The static arrays. `aes_encrypt` reads all of `aBlock` and writes all of `sBlock`. -/
structure Blocks where
  aBlock : List UInt8
  sBlock : Mem

/-- The static arrays at the start of the program. -/
def Blocks.initial : Blocks := ⟨[1, 0, 0, 0, 0, 0, 0, 0, 0, 0, 0, 0, 0, 0, 0, 0], fun _ => 0⟩

/-- The arguments of a call, apart from the buffer that it writes to. -/
structure Call where
  buffer : Mem
  size : UInt16
  key : List UInt8
  address : UInt32
  dir : UInt8
  sequenceCounter : UInt32

/-- `LoRaMacPayloadEncrypt` while it runs: the static arrays, its variables and its output.
`fed` and `written` are kept for the proofs only: the blocks that `aes_encrypt` has been
given, and the indices of the output that have been assigned. -/
structure State extends Blocks where
  size : UInt16
  bufferIndex : UInt8
  ctr : UInt16
  encBuffer : Mem
  fed : List (List UInt8)
  written : List Nat

section

-- the cipher is any function of the key and the block
variable (aes_encrypt : List UInt8 → List UInt8 → Mem) (c : Call)

/-- The variables before the loop, and the fields of `aBlock` that belong to the call. -/
def start (b : Blocks) (encBuffer : Mem) : State where
  aBlock := b.aBlock
    |>.set 5 c.dir
    |>.set 6 c.address.toUInt8
    |>.set 7 (c.address >>> 8).toUInt8
    |>.set 8 (c.address >>> 16).toUInt8
    |>.set 9 (c.address >>> 24).toUInt8
    |>.set 10 c.sequenceCounter.toUInt8
    |>.set 11 (c.sequenceCounter >>> 8).toUInt8
    |>.set 12 (c.sequenceCounter >>> 16).toUInt8
    |>.set 13 (c.sequenceCounter >>> 24).toUInt8
  sBlock := b.sBlock
  size := c.size
  bufferIndex := 0
  ctr := 1
  encBuffer := encBuffer
  fed := []
  written := []

/-- `aes_encrypt` of `aBlock` with the counter in its last byte. -/
def encipher (s : State) : State :=
  let aBlock := s.aBlock.set 15 s.ctr.toUInt8
  { s with aBlock := aBlock, sBlock := aes_encrypt c.key aBlock, fed := s.fed ++ [aBlock] }

/-- One assignment of the inner loops. The index is an `int`. -/
def maskByte (s : State) (i : Nat) : State :=
  let index := s.bufferIndex.toNat + i
  { s with
    encBuffer := s.encBuffer.write index [c.buffer index ^^^ s.sBlock i]
    written := s.written ++ [index] }

def maskBytes (n : Nat) (s : State) : State :=
  (List.range n).foldl (maskByte c) s

/-- What the inner loop does. -/
theorem maskBytes_eq (n : Nat) (s : State) :
    maskBytes c n s = { s with
      encBuffer := s.encBuffer.write s.bufferIndex.toNat
        ((List.range n).map fun i => c.buffer (s.bufferIndex.toNat + i) ^^^ s.sBlock i)
      written := s.written ++ (List.range n).map (s.bufferIndex.toNat + ·) } := by
  induction n with
  | zero => simp [maskBytes]
  | succ n ih =>
    have hlast : maskBytes c (n + 1) s = maskByte c (maskBytes c n s) n := by
      simp only [maskBytes, List.range_succ, List.foldl_append, List.foldl_cons, List.foldl_nil]
    rw [hlast, ih]
    have hwrite := Mem.write_write_append s.encBuffer s.bufferIndex.toNat
      ((List.range n).map fun i => c.buffer (s.bufferIndex.toNat + i) ^^^ s.sBlock i)
      [c.buffer (s.bufferIndex.toNat + n) ^^^ s.sBlock n]
    rw [List.length_map, List.length_range] at hwrite
    simp only [maskByte, hwrite, List.range_succ, List.map_append, List.map_cons, List.map_nil,
      List.append_assoc]

/-- The body of the `while` loop. -/
def encryptBlock (s : State) : State :=
  let s := maskBytes c 16 (encipher aes_encrypt c s)
  { s with size := s.size - 16, bufferIndex := s.bufferIndex + 16, ctr := s.ctr + 1 }

theorem toNat_sub_sixteen {size : UInt16} (hsize : 16 ≤ size) :
    (size - 16).toNat + 16 = size.toNat := by
  have hle : (16 : UInt16).toNat ≤ size.toNat := UInt16.le_iff_toNat_le.mp hsize
  rw [UInt16.toNat_sub_of_le _ _ hsize]
  exact Nat.sub_add_cancel hle

/-- `while( size >= 16 )`. -/
def encryptBlocks (s : State) : State :=
  if 16 ≤ s.size then encryptBlocks (encryptBlock aes_encrypt c s) else s
termination_by s.size.toNat
decreasing_by
  next hsize =>
  have hstep : (encryptBlock aes_encrypt c s).size = s.size - 16 := by
    rw [encryptBlock, maskBytes_eq]
    rfl
  have := toNat_sub_sixteen hsize
  rw [hstep]
  omega

/-- The last block, if the size is not a multiple of 16. -/
def encryptRest (s : State) : State :=
  if 0 < s.size then maskBytes c s.size.toNat (encipher aes_encrypt c s) else s

def LoRaMacPayloadEncrypt (b : Blocks) (encBuffer : Mem) : State :=
  encryptRest aes_encrypt c (encryptBlocks aes_encrypt c (start c b encBuffer))

def LoRaMacPayloadDecrypt (b : Blocks) (decBuffer : Mem) : State :=
  LoRaMacPayloadEncrypt aes_encrypt c b decBuffer

/-- The bytes of `aBlock` that no call writes to have their values of the start. -/
def Blocks.Fixed (aBlock : List UInt8) : Prop :=
  ∃ a5 a6 a7 a8 a9 a10 a11 a12 a13 a15,
    aBlock = [1, 0, 0, 0, 0, a5, a6, a7, a8, a9, a10, a11, a12, a13, 0, a15]

theorem Blocks.fixed_initial : Blocks.Fixed Blocks.initial.aBlock :=
  ⟨0, 0, 0, 0, 0, 0, 0, 0, 0, 0, rfl⟩

/-- The first 15 bytes of the blocks of a call. -/
def Call.nonce : List UInt8 :=
  [1, 0, 0, 0, 0, c.dir] ++ mac.bytes32 c.address ++ mac.bytes32 c.sequenceCounter ++ [0]

theorem bytes32_eq (x : UInt32) :
    mac.bytes32 x = [x.toUInt8, (x >>> 8).toUInt8, (x >>> 16).toUInt8, (x >>> 24).toUInt8] := by
  simp only [mac.bytes32, leBytes, List.cons.injEq, and_true, ← UInt8.toNat_inj, toNat_byte,
    UInt32.toNat_toUInt8, UInt32.toNat_shiftRight, UInt32.toNat_toBitVec,
    Nat.shiftRight_eq_div_pow]
  simp

theorem aBlock_start {b : Blocks} (hb : Blocks.Fixed b.aBlock) (encBuffer : Mem) :
    ∃ x, (start c b encBuffer).aBlock = c.nonce ++ [x] := by
  obtain ⟨a5, a6, a7, a8, a9, a10, a11, a12, a13, a15, h⟩ := hb
  refine ⟨a15, ?_⟩
  simp only [start, h, Call.nonce, bytes32_eq]
  rfl

/-- The byte of the keystream that masks byte `i`. -/
def keyByte (i : Nat) : UInt8 :=
  aes_encrypt c.key (c.nonce ++ [UInt8.ofNat (i / 16 + 1)]) (i % 16)

/-- The first `n` bytes, masked. -/
def maskedBytes (n : Nat) : List UInt8 :=
  (List.range n).map fun i => c.buffer i ^^^ keyByte aes_encrypt c i

/-- The first `k` blocks of a call. -/
def Call.blocks (k : Nat) : List (List UInt8) :=
  (List.range k).map fun j => c.nonce ++ [UInt8.ofNat (j + 1)]

/-- The call has done `k` whole blocks. -/
structure Done (encBuffer : Mem) (k : Nat) (s : State) : Prop where
  aBlock : ∃ x, s.aBlock = c.nonce ++ [x]
  size : s.size.toNat + 16 * k = c.size.toNat
  bufferIndex : s.bufferIndex.toNat = 16 * k
  ctr : s.ctr.toNat = k + 1
  encBuffer : s.encBuffer = encBuffer.write 0 (maskedBytes aes_encrypt c (16 * k))
  fed : s.fed = c.blocks k
  written : s.written = List.range (16 * k)

variable {aes_encrypt c} {encBuffer : Mem} {k : Nat} {s : State}

@[simp] theorem length_maskedBytes (n : Nat) : (maskedBytes aes_encrypt c n).length = n := by
  simp [maskedBytes]

theorem done_start {b : Blocks} (hb : Blocks.Fixed b.aBlock) :
    Done aes_encrypt c encBuffer 0 (start c b encBuffer) where
  aBlock := aBlock_start c hb encBuffer
  size := rfl
  bufferIndex := rfl
  ctr := rfl
  encBuffer := (Mem.write_nil encBuffer 0).symm
  fed := rfl
  written := rfl

/-- `maskedBytes` goes on behind the first `k` blocks with the bytes of the next one. -/
theorem maskedBytes_append {n : Nat} (hn : n ≤ 16) :
    maskedBytes aes_encrypt c (16 * k + n) = maskedBytes aes_encrypt c (16 * k) ++
      (List.range n).map fun i =>
        c.buffer (16 * k + i) ^^^ aes_encrypt c.key (c.nonce ++ [UInt8.ofNat (k + 1)]) i := by
  simp only [maskedBytes, List.range_add, List.map_append, List.map_map]
  congr 1
  apply List.map_congr_left
  intro i hi
  have hlt : i < 16 := Nat.lt_of_lt_of_le (List.mem_range.mp hi) hn
  simp only [Function.comp, keyByte]
  rw [show (16 * k + i) / 16 = k by omega, show (16 * k + i) % 16 = i by omega]

/-- The next block, or the part of it that is left. -/
theorem Done.maskBytes_encipher (h : Done aes_encrypt c encBuffer k s) {n : Nat} (hn : n ≤ 16) :
    maskBytes c n (encipher aes_encrypt c s) = { s with
      aBlock := c.nonce ++ [UInt8.ofNat (k + 1)]
      sBlock := aes_encrypt c.key (c.nonce ++ [UInt8.ofNat (k + 1)])
      encBuffer := encBuffer.write 0 (maskedBytes aes_encrypt c (16 * k + n))
      fed := c.blocks (k + 1)
      written := List.range (16 * k + n) } := by
  obtain ⟨x, hx⟩ := h.aBlock
  have hctr : s.ctr.toUInt8 = UInt8.ofNat (k + 1) := by
    rw [← UInt8.toNat_inj, UInt16.toNat_toUInt8, h.ctr, UInt8.toNat_ofNat']
  have hblock : s.aBlock.set 15 s.ctr.toUInt8 = c.nonce ++ [UInt8.ofNat (k + 1)] := by
    rw [hx, hctr]
    rfl
  have hwrite := Mem.write_write_append encBuffer 0 (maskedBytes aes_encrypt c (16 * k))
    ((List.range n).map fun i =>
      c.buffer (16 * k + i) ^^^ aes_encrypt c.key (c.nonce ++ [UInt8.ofNat (k + 1)]) i)
  rw [length_maskedBytes, Nat.zero_add, ← maskedBytes_append hn] at hwrite
  simp only [maskBytes_eq, encipher, hblock, h.bufferIndex, h.encBuffer, hwrite, h.fed, h.written,
    Call.blocks, List.range_succ, List.range_add, List.map_append, List.map_cons, List.map_nil]

theorem Done.encryptBlock (h : Done aes_encrypt c encBuffer k s) (hc : c.size ≤ 255)
    (hsize : 16 ≤ s.size) :
    Done aes_encrypt c encBuffer (k + 1) (encryptBlock aes_encrypt c s) := by
  have hsub := toNat_sub_sixteen hsize
  have hall : c.size.toNat ≤ 255 := UInt16.le_iff_toNat_le.mp hc
  have hleft := h.size
  have hindex : (s.bufferIndex + 16).toNat = 16 * (k + 1) := by
    rw [UInt8.toNat_add, h.bufferIndex, show (16 : UInt8).toNat = 16 from rfl]
    omega
  have hctr : (s.ctr + 1).toNat = k + 1 + 1 := by
    rw [UInt16.toNat_add, h.ctr, show (1 : UInt16).toNat = 1 from rfl]
    omega
  rw [crypto.encryptBlock, h.maskBytes_encipher (Nat.le_refl 16)]
  exact {
    aBlock := ⟨_, rfl⟩
    size := by
      change (s.size - 16).toNat + 16 * (k + 1) = _
      omega
    bufferIndex := hindex
    ctr := hctr
    encBuffer := rfl
    fed := rfl
    written := rfl }

/-- The loop stops within the last block. -/
theorem Done.encryptBlocks (h : Done aes_encrypt c encBuffer k s) (hc : c.size ≤ 255) :
    ∃ m, Done aes_encrypt c encBuffer m (encryptBlocks aes_encrypt c s) ∧
      (encryptBlocks aes_encrypt c s).size.toNat < 16 := by
  induction s using encryptBlocks.induct aes_encrypt c generalizing k with
  | case1 s hsize ih =>
    rw [crypto.encryptBlocks, if_pos hsize]
    exact ih (h.encryptBlock hc hsize)
  | case2 s hsize =>
    rw [crypto.encryptBlocks, if_neg hsize]
    exact ⟨k, h, by simpa [UInt16.le_iff_toNat_le] using hsize⟩

variable (aes_encrypt encBuffer) in
/-- What a call of at most 255 bytes does. -/
theorem LoRaMacPayloadEncrypt_spec {b : Blocks} (hb : Blocks.Fixed b.aBlock) (hc : c.size ≤ 255) :
    (LoRaMacPayloadEncrypt aes_encrypt c b encBuffer).encBuffer =
        encBuffer.write 0 (maskedBytes aes_encrypt c c.size.toNat) ∧
      (LoRaMacPayloadEncrypt aes_encrypt c b encBuffer).fed = c.blocks ((c.size.toNat + 15) / 16) ∧
      (LoRaMacPayloadEncrypt aes_encrypt c b encBuffer).written = List.range c.size.toNat := by
  have hstart : Done aes_encrypt c encBuffer 0 (start c b encBuffer) := done_start hb
  obtain ⟨m, h, hlt⟩ := hstart.encryptBlocks hc
  unfold LoRaMacPayloadEncrypt encryptRest
  generalize encryptBlocks aes_encrypt c (start c b encBuffer) = t at h hlt
  have hsize := h.size
  split
  · next hpos =>
    have hpos : 0 < t.size.toNat := by simpa [UInt16.lt_iff_toNat_lt] using hpos
    rw [h.maskBytes_encipher (Nat.le_of_lt hlt)]
    rw [show 16 * m + t.size.toNat = c.size.toNat by omega,
      show (c.size.toNat + 15) / 16 = m + 1 by omega]
    exact ⟨rfl, rfl, rfl⟩
  · next hpos =>
    have hzero : t.size.toNat = 0 := by simpa [UInt16.lt_iff_toNat_lt] using hpos
    rw [show (c.size.toNat + 15) / 16 = m by omega, show c.size.toNat = 16 * m by omega]
    exact ⟨h.encBuffer, h.fed, h.written⟩

/-- Every block that has been enciphered belongs to the call. This holds for any size. -/
structure Keyed (c : Call) (s : State) : Prop where
  aBlock : ∃ x, s.aBlock = c.nonce ++ [x]
  fed : ∀ block ∈ s.fed, ∃ x, block = c.nonce ++ [x]

theorem Keyed.maskBytes_encipher (h : Keyed c s) (n : Nat) :
    Keyed c (maskBytes c n (encipher aes_encrypt c s)) := by
  obtain ⟨x, hx⟩ := h.aBlock
  have hblock : s.aBlock.set 15 s.ctr.toUInt8 = c.nonce ++ [s.ctr.toUInt8] := by
    rw [hx]
    rfl
  simp only [maskBytes_eq, encipher, hblock]
  refine ⟨⟨_, rfl⟩, fun block hmem => ?_⟩
  simp only [List.mem_append, List.mem_singleton] at hmem
  rcases hmem with hmem | rfl
  · exact h.fed block hmem
  · exact ⟨_, rfl⟩

theorem Keyed.encryptBlock (h : Keyed c s) : Keyed c (encryptBlock aes_encrypt c s) := by
  have hmasked : Keyed c (maskBytes c 16 (encipher aes_encrypt c s)) := h.maskBytes_encipher 16
  unfold crypto.encryptBlock
  generalize maskBytes c 16 (encipher aes_encrypt c s) = t at hmasked ⊢
  exact ⟨hmasked.aBlock, hmasked.fed⟩

theorem Keyed.encryptBlocks (h : Keyed c s) : Keyed c (encryptBlocks aes_encrypt c s) := by
  induction s using encryptBlocks.induct aes_encrypt c with
  | case1 s hsize ih =>
    rw [crypto.encryptBlocks, if_pos hsize]
    exact ih h.encryptBlock
  | case2 s hsize =>
    rw [crypto.encryptBlocks, if_neg hsize]
    exact h

theorem keyed_LoRaMacPayloadEncrypt {b : Blocks} (hb : Blocks.Fixed b.aBlock) :
    Keyed c (LoRaMacPayloadEncrypt aes_encrypt c b encBuffer) := by
  have hstart : Keyed c (start c b encBuffer) :=
    ⟨aBlock_start c hb encBuffer, fun _ hmem => absurd hmem List.not_mem_nil⟩
  have hloop : Keyed c (encryptBlocks aes_encrypt c (start c b encBuffer)) := hstart.encryptBlocks
  unfold LoRaMacPayloadEncrypt encryptRest
  split
  · exact hloop.maskBytes_encipher _
  · exact hloop

theorem Keyed.fixed (h : Keyed c s) : Blocks.Fixed s.aBlock := by
  obtain ⟨x, hx⟩ := h.aBlock
  rw [hx, Call.nonce, bytes32_eq, bytes32_eq]
  exact ⟨_, _, _, _, _, _, _, _, _, x, rfl⟩

variable (aes_encrypt) in
/-- The static arrays after a history of calls, each with the buffer that it wrote to. A
decryption is a call as well. -/
def Blocks.after (history : List (Call × Mem)) : Blocks :=
  history.foldl (fun b call => (LoRaMacPayloadEncrypt aes_encrypt call.1 b call.2).toBlocks) .initial

variable (aes_encrypt) in
theorem Blocks.fixed_after (history : List (Call × Mem)) :
    Blocks.Fixed (Blocks.after aes_encrypt history).aBlock := by
  unfold Blocks.after
  have hall : ∀ b : Blocks, Blocks.Fixed b.aBlock → Blocks.Fixed (history.foldl (fun b call =>
      (LoRaMacPayloadEncrypt aes_encrypt call.1 b call.2).toBlocks) b).aBlock := by
    induction history with
    | nil => exact fun b hb => hb
    | cons call rest ih => exact fun b hb => ih _ (keyed_LoRaMacPayloadEncrypt hb).fixed
  exact hall .initial Blocks.fixed_initial

/-- The nonce determines the direction, the address and the counter. -/
theorem Call.nonce_inj {c d : Call} :
    c.nonce = d.nonce ↔
      c.dir = d.dir ∧ c.address = d.address ∧ c.sequenceCounter = d.sequenceCounter := by
  have hbytes : ∀ x y : UInt32, mac.bytes32 x = mac.bytes32 y → x = y := by
    intro x y h
    rw [← UInt32.toBitVec_inj, ← le32_leBytes x.toBitVec, ← le32_leBytes y.toBitVec]
    simp only [mac.bytes32, leBytes, List.cons.injEq] at h
    rw [h.1, h.2.1, h.2.2.1, h.2.2.2.1]
  constructor
  · intro h
    simp only [Call.nonce, List.append_assoc, List.cons_append, List.cons.injEq,
      List.nil_append] at h
    obtain ⟨-, -, -, -, -, hdir, h⟩ := h
    obtain ⟨haddress, h⟩ := List.append_inj h rfl
    obtain ⟨hcounter, -⟩ := List.append_inj h rfl
    exact ⟨hdir, hbytes _ _ haddress, hbytes _ _ hcounter⟩
  · rintro ⟨hdir, haddress, hcounter⟩
    rw [Call.nonce, Call.nonce, hdir, haddress, hcounter]

/-- The counter of a block is one byte: the first 255 blocks differ. -/
theorem Call.nodup_blocks {k : Nat} (hk : k ≤ 255) : (c.blocks k).Nodup := by
  refine List.Nodup.map_on ?_ List.nodup_range
  intro i hi j hj h
  have hi := List.mem_range.mp hi
  have hj := List.mem_range.mp hj
  have hbyte : UInt8.ofNat (i + 1) = UInt8.ofNat (j + 1) := by
    simpa using (List.append_inj h rfl).2
  rw [← UInt8.toNat_inj, UInt8.toNat_ofNat', UInt8.toNat_ofNat'] at hbyte
  omega

/-- A masked byte masked once more is the byte itself. -/
theorem maskedBytes_maskedBytes (m : Mem) (n : Nat) :
    maskedBytes aes_encrypt
        { c with buffer := m.write 0 (maskedBytes aes_encrypt c n) } n =
      c.buffer.read 0 n := by
  apply List.map_congr_left
  intro i hi
  have hi := List.mem_range.mp hi
  have hbyte : m.write 0 (maskedBytes aes_encrypt c n) (0 + i) =
      c.buffer i ^^^ keyByte aes_encrypt c i := by
    rw [Mem.write_of_mem (by simpa using hi)]
    simp [maskedBytes, hi]
  rw [Nat.zero_add] at hbyte
  change m.write 0 (maskedBytes aes_encrypt c n) i ^^^ keyByte aes_encrypt c i = c.buffer (0 + i)
  rw [hbyte, UInt8.xor_assoc, UInt8.xor_self, UInt8.xor_zero, Nat.zero_add]

/-- The call computes what the model of the MAC uses for it, whatever calls went before. -/
theorem LoRaMacPayloadEncrypt_eq (env : mac.Env) (hc : c.size ≤ 255)
    (history : List (Call × Mem)) :
    (LoRaMacPayloadEncrypt env.aes_encrypt c (Blocks.after env.aes_encrypt history)
        encBuffer).encBuffer =
      mac.LoRaMacPayloadEncrypt env c.buffer c.size.toNat c.key c.address c.dir
        c.sequenceCounter encBuffer := by
  rw [(LoRaMacPayloadEncrypt_spec _ _ (Blocks.fixed_after _ history) hc).1]
  apply congrArg (encBuffer.write 0)
  apply List.map_congr_left
  intro i _
  simp only [keyByte, Call.nonce, mac.aBlock, List.append_assoc, List.cons_append, List.nil_append]

/-- Two calls that differ in direction, address or counter have no block in common. -/
theorem Keyed.disjoint {d : Call} {t : State} (hs : Keyed c s) (ht : Keyed d t)
    (hdiff : c.dir ≠ d.dir ∨ c.address ≠ d.address ∨ c.sequenceCounter ≠ d.sequenceCounter) :
    s.fed.Disjoint t.fed := by
  intro block hmem hmem'
  obtain ⟨x, hx⟩ := hs.fed block hmem
  obtain ⟨y, hy⟩ := ht.fed block hmem'
  have hnonce : c.nonce = d.nonce := (List.append_inj (hx.symm.trans hy) rfl).1
  obtain ⟨hdir, haddress, hcounter⟩ := Call.nonce_inj.mp hnonce
  rcases hdiff with h | h | h
  · exact h hdir
  · exact h haddress
  · exact h hcounter

/-- The decryption of what a call has written gives back the bytes that it was given. -/
theorem read_LoRaMacPayloadDecrypt (hc : c.size ≤ 255) {b b' : Blocks}
    (hb : Blocks.Fixed b.aBlock) (hb' : Blocks.Fixed b'.aBlock) (decBuffer : Mem) :
    (LoRaMacPayloadDecrypt aes_encrypt
        { c with buffer := (LoRaMacPayloadEncrypt aes_encrypt c b encBuffer).encBuffer }
        b' decBuffer).encBuffer.read 0 c.size.toNat =
      c.buffer.read 0 c.size.toNat := by
  let d : Call := { c with
    buffer := encBuffer.write 0 (maskedBytes aes_encrypt c c.size.toNat) }
  have hdecrypt := (LoRaMacPayloadEncrypt_spec (c := d) aes_encrypt decBuffer hb' hc).1
  rw [(LoRaMacPayloadEncrypt_spec aes_encrypt encBuffer hb hc).1, LoRaMacPayloadDecrypt, hdecrypt,
    maskedBytes_maskedBytes]
  have hread := Mem.read_write_self decBuffer 0 (c.buffer.read 0 c.size.toNat)
  rw [Mem.length_read] at hread
  exact hread

end

/-- The decryption of an encrypted payload gives the payload back, whatever calls went before
either; a call writes exactly the bytes of its size; and no block is enciphered twice, in a
call or by another one for a different direction, address or counter. -/
theorem payload_involution (aes_encrypt : List UInt8 → List UInt8 → Mem) (c : Call)
    (hsize : c.size ≤ 255) (history : List (Call × Mem)) (encBuffer : Mem) :
    let e := LoRaMacPayloadEncrypt aes_encrypt c (Blocks.after aes_encrypt history) encBuffer
    (∀ history' decBuffer,
        (LoRaMacPayloadDecrypt aes_encrypt { c with buffer := e.encBuffer }
          (Blocks.after aes_encrypt history') decBuffer).encBuffer.read 0 c.size.toNat =
        c.buffer.read 0 c.size.toNat) ∧
      e.written = List.range c.size.toNat ∧
      (∀ i, c.size.toNat ≤ i → e.encBuffer i = encBuffer i) ∧
      e.fed.Nodup ∧
      ∀ d : Call, c.dir ≠ d.dir ∨ c.address ≠ d.address ∨ c.sequenceCounter ≠ d.sequenceCounter →
        ∀ history' encBuffer', e.fed.Disjoint
          (LoRaMacPayloadEncrypt aes_encrypt d (Blocks.after aes_encrypt history')
            encBuffer').fed := by
  intro e
  have hle : c.size.toNat ≤ 255 := UInt16.le_iff_toNat_le.mp hsize
  have hfixed := Blocks.fixed_after aes_encrypt
  obtain ⟨hbuffer, hfed, hwritten⟩ :=
    LoRaMacPayloadEncrypt_spec aes_encrypt encBuffer (hfixed history) hsize
  refine ⟨fun history' decBuffer => ?_, hwritten, fun i hi => ?_, ?_,
    fun d hdiff history' encBuffer' => ?_⟩
  · exact read_LoRaMacPayloadDecrypt hsize (hfixed history) (hfixed history') decBuffer
  · rw [show e.encBuffer = _ from hbuffer]
    exact Mem.write_of_ge (by simpa using hi)
  · rw [show e.fed = _ from hfed]
    exact Call.nodup_blocks (by omega)
  · exact Keyed.disjoint (keyed_LoRaMacPayloadEncrypt (hfixed history))
      (keyed_LoRaMacPayloadEncrypt (hfixed history')) hdiff

/-- A payload of 17 bytes takes two blocks. -/
theorem payload_involution_seventeen :
    let c : Call := ⟨fun i => UInt8.ofNat i, 17, [7], 0x26011BDA, 0, 258⟩
    let aes : List UInt8 → List UInt8 → Mem := fun key block i =>
      key.getD 0 0 + block.getD i 0 + block.getD 15 0
    (∀ history' decBuffer,
        (LoRaMacPayloadDecrypt aes
          { c with buffer :=
              (LoRaMacPayloadEncrypt aes c (Blocks.after aes [(c, fun _ => 0)])
                fun _ => 0).encBuffer }
          (Blocks.after aes history') decBuffer).encBuffer.read 0 c.size.toNat =
        c.buffer.read 0 c.size.toNat) ∧
      (LoRaMacPayloadEncrypt aes c (Blocks.after aes [(c, fun _ => 0)]) fun _ => 0).fed.Nodup := by
  intro c aes
  have h := payload_involution aes c (by decide) [(c, fun _ => 0)] fun _ => 0
  exact ⟨h.1, h.2.2.2.1⟩

end loranode.crypto
