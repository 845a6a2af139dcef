import LoRaNode.Crypto.Aes
import LoRaNode.Lib.Cmac

open loranode.aes

namespace loranode.cmac

def AES_CMAC_KEY_LENGTH : UInt8 := 16

structure AES_CMAC_CTX where
  rijndael : aes_context
  X : uint8_block
  M_last : uint8_block
  M_n : UInt32

/-- The 16 bytes that a pointer gives. -/
def load (data : Mem) : uint8_block := Vector.ofFn fun i => data i

/-- `memcpy1` of `src` to `dst + off`. -/
def memcpy1 (dst : uint8_block) (off : Nat) (src : List UInt8) : uint8_block :=
  Vector.ofFn fun i => if off ≤ i.val ∧ i.val < off + src.length then src.getD (i - off) 0
    else dst.get i

/-- `LSHIFT`, which may work in place: no byte is read after it has been assigned. -/
def LSHIFT (v : uint8_block) : uint8_block :=
  Vector.ofFn fun i =>
    if h : i.val < 15 then v.get i <<< 1 ||| v.get ⟨i + 1, by omega⟩ >>> 7 else v.get 15 <<< 1

/-- `XOR`: the new contents of `r`. -/
def XOR (v r : uint8_block) : uint8_block := Vector.zipWith (· ^^^ ·) r v

def AES_CMAC_Init (ctx : AES_CMAC_CTX) : AES_CMAC_CTX :=
  { ctx with
    X := Vector.replicate 16 0
    M_n := 0
    rijndael := { ctx.rijndael with ksch := ctx.rijndael.ksch.write 0 (List.replicate 240 0) } }

def AES_CMAC_SetKey (ctx : AES_CMAC_CTX) (key : Mem) : AES_CMAC_CTX :=
  { ctx with rijndael := (aes_set_key key AES_CMAC_KEY_LENGTH ctx.rijndael).2 }

/-- A block is added to `X`, and the sum is enciphered. -/
def absorb (ctx : AES_CMAC_CTX) (block : uint8_block) : AES_CMAC_CTX :=
  let X := XOR block ctx.X
  { ctx with X := (aes_encrypt X X ctx.rijndael).2 }

/-- The loop of `AES_CMAC_Update`, and what follows it. -/
def updateBlocks (ctx : AES_CMAC_CTX) (data : Mem) (len : UInt32) : AES_CMAC_CTX :=
  if 16 < len then updateBlocks (absorb ctx (load data)) (data.drop 16) (len - 16)
  else { ctx with M_last := memcpy1 ctx.M_last 0 (data.read 0 len.toNat), M_n := len }
termination_by len.toNat
decreasing_by
  next hlen =>
  have hlt : (16 : UInt32).toNat < len.toNat := UInt32.lt_iff_toNat_lt.mp hlen
  rw [UInt32.toNat_sub_of_le _ _ (UInt32.le_of_lt hlen)]
  exact Nat.sub_lt (Nat.zero_lt_of_lt hlt) (by decide)

def AES_CMAC_Update (ctx : AES_CMAC_CTX) (data : Mem) (len : UInt32) : AES_CMAC_CTX :=
  if 0 < ctx.M_n then
    let mlen := if 16 - ctx.M_n < len then 16 - ctx.M_n else len
    let ctx := { ctx with
      M_last := memcpy1 ctx.M_last ctx.M_n.toNat (data.read 0 mlen.toNat)
      M_n := ctx.M_n + mlen }
    if ctx.M_n < 16 ∨ len = mlen then ctx
    else updateBlocks (absorb ctx ctx.M_last) (data.drop mlen.toNat) (len - mlen)
  else updateBlocks ctx data len

/-- A subkey from the block before it. -/
def subkey (K : uint8_block) : uint8_block :=
  if K.get 0 &&& 0x80 ≠ 0 then
    let K := LSHIFT K
    setByte K 15 (K.get 15 ^^^ 0x87)
  else LSHIFT K

/-- `AES_CMAC_Final`: the digest, and what is left in the context. -/
def AES_CMAC_Final (ctx : AES_CMAC_CTX) : uint8_block × AES_CMAC_CTX :=
  let K : uint8_block := Vector.replicate 16 0
  let K := (aes_encrypt K K ctx.rijndael).2
  let K := subkey K
  let ctx :=
    if ctx.M_n = 16 then { ctx with M_last := XOR K ctx.M_last }
    else
      let K := subkey K
      let M_last := memcpy1 ctx.M_last ctx.M_n.toNat
        (0x80 :: List.replicate (15 - ctx.M_n.toNat) 0)
      { ctx with M_last := XOR K M_last, M_n := 16 }
  let ctx := { ctx with X := XOR ctx.M_last ctx.X }
  ((aes_encrypt ctx.X ctx.X ctx.rijndael).2, ctx)

/-- The cipher with a key schedule. -/
def encipher (c : aes_context) (block : uint8_block) : uint8_block := (aes_encrypt block block c).2

/-- What a block of the message does to `X`. -/
def step (c : aes_context) (x : uint8_block) (block : List UInt8) : uint8_block :=
  encipher c (cmac.xor x (cmac.ofList block))

theorem load_eq (data : Mem) : load data = cmac.ofList (data.read 0 16) := by
  apply Vector.ext
  intro i hi
  rw [load, cmac.ofList, Vector.getElem_ofFn, Vector.getElem_ofFn, Mem.getD_read _ _ _ _ hi,
    Nat.zero_add]

theorem ofList_toList (block : uint8_block) : cmac.ofList block.toList = block := by
  apply Vector.ext
  intro i hi
  rw [cmac.ofList, Vector.getElem_ofFn, List.getD_eq_getElem _ _ (by simpa using hi),
    Vector.getElem_toList]

theorem toList_ofList {bytes : List UInt8} (h : bytes.length = 16) :
    (cmac.ofList bytes).toList = bytes := by
  apply List.ext_getElem (by simpa using h.symm)
  intro i hi hi'
  rw [Vector.getElem_toList]
  simp only [cmac.ofList, Vector.getElem_ofFn]
  rw [List.getD_eq_getElem _ _ hi']

/-- A copy behind the first `off` bytes of a block extends them. -/
theorem take_memcpy1 (dst : uint8_block) {off : Nat} {src : List UInt8}
    (h : off + src.length ≤ 16) :
    (memcpy1 dst off src).toList.take (off + src.length) = dst.toList.take off ++ src := by
  apply List.ext_getElem
  · simp
    omega
  · intro i hi hi'
    have hlt : i < off + src.length := by
      rw [List.length_take] at hi
      omega
    have hget : (memcpy1 dst off src)[i] =
        if off ≤ i ∧ i < off + src.length then src.getD (i - off) 0
        else dst[i] := by
      simp only [memcpy1, Vector.getElem_ofFn]
      rfl
    rw [List.getElem_take, Vector.getElem_toList, hget]
    rcases Nat.lt_or_ge i off with hlow | hhigh
    · rw [if_neg (by omega), List.getElem_append_left (by simp; omega), List.getElem_take,
        Vector.getElem_toList]
    · have hindex : i - (dst.toList.take off).length = i - off := by
        simp
        omega
      rw [if_pos ⟨hhigh, hlt⟩, List.getElem_append_right (by simp; omega),
        List.getD_eq_getElem _ _ (by omega)]
      simp only [hindex]

/-- The bytes of a part of a message, and those behind it. -/
theorem read_split (data : Mem) {k len : UInt32} (h : k ≤ len) :
    data.read 0 len.toNat = data.read 0 k.toNat ++ (data.drop k.toNat).read 0 (len - k).toNat := by
  have hle : k.toNat ≤ len.toNat := UInt32.le_iff_toNat_le.mp h
  have hadd := Mem.read_add data 0 k.toNat (len.toNat - k.toNat)
  rw [Nat.add_sub_of_le hle, Nat.zero_add] at hadd
  rw [UInt32.toNat_sub_of_le _ _ h, Mem.read_drop, Nat.add_zero]
  exact hadd

theorem read_rest_ne_nil (data : Mem) {k len : UInt32} (h : k < len) :
    (data.drop k.toNat).read 0 (len - k).toNat ≠ [] := by
  have hlt : k.toNat < len.toNat := UInt32.lt_iff_toNat_lt.mp h
  rw [← List.length_pos_iff, Mem.length_read, UInt32.toNat_sub_of_le _ _ (UInt32.le_of_lt h)]
  exact Nat.sub_pos_of_lt hlt

/-- The context has taken the message: all of it but the bytes in `M_last` is in `X`. -/
structure Taken (c : aes_context) (x : uint8_block) (ctx : AES_CMAC_CTX) (message : List UInt8) :
    Prop where
  rijndael : ctx.rijndael = c
  le : ctx.M_n.toNat ≤ 16
  chain : cmac.chain 16 (step c) x message = (ctx.X, ctx.M_last.toList.take ctx.M_n.toNat)

theorem taken_updateBlocks (ctx : AES_CMAC_CTX) (data : Mem) (len : UInt32) :
    Taken ctx.rijndael ctx.X (updateBlocks ctx data len) (data.read 0 len.toNat) := by
  induction ctx, data, len using updateBlocks.induct with
  | case1 ctx data len hlen ih =>
    have hsplit :
        data.read 0 len.toNat = data.read 0 16 ++ (data.drop 16).read 0 (len - 16).toNat :=
      read_split data (UInt32.le_of_lt hlen)
    have hrest : (data.drop 16).read 0 (len - 16).toNat ≠ [] := read_rest_ne_nil data hlen
    have habsorb : (absorb ctx (load data)).X = step ctx.rijndael ctx.X (data.read 0 16) := by
      rw [step, ← load_eq]
      rfl
    rw [updateBlocks, if_pos hlen]
    refine ⟨ih.rijndael, ih.le, ?_⟩
    rw [hsplit, cmac.chain_append_of_length_eq (by decide) (by simp) hrest, ← habsorb]
    exact ih.chain
  | case2 ctx data len hlen =>
    have hle : len.toNat ≤ 16 := by
      rw [UInt32.lt_iff_toNat_lt] at hlen
      exact Nat.le_of_not_lt hlen
    have hlast := take_memcpy1 ctx.M_last
      (show 0 + (data.read 0 len.toNat).length ≤ 16 by simpa using hle)
    rw [updateBlocks, if_neg hlen]
    refine ⟨rfl, hle, ?_⟩
    rw [cmac.chain_of_length_le (by simpa using hle)]
    simpa using hlast.symm

/-- `AES_CMAC_Update` takes up what is left of the message so far. -/
theorem Taken.update {c : aes_context} {x : uint8_block} {ctx : AES_CMAC_CTX} {message : List UInt8}
    (h : Taken c x ctx message) (data : Mem) (len : UInt32) :
    Taken c x (AES_CMAC_Update ctx data len) (message ++ data.read 0 len.toNat) := by
  obtain ⟨rfl, hle, hchain⟩ := h
  have happend : cmac.chain 16 (step ctx.rijndael) x (message ++ data.read 0 len.toNat) = _ :=
    cmac.chain_append (by decide) x message (data.read 0 len.toNat)
  rw [hchain] at happend
  rw [AES_CMAC_Update]
  split
  case isTrue hpos =>
    have hsub : (16 - ctx.M_n).toNat = 16 - ctx.M_n.toNat :=
      UInt32.toNat_sub_of_le _ _ (UInt32.le_iff_toNat_le.mpr hle)
    generalize hmlen : (if 16 - ctx.M_n < len then 16 - ctx.M_n else len) = mlen
    -- either all of the data fit behind the bytes in `M_last`, or they complete the block
    have hcases : mlen.toNat = len.toNat ∧ ctx.M_n.toNat + len.toNat ≤ 16 ∨
        mlen.toNat = 16 - ctx.M_n.toNat ∧ 16 - ctx.M_n.toNat < len.toNat := by
      have hlt_iff : 16 - ctx.M_n < len ↔ 16 - ctx.M_n.toNat < len.toNat := by
        rw [UInt32.lt_iff_toNat_lt, hsub]
      rw [← hmlen]
      split
      next hlt => exact .inr ⟨hsub, hlt_iff.mp hlt⟩
      next hnot => exact .inl ⟨rfl, by rw [hlt_iff] at hnot; omega⟩
    have hle' : ctx.M_n.toNat + (data.read 0 mlen.toNat).length ≤ 16 := by
      rw [Mem.length_read]
      omega
    have hlast := take_memcpy1 ctx.M_last hle'
    rw [Mem.length_read] at hlast hle'
    have hM_n : (ctx.M_n + mlen).toNat = ctx.M_n.toNat + mlen.toNat := by
      rw [UInt32.toNat_add]
      omega
    dsimp only
    rcases hcases with ⟨hall, hfits⟩ | ⟨hpart, hmore⟩
    · have heq : mlen = len := UInt32.toNat_inj.mp hall
      rw [if_pos (.inr heq.symm)]
      refine ⟨rfl, by rw [hM_n]; exact hle', ?_⟩
      rw [happend, hM_n, hlast, heq, cmac.chain_of_length_le (by simp; omega)]
    · have hne : len ≠ mlen := by
        rintro rfl
        omega
      have hfull : ¬ ctx.M_n + mlen < 16 := by
        rw [UInt32.lt_iff_toNat_lt, hM_n]
        change ¬ _ < 16
        omega
      have hblock : ctx.M_n.toNat + mlen.toNat = 16 := by omega
      have hlt : mlen < len := UInt32.lt_iff_toNat_lt.mpr (by omega)
      rw [if_neg (by simp [hne, hfull])]
      rw [hblock, List.take_of_length_le (by simp)] at hlast
      have htaken := taken_updateBlocks (absorb
        { ctx with
          M_last := memcpy1 ctx.M_last ctx.M_n.toNat (data.read 0 mlen.toNat)
          M_n := ctx.M_n + mlen } (memcpy1 ctx.M_last ctx.M_n.toNat (data.read 0 mlen.toNat)))
        (data.drop mlen.toNat) (len - mlen)
      refine ⟨htaken.rijndael, htaken.le, ?_⟩
      rw [happend, read_split data (UInt32.le_of_lt hlt), ← List.append_assoc, ← hlast,
        cmac.chain_append_of_length_eq (by decide) (by simp) (read_rest_ne_nil data hlt)]
      have habsorb := htaken.chain
      simp only [absorb] at habsorb
      rw [step, ofList_toList]
      exact habsorb
  case isFalse hpos =>
    have hzero : ctx.M_n.toNat = 0 := by
      rw [UInt32.lt_iff_toNat_lt] at hpos
      simpa using hpos
    have htaken := taken_updateBlocks ctx data len
    refine ⟨htaken.rijndael, htaken.le, ?_⟩
    rw [happend, hzero, List.take_zero, List.nil_append]
    exact htaken.chain

theorem get_LSHIFT (v : uint8_block) (i : Fin 16) : (LSHIFT v).get i =
    if h : i.val < 15 then v.get i <<< 1 ||| v.get ⟨i + 1, by omega⟩ >>> 7 else v.get 15 <<< 1 := by
  change (LSHIFT v)[i.val] = _
  simp only [LSHIFT, Vector.getElem_ofFn]

theorem get_LSHIFT_last (v : uint8_block) : (LSHIFT v).get 15 = v.get 15 <<< 1 :=
  get_LSHIFT v 15

theorem get_subkey (K : uint8_block) (i : Fin 16) : (subkey K).get i =
    if i = 15 ∧ K.get 0 &&& 0x80 ≠ 0 then (LSHIFT K).get 15 ^^^ 0x87 else (LSHIFT K).get i := by
  rw [subkey]
  split
  next htop =>
    have hset := get_setByte (LSHIFT K) 15 i ((LSHIFT K).get 15 ^^^ 0x87)
    simp only [htop, ne_eq, not_false_eq_true, and_true]
    exact hset
  next htop => rw [if_neg fun h => htop h.2]

/-- The shift of bytes gives the double of a block. -/
theorem subkey_eq (K : uint8_block) : subkey K = cmac.double K := by
  have hget : ∀ i, (subkey K).get i = (cmac.double K).get i := by
    intro i
    rw [get_subkey]
    rcases Nat.lt_or_ge i.val 15 with hi | hi
    · have hne : i ≠ 15 := by
        rintro rfl
        exact absurd hi (by decide)
      rw [cmac.get_double_of_lt K hi, if_neg fun h => hne h.1, get_LSHIFT, dif_pos hi]
    · obtain rfl : i = 15 := Fin.ext (Nat.le_antisymm (Nat.le_of_lt_succ i.isLt) hi)
      rw [cmac.get_double_last, get_LSHIFT_last]
      by_cases htop : K.get 0 &&& 0x80 = 0 <;> simp [htop]
  exact Vector.ext fun i hi => hget ⟨i, hi⟩

theorem replicate_eq_ofList : (Vector.replicate 16 0 : uint8_block) = cmac.ofList [] := by
  decide

theorem length_take_toList (block : uint8_block) {n : Nat} (hn : n ≤ 16) :
    (block.toList.take n).length = n := by
  simpa using hn

/-- The padding that `AES_CMAC_Final` writes behind the bytes in `M_last`. -/
theorem memcpy1_padding (block : uint8_block) {n : Nat} (hn : n < 16) :
    memcpy1 block n (0x80 :: List.replicate (15 - n) 0) =
      cmac.ofList (block.toList.take n ++ [0x80]) := by
  have htake := take_memcpy1 block
    (show n + (0x80 :: List.replicate (15 - n) (0 : UInt8)).length ≤ 16 by simp; omega)
  rw [List.take_of_length_le (by simp; omega)] at htake
  rw [← ofList_toList (memcpy1 _ _ _), htake]
  apply Vector.ext
  intro i hi
  simp only [cmac.ofList, Vector.getElem_ofFn]
  rw [← List.singleton_append, ← List.append_assoc]
  rcases Nat.lt_or_ge i (block.toList.take n ++ [0x80]).length with hlt | hge
  · rw [List.getD_append _ _ _ _ hlt]
  · rw [List.getD_append_right _ _ _ _ hge, List.getD_eq_default _ _ hge,
      List.getD_eq_getElem?_getD, List.getElem?_replicate]
    split <;> rfl

/-- `AES_CMAC_Final` gives the code of the message that was taken. -/
theorem Taken.final {c : aes_context} {ctx : AES_CMAC_CTX} {message : List UInt8}
    (h : Taken c (cmac.ofList []) ctx message) :
    (AES_CMAC_Final ctx).1 = cmac.mac (encipher c) message := by
  obtain ⟨rfl, hle, hchain⟩ := h
  have hmac : cmac.mac (encipher ctx.rijndael) message = encipher ctx.rijndael (cmac.xor ctx.X
      (cmac.lastBlock (encipher ctx.rijndael) (ctx.M_last.toList.take ctx.M_n.toNat))) := by
    change (match cmac.chain 16 (step ctx.rijndael) (cmac.ofList []) message with
      | (x, bytes) => encipher ctx.rijndael
        (cmac.xor x (cmac.lastBlock (encipher ctx.rijndael) bytes))) = _
    rw [hchain]
  rw [hmac, cmac.lastBlock, length_take_toList _ hle, ← replicate_eq_ofList, ← subkey_eq,
    ← subkey_eq, AES_CMAC_Final]
  by_cases hfull : ctx.M_n = 16
  · have hsixteen : ctx.M_n.toNat = 16 := by rw [hfull]; rfl
    rw [if_pos hsixteen, if_pos hfull, hsixteen, List.take_of_length_le (by simp), ofList_toList]
    rfl
  · have hlt : ctx.M_n.toNat < 16 := by
      apply Nat.lt_of_le_of_ne hle
      intro h
      exact hfull (UInt32.toNat_inj.mp h)
    rw [if_neg (Nat.ne_of_lt hlt), if_neg hfull, ← memcpy1_padding _ hlt]
    rfl

/-- The standard cipher with a key of 16 bytes. -/
def aes128 (key : Mem) (block : uint8_block) : uint8_block :=
  Vector.ofFn (rijndael.cipher rijndael.sbox 9 (rijndael.roundKey rijndael.sbox 4 key) block.get)

theorem encipher_aes_set_key (key : Mem) (ctx : aes_context) :
    encipher (aes_set_key key AES_CMAC_KEY_LENGTH ctx).2 = aes128 key := by
  funext block
  have hout := (aes_encrypt_of_words (.inl rfl) key ctx block block).2
  apply Vector.ext
  intro i hi
  rw [aes128, Vector.getElem_ofFn]
  exact congrFun hout ⟨i, hi⟩

/-- The cipher is a permutation of the blocks, so that it has an inverse. -/
theorem bijective_aes128 (key : Mem) : Function.Bijective (aes128 key) := by
  have hcipher := rijndael.bijective_cipher (s_box_eq ▸ bijective_s_box) 9
    (rijndael.roundKey rijndael.sbox 4 key)
  have hget : ∀ f : Fin 16 → UInt8, (Vector.ofFn f).get = f := by
    intro f
    funext i
    change (Vector.ofFn f)[i.val] = f i
    rw [Vector.getElem_ofFn]
  have hofFn : ∀ b : uint8_block, Vector.ofFn b.get = b := by
    intro b
    apply Vector.ext
    intro i hi
    rw [Vector.getElem_ofFn]
    rfl
  constructor
  · intro b b' h
    have hout := congrArg Vector.get h
    rw [aes128, aes128, hget, hget] at hout
    rw [← hofFn b, ← hofFn b', hcipher.1 hout]
  · intro b
    obtain ⟨f, hf⟩ := hcipher.2 b.get
    refine ⟨Vector.ofFn f, ?_⟩
    rw [aes128, hget, hf, hofFn]

/-- The parts of a message: for each a pointer and a length. -/
abbrev Parts := List (Mem × UInt32)

def Parts.message (parts : Parts) : List UInt8 :=
  parts.flatMap fun part => part.1.read 0 part.2.toNat

/-- The calls for a message in parts: a key is set, and the parts are taken one by one. -/
def update (ctx : AES_CMAC_CTX) (key : Mem) (parts : Parts) : AES_CMAC_CTX :=
  parts.foldl (fun ctx part => AES_CMAC_Update ctx part.1 part.2)
    (AES_CMAC_SetKey (AES_CMAC_Init ctx) key)

theorem Taken.foldl {c : aes_context} {x : uint8_block} (parts : Parts) :
    ∀ {ctx : AES_CMAC_CTX} {message : List UInt8}, Taken c x ctx message →
      Taken c x (parts.foldl (fun ctx part => AES_CMAC_Update ctx part.1 part.2) ctx)
        (message ++ parts.message) := by
  induction parts with
  | nil =>
    intro ctx message h
    simpa [Parts.message] using h
  | cons part parts ih =>
    intro ctx message h
    have hnext := ih (h.update part.1 part.2)
    rw [List.append_assoc] at hnext
    exact hnext

theorem taken_update (ctx : AES_CMAC_CTX) (key : Mem) (parts : Parts) :
    Taken (aes_set_key key AES_CMAC_KEY_LENGTH (AES_CMAC_Init ctx).rijndael).2 (cmac.ofList [])
      (update ctx key parts) parts.message := by
  have hstart : Taken (aes_set_key key AES_CMAC_KEY_LENGTH (AES_CMAC_Init ctx).rijndael).2
      (cmac.ofList []) (AES_CMAC_SetKey (AES_CMAC_Init ctx) key) [] := by
    refine ⟨rfl, Nat.zero_le _, ?_⟩
    rw [cmac.chain_of_length_le (Nat.zero_le _), ← replicate_eq_ofList]
    rfl
  exact hstart.foldl parts

theorem digest_update (ctx : AES_CMAC_CTX) (key : Mem) (parts : Parts) :
    (AES_CMAC_Final (update ctx key parts)).1 = cmac.mac (aes128 key) parts.message := by
  rw [← encipher_aes_set_key key (AES_CMAC_Init ctx).rijndael]
  exact (taken_update ctx key parts).final

/-- However a message is cut into parts, and whatever the context held before: `M_last` is never
filled beyond its 16 bytes, and the digest is the CMAC of the whole message with the cipher AES. -/
theorem AES_CMAC_Final_update (ctx : AES_CMAC_CTX) (key : Mem) (parts : Parts) :
    (∀ n, (update ctx key (parts.take n)).M_n ≤ 16) ∧
      (AES_CMAC_Final (update ctx key parts)).1 = cmac.mac (aes128 key) parts.message :=
  ⟨fun n => UInt32.le_iff_toNat_le.mpr (taken_update ctx key (parts.take n)).le,
    digest_update ctx key parts⟩

end loranode.cmac
