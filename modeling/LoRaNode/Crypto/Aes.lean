import LoRaNode.Lib.Memory
import LoRaNode.Lib.Rijndael
import Mathlib.Data.Fintype.EquivFin
import Mathlib.Tactic.FinCases

open rijndael

namespace loranode.aes

def N_BLOCK : Nat := 16

/-- The S-box data values. -/
def sb_data : List UInt8 :=
  [0x63, 0x7c, 0x77, 0x7b, 0xf2, 0x6b, 0x6f, 0xc5, 0x30, 0x01, 0x67, 0x2b, 0xfe, 0xd7, 0xab, 0x76,
  0xca, 0x82, 0xc9, 0x7d, 0xfa, 0x59, 0x47, 0xf0, 0xad, 0xd4, 0xa2, 0xaf, 0x9c, 0xa4, 0x72, 0xc0,
  0xb7, 0xfd, 0x93, 0x26, 0x36, 0x3f, 0xf7, 0xcc, 0x34, 0xa5, 0xe5, 0xf1, 0x71, 0xd8, 0x31, 0x15,
  0x04, 0xc7, 0x23, 0xc3, 0x18, 0x96, 0x05, 0x9a, 0x07, 0x12, 0x80, 0xe2, 0xeb, 0x27, 0xb2, 0x75,
  0x09, 0x83, 0x2c, 0x1a, 0x1b, 0x6e, 0x5a, 0xa0, 0x52, 0x3b, 0xd6, 0xb3, 0x29, 0xe3, 0x2f, 0x84,
  0x53, 0xd1, 0x00, 0xed, 0x20, 0xfc, 0xb1, 0x5b, 0x6a, 0xcb, 0xbe, 0x39, 0x4a, 0x4c, 0x58, 0xcf,
  0xd0, 0xef, 0xaa, 0xfb, 0x43, 0x4d, 0x33, 0x85, 0x45, 0xf9, 0x02, 0x7f, 0x50, 0x3c, 0x9f, 0xa8,
  0x51, 0xa3, 0x40, 0x8f, 0x92, 0x9d, 0x38, 0xf5, 0xbc, 0xb6, 0xda, 0x21, 0x10, 0xff, 0xf3, 0xd2,
  0xcd, 0x0c, 0x13, 0xec, 0x5f, 0x97, 0x44, 0x17, 0xc4, 0xa7, 0x7e, 0x3d, 0x64, 0x5d, 0x19, 0x73,
  0x60, 0x81, 0x4f, 0xdc, 0x22, 0x2a, 0x90, 0x88, 0x46, 0xee, 0xb8, 0x14, 0xde, 0x5e, 0x0b, 0xdb,
  0xe0, 0x32, 0x3a, 0x0a, 0x49, 0x06, 0x24, 0x5c, 0xc2, 0xd3, 0xac, 0x62, 0x91, 0x95, 0xe4, 0x79,
  0xe7, 0xc8, 0x37, 0x6d, 0x8d, 0xd5, 0x4e, 0xa9, 0x6c, 0x56, 0xf4, 0xea, 0x65, 0x7a, 0xae, 0x08,
  0xba, 0x78, 0x25, 0x2e, 0x1c, 0xa6, 0xb4, 0xc6, 0xe8, 0xdd, 0x74, 0x1f, 0x4b, 0xbd, 0x8b, 0x8a,
  0x70, 0x3e, 0xb5, 0x66, 0x48, 0x03, 0xf6, 0x0e, 0x61, 0x35, 0x57, 0xb9, 0x86, 0xc1, 0x1d, 0x9e,
  0xe1, 0xf8, 0x98, 0x11, 0x69, 0xd9, 0x8e, 0x94, 0x9b, 0x1e, 0x87, 0xe9, 0xce, 0x55, 0x28, 0xdf,
  0x8c, 0xa1, 0x89, 0x0d, 0xbf, 0xe6, 0x42, 0x68, 0x41, 0x99, 0x2d, 0x0f, 0xb0, 0x54, 0xbb, 0x16]

/-- The inverse S-box data values. -/
def isb_data : List UInt8 :=
  [0x52, 0x09, 0x6a, 0xd5, 0x30, 0x36, 0xa5, 0x38, 0xbf, 0x40, 0xa3, 0x9e, 0x81, 0xf3, 0xd7, 0xfb,
  0x7c, 0xe3, 0x39, 0x82, 0x9b, 0x2f, 0xff, 0x87, 0x34, 0x8e, 0x43, 0x44, 0xc4, 0xde, 0xe9, 0xcb,
  0x54, 0x7b, 0x94, 0x32, 0xa6, 0xc2, 0x23, 0x3d, 0xee, 0x4c, 0x95, 0x0b, 0x42, 0xfa, 0xc3, 0x4e,
  0x08, 0x2e, 0xa1, 0x66, 0x28, 0xd9, 0x24, 0xb2, 0x76, 0x5b, 0xa2, 0x49, 0x6d, 0x8b, 0xd1, 0x25,
  0x72, 0xf8, 0xf6, 0x64, 0x86, 0x68, 0x98, 0x16, 0xd4, 0xa4, 0x5c, 0xcc, 0x5d, 0x65, 0xb6, 0x92,
  0x6c, 0x70, 0x48, 0x50, 0xfd, 0xed, 0xb9, 0xda, 0x5e, 0x15, 0x46, 0x57, 0xa7, 0x8d, 0x9d, 0x84,
  0x90, 0xd8, 0xab, 0x00, 0x8c, 0xbc, 0xd3, 0x0a, 0xf7, 0xe4, 0x58, 0x05, 0xb8, 0xb3, 0x45, 0x06,
  0xd0, 0x2c, 0x1e, 0x8f, 0xca, 0x3f, 0x0f, 0x02, 0xc1, 0xaf, 0xbd, 0x03, 0x01, 0x13, 0x8a, 0x6b,
  0x3a, 0x91, 0x11, 0x41, 0x4f, 0x67, 0xdc, 0xea, 0x97, 0xf2, 0xcf, 0xce, 0xf0, 0xb4, 0xe6, 0x73,
  0x96, 0xac, 0x74, 0x22, 0xe7, 0xad, 0x35, 0x85, 0xe2, 0xf9, 0x37, 0xe8, 0x1c, 0x75, 0xdf, 0x6e,
  0x47, 0xf1, 0x1a, 0x71, 0x1d, 0x29, 0xc5, 0x89, 0x6f, 0xb7, 0x62, 0x0e, 0xaa, 0x18, 0xbe, 0x1b,
  0xfc, 0x56, 0x3e, 0x4b, 0xc6, 0xd2, 0x79, 0x20, 0x9a, 0xdb, 0xc0, 0xfe, 0x78, 0xcd, 0x5a, 0xf4,
  0x1f, 0xdd, 0xa8, 0x33, 0x88, 0x07, 0xc7, 0x31, 0xb1, 0x12, 0x10, 0x59, 0x27, 0x80, 0xec, 0x5f,
  0x60, 0x51, 0x7f, 0xa9, 0x19, 0xb5, 0x4a, 0x0d, 0x2d, 0xe5, 0x7a, 0x9f, 0x93, 0xc9, 0x9c, 0xef,
  0xa0, 0xe0, 0x3b, 0x4d, 0xae, 0x2a, 0xf5, 0xb0, 0xc8, 0xeb, 0xbb, 0x3c, 0x83, 0x53, 0x99, 0x61,
  0x17, 0x2b, 0x04, 0x7e, 0xba, 0x77, 0xd6, 0x26, 0xe1, 0x69, 0x14, 0x63, 0x55, 0x21, 0x0c, 0x7d]

/-- `f2`, cut to the 8 bits that its results are stored in: `WPOLY` is 0x1b then. -/
def f2 (x : UInt8) : UInt8 := x <<< 1 ^^^ (x >>> 7 &&& 1) * 0x1b

def f3 (x : UInt8) : UInt8 := f2 x ^^^ x

def sbox : List UInt8 := sb_data

def gfm2_sbox : List UInt8 := sb_data.map f2

def gfm3_sbox : List UInt8 := sb_data.map f3

def s_box (x : UInt8) : UInt8 := sbox.getD x.toNat 0

def gfm2_sb (x : UInt8) : UInt8 := gfm2_sbox.getD x.toNat 0

def gfm3_sb (x : UInt8) : UInt8 := gfm3_sbox.getD x.toNat 0

/-- The key schedule, and the number of rounds: 0 when there is no key. -/
structure aes_context where
  ksch : Mem
  rnd : UInt8

/-- A block of `N_BLOCK` bytes. -/
abbrev uint8_block := Vector UInt8 16

-- a name of its own, so that an index into a block does not carry the proof
scoped instance neZero_block : NeZero 16 := ⟨by decide⟩

/-- The assignment to one byte of a block. -/
def setByte (st : uint8_block) (i : Fin 16) (b : UInt8) : uint8_block := st.set i b

/-- `ctx->ksch + r * N_BLOCK`. -/
def aes_context.key (ctx : aes_context) (r : Nat) : uint8_block :=
  Vector.ofFn fun i => ctx.ksch (r * N_BLOCK + i)

def xor_block (d s : uint8_block) : uint8_block := Vector.zipWith (· ^^^ ·) d s

def copy_and_key (s k : uint8_block) : uint8_block := Vector.zipWith (· ^^^ ·) s k

def add_round_key (d k : uint8_block) : uint8_block := xor_block d k

def shift_sub_rows (st : uint8_block) : uint8_block :=
  let st := setByte st 0 (s_box (st.get 0))
  let st := setByte st 4 (s_box (st.get 4))
  let st := setByte st 8 (s_box (st.get 8))
  let st := setByte st 12 (s_box (st.get 12))
  let tt := st.get 1
  let st := setByte st 1 (s_box (st.get 5))
  let st := setByte st 5 (s_box (st.get 9))
  let st := setByte st 9 (s_box (st.get 13))
  let st := setByte st 13 (s_box tt)
  let tt := st.get 2
  let st := setByte st 2 (s_box (st.get 10))
  let st := setByte st 10 (s_box tt)
  let tt := st.get 6
  let st := setByte st 6 (s_box (st.get 14))
  let st := setByte st 14 (s_box tt)
  let tt := st.get 15
  let st := setByte st 15 (s_box (st.get 11))
  let st := setByte st 11 (s_box (st.get 7))
  let st := setByte st 7 (s_box (st.get 3))
  setByte st 3 (s_box tt)

def mix_sub_columns (dt : uint8_block) : uint8_block :=
  let st := dt.get
  #v[gfm2_sb (st 0) ^^^ gfm3_sb (st 5) ^^^ s_box (st 10) ^^^ s_box (st 15),
  s_box (st 0) ^^^ gfm2_sb (st 5) ^^^ gfm3_sb (st 10) ^^^ s_box (st 15),
  s_box (st 0) ^^^ s_box (st 5) ^^^ gfm2_sb (st 10) ^^^ gfm3_sb (st 15),
  gfm3_sb (st 0) ^^^ s_box (st 5) ^^^ s_box (st 10) ^^^ gfm2_sb (st 15),
  gfm2_sb (st 4) ^^^ gfm3_sb (st 9) ^^^ s_box (st 14) ^^^ s_box (st 3),
  s_box (st 4) ^^^ gfm2_sb (st 9) ^^^ gfm3_sb (st 14) ^^^ s_box (st 3),
  s_box (st 4) ^^^ s_box (st 9) ^^^ gfm2_sb (st 14) ^^^ gfm3_sb (st 3),
  gfm3_sb (st 4) ^^^ s_box (st 9) ^^^ s_box (st 14) ^^^ gfm2_sb (st 3),
  gfm2_sb (st 8) ^^^ gfm3_sb (st 13) ^^^ s_box (st 2) ^^^ s_box (st 7),
  s_box (st 8) ^^^ gfm2_sb (st 13) ^^^ gfm3_sb (st 2) ^^^ s_box (st 7),
  s_box (st 8) ^^^ s_box (st 13) ^^^ gfm2_sb (st 2) ^^^ gfm3_sb (st 7),
  gfm3_sb (st 8) ^^^ s_box (st 13) ^^^ s_box (st 2) ^^^ gfm2_sb (st 7),
  gfm2_sb (st 12) ^^^ gfm3_sb (st 1) ^^^ s_box (st 6) ^^^ s_box (st 11),
  s_box (st 12) ^^^ gfm2_sb (st 1) ^^^ gfm3_sb (st 6) ^^^ s_box (st 11),
  s_box (st 12) ^^^ s_box (st 1) ^^^ gfm2_sb (st 6) ^^^ gfm3_sb (st 11),
  gfm3_sb (st 12) ^^^ s_box (st 1) ^^^ s_box (st 6) ^^^ gfm2_sb (st 11)]

/-- The bytes `t0` to `t3`, and the next `rc`. -/
def nextBytes (keylen cc : Nat) (rc : UInt8) (ksch : Mem) : List UInt8 × UInt8 :=
  let t0 := ksch (cc - 4)
  let t1 := ksch (cc - 3)
  let t2 := ksch (cc - 2)
  let t3 := ksch (cc - 1)
  if cc % keylen = 0 then ([s_box t1 ^^^ rc, s_box t2, s_box t3, s_box t0], f2 rc)
  else if 24 < keylen ∧ cc % keylen = 16 then ([s_box t0, s_box t1, s_box t2, s_box t3], rc)
  else ([t0, t1, t2, t3], rc)

/-- The loop of `aes_set_key`. `tt` lies at least 16 bytes before `cc`, so that none of the four
assignments of a turn reads what another one has written. -/
def expand (keylen hi cc : Nat) (rc : UInt8) (ksch : Mem) : Mem :=
  if cc < hi then
    let (t, rc) := nextBytes keylen cc rc ksch
    let tt := cc - keylen
    expand keylen hi (cc + 4) rc
      (ksch.write cc ((List.range 4).map fun j => ksch (tt + j) ^^^ t.getD j 0))
  else ksch
termination_by hi - cc

/-- `aes_set_key`. The bounds of the loop fit in 8 bits for the three lengths. -/
def aes_set_key (key : Mem) (keylen : UInt8) (ctx : aes_context) : UInt8 × aes_context :=
  if keylen = 16 ∨ keylen = 24 ∨ keylen = 32 then
    let ksch := ctx.ksch.write 0 (key.read 0 keylen.toNat)
    let hi := (keylen + 28) <<< 2
    (0, ⟨expand keylen.toNat hi.toNat keylen.toNat 1 ksch, (hi >>> 4) - 1⟩)
  else (0xFF, { ctx with rnd := 0 })

/-- `aes_encrypt`: the value it returns, and what it leaves in `out`. -/
def aes_encrypt (inp out : uint8_block) (ctx : aes_context) : UInt8 × uint8_block :=
  if ctx.rnd ≠ 0 then
    let s1 := copy_and_key inp (ctx.key 0)
    let s1 := (List.range' 1 (ctx.rnd.toNat - 1)).foldl
      (fun s1 r => add_round_key (mix_sub_columns s1) (ctx.key r)) s1
    (0, copy_and_key (shift_sub_rows s1) (ctx.key ctx.rnd.toNat))
  else (0xFF, out)

/-- The data of the table are the values of the S-box of the standard. -/
theorem sb_data_eq : sb_data = (List.range 256).map fun n => rijndael.sbox (UInt8.ofNat n) := by
  decide +kernel

theorem s_box_eq : s_box = rijndael.sbox := by
  funext b
  have hb : b.toNat < (List.range 256).length := by simpa using b.toNat_lt
  rw [s_box, sbox, sb_data_eq, List.getD_eq_getElem _ _ (by simpa using hb), List.getElem_map,
    List.getElem_range, UInt8.ofNat_toNat]

/-- A table that is computed from the S-box. -/
theorem getD_map_sb_data (f : UInt8 → UInt8) (b : UInt8) :
    (sb_data.map f).getD b.toNat 0 = f (s_box b) := by
  have hb : b.toNat < sb_data.length := by
    rw [sb_data_eq]
    simpa using b.toNat_lt
  rw [s_box, sbox, List.getD_eq_getElem _ _ (by simpa using hb), List.getD_eq_getElem _ _ hb,
    List.getElem_map]

theorem f2_eq (b : UInt8) : f2 b = mul 2 b := by
  have htop : (b >>> 7 &&& 1 : UInt8) = b >>> 7 := by
    rw [← UInt8.toNat_inj, UInt8.toNat_and, UInt8.toNat_shiftRight]
    have := b.toNat_lt
    simp [Nat.shiftRight_eq_div_pow]
    omega
  rw [f2, mul_two, htop]

theorem f3_eq (b : UInt8) : f3 b = mul 3 b := by
  rw [f3, f2_eq, mul_three]

theorem get_copy_and_key (s k : uint8_block) :
    (copy_and_key s k).get = addRoundKey k.get s.get := by
  funext i
  change (Vector.zipWith (· ^^^ ·) s k)[i] = s[i] ^^^ k[i]
  simp

theorem get_add_round_key (d k : uint8_block) : (add_round_key d k).get = addRoundKey k.get d.get :=
  get_copy_and_key d k

theorem get_setByte (st : uint8_block) (i j : Fin 16) (b : UInt8) :
    (setByte st i b).get j = if j = i then b else st.get j := by
  change (st.set i.val b)[j.val] = if j = i then b else st[j.val]
  simp only [Vector.getElem_set, Fin.ext_iff, eq_comm]

theorem get_shift_sub_rows (st : uint8_block) :
    (shift_sub_rows st).get = shiftRows (subBytes s_box st.get) := by
  funext i
  simp only [shift_sub_rows, get_setByte]
  fin_cases i <;> rfl

theorem get_mix_sub_columns (dt : uint8_block) :
    (mix_sub_columns dt).get = mixColumns (shiftRows (subBytes s_box dt.get)) := by
  funext i
  have hcolumn : ∀ i, mixColumns (shiftRows (subBytes s_box dt.get)) i =
      gfm2_sb (dt.get (5 * below i 0)) ^^^ gfm3_sb (dt.get (5 * below i 1)) ^^^
        s_box (dt.get (5 * below i 2)) ^^^ s_box (dt.get (5 * below i 3)) := by
    intro i
    simp only [mixColumns, shiftRows, subBytes, gfm2_sb, gfm3_sb, gfm2_sbox, gfm3_sbox,
      getD_map_sb_data, f2_eq,
      f3_eq]
  have hrow1 : ∀ a b c d : UInt8, a ^^^ b ^^^ c ^^^ d = b ^^^ c ^^^ d ^^^ a := by intros; ac_rfl
  have hrow2 : ∀ a b c d : UInt8, a ^^^ b ^^^ c ^^^ d = c ^^^ d ^^^ a ^^^ b := by intros; ac_rfl
  have hrow3 : ∀ a b c d : UInt8, a ^^^ b ^^^ c ^^^ d = d ^^^ a ^^^ b ^^^ c := by intros; ac_rfl
  rw [hcolumn]
  fin_cases i
  · rfl
  · exact hrow1 _ _ _ _
  · exact hrow2 _ _ _ _
  · exact hrow3 _ _ _ _
  · rfl
  · exact hrow1 _ _ _ _
  · exact hrow2 _ _ _ _
  · exact hrow3 _ _ _ _
  · rfl
  · exact hrow1 _ _ _ _
  · exact hrow2 _ _ _ _
  · exact hrow3 _ _ _ _
  · rfl
  · exact hrow1 _ _ _ _
  · exact hrow2 _ _ _ _
  · exact hrow3 _ _ _ _

theorem get_key (ctx : aes_context) (r : Nat) (i : Fin 16) :
    (ctx.key r).get i = ctx.ksch (r * N_BLOCK + i) := by
  change (Vector.ofFn fun i : Fin 16 => ctx.ksch (r * N_BLOCK + i))[i.val] = _
  rw [Vector.getElem_ofFn]

/-- The loop over the rounds. -/
theorem get_foldl_rounds (ctx : aes_context) (s1 : uint8_block) (n : Nat) :
    ((List.range' 1 n).foldl (fun s1 r => add_round_key (mix_sub_columns s1) (ctx.key r))
      (copy_and_key s1 (ctx.key 0))).get = rounds s_box (fun r => (ctx.key r).get) s1.get n := by
  induction n with
  | zero => exact get_copy_and_key s1 (ctx.key 0)
  | succ n ih =>
    rw [List.range'_1_concat, List.foldl_append, List.foldl_cons, List.foldl_nil, get_add_round_key,
      get_mix_sub_columns, ih, Nat.add_comm 1 n]
    rfl

/-- `aes_encrypt` with a key schedule of any length, against the cipher with its round keys. -/
theorem aes_encrypt_eq {ctx : aes_context} {n : Nat} (hrnd : ctx.rnd.toNat = n + 1)
    (inp out : uint8_block) :
    (aes_encrypt inp out ctx).1 = 0 ∧
      (aes_encrypt inp out ctx).2.get = cipher s_box n (fun r => (ctx.key r).get) inp.get := by
  have hne : ctx.rnd ≠ 0 := by
    rintro h
    simp [h] at hrnd
  rw [aes_encrypt, if_pos hne, hrnd]
  refine ⟨rfl, ?_⟩
  rw [get_copy_and_key, get_shift_sub_rows, Nat.add_sub_cancel, get_foldl_rounds]
  rfl

/-- The words of the schedule up to `i` are those of the expanded key. -/
def Expanded (nk : Nat) (key ksch : Mem) (i : Nat) : Prop :=
  ∀ w < i, ∀ j : Fin 4, ksch (4 * w + j) = keyWord s_box nk key w j

theorem nextBytes_eq {nk i : Nat} {key ksch : Mem} (hnk : 0 < nk) (hi : nk ≤ i)
    (hksch : Expanded nk key ksch i) :
    (nextBytes (4 * nk) (4 * i) ((mul 2)^[(i - 1) / nk] 1) ksch).2 = (mul 2)^[i / nk] 1 ∧
      ∀ j : Fin 4, (nextBytes (4 * nk) (4 * i) ((mul 2)^[(i - 1) / nk] 1) ksch).1.getD j 0 =
        keyWordMask s_box nk i (keyWord s_box nk key (i - 1)) j := by
  have hprev : ∀ (d : Nat) (j : Fin 4), d + j = 4 →
      ksch (4 * i - d) = keyWord s_box nk key (i - 1) j := by
    intro d j hd
    rw [← hksch (i - 1) (by omega) j]
    congr 1
    omega
  simp only [nextBytes, keyWordMask, hprev 4 0 rfl, hprev 3 1 rfl, hprev 2 2 rfl, hprev 1 3 rfl,
    Nat.mul_mod_mul_left]
  have hdiv : i / nk = (i - 1) / nk + if i % nk = 0 then 1 else 0 := by
    obtain ⟨m, rfl⟩ := Nat.exists_eq_add_of_lt (show 0 < i by omega)
    simp [Nat.succ_div, Nat.dvd_iff_mod_eq_zero]
  by_cases hzero : i % nk = 0
  · rw [if_pos (by omega), if_pos hzero, hdiv, if_pos hzero, Function.iterate_succ_apply', f2_eq]
    refine ⟨rfl, fun j => ?_⟩
    fin_cases j <;> simp
  · rw [if_neg (by omega), if_neg hzero, hdiv, if_neg hzero]
    by_cases hfour : 6 < nk ∧ i % nk = 4
    · rw [if_pos (by omega), if_pos hfour]
      refine ⟨rfl, fun j => ?_⟩
      fin_cases j <;> rfl
    · rw [if_neg (by omega), if_neg hfour]
      refine ⟨rfl, fun j => ?_⟩
      fin_cases j <;> rfl

/-- One turn of the loop completes a word. -/
theorem Expanded.write {nk i : Nat} {key ksch : Mem} {t : List UInt8} (hnk : 0 < nk) (hi : nk ≤ i)
    (hksch : Expanded nk key ksch i)
    (ht : ∀ j : Fin 4, t.getD j 0 = keyWordMask s_box nk i (keyWord s_box nk key (i - 1)) j) :
    Expanded nk key (ksch.write (4 * i)
      ((List.range 4).map fun j => ksch (4 * i - 4 * nk + j) ^^^ t.getD j 0)) (i + 1) := by
  intro w hw j
  rcases Nat.lt_succ_iff_lt_or_eq.mp hw with hlt | rfl
  · rw [Mem.write_of_lt (by omega)]
    exact hksch w hlt j
  · have hback : 4 * w - 4 * nk + j = 4 * (w - nk) + j := by omega
    have hj : (j : Nat) <
        ((List.range 4).map fun j => ksch (4 * w - 4 * nk + j) ^^^ t.getD j 0).length := by
      simp
    rw [Mem.write_of_mem hj, List.getD_eq_getElem _ _ hj, List.getElem_map, List.getElem_range, ht,
      hback,
      hksch (w - nk) (by omega), keyWord.eq_1 s_box nk key w, if_neg (by omega)]

/-- The loop from word `i` on, to word `n`. -/
theorem expanded_expand {nk n : Nat} {key : Mem} (hnk : 0 < nk) (d : Nat) :
    ∀ {i : Nat} {ksch : Mem}, i + d = n → nk ≤ i → Expanded nk key ksch i →
      Expanded nk key (expand (4 * nk) (4 * n) (4 * i) ((mul 2)^[(i - 1) / nk] 1) ksch) n := by
  induction d with
  | zero =>
    intro i ksch hd hi hksch
    rw [expand, if_neg (by omega)]
    rwa [← hd]
  | succ d ih =>
    intro i ksch hd hi hksch
    obtain ⟨hrc, ht⟩ := nextBytes_eq hnk hi hksch
    rw [expand, if_pos (by omega)]
    have hnext := ih (i := i + 1) (by omega) (by omega) (hksch.write hnk hi ht)
    rwa [Nat.add_sub_cancel, ← hrc] at hnext

theorem expanded_start (nk : Nat) (key ksch : Mem) :
    Expanded nk key (ksch.write 0 (key.read 0 (4 * nk))) nk := by
  intro w hw j
  have hj : 4 * w + j < (key.read 0 (4 * nk)).length := by
    rw [Mem.length_read]
    omega
  have hread : ksch.write 0 (key.read 0 (4 * nk)) (0 + (4 * w + j)) = _ := Mem.write_of_mem hj
  rw [Nat.zero_add] at hread
  rw [hread, Mem.getD_read _ _ _ _ (by simpa using hj), Nat.zero_add, keyWord, if_pos (.inl hw)]

theorem aes_set_key_of_length {nk : Nat} (hnk : nk = 4 ∨ nk = 6 ∨ nk = 8) (key : Mem)
    (ctx : aes_context) :
    aes_set_key key (UInt8.ofNat (4 * nk)) ctx =
      (0, ⟨expand (4 * nk) (4 * (4 * (nk + 7))) (4 * nk) 1
        (ctx.ksch.write 0 (key.read 0 (4 * nk))), UInt8.ofNat (nk + 6)⟩) := by
  rcases hnk with rfl | rfl | rfl <;> rfl

/-- The round keys that `aes_set_key` leaves, for a key of `nk` words. -/
theorem get_key_aes_set_key {nk : Nat} (hnk : nk = 4 ∨ nk = 6 ∨ nk = 8) (key : Mem)
    (ctx : aes_context) {r : Nat} (hr : r ≤ nk + 6) :
    ((aes_set_key key (UInt8.ofNat (4 * nk)) ctx).2.key r).get = roundKey s_box nk key r := by
  have hksch := expanded_expand (n := 4 * (nk + 7)) (by omega) (3 * nk + 28) (by omega)
    (Nat.le_refl nk) (expanded_start nk key ctx.ksch)
  rw [Nat.div_eq_of_lt (by omega), Function.iterate_zero_apply] at hksch
  rw [aes_set_key_of_length hnk]
  funext i
  have hword := hksch (4 * r + i / 4) (by omega) ⟨i % 4, by omega⟩
  have hindex : 4 * (4 * r + i / 4) + i % 4 = r * N_BLOCK + i := by
    rw [N_BLOCK]
    omega
  rw [hindex] at hword
  rw [get_key]
  exact hword

/-- The S-box undoes the inverse table. -/
theorem map_s_box_isb_data : isb_data.map s_box = (List.range 256).map UInt8.ofNat := by
  decide +kernel

theorem bijective_s_box : Function.Bijective s_box := by
  have : Finite UInt8 :=
    Finite.of_injective UInt8.toFin fun _ _ h => UInt8.toNat_inj.mp (congrArg Fin.val h)
  apply Finite.surjective_iff_bijective.mp
  intro b
  have hb : b ∈ isb_data.map s_box := by
    rw [map_s_box_isb_data, List.mem_map]
    exact ⟨b.toNat, List.mem_range.mpr b.toNat_lt, UInt8.ofNat_toNat⟩
  obtain ⟨a, -, ha⟩ := List.mem_map.mp hb
  exact ⟨a, ha⟩

/-- `aes_encrypt` with a key of `nk` words. -/
theorem aes_encrypt_of_words {nk : Nat} (hnk : nk = 4 ∨ nk = 6 ∨ nk = 8) (key : Mem)
    (ctx : aes_context) (inp out : uint8_block) :
    let e := aes_encrypt inp out (aes_set_key key (UInt8.ofNat (4 * nk)) ctx).2
    e.1 = 0 ∧
      e.2.get = cipher rijndael.sbox (nk + 5) (roundKey rijndael.sbox nk key) inp.get := by
  have hrnd : (aes_set_key key (UInt8.ofNat (4 * nk)) ctx).2.rnd.toNat = (nk + 5) + 1 := by
    rw [aes_set_key_of_length hnk]
    rcases hnk with rfl | rfl | rfl <;> rfl
  obtain ⟨hreturned, hout⟩ := aes_encrypt_eq hrnd inp out
  refine ⟨hreturned, ?_⟩
  rw [hout, ← s_box_eq]
  exact cipher_congr (fun r hr => get_key_aes_set_key hnk key ctx hr) inp.get

/-- For each of the three lengths, `aes_set_key` and `aes_encrypt` compute the cipher of the
standard, whatever the context held before. A key of another length is refused, and nothing is
enciphered with it. -/
theorem aes_encrypt_aes_set_key (key : Mem) (keylen : UInt8) (ctx : aes_context)
    (inp out : uint8_block) :
    let nk := keylen.toNat / 4
    let r := aes_set_key key keylen ctx
    let e := aes_encrypt inp out r.2
    if keylen = 16 ∨ keylen = 24 ∨ keylen = 32 then
      r.1 = 0 ∧ e.1 = 0 ∧
        e.2.get = cipher rijndael.sbox (nk + 5) (roundKey rijndael.sbox nk key) inp.get
    else r.1 = 0xFF ∧ e = (0xFF, out) := by
  intro nk r e
  split
  case isTrue hlen =>
    have hnk : nk = 4 ∨ nk = 6 ∨ nk = 8 := by
      rcases hlen with rfl | rfl | rfl <;> decide
    have hkeylen : keylen = UInt8.ofNat (4 * nk) := by
      rcases hlen with rfl | rfl | rfl <;> decide
    have hr : r = aes_set_key key (UInt8.ofNat (4 * nk)) ctx :=
      congrArg (aes_set_key key · ctx) hkeylen
    have he := aes_encrypt_of_words hnk key ctx inp out
    rw [← hr] at he
    refine ⟨?_, he⟩
    rw [hr, aes_set_key_of_length hnk]
  case isFalse hlen =>
    have hr : r = (0xFF, { ctx with rnd := 0 }) := if_neg hlen
    refine ⟨by rw [hr], ?_⟩
    change aes_encrypt inp out r.2 = (0xFF, out)
    rw [hr]
    rfl

end loranode.aes
