import LoRaNode.Crypto.Mic
import LoRaNode.Mac.Decode

open word loranode.aes loranode.cmac loranode.crypto

namespace loranode.mac

open LoRaMacFrameType_t LoRaMacEventInfoStatus_t

/-- What a server sends to a node that joins. -/
structure JoinAccept where
  AppNonce : Vector UInt8 3
  NetID : Vector UInt8 3
  DevAddr : UInt32
  DLSettings : UInt8
  RxDelay : UInt8
  CFList : Option (Vector UInt8 16)

namespace JoinAccept

variable (a : JoinAccept) (key : List UInt8)

/-- The fields between the MAC header and the MIC. -/
def fields : List UInt8 :=
  a.AppNonce.toList ++ a.NetID.toList ++ bytes32 a.DevAddr ++ [a.DLSettings, a.RxDelay] ++
    a.CFList.elim [] Vector.toList

/-- The fields and the MIC, before they are enciphered. -/
def plain : List UInt8 :=
  a.fields ++ bytes32 (micOf (cmac.mac (aes128 (memoryOf key))
    (FRAME_TYPE_JOIN_ACCEPT.header :: a.fields)))

/-- The node has no more than the cipher of the standard, so that the server uses its inverse. -/
noncomputable def decipher (bytes : List UInt8) : List UInt8 :=
  (Function.surjInv (bijective_aes128 (memoryOf key)).2 (cmac.ofList bytes)).toList

/-- The bytes of the frame. -/
noncomputable def frame : List UInt8 :=
  FRAME_TYPE_JOIN_ACCEPT.header :: (decipher key ((a.plain key).take 16) ++
    if a.CFList.isSome then decipher key ((a.plain key).drop 16) else [])

theorem length_fields : a.fields.length = if a.CFList.isSome then 28 else 12 := by
  cases h : a.CFList <;> simp [fields, h, bytes32]

theorem length_plain : (a.plain key).length = if a.CFList.isSome then 32 else 16 := by
  rw [plain, List.length_append, length_fields]
  split <;> rfl

theorem length_decipher (bytes : List UInt8) : (decipher key bytes).length = 16 := by
  simp [decipher]

/-- The node gets back what the server has put through the inverse of the cipher. -/
theorem read_aes_encrypt_decipher (env : Env) {bytes : List UInt8} (hbytes : bytes.length = 16) :
    ((enciphering env).aes_encrypt key (decipher key bytes)).read 0 16 = bytes := by
  have hinverse : aes128 (memoryOf key) (cmac.ofList (decipher key bytes)) = cmac.ofList bytes := by
    rw [decipher, ofList_toList]
    exact Function.surjInv_eq _ _
  have hread := read_memoryOf (cmac.ofList bytes).toList
  rw [Vector.length_toList] at hread
  rw [aes_encrypt_enciphering, hinverse, hread, toList_ofList hbytes]

/-- The frame without the list of channels has 17 bytes, and 33 bytes with it. -/
theorem length_frame : (a.frame key).length = if a.CFList.isSome then 33 else 17 := by
  rw [frame, List.length_cons, List.length_append, length_decipher]
  split
  · rw [length_decipher]
  · rfl

/-- A session key: the cipher of its kind, the nonces of both sides and the network. -/
def sessionKey (kind : UInt8) (devNonce : UInt16) : List UInt8 :=
  (aes128 (memoryOf key) (cmac.ofList ([kind] ++ (a.AppNonce.toList ++ a.NetID.toList) ++
    bytes16 devNonce ++ List.replicate 7 0))).toList

/-- The frequency `k` of the list of channels. -/
def frequency (list : Vector UInt8 16) (k : Nat) : UInt32 :=
  ofBytes32 (list.toList.getD (3 * k) 0) (list.toList.getD (3 * k + 1) 0)
    (list.toList.getD (3 * k + 2) 0) 0 * 100

end JoinAccept

/-- What a node and its server have to agree on. -/
structure Activation where
  DevAddr : UInt32
  NetID : UInt32
  NwkSKey : List UInt8
  AppSKey : List UInt8
  Rx1DrOffset : UInt8
  Rx2Datarate : UInt8
  ReceiveDelay1 : UInt32
  ReceiveDelay2 : UInt32

/-- The session of the node. -/
def Mac.activation (s : Mac) : Activation where
  DevAddr := s.LoRaMacDevAddr
  NetID := s.LoRaMacNetID
  NwkSKey := s.LoRaMacNwkSKey
  AppSKey := s.LoRaMacAppSKey
  Rx1DrOffset := s.LoRaMacParams.Rx1DrOffset
  Rx2Datarate := s.LoRaMacParams.Rx2Channel.Datarate
  ReceiveDelay1 := s.LoRaMacParams.ReceiveDelay1
  ReceiveDelay2 := s.LoRaMacParams.ReceiveDelay2

local instance neZero_three : NeZero 3 := ⟨by decide⟩

/-- The session of the server: a delay is given in seconds, and 0 stands for 1. -/
def JoinAccept.activation (a : JoinAccept) (key : List UInt8) (devNonce : UInt16) : Activation where
  DevAddr := a.DevAddr
  NetID := ofBytes32 (a.NetID.get 0) (a.NetID.get 1) (a.NetID.get 2) 0
  NwkSKey := a.sessionKey key 1 devNonce
  AppSKey := a.sessionKey key 2 devNonce
  Rx1DrOffset := a.DLSettings >>> 4 &&& 0x07
  Rx2Datarate := a.DLSettings &&& 0x0F
  ReceiveDelay1 := (if a.RxDelay &&& 0x0F = 0 then 1 else (a.RxDelay &&& 0x0F).toUInt32) * 1000
  ReceiveDelay2 :=
    (if a.RxDelay &&& 0x0F = 0 then 1 else (a.RxDelay &&& 0x0F).toUInt32) * 1000 + 1000

/-- A channel that is offered takes the place of another one if the radio supports its frequency and
a band holds it. -/
def offered (env : Env) (Frequency : UInt32) (old : ChannelParams_t) : ChannelParams_t :=
  if env.CheckRfFrequency Frequency = true ∧ 0 < Frequency then
    ((bandOfFrequency Frequency).map fun band => ⟨Frequency, 0x50, band⟩).getD old
  else old

/-- Channel `3 + k` of a node that takes the join-accept. -/
def JoinAccept.channel (a : JoinAccept) (env : Env) (k : Nat) (old : ChannelParams_t) :
    ChannelParams_t :=
  a.CFList.elim old fun list => offered env (frequency list k) old

variable {s : Mac} {env : Env} {a : JoinAccept} {frame : RxFrame}

theorem size_of_frame (hframe : frame.payload.read 0 frame.size.toNat = a.frame s.LoRaMacAppKey) :
    frame.size.toNat = if a.CFList.isSome then 33 else 17 := by
  rw [← a.length_frame s.LoRaMacAppKey, ← hframe, Mem.length_read]

/-- The first 33 bytes of `LoRaMacRxPayload` while a join-accept is read: the header, and two blocks
that have been enciphered. The second one lies behind a frame without a list of channels. -/
theorem read_joinPayload_blocks (s : Mac) {frame : RxFrame} (hsize : 17 ≤ frame.size.toNat) :
    (joinPayload s frame).read 0 33 = frame.payload 0 ::
      ((s.env.aes_encrypt s.LoRaMacAppKey (frame.payload.read 1 16)).read 0 16 ++
        (s.env.aes_encrypt s.LoRaMacAppKey (frame.payload.read 17 16)).read 0 16) := by
  have hlong : 16 ≤ (frame.size - 1).toNat := by
    rw [UInt8.toNat_sub_of_le _ _ (UInt8.le_iff_toNat_le.mpr (by change 1 ≤ _; omega))]
    change 16 ≤ frame.size.toNat - 1
    omega
  have hread : ∀ off n,
      Mem.read (fun i => frame.payload (1 + i)) off n = frame.payload.read (1 + off) n :=
    fun off n => Mem.read_drop frame.payload 1 off n
  rw [joinPayload, LoRaMacJoinDecrypt, if_pos hlong, hread, hread]
  have hfirst := Mem.length_read (s.env.aes_encrypt s.LoRaMacAppKey (frame.payload.read 1 16)) 0 16
  have hsecond :=
    Mem.length_read (s.env.aes_encrypt s.LoRaMacAppKey (frame.payload.read 17 16)) 0 16
  generalize (s.env.aes_encrypt s.LoRaMacAppKey (frame.payload.read 1 16)).read 0 16 = as
    at hfirst ⊢
  generalize (s.env.aes_encrypt s.LoRaMacAppKey (frame.payload.read 17 16)).read 0 16 = bs
    at hsecond ⊢
  have hblocks := Mem.read_write_append s.LoRaMacRxPayload 1 as bs
  have hhead :=
    Mem.read_write_self ((s.LoRaMacRxPayload.write 1 as).write 17 bs) 0 [frame.payload 0]
  rw [hfirst, hsecond] at hblocks
  have hbehind :
      (((s.LoRaMacRxPayload.write 1 as).write (1 + 16) bs).write 0 [frame.payload 0]).read 1 32 =
        as ++ bs := by
    rw [Mem.read_write_of_disjoint (.inr (by simp))]
    exact hblocks
  rw [show (33 : Nat) = 1 + 32 from rfl, Mem.read_add, Nat.zero_add, hbehind]
  exact congrArg (· ++ (as ++ bs)) hhead

/-- The memory `LoRaMacRxPayload` has the fields of the join-accept and its MIC. -/
theorem read_joinPayload (henv : s.env = enciphering env)
    (hframe : frame.payload.read 0 frame.size.toNat = a.frame s.LoRaMacAppKey) :
    (joinPayload s frame).read 0 frame.size.toNat =
      FRAME_TYPE_JOIN_ACCEPT.header :: a.plain s.LoRaMacAppKey := by
  have hsize := size_of_frame hframe
  have hplain := a.length_plain s.LoRaMacAppKey
  generalize hkey : s.LoRaMacAppKey = key at *
  have hfirst : 16 ≤ (a.plain key).length := by rw [hplain]; split <;> decide
  have hblocks := read_joinPayload_blocks s
    (show 17 ≤ frame.size.toNat by rw [hsize]; split <;> decide)
  have hle : frame.size.toNat ≤ 33 := by rw [hsize]; split <;> decide
  have hframe17 : frame.payload.read 0 (1 + 16) = FRAME_TYPE_JOIN_ACCEPT.header ::
      JoinAccept.decipher key ((a.plain key).take 16) := by
    rw [← Mem.take_read frame.payload 0 (n := frame.size.toNat) (by rw [hsize]; split <;> decide),
      hframe, JoinAccept.frame, List.take_succ_cons,
      List.take_left' (JoinAccept.length_decipher _ _)]
  rw [Mem.read_add, Mem.read_succ, Mem.read_zero, List.singleton_append, List.cons.injEq,
    Nat.zero_add] at hframe17
  rw [← Mem.take_read _ _ hle, hblocks, hframe17.1, hframe17.2, henv, hkey,
    JoinAccept.read_aes_encrypt_decipher key env (List.length_take_of_le hfirst), hsize]
  by_cases hlist : a.CFList.isSome
  · have hframe33 : frame.payload.read 0 17 ++ frame.payload.read 17 16 =
        (FRAME_TYPE_JOIN_ACCEPT.header :: JoinAccept.decipher key ((a.plain key).take 16)) ++
          JoinAccept.decipher key ((a.plain key).drop 16) := by
      rw [hsize, if_pos hlist, JoinAccept.frame, if_pos hlist] at hframe
      rw [← Nat.zero_add 17, ← Mem.read_add, Nat.zero_add]
      exact hframe
    have hsecond := (List.append_inj hframe33 (by simp [JoinAccept.length_decipher])).2
    rw [if_pos hlist] at hplain
    rw [if_pos hlist, hsecond, JoinAccept.read_aes_encrypt_decipher key env
      (by rw [List.length_drop, hplain]), List.take_append_drop,
      List.take_of_length_le (by rw [List.length_cons, hplain])]
  · rw [if_neg hlist] at hplain ⊢
    rw [List.take_succ_cons, List.take_left' (List.length_take_of_le hfirst),
      List.take_of_length_le (by omega)]

theorem read_ofBytes {bytes : List UInt8} (h : bytes.length < 256) :
    (RxFrame.ofBytes bytes).payload.read 0 (RxFrame.ofBytes bytes).size.toNat = bytes := by
  have hsize : (RxFrame.ofBytes bytes).size.toNat = bytes.length := by
    change (UInt8.ofNat bytes.length).toNat = _
    rw [UInt8.toNat_ofNat']
    omega
  rw [hsize]
  exact read_memoryOf bytes

/-- The MIC at the end of a byte string. -/
theorem micAt_of_read {m : Mem} {size : Nat} {bytes : List UInt8} {mic : UInt32}
    (h : m.read 0 size = bytes ++ bytes32 mic) (before : Mem) : micAt m before size = mic := by
  have hsize : size = bytes.length + 4 := by
    have hlength := congrArg List.length h
    rwa [Mem.length_read, List.length_append] at hlength
  subst hsize
  rw [Mem.read_add, Nat.zero_add] at h
  have hbytes := (List.append_inj h (Mem.length_read ..)).2
  have hat : ∀ k : Nat, k ≤ 4 → byteAt m before (((bytes.length + 4 : Nat) : Int) - k) =
      m (bytes.length + (4 - k)) := by
    intro k hk
    rw [show ((bytes.length + 4 : Nat) : Int) - k = Int.ofNat (bytes.length + (4 - k)) by
      simp only [Int.ofNat_eq_natCast]; omega]
    rfl
  simp only [Mem.read, List.range, List.range.loop, List.map, bytes32, leBytes,
    List.cons.injEq] at hbytes
  obtain ⟨h0, h1, h2, h3, -⟩ := hbytes
  rw [← ofBytes32_bytes mic, ← h0, ← h1, ← h2, ← h3, micAt]
  exact congr (congr (congr (congrArg ofBytes32 (hat 4 (by decide))) (hat 3 (by decide)))
    (hat 2 (by decide))) (hat 1 (by decide))

/-- The join-accept of the server is authentic for the node. -/
theorem joinMicRx_eq_joinMic (henv : s.env = enciphering env)
    (hframe : frame.payload.read 0 frame.size.toNat = a.frame s.LoRaMacAppKey) :
    joinMicRx s frame = joinMic s frame := by
  have hread := read_joinPayload henv hframe
  have hsize := size_of_frame hframe
  have hfields := a.length_fields
  have hlength : micLength frame.size = 1 + a.fields.length := by
    rw [micLength, UInt8.toNat_sub_of_le _ _
      (UInt8.le_iff_toNat_le.mpr (by rw [hsize]; split <;> decide)), hsize, hfields]
    split <;> rfl
  have hcovered : (joinPayload s frame).read 0 (micLength frame.size) =
      FRAME_TYPE_JOIN_ACCEPT.header :: a.fields := by
    rw [hlength, ← Mem.take_read _ 0 (n := frame.size.toNat)
      (by rw [hsize, hfields]; split <;> decide), hread, JoinAccept.plain, Nat.add_comm,
      List.take_succ_cons, List.take_left]
  rw [joinMicRx, joinMic, hcovered, henv]
  exact micAt_of_read (hread.trans (List.cons_append ..).symm) s.strayBytes

theorem session_LoRaMacChannelAdd (s : Mac) (id : UInt8) (params : ChannelParams_t) :
    (LoRaMacChannelAdd s id params).2.activation = s.activation := by
  unfold LoRaMacChannelAdd
  split
  · rfl
  · split
    · rfl
    · split <;> rfl

/-- `LoRaMacChannelAdd` of a channel of the list, once the table may be changed. -/
theorem channels_LoRaMacChannelAdd {s : Mac} (hconfig : s.LoRaMacState.MAC_TX_CONFIG = true)
    {k : Nat} (hk : k < 5) (Frequency : UInt32) :
    (LoRaMacChannelAdd s (UInt8.ofNat (3 + k)) ⟨Frequency, 0x50, 0⟩).2.Channels =
      Function.update s.Channels (3 + k) (offered s.env Frequency (s.Channels (3 + k))) := by
  have hid : (UInt8.ofNat (3 + k)).toNat = 3 + k := by
    rw [UInt8.toNat_ofNat']
    omega
  have hhigh : ¬ UInt8.ofNat (3 + k) < 3 := by
    rw [UInt8.lt_iff_toNat_lt, hid]
    change ¬ 3 + k < 3
    omega
  have hlocked : configLocked s = false := by
    simp [configLocked, hconfig]
  have hdatarate : datarateInvalid s (UInt8.ofNat (3 + k)) ⟨Frequency, 0x50, 0⟩ = false := by
    have hMin : (⟨Frequency, 0x50, 0⟩ : ChannelParams_t).Min = 0 := by
      change (BitVec.ofNat 4 80).toInt = 0
      decide
    have hMax : (⟨Frequency, 0x50, 0⟩ : ChannelParams_t).Max = 5 := by
      change (BitVec.ofNat 4 (80 >>> 4)).toInt = 5
      decide
    rw [datarateInvalid, decide_eq_false hhigh, Bool.false_and, Bool.or_false, hMin, hMax]
    decide
  have hband : channelBand s (UInt8.ofNat (3 + k)) ⟨Frequency, 0x50, 0⟩ =
      if s.env.CheckRfFrequency Frequency = true ∧ 0 < Frequency then bandOfFrequency Frequency
      else none := by
    simp only [channelBand, hhigh, false_and, not_false_eq_true, and_true]
  rw [LoRaMacChannelAdd, if_neg (by rw [hid]; change ¬ 16 ≤ 3 + k; omega), hlocked, hdatarate,
    hband, offered, if_neg Bool.false_ne_true]
  by_cases hradio : s.env.CheckRfFrequency Frequency = true ∧ 0 < Frequency
  · rw [if_pos hradio, if_pos hradio]
    cases bandOfFrequency Frequency with
    | none => exact (Function.update_eq_self _ _).symm
    | some band => exact congrArg (Function.update s.Channels · _) hid
  · rw [if_neg hradio, if_neg hradio]
    exact (Function.update_eq_self _ _).symm

/-- The channels of a list, one after the other. -/
theorem foldl_LoRaMacChannelAdd (f : Nat → UInt32) (ks : List Nat) :
    ∀ {s : Mac}, s.LoRaMacState.MAC_TX_CONFIG = true → ks.Nodup → (∀ k ∈ ks, k < 5) →
      let t := ks.foldl (fun s k => (LoRaMacChannelAdd s (UInt8.ofNat (3 + k)) ⟨f k, 0x50, 0⟩).2) s
      t.activation = s.activation ∧ ∀ c, t.Channels (3 + c) =
        if c ∈ ks then offered s.env (f c) (s.Channels (3 + c)) else s.Channels (3 + c) := by
  induction ks with
  | nil => exact fun _ _ _ => ⟨rfl, fun c => (if_neg List.not_mem_nil).symm⟩
  | cons k ks ih =>
    intro s hconfig hnodup hks
    rw [List.nodup_cons] at hnodup
    have hchannels := channels_LoRaMacChannelAdd hconfig (hks k List.mem_cons_self) (f k)
    have henv : (LoRaMacChannelAdd s (UInt8.ofNat (3 + k)) ⟨f k, 0x50, 0⟩).2.env = s.env :=
      (congrArg Mac.env (uncommanded_LoRaMacChannelAdd s _ _) :)
    obtain ⟨hsession, hrest⟩ := ih
      (s := (LoRaMacChannelAdd s (UInt8.ofNat (3 + k)) ⟨f k, 0x50, 0⟩).2)
      (by rw [state_LoRaMacChannelAdd]; exact hconfig) hnodup.2
      (fun k' hk' => hks k' (List.mem_cons_of_mem k hk'))
    refine ⟨hsession.trans (session_LoRaMacChannelAdd s _ _), fun c => ?_⟩
    rw [List.foldl_cons, hrest c, henv, hchannels]
    by_cases hc : c = k
    · subst hc
      rw [if_neg hnodup.1, if_pos List.mem_cons_self, Function.update_self]
    · rw [Function.update_of_ne (by omega)]
      simp [hc]

theorem addCFList_eq (s : Mac) (p : Mem) :
    (addCFList s p).activation = s.activation ∧ ∀ k < 5, (addCFList s p).Channels (3 + k) =
      offered s.env (frequencyAt p (13 + 3 * k) (14 + 3 * k) (15 + 3 * k))
        (s.Channels (3 + k)) := by
  obtain ⟨hsession, hchannels⟩ := foldl_LoRaMacChannelAdd
    (fun k => frequencyAt p (13 + 3 * k) (14 + 3 * k) (15 + 3 * k)) (List.range 5)
    (s := setTxConfig s true) rfl List.nodup_range (fun k hk => List.mem_range.mp hk)
  refine ⟨hsession, fun k hk => ?_⟩
  have hk := hchannels k
  rwa [if_pos (List.mem_range.mpr ‹k < 5›)] at hk

theorem toList_three (v : Vector UInt8 3) : v.toList = [v.get 0, v.get 1, v.get 2] := by
  obtain ⟨⟨l⟩, hl⟩ := v
  obtain ⟨b0, b1, b2, rfl⟩ := List.length_eq_three.mp hl
  rfl

/-- The bytes of a join-accept, one by one. -/
theorem plain_eq_cons (a : JoinAccept) (key : List UInt8) : ∃ rest, a.plain key =
    a.AppNonce.get 0 :: a.AppNonce.get 1 :: a.AppNonce.get 2 :: a.NetID.get 0 :: a.NetID.get 1 ::
      a.NetID.get 2 :: byte a.DevAddr.toBitVec 0 :: byte a.DevAddr.toBitVec 1 ::
      byte a.DevAddr.toBitVec 2 :: byte a.DevAddr.toBitVec 3 :: a.DLSettings :: a.RxDelay ::
      (a.CFList.elim [] Vector.toList ++ rest) := by
  refine ⟨bytes32 (micOf (cmac.mac (aes128 (memoryOf key))
    (FRAME_TYPE_JOIN_ACCEPT.header :: a.fields))), ?_⟩
  rw [JoinAccept.plain]
  generalize bytes32 (micOf _) = mic
  rw [JoinAccept.fields, toList_three, toList_three]
  simp [bytes32, leBytes]

/-- The bytes of a memory that a list is read from. -/
theorem apply_of_read {p : Mem} {n : Nat} {bytes : List UInt8} (hp : p.read 0 n = bytes) {i : Nat}
    (hi : i < bytes.length) : p i = bytes.getD i 0 := by
  have hn : n = bytes.length := by rw [← hp, Mem.length_read]
  subst hn
  simpa using Mem.read_eq_iff.mp hp i hi

/-- The node takes from the join-accept what the server has put into it. -/
theorem session_takeSession (s : Mac) {env : Env} (henv : s.env = enciphering env) {p : Mem}
    {n : Nat} (hp : p.read 0 n = FRAME_TYPE_JOIN_ACCEPT.header :: a.plain s.LoRaMacAppKey) :
    (takeSession s p).activation = a.activation s.LoRaMacAppKey s.LoRaMacDevNonce := by
  obtain ⟨rest, hplain⟩ := plain_eq_cons a s.LoRaMacAppKey
  rw [hplain] at hp
  have hnonces : p.read 1 6 = a.AppNonce.toList ++ a.NetID.toList := by
    rw [toList_three, toList_three]
    simp only [Mem.read, List.range, List.range.loop, List.map]
    rw [apply_of_read hp (i := 1 + 0) (by simp), apply_of_read hp (i := 1 + 1) (by simp),
      apply_of_read hp (i := 1 + 2) (by simp), apply_of_read hp (i := 1 + 3) (by simp),
      apply_of_read hp (i := 1 + 4) (by simp), apply_of_read hp (i := 1 + 5) (by simp)]
    rfl
  have hDevAddr : ofBytes32 (p 7) (p 8) (p 9) (p 10) = a.DevAddr := by
    rw [apply_of_read hp (i := 7) (by simp), apply_of_read hp (i := 8) (by simp),
      apply_of_read hp (i := 9) (by simp), apply_of_read hp (i := 10) (by simp)]
    exact ofBytes32_bytes a.DevAddr
  have hNetID : ofBytes32 (p 4) (p 5) (p 6) 0 =
      ofBytes32 (a.NetID.get 0) (a.NetID.get 1) (a.NetID.get 2) 0 := by
    rw [apply_of_read hp (i := 4) (by simp), apply_of_read hp (i := 5) (by simp),
      apply_of_read hp (i := 6) (by simp)]
    rfl
  have hDLSettings : p 11 = a.DLSettings := apply_of_read hp (by simp)
  have hRxDelay : p 12 = a.RxDelay := apply_of_read hp (by simp)
  have hkey : ∀ kind : UInt8, (s.env.aes_encrypt s.LoRaMacAppKey ([kind] ++ p.read 1 6 ++
      bytes16 s.LoRaMacDevNonce ++ List.replicate 7 0)).read 0 16 =
        a.sessionKey s.LoRaMacAppKey kind s.LoRaMacDevNonce := by
    intro kind
    have hread := read_memoryOf (a.sessionKey s.LoRaMacAppKey kind s.LoRaMacDevNonce)
    simp only [JoinAccept.sessionKey, Vector.length_toList] at hread ⊢
    rw [henv, aes_encrypt_enciphering, hnonces, hread]
  simp only [takeSession, LoRaMacJoinComputeSKeys, Mac.activation, JoinAccept.activation, hkey,
    hDevAddr, hNetID, hDLSettings, hRxDelay]

theorem MlmeConfirm_endReception (s : Mac) : (endReception s).MlmeConfirm = s.MlmeConfirm := by
  unfold endReception reopenWindow2 OnRxWindow2TimerEvent RxWindowSetup
  dsimp only
  split
  · split <;> rfl
  · rfl

theorem frequencyAt_of_plain {key : List UInt8} {list : Vector UInt8 16}
    (hlist : a.CFList = some list) {p : Mem} {n : Nat}
    (hp : p.read 0 n = FRAME_TYPE_JOIN_ACCEPT.header :: a.plain key) {k : Nat} (hk : k < 5) :
    frequencyAt p (13 + 3 * k) (14 + 3 * k) (15 + 3 * k) = JoinAccept.frequency list k := by
  obtain ⟨rest, hplain⟩ := plain_eq_cons a key
  rw [hplain, hlist] at hp
  have hat : ∀ j < 16, p (13 + j) = list.toList.getD j 0 := by
    intro j hj
    rw [apply_of_read hp (by simp; omega),
      ← List.getD_append list.toList rest 0 j (by simpa using hj),
      Nat.add_comm]
    rfl
  rw [frequencyAt, JoinAccept.frequency, hat (3 * k) (by omega), ← hat (3 * k + 1) (by omega),
    ← hat (3 * k + 2) (by omega)]
  congr 3 <;> omega

/-- The session that is opened with the join-accept of a server. -/
theorem openSession_eq (s : Mac) {env : Env} (henv : s.env = enciphering env) {p : Mem} {n : Nat}
    (hp : p.read 0 n = FRAME_TYPE_JOIN_ACCEPT.header :: a.plain s.LoRaMacAppKey) :
    let t := openSession s p n
    t.activation = a.activation s.LoRaMacAppKey s.LoRaMacDevNonce ∧
      ∀ k < 5, t.Channels (3 + k) = a.channel s.env k (s.Channels (3 + k)) := by
  have hn : n = 1 + (a.plain s.LoRaMacAppKey).length := by
    have hlength := congrArg List.length hp
    rwa [Mem.length_read, List.length_cons, Nat.add_comm] at hlength
  have hlong : 17 < n ↔ a.CFList.isSome := by
    rw [hn, JoinAccept.length_plain]
    split <;> simp_all
  have htaken := session_takeSession s henv hp
  have hkept : (takeSession s p).Channels = s.Channels ∧ (takeSession s p).env = s.env := ⟨rfl, rfl⟩
  have hopened : ∀ u, u = (if 17 < n then addCFList (takeSession s p) p else takeSession s p) →
      (openSession s p n).activation = u.activation ∧
        (openSession s p n).Channels = u.Channels := by
    rintro u rfl
    exact ⟨rfl, rfl⟩
  generalize takeSession s p = u at htaken hkept hopened
  cases hlist : a.CFList with
  | none =>
    rw [hlist] at hlong
    obtain ⟨hsession, hchannels⟩ := hopened u (if_neg (by simpa using hlong)).symm
    refine ⟨hsession.trans htaken, fun k _ => ?_⟩
    rw [JoinAccept.channel, hlist]
    exact congrFun (hchannels.trans hkept.1) (3 + k)
  | some list =>
    rw [hlist] at hlong
    obtain ⟨hadded, hoffered⟩ := addCFList_eq u p
    obtain ⟨hsession, hchannels⟩ := hopened (addCFList u p) (if_pos (by simpa using hlong)).symm
    refine ⟨hsession.trans (hadded.trans htaken), fun k hk => ?_⟩
    rw [hchannels, hoffered k hk, hkept.1, hkept.2, frequencyAt_of_plain hlist hp hk,
      JoinAccept.channel, hlist]
    rfl

/-- A join-accept of a server that has the key of the node opens the session of the server. -/
theorem session_of_joinAccept {s : Mac} {env : Env} (henv : s.env = enciphering env)
    (hjoined : s.IsLoRaMacNetworkJoined = false) (a : JoinAccept) {frame : RxFrame}
    (hframe : frame.payload.read 0 frame.size.toNat = a.frame s.LoRaMacAppKey) (rssi snr : Int) :
    ∃ t, OnRadioRxDone s frame rssi snr = some t ∧ t.IsLoRaMacNetworkJoined = true ∧
      t.MlmeConfirm.Status = LORAMAC_EVENT_INFO_STATUS_OK ∧
      t.activation = a.activation s.LoRaMacAppKey s.LoRaMacDevNonce ∧
      ∀ k < 5, t.Channels (3 + k) = a.channel s.env k (s.Channels (3 + k)) := by
  have hheader : frame.macHdr = FRAME_TYPE_JOIN_ACCEPT := by
    have hbyte := apply_of_read hframe (i := 0) (by rw [JoinAccept.length_frame]; split <;> decide)
    rw [JoinAccept.frame, List.getD_cons_zero] at hbyte
    rw [RxFrame.macHdr, hbyte, LoRaMacFrameType_t.ofHeader_header]
  have hcore := (refused_beginReception s rssi snr).core
  have hpayload := joinPayload_beginReception s frame rssi snr
  have hmic := joinMic_beginReception s frame rssi snr
  have hread := read_joinPayload henv hframe
  have hvalid := joinMicRx_eq_joinMic henv hframe
  rw [← hpayload] at hread
  rw [← hmic.1, ← hmic.2] at hvalid
  have hrun : OnRadioRxDone s frame rssi snr =
      some (endReception (receiveJoinAccept (beginReception s rssi snr) frame)) := by
    rw [OnRadioRxDone, hheader]
  rw [hrun]
  generalize beginReception s rssi snr = u at hcore hread hvalid ⊢
  have hkey : u.LoRaMacAppKey = s.LoRaMacAppKey := (congrArg Mac.LoRaMacAppKey hcore :)
  have hnonce : u.LoRaMacDevNonce = s.LoRaMacDevNonce := (congrArg Mac.LoRaMacDevNonce hcore :)
  have henv' : u.env = s.env := (congrArg Mac.env hcore :)
  have hchannels : u.Channels = s.Channels := (congrArg Mac.Channels hcore :)
  have hnot : u.IsLoRaMacNetworkJoined = false :=
    (congrArg Mac.IsLoRaMacNetworkJoined hcore :).trans hjoined
  have hopen : receiveJoinAccept u frame =
      openSession { u with LoRaMacRxPayload := joinPayload u frame } (joinPayload u frame)
        frame.size.toNat := by
    rw [receiveJoinAccept, hnot, if_neg Bool.false_ne_true, if_pos hvalid]
  rw [← hkey] at hread
  obtain ⟨hsession, hlist⟩ := openSession_eq { u with LoRaMacRxPayload := joinPayload u frame }
    (henv'.trans henv) hread
  rw [hopen]
  refine ⟨_, rfl, ?_⟩
  generalize hv : openSession { u with LoRaMacRxPayload := joinPayload u frame }
      (joinPayload u frame) frame.size.toNat = v at hsession hlist ⊢
  have hend := (refused_endReception v).core
  have hconfirm := MlmeConfirm_endReception v
  have hopened : v.IsLoRaMacNetworkJoined = true ∧
      v.MlmeConfirm.Status = LORAMAC_EVENT_INFO_STATUS_OK := by
    rw [← hv]
    exact ⟨rfl, rfl⟩
  generalize endReception v = w at hend hconfirm ⊢
  refine ⟨(congrArg Mac.IsLoRaMacNetworkJoined hend :).trans hopened.1,
    by rw [hconfirm]; exact hopened.2,
    (congrArg Mac.activation hend :).trans (hsession.trans ?_), fun k hk => ?_⟩
  · rw [← hkey, ← hnonce]
  · have hw : w.Channels = v.Channels := (congrArg Mac.Channels hend :)
    rw [hw, hlist k hk, ← hchannels, ← henv']

/-- The fields of a join request. -/
structure JoinRequest where
  AppEui : List UInt8
  DevEui : List UInt8
  DevNonce : UInt16
  mic : UInt32

/-- Reads `MHDR | AppEUI | DevEUI | DevNonce | MIC`, with the identifiers in reverse order. -/
def parseJoinRequest (bytes : List UInt8) : Option JoinRequest :=
  match bytes.drop 17 with
  | [n0, n1, m0, m1, m2, m3] =>
    if bytes.head? = some FRAME_TYPE_JOIN_REQ.header then
      some ⟨((bytes.drop 1).take 8).reverse, ((bytes.drop 9).take 8).reverse, ofBytes16 n0 n1,
        ofBytes32 m0 m1 m2 m3⟩
    else none
  | _ => none

theorem parseJoinRequest_append {as ds : List UInt8} (has : as.length = 8) (hds : ds.length = 8)
    (nonce : UInt16) (mic : UInt32) :
    parseJoinRequest ([FRAME_TYPE_JOIN_REQ.header] ++ as ++ ds ++ bytes16 nonce ++ bytes32 mic) =
      some ⟨as.reverse, ds.reverse, nonce, mic⟩ := by
  have hdrop17 :
      ([FRAME_TYPE_JOIN_REQ.header] ++ as ++ ds ++ bytes16 nonce ++ bytes32 mic).drop 17 =
        bytes16 nonce ++ bytes32 mic := by
    rw [List.append_assoc]
    exact List.drop_left' (by simp [has, hds])
  have hdrop9 : ([FRAME_TYPE_JOIN_REQ.header] ++ as ++ ds ++ bytes16 nonce ++ bytes32 mic).drop 9 =
      ds ++ (bytes16 nonce ++ bytes32 mic) := by
    rw [List.append_assoc, List.append_assoc]
    exact List.drop_left' (by simp [has])
  have hdrop1 : ([FRAME_TYPE_JOIN_REQ.header] ++ as ++ ds ++ bytes16 nonce ++ bytes32 mic).drop 1 =
      as ++ (ds ++ (bytes16 nonce ++ bytes32 mic)) := by
    simp
  rw [parseJoinRequest, hdrop17, hdrop9, hdrop1, List.take_left' has, List.take_left' hds]
  simp only [bytes16, bytes32, leBytes, List.cons_append, List.nil_append, ofBytes16_bytes,
    ofBytes32_bytes, List.head?_cons, if_pos]

/-- A server reads from a join request what the node has put into it. -/
theorem parseJoinRequest_prepareJoinRequest {s : Mac} (happ : s.LoRaMacAppEui.length = 8)
    (hdev : s.LoRaMacDevEui.length = 8) :
    let t := prepareJoinRequest s
    parseJoinRequest (t.LoRaMacBuffer.read 0 t.LoRaMacBufferPktLen) =
      some ⟨s.LoRaMacAppEui, s.LoRaMacDevEui, t.LoRaMacDevNonce,
        s.env.LoRaMacJoinComputeMic
          (t.LoRaMacBuffer.read 0 (t.LoRaMacBufferPktLen - LORAMAC_MFR_LEN))
          s.LoRaMacAppKey⟩ := by
  intro t
  have hframe : ∃ bytes, bytes = [FRAME_TYPE_JOIN_REQ.header] ++ (s.LoRaMacAppEui.take 8).reverse ++
      (s.LoRaMacDevEui.take 8).reverse ++ bytes16 t.LoRaMacDevNonce ∧
      t.LoRaMacBuffer = s.LoRaMacBuffer.write 0
        (bytes ++ bytes32 (s.env.LoRaMacJoinComputeMic bytes s.LoRaMacAppKey)) ∧
      t.LoRaMacBufferPktLen =
        (bytes ++ bytes32 (s.env.LoRaMacJoinComputeMic bytes s.LoRaMacAppKey)).length :=
    ⟨_, rfl, rfl, rfl⟩
  obtain ⟨bytes, hbytes, hbuffer, hlen⟩ := hframe
  have hread := Mem.read_write_self s.LoRaMacBuffer 0
    (bytes ++ bytes32 (s.env.LoRaMacJoinComputeMic bytes s.LoRaMacAppKey))
  have hcovered : t.LoRaMacBuffer.read 0 (t.LoRaMacBufferPktLen - LORAMAC_MFR_LEN) = bytes := by
    rw [← Mem.take_read _ _ (Nat.sub_le _ _), hbuffer, hlen, hread, List.length_append]
    exact List.take_left
  rw [hcovered, hbuffer, hlen, hread]
  generalize s.env.LoRaMacJoinComputeMic bytes s.LoRaMacAppKey = mic
  have hlength : ∀ l : List UInt8, l.length = 8 → (l.take 8).reverse.length = 8 := by
    intro l hl
    simp [hl]
  rw [hbytes, parseJoinRequest_append (hlength _ happ) (hlength _ hdev), List.reverse_reverse,
    List.reverse_reverse, List.take_of_length_le (by omega), List.take_of_length_le (by omega)]

/-- The whole exchange. A node prepares a join request; a server that has its key reads the
identifiers and the nonce from the frame, and finds the MIC valid. Whatever join-accept the server
then answers with, the node accepts it as long as it still has that nonce and has not joined, and
its session is the one that the server has computed from the nonce it has read. The channels of the
list are taken as far as the radio and the bands admit them. -/
theorem join_agreement {s : Mac} {env : Env} (henv : s.env = enciphering env)
    (happ : s.LoRaMacAppEui.length = 8) (hdev : s.LoRaMacDevEui.length = 8) :
    let key := s.LoRaMacAppKey
    let sent := prepareJoinRequest s
    let bytes := sent.LoRaMacBuffer.read 0 sent.LoRaMacBufferPktLen
    ∃ r, parseJoinRequest bytes = some r ∧ r.AppEui = s.LoRaMacAppEui ∧ r.DevEui = s.LoRaMacDevEui ∧
      r.mic = micOf (cmac.mac (aes128 (memoryOf key)) (bytes.take (bytes.length - 4))) ∧
      ∀ (a : JoinAccept) (u : Mac) (frame : RxFrame) (rssi snr : Int), u.env = s.env →
        u.LoRaMacAppKey = key → u.LoRaMacDevNonce = sent.LoRaMacDevNonce →
        u.IsLoRaMacNetworkJoined = false →
        frame.payload.read 0 frame.size.toNat = a.frame key →
        ∃ t, OnRadioRxDone u frame rssi snr = some t ∧ t.IsLoRaMacNetworkJoined = true ∧
          t.MlmeConfirm.Status = LORAMAC_EVENT_INFO_STATUS_OK ∧
          t.activation = a.activation key r.DevNonce ∧
          ∀ k < 5, t.Channels (3 + k) = a.channel u.env k (u.Channels (3 + k)) := by
  intro key sent bytes
  refine ⟨_, parseJoinRequest_prepareJoinRequest happ hdev, rfl, rfl, ?_, ?_⟩
  · rw [henv, Mem.length_read, Mem.take_read _ _ (Nat.sub_le _ _)]
    simp only [enciphering]
    rfl
  · intro a u frame rssi snr huenv hukey hunonce hujoined hframe
    rw [← hukey] at hframe ⊢
    rw [← hunonce]
    exact session_of_joinAccept (huenv.trans henv) hujoined a hframe rssi snr

/-- A node with identifiers and a key, before it joins. -/
def Mac.unjoined : Mac :=
  { Mac.boot (enciphering Env.plain) with
    LoRaMacAppEui := List.replicate 8 1
    LoRaMacDevEui := List.replicate 8 2
    LoRaMacAppKey := List.replicate 16 3 }

/-- A join-accept with a list of channels, at 867.1 MHz and every 200 kHz above it. -/
def fullAccept : JoinAccept where
  AppNonce := #v[1, 2, 3]
  NetID := #v[4, 5, 6]
  DevAddr := 7
  DLSettings := 0x12
  RxDelay := 3
  CFList := some #v[0x18, 0x4F, 0x84, 0xE8, 0x56, 0x84, 0xB8, 0x5E, 0x84, 0x88, 0x66, 0x84,
    0x58, 0x6E, 0x84, 0]

theorem join_agreement_unjoined :
    ∃ t, OnRadioRxDone (prepareJoinRequest Mac.unjoined)
        (.ofBytes (fullAccept.frame Mac.unjoined.LoRaMacAppKey)) 0 0 = some t ∧
      t.IsLoRaMacNetworkJoined = true ∧ t.LoRaMacDevAddr = 7 ∧
      t.LoRaMacParams.ReceiveDelay1 = 3000 ∧ (t.Channels 3).Frequency = 867100000 ∧
      (t.Channels 7).Frequency = 867900000 := by
  have hlength := fullAccept.length_frame Mac.unjoined.LoRaMacAppKey
  have hframe := read_ofBytes
    (show (fullAccept.frame Mac.unjoined.LoRaMacAppKey).length < 256 by rw [hlength]; decide)
  obtain ⟨r, -, -, -, -, hanswered⟩ := join_agreement (s := Mac.unjoined) rfl rfl rfl
  obtain ⟨t, ht, hjoined, -, hsession, hchannels⟩ := hanswered fullAccept
    (prepareJoinRequest Mac.unjoined) _ 0 0 rfl rfl rfl rfl hframe
  refine ⟨t, ht, hjoined, congrArg Activation.DevAddr hsession,
    congrArg Activation.ReceiveDelay1 hsession, ?_, ?_⟩
  · rw [hchannels 0 (by decide)]
    decide
  · rw [hchannels 4 (by decide)]
    decide

end loranode.mac
