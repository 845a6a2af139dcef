import LoRaNode.Mac.Commands

namespace loranode.mac

open LoRaMacMoteCmd_t

/-- An answer with its parameters. -/
structure MoteAnswer where
  cmd : LoRaMacMoteCmd_t
  p1 : UInt8
  p2 : UInt8

/-- The answer as `AddMacCommand` lays it out. -/
def MoteAnswer.bytes (a : MoteAnswer) : List UInt8 :=
  a.cmd.bytes a.p1 a.p2

theorem MoteAnswer.bytes_ne_nil (a : MoteAnswer) : a.bytes ≠ [] := by
  obtain ⟨cmd, p1, p2⟩ := a
  cases cmd <;> simp [bytes, LoRaMacMoteCmd_t.bytes]

/-- The answer has to be repeated until the server is heard again. -/
def MoteAnswer.sticky (a : MoteAnswer) : Bool :=
  a.cmd = MOTE_MAC_RX_PARAM_SETUP_ANS || a.cmd = MOTE_MAC_RX_TIMING_SETUP_ANS

/-- The answers one behind the other, as they stand in the buffer. -/
def layout (answers : List MoteAnswer) : List UInt8 :=
  answers.flatMap MoteAnswer.bytes

def stickyBytes (answers : List MoteAnswer) : List UInt8 :=
  layout (answers.filter MoteAnswer.sticky)

/-- What the scan copies of the bytes, when it still has to copy the first `owed` of them as
the rest of a setup answer. -/
def copied : (owed : Nat) → List UInt8 → List UInt8
  | _, [] => []
  | owed + 1, b :: bs => b :: copied owed bs
  | 0, b :: bs =>
    if b = MOTE_MAC_RX_PARAM_SETUP_ANS.code then b :: copied 2 bs
    else if b = MOTE_MAC_RX_TIMING_SETUP_ANS.code then b :: copied 0 bs
    else copied 0 bs

/-- How many bytes behind the last one the scan copies. -/
def overrun : (owed : Nat) → List UInt8 → Nat
  | owed, [] => owed
  | owed + 1, _ :: bs => overrun owed bs
  | 0, b :: bs => if b = MOTE_MAC_RX_PARAM_SETUP_ANS.code then overrun 2 bs else overrun 0 bs

/-- How many bytes behind the answers the loop copies from the byte at `i` on. -/
def overrunFrom (cmdBufIn : Mem) (length i : Nat) : Nat :=
  overrun 0 (cmdBufIn.read i (length - i))

/-- All that the loop copies from the byte at `i` on, with what lies behind the answers. -/
def copiedFrom (cmdBufIn : Mem) (length i : Nat) : List UInt8 :=
  copied 0 (cmdBufIn.read i (length - i)) ++ cmdBufIn.read length (overrunFrom cmdBufIn length i)

theorem copiedFrom_of_le (cmdBufIn : Mem) {length i : Nat} (h : length ≤ i) :
    copiedFrom cmdBufIn length i = [] ∧ overrunFrom cmdBufIn length i = 0 := by
  simp [copiedFrom, overrunFrom, Nat.sub_eq_zero_of_le h, copied, overrun]

theorem read_sub_of_lt {cmdBufIn : Mem} {length i : Nat} (h : i < length) :
    cmdBufIn.read i (length - i) = cmdBufIn i :: cmdBufIn.read (i + 1) (length - (i + 1)) := by
  rw [show length - i = length - (i + 1) + 1 by omega, Mem.read_succ]

/-- A setup answer is copied with the two bytes behind it, wherever they are. -/
theorem copiedFrom_setup {cmdBufIn : Mem} {length i : Nat} (hi : i < length)
    (hcode : cmdBufIn i = MOTE_MAC_RX_PARAM_SETUP_ANS.code) :
    copiedFrom cmdBufIn length i = cmdBufIn.read i 3 ++ copiedFrom cmdBufIn length (i + 3) ∧
      (overrunFrom cmdBufIn length i = 0 ↔
        i + 2 < length ∧ overrunFrom cmdBufIn length (i + 3) = 0) := by
  have hthree : cmdBufIn.read i 3 = [cmdBufIn i, cmdBufIn (i + 1), cmdBufIn (i + 2)] := rfl
  by_cases hone : i + 1 < length
  · by_cases htwo : i + 2 < length
    · simp [copiedFrom, overrunFrom, read_sub_of_lt hi, read_sub_of_lt hone, read_sub_of_lt htwo,
        copied, overrun, hcode, hthree, htwo]
    · obtain rfl : length = i + 2 := by omega
      simp [copiedFrom, overrunFrom, copied, overrun, hcode, hthree, Mem.read_succ]
  · obtain rfl : length = i + 1 := by omega
    simp [copiedFrom, overrunFrom, copied, overrun, hcode, hthree, Mem.read_succ]

/-- Of any other answer the code is copied or not, and the loop goes on with the next byte. -/
theorem copiedFrom_other {cmdBufIn : Mem} {length i : Nat} (hi : i < length)
    (hcode : cmdBufIn i ≠ MOTE_MAC_RX_PARAM_SETUP_ANS.code) :
    copiedFrom cmdBufIn length i =
        (if cmdBufIn i = MOTE_MAC_RX_TIMING_SETUP_ANS.code then [cmdBufIn i] else []) ++
          copiedFrom cmdBufIn length (i + 1) ∧
      overrunFrom cmdBufIn length i = overrunFrom cmdBufIn length (i + 1) := by
  simp only [copiedFrom, overrunFrom, read_sub_of_lt hi, copied, overrun, if_neg hcode, and_true]
  split <;> simp

/-- The loop copies what the scan copies, and reads behind the answers exactly if the scan
overruns them. It writes no further than it has read. -/
theorem parseMacCommandsFrom_spec (cmdBufIn : Mem) (length fuel i cmdCount : Nat)
    (cmdBufOut : Mem) (hfuel : length ≤ i + fuel) (hcount : cmdCount ≤ i) :
    ∃ accesses, parseMacCommandsFrom cmdBufIn length fuel i cmdCount cmdBufOut =
        (cmdCount + (copiedFrom cmdBufIn length i).length,
          cmdBufOut.write cmdCount (copiedFrom cmdBufIn length i), accesses) ∧
      ((∀ a ∈ accesses, a < length) ↔ overrunFrom cmdBufIn length i = 0) := by
  induction fuel generalizing i cmdCount cmdBufOut with
  | zero =>
    obtain ⟨hnone, hover⟩ := copiedFrom_of_le cmdBufIn (show length ≤ i from hfuel)
    exact ⟨[], by simp [parseMacCommandsFrom, hnone], by simp [hover]⟩
  | succ fuel ih =>
    rw [parseMacCommandsFrom]
    by_cases hend : length ≤ i
    · obtain ⟨hnone, hover⟩ := copiedFrom_of_le cmdBufIn hend
      exact ⟨[], by simp [hend, hnone], by simp [hover]⟩
    rw [if_neg hend]
    by_cases hsetup : cmdBufIn i = MOTE_MAC_RX_PARAM_SETUP_ANS.code
    · obtain ⟨hcopied, hover⟩ := copiedFrom_setup (Nat.lt_of_not_le hend) hsetup
      obtain ⟨accesses, hrest, hinside⟩ := ih (i + 3) (cmdCount + 3)
        (cmdBufOut.write cmdCount (cmdBufIn.read i 3)) (by omega) (by omega)
      refine ⟨List.range' i 3 ++ List.range' cmdCount 3 ++ accesses, ?_, ?_⟩
      · rw [if_pos hsetup, hrest, hcopied, ← Mem.write_write_append, Mem.length_read,
          List.length_append, Mem.length_read, Nat.add_assoc]
      · rw [hover, ← hinside]
        simp only [List.forall_mem_append, List.mem_range'_1]
        constructor
        · intro h
          exact ⟨h.1.1 (i + 2) (by omega), h.2⟩
        · intro h
          exact ⟨⟨fun a ha => by omega, fun a ha => by omega⟩, h.2⟩
    · obtain ⟨hcopied, hover⟩ := copiedFrom_other (Nat.lt_of_not_le hend) hsetup
      rw [if_neg hsetup]
      by_cases htiming : cmdBufIn i = MOTE_MAC_RX_TIMING_SETUP_ANS.code
      · obtain ⟨accesses, hrest, hinside⟩ := ih (i + 1) (cmdCount + 1)
          (cmdBufOut.write cmdCount [cmdBufIn i]) (by omega) (by omega)
        refine ⟨[i, cmdCount] ++ accesses, ?_, ?_⟩
        · rw [if_pos htiming, hrest, hcopied, if_pos htiming, ← Mem.write_write_append,
            List.length_append, Nat.add_assoc]
          rfl
        · rw [hover, ← hinside]
          simp only [List.forall_mem_append, List.forall_mem_cons]
          exact ⟨fun h => h.2, fun h => ⟨⟨by omega, by omega, by simp⟩, h⟩⟩
      · obtain ⟨accesses, hrest, hinside⟩ := ih (i + 1) cmdCount cmdBufOut (by omega) (by omega)
        refine ⟨i :: accesses, ?_, ?_⟩
        · rw [if_neg htiming, hrest, hcopied, if_neg htiming]
          rfl
        · rw [hover, ← hinside, List.forall_mem_cons]
          exact ⟨fun h => h.2, fun h => ⟨by omega, h⟩⟩

/-- A byte that the scan takes for the code of an answer to repeat. -/
def Mistakable (b : UInt8) : Prop :=
  b = MOTE_MAC_RX_PARAM_SETUP_ANS.code ∨ b = MOTE_MAC_RX_TIMING_SETUP_ANS.code

instance (b : UInt8) : Decidable (Mistakable b) :=
  inferInstanceAs (Decidable (_ ∨ _))

/-- The scan copies the answers to repeat and nothing else, when it still has to copy the first
`owed` bytes as the rest of a setup answer: any other answer is met with nothing owed, and none of
its bytes is taken for a code to repeat; and a setup answer whose code settles the debt has a
parameter that is. -/
def Separable : (owed : Nat) → List MoteAnswer → Prop
  | owed, [] => owed = 0
  | owed, a :: answers =>
    match a.cmd with
    | MOTE_MAC_RX_TIMING_SETUP_ANS => Separable (owed - 1) answers
    | MOTE_MAC_RX_PARAM_SETUP_ANS =>
      match owed with
      | 0 => Separable 1 answers
      | 1 => a.p1 = MOTE_MAC_RX_PARAM_SETUP_ANS.code ∧ Separable 2 answers ∨
          a.p1 = MOTE_MAC_RX_TIMING_SETUP_ANS.code ∧ Separable 0 answers
      | owed + 2 => Separable owed answers
    | _ => owed = 0 ∧ (∀ b ∈ a.bytes, ¬Mistakable b) ∧ Separable 0 answers

@[simp] theorem layout_cons (a : MoteAnswer) (answers : List MoteAnswer) :
    layout (a :: answers) = a.bytes ++ layout answers := rfl

theorem stickyBytes_cons (a : MoteAnswer) (answers : List MoteAnswer) :
    stickyBytes (a :: answers) =
      (if a.sticky = true then a.bytes else []) ++ stickyBytes answers := by
  unfold stickyBytes
  by_cases h : a.sticky = true <;> simp [h]

/-- What the scan copies begins with a code when nothing is owed. -/
theorem mistakable_of_copied {b : UInt8} {bs out : List UInt8} (h : copied 0 bs = b :: out) :
    Mistakable b := by
  induction bs with
  | nil => cases h
  | cons c bs ih =>
    rw [copied] at h
    split at h
    · next hc =>
      rw [(List.cons.inj h).1] at hc
      exact .inl hc
    · split at h
      · next hc =>
        rw [(List.cons.inj h).1] at hc
        exact .inr hc
      · exact ih h

/-- The scan of two stretches of bytes: the second one begins with what the first still owes. -/
theorem copied_append (owed : Nat) (bs rest : List UInt8) :
    copied owed (bs ++ rest) = copied owed bs ++ copied (overrun owed bs) rest ∧
      overrun owed (bs ++ rest) = overrun (overrun owed bs) rest := by
  induction bs generalizing owed with
  | nil => exact ⟨rfl, rfl⟩
  | cons b bs ih =>
    cases owed with
    | succ owed => simp [copied, overrun, ih]
    | zero =>
      simp only [List.cons_append, copied, overrun]
      split
      · simp [ih]
      · split <;> simp [ih]

theorem copied_timing (owed : Nat) (p1 p2 : UInt8) :
    copied owed (MoteAnswer.bytes ⟨MOTE_MAC_RX_TIMING_SETUP_ANS, p1, p2⟩) =
        [MOTE_MAC_RX_TIMING_SETUP_ANS.code] ∧
      overrun owed (MoteAnswer.bytes ⟨MOTE_MAC_RX_TIMING_SETUP_ANS, p1, p2⟩) = owed - 1 := by
  cases owed <;> exact ⟨rfl, rfl⟩

/-- Of a setup answer the scan misses the parameter at most. -/
theorem copied_setup (owed : Nat) (p1 p2 : UInt8) :
    copied owed (MoteAnswer.bytes ⟨MOTE_MAC_RX_PARAM_SETUP_ANS, p1, p2⟩) =
      MOTE_MAC_RX_PARAM_SETUP_ANS.code :: if owed = 1 ∧ ¬Mistakable p1 then [] else [p1] := by
  match owed with
  | 0 => rfl
  | 1 =>
    change _ :: copied 0 [p1] = _
    by_cases hsetup : p1 = MOTE_MAC_RX_PARAM_SETUP_ANS.code
    · simp [copied, Mistakable, hsetup]
    · by_cases htiming : p1 = MOTE_MAC_RX_TIMING_SETUP_ANS.code
      · simp [copied, Mistakable, htiming]
      · simp [copied, Mistakable, hsetup, htiming]
  | owed + 2 => simp [copied, MoteAnswer.bytes, LoRaMacMoteCmd_t.bytes]

/-- Once the scan is ahead of the answers to repeat it stays ahead: it can miss the parameter of
a setup answer only, right behind its code, which it has copied. -/
theorem append_copied_ne (answers : List MoteAnswer) (owed : Nat) {lead : List UInt8}
    (hlead : lead ≠ []) : lead ++ copied owed (layout answers) ≠ stickyBytes answers := by
  induction answers generalizing owed lead with
  | nil =>
    intro h
    exact hlead (List.append_eq_nil_iff.mp h).1
  | cons a answers ih =>
    obtain ⟨c, lead, rfl⟩ := List.exists_cons_of_ne_nil hlead
    rw [layout_cons, (copied_append ..).1, stickyBytes_cons, ← List.append_assoc]
    obtain ⟨cmd, p1, p2⟩ := a
    by_cases hsticky : MoteAnswer.sticky ⟨cmd, p1, p2⟩ = true
    · rw [if_pos hsticky]
      obtain rfl | rfl : cmd = MOTE_MAC_RX_PARAM_SETUP_ANS ∨ cmd = MOTE_MAC_RX_TIMING_SETUP_ANS := by
        simpa [MoteAnswer.sticky] using hsticky
      · intro h
        rw [copied_setup] at h
        have htail := (List.cons.inj h).2
        cases lead with
        | nil =>
          -- ahead by one byte, the code: what comes next is the parameter
          obtain ⟨hp1, hrest⟩ := List.cons.inj htail
          rw [if_neg (fun hmissed => hmissed.2 (.inl hp1.symm))] at hrest
          exact ih _ (by simp) hrest
        | cons d lead =>
          exact ih _ (by simp) (List.cons.inj htail).2
      · intro h
        rw [(copied_timing owed p1 p2).1] at h
        exact ih _ (by simp) (List.cons.inj h).2
    · rw [if_neg hsticky]
      exact ih _ (by simp)

/-- Nothing of a stretch of bytes is copied exactly when nothing is owed and no byte is taken
for a code. -/
theorem copied_eq_nil_iff (owed : Nat) {bs : List UInt8} (h : bs ≠ []) :
    copied owed bs = [] ↔ owed = 0 ∧ ∀ b ∈ bs, ¬Mistakable b := by
  cases owed with
  | succ owed =>
    obtain ⟨b, bs, rfl⟩ := List.exists_cons_of_ne_nil h
    simp [copied]
  | zero =>
    clear h
    induction bs with
    | nil => simp [copied]
    | cons b bs ih =>
      rw [copied, List.forall_mem_cons]
      by_cases hsetup : b = MOTE_MAC_RX_PARAM_SETUP_ANS.code
      · simp [hsetup, Mistakable]
      · by_cases htiming : b = MOTE_MAC_RX_TIMING_SETUP_ANS.code
        · rw [if_neg hsetup, if_pos htiming]
          simp [htiming, Mistakable]
        · rw [if_neg hsetup, if_neg htiming, ih]
          simp [hsetup, htiming, Mistakable]

theorem overrun_of_not_mistakable {bs : List UInt8} (h : ∀ b ∈ bs, ¬Mistakable b) :
    overrun 0 bs = 0 := by
  induction bs with
  | nil => rfl
  | cons b bs ih =>
    rw [List.forall_mem_cons] at h
    rw [overrun, if_neg (fun hb => h.1 (.inl hb)), ih h.2]

theorem separable_cons_other {a : MoteAnswer} (h : a.sticky = false) (owed : Nat)
    (answers : List MoteAnswer) :
    Separable owed (a :: answers) ↔
      owed = 0 ∧ (∀ b ∈ a.bytes, ¬Mistakable b) ∧ Separable 0 answers := by
  obtain ⟨cmd, p1, p2⟩ := a
  cases cmd with
  | MOTE_MAC_RX_PARAM_SETUP_ANS => cases h
  | MOTE_MAC_RX_TIMING_SETUP_ANS => cases h
  | _ => rfl

/-- The step of `separable_iff` for a setup answer. The third byte that the scan copies with it is
the first of what follows. -/
theorem separable_setup_iff (answers : List MoteAnswer) (owed : Nat) (p1 p2 : UInt8)
    (ih : ∀ owed, copied owed (layout answers) = stickyBytes answers ∧
      overrun owed (layout answers) = 0 ↔ Separable owed answers) :
    let a : MoteAnswer := ⟨MOTE_MAC_RX_PARAM_SETUP_ANS, p1, p2⟩
    copied owed a.bytes ++ copied (overrun owed a.bytes) (layout answers) =
          a.bytes ++ stickyBytes answers ∧
        overrun (overrun owed a.bytes) (layout answers) = 0 ↔
      Separable owed (a :: answers) := by
  intro a
  match owed with
  | 0 =>
    change a.bytes ++ copied 1 (layout answers) = _ ∧ overrun 1 (layout answers) = 0 ↔
      Separable 1 answers
    rw [List.append_cancel_left_eq, ih]
  | owed + 2 =>
    change a.bytes ++ copied owed (layout answers) = _ ∧ overrun owed (layout answers) = 0 ↔
      Separable owed answers
    rw [List.append_cancel_left_eq, ih]
  | 1 =>
    change _ ↔ p1 = MOTE_MAC_RX_PARAM_SETUP_ANS.code ∧ Separable 2 answers ∨
      p1 = MOTE_MAC_RX_TIMING_SETUP_ANS.code ∧ Separable 0 answers
    by_cases hmistaken : Mistakable p1
    · obtain rfl | rfl := hmistaken
      · change a.bytes ++ copied 2 (layout answers) = _ ∧ overrun 2 (layout answers) = 0 ↔ _
        rw [List.append_cancel_left_eq, ih]
        simp [LoRaMacMoteCmd_t.code]
      · change a.bytes ++ copied 0 (layout answers) = _ ∧ overrun 0 (layout answers) = 0 ↔ _
        rw [List.append_cancel_left_eq, ih]
        simp [LoRaMacMoteCmd_t.code]
    · -- the parameter is missed, and what is copied next is a code
      refine iff_of_false (fun h => ?_) (fun h => hmistaken (h.imp And.left And.left))
      rw [copied_setup, if_pos ⟨rfl, hmistaken⟩] at h
      have hnext := (List.cons.inj h.1).2
      have hover : overrun 1 a.bytes = 0 := by
        change overrun 0 [p1] = 0
        exact overrun_of_not_mistakable (by simpa using hmistaken)
      rw [hover] at hnext
      exact hmistaken (mistakable_of_copied hnext)

/-- The scan copies the answers to repeat and nothing else. -/
theorem separable_iff (answers : List MoteAnswer) (owed : Nat) :
    copied owed (layout answers) = stickyBytes answers ∧ overrun owed (layout answers) = 0 ↔
      Separable owed answers := by
  induction answers generalizing owed with
  | nil => simp [copied, overrun, layout, stickyBytes, Separable]
  | cons a answers ih =>
    rw [layout_cons, (copied_append ..).1, (copied_append ..).2, stickyBytes_cons]
    by_cases hsticky : a.sticky = true
    · rw [if_pos hsticky]
      obtain ⟨cmd, p1, p2⟩ := a
      obtain rfl | rfl : cmd = MOTE_MAC_RX_PARAM_SETUP_ANS ∨ cmd = MOTE_MAC_RX_TIMING_SETUP_ANS := by
        simpa [MoteAnswer.sticky] using hsticky
      · exact separable_setup_iff answers owed p1 p2 ih
      · rw [(copied_timing owed p1 p2).1, (copied_timing owed p1 p2).2]
        change [_] ++ _ = [_] ++ _ ∧ _ ↔ Separable (owed - 1) answers
        rw [List.append_cancel_left_eq, ih]
    · rw [if_neg hsticky, List.nil_append, separable_cons_other (Bool.eq_false_iff.mpr hsticky),
        ← and_assoc, ← copied_eq_nil_iff owed a.bytes_ne_nil]
      by_cases hnone : copied owed a.bytes = []
      · have hquiet := (copied_eq_nil_iff owed a.bytes_ne_nil).mp hnone
        rw [hnone, List.nil_append, hquiet.1, overrun_of_not_mistakable hquiet.2, ih]
        exact (and_iff_right rfl).symm
      · exact iff_of_false (fun h => append_copied_ne answers _ hnone h.1) (fun h => hnone h.1)

/-- `ParseMacCommandsToRepeat` gives back exactly the answers that have to be repeated, in order
and with their own parameters, and accesses nothing behind the answers that it is given. -/
structure Extracts (answers : List MoteAnswer) (cmdBufIn cmdBufOut : Mem) : Prop where
  size : (ParseMacCommandsToRepeat cmdBufIn (UInt8.ofNat (layout answers).length)
    cmdBufOut).1.toNat = (stickyBytes answers).length
  bytes : (ParseMacCommandsToRepeat cmdBufIn (UInt8.ofNat (layout answers).length)
    cmdBufOut).2.1.read 0 (stickyBytes answers).length = stickyBytes answers
  inside : ∀ i ∈ (ParseMacCommandsToRepeat cmdBufIn (UInt8.ofNat (layout answers).length)
    cmdBufOut).2.2, i < (layout answers).length

theorem length_copied_le (owed : Nat) (bs : List UInt8) : (copied owed bs).length ≤ bs.length := by
  induction bs generalizing owed with
  | nil => simp [copied]
  | cons b bs ih =>
    cases owed with
    | succ owed => simpa [copied] using ih owed
    | zero =>
      rw [copied]
      split
      · simpa using ih 2
      · split
        · simpa using ih 0
        · exact Nat.le_succ_of_le (ih 0)

/-- For every list of answers in a buffer of 15 bytes the scan gives back those to repeat and
nothing else, exactly when they are separable from the others. The scan takes every byte for a code,
and copies a setup answer with one byte more than it has. -/
theorem extracts_iff (answers : List MoteAnswer) (cmdBufIn cmdBufOut : Mem)
    (hin : cmdBufIn.read 0 (layout answers).length = layout answers)
    (hlength : (layout answers).length ≤ LORA_MAC_COMMAND_MAX_LENGTH) :
    Extracts answers cmdBufIn cmdBufOut ↔ Separable 0 answers := by
  change _ ≤ 15 at hlength
  have htoNat : (UInt8.ofNat (layout answers).length).toNat = (layout answers).length :=
    UInt8.toNat_ofNat_of_lt' (by change _ < 256; omega)
  obtain ⟨accesses, hparse, hinside⟩ := parseMacCommandsFrom_spec cmdBufIn
    (layout answers).length (layout answers).length 0 0 cmdBufOut (by omega) (by omega)
  have hover : overrunFrom cmdBufIn (layout answers).length 0 = overrun 0 (layout answers) := by
    rw [overrunFrom, Nat.sub_zero, hin]
  have hcopied : copiedFrom cmdBufIn (layout answers).length 0 = copied 0 (layout answers) ++
      cmdBufIn.read (layout answers).length (overrun 0 (layout answers)) := by
    rw [copiedFrom, hover, Nat.sub_zero, hin]
  rw [Nat.zero_add] at hparse
  have hresult : ParseMacCommandsToRepeat cmdBufIn (UInt8.ofNat (layout answers).length) cmdBufOut =
      (UInt8.ofNat (copiedFrom cmdBufIn (layout answers).length 0).length,
        cmdBufOut.write 0 (copiedFrom cmdBufIn (layout answers).length 0), accesses) := by
    rw [ParseMacCommandsToRepeat, htoNat, hparse]
  rw [← separable_iff, ← hover, ← hinside]
  constructor
  · rintro ⟨hsize, hbytes, hbelow⟩
    rw [hresult] at hsize hbytes hbelow
    refine ⟨?_, hbelow⟩
    have hnone := hinside.mp hbelow
    rw [hover] at hnone
    rw [hcopied, hnone, Mem.read_zero, List.append_nil] at hsize hbytes
    have hle := length_copied_le 0 (layout answers)
    rw [UInt8.toNat_ofNat_of_lt' (by change _ < 256; omega)] at hsize
    rw [← hsize, Mem.read_write_self] at hbytes
    exact hbytes
  · rintro ⟨hbytes, hbelow⟩
    have hnone := hinside.mp hbelow
    rw [hover] at hnone
    rw [hnone, Mem.read_zero, List.append_nil, hbytes] at hcopied
    have hle := length_copied_le 0 (layout answers)
    rw [hbytes] at hle
    constructor
    · rw [hresult, hcopied]
      exact UInt8.toNat_ofNat_of_lt' (by change _ < 256; omega)
    · rw [hresult, hcopied]
      exact Mem.read_write_self ..
    · rw [hresult]
      exact hbelow

/-- A link ADR answer and a timing answer. -/
def adrAndTiming : List MoteAnswer :=
  [⟨MOTE_MAC_LINK_ADR_ANS, 0x07, 0⟩, ⟨MOTE_MAC_RX_TIMING_SETUP_ANS, 0, 0⟩]

theorem extracts_iff_adrAndTiming :
    Extracts adrAndTiming (fun i => (layout adrAndTiming).getD i 0) (fun _ => 0) ↔
      Separable 0 adrAndTiming :=
  extracts_iff adrAndTiming (fun i => (layout adrAndTiming).getD i 0) (fun _ => 0) (by decide)
    (by decide)

/-- A setup answer and a status answer. -/
def setupAndStatus : List MoteAnswer :=
  [⟨MOTE_MAC_RX_PARAM_SETUP_ANS, 0x07, 0⟩, ⟨MOTE_MAC_DEV_STATUS_ANS, 255, 10⟩]

/-- The code of the status answer is repeated with the setup answer. -/
theorem not_extracts_setupAndStatus :
    (ParseMacCommandsToRepeat (fun i => (layout setupAndStatus).getD i 0) 5 (fun _ => 0)).1 = 3 ∧
      (ParseMacCommandsToRepeat (fun i => (layout setupAndStatus).getD i 0) 5
        (fun _ => 0)).2.1.read 0 3 = [0x05, 0x07, 0x06] ∧
      ¬Extracts setupAndStatus (fun i => (layout setupAndStatus).getD i 0) (fun _ => 0) := by
  refine ⟨by decide +kernel, by decide +kernel, fun h => ?_⟩
  exact absurd h.size (by decide +kernel)

end loranode.mac
