import LoRaNode.App.Main

open loranode.netif

namespace loranode.app

/-- What the compliance test of the application works on, with the settings of the MAC that it
changes. -/
structure TestState where
  ComplianceTest : ComplianceTest_s
  IsTxConfirmed : Bool
  AppPort : UInt8
  AdrOn : Bool
  DutyCycleOn : Bool
  deriving DecidableEq, Repr

def App.testState (s : App) : TestState :=
  ⟨s.ComplianceTest, s.IsTxConfirmed, s.AppPort, s.AdrOn, s.DutyCycleOn⟩

/-- A payload that the compliance test does not react to. While it does not run, that is any
payload but the command that enables it. While it runs, the first byte is its next state: it must
be the present one, and a command for (un)confirmed messages must find these already in use. -/
def Ignored (s : App) (info : LoRaMacEventInfo_t) : Prop :=
  if s.ComplianceTest.Running = false then info.isEnableCommand = false
  else info.RxBuffer 0 ≠ 0 ∧
    if info.RxBuffer 0 = 2 then s.ComplianceTest.State = 1 ∧ s.IsTxConfirmed = true
    else if info.RxBuffer 0 = 3 then s.ComplianceTest.State = 1 ∧ s.IsTxConfirmed = false
    else s.ComplianceTest.State = info.RxBuffer 0

/-- A running test keeps its state exactly if it is set to the one it has. -/
theorem setState_eq_iff (test : ComplianceTest_s) (State : UInt8) :
    ({ test with State := State } : ComplianceTest_s) = test ↔ test.State = State := by
  cases test
  simp [eq_comm]

theorem testState_processCompliance_iff (s : App) (info : LoRaMacEventInfo_t) :
    (processCompliance s info).testState = s.testState ↔ Ignored s info := by
  unfold processCompliance Ignored
  cases hrunning : s.ComplianceTest.Running with
  | false =>
    by_cases henable : info.isEnableCommand = true
    · simp only [henable, if_true, App.testState, App.setSize, TestState.mk.injEq, Bool.true_eq_false,
        iff_false]
      rintro ⟨htest, -⟩
      rw [← htest] at hrunning
      cases hrunning
    · simp [henable]
  | true =>
    simp only [Bool.true_eq_false, if_false]
    by_cases h0 : info.RxBuffer 0 = 0
    · simp only [h0, if_true, App.testState, App.setSize, TestState.mk.injEq, ne_eq, not_true,
        false_and, iff_false]
      rintro ⟨htest, -⟩
      rw [← htest] at hrunning
      cases hrunning
    by_cases h1 : info.RxBuffer 0 = 1
    · simp [h1, App.testState, App.setSize, setState_eq_iff]
    by_cases h2 : info.RxBuffer 0 = 2
    · simp [h2, App.testState, setState_eq_iff]
    by_cases h3 : info.RxBuffer 0 = 3
    · simp [h3, App.testState, setState_eq_iff]
    by_cases h4 : info.RxBuffer 0 = 4
    · simp [h4, App.testState, App.setSize, App.store, setState_eq_iff]
    by_cases h5 : info.RxBuffer 0 = 5
    · simp [h5, App.testState, setState_eq_iff]
    · simp [h0, h1, h2, h3, h4, h5, App.testState, setState_eq_iff]

/-- Port 10 falls through to the compliance test: a downlink there leaves the test and its settings
alone exactly if the test does not react to it. That is so for every payload but the four bytes that
start the test while it is not running, and while it runs only for the few commands that set what is
set already. -/
theorem testState_ProcessRxFrame_iff (s : App) (info : LoRaMacEventInfo_t) (hport : info.RxPort = 10) :
    (ProcessRxFrame s info).testState = s.testState ↔ Ignored s info := by
  unfold ProcessRxFrame
  simp only [hport]
  exact testState_processCompliance_iff _ info

instance (s : App) (info : LoRaMacEventInfo_t) : Decidable (Ignored s info) :=
  inferInstanceAs (Decidable (ite _ _ _))

/-- A downlink with these bytes. -/
def LoRaMacEventInfo_t.ofBytes (RxPort : UInt8) (bytes : List UInt8) : LoRaMacEventInfo_t :=
  ⟨RxPort, fun i => bytes.getD i 0, UInt8.ofNat bytes.length, 0, 0⟩

/-- A frame under rule 1 does not reach a test that is not running. -/
theorem testState_ProcessRxFrame_iff_rule1 :
    (ProcessRxFrame App.boot (.ofBytes 10 [1, 0x60, 0x45])).testState = App.boot.testState :=
  (testState_ProcessRxFrame_iff App.boot (.ofBytes 10 [1, 0x60, 0x45]) rfl).mpr (by decide)

/-- Four bytes of 1 on port 10, which start with the id of rule 1, enable the test. -/
theorem not_testState_ProcessRxFrame_ones :
    (ProcessRxFrame App.boot (.ofBytes 10 [1, 1, 1, 1])).testState ≠ App.boot.testState := by
  decide

/-- The application inside `ProcessRxFrame`, and the accesses made so far: the indices at which
`RxBuffer` was read and those at which `AppData` was written. -/
structure RxRun where
  state : App
  reads : List Nat
  writes : List Nat

/-- The byte at `i` of the received payload is read. -/
def RxRun.read (r : RxRun) (i : Nat) : RxRun := { r with reads := r.reads ++ [i] }

/-- `AppData[i] = byte`. -/
def RxRun.assign (r : RxRun) (i : Nat) (byte : UInt8) : RxRun :=
  { r with
    state := { r.state with net := { r.state.net with AppData := r.state.net.AppData.write i [byte] } }
    writes := r.writes ++ [i] }

/-- The loops of `ProcessRxFrame`: `n` turns of `AppData[i] = f( RxBuffer[i] )` from `i` on. -/
def copyLoop (info : LoRaMacEventInfo_t) (f : UInt8 → UInt8) : (n i : Nat) → RxRun → RxRun
  | 0, _, r => r
  | n + 1, i, r => copyLoop info f n (i + 1) ((r.read i).assign i (f (info.RxBuffer i)))

/-- The bytes that the check for the enable command reads: it stops at the first byte that is
not 1. -/
def LoRaMacEventInfo_t.enableReads (info : LoRaMacEventInfo_t) : List Nat :=
  if info.RxBufferSize = 4 then
    (List.range 4).filter fun i => (List.range i).all fun j => info.RxBuffer j == 1
  else []

/-- `case 224` of `ProcessRxFrame` with its accesses. Apart from the echo it leaves `AppData`
alone. -/
def complianceRun (r : RxRun) (info : LoRaMacEventInfo_t) : RxRun :=
  if r.state.ComplianceTest.Running = false then
    { r with state := processCompliance r.state info, reads := r.reads ++ info.enableReads }
  else if info.RxBuffer 0 = 4 then
    let test := { r.state.ComplianceTest with State := 4 }
    let r := { r.read 0 with
      state := { r.state.setSize info.RxBufferSize with ComplianceTest := test } }
    copyLoop info (· + 1) (info.RxBufferSize.toNat - 1) 1 (r.assign 0 4)
  else { r.read 0 with state := processCompliance r.state info }

/-- `ProcessRxFrame` with its accesses. -/
def rxFrameRun (s : App) (info : LoRaMacEventInfo_t) : RxRun :=
  if info.RxPort = 1 ∨ info.RxPort = 2 then
    ⟨ProcessRxFrame s info, if info.RxBufferSize = 1 then [0] else [], []⟩
  else if info.RxPort = 10 then
    let r := copyLoop info id info.RxBufferSize.toNat 0 ⟨s.setSize info.RxBufferSize, [], []⟩
    complianceRun { r with state := { r.state with net := virtualloraif_input r.state.net } } info
  else if info.RxPort = 224 then complianceRun ⟨s, [], []⟩ info
  else ⟨s, [], []⟩

/-- A loop stores the bytes it reads as one string, and accesses both buffers at the same
indices. -/
theorem copyLoop_eq (info : LoRaMacEventInfo_t) (f : UInt8 → UInt8) (n i : Nat) (r : RxRun) :
    copyLoop info f n i r =
      ⟨{ r.state with net := { r.state.net with
          AppData := r.state.net.AppData.write i ((info.RxBuffer.read i n).map f) } },
        r.reads ++ List.range' i n, r.writes ++ List.range' i n⟩ := by
  induction n generalizing i r with
  | zero => simp [copyLoop]
  | succ n ih =>
    rw [copyLoop, ih, Mem.read_succ, List.map_cons]
    have hwrite := Mem.write_write_append r.state.net.AppData i [f (info.RxBuffer i)]
      ((info.RxBuffer.read (i + 1) n).map f)
    simp only [List.length_singleton, List.singleton_append] at hwrite
    simp [RxRun.read, RxRun.assign, hwrite, List.range'_succ]

theorem state_complianceRun (r : RxRun) (info : LoRaMacEventInfo_t) :
    (complianceRun r info).state = processCompliance r.state info := by
  unfold complianceRun
  split
  · rfl
  · next hrunning =>
    split
    · next hecho =>
      have hwrite := Mem.write_write_append r.state.net.AppData 0 [4]
        ((info.RxBuffer.read 1 (info.RxBufferSize.toNat - 1)).map (· + 1))
      simp only [List.length_singleton, Nat.zero_add, List.singleton_append] at hwrite
      simp [copyLoop_eq, RxRun.read, RxRun.assign, processCompliance, hrunning, hecho, App.setSize,
        App.store, hwrite]
    · rfl

/-- Without its accesses the run is `ProcessRxFrame`. -/
theorem state_rxFrameRun (s : App) (info : LoRaMacEventInfo_t) :
    (rxFrameRun s info).state = ProcessRxFrame s info := by
  unfold rxFrameRun
  split
  · rfl
  · next hled =>
    split
    · next hport =>
      rw [state_complianceRun, copyLoop_eq, List.map_id, ProcessRxFrame, if_neg hled, if_pos hport]
      rfl
    · next hother =>
      split
      · next hport =>
        rw [state_complianceRun, ProcessRxFrame, if_neg hled, if_neg hother, if_pos hport]
      · next hport =>
        rw [ProcessRxFrame, if_neg hled, if_neg hother, if_neg hport]

/-- `case 224` gives `AppDataSize` a new value. -/
def resizes (s : App) (info : LoRaMacEventInfo_t) : Bool :=
  if s.ComplianceTest.Running then
    info.RxBuffer 0 == 0 || info.RxBuffer 0 == 1 || info.RxBuffer 0 == 4
  else info.isEnableCommand

/-- `ProcessRxFrame` reads the received payload only up to its size, writes only within `AppData`,
and leaves no larger size than that of `AppData`. -/
structure WithinBuffers (s : App) (info : LoRaMacEventInfo_t) : Prop where
  reads : ∀ i ∈ (rxFrameRun s info).reads, i < info.RxBufferSize.toNat
  writes : ∀ i ∈ (rxFrameRun s info).writes, i < sizeofAppData
  size : (ProcessRxFrame s info).net.AppDataSize.toNat ≤ sizeofAppData

/-- What a downlink must meet: on port 10 it fits into `AppData`; where the running test takes its
first byte there is one, and what it echoes fits; and `AppDataSize` is good if it is not set. -/
structure FitsBuffers (s : App) (info : LoRaMacEventInfo_t) : Prop where
  copied : info.RxPort = 10 → info.RxBufferSize.toNat ≤ sizeofAppData
  command : info.RxPort = 10 ∨ info.RxPort = 224 → s.ComplianceTest.Running = true →
    0 < info.RxBufferSize.toNat
  echoed : info.RxPort = 224 → s.ComplianceTest.Running = true → info.RxBuffer 0 = 4 →
    info.RxBufferSize.toNat ≤ sizeofAppData
  kept : info.RxPort ≠ 10 → ¬(info.RxPort = 224 ∧ resizes s info = true) →
    s.net.AppDataSize.toNat ≤ sizeofAppData

theorem enableReads_lt (info : LoRaMacEventInfo_t) : ∀ i ∈ info.enableReads,
    i < info.RxBufferSize.toNat := by
  intro i hi
  unfold LoRaMacEventInfo_t.enableReads at hi
  split at hi
  · next hsize =>
    rw [hsize]
    exact List.mem_range.mp (List.mem_filter.mp hi).1
  · cases hi

theorem reads_complianceRun_iff (r : RxRun) (info : LoRaMacEventInfo_t) :
    (∀ i ∈ (complianceRun r info).reads, i < info.RxBufferSize.toNat) ↔
      (∀ i ∈ r.reads, i < info.RxBufferSize.toNat) ∧
        (r.state.ComplianceTest.Running = true → 0 < info.RxBufferSize.toNat) := by
  unfold complianceRun
  cases hrunning : r.state.ComplianceTest.Running with
  | false =>
    simp only [if_true, List.forall_mem_append, Bool.false_eq_true, false_implies, and_true]
    exact and_iff_left (enableReads_lt info)
  | true =>
    simp only [Bool.true_eq_false, if_false, true_implies]
    split
    · simp only [copyLoop_eq, RxRun.read, RxRun.assign, List.forall_mem_append,
        List.forall_mem_singleton, and_assoc]
      refine and_congr_right fun _ => and_iff_left_of_imp fun hpos i hi => ?_
      obtain ⟨hle, hlt⟩ := List.mem_range'_1.mp hi
      omega
    · simp only [RxRun.read, List.forall_mem_append, List.forall_mem_singleton]

theorem writes_complianceRun_iff (r : RxRun) (info : LoRaMacEventInfo_t) :
    (∀ i ∈ (complianceRun r info).writes, i < sizeofAppData) ↔
      (∀ i ∈ r.writes, i < sizeofAppData) ∧
        (r.state.ComplianceTest.Running = true → info.RxBuffer 0 = 4 →
          info.RxBufferSize.toNat ≤ sizeofAppData) := by
  unfold complianceRun
  cases hrunning : r.state.ComplianceTest.Running with
  | false => simp
  | true =>
    simp only [Bool.true_eq_false, if_false, true_implies]
    split
    · next hecho =>
      simp only [copyLoop_eq, RxRun.read, RxRun.assign, List.forall_mem_append,
        List.forall_mem_singleton, and_assoc, hecho, true_implies]
      refine and_congr_right fun _ => ⟨fun ⟨hzero, hrest⟩ => ?_, fun hsize => ⟨by decide, ?_⟩⟩
      · by_contra hlarge
        exact hlarge (by have := hrest sizeofAppData (List.mem_range'_1.mpr (by omega)); omega)
      · intro i hi
        obtain ⟨hle, hlt⟩ := List.mem_range'_1.mp hi
        omega
    · next hecho => simp [RxRun.read, hecho]

theorem size_processCompliance_iff (s : App) (info : LoRaMacEventInfo_t) :
    (processCompliance s info).net.AppDataSize.toNat ≤ sizeofAppData ↔
      (s.ComplianceTest.Running = true → info.RxBuffer 0 = 4 →
        info.RxBufferSize.toNat ≤ sizeofAppData) ∧
      (resizes s info = false → s.net.AppDataSize.toNat ≤ sizeofAppData) := by
  unfold processCompliance resizes
  cases hrunning : s.ComplianceTest.Running with
  | false =>
    by_cases henable : info.isEnableCommand = true
    · simp [henable, App.setSize, sizeofAppData]
    · simp [henable]
  | true =>
    simp only [Bool.true_eq_false, if_false, if_true, true_implies]
    by_cases h0 : info.RxBuffer 0 = 0
    · simp [h0, App.setSize, sizeofAppData, LORAWAN_APP_DATA_SIZE]
    by_cases h1 : info.RxBuffer 0 = 1
    · simp [h1, App.setSize, sizeofAppData]
    by_cases h4 : info.RxBuffer 0 = 4
    · simp [h4, App.setSize, App.store]
    by_cases h2 : info.RxBuffer 0 = 2
    · simp [h2]
    by_cases h3 : info.RxBuffer 0 = 3
    · simp [h3]
    by_cases h5 : info.RxBuffer 0 = 5
    · simp [h5]
    · simp [h0, h1, h2, h3, h4, h5]

/-- Reception leaves the mailbox as it is, since `ip6_input` answers nothing here. -/
theorem AppDataSize_virtualloraif_input (s : Net) :
    (virtualloraif_input s).AppDataSize = s.AppDataSize := by
  have hlow : (low_level_input s).2.AppDataSize = s.AppDataSize := by
    unfold low_level_input
    dsimp only
    split <;> rfl
  have hschc (s : Net) (p : Nat) : (schc_input s p).2.AppDataSize = s.AppDataSize := by
    unfold schc_input
    dsimp only
    split <;> rfl
  unfold virtualloraif_input
  generalize low_level_input s = x at hlow ⊢
  obtain ⟨_ | p, t⟩ := x
  · exact hlow
  · have hinput := (hschc t p).trans hlow
    dsimp only
    generalize schc_input t p = x at hinput ⊢
    split <;> exact hinput

theorem reads_rxFrameRun_iff (s : App) (info : LoRaMacEventInfo_t) :
    (∀ i ∈ (rxFrameRun s info).reads, i < info.RxBufferSize.toNat) ↔
      (info.RxPort = 10 ∨ info.RxPort = 224 → s.ComplianceTest.Running = true →
        0 < info.RxBufferSize.toNat) := by
  unfold rxFrameRun
  split
  · next hled =>
    have hport : ¬(info.RxPort = 10 ∨ info.RxPort = 224) := by
      rcases hled with h | h <;> simp [h]
    split
    · next hsize => simp [hsize, hport]
    · simp [hport]
  · split
    · next hport =>
      rw [reads_complianceRun_iff]
      simp [copyLoop_eq, hport, App.setSize]
    · next hother =>
      split
      · next hport =>
        rw [reads_complianceRun_iff]
        simp [hport]
      · next hport => simp [hother, hport]

theorem writes_rxFrameRun_iff (s : App) (info : LoRaMacEventInfo_t) :
    (∀ i ∈ (rxFrameRun s info).writes, i < sizeofAppData) ↔
      (info.RxPort = 10 → info.RxBufferSize.toNat ≤ sizeofAppData) ∧
        (info.RxPort = 224 → s.ComplianceTest.Running = true → info.RxBuffer 0 = 4 →
          info.RxBufferSize.toNat ≤ sizeofAppData) := by
  unfold rxFrameRun
  split
  · next hled => rcases hled with h | h <;> simp [h]
  · split
    · next hport =>
      have hcopied : (∀ i ∈ List.range' 0 info.RxBufferSize.toNat, i < sizeofAppData) ↔
          info.RxBufferSize.toNat ≤ sizeofAppData := by
        refine ⟨fun h => Nat.not_lt.mp fun hlt => ?_, fun hle i hi => ?_⟩
        · exact absurd (h sizeofAppData (List.mem_range'_1.mpr (by omega))) (Nat.lt_irrefl _)
        · have := (List.mem_range'_1.mp hi).2
          omega
      rw [writes_complianceRun_iff, copyLoop_eq]
      simp only [List.nil_append, hcopied, hport, true_implies]
      refine ⟨fun h => ⟨h.1, fun h224 => absurd h224 (by decide)⟩, fun h => ⟨h.1, fun _ _ => h.1⟩⟩
    · next hother =>
      split
      · next hport =>
        rw [writes_complianceRun_iff]
        simp [hport]
      · next hport => simp [hother, hport]

/-- `ProcessRxFrame` keeps within `AppData` and the received payload exactly on such downlinks.
Nothing is assumed of the state or of the frame: the copy of port 10 and the echo of the test are
bounded by the size of the payload only, and the running test reads the first byte also of an empty
one. -/
theorem withinBuffers_iff (s : App) (info : LoRaMacEventInfo_t) :
    WithinBuffers s info ↔ FitsBuffers s info := by
  have hreads := reads_rxFrameRun_iff s info
  have hwrites := writes_rxFrameRun_iff s info
  have hsize (hcopied : info.RxPort = 10 → info.RxBufferSize.toNat ≤ sizeofAppData)
      (hechoed : info.RxPort = 224 → s.ComplianceTest.Running = true → info.RxBuffer 0 = 4 →
        info.RxBufferSize.toNat ≤ sizeofAppData) :
      (ProcessRxFrame s info).net.AppDataSize.toNat ≤ sizeofAppData ↔
        (info.RxPort ≠ 10 → ¬(info.RxPort = 224 ∧ resizes s info = true) →
          s.net.AppDataSize.toNat ≤ sizeofAppData) := by
    unfold ProcessRxFrame
    split
    · next hled =>
      have hport : info.RxPort ≠ 10 ∧ info.RxPort ≠ 224 := by
        rcases hled with h | h <;> simp [h]
      split <;> simp [hport]
    · split
      · next hport =>
        rw [size_processCompliance_iff]
        simp only [hport, ne_eq, not_true, false_implies, iff_true]
        refine ⟨fun _ _ => hcopied hport, fun _ => ?_⟩
        rw [AppDataSize_virtualloraif_input]
        exact hcopied hport
      · next hother =>
        split
        · next hport =>
          rw [size_processCompliance_iff, and_iff_right (hechoed hport)]
          simp [hport]
        · next hport => simp [hother, hport]
  constructor
  · intro h
    obtain ⟨hcopied, hechoed⟩ := hwrites.mp h.writes
    exact ⟨hcopied, hreads.mp h.reads, hechoed, (hsize hcopied hechoed).mp h.size⟩
  · intro h
    exact ⟨hreads.mpr h.command, hwrites.mpr ⟨h.copied, h.echoed⟩,
      (hsize h.copied h.echoed).mpr h.kept⟩

/-- A downlink of 242 bytes, the largest that the radio can receive, overruns `AppData`. -/
theorem not_withinBuffers_largest :
    ¬ WithinBuffers App.boot (.ofBytes 10 (List.replicate 242 0)) := by
  intro h
  have hcopied := ((writes_rxFrameRun_iff _ _).mp h.writes).1 rfl
  exact absurd hcopied (by decide +kernel)

end loranode.app
