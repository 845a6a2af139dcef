import LoRaNode.Lib.Memory
import LoRaNode.Mac.State
import Mathlib.Data.List.Infix
import Mathlib.Logic.Function.Iterate

open loranode.mac (RadioState_t)

namespace loranode.radio

inductive RadioModems_t where
  | MODEM_FSK
  | MODEM_LORA
deriving DecidableEq

structure RadioFskSettings_t where
  FixLen : Bool
  TxTimeout : UInt32

structure RadioFskPacketHandler_t where
  Size : UInt16
  NbBytes : UInt16
  FifoThresh : UInt8
  ChunkSize : UInt8

structure RadioLoRaSettings_t where
  FreqHopOn : Bool
  IqInverted : Bool
  TxTimeout : UInt32

structure RadioLoRaPacketHandler_t where
  Size : UInt8

/-- The driver and the chip: its registers, the bytes that were written to its FIFO since the
reset, and those that it has received and that are still to be read. A timer that runs shows the
time it was started with, and `RxTimeout` counts the calls of the callback. -/
structure SX1272_t where
  State : RadioState_t
  Modem : RadioModems_t
  Fsk : RadioFskSettings_t
  FskPacketHandler : RadioFskPacketHandler_t
  LoRa : RadioLoRaSettings_t
  LoRaPacketHandler : RadioLoRaPacketHandler_t
  RxTxBuffer : Mem
  registers : UInt8 → UInt8
  written : List UInt8
  received : List UInt8
  RxTimeoutTimer : Option UInt32
  TxTimeoutTimer : Option UInt32
  RxTimeout : Nat

def REG_OPMODE : UInt8 := 0x01
def REG_PAYLOADLENGTH : UInt8 := 0x32
def REG_FIFOTHRESH : UInt8 := 0x35
def REG_DIOMAPPING1 : UInt8 := 0x40
def REG_DIOMAPPING2 : UInt8 := 0x41
def REG_LR_FIFOADDRPTR : UInt8 := 0x0D
def REG_LR_FIFOTXBASEADDR : UInt8 := 0x0E
def REG_LR_IRQFLAGSMASK : UInt8 := 0x11
def REG_LR_IRQFLAGS : UInt8 := 0x12
def REG_LR_PAYLOADLENGTH : UInt8 := 0x22
def REG_LR_INVERTIQ : UInt8 := 0x33
def REG_LR_INVERTIQ2 : UInt8 := 0x3B

def RF_OPMODE_MASK : UInt8 := 0xF8
def RF_OPMODE_SLEEP : UInt8 := 0x00
def RF_OPMODE_STANDBY : UInt8 := 0x01
def RF_OPMODE_TRANSMITTER : UInt8 := 0x03

def RF_DIOMAPPING1_DIO0_MASK : UInt8 := 0x3F
def RF_DIOMAPPING1_DIO1_MASK : UInt8 := 0xCF
def RF_DIOMAPPING1_DIO1_01 : UInt8 := 0x10
def RF_DIOMAPPING1_DIO2_MASK : UInt8 := 0xF3
def RF_DIOMAPPING2_DIO4_MASK : UInt8 := 0x3F
def RF_DIOMAPPING2_MAP_MASK : UInt8 := 0xFE
def RFLR_DIOMAPPING1_DIO0_MASK : UInt8 := 0x3F
def RFLR_DIOMAPPING1_DIO0_01 : UInt8 := 0x40
def RFLR_DIOMAPPING1_DIO2_MASK : UInt8 := 0xF3
def RFLR_DIOMAPPING1_DIO2_00 : UInt8 := 0x00

def RFLR_IRQFLAGS_RXTIMEOUT : UInt8 := 0x80
def RFLR_IRQFLAGS_RXDONE : UInt8 := 0x40
def RFLR_IRQFLAGS_PAYLOADCRCERROR : UInt8 := 0x20
def RFLR_IRQFLAGS_VALIDHEADER : UInt8 := 0x10
def RFLR_IRQFLAGS_CADDONE : UInt8 := 0x04
def RFLR_IRQFLAGS_FHSSCHANGEDCHANNEL : UInt8 := 0x02
def RFLR_IRQFLAGS_CADDETECTED : UInt8 := 0x01

def RFLR_INVERTIQ_RX_MASK : UInt8 := 0xBF
def RFLR_INVERTIQ_RX_OFF : UInt8 := 0x00
def RFLR_INVERTIQ_TX_MASK : UInt8 := 0xFE
def RFLR_INVERTIQ_TX_OFF : UInt8 := 0x01
def RFLR_INVERTIQ_TX_ON : UInt8 := 0x00
def RFLR_INVERTIQ2_ON : UInt8 := 0x19
def RFLR_INVERTIQ2_OFF : UInt8 := 0x1D

def SX1272Write (s : SX1272_t) (addr data : UInt8) : SX1272_t :=
  { s with registers := Function.update s.registers addr data }

def SX1272Read (s : SX1272_t) (addr : UInt8) : UInt8 := s.registers addr

/-- `size` bytes of a buffer, from `off` on, go into the FIFO of the radio. -/
def SX1272WriteFifo (s : SX1272_t) (buffer : Mem) (off : Nat) (size : UInt8) : SX1272_t :=
  { s with written := s.written ++ buffer.read off size.toNat }

/-- `size` bytes out of the FIFO of the radio, which reads as zero where it is empty. -/
def SX1272ReadFifo (s : SX1272_t) (size : UInt8) : List UInt8 × SX1272_t :=
  ((List.range size.toNat).map fun i => s.received.getD i 0,
    { s with received := s.received.drop size.toNat })

def SX1272SetOpMode (s : SX1272_t) (opMode : UInt8) : SX1272_t :=
  SX1272Write s REG_OPMODE ((SX1272Read s REG_OPMODE &&& RF_OPMODE_MASK) ||| opMode)

def SX1272SetStby (s : SX1272_t) : SX1272_t :=
  let s := { s with RxTimeoutTimer := none, TxTimeoutTimer := none }
  let s := SX1272SetOpMode s RF_OPMODE_STANDBY
  { s with State := .RF_IDLE }

/-- `SX1272SetTx` in the FSK mode: what DIO1 tells is that the FIFO is empty. -/
def setTxFsk (s : SX1272_t) : SX1272_t :=
  let s := SX1272Write s REG_DIOMAPPING1
    ((SX1272Read s REG_DIOMAPPING1 &&& RF_DIOMAPPING1_DIO0_MASK &&& RF_DIOMAPPING1_DIO1_MASK &&&
      RF_DIOMAPPING1_DIO2_MASK) ||| RF_DIOMAPPING1_DIO1_01)
  let s := SX1272Write s REG_DIOMAPPING2
    (SX1272Read s REG_DIOMAPPING2 &&& RF_DIOMAPPING2_DIO4_MASK &&& RF_DIOMAPPING2_MAP_MASK)
  { s with FskPacketHandler.FifoThresh := SX1272Read s REG_FIFOTHRESH &&& 0x3F }

/-- `SX1272SetTx` in the LoRa mode: the interrupts that stay masked. -/
def setTxLoRa (s : SX1272_t) : SX1272_t :=
  if s.LoRa.FreqHopOn = true then
    let s := SX1272Write s REG_LR_IRQFLAGSMASK
      (RFLR_IRQFLAGS_RXTIMEOUT ||| RFLR_IRQFLAGS_RXDONE ||| RFLR_IRQFLAGS_PAYLOADCRCERROR |||
        RFLR_IRQFLAGS_VALIDHEADER ||| RFLR_IRQFLAGS_CADDONE ||| RFLR_IRQFLAGS_CADDETECTED)
    SX1272Write s REG_DIOMAPPING1
      ((SX1272Read s REG_DIOMAPPING1 &&& RFLR_DIOMAPPING1_DIO0_MASK &&&
        RFLR_DIOMAPPING1_DIO2_MASK) ||| RFLR_DIOMAPPING1_DIO0_01 ||| RFLR_DIOMAPPING1_DIO2_00)
  else
    let s := SX1272Write s REG_LR_IRQFLAGSMASK
      (RFLR_IRQFLAGS_RXTIMEOUT ||| RFLR_IRQFLAGS_RXDONE ||| RFLR_IRQFLAGS_PAYLOADCRCERROR |||
        RFLR_IRQFLAGS_VALIDHEADER ||| RFLR_IRQFLAGS_CADDONE |||
        RFLR_IRQFLAGS_FHSSCHANGEDCHANNEL ||| RFLR_IRQFLAGS_CADDETECTED)
    SX1272Write s REG_DIOMAPPING1
      ((SX1272Read s REG_DIOMAPPING1 &&& RFLR_DIOMAPPING1_DIO0_MASK) ||| RFLR_DIOMAPPING1_DIO0_01)

def SX1272SetTx (s : SX1272_t) (timeout : UInt32) : SX1272_t :=
  let s := match s.Modem with
    | .MODEM_FSK => setTxFsk s
    | .MODEM_LORA => setTxLoRa s
  let s := { s with State := .RF_TX_RUNNING, TxTimeoutTimer := some timeout }
  SX1272SetOpMode s RF_OPMODE_TRANSMITTER

/-- The FSK part of `SX1272Send`. Only a packet that does not fit is kept in `RxTxBuffer`, where
the interrupts find the rest of it. -/
def sendFsk (s : SX1272_t) (buffer : Mem) (size : UInt8) : SX1272_t :=
  let s := { s with FskPacketHandler.NbBytes := 0, FskPacketHandler.Size := size.toUInt16 }
  let s := if s.Fsk.FixLen = false then SX1272WriteFifo s (fun _ => size) 0 1
    else SX1272Write s REG_PAYLOADLENGTH size
  let s := if size > 0 ∧ size ≤ 64 then { s with FskPacketHandler.ChunkSize := size }
    else { s with
      RxTxBuffer := s.RxTxBuffer.write 0 (buffer.read 0 size.toNat),
      FskPacketHandler.ChunkSize := 32 }
  let s := SX1272WriteFifo s buffer 0 s.FskPacketHandler.ChunkSize
  { s with FskPacketHandler.NbBytes :=
      s.FskPacketHandler.NbBytes + s.FskPacketHandler.ChunkSize.toUInt16 }

/-- The LoRa part of `SX1272Send`. -/
def sendLoRa (s : SX1272_t) (buffer : Mem) (size : UInt8) : SX1272_t :=
  let invertIq := SX1272Read s REG_LR_INVERTIQ &&& RFLR_INVERTIQ_TX_MASK &&& RFLR_INVERTIQ_RX_MASK
  let s := if s.LoRa.IqInverted = true then
      let s := SX1272Write s REG_LR_INVERTIQ
        (invertIq ||| RFLR_INVERTIQ_RX_OFF ||| RFLR_INVERTIQ_TX_ON)
      SX1272Write s REG_LR_INVERTIQ2 RFLR_INVERTIQ2_ON
    else
      let s := SX1272Write s REG_LR_INVERTIQ
        (invertIq ||| RFLR_INVERTIQ_RX_OFF ||| RFLR_INVERTIQ_TX_OFF)
      SX1272Write s REG_LR_INVERTIQ2 RFLR_INVERTIQ2_OFF
  let s := { s with LoRaPacketHandler.Size := size }
  let s := SX1272Write s REG_LR_PAYLOADLENGTH size
  let s := SX1272Write s REG_LR_FIFOTXBASEADDR 0
  let s := SX1272Write s REG_LR_FIFOADDRPTR 0
  let s := if SX1272Read s REG_OPMODE &&& ~~~RF_OPMODE_MASK = RF_OPMODE_SLEEP then SX1272SetStby s
    else s
  SX1272WriteFifo s buffer 0 size

def SX1272Send (s : SX1272_t) (buffer : Mem) (size : UInt8) : SX1272_t :=
  match s.Modem with
  | .MODEM_FSK => SX1272SetTx (sendFsk s buffer size) s.Fsk.TxTimeout
  | .MODEM_LORA => SX1272SetTx (sendLoRa s buffer size) s.LoRa.TxTimeout

/-- The difference is taken in `int`. -/
def RadioFskPacketHandler_t.left (h : RadioFskPacketHandler_t) : Int :=
  h.Size.toNat - h.NbBytes.toNat

/-- The FifoLevel interrupt: the length of the packet is read first, into the low byte of `Size`. -/
def onFifoLevel (s : SX1272_t) : SX1272_t :=
  let s := if s.FskPacketHandler.Size = 0 ∧ s.FskPacketHandler.NbBytes = 0 then
      if s.Fsk.FixLen = false then
        let (bytes, s) := SX1272ReadFifo s 1
        { s with FskPacketHandler.Size :=
            (s.FskPacketHandler.Size &&& 0xFF00) ||| (bytes.getD 0 0).toUInt16 }
      else { s with FskPacketHandler.Size := (SX1272Read s REG_PAYLOADLENGTH).toUInt16 }
    else s
  let h := s.FskPacketHandler
  if h.left > h.FifoThresh.toNat then
    let (bytes, s) := SX1272ReadFifo s h.FifoThresh
    { s with
      RxTxBuffer := s.RxTxBuffer.write h.NbBytes.toNat bytes,
      FskPacketHandler.NbBytes := h.NbBytes + h.FifoThresh.toUInt16 }
  else
    let (bytes, s) := SX1272ReadFifo s (h.Size - h.NbBytes).toUInt8
    { s with
      RxTxBuffer := s.RxTxBuffer.write h.NbBytes.toNat bytes,
      FskPacketHandler.NbBytes := h.NbBytes + (h.Size - h.NbBytes) }

/-- The FifoEmpty interrupt. -/
def onFifoEmpty (s : SX1272_t) : SX1272_t :=
  let h := s.FskPacketHandler
  if h.left > h.ChunkSize.toNat then
    let s := SX1272WriteFifo s s.RxTxBuffer h.NbBytes.toNat h.ChunkSize
    { s with FskPacketHandler.NbBytes := h.NbBytes + h.ChunkSize.toUInt16 }
  else
    let s := SX1272WriteFifo s s.RxTxBuffer h.NbBytes.toNat (h.Size - h.NbBytes).toUInt8
    { s with FskPacketHandler.NbBytes := h.NbBytes + (h.Size - h.NbBytes) }

def SX1272OnDio1Irq (s : SX1272_t) : SX1272_t :=
  match s.State, s.Modem with
  | .RF_RX_RUNNING, .MODEM_FSK => onFifoLevel s
  | .RF_RX_RUNNING, .MODEM_LORA =>
    let s := { s with RxTimeoutTimer := none }
    let s := SX1272Write s REG_LR_IRQFLAGS RFLR_IRQFLAGS_RXTIMEOUT
    { s with State := .RF_IDLE, RxTimeout := s.RxTimeout + 1 }
  | .RF_TX_RUNNING, .MODEM_FSK => onFifoEmpty s
  | .RF_TX_RUNNING, .MODEM_LORA => s
  | .RF_IDLE, _ => s
  | .RF_CAD, _ => s

/-- The radio after a packet is handed to it and DIO1 has come `n` times. -/
def sending (s : SX1272_t) (buffer : Mem) (size : UInt8) (n : Nat) : SX1272_t :=
  SX1272OnDio1Irq^[n] (SX1272Send s buffer size)

/-- What a receiver expects: the length of the packet and the packet. -/
def packet (buffer : Mem) (size : UInt8) : List UInt8 := size :: buffer.read 0 size.toNat

/-- The packet is streamed: the radio never gets more than the packet, and it has got all of it
when there was an interrupt for every 32 bytes. -/
structure Streams (s : SX1272_t) (buffer : Mem) (size : UInt8) : Prop where
  only : ∀ n, ∃ bytes, bytes <+: packet buffer size ∧
    (sending s buffer size n).written = s.written ++ bytes
  whole : ∀ n, (size.toNat + 31) / 32 ≤ n →
    (sending s buffer size n).written = s.written ++ packet buffer size

/-- How far the packet is after `n` interrupts: either all of it is written, or 32 bytes for each
of them and 32 at the start, and the rest stands in `RxTxBuffer`. -/
structure Streaming (s : SX1272_t) (buffer : Mem) (size : UInt8) (n : Nat) (t : SX1272_t) :
    Prop where
  State : t.State = .RF_TX_RUNNING
  Modem : t.Modem = .MODEM_FSK
  Size : t.FskPacketHandler.Size.toNat = size.toNat
  NbBytes : t.FskPacketHandler.NbBytes.toNat ≤ size.toNat
  written : t.written =
    s.written ++ size :: buffer.read 0 t.FskPacketHandler.NbBytes.toNat
  rest : t.FskPacketHandler.NbBytes.toNat = size.toNat ∨
    t.FskPacketHandler.NbBytes.toNat = 32 * (n + 1) ∧ t.FskPacketHandler.ChunkSize = 32 ∧
      t.RxTxBuffer.read 0 size.toNat = buffer.read 0 size.toNat

/-- What is written from the buffer of the caller. -/
def firstChunk (size : UInt8) : UInt8 := if size > 0 ∧ size ≤ 64 then size else 32

section

variable {s : SX1272_t} (buffer : Mem) (size : UInt8)

theorem SX1272SetTx_fsk (hmodem : s.Modem = .MODEM_FSK) (timeout : UInt32) :
    ∃ registers thresh, SX1272SetTx s timeout = { s with
      State := .RF_TX_RUNNING
      TxTimeoutTimer := some timeout
      registers := registers
      FskPacketHandler.FifoThresh := thresh } := by
  have hfsk : SX1272SetTx s timeout = SX1272SetOpMode
      { setTxFsk s with State := .RF_TX_RUNNING, TxTimeoutTimer := some timeout }
      RF_OPMODE_TRANSMITTER := by
    unfold SX1272SetTx
    rw [hmodem]
  rw [hfsk]
  exact ⟨_, _, rfl⟩

theorem sendFsk_eq (hfix : s.Fsk.FixLen = false) : sendFsk s buffer size = { s with
    written := s.written ++ size :: buffer.read 0 (firstChunk size).toNat
    RxTxBuffer := (sendFsk s buffer size).RxTxBuffer
    FskPacketHandler := { s.FskPacketHandler with
      Size := size.toUInt16
      NbBytes := (firstChunk size).toUInt16
      ChunkSize := firstChunk size } } := by
  have hlength : Mem.read (fun _ => size) 0 1 = [size] := rfl
  unfold sendFsk firstChunk
  by_cases hfits : size > 0 ∧ size ≤ 64
  · simp [hfix, hfits, SX1272WriteFifo, hlength]
  · simp [hfix, hfits, SX1272WriteFifo, hlength]

variable {size}

/-- A packet that does not fit is kept. -/
theorem sendFsk_RxTxBuffer (hlong : ¬(size > 0 ∧ size ≤ 64)) :
    (sendFsk s buffer size).RxTxBuffer.read 0 size.toNat = buffer.read 0 size.toNat := by
  have hcopy (m : Mem) :
      (m.write 0 (buffer.read 0 size.toNat)).read 0 size.toNat = buffer.read 0 size.toNat := by
    simpa using m.read_write_self 0 (buffer.read 0 size.toNat)
  simp [sendFsk, hlong, SX1272WriteFifo, hcopy]

variable (size) in
theorem SX1272Send_fsk (hmodem : s.Modem = .MODEM_FSK) (hfix : s.Fsk.FixLen = false) :
    ∃ registers thresh, SX1272Send s buffer size = { s with
      State := .RF_TX_RUNNING
      TxTimeoutTimer := some s.Fsk.TxTimeout
      registers := registers
      written := s.written ++ size :: buffer.read 0 (firstChunk size).toNat
      RxTxBuffer := (sendFsk s buffer size).RxTxBuffer
      FskPacketHandler :=
        ⟨size.toUInt16, (firstChunk size).toUInt16, thresh, firstChunk size⟩ } := by
  have hsend := sendFsk_eq buffer size hfix
  have hfsk : (sendFsk s buffer size).Modem = .MODEM_FSK := by
    rw [hsend]
    exact hmodem
  obtain ⟨registers, thresh, hset⟩ := SX1272SetTx_fsk hfsk s.Fsk.TxTimeout
  refine ⟨registers, thresh, ?_⟩
  have hbranch : SX1272Send s buffer size =
      SX1272SetTx (sendFsk s buffer size) s.Fsk.TxTimeout := by
    unfold SX1272Send
    rw [hmodem]
  rw [hbranch, hset, hsend]

theorem streaming_SX1272Send (hmodem : s.Modem = .MODEM_FSK) (hfix : s.Fsk.FixLen = false)
    (hsize : size ≠ 0) : Streaming s buffer size 0 (SX1272Send s buffer size) := by
  obtain ⟨registers, thresh, hsend⟩ := SX1272Send_fsk buffer size hmodem hfix
  rw [hsend]
  have hpos : size > 0 := UInt8.pos_iff_ne_zero.mpr hsize
  by_cases hfits : size > 0 ∧ size ≤ 64
  · have hfirst : firstChunk size = size := if_pos hfits
    exact ⟨rfl, hmodem, by simp, by simp [hfirst], by simp, .inl (by simp [hfirst])⟩
  · have hfirst : firstChunk size = 32 := if_neg hfits
    have hlong : 64 < size.toNat := by
      have hlt : 64 < size := UInt8.not_le.mp fun hle => hfits ⟨hpos, hle⟩
      exact UInt8.lt_iff_toNat_lt.mp hlt
    refine ⟨rfl, hmodem, by simp, ?_, by simp, .inr ⟨by simp [hfirst], hfirst, ?_⟩⟩
    · simp [hfirst]
      omega
    · exact sendFsk_RxTxBuffer buffer hfits

/-- One more interrupt: the bytes that follow are written, from `RxTxBuffer`. -/
theorem streaming_SX1272OnDio1Irq {n : Nat} {t : SX1272_t} (h : Streaming s buffer size n t) :
    Streaming s buffer size (n + 1) (SX1272OnDio1Irq t) := by
  have hirq : SX1272OnDio1Irq t = onFifoEmpty t := by
    unfold SX1272OnDio1Irq
    rw [h.State, h.Modem]
  have hword := size.toNat_lt
  have hSize := h.Size
  have hNbBytes := h.NbBytes
  rw [hirq]
  unfold onFifoEmpty RadioFskPacketHandler_t.left
  dsimp only
  split
  · next hmore =>
    obtain hdone | ⟨hnext, hchunk, hkept⟩ := h.rest
    · omega
    rw [hchunk] at hmore ⊢
    have hsum : (t.FskPacketHandler.NbBytes + (32 : UInt8).toUInt16).toNat =
        t.FskPacketHandler.NbBytes.toNat + 32 := by
      simp
      omega
    have hroom : t.FskPacketHandler.NbBytes.toNat + 32 ≤ size.toNat := by
      have : (32 : UInt8).toNat = 32 := rfl
      omega
    refine ⟨h.State, h.Modem, h.Size, hsum.trans_le hroom, ?_,
      .inr ⟨hsum.trans (by omega), hchunk, hkept⟩⟩
    change t.written ++ t.RxTxBuffer.read t.FskPacketHandler.NbBytes.toNat 32 = s.written ++
      size :: buffer.read 0 (t.FskPacketHandler.NbBytes + (32 : UInt8).toUInt16).toNat
    rw [hsum, h.written, Mem.read_part hkept hroom, Mem.read_add]
    simp
  · have hle : t.FskPacketHandler.NbBytes ≤ t.FskPacketHandler.Size :=
      UInt16.le_iff_toNat_le.mpr (hNbBytes.trans hSize.ge)
    have hleft : (t.FskPacketHandler.Size - t.FskPacketHandler.NbBytes).toUInt8.toNat =
        size.toNat - t.FskPacketHandler.NbBytes.toNat := by
      rw [UInt16.toNat_toUInt8, UInt16.toNat_sub_of_le _ _ hle, hSize]
      omega
    have hsum : (t.FskPacketHandler.NbBytes +
        (t.FskPacketHandler.Size - t.FskPacketHandler.NbBytes)).toNat = size.toNat := by
      rw [UInt16.add_comm, UInt16.sub_add_cancel, hSize]
    have hrest : t.RxTxBuffer.read t.FskPacketHandler.NbBytes.toNat
          (size.toNat - t.FskPacketHandler.NbBytes.toNat) =
        buffer.read t.FskPacketHandler.NbBytes.toNat
          (size.toNat - t.FskPacketHandler.NbBytes.toNat) := by
      obtain hdone | ⟨-, -, hkept⟩ := h.rest
      · simp [hdone]
      · exact Mem.read_part hkept (by omega)
    refine ⟨h.State, h.Modem, h.Size, hsum.le, ?_, .inl hsum⟩
    change t.written ++ t.RxTxBuffer.read t.FskPacketHandler.NbBytes.toNat
        (t.FskPacketHandler.Size - t.FskPacketHandler.NbBytes).toUInt8.toNat = s.written ++
      size :: buffer.read 0 (t.FskPacketHandler.NbBytes +
        (t.FskPacketHandler.Size - t.FskPacketHandler.NbBytes)).toNat
    have hsplit := Mem.read_add buffer 0 t.FskPacketHandler.NbBytes.toNat
      (size.toNat - t.FskPacketHandler.NbBytes.toNat)
    rw [Nat.add_sub_cancel' hNbBytes, Nat.zero_add] at hsplit
    rw [hsum, hleft, h.written, hrest, hsplit]
    simp

theorem streaming_sending (hmodem : s.Modem = .MODEM_FSK) (hfix : s.Fsk.FixLen = false)
    (hsize : size ≠ 0) (n : Nat) : Streaming s buffer size n (sending s buffer size n) := by
  induction n with
  | zero => exact streaming_SX1272Send buffer hmodem hfix hsize
  | succ n ih =>
    unfold sending
    rw [Function.iterate_succ_apply']
    exact streaming_SX1272OnDio1Irq buffer ih

/-- A packet is streamed exactly if it is not empty, whatever its size, its bytes and the number of
interrupts. For an empty one the driver takes the branch of the long packets, and writes 32 bytes
that belong to no packet. -/
theorem streams_iff (hmodem : s.Modem = .MODEM_FSK) (hfix : s.Fsk.FixLen = false) :
    Streams s buffer size ↔ size ≠ 0 := by
  constructor
  · rintro ⟨honly, -⟩ rfl
    obtain ⟨registers, thresh, hsend⟩ := SX1272Send_fsk buffer 0 hmodem hfix
    obtain ⟨bytes, hbytes, hwritten⟩ := honly 0
    change (SX1272Send s buffer 0).written = s.written ++ bytes at hwritten
    rw [hsend] at hwritten
    rw [← List.append_cancel_left hwritten] at hbytes
    exact absurd hbytes.length_le (by simp [packet, firstChunk])
  · intro hsize
    have hstreaming := streaming_sending buffer hmodem hfix hsize
    refine ⟨fun n => ⟨_, ?_, (hstreaming n).written⟩, fun n hn => ?_⟩
    · rw [← Mem.take_read buffer 0 (hstreaming n).NbBytes]
      exact List.cons_prefix_cons.mpr ⟨rfl, List.take_prefix _ _⟩
    · have hdone : (sending s buffer size n).FskPacketHandler.NbBytes.toNat = size.toNat := by
        obtain hdone | ⟨hnext, -⟩ := (hstreaming n).rest
        · exact hdone
        · have hle := (hstreaming n).NbBytes
          omega
      rw [(hstreaming n).written, hdone, packet]

end

/-- A radio that was set up for FSK packets of any length. -/
def fskRadio : SX1272_t where
  State := .RF_IDLE
  Modem := .MODEM_FSK
  Fsk := ⟨false, 3000000⟩
  FskPacketHandler := ⟨0, 0, 0, 0⟩
  LoRa := ⟨false, false, 3000000⟩
  LoRaPacketHandler := ⟨0⟩
  RxTxBuffer := fun _ => 0
  registers := fun _ => 0
  written := []
  received := []
  RxTimeoutTimer := none
  TxTimeoutTimer := none
  RxTimeout := 0

/-- The longest packet. -/
theorem streams_iff_longest : fskRadio.Modem = .MODEM_FSK ∧ fskRadio.Fsk.FixLen = false ∧
    Streams fskRadio (fun i => UInt8.ofNat i) 255 :=
  ⟨rfl, rfl, (streams_iff _ rfl rfl).mpr (by decide)⟩

/-- A request of the proprietary kind may have no payload, and its packet is empty then: behind
the length 0 the radio gets 32 bytes of whatever stands in the buffer. -/
theorem not_streams_empty : ¬Streams fskRadio (fun i => UInt8.ofNat i) 0 := by
  rintro ⟨honly, -⟩
  obtain ⟨bytes, hbytes, hwritten⟩ := honly 0
  have hlength : bytes.length = 33 := (congrArg List.length hwritten).symm
  have hle := hbytes.length_le
  rw [hlength] at hle
  exact absurd hle (by decide)

end loranode.radio
