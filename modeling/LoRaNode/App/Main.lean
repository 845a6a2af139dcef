import LoRaNode.Coap.Client
import LoRaNode.Netif.Output

open loranode.lwip loranode.schc loranode.netif loranode.coap

namespace loranode.app

def LORAWAN_APP_PORT : UInt8 := 10
def LORAWAN_APP_DATA_SIZE : UInt8 := 4
def LORAWAN_CONFIRMED_MSG_ON : Bool := false
def LORAWAN_ADR_ON : Bool := true
def LORAWAN_DUTYCYCLE_ON : Bool := true

/-- The fields of `ComplianceTest` that the code uses. -/
structure ComplianceTest_s where
  Running : Bool
  State : UInt8
  DownLinkCounter : UInt16
  LinkCheck : Bool
  DemodMargin : UInt8
  NbGateways : UInt8
  deriving DecidableEq, Repr

/-- The bits of `LoRaMacEventFlags_t` that `OnMacEvent` looks at. -/
structure LoRaMacEventFlags_t where
  Rx : Bool
  RxData : Bool
  LinkCheck : Bool
  JoinAccept : Bool
  deriving DecidableEq, Repr

/-- The fields of `LoRaMacEventInfo_t` that the application reads. `RxBuffer` is the
memory that starts at the received payload. -/
structure LoRaMacEventInfo_t where
  RxPort : UInt8
  RxBuffer : Mem
  RxBufferSize : UInt8
  DemodMargin : UInt8
  NbGateways : UInt8

/-- A call of `LoRaMacSendFrame` or `LoRaMacSendConfirmedFrame`. `image` is the SCHC
image of the message that the last `PrepareTxFrame` built and passed down, if it did. -/
structure Sent where
  confirmed : Bool
  port : UInt8
  bytes : List UInt8
  image : Option (List UInt8)
  deriving DecidableEq, Repr

/-- Where the main loop stands: at the top, at the two checks, or inside
`PrepareTxFrame`, which on port 10 goes through `coap_output`, `udp_send`, `schc_output`
and `low_level_output`. `p` is the packet of the message and `c` the one that replaces
it. -/
inductive Pc where
  | schedule
  | retry
  | next
  | prepare
  | message (msg_send : coap_pdu)
  | udp_send (msg_send : coap_pdu) (p : pbuf_ptr)
  | copy (p c : pbuf_ptr)
  | size (p c : pbuf_ptr)
  | release (p c : pbuf_ptr)
  | send

/-- The globals of `main-api-v3.c`, with the state of the stack below. `image` and
`sent` are records that the code does not keep. -/
structure App where
  net : Net
  AppPort : UInt8
  IsTxConfirmed : Bool
  TxNextPacket : Bool
  ScheduleNextTx : Bool
  DownlinkStatusUpdate : Bool
  AppLedStateOn : Bool
  Led3StateChanged : Bool
  AdrOn : Bool
  DutyCycleOn : Bool
  linkCheckReqs : Nat
  ComplianceTest : ComplianceTest_s
  trySendingFrameAgain : Bool
  pc : Pc
  image : Option (List UInt8)
  sent : List Sent

/-- The application when `main` enters its loop. -/
def App.boot : App where
  net := Net.boot
  AppPort := LORAWAN_APP_PORT
  IsTxConfirmed := LORAWAN_CONFIRMED_MSG_ON
  TxNextPacket := true
  ScheduleNextTx := false
  DownlinkStatusUpdate := false
  AppLedStateOn := false
  Led3StateChanged := false
  AdrOn := LORAWAN_ADR_ON
  DutyCycleOn := LORAWAN_DUTYCYCLE_ON
  linkCheckReqs := 0
  ComplianceTest := ⟨false, 0, 0, false, 0, 0⟩
  trySendingFrameAgain := false
  pc := .schedule
  image := none
  sent := []

/-- What the mailbox holds. -/
def App.frame (s : App) : List UInt8 :=
  s.net.AppData.read 0 s.net.AppDataSize.toNat

/-- Assigns `AppDataSize`. -/
def App.setSize (s : App) (size : UInt8) : App :=
  { s with net := { s.net with AppDataSize := size } }

/-- Writes `bytes` to `AppData` from its start. -/
def App.store (s : App) (bytes : List UInt8) : App :=
  { s with net := { s.net with AppData := s.net.AppData.write 0 bytes } }

/-- The command that enables the compliance test. -/
def LoRaMacEventInfo_t.isEnableCommand (info : LoRaMacEventInfo_t) : Bool :=
  info.RxBufferSize == 4 && info.RxBuffer.read 0 4 == [1, 1, 1, 1]

/-- `case 224` of `ProcessRxFrame`. -/
def processCompliance (s : App) (info : LoRaMacEventInfo_t) : App :=
  if s.ComplianceTest.Running = false then
    if info.isEnableCommand then
      { s.setSize 2 with
        IsTxConfirmed := false
        AppPort := 224
        ComplianceTest := ⟨true, 1, 0, false, 0, 0⟩
        AdrOn := true
        DutyCycleOn := false }
    else s
  else
    let State := info.RxBuffer 0
    let s := { s with ComplianceTest := { s.ComplianceTest with State := State } }
    if State = 0 then
      { s.setSize LORAWAN_APP_DATA_SIZE with
        IsTxConfirmed := LORAWAN_CONFIRMED_MSG_ON
        AppPort := LORAWAN_APP_PORT
        ComplianceTest := { s.ComplianceTest with DownLinkCounter := 0, Running := false }
        AdrOn := LORAWAN_ADR_ON
        DutyCycleOn := LORAWAN_DUTYCYCLE_ON }
    else if State = 1 then s.setSize 2
    else if State = 2 then
      { s with IsTxConfirmed := true, ComplianceTest := { s.ComplianceTest with State := 1 } }
    else if State = 3 then
      { s with IsTxConfirmed := false, ComplianceTest := { s.ComplianceTest with State := 1 } }
    else if State = 4 then
      (s.setSize info.RxBufferSize).store
        (4 :: (info.RxBuffer.read 1 (info.RxBufferSize.toNat - 1)).map (· + 1))
    else if State = 5 then { s with linkCheckReqs := s.linkCheckReqs + 1 }
    else s

/-- `ProcessRxFrame`. The case of port 10 has no `break`: it goes on with that of 224. -/
def ProcessRxFrame (s : App) (info : LoRaMacEventInfo_t) : App :=
  if info.RxPort = 1 ∨ info.RxPort = 2 then
    if info.RxBufferSize = 1 then
      { s with AppLedStateOn := info.RxBuffer 0 &&& 1 ≠ 0, Led3StateChanged := true }
    else s
  else if info.RxPort = 10 then
    let s := (s.setSize info.RxBufferSize).store (info.RxBuffer.read 0 info.RxBufferSize.toNat)
    processCompliance { s with net := virtualloraif_input s.net } info
  else if info.RxPort = 224 then processCompliance s info
  else s

/-- `OnMacEvent`, which the MAC calls from a timer interrupt. -/
def OnMacEvent (s : App) (flags : LoRaMacEventFlags_t) (info : LoRaMacEventInfo_t) : App :=
  if flags.JoinAccept then { s with ScheduleNextTx := true }
  else if flags.Rx then
    let s :=
      if s.ComplianceTest.Running then
        let test := { s.ComplianceTest with DownLinkCounter := s.ComplianceTest.DownLinkCounter + 1 }
        { s with ComplianceTest :=
          if flags.LinkCheck then
            { test with
              LinkCheck := true, DemodMargin := info.DemodMargin, NbGateways := info.NbGateways }
          else test }
      else s
    let s := if flags.RxData then ProcessRxFrame s info else s
    { s with DownlinkStatusUpdate := true, ScheduleNextTx := true }
  else { s with ScheduleNextTx := true }

/-- What the main loop takes from outside: the message that `coap.c` builds, what lwIP
does with it, the status of the MAC, and what the board measures. -/
structure Input where
  msg_send : coap_pdu
  route : Route
  status : UInt8
  potiPercentage : UInt8
  vdd : UInt16

/-- `SendFrame`. After `LENGTH_ERROR`, an empty frame is sent to flush the MAC commands. -/
def SendFrame (s : App) (status : UInt8) : App :=
  let sent := s.sent ++ [⟨s.IsTxConfirmed, s.AppPort, s.frame, s.image⟩]
  if status = 3 then
    { s with sent := sent ++ [⟨false, 0, [], s.image⟩], trySendingFrameAgain := false }
  else { s with sent := sent, trySendingFrameAgain := status = 5 }

/-- The part of `PrepareTxFrame` that is not `coap_output`. -/
def PrepareTxFrame (s : App) (i : Input) : App :=
  if s.AppPort = 3 then
    s.store [if s.AppLedStateOn then 1 else 0, i.potiPercentage, (i.vdd >>> 8).toUInt8,
      i.vdd.toUInt8]
  else if s.AppPort = 224 then
    if s.ComplianceTest.LinkCheck then
      let s' := (s.setSize 3).store [5, s.ComplianceTest.DemodMargin, s.ComplianceTest.NbGateways]
      { s' with ComplianceTest := { s.ComplianceTest with LinkCheck := false, State := 1 } }
    else if s.ComplianceTest.State = 4 then
      { s with ComplianceTest := { s.ComplianceTest with State := 1 } }
    else if s.ComplianceTest.State = 1 then
      (s.setSize 2).store [(s.ComplianceTest.DownLinkCounter >>> 8).toUInt8,
        s.ComplianceTest.DownLinkCounter.toUInt8]
    else s
  else s

/-- The SCHC image of a packet: what `schc_output` stands for. -/
def schcImage (rules : RuleTable) (packet : List UInt8) : List UInt8 :=
  uplinkFrame rules (fun i => packet.getD i 0) packet.length

/-- The main loop, one statement at a time where an interrupt makes a difference. -/
def mainStep (s : App) (i : Input) : App :=
  match s.pc with
  | .schedule =>
    { s with
      Led3StateChanged := false
      DownlinkStatusUpdate := false
      ScheduleNextTx := false
      TxNextPacket := s.TxNextPacket || (s.ScheduleNextTx && s.ComplianceTest.Running)
      pc := .retry }
  | .retry =>
    if s.trySendingFrameAgain then { SendFrame s i.status with pc := .next }
    else { s with pc := .next }
  | .next =>
    if s.TxNextPacket then { s with TxNextPacket := false, pc := .prepare }
    else { s with pc := .schedule }
  | .prepare =>
    if s.AppPort = 10 then { s with image := none, pc := .message i.msg_send }
    else { PrepareTxFrame s i with image := none, pc := .send }
  | .message msg_send =>
    let (p, heap) := pbuf_alloc s.net.heap .PBUF_TRANSPORT msg_send.bytes.length .PBUF_RAM
    { s with
      net := { s.net with heap := (pbuf_take heap p msg_send.bytes).2 }
      pc := .udp_send msg_send p }
  | .udp_send msg_send p =>
    match i.route, p with
    | .refused _ _, _ => { s with pc := .send }
    | .routed _ _, none => { s with
        net := { s.net with
          trace := { s.net.trace with null_reads := s.net.trace.null_reads + 1 } }
        pc := .send }
    | .routed header _, some k =>
      let (c, net) := schc_output_packet { s.net with heap := pbuf_header s.net.heap k header } k
      { s with
        net := net
        image := some (schcImage s.net.rules (header ++ msg_send.bytes))
        pc := .copy p c }
  | .copy p c => { s with net := copyToAppData s.net c, pc := .size p c }
  | .size p c => { s with net := setAppDataSize s.net c, pc := .release p c }
  | .release p c => { s with
      net := { s.net with heap := pbuf_free (pbuf_free s.net.heap c) p }, pc := .send }
  | .send => { SendFrame s i.status with pc := .schedule }

/-- What can happen next: a callback of the MAC, the timer of the next packet, or the
main loop going on. -/
inductive Event where
  | macEvent (flags : LoRaMacEventFlags_t) (info : LoRaMacEventInfo_t)
  | txNextPacketTimer
  | main (input : Input)

def step (s : App) : Event → App
  | .macEvent flags info => OnMacEvent s flags info
  | .txNextPacketTimer => { s with TxNextPacket := true }
  | .main input => mainStep s input

end loranode.app
