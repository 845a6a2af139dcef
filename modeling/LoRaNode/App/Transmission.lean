import LoRaNode.App.Main
import LoRaNode.Coap.Ownership
import LoRaNode.Lib.Transition
import LoRaNode.Netif.RoundTrip

open loranode.lwip loranode.schc loranode.netif loranode.coap word transition

namespace loranode.app

/-- The three statements of `low_level_output`, and the `pbuf_free` of `coap_output`. -/
theorem mainStep_low_level_output {s : App} {p c : pbuf_ptr} (i : Input) (hpc : s.pc = .copy p c) :
    mainStep (mainStep (mainStep s i) i) i =
      { s with
        net := { (low_level_output s.net c).2 with
          heap := pbuf_free (low_level_output s.net c).2.heap p }
        pc := .send } := by
  have hcopy : mainStep s i = { s with net := copyToAppData s.net c, pc := .size p c } := by
    simp only [mainStep, hpc]
  rw [hcopy]
  rfl

/-- From the call of `udp_send` on, the main loop does what `coap_output` does. -/
theorem mainStep_iterate_udp_send {s : App} {msg_send : coap_pdu} {p : pbuf_ptr} (i : Input)
    (hpc : s.pc = .udp_send msg_send p) :
    ∃ n, ((mainStep · i)^[n] s).pc = .send ∧ ((mainStep · i)^[n] s).net =
      if (coap.udp_send s.net p i.route).1 ≠ .ERR_OK then (coap.udp_send s.net p i.route).2
      else { (coap.udp_send s.net p i.route).2 with
        heap := pbuf_free (coap.udp_send s.net p i.route).2.heap p } := by
  cases hroute : i.route with
  | refused err herr =>
    have hstep : mainStep s i = { s with pc := .send } := by
      simp only [mainStep, hpc, hroute]
    refine ⟨1, ?_⟩
    rw [coap.udp_send, if_pos herr, Function.iterate_one, hstep]
    exact ⟨rfl, rfl⟩
  | routed header hlength =>
    cases p with
    | none =>
      have hstep : mainStep s i = { s with
          net := { s.net with
            trace := { s.net.trace with null_reads := s.net.trace.null_reads + 1 } }
          pc := .send } := by
        simp only [mainStep, hpc, hroute]
      refine ⟨1, ?_⟩
      rw [Function.iterate_one, hstep]
      simp only [coap.udp_send, ne_eq, not_true, if_false, pbuf_free_null, and_self]
    | some k =>
      obtain ⟨c, net, hpacket⟩ : ∃ c net, schc_output_packet
          { s.net with heap := pbuf_header s.net.heap k header } k = (c, net) := ⟨_, _, rfl⟩
      have hstep : ∃ image, mainStep s i =
          { s with net := net, image := image, pc := .copy (some k) c } := by
        simp only [mainStep, hpc, hroute, hpacket]
        exact ⟨_, rfl⟩
      obtain ⟨image, hstep⟩ := hstep
      refine ⟨4, ?_⟩
      have hlow := mainStep_low_level_output (s := mainStep s i) (p := some k) (c := c) i
        (by rw [hstep])
      rw [Function.iterate_succ_apply, Function.iterate_succ_apply, Function.iterate_succ_apply,
        Function.iterate_one, hlow, hstep]
      simp only [coap.udp_send, schc_output, hpacket, schc_frag, true_and]
      rfl

/-- Left alone, the steps of the main loop inside `PrepareTxFrame` are `coap_output`. -/
theorem mainStep_iterate_coap_output {s : App} {msg_send : coap_pdu} (i : Input)
    (hpc : s.pc = .message msg_send) :
    ∃ n, ((mainStep · i)^[n] s).pc = .send ∧
      ((mainStep · i)^[n] s).net = (coap_output s.net msg_send i.route).2 := by
  obtain ⟨p, h, halloc⟩ : ∃ p h, pbuf_alloc s.net.heap .PBUF_TRANSPORT msg_send.bytes.length
      .PBUF_RAM = (p, h) := ⟨_, _, rfl⟩
  have hmessage : mainStep s i = { s with
      net := { s.net with heap := (pbuf_take h p msg_send.bytes).2 }
      pc := .udp_send msg_send p } := by
    simp only [mainStep, hpc, halloc]
  have hpc' : (mainStep s i).pc = .udp_send msg_send p := by
    rw [hmessage]
  obtain ⟨n, hsend, hnet⟩ := mainStep_iterate_udp_send i hpc'
  refine ⟨n + 1, hsend, hnet.trans ?_⟩
  rw [hmessage]
  simp only [coap_output, halloc]
  split <;> rfl

theorem headers_congr {b b' : Mem} (h : ∀ i < 48, b i = b' i) :
    ipv6_hdr.ofBuffer b = ipv6_hdr.ofBuffer b' ∧
      udp_schc_hdr.ofBuffer b = udp_schc_hdr.ofBuffer b' := by
  constructor
  · simp (disch := decide) only [ipv6_hdr.ofBuffer, v6_addr.ofBuffer, le32At, be16At, h]
  · simp (disch := decide) only [udp_schc_hdr.ofBuffer, be16At, h]

/-- The image of a packet depends on its own bytes only. -/
theorem uplinkFrame_congr {rules : RuleTable} {b b' : Mem} {len : Nat} (hlow : 48 ≤ len)
    (h : ∀ i < len, b i = b' i) : uplinkFrame rules b len = uplinkFrame rules b' len := by
  obtain ⟨hip, hudp⟩ := headers_congr fun i hi => h i (by omega)
  have hpayload : b.read 48 (len - 48) = b'.read 48 (len - 48) :=
    Mem.read_eq_read_iff.2 fun i hi => h (48 + i) (by omega)
  have hpacket : b.read 0 len = b'.read 0 len :=
    Mem.read_eq_read_iff.2 fun i hi => by rw [Nat.zero_add, h i hi]
  unfold uplinkFrame ruleMatches
  rw [hip, hudp, hpayload, hpacket]

/-- The mailbox and the port are out of reach of a callback unless it delivers data on
port 10, or one of the four commands of the compliance test that touch them. -/
def disturbs (s : App) (flags : LoRaMacEventFlags_t) (info : LoRaMacEventInfo_t) : Bool :=
  !flags.JoinAccept && flags.Rx && flags.RxData &&
    (info.RxPort == 10 || info.RxPort == 224 &&
      if s.ComplianceTest.Running then
        info.RxBuffer 0 == 0 || info.RxBuffer 0 == 1 || info.RxBuffer 0 == 4
      else info.isEnableCommand)

/-- A frame has been prepared, or is being prepared, and waits to be sent. -/
def App.waiting (s : App) : Bool :=
  match s.pc with
  | .schedule | .retry | .next | .prepare => s.trySendingFrameAgain
  | _ => true

/-- The parts of the state that the main loop's own progress consists of. -/
structure SameProgress (s s' : App) : Prop where
  pc : s'.pc = s.pc
  image : s'.image = s.image
  sent : s'.sent = s.sent
  trySendingFrameAgain : s'.trySendingFrameAgain = s.trySendingFrameAgain
  rules : s'.net.rules = s.net.rules

theorem SameProgress.refl (s : App) : SameProgress s s :=
  ⟨rfl, rfl, rfl, rfl, rfl⟩

theorem SameProgress.trans {s₁ s₂ s₃ : App} (h : SameProgress s₁ s₂) (h' : SameProgress s₂ s₃) :
    SameProgress s₁ s₃ :=
  ⟨h'.pc.trans h.pc, h'.image.trans h.image, h'.sent.trans h.sent,
    h'.trySendingFrameAgain.trans h.trySendingFrameAgain, h'.rules.trans h.rules⟩

theorem rules_low_level_input (s : Net) : (low_level_input s).2.rules = s.rules := by
  simp only [low_level_input]
  split <;> rfl

theorem rules_schc_input (s : Net) (p : Nat) : (schc_input s p).2.rules = s.rules := by
  simp only [schc_input, ip6_input]
  split <;> rfl

theorem rules_virtualloraif_input (s : Net) : (virtualloraif_input s).rules = s.rules := by
  have hinput := rules_low_level_input s
  unfold virtualloraif_input
  cases hreceived : low_level_input s with
  | mk p s' =>
    rw [hreceived] at hinput
    cases p with
    | none => exact hinput
    | some p =>
      have hschc := (rules_schc_input s' p).trans hinput
      simp only
      split <;> exact hschc

theorem sameProgress_processCompliance (s : App) (info : LoRaMacEventInfo_t) :
    SameProgress s (processCompliance s info) := by
  simp only [processCompliance, App.setSize, App.store]
  split_ifs <;> exact ⟨rfl, rfl, rfl, rfl, rfl⟩

theorem sameProgress_ProcessRxFrame (s : App) (info : LoRaMacEventInfo_t) :
    SameProgress s (ProcessRxFrame s info) := by
  simp only [ProcessRxFrame]
  split_ifs
  · exact ⟨rfl, rfl, rfl, rfl, rfl⟩
  · exact .refl s
  · refine .trans ?_ (sameProgress_processCompliance _ info)
    exact ⟨rfl, rfl, rfl, rfl, rules_virtualloraif_input ((s.setSize info.RxBufferSize).store
      (info.RxBuffer.read 0 info.RxBufferSize.toNat)).net⟩
  · exact sameProgress_processCompliance s info
  · exact .refl s

/-- `OnMacEvent` keeps the main loop where it is. -/
theorem sameProgress_OnMacEvent (s : App) (flags : LoRaMacEventFlags_t)
    (info : LoRaMacEventInfo_t) : SameProgress s (OnMacEvent s flags info) := by
  simp only [OnMacEvent]
  split
  · exact ⟨rfl, rfl, rfl, rfl, rfl⟩
  · split
    · generalize htest : (if s.ComplianceTest.Running = true then _ else s : App) = s₁
      have hfirst : SameProgress s s₁ := by
        rw [← htest]
        split <;> exact ⟨rfl, rfl, rfl, rfl, rfl⟩
      refine hfirst.trans ?_
      split
      · have hrx := sameProgress_ProcessRxFrame s₁ info
        exact ⟨hrx.pc, hrx.image, hrx.sent, hrx.trySendingFrameAgain, hrx.rules⟩
      · exact ⟨rfl, rfl, rfl, rfl, rfl⟩
    · exact ⟨rfl, rfl, rfl, rfl, rfl⟩

/-- A command that is none of the four leaves the mailbox and the port as they are. -/
theorem processCompliance_quiet {s : App} {info : LoRaMacEventInfo_t}
    (hquiet : (if s.ComplianceTest.Running then
      info.RxBuffer 0 == 0 || info.RxBuffer 0 == 1 || info.RxBuffer 0 == 4
        else info.isEnableCommand) = false) :
    (processCompliance s info).net = s.net ∧ (processCompliance s info).AppPort = s.AppPort := by
  unfold processCompliance
  cases hrunning : s.ComplianceTest.Running with
  | false =>
    rw [hrunning] at hquiet
    simp only [Bool.false_eq_true, if_false] at hquiet
    simp [hquiet]
  | true =>
    rw [hrunning] at hquiet
    simp only [if_true, Bool.or_eq_false_iff, beq_eq_false_iff_ne] at hquiet
    obtain ⟨⟨h0, h1⟩, h4⟩ := hquiet
    simp only [Bool.true_eq_false, if_false, if_neg h0, if_neg h1, if_neg h4]
    split_ifs <;> exact ⟨rfl, rfl⟩

theorem ProcessRxFrame_quiet {s : App} {info : LoRaMacEventInfo_t}
    (hquiet : (info.RxPort == 10 || info.RxPort == 224 &&
      if s.ComplianceTest.Running then
        info.RxBuffer 0 == 0 || info.RxBuffer 0 == 1 || info.RxBuffer 0 == 4
      else info.isEnableCommand) = false) :
    (ProcessRxFrame s info).net = s.net ∧ (ProcessRxFrame s info).AppPort = s.AppPort := by
  rw [Bool.or_eq_false_iff, beq_eq_false_iff_ne] at hquiet
  obtain ⟨hport, hcommand⟩ := hquiet
  simp only [ProcessRxFrame, if_neg hport]
  split_ifs with hled hone htest
  · exact ⟨rfl, rfl⟩
  · exact ⟨rfl, rfl⟩
  · rw [htest] at hcommand
    exact processCompliance_quiet (by simpa using hcommand)
  · exact ⟨rfl, rfl⟩

/-- What `disturbs` leaves out: any other callback keeps the mailbox and the port. -/
theorem OnMacEvent_quiet {s : App} {flags : LoRaMacEventFlags_t} {info : LoRaMacEventInfo_t}
    (hquiet : disturbs s flags info = false) :
    (OnMacEvent s flags info).net = s.net ∧ (OnMacEvent s flags info).AppPort = s.AppPort := by
  simp only [OnMacEvent]
  split
  · exact ⟨rfl, rfl⟩
  · rename_i hjoin
    split
    · rename_i hrx
      generalize htest : (if s.ComplianceTest.Running = true then _ else s : App) = s₁
      have hfirst : s₁.net = s.net ∧ s₁.AppPort = s.AppPort ∧
          s₁.ComplianceTest.Running = s.ComplianceTest.Running := by
        rw [← htest]
        split
        · refine ⟨rfl, rfl, ?_⟩
          simp only
          split <;> rfl
        · exact ⟨rfl, rfl, rfl⟩
      obtain ⟨hnet, hport, hrunning⟩ := hfirst
      split
      · rename_i hdata
        simp only [disturbs, Bool.not_eq_true _ ▸ hjoin, hrx, hdata, Bool.not_false,
          Bool.true_and, ← hrunning] at hquiet
        obtain ⟨hnet', hport'⟩ := ProcessRxFrame_quiet hquiet
        exact ⟨hnet'.trans hnet, hport'.trans hport⟩
      · exact ⟨hnet, hport⟩
    · exact ⟨rfl, rfl⟩

/-- What the main loop has achieved so far for the frame that it will send next. -/
def Ready (s : App) : Prop :=
  match s.pc with
  | .message _ => True
  | .udp_send msg_send p => ∃ h : Heap, p = some h.handles ∧
      s.net.heap = h.filledBuffer msg_send.bytes.length .PBUF_RAM
        ((h.fresh h.handles).write 0 msg_send.bytes)
  | .copy _ c => ∃ k image, c = some k ∧ s.image = some image ∧ image.length < 256 ∧
      s.net.heap.packet (some k) = image ∧ (s.net.heap.pbufs k).tot_len = image.length
  | .size _ c => ∃ k image, c = some k ∧ s.image = some image ∧ image.length < 256 ∧
      s.net.AppData.read 0 image.length = image ∧ (s.net.heap.pbufs k).tot_len = image.length
  | .release _ _ => s.image = some s.frame
  | .send => s.AppPort = 10 → s.image = some s.frame
  | .schedule | .retry | .next | .prepare =>
    s.trySendingFrameAgain = true → s.AppPort = 10 → s.image = some s.frame

/-- Each call that passes port 10 to the MAC passes the image of the message that
`PrepareTxFrame` has just built. -/
def SendsImages (s : App) : Prop :=
  ∀ call ∈ s.sent, call.port = 10 → call.image = some call.bytes

structure Inv (s : App) : Prop where
  rules : ∃ rules msb1 msb2, s.net.rules = initializeRules rules msb1 msb2
  ready : Ready s
  sends : SendsImages s

/-- What keeps the mailbox as `PrepareTxFrame` leaves it: no callback touches it or the
port while a frame waits, and lwIP, when it is given a message, has buffers for the
message and for its image, and a route. -/
def Undisturbed (s : App) : Event → Prop
  | .macEvent flags info => s.waiting = true → disturbs s flags info = false
  | .txNextPacketTimer => True
  | .main input =>
    match s.pc with
    | .message _ => s.net.heap.mem_malloc s.net.heap.requests = true
    | .udp_send _ _ => s.net.heap.mem_malloc s.net.heap.requests = true ∧
        ∃ header hlength, input.route = .routed header hlength
    | _ => True

theorem Inv.OnMacEvent {s : App} {flags : LoRaMacEventFlags_t} {info : LoRaMacEventInfo_t}
    (hinv : Inv s) (hallowed : s.waiting = true → disturbs s flags info = false) :
    Inv (OnMacEvent s flags info) := by
  have hsame := sameProgress_OnMacEvent s flags info
  refine ⟨by rw [hsame.rules]; exact hinv.rules, ?_, by
    rw [SendsImages, hsame.sent]; exact hinv.sends⟩
  have hready := hinv.ready
  cases hwaiting : s.waiting with
  | true =>
    obtain ⟨hnet, hport⟩ := OnMacEvent_quiet (hallowed hwaiting)
    simpa only [Ready, App.frame, hsame.pc, hsame.image, hsame.trySendingFrameAgain, hnet, hport]
      using hready
  | false =>
    rw [App.waiting] at hwaiting
    rw [Ready, hsame.pc, hsame.trySendingFrameAgain]
    cases hpc : s.pc <;> simp_all

/-- `SendFrame` sends what the mailbox holds, and leaves it there. -/
theorem Inv.SendFrame {s : App} (hrules : ∃ rules msb1 msb2,
    s.net.rules = initializeRules rules msb1 msb2) (hsends : SendsImages s)
    (himage : s.AppPort = 10 → s.image = some s.frame) (status : UInt8) {pc : Pc}
    (hpc : pc = .schedule ∨ pc = .next) : Inv { SendFrame s status with pc := pc } := by
  have hfields : (app.SendFrame s status).net = s.net ∧
      (app.SendFrame s status).AppPort = s.AppPort ∧
      (app.SendFrame s status).image = s.image := by
    simp only [app.SendFrame]
    split <;> exact ⟨rfl, rfl, rfl⟩
  obtain ⟨hnet, hport, himg⟩ := hfields
  refine ⟨by simpa only [hnet] using hrules, ?_, ?_⟩
  · rcases hpc with rfl | rfl <;>
    · intro _
      simpa only [App.frame, hnet, hport, himg] using himage
  · intro call hcall hten
    have hmem : call ∈ s.sent ++ [⟨s.IsTxConfirmed, s.AppPort, s.frame, s.image⟩] ∨
        call.port = 0 := by
      simp only [app.SendFrame] at hcall
      split at hcall
      · rcases List.mem_append.1 hcall with h | h
        · exact .inl h
        · rw [List.mem_singleton.1 h]
          exact .inr rfl
      · exact .inl hcall
    rcases hmem with hmem | hzero
    · rcases List.mem_append.1 hmem with h | h
      · exact hsends call h hten
      · rw [List.mem_singleton.1 h] at hten ⊢
        exact himage hten
    · rw [hzero] at hten
      exact absurd hten (by decide)

theorem residue_installed {rules : RuleTable}
    (hrules : ∃ rules' msb1 msb2, rules = initializeRules rules' msb1 msb2) :
    (rules 0).residue = [] := by
  obtain ⟨rules', msb1, msb2, rfl⟩ := hrules
  exact residue_rule1 msb1

/-- An image is no longer than the packet and its rule id. -/
theorem length_schcImage_lt {rules : RuleTable} {header : List UInt8}
    (hrules : ∃ rules' msb1 msb2, rules = initializeRules rules' msb1 msb2)
    (hlength : header.length = IP6_HLEN + UDP_HLEN) (msg_send : coap_pdu) :
    (schcImage rules (header ++ msg_send.bytes)).length < 256 := by
  have hfits := msg_send.length_le
  rw [MSG_BUF_LEN] at hfits
  rw [IP6_HLEN, UDP_HLEN] at hlength
  unfold schcImage uplinkFrame
  split
  · rw [residue_installed hrules, List.nil_append, List.length_cons, Mem.length_read,
      List.length_append]
    omega
  · rw [List.length_cons, Mem.length_read, List.length_append]
    omega

/-- lwIP's buffer of the message, with the headers in front: the image that
`schc_output` makes of it. -/
theorem emits_schcImage {s : Net} {h : Heap} {msg_send : coap_pdu} {header : List UInt8}
    (hrules : ∃ rules msb1 msb2, s.rules = initializeRules rules msb1 msb2)
    (hlength : header.length = IP6_HLEN + UDP_HLEN)
    (hheap : s.heap = h.filledBuffer msg_send.bytes.length .PBUF_RAM
      ((h.fresh h.handles).write 0 msg_send.bytes))
    (hmem : s.heap.mem_malloc s.heap.requests = true) :
    Emits { s with heap := pbuf_header s.heap h.handles header } h.handles
      (schcImage s.rules (header ++ msg_send.bytes)) := by
  let m := (h.fresh h.handles).write 0 msg_send.bytes
  have hfits := msg_send.length_le
  rw [MSG_BUF_LEN] at hfits
  rw [IP6_HLEN, UDP_HLEN] at hlength
  rw [hheap] at hmem ⊢
  obtain ⟨hp, -⟩ := contiguous_pbuf_header h msg_send.bytes.length m header
  have hself : (pbuf_header (h.filledBuffer msg_send.bytes.length .PBUF_RAM m) h.handles header).pbufs
      h.handles = ⟨none, m.prepend header, msg_send.bytes.length + header.length,
        msg_send.bytes.length + header.length, .PBUF_RAM, 1⟩ := by
    rw [pbuf_header, filledBuffer_pbufs_self, Heap.set_pbufs_self]
  have hresidue := residue_installed hrules
  have hemits := emits_uplinkFrame
    (s := { s with
      heap := pbuf_header (h.filledBuffer msg_send.bytes.length .PBUF_RAM m) h.handles header })
    hp (by rw [hresidue]; decide) (by simp only [hself]; omega) (by simp only [hself]; omega) hmem
  have himage : uplinkFrame s.rules (m.prepend header) (msg_send.bytes.length + header.length) =
      schcImage s.rules (header ++ msg_send.bytes) := by
    rw [schcImage, List.length_append, Nat.add_comm]
    refine uplinkFrame_congr (by omega) fun i hi => ?_
    exact Mem.prepend_write _ _ _ (by rw [List.length_append]; exact hi)
  simp only [hself, himage] at hemits
  exact hemits

theorem PrepareTxFrame_fields (s : App) (i : Input) :
    (PrepareTxFrame s i).AppPort = s.AppPort ∧ (PrepareTxFrame s i).sent = s.sent ∧
      (PrepareTxFrame s i).net.rules = s.net.rules := by
  simp only [PrepareTxFrame, App.setSize, App.store]
  split_ifs <;> exact ⟨rfl, rfl, rfl⟩

/-- A step of the main loop, case by case along `PrepareTxFrame`. -/
theorem Inv.mainStep {s : App} {i : Input} (hinv : Inv s)
    (hallowed : Undisturbed s (.main i)) : Inv (mainStep s i) := by
  obtain ⟨hrules, hready, hsends⟩ := hinv
  simp only [Ready] at hready
  simp only [Undisturbed] at hallowed
  cases hpc : s.pc with
  | schedule =>
    rw [hpc] at hready
    simp only [app.mainStep, hpc]
    exact ⟨hrules, hready, hsends⟩
  | retry =>
    rw [hpc] at hready
    simp only [app.mainStep, hpc]
    split
    · rename_i hagain
      exact .SendFrame hrules hsends (hready hagain) i.status (.inr rfl)
    · exact ⟨hrules, hready, hsends⟩
  | next =>
    rw [hpc] at hready
    simp only [app.mainStep, hpc]
    split <;> exact ⟨hrules, hready, hsends⟩
  | prepare =>
    simp only [app.mainStep, hpc]
    split
    · exact ⟨hrules, trivial, hsends⟩
    · rename_i hport
      obtain ⟨hport', hsent, hrules'⟩ := PrepareTxFrame_fields s i
      refine ⟨by simpa only [hrules'] using hrules, fun hten => ?_, ?_⟩
      · exact absurd (hport'.symm.trans hten) hport
      · simpa only [SendsImages, hsent] using hsends
  | message msg_send =>
    rw [hpc] at hallowed
    simp only [app.mainStep, hpc, pbuf_alloc_msg_send msg_send hallowed]
    exact ⟨hrules, ⟨s.net.heap, rfl, pbuf_take_freshBuffer _ _ _ _ (Nat.le_refl _)⟩, hsends⟩
  | udp_send msg_send p =>
    rw [hpc] at hready hallowed
    obtain ⟨h, rfl, hheap⟩ := hready
    obtain ⟨hmem, header, hlength, hroute⟩ := hallowed
    obtain ⟨heap, -, hpacket, hframe, htot⟩ := emits_schcImage hrules hlength hheap hmem
    simp only [app.mainStep, hpc, hroute, hpacket]
    exact ⟨hrules, ⟨_, _, rfl, rfl, length_schcImage_lt hrules hlength msg_send, hframe, htot⟩, hsends⟩
  | copy p c =>
    rw [hpc] at hready
    obtain ⟨k, image, rfl, himage, hlength, hpacket, htot⟩ := hready
    obtain ⟨h', hcopy, hsame⟩ := pbuf_copy_partial_packet s.net.heap (some k) s.net.AppData
    rw [hpacket] at hcopy
    simp only [app.mainStep, hpc, copyToAppData, htot, hcopy]
    refine ⟨hrules, ⟨k, image, rfl, himage, hlength, Mem.read_write_self _ _ _, ?_⟩, hsends⟩
    rw [hsame.tot_len, htot]
  | size p c =>
    rw [hpc] at hready
    obtain ⟨k, image, rfl, himage, hlength, hread, htot⟩ := hready
    simp only [app.mainStep, hpc, setAppDataSize, htot]
    refine ⟨hrules, ?_, hsends⟩
    change s.image = some (s.net.AppData.read 0 (UInt8.ofNat image.length).toNat)
    rw [UInt8.toNat_ofNat_of_lt' hlength, hread, himage]
  | release p c =>
    rw [hpc] at hready
    simp only [app.mainStep, hpc]
    exact ⟨hrules, fun _ => hready, hsends⟩
  | send =>
    rw [hpc] at hready
    simp only [app.mainStep, hpc]
    exact .SendFrame hrules hsends hready i.status (.inl rfl)

theorem Inv.step {s : App} {e : Event} (hinv : Inv s) (hallowed : Undisturbed s e) :
    Inv (step s e) := by
  cases e with
  | macEvent flags info => exact hinv.OnMacEvent hallowed
  | txNextPacketTimer => exact ⟨hinv.rules, hinv.ready, hinv.sends⟩
  | main i => exact hinv.mainStep hallowed

theorem Inv.boot : Inv App.boot where
  rules := ⟨_, _, _, rfl⟩
  ready hagain := absurd hagain (by decide)
  sends call hcall := absurd hcall (by simp [App.boot])

/-- In every run in which nothing disturbs a frame that waits, what is sent on port 10 is the image
of the message that `PrepareTxFrame` has just built. The main loop can be interrupted at each of its
steps; the condition is about the callbacks that share `AppData` with it, and about the memory that
the message and its image need. -/
theorem sendsImages_of_undisturbed {es : List Event} {s : App}
    (hrun : Run (fun s e t => app.step s e = t) Undisturbed App.boot es s) : SendsImages s :=
  (hrun.invariant Inv.boot fun _ _ _ hinv hallowed hstep => hstep ▸ hinv.step hallowed).sends

/-- A message to the server, which the MAC accepts. -/
def putTempInput : Input :=
  ⟨putTemp, toServer, 0, 0, 0⟩

/-- One turn of the main loop up to the end of `PrepareTxFrame`. -/
def prepareEvents : List Event :=
  List.replicate 9 (.main putTempInput)

theorem sendsImages_of_undisturbed_putTemp :
    SendsImages ((prepareEvents ++ [Event.main putTempInput]).foldl step App.boot) :=
  sendsImages_of_undisturbed (Run.foldl
    ⟨trivial, trivial, trivial, trivial, rfl, ⟨rfl, _, _, rfl⟩, trivial, trivial, trivial, trivial,
      trivial⟩)

/-- A downlink of three bytes on port 10. -/
def downlink : Event :=
  .macEvent ⟨true, true, false, false⟩ ⟨10, fun i => [7, 8, 9].getD i 0, 3, 0, 0⟩

/-- A downlink between `PrepareTxFrame` and `SendFrame` is sent back to the server in
place of the message. -/
theorem not_sendsImages_downlink :
    ∃ es s, Run (fun s e t => step s e = t) (fun _ _ => True) App.boot es s ∧ ¬ SendsImages s := by
  refine ⟨prepareEvents ++ [downlink, .main putTempInput], _,
    Run.foldl ⟨trivial, trivial, trivial, trivial, trivial, trivial, trivial, trivial, trivial,
      trivial, trivial, trivial⟩, ?_⟩
  have hsent : ((prepareEvents ++ [downlink, .main putTempInput]).foldl step App.boot).sent =
      [⟨false, 10, [7, 8, 9], some (1 :: putTemp.bytes)⟩] := by
    decide +kernel
  intro hsends
  have hcall := hsends _ (by rw [hsent]; exact List.mem_singleton_self _) rfl
  exact absurd hcall (by decide)

end loranode.app
