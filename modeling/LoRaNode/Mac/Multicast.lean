import LoRaNode.Lib.LinkedList
import LoRaNode.Lib.Transition
import LoRaNode.Mac.Requests

open linkedlist

namespace loranode.multicast

open mac mac.LoRaMacStatus_t

variable {Node : Type} [DecidableEq Node] [Fintype Node]

/-- `MulticastChannels` and the fields of every node. `linked` is kept for the proofs only:
the nodes that have been linked and not been unlinked since. -/
structure Groups (Node : Type) where
  MulticastChannels : Option Node
  Next : Node → Option Node
  params : Node → MulticastParams_t
  linked : Finset Node

/-- A loop that has made more turns than there are nodes never ends. -/
def Groups.seek (g : Groups Node) (stop : Node → Bool) : Option (Option Node) :=
  linkedlist.seek g.Next stop (Fintype.card Node + 1) g.MulticastChannels

/-- `DownLinkCounter` of a node set to 0. -/
def Groups.resetCounter (g : Groups Node) (node : Node) : Groups Node :=
  { g with params := Function.update g.params node { g.params node with DownLinkCounter := 0 } }

/-- `LoRaMacMulticastChannelLink`; `txRunning` is the bit of `LoRaMacState` that it tests. -/
def LoRaMacMulticastChannelLink (g : Groups Node) (txRunning : Bool) (channelParam : Option Node) :
    Option (LoRaMacStatus_t × Groups Node) :=
  match channelParam with
  | none => some (LORAMAC_STATUS_PARAMETER_INVALID, g)
  | some node =>
    if txRunning then some (LORAMAC_STATUS_BUSY, g)
    else
      let g := { g.resetCounter node with linked := insert node g.linked }
      match g.MulticastChannels with
      | none => some (LORAMAC_STATUS_OK, { g with MulticastChannels := some node })
      | some _ =>
        (g.seek fun cur => g.Next cur = none).map fun last => (LORAMAC_STATUS_OK,
          match last with
          | none => g
          | some cur => { g with Next := Function.update g.Next cur (some node) })

/-- `cur->Next = channelParam->Next`, if the search has found the node before it. -/
def Groups.bypass (g : Groups Node) (node : Node) (last : Option Node) : Groups Node :=
  match last with
  | none => g
  | some cur =>
    if g.Next cur = none then g
    else { g with Next := Function.update g.Next cur (g.Next node) }

/-- `channelParam->Next = NULL`. -/
def Groups.clearNext (g : Groups Node) (node : Node) : Groups Node :=
  { g with Next := Function.update g.Next node none }

def LoRaMacMulticastChannelUnlink (g : Groups Node) (txRunning : Bool)
    (channelParam : Option Node) : Option (LoRaMacStatus_t × Groups Node) :=
  match channelParam with
  | none => some (LORAMAC_STATUS_PARAMETER_INVALID, g)
  | some node =>
    if txRunning then some (LORAMAC_STATUS_BUSY, g)
    else
      let g := { g with linked := g.linked.erase node }
      match g.MulticastChannels with
      | none => some (LORAMAC_STATUS_OK, g)
      | some first =>
        if first = node then
          some (LORAMAC_STATUS_OK,
            { g with MulticastChannels := g.Next node }.clearNext node)
        else
          (g.seek fun cur => g.Next cur = none || g.Next cur = some node).map fun last =>
            (LORAMAC_STATUS_OK, (g.bypass node last).clearNext node)

/-- The search of `OnRadioRxDone`: the group with an address, or `NULL`. -/
def searchAddress (g : Groups Node) (address : UInt32) : Option (Option Node) :=
  g.seek fun cur => (g.params cur).Address = address

/-- The loop of `ResetMacParameters` from `cur` on. -/
def resetCounters (g : Groups Node) : Nat → Option Node → Option (Groups Node)
  | 0, _ => none
  | _ + 1, none => some g
  | fuel + 1, some cur => resetCounters (g.resetCounter cur) fuel (g.Next cur)

def ResetMulticastCounters (g : Groups Node) : Option (Groups Node) :=
  resetCounters g (Fintype.card Node + 1) g.MulticastChannels

inductive Call (Node : Type) where
  | link (txRunning : Bool) (channelParam : Option Node)
  | unlink (txRunning : Bool) (channelParam : Option Node)

/-- The groups after a call, or nothing if that does not return. -/
def step (g : Groups Node) : Call Node → Option (Groups Node)
  | .link txRunning channelParam =>
    (LoRaMacMulticastChannelLink g txRunning channelParam).map Prod.snd
  | .unlink txRunning channelParam =>
    (LoRaMacMulticastChannelUnlink g txRunning channelParam).map Prod.snd

/-- Following `Next` from `MulticastChannels` visits exactly the linked nodes, each once, and
ends; so do the searches. -/
structure Groups.Sound (g : Groups Node) : Prop where
  chain : ∃ nodes, Chain g.Next g.MulticastChannels nodes ∧ nodes.Nodup ∧
    ∀ node, node ∈ nodes ↔ node ∈ g.linked
  searchAddress : ∀ address, (searchAddress g address).isSome
  reset : (ResetMulticastCounters g).isSome

variable {g : Groups Node} {nodes : List Node} {node : Node}

/-- Linking makes the last node of the list point to the new one, whose own pointer stays as
it is. -/
theorem link_spec (h : Chain g.Next g.MulticastChannels nodes) (node : Node) :
    ∃ g', LoRaMacMulticastChannelLink g false (some node) = some (LORAMAC_STATUS_OK, g') ∧
      g'.linked = insert node g.linked ∧ g'.params = (g.resetCounter node).params ∧
      Path g'.Next g'.MulticastChannels nodes (some node) ∧
      ∀ a, a ∉ nodes → g'.Next a = g.Next a := by
  rcases List.eq_nil_or_concat' nodes with rfl | ⟨front, last, rfl⟩
  · have hnull : g.MulticastChannels = none := path_nil_iff.mp h
    refine ⟨{ g.resetCounter node with
      linked := insert node g.linked, MulticastChannels := some node }, ?_, rfl, rfl, .nil _,
      fun _ _ => rfl⟩
    simp [LoRaMacMulticastChannelLink, Groups.resetCounter, hnull]
  · have hnext : g.Next last = none := h.next_last
    obtain ⟨first, hfirst⟩ : ∃ first, g.MulticastChannels = some first := by
      cases hp : g.MulticastChannels with
      | some first => exact ⟨first, rfl⟩
      | none =>
        rw [hp] at h
        exact absurd (chain_none_iff.mp h) (by simp)
    have hfind : (front ++ [last]).find? (fun cur => decide (g.Next cur = none)) = some last :=
      h.find?_eq_last (fun b c _ hc => by simp [hc]) (by simp [hnext])
    refine ⟨{ g.resetCounter node with
      linked := insert node g.linked, Next := Function.update g.Next last (some node) }, ?_, rfl,
      rfl, h.update_last h.notMem_of_append.1, fun a ha => ?_⟩
    · have hseek := h.seek_eq (fun cur => decide (g.Next cur = none)) h.length_lt
      rw [hfind, hfirst] at hseek
      simp [LoRaMacMulticastChannelLink, Groups.seek, Groups.resetCounter, hfirst, hseek]
    · exact Function.update_of_ne (fun heq => ha (by simp [heq])) _ _

/-- The search of `LoRaMacMulticastChannelUnlink`, and what follows it. -/
theorem unlink_of_ne {first last : Node} (hfirst : g.MulticastChannels = some first)
    (hne : first ≠ node) (h : Chain g.Next g.MulticastChannels nodes)
    (hfind : nodes.find? (fun cur => g.Next cur = none || g.Next cur = some node) = some last) :
    LoRaMacMulticastChannelUnlink g false (some node) = some (LORAMAC_STATUS_OK,
      ({ g with linked := g.linked.erase node }.bypass node (some last)).clearNext node) := by
  have hseek := h.seek_eq (fun cur => g.Next cur = none || g.Next cur = some node) h.length_lt
  rw [hfind, hfirst] at hseek
  simp only [LoRaMacMulticastChannelUnlink, Bool.false_eq_true, if_false, hfirst, if_neg hne,
    Groups.seek, hseek, Option.map_some]

/-- Unlinking takes the node out of the list, if it is there. -/
theorem unlink_spec (h : Chain g.Next g.MulticastChannels nodes) (node : Node) :
    ∃ g', LoRaMacMulticastChannelUnlink g false (some node) = some (LORAMAC_STATUS_OK, g') ∧
      g'.linked = g.linked.erase node ∧ g'.params = g.params ∧
      Chain g'.Next g'.MulticastChannels (nodes.erase node) := by
  cases nodes with
  | nil =>
    have hnull : g.MulticastChannels = none := path_nil_iff.mp h
    refine ⟨{ g with linked := g.linked.erase node }, ?_, rfl, rfl, h⟩
    simp [LoRaMacMulticastChannelUnlink, hnull]
  | cons first behind =>
    obtain ⟨hfirst, hbehind⟩ := path_cons_iff.mp h
    by_cases hhead : first = node
    · subst hhead
      refine ⟨{ g with linked := g.linked.erase first, MulticastChannels := g.Next first,
                       Next := Function.update g.Next first none }, ?_, rfl, rfl, ?_⟩
      · simp [LoRaMacMulticastChannelUnlink, Groups.clearNext, hfirst]
      · rw [List.erase_cons_head]
        exact hbehind.update_of_notMem (List.nodup_cons.mp h.nodup).1
    · by_cases hmem : node ∈ first :: behind
      · obtain ⟨before, rest, -, hsplit, herase⟩ := List.exists_erase_eq hmem
        rcases List.eq_nil_or_concat' before with rfl | ⟨front, last, rfl⟩
        · exact absurd (List.cons.inj hsplit).1 hhead
        rw [herase]
        rw [hsplit] at h
        have hnode := h.notMem_of_append.1
        obtain ⟨m, hfront, hrest⟩ := path_append_iff.mp h
        obtain ⟨rfl, -⟩ := path_cons_iff.mp hrest
        have hnext : g.Next last = some node := hfront.next_last
        have hfind : (front ++ [last] ++ node :: rest).find?
            (fun cur => g.Next cur = none || g.Next cur = some node) = some last := by
          rw [List.append_assoc]
          refine hfront.find?_eq_last (fun b c hc hb => ?_) (by simp [hnext])
          have hne : c ≠ node := fun heq => hnode (heq ▸ hc)
          simp [hb, hne]
        refine ⟨_, unlink_of_ne hfirst hhead h hfind, ?_⟩
        simp only [Groups.bypass, hnext, Groups.clearNext, reduceCtorEq, if_false, true_and]
        rw [List.append_assoc] at h ⊢
        exact h.bypass
      · rw [List.erase_of_not_mem hmem]
        rcases List.eq_nil_or_concat' (first :: behind) with hnil | ⟨front, last, hsplit⟩
        · cases hnil
        rw [hsplit] at h hmem ⊢
        have hnext : g.Next last = none := h.next_last
        have hfind : (front ++ [last]).find?
            (fun cur => g.Next cur = none || g.Next cur = some node) = some last := by
          refine h.find?_eq_last (fun b c hc hb => ?_) (by simp [hnext])
          have hne : c ≠ node := fun heq => hmem (heq ▸ hc)
          simp [hb, hne]
        refine ⟨_, unlink_of_ne hfirst hhead h hfind, ?_⟩
        simp only [Groups.bypass, hnext, Groups.clearNext, if_true, true_and]
        exact h.update_of_notMem hmem

omit [Fintype Node] in
theorem isSome_resetCounters {p : Option Node} (h : Chain g.Next p nodes) {fuel : Nat}
    (hfuel : nodes.length < fuel) : (resetCounters g fuel p).isSome := by
  induction nodes generalizing g p fuel with
  | nil =>
    obtain rfl := path_nil_iff.mp h
    obtain ⟨fuel, rfl⟩ := Nat.exists_eq_add_one_of_ne_zero (Nat.ne_of_gt hfuel)
    rfl
  | cons a nodes ih =>
    obtain ⟨rfl, hrest⟩ := path_cons_iff.mp h
    obtain ⟨fuel, rfl⟩ := Nat.exists_eq_add_one_of_ne_zero (Nat.ne_of_gt (Nat.zero_lt_of_lt hfuel))
    exact ih (g := g.resetCounter a) hrest (Nat.lt_of_succ_lt_succ hfuel)

/-- The searches end wherever the list does. -/
theorem sound_of_chain (h : Chain g.Next g.MulticastChannels nodes)
    (hlinked : ∀ node, node ∈ nodes ↔ node ∈ g.linked) : g.Sound where
  chain := ⟨nodes, h, h.nodup, hlinked⟩
  searchAddress := by
    intro address
    rw [searchAddress, Groups.seek, h.seek_eq _ h.length_lt]
    rfl
  reset := isSome_resetCounters h h.length_lt

/-- `LoRaMacMulticastChannelLink` is to be called for a node that is not linked and whose
pointer is `NULL`. -/
def Call.Fresh (g : Groups Node) : Call Node → Prop
  | .link false (some node) => node ∉ g.linked ∧ g.Next node = none
  | _ => True

theorem sound_link_iff (h : Chain g.Next g.MulticastChannels nodes)
    (hlinked : ∀ node, node ∈ nodes ↔ node ∈ g.linked) (node : Node) :
    (∃ g', step g (.link false (some node)) = some g' ∧ g'.Sound) ↔
      node ∉ g.linked ∧ g.Next node = none := by
  obtain ⟨g', hlink, hlinked', -, hpath, hnext⟩ := link_spec h node
  have hstep : step g (.link false (some node)) = some g' := congrArg (Option.map Prod.snd) hlink
  rw [hstep]
  constructor
  · rintro ⟨_, ⟨⟩, hsound⟩
    obtain ⟨all, hall, hnodup, hmem⟩ := hsound.chain
    obtain ⟨rest, rfl, hrest⟩ := hpath.exists_append hall
    -- the chain goes on with the new node, and has no room for another one behind it
    cases rest with
    | nil => cases hrest
    | cons first behind =>
      obtain ⟨heq, hbehind⟩ := path_cons_iff.mp hrest
      obtain rfl := Option.some.inj heq
      obtain ⟨hbefore, hafter⟩ := hall.notMem_of_append
      refine ⟨fun hold => hbefore ((hlinked node).mpr hold), ?_⟩
      rw [← hnext node hbefore]
      cases behind with
      | nil => exact path_nil_iff.mp hbehind
      | cons other behind =>
        have hother : other ∈ insert node g.linked :=
          hlinked' ▸ (hmem other).mp (by simp)
        rcases Finset.mem_insert.mp hother with rfl | hother
        · exact absurd List.mem_cons_self hafter
        · rw [List.append_cons] at hall
          have hnot := hall.notMem_of_append.1
          exact absurd (List.mem_append_left _ ((hlinked other).mpr hother)) hnot
  · rintro ⟨hnew, hnull⟩
    have hnotMem : node ∉ nodes := fun hmem => hnew ((hlinked node).mp hmem)
    have hchain : Chain g'.Next g'.MulticastChannels (nodes ++ [node]) :=
      hpath.chain_append ((hnext node hnotMem).trans hnull)
    refine ⟨g', rfl, sound_of_chain hchain fun a => ?_⟩
    rw [hlinked', Finset.mem_insert, ← hlinked a, List.mem_append, List.mem_singleton, or_comm]

theorem sound_unlink (h : Chain g.Next g.MulticastChannels nodes)
    (hlinked : ∀ node, node ∈ nodes ↔ node ∈ g.linked) (node : Node) :
    ∃ g', step g (.unlink false (some node)) = some g' ∧ g'.Sound := by
  obtain ⟨g', hunlink, hlinked', -, hchain⟩ := unlink_spec h node
  refine ⟨g', congrArg (Option.map Prod.snd) hunlink, sound_of_chain hchain fun a => ?_⟩
  rw [hlinked', Finset.mem_erase, ← hlinked a, h.nodup.mem_erase_iff]

/-- A call keeps the list a finite set of the linked nodes exactly when it is fresh. -/
theorem sound_step_iff (hg : g.Sound) (call : Call Node) :
    (∃ g', step g call = some g' ∧ g'.Sound) ↔ call.Fresh g := by
  obtain ⟨nodes, hchain, -, hlinked⟩ := hg.chain
  have hrefused : (∃ g', some g = some g' ∧ g'.Sound) ↔ True :=
    ⟨fun _ => trivial, fun _ => ⟨g, rfl, hg⟩⟩
  cases call with
  | link txRunning channelParam =>
    cases channelParam with
    | none => cases txRunning <;> exact hrefused
    | some node =>
      cases txRunning with
      | true => exact hrefused
      | false => exact sound_link_iff hchain hlinked node
  | unlink txRunning channelParam =>
    cases channelParam with
    | none => cases txRunning <;> exact hrefused
    | some node =>
      cases txRunning with
      | true => exact hrefused
      | false => exact ⟨fun _ => trivial, fun _ => sound_unlink hchain hlinked node⟩

/-- The list of the MAC model: the groups of the nodes in the order of the chain. -/
def Groups.Represents (g : Groups Node) (groups : List MulticastParams_t) : Prop :=
  ∃ nodes, Chain g.Next g.MulticastChannels nodes ∧ groups = nodes.map g.params

/-- Linking a fresh node does to the pointers what the MAC model does to its list. -/
theorem represents_link (s : Mac) (hs : g.Represents s.MulticastChannels) (hg : g.Sound)
    (hnew : node ∉ g.linked) (hnull : g.Next node = none) :
    ∃ g', LoRaMacMulticastChannelLink g s.LoRaMacState.MAC_TX_RUNNING (some node) =
        some ((mac.LoRaMacMulticastChannelLink s (g.params node)).1, g') ∧
      g'.Represents (mac.LoRaMacMulticastChannelLink s (g.params node)).2.MulticastChannels := by
  obtain ⟨nodes, hchain, hgroups⟩ := hs
  obtain ⟨all, hall, -, hlinked⟩ := hg.chain
  obtain rfl := hall.unique hchain
  unfold mac.LoRaMacMulticastChannelLink
  cases s.LoRaMacState.MAC_TX_RUNNING with
  | true => exact ⟨g, rfl, all, hchain, hgroups⟩
  | false =>
    have hnotMem : node ∉ all := fun hmem => hnew ((hlinked node).mp hmem)
    obtain ⟨g', hlink, -, hparams, hpath, hnext⟩ := link_spec hchain node
    refine ⟨g', hlink, all ++ [node], hpath.chain_append ((hnext node hnotMem).trans hnull), ?_⟩
    have hold : all.map g'.params = all.map g.params := by
      apply List.map_congr_left
      intro a ha
      have hne : a ≠ node := fun heq => hnotMem (heq ▸ ha)
      rw [hparams]
      exact Function.update_of_ne hne _ _
    rw [List.map_append, hold, hparams]
    simp [hgroups, Groups.resetCounter]

/-- Unlinking does to the pointers what the MAC model does to its list at the place of the
node. -/
theorem represents_unlink (s : Mac) (hs : g.Represents s.MulticastChannels) (node : Node) :
    ∃ g' i, LoRaMacMulticastChannelUnlink g s.LoRaMacState.MAC_TX_RUNNING (some node) =
        some ((mac.LoRaMacMulticastChannelUnlink s i).1, g') ∧
      g'.Represents (mac.LoRaMacMulticastChannelUnlink s i).2.MulticastChannels := by
  obtain ⟨nodes, hchain, hgroups⟩ := hs
  unfold mac.LoRaMacMulticastChannelUnlink
  cases s.LoRaMacState.MAC_TX_RUNNING with
  | true => exact ⟨g, 0, rfl, nodes, hchain, hgroups⟩
  | false =>
    obtain ⟨g', hunlink, -, hparams, hchain'⟩ := unlink_spec hchain node
    refine ⟨g', nodes.idxOf node, hunlink, _, hchain', ?_⟩
    rw [hparams, ← List.eraseIdx_idxOf_eq_erase]
    simp [hgroups, List.eraseIdx_map]

omit [DecidableEq Node] in
/-- The search for an address finds what the search of the MAC model finds. -/
theorem searchAddress_eq {groups : List MulticastParams_t} (hs : g.Represents groups)
    (address : UInt32) :
    (searchAddress g address).map (Option.map g.params) =
      some (groups.find? (·.Address = address)) := by
  obtain ⟨nodes, hchain, rfl⟩ := hs
  rw [searchAddress, Groups.seek, hchain.seek_eq _ hchain.length_lt, List.find?_map]
  rfl

/-- The start of the program, with whatever the fields of the nodes hold. -/
def Groups.initial (Next : Node → Option Node) (params : Node → MulticastParams_t) :
    Groups Node where
  MulticastChannels := none
  Next := Next
  params := params
  linked := ∅

theorem sound_initial (Next : Node → Option Node) (params : Node → MulticastParams_t) :
    (Groups.initial Next params).Sound :=
  sound_of_chain (.nil none) fun _ => by simp [Groups.initial]

/-- Along any calls the list stays a finite set of the linked nodes exactly when every node that is
linked is not in the list yet and has the pointer `NULL`. A call that is refused and one that
unlinks a node are free: only `LoRaMacMulticastChannelLink` appends a node without a look at it. -/
theorem stays_sound_iff (Next : Node → Option Node) (params : Node → MulticastParams_t)
    (calls : List (Call Node)) :
    transition.Stays step Groups.Sound (Groups.initial Next params) calls ↔
      transition.Along step (fun g call => call.Fresh g) (Groups.initial Next params) calls :=
  transition.stays_iff_along (fun _ call hg => sound_step_iff hg call) (sound_initial Next params)

/-- A node that is linked twice points to itself: the search for an address that it does not
have never ends. -/
theorem not_stays_sound_twice :
    ¬ transition.Stays step Groups.Sound
        (Groups.initial (fun _ : Fin 1 => none) fun _ => ⟨0, [], [], 0⟩)
        [.link false (some 0), .link false (some 0)] := by
  rintro ⟨-, g, hfirst, -, g', hsecond, hsound⟩
  cases hfirst
  cases hsecond
  exact absurd (hsound.searchAddress 1) (by decide)

end loranode.multicast
