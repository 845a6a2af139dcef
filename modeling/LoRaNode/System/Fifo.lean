import LoRaNode.Lib.Memory
import LoRaNode.Lib.Ring
import LoRaNode.Lib.Transition

open ring

namespace loranode.system

structure Fifo_t where
  Begin : UInt16
  End : UInt16
  Data : Mem
  Size : UInt16

/-- The sum is computed in `int`, and is not cut to 16 bits. -/
def FifoNext (fifo : Fifo_t) (index : UInt16) : UInt16 :=
  UInt16.ofNat ((index.toNat + 1) % fifo.Size.toNat)

def FifoInit (buffer : Mem) (size : UInt16) : Fifo_t where
  Begin := 0
  End := 0
  Data := buffer
  Size := size

def FifoPush (fifo : Fifo_t) (data : UInt8) : Fifo_t :=
  let fifo := { fifo with End := FifoNext fifo fifo.End }
  { fifo with Data := Function.update fifo.Data fifo.End.toNat data }

def FifoPop (fifo : Fifo_t) : UInt8 × Fifo_t :=
  let data := fifo.Data (FifoNext fifo fifo.Begin).toNat
  (data, { fifo with Begin := FifoNext fifo fifo.Begin })

def FifoFlush (fifo : Fifo_t) : Fifo_t := { fifo with Begin := 0, End := 0 }

def IsFifoEmpty (fifo : Fifo_t) : Bool := fifo.Begin = fifo.End

def IsFifoFull (fifo : Fifo_t) : Bool := FifoNext fifo fifo.End = fifo.Begin

/-- The FIFO holds these bytes, the oldest one first. The cell at `Begin` is never in use. -/
structure Holds (fifo : Fifo_t) (queue : List UInt8) : Prop where
  begin_lt : fifo.Begin.toNat < fifo.Size.toNat
  room : queue.length < fifo.Size.toNat
  end_eq : fifo.End.toNat = (fifo.Begin.toNat + queue.length) % fifo.Size.toNat
  bytes : contents fifo.Size.toNat fifo.Data fifo.Begin.toNat queue.length = queue

theorem toNat_FifoNext (fifo : Fifo_t) (index : UInt16) (hsize : 0 < fifo.Size.toNat) :
    (FifoNext fifo index).toNat = (index.toNat + 1) % fifo.Size.toNat := by
  have hlt := Nat.mod_lt (index.toNat + 1) hsize
  have hword := fifo.Size.toNat_lt
  exact UInt16.toNat_ofNat_of_lt' (hlt.trans hword)

theorem holds_FifoInit (buffer : Mem) {size : UInt16} (hsize : 0 < size) :
    Holds (FifoInit buffer size) [] := by
  have hpos : 0 < size.toNat := hsize
  exact ⟨hpos, hpos, (Nat.zero_mod _).symm, rfl⟩

namespace Holds

variable {fifo : Fifo_t} {queue : List UInt8} {data : UInt8}

theorem size_pos (h : Holds fifo queue) : 0 < fifo.Size.toNat := Nat.zero_lt_of_lt h.room

theorem end_lt (h : Holds fifo queue) : fifo.End.toNat < fifo.Size.toNat := by
  rw [h.end_eq]
  exact Nat.mod_lt _ h.size_pos

/-- The place behind the last byte. -/
theorem next_end (h : Holds fifo queue) : (FifoNext fifo fifo.End).toNat =
    (fifo.Begin.toNat + 1 + queue.length) % fifo.Size.toNat := by
  rw [toNat_FifoNext fifo _ h.size_pos, h.end_eq, Nat.mod_add_mod, Nat.add_right_comm]

theorem isFifoEmpty_iff (h : Holds fifo queue) :
    IsFifoEmpty fifo = true ↔ queue.length = 0 := by
  have hbegin : fifo.Begin.toNat = (fifo.Begin.toNat + 0) % fifo.Size.toNat :=
    (Nat.mod_eq_of_lt h.begin_lt).symm
  unfold IsFifoEmpty
  rw [decide_eq_true_iff, ← UInt16.toNat_inj, h.end_eq, hbegin, Nat.mod_add_mod]
  constructor
  · intro heq
    by_contra hne
    exact index_ne (Nat.pos_of_ne_zero hne) h.room heq
  · intro hzero
    rw [hzero]

theorem isFifoFull_iff (h : Holds fifo queue) :
    IsFifoFull fifo = true ↔ queue.length = fifo.Size.toNat - 1 := by
  have hroom := h.room
  unfold IsFifoFull
  rw [decide_eq_true_iff, ← UInt16.toNat_inj, h.next_end]
  constructor
  · intro heq
    by_contra hne
    have hturn : 1 + queue.length < fifo.Size.toNat := by omega
    have hother : (fifo.Begin.toNat + 0) % fifo.Size.toNat ≠
        (fifo.Begin.toNat + (1 + queue.length)) % fifo.Size.toNat :=
      index_ne (Nat.lt_add_right _ Nat.one_pos) hturn
    rw [Nat.add_zero, Nat.mod_eq_of_lt h.begin_lt, ← Nat.add_assoc] at hother
    exact hother heq.symm
  · intro hfull
    rw [hfull, Nat.add_assoc, show 1 + (fifo.Size.toNat - 1) = fifo.Size.toNat by omega,
      Nat.add_mod_right, Nat.mod_eq_of_lt h.begin_lt]

/-- A byte goes behind the others, if there is room for it. -/
theorem push (h : Holds fifo queue) (hfull : IsFifoFull fifo = false) (data : UInt8) :
    Holds (FifoPush fifo data) (queue ++ [data]) := by
  have hroom : queue.length + 1 < fifo.Size.toNat := by
    have hnot : queue.length ≠ fifo.Size.toNat - 1 := fun hlast => by
      rw [h.isFifoFull_iff.mpr hlast] at hfull
      cases hfull
    have hlt := h.room
    omega
  refine ⟨h.begin_lt, ?_, ?_, ?_⟩
  · rw [List.length_append, List.length_singleton]
    exact hroom
  · rw [List.length_append, List.length_singleton, ← Nat.add_assoc, Nat.add_right_comm]
    exact h.next_end
  · change contents fifo.Size.toNat (Function.update fifo.Data (FifoNext fifo fifo.End).toNat data)
      fifo.Begin.toNat (queue ++ [data]).length = queue ++ [data]
    rw [List.length_append, List.length_singleton, contents_succ, h.next_end,
      contents_update _ _ h.room, h.bytes, Function.update_self]

/-- The oldest byte is taken. -/
theorem pop (h : Holds fifo (data :: queue)) :
    (FifoPop fifo).1 = data ∧ Holds (FifoPop fifo).2 queue := by
  have hnext := toNat_FifoNext fifo fifo.Begin h.size_pos
  have hcontents := h.bytes
  rw [List.length_cons, contents_eq_cons, ← hnext, List.cons.injEq] at hcontents
  have hroom := h.room
  rw [List.length_cons] at hroom
  refine ⟨hcontents.1, ?_, Nat.lt_of_succ_lt hroom, ?_, hcontents.2⟩
  · exact hnext.trans_lt (Nat.mod_lt _ h.size_pos)
  · refine h.end_eq.trans ?_
    change _ = ((FifoNext fifo fifo.Begin).toNat + queue.length) % fifo.Size.toNat
    rw [hnext, Nat.mod_add_mod, List.length_cons, Nat.add_right_comm, Nat.add_assoc]

theorem flush (h : Holds fifo queue) : Holds (FifoFlush fifo) [] :=
  ⟨h.size_pos, h.size_pos, (Nat.zero_mod _).symm, rfl⟩

end Holds

inductive Call where
  | FifoPush (data : UInt8)
  | FifoPop
  | FifoFlush

/-- The FIFO, with the bytes that were pushed and the bytes that were popped since the last
flush. -/
structure Traced where
  fifo : Fifo_t
  pushed : List UInt8
  popped : List UInt8

def Traced.call (w : Traced) : Call → Traced
  | .FifoPush data => ⟨system.FifoPush w.fifo data, w.pushed ++ [data], w.popped⟩
  | .FifoPop => ⟨(system.FifoPop w.fifo).2, w.pushed, w.popped ++ [(system.FifoPop w.fifo).1]⟩
  | .FifoFlush => ⟨system.FifoFlush w.fifo, [], []⟩

/-- How the drivers of the UART use the FIFO. -/
def Disciplined (w : Traced) : Call → Prop
  | .FifoPush _ => IsFifoFull w.fifo = false
  | .FifoPop => IsFifoEmpty w.fifo = false
  | .FifoFlush => True

/-- The FIFO holds what was pushed and has not been popped. -/
structure Queued (size : UInt16) (w : Traced) (queue : List UInt8) : Prop where
  size : w.fifo.Size = size
  holds : Holds w.fifo queue
  pushed : w.pushed = w.popped ++ queue

/-- One call keeps it. -/
theorem queued_call {size : UInt16} {w : Traced} {queue : List UInt8} {c : Call}
    (h : Queued size w queue) (hc : Disciplined w c) : ∃ queue', Queued size (w.call c) queue' := by
  cases c with
  | FifoPush data =>
    refine ⟨queue ++ [data], h.size, h.holds.push hc data, ?_⟩
    change w.pushed ++ [data] = _
    rw [h.pushed, List.append_assoc]
    rfl
  | FifoPop =>
    cases queue with
    | nil =>
      rw [Disciplined, h.holds.isFifoEmpty_iff.mpr rfl] at hc
      cases hc
    | cons data queue =>
      obtain ⟨hdata, hholds⟩ := h.holds.pop
      refine ⟨queue, h.size, hholds, ?_⟩
      change w.pushed = w.popped ++ [(FifoPop w.fifo).1] ++ queue
      rw [h.pushed, hdata, List.append_assoc]
      rfl
  | FifoFlush => exact ⟨[], h.size, h.holds.flush, rfl⟩

/-- The FIFO is a bounded queue: whatever calls the drivers make, the bytes that were popped are the
first ones that were pushed, in their order, and the tests for an empty and for a full FIFO tell how
many are left. This holds for every size that the buffer can have. -/
theorem fifo_refines_queue {buffer : Mem} {size : UInt16} {calls : List Call} {w : Traced}
    (hsize : 1 ≤ size)
    (hrun : transition.Run (fun w c v => Traced.call w c = v) Disciplined
      ⟨FifoInit buffer size, [], []⟩ calls w) :
    ∃ queue, w.pushed = w.popped ++ queue ∧ (w.fifo.Begin < size ∧ w.fifo.End < size) ∧
      (IsFifoEmpty w.fifo = true ↔ queue.length = 0) ∧
      (IsFifoFull w.fifo = true ↔ queue.length = size.toNat - 1) := by
  have hpos : 0 < size := UInt16.lt_iff_toNat_lt.mpr (UInt16.le_iff_toNat_le.mp hsize)
  have hinit : ∃ queue, Queued size ⟨FifoInit buffer size, [], []⟩ queue :=
    ⟨[], rfl, holds_FifoInit buffer hpos, rfl⟩
  have hw : ∃ queue, Queued size w queue := by
    refine hrun.invariant (P := fun w => ∃ queue, Queued size w queue) hinit ?_
    rintro w c v ⟨queue, hqueue⟩ hc rfl
    exact queued_call hqueue hc
  obtain ⟨queue, hsame, hholds, hpushed⟩ := hw
  refine ⟨queue, hpushed, ⟨?_, ?_⟩, hholds.isFifoEmpty_iff, ?_⟩
  · rw [← hsame]
    exact UInt16.lt_iff_toNat_lt.mpr hholds.begin_lt
  · rw [← hsame]
    exact UInt16.lt_iff_toNat_lt.mpr hholds.end_lt
  · rw [← hsame]
    exact hholds.isFifoFull_iff

/-- Three bytes through a FIFO of three cells, which is full with two of them. -/
theorem fifo_refines_queue_three : ∃ w queue,
    transition.Run (fun w c v => Traced.call w c = v) Disciplined ⟨FifoInit (fun _ => 0) 3, [], []⟩
      [.FifoPush 1, .FifoPush 2, .FifoPop, .FifoPush 3] w ∧
      w.popped = [1] ∧ w.pushed = w.popped ++ queue ∧ IsFifoFull w.fifo = true ∧
      queue.length = 2 := by
  have hcalls : transition.AllowedAlong Traced.call Disciplined ⟨FifoInit (fun _ => 0) 3, [], []⟩
      [.FifoPush 1, .FifoPush 2, .FifoPop, .FifoPush 3] := ⟨rfl, rfl, rfl, rfl, trivial⟩
  have hrun := transition.Run.foldl hcalls
  obtain ⟨queue, hpushed, -, -, hfull⟩ := fifo_refines_queue (by decide) hrun
  exact ⟨_, queue, hrun, rfl, hpushed, rfl, hfull.mp rfl⟩

end loranode.system
