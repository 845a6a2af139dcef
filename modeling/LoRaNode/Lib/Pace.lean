import Mathlib.Data.Nat.ModEq

namespace pace

/-- The ticks since the start, their number when the action came last, and whether the counter has
moved since then. -/
structure Pace where
  ticks : Nat
  last : Option Nat
  moved : Bool

namespace Pace

/-- The action. -/
def act (p : Pace) : Pace := ⟨p.ticks, some p.ticks, false⟩

def tick (p : Pace) : Pace := { p with ticks := p.ticks + 1 }

/-- The counter has gone on or has been set back. -/
def move (p : Pace) : Pace := { p with moved := true }

variable {p : Pace} {period modulus counter : Nat}

/-- The counter has never gone on without a tick. Since the last action it has gone on `k` times,
unless it has been set back. -/
structure Sound (period : Nat) (p : Pace) (counter : Nat) : Prop where
  le_ticks : counter ≤ p.ticks
  since : ∀ n ∈ p.last, ∃ k, n + k ≤ p.ticks ∧
    (counter = k ∨ counter ≡ k [MOD period] ∧ (p.moved = true → 0 < k))

namespace Sound

theorem start : Sound period ⟨0, none, false⟩ 0 := ⟨Nat.le_refl 0, by simp⟩

theorem tick (h : Sound period p counter) : Sound period p.tick counter := by
  refine ⟨h.le_ticks.trans (Nat.le_succ _), fun n hn => ?_⟩
  obtain ⟨k, hk, hsince⟩ := h.since n hn
  exact ⟨k, hk.trans (Nat.le_succ _), hsince⟩

/-- Setting the counter back does no harm. -/
theorem reset (h : Sound period p counter) : Sound period p.move 0 := by
  refine ⟨Nat.zero_le _, fun n hn => ?_⟩
  obtain ⟨k, hk, -⟩ := h.since n hn
  exact ⟨0, (Nat.le_add_right n k).trans hk, .inl rfl⟩

/-- The counter goes on with a tick. It has a fixed width, which the period divides. -/
theorem count (h : Sound period p counter) (hperiod : period ∣ modulus) :
    Sound period p.tick.move ((counter + 1) % modulus) := by
  have hmod : (counter + 1) % modulus ≡ counter + 1 [MOD period] :=
    (Nat.mod_modEq (counter + 1) modulus).of_dvd hperiod
  refine ⟨(Nat.mod_le _ _).trans (Nat.succ_le_succ h.le_ticks), fun n hn => ?_⟩
  obtain ⟨k, hk, hsince⟩ := h.since n hn
  refine ⟨k + 1, Nat.succ_le_succ hk, .inr ⟨hmod.trans ?_, fun _ => Nat.succ_pos k⟩⟩
  rcases hsince with rfl | ⟨hcounter, -⟩
  · exact .refl _
  · exact hcounter.add_right 1

theorem act (h : Sound period p counter) (hmultiple : counter ≡ 0 [MOD period]) :
    Sound period p.act counter := by
  refine ⟨h.le_ticks, fun n hn => ⟨0, ?_, .inr ⟨hmultiple, by simp [Pace.act]⟩⟩⟩
  cases hn
  exact Nat.le_refl _

/-- If the counter has moved since the last action, then a whole period lies between that and
an action at a multiple of the period. -/
theorem le_of_moved (h : Sound period p counter) (hmultiple : counter ≡ 0 [MOD period])
    (hpos : 0 < counter) (hmoved : p.moved = true) : ∀ n ∈ p.last, n + period ≤ p.ticks := by
  intro n hn
  obtain ⟨k, hk, hsince⟩ := h.since n hn
  have hle : period ≤ k := by
    rcases hsince with rfl | ⟨hcounter, hk⟩
    · exact Nat.le_of_dvd hpos (Nat.modEq_zero_iff_dvd.mp hmultiple)
    · exact Nat.le_of_dvd (hk hmoved) (Nat.modEq_zero_iff_dvd.mp (hcounter.symm.trans hmultiple))
  exact (Nat.add_le_add_left hle n).trans hk

end Sound

end Pace

end pace
