import Mathlib.Data.Option.Basic
import Mathlib.Data.List.Basic

namespace ledger

/-- The messages that were sent with their counters, the counter for the next one, and the
message that can be sent now, with the counter that it was made for. -/
structure Ledger (α : Type*) where
  sent : List (Nat × α)
  counter : Nat
  current : Option (Nat × α)

namespace Ledger

variable {α : Type*} {l : Ledger α}

/-- The current message is sent, or once more. -/
def send (l : Ledger α) : Ledger α := { l with sent := l.sent ++ l.current.toList }

/-- A new message is made for the counter, or none. -/
def renew (l : Ledger α) (a : Option α) : Ledger α :=
  { l with current := a.map fun a => (l.counter, a) }

/-- The counter is used up. -/
def advance (l : Ledger α) (n : Nat) : Ledger α := { l with counter := l.counter + n }

/-- No two messages were sent under one counter, and sending the current one keeps that. -/
structure Sound (l : Ledger α) : Prop where
  distinct : ∀ x ∈ l.sent, ∀ y ∈ l.sent, x.2 ≠ y.2 → x.1 ≠ y.1
  le : ∀ x ∈ l.sent, x.1 ≤ l.counter
  current_le : ∀ x ∈ l.current, x.1 ≤ l.counter
  current_eq : ∀ x ∈ l.current, ∀ y ∈ l.sent, y.1 = x.1 → y.2 = x.2

/-- Nothing was sent under the counter. -/
def Unused (l : Ledger α) : Prop := ∀ x ∈ l.sent, x.1 ≠ l.counter

theorem Sound.empty (counter : Nat) : (⟨[], counter, none⟩ : Ledger α).Sound :=
  ⟨nofun, nofun, nofun, nofun⟩

theorem Sound.send (h : l.Sound) : l.send.Sound := by
  have hsent {x : Nat × α} (hx : x ∈ l.send.sent) : x ∈ l.sent ∨ x ∈ l.current := by
    unfold Ledger.send at hx
    rwa [List.mem_append, Option.mem_toList] at hx
  refine ⟨fun x hx y hy hne heq => ?_, fun x hx => ?_, h.current_le, fun x hx y hy heq => ?_⟩
  · rcases hsent hx with hx | hx <;> rcases hsent hy with hy | hy
    · exact h.distinct x hx y hy hne heq
    · exact hne (h.current_eq y hy x hx heq)
    · exact hne (h.current_eq x hx y hy heq.symm).symm
    · exact hne (by rw [Option.mem_unique hx hy])
  · rcases hsent hx with hx | hx
    · exact h.le x hx
    · exact h.current_le x hx
  · have hx : x ∈ l.current := hx
    rcases hsent hy with hy | hy
    · exact h.current_eq x hx y hy heq
    · rw [Option.mem_unique hx hy]

theorem Sound.renew (h : l.Sound) (hunused : l.Unused) (a : Option α) : (l.renew a).Sound := by
  have hcurrent {x : Nat × α} (hx : x ∈ (l.renew a).current) : x.1 = l.counter := by
    obtain ⟨b, -, rfl⟩ := Option.mem_map.mp hx
    rfl
  refine ⟨h.distinct, h.le, fun x hx => Nat.le_of_eq (hcurrent hx), fun x hx y hy heq => ?_⟩
  exact absurd (heq.trans (hcurrent hx)) (hunused y hy)

theorem Sound.advance (h : l.Sound) (n : Nat) : (l.advance n).Sound :=
  ⟨h.distinct, fun x hx => Nat.le_add_right_of_le (h.le x hx),
    fun x hx => Nat.le_add_right_of_le (h.current_le x hx), h.current_eq⟩

theorem Sound.unused_advance (h : l.Sound) {n : Nat} (hn : 0 < n) : (l.advance n).Unused := by
  intro x hx heq
  have hle := h.le x hx
  have hcounter : x.1 = l.counter + n := heq
  omega

end Ledger

end ledger
