import Mathlib.Logic.Basic
import Mathlib.Order.Basic

namespace delimited

variable {α : Type*} {sep : α} {m : Nat → α} {i n : Nat}

/-- The field that starts at `i` has `n` symbols, and the separator follows. -/
structure FieldAt (sep : α) (m : Nat → α) (i n : Nat) : Prop where
  inside : ∀ k < n, m (i + k) ≠ sep
  ends : m (i + n) = sep

theorem FieldAt.unique {n' : Nat} (h : FieldAt sep m i n) (h' : FieldAt sep m i n') : n = n' := by
  obtain hlt | heq | hlt := Nat.lt_trichotomy n n'
  · exact absurd h.ends (h'.inside n hlt)
  · exact heq
  · exact absurd h'.ends (h.inside n' hlt)

section

variable [DecidableEq α]

instance (sep : α) (m : Nat → α) (i n : Nat) : Decidable (FieldAt sep m i n) :=
  decidable_of_iff ((∀ k < n, m (i + k) ≠ sep) ∧ m (i + n) = sep)
    ⟨fun h => ⟨h.1, h.2⟩, fun h => ⟨h.inside, h.ends⟩⟩

/-- The loop that looks for the separator, with `n` symbols behind it and `left` symbols that it
may still pass. What it finds is the length of the field with its separator. -/
def scan (sep : α) (m : Nat → α) (i : Nat) : (left n : Nat) → Option Nat
  | 0, n => if m (i + n) = sep then some (n + 1) else none
  | left + 1, n => if m (i + n) = sep then some (n + 1) else scan sep m i left (n + 1)

/-- The loop ends at the separator, or it has passed as many symbols as it may. -/
theorem scan_cases (left : Nat) (hn : ∀ k < n, m (i + k) ≠ sep) :
    (∃ len, FieldAt sep m i len ∧ len ≤ n + left ∧ scan sep m i left n = some (len + 1)) ∨
      (∀ k ≤ n + left, m (i + k) ≠ sep) ∧ scan sep m i left n = none := by
  induction left generalizing n with
  | zero =>
    unfold scan
    split
    · next hsep => exact .inl ⟨n, ⟨hn, hsep⟩, Nat.le_refl n, rfl⟩
    · next hsep =>
      refine .inr ⟨fun k hk => ?_, rfl⟩
      obtain hlt | rfl := Nat.lt_or_eq_of_le hk
      · exact hn k hlt
      · exact hsep
  | succ left ih =>
    unfold scan
    split
    · next hsep => exact .inl ⟨n, ⟨hn, hsep⟩, Nat.le_add_right _ _, rfl⟩
    · next hsep =>
      have hn' : ∀ k < n + 1, m (i + k) ≠ sep := by
        intro k hk
        obtain hlt | rfl := Nat.lt_or_eq_of_le (Nat.le_of_lt_succ hk)
        · exact hn k hlt
        · exact hsep
      have hrest := ih hn'
      rw [Nat.add_right_comm, Nat.add_assoc] at hrest
      exact hrest

/-- The whole loop, which may pass `limit` symbols. -/
theorem scan_start_cases (sep : α) (m : Nat → α) (i limit : Nat) :
    (∃ len, FieldAt sep m i len ∧ len ≤ limit ∧ scan sep m i limit 0 = some (len + 1)) ∨
      (∀ k ≤ limit, m (i + k) ≠ sep) ∧ scan sep m i limit 0 = none := by
  have hnone : ∀ k < 0, m (i + k) ≠ sep := fun k hk => absurd hk (Nat.not_lt_zero k)
  have hcases := scan_cases limit hnone
  rw [Nat.zero_add] at hcases
  exact hcases

/-- A field that is short enough is found. -/
theorem FieldAt.scan_eq {limit : Nat} (h : FieldAt sep m i n) (hlimit : n ≤ limit) :
    scan sep m i limit 0 = some (n + 1) := by
  obtain ⟨len, hfield, -, hscan⟩ | ⟨hnone, -⟩ := scan_start_cases sep m i limit
  · rw [hscan, h.unique hfield]
  · exact absurd h.ends (hnone n hlimit)

end

end delimited
