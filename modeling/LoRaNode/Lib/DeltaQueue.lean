import Mathlib.Data.List.Basic
import Mathlib.Data.List.Perm.Basic

namespace deltaqueue

/-- Entries with their distances, the first one to expire first. -/
abbrev DeltaQueue (α : Type) := List (α × Nat)

variable {α : Type}

/-- The entries of a queue. -/
def keys (q : DeltaQueue α) : List α := q.map Prod.fst

@[simp] theorem keys_nil : keys ([] : DeltaQueue α) = [] := rfl

@[simp] theorem keys_cons (x : α) (d : Nat) (q : DeltaQueue α) :
    keys ((x, d) :: q) = x :: keys q := rfl

/-- The entries with the times at which they expire, for a queue that starts at `b`. -/
def offsets : (b : Nat) → DeltaQueue α → List (α × Nat)
  | _, [] => []
  | b, (x, d) :: q => (x, b + d) :: offsets (b + d) q

@[simp] theorem offsets_nil (b : Nat) : offsets b ([] : DeltaQueue α) = [] := rfl

@[simp] theorem offsets_cons (b : Nat) (x : α) (d : Nat) (q : DeltaQueue α) :
    offsets b ((x, d) :: q) = (x, b + d) :: offsets (b + d) q := rfl

theorem map_fst_offsets (b : Nat) (q : DeltaQueue α) : (offsets b q).map Prod.fst = keys q := by
  induction q generalizing b with
  | nil => rfl
  | cons e q ih =>
    obtain ⟨x, d⟩ := e
    simp [ih]

theorem mem_keys_iff {b : Nat} {q : DeltaQueue α} {x : α} :
    x ∈ keys q ↔ ∃ t, (x, t) ∈ offsets b q := by
  rw [← map_fst_offsets b, List.mem_map]
  constructor
  · rintro ⟨⟨y, t⟩, hmem, rfl⟩
    exact ⟨t, hmem⟩
  · rintro ⟨t, hmem⟩
    exact ⟨(x, t), hmem, rfl⟩

/-- A queue that starts later expires later. -/
theorem mem_offsets_add {b c : Nat} {q : DeltaQueue α} {x : α} {t : Nat} :
    (x, t + c) ∈ offsets (b + c) q ↔ (x, t) ∈ offsets b q := by
  induction q generalizing b with
  | nil => simp
  | cons e q ih =>
    obtain ⟨y, d⟩ := e
    have hb : b + c + d = b + d + c := by omega
    rw [offsets_cons, offsets_cons, List.mem_cons, List.mem_cons, hb, ih]
    simp

/-- Puts an entry that expires at `r` in front of the first one that expires later. -/
def enqueue (x : α) : (r : Nat) → DeltaQueue α → DeltaQueue α
  | r, [] => [(x, r)]
  | r, (y, d) :: q => if r < d then (x, r) :: (y, d - r) :: q else (y, d) :: enqueue x (r - d) q

theorem le_of_mem_offsets {b : Nat} {q : DeltaQueue α} {e : α × Nat} (h : e ∈ offsets b q) :
    b ≤ e.2 := by
  induction q generalizing b with
  | nil => cases h
  | cons f q ih =>
    obtain ⟨y, d⟩ := f
    rcases List.mem_cons.mp h with rfl | h
    · exact Nat.le_add_right b d
    · exact Nat.le_trans (Nat.le_add_right b d) (ih h)

/-- A new entry comes behind those that expire no later and in front of all others, none of
which moves. -/
theorem offsets_enqueue (b r : Nat) (q : DeltaQueue α) (x : α) :
    ∃ before behind, offsets b q = before ++ behind ∧
      offsets b (enqueue x r q) = before ++ (x, b + r) :: behind ∧
      (∀ e ∈ before, e.2 ≤ b + r) ∧ ∀ e ∈ behind, b + r < e.2 := by
  induction q generalizing b r with
  | nil => exact ⟨[], [], rfl, rfl, nofun, nofun⟩
  | cons f q ih =>
    obtain ⟨y, d⟩ := f
    unfold enqueue
    split
    · next hlt =>
      have hd : b + r + (d - r) = b + d := by omega
      refine ⟨[], offsets b ((y, d) :: q), rfl, ?_, nofun, fun e he => ?_⟩
      · simp only [offsets_cons, hd, List.nil_append]
      · rcases List.mem_cons.mp he with rfl | he
        · exact Nat.add_lt_add_left hlt b
        · exact Nat.lt_of_lt_of_le (Nat.add_lt_add_left hlt b) (le_of_mem_offsets he)
    · next hge =>
      have hr : b + d + (r - d) = b + r := by omega
      obtain ⟨before, behind, hold, hnew, hbefore, hbehind⟩ := ih (b + d) (r - d)
      rw [hr] at hnew hbefore hbehind
      refine ⟨(y, b + d) :: before, behind, ?_, ?_, fun e he => ?_, hbehind⟩
      · rw [offsets_cons, hold, List.cons_append]
      · rw [offsets_cons, hnew, List.cons_append]
      · rcases List.mem_cons.mp he with rfl | he
        · change b + d ≤ b + r
          omega
        · exact hbefore e he

theorem mem_offsets_enqueue {b r : Nat} {q : DeltaQueue α} {x : α} {e : α × Nat} :
    e ∈ offsets b (enqueue x r q) ↔ e = (x, b + r) ∨ e ∈ offsets b q := by
  obtain ⟨before, behind, hold, hnew, -, -⟩ := offsets_enqueue b r q x
  rw [hold, hnew, List.mem_append, List.mem_append, List.mem_cons]
  exact or_left_comm

theorem keys_enqueue_perm (x : α) (r : Nat) (q : DeltaQueue α) :
    (keys (enqueue x r q)).Perm (x :: keys q) := by
  induction q generalizing r with
  | nil => simp [enqueue]
  | cons f q ih =>
    obtain ⟨y, d⟩ := f
    unfold enqueue
    split
    · exact List.Perm.refl _
    · exact ((ih (r - d)).cons y).trans (List.Perm.swap x y _)

/-- Postpones the whole queue. -/
def postpone (d : Nat) : DeltaQueue α → DeltaQueue α
  | [] => []
  | (x, e) :: q => (x, e + d) :: q

@[simp] theorem offsets_postpone (b d : Nat) (q : DeltaQueue α) :
    offsets b (postpone d q) = offsets (b + d) q := by
  cases q with
  | nil => rfl
  | cons e q =>
    obtain ⟨x, c⟩ := e
    have hb : b + (c + d) = b + d + c := by omega
    simp only [postpone, offsets_cons, hb]

@[simp] theorem keys_postpone (d : Nat) (q : DeltaQueue α) : keys (postpone d q) = keys q := by
  cases q <;> rfl

/-- Takes an entry out; those behind it expire when they did before. -/
def remove [DecidableEq α] (x : α) : DeltaQueue α → DeltaQueue α
  | [] => []
  | (y, d) :: q => if y = x then postpone d q else (y, d) :: remove x q

section Remove

variable [DecidableEq α]

theorem keys_remove (x : α) (q : DeltaQueue α) : keys (remove x q) = (keys q).erase x := by
  induction q with
  | nil => rfl
  | cons e q ih =>
    obtain ⟨y, d⟩ := e
    unfold remove
    by_cases heq : y = x
    · simp [heq]
    · simp [heq, ih]

/-- The entries that stay do not move. -/
theorem offsets_remove (b : Nat) {q : DeltaQueue α} {x : α} (hx : x ∈ keys q) :
    ∃ before time behind, offsets b q = before ++ (x, time) :: behind ∧
      offsets b (remove x q) = before ++ behind := by
  induction q generalizing b with
  | nil => cases hx
  | cons f q ih =>
    obtain ⟨y, d⟩ := f
    unfold remove
    by_cases heq : y = x
    · rw [if_pos heq, offsets_postpone, offsets_cons, heq]
      exact ⟨[], b + d, offsets (b + d) q, rfl, rfl⟩
    · rw [if_neg heq]
      rw [keys_cons, List.mem_cons] at hx
      obtain ⟨before, time, behind, hold, hnew⟩ :=
        ih (b + d) (hx.resolve_left fun h => heq h.symm)
      refine ⟨(y, b + d) :: before, time, behind, ?_, ?_⟩
      · rw [offsets_cons, hold, List.cons_append]
      · rw [offsets_cons, hnew, List.cons_append]

theorem remove_of_notMem {q : DeltaQueue α} {x : α} (hx : x ∉ keys q) : remove x q = q := by
  induction q with
  | nil => rfl
  | cons f q ih =>
    obtain ⟨y, d⟩ := f
    rw [keys_cons, List.mem_cons, not_or] at hx
    rw [remove, if_neg fun h => hx.1 h.symm, ih hx.2]

theorem mem_offsets_of_mem_remove {b : Nat} {q : DeltaQueue α} {x : α} {e : α × Nat}
    (h : e ∈ offsets b (remove x q)) : e ∈ offsets b q := by
  by_cases hx : x ∈ keys q
  · obtain ⟨before, time, behind, hold, hnew⟩ := offsets_remove b hx
    rw [hnew, List.mem_append] at h
    rw [hold, List.mem_append, List.mem_cons]
    exact h.imp_right Or.inr
  · rwa [remove_of_notMem hx] at h

end Remove

end deltaqueue
