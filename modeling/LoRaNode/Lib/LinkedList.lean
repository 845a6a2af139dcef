import Mathlib.Data.Fintype.Card

namespace linkedlist

variable {α : Type*}

/-- Following `next` from `p` visits the nodes of the list in order and comes to `q`. -/
inductive Path (next : α → Option α) : Option α → List α → Option α → Prop where
  | nil (p : Option α) : Path next p [] p
  | cons {a : α} {nodes : List α} {q : Option α} (hrest : Path next (next a) nodes q) :
      Path next (some a) (a :: nodes) q

/-- Following `next` from `p` ends, after the nodes of the list. -/
abbrev Chain (next : α → Option α) (p : Option α) (nodes : List α) : Prop :=
  Path next p nodes none

variable {next next' : α → Option α} {p q r : Option α} {a : α} {nodes rest : List α}

theorem path_nil_iff : Path next p [] q ↔ p = q := by
  constructor
  · rintro ⟨⟩
    rfl
  · rintro rfl
    exact .nil p

theorem path_cons_iff : Path next p (a :: nodes) q ↔ p = some a ∧ Path next (next a) nodes q := by
  constructor
  · rintro (_ | h)
    exact ⟨rfl, h⟩
  · rintro ⟨rfl, h⟩
    exact .cons h

theorem path_append_iff :
    Path next p (nodes ++ rest) q ↔ ∃ m, Path next p nodes m ∧ Path next m rest q := by
  induction nodes generalizing p with
  | nil => simp [path_nil_iff]
  | cons a nodes ih => simp [path_cons_iff, ih, and_assoc]

/-- A path depends on the pointers of its nodes only. -/
theorem Path.congr (h : Path next p nodes q) (hnext : ∀ a ∈ nodes, next' a = next a) :
    Path next' p nodes q := by
  induction h with
  | nil p => exact .nil p
  | @cons a nodes q _ ih =>
    refine .cons ?_
    rw [hnext a List.mem_cons_self]
    exact ih fun b hb => hnext b (List.mem_cons_of_mem a hb)

/-- A path to a node without a pointer ends there. -/
theorem Path.chain_append (h : Path next p nodes (some a)) (ha : next a = none) :
    Chain next p (nodes ++ [a]) := by
  refine path_append_iff.mpr ⟨_, h, .cons ?_⟩
  rw [ha]
  exact .nil none

/-- A chain begins with every path from where it begins. -/
theorem Path.exists_append (h : Path next p nodes q) {all : List α} (hall : Chain next p all) :
    ∃ rest, all = nodes ++ rest ∧ Chain next q rest := by
  induction h generalizing all with
  | nil p => exact ⟨all, rfl, hall⟩
  | @cons a nodes q _ ih =>
    cases hall with
    | cons hall =>
      obtain ⟨rest, rfl, hrest⟩ := ih hall
      exact ⟨rest, rfl, hrest⟩

theorem chain_none_iff : Chain next none nodes ↔ nodes = [] := by
  constructor
  · rintro ⟨⟩
    rfl
  · rintro rfl
    exact .nil none

theorem Path.unique {all : List α} (h : Chain next p nodes) (hall : Chain next p all) :
    nodes = all := by
  obtain ⟨rest, rfl, hrest⟩ := h.exists_append hall
  rw [chain_none_iff.mp hrest, List.append_nil]

/-- A chain visits no node twice: it would never end. -/
theorem Path.nodup (h : Chain next p nodes) : nodes.Nodup := by
  induction nodes generalizing p with
  | nil => exact List.nodup_nil
  | cons a nodes ih =>
    obtain ⟨rfl, hrest⟩ := path_cons_iff.mp h
    refine List.nodup_cons.mpr ⟨fun hmem => ?_, ih hrest⟩
    obtain ⟨before, behind, rfl⟩ := List.append_of_mem hmem
    obtain ⟨m, -, hagain⟩ := path_append_iff.mp hrest
    obtain ⟨rfl, -⟩ := path_cons_iff.mp hagain
    have hlength := congrArg List.length (h.unique hagain)
    simp only [List.length_cons, List.length_append] at hlength
    omega

section

variable [DecidableEq α]

/-- A write to a node that the path does not visit. -/
theorem Path.update_of_notMem (h : Path next p nodes q) (ha : a ∉ nodes) :
    Path (Function.update next a r) p nodes q := by
  refine h.congr fun b hb => ?_
  have hne : b ≠ a := fun heq => ha (heq ▸ hb)
  rw [Function.update_of_ne hne]

/-- A write to the last node of a path. -/
theorem Path.update_last (h : Path next p (nodes ++ [a]) q) (ha : a ∉ nodes) :
    Path (Function.update next a r) p (nodes ++ [a]) r := by
  obtain ⟨m, hnodes, hlast⟩ := path_append_iff.mp h
  obtain ⟨rfl, -⟩ := path_cons_iff.mp hlast
  refine path_append_iff.mpr ⟨_, hnodes.update_of_notMem ha, .cons ?_⟩
  rw [Function.update_self]
  exact .nil r

end

/-- The loop that follows `next` from `p` until it finds a node with `stop`, or the end;
nothing if it is still under way after `fuel` turns. -/
def seek (next : α → Option α) (stop : α → Bool) : Nat → Option α → Option (Option α)
  | 0, _ => none
  | _ + 1, none => some none
  | fuel + 1, some a => if stop a then some (some a) else seek next stop fuel (next a)

/-- On a chain the loop ends at the first node with `stop`. -/
theorem Path.seek_eq (h : Chain next p nodes) (stop : α → Bool) {fuel : Nat}
    (hfuel : nodes.length < fuel) : seek next stop fuel p = some (nodes.find? stop) := by
  induction nodes generalizing p fuel with
  | nil =>
    obtain rfl := path_nil_iff.mp h
    obtain ⟨fuel, rfl⟩ := Nat.exists_eq_add_one_of_ne_zero (Nat.ne_of_gt hfuel)
    rfl
  | cons a nodes ih =>
    obtain ⟨rfl, hrest⟩ := path_cons_iff.mp h
    obtain ⟨fuel, rfl⟩ := Nat.exists_eq_add_one_of_ne_zero (Nat.ne_of_gt (Nat.zero_lt_of_lt hfuel))
    rw [seek, List.find?_cons]
    cases stop a with
    | true => rfl
    | false => exact ih hrest (Nat.lt_of_succ_lt_succ hfuel)

/-- The pointer of the last node of a path leads to where the path comes to. -/
theorem Path.next_last (h : Path next p (nodes ++ [a]) q) : next a = q := by
  obtain ⟨_, -, hlast⟩ := path_append_iff.mp h
  exact path_nil_iff.mp (path_cons_iff.mp hlast).2

/-- The pointer of a node that is not the last one of a path leads to the path. -/
theorem Path.exists_next (h : Path next p (nodes ++ [a]) q) {b : α} (hb : b ∈ nodes) :
    ∃ c ∈ nodes ++ [a], next b = some c := by
  induction nodes generalizing p with
  | nil => cases hb
  | cons d nodes ih =>
    obtain ⟨-, hrest⟩ := path_cons_iff.mp h
    rcases List.mem_cons.mp hb with rfl | hb
    · cases nodes with
      | nil => exact ⟨a, by simp, (path_cons_iff.mp hrest).1⟩
      | cons c nodes => exact ⟨c, by simp, (path_cons_iff.mp hrest).1⟩
    · obtain ⟨c, hc, hnext⟩ := ih hrest hb
      exact ⟨c, List.mem_cons_of_mem d hc, hnext⟩

/-- A search that stops at the last node of a path and at no pointer to a node of the path
finds that last node first. -/
theorem Path.find?_eq_last (h : Path next p (nodes ++ [a]) q) {stop : α → Bool}
    (hinner : ∀ b c, c ∈ nodes ++ [a] → next b = some c → stop b = false) (ha : stop a = true) :
    (nodes ++ a :: rest).find? stop = some a := by
  have hbefore : nodes.find? stop = none := by
    rw [List.find?_eq_none]
    intro b hb
    obtain ⟨c, hc, hnext⟩ := h.exists_next hb
    simp [hinner b c hc hnext]
  rw [List.find?_append, hbefore, List.find?_cons, ha]
  rfl

/-- A node of a chain is not visited before or behind it. -/
theorem Path.notMem_of_append (h : Chain next p (nodes ++ a :: rest)) : a ∉ nodes ∧ a ∉ rest := by
  have hnodup := h.nodup
  rw [List.nodup_append, List.nodup_cons] at hnodup
  exact ⟨fun hmem => hnodup.2.2 a hmem a List.mem_cons_self rfl, hnodup.2.1.1⟩

/-- The pointer of the node before another is made to skip that one. -/
theorem Path.bypass [DecidableEq α] {b : α} (h : Chain next p (nodes ++ a :: b :: rest)) :
    Chain (Function.update (Function.update next a (next b)) b none) p (nodes ++ a :: rest) := by
  have ha := h.notMem_of_append
  rw [List.append_cons] at h
  have hb := h.notMem_of_append
  obtain ⟨m, hnodes, hbehind⟩ := path_append_iff.mp h
  obtain ⟨rfl, hrest⟩ := path_cons_iff.mp hbehind
  have hskip : Path (Function.update next a (next b)) p (nodes ++ [a]) (next b) :=
    hnodes.update_last ha.1
  have hrest : Chain (Function.update next a (next b)) (next b) rest :=
    hrest.update_of_notMem fun hmem => ha.2 (List.mem_cons_of_mem b hmem)
  rw [List.append_cons]
  refine (path_append_iff.mpr ⟨_, hskip, hrest⟩).update_of_notMem ?_
  rw [List.mem_append, not_or]
  exact hb

/-- A chain of a finite type is no longer than the type has elements. -/
theorem Path.length_lt [Fintype α] (h : Chain next p nodes) :
    nodes.length < Fintype.card α + 1 :=
  Nat.lt_succ_of_le h.nodup.length_le_card

end linkedlist
