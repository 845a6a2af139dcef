import Mathlib.Data.List.Basic

namespace monitor

/-- An automaton that reads actions, and tells in each of its states which ones may come. -/
structure Monitor (α σ : Type*) where
  start : σ
  next : σ → α → σ
  ok : σ → α → Prop

namespace Monitor

variable {α σ : Type*} (m : Monitor α σ)

/-- The state behind a log. -/
def after (log : List α) : σ := log.foldl m.next m.start

/-- Every action of the log comes when it may, if the first one is read in `st`. -/
def AcceptsFrom : σ → List α → Prop
  | _, [] => True
  | st, a :: log => m.ok st a ∧ AcceptsFrom (m.next st a) log

/-- Every action of the log comes when it may. -/
def Accepts (log : List α) : Prop := m.AcceptsFrom m.start log

instance decidableAcceptsFrom [∀ st a, Decidable (m.ok st a)] : ∀ st log, Decidable (m.AcceptsFrom st log)
  | _, [] => .isTrue trivial
  | st, a :: log =>
    have := decidableAcceptsFrom (m.next st a) log
    inferInstanceAs (Decidable (_ ∧ _))

instance [∀ st a, Decidable (m.ok st a)] (log : List α) : Decidable (m.Accepts log) :=
  inferInstanceAs (Decidable (m.AcceptsFrom m.start log))

/-- The action is of no interest in any state. -/
def Ignores (a : α) : Prop := ∀ st, m.next st a = st ∧ m.ok st a

variable {m}

theorem after_snoc (log : List α) (a : α) : m.after (log ++ [a]) = m.next (m.after log) a := by
  unfold after
  rw [List.foldl_append]
  rfl

theorem acceptsFrom_append {st : σ} {log log' : List α} :
    m.AcceptsFrom st (log ++ log') ↔
      m.AcceptsFrom st log ∧ m.AcceptsFrom (log.foldl m.next st) log' := by
  induction log generalizing st with
  | nil => exact ⟨fun h => ⟨trivial, h⟩, fun h => h.2⟩
  | cons a log ih =>
    refine (and_congr_right fun _ => ih).trans ?_
    exact and_assoc.symm

theorem accepts_snoc {log : List α} {a : α} :
    m.Accepts (log ++ [a]) ↔ m.Accepts log ∧ m.ok (m.after log) a :=
  acceptsFrom_append.trans (and_congr_right fun _ => and_iff_left trivial)

/-- Each action of an accepted log may come in the state behind those before it. -/
theorem Accepts.ok {before behind : List α} {a : α} (h : m.Accepts (before ++ a :: behind)) :
    m.ok (m.after before) a :=
  (acceptsFrom_append.mp h).2.1

theorem Ignores.after_snoc {a : α} (ha : m.Ignores a) (log : List α) :
    m.after (log ++ [a]) = m.after log := by
  rw [Monitor.after_snoc, (ha _).1]

theorem Ignores.accepts_snoc {a : α} (ha : m.Ignores a) {log : List α} (hlog : m.Accepts log) :
    m.Accepts (log ++ [a]) :=
  Monitor.accepts_snoc.mpr ⟨hlog, (ha _).2⟩

/-- Actions that are of no interest can come at any time. -/
theorem accepts_append_of_ignores (log : List α) {log' : List α} (h : ∀ a ∈ log', m.Ignores a) :
    m.after (log ++ log') = m.after log ∧ (m.Accepts log → m.Accepts (log ++ log')) := by
  induction log' generalizing log with
  | nil => rw [List.append_nil]; exact ⟨rfl, id⟩
  | cons a log' ih =>
    obtain ⟨ha, hlog'⟩ := List.forall_mem_cons.mp h
    obtain ⟨hafter, haccepts⟩ := ih (log ++ [a]) hlog'
    rw [List.append_cons]
    exact ⟨hafter.trans (ha.after_snoc log), fun hlog => haccepts (ha.accepts_snoc hlog)⟩

end Monitor

end monitor
