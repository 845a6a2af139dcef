import Mathlib.Logic.Basic

namespace transition

variable {σ ε : Type*}

/-- A run from `s`: a step for each event of the list. `allowed` is what an event must
meet in the state that it finds. -/
inductive Run (step : σ → ε → σ → Prop) (allowed : σ → ε → Prop) (s : σ) : List ε → σ → Prop where
  | nil : Run step allowed s [] s
  | snoc {es : List ε} {e : ε} {t u : σ} (run : Run step allowed s es t) (hallowed : allowed t e)
      (hstep : step t e u) : Run step allowed s (es ++ [e]) u

variable {step : σ → ε → σ → Prop} {allowed : σ → ε → Prop} {s t : σ} {es : List ε}

/-- What holds at the start and is kept by every allowed step holds in every state
that a run reaches. -/
theorem Run.invariant {P : σ → Prop} (hrun : Run step allowed s es t) (hinit : P s)
    (hkeep : ∀ t e u, P t → allowed t e → step t e u → P u) : P t := by
  induction hrun with
  | nil => exact hinit
  | snoc _ hallowed hstep ih => exact hkeep _ _ _ ih hallowed hstep

theorem Run.cons {e : ε} {u : σ} (hallowed : allowed s e) (hstep : step s e t)
    (hrun : Run step allowed t es u) : Run step allowed s (e :: es) u := by
  induction hrun with
  | nil => exact .snoc .nil hallowed hstep
  | snoc _ hallowed' hstep' ih => exact .snoc ih hallowed' hstep'

theorem Run.mono {allowed' : σ → ε → Prop} (hrun : Run step allowed s es t)
    (h : ∀ s e, allowed s e → allowed' s e) : Run step allowed' s es t := by
  induction hrun with
  | nil => exact .nil
  | snoc _ hallowed hstep ih => exact .snoc ih (h _ _ hallowed) hstep

/-- Each event of the list is allowed where a system with computed steps meets it. -/
def AllowedAlong (f : σ → ε → σ) (allowed : σ → ε → Prop) : σ → List ε → Prop
  | _, [] => True
  | s, e :: es => allowed s e ∧ AllowedAlong f allowed (f s e) es

/-- A system with computed steps runs through any list of allowed events. -/
theorem Run.foldl {f : σ → ε → σ} (hallowed : AllowedAlong f allowed s es) :
    Run (fun s e t => f s e = t) allowed s es (es.foldl f s) := by
  induction es generalizing s with
  | nil => exact .nil
  | cons e es ih => exact .cons hallowed.1 rfl (ih hallowed.2)

/-- The state that a system with partial steps reaches along a list of events, if each of
them is allowed and has a step. -/
def after (f : σ → ε → Option σ) (allowed : σ → ε → Prop) [∀ s e, Decidable (allowed s e)] :
    σ → List ε → Option σ
  | s, [] => some s
  | s, e :: es => if allowed s e then (f s e).bind fun t => after f allowed t es else none

/-- A run is found by computing it, with a test `p` of the state at its end. -/
theorem Run.of_after (f : σ → ε → Option σ) (allowed : σ → ε → Prop)
    [∀ s e, Decidable (allowed s e)] (s : σ) (es : List ε) (p : σ → Bool)
    (h : (after f allowed s es).any p = true) :
    ∃ t, Run (fun s e t => f s e = some t) allowed s es t ∧ p t = true := by
  induction es generalizing s with
  | nil => exact ⟨s, .nil, h⟩
  | cons e es ih =>
    unfold after at h
    split at h
    · next hallowed =>
      cases hstep : f s e with
      | none =>
        rw [hstep] at h
        cases h
      | some u =>
        rw [hstep] at h
        obtain ⟨t, hrun, ht⟩ := ih u h
        exact ⟨t, .cons hallowed hstep hrun, ht⟩
    · cases h

/-- A system with partial steps takes a step for every event, and `P` holds at the start and
after each of them. -/
def Stays (f : σ → ε → Option σ) (P : σ → Prop) : σ → List ε → Prop
  | s, [] => P s
  | s, e :: es => P s ∧ ∃ t, f s e = some t ∧ Stays f P t es

/-- Each event of the list is allowed where a system with partial steps meets it. -/
def Along (f : σ → ε → Option σ) (allowed : σ → ε → Prop) : σ → List ε → Prop
  | _, [] => True
  | s, e :: es => allowed s e ∧ ∀ t, f s e = some t → Along f allowed t es

/-- If `P` survives exactly the allowed events, then it holds all along exactly when every
event is allowed. -/
theorem stays_iff_along {f : σ → ε → Option σ} {P : σ → Prop} {allowed : σ → ε → Prop}
    (hstep : ∀ s e, P s → ((∃ t, f s e = some t ∧ P t) ↔ allowed s e)) (hinit : P s) :
    Stays f P s es ↔ Along f allowed s es := by
  induction es generalizing s with
  | nil => exact ⟨fun _ => trivial, fun _ => hinit⟩
  | cons e es ih =>
    constructor
    · rintro ⟨-, t, ht, hstays⟩
      have hP : P t := by
        cases es with
        | nil => exact hstays
        | cons => exact hstays.1
      refine ⟨(hstep s e hinit).mp ⟨t, ht, hP⟩, fun u hu => ?_⟩
      obtain rfl : t = u := Option.some.inj (ht.symm.trans hu)
      exact (ih hP).mp hstays
    · rintro ⟨hallowed, halong⟩
      obtain ⟨t, ht, hP⟩ := (hstep s e hinit).mpr hallowed
      exact ⟨hinit, t, ht, (ih hP).mpr (halong t ht)⟩

end transition
