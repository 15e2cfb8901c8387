import Mathlib.Data.List.Basic

/-!
# Runs of partial step functions

A step function maps a state and a label to the next state, or to `none` when
the label is not enabled. A run records the labels it took, oldest first. The
side condition of a run is a predicate on each label and the state before it.
-/

namespace Orchestrator.Lib

variable {σ ℓ : Type*}

/-- A run from a state, every step of which meets the side condition `good`. -/
inductive Run (step : σ → ℓ → Option σ) (good : σ → ℓ → Prop) (s : σ) :
    List ℓ → σ → Prop
  | nil : Run step good s [] s
  | snoc {labels t l u} (run : Run step good s labels t) (hgood : good t l)
      (hstep : step t l = some u) : Run step good s (labels ++ [l]) u

/-- The side condition met by every step. -/
def unrestricted : σ → ℓ → Prop := fun _ _ => True

instance (s : σ) (l : ℓ) : Decidable (unrestricted s l) := isTrue trivial

namespace Run

variable {step : σ → ℓ → Option σ} {good : σ → ℓ → Prop} {s t : σ} {labels : List ℓ}

/-- A weaker side condition admits every run of a stronger one. -/
theorem mono {weak : σ → ℓ → Prop} (hw : ∀ s l, good s l → weak s l)
    (run : Run step good s labels t) : Run step weak s labels t := by
  induction run with
  | nil => exact nil
  | snoc _ hgood hstep ih => exact ih.snoc (hw _ _ hgood) hstep

/-- A run goes on where another one ended. -/
theorem append {u : σ} {more : List ℓ} (run : Run step good s labels t)
    (rest : Run step good t more u) : Run step good s (labels ++ more) u := by
  induction rest with
  | nil => simpa using run
  | snoc _ hgood hstep ih => simpa using ih.snoc hgood hstep

/-- A property of the labels taken and the state reached that holds at the
start and is preserved by each good step holds after every good run. -/
theorem history_invariant {P : List ℓ → σ → Prop} (hinit : P [] s)
    (hstep : ∀ labels t l u, P labels t → good t l → step t l = some u →
      P (labels ++ [l]) u)
    (run : Run step good s labels t) : P labels t := by
  induction run with
  | nil => exact hinit
  | snoc _ hgood hs ih => exact hstep _ _ _ _ ih hgood hs

/-- The same rule for a property of the state alone. -/
theorem invariant {P : σ → Prop} (hinit : P s)
    (hstep : ∀ t l u, P t → good t l → step t l = some u → P u)
    (run : Run step good s labels t) : P t :=
  history_invariant (P := fun _ t => P t) hinit
    (fun _ t l u => hstep t l u) run

end Run

/-- Execute a list of labels, giving up at the first one that is not enabled or
misses the side condition. -/
def execGood (step : σ → ℓ → Option σ) (good : σ → ℓ → Prop)
    [∀ s l, Decidable (good s l)] : σ → List ℓ → Option σ
  | s, [] => some s
  | s, l :: rest =>
      if good s l then (step s l).bind fun t => execGood step good t rest else none

theorem Run.of_execGood_from (step : σ → ℓ → Option σ) (good : σ → ℓ → Prop)
    [∀ s l, Decidable (good s l)] {s t u : σ} {done : List ℓ} (rest : List ℓ)
    (run : Run step good s done t) (h : execGood step good t rest = some u) :
    Run step good s (done ++ rest) u := by
  induction rest generalizing done t with
  | nil =>
      obtain rfl := Option.some.inj h
      simpa using run
  | cons l rest ih =>
      simp only [execGood] at h
      split at h
      · next hg =>
        obtain ⟨v, hv, hrest⟩ := Option.bind_eq_some_iff.mp h
        simpa using ih (run.snoc hg hv) hrest
      · cases h

/-- An execution that never misses the side condition is a run. -/
theorem Run.of_execGood (step : σ → ℓ → Option σ) (good : σ → ℓ → Prop)
    [∀ s l, Decidable (good s l)] {s u : σ} {labels : List ℓ}
    (h : execGood step good s labels = some u) : Run step good s labels u := by
  simpa using of_execGood_from step good labels nil h

end Orchestrator.Lib
