import Orchestrator.Lib.Triple

/-!
# Computations that do not look at a part of the state

`set` replaces the part. A computation is oblivious when it neither looks at the
part nor changes it. It is unaffected when its result does not depend on the
part, and one value of the part is never replaced by another one.
-/

namespace Orchestrator.Lib

variable {σ κ α β : Type} {set : κ → σ → σ} {k₀ : κ}

def Oblivious (set : κ → σ → σ) (m : StateM σ α) : Prop :=
  ∀ k s, m (set k s) = ((m s).1, set k (m s).2)

structure Unaffected (set : κ → σ → σ) (k₀ : κ) (m : StateM σ α) : Prop where
  result : ∀ k s, (m (set k s)).1 = (m s).1
  keeps : ∀ s, set k₀ s = s → set k₀ (m s).2 = (m s).2

namespace Oblivious

theorem pure (a : α) : Oblivious set (pure a : StateM σ α) := fun _ _ => rfl

theorem bind {m : StateM σ α} {f : α → StateM σ β} (hm : Oblivious set m)
    (hf : ∀ a, Oblivious set (f a)) : Oblivious set (m >>= f) := by
  intro k s
  show f (m (set k s)).1 (m (set k s)).2 = ((f (m s).1 (m s).2).1, set k (f (m s).1 (m s).2).2)
  rw [hm k s, hf]

theorem map {m : StateM σ α} (f : α → β) (hm : Oblivious set m) : Oblivious set (f <$> m) := by
  intro k s
  show (f (m (set k s)).1, (m (set k s)).2) = _
  rw [hm k s]
  rfl

theorem unaffected {m : StateM σ α} (h : Oblivious set m) : Unaffected set k₀ m where
  result k s := by rw [h k s]
  keeps s hs := by
    have hstep := h k₀ s
    rw [hs] at hstep
    exact (congrArg Prod.snd hstep).symm

end Oblivious

namespace Unaffected

theorem pure (a : α) : Unaffected set k₀ (pure a : StateM σ α) := (Oblivious.pure a).unaffected

theorem bind {m : StateM σ α} {f : α → StateM σ β} (hm : Oblivious set m)
    (hf : ∀ a, Unaffected set k₀ (f a)) : Unaffected set k₀ (m >>= f) where
  result k s := by
    show (f (m (set k s)).1 (m (set k s)).2).1 = _
    rw [hm k s]
    exact (hf _).result k _
  keeps s hs := (hf _).keeps _ (hm.unaffected.keeps s hs)

theorem map {m : StateM σ α} (f : α → β) (hm : Unaffected set k₀ m) :
    Unaffected set k₀ (f <$> m) where
  result k s := congrArg f (hm.result k s)
  keeps := hm.keeps

/-- The result is the same from every state. -/
theorem of_const {m : StateM σ α} {a : α} (h : ∀ s, (m s).1 = a)
    (hkeeps : ∀ s, set k₀ s = s → set k₀ (m s).2 = (m s).2) : Unaffected set k₀ m where
  result k s := (h (set k s)).trans (h s).symm
  keeps := hkeeps

end Unaffected

end Orchestrator.Lib
