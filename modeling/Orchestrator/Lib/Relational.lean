import Mathlib.Data.List.Forall2

/-!
# Two runs side by side

Two state-passing programs are related when they lead from related states to related
states, with related results. That a program does not depend on a part of its state is the
case of one program and two states that differ in that part.
-/

namespace Orchestrator.Lib

universe u

variable {σ τ α β γ δ : Type u}

/-- From related states the programs get to related states, and their results are related. -/
def Related (R : σ → τ → Prop) (m : StateM σ α) (n : StateM τ β) (S : α → β → Prop) : Prop :=
  ∀ s t, R s t → S (m s).1 (n t).1 ∧ R (m s).2 (n t).2

namespace Related

variable {R : σ → τ → Prop} {S S' : α → β → Prop} {T : γ → δ → Prop}

theorem pure {a : α} {b : β} (h : S a b) :
    Related R (pure a : StateM σ α) (pure b : StateM τ β) S :=
  fun _ _ hst => ⟨h, hst⟩

theorem bind {m : StateM σ α} {n : StateM τ β} {f : α → StateM σ γ} {g : β → StateM τ δ}
    (hm : Related R m n S) (hf : ∀ a b, S a b → Related R (f a) (g b) T) :
    Related R (m >>= f) (n >>= g) T := by
  intro s t hst
  obtain ⟨hresult, hstate⟩ := hm s t hst
  exact hf _ _ hresult _ _ hstate

theorem weaken {m : StateM σ α} {n : StateM τ β} (hm : Related R m n S)
    (h : ∀ a b, S a b → S' a b) : Related R m n S' :=
  fun s t hst => ⟨h _ _ (hm s t hst).1, (hm s t hst).2⟩

theorem map {m : StateM σ α} {n : StateM τ β} {f : α → γ} {g : β → δ} (hm : Related R m n S)
    (h : ∀ a b, S a b → T (f a) (g b)) : Related R (f <$> m) (g <$> n) T :=
  fun s t hst => ⟨h _ _ (hm s t hst).1, (hm s t hst).2⟩

theorem modifyGet {f : σ → α × σ} {g : τ → β × τ}
    (h : ∀ s t, R s t → S (f s).1 (g t).1 ∧ R (f s).2 (g t).2) :
    Related R (modifyGet f : StateM σ α) (modifyGet g : StateM τ β) S := h

/-- The states after a list of programs, taken one after the other. -/
theorem foldl {ι κ : Type*} {f : ι → StateM σ α} {g : κ → StateM τ β} {A : ι → κ → Prop}
    (h : ∀ i k, A i k → Related R (f i) (g k) S) {is : List ι} {ks : List κ}
    (hinputs : List.Forall₂ A is ks) {s : σ} {t : τ} (hst : R s t) :
    R (is.foldl (fun s i => (f i s).2) s) (ks.foldl (fun t k => (g k t).2) t) := by
  induction hinputs generalizing s t with
  | nil => exact hst
  | cons hhead _ ih => exact ih (h _ _ hhead s t hst).2

end Related

end Orchestrator.Lib
