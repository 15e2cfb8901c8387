import Mathlib.Logic.Basic

/-!
# Pre- and postconditions of state-passing programs

A triple says what holds of the result and of the final state of a program
started in a state that satisfies the precondition. Programs are total, so it
always ends. The rules follow the constructors of a `do` block.
-/

namespace Orchestrator.Lib

universe u

variable {σ α β : Type u}

/-- Started where `P` holds, the program ends where `Q` holds of its result. -/
def Triple (P : σ → Prop) (m : StateM σ α) (Q : α → σ → Prop) : Prop :=
  ∀ s, P s → Q (m s).1 (m s).2

/-- The program keeps `I` and its result satisfies `Q`. -/
def Keeps (I : σ → Prop) (m : StateM σ α) (Q : α → Prop) : Prop :=
  Triple I m fun a s => I s ∧ Q a

namespace Triple

variable {P P' : σ → Prop} {Q Q' : α → σ → Prop} {R : β → σ → Prop}

theorem pure {a : α} (h : ∀ s, P s → Q a s) : Triple P (pure a : StateM σ α) Q := h

theorem bind {m : StateM σ α} {f : α → StateM σ β} (hm : Triple P m Q)
    (hf : ∀ a, Triple (Q a) (f a) R) : Triple P (m >>= f) R :=
  fun s hs => hf _ _ (hm s hs)

theorem weaken {m : StateM σ α} (hm : Triple P m Q) (hpre : ∀ s, P' s → P s)
    (hpost : ∀ a s, Q a s → Q' a s) : Triple P' m Q' :=
  fun s hs => hpost _ _ (hm s (hpre s hs))

theorem get : Triple P (get : StateM σ σ) fun a s => a = s ∧ P s :=
  fun _ hs => ⟨rfl, hs⟩

theorem modify {f : σ → σ} {T : PUnit → σ → Prop} (h : ∀ s, P s → T ⟨⟩ (f s)) :
    Triple P (modify f : StateM σ PUnit) T := h

theorem modifyGet {f : σ → α × σ} (h : ∀ s, P s → Q (f s).1 (f s).2) :
    Triple P (modifyGet f : StateM σ α) Q := h

end Triple

namespace Keeps

variable {I : σ → Prop} {Q : α → Prop} {R : β → Prop}

theorem pure {a : α} (h : Q a) : Keeps I (pure a : StateM σ α) Q := fun _ hs => ⟨hs, h⟩

theorem bind {m : StateM σ α} {f : α → StateM σ β} (hm : Keeps I m Q)
    (hf : ∀ a, Q a → Keeps I (f a) R) : Keeps I (m >>= f) R :=
  Triple.bind hm fun a s hs => hf a hs.2 s hs.1

/-- What is kept is the precondition of the rest. -/
theorem bindTriple {m : StateM σ α} {f : α → StateM σ β} {T : β → σ → Prop} (hm : Keeps I m Q)
    (hf : ∀ a, Q a → Triple I (f a) T) : Triple I (m >>= f) T :=
  Triple.bind hm fun a s hs => hf a hs.2 s hs.1

theorem weaken {Q' : α → Prop} {m : StateM σ α} (hm : Keeps I m Q) (h : ∀ a, Q a → Q' a) :
    Keeps I m Q' :=
  Triple.weaken hm (fun _ hs => hs) fun a _ hs => ⟨hs.1, h a hs.2⟩

theorem triple {m : StateM σ α} (hm : Keeps I m Q) : Triple I m fun _ => I :=
  fun s hs => (hm s hs).1

theorem map {m : StateM σ α} {f : α → β} (hm : Keeps I m Q) (h : ∀ a, Q a → R (f a)) :
    Keeps I (f <$> m) R :=
  fun s hs => ⟨(hm s hs).1, h _ (hm s hs).2⟩

end Keeps

end Orchestrator.Lib
