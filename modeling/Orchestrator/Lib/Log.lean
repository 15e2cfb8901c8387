import Mathlib.Data.List.Infix
import Orchestrator.Lib.Triple

/-!
# Programs that append to a log

The state has a log. What a program appends is related to its result, whatever was in the log
before. A program that may fail follows a script when it appends a prefix of the script, and
the whole of it when it does not fail.
-/

namespace Orchestrator.Lib

variable {σ ρ ε α β : Type} {I : σ → Prop} {log : σ → List ρ}

/-- The program keeps `I`, and appends to the log what `T` relates to its result. -/
def Logs (I : σ → Prop) (log : σ → List ρ) (m : StateM σ α) (T : α → List ρ → Prop) : Prop :=
  ∀ done, Triple (fun s => log s = done ∧ I s) m fun a s =>
    I s ∧ ∃ made, log s = done ++ made ∧ T a made

namespace Logs

variable {T T' : α → List ρ → Prop} {U : β → List ρ → Prop} {m : StateM σ α}
  {f : α → StateM σ β}

theorem pure {a : α} (h : T a []) : Logs I log (pure a : StateM σ α) T :=
  fun _ => Triple.pure fun _ hs => ⟨hs.2, [], by simpa using hs.1, h⟩

theorem bind (hm : Logs I log m T)
    (hf : ∀ a made, T a made → Logs I log (f a) fun b more => U b (made ++ more)) :
    Logs I log (m >>= f) U := by
  intro done s hs
  obtain ⟨hI, made, hlog, hT⟩ := hm done s hs
  obtain ⟨hI, more, hlog, hU⟩ := hf _ made hT _ _ ⟨hlog, hI⟩
  exact ⟨hI, made ++ more, hlog.trans (List.append_assoc done made more), hU⟩

theorem weaken (hm : Logs I log m T) (h : ∀ a made, T a made → T' a made) : Logs I log m T' := by
  intro done s hs
  obtain ⟨hI, made, hlog, hT⟩ := hm done s hs
  exact ⟨hI, made, hlog, h _ _ hT⟩

/-- A program that keeps any log appends nothing. -/
theorem of_keeps {Q : α → Prop} (h : ∀ done, Keeps (fun s => log s = done ∧ I s) m Q) :
    Logs I log m fun a made => made = [] ∧ Q a := by
  intro done s hs
  obtain ⟨⟨hlog, hI⟩, hQ⟩ := h done s hs
  exact ⟨hI, [], by simpa using hlog, rfl, hQ⟩

theorem modify {g : σ → σ} (entry : ρ) (hI : ∀ s, I s → I (g s))
    (hlog : ∀ s, log (g s) = log s ++ [entry]) :
    Logs I log (modify g) fun _ made => made = [entry] :=
  fun _ => Triple.modify fun s hs => ⟨hI s hs.2, [entry], by rw [hlog, hs.1], rfl⟩

end Logs

/-- The program appends a prefix of the script; when it returns, the whole script. -/
def Follows (I : σ → Prop) (log : σ → List ρ) (script : List ρ) (m : ExceptT ε (StateM σ) α)
    (Q : α → Prop) : Prop :=
  Logs I log (m.run : StateM σ (Except ε α)) fun r made =>
    made <+: script ∧ ∀ a, r = .ok a → made = script ∧ Q a

namespace Follows

variable {script rest : List ρ} {Q Q' : α → Prop} {R : β → Prop} {m : ExceptT ε (StateM σ) α}
  {f : α → ExceptT ε (StateM σ) β}

theorem pure {a : α} (h : Q a) :
    Follows I log [] (pure a : ExceptT ε (StateM σ) α) Q := by
  apply Logs.pure
  refine ⟨List.prefix_rfl, ?_⟩
  rintro _ ⟨⟩
  exact ⟨rfl, h⟩

theorem throw {err : ε} : Follows I log script (throw err : ExceptT ε (StateM σ) α) Q := by
  apply Logs.pure
  refine ⟨List.nil_prefix, ?_⟩
  rintro _ ⟨⟩

theorem bind (hm : Follows I log script m Q) (hf : ∀ a, Q a → Follows I log rest (f a) R) :
    Follows I log (script ++ rest) (m >>= f) R := by
  unfold Follows
  rw [ExceptT.run_bind]
  apply Logs.bind hm
  rintro (err | a) made ⟨hbegins, hok⟩
  · apply Logs.pure
    refine ⟨?_, nofun⟩
    rw [List.append_nil]
    exact hbegins.trans (List.prefix_append script rest)
  · obtain ⟨rfl, ha⟩ := hok a rfl
    refine (hf a ha).weaken fun r more h => ⟨?_, fun b hb => ?_⟩
    · exact (List.prefix_append_right_inj made).mpr h.1
    · obtain ⟨rfl, hR⟩ := h.2 b hb
      exact ⟨rfl, hR⟩

theorem weaken (hm : Follows I log script m Q) (h : ∀ a, Q a → Q' a) :
    Follows I log script m Q' :=
  Logs.weaken hm fun _ _ hmade => ⟨hmade.1, fun a ha => (hmade.2 a ha).imp_right (h a)⟩

/-- A program that keeps any log follows the empty script. -/
theorem of_keeps
    (h : ∀ done, Keeps (fun s => log s = done ∧ I s) (m.run : StateM σ (Except ε α))
      fun r => ∀ a, r = .ok a → Q a) : Follows I log [] m Q := by
  refine (Logs.of_keeps h).weaken ?_
  rintro r _ ⟨rfl, hQ⟩
  exact ⟨List.prefix_rfl, fun a ha => ⟨rfl, hQ a ha⟩⟩

end Follows

end Orchestrator.Lib
