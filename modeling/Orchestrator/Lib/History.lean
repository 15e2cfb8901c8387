import Mathlib.Data.List.Induction

/-!
# The last entry of a history that says something

A history lists what happened, oldest first. Of every entry one may read a value, or
nothing; the last value read is what the history says now.
-/

namespace Orchestrator.Lib

variable {α β : Type*} {read : α → Option β}

/-- The value of the last entry that has one. -/
def lastOf (read : α → Option β) (history : List α) : Option β :=
  history.reverse.findSome? read

@[simp] theorem lastOf_nil : lastOf read [] = none := rfl

theorem lastOf_append (front back : List α) :
    lastOf read (front ++ back) = (lastOf read back).or (lastOf read front) := by
  simp [lastOf, List.findSome?_append]

@[simp] theorem lastOf_concat (history : List α) (a : α) :
    lastOf read (history ++ [a]) = (read a).or (lastOf read history) := by
  rw [lastOf_append]
  simp [lastOf]

/-- No entry has a value. -/
theorem lastOf_eq_none_iff {history : List α} :
    lastOf read history = none ↔ ∀ a ∈ history, read a = none := by
  simp [lastOf, List.findSome?_eq_none_iff]

/-- The entry that has the value, and those behind it that have none. -/
theorem lastOf_eq_some_iff {history : List α} {b : β} :
    lastOf read history = some b ↔ ∃ before a after, history = before ++ a :: after ∧
      read a = some b ∧ ∀ x ∈ after, read x = none := by
  constructor
  · intro h
    obtain ⟨after, a, before, hsplit, ha, hafter⟩ := List.findSome?_eq_some_iff.mp h
    refine ⟨before.reverse, a, after.reverse, ?_, ha, fun x hx => ?_⟩
    · rw [← List.reverse_reverse history, hsplit]
      simp
    · exact hafter x (List.mem_reverse.mp hx)
  · rintro ⟨before, a, after, rfl, ha, hafter⟩
    refine List.findSome?_eq_some_iff.mpr ⟨after.reverse, a, before.reverse, ?_, ha, ?_⟩
    · simp
    · exact fun x hx => hafter x (List.mem_reverse.mp hx)

/-- A state that every step either sets to the value of an entry or leaves is the last value. -/
theorem foldl_eq_lastOf {σ : Type*} {step : σ → α → σ} {view : σ → β} {start : σ}
    (h : ∀ s a, view (step s a) = (read a).getD (view s)) (history : List α) :
    view (history.foldl step start) = (lastOf read history).getD (view start) := by
  induction history using List.reverseRecOn with
  | nil => rfl
  | append_singleton history a ih =>
      rw [List.foldl_append, List.foldl_cons, List.foldl_nil, h, ih, lastOf_concat]
      cases read a with
      | none => rfl
      | some b => rfl

end Orchestrator.Lib
