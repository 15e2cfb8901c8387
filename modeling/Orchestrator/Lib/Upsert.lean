import Mathlib.Data.List.Basic

/-!
# Insert or replace

An element takes the place of the first one that passes a test, or goes to the end when
none does. Duplicates may be there: only the first of them is replaced.
-/

namespace Orchestrator.Lib

variable {α : Type*} {p q : α → Bool} {a b : α} {l : List α}

/-- The list with `a` in the place of the first element that satisfies `p`, or at its end. -/
def upsert (p : α → Bool) (a : α) (l : List α) : List α :=
  match l.findIdx? p with
  | none => l ++ [a]
  | some i => l.set i a

@[simp] theorem upsert_nil : upsert p a [] = [a] := rfl

theorem upsert_cons_of_pos (h : p b = true) : upsert p a (b :: l) = a :: l := by
  rw [upsert, List.findIdx?_cons, if_pos h]
  rfl

theorem upsert_cons_of_neg (h : p b = false) :
    upsert p a (b :: l) = b :: upsert p a l := by
  rw [upsert, List.findIdx?_cons, h, upsert]
  cases l.findIdx? p with
  | none => rfl
  | some i => rfl

theorem upsert_of_some {i : Nat} (h : l.findIdx? p = some i) : upsert p a l = l.set i a := by
  rw [upsert, h]

theorem upsert_of_none (h : l.findIdx? p = none) : upsert p a l = l ++ [a] := by
  rw [upsert, h]

theorem exists_findIdx? (h : l.find? p = some b) : ∃ i, l.findIdx? p = some i ∧ i < l.length := by
  cases hfind : l.findIdx? p with
  | some i => exact ⟨i, rfl, (List.findIdx?_eq_some_iff_getElem.mp hfind).1⟩
  | none =>
      have hnot := List.findIdx?_eq_none_iff.mp hfind b (List.mem_of_find?_eq_some h)
      rw [List.find?_some h] at hnot
      cases hnot

theorem mem_of_mem_upsert (h : b ∈ upsert p a l) : b = a ∨ b ∈ l := by
  cases hfind : l.findIdx? p with
  | some i =>
      rw [upsert_of_some hfind] at h
      exact (List.mem_or_eq_of_mem_set h).symm
  | none =>
      rw [upsert_of_none hfind, List.mem_append, List.mem_singleton] at h
      exact h.symm

theorem mem_upsert_self : a ∈ upsert p a l := by
  cases hfind : l.findIdx? p with
  | some i =>
      have hlt := (List.findIdx?_eq_some_iff_getElem.mp hfind).1
      rw [upsert_of_some hfind]
      exact List.mem_set hlt a
  | none =>
      rw [upsert_of_none hfind]
      exact List.mem_append_right l List.mem_cons_self

/-- The test finds the new element. -/
theorem find?_upsert (h : p a = true) : (upsert p a l).find? p = some a := by
  induction l with
  | nil => simp [h]
  | cons b l ih =>
      cases hb : p b with
      | true => rw [upsert_cons_of_pos hb, List.find?_cons_of_pos h]
      | false => rw [upsert_cons_of_neg hb, List.find?_cons_of_neg (by simp [hb]), ih]

/-- The elements that the test does not find stay as they are. -/
theorem filter_upsert (ha : q a = false) (hpq : ∀ b, p b = true → q b = false) :
    (upsert p a l).filter q = l.filter q := by
  induction l with
  | nil => simp [ha]
  | cons b l ih =>
      cases hb : p b with
      | true =>
          rw [upsert_cons_of_pos hb, List.filter_cons_of_neg (by simp [ha]),
            List.filter_cons_of_neg (by simp [hpq b hb])]
      | false => rw [upsert_cons_of_neg hb, List.filter_cons, List.filter_cons, ih]

theorem upsert_congr (h : ∀ b ∈ l, p b = q b) : upsert p a l = upsert q a l := by
  induction l with
  | nil => rfl
  | cons b l ih =>
      have hrest := ih fun c hc => h c (List.mem_cons_of_mem b hc)
      have hb := h b List.mem_cons_self
      cases hpb : p b with
      | true => rw [upsert_cons_of_pos hpb, upsert_cons_of_pos (hb.symm.trans hpb)]
      | false =>
          rw [upsert_cons_of_neg hpb, upsert_cons_of_neg (hb.symm.trans hpb), hrest]

/-- An element that the test does not find stays where it is. -/
theorem getElem?_upsert {i : Nat} (hi : l[i]? = some b) (hb : p b = false) :
    (upsert p a l)[i]? = some b := by
  have hlt : i < l.length := (List.getElem?_eq_some_iff.mp hi).1
  cases hfind : l.findIdx? p with
  | some j =>
      have hne : j ≠ i := by
        rintro rfl
        obtain ⟨hj, hpos, -⟩ := List.findIdx?_eq_some_iff_getElem.mp hfind
        rw [List.getElem?_eq_getElem hj] at hi
        rw [Option.some.inj hi, hb] at hpos
        cases hpos
      rw [upsert_of_some hfind, List.getElem?_set_ne hne, hi]
  | none => rw [upsert_of_none hfind, List.getElem?_append_left hlt, hi]

theorem map_upsert {β : Type*} {p : β → Bool} (f : α → β) :
    (upsert (fun b => p (f b)) a l).map f = upsert p (f a) (l.map f) := by
  induction l with
  | nil => rfl
  | cons b l ih =>
      rw [List.map_cons]
      cases hb : p (f b) with
      | true =>
          rw [upsert_cons_of_pos hb, upsert_cons_of_pos (p := fun b => p (f b)) hb, List.map_cons]
      | false =>
          rw [upsert_cons_of_neg hb, upsert_cons_of_neg (p := fun b => p (f b)) hb, List.map_cons,
            ih]

/-- Keys stay distinct when the test looks for the key of the new element. -/
theorem nodup_map_upsert {β : Type*} {f : α → β} (h : (l.map f).Nodup)
    (hp : ∀ b ∈ l, p b = true ↔ f b = f a) : ((upsert p a l).map f).Nodup := by
  induction l with
  | nil => simp
  | cons b l ih =>
      obtain ⟨hnew, hrest⟩ := List.nodup_cons.mp h
      have hkey := hp b List.mem_cons_self
      cases hb : p b with
      | true =>
          rw [upsert_cons_of_pos hb, List.map_cons, ← hkey.mp hb]
          exact h
      | false =>
          rw [upsert_cons_of_neg hb, List.map_cons]
          refine List.nodup_cons.mpr ⟨?_, ih hrest fun c hc => hp c (List.mem_cons_of_mem b hc)⟩
          intro hmem
          obtain ⟨c, hc, heq⟩ := List.mem_map.mp hmem
          rcases mem_of_mem_upsert hc with rfl | hc
          · rw [hkey.mpr heq.symm] at hb
            cases hb
          · exact hnew (heq ▸ List.mem_map_of_mem hc)

theorem length_upsert : (upsert p a l).length = if l.any p then l.length else l.length + 1 := by
  induction l with
  | nil => simp
  | cons b l ih =>
      cases hb : p b with
      | true => simp [upsert_cons_of_pos hb, hb]
      | false =>
          rw [upsert_cons_of_neg hb, List.length_cons, ih, List.any_cons, hb, Bool.false_or]
          split
          · rfl
          · rfl

/-- Where at most one element passes the wider of two tests, they come to the same exactly when
that element passes the other one too. -/
theorem map_upsert_eq_iff {β : Type*} (f : α → β) (hqp : ∀ b ∈ l, q b = true → p b = true)
    (hunique : ∀ b ∈ l, ∀ c ∈ l, p b = true → p c = true → b = c) :
    (upsert p a l).map f = (upsert q a l).map f ↔ ∀ b ∈ l, p b = true → q b = true := by
  constructor
  · intro h b hb hpb
    by_contra hqb
    have hany : l.any p = true := List.any_eq_true.mpr ⟨b, hb, hpb⟩
    have hnone : l.any q = false := by
      rw [List.any_eq_false]
      intro c hc hqc
      exact hqb (hunique b hb c hc hpb (hqp c hc hqc) ▸ hqc)
    have hlength := congrArg List.length h
    rw [List.length_map, List.length_map, length_upsert, length_upsert, hany, hnone] at hlength
    exact absurd hlength (Nat.ne_of_lt (Nat.lt_succ_self _))
  · intro h
    rw [upsert_congr fun b hb => Bool.eq_iff_iff.mpr ⟨h b hb, hqp b hb⟩]

end Orchestrator.Lib
