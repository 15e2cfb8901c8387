import Mathlib.Data.List.Basic

/-!
# Arrays of which the first cells are in use

A C array with a separate count, and the three loops that search it, overwrite
a cell and close the gap a removed cell leaves. The list of the cells in use is
what the loops are about.
-/

namespace Orchestrator.Lib.CountedArray

variable {α : Type*} {cap : Nat}

/-- The cells in use. -/
def view (cells : Vector α cap) (count : Nat) : List α := cells.toList.take count

/-- `for (i = 0; i < count; ++i) if (p(cells[i])) return i;` -/
def findIndex (p : α → Bool) (cells : Vector α cap) (count : Nat) : Option Nat :=
  (List.range count).find? fun i => cells[i]?.any p

/-- `cells[j - 1] = cells[j]` -/
def moveDown (cells : Vector α cap) (j : Nat) : Vector α cap :=
  match cells[j]? with
  | some a => cells.setIfInBounds (j - 1) a
  | none => cells

/-- `for (j = i + 1; j < count; ++j) cells[j - 1] = cells[j];` -/
def shiftDown (cells : Vector α cap) (i count : Nat) : Vector α cap :=
  (List.range' (i + 1) (count - (i + 1))).foldl moveDown cells

theorem getElem?_view (cells : Vector α cap) {count i : Nat} (h : i < count) :
    (view cells count)[i]? = cells[i]? := by
  rw [view, List.getElem?_take_of_lt h, Vector.getElem?_toList]

theorem length_view {cells : Vector α cap} {count : Nat} (h : count ≤ cap) :
    (view cells count).length = count := by
  rw [view, List.length_take, Vector.length_toList, Nat.min_eq_left h]

theorem view_succ {cells : Vector α cap} {count : Nat} (h : count < cap) :
    view cells (count + 1) = view cells count ++ [cells[count]] := by
  have hlen : count < cells.toList.length := by rwa [Vector.length_toList]
  rw [view, view, List.take_succ_eq_append_getElem hlen, Vector.getElem_toList]

/-- The search loop finds the first cell in use that satisfies the predicate. -/
theorem findIndex_eq (p : α → Bool) (cells : Vector α cap) {count : Nat} (h : count ≤ cap) :
    findIndex p cells count = (view cells count).findIdx? p := by
  induction count with
  | zero => rfl
  | succ count ih =>
      have hlt : count < cap := h
      have hlast : [count].find? (fun i => cells[i]?.any p) =
          ([cells[count]].findIdx? p).map fun i => i + count := by
        by_cases hp : p cells[count] = true <;> simp [hlt, hp]
      calc findIndex p cells (count + 1)
        _ = (findIndex p cells count).or ([count].find? fun i => cells[i]?.any p) := by
            rw [findIndex, List.range_succ, List.find?_append, findIndex]
        _ = ((view cells count).findIdx? p).or
              (([cells[count]].findIdx? p).map fun i => i + (view cells count).length) := by
            rw [ih (Nat.le_of_lt hlt), hlast, length_view (Nat.le_of_lt hlt)]
        _ = (view cells (count + 1)).findIdx? p := by
            rw [view_succ hlt, List.findIdx?_append]

/-- The cell at which the search loop stops. -/
theorem findIndex_eq_some {p : α → Bool} {cells : Vector α cap} {count i : Nat}
    (hfind : findIndex p cells count = some i) {a : α}
    (ha : (view cells count)[i]? = some a) : p a = true := by
  have hi : i < count := List.mem_range.mp (List.mem_of_find?_eq_some hfind)
  have hany : cells[i]?.any p = true := by simpa using List.find?_some hfind
  rw [getElem?_view _ hi] at ha
  rw [ha] at hany
  exact hany

/-- A search loop that runs to the end has seen every cell in use. -/
theorem findIndex_eq_none {p : α → Bool} {cells : Vector α cap} {count : Nat}
    (h : count ≤ cap) (hfind : findIndex p cells count = none) {a : α}
    (ha : a ∈ view cells count) : p a = false := by
  rw [findIndex_eq p cells h] at hfind
  exact List.findIdx?_eq_none_iff.mp hfind a ha

theorem findIdx?_congr {p q : α → Bool} {l : List α} (h : ∀ a ∈ l, p a = q a) :
    l.findIdx? p = l.findIdx? q := by
  induction l with
  | nil => rfl
  | cons a l ih =>
      rw [List.findIdx?_cons, List.findIdx?_cons, h a List.mem_cons_self,
        ih fun b hb => h b (List.mem_cons_of_mem a hb)]

theorem view_set (cells : Vector α cap) (count i : Nat) (a : α) :
    view (cells.setIfInBounds i a) count = (view cells count).set i a := by
  rw [view, view, Vector.toList_setIfInBounds, List.take_set]

theorem view_append (cells : Vector α cap) {count : Nat} (h : count < cap) (a : α) :
    view (cells.setIfInBounds count a) (count + 1) = view cells count ++ [a] := by
  have hlen : (view cells count).length = count := length_view (Nat.le_of_lt h)
  calc view (cells.setIfInBounds count a) (count + 1)
    _ = (view cells (count + 1)).set count a := view_set cells (count + 1) count a
    _ = (view cells count ++ [cells[count]]).set count a := by rw [view_succ h]
    _ = view cells count ++ [a] := by
        rw [List.set_append_right _ _ (Nat.le_of_eq hlen), hlen, Nat.sub_self, List.set_cons_zero]

/-- After `k` moves the cells from `i` on, up to `i + k`, hold their successors. -/
theorem getElem?_moveDowns (cells : Vector α cap) {i k : Nat} (h : i + k < cap) (m : Nat) :
    ((List.range' (i + 1) k).foldl moveDown cells)[m]? =
      if i ≤ m ∧ m < i + k then cells[m + 1]? else cells[m]? := by
  induction k generalizing m with
  | zero =>
      have hnone : ¬(i ≤ m ∧ m < i + 0) := by omega
      rw [if_neg hnone]
      rfl
  | succ k ih =>
      have hlast : ((List.range' (i + 1) k).foldl moveDown cells)[i + 1 + k]? =
          some cells[i + k + 1] := by
        have hnone : ¬(i ≤ i + 1 + k ∧ i + 1 + k < i + k) := by omega
        rw [ih (by omega), if_neg hnone, Nat.add_right_comm i 1 k, Vector.getElem?_eq_getElem]
      rw [List.range'_1_concat, List.foldl_append, List.foldl_cons, List.foldl_nil, moveDown,
        hlast]
      dsimp only
      rw [Vector.getElem?_setIfInBounds, ih (by omega), Nat.add_right_comm i 1 k,
        Nat.add_sub_cancel]
      by_cases hm : i + k = m
      · subst hm
        have hin : i ≤ i + k ∧ i + k < i + (k + 1) := by omega
        rw [if_pos rfl, if_pos (by omega), if_pos hin, Vector.getElem?_eq_getElem]
      · have hiff : (i ≤ m ∧ m < i + k) ↔ (i ≤ m ∧ m < i + (k + 1)) := by omega
        rw [if_neg hm, if_congr hiff rfl rfl]

/-- Closing the gap removes one cell and keeps the order of the others. -/
theorem view_shiftDown (cells : Vector α cap) {i count : Nat} (hi : i < count)
    (h : count ≤ cap) :
    view (shiftDown cells i count) (count - 1) = (view cells count).eraseIdx i := by
  apply List.ext_getElem?
  intro m
  rw [List.getElem?_eraseIdx]
  rcases Nat.lt_or_ge m (count - 1) with hm | hm
  · have hshift := getElem?_moveDowns cells (i := i) (k := count - (i + 1)) (by omega) m
    rw [getElem?_view _ hm, shiftDown, hshift, getElem?_view _ (by omega),
      getElem?_view _ (by omega)]
    by_cases hmi : m < i
    · rw [if_neg (by omega), if_pos hmi]
    · rw [if_pos (by omega), if_neg hmi]
  · rw [List.getElem?_eq_none (by rw [length_view (by omega)]; exact hm), if_neg (by omega),
      List.getElem?_eq_none (by rw [length_view h]; omega)]

end Orchestrator.Lib.CountedArray
