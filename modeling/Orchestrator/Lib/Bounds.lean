import Orchestrator.Lib.CountedArray
import Orchestrator.Lib.Triple

/-!
# Accesses to arrays that stay in bounds

A checked program is one in `OptionT m`: it stops without a result where an index leaves
an array. It stays in bounds when it computes what a program in `m`, which cannot leave
any array, computes.
-/

namespace Orchestrator.Lib

/-! ## Loops over the cells of an array -/

namespace CountedArray

variable {α β : Type} {cap : Nat}

/-- `cells[i] = a` -/
def store (cells : Vector α cap) (i : Nat) (a : α) : Option (Vector α cap) :=
  if i < cap then some (cells.setIfInBounds i a) else none

/-- `n` rounds of a loop that reads the cells from `i` on and ends at the first result. -/
def searchFrom (f : Nat → α → Option (Option β)) (cells : Vector α cap) (i : Nat) :
    Nat → Option (Option β)
  | 0 => some none
  | n + 1 => do
      let a ← cells[i]?
      match ← f i a with
      | some b => return some b
      | none => searchFrom f cells (i + 1) n

/-- `for (; n > 0; ++j, --n) cells[j - 1] = cells[j];` -/
def shiftFrom (cells : Vector α cap) (j : Nat) : Nat → Option (Vector α cap)
  | 0 => some cells
  | n + 1 => do
      let a ← cells[j]?
      let cells ← store cells (j - 1) a
      shiftFrom cells (j + 1) n

theorem store_eq (cells : Vector α cap) {i : Nat} (h : i < cap) (a : α) :
    store cells i a = some (cells.setIfInBounds i a) := if_pos h

/-- The loop that looks for an index reads only cells in use. -/
theorem searchFrom_index (p : α → Bool) (cells : Vector α cap) {i n : Nat} (h : i + n ≤ cap) :
    searchFrom (fun k a => some (if p a then some k else none)) cells i n =
      some ((List.range' i n).find? fun k => cells[k]?.any p) := by
  induction n generalizing i with
  | zero => rfl
  | succ n ih =>
      have hi : i < cap := by omega
      have hrest := ih (i := i + 1) (by omega)
      cases hp : p cells[i] with
      | true => simp [searchFrom, List.range'_succ, hi, hp]
      | false => simpa [searchFrom, List.range'_succ, hi, hp] using hrest

theorem searchFrom_findIndex (p : α → Bool) (cells : Vector α cap) {count : Nat}
    (h : count ≤ cap) :
    searchFrom (fun k a => some (if p a then some k else none)) cells 0 count =
      some (findIndex p cells count) := by
  rw [searchFrom_index p cells (by omega), findIndex, List.range_eq_range']

/-- The loop that looks for a result reads only cells in use. -/
theorem searchFrom_drop {f : α → Option (Option β)} {g : α → Option β} {cells : Vector α cap}
    {i n : Nat} (h : i + n ≤ cap)
    (hf : ∀ a ∈ (cells.toList.drop i).take n, f a = some (g a)) :
    searchFrom (fun _ => f) cells i n = some (((cells.toList.drop i).take n).findSome? g) := by
  induction n generalizing i with
  | zero => rfl
  | succ n ih =>
      have hi : i < cap := by omega
      have hdrop : cells.toList.drop i = cells[i] :: cells.toList.drop (i + 1) := by
        rw [List.drop_eq_getElem_cons (by simpa using hi), Vector.getElem_toList]
      rw [hdrop, List.take_succ_cons] at hf ⊢
      have hhead : f cells[i] = some (g cells[i]) := hf _ List.mem_cons_self
      have hrest := ih (i := i + 1) (by omega) fun a ha => hf a (List.mem_cons_of_mem _ ha)
      cases hg : g cells[i] with
      | some b => simp [searchFrom, hi, hhead, hg]
      | none => simpa [searchFrom, hi, hhead, hg] using hrest

theorem searchFrom_view {f : α → Option (Option β)} {g : α → Option β} {cells : Vector α cap}
    {count : Nat} (h : count ≤ cap) (hf : ∀ a ∈ view cells count, f a = some (g a)) :
    searchFrom (fun _ => f) cells 0 count = some ((view cells count).findSome? g) :=
  searchFrom_drop (i := 0) (by omega) hf

theorem searchFrom_find (p : α → Bool) (cells : Vector α cap) {count : Nat} (h : count ≤ cap) :
    searchFrom (fun _ a => some (if p a then some a else none)) cells 0 count =
      some ((view cells count).find? p) := by
  rw [searchFrom_view (g := fun a => if p a then some a else none) h fun _ _ => rfl,
    List.find?_eq_findSome?_guard]
  rfl

/-- A loop that runs past the end of the array has no result. -/
example : searchFrom (fun _ _ => some none) (Vector.replicate 2 0) 0 3 =
    (none : Option (Option Nat)) := rfl

/-- The loop that closes a gap reads cells in use and writes the cell before. -/
theorem shiftFrom_eq (cells : Vector α cap) {j n : Nat} (h : j + n ≤ cap) :
    shiftFrom cells j n = some ((List.range' j n).foldl moveDown cells) := by
  induction n generalizing cells j with
  | zero => rfl
  | succ n ih =>
      have hj : j < cap := by omega
      have hrest := ih (cells.setIfInBounds (j - 1) cells[j]) (j := j + 1) (by omega)
      simpa [shiftFrom, store_eq cells (show j - 1 < cap by omega), List.range'_succ, moveDown,
        hj] using hrest

theorem shiftFrom_shiftDown (cells : Vector α cap) {i count : Nat} (hi : i < count)
    (h : count ≤ cap) :
    shiftFrom cells (i + 1) (count - (i + 1)) = some (shiftDown cells i count) :=
  shiftFrom_eq cells (by omega)

end CountedArray

/-! ## Checked programs -/

variable {m : Type → Type} [Monad m] {α β : Type}

/-- The checked program never leaves an array, and computes what `v` computes. -/
def InBounds (c : OptionT m α) (v : m α) : Prop := c.run = some <$> v

/-- The result of an access, or no result. -/
def access (o : Option α) : OptionT m α := OptionT.mk (pure o)

/-- Whatever is done with a result of the program depends only on results in `Q`. -/
def Returns (v : m α) (Q : α → Prop) : Prop :=
  ∀ {β : Type} (f g : α → m β), (∀ a, Q a → f a = g a) → v >>= f = v >>= g

theorem Keeps.returns {σ : Type} {v : StateM σ α} {Q : α → Prop}
    (h : Keeps (fun _ => True) v Q) : Returns v Q := by
  intro β f g hfg
  funext s
  exact congrFun (hfg _ (h s trivial).2) _

namespace InBounds

variable [LawfulMonad m] {c : OptionT m α} {v : m α} {Q : α → Prop} {f : α → OptionT m β}
  {g : α → m β}

theorem pure (a : α) : InBounds (Pure.pure a : OptionT m α) (Pure.pure a) := by
  simp [InBounds]

theorem lift (v : m α) : InBounds (OptionT.lift v) v := by
  simp [InBounds]

theorem access {o : Option α} {a : α} (h : o = some a) :
    InBounds (access o : OptionT m α) (Pure.pure a) := by
  simp [InBounds, Lib.access, h]

/-- Only results that the first part can have matter to the second. -/
theorem bindReturns (hv : Returns v Q) (hc : InBounds c v)
    (hf : ∀ a, Q a → InBounds (f a) (g a)) : InBounds (c >>= f) (v >>= g) := by
  have hnext : v >>= (fun a => (f a).run) = v >>= fun a => some <$> g a :=
    hv _ _ fun a ha => hf a ha
  unfold InBounds at hc ⊢
  simpa [hc, Option.elimM] using hnext

theorem bind (hc : InBounds c v) (hf : ∀ a, InBounds (f a) (g a)) :
    InBounds (c >>= f) (v >>= g) := by
  have hg : (fun a => (f a).run) = fun a => some <$> g a := funext hf
  unfold InBounds at hc ⊢
  simp [hc, hg, Option.elimM]

/-- An access that is in bounds goes on with what it reads. -/
theorem accessBind {o : Option α} {a : α} {v : m β} (h : o = some a) (hf : InBounds (f a) v) :
    InBounds (Lib.access o >>= f) v := by
  have hbind : (Lib.access o >>= f : OptionT m β) = f a := by
    ext
    simp [Lib.access, h, Option.elimM]
  exact hbind ▸ hf

end InBounds

end Orchestrator.Lib
