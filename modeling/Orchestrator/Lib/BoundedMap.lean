import Mathlib.Data.List.Nodup

/-!
# Insertion-ordered maps of bounded size

The entries of a map carry their own keys. Their order is the order in which
the keys were first inserted. The second half says what the index found by a
search does to a list of distinct keys, so that an array-based implementation
can be compared with the map.
-/

namespace Orchestrator.Lib

universe u v

variable {α : Type u} {κ : Type v}

/-- At most `cap` entries with distinct keys. -/
structure BoundedMap (key : α → κ) (cap : Nat) where
  entries : List α
  nodup : (entries.map key).Nodup
  length_le : entries.length ≤ cap

namespace BoundedMap

variable {key : α → κ} {cap : Nat}

/-- An entry with a new key keeps the keys distinct. -/
theorem nodup_append {l : List α} (hnodup : (l.map key).Nodup) {a : α}
    (hnew : ∀ b ∈ l, key b ≠ key a) : ((l ++ [a]).map key).Nodup := by
  have hnotMem : key a ∉ l.map key := by
    intro hmem
    obtain ⟨b, hb, hkey⟩ := List.mem_map.mp hmem
    exact hnew b hb hkey
  rw [List.map_append]
  exact List.Nodup.append hnodup (List.nodup_singleton _) (by simpa using hnotMem)

/-- An entry may be replaced by another one with its key. -/
theorem nodup_set {l : List α} (hnodup : (l.map key).Nodup) {a : α} {i : Nat}
    (hkey : ∀ b, l[i]? = some b → key b = key a) : ((l.set i a).map key).Nodup := by
  have hself : (l.map key).set i (key a) = l.map key := by
    apply List.ext_getElem?
    intro j
    rw [List.getElem?_set, List.getElem?_map]
    split
    · next hij =>
      subst hij
      split
      · next hlt =>
        have hlt' : i < l.length := by simpa using hlt
        rw [List.getElem?_eq_getElem hlt', Option.map_some,
          hkey _ (List.getElem?_eq_getElem hlt')]
      · next hge =>
        have hge' : l.length ≤ i := by simpa using hge
        rw [List.getElem?_eq_none hge', Option.map_none]
    · rfl
  rw [List.map_set, hself]
  exact hnodup

/-- An entry is found by any test that only entries with its key pass. -/
theorem find?_of_nodup {l : List α} (hnodup : (l.map key).Nodup) {a : α} (ha : a ∈ l)
    {p : α → Bool} (hp : ∀ b ∈ l, p b = true ↔ key b = key a) : l.find? p = some a := by
  cases hfind : l.find? p with
  | none =>
      have hfalse := List.find?_eq_none.mp hfind a ha
      exact absurd ((hp a ha).mpr rfl) hfalse
  | some b =>
      have hb := List.mem_of_find?_eq_some hfind
      have hkey := (hp b hb).mp (List.find?_some hfind)
      rw [List.inj_on_of_nodup_map hnodup hb ha hkey]

@[ext] theorem ext {m n : BoundedMap key cap} (h : m.entries = n.entries) : m = n := by
  cases m
  cases n
  cases h
  rfl

/-- The map with no entry. -/
def empty : BoundedMap key cap where
  entries := []
  nodup := List.nodup_nil
  length_le := Nat.zero_le cap

variable [DecidableEq κ]

/-- The entry of a key. -/
def lookup (m : BoundedMap key cap) (k : κ) : Option α :=
  m.entries.find? fun a => key a = k

/-- The map with the entry of `k` passed through `f`, which keeps its key. -/
def modify (m : BoundedMap key cap) (k : κ) (f : α → α) (hf : ∀ a, key a = k → key (f a) = k) :
    BoundedMap key cap where
  entries := m.entries.map fun a => if key a = k then f a else a
  nodup := by
    have hkeys : ∀ a ∈ m.entries, (key ∘ fun a => if key a = k then f a else a) a = key a := by
      intro a _
      rw [Function.comp_apply]
      split
      · next h => rw [hf a h, h]
      · rfl
    rw [List.map_map, List.map_congr_left hkeys]
    exact m.nodup
  length_le := by
    rw [List.length_map]
    exact m.length_le

/-- The map without the entry of `k`. -/
def erase (m : BoundedMap key cap) (k : κ) : BoundedMap key cap where
  entries := m.entries.filter fun a => key a ≠ k
  nodup := m.nodup.sublist (List.Sublist.map key List.filter_sublist)
  length_le := Nat.le_trans (List.length_filter_le _ _) m.length_le

/-- The map with a new entry at the end. -/
def append (m : BoundedMap key cap) (a : α) (hnew : m.lookup (key a) = none)
    (hroom : m.entries.length < cap) : BoundedMap key cap where
  entries := m.entries ++ [a]
  nodup := by
    apply nodup_append m.nodup
    intro b hb hkey
    have hnone := List.find?_eq_none.mp hnew b hb
    simp [hkey] at hnone
  length_le := by
    rw [List.length_append]
    exact hroom

/-- Insert an entry or replace the one that has its key; a new key needs room. -/
def upsert (m : BoundedMap key cap) (a : α) : Option (BoundedMap key cap) :=
  match h : m.lookup (key a) with
  | some _ => some (m.modify (key a) (fun _ => a) fun _ _ => rfl)
  | none => if hroom : m.entries.length < cap then some (m.append a h hroom) else none

/-! ## Lists with distinct keys -/

section Index

variable {l : List α} {k : κ} {i : Nat}

theorem find?_eq_getElem?_findIdx? (l : List α) (k : κ) :
    l.find? (fun a => key a = k) =
      (l.findIdx? fun a => key a = k).bind fun i => l[i]? := by
  induction l with
  | nil => rfl
  | cons a l ih =>
      by_cases ha : key a = k
      · simp [List.findIdx?_cons, ha]
      · rw [List.find?_cons_of_neg (by simpa using ha), ih, List.findIdx?_cons, if_neg (by simpa using ha)]
        cases l.findIdx? fun a => key a = k <;> rfl

/-- The first entry has the key searched for, or the search goes on behind it. -/
theorem findIdx?_cons_cases {a : α} (hi : (a :: l).findIdx? (fun a => key a = k) = some i) :
    (key a = k ∧ i = 0) ∨
      (key a ≠ k ∧ ∃ j, l.findIdx? (fun a => key a = k) = some j ∧ i = j + 1) := by
  rw [List.findIdx?_cons] at hi
  split at hi
  · next ha =>
    exact .inl ⟨by simpa using ha, (Option.some.inj hi).symm⟩
  · next ha =>
    obtain ⟨j, hj, hij⟩ := Option.map_eq_some_iff.mp hi
    exact .inr ⟨by simpa using ha, j, hj, hij.symm⟩

omit [DecidableEq κ] in
theorem key_ne_of_nodup {a b : α} (hnodup : ((a :: l).map key).Nodup) (hb : b ∈ l) :
    key b ≠ key a := by
  have hnotMem : key a ∉ l.map key := (List.nodup_cons.mp hnodup).1
  intro heq
  exact hnotMem (heq ▸ List.mem_map_of_mem hb)

/-- Overwriting the entry found is replacing the entry of that key. -/
theorem set_eq_map (hnodup : (l.map key).Nodup)
    (hi : l.findIdx? (fun a => key a = k) = some i) (f : α → α) (b : α)
    (hb : ∀ a, l[i]? = some a → f a = b) :
    l.set i b = l.map fun a => if key a = k then f a else a := by
  induction l generalizing i with
  | nil => cases hi
  | cons a l ih =>
      rcases findIdx?_cons_cases hi with ⟨ha, rfl⟩ | ⟨ha, j, hj, rfl⟩
      · have hrest : l.map (fun a => if key a = k then f a else a) = l.map id := by
          apply List.map_congr_left
          intro c hc
          rw [if_neg (ha ▸ key_ne_of_nodup hnodup hc), id]
        rw [List.map_cons, if_pos ha, hrest, List.map_id, List.set_cons_zero, hb a rfl]
      · have htail := ih (List.nodup_cons.mp hnodup).2 hj (by simpa using hb)
        rw [List.set_cons_succ, List.map_cons, if_neg ha, htail]

/-- Removing the entry found is removing the entry of that key. -/
theorem eraseIdx_eq_filter (hnodup : (l.map key).Nodup)
    (hi : l.findIdx? (fun a => key a = k) = some i) :
    l.eraseIdx i = l.filter fun a => key a ≠ k := by
  induction l generalizing i with
  | nil => cases hi
  | cons a l ih =>
      rcases findIdx?_cons_cases hi with ⟨ha, rfl⟩ | ⟨ha, j, hj, rfl⟩
      · have hrest : l.filter (fun a => key a ≠ k) = l := by
          apply List.filter_eq_self.mpr
          intro c hc
          simpa using ha ▸ key_ne_of_nodup hnodup hc
        rw [List.filter_cons_of_neg (by simpa using ha), hrest, List.eraseIdx_cons_zero]
      · have htail := ih (List.nodup_cons.mp hnodup).2 hj
        rw [List.eraseIdx_cons_succ, List.filter_cons_of_pos (by simpa using ha), htail]

end Index

/-! ## The map in terms of indices -/

section Entries

variable {m : BoundedMap key cap} {k : κ} {i : Nat} {a : α}

theorem lookup_eq_none (h : m.entries.findIdx? (fun a => key a = k) = none) :
    m.lookup k = none := by
  rw [lookup, find?_eq_getElem?_findIdx?, h]
  rfl

/-- The entry at the index found. -/
theorem lookup_eq_some (h : m.entries.findIdx? (fun a => key a = k) = some i) :
    ∃ a, m.lookup k = some a ∧ m.entries[i]? = some a ∧ key a = k := by
  have hlt : i < m.entries.length := (List.findIdx?_eq_some_iff_getElem.mp h).1
  have hkey : key m.entries[i] = k := by
    simpa using (List.findIdx?_eq_some_iff_getElem.mp h).2.1
  refine ⟨m.entries[i], ?_, List.getElem?_eq_getElem hlt, hkey⟩
  rw [lookup, find?_eq_getElem?_findIdx?, h, Option.bind_some, List.getElem?_eq_getElem hlt]

theorem entries_modify {f : α → α} {hf : ∀ a, key a = k → key (f a) = k}
    (h : m.entries.findIdx? (fun a => key a = k) = some i) {b : α}
    (hb : ∀ a, m.entries[i]? = some a → f a = b) :
    (m.modify k f hf).entries = m.entries.set i b :=
  (set_eq_map m.nodup h f b hb).symm

theorem entries_erase (h : m.entries.findIdx? (fun a => key a = k) = some i) :
    (m.erase k).entries = m.entries.eraseIdx i :=
  (eraseIdx_eq_filter m.nodup h).symm

/-- A present key has its entry replaced where it stands. -/
theorem upsert_of_present (h : m.entries.findIdx? (fun b => key b = key a) = some i) :
    ∃ m', m.upsert a = some m' ∧ m'.entries = m.entries.set i a := by
  obtain ⟨b, hlookup, -, -⟩ := lookup_eq_some h
  refine ⟨m.modify (key a) (fun _ => a) fun _ _ => rfl, ?_, entries_modify h fun _ _ => rfl⟩
  unfold upsert
  split
  · rfl
  · next hnone => rw [hlookup] at hnone; cases hnone

/-- An absent key goes to the end. -/
theorem upsert_of_absent (h : m.entries.findIdx? (fun b => key b = key a) = none)
    (hroom : m.entries.length < cap) :
    ∃ m', m.upsert a = some m' ∧ m'.entries = m.entries ++ [a] := by
  have hlookup := lookup_eq_none h
  refine ⟨m.append a hlookup hroom, ?_, rfl⟩
  unfold upsert
  split
  · next hsome => rw [hlookup] at hsome; cases hsome
  · exact dif_pos hroom

theorem upsert_of_full (h : m.entries.findIdx? (fun b => key b = key a) = none)
    (hfull : ¬m.entries.length < cap) : m.upsert a = none := by
  have hlookup := lookup_eq_none h
  unfold upsert
  split
  · next hsome => rw [hlookup] at hsome; cases hsome
  · exact dif_neg hfull

end Entries

end BoundedMap

end Orchestrator.Lib
