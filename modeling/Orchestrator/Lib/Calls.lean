import Mathlib.Data.Stream.Init

/-!
# Calls that fail, and whether anybody notices

The calls of a computation take their outcomes from a stream, `true` for
success. The computation ends at once when a checked call fails. When an
unchecked one fails it goes on, and its result is smaller than it should be. An
idle call leaves nothing in the result that matters.
-/

namespace Orchestrator.Lib

inductive Call
  | checked
  | unchecked
  | idle
  deriving DecidableEq, Repr

namespace Call

/-- All calls of one kind succeed. -/
def Passed (kind : Call) : List Call → Stream' Bool → Prop
  | [], _ => True
  | call :: calls, outcomes =>
      (call = kind → outcomes.head = true) ∧ Passed kind calls outcomes.tail

/-- The outcomes that are left when a checked call fails. -/
def stopped : List Call → Stream' Bool → Option (Stream' Bool)
  | [], _ => none
  | call :: calls, outcomes =>
      if call = checked ∧ outcomes.head = false then some outcomes.tail
      else stopped calls outcomes.tail

/-- No checked call fails, but an unchecked one does. -/
def Hollowed (calls : List Call) (outcomes : Stream' Bool) : Prop :=
  stopped calls outcomes = none ∧ ¬Passed unchecked calls outcomes

variable {calls : List Call} {outcomes : Stream' Bool}

theorem stopped_eq_none : stopped calls outcomes = none ↔ Passed checked calls outcomes := by
  induction calls generalizing outcomes with
  | nil => simp [stopped, Passed]
  | cons call calls ih =>
      cases call <;> cases h : outcomes.head <;> simp [stopped, Passed, h, ih]

theorem passed_append (kind : Call) (front back : List Call) (outcomes : Stream' Bool) :
    Passed kind (front ++ back) outcomes ↔
      Passed kind front outcomes ∧ Passed kind back (outcomes.drop front.length) := by
  induction front generalizing outcomes with
  | nil => simp [Passed]
  | cons call front ih => simp [Passed, ih, and_assoc]

theorem stopped_append (front back : List Call) (outcomes : Stream' Bool) :
    stopped (front ++ back) outcomes =
      (stopped front outcomes).or (stopped back (outcomes.drop front.length)) := by
  induction front generalizing outcomes with
  | nil => simp [stopped]
  | cons call front ih =>
      simp only [stopped, List.cons_append]
      split
      · simp
      · simp [ih]

theorem passed_of_notMem {kind : Call} (h : kind ∉ calls) : Passed kind calls outcomes := by
  induction calls generalizing outcomes with
  | nil => trivial
  | cons call calls ih =>
      rw [List.mem_cons, not_or] at h
      exact ⟨fun heq => absurd heq.symm h.1, ih h.2⟩

theorem passed_const (kind : Call) (calls : List Call) :
    Passed kind calls (Stream'.const true) := by
  induction calls with
  | nil => trivial
  | cons call calls ih => exact ⟨fun _ => rfl, ih⟩

theorem stopped_const (calls : List Call) : stopped calls (Stream'.const true) = none :=
  stopped_eq_none.mpr (passed_const checked calls)

theorem stopped_of_notMem (h : checked ∉ calls) : stopped calls outcomes = none :=
  stopped_eq_none.mpr (passed_of_notMem h)

end Call

/-! ## Results -/

/-- The result is whole, or smaller than that. -/
structure Fits {α : Type} [SizeOf α] (whole : Prop) (a full : α) : Prop where
  eq : whole → a = full
  lt : ¬whole → sizeOf a < sizeOf full

namespace Fits

variable {α β γ : Type} [SizeOf α] [SizeOf β] [SizeOf γ] {p q : Prop} {a a' : α} {b b' : β}

theorem refl (a : α) : Fits True a a where
  eq _ := rfl
  lt h := absurd trivial h

theorem le (h : Fits p a a') : sizeOf a ≤ sizeOf a' := by
  by_cases hp : p
  · rw [h.eq hp]
  · exact Nat.le_of_lt (h.lt hp)

theorem iff (h : Fits p a a') (hpq : p ↔ q) : Fits q a a' where
  eq hq := h.eq (hpq.mpr hq)
  lt hq := h.lt fun hp => hq (hpq.mp hp)

theorem map {f : α → β} (h : Fits p a a')
    (hf : sizeOf a < sizeOf a' → sizeOf (f a) < sizeOf (f a')) : Fits p (f a) (f a') where
  eq hp := congrArg f (h.eq hp)
  lt hp := hf (h.lt hp)

theorem map₂ {f : α → β → γ} (ha : Fits p a a') (hb : Fits q b b')
    (hf : sizeOf a + sizeOf b < sizeOf a' + sizeOf b' → sizeOf (f a b) < sizeOf (f a' b')) :
    Fits (p ∧ q) (f a b) (f a' b') where
  eq hpq := by rw [ha.eq hpq.1, hb.eq hpq.2]
  lt hpq := by
    apply hf
    have hale := ha.le
    have hble := hb.le
    by_cases hp : p
    · have hlt := hb.lt fun hq => hpq ⟨hp, hq⟩
      omega
    · have hlt := ha.lt hp
      omega

end Fits

/-! ## Lists -/

/-- The elements of which the calls succeed. -/
def kept {α : Type} : List α → Stream' Bool → List α
  | [], _ => []
  | a :: rest, outcomes =>
      if outcomes.head then a :: kept rest outcomes.tail else kept rest outcomes.tail

theorem kept_sublist {α : Type} (elements : List α) (outcomes : Stream' Bool) :
    (kept elements outcomes).Sublist elements := by
  induction elements generalizing outcomes with
  | nil => exact List.Sublist.refl []
  | cons a rest ih =>
      unfold kept
      split
      · exact (ih outcomes.tail).cons_cons a
      · exact (ih outcomes.tail).cons a

/-- Among elements with different keys the search finds one if its call succeeded. -/
theorem find?_kept {κ β : Type} [DecidableEq κ] {elements : List (κ × β)} {i : Nat} {e : κ × β}
    (hkeys : (elements.map Prod.fst).Nodup) (he : elements[i]? = some e)
    (outcomes : Stream' Bool) :
    (kept elements outcomes).find? (fun m => m.1 = e.1) =
      if outcomes.get i then some e else none := by
  induction elements generalizing i outcomes with
  | nil => simp at he
  | cons first rest ih =>
      rw [List.map_cons, List.nodup_cons] at hkeys
      have hhead : outcomes.get 0 = outcomes.head := rfl
      cases i with
      | zero =>
          obtain rfl : first = e := by simpa using he
          have hnone : (kept rest outcomes.tail).find? (fun m => m.1 = first.1) = none := by
            rw [List.find?_eq_none]
            intro m hm heq
            have hmem := (kept_sublist rest outcomes.tail).subset hm
            exact hkeys.1 (of_decide_eq_true heq ▸ List.mem_map_of_mem hmem)
          rw [kept, hhead]
          split
          · simp
          · exact hnone
      | succ i =>
          have hrest : rest[i]? = some e := by simpa using he
          have hne : first.1 ≠ e.1 := by
            intro heq
            exact hkeys.1 (heq ▸ List.mem_map_of_mem (List.mem_of_getElem? hrest))
          have hih := ih hkeys.2 hrest outcomes.tail
          rw [kept]
          split
          · rw [List.find?_cons_of_neg (by simpa using hne)]
            exact hih
          · exact hih

/-! ## Computations -/

/-- The computation makes these calls. Unless one that is checked fails it has a result,
which is full when no unchecked call fails and it was `whole` before. -/
def Makes {α : Type} [SizeOf α] (whole : Prop) (m : StateM (Stream' Bool) (Option α))
    (calls : List Call) (full : α) : Prop :=
  ∀ outcomes, match Call.stopped calls outcomes with
    | some rest => m outcomes = (none, rest)
    | none => ∃ a, m outcomes = (some a, outcomes.drop calls.length) ∧
        Fits (whole ∧ Call.Passed .unchecked calls outcomes) a full

/-- The computation always has a result. -/
def Gives {α : Type} [SizeOf α] (whole : Prop) (m : StateM (Stream' Bool) α)
    (calls : List Call) (full : α) : Prop :=
  Call.checked ∉ calls ∧ ∀ outcomes, ∃ a, m outcomes = (a, outcomes.drop calls.length) ∧
    Fits (whole ∧ Call.Passed .unchecked calls outcomes) a full

variable {α β : Type} [SizeOf α] [SizeOf β] {whole : Prop} {calls calls' : List Call} {full : α}
  {full' : β}

namespace Gives

theorem pure {a : α} (h : Fits whole a full) :
    Gives whole (pure a : StateM (Stream' Bool) α) [] full := by
  refine ⟨List.not_mem_nil, fun outcomes => ⟨a, rfl, h.iff ?_⟩⟩
  simp [Call.Passed]

theorem iff {m : StateM (Stream' Bool) α} {p : Prop} (h : Gives whole m calls full)
    (hp : whole ↔ p) : Gives p m calls full := by
  rwa [← propext hp]

/-- What follows a result when there is something else that may not be whole. -/
theorem bindWith {m : StateM (Stream' Bool) α} {f : α → StateM (Stream' Bool) β} {other : Prop}
    (hm : Gives whole m calls full)
    (hf : ∀ a p, Fits p a full → Gives (other ∧ p) (f a) calls' full') :
    Gives (other ∧ whole) (m >>= f) (calls ++ calls') full' := by
  obtain ⟨hcalls, hrun⟩ := hm
  constructor
  · rw [List.mem_append, not_or]
    exact ⟨hcalls, (hf full True (Fits.refl full)).1⟩
  intro outcomes
  obtain ⟨a, ha, hfits⟩ := hrun outcomes
  obtain ⟨b, hb, hfits'⟩ := (hf a _ hfits).2 (outcomes.drop calls.length)
  refine ⟨b, ?_, hfits'.iff ?_⟩
  · show f (m outcomes).1 (m outcomes).2 = _
    rw [ha, hb, Stream'.drop_drop, List.length_append]
  · simp only [Call.passed_append, and_assoc]

theorem bind {m : StateM (Stream' Bool) α} {f : α → StateM (Stream' Bool) β}
    (hm : Gives whole m calls full) (hf : ∀ a p, Fits p a full → Gives p (f a) calls' full') :
    Gives whole (m >>= f) (calls ++ calls') full' :=
  (hm.bindWith fun a p ha => (hf a p ha).iff (and_iff_right trivial).symm).iff (and_iff_right trivial)

/-- An unchecked call, and what is done with its outcome. -/
theorem unchecked {next : StateM (Stream' Bool) Bool} {f : Bool → StateM (Stream' Bool) β}
    (hnext : ∀ outcomes, next outcomes = (outcomes.head, outcomes.tail))
    (hf : ∀ ok, Gives (whole ∧ ok = true) (f ok) calls full') :
    Gives whole (next >>= f) (.unchecked :: calls) full' := by
  constructor
  · rw [List.mem_cons, not_or]
    exact ⟨nofun, (hf true).1⟩
  intro outcomes
  obtain ⟨b, hb, hfits⟩ := (hf outcomes.head).2 outcomes.tail
  refine ⟨b, ?_, hfits.iff ?_⟩
  · show f (next outcomes).1 (next outcomes).2 = _
    rw [hnext, hb]
    rfl
  · simp [Call.Passed, and_assoc]

end Gives

namespace Makes

theorem pure {a : α} (h : Fits whole a full) :
    Makes whole (pure (some a) : StateM (Stream' Bool) (Option α)) [] full := by
  intro outcomes
  refine ⟨a, rfl, h.iff ?_⟩
  simp [Call.Passed]

theorem iff {m : StateM (Stream' Bool) (Option α)} {p : Prop} (h : Makes whole m calls full)
    (hp : whole ↔ p) : Makes p m calls full := by
  rwa [← propext hp]

/-- What follows a result when there is something else that may not be whole. -/
theorem bindWith {m : StateM (Stream' Bool) (Option α)}
    {f : Option α → StateM (Stream' Bool) (Option β)} {other : Prop}
    (hm : Makes whole m calls full) (hnone : f none = Pure.pure none)
    (hf : ∀ a p, Fits p a full → Makes (other ∧ p) (f (some a)) calls' full') :
    Makes (other ∧ whole) (m >>= f) (calls ++ calls') full' := by
  intro outcomes
  have hrun := hm outcomes
  have hbind : (m >>= f) outcomes = f (m outcomes).1 (m outcomes).2 := rfl
  rw [Call.stopped_append, hbind]
  cases hstop : Call.stopped calls outcomes with
  | some rest =>
      rw [hstop] at hrun
      dsimp only at hrun
      rw [hrun, hnone]
      rfl
  | none =>
      rw [hstop] at hrun
      obtain ⟨a, ha, hfits⟩ := hrun
      have hrest := hf a _ hfits (outcomes.drop calls.length)
      rw [ha, Option.or, List.length_append]
      cases hstop' : Call.stopped calls' (outcomes.drop calls.length) with
      | some rest =>
          rw [hstop'] at hrest
          exact hrest
      | none =>
          rw [hstop'] at hrest
          obtain ⟨b, hb, hfits'⟩ := hrest
          refine ⟨b, ?_, hfits'.iff ?_⟩
          · dsimp only
            rw [hb, Stream'.drop_drop]
          · simp only [Call.passed_append, and_assoc]

theorem bind {m : StateM (Stream' Bool) (Option α)}
    {f : Option α → StateM (Stream' Bool) (Option β)} (hm : Makes whole m calls full)
    (hnone : f none = Pure.pure none)
    (hf : ∀ a p, Fits p a full → Makes p (f (some a)) calls' full') :
    Makes whole (m >>= f) (calls ++ calls') full' :=
  (hm.bindWith hnone fun a p ha => (hf a p ha).iff (and_iff_right trivial).symm).iff (and_iff_right trivial)

/-- A computation that always has a result has one here. -/
theorem of_gives {m : StateM (Stream' Bool) α} (hm : Gives whole m calls full) :
    Makes whole (some <$> m) calls full := by
  intro outcomes
  obtain ⟨a, ha, hfits⟩ := hm.2 outcomes
  rw [Call.stopped_of_notMem hm.1]
  refine ⟨a, ?_, hfits⟩
  show (some (m outcomes).1, (m outcomes).2) = _
  rw [ha]

theorem bindGivesWith {m : StateM (Stream' Bool) α} {f : α → StateM (Stream' Bool) (Option β)}
    {other : Prop} (hm : Gives whole m calls full)
    (hf : ∀ a p, Fits p a full → Makes (other ∧ p) (f a) calls' full') :
    Makes (other ∧ whole) (m >>= f) (calls ++ calls') full' := by
  have hbind : m >>= f = (some <$> m) >>= fun a? => (a?.map f).getD (Pure.pure none) := by
    rw [bind_map_left]
    rfl
  rw [hbind]
  exact (of_gives hm).bindWith rfl hf

theorem bindGives {m : StateM (Stream' Bool) α} {f : α → StateM (Stream' Bool) (Option β)}
    (hm : Gives whole m calls full) (hf : ∀ a p, Fits p a full → Makes p (f a) calls' full') :
    Makes whole (m >>= f) (calls ++ calls') full' :=
  (bindGivesWith hm fun a p ha => (hf a p ha).iff (and_iff_right trivial).symm).iff
    (and_iff_right trivial)

/-- A checked call, without which there is no result. -/
theorem checked {next : StateM (Stream' Bool) Bool} {f : Bool → StateM (Stream' Bool) (Option β)}
    (hnext : ∀ outcomes, next outcomes = (outcomes.head, outcomes.tail))
    (hfalse : f false = Pure.pure none) (hf : Makes whole (f true) calls full') :
    Makes whole (next >>= f) (.checked :: calls) full' := by
  intro outcomes
  have hbind : (next >>= f) outcomes = f (next outcomes).1 (next outcomes).2 := rfl
  rw [hbind, hnext, Call.stopped]
  cases hhead : outcomes.head with
  | false =>
      rw [hfalse]
      rfl
  | true =>
      have hrest := hf outcomes.tail
      simp only [Bool.true_eq_false, and_false, if_false]
      cases hstop : Call.stopped calls outcomes.tail with
      | some rest =>
          rw [hstop] at hrest
          exact hrest
      | none =>
          rw [hstop] at hrest
          obtain ⟨b, hb, hfits⟩ := hrest
          refine ⟨b, hb, hfits.iff ?_⟩
          simp [Call.Passed]

end Makes

end Orchestrator.Lib
