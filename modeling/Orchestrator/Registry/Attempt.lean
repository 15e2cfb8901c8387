import Orchestrator.World

/-!
# Calls that an NVS failure may interrupt

A function either does what it does when no NVS call fails, or it returns the
error of the one call that failed and leaves a board from which nothing is lost.
-/

namespace Orchestrator

open Lib Handler

/-- Allocations succeed, the board satisfies `P`, and these NVS calls have failed.
When all is calm no NVS call is going to fail. -/
structure Ready (calm : Prop) (P : Board → Prop) (failures : List EspErr) (w : World) : Prop where
  allocs : w.allocs = allSucceed
  heap : w.heap = allSucceed
  nvs : calm → w.nvs = Stream'.const none
  board : P w.board
  failures : w.nvsFailures = failures

/-- One more NVS call has failed with the error returned, and the board satisfies `P`. -/
def Interrupted {α : Type} (calm : Prop) (P : Board → Prop) (failures : List EspErr)
    (r : EspResult α) (w : World) : Prop :=
  ∃ e, r = .error e ∧ e ≠ EspErr.nvsNotFound ∧ ¬calm ∧ Ready calm P (failures ++ [e]) w

/-- From `P` the function ends in `Q` of its result, or it is interrupted in `F`. -/
def Attempt {α : Type} (calm : Prop) (F P : Board → Prop) (m : Esp α)
    (Q : EspResult α → Board → Prop) : Prop :=
  ∀ failures, Triple (Ready calm P failures) (m.run : Handler (EspResult α))
    fun r w => Ready calm (Q r) failures w ∨ Interrupted calm F failures r w

variable {calm : Prop} {F P P' : Board → Prop} {failures : List EspErr} {α β : Type}
  {Q Q' : EspResult α → Board → Prop} {R : EspResult β → Board → Prop}

theorem Ready.mono {w : World} (h : Ready calm P failures w) (hP : ∀ b, P b → P' b) :
    Ready calm P' failures w :=
  ⟨h.allocs, h.heap, h.nvs, hP _ h.board, h.failures⟩

theorem Ready.modifyBoard {w : World} {b : Board} (h : Ready calm P failures w) (hb : P' b) :
    Ready calm P' failures { w with board := b } :=
  ⟨h.allocs, h.heap, h.nvs, hb, h.failures⟩

theorem ready_unforeseen : Unforeseen (Ready calm P failures) where
  allocs _ h :=
    { h with allocs := (congrArg Stream'.tail h.allocs).trans (Stream'.tail_const true) }
  heap _ h := { h with heap := (congrArg Stream'.tail h.heap).trans (Stream'.tail_const true) }
  httpd _ h := ⟨h.allocs, h.heap, h.nvs, h.board, h.failures⟩
  stack _ h := ⟨h.allocs, h.heap, h.nvs, h.board, h.failures⟩

/-- An NVS call succeeds, or one more failure is on record. -/
theorem nvsOutcome_ready : Triple (Ready calm P failures) nvsOutcome fun outcome w =>
    (outcome = none ∧ Ready calm P failures w) ∨
      ∃ e, outcome = some e ∧ e ≠ EspErr.nvsNotFound ∧ ¬calm ∧
        Ready calm P (failures ++ [e]) w := by
  intro w hw
  have htail : calm → w.nvs.tail = Stream'.const none := by
    intro hcalm
    rw [hw.nvs hcalm, Stream'.tail_const]
  cases hhead : w.nvs.head with
  | none =>
      have hrun : nvsOutcome w = (none, { w with nvs := w.nvs.tail }) := by
        simp [nvsOutcome, modifyGet, MonadStateOf.modifyGet, StateT.modifyGet, hhead, pure]
      rw [hrun]
      exact .inl ⟨rfl, hw.allocs, hw.heap, htail, hw.board, hw.failures⟩
  | some failure =>
      have hrun : nvsOutcome w = (some failure.err,
          { w with nvs := w.nvs.tail, nvsFailures := w.nvsFailures ++ [failure.err] }) := by
        simp [nvsOutcome, modifyGet, MonadStateOf.modifyGet, StateT.modifyGet, hhead, pure]
      have hcalm : ¬calm := by
        intro hcalm
        rw [hw.nvs hcalm] at hhead
        cases hhead
      rw [hrun]
      exact .inr ⟨failure.err, rfl, failure.ne_notFound, hcalm, hw.allocs, hw.heap, htail,
        hw.board, congrArg (· ++ [failure.err]) hw.failures⟩

theorem malloc_ready : Keeps (Ready calm P failures) malloc fun ok => ok = true :=
  fun w hw => ⟨ready_unforeseen.heap w hw, congrArg Stream'.head hw.heap⟩

namespace Attempt

theorem pure {a : α} (h : ∀ b, P b → Q (.ok a) b) : Attempt calm F P (pure a : Esp α) Q := by
  intro failures w hw
  exact .inl (hw.mono h)

theorem throw {e : EspErr} (h : ∀ b, P b → Q (.error e) b) :
    Attempt calm F P (throw e : Esp α) Q := by
  intro failures w hw
  exact .inl (hw.mono h)

theorem bind {m : Esp α} {k : α → Esp β} (hm : Attempt calm F P m Q)
    (hk : ∀ a, Attempt calm F (Q (.ok a)) (k a) R)
    (herror : ∀ e b, Q (.error e) b → R (.error e) b) : Attempt calm F P (m >>= k) R := by
  intro failures
  rw [ExceptT.run_bind]
  refine Triple.bind (hm failures) ?_
  rintro (e | a) w (hw | ⟨e', heq, hinterrupted⟩)
  · exact .inl (hw.mono (herror e))
  · cases heq
    exact .inr ⟨e, rfl, hinterrupted⟩
  · exact hk a failures w hw
  · cases heq

/-- A part that can only fail by being interrupted. -/
theorem bindOk {m : Esp α} {k : α → Esp β} {a : α}
    (hm : Attempt calm F P m fun r b => r = .ok a ∧ P' b) (hk : Attempt calm F P' (k a) R) :
    Attempt calm F P (m >>= k) R := by
  apply bind hm
  · intro a' failures w hw
    obtain ⟨heq, -⟩ := hw.board
    cases heq
    exact hk failures w (hw.mono fun _ hb => hb.2)
  · rintro e b ⟨heq, -⟩
    cases heq

theorem weaken {m : Esp α} (hm : Attempt calm F P m Q) (hpre : ∀ b, P' b → P b)
    (hpost : ∀ r b, Q r b → Q' r b) : Attempt calm F P' m Q' := by
  intro failures w hw
  rcases hm failures w (hw.mono hpre) with h | h
  · exact .inl (h.mono (hpost _))
  · exact .inr h

/-- A part whose result is ignored and that makes no NVS call. -/
theorem ignore {m : Esp α} {S : α → Prop} (hm : ∀ failures, Esp.Keeps (Ready calm P failures) m S) :
    Attempt calm F P (ignore m) fun r b => r = .ok ⟨⟩ ∧ P b := by
  intro failures
  refine Keeps.bindTriple (hm failures) ?_
  rintro r - w hw
  exact .inl (hw.mono fun _ hb => ⟨rfl, hb⟩)

theorem malloc : Attempt calm F P (liftM Handler.malloc) fun r b => r = .ok true ∧ P b := by
  intro failures w hw
  obtain ⟨hready, hok⟩ := malloc_ready w hw
  exact .inl (hready.mono fun _ hb => ⟨congrArg Except.ok hok, hb⟩)

theorem getBoard : Attempt calm F P (liftM Handler.getBoard) fun r b => r = .ok b ∧ P b := by
  intro failures w hw
  exact .inl (hw.modifyBoard ⟨rfl, hw.board⟩)

theorem modifyBoard {f : Board → Board} {P' : Board → Prop} (h : ∀ b, P b → P' (f b)) :
    Attempt calm F P (liftM (Handler.modifyBoard f)) fun r b => r = .ok ⟨⟩ ∧ P' b := by
  intro failures w hw
  exact .inl (hw.modifyBoard ⟨rfl, h _ hw.board⟩)

/-- The shape of every NVS call: its failure is returned at once. -/
theorem nvs {k : Option EspErr → Esp α} (hF : ∀ b, P b → F b)
    (hfailed : ∀ e, k (some e) = MonadExcept.throw e) (hdone : Attempt calm F P (k none) Q) :
    Attempt calm F P (liftM nvsOutcome >>= k) Q := by
  intro failures
  rw [ExceptT.run_bind, ExceptT.run_liftM, bind_map_left]
  refine Triple.bind nvsOutcome_ready ?_
  rintro outcome w (⟨rfl, hw⟩ | ⟨e, rfl, he, hcalm, hw⟩)
  · exact hdone failures w hw
  · dsimp only
    rw [hfailed]
    exact .inr ⟨e, rfl, he, hcalm, hw.mono hF⟩

/-- A handler that lets the failures of NVS through. -/
theorem tryCatch {m : Esp α} {handler : EspErr → Esp α} (hm : Attempt calm F P m Q)
    (hhandler : ∀ e, e ≠ EspErr.nvsNotFound → handler e = MonadExcept.throw e)
    (hok : ∀ a b, Q (.ok a) b → Q' (.ok a) b)
    (herror : ∀ e, Attempt calm F (Q (.error e)) (handler e) Q') :
    Attempt calm F P (MonadExcept.tryCatch m handler) Q' := by
  intro failures
  rw [ExceptT.run_tryCatch]
  refine Triple.bind (hm failures) ?_
  rintro (e | a) w (hw | ⟨e', heq, he', hinterrupted⟩)
  · exact herror e failures w hw
  · cases heq
    dsimp only
    rw [hhandler e he']
    exact .inr ⟨e, rfl, he', hinterrupted⟩
  · exact .inl (hw.mono (hok a))
  · cases heq

end Attempt

end Orchestrator
