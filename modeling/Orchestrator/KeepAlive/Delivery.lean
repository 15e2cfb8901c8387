import Orchestrator.KeepAlive.Ownership

/-!
# No issued action is lost while the queue has room

The reference for the task is a queue-less one: it applies every action the
server issued, in the order of issue, with the sweeps of the run somewhere in
between. A run whose sends all fit agrees with it whenever its queue is empty.
-/

namespace Orchestrator.KeepAlive

open Lib

/-- Something the task did: it applied an action or swept, at this time. -/
inductive Performed
  | action (action : ClientFdAction) (t : Nat)
  | sweep (t : Nat)
  deriving DecidableEq, Repr

def Performed.action? : Performed → Option ClientFdAction
  | action a _ => some a
  | sweep _ => none

/-- The step in which the task does it. -/
def Performed.label : Performed → Label
  | action _ t => .receive t
  | sweep t => .timeout t

def KeepAliveTask.perform (task : KeepAliveTask) : Performed → KeepAliveTask
  | .action a t => task.receive a t
  | .sweep t => task.sweep t

/-- The task state is the one obtained by applying, in the order issued and at the
times of the receives, every action issued by the server, together with the sweeps
of the run; no closed descriptor holds an active slot and no two active slots hold
the same one. -/
structure Delivered (config : WssKeepAliveConfig) (labels : List Label) (s : System) :
    Prop where
  applied : ∃ performed : List Performed,
    performed.filterMap Performed.action? = labels.filterMap Label.issues ∧
    performed.map Performed.label = labels.filter (·.issues.isNone) ∧
    s.task = performed.foldl KeepAliveTask.perform
      { h := wssKeepAliveStart config, runTask := true }
  closed : ∀ fd, s.openConn fd = none → fd ∉ activeFds s.task.h.clients
  nodup : (activeFds s.task.h.clients).Nodup

/-- What the task has applied and what is still queued are together what was issued. -/
def Accounted (config : WssKeepAliveConfig) (labels : List Label) (s : System) : Prop :=
  ∃ performed : List Performed,
    performed.filterMap Performed.action? ++ s.queue.map (·.action) =
      labels.filterMap Label.issues ∧
    performed.map Performed.label = labels.filter (·.issues.isNone) ∧
    s.task = performed.foldl KeepAliveTask.perform
      { h := wssKeepAliveStart config, runTask := true }

theorem accounted_step {config : WssKeepAliveConfig} (labels : List Label) (s : System)
    (l : Label) (u : System) (h : Accounted config labels s) (hfits : sendFits s l)
    (hstep : step s l = some u) : Accounted config (labels ++ [l]) u := by
  obtain ⟨performed, hactions, hlabels, htask⟩ := h
  cases hissues : l.issues with
  | some action =>
      obtain ⟨conn, hu⟩ := step_server hissues (hfits (by simp [hissues])) hstep
      refine ⟨performed, ?_, ?_, hu.task.trans htask⟩
      · simp only [hu.queue, List.map_append, List.map_cons, List.map_nil,
          ← List.append_assoc, hactions, List.filterMap_append]
        simp [hissues]
      · simp [hlabels, hissues]
  | none =>
      cases l with
      | receive t =>
          obtain ⟨item, rest, hq, -, rfl⟩ := step_receive hstep
          refine ⟨performed ++ [.action item.action t], ?_, ?_, ?_⟩
          · simpa [hq, System.received, Performed.action?, Label.issues, List.filterMap_cons] using hactions
          · simp [hlabels, Performed.label, Label.issues]
          · simp [System.received, KeepAliveTask.perform, htask]
      | timeout t =>
          obtain ⟨-, rfl⟩ := step_timeout hstep
          refine ⟨performed ++ [.sweep t], ?_, ?_, ?_⟩
          · simpa [System.swept, Performed.action?, Label.issues, List.filterMap_cons] using hactions
          · simp [hlabels, Performed.label, Label.issues]
          · simp [System.swept, KeepAliveTask.perform, htask]
      | connect fd | frame fd | closeFrame fd | close fd | closePlain fd | stop =>
          cases hissues

/-- With no send lost, an empty queue means that every issued action has been
applied in order, and that the active slots are slots of open descriptors. -/
theorem delivered_of_sends_fit {config : WssKeepAliveConfig} {t₀ : Nat}
    {labels : List Label} {s : System}
    (run : Run step sendFits (start config t₀) labels s) (hempty : s.queue = []) :
    Delivered config labels s := by
  have howned := owned_of_run run
  obtain ⟨performed, hactions, hlabels, htask⟩ :=
    run.history_invariant (P := Accounted config) ⟨[], rfl, rfl, rfl⟩ accounted_step
  refine ⟨⟨performed, by simpa [hempty] using hactions, hlabels, htask⟩, ?_, howned.nodup⟩
  intro fd hclosed hactive
  obtain ⟨c, hc⟩ := howned.held fd hactive
  have horderly := howned.orderly fd
  rw [hempty, slotOwner, if_pos hactive, hc, hclosed] at horderly
  simpa using horderly c rfl

/-- The steps of a session served at once: each action is received before the
next one is issued. -/
def promptSession : List Label :=
  [.connect 1, .receive 0, .frame 1, .receive 10, .close 1, .receive 20]

/-- The rule applies to a connection that is opened, used and closed. -/
theorem delivered_promptSession :
    ∃ s, Run step sendFits (start {} 0) promptSession s ∧ s.queue = [] ∧
      Delivered {} promptSession s := by
  obtain ⟨s, hs⟩ := Option.isSome_iff_exists.mp
    (show (execGood step sendFits (start {} 0) promptSession).isSome by decide)
  have hq : (execGood step sendFits (start {} 0) promptSession).map (·.queue) = some [] := by
    decide
  have run := Run.of_execGood step sendFits hs
  have hempty : s.queue = [] := by simpa [hs] using hq
  exact ⟨s, run, hempty, delivered_of_sends_fit run hempty⟩

/-- A burst: the task is delayed while the one client sends as many frames as
the queue holds, and then closes. The removal is the sixth entry. -/
def burstSession : List Label :=
  [.connect 1, .receive 0, .frame 1, .frame 1, .frame 1, .frame 1, .frame 1, .close 1,
    .receive 10, .receive 20, .receive 30, .receive 40, .receive 50]

/-- With the default ten clients the removal is lost: the queue runs empty and
the closed descriptor keeps its active slot. -/
theorem not_delivered_burstSession :
    ∃ s, Run step unrestricted (start {} 0) burstSession s ∧ s.queue = [] ∧
      ¬ Delivered {} burstSession s := by
  obtain ⟨s, hs⟩ := Option.isSome_iff_exists.mp
    (show (execGood step unrestricted (start {} 0) burstSession).isSome by decide)
  have hq : (execGood step unrestricted (start {} 0) burstSession).map
      (fun s => (s.queue, s.openConn 1, activeFds s.task.h.clients)) =
        some ([], none, [1]) := by decide
  obtain ⟨hempty, hclosed, hactive⟩ :
      s.queue = [] ∧ s.openConn 1 = none ∧ activeFds s.task.h.clients = [1] := by
    simpa [hs] using hq
  refine ⟨s, Run.of_execGood step unrestricted hs, hempty, fun h => ?_⟩
  exact h.closed 1 hclosed (by simp [hactive])

end Orchestrator.KeepAlive
