import Orchestrator.State.Handlers

/-!
# When the clients' last snapshots show the current state

A client is owed a snapshot as long as some handler in progress will still
queue one to it. Handlers that set the state broadcast afterwards, so a change
makes every client owed; the handler of a new client sends to that client only.
-/

namespace Orchestrator.State

open Lib

/-- The rest of a handler that still queues a snapshot to the client. -/
def Serves (todo : List Op) (fd : Int) : Prop := .broadcast ∈ todo ∨ .queue fd ∈ todo

instance (todo : List Op) (fd : Int) : Decidable (Serves todo fd) :=
  inferInstanceAs (Decidable (_ ∨ _))

/-- A client count that changes, and a snapshot for a client that is no longer current,
are made up for by a snapshot that a handler in progress still queues. -/
def madeUpFor (s : System) : Label → Prop
  | .run name =>
      match (s.tasks name).todo with
      | .setClientCount :: rest =>
          s.state.websocket.clientCount = s.clients.length ∨
            ∀ fd ∈ s.clients, Serves rest fd ∨ Serves (s.tasks name.other).todo fd
      | .queue fd :: _ => fd ∈ s.clients →
          (s.tasks name).held.toJson = s.state.toJson ∨ Serves (s.tasks name.other).todo fd
      | _ => True
  | _ => True

/-- Every connected client was last sent the current state. -/
def Converged (s : System) : Prop :=
  ∀ fd ∈ s.clients, s.last fd = some s.state.toJson

/-- No handler is in progress. -/
def Quiescent (s : System) : Prop := ∀ name, (s.tasks name).todo = []

/-- Every setter in the rest of a handler is followed by a broadcast. -/
def FollowedUp : List Op → Prop
  | [] => True
  | .set _ :: rest => .broadcast ∈ rest ∧ FollowedUp rest
  | .setClientCount :: rest => FollowedUp rest
  | .copy :: rest => FollowedUp rest
  | .queue _ :: rest => FollowedUp rest
  | .broadcast :: rest => FollowedUp rest
  | .broadcastEvent _ :: rest => FollowedUp rest
  | .broadcastInfo _ :: rest => FollowedUp rest
  | .endSession _ :: rest => FollowedUp rest

instance : DecidablePred FollowedUp := by
  intro todo
  induction todo with
  | nil => exact isTrue trivial
  | cons op rest ih => cases op <;> unfold FollowedUp <;> infer_instance

theorem FollowedUp.tail {op : Op} {rest : List Op} (h : FollowedUp (op :: rest)) :
    FollowedUp rest := by
  cases op with
  | set setter => exact h.2
  | setClientCount | copy | queue fd | broadcast | broadcastEvent e | broadcastInfo i
  | endSession fd => exact h

theorem followedUp_queues (clients : List Int) {rest : List Op} (h : FollowedUp rest) :
    FollowedUp (clients.map .queue ++ rest) := by
  induction clients with
  | nil => exact h
  | cons fd clients ih => exact ih

theorem followedUp_handleWifiEvent (event : WifiEvent) : FollowedUp (handleWifiEvent event) := by
  cases event <;> simp [handleWifiEvent, broadcastSnapshot, FollowedUp]

theorem followedUp_handleClientConnected (fd : Int) :
    FollowedUp (handleClientConnected fd) := trivial

theorem followedUp_handleClientDisconnected : FollowedUp handleClientDisconnected := trivial

theorem followedUp_onClientClose (fd : Int) :
    FollowedUp (handleClientDisconnected ++ [.endSession fd]) := trivial

theorem followedUp_announce (setter : Setter) (event info : CStr) :
    FollowedUp (announce setter event info) := by
  simp [announce, broadcastSnapshot, FollowedUp]

theorem followedUp_handleThreadEvent (event : ThreadEvent) :
    FollowedUp (handleThreadEvent event) := by
  cases event with
  | roleChanged role =>
      cases role with
      | none => exact trivial
      | some role => exact followedUp_announce _ _ _
  | datasetChanged present =>
      cases present with
      | false => exact trivial
      | true => exact followedUp_announce _ _ _
  | start | stop | attached | detached => exact followedUp_announce _ _ _
  | ifUp | ifDown | gotIp6 | lostIp6 | multicastGroupJoin | multicastGroupLeave
  | publishMeshcopE | removeMeshcopE | other => exact trivial

theorem followedUp_handleCommand (command : Command) : FollowedUp (handleCommand command) := by
  cases command <;> simp [handleCommand, broadcastSnapshot, FollowedUp]

/-! ## The invariant -/

structure Converging (s : System) : Prop where
  followed : ∀ name, FollowedUp (s.tasks name).todo
  /-- A client has the current state or is owed a snapshot. -/
  owed : ∀ fd ∈ s.clients,
    s.last fd = some s.state.toJson ∨ ∃ name, Serves (s.tasks name).todo fd

theorem converging_start : Converging start where
  followed _ := trivial
  owed _ h := absurd h List.not_mem_nil

theorem Converging.converged {s : System} (hs : Converging s) (hidle : Quiescent s) :
    Converged s := by
  intro fd hfd
  rcases hs.owed fd hfd with hcurrent | ⟨name, hserves⟩
  · exact hcurrent
  · rw [hidle name] at hserves
    rcases hserves with h | h <;> cases h

theorem TaskName.eq_or_eq_other (name n : TaskName) : n = name ∨ n = name.other := by
  cases name <;> cases n <;> simp [TaskName.other]

theorem TaskName.other_ne (name : TaskName) : name.other ≠ name := by
  cases name <;> decide

theorem tasks_setTask_self (s : System) (name : TaskName) (task : Task) :
    (s.setTask name task).tasks name = task := by
  simp [System.setTask]

theorem tasks_setTask_other (s : System) (name : TaskName) (task : Task) :
    (s.setTask name task).tasks name.other = s.tasks name.other := by
  simp [System.setTask, TaskName.other_ne name]

/-- Who owes a client a snapshot, seen from one of the two tasks. -/
theorem exists_serves_iff (s : System) (name : TaskName) (fd : Int) :
    (∃ n, Serves (s.tasks n).todo fd) ↔
      Serves (s.tasks name).todo fd ∨ Serves (s.tasks name.other).todo fd := by
  constructor
  · rintro ⟨n, hn⟩
    rcases TaskName.eq_or_eq_other name n with rfl | rfl
    · exact .inl hn
    · exact .inr hn
  · rintro (h | h)
    · exact ⟨name, h⟩
    · exact ⟨name.other, h⟩

/-- Replacing the rest of one handler keeps the invariant when every client has
the current state or is owed it by the new rest or by the other task. -/
theorem Converging.setTask {s : System} {name : TaskName} {task : Task}
    (hother : FollowedUp (s.tasks name.other).todo) (htask : FollowedUp task.todo)
    (howed : ∀ fd ∈ s.clients, s.last fd = some s.state.toJson ∨
      Serves task.todo fd ∨ Serves (s.tasks name.other).todo fd) :
    Converging (s.setTask name task) where
  followed n := by
    rcases TaskName.eq_or_eq_other name n with rfl | rfl
    · rw [tasks_setTask_self]
      exact htask
    · rw [tasks_setTask_other]
      exact hother
  owed fd hfd := by
    rw [exists_serves_iff _ name, tasks_setTask_self, tasks_setTask_other]
    exact howed fd hfd

/-- The same for an idle task that starts a handler. -/
theorem Converging.handle {s u : System} {name : TaskName} {handler : List Op}
    (hother : FollowedUp (s.tasks name.other).todo) (hhandler : FollowedUp handler)
    (howed : ∀ fd ∈ s.clients, s.last fd = some s.state.toJson ∨
      Serves handler fd ∨ Serves (s.tasks name.other).todo fd)
    (h : s.handle name handler = some u) : Converging u := by
  obtain ⟨-, hu⟩ := Option.ite_none_right_eq_some.mp h
  obtain rfl := Option.some.inj hu
  exact Converging.setTask hother hhandler howed

theorem Converging.owed_from {s : System} (hs : Converging s) (name : TaskName) {fd : Int}
    (hfd : fd ∈ s.clients) :
    s.last fd = some s.state.toJson ∨ Serves (s.tasks name).todo fd ∨
      Serves (s.tasks name.other).todo fd := by
  have h := hs.owed fd hfd
  rwa [exists_serves_iff s name] at h

/-- A handler that starts on an idle task takes nothing from what is owed. -/
theorem Converging.owed_of_idle {s : System} (hs : Converging s) {name : TaskName}
    (hidle : (s.tasks name).todo = []) (handler : List Op) {fd : Int} (hfd : fd ∈ s.clients) :
    s.last fd = some s.state.toJson ∨ Serves handler fd ∨
      Serves (s.tasks name.other).todo fd := by
  rcases hs.owed_from name hfd with h | h | h
  · exact .inl h
  · rw [hidle] at h
    rcases h with h | h <;> cases h
  · exact .inr (.inr h)

theorem Converging.event {s u : System} (hs : Converging s) {name : TaskName}
    {handler : List Op} (hhandler : FollowedUp handler) (h : s.handle name handler = some u) :
    Converging u := by
  have hidle := (Option.ite_none_right_eq_some.mp h).1
  exact Converging.handle (hs.followed _) hhandler (fun fd hfd => hs.owed_of_idle hidle _ hfd) h

theorem Converging.connect {s u : System} (hs : Converging s) {fd : Int}
    (h : System.handle { s with
      clients := s.clients ++ [fd]
      last := Function.update s.last fd none } .httpd (handleClientConnected fd) = some u) :
    Converging u := by
  have hidle := (Option.ite_none_right_eq_some.mp h).1
  apply Converging.handle _ (followedUp_handleClientConnected fd) _ h
  · exact hs.followed _
  intro c hc
  by_cases hcfd : c = fd
  · subst hcfd
    refine .inr (.inl (.inr ?_))
    simp [handleClientConnected, sendSnapshotToClient]
  · have hold : c ∈ s.clients := by simpa [hcfd] using hc
    have howed := hs.owed_of_idle hidle (handleClientConnected fd) hold
    simpa only [Function.update_of_ne hcfd] using howed

/-- What is owed by a handler that has just performed a step other than a send. -/
theorem Serves.tail {op : Op} {rest : List Op} {fd : Int} (h : Serves (op :: rest) fd)
    (hbroadcast : op ≠ .broadcast) (hqueue : op ≠ .queue fd) : Serves rest fd := by
  rcases h with h | h
  · exact .inl ((List.mem_cons.mp h).resolve_left hbroadcast.symm)
  · exact .inr ((List.mem_cons.mp h).resolve_left hqueue.symm)

theorem Converging.perform {s : System} (hs : Converging s) {name : TaskName} {op : Op}
    {rest : List Op} (htodo : (s.tasks name).todo = op :: rest)
    (hmade : madeUpFor s (.run name)) : Converging (s.perform name op rest) := by
  have hfollowed : FollowedUp (op :: rest) := htodo ▸ hs.followed name
  have howed : ∀ fd ∈ s.clients, s.last fd = some s.state.toJson ∨ Serves (op :: rest) fd ∨
      Serves (s.tasks name.other).todo fd := by
    intro fd hfd
    have h := hs.owed_from name hfd
    rwa [htodo] at h
  simp only [madeUpFor, htodo] at hmade
  have hrest := hfollowed.tail
  have hother := hs.followed name.other
  cases op with
  | set setter =>
      show Converging (System.setTask _ name _)
      refine Converging.setTask hother hrest ?_
      exact fun fd _ => .inr (.inl (.inl hfollowed.1))
  | setClientCount =>
      show Converging (System.setTask _ name _)
      refine Converging.setTask hother hrest ?_
      intro fd hfd
      rcases hmade with hcount | hmade
      · have hsame : s.state.setWebsocketClientCount s.clients.length = s.state := by
          rw [← hcount]
          rfl
        have hserved := (howed fd hfd).imp_right (Or.imp_left fun h => h.tail nofun nofun)
        simpa only [System.setState, hsame] using hserved
      · exact .inr (hmade fd hfd)
  | copy =>
      show Converging (System.setTask _ name _)
      refine Converging.setTask hother hrest ?_
      exact fun fd hfd => (howed fd hfd).imp_right (Or.imp_left fun h => h.tail nofun nofun)
  | queue c =>
      show Converging (System.setTask _ name _)
      refine Converging.setTask hother hrest ?_
      intro fd hfd
      by_cases hc : c = fd
      · subst hc
        rcases hmade hfd with hcurrent | hserved
        · refine .inl ?_
          rw [← hcurrent]
          exact Function.update_self c _ s.last
        · exact .inr (.inr hserved)
      · have hserved := (howed fd hfd).imp_right
          (Or.imp_left fun h => h.tail nofun fun heq => hc (Op.queue.inj heq))
        simpa only [Function.update_of_ne (Ne.symm hc)] using hserved
  | broadcast =>
      show Converging (System.setTask _ name _)
      refine Converging.setTask hother (followedUp_queues s.clients hrest) ?_
      intro fd hfd
      refine .inr (.inl (.inr ?_))
      exact List.mem_append_left _ (List.mem_map_of_mem hfd)
  | broadcastEvent e | broadcastInfo i =>
      show Converging (System.setTask _ name _)
      refine Converging.setTask hother hrest ?_
      exact fun fd hfd => (howed fd hfd).imp_right (Or.imp_left fun h => h.tail nofun nofun)
  | endSession c =>
      show Converging (System.setTask _ name _)
      refine Converging.setTask hother hrest ?_
      intro fd hfd
      have hold : fd ∈ s.clients := List.mem_of_mem_filter hfd
      exact (howed fd hold).imp_right (Or.imp_left fun h => h.tail nofun nofun)

theorem Converging.step {s u : System} {l : Label} (hs : Converging s) (hmade : madeUpFor s l)
    (hstep : State.step s l = some u) : Converging u := by
  cases l with
  | wifi event => exact hs.event (followedUp_handleWifiEvent event) hstep
  | thread event => exact hs.event (followedUp_handleThreadEvent event) hstep
  | connect fd =>
      obtain ⟨-, h⟩ := Option.ite_none_right_eq_some.mp hstep
      exact hs.connect h
  | disconnect fd =>
      obtain ⟨-, h⟩ := Option.ite_none_right_eq_some.mp hstep
      exact hs.event (followedUp_onClientClose fd) h
  | disconnectOther => exact hs.event followedUp_handleClientDisconnected hstep
  | command command => exact hs.event (followedUp_handleCommand command) hstep
  | run name =>
      simp only [State.step] at hstep
      split at hstep
      · cases hstep
      · next op rest htodo =>
        obtain rfl := Option.some.inj hstep
        exact hs.perform htodo hmade

/-- In a run whose count updates and sends are made up for, every client has
been sent the current state whenever all handlers have finished. -/
theorem converged_of_madeUpFor {labels : List Label} {s : System}
    (run : Run State.step madeUpFor start labels s) (hidle : Quiescent s) : Converged s := by
  have hs : Converging s := run.invariant converging_start
    fun t l u ht hmade hstep => ht.step hmade hstep
  exact hs.converged hidle

/-- A client that the counting handler does not serve, or that is queued an older state, is
served by the other task. -/
def served (s : System) : Label → Prop
  | .run name =>
      match (s.tasks name).todo with
      | .setClientCount :: rest =>
          ∀ fd ∈ s.clients, Serves rest fd ∨ Serves (s.tasks name.other).todo fd
      | .queue fd :: _ => (s.tasks name).held = s.state ∨ Serves (s.tasks name.other).todo fd
      | _ => True
  | _ => True

instance (s : System) (l : Label) : Decidable (served s l) := by
  unfold served
  split
  · split <;> infer_instance
  · infer_instance

theorem madeUpFor_of_served {s : System} {l : Label} (h : served s l) : madeUpFor s l := by
  unfold served at h
  unfold madeUpFor
  split
  · next name =>
    dsimp only at h
    split
    · next rest htodo =>
      rw [htodo] at h
      exact .inr h
    · next fd rest htodo =>
      rw [htodo] at h
      exact fun _ => h.imp_left (congrArg OrchestratorState.toJson)
    · trivial
  · trivial

/-- The Thread stack is started while the first client is sent its snapshot, which is out of
date by then, and a second client connects before the new state is broadcast. -/
def servedSession : List Label :=
  [.connect 1, .run .httpd, .run .httpd, .thread .start, .run .eventLoop, .run .httpd,
    .run .httpd, .connect 2, .run .httpd, .run .eventLoop, .run .httpd, .run .httpd,
    .run .eventLoop, .run .httpd] ++ List.replicate 4 (.run .eventLoop)

theorem converged_servedSession :
    ∃ s, Run step madeUpFor start servedSession s ∧ s.clients = [1, 2] ∧
      s.state.thread.enabled = true ∧ Converged s := by
  obtain ⟨s, hs, htasks, hclients, henabled⟩ :
      ∃ s, execGood step served start servedSession = some s ∧
        (∀ name, (s.tasks name).todo = []) ∧ s.clients = [1, 2] ∧
        s.state.thread.enabled = true :=
    ⟨_, rfl, by intro name; cases name <;> rfl, rfl, rfl⟩
  have run : Run step madeUpFor start servedSession s :=
    (Run.of_execGood step served hs).mono fun _ _ => madeUpFor_of_served
  exact ⟨s, run, hclients, henabled, converged_of_madeUpFor run htasks⟩

/-- Two clients connect one after the other. -/
def twoClients : List Label :=
  [.connect 1] ++ List.replicate 4 (.run .httpd) ++ [.connect 2] ++
    List.replicate 4 (.run .httpd)

/-- Only the second client is told that there are two. -/
theorem not_converged_twoClients :
    ∃ s, Run step unrestricted start twoClients s ∧ Quiescent s ∧ ¬ Converged s := by
  obtain ⟨s, hs, htasks, hclients, hlast, hstate⟩ :
      ∃ s, execGood step unrestricted start twoClients = some s ∧
        (∀ name, (s.tasks name).todo = []) ∧ s.clients = [1, 2] ∧
        s.last 1 = some (orchestratorStateInit.setWebsocketClientCount 1).toJson ∧
        s.state = orchestratorStateInit.setWebsocketClientCount 2 :=
    ⟨_, rfl, by intro name; cases name <;> rfl, rfl, rfl, rfl⟩
  refine ⟨s, Run.of_execGood step unrestricted hs, htasks, fun h => ?_⟩
  have hsame := h 1 (by simp [hclients])
  rw [hlast, hstate, Option.some_inj] at hsame
  simp [OrchestratorState.toJson, OrchestratorState.setWebsocketClientCount,
    WebsocketState.fields] at hsame

end Orchestrator.State
