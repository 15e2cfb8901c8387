import Mathlib.Data.List.Nodup
import Orchestrator.Lib.Run
import Orchestrator.Server.Lifecycle
import Orchestrator.Server.Send

/-!
# Tasks that send at the same time

The event loop, the Thread and Matter stacks and the HTTP server run in tasks of their own,
and each of them sends. Between two sends of a broadcast the other tasks go on, clients come
and leave, and the HTTP server executes its queue.
-/

namespace Orchestrator.Server.Tasks

open Lib

abbrev Task := Nat

/-- A message a task sends: to one client, or to all of them. -/
structure Outgoing where
  fd : Option Int
  message : Json

/-- `AsyncSendArg`, and which message of which task it carries. -/
structure AsyncSendArg where
  clientFd : Int
  message : Json
  task : Task
  number : Nat

/-- Where a task stands in `websocket_broadcast_message`. -/
structure Position where
  /-- The descriptor that `websocket_send_message_to_client` is called with. -/
  sending : Option Int
  /-- The descriptors that the loop has not come to. -/
  fds : List Int
  deriving DecidableEq

def Position.idle : Position := { sending := none, fds := [] }

structure State where
  /-- The open sessions, and whether each has become a WebSocket client. -/
  sessions : List (Session × Bool)
  nextSession : Nat
  position : Task → Position
  /-- What each task has sent so far, including what it is sending now. -/
  sent : Task → List Outgoing
  /-- The queued calls of `async_send_task`, oldest first. -/
  work : List AsyncSendArg
  /-- The frames that were written, and the sessions they went to, oldest first. -/
  written : List (Session × AsyncSendArg)
  /-- The blocks of memory that were allocated for sends and not freed. -/
  blocks : Nat

def initial : State where
  sessions := []
  nextSession := 0
  position _ := Position.idle
  sent _ := []
  work := []
  written := []
  blocks := 0

/-- Which call of `websocket_send_message_to_client` fails first. -/
inductive SendOutcome
  | noArg
  | noCopy
  | notQueued
  | queued
  deriving DecidableEq

/-- `httpd_ws_get_fd_info` -/
def State.isWebsocket (s : State) (fd : Int) : Bool :=
  s.sessions.any fun session => session.1.fd = fd && session.2

/-- `httpd_get_client_list` -/
def State.clientList (s : State) : List Int := s.sessions.map fun session => session.1.fd

/-- The task goes on from here. -/
def State.goOn (s : State) (task : Task) (position : Position) : State :=
  { s with position := Function.update s.position task position }

/-- The task begins to send a message. -/
def State.begin (s : State) (task : Task) (outgoing : Outgoing) (position : Position) : State :=
  { s.goOn task position with
    sent := Function.update s.sent task (s.sent task ++ [outgoing]) }

/-- `websocket_send_message_to_client` with the last message of the task. Where the message
cannot be copied the argument is freed, and where the call cannot be queued nothing is. -/
def State.websocketSendMessageToClient (s : State) (task : Task) (fd : Int) :
    SendOutcome → State
  | .noArg => s
  | .noCopy => s
  | .notQueued => { s with blocks := s.blocks + 2 }
  | .queued =>
      { s with
        blocks := s.blocks + 2
        work := s.work ++ (s.sent task).getLast?.toList.map fun outgoing =>
          { clientFd := fd
            message := outgoing.message
            task := task
            number := (s.sent task).length - 1 } }

/-- `async_send_task`, given whether the frame could be sent. -/
def State.asyncSendTask (s : State) (arg : AsyncSendArg) (sends : Bool) : State :=
  match s.sessions.find? fun session => session.1.fd = arg.clientFd with
  | none => { s with blocks := s.blocks - 2 }
  | some session =>
      if sends then
        { s with blocks := s.blocks - 2, written := s.written ++ [(session.1, arg)] }
      else { s with blocks := s.blocks - 2 }

inductive Label
  /-- A session is accepted on a free descriptor. -/
  | accept (fd : Int)
  /-- A session becomes a WebSocket client. -/
  | upgrade (session : Session)
  | close (session : Session)
  /-- `websocket_broadcast_message` is called, and lists the sessions unless that fails. -/
  | broadcast (task : Task) (message : Json) (listed : Bool)
  /-- `websocket_send_message_to_client` is called for one client. -/
  | sendTo (task : Task) (fd : Int) (message : Json)
  /-- The loop of a broadcast looks at the next descriptor. -/
  | next (task : Task)
  /-- The send of a task returns. Its three calls, for the argument, the copy and the queue, are
  one step: no other task sees the blocks of a send that has not returned. -/
  | send (task : Task) (outcome : SendOutcome)
  /-- The HTTP server executes the oldest item of its queue. -/
  | work (sends : Bool)

def step (s : State) : Label → Option State
  | .accept fd =>
      if fd ∉ s.clientList then
        some { s with
          sessions := s.sessions ++ [(⟨fd, s.nextSession⟩, false)]
          nextSession := s.nextSession + 1 }
      else none
  | .upgrade session =>
      if s.sessions.any fun other => other.1 = session && !other.2 then
        some { s with
          sessions := s.sessions.map fun other => (other.1, other.2 || other.1 = session) }
      else none
  | .close session =>
      some { s with sessions := s.sessions.filter fun other => other.1 ≠ session }
  | .broadcast task message listed =>
      if s.position task = Position.idle then
        some (s.begin task { fd := none, message := message }
          { sending := none, fds := if listed then s.clientList else [] })
      else none
  | .sendTo task fd message =>
      if s.position task = Position.idle then
        some (s.begin task { fd := some fd, message := message } { sending := some fd, fds := [] })
      else none
  | .next task =>
      match s.position task with
      | { sending := none, fds := fd :: fds } =>
          some (s.goOn task { sending := if s.isWebsocket fd then some fd else none, fds := fds })
      | _ => none
  | .send task outcome =>
      match s.position task with
      | { sending := some fd, fds := fds } =>
          some ((s.websocketSendMessageToClient task fd outcome).goOn task
            { sending := none, fds := fds })
      | _ => none
  | .work sends =>
      match s.work with
      | [] => none
      | arg :: rest => some (State.asyncSendTask { s with work := rest } arg sends)

/-- What each step does where it is enabled. -/
inductive Steps (s : State) : Label → State → Prop
  | accept {fd : Int} (hfree : fd ∉ s.clientList) :
      Steps s (.accept fd)
        { s with
          sessions := s.sessions ++ [(⟨fd, s.nextSession⟩, false)]
          nextSession := s.nextSession + 1 }
  | upgrade (session : Session) :
      Steps s (.upgrade session)
        { s with
          sessions := s.sessions.map fun other => (other.1, other.2 || other.1 = session) }
  | close (session : Session) :
      Steps s (.close session)
        { s with sessions := s.sessions.filter fun other => other.1 ≠ session }
  | broadcast {task : Task} (hidle : s.position task = Position.idle) (message : Json)
      (listed : Bool) :
      Steps s (.broadcast task message listed)
        (s.begin task { fd := none, message := message }
          { sending := none, fds := if listed then s.clientList else [] })
  | sendTo {task : Task} (hidle : s.position task = Position.idle) (fd : Int) (message : Json) :
      Steps s (.sendTo task fd message)
        (s.begin task { fd := some fd, message := message } { sending := some fd, fds := [] })
  | next {task : Task} {fd : Int} {fds : List Int}
      (hposition : s.position task = { sending := none, fds := fd :: fds }) :
      Steps s (.next task)
        (s.goOn task { sending := if s.isWebsocket fd then some fd else none, fds := fds })
  | send {task : Task} {fd : Int} {fds : List Int}
      (hposition : s.position task = { sending := some fd, fds := fds }) (outcome : SendOutcome) :
      Steps s (.send task outcome)
        ((s.websocketSendMessageToClient task fd outcome).goOn task
          { sending := none, fds := fds })
  | work {arg : AsyncSendArg} {rest : List AsyncSendArg} (hwork : s.work = arg :: rest)
      (sends : Bool) :
      Steps s (.work sends) (State.asyncSendTask { s with work := rest } arg sends)

theorem steps_of_step {s u : State} {l : Label} (hstep : step s l = some u) : Steps s l u := by
  cases l with
  | accept fd =>
      simp only [step, Option.ite_none_right_eq_some, Option.some.injEq] at hstep
      obtain ⟨hfree, rfl⟩ := hstep
      exact .accept hfree
  | upgrade session =>
      simp only [step, Option.ite_none_right_eq_some, Option.some.injEq] at hstep
      obtain ⟨-, rfl⟩ := hstep
      exact .upgrade session
  | close session =>
      obtain rfl := Option.some.inj hstep
      exact .close session
  | broadcast task message listed =>
      simp only [step, Option.ite_none_right_eq_some, Option.some.injEq] at hstep
      obtain ⟨hidle, rfl⟩ := hstep
      exact .broadcast hidle message listed
  | sendTo task fd message =>
      simp only [step, Option.ite_none_right_eq_some, Option.some.injEq] at hstep
      obtain ⟨hidle, rfl⟩ := hstep
      exact .sendTo hidle fd message
  | next task =>
      simp only [step] at hstep
      split at hstep
      · next hposition =>
        obtain rfl := Option.some.inj hstep
        exact .next hposition
      · cases hstep
  | send task outcome =>
      simp only [step] at hstep
      split at hstep
      · next hposition =>
        obtain rfl := Option.some.inj hstep
        exact .send hposition outcome
      · cases hstep
  | work sends =>
      simp only [step] at hstep
      split at hstep
      · cases hstep
      · next hwork =>
        obtain rfl := Option.some.inj hstep
        exact .work hwork sends

/-! ## The order of the messages -/

/-- The message is meant for the client with this descriptor. -/
def Outgoing.IsFor (fd : Int) (o : Outgoing) : Prop := ∀ other ∈ o.fd, other = fd

instance (fd : Int) : DecidablePred (Outgoing.IsFor fd) := fun o =>
  inferInstanceAs (Decidable (∀ other ∈ o.fd, other = fd))

/-- The descriptors that the task will send its last message to. -/
def Position.ahead (p : Position) : List Int := p.sending.toList ++ p.fds

/-- The arguments of the items that are or were in the queue. -/
def State.args (s : State) : List AsyncSendArg := s.written.map Prod.snd ++ s.work

/-- The numbers of the messages that a task has queued for a descriptor. -/
def numbers (args : List AsyncSendArg) (task : Task) (fd : Int) : List Nat :=
  (args.filter fun arg => arg.task = task ∧ arg.clientFd = fd).map AsyncSendArg.number

/-- Each task queues its messages for a descriptor in their order, and each of them once. -/
structure Ordered (s : State) : Prop where
  clients : s.clientList.Nodup
  ahead : ∀ task, (s.position task).ahead.Nodup
  sending : ∀ task, ∀ fd ∈ (s.position task).ahead,
    ∃ outgoing ∈ (s.sent task).getLast?, outgoing.IsFor fd
  increasing : ∀ task fd, (numbers s.args task fd).Pairwise (· < ·)
  /-- What is queued is not what is still to be sent. -/
  behind : ∀ task, ∀ fd ∈ (s.position task).ahead, ∀ n ∈ numbers s.args task fd,
    n + 1 < (s.sent task).length
  carried : ∀ arg ∈ s.args, ∃ outgoing ∈ (s.sent arg.task)[arg.number]?,
    outgoing.message = arg.message ∧ outgoing.IsFor arg.clientFd

theorem numbers_append (front back : List AsyncSendArg) (task : Task) (fd : Int) :
    numbers (front ++ back) task fd = numbers front task fd ++ numbers back task fd := by
  simp [numbers]

theorem numbers_sublist {args args' : List AsyncSendArg} (h : args.Sublist args') (task : Task)
    (fd : Int) : (numbers args task fd).Sublist (numbers args' task fd) :=
  (h.filter _).map _

theorem ordered_initial : Ordered initial where
  clients := List.nodup_nil
  ahead _ := List.nodup_nil
  sending _ _ hfd := absurd hfd (List.not_mem_nil)
  increasing _ _ := List.Pairwise.nil
  behind _ _ hfd := absurd hfd (List.not_mem_nil)
  carried _ harg := absurd harg (List.not_mem_nil)

variable {s u : State} {task : Task} {labels : List Label}

/-- What the sessions and the queue do on their own. -/
theorem Ordered.of_args (h : Ordered s) (hclients : u.clientList.Nodup)
    (hposition : u.position = s.position) (hsent : u.sent = s.sent)
    (hargs : u.args.Sublist s.args) : Ordered u where
  clients := hclients
  ahead := by
    rw [hposition]
    exact h.ahead
  sending := by
    rw [hposition, hsent]
    exact h.sending
  increasing task fd := (h.increasing task fd).sublist (numbers_sublist hargs task fd)
  behind := by
    rw [hposition, hsent]
    exact fun task fd hfd n hn => h.behind task fd hfd n ((numbers_sublist hargs task fd).subset hn)
  carried := by
    rw [hsent]
    exact fun arg harg => h.carried arg (hargs.subset harg)

/-- A task has fewer descriptors ahead of it. -/
theorem Ordered.goOn (h : Ordered s) {position : Position}
    (hahead : position.ahead.Sublist (s.position task).ahead) : Ordered (s.goOn task position) where
  clients := h.clients
  ahead other := by
    rcases eq_or_ne other task with rfl | hne
    · simpa [State.goOn] using (h.ahead other).sublist hahead
    · simpa [State.goOn, hne] using h.ahead other
  sending other fd hfd := by
    rcases eq_or_ne other task with rfl | hne
    · exact h.sending other fd (hahead.subset (by simpa [State.goOn] using hfd))
    · exact h.sending other fd (by simpa [State.goOn, hne] using hfd)
  increasing := h.increasing
  behind other fd hfd := by
    rcases eq_or_ne other task with rfl | hne
    · exact h.behind other fd (hahead.subset (by simpa [State.goOn] using hfd))
    · exact h.behind other fd (by simpa [State.goOn, hne] using hfd)
  carried := h.carried

theorem lt_of_mem_numbers (h : Ordered s) {fd : Int} {n : Nat}
    (hn : n ∈ numbers s.args task fd) : n < (s.sent task).length := by
  obtain ⟨arg, harg, rfl⟩ := List.mem_map.mp hn
  obtain ⟨harg, htask⟩ := List.mem_filter.mp harg
  obtain ⟨outgoing, houtgoing, -⟩ := h.carried arg harg
  have heq : arg.task = task := by
    simp only [decide_eq_true_eq] at htask
    exact htask.1
  rw [heq] at houtgoing
  exact (List.getElem?_eq_some_iff.mp houtgoing).1

/-- A task that has nothing to do begins to send. -/
theorem Ordered.begin (h : Ordered s) {outgoing : Outgoing} {position : Position}
    (hahead : position.ahead.Nodup) (hfor : ∀ fd ∈ position.ahead, outgoing.IsFor fd) :
    Ordered (s.begin task outgoing position) where
  clients := h.clients
  ahead other := by
    rcases eq_or_ne other task with rfl | hne
    · simpa [State.begin, State.goOn] using hahead
    · simpa [State.begin, State.goOn, hne] using h.ahead other
  sending other fd hfd := by
    rcases eq_or_ne other task with rfl | hne
    · refine ⟨outgoing, by simp [State.begin], hfor fd ?_⟩
      simpa [State.begin, State.goOn] using hfd
    · simpa [State.begin, hne] using
        h.sending other fd (by simpa [State.begin, State.goOn, hne] using hfd)
  increasing := h.increasing
  behind other fd hfd n hn := by
    rcases eq_or_ne other task with rfl | hne
    · simpa [State.begin] using lt_of_mem_numbers h hn
    · simpa [State.begin, hne] using
        h.behind other fd (by simpa [State.begin, State.goOn, hne] using hfd) n hn
  carried arg harg := by
    obtain ⟨carried, hcarried, hmessage⟩ := h.carried arg harg
    refine ⟨carried, ?_, hmessage⟩
    rcases eq_or_ne arg.task task with heq | hne
    · have hlt := (List.getElem?_eq_some_iff.mp hcarried).1
      rw [heq] at hcarried hlt
      simpa [State.begin, heq, List.getElem?_append_left hlt] using hcarried
    · simpa [State.begin, hne] using hcarried

/-- The argument with which the last message of a task is queued. -/
def State.lastArg (s : State) (task : Task) (fd : Int) (outgoing : Outgoing) : AsyncSendArg where
  clientFd := fd
  message := outgoing.message
  task := task
  number := (s.sent task).length - 1

theorem websocketSendMessageToClient_queued {fd : Int} {outgoing : Outgoing}
    (h : (s.sent task).getLast? = some outgoing) :
    s.websocketSendMessageToClient task fd .queued =
      { s with
        blocks := s.blocks + 2
        work := s.work ++ [s.lastArg task fd outgoing] } := by
  unfold State.websocketSendMessageToClient
  rw [h]
  rfl

theorem numbers_lastArg (args : List AsyncSendArg) (other : Task) (fd fd' : Int)
    (outgoing : Outgoing) :
    numbers (args ++ [s.lastArg task fd outgoing]) other fd' =
      numbers args other fd' ++
        if task = other ∧ fd = fd' then [(s.sent task).length - 1] else [] := by
  rw [numbers_append]
  by_cases h : task = other ∧ fd = fd'
  · simp [numbers, State.lastArg, h]
  · simp [numbers, State.lastArg, h]

/-- The send of a task gets into the queue. -/
theorem Ordered.queue (h : Ordered s) {fd : Int} {fds : List Int}
    (hposition : s.position task = { sending := some fd, fds := fds }) :
    Ordered ((s.websocketSendMessageToClient task fd .queued).goOn task
      { sending := none, fds := fds }) := by
  have hahead : (s.position task).ahead = fd :: fds := by rw [hposition]; rfl
  have hnodup : (fd :: fds).Nodup := hahead ▸ h.ahead task
  have hmem : fd ∈ (s.position task).ahead := hahead ▸ List.mem_cons_self
  obtain ⟨outgoing, hlast, hfor⟩ := h.sending task fd hmem
  obtain ⟨front, hfront⟩ := List.getLast?_eq_some_iff.mp hlast
  have hlength : (s.sent task).length = front.length + 1 := by
    rw [hfront, List.length_append, List.length_singleton]
  have hbehind : ∀ n ∈ numbers s.args task fd, n < (s.sent task).length - 1 := by
    intro n hn
    have hlt := h.behind task fd hmem n hn
    omega
  have hargs : s.written.map Prod.snd ++ (s.work ++ [s.lastArg task fd outgoing]) =
      s.args ++ [s.lastArg task fd outgoing] := (List.append_assoc _ _ _).symm
  have hposition' : (s.goOn task { sending := none, fds := fds }).position task =
      { sending := none, fds := fds } := Function.update_self task _ _
  have hrest : Ordered (s.goOn task { sending := none, fds := fds }) :=
    h.goOn (by rw [hahead]; exact List.sublist_cons_self fd fds)
  rw [websocketSendMessageToClient_queued hlast]
  refine { hrest with increasing := ?_, behind := ?_, carried := ?_ }
  · intro other fd'
    show (numbers (s.written.map Prod.snd ++ (s.work ++ [s.lastArg task fd outgoing]))
      other fd').Pairwise (· < ·)
    rw [hargs, numbers_lastArg]
    split
    · next heq =>
      obtain ⟨rfl, rfl⟩ := heq
      refine List.pairwise_append.mpr ⟨h.increasing task fd, List.pairwise_singleton _ _, ?_⟩
      intro n hn m hm
      rw [List.mem_singleton.mp hm]
      exact hbehind n hn
    · rw [List.append_nil]
      exact h.increasing other fd'
  · intro other fd' hfd' n hn
    have hn : n ∈ numbers (s.written.map Prod.snd ++ (s.work ++ [s.lastArg task fd outgoing]))
        other fd' := hn
    rw [hargs, numbers_lastArg] at hn
    rcases List.mem_append.mp hn with hold | hnew
    · exact hrest.behind other fd' hfd' n hold
    · split at hnew
      · next heq =>
        obtain ⟨rfl, rfl⟩ := heq
        have hfds : fd ∈ ((s.goOn task { sending := none, fds := fds }).position task).ahead := hfd'
        rw [hposition'] at hfds
        exact absurd hfds (List.nodup_cons.mp hnodup).1
      · exact absurd hnew List.not_mem_nil
  · intro arg harg
    have harg : arg ∈ s.written.map Prod.snd ++ (s.work ++ [s.lastArg task fd outgoing]) := harg
    rw [hargs] at harg
    rcases List.mem_append.mp harg with hold | hnew
    · exact h.carried arg hold
    · obtain rfl := List.mem_singleton.mp hnew
      refine ⟨outgoing, ?_, rfl, hfor⟩
      show outgoing ∈ (s.sent task)[(s.sent task).length - 1]?
      rw [← List.getLast?_eq_getElem?]
      exact hlast

/-- A send that fails leaves the queue as it is. -/
theorem Ordered.unqueued (h : Ordered s) {fd : Int} {fds : List Int} {outcome : SendOutcome}
    (hposition : s.position task = { sending := some fd, fds := fds })
    (houtcome : outcome ≠ .queued) :
    Ordered ((s.websocketSendMessageToClient task fd outcome).goOn task
      { sending := none, fds := fds }) := by
  have hahead : (s.position task).ahead = fd :: fds := by rw [hposition]; rfl
  have hsame : Ordered (s.websocketSendMessageToClient task fd outcome) := by
    cases outcome with
    | noArg => exact h
    | noCopy => exact h
    | notQueued => exact { h with }
    | queued => exact absurd rfl houtcome
  refine hsame.goOn ?_
  have hkept : (s.websocketSendMessageToClient task fd outcome).position = s.position := by
    cases outcome with
    | noArg => rfl
    | noCopy => rfl
    | notQueued => rfl
    | queued => exact absurd rfl houtcome
  rw [hkept, hahead]
  exact List.sublist_cons_self fd fds

/-- An item that is executed is written, or it is gone. -/
theorem args_asyncSendTask {arg : AsyncSendArg} {rest : List AsyncSendArg} (sends : Bool)
    (hwork : s.work = arg :: rest) :
    (State.asyncSendTask { s with work := rest } arg sends).args.Sublist s.args := by
  have hargs : s.args = s.written.map Prod.snd ++ arg :: rest := by rw [State.args, hwork]
  have hdropped : (s.written.map Prod.snd ++ rest).Sublist s.args := by
    rw [hargs]
    exact List.Sublist.append_left (List.sublist_cons_self arg rest) _
  unfold State.asyncSendTask
  split
  · exact hdropped
  · split
    · rw [hargs]
      simp [State.args]
    · exact hdropped

theorem asyncSendTask_frame (arg : AsyncSendArg) (sends : Bool) :
    (s.asyncSendTask arg sends).sessions = s.sessions ∧
      (s.asyncSendTask arg sends).nextSession = s.nextSession ∧
      (s.asyncSendTask arg sends).position = s.position ∧
      (s.asyncSendTask arg sends).sent = s.sent := by
  unfold State.asyncSendTask
  split
  · exact ⟨rfl, rfl, rfl, rfl⟩
  · split
    · exact ⟨rfl, rfl, rfl, rfl⟩
    · exact ⟨rfl, rfl, rfl, rfl⟩

theorem written_asyncSendTask {arg : AsyncSendArg} {sends : Bool}
    {frame : Session × AsyncSendArg} (h : frame ∈ (s.asyncSendTask arg sends).written) :
    frame ∈ s.written ∨ ∃ session, s.sessions.find? (fun session =>
      session.1.fd = arg.clientFd) = some session ∧ frame = (session.1, arg) := by
  unfold State.asyncSendTask at h
  split at h
  · exact .inl h
  · next session hfind =>
    split at h
    · rcases List.mem_append.mp h with hold | hnew
      · exact .inl hold
      · exact .inr ⟨session, hfind, List.mem_singleton.mp hnew⟩
    · exact .inl h

/-- The loop of a broadcast goes on to descriptors that it had ahead. -/
theorem ahead_next {fd : Int} {fds : List Int}
    (hposition : s.position task = { sending := none, fds := fd :: fds }) :
    (Position.mk (if s.isWebsocket fd then some fd else none) fds).ahead.Sublist
      (s.position task).ahead := by
  rw [hposition]
  split
  · exact List.Sublist.refl _
  · exact List.sublist_cons_self fd fds

/-- Only the execution of an item writes frames. -/
theorem written_of_step {l : Label} (hstep : step s l = some u) : u.written = s.written ∨
    ∃ sends arg rest, s.work = arg :: rest ∧
      u = State.asyncSendTask { s with work := rest } arg sends := by
  cases steps_of_step hstep with
  | work hwork sends => exact .inr ⟨sends, _, _, hwork, rfl⟩
  | send hposition outcome =>
      refine .inl ?_
      cases outcome <;> rfl
  | _ => exact .inl rfl

theorem Ordered.step {l : Label} (h : Ordered s) (hstep : step s l = some u) : Ordered u := by
  cases steps_of_step hstep with
  | @accept fd hfree =>
      refine h.of_args ?_ rfl rfl (List.Sublist.refl _)
      have hclients : State.clientList { s with
          sessions := s.sessions ++ [(⟨fd, s.nextSession⟩, false)]
          nextSession := s.nextSession + 1 } = s.clientList ++ [fd] := List.map_append
      rw [hclients]
      exact h.clients.append (List.nodup_singleton fd)
        (List.disjoint_singleton.mpr hfree)
  | upgrade session =>
      refine h.of_args ?_ rfl rfl (List.Sublist.refl _)
      have hclients : State.clientList { s with
          sessions := s.sessions.map fun other => (other.1, other.2 || other.1 = session) } =
            s.clientList := List.map_map
      rw [hclients]
      exact h.clients
  | close session =>
      exact h.of_args (h.clients.sublist (List.filter_sublist.map _)) rfl rfl (List.Sublist.refl _)
  | broadcast hidle message listed =>
      refine h.begin ?_ fun fd _ other hother => absurd hother (by simp)
      cases listed with
      | true => exact h.clients
      | false => exact List.nodup_nil
  | sendTo hidle fd message =>
      refine h.begin (List.nodup_singleton fd) fun fd' hfd' other hother => ?_
      rw [List.mem_singleton.mp hfd']
      exact (Option.some.inj hother).symm
  | next hposition => exact h.goOn (ahead_next hposition)
  | send hposition outcome =>
      by_cases houtcome : outcome = .queued
      · rw [houtcome]
        exact h.queue hposition
      · exact h.unqueued hposition houtcome
  | @work arg rest hwork sends =>
      obtain ⟨hsessions, -, hposition, hsent⟩ :=
        asyncSendTask_frame (s := { s with work := rest }) arg sends
      refine h.of_args ?_ hposition hsent (args_asyncSendTask sends hwork)
      rw [State.clientList, hsessions]
      exact h.clients

theorem ordered_of_run (run : Run step unrestricted initial labels s) : Ordered s :=
  run.invariant ordered_initial fun _ _ _ ht _ hstep => ht.step hstep

/-! ## Memory -/

/-- The send could not be queued, and its two blocks are not freed. -/
def Label.Loses : Label → Bool
  | .send _ .notQueued => true
  | _ => false

theorem blocks_asyncSendTask (arg : AsyncSendArg) (sends : Bool) :
    (s.asyncSendTask arg sends).blocks = s.blocks - 2 ∧
      (s.asyncSendTask arg sends).work = s.work := by
  unfold State.asyncSendTask
  split
  · exact ⟨rfl, rfl⟩
  · split
    · exact ⟨rfl, rfl⟩
    · exact ⟨rfl, rfl⟩

/-- The argument of a queued item and its copy of the message are freed when the item has been
executed; those of a send that could not be queued never are. -/
theorem blocks_of_run {s : State} {labels : List Label}
    (run : Run step unrestricted initial labels s) :
    s.blocks = 2 * s.work.length + 2 * labels.countP Label.Loses := by
  suffices h : Ordered s ∧ s.blocks = 2 * s.work.length + 2 * labels.countP Label.Loses from h.2
  refine run.history_invariant (P := fun labels s => Ordered s ∧
    s.blocks = 2 * s.work.length + 2 * labels.countP Label.Loses) ⟨ordered_initial, rfl⟩ ?_
  rintro labels t l u ⟨hordered, hblocks⟩ - hstep
  refine ⟨hordered.step hstep, ?_⟩
  have hcount : (labels ++ [l]).countP Label.Loses =
      labels.countP Label.Loses + if l.Loses then 1 else 0 := by
    simp [List.countP_append]
  rw [hcount]
  cases steps_of_step hstep with
  | @work arg rest hwork sends =>
      obtain ⟨hless, hrest⟩ := blocks_asyncSendTask (s := { t with work := rest }) arg sends
      rw [hless, hrest, hblocks, hwork]
      simp [Label.Loses]
      omega
  | @send task fd fds hposition outcome =>
      have hahead : fd ∈ (t.position task).ahead := by
        rw [hposition]
        exact List.mem_cons_self
      obtain ⟨outgoing, hlast, -⟩ := hordered.sending task fd hahead
      rw [Option.mem_def] at hlast
      cases outcome with
      | noArg => simpa [State.goOn, State.websocketSendMessageToClient, Label.Loses]
      | noCopy => simpa [State.goOn, State.websocketSendMessageToClient, Label.Loses]
      | notQueued =>
          simp [State.goOn, State.websocketSendMessageToClient, Label.Loses, hblocks]
          omega
      | queued =>
          simp [State.goOn, State.websocketSendMessageToClient, Label.Loses, hblocks, hlast]
          omega
  | _ => simpa [State.begin, State.goOn, Label.Loses]

/-- Two tasks broadcast at the same time, and a client leaves meanwhile. -/
def interleavedSession : List Label :=
  [.accept 5, .accept 6, .upgrade ⟨5, 0⟩, .upgrade ⟨6, 1⟩, .broadcast 1 .null true, .next 1,
   .send 1 .queued, .broadcast 2 (.bool true) true, .next 2, .send 2 .queued, .next 1,
   .send 1 .queued, .work true, .broadcast 1 (.bool false) true, .next 1, .send 1 .queued,
   .close ⟨6, 1⟩, .work true, .work true, .next 2, .work true]

theorem blocks_interleavedSession : ∃ s : State,
    s.blocks = 2 * s.work.length + 2 * interleavedSession.countP Label.Loses := by
  obtain ⟨s, hs⟩ := Option.isSome_iff_exists.mp
    (show (execGood step unrestricted initial interleavedSession).isSome by decide +kernel)
  exact ⟨s, blocks_of_run (Run.of_execGood step unrestricted hs)⟩

end Orchestrator.Server.Tasks
