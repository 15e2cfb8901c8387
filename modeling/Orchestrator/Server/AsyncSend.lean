import Mathlib.Data.List.Nodup
import Orchestrator.Server.Lifecycle
import Orchestrator.Server.Send

/-!
# Which connection a queued frame is written to

A message is queued with the descriptor of its client and written later, when
the HTTP server gets to it, to the session that holds the descriptor then.
-/

namespace Orchestrator.Server.AsyncSend

open Lib

/-- `AsyncSendArg`, and the connection the message is meant for. -/
structure AsyncSendArg where
  clientFd : Int
  message : Json
  client : Session

/-- The HTTP server and the world in which messages are sent. -/
structure State where
  world : World
  /-- The open sessions. -/
  sessions : List Session
  nextSession : Nat
  /-- The queued calls of `async_send_task`, oldest first. -/
  work : List AsyncSendArg
  /-- The frames that were written, and the sessions they went to, latest first. -/
  written : List (Session × AsyncSendArg)

def initial (world : World) : State where
  world := world
  sessions := []
  nextSession := 0
  work := []
  written := []

/-- `websocket_send_message_to_client` for this connection. What it puts into the queue
of the board is queued here with the connection it is meant for. -/
def websocketSendMessageToClient (s : State) (client : Session) (message : Json) : State :=
  let world := ((Server.websocketSendMessageToClient client.fd message).run s.world).2
  let frames := world.board.outbox.drop s.world.board.outbox.length
  { s with
    world := world
    work := s.work ++ frames.map fun frame =>
      { clientFd := frame.1, message := frame.2, client := client } }

/-- `async_send_task`; `httpd_ws_send_frame_async` looks the descriptor up among the
open sessions. -/
def asyncSendTask (s : State) (arg : AsyncSendArg) : State :=
  match s.sessions.find? fun session => session.fd = arg.clientFd with
  | none => s
  | some session => { s with written := (session, arg) :: s.written }

inductive Label
  /-- A session is accepted on a free descriptor. -/
  | accept (fd : Int)
  | close (session : Session)
  /-- A message is sent to a connection, which may have ended by then. -/
  | send (client : Session) (message : Json)
  /-- The HTTP server executes the oldest item of its queue. -/
  | work

def step (s : State) : Label → Option State
  | .accept fd =>
      if fd ∉ s.sessions.map Session.fd then
        some { s with
          sessions := s.sessions ++ [⟨fd, s.nextSession⟩]
          nextSession := s.nextSession + 1 }
      else none
  | .close session =>
      if session ∈ s.sessions then
        some { s with sessions := s.sessions.filter fun other => other ≠ session }
      else none
  | .send client message =>
      if client.number < s.nextSession then some (websocketSendMessageToClient s client message)
      else none
  | .work =>
      match s.work with
      | [] => none
      | arg :: rest => some (asyncSendTask { s with work := rest } arg)

/-- Every frame so far went to the connection it was meant for. -/
def OwnFrames (s : State) : Prop := ∀ frame ∈ s.written, frame.1 = frame.2.client

/-- No descriptor passes to another connection while a message is on its way: a message is
sent only while its client, or nobody, holds the descriptor, and a descriptor is taken
again only when nothing is queued for it. -/
def addressed (s : State) : Label → Prop
  | .accept fd => ∀ arg ∈ s.work, arg.clientFd ≠ fd
  | .close _ => True
  | .send client _ => ∀ session ∈ s.sessions, session.fd = client.fd → session = client
  | .work => True

instance (s : State) (l : Label) : Decidable (addressed s l) := by
  unfold addressed
  split <;> infer_instance

/-! ## What is queued -/

/-- A send queues the message for its client, or nothing. -/
theorem work_websocketSendMessageToClient (s : State) (client : Session) (message : Json) :
    ∀ arg ∈ (websocketSendMessageToClient s client message).work,
      arg ∈ s.work ∨ arg = { clientFd := client.fd, message := message, client := client } := by
  have houtbox : ((Server.websocketSendMessageToClient client.fd message).run
      s.world).2.board.outbox.drop s.world.board.outbox.length <+: [(client.fd, message)] := by
    rcases outbox_websocketSendMessageToClient s.world client.fd message with hnone | hone
    · simp [hnone]
    · simp [hone]
  intro arg harg
  rcases List.mem_append.mp harg with hold | hnew
  · exact .inl hold
  · obtain ⟨frame, hframe, rfl⟩ := List.mem_map.mp hnew
    have heq := List.mem_singleton.mp (houtbox.subset hframe)
    rw [heq]
    exact .inr rfl

/-! ## The invariant -/

/-- Whoever holds the descriptor of a queued message is its client. -/
structure Addressed (s : State) : Prop where
  own : OwnFrames s
  held : ∀ arg ∈ s.work, ∀ session ∈ s.sessions, session.fd = arg.clientFd →
    session = arg.client

theorem addressed_initial (world : World) : Addressed (initial world) where
  own := nofun
  held := nofun

/-- A message that is taken from the queue goes to its client, or nowhere. -/
theorem Addressed.work {s : State} {arg : AsyncSendArg} {rest : List AsyncSendArg}
    (h : Addressed s) (hwork : s.work = arg :: rest) :
    Addressed (asyncSendTask { s with work := rest } arg) := by
  have hrest : ∀ arg' ∈ rest, ∀ session ∈ s.sessions, session.fd = arg'.clientFd →
      session = arg'.client := by
    intro arg' harg'
    exact h.held arg' (hwork ▸ List.mem_cons_of_mem arg harg')
  unfold asyncSendTask
  cases hfind : s.sessions.find? fun session => session.fd = arg.clientFd with
  | none => exact ⟨h.own, hrest⟩
  | some session =>
      refine ⟨?_, hrest⟩
      intro frame hframe
      rcases List.mem_cons.mp hframe with rfl | hold
      · have hfd : session.fd = arg.clientFd := by simpa using List.find?_some hfind
        exact h.held arg (hwork ▸ List.mem_cons_self) session
          (List.mem_of_find?_eq_some hfind) hfd
      · exact h.own frame hold

theorem Addressed.step {s u : State} {l : Label} (h : Addressed s) (hgood : addressed s l)
    (hstep : step s l = some u) : Addressed u := by
  cases l with
  | accept fd =>
      simp only [AsyncSend.step, Option.ite_none_right_eq_some, Option.some.injEq] at hstep
      obtain ⟨-, rfl⟩ := hstep
      constructor
      · exact h.own
      · intro arg harg session hsession hfd
        rcases List.mem_append.mp hsession with hold | hnew
        · exact h.held arg harg session hold hfd
        · rw [List.mem_singleton.mp hnew] at hfd
          exact absurd hfd.symm (hgood arg harg)
  | close session =>
      simp only [AsyncSend.step, Option.ite_none_right_eq_some, Option.some.injEq] at hstep
      obtain ⟨-, rfl⟩ := hstep
      constructor
      · exact h.own
      · intro arg harg other hother
        exact h.held arg harg other (List.mem_of_mem_filter hother)
  | send client message =>
      simp only [AsyncSend.step, Option.ite_none_right_eq_some, Option.some.injEq] at hstep
      obtain ⟨-, rfl⟩ := hstep
      constructor
      · exact h.own
      · intro arg harg session hsession hfd
        rcases work_websocketSendMessageToClient s client message arg harg with hold | rfl
        · exact h.held arg hold session hsession hfd
        · exact hgood session hsession hfd
  | work =>
      simp only [AsyncSend.step] at hstep
      cases hwork : s.work with
      | nil =>
          rw [hwork] at hstep
          cases hstep
      | cons arg rest =>
          rw [hwork] at hstep
          obtain rfl := Option.some.inj hstep
          exact h.work hwork

/-- As long as no descriptor passes to another connection while a message is on its way,
every message is written to the connection it is meant for. -/
theorem ownFrames_of_addressed {world : World} {labels : List Label} {s : State}
    (run : Run step addressed (initial world) labels s) : OwnFrames s := by
  have haddressed : Addressed s := run.invariant (addressed_initial world)
    fun t l u ht hgood hstep => ht.step hgood hstep
  exact haddressed.own

/-- A server that runs. -/
def runningWorld : World := World.calm { Board.erased with running := true }

/-- A client gets its answer, and its descriptor is taken again afterwards. -/
def answeredSession : List Label :=
  [.accept 5, .send ⟨5, 0⟩ .null, .work, .close ⟨5, 0⟩, .accept 5, .send ⟨5, 1⟩ .null, .work]

theorem ownFrames_answeredSession : ∃ s, s.written.length = 2 ∧ OwnFrames s := by
  obtain ⟨s, hs⟩ := Option.isSome_iff_exists.mp
    (show (execGood step addressed (initial runningWorld) answeredSession).isSome by
      decide +kernel)
  have hwritten : (execGood step addressed (initial runningWorld) answeredSession).map
      (·.written.length) = some 2 := by decide +kernel
  refine ⟨s, ?_, ownFrames_of_addressed (Run.of_execGood step addressed hs)⟩
  simpa [hs] using hwritten

/-- The descriptor is taken again before the answer is written. -/
def reusedSession : List Label :=
  [.accept 5, .send ⟨5, 0⟩ .null, .close ⟨5, 0⟩, .accept 5, .work]

theorem not_ownFrames_reusedSession :
    ∃ s, Run step unrestricted (initial runningWorld) reusedSession s ∧ ¬OwnFrames s := by
  obtain ⟨s, hs⟩ := Option.isSome_iff_exists.mp
    (show (execGood step unrestricted (initial runningWorld) reusedSession).isSome by
      decide +kernel)
  have hwritten : (execGood step unrestricted (initial runningWorld) reusedSession).map
      (fun s => s.written.map fun frame => (frame.1, frame.2.client)) =
        some [(⟨5, 1⟩, ⟨5, 0⟩)] := by decide +kernel
  refine ⟨s, Run.of_execGood step unrestricted hs, fun hown => ?_⟩
  rw [hs, Option.map_some, Option.some_inj] at hwritten
  have hframe : ((⟨5, 1⟩, ⟨5, 0⟩) : Session × Session) ∈
      s.written.map fun frame => (frame.1, frame.2.client) := by
    rw [hwritten]
    exact List.mem_singleton_self _
  obtain ⟨frame, hmem, heq⟩ := List.mem_map.mp hframe
  have hclient := hown frame hmem
  rw [Prod.mk.injEq] at heq
  rw [heq.1, heq.2] at hclient
  cases hclient

end Orchestrator.Server.AsyncSend
