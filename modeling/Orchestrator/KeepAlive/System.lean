import Orchestrator.KeepAlive.Task
import Orchestrator.Lib.Run

/-!
# The server and the keep-alive task as one system

The server side issues actions with `xQueueSendToBack(.., 0)` and ignores the
result, so an action issued on a full queue is lost. The task side receives
one action or times out and sweeps.

Three records exist for the statements only and are read by no transition: the
connection on whose behalf an action was issued, the list of the actions the
task has processed, latest first, and the list of the callbacks it has made.
-/

namespace Orchestrator.KeepAlive

open Lib

/-- A WebSocket connection: its descriptor and a number no other one has. -/
structure Connection where
  fd : Int
  number : Nat
  deriving DecidableEq, Repr

/-- A queue entry together with the connection it was issued for, if any. -/
structure QueuedAction where
  action : ClientFdAction
  conn : Option Connection
  deriving DecidableEq, Repr

structure System where
  queueSize : Nat
  task : KeepAliveTask
  queue : List QueuedAction
  /-- The last time the task read. -/
  clock : Nat
  /-- The time of the last sweep, or of the start before the first one. -/
  sweptAt : Nat
  /-- The server still holds the handle; `websocket_server_stop` clears it. -/
  handle : Bool
  openConn : Int → Option Connection
  nextNumber : Nat
  processed : List (QueuedAction × Nat)
  /-- The callbacks made so far, in their order, with the times of their sweeps. -/
  called : List (Callback × Nat)

/-- The system right after a successful `wss_keep_alive_start` at time `t`. -/
def start (config : WssKeepAliveConfig) (t : Nat) : System where
  queueSize := config.queueSize
  task := { h := wssKeepAliveStart config, runTask := true }
  queue := []
  clock := t
  sweptAt := t
  handle := true
  openConn := fun _ => none
  nextNumber := 0
  processed := []
  called := []

/-- `xQueueSendToBack` with a zero timeout. -/
def xQueueSendToBack (s : System) (item : QueuedAction) : Bool × System :=
  if s.queue.length < s.queueSize then (true, { s with queue := s.queue ++ [item] })
  else (false, s)

def wssKeepAliveStop (s : System) : System :=
  (xQueueSendToBack s ⟨⟨.stopTask, -1, 0⟩, none⟩).2

def wssKeepAliveAddClient (s : System) (fd : Int) (conn : Option Connection) :
    Bool × System :=
  xQueueSendToBack s ⟨⟨.clientFdAdd, fd, 0⟩, conn⟩

def wssKeepAliveRemoveClient (s : System) (fd : Int) (conn : Option Connection) :
    Bool × System :=
  xQueueSendToBack s ⟨⟨.clientFdRemove, fd, 0⟩, conn⟩

def wssKeepAliveClientIsActive (s : System) (fd : Int) (conn : Option Connection) :
    Bool × System :=
  xQueueSendToBack s ⟨⟨.clientUpdate, fd, 0⟩, conn⟩

/-- The steps of the two parties. -/
inductive Label
  /-- `websocket_handler` on the upgrade request of a descriptor that is not open. -/
  | connect (fd : Int)
  /-- `process_frame` on a text, ping or pong frame. -/
  | frame (fd : Int)
  /-- `process_frame` on a close frame; the session is still open afterwards. -/
  | closeFrame (fd : Int)
  /-- `on_client_close` of an open connection. -/
  | close (fd : Int)
  /-- `on_client_close` of a session that was never upgraded. -/
  | closePlain (fd : Int)
  /-- `wss_keep_alive_stop`, after which the server drops its handle. -/
  | stop
  /-- The task receives an action and processes it at this time. -/
  | receive (t : Nat)
  /-- The task's receive times out and it sweeps at this time. -/
  | timeout (t : Nat)
  deriving DecidableEq, Repr

/-- The action that a server step hands to the queue. -/
def Label.issues : Label → Option ClientFdAction
  | connect fd => some ⟨.clientFdAdd, fd, 0⟩
  | frame fd => some ⟨.clientUpdate, fd, 0⟩
  | closeFrame fd => some ⟨.clientFdRemove, fd, 0⟩
  | close fd => some ⟨.clientFdRemove, fd, 0⟩
  | closePlain fd => some ⟨.clientFdRemove, fd, 0⟩
  | stop => some ⟨.stopTask, -1, 0⟩
  | receive _ => none
  | timeout _ => none

/-- The task reads a 63-bit clock that never goes back, while it is running. -/
def System.mayRead (s : System) (t : Nat) : Prop :=
  s.task.runTask = true ∧ s.clock ≤ t ∧ t < 2 ^ 63

instance (s : System) (t : Nat) : Decidable (s.mayRead t) :=
  inferInstanceAs (Decidable (_ ∧ _ ∧ _))

/-- One step of the system. A wait may end at any time the clock allows, and
the queue may have been refilled between the end of a wait and the sweep. -/
def step (s : System) : Label → Option System
  | .connect fd =>
      let conn : Connection := ⟨fd, s.nextNumber⟩
      if s.handle = true ∧ s.openConn fd = none then
        some { (wssKeepAliveAddClient s fd (some conn)).2 with
          openConn := Function.update s.openConn fd (some conn)
          nextNumber := s.nextNumber + 1 }
      else none
  | .frame fd =>
      if s.handle = true ∧ s.openConn fd ≠ none then
        some (wssKeepAliveClientIsActive s fd (s.openConn fd)).2
      else none
  | .closeFrame fd =>
      if s.handle = true ∧ s.openConn fd ≠ none then
        some (wssKeepAliveRemoveClient s fd (s.openConn fd)).2
      else none
  | .close fd =>
      if s.handle = true ∧ s.openConn fd ≠ none then
        some { (wssKeepAliveRemoveClient s fd (s.openConn fd)).2 with
          openConn := Function.update s.openConn fd none }
      else none
  | .closePlain fd =>
      if s.handle = true ∧ s.openConn fd = none then
        some (wssKeepAliveRemoveClient s fd none).2
      else none
  | .stop =>
      if s.handle = true then some { wssKeepAliveStop s with handle := false } else none
  | .receive t =>
      match s.queue with
      | [] => none
      | item :: rest =>
          if s.mayRead t then
            some { s with
              task := s.task.receive item.action t
              queue := rest
              clock := t
              processed := (item, t) :: s.processed }
          else none
  | .timeout t =>
      if s.mayRead t then
        some { s with
          task := s.task.sweep t
          clock := t
          sweptAt := t
          called := s.called ++ (checkClients s.task.h t).1.map fun call => (call, t) }
      else none

/-- The send made by the step, if any, finds room in the queue. -/
def sendFits (s : System) (l : Label) : Prop :=
  l.issues.isSome → s.queue.length < s.queueSize

instance (s : System) (l : Label) : Decidable (sendFits s l) :=
  inferInstanceAs (Decidable (_ → _))

end Orchestrator.KeepAlive
