import Mathlib.Logic.Function.Basic
import Orchestrator.Lib.Run
import Orchestrator.State.OrchestratorState

/-!
# The handlers as sequences of atomic steps

The event-loop task handles Wi-Fi, IP and Thread events; the task of the HTTP
server handles clients and their commands. A setter and a copy hold the mutex,
and queueing a message is a step of its own, so that the two tasks interleave
between them. `AP_STOP` is left out: it stops the server and ends every
connection.
-/

namespace Orchestrator.State

open Lib

inductive Setter
  | wifiApRunning (running : Bool)
  | wifiStaConfigured (configured : Bool)
  | wifiStaConnected (connected : Bool) (ip : Option CStr)
  | threadEnabled (enabled : Bool)
  | threadAttached (attached : Bool)
  | threadRole (role : CStr)
  | threadDatasetPresent (present : Bool)
  | matterControllerInitialized (initialized : Bool)
  deriving DecidableEq, Repr

def Setter.apply : Setter → OrchestratorState → OrchestratorState
  | wifiApRunning running => .setWifiApRunning running
  | wifiStaConfigured configured => .setWifiStaConfigured configured
  | wifiStaConnected connected ip => .setWifiStaConnected connected ip
  | threadEnabled enabled => .setThreadEnabled enabled
  | threadAttached attached => .setThreadAttached attached
  | threadRole role => .setThreadRole role
  | threadDatasetPresent present => .setThreadDatasetPresent present
  | matterControllerInitialized initialized => .setMatterControllerInitialized initialized

/-- A step that no other task can observe half done. -/
inductive Op
  | set (setter : Setter)
  /-- The number of connected clients is read and set. -/
  | setClientCount
  /-- The locked copy of `orchestrator_state_to_json`. -/
  | copy
  /-- The serialized copy is queued to one client. -/
  | queue (fd : Int)
  /-- The list of connected clients is read; one queue step for each follows. -/
  | broadcast
  | broadcastEvent (event : CStr)
  | broadcastInfo (action : CStr)
  /-- The HTTP server frees the session after its close callback returned. -/
  | endSession (fd : Int)
  deriving DecidableEq, Repr

/-- `orchestrator_state_send_snapshot_to_client` -/
def sendSnapshotToClient (fd : Int) : List Op := [.copy, .queue fd]

/-- `orchestrator_state_broadcast_snapshot` -/
def broadcastSnapshot : List Op := [.copy, .broadcast]

/-! ## Events -/

inductive WifiEvent
  | staGotIp (ip : CStr)
  | otherIpEvent
  | staStart
  | staConnected
  | staDisconnected
  | apStart
  | apStaConnected
  | apStaDisconnected
  | other
  deriving DecidableEq, Repr

/-- `handle_wifi_event`; the server that `apStart` starts is already running. -/
def handleWifiEvent : WifiEvent → List Op
  | .staGotIp ip =>
      [.set (.wifiStaConnected true (some ip)), .broadcastEvent (CStr.lit "wifi.sta_got_ip"),
       .broadcastInfo (CStr.lit "wifi.sta_status")] ++ broadcastSnapshot
  | .otherIpEvent => []
  | .staStart => []
  | .staConnected =>
      [.set (.wifiStaConfigured true), .broadcastEvent (CStr.lit "wifi.sta_connected"),
       .broadcastInfo (CStr.lit "wifi.sta_status")] ++ broadcastSnapshot
  | .staDisconnected =>
      [.set (.wifiStaConnected false none), .broadcastEvent (CStr.lit "wifi.sta_disconnected"),
       .broadcastInfo (CStr.lit "wifi.sta_status")] ++ broadcastSnapshot
  | .apStart =>
      [.set (.wifiApRunning true), .broadcastEvent (CStr.lit "wifi.ap_started")] ++
        broadcastSnapshot
  | .apStaConnected => []
  | .apStaDisconnected => []
  | .other => []

inductive ThreadEvent
  | start
  | stop
  | ifUp
  | ifDown
  | attached
  | detached
  /-- The role string that was read, or `none` when reading it failed. -/
  | roleChanged (role : Option CStr)
  | gotIp6
  | lostIp6
  | multicastGroupJoin
  | multicastGroupLeave
  | publishMeshcopE
  | removeMeshcopE
  /-- Whether an active dataset was read. -/
  | datasetChanged (present : Bool)
  | other
  deriving DecidableEq, Repr

/-- A Thread event whose setter is followed by an event, an information message
and a snapshot. -/
def announce (setter : Setter) (event info : CStr) : List Op :=
  [.set setter, .broadcastEvent event, .broadcastInfo info] ++ broadcastSnapshot

/-- `handle_thread_event` -/
def handleThreadEvent : ThreadEvent → List Op
  | .start =>
      announce (.threadEnabled true) (CStr.lit "thread.enabled") (CStr.lit "thread.stack_status")
  | .stop =>
      announce (.threadEnabled false) (CStr.lit "thread.disabled") (CStr.lit "thread.stack_status")
  | .ifUp => [.broadcastInfo (CStr.lit "thread.interface_status")]
  | .ifDown => [.broadcastInfo (CStr.lit "thread.interface_status")]
  | .attached =>
      announce (.threadAttached true) (CStr.lit "thread.attached")
        (CStr.lit "thread.attachment_status")
  | .detached =>
      announce (.threadAttached false) (CStr.lit "thread.detached")
        (CStr.lit "thread.attachment_status")
  | .roleChanged (some role) =>
      announce (.threadRole role) (CStr.lit "thread.role_changed") (CStr.lit "thread.role")
  | .roleChanged none => []
  | .gotIp6 => [.broadcastInfo (CStr.lit "ipv6.unicast_addresses")]
  | .lostIp6 => [.broadcastInfo (CStr.lit "ipv6.unicast_addresses")]
  | .multicastGroupJoin => [.broadcastInfo (CStr.lit "ipv6.multicast_addresses")]
  | .multicastGroupLeave => [.broadcastInfo (CStr.lit "ipv6.multicast_addresses")]
  | .publishMeshcopE => [.broadcastInfo (CStr.lit "thread.meshcop_service")]
  | .removeMeshcopE => [.broadcastInfo (CStr.lit "thread.meshcop_service")]
  | .datasetChanged true =>
      announce (.threadDatasetPresent true) (CStr.lit "thread.dataset_changed")
        (CStr.lit "thread.active_dataset")
  | .datasetChanged false => []
  | .other => []

/-! ## Clients and commands -/

/-- `handle_websocket_client_event` with `WS_CLIENT_CONNECTED` -/
def handleClientConnected (fd : Int) : List Op :=
  [.setClientCount] ++ sendSnapshotToClient fd ++
    [.broadcastEvent (CStr.lit "websocket.client_connected")]

/-- `handle_websocket_client_event` with `WS_CLIENT_DISCONNECTED` -/
def handleClientDisconnected : List Op :=
  [.setClientCount, .broadcastEvent (CStr.lit "websocket.client_disconnected")] ++
    broadcastSnapshot

/-- The commands that touch the state or broadcast it, when they get that far. -/
inductive Command
  | controllerInitialized
  | registrySaved
  | other
  deriving DecidableEq, Repr

def handleCommand : Command → List Op
  | .controllerInitialized =>
      [.set (.matterControllerInitialized true),
       .broadcastEvent (CStr.lit "matter.controller_initialized")] ++ broadcastSnapshot
  | .registrySaved => [.broadcastEvent (CStr.lit "device.registry_changed")] ++ broadcastSnapshot
  | .other => []

/-! ## The two tasks -/

inductive TaskName
  | eventLoop
  | httpd
  deriving DecidableEq, Repr

def TaskName.other : TaskName → TaskName
  | eventLoop => httpd
  | httpd => eventLoop

/-- The rest of the handler a task is executing, and its last copy of the state. -/
structure Task where
  todo : List Op
  held : OrchestratorState

structure System where
  state : OrchestratorState
  /-- The descriptors of the connected WebSocket clients. -/
  clients : List Int
  /-- The payload of the last snapshot queued to a connection. -/
  last : Int → Option Json
  tasks : TaskName → Task

def start : System where
  state := orchestratorStateInit
  clients := []
  last := fun _ => none
  tasks := fun _ => ⟨[], orchestratorStateInit⟩

inductive Label
  | wifi (event : WifiEvent)
  | thread (event : ThreadEvent)
  /-- A session on a free descriptor becomes a WebSocket client. -/
  | connect (fd : Int)
  /-- The session of a client is closed. -/
  | disconnect (fd : Int)
  /-- A session that never became a client is closed, or a client sends a close frame. -/
  | disconnectOther
  | command (command : Command)
  /-- A task performs its next step. -/
  | run (task : TaskName)
  deriving DecidableEq, Repr

namespace System

def setTask (s : System) (name : TaskName) (task : Task) : System :=
  { s with tasks := Function.update s.tasks name task }

/-- An idle task starts to execute a handler. -/
def handle (s : System) (name : TaskName) (handler : List Op) : Option System :=
  if (s.tasks name).todo = [] then some (s.setTask name ⟨handler, (s.tasks name).held⟩) else none

def setState (s : System) (state : OrchestratorState) : System := { s with state := state }

/-- The step `op` of the task `name`, of which `rest` remains. -/
def perform (s : System) (name : TaskName) (op : Op) (rest : List Op) : System :=
  let held := (s.tasks name).held
  match op with
  | .set setter => (s.setState (setter.apply s.state)).setTask name ⟨rest, held⟩
  | .setClientCount =>
      (s.setState (s.state.setWebsocketClientCount s.clients.length)).setTask name ⟨rest, held⟩
  | .copy => s.setTask name ⟨rest, s.state⟩
  | .queue fd =>
      { s with last := Function.update s.last fd (some held.toJson) }.setTask name ⟨rest, held⟩
  | .broadcast => s.setTask name ⟨s.clients.map .queue ++ rest, held⟩
  | .broadcastEvent _ => s.setTask name ⟨rest, held⟩
  | .broadcastInfo _ => s.setTask name ⟨rest, held⟩
  | .endSession fd => { s with clients := s.clients.filter (· ≠ fd) }.setTask name ⟨rest, held⟩

end System

def step (s : System) : Label → Option System
  | .wifi event => s.handle .eventLoop (handleWifiEvent event)
  | .thread event => s.handle .eventLoop (handleThreadEvent event)
  | .connect fd =>
      if fd ∉ s.clients then
        { s with
          clients := s.clients ++ [fd]
          last := Function.update s.last fd none }.handle .httpd (handleClientConnected fd)
      else none
  | .disconnect fd =>
      if fd ∈ s.clients then s.handle .httpd (handleClientDisconnected ++ [.endSession fd])
      else none
  | .disconnectOther => s.handle .httpd handleClientDisconnected
  | .command command => s.handle .httpd (handleCommand command)
  | .run name =>
      match (s.tasks name).todo with
      | [] => none
      | op :: rest => some (s.perform name op rest)

end Orchestrator.State
