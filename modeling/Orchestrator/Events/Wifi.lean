import Orchestrator.Messages.Outbound
import Orchestrator.Server.Lifecycle

/-!
# Handling Wi-Fi and IP events

`wifi_event_handler.cpp`, with what the start and the stop of the WebSocket server do to
the board. The keep-alive task has no part in it.
-/

namespace Orchestrator.Events

open Lib Handler Server State Messages

/-- A call whose result is not looked at. -/
def call {α : Type} (m : Esp α) : Handler Unit := do
  let _ ← (m.run : Handler (EspResult α))
  return ⟨⟩

/-- One of the setters of the mirrored state. -/
def setState (set : OrchestratorState → OrchestratorState) : Handler Unit :=
  modifyBoard fun b => { b with state := set b.state }

/-! ## Clients -/

/-- `websocket_server_client_count` -/
def websocketServerClientCount : Handler Nat := do
  let board ← getBoard
  if board.running = false then return 0
  else
    match ← httpdOutcome with
    | some _ => return 0
    | none => return (websocketClients board.sessions).length

/-- The payload with the number of clients, or null. -/
def clientsPayload : Handler (Option Json) := do
  match ← allocate cJSONCreateObject with
  | none => return none
  | some payload =>
      let count ← websocketServerClientCount
      return some (← allocate (addFields payload [(CStr.lit "clients", .number count)]))

/-- `handle_websocket_client_event` -/
def handleWebsocketClientEvent (event : WsClientEvent) (clientFd : Int) : Handler Unit := do
  let count ← websocketServerClientCount
  setState (.setWebsocketClientCount count)
  match event with
  | .connected =>
      call (orchestratorStateSendSnapshotToClient clientFd)
      let payload ← clientsPayload
      call (orchestratorStateBroadcastEvent (CStr.lit "websocket.client_connected") payload)
  | .disconnected =>
      let payload ← clientsPayload
      call (orchestratorStateBroadcastEvent (CStr.lit "websocket.client_disconnected") payload)
      call orchestratorStateBroadcastSnapshot

/-! ## The server -/

/-- `websocket_server_start` with the handlers of the program. -/
def websocketServerStart : Esp Unit := do
  if (← getBoard).running then return
  else
    match ← httpdOutcome with
    | some err => throw err
    | none => modifyBoard fun b => { b with running := true }

/-- `httpd_ssl_stop` closes one session after the other through `on_client_close`. -/
def closeSessions : List (Int × Bool) → Handler Unit
  | [] => return
  | (fd, _) :: sessions => do
      handleWebsocketClientEvent .disconnected fd
      closeSessions sessions

/-- `websocket_server_stop`, which clears the handle of the server first. -/
def websocketServerStop : Esp Unit := do
  let board ← getBoard
  if board.running = false then return
  else
    modifyBoard fun b => { b with running := false }
    closeSessions board.sessions
    modifyBoard fun b => { b with sessions := [] }
    match ← httpdOutcome with
    | some err => throw err
    | none => return

/-! ## Events -/

inductive WifiEvent
  /-- `IP_EVENT_STA_GOT_IP` with the address. -/
  | staGotIp (ip : UInt32)
  | staLostIp
  | otherIpEvent
  | staStart
  | staConnected
  | staDisconnected
  | apStart
  | apStop
  | apStaConnected
  | apStaDisconnected
  | other
  deriving DecidableEq, Repr

/-- A change of the state: the setter, the event, a call of its own and the snapshot. -/
def announce (set : OrchestratorState → OrchestratorState) (event : String) (m : Esp Unit) :
    Handler Unit := do
  setState set
  call (orchestratorStateBroadcastEvent (CStr.lit event) none)
  call m
  call orchestratorStateBroadcastSnapshot

/-- `handle_wifi_event`; `esp_ip4addr_ntoa` prints an address into 16 bytes. -/
def handleWifiEvent (espIp4addrNtoa : UInt32 → CStr) : WifiEvent → Handler Unit
  | .staGotIp ip =>
      announce (.setWifiStaConnected true (some (espIp4addrNtoa ip))) "wifi.sta_got_ip"
        (broadcastInfoWifiStatusMessage "got_ip")
  -- the default case of the IP events
  | .staLostIp => return
  | .otherIpEvent => return
  | .staStart => return
  | .staConnected =>
      announce (.setWifiStaConfigured true) "wifi.sta_connected"
        (broadcastInfoWifiStatusMessage "connected")
  | .staDisconnected =>
      announce (.setWifiStaConnected false none) "wifi.sta_disconnected"
        (broadcastInfoWifiStatusMessage "disconnect")
  | .apStart => announce (.setWifiApRunning true) "wifi.ap_started" websocketServerStart
  | .apStop => announce (.setWifiApRunning false) "wifi.ap_stopped" websocketServerStop
  | .apStaConnected => return
  | .apStaDisconnected => return
  | .other => return

end Orchestrator.Events
