import Orchestrator.Lib.Run
import Orchestrator.Platform.Error

/-!
# The life of the WebSocket server and of its keep-alive handle

`keep_alive` is a static variable that `websocket_server_start` and
`websocket_server_stop` write and that the callbacks of the HTTP server read.
The log records every use of the handle, every stop of an instance and every
notification of the handlers, latest first.
-/

namespace Orchestrator.Server

open Lib

/-- An instance made by a successful `wss_keep_alive_start`. -/
abbrev WssKeepAlive := Nat

/-- The functions that dereference the handle they are given. -/
inductive KeepAliveFunction
  | addClient
  | removeClient
  | clientIsActive
  | setUserCtx
  deriving DecidableEq, Repr

inductive WsClientEvent
  | connected
  | disconnected
  deriving DecidableEq, Repr

/-- A session of the HTTP server: its descriptor and a number no other one has. -/
structure Session where
  fd : Int
  number : Nat
  deriving DecidableEq, Repr

inductive LogEntry
  /-- A call made with this value of `keep_alive`; `none` is the null pointer. -/
  | call (function : KeepAliveFunction) (handle : Option WssKeepAlive)
  /-- `wss_keep_alive_stop` on this instance. -/
  | told (handle : WssKeepAlive)
  | clientEvent (event : WsClientEvent) (session : Session)
  | message (session : Session)
  deriving DecidableEq, Repr

/-- The static variables, the open sessions and the log. -/
structure WebsocketServer where
  server : Bool
  keepAlive : Option WssKeepAlive
  messageHandler : Bool
  clientEventHandler : Bool
  /-- Every open session, with whether it has become a WebSocket client. -/
  sessions : List (Session × Bool)
  nextInstance : WssKeepAlive
  nextSession : Nat
  log : List LogEntry
  deriving DecidableEq, Repr

/-- `websocket_server_handlers_t`; a field says whether the pointer is non-null. -/
structure WebsocketServerHandlers where
  messageHandler : Bool
  clientEventHandler : Bool
  deriving DecidableEq, Repr

inductive FrameType
  | text
  | ping
  | pong
  | close
  | other
  deriving DecidableEq, Repr

def initial : WebsocketServer where
  server := false
  keepAlive := none
  messageHandler := false
  clientEventHandler := false
  sessions := []
  nextInstance := 0
  nextSession := 0
  log := []

namespace WebsocketServer

def emit (s : WebsocketServer) (entry : LogEntry) : WebsocketServer :=
  { s with log := entry :: s.log }

/-- A call of one of the `wss_keep_alive` functions with the static handle. -/
def callKeepAlive (s : WebsocketServer) (function : KeepAliveFunction) : WebsocketServer :=
  s.emit (.call function s.keepAlive)

def notifyClient (s : WebsocketServer) (event : WsClientEvent) (session : Session) :
    WebsocketServer :=
  if s.clientEventHandler then s.emit (.clientEvent event session) else s

def onClientClose (s : WebsocketServer) (session : Session) : WebsocketServer :=
  (s.callKeepAlive .removeClient).notifyClient .disconnected session

def processFrame (s : WebsocketServer) (type : FrameType) (session : Session) :
    WebsocketServer :=
  match type with
  | .text =>
      let s := s.callKeepAlive .clientIsActive
      if s.messageHandler then s.emit (.message session) else s
  | .ping => s.callKeepAlive .clientIsActive
  | .pong => s.callKeepAlive .clientIsActive
  | .close => (s.callKeepAlive .removeClient).notifyClient .disconnected session
  | .other => s

/-- `websocket_handler` on the request that upgrades a session. -/
def websocketHandlerGet (s : WebsocketServer) (session : Session) : WebsocketServer :=
  (s.callKeepAlive .addClient).notifyClient .connected session

/-- The guarded stop that both the failing start and the stop contain. -/
def stopKeepAlive (s : WebsocketServer) : WebsocketServer :=
  match s.keepAlive with
  | some h => { s.emit (.told h) with keepAlive := none }
  | none => s

/-- `wss_keep_alive_start` stores a new instance, or null when it fails. -/
def startKeepAlive (s : WebsocketServer) (starts : Bool) : WebsocketServer :=
  if starts then { s with keepAlive := some s.nextInstance, nextInstance := s.nextInstance + 1 }
  else { s with keepAlive := none }

/-- The static `server` is set, or cleared. -/
def setServer (s : WebsocketServer) (running : Bool) : WebsocketServer :=
  { s with server := running }

def installHandlers (s : WebsocketServer) (handlers : WebsocketServerHandlers) :
    WebsocketServer :=
  { s with
    messageHandler := handlers.messageHandler
    clientEventHandler := handlers.clientEventHandler }

/-- `websocket_server_start`, given the outcomes of `wss_keep_alive_start` and
`httpd_ssl_start`. -/
def websocketServerStart (s : WebsocketServer) (handlers : Option WebsocketServerHandlers)
    (keepAliveStarts : Bool) (httpdSslStart : EspResult Unit) :
    EspResult Unit × WebsocketServer :=
  if s.server = true then (.ok (), s)
  else
    match handlers with
    | none => (.error .invalidArg, s)
    | some h =>
        if h.messageHandler = false then (.error .invalidArg, s)
        else
          match httpdSslStart with
          | .error ret =>
              (.error ret, ((s.installHandlers h).startKeepAlive keepAliveStarts).stopKeepAlive)
          | .ok () =>
              (.ok (), (((s.installHandlers h).startKeepAlive keepAliveStarts).setServer
                true).callKeepAlive .setUserCtx)

/-- `httpd_ssl_stop` closes every open session through `on_client_close`. -/
def httpdSslStop (s : WebsocketServer) : WebsocketServer :=
  { (s.sessions.map Prod.fst).foldl onClientClose s with sessions := [] }

/-- `websocket_server_stop`, given the result of `httpd_ssl_stop`. The keep-alive
handle is cleared before the sessions are closed. -/
def websocketServerStop (s : WebsocketServer) (ret : EspResult Unit) :
    EspResult Unit × WebsocketServer :=
  if s.server = false then (.ok (), s)
  else (ret, (s.setServer false).stopKeepAlive.httpdSslStop.installHandlers ⟨false, false⟩)

end WebsocketServer

open WebsocketServer

/-- A call of the interface, or something the HTTP server does while it runs. -/
inductive Label
  | start (handlers : Option WebsocketServerHandlers) (keepAliveStarts : Bool)
      (httpdSslStart : EspResult Unit)
  | stop (httpdSslStop : EspResult Unit)
  /-- A session is accepted on a free descriptor. -/
  | accept (fd : Int)
  /-- The upgrade request of a session that is not a WebSocket client yet. -/
  | connect (session : Session)
  | frame (type : FrameType) (session : Session)
  | close (session : Session)

def step (s : WebsocketServer) : Label → Option WebsocketServer
  | .start handlers keepAliveStarts httpdSslStart =>
      some (s.websocketServerStart handlers keepAliveStarts httpdSslStart).2
  | .stop ret => some (s.websocketServerStop ret).2
  | .accept fd =>
      if s.server = true ∧ fd ∉ s.sessions.map (·.1.fd) then
        some { s with
          sessions := s.sessions ++ [(⟨fd, s.nextSession⟩, false)]
          nextSession := s.nextSession + 1 }
      else none
  | .connect session =>
      if (session, false) ∈ s.sessions then
        some { s.websocketHandlerGet session with
          sessions := s.sessions.map fun p => if p.1 = session then (session, true) else p }
      else none
  | .frame type session =>
      if (session, true) ∈ s.sessions then some (s.processFrame type session) else none
  | .close session =>
      if session ∈ s.sessions.map Prod.fst then
        some { s.onClientClose session with
          sessions := s.sessions.filter fun p => p.1 ≠ session }
      else none

end Orchestrator.Server
