import Orchestrator.Events.Chip
import Orchestrator.Events.Effects
import Orchestrator.Messages.Frames

/-!
# The device as a whole

What comes to the device from outside, and the handler that takes it. A run is a list of
inputs, each of which is handled to its end before the next one.
-/

namespace Orchestrator.System

open Lib Handler Server State Messages Commands Events

/-- The configuration of a build and the libraries it is linked with. -/
structure Firmware (E : Type) where
  config : Config
  platform : Platform
  espIp4addrNtoa : UInt32 → CStr
  reader : TlvReader E

inductive Input (E : Type)
  /-- A frame that the HTTP server hands to `websocket_handler`. -/
  | frame (frame : HttpdWsFrame) (fd : Int)
  /-- A session has been upgraded, or is being closed. -/
  | client (event : WsClientEvent) (fd : Int)
  | event (event : Event)
  | chip (event : ChipDeviceEvent)
  | attributeReport (nodeId : UInt64) (path : Events.AttributePath) (data : E)
  | subscribeDone (nodeId : UInt64) (subscriptionId : UInt32)
  /-- The HTTP server and OpenThread change by themselves. -/
  | elsewhere (sessions : List (Int × Bool)) (openThread : OpenThread)

namespace Firmware

variable {E : Type}

/-- The handlers that `wifi_event_handler.cpp` installs. -/
def handlers (f : Firmware E) : FrameHandlers where
  messageHandler := some (handleJsonInboundMessageOrNull f.config f.platform)
  clientEventHandler := some handleWebsocketClientEvent

def handle (f : Firmware E) : Input E → Handler Unit
  | .frame frame fd => call (receiveAndHandleFrame f.handlers frame fd)
  | .client event fd => handleWebsocketClientEvent event fd
  | .event event => handleEvent f.platform f.espIp4addrNtoa event
  | .chip event => handleChipDeviceEvent event
  | .attributeReport nodeId path data => attributeDataReportCallback f.reader nodeId path data
  | .subscribeDone nodeId subscriptionId => subscribeDoneCallback nodeId subscriptionId
  | .elsewhere sessions openThread => modifyBoard fun b =>
      { b with
        sessions := sessions
        openThread := openThread }

/-- The world after these inputs. -/
def run (f : Firmware E) (inputs : List (Input E)) (w : World) : World :=
  inputs.foldl (fun w input => (f.handle input w).2) w

end Firmware

/-- The input is a text frame with a payload. -/
def Input.IsMessage {E : Type} : Input E → Prop
  | .frame ⟨.text, payload⟩ _ => payload ≠ []
  | _ => False

/-- Nothing but the payload of the frame reaches the handlers. -/
theorem ofBytes_append_zero (payload : List UInt8) :
    CStr.ofBytes (payload ++ [0]) = CStr.ofBytes payload := by
  apply CStr.ext
  exact CStr.beforeNul_append_zero payload

end Orchestrator.System
