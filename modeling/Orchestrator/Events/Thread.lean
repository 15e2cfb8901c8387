import Orchestrator.Events.Wifi

/-!
# Handling Thread events

`thread_event_handler.cpp`
-/

namespace Orchestrator.Events

open Lib Handler State Messages Commands

inductive ThreadEvent
  | start
  | stop
  | ifUp
  | ifDown
  | attached
  | detached
  | roleChanged
  | gotIp6
  | lostIp6
  | multicastGroupJoin
  | multicastGroupLeave
  | publishMeshcopE
  | removeMeshcopE
  | datasetChanged
  | other
  deriving DecidableEq, Repr

/-- The rest of the handler after an answer of the stack; without one it only logs. -/
def whenOk {α : Type} (m : Esp α) (k : α → Handler Unit) : Handler Unit := do
  match ← (m.run : Handler (EspResult α)) with
  | .ok a => k a
  | .error _ => return

/-- What `OPENTHREAD_EVENT_ROLE_CHANGED` does with the role. -/
def announceRole (role : CStr) : Handler Unit := do
  setState (.setThreadRole role)
  let payload ← allocate (createObject [(CStr.lit "role", .string role)])
  call (orchestratorStateBroadcastEvent (CStr.lit "thread.role_changed") payload)
  call (broadcastInfoThreadRoleMessage role)
  call orchestratorStateBroadcastSnapshot

/-- `handle_thread_event` -/
def handleThreadEvent (p : Platform) : ThreadEvent → Handler Unit
  | .start =>
      announce (.setThreadEnabled true) "thread.enabled"
        (broadcastInfoThreadStackStatusMessage true)
  | .stop =>
      announce (.setThreadEnabled false) "thread.disabled"
        (broadcastInfoThreadStackStatusMessage false)
  | .ifUp => call (broadcastInfoThreadInterfaceStatusMessage true)
  | .ifDown => call (broadcastInfoThreadInterfaceStatusMessage false)
  | .attached =>
      announce (.setThreadAttached true) "thread.attached"
        (broadcastInfoThreadAttachmentStatusMessage true)
  | .detached =>
      announce (.setThreadAttached false) "thread.detached"
        (broadcastInfoThreadAttachmentStatusMessage false)
  | .roleChanged => whenOk (threadGetDeviceRoleString p) announceRole
  | .gotIp6 | .lostIp6 =>
      whenOk (threadGetAddresses OpenThread.unicastAddresses) fun addresses =>
        call (broadcastInfoUnicastAddressesMessage addresses)
  | .multicastGroupJoin | .multicastGroupLeave =>
      whenOk (threadGetAddresses OpenThread.multicastAddresses) fun addresses =>
        call (broadcastInfoMulticastAddressesMessage addresses)
  | .publishMeshcopE => call (broadcastInfoMeshcopServiceStatusMessage true)
  | .removeMeshcopE => call (broadcastInfoMeshcopServiceStatusMessage false)
  | .datasetChanged =>
      whenOk threadGetActiveDataset fun dataset =>
        announce (.setThreadDatasetPresent true) "thread.dataset_changed"
          (broadcastInfoActiveDatasetMessage dataset)
  | .other => return

end Orchestrator.Events
