import Orchestrator.Platform.Json

/-!
# The mirrored state and its snapshot

The mutex exists from `orchestrator_state_init` on, which runs before any
handler is registered, so that the setters and the copy always take it.
-/

namespace Orchestrator

open Lib

structure WifiState where
  apRunning : Bool
  staConfigured : Bool
  staConnected : Bool
  staIp : CharArray 16
  rssi : Int
  deriving DecidableEq, Repr

structure ThreadState where
  enabled : Bool
  attached : Bool
  role : CharArray 16
  datasetPresent : Bool
  deriving DecidableEq, Repr

structure MatterState where
  controllerInitialized : Bool
  commissionedNodeCount : Nat
  deriving DecidableEq, Repr

structure WebsocketState where
  clientCount : Nat
  deriving DecidableEq, Repr

structure OrchestratorState where
  wifi : WifiState
  thread : ThreadState
  matter : MatterState
  websocket : WebsocketState
  deriving DecidableEq, Repr

/-- `copy_string`, which copies the empty string from a null pointer. -/
def copyString (len : Nat) (src : Option CStr) : CharArray len :=
  CharArray.copyField len (src.getD default)

/-- The state that `orchestrator_state_init` leaves. -/
def orchestratorStateInit : OrchestratorState where
  wifi :=
    { apRunning := false
      staConfigured := false
      staConnected := false
      staIp := Vector.replicate 16 0
      rssi := 0 }
  thread :=
    { enabled := false
      attached := false
      role := copyString 16 (some (CStr.lit "disabled"))
      datasetPresent := false }
  matter := { controllerInitialized := false, commissionedNodeCount := 0 }
  websocket := { clientCount := 0 }

namespace OrchestratorState

def setWifiApRunning (running : Bool) (s : OrchestratorState) : OrchestratorState :=
  { s with wifi.apRunning := running }

def setWifiStaConfigured (configured : Bool) (s : OrchestratorState) : OrchestratorState :=
  { s with wifi.staConfigured := configured }

def setWifiStaConnected (connected : Bool) (ip : Option CStr) (s : OrchestratorState) :
    OrchestratorState :=
  { s with
    wifi.staConnected := connected
    wifi.staIp := copyString 16 (if connected then ip else some (CStr.lit "")) }

def setThreadEnabled (enabled : Bool) (s : OrchestratorState) : OrchestratorState :=
  { s with thread.enabled := enabled }

def setThreadAttached (attached : Bool) (s : OrchestratorState) : OrchestratorState :=
  { s with thread.attached := attached }

def setThreadRole (role : CStr) (s : OrchestratorState) : OrchestratorState :=
  { s with thread.role := copyString 16 (some role) }

def setThreadDatasetPresent (present : Bool) (s : OrchestratorState) : OrchestratorState :=
  { s with thread.datasetPresent := present }

def setMatterControllerInitialized (initialized : Bool) (s : OrchestratorState) :
    OrchestratorState :=
  { s with matter.controllerInitialized := initialized }

def setWebsocketClientCount (count : Nat) (s : OrchestratorState) : OrchestratorState :=
  { s with websocket.clientCount := count }

end OrchestratorState

/-! ## The snapshot -/

namespace WifiState

def fields (wifi : WifiState) : List (CStr × Json) :=
  [(CStr.lit "mode", .string (CStr.lit "apsta")),
   (CStr.lit "ap_running", .bool wifi.apRunning),
   (CStr.lit "sta_configured", .bool wifi.staConfigured),
   (CStr.lit "sta_connected", .bool wifi.staConnected),
   (CStr.lit "sta_ip",
    if wifi.staConnected ∧ wifi.staIp.toCStr.isEmpty = false then .string wifi.staIp.toCStr
    else .null),
   (CStr.lit "rssi", if wifi.staConnected then .number wifi.rssi else .null)]

end WifiState

namespace ThreadState

def fields (thread : ThreadState) : List (CStr × Json) :=
  [(CStr.lit "enabled", .bool thread.enabled),
   (CStr.lit "attached", .bool thread.attached),
   (CStr.lit "role", .string
    (if thread.role.toCStr.isEmpty then CStr.lit "disabled" else thread.role.toCStr)),
   (CStr.lit "dataset_present", .bool thread.datasetPresent)]

end ThreadState

namespace MatterState

/-- The list of nodes is never filled. -/
def fields (matter : MatterState) : List (CStr × Json) :=
  [(CStr.lit "controller_initialized", .bool matter.controllerInitialized),
   (CStr.lit "commissioned_nodes", .array [])]

end MatterState

namespace WebsocketState

def fields (websocket : WebsocketState) : List (CStr × Json) :=
  [(CStr.lit "clients", .number websocket.clientCount)]

end WebsocketState

/-- `snapshot_to_json` -/
def snapshotToJson (snapshot : OrchestratorState) : Alloc (Option Json) := do
  match ← cJSONCreateObject with
  | none => return none
  | some root =>
      let root ← addObjectToObject root (CStr.lit "wifi") snapshot.wifi.fields
      let root ← addObjectToObject root (CStr.lit "thread") snapshot.thread.fields
      let root ← addObjectToObject root (CStr.lit "matter") snapshot.matter.fields
      let root ← addObjectToObject root (CStr.lit "websocket") snapshot.websocket.fields
      return some root

/-- The snapshot of a state when no allocation fails. -/
def OrchestratorState.toJson (s : OrchestratorState) : Json :=
  .object
    [(CStr.lit "wifi", .object s.wifi.fields), (CStr.lit "thread", .object s.thread.fields),
     (CStr.lit "matter", .object s.matter.fields),
     (CStr.lit "websocket", .object s.websocket.fields)]

theorem snapshotToJson_yields (s : OrchestratorState) :
    (snapshotToJson s).Yields (some s.toJson) := by
  apply Keeps.bind cJSONCreateObject_yields
  rintro _ rfl
  apply Keeps.bind (addObjectToObject_yields _ _ _)
  rintro _ rfl
  apply Keeps.bind (addObjectToObject_yields _ _ _)
  rintro _ rfl
  apply Keeps.bind (addObjectToObject_yields _ _ _)
  rintro _ rfl
  apply Keeps.bind (addObjectToObject_yields _ _ _)
  rintro _ rfl
  exact Keeps.pure rfl

/-! ## The strings of a snapshot -/

/-- The strings that came into the state from outside. -/
structure OrchestratorState.Strings (P : CStr → Prop) (s : OrchestratorState) : Prop where
  staIp : P s.wifi.staIp.toCStr
  role : P s.thread.role.toCStr

variable {P : CStr → Prop}

theorem WifiState.fieldStrings (ht : Texts P) {wifi : WifiState} (h : P wifi.staIp.toCStr) :
    FieldStrings P wifi.fields := by
  have hip : (if wifi.staConnected ∧ wifi.staIp.toCStr.isEmpty = false
      then Json.string wifi.staIp.toCStr else .null).AllStrings P := by
    split
    · exact .string h
    · exact .null
  have hrssi : (if wifi.staConnected then Json.number wifi.rssi else .null).AllStrings P := by
    split
    · exact .number _
    · exact .null
  exact .cons (ht.lit _) (.string (ht.lit _)) <| .cons (ht.lit _) (.bool _) <|
    .cons (ht.lit _) (.bool _) <| .cons (ht.lit _) (.bool _) <| .cons (ht.lit _) hip <|
    .cons (ht.lit _) hrssi .nil

theorem ThreadState.fieldStrings (ht : Texts P) {thread : ThreadState}
    (h : P thread.role.toCStr) : FieldStrings P thread.fields := by
  have hrole : P (if thread.role.toCStr.isEmpty then CStr.lit "disabled"
      else thread.role.toCStr) := by
    split
    · exact ht.lit _
    · exact h
  exact .cons (ht.lit _) (.bool _) <| .cons (ht.lit _) (.bool _) <|
    .cons (ht.lit _) (.string hrole) <| .cons (ht.lit _) (.bool _) .nil

theorem snapshotToJson_built (ht : Texts P) {s : OrchestratorState} (hs : s.Strings P) :
    (snapshotToJson s).Always fun out => ∀ o ∈ out, Built P o := by
  intro A hA
  apply Keeps.bind (cJSONCreateObject_built A hA)
  rintro (- | root) hroot
  · apply Keeps.pure
    rintro o ⟨⟩
  · apply Keeps.bind (addObjectToObject_built (hroot root rfl) (ht.lit _)
      (WifiState.fieldStrings ht hs.staIp) A hA)
    intro root hroot
    apply Keeps.bind (addObjectToObject_built hroot (ht.lit _)
      (ThreadState.fieldStrings ht hs.role) A hA)
    intro root hroot
    apply Keeps.bind (addObjectToObject_built hroot (ht.lit _)
      (.cons (ht.lit _) (.bool _) <| .cons (ht.lit _) .empty .nil) A hA)
    intro root hroot
    apply Keeps.bind (addObjectToObject_built hroot (ht.lit _)
      (.cons (ht.lit _) (.number _) .nil) A hA)
    intro root hroot
    apply Keeps.pure
    rintro o ⟨⟩
    exact hroot

end Orchestrator
