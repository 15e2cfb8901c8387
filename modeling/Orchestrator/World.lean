import Orchestrator.Platform.Error
import Orchestrator.State.OrchestratorState

/-!
# The world the handlers act on

A handler is a computation over the world: the board, which holds what the
program keeps or hands over, and the outcomes of the calls it is going to make.
A call that can fail takes the next outcome of its kind.
-/

namespace Orchestrator

open Lib

/-- A failure of an NVS call. A missing namespace or key is not one: the calls
report it themselves. -/
structure NvsFailure where
  err : EspErr
  ne_notFound : err ≠ EspErr.nvsNotFound

/-- The `dev_registry` namespace with its only key, `records`. -/
structure RegistryNvs where
  /-- The namespace, once it exists, and the blob of the key, once it is set. -/
  stored : Option (Option (List UInt8))
  /-- Set through the open handle and not committed yet. -/
  staged : Option (List UInt8)

/-- The `wifi_config` namespace. -/
structure WifiNvs where
  staSsid : Option CStr
  staPassword : Option CStr
  apSsid : Option CStr
  apPassword : Option CStr

/-- `otOperationalDataset`, with the components that the program reads or sets. -/
structure OperationalDataset where
  activeTimestamp : UInt64
  networkName : CStr
  extendedPanId : Vector UInt8 8
  meshLocalPrefix : Vector UInt8 8
  networkKey : Vector UInt8 16
  pskc : Vector UInt8 16
  panId : UInt16
  channel : UInt16
  deriving DecidableEq, Repr

inductive OtDeviceRole
  | disabled
  | detached
  | child
  | router
  | leader
  deriving DecidableEq, Repr

/-- What the OpenThread stack answers when it is asked. -/
structure OpenThread where
  instanceExists : Bool
  role : OtDeviceRole
  activeDataset : Option OperationalDataset
  activeDatasetTlvs : Option (List UInt8)
  unicastAddresses : List CStr
  multicastAddresses : List CStr

/-- What the program hands to the Thread, Wi-Fi and Matter stacks. -/
inductive Request
  | ip6SetEnabled (enabled : Bool)
  | threadSetEnabled (enabled : Bool)
  | datasetSetActive (dataset : OperationalDataset)
  | borderRouterInit
  | borderRouterDeinit
  | wifiStop
  | wifiSetModeApsta
  | wifiSetApConfig (ssid password : CStr)
  | wifiStart
  | wifiDisconnect
  | wifiSetConfig (ssid password : CStr)
  | wifiConnect
  | controllerInit (nodeId fabricId : UInt64) (listenPort : UInt16)
  | setupCommissioner
  | pairingBleThread (nodeId : UInt64) (pin : UInt32) (discriminator : UInt16)
      (dataset : List UInt8)
  | invokeCluster (destinationId : UInt64) (endpointId : UInt16) (clusterId commandId : UInt32)
      (commandData : CStr)
  | readAttribute (nodeId : UInt64) (endpointId : UInt16) (clusterId attributeId : UInt32)
  | subscribeAttribute (nodeId : UInt64) (endpointId : UInt16) (clusterId attributeId : UInt32)
      (minInterval maxInterval : UInt16) (autoResubscribe : Bool)
  deriving DecidableEq, Repr

/-- What the program keeps, and what it has handed over. -/
structure Board where
  registry : RegistryNvs
  wifi : WifiNvs
  state : OrchestratorState
  /-- `websocket_server_is_running` -/
  running : Bool
  /-- The open sessions, and whether each has become a WebSocket client. -/
  sessions : List (Int × Bool)
  openThread : OpenThread
  /-- The text frames queued to clients, each as the tree it was printed from. -/
  outbox : List (Int × Json)
  requests : List Request

structure World where
  board : Board
  /-- The failures of NVS calls so far. -/
  nvsFailures : List EspErr
  /-- The allocations of cJSON. -/
  allocs : Stream' Bool
  /-- The allocations of the program itself. -/
  heap : Stream' Bool
  nvs : Stream' (Option NvsFailure)
  httpd : Stream' (Option EspErr)
  stack : Stream' (Option EspErr)

/-- The board after `orchestrator_state_init` on erased flash. -/
def Board.erased : Board where
  registry := { stored := none, staged := none }
  wifi := { staSsid := none, staPassword := none, apSsid := none, apPassword := none }
  state := orchestratorStateInit
  running := false
  sessions := []
  openThread :=
    { instanceExists := false
      role := .disabled
      activeDataset := none
      activeDatasetTlvs := none
      unicastAddresses := []
      multicastAddresses := [] }
  outbox := []
  requests := []

/-- A world in which no call will fail. -/
def World.calm (board : Board) : World where
  board := board
  nvsFailures := []
  allocs := allSucceed
  heap := allSucceed
  nvs := Stream'.const none
  httpd := Stream'.const none
  stack := Stream'.const none

abbrev Handler (α : Type) := StateM World α

/-- A function that returns `esp_err_t`. -/
abbrev Esp (α : Type) := ExceptT EspErr (StateM World) α

namespace Handler

/-- A computation that only builds JSON. -/
def allocate {α : Type} (m : Alloc α) : Handler α :=
  modifyGet fun w => ((m w.allocs).1, { w with allocs := (m w.allocs).2 })

/-- `malloc` and its kin, and whether it succeeds. -/
def malloc : Handler Bool :=
  modifyGet fun w => (w.heap.head, { w with heap := w.heap.tail })

/-- The outcome of the next NVS call, with its failure on record. -/
def nvsOutcome : Handler (Option EspErr) :=
  modifyGet fun w => match w.nvs.head with
    | none => (none, { w with nvs := w.nvs.tail })
    | some failure =>
        (some failure.err,
          { w with nvs := w.nvs.tail, nvsFailures := w.nvsFailures ++ [failure.err] })

/-- The outcome of the next call of the HTTP server. -/
def httpdOutcome : Handler (Option EspErr) :=
  modifyGet fun w => (w.httpd.head, { w with httpd := w.httpd.tail })

/-- The outcome of the next call into another stack. -/
def stackOutcome : Handler (Option EspErr) :=
  modifyGet fun w => (w.stack.head, { w with stack := w.stack.tail })

def getBoard : Handler Board := do return (← get).board

def modifyBoard (f : Board → Board) : Handler Unit :=
  modify fun w => { w with board := f w.board }

/-- A call whose result is ignored. -/
def ignore {α : Type} (m : Esp α) : Esp Unit := ExceptT.mk do
  let _ ← m.run
  return .ok ⟨⟩

/-- Something is handed to another stack. -/
def hand (request : Request) : Handler Unit :=
  modifyBoard fun b => { b with requests := b.requests ++ [request] }

end Handler

/-! ## Rules for the calls -/

/-- A predicate on worlds that the outcomes still to come matter for only as far
as all of one kind are alike. -/
structure Unforeseen (I : World → Prop) : Prop where
  allocs : ∀ w, I w → I { w with allocs := w.allocs.tail }
  heap : ∀ w, I w → I { w with heap := w.heap.tail }
  httpd : ∀ w, I w → I { w with httpd := w.httpd.tail }
  stack : ∀ w, I w → I { w with stack := w.stack.tail }

/-- The failures of NVS calls do not matter either. -/
structure UnforeseenNvs (I : World → Prop) : Prop extends Unforeseen I where
  nvs : ∀ w f, I w → I { w with nvs := w.nvs.tail, nvsFailures := f }

theorem unforeseen_board (P : Board → Prop) : UnforeseenNvs fun w => P w.board where
  allocs _ h := h
  heap _ h := h
  nvs _ _ h := h
  httpd _ h := h
  stack _ h := h

theorem Handler.bind_apply {α β : Type} (m : Handler α) (f : α → Handler β) (w : World) :
    (m >>= f) w = f (m w).1 (m w).2 := rfl

/-- The NVS call after the next `k` ones succeeds. -/
def World.nvsPasses (w : World) (k : Nat) : Bool := (w.nvs.get k).isNone

theorem Handler.nvsOutcome_apply (w : World) : ∃ failures, Handler.nvsOutcome w =
    ((w.nvs.head).map NvsFailure.err, { w with nvs := w.nvs.tail, nvsFailures := failures }) := by
  unfold Handler.nvsOutcome
  simp only [modifyGet, MonadStateOf.modifyGet, StateT.modifyGet]
  cases w.nvs.head with
  | none => exact ⟨w.nvsFailures, rfl⟩
  | some failure => exact ⟨w.nvsFailures ++ [failure.err], rfl⟩

/-- Without failures an allocation leaves the world as it is. -/
theorem Handler.allocate_eq {α : Type} {m : Alloc α} {a : α} {w : World}
    (hw : w.allocs = allSucceed) (hm : m.Yields a) : Handler.allocate m w = (a, w) := by
  have heq : m w.allocs = (a, w.allocs) := by rw [hw, hm.eq]
  show ((m w.allocs).1, { w with allocs := (m w.allocs).2 }) = (a, w)
  rw [heq]

namespace Unforeseen

variable {I : World → Prop} {α : Type} {Q : α → Prop}

theorem allocate (hI : Unforeseen I) {m : Alloc α} (hm : m.Always Q) :
    Keeps I (Handler.allocate m) Q := by
  intro w hw
  exact hm (fun s => I { w with allocs := s }) (fun s hs => hI.allocs _ hs) w.allocs hw

/-- When every allocation is known to succeed the result is known. -/
theorem allocate_yields {m : Alloc α} {a : α} (hall : ∀ w, I w → w.allocs = allSucceed)
    (hm : m.Yields a) : Keeps I (Handler.allocate m) fun r => r = a := by
  intro w hw
  rw [Handler.allocate_eq (hall w hw) hm]
  exact ⟨hw, rfl⟩

theorem malloc (hI : Unforeseen I) : Keeps I Handler.malloc fun _ => True :=
  fun w hw => ⟨hI.heap w hw, trivial⟩

theorem httpdOutcome (hI : Unforeseen I) : Keeps I Handler.httpdOutcome fun _ => True :=
  fun w hw => ⟨hI.httpd w hw, trivial⟩

theorem stackOutcome (hI : Unforeseen I) : Keeps I Handler.stackOutcome fun _ => True :=
  fun w hw => ⟨hI.stack w hw, trivial⟩

end Unforeseen

theorem UnforeseenNvs.nvsOutcome {I : World → Prop} (hI : UnforeseenNvs I) :
    Keeps I Handler.nvsOutcome fun err => ∀ e ∈ err, e ≠ EspErr.nvsNotFound := by
  intro w hw
  unfold Handler.nvsOutcome
  simp only [modifyGet, MonadStateOf.modifyGet, StateT.modifyGet]
  cases hhead : w.nvs.head with
  | none => exact ⟨hI.nvs w w.nvsFailures hw, nofun⟩
  | some failure =>
      refine ⟨hI.nvs w _ hw, ?_⟩
      rintro e ⟨⟩
      exact failure.ne_notFound

/-- What the board satisfies when it is read. -/
theorem getBoard_keeps {I : World → Prop} {Q : Board → Prop} (h : ∀ w, I w → Q w.board) :
    Keeps I Handler.getBoard Q :=
  fun w hw => ⟨hw, h w hw⟩

theorem modifyBoard_keeps {I : World → Prop} {f : Board → Board}
    (h : ∀ w, I w → I { w with board := f w.board }) :
    Keeps I (Handler.modifyBoard f) fun _ => True :=
  fun w hw => ⟨h w hw, trivial⟩

/-! ## Fallible functions -/

namespace Esp

variable {I : World → Prop} {α β : Type} {Q : α → Prop} {R : β → Prop}

/-- A call that cannot fail, and the rest of the function. -/
theorem run_liftM_bind {m : Handler α} {f : α → Esp β} {a : α} {w w' : World}
    (hm : m w = (a, w')) : (liftM m >>= f : Esp β).run w = (f a).run w' := by
  rw [ExceptT.run_bind, ExceptT.run_liftM, bind_map_left, Handler.bind_apply, hm]

theorem run_liftM_of {m : Handler α} {a : α} {w w' : World} (hm : m w = (a, w')) :
    (liftM m : Esp α).run w = (.ok a, w') := by
  rw [ExceptT.run_liftM]
  exact congrArg (fun r : α × World => (Except.ok r.1, r.2)) hm

/-- A call that succeeded, and the rest of the function. -/
theorem run_bind_ok {m : Esp α} {f : α → Esp β} {a : α} {w w' : World}
    (hm : m.run w = (.ok a, w')) : (m >>= f).run w = (f a).run w' := by
  rw [ExceptT.run_bind, Handler.bind_apply, hm]

/-- A call that failed is the end of the function. -/
theorem run_bind_error {m : Esp α} {f : α → Esp β} {err : EspErr} {w w' : World}
    (hm : m.run w = (.error err, w')) : (m >>= f).run w = (.error err, w') := by
  rw [ExceptT.run_bind, Handler.bind_apply, hm]
  rfl

theorem run_tryCatch_ok {m : Esp α} {handler : EspErr → Esp α} {a : α} {w w' : World}
    (hm : m.run w = (.ok a, w')) : (MonadExcept.tryCatch m handler).run w = (.ok a, w') := by
  rw [ExceptT.run_tryCatch, Handler.bind_apply, hm]
  rfl

/-- The function keeps `I`, and the value it returns on success satisfies `Q`. -/
def Keeps (I : World → Prop) (m : Esp α) (Q : α → Prop) : Prop :=
  Lib.Keeps I (m.run : Handler (EspResult α)) fun r => ∀ a, r = .ok a → Q a

theorem Keeps.bind {m : Esp α} {f : α → Esp β} (hm : Keeps I m Q)
    (hf : ∀ a, Q a → Keeps I (f a) R) : Keeps I (m >>= f) R := by
  unfold Keeps
  rw [ExceptT.run_bind]
  apply Lib.Keeps.bind hm
  rintro (err | a) ha
  · apply Lib.Keeps.pure
    rintro b ⟨⟩
  · exact hf a (ha a rfl)

/-- The rest of the function runs only after a call that succeeded. -/
theorem Keeps.bind_run {m : Esp α} {f : α → Esp β} {w : World} (hw : I w) (hm : Keeps I m Q)
    (hf : ∀ a, (m.run w).1 = .ok a → Q a → Keeps I (f a) R) : I ((m >>= f).run w).2 := by
  rw [ExceptT.run_bind, Handler.bind_apply]
  have hkept := hm w hw
  cases hr : (m.run w).1 with
  | error err => exact hkept.1
  | ok a => exact (hf a hr (hkept.2 a hr) _ hkept.1).1

theorem Keeps.weaken {Q' : α → Prop} {m : Esp α} (hm : Keeps I m Q) (h : ∀ a, Q a → Q' a) :
    Keeps I m Q' :=
  Lib.Keeps.weaken hm fun _ hr a heq => h a (hr a heq)

theorem Keeps.pure {a : α} (h : Q a) : Keeps I (pure a : Esp α) Q := by
  apply Lib.Keeps.pure
  rintro b ⟨⟩
  exact h

theorem Keeps.throw {err : EspErr} : Keeps I (throw err : Esp α) Q := by
  apply Lib.Keeps.pure
  rintro b ⟨⟩

theorem Keeps.tryCatch {m : Esp α} {handler : EspErr → Esp α} (hm : Keeps I m Q)
    (hhandler : ∀ e, Keeps I (handler e) Q) : Keeps I (MonadExcept.tryCatch m handler) Q := by
  unfold Keeps
  rw [ExceptT.run_tryCatch]
  apply Lib.Keeps.bind hm
  rintro (err | a) ha
  · exact hhandler err
  · apply Lib.Keeps.pure
    rintro b ⟨⟩
    exact ha a rfl

theorem Keeps.ignore {m : Esp α} (hm : Keeps I m Q) :
    Keeps I (Handler.ignore m) fun _ => True :=
  Lib.Keeps.bind hm fun _ _ => Keeps.pure trivial

theorem Keeps.lift {m : Handler α} (hm : Lib.Keeps I m Q) : Keeps I (liftM m : Esp α) Q := by
  apply Lib.Keeps.map hm
  rintro a ha b ⟨⟩
  exact ha

/-- Where the function ends when it succeeds. -/
def Ends (P : World → Prop) (m : Esp α) (T : α → World → Prop) : Prop :=
  Triple P (m.run : Handler (EspResult α)) fun r w => ∀ a, r = .ok a → T a w

namespace Ends

variable {P : World → Prop} {T : α → World → Prop} {U : β → World → Prop}

theorem bind {m : Esp α} {f : α → Esp β} (hm : Ends P m T) (hf : ∀ a, Ends (T a) (f a) U) :
    Ends P (m >>= f) U := by
  unfold Ends
  rw [ExceptT.run_bind]
  refine Triple.bind hm ?_
  rintro (err | a) w hw
  · rintro b ⟨⟩
  · exact hf a w (hw a rfl)

theorem pure {a : α} (h : ∀ w, P w → T a w) : Ends P (pure a : Esp α) T := by
  rintro w hw b ⟨⟩
  exact h w hw

theorem throw {err : EspErr} : Ends P (throw err : Esp α) T := by
  rintro w - b ⟨⟩

theorem lift {m : Handler α} (hm : Triple P m T) : Ends P (liftM m : Esp α) T := by
  rintro w hw a ⟨⟩
  exact hm w hw

/-- What is kept is the precondition of the rest. -/
theorem bindKeeps {m : Esp α} {f : α → Esp β} (hm : Keeps I m Q)
    (hf : ∀ a, Q a → Ends I (f a) U) : Ends I (m >>= f) U := by
  have hends : Ends I m fun a w => I w ∧ Q a :=
    fun w hw a heq => ⟨(hm w hw).1, (hm w hw).2 a heq⟩
  exact hends.bind fun a w hw => hf a hw.2 w hw.1

theorem weaken {T' : α → World → Prop} {m : Esp α} (hm : Ends P m T)
    (h : ∀ a w, T a w → T' a w) : Ends P m T' :=
  fun w hw a heq => h a _ (hm w hw a heq)

end Ends

end Esp

end Orchestrator
