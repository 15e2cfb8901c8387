import Orchestrator.World

/-!
# What the commands take from outside

The configuration a build is made with, the functions of libraries that are
called for their result, and the shape of the calls into other stacks.
-/

namespace Orchestrator

open Lib

/-- The options of `sdkconfig` that select branches. -/
structure Config where
  openthreadEnabled : Bool
  openthreadBorderRouter : Bool
  enableWifiStation : Bool
  espMatterCommissionerEnable : Bool
  deriving DecidableEq, Repr

/-- Functions of the platform that read nothing but their arguments. -/
structure Platform where
  cJSONParse : CStr → Option Json
  espErrToName : EspErr → CStr
  otNetworkNameFromString : CStr → Option CStr
  /-- The first eight bytes of the prefix. -/
  otIp6PrefixFromString : CStr → Option (Vector UInt8 8)
  otThreadDeviceRoleToString : OtDeviceRole → CStr
  /-- `static_cast<uint64_t>` of a `double`, which C++ leaves open out of range. -/
  uint64OfDouble : ℚ → UInt64

namespace Handler

/-- A call into another stack that returns `esp_err_t`. -/
def espCall (request : Request) : Esp Unit := do
  hand request
  match ← stackOutcome with
  | some err => throw err
  | none => return

/-- A call into OpenThread, any error of which becomes `ESP_FAIL`. -/
def otCall (request : Request) : Esp Unit := do
  hand request
  match ← stackOutcome with
  | some _ => throw EspErr.espFail
  | none => return

/-- A call whose failure is reported as one fixed error. -/
def orFail (call : Handler (Option EspErr)) (err : EspErr) : Esp Unit := do
  match ← call with
  | some _ => throw err
  | none => return

/-- An allocation without which the function returns `ESP_ERR_NO_MEM`. -/
def mallocOrFail : Esp Unit := do
  if ← malloc then return else throw EspErr.noMem

/-! ### What they return -/

theorem otCall_run (request : Request) (w : World) :
    (otCall request).run w = (if w.stack.head.isNone then .ok ⟨⟩ else .error EspErr.espFail,
      { w with
        board.requests := w.board.requests ++ [request]
        stack := w.stack.tail }) := by
  unfold otCall
  rw [Esp.run_liftM_bind (m := hand request) (w := w) rfl,
    Esp.run_liftM_bind (m := stackOutcome) rfl]
  change (match w.stack.head with
    | some _ => throw EspErr.espFail
    | none => return : Esp Unit).run _ = _
  cases w.stack.head with
  | none => rfl
  | some err => rfl

theorem espCall_run (request : Request) (w : World) :
    (espCall request).run w = (match w.stack.head with
        | some err => .error err
        | none => .ok ⟨⟩,
      { w with
        board.requests := w.board.requests ++ [request]
        stack := w.stack.tail }) := by
  unfold espCall
  rw [Esp.run_liftM_bind (m := hand request) (w := w) rfl,
    Esp.run_liftM_bind (m := stackOutcome) rfl]
  change (match w.stack.head with
    | some err => throw err
    | none => return : Esp Unit).run _ = _
  cases w.stack.head with
  | none => rfl
  | some err => rfl

theorem orFail_stackOutcome_run (err : EspErr) (w : World) :
    (orFail stackOutcome err).run w = (if w.stack.head.isNone then .ok ⟨⟩ else .error err,
      { w with stack := w.stack.tail }) := by
  unfold orFail
  rw [Esp.run_liftM_bind (m := stackOutcome) (w := w) rfl]
  cases w.stack.head with
  | none => rfl
  | some failure => rfl

theorem mallocOrFail_run (w : World) :
    mallocOrFail.run w = (if w.heap.head then .ok ⟨⟩ else .error EspErr.noMem,
      { w with heap := w.heap.tail }) := by
  unfold mallocOrFail
  rw [Esp.run_liftM_bind (m := malloc) (w := w) rfl]
  cases w.heap.head with
  | false => rfl
  | true => rfl

end Handler

/-! ## A build and a platform -/

/-- A build with every feature. -/
def Config.full : Config where
  openthreadEnabled := true
  openthreadBorderRouter := true
  enableWifiStation := true
  espMatterCommissionerEnable := true

namespace Platform

/-- The names of errors are texts other than the code of an unknown action. -/
structure ErrorNames (p : Platform) : Prop where
  nonempty : ∀ err, (p.espErrToName err).isEmpty = false
  ne_unknown : ∀ err, p.espErrToName err ≠ CStr.lit "UNKNOWN_ACTION"

/-- `esp_err_to_name` for the errors of this program. -/
def errorTable : List (EspErr × String) :=
  [(EspErr.espFail, "ESP_FAIL"), (EspErr.noMem, "ESP_ERR_NO_MEM"),
   (EspErr.invalidArg, "ESP_ERR_INVALID_ARG"), (EspErr.invalidState, "ESP_ERR_INVALID_STATE"),
   (EspErr.invalidSize, "ESP_ERR_INVALID_SIZE"), (EspErr.notFound, "ESP_ERR_NOT_FOUND"),
   (EspErr.notSupported, "ESP_ERR_NOT_SUPPORTED"), (EspErr.timeout, "ESP_ERR_TIMEOUT"),
   (EspErr.nvsNotFound, "ESP_ERR_NVS_NOT_FOUND"),
   (EspErr.nvsInvalidLength, "ESP_ERR_NVS_INVALID_LENGTH")]

def errorName (err : EspErr) : String :=
  ((errorTable.find? fun name => name.1 = err).map Prod.snd).getD "ERROR"

def roleName : OtDeviceRole → String
  | .disabled => "disabled"
  | .detached => "detached"
  | .child => "child"
  | .router => "router"
  | .leader => "leader"

/-- A platform on which one text is a message. -/
def parsing (text : String) (root : Json) : Platform where
  cJSONParse s := if s = CStr.lit text then some root else none
  espErrToName err := CStr.lit (errorName err)
  otNetworkNameFromString s := if s.length ≤ 16 then some s else none
  otIp6PrefixFromString _ := none
  otThreadDeviceRoleToString role := CStr.lit (roleName role)
  uint64OfDouble q := UInt64.ofNat q.floor.toNat

@[simp] theorem cJSONParse_parsing (text : String) (root : Json) :
    (parsing text root).cJSONParse (CStr.lit text) = some root := by
  simp [parsing]

theorem errorName_mem (err : EspErr) : errorName err ∈ "ERROR" :: errorTable.map Prod.snd := by
  unfold errorName
  cases hfind : errorTable.find? fun name => name.1 = err with
  | none => exact List.mem_cons_self
  | some name =>
      exact List.mem_cons_of_mem _ (List.mem_map_of_mem (List.mem_of_find?_eq_some hfind))

theorem errorNames_parsing (text : String) (root : Json) : (parsing text root).ErrorNames := by
  have hall : ∀ name ∈ "ERROR" :: errorTable.map Prod.snd,
      (CStr.lit name).isEmpty = false ∧ CStr.lit name ≠ CStr.lit "UNKNOWN_ACTION" := by decide
  exact ⟨fun err => (hall _ (errorName_mem err)).1, fun err => (hall _ (errorName_mem err)).2⟩

end Platform

end Orchestrator
