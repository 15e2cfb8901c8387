import Orchestrator.Registry.RecordJson
import Orchestrator.World

/-!
# The result of a command

`CommandExecutionResult` and the ways the branches of the dispatcher make one.
-/

namespace Orchestrator.Messages

open Lib Handler Registry Alloc

structure CommandExecutionResult where
  err : EspResult Unit
  payload : Option Json
  unknownAction : Bool
  errorMessage : CharArray 128

/-- `command_result`, which copies no message from a null pointer. -/
def commandResult (err : EspResult Unit) (payload : Option Json) (message : Option CStr) :
    CommandExecutionResult where
  err := err
  payload := payload
  unknownAction := false
  errorMessage := CharArray.copyField 128 (message.getD default)

/-- `unknown_action_result`; `snprintf` cuts the text like a copy. -/
def unknownActionResult (action : CStr) : CommandExecutionResult where
  err := .error EspErr.notSupported
  payload := none
  unknownAction := true
  errorMessage := CharArray.copyField 128 (CStr.lit "Unsupported command action: " ++ action)

/-- `command_result(err, nullptr, message)` -/
def failed (err : EspErr) (message : String) : CommandExecutionResult :=
  commandResult (.error err) none (some (CStr.lit message))

/-- `command_result(ESP_OK, out)`, or `ESP_ERR_NO_MEM` where the payload could not be built. -/
def built (out : Option Json) (message : String) : CommandExecutionResult :=
  match out with
  | some out => commandResult (.ok ⟨⟩) (some out) none
  | none => failed EspErr.noMem message

/-- `return command_result(op())` -/
def report (op : Esp Unit) : Handler CommandExecutionResult := do
  return commandResult (← op.run) none none

/-- `err = op(); if (err != ESP_OK) return command_result(err)` with or without a message. -/
def onOk {α : Type} (op : Esp α) (message : Option String)
    (next : α → Handler CommandExecutionResult) : Handler CommandExecutionResult := do
  match ← (op.run : Handler (EspResult α)) with
  | .error err => return commandResult (.error err) none (message.map CStr.lit)
  | .ok a => next a

/-- The rest of a branch that builds its payload. -/
def reply (out : Alloc (Option Json)) (message : String) : Handler CommandExecutionResult := do
  return built (← allocate out) message

theorem onOk_run_ok {α : Type} {op : Esp α} {a : α} {w w' : World} {message : Option String}
    {next : α → Handler CommandExecutionResult} (hop : op.run w = (.ok a, w')) :
    onOk op message next w = next a w' := by
  unfold onOk
  rw [bind_apply, hop]

theorem onOk_run_error {α : Type} {op : Esp α} {err : EspErr} {w w' : World}
    {message : Option String} {next : α → Handler CommandExecutionResult}
    (hop : op.run w = (.error err, w')) :
    onOk op message next w = (commandResult (.error err) none (message.map CStr.lit), w') := by
  unfold onOk
  rw [bind_apply, hop]
  rfl

end Orchestrator.Messages
