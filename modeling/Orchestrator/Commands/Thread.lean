import Orchestrator.Commands.Platform

/-!
# Thread commands

`thread_commands.cpp` over `thread_util.cpp`. A lock that is waited for without
end is always acquired.
-/

namespace Orchestrator.Commands

open Lib Handler

/-- `esp_openthread_get_instance`, without which the function fails. -/
def requireInstance (err : EspErr) : Esp OpenThread := do
  let openThread := (← getBoard).openThread
  if openThread.instanceExists then return openThread else throw err

theorem requireInstance_run (err : EspErr) (w : World) :
    (requireInstance err).run w =
      (if w.board.openThread.instanceExists then .ok w.board.openThread else .error err, w) := by
  unfold requireInstance
  rw [Esp.run_liftM_bind (m := getBoard) (w := w) rfl]
  dsimp only
  split
  · rfl
  · rfl

/-! ## Stack control -/

/-- `ifconfig_up` and `ifconfig_down` -/
def ifconfig (up : Bool) : Esp Unit := do
  let _ ← requireInstance EspErr.invalidState
  otCall (.ip6SetEnabled up)

/-- `thread_start` and `thread_stop` -/
def threadSetEnabled (enabled : Bool) : Esp Unit := do
  let _ ← requireInstance EspErr.invalidState
  otCall (.threadSetEnabled enabled)

/-- `execute_thread_enable_command` -/
def executeThreadEnableCommand : Esp Unit := do
  ifconfig true
  threadSetEnabled true

/-- `execute_thread_disable_command` -/
def executeThreadDisableCommand : Esp Unit := do
  threadSetEnabled false
  ifconfig false

/-! ## Dataset -/

/-- `hex_char_to_int` -/
def hexCharToInt (hex : UInt8) : Option UInt8 :=
  if 48 ≤ hex ∧ hex ≤ 57 then some (hex - 48)
  else if 97 ≤ hex ∧ hex ≤ 102 then some (hex - 97 + 10)
  else if 65 ≤ hex ∧ hex ≤ 70 then some (hex - 65 + 10)
  else none

/-- The loop of `hex_string_to_bytes`. -/
def hexPairs : List UInt8 → Option (List UInt8)
  | high :: low :: rest =>
      match hexCharToInt high, hexCharToInt low, hexPairs rest with
      | some high, some low, some bytes => some ((high <<< 4 ||| low) :: bytes)
      | _, _, _ => none
  | [] => some []
  | [_] => none

/-- `hex_string_to_bytes` -/
def hexStringToBytes (outputSize : Nat) (hexString : CStr) : Option (Vector UInt8 outputSize) :=
  match hexPairs hexString.bytes with
  | none => none
  | some bytes =>
      if h : bytes.length = outputSize then some (Vector.mk bytes.toArray h) else none

/-- The texts that `thread_dataset_init` parses. -/
structure DatasetTexts where
  networkName : CStr
  extendedPanId : CStr
  meshLocalPrefix : CStr
  networkKey : CStr
  pskc : CStr

/-- The dataset that `thread_dataset_init` fills in, unless a text is rejected. -/
def parseDataset (p : Platform) (channel panId : UInt16) (texts : DatasetTexts) :
    Option OperationalDataset := do
  let networkName ← p.otNetworkNameFromString texts.networkName
  let extendedPanId ← hexStringToBytes 8 texts.extendedPanId
  let meshLocalPrefix ← p.otIp6PrefixFromString texts.meshLocalPrefix
  let networkKey ← hexStringToBytes 16 texts.networkKey
  let pskc ← hexStringToBytes 16 texts.pskc
  return {
    activeTimestamp := 1
    networkName := networkName
    extendedPanId := extendedPanId
    meshLocalPrefix := meshLocalPrefix
    networkKey := networkKey
    pskc := pskc
    panId := panId
    channel := channel }

/-- The numbers are not looked at. -/
theorem parseDataset_eq (p : Platform) (channel panId : UInt16) (texts : DatasetTexts) :
    parseDataset p channel panId texts = (parseDataset p 0 0 texts).map fun dataset =>
      { dataset with channel := channel, panId := panId } := by
  unfold parseDataset
  simp only [Option.map_bind, Option.bind_eq_bind, Option.pure_def, Function.comp_def,
    Option.map_some]

/-- `thread_dataset_init` -/
def threadDatasetInit (p : Platform) (channel panId : UInt16) (texts : DatasetTexts) :
    Esp Unit := do
  let _ ← requireInstance EspErr.invalidState
  -- the lock is waited for five seconds
  orFail stackOutcome EspErr.espFail
  mallocOrFail
  match parseDataset p channel panId texts with
  | none => throw EspErr.espFail
  | some dataset => otCall (.datasetSetActive dataset)

/-! ## Queries -/

/-- `thread_is_stack_running` -/
def threadIsStackRunning : Esp Bool := do
  return (← requireInstance EspErr.invalidState).role ≠ .disabled

/-- `thread_is_attached` -/
def threadIsAttached : Esp Bool := do
  let role := (← requireInstance EspErr.invalidState).role
  return role ≠ .disabled ∧ role ≠ .detached

/-- `thread_get_device_role_string` -/
def threadGetDeviceRoleString (p : Platform) : Esp CStr := do
  return p.otThreadDeviceRoleToString (← requireInstance EspErr.invalidArg).role

/-- `thread_get_active_dataset` -/
def threadGetActiveDataset : Esp OperationalDataset := do
  match (← requireInstance EspErr.invalidArg).activeDataset with
  | some dataset => return dataset
  | none => throw EspErr.espFail

/-- The loop that duplicates one address after the other. -/
def duplicateAddresses : List CStr → Esp (List CStr)
  | [] => return []
  | address :: rest => do
      mallocOrFail
      return address :: (← duplicateAddresses rest)

/-- `THREAD_ADDRESS_LIST_MAX` -/
def threadAddressListMax : Nat := 16

/-- `thread_get_unicast_addresses` and `thread_get_multicast_addresses` -/
def threadGetAddresses (addresses : OpenThread → List CStr) : Esp (List CStr) := do
  let openThread ← requireInstance EspErr.invalidArg
  duplicateAddresses ((addresses openThread).take threadAddressListMax)

/-- `OT_OPERATIONAL_DATASET_MAX_LENGTH` -/
def otOperationalDatasetMaxLength : Nat := 254

/-- `thread_get_active_dataset_tlvs` with a buffer of the maximal length. -/
def threadGetActiveDatasetTlvs : Esp (List UInt8) := do
  match (← requireInstance EspErr.invalidState).activeDatasetTlvs with
  | none => throw EspErr.espFail
  | some tlvs =>
      if otOperationalDatasetMaxLength < tlvs.length then throw EspErr.noMem else return tlvs

theorem threadGetActiveDatasetTlvs_run (w : World) : threadGetActiveDatasetTlvs.run w =
    (if w.board.openThread.instanceExists then
        match w.board.openThread.activeDatasetTlvs with
        | none => .error EspErr.espFail
        | some tlvs =>
            if otOperationalDatasetMaxLength < tlvs.length then .error EspErr.noMem else .ok tlvs
      else .error EspErr.invalidState, w) := by
  unfold threadGetActiveDatasetTlvs
  rw [ExceptT.run_bind, bind_apply, requireInstance_run]
  split
  · dsimp only
    cases w.board.openThread.activeDatasetTlvs with
    | none => rfl
    | some tlvs =>
        dsimp only
        split
        · rfl
        · rfl
  · rfl

end Orchestrator.Commands
