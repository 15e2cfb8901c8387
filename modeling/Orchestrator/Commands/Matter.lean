import Orchestrator.Commands.Thread
import Orchestrator.Registry.Api

/-!
# Matter commands

`matter_commands.cpp` over `matter_controller.cpp`.
-/

namespace Orchestrator.Commands

open Lib Handler Registry State

/-- `chip_stack_lock` where its result is looked at. -/
def chipStackLock : Esp Unit := orFail stackOutcome EspErr.invalidState

/-- The record of a node that has been paired. -/
def pairedRecord (nodeId : UInt64) : DeviceRecord :=
  { DeviceRecord.zero with
    deviceId := CharArray.copyField 32 (CStr.lit "node-" ++ CStr.decimal nodeId.toNat)
    label := CharArray.copyField 32 (CStr.lit "Matter node " ++ CStr.decimal nodeId.toNat)
    nodeId := nodeId
    reachable := 1 }

/-- `execute_matter_pair_ble_thread_command` -/
def executeMatterPairBleThreadCommand (nodeId : UInt64) (pin : UInt32) (discriminator : UInt16) :
    Esp Unit := do
  mallocOrFail
  let tlvs ← threadGetActiveDatasetTlvs
  espCall (.pairingBleThread nodeId pin discriminator tlvs)
  ignore (deviceRegistryUpsertDevice (pairedRecord nodeId))

/-- `invoke_cluster_command` -/
def executeCmdInvokeCommand (destinationId : UInt64) (endpointId : UInt16)
    (clusterId commandId : UInt32) (payloadJson : CStr) : Esp Unit := do
  chipStackLock
  espCall (.invokeCluster destinationId endpointId clusterId commandId payloadJson)

/-- `send_read_attr_command` -/
def executeAttrReadCommand (nodeId : UInt64) (endpointId : UInt16)
    (clusterId attributeId : UInt32) : Esp Unit := do
  mallocOrFail
  chipStackLock
  mallocOrFail
  espCall (.readAttribute nodeId endpointId clusterId attributeId)

/-- `send_subscribe_attr_command` with automatic resubscription. -/
def executeAttrSubscribeCommand (nodeId : UInt64) (endpointId : UInt16)
    (clusterId attributeId : UInt32) (minInterval maxInterval : UInt16) : Esp Unit := do
  mallocOrFail
  chipStackLock
  mallocOrFail
  espCall (.subscribeAttribute nodeId endpointId clusterId attributeId minInterval maxInterval true)

/-- What reading and subscribing have in common. -/
def attributeCall (request : Request) : Esp Unit := do
  mallocOrFail
  chipStackLock
  mallocOrFail
  espCall request

/-- `matter_controller_init`; the lock is waited for without end. -/
def matterControllerInit (cfg : Config) (nodeId fabricId : UInt64) (listenPort : UInt16) :
    Esp Unit := do
  espCall (.controllerInit nodeId fabricId listenPort)
  if cfg.espMatterCommissionerEnable then espCall .setupCommissioner else return

/-- `execute_matter_controller_init_command` -/
def executeMatterControllerInitCommand (cfg : Config) (nodeId fabricId : UInt64)
    (listenPort : UInt16) : Esp Unit := do
  matterControllerInit cfg nodeId fabricId listenPort
  modifyBoard fun b => { b with state := b.state.setMatterControllerInitialized true }
  ignore (orchestratorStateBroadcastEvent (CStr.lit "matter.controller_initialized") none)
  ignore orchestratorStateBroadcastSnapshot

/-! ## The record of a node -/

theorem length_decimal_node (nodeId : UInt64) : (CStr.decimal nodeId.toNat).length ≤ 20 :=
  CStr.length_decimal_le (by decide) (Nat.lt_trans nodeId.toNat_lt (by decide))

/-- The id of a node is never cut. -/
theorem deviceId_pairedRecord (nodeId : UInt64) :
    (pairedRecord nodeId).deviceId.toCStr =
      CStr.lit "node-" ++ CStr.decimal nodeId.toNat := by
  have hlit : (CStr.lit "node-").length = 5 := by decide
  have hle := length_decimal_node nodeId
  rw [pairedRecord, CharArray.toCStr_copyField 31, CStr.take_append (by omega), hlit,
    CStr.take_eq_self (by omega)]

/-- The label of a node with twenty digits loses the last of them. -/
theorem label_pairedRecord (nodeId : UInt64) :
    (pairedRecord nodeId).label.toCStr =
      CStr.lit "Matter node " ++ (CStr.decimal nodeId.toNat).take 19 := by
  have hlit : (CStr.lit "Matter node ").length = 12 := by decide
  rw [pairedRecord, CharArray.toCStr_copyField 31, CStr.take_append (by omega), hlit]

end Orchestrator.Commands
