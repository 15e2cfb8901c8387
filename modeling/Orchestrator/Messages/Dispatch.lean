import Mathlib.Data.List.Nodup
import Orchestrator.Commands.Matter
import Orchestrator.Commands.Wifi
import Orchestrator.Messages.Fields
import Orchestrator.Messages.Result

/-!
# The dispatcher

`process_command_message` is a chain of comparisons with the action. Here the
chain is a table in the order of the source, with one entry for each action.
-/

namespace Orchestrator.Messages

open Lib Handler Registry State Commands Alloc

abbrev CommandHandler := Json → Handler CommandExecutionResult

/-! ## Thread -/

def threadDatasetTexts (payload : Json) : Option DatasetTexts := do
  let networkName ← requiredStringField payload "network_name"
  let extendedPanId ← requiredStringField payload "extended_pan_id"
  let meshLocalPrefix ← requiredStringField payload "mesh_local_prefix"
  let networkKey ← requiredStringField payload "master_key"
  let pskc ← requiredStringField payload "pskc"
  return {
    networkName := networkName
    extendedPanId := extendedPanId
    meshLocalPrefix := meshLocalPrefix
    networkKey := networkKey
    pskc := pskc }

/-- `thread.dataset.init` -/
def threadDatasetInitBranch (p : Platform) : CommandHandler := fun payload =>
  match requiredNumberField payload "channel", requiredNumberField payload "pan_id",
    threadDatasetTexts payload with
  | some channel, some panId, some texts =>
      report (threadDatasetInit p (castUint16 channel) (castUint16 panId) texts)
  | _, _, _ => return failed EspErr.invalidArg "Invalid Thread dataset init payload"

/-- `thread.status_get` -/
def threadStatusGet : CommandHandler := fun _ =>
  onOk threadIsStackRunning none fun isRunning =>
    reply (createObject [(CStr.lit "running", .bool isRunning)])
      "Failed to build Thread status payload"

/-- `thread.attached_get` -/
def threadAttachedGet : CommandHandler := fun _ =>
  onOk threadIsAttached none fun isAttached =>
    reply (createObject [(CStr.lit "attached", .bool isAttached)])
      "Failed to build Thread attached payload"

/-- `thread.role_get` -/
def threadRoleGet (p : Platform) : CommandHandler := fun _ =>
  onOk (threadGetDeviceRoleString p) none fun role =>
    reply (createObject [(CStr.lit "role", .string role)]) "Failed to build Thread role payload"

/-- `thread.active_dataset_get` -/
def threadActiveDatasetGet : CommandHandler := fun _ =>
  onOk threadGetActiveDataset none fun dataset =>
    reply (createObject
      [(CStr.lit "present", .bool true),
       (CStr.lit "active_timestamp", .number dataset.activeTimestamp.toNat),
       (CStr.lit "network_name", .string dataset.networkName),
       (CStr.lit "pan_id", .number dataset.panId.toNat),
       (CStr.lit "channel", .number dataset.channel.toNat)])
      "Failed to build Thread dataset payload"

/-- The loop that appends one string after the other; one that cannot be created
is left out. -/
def stringItems : List CStr → Alloc (List Json)
  | [] => return []
  | s :: rest => do
      let created ← next
      let items ← stringItems rest
      return if created then .string s :: items else items

def addressPayload (name : CStr) (addresses : List CStr) : Alloc (Option Json) := do
  match ← cJSONCreateObject with
  | none => return none
  | some out =>
      if ← next then return some (out.add name (.array (← stringItems addresses)))
      else return none

/-- `thread.unicast_addresses_get` and `thread.multicast_addresses_get` -/
def threadAddressesGet (name : CStr) (addresses : OpenThread → List CStr) : CommandHandler :=
  fun _ => onOk (threadGetAddresses addresses) none fun found =>
    reply (addressPayload name found) "Failed to build address payload"

/-! ## Wi-Fi -/

/-- `wifi.sta_connect` -/
def wifiStaConnectBranch : CommandHandler := fun payload =>
  match requiredStringField payload "ssid", requiredStringField payload "password" with
  | some ssid, some password => report (wifiStaConnect ssid password)
  | _, _ => return failed EspErr.invalidArg "Invalid Wi-Fi payload"

/-! ## Devices -/

/-- `chamber.status_get` -/
def chamberStatusGet : CommandHandler := fun _ => do
  return built (← orchestratorStateToJson) "Failed to build state payload"

/-- `device.list` -/
def deviceList : CommandHandler := fun _ => do
  return built (← deviceRegistryToJson) "Failed to build device registry payload"

/-- `device.get` -/
def deviceGet : CommandHandler := fun payload =>
  match requiredStringField payload "device_id" with
  | none => return failed EspErr.invalidArg "Missing device_id"
  | some deviceId =>
      onOk (deviceRegistryGetDevice deviceId) (some "Device not found") fun record =>
        reply (recordToJson true record) "Failed to build device payload"

/-- `device.remove` -/
def deviceRemove : CommandHandler := fun payload =>
  match requiredStringField payload "device_id" with
  | none => return failed EspErr.invalidArg "Missing device_id"
  | some deviceId => report (deviceRegistryRemoveDevice deviceId)

/-- `device.rename` -/
def deviceRename : CommandHandler := fun payload =>
  match requiredStringField payload "device_id", requiredStringField payload "label" with
  | some deviceId, some label => report (deviceRegistryRenameDevice deviceId label)
  | _, _ => return failed EspErr.invalidArg "Invalid rename payload"

/-- The required fields of a capability. -/
structure CapabilityFields where
  deviceId : CStr
  capabilityId : CStr
  semanticType : CStr
  endpointId : ℚ
  clusterId : ℚ

def capabilityFields (payload : Json) : Option CapabilityFields := do
  let deviceId ← requiredStringField payload "device_id"
  let capabilityId ← requiredStringField payload "capability_id"
  let semanticType ← requiredStringField payload "semantic_type"
  let endpointId ← requiredNumberField payload "endpoint_id"
  let clusterId ← requiredNumberField payload "cluster_id"
  return {
    deviceId := deviceId
    capabilityId := capabilityId
    semanticType := semanticType
    endpointId := endpointId
    clusterId := clusterId }

/-- An id that is `UINT32_MAX` where the payload has no number for it. -/
def optionalId (payload : Json) (name : String) : UInt32 :=
  match requiredNumberField payload name with
  | some q => castUint32 q
  | none => uint32Max

/-- The types that need an attribute. -/
def needsAttribute (semantic : DeviceCapabilitySemanticType) : Bool :=
  semantic = .temperature ∨ semantic = .pressure ∨ semantic = .rawAttribute

/-- The command of a relay for which the payload has none. -/
def commandOrDefault (semantic : DeviceCapabilitySemanticType) (commandId : UInt32) : UInt32 :=
  if semantic = .relay ∧ commandId = uint32Max then 1 else commandId

/-- The capability that `add_capability_command` fills in. -/
def newCapability (payload : Json) (fields : CapabilityFields)
    (semantic : DeviceCapabilitySemanticType) : DeviceCapability :=
  { DeviceCapability.zero with
    capabilityId := CharArray.copyField 32 fields.capabilityId
    semanticType := semantic
    endpointId := castUint16 fields.endpointId
    clusterId := castUint32 fields.clusterId
    attributeId := optionalId payload "attribute_id"
    commandId := commandOrDefault semantic (optionalId payload "command_id")
    label := CharArray.copyField 32
      ((optionalStringField payload "label").getD fields.semanticType) }

/-- `strncmp` of the ids over `DEVICE_REGISTRY_ID_MAX` bytes. -/
def sameCapabilityId (capability c : DeviceCapability) : Bool :=
  strncmpEq c.capabilityId.toList capability.capabilityId.toList 32

/-- The record with the capability in the place of the one with its id, or behind
the others if there is room. -/
def withCapability (record : DeviceRecord) (capability : DeviceCapability) :
    Option DeviceRecord :=
  match CountedArray.findIndex (sameCapabilityId capability) record.capabilities
      record.capabilityCount.toNat with
  | some i =>
      some { record with capabilities := record.capabilities.setIfInBounds i capability }
  | none =>
      if deviceRegistryCapabilityMax ≤ record.capabilityCount then none
      else some { record with
        capabilities :=
          record.capabilities.setIfInBounds record.capabilityCount.toNat capability
        capabilityCount := record.capabilityCount + 1 }

/-- `add_capability_command`, the branch `device.capability.add` -/
def addCapabilityCommand : CommandHandler := fun payload =>
  match capabilityFields payload with
  | none => return failed EspErr.invalidArg "Invalid capability payload"
  | some fields =>
      match DeviceCapabilitySemanticType.fromString fields.semanticType with
      | none => return failed EspErr.invalidArg "Unsupported capability semantic_type"
      | some semantic =>
          onOk (deviceRegistryGetDevice fields.deviceId) (some "Device not found") fun record =>
            let capability := newCapability payload fields semantic
            if needsAttribute semantic ∧ capability.attributeId = uint32Max then
              return failed EspErr.invalidArg "Capability requires attribute_id"
            else
              match withCapability record capability with
              | none => return failed EspErr.noMem "Device capability list is full"
              | some updated =>
                  onOk (deviceRegistryUpsertDevice updated) (some "Capability upsert failed")
                    fun _ => reply (createObject
                      [(CStr.lit "device_id", .string updated.deviceId.toCStr),
                       (CStr.lit "capability_id", .string capability.capabilityId.toCStr)])
                      "Failed to build capability payload"

/-- Additions of which the first that fails is the last. -/
def addFieldsOrFail (out : Json) : List (CStr × Json) → Alloc (Option Json)
  | [] => return some out
  | (name, item) :: fields => do
      let added ← addField out name item
      if added.1 then addFieldsOrFail added.2 fields else return none

/-- `add_accepted_payload_field` on a new object. -/
def acceptedDeviceObject (deviceId : CStr) : Alloc (Option Json) := do
  match ← cJSONCreateObject with
  | none => return none
  | some out =>
      addFieldsOrFail out
        [(CStr.lit "device_id", .string deviceId),
         (CStr.lit "accepted", .bool true),
         (CStr.lit "result_delivery", .string (CStr.lit "matter.attribute_report"))]

/-- `accepted_device_payload` -/
def acceptedDevicePayload (deviceId : CStr) : Handler CommandExecutionResult :=
  reply (acceptedDeviceObject deviceId) "Failed to build accepted payload"

/-- `device.temperature.read` and `device.pressure.read` -/
def deviceSemanticRead (semantic : DeviceCapabilitySemanticType) : CommandHandler := fun payload =>
  match requiredStringField payload "device_id" with
  | none => return failed EspErr.invalidArg "Missing device_id"
  | some deviceId =>
      onOk (deviceRegistryFindCapability deviceId semantic)
        (some "Device does not have the required capability") fun (record, capability) =>
          onOk (executeAttrReadCommand record.nodeId capability.endpointId capability.clusterId
            capability.attributeId) none fun _ => acceptedDevicePayload deviceId

/-- The ids of an attribute as the payload has them. -/
structure AttributePath where
  endpointId : ℚ
  clusterId : ℚ
  attributeId : ℚ

def attributePath (payload : Json) : Option AttributePath := do
  let endpointId ← requiredNumberField payload "endpoint_id"
  let clusterId ← requiredNumberField payload "cluster_id"
  let attributeId ← requiredNumberField payload "attribute_id"
  return { endpointId := endpointId, clusterId := clusterId, attributeId := attributeId }

/-- `min_interval` and `max_interval` -/
def intervals (payload : Json) : Option (ℚ × ℚ) := do
  return (← requiredNumberField payload "min_interval",
    ← requiredNumberField payload "max_interval")

def readAttribute (nodeId : UInt64) (path : AttributePath) : Esp Unit :=
  executeAttrReadCommand nodeId (castUint16 path.endpointId) (castUint32 path.clusterId)
    (castUint32 path.attributeId)

def subscribeAttribute (nodeId : UInt64) (path : AttributePath) (interval : ℚ × ℚ) : Esp Unit :=
  executeAttrSubscribeCommand nodeId (castUint16 path.endpointId) (castUint32 path.clusterId)
    (castUint32 path.attributeId) (castUint16 interval.1) (castUint16 interval.2)

/-- `device.attribute.read` and `device.attribute.subscribe` -/
def deviceAttribute (subscribe : Bool) : CommandHandler := fun payload =>
  match requiredStringField payload "device_id", attributePath payload with
  | some deviceId, some path =>
      onOk (deviceRegistryGetDevice deviceId) (some "Device not found") fun record =>
        if subscribe then
          match intervals payload with
          | none => return failed EspErr.invalidArg "Invalid subscribe interval payload"
          | some interval =>
              onOk (subscribeAttribute record.nodeId path interval) none fun _ =>
                acceptedDevicePayload deviceId
        else onOk (readAttribute record.nodeId path) none fun _ => acceptedDevicePayload deviceId
  | _, _ => return failed EspErr.invalidArg "Invalid attribute payload"

/-- `device.relay.set` -/
def deviceRelaySet : CommandHandler := fun payload =>
  match requiredStringField payload "device_id",
    Json.bool? (payload.getObjectItem (CStr.lit "on")) with
  | some deviceId, some on =>
      onOk (deviceRegistryFindCapability deviceId .relay)
        (some "Device does not have a relay capability") fun (record, capability) =>
          onOk (executeCmdInvokeCommand record.nodeId capability.endpointId capability.clusterId
            (if on then 1 else 0) (CStr.lit "\x7b\x7d")) none fun _ =>
              reply (createObject
                [(CStr.lit "device_id", .string deviceId),
                 (CStr.lit "accepted", .bool true),
                 (CStr.lit "on", .bool on)]) "Failed to build relay payload"
  | _, _ => return failed EspErr.invalidArg "Invalid relay payload"

/-! ## Matter -/

/-- `matter.controller_init` -/
def matterControllerInitBranch (cfg : Config) (p : Platform) : CommandHandler := fun payload =>
  match requiredUint64StringField payload "node_id", requiredNumberField payload "fabric_id",
    requiredNumberField payload "listen_port" with
  | some nodeId, some fabricId, some listenPort =>
      report (executeMatterControllerInitCommand cfg nodeId (p.uint64OfDouble fabricId)
        (castUint16 listenPort))
  | _, _, _ => return failed EspErr.invalidArg "Invalid Matter init payload"

/-- `matter.pair_ble_thread` -/
def matterPairBleThread : CommandHandler := fun payload =>
  match requiredUint64StringField payload "node_id",
    requiredUint32StringField payload "setup_code",
    requiredUint16StringField payload "discriminator" with
  | some nodeId, some pin, some discriminator =>
      report (executeMatterPairBleThreadCommand nodeId pin discriminator)
  | _, _, _ => return failed EspErr.invalidArg "Invalid BLE pairing payload"

/-- The ids of a cluster command as the payload has them. -/
structure CommandPath where
  endpointId : ℚ
  clusterId : ℚ
  commandId : ℚ

def commandPath (payload : Json) : Option CommandPath := do
  let endpointId ← requiredNumberField payload "endpoint_id"
  let clusterId ← requiredNumberField payload "cluster_id"
  let commandId ← requiredNumberField payload "command_id"
  return { endpointId := endpointId, clusterId := clusterId, commandId := commandId }

/-- `matter.cluster_command_invoke` -/
def matterClusterCommandInvoke : CommandHandler := fun payload =>
  match requiredUint64StringField payload "destination_id", commandPath payload,
    requiredStringField payload "command_data" with
  | some destinationId, some path, some data =>
      report (executeCmdInvokeCommand destinationId (castUint16 path.endpointId)
        (castUint32 path.clusterId) (castUint32 path.commandId) data)
  | _, _, _ => return failed EspErr.invalidArg "Invalid invoke payload"

def acceptedPayload : Handler CommandExecutionResult :=
  reply (createObject
    [(CStr.lit "accepted", .bool true),
     (CStr.lit "result_delivery", .string (CStr.lit "matter.attribute_report"))])
    "Failed to build accepted payload"

/-- `matter.attribute_read` and `matter.attribute_subscribe` -/
def matterAttribute (subscribe : Bool) : CommandHandler := fun payload =>
  match requiredUint64StringField payload "node_id", attributePath payload with
  | some nodeId, some path =>
      if subscribe then
        match intervals payload with
        | none => return failed EspErr.invalidArg "Invalid subscribe payload"
        | some interval =>
            onOk (subscribeAttribute nodeId path interval) none fun _ => acceptedPayload
      else onOk (readAttribute nodeId path) none fun _ => acceptedPayload
  | _, _ => return failed EspErr.invalidArg "Invalid attribute payload"

/-! ## The table -/

def threadBranches (cfg : Config) (p : Platform) : List (String × CommandHandler) :=
  [("thread.enable", fun _ => report executeThreadEnableCommand),
   ("thread.disable", fun _ => report executeThreadDisableCommand),
   ("thread.dataset.init", threadDatasetInitBranch p),
   ("thread.status_get", threadStatusGet),
   ("thread.attached_get", threadAttachedGet),
   ("thread.role_get", threadRoleGet p),
   ("thread.active_dataset_get", threadActiveDatasetGet),
   ("thread.unicast_addresses_get",
    threadAddressesGet (CStr.lit "unicast") OpenThread.unicastAddresses),
   ("thread.multicast_addresses_get",
    threadAddressesGet (CStr.lit "multicast") OpenThread.multicastAddresses)] ++
  (if cfg.openthreadBorderRouter then
    [("thread.br_init", fun _ => report (espCall .borderRouterInit))]
  else []) ++
  [("thread.br_deinit", fun _ => report (espCall .borderRouterDeinit))]

def deviceBranches : List (String × CommandHandler) :=
  [("chamber.status_get", chamberStatusGet),
   ("device.list", deviceList),
   ("device.get", deviceGet),
   ("device.remove", deviceRemove),
   ("device.rename", deviceRename),
   ("device.capability.add", addCapabilityCommand),
   ("device.temperature.read", deviceSemanticRead .temperature),
   ("device.pressure.read", deviceSemanticRead .pressure),
   ("device.attribute.read", deviceAttribute false),
   ("device.attribute.subscribe", deviceAttribute true),
   ("device.relay.set", deviceRelaySet)]

def matterBranches (cfg : Config) (p : Platform) : List (String × CommandHandler) :=
  [("matter.controller_init", matterControllerInitBranch cfg p),
   ("matter.pair_ble_thread", matterPairBleThread),
   ("matter.cluster_command_invoke", matterClusterCommandInvoke),
   ("matter.attribute_read", matterAttribute false),
   ("matter.attribute_subscribe", matterAttribute true)]

/-- The branches that are compiled in. -/
def branches (cfg : Config) (p : Platform) : List (String × CommandHandler) :=
  (if cfg.openthreadEnabled then threadBranches cfg p else []) ++
  (if cfg.enableWifiStation then [("wifi.sta_connect", wifiStaConnectBranch)] else []) ++
  deviceBranches ++ matterBranches cfg p

/-- The branch of an action. -/
def findBranch (cfg : Config) (p : Platform) (action : CStr) : Option CommandHandler :=
  ((branches cfg p).find? fun branch => CStr.lit branch.1 = action).map Prod.snd

/-- `process_command_message` -/
def processCommandMessage (cfg : Config) (p : Platform) (action : CStr) : CommandHandler :=
  match findBranch cfg p action with
  | some branch => branch
  | none => fun _ => return unknownActionResult action

/-! ## Branches by name -/

section Table

variable {cfg : Config} {p : Platform} {entry : String × CommandHandler}

theorem mem_branches_of_device (h : entry ∈ deviceBranches) : entry ∈ branches cfg p :=
  List.mem_append_left _ (List.mem_append_right _ h)

theorem mem_branches_of_matter (h : entry ∈ matterBranches cfg p) : entry ∈ branches cfg p :=
  List.mem_append_right _ h

/-- The actions of the branches. -/
def actions (cfg : Config) (p : Platform) : List CStr :=
  (branches cfg p).map fun branch => CStr.lit branch.1

/-- They do not depend on the platform. -/
theorem actions_eq (cfg : Config) (p q : Platform) : actions cfg p = actions cfg q := by
  obtain ⟨a, b, c, d⟩ := cfg
  cases a <;> cases b <;> cases c <;> rfl

/-- No two branches have the same action. -/
theorem nodup_actions (cfg : Config) (p : Platform) : (actions cfg p).Nodup := by
  have hall : ∀ a b c d : Bool,
      (actions ⟨a, b, c, d⟩ (Platform.parsing "null" .null)).Nodup := by decide +kernel
  rw [actions_eq cfg p (Platform.parsing "null" .null)]
  exact hall _ _ _ _

theorem findBranch_of_mem (h : entry ∈ branches cfg p) :
    findBranch cfg p (CStr.lit entry.1) = some entry.2 := by
  have hfind : (branches cfg p).find? (fun branch => CStr.lit branch.1 = CStr.lit entry.1) =
      some entry := by
    cases hcase : (branches cfg p).find? fun branch => CStr.lit branch.1 = CStr.lit entry.1 with
    | none =>
        have hne := List.find?_eq_none.mp hcase entry h
        simp at hne
    | some found =>
        have heq : CStr.lit found.1 = CStr.lit entry.1 := by simpa using List.find?_some hcase
        have hmem := List.mem_of_find?_eq_some hcase
        rw [List.inj_on_of_nodup_map (nodup_actions cfg p) hmem h heq]
  rw [findBranch, hfind, Option.map_some]

theorem processCommandMessage_of_mem (h : entry ∈ branches cfg p) :
    processCommandMessage cfg p (CStr.lit entry.1) = entry.2 := by
  rw [processCommandMessage, findBranch_of_mem h]

end Table

/-! ## The fields of a payload -/

variable {payload : Json}

/-- The text in this field of a payload, if there is one and it is not empty. -/
def textMember (payload : Json) (name : String) : Option CStr :=
  match payload.getObjectItem (CStr.lit name) with
  | some (.string text) => if text.bytes = [] then none else some text
  | _ => none

theorem requiredStringField_eq_textMember (payload : Json) (name : String) :
    requiredStringField payload name = textMember payload name := by
  unfold requiredStringField nonEmptyString Json.string? textMember
  cases payload.getObjectItem (CStr.lit name) with
  | none => rfl
  | some item =>
      cases item with
      | string text => simp [CStr.isEmpty]
      | null | bool _ | number _ | array _ | object _ => rfl

/-- The text in this field of a payload, which may be empty. -/
def stringMember (payload : Json) (name : String) : Option CStr :=
  match payload.getObjectItem (CStr.lit name) with
  | some (.string text) => some text
  | _ => none

theorem optionalStringField_eq_stringMember (payload : Json) (name : String) :
    optionalStringField payload name = stringMember payload name := rfl

/-- The number in this field of a payload. -/
def numberMember (payload : Json) (name : String) : Option ℚ :=
  match payload.getObjectItem (CStr.lit name) with
  | some (.number q) => some q
  | _ => none

theorem requiredNumberField_eq_numberMember (payload : Json) (name : String) :
    requiredNumberField payload name = numberMember payload name := rfl

/-- Where the fields of a capability come from. -/
structure CapabilityFields.From (payload : Json) (fields : CapabilityFields) : Prop where
  deviceId : requiredStringField payload "device_id" = some fields.deviceId
  capabilityId : requiredStringField payload "capability_id" = some fields.capabilityId
  semanticType : requiredStringField payload "semantic_type" = some fields.semanticType
  endpointId : requiredNumberField payload "endpoint_id" = some fields.endpointId
  clusterId : requiredNumberField payload "cluster_id" = some fields.clusterId

theorem of_capabilityFields {fields : CapabilityFields}
    (h : capabilityFields payload = some fields) : fields.From payload := by
  unfold capabilityFields at h
  simp only [Option.bind_eq_bind, Option.bind_eq_some_iff, Option.pure_def, Option.some.injEq] at h
  obtain ⟨deviceId, hdeviceId, capabilityId, hcapabilityId, semanticType, hsemanticType,
    endpointId, hendpointId, clusterId, hclusterId, rfl⟩ := h
  exact ⟨hdeviceId, hcapabilityId, hsemanticType, hendpointId, hclusterId⟩

/-! ## The capabilities after an addition -/

/-- The capability takes the place of the one with its id, or comes last. -/
theorem withCapability_cases {record updated : DeviceRecord} {capability : DeviceCapability}
    (h : withCapability record capability = some updated) :
    (∃ i, CountedArray.findIndex (sameCapabilityId capability) record.capabilities
        record.capabilityCount.toNat = some i ∧
      updated = { record with
        capabilities := record.capabilities.setIfInBounds i capability } ∧
      updated.capabilityList = record.capabilityList.set i capability) ∨
    (CountedArray.findIndex (sameCapabilityId capability) record.capabilities
        record.capabilityCount.toNat = none ∧
      record.capabilityCount < deviceRegistryCapabilityMax ∧
      updated = { record with
        capabilities :=
          record.capabilities.setIfInBounds record.capabilityCount.toNat capability
        capabilityCount := record.capabilityCount + 1 } ∧
      updated.capabilityList = record.capabilityList ++ [capability]) := by
  unfold withCapability at h
  split at h
  · next i hfind =>
    cases h
    exact .inl ⟨i, hfind, rfl, CountedArray.view_set _ _ _ _⟩
  · next hfind =>
    split at h
    · cases h
    · next hfull =>
      have hroom : record.capabilityCount < deviceRegistryCapabilityMax := UInt32.not_le.mp hfull
      have hlt : record.capabilityCount.toNat < 8 := UInt32.lt_iff_toNat_lt.mp hroom
      have hcount : (record.capabilityCount + 1).toNat = record.capabilityCount.toNat + 1 := by
        rw [UInt32.toNat_add, UInt32.toNat_one, Nat.mod_eq_of_lt (by omega)]
      cases h
      refine .inr ⟨hfind, hroom, rfl, ?_⟩
      unfold DeviceRecord.capabilityList
      dsimp only
      rw [hcount]
      exact CountedArray.view_append _ hlt _

section Updated

variable {record updated : DeviceRecord} {capability c : DeviceCapability}
  (h : withCapability record capability = some updated)

include h

/-- Nothing but the capabilities changes. -/
theorem withCapability_frame :
    updated = { record with
      capabilities := updated.capabilities
      capabilityCount := updated.capabilityCount } := by
  rcases withCapability_cases h with ⟨_, -, rfl, -⟩ | ⟨-, -, rfl, -⟩
  · rfl
  · rfl

theorem mem_withCapability (hc : c ∈ updated.capabilityList) :
    c ∈ record.capabilityList ∨ c = capability := by
  rcases withCapability_cases h with ⟨i, -, -, hlist⟩ | ⟨-, -, -, hlist⟩
  · rw [hlist] at hc
    exact List.mem_or_eq_of_mem_set hc
  · rw [hlist, List.mem_append, List.mem_singleton] at hc
    exact hc

theorem mem_withCapability_self (hcount : record.capabilityCount ≤ deviceRegistryCapabilityMax) :
    capability ∈ updated.capabilityList := by
  rcases withCapability_cases h with ⟨i, hfind, -, hlist⟩ | ⟨-, -, -, hlist⟩
  · have hlength : record.capabilityCount.toNat ≤ 8 := UInt32.le_iff_toNat_le.mp hcount
    rw [hlist]
    apply List.mem_set
    rw [DeviceRecord.capabilityList, CountedArray.length_view hlength]
    exact List.mem_range.mp (List.mem_of_find?_eq_some hfind)
  · rw [hlist]
    exact List.mem_append_right _ (List.mem_singleton_self _)

end Updated

end Orchestrator.Messages
