import Orchestrator.Messages.Regular
import Orchestrator.Registry.Calm

/-!
# The two representations of a device

`device.get` and `device.list` answer with objects that two functions build. They
agree about a device whose capabilities have all the ids that are shown for their
types: an id that is not set is left out of the list and shown as `UINT32_MAX`
otherwise.
-/

namespace Orchestrator.Registry

open Lib

/-- The ids that are shown for the type of the capability are set. -/
structure DeviceCapability.IdsSet (c : DeviceCapability) : Prop where
  attributeId : c.semanticType ≠ .rawCommand → c.attributeId ≠ uint32Max
  commandId : c.semanticType = .relay ∨ c.semanticType = .rawCommand → c.commandId ≠ uint32Max

/-! ## Objects of capabilities and devices -/

namespace DeviceCapability

variable (c : DeviceCapability)

theorem attributeField_eq_iff : c.attributeField true = c.attributeField false ↔
    (c.semanticType ≠ .rawCommand → c.attributeId ≠ uint32Max) := by
  unfold attributeField
  by_cases hcommand : c.semanticType = .rawCommand
  · simp [hcommand]
  · by_cases hset : c.attributeId = uint32Max
    · simp [hcommand, hset]
    · simp [hcommand, hset]

theorem commandField_eq_iff : c.commandField true = c.commandField false ↔
    (c.semanticType = .relay ∨ c.semanticType = .rawCommand → c.commandId ≠ uint32Max) := by
  unfold commandField
  by_cases hcommand : c.semanticType = .relay ∨ c.semanticType = .rawCommand
  · by_cases hset : c.commandId = uint32Max
    · simp [hcommand, hset]
    · simp [hcommand, hset]
  · simp [hcommand]

theorem length_attributeField_le :
    (c.attributeField false).length ≤ (c.attributeField true).length := by
  unfold attributeField
  by_cases hcommand : c.semanticType = .rawCommand
  · simp [hcommand]
  · by_cases hset : c.attributeId = uint32Max
    · simp [hset]
    · simp [hset]

theorem length_commandField_le :
    (c.commandField false).length ≤ (c.commandField true).length := by
  unfold commandField
  by_cases hset : c.commandId = uint32Max
  · simp [hset]
  · simp [hset]

/-- An object that shows more members is not equal to one that shows fewer. -/
theorem toJson_eq_iff : c.toJson true = c.toJson false ↔ c.IdsSet := by
  unfold toJson fields
  rw [Json.object.injEq, List.append_cancel_right_eq, List.append_assoc, List.append_assoc,
    List.append_cancel_left_eq]
  constructor
  · intro h
    have hlength := congrArg List.length h
    rw [List.length_append, List.length_append] at hlength
    have hattribute := c.length_attributeField_le
    have hcommand := c.length_commandField_le
    obtain ⟨hattributes, hcommands⟩ := List.append_inj h (by omega)
    exact ⟨c.attributeField_eq_iff.mp hattributes, c.commandField_eq_iff.mp hcommands⟩
  · intro h
    rw [c.attributeField_eq_iff.mpr h.attributeId, c.commandField_eq_iff.mpr h.commandId]

end DeviceCapability

theorem DeviceRecord.toJson_eq_iff (r : DeviceRecord) :
    r.toJson true = r.toJson false ↔ ∀ c ∈ r.capabilityList, c.IdsSet := by
  unfold toJson
  rw [Json.object.injEq, List.append_cancel_left_eq, List.singleton_inj, Prod.mk.injEq,
    Json.array.injEq, List.map_inj_left]
  simp only [true_and, DeviceCapability.toJson_eq_iff]

/-- The id that an entry of the list of devices shows. -/
def shownDeviceId (entry : Json) : Option CStr :=
  Json.string? (entry.getObjectItemCaseSensitive (CStr.lit "device_id"))

theorem shownDeviceId_toJson (showUnset : Bool) (r : DeviceRecord) :
    shownDeviceId (r.toJson showUnset) = some r.deviceId.toCStr := rfl

end Orchestrator.Registry

namespace Orchestrator.Messages

open Lib Handler Registry Alloc

/-! ## Agreement -/

/-- In this state `device.get` of the device and `device.list` both succeed, and what the
first returns is the entry with that id in what the second returns. -/
def GetAgreesWithList (cfg : Config) (p : Platform) (b : Board) (deviceId : CStr) : Prop :=
  ∀ payload, requiredStringField payload "device_id" = some deviceId →
    ∃ device devices,
      (processCommandMessage cfg p (CStr.lit "device.get") payload (World.calm b)).1 =
        built (some device) "" ∧
      (processCommandMessage cfg p (CStr.lit "device.list") payload (World.calm b)).1 =
        built (some (.object [(CStr.lit "devices", .array devices)])) "" ∧
      devices.find? (fun entry => shownDeviceId entry = some deviceId) = some device

variable {cfg : Config} {p : Platform} {b : Board} {s : RegistryStore} {r : DeviceRecord}
  {payload : Json}

/-- Ids are compared over the bytes of their field. -/
theorem hasId_bytes (deviceId : CStr) :
    hasId deviceId.bytes = fun r => decide (r.deviceId.toCStr = deviceId.take 32) := by
  funext r
  rw [Bool.eq_iff_iff, decide_eq_true_iff]
  exact CharArray.strncmpEq_iff_take r.deviceId deviceId

theorem deviceGet_calm {deviceId : CStr} (hread : b.registry.read = .ok s)
    (hpayload : requiredStringField payload "device_id" = some deviceId)
    (hfind : s.devices.find? (hasId deviceId.bytes) = some r) :
    deviceGet payload (World.calm b) = (built (some (r.toJson true)) "", World.calm b) := by
  unfold deviceGet
  rw [hpayload]
  dsimp only
  rw [onOk_run_ok (deviceRegistryGetDevice_calm hread hfind)]
  unfold reply
  rw [bind_apply, allocate_eq rfl (recordToJson_yields r)]
  rfl

theorem deviceList_calm (payload : Json) (hread : b.registry.read = .ok s) :
    (deviceList payload (World.calm b)).1 = built (some (devicesTree s.devices)) "" := by
  unfold deviceList
  rw [bind_apply, deviceRegistryToJson_calm hread]
  rfl

/-- Among records with different ids, a record is found by its id. -/
theorem find?_of_regular (hs : s.Regular) (hr : r ∈ s.devices) :
    s.devices.find? (hasId r.deviceId.toCStr.bytes) = some r := by
  apply BoundedMap.find?_of_nodup hs.distinct hr
  intro r' hr'
  rw [hasId_iff (hs.records r' hr'), CStr.ofBytes_bytes]

/-- So is its entry among those of the list. -/
theorem find?_entry_of_regular (hs : s.Regular) (hr : r ∈ s.devices) :
    (s.devices.map (DeviceRecord.toJson false)).find?
        (fun entry => shownDeviceId entry = some r.deviceId.toCStr) =
      some (r.toJson false) := by
  rw [List.find?_map]
  have hfind := BoundedMap.find?_of_nodup hs.distinct hr
    (p := (fun entry => decide (shownDeviceId entry = some r.deviceId.toCStr)) ∘
      DeviceRecord.toJson false) (by simp [shownDeviceId_toJson])
  rw [hfind, Option.map_some]

theorem requiredStringField_singleton {value : CStr} (name : String)
    (h : value.isEmpty = false) :
    requiredStringField (.object [(CStr.lit name, .string value)]) name = some value := by
  simp [requiredStringField, Json.getObjectItem, nonEmptyString, Json.string?, h]

/-- In a regular registry the two commands agree about a device exactly when their
functions build the same object for it. -/
theorem getAgreesWithList_iff (hread : b.registry.read = .ok s) (hs : s.Regular)
    (hr : r ∈ s.devices) :
    GetAgreesWithList cfg p b r.deviceId.toCStr ↔ r.toJson true = r.toJson false := by
  have hget : ("device.get", deviceGet) ∈ branches cfg p :=
    mem_branches_of_device (by simp [deviceBranches])
  have hlist : ("device.list", deviceList) ∈ branches cfg p :=
    mem_branches_of_device (by simp [deviceBranches])
  have hdevice : ∀ payload,
      requiredStringField payload "device_id" = some r.deviceId.toCStr →
      (processCommandMessage cfg p (CStr.lit "device.get") payload (World.calm b)).1 =
        built (some (r.toJson true)) "" := by
    intro payload hpayload
    rw [processCommandMessage_of_mem hget]
    exact congrArg Prod.fst (deviceGet_calm hread hpayload (find?_of_regular hs hr))
  have hdevices : ∀ payload,
      (processCommandMessage cfg p (CStr.lit "device.list") payload (World.calm b)).1 =
        built (some (devicesTree s.devices)) "" := by
    intro payload
    rw [processCommandMessage_of_mem hlist]
    exact deviceList_calm payload hread
  constructor
  · intro h
    have hnamed : r.deviceId.toCStr.isEmpty = false := by
      rw [(hs.records r hr).deviceId]
      rfl
    obtain ⟨device, devices, hgot, hlisted, hfind⟩ :=
      h (.object [(CStr.lit "device_id", .string r.deviceId.toCStr)])
        (requiredStringField_singleton "device_id" hnamed)
    have hdeviceEq : some (r.toJson true) = some device :=
      congrArg CommandExecutionResult.payload
        ((hdevice _ (requiredStringField_singleton "device_id" hnamed)).symm.trans hgot)
    have hdevicesEq : some (devicesTree s.devices) =
        some (.object [(CStr.lit "devices", .array devices)]) :=
      congrArg CommandExecutionResult.payload ((hdevices _).symm.trans hlisted)
    simp only [devicesTree, Option.some.injEq, Json.object.injEq, List.cons.injEq,
      Prod.mk.injEq, Json.array.injEq, true_and, and_true] at hdevicesEq hdeviceEq
    rw [← hdevicesEq, find?_entry_of_regular hs hr, Option.some.injEq] at hfind
    rw [hdeviceEq, hfind]
  · intro heq payload hpayload
    refine ⟨_, _, hdevice payload hpayload, hdevices payload, ?_⟩
    rw [find?_entry_of_regular hs hr, heq]

/-- In every state that commands and restarts lead to, `device.get` agrees with
`device.list` about a registered device exactly when all the ids that are shown for its
capabilities are set. -/
theorem deviceGet_agrees_iff (cfg : Config) (p : Platform) {w w' : World}
    (hempty : EmptyRegistry w) (run : Relation.ReflTransGen (Step cfg p) w w') :
    ∃ s : RegistryStore, w'.board.registry.read = .ok s ∧
      ∀ r ∈ s.devices, GetAgreesWithList cfg p w'.board r.deviceId.toCStr ↔
        ∀ c ∈ r.capabilityList, c.IdsSet := by
  obtain ⟨s, hread, hs, -⟩ :=
    exists_read_of_regularFlash (regularFlash_run (regularFlash_of_empty hempty) run)
  refine ⟨s, hread, fun r hr => ?_⟩
  rw [getAgreesWithList_iff hread hs hr, DeviceRecord.toJson_eq_iff]

/-- A lamp that is switched by a command, with the attribute that it reports. -/
def lampPayload : Json :=
  .object
    [(CStr.lit "device_id", .string (CStr.lit "node-18446744073709551615")),
     (CStr.lit "capability_id", .string (CStr.lit "lamp")),
     (CStr.lit "semantic_type", .string (CStr.lit "relay")),
     (CStr.lit "endpoint_id", .number 1),
     (CStr.lit "cluster_id", .number 6),
     (CStr.lit "attribute_id", .number 0)]

def lampWorld : World :=
  (processCommandMessage Config.full (Platform.parsing "null" .null)
    (CStr.lit "device.capability.add") lampPayload pairedWorld).2

theorem deviceGet_agrees_lampWorld :
    ∃ s : RegistryStore, (s.devices.map fun r => r.capabilityList.length) = [1] ∧
      ∀ r ∈ s.devices, GetAgreesWithList Config.full (Platform.parsing "null" .null)
        lampWorld.board r.deviceId.toCStr := by
  have run : Relation.ReflTransGen (Step Config.full (Platform.parsing "null" .null))
      (World.calm threadAttached) lampWorld :=
    run_pairedWorld.tail (.command ("device.capability.add", addCapabilityCommand) _ lampPayload
      (List.mem_cons_of_mem _ List.mem_cons_self))
  obtain ⟨s, hread, hiff⟩ := deviceGet_agrees_iff Config.full (Platform.parsing "null" .null)
    ⟨rfl, rfl⟩ run
  have hids : (lampWorld.board.registry.read.toOption.map fun s => s.devices.map fun r =>
      r.capabilityList.map fun c => (c.semanticType, c.attributeId, c.commandId)) =
        some [[(.relay, 0, 1)]] := by decide +kernel
  rw [hread] at hids
  have hdevices : (s.devices.map fun r =>
      r.capabilityList.map fun c => (c.semanticType, c.attributeId, c.commandId)) =
        [[(.relay, 0, 1)]] := Option.some.inj hids
  refine ⟨s, ?_, fun r hr => (hiff r hr).mpr fun c hc => ?_⟩
  · have hlengths := congrArg (List.map List.length) hdevices
    rw [List.map_map] at hlengths
    simpa [Function.comp_def] using hlengths
  · have hlist := List.mem_map_of_mem (f := fun r : DeviceRecord => r.capabilityList.map fun c =>
      (c.semanticType, c.attributeId, c.commandId)) hr
    rw [hdevices, List.mem_singleton] at hlist
    have hshown := List.mem_map_of_mem (f := fun c : DeviceCapability =>
      (c.semanticType, c.attributeId, c.commandId)) hc
    rw [hlist, List.mem_singleton] at hshown
    simp only [Prod.mk.injEq] at hshown
    obtain ⟨-, hattribute, hcommand⟩ := hshown
    constructor
    · intro _
      rw [hattribute]
      decide
    · intro _
      rw [hcommand]
      decide

/-- `device.get` shows an attribute of the relay that `device.list` does not show. -/
theorem deviceGet_differs_relayWorld :
    EmptyRegistry (World.calm threadAttached) ∧
    Relation.ReflTransGen (Step Config.full (Platform.parsing "null" .null))
      (World.calm threadAttached) relayWorld ∧
    ∃ s : RegistryStore, relayWorld.board.registry.read = .ok s ∧ ∃ r ∈ s.devices,
      ¬GetAgreesWithList Config.full (Platform.parsing "null" .null) relayWorld.board
        r.deviceId.toCStr := by
  have hempty : EmptyRegistry (World.calm threadAttached) := ⟨rfl, rfl⟩
  refine ⟨hempty, run_relayWorld, ?_⟩
  obtain ⟨s, hread, hs, -⟩ :=
    exists_read_of_regularFlash (regularFlash_run (regularFlash_of_empty hempty) run_relayWorld)
  have hdevices : relayWorld.board.registry.read.toOption.map
      (fun s => s.devices.map fun r =>
        r.capabilityList.any fun c => c.semanticType = .relay ∧ c.attributeId = uint32Max) =
      some [true] := by decide +kernel
  rw [hread] at hdevices
  have hrelays : (s.devices.map fun r =>
      r.capabilityList.any fun c => c.semanticType = .relay ∧ c.attributeId = uint32Max) =
      [true] := Option.some.inj hdevices
  have htrue : true ∈ s.devices.map fun r =>
      r.capabilityList.any fun c => c.semanticType = .relay ∧ c.attributeId = uint32Max := by
    rw [hrelays]
    exact List.mem_singleton_self _
  obtain ⟨r, hr, hany⟩ := List.mem_map.mp htrue
  refine ⟨s, hread, r, hr, fun hagrees => ?_⟩
  obtain ⟨c, hc, hrelay⟩ := List.any_eq_true.mp hany
  rw [decide_eq_true_eq] at hrelay
  rw [getAgreesWithList_iff hread hs hr, DeviceRecord.toJson_eq_iff] at hagrees
  refine (hagrees c hc).attributeId ?_ hrelay.2
  rw [hrelay.1]
  decide

end Orchestrator.Messages
