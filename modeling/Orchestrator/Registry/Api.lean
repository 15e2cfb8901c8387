import Orchestrator.Registry.RecordJson
import Orchestrator.Registry.Store

/-!
# The functions of the device registry

Every pointer argument is taken to be non-null.
-/

namespace Orchestrator.Registry

open Lib Handler

/-- The search of every operation: `strncmp` over `DEVICE_REGISTRY_ID_MAX` bytes
against the memory that the id points to. -/
def hasId (deviceId : List UInt8) (r : DeviceRecord) : Bool :=
  strncmpEq r.deviceId.toList deviceId 32

/-- The index at which the search loop stops. -/
def findRecord (store : RegistryStore) (deviceId : List UInt8) : Option Nat :=
  CountedArray.findIndex (hasId deviceId) store.records store.count.toNat

/-- `copy_field(record.label, label, sizeof(record.label))` -/
def DeviceRecord.relabel (label : CStr) (r : DeviceRecord) : DeviceRecord :=
  { r with label := CharArray.copyField 32 label }

/-- The label of `records[i]` is replaced. -/
def setLabel (records : Vector DeviceRecord 16) (i : Nat) (label : CStr) :
    Vector DeviceRecord 16 :=
  match records[i]? with
  | some r => records.setIfInBounds i (r.relabel label)
  | none => records

/-- `device_registry_init` -/
def deviceRegistryInit : Esp Unit := do
  allocStore
  let store ← loadStore
  saveStore store

/-- `device_registry_upsert_device` -/
def deviceRegistryUpsertDevice (record : DeviceRecord) : Esp Unit := do
  if record.deviceId[0] = 0 ∨ deviceRegistryCapabilityMax < record.capabilityCount then
    throw EspErr.invalidArg
  else
    allocStore
    let store ← loadStore
    match findRecord store record.deviceId.toList with
    | some i => saveAndNotify { store with records := store.records.setIfInBounds i record }
    | none =>
        if maxRecords ≤ store.count.toNat then throw EspErr.noMem
        else saveAndNotify { store with
          count := store.count + 1
          records := store.records.setIfInBounds store.count.toNat record }

/-- `device_registry_get_device` -/
def deviceRegistryGetDevice (deviceId : CStr) : Esp DeviceRecord := do
  allocStore
  let store ← loadStore
  match store.devices.find? (hasId deviceId.bytes) with
  | some r => return r
  | none => throw EspErr.notFound

/-- `device_registry_remove_device` -/
def deviceRegistryRemoveDevice (deviceId : CStr) : Esp Unit := do
  allocStore
  let store ← loadStore
  match findRecord store deviceId.bytes with
  | some i => saveAndNotify { store with
      records := CountedArray.shiftDown store.records i store.count.toNat
      count := store.count - 1 }
  | none => throw EspErr.notFound

/-- `device_registry_rename_device` -/
def deviceRegistryRenameDevice (deviceId label : CStr) : Esp Unit := do
  allocStore
  let store ← loadStore
  match findRecord store deviceId.bytes with
  | some i => saveAndNotify { store with records := setLabel store.records i label }
  | none => throw EspErr.notFound

/-- The first capability of a type. -/
def DeviceRecord.ofType (r : DeviceRecord) (semanticType : DeviceCapabilitySemanticType) :
    Option DeviceCapability :=
  r.capabilityList.find? fun c => c.semanticType = semanticType

/-- `device_registry_find_capability` -/
def deviceRegistryFindCapability (deviceId : CStr) (semanticType : DeviceCapabilitySemanticType) :
    Esp (DeviceRecord × DeviceCapability) := do
  let found ← deviceRegistryGetDevice deviceId
  match found.ofType semanticType with
  | some c => return (found, c)
  | none => throw EspErr.notFound

/-- The first capability with these ids. -/
def DeviceRecord.atPath (r : DeviceRecord) (endpointId : UInt16) (clusterId attributeId : UInt32) :
    Option DeviceCapability :=
  r.capabilityList.find? fun c =>
    c.endpointId = endpointId ∧ c.clusterId = clusterId ∧ c.attributeId = attributeId

/-- `device_registry_find_capability_by_path` -/
def deviceRegistryFindCapabilityByPath (nodeId : UInt64) (endpointId : UInt16)
    (clusterId attributeId : UInt32) : Esp (DeviceRecord × DeviceCapability) := do
  allocStore
  let store ← loadStore
  match store.devices.findSome? fun r =>
      if r.nodeId ≠ nodeId then none
      else (r.atPath endpointId clusterId attributeId).map fun c => (r, c) with
  | some found => return found
  | none => throw EspErr.notFound

/-- `device_registry_to_json` -/
def deviceRegistryToJson : Handler (Option Json) := do
  if (← malloc) = false then return none
  else
    match ← (loadStore.run : Handler (EspResult RegistryStore)) with
    | .error _ => return none
    | .ok store => allocate (devicesToJson store.devices)

/-! ## The devices after an update -/

variable {s : RegistryStore} {i : Nat} {record : DeviceRecord}

theorem lt_of_findRecord {deviceId : List UInt8} (h : findRecord s deviceId = some i) :
    i < s.count.toNat :=
  List.mem_range.mp (List.mem_of_find?_eq_some h)

theorem devices_set :
    RegistryStore.devices { s with records := s.records.setIfInBounds i record } =
      s.devices.set i record :=
  CountedArray.view_set _ _ _ _

theorem toNat_count_append (hroom : s.count.toNat < maxRecords) :
    (s.count + 1).toNat = s.count.toNat + 1 := by
  unfold maxRecords at hroom
  rw [UInt32.toNat_add, UInt32.toNat_one, Nat.mod_eq_of_lt (by omega)]

theorem devices_append (hroom : s.count.toNat < maxRecords) :
    RegistryStore.devices { s with
      count := s.count + 1
      records := s.records.setIfInBounds s.count.toNat record } = s.devices ++ [record] := by
  unfold RegistryStore.devices
  dsimp only
  rw [toNat_count_append hroom]
  exact CountedArray.view_append _ hroom _

theorem toNat_count_remove (hi : i < s.count.toNat) :
    (s.count - 1).toNat = s.count.toNat - 1 := by
  have hone : (1 : UInt32) ≤ s.count := UInt32.le_iff_toNat_le.mpr (by simp; omega)
  rw [UInt32.toNat_sub_of_le _ _ hone, UInt32.toNat_one]

theorem devices_remove (hi : i < s.count.toNat) (hcount : s.count.toNat ≤ maxRecords) :
    RegistryStore.devices { s with
      records := CountedArray.shiftDown s.records i s.count.toNat
      count := s.count - 1 } = s.devices.eraseIdx i := by
  unfold RegistryStore.devices
  dsimp only
  rw [toNat_count_remove hi]
  exact CountedArray.view_shiftDown _ hi hcount

/-- The record whose label is replaced is one of those in use. -/
theorem setLabel_eq (hi : i < s.count.toNat) (hcount : s.count.toNat ≤ maxRecords)
    (label : CStr) : ∃ r, s.devices[i]? = some r ∧
      setLabel s.records i label = s.records.setIfInBounds i (r.relabel label) := by
  have hlt : i < 16 := Nat.lt_of_lt_of_le hi hcount
  have hcell : s.records[i]? = some s.records[i] := Vector.getElem?_eq_getElem hlt
  refine ⟨s.records[i], ?_, ?_⟩
  · rw [RegistryStore.devices, CountedArray.getElem?_view s.records hi, hcell]
  · unfold setLabel
    rw [hcell]

end Orchestrator.Registry
