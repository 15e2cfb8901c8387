import Orchestrator.Lib.CString
import Orchestrator.Lib.CountedArray
import Orchestrator.Lib.Layout

/-!
# Device records and their layout in flash

The structures are stored as they lie in memory, so that their padding and the
cells behind a count are part of them.
-/

namespace Orchestrator.Registry

open Lib

/-- The enumeration, and the values of its storage that name no enumerator. -/
inductive DeviceCapabilitySemanticType
  | temperature
  | pressure
  | relay
  | rawAttribute
  | rawCommand
  | other (code : {n : UInt32 // 5 ≤ n})
  deriving DecidableEq, Repr

namespace DeviceCapabilitySemanticType

def code : DeviceCapabilitySemanticType → UInt32
  | temperature => 0
  | pressure => 1
  | relay => 2
  | rawAttribute => 3
  | rawCommand => 4
  | other n => n.val

def ofCode (n : UInt32) : DeviceCapabilitySemanticType :=
  if h : 5 ≤ n then other ⟨n, h⟩
  else if n = 0 then temperature
  else if n = 1 then pressure
  else if n = 2 then relay
  else if n = 3 then rawAttribute
  else rawCommand

theorem ofCode_code (t : DeviceCapabilitySemanticType) : ofCode t.code = t := by
  cases t with
  | temperature | pressure | relay | rawAttribute | rawCommand => rfl
  | other n =>
      unfold ofCode
      exact dif_pos n.property

theorem code_ofCode (n : UInt32) : (ofCode n).code = n := by
  unfold ofCode
  split
  · rfl
  · next h =>
    have hlt : n < 5 := by simpa using h
    split
    · next h0 => exact h0.symm
    · split
      · next h1 => exact h1.symm
      · split
        · next h2 => exact h2.symm
        · split
          · next h3 => exact h3.symm
          · show 4 = n
            grind

/-- `device_registry_semantic_type_to_string` -/
def toString : DeviceCapabilitySemanticType → CStr
  | temperature => CStr.lit "temperature"
  | pressure => CStr.lit "pressure"
  | relay => CStr.lit "relay"
  | rawAttribute => CStr.lit "raw_attribute"
  | rawCommand => CStr.lit "raw_command"
  | other _ => CStr.lit "raw_attribute"

/-- `device_registry_semantic_type_from_string` -/
def fromString (s : CStr) : Option DeviceCapabilitySemanticType :=
  if s = CStr.lit "temperature" then some temperature
  else if s = CStr.lit "pressure" then some pressure
  else if s = CStr.lit "relay" then some relay
  else if s = CStr.lit "raw_attribute" then some rawAttribute
  else if s = CStr.lit "raw_command" then some rawCommand
  else none

end DeviceCapabilitySemanticType

structure DeviceCapability where
  capabilityId : CharArray 32
  semanticType : DeviceCapabilitySemanticType
  endpointId : UInt16
  padding : Vector UInt8 2
  clusterId : UInt32
  attributeId : UInt32
  commandId : UInt32
  label : CharArray 32
  deriving DecidableEq, Repr

structure DeviceRecord where
  deviceId : CharArray 32
  nodeId : UInt64
  label : CharArray 32
  /-- The byte of the `bool`. -/
  reachable : UInt8
  padding : Vector UInt8 3
  vendorId : UInt32
  productId : UInt32
  productName : CharArray 32
  location : CharArray 32
  capabilityCount : UInt32
  capabilities : Vector DeviceCapability 8
  deriving DecidableEq, Repr

structure RegistryStore where
  version : UInt32
  count : UInt32
  records : Vector DeviceRecord 16
  deriving DecidableEq, Repr

def maxRecords : Nat := 16
def registryVersion : UInt32 := 2
def deviceRegistryCapabilityMax : UInt32 := 8

/-- `DeviceCapability capability = {}` -/
def DeviceCapability.zero : DeviceCapability where
  capabilityId := Vector.replicate 32 0
  semanticType := .temperature
  endpointId := 0
  padding := Vector.replicate 2 0
  clusterId := 0
  attributeId := 0
  commandId := 0
  label := Vector.replicate 32 0

/-- `DeviceRecord record = {}` -/
def DeviceRecord.zero : DeviceRecord where
  deviceId := Vector.replicate 32 0
  nodeId := 0
  label := Vector.replicate 32 0
  reachable := 0
  padding := Vector.replicate 3 0
  vendorId := 0
  productId := 0
  productName := Vector.replicate 32 0
  location := Vector.replicate 32 0
  capabilityCount := 0
  capabilities := Vector.replicate 8 DeviceCapability.zero

/-- A node with an air sensor and, behind it, a vent. -/
def greenhouse : DeviceRecord :=
  let air := { DeviceCapability.zero with
    capabilityId := CharArray.copyField 32 (CStr.lit "air")
    endpointId := 1
    clusterId := 1026 }
  let vent := { DeviceCapability.zero with
    capabilityId := CharArray.copyField 32 (CStr.lit "vent")
    semanticType := .relay
    endpointId := 2
    clusterId := 6 }
  { DeviceRecord.zero with
    deviceId := CharArray.copyField 32 (CStr.lit "node-7")
    nodeId := 7
    label := CharArray.copyField 32 (CStr.lit "greenhouse")
    capabilityCount := 2
    capabilities := (DeviceRecord.zero.capabilities.setIfInBounds 0 air).setIfInBounds 1 vent }

/-- `init_empty_store` -/
def initEmptyStore : RegistryStore where
  version := registryVersion
  count := 0
  records := Vector.replicate 16 DeviceRecord.zero

/-- The capabilities in use. -/
def DeviceRecord.capabilityList (r : DeviceRecord) : List DeviceCapability :=
  CountedArray.view r.capabilities r.capabilityCount.toNat

/-- The records in use. -/
def RegistryStore.devices (s : RegistryStore) : List DeviceRecord :=
  CountedArray.view s.records s.count.toNat

/-! ## Layout -/

def charArray (n : Nat) : Layout (CharArray n) := Layout.byte.vector n

def semanticTypeLayout : Layout DeviceCapabilitySemanticType :=
  Layout.uint32.ofEquiv
    { toFun := DeviceCapabilitySemanticType.ofCode
      invFun := DeviceCapabilitySemanticType.code
      left_inv := DeviceCapabilitySemanticType.code_ofCode
      right_inv := DeviceCapabilitySemanticType.ofCode_code }

def deviceCapabilityLayout : Layout DeviceCapability :=
  ((charArray 32).prod (semanticTypeLayout.prod (Layout.uint16.prod ((charArray 2).prod
    (Layout.uint32.prod (Layout.uint32.prod (Layout.uint32.prod (charArray 32)))))))).ofEquiv
    { toFun := fun (capabilityId, semanticType, endpointId, padding, clusterId, attributeId,
        commandId, label) =>
        { capabilityId, semanticType, endpointId, padding, clusterId, attributeId, commandId,
          label }
      invFun := fun c => (c.capabilityId, c.semanticType, c.endpointId, c.padding, c.clusterId,
        c.attributeId, c.commandId, c.label)
      left_inv := fun _ => rfl
      right_inv := fun _ => rfl }

def deviceRecordLayout : Layout DeviceRecord :=
  ((charArray 32).prod (Layout.uint64.prod ((charArray 32).prod (Layout.byte.prod
    ((charArray 3).prod (Layout.uint32.prod (Layout.uint32.prod ((charArray 32).prod
      ((charArray 32).prod (Layout.uint32.prod
        (deviceCapabilityLayout.vector 8))))))))))).ofEquiv
    { toFun := fun (deviceId, nodeId, label, reachable, padding, vendorId, productId,
        productName, location, capabilityCount, capabilities) =>
        { deviceId, nodeId, label, reachable, padding, vendorId, productId, productName,
          location, capabilityCount, capabilities }
      invFun := fun r => (r.deviceId, r.nodeId, r.label, r.reachable, r.padding, r.vendorId,
        r.productId, r.productName, r.location, r.capabilityCount, r.capabilities)
      left_inv := fun _ => rfl
      right_inv := fun _ => rfl }

def registryStoreLayout : Layout RegistryStore :=
  (Layout.uint32.prod (Layout.uint32.prod (deviceRecordLayout.vector 16))).ofEquiv
    { toFun := fun (version, count, records) => { version, count, records }
      invFun := fun s => (s.version, s.count, s.records)
      left_inv := fun _ => rfl
      right_inv := fun _ => rfl }

example : deviceCapabilityLayout.size = 84 := rfl

example : deviceRecordLayout.size = 824 := rfl

/-- `sizeof(RegistryStore)` -/
example : registryStoreLayout.size = 13192 := rfl

/-! ## Accepted stores -/

/-- What `load_store` checks before it accepts a blob. -/
structure RegistryStore.Accepted (s : RegistryStore) : Prop where
  version : s.version = registryVersion
  count : s.count.toNat ≤ maxRecords
  capabilities : ∀ r ∈ s.devices, r.capabilityCount ≤ deviceRegistryCapabilityMax

theorem accepted_initEmptyStore : initEmptyStore.Accepted where
  version := rfl
  count := Nat.zero_le _
  capabilities _ h := absurd h List.not_mem_nil

end Orchestrator.Registry
