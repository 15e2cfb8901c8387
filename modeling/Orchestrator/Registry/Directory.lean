import Mathlib.Data.List.Find
import Mathlib.Data.List.GetD
import Orchestrator.Lib.BoundedMap
import Orchestrator.Registry.Api

/-!
# The directory of devices

What the registry is for: a map from device ids to devices that remembers the
order in which the ids came and has room for sixteen of them. A store in flash
represents such a map, and so does the store that an operation saves.
-/

namespace Orchestrator.Registry

open Lib

/-- A record whose buffers are strings, with a name and a count in bounds. -/
structure DeviceRecord.Proper (r : DeviceRecord) : Prop where
  deviceId : r.deviceId.Terminated
  named : r.deviceId.head ≠ 0
  label : r.label.Terminated
  productName : r.productName.Terminated
  location : r.location.Terminated
  capabilityCount : r.capabilityCount ≤ deviceRegistryCapabilityMax
  capabilities : ∀ c ∈ r.capabilityList, c.capabilityId.Terminated ∧ c.label.Terminated

/-- What callers hand to `device_registry_upsert_device`. -/
abbrev ProperRecord := { r : DeviceRecord // r.Proper }

abbrev DeviceMap := BoundedMap (fun r : DeviceRecord => r.deviceId.toCStr) maxRecords

/-! ## Entries and what is told of them -/

/-- The first 31 bytes of a text, and zeros behind them. -/
def textField (text : CStr) : CharArray 32 :=
  Vector.ofFn fun i => if i.val < 31 then text.bytes.getD i.val 0 else 0

/-- The capabilities that the count of a record says it has. -/
def capabilitiesOf (r : DeviceRecord) : List DeviceCapability :=
  r.capabilities.toList.take r.capabilityCount.toNat

/-- The names of the types in the messages. A code without a name of its own goes by the name
of the raw attributes. -/
def wireName (semanticType : DeviceCapabilitySemanticType) : CStr :=
  if semanticType = .temperature then CStr.lit "temperature"
  else if semanticType = .pressure then CStr.lit "pressure"
  else if semanticType = .relay then CStr.lit "relay"
  else if semanticType = .rawCommand then CStr.lit "raw_command"
  else CStr.lit "raw_attribute"

/-- What is told of a capability. An id of all ones is not set, and may be left out. -/
def capabilityEntry (showUnset : Bool) (c : DeviceCapability) : Json :=
  .object (
    [(CStr.lit "capability_id", .string c.capabilityId.toCStr),
     (CStr.lit "semantic_type", .string (wireName c.semanticType)),
     (CStr.lit "endpoint_id", .number c.endpointId.toNat),
     (CStr.lit "cluster_id", .number c.clusterId.toNat)] ++
    (if c.semanticType = .rawCommand ∨ (c.attributeId = 0xFFFFFFFF ∧ ¬showUnset) then []
      else [(CStr.lit "attribute_id", .number c.attributeId.toNat)]) ++
    (if (c.semanticType ≠ .relay ∧ c.semanticType ≠ .rawCommand) ∨
        (c.commandId = 0xFFFFFFFF ∧ ¬showUnset) then []
      else [(CStr.lit "command_id", .number c.commandId.toNat)]) ++
    [(CStr.lit "label", .string c.label.toCStr)])

/-- What is told of a device, with its capabilities in their order. -/
def deviceEntry (showUnset : Bool) (r : DeviceRecord) : List (CStr × Json) :=
  [(CStr.lit "device_id", .string r.deviceId.toCStr),
   (CStr.lit "node_id", .string (CStr.decimal r.nodeId.toNat)),
   (CStr.lit "label", .string r.label.toCStr),
   (CStr.lit "reachable", .bool (r.reachable ≠ 0)),
   (CStr.lit "vendor_id", .number r.vendorId.toNat),
   (CStr.lit "product_id", .number r.productId.toNat),
   (CStr.lit "product_name", .string r.productName.toCStr),
   (CStr.lit "location", .string r.location.toCStr),
   (CStr.lit "capabilities", .array ((capabilitiesOf r).map (capabilityEntry showUnset)))]

/-! ## The operations -/

namespace DeviceMap

def get (m : DeviceMap) (deviceId : CStr) : EspResult DeviceRecord :=
  match m.lookup deviceId with
  | some r => .ok r
  | none => .error EspErr.notFound

def upsertDevice (m : DeviceMap) (r : DeviceRecord) : EspResult Unit × DeviceMap :=
  match m.upsert r with
  | some m' => (.ok ⟨⟩, m')
  | none => (.error EspErr.noMem, m)

def remove (m : DeviceMap) (deviceId : CStr) : EspResult Unit × DeviceMap :=
  match m.lookup deviceId with
  | some _ => (.ok ⟨⟩, m.erase deviceId)
  | none => (.error EspErr.notFound, m)

def rename (m : DeviceMap) (deviceId label : CStr) : EspResult Unit × DeviceMap :=
  match m.lookup deviceId with
  | some _ =>
      (.ok ⟨⟩, m.modify deviceId (fun r => { r with label := textField label }) fun _ h => h)
  | none => (.error EspErr.notFound, m)

def findCapability (m : DeviceMap) (deviceId : CStr)
    (semanticType : DeviceCapabilitySemanticType) :
    EspResult (DeviceRecord × DeviceCapability) :=
  match m.lookup deviceId with
  | some r =>
      match (capabilitiesOf r).find? fun c => c.semanticType = semanticType with
      | some c => .ok (r, c)
      | none => .error EspErr.notFound
  | none => .error EspErr.notFound

/-- The list of the devices in their order. -/
def toJson (m : DeviceMap) : Json :=
  .object [(CStr.lit "devices", .array (m.entries.map fun r => .object (deviceEntry false r)))]

end DeviceMap

/-! ## What the program computes of an entry -/

theorem copyField_eq_textField (text : CStr) :
    CharArray.copyField 32 text = textField text := by
  have hlength : (text.take 31).bytes.length = min 31 text.bytes.length := List.length_take
  apply Vector.toList_inj.mp
  apply List.ext_getElem
  · simp
  · intro i hi _
    rw [Vector.length_toList] at hi
    have hfits : i < (textField text).toList.length := by simpa using hi
    have hcell : (textField text).toList[i] = if i < 31 then text.bytes.getD i 0 else 0 := by
      simp [textField]
    rw [hcell]
    simp only [CharArray.toList_copyField]
    by_cases hcopied : i < min 31 text.bytes.length
    · rw [List.getElem_append_left (by rw [hlength]; exact hcopied), if_pos (by omega),
        List.getD_eq_getElem _ _ (by omega)]
      simp
    · rw [List.getElem_append_right (by rw [hlength]; omega), List.getElem_replicate]
      split
      · rw [List.getD_eq_default _ _ (by omega)]
      · rfl

theorem relabel_eq (label : CStr) (r : DeviceRecord) :
    r.relabel label = { r with label := textField label } := by
  rw [DeviceRecord.relabel, copyField_eq_textField]

theorem ofType_eq (r : DeviceRecord) (semanticType : DeviceCapabilitySemanticType) :
    r.ofType semanticType =
      (capabilitiesOf r).find? fun c => c.semanticType = semanticType := rfl

theorem toString_eq_wireName (semanticType : DeviceCapabilitySemanticType) :
    semanticType.toString = wireName semanticType := by
  cases semanticType <;> simp [wireName, DeviceCapabilitySemanticType.toString]

section Entries

variable (showUnset : Bool)

theorem toJson_eq_capabilityEntry (c : DeviceCapability) :
    c.toJson showUnset = capabilityEntry showUnset c := by
  have hattribute : c.attributeField showUnset =
      if c.semanticType = .rawCommand ∨ (c.attributeId = 0xFFFFFFFF ∧ ¬showUnset) then []
      else [(CStr.lit "attribute_id", .number c.attributeId.toNat)] := by
    by_cases htype : c.semanticType = .rawCommand <;>
      by_cases hid : c.attributeId = 0xFFFFFFFF <;>
      cases showUnset <;> simp [DeviceCapability.attributeField, uint32Max, htype, hid]
  have hcommand : c.commandField showUnset =
      if (c.semanticType ≠ .relay ∧ c.semanticType ≠ .rawCommand) ∨
        (c.commandId = 0xFFFFFFFF ∧ ¬showUnset) then []
      else [(CStr.lit "command_id", .number c.commandId.toNat)] := by
    by_cases hid : c.commandId = 0xFFFFFFFF <;>
      by_cases hrelay : c.semanticType = .relay <;>
      by_cases hraw : c.semanticType = .rawCommand <;>
      cases showUnset <;>
      simp [DeviceCapability.commandField, uint32Max, hid, hrelay, hraw]
  rw [DeviceCapability.toJson, DeviceCapability.fields, hattribute, hcommand, toString_eq_wireName,
    capabilityEntry]

theorem fields_eq_deviceEntry (r : DeviceRecord) :
    r.fields ++ [(CStr.lit "capabilities",
        .array (r.capabilityList.map (DeviceCapability.toJson showUnset)))] =
      deviceEntry showUnset r := by
  have hcapabilities : DeviceCapability.toJson showUnset = capabilityEntry showUnset :=
    funext (toJson_eq_capabilityEntry showUnset)
  rw [hcapabilities]
  rfl

end Entries

theorem devicesTree_eq_toJson (m : DeviceMap) : devicesTree m.entries = m.toJson := by
  have hentries : DeviceRecord.toJson false = fun r => .object (deviceEntry false r) := by
    funext r
    rw [DeviceRecord.toJson, fields_eq_deviceEntry]
  rw [devicesTree, DeviceMap.toJson, hentries]

/-! ## Stores that represent a map -/

/-- The records in use are the entries of the map in their order. -/
structure Represents (s : RegistryStore) (m : DeviceMap) : Prop where
  version : s.version = registryVersion
  count : s.count.toNat ≤ maxRecords
  devices : s.devices = m.entries
  proper : ∀ r ∈ m.entries, r.Proper

namespace Represents

variable {s : RegistryStore} {m m' : DeviceMap} {i : Nat}

theorem initEmptyStore : Represents initEmptyStore BoundedMap.empty where
  version := rfl
  count := Nat.zero_le _
  devices := rfl
  proper _ h := absurd h List.not_mem_nil

theorem accepted (h : Represents s m) : s.Accepted where
  version := h.version
  count := h.count
  capabilities r hr := (h.proper r (h.devices ▸ hr)).capabilityCount

theorem length_entries (h : Represents s m) : m.entries.length = s.count.toNat := by
  rw [← h.devices]
  exact CountedArray.length_view h.count

/-- On the records in use the bounded comparison is equality of the ids. -/
theorem hasId_eq (h : Represents s m) (deviceId : List UInt8) {r : DeviceRecord}
    (hr : r ∈ m.entries) :
    hasId deviceId r = decide (r.deviceId.toCStr = CStr.ofBytes deviceId) := by
  apply Bool.eq_iff_iff.mpr
  rw [decide_eq_true_iff]
  exact CharArray.strncmpEq_iff_ofBytes (h.proper r hr).deviceId deviceId

theorem findRecord_eq (h : Represents s m) (deviceId : List UInt8) :
    findRecord s deviceId =
      m.entries.findIdx? fun r => r.deviceId.toCStr = CStr.ofBytes deviceId := by
  have hcount : s.count.toNat ≤ 16 := h.count
  rw [findRecord, CountedArray.findIndex_eq _ _ hcount, ← RegistryStore.devices, h.devices]
  exact CountedArray.findIdx?_congr fun r hr => h.hasId_eq deviceId hr

/-- The entry at the index at which the search stops. -/
theorem found (h : Represents s m) {deviceId : CStr}
    (hfind : findRecord s deviceId.bytes = some i) :
    i < s.count.toNat ∧ m.entries.findIdx? (fun r => r.deviceId.toCStr = deviceId) = some i ∧
      ∃ r, m.lookup deviceId = some r ∧ m.entries[i]? = some r := by
  have hindex := h.findRecord_eq deviceId.bytes
  rw [hfind, CStr.ofBytes_bytes] at hindex
  obtain ⟨r, hlookup, hr, -⟩ := BoundedMap.lookup_eq_some hindex.symm
  refine ⟨?_, hindex.symm, r, hlookup, hr⟩
  rw [← h.length_entries]
  exact (List.getElem?_eq_some_iff.mp hr).1

theorem notFound (h : Represents s m) {deviceId : CStr}
    (hfind : findRecord s deviceId.bytes = none) : m.lookup deviceId = none := by
  have hindex := h.findRecord_eq deviceId.bytes
  rw [hfind, CStr.ofBytes_bytes] at hindex
  exact BoundedMap.lookup_eq_none hindex.symm

theorem find?_eq (h : Represents s m) (deviceId : CStr) :
    s.devices.find? (hasId deviceId.bytes) = m.lookup deviceId := by
  rw [h.devices]
  apply List.find?_congr
  intro r hr
  rw [h.hasId_eq deviceId.bytes hr, CStr.ofBytes_bytes]

/-! ### Updates -/

theorem set (h : Represents s m) {r : DeviceRecord} (hr : r.Proper)
    (hm' : m'.entries = m.entries.set i r) :
    Represents { s with records := s.records.setIfInBounds i r } m' where
  version := h.version
  count := h.count
  devices := by rw [hm', ← h.devices, devices_set]
  proper := by
    intro r' hr'
    rw [hm'] at hr'
    rcases List.mem_or_eq_of_mem_set hr' with hr' | rfl
    · exact h.proper r' hr'
    · exact hr

theorem append (h : Represents s m) {r : DeviceRecord} (hr : r.Proper)
    (hroom : s.count.toNat < maxRecords) (hm' : m'.entries = m.entries ++ [r]) :
    Represents { s with
      count := s.count + 1
      records := s.records.setIfInBounds s.count.toNat r } m' where
  version := h.version
  count := by
    rw [toNat_count_append hroom]
    exact hroom
  devices := by rw [hm', ← h.devices, devices_append hroom]
  proper := by
    intro r' hr'
    rw [hm'] at hr'
    rcases List.mem_append.mp hr' with hr' | hr'
    · exact h.proper r' hr'
    · exact List.mem_singleton.mp hr' ▸ hr

theorem eraseIdx (h : Represents s m) (hi : i < s.count.toNat)
    (hm' : m'.entries = m.entries.eraseIdx i) :
    Represents { s with
      records := CountedArray.shiftDown s.records i s.count.toNat
      count := s.count - 1 } m' where
  version := h.version
  count := by
    rw [toNat_count_remove hi]
    exact Nat.le_trans (Nat.sub_le _ _) h.count
  devices := by rw [hm', ← h.devices, devices_remove hi h.count]
  proper := by
    intro r' hr'
    rw [hm'] at hr'
    exact h.proper r' (List.mem_of_mem_eraseIdx hr')

end Represents

end Orchestrator.Registry
