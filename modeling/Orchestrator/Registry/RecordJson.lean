import Orchestrator.Platform.Json
import Orchestrator.Registry.Record

/-!
# Records as JSON

The members of an object are left out one by one when memory runs out, but the
items of an array are not: when one of them cannot be built there is no result.

The registry and the handler of inbound messages each have their own copy of the
functions. They differ in the ids that are not set: the registry leaves them out.
-/

namespace Orchestrator.Registry

open Lib Alloc

/-- `UINT32_MAX` -/
def uint32Max : UInt32 := 0xFFFFFFFF

/-- The loop that builds the items of an array and gives up at the first failure. -/
def itemsToJson {α : Type} (itemToJson : α → Alloc (Option Json)) :
    List α → Alloc (Option (List Json))
  | [] => return some []
  | a :: rest => do
      match ← itemToJson a with
      | none => return none
      | some item =>
          match ← itemsToJson itemToJson rest with
          | none => return none
          | some items => return some (item :: items)

/-- `cJSON_AddArrayToObject` followed by the loop that fills the array. -/
def addArrayToObject {α : Type} (object : Json) (name : CStr)
    (itemToJson : α → Alloc (Option Json)) (elements : List α) : Alloc (Option Json) := do
  if ← next then
    match ← itemsToJson itemToJson elements with
    | none => return none
    | some items => return some (object.add name (.array items))
  else return none

namespace DeviceCapability

def attributeField (showUnset : Bool) (c : DeviceCapability) : List (CStr × Json) :=
  if c.semanticType ≠ .rawCommand ∧ (showUnset ∨ c.attributeId ≠ uint32Max) then
    [(CStr.lit "attribute_id", .number c.attributeId.toNat)]
  else []

def commandField (showUnset : Bool) (c : DeviceCapability) : List (CStr × Json) :=
  if (c.semanticType = .relay ∨ c.semanticType = .rawCommand) ∧
      (showUnset ∨ c.commandId ≠ uint32Max) then
    [(CStr.lit "command_id", .number c.commandId.toNat)]
  else []

def fields (showUnset : Bool) (c : DeviceCapability) : List (CStr × Json) :=
  [(CStr.lit "capability_id", .string c.capabilityId.toCStr),
   (CStr.lit "semantic_type", .string c.semanticType.toString),
   (CStr.lit "endpoint_id", .number c.endpointId.toNat),
   (CStr.lit "cluster_id", .number c.clusterId.toNat)] ++
  c.attributeField showUnset ++ c.commandField showUnset ++
  [(CStr.lit "label", .string c.label.toCStr)]

def toJson (showUnset : Bool) (c : DeviceCapability) : Json := .object (c.fields showUnset)

end DeviceCapability

namespace DeviceRecord

def fields (r : DeviceRecord) : List (CStr × Json) :=
  [(CStr.lit "device_id", .string r.deviceId.toCStr),
   (CStr.lit "node_id", .string (CStr.decimal r.nodeId.toNat)),
   (CStr.lit "label", .string r.label.toCStr),
   (CStr.lit "reachable", .bool (r.reachable ≠ 0)),
   (CStr.lit "vendor_id", .number r.vendorId.toNat),
   (CStr.lit "product_id", .number r.productId.toNat),
   (CStr.lit "product_name", .string r.productName.toCStr),
   (CStr.lit "location", .string r.location.toCStr)]

def toJson (showUnset : Bool) (r : DeviceRecord) : Json :=
  .object (r.fields ++
    [(CStr.lit "capabilities", .array (r.capabilityList.map (DeviceCapability.toJson showUnset)))])

end DeviceRecord

/-- Both functions named `capability_to_json`. -/
def capabilityToJson (showUnset : Bool) (c : DeviceCapability) : Alloc (Option Json) :=
  createObject (c.fields showUnset)

/-- `record_to_json` of the registry and `device_to_json` of the handler. -/
def recordToJson (showUnset : Bool) (r : DeviceRecord) : Alloc (Option Json) := do
  match ← createObject r.fields with
  | none => return none
  | some item =>
      addArrayToObject item (CStr.lit "capabilities") (capabilityToJson showUnset)
        r.capabilityList

/-- The part of `device_registry_to_json` that follows the load. -/
def devicesToJson (devices : List DeviceRecord) : Alloc (Option Json) := do
  match ← cJSONCreateObject with
  | none => return none
  | some payload => addArrayToObject payload (CStr.lit "devices") (recordToJson false) devices

/-- The object `device_registry_to_json` returns for these devices. -/
def devicesTree (devices : List DeviceRecord) : Json :=
  .object [(CStr.lit "devices", .array (devices.map (DeviceRecord.toJson false)))]

/-! ## Without failures -/

theorem itemsToJson_yields {α : Type} {itemToJson : α → Alloc (Option Json)} {tree : α → Json}
    (h : ∀ a, (itemToJson a).Yields (some (tree a))) (elements : List α) :
    (itemsToJson itemToJson elements).Yields (some (elements.map tree)) := by
  induction elements with
  | nil => exact Keeps.pure rfl
  | cons a rest ih =>
      apply Keeps.bind (h a)
      rintro _ rfl
      apply Keeps.bind ih
      rintro _ rfl
      exact Keeps.pure rfl

theorem addArrayToObject_yields {α : Type} {itemToJson : α → Alloc (Option Json)}
    {tree : α → Json} (h : ∀ a, (itemToJson a).Yields (some (tree a)))
    (members : List (CStr × Json)) (name : CStr) (elements : List α) :
    (addArrayToObject (.object members) name itemToJson elements).Yields
      (some (.object (members ++ [(name, .array (elements.map tree))]))) := by
  apply Keeps.bind next_yields
  rintro _ rfl
  apply Keeps.bind (itemsToJson_yields h elements)
  rintro _ rfl
  exact Keeps.pure rfl

variable {showUnset : Bool}

theorem capabilityToJson_yields (c : DeviceCapability) :
    (capabilityToJson showUnset c).Yields (some (c.toJson showUnset)) :=
  createObject_yields (c.fields showUnset)

theorem recordToJson_yields (r : DeviceRecord) :
    (recordToJson showUnset r).Yields (some (r.toJson showUnset)) := by
  apply Keeps.bind (createObject_yields _)
  rintro _ rfl
  exact addArrayToObject_yields capabilityToJson_yields r.fields _ r.capabilityList

theorem devicesToJson_yields (devices : List DeviceRecord) :
    (devicesToJson devices).Yields (some (devicesTree devices)) := by
  apply Keeps.bind cJSONCreateObject_yields
  rintro _ rfl
  exact addArrayToObject_yields recordToJson_yields [] _ devices

/-! ## With failures -/

variable {P : CStr → Prop}

/-- Every string of the capability satisfies the predicate. -/
structure DeviceCapability.Strings (P : CStr → Prop) (c : DeviceCapability) : Prop where
  capabilityId : P c.capabilityId.toCStr
  label : P c.label.toCStr

/-- Every string of the record satisfies the predicate. -/
structure DeviceRecord.Strings (P : CStr → Prop) (r : DeviceRecord) : Prop where
  deviceId : P r.deviceId.toCStr
  label : P r.label.toCStr
  productName : P r.productName.toCStr
  location : P r.location.toCStr
  capabilities : ∀ c ∈ r.capabilityList, c.Strings P

theorem itemsToJson_built {α : Type} {itemToJson : α → Alloc (Option Json)} {elements : List α}
    (h : ∀ a ∈ elements, (itemToJson a).Always fun out => ∀ o ∈ out, Built P o) :
    (itemsToJson itemToJson elements).Always fun out => ∀ items ∈ out, ∀ o ∈ items, Built P o := by
  intro A hA
  induction elements with
  | nil =>
      apply Keeps.pure
      rintro items ⟨⟩ o ho
      cases ho
  | cons a rest ih =>
      apply Keeps.bind (h a List.mem_cons_self A hA)
      rintro (- | item) hitem
      · apply Keeps.pure
        rintro items ⟨⟩
      · apply Keeps.bind (ih fun b hb => h b (List.mem_cons_of_mem a hb))
        rintro (- | items) hitems
        · apply Keeps.pure
          rintro items ⟨⟩
        · apply Keeps.pure
          rintro _ ⟨⟩ o ho
          rcases List.mem_cons.mp ho with rfl | ho
          · exact hitem o rfl
          · exact hitems items rfl o ho

theorem addArrayToObject_built {α : Type} {itemToJson : α → Alloc (Option Json)}
    {elements : List α} {object : Json} {name : CStr} (hobject : Built P object) (hname : P name)
    (h : ∀ a ∈ elements, (itemToJson a).Always fun out => ∀ o ∈ out, Built P o) :
    (addArrayToObject object name itemToJson elements).Always fun out =>
      ∀ o ∈ out, Built P o := by
  intro A hA
  apply Keeps.bind (next_always A hA)
  rintro attached -
  cases attached with
  | false =>
      apply Keeps.pure
      rintro o ⟨⟩
  | true =>
      apply Keeps.bind (itemsToJson_built h A hA)
      rintro (- | items) hitems
      · apply Keeps.pure
        rintro o ⟨⟩
      · apply Keeps.pure
        rintro o ⟨⟩
        exact hobject.add hname (.array fun item hitem => (hitems items rfl item hitem).strings)

theorem DeviceCapability.fieldStrings (ht : Texts P) {c : DeviceCapability} (h : c.Strings P) :
    FieldStrings P (c.fields showUnset) := by
  have htype : P c.semanticType.toString := by
    cases c.semanticType <;> exact ht.lit _
  have hattribute : FieldStrings P (c.attributeField showUnset) := by
    unfold attributeField
    split
    · exact .cons (ht.lit _) (.number _) .nil
    · exact .nil
  have hcommand : FieldStrings P (c.commandField showUnset) := by
    unfold commandField
    split
    · exact .cons (ht.lit _) (.number _) .nil
    · exact .nil
  have hhead : FieldStrings P
      [(CStr.lit "capability_id", .string c.capabilityId.toCStr),
       (CStr.lit "semantic_type", .string c.semanticType.toString),
       (CStr.lit "endpoint_id", .number c.endpointId.toNat),
       (CStr.lit "cluster_id", .number c.clusterId.toNat)] :=
    .cons (ht.lit _) (.string h.capabilityId) <| .cons (ht.lit _) (.string htype) <|
      .cons (ht.lit _) (.number _) <| .cons (ht.lit _) (.number _) .nil
  have hlabel : FieldStrings P [(CStr.lit "label", .string c.label.toCStr)] :=
    .cons (ht.lit _) (.string h.label) .nil
  exact ((hhead.append hattribute).append hcommand).append hlabel

theorem recordToJson_built (ht : Texts P) {r : DeviceRecord} (h : r.Strings P) :
    (recordToJson showUnset r).Always fun out => ∀ o ∈ out, Built P o := by
  intro A hA
  have hfields : FieldStrings P r.fields :=
    .cons (ht.lit _) (.string h.deviceId) <| .cons (ht.lit _) (.string (ht.decimal _)) <|
      .cons (ht.lit _) (.string h.label) <| .cons (ht.lit _) (.bool _) <|
      .cons (ht.lit _) (.number _) <| .cons (ht.lit _) (.number _) <|
      .cons (ht.lit _) (.string h.productName) <| .cons (ht.lit _) (.string h.location) .nil
  apply Keeps.bind (createObject_built hfields A hA)
  rintro (- | item) hitem
  · apply Keeps.pure
    rintro o ⟨⟩
  · refine addArrayToObject_built (hitem item rfl) (ht.lit _) ?_ A hA
    intro c hc
    exact createObject_built (DeviceCapability.fieldStrings ht (h.capabilities c hc))

/-- Whatever is left out, the strings come from the devices or the program. -/
theorem devicesToJson_built (ht : Texts P) {devices : List DeviceRecord}
    (h : ∀ r ∈ devices, r.Strings P) :
    (devicesToJson devices).Always fun out => ∀ o ∈ out, Built P o := by
  intro A hA
  apply Keeps.bind (cJSONCreateObject_built A hA)
  rintro (- | payload) hpayload
  · apply Keeps.pure
    rintro o ⟨⟩
  · exact addArrayToObject_built (hpayload payload rfl) (ht.lit _)
      (fun r hr => recordToJson_built ht (h r hr)) A hA

end Orchestrator.Registry
