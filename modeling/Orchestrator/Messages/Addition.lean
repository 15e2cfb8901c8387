import Orchestrator.Messages.Rules
import Orchestrator.Registry.Directory
import Orchestrator.Registry.Update

/-!
# How `device.capability.add` ends

The command looks up the device, checks the payload, writes the record and builds
its reply. It gets past the write exactly when the checks pass and no call of the
look-up and of the write fails.
-/

namespace Orchestrator.Messages

open Lib Handler Registry

variable {w : World} {payload : Json}

/-! ## What is asked for -/

/-- An optional id of the payload, all ones where it is not given. -/
def idMember (payload : Json) (name : String) : UInt32 :=
  ((numberMember payload name).map castUint32).getD 0xFFFFFFFF

/-- The capability that the payload asks for under this text. Only a measured value has to name
its attribute, and a relay is switched on where the payload gives no command. -/
structure AskedFor (payload : Json) (text : CStr) (c : DeviceCapability) : Prop where
  asked : textMember payload "capability_id" = some text
  capabilityId : c.capabilityId = textField text
  semanticType : textMember payload "semantic_type" = some (wireName c.semanticType)
  hasName : c.semanticType ∈ [.temperature, .pressure, .relay, .rawAttribute, .rawCommand]
  endpointId : (numberMember payload "endpoint_id").map castUint16 = some c.endpointId
  clusterId : (numberMember payload "cluster_id").map castUint32 = some c.clusterId
  attributeId : c.attributeId = idMember payload "attribute_id"
  measured : c.semanticType ∈ [.temperature, .pressure, .rawAttribute] →
    c.attributeId ≠ 0xFFFFFFFF
  commandId : c.commandId =
    if c.semanticType = .relay ∧ idMember payload "command_id" = 0xFFFFFFFF then 1
    else idMember payload "command_id"
  label : c.label =
    textField ((stringMember payload "label").getD (wireName c.semanticType))
  padding : c.padding = Vector.replicate 2 0

/-- The types that have a name are read by it. -/
theorem fromString_eq_some_iff {text : CStr} {semantic : DeviceCapabilitySemanticType} :
    DeviceCapabilitySemanticType.fromString text = some semantic ↔
      text = wireName semantic ∧
        semantic ∈ [.temperature, .pressure, .relay, .rawAttribute, .rawCommand] := by
  constructor
  · intro h
    unfold DeviceCapabilitySemanticType.fromString at h
    split_ifs at h with h₁ h₂ h₃ h₄ h₅
    all_goals
      obtain rfl := Option.some.inj h
      refine ⟨by assumption, by decide⟩
  · rintro ⟨rfl, hname⟩
    simp only [List.mem_cons, List.not_mem_nil, or_false] at hname
    rcases hname with rfl | rfl | rfl | rfl | rfl
    · decide
    · decide
    · decide
    · decide
    · decide

theorem optionalId_eq_idMember (payload : Json) (name : String) :
    optionalId payload name = idMember payload name := by
  unfold optionalId idMember
  rw [requiredNumberField_eq_numberMember]
  cases numberMember payload name with
  | none => rfl
  | some q => rfl

theorem needsAttribute_iff {semantic : DeviceCapabilitySemanticType} :
    needsAttribute semantic = true ↔ semantic ∈ [.temperature, .pressure, .rawAttribute] := by
  unfold needsAttribute
  rw [decide_eq_true_iff]
  simp

/-- The command builds the capability that its payload asks for. -/
theorem askedFor_newCapability {fields : CapabilityFields} {semantic : DeviceCapabilitySemanticType}
    (hfields : capabilityFields payload = some fields)
    (hsemantic : DeviceCapabilitySemanticType.fromString fields.semanticType = some semantic)
    (hattribute : ¬(needsAttribute semantic ∧
      (newCapability payload fields semantic).attributeId = uint32Max)) :
    AskedFor payload fields.capabilityId (newCapability payload fields semantic) := by
  have hfrom := of_capabilityFields hfields
  obtain ⟨hname, hnamed⟩ := fromString_eq_some_iff.mp hsemantic
  constructor
  · rw [← requiredStringField_eq_textMember, hfrom.capabilityId]
  · exact copyField_eq_textField fields.capabilityId
  · rw [← requiredStringField_eq_textMember, hfrom.semanticType, hname]
    rfl
  · exact hnamed
  · rw [← requiredNumberField_eq_numberMember, hfrom.endpointId]
    rfl
  · rw [← requiredNumberField_eq_numberMember, hfrom.clusterId]
    rfl
  · exact optionalId_eq_idMember payload "attribute_id"
  · exact fun hmeasured heq => hattribute ⟨needsAttribute_iff.mpr hmeasured, heq⟩
  · rw [← optionalId_eq_idMember]
    rfl
  · rw [← optionalStringField_eq_stringMember]
    show CharArray.copyField 32 _ = _
    rw [copyField_eq_textField, hname]
    rfl
  · rfl

/-- The payload of a capability that is asked for passes the checks, and the command builds
that capability. -/
theorem AskedFor.fields {text deviceId : CStr} {c : DeviceCapability} (h : AskedFor payload text c)
    (hdevice : textMember payload "device_id" = some deviceId) :
    ∃ fields semantic, capabilityFields payload = some fields ∧ fields.deviceId = deviceId ∧
      fields.capabilityId = text ∧
      DeviceCapabilitySemanticType.fromString fields.semanticType = some semantic ∧
      ¬(needsAttribute semantic ∧
        (newCapability payload fields semantic).attributeId = uint32Max) ∧
      newCapability payload fields semantic = c := by
  obtain ⟨endpointId, hendpoint, hendpointId⟩ := Option.map_eq_some_iff.mp h.endpointId
  obtain ⟨clusterId, hcluster, hclusterId⟩ := Option.map_eq_some_iff.mp h.clusterId
  let fields : CapabilityFields :=
    { deviceId, capabilityId := text, semanticType := wireName c.semanticType, endpointId,
      clusterId }
  have hnew : newCapability payload fields c.semanticType = c := by
    obtain ⟨-, hid, -, -, -, -, hattribute, -, hcommand, hlabel, hpadding⟩ := h
    obtain ⟨id, semantic, endpoint, padding, cluster, attributeId, commandId, label⟩ := c
    dsimp only at hid hendpointId hclusterId hattribute hcommand hlabel hpadding
    unfold newCapability
    rw [copyField_eq_textField, copyField_eq_textField, optionalId_eq_idMember,
      optionalId_eq_idMember, optionalStringField_eq_stringMember, hid, ← hendpointId, ← hclusterId,
      hattribute, hcommand, hlabel, hpadding]
    rfl
  refine ⟨fields, c.semanticType, ?_, rfl, rfl, fromString_eq_some_iff.mpr ⟨rfl, h.hasName⟩, ?_,
    hnew⟩
  · unfold capabilityFields
    rw [requiredStringField_eq_textMember, requiredStringField_eq_textMember,
      requiredStringField_eq_textMember, requiredNumberField_eq_numberMember,
      requiredNumberField_eq_numberMember, hdevice, h.asked, h.semanticType, hendpoint, hcluster]
    rfl
  · rw [hnew]
    exact fun hmissing => h.measured (needsAttribute_iff.mp hmissing.1) hmissing.2

/-- The payload determines the capability. -/
theorem AskedFor.unique {text : CStr} {c d : DeviceCapability} (hc : AskedFor payload text c)
    (hd : AskedFor payload text d) : c = d := by
  have hnamed : ∀ t ∈ [.temperature, .pressure, .relay, .rawAttribute, .rawCommand],
      ∀ u ∈ [.temperature, .pressure, .relay, .rawAttribute, .rawCommand],
      wireName t = wireName u → t = u := by decide
  have htype : c.semanticType = d.semanticType := hnamed _ hc.hasName _ hd.hasName
    (Option.some.inj (hc.semanticType.symm.trans hd.semanticType))
  have hcommand := hc.commandId
  have hlabel := hc.label
  rw [htype, ← hd.commandId] at hcommand
  rw [htype, ← hd.label] at hlabel
  have hid := hc.capabilityId.trans hd.capabilityId.symm
  have hendpoint := Option.some.inj (hc.endpointId.symm.trans hd.endpointId)
  have hcluster := Option.some.inj (hc.clusterId.symm.trans hd.clusterId)
  have hattribute := hc.attributeId.trans hd.attributeId.symm
  have hpadding := hc.padding.trans hd.padding.symm
  obtain ⟨_, _, _, _, _, _, _, _⟩ := c
  obtain ⟨_, _, _, _, _, _, _, _⟩ := d
  simp only at htype hcommand hlabel hid hendpoint hcluster hattribute hpadding
  rw [htype, hcommand, hlabel, hid, hendpoint, hcluster, hattribute, hpadding]

/-! ## What is written -/

/-- What the command reads and writes. -/
structure Addition where
  fields : CapabilityFields
  semantic : DeviceCapabilitySemanticType
  record : DeviceRecord
  updated : DeviceRecord
  before : RegistryStore
  after : RegistryStore

namespace Addition

/-- The checks pass, and the record is found and written. -/
structure Written (payload : Json) (w : World) (a : Addition) : Prop where
  adds : AddsCapability payload a.fields a.semantic a.record a.updated
  finds : Finds a.fields.deviceId a.before a.record w
  saves : Saves (upsertTarget a.updated) a.before a.after (loadedWorld w)

/-- The world when the record has been written. -/
def writtenWorld (a : Addition) (w : World) : World := savedWorld a.after (loadedWorld w)

/-- The object of the reply. -/
def replyFields (payload : Json) (a : Addition) : List (CStr × Json) :=
  [(CStr.lit "device_id", .string a.updated.deviceId.toCStr),
   (CStr.lit "capability_id",
      .string (newCapability payload a.fields a.semantic).capabilityId.toCStr)]

/-- The payload and the world determine the addition. -/
theorem Written.unique {a a' : Addition} (h : a.Written payload w) (h' : a'.Written payload w) :
    a = a' := by
  obtain ⟨fields, semantic, record, updated, before, after⟩ := a
  obtain ⟨fields', semantic', record', updated', before', after'⟩ := a'
  obtain ⟨hadds, hfinds, hsaves⟩ := h
  obtain ⟨hadds', hfinds', hsaves'⟩ := h'
  obtain rfl := Option.some.inj (hadds.hasFields.symm.trans hadds'.hasFields)
  obtain rfl := Option.some.inj (hadds.hasType.symm.trans hadds'.hasType)
  obtain rfl := Except.ok.inj (hfinds.read.symm.trans hfinds'.read)
  obtain rfl := Option.some.inj (hfinds.found.symm.trans hfinds'.found)
  obtain rfl := Option.some.inj (hadds.updates.symm.trans hadds'.updates)
  obtain rfl := Except.ok.inj (hsaves.updated.symm.trans hsaves'.updated)
  rfl

end Addition

/-- A device that was found by an id has an id. -/
theorem named_of_found {deviceId : CStr} {r : DeviceRecord} (hid : deviceId.isEmpty = false)
    (h : hasId deviceId.bytes r = true) : r.deviceId.head ≠ 0 := by
  intro hzero
  unfold hasId at h
  have hself : CStr.beforeNul deviceId.bytes = deviceId.bytes :=
    congrArg CStr.bytes (CStr.ofBytes_bytes deviceId)
  have hempty : CStr.beforeNul r.deviceId.toList = [] := CharArray.bytes_toCStr_of_head hzero
  rw [strncmpEq_iff, hself, hempty] at h
  cases hbytes : deviceId.bytes with
  | nil =>
      unfold CStr.isEmpty at hid
      rw [hbytes] at hid
      cases hid
  | cons b bytes =>
      rw [hbytes] at h
      cases h

theorem capabilityList_of_withCapability {record updated : DeviceRecord} {c : DeviceCapability}
    (hcount : record.capabilityCount ≤ deviceRegistryCapabilityMax)
    (h : withCapability record c = some updated) :
    updated.capabilityList = upsert (sameCapabilityId c) c record.capabilityList := by
  have hfound : CountedArray.findIndex (sameCapabilityId c) record.capabilities
      record.capabilityCount.toNat = record.capabilityList.findIdx? (sameCapabilityId c) :=
    CountedArray.findIndex_eq _ _ (UInt32.le_iff_toNat_le.mp hcount)
  rcases withCapability_cases h with ⟨i, hfind, -, hlist⟩ | ⟨hfind, -, -, hlist⟩
  · rw [hlist, upsert_of_some (hfound ▸ hfind)]
  · rw [hlist, upsert_of_none (hfound ▸ hfind)]

/-- The record that is written passes the checks of `device_registry_upsert_device`. -/
theorem valid_of_adds {fields : CapabilityFields} {semantic : DeviceCapabilitySemanticType}
    {record updated : DeviceRecord} {s : RegistryStore}
    (h : AddsCapability payload fields semantic record updated)
    (hs : s.Accepted) (hfind : s.devices.find? (hasId fields.deviceId.bytes) = some record) :
    ¬(updated.deviceId.head = 0 ∨ deviceRegistryCapabilityMax < updated.capabilityCount) := by
  have hdevice : updated.deviceId = record.deviceId := by rw [withCapability_frame h.updates]
  have hid := isEmpty_of_requiredStringField (of_capabilityFields h.hasFields).deviceId
  rw [not_or, hdevice]
  refine ⟨named_of_found hid (List.find?_some hfind), ?_⟩
  have hcount := hs.capabilities record (List.mem_of_find?_eq_some hfind)
  rcases withCapability_cases h.updates with ⟨_, -, heq, -⟩ | ⟨-, hroom, heq, -⟩
  · rw [heq]
    exact UInt32.not_lt.mpr hcount
  · rw [heq]
    have hlt : record.capabilityCount.toNat < 8 := UInt32.lt_iff_toNat_lt.mp hroom
    have hle : (record.capabilityCount + 1).toNat ≤ 8 := by
      rw [UInt32.toNat_add, UInt32.toNat_one]
      omega
    exact UInt32.not_lt.mpr (UInt32.le_iff_toNat_le.mpr hle)

/-- The command ends with its reply, or it has failed and disturbed nothing. -/
theorem addCapabilityCommand_cases (payload : Json) (w : World) :
    (∃ a : Addition, a.Written payload w ∧ ∃ w', Announces (a.writtenWorld w) w' ∧
        addCapabilityCommand payload w = reply (createObject (a.replyFields payload))
          "Failed to build capability payload" w') ∨
      (¬∃ a : Addition, a.Written payload w) ∧ (addCapabilityCommand payload w).1.err ≠ .ok ⟨⟩ ∧
        Undisturbed w.board (addCapabilityCommand payload w).2.board := by
  unfold addCapabilityCommand
  cases hfields : capabilityFields payload with
  | none =>
      refine .inr ⟨?_, nofun, .refl w.board⟩
      rintro ⟨a, ha⟩
      cases hfields.symm.trans ha.adds.hasFields
  | some fields =>
  dsimp only
  cases hsemantic : DeviceCapabilitySemanticType.fromString fields.semanticType with
  | none =>
      refine .inr ⟨?_, nofun, .refl w.board⟩
      rintro ⟨⟨_, _, _, _, _, _⟩, hadds, -⟩
      obtain rfl := Option.some.inj (hfields.symm.trans hadds.hasFields)
      cases hsemantic.symm.trans hadds.hasType
  | some semantic =>
  dsimp only
  obtain ⟨s, record, hfinds, hget⟩ | ⟨hmissing, e, w', hget, hboard⟩ :=
    deviceRegistryGetDevice_cases fields.deviceId w
  swap
  · rw [onOk_run_error hget]
    refine .inr ⟨?_, nofun, hboard ▸ .refl w.board⟩
    rintro ⟨⟨_, _, _, _, _, _⟩, hadds, hfinds, -⟩
    obtain rfl := Option.some.inj (hfields.symm.trans hadds.hasFields)
    exact hmissing ⟨_, _, hfinds⟩
  rw [onOk_run_ok hget]
  have hunique {a : Addition} (ha : a.Written payload w) :
      a.fields = fields ∧ a.semantic = semantic ∧ a.record = record := by
    obtain ⟨_, _, _, _, _, _⟩ := a
    obtain ⟨hadds, hfinds', -⟩ := ha
    obtain rfl := Option.some.inj (hfields.symm.trans hadds.hasFields)
    obtain rfl := Option.some.inj (hsemantic.symm.trans hadds.hasType)
    obtain rfl := Except.ok.inj (hfinds.read.symm.trans hfinds'.read)
    exact ⟨rfl, rfl, Option.some.inj (hfinds'.found.symm.trans hfinds.found)⟩
  split
  · next hattribute =>
    refine .inr ⟨?_, nofun, .refl w.board⟩
    rintro ⟨a, ha⟩
    obtain ⟨rfl, rfl, -⟩ := hunique ha
    exact ha.adds.hasAttribute hattribute
  next hattribute =>
  cases hupdated : withCapability record (newCapability payload fields semantic) with
  | none =>
      refine .inr ⟨?_, nofun, .refl w.board⟩
      rintro ⟨a, ha⟩
      obtain ⟨rfl, rfl, rfl⟩ := hunique ha
      cases hupdated.symm.trans ha.adds.updates
  | some updated =>
      have hadds : AddsCapability payload fields semantic record updated :=
        ⟨hfields, hsemantic, hattribute, hupdated⟩
      have hvalid := valid_of_adds hadds (RegistryNvs.accepted_of_read hfinds.read) hfinds.found
      dsimp only
      rw [deviceRegistryUpsertDevice_eq hvalid]
      obtain ⟨s', t, hsaves, w', hrun, hannounces⟩ | ⟨hfails, e, w', hrun, hsame⟩ :=
        update_cases (upsertTarget updated) (loadedWorld w)
      · rw [onOk_run_ok hrun]
        obtain rfl := Except.ok.inj (hfinds.read.symm.trans hsaves.read)
        exact .inl ⟨⟨fields, semantic, record, updated, s, t⟩, ⟨hadds, hfinds, hsaves⟩, w',
          hannounces, rfl⟩
      · rw [onOk_run_error hrun]
        refine .inr ⟨?_, nofun, hsame⟩
        rintro ⟨a, ha⟩
        obtain ⟨rfl, rfl, rfl⟩ := hunique ha
        obtain rfl := Option.some.inj (hupdated.symm.trans ha.adds.updates)
        exact hfails ⟨_, _, ha.saves⟩

/-- How a successful addition ends. -/
theorem written_of_ok (hok : (addCapabilityCommand payload w).1.err = .ok ⟨⟩) :
    ∃ a : Addition, a.Written payload w ∧
      (addCapabilityCommand payload w).2.board.registry = (a.writtenWorld w).board.registry ∧
      (addCapabilityCommand payload w).1.payload = some (.object
        (kept (a.replyFields payload) (allocsAfterSave w.board w.allocs).tail)) ∧
      (addCapabilityCommand payload w).2.allocs =
        (allocsAfterSave w.board w.allocs).drop 3 := by
  obtain ⟨a, ha, w', hannounces, hrun⟩ | ⟨-, hrefused, -⟩ := addCapabilityCommand_cases payload w
  swap
  · exact absurd hok hrefused
  have hallocs : w'.allocs = allocsAfterSave w.board w.allocs := hannounces.allocs
  rw [← hallocs]
  have hreply : addCapabilityCommand payload w =
      (built (createObject (a.replyFields payload) w'.allocs).1
          "Failed to build capability payload",
        { w' with allocs := (createObject (a.replyFields payload) w'.allocs).2 }) := hrun
  rw [hreply] at hok ⊢
  have hcreated := createObject_run (a.replyFields payload) w'.allocs
  cases hhead : w'.allocs.head with
  | false =>
      rw [hhead, if_neg (by decide)] at hcreated
      rw [hcreated] at hok
      cases hok
  | true =>
      rw [hhead, if_pos rfl] at hcreated
      rw [hcreated]
      exact ⟨a, ha, hannounces.registry, rfl, rfl⟩

end Orchestrator.Messages
