import Orchestrator.Messages.Rules
import Orchestrator.Registry.Bounds

/-!
# The arrays of the registry in the commands

`device.capability.add` and `device.get` work on a copy of a record in a file of their
own. With every access checked, they and the functions of the registry compute what they
compute, whatever flash contains.
-/

namespace Orchestrator.Messages

open Lib Handler Registry CountedArray

/-! ## The commands -/

namespace Checked

/-- `onOk` for a checked function. -/
def onOk {α : Type} (op : OptionT Esp α) (message : Option String)
    (next : α → OptionT Handler CommandExecutionResult) :
    OptionT Handler CommandExecutionResult := do
  match ← outcome op with
  | .error err => return commandResult (.error err) none (message.map CStr.lit)
  | .ok a => next a

/-- The loop over the capabilities of a record, and the two ways to store the new one. -/
def withCapability (record : DeviceRecord) (capability : DeviceCapability) :
    Option (Option DeviceRecord) := do
  match ← searchFrom (fun i c => some (if sameCapabilityId capability c then some i else none))
      record.capabilities 0 record.capabilityCount.toNat with
  | some i =>
      let capabilities ← store record.capabilities i capability
      return some { record with capabilities }
  | none =>
      if deviceRegistryCapabilityMax ≤ record.capabilityCount then return none
      else
        let capabilities ← store record.capabilities record.capabilityCount.toNat capability
        return some { record with
          capabilities, capabilityCount := record.capabilityCount + 1 }

/-- `add_capability_command` -/
def addCapabilityCommand (payload : Json) : OptionT Handler CommandExecutionResult :=
  match capabilityFields payload with
  | none => return failed EspErr.invalidArg "Invalid capability payload"
  | some fields =>
      match DeviceCapabilitySemanticType.fromString fields.semanticType with
      | none => return failed EspErr.invalidArg "Unsupported capability semantic_type"
      | some semantic =>
          onOk (Checked.deviceRegistryGetDevice fields.deviceId) (some "Device not found")
            fun record =>
              let capability := newCapability payload fields semantic
              if needsAttribute semantic ∧ capability.attributeId = uint32Max then
                return failed EspErr.invalidArg "Capability requires attribute_id"
              else do
                match ← access (withCapability record capability) with
                | none => return failed EspErr.noMem "Device capability list is full"
                | some updated =>
                    onOk (Checked.deviceRegistryUpsertDevice updated)
                      (some "Capability upsert failed") fun _ =>
                        OptionT.lift (reply (createObject
                          [(CStr.lit "device_id", .string updated.deviceId.toCStr),
                           (CStr.lit "capability_id", .string capability.capabilityId.toCStr)])
                          "Failed to build capability payload")

/-- `device.get` -/
def deviceGet (payload : Json) : OptionT Handler CommandExecutionResult :=
  match requiredStringField payload "device_id" with
  | none => return failed EspErr.invalidArg "Missing device_id"
  | some deviceId =>
      onOk (Checked.deviceRegistryGetDevice deviceId) (some "Device not found") fun record => do
        let out ← allocateChecked (Checked.recordToJson true record)
        return built out "Failed to build device payload"

end Checked

theorem onOk_inBounds {α : Type} {c : OptionT Esp α} {v : Esp α} {Q : α → Prop}
    {message : Option String} {next : α → OptionT Handler CommandExecutionResult}
    {next' : α → Handler CommandExecutionResult} (hv : Esp.Keeps (fun _ => True) v Q)
    (hc : InBounds c v) (hnext : ∀ a, Q a → InBounds (next a) (next' a)) :
    InBounds (Checked.onOk c message next) (onOk v message next') := by
  refine InBounds.bindReturns (Keeps.returns hv) (inBounds_outcome hc) fun r hr => ?_
  cases r with
  | error err => exact InBounds.pure _
  | ok a => exact hnext a (hr a rfl)

theorem checked_withCapability {record : DeviceRecord} (capability : DeviceCapability)
    (h : record.capabilityCount ≤ deviceRegistryCapabilityMax) :
    Checked.withCapability record capability = some (withCapability record capability) := by
  have hcount : record.capabilityCount.toNat ≤ 8 := toNat_capabilityCount_le h
  unfold Checked.withCapability withCapability
  rw [searchFrom_findIndex _ _ hcount]
  cases hfind : findIndex (sameCapabilityId capability) record.capabilities
      record.capabilityCount.toNat with
  | some i =>
      have hi : i < record.capabilityCount.toNat :=
        List.mem_range.mp (List.mem_of_find?_eq_some hfind)
      simp [store_eq _ (Nat.lt_of_lt_of_le hi hcount)]
  | none =>
      by_cases hfull : deviceRegistryCapabilityMax ≤ record.capabilityCount
      · simp [hfull]
      · have hroom : record.capabilityCount.toNat < 8 :=
          UInt32.lt_iff_toNat_lt.mp (UInt32.not_le.mp hfull)
        simp [hfull, store_eq _ hroom]

theorem addCapabilityCommand_inBounds (payload : Json) :
    InBounds (Checked.addCapabilityCommand payload) (addCapabilityCommand payload) := by
  unfold Checked.addCapabilityCommand addCapabilityCommand
  cases capabilityFields payload with
  | none => exact InBounds.pure _
  | some fields =>
      dsimp only
      cases DeviceCapabilitySemanticType.fromString fields.semanticType with
      | none => exact InBounds.pure _
      | some semantic =>
          refine onOk_inBounds (deviceRegistryGetDevice_fits _)
            (deviceRegistryGetDevice_inBounds _) fun record hrecord => ?_
          split
          · exact InBounds.pure _
          · refine InBounds.accessBind (checked_withCapability _ hrecord) ?_
            cases withCapability record (newCapability payload fields semantic) with
            | none => exact InBounds.pure _
            | some updated =>
                exact onOk_inBounds (Q := fun _ => True)
                  (fun _ _ => ⟨trivial, fun _ _ => trivial⟩)
                  (deviceRegistryUpsertDevice_inBounds updated) fun _ _ => InBounds.lift _

theorem deviceGet_inBounds (payload : Json) :
    InBounds (Checked.deviceGet payload) (deviceGet payload) := by
  unfold Checked.deviceGet deviceGet
  cases requiredStringField payload "device_id" with
  | none => exact InBounds.pure _
  | some deviceId =>
      refine onOk_inBounds (deviceRegistryGetDevice_fits _)
        (deviceRegistryGetDevice_inBounds _) fun record hrecord => ?_
      exact InBounds.bind (inBounds_allocateChecked (recordToJson_inBounds true hrecord))
        fun out => InBounds.pure _

/-! ## Every call -/

/-- A call of the registry, or one of the two commands. -/
inductive RegistryCall
  | init
  | upsertDevice (record : DeviceRecord)
  | getDevice (deviceId : CStr)
  | removeDevice (deviceId : CStr)
  | renameDevice (deviceId label : CStr)
  | findCapability (deviceId : CStr) (semanticType : DeviceCapabilitySemanticType)
  | findCapabilityByPath (nodeId : UInt64) (endpointId : UInt16) (clusterId attributeId : UInt32)
  | toJson
  | capabilityAdd (payload : Json)
  | get (payload : Json)

namespace RegistryCall

abbrev Result : RegistryCall → Type
  | init => EspResult Unit
  | upsertDevice _ => EspResult Unit
  | getDevice _ => EspResult DeviceRecord
  | removeDevice _ => EspResult Unit
  | renameDevice _ _ => EspResult Unit
  | findCapability _ _ => EspResult (DeviceRecord × DeviceCapability)
  | findCapabilityByPath _ _ _ _ => EspResult (DeviceRecord × DeviceCapability)
  | toJson => Option Json
  | capabilityAdd _ => CommandExecutionResult
  | get _ => CommandExecutionResult

def execute : (call : RegistryCall) → Handler call.Result
  | init => deviceRegistryInit.run
  | upsertDevice record => (deviceRegistryUpsertDevice record).run
  | getDevice deviceId => (deviceRegistryGetDevice deviceId).run
  | removeDevice deviceId => (deviceRegistryRemoveDevice deviceId).run
  | renameDevice deviceId label => (deviceRegistryRenameDevice deviceId label).run
  | findCapability deviceId semanticType =>
      (deviceRegistryFindCapability deviceId semanticType).run
  | findCapabilityByPath nodeId endpointId clusterId attributeId =>
      (deviceRegistryFindCapabilityByPath nodeId endpointId clusterId attributeId).run
  | toJson => deviceRegistryToJson
  | capabilityAdd payload => addCapabilityCommand payload
  | get payload => deviceGet payload

/-- The call with every access checked. -/
def checked : (call : RegistryCall) → OptionT Handler call.Result
  | init => outcome Checked.deviceRegistryInit
  | upsertDevice record => outcome (Checked.deviceRegistryUpsertDevice record)
  | getDevice deviceId => outcome (Checked.deviceRegistryGetDevice deviceId)
  | removeDevice deviceId => outcome (Checked.deviceRegistryRemoveDevice deviceId)
  | renameDevice deviceId label => outcome (Checked.deviceRegistryRenameDevice deviceId label)
  | findCapability deviceId semanticType =>
      outcome (Checked.deviceRegistryFindCapability deviceId semanticType)
  | findCapabilityByPath nodeId endpointId clusterId attributeId =>
      outcome (Checked.deviceRegistryFindCapabilityByPath nodeId endpointId clusterId attributeId)
  | toJson => Checked.deviceRegistryToJson
  | capabilityAdd payload => Checked.addCapabilityCommand payload
  | get payload => Checked.deviceGet payload

theorem inBounds (call : RegistryCall) : InBounds call.checked call.execute := by
  cases call with
  | init => exact inBounds_outcome deviceRegistryInit_inBounds
  | upsertDevice record => exact inBounds_outcome (deviceRegistryUpsertDevice_inBounds record)
  | getDevice deviceId => exact inBounds_outcome (deviceRegistryGetDevice_inBounds deviceId)
  | removeDevice deviceId => exact inBounds_outcome (deviceRegistryRemoveDevice_inBounds deviceId)
  | renameDevice deviceId label =>
      exact inBounds_outcome (deviceRegistryRenameDevice_inBounds deviceId label)
  | findCapability deviceId semanticType =>
      exact inBounds_outcome (deviceRegistryFindCapability_inBounds deviceId semanticType)
  | findCapabilityByPath nodeId endpointId clusterId attributeId =>
      exact inBounds_outcome (deviceRegistryFindCapabilityByPath_inBounds nodeId endpointId
        clusterId attributeId)
  | toJson => exact deviceRegistryToJson_inBounds
  | capabilityAdd payload => exact addCapabilityCommand_inBounds payload
  | get payload => exact deviceGet_inBounds payload

end RegistryCall

variable {n : RegistryNvs}

theorem addCapabilityCommand_savedFitting (payload : Json) :
    Keeps (SavedFitting n) (addCapabilityCommand payload) fun _ => True := by
  apply addCapabilityCommand_rule (fun _ _ _ => trivial) fun deviceId =>
    deviceRegistryGetDevice_keeps savedFitting_storeInvariant.toLoadInvariant deviceId
  intro fields semantic record updated _ _
  exact storeCapability_keeps savedFitting_unforeseen.toUnforeseen
    (deviceRegistryUpsertDevice_savedFitting updated) _

theorem deviceGet_savedFitting (payload : Json) :
    Keeps (SavedFitting n) (deviceGet payload) fun _ => True := by
  unfold deviceGet
  cases requiredStringField payload "device_id" with
  | none => exact Keeps.pure trivial
  | some deviceId =>
      refine onOk_rule (deviceRegistryGetDevice_keeps
        savedFitting_storeInvariant.toLoadInvariant _) (fun _ => trivial) fun record _ => ?_
      exact reply_rule savedFitting_unforeseen.toUnforeseen
        (recordToJson_built texts_true
          ⟨trivial, trivial, trivial, trivial, fun _ _ => ⟨trivial, trivial⟩⟩) fun _ _ => trivial

/-- Only stores whose counts fit are saved by a call. -/
theorem RegistryCall.savedFitting (call : RegistryCall) :
    Keeps (SavedFitting n) call.execute fun _ => True := by
  have hstore := savedFitting_storeInvariant (n := n)
  have hesp : ∀ {α : Type} {op : Esp α} {Q : α → Prop}, Esp.Keeps (SavedFitting n) op Q →
      Keeps (SavedFitting n) (op.run : Handler (EspResult α)) fun _ => True :=
    fun h => Keeps.weaken h fun _ _ => trivial
  cases call with
  | init => exact hesp (deviceRegistryInit_keeps hstore)
  | upsertDevice record => exact hesp (deviceRegistryUpsertDevice_savedFitting record)
  | getDevice deviceId => exact hesp (deviceRegistryGetDevice_keeps hstore.toLoadInvariant _)
  | removeDevice deviceId => exact hesp (deviceRegistryRemoveDevice_savedFitting deviceId)
  | renameDevice deviceId label =>
      exact hesp (deviceRegistryRenameDevice_savedFitting deviceId label)
  | findCapability deviceId semanticType =>
      exact hesp (deviceRegistryFindCapability_keeps hstore.toLoadInvariant _ _)
  | findCapabilityByPath nodeId endpointId clusterId attributeId =>
      exact hesp (deviceRegistryFindCapabilityByPath_savedFitting nodeId endpointId clusterId
        attributeId)
  | toJson => exact deviceRegistryToJson_savedFitting
  | capabilityAdd payload => exact addCapabilityCommand_savedFitting payload
  | get payload => exact deviceGet_savedFitting payload

/-- With its accesses checked the call does what it does, and every blob that a load may
see afterwards was there before or holds counts that fit the arrays. -/
structure StaysInBounds (call : RegistryCall) (w : World) : Prop where
  accesses : call.checked.run w = (some (call.execute w).1, (call.execute w).2)
  saved : ∀ bytes, (call.execute w).2.board.registry.Holds bytes →
    w.board.registry.Holds bytes ∨ ∃ s : RegistryStore, bytes = registryStoreLayout.encode s ∧
      s.count.toNat ≤ 16 ∧ ∀ r ∈ s.devices, r.capabilityCount.toNat ≤ 8

/-- No call leaves an array, whatever flash contains. -/
theorem registryCall_staysInBounds (call : RegistryCall) (w : World) : StaysInBounds call w := by
  constructor
  · exact congrFun call.inBounds w
  · intro bytes hbytes
    have hsaved := (call.savedFitting w (savedFitting_refl w)).1
    have hfits : FitsOr w.board.registry bytes := by
      cases hbytes with
      | inl hstored => exact hsaved.stored bytes hstored
      | inr hstaged => exact hsaved.staged bytes hstaged
    cases hfits with
    | inl hbefore => exact .inl hbefore
    | inr hstore =>
        obtain ⟨s, hs, rfl⟩ := hstore
        exact .inr ⟨s, rfl, hs.count, fun r hr => toNat_capabilityCount_le (hs.capabilities r hr)⟩

end Orchestrator.Messages
