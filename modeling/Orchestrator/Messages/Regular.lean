import Mathlib.Logic.Relation
import Orchestrator.Lib.BoundedMap
import Orchestrator.Messages.Rules

/-!
# The registry that clients fill

Records enter the registry when a node is paired, and capabilities when a client
adds them. No function checks the id of a record against its node, but every
command keeps the two together.
-/

namespace Orchestrator.Registry

open Lib Messages

/-- A capability with an id, and with what its type needs. -/
structure DeviceCapability.Regular (c : DeviceCapability) : Prop where
  terminated : c.capabilityId.Terminated
  named : c.capabilityId.toCStr.isEmpty = false
  attributeId : needsAttribute c.semanticType = true → c.attributeId ≠ uint32Max
  commandId : c.semanticType = .relay → c.commandId ≠ uint32Max

/-- A record named after its node, with capabilities that have different ids. -/
structure DeviceRecord.Regular (r : DeviceRecord) : Prop where
  terminated : r.deviceId.Terminated
  deviceId : r.deviceId.toCStr = CStr.lit "node-" ++ CStr.decimal r.nodeId.toNat
  capabilityCount : r.capabilityCount ≤ deviceRegistryCapabilityMax
  distinct : (r.capabilityList.map fun c => c.capabilityId.toCStr).Nodup
  capabilities : ∀ c ∈ r.capabilityList, c.Regular

/-- A store of such records with different ids. -/
structure RegistryStore.Regular (s : RegistryStore) : Prop where
  version : s.version = registryVersion
  count : s.count.toNat ≤ maxRecords
  distinct : (s.devices.map fun r => r.deviceId.toCStr).Nodup
  records : ∀ r ∈ s.devices, r.Regular

end Orchestrator.Registry

namespace Orchestrator.Messages

open Lib Handler Registry State Commands Alloc

variable {s : RegistryStore} {r : DeviceRecord} {i : Nat}

theorem accepted_of_regular (h : s.Regular) : s.Accepted where
  version := h.version
  count := h.count
  capabilities r hr := (h.records r hr).capabilityCount

theorem regular_initEmptyStore : initEmptyStore.Regular where
  version := rfl
  count := Nat.zero_le _
  distinct := List.nodup_nil
  records _ h := absurd h List.not_mem_nil

/-- Different records are of different nodes. -/
theorem nodup_nodeIds (h : s.Regular) : (s.devices.map fun r => r.nodeId).Nodup := by
  have hids : s.devices.map (fun r => r.deviceId.toCStr) =
      (s.devices.map fun r => r.nodeId).map
        fun nodeId => CStr.lit "node-" ++ CStr.decimal nodeId.toNat := by
    rw [List.map_map]
    exact List.map_congr_left fun r hr => (h.records r hr).deviceId
  have hdistinct := h.distinct
  rw [hids] at hdistinct
  exact List.Nodup.of_map _ hdistinct

/-! ## Records -/

theorem regular_pairedRecord (nodeId : UInt64) : (pairedRecord nodeId).Regular where
  terminated := CharArray.terminated_copyField 31 _
  deviceId := deviceId_pairedRecord nodeId
  capabilityCount := UInt32.le_iff_toNat_le.mpr (Nat.zero_le 8)
  distinct := List.nodup_nil
  capabilities _ h := absurd h List.not_mem_nil

theorem regular_relabel (hr : r.Regular) (label : CStr) : (r.relabel label).Regular where
  terminated := hr.terminated
  deviceId := hr.deviceId
  capabilityCount := hr.capabilityCount
  distinct := hr.distinct
  capabilities := hr.capabilities

theorem regular_newCapability {payload : Json} {fields : CapabilityFields}
    {semantic : DeviceCapabilitySemanticType} (hid : fields.capabilityId.isEmpty = false)
    (hattribute : ¬(needsAttribute semantic = true ∧
      (newCapability payload fields semantic).attributeId = uint32Max)) :
    (newCapability payload fields semantic).Regular where
  terminated := CharArray.terminated_copyField 31 _
  named := by
    rw [newCapability, CharArray.toCStr_copyField 31]
    unfold CStr.isEmpty at hid ⊢
    rw [CStr.bytes_take]
    cases hbytes : fields.capabilityId.bytes with
    | nil =>
        rw [hbytes] at hid
        cases hid
    | cons b bytes => rfl
  attributeId hneeds heq := hattribute ⟨hneeds, heq⟩
  commandId := by
    rintro rfl
    show commandOrDefault .relay (optionalId payload "command_id") ≠ uint32Max
    unfold commandOrDefault
    split
    · decide
    · next h => exact fun heq => h ⟨rfl, heq⟩

/-- A capability with the id of another one takes its place. -/
theorem regular_withCapability {capability : DeviceCapability} {updated : DeviceRecord}
    (hr : r.Regular) (hcapability : capability.Regular)
    (hupdated : withCapability r capability = some updated) : updated.Regular := by
  have hcount : r.capabilityCount.toNat ≤ 8 := UInt32.le_iff_toNat_le.mp hr.capabilityCount
  have hsame : ∀ c ∈ r.capabilityList, sameCapabilityId capability c = true ↔
      c.capabilityId.toCStr = capability.capabilityId.toCStr := fun c hc =>
    CharArray.strncmpEq_iff_ofBytes (hr.capabilities c hc).terminated _
  have hregular : ∀ c ∈ updated.capabilityList, c.Regular := by
    intro c hc
    rcases mem_withCapability hupdated hc with hc | rfl
    · exact hr.capabilities c hc
    · exact hcapability
  rcases withCapability_cases hupdated with
    ⟨i, hfind, rfl, hlist⟩ | ⟨hfind, hroom, rfl, hlist⟩
  · refine { hr with distinct := ?_, capabilities := hregular }
    rw [hlist]
    apply BoundedMap.nodup_set hr.distinct
    intro c hc
    exact (hsame c (List.mem_of_getElem? hc)).mp (CountedArray.findIndex_eq_some hfind hc)
  · refine { hr with capabilityCount := ?_, distinct := ?_, capabilities := hregular }
    · have hlt := UInt32.lt_iff_toNat_lt.mp hroom
      apply UInt32.le_iff_toNat_le.mpr
      show (r.capabilityCount + 1).toNat ≤ 8
      rw [UInt32.toNat_add, UInt32.toNat_one]
      exact Nat.le_trans (Nat.mod_le _ _) hlt
    · rw [hlist]
      apply BoundedMap.nodup_append hr.distinct
      intro c hc heq
      have hfalse := CountedArray.findIndex_eq_none hcount hfind hc
      rw [(hsame c hc).mpr heq] at hfalse
      cases hfalse

/-! ## Stores -/

theorem hasId_iff (hr : r.Regular) (deviceId : List UInt8) :
    hasId deviceId r = true ↔ r.deviceId.toCStr = CStr.ofBytes deviceId :=
  CharArray.strncmpEq_iff_ofBytes hr.terminated deviceId

/-- A record that is found may be replaced by one with its id. -/
theorem regular_set (h : s.Regular) (hr : r.Regular)
    (hkey : ∀ r', s.devices[i]? = some r' → r'.deviceId.toCStr = r.deviceId.toCStr) :
    RegistryStore.Regular { s with records := s.records.setIfInBounds i r } where
  version := h.version
  count := h.count
  distinct := by
    rw [devices_set]
    exact BoundedMap.nodup_set h.distinct hkey
  records := by
    intro r' hr'
    rw [devices_set] at hr'
    rcases List.mem_or_eq_of_mem_set hr' with hr' | rfl
    · exact h.records r' hr'
    · exact hr

theorem regular_append (h : s.Regular) (hr : r.Regular)
    (hfind : findRecord s r.deviceId.toList = none) (hroom : s.count.toNat < maxRecords) :
    RegistryStore.Regular { s with
      count := s.count + 1
      records := s.records.setIfInBounds s.count.toNat r } where
  version := h.version
  count := by
    rw [toNat_count_append hroom]
    exact hroom
  distinct := by
    rw [devices_append hroom]
    apply BoundedMap.nodup_append h.distinct
    intro r' hr' heq
    have hfalse := CountedArray.findIndex_eq_none h.count hfind hr'
    rw [(hasId_iff (h.records r' hr') _).mpr heq] at hfalse
    cases hfalse
  records := by
    intro r' hr'
    rw [devices_append hroom] at hr'
    rcases List.mem_append.mp hr' with hr' | hr'
    · exact h.records r' hr'
    · exact List.mem_singleton.mp hr' ▸ hr

theorem regular_remove (h : s.Regular) (hi : i < s.count.toNat) :
    RegistryStore.Regular { s with
      records := CountedArray.shiftDown s.records i s.count.toNat
      count := s.count - 1 } where
  version := h.version
  count := by
    rw [toNat_count_remove hi]
    exact Nat.le_trans (Nat.sub_le _ _) h.count
  distinct := by
    rw [devices_remove hi h.count]
    exact h.distinct.sublist ((List.eraseIdx_sublist _ _).map _)
  records := by
    intro r' hr'
    rw [devices_remove hi h.count] at hr'
    exact h.records r' (List.mem_of_mem_eraseIdx hr')

/-! ## Commands -/

/-- A blob that holds a regular store. -/
def SavedRegular (bytes : List UInt8) : Prop :=
  ∃ s : RegistryStore, s.Regular ∧ bytes = registryStoreLayout.encode s

/-- Only regular stores have been written to flash. -/
def RegularFlash (w : World) : Prop := w.board.registry.All SavedRegular

theorem regularFlash_callInvariant : CallInvariant RegularFlash where
  toUnforeseenNvs := unforeseen_board fun b => b.registry.All SavedRegular
  request _ _ h := h

theorem regularFlash_storeInvariant : StoreInvariant RegistryStore.Regular RegularFlash := by
  apply StoreInvariant.of_flash regularFlash_callInvariant.toUnforeseenNvs (B := SavedRegular)
  · exact fun _ h => h
  · exact fun _ _ _ h => h
  · exact fun _ _ _ h => h
  · rintro _ ⟨s, hs, rfl⟩
    rw [loadBlob_encode (accepted_of_regular hs)]
    exact hs
  · exact fun s hs => ⟨s, hs, rfl⟩
  · exact regular_initEmptyStore

theorem upsertDevice_regular (hr : r.Regular) :
    Esp.Keeps RegularFlash (deviceRegistryUpsertDevice r) fun _ => True := by
  apply deviceRegistryUpsertDevice_keeps regularFlash_storeInvariant
  · intro s i hs hfind
    apply regular_set hs hr
    intro r' hr'
    exact (hasId_iff (hs.records r' (List.mem_of_getElem? hr')) _).mp
      (CountedArray.findIndex_eq_some hfind hr')
  · exact fun s hs hfind hroom => regular_append hs hr hfind hroom

theorem matterPairBleThread_regular (payload : Json) :
    Keeps RegularFlash (matterPairBleThread payload) fun _ => True := by
  unfold matterPairBleThread
  split
  · next nodeId pin discriminator _ _ _ =>
    have hupsert := upsertDevice_regular (regular_pairedRecord nodeId)
    exact report_rule (pairBleThread_keeps regularFlash_callInvariant.toUnforeseen
      regularFlash_callInvariant.request hupsert pin discriminator) fun _ _ => trivial
  · exact Keeps.pure trivial

theorem deviceRemove_regular (payload : Json) :
    Keeps RegularFlash (deviceRemove payload) fun _ => True := by
  unfold deviceRemove
  split
  · exact Keeps.pure trivial
  · refine report_rule (deviceRegistryRemoveDevice_keeps regularFlash_storeInvariant ?_)
      fun _ _ => trivial
    exact fun s i hs hfind => regular_remove hs (lt_of_findRecord hfind)

theorem deviceRename_regular (payload : Json) :
    Keeps RegularFlash (deviceRename payload) fun _ => True := by
  unfold deviceRename
  split
  · next deviceId label _ _ =>
    refine report_rule (deviceRegistryRenameDevice_keeps regularFlash_storeInvariant ?_)
      fun _ _ => trivial
    intro s i hs hfind
    obtain ⟨r, hr, hset⟩ := setLabel_eq (lt_of_findRecord hfind) hs.count label
    rw [hset]
    apply regular_set hs (regular_relabel (hs.records r (List.mem_of_getElem? hr)) label)
    intro r' hr'
    obtain rfl := Option.some.inj (hr.symm.trans hr')
    rfl
  · exact Keeps.pure trivial

theorem regular_updated {payload : Json} {fields : CapabilityFields}
    {semantic : DeviceCapabilitySemanticType} {record updated : DeviceRecord}
    (hadds : AddsCapability payload fields semantic record updated) (hrecord : record.Regular) :
    updated.Regular := by
  have hid := isEmpty_of_requiredStringField (of_capabilityFields hadds.hasFields).capabilityId
  exact regular_withCapability hrecord (regular_newCapability hid hadds.hasAttribute) hadds.updates

theorem addCapabilityCommand_regular (payload : Json) :
    Keeps RegularFlash (addCapabilityCommand payload) fun _ => True := by
  apply addCapabilityCommand_rule (fun _ _ _ => trivial) fun deviceId =>
    deviceRegistryGetDevice_keeps regularFlash_storeInvariant.toLoadInvariant deviceId
  rintro fields semantic record updated hadds ⟨s, hs, hfind⟩
  have hrecord := hs.records record (List.mem_of_find?_eq_some hfind)
  exact storeCapability_keeps regularFlash_callInvariant.toUnforeseen
    (upsertDevice_regular (regular_updated hadds hrecord)) _

/-! ## Runs -/

/-- The commands that change the registry. -/
def registryBranches : List (String × CommandHandler) :=
  [("matter.pair_ble_thread", matterPairBleThread),
   ("device.capability.add", addCapabilityCommand),
   ("device.rename", deviceRename),
   ("device.remove", deviceRemove)]

/-- Nothing has been stored yet. -/
def EmptyRegistry (w : World) : Prop :=
  w.board.registry.stored.join = none ∧ w.board.registry.staged = none

/-- A command or a restart. Between them, all but the registry may change. -/
inductive Step (cfg : Config) (p : Platform) : World → World → Prop
  | command (entry : String × CommandHandler) (w : World) (payload : Json)
      (h : entry ∈ registryBranches) :
      Step cfg p w (processCommandMessage cfg p (CStr.lit entry.1) payload w).2
  | restart (w : World) (persisted : Bool) :
      Step cfg p w (deviceRegistryInit.run (w.restarted persisted)).2
  | elsewhere {w w' : World} (h : w'.board.registry = w.board.registry) : Step cfg p w w'

variable {cfg : Config} {p : Platform} {w w' : World}

theorem mem_branches_of_registry {entry : String × CommandHandler}
    (h : entry ∈ registryBranches) : entry ∈ branches cfg p := by
  simp only [registryBranches, List.mem_cons, List.not_mem_nil, or_false] at h
  rcases h with rfl | rfl | rfl | rfl
  · exact mem_branches_of_matter (by simp [matterBranches])
  · exact mem_branches_of_device (by simp [deviceBranches])
  · exact mem_branches_of_device (by simp [deviceBranches])
  · exact mem_branches_of_device (by simp [deviceBranches])

theorem registryBranches_regular {entry : String × CommandHandler}
    (h : entry ∈ registryBranches) (payload : Json) :
    Keeps RegularFlash (entry.2 payload) fun _ => True := by
  simp only [registryBranches, List.mem_cons, List.not_mem_nil, or_false] at h
  rcases h with rfl | rfl | rfl | rfl
  · exact matterPairBleThread_regular payload
  · exact addCapabilityCommand_regular payload
  · exact deviceRename_regular payload
  · exact deviceRemove_regular payload

theorem regularFlash_of_empty (h : EmptyRegistry w) : RegularFlash w where
  stored bytes hbytes := by
    rw [h.1] at hbytes
    cases hbytes
  staged bytes hbytes := by
    rw [h.2] at hbytes
    cases hbytes

theorem regularFlash_step (hw : RegularFlash w) (step : Step cfg p w w') : RegularFlash w' := by
  cases step with
  | command entry _ payload h =>
      rw [processCommandMessage_of_mem (mem_branches_of_registry h)]
      exact (registryBranches_regular h payload w hw).1
  | restart _ persisted =>
      have hstarted : RegularFlash (w.restarted persisted) := hw.restarted persisted
      exact (deviceRegistryInit_keeps regularFlash_storeInvariant _ hstarted).1
  | elsewhere h =>
      unfold RegularFlash
      rw [h]
      exact hw

theorem regularFlash_run (hw : RegularFlash w) (run : Relation.ReflTransGen (Step cfg p) w w') :
    RegularFlash w' := by
  induction run with
  | refl => exact hw
  | tail _ step ih => exact regularFlash_step ih step

/-- What is loaded from such flash is the store that was saved. -/
theorem exists_read_of_regularFlash (h : RegularFlash w) :
    ∃ s : RegistryStore, w.board.registry.read = .ok s ∧ s.Regular ∧
      ∀ bytes, w.board.registry.stored.join = some bytes →
        bytes = registryStoreLayout.encode s := by
  cases hstored : w.board.registry.stored.join with
  | none =>
      refine ⟨initEmptyStore, ?_, regular_initEmptyStore, nofun⟩
      rw [RegistryNvs.read, hstored]
  | some bytes =>
      obtain ⟨s, hs, rfl⟩ := h.stored bytes hstored
      exact ⟨s, RegistryNvs.read_encode (accepted_of_regular hs) hstored, hs,
        fun _ heq => (Option.some.inj heq).symm⟩

/-- From an empty registry on, the registry is regular after every run of commands
and restarts, and the nodes of its records are distinct. -/
theorem registry_stays_regular (cfg : Config) (p : Platform) {w w' : World}
    (hempty : EmptyRegistry w) (run : Relation.ReflTransGen (Step cfg p) w w') :
    ∃ s : RegistryStore, w'.board.registry.read = .ok s ∧
      (∀ bytes, w'.board.registry.stored.join = some bytes →
        bytes = registryStoreLayout.encode s) ∧
      s.Regular ∧ (s.devices.map fun r => r.nodeId).Nodup := by
  obtain ⟨s, hread, hs, hbytes⟩ :=
    exists_read_of_regularFlash (regularFlash_run (regularFlash_of_empty hempty) run)
  exact ⟨s, hread, hbytes, hs, nodup_nodeIds hs⟩

/-- A node that is to be paired over BLE. -/
def pairingPayload : Json :=
  .object
    [(CStr.lit "node_id", .string (CStr.lit "18446744073709551615")),
     (CStr.lit "setup_code", .string (CStr.lit "20202021")),
     (CStr.lit "discriminator", .string (CStr.lit "3840"))]

/-- Flash is empty, and the border router is part of a Thread network. -/
def threadAttached : Board :=
  { Board.erased with openThread := { Board.erased.openThread with
      instanceExists := true
      role := .leader
      activeDatasetTlvs := some [0, 3, 0, 0, 15] } }

/-- A node was paired in a build with every feature. -/
def pairedWorld : World :=
  (processCommandMessage Config.full (Platform.parsing "null" .null)
    (CStr.lit "matter.pair_ble_thread") pairingPayload (World.calm threadAttached)).2

theorem run_pairedWorld : Relation.ReflTransGen (Step Config.full (Platform.parsing "null" .null))
    (World.calm threadAttached) pairedWorld :=
  .single (.command ("matter.pair_ble_thread", matterPairBleThread) _ pairingPayload
    List.mem_cons_self)

/-- A relay without the optional attribute. -/
def relayPayload : Json :=
  .object
    [(CStr.lit "device_id", .string (CStr.lit "node-18446744073709551615")),
     (CStr.lit "capability_id", .string (CStr.lit "heater")),
     (CStr.lit "semantic_type", .string (CStr.lit "relay")),
     (CStr.lit "endpoint_id", .number 1),
     (CStr.lit "cluster_id", .number 6)]

/-- The paired node was given a relay. -/
def relayWorld : World :=
  (processCommandMessage Config.full (Platform.parsing "null" .null)
    (CStr.lit "device.capability.add") relayPayload pairedWorld).2

theorem run_relayWorld : Relation.ReflTransGen (Step Config.full (Platform.parsing "null" .null))
    (World.calm threadAttached) relayWorld :=
  run_pairedWorld.tail (.command ("device.capability.add", addCapabilityCommand) _ relayPayload
    (List.mem_cons_of_mem _ List.mem_cons_self))

theorem registry_stays_regular_relay :
    ∃ s : RegistryStore,
      (deviceRegistryInit.run (relayWorld.restarted false)).2.board.registry.read = .ok s ∧
      s.Regular ∧ (s.devices.map fun r => r.capabilityList.map fun c => c.capabilityId.toCStr) =
        [[CStr.lit "heater"]] := by
  obtain ⟨s, hread, -, hs, -⟩ := registry_stays_regular Config.full (Platform.parsing "null" .null)
    ⟨rfl, rfl⟩ (run_relayWorld.tail (.restart relayWorld false))
  have hids : ((deviceRegistryInit.run
      (relayWorld.restarted false)).2.board.registry.read.toOption.map fun s =>
        s.devices.map fun r => r.capabilityList.map fun c => c.capabilityId.toCStr) =
          some [[CStr.lit "heater"]] := by decide +kernel
  rw [hread] at hids
  exact ⟨s, hread, hs, Option.some.inj hids⟩

end Orchestrator.Messages
