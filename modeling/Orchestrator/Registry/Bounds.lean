import Orchestrator.Lib.Bounds
import Orchestrator.Registry.Rules

/-!
# The arrays of the registry

The functions of the registry with every access to `records` and `capabilities` checked,
and the loops over these arrays as the source has them. A load accepts only stores whose
counts fit the arrays, so no access is refused, and only such stores are saved.
-/

namespace Orchestrator

open Lib Registry

/-- A blob that a load may come to see. -/
def RegistryNvs.Holds (n : RegistryNvs) (bytes : List UInt8) : Prop :=
  n.stored.join = some bytes ∨ n.staged = some bytes

end Orchestrator

namespace Orchestrator.Registry

open Lib Handler CountedArray

/-! ## Checked programs that can fail -/

/-- `return err` -/
def refuse {α : Type} (err : EspErr) : OptionT Esp α := OptionT.lift (throw err)

/-- The result of a checked function, its error included. -/
def outcome {α : Type} (c : OptionT Esp α) : OptionT Handler (EspResult α) :=
  OptionT.mk do
    match ← (c.run.run : Handler (EspResult (Option α))) with
    | .ok (some a) => return some (.ok a)
    | .ok none => return none
    | .error err => return some (.error err)

/-- A checked computation that only builds JSON. -/
def allocateChecked {α : Type} (c : OptionT Alloc α) : OptionT Handler α :=
  OptionT.mk (allocate c.run)

/-! ## The functions -/

namespace Checked

/-- The loop of `load_store` over the records. -/
def loadBlob (bytes : List UInt8) : Option RegistryStore := do
  let store := registryStoreLayout.decode bytes
  let store :=
    if bytes.length ≠ registryStoreLayout.size ∨ store.version ≠ registryVersion ∨
      maxRecords < store.count.toNat then initEmptyStore else store
  match ← searchFrom (fun _ r => some (if deviceRegistryCapabilityMax < r.capabilityCount
      then some () else none)) store.records 0 store.count.toNat with
  | some _ => return initEmptyStore
  | none => return store

/-- `load_store` -/
def loadStore : OptionT Esp RegistryStore :=
  OptionT.mk (tryCatch (do
    nvsOpenReadonly
    let bytes ← nvsGetBlob
    return loadBlob bytes) fun err =>
      if err = EspErr.nvsNotFound then return some initEmptyStore else throw err)

/-- The loop in which the functions look for a record. -/
def findRecord (store : RegistryStore) (deviceId : List UInt8) : Option (Option Nat) :=
  searchFrom (fun i r => some (if hasId deviceId r then some i else none)) store.records 0
    store.count.toNat

/-- `device_registry_init` -/
def deviceRegistryInit : OptionT Esp Unit := do
  allocStore
  let store ← loadStore
  saveStore store

/-- `device_registry_upsert_device` -/
def deviceRegistryUpsertDevice (record : DeviceRecord) : OptionT Esp Unit := do
  if record.deviceId.head = 0 ∨ deviceRegistryCapabilityMax < record.capabilityCount then
    refuse EspErr.invalidArg
  else
    allocStore
    let store ← loadStore
    match ← access (findRecord store record.deviceId.toList) with
    | some i =>
        let records ← access (CountedArray.store store.records i record)
        saveAndNotify { store with records }
    | none =>
        if maxRecords ≤ store.count.toNat then refuse EspErr.noMem
        else
          let records ← access (CountedArray.store store.records store.count.toNat record)
          saveAndNotify { store with count := store.count + 1, records }

/-- `device_registry_get_device` -/
def deviceRegistryGetDevice (deviceId : CStr) : OptionT Esp DeviceRecord := do
  allocStore
  let store ← loadStore
  match ← access (searchFrom (fun _ r => some (if hasId deviceId.bytes r then some r else none))
      store.records 0 store.count.toNat) with
  | some r => return r
  | none => refuse EspErr.notFound

/-- `device_registry_remove_device` -/
def deviceRegistryRemoveDevice (deviceId : CStr) : OptionT Esp Unit := do
  allocStore
  let store ← loadStore
  match ← access (findRecord store deviceId.bytes) with
  | some i =>
      let records ← access (shiftFrom store.records (i + 1) (store.count.toNat - (i + 1)))
      saveAndNotify { store with records, count := store.count - 1 }
  | none => refuse EspErr.notFound

/-- `device_registry_rename_device` -/
def deviceRegistryRenameDevice (deviceId label : CStr) : OptionT Esp Unit := do
  allocStore
  let store ← loadStore
  match ← access (findRecord store deviceId.bytes) with
  | some i =>
      let r ← access store.records[i]?
      let records ← access (CountedArray.store store.records i (r.relabel label))
      saveAndNotify { store with records }
  | none => refuse EspErr.notFound

/-- `device_registry_find_capability` -/
def deviceRegistryFindCapability (deviceId : CStr) (semanticType : DeviceCapabilitySemanticType) :
    OptionT Esp (DeviceRecord × DeviceCapability) := do
  let found ← deviceRegistryGetDevice deviceId
  match ← access (searchFrom (fun _ c => some (if c.semanticType = semanticType then some c
      else none)) found.capabilities 0 found.capabilityCount.toNat) with
  | some c => return (found, c)
  | none => refuse EspErr.notFound

/-- The loop over the capabilities of a record in the search for a path. -/
def atPath (r : DeviceRecord) (endpointId : UInt16) (clusterId attributeId : UInt32) :
    Option (Option DeviceCapability) :=
  searchFrom (fun _ c => some (if c.endpointId = endpointId ∧ c.clusterId = clusterId ∧
    c.attributeId = attributeId then some c else none)) r.capabilities 0 r.capabilityCount.toNat

/-- `device_registry_find_capability_by_path` -/
def deviceRegistryFindCapabilityByPath (nodeId : UInt64) (endpointId : UInt16)
    (clusterId attributeId : UInt32) : OptionT Esp (DeviceRecord × DeviceCapability) := do
  allocStore
  let store ← loadStore
  match ← access (searchFrom (fun _ r =>
      if r.nodeId ≠ nodeId then some none
      else do return (← atPath r endpointId clusterId attributeId).map fun c => (r, c))
      store.records 0 store.count.toNat) with
  | some found => return found
  | none => refuse EspErr.notFound

/-- The loops that fill an array, over the cells from `i` on. -/
def itemsToJson {α : Type} {cap : Nat} (itemToJson : α → OptionT Alloc (Option Json))
    (cells : Vector α cap) (i : Nat) : Nat → OptionT Alloc (Option (List Json))
  | 0 => return some []
  | n + 1 => do
      let a ← access cells[i]?
      match ← itemToJson a with
      | none => return none
      | some item =>
          match ← itemsToJson itemToJson cells (i + 1) n with
          | none => return none
          | some items => return some (item :: items)

def addArrayToObject {α : Type} {cap : Nat} (object : Json) (name : CStr)
    (itemToJson : α → OptionT Alloc (Option Json)) (cells : Vector α cap) (count : Nat) :
    OptionT Alloc (Option Json) := do
  if ← Alloc.next then
    match ← itemsToJson itemToJson cells 0 count with
    | none => return none
    | some items => return some (object.add name (.array items))
  else return none

/-- `record_to_json` of the registry and `device_to_json` of the handler -/
def recordToJson (showUnset : Bool) (r : DeviceRecord) : OptionT Alloc (Option Json) := do
  match ← OptionT.lift (createObject r.fields) with
  | none => return none
  | some item =>
      addArrayToObject item (CStr.lit "capabilities")
        (fun c => OptionT.lift (capabilityToJson showUnset c)) r.capabilities
        r.capabilityCount.toNat

/-- The part of `device_registry_to_json` that follows the load. -/
def devicesToJson (store : RegistryStore) : OptionT Alloc (Option Json) := do
  match ← OptionT.lift cJSONCreateObject with
  | none => return none
  | some payload =>
      addArrayToObject payload (CStr.lit "devices") (recordToJson false) store.records
        store.count.toNat

/-- `device_registry_to_json` -/
def deviceRegistryToJson : OptionT Handler (Option Json) := do
  if (← malloc) = false then return none
  else
    match ← outcome loadStore with
    | .error _ => return none
    | .ok store => allocateChecked (devicesToJson store)

end Checked

/-! ## Results -/

theorem Esp.Keeps.returns {α : Type} {v : Esp α} {Q : α → Prop}
    (h : Esp.Keeps (fun _ => True) v Q) : Returns v Q := by
  intro β f g hfg
  apply ExceptT.ext
  rw [ExceptT.run_bind, ExceptT.run_bind]
  apply Lib.Keeps.returns h
  intro r hr
  cases r with
  | error err => rfl
  | ok a => exact congrArg ExceptT.run (hfg a (hr a rfl))

theorem accepted_loadInvariant : LoadInvariant RegistryStore.Accepted fun _ => True :=
  { (unforeseen_board fun _ => True).toUnforeseen with
    load := loadStore_keeps (unforeseen_board fun _ => True)
      fun _ _ _ hread => RegistryNvs.accepted_of_read hread }

theorem map_apply {α β : Type} (f : α → β) (m : Handler α) (w : World) :
    (f <$> m) w = (f (m w).1, (m w).2) := rfl

theorem map_tryCatch {α β : Type} (f : α → β) (m : Esp α) (handler : EspErr → Esp α) :
    f <$> (tryCatch m handler : Esp α) = tryCatch (f <$> m) fun err => f <$> handler err := by
  apply ExceptT.ext
  funext w
  simp only [ExceptT.run_map, ExceptT.run_tryCatch, map_apply, bind_apply]
  cases (m.run w).1 with
  | ok a => rfl
  | error err => rfl

section InBounds

variable {α : Type} {c : OptionT Esp α} {v : Esp α}

theorem inBounds_refuse (err : EspErr) : InBounds (refuse err : OptionT Esp α) (throw err) :=
  InBounds.lift _

theorem inBounds_outcome (h : InBounds c v) : InBounds (outcome c) v.run := by
  unfold InBounds outcome at *
  rw [OptionT.run_mk, h, ExceptT.run_map]
  funext w
  simp only [map_apply, bind_apply]
  cases (v.run w).1 with
  | ok a => rfl
  | error err => rfl

theorem inBounds_allocateChecked {c : OptionT Alloc α} {v : Alloc α} (h : InBounds c v) :
    InBounds (allocateChecked c) (allocate v) := by
  unfold InBounds allocateChecked at *
  rw [OptionT.run_mk, h]
  rfl

end InBounds

/-! ## The loops over an accepted store -/

section Loops

variable {s : RegistryStore} {r : DeviceRecord} {i : Nat} {deviceId : List UInt8}

theorem toNat_capabilityCount_le (h : r.capabilityCount ≤ deviceRegistryCapabilityMax) :
    r.capabilityCount.toNat ≤ 8 := UInt32.le_iff_toNat_le.mp h

/-- The loop over the records finds one with too many capabilities, or none. -/
theorem checked_counts (h : s.count.toNat ≤ 16) :
    searchFrom (fun _ r => some (if deviceRegistryCapabilityMax < r.capabilityCount then some ()
      else none)) s.records 0 s.count.toNat =
    some (if s.devices.any fun r => deviceRegistryCapabilityMax < r.capabilityCount then some ()
      else none) := by
  have hfind : ∀ devices : List DeviceRecord,
      (devices.findSome? fun r =>
        if deviceRegistryCapabilityMax < r.capabilityCount then some () else none) =
      if devices.any fun r => deviceRegistryCapabilityMax < r.capabilityCount then some ()
      else none := by
    intro devices
    induction devices with
    | nil => rfl
    | cons r devices ih =>
        by_cases hr : deviceRegistryCapabilityMax < r.capabilityCount <;> simp [hr, ih]
  exact (searchFrom_view h fun _ _ => rfl).trans (congrArg some (hfind s.devices))

theorem checked_loadBlob (bytes : List UInt8) : Checked.loadBlob bytes = some (loadBlob bytes) := by
  unfold Checked.loadBlob loadBlob
  dsimp only
  split
  · rfl
  · next h =>
    rw [not_or, not_or, Nat.not_lt] at h
    rw [checked_counts h.2.2]
    split <;> rfl

theorem checked_findRecord (h : s.Accepted) (deviceId : List UInt8) :
    Checked.findRecord s deviceId = some (findRecord s deviceId) :=
  searchFrom_findIndex _ _ h.count

theorem lt_maxRecords_of_findRecord (h : s.Accepted) (hfind : findRecord s deviceId = some i) :
    i < 16 :=
  Nat.lt_of_lt_of_le (lt_of_findRecord hfind) h.count

theorem checked_atPath (h : r.capabilityCount ≤ deviceRegistryCapabilityMax)
    (endpointId : UInt16) (clusterId attributeId : UInt32) :
    Checked.atPath r endpointId clusterId attributeId =
      some (r.atPath endpointId clusterId attributeId) := by
  have hfind := searchFrom_find (fun c : DeviceCapability => decide (c.endpointId = endpointId ∧
    c.clusterId = clusterId ∧ c.attributeId = attributeId)) r.capabilities
    (toNat_capabilityCount_le h)
  simpa [Checked.atPath, DeviceRecord.atPath, DeviceRecord.capabilityList] using hfind

end Loops

/-! ## Every access is in bounds -/

theorem loadStore_inBounds : InBounds Checked.loadStore loadStore := by
  unfold InBounds Checked.loadStore loadStore
  rw [OptionT.run_mk, map_tryCatch]
  have hbody : (do
      nvsOpenReadonly
      let bytes ← nvsGetBlob
      return Checked.loadBlob bytes : Esp (Option RegistryStore)) = some <$> do
        nvsOpenReadonly
        let bytes ← nvsGetBlob
        return loadBlob bytes := by
    simp only [checked_loadBlob, map_bind, map_pure]
  have hhandler : (fun err : EspErr => if err = EspErr.nvsNotFound then
      (return some initEmptyStore : Esp (Option RegistryStore)) else throw err) = fun err =>
        some <$> if err = EspErr.nvsNotFound then return initEmptyStore else throw err := by
    funext err
    split <;> rfl
  rw [hbody, hhandler]

/-- The two calls with which every function begins. -/
theorem load_inBounds {α : Type} {c : RegistryStore → OptionT Esp α} {f : RegistryStore → Esp α}
    (h : ∀ s, s.Accepted → InBounds (c s) (f s)) :
    InBounds ((liftM allocStore : OptionT Esp Unit) >>= fun _ => Checked.loadStore >>= c)
      (allocStore >>= fun _ => loadStore >>= f) :=
  InBounds.bind (InBounds.lift _) fun _ =>
    InBounds.bindReturns (Esp.Keeps.returns accepted_loadInvariant.load) loadStore_inBounds h

theorem deviceRegistryInit_inBounds : InBounds Checked.deviceRegistryInit deviceRegistryInit :=
  load_inBounds fun _ _ => InBounds.lift _

theorem deviceRegistryUpsertDevice_inBounds (record : DeviceRecord) :
    InBounds (Checked.deviceRegistryUpsertDevice record) (deviceRegistryUpsertDevice record) := by
  unfold Checked.deviceRegistryUpsertDevice deviceRegistryUpsertDevice Vector.head
  split
  · exact inBounds_refuse _
  · apply load_inBounds
    intro s hs
    refine InBounds.accessBind (checked_findRecord hs _) ?_
    cases hfind : findRecord s record.deviceId.toList with
    | some i =>
        refine InBounds.accessBind (store_eq _ (lt_maxRecords_of_findRecord hs hfind) _) ?_
        exact InBounds.lift _
    | none =>
        dsimp only
        split
        · exact inBounds_refuse _
        · next hroom =>
          refine InBounds.accessBind (store_eq _ (Nat.lt_of_not_le hroom) _) ?_
          exact InBounds.lift _

theorem deviceRegistryGetDevice_inBounds (deviceId : CStr) :
    InBounds (Checked.deviceRegistryGetDevice deviceId) (deviceRegistryGetDevice deviceId) := by
  apply load_inBounds
  intro s hs
  have hloop : searchFrom (fun _ r => some (if hasId deviceId.bytes r then some r else none))
      s.records 0 s.count.toNat = some (s.devices.find? (hasId deviceId.bytes)) :=
    searchFrom_find _ _ hs.count
  refine InBounds.accessBind hloop ?_
  cases s.devices.find? (hasId deviceId.bytes) with
  | some r => exact InBounds.pure r
  | none => exact inBounds_refuse _

theorem deviceRegistryRemoveDevice_inBounds (deviceId : CStr) :
    InBounds (Checked.deviceRegistryRemoveDevice deviceId)
      (deviceRegistryRemoveDevice deviceId) := by
  apply load_inBounds
  intro s hs
  refine InBounds.accessBind (checked_findRecord hs _) ?_
  cases hfind : findRecord s deviceId.bytes with
  | some i =>
      have hshift := shiftFrom_shiftDown s.records (lt_of_findRecord hfind) hs.count
      exact InBounds.accessBind hshift (InBounds.lift _)
  | none => exact inBounds_refuse _

theorem deviceRegistryRenameDevice_inBounds (deviceId label : CStr) :
    InBounds (Checked.deviceRegistryRenameDevice deviceId label)
      (deviceRegistryRenameDevice deviceId label) := by
  apply load_inBounds
  intro s hs
  refine InBounds.accessBind (checked_findRecord hs _) ?_
  cases hfind : findRecord s deviceId.bytes with
  | some i =>
      have hi : i < 16 := lt_maxRecords_of_findRecord hs hfind
      have hcell : s.records[i]? = some s.records[i] := Vector.getElem?_eq_getElem hi
      have hset : setLabel s.records i label =
          s.records.setIfInBounds i (s.records[i].relabel label) := by
        simp [setLabel, hcell]
      refine InBounds.accessBind hcell (InBounds.accessBind (store_eq _ hi _) ?_)
      dsimp only
      rw [hset]
      exact InBounds.lift _
  | none => exact inBounds_refuse _

/-- A device that is returned has as many capabilities as fit. -/
theorem deviceRegistryGetDevice_fits (deviceId : CStr) :
    Esp.Keeps (fun _ => True) (deviceRegistryGetDevice deviceId) fun r =>
      r.capabilityCount ≤ deviceRegistryCapabilityMax := by
  apply (deviceRegistryGetDevice_keeps accepted_loadInvariant deviceId).weaken
  rintro r ⟨s, hs, hfind⟩
  exact hs.capabilities r (List.mem_of_find?_eq_some hfind)

theorem deviceRegistryFindCapability_inBounds (deviceId : CStr)
    (semanticType : DeviceCapabilitySemanticType) :
    InBounds (Checked.deviceRegistryFindCapability deviceId semanticType)
      (deviceRegistryFindCapability deviceId semanticType) := by
  refine InBounds.bindReturns (Esp.Keeps.returns (deviceRegistryGetDevice_fits deviceId))
    (deviceRegistryGetDevice_inBounds deviceId) ?_
  intro found hfound
  have hloop := searchFrom_find (fun c : DeviceCapability => decide (c.semanticType = semanticType))
    found.capabilities (toNat_capabilityCount_le hfound)
  simp only [decide_eq_true_eq] at hloop
  refine InBounds.accessBind hloop ?_
  show InBounds _ (match found.ofType semanticType with
    | some c => pure (found, c)
    | none => throw EspErr.notFound)
  unfold DeviceRecord.ofType DeviceRecord.capabilityList
  cases (view found.capabilities found.capabilityCount.toNat).find? fun c =>
      c.semanticType = semanticType with
  | some c => exact InBounds.pure (found, c)
  | none => exact inBounds_refuse _

theorem deviceRegistryFindCapabilityByPath_inBounds (nodeId : UInt64) (endpointId : UInt16)
    (clusterId attributeId : UInt32) :
    InBounds (Checked.deviceRegistryFindCapabilityByPath nodeId endpointId clusterId attributeId)
      (deviceRegistryFindCapabilityByPath nodeId endpointId clusterId attributeId) := by
  apply load_inBounds
  intro s hs
  have hloop : searchFrom (fun _ r =>
      if r.nodeId ≠ nodeId then some none
      else do return (← Checked.atPath r endpointId clusterId attributeId).map fun c => (r, c))
      s.records 0 s.count.toNat = some (s.devices.findSome? fun r =>
        if r.nodeId ≠ nodeId then none
        else (r.atPath endpointId clusterId attributeId).map fun c => (r, c)) := by
    apply searchFrom_view hs.count
    intro r hr
    rw [checked_atPath (hs.capabilities r hr)]
    split <;> rfl
  refine InBounds.accessBind hloop ?_
  cases s.devices.findSome? fun r =>
      if r.nodeId ≠ nodeId then none
      else (r.atPath endpointId clusterId attributeId).map fun c => (r, c) with
  | some found => exact InBounds.pure found
  | none => exact inBounds_refuse _

/-! ## The loops that fill arrays -/

section Json

variable {α : Type} {cap : Nat} {c : α → OptionT Alloc (Option Json)} {f : α → Alloc (Option Json)}

theorem itemsToJson_inBounds (cells : Vector α cap) (i n : Nat) (h : i + n ≤ cap)
    (hc : ∀ a ∈ (cells.toList.drop i).take n, InBounds (c a) (f a)) :
    InBounds (Checked.itemsToJson c cells i n)
      (itemsToJson f ((cells.toList.drop i).take n)) := by
  induction n generalizing i with
  | zero => exact InBounds.pure _
  | succ n ih =>
      have hi : i < cap := by omega
      have hdrop : cells.toList.drop i = cells[i] :: cells.toList.drop (i + 1) := by
        rw [List.drop_eq_getElem_cons (by simpa using hi), Vector.getElem_toList]
      rw [hdrop, List.take_succ_cons] at hc ⊢
      have hrest := ih (i + 1) (by omega) fun a ha => hc a (List.mem_cons_of_mem _ ha)
      refine InBounds.accessBind (Vector.getElem?_eq_getElem hi) ?_
      refine InBounds.bind (hc _ List.mem_cons_self) fun item => ?_
      cases item with
      | none => exact InBounds.pure _
      | some item =>
          refine InBounds.bind hrest fun items => ?_
          cases items with
          | none => exact InBounds.pure _
          | some items => exact InBounds.pure _

theorem addArrayToObject_inBounds (object : Json) (name : CStr) {cells : Vector α cap}
    {count : Nat} (h : count ≤ cap) (hc : ∀ a ∈ view cells count, InBounds (c a) (f a)) :
    InBounds (Checked.addArrayToObject object name c cells count)
      (addArrayToObject object name f (view cells count)) := by
  refine InBounds.bind (InBounds.lift _) fun ok => ?_
  cases ok with
  | false => exact InBounds.pure _
  | true =>
      have hitems := itemsToJson_inBounds cells 0 count (by omega) hc
      refine InBounds.bind hitems fun items => ?_
      cases items with
      | none => exact InBounds.pure _
      | some items => exact InBounds.pure _

end Json

theorem recordToJson_inBounds (showUnset : Bool) {r : DeviceRecord}
    (h : r.capabilityCount ≤ deviceRegistryCapabilityMax) :
    InBounds (Checked.recordToJson showUnset r) (recordToJson showUnset r) := by
  refine InBounds.bind (InBounds.lift _) fun item => ?_
  cases item with
  | none => exact InBounds.pure _
  | some item =>
      exact addArrayToObject_inBounds item _ (toNat_capabilityCount_le h)
        fun c _ => InBounds.lift _

theorem devicesToJson_inBounds {s : RegistryStore} (hs : s.Accepted) :
    InBounds (Checked.devicesToJson s) (devicesToJson s.devices) := by
  refine InBounds.bind (InBounds.lift _) fun payload => ?_
  cases payload with
  | none => exact InBounds.pure _
  | some payload =>
      exact addArrayToObject_inBounds payload _ hs.count
        fun r hr => recordToJson_inBounds false (hs.capabilities r hr)

theorem deviceRegistryToJson_inBounds :
    InBounds Checked.deviceRegistryToJson deviceRegistryToJson := by
  refine InBounds.bind (InBounds.lift _) fun ok => ?_
  split
  · exact InBounds.pure _
  · refine InBounds.bindReturns (Keeps.returns accepted_loadInvariant.load)
      (inBounds_outcome loadStore_inBounds) fun r hr => ?_
    cases r with
    | error err => exact InBounds.pure _
    | ok s => exact inBounds_allocateChecked (devicesToJson_inBounds (hr s rfl))

/-! ## What is saved -/

section Saved

variable {s : RegistryStore} {r : DeviceRecord} {i : Nat}

theorem accepted_set (hs : s.Accepted) (hr : r.capabilityCount ≤ deviceRegistryCapabilityMax) :
    RegistryStore.Accepted { s with records := s.records.setIfInBounds i r } where
  version := hs.version
  count := hs.count
  capabilities := by
    intro r' hr'
    rw [devices_set] at hr'
    rcases List.mem_or_eq_of_mem_set hr' with hr' | rfl
    · exact hs.capabilities r' hr'
    · exact hr

theorem accepted_append (hs : s.Accepted) (hr : r.capabilityCount ≤ deviceRegistryCapabilityMax)
    (hroom : s.count.toNat < maxRecords) :
    RegistryStore.Accepted { s with
      count := s.count + 1
      records := s.records.setIfInBounds s.count.toNat r } where
  version := hs.version
  count := by
    rw [toNat_count_append hroom]
    exact hroom
  capabilities := by
    intro r' hr'
    rw [devices_append hroom, List.mem_append, List.mem_singleton] at hr'
    rcases hr' with hr' | rfl
    · exact hs.capabilities r' hr'
    · exact hr

theorem accepted_remove (hs : s.Accepted) (hi : i < s.count.toNat) :
    RegistryStore.Accepted { s with
      records := shiftDown s.records i s.count.toNat
      count := s.count - 1 } where
  version := hs.version
  count := by
    rw [toNat_count_remove hi]
    exact Nat.le_trans (Nat.sub_le _ _) hs.count
  capabilities := by
    intro r hr
    rw [devices_remove hi hs.count] at hr
    exact hs.capabilities r (List.mem_of_mem_eraseIdx hr)

end Saved

/-- The bytes were in flash before, or were saved from a store whose counts fit. -/
def FitsOr (n : RegistryNvs) (bytes : List UInt8) : Prop :=
  n.Holds bytes ∨ ∃ s : RegistryStore, s.Accepted ∧ bytes = registryStoreLayout.encode s

/-- Only stores whose counts fit have been saved. -/
def SavedFitting (n : RegistryNvs) (w : World) : Prop := w.board.registry.All (FitsOr n)

variable {n : RegistryNvs}

theorem savedFitting_refl (w : World) : SavedFitting w.board.registry w where
  stored _ h := .inl (.inl h)
  staged _ h := .inl (.inr h)

theorem savedFitting_unforeseen : UnforeseenNvs (SavedFitting n) :=
  unforeseen_board fun b => b.registry.All (FitsOr n)

theorem savedFitting_storeInvariant : StoreInvariant RegistryStore.Accepted (SavedFitting n) := by
  apply StoreInvariant.of_flash savedFitting_unforeseen (B := FitsOr n)
  · exact fun _ h => h
  · exact fun _ _ _ h => h
  · exact fun _ _ _ h => h
  · exact fun bytes _ => loadBlob_accepted bytes
  · exact fun s hs => .inr ⟨s, hs, rfl⟩
  · exact accepted_initEmptyStore

theorem deviceRegistryUpsertDevice_savedFitting (record : DeviceRecord) :
    Esp.Keeps (SavedFitting n) (deviceRegistryUpsertDevice record) fun _ => True := by
  by_cases hcount : deviceRegistryCapabilityMax < record.capabilityCount
  · unfold deviceRegistryUpsertDevice
    rw [if_pos (.inr hcount)]
    exact Esp.Keeps.throw
  · have hfits := UInt32.not_lt.mp hcount
    apply deviceRegistryUpsertDevice_keeps savedFitting_storeInvariant
    · exact fun s i hs _ => accepted_set hs hfits
    · exact fun s hs _ hroom => accepted_append hs hfits hroom

theorem deviceRegistryRemoveDevice_savedFitting (deviceId : CStr) :
    Esp.Keeps (SavedFitting n) (deviceRegistryRemoveDevice deviceId) fun _ => True :=
  deviceRegistryRemoveDevice_keeps savedFitting_storeInvariant
    fun _ _ hs hfind => accepted_remove hs (lt_of_findRecord hfind)

theorem deviceRegistryRenameDevice_savedFitting (deviceId label : CStr) :
    Esp.Keeps (SavedFitting n) (deviceRegistryRenameDevice deviceId label) fun _ => True := by
  apply deviceRegistryRenameDevice_keeps savedFitting_storeInvariant
  intro s i hs hfind
  obtain ⟨r, hr, hset⟩ := setLabel_eq (lt_of_findRecord hfind) hs.count label
  rw [hset]
  exact accepted_set hs (hs.capabilities r (List.mem_of_getElem? hr))

theorem deviceRegistryFindCapabilityByPath_savedFitting (nodeId : UInt64) (endpointId : UInt16)
    (clusterId attributeId : UInt32) : Esp.Keeps (SavedFitting n)
      (deviceRegistryFindCapabilityByPath nodeId endpointId clusterId attributeId)
      fun _ => True := by
  apply load_keeps savedFitting_storeInvariant.toLoadInvariant
  intro s hs
  split
  · exact Esp.Keeps.pure trivial
  · exact Esp.Keeps.throw

theorem deviceRegistryToJson_savedFitting :
    Keeps (SavedFitting n) deviceRegistryToJson fun _ => True :=
  (deviceRegistryToJson_keeps savedFitting_storeInvariant.toLoadInvariant (P := fun _ => True)
    texts_true fun _ _ _ _ => ⟨trivial, trivial, trivial, trivial, fun _ _ =>
      ⟨trivial, trivial⟩⟩).weaken fun _ _ => trivial

end Orchestrator.Registry
