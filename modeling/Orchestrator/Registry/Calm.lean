import Orchestrator.Registry.Api

/-!
# The registry when no call fails

What the functions of the registry compute in a calm world, in which the server
does not run and nothing is broadcast.
-/

namespace Orchestrator

open Lib Registry

/-- NVS can be opened, read and written. -/
def World.NvsWorks (w : World) : Prop := w.nvs = Stream'.const none

/-- The board with another blob of the registry. -/
def Board.withStore (b : Board) (s : RegistryStore) : Board :=
  { b with registry := { stored := some (some (registryStoreLayout.encode s)), staged := none } }

end Orchestrator

namespace Orchestrator.Registry

open Lib Handler State

variable {b : Board} {s : RegistryStore}

/-! ## When NVS works -/

section Nvs

variable {w : World}

theorem nvsOutcome_works (hw : w.NvsWorks) : nvsOutcome w = (none, w) := by
  obtain ⟨board, nvsFailures, allocs, heap, nvs, httpd, stack⟩ := w
  obtain rfl : nvs = Stream'.const none := hw
  rfl

/-- A call into NVS is followed by the rest of the function. -/
theorem nvs_works {α : Type} {k : Option EspErr → Esp α} (hw : w.NvsWorks) :
    (liftM nvsOutcome >>= k : Esp α).run w = (k none).run w :=
  Esp.run_liftM_bind (nvsOutcome_works hw)

theorem nvsOpenReadonly_works (hw : w.NvsWorks) : nvsOpenReadonly.run w =
    (if w.board.registry.stored.isSome then .ok ⟨⟩ else .error EspErr.nvsNotFound, w) := by
  refine (nvs_works hw).trans ((Esp.run_liftM_bind (m := getBoard) (w := w) rfl).trans ?_)
  cases w.board.registry.stored with
  | none => rfl
  | some blob => rfl

theorem nvsGetBlob_works (hw : w.NvsWorks) : nvsGetBlob.run w =
    (match w.board.registry.stored.join with
      | none => .error EspErr.nvsNotFound
      | some bytes =>
          if registryStoreLayout.size < bytes.length then .error EspErr.nvsInvalidLength
          else .ok bytes, w) := by
  refine (nvs_works hw).trans ((Esp.run_liftM_bind (m := getBoard) (w := w) rfl).trans ?_)
  cases w.board.registry.stored.join with
  | none => rfl
  | some bytes =>
      dsimp only
      split
      · rfl
      · rfl

/-- A load returns what is stored, or that it is too long. -/
theorem loadStore_works (hw : w.NvsWorks) : loadStore.run w = (w.board.registry.read, w) := by
  unfold loadStore RegistryNvs.read
  rw [ExceptT.run_tryCatch, bind_apply, ExceptT.run_bind, bind_apply, nvsOpenReadonly_works hw]
  cases hstored : w.board.registry.stored with
  | none => rfl
  | some blob =>
      rw [Option.isSome_some, if_pos rfl]
      dsimp only
      rw [ExceptT.run_bind, bind_apply, nvsGetBlob_works hw, hstored, Option.join_some]
      cases blob with
      | none => rfl
      | some bytes =>
          dsimp only
          split
          · rfl
          · rfl

theorem saveStore_works (hw : w.NvsWorks) :
    (saveStore s).run w = (.ok ⟨⟩, { w with board := w.board.withStore s }) := by
  obtain ⟨board, nvsFailures, allocs, heap, nvs, httpd, stack⟩ := w
  obtain rfl : nvs = Stream'.const none := hw
  rfl

end Nvs

theorem read_withStore (hs : s.Accepted) : (b.withStore s).registry.read = .ok s :=
  RegistryNvs.read_encode hs rfl

/-! ## When no call fails -/

theorem loadStore_calm (hread : b.registry.read = .ok s) :
    loadStore.run (World.calm b) = (.ok s, World.calm b) := by
  rw [loadStore_works (w := World.calm b) rfl]
  exact congrArg (·, World.calm b) hread

theorem allocStore_calm (b : Board) :
    allocStore.run (World.calm b) = (.ok ⟨⟩, World.calm b) := rfl

theorem saveAndNotify_calm (hb : b.running = false) :
    (saveAndNotify s).run (World.calm b) = (.ok ⟨⟩, World.calm (b.withStore s)) := by
  obtain ⟨registry, wifi, state, running, sessions, openThread, outbox, requests⟩ := b
  subst hb
  rfl

theorem deviceRegistryGetDevice_calm (hread : b.registry.read = .ok s) {deviceId : CStr}
    {r : DeviceRecord} (hfind : s.devices.find? (hasId deviceId.bytes) = some r) :
    (deviceRegistryGetDevice deviceId).run (World.calm b) = (.ok r, World.calm b) := by
  unfold deviceRegistryGetDevice
  rw [Esp.run_bind_ok (allocStore_calm _), Esp.run_bind_ok (loadStore_calm hread), hfind]
  rfl

theorem deviceRegistryToJson_calm (hread : b.registry.read = .ok s) :
    deviceRegistryToJson (World.calm b) = (some (devicesTree s.devices), World.calm b) := by
  have hmalloc : malloc (World.calm b) = (true, World.calm b) := rfl
  unfold deviceRegistryToJson
  rw [bind_apply, hmalloc]
  dsimp only
  rw [if_neg (by decide), bind_apply, loadStore_calm hread]
  exact allocate_eq rfl (devicesToJson_yields s.devices)

theorem deviceRegistryUpsertDevice_calm (hb : b.running = false) (hs : s.Accepted)
    {r : DeviceRecord} (hnamed : r.deviceId.head ≠ 0)
    (hcount : r.capabilityCount ≤ deviceRegistryCapabilityMax) {i : Nat}
    (hfind : findRecord s r.deviceId.toList = some i) :
    (deviceRegistryUpsertDevice r).run (World.calm (b.withStore s)) =
      (.ok ⟨⟩, World.calm (b.withStore
        { s with records := s.records.setIfInBounds i r })) := by
  have hvalid : ¬(r.deviceId[0] = 0 ∨ deviceRegistryCapabilityMax < r.capabilityCount) :=
    not_or.mpr ⟨hnamed, UInt32.not_lt.mpr hcount⟩
  unfold deviceRegistryUpsertDevice
  rw [if_neg hvalid, Esp.run_bind_ok (allocStore_calm _),
    Esp.run_bind_ok (loadStore_calm (read_withStore hs)), hfind]
  exact saveAndNotify_calm hb

/-! ## A registry with one device -/

/-- A record that is found by an id of any length. -/
def namedRecord (deviceId : CStr) : DeviceRecord :=
  { DeviceRecord.zero with
    deviceId := Vector.mk ((deviceId.bytes ++ List.replicate 32 0).take 32).toArray (by simp) }

/-- The store that holds just this record. -/
def singleStore (r : DeviceRecord) : RegistryStore :=
  { initEmptyStore with
    count := initEmptyStore.count + 1
    records := initEmptyStore.records.setIfInBounds initEmptyStore.count.toNat r }

theorem devices_singleStore (r : DeviceRecord) : (singleStore r).devices = [r] :=
  devices_append (s := initEmptyStore) (by decide)

theorem accepted_singleStore {r : DeviceRecord}
    (hcount : r.capabilityCount ≤ deviceRegistryCapabilityMax) : (singleStore r).Accepted where
  version := rfl
  count := Nat.le_of_ble_eq_true rfl
  capabilities r' hr' := by
    rw [devices_singleStore] at hr'
    exact List.mem_singleton.mp hr' ▸ hcount

theorem findRecord_singleStore {r : DeviceRecord} {deviceId : List UInt8}
    (h : hasId deviceId r = true) : findRecord (singleStore r) deviceId = some 0 := by
  have hcount : (singleStore r).count.toNat ≤ 16 := Nat.le_of_ble_eq_true rfl
  rw [findRecord, CountedArray.findIndex_eq _ _ hcount]
  show (singleStore r).devices.findIdx? _ = _
  rw [devices_singleStore, List.findIdx?_cons, h]
  rfl

/-- The only device is replaced by one with its id. -/
theorem deviceRegistryUpsertDevice_singleStore (hb : b.running = false) {r updated : DeviceRecord}
    (hr : r.capabilityCount ≤ deviceRegistryCapabilityMax)
    (hid : hasId updated.deviceId.toList r = true) (hnamed : updated.deviceId.head ≠ 0)
    (hupdated : updated.capabilityCount ≤ deviceRegistryCapabilityMax) :
    ∃ s : RegistryStore, s.Accepted ∧ s.devices = [updated] ∧
      (deviceRegistryUpsertDevice updated).run (World.calm (b.withStore (singleStore r))) =
        (.ok ⟨⟩, World.calm (b.withStore s)) := by
  have hdevices : RegistryStore.devices { singleStore r with
      records := (singleStore r).records.setIfInBounds 0 updated } = [updated] := by
    rw [devices_set, devices_singleStore]
    rfl
  have haccepted := accepted_singleStore hr
  refine ⟨_, ?_, hdevices, deviceRegistryUpsertDevice_calm hb haccepted hnamed hupdated
    (findRecord_singleStore hid)⟩
  refine { haccepted with capabilities := ?_ }
  intro r' hr'
  rw [hdevices] at hr'
  exact List.mem_singleton.mp hr' ▸ hupdated

theorem toList_deviceId_namedRecord (deviceId : CStr) :
    (namedRecord deviceId).deviceId.toList =
      (deviceId.bytes ++ List.replicate 32 0).take 32 := rfl

theorem hasId_namedRecord (deviceId : CStr) :
    hasId deviceId.bytes (namedRecord deviceId) = true := by
  have hself : CStr.beforeNul deviceId.bytes = deviceId.bytes :=
    congrArg CStr.bytes (CStr.ofBytes_bytes deviceId)
  have hzeros : ∀ n, CStr.beforeNul (List.replicate n 0) = [] := by
    intro n
    cases n <;> rfl
  have hprefix : 0 ∉ deviceId.bytes.take 32 := (deviceId.take 32).noNul
  unfold hasId
  rw [strncmpEq_iff, toList_deviceId_namedRecord, hself, List.take_append, List.take_replicate,
    CStr.beforeNul_append_of_notMem hprefix, hzeros, List.append_nil, List.take_take,
    Nat.min_self]

/-- A record has its own id. -/
theorem hasId_self (r : DeviceRecord) : hasId r.deviceId.toList r = true :=
  (strncmpEq_iff _ _ _).mpr rfl

theorem named_namedRecord {deviceId : CStr} (h : deviceId.isEmpty = false) :
    (namedRecord deviceId).deviceId.head ≠ 0 := by
  have hhead : (namedRecord deviceId).deviceId[0]? =
      (deviceId.bytes ++ List.replicate 32 0)[0]? := by
    rw [← Vector.getElem?_toList, toList_deviceId_namedRecord,
      List.getElem?_take_of_lt (by decide)]
  cases hbytes : deviceId.bytes with
  | nil =>
      unfold CStr.isEmpty at h
      rw [hbytes] at h
      cases h
  | cons c bytes =>
      rw [hbytes, Vector.getElem?_eq_getElem (by decide)] at hhead
      have hc : (namedRecord deviceId).deviceId.head = c := Option.some.inj hhead
      rw [hc]
      rintro rfl
      exact deviceId.noNul (hbytes ▸ List.mem_cons_self)

end Orchestrator.Registry
