import Orchestrator.Messages.Addition
import Orchestrator.Messages.Listing
import Orchestrator.Messages.Reply

/-!
# What acknowledged commands leave in the registry

A capability that was added and a label that was set are in every blob that can be loaded
afterwards, until a command replaces them. Pairing the node of a registered device again
is such a command: it puts a fresh record in the place of the old one.
-/

namespace Orchestrator.Messages

open Lib Handler Registry State Commands Alloc

/-! ## Data and what becomes of it -/

/-- What a client had stored for a device. -/
inductive OperatorData
  | capability (deviceId capabilityId : CStr) (capability : DeviceCapability)
  | label (deviceId label : CStr)

/-- What happens to a controller. Between commands and restarts all but the registry may
change. -/
inductive Operation
  | command (action : CStr) (payload : Json)
  | restart (persisted : Bool)
  | elsewhere

inductive Occurs (cfg : Config) (p : Platform) : Operation → World → World → Prop
  | command (action : CStr) (payload : Json) (w : World) :
      Occurs cfg p (.command action payload) w (processCommandMessage cfg p action payload w).2
  | restart (persisted : Bool) (w : World) :
      Occurs cfg p (.restart persisted) w (deviceRegistryInit.run (w.restarted persisted)).2
  | elsewhere {w w' : World} (h : w'.board.registry = w.board.registry) :
      Occurs cfg p .elsewhere w w'

/-- What a command with this payload stores when it succeeds. -/
def storedData (action : CStr) (payload : Json) : Option OperatorData :=
  if action = CStr.lit "device.capability.add" then do
    let fields ← capabilityFields payload
    let semantic ← DeviceCapabilitySemanticType.fromString fields.semanticType
    return .capability fields.deviceId fields.capabilityId (newCapability payload fields semantic)
  else if action = CStr.lit "device.rename" then do
    let deviceId ← requiredStringField payload "device_id"
    let label ← requiredStringField payload "label"
    return .label deviceId label
  else none

/-- The command succeeds in this world, and stores the data. -/
def Acknowledges (cfg : Config) (p : Platform) (action : CStr) (payload : Json) (w : World)
    (data : OperatorData) : Prop :=
  (processCommandMessage cfg p action payload w).1.err = .ok ⟨⟩ ∧
    storedData action payload = some data

/-- What `execute_matter_pair_ble_thread_command` does before it writes the record. -/
def pairingCalls (nodeId : UInt64) (pin : UInt32) (discriminator : UInt16) : Esp Unit := do
  mallocOrFail
  let tlvs ← threadGetActiveDatasetTlvs
  espCall (.pairingBleThread nodeId pin discriminator tlvs)

theorem executeMatterPairBleThreadCommand_eq (nodeId : UInt64) (pin : UInt32)
    (discriminator : UInt16) :
    executeMatterPairBleThreadCommand nodeId pin discriminator =
      pairingCalls nodeId pin discriminator >>= fun _ =>
        ignore (deviceRegistryUpsertDevice (pairedRecord nodeId)) := by
  simp only [executeMatterPairBleThreadCommand, pairingCalls, bind_assoc]

namespace OperatorData

def deviceId : OperatorData → CStr
  | capability deviceId _ _ => deviceId
  | label deviceId _ => deviceId

/-- The record has the data, a label as far as its field is long. -/
def On (r : DeviceRecord) : OperatorData → Prop
  | capability _ _ c => c ∈ r.capabilityList
  | label _ text => r.label.toCStr = text.take 31

/-- A removal of the device, or a command that stores the same kind of data anew. -/
def EndedBy (data : OperatorData) : Operation → Prop
  | .command action payload =>
      (action = CStr.lit "device.remove" ∧
        requiredStringField payload "device_id" = some data.deviceId) ∨
      match data with
      | capability deviceId capabilityId _ =>
          action = CStr.lit "device.capability.add" ∧ ∃ fields,
            capabilityFields payload = some fields ∧ fields.deviceId = deviceId ∧
            fields.capabilityId = capabilityId
      | label deviceId _ =>
          action = CStr.lit "device.rename" ∧
            requiredStringField payload "device_id" = some deviceId
  | .restart _ => False
  | .elsewhere => False

/-- The data is lost to a command that should keep it. Pairing the node of the device puts
a fresh record in the place of the old one. A capability is put in the place of another one
when their ids are the same as far as the field is long. -/
inductive OverwrittenBy (w : World) : OperatorData → Operation → Prop
  | pairing {data : OperatorData} {payload : Json} {nodeId : UInt64} {pin : UInt32}
      {discriminator : UInt16}
      (hnode : requiredUint64StringField payload "node_id" = some nodeId)
      (hpin : requiredUint32StringField payload "setup_code" = some pin)
      (hdiscriminator : requiredUint16StringField payload "discriminator" = some discriminator)
      (hcalls : ((pairingCalls nodeId pin discriminator).run w).1 = .ok ⟨⟩)
      (hdevice : data.deviceId = CStr.lit "node-" ++ CStr.decimal nodeId.toNat)
      (hlost : ¬data.On (pairedRecord nodeId)) :
      OverwrittenBy w data (.command (CStr.lit "matter.pair_ble_thread") payload)
  | cutId {payload : Json} {fields : CapabilityFields} {semantic : DeviceCapabilitySemanticType}
      {record : DeviceRecord} {capabilityId : CStr} {c : DeviceCapability}
      (hfields : capabilityFields payload = some fields)
      (hsemantic : DeviceCapabilitySemanticType.fromString fields.semanticType = some semantic)
      (hattribute : ¬(needsAttribute semantic ∧
        (newCapability payload fields semantic).attributeId = uint32Max))
      (hrecord : ((deviceRegistryGetDevice fields.deviceId).run w).1 = .ok record)
      (hother : fields.capabilityId ≠ capabilityId)
      (hcut : fields.capabilityId.take 31 = capabilityId.take 31)
      (hlost : newCapability payload fields semantic ≠ c) :
      OverwrittenBy w (.capability fields.deviceId capabilityId c)
        (.command (CStr.lit "device.capability.add") payload)

theorem not_overwrittenBy_restart {w : World} {data : OperatorData} {persisted : Bool} :
    ¬data.OverwrittenBy w (.restart persisted) := by
  intro h
  cases h

/-- `device.get` succeeds on this board when no call fails, and returns a record that has
the data. -/
def Returned (cfg : Config) (p : Platform) (b : Board) (data : OperatorData) : Prop :=
  ∃ s r, b.registry.read = .ok s ∧ r ∈ s.devices ∧ data.On r ∧ ∀ payload,
    requiredStringField payload "device_id" = some data.deviceId →
      (processCommandMessage cfg p (CStr.lit "device.get") payload (World.calm b)).1 =
        built (some (r.toJson true)) ""

/-- A capability has its id as far as the field is long. -/
def Cut : OperatorData → Prop
  | capability _ capabilityId c => c.capabilityId.toCStr = capabilityId.take 31
  | label _ _ => True

/-- A record of the store has the data. -/
def Held (data : OperatorData) (s : RegistryStore) : Prop :=
  ∃ r ∈ s.devices, r.deviceId.toCStr = data.deviceId ∧ data.On r

end OperatorData

/-! ## Flash -/

variable {cfg : Config} {p : Platform} {data : OperatorData} {s : RegistryStore}
  {r record : DeviceRecord} {i : Nat} {w w' : World}

/-- A blob of a regular store with the data. -/
def SavedWith (data : OperatorData) (bytes : List UInt8) : Prop :=
  ∃ s : RegistryStore, (s.Regular ∧ data.Held s) ∧ bytes = registryStoreLayout.encode s

/-- The data is in every blob that a load may come to see, and there is one to see. -/
structure DataFlash (data : OperatorData) (w : World) : Prop where
  blobs : w.board.registry.All (SavedWith data)
  stored : w.board.registry.stored.join.isSome

/-- What is said of the registry alone is kept by every command that only reads it. -/
theorem registry_readInvariant (p : Platform) (F : RegistryNvs → Prop) :
    ReadInvariant p (fun _ => True) fun w => F w.board.registry where
  toCallInvariant := {
    unforeseen_board fun b => F b.registry with
    request := fun _ _ h => h }
  load := loadStore_keeps (unforeseen_board fun b => F b.registry)
    fun _ _ _ hread => storedStrings_true (RegistryNvs.accepted_of_read hread)
  event := broadcastEvent_keeps (unforeseen_board fun b => F b.registry).toUnforeseen
    fun _ _ _ h => h
  snapshot := broadcastSnapshot_keeps (unforeseen_board fun b => F b.registry).toUnforeseen
    fun _ _ _ h => h
  texts := texts_true
  role _ := trivial
  openThread _ _ := ⟨fun _ _ => trivial, fun _ _ => trivial, fun _ _ => trivial⟩
  state _ _ := ⟨trivial, trivial⟩
  wifi _ _ h := h
  initialized _ h := h

theorem registry_of_read_command (F : RegistryNvs → Prop) {action : CStr}
    (hread : ∀ name ∈ registryActions, action ≠ CStr.lit name) (payload : Json)
    (h : F w.board.registry) :
    F (processCommandMessage cfg p action payload w).2.board.registry :=
  (processCommandMessage_reads (registry_readInvariant p F) hread
    (Json.allStrings_of_forall (fun _ => trivial) payload) w h).1

/-! ## Updates that keep the data -/

theorem On_relabel (hdata : ∀ deviceId label, data ≠ .label deviceId label) (label : CStr)
    (h : data.On r) : data.On (r.relabel label) := by
  cases data with
  | capability _ _ c => exact h
  | label deviceId old => exact absurd rfl (hdata deviceId old)

/-- A record may be replaced by one with its id that has the data if it had. -/
theorem held_set {old : DeviceRecord} (h : data.Held s) (hold : s.devices[i]? = some old)
    (hid : old.deviceId.toCStr = record.deviceId.toCStr)
    (hon : old.deviceId.toCStr = data.deviceId → data.On old → data.On record) :
    data.Held { s with records := s.records.setIfInBounds i record } := by
  obtain ⟨r, hr, hrid, hron⟩ := h
  obtain ⟨j, hj⟩ := List.mem_iff_getElem?.mp hr
  unfold OperatorData.Held
  rw [devices_set]
  by_cases hij : i = j
  · subst hij
    obtain rfl := Option.some.inj (hold.symm.trans hj)
    refine ⟨record, ?_, hid.symm.trans hrid, hon hrid hron⟩
    have hlt : i < s.devices.length := (List.getElem?_eq_some_iff.mp hj).1
    exact List.mem_set hlt record
  · refine ⟨r, List.mem_iff_getElem?.mpr ⟨j, ?_⟩, hrid, hron⟩
    rw [List.getElem?_set_ne hij, hj]

theorem held_append (h : data.Held s) (hroom : s.count.toNat < maxRecords) :
    data.Held { s with
      count := s.count + 1
      records := s.records.setIfInBounds s.count.toNat record } := by
  obtain ⟨r, hr, hheld⟩ := h
  unfold OperatorData.Held
  rw [devices_append hroom]
  exact ⟨r, List.mem_append_left _ hr, hheld⟩

theorem held_remove {old : DeviceRecord} (h : data.Held s) (hi : i < s.count.toNat)
    (hcount : s.count.toNat ≤ maxRecords) (hold : s.devices[i]? = some old)
    (hid : old.deviceId.toCStr ≠ data.deviceId) :
    data.Held { s with
      records := CountedArray.shiftDown s.records i s.count.toNat
      count := s.count - 1 } := by
  obtain ⟨r, hr, hrid, hron⟩ := h
  obtain ⟨j, hj⟩ := List.mem_iff_getElem?.mp hr
  unfold OperatorData.Held
  rw [devices_remove hi hcount]
  refine ⟨r, List.mem_eraseIdx_iff_getElem?.mpr ⟨j, ?_, hj⟩, hrid, hron⟩
  rintro rfl
  obtain rfl := Option.some.inj (hold.symm.trans hj)
  exact hid hrid

/-- What the search finds is a record with the id. -/
theorem exists_of_findRecord (hs : s.Regular) {deviceId : List UInt8}
    (hfind : findRecord s deviceId = some i) :
    ∃ old, s.devices[i]? = some old ∧ old.deviceId.toCStr = CStr.ofBytes deviceId := by
  have hcount : s.count.toNat ≤ 16 := hs.count
  have hlt : i < s.devices.length := by
    rw [RegistryStore.devices, CountedArray.length_view hcount]
    exact lt_of_findRecord hfind
  have hold := List.getElem?_eq_getElem hlt
  exact ⟨s.devices[i], hold, (hasId_iff (hs.records _ (List.getElem_mem hlt)) _).mp
    (CountedArray.findIndex_eq_some hfind hold)⟩

/-- Nothing but another capability with the id of the new one leaves the record. -/
theorem on_withCapability {c : DeviceCapability} {updated : DeviceRecord}
    (hr : r.Regular) (hupdated : withCapability r c = some updated)
    (hdata : ∀ deviceId capabilityId kept, data = .capability deviceId capabilityId kept →
      kept.capabilityId.toCStr = c.capabilityId.toCStr → c = kept) (h : data.On r) :
    data.On updated := by
  cases data with
  | label deviceId label =>
      rw [withCapability_frame hupdated]
      exact h
  | capability deviceId capabilityId kept =>
      show kept ∈ updated.capabilityList
      rcases withCapability_cases hupdated with ⟨i, hfind, -, hlist⟩ | ⟨-, -, -, hlist⟩
      · obtain ⟨j, hj⟩ := List.mem_iff_getElem?.mp h
        rw [hlist]
        by_cases hij : i = j
        · subst hij
          have hsame := CountedArray.findIndex_eq_some hfind hj
          have heq : c = kept := hdata deviceId capabilityId kept rfl
            ((CharArray.strncmpEq_iff_ofBytes (hr.capabilities kept h).terminated _).mp hsame)
          rw [heq]
          exact List.mem_set (List.getElem?_eq_some_iff.mp hj).1 kept
        · refine List.mem_iff_getElem?.mpr ⟨j, ?_⟩
          rw [List.getElem?_set_ne hij, hj]
      · rw [hlist]
        exact List.mem_append_left _ h

/-! ## Steps that keep the data -/

theorem exists_read_of_dataFlash (h : DataFlash data w) :
    ∃ s : RegistryStore, w.board.registry.read = .ok s ∧ s.Regular ∧ data.Held s := by
  obtain ⟨bytes, hbytes⟩ := Option.isSome_iff_exists.mp h.stored
  obtain ⟨s, hs, rfl⟩ := h.blobs.stored bytes hbytes
  exact ⟨s, RegistryNvs.read_encode (accepted_of_regular hs.1) hbytes, hs⟩

theorem dataFlash_unforeseen : UnforeseenNvs (DataFlash data) where
  allocs _ h := { h with }
  heap _ h := { h with }
  httpd _ h := { h with }
  stack _ h := { h with }
  nvs _ _ h := { h with }

theorem dataFlash_storeInvariant :
    StoreInvariant (fun s => s.Regular ∧ data.Held s) (DataFlash data) where
  toUnforeseen := dataFlash_unforeseen.toUnforeseen
  load := by
    apply loadStore_keeps dataFlash_unforeseen
    intro w hw s hread
    obtain ⟨s', hread', hs'⟩ := exists_read_of_dataFlash hw
    obtain rfl := Except.ok.inj (hread.symm.trans hread')
    exact hs'
  save s hs := by
    apply saveStore_keeps dataFlash_unforeseen (B := SavedWith data)
    · exact fun w hw => hw.blobs
    · exact fun w n hw hn hsome => ⟨hn, hsome hw.stored⟩
    · exact ⟨s, hs, rfl⟩
  event := broadcastEvent_keeps dataFlash_unforeseen.toUnforeseen fun _ _ _ h => { h with }
  snapshot := broadcastSnapshot_keeps dataFlash_unforeseen.toUnforeseen fun _ _ _ h => { h with }

theorem upsertDevice_dataFlash (hr : record.Regular)
    (hon : record.deviceId.toCStr = data.deviceId → data.On record) :
    Esp.Keeps (DataFlash data) (deviceRegistryUpsertDevice record) fun _ => True := by
  apply deviceRegistryUpsertDevice_keeps dataFlash_storeInvariant
  · intro s i hs hfind
    obtain ⟨old, hold, hid⟩ := exists_of_findRecord hs.1 hfind
    have hsame : ∀ old', s.devices[i]? = some old' →
        old'.deviceId.toCStr = record.deviceId.toCStr := by
      intro old' hold'
      rw [← Option.some.inj (hold.symm.trans hold')]
      exact hid
    exact ⟨regular_set hs.1 hr hsame,
      held_set hs.2 hold hid fun hdevice _ => hon (hid.symm.trans hdevice)⟩
  · exact fun s hs hfind hroom =>
      ⟨regular_append hs.1 hr hfind hroom, held_append hs.2 hroom⟩

theorem pairingCalls_dataFlash (nodeId : UInt64) (pin : UInt32) (discriminator : UInt16) :
    Esp.Keeps (DataFlash data) (pairingCalls nodeId pin discriminator) fun _ => True := by
  apply Esp.Keeps.bind (mallocOrFail_keeps dataFlash_unforeseen.toUnforeseen)
  intro _ _
  apply Esp.Keeps.bind threadGetActiveDatasetTlvs_keeps
  intro tlvs _
  exact espCall_keeps dataFlash_unforeseen.toUnforeseen fun _ h => { h with }

theorem matterPairBleThread_dataFlash {payload : Json} (h : DataFlash data w)
    (hover : ¬data.OverwrittenBy w (.command (CStr.lit "matter.pair_ble_thread") payload)) :
    DataFlash data (matterPairBleThread payload w).2 := by
  suffices hrun : Triple (fun start => start = w) (matterPairBleThread payload)
      fun _ => DataFlash data from hrun w rfl
  unfold matterPairBleThread
  split
  · next nodeId pin discriminator hnode hpin hdiscriminator =>
    intro start hstart
    subst hstart
    rw [executeMatterPairBleThreadCommand_eq]
    have hkept : DataFlash data ((pairingCalls nodeId pin discriminator >>= fun _ =>
        ignore (deviceRegistryUpsertDevice (pairedRecord nodeId))).run start).2 := by
      apply Esp.Keeps.bind_run h (pairingCalls_dataFlash nodeId pin discriminator)
      intro _ hcalls _
      apply (upsertDevice_dataFlash (regular_pairedRecord nodeId) _).ignore
      intro hdevice
      rw [deviceId_pairedRecord] at hdevice
      by_contra hlost
      exact hover (.pairing hnode hpin hdiscriminator hcalls hdevice.symm hlost)
    exact hkept
  · exact Triple.pure fun start hstart => hstart ▸ h

theorem deviceRemove_dataFlash {payload : Json}
    (hdevice : requiredStringField payload "device_id" ≠ some data.deviceId) :
    Keeps (DataFlash data) (deviceRemove payload) fun _ => True := by
  unfold deviceRemove
  cases hid : requiredStringField payload "device_id" with
  | none => exact Keeps.pure trivial
  | some deviceId =>
      refine report_rule (deviceRegistryRemoveDevice_keeps dataFlash_storeInvariant ?_)
        fun _ _ => trivial
      intro s i hs hfind
      obtain ⟨old, hold, hsame⟩ := exists_of_findRecord hs.1 hfind
      refine ⟨regular_remove hs.1 (lt_of_findRecord hfind),
        held_remove hs.2 (lt_of_findRecord hfind) hs.1.count hold ?_⟩
      rw [hsame, CStr.ofBytes_bytes]
      rintro rfl
      exact hdevice hid

theorem deviceRename_dataFlash {payload : Json}
    (hdevice : ∀ deviceId text, data = .label deviceId text →
      requiredStringField payload "device_id" ≠ some deviceId) :
    Keeps (DataFlash data) (deviceRename payload) fun _ => True := by
  unfold deviceRename
  split
  · next deviceId label hid _ =>
    refine report_rule (deviceRegistryRenameDevice_keeps dataFlash_storeInvariant ?_)
      fun _ _ => trivial
    intro s i hs hfind
    obtain ⟨old, hold, hsame⟩ := exists_of_findRecord hs.1 hfind
    rw [CStr.ofBytes_bytes] at hsame
    obtain ⟨r, hr, hset⟩ := setLabel_eq (lt_of_findRecord hfind) hs.1.count label
    obtain rfl := Option.some.inj (hold.symm.trans hr)
    have hregular := regular_relabel (hs.1.records old (List.mem_of_getElem? hold)) label
    rw [hset]
    refine ⟨regular_set hs.1 hregular fun r' hr' => ?_, held_set hs.2 hold rfl ?_⟩
    · rw [Option.some.inj (hr'.symm.trans hold)]
      rfl
    · intro hold' hon
      apply On_relabel _ label hon
      rintro device text rfl
      exact hdevice device text rfl (hid.trans (congrArg some (hsame.symm.trans hold')))
  · exact Keeps.pure trivial

/-- An addition leaves the data in the record of its device. -/
theorem on_updated {payload : Json} {fields : CapabilityFields}
    {semantic : DeviceCapabilitySemanticType} {updated : DeviceRecord} (hcut : data.Cut)
    (hadds : AddsCapability payload fields semantic r updated)
    (hread : ((deviceRegistryGetDevice fields.deviceId).run w).1 = .ok r)
    (hr : r.Regular) (hdevice : fields.deviceId = data.deviceId)
    (hended : ¬data.EndedBy (.command (CStr.lit "device.capability.add") payload))
    (hover : ¬data.OverwrittenBy w (.command (CStr.lit "device.capability.add") payload))
    (h : data.On r) : data.On updated := by
  apply on_withCapability hr hadds.updates _ h
  intro deviceId capabilityId kept hkept heq
  subst hkept
  obtain rfl : fields.deviceId = deviceId := hdevice
  have hcutEq : fields.capabilityId.take 31 = capabilityId.take 31 := by
    rw [← hcut, heq, newCapability, CharArray.toCStr_copyField 31]
  by_contra hlost
  refine hover (.cutId hadds.hasFields hadds.hasType hadds.hasAttribute hread ?_ hcutEq hlost)
  exact fun hsame => hended (.inr ⟨rfl, fields, hadds.hasFields, rfl, hsame⟩)

theorem addCapabilityCommand_dataFlash {payload : Json} (hcut : data.Cut) (h : DataFlash data w)
    (hended : ¬data.EndedBy (.command (CStr.lit "device.capability.add") payload))
    (hover : ¬data.OverwrittenBy w (.command (CStr.lit "device.capability.add") payload)) :
    DataFlash data (addCapabilityCommand payload w).2 := by
  suffices hrun : Triple (fun start => start = w) (addCapabilityCommand payload)
      fun _ => DataFlash data from hrun w rfl
  refine addCapabilityCommand_triple (D := fun deviceId record _ =>
      ((deviceRegistryGetDevice deviceId).run w).1 = .ok record ∧
        ∃ s, (s.Regular ∧ data.Held s) ∧ s.devices.find? (hasId deviceId.bytes) = some record)
    (fun start hstart => hstart ▸ h) (fun _ _ _ _ hw => hw) ?_ ?_
  · rintro deviceId start rfl
    obtain ⟨hkept, hfound⟩ := deviceRegistryGetDevice_keeps
      dataFlash_storeInvariant.toLoadInvariant deviceId start h
    exact ⟨hkept, fun record hread => ⟨hread, hfound record hread⟩⟩
  · rintro fields semantic record updated hadds w' ⟨hw', hread, s, ⟨hs, hheld⟩, hfind⟩
    have hmem := List.mem_of_find?_eq_some hfind
    have hrecord := hs.records record hmem
    have hid : record.deviceId.toCStr = fields.deviceId := by
      have hhas := List.find?_some hfind
      rwa [hasId_iff hrecord, CStr.ofBytes_bytes] at hhas
    have hupdatedId : updated.deviceId.toCStr = record.deviceId.toCStr := by
      rw [withCapability_frame hadds.updates]
    have hon : updated.deviceId.toCStr = data.deviceId → data.On updated := by
      intro hdevice
      obtain ⟨r, hr, hrid, hron⟩ := hheld
      have hsame : r = record := List.inj_on_of_nodup_map hs.distinct hr hmem
        (hrid.trans (hdevice.symm.trans hupdatedId))
      subst hsame
      exact on_updated hcut hadds hread hrecord (hid.symm.trans hrid) hended hover hron
    exact (storeCapability_keeps dataFlash_unforeseen.toUnforeseen
      (upsertDevice_dataFlash (regular_updated hadds hrecord) hon) _ w' hw').1

/-! ## Acknowledged data is held -/

/-- The namespace after the store has been saved. -/
def savedNvs (s : RegistryStore) : RegistryNvs where
  stored := some (some (registryStoreLayout.encode s))
  staged := none

theorem dataFlash_of_saved (hs : s.Regular) (hheld : data.Held s)
    (h : w.board.registry = savedNvs s) : DataFlash data w := by
  constructor
  · rw [h]
    constructor
    · rintro bytes ⟨⟩
      exact ⟨s, ⟨hs, hheld⟩, rfl⟩
    · rintro bytes ⟨⟩
  · rw [h]
    rfl

/-- What an update that succeeds leaves when only regular stores have been saved before. -/
theorem update_ends {target : RegistryStore → EspResult RegistryStore} {R : World → Prop}
    (h : ∀ (s t : RegistryStore) (w : World), s.Regular → target s = .ok t →
      w.board.registry = savedNvs t → R w) :
    Esp.Ends RegularFlash (update target) fun _ => R := by
  intro w hw _ hok
  obtain ⟨s, t, hsaves, hregistry⟩ := update_saved hok
  obtain ⟨s', hread, hs, -⟩ := exists_read_of_regularFlash hw
  obtain rfl := Except.ok.inj (hsaves.read.symm.trans hread)
  exact h s t _ hs hsaves.updated hregistry

theorem regular_of_upsertTarget {t : RegistryStore} (hs : s.Regular) (hr : record.Regular)
    (h : upsertTarget record s = .ok t) : t.Regular := by
  unfold upsertTarget at h
  cases hfind : findRecord s record.deviceId.toList with
  | some i =>
      rw [hfind] at h
      obtain rfl := Except.ok.inj h
      obtain ⟨old, hold, hid⟩ := exists_of_findRecord hs hfind
      refine regular_set hs hr fun old' hold' => ?_
      rw [← Option.some.inj (hold.symm.trans hold')]
      exact hid
  | none =>
      rw [hfind] at h
      dsimp only at h
      split at h
      · cases h
      · next hfull =>
        obtain rfl := Except.ok.inj h
        exact regular_append hs hr hfind (Nat.lt_of_not_le hfull)

theorem renameDevice_ends (deviceId text : CStr) :
    Esp.Ends RegularFlash (deviceRegistryRenameDevice deviceId text) fun _ w =>
      DataFlash (.label deviceId text) w := by
  rw [deviceRegistryRenameDevice_eq]
  refine update_ends fun s t w hs ht hw => ?_
  unfold renameTarget at ht
  cases hfind : findRecord s deviceId.bytes with
  | none =>
      rw [hfind] at ht
      cases ht
  | some i =>
      rw [hfind] at ht
      obtain rfl := Except.ok.inj ht
      obtain ⟨old, hold, hsame⟩ := exists_of_findRecord hs hfind
      rw [CStr.ofBytes_bytes] at hsame
      obtain ⟨r, hr, hset⟩ := setLabel_eq (lt_of_findRecord hfind) hs.count text
      obtain rfl := Option.some.inj (hold.symm.trans hr)
      have hregular := regular_relabel (hs.records old (List.mem_of_getElem? hold)) text
      refine dataFlash_of_saved ?_ ?_ hw
      · rw [hset]
        refine regular_set hs hregular fun r' hr' => ?_
        rw [Option.some.inj (hr'.symm.trans hold)]
        rfl
      · unfold OperatorData.Held
        rw [hset, devices_set]
        exact ⟨_, List.mem_set (List.getElem?_eq_some_iff.mp hold).1 _, hsame,
          CharArray.toCStr_copyField 31 text⟩

/-- A command that succeeds ends where the function that it calls ends. -/
theorem report_ends {I R : World → Prop} {op : Esp Unit} (hop : Esp.Ends I op fun _ => R) :
    Triple I (report op) fun result w => result.err = .ok ⟨⟩ → R w :=
  fun w hw hok => hop w hw _ hok

theorem addCapabilityCommand_ends {payload : Json} {fields : CapabilityFields}
    {semantic : DeviceCapabilitySemanticType} (hfields : capabilityFields payload = some fields)
    (hsemantic : DeviceCapabilitySemanticType.fromString fields.semanticType = some semantic) :
    Triple RegularFlash (addCapabilityCommand payload) fun result w => result.err = .ok ⟨⟩ →
      DataFlash (.capability fields.deviceId fields.capabilityId
        (newCapability payload fields semantic)) w := by
  intro w hw hok
  obtain ⟨a, ha, hregistry, -, -⟩ := written_of_ok hok
  obtain rfl := Option.some.inj (hfields.symm.trans ha.adds.hasFields)
  obtain rfl := Option.some.inj (hsemantic.symm.trans ha.adds.hasType)
  obtain ⟨s, hread, hs, -⟩ := exists_read_of_regularFlash hw
  obtain rfl := Except.ok.inj (ha.finds.read.symm.trans hread)
  have hrecord := hs.records a.record (List.mem_of_find?_eq_some ha.finds.found)
  have hid : a.record.deviceId.toCStr = a.fields.deviceId := by
    have hfound := List.find?_some ha.finds.found
    rwa [hasId_iff hrecord, CStr.ofBytes_bytes] at hfound
  have hupdatedId : a.updated.deviceId.toCStr = a.fields.deviceId := by
    rw [withCapability_frame ha.adds.updates]
    exact hid
  have hmem := mem_withCapability_self ha.adds.updates hrecord.capabilityCount
  refine dataFlash_of_saved (regular_of_upsertTarget hs (regular_updated ha.adds hrecord)
    ha.saves.updated) ⟨a.updated, ?_, hupdatedId, hmem⟩ hregistry
  rw [devices_of_upsertTarget (accepted_of_regular hs) ha.saves.updated]
  exact mem_upsert_self

/-- What a command acknowledges it has stored. -/
theorem dataFlash_of_acknowledges {action : CStr} {payload : Json} (hw : RegularFlash w)
    (hack : Acknowledges cfg p action payload w data) :
    DataFlash data (processCommandMessage cfg p action payload w).2 ∧ data.Cut := by
  obtain ⟨hok, hdata⟩ := hack
  unfold storedData at hdata
  split at hdata
  · next haction =>
    subst haction
    simp only [Option.bind_eq_bind, Option.bind_eq_some_iff, Option.pure_def,
      Option.some.injEq] at hdata
    obtain ⟨fields, hfields, semantic, hsemantic, rfl⟩ := hdata
    have hmem : ("device.capability.add", addCapabilityCommand) ∈ registryBranches := by
      simp [registryBranches]
    rw [processCommandMessage_of_mem (mem_branches_of_registry hmem)] at hok ⊢
    exact ⟨addCapabilityCommand_ends hfields hsemantic w hw hok,
      CharArray.toCStr_copyField 31 fields.capabilityId⟩
  · split at hdata
    · next haction =>
      subst haction
      simp only [Option.bind_eq_bind, Option.bind_eq_some_iff, Option.pure_def,
        Option.some.injEq] at hdata
      obtain ⟨deviceId, hid, text, htext, rfl⟩ := hdata
      have hmem : ("device.rename", deviceRename) ∈ registryBranches := by
        simp [registryBranches]
      have hrun : deviceRename payload = report (deviceRegistryRenameDevice deviceId text) := by
        unfold deviceRename
        rw [hid, htext]
      rw [processCommandMessage_of_mem (mem_branches_of_registry hmem)] at hok ⊢
      dsimp only at hok ⊢
      rw [hrun] at hok ⊢
      exact ⟨report_ends (renameDevice_ends deviceId text) w hw hok, trivial⟩
    · cases hdata

/-! ## Runs -/

variable {op : Operation}

theorem regularFlash_occurs (hw : RegularFlash w) (h : Occurs cfg p op w w') : RegularFlash w' := by
  cases h with
  | command action payload =>
      by_cases hread : ∀ name ∈ registryActions, action ≠ CStr.lit name
      · exact registry_of_read_command (fun n => n.All SavedRegular) hread payload hw
      · simp only [not_forall, not_not] at hread
        obtain ⟨name, hname, rfl⟩ := hread
        have hentry : ∃ entry ∈ registryBranches, entry.1 = name := by
          simpa [registryBranches, registryActions, eq_comm] using hname
        obtain ⟨entry, hmem, rfl⟩ := hentry
        exact regularFlash_step hw (.command entry w payload hmem)
  | restart persisted => exact regularFlash_step hw (show Step cfg p w _ from .restart w persisted)
  | elsewhere h => exact regularFlash_step hw (show Step cfg p w _ from .elsewhere h)

theorem regularFlash_of_occurs {start : World} (hempty : EmptyRegistry start)
    (hrun : Relation.ReflTransGen (fun u v => ∃ op, Occurs cfg p op u v) start w) :
    RegularFlash w := by
  induction hrun with
  | refl => exact regularFlash_of_empty hempty
  | tail _ hstep ih =>
      obtain ⟨op, hoccurs⟩ := hstep
      exact regularFlash_occurs ih hoccurs

theorem dataFlash_step (hcut : data.Cut) (h : DataFlash data w) (hoccurs : Occurs cfg p op w w')
    (hended : ¬data.EndedBy op) (hover : ¬data.OverwrittenBy w op) : DataFlash data w' := by
  cases hoccurs with
  | command action payload =>
      by_cases hread : ∀ name ∈ registryActions, action ≠ CStr.lit name
      · let F : RegistryNvs → Prop := fun n => n.All (SavedWith data) ∧ n.stored.join.isSome
        have hkept : F (processCommandMessage cfg p action payload w).2.board.registry :=
          registry_of_read_command F hread payload ⟨h.blobs, h.stored⟩
        exact ⟨hkept.1, hkept.2⟩
      · simp only [not_forall, not_not] at hread
        obtain ⟨name, hname, rfl⟩ := hread
        simp only [registryActions, List.mem_cons, List.not_mem_nil, or_false] at hname
        have hbranch : ∀ branch, (name, branch) ∈ registryBranches →
            processCommandMessage cfg p (CStr.lit name) payload w = branch payload w := by
          intro branch hmem
          rw [processCommandMessage_of_mem (mem_branches_of_registry hmem)]
        rcases hname with rfl | rfl | rfl | rfl
        · rw [hbranch matterPairBleThread (by simp [registryBranches])]
          exact matterPairBleThread_dataFlash h hover
        · rw [hbranch addCapabilityCommand (by simp [registryBranches])]
          exact addCapabilityCommand_dataFlash hcut h hended hover
        · rw [hbranch deviceRename (by simp [registryBranches])]
          refine (deviceRename_dataFlash ?_ w h).1
          intro deviceId text hdata hid
          subst hdata
          exact hended (.inr ⟨rfl, hid⟩)
        · rw [hbranch deviceRemove (by simp [registryBranches])]
          exact (deviceRemove_dataFlash (fun hid => hended (.inl ⟨rfl, hid⟩)) w h).1
  | restart persisted =>
      have hrestarted : DataFlash data (w.restarted persisted) := by
        refine ⟨h.blobs.restarted persisted, ?_⟩
        have hstored := h.stored
        cases persisted with
        | false => exact hstored
        | true => simp [World.restarted, RegistryNvs.restarted, hstored]
      exact (deviceRegistryInit_keeps dataFlash_storeInvariant _ hrestarted).1
  | elsewhere hsame => exact ⟨hsame ▸ h.blobs, hsame ▸ h.stored⟩

theorem returned_of_dataFlash (h : DataFlash data w) : data.Returned cfg p w.board := by
  obtain ⟨s, hread, hs, r, hr, hid, hon⟩ := exists_read_of_dataFlash h
  refine ⟨s, r, hread, hr, hon, fun payload hpayload => ?_⟩
  have hget : ("device.get", deviceGet) ∈ branches cfg p :=
    mem_branches_of_device (by simp [deviceBranches])
  rw [processCommandMessage_of_mem hget]
  exact congrArg Prod.fst (deviceGet_calm hread hpayload (hid ▸ find?_of_regular hs hr))

/-- Data that a command has acknowledged is returned after every run that neither ends nor
overwrites it. -/
theorem acknowledged_data_kept (cfg : Config) (p : Platform) {start w w' : World} {action : CStr}
    {payload : Json} {data : OperatorData} (hempty : EmptyRegistry start)
    (hbefore : Relation.ReflTransGen (fun u v => ∃ op, Occurs cfg p op u v) start w)
    (hack : Acknowledges cfg p action payload w data)
    (hafter : Relation.ReflTransGen
      (fun u v => ∃ op, Occurs cfg p op u v ∧ ¬data.EndedBy op ∧ ¬data.OverwrittenBy u op)
      (processCommandMessage cfg p action payload w).2 w') :
    data.Returned cfg p w'.board := by
  obtain ⟨hheld, hcut⟩ := dataFlash_of_acknowledges (regularFlash_of_occurs hempty hbefore) hack
  have hkept : DataFlash data w' := by
    induction hafter with
    | refl => exact hheld
    | tail _ hstep ih =>
        obtain ⟨op, hoccurs, hended, hover⟩ := hstep
        exact dataFlash_step hcut ih hoccurs hended hover
  exact returned_of_dataFlash hkept

/-- The fields of the relay of the paired node. -/
def relayFields : CapabilityFields where
  deviceId := CStr.lit "node-18446744073709551615"
  capabilityId := CStr.lit "heater"
  semanticType := CStr.lit "relay"
  endpointId := 1
  clusterId := 6

def relayData : OperatorData :=
  .capability relayFields.deviceId relayFields.capabilityId
    (newCapability relayPayload relayFields .relay)

theorem acknowledges_relayData :
    Acknowledges Config.full (Platform.parsing "null" .null) (CStr.lit "device.capability.add")
      relayPayload pairedWorld relayData := by
  constructor
  · decide +kernel
  · rfl

theorem relayData_kept :
    relayData.Returned Config.full (Platform.parsing "null" .null)
      (deviceRegistryInit.run (relayWorld.restarted false)).2.board := by
  have hempty : EmptyRegistry (World.calm threadAttached) := ⟨rfl, rfl⟩
  apply acknowledged_data_kept Config.full (Platform.parsing "null" .null) hempty
    (.single ⟨.command (CStr.lit "matter.pair_ble_thread") pairingPayload, .command _ _ _⟩)
    acknowledges_relayData
  exact .single ⟨.restart false, .restart false _, nofun, OperatorData.not_overwrittenBy_restart⟩

/-- The capabilities of the records of a store, counted. -/
def capabilityCounts (n : RegistryNvs) : Option (List Nat) :=
  n.read.toOption.map fun s => s.devices.map fun r => r.capabilityList.length

/-- With one record and no capability in it, no record has any. -/
theorem capabilityList_eq_nil {n : RegistryNvs} {s : RegistryStore} {r : DeviceRecord}
    (hcounts : capabilityCounts n = some [0]) (hread : n.read = .ok s) (hr : r ∈ s.devices) :
    r.capabilityList = [] := by
  rw [capabilityCounts, hread] at hcounts
  have hlengths : (s.devices.map fun r => r.capabilityList.length) = [0] :=
    Option.some.inj hcounts
  have hzero : r.capabilityList.length ∈ s.devices.map fun r => r.capabilityList.length :=
    List.mem_map_of_mem hr
  rw [hlengths, List.mem_singleton, List.length_eq_zero_iff] at hzero
  exact hzero

/-- Pairing the node again loses the relay. -/
theorem relayData_lost :
    EmptyRegistry (World.calm threadAttached) ∧
    Occurs Config.full (Platform.parsing "null" .null)
      (.command (CStr.lit "matter.pair_ble_thread") pairingPayload)
      (World.calm threadAttached) pairedWorld ∧
    Acknowledges Config.full (Platform.parsing "null" .null) (CStr.lit "device.capability.add")
      relayPayload pairedWorld relayData ∧
    ∃ w', Occurs Config.full (Platform.parsing "null" .null)
        (.command (CStr.lit "matter.pair_ble_thread") pairingPayload) relayWorld w' ∧
      ¬relayData.EndedBy (.command (CStr.lit "matter.pair_ble_thread") pairingPayload) ∧
      ¬relayData.Returned Config.full (Platform.parsing "null" .null) w'.board := by
  refine ⟨⟨rfl, rfl⟩, .command _ _ _, acknowledges_relayData, _, .command _ _ _, ?_, ?_⟩
  · intro hended
    rcases hended with ⟨haction, -⟩ | ⟨haction, -⟩
    · revert haction
      decide
    · revert haction
      decide
  · intro hreturned
    obtain ⟨s, r, hread, hr, hon, -⟩ := hreturned
    have hcounts : capabilityCounts (processCommandMessage Config.full
        (Platform.parsing "null" .null) (CStr.lit "matter.pair_ble_thread") pairingPayload
        relayWorld).2.board.registry = some [0] := by decide +kernel
    have hmem : newCapability relayPayload relayFields .relay ∈ r.capabilityList := hon
    rw [capabilityList_eq_nil hcounts hread hr] at hmem
    cases hmem

end Orchestrator.Messages
