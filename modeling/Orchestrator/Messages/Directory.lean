import Orchestrator.Messages.Pairing
import Orchestrator.Registry.Commit

/-!
# Commands on the directory

To its clients the device is a directory. A command that succeeds answers from the directory
that flash holds and leaves the one that the answer stands for; a command that fails leaves
the directory as it was.
-/

namespace Orchestrator.Messages

open Lib Handler Registry State Commands Alloc

/-- The commands that read or change the directory. -/
inductive DirectoryCommand
  | list
  | get
  | remove
  | rename
  | add
  | pair
  deriving DecidableEq, Repr

namespace DirectoryCommand

def entry : DirectoryCommand → String × CommandHandler
  | list => ("device.list", deviceList)
  | get => ("device.get", deviceGet)
  | remove => ("device.remove", deviceRemove)
  | rename => ("device.rename", deviceRename)
  | add => ("device.capability.add", addCapabilityCommand)
  | pair => ("matter.pair_ble_thread", matterPairBleThread)

theorem mem_branches (cfg : Config) (p : Platform) (command : DirectoryCommand) :
    command.entry ∈ branches cfg p := by
  cases command with
  | list | get | remove | rename | add =>
      exact mem_branches_of_device (by simp [entry, deviceBranches])
  | pair => exact mem_branches_of_matter (by simp [entry, matterBranches])

/-- No other command writes the registry. -/
theorem exists_of_registryActions {name : String} (h : name ∈ registryActions) :
    ∃ command : DirectoryCommand, command.entry.1 = name := by
  simp only [registryActions, List.mem_cons, List.not_mem_nil, or_false] at h
  rcases h with rfl | rfl | rfl | rfl
  · exact ⟨pair, rfl⟩
  · exact ⟨add, rfl⟩
  · exact ⟨rename, rfl⟩
  · exact ⟨remove, rfl⟩

end DirectoryCommand

/-- The device that stands for a node that was paired. It is named after the node, and nothing
more is known of it. -/
def nodeDevice (nodeId : UInt64) : DeviceRecord :=
  { DeviceRecord.zero with
    deviceId := textField (nodeDeviceId nodeId)
    label := textField (nodeLabel nodeId)
    nodeId := nodeId
    reachable := 1 }

/-- The record has the capability in the place of the one with its id, or behind the others. -/
structure HasAdded (capability : DeviceCapability) (r updated : DeviceRecord) : Prop where
  capabilities : capabilitiesOf updated =
    upsert (fun c => c.capabilityId.toCStr = capability.capabilityId.toCStr) capability
      (capabilitiesOf r)
  frame : updated = { r with
    capabilities := updated.capabilities
    capabilityCount := updated.capabilityCount }

/-- A command on the directory that succeeds: the payload of its reply, and flash after it. -/
inductive Serves (c : Flash) (payload : Json) :
    DirectoryCommand → List (CStr × Json) → Flash → Prop
  | list : Serves c payload .list
      [(CStr.lit "devices",
        .array (c.directory.entries.map fun r => .object (deviceEntry false r)))] c
  | get {deviceId : CStr} {r : DeviceRecord}
      (hid : textMember payload "device_id" = some deviceId)
      (hr : c.directory.get deviceId = .ok r) :
      Serves c payload .get (deviceEntry true r) c
  | remove {deviceId : CStr} {m : DeviceMap}
      (hid : textMember payload "device_id" = some deviceId)
      (hm : c.directory.remove deviceId = (.ok ⟨⟩, m)) :
      Serves c payload .remove [] ⟨m, none⟩
  | rename {deviceId label : CStr} {m : DeviceMap}
      (hid : textMember payload "device_id" = some deviceId)
      (hlabel : textMember payload "label" = some label)
      (hm : c.directory.rename deviceId label = (.ok ⟨⟩, m)) :
      Serves c payload .rename [] ⟨m, none⟩
  | add {deviceId text : CStr} {capability : DeviceCapability} {r updated : DeviceRecord}
      {m : DeviceMap} (hid : textMember payload "device_id" = some deviceId)
      (hasked : AskedFor payload text capability)
      (hr : c.directory.get deviceId = .ok r)
      (hadded : HasAdded capability r updated)
      (hm : c.directory.upsertDevice updated = (.ok ⟨⟩, m)) :
      Serves c payload .add
        [(CStr.lit "device_id", .string r.deviceId.toCStr),
         (CStr.lit "capability_id", .string (text.take 31))] ⟨m, none⟩
  | pair {nodeId : UInt64} {m : DeviceMap}
      (hnode : requiredUint64StringField payload "node_id" = some nodeId)
      (hm : c.directory.upsertDevice (nodeDevice nodeId) = (.ok ⟨⟩, m)) :
      Serves c payload .pair [] ⟨m, none⟩

/-- A node is paired, but the record of its device is not saved. When flash works that is so
only where the directory is full. -/
inductive PairsUnsaved (works : Prop) (c : Flash) (payload : Json) :
    List (CStr × Json) → Flash → Prop
  | intro {nodeId : UInt64} {c' : Flash}
      (hnode : requiredUint64StringField payload "node_id" = some nodeId)
      (hfull : works → (c.directory.upsertDevice (nodeDevice nodeId)).1 = .error EspErr.noMem)
      (hc' : Attempted (fun m => c.directory.upsertDevice (nodeDevice nodeId) = (.ok ⟨⟩, m)) c
        c') :
      PairsUnsaved works c payload [] c'

/-- The directory has no answer to the command. -/
def Refuses (c : Flash) (payload : Json) (command : DirectoryCommand) : Prop :=
  ∀ members c', ¬Serves c payload command members c'

/-- The command could write this directory. -/
def Writes (c : Flash) (payload : Json) (command : DirectoryCommand) (m : DeviceMap) : Prop :=
  ∃ members, Serves c payload command members ⟨m, none⟩

/-- The members of the payload of a result, none where it has no payload. -/
def CommandExecutionResult.members (result : CommandExecutionResult) : List (CStr × Json) :=
  match result.payload with
  | some (.object members) => members
  | _ => []

/-- A command that succeeds: it ends as the directory says, or pairs a node whose record is not
saved. -/
def Fulfils (works : Prop) (c : Flash) (payload : Json) (command : DirectoryCommand)
    (members : List (CStr × Json)) (c' : Flash) : Prop :=
  Serves c payload command members c' ∨
    command = .pair ∧ PairsUnsaved works c payload members c'

/-- The command succeeds, or ends with an error that leaves the directory alone. When flash works
there is an error only where the directory has no answer; pairing may also fail over the air. -/
def Performs (c : Flash) (payload : Json) (command : DirectoryCommand)
    (op : Handler CommandExecutionResult) : Prop :=
  ∀ w : World, w.allocs = allSucceed → InFlash c w.board.registry →
    ((op w).1.err = .ok ⟨⟩ ∧
      ∃ c', Fulfils (FlashWorks w) c payload command (op w).1.members c' ∧
        InFlash c' (op w).2.board.registry) ∨
    (∃ err, (op w).1.err = .error err) ∧
      (∃ c', Attempted (Writes c payload command) c c' ∧ InFlash c' (op w).2.board.registry) ∧
      (FlashWorks w → command ≠ .pair → Refuses c payload command)

variable {c : Flash} {payload : Json} {command : DirectoryCommand} {w : World}

/-- Nothing has been attempted. -/
theorem attempted_self {E : DeviceMap → Prop} {n : RegistryNvs} (hc : InFlash c n) :
    ∃ c', Attempted E c c' ∧ InFlash c' n := ⟨c, .inl rfl, hc⟩

theorem performs_failed {err : EspErr} {message : String} (h : Refuses c payload command) :
    Performs c payload command (pure (failed err message)) :=
  fun _ _ hc => .inr ⟨⟨err, rfl⟩, attempted_self hc, fun _ _ => h⟩

/-- A branch that reports how an update of the registry ends. -/
theorem performs_update {target : RegistryStore → EspResult RegistryStore}
    (htarget : ∀ s t, Represents s c.directory → target s = .ok t →
      ∃ m, Serves c payload command [] ⟨m, none⟩ ∧ Represents t m)
    (hexists : ∀ s members c', Represents s c.directory → Serves c payload command members c' →
      ∃ t, target s = .ok t) : Performs c payload command (report (update target)) := by
  intro w _ hc
  unfold report
  rw [bind_apply]
  obtain ⟨w', hrun, m, hserved, hm⟩ | ⟨e, w', hrun, ⟨c', hattempted, hc'⟩, hworks⟩ :=
    update_inFlash htarget hc
  · rw [hrun]
    exact .inl ⟨rfl, _, .inl hserved, hm⟩
  · rw [hrun]
    refine .inr ⟨⟨e, rfl⟩, ⟨c', ?_, hc'⟩, fun hw _ members c' hserves => ?_⟩
    · exact hattempted.imp_right fun ⟨m, hm, heq⟩ => ⟨m, ⟨[], hm⟩, heq⟩
    · obtain ⟨s, hs, hnone⟩ := hworks hw
      exact hnone (hexists s members c' hs hserves)

/-- A branch that ends with this payload. -/
theorem performs_reply {out : Alloc (Option Json)} {members : List (CStr × Json)} {c' : Flash}
    {text : String} (works : Prop) (hout : out.Yields (some (.object members)))
    (hserves : Serves c payload command members c') (hallocs : w.allocs = allSucceed)
    (hc' : InFlash c' w.board.registry) :
    (reply out text w).1.err = .ok ⟨⟩ ∧
      ∃ c', Fulfils works c payload command (reply out text w).1.members c' ∧
        InFlash c' (reply out text w).2.board.registry := by
  unfold reply
  rw [bind_apply, allocate_eq hallocs hout]
  exact ⟨rfl, c', .inl hserves, hc'⟩

/-! ## Reading -/

/-- cJSON has memory, and nothing has changed on this board. -/
def Untouched (b : Board) (w : World) : Prop := w.allocs = allSucceed ∧ w.board = b

theorem untouched_unforeseen (b : Board) : UnforeseenNvs (Untouched b) where
  allocs _ h := ⟨(congrArg Stream'.tail h.1).trans (Stream'.tail_const true), h.2⟩
  heap _ h := h
  httpd _ h := h
  stack _ h := h
  nvs _ _ h := h

theorem deviceRegistryToJson_holds {m : DeviceMap} {b : Board} (hm : Registry.Holds m b) :
    Keeps (Untouched b) deviceRegistryToJson fun tree => ∀ out ∈ tree, out = m.toJson := by
  have hI := untouched_unforeseen b
  have hload : Esp.Keeps (Untouched b) loadStore fun s => s.devices = m.entries := by
    apply loadStore_keeps hI
    rintro w ⟨-, rfl⟩ s hread
    exact (hm.represents hread).devices
  apply Keeps.bind hI.malloc
  rintro allocated -
  split
  · exact Keeps.pure nofun
  · apply Keeps.bind hload
    rintro (- | s) hs
    · exact Keeps.pure nofun
    · rw [← devicesTree_eq_toJson, ← hs s rfl]
      apply (Unforeseen.allocate_yields (fun _ hw => hw.1) (devicesToJson_yields _)).weaken
      rintro _ rfl out ⟨⟩
      rfl

/-- When flash works, the list is built. -/
theorem deviceRegistryToJson_works {m : DeviceMap} (hw : FlashWorks w)
    (hallocs : w.allocs = allSucceed) (hm : Registry.Holds m w.board) :
    (deviceRegistryToJson w).1 = some m.toJson := by
  obtain ⟨s, hs, hread⟩ := hm
  have hmalloc : malloc w = (true, { w with heap := w.heap.tail }) := by
    have hrun : malloc w = (w.heap.head, { w with heap := w.heap.tail }) := rfl
    rw [hrun, hw.heap]
    rfl
  have hload : loadStore.run { w with heap := w.heap.tail } =
      (.ok s, { w with heap := w.heap.tail }) :=
    (loadStore_works (w := { w with heap := w.heap.tail }) hw.nvs).trans
      (congrArg (·, { w with heap := w.heap.tail }) hread)
  unfold deviceRegistryToJson
  rw [bind_apply, hmalloc]
  dsimp only
  rw [if_neg (by decide), bind_apply, hload]
  dsimp only
  rw [allocate_eq (w := { w with heap := w.heap.tail }) hallocs
    (devicesToJson_yields s.devices), hs.devices, devicesTree_eq_toJson]

theorem deviceList_performs : Performs c payload .list (deviceList payload) := by
  intro w hallocs hc
  unfold deviceList
  rw [bind_apply]
  obtain ⟨⟨-, hboard⟩, htree⟩ := deviceRegistryToJson_holds hc.holds w ⟨hallocs, rfl⟩
  have hkept : InFlash c (deviceRegistryToJson w).2.board.registry := hboard ▸ hc
  cases hout : (deviceRegistryToJson w).1 with
  | none =>
      refine .inr ⟨⟨_, rfl⟩, attempted_self hkept, fun hw => ?_⟩
      cases hout.symm.trans (deviceRegistryToJson_works hw hallocs hc.holds)
  | some out =>
      obtain rfl := htree out hout
      exact .inl ⟨rfl, c, .inl .list, hkept⟩

theorem deviceGet_performs : Performs c payload .get (deviceGet payload) := by
  unfold deviceGet
  rw [requiredStringField_eq_textMember]
  cases hid : textMember payload "device_id" with
  | none =>
      apply performs_failed
      rintro _ _ ⟨⟩
      next hid' _ => cases hid.symm.trans hid'
  | some deviceId =>
      intro w hallocs hc
      dsimp only
      obtain ⟨s, r, hfinds, hrun⟩ | ⟨hmissing, e, w', hrun, hboard⟩ :=
        deviceRegistryGetDevice_cases deviceId w
      · rw [onOk_run_ok hrun]
        have hout : (recordToJson true r).Yields (some (.object (deviceEntry true r))) := by
          rw [← fields_eq_deviceEntry]
          exact recordToJson_yields r
        exact .inl (performs_reply (w := loadedWorld w) (FlashWorks w) hout
          (.get hid (hfinds.get hc.holds)) hallocs hc)
      · rw [onOk_run_error hrun]
        refine .inr ⟨⟨e, rfl⟩, attempted_self (hboard ▸ hc), fun hw _ => ?_⟩
        rintro _ _ ⟨⟩
        next r hid' hr =>
        obtain rfl := Option.some.inj (hid.symm.trans hid')
        obtain ⟨s, hfinds⟩ := finds_of_get hw hc.holds hr
        exact hmissing ⟨s, r, hfinds⟩

/-! ## Writing -/

theorem deviceRemove_performs : Performs c payload .remove (deviceRemove payload) := by
  unfold deviceRemove
  rw [requiredStringField_eq_textMember]
  cases hid : textMember payload "device_id" with
  | none =>
      apply performs_failed
      rintro _ _ ⟨⟩
      next hid' _ => cases hid.symm.trans hid'
  | some deviceId =>
      dsimp only
      rw [deviceRegistryRemoveDevice_eq]
      apply performs_update
      · intro s t hs ht
        obtain ⟨m, hm, ht⟩ := represents_of_removeTarget hs ht
        exact ⟨m, .remove hid hm, ht⟩
      · rintro s _ _ hs ⟨⟩
        next hid' hm =>
        obtain rfl := Option.some.inj (hid.symm.trans hid')
        exact exists_removeTarget hs hm

theorem deviceRename_performs : Performs c payload .rename (deviceRename payload) := by
  unfold deviceRename
  rw [requiredStringField_eq_textMember, requiredStringField_eq_textMember]
  split
  · next deviceId label hid hlabel =>
    rw [deviceRegistryRenameDevice_eq]
    apply performs_update
    · intro s t hs ht
      obtain ⟨m, hm, ht⟩ := represents_of_renameTarget hs ht
      exact ⟨m, .rename hid hlabel hm, ht⟩
    · rintro s _ _ hs ⟨⟩
      next hid' hlabel' hm =>
      obtain rfl := Option.some.inj (hid.symm.trans hid')
      obtain rfl := Option.some.inj (hlabel.symm.trans hlabel')
      exact exists_renameTarget hs hm
  · next hnone =>
    apply performs_failed
    rintro _ _ ⟨⟩
    next hid hlabel _ => exact hnone _ _ hid hlabel

theorem proper_of_get {m : DeviceMap} {b : Board} {deviceId : CStr} {r : DeviceRecord}
    (hm : Registry.Holds m b) (h : m.get deviceId = .ok r) : r.Proper := by
  obtain ⟨s, hs, -⟩ := hm
  exact hs.proper r (List.mem_of_find?_eq_some (get_eq_ok_iff.mp h))

theorem proper_pairedRecord (nodeId : UInt64) : (pairedRecord nodeId).Proper where
  deviceId := CharArray.terminated_copyField 31 _
  named := named_pairedRecord nodeId
  label := CharArray.terminated_copyField 31 _
  productName := (by decide : DeviceRecord.zero.productName.Terminated)
  location := (by decide : DeviceRecord.zero.location.Terminated)
  capabilityCount := (regular_pairedRecord nodeId).capabilityCount
  capabilities _ h := absurd h List.not_mem_nil

theorem proper_withCapability {r updated : DeviceRecord} {fields : CapabilityFields}
    {semantic : DeviceCapabilitySemanticType} (hr : r.Proper)
    (h : withCapability r (newCapability payload fields semantic) = some updated) :
    updated.Proper := by
  have hcapabilities : ∀ c ∈ updated.capabilityList,
      c.capabilityId.Terminated ∧ c.label.Terminated := by
    intro c hc
    rcases mem_withCapability h hc with hc | rfl
    · exact hr.capabilities c hc
    · exact ⟨CharArray.terminated_copyField 31 _, CharArray.terminated_copyField 31 _⟩
  have hcount : updated.capabilityCount ≤ deviceRegistryCapabilityMax := by
    rcases withCapability_cases h with ⟨_, -, rfl, -⟩ | ⟨-, hroom, rfl, -⟩
    · exact hr.capabilityCount
    · have hlt : r.capabilityCount.toNat < 8 := UInt32.lt_iff_toNat_lt.mp hroom
      apply UInt32.le_iff_toNat_le.mpr
      show (r.capabilityCount + 1).toNat ≤ 8
      rw [UInt32.toNat_add, UInt32.toNat_one]
      omega
  rw [withCapability_frame h] at hcapabilities hcount ⊢
  exact { hr with capabilityCount := hcount, capabilities := hcapabilities }

theorem hasAdded_of_withCapability {r updated : DeviceRecord} {capability : DeviceCapability}
    (hr : r.Proper) (h : withCapability r capability = some updated) :
    HasAdded capability r updated where
  capabilities := by
    have hsame : ∀ c ∈ r.capabilityList, sameCapabilityId capability c =
        decide (c.capabilityId.toCStr = capability.capabilityId.toCStr) := by
      intro c hc
      apply Bool.eq_iff_iff.mpr
      rw [decide_eq_true_iff]
      exact CharArray.strncmpEq_iff_ofBytes (hr.capabilities c hc).1 _
    exact (capabilityList_of_withCapability hr.capabilityCount h).trans (upsert_congr hsame)
  frame := withCapability_frame h

/-- What a record can hold can be added to it. -/
theorem exists_withCapability {r updated : DeviceRecord} {capability : DeviceCapability}
    (hr : r.Proper) (h : HasAdded capability r updated) :
    ∃ updated', withCapability r capability = some updated' := by
  unfold withCapability
  cases hfind : CountedArray.findIndex (sameCapabilityId capability) r.capabilities
      r.capabilityCount.toNat with
  | some i => exact ⟨_, rfl⟩
  | none =>
      have hcount : r.capabilityCount.toNat ≤ 8 := UInt32.le_iff_toNat_le.mp hr.capabilityCount
      -- Without a capability of that id the new one comes behind the others.
      have hnone : (capabilitiesOf r).findIdx?
          (fun c => c.capabilityId.toCStr = capability.capabilityId.toCStr) = none := by
        apply List.findIdx?_eq_none_iff.mpr
        intro c hc
        have hother := CountedArray.findIndex_eq_none hcount hfind hc
        rw [decide_eq_false_iff_not]
        intro heq
        have hsame : sameCapabilityId capability c = true :=
          (CharArray.strncmpEq_iff_ofBytes (hr.capabilities c hc).1 _).mpr heq
        cases hsame.symm.trans hother
      have hlength := congrArg List.length h.capabilities
      rw [upsert_of_none hnone, List.length_append, List.length_singleton] at hlength
      have hold : (capabilitiesOf r).length = r.capabilityCount.toNat :=
        CountedArray.length_view hcount
      have hnew : (capabilitiesOf updated).length ≤ 8 := by
        rw [capabilitiesOf, List.length_take, Vector.length_toList]
        exact Nat.min_le_right _ _
      have hroom : ¬deviceRegistryCapabilityMax ≤ r.capabilityCount := by
        rw [UInt32.not_le]
        apply UInt32.lt_iff_toNat_lt.mpr
        show r.capabilityCount.toNat < 8
        omega
      exact ⟨_, if_neg hroom⟩

theorem pairedRecord_eq_nodeDevice (nodeId : UInt64) : pairedRecord nodeId = nodeDevice nodeId := by
  rw [pairedRecord, copyField_eq_textField, copyField_eq_textField]
  rfl

/-- Telling the clients about a change leaves cJSON with memory. -/
theorem allocsAfterSave_allSucceed {b : Board} {allocs : Stream' Bool} (h : allocs = allSucceed) :
    allocsAfterSave b allocs = allSucceed := by
  subst h
  unfold allocsAfterSave registryChangedMessage
  split
  · rfl
  · rw [(eventMessage_yields _).eq, (snapshotMessage_yields _).eq]

/-- The command changes nothing on the board but by one update of the registry. -/
theorem board_addCapabilityCommand (payload : Json) (w : World) :
    (addCapabilityCommand payload w).2.board = w.board ∨
      ∃ fields semantic s record updated, AddsCapability payload fields semantic record updated ∧
        Finds fields.deviceId s record w ∧ (addCapabilityCommand payload w).2.board =
          ((update (upsertTarget updated)).run (loadedWorld w)).2.board := by
  unfold addCapabilityCommand
  cases hfields : capabilityFields payload with
  | none => exact .inl rfl
  | some fields =>
  dsimp only
  cases hsemantic : DeviceCapabilitySemanticType.fromString fields.semanticType with
  | none => exact .inl rfl
  | some semantic =>
  dsimp only
  obtain ⟨s, record, hfinds, hget⟩ | ⟨-, e, w', hget, hboard⟩ :=
    deviceRegistryGetDevice_cases fields.deviceId w
  swap
  · rw [onOk_run_error hget]
    exact .inl hboard
  rw [onOk_run_ok hget]
  split
  · exact .inl rfl
  next hattribute =>
  cases hupdated : withCapability record (newCapability payload fields semantic) with
  | none => exact .inl rfl
  | some updated =>
      have hadds : AddsCapability payload fields semantic record updated :=
        ⟨hfields, hsemantic, hattribute, hupdated⟩
      have hvalid := valid_of_adds hadds (RegistryNvs.accepted_of_read hfinds.read) hfinds.found
      dsimp only
      rw [deviceRegistryUpsertDevice_eq hvalid]
      refine .inr ⟨fields, semantic, s, record, updated, hadds, hfinds, ?_⟩
      obtain ⟨-, -, -, w', hrun, -⟩ | ⟨-, e, w', hrun, -⟩ :=
        update_cases (upsertTarget updated) (loadedWorld w)
      · rw [onOk_run_ok hrun, hrun]
        rfl
      · rw [onOk_run_error hrun, hrun]

theorem addCapability_performs : Performs c payload .add (addCapabilityCommand payload) := by
  intro w hallocs hc
  have hserves {fields : CapabilityFields} {semantic : DeviceCapabilitySemanticType}
      {s t : RegistryStore} {r updated : DeviceRecord}
      (hadds : AddsCapability payload fields semantic r updated)
      (hfinds : Finds fields.deviceId s r w) (ht : upsertTarget updated s = .ok t) :
      ∃ m, Serves c payload .add [(CStr.lit "device_id", .string r.deviceId.toCStr),
        (CStr.lit "capability_id", .string (fields.capabilityId.take 31))] ⟨m, none⟩ ∧
        Represents t m := by
    have hrecord := hfinds.get hc.holds
    have hproper := proper_of_get hc.holds hrecord
    obtain ⟨m, hm, ht⟩ := represents_of_upsertTarget (hc.holds.represents hfinds.read)
      (proper_withCapability hproper hadds.updates) ht
    have hid : textMember payload "device_id" = some fields.deviceId := by
      rw [← requiredStringField_eq_textMember, (of_capabilityFields hadds.hasFields).deviceId]
    exact ⟨m, .add hid (askedFor_newCapability hadds.hasFields hadds.hasType hadds.hasAttribute)
      hrecord (hasAdded_of_withCapability hproper hadds.updates) hm, ht⟩
  obtain ⟨a, ha, w', hannounces, hrun⟩ | ⟨hmissing, hrefused, hsame⟩ :=
    addCapabilityCommand_cases payload w
  · rw [hrun]
    obtain ⟨hadds, hfinds, hsaves⟩ := ha
    obtain ⟨m, hserved, ht⟩ := hserves hadds hfinds hsaves.updated
    have hafter : w'.allocs = allSucceed := by
      rw [hannounces.allocs]
      exact allocsAfterSave_allSucceed hallocs
    have hfields : a.replyFields payload =
        [(CStr.lit "device_id", .string a.record.deviceId.toCStr),
         (CStr.lit "capability_id", .string (a.fields.capabilityId.take 31))] := by
      rw [Addition.replyFields, withCapability_frame hadds.updates, newCapability,
        CharArray.toCStr_copyField 31]
    rw [hfields]
    refine .inl (performs_reply (FlashWorks w) (createObject_yields _) hserved hafter
      (inFlash_of_committed ht ?_ ?_))
    · exact read_of_saved ht.accepted hannounces.registry
    · rw [hannounces.registry]
      rfl
  · refine .inr ⟨?_, attempted_of_staged hc hsame.stored fun bytes hbytes => ?_, fun hw _ => ?_⟩
    · cases herr : (addCapabilityCommand payload w).1.err with
      | ok _ => exact absurd herr hrefused
      | error err => exact ⟨err, rfl⟩
    · rcases board_addCapabilityCommand payload w with
        hboard | ⟨fields, semantic, s, r, updated, hadds, hfinds, hboard⟩
      · exact .inl (hboard ▸ hbytes)
      · rw [hboard] at hbytes
        refine (update_staged hbytes).imp_right ?_
        rintro ⟨s', t, hread, ht, hencode⟩
        obtain rfl := Except.ok.inj (hfinds.read.symm.trans hread)
        obtain ⟨m, hserved, ht⟩ := hserves hadds hfinds ht
        exact ⟨t, m, hencode, ht, _, hserved⟩
    · rintro _ _ ⟨⟩
      next deviceId text capability r updated m hid hasked hr hadded hm =>
      obtain ⟨fields, semantic, hfields, rfl, -, hsemantic, hattribute, rfl⟩ := hasked.fields hid
      obtain ⟨updated', hupdates⟩ := exists_withCapability (proper_of_get hc.holds hr) hadded
      obtain ⟨s, hfinds⟩ := finds_of_get hw hc.holds hr
      have hsameId : updated'.deviceId = updated.deviceId := by
        rw [withCapability_frame hupdates, hadded.frame]
      obtain ⟨t, ht⟩ := exists_upsertTarget (hc.holds.represents hfinds.read) hm
      obtain ⟨t', ht'⟩ := upsertTarget_congr hsameId ht
      exact hmissing ⟨⟨fields, semantic, r, updated', s, t'⟩,
        ⟨hfields, hsemantic, hattribute, hupdates⟩, hfinds,
        saves_of_target hw.loaded hfinds.read ht'⟩

/-- Once the node is paired, its record is written or the write is left on its way. -/
theorem executeMatterPairBleThreadCommand_inFlash (nodeId : UInt64) (pin : UInt32)
    (discriminator : UInt16) (hc : InFlash c w.board.registry) :
    (∃ e w', (executeMatterPairBleThreadCommand nodeId pin discriminator).run w = (.error e, w') ∧
        InFlash c w'.board.registry) ∨
      ∃ w', (executeMatterPairBleThreadCommand nodeId pin discriminator).run w = (.ok ⟨⟩, w') ∧
        ((∃ m, c.directory.upsertDevice (nodeDevice nodeId) = (.ok ⟨⟩, m) ∧
            InFlash ⟨m, none⟩ w'.board.registry) ∨
          (FlashWorks w →
            (c.directory.upsertDevice (nodeDevice nodeId)).1 = .error EspErr.noMem) ∧
          ∃ c', Attempted
              (fun m => c.directory.upsertDevice (nodeDevice nodeId) = (.ok ⟨⟩, m)) c c' ∧
            InFlash c' w'.board.registry) := by
  rw [executeMatterPairBleThreadCommand_eq]
  obtain ⟨-, w₁, hrun, hregistry, hheap, hnvs, -⟩ | ⟨-, e, w₁, hrun, hregistry⟩ :=
    pairingCalls_cases nodeId pin discriminator w
  swap
  · exact .inl ⟨e, w₁, Esp.run_bind_error hrun, hregistry ▸ hc⟩
  have hignore := ignoredUpsert_run nodeId w₁
  rw [Esp.run_bind_ok hrun, hignore, ← pairedRecord_eq_nodeDevice]
  refine .inr ⟨_, rfl, ?_⟩
  have hc₁ : InFlash c w₁.board.registry := hregistry ▸ hc
  obtain ⟨w', hupdate, m, hm⟩ | ⟨e, w', hupdate, hc', hworks⟩ := update_inFlash
    (fun _ _ hs ht => represents_of_upsertTarget hs (proper_pairedRecord nodeId) ht) hc₁
  · rw [hupdate]
    exact .inl ⟨m, hm⟩
  · rw [hupdate]
    refine .inr ⟨fun hw => ?_, hc'⟩
    have hw₁ : FlashWorks w₁ :=
      { heap := (hheap.trans (congrArg Stream'.tail hw.heap)).trans (Stream'.tail_const true)
        nvs := hnvs.trans hw.nvs }
    obtain ⟨s, hs, hnone⟩ := hworks hw₁
    refine (c.directory.upsertDevice_cases (pairedRecord nodeId)).resolve_left ?_
    rintro ⟨m, hm⟩
    exact hnone (exists_upsertTarget hs hm)

theorem matterPairBleThread_performs :
    Performs c payload .pair (matterPairBleThread payload) := by
  unfold matterPairBleThread
  split
  · next nodeId pin discriminator hnode _ _ =>
    intro w _ hc
    unfold report
    rw [bind_apply]
    obtain ⟨e, w', hrun, hkept⟩ | ⟨w', hrun, ⟨m, hm, hkept⟩ | ⟨hfull, c', hc', hkept⟩⟩ :=
      executeMatterPairBleThreadCommand_inFlash nodeId pin discriminator hc
    · rw [hrun]
      exact .inr ⟨⟨e, rfl⟩, attempted_self hkept, fun _ h => absurd rfl h⟩
    · rw [hrun]
      exact .inl ⟨rfl, _, .inl (.pair hnode hm), hkept⟩
    · rw [hrun]
      exact .inl ⟨rfl, c', .inr ⟨rfl, .intro hnode hfull hc'⟩, hkept⟩
  · exact fun _ _ hc => .inr ⟨⟨_, rfl⟩, attempted_self hc, fun _ h => absurd rfl h⟩

/-! ## Every command -/

theorem DirectoryCommand.performs (command : DirectoryCommand) :
    Performs c payload command (command.entry.2 payload) := by
  cases command with
  | list => exact deviceList_performs
  | get => exact deviceGet_performs
  | remove => exact deviceRemove_performs
  | rename => exact deviceRename_performs
  | add => exact addCapability_performs
  | pair => exact matterPairBleThread_performs

/-- Any command that succeeds: one that is not about the directory leaves it alone. -/
inductive Answered (works : Prop) (c : Flash) (payload : Json) :
    CStr → List (CStr × Json) → Flash → Prop
  | directory {command : DirectoryCommand} {members : List (CStr × Json)} {c' : Flash}
      (h : Serves c payload command members c') :
      Answered works c payload (CStr.lit command.entry.1) members c'
  | pairedUnsaved {members : List (CStr × Json)} {c' : Flash}
      (h : PairsUnsaved works c payload members c') :
      Answered works c payload (CStr.lit "matter.pair_ble_thread") members c'
  | other {action : CStr} {members : List (CStr × Json)}
      (h : ∀ command : DirectoryCommand, action ≠ CStr.lit command.entry.1) :
      Answered works c payload action members c

/-- What a command leaves that fails: the directory, and perhaps a write on its way. -/
def FailsFrom (c : Flash) (payload : Json) (action : CStr) (c' : Flash) : Prop :=
  Attempted (fun m => ∃ command : DirectoryCommand, action = CStr.lit command.entry.1 ∧
    Writes c payload command m) c c'

/-- The directory has no answer to what the action asks of it. Pairing may fail all the same. -/
def Unanswerable (c : Flash) (payload : Json) (action : CStr) : Prop :=
  ∀ command : DirectoryCommand, command ≠ .pair → action = CStr.lit command.entry.1 →
    Refuses c payload command

theorem DirectoryCommand.entry_injective {command command' : DirectoryCommand}
    (h : CStr.lit command.entry.1 = CStr.lit command'.entry.1) : command = command' := by
  cases command <;> cases command' <;> first | rfl | exact absurd h (by decide)

theorem answered_of_fulfils {works : Prop} {members : List (CStr × Json)} {c' : Flash}
    (h : Fulfils works c payload command members c') :
    Answered works c payload (CStr.lit command.entry.1) members c' := by
  rcases h with h | ⟨rfl, h⟩
  · exact .directory h
  · exact .pairedUnsaved h

theorem Answered.mono {works works' : Prop} {action : CStr} {members : List (CStr × Json)}
    {c' : Flash} (h : Answered works c payload action members c') (hworks : works' → works) :
    Answered works' c payload action members c' := by
  cases h with
  | directory h => exact .directory h
  | pairedUnsaved h =>
      obtain ⟨hnode, hfull, hc'⟩ := h
      exact .pairedUnsaved (.intro hnode (fun hw => hfull (hworks hw)) hc')
  | other h => exact .other h

theorem Answered.serves {works : Prop} {action : CStr} {members : List (CStr × Json)}
    {c' : Flash} (h : Answered works c payload action members c')
    (haction : action = CStr.lit command.entry.1) (hpair : command ≠ .pair) :
    Serves c payload command members c' := by
  cases h with
  | directory h =>
      obtain rfl := DirectoryCommand.entry_injective haction
      exact h
  | pairedUnsaved h =>
      have hsame : DirectoryCommand.pair = command := DirectoryCommand.entry_injective haction
      exact absurd hsame.symm hpair
  | other h => exact absurd haction (h command)

/-- Every command, whatever fails on the way but cJSON, is one on the directory. -/
theorem processCommandMessage_answered (cfg : Config) (p : Platform) (action : CStr)
    (payload : Json) (hallocs : w.allocs = allSucceed) (hc : InFlash c w.board.registry) :
    ((processCommandMessage cfg p action payload w).1.err = .ok ⟨⟩ ∧
      ∃ c', Answered (FlashWorks w) c payload action
          (processCommandMessage cfg p action payload w).1.members c' ∧
        InFlash c' (processCommandMessage cfg p action payload w).2.board.registry) ∨
    (∃ err, (processCommandMessage cfg p action payload w).1.err = .error err) ∧
      (∃ c', FailsFrom c payload action c' ∧
        InFlash c' (processCommandMessage cfg p action payload w).2.board.registry) ∧
      (FlashWorks w → Unanswerable c payload action) := by
  by_cases hother : ∀ command : DirectoryCommand, action ≠ CStr.lit command.entry.1
  · have hkept : InFlash c (processCommandMessage cfg p action payload w).2.board.registry := by
      refine registry_of_read_command (InFlash c) ?_ payload hc
      rintro name hname rfl
      obtain ⟨command, rfl⟩ := DirectoryCommand.exists_of_registryActions hname
      exact hother command rfl
    cases herr : (processCommandMessage cfg p action payload w).1.err with
    | ok _ => exact .inl ⟨rfl, c, .other hother, hkept⟩
    | error err =>
        exact .inr ⟨⟨err, rfl⟩, attempted_self hkept,
          fun _ command _ heq => absurd heq (hother command)⟩
  · push Not at hother
    obtain ⟨command, rfl⟩ := hother
    rw [processCommandMessage_of_mem (command.mem_branches cfg p)]
    obtain ⟨hok, c', hfulfils, hc'⟩ | ⟨herr, ⟨c', hattempted, hc'⟩, hrefuses⟩ :=
      command.performs w hallocs hc
    · exact .inl ⟨hok, c', answered_of_fulfils hfulfils, hc'⟩
    · refine .inr ⟨herr, ⟨c', ?_, hc'⟩, fun hw command' hpair heq => ?_⟩
      · exact hattempted.imp_right fun ⟨m, hm, heq⟩ => ⟨m, ⟨command, rfl, hm⟩, heq⟩
      · obtain rfl := DirectoryCommand.entry_injective heq
        exact hrefuses hw hpair

end Orchestrator.Messages
