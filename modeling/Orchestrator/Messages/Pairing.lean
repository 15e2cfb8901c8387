import Orchestrator.Commands.Oblivious
import Orchestrator.Messages.Durable
import Orchestrator.Messages.ReplyText
import Orchestrator.Registry.Update

/-!
# What a reply to `matter.pair_ble_thread` says

The command pairs the node, and then writes the record of its device without looking
at the result.
-/

namespace Orchestrator.Messages

open Lib Handler Registry Commands

/-- `"node-<node_id>"` -/
def nodeDeviceId (nodeId : UInt64) : CStr := CStr.lit "node-" ++ CStr.decimal nodeId.toNat

/-- `"Matter node <node_id>"` -/
def nodeLabel (nodeId : UInt64) : CStr := CStr.lit "Matter node " ++ CStr.decimal nodeId.toNat

/-- The record is that of a node that has been paired. -/
structure IsPaired (nodeId : UInt64) (r : DeviceRecord) : Prop where
  node : r.nodeId = nodeId
  reachable : r.reachable ≠ 0
  label : r.label.toCStr = nodeLabel nodeId

/-- The object tells of a node that has been paired. -/
structure ShowsPaired (nodeId : UInt64) (out : Json) : Prop where
  node : member (some out) "node_id" = some (.string (CStr.decimal nodeId.toNat))
  reachable : member (some out) "reachable" = some (.bool true)
  label : member (some out) "label" = some (.string (nodeLabel nodeId))

/-- A message that asks for a device. -/
def getEnvelope (requestId : CStr) (payload : Json) : Envelope where
  requestId := requestId
  action := CStr.lit "device.get"
  payload := payload

/-- When no call fails the device of the node is found, and the reply to `device.get` tells of a
node that has been paired. -/
def Shown (cfg : Config) (p : Platform) (nodeId : UInt64) (b : Board) : Prop :=
  ∃ r, IsPaired nodeId r ∧
    ((deviceRegistryGetDevice (nodeDeviceId nodeId)).run (World.calm b)).1 = .ok r ∧
    ∀ requestId payload, textMember payload "device_id" = some (nodeDeviceId nodeId) →
      ∃ reply out,
        ((commandReply cfg p (getEnvelope requestId payload)).run (World.calm b)).1 = .ok reply ∧
          member (some reply) "ok" = some (.bool true) ∧
          member (some reply) "payload" = some out ∧ ShowsPaired nodeId out

/-- The records of all other devices. -/
def others (nodeId : UInt64) (s : RegistryStore) : List DeviceRecord :=
  s.devices.filter fun r => r.deviceId.toCStr ≠ nodeDeviceId nodeId

/-- A message that asks to pair a node. -/
def pairEnvelope (requestId : CStr) (payload : Json) : Envelope where
  requestId := requestId
  action := CStr.lit "matter.pair_ble_thread"
  payload := payload

/-- The world when the reply has been made. -/
def afterPairing (cfg : Config) (p : Platform) (requestId : CStr) (payload : Json) (w : World) :
    World :=
  ((commandReply cfg p (pairEnvelope requestId payload)).run w).2

/-- What the reply to `matter.pair_ble_thread` says is so. -/
structure PairingTold (cfg : Config) (p : Platform) (requestId : CStr) (payload : Json)
    (w : World) : Prop where
  accepted : Says cfg p (pairEnvelope requestId payload) w true →
    ∃ nodeId, requiredUint64StringField payload "node_id" = some nodeId ∧
      Shown cfg p nodeId (afterPairing cfg p requestId payload w).board ∧
      (afterPairing cfg p requestId payload w).board.registry.read.map (others nodeId) =
        w.board.registry.read.map (others nodeId)
  refused : Says cfg p (pairEnvelope requestId payload) w false →
    (afterPairing cfg p requestId payload w).board.registry = w.board.registry

/-- The calls before the registry is written succeed. -/
structure Commissioned (w : World) : Prop where
  allocated : w.heap.head = true
  instanceExists : w.board.openThread.instanceExists = true
  dataset : ∃ tlvs, w.board.openThread.activeDatasetTlvs = some tlvs ∧
    tlvs.length ≤ otOperationalDatasetMaxLength
  paired : w.stack.head = none

/-- The registry has the record afterwards: memory is there, no NVS call fails, and the device
is registered or there is room for it. -/
def Recorded (nodeId : UInt64) (w : World) : Prop :=
  ∃ s t, Saves (upsertTarget (pairedRecord nodeId)) s t { w with heap := w.heap.tail }

/-! ## The calls before the write -/

variable {cfg : Config} {p : Platform} {requestId : CStr} {payload : Json} {nodeId : UInt64}
  {pin : UInt32} {discriminator : UInt16} {w w' : World} {s t : RegistryStore}

theorem pairingCalls_cases (nodeId : UInt64) (pin : UInt32) (discriminator : UInt16) (w : World) :
    (Commissioned w ∧ ∃ w', (pairingCalls nodeId pin discriminator).run w = (.ok ⟨⟩, w') ∧
        w'.board.registry = w.board.registry ∧ w'.heap = w.heap.tail ∧ w'.nvs = w.nvs ∧
        w'.board.running = w.board.running ∧ w'.board.state = w.board.state ∧
        w'.allocs = w.allocs) ∨
      ¬Commissioned w ∧ ∃ e w', (pairingCalls nodeId pin discriminator).run w = (.error e, w') ∧
        w'.board.registry = w.board.registry := by
  unfold pairingCalls
  have halloc := mallocOrFail_run w
  cases hheap : w.heap.head with
  | false =>
      rw [hheap] at halloc
      refine .inr ⟨fun h => ?_, _, _, Esp.run_bind_error halloc, rfl⟩
      cases hheap.symm.trans h.allocated
  | true =>
  rw [hheap] at halloc
  rw [Esp.run_bind_ok halloc]
  have htlvs := threadGetActiveDatasetTlvs_run { w with heap := w.heap.tail }
  by_cases hinstance : w.board.openThread.instanceExists = true
  swap
  · rw [if_neg hinstance] at htlvs
    exact .inr ⟨fun h => hinstance h.instanceExists, _, _, Esp.run_bind_error htlvs, rfl⟩
  rw [if_pos hinstance] at htlvs
  dsimp only at htlvs
  cases hdataset : w.board.openThread.activeDatasetTlvs with
  | none =>
      rw [hdataset] at htlvs
      refine .inr ⟨fun h => ?_, _, _, Esp.run_bind_error htlvs, rfl⟩
      obtain ⟨tlvs, hsome, -⟩ := h.dataset
      cases hdataset.symm.trans hsome
  | some tlvs =>
  rw [hdataset] at htlvs
  dsimp only at htlvs
  split at htlvs
  · next hlong =>
    refine .inr ⟨fun h => ?_, _, _, Esp.run_bind_error htlvs, rfl⟩
    obtain ⟨tlvs', hsome, hlength⟩ := h.dataset
    obtain rfl := Option.some.inj (hdataset.symm.trans hsome)
    exact Nat.not_le_of_lt hlong hlength
  · next hlength =>
    rw [Esp.run_bind_ok htlvs, espCall_run]
    dsimp only
    cases hstack : w.stack.head with
    | some err =>
        refine .inr ⟨fun h => ?_, _, _, rfl, rfl⟩
        cases hstack.symm.trans h.paired
    | none =>
        exact .inl ⟨⟨hheap, hinstance, ⟨tlvs, hdataset, Nat.le_of_not_lt hlength⟩, hstack⟩,
          _, rfl, rfl, rfl, rfl, rfl, rfl, rfl⟩

/-! ## The record -/

theorem isPaired_pairedRecord_iff :
    IsPaired nodeId (pairedRecord nodeId) ↔ nodeId.toNat < 10 ^ 19 := by
  rw [← CStr.length_decimal_le_iff (by decide)]
  constructor
  · intro h
    have hlabel := congrArg (fun s : CStr => s.bytes.length)
      ((label_pairedRecord nodeId).symm.trans h.label)
    simp only [nodeLabel, CStr.bytes_append, CStr.bytes_take, List.length_append,
      List.length_take] at hlabel
    unfold CStr.length
    omega
  · intro h
    refine ⟨rfl, (by decide : (1 : UInt8) ≠ 0), ?_⟩
    rw [label_pairedRecord, CStr.take_eq_self h]
    rfl

theorem named_pairedRecord (nodeId : UInt64) : (pairedRecord nodeId).deviceId.head ≠ 0 := by
  intro hzero
  have hempty := CharArray.bytes_toCStr_of_head hzero
  rw [deviceId_pairedRecord] at hempty
  have hlit : (CStr.lit "node-").bytes ≠ [] := by decide
  exact hlit (List.append_eq_nil_iff.mp hempty).1

/-- The id that is searched for is the same in the record and in a request. -/
theorem hasId_pairedRecord (nodeId : UInt64) :
    hasId (pairedRecord nodeId).deviceId.toList = hasId (nodeDeviceId nodeId).bytes := by
  have hself : CStr.beforeNul (nodeDeviceId nodeId).bytes = (nodeDeviceId nodeId).bytes :=
    congrArg CStr.bytes (CStr.ofBytes_bytes (nodeDeviceId nodeId))
  have hid : CStr.beforeNul (pairedRecord nodeId).deviceId.toList = (nodeDeviceId nodeId).bytes :=
    congrArg CStr.bytes (deviceId_pairedRecord nodeId)
  apply hasId_of_found
  unfold hasId
  rw [strncmpEq_iff, hself, hid]

/-- The id of a node is shorter than its field. -/
theorem hasId_nodeDeviceId (nodeId : UInt64) :
    hasId (nodeDeviceId nodeId).bytes = fun r =>
      decide (r.deviceId.toCStr = nodeDeviceId nodeId) := by
  have hle := length_decimal_node nodeId
  have hlit : (CStr.lit "node-").bytes.length = 5 := by decide
  have hlength : (nodeDeviceId nodeId).length ≤ 32 := by
    simp only [nodeDeviceId, CStr.length, CStr.bytes_append, List.length_append] at hle ⊢
    omega
  rw [hasId_bytes, CStr.take_eq_self hlength]

theorem getDevice_calm_iff {deviceId : CStr} {b : Board} {r : DeviceRecord} :
    ((deviceRegistryGetDevice deviceId).run (World.calm b)).1 = .ok r ↔
      ∃ s, b.registry.read = .ok s ∧ s.devices.find? (hasId deviceId.bytes) = some r := by
  obtain ⟨s, r', hfinds, hrun⟩ | ⟨hfails, e, w', hrun, -⟩ :=
    deviceRegistryGetDevice_cases deviceId (World.calm b)
  · rw [hrun]
    constructor
    · intro heq
      obtain rfl := Except.ok.inj heq
      exact ⟨s, hfinds.read, hfinds.found⟩
    · rintro ⟨s', hread, hfind⟩
      obtain rfl := Except.ok.inj (hfinds.read.symm.trans hread)
      exact congrArg Except.ok (Option.some.inj (hfinds.found.symm.trans hfind))
  · rw [hrun]
    refine iff_of_false (fun heq => by cases heq) ?_
    rintro ⟨s, hread, hfind⟩
    exact hfails ⟨s, r, rfl, fun _ _ => rfl, hread, hfind⟩

/-- What is told of a record is what it holds. -/
theorem showsPaired_toJson {r : DeviceRecord} (hr : IsPaired nodeId r) :
    ShowsPaired nodeId (r.toJson true) where
  node := by
    rw [← hr.node]
    rfl
  reachable := by
    have htrue : decide (r.reachable ≠ 0) = true := decide_eq_true hr.reachable
    rw [← htrue]
    rfl
  label := by
    rw [← hr.label]
    rfl

theorem shown_iff {b : Board} : Shown cfg p nodeId b ↔ ∃ s r, b.registry.read = .ok s ∧
    s.devices.find? (hasId (nodeDeviceId nodeId).bytes) = some r ∧ IsPaired nodeId r := by
  constructor
  · rintro ⟨r, hr, hget, -⟩
    obtain ⟨s, hread, hfind⟩ := getDevice_calm_iff.mp hget
    exact ⟨s, r, hread, hfind, hr⟩
  · rintro ⟨s, r, hread, hfind, hr⟩
    refine ⟨r, hr, getDevice_calm_iff.mpr ⟨s, hread, hfind⟩, fun requestId payload hpayload => ?_⟩
    have hget : ("device.get", deviceGet) ∈ branches cfg p :=
      mem_branches_of_device (by simp [deviceBranches])
    have hrun : processCommandMessage cfg p (getEnvelope requestId payload).action
        (getEnvelope requestId payload).payload (World.calm b) =
          (built (some (r.toJson true)) "", World.calm b) := by
      rw [← requiredStringField_eq_textMember] at hpayload
      unfold getEnvelope
      rw [processCommandMessage_of_mem hget]
      exact deviceGet_calm hread hpayload hfind
    obtain ⟨reply, hreply, hok⟩ := (says_of_payload hrun rfl rfl).mpr ⟨rfl, rfl, rfl, rfl⟩
    exact ⟨reply, _, hreply, hok, payload_of_reply hrun rfl rfl hreply, showsPaired_toJson hr⟩

/-! ## The reply -/

/-- After the write, the device is shown unless its label was cut, and no other device has
changed. -/
theorem told_of_saved (cfg : Config) (p : Platform)
    (hsaves : Saves (upsertTarget (pairedRecord nodeId)) s t w)
    (hafter : w'.board.registry = (w.board.withStore t).registry) :
    (Shown cfg p nodeId w'.board ↔ nodeId.toNat < 10 ^ 19) ∧
      w'.board.registry.read.map (others nodeId) = w.board.registry.read.map (others nodeId) := by
  have hs := RegistryNvs.accepted_of_read hsaves.read
  have hregular := regular_pairedRecord nodeId
  have ht := accepted_of_upsertTarget hs hregular.capabilityCount hsaves.updated
  have hread := read_of_saved ht hafter
  have hdevices := devices_of_upsertTarget hs hsaves.updated
  rw [hasId_pairedRecord] at hdevices
  have hself : hasId (nodeDeviceId nodeId).bytes (pairedRecord nodeId) = true := by
    rw [← hasId_pairedRecord]
    exact hasId_self _
  constructor
  · rw [shown_iff, ← isPaired_pairedRecord_iff]
    constructor
    · rintro ⟨s', r, hread', hfind, hr⟩
      obtain rfl := Except.ok.inj (hread.symm.trans hread')
      rw [hdevices, find?_upsert hself] at hfind
      exact Option.some.inj hfind ▸ hr
    · intro hr
      exact ⟨t, _, hread, by rw [hdevices, find?_upsert hself], hr⟩
  · rw [hread, hsaves.read]
    refine congrArg Except.ok ?_
    unfold others
    rw [hdevices]
    have hid := hasId_nodeDeviceId nodeId
    rw [hid] at hself ⊢
    exact filter_upsert (by simp [of_decide_eq_true hself]) fun r hr => by
      simp [of_decide_eq_true hr]

/-- Only the registry, the allocation and the NVS calls matter for a save. -/
theorem saves_congr {target : RegistryStore → EspResult RegistryStore} {u : World}
    (hregistry : u.board.registry = w.board.registry) (hheap : u.heap = w.heap)
    (hnvs : u.nvs = w.nvs) (h : Saves target s t u) : Saves target s t w := by
  have hcalls : loadCalls w = loadCalls u := by
    unfold loadCalls
    rw [hregistry]
  constructor
  · exact hheap ▸ h.allocated
  · intro k hk
    have hpass := h.passes k (hcalls ▸ hk)
    unfold World.nvsPasses at hpass ⊢
    rwa [hnvs] at hpass
  · exact hregistry ▸ h.read
  · exact h.updated

/-- An update without what follows its write. -/
def writeTarget (target : RegistryStore → EspResult RegistryStore) : Esp Unit := do
  allocStore
  let store ← loadStore
  let t ← (ExceptT.mk (pure (target store)) : Esp RegistryStore)
  saveStore t

/-- An update that fails has told nobody. -/
theorem allocs_of_update {target : RegistryStore → EspResult RegistryStore} {e : EspErr}
    (hrun : (update target).run w = (.error e, w')) : w'.allocs = w.allocs := by
  have hwrite : (writeTarget target).Oblivious := by
    refine allocStore_oblivious.bind fun _ => loadStore_oblivious.bind fun store => ?_
    cases target store with
    | error err => exact Esp.oblivious_throw err
    | ok t => exact saveStore_oblivious t
  have hparts : update target = writeTarget target >>= fun _ => announce := by
    unfold update writeTarget
    simp only [bind_assoc]
    refine bind_congr fun _ => bind_congr fun store => ?_
    cases target store with
    | error err => rfl
    | ok t => rfl
  rw [hparts] at hrun
  obtain ⟨(err | _), u, hpart⟩ : ∃ r u, (writeTarget target).run w = (r, u) := ⟨_, _, rfl⟩
  · rw [Esp.run_bind_error hpart] at hrun
    obtain ⟨-, rfl⟩ := Prod.mk.inj hrun
    exact (congrArg (fun out : EspResult Unit × World => out.2.allocs) hpart).symm.trans
      (hwrite.allocs w)
  · obtain ⟨u', htold, -⟩ := announce_run u
    rw [Esp.run_bind_ok hpart, htold] at hrun
    cases hrun

/-- The record is valid, and whether it is saved is not looked at. -/
theorem ignoredUpsert_run (nodeId : UInt64) (w : World) :
    (ignore (deviceRegistryUpsertDevice (pairedRecord nodeId))).run w =
      (.ok ⟨⟩, ((update (upsertTarget (pairedRecord nodeId))).run w).2) := by
  have hvalid : ¬((pairedRecord nodeId).deviceId.head = 0 ∨
      deviceRegistryCapabilityMax < (pairedRecord nodeId).capabilityCount) :=
    not_or.mpr ⟨named_pairedRecord nodeId,
      UInt32.not_lt.mpr (regular_pairedRecord nodeId).capabilityCount⟩
  rw [deviceRegistryUpsertDevice_eq hvalid]
  rfl

/-- How the command ends once its payload has been read, and which outcomes of cJSON are left
for its reply. -/
theorem executeMatterPairBleThreadCommand_cases (nodeId : UInt64) (pin : UInt32)
    (discriminator : UInt16) (w : World) :
    (¬Commissioned w ∧ ∃ e w', (executeMatterPairBleThreadCommand nodeId pin discriminator).run w =
        (.error e, w') ∧ w'.board.registry = w.board.registry) ∨
      Commissioned w ∧ ∃ w', (executeMatterPairBleThreadCommand nodeId pin discriminator).run w =
          (.ok ⟨⟩, w') ∧
        ((∃ s t, Saves (upsertTarget (pairedRecord nodeId)) s t { w with heap := w.heap.tail } ∧
            w'.board.registry = (w.board.withStore t).registry ∧
            w'.allocs = allocsAfterSave w.board w.allocs) ∨
          ¬Recorded nodeId w ∧ w'.board.registry.stored.join = w.board.registry.stored.join ∧
            w'.allocs = w.allocs) := by
  rw [executeMatterPairBleThreadCommand_eq]
  obtain ⟨hready, w₁, hrun, hregistry, hheap, hnvs, hrunning, hstate, hallocs⟩ |
      ⟨hready, e, w₁, hrun, hregistry⟩ :=
    pairingCalls_cases nodeId pin discriminator w
  swap
  · exact .inl ⟨hready, e, w₁, Esp.run_bind_error hrun, hregistry⟩
  refine .inr ⟨hready, ?_⟩
  have hignore := ignoredUpsert_run nodeId w₁
  rw [Esp.run_bind_ok hrun, hignore]
  refine ⟨_, rfl, ?_⟩
  obtain ⟨s, t, hsaves, w₂, hupdate, hsaved⟩ | ⟨hfails, e, w₂, hupdate, hsame⟩ :=
    update_cases (upsertTarget (pairedRecord nodeId)) w₁
  · have hleft : allocsAfterSave (savedWorld t w₁).board (savedWorld t w₁).allocs =
        allocsAfterSave w.board w.allocs := by
      unfold allocsAfterSave
      show (if w₁.board.running = false then w₁.allocs
        else (State.snapshotMessage w₁.board.state (registryChangedMessage w₁.allocs).2).2) = _
      rw [hrunning, hstate, hallocs]
    rw [hupdate]
    exact .inl ⟨s, t, saves_congr (w := { w with heap := w.heap.tail }) hregistry hheap hnvs hsaves,
      hsaved.registry, hsaved.allocs.trans hleft⟩
  · rw [hupdate]
    refine .inr ⟨?_, hregistry ▸ hsame.stored, (allocs_of_update hupdate).trans hallocs⟩
    rintro ⟨s, t, hsaves⟩
    exact hfails ⟨s, t, saves_congr (u := { w with heap := w.heap.tail }) hregistry.symm
      hheap.symm hnvs.symm hsaves⟩

theorem pairing_run (cfg : Config) (p : Platform) (requestId : CStr) (payload : Json) (w : World) :
    processCommandMessage cfg p (pairEnvelope requestId payload).action
      (pairEnvelope requestId payload).payload w = matterPairBleThread payload w := by
  have hmem : ("matter.pair_ble_thread", matterPairBleThread) ∈ branches cfg p :=
    mem_branches_of_registry (by simp [registryBranches])
  unfold pairEnvelope
  rw [processCommandMessage_of_mem hmem]

/-- A pairing that fails is not said to have succeeded. -/
theorem pairingTold_of_error {result : CommandExecutionResult} {err : EspErr}
    (hrun : matterPairBleThread payload w = (result, w')) (herr : result.err = .error err)
    (hregistry : w'.board.registry = w.board.registry) :
    PairingTold cfg p requestId payload w := by
  have hcommand := (pairing_run cfg p requestId payload w).trans hrun
  constructor
  · intro h
    exact absurd ((says_of_error hcommand herr).mp h).1 (by decide)
  · intro _
    unfold afterPairing
    rw [board_commandReply, hcommand, hregistry]

/-- A pairing that succeeds is said to have done so if cJSON has memory for the reply. -/
theorem pairingTold_iff_of_ok
    (hrun : matterPairBleThread payload w = (commandResult (.ok ⟨⟩) none none, w'))
    (hnode : requiredUint64StringField payload "node_id" = some nodeId) :
    PairingTold cfg p requestId payload w ↔
      (BareReplyMade w'.allocs → Shown cfg p nodeId w'.board ∧
        w'.board.registry.read.map (others nodeId) =
          w.board.registry.read.map (others nodeId)) := by
  have hcommand := (pairing_run cfg p requestId payload w).trans hrun
  have hboard : (afterPairing cfg p requestId payload w).board = w'.board := by
    unfold afterPairing
    rw [board_commandReply, hcommand]
  have hanswered {ok : Bool} : Says cfg p (pairEnvelope requestId payload) w ok ↔
      ok = true ∧ BareReplyMade w'.allocs := says_of_bare hcommand rfl rfl
  constructor
  · intro h hmade
    obtain ⟨n, hn, hshown⟩ := h.accepted (hanswered.mpr ⟨rfl, hmade⟩)
    obtain rfl := Option.some.inj (hnode.symm.trans hn)
    rwa [hboard] at hshown
  · intro h
    constructor
    · intro hok
      rw [hboard]
      exact ⟨nodeId, hnode, h (hanswered.mp hok).2⟩
    · exact fun hrefused => absurd (hanswered.mp hrefused).1 (by decide)

/-- The pairing of a payload that has been read. -/
theorem report_told_iff (cfg : Config) (p : Platform) (requestId : CStr)
    (hnode : requiredUint64StringField payload "node_id" = some nodeId)
    (hrun : matterPairBleThread payload w =
      report (executeMatterPairBleThreadCommand nodeId pin discriminator) w) :
    PairingTold cfg p requestId payload w ↔
      (Commissioned w →
        (Recorded nodeId w → BareReplyMade (allocsAfterSave w.board w.allocs) →
          nodeId.toNat < 10 ^ 19) ∧
        (¬Recorded nodeId w → BareReplyMade w.allocs → Shown cfg p nodeId w.board)) := by
  have hreport (op : Esp Unit) :
      report op w = (commandResult (op.run w).1 none none, (op.run w).2) := rfl
  rw [hreport] at hrun
  obtain ⟨hready, e, w', hpair, hregistry⟩ | ⟨hready, w', hpair, hwritten⟩ :=
    executeMatterPairBleThreadCommand_cases nodeId pin discriminator w
  · rw [hpair] at hrun
    exact iff_of_true (pairingTold_of_error hrun rfl hregistry) fun h => absurd h hready
  rw [hpair] at hrun
  rw [pairingTold_iff_of_ok hrun hnode]
  rcases hwritten with ⟨s, t, hsaves, hsaved, hallocs⟩ | ⟨hfails, hstored, hallocs⟩
  · obtain ⟨hshown, hothers⟩ := told_of_saved cfg p hsaves hsaved
    have hrecorded : Recorded nodeId w := ⟨s, t, hsaves⟩
    rw [hallocs]
    constructor
    · exact fun h _ => ⟨fun _ hmade => hshown.mp (h hmade).1, fun hnot => absurd hrecorded hnot⟩
    · exact fun h hmade => ⟨hshown.mpr ((h hready).1 hrecorded hmade), hothers⟩
  · have hread := read_congr hstored
    have hshown : Shown cfg p nodeId w'.board ↔ Shown cfg p nodeId w.board := by
      rw [shown_iff, shown_iff, hread]
    rw [hallocs]
    constructor
    · exact fun h _ => ⟨fun hrecorded => absurd hrecorded hfails,
        fun _ hmade => hshown.mp (h hmade).1⟩
    · exact fun h hmade => ⟨hshown.mpr ((h hready).2 hfails hmade),
        congrArg (Except.map (others nodeId)) hread⟩

/-- The reply tells what has happened exactly when the label of a record that is written is not
cut, and a record that is not written was there already. -/
theorem pairing_told_iff (cfg : Config) (p : Platform) (requestId : CStr) (payload : Json)
    (w : World) :
    PairingTold cfg p requestId payload w ↔
      ∀ nodeId pin discriminator,
        requiredUint64StringField payload "node_id" = some nodeId →
        requiredUint32StringField payload "setup_code" = some pin →
        requiredUint16StringField payload "discriminator" = some discriminator →
        Commissioned w →
          (Recorded nodeId w → BareReplyMade (allocsAfterSave w.board w.allocs) →
            nodeId.toNat < 10 ^ 19) ∧
          (¬Recorded nodeId w → BareReplyMade w.allocs → Shown cfg p nodeId w.board) := by
  have hinvalid (h : matterPairBleThread payload w =
      (failed EspErr.invalidArg "Invalid BLE pairing payload", w)) :
      PairingTold cfg p requestId payload w := pairingTold_of_error h rfl rfl
  have hbody := congrFun (matterPairBleThread.eq_1 payload) w
  cases hnode : requiredUint64StringField payload "node_id" with
  | none =>
      rw [hnode] at hbody
      exact iff_of_true (hinvalid hbody) fun _ _ _ h => by cases h
  | some nodeId =>
  cases hpin : requiredUint32StringField payload "setup_code" with
  | none =>
      rw [hnode, hpin] at hbody
      exact iff_of_true (hinvalid hbody) fun _ _ _ _ h => by cases h
  | some pin =>
  cases hdiscriminator : requiredUint16StringField payload "discriminator" with
  | none =>
      rw [hnode, hpin, hdiscriminator] at hbody
      exact iff_of_true (hinvalid hbody) fun _ _ _ _ _ h => by cases h
  | some discriminator =>
  rw [hnode, hpin, hdiscriminator] at hbody
  refine (report_told_iff cfg p requestId hnode hbody).trans ⟨fun h => ?_, fun h => ?_⟩
  · rintro _ _ _ ⟨⟩ - -
    exact h
  · exact h nodeId pin discriminator rfl rfl rfl

/-- Every call into NVS fails. -/
def flashFails : World :=
  { World.calm threadAttached with
    nvs := Stream'.const (some ⟨EspErr.espFail, EspErr.espFail_ne_nvsNotFound⟩) }

/-- The first node of a network. -/
def firstNodePayload : Json :=
  .object
    [(CStr.lit "node_id", .string (CStr.lit "1")),
     (CStr.lit "setup_code", .string (CStr.lit "20202021")),
     (CStr.lit "discriminator", .string (CStr.lit "3840"))]

/-- The reply says `ok: true` although the registry stays empty. -/
theorem pairing_not_told_flashFails :
    ¬PairingTold Config.full (Platform.parsing "null" .null) (CStr.lit "r1") firstNodePayload
      flashFails := by
  intro h
  have hanswered : Says Config.full (Platform.parsing "null" .null)
      (pairEnvelope (CStr.lit "r1") firstNodePayload) flashFails true := ⟨_, rfl, rfl⟩
  obtain ⟨nodeId, -, hshown, -⟩ := h.accepted hanswered
  obtain ⟨s, r, hread, hfind, -⟩ := shown_iff.mp hshown
  have hstored : (afterPairing Config.full (Platform.parsing "null" .null) (CStr.lit "r1")
      firstNodePayload flashFails).board.registry.stored = none := by decide +kernel
  unfold RegistryNvs.read at hread
  rw [hstored] at hread
  obtain rfl := Except.ok.inj hread
  cases hfind

end Orchestrator.Messages
