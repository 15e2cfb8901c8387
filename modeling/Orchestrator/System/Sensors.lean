import Orchestrator.Events.Reports
import Orchestrator.Messages.Durable
import Orchestrator.Messages.Semantic

/-!
# From a capability to the reports about it

A client adds a capability to a device, reads it later, and the node of the device reports the
attribute. The report names the device that the client knows, whatever happened in between.
-/

namespace Orchestrator.System

open Lib Handler Registry Server Messages Events

variable {E : Type} {reader : TlvReader E} {w : World} {s : RegistryStore} {r : DeviceRecord}
  {cfg : Config} {p : Platform}

/-! ## The device of a node -/

/-- A search for an element by its key ends at it, where no two elements have the same. -/
theorem findSome?_of_distinct {α β κ : Type} [DecidableEq κ] (key : α → κ) {l : List α} {a : α}
    (g : α → Option β) (hdistinct : (l.map key).Nodup) (ha : a ∈ l) :
    (l.findSome? fun x => if key x ≠ key a then none else g x) = g a := by
  induction l with
  | nil => exact absurd ha List.not_mem_nil
  | cons x l ih =>
      obtain ⟨hfirst, hrest⟩ := List.nodup_cons.mp hdistinct
      rw [List.findSome?_cons]
      by_cases hkey : key x = key a
      · obtain rfl : x = a := List.inj_on_of_nodup_map hdistinct List.mem_cons_self ha hkey
        have hothers : (l.findSome? fun y => if key y ≠ key x then none else g y) = none := by
          refine List.findSome?_eq_none_iff.mpr fun y hy => if_pos fun heq => hfirst ?_
          rw [← heq]
          exact List.mem_map_of_mem hy
        cases g x with
        | none => simpa using hothers
        | some b => simp
      · have hmem : a ∈ l := (List.mem_cons.mp ha).resolve_left fun heq => hkey (heq ▸ rfl)
        simpa [hkey] using ih hrest hmem

/-- The first capability of a device at a path. -/
def capabilityAt (r : DeviceRecord) (path : Events.AttributePath) : Option DeviceCapability :=
  (capabilitiesOf r).find? fun c => c.endpointId = path.endpointId ∧
    c.clusterId = path.clusterId ∧ c.attributeId = path.attributeId

/-- The first capability at a path of a node is one of the device of the node. -/
theorem firstAt_of_regular (hs : s.Regular) (hr : r ∈ s.devices) (path : Events.AttributePath) :
    firstAt r.nodeId path s = (capabilityAt r path).map fun c => (r, c) := by
  rw [← findSome?_eq_firstAt]
  exact findSome?_of_distinct (fun r => r.nodeId) _ (nodup_nodeIds hs) hr

/-- The search for the id of a registered device ends at it. -/
theorem deviceNamed_of_regular (hs : s.Regular) (hr : r ∈ s.devices) :
    deviceNamed s r.deviceId.toCStr = some r :=
  BoundedMap.find?_of_nodup hs.distinct hr fun _ _ => by simp

/-- A device that has a capability at a path has a first one there. -/
theorem isSome_capabilityAt {c : DeviceCapability} (hc : c ∈ capabilitiesOf r) :
    (capabilityAt r ⟨c.endpointId, c.clusterId, c.attributeId⟩).isSome := by
  rw [capabilityAt, List.find?_isSome]
  exact ⟨c, hc, by simp⟩

/-! ## Reports -/

/-- The calls on the way from a report to the clients succeed. -/
structure Reports (w : World) : Prop where
  allocs : w.allocs = allSucceed
  heap : w.heap.head = true
  passes : ∀ k < loadCalls w, w.nvsPasses k

/-- A report of this integer about the path goes to every client. It names the device and the
type of this capability, with the measured value, or nothing but the path and the value where
there is no capability. -/
def AnnouncedAs (reader : TlvReader E) (r : DeviceRecord) (capability : Option DeviceCapability)
    (path : Events.AttributePath) (data : E) (v : Int) (w : World) : Prop :=
  ∃ payload, (attributeDataReportCallback reader r.nodeId path data w).2.board =
      queueEach (broadcastTo (loadedWorld w)) (eventFrame "matter.attribute_report" payload)
        w.board ∧
    Annotated (capability.map fun c => (r, c)) r.nodeId path v payload

theorem announcedAs (hread : w.board.registry.read = .ok s) (hs : s.Regular)
    (hr : r ∈ s.devices) (path : Events.AttributePath) {data : E} {v : Int}
    (hdata : CarriesInteger reader v data) (hlow : -2 ^ 31 ≤ v) (hhigh : v < 2 ^ 31)
    (hreports : Reports w) : AnnouncedAs reader r (capabilityAt r path) path data v w := by
  have hannotated := annotated_fields r.nodeId path
    ((capabilityAt r path).map fun c => (r, c)) hlow (Int.lt_add_one_iff.mp hhigh)
  refine ⟨_, ?_, hannotated⟩
  obtain ⟨result, heap, httpd, hrun⟩ := broadcastReport_run (path.report r.nodeId (decimalInt v))
    hreports.allocs
    (lookUp_run r.nodeId path (decimalInt v) hreports.heap hreports.passes hread) hreports.allocs
  unfold attributeDataReportCallback
  rw [reportedValue_of_carriesInteger hdata, ← messageTree_event]
  show ((broadcastInfoMatterAttributeReportMessage _).run w).2.board = _
  rw [hrun, firstAt_of_regular hs hr path]
  rfl

/-! ## Capabilities that were added -/

/-- From the moment on at which the addition of a capability is acknowledged, and until a
command ends or overwrites it, the device is registered for a node after which it is named,
and every integer that the node reports about the path of the capability is announced under
the id of the device, with the type of its first capability at that path. -/
theorem added_capability_announced (reader : TlvReader E) (cfg : Config) (p : Platform)
    {start w w' : World}
    {action : CStr} {payload : Json} {deviceId capabilityId : CStr} {c : DeviceCapability}
    (hempty : EmptyRegistry start)
    (hbefore : Relation.ReflTransGen (fun u v => ∃ op, Occurs cfg p op u v) start w)
    (hack : Acknowledges cfg p action payload w (.capability deviceId capabilityId c))
    (hafter : Relation.ReflTransGen
      (fun u v => ∃ op, Occurs cfg p op u v ∧
        ¬(OperatorData.capability deviceId capabilityId c).EndedBy op ∧
        ¬(OperatorData.capability deviceId capabilityId c).OverwrittenBy u op)
      (processCommandMessage cfg p action payload w).2 w') :
    ∃ s r, w'.board.registry.read = .ok s ∧ deviceNamed s deviceId = some r ∧
      deviceId = CStr.lit "node-" ++ CStr.decimal r.nodeId.toNat ∧ c ∈ capabilitiesOf r ∧
      ∃ first, capabilityAt r ⟨c.endpointId, c.clusterId, c.attributeId⟩ = some first ∧
        ∀ (data : E) (v : Int), CarriesInteger reader v data → -2 ^ 31 ≤ v → v < 2 ^ 31 →
          Reports w' →
          AnnouncedAs reader r (some first) ⟨c.endpointId, c.clusterId, c.attributeId⟩ data v
            w' := by
  obtain ⟨hheld, hcut⟩ := dataFlash_of_acknowledges (regularFlash_of_occurs hempty hbefore) hack
  have hkept : DataFlash (.capability deviceId capabilityId c) w' := by
    induction hafter with
    | refl => exact hheld
    | tail _ hstep ih =>
        obtain ⟨op, hoccurs, hended, hover⟩ := hstep
        exact dataFlash_step hcut ih hoccurs hended hover
  obtain ⟨s, hread, hs, r, hr, hid, hc⟩ := exists_read_of_dataFlash hkept
  obtain ⟨first, hfirst⟩ := Option.isSome_iff_exists.mp (isSome_capabilityAt hc)
  refine ⟨s, r, hread, ?_, ?_, hc, first, hfirst, ?_⟩
  · exact (congrArg (deviceNamed s) hid.symm).trans (deviceNamed_of_regular hs hr)
  · rw [← (hs.records r hr).deviceId]
    exact hid.symm
  · intro data v hdata hlow hhigh hreports
    exact hfirst ▸ announcedAs hread hs hr _ hdata hlow hhigh hreports

/-- The registry of a world, with one client and calls that succeed. -/
def watched (w : World) : World :=
  World.calm { w.board with
    running := true
    sessions := [(7, true)] }

theorem registry_watched (w : World) : (watched w).board.registry = w.board.registry := rfl

theorem reports_watched (w : World) : Reports (watched w) := ⟨rfl, rfl, fun _ _ => rfl⟩

theorem not_overwrittenBy_elsewhere {data : OperatorData} :
    ¬data.OverwrittenBy w .elsewhere := by
  intro h
  cases h

theorem occurs_pairedWorld :
    Relation.ReflTransGen
      (fun u v => ∃ op, Occurs Config.full (Platform.parsing "null" .null) op u v)
      (World.calm threadAttached) pairedWorld :=
  .single ⟨.command (CStr.lit "matter.pair_ble_thread") pairingPayload, .command _ _ _⟩

theorem added_capability_announced_relay :
    ∃ s r, (watched relayWorld).board.registry.read = .ok s ∧
      deviceNamed s relayFields.deviceId = some r ∧
      ∃ first, capabilityAt r ⟨1, 6, uint32Max⟩ = some first ∧
        AnnouncedAs datumReader r (some first) ⟨1, 6, uint32Max⟩ (.inl (.signedInteger 21)) 21
          (watched relayWorld) := by
  have hempty : EmptyRegistry (World.calm threadAttached) := ⟨rfl, rfl⟩
  have hwatched : Occurs Config.full (Platform.parsing "null" .null) .elsewhere relayWorld
      (watched relayWorld) := .elsewhere (registry_watched relayWorld)
  obtain ⟨s, r, hread, hnamed, -, -, first, hfirst, hannounced⟩ :=
    added_capability_announced datumReader Config.full (Platform.parsing "null" .null) hempty
      occurs_pairedWorld acknowledges_relayData
      (.single ⟨.elsewhere, hwatched, id, not_overwrittenBy_elsewhere⟩)
  exact ⟨s, r, hread, hnamed, first, hfirst, hannounced _ 21
    (.bare (holds_datumReader (.signedInteger 21)) rfl) (by decide) (by decide)
    (reports_watched relayWorld)⟩

/-! ## Attributes that were asked for -/

/-- The attribute that a request asks a node for. -/
def asksFor : Request → Option (UInt64 × Events.AttributePath)
  | .readAttribute nodeId endpointId clusterId attributeId =>
      some (nodeId, ⟨endpointId, clusterId, attributeId⟩)
  | .subscribeAttribute nodeId endpointId clusterId attributeId _ _ _ =>
      some (nodeId, ⟨endpointId, clusterId, attributeId⟩)
  | _ => none

/-- The type of capability that a command reads. -/
def readType : SemanticCommand → Option DeviceCapabilitySemanticType
  | .temperatureRead => some .temperature
  | .pressureRead => some .pressure
  | _ => none

theorem command_addressed (cfg : Config) (command : SemanticCommand) (payload : Json)
    (hread : w.board.registry.read = .ok s) (hs : s.Regular) :
    Addressed p (command.target payload s) w.board.requests
      (processCommandMessage cfg p (CStr.lit command.branch.1) payload w).1
      (processCommandMessage cfg p (CStr.lit command.branch.1) payload w).2 := by
  rw [processCommandMessage_of_mem (command.mem_branches cfg p)]
  exact command.branch_addressed payload hread fun r hr => (hs.records r hr).terminated

theorem of_readTarget {semantic : DeviceCapabilitySemanticType} {payload : Json}
    {request : Request} (h : SemanticCommand.readTarget semantic payload s = some request) :
    ∃ deviceId r, namedDevice payload = some deviceId ∧
      deviceNamed s deviceId = some r ∧ ∃ c ∈ capabilitiesOf r, c.semanticType = semantic ∧
        request = .readAttribute r.nodeId c.endpointId c.clusterId c.attributeId := by
  simp only [SemanticCommand.readTarget, Option.bind_eq_bind, Option.bind_eq_some_iff,
    Option.pure_def, Option.some.injEq] at h
  obtain ⟨deviceId, hdeviceId, r, hr, c, hc, rfl⟩ := h
  exact ⟨deviceId, r, hdeviceId, hr, c, List.mem_of_find?_eq_some hc,
    by simpa using List.find?_some hc, rfl⟩

theorem of_attributeTarget {subscribe : Bool} {payload : Json} {request : Request}
    {nodeId : UInt64} {path : Events.AttributePath}
    (h : SemanticCommand.attributeTarget subscribe payload s = some request)
    (hasks : asksFor request = some (nodeId, path)) :
    ∃ deviceId r, namedDevice payload = some deviceId ∧
      deviceNamed s deviceId = some r ∧ r.nodeId = nodeId := by
  simp only [SemanticCommand.attributeTarget, Option.bind_eq_bind, Option.bind_eq_some_iff] at h
  obtain ⟨deviceId, hdeviceId, asked, -, r, hr, h⟩ := h
  refine ⟨deviceId, r, hdeviceId, hr, ?_⟩
  cases subscribe with
  | false =>
      obtain rfl := Option.some.inj h
      exact congrArg Prod.fst (Option.some.inj hasks)
  | true =>
      obtain ⟨interval, -, h⟩ := Option.bind_eq_some_iff.mp h
      obtain rfl := Option.some.inj h
      exact congrArg Prod.fst (Option.some.inj hasks)

/-- The device that a command names, which is the one of the node that is asked, and which has
the capability that a semantic read is about. -/
structure AsksDevice (s : RegistryStore) (command : SemanticCommand) (payload : Json)
    (nodeId : UInt64) (path : Events.AttributePath) (r : DeviceRecord) : Prop where
  named : ∃ deviceId, namedDevice payload = some deviceId ∧
    deviceNamed s deviceId = some r
  node : r.nodeId = nodeId
  capability : ∀ semantic ∈ readType command, ∃ c ∈ r.capabilityList,
    c.semanticType = semantic ∧ path = ⟨c.endpointId, c.clusterId, c.attributeId⟩

theorem exists_asksDevice {command : SemanticCommand} {payload : Json} {request : Request}
    {nodeId : UInt64} {path : Events.AttributePath}
    (htarget : command.target payload s = some request)
    (hasks : asksFor request = some (nodeId, path)) :
    ∃ r, AsksDevice s command payload nodeId path r := by
  have hread : ∀ semantic, SemanticCommand.readTarget semantic payload s = some request →
      readType command = some semantic → ∃ r, AsksDevice s command payload nodeId path r := by
    intro semantic h htype
    obtain ⟨deviceId, r, hdeviceId, hr, c, hc, hsemantic, rfl⟩ := of_readTarget h
    have hpath := Option.some.inj hasks
    simp only [Prod.mk.injEq] at hpath
    refine ⟨r, ⟨deviceId, hdeviceId, hr⟩, hpath.1, fun other hother => ?_⟩
    obtain rfl := Option.some.inj (htype.symm.trans hother)
    exact ⟨c, hc, hsemantic, hpath.2.symm⟩
  have hattribute : ∀ subscribe, SemanticCommand.attributeTarget subscribe payload s =
      some request → readType command = none →
      ∃ r, AsksDevice s command payload nodeId path r := by
    intro subscribe h htype
    obtain ⟨deviceId, r, hdeviceId, hr, hnode⟩ := of_attributeTarget h hasks
    exact ⟨r, ⟨deviceId, hdeviceId, hr⟩, hnode, by simp [htype]⟩
  cases command with
  | temperatureRead => exact hread .temperature htarget rfl
  | pressureRead => exact hread .pressure htarget rfl
  | relaySet =>
      simp only [SemanticCommand.target, SemanticCommand.relayTarget, Option.bind_eq_bind,
        Option.bind_eq_some_iff, Option.pure_def, Option.some.injEq] at htarget
      obtain ⟨-, -, on, -, r, -, c, -, rfl⟩ := htarget
      cases hasks
  | attributeRead => exact hattribute false htarget rfl
  | attributeSubscribe => exact hattribute true htarget rfl

/-- Whatever a semantic command asks a node for is an attribute of the node of the device that
the command names, for a typed read one of a capability of the type. As long as the registry is
as it was, a report of the attribute is announced under the id of the device where the device
has a capability at the path, as it has for a typed read, and without a device elsewhere. -/
theorem asked_attribute_announced (reader : TlvReader E) (cfg : Config) (p : Platform)
    {start w w' : World}
    (hempty : EmptyRegistry start)
    (hbefore : Relation.ReflTransGen (fun u v => ∃ op, Occurs cfg p op u v) start w)
    (command : SemanticCommand) {payload : Json} {request : Request} {nodeId : UInt64}
    {path : Events.AttributePath} (hasks : asksFor request = some (nodeId, path))
    (hhanded : (processCommandMessage cfg p (CStr.lit command.branch.1) payload
      w).2.board.requests = w.board.requests ++ [request])
    (hsame : w'.board.registry = w.board.registry) :
    ∃ s r, w.board.registry.read = .ok s ∧ namedDevice payload = some r.deviceId.toCStr ∧
      deviceNamed s r.deviceId.toCStr = some r ∧ r.nodeId = nodeId ∧
      (∀ semantic ∈ readType command, (capabilityAt r path).isSome ∧
        ∃ c ∈ capabilitiesOf r, c.semanticType = semantic ∧
          path = ⟨c.endpointId, c.clusterId, c.attributeId⟩) ∧
      ∀ (data : E) (v : Int), CarriesInteger reader v data → -2 ^ 31 ≤ v → v < 2 ^ 31 →
        Reports w' → AnnouncedAs reader r (capabilityAt r path) path data v w' := by
  obtain ⟨s, hread, hs, -⟩ :=
    exists_read_of_regularFlash (regularFlash_of_occurs hempty hbefore)
  have htarget : command.target payload s = some request := by
    rcases (command_addressed (p := p) cfg command payload hread hs).handed with
      hnone | ⟨other, htarget, hone⟩
    · simp [hhanded] at hnone
    · rw [hhanded] at hone
      simpa [htarget] using hone.symm
  obtain ⟨r, ⟨deviceId, hdeviceId, hnamed⟩, rfl, hcapability⟩ := exists_asksDevice htarget hasks
  have hid : r.deviceId.toCStr = deviceId := by simpa using List.find?_some hnamed
  refine ⟨s, r, hread, by rw [hid, hdeviceId], by rw [hid, hnamed], rfl, ?_, ?_⟩
  · intro semantic htype
    obtain ⟨c, hc, hsemantic, rfl⟩ := hcapability semantic htype
    exact ⟨isSome_capabilityAt hc, c, hc, hsemantic, rfl⟩
  · intro data v hdata hlow hhigh hreports
    exact announcedAs (hsame ▸ hread) hs (List.mem_of_find?_eq_some hnamed) path hdata hlow hhigh
      hreports

/-- A thermometer of the paired node. -/
def thermometerPayload : Json :=
  .object
    [(CStr.lit "device_id", .string (CStr.lit "node-18446744073709551615")),
     (CStr.lit "capability_id", .string (CStr.lit "air")),
     (CStr.lit "semantic_type", .string (CStr.lit "temperature")),
     (CStr.lit "endpoint_id", .number 1),
     (CStr.lit "cluster_id", .number 1026),
     (CStr.lit "attribute_id", .number 0)]

/-- The paired node has a relay and a thermometer. -/
def thermometerWorld : World :=
  (processCommandMessage Config.full (Platform.parsing "null" .null)
    (CStr.lit "device.capability.add") thermometerPayload relayWorld).2

theorem occurs_thermometerWorld :
    Relation.ReflTransGen
      (fun u v => ∃ op, Occurs Config.full (Platform.parsing "null" .null) op u v)
      (World.calm threadAttached) thermometerWorld :=
  (occurs_pairedWorld.tail ⟨.command (CStr.lit "device.capability.add") relayPayload,
    .command _ _ _⟩).tail
    ⟨.command (CStr.lit "device.capability.add") thermometerPayload, .command _ _ _⟩

theorem asked_attribute_announced_temperature :
    ∃ s r, thermometerWorld.board.registry.read = .ok s ∧
      namedDevice thermometerPayload = some r.deviceId.toCStr ∧
      deviceNamed s r.deviceId.toCStr = some r ∧ (capabilityAt r ⟨1, 1026, 0⟩).isSome ∧
      AnnouncedAs datumReader r (capabilityAt r ⟨1, 1026, 0⟩) ⟨1, 1026, 0⟩
        (.inl (.signedInteger (-50))) (-50) (watched thermometerWorld) := by
  have hempty : EmptyRegistry (World.calm threadAttached) := ⟨rfl, rfl⟩
  have hhanded : (processCommandMessage Config.full (Platform.parsing "null" .null)
      (CStr.lit SemanticCommand.temperatureRead.branch.1) thermometerPayload
      thermometerWorld).2.board.requests =
        thermometerWorld.board.requests ++
          [.readAttribute 18446744073709551615 1 1026 0] := by
    decide +kernel
  obtain ⟨s, r, hread, hdeviceId, hnamed, -, htyped, hannounced⟩ :=
    asked_attribute_announced datumReader Config.full (Platform.parsing "null" .null) hempty
      occurs_thermometerWorld .temperatureRead rfl hhanded (registry_watched thermometerWorld)
  exact ⟨s, r, hread, hdeviceId, hnamed, (htyped .temperature rfl).1, hannounced _ (-50)
    (.bare (holds_datumReader (.signedInteger (-50))) rfl) (by decide) (by decide)
    (reports_watched thermometerWorld)⟩

end Orchestrator.System
