import Mathlib.Data.List.Find
import Orchestrator.Messages.Strings
import Orchestrator.Registry.Calm
import Orchestrator.Registry.Directory

/-!
# What the semantic commands address

The commands that name a device, and maybe a type of capability, find the node, the
endpoint and the cluster in the registry. Each hands at most one request to the Matter
controller.
-/

namespace Orchestrator.Messages

open Lib Handler Registry State Commands Alloc

/-! ## Targets -/

/-- The first record in use with exactly this id. -/
def deviceNamed (s : RegistryStore) (deviceId : CStr) : Option DeviceRecord :=
  (s.records.toList.take s.count.toNat).find? fun r => r.deviceId.toCStr = deviceId

/-- The device that a payload names. -/
def namedDevice (payload : Json) : Option CStr := textMember payload "device_id"

theorem requiredStringField_eq_namedDevice (payload : Json) :
    requiredStringField payload "device_id" = namedDevice payload :=
  requiredStringField_eq_textMember payload "device_id"

/-- The commands that address a registered device. -/
inductive SemanticCommand
  | temperatureRead
  | pressureRead
  | relaySet
  | attributeRead
  | attributeSubscribe
  deriving DecidableEq, Repr

namespace SemanticCommand

def branch : SemanticCommand → String × CommandHandler
  | temperatureRead => ("device.temperature.read", deviceSemanticRead .temperature)
  | pressureRead => ("device.pressure.read", deviceSemanticRead .pressure)
  | relaySet => ("device.relay.set", deviceRelaySet)
  | attributeRead => ("device.attribute.read", deviceAttribute false)
  | attributeSubscribe => ("device.attribute.subscribe", deviceAttribute true)

/-- The read of the attribute of the first capability of a type. -/
def readTarget (semantic : DeviceCapabilitySemanticType) (payload : Json) (s : RegistryStore) :
    Option Request := do
  let deviceId ← namedDevice payload
  let record ← deviceNamed s deviceId
  let capability ← (capabilitiesOf record).find? fun c => c.semanticType = semantic
  return .readAttribute record.nodeId capability.endpointId capability.clusterId
    capability.attributeId

/-- The command `1` or `0` to the first relay. -/
def relayTarget (payload : Json) (s : RegistryStore) : Option Request := do
  let deviceId ← namedDevice payload
  let on ← Json.bool? (payload.getObjectItem (CStr.lit "on"))
  let record ← deviceNamed s deviceId
  let capability ← (capabilitiesOf record).find? fun c => c.semanticType = .relay
  return .invokeCluster record.nodeId capability.endpointId capability.clusterId
    (if on then 1 else 0) (CStr.lit "\x7b\x7d")

/-- The attribute that the payload names, of the node of the device. -/
def attributeTarget (subscribe : Bool) (payload : Json) (s : RegistryStore) : Option Request := do
  let deviceId ← namedDevice payload
  let path ← attributePath payload
  let record ← deviceNamed s deviceId
  if subscribe then
    let interval ← intervals payload
    return .subscribeAttribute record.nodeId (castUint16 path.endpointId)
      (castUint32 path.clusterId) (castUint32 path.attributeId) (castUint16 interval.1)
      (castUint16 interval.2) true
  else
    return .readAttribute record.nodeId (castUint16 path.endpointId) (castUint32 path.clusterId)
      (castUint32 path.attributeId)

/-- The request that the command is for: none when the payload is not valid, or the device
or its capability does not exist. -/
def target : SemanticCommand → Json → RegistryStore → Option Request
  | temperatureRead => readTarget .temperature
  | pressureRead => readTarget .pressure
  | relaySet => relayTarget
  | attributeRead => attributeTarget false
  | attributeSubscribe => attributeTarget true

end SemanticCommand

/-- The reply to a command with this result says `ok: false`. -/
def RepliesNotOk (p : Platform) (result : CommandExecutionResult) : Prop :=
  ∀ requestId action, ∃ reply,
    (commandResultObject p requestId action result).Yields (some reply) ∧
      messageType reply = some (CStr.lit "command_result") ∧
      member (some reply) "ok" = some (.bool false)

/-- What became of a command with this target: at most one request was handed over, and it
is the target; without a target there was none, and the command failed. -/
structure Addressed (p : Platform) (target : Option Request) (requests : List Request)
    (result : CommandExecutionResult) (w : World) : Prop where
  handed : w.board.requests = requests ∨
    ∃ request, target = some request ∧ w.board.requests = requests ++ [request]
  refused : target = none → w.board.requests = requests ∧ RepliesNotOk p result

/-! ## Calls into the controller -/

/-- Nothing has been handed over since, and flash is as it was. -/
def Unasked (requests : List Request) (n : RegistryNvs) (w : World) : Prop :=
  w.board.requests = requests ∧ w.board.registry = n

/-- At most this request has been handed over since. -/
def Asked (requests : List Request) (request : Request) (w : World) : Prop :=
  w.board.requests = requests ∨ w.board.requests = requests ++ [request]

variable {p : Platform} {requests : List Request} {request : Request} {n : RegistryNvs}

theorem unforeseen_requests (requests : List Request) :
    UnforeseenNvs fun w => w.board.requests = requests :=
  unforeseen_board fun b => b.requests = requests

theorem unasked_loadInvariant : LoadInvariant (Loadable n) (Unasked requests n) :=
  loadable_loadInvariant (unforeseen_requests requests)

theorem asked_bind {α : Type} {m : Esp α} {f : α → Esp Unit} {Q : α → Prop}
    (hm : Esp.Keeps (Unasked requests n) m Q)
    (hf : ∀ a, Q a → Triple (Unasked requests n) (f a).run fun _ => Asked requests request) :
    Triple (Unasked requests n) (m >>= f).run fun _ => Asked requests request := by
  rw [ExceptT.run_bind]
  refine Lib.Keeps.bindTriple hm fun r hr => ?_
  cases r with
  | error err => exact Triple.pure fun w hw => .inl hw.1
  | ok a => exact hf a (hr a rfl)

theorem espCall_asked :
    Triple (Unasked requests n) (espCall request).run fun _ => Asked requests request := by
  intro w hw
  unfold espCall
  rw [Esp.run_liftM_bind (m := hand request) (w := w) rfl,
    Esp.run_liftM_bind (m := stackOutcome) rfl]
  have hrequests : w.board.requests ++ [request] = requests ++ [request] := by rw [hw.1]
  cases w.stack.head with
  | none => exact .inr hrequests
  | some err => exact .inr hrequests

theorem executeCmdInvokeCommand_asked (destinationId : UInt64) (endpointId : UInt16)
    (clusterId commandId : UInt32) (payloadJson : CStr) :
    Triple (Unasked requests n)
      (executeCmdInvokeCommand destinationId endpointId clusterId commandId payloadJson).run
      fun _ => Asked requests
        (.invokeCluster destinationId endpointId clusterId commandId payloadJson) :=
  asked_bind (orFail_keeps unasked_loadInvariant.toUnforeseen _) fun _ _ => espCall_asked

theorem attributeCall_asked :
    Triple (Unasked requests n) (attributeCall request).run fun _ => Asked requests request := by
  have hI : Unforeseen (Unasked requests n) := unasked_loadInvariant.toUnforeseen
  refine asked_bind (mallocOrFail_keeps hI) fun _ _ => ?_
  refine asked_bind (orFail_keeps hI _) fun _ _ => ?_
  exact asked_bind (mallocOrFail_keeps hI) fun _ _ => espCall_asked

theorem executeAttrReadCommand_asked (nodeId : UInt64) (endpointId : UInt16)
    (clusterId attributeId : UInt32) :
    Triple (Unasked requests n)
      (executeAttrReadCommand nodeId endpointId clusterId attributeId).run
      fun _ => Asked requests (.readAttribute nodeId endpointId clusterId attributeId) :=
  attributeCall_asked

theorem executeAttrSubscribeCommand_asked (nodeId : UInt64) (endpointId : UInt16)
    (clusterId attributeId : UInt32) (minInterval maxInterval : UInt16) :
    Triple (Unasked requests n)
      (executeAttrSubscribeCommand nodeId endpointId clusterId attributeId minInterval
        maxInterval).run
      fun _ => Asked requests (.subscribeAttribute nodeId endpointId clusterId attributeId
        minInterval maxInterval true) :=
  attributeCall_asked

/-! ## Looking devices up -/

section Lookup

variable {s : RegistryStore} {deviceId : CStr}

/-- The comparison of the first 32 bytes is one of whole strings, since every stored id ends
within them. -/
theorem registered_eq (hread : n.read = .ok s) (hids : ∀ r ∈ s.devices, r.deviceId.Terminated) :
    registered n deviceId = deviceNamed s deviceId := by
  rw [registered, hread]
  show s.devices.find? _ = s.devices.find? _
  apply List.find?_congr
  intro r hr
  have hsame := CharArray.strncmpEq_iff_ofBytes (hids r hr) deviceId.bytes
  rw [CStr.ofBytes_bytes] at hsame
  rw [Bool.eq_iff_iff, decide_eq_true_eq]
  exact hsame

variable (hread : n.read = .ok s) (hids : ∀ r ∈ s.devices, r.deviceId.Terminated)

include hread hids

theorem deviceRegistryGetDevice_named :
    Esp.Keeps (Unasked requests n) (deviceRegistryGetDevice deviceId)
      fun r => deviceNamed s deviceId = some r := by
  refine (deviceRegistryGetDevice_keeps unasked_loadInvariant deviceId).weaken ?_
  rintro r ⟨t, ht, hfind⟩
  rw [← registered_eq hread hids]
  exact find?_of_loadable ht hfind

theorem deviceRegistryFindCapability_named (semantic : DeviceCapabilitySemanticType) :
    Esp.Keeps (Unasked requests n) (deviceRegistryFindCapability deviceId semantic)
      fun found => deviceNamed s deviceId = some found.1 ∧
        ((capabilitiesOf found.1).find? fun c => c.semanticType = semantic) = some found.2 := by
  apply Esp.Keeps.bind (deviceRegistryGetDevice_named hread hids)
  intro r hr
  cases hcapability : r.ofType semantic with
  | some capability => exact Esp.Keeps.pure ⟨hr, hcapability⟩
  | none => exact Esp.Keeps.throw

end Lookup

/-! ## Rules for the branches -/

theorem addressed_of_error {target : Option Request} {result : CommandExecutionResult} {w : World}
    {err : EspErr} (hw : Unasked requests n w) (herr : result.err = .error err) :
    Addressed p target requests result w where
  handed := .inl hw.1
  refused _ := ⟨hw.1, fun requestId action =>
    ⟨_, commandResultObject_failure p requestId action herr, rfl, rfl⟩⟩

/-- A branch goes on with what it looked up. -/
theorem onOk_lookup {α : Type} {op : Esp α} {Q : α → Prop} {message : Option String}
    {next : α → Handler CommandExecutionResult} {target : Option Request}
    (hop : Esp.Keeps (Unasked requests n) op Q)
    (hnext : ∀ a, Q a → Triple (Unasked requests n) (next a) (Addressed p target requests)) :
    Triple (Unasked requests n) (onOk op message next) (Addressed p target requests) := by
  refine Lib.Keeps.bindTriple hop fun r hr => ?_
  cases r with
  | error err => exact Triple.pure fun w hw => addressed_of_error hw rfl
  | ok a => exact hnext a (hr a rfl)

/-- A branch ends with its request and a payload that is built afterwards. -/
theorem onOk_ask {op : Esp Unit} {out : Alloc (Option Json)} {message : String}
    (hop : Triple (Unasked requests n) op.run fun _ => Asked requests request) :
    Triple (Unasked requests n) (onOk op none fun _ => reply out message)
      (Addressed p (some request) requests) := by
  have haddressed : ∀ result w, Asked requests request w →
      Addressed p (some request) requests result w := by
    intro result w hw
    constructor
    · exact hw.imp_right fun hone => ⟨request, rfl, hone⟩
    · exact nofun
  refine Triple.bind hop fun r => ?_
  cases r with
  | error err => exact Triple.pure fun w hw => haddressed _ w hw
  | ok _ => exact fun w hw => haddressed _ _ hw

/-! ## The branches -/

section Branches

variable {s : RegistryStore} {payload : Json} (hread : n.read = .ok s)
  (hids : ∀ r ∈ s.devices, r.deviceId.Terminated)

include hread hids

theorem deviceSemanticRead_addressed (semantic : DeviceCapabilitySemanticType) :
    Triple (Unasked requests n) (deviceSemanticRead semantic payload)
      (Addressed p (SemanticCommand.readTarget semantic payload s) requests) := by
  unfold deviceSemanticRead
  rw [requiredStringField_eq_namedDevice]
  cases hdeviceId : namedDevice payload with
  | none => exact Triple.pure fun w hw => addressed_of_error hw rfl
  | some deviceId =>
      refine onOk_lookup (deviceRegistryFindCapability_named hread hids semantic) ?_
      rintro ⟨record, capability⟩ ⟨hrecord, hcapability⟩
      have htarget : SemanticCommand.readTarget semantic payload s =
          some (.readAttribute record.nodeId capability.endpointId capability.clusterId
            capability.attributeId) := by
        simp [SemanticCommand.readTarget, hdeviceId, hrecord, hcapability]
      rw [htarget]
      exact onOk_ask (executeAttrReadCommand_asked _ _ _ _)

theorem deviceRelaySet_addressed :
    Triple (Unasked requests n) (deviceRelaySet payload)
      (Addressed p (SemanticCommand.relayTarget payload s) requests) := by
  unfold deviceRelaySet
  rw [requiredStringField_eq_namedDevice]
  split
  · next deviceId on hdeviceId hon =>
    refine onOk_lookup (deviceRegistryFindCapability_named hread hids .relay) ?_
    rintro ⟨record, capability⟩ ⟨hrecord, hcapability⟩
    have htarget : SemanticCommand.relayTarget payload s =
        some (.invokeCluster record.nodeId capability.endpointId capability.clusterId
          (if on then 1 else 0) (CStr.lit "\x7b\x7d")) := by
      simp [SemanticCommand.relayTarget, hdeviceId, hon, hrecord, hcapability]
    rw [htarget]
    exact onOk_ask (executeCmdInvokeCommand_asked _ _ _ _ _)
  · exact Triple.pure fun w hw => addressed_of_error hw rfl

theorem deviceAttribute_addressed (subscribe : Bool) :
    Triple (Unasked requests n) (deviceAttribute subscribe payload)
      (Addressed p (SemanticCommand.attributeTarget subscribe payload s) requests) := by
  unfold deviceAttribute
  rw [requiredStringField_eq_namedDevice]
  split
  · next deviceId path hdeviceId hpath =>
    refine onOk_lookup (deviceRegistryGetDevice_named hread hids) ?_
    intro record hrecord
    cases subscribe with
    | true =>
        rw [if_pos rfl]
        cases hintervals : intervals payload with
        | none => exact Triple.pure fun w hw => addressed_of_error hw rfl
        | some interval =>
            have htarget : SemanticCommand.attributeTarget true payload s =
                some (.subscribeAttribute record.nodeId (castUint16 path.endpointId)
                  (castUint32 path.clusterId) (castUint32 path.attributeId)
                  (castUint16 interval.1) (castUint16 interval.2) true) := by
              simp [SemanticCommand.attributeTarget, hdeviceId, hpath, hrecord, hintervals]
            rw [htarget]
            exact onOk_ask (executeAttrSubscribeCommand_asked _ _ _ _ _ _)
    | false =>
        have htarget : SemanticCommand.attributeTarget false payload s =
            some (.readAttribute record.nodeId (castUint16 path.endpointId)
              (castUint32 path.clusterId) (castUint32 path.attributeId)) := by
          simp [SemanticCommand.attributeTarget, hdeviceId, hpath, hrecord]
        rw [if_neg Bool.false_ne_true, htarget]
        exact onOk_ask (executeAttrReadCommand_asked _ _ _ _)
  · exact Triple.pure fun w hw => addressed_of_error hw rfl

end Branches

theorem SemanticCommand.mem_branches (command : SemanticCommand) (cfg : Config) (p : Platform) :
    command.branch ∈ branches cfg p := by
  apply mem_branches_of_device
  cases command <;> simp [SemanticCommand.branch, deviceBranches]

theorem SemanticCommand.branch_addressed (command : SemanticCommand) (payload : Json) {w : World}
    {s : RegistryStore} (hread : w.board.registry.read = .ok s)
    (hids : ∀ r ∈ s.devices, r.deviceId.Terminated) :
    Addressed p (command.target payload s) w.board.requests (command.branch.2 payload w).1
      (command.branch.2 payload w).2 := by
  have hw : Unasked w.board.requests w.board.registry w := ⟨rfl, rfl⟩
  cases command with
  | temperatureRead => exact deviceSemanticRead_addressed hread hids .temperature w hw
  | pressureRead => exact deviceSemanticRead_addressed hread hids .pressure w hw
  | relaySet => exact deviceRelaySet_addressed hread hids w hw
  | attributeRead => exact deviceAttribute_addressed hread hids false w hw
  | attributeSubscribe => exact deviceAttribute_addressed hread hids true w hw

/-- Whatever the outcomes of the calls, a semantic command hands over at most one request,
to the node and the capability that are registered under exactly its device, and without
them it hands over nothing and is answered with `ok: false`. -/
theorem semanticCommand_addressed (cfg : Config) (p : Platform) (command : SemanticCommand)
    (payload : Json) {w : World} {s : RegistryStore} (hread : w.board.registry.read = .ok s)
    (hids : ∀ r ∈ s.devices, r.deviceId.Terminated) :
    Addressed p (command.target payload s) w.board.requests
      (processCommandMessage cfg p (CStr.lit command.branch.1) payload w).1
      (processCommandMessage cfg p (CStr.lit command.branch.1) payload w).2 := by
  rw [processCommandMessage_of_mem (command.mem_branches cfg p)]
  exact command.branch_addressed payload hread hids

/-- The vent of the greenhouse is the second capability, behind its air sensor. -/
def ventOn : Json :=
  .object [(CStr.lit "device_id", .string (CStr.lit "node-7")), (CStr.lit "on", .bool true)]

theorem semanticCommand_addressed_vent :
    Addressed (Platform.parsing "null" .null) (some (.invokeCluster 7 2 6 1 (CStr.lit "\x7b\x7d")))
      []
      (processCommandMessage Config.full (Platform.parsing "null" .null)
        (CStr.lit "device.relay.set") ventOn
        (World.calm (Board.erased.withStore (singleStore greenhouse)))).1
      (processCommandMessage Config.full (Platform.parsing "null" .null)
        (CStr.lit "device.relay.set") ventOn
        (World.calm (Board.erased.withStore (singleStore greenhouse)))).2 := by
  have hread : (Board.erased.withStore (singleStore greenhouse)).registry.read =
      .ok (singleStore greenhouse) := read_withStore (accepted_singleStore (by decide))
  have hids : ∀ r ∈ (singleStore greenhouse).devices, r.deviceId.Terminated := by
    rw [devices_singleStore]
    intro r hr
    rw [List.mem_singleton.mp hr]
    decide
  have htarget : SemanticCommand.relaySet.target ventOn (singleStore greenhouse) =
      some (.invokeCluster 7 2 6 1 (CStr.lit "\x7b\x7d")) := by
    decide +kernel
  rw [← htarget]
  exact semanticCommand_addressed Config.full (Platform.parsing "null" .null) .relaySet
    ventOn (w := World.calm (Board.erased.withStore (singleStore greenhouse))) hread hids

/-- The request is handed over. -/
example : (processCommandMessage Config.full (Platform.parsing "null" .null)
    (CStr.lit "device.relay.set") ventOn
    (World.calm (Board.erased.withStore (singleStore greenhouse)))).2.board.requests =
      [.invokeCluster 7 2 6 1 (CStr.lit "\x7b\x7d")] := by
  decide +kernel

end Orchestrator.Messages
