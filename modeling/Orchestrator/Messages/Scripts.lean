import Mathlib.Data.List.Forall2
import Orchestrator.Commands.Scripts
import Orchestrator.Messages.Strings
import Orchestrator.Registry.Directory

/-!
# The script of each command

What an action hands to the Thread, Wi-Fi and Matter stacks when nothing fails, as its payload
and the board say. Whatever fails, the command hands over a prefix of it, and it succeeds only
after the whole of it.
-/

namespace Orchestrator.Messages

open Lib Handler Registry State Commands Alloc

/-- The requests of a command with this payload, on this board. -/
abbrev Script := Json → Board → List Request

/-- No requests where a field of the payload is missing. -/
def requests (found : Option (List Request)) : List Request := found.getD []

/-- The script of a command that asks no stack for anything. -/
def silent : Script := fun _ _ => []

/-! ## Thread and Wi-Fi -/

def datasetScript (p : Platform) : Script := fun payload _ =>
  Option.toList do
    let channel ← requiredNumberField payload "channel"
    let panId ← requiredNumberField payload "pan_id"
    let texts ← threadDatasetTexts payload
    let dataset ← parseDataset p (castUint16 channel) (castUint16 panId) texts
    return .datasetSetActive dataset

def threadScripts (cfg : Config) (p : Platform) : List (String × Script) :=
  [("thread.enable", fun _ _ => [.ip6SetEnabled true, .threadSetEnabled true]),
   ("thread.disable", fun _ _ => [.threadSetEnabled false, .ip6SetEnabled false]),
   ("thread.dataset.init", datasetScript p),
   ("thread.status_get", silent),
   ("thread.attached_get", silent),
   ("thread.role_get", silent),
   ("thread.active_dataset_get", silent),
   ("thread.unicast_addresses_get", silent),
   ("thread.multicast_addresses_get", silent)] ++
  (if cfg.openthreadBorderRouter then [("thread.br_init", fun _ _ => [.borderRouterInit])]
  else []) ++
  [("thread.br_deinit", fun _ _ => [.borderRouterDeinit])]

/-- The old connection is ended before the station is configured anew. -/
def staConnectScript : Script := fun payload _ =>
  requests do
    let ssid ← requiredStringField payload "ssid"
    let password ← requiredStringField payload "password"
    return [.wifiDisconnect, .wifiSetConfig (ssid.take 31) (password.take 63), .wifiConnect]

/-! ## Devices -/

/-- The first capability of the type, of the device that the payload names. -/
def capabilityOf (semantic : DeviceCapabilitySemanticType) (payload : Json) (b : Board) :
    Option (DeviceRecord × DeviceCapability) := do
  let deviceId ← requiredStringField payload "device_id"
  let record ← registered b.registry deviceId
  let capability ← (capabilitiesOf record).find? fun c => c.semanticType = semantic
  return (record, capability)

def semanticReadScript (semantic : DeviceCapabilitySemanticType) : Script := fun payload b =>
  Option.toList do
    let (record, capability) ← capabilityOf semantic payload b
    return .readAttribute record.nodeId capability.endpointId capability.clusterId
      capability.attributeId

def relayScript : Script := fun payload b =>
  Option.toList do
    let on ← Json.bool? (payload.getObjectItem (CStr.lit "on"))
    let (record, capability) ← capabilityOf .relay payload b
    return .invokeCluster record.nodeId capability.endpointId capability.clusterId
      (if on then 1 else 0) (CStr.lit "\x7b\x7d")

/-- The request about an attribute of the node. -/
def attributeRequest (subscribe : Bool) (payload : Json) (nodeId : UInt64) : Option Request := do
  let path ← attributePath payload
  if subscribe then
    let interval ← intervals payload
    return .subscribeAttribute nodeId (castUint16 path.endpointId) (castUint32 path.clusterId)
      (castUint32 path.attributeId) (castUint16 interval.1) (castUint16 interval.2) true
  else
    return .readAttribute nodeId (castUint16 path.endpointId) (castUint32 path.clusterId)
      (castUint32 path.attributeId)

def deviceAttributeScript (subscribe : Bool) : Script := fun payload b =>
  Option.toList do
    let deviceId ← requiredStringField payload "device_id"
    let record ← registered b.registry deviceId
    attributeRequest subscribe payload record.nodeId

def deviceScripts : List (String × Script) :=
  [("chamber.status_get", silent),
   ("device.list", silent),
   ("device.get", silent),
   ("device.remove", silent),
   ("device.rename", silent),
   ("device.capability.add", silent),
   ("device.temperature.read", semanticReadScript .temperature),
   ("device.pressure.read", semanticReadScript .pressure),
   ("device.attribute.read", deviceAttributeScript false),
   ("device.attribute.subscribe", deviceAttributeScript true),
   ("device.relay.set", relayScript)]

/-! ## Matter -/

def controllerInitScript (cfg : Config) (p : Platform) : Script := fun payload _ =>
  requests do
    let nodeId ← requiredUint64StringField payload "node_id"
    let fabricId ← requiredNumberField payload "fabric_id"
    let listenPort ← requiredNumberField payload "listen_port"
    return controllerScript cfg nodeId (p.uint64OfDouble fabricId) (castUint16 listenPort)

/-- The node is given the active dataset of the border router. -/
def pairingScript : Script := fun payload b =>
  Option.toList do
    let nodeId ← requiredUint64StringField payload "node_id"
    let pin ← requiredUint32StringField payload "setup_code"
    let discriminator ← requiredUint16StringField payload "discriminator"
    let tlvs ← b.openThread.activeDatasetTlvs
    return .pairingBleThread nodeId pin discriminator tlvs

def invokeScript : Script := fun payload _ =>
  Option.toList do
    let destinationId ← requiredUint64StringField payload "destination_id"
    let path ← commandPath payload
    let data ← requiredStringField payload "command_data"
    return .invokeCluster destinationId (castUint16 path.endpointId) (castUint32 path.clusterId)
      (castUint32 path.commandId) data

def matterAttributeScript (subscribe : Bool) : Script := fun payload _ =>
  Option.toList do
    let nodeId ← requiredUint64StringField payload "node_id"
    attributeRequest subscribe payload nodeId

def matterScripts (cfg : Config) (p : Platform) : List (String × Script) :=
  [("matter.controller_init", controllerInitScript cfg p),
   ("matter.pair_ble_thread", pairingScript),
   ("matter.cluster_command_invoke", invokeScript),
   ("matter.attribute_read", matterAttributeScript false),
   ("matter.attribute_subscribe", matterAttributeScript true)]

def scripts (cfg : Config) (p : Platform) : List (String × Script) :=
  (if cfg.openthreadEnabled then threadScripts cfg p else []) ++
  (if cfg.enableWifiStation then [("wifi.sta_connect", staConnectScript)] else []) ++
  deviceScripts ++ matterScripts cfg p

/-- The script of an action; an unknown one asks for nothing. -/
def scriptOf (cfg : Config) (p : Platform) (action : CStr) : Script :=
  match (scripts cfg p).find? fun script => CStr.lit script.1 = action with
  | some script => script.2
  | none => silent

/-! ## Branches -/

/-- Where `B` holds, the branch hands over a prefix of the script, and the whole script when
its result is `ESP_OK`. -/
def Obeys (B : Board → Prop) (script : List Request) (m : Handler CommandExecutionResult) :
    Prop :=
  Logs (fun w => B w.board) handed m fun result made =>
    made <+: script ∧ (result.err = .ok ⟨⟩ → made = script)

section Rules

variable {B : Board → Prop} {script rest : List Request} {R : Unit → Prop} {α : Type}
  {op : Esp α} {Q : α → Prop} {message : Option String}

theorem obeys_failed {result : CommandExecutionResult} {err : EspErr}
    (h : result.err = .error err) : Obeys B script (pure result) := by
  apply Logs.pure
  refine ⟨List.nil_prefix, fun hok => ?_⟩
  cases hok.symm.trans h

theorem obeys_report {op : Esp Unit} (h : Follows (fun w => B w.board) handed script op R) :
    Obeys B script (report op) := by
  apply Logs.bind h
  rintro err made ⟨hbegins, hok⟩
  apply Logs.pure
  rw [List.append_nil]
  exact ⟨hbegins, fun herr => (hok ⟨⟩ herr).1⟩

theorem obeys_onOk {next : α → Handler CommandExecutionResult}
    (h : Follows (fun w => B w.board) handed script op Q)
    (hnext : ∀ a, Q a → Obeys B rest (next a)) :
    Obeys B (script ++ rest) (onOk op message next) := by
  apply Logs.bind h
  rintro (err | a) made ⟨hbegins, hok⟩
  · apply Logs.pure
    rw [List.append_nil]
    exact ⟨hbegins.trans (List.prefix_append script rest), nofun⟩
  · obtain ⟨rfl, ha⟩ := hok a rfl
    refine (hnext a ha).weaken fun result more hmore => ⟨?_, fun herr => ?_⟩
    · exact (List.prefix_append_right_inj made).mpr hmore.1
    · rw [hmore.2 herr]

/-- Building a payload hands nothing over. -/
theorem obeys_built (out : Alloc (Option Json)) (text : String) :
    Obeys B [] (reply out text) := by
  rintro done w ⟨rfl, hw⟩
  exact ⟨hw, [], (List.append_nil _).symm, List.prefix_rfl, fun _ => rfl⟩

theorem obeys_silent {m : Handler CommandExecutionResult}
    (h : ∀ done, Keeps (fun w => handed w = done ∧ B w.board) m fun _ => True) :
    Obeys B [] m := by
  refine (Logs.of_keeps h).weaken ?_
  rintro result _ ⟨rfl, -⟩
  exact ⟨List.prefix_rfl, fun _ => rfl⟩

/-- A branch goes on with what it has read. -/
theorem obeys_read {next : α → Handler CommandExecutionResult}
    (h : ∀ done, Esp.Keeps (fun w => handed w = done ∧ B w.board) op Q)
    (hnext : ∀ a, Q a → Obeys B script (next a)) : Obeys B script (onOk op message next) :=
  obeys_onOk (.of_keeps h) hnext

end Rules

section Attributes

variable {B : Board → Prop} (hI : CallInvariant fun w => B w.board) {payload : Json}
  {path : AttributePath} (hpath : attributePath payload = some path)

include hI hpath

theorem readAttribute_obeys (nodeId : UInt64) (out : Alloc (Option Json)) (text : String) :
    Obeys B (attributeRequest false payload nodeId).toList
      (onOk (readAttribute nodeId path) none fun _ => reply out text) := by
  have hrequest : attributeRequest false payload nodeId =
      some (.readAttribute nodeId (castUint16 path.endpointId) (castUint32 path.clusterId)
        (castUint32 path.attributeId)) := by simp [attributeRequest, hpath]
  rw [hrequest]
  exact obeys_onOk (attributeCall_follows hI _) fun _ _ => obeys_built _ _

theorem subscribeAttribute_obeys {interval : ℚ × ℚ} (hintervals : intervals payload = some interval)
    (nodeId : UInt64) (out : Alloc (Option Json)) (text : String) :
    Obeys B (attributeRequest true payload nodeId).toList
      (onOk (subscribeAttribute nodeId path interval) none fun _ => reply out text) := by
  have hrequest : attributeRequest true payload nodeId =
      some (.subscribeAttribute nodeId (castUint16 path.endpointId) (castUint32 path.clusterId)
        (castUint32 path.attributeId) (castUint16 interval.1) (castUint16 interval.2) true) := by
    simp [attributeRequest, hpath, hintervals]
  rw [hrequest]
  exact obeys_onOk (attributeCall_follows hI _) fun _ _ => obeys_built _ _

end Attributes

/-- The branch obeys its script on every board. -/
def FollowsScript (branch : CommandHandler) (script : Script) : Prop :=
  ∀ payload b, ∃ B : Board → Prop, B b ∧ Obeys B (script payload b) (branch payload)

/-! ### Commands that leave OpenThread as it is -/

section Thread

variable {p : Platform} {b : Board}

/-- OpenThread is as on this board. -/
def SameThread (b b' : Board) : Prop := b'.openThread = b.openThread

theorem sameThread_callInvariant (b : Board) : CallInvariant fun w => SameThread b w.board where
  toUnforeseenNvs := unforeseen_board (SameThread b)
  request _ _ h := h

theorem sameThread_storeInvariant (b : Board) (done : List Request) :
    StoreInvariant (fun _ => True) fun w => handed w = done ∧ SameThread b w.board := by
  apply StoreInvariant.of_flash (B := fun _ => True) ((sameThread_callInvariant b).done done)
  · exact fun w _ => RegistryNvs.all_true w.board.registry
  · exact fun _ _ hw _ => hw
  · exact fun _ _ _ hw => hw
  · exact fun _ _ => trivial
  · exact fun _ _ => trivial
  · trivial

theorem follows_silent {branch : CommandHandler}
    (h : ∀ payload b, Obeys (SameThread b) [] (branch payload)) : FollowsScript branch silent :=
  fun payload b => ⟨SameThread b, rfl, h payload b⟩

/-- A question to OpenThread, the answer to which is the payload. -/
theorem query_follows {α : Type} {err : EspErr} {f : OpenThread → Esp α}
    {out : α → Alloc (Option Json)} {text : String}
    (hf : ∀ I o, Unforeseen I → Esp.Keeps I (f o) fun _ => True) :
    FollowsScript (fun _ => onOk (requireInstance err >>= f) none fun a => reply (out a) text)
      silent := by
  refine follows_silent fun _ b => obeys_read (Q := fun _ => True) (fun done => ?_)
    fun a _ => obeys_built _ _
  apply Esp.Keeps.bind (requireInstance_keeps (Q := fun _ => True) (fun _ _ => trivial) err)
  exact fun o _ => hf _ o ((sameThread_callInvariant b).done done).toUnforeseen

theorem threadDatasetInitBranch_follows :
    FollowsScript (threadDatasetInitBranch p) (datasetScript p) := by
  intro payload b
  refine ⟨SameThread b, rfl, ?_⟩
  unfold threadDatasetInitBranch datasetScript
  split
  · next channel panId texts hchannel hpanId htexts =>
    have hscript := threadDatasetInit_follows (sameThread_callInvariant b) p
      (castUint16 channel) (castUint16 panId) texts
    simp only [hchannel, hpanId, htexts, Option.bind_eq_bind, Option.bind_some]
    simpa [Option.map_eq_bind, Function.comp_def] using obeys_report hscript
  · exact obeys_failed rfl

theorem threadStatusGet_follows : FollowsScript threadStatusGet silent :=
  query_follows fun _ _ _ => Esp.Keeps.pure trivial

theorem threadAttachedGet_follows : FollowsScript threadAttachedGet silent :=
  query_follows fun _ _ _ => Esp.Keeps.pure trivial

theorem threadRoleGet_follows : FollowsScript (threadRoleGet p) silent :=
  query_follows fun _ _ _ => Esp.Keeps.pure trivial

theorem threadActiveDatasetGet_follows : FollowsScript threadActiveDatasetGet silent := by
  refine query_follows fun _ o _ => ?_
  cases o.activeDataset with
  | some dataset => exact Esp.Keeps.pure trivial
  | none => exact Esp.Keeps.throw

theorem threadAddressesGet_follows (name : CStr) (addresses : OpenThread → List CStr) :
    FollowsScript (threadAddressesGet name addresses) silent :=
  query_follows fun _ _ hI => (duplicateAddresses_keeps hI _).weaken fun _ _ => trivial

theorem wifiStaConnectBranch_follows : FollowsScript wifiStaConnectBranch staConnectScript := by
  intro payload b
  refine ⟨SameThread b, rfl, ?_⟩
  unfold wifiStaConnectBranch staConnectScript
  split
  · next ssid password hssid hpassword =>
    simp only [hssid, hpassword, Option.bind_eq_bind, Option.bind_some]
    exact obeys_report
      (wifiStaConnect_follows (sameThread_callInvariant b) (fun _ _ h => h) ssid password)
  · exact obeys_failed rfl

/-! ### Commands about the registry -/

theorem chamberStatusGet_follows : FollowsScript chamberStatusGet silent := by
  refine follows_silent fun _ b => ?_
  rintro done w ⟨rfl, hw⟩
  exact ⟨hw, [], (List.append_nil _).symm, List.prefix_rfl, fun _ => rfl⟩

theorem deviceList_follows : FollowsScript deviceList silent := by
  refine follows_silent fun _ b => obeys_silent fun done => ?_
  apply Keeps.bind (deviceRegistryToJson_keeps
    (sameThread_storeInvariant b done).toLoadInvariant (P := fun _ => True) texts_true
    fun s _ r _ => ?_)
  · exact fun _ _ => Keeps.pure trivial
  · exact ⟨trivial, trivial, trivial, trivial, fun _ _ => ⟨trivial, trivial⟩⟩

theorem deviceGet_follows : FollowsScript deviceGet silent := by
  refine follows_silent fun payload b => ?_
  unfold deviceGet
  split
  · exact obeys_failed rfl
  · refine obeys_read (Q := fun _ => True) (fun done => ?_) fun _ _ => obeys_built _ _
    exact (deviceRegistryGetDevice_keeps
      (sameThread_storeInvariant b done).toLoadInvariant _).weaken fun _ _ => trivial

theorem deviceRemove_follows : FollowsScript deviceRemove silent := by
  refine follows_silent fun payload b => ?_
  unfold deviceRemove
  split
  · exact obeys_failed rfl
  · refine obeys_report (R := fun _ => True) (.of_keeps fun done => ?_)
    exact deviceRegistryRemoveDevice_keeps (sameThread_storeInvariant b done)
      fun _ _ _ _ => trivial

theorem deviceRename_follows : FollowsScript deviceRename silent := by
  refine follows_silent fun payload b => ?_
  unfold deviceRename
  split
  · refine obeys_report (R := fun _ => True) (.of_keeps fun done => ?_)
    exact deviceRegistryRenameDevice_keeps (sameThread_storeInvariant b done)
      fun _ _ _ _ => trivial
  · exact obeys_failed rfl

theorem upsert_sameThread (b : Board) (record : DeviceRecord) (done : List Request) :
    Esp.Keeps (fun w => handed w = done ∧ SameThread b w.board)
      (deviceRegistryUpsertDevice record) fun _ => True :=
  deviceRegistryUpsertDevice_keeps (sameThread_storeInvariant b done) (fun _ _ _ _ => trivial)
    fun _ _ _ _ => trivial

theorem addCapabilityCommand_follows : FollowsScript addCapabilityCommand silent := by
  refine follows_silent fun payload b => obeys_silent fun done => ?_
  have hstore := sameThread_storeInvariant b done
  apply addCapabilityCommand_rule (D := fun _ _ => True) (fun _ _ _ => trivial)
  · exact fun _ => (deviceRegistryGetDevice_keeps hstore.toLoadInvariant _).weaken
      fun _ _ => trivial
  · exact fun fields semantic record updated _ _ =>
      storeCapability_keeps hstore.toUnforeseen (upsert_sameThread b updated done) _

/-! ### Matter -/

theorem matterControllerInitBranch_follows (cfg : Config) :
    FollowsScript (matterControllerInitBranch cfg p) (controllerInitScript cfg p) := by
  intro payload b
  refine ⟨SameThread b, rfl, ?_⟩
  have hannounce : ∀ done, Esp.Keeps (fun w => handed w = done ∧ SameThread b w.board)
      (do
        modifyBoard fun b => { b with state := b.state.setMatterControllerInitialized true }
        ignore (orchestratorStateBroadcastEvent (CStr.lit "matter.controller_initialized") none)
        ignore orchestratorStateBroadcastSnapshot : Esp Unit) fun _ => True := by
    intro done
    have hstore := sameThread_storeInvariant b done
    apply Esp.Keeps.bind (Esp.Keeps.lift (modifyBoard_keeps fun _ hw => hw))
    exact fun _ _ => Esp.Keeps.bind (hstore.event _).ignore fun _ _ => hstore.snapshot.ignore
  unfold matterControllerInitBranch controllerInitScript
  split
  · next nodeId fabricId listenPort hnodeId hfabricId hlistenPort =>
    have hinit := matterControllerInit_follows (sameThread_callInvariant b) cfg nodeId
      (p.uint64OfDouble fabricId) (castUint16 listenPort)
    have hcommand := hinit.bind fun _ _ => Follows.of_keeps hannounce
    rw [List.append_nil] at hcommand
    simp only [hnodeId, hfabricId, hlistenPort, Option.bind_eq_bind, Option.bind_some]
    exact obeys_report hcommand
  · exact obeys_failed rfl

theorem activeDatasetTlvs_follows (b : Board) :
    Follows (fun w => SameThread b w.board) handed [] threadGetActiveDatasetTlvs
      fun tlvs => b.openThread.activeDatasetTlvs = some tlvs := by
  have hinstance : Follows (fun w => SameThread b w.board) handed []
      (requireInstance EspErr.invalidState) fun o => o = b.openThread :=
    requireInstance_follows (I := fun w => SameThread b w.board) (fun _ hw => hw) _
  refine hinstance.bind fun o ho => ?_
  subst ho
  cases htlvs : b.openThread.activeDatasetTlvs with
  | none => exact .throw
  | some tlvs =>
      dsimp only
      split
      · exact .throw
      · exact .pure rfl

theorem matterPairBleThread_follows : FollowsScript matterPairBleThread pairingScript := by
  intro payload b
  refine ⟨SameThread b, rfl, ?_⟩
  unfold matterPairBleThread pairingScript
  split
  · next nodeId pin discriminator hnodeId hpin hdiscriminator =>
    have hscript : Follows (fun w => SameThread b w.board) handed
        (b.openThread.activeDatasetTlvs.map
          (Request.pairingBleThread nodeId pin discriminator)).toList
        (executeMatterPairBleThreadCommand nodeId pin discriminator) fun _ => True := by
      have hI := sameThread_callInvariant b
      refine (mallocOrFail_follows hI).bind fun _ _ => ?_
      refine (activeDatasetTlvs_follows b).bind fun tlvs htlvs => ?_
      rw [htlvs]
      refine (espCall_follows hI _).bind fun _ _ => ?_
      exact .of_keeps fun done => (upsert_sameThread b (pairedRecord nodeId) done).ignore
    simp only [hnodeId, hpin, hdiscriminator, Option.bind_eq_bind, Option.bind_some]
    simpa [Option.map_eq_bind, Function.comp_def] using obeys_report hscript
  · exact obeys_failed rfl

theorem matterClusterCommandInvoke_follows :
    FollowsScript matterClusterCommandInvoke invokeScript := by
  intro payload b
  refine ⟨SameThread b, rfl, ?_⟩
  unfold matterClusterCommandInvoke invokeScript
  split
  · next destinationId path data hdestination hpath hdata =>
    simp only [hdestination, hpath, hdata, Option.bind_eq_bind, Option.bind_some]
    exact obeys_report (executeCmdInvokeCommand_follows (sameThread_callInvariant b) _ _ _ _ _)
  · exact obeys_failed rfl

theorem matterAttribute_follows (subscribe : Bool) :
    FollowsScript (matterAttribute subscribe) (matterAttributeScript subscribe) := by
  intro payload b
  refine ⟨SameThread b, rfl, ?_⟩
  have hI := sameThread_callInvariant b
  unfold matterAttribute matterAttributeScript
  split
  · next nodeId path hnodeId hpath =>
    simp only [hnodeId, Option.bind_eq_bind, Option.bind_some]
    cases subscribe with
    | false => exact readAttribute_obeys hI hpath nodeId _ _
    | true =>
        rw [if_pos rfl]
        cases hintervals : intervals payload with
        | none => exact obeys_failed rfl
        | some interval => exact subscribeAttribute_obeys hI hpath hintervals nodeId _ _
  · exact obeys_failed rfl

end Thread

/-! ### Commands about registered devices -/

section Devices

variable {b : Board}

/-- The registry is as on this board. -/
def SameRegistry (b b' : Board) : Prop := b'.registry = b.registry

theorem sameRegistry_callInvariant (b : Board) :
    CallInvariant fun w => SameRegistry b w.board where
  toUnforeseenNvs := unforeseen_board (SameRegistry b)
  request _ _ h := h

theorem getDevice_sameRegistry (b : Board) (deviceId : CStr) (done : List Request) :
    Esp.Keeps (fun w => handed w = done ∧ SameRegistry b w.board)
      (deviceRegistryGetDevice deviceId) fun r => registered b.registry deviceId = some r := by
  have hload : LoadInvariant (Loadable b.registry)
      fun w => handed w = done ∧ SameRegistry b w.board :=
    loadable_loadInvariant (unforeseen_board fun b => b.requests = done)
  refine (deviceRegistryGetDevice_keeps hload deviceId).weaken ?_
  rintro r ⟨t, ht, hfind⟩
  exact find?_of_loadable ht hfind

theorem findCapability_sameRegistry (b : Board) (deviceId : CStr)
    (semantic : DeviceCapabilitySemanticType) (done : List Request) :
    Esp.Keeps (fun w => handed w = done ∧ SameRegistry b w.board)
      (deviceRegistryFindCapability deviceId semantic) fun found =>
        registered b.registry deviceId = some found.1 ∧
          ((capabilitiesOf found.1).find? fun c => c.semanticType = semantic) = some found.2 := by
  apply Esp.Keeps.bind (getDevice_sameRegistry b deviceId done)
  intro r hr
  cases hcapability : r.ofType semantic with
  | some capability => exact Esp.Keeps.pure ⟨hr, hcapability⟩
  | none => exact Esp.Keeps.throw

theorem deviceSemanticRead_follows (semantic : DeviceCapabilitySemanticType) :
    FollowsScript (deviceSemanticRead semantic) (semanticReadScript semantic) := by
  intro payload b
  refine ⟨SameRegistry b, rfl, ?_⟩
  unfold deviceSemanticRead semanticReadScript
  split
  · exact obeys_failed rfl
  · next deviceId hdeviceId =>
    refine obeys_read (findCapability_sameRegistry b deviceId semantic) ?_
    rintro ⟨record, capability⟩ ⟨hrecord, hcapability⟩
    have hfound : capabilityOf semantic payload b = some (record, capability) := by
      simp [capabilityOf, hdeviceId, hrecord, hcapability]
    rw [hfound]
    exact obeys_onOk (attributeCall_follows (sameRegistry_callInvariant b) _)
      fun _ _ => obeys_built _ _

theorem deviceRelaySet_follows : FollowsScript deviceRelaySet relayScript := by
  intro payload b
  refine ⟨SameRegistry b, rfl, ?_⟩
  unfold deviceRelaySet relayScript
  split
  · next deviceId on hdeviceId hon =>
    refine obeys_read (findCapability_sameRegistry b deviceId .relay) ?_
    rintro ⟨record, capability⟩ ⟨hrecord, hcapability⟩
    have hfound : capabilityOf .relay payload b = some (record, capability) := by
      simp [capabilityOf, hdeviceId, hrecord, hcapability]
    rw [hon, hfound]
    exact obeys_onOk
      (executeCmdInvokeCommand_follows (sameRegistry_callInvariant b) _ _ _ _ _)
      fun _ _ => obeys_built _ _
  · exact obeys_failed rfl

theorem deviceAttribute_follows (subscribe : Bool) :
    FollowsScript (deviceAttribute subscribe) (deviceAttributeScript subscribe) := by
  intro payload b
  refine ⟨SameRegistry b, rfl, ?_⟩
  have hI := sameRegistry_callInvariant b
  unfold deviceAttribute deviceAttributeScript
  split
  · next deviceId path hdeviceId hpath =>
    refine obeys_read (getDevice_sameRegistry b deviceId) fun record hrecord => ?_
    simp only [hdeviceId, hrecord, Option.bind_eq_bind, Option.bind_some]
    cases subscribe with
    | false => exact readAttribute_obeys hI hpath record.nodeId _ _
    | true =>
        rw [if_pos rfl]
        cases hintervals : intervals payload with
        | none => exact obeys_failed rfl
        | some interval => exact subscribeAttribute_obeys hI hpath hintervals record.nodeId _ _
  · exact obeys_failed rfl

end Devices

/-! ## The table of scripts -/

/-- A branch and a script under one name, of which the branch obeys the script. -/
def Matches (branch : String × CommandHandler) (script : String × Script) : Prop :=
  branch.1 = script.1 ∧ FollowsScript branch.2 script.2

section Table

variable {cfg : Config} {p : Platform}

theorem report_follows {op : Esp Unit} {script : List Request}
    (h : ∀ b, Follows (fun w => SameThread b w.board) handed script op fun _ => True) :
    FollowsScript (fun _ => report op) fun _ _ => script :=
  fun _ b => ⟨SameThread b, rfl, obeys_report (h b)⟩

theorem threadBranches_match :
    List.Forall₂ Matches (threadBranches cfg p) (threadScripts cfg p) := by
  have hcall : ∀ request : Request,
      FollowsScript (fun _ => report (espCall request)) fun _ _ => [request] :=
    fun request => report_follows fun b => espCall_follows (sameThread_callInvariant b) request
  have hborder : List.Forall₂ Matches
      (if cfg.openthreadBorderRouter then
        [("thread.br_init", fun _ => report (espCall .borderRouterInit))] else [])
      (if cfg.openthreadBorderRouter then
        [("thread.br_init", fun _ _ => [.borderRouterInit])] else []) := by
    split
    · exact .cons ⟨rfl, hcall _⟩ .nil
    · exact .nil
  refine List.rel_append (List.rel_append ?_ hborder) (.cons ⟨rfl, hcall _⟩ .nil)
  refine .cons ⟨rfl, report_follows fun b =>
    executeThreadEnableCommand_follows (sameThread_callInvariant b)⟩ ?_
  refine .cons ⟨rfl, report_follows fun b =>
    executeThreadDisableCommand_follows (sameThread_callInvariant b)⟩ ?_
  refine .cons ⟨rfl, threadDatasetInitBranch_follows⟩ ?_
  refine .cons ⟨rfl, threadStatusGet_follows⟩ ?_
  refine .cons ⟨rfl, threadAttachedGet_follows⟩ ?_
  refine .cons ⟨rfl, threadRoleGet_follows⟩ ?_
  refine .cons ⟨rfl, threadActiveDatasetGet_follows⟩ ?_
  refine .cons ⟨rfl, threadAddressesGet_follows _ _⟩ ?_
  exact .cons ⟨rfl, threadAddressesGet_follows _ _⟩ .nil

theorem deviceBranches_match : List.Forall₂ Matches deviceBranches deviceScripts := by
  refine .cons ⟨rfl, chamberStatusGet_follows⟩ ?_
  refine .cons ⟨rfl, deviceList_follows⟩ ?_
  refine .cons ⟨rfl, deviceGet_follows⟩ ?_
  refine .cons ⟨rfl, deviceRemove_follows⟩ ?_
  refine .cons ⟨rfl, deviceRename_follows⟩ ?_
  refine .cons ⟨rfl, addCapabilityCommand_follows⟩ ?_
  refine .cons ⟨rfl, deviceSemanticRead_follows .temperature⟩ ?_
  refine .cons ⟨rfl, deviceSemanticRead_follows .pressure⟩ ?_
  refine .cons ⟨rfl, deviceAttribute_follows false⟩ ?_
  refine .cons ⟨rfl, deviceAttribute_follows true⟩ ?_
  exact .cons ⟨rfl, deviceRelaySet_follows⟩ .nil

theorem matterBranches_match :
    List.Forall₂ Matches (matterBranches cfg p) (matterScripts cfg p) := by
  refine .cons ⟨rfl, matterControllerInitBranch_follows cfg⟩ ?_
  refine .cons ⟨rfl, matterPairBleThread_follows⟩ ?_
  refine .cons ⟨rfl, matterClusterCommandInvoke_follows⟩ ?_
  refine .cons ⟨rfl, matterAttribute_follows false⟩ ?_
  exact .cons ⟨rfl, matterAttribute_follows true⟩ .nil

/-- Every branch that is compiled in obeys the script of its name. -/
theorem branches_match (cfg : Config) (p : Platform) :
    List.Forall₂ Matches (branches cfg p) (scripts cfg p) := by
  have hthread : List.Forall₂ Matches
      (if cfg.openthreadEnabled then threadBranches cfg p else [])
      (if cfg.openthreadEnabled then threadScripts cfg p else []) := by
    split
    · exact threadBranches_match
    · exact .nil
  have hwifi : List.Forall₂ Matches
      (if cfg.enableWifiStation then [("wifi.sta_connect", wifiStaConnectBranch)] else [])
      (if cfg.enableWifiStation then [("wifi.sta_connect", staConnectScript)] else []) := by
    split
    · exact .cons ⟨rfl, wifiStaConnectBranch_follows⟩ .nil
    · exact .nil
  exact List.rel_append (List.rel_append (List.rel_append hthread hwifi) deviceBranches_match)
    matterBranches_match

/-- Tables with the same names are searched in step. -/
theorem find?_match {table : List (String × CommandHandler)} {table' : List (String × Script)}
    (h : List.Forall₂ Matches table table') (action : CStr) :
    Option.Rel Matches (table.find? fun branch => CStr.lit branch.1 = action)
      (table'.find? fun script => CStr.lit script.1 = action) := by
  induction h with
  | nil => exact .none
  | @cons branch script _ _ hhead _ ih =>
      obtain ⟨hname, hfollows⟩ := hhead
      rw [List.find?_cons, List.find?_cons, hname]
      cases hcase : decide (CStr.lit script.1 = action) with
      | true => exact .some ⟨hname, hfollows⟩
      | false => exact ih

theorem processCommandMessage_follows (cfg : Config) (p : Platform) (action : CStr)
    (payload : Json) (b : Board) :
    ∃ B : Board → Prop, B b ∧
      Obeys B (scriptOf cfg p action payload b) (processCommandMessage cfg p action payload) := by
  have hfind := find?_match (branches_match cfg p) action
  unfold processCommandMessage findBranch scriptOf
  cases hbranch : (branches cfg p).find? fun branch => CStr.lit branch.1 = action with
  | none =>
      rw [hbranch] at hfind
      cases hscript : (scripts cfg p).find? fun script => CStr.lit script.1 = action with
      | none => exact ⟨fun _ => True, trivial, obeys_failed rfl⟩
      | some script => rw [hscript] at hfind; cases hfind
  | some branch =>
      rw [hbranch] at hfind
      cases hscript : (scripts cfg p).find? fun script => CStr.lit script.1 = action with
      | none => rw [hscript] at hfind; cases hfind
      | some script =>
          rw [hscript] at hfind
          cases hfind with
          | some hmatch => exact hmatch.2 payload b

/-- A command hands over a prefix of its script, and the whole script where it reports
`ESP_OK`. -/
theorem requests_of_command (cfg : Config) (p : Platform) (action : CStr) (payload : Json)
    (w : World) :
    ∃ made, made <+: scriptOf cfg p action payload w.board ∧
      handed (processCommandMessage cfg p action payload w).2 = handed w ++ made ∧
      ((processCommandMessage cfg p action payload w).1.err = .ok ⟨⟩ →
        made = scriptOf cfg p action payload w.board) := by
  obtain ⟨B, hB, hobeys⟩ := processCommandMessage_follows cfg p action payload w.board
  obtain ⟨-, made, hlog, hbegins, hok⟩ := hobeys _ w ⟨rfl, hB⟩
  exact ⟨made, hbegins, hlog, hok⟩

end Table

end Orchestrator.Messages
