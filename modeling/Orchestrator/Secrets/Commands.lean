import Orchestrator.Commands.Matter
import Orchestrator.Commands.Wifi
import Orchestrator.Secrets.Alike

/-!
# Commands do not tell secrets

The registry and the clients are served without a look at secrets. The commands that are
given secrets pass them on, and come to the same end whatever they are.
-/

namespace Orchestrator.Registry

open Lib Handler State

/-! ## The registry -/

theorem nvs_blind {α : Type} {k : Esp α} (hk : k.Blind) :
    Esp.Blind (do
      match ← nvsOutcome with
      | some err => throw err
      | none => k) :=
  nvs_related hk

theorem loadStore_blind : loadStore.Blind := by
  have hopen : nvsOpenReadonly.Blind := by
    refine nvs_blind (Esp.Blind.getBoard (fun _ => rfl) fun b => ?_)
    split
    · exact Esp.Blind.pure _
    · exact Esp.Blind.throw _
  have hget : nvsGetBlob.Blind := by
    refine nvs_blind (Esp.Blind.getBoard (fun _ => rfl) fun b => ?_)
    split
    · exact Esp.Blind.throw _
    · split
      · exact Esp.Blind.throw _
      · exact Esp.Blind.pure _
  refine Esp.Blind.tryCatch ?_ fun err => ?_
  · exact hopen.bind fun _ => hget.bind fun _ => Esp.Blind.pure _
  · split
    · exact Esp.Blind.pure _
    · exact Esp.Blind.throw _

theorem saveStore_blind (store : RegistryStore) : (saveStore store).Blind := by
  have hmodify : ∀ f : Board → Board, (∀ b, (f b).hidden = f b.hidden) → Esp.Blind (do
      match ← nvsOutcome with
      | some err => throw err
      | none => modifyBoard f) :=
    fun f hf => nvs_blind (Esp.Blind.lift (modifyBoard_blind hf))
  refine Esp.Blind.bind (hmodify _ ?_) fun _ => Esp.Blind.bind (hmodify _ ?_) fun _ =>
    hmodify _ ?_
  · exact fun _ => rfl
  · exact fun _ => rfl
  · exact fun _ => rfl

end Orchestrator.Registry

namespace Orchestrator.Server

open Lib Handler

/-! ## The clients -/

theorem websocketSendMessageToClient_blind (fd : Int) (message : Json) :
    (websocketSendMessageToClient fd message).Blind := by
  refine Esp.Blind.getBoard (fun _ => rfl) fun b => ?_
  split
  · exact Esp.Blind.throw _
  · refine (Esp.Blind.lift malloc_blind).bind fun _ => ?_
    split
    · exact Esp.Blind.throw _
    · refine (Esp.Blind.lift malloc_blind).bind fun _ => ?_
      split
      · exact Esp.Blind.throw _
      · refine (Esp.Blind.lift httpdOutcome_blind).bind fun outcome => ?_
        cases outcome with
        | some err => exact Esp.Blind.throw err
        | none => exact Esp.Blind.lift (modifyBoard_blind fun _ => rfl)

theorem sendToEach_blind (message : Json) (sessions : List (Int × Bool)) :
    Blind (sendToEach message sessions) := by
  induction sessions with
  | nil => exact Blind.pure _
  | cons session sessions ih =>
      obtain ⟨fd, websocket⟩ := session
      cases websocket with
      | true => exact (websocketSendMessageToClient_blind fd message).run.bind fun _ => ih
      | false => exact ih

theorem websocketBroadcastMessage_blind (message : Json) :
    (websocketBroadcastMessage message).Blind := by
  refine Esp.Blind.getBoard (fun _ => rfl) fun b => ?_
  split
  · exact Esp.Blind.throw _
  · refine (Esp.Blind.lift httpdOutcome_blind).bind fun outcome => ?_
    cases outcome with
    | some err => exact Esp.Blind.throw _
    | none => exact Esp.Blind.lift (sendToEach_blind message b.sessions)

end Orchestrator.Server

namespace Orchestrator.State

open Lib Handler Server

theorem orchestratorStateToJson_blind : Blind orchestratorStateToJson :=
  getBoard_blind (fun _ => rfl) fun b => allocate_blind (snapshotToJson b.state)

theorem broadcastSnapshot_blind : orchestratorStateBroadcastSnapshot.Blind := by
  refine Esp.Blind.getBoard (fun _ => rfl) fun b => ?_
  split
  · exact Esp.Blind.pure _
  · refine (Esp.Blind.lift (allocate_blind _)).bind fun json => ?_
    cases json with
    | none => exact Esp.Blind.throw _
    | some json => exact websocketBroadcastMessage_blind json

theorem sendSnapshotToClient_blind (fd : Int) :
    (orchestratorStateSendSnapshotToClient fd).Blind := by
  refine Esp.Blind.getBoard (fun _ => rfl) fun b => ?_
  refine (Esp.Blind.lift (allocate_blind _)).bind fun json => ?_
  cases json with
  | none => exact Esp.Blind.throw _
  | some json => exact websocketSendMessageToClient_blind fd json

theorem broadcastEvent_blind (event : CStr) (payload : Option Json) :
    (orchestratorStateBroadcastEvent event payload).Blind := by
  refine Esp.Blind.getBoard (fun _ => rfl) fun b => ?_
  split
  · exact Esp.Blind.pure _
  · refine Esp.Blind.bind ?_ websocketBroadcastMessage_blind
    exact Esp.Blind.of_run (allocate_blind _)

end Orchestrator.State

namespace Orchestrator.Registry

open Lib Handler State

theorem saveAndNotify_blind (store : RegistryStore) : (saveAndNotify store).Blind :=
  (saveStore_blind store).bind fun _ =>
    (Esp.Blind.ignore (broadcastEvent_blind _ _)).bind fun _ =>
      Esp.Blind.ignore broadcastSnapshot_blind

/-- The functions of the registry load the store first. -/
theorem load_blind {α : Type} {k : RegistryStore → Esp α} (hk : ∀ store, (k store).Blind) :
    Esp.Blind (allocStore >>= fun _ => loadStore >>= k) :=
  Esp.Blind.bind mallocOrFail_blind fun _ => loadStore_blind.bind hk

theorem deviceRegistryUpsertDevice_blind (record : DeviceRecord) :
    (deviceRegistryUpsertDevice record).Blind := by
  unfold deviceRegistryUpsertDevice
  split
  · exact Esp.Blind.throw _
  · refine load_blind fun store => ?_
    split
    · exact saveAndNotify_blind _
    · split
      · exact Esp.Blind.throw _
      · exact saveAndNotify_blind _

theorem deviceRegistryGetDevice_blind (deviceId : CStr) :
    (deviceRegistryGetDevice deviceId).Blind := by
  refine load_blind fun store => ?_
  split
  · exact Esp.Blind.pure _
  · exact Esp.Blind.throw _

theorem deviceRegistryRemoveDevice_blind (deviceId : CStr) :
    (deviceRegistryRemoveDevice deviceId).Blind := by
  refine load_blind fun store => ?_
  split
  · exact saveAndNotify_blind _
  · exact Esp.Blind.throw _

theorem deviceRegistryRenameDevice_blind (deviceId label : CStr) :
    (deviceRegistryRenameDevice deviceId label).Blind := by
  refine load_blind fun store => ?_
  split
  · exact saveAndNotify_blind _
  · exact Esp.Blind.throw _

theorem deviceRegistryFindCapability_blind (deviceId : CStr)
    (semanticType : DeviceCapabilitySemanticType) :
    (deviceRegistryFindCapability deviceId semanticType).Blind := by
  refine (deviceRegistryGetDevice_blind deviceId).bind fun found => ?_
  split
  · exact Esp.Blind.pure _
  · exact Esp.Blind.throw _

theorem deviceRegistryFindCapabilityByPath_blind (nodeId : UInt64) (endpointId : UInt16)
    (clusterId attributeId : UInt32) :
    (deviceRegistryFindCapabilityByPath nodeId endpointId clusterId attributeId).Blind := by
  refine load_blind fun store => ?_
  split
  · exact Esp.Blind.pure _
  · exact Esp.Blind.throw _

theorem deviceRegistryToJson_blind : Blind deviceRegistryToJson := by
  refine malloc_blind.bind fun ok => ?_
  split
  · exact Blind.pure _
  · refine loadStore_blind.run.bind fun r => ?_
    cases r with
    | error err => exact Blind.pure _
    | ok store => exact allocate_blind _

end Orchestrator.Registry

namespace Orchestrator.Commands

open Lib Handler Registry State

/-! ## Thread -/

/-- What is found differs in its secrets only. -/
theorem requireInstance_alike (err : EspErr) :
    Esp.Related (requireInstance err) (requireInstance err) fun o o' => o.hidden = o'.hidden := by
  intro w w' h
  have hinstance : w.board.openThread.instanceExists = w'.board.openThread.instanceExists :=
    h.result (f := fun v => v.board.openThread.instanceExists) fun _ => rfl
  rw [requireInstance_run, requireInstance_run, hinstance]
  refine ⟨?_, h⟩
  dsimp only
  split
  · exact .ok (congrArg (fun v : World => v.board.openThread) h)
  · exact .error err

/-- What is done with OpenThread does not depend on its secrets. -/
theorem requireInstance_blind {α : Type} (err : EspErr) {f : OpenThread → Esp α}
    (hf : ∀ openThread, f openThread.hidden = f openThread)
    (h : ∀ openThread, (f openThread).Blind) : (requireInstance err >>= f).Blind := by
  refine Esp.Related.bind (requireInstance_alike err) fun o o' ho => ?_
  have heq : f o = f o' := by rw [← hf o, ← hf o', ho]
  rw [heq]
  exact h o'

/-- A request to OpenThread, which needs an instance. -/
theorem requireInstance_related (err : EspErr) {m n : Esp Unit} (h : Esp.Related m n Eq) :
    Esp.Related (requireInstance err >>= fun _ => m) (requireInstance err >>= fun _ => n) Eq :=
  Esp.Related.bind (requireInstance_alike err) fun _ _ _ => h

theorem ifconfig_blind (up : Bool) : (ifconfig up).Blind :=
  requireInstance_related _ (otCall_related rfl)

theorem threadSetEnabled_blind (enabled : Bool) : (threadSetEnabled enabled).Blind :=
  requireInstance_related _ (otCall_related rfl)

theorem executeThreadEnableCommand_blind : executeThreadEnableCommand.Blind :=
  (ifconfig_blind true).bind fun _ => threadSetEnabled_blind true

theorem executeThreadDisableCommand_blind : executeThreadDisableCommand.Blind :=
  (threadSetEnabled_blind false).bind fun _ => ifconfig_blind false

/-- The texts of the keys may differ, as long as both are keys or neither is. -/
structure TextsAlike (texts texts' : DatasetTexts) : Prop where
  networkName : texts.networkName = texts'.networkName
  extendedPanId : texts.extendedPanId = texts'.extendedPanId
  meshLocalPrefix : texts.meshLocalPrefix = texts'.meshLocalPrefix
  networkKey : (hexStringToBytes 16 texts.networkKey).isSome =
    (hexStringToBytes 16 texts'.networkKey).isSome
  pskc : (hexStringToBytes 16 texts.pskc).isSome = (hexStringToBytes 16 texts'.pskc).isSome

/-- Values that are there or not do not matter when nothing depends on them. -/
theorem bind_eq_of_isSome {α β : Type} {a a' : Option α} {f f' : α → Option β}
    (h : a.isSome = a'.isSome) (hf : ∀ x x', f x = f' x') : a.bind f = a'.bind f' := by
  cases a with
  | none =>
      have hnone : a' = none := Option.isSome_eq_false_iff.mp h.symm |> Option.isNone_iff_eq_none.mp
      rw [hnone]
      rfl
  | some x =>
      obtain ⟨x', rfl⟩ := Option.isSome_iff_exists.mp h.symm
      exact hf x x'

/-- The datasets differ in their keys only. -/
theorem parseDataset_hidden (p : Platform) (channel panId : UInt16) {texts texts' : DatasetTexts}
    (h : TextsAlike texts texts') :
    (parseDataset p channel panId texts).map OperationalDataset.hidden =
      (parseDataset p channel panId texts').map OperationalDataset.hidden := by
  unfold parseDataset
  rw [h.networkName, h.extendedPanId, h.meshLocalPrefix]
  simp only [Option.bind_eq_bind, Option.pure_def, Option.map_bind, Function.comp_def,
    Option.map_some]
  refine congrArg _ (funext fun networkName => congrArg _ (funext fun extendedPanId =>
    congrArg _ (funext fun meshLocalPrefix => ?_)))
  exact bind_eq_of_isSome h.networkKey fun _ _ => bind_eq_of_isSome h.pskc fun _ _ => rfl

theorem threadDatasetInit_related (p : Platform) (channel panId : UInt16)
    {texts texts' : DatasetTexts} (h : TextsAlike texts texts') :
    Esp.Related (threadDatasetInit p channel panId texts)
      (threadDatasetInit p channel panId texts') Eq := by
  refine requireInstance_related _ ?_
  refine Esp.Related.bind (orFail_stack_blind _) fun _ _ _ => ?_
  refine Esp.Related.bind mallocOrFail_blind fun _ _ _ => ?_
  have hdataset := parseDataset_hidden p channel panId h
  cases hparse : parseDataset p channel panId texts <;>
    cases hparse' : parseDataset p channel panId texts' <;> rw [hparse, hparse'] at hdataset
  · exact Esp.Related.throw _
  · cases hdataset
  · cases hdataset
  · exact otCall_related (congrArg Request.datasetSetActive (Option.some.inj hdataset))

/-- The loop allocates as many strings whatever is in them. -/
theorem duplicateAddresses_blind (addresses : List CStr) :
    (duplicateAddresses addresses).Blind := by
  induction addresses with
  | nil => exact Esp.Blind.pure _
  | cons address rest ih =>
      exact mallocOrFail_blind.bind fun _ => ih.bind fun _ => Esp.Blind.pure _

theorem threadGetUnicastAddresses_blind :
    (threadGetAddresses OpenThread.unicastAddresses).Blind :=
  requireInstance_blind _ (fun _ => rfl) fun _ => duplicateAddresses_blind _

theorem threadGetMulticastAddresses_blind :
    (threadGetAddresses OpenThread.multicastAddresses).Blind :=
  requireInstance_blind _ (fun _ => rfl) fun _ => duplicateAddresses_blind _

theorem threadIsStackRunning_blind : threadIsStackRunning.Blind :=
  requireInstance_blind _ (fun _ => rfl) fun _ => Esp.Blind.pure _

theorem threadIsAttached_blind : threadIsAttached.Blind :=
  requireInstance_blind _ (fun _ => rfl) fun _ => Esp.Blind.pure _

theorem threadGetDeviceRoleString_blind (p : Platform) : (threadGetDeviceRoleString p).Blind :=
  requireInstance_blind _ (fun _ => rfl) fun _ => Esp.Blind.pure _

theorem threadGetActiveDataset_alike :
    Esp.Related threadGetActiveDataset threadGetActiveDataset fun d d' => d.hidden = d'.hidden := by
  refine Esp.Related.bind (requireInstance_alike _) fun o o' ho => ?_
  have hdataset : o.activeDataset.map OperationalDataset.hidden =
      o'.activeDataset.map OperationalDataset.hidden := congrArg OpenThread.activeDataset ho
  cases h : o.activeDataset <;> cases h' : o'.activeDataset <;> rw [h, h'] at hdataset
  · exact Esp.Related.throw _
  · cases hdataset
  · cases hdataset
  · exact Esp.Related.pure (Option.some.inj hdataset)

theorem threadGetActiveDatasetTlvs_alike :
    Esp.Related threadGetActiveDatasetTlvs threadGetActiveDatasetTlvs fun tlvs tlvs' =>
      tlvs.length = tlvs'.length := by
  refine Esp.Related.bind (requireInstance_alike _) fun o o' ho => ?_
  have htlvs : (o.activeDatasetTlvs.map fun tlvs => List.replicate tlvs.length (0 : UInt8)) =
      o'.activeDatasetTlvs.map fun tlvs => List.replicate tlvs.length 0 :=
    congrArg OpenThread.activeDatasetTlvs ho
  cases h : o.activeDatasetTlvs <;> cases h' : o'.activeDatasetTlvs <;> rw [h, h'] at htlvs
  · exact Esp.Related.throw _
  · cases htlvs
  · cases htlvs
  · next tlvs tlvs' =>
    have hlength : tlvs.length = tlvs'.length := by
      simpa using congrArg List.length (Option.some.inj htlvs)
    dsimp only
    rw [hlength]
    split
    · exact Esp.Related.throw _
    · exact Esp.Related.pure hlength

/-! ## Wi-Fi -/

theorem nvsSetStr_related {set set' : WifiNvs → WifiNvs}
    (h : ∀ n n' : WifiNvs, n.hidden = n'.hidden → (set n).hidden = (set' n').hidden) :
    Related Alike (nvsSetStr set) (nvsSetStr set') Eq := by
  refine Related.bind nvsOutcome_blind ?_
  rintro (- | err) _ rfl
  · refine modifyBoard_related fun b b' hb => ?_
    show { b.hidden with wifi := (set b.wifi).hidden } =
      { b'.hidden with wifi := (set' b'.wifi).hidden }
    rw [h b.wifi b'.wifi (congrArg Board.wifi hb), hb]
  · exact Related.pure rfl

theorem saveWifiStaCredentials_related (ssid password password' : CStr) :
    Esp.Related (saveWifiStaCredentials ssid password) (saveWifiStaCredentials ssid password')
      Eq := by
  refine nvs_related ?_
  refine Esp.Related.bind (Esp.Related.lift (nvsSetStr_related fun n n' hn => ?_)) fun _ _ _ => ?_
  · exact congrArg (fun n : WifiNvs => { n with staSsid := some ssid }) hn
  refine Esp.Related.bind (Esp.Related.lift (nvsSetStr_related fun n n' hn => ?_)) fun _ _ _ => ?_
  · exact congrArg (fun n : WifiNvs => { n with staPassword := some default }) hn
  · exact nvs_related (Esp.Blind.pure _)

theorem wifiStaConnect_related (ssid password password' : CStr) :
    Esp.Related (wifiStaConnect ssid password) (wifiStaConnect ssid password') Eq := by
  refine Esp.Related.bind (saveWifiStaCredentials_related ssid password password') fun _ _ _ => ?_
  refine Esp.Related.bind (Esp.Related.lift (hand_related rfl)) fun _ _ _ => ?_
  refine Esp.Related.bind (Esp.Related.lift stackOutcome_blind) fun _ _ _ => ?_
  exact Esp.Related.bind (espCall_related rfl) fun _ _ _ => espCall_blind _

/-! ## Matter -/

theorem executeMatterPairBleThreadCommand_related (nodeId : UInt64) (pin pin' : UInt32)
    (discriminator : UInt16) :
    Esp.Related (executeMatterPairBleThreadCommand nodeId pin discriminator)
      (executeMatterPairBleThreadCommand nodeId pin' discriminator) Eq := by
  refine Esp.Related.bind mallocOrFail_blind fun _ _ _ => ?_
  refine Esp.Related.bind threadGetActiveDatasetTlvs_alike fun tlvs tlvs' htlvs => ?_
  have hrequest : (Request.pairingBleThread nodeId pin discriminator tlvs).hidden =
      (Request.pairingBleThread nodeId pin' discriminator tlvs').hidden :=
    congrArg (fun n => Request.pairingBleThread nodeId 0 discriminator (List.replicate n 0)) htlvs
  refine Esp.Related.bind (espCall_related hrequest) fun _ _ _ => ?_
  exact Esp.Related.ignore (deviceRegistryUpsertDevice_blind _)

theorem executeCmdInvokeCommand_blind (destinationId : UInt64) (endpointId : UInt16)
    (clusterId commandId : UInt32) (payloadJson : CStr) :
    (executeCmdInvokeCommand destinationId endpointId clusterId commandId payloadJson).Blind :=
  (orFail_stack_blind _).bind fun _ => espCall_blind _

theorem attributeCall_blind (request : Request) : (attributeCall request).Blind :=
  mallocOrFail_blind.bind fun _ => (orFail_stack_blind _).bind fun _ =>
    mallocOrFail_blind.bind fun _ => espCall_blind request

theorem executeMatterControllerInitCommand_blind (cfg : Config) (nodeId fabricId : UInt64)
    (listenPort : UInt16) :
    (executeMatterControllerInitCommand cfg nodeId fabricId listenPort).Blind := by
  have hinit : (matterControllerInit cfg nodeId fabricId listenPort).Blind := by
    refine (espCall_blind _).bind fun _ => ?_
    split
    · exact espCall_blind _
    · exact Esp.Blind.pure _
  refine hinit.bind fun _ => ?_
  refine Esp.Blind.bind (Esp.Blind.lift (modifyBoard_blind fun _ => rfl)) fun _ => ?_
  exact (Esp.Blind.ignore (broadcastEvent_blind _ _)).bind fun _ =>
    Esp.Blind.ignore broadcastSnapshot_blind

end Orchestrator.Commands
