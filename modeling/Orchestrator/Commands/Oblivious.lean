import Orchestrator.Commands.Matter
import Orchestrator.Commands.Wifi
import Orchestrator.Lib.Oblivious
import Orchestrator.Registry.Rules

/-!
# Commands do not look at the memory of cJSON

cJSON allocates only for the messages that are broadcast, the results of which
are ignored, and for payloads.
-/

namespace Orchestrator

open Lib Handler

/-- The world with other outcomes of the allocations of cJSON. -/
def World.withAllocs (outcomes : Stream' Bool) (w : World) : World :=
  { w with allocs := outcomes }

/-- A supply that lasts is not used up. -/
theorem supplied_unforeseen : Unforeseen fun w => w.allocs = allSucceed where
  allocs _ h := (congrArg Stream'.tail h).trans (Stream'.tail_const true)
  heap _ h := h
  httpd _ h := h
  stack _ h := h

theorem World.withAllocs_eq_iff {outcomes : Stream' Bool} {w : World} :
    w.withAllocs outcomes = w ↔ w.allocs = outcomes := by
  constructor
  · intro h
    exact (congrArg World.allocs h).symm
  · intro h
    rw [World.withAllocs, ← h]

section Primitives

variable {α : Type}

theorem getBoard_oblivious : Oblivious World.withAllocs getBoard := fun _ _ => rfl

theorem malloc_oblivious : Oblivious World.withAllocs malloc := fun _ _ => rfl

theorem stackOutcome_oblivious : Oblivious World.withAllocs stackOutcome := fun _ _ => rfl

theorem modifyBoard_oblivious (f : Board → Board) :
    Oblivious World.withAllocs (modifyBoard f) := fun _ _ => rfl

theorem nvsOutcome_oblivious : Oblivious World.withAllocs nvsOutcome := by
  intro outcomes w
  unfold nvsOutcome
  simp only [modifyGet, MonadStateOf.modifyGet, StateT.modifyGet, World.withAllocs]
  cases w.nvs.head with
  | none => rfl
  | some failure => rfl

end Primitives

namespace Esp

variable {α β : Type}

def Oblivious (m : Esp α) : Prop := Lib.Oblivious World.withAllocs (m.run : Handler (EspResult α))

def Unaffected (m : Esp α) : Prop :=
  Lib.Unaffected World.withAllocs allSucceed (m.run : Handler (EspResult α))

theorem Oblivious.unaffected {m : Esp α} (h : m.Oblivious) : m.Unaffected :=
  Lib.Oblivious.unaffected h

/-- What does not look at the outcomes of cJSON uses none of them. -/
theorem Oblivious.allocs {m : Esp α} (h : m.Oblivious) (w : World) :
    (m.run w).2.allocs = w.allocs := by
  have hsame : w.withAllocs w.allocs = w := World.withAllocs_eq_iff.mpr rfl
  have hrun := h w.allocs w
  rw [hsame] at hrun
  exact congrArg (fun out : EspResult α × World => out.2.allocs) hrun

@[simp] theorem oblivious_pure (a : α) : Esp.Oblivious (pure a) := Lib.Oblivious.pure _

@[simp] theorem oblivious_throw (err : EspErr) : Esp.Oblivious (throw err : Esp α) :=
  Lib.Oblivious.pure _

@[simp] theorem oblivious_lift {m : Handler α} (hm : Lib.Oblivious World.withAllocs m) :
    Esp.Oblivious (liftM m) :=
  hm.map _

theorem Oblivious.bind {m : Esp α} {f : α → Esp β} (hm : m.Oblivious)
    (hf : ∀ a, (f a).Oblivious) : (m >>= f).Oblivious := by
  unfold Oblivious
  rw [ExceptT.run_bind]
  refine Lib.Oblivious.bind hm fun r => ?_
  cases r with
  | error err => exact Lib.Oblivious.pure _
  | ok a => exact hf a

theorem Oblivious.tryCatch {m : Esp α} {handler : EspErr → Esp α} (hm : m.Oblivious)
    (hhandler : ∀ err, (handler err).Oblivious) :
    Esp.Oblivious (MonadExcept.tryCatch m handler) := by
  unfold Oblivious
  rw [ExceptT.run_tryCatch]
  refine Lib.Oblivious.bind hm fun r => ?_
  cases r with
  | error err => exact hhandler err
  | ok a => exact Lib.Oblivious.pure _

theorem Unaffected.bind {m : Esp α} {f : α → Esp β} (hm : m.Oblivious)
    (hf : ∀ a, (f a).Unaffected) : (m >>= f).Unaffected := by
  unfold Unaffected
  rw [ExceptT.run_bind]
  refine Lib.Unaffected.bind hm fun r => ?_
  cases r with
  | error err => exact Lib.Unaffected.pure _
  | ok a => exact hf a

/-- Nothing that succeeded before fails after the function. -/
def Supplied (m : Esp α) : Prop := Esp.Keeps (fun w => w.allocs = allSucceed) m fun _ => True

/-- Where nobody looks at the results of two calls, what they were does not matter. -/
theorem unaffected_ignore_ignore {m : Esp α} {n : Esp β} (hm : m.Supplied) (hn : n.Supplied) :
    Esp.Unaffected (ignore m >>= fun _ => ignore n) := by
  refine Lib.Unaffected.of_const (fun _ => rfl) fun w hw => ?_
  rw [World.withAllocs_eq_iff] at hw ⊢
  exact (Esp.Keeps.bind hm.ignore (fun _ _ => hn.ignore) w hw).1

theorem unaffected_ignore {m : Esp α} (hm : m.Unaffected) : Esp.Unaffected (ignore m) :=
  Lib.Unaffected.of_const (fun _ => rfl) hm.keeps

end Esp

namespace Handler

theorem espCall_oblivious (request : Request) : (espCall request).Oblivious := by
  refine Esp.Oblivious.bind (Esp.oblivious_lift (modifyBoard_oblivious _)) fun _ => ?_
  refine Esp.Oblivious.bind (Esp.oblivious_lift stackOutcome_oblivious) fun outcome => ?_
  cases outcome <;> simp

theorem otCall_oblivious (request : Request) : (otCall request).Oblivious := by
  refine Esp.Oblivious.bind (Esp.oblivious_lift (modifyBoard_oblivious _)) fun _ => ?_
  refine Esp.Oblivious.bind (Esp.oblivious_lift stackOutcome_oblivious) fun outcome => ?_
  cases outcome <;> simp

theorem orFail_stack_oblivious (err : EspErr) : (orFail stackOutcome err).Oblivious := by
  refine Esp.Oblivious.bind (Esp.oblivious_lift stackOutcome_oblivious) fun outcome => ?_
  cases outcome <;> simp

theorem mallocOrFail_oblivious : mallocOrFail.Oblivious := by
  refine Esp.Oblivious.bind (Esp.oblivious_lift malloc_oblivious) fun ok => ?_
  cases ok <;> simp

end Handler

end Orchestrator

namespace Orchestrator.Registry

open Lib Handler State

/-- A call of NVS, and what is done when it succeeds. -/
theorem nvs_oblivious {α : Type} {k : Esp α} (hk : k.Oblivious) :
    Esp.Oblivious (do
      match ← nvsOutcome with
      | some err => throw err
      | none => k) := by
  refine Esp.Oblivious.bind (Esp.oblivious_lift nvsOutcome_oblivious) fun outcome => ?_
  cases outcome with
  | some err => simp
  | none => exact hk

theorem loadStore_oblivious : loadStore.Oblivious := by
  have hopen : nvsOpenReadonly.Oblivious := by
    refine nvs_oblivious (Esp.Oblivious.bind (Esp.oblivious_lift getBoard_oblivious) fun b => ?_)
    split <;> simp
  have hget : nvsGetBlob.Oblivious := by
    refine nvs_oblivious (Esp.Oblivious.bind (Esp.oblivious_lift getBoard_oblivious) fun b => ?_)
    split
    · simp
    · split <;> simp
  refine Esp.Oblivious.tryCatch ?_ fun err => ?_
  · exact hopen.bind fun _ => hget.bind fun _ => by simp
  · split <;> simp

theorem saveStore_oblivious (store : RegistryStore) : (saveStore store).Oblivious := by
  have hmodify : ∀ f : Board → Board, Esp.Oblivious (do
      match ← nvsOutcome with
      | some err => throw err
      | none => modifyBoard f) :=
    fun f => nvs_oblivious (Esp.oblivious_lift (modifyBoard_oblivious f))
  exact (hmodify _).bind fun _ => (hmodify _).bind fun _ => hmodify _

theorem allocStore_oblivious : allocStore.Oblivious := mallocOrFail_oblivious

theorem broadcasts_unaffected (name : String) : Esp.Unaffected (do
    ignore (orchestratorStateBroadcastEvent (CStr.lit name) none)
    ignore orchestratorStateBroadcastSnapshot) :=
  Esp.unaffected_ignore_ignore (broadcastEvent_keeps supplied_unforeseen (fun _ _ _ h => h) name)
    (broadcastSnapshot_keeps supplied_unforeseen fun _ _ _ h => h)

theorem saveAndNotify_unaffected (store : RegistryStore) : (saveAndNotify store).Unaffected :=
  Esp.Unaffected.bind (saveStore_oblivious store) fun _ => broadcasts_unaffected _

theorem deviceRegistryGetDevice_oblivious (deviceId : CStr) :
    (deviceRegistryGetDevice deviceId).Oblivious := by
  refine allocStore_oblivious.bind fun _ => loadStore_oblivious.bind fun store => ?_
  split <;> simp

theorem deviceRegistryFindCapability_oblivious (deviceId : CStr)
    (semanticType : DeviceCapabilitySemanticType) :
    (deviceRegistryFindCapability deviceId semanticType).Oblivious := by
  refine (deviceRegistryGetDevice_oblivious deviceId).bind fun found => ?_
  split <;> simp

theorem load_unaffected {k : RegistryStore → Esp Unit} (hk : ∀ store, (k store).Unaffected) :
    Esp.Unaffected (allocStore >>= fun _ => loadStore >>= k) :=
  Esp.Unaffected.bind allocStore_oblivious fun _ => Esp.Unaffected.bind loadStore_oblivious hk

theorem deviceRegistryUpsertDevice_unaffected (record : DeviceRecord) :
    (deviceRegistryUpsertDevice record).Unaffected := by
  unfold deviceRegistryUpsertDevice
  split
  · exact (Esp.oblivious_throw _).unaffected
  · refine load_unaffected fun store => ?_
    split
    · exact saveAndNotify_unaffected _
    · split
      · exact (Esp.oblivious_throw _).unaffected
      · exact saveAndNotify_unaffected _

theorem deviceRegistryRemoveDevice_unaffected (deviceId : CStr) :
    (deviceRegistryRemoveDevice deviceId).Unaffected := by
  refine load_unaffected fun store => ?_
  split
  · exact saveAndNotify_unaffected _
  · exact (Esp.oblivious_throw _).unaffected

theorem deviceRegistryRenameDevice_unaffected (deviceId label : CStr) :
    (deviceRegistryRenameDevice deviceId label).Unaffected := by
  refine load_unaffected fun store => ?_
  split
  · exact saveAndNotify_unaffected _
  · exact (Esp.oblivious_throw _).unaffected

end Orchestrator.Registry

namespace Orchestrator.Commands

open Lib Handler Registry State

/-! ## Thread -/

theorem requireInstance_oblivious (err : EspErr) : (requireInstance err).Oblivious := by
  refine Esp.Oblivious.bind (Esp.oblivious_lift getBoard_oblivious) fun b => ?_
  dsimp only
  split <;> simp

theorem ifconfig_oblivious (up : Bool) : (ifconfig up).Oblivious :=
  (requireInstance_oblivious _).bind fun _ => otCall_oblivious _

theorem threadSetEnabled_oblivious (enabled : Bool) : (threadSetEnabled enabled).Oblivious :=
  (requireInstance_oblivious _).bind fun _ => otCall_oblivious _

theorem threadDatasetInit_oblivious (p : Platform) (channel panId : UInt16)
    (texts : DatasetTexts) : (threadDatasetInit p channel panId texts).Oblivious := by
  refine (requireInstance_oblivious _).bind fun _ => (orFail_stack_oblivious _).bind fun _ =>
    mallocOrFail_oblivious.bind fun _ => ?_
  split
  · simp
  · exact otCall_oblivious _

theorem threadGetActiveDataset_oblivious : threadGetActiveDataset.Oblivious := by
  refine (requireInstance_oblivious _).bind fun openThread => ?_
  split <;> simp

theorem duplicateAddresses_oblivious (addresses : List CStr) :
    (duplicateAddresses addresses).Oblivious := by
  induction addresses with
  | nil => exact Esp.oblivious_pure _
  | cons address rest ih =>
      exact mallocOrFail_oblivious.bind fun _ => ih.bind fun _ => Esp.oblivious_pure _

theorem threadGetAddresses_oblivious (addresses : OpenThread → List CStr) :
    (threadGetAddresses addresses).Oblivious :=
  (requireInstance_oblivious _).bind fun _ => duplicateAddresses_oblivious _

theorem threadGetActiveDatasetTlvs_oblivious : threadGetActiveDatasetTlvs.Oblivious := by
  refine (requireInstance_oblivious _).bind fun openThread => ?_
  split
  · simp
  · split <;> simp

/-! ## Wi-Fi -/

theorem nvsSetStr_oblivious (set : WifiNvs → WifiNvs) :
    Oblivious World.withAllocs (nvsSetStr set) := by
  refine nvsOutcome_oblivious.bind fun outcome => ?_
  cases outcome with
  | some err => exact Lib.Oblivious.pure _
  | none => exact modifyBoard_oblivious _

theorem wifiStaConnect_oblivious (ssid password : CStr) :
    (wifiStaConnect ssid password).Oblivious := by
  have hsave : (saveWifiStaCredentials ssid password).Oblivious := by
    refine nvs_oblivious ?_
    refine Esp.Oblivious.bind (Esp.oblivious_lift (nvsSetStr_oblivious _)) fun _ => ?_
    refine Esp.Oblivious.bind (Esp.oblivious_lift (nvsSetStr_oblivious _)) fun _ => ?_
    exact nvs_oblivious (Esp.oblivious_pure _)
  refine hsave.bind fun _ => ?_
  refine Esp.Oblivious.bind (Esp.oblivious_lift (modifyBoard_oblivious _)) fun _ => ?_
  refine Esp.Oblivious.bind (Esp.oblivious_lift stackOutcome_oblivious) fun _ => ?_
  exact (espCall_oblivious _).bind fun _ => espCall_oblivious _

/-! ## Matter -/

theorem executeCmdInvokeCommand_oblivious (destinationId : UInt64) (endpointId : UInt16)
    (clusterId commandId : UInt32) (payloadJson : CStr) :
    (executeCmdInvokeCommand destinationId endpointId clusterId commandId payloadJson).Oblivious :=
  (orFail_stack_oblivious _).bind fun _ => espCall_oblivious _

theorem attributeCall_oblivious (request : Request) : (attributeCall request).Oblivious :=
  mallocOrFail_oblivious.bind fun _ => (orFail_stack_oblivious _).bind fun _ =>
    mallocOrFail_oblivious.bind fun _ => espCall_oblivious request

theorem executeAttrReadCommand_oblivious (nodeId : UInt64) (endpointId : UInt16)
    (clusterId attributeId : UInt32) :
    (executeAttrReadCommand nodeId endpointId clusterId attributeId).Oblivious :=
  attributeCall_oblivious _

theorem executeAttrSubscribeCommand_oblivious (nodeId : UInt64) (endpointId : UInt16)
    (clusterId attributeId : UInt32) (minInterval maxInterval : UInt16) :
    (executeAttrSubscribeCommand nodeId endpointId clusterId attributeId minInterval
      maxInterval).Oblivious :=
  attributeCall_oblivious _

theorem executeMatterPairBleThreadCommand_unaffected (nodeId : UInt64) (pin : UInt32)
    (discriminator : UInt16) :
    (executeMatterPairBleThreadCommand nodeId pin discriminator).Unaffected :=
  Esp.Unaffected.bind mallocOrFail_oblivious fun _ =>
    Esp.Unaffected.bind threadGetActiveDatasetTlvs_oblivious fun _ =>
      Esp.Unaffected.bind (espCall_oblivious _) fun _ =>
        Esp.unaffected_ignore (deviceRegistryUpsertDevice_unaffected _)

theorem executeMatterControllerInitCommand_unaffected (cfg : Config) (nodeId fabricId : UInt64)
    (listenPort : UInt16) :
    (executeMatterControllerInitCommand cfg nodeId fabricId listenPort).Unaffected := by
  have hinit : (matterControllerInit cfg nodeId fabricId listenPort).Oblivious := by
    refine (espCall_oblivious _).bind fun _ => ?_
    split
    · exact espCall_oblivious _
    · exact Esp.oblivious_pure _
  refine Esp.Unaffected.bind hinit fun _ => ?_
  refine Esp.Unaffected.bind (Esp.oblivious_lift (modifyBoard_oblivious _)) fun _ => ?_
  exact broadcasts_unaffected _

end Orchestrator.Commands
