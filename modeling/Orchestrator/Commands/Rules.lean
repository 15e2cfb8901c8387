import Orchestrator.Commands.Matter
import Orchestrator.Commands.Wifi
import Orchestrator.Registry.Rules

/-!
# What the commands keep

A predicate on worlds that the single effects of the commands keep is kept by
each command. The strings that the commands take from the board satisfy `P`.
-/

namespace Orchestrator

open Lib

/-- The strings that OpenThread reports. -/
structure OpenThread.Strings (P : CStr → Prop) (o : OpenThread) : Prop where
  networkName : ∀ dataset ∈ o.activeDataset, P dataset.networkName
  unicast : ∀ address ∈ o.unicastAddresses, P address
  multicast : ∀ address ∈ o.multicastAddresses, P address

end Orchestrator

namespace Orchestrator.Commands

open Lib Handler Registry State

/-- Every record of the store has strings of `P`. -/
structure StoredStrings (P : CStr → Prop) (s : RegistryStore) : Prop where
  count : s.count.toNat ≤ maxRecords
  strings : ∀ r ∈ s.devices, r.Strings P

/-- The predicate is kept when the request is handed to another stack. -/
def Takes (I : World → Prop) (request : Request) : Prop :=
  ∀ w, I w → I { w with board := { w.board with requests := w.board.requests ++ [request] } }

/-- Handing anything to another stack keeps `I`, however the stack takes it. -/
structure CallInvariant (I : World → Prop) : Prop extends UnforeseenNvs I where
  request : ∀ request, Takes I request

/-- Every single effect of a command keeps `I`, under which strings of `P` are on the board. -/
structure CommandInvariant (p : Platform) (P : CStr → Prop) (I : World → Prop) : Prop
    extends CallInvariant I, StoreInvariant (StoredStrings P) I where
  texts : Texts P
  role : ∀ role, P (p.otThreadDeviceRoleToString role)
  openThread : ∀ w, I w → w.board.openThread.Strings P
  state : ∀ w, I w → w.board.state.Strings P
  wifi : ∀ w n, I w → I { w with board := { w.board with wifi := n } }
  initialized : ∀ w, I w → I { w with board := { w.board with
    state := w.board.state.setMatterControllerInitialized true } }

/-- Every single effect of a command that only reads the registry keeps `I`. -/
structure ReadInvariant (p : Platform) (P : CStr → Prop) (I : World → Prop) : Prop
    extends CallInvariant I, LoadInvariant (StoredStrings P) I where
  event : ∀ e : String, Esp.Keeps I (orchestratorStateBroadcastEvent (CStr.lit e) none)
    fun _ => True
  snapshot : Esp.Keeps I orchestratorStateBroadcastSnapshot fun _ => True
  texts : Texts P
  role : ∀ role, P (p.otThreadDeviceRoleToString role)
  openThread : ∀ w, I w → w.board.openThread.Strings P
  state : ∀ w, I w → w.board.state.Strings P
  wifi : ∀ w n, I w → I { w with board := { w.board with wifi := n } }
  initialized : ∀ w, I w → I { w with board := { w.board with
    state := w.board.state.setMatterControllerInitialized true } }

theorem CommandInvariant.toReadInvariant {p : Platform} {P : CStr → Prop} {I : World → Prop}
    (h : CommandInvariant p P I) : ReadInvariant p P I := { h with }

/-! ## Calls into other stacks -/

section Calls

variable {I : World → Prop} {request : Request}

theorem hand_keeps (htakes : Takes I request) : Keeps I (hand request) fun _ => True :=
  modifyBoard_keeps fun w hw => htakes w hw

variable (hI : Unforeseen I)

include hI

theorem espCall_keeps (htakes : Takes I request) : Esp.Keeps I (espCall request) fun _ => True := by
  apply Esp.Keeps.bind (Esp.Keeps.lift (hand_keeps htakes))
  rintro - -
  apply Esp.Keeps.bind (Esp.Keeps.lift hI.stackOutcome)
  rintro (- | err) -
  · exact Esp.Keeps.pure trivial
  · exact Esp.Keeps.throw

theorem otCall_keeps (htakes : Takes I request) : Esp.Keeps I (otCall request) fun _ => True := by
  apply Esp.Keeps.bind (Esp.Keeps.lift (hand_keeps htakes))
  rintro - -
  apply Esp.Keeps.bind (Esp.Keeps.lift hI.stackOutcome)
  rintro (- | err) -
  · exact Esp.Keeps.pure trivial
  · exact Esp.Keeps.throw

theorem orFail_keeps (err : EspErr) : Esp.Keeps I (orFail stackOutcome err) fun _ => True := by
  apply Esp.Keeps.bind (Esp.Keeps.lift hI.stackOutcome)
  rintro (- | _) -
  · exact Esp.Keeps.pure trivial
  · exact Esp.Keeps.throw

theorem mallocOrFail_keeps : Esp.Keeps I mallocOrFail fun _ => True := by
  apply Esp.Keeps.bind (Esp.Keeps.lift hI.malloc)
  rintro ok -
  split
  · exact Esp.Keeps.pure trivial
  · exact Esp.Keeps.throw

omit hI in
theorem requireInstance_keeps {Q : OpenThread → Prop} (hQ : ∀ w, I w → Q w.board.openThread)
    (err : EspErr) : Esp.Keeps I (requireInstance err) Q := by
  apply Esp.Keeps.bind (Q := fun b => Q b.openThread)
  · exact Esp.Keeps.lift (getBoard_keeps hQ)
  · intro board hboard
    dsimp only
    split
    · exact Esp.Keeps.pure hboard
    · exact Esp.Keeps.throw

/-- A dataset that has been set was parsed from the texts. -/
theorem threadDatasetInit_keeps {p : Platform} {channel panId : UInt16} {texts : DatasetTexts}
    (htakes : ∀ dataset, parseDataset p channel panId texts = some dataset →
      Takes I (.datasetSetActive dataset)) :
    Esp.Keeps I (threadDatasetInit p channel panId texts) fun _ =>
      (parseDataset p channel panId texts).isSome := by
  apply Esp.Keeps.bind (requireInstance_keeps (Q := fun _ => True) (fun _ _ => trivial) _)
  rintro - -
  apply Esp.Keeps.bind (orFail_keeps hI _)
  rintro - -
  apply Esp.Keeps.bind (mallocOrFail_keeps hI)
  rintro - -
  cases hparse : parseDataset p channel panId texts with
  | none => exact Esp.Keeps.throw
  | some dataset => exact (otCall_keeps hI (htakes dataset hparse)).weaken fun _ _ => rfl

theorem duplicateAddresses_keeps (addresses : List CStr) :
    Esp.Keeps I (duplicateAddresses addresses) fun found => found = addresses := by
  induction addresses with
  | nil => exact Esp.Keeps.pure rfl
  | cons address rest ih =>
      apply Esp.Keeps.bind (mallocOrFail_keeps hI)
      rintro - -
      apply Esp.Keeps.bind ih
      rintro _ rfl
      exact Esp.Keeps.pure rfl

omit hI in
theorem threadGetActiveDatasetTlvs_keeps :
    Esp.Keeps I threadGetActiveDatasetTlvs fun _ => True := by
  apply Esp.Keeps.bind (requireInstance_keeps (Q := fun _ => True) (fun _ _ => trivial) _)
  rintro openThread -
  cases openThread.activeDatasetTlvs with
  | none => exact Esp.Keeps.throw
  | some tlvs =>
      dsimp only
      split
      · exact Esp.Keeps.throw
      · exact Esp.Keeps.pure trivial

theorem executeCmdInvokeCommand_keeps {destinationId : UInt64} {endpointId : UInt16}
    {clusterId commandId : UInt32} {payloadJson : CStr}
    (htakes : Takes I (.invokeCluster destinationId endpointId clusterId commandId payloadJson)) :
    Esp.Keeps I (executeCmdInvokeCommand destinationId endpointId clusterId commandId payloadJson)
      fun _ => True :=
  Esp.Keeps.bind (orFail_keeps hI _) fun _ _ => espCall_keeps hI htakes

theorem attributeCall_keeps (htakes : Takes I request) :
    Esp.Keeps I (attributeCall request) fun _ => True := by
  apply Esp.Keeps.bind (mallocOrFail_keeps hI)
  rintro - -
  apply Esp.Keeps.bind (orFail_keeps hI _)
  rintro - -
  exact Esp.Keeps.bind (mallocOrFail_keeps hI) fun _ _ => espCall_keeps hI htakes

theorem executeAttrReadCommand_keeps {nodeId : UInt64} {endpointId : UInt16}
    {clusterId attributeId : UInt32}
    (htakes : Takes I (.readAttribute nodeId endpointId clusterId attributeId)) :
    Esp.Keeps I (executeAttrReadCommand nodeId endpointId clusterId attributeId)
      fun _ => True :=
  attributeCall_keeps hI htakes

theorem executeAttrSubscribeCommand_keeps {nodeId : UInt64} {endpointId : UInt16}
    {clusterId attributeId : UInt32} {minInterval maxInterval : UInt16}
    (htakes : Takes I (.subscribeAttribute nodeId endpointId clusterId attributeId minInterval
      maxInterval true)) :
    Esp.Keeps I (executeAttrSubscribeCommand nodeId endpointId clusterId attributeId minInterval
      maxInterval) fun _ => True :=
  attributeCall_keeps hI htakes

/-- A node that is paired is recorded, whatever becomes of the record. -/
theorem pairBleThread_keeps {nodeId : UInt64} {R : Unit → Prop}
    (htakes : ∀ request, Takes I request)
    (hupsert : Esp.Keeps I (deviceRegistryUpsertDevice (pairedRecord nodeId)) R) (pin : UInt32)
    (discriminator : UInt16) :
    Esp.Keeps I (executeMatterPairBleThreadCommand nodeId pin discriminator) fun _ => True := by
  apply Esp.Keeps.bind (mallocOrFail_keeps hI)
  rintro - -
  apply Esp.Keeps.bind threadGetActiveDatasetTlvs_keeps
  rintro tlvs -
  apply Esp.Keeps.bind (espCall_keeps hI (htakes _))
  rintro - -
  exact hupsert.ignore

end Calls

variable {p : Platform} {P : CStr → Prop} {I : World → Prop}

section Reads

variable (h : ReadInvariant p P I)

include h

/-! ## Thread -/

theorem ifconfig_keeps (up : Bool) : Esp.Keeps I (ifconfig up) fun _ => True :=
  Esp.Keeps.bind (requireInstance_keeps h.openThread _) fun _ _ => otCall_keeps h.toUnforeseen (h.request _)

theorem threadSetEnabled_keeps (enabled : Bool) :
    Esp.Keeps I (threadSetEnabled enabled) fun _ => True :=
  Esp.Keeps.bind (requireInstance_keeps h.openThread _) fun _ _ => otCall_keeps h.toUnforeseen (h.request _)

theorem threadGetActiveDataset_keeps :
    Esp.Keeps I threadGetActiveDataset fun dataset => P dataset.networkName := by
  apply Esp.Keeps.bind (requireInstance_keeps h.openThread _)
  intro openThread hstrings
  cases hdataset : openThread.activeDataset with
  | some dataset => exact Esp.Keeps.pure (hstrings.networkName dataset hdataset)
  | none => exact Esp.Keeps.throw

theorem threadGetAddresses_keeps {addresses : OpenThread → List CStr}
    (haddresses : ∀ o : OpenThread, o.Strings P → ∀ a ∈ addresses o, P a) :
    Esp.Keeps I (threadGetAddresses addresses) fun found => ∀ a ∈ found, P a := by
  apply Esp.Keeps.bind (requireInstance_keeps h.openThread _)
  intro openThread hstrings
  apply (duplicateAddresses_keeps h.toUnforeseen _).weaken
  rintro _ rfl a ha
  exact haddresses openThread hstrings a (List.mem_of_mem_take ha)

/-! ## Wi-Fi -/

theorem nvsSetStr_keeps (set : WifiNvs → WifiNvs) : Keeps I (nvsSetStr set) fun _ => True := by
  apply Keeps.bind h.nvsOutcome
  rintro (- | err) -
  · exact modifyBoard_keeps fun w hw => h.wifi w _ hw
  · exact Keeps.pure trivial

theorem saveWifiStaCredentials_keeps (staSsid staPassword : CStr) :
    Esp.Keeps I (saveWifiStaCredentials staSsid staPassword) fun _ => True := by
  apply nvs_keeps h.toUnforeseenNvs fun _ => rfl
  apply Esp.Keeps.bind (Esp.Keeps.lift (nvsSetStr_keeps h _))
  rintro - -
  apply Esp.Keeps.bind (Esp.Keeps.lift (nvsSetStr_keeps h _))
  rintro - -
  apply nvs_keeps h.toUnforeseenNvs fun _ => rfl
  exact Esp.Keeps.pure trivial

theorem wifiStaConnect_keeps (ssid password : CStr) :
    Esp.Keeps I (wifiStaConnect ssid password) fun _ => True := by
  apply Esp.Keeps.bind (saveWifiStaCredentials_keeps h ssid password)
  rintro - -
  apply Esp.Keeps.bind (Esp.Keeps.lift (hand_keeps (h.request _)))
  rintro - -
  apply Esp.Keeps.bind (Esp.Keeps.lift h.stackOutcome)
  rintro - -
  exact Esp.Keeps.bind (espCall_keeps h.toUnforeseen (h.request _)) fun _ _ => espCall_keeps h.toUnforeseen (h.request _)

/-! ## Reading the registry, and the controller -/

theorem getDevice_keeps (deviceId : CStr) :
    Esp.Keeps I (deviceRegistryGetDevice deviceId) (DeviceRecord.Strings P) := by
  apply (deviceRegistryGetDevice_keeps h.toLoadInvariant deviceId).weaken
  rintro r ⟨s, hs, hr⟩
  exact hs.strings r (List.mem_of_find?_eq_some hr)

theorem executeMatterControllerInitCommand_keeps (cfg : Config) (nodeId fabricId : UInt64)
    (listenPort : UInt16) :
    Esp.Keeps I (executeMatterControllerInitCommand cfg nodeId fabricId listenPort)
      fun _ => True := by
  have hinit : Esp.Keeps I (matterControllerInit cfg nodeId fabricId listenPort)
      fun _ => True := by
    apply Esp.Keeps.bind (espCall_keeps h.toUnforeseen (h.request _))
    rintro - -
    split
    · exact espCall_keeps h.toUnforeseen (h.request _)
    · exact Esp.Keeps.pure trivial
  apply Esp.Keeps.bind hinit
  rintro - -
  apply Esp.Keeps.bind (Esp.Keeps.lift (modifyBoard_keeps h.initialized))
  rintro - -
  exact Esp.Keeps.bind (h.event _).ignore fun _ _ => h.snapshot.ignore

end Reads

/-! ## Writing the registry -/

variable (h : CommandInvariant p P I)

include h

theorem upsertDevice_keeps {record : DeviceRecord} (hrecord : record.Strings P) :
    Esp.Keeps I (deviceRegistryUpsertDevice record) fun _ => True := by
  apply deviceRegistryUpsertDevice_keeps h.toStoreInvariant
  · rintro s i hs -
    constructor
    · exact hs.count
    · intro r hr
      rw [devices_set] at hr
      rcases List.mem_or_eq_of_mem_set hr with hr | rfl
      · exact hs.strings r hr
      · exact hrecord
  · rintro s hs - hroom
    constructor
    · rw [toNat_count_append hroom]
      exact hroom
    · intro r hr
      rw [devices_append hroom] at hr
      rcases List.mem_append.mp hr with hr | hr
      · exact hs.strings r hr
      · exact List.mem_singleton.mp hr ▸ hrecord

theorem removeDevice_keeps (deviceId : CStr) :
    Esp.Keeps I (deviceRegistryRemoveDevice deviceId) fun _ => True := by
  apply deviceRegistryRemoveDevice_keeps h.toStoreInvariant
  intro s i hs hfind
  have hi := lt_of_findRecord hfind
  constructor
  · dsimp only
    rw [toNat_count_remove hi]
    exact Nat.le_trans (Nat.sub_le _ _) hs.count
  · intro r hr
    rw [devices_remove hi hs.count] at hr
    exact hs.strings r (List.mem_of_mem_eraseIdx hr)

theorem renameDevice_keeps {deviceId label : CStr} (hlabel : P (label.take 31)) :
    Esp.Keeps I (deviceRegistryRenameDevice deviceId label) fun _ => True := by
  apply deviceRegistryRenameDevice_keeps h.toStoreInvariant
  intro s i hs hfind
  obtain ⟨r, hr, hset⟩ := setLabel_eq (lt_of_findRecord hfind) hs.count label
  have hstrings := hs.strings r (List.mem_of_getElem? hr)
  constructor
  · exact hs.count
  · intro r' hr'
    rw [hset, devices_set] at hr'
    rcases List.mem_or_eq_of_mem_set hr' with hr' | rfl
    · exact hs.strings r' hr'
    · refine { hstrings with label := ?_ }
      rw [DeviceRecord.relabel, CharArray.toCStr_copyField 31 label]
      exact hlabel

omit h in
theorem pairedRecord_strings (ht : Texts P) (nodeId : UInt64) :
    (pairedRecord nodeId).Strings P := by
  have hzero : P (CharArray.toCStr (Vector.replicate 32 0)) := by
    have heq : CharArray.toCStr (Vector.replicate 32 0) = CStr.lit "" := by decide
    rw [heq]
    exact ht.lit ""
  constructor
  · rw [deviceId_pairedRecord]
    exact ht.append _ _ (ht.lit _) (ht.decimal _)
  · rw [label_pairedRecord]
    exact ht.append _ _ (ht.lit _) (ht.take_decimal _ _)
  · exact hzero
  · exact hzero
  · exact fun c hc => absurd hc List.not_mem_nil

theorem executeMatterPairBleThreadCommand_keeps (nodeId : UInt64) (pin : UInt32)
    (discriminator : UInt16) :
    Esp.Keeps I (executeMatterPairBleThreadCommand nodeId pin discriminator) fun _ => True :=
  pairBleThread_keeps h.toUnforeseen h.request
    (upsertDevice_keeps h (pairedRecord_strings h.texts nodeId)) pin discriminator

end Orchestrator.Commands
