import Orchestrator.Commands.Oblivious
import Orchestrator.Messages.Payload

/-!
# Commands and their payloads

The cJSON calls of a command come last: everything else that it does is a
preparation that would be the same whatever became of them.
-/

namespace Orchestrator.Messages

open Lib Handler Registry State Commands Alloc

/-! ## Commands without their payloads -/

/-- How a command goes on when nothing is left to do but build its payload. -/
inductive Ending
  | result (r : CommandExecutionResult) (h : r.payload = none)
  | building (payload : Payload) (message : String)

/-- The last step of a command. -/
def Ending.finish : Ending → Handler CommandExecutionResult
  | .result r _ => return r
  | .building payload message => reply payload.build message

/-- The command is this preparation, which does not depend on the memory of cJSON, and the
last step. -/
structure Prepares (prepare : Handler Ending) (command : Handler CommandExecutionResult) : Prop where
  run : command = prepare >>= Ending.finish
  unaffected : Unaffected World.withAllocs allSucceed prepare

/-- A command that can be divided in this way. -/
def Divisible (command : Handler CommandExecutionResult) : Prop :=
  ∃ prepare, Prepares prepare command

theorem failed_divisible (err : EspErr) (message : String) :
    Divisible (return failed err message) :=
  ⟨pure (.result (failed err message) rfl), rfl, Unaffected.pure _⟩

theorem report_divisible {op : Esp Unit} (hop : op.Unaffected) : Divisible (report op) :=
  ⟨(fun err => .result (commandResult err none none) rfl) <$> op.run, rfl, hop.map _⟩

theorem reply_divisible (payload : Payload) (message : String) :
    Divisible (reply payload.build message) :=
  ⟨pure (.building payload message), rfl, Unaffected.pure _⟩

section OnOk

variable {α : Type} {op : Esp α} {message : Option String}
  {next : α → Handler CommandExecutionResult}

theorem onOk_divisible (hop : op.Oblivious) (hnext : ∀ a, Divisible (next a)) :
    Divisible (onOk op message next) := by
  choose prepare hprepare using hnext
  let rest : EspResult α → Handler Ending := fun r => match r with
    | .error err => return .result (commandResult (.error err) none (message.map CStr.lit)) rfl
    | .ok a => prepare a
  refine ⟨op.run >>= rest, ?_, Unaffected.bind hop fun r => ?_⟩
  · rw [onOk, bind_assoc]
    congr 1
    funext r
    cases r with
    | error err => rfl
    | ok a => exact (hprepare a).run
  · cases r with
    | error err => exact Unaffected.pure _
    | ok a => exact (hprepare a).unaffected

/-- When only the payload is left, it is enough that the result of the call does not
depend on the memory of cJSON. -/
theorem onOk_reply_divisible (hop : op.Unaffected) (payload : α → Payload) (text : String) :
    Divisible (onOk op message fun a => reply (payload a).build text) := by
  let rest : EspResult α → Ending := fun r => match r with
    | .error err => .result (commandResult (.error err) none (message.map CStr.lit)) rfl
    | .ok a => .building (payload a) text
  refine ⟨rest <$> op.run, ?_, hop.map rest⟩
  rw [onOk, bind_map_left]
  congr 1
  funext r
  cases r with
  | error err => rfl
  | ok a => rfl

end OnOk

/-! ## The branches -/

variable {cfg : Config} {p : Platform}

theorem threadDatasetInitBranch_divisible (payload : Json) :
    Divisible (threadDatasetInitBranch p payload) := by
  unfold threadDatasetInitBranch
  split
  · exact report_divisible (threadDatasetInit_oblivious p _ _ _).unaffected
  · exact failed_divisible _ _

theorem threadStatusGet_divisible (payload : Json) : Divisible (threadStatusGet payload) :=
  onOk_divisible ((requireInstance_oblivious _).bind fun _ => Esp.oblivious_pure _)
    fun isRunning => reply_divisible (.object [(CStr.lit "running", .bool isRunning)]) _

theorem threadAttachedGet_divisible (payload : Json) : Divisible (threadAttachedGet payload) :=
  onOk_divisible ((requireInstance_oblivious _).bind fun _ => Esp.oblivious_pure _)
    fun isAttached => reply_divisible (.object [(CStr.lit "attached", .bool isAttached)]) _

theorem threadRoleGet_divisible (payload : Json) : Divisible (threadRoleGet p payload) :=
  onOk_divisible ((requireInstance_oblivious _).bind fun _ => Esp.oblivious_pure _)
    fun role => reply_divisible (.object [(CStr.lit "role", .string role)]) _

theorem threadActiveDatasetGet_divisible (payload : Json) :
    Divisible (threadActiveDatasetGet payload) :=
  onOk_divisible threadGetActiveDataset_oblivious fun _ => reply_divisible (.object _) _

theorem threadAddressesGet_divisible (name : CStr) (addresses : OpenThread → List CStr)
    (payload : Json) : Divisible (threadAddressesGet name addresses payload) :=
  onOk_divisible (threadGetAddresses_oblivious addresses) fun found =>
    reply_divisible (.addresses name found) _

theorem wifiStaConnectBranch_divisible (payload : Json) :
    Divisible (wifiStaConnectBranch payload) := by
  unfold wifiStaConnectBranch
  split
  · exact report_divisible (wifiStaConnect_oblivious _ _).unaffected
  · exact failed_divisible _ _

theorem chamberStatusGet_divisible (payload : Json) : Divisible (chamberStatusGet payload) := by
  let ending : Board → Ending := fun b => .building (.state b.state) "Failed to build state payload"
  refine ⟨ending <$> getBoard, ?_, getBoard_oblivious.unaffected.map ending⟩
  unfold chamberStatusGet orchestratorStateToJson
  rw [bind_map_left, bind_assoc]
  congr 1

theorem deviceList_divisible (payload : Json) : Divisible (deviceList payload) := by
  let failure : Ending := .result (failed EspErr.noMem "Failed to build device registry payload") rfl
  let loaded : EspResult RegistryStore → Ending := fun r => match r with
    | .error _ => failure
    | .ok store => .building (.devices store.devices) "Failed to build device registry payload"
  let rest : Bool → Handler Ending := fun ok =>
    if ok = false then return failure else loaded <$> loadStore.run
  refine ⟨malloc >>= rest, ?_, Unaffected.bind malloc_oblivious fun ok => ?_⟩
  · unfold deviceList deviceRegistryToJson
    rw [bind_assoc, bind_assoc]
    congr 1
    funext ok
    cases ok with
    | false => rfl
    | true =>
        show ((loadStore.run : Handler (EspResult RegistryStore)) >>= _) >>= _ =
          (loaded <$> loadStore.run) >>= Ending.finish
        rw [bind_assoc, bind_map_left]
        congr 1
        funext r
        cases r with
        | error err => rfl
        | ok store => rfl
  · cases ok with
    | false => exact Unaffected.pure _
    | true => exact loadStore_oblivious.unaffected.map loaded

theorem deviceGet_divisible (payload : Json) : Divisible (deviceGet payload) := by
  unfold deviceGet
  split
  · exact failed_divisible _ _
  · exact onOk_divisible (deviceRegistryGetDevice_oblivious _) fun record =>
      reply_divisible (.device record) _

theorem deviceRemove_divisible (payload : Json) : Divisible (deviceRemove payload) := by
  unfold deviceRemove
  split
  · exact failed_divisible _ _
  · exact report_divisible (deviceRegistryRemoveDevice_unaffected _)

theorem deviceRename_divisible (payload : Json) : Divisible (deviceRename payload) := by
  unfold deviceRename
  split
  · exact report_divisible (deviceRegistryRenameDevice_unaffected _ _)
  · exact failed_divisible _ _

theorem addCapabilityCommand_divisible (payload : Json) :
    Divisible (addCapabilityCommand payload) := by
  unfold addCapabilityCommand
  split
  · exact failed_divisible _ _
  · next fields hfields =>
    split
    · exact failed_divisible _ _
    · next semantic hsemantic =>
      refine onOk_divisible (deviceRegistryGetDevice_oblivious _) fun record => ?_
      dsimp only
      split
      · exact failed_divisible _ _
      · split
        · exact failed_divisible _ _
        · next updated hupdated =>
          exact onOk_reply_divisible (deviceRegistryUpsertDevice_unaffected updated)
            (fun _ => .object _) _

theorem acceptedDevicePayload_divisible (deviceId : CStr) :
    Divisible (acceptedDevicePayload deviceId) :=
  reply_divisible (.accepted deviceId) _

theorem deviceSemanticRead_divisible (semantic : DeviceCapabilitySemanticType) (payload : Json) :
    Divisible (deviceSemanticRead semantic payload) := by
  unfold deviceSemanticRead
  split
  · exact failed_divisible _ _
  · exact onOk_divisible (deviceRegistryFindCapability_oblivious _ _) fun (record, capability) =>
      onOk_divisible (executeAttrReadCommand_oblivious _ _ _ _) fun _ =>
        acceptedDevicePayload_divisible _

theorem deviceAttribute_divisible (subscribe : Bool) (payload : Json) :
    Divisible (deviceAttribute subscribe payload) := by
  unfold deviceAttribute
  split
  · refine onOk_divisible (deviceRegistryGetDevice_oblivious _) fun record => ?_
    split
    · split
      · exact failed_divisible _ _
      · exact onOk_divisible (executeAttrSubscribeCommand_oblivious _ _ _ _ _ _) fun _ =>
          acceptedDevicePayload_divisible _
    · exact onOk_divisible (executeAttrReadCommand_oblivious _ _ _ _) fun _ =>
        acceptedDevicePayload_divisible _
  · exact failed_divisible _ _

theorem deviceRelaySet_divisible (payload : Json) : Divisible (deviceRelaySet payload) := by
  unfold deviceRelaySet
  split
  · exact onOk_divisible (deviceRegistryFindCapability_oblivious _ _) fun (record, capability) =>
      onOk_divisible (executeCmdInvokeCommand_oblivious _ _ _ _ _) fun _ =>
        reply_divisible (.object _) _
  · exact failed_divisible _ _

theorem matterControllerInitBranch_divisible (payload : Json) :
    Divisible (matterControllerInitBranch cfg p payload) := by
  unfold matterControllerInitBranch
  split
  · exact report_divisible (executeMatterControllerInitCommand_unaffected cfg _ _ _)
  · exact failed_divisible _ _

theorem matterPairBleThread_divisible (payload : Json) :
    Divisible (matterPairBleThread payload) := by
  unfold matterPairBleThread
  split
  · exact report_divisible (executeMatterPairBleThreadCommand_unaffected _ _ _)
  · exact failed_divisible _ _

theorem matterClusterCommandInvoke_divisible (payload : Json) :
    Divisible (matterClusterCommandInvoke payload) := by
  unfold matterClusterCommandInvoke
  split
  · exact report_divisible (executeCmdInvokeCommand_oblivious _ _ _ _ _).unaffected
  · exact failed_divisible _ _

theorem matterAttribute_divisible (subscribe : Bool) (payload : Json) :
    Divisible (matterAttribute subscribe payload) := by
  unfold matterAttribute
  split
  · split
    · split
      · exact failed_divisible _ _
      · exact onOk_divisible (executeAttrSubscribeCommand_oblivious _ _ _ _ _ _) fun _ =>
          reply_divisible (.object _) _
    · exact onOk_divisible (executeAttrReadCommand_oblivious _ _ _ _) fun _ =>
        reply_divisible (.object _) _
  · exact failed_divisible _ _

/-! ## The table -/

theorem threadBranches_divisible {entry : String × CommandHandler}
    (h : entry ∈ threadBranches cfg p) (payload : Json) : Divisible (entry.2 payload) := by
  simp only [threadBranches, List.mem_append, List.mem_cons, List.not_mem_nil, or_false] at h
  rcases h with (hcommon | hrouter) | rfl
  · rcases hcommon with rfl | rfl | rfl | rfl | rfl | rfl | rfl | rfl | rfl
    · exact report_divisible ((ifconfig_oblivious true).bind fun _ =>
        threadSetEnabled_oblivious true).unaffected
    · exact report_divisible ((threadSetEnabled_oblivious false).bind fun _ =>
        ifconfig_oblivious false).unaffected
    · exact threadDatasetInitBranch_divisible payload
    · exact threadStatusGet_divisible payload
    · exact threadAttachedGet_divisible payload
    · exact threadRoleGet_divisible payload
    · exact threadActiveDatasetGet_divisible payload
    · exact threadAddressesGet_divisible _ _ payload
    · exact threadAddressesGet_divisible _ _ payload
  · split at hrouter
    · obtain rfl := List.mem_singleton.mp hrouter
      exact report_divisible (espCall_oblivious _).unaffected
    · cases hrouter
  · exact report_divisible (espCall_oblivious _).unaffected

theorem deviceBranches_divisible {entry : String × CommandHandler} (h : entry ∈ deviceBranches)
    (payload : Json) : Divisible (entry.2 payload) := by
  simp only [deviceBranches, List.mem_cons, List.not_mem_nil, or_false] at h
  rcases h with rfl | rfl | rfl | rfl | rfl | rfl | rfl | rfl | rfl | rfl | rfl
  · exact chamberStatusGet_divisible payload
  · exact deviceList_divisible payload
  · exact deviceGet_divisible payload
  · exact deviceRemove_divisible payload
  · exact deviceRename_divisible payload
  · exact addCapabilityCommand_divisible payload
  · exact deviceSemanticRead_divisible .temperature payload
  · exact deviceSemanticRead_divisible .pressure payload
  · exact deviceAttribute_divisible false payload
  · exact deviceAttribute_divisible true payload
  · exact deviceRelaySet_divisible payload

theorem matterBranches_divisible {entry : String × CommandHandler}
    (h : entry ∈ matterBranches cfg p) (payload : Json) : Divisible (entry.2 payload) := by
  simp only [matterBranches, List.mem_cons, List.not_mem_nil, or_false] at h
  rcases h with rfl | rfl | rfl | rfl | rfl
  · exact matterControllerInitBranch_divisible payload
  · exact matterPairBleThread_divisible payload
  · exact matterClusterCommandInvoke_divisible payload
  · exact matterAttribute_divisible false payload
  · exact matterAttribute_divisible true payload

theorem branches_divisible {entry : String × CommandHandler} (h : entry ∈ branches cfg p)
    (payload : Json) : Divisible (entry.2 payload) := by
  simp only [branches, List.mem_append] at h
  rcases h with ((hthread | hwifi) | hdevice) | hmatter
  · split at hthread
    · exact threadBranches_divisible hthread payload
    · cases hthread
  · split at hwifi
    · obtain rfl := List.mem_singleton.mp hwifi
      exact wifiStaConnectBranch_divisible payload
    · cases hwifi
  · exact deviceBranches_divisible hdevice payload
  · exact matterBranches_divisible hmatter payload

theorem processCommandMessage_divisible (cfg : Config) (p : Platform) (action : CStr)
    (payload : Json) : Divisible (processCommandMessage cfg p action payload) := by
  unfold processCommandMessage
  cases hfind : findBranch cfg p action with
  | none => exact ⟨pure (.result (unknownActionResult action) rfl), rfl, Unaffected.pure _⟩
  | some branch =>
      obtain ⟨entry, hentry, rfl⟩ := Option.map_eq_some_iff.mp hfind
      exact branches_divisible (List.mem_of_find?_eq_some hentry) payload

end Orchestrator.Messages
