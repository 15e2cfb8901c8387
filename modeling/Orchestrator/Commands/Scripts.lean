import Orchestrator.Commands.Rules
import Orchestrator.Lib.Log

/-!
# The calls of a command, in order

A command calls the Thread, Wi-Fi or Matter stack in a fixed order, and goes on only after a
call that succeeded. What it hands over is a prefix of its script, and the whole script when
it returns without an error.
-/

namespace Orchestrator.Commands

open Lib Handler Registry State

/-- What has been handed to the stacks. -/
def handed (w : World) : List Request := w.board.requests

variable {I : World → Prop} {script : List Request}

theorem CallInvariant.done (hI : CallInvariant I) (done : List Request) :
    UnforeseenNvs fun w => handed w = done ∧ I w where
  allocs w hw := ⟨hw.1, hI.allocs w hw.2⟩
  heap w hw := ⟨hw.1, hI.heap w hw.2⟩
  httpd w hw := ⟨hw.1, hI.httpd w hw.2⟩
  stack w hw := ⟨hw.1, hI.stack w hw.2⟩
  nvs w f hw := ⟨hw.1, hI.nvs w f hw.2⟩

variable (hI : CallInvariant I)

include hI

/-! ## Single calls -/

theorem hand_follows (request : Request) :
    Follows I handed [request] (liftM (hand request) : Esp Unit) fun _ => True := by
  rintro done w ⟨rfl, hw⟩
  refine ⟨hI.request request w hw, [request], rfl, List.prefix_rfl, ?_⟩
  exact fun _ _ => ⟨rfl, trivial⟩

theorem espCall_follows (request : Request) :
    Follows I handed [request] (espCall request) fun _ => True := by
  rintro done w ⟨rfl, hw⟩
  rw [espCall_run]
  refine ⟨hI.stack _ (hI.request request w hw), [request], rfl, List.prefix_rfl, ?_⟩
  exact fun _ _ => ⟨rfl, trivial⟩

theorem otCall_follows (request : Request) :
    Follows I handed [request] (otCall request) fun _ => True := by
  rintro done w ⟨rfl, hw⟩
  rw [otCall_run]
  refine ⟨hI.stack _ (hI.request request w hw), [request], rfl, List.prefix_rfl, ?_⟩
  exact fun _ _ => ⟨rfl, trivial⟩

theorem stackOutcome_follows :
    Follows I handed [] (liftM stackOutcome : Esp (Option EspErr)) fun _ => True :=
  .of_keeps fun done => Esp.Keeps.lift (hI.done done).stackOutcome

theorem orFail_follows (err : EspErr) :
    Follows I handed [] (orFail stackOutcome err) fun _ => True :=
  .of_keeps fun done => orFail_keeps (hI.done done).toUnforeseen err

theorem mallocOrFail_follows : Follows I handed [] mallocOrFail fun _ => True :=
  .of_keeps fun done => mallocOrFail_keeps (hI.done done).toUnforeseen

omit hI in
theorem requireInstance_follows {Q : OpenThread → Prop} (hQ : ∀ w, I w → Q w.board.openThread)
    (err : EspErr) : Follows I handed [] (requireInstance err) Q :=
  .of_keeps fun _ => requireInstance_keeps (fun w hw => hQ w hw.2) err

/-! ## Thread -/

theorem ifconfig_follows (up : Bool) :
    Follows I handed [.ip6SetEnabled up] (ifconfig up) fun _ => True :=
  (requireInstance_follows (Q := fun _ => True) (fun _ _ => trivial) _).bind
    fun _ _ => otCall_follows hI _

theorem threadSetEnabled_follows (enabled : Bool) :
    Follows I handed [.threadSetEnabled enabled] (threadSetEnabled enabled) fun _ => True :=
  (requireInstance_follows (Q := fun _ => True) (fun _ _ => trivial) _).bind
    fun _ _ => otCall_follows hI _

theorem executeThreadEnableCommand_follows :
    Follows I handed [.ip6SetEnabled true, .threadSetEnabled true]
      executeThreadEnableCommand fun _ => True :=
  (ifconfig_follows hI true).bind fun _ _ => threadSetEnabled_follows hI true

/-- The stack is stopped before its interface goes down. -/
theorem executeThreadDisableCommand_follows :
    Follows I handed [.threadSetEnabled false, .ip6SetEnabled false]
      executeThreadDisableCommand fun _ => True :=
  (threadSetEnabled_follows hI false).bind fun _ _ => ifconfig_follows hI false

theorem threadDatasetInit_follows (p : Platform) (channel panId : UInt16)
    (texts : DatasetTexts) :
    Follows I handed ((parseDataset p channel panId texts).map Request.datasetSetActive).toList
      (threadDatasetInit p channel panId texts) fun _ => True := by
  refine (requireInstance_follows (Q := fun _ => True) (fun _ _ => trivial) _).bind fun _ _ => ?_
  refine (orFail_follows hI _).bind fun _ _ => ?_
  refine (mallocOrFail_follows hI).bind fun _ _ => ?_
  cases parseDataset p channel panId texts with
  | none => exact .throw
  | some dataset => exact otCall_follows hI _

/-! ## Wi-Fi -/

theorem saveWifiStaCredentials_follows
    (hwifi : ∀ w n, I w → I { w with board := { w.board with wifi := n } })
    (ssid password : CStr) :
    Follows I handed [] (saveWifiStaCredentials ssid password) fun _ => True := by
  apply Follows.of_keeps
  intro done
  have hset : ∀ set, Keeps (fun w => handed w = done ∧ I w) (nvsSetStr set) fun _ => True := by
    intro set
    apply Keeps.bind (hI.done done).nvsOutcome
    rintro (- | err) -
    · exact modifyBoard_keeps fun w hw => ⟨hw.1, hwifi w _ hw.2⟩
    · exact Keeps.pure trivial
  apply nvs_keeps (hI.done done) fun _ => rfl
  apply Esp.Keeps.bind (Esp.Keeps.lift (hset _))
  rintro - -
  apply Esp.Keeps.bind (Esp.Keeps.lift (hset _))
  rintro - -
  apply nvs_keeps (hI.done done) fun _ => rfl
  exact Esp.Keeps.pure trivial

/-- Whether the old connection can be ended does not matter. -/
theorem wifiStaConnect_follows
    (hwifi : ∀ w n, I w → I { w with board := { w.board with wifi := n } })
    (ssid password : CStr) :
    Follows I handed
      [.wifiDisconnect, .wifiSetConfig (ssid.take 31) (password.take 63), .wifiConnect]
      (wifiStaConnect ssid password) fun _ => True := by
  refine (saveWifiStaCredentials_follows hI hwifi ssid password).bind fun _ _ => ?_
  refine (hand_follows hI _).bind fun _ _ => ?_
  refine (stackOutcome_follows hI).bind fun _ _ => ?_
  exact (espCall_follows hI _).bind fun _ _ => espCall_follows hI _

/-! ## Matter -/

theorem executeCmdInvokeCommand_follows (destinationId : UInt64) (endpointId : UInt16)
    (clusterId commandId : UInt32) (payloadJson : CStr) :
    Follows I handed [.invokeCluster destinationId endpointId clusterId commandId payloadJson]
      (executeCmdInvokeCommand destinationId endpointId clusterId commandId payloadJson)
      fun _ => True :=
  (orFail_follows hI _).bind fun _ _ => espCall_follows hI _

theorem attributeCall_follows (request : Request) :
    Follows I handed [request] (attributeCall request) fun _ => True := by
  refine (mallocOrFail_follows hI).bind fun _ _ => ?_
  refine (orFail_follows hI _).bind fun _ _ => ?_
  exact (mallocOrFail_follows hI).bind fun _ _ => espCall_follows hI _

/-- The calls of `matter_controller_init` in this build. -/
def controllerScript (cfg : Config) (nodeId fabricId : UInt64) (listenPort : UInt16) :
    List Request :=
  .controllerInit nodeId fabricId listenPort ::
    if cfg.espMatterCommissionerEnable then [.setupCommissioner] else []

theorem matterControllerInit_follows (cfg : Config) (nodeId fabricId : UInt64)
    (listenPort : UInt16) :
    Follows I handed (controllerScript cfg nodeId fabricId listenPort)
      (matterControllerInit cfg nodeId fabricId listenPort) fun _ => True := by
  refine (espCall_follows hI (.controllerInit nodeId fabricId listenPort)).bind fun _ _ => ?_
  cases cfg.espMatterCommissionerEnable with
  | true => exact espCall_follows hI _
  | false => exact Follows.pure trivial

end Orchestrator.Commands
