import Orchestrator.Messages.Frames
import Orchestrator.Secrets.Commands

/-!
# Replies do not tell secrets

A command is answered alike whatever the secrets in its payload are, as long as they are
accepted or refused alike.
-/

namespace Orchestrator.Messages

open Lib Handler Registry Server State Commands Alloc

/-! ## Results -/

section Results

variable {α β : Type} {S : α → β → Prop} {m n : Esp Unit} {op : Esp α} {op' : Esp β}

theorem report_related (h : Esp.Related m n Eq) : Related Alike (report m) (report n) Eq := by
  refine Related.bind h fun r r' hr => ?_
  obtain rfl := sameResult_eq.mp hr
  exact Related.pure rfl

theorem onOk_related {message : Option String} {next : α → Handler CommandExecutionResult}
    {next' : β → Handler CommandExecutionResult} (hop : Esp.Related op op' S)
    (hnext : ∀ a b, S a b → Related Alike (next a) (next' b) Eq) :
    Related Alike (onOk op message next) (onOk op' message next') Eq := by
  refine Related.bind hop fun r r' hr => ?_
  cases hr with
  | ok h => exact hnext _ _ h
  | error err => exact Related.pure rfl

theorem onOk_blind {message : Option String} {next : α → Handler CommandExecutionResult}
    (hop : op.Blind) (hnext : ∀ a, Blind (next a)) : Blind (onOk op message next) := by
  refine onOk_related hop ?_
  rintro a _ rfl
  exact hnext a

theorem reply_blind (out : Alloc (Option Json)) (message : String) : Blind (reply out message) :=
  (allocate_blind out).bind fun _ => Blind.pure _

end Results

/-! ## Commands without secrets -/

theorem threadActiveDatasetGet_blind (payload : Json) : Blind (threadActiveDatasetGet payload) := by
  refine onOk_related threadGetActiveDataset_alike fun d d' hd => ?_
  have heq : ∀ dataset : OperationalDataset, createObject
      [(CStr.lit "present", .bool true),
       (CStr.lit "active_timestamp", .number dataset.activeTimestamp.toNat),
       (CStr.lit "network_name", .string dataset.networkName),
       (CStr.lit "pan_id", .number dataset.panId.toNat),
       (CStr.lit "channel", .number dataset.channel.toNat)] = createObject
      [(CStr.lit "present", .bool true),
       (CStr.lit "active_timestamp", .number dataset.hidden.activeTimestamp.toNat),
       (CStr.lit "network_name", .string dataset.hidden.networkName),
       (CStr.lit "pan_id", .number dataset.hidden.panId.toNat),
       (CStr.lit "channel", .number dataset.hidden.channel.toNat)] := fun _ => rfl
  rw [heq d, heq d', hd]
  exact reply_blind _ _

theorem chamberStatusGet_blind (payload : Json) : Blind (chamberStatusGet payload) :=
  orchestratorStateToJson_blind.bind fun _ => Blind.pure _

theorem deviceList_blind (payload : Json) : Blind (deviceList payload) :=
  deviceRegistryToJson_blind.bind fun _ => Blind.pure _

theorem deviceGet_blind (payload : Json) : Blind (deviceGet payload) := by
  unfold deviceGet
  split
  · exact Blind.pure _
  · exact onOk_blind (deviceRegistryGetDevice_blind _) fun _ => reply_blind _ _

theorem deviceRemove_blind (payload : Json) : Blind (deviceRemove payload) := by
  unfold deviceRemove
  split
  · exact Blind.pure _
  · exact report_related (deviceRegistryRemoveDevice_blind _)

theorem deviceRename_blind (payload : Json) : Blind (deviceRename payload) := by
  unfold deviceRename
  split
  · exact report_related (deviceRegistryRenameDevice_blind _ _)
  · exact Blind.pure _

theorem addCapabilityCommand_blind (payload : Json) : Blind (addCapabilityCommand payload) := by
  unfold addCapabilityCommand
  split
  · exact Blind.pure _
  · split
    · exact Blind.pure _
    · refine onOk_blind (deviceRegistryGetDevice_blind _) fun record => ?_
      dsimp only
      split
      · exact Blind.pure _
      · split
        · exact Blind.pure _
        · exact onOk_blind (deviceRegistryUpsertDevice_blind _) fun _ => reply_blind _ _

theorem deviceSemanticRead_blind (semantic : DeviceCapabilitySemanticType) (payload : Json) :
    Blind (deviceSemanticRead semantic payload) := by
  unfold deviceSemanticRead
  split
  · exact Blind.pure _
  · exact onOk_blind (deviceRegistryFindCapability_blind _ _) fun _ =>
      onOk_blind (attributeCall_blind _) fun _ => reply_blind _ _

theorem deviceAttribute_blind (subscribe : Bool) (payload : Json) :
    Blind (deviceAttribute subscribe payload) := by
  unfold deviceAttribute
  split
  · refine onOk_blind (deviceRegistryGetDevice_blind _) fun record => ?_
    split
    · split
      · exact Blind.pure _
      · exact onOk_blind (attributeCall_blind _) fun _ => reply_blind _ _
    · exact onOk_blind (attributeCall_blind _) fun _ => reply_blind _ _
  · exact Blind.pure _

theorem deviceRelaySet_blind (payload : Json) : Blind (deviceRelaySet payload) := by
  unfold deviceRelaySet
  split
  · exact onOk_blind (deviceRegistryFindCapability_blind _ _) fun _ =>
      onOk_blind (executeCmdInvokeCommand_blind _ _ _ _ _) fun _ => reply_blind _ _
  · exact Blind.pure _

theorem matterControllerInitBranch_blind (cfg : Config) (p : Platform) (payload : Json) :
    Blind (matterControllerInitBranch cfg p payload) := by
  unfold matterControllerInitBranch
  split
  · exact report_related (executeMatterControllerInitCommand_blind _ _ _ _)
  · exact Blind.pure _

theorem matterClusterCommandInvoke_blind (payload : Json) :
    Blind (matterClusterCommandInvoke payload) := by
  unfold matterClusterCommandInvoke
  split
  · exact report_related (executeCmdInvokeCommand_blind _ _ _ _ _)
  · exact Blind.pure _

theorem matterAttribute_blind (subscribe : Bool) (payload : Json) :
    Blind (matterAttribute subscribe payload) := by
  unfold matterAttribute
  split
  · split
    · split
      · exact Blind.pure _
      · exact onOk_blind (attributeCall_blind _) fun _ => reply_blind _ _
    · exact onOk_blind (attributeCall_blind _) fun _ => reply_blind _ _
  · exact Blind.pure _

/-! ## Payloads that are alike -/

/-- The payloads of two commands with this action differ in secrets only. -/
inductive PayloadsAlike : CStr → Json → Json → Prop
  | same (action : CStr) (payload : Json) : PayloadsAlike action payload payload
  /-- The passwords differ. -/
  | staConnect {payload payload' : Json}
      (hssid : requiredStringField payload "ssid" = requiredStringField payload' "ssid")
      (hpassword : (requiredStringField payload "password").isSome =
        (requiredStringField payload' "password").isSome) :
      PayloadsAlike (CStr.lit "wifi.sta_connect") payload payload'
  /-- The keys differ. -/
  | datasetInit {payload payload' : Json}
      (hchannel : requiredNumberField payload "channel" = requiredNumberField payload' "channel")
      (hpanId : requiredNumberField payload "pan_id" = requiredNumberField payload' "pan_id")
      (htexts : Option.Rel TextsAlike (threadDatasetTexts payload) (threadDatasetTexts payload')) :
      PayloadsAlike (CStr.lit "thread.dataset.init") payload payload'
  /-- The setup codes differ. -/
  | pairing {payload payload' : Json}
      (hnodeId : requiredUint64StringField payload "node_id" =
        requiredUint64StringField payload' "node_id")
      (hsetupCode : (requiredUint32StringField payload "setup_code").isSome =
        (requiredUint32StringField payload' "setup_code").isSome)
      (hdiscriminator : requiredUint16StringField payload "discriminator" =
        requiredUint16StringField payload' "discriminator") :
      PayloadsAlike (CStr.lit "matter.pair_ble_thread") payload payload'

/-- The commands that are given secrets. -/
def secretActions : List String :=
  ["wifi.sta_connect", "thread.dataset.init", "matter.pair_ble_thread"]

variable {cfg : Config} {p : Platform} {payload payload' : Json}

theorem PayloadsAlike.eq {action : CStr} (h : PayloadsAlike action payload payload')
    (haction : ∀ name ∈ secretActions, action ≠ CStr.lit name) : payload = payload' := by
  cases h with
  | same => rfl
  | staConnect => exact absurd rfl (haction _ (by simp [secretActions]))
  | datasetInit => exact absurd rfl (haction _ (by simp [secretActions]))
  | pairing => exact absurd rfl (haction _ (by simp [secretActions]))

theorem wifiStaConnectBranch_related
    (h : PayloadsAlike (CStr.lit "wifi.sta_connect") payload payload') :
    Related Alike (wifiStaConnectBranch payload) (wifiStaConnectBranch payload') Eq := by
  obtain ⟨hssid, hpassword⟩ : requiredStringField payload "ssid" =
        requiredStringField payload' "ssid" ∧
      (requiredStringField payload "password").isSome =
        (requiredStringField payload' "password").isSome := by
    cases h with
    | same => exact ⟨rfl, rfl⟩
    | staConnect hssid hpassword => exact ⟨hssid, hpassword⟩
  unfold wifiStaConnectBranch
  rw [hssid]
  generalize requiredStringField payload "password" = password at hpassword ⊢
  generalize requiredStringField payload' "password" = password' at hpassword ⊢
  cases requiredStringField payload' "ssid" with
  | none => exact Related.pure rfl
  | some ssid =>
      cases password with
      | none =>
          cases password' with
          | none => exact Related.pure rfl
          | some password' => cases hpassword
      | some password =>
          cases password' with
          | none => cases hpassword
          | some password' => exact report_related (wifiStaConnect_related ssid password password')

theorem textsAlike_refl (texts : DatasetTexts) : TextsAlike texts texts := ⟨rfl, rfl, rfl, rfl, rfl⟩

theorem threadDatasetInitBranch_related
    (h : PayloadsAlike (CStr.lit "thread.dataset.init") payload payload') :
    Related Alike (threadDatasetInitBranch p payload) (threadDatasetInitBranch p payload') Eq := by
  obtain ⟨hchannel, hpanId, htexts⟩ : requiredNumberField payload "channel" =
        requiredNumberField payload' "channel" ∧
      requiredNumberField payload "pan_id" = requiredNumberField payload' "pan_id" ∧
      Option.Rel TextsAlike (threadDatasetTexts payload) (threadDatasetTexts payload') := by
    cases h with
    | same =>
        refine ⟨rfl, rfl, ?_⟩
        cases threadDatasetTexts payload with
        | none => exact .none
        | some texts => exact .some (textsAlike_refl texts)
    | datasetInit hchannel hpanId htexts => exact ⟨hchannel, hpanId, htexts⟩
  unfold threadDatasetInitBranch
  rw [hchannel, hpanId]
  generalize threadDatasetTexts payload = texts at htexts ⊢
  generalize threadDatasetTexts payload' = texts' at htexts ⊢
  cases requiredNumberField payload' "channel" with
  | none => exact Related.pure rfl
  | some channel =>
      cases requiredNumberField payload' "pan_id" with
      | none => exact Related.pure rfl
      | some panId =>
          cases htexts with
          | none => exact Related.pure rfl
          | some halike => exact report_related (threadDatasetInit_related p _ _ halike)

theorem matterPairBleThread_related
    (h : PayloadsAlike (CStr.lit "matter.pair_ble_thread") payload payload') :
    Related Alike (matterPairBleThread payload) (matterPairBleThread payload') Eq := by
  obtain ⟨hnodeId, hpin, hdiscriminator⟩ : requiredUint64StringField payload "node_id" =
        requiredUint64StringField payload' "node_id" ∧
      (requiredUint32StringField payload "setup_code").isSome =
        (requiredUint32StringField payload' "setup_code").isSome ∧
      requiredUint16StringField payload "discriminator" =
        requiredUint16StringField payload' "discriminator" := by
    cases h with
    | same => exact ⟨rfl, rfl, rfl⟩
    | pairing hnodeId hsetupCode hdiscriminator => exact ⟨hnodeId, hsetupCode, hdiscriminator⟩
  unfold matterPairBleThread
  rw [hnodeId, hdiscriminator]
  generalize requiredUint32StringField payload "setup_code" = pin at hpin ⊢
  generalize requiredUint32StringField payload' "setup_code" = pin' at hpin ⊢
  cases requiredUint64StringField payload' "node_id" with
  | none => exact Related.pure rfl
  | some nodeId =>
      cases requiredUint16StringField payload' "discriminator" with
      | none => cases pin <;> cases pin' <;> exact Related.pure rfl
      | some discriminator =>
          cases pin with
          | none =>
              cases pin' with
              | none => exact Related.pure rfl
              | some pin' => cases hpin
          | some pin =>
              cases pin' with
              | none => cases hpin
              | some pin' =>
                  exact report_related (executeMatterPairBleThreadCommand_related nodeId pin pin'
                    discriminator)

/-! ## The table -/

/-- From payloads that are alike every branch gets to the same result. -/
def BranchesAlike (table : List (String × CommandHandler)) : Prop :=
  ∀ branch ∈ table, ∀ payload payload',
    PayloadsAlike (CStr.lit branch.1) payload payload' →
    Related Alike (branch.2 payload) (branch.2 payload') Eq

namespace BranchesAlike

variable {name : String} {branch : CommandHandler} {table back : List (String × CommandHandler)}

theorem nil : BranchesAlike [] := fun _ h => absurd h List.not_mem_nil

theorem cons (hbranch : ∀ payload payload', PayloadsAlike (CStr.lit name) payload payload' →
      Related Alike (branch payload) (branch payload') Eq)
    (htable : BranchesAlike table) : BranchesAlike ((name, branch) :: table) := by
  intro b hb
  rcases List.mem_cons.mp hb with rfl | hb
  · exact hbranch
  · exact htable b hb

/-- A branch that is given no secrets. -/
theorem plain (hname : ∀ secret ∈ secretActions, CStr.lit name ≠ CStr.lit secret)
    (hbranch : ∀ payload, Blind (branch payload)) (htable : BranchesAlike table) :
    BranchesAlike ((name, branch) :: table) := by
  refine cons (fun payload payload' h => ?_) htable
  rw [h.eq hname]
  exact hbranch payload'

theorem append (htable : BranchesAlike table) (hback : BranchesAlike back) :
    BranchesAlike (table ++ back) := by
  intro b hb
  rcases List.mem_append.mp hb with hb | hb
  · exact htable b hb
  · exact hback b hb

theorem ite {condition : Bool} (htable : BranchesAlike table) :
    BranchesAlike (if condition then table else []) := by
  cases condition with
  | true => exact htable
  | false => exact nil

end BranchesAlike

theorem threadBranches_alike (cfg : Config) (p : Platform) :
    BranchesAlike (threadBranches cfg p) := by
  refine .append (.append ?_ (.ite ?_)) ?_
  · refine .plain (by decide) (fun _ => report_related executeThreadEnableCommand_blind) ?_
    refine .plain (by decide) (fun _ => report_related executeThreadDisableCommand_blind) ?_
    refine .cons (fun _ _ h => threadDatasetInitBranch_related h) ?_
    refine .plain (by decide)
      (fun _ => onOk_blind threadIsStackRunning_blind fun _ => reply_blind _ _) ?_
    refine .plain (by decide)
      (fun _ => onOk_blind threadIsAttached_blind fun _ => reply_blind _ _) ?_
    refine .plain (by decide)
      (fun _ => onOk_blind (threadGetDeviceRoleString_blind p) fun _ => reply_blind _ _) ?_
    refine .plain (by decide) threadActiveDatasetGet_blind ?_
    refine .plain (by decide)
      (fun _ => onOk_blind threadGetUnicastAddresses_blind fun _ => reply_blind _ _) ?_
    exact .plain (by decide)
      (fun _ => onOk_blind threadGetMulticastAddresses_blind fun _ => reply_blind _ _) .nil
  · exact .plain (by decide) (fun _ => report_related (espCall_blind _)) .nil
  · exact .plain (by decide) (fun _ => report_related (espCall_blind _)) .nil

theorem deviceBranches_alike : BranchesAlike deviceBranches := by
  refine .plain (by decide) chamberStatusGet_blind ?_
  refine .plain (by decide) deviceList_blind ?_
  refine .plain (by decide) deviceGet_blind ?_
  refine .plain (by decide) deviceRemove_blind ?_
  refine .plain (by decide) deviceRename_blind ?_
  refine .plain (by decide) addCapabilityCommand_blind ?_
  refine .plain (by decide) (deviceSemanticRead_blind .temperature) ?_
  refine .plain (by decide) (deviceSemanticRead_blind .pressure) ?_
  refine .plain (by decide) (deviceAttribute_blind false) ?_
  refine .plain (by decide) (deviceAttribute_blind true) ?_
  exact .plain (by decide) deviceRelaySet_blind .nil

theorem matterBranches_alike (cfg : Config) (p : Platform) :
    BranchesAlike (matterBranches cfg p) := by
  refine .plain (by decide) (matterControllerInitBranch_blind cfg p) ?_
  refine .cons (fun _ _ h => matterPairBleThread_related h) ?_
  refine .plain (by decide) matterClusterCommandInvoke_blind ?_
  refine .plain (by decide) (matterAttribute_blind false) ?_
  exact .plain (by decide) (matterAttribute_blind true) .nil

theorem branches_alike (cfg : Config) (p : Platform) : BranchesAlike (branches cfg p) := by
  refine .append (.append (.append ?_ ?_) deviceBranches_alike) (matterBranches_alike cfg p)
  · exact .ite (threadBranches_alike cfg p)
  · exact .ite (.cons (fun _ _ h => wifiStaConnectBranch_related h) .nil)

theorem processCommandMessage_related {action : CStr} (h : PayloadsAlike action payload payload') :
    Related Alike (processCommandMessage cfg p action payload)
      (processCommandMessage cfg p action payload') Eq := by
  by_cases hhandled : Handled cfg p action
  · obtain ⟨branch, hbranch, rfl⟩ := hhandled
    rw [processCommandMessage_of_mem hbranch]
    exact branches_alike cfg p branch hbranch payload payload' h
  · rw [processCommandMessage_unhandled hhandled, processCommandMessage_unhandled hhandled]
    exact Related.pure rfl

/-! ## Messages -/

/-- The messages ask for the same with payloads that are alike, or fail the same check. -/
inductive MessagesAlike (root root' : Option Json) : Prop
  | refused {error : ProtocolError} (h : checkEnvelope root = .error error)
      (h' : checkEnvelope root' = .error error) : MessagesAlike root root'
  | command {requestId action : CStr} {payload payload' : Json}
      (h : checkEnvelope root = .ok ⟨requestId, action, payload⟩)
      (h' : checkEnvelope root' = .ok ⟨requestId, action, payload'⟩)
      (hpayloads : PayloadsAlike action payload payload') : MessagesAlike root root'

theorem messagesAlike_refl (root : Option Json) : MessagesAlike root root := by
  cases hcheck : checkEnvelope root with
  | error error => exact .refused hcheck hcheck
  | ok envelope => exact .command hcheck hcheck (.same envelope.action envelope.payload)

theorem sendBuilt_blind (object : Alloc (Option Json)) (fd : Int) :
    (sendBuilt object fd).Blind := by
  refine (Esp.Blind.lift (allocate_blind object)).bind fun root => ?_
  cases root with
  | none => exact Esp.Blind.throw _
  | some root =>
      refine (Esp.Blind.lift (allocate_blind _)).bind fun json => ?_
      cases json with
      | none => exact Esp.Blind.throw _
      | some json => exact websocketSendMessageToClient_blind fd json

/-- Parsing takes one allocation, without which there is no tree. -/
theorem allocate_cJSONParse (text : CStr) (w : World) : allocate (cJSONParse p text) w =
    (if w.allocs.head then p.cJSONParse text else none, { w with allocs := w.allocs.tail }) := by
  have hrun : cJSONParse p text w.allocs =
      (if w.allocs.head then p.cJSONParse text else none, w.allocs.tail) := by
    show (if w.allocs.head then pure (p.cJSONParse text) else pure none : Alloc (Option Json))
      w.allocs.tail = _
    split
    · rfl
    · rfl
  show ((cJSONParse p text w.allocs).1,
    { w with allocs := (cJSONParse p text w.allocs).2 }) = _
  rw [hrun]

theorem handleJsonInboundMessage_related {text text' : CStr}
    (h : MessagesAlike (p.cJSONParse text) (p.cJSONParse text')) (fd : Int) :
    Esp.Related (handleJsonInboundMessage cfg p text fd) (handleJsonInboundMessage cfg p text' fd)
      Eq := by
  have hparse : Related Alike (allocate (cJSONParse p text)) (allocate (cJSONParse p text'))
      MessagesAlike := by
    intro w w' hw
    have hhead : w.allocs.head = w'.allocs.head :=
      hw.result (f := fun v => v.allocs.head) fun _ => rfl
    rw [allocate_cJSONParse, allocate_cJSONParse, hhead]
    refine ⟨?_, hw.update (f := fun v => { v with allocs := v.allocs.tail }) fun _ => rfl⟩
    dsimp only
    split
    · exact h
    · exact messagesAlike_refl none
  refine Esp.Related.bind (Esp.Related.lift hparse) fun root root' hroot => ?_
  cases hroot with
  | refused h h' =>
      rw [h, h']
      exact sendBuilt_blind _ fd
  | command h h' hpayloads =>
      rw [h, h']
      refine Esp.Related.bind (Esp.Related.lift (processCommandMessage_related hpayloads)) ?_
      rintro result _ rfl
      exact sendBuilt_blind _ fd

end Orchestrator.Messages
