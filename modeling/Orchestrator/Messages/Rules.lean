import Orchestrator.Commands.Rules
import Orchestrator.Messages.Inbound

/-!
# What the branches keep

Every branch of the dispatcher keeps what its commands keep, and its result is
made of strings that came from the payload, from the board or from the program.
-/

namespace Orchestrator.Messages

open Lib Handler Registry State Commands Alloc

/-- The strings of a result satisfy `P`. -/
structure CommandExecutionResult.Strings (P : CStr → Prop) (r : CommandExecutionResult) :
    Prop where
  payload : ∀ out ∈ r.payload, Built P out
  message : P r.errorMessage.toCStr

/-- The result of a branch that exists. -/
structure CommandExecutionResult.Known (P : CStr → Prop) (r : CommandExecutionResult) : Prop
    extends r.Strings P where
  known : r.unknownAction = false

/-- The texts that a command stores in buffers of 32 bytes. -/
def storedTexts (action : CStr) (payload : Json) : List CStr :=
  if action = CStr.lit "device.rename" then (requiredStringField payload "label").toList
  else if action = CStr.lit "device.capability.add" then
    match capabilityFields payload with
    | some fields =>
        [fields.capabilityId, (optionalStringField payload "label").getD fields.semanticType]
    | none => []
  else []

/-- The number of bytes of the message that comes with an error. -/
def messageLength : Option String → Nat
  | some message => (CStr.lit message).length
  | none => 0

variable {p : Platform} {P : CStr → Prop} {I : World → Prop}

/-! ## Results -/

theorem commandResult_known (ht : Texts P) {err : EspResult Unit} {payload : Option Json}
    (message : Option String) (hpayload : ∀ out ∈ payload, Built P out)
    (hlength : (messageLength message).ble 127 = true) :
    (commandResult err payload (message.map CStr.lit)).Known P := by
  refine { payload := hpayload, message := ?_, known := rfl }
  show P (CharArray.copyField 128 _).toCStr
  rw [CharArray.toCStr_copyField 127]
  cases message with
  | some message =>
      rw [Option.map_some, Option.getD_some, CStr.take_eq_self (Nat.le_of_ble_eq_true hlength)]
      exact ht.lit message
  | none => exact ht.lit ""

theorem failed_known (ht : Texts P) (err : EspErr) {message : String}
    (hlength : (messageLength (some message)).ble 127 = true) : (failed err message).Known P :=
  commandResult_known ht (some message) nofun hlength

theorem built_known (ht : Texts P) {out : Option Json} {message : String}
    (hout : ∀ o ∈ out, Built P o) (hlength : (messageLength (some message)).ble 127 = true) :
    (built out message).Known P := by
  cases out with
  | some out => exact commandResult_known ht none hout rfl
  | none => exact failed_known ht _ hlength

theorem failed_keeps (ht : Texts P) (err : EspErr) {message : String}
    (hlength : (messageLength (some message)).ble 127 = true) :
    Keeps I (pure (failed err message)) (CommandExecutionResult.Known P) :=
  Keeps.pure (failed_known ht err hlength)

section

variable {Q : CommandExecutionResult → Prop}

theorem report_rule {op : Esp Unit} {R : Unit → Prop} (hop : Esp.Keeps I op R)
    (hQ : ∀ err : EspResult Unit, (∀ a, err = .ok a → R a) → Q (commandResult err none none)) :
    Keeps I (report op) Q :=
  Keeps.bind hop fun err herr => Keeps.pure (hQ err herr)

theorem onOk_rule {α : Type} {op : Esp α} {R : α → Prop} {message : Option String}
    {next : α → Handler CommandExecutionResult} (hop : Esp.Keeps I op R)
    (hQ : ∀ err, Q (commandResult (.error err) none (message.map CStr.lit)))
    (hnext : ∀ a, R a → Keeps I (next a) Q) : Keeps I (onOk op message next) Q := by
  apply Keeps.bind hop
  rintro (err | a) ha
  · exact Keeps.pure (hQ err)
  · exact hnext a (ha a rfl)

theorem reply_rule (hI : Unforeseen I) {out : Alloc (Option Json)} {R : Option Json → Prop}
    {message : String} (hout : out.Always R) (hQ : ∀ o, R o → Q (built o message)) :
    Keeps I (reply out message) Q :=
  Keeps.bind (hI.allocate hout) fun o ho => Keeps.pure (hQ o ho)

end

/-! ## The addition of a capability -/

/-- The checks of `add_capability_command` that come before the update, and the
record that it stores. -/
structure AddsCapability (payload : Json) (fields : CapabilityFields)
    (semantic : DeviceCapabilitySemanticType) (record updated : DeviceRecord) : Prop where
  hasFields : capabilityFields payload = some fields
  hasType : DeviceCapabilitySemanticType.fromString fields.semanticType = some semantic
  hasAttribute : ¬(needsAttribute semantic ∧
    (newCapability payload fields semantic).attributeId = uint32Max)
  updates : withCapability record (newCapability payload fields semantic) = some updated

/-- The rest of `add_capability_command`, once these checks have passed. -/
def storeCapability (updated : DeviceRecord) (capability : DeviceCapability) :
    Handler CommandExecutionResult :=
  onOk (deviceRegistryUpsertDevice updated) (some "Capability upsert failed") fun _ =>
    reply (createObject
      [(CStr.lit "device_id", .string updated.deviceId.toCStr),
       (CStr.lit "capability_id", .string capability.capabilityId.toCStr)])
      "Failed to build capability payload"

/-- The record is read, then a check fails or the new record is stored. -/
theorem addCapabilityCommand_triple {payload : Json} {J : World → Prop}
    {D : CStr → DeviceRecord → World → Prop} {T : CommandExecutionResult → World → Prop}
    (hI : ∀ w, I w → J w)
    (hfailed : ∀ err (message : String) w, (messageLength (some message)).ble 127 = true →
      J w → T (failed err message) w)
    (hget : ∀ deviceId, Triple I (deviceRegistryGetDevice deviceId).run fun r w =>
      J w ∧ ∀ record, r = .ok record → D deviceId record w)
    (hadd : ∀ fields semantic record updated,
      AddsCapability payload fields semantic record updated →
      Triple (fun w => J w ∧ D fields.deviceId record w)
        (storeCapability updated (newCapability payload fields semantic)) T) :
    Triple I (addCapabilityCommand payload) T := by
  have hfailedOf : ∀ {K : World → Prop} (err : EspErr) {message : String},
      (messageLength (some message)).ble 127 = true → (∀ w, K w → J w) →
      Triple K (pure (failed err message)) T :=
    fun err _ hlength hK => Triple.pure fun w hw => hfailed err _ w hlength (hK w hw)
  unfold addCapabilityCommand
  split
  · exact hfailedOf _ rfl hI
  · next fields hfields =>
    split
    · exact hfailedOf _ rfl hI
    · next semantic hsemantic =>
      refine Triple.bind (hget fields.deviceId) fun r => ?_
      cases r with
      | error err => exact hfailedOf err rfl fun _ hw => hw.1
      | ok record =>
          refine Triple.weaken (P := fun w => J w ∧ D fields.deviceId record w) ?_
            (fun _ hw => ⟨hw.1, hw.2 record rfl⟩) fun _ _ hT => hT
          dsimp only
          split
          · exact hfailedOf _ rfl fun _ hw => hw.1
          · next hattribute =>
            split
            · exact hfailedOf _ rfl fun _ hw => hw.1
            · next updated hupdated =>
              exact hadd fields semantic record updated
                { hasFields := hfields, hasType := hsemantic, hasAttribute := hattribute,
                  updates := hupdated }

theorem addCapabilityCommand_rule {payload : Json} {D : CStr → DeviceRecord → Prop}
    {Q : CommandExecutionResult → Prop}
    (hfailed : ∀ err (message : String), (messageLength (some message)).ble 127 = true →
      Q (failed err message))
    (hget : ∀ deviceId, Esp.Keeps I (deviceRegistryGetDevice deviceId) (D deviceId))
    (hadd : ∀ fields semantic record updated,
      AddsCapability payload fields semantic record updated → D fields.deviceId record →
      Keeps I (storeCapability updated (newCapability payload fields semantic)) Q) :
    Keeps I (addCapabilityCommand payload) Q := by
  refine addCapabilityCommand_triple (D := fun deviceId record _ => D deviceId record)
    (fun _ hw => hw) (fun err message _ hlength hw => ⟨hw, hfailed err message hlength⟩) hget ?_
  intro fields semantic record updated hadds w hw
  exact hadd fields semantic record updated hadds hw.2 w hw.1

theorem storeCapability_keeps (hI : Unforeseen I) {updated : DeviceRecord}
    (hupsert : Esp.Keeps I (deviceRegistryUpsertDevice updated) fun _ => True)
    (capability : DeviceCapability) :
    Keeps I (storeCapability updated capability) fun _ => True := by
  refine onOk_rule hupsert (fun _ => trivial) fun _ _ => ?_
  exact reply_rule hI (createObject_built (FieldStrings.of_forall (fun _ => trivial) _))
    fun _ _ => trivial

/-! ## Replies -/

theorem report_keeps (ht : Texts P) {op : Esp Unit} {R : Unit → Prop} (hop : Esp.Keeps I op R) :
    Keeps I (report op) (CommandExecutionResult.Known P) :=
  report_rule hop fun _ _ => commandResult_known ht none nofun rfl

theorem onOk_keeps (ht : Texts P) {α : Type} {op : Esp α} {R : α → Prop} {message : Option String}
    {next : α → Handler CommandExecutionResult}
    (hlength : (messageLength message).ble 127 = true) (hop : Esp.Keeps I op R)
    (hnext : ∀ a, R a → Keeps I (next a) (CommandExecutionResult.Known P)) :
    Keeps I (onOk op message next) (CommandExecutionResult.Known P) :=
  onOk_rule hop (fun _ => commandResult_known ht message nofun hlength) hnext

variable (h : ReadInvariant p P I)

include h

theorem reply_keeps {out : Alloc (Option Json)} {message : String}
    (hlength : (messageLength (some message)).ble 127 = true)
    (hout : out.Always fun o => ∀ t ∈ o, Built P t) :
    Keeps I (reply out message) (CommandExecutionResult.Known P) :=
  reply_rule h.toUnforeseen hout fun _ ho => built_known h.texts ho hlength

/-! ## Thread and Wi-Fi -/

theorem threadDatasetInitBranch_keeps (payload : Json) :
    Keeps I (threadDatasetInitBranch p payload) (CommandExecutionResult.Known P) := by
  unfold threadDatasetInitBranch
  split
  · exact report_keeps h.texts (threadDatasetInit_keeps h.toUnforeseen
      fun _ _ => h.request _)
  · exact failed_keeps h.texts _ rfl

theorem threadStatusGet_keeps (payload : Json) :
    Keeps I (threadStatusGet payload) (CommandExecutionResult.Known P) := by
  apply onOk_keeps h.texts rfl (Esp.Keeps.bind (requireInstance_keeps h.openThread _) fun _ _ =>
    Esp.Keeps.pure (Q := fun _ => True) trivial)
  rintro isRunning -
  exact reply_keeps h rfl (createObject_built (.cons (h.texts.lit _) (.bool _) .nil))

theorem threadAttachedGet_keeps (payload : Json) :
    Keeps I (threadAttachedGet payload) (CommandExecutionResult.Known P) := by
  apply onOk_keeps h.texts rfl (Esp.Keeps.bind (requireInstance_keeps h.openThread _) fun _ _ =>
    Esp.Keeps.pure (Q := fun _ => True) trivial)
  rintro isAttached -
  exact reply_keeps h rfl (createObject_built (.cons (h.texts.lit _) (.bool _) .nil))

theorem threadRoleGet_keeps (payload : Json) :
    Keeps I (threadRoleGet p payload) (CommandExecutionResult.Known P) := by
  apply onOk_keeps h.texts rfl (Esp.Keeps.bind (requireInstance_keeps h.openThread _) fun _ _ =>
    Esp.Keeps.pure (Q := P) (h.role _))
  intro role hrole
  exact reply_keeps h rfl (createObject_built (.cons (h.texts.lit _) (.string hrole) .nil))

theorem threadActiveDatasetGet_keeps (payload : Json) :
    Keeps I (threadActiveDatasetGet payload) (CommandExecutionResult.Known P) := by
  apply onOk_keeps h.texts rfl (threadGetActiveDataset_keeps h)
  intro dataset hname
  apply reply_keeps h rfl
  exact createObject_built <| .cons (h.texts.lit _) (.bool _) <|
    .cons (h.texts.lit _) (.number _) <| .cons (h.texts.lit _) (.string hname) <|
    .cons (h.texts.lit _) (.number _) <| .cons (h.texts.lit _) (.number _) .nil

omit h in
theorem stringItems_built {strings : List CStr} (hstrings : ∀ s ∈ strings, P s) :
    (stringItems strings).Always fun items => ∀ item ∈ items, item.AllStrings P := by
  intro A hA
  induction strings with
  | nil =>
      apply Keeps.pure
      intro item hitem
      cases hitem
  | cons s rest ih =>
      apply Keeps.bind (next_always A hA)
      rintro created -
      apply Keeps.bind (ih fun t ht => hstrings t (List.mem_cons_of_mem s ht))
      intro items hitems
      apply Keeps.pure
      cases created with
      | false => exact hitems
      | true =>
          intro item hitem
          rcases List.mem_cons.mp hitem with rfl | hitem
          · exact .string (hstrings s List.mem_cons_self)
          · exact hitems item hitem

omit h in
theorem addressPayload_built {name : CStr} {addresses : List CStr} (hname : P name)
    (haddresses : ∀ a ∈ addresses, P a) :
    (addressPayload name addresses).Always fun out => ∀ o ∈ out, Built P o := by
  intro A hA
  apply Keeps.bind (cJSONCreateObject_built A hA)
  rintro (- | out) hout
  · apply Keeps.pure
    rintro o ⟨⟩
  · apply Keeps.bind (next_always A hA)
    rintro attached -
    cases attached with
    | false =>
        apply Keeps.pure
        rintro o ⟨⟩
    | true =>
        apply Keeps.bind (stringItems_built haddresses A hA)
        intro items hitems
        apply Keeps.pure
        rintro o ⟨⟩
        exact (hout out rfl).add hname (.array hitems)

theorem threadAddressesGet_keeps {name : CStr} {addresses : OpenThread → List CStr}
    (hname : P name) (haddresses : ∀ o : OpenThread, o.Strings P → ∀ a ∈ addresses o, P a)
    (payload : Json) :
    Keeps I (threadAddressesGet name addresses payload) (CommandExecutionResult.Known P) := by
  apply onOk_keeps h.texts rfl (threadGetAddresses_keeps h haddresses)
  intro found hfound
  exact reply_keeps h rfl (addressPayload_built hname hfound)

theorem wifiStaConnectBranch_keeps (payload : Json) :
    Keeps I (wifiStaConnectBranch payload) (CommandExecutionResult.Known P) := by
  unfold wifiStaConnectBranch
  split
  · exact report_keeps h.texts (wifiStaConnect_keeps h _ _)
  · exact failed_keeps h.texts _ rfl

/-! ## Devices -/

theorem chamberStatusGet_keeps (payload : Json) :
    Keeps I (chamberStatusGet payload) (CommandExecutionResult.Known P) := by
  apply Keeps.bind (Q := fun out => ∀ o ∈ out, Built P o)
  · apply Keeps.bind (getBoard_keeps (Q := fun b => b.state.Strings P) h.state)
    intro board hboard
    exact h.allocate (snapshotToJson_built h.texts hboard)
  · intro out hout
    exact Keeps.pure (built_known h.texts hout rfl)

theorem deviceList_keeps (payload : Json) :
    Keeps I (deviceList payload) (CommandExecutionResult.Known P) := by
  apply Keeps.bind (deviceRegistryToJson_keeps h.toLoadInvariant h.texts fun s hs => hs.strings)
  intro out hout
  exact Keeps.pure (built_known h.texts hout rfl)

theorem deviceGet_keeps (payload : Json) :
    Keeps I (deviceGet payload) (CommandExecutionResult.Known P) := by
  unfold deviceGet
  split
  · exact failed_keeps h.texts _ rfl
  · apply onOk_keeps h.texts rfl (getDevice_keeps h _)
    intro record hrecord
    exact reply_keeps h rfl (recordToJson_built h.texts hrecord)

omit h in
theorem deviceRemove_keeps (hw : CommandInvariant p P I) (payload : Json) :
    Keeps I (deviceRemove payload) (CommandExecutionResult.Known P) := by
  unfold deviceRemove
  split
  · exact failed_keeps hw.texts _ rfl
  · exact report_keeps hw.texts (removeDevice_keeps hw _)

omit h in
theorem deviceRename_keeps (hw : CommandInvariant p P I) {payload : Json}
    (hstored : ∀ s ∈ storedTexts (CStr.lit "device.rename") payload, P (s.take 31)) :
    Keeps I (deviceRename payload) (CommandExecutionResult.Known P) := by
  unfold deviceRename
  split
  · next deviceId label _ hlabel =>
    have hmem : label ∈ storedTexts (CStr.lit "device.rename") payload := by
      rw [storedTexts, if_pos rfl, hlabel]
      exact List.mem_singleton_self label
    exact report_keeps hw.texts (renameDevice_keeps hw (hstored label hmem))
  · exact failed_keeps hw.texts _ rfl

omit h in
theorem newCapability_strings {payload : Json} {fields : CapabilityFields}
    {semantic : DeviceCapabilitySemanticType} (hid : P (fields.capabilityId.take 31))
    (hlabel : P (((optionalStringField payload "label").getD fields.semanticType).take 31)) :
    (newCapability payload fields semantic).Strings P := by
  constructor
  · rw [newCapability, CharArray.toCStr_copyField 31]
    exact hid
  · rw [newCapability, CharArray.toCStr_copyField 31]
    exact hlabel

omit h in
/-- Nothing but the capability is new in the record. -/
theorem withCapability_strings {record updated : DeviceRecord} {capability : DeviceCapability}
    (hrecord : record.Strings P) (hcapability : capability.Strings P)
    (hupdated : withCapability record capability = some updated) : updated.Strings P := by
  rw [withCapability_frame hupdated]
  refine { hrecord with capabilities := fun c hc => ?_ }
  rcases mem_withCapability hupdated hc with hc | rfl
  · exact hrecord.capabilities c hc
  · exact hcapability

omit h in
theorem addCapabilityCommand_keeps (hw : CommandInvariant p P I) {payload : Json}
    (hstored : ∀ s ∈ storedTexts (CStr.lit "device.capability.add") payload, P (s.take 31)) :
    Keeps I (addCapabilityCommand payload) (CommandExecutionResult.Known P) := by
  apply addCapabilityCommand_rule (fun err _ => failed_known hw.texts err)
    fun _ => getDevice_keeps hw.toReadInvariant _
  intro fields semantic record updated hadds hrecord
  have hne : ¬CStr.lit "device.capability.add" = CStr.lit "device.rename" := by decide
  rw [storedTexts, if_neg hne, if_pos rfl, hadds.hasFields] at hstored
  have hid := hstored fields.capabilityId List.mem_cons_self
  have hlabel := hstored _ (List.mem_cons_of_mem _ List.mem_cons_self)
  have hcapability : (newCapability payload fields semantic).Strings P :=
    newCapability_strings hid hlabel
  have hstrings := withCapability_strings hrecord hcapability hadds.updates
  apply onOk_keeps hw.texts rfl (upsertDevice_keeps hw hstrings)
  rintro - -
  apply reply_keeps hw.toReadInvariant rfl
  exact createObject_built <| .cons (hw.texts.lit _) (.string hstrings.deviceId) <|
    .cons (hw.texts.lit _) (.string hcapability.capabilityId) .nil

omit h in
theorem addFieldsOrFail_built {out : Json} {fields : List (CStr × Json)} (hout : Built P out)
    (hfields : FieldStrings P fields) :
    (addFieldsOrFail out fields).Always fun o => ∀ t ∈ o, Built P t := by
  intro A hA
  induction fields generalizing out with
  | nil =>
      apply Keeps.pure
      rintro t ⟨⟩
      exact hout
  | cons field fields ih =>
      obtain ⟨hname, hitem⟩ := hfields field List.mem_cons_self
      apply Keeps.bind (addField_built hout hname hitem A hA)
      intro added hadded
      split
      · exact ih hadded fun f hf => hfields f (List.mem_cons_of_mem field hf)
      · apply Keeps.pure
        rintro t ⟨⟩

omit h in
theorem acceptedDeviceObject_built (ht : Texts P) {deviceId : CStr} (hid : P deviceId) :
    (acceptedDeviceObject deviceId).Always fun out => ∀ o ∈ out, Built P o := by
  intro A hA
  apply Keeps.bind (cJSONCreateObject_built A hA)
  rintro (- | out) hout
  · apply Keeps.pure
    rintro t ⟨⟩
  · exact addFieldsOrFail_built (hout out rfl) (.cons (ht.lit _) (.string hid) <|
      .cons (ht.lit _) (.bool _) <| .cons (ht.lit _) (.string (ht.lit _)) .nil) A hA

theorem acceptedDevicePayload_keeps {deviceId : CStr} (hid : P deviceId) :
    Keeps I (acceptedDevicePayload deviceId) (CommandExecutionResult.Known P) :=
  reply_keeps h rfl (acceptedDeviceObject_built h.texts hid)

theorem deviceSemanticRead_keeps {semantic : DeviceCapabilitySemanticType} {payload : Json}
    (hpayload : payload.AllStrings P) :
    Keeps I (deviceSemanticRead semantic payload) (CommandExecutionResult.Known P) := by
  unfold deviceSemanticRead
  split
  · exact failed_keeps h.texts _ rfl
  · next deviceId hid =>
    apply onOk_keeps h.texts rfl (deviceRegistryFindCapability_keeps h.toLoadInvariant _ _)
    rintro found -
    apply onOk_keeps h.texts rfl (executeAttrReadCommand_keeps h.toUnforeseen (h.request _))
    rintro - -
    exact acceptedDevicePayload_keeps h (of_requiredStringField hpayload hid)

theorem deviceAttribute_keeps {subscribe : Bool} {payload : Json}
    (hpayload : payload.AllStrings P) :
    Keeps I (deviceAttribute subscribe payload) (CommandExecutionResult.Known P) := by
  unfold deviceAttribute
  split
  · next deviceId path hid _ =>
    have haccepted := acceptedDevicePayload_keeps h (of_requiredStringField hpayload hid)
    apply onOk_keeps h.texts rfl (getDevice_keeps h _)
    rintro record -
    split
    · split
      · exact failed_keeps h.texts _ rfl
      · apply onOk_keeps h.texts rfl (executeAttrSubscribeCommand_keeps h.toUnforeseen (h.request _))
        exact fun _ _ => haccepted
    · apply onOk_keeps h.texts rfl (executeAttrReadCommand_keeps h.toUnforeseen (h.request _))
      exact fun _ _ => haccepted
  · exact failed_keeps h.texts _ rfl

theorem deviceRelaySet_keeps {payload : Json} (hpayload : payload.AllStrings P) :
    Keeps I (deviceRelaySet payload) (CommandExecutionResult.Known P) := by
  unfold deviceRelaySet
  split
  · next deviceId on hid _ =>
    apply onOk_keeps h.texts rfl (deviceRegistryFindCapability_keeps h.toLoadInvariant _ _)
    rintro found -
    apply onOk_keeps h.texts rfl (executeCmdInvokeCommand_keeps h.toUnforeseen (h.request _))
    rintro - -
    apply reply_keeps h rfl
    exact createObject_built <|
      .cons (h.texts.lit _) (.string (of_requiredStringField hpayload hid)) <|
      .cons (h.texts.lit _) (.bool _) <| .cons (h.texts.lit _) (.bool _) .nil
  · exact failed_keeps h.texts _ rfl

/-! ## Matter -/

theorem matterControllerInitBranch_keeps (cfg : Config) (payload : Json) :
    Keeps I (matterControllerInitBranch cfg p payload) (CommandExecutionResult.Known P) := by
  unfold matterControllerInitBranch
  split
  · exact report_keeps h.texts (executeMatterControllerInitCommand_keeps h _ _ _ _)
  · exact failed_keeps h.texts _ rfl

omit h in
theorem matterPairBleThread_keeps (hw : CommandInvariant p P I) (payload : Json) :
    Keeps I (matterPairBleThread payload) (CommandExecutionResult.Known P) := by
  unfold matterPairBleThread
  split
  · exact report_keeps hw.texts (executeMatterPairBleThreadCommand_keeps hw _ _ _)
  · exact failed_keeps hw.texts _ rfl

theorem matterClusterCommandInvoke_keeps (payload : Json) :
    Keeps I (matterClusterCommandInvoke payload) (CommandExecutionResult.Known P) := by
  unfold matterClusterCommandInvoke
  split
  · exact report_keeps h.texts (executeCmdInvokeCommand_keeps h.toUnforeseen (h.request _))
  · exact failed_keeps h.texts _ rfl

theorem acceptedPayload_keeps : Keeps I acceptedPayload (CommandExecutionResult.Known P) :=
  reply_keeps h rfl <| createObject_built <| .cons (h.texts.lit _) (.bool _) <|
    .cons (h.texts.lit _) (.string (h.texts.lit _)) .nil

theorem matterAttribute_keeps (subscribe : Bool) (payload : Json) :
    Keeps I (matterAttribute subscribe payload) (CommandExecutionResult.Known P) := by
  unfold matterAttribute
  split
  · split
    · split
      · exact failed_keeps h.texts _ rfl
      · apply onOk_keeps h.texts rfl (executeAttrSubscribeCommand_keeps h.toUnforeseen (h.request _))
        exact fun _ _ => acceptedPayload_keeps h
    · apply onOk_keeps h.texts rfl (executeAttrReadCommand_keeps h.toUnforeseen (h.request _))
      exact fun _ _ => acceptedPayload_keeps h
  · exact failed_keeps h.texts _ rfl

/-! ## The table -/

/-- The branches keep `I` on payloads with strings of `P`, of which those that are
stored are of `P` also when they are cut. -/
def BranchesKept (P : CStr → Prop) (I : World → Prop) (table : List (String × CommandHandler)) :
    Prop :=
  ∀ branch ∈ table, ∀ payload : Json, payload.AllStrings P →
    (∀ s ∈ storedTexts (CStr.lit branch.1) payload, P (s.take 31)) →
    Keeps I (branch.2 payload) (CommandExecutionResult.Known P)

omit h in
theorem BranchesKept.nil : BranchesKept P I [] := fun _ hbranch => absurd hbranch List.not_mem_nil

omit h in
theorem BranchesKept.cons {name : String} {branch : CommandHandler}
    {table : List (String × CommandHandler)}
    (hbranch : ∀ payload : Json, payload.AllStrings P →
      (∀ s ∈ storedTexts (CStr.lit name) payload, P (s.take 31)) →
      Keeps I (branch payload) (CommandExecutionResult.Known P))
    (htable : BranchesKept P I table) : BranchesKept P I ((name, branch) :: table) := by
  intro b hb
  rcases List.mem_cons.mp hb with rfl | hb
  · exact hbranch
  · exact htable b hb

omit h in
theorem BranchesKept.append {front back : List (String × CommandHandler)}
    (hfront : BranchesKept P I front) (hback : BranchesKept P I back) :
    BranchesKept P I (front ++ back) := by
  intro b hb
  rcases List.mem_append.mp hb with hb | hb
  · exact hfront b hb
  · exact hback b hb

omit h in
theorem BranchesKept.ite {condition : Bool} {table : List (String × CommandHandler)}
    (htable : BranchesKept P I table) :
    BranchesKept P I (if condition then table else []) := by
  cases condition with
  | true => exact htable
  | false => exact .nil

theorem threadBranches_kept (cfg : Config) : BranchesKept P I (threadBranches cfg p) := by
  apply BranchesKept.append
  · apply BranchesKept.append
    · exact .cons (fun _ _ _ => report_keeps h.texts <|
          Esp.Keeps.bind (ifconfig_keeps h true) fun _ _ => threadSetEnabled_keeps h true) <|
        .cons (fun _ _ _ => report_keeps h.texts <|
          Esp.Keeps.bind (threadSetEnabled_keeps h false) fun _ _ => ifconfig_keeps h false) <|
        .cons (fun payload _ _ => threadDatasetInitBranch_keeps h payload) <|
        .cons (fun payload _ _ => threadStatusGet_keeps h payload) <|
        .cons (fun payload _ _ => threadAttachedGet_keeps h payload) <|
        .cons (fun payload _ _ => threadRoleGet_keeps h payload) <|
        .cons (fun payload _ _ => threadActiveDatasetGet_keeps h payload) <|
        .cons (fun payload _ _ => threadAddressesGet_keeps h (h.texts.lit _)
          (fun _ ho => ho.unicast) payload) <|
        .cons (fun payload _ _ => threadAddressesGet_keeps h (h.texts.lit _)
          (fun _ ho => ho.multicast) payload) .nil
    · exact .ite (.cons (fun _ _ _ => report_keeps h.texts (espCall_keeps h.toUnforeseen (h.request _))) .nil)
  · exact .cons (fun _ _ _ => report_keeps h.texts (espCall_keeps h.toUnforeseen (h.request _))) .nil

omit h in
theorem deviceBranches_kept (hw : CommandInvariant p P I) : BranchesKept P I deviceBranches :=
  have h := hw.toReadInvariant
  .cons (fun payload _ _ => chamberStatusGet_keeps h payload) <|
  .cons (fun payload _ _ => deviceList_keeps h payload) <|
  .cons (fun payload _ _ => deviceGet_keeps h payload) <|
  .cons (fun payload _ _ => deviceRemove_keeps hw payload) <|
  .cons (fun _ _ hstored => deviceRename_keeps hw hstored) <|
  .cons (fun _ _ hstored => addCapabilityCommand_keeps hw hstored) <|
  .cons (fun _ hpayload _ => deviceSemanticRead_keeps h hpayload) <|
  .cons (fun _ hpayload _ => deviceSemanticRead_keeps h hpayload) <|
  .cons (fun _ hpayload _ => deviceAttribute_keeps h hpayload) <|
  .cons (fun _ hpayload _ => deviceAttribute_keeps h hpayload) <|
  .cons (fun _ hpayload _ => deviceRelaySet_keeps h hpayload) .nil

omit h in
theorem matterBranches_kept (hw : CommandInvariant p P I) (cfg : Config) :
    BranchesKept P I (matterBranches cfg p) :=
  have h := hw.toReadInvariant
  .cons (fun payload _ _ => matterControllerInitBranch_keeps h cfg payload) <|
  .cons (fun payload _ _ => matterPairBleThread_keeps hw payload) <|
  .cons (fun payload _ _ => matterClusterCommandInvoke_keeps h payload) <|
  .cons (fun payload _ _ => matterAttribute_keeps h false payload) <|
  .cons (fun payload _ _ => matterAttribute_keeps h true payload) .nil

omit h in
theorem branches_kept (hw : CommandInvariant p P I) (cfg : Config) : BranchesKept P I (branches cfg p) := by
  apply BranchesKept.append
  · apply BranchesKept.append
    · apply BranchesKept.append
      · exact .ite (threadBranches_kept hw.toReadInvariant cfg)
      · exact .ite (.cons (fun payload _ _ => wifiStaConnectBranch_keeps hw.toReadInvariant payload) .nil)
    · exact deviceBranches_kept hw
  · exact matterBranches_kept hw cfg

omit h in
/-- An action that has a branch keeps `I` and has a known result. -/
theorem processCommandMessage_keeps (hw : CommandInvariant p P I) {cfg : Config} {action : CStr} {payload : Json}
    (hbranch : (findBranch cfg p action).isSome) (hpayload : payload.AllStrings P)
    (hstored : ∀ s ∈ storedTexts action payload, P (s.take 31)) :
    Keeps I (processCommandMessage cfg p action payload) (CommandExecutionResult.Known P) := by
  unfold processCommandMessage
  cases hfind : findBranch cfg p action with
  | none =>
      rw [hfind] at hbranch
      cases hbranch
  | some branch =>
      obtain ⟨entry, hentry, rfl⟩ := Option.map_eq_some_iff.mp hfind
      have hname : CStr.lit entry.1 = action := by simpa using List.find?_some hentry
      refine branches_kept hw cfg entry (List.mem_of_find?_eq_some hentry) payload hpayload ?_
      rw [hname]
      exact hstored

/-! ## Commands that only read the registry -/

/-- The actions whose commands write the registry. -/
def registryActions : List String :=
  ["matter.pair_ble_thread", "device.capability.add", "device.rename", "device.remove"]

/-- A branch of any other action keeps what single effects other than a save keep. -/
theorem readBranch_keeps {cfg : Config} {branch : String × CommandHandler}
    (hbranch : branch ∈ branches cfg p)
    (hread : ∀ name ∈ registryActions, CStr.lit branch.1 ≠ CStr.lit name) {payload : Json}
    (hpayload : payload.AllStrings P) :
    Keeps I (branch.2 payload) (CommandExecutionResult.Known P) := by
  have hnone : storedTexts (CStr.lit branch.1) payload = [] := by
    rw [storedTexts, if_neg (hread _ (by simp [registryActions])),
      if_neg (hread _ (by simp [registryActions]))]
  have hstored : ∀ s ∈ storedTexts (CStr.lit branch.1) payload, P (s.take 31) := by
    rw [hnone]
    exact fun s hs => absurd hs List.not_mem_nil
  have hwrites : ∀ name ∈ registryActions, branch.1 ≠ name :=
    fun name hname heq => hread name hname (congrArg CStr.lit heq)
  simp only [branches, List.mem_append, or_assoc] at hbranch
  rcases hbranch with hthread | hwifi | hdevice | hmatter
  · exact BranchesKept.ite (threadBranches_kept h cfg) branch hthread payload hpayload hstored
  · exact BranchesKept.ite (.cons (fun payload _ _ => wifiStaConnectBranch_keeps h payload) .nil)
      branch hwifi payload hpayload hstored
  · simp only [deviceBranches, List.mem_cons, List.not_mem_nil, or_false] at hdevice
    rcases hdevice with rfl | rfl | rfl | rfl | rfl | rfl | rfl | rfl | rfl | rfl | rfl
    · exact chamberStatusGet_keeps h payload
    · exact deviceList_keeps h payload
    · exact deviceGet_keeps h payload
    · exact absurd rfl (hwrites "device.remove" (by simp [registryActions]))
    · exact absurd rfl (hwrites "device.rename" (by simp [registryActions]))
    · exact absurd rfl (hwrites "device.capability.add" (by simp [registryActions]))
    · exact deviceSemanticRead_keeps h hpayload
    · exact deviceSemanticRead_keeps h hpayload
    · exact deviceAttribute_keeps h hpayload
    · exact deviceAttribute_keeps h hpayload
    · exact deviceRelaySet_keeps h hpayload
  · simp only [matterBranches, List.mem_cons, List.not_mem_nil, or_false] at hmatter
    rcases hmatter with rfl | rfl | rfl | rfl | rfl
    · exact matterControllerInitBranch_keeps h cfg payload
    · exact absurd rfl (hwrites "matter.pair_ble_thread" (by simp [registryActions]))
    · exact matterClusterCommandInvoke_keeps h payload
    · exact matterAttribute_keeps h false payload
    · exact matterAttribute_keeps h true payload

theorem processCommandMessage_reads {cfg : Config} {action : CStr}
    (hread : ∀ name ∈ registryActions, action ≠ CStr.lit name) {payload : Json}
    (hpayload : payload.AllStrings P) :
    Keeps I (processCommandMessage cfg p action payload) fun _ => True := by
  unfold processCommandMessage
  cases hfind : findBranch cfg p action with
  | none => exact Keeps.pure trivial
  | some branch =>
      obtain ⟨entry, hentry, rfl⟩ := Option.map_eq_some_iff.mp hfind
      have hname : CStr.lit entry.1 = action := by simpa using List.find?_some hentry
      have hkept := readBranch_keeps h (List.mem_of_find?_eq_some hentry)
        (fun name hmem heq => hread name hmem (hname.symm.trans heq)) hpayload
      exact hkept.weaken fun _ _ => trivial

end Orchestrator.Messages
