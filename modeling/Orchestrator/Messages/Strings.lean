import Orchestrator.Messages.Answers

/-!
# Strings from messages to messages

When every text that comes in satisfies a predicate on strings, and every text
that a buffer cuts still does, then so does every string that is stored and
every string that is sent.
-/

namespace Orchestrator

open Lib Registry Commands

/-- Every string on the board satisfies `P`. -/
structure Board.Strings (P : CStr → Prop) (b : Board) : Prop where
  registry : b.registry.All fun bytes => StoredStrings P (loadBlob bytes)
  state : b.state.Strings P
  openThread : b.openThread.Strings P
  outbox : ∀ frame ∈ b.outbox, frame.2.AllStrings P

/-- The platform makes strings that satisfy `P`, and parses texts into such. -/
structure Platform.Strings (P : CStr → Prop) (p : Platform) : Prop where
  parse : ∀ text root, P text → p.cJSONParse text = some root → root.AllStrings P
  errorName : ∀ err, P (p.espErrToName err)
  role : ∀ role, P (p.otThreadDeviceRoleToString role)

theorem Board.Strings.queueWork {P : CStr → Prop} {b : Board} (h : b.Strings P) {message : Json}
    (hmessage : message.AllStrings P) (fd : Int) : (Server.queueWork fd message b).Strings P := by
  refine { h with outbox := ?_ }
  intro frame hframe
  rcases List.mem_append.mp hframe with hframe | hframe
  · exact h.outbox frame hframe
  · exact List.mem_singleton.mp hframe ▸ hmessage

end Orchestrator

namespace Orchestrator.Messages

open Lib Handler Registry Server State Commands Alloc

variable {p : Platform} {P : CStr → Prop} {I : World → Prop}

/-! ## The board -/

theorem storedStrings_empty : StoredStrings P initEmptyStore where
  count := Nat.zero_le _
  strings _ h := absurd h List.not_mem_nil

theorem strings_unforeseen : UnforeseenNvs fun w => w.board.Strings P :=
  unforeseen_board fun b => b.Strings P

theorem strings_commandInvariant (ht : Texts P) (hp : p.Strings P) :
    CommandInvariant p P fun w => w.board.Strings P where
  toUnforeseenNvs := strings_unforeseen
  load := loadStore_keeps strings_unforeseen
    fun w hw s => hw.registry.of_read (fun _ h => h) storedStrings_empty
  save s hs := saveStore_keeps strings_unforeseen (fun _ hw => hw.registry)
    (fun _ _ hw hn _ => { hw with registry := hn }) (loadBlob_encode_of storedStrings_empty hs)
  event name := by
    apply orchestratorStateBroadcastEvent_keeps (M := fun j => j.AllStrings P)
      strings_unforeseen.toUnforeseen
    · refine (strings_unforeseen.allocate (eventMessage_built ht (ht.lit name) ?_)).weaken ?_
      · exact nofun
      · exact fun _ hjson j hj => (hjson j hj).strings
    · exact fun _ hj fd _ hw => hw.queueWork hj fd
  snapshot := by
    apply orchestratorStateBroadcastSnapshot_keeps (M := fun j => j.AllStrings P)
      (B := fun b => b.state.Strings P) strings_unforeseen.toUnforeseen
    · exact fun _ hw => hw.state
    · intro b hb
      exact (strings_unforeseen.allocate (snapshotMessage_built ht hb)).weaken
        fun _ hjson j hj => (hjson j hj).strings
    · exact fun _ hj fd _ hw => hw.queueWork hj fd
  texts := ht
  role := hp.role
  openThread _ hw := hw.openThread
  state _ hw := hw.state
  wifi _ _ hw := { hw with }
  request _ _ hw := { hw with }
  initialized _ hw := { hw with state := ⟨hw.state.staIp, hw.state.role⟩ }

/-! ## Texts that are stored -/

/-- The device that is found when no call fails. -/
def registered (n : RegistryNvs) (deviceId : CStr) : Option DeviceRecord :=
  match n.read with
  | .ok s => s.devices.find? (hasId deviceId.bytes)
  | .error _ => none

/-- The record that `device.capability.add` saves when no call fails. -/
def recordWithCapability (n : RegistryNvs) (payload : Json) : Option DeviceRecord := do
  let fields ← capabilityFields payload
  let semantic ← DeviceCapabilitySemanticType.fromString fields.semanticType
  let record ← registered n fields.deviceId
  let capability := newCapability payload fields semantic
  if needsAttribute semantic ∧ capability.attributeId = uint32Max then none
  else withCapability record capability

/-- The texts of the command reach the registry when no call fails. -/
def Stores (n : RegistryNvs) (action : CStr) (payload : Json) : Prop :=
  if action = CStr.lit "device.rename" then
    ∃ deviceId, requiredStringField payload "device_id" = some deviceId ∧
      (registered n deviceId).isSome
  else if action = CStr.lit "device.capability.add" then (recordWithCapability n payload).isSome
  else False

/-- What a load can return as long as the registry is not written. -/
def Loadable (n : RegistryNvs) (s : RegistryStore) : Prop := n.read = .ok s ∨ s = initEmptyStore

section Refused

variable {n : RegistryNvs} {deviceId : CStr}

theorem loadable_loadInvariant (hI : UnforeseenNvs I) :
    LoadInvariant (Loadable n) fun w => I w ∧ w.board.registry = n := by
  have hn : UnforeseenNvs fun w => I w ∧ w.board.registry = n :=
    { allocs := fun w hw => ⟨hI.allocs w hw.1, hw.2⟩
      heap := fun w hw => ⟨hI.heap w hw.1, hw.2⟩
      httpd := fun w hw => ⟨hI.httpd w hw.1, hw.2⟩
      stack := fun w hw => ⟨hI.stack w hw.1, hw.2⟩
      nvs := fun w f hw => ⟨hI.nvs w f hw.1, hw.2⟩ }
  refine { hn with load := loadStore_keeps hn ?_ }
  rintro w ⟨-, rfl⟩ s hread
  exact .inl hread

theorem find?_of_loadable {s : RegistryStore} {r : DeviceRecord} (h : Loadable n s)
    (hfind : s.devices.find? (hasId deviceId.bytes) = some r) : registered n deviceId = some r := by
  rcases h with hread | rfl
  · rw [registered, hread]
    exact hfind
  · cases hfind

/-- A device that is not registered is found in no store. -/
theorem findRecord_of_loadable {s : RegistryStore} (h : Loadable n s)
    (hnone : registered n deviceId = none) : findRecord s deviceId.bytes = none := by
  rcases h with hread | rfl
  · have hcount : s.count.toNat ≤ 16 := (RegistryNvs.accepted_of_read hread).count
    rw [registered, hread] at hnone
    rw [findRecord, CountedArray.findIndex_eq _ _ hcount, List.findIdx?_eq_none_iff]
    exact fun r hr => by simpa using List.find?_eq_none.mp hnone r hr
  · rfl

/-- A rename that stores nothing leaves the registry as it is. -/
theorem deviceRename_refused (ht : Texts P) (hI : UnforeseenNvs I) {payload : Json}
    (h : ¬Stores n (CStr.lit "device.rename") payload) :
    Keeps (fun w => I w ∧ w.board.registry = n) (deviceRename payload)
      (CommandExecutionResult.Known P) := by
  rw [Stores, if_pos rfl] at h
  unfold deviceRename
  split
  · next deviceId label hid _ =>
    apply report_keeps ht (deviceRegistryRenameDevice_refused (loadable_loadInvariant hI) label _)
    intro s hs
    apply findRecord_of_loadable hs
    cases hfind : registered n deviceId with
    | none => rfl
    | some r => exact absurd ⟨deviceId, hid, by rw [hfind]; rfl⟩ h
  · exact failed_keeps ht _ rfl

/-- So does an addition that stores nothing. -/
theorem addCapabilityCommand_refused (ht : Texts P) (hI : UnforeseenNvs I) {payload : Json}
    (h : ¬Stores n (CStr.lit "device.capability.add") payload) :
    Keeps (fun w => I w ∧ w.board.registry = n) (addCapabilityCommand payload)
      (CommandExecutionResult.Known P) := by
  rw [Stores, if_neg (by decide), if_pos rfl] at h
  apply addCapabilityCommand_rule (fun err _ => failed_known ht err) fun deviceId =>
    deviceRegistryGetDevice_keeps (loadable_loadInvariant hI) deviceId
  rintro fields semantic record updated hadds ⟨s, hs, hfind⟩
  have hregistered := find?_of_loadable hs hfind
  refine absurd ?_ h
  simp [recordWithCapability, hadds.hasFields, hadds.hasType, hregistered, hadds.hasAttribute,
    hadds.updates]

/-- A command that would store texts, and stores none. -/
theorem processCommandMessage_refused (ht : Texts P) (hI : UnforeseenNvs I) {cfg : Config}
    {action : CStr} {payload : Json} (htexts : storedTexts action payload ≠ [])
    (h : ¬Stores n action payload) :
    Keeps (fun w => I w ∧ w.board.registry = n) (processCommandMessage cfg p action payload)
      (CommandExecutionResult.Known P) := by
  unfold storedTexts at htexts
  split at htexts
  · next haction =>
    subst haction
    have hmem : ("device.rename", deviceRename) ∈ branches cfg p :=
      mem_branches_of_device (by simp [deviceBranches])
    rw [processCommandMessage_of_mem hmem]
    exact deviceRename_refused ht hI h
  · split at htexts
    · next haction =>
      subst haction
      have hmem : ("device.capability.add", addCapabilityCommand) ∈ branches cfg p :=
        mem_branches_of_device (by simp [deviceBranches])
      rw [processCommandMessage_of_mem hmem]
      exact addCapabilityCommand_refused ht hI h
    · exact absurd rfl htexts

end Refused

/-! ## Replies -/

theorem sendBuilt_keeps (hI : Unforeseen I)
    (hqueue : ∀ message : Json, message.AllStrings P → ∀ fd w, I w →
      I { w with board := queueWork fd message w.board })
    {object : Alloc (Option Json)} (hobject : object.Always fun out => ∀ o ∈ out, Built P o)
    (fd : Int) : Esp.Keeps I (sendBuilt object fd) fun _ => True := by
  apply Esp.Keeps.bind (Esp.Keeps.lift (hI.allocate hobject))
  rintro (- | root) hroot
  · exact Esp.Keeps.throw
  · apply Esp.Keeps.bind (Esp.Keeps.lift
      (hI.allocate (cJSONPrintUnformatted_always (hroot root rfl).strings)))
    rintro (- | json) hjson
    · exact Esp.Keeps.throw
    · exact websocketSendMessageToClient_keeps hI (hqueue json (hjson json rfl) fd)

theorem protocolErrorObject_built (ht : Texts P) (code message : String) :
    (protocolErrorObject code message).Always fun out => ∀ o ∈ out, Built P o := by
  intro A hA
  apply Keeps.bind (cJSONCreateObject_built A hA)
  intro root hroot
  apply Keeps.bind (cJSONCreateObject_built A hA)
  intro error herror
  cases root with
  | none =>
      apply Keeps.pure
      rintro o ⟨⟩
  | some root =>
      cases error with
      | none =>
          apply Keeps.pure
          rintro o ⟨⟩
      | some error =>
          apply Keeps.bind (addFields_built (hroot root rfl)
            (.cons (ht.lit _) (.string (ht.lit _)) .nil) A hA)
          intro root hroot
          apply Keeps.bind (addFields_built (herror error rfl)
            (.cons (ht.lit _) (.string (ht.lit _)) <|
              .cons (ht.lit _) (.string (ht.lit _)) .nil) A hA)
          intro error herror
          apply Keeps.bind (addFields_built hroot (.cons (ht.lit _) herror.strings .nil) A hA)
          intro root hroot
          apply Keeps.pure
          rintro o ⟨⟩
          exact hroot

theorem resultHeader_strings (ht : Texts P) {requestId action : CStr} (hid : P requestId)
    (haction : P action) (ok : Bool) : FieldStrings P (resultHeader requestId action ok) :=
  .cons (ht.lit _) (.string (ht.lit _)) <| .cons (ht.lit _) (.string hid) <|
  .cons (ht.lit _) (.string haction) <| .cons (ht.lit _) (.bool ok) .nil

theorem resultError_strings (ht : Texts P) (hp : p.Strings P) (err : EspErr)
    {result : CommandExecutionResult} (hresult : result.Strings P) :
    FieldStrings P (resultError p err result) := by
  have hcode : P (errorCodeForResult p err result.unknownAction) := by
    unfold errorCodeForResult
    split
    · exact ht.lit _
    · exact hp.errorName err
  have hmessage : P (errorMessageForResult p err result.errorMessage.toCStr) := by
    unfold errorMessageForResult
    split
    · exact hp.errorName err
    · exact hresult.message
  exact .cons (ht.lit _) (.string hcode) <| .cons (ht.lit _) (.string hmessage) .nil

theorem commandResultObject_built (ht : Texts P) (hp : p.Strings P) {requestId action : CStr}
    (hid : P requestId) (haction : P action) {result : CommandExecutionResult}
    (hresult : result.Strings P) :
    (commandResultObject p requestId action result).Always fun out => ∀ o ∈ out, Built P o := by
  intro A hA
  apply Keeps.bind (cJSONCreateObject_built A hA)
  rintro (- | root) hroot
  · apply Keeps.pure
    rintro o ⟨⟩
  · have hheader := fun ok => addFields_built (hroot root rfl)
      (resultHeader_strings ht hid haction ok) A hA
    dsimp only
    split
    · apply Keeps.bind (hheader true)
      intro root hroot
      apply Keeps.bind (payloadOrEmpty_built hresult.payload A hA)
      rintro (- | payload) hpayload
      · apply Keeps.pure
        rintro o ⟨⟩
      · apply Keeps.bind (addFields_built hroot
          (.cons (ht.lit _) (hpayload payload rfl).strings .nil) A hA)
        intro root hroot
        apply Keeps.pure
        rintro o ⟨⟩
        exact hroot
    · next err _ =>
      apply Keeps.bind (hheader false)
      intro root hroot
      apply Keeps.bind (createObject_built (resultError_strings ht hp err hresult) A hA)
      rintro (- | error) herror
      · apply Keeps.pure
        rintro o ⟨⟩
      · apply Keeps.bind (addFields_built hroot
          (.cons (ht.lit _) (herror error rfl).strings .nil) A hA)
        intro root hroot
        apply Keeps.pure
        rintro o ⟨⟩
        exact hroot

/-! ## Messages -/

theorem IsCommand.strings {root : Option Json} {envelope : Envelope}
    (h : IsCommand root envelope) (hroot : ∀ r ∈ root, r.AllStrings P) :
    P envelope.requestId ∧ P envelope.action ∧ envelope.payload.AllStrings P := by
  have hmember : ∀ name item, member root name = some item → item.AllStrings P := by
    intro name item hitem
    obtain ⟨r, hr, hget⟩ := Option.bind_eq_some_iff.mp hitem
    exact (hroot r hr).getObjectItemCaseSensitive hget
  exact ⟨(hmember _ _ h.requestId).of_string, (hmember _ _ h.action).of_string,
    hmember _ _ h.payload⟩

/-- What parsing returns is the tree of the text, unless memory runs out. -/
theorem cJSONParse_always (p : Platform) (text : CStr) :
    (cJSONParse p text).Always fun root => root = p.cJSONParse text ∨ root = none := by
  intro A hA
  apply Keeps.bind (next_always A hA)
  rintro parsed -
  cases parsed with
  | true => exact Keeps.pure (.inl rfl)
  | false => exact Keeps.pure (.inr rfl)

/-- A message keeps what sending keeps, if its command does and has strings of `P`. -/
theorem handleJsonInboundMessage_keeps (ht : Texts P) (hp : p.Strings P) (hI : Unforeseen I)
    (hqueue : ∀ message : Json, message.AllStrings P → ∀ fd w, I w →
      I { w with board := queueWork fd message w.board })
    {cfg : Config} {text : CStr} (htext : P text)
    (hprocess : ∀ envelope, checkEnvelope (p.cJSONParse text) = .ok envelope →
      Keeps I (processCommandMessage cfg p envelope.action envelope.payload)
        (CommandExecutionResult.Strings P))
    (fd : Int) : Esp.Keeps I (handleJsonInboundMessage cfg p text fd) fun _ => True := by
  apply Esp.Keeps.bind (Esp.Keeps.lift (hI.allocate (cJSONParse_always p text)))
  intro root hroot
  cases hcheck : checkEnvelope root with
  | error error => exact sendBuilt_keeps hI hqueue (protocolErrorObject_built ht _ _) fd
  | ok envelope =>
      rcases hroot with rfl | rfl
      · obtain ⟨hid, haction, -⟩ := (isCommand_of_ok hcheck).2.strings (P := P)
          fun r hr => hp.parse text r htext hr
        apply Esp.Keeps.bind (Esp.Keeps.lift (hprocess envelope hcheck))
        intro result hresult
        exact sendBuilt_keeps hI hqueue
          (commandResultObject_built ht hp hid haction hresult) fd
      · cases hcheck

/-- The text of a reply to an unknown action is cut to the buffer of its message. -/
theorem unknownActionResult_strings {action : CStr}
    (h : P ((CStr.lit "Unsupported command action: " ++ action).take 127)) :
    (unknownActionResult action).Strings P := by
  constructor
  · exact nofun
  · show P (CharArray.copyField 128 _).toCStr
    rw [CharArray.toCStr_copyField 127]
    exact h

/-- The texts that a command stores are strings of its payload. -/
theorem of_mem_storedTexts {action s : CStr} {payload : Json} (hpayload : payload.AllStrings P)
    (hs : s ∈ storedTexts action payload) : P s := by
  unfold storedTexts at hs
  split at hs
  · exact of_requiredStringField hpayload (Option.mem_toList.mp hs)
  · split at hs
    · split at hs
      · next fields hfields =>
        have hfrom := of_capabilityFields hfields
        simp only [List.mem_cons, List.not_mem_nil, or_false] at hs
        rcases hs with rfl | rfl
        · exact of_requiredStringField hpayload hfrom.capabilityId
        · cases hlabel : optionalStringField payload "label" with
          | some label => exact of_optionalStringField hpayload hlabel
          | none => exact of_requiredStringField hpayload hfrom.semanticType
      · cases hs
    · cases hs

/-- What has to hold of the texts that a message has cut. -/
structure CutsKept (P : CStr → Prop) (cfg : Config) (p : Platform) (n : RegistryNvs)
    (envelope : Envelope) : Prop where
  stored : Stores n envelope.action envelope.payload →
    ∀ s ∈ storedTexts envelope.action envelope.payload, P (s.take 31)
  unknown : ¬Handled cfg p envelope.action →
    P ((CStr.lit "Unsupported command action: " ++ envelope.action).take 127)

/-- The command either stores nothing it has cut wrongly, or does not write the registry. -/
theorem processCommandMessage_strings (ht : Texts P) (hp : p.Strings P) {cfg : Config}
    {n : RegistryNvs} {envelope : Envelope} (hpayload : envelope.payload.AllStrings P)
    (hcuts : CutsKept P cfg p n envelope) :
    Keeps (fun w => w.board.Strings P)
        (processCommandMessage cfg p envelope.action envelope.payload)
        (CommandExecutionResult.Strings P) ∨
      Keeps (fun w => w.board.Strings P ∧ w.board.registry = n)
        (processCommandMessage cfg p envelope.action envelope.payload)
        (CommandExecutionResult.Strings P) := by
  by_cases hhandled : Handled cfg p envelope.action
  · by_cases hstored : ∀ s ∈ storedTexts envelope.action envelope.payload, P (s.take 31)
    · left
      exact (processCommandMessage_keeps (strings_commandInvariant ht hp)
        (findBranch_isSome_iff.mpr hhandled) hpayload hstored).weaken
          fun _ hresult => hresult.toStrings
    · right
      have htexts : storedTexts envelope.action envelope.payload ≠ [] := by
        intro hnil
        apply hstored
        rw [hnil]
        exact fun s hs => absurd hs List.not_mem_nil
      exact (processCommandMessage_refused ht strings_unforeseen htexts
        (mt hcuts.stored hstored)).weaken fun _ hresult => hresult.toStrings
  · left
    rw [processCommandMessage_unhandled hhandled]
    exact Keeps.pure (unknownActionResult_strings (hcuts.unknown hhandled))

/-- A message with strings of `P`, which satisfy `P` also where they are cut, leaves
only such strings behind. -/
theorem message_strings (ht : Texts P) (hp : p.Strings P) {cfg : Config} {text : CStr}
    (htext : P text) {w : World} (hw : w.board.Strings P)
    (hcuts : ∀ envelope, checkEnvelope (p.cJSONParse text) = .ok envelope →
      CutsKept P cfg p w.board.registry envelope) (fd : Int) :
    ((handleJsonInboundMessage cfg p text fd).run w).2.board.Strings P := by
  cases hcheck : checkEnvelope (p.cJSONParse text) with
  | error error =>
      refine (handleJsonInboundMessage_keeps ht hp strings_unforeseen.toUnforeseen
        (fun _ hmessage fd _ hw => hw.queueWork hmessage fd) htext ?_ fd w hw).1
      intro envelope heq
      rw [hcheck] at heq
      cases heq
  | ok envelope =>
      have hpayload := ((isCommand_of_ok hcheck).2.strings (P := P)
        fun r hr => hp.parse text r htext hr).2.2
      rcases processCommandMessage_strings ht hp hpayload (hcuts envelope hcheck) with
        hprocess | hprocess
      · refine (handleJsonInboundMessage_keeps ht hp strings_unforeseen.toUnforeseen
          (fun _ hmessage fd _ hw => hw.queueWork hmessage fd) htext ?_ fd w hw).1
        intro envelope' heq
        rw [hcheck] at heq
        cases heq
        exact hprocess
      · refine (handleJsonInboundMessage_keeps ht hp
          (loadable_loadInvariant strings_unforeseen).toUnforeseen
          (fun _ hmessage fd _ hw => ⟨hw.1.queueWork hmessage fd, hw.2⟩) htext ?_ fd w
          ⟨hw, rfl⟩).1.1
        intro envelope' heq
        rw [hcheck] at heq
        cases heq
        exact hprocess

end Orchestrator.Messages
