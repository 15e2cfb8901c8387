import Orchestrator.Messages.Rules

/-!
# Replies and broadcasts

The trees that the handler of messages sends, the frames that commands send to
every client, and the checks that come before a command.
-/

namespace Orchestrator.Messages

open Lib Handler Registry Server State Commands Alloc

/-! ## The objects that are sent -/

def errorFields (code message : CStr) : List (CStr × Json) :=
  [(CStr.lit "code", .string code), (CStr.lit "message", .string message)]

/-- A protocol error. -/
def errorTree (code message : CStr) : Json :=
  .object [(CStr.lit "type", .string (CStr.lit "error")),
    (CStr.lit "error", .object (errorFields code message))]

/-- The result of a command that returned `ESP_OK`. -/
def successTree (requestId action : CStr) (payload : List (CStr × Json)) : Json :=
  .object (resultHeader requestId action true ++ [(CStr.lit "payload", .object payload)])

/-- The result of a command that failed. -/
def failureTree (requestId action code message : CStr) : Json :=
  .object (resultHeader requestId action false ++
    [(CStr.lit "error", .object (errorFields code message))])

theorem protocolErrorObject_yields (code message : String) :
    (protocolErrorObject code message).Yields
      (some (errorTree (CStr.lit code) (CStr.lit message))) := by
  apply Keeps.bind cJSONCreateObject_yields
  rintro _ rfl
  apply Keeps.bind cJSONCreateObject_yields
  rintro _ rfl
  apply Keeps.bind (addFields_yields _ _)
  rintro _ rfl
  apply Keeps.bind (addFields_yields _ _)
  rintro _ rfl
  apply Keeps.bind (addFields_yields _ _)
  rintro _ rfl
  exact Keeps.pure rfl

theorem commandResultObject_success (p : Platform) (requestId action : CStr)
    {result : CommandExecutionResult} {payload : List (CStr × Json)} (herr : result.err = .ok ⟨⟩)
    (hpayload : (payloadOrEmpty result.payload).Yields (some (.object payload))) :
    (commandResultObject p requestId action result).Yields
      (some (successTree requestId action payload)) := by
  apply Keeps.bind cJSONCreateObject_yields
  rintro _ rfl
  rw [herr]
  apply Keeps.bind (addFields_yields _ _)
  rintro _ rfl
  apply Keeps.bind hpayload
  rintro _ rfl
  apply Keeps.bind (addFields_yields _ _)
  rintro _ rfl
  exact Keeps.pure rfl

theorem commandResultObject_failure (p : Platform) (requestId action : CStr)
    {result : CommandExecutionResult} {err : EspErr} (herr : result.err = .error err) :
    (commandResultObject p requestId action result).Yields
      (some (failureTree requestId action (errorCodeForResult p err result.unknownAction)
        (errorMessageForResult p err result.errorMessage.toCStr))) := by
  apply Keeps.bind cJSONCreateObject_yields
  rintro _ rfl
  rw [herr]
  apply Keeps.bind (addFields_yields _ _)
  rintro _ rfl
  apply Keeps.bind (createObject_yields _)
  rintro _ rfl
  apply Keeps.bind (addFields_yields _ _)
  rintro _ rfl
  exact Keeps.pure rfl

/-- The payload that is sent with `ESP_OK` is an object. -/
theorem payloadOrEmpty_yields {payload : Option Json} {P : CStr → Prop}
    (h : ∀ out ∈ payload, Built P out) :
    ∃ members, (payloadOrEmpty payload).Yields (some (.object members)) := by
  cases payload with
  | none => exact ⟨[], cJSONCreateObject_yields⟩
  | some out =>
      have hobject := (h out rfl).isObject
      cases out with
      | object members => exact ⟨members, Keeps.pure rfl⟩
      | null | bool _ | number _ | string _ | array _ => cases hobject

/-! ## Runs with memory to spare -/

/-- What follows an object that can be built is its transmission, and nothing else. -/
theorem sendBuilt_run {out : Alloc (Option Json)} {tree : Json} {w : World}
    (hw : w.allocs = allSucceed) (hout : out.Yields (some tree)) (fd : Int) :
    (sendBuilt out fd).run w = (websocketSendMessageToClient fd tree).run w :=
  (Esp.run_liftM_bind (allocate_eq hw hout)).trans
    (Esp.run_liftM_bind (allocate_eq hw (cJSONPrintUnformatted_yields tree)))

theorem cJSONParse_yields (p : Platform) (text : CStr) :
    (cJSONParse p text).Yields (p.cJSONParse text) := by
  apply Keeps.bind next_yields
  rintro _ rfl
  exact Keeps.pure rfl

/-! ## Broadcasts -/

/-- The frames that commands send to every client. -/
inductive IsBroadcast : Json → Prop
  | event (name : String) : IsBroadcast (eventTree (CStr.lit name))
  | snapshot (s : OrchestratorState) : IsBroadcast (snapshotTree s)

/-- Since the outbox was `before`, only broadcasts have been queued. -/
def OnlyBroadcasts (before : List (Int × Json)) (w : World) : Prop :=
  w.allocs = allSucceed ∧ ∃ broadcasts : List (Int × Json),
    w.board.outbox = before ++ broadcasts ∧ ∀ frame ∈ broadcasts, IsBroadcast frame.2

variable {before : List (Int × Json)}

theorem onlyBroadcasts_unforeseen : UnforeseenNvs (OnlyBroadcasts before) where
  allocs _ h := ⟨(congrArg Stream'.tail h.1).trans (Stream'.tail_const true), h.2⟩
  heap _ h := h
  httpd _ h := h
  stack _ h := h
  nvs _ _ h := h

theorem OnlyBroadcasts.queue {w : World} (h : OnlyBroadcasts before w) {message : Json}
    (hmessage : IsBroadcast message) (fd : Int) :
    OnlyBroadcasts before { w with board := queueWork fd message w.board } := by
  obtain ⟨hallocs, broadcasts, houtbox, hall⟩ := h
  refine ⟨hallocs, broadcasts ++ [(fd, message)], ?_, ?_⟩
  · show w.board.outbox ++ [(fd, message)] = _
    rw [houtbox, List.append_assoc]
  · intro frame hframe
    rcases List.mem_append.mp hframe with hframe | hframe
    · exact hall frame hframe
    · exact List.mem_singleton.mp hframe ▸ hmessage

theorem storedStrings_true {s : RegistryStore} (h : s.Accepted) :
    StoredStrings (fun _ => True) s where
  count := h.count
  strings _ _ := ⟨trivial, trivial, trivial, trivial, fun _ _ => ⟨trivial, trivial⟩⟩

theorem onlyBroadcasts_event (name : String) : Esp.Keeps (OnlyBroadcasts before)
    (orchestratorStateBroadcastEvent (CStr.lit name) none) fun _ => True := by
  apply orchestratorStateBroadcastEvent_keeps (M := IsBroadcast)
    onlyBroadcasts_unforeseen.toUnforeseen
  · apply (Unforeseen.allocate_yields (fun w hw => hw.1) (eventMessage_yields _)).weaken
    rintro _ rfl j ⟨⟩
    exact .event name
  · exact fun message hmessage fd w hw => hw.queue hmessage fd

theorem onlyBroadcasts_snapshot :
    Esp.Keeps (OnlyBroadcasts before) orchestratorStateBroadcastSnapshot fun _ => True := by
  apply orchestratorStateBroadcastSnapshot_keeps (M := IsBroadcast) (B := fun _ => True)
    onlyBroadcasts_unforeseen.toUnforeseen
  · exact fun _ _ => trivial
  · rintro b -
    apply (Unforeseen.allocate_yields (fun w hw => hw.1) (snapshotMessage_yields _)).weaken
    rintro _ rfl j ⟨⟩
    exact .snapshot b.state
  · exact fun message hmessage fd w hw => hw.queue hmessage fd

theorem onlyBroadcasts_commandInvariant (p : Platform) :
    CommandInvariant p (fun _ => True) (OnlyBroadcasts before) where
  toUnforeseenNvs := onlyBroadcasts_unforeseen
  load := loadStore_keeps onlyBroadcasts_unforeseen
    fun _ _ _ hread => storedStrings_true (RegistryNvs.accepted_of_read hread)
  save _ _ := saveStore_keeps onlyBroadcasts_unforeseen (fun _ _ => RegistryNvs.all_true _)
    (fun _ _ hw _ _ => hw) trivial
  event := onlyBroadcasts_event
  snapshot := onlyBroadcasts_snapshot
  texts := texts_true
  role _ := trivial
  openThread _ _ := ⟨fun _ _ => trivial, fun _ _ => trivial, fun _ _ => trivial⟩
  state _ _ := ⟨trivial, trivial⟩
  wifi _ _ hw := hw
  request _ _ hw := hw
  initialized _ hw := hw

/-! ## Envelopes -/

/-- The member of a message that may not have been parsed. -/
def member (root : Option Json) (name : String) : Option Json :=
  root.bind fun root => root.getObjectItemCaseSensitive (CStr.lit name)

/-- What a message is checked for, with the code of each check. -/
def envelopeChecks (root : Option Json) : List (String × Bool) :=
  [("INVALID_JSON", root.isSome),
   ("MISSING_TYPE", (Json.string? (member root "type")).isSome),
   ("UNSUPPORTED_TYPE", Json.string? (member root "type") = some (CStr.lit "command")),
   ("MISSING_REQUEST_ID", (nonEmptyString (member root "request_id")).isSome),
   ("MISSING_ACTION", (nonEmptyString (member root "action")).isSome),
   ("INVALID_PAYLOAD", (member root "payload").any Json.isObject)]

/-- The code of the first check that fails. -/
def firstFailing (root : Option Json) : Option String :=
  ((envelopeChecks root).find? fun check => !check.2).map Prod.fst

/-- A command message with these parts. -/
structure IsCommand (root : Option Json) (envelope : Envelope) : Prop where
  requestId : member root "request_id" = some (.string envelope.requestId)
  action : member root "action" = some (.string envelope.action)
  payload : member root "payload" = some envelope.payload
  isObject : envelope.payload.isObject = true

/-- The nested checks of the handler report the first one that fails. -/
theorem firstFailing_of_error {root : Option Json} {error : ProtocolError}
    (h : checkEnvelope root = .error error) : firstFailing root = some error.code := by
  unfold checkEnvelope at h
  unfold firstFailing envelopeChecks member
  split at h
  · cases h
    rfl
  · next root =>
    rw [Option.bind_some, Option.bind_some, Option.bind_some, Option.bind_some]
    split at h
    · next htype =>
      cases h
      simp [htype]
    · next type htype =>
      split at h
      · next hne =>
        cases h
        simp [htype, hne]
      · next heq =>
        rw [not_not] at heq
        subst heq
        split at h
        · next hid =>
          cases h
          simp [htype, hid]
        · next requestId hid =>
          split at h
          · next haction =>
            cases h
            simp [htype, hid, haction]
          · next action haction =>
            split at h
            · cases h
            · next hpayload =>
              cases h
              have hnot : (root.getObjectItemCaseSensitive (CStr.lit "payload")).any
                  Json.isObject = false := by
                cases hitem : root.getObjectItemCaseSensitive (CStr.lit "payload") with
                | none => rfl
                | some payload =>
                    cases payload with
                    | object members => exact absurd hitem (hpayload members)
                    | null | bool _ | number _ | string _ | array _ => rfl
              simp [htype, hid, haction, hnot]

/-- A message that passes every check is a command. -/
theorem isCommand_of_ok {root : Option Json} {envelope : Envelope}
    (h : checkEnvelope root = .ok envelope) :
    firstFailing root = none ∧ IsCommand root envelope := by
  unfold checkEnvelope at h
  unfold firstFailing envelopeChecks
  split at h
  · cases h
  · next root =>
    split at h
    · cases h
    · next type htype =>
      split at h
      · cases h
      · next heq =>
        rw [not_not] at heq
        subst heq
        split at h
        · cases h
        · next requestId hid =>
          split at h
          · cases h
          · next action haction =>
            split at h
            · next members hpayload =>
              cases h
              constructor
              · simp [member, htype, hid, haction, hpayload, Json.isObject]
              · exact {
                  requestId := (of_nonEmptyString hid).1
                  action := (of_nonEmptyString haction).1
                  payload := hpayload
                  isObject := rfl }
            · cases h

end Orchestrator.Messages
