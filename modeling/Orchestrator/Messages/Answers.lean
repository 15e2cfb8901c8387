import Orchestrator.Messages.Reply

/-!
# One reply to every message

When cJSON has memory, the handler ends with the transmission of exactly one
reply. All other frames queued meanwhile are broadcasts of the command that was
executed, which reach the sender of the message too.
-/

namespace Orchestrator.Messages

open Lib Handler Registry Server State Commands Alloc

/-! ## Commands -/

/-- A branch that is compiled in handles the action. -/
def Handled (cfg : Config) (p : Platform) (action : CStr) : Prop :=
  ∃ branch ∈ branches cfg p, CStr.lit branch.1 = action

/-- The message makes the dispatcher execute a command. -/
def Executes (cfg : Config) (p : Platform) (root : Option Json) : Prop :=
  firstFailing root = none ∧
    ∃ envelope, IsCommand root envelope ∧ Handled cfg p envelope.action

variable {cfg : Config} {p : Platform} {w : World} {root : Option Json} {envelope : Envelope}

theorem findBranch_isSome_iff {action : CStr} :
    (findBranch cfg p action).isSome ↔ Handled cfg p action := by
  unfold findBranch Handled
  rw [Option.isSome_map, List.find?_isSome]
  simp

theorem processCommandMessage_unhandled {action : CStr} (h : ¬Handled cfg p action)
    (payload : Json) :
    processCommandMessage cfg p action payload = pure (unknownActionResult action) := by
  have hnone : findBranch cfg p action = none := by
    rw [← findBranch_isSome_iff, Option.not_isSome_iff_eq_none] at h
    exact h
  unfold processCommandMessage
  rw [hnone]

/-- The result of a command that has a branch is not that of an unknown action. -/
theorem processCommandMessage_handled {J : World → Prop}
    (hJ : CommandInvariant p (fun _ => True) J) {action : CStr} (h : Handled cfg p action)
    (payload : Json) :
    Keeps J (processCommandMessage cfg p action payload)
      (CommandExecutionResult.Known fun _ => True) :=
  processCommandMessage_keeps hJ (findBranch_isSome_iff.mpr h)
    (Json.allStrings_of_forall (fun _ => trivial) payload) fun _ _ => trivial

/-! ## Replies -/

/-- What a message that was parsed as `root` is answered with in the world `w`. -/
inductive Answers (cfg : Config) (p : Platform) (w : World) (root : Option Json) : Json → Prop
  | protocolError {code : String} (message : String) (h : firstFailing root = some code) :
      Answers cfg p w root (errorTree (CStr.lit code) (CStr.lit message))
  | success {envelope : Envelope} {payload : List (CStr × Json)} (h : firstFailing root = none)
      (hcommand : IsCommand root envelope) (hhandled : Handled cfg p envelope.action)
      (hok : (processCommandMessage cfg p envelope.action envelope.payload w).1.err = .ok ⟨⟩) :
      Answers cfg p w root (successTree envelope.requestId envelope.action payload)
  | failure {envelope : Envelope} {err : EspErr} {code message : CStr}
      (h : firstFailing root = none) (hcommand : IsCommand root envelope)
      (herr : (processCommandMessage cfg p envelope.action envelope.payload w).1.err = .error err)
      (hcode : code.isEmpty = false) (hmessage : message.isEmpty = false)
      (hunknown : code = CStr.lit "UNKNOWN_ACTION" ↔ ¬Handled cfg p envelope.action) :
      Answers cfg p w root (failureTree envelope.requestId envelope.action code message)

theorem isEmpty_errorMessageForResult (hnames : p.ErrorNames) (err : EspErr) (message : CStr) :
    (errorMessageForResult p err message).isEmpty = false := by
  unfold errorMessageForResult
  split
  · exact hnames.nonempty err
  · next h => simpa using h

/-- The `type` of a message. -/
def messageType (message : Json) : Option CStr := Json.string? (member (some message) "type")

theorem IsBroadcast.messageType_eq {message : Json} (h : IsBroadcast message) :
    messageType message = some (CStr.lit "event") ∨
      messageType message = some (CStr.lit "state_snapshot") := by
  cases h with
  | event name => exact .inl rfl
  | snapshot s => exact .inr rfl

theorem Answers.messageType_eq {reply : Json} (h : Answers cfg p w root reply) :
    messageType reply = some (CStr.lit "error") ∨
      messageType reply = some (CStr.lit "command_result") := by
  cases h with
  | protocolError => exact .inl rfl
  | success | failure => exact .inr rfl

theorem Answers.not_isBroadcast {reply : Json} (h : Answers cfg p w root reply) :
    ¬IsBroadcast reply := by
  intro hbroadcast
  rcases h.messageType_eq with hreply | hreply <;>
    rcases hbroadcast.messageType_eq with htype | htype <;>
    exact absurd (hreply.symm.trans htype) (by decide)

/-- The object that is built of the result of a command answers its message. -/
theorem exists_commandResult (hnames : p.ErrorNames) (h : checkEnvelope root = .ok envelope)
    {result : CommandExecutionResult}
    (hresult : (processCommandMessage cfg p envelope.action envelope.payload w).1 = result)
    (hcase : Handled cfg p envelope.action ∧ result.Known (fun _ => True) ∨
      ¬Handled cfg p envelope.action ∧ result = unknownActionResult envelope.action) :
    ∃ reply, Answers cfg p w root reply ∧
      (commandResultObject p envelope.requestId envelope.action result).Yields
        (some reply) := by
  obtain ⟨hchecks, hcommand⟩ := isCommand_of_ok h
  rcases hcase with ⟨hhandled, hknown⟩ | ⟨hhandled, rfl⟩
  · cases herr : result.err with
    | ok _ =>
        obtain ⟨payload, hpayload⟩ := payloadOrEmpty_yields hknown.payload
        exact ⟨_, .success hchecks hcommand hhandled (hresult.symm ▸ herr),
          commandResultObject_success p _ _ herr hpayload⟩
    | error err =>
        have hcode : errorCodeForResult p err result.unknownAction = p.espErrToName err := by
          rw [errorCodeForResult, hknown.known]
          rfl
        refine ⟨_, .failure hchecks hcommand (hresult.symm ▸ herr) ?_
          (isEmpty_errorMessageForResult hnames _ _) ?_,
          commandResultObject_failure p _ _ herr⟩
        · rw [hcode]
          exact hnames.nonempty err
        · rw [hcode]
          exact iff_of_false (hnames.ne_unknown err) (not_not_intro hhandled)
  · refine ⟨_, .failure hchecks hcommand (congrArg CommandExecutionResult.err hresult) ?_
      (isEmpty_errorMessageForResult hnames _ _) ?_, commandResultObject_failure p _ _ rfl⟩
    · show (CStr.lit "UNKNOWN_ACTION").isEmpty = false
      decide
    · exact iff_of_true rfl hhandled

/-- The handler ends with the transmission of one answer, before which only a
command that has a branch has done anything. -/
theorem handleJsonInboundMessage_run (cfg : Config) (hnames : p.ErrorNames) (text : CStr) (fd : Int)
    (hallocs : w.allocs = allSucceed) :
    ∃ reply sending, Answers cfg p w (p.cJSONParse text) reply ∧
      (handleJsonInboundMessage cfg p text fd).run w =
        (websocketSendMessageToClient fd reply).run sending ∧
      OnlyBroadcasts w.board.outbox sending ∧
      (¬Executes cfg p (p.cJSONParse text) → sending = w) ∧
      ∀ J, CommandInvariant p (fun _ => True) J → J w → J sending := by
  have hstart : OnlyBroadcasts w.board.outbox w :=
    ⟨hallocs, [], (List.append_nil _).symm, fun _ h => absurd h List.not_mem_nil⟩
  unfold handleJsonInboundMessage
  rw [Esp.run_liftM_bind (allocate_eq hallocs (cJSONParse_yields p text))]
  cases hcheck : checkEnvelope (p.cJSONParse text) with
  | error error =>
      exact ⟨_, w, .protocolError error.message (firstFailing_of_error hcheck),
        sendBuilt_run hallocs (protocolErrorObject_yields _ _) fd, hstart, fun _ => rfl,
        fun _ _ hw => hw⟩
  | ok envelope =>
      obtain ⟨result, sending, hrun⟩ : ∃ result sending,
          processCommandMessage cfg p envelope.action envelope.payload w = (result, sending) :=
        ⟨_, _, rfl⟩
      dsimp only
      rw [Esp.run_liftM_bind hrun]
      obtain ⟨hchecks, hcommand⟩ := isCommand_of_ok hcheck
      by_cases hhandled : Handled cfg p envelope.action
      · have hkept := processCommandMessage_handled (onlyBroadcasts_commandInvariant p) hhandled
          envelope.payload w hstart
        rw [hrun] at hkept
        obtain ⟨reply, hanswer, hreply⟩ := exists_commandResult (w := w) hnames hcheck
          (congrArg Prod.fst hrun) (.inl ⟨hhandled, hkept.2⟩)
        refine ⟨reply, sending, hanswer, sendBuilt_run hkept.1.1 hreply fd, hkept.1,
          fun h => absurd ⟨hchecks, envelope, hcommand, hhandled⟩ h, ?_⟩
        intro J hJ hw
        have hkeeps := processCommandMessage_handled hJ hhandled envelope.payload w hw
        rw [hrun] at hkeeps
        exact hkeeps.1
      · rw [processCommandMessage_unhandled hhandled] at hrun
        cases hrun
        obtain ⟨reply, hanswer, hreply⟩ := exists_commandResult (w := w) hnames hcheck
          (by rw [processCommandMessage_unhandled hhandled]; rfl) (.inr ⟨hhandled, rfl⟩)
        exact ⟨reply, w, hanswer, sendBuilt_run hallocs hreply fd, hstart, fun _ => rfl,
          fun _ _ hw => hw⟩

/-! ## The reply -/

/-- One reply is sent to the client, from a world in which only broadcasts of the
command have been queued; without a command that is the world the message came to. -/
structure RepliedOnce (cfg : Config) (p : Platform) (text : CStr) (fd : Int) (w : World)
    (reply : Json) (sending : World) (broadcasts : List (Int × Json)) : Prop where
  answers : Answers cfg p w (p.cJSONParse text) reply
  not_isBroadcast : ¬IsBroadcast reply
  outbox : sending.board.outbox = w.board.outbox ++ broadcasts
  isBroadcast : ∀ frame ∈ broadcasts, IsBroadcast frame.2
  idle : ¬Executes cfg p (p.cJSONParse text) → sending = w
  run : (handleJsonInboundMessage cfg p text fd).run w =
    (websocketSendMessageToClient fd reply).run sending
  sent : ((handleJsonInboundMessage cfg p text fd).run w).1 = .ok ⟨⟩ →
    ((handleJsonInboundMessage cfg p text fd).run w).2.board = queueWork fd reply sending.board

/-- Every message is answered by one reply. -/
theorem message_has_one_reply (cfg : Config) (p : Platform) (text : CStr) (fd : Int) (w : World)
    (hnames : p.ErrorNames) (hallocs : w.allocs = allSucceed) :
    ∃ reply sending broadcasts, RepliedOnce cfg p text fd w reply sending broadcasts := by
  obtain ⟨reply, sending, hanswer, hrun, ⟨-, broadcasts, houtbox, hall⟩, hidle, -⟩ :=
    handleJsonInboundMessage_run cfg hnames text fd hallocs
  refine ⟨reply, sending, broadcasts, hanswer, hanswer.not_isBroadcast, houtbox, hall, hidle,
    hrun, ?_⟩
  intro hsent
  rw [hrun] at hsent ⊢
  exact websocketSendMessageToClient_ends sending.board fd reply sending rfl ⟨⟩ hsent

/-- A message that initializes the Matter controller. -/
def controllerInitText : String :=
  "\x7b\"type\":\"command\",\"request_id\":\"r1\",\"action\":\"matter.controller_init\"," ++
  "\"payload\":\x7b\"node_id\":\"1\",\"fabric_id\":1,\"listen_port\":5540\x7d\x7d"

def controllerInitRoot : Json :=
  .object
    [(CStr.lit "type", .string (CStr.lit "command")),
     (CStr.lit "request_id", .string (CStr.lit "r1")),
     (CStr.lit "action", .string (CStr.lit "matter.controller_init")),
     (CStr.lit "payload", .object
       [(CStr.lit "node_id", .string (CStr.lit "1")),
        (CStr.lit "fabric_id", .number 1),
        (CStr.lit "listen_port", .number 5540)])]

/-- A running server with one WebSocket client. -/
def oneClient : Board := { Board.erased with running := true, sessions := [(1, true)] }

/-- The client that initializes the controller gets the event and the snapshot of
its command besides the reply. -/
theorem controllerInit_reaches_sender :
    let run := (handleJsonInboundMessage Config.full
      (Platform.parsing controllerInitText controllerInitRoot) (CStr.lit controllerInitText)
      1).run (World.calm oneClient)
    run.1 = .ok ⟨⟩ ∧ (run.2.board.outbox.filter fun frame => frame.1 = 1).length = 3 := by
  decide +kernel

theorem controllerInit_has_one_reply :
    ∃ reply sending broadcasts, RepliedOnce Config.full
      (Platform.parsing controllerInitText controllerInitRoot) (CStr.lit controllerInitText) 1
      (World.calm oneClient) reply sending broadcasts :=
  message_has_one_reply _ _ _ _ _ (Platform.errorNames_parsing _ _) rfl

end Orchestrator.Messages
