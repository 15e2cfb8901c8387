import Orchestrator.Messages.Answers
import Orchestrator.Server.Lifecycle

/-!
# Text frames and their answers

`receive_and_handle_frame` hands the payload of a text frame to the message handler.
An empty payload becomes a null pointer, which `handle_json_inbound_message` refuses
before it has answered anything. Every other text frame is answered.
-/

namespace Orchestrator.Messages

open Lib Handler Registry Server State Commands

/-! ## The frame layer -/

/-- `handle_json_inbound_message` -/
def handleJsonInboundMessageOrNull (cfg : Config) (p : Platform) (inboundMessage : Option CStr)
    (clientFd : Int) : Esp Unit :=
  match inboundMessage with
  | none => throw EspErr.invalidArg
  | some text => handleJsonInboundMessage cfg p text clientFd

/-- The static variables `message_handler` and `client_event_handler`. -/
structure FrameHandlers where
  messageHandler : Option (Option CStr → Int → Esp Unit)
  clientEventHandler : Option (WsClientEvent → Int → Handler Unit)

/-- `httpd_ws_frame_t`, with the bytes that the client sent. -/
structure HttpdWsFrame where
  type : FrameType
  payload : List UInt8

/-- `process_frame`. The calls of the keep-alive component do not reach the world. -/
def processFrame (handlers : FrameHandlers) (type : FrameType) (payload : Option CStr)
    (fd : Int) : Handler Unit :=
  match type with
  | .text => do
      match handlers.messageHandler with
      | some messageHandler =>
          let _ ← (messageHandler payload fd).run
      | none => return
  | .ping => do
      -- the result of `send_pong_to_client` is not looked at
      let _ ← httpdOutcome
  | .pong => return
  | .close =>
      match handlers.clientEventHandler with
      | some clientEventHandler => clientEventHandler .disconnected fd
      | none => return
  | .other => return

/-- `receive_and_handle_frame` -/
def receiveAndHandleFrame (handlers : FrameHandlers) (frame : HttpdWsFrame) (fd : Int) :
    Esp Unit := do
  match ← (httpdOutcome : Handler (Option EspErr)) with
  | some err => throw err
  | none =>
      if frame.payload.length > 0 then
        if (← malloc) = false then throw EspErr.noMem
        else
          match ← (httpdOutcome : Handler (Option EspErr)) with
          | some err => throw err
          -- the buffer is zeroed and one byte longer than the payload
          | none =>
              processFrame handlers frame.type (some (CStr.ofBytes (frame.payload ++ [0]))) fd
      else processFrame handlers frame.type none fd

/-! ## Answers to text frames -/

/-- Besides broadcasts of a command, the frame with this payload had exactly one frame
queued, the answer to its text, and to its sender. -/
structure AnsweredOnce (cfg : Config) (p : Platform) (handlers : FrameHandlers)
    (payload : List UInt8) (fd : Int) (w : World) (reply : Json)
    (broadcasts : List (Int × Json)) : Prop where
  outbox : ((receiveAndHandleFrame handlers ⟨.text, payload⟩ fd).run w).2.board.outbox =
    w.board.outbox ++ broadcasts ++ [(fd, reply)]
  isBroadcast : ∀ frame ∈ broadcasts, IsBroadcast frame.2
  not_isBroadcast : ¬IsBroadcast reply
  answers : Answers cfg p w (p.cJSONParse (CStr.ofBytes payload)) reply
  protocolError : ∀ code, firstFailing (p.cJSONParse (CStr.ofBytes payload)) = some code →
    ∃ message, reply = errorTree (CStr.lit code) (CStr.lit message)

variable {cfg : Config} {p : Platform} {handlers : FrameHandlers} {payload : List UInt8}
  {fd : Int} {w : World}

/-- On the board, only whether the server runs matters to the predicate, and no command changes
that. -/
theorem commandInvariant_of_running {I : World → Prop} (hI : UnforeseenNvs I)
    (hboard : ∀ (w : World) (b : Board), b.running = w.board.running → I w →
      I { w with board := b }) (p : Platform) : CommandInvariant p (fun _ => True) I := by
  have hstore : StoreInvariant (StoredStrings fun _ => True) I := by
    apply StoreInvariant.of_flash (B := fun _ => True) hI
    · exact fun _ _ => RegistryNvs.all_true _
    · exact fun w _ h _ => hboard w _ rfl h
    · exact fun _ _ w h => hboard w _ rfl h
    · exact fun bytes _ => storedStrings_true (loadBlob_accepted bytes)
    · exact fun _ _ => trivial
    · exact storedStrings_true accepted_initEmptyStore
  exact
    { hstore with
      nvs := hI.nvs
      texts := texts_true
      role := fun _ => trivial
      openThread := fun _ _ => ⟨fun _ _ => trivial, fun _ _ => trivial, fun _ _ => trivial⟩
      state := fun _ _ => ⟨trivial, trivial⟩
      wifi := fun w _ h => hboard w _ rfl h
      request := fun _ w h => hboard w _ rfl h
      initialized := fun w h => hboard w _ rfl h }

theorem sendsSucceed_commandInvariant (p : Platform) :
    CommandInvariant p (fun _ => True) SendsSucceed :=
  commandInvariant_of_running sendsSucceed_unforeseen
    (fun _ _ hrunning h => { h with running := hrunning.trans h.running }) p

theorem receiveAndHandleFrame_empty
    (hhandler : handlers.messageHandler = some (handleJsonInboundMessageOrNull cfg p))
    (hsends : SendsSucceed w) :
    (receiveAndHandleFrame handlers ⟨.text, []⟩ fd).run w = (.ok ⟨⟩, w) := by
  unfold receiveAndHandleFrame
  rw [Esp.run_liftM_bind (httpdOutcome_succeeds hsends)]
  simp only [List.length_nil, gt_iff_lt, Nat.lt_irrefl, if_false, processFrame, hhandler]
  rfl

/-- The message handler runs on the text of the payload, and its result is dropped. -/
theorem receiveAndHandleFrame_text
    (hhandler : handlers.messageHandler = some (handleJsonInboundMessageOrNull cfg p))
    (hpayload : payload ≠ []) (hsends : SendsSucceed w) :
    (receiveAndHandleFrame handlers ⟨.text, payload⟩ fd).run w =
      (.ok ⟨⟩, ((handleJsonInboundMessage cfg p (CStr.ofBytes payload) fd).run w).2) := by
  have htext : CStr.ofBytes (payload ++ [0]) = CStr.ofBytes payload := by
    apply CStr.ext
    exact CStr.beforeNul_append_zero payload
  unfold receiveAndHandleFrame
  rw [Esp.run_liftM_bind (httpdOutcome_succeeds hsends)]
  simp only [List.length_pos_iff.mpr hpayload, if_true]
  rw [Esp.run_liftM_bind (malloc_succeeds hsends)]
  simp only [Bool.true_eq_false, if_false]
  rw [Esp.run_liftM_bind (httpdOutcome_succeeds hsends)]
  simp only [processFrame, hhandler, htext]
  rfl

theorem answeredOnce_of_text (hnames : p.ErrorNames)
    (hhandler : handlers.messageHandler = some (handleJsonInboundMessageOrNull cfg p))
    (hallocs : w.allocs = allSucceed) (hsends : SendsSucceed w) (hpayload : payload ≠ []) :
    ∃ reply broadcasts, AnsweredOnce cfg p handlers payload fd w reply broadcasts := by
  obtain ⟨reply, sending, hanswer, hrun, ⟨-, broadcasts, houtbox, hbroadcasts⟩, -, hkept⟩ :=
    handleJsonInboundMessage_run cfg hnames (CStr.ofBytes payload) fd hallocs
  have hsending : SendsSucceed sending := hkept _ (sendsSucceed_commandInvariant p) hsends
  refine ⟨reply, broadcasts, ?_, hbroadcasts, hanswer.not_isBroadcast, hanswer, ?_⟩
  · rw [receiveAndHandleFrame_text hhandler hpayload hsends, hrun,
      websocketSendMessageToClient_succeeds hsending]
    show sending.board.outbox ++ [(fd, reply)] = _
    rw [houtbox]
  · intro code hcode
    cases hanswer with
    | protocolError message h =>
        obtain rfl := Option.some.inj (h.symm.trans hcode)
        exact ⟨_, rfl⟩
    | success h | failure h => cases h.symm.trans hcode

/-- When nothing fails on the way, a text frame is answered exactly if its payload is not
empty. -/
theorem textFrame_answered_iff (cfg : Config) (p : Platform) (handlers : FrameHandlers)
    (payload : List UInt8) (fd : Int) (w : World) (hnames : p.ErrorNames)
    (hhandler : handlers.messageHandler = some (handleJsonInboundMessageOrNull cfg p))
    (hallocs : w.allocs = allSucceed) (hsends : SendsSucceed w) :
    (∃ reply broadcasts, AnsweredOnce cfg p handlers payload fd w reply broadcasts) ↔
      payload ≠ [] := by
  constructor
  · rintro ⟨reply, broadcasts, h⟩ rfl
    have houtbox := h.outbox
    rw [receiveAndHandleFrame_empty hhandler hsends, List.append_assoc] at houtbox
    simp at houtbox
  · exact answeredOnce_of_text hnames hhandler hallocs hsends

/-- The handlers that `wifi_event_handler` installs, where no client event matters. -/
def jsonHandlers (p : Platform) : FrameHandlers where
  messageHandler := some (handleJsonInboundMessageOrNull Config.full p)
  clientEventHandler := none

theorem textFrame_answered_garbage :
    ∃ reply broadcasts, AnsweredOnce Config.full (Platform.parsing "null" .null)
      (jsonHandlers (Platform.parsing "null" .null)) [120] 1 (World.calm oneClient) reply
      broadcasts := by
  refine (textFrame_answered_iff _ _ _ _ _ _ (Platform.errorNames_parsing _ _) rfl rfl ?_).mpr
    (List.cons_ne_nil _ _)
  exact ⟨rfl, rfl, rfl⟩

/-- Nothing is queued for an empty text frame. -/
theorem emptyFrame_not_answered :
    ¬∃ reply broadcasts, AnsweredOnce Config.full (Platform.parsing "null" .null)
      (jsonHandlers (Platform.parsing "null" .null)) [] 1 (World.calm oneClient) reply
      broadcasts := by
  rintro ⟨reply, broadcasts, h⟩
  have houtbox := h.outbox
  rw [receiveAndHandleFrame_empty rfl ⟨rfl, rfl, rfl⟩, List.append_assoc] at houtbox
  simp at houtbox

end Orchestrator.Messages
