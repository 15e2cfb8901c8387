import Mathlib.Data.List.Induction
import Orchestrator.Commands.Oblivious
import Orchestrator.Events.Rules

/-!
# The replies of a run

Besides the frames that go to all clients, and the snapshot for a new one, the device queues
replies only. They come in the order of the messages that they answer.
-/

namespace Orchestrator.System

open Lib Handler Server State Messages Commands Events

variable {E : Type} {f : Firmware E}

/-! ## Replies and messages -/

/-- What `send_protocol_error` and `send_command_result` send. -/
def IsReply (message : Json) : Prop :=
  messageType message = some (CStr.lit "error") ∨
    messageType message = some (CStr.lit "command_result")

instance : DecidablePred IsReply := fun _ => instDecidableOr

/-- The replies among the frames that have been queued. -/
def replies (outbox : List (Int × Json)) : List (Int × Json) :=
  outbox.filter fun frame => IsReply frame.2

/-- The world in which the message handler finds a frame that has been received. -/
def received (w : World) : World :=
  { w with
    heap := w.heap.tail
    httpd := w.httpd.tail.tail }

/-- From one world to the other the program makes its next `k` allocations and its next `j` calls
of the HTTP server. -/
def Made (w : World) (k j : Nat) (u : World) : Prop :=
  u.heap = w.heap.drop k ∧ u.httpd = w.httpd.drop j

/-- One of the allocations and calls of the HTTP server that are made from one world to the
other fails. -/
def CallFailed (w u : World) : Prop :=
  ∃ k j, Made w k j u ∧
    ((∃ i < k, w.heap.get i = false) ∨ ∃ i < j, w.httpd.get i ≠ none)

/-- No reply was sent: the server does not run, or one of these calls fails. -/
def Unsent (w u : World) : Prop := w.board.running = true → CallFailed w u

/-- Messages, and the replies that were queued meanwhile: each replies to one message, in the
order of the messages and to the client that sent it. A message to a running server goes
unanswered only where one of the calls that are made for it fails. -/
inductive Conversation (f : Firmware E) (w : World) : List (Input E) → List (Int × Json) → Prop
  | start : Conversation f w [] []
  | answer {inputs : List (Input E)} {rs : List (Int × Json)} {payload : List UInt8} {fd : Int}
      {reply : Json} (h : Conversation f w inputs rs) (hpayload : payload ≠ [])
      (hanswer : Answers f.config f.platform (received (f.run inputs w))
        (f.platform.cJSONParse (CStr.ofBytes payload)) reply) :
      Conversation f w (inputs ++ [.frame ⟨.text, payload⟩ fd]) (rs ++ [(fd, reply)])
  | silence {inputs : List (Input E)} {rs : List (Int × Json)} {input : Input E}
      (h : Conversation f w inputs rs)
      (hsilent : input.IsMessage → Unsent (f.run inputs w) (f.run (inputs ++ [input]) w)) :
      Conversation f w (inputs ++ [input]) rs

theorem replies_append (front back : List (Int × Json)) :
    replies (front ++ back) = replies front ++ replies back :=
  List.filter_append _ _

theorem replies_of_not_isReply {frames : List (Int × Json)}
    (h : ∀ frame ∈ frames, ¬IsReply frame.2) : replies frames = [] :=
  List.filter_eq_nil_iff.mpr fun frame hframe => by simpa using h frame hframe

theorem not_isReply_of_isBroadcast {message : Json} (h : IsBroadcast message) :
    ¬IsReply message := by
  intro hreply
  rcases h.messageType_eq with htype | htype <;> rcases hreply with hreply | hreply <;>
    exact absurd (htype.symm.trans hreply) (by decide)

theorem isReply_of_answers {cfg : Config} {p : Platform} {w : World} {root : Option Json}
    {reply : Json} (h : Answers cfg p w root reply) : IsReply reply :=
  h.messageType_eq

/-! ## The calls that are made -/

section Calls

variable {w u v : World} {k j : Nat}

theorem Made.trans {k' j' : Nat} (h : Made w k j u) (h' : Made u k' j' v) :
    Made w (k + k') (j + j') v :=
  ⟨by rw [h'.1, h.1, Stream'.drop_drop], by rw [h'.2, h.2, Stream'.drop_drop]⟩

/-- A call that fails later on has failed since. -/
theorem Made.callFailed (h : Made w k j u) (hfailed : CallFailed u v) : CallFailed w v := by
  obtain ⟨k', j', hmade, ⟨i, hi, hfails⟩ | ⟨i, hi, hfails⟩⟩ := hfailed
  · rw [h.1, Stream'.get_drop] at hfails
    exact ⟨_, _, h.trans hmade, .inl ⟨_, Nat.add_lt_add_left hi k, hfails⟩⟩
  · rw [h.2, Stream'.get_drop] at hfails
    exact ⟨_, _, h.trans hmade, .inr ⟨_, Nat.add_lt_add_left hi j, hfails⟩⟩

theorem CallFailed.not_sendsSucceed (h : CallFailed w u) : ¬SendsSucceed w := by
  intro hsends
  obtain ⟨k, j, -, ⟨i, -, hfails⟩ | ⟨i, -, hfails⟩⟩ := h
  · rw [hsends.heap] at hfails
    cases hfails
  · rw [hsends.httpd] at hfails
    exact hfails rfl

/-- Some calls have been made since, and the server runs or not as it did. -/
def Since (w u : World) : Prop :=
  (∃ k j, Made w k j u) ∧ u.board.running = w.board.running

theorem since_received (w : World) : Since w (received w) := ⟨⟨1, 2, rfl, rfl⟩, rfl⟩

theorem since_unforeseen (w : World) : UnforeseenNvs (Since w) where
  allocs _ h := h
  heap u h := by
    obtain ⟨⟨k, j, hmade⟩, hrunning⟩ := h
    have hcall : Made u 1 0 { u with heap := u.heap.tail } := ⟨rfl, rfl⟩
    exact ⟨⟨_, _, hmade.trans hcall⟩, hrunning⟩
  httpd u h := by
    obtain ⟨⟨k, j, hmade⟩, hrunning⟩ := h
    have hcall : Made u 0 1 { u with httpd := u.httpd.tail } := ⟨rfl, rfl⟩
    exact ⟨⟨_, _, hmade.trans hcall⟩, hrunning⟩
  stack _ h := h
  nvs _ _ h := h

theorem since_commandInvariant (w : World) (p : Platform) :
    CommandInvariant p (fun _ => True) (Since w) :=
  commandInvariant_of_running (since_unforeseen w)
    (fun _ _ hrunning h => ⟨h.1, hrunning.trans h.2⟩) p

/-- A send of a running server queues the frame, unless one of its calls fails. -/
theorem outbox_of_send (fd : Int) (message : Json) (hrunning : w.board.running = true) :
    CallFailed w ((websocketSendMessageToClient fd message).run w).2 ∨
      ((websocketSendMessageToClient fd message).run w).2.board.outbox =
        w.board.outbox ++ [(fd, message)] := by
  unfold websocketSendMessageToClient
  rw [Esp.run_liftM_bind (m := getBoard) (w := w) rfl, if_neg (by simp [hrunning]),
    Esp.run_liftM_bind (m := malloc) rfl]
  cases hfirst : w.heap.head with
  | false => exact .inl ⟨1, 0, ⟨rfl, rfl⟩, .inl ⟨0, Nat.one_pos, hfirst⟩⟩
  | true =>
      rw [if_neg (by decide), Esp.run_liftM_bind (m := malloc) rfl]
      cases hsecond : w.heap.tail.head with
      | false => exact .inl ⟨2, 0, ⟨rfl, rfl⟩, .inl ⟨1, Nat.one_lt_two, hsecond⟩⟩
      | true =>
          rw [if_neg (by decide), Esp.run_liftM_bind (m := httpdOutcome) rfl]
          cases hqueue : w.httpd.head with
          | some err =>
              refine .inl ⟨2, 1, ⟨rfl, rfl⟩, .inr ⟨0, Nat.one_pos, ?_⟩⟩
              show w.httpd.head ≠ none
              rw [hqueue]
              exact Option.some_ne_none err
          | none => exact .inr rfl

end Calls

/-! ## Inputs without a reply -/

/-- cJSON has memory, and these are the replies so far. -/
structure Replied (rs : List (Int × Json)) (w : World) : Prop where
  allocs : w.allocs = allSucceed
  replies : replies w.board.outbox = rs

variable {rs : List (Int × Json)}

theorem replied_unforeseen : UnforeseenNvs (Replied rs) where
  allocs _ h :=
    { h with allocs := (congrArg Stream'.tail h.allocs).trans (Stream'.tail_const true) }
  heap _ h := { h with }
  httpd _ h := { h with }
  stack _ h := { h with }
  nvs _ _ h := { h with }

theorem Replied.queueWork {message : Json} (hmessage : ¬IsReply message) (fd : Int) (w : World)
    (h : Replied rs w) : Replied rs { w with board := queueWork fd message w.board } := by
  refine { h with replies := ?_ }
  show System.replies (w.board.outbox ++ [(fd, message)]) = rs
  rw [replies_append, h.replies,
    replies_of_not_isReply fun frame hframe => List.mem_singleton.mp hframe ▸ hmessage,
    List.append_nil]

theorem replied_eventInvariant : EventInvariant (Replied rs) := by
  refine EventInvariant.of_messages (M := fun message => ¬IsReply message) replied_unforeseen
    (fun _ h => h.allocs) (fun _ hmessage => Replied.queueWork hmessage) ?_ ?_ ?_
    (fun _ _ h => { h with }) (fun _ _ h => { h with }) fun _ h => { h with }
  · rintro name payload (hreply | hreply)
    · exact absurd (hreply.symm.trans rfl : _ = some (CStr.lit "event")) (by decide)
    · exact absurd (hreply.symm.trans rfl : _ = some (CStr.lit "event")) (by decide)
  · exact fun s => not_isReply_of_isBroadcast (.snapshot s)
  · intro type htype action payload hreply
    have htypeOf : messageType (messageTree type action payload) = some (CStr.lit type) := rfl
    simp only [List.mem_cons, List.not_mem_nil, or_false] at htype
    rcases htype with rfl | rfl <;> rcases hreply with hreply | hreply <;>
      exact absurd (htypeOf.symm.trans hreply) (by decide)

theorem handle_replied {input : Input E} (h : ¬input.IsMessage) :
    Keeps (Replied rs) (f.handle input) fun _ => True :=
  handle_keeps replied_eventInvariant (fun _ _ _ hw => { hw with }) h

/-! ## Messages -/

variable {w : World} {payload : List UInt8} {fd : Int}

/-- The frame is received, or a call failed on the way. -/
theorem handle_message (fd : Int) (hpayload : payload ≠ []) :
    (∃ heap httpd, (f.handle (.frame ⟨.text, payload⟩ fd) w).2 =
        { w with
          heap := heap
          httpd := httpd } ∧ CallFailed w (f.handle (.frame ⟨.text, payload⟩ fd) w).2) ∨
      (f.handle (.frame ⟨.text, payload⟩ fd) w).2 =
        ((handleJsonInboundMessage f.config f.platform (CStr.ofBytes payload) fd).run
          (received w)).2 := by
  have hlength : payload.length > 0 := List.length_pos_iff.mpr hpayload
  show (∃ heap httpd, ((receiveAndHandleFrame f.handlers ⟨.text, payload⟩ fd).run w).2 = _ ∧
      CallFailed w ((receiveAndHandleFrame f.handlers ⟨.text, payload⟩ fd).run w).2) ∨
    ((receiveAndHandleFrame f.handlers ⟨.text, payload⟩ fd).run w).2 = _
  unfold receiveAndHandleFrame
  rw [Esp.run_liftM_bind (m := httpdOutcome) (w := w) rfl]
  cases hfirst : w.httpd.head with
  | some err =>
      refine .inl ⟨w.heap, w.httpd.tail, rfl, 0, 1, ⟨rfl, rfl⟩, .inr ⟨0, Nat.one_pos, ?_⟩⟩
      exact ne_of_eq_of_ne hfirst (Option.some_ne_none err)
  | none =>
      dsimp only
      rw [if_pos hlength, Esp.run_liftM_bind (m := malloc) rfl]
      cases hmalloc : w.heap.head with
      | false =>
          exact .inl ⟨w.heap.tail, w.httpd.tail, rfl, 1, 1, ⟨rfl, rfl⟩,
            .inl ⟨0, Nat.one_pos, hmalloc⟩⟩
      | true =>
          rw [if_neg (by decide), Esp.run_liftM_bind (m := httpdOutcome) rfl]
          cases hsecond : w.httpd.tail.head with
          | some err =>
              refine .inl ⟨w.heap.tail, w.httpd.tail.tail, rfl, 1, 2, ⟨rfl, rfl⟩,
                .inr ⟨1, Nat.one_lt_two, ?_⟩⟩
              exact ne_of_eq_of_ne hsecond (Option.some_ne_none err)
          | none =>
              rw [ofBytes_append_zero]
              exact .inr rfl

/-- What is sent after broadcasts is one more reply, or it is lost where a call fails. -/
theorem send_replied {sending : World} {reply : Json} (fd : Int) (hw : Replied rs w)
    (honly : OnlyBroadcasts w.board.outbox sending) (hreply : IsReply reply)
    (hsince : Since w sending) :
    (Replied rs ((websocketSendMessageToClient fd reply).run sending).2 ∧
        Unsent w ((websocketSendMessageToClient fd reply).run sending).2) ∨
      Replied (rs ++ [(fd, reply)]) ((websocketSendMessageToClient fd reply).run sending).2 := by
  obtain ⟨hallocs, broadcasts, houtbox, hall⟩ := honly
  obtain ⟨⟨k, j, hmade⟩, hrunning⟩ := hsince
  have hsupplied :
      ((websocketSendMessageToClient fd reply).run sending).2.allocs = allSucceed :=
    (websocketSendMessageToClient_keeps supplied_unforeseen (fun _ h => h) sending hallocs).1
  have hsending : replies sending.board.outbox = rs := by
    rw [houtbox, replies_append, replies_of_not_isReply fun frame hframe =>
      not_isReply_of_isBroadcast (hall frame hframe), List.append_nil]
    exact hw.replies
  rcases outbox_websocketSendMessageToClient sending fd reply with hnone | hone
  · refine .inl ⟨⟨hsupplied, by rw [hnone, hsending]⟩, fun hruns => hmade.callFailed ?_⟩
    refine (outbox_of_send fd reply (hrunning.trans hruns)).resolve_right fun hsent => ?_
    have hlength : (sending.board.outbox ++ [(fd, reply)]).length =
        sending.board.outbox.length := congrArg List.length (hsent.symm.trans hnone)
    simp at hlength
  · refine .inr ⟨hsupplied, ?_⟩
    have hone' : replies [(fd, reply)] = [(fd, reply)] :=
      List.filter_eq_self.mpr fun frame hframe => by
        rw [List.mem_singleton.mp hframe]
        exact decide_eq_true hreply
    rw [hone, replies_append, hsending, hone']

/-- A message has one reply, or none where one of its calls fails. -/
theorem handle_message_replied (fd : Int) (hnames : f.platform.ErrorNames) (hpayload : payload ≠ [])
    (hw : Replied rs w) :
    (Replied rs (f.handle (.frame ⟨.text, payload⟩ fd) w).2 ∧
        Unsent w (f.handle (.frame ⟨.text, payload⟩ fd) w).2) ∨
      ∃ reply, Answers f.config f.platform (received w)
          (f.platform.cJSONParse (CStr.ofBytes payload)) reply ∧
        Replied (rs ++ [(fd, reply)]) (f.handle (.frame ⟨.text, payload⟩ fd) w).2 := by
  rcases handle_message (f := f) (w := w) fd hpayload with ⟨heap, httpd, heq, hfails⟩ | heq
  · refine .inl ⟨?_, fun _ => hfails⟩
    rw [heq]
    exact { hw with }
  obtain ⟨reply, sending, hanswer, hrun, honly, -, hkept⟩ :=
    handleJsonInboundMessage_run (w := received w) f.config hnames (CStr.ofBytes payload) fd
      hw.allocs
  rw [heq, hrun]
  have hsince : Since w sending :=
    hkept _ (since_commandInvariant w f.platform) (since_received w)
  rcases send_replied fd hw honly (isReply_of_answers hanswer) hsince with hlost | hone
  · exact .inl hlost
  · exact .inr ⟨reply, hanswer, hone⟩

/-! ## Runs -/

theorem exists_frame_of_isMessage {input : Input E} (h : input.IsMessage) :
    ∃ payload fd, input = .frame ⟨.text, payload⟩ fd ∧ payload ≠ [] := by
  unfold Input.IsMessage at h
  split at h
  · exact ⟨_, _, rfl, h⟩
  · exact h.elim

theorem run_append (f : Firmware E) (inputs : List (Input E)) (input : Input E) (w : World) :
    f.run (inputs ++ [input]) w = (f.handle input (f.run inputs w)).2 := by
  simp [Firmware.run]

theorem exists_conversation (f : Firmware E) (hnames : f.platform.ErrorNames)
    (inputs : List (Input E)) (w : World) (hallocs : w.allocs = allSucceed) :
    ∃ rs, Conversation f w inputs rs ∧
      Replied (replies w.board.outbox ++ rs) (f.run inputs w) := by
  induction inputs using List.reverseRecOn with
  | nil => exact ⟨[], .start, hallocs, (List.append_nil _).symm⟩
  | append_singleton inputs input ih =>
      obtain ⟨rs, hconversation, hreplied⟩ := ih
      rw [run_append]
      by_cases hmessage : input.IsMessage
      · obtain ⟨payload, fd, rfl, hpayload⟩ := exists_frame_of_isMessage hmessage
        rcases handle_message_replied fd hnames hpayload hreplied with
          ⟨hreplied, hfails⟩ | ⟨reply, hanswer, hreplied⟩
        · refine ⟨rs, .silence hconversation fun _ hruns => ?_, hreplied⟩
          rw [run_append]
          exact hfails hruns
        · refine ⟨rs ++ [(fd, reply)], .answer hconversation hpayload hanswer, ?_⟩
          rwa [← List.append_assoc]
      · exact ⟨rs, .silence hconversation fun h => absurd h hmessage,
          (handle_replied hmessage _ hreplied).1⟩

/-- While cJSON has memory, what is queued in a run are replies to its messages, one for each, in
their order and to those who sent them. A running server leaves a message unanswered only where
a call that it makes for the message fails. -/
theorem run_is_conversation (f : Firmware E) (hnames : f.platform.ErrorNames)
    (inputs : List (Input E)) (w : World) (hallocs : w.allocs = allSucceed) :
    ∃ rs, Conversation f w inputs rs ∧
      replies (f.run inputs w).board.outbox = replies w.board.outbox ++ rs := by
  obtain ⟨rs, hconversation, hreplied⟩ := exists_conversation f hnames inputs w hallocs
  exact ⟨rs, hconversation, hreplied.replies⟩

/-- A build on which one text is a message. -/
def parsingFirmware (text : String) (root : Json) : Firmware (Datum ⊕ List Datum) where
  config := Config.full
  platform := Platform.parsing text root
  espIp4addrNtoa _ := CStr.lit "192.168.4.2"
  reader := datumReader

/-- Two clients send messages, and the access point reports a station in between. -/
def twoMessages : List (Input (Datum ⊕ List Datum)) :=
  [.frame ⟨.text, controllerInitText.toByteArray.data.toList⟩ 1,
   .event (.wifi .staConnected),
   .frame ⟨.text, [120]⟩ 2]

theorem run_is_conversation_twoMessages :
    ∃ rs, Conversation (parsingFirmware controllerInitText controllerInitRoot)
        (World.calm Messages.oneClient) twoMessages rs ∧
      replies ((parsingFirmware controllerInitText controllerInitRoot).run twoMessages
        (World.calm Messages.oneClient)).board.outbox = [] ++ rs :=
  run_is_conversation _ (Platform.errorNames_parsing _ _) twoMessages
    (World.calm Messages.oneClient) rfl

end Orchestrator.System
