import Orchestrator.Messages.Answers

/-!
# The text of a reply

The result of a command becomes a `command_result`, and the results of most calls of cJSON
are not looked at. This module says which outcomes a reply needs to be sent, and to have
its `ok` and its payload.
-/

namespace Orchestrator.Messages

open Lib Handler Server Commands Alloc

variable {cfg : Config} {p : Platform}

/-! ## The reply -/

/-- The text of an object that is sent. -/
def textOf (object : Alloc (Option Json)) : Alloc (EspResult Json) := do
  match ← object with
  | none => return .error EspErr.noMem
  | some root =>
      match ← cJSONPrintUnformatted root with
      | none => return .error EspErr.espFail
      | some text => return .ok text

/-- The reply to a command, if it gets that far. -/
def commandReply (cfg : Config) (p : Platform) (envelope : Envelope) : Esp Json := do
  let result ← (processCommandMessage cfg p envelope.action envelope.payload :
    Handler CommandExecutionResult)
  ExceptT.mk (allocate (textOf (commandResultObject p envelope.requestId envelope.action result)))

theorem cJSONPrintUnformatted_eq (root : Json) (outcomes : Stream' Bool) :
    cJSONPrintUnformatted root outcomes =
      (if outcomes.head then some root else none, outcomes.tail) := by
  have hbind : cJSONPrintUnformatted root outcomes =
      (if outcomes.head then return some root else return none : Alloc (Option Json))
        outcomes.tail := rfl
  rw [hbind]
  cases outcomes.head <;> rfl

theorem textOf_run (object : Alloc (Option Json)) (outcomes : Stream' Bool) :
    textOf object outcomes = match object outcomes with
      | (none, rest) => (.error EspErr.noMem, rest)
      | (some root, rest) =>
          (if rest.head then .ok root else .error EspErr.espFail, rest.tail) := by
  unfold textOf
  rw [run_bind]
  obtain ⟨root, rest⟩ := object outcomes
  cases root with
  | none => rfl
  | some root =>
      dsimp only
      rw [run_bind, cJSONPrintUnformatted_eq]
      cases rest.head <;> rfl

theorem allocate_apply {α : Type} (m : Alloc α) (w : World) :
    allocate m w = ((m w.allocs).1, { w with allocs := (m w.allocs).2 }) := rfl

theorem sendBuilt_eq (object : Alloc (Option Json)) (clientFd : Int) :
    sendBuilt object clientFd =
      (ExceptT.mk (allocate (textOf object)) : Esp Json) >>=
        websocketSendMessageToClient clientFd := by
  apply ExceptT.ext
  funext w
  unfold sendBuilt
  rw [Esp.run_liftM_bind (allocate_apply object w), ExceptT.run_bind, ExceptT.run_mk,
    Handler.bind_apply, allocate_apply, textOf_run]
  obtain ⟨root, rest⟩ := object w.allocs
  cases root with
  | none => rfl
  | some root =>
      dsimp only
      unfold sendJsonToClient
      rw [Esp.run_liftM_bind (allocate_apply (cJSONPrintUnformatted root) _),
        cJSONPrintUnformatted_eq]
      dsimp only
      cases rest.head <;> rfl

/-- A command is executed, and its reply is what is handed to the server. -/
theorem handleJsonInboundMessage_eq (inboundMessage : CStr) (clientFd : Int) :
    handleJsonInboundMessage cfg p inboundMessage clientFd = (do
      match checkEnvelope (← (allocate (cJSONParse p inboundMessage) : Handler (Option Json))) with
      | .error error => sendProtocolError clientFd error.code error.message
      | .ok envelope => commandReply cfg p envelope >>= websocketSendMessageToClient clientFd) := by
  unfold handleJsonInboundMessage
  refine bind_congr fun request => ?_
  cases checkEnvelope request with
  | error error => rfl
  | ok envelope =>
      unfold commandReply sendCommandResult
      dsimp only
      rw [bind_assoc]
      exact bind_congr fun result => sendBuilt_eq _ clientFd

/-! ## What a reply shows -/

section Shape

variable {requestId action : CStr} {ok : Bool} {result : CommandExecutionResult}
  {outcomes later : Stream' Bool}

/-- The reply with these members after those of every `command_result`. -/
def replyTree (requestId action : CStr) (ok : Bool) (outcomes : Stream' Bool)
    (members : List (CStr × Json)) : Json :=
  .object (kept (resultHeader requestId action ok) outcomes ++ members)

/-- A member of the header is in the reply if it was added. -/
theorem member_replyTree {members : List (CStr × Json)} {name : String} {item : Json} {i : Nat}
    (hget : (resultHeader requestId action ok)[i]? = some (CStr.lit name, item))
    (hmembers : ∀ m ∈ members, m.1 ≠ CStr.lit name) :
    member (some (replyTree requestId action ok outcomes members)) name =
      if outcomes.get i then some item else none := by
  have hkeys : ((resultHeader requestId action ok).map Prod.fst).Nodup := by
    show ([CStr.lit "type", CStr.lit "request_id", CStr.lit "action", CStr.lit "ok"]).Nodup
    decide
  have hnone : members.find? (fun m => m.1 = CStr.lit name) = none := by
    rw [List.find?_eq_none]
    exact fun m hm heq => hmembers m hm (of_decide_eq_true heq)
  have hfind := find?_kept hkeys hget outcomes
  unfold member replyTree
  rw [Option.bind_some, Json.getObjectItemCaseSensitive, List.find?_append, hnone, Option.or_none,
    hfind]
  split <;> rfl

/-- A member that is not in the header is in the reply if it was added. -/
theorem member_replyTree_last {name : String} {item : Json}
    (hname : ∀ m ∈ resultHeader requestId action ok, m.1 ≠ CStr.lit name) :
    member (some (replyTree requestId action ok outcomes
        (kept [(CStr.lit name, item)] later))) name =
      if later.head then some item else none := by
  have hnone : (kept (resultHeader requestId action ok) outcomes).find?
      (fun m => m.1 = CStr.lit name) = none := by
    rw [List.find?_eq_none]
    exact fun m hm heq => hname m ((kept_sublist _ _).subset hm) (of_decide_eq_true heq)
  unfold member replyTree
  rw [Option.bind_some, Json.getObjectItemCaseSensitive, List.find?_append, hnone, Option.none_or,
    kept, kept]
  cases later.head <;> simp

/-- The last member is added to the header. -/
theorem addLast_run (name : CStr) (item : Json) :
    (addFields (.object (kept (resultHeader requestId action ok) outcomes)) [(name, item)] >>=
      fun root => pure (some root) : Alloc (Option Json)) later =
      (some (replyTree requestId action ok outcomes (kept [(name, item)] later)), later.tail) := by
  rw [run_bind, addFields_run]
  rfl

/-- The payload is added to the header. -/
theorem commandResultObject_payload {out : Json} (herr : result.err = .ok ⟨⟩)
    (hpayload : result.payload = some out) (outcomes : Stream' Bool) :
    commandResultObject p requestId action result outcomes =
      if outcomes.head then
        (some (replyTree requestId action true outcomes.tail
          (kept [(CStr.lit "payload", out)] (outcomes.drop 5))), outcomes.drop 6)
      else (none, outcomes.tail) := by
  rw [commandResultObject, run_bind, cJSONCreateObject_run, herr, hpayload]
  cases outcomes.head with
  | false => rfl
  | true =>
      simp only [if_true, run_bind, addFields_run]
      exact addLast_run (CStr.lit "payload") out

/-- An empty payload is made when there is none. -/
theorem commandResultObject_bare (herr : result.err = .ok ⟨⟩) (hpayload : result.payload = none)
    (outcomes : Stream' Bool) :
    commandResultObject p requestId action result outcomes =
      if outcomes.head then
        if outcomes.get 5 then
          (some (replyTree requestId action true outcomes.tail
            (kept [(CStr.lit "payload", .object [])] (outcomes.drop 6))), outcomes.drop 7)
        else (none, outcomes.drop 6)
      else (none, outcomes.tail) := by
  rw [commandResultObject, run_bind, cJSONCreateObject_run, herr, hpayload]
  cases outcomes.head with
  | false => rfl
  | true =>
      have hcreate := cJSONCreateObject_run (outcomes.drop 5)
      have hget : (outcomes.drop 5).head = outcomes.get 5 := rfl
      rw [hget] at hcreate
      simp only [if_true, run_bind, addFields_run, State.payloadOrEmpty]
      show (match (cJSONCreateObject (outcomes.drop 5)).1 with
        | none => pure none
        | some payload => _ : Alloc (Option Json)) (cJSONCreateObject (outcomes.drop 5)).2 = _
      rw [hcreate]
      cases outcomes.get 5 with
      | false => rfl
      | true => exact addLast_run (CStr.lit "payload") (.object [])

/-- An error is made for a command that failed. -/
theorem commandResultObject_error {err : EspErr} (herr : result.err = .error err)
    (outcomes : Stream' Bool) :
    commandResultObject p requestId action result outcomes =
      if outcomes.head then
        if outcomes.get 5 then
          (some (replyTree requestId action false outcomes.tail
            (kept [(CStr.lit "error",
              .object (kept (resultError p err result) (outcomes.drop 6)))] (outcomes.drop 8))),
            outcomes.drop 9)
        else (none, outcomes.drop 6)
      else (none, outcomes.tail) := by
  rw [commandResultObject, run_bind, cJSONCreateObject_run, herr]
  cases outcomes.head with
  | false => rfl
  | true =>
      have hcreate := createObject_run (resultError p err result) (outcomes.drop 5)
      have hget : (outcomes.drop 5).head = outcomes.get 5 := rfl
      rw [hget] at hcreate
      simp only [if_true, run_bind, addFields_run]
      show (match (createObject (resultError p err result) (outcomes.drop 5)).1 with
        | none => pure none
        | some error => _ : Alloc (Option Json))
          (createObject (resultError p err result) (outcomes.drop 5)).2 = _
      rw [hcreate]
      cases outcomes.get 5 with
      | false => rfl
      | true => exact addLast_run (CStr.lit "error") _

/-- A `command_result` with `ok:true`. -/
def IsSuccess (reply : Json) : Prop :=
  messageType reply = some (CStr.lit "command_result") ∧
    member (some reply) "ok" = some (.bool true)

theorem ne_of_mem_kept {name : String} {item : Json} {m : CStr × Json} {other : String}
    (hm : m ∈ kept [(CStr.lit name, item)] later) (hne : CStr.lit name ≠ CStr.lit other) :
    m.1 ≠ CStr.lit other := by
  have hmem := (kept_sublist _ _).subset hm
  rw [List.mem_singleton] at hmem
  rw [hmem]
  exact hne

/-- `ok` is in the reply if it was added. -/
theorem member_replyTree_ok {name : String} {item : Json}
    (hname : CStr.lit name ≠ CStr.lit "ok") :
    member (some (replyTree requestId action ok outcomes
        (kept [(CStr.lit name, item)] later))) "ok" =
      if outcomes.get 3 then some (.bool ok) else none :=
  member_replyTree rfl fun _ hm => ne_of_mem_kept hm hname

/-- What a reply with `ok:true` shows. -/
theorem replyTree_success (requestId action : CStr) (outcomes later : Stream' Bool) (out : Json) :
    let reply := replyTree requestId action true outcomes (kept [(CStr.lit "payload", out)] later)
    (IsSuccess reply ↔ outcomes.get 0 = true ∧ outcomes.get 3 = true) ∧
      member (some reply) "payload" = (if later.head then some out else none) ∧
      member (some reply) "ok" ≠ some (.bool false) := by
  intro reply
  have htype : member (some reply) "type" = if outcomes.get 0 then
      some (.string (CStr.lit "command_result")) else none :=
    member_replyTree rfl fun m hm => ne_of_mem_kept hm (by decide)
  have hok : member (some reply) "ok" = if outcomes.get 3 then some (.bool true) else none :=
    member_replyTree_ok (by decide)
  have hnames : ∀ m ∈ resultHeader requestId action true, m.1 ≠ CStr.lit "payload" := by
    intro m hm
    have hmem : m.1 ∈ (resultHeader requestId action true).map Prod.fst := List.mem_map_of_mem hm
    have hall : ∀ name ∈ [CStr.lit "type", CStr.lit "request_id", CStr.lit "action",
        CStr.lit "ok"], name ≠ CStr.lit "payload" := by decide
    exact hall m.1 hmem
  refine ⟨?_, member_replyTree_last hnames, ?_⟩
  · unfold IsSuccess messageType
    rw [htype, hok]
    cases outcomes.get 0 <;> cases outcomes.get 3 <;> simp [Json.string?]
  · rw [hok]
    split <;> simp

/-- What a reply to a command that failed shows. -/
theorem replyTree_failure (requestId action : CStr) (outcomes later : Stream' Bool)
    (error : Json) :
    let reply := replyTree requestId action false outcomes (kept [(CStr.lit "error", error)] later)
    ¬IsSuccess reply ∧
      (member (some reply) "ok" = some (.bool false) ↔ outcomes.get 3 = true) := by
  intro reply
  have hok : member (some reply) "ok" = if outcomes.get 3 then some (.bool false) else none :=
    member_replyTree_ok (by decide)
  unfold IsSuccess
  rw [hok]
  cases outcomes.get 3 <;> simp

end Shape

/-! ## What a reply says -/

/-- The command is answered, and this is the `ok` of its reply. -/
def Says (cfg : Config) (p : Platform) (envelope : Envelope) (w : World) (ok : Bool) : Prop :=
  ∃ reply, ((commandReply cfg p envelope).run w).1 = .ok reply ∧
    member (some reply) "ok" = some (.bool ok)

/-- What it takes for a reply without a payload to say `ok:true`: the object, `ok`, the empty
payload and the text are made. -/
structure BareReplyMade (outcomes : Stream' Bool) : Prop where
  object : outcomes.get 0 = true
  ok : outcomes.get 4 = true
  payload : outcomes.get 5 = true
  text : outcomes.get 7 = true

/-- What it takes for a reply with a payload to say `ok:true`. -/
structure PayloadReplyMade (outcomes : Stream' Bool) : Prop where
  object : outcomes.get 0 = true
  ok : outcomes.get 4 = true
  text : outcomes.get 6 = true

/-- What it takes for a reply to say `ok:false`: the error is an object with two members. -/
structure ErrorReplyMade (outcomes : Stream' Bool) : Prop where
  object : outcomes.get 0 = true
  ok : outcomes.get 4 = true
  error : outcomes.get 5 = true
  text : outcomes.get 9 = true

section Says

variable {envelope : Envelope} {w w' : World} {result : CommandExecutionResult} {ok : Bool}

theorem commandReply_eq
    (hrun : processCommandMessage cfg p envelope.action envelope.payload w = (result, w')) :
    (commandReply cfg p envelope).run w =
      ((textOf (commandResultObject p envelope.requestId envelope.action result) w'.allocs).1,
        { w' with allocs :=
          (textOf (commandResultObject p envelope.requestId envelope.action result)
            w'.allocs).2 }) := by
  unfold commandReply
  rw [Esp.run_liftM_bind hrun]
  rfl

/-- A text that was made has the `ok` that was added to it. -/
theorem exists_ok_iff {tree : Json} {told added : Bool}
    (hok : member (some tree) "ok" = if added then some (.bool told) else none) (made : Bool)
    (err : EspErr) :
    (∃ reply, (if made then .ok tree else .error err : EspResult Json) = .ok reply ∧
      member (some reply) "ok" = some (.bool ok)) ↔
      ok = told ∧ added = true ∧ made = true := by
  constructor
  · rintro ⟨reply, hreply, hmember⟩
    cases made with
    | false => cases hreply
    | true =>
        obtain rfl := Except.ok.inj hreply
        rw [hok] at hmember
        cases added with
        | false => cases hmember
        | true =>
            obtain ⟨⟩ := hmember
            exact ⟨rfl, rfl, rfl⟩
  · rintro ⟨rfl, rfl, rfl⟩
    exact ⟨tree, rfl, hok⟩

theorem not_exists_ok (err : EspErr) :
    ¬∃ reply, (.error err : EspResult Json) = .ok reply ∧
      member (some reply) "ok" = some (.bool ok) := by
  rintro ⟨reply, ⟨⟩, -⟩

/-- The reply to a command that failed. -/
theorem says_of_error {err : EspErr}
    (hrun : processCommandMessage cfg p envelope.action envelope.payload w = (result, w'))
    (herr : result.err = .error err) :
    Says cfg p envelope w ok ↔ ok = false ∧ ErrorReplyMade w'.allocs := by
  unfold Says
  rw [commandReply_eq hrun, textOf_run, commandResultObject_error herr]
  cases hobject : w'.allocs.head with
  | false => exact iff_of_false (not_exists_ok _) fun h => nomatch hobject.symm.trans h.2.object
  | true =>
      cases herror : w'.allocs.get 5 with
      | false => exact iff_of_false (not_exists_ok _) fun h => nomatch herror.symm.trans h.2.error
      | true =>
          dsimp only [if_true]
          refine (exists_ok_iff (member_replyTree_ok (by decide)) _ _).trans ?_
          exact and_congr_right fun _ =>
            ⟨fun h => ⟨hobject, h.1, herror, h.2⟩, fun h => ⟨h.ok, h.text⟩⟩

/-- The reply to a command that succeeds without a payload. -/
theorem says_of_bare
    (hrun : processCommandMessage cfg p envelope.action envelope.payload w = (result, w'))
    (herr : result.err = .ok ⟨⟩) (hpayload : result.payload = none) :
    Says cfg p envelope w ok ↔ ok = true ∧ BareReplyMade w'.allocs := by
  unfold Says
  rw [commandReply_eq hrun, textOf_run, commandResultObject_bare herr hpayload]
  cases hobject : w'.allocs.head with
  | false => exact iff_of_false (not_exists_ok _) fun h => nomatch hobject.symm.trans h.2.object
  | true =>
      cases hempty : w'.allocs.get 5 with
      | false =>
          exact iff_of_false (not_exists_ok _) fun h => nomatch hempty.symm.trans h.2.payload
      | true =>
          dsimp only [if_true]
          refine (exists_ok_iff (member_replyTree_ok (by decide)) _ _).trans ?_
          exact and_congr_right fun _ =>
            ⟨fun h => ⟨hobject, h.1, hempty, h.2⟩, fun h => ⟨h.ok, h.text⟩⟩

/-- The reply to a command that succeeds with a payload. -/
theorem says_of_payload {out : Json}
    (hrun : processCommandMessage cfg p envelope.action envelope.payload w = (result, w'))
    (herr : result.err = .ok ⟨⟩) (hpayload : result.payload = some out) :
    Says cfg p envelope w ok ↔ ok = true ∧ PayloadReplyMade w'.allocs := by
  unfold Says
  rw [commandReply_eq hrun, textOf_run, commandResultObject_payload herr hpayload]
  cases hobject : w'.allocs.head with
  | false => exact iff_of_false (not_exists_ok _) fun h => nomatch hobject.symm.trans h.2.object
  | true =>
      dsimp only [if_true]
      refine (exists_ok_iff (member_replyTree_ok (by decide)) _ _).trans ?_
      exact and_congr_right fun _ => ⟨fun h => ⟨hobject, h.1, h.2⟩, fun h => ⟨h.ok, h.text⟩⟩

/-- A payload is in the reply if it was added. -/
theorem payload_of_reply {out reply : Json}
    (hrun : processCommandMessage cfg p envelope.action envelope.payload w = (result, w'))
    (herr : result.err = .ok ⟨⟩) (hpayload : result.payload = some out)
    (hreply : ((commandReply cfg p envelope).run w).1 = .ok reply) :
    member (some reply) "payload" = if w'.allocs.get 5 then some out else none := by
  rw [commandReply_eq hrun, textOf_run, commandResultObject_payload herr hpayload] at hreply
  cases hobject : w'.allocs.head with
  | false =>
      rw [hobject] at hreply
      cases hreply
  | true =>
      have hprinted : (w'.allocs.drop 6).head = w'.allocs.get 6 := rfl
      rw [hobject] at hreply
      simp only [if_true, hprinted] at hreply
      cases htext : w'.allocs.get 6 with
      | false =>
          rw [htext] at hreply
          cases hreply
      | true =>
          rw [htext] at hreply
          obtain rfl := Except.ok.inj hreply
          exact (replyTree_success _ _ _ _ out).2.1

/-- A reply that says `ok:true` is that of a command that succeeded. -/
theorem ok_of_accepted
    (hrun : processCommandMessage cfg p envelope.action envelope.payload w = (result, w'))
    (h : Says cfg p envelope w true) : result.err = .ok ⟨⟩ := by
  cases herr : result.err with
  | ok _ => rfl
  | error err => exact absurd ((says_of_error hrun herr).mp h).1 (by decide)

/-- A reply that says `ok:false` is that of a command that failed. -/
theorem error_of_refused
    (hrun : processCommandMessage cfg p envelope.action envelope.payload w = (result, w'))
    (h : Says cfg p envelope w false) : result.err ≠ .ok ⟨⟩ := by
  intro herr
  cases hpayload : result.payload with
  | none => exact absurd ((says_of_bare hrun herr hpayload).mp h).1 (by decide)
  | some out => exact absurd ((says_of_payload hrun herr hpayload).mp h).1 (by decide)

/-- The `ok` of a message that has one. -/
def okOf (message : Json) : Option Bool :=
  match member (some message) "ok" with
  | some (.bool ok) => some ok
  | _ => none

theorem says_of_okOf (h : ((commandReply cfg p envelope).run w).1.map okOf = .ok (some ok)) :
    Says cfg p envelope w ok := by
  cases hreply : ((commandReply cfg p envelope).run w).1 with
  | error err =>
      rw [hreply] at h
      cases h
  | ok reply =>
      rw [hreply] at h
      have hsome : okOf reply = some ok := Except.ok.inj h
      refine ⟨reply, hreply, ?_⟩
      unfold okOf at hsome
      split at hsome
      · next heq => rw [heq, Option.some.inj hsome]
      · cases hsome

/-- The reply changes nothing on the board. -/
theorem board_commandReply (cfg : Config) (p : Platform) (envelope : Envelope) (w : World) :
    ((commandReply cfg p envelope).run w).2.board =
      (processCommandMessage cfg p envelope.action envelope.payload w).2.board := by
  obtain ⟨result, w', hrun⟩ : ∃ result w',
      processCommandMessage cfg p envelope.action envelope.payload w = (result, w') := ⟨_, _, rfl⟩
  rw [commandReply_eq hrun, hrun]

end Says

end Orchestrator.Messages
