import Orchestrator.Messages.Divisible
import Orchestrator.Messages.ReplyText

/-!
# Replies that are not what they say

A reply with `ok:true` may have an incomplete payload, since the results of most
cJSON calls are not looked at. This module says which failures it takes.
-/

namespace Orchestrator.Messages

open Lib Handler Server Commands Alloc

variable {cfg : Config} {p : Platform}

/-! ## Whole replies -/

/-- The first tree has everything that the second one has. -/
inductive Holds : Json → Json → Prop
  | refl (j : Json) : Holds j j
  | extraMember {ms ns : List (CStr × Json)} (m : CStr × Json)
      (h : Holds (.object ms) (.object ns)) : Holds (.object (m :: ms)) (.object ns)
  | member {ms ns : List (CStr × Json)} {a b : Json} (name : CStr) (hitem : Holds a b)
      (h : Holds (.object ms) (.object ns)) :
      Holds (.object ((name, a) :: ms)) (.object ((name, b) :: ns))
  | extraItem {xs ys : List Json} (item : Json) (h : Holds (.array xs) (.array ys)) :
      Holds (.array (item :: xs)) (.array ys)
  | item {xs ys : List Json} {a b : Json} (hitem : Holds a b)
      (h : Holds (.array xs) (.array ys)) : Holds (.array (a :: xs)) (.array (b :: ys))

theorem Holds.sizeOf_le {a b : Json} (h : Holds a b) : sizeOf b ≤ sizeOf a := by
  induction h with
  | refl j => exact Nat.le_refl _
  | extraMember m h ih =>
      simp only [Json.object.sizeOf_spec, List.cons.sizeOf_spec] at ih ⊢
      omega
  | member name hitem h ihitem ih =>
      simp only [Json.object.sizeOf_spec, List.cons.sizeOf_spec, Prod.mk.sizeOf_spec] at ih ⊢
      omega
  | extraItem item h ih =>
      simp only [Json.array.sizeOf_spec, List.cons.sizeOf_spec] at ih ⊢
      omega
  | item hitem h ihitem ih =>
      simp only [Json.array.sizeOf_spec, List.cons.sizeOf_spec] at ih ⊢
      omega

theorem holds_iff_of_fits {whole : Prop} {a full : Json} (h : Fits whole a full) :
    Holds a full ↔ whole := by
  constructor
  · intro hholds
    by_contra hwhole
    have hle := hholds.sizeOf_le
    have hlt := h.lt hwhole
    omega
  · intro hwhole
    rw [h.eq hwhole]
    exact .refl full

/-- A successful reply with everything that is in the payload of the other one. -/
def Whole (reply full : Json) : Prop :=
  IsSuccess reply ∧ ∃ payload complete, member (some reply) "payload" = some payload ∧
    member (some full) "payload" = some complete ∧ Holds payload complete

/-- A reply to the command is one with `ok:false`, or a successful one with everything that
is in the payload when no allocation fails. -/
def ReplyWhole (cfg : Config) (p : Platform) (envelope : Envelope) (w : World) : Prop :=
  ∀ reply, ((commandReply cfg p envelope).run w).1 = .ok reply →
    (∃ full, ((commandReply cfg p envelope).run (w.withAllocs allSucceed)).1 = .ok full ∧
      Whole reply full) ∨
    member (some reply) "ok" = some (.bool false)

/-! ## The calls of a reply -/

/-- The calls for a payload: the object, the type, the ids, `ok`, the payload, the text. -/
def payloadReplyCalls : List Call :=
  [.checked, .unchecked, .idle, .idle, .unchecked, .unchecked, .checked]

/-- Without a payload there is one call more, which makes an empty object. -/
def bareReplyCalls : List Call :=
  [.checked, .unchecked, .idle, .idle, .unchecked, .checked, .unchecked, .checked]

/-- Of the members of a reply to a command that failed only `ok` matters. -/
def errorReplyCalls : List Call :=
  [.checked, .idle, .idle, .idle, .unchecked, .checked, .idle, .idle, .idle, .checked]

namespace Ending

/-- With these outcomes a reply is sent that is not what it says. -/
def Hollows : Ending → Stream' Bool → Prop
  | .result r _, outcomes => match r.err with
      | .ok _ => Call.Hollowed bareReplyCalls outcomes
      | .error _ => Call.Hollowed errorReplyCalls outcomes
  | .building payload _, outcomes => match Call.stopped payload.calls outcomes with
      | some rest => Call.Hollowed errorReplyCalls rest
      | none => Call.Hollowed (payload.calls ++ payloadReplyCalls) outcomes

/-- The text of the reply. -/
def text (p : Platform) (requestId action : CStr) : Ending → Alloc (EspResult Json)
  | .result r _ => textOf (commandResultObject p requestId action r)
  | .building payload message => do
      let out ← payload.build
      textOf (commandResultObject p requestId action (built out message))

end Ending

theorem commandReply_run {envelope : Envelope} {prepare : Handler Ending}
    (h : Prepares prepare (processCommandMessage cfg p envelope.action envelope.payload))
    (w : World) :
    ((commandReply cfg p envelope).run w).1 =
      ((prepare w).1.text p envelope.requestId envelope.action (prepare w).2.allocs).1 := by
  have hrun : processCommandMessage cfg p envelope.action envelope.payload w =
      (prepare w).1.finish (prepare w).2 := by
    rw [h.run]
    rfl
  generalize prepare w = prepared at hrun ⊢
  obtain ⟨ending, rest⟩ := prepared
  cases ending with
  | result r hr => rw [commandReply_eq hrun, Ending.text]
  | building payload message =>
      rw [commandReply_eq hrun]
      rfl

section Verdict

variable {requestId action : CStr} {outcomes later : Stream' Bool}

theorem stopped_payloadReplyCalls : Call.stopped payloadReplyCalls outcomes = none ↔
    outcomes.head = true ∧ outcomes.get 6 = true := by
  rw [Call.stopped_eq_none]
  simp [payloadReplyCalls, Call.Passed]

theorem passed_payloadReplyCalls : Call.Passed .unchecked payloadReplyCalls outcomes ↔
    outcomes.get 1 = true ∧ outcomes.get 4 = true ∧ outcomes.get 5 = true := by
  simp [payloadReplyCalls, Call.Passed]

theorem stopped_bareReplyCalls : Call.stopped bareReplyCalls outcomes = none ↔
    outcomes.head = true ∧ outcomes.get 5 = true ∧ outcomes.get 7 = true := by
  rw [Call.stopped_eq_none]
  simp [bareReplyCalls, Call.Passed]

theorem passed_bareReplyCalls : Call.Passed .unchecked bareReplyCalls outcomes ↔
    outcomes.get 1 = true ∧ outcomes.get 4 = true ∧ outcomes.get 6 = true := by
  simp [bareReplyCalls, Call.Passed]

theorem stopped_errorReplyCalls : Call.stopped errorReplyCalls outcomes = none ↔
    outcomes.head = true ∧ outcomes.get 5 = true ∧ outcomes.get 9 = true := by
  rw [Call.stopped_eq_none]
  simp [errorReplyCalls, Call.Passed]

theorem passed_errorReplyCalls : Call.Passed .unchecked errorReplyCalls outcomes ↔
    outcomes.get 4 = true := by
  simp [errorReplyCalls, Call.Passed]

/-- The texts of the reply that are allowed, when this is the one without failures. -/
def TextWhole (text supplied : EspResult Json) : Prop :=
  ∀ reply, text = .ok reply →
    (∃ full, supplied = .ok full ∧ Whole reply full) ∨
    member (some reply) "ok" = some (.bool false)

theorem textWhole_error (err : EspErr) (supplied : EspResult Json) :
    TextWhole (.error err) supplied :=
  fun _ h => nomatch h

theorem textWhole_success {out tree : Json} {full : Json}
    (hfull : member (some full) "payload" = some tree) :
    TextWhole
        (.ok (replyTree requestId action true outcomes (kept [(CStr.lit "payload", out)] later)))
        (.ok full) ↔
      outcomes.get 0 = true ∧ outcomes.get 3 = true ∧ later.head = true ∧ Holds out tree := by
  obtain ⟨hsuccess, hpayload, hok⟩ :=
    replyTree_success requestId action outcomes later out
  constructor
  · intro h
    rcases h _ rfl with ⟨full', hfull', hwhole⟩ | hfalse
    · obtain rfl := Except.ok.inj hfull'
      obtain ⟨hmark, payload, complete, hin, hcomplete, hholds⟩ := hwhole
      obtain ⟨htype, hok'⟩ := hsuccess.mp hmark
      rw [hpayload] at hin
      obtain rfl := Option.some.inj (hfull.symm.trans hcomplete)
      cases hhead : later.head with
      | false =>
          rw [hhead] at hin
          cases hin
      | true =>
          rw [hhead] at hin
          obtain rfl := Option.some.inj hin
          exact ⟨htype, hok', rfl, hholds⟩
    · exact absurd hfalse hok
  · intro h reply hreply
    obtain ⟨htype, hok', hhead, hholds⟩ := h
    obtain rfl := Except.ok.inj hreply
    refine .inl ⟨full, rfl, hsuccess.mpr ⟨htype, hok'⟩, out, tree, ?_, hfull, hholds⟩
    rw [hpayload, hhead]
    rfl

theorem textWhole_failure {error : Json} {supplied : EspResult Json} :
    TextWhole
        (.ok (replyTree requestId action false outcomes (kept [(CStr.lit "error", error)] later)))
        supplied ↔ outcomes.get 3 = true := by
  obtain ⟨hsuccess, hok⟩ :=
    replyTree_failure requestId action outcomes later error
  constructor
  · intro h
    rcases h _ rfl with ⟨full, -, hwhole⟩ | hfalse
    · exact absurd hwhole.1 hsuccess
    · exact hok.mp hfalse
  · intro h reply hreply
    obtain rfl := Except.ok.inj hreply
    exact .inr (hok.mpr h)

/-- A reply to a command that failed. -/
theorem textWhole_of_error {result : CommandExecutionResult} {err : EspErr}
    (herr : result.err = .error err) (supplied : EspResult Json) :
    TextWhole (textOf (commandResultObject p requestId action result) outcomes).1 supplied ↔
      ¬Call.Hollowed errorReplyCalls outcomes := by
  unfold Call.Hollowed
  rw [stopped_errorReplyCalls, passed_errorReplyCalls, textOf_run, commandResultObject_error herr]
  have hprinted : (outcomes.drop 9).head = outcomes.get 9 := rfl
  have hok : outcomes.tail.get 3 = outcomes.get 4 := rfl
  cases outcomes.head with
  | false => simpa using textWhole_error _ _
  | true =>
      cases outcomes.get 5 with
      | false => simpa using textWhole_error _ _
      | true =>
          simp only [if_true, hprinted]
          cases outcomes.get 9 with
          | false => simpa using textWhole_error _ _
          | true => simp [textWhole_failure, hok]

/-- A successful reply with a payload. -/
theorem textWhole_of_payload {result : CommandExecutionResult} {out tree full : Json}
    (herr : result.err = .ok ⟨⟩) (hpayload : result.payload = some out)
    (hfull : member (some full) "payload" = some tree) :
    TextWhole (textOf (commandResultObject p requestId action result) outcomes).1 (.ok full) ↔
      ¬(Call.stopped payloadReplyCalls outcomes = none ∧
        ¬(Holds out tree ∧ Call.Passed .unchecked payloadReplyCalls outcomes)) := by
  rw [stopped_payloadReplyCalls, passed_payloadReplyCalls, textOf_run,
    commandResultObject_payload herr hpayload]
  have hprinted : (outcomes.drop 6).head = outcomes.get 6 := rfl
  have htype : outcomes.tail.get 0 = outcomes.get 1 := rfl
  have hok : outcomes.tail.get 3 = outcomes.get 4 := rfl
  have hadded : (outcomes.drop 5).head = outcomes.get 5 := rfl
  cases outcomes.head with
  | false => simpa using textWhole_error _ _
  | true =>
      simp only [if_true, hprinted]
      cases outcomes.get 6 with
      | false => simpa using textWhole_error _ _
      | true =>
          simp only [if_true, textWhole_success hfull, htype, hok, hadded]
          tauto

/-- A successful reply without a payload. -/
theorem textWhole_of_bare {result : CommandExecutionResult} {full : Json}
    (herr : result.err = .ok ⟨⟩) (hpayload : result.payload = none)
    (hfull : member (some full) "payload" = some (.object [])) :
    TextWhole (textOf (commandResultObject p requestId action result) outcomes).1 (.ok full) ↔
      ¬Call.Hollowed bareReplyCalls outcomes := by
  unfold Call.Hollowed
  rw [stopped_bareReplyCalls, passed_bareReplyCalls, textOf_run,
    commandResultObject_bare herr hpayload]
  have hprinted : (outcomes.drop 7).head = outcomes.get 7 := rfl
  have htype : outcomes.tail.get 0 = outcomes.get 1 := rfl
  have hok : outcomes.tail.get 3 = outcomes.get 4 := rfl
  have hadded : (outcomes.drop 6).head = outcomes.get 6 := rfl
  have hholds : Holds (.object []) (.object []) := .refl _
  cases outcomes.head with
  | false => simpa using textWhole_error _ _
  | true =>
      cases outcomes.get 5 with
      | false => simpa using textWhole_error _ _
      | true =>
          simp only [if_true, hprinted]
          cases outcomes.get 7 with
          | false => simpa using textWhole_error _ _
          | true =>
              simp only [if_true, textWhole_success hfull, htype, hok, hadded]
              tauto

/-- Without failures the reply has all its members. -/
theorem member_replyTree_supplied (out : Json) :
    member (some (replyTree requestId action true allSucceed
      (kept [(CStr.lit "payload", out)] allSucceed))) "payload" = some out := by
  obtain ⟨-, hpayload, -⟩ :=
    replyTree_success requestId action allSucceed allSucceed out
  exact hpayload

/-- Without failures the payload is built whole. -/
theorem build_supplied (payload : Payload) :
    payload.build allSucceed = (some payload.tree, allSucceed) := by
  have hrun := payload.build_makes allSucceed
  have hstop : Call.stopped payload.calls allSucceed = none := Call.stopped_const _
  have hrest : allSucceed.drop payload.calls.length = allSucceed := Stream'.drop_const _ _
  rw [hstop] at hrun
  obtain ⟨full, hfull, hfits⟩ := hrun
  rw [hrest, hfits.eq ⟨trivial, Call.passed_const _ _⟩] at hfull
  exact hfull

theorem textWhole_building (payload : Payload) (message : String) :
    TextWhole ((Ending.building payload message).text p requestId action outcomes).1
        ((Ending.building payload message).text p requestId action allSucceed).1 ↔
      ¬(Ending.building payload message).Hollows outcomes := by
  have hsupplied : ((Ending.building payload message).text p requestId action allSucceed).1 =
      .ok (replyTree requestId action true allSucceed
        (kept [(CStr.lit "payload", payload.tree)] allSucceed)) := by
    rw [Ending.text, run_bind, build_supplied, textOf_run, commandResultObject_payload rfl rfl]
    rfl
  have hrun := payload.build_makes outcomes
  rw [hsupplied, Ending.text, run_bind, Ending.Hollows]
  cases hstop : Call.stopped payload.calls outcomes with
  | some rest =>
      rw [hstop] at hrun
      dsimp only at hrun
      rw [hrun]
      exact textWhole_of_error rfl _
  | none =>
      rw [hstop] at hrun
      obtain ⟨out, hrun, hfits⟩ := hrun
      rw [hrun]
      dsimp only
      rw [textWhole_of_payload rfl rfl (member_replyTree_supplied _), holds_iff_of_fits hfits,
        Call.Hollowed, Call.stopped_append, Call.passed_append, hstop, Option.none_or,
        true_and]

/-- The replies that are allowed for an ending. -/
theorem textWhole_iff (ending : Ending) :
    TextWhole (ending.text p requestId action outcomes).1
        (ending.text p requestId action allSucceed).1 ↔ ¬ending.Hollows outcomes := by
  cases ending with
  | result r hr =>
      unfold Ending.text Ending.Hollows
      dsimp only
      cases herr : r.err with
      | error err => exact textWhole_of_error herr _
      | ok _ =>
          have hsupplied : (textOf (commandResultObject p requestId action r) allSucceed).1 =
              .ok (replyTree requestId action true allSucceed
                (kept [(CStr.lit "payload", .object [])] allSucceed)) := by
            rw [textOf_run, commandResultObject_bare herr hr]
            rfl
          rw [hsupplied]
          exact textWhole_of_bare herr hr (member_replyTree_supplied _)
  | building payload message => exact textWhole_building payload message

end Verdict

/-! ## All commands -/

theorem replyWhole_iff_of_prepares {envelope : Envelope} {prepare : Handler Ending}
    (h : Prepares prepare (processCommandMessage cfg p envelope.action envelope.payload))
    (w : World) :
    ReplyWhole cfg p envelope w ↔ ¬(prepare w).1.Hollows (prepare w).2.allocs := by
  have hsame : (prepare (w.withAllocs allSucceed)).1 = (prepare w).1 :=
    h.unaffected.result allSucceed w
  have hsupplied : (prepare (w.withAllocs allSucceed)).2.allocs = allSucceed :=
    World.withAllocs_eq_iff.mp (h.unaffected.keeps (w.withAllocs allSucceed) rfl)
  unfold ReplyWhole
  rw [commandReply_run h w, commandReply_run h (w.withAllocs allSucceed), hsame, hsupplied]
  exact textWhole_iff (prepare w).1

/-- Every command is divided into a preparation, which does not depend on the memory of
cJSON, and the building of its payload and its reply. However it is divided so, the reply is
what it says unless a call fails that nobody looks at, and none that is looked at. -/
theorem reply_whole_iff (cfg : Config) (p : Platform) (envelope : Envelope) :
    (∃ prepare, Prepares prepare
      (processCommandMessage cfg p envelope.action envelope.payload)) ∧
    ∀ prepare, Prepares prepare
        (processCommandMessage cfg p envelope.action envelope.payload) → ∀ w,
      ReplyWhole cfg p envelope w ↔ ¬(prepare w).1.Hollows (prepare w).2.allocs :=
  ⟨processCommandMessage_divisible cfg p envelope.action envelope.payload,
    fun _ h => replyWhole_iff_of_prepares h⟩

/-- A message that asks whether Thread is running. -/
def statusText : String :=
  "\x7b\"type\":\"command\",\"request_id\":\"r1\",\"action\":\"thread.status_get\"," ++
  "\"payload\":\x7b\x7d\x7d"

def statusEnvelope : Envelope where
  requestId := CStr.lit "r1"
  action := CStr.lit "thread.status_get"
  payload := .object []

def statusRoot : Json :=
  .object
    [(CStr.lit "type", .string (CStr.lit "command")),
     (CStr.lit "request_id", .string statusEnvelope.requestId),
     (CStr.lit "action", .string statusEnvelope.action),
     (CStr.lit "payload", statusEnvelope.payload)]

/-- A client of a border router on which Thread is running. -/
def attachedClient : Board := { Board.erased with
  running := true
  sessions := [(1, true)]
  openThread := { Board.erased.openThread with instanceExists := true, role := .leader } }

/-- The message is parsed and an object is made, but the next call fails. -/
def thirdCallFails : World :=
  (World.calm attachedClient).withAllocs (Stream'.cons true (Stream'.cons true
    (Stream'.cons false allSucceed)))

/-- The reply to this message, with and without the failure. -/
def statusReply (payload : List (CStr × Json)) : Json :=
  replyTree statusEnvelope.requestId statusEnvelope.action true allSucceed
    [(CStr.lit "payload", .object payload)]

/-- A reply with `ok:true` is sent, and its payload is empty. -/
theorem statusReply_hollow :
    ((handleJsonInboundMessage Config.full (Platform.parsing statusText statusRoot)
      (CStr.lit statusText) 1).run thirdCallFails).2.board.outbox = [(1, statusReply [])] ∧
    ((handleJsonInboundMessage Config.full (Platform.parsing statusText statusRoot)
      (CStr.lit statusText) 1).run (World.calm attachedClient)).2.board.outbox =
        [(1, statusReply [(CStr.lit "running", .bool true)])] ∧
    IsSuccess (statusReply []) ∧
    ¬ReplyWhole Config.full (Platform.parsing statusText statusRoot) statusEnvelope
      (thirdCallFails.withAllocs thirdCallFails.allocs.tail) := by
  refine ⟨rfl, rfl, ⟨rfl, rfl⟩, ?_⟩
  intro hwhole
  rcases hwhole (statusReply []) rfl with
    ⟨full, hfull, -, payload, complete, hin, hcomplete, hholds⟩ | hok
  · obtain rfl : statusReply [(CStr.lit "running", .bool true)] = full := Except.ok.inj hfull
    obtain rfl : Json.object [] = payload := Option.some.inj hin
    obtain rfl : Json.object [(CStr.lit "running", .bool true)] = complete :=
      Option.some.inj hcomplete
    cases hholds
  · cases hok

end Orchestrator.Messages
