import Orchestrator.Server.Send

/-!
# Snapshots and events on their way to the clients
-/

namespace Orchestrator.State

open Lib Alloc Handler Server

/-- `orchestrator_state_to_json` -/
def orchestratorStateToJson : Handler (Option Json) := do
  allocate (snapshotToJson (← getBoard).state)

/-- The text of a `state_snapshot`, built from the copied state. -/
def snapshotMessage (snapshot : OrchestratorState) : Alloc (Option Json) := do
  match ← cJSONCreateObject, ← snapshotToJson snapshot with
  | some root, some payload =>
      let root ← addFields root
        [(CStr.lit "type", .string (CStr.lit "state_snapshot")), (CStr.lit "payload", payload)]
      cJSONPrintUnformatted root
  | _, _ => return none

/-- `orchestrator_state_broadcast_snapshot` -/
def orchestratorStateBroadcastSnapshot : Esp Unit := do
  let board ← getBoard
  if board.running = false then return
  else
    match ← (allocate (snapshotMessage board.state) : Handler (Option Json)) with
    | none => throw EspErr.espFail
    | some json => websocketBroadcastMessage json

/-- `orchestrator_state_send_snapshot_to_client` -/
def orchestratorStateSendSnapshotToClient (fd : Int) : Esp Unit := do
  let board ← getBoard
  match ← (allocate (snapshotMessage board.state) : Handler (Option Json)) with
  | none => throw EspErr.espFail
  | some json => websocketSendMessageToClient fd json

/-- The payload of an event, for which an empty object stands in. -/
def payloadOrEmpty : Option Json → Alloc (Option Json)
  | some payload => return some payload
  | none => cJSONCreateObject

/-- The text of an `event`. -/
def eventMessage (event : CStr) (payload : Option Json) : Alloc (EspResult Json) := do
  match ← cJSONCreateObject with
  | none => return .error EspErr.noMem
  | some root =>
      let root ← addFields root
        [(CStr.lit "type", .string (CStr.lit "event")), (CStr.lit "event", .string event)]
      match ← payloadOrEmpty payload with
      | none => return .error EspErr.noMem
      | some payload =>
          let root ← addFields root [(CStr.lit "payload", payload)]
          match ← cJSONPrintUnformatted root with
          | none => return .error EspErr.espFail
          | some json => return .ok json

/-- `orchestrator_state_broadcast_event` -/
def orchestratorStateBroadcastEvent (event : CStr) (payload : Option Json) : Esp Unit := do
  let board ← getBoard
  if board.running = false then return
  else
    let json ← (ExceptT.mk (allocate (eventMessage event payload)) : Esp Json)
    websocketBroadcastMessage json

/-! ## The messages -/

/-- The snapshot message of a state. -/
def snapshotTree (s : OrchestratorState) : Json :=
  .object [(CStr.lit "type", .string (CStr.lit "state_snapshot")), (CStr.lit "payload", s.toJson)]

/-- The event message with an empty payload. -/
def eventTree (event : CStr) : Json :=
  .object [(CStr.lit "type", .string (CStr.lit "event")), (CStr.lit "event", .string event),
    (CStr.lit "payload", .object [])]

theorem snapshotMessage_yields (s : OrchestratorState) :
    (snapshotMessage s).Yields (some (snapshotTree s)) := by
  apply Keeps.bind cJSONCreateObject_yields
  rintro _ rfl
  apply Keeps.bind (snapshotToJson_yields s)
  rintro _ rfl
  apply Keeps.bind (addFields_yields _ _)
  rintro _ rfl
  exact cJSONPrintUnformatted_yields _

theorem eventMessage_yields (event : CStr) :
    (eventMessage event none).Yields (.ok (eventTree event)) := by
  apply Keeps.bind cJSONCreateObject_yields
  rintro _ rfl
  apply Keeps.bind (addFields_yields _ _)
  rintro _ rfl
  apply Keeps.bind cJSONCreateObject_yields
  rintro _ rfl
  apply Keeps.bind (addFields_yields _ _)
  rintro _ rfl
  apply Keeps.bind (cJSONPrintUnformatted_yields _)
  rintro _ rfl
  exact Keeps.pure rfl

theorem snapshotMessage_built {P : CStr → Prop} (ht : Texts P) {s : OrchestratorState}
    (hs : s.Strings P) : (snapshotMessage s).Always fun json => ∀ j ∈ json, Built P j := by
  intro A hA
  apply Keeps.bind (cJSONCreateObject_built A hA)
  intro root hroot
  apply Keeps.bind (snapshotToJson_built ht hs A hA)
  intro payload hpayload
  cases root with
  | none =>
      apply Keeps.pure
      rintro j ⟨⟩
  | some root =>
      cases payload with
      | none =>
          apply Keeps.pure
          rintro j ⟨⟩
      | some payload =>
          apply Keeps.bind (addFields_built (hroot root rfl)
            (.cons (ht.lit _) (.string (ht.lit _)) <|
              .cons (ht.lit _) (hpayload payload rfl).strings .nil) A hA)
          exact fun root hroot => cJSONPrintUnformatted_always hroot A hA

theorem payloadOrEmpty_built {P : CStr → Prop} {payload : Option Json}
    (h : ∀ p ∈ payload, Built P p) :
    (payloadOrEmpty payload).Always fun out => ∀ o ∈ out, Built P o := by
  cases payload with
  | none => exact cJSONCreateObject_built
  | some payload => exact fun A _ => Keeps.pure h

theorem eventMessage_built {P : CStr → Prop} (ht : Texts P) {event : CStr} (hevent : P event)
    {payload : Option Json} (hpayload : ∀ p ∈ payload, Built P p) :
    (eventMessage event payload).Always fun json => ∀ j, json = .ok j → Built P j := by
  intro A hA
  apply Keeps.bind (cJSONCreateObject_built A hA)
  rintro (- | root) hroot
  · apply Keeps.pure
    rintro j ⟨⟩
  · apply Keeps.bind (addFields_built (hroot root rfl)
      (.cons (ht.lit _) (.string (ht.lit _)) <| .cons (ht.lit _) (.string hevent) .nil) A hA)
    intro root hroot
    apply Keeps.bind (payloadOrEmpty_built hpayload A hA)
    rintro (- | payload) hpayload
    · apply Keeps.pure
      rintro j ⟨⟩
    · apply Keeps.bind (addFields_built hroot
        (.cons (ht.lit _) (hpayload payload rfl).strings .nil) A hA)
      intro root hroot
      apply Keeps.bind (cJSONPrintUnformatted_always hroot A hA)
      rintro (- | json) hjson
      · apply Keeps.pure
        rintro j ⟨⟩
      · apply Keeps.pure
        rintro j ⟨⟩
        exact hjson json rfl

/-! ## Rules -/

variable {I : World → Prop} {B : Board → Prop} {M : Json → Prop}

theorem orchestratorStateBroadcastSnapshot_keeps (hI : Unforeseen I)
    (hB : ∀ w, I w → B w.board)
    (hmessage : ∀ b, B b → Keeps I (allocate (snapshotMessage b.state)) fun json =>
      ∀ j ∈ json, M j)
    (hqueue : ∀ j, M j → ∀ fd w, I w → I { w with board := queueWork fd j w.board }) :
    Esp.Keeps I orchestratorStateBroadcastSnapshot fun _ => True := by
  apply Esp.Keeps.bind (Esp.Keeps.lift (getBoard_keeps hB))
  intro board hboard
  split
  · exact Esp.Keeps.pure trivial
  · apply Esp.Keeps.bind (Esp.Keeps.lift (hmessage board hboard))
    rintro (- | json) hjson
    · exact Esp.Keeps.throw
    · exact websocketBroadcastMessage_keeps hI (hqueue json (hjson json rfl))

theorem orchestratorStateBroadcastEvent_keeps {event : CStr} {payload : Option Json}
    (hI : Unforeseen I)
    (hmessage : Keeps I (allocate (eventMessage event payload)) fun json =>
      ∀ j, json = .ok j → M j)
    (hqueue : ∀ j, M j → ∀ fd w, I w → I { w with board := queueWork fd j w.board }) :
    Esp.Keeps I (orchestratorStateBroadcastEvent event payload) fun _ => True := by
  apply Esp.Keeps.bind (Esp.Keeps.lift (getBoard_keeps (Q := fun _ => True) fun _ _ => trivial))
  rintro board -
  split
  · exact Esp.Keeps.pure trivial
  · apply Esp.Keeps.bind (Q := M) hmessage
    exact fun json hjson => websocketBroadcastMessage_keeps hI (hqueue json hjson)

end Orchestrator.State
