import Orchestrator.Messages.Addition
import Orchestrator.Messages.Identifiers
import Orchestrator.Messages.ReplyText

/-!
# What a refused change of a device leaves behind

A change of a device that is refused should have changed nothing. Renaming and removing
end with the write, so that they keep to it. Adding a capability builds its reply after
the write.
-/

namespace Orchestrator.Messages

open Lib Handler Registry

variable {cfg : Config} {p : Platform} {envelope : Envelope} {payload : Json} {w w' : World}

/-- The commands that change a device. -/
inductive DeviceChange
  | capabilityAdd
  | rename
  | remove
  deriving DecidableEq, Repr

def DeviceChange.entry : DeviceChange → String × CommandHandler
  | capabilityAdd => ("device.capability.add", addCapabilityCommand)
  | rename => ("device.rename", deviceRename)
  | remove => ("device.remove", deviceRemove)

theorem DeviceChange.mem_branches (change : DeviceChange) : change.entry ∈ branches cfg p := by
  apply mem_branches_of_device
  cases change with
  | capabilityAdd | rename | remove => simp [entry, deviceBranches]

/-- A message that asks for the change. -/
def DeviceChange.request (change : DeviceChange) (requestId : CStr) (payload : Json) :
    Envelope where
  requestId := requestId
  action := CStr.lit change.entry.1
  payload := payload

/-- The persisted registry is what it was, and no event says that it has changed. -/
structure Unaffected (b b' : Board) : Prop where
  stored : b'.registry.stored.join = b.registry.stored.join
  changes : registryChanges b' = registryChanges b

/-- If the reply says `ok:false`, the command has changed nothing. -/
def RefusedUnaffected (cfg : Config) (p : Platform) (envelope : Envelope) (w : World) : Prop :=
  Says cfg p envelope w false →
    Unaffected w.board ((commandReply cfg p envelope).run w).2.board

/-- The addition is written and noticed, but the object of its payload cannot be made. The reply
that says so can be. -/
structure Addition.LosesReply (payload : Json) (w : World) (a : Addition) : Prop where
  written : a.Written payload w
  noObject : (allocsAfterSave w.board w.allocs).head = false
  answered : ErrorReplyMade (allocsAfterSave w.board w.allocs).tail
  noticed : w.board.registry.stored.join ≠ some (registryStoreLayout.encode a.after) ∨
    TellsSomeone (a.writtenWorld w)

theorem unaffected_of_undisturbed {b b' : Board} (h : Undisturbed b b') : Unaffected b b' :=
  ⟨h.stored, by rw [registryChanges, h.outbox, registryChanges]⟩

/-- A command keeps to it when all its failures change nothing. -/
theorem refusedUnaffected_of_run {result : CommandExecutionResult}
    (hrun : processCommandMessage cfg p envelope.action envelope.payload w = (result, w'))
    (h : result.err ≠ .ok ⟨⟩ → Unaffected w.board w'.board) :
    RefusedUnaffected cfg p envelope w := by
  intro hrefused
  rw [board_commandReply, hrun]
  exact h (error_of_refused hrun hrefused)

/-! ## Commands that end with the write -/

theorem report_update_unaffected (target : RegistryStore → EspResult RegistryStore) (w : World)
    (hrefused : (report (update target) w).1.err ≠ .ok ⟨⟩) :
    Unaffected w.board (report (update target) w).2.board := by
  have hreport : report (update target) w = (commandResult ((update target).run w).1 none none,
      ((update target).run w).2) := rfl
  rw [hreport] at hrefused ⊢
  obtain ⟨s, t, -, w', hrun, -⟩ | ⟨-, e, w', hrun, hsame⟩ := update_cases target w
  · rw [hrun] at hrefused
    exact absurd rfl hrefused
  · rw [hrun]
    exact unaffected_of_undisturbed hsame

theorem deviceRename_unaffected (payload : Json) (w : World)
    (hrefused : (deviceRename payload w).1.err ≠ .ok ⟨⟩) :
    Unaffected w.board (deviceRename payload w).2.board := by
  unfold deviceRename at hrefused ⊢
  cases hdevice : requiredStringField payload "device_id" with
  | none => exact ⟨rfl, rfl⟩
  | some deviceId =>
      cases hlabel : requiredStringField payload "label" with
      | none => exact ⟨rfl, rfl⟩
      | some label =>
          rw [hdevice, hlabel] at hrefused
          dsimp only at hrefused ⊢
          rw [deviceRegistryRenameDevice_eq] at hrefused ⊢
          exact report_update_unaffected _ w hrefused

theorem deviceRemove_unaffected (payload : Json) (w : World)
    (hrefused : (deviceRemove payload w).1.err ≠ .ok ⟨⟩) :
    Unaffected w.board (deviceRemove payload w).2.board := by
  unfold deviceRemove at hrefused ⊢
  cases hdevice : requiredStringField payload "device_id" with
  | none => exact ⟨rfl, rfl⟩
  | some deviceId =>
      rw [hdevice] at hrefused
      dsimp only at hrefused ⊢
      rw [deviceRegistryRemoveDevice_eq] at hrefused ⊢
      exact report_update_unaffected _ w hrefused

/-! ## The addition of a capability -/

/-- What an addition that has been written affects. -/
theorem unaffected_iff_of_written {a : Addition} (h : Announces (a.writtenWorld w) w') :
    Unaffected w.board w'.board ↔
      w.board.registry.stored.join = some (registryStoreLayout.encode a.after) ∧
        ¬TellsSomeone (a.writtenWorld w) := by
  have hstored : w'.board.registry.stored.join = some (registryStoreLayout.encode a.after) :=
    congrArg (fun n : RegistryNvs => n.stored.join) h.registry
  rw [← h.told, ← hstored]
  exact ⟨fun hkept => ⟨hkept.stored.symm, hkept.changes⟩, fun hkept => ⟨hkept.1.symm, hkept.2⟩⟩

/-- The reply to an addition that has been written says `ok:false` when the object of its payload
cannot be made. -/
theorem says_false_iff_of_written {fields : List (CStr × Json)} {message : String}
    (hrun : processCommandMessage cfg p envelope.action envelope.payload w =
      reply (createObject fields) message w') :
    Says cfg p envelope w false ↔ w'.allocs.head = false ∧ ErrorReplyMade w'.allocs.tail := by
  have hreply : reply (createObject fields) message w' =
      (built (createObject fields w'.allocs).1 message,
        { w' with allocs := (createObject fields w'.allocs).2 }) := rfl
  rw [hreply, createObject_run] at hrun
  cases hobject : w'.allocs.head with
  | true =>
      rw [hobject, if_pos rfl] at hrun
      rw [says_of_payload hrun rfl rfl]
      exact iff_of_false (fun h => absurd h.1 (by decide)) fun h => absurd h.1 (by decide)
  | false =>
      rw [hobject, if_neg Bool.false_ne_true] at hrun
      rw [says_of_error hrun rfl]

theorem addCapability_unaffected_iff
    (hcommand : ∀ w, processCommandMessage cfg p envelope.action envelope.payload w =
      addCapabilityCommand payload w) (w : World) :
    RefusedUnaffected cfg p envelope w ↔ ¬∃ a : Addition, a.LosesReply payload w := by
  obtain ⟨a, ha, w', hannounces, hrun⟩ | ⟨hfails, -, hsame⟩ :=
    addCapabilityCommand_cases payload w
  swap
  · refine iff_of_true (refusedUnaffected_of_run (hcommand w) fun _ =>
      unaffected_of_undisturbed hsame) ?_
    rintro ⟨a, ha⟩
    exact hfails ⟨a, ha.written⟩
  have hcommand' := (hcommand w).trans hrun
  have hboard : ((commandReply cfg p envelope).run w).2.board = w'.board := by
    rw [board_commandReply, hcommand']
    rfl
  have hallocs : w'.allocs = allocsAfterSave w.board w.allocs := hannounces.allocs
  unfold RefusedUnaffected
  rw [hboard, says_false_iff_of_written hcommand', hallocs, unaffected_iff_of_written hannounces]
  constructor
  · rintro h ⟨a', ha'⟩
    obtain rfl := ha.unique ha'.written
    obtain ⟨hstored, hquiet⟩ := h ⟨ha'.noObject, ha'.answered⟩
    rcases ha'.noticed with hchanged | htold
    · exact hchanged hstored
    · exact hquiet htold
  · rintro h ⟨hnone, hanswered⟩
    by_contra hnot
    rw [not_and_or, not_not] at hnot
    exact h ⟨a, ha, hnone, hanswered, hnot⟩

/-! ## The three commands -/

/-- A change of a device that is answered with `ok:false` has changed nothing, except for an
addition that loses its reply. -/
theorem refused_unaffected_iff (cfg : Config) (p : Platform) (change : DeviceChange)
    (requestId : CStr) (payload : Json) (w : World) :
    RefusedUnaffected cfg p (change.request requestId payload) w ↔
      (change = .capabilityAdd → ¬∃ a : Addition, a.LosesReply payload w) := by
  have hcommand (w : World) : processCommandMessage cfg p (change.request requestId payload).action
      (change.request requestId payload).payload w = change.entry.2 payload w := by
    unfold DeviceChange.request
    rw [processCommandMessage_of_mem change.mem_branches]
  cases change with
  | capabilityAdd =>
      refine (addCapability_unaffected_iff hcommand w).trans ?_
      exact ⟨fun h _ => h, fun h => h rfl⟩
  | rename =>
      exact iff_of_true
        (refusedUnaffected_of_run (hcommand w) (deviceRename_unaffected payload w)) nofun
  | remove =>
      exact iff_of_true
        (refusedUnaffected_of_run (hcommand w) (deviceRemove_unaffected payload w)) nofun

/-- A relay for a device of the registry. -/
def heaterPayload : Json :=
  .object
    [(CStr.lit "device_id", .string (CStr.lit "node-1")),
     (CStr.lit "capability_id", .string (CStr.lit "heater")),
     (CStr.lit "semantic_type", .string (CStr.lit "relay")),
     (CStr.lit "endpoint_id", .number 1),
     (CStr.lit "cluster_id", .number 6)]

/-- The message of a client that adds it. -/
def heaterText : String :=
  "\x7b\"type\":\"command\",\"request_id\":\"r1\",\"action\":\"device.capability.add\"," ++
  "\"payload\":\x7b\"device_id\":\"node-1\",\"capability_id\":\"heater\"," ++
  "\"semantic_type\":\"relay\",\"endpoint_id\":1,\"cluster_id\":6\x7d\x7d"

def heaterRoot : Json :=
  .object
    [(CStr.lit "type", .string (CStr.lit "command")),
     (CStr.lit "request_id", .string (CStr.lit "r1")),
     (CStr.lit "action", .string (CStr.lit "device.capability.add")),
     (CStr.lit "payload", heaterPayload)]

/-- A client is connected to a device with one node. -/
def heatedRoom : Board :=
  { withDevice (CStr.lit "node-1") with running := true, sessions := [(1, true)] }

/-- Of all calls of cJSON only the one fails that creates the payload of the reply. -/
def objectFails : World := { World.calm heatedRoom with allocs := fun i => i != 29 }

/-- The client gets the event, the snapshot and a reply that says `ok:false`, and the relay is
stored. -/
theorem refused_affected_objectFails :
    let run := (handleJsonInboundMessage Config.full (Platform.parsing heaterText heaterRoot)
      (CStr.lit heaterText) 1).run objectFails
    (run.2.board.outbox.map fun frame => (frame.1, okOf frame.2)) =
        [(1, none), (1, none), (1, some false)] ∧
      ¬Unaffected objectFails.board run.2.board ∧
      ¬RefusedUnaffected Config.full (Platform.parsing heaterText heaterRoot)
        (DeviceChange.capabilityAdd.request (CStr.lit "r1") heaterPayload)
        { objectFails with allocs := objectFails.allocs.tail } := by
  refine ⟨by decide +kernel, fun h => ?_, fun h => ?_⟩
  · have hstored := h.stored
    revert hstored
    decide +kernel
  · have hanswered : Says Config.full (Platform.parsing heaterText heaterRoot)
        (DeviceChange.capabilityAdd.request (CStr.lit "r1") heaterPayload)
        { objectFails with allocs := objectFails.allocs.tail } false :=
      says_of_okOf (by decide +kernel)
    have hstored := (h hanswered).stored
    revert hstored
    decide +kernel

end Orchestrator.Messages
