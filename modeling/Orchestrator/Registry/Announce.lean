import Orchestrator.Registry.Store

/-!
# What a save tells the clients

A save that succeeds is followed by an event and a snapshot, whose results are ignored.
This module says which clients get the event, and which outcomes of allocations are
left for the calls that come after the two messages.
-/

namespace Orchestrator.Registry

open Lib Handler Server State Alloc

/-- A client takes the message for the event. -/
def isRegistryChanged (message : Json) : Bool :=
  match message.getObjectItemCaseSensitive (CStr.lit "event") with
  | some (.string event) => event = CStr.lit "device.registry_changed"
  | _ => false

/-- The frames with the event. -/
def registryChanges (b : Board) : List (Int × Json) :=
  b.outbox.filter fun frame => isRegistryChanged frame.2

/-- The text of the event. -/
def registryChangedMessage : Alloc (EspResult Json) :=
  eventMessage (CStr.lit "device.registry_changed") none

/-- The outcomes of allocations that are left after the event and the snapshot. -/
def allocsAfterSave (b : Board) (allocs : Stream' Bool) : Stream' Bool :=
  if b.running = false then allocs
  else (snapshotMessage b.state (registryChangedMessage allocs).2).2

/-- Some client gets the event. -/
def TellsSomeone (w : World) : Prop :=
  (∃ message, (registryChangedMessage w.allocs).1 = .ok message ∧
    isRegistryChanged message = true) ∧ broadcastTo w ≠ []

/-! ## Messages -/

theorem drop_of_tail {A : Stream' Bool → Prop} (hA : ∀ s, A s → A s.tail) (n : Nat)
    {s : Stream' Bool} (hs : A s) : A (s.drop n) := by
  induction n generalizing s with
  | zero => exact hs
  | succ n ih => exact ih (hA s hs)

/-- Fields that cannot be attached are left out, and the others keep their order. -/
theorem addFields_sublist (members fields : List (CStr × Json)) :
    (addFields (.object members) fields).Always fun out =>
      ∃ kept, kept.Sublist fields ∧ out = .object (members ++ kept) := by
  intro A hA s hs
  rw [addFields_run]
  exact ⟨drop_of_tail hA fields.length hs, kept fields s, kept_sublist fields s, rfl⟩

/-- No client takes a snapshot for the event. -/
theorem snapshotMessage_notRegistryChanged (s : OrchestratorState) :
    (snapshotMessage s).Always fun json => ∀ j ∈ json, isRegistryChanged j = false := by
  have hfields (payload : Json) {kept : List (CStr × Json)} (hkept : kept.Sublist
      [(CStr.lit "type", .string (CStr.lit "state_snapshot")), (CStr.lit "payload", payload)]) :
      isRegistryChanged (.object kept) = false := by
    have hname : ∀ m ∈ kept, m.1 ≠ CStr.lit "event" := by
      intro m hm
      have hmem := hkept.subset hm
      simp only [List.mem_cons, List.not_mem_nil, or_false] at hmem
      rcases hmem with rfl | rfl
      · exact (by decide : CStr.lit "type" ≠ CStr.lit "event")
      · exact (by decide : CStr.lit "payload" ≠ CStr.lit "event")
    have hnone : kept.find? (fun m => m.1 = CStr.lit "event") = none :=
      List.find?_eq_none.mpr fun m hm => by simpa using hname m hm
    unfold isRegistryChanged Json.getObjectItemCaseSensitive
    dsimp only
    rw [hnone]
    rfl
  intro A hA
  apply Keeps.bind (Q := fun out => ∀ o ∈ out, o = Json.object [])
  · apply Keeps.bind (next_always A hA)
    rintro ok -
    cases ok with
    | true => exact Keeps.pure fun o ho => (Option.mem_some.mp ho).symm
    | false => exact Keeps.pure nofun
  intro root hroot
  apply Keeps.bind (snapshotToJson_built (P := fun _ => True) texts_true ⟨trivial, trivial⟩ A hA)
  intro payload _
  cases root with
  | none => exact Keeps.pure nofun
  | some root =>
      obtain rfl := hroot root rfl
      cases payload with
      | none => exact Keeps.pure nofun
      | some payload =>
          apply Keeps.bind (addFields_sublist [] _ A hA)
          rintro out ⟨kept, hkept, rfl⟩
          exact cJSONPrintUnformatted_always (hfields payload hkept) A hA

/-! ## The two messages after a save -/

variable {w : World}

/-- What the event and the snapshot change, as far as others see it. -/
structure Announces (w w' : World) : Prop where
  registry : w'.board.registry = w.board.registry
  allocs : w'.allocs = allocsAfterSave w.board w.allocs
  told : registryChanges w'.board = registryChanges w.board ↔ ¬TellsSomeone w

theorem registryChanges_queueEach (fds : List Int) (message : Json) (b : Board) :
    registryChanges (queueEach fds message b) = registryChanges b ++
      if isRegistryChanged message then fds.map fun fd => (fd, message) else [] := by
  unfold registryChanges queueEach
  rw [List.filter_append]
  congr 1
  induction fds with
  | nil =>
      split
      · rfl
      · rfl
  | cons fd fds ih =>
      rw [List.map_cons, List.filter_cons, ih]
      split
      · rfl
      · rfl

theorem broadcastEvent_run (hrunning : w.board.running = true) :
    ∃ r heap httpd, (orchestratorStateBroadcastEvent (CStr.lit "device.registry_changed")
      none).run w = (r, { w with
        board := match (registryChangedMessage w.allocs).1 with
          | .ok message => queueEach (broadcastTo w) message w.board
          | .error _ => w.board
        allocs := (registryChangedMessage w.allocs).2
        heap := heap
        httpd := httpd }) := by
  unfold orchestratorStateBroadcastEvent
  rw [Esp.run_liftM_bind (m := getBoard) (w := w) rfl]
  simp only [hrunning, Bool.true_eq_false, if_false]
  have htext : (ExceptT.mk (allocate registryChangedMessage) : Esp Json).run w =
      ((registryChangedMessage w.allocs).1,
        { w with allocs := (registryChangedMessage w.allocs).2 }) := rfl
  cases hmessage : (registryChangedMessage w.allocs).1 with
  | error err =>
      rw [hmessage] at htext
      exact ⟨_, w.heap, w.httpd, Esp.run_bind_error htext⟩
  | ok message =>
      rw [hmessage] at htext
      obtain ⟨r, heap, httpd, hrun⟩ := websocketBroadcastMessage_run message
        { w with allocs := (registryChangedMessage w.allocs).2 }
      exact ⟨r, heap, httpd, (Esp.run_bind_ok htext).trans hrun⟩

theorem broadcastSnapshot_run (hrunning : w.board.running = true) :
    ∃ r heap httpd, orchestratorStateBroadcastSnapshot.run w = (r, { w with
      board := match (snapshotMessage w.board.state w.allocs).1 with
        | some message => queueEach (broadcastTo w) message w.board
        | none => w.board
      allocs := (snapshotMessage w.board.state w.allocs).2
      heap := heap
      httpd := httpd }) := by
  unfold orchestratorStateBroadcastSnapshot
  rw [Esp.run_liftM_bind (m := getBoard) (w := w) rfl]
  simp only [hrunning, Bool.true_eq_false, if_false]
  rw [Esp.run_liftM_bind (m := allocate (snapshotMessage w.board.state)) (w := w) rfl]
  cases (snapshotMessage w.board.state w.allocs).1 with
  | none => exact ⟨_, w.heap, w.httpd, rfl⟩
  | some message =>
      exact websocketBroadcastMessage_run message
        { w with allocs := (snapshotMessage w.board.state w.allocs).2 }

/-- The event and the snapshot after a save. -/
def announce : Esp Unit := do
  ignore (orchestratorStateBroadcastEvent (CStr.lit "device.registry_changed") none)
  ignore orchestratorStateBroadcastSnapshot

/-- The board after the event. -/
theorem registryChanges_event (hrunning : w.board.running = true) {b : Board}
    (hb : b = match (registryChangedMessage w.allocs).1 with
      | .ok message => queueEach (broadcastTo w) message w.board
      | .error _ => w.board) :
    b.registry = w.board.registry ∧ b.running = true ∧ b.state = w.board.state ∧
      (registryChanges b = registryChanges w.board ↔ ¬TellsSomeone w) := by
  unfold TellsSomeone
  cases hmessage : (registryChangedMessage w.allocs).1 with
  | error err =>
      rw [hmessage] at hb
      subst hb
      refine ⟨rfl, hrunning, rfl, iff_of_true rfl ?_⟩
      rintro ⟨⟨message, ⟨⟩, -⟩, -⟩
  | ok message =>
      rw [hmessage] at hb
      subst hb
      refine ⟨rfl, hrunning, rfl, ?_⟩
      rw [registryChanges_queueEach, List.append_right_eq_self]
      cases hchanged : isRegistryChanged message with
      | false =>
          refine iff_of_true rfl ?_
          rintro ⟨⟨other, ⟨⟩, hother⟩, -⟩
          cases hchanged.symm.trans hother
      | true =>
          rw [if_pos rfl, List.map_eq_nil_iff]
          constructor
          · exact fun hnobody h => h.2 hnobody
          · intro h
            by_contra hsomeone
            exact h ⟨⟨message, rfl, hchanged⟩, hsomeone⟩

/-- The snapshot adds no event. -/
theorem registryChanges_snapshot {b : Board}
    (hb : b = match (snapshotMessage w.board.state w.allocs).1 with
      | some message => queueEach (broadcastTo w) message w.board
      | none => w.board) :
    b.registry = w.board.registry ∧ registryChanges b = registryChanges w.board := by
  have hnot := (snapshotMessage_notRegistryChanged w.board.state (fun _ => True)
    (fun _ _ => trivial) w.allocs trivial).2
  cases hmessage : (snapshotMessage w.board.state w.allocs).1 with
  | none =>
      rw [hmessage] at hb
      subst hb
      exact ⟨rfl, rfl⟩
  | some message =>
      rw [hmessage] at hb
      subst hb
      refine ⟨rfl, ?_⟩
      rw [registryChanges_queueEach, hnot message hmessage, if_neg (by decide), List.append_nil]

theorem announce_run (w : World) : ∃ w', announce.run w = (.ok ⟨⟩, w') ∧ Announces w w' := by
  refine ⟨_, rfl, ?_⟩
  show Announces w (orchestratorStateBroadcastSnapshot.run
    ((orchestratorStateBroadcastEvent (CStr.lit "device.registry_changed") none).run w).2).2
  cases hrunning : w.board.running with
  | false =>
      have hevent : ((orchestratorStateBroadcastEvent (CStr.lit "device.registry_changed")
          none).run w).2 = w := by
        unfold orchestratorStateBroadcastEvent
        rw [Esp.run_liftM_bind (m := getBoard) (w := w) rfl, if_pos hrunning]
        rfl
      have hsnapshot : (orchestratorStateBroadcastSnapshot.run w).2 = w := by
        unfold orchestratorStateBroadcastSnapshot
        rw [Esp.run_liftM_bind (m := getBoard) (w := w) rfl, if_pos hrunning]
        rfl
      rw [hevent, hsnapshot]
      refine ⟨rfl, by rw [allocsAfterSave, if_pos hrunning], iff_of_true rfl fun h => h.2 ?_⟩
      rw [broadcastTo, if_pos hrunning]
  | true =>
      obtain ⟨r, heap, httpd, hevent⟩ := broadcastEvent_run hrunning
      generalize hb : (match (registryChangedMessage w.allocs).1 with
        | .ok message => queueEach (broadcastTo w) message w.board
        | .error _ => w.board) = b at hevent
      obtain ⟨hregistry, hstill, hstate, htold⟩ := registryChanges_event hrunning hb.symm
      let u : World := { w with
        board := b
        allocs := (registryChangedMessage w.allocs).2
        heap := heap
        httpd := httpd }
      obtain ⟨r', heap', httpd', hsnapshot⟩ := broadcastSnapshot_run (w := u) hstill
      obtain ⟨hkept, hchanges⟩ := registryChanges_snapshot (w := u) rfl
      rw [hevent, hsnapshot]
      refine ⟨hkept.trans hregistry, ?_, hchanges ▸ htold⟩
      show (snapshotMessage b.state (registryChangedMessage w.allocs).2).2 = _
      rw [hstate, allocsAfterSave, if_neg (by rw [hrunning]; decide)]

end Orchestrator.Registry
