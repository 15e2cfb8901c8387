import Orchestrator.Events.Thread
import Orchestrator.Commands.Rules
import Orchestrator.Messages.Rules
import Orchestrator.Registry.Rules

/-!
# What the events do to the mirrored state

The setters are all that changes it. Whatever the calls between them meet leaves it alone,
but for the number of clients, which a server that is stopped sets to zero.
-/

namespace Orchestrator.Events

open Lib Handler Server State Messages Commands Registry

inductive Event
  | wifi (event : WifiEvent)
  | thread (event : ThreadEvent)
  deriving DecidableEq, Repr

def handleEvent (p : Platform) (espIp4addrNtoa : UInt32 → CStr) : Event → Handler Unit
  | .wifi event => handleWifiEvent espIp4addrNtoa event
  | .thread event => handleThreadEvent p event

/-- An event, and the world that its handler finds but for the mirrored state. -/
structure Observation where
  event : Event
  world : World

namespace Observation

/-- The world with this mirrored state. -/
def worldWith (o : Observation) (s : OrchestratorState) : World :=
  { o.world with board := { o.world.board with state := s } }

/-- The mirrored state after the event has been handled. -/
def handle (p : Platform) (espIp4addrNtoa : UInt32 → CStr) (s : OrchestratorState)
    (o : Observation) : OrchestratorState :=
  (handleEvent p espIp4addrNtoa o.event (o.worldWith s)).2.board.state

end Observation

/-! ## What one event does -/

def wifiEffect (espIp4addrNtoa : UInt32 → CStr) :
    WifiEvent → OrchestratorState → OrchestratorState
  | .staGotIp ip => .setWifiStaConnected true (some (espIp4addrNtoa ip))
  | .staConnected => .setWifiStaConfigured true
  | .staDisconnected => .setWifiStaConnected false none
  | .apStart => .setWifiApRunning true
  | .apStop => .setWifiApRunning false
  | _ => id

/-- The role that OpenThread reports, when there is an instance. -/
def roleRead (p : Platform) (openThread : OpenThread) : Option CStr :=
  if openThread.instanceExists then some (p.otThreadDeviceRoleToString openThread.role) else none

/-- OpenThread has an active dataset. -/
def datasetExists (openThread : OpenThread) : Bool :=
  openThread.instanceExists && openThread.activeDataset.isSome

def threadEffect (p : Platform) (openThread : OpenThread) :
    ThreadEvent → OrchestratorState → OrchestratorState
  | .start => .setThreadEnabled true
  | .stop => .setThreadEnabled false
  | .attached => .setThreadAttached true
  | .detached => .setThreadAttached false
  | .roleChanged =>
      match roleRead p openThread with
      | some role => .setThreadRole role
      | none => id
  | .datasetChanged =>
      if datasetExists openThread then .setThreadDatasetPresent true else id
  | _ => id

def Observation.effect (p : Platform) (espIp4addrNtoa : UInt32 → CStr) (o : Observation) :
    OrchestratorState → OrchestratorState :=
  match o.event with
  | .wifi event => wifiEffect espIp4addrNtoa event
  | .thread event => threadEffect p o.world.board.openThread event

/-- The mirrored state is this one. -/
def StateIs (s : OrchestratorState) (w : World) : Prop := w.board.state = s

variable {s : OrchestratorState} {p : Platform} {espIp4addrNtoa : UInt32 → CStr}

theorem stateIs_unforeseen : UnforeseenNvs (StateIs s) :=
  unforeseen_board fun b => b.state = s

theorem stateIs_queue (message : Json) (fd : Int) (w : World) (h : StateIs s w) :
    StateIs s { w with board := queueWork fd message w.board } := h

theorem call_keeps {I : World → Prop} {α : Type} {m : Esp α} {Q : α → Prop}
    (hm : Esp.Keeps I m Q) : Keeps I (call m) fun _ => True :=
  Keeps.bind hm fun _ _ => Keeps.pure trivial

theorem info_state (action : String) (fields : List (CStr × Json)) :
    Esp.Keeps (StateIs s) (broadcastInfo action fields) fun _ => True :=
  broadcastInfo_keeps stateIs_unforeseen.toUnforeseen stateIs_queue action fields

theorem snapshot_state :
    Keeps (StateIs s) (call orchestratorStateBroadcastSnapshot) fun _ => True :=
  call_keeps (broadcastSnapshot_keeps stateIs_unforeseen.toUnforeseen stateIs_queue)

theorem event_state (event : String) :
    Keeps (StateIs s) (call (orchestratorStateBroadcastEvent (CStr.lit event) none))
      fun _ => True :=
  call_keeps (broadcastEvent_keeps stateIs_unforeseen.toUnforeseen stateIs_queue event)

theorem setState_triple (set : OrchestratorState → OrchestratorState) :
    Triple (StateIs s) (setState set) fun _ => StateIs (set s) := by
  rintro w rfl
  rfl

theorem announce_state {set : OrchestratorState → OrchestratorState} {event : String}
    {m : Esp Unit} (hm : Esp.Keeps (StateIs (set s)) m fun _ => True) :
    Triple (StateIs s) (announce set event m) fun _ => StateIs (set s) := by
  refine Triple.bind (setState_triple set) fun _ => ?_
  exact Keeps.triple (Keeps.bind (event_state event) fun _ _ =>
    Keeps.bind (call_keeps hm) fun _ _ => snapshot_state)

/-! ### The server -/

theorem websocketServerStart_state : Esp.Keeps (StateIs s) websocketServerStart fun _ => True := by
  apply Esp.Keeps.bind (Esp.Keeps.lift (getBoard_keeps (Q := fun _ => True) fun _ _ => trivial))
  rintro board -
  split
  · exact Esp.Keeps.pure trivial
  · apply Esp.Keeps.bind (Esp.Keeps.lift stateIs_unforeseen.httpdOutcome)
    rintro (- | err) -
    · exact Esp.Keeps.lift (modifyBoard_keeps fun _ h => h)
    · exact Esp.Keeps.throw

/-- The server is stopped, and the number of clients may have been set. -/
structure Closing (s : OrchestratorState) (w : World) : Prop where
  running : w.board.running = false
  state : StateIs s w ∨ StateIs (s.setWebsocketClientCount 0) w

theorem closing_unforeseen : UnforeseenNvs (Closing s) where
  allocs _ h := { h with }
  heap _ h := { h with }
  httpd _ h := { h with }
  stack _ h := { h with }
  nvs _ _ h := { h with }

theorem closing_queue (message : Json) (fd : Int) (w : World) (h : Closing s w) :
    Closing s { w with board := queueWork fd message w.board } := { h with }

/-- A server that is stopped has no clients. -/
theorem websocketServerClientCount_closing :
    Keeps (Closing s) websocketServerClientCount fun count => count = 0 := by
  apply Keeps.bind (getBoard_keeps (Q := fun b => b.running = false) fun _ h => h.running)
  intro board hboard
  rw [if_pos hboard]
  exact Keeps.pure rfl

theorem clientsPayload_closing :
    Keeps (Closing s) clientsPayload fun payload =>
      ∀ o ∈ payload, Built (fun _ => True) o := by
  apply Keeps.bind (closing_unforeseen.allocate cJSONCreateObject_built)
  rintro (- | payload) hpayload
  · apply Keeps.pure
    rintro o ⟨⟩
  · apply Keeps.bind websocketServerClientCount_closing
    rintro count -
    apply Keeps.bind (closing_unforeseen.allocate (addFields_built (hpayload payload rfl)
      (FieldStrings.of_forall (fun _ => trivial) _)))
    intro out hout
    apply Keeps.pure
    rintro o ⟨⟩
    exact hout

theorem handleWebsocketClientEvent_closing (fd : Int) :
    Keeps (Closing s) (handleWebsocketClientEvent .disconnected fd) fun _ => True := by
  apply Keeps.bind websocketServerClientCount_closing
  rintro _ rfl
  have hset : Keeps (Closing s) (setState (.setWebsocketClientCount 0)) fun _ => True := by
    apply modifyBoard_keeps
    rintro w ⟨hrunning, hstate⟩
    refine ⟨hrunning, .inr ?_⟩
    rcases hstate with rfl | hzero
    · rfl
    · rw [StateIs] at hzero ⊢
      exact (congrArg (OrchestratorState.setWebsocketClientCount 0) hzero).trans rfl
  apply Keeps.bind hset
  rintro - -
  apply Keeps.bind clientsPayload_closing
  intro payload hpayload
  have hmessage : (eventMessage (CStr.lit "websocket.client_disconnected") payload).Always
      fun json => ∀ j, json = .ok j → Built (fun _ => True) j :=
    eventMessage_built texts_true trivial hpayload
  apply Keeps.bind (call_keeps (orchestratorStateBroadcastEvent_keeps
    closing_unforeseen.toUnforeseen (closing_unforeseen.allocate hmessage)
    fun message _ => closing_queue message))
  rintro - -
  exact call_keeps (broadcastSnapshot_keeps closing_unforeseen.toUnforeseen closing_queue)

theorem closeSessions_closing (sessions : List (Int × Bool)) :
    Keeps (Closing s) (closeSessions sessions) fun _ => True := by
  induction sessions with
  | nil => exact Keeps.pure trivial
  | cons session sessions ih =>
      exact Keeps.bind (handleWebsocketClientEvent_closing session.1) fun _ _ => ih

/-- The sessions that a stop closes leave the number of clients at zero. -/
theorem websocketServerStop_state :
    Triple (StateIs s) (call websocketServerStop) fun _ w =>
      StateIs s w ∨ StateIs (s.setWebsocketClientCount 0) w := by
  intro w hw
  unfold websocketServerStop call
  rw [Handler.bind_apply, Esp.run_liftM_bind (m := getBoard) (w := w) rfl]
  split
  · exact .inl hw
  · have hstopped : Closing s { w with board := { w.board with running := false } } :=
      ⟨rfl, .inl hw⟩
    rw [Esp.run_liftM_bind (m := modifyBoard fun b => { b with running := false }) (w := w) rfl]
    suffices hclose : Esp.Keeps (Closing s) _ fun _ => True from (hclose _ hstopped).1.state
    apply Esp.Keeps.bind (Esp.Keeps.lift (closeSessions_closing w.board.sessions))
    rintro - -
    apply Esp.Keeps.bind (Esp.Keeps.lift (modifyBoard_keeps fun _ h => { h with }))
    rintro - -
    apply Esp.Keeps.bind (Esp.Keeps.lift closing_unforeseen.httpdOutcome)
    rintro (- | err) -
    · exact Esp.Keeps.pure trivial
    · exact Esp.Keeps.throw

/-! ### The handlers -/

theorem announce_apStop (event : String) :
    Triple (StateIs s) (announce (.setWifiApRunning false) event websocketServerStop) fun _ w =>
      StateIs (s.setWifiApRunning false) w ∨
        StateIs ((s.setWifiApRunning false).setWebsocketClientCount 0) w := by
  refine Triple.bind (setState_triple (.setWifiApRunning false)) fun _ => ?_
  refine Triple.bind (event_state event).triple fun _ => ?_
  refine Triple.bind websocketServerStop_state fun _ => ?_
  rintro w (hw | hw)
  · exact .inl (snapshot_state w hw).1
  · exact .inr (snapshot_state w hw).1

theorem handleWifiEvent_state {event : WifiEvent} (h : event ≠ .apStop) :
    Triple (StateIs s) (handleWifiEvent espIp4addrNtoa event) fun _ =>
      StateIs (wifiEffect espIp4addrNtoa event s) := by
  cases event with
  | apStop => exact absurd rfl h
  | staGotIp ip => exact announce_state (info_state _ _)
  | staConnected => exact announce_state (info_state _ _)
  | staDisconnected => exact announce_state (info_state _ _)
  | apStart => exact announce_state websocketServerStart_state
  | staLostIp | otherIpEvent | staStart | apStaConnected | apStaDisconnected | other =>
      exact Triple.pure fun _ hw => hw

theorem whenOk_keeps {I : World → Prop} {α : Type} {m : Esp α} {Q : α → Prop}
    {k : α → Handler Unit} (hm : Esp.Keeps I m Q) (hk : ∀ a, Q a → Keeps I (k a) fun _ => True) :
    Keeps I (whenOk m k) fun _ => True := by
  apply Keeps.bind hm
  rintro (err | a) ha
  · exact Keeps.pure trivial
  · exact hk a (ha a rfl)

/-- A question to OpenThread leaves the world as it is. -/
theorem whenOk_of_run {α : Type} {m : Esp α} {k : α → Handler Unit} {r : EspResult α} {w : World}
    (hm : m.run w = (r, w)) :
    (∀ a, r = .ok a → whenOk m k w = k a w) ∧ (∀ err, r = .error err → whenOk m k w = (⟨⟩, w)) := by
  unfold whenOk
  rw [Handler.bind_apply, hm]
  constructor
  · rintro a rfl
    rfl
  · rintro err rfl
    rfl

theorem threadGetDeviceRoleString_run (w : World) :
    (threadGetDeviceRoleString p).run w =
      (match roleRead p w.board.openThread with
        | some role => .ok role
        | none => .error EspErr.invalidArg, w) := by
  unfold threadGetDeviceRoleString roleRead
  rw [ExceptT.run_bind, Handler.bind_apply, requireInstance_run]
  cases w.board.openThread.instanceExists with
  | true => rfl
  | false => rfl

theorem threadGetActiveDataset_run (w : World) :
    threadGetActiveDataset.run w =
      (if w.board.openThread.instanceExists then
        match w.board.openThread.activeDataset with
        | some dataset => .ok dataset
        | none => .error EspErr.espFail
      else .error EspErr.invalidArg, w) := by
  unfold threadGetActiveDataset
  rw [ExceptT.run_bind, Handler.bind_apply, requireInstance_run]
  cases w.board.openThread.instanceExists with
  | true =>
      rw [if_pos rfl, if_pos rfl]
      dsimp only
      cases w.board.openThread.activeDataset with
      | some dataset => rfl
      | none => rfl
  | false => rfl

theorem announceRole_state (role : CStr) :
    Triple (StateIs s) (announceRole role) fun _ => StateIs (s.setThreadRole role) := by
  refine Triple.bind (setState_triple (.setThreadRole role)) fun _ => ?_
  refine Keeps.triple (Q := fun _ => True) ?_
  have hfields : FieldStrings (fun _ => True) [(CStr.lit "role", .string role)] :=
    FieldStrings.of_forall (fun _ => trivial) _
  apply Keeps.bind (stateIs_unforeseen.allocate (createObject_built hfields))
  intro payload hpayload
  have hmessage : (eventMessage (CStr.lit "thread.role_changed") payload).Always
      fun json => ∀ j, json = .ok j → Built (fun _ => True) j :=
    eventMessage_built texts_true trivial hpayload
  apply Keeps.bind (call_keeps (orchestratorStateBroadcastEvent_keeps
    stateIs_unforeseen.toUnforeseen (stateIs_unforeseen.allocate hmessage)
    fun message _ => stateIs_queue message))
  rintro - -
  exact Keeps.bind (call_keeps (info_state _ _)) fun _ _ => snapshot_state

theorem roleChanged_state {w : World} (hw : StateIs s w) :
    StateIs (threadEffect p w.board.openThread .roleChanged s)
      (handleThreadEvent p .roleChanged w).2 := by
  obtain ⟨hok, herror⟩ := whenOk_of_run (k := announceRole)
    (threadGetDeviceRoleString_run (p := p) w)
  rw [handleThreadEvent, threadEffect]
  cases hrole : roleRead p w.board.openThread with
  | none =>
      rw [hrole] at herror
      rw [herror _ rfl]
      exact hw
  | some role =>
      rw [hrole] at hok
      rw [hok role rfl]
      exact announceRole_state role w hw

theorem datasetChanged_state {w : World} (hw : StateIs s w) :
    StateIs (threadEffect p w.board.openThread .datasetChanged s)
      (handleThreadEvent p .datasetChanged w).2 := by
  obtain ⟨hok, herror⟩ := whenOk_of_run (k := fun dataset =>
    announce (.setThreadDatasetPresent true) "thread.dataset_changed"
      (broadcastInfoActiveDatasetMessage dataset)) (threadGetActiveDataset_run w)
  rw [handleThreadEvent, threadEffect, datasetExists]
  cases hinstance : w.board.openThread.instanceExists with
  | false =>
      rw [hinstance] at herror
      rw [herror _ rfl]
      exact hw
  | true =>
      rw [hinstance] at hok herror
      cases hdataset : w.board.openThread.activeDataset with
      | none =>
          rw [hdataset] at herror
          rw [herror _ rfl]
          exact hw
      | some dataset =>
          rw [hdataset] at hok
          rw [hok dataset rfl]
          exact announce_state (info_state _ _) w hw

theorem addresses_state {addresses : OpenThread → List CStr} {message : List CStr → Esp Unit}
    (hmessage : ∀ found, Esp.Keeps (StateIs s) (message found) fun _ => True) :
    Keeps (StateIs s) (whenOk (threadGetAddresses addresses) fun found => call (message found))
      fun _ => True := by
  have hfound : Esp.Keeps (StateIs s) (threadGetAddresses addresses) fun _ => True := by
    apply Esp.Keeps.bind (requireInstance_keeps (Q := fun _ => True) (fun _ _ => trivial) _)
    rintro openThread -
    exact (duplicateAddresses_keeps stateIs_unforeseen.toUnforeseen _).weaken fun _ _ => trivial
  exact whenOk_keeps hfound fun found _ => call_keeps (hmessage found)

theorem addressesPayload_always (name : CStr) (addresses : List CStr) :
    (addressesPayload name addresses).Always fun _ => True := by
  intro A hA
  apply Keeps.bind (cJSONCreateObject_built (P := fun _ => True) A hA)
  rintro (- | payload) hpayload
  · exact Keeps.pure trivial
  · apply Keeps.bind (Alloc.next_always A hA)
    rintro created -
    cases created with
    | false => exact Keeps.pure trivial
    | true =>
        apply Keeps.bind (stringItems_built (P := fun _ => True) (fun _ _ => trivial) A hA)
        rintro items -
        apply Keeps.bind (addFields_built (hpayload payload rfl)
          (FieldStrings.of_forall (fun _ => trivial) _) A hA)
        exact fun _ _ => Keeps.pure trivial

theorem addressesMessage_state (action : String) (name : CStr) (addresses : List CStr) :
    Esp.Keeps (StateIs s) (broadcastPayload "info" action (addressesPayload name addresses))
      fun _ => True :=
  broadcastPayload_keeps stateIs_unforeseen.toUnforeseen stateIs_queue "info" action
    (addressesPayload_always name addresses)

theorem handleThreadEvent_state (event : ThreadEvent) {w : World} (hw : StateIs s w) :
    StateIs (threadEffect p w.board.openThread event s) (handleThreadEvent p event w).2 := by
  cases event with
  | start => exact announce_state (info_state _ _) w hw
  | stop => exact announce_state (info_state _ _) w hw
  | attached => exact announce_state (info_state _ _) w hw
  | detached => exact announce_state (info_state _ _) w hw
  | roleChanged => exact roleChanged_state hw
  | datasetChanged => exact datasetChanged_state hw
  | ifUp | ifDown | publishMeshcopE | removeMeshcopE =>
      exact (call_keeps (info_state _ _) w hw).1
  | gotIp6 | lostIp6 =>
      exact (addresses_state (fun found => addressesMessage_state _ _ found) w hw).1
  | multicastGroupJoin | multicastGroupLeave =>
      exact (addresses_state (fun found => addressesMessage_state _ _ found) w hw).1
  | other => exact hw

/-- The effect of an event is all that changes, except that the end of the access point may
leave no client. -/
theorem handle_cases (p : Platform) (espIp4addrNtoa : UInt32 → CStr) (s : OrchestratorState)
    (o : Observation) :
    o.handle p espIp4addrNtoa s = o.effect p espIp4addrNtoa s ∨
      o.event = .wifi .apStop ∧
        o.handle p espIp4addrNtoa s = (o.effect p espIp4addrNtoa s).setWebsocketClientCount 0 := by
  obtain ⟨event, world⟩ := o
  cases event with
  | thread event => exact .inl (handleThreadEvent_state event rfl)
  | wifi event =>
      by_cases hstop : event = .apStop
      · subst hstop
        rcases announce_apStop "wifi.ap_stopped" _ rfl with h | h
        · exact .inl h
        · exact .inr ⟨rfl, h⟩
      · exact .inl (handleWifiEvent_state hstop _ rfl)

end Orchestrator.Events
