import Orchestrator.System.Device

/-!
# What the events keep

A predicate on worlds that single effects of the event handlers keep is kept by every
handler. For the most part the effects are messages to all clients.
-/

namespace Orchestrator.Events

open Lib Handler Server State Messages Commands Registry Alloc

/-- Every single effect of an event handler keeps `I`. -/
structure EventInvariant (I : World → Prop) : Prop extends UnforeseenNvs I where
  event : ∀ (name : String) (payload : Option Json), (∀ o ∈ payload, Built (fun _ => True) o) →
    Esp.Keeps I (orchestratorStateBroadcastEvent (CStr.lit name) payload) fun _ => True
  snapshot : Esp.Keeps I orchestratorStateBroadcastSnapshot fun _ => True
  sendSnapshot : ∀ fd, Esp.Keeps I (orchestratorStateSendSnapshotToClient fd) fun _ => True
  message : ∀ type ∈ ["info", "event"], ∀ action payload,
    Esp.Keeps I (broadcastMessage type action payload) fun _ => True
  state : ∀ (set : OrchestratorState → OrchestratorState) w, I w →
    I { w with board := { w.board with state := set w.board.state } }
  running : ∀ running w, I w → I { w with board := { w.board with running := running } }
  closed : ∀ w, I w → I { w with board := { w.board with sessions := [] } }

variable {I : World → Prop} (h : EventInvariant I)

include h

/-! ## The parts of the handlers -/

theorem setState_keeps (set : OrchestratorState → OrchestratorState) :
    Keeps I (setState set) fun _ => True :=
  modifyBoard_keeps (h.state set)

theorem broadcastPayload_event_keeps {type : String} (htype : type ∈ ["info", "event"])
    (action : String) {payload : Alloc (Option Json)} (hpayload : payload.Always fun _ => True) :
    Esp.Keeps I (broadcastPayload type action payload) fun _ => True := by
  apply Esp.Keeps.bind (Esp.Keeps.lift (h.allocate hpayload))
  rintro (- | payload) -
  · exact Esp.Keeps.throw
  · exact h.message type htype action payload

theorem broadcastInfo_event_keeps (action : String) (fields : List (CStr × Json)) :
    Esp.Keeps I (broadcastInfo action fields) fun _ => True :=
  broadcastPayload_event_keeps h (by simp) action (createObject_always fields)

theorem announce_keeps (set : OrchestratorState → OrchestratorState) (event : String)
    {m : Esp Unit} (hm : Esp.Keeps I m fun _ => True) :
    Keeps I (announce set event m) fun _ => True := by
  apply Keeps.bind (setState_keeps h set)
  rintro - -
  apply Keeps.bind (call_keeps (h.event event none nofun))
  rintro - -
  exact Keeps.bind (call_keeps hm) fun _ _ => call_keeps h.snapshot

/-! ## Clients -/

theorem websocketServerClientCount_keeps : Keeps I websocketServerClientCount fun _ => True := by
  apply Keeps.bind (getBoard_keeps (Q := fun _ => True) fun _ _ => trivial)
  rintro board -
  split
  · exact Keeps.pure trivial
  · apply Keeps.bind h.httpdOutcome
    rintro (- | err) -
    · exact Keeps.pure trivial
    · exact Keeps.pure trivial

theorem clientsPayload_keeps :
    Keeps I clientsPayload fun payload => ∀ o ∈ payload, Built (fun _ => True) o := by
  apply Keeps.bind (h.allocate cJSONCreateObject_built)
  rintro (- | payload) hpayload
  · apply Keeps.pure
    rintro o ⟨⟩
  · apply Keeps.bind (websocketServerClientCount_keeps h)
    rintro count -
    apply Keeps.bind (h.allocate (addFields_built (hpayload payload rfl)
      (FieldStrings.of_forall (fun _ => trivial) _)))
    intro out hout
    apply Keeps.pure
    rintro o ⟨⟩
    exact hout

theorem handleWebsocketClientEvent_keeps (event : WsClientEvent) (fd : Int) :
    Keeps I (handleWebsocketClientEvent event fd) fun _ => True := by
  apply Keeps.bind (websocketServerClientCount_keeps h)
  rintro count -
  apply Keeps.bind (setState_keeps h _)
  rintro - -
  cases event with
  | connected =>
      apply Keeps.bind (call_keeps (h.sendSnapshot fd))
      rintro - -
      apply Keeps.bind (clientsPayload_keeps h)
      exact fun payload hpayload => call_keeps (h.event _ payload hpayload)
  | disconnected =>
      apply Keeps.bind (clientsPayload_keeps h)
      intro payload hpayload
      apply Keeps.bind (call_keeps (h.event _ payload hpayload))
      exact fun _ _ => call_keeps h.snapshot

theorem closeSessions_keeps (sessions : List (Int × Bool)) :
    Keeps I (closeSessions sessions) fun _ => True := by
  induction sessions with
  | nil => exact Keeps.pure trivial
  | cons session sessions ih =>
      exact Keeps.bind (handleWebsocketClientEvent_keeps h _ _) fun _ _ => ih

theorem websocketServerStart_keeps : Esp.Keeps I websocketServerStart fun _ => True := by
  apply Esp.Keeps.bind (Esp.Keeps.lift (getBoard_keeps (Q := fun _ => True) fun _ _ => trivial))
  rintro board -
  split
  · exact Esp.Keeps.pure trivial
  · apply Esp.Keeps.bind (Esp.Keeps.lift h.httpdOutcome)
    rintro (- | err) -
    · exact Esp.Keeps.lift (modifyBoard_keeps (h.running true))
    · exact Esp.Keeps.throw

theorem websocketServerStop_keeps : Esp.Keeps I websocketServerStop fun _ => True := by
  apply Esp.Keeps.bind (Esp.Keeps.lift (getBoard_keeps (Q := fun _ => True) fun _ _ => trivial))
  rintro board -
  split
  · exact Esp.Keeps.pure trivial
  · apply Esp.Keeps.bind (Esp.Keeps.lift (modifyBoard_keeps (h.running false)))
    rintro - -
    apply Esp.Keeps.bind (Esp.Keeps.lift (closeSessions_keeps h board.sessions))
    rintro - -
    apply Esp.Keeps.bind (Esp.Keeps.lift (modifyBoard_keeps h.closed))
    rintro - -
    apply Esp.Keeps.bind (Esp.Keeps.lift h.httpdOutcome)
    rintro (- | err) -
    · exact Esp.Keeps.pure trivial
    · exact Esp.Keeps.throw

/-! ## Events -/

theorem handleWifiEvent_keeps (espIp4addrNtoa : UInt32 → CStr) (event : WifiEvent) :
    Keeps I (handleWifiEvent espIp4addrNtoa event) fun _ => True := by
  cases event with
  | staGotIp ip => exact announce_keeps h _ _ (broadcastInfo_event_keeps h _ _)
  | staConnected => exact announce_keeps h _ _ (broadcastInfo_event_keeps h _ _)
  | staDisconnected => exact announce_keeps h _ _ (broadcastInfo_event_keeps h _ _)
  | apStart => exact announce_keeps h _ _ (websocketServerStart_keeps h)
  | apStop => exact announce_keeps h _ _ (websocketServerStop_keeps h)
  | staLostIp | otherIpEvent | staStart | apStaConnected | apStaDisconnected | other =>
      exact Keeps.pure trivial

theorem addresses_keeps (addresses : OpenThread → List CStr) (action : String) (name : CStr) :
    Keeps I (whenOk (threadGetAddresses addresses) fun found =>
      call (broadcastPayload "info" action (addressesPayload name found))) fun _ => True := by
  have hfound : Esp.Keeps I (threadGetAddresses addresses) fun _ => True := by
    apply Esp.Keeps.bind (requireInstance_keeps (Q := fun _ => True) (fun _ _ => trivial) _)
    rintro openThread -
    exact (duplicateAddresses_keeps h.toUnforeseen _).weaken fun _ _ => trivial
  exact whenOk_keeps hfound fun found _ => call_keeps
    (broadcastPayload_event_keeps h (by simp) action (addressesPayload_always name found))

theorem roleChanged_keeps (p : Platform) :
    Keeps I (handleThreadEvent p .roleChanged) fun _ => True := by
  refine whenOk_keeps (Q := fun _ => True) ?_ fun role _ => ?_
  · exact Esp.Keeps.bind (requireInstance_keeps (Q := fun _ => True) (fun _ _ => trivial) _)
      fun _ _ => Esp.Keeps.pure trivial
  · apply Keeps.bind (setState_keeps h _)
    rintro - -
    apply Keeps.bind (h.allocate (createObject_built (FieldStrings.of_forall (fun _ => trivial) _)))
    intro payload hpayload
    apply Keeps.bind (call_keeps (h.event _ payload hpayload))
    rintro - -
    exact Keeps.bind (call_keeps (broadcastInfo_event_keeps h _ _)) fun _ _ =>
      call_keeps h.snapshot

theorem datasetChanged_keeps (p : Platform) :
    Keeps I (handleThreadEvent p .datasetChanged) fun _ => True := by
  refine whenOk_keeps (Q := fun _ => True) ?_ fun dataset _ =>
    announce_keeps h _ _ (broadcastInfo_event_keeps h _ _)
  apply Esp.Keeps.bind (requireInstance_keeps (Q := fun _ => True) (fun _ _ => trivial) _)
  rintro openThread -
  split
  · exact Esp.Keeps.pure trivial
  · exact Esp.Keeps.throw

theorem handleThreadEvent_keeps (p : Platform) (event : ThreadEvent) :
    Keeps I (handleThreadEvent p event) fun _ => True := by
  cases event with
  | start => exact announce_keeps h _ _ (broadcastInfo_event_keeps h _ _)
  | stop => exact announce_keeps h _ _ (broadcastInfo_event_keeps h _ _)
  | attached => exact announce_keeps h _ _ (broadcastInfo_event_keeps h _ _)
  | detached => exact announce_keeps h _ _ (broadcastInfo_event_keeps h _ _)
  | roleChanged => exact roleChanged_keeps h p
  | datasetChanged => exact datasetChanged_keeps h p
  | ifUp | ifDown | publishMeshcopE | removeMeshcopE =>
      exact call_keeps (broadcastInfo_event_keeps h _ _)
  | gotIp6 | lostIp6 => exact addresses_keeps h _ _ _
  | multicastGroupJoin | multicastGroupLeave => exact addresses_keeps h _ _ _
  | other => exact Keeps.pure trivial

theorem handleChipDeviceEvent_keeps (event : ChipDeviceEvent) :
    Keeps I (handleChipDeviceEvent event) fun _ => True := by
  cases event with
  | commissioningComplete nodeId fabricIndex => exact call_keeps (broadcastInfo_event_keeps h _ _)
  | other => exact Keeps.pure trivial

/-- A lookup in the registry only reads it. -/
theorem findCapabilityByPath_keeps (nodeId : UInt64) (endpointId : UInt16)
    (clusterId attributeId : UInt32) :
    Esp.Keeps I (deviceRegistryFindCapabilityByPath nodeId endpointId clusterId attributeId)
      fun _ => True := by
  have hload : LoadInvariant (fun _ => True) I :=
    { toUnforeseen := h.toUnforeseen
      load := loadStore_keeps h.toUnforeseenNvs fun _ _ _ _ => trivial }
  apply load_keeps hload
  rintro store -
  split
  · exact Esp.Keeps.pure trivial
  · exact Esp.Keeps.throw

theorem attributeReportMessage_keeps (report : AttributeReport) :
    Esp.Keeps I (broadcastInfoMatterAttributeReportMessage report) fun _ => True := by
  apply Esp.Keeps.bind (Esp.Keeps.lift (h.allocate (cJSONCreateObject_built (P := fun _ => True))))
  rintro (- | payload) hpayload
  · exact Esp.Keeps.throw
  · apply Esp.Keeps.bind (Q := fun _ => True)
    · refine Esp.Keeps.tryCatch ?_ fun _ => Esp.Keeps.pure trivial
      exact Esp.Keeps.bind (findCapabilityByPath_keeps h _ _ _ _) fun _ _ =>
        Esp.Keeps.pure trivial
    · rintro found -
      apply Esp.Keeps.bind (Esp.Keeps.lift (h.allocate (addFields_built (hpayload payload rfl)
        (FieldStrings.of_forall (fun _ => trivial) _))))
      exact fun built _ => h.message "event" (by simp) _ built

theorem attributeDataReportCallback_keeps {E : Type} (reader : TlvReader E) (nodeId : UInt64)
    (path : AttributePath) (data : E) :
    Keeps I (attributeDataReportCallback reader nodeId path data) fun _ => True := by
  unfold attributeDataReportCallback
  split
  · exact Keeps.pure trivial
  · exact call_keeps (attributeReportMessage_keeps h _)

theorem subscribeDoneCallback_keeps (remoteNodeId : UInt64) (subscriptionId : UInt32) :
    Keeps I (subscribeDoneCallback remoteNodeId subscriptionId) fun _ => True :=
  call_keeps (broadcastInfo_event_keeps h _ _)

omit h in
/-- A predicate that frames do not matter for. -/
theorem EventInvariant.of_queue (hI : UnforeseenNvs I)
    (hqueue : ∀ (message : Json) fd w, I w → I { w with board := queueWork fd message w.board })
    (hstate : ∀ (set : OrchestratorState → OrchestratorState) w, I w →
      I { w with board := { w.board with state := set w.board.state } })
    (hrunning : ∀ running w, I w → I { w with board := { w.board with running := running } })
    (hclosed : ∀ w, I w → I { w with board := { w.board with sessions := [] } }) :
    EventInvariant I where
  toUnforeseenNvs := hI
  event name payload hpayload := by
    have hmessage : (eventMessage (CStr.lit name) payload).Always
        fun json => ∀ j, json = .ok j → Built (fun _ => True) j :=
      eventMessage_built texts_true trivial hpayload
    exact orchestratorStateBroadcastEvent_keeps hI.toUnforeseen (hI.allocate hmessage)
      fun message _ => hqueue message
  snapshot := broadcastSnapshot_keeps hI.toUnforeseen hqueue
  sendSnapshot fd := by
    apply Esp.Keeps.bind (Esp.Keeps.lift (getBoard_keeps (Q := fun _ => True) fun _ _ => trivial))
    rintro board -
    apply Esp.Keeps.bind (Esp.Keeps.lift (hI.allocate
      (snapshotMessage_built texts_true ⟨trivial, trivial⟩)))
    rintro (- | json) -
    · exact Esp.Keeps.throw
    · exact websocketSendMessageToClient_keeps hI.toUnforeseen (hqueue json fd)
  message type _ action payload := broadcastMessage_keeps hI.toUnforeseen hqueue type action payload
  state := hstate
  running := hrunning
  closed := hclosed

/-- The event message with this payload. -/
def eventTreeWith (event : CStr) (payload : Option Json) : Json :=
  .object [(CStr.lit "type", .string (CStr.lit "event")), (CStr.lit "event", .string event),
    (CStr.lit "payload", payload.getD (.object []))]

omit h in
theorem eventMessage_yields_payload (event : CStr) (payload : Option Json) :
    (eventMessage event payload).Yields (.ok (eventTreeWith event payload)) := by
  have hpayload : (payloadOrEmpty payload).Yields (some (payload.getD (.object []))) := by
    cases payload with
    | none => exact cJSONCreateObject_yields
    | some payload => exact Keeps.pure rfl
  apply Keeps.bind cJSONCreateObject_yields
  rintro _ rfl
  apply Keeps.bind (addFields_yields _ _)
  rintro _ rfl
  apply Keeps.bind hpayload
  rintro _ rfl
  apply Keeps.bind (addFields_yields _ _)
  rintro _ rfl
  apply Keeps.bind (cJSONPrintUnformatted_yields _)
  rintro _ rfl
  exact Keeps.pure rfl

omit h in
/-- With memory for cJSON, a predicate that only frames with other messages matter for. -/
theorem EventInvariant.of_messages {M : Json → Prop} (hI : UnforeseenNvs I)
    (hallocs : ∀ w, I w → w.allocs = allSucceed)
    (hqueue : ∀ message, M message → ∀ fd w, I w →
      I { w with board := queueWork fd message w.board })
    (hevent : ∀ name payload, M (eventTreeWith name payload)) (hsnapshot : ∀ s, M (snapshotTree s))
    (hmessage : ∀ type ∈ ["info", "event"], ∀ action payload, M (messageTree type action payload))
    (hstate : ∀ (set : OrchestratorState → OrchestratorState) w, I w →
      I { w with board := { w.board with state := set w.board.state } })
    (hrunning : ∀ running w, I w → I { w with board := { w.board with running := running } })
    (hclosed : ∀ w, I w → I { w with board := { w.board with sessions := [] } }) :
    EventInvariant I where
  toUnforeseenNvs := hI
  event name payload _ := by
    refine orchestratorStateBroadcastEvent_keeps (M := M) hI.toUnforeseen ?_ hqueue
    refine (Unforeseen.allocate_yields hallocs (eventMessage_yields_payload _ payload)).weaken ?_
    rintro _ rfl j ⟨⟩
    exact hevent _ payload
  snapshot := by
    refine orchestratorStateBroadcastSnapshot_keeps (M := M) (B := fun _ => True)
      hI.toUnforeseen (fun _ _ => trivial) (fun b _ => ?_) hqueue
    refine (Unforeseen.allocate_yields hallocs (snapshotMessage_yields b.state)).weaken ?_
    rintro _ rfl j ⟨⟩
    exact hsnapshot b.state
  sendSnapshot fd := by
    apply Esp.Keeps.bind (Esp.Keeps.lift (getBoard_keeps (Q := fun _ => True) fun _ _ => trivial))
    rintro board -
    apply Esp.Keeps.bind (Esp.Keeps.lift (Unforeseen.allocate_yields hallocs
      (snapshotMessage_yields board.state)))
    rintro _ rfl
    exact websocketSendMessageToClient_keeps hI.toUnforeseen (hqueue _ (hsnapshot _) fd)
  message type htype action payload := by
    apply Esp.Keeps.bind (Esp.Keeps.lift (getBoard_keeps (Q := fun _ => True) fun _ _ => trivial))
    rintro board -
    split
    · exact Esp.Keeps.pure trivial
    · apply Esp.Keeps.bind (Esp.Keeps.lift (Unforeseen.allocate_yields hallocs
        (buildJsonMessage_yields type action payload)))
      rintro _ rfl
      exact websocketBroadcastMessage_keeps hI.toUnforeseen
        (hqueue _ (hmessage type htype action payload))
  state := hstate
  running := hrunning
  closed := hclosed

end Orchestrator.Events

namespace Orchestrator.System

open Lib Handler Server State Messages Commands Events

variable {E : Type} {f : Firmware E} {I : World → Prop}

/-! ## Inputs -/

/-- A frame without a message at most ends a client. -/
theorem receiveAndHandleFrame_keeps (h : EventInvariant I) {frame : HttpdWsFrame} {fd : Int}
    (hframe : ¬(Input.frame frame fd : Input E).IsMessage) :
    Esp.Keeps I (receiveAndHandleFrame f.handlers frame fd) fun _ => True := by
  obtain ⟨type, payload⟩ := frame
  have hprocess : ∀ text : Option CStr, (type = .text → text = none) →
      Keeps I (processFrame f.handlers type text fd) fun _ => True := by
    intro text htext
    cases type with
    | text =>
        rw [htext rfl]
        exact Keeps.bind (Esp.Keeps.throw (Q := fun _ => True)) fun _ _ => Keeps.pure trivial
    | ping => exact Keeps.bind h.httpdOutcome fun _ _ => Keeps.pure trivial
    | pong => exact Keeps.pure trivial
    | close => exact handleWebsocketClientEvent_keeps h .disconnected fd
    | other => exact Keeps.pure trivial
  have hempty : type = .text → payload = [] := by
    rintro rfl
    exact not_not.mp hframe
  apply Esp.Keeps.bind (Esp.Keeps.lift h.httpdOutcome)
  rintro (- | err) -
  · dsimp only
    split
    · next hpayload =>
      apply Esp.Keeps.bind (Esp.Keeps.lift h.malloc)
      rintro ok -
      split
      · exact Esp.Keeps.throw
      · apply Esp.Keeps.bind (Esp.Keeps.lift h.httpdOutcome)
        rintro (- | err) -
        · refine Esp.Keeps.lift (hprocess _ fun htype => ?_)
          exact absurd (hempty htype) (List.length_pos_iff.mp hpayload)
        · exact Esp.Keeps.throw
    · exact Esp.Keeps.lift (hprocess none fun _ => rfl)
  · exact Esp.Keeps.throw

theorem handle_keeps (h : EventInvariant I)
    (helsewhere : ∀ sessions openThread w, I w → I { w with board := { w.board with
      sessions := sessions
      openThread := openThread } })
    {input : Input E} (hinput : ¬input.IsMessage) : Keeps I (f.handle input) fun _ => True := by
  cases input with
  | frame frame fd => exact call_keeps (receiveAndHandleFrame_keeps h hinput)
  | client event fd => exact handleWebsocketClientEvent_keeps h event fd
  | event event =>
      cases event with
      | wifi event => exact handleWifiEvent_keeps h _ event
      | thread event => exact handleThreadEvent_keeps h _ event
  | chip event => exact handleChipDeviceEvent_keeps h event
  | attributeReport nodeId path data =>
      exact attributeDataReportCallback_keeps h f.reader nodeId path data
  | subscribeDone nodeId subscriptionId => exact subscribeDoneCallback_keeps h _ _
  | elsewhere sessions openThread => exact modifyBoard_keeps (helsewhere sessions openThread)

end Orchestrator.System
