import Orchestrator.Secrets.Messages
import Orchestrator.System.Device

/-!
# No frame tells a secret

Two runs of the device that differ in secrets only, those it starts with and those it is
sent meanwhile, queue the same frames in the same order.
-/

namespace Orchestrator.Messages

open Lib Handler Registry State Server Alloc

theorem broadcastMessage_blind (type action : String) (payload : Json) :
    (broadcastMessage type action payload).Blind := by
  refine Esp.Blind.getBoard (fun _ => rfl) fun b => ?_
  split
  · exact Esp.Blind.pure _
  · refine (Esp.Blind.lift (allocate_blind _)).bind fun json => ?_
    cases json with
    | none => exact Esp.Blind.throw _
    | some json => exact websocketBroadcastMessage_blind json

theorem broadcastPayload_blind (type action : String) (payload : Alloc (Option Json)) :
    (broadcastPayload type action payload).Blind := by
  refine (Esp.Blind.lift (allocate_blind payload)).bind fun payload => ?_
  cases payload with
  | none => exact Esp.Blind.throw _
  | some payload => exact broadcastMessage_blind type action payload

theorem attributeReportMessage_blind (report : AttributeReport) :
    (broadcastInfoMatterAttributeReportMessage report).Blind := by
  refine (Esp.Blind.lift (allocate_blind _)).bind fun payload => ?_
  cases payload with
  | none => exact Esp.Blind.throw _
  | some payload =>
      refine Esp.Blind.bind ?_ fun found => ?_
      · refine Esp.Blind.tryCatch ?_ fun _ => Esp.Blind.pure _
        exact (deviceRegistryFindCapabilityByPath_blind _ _ _ _).bind fun _ => Esp.Blind.pure _
      · exact (Esp.Blind.lift (allocate_blind _)).bind fun _ => broadcastMessage_blind _ _ _

end Orchestrator.Messages

namespace Orchestrator.Events

open Lib Handler Server State Messages Commands

variable {p : Platform} {espIp4addrNtoa : UInt32 → CStr}

theorem call_blind {α : Type} {m : Esp α} (hm : m.Blind) : Blind (call m) :=
  hm.run.bind fun _ => Blind.pure _

theorem setState_blind (set : OrchestratorState → OrchestratorState) : Blind (setState set) :=
  modifyBoard_blind fun _ => rfl

/-! ## The server -/

theorem websocketServerClientCount_blind : Blind websocketServerClientCount := by
  refine getBoard_blind (fun _ => rfl) fun b => ?_
  split
  · exact Blind.pure _
  · refine httpdOutcome_blind.bind fun outcome => ?_
    cases outcome with
    | none => exact Blind.pure _
    | some err => exact Blind.pure _

theorem clientsPayload_blind : Blind clientsPayload := by
  refine (allocate_blind _).bind fun payload => ?_
  cases payload with
  | none => exact Blind.pure _
  | some payload =>
      exact websocketServerClientCount_blind.bind fun _ =>
        (allocate_blind _).bind fun _ => Blind.pure _

theorem handleWebsocketClientEvent_blind (event : WsClientEvent) (fd : Int) :
    Blind (handleWebsocketClientEvent event fd) := by
  refine websocketServerClientCount_blind.bind fun count => ?_
  refine (setState_blind _).bind fun _ => ?_
  cases event with
  | connected =>
      exact (call_blind (sendSnapshotToClient_blind fd)).bind fun _ =>
        clientsPayload_blind.bind fun _ => call_blind (broadcastEvent_blind _ _)
  | disconnected =>
      exact clientsPayload_blind.bind fun _ =>
        (call_blind (broadcastEvent_blind _ _)).bind fun _ => call_blind broadcastSnapshot_blind

theorem closeSessions_blind (sessions : List (Int × Bool)) : Blind (closeSessions sessions) := by
  induction sessions with
  | nil => exact Blind.pure _
  | cons session sessions ih =>
      exact (handleWebsocketClientEvent_blind _ _).bind fun _ => ih

theorem websocketServerStart_blind : websocketServerStart.Blind := by
  refine Esp.Blind.getBoard (fun _ => rfl) fun b => ?_
  split
  · exact Esp.Blind.pure _
  · refine (Esp.Blind.lift httpdOutcome_blind).bind fun outcome => ?_
    cases outcome with
    | none => exact Esp.Blind.lift (modifyBoard_blind fun _ => rfl)
    | some err => exact Esp.Blind.throw err

theorem websocketServerStop_blind : websocketServerStop.Blind := by
  refine Esp.Blind.getBoard (fun _ => rfl) fun b => ?_
  split
  · exact Esp.Blind.pure _
  · refine Esp.Blind.bind (Esp.Blind.lift (modifyBoard_blind fun _ => rfl)) fun _ => ?_
    refine (Esp.Blind.lift (closeSessions_blind b.sessions)).bind fun _ => ?_
    refine Esp.Blind.bind (Esp.Blind.lift (modifyBoard_blind fun _ => rfl)) fun _ => ?_
    refine (Esp.Blind.lift httpdOutcome_blind).bind fun outcome => ?_
    cases outcome with
    | none => exact Esp.Blind.pure _
    | some err => exact Esp.Blind.throw err

/-! ## Events -/

theorem announce_blind (set : OrchestratorState → OrchestratorState) (event : String)
    {m : Esp Unit} (hm : m.Blind) : Blind (announce set event m) :=
  (setState_blind set).bind fun _ => (call_blind (broadcastEvent_blind _ _)).bind fun _ =>
    (call_blind hm).bind fun _ => call_blind broadcastSnapshot_blind

theorem handleWifiEvent_blind (event : WifiEvent) :
    Blind (handleWifiEvent espIp4addrNtoa event) := by
  cases event with
  | staGotIp ip => exact announce_blind _ _ (broadcastPayload_blind _ _ _)
  | staConnected => exact announce_blind _ _ (broadcastPayload_blind _ _ _)
  | staDisconnected => exact announce_blind _ _ (broadcastPayload_blind _ _ _)
  | apStart => exact announce_blind _ _ websocketServerStart_blind
  | apStop => exact announce_blind _ _ websocketServerStop_blind
  | staLostIp | otherIpEvent | staStart | apStaConnected | apStaDisconnected | other =>
      exact Blind.pure _

theorem whenOk_blind {α : Type} {m : Esp α} {k : α → Handler Unit} (hm : m.Blind)
    (hk : ∀ a, Blind (k a)) : Blind (whenOk m k) := by
  refine hm.run.bind fun r => ?_
  cases r with
  | ok a => exact hk a
  | error err => exact Blind.pure _

/-- What is told about a dataset does not depend on its keys. -/
theorem activeDatasetMessage_hidden (dataset : OperationalDataset) :
    broadcastInfoActiveDatasetMessage dataset.hidden =
      broadcastInfoActiveDatasetMessage dataset := rfl

theorem datasetChanged_blind : Blind (handleThreadEvent p .datasetChanged) := by
  refine Related.bind threadGetActiveDataset_alike fun r r' hr => ?_
  cases hr with
  | error err => exact Blind.pure _
  | ok h =>
      next d d' =>
      dsimp only
      rw [← activeDatasetMessage_hidden d, ← activeDatasetMessage_hidden d', h]
      exact announce_blind _ _ (broadcastPayload_blind _ _ _)

theorem handleThreadEvent_blind (event : ThreadEvent) : Blind (handleThreadEvent p event) := by
  cases event with
  | start => exact announce_blind _ _ (broadcastPayload_blind _ _ _)
  | stop => exact announce_blind _ _ (broadcastPayload_blind _ _ _)
  | ifUp | ifDown | publishMeshcopE | removeMeshcopE =>
      exact call_blind (broadcastPayload_blind _ _ _)
  | attached => exact announce_blind _ _ (broadcastPayload_blind _ _ _)
  | detached => exact announce_blind _ _ (broadcastPayload_blind _ _ _)
  | roleChanged =>
      refine whenOk_blind (threadGetDeviceRoleString_blind p) fun role => ?_
      exact (setState_blind _).bind fun _ => (allocate_blind _).bind fun _ =>
        (call_blind (broadcastEvent_blind _ _)).bind fun _ =>
          (call_blind (broadcastPayload_blind _ _ _)).bind fun _ =>
            call_blind broadcastSnapshot_blind
  | gotIp6 | lostIp6 =>
      exact whenOk_blind threadGetUnicastAddresses_blind fun _ =>
        call_blind (broadcastPayload_blind _ _ _)
  | multicastGroupJoin | multicastGroupLeave =>
      exact whenOk_blind threadGetMulticastAddresses_blind fun _ =>
        call_blind (broadcastPayload_blind _ _ _)
  | datasetChanged => exact datasetChanged_blind
  | other => exact Blind.pure _

theorem attributeDataReportCallback_blind {E : Type} (reader : TlvReader E) (nodeId : UInt64)
    (path : AttributePath) (data : E) :
    Blind (attributeDataReportCallback reader nodeId path data) := by
  unfold attributeDataReportCallback
  split
  · exact Blind.pure _
  · exact call_blind (attributeReportMessage_blind _)

end Orchestrator.Events

namespace Orchestrator.System

open Lib Handler Server State Messages Commands Events

variable {E : Type} {f : Firmware E}

/-! ## Frames and runs -/

theorem processFrame_blind (type : FrameType) (payload : Option CStr) (fd : Int) :
    Blind (processFrame f.handlers type payload fd) := by
  cases type with
  | text =>
      refine Blind.bind ?_ fun _ => Blind.pure _
      cases payload with
      | none => exact (Esp.Blind.throw _).run
      | some text =>
          exact Esp.Blind.run (handleJsonInboundMessage_related (messagesAlike_refl _) fd)
  | ping => exact httpdOutcome_blind.bind fun _ => Blind.pure _
  | pong => exact Blind.pure _
  | close => exact handleWebsocketClientEvent_blind .disconnected fd
  | other => exact Blind.pure _

/-- Frames that are received alike, up to what is then processed. -/
theorem receiveAndHandleFrame_related {frame frame' : HttpdWsFrame} {fd : Int}
    (hlength : frame.payload.length > 0 ↔ frame'.payload.length > 0)
    (hempty : ¬frame.payload.length > 0 → frame.type = frame'.type)
    (hprocess : Related Alike
      (processFrame f.handlers frame.type (some (CStr.ofBytes (frame.payload ++ [0]))) fd)
      (processFrame f.handlers frame'.type (some (CStr.ofBytes (frame'.payload ++ [0]))) fd) Eq) :
    Esp.Related (receiveAndHandleFrame f.handlers frame fd)
      (receiveAndHandleFrame f.handlers frame' fd) Eq := by
  refine Esp.Related.bind (Esp.Related.lift httpdOutcome_blind) ?_
  rintro (- | err) _ rfl
  · dsimp only
    by_cases hpayload : frame.payload.length > 0
    · rw [if_pos hpayload, if_pos (hlength.mp hpayload)]
      refine Esp.Related.bind (Esp.Related.lift malloc_blind) ?_
      rintro ok _ rfl
      split
      · exact Esp.Related.throw _
      · refine Esp.Related.bind (Esp.Related.lift httpdOutcome_blind) ?_
        rintro (- | err) _ rfl
        · exact Esp.Related.lift hprocess
        · exact Esp.Related.throw err
    · rw [if_neg hpayload, if_neg (hpayload ∘ hlength.mpr), hempty hpayload]
      exact Esp.Blind.lift (processFrame_blind _ _ _)
  · exact Esp.Related.throw err

/-- Two inputs that differ in secrets only: in those of a command, or in those of OpenThread. -/
inductive InputsAlike (f : Firmware E) : Input E → Input E → Prop
  | same (input : Input E) : InputsAlike f input input
  | text {payload payload' : List UInt8} (fd : Int) (hpayload : payload ≠ [])
      (hpayload' : payload' ≠ [])
      (h : MessagesAlike (f.platform.cJSONParse (CStr.ofBytes payload))
        (f.platform.cJSONParse (CStr.ofBytes payload'))) :
      InputsAlike f (.frame ⟨.text, payload⟩ fd) (.frame ⟨.text, payload'⟩ fd)
  | openThread (sessions : List (Int × Bool)) {openThread openThread' : OpenThread}
      (h : openThread.hidden = openThread'.hidden) :
      InputsAlike f (.elsewhere sessions openThread) (.elsewhere sessions openThread')

theorem handle_blind (input : Input E) : Blind (f.handle input) := by
  cases input with
  | frame frame fd =>
      exact call_blind (receiveAndHandleFrame_related Iff.rfl (fun _ => rfl)
        (processFrame_blind _ _ _))
  | client event fd => exact handleWebsocketClientEvent_blind event fd
  | event event =>
      cases event with
      | wifi event => exact handleWifiEvent_blind event
      | thread event => exact handleThreadEvent_blind event
  | chip event =>
      cases event with
      | commissioningComplete nodeId fabricIndex =>
          exact call_blind (broadcastPayload_blind _ _ _)
      | other => exact Blind.pure _
  | attributeReport nodeId path data =>
      exact attributeDataReportCallback_blind f.reader nodeId path data
  | subscribeDone nodeId subscriptionId => exact call_blind (broadcastPayload_blind _ _ _)
  | elsewhere sessions openThread =>
      exact modifyBoard_related fun b b' hb =>
        congrArg (fun b : Board => { b with
          sessions := sessions
          openThread := openThread.hidden }) hb

theorem handle_related {input input' : Input E} (h : InputsAlike f input input') :
    Related Alike (f.handle input) (f.handle input') Eq := by
  cases h with
  | same => exact handle_blind input
  | @text payload payload' fd hpayload hpayload' h =>
      have hlength : payload.length > 0 ↔ payload'.length > 0 :=
        iff_of_true (List.length_pos_iff.mpr hpayload) (List.length_pos_iff.mpr hpayload')
      have hrun : Esp.Related (receiveAndHandleFrame f.handlers ⟨.text, payload⟩ fd)
          (receiveAndHandleFrame f.handlers ⟨.text, payload'⟩ fd) Eq := by
        refine receiveAndHandleFrame_related hlength (fun _ => rfl) ?_
        dsimp only
        rw [ofBytes_append_zero, ofBytes_append_zero]
        exact Related.bind (handleJsonInboundMessage_related h fd) fun _ _ _ => Related.pure rfl
      exact Related.bind hrun fun _ _ _ => Related.pure rfl
  | @openThread sessions openThread openThread' h =>
      exact modifyBoard_related fun b b' hb =>
        congrArg₂ (fun (b : Board) (o : OpenThread) => { b with
          sessions := sessions
          openThread := o }) hb h

/-- Runs that differ in secrets only lead to worlds that differ in secrets only. -/
theorem run_alike {inputs inputs' : List (Input E)}
    (h : List.Forall₂ (InputsAlike f) inputs inputs') {w w' : World} (hw : Alike w w') :
    Alike (f.run inputs w) (f.run inputs' w') :=
  Related.foldl (f := f.handle) (g := f.handle) (fun _ _ hinputs => handle_related hinputs) h hw

/-- Two runs that differ only in the passwords and keys that are stored, and in those that
clients and OpenThread provide on the way, queue the same frames in the same order and hand
over the same requests, but for the secrets in these. -/
theorem frames_tell_no_secrets (f : Firmware E) {inputs inputs' : List (Input E)} {w w' : World}
    (h : List.Forall₂ (InputsAlike f) inputs inputs') (hw : Alike w w') :
    (f.run inputs w).board.outbox = (f.run inputs' w').board.outbox ∧
      (f.run inputs w).board.requests.map Request.hidden =
        (f.run inputs' w').board.requests.map Request.hidden ∧
      (f.run inputs w).board.registry = (f.run inputs' w').board.registry := by
  have halike := run_alike h hw
  refine ⟨halike.result (f := fun v => v.board.outbox) fun _ => rfl, ?_, ?_⟩
  · exact congrArg (fun v : World => v.board.requests) halike
  · exact halike.result (f := fun v => v.board.registry) fun _ => rfl

/-- A message that connects the station. -/
def staConnectText (password : String) : String :=
  "\x7b\"type\":\"command\",\"request_id\":\"r1\",\"action\":\"wifi.sta_connect\"," ++
  "\"payload\":\x7b\"ssid\":\"home\",\"password\":\"" ++ password ++ "\"\x7d\x7d"

def staConnectRoot (password : String) : Json :=
  .object
    [(CStr.lit "type", .string (CStr.lit "command")),
     (CStr.lit "request_id", .string (CStr.lit "r1")),
     (CStr.lit "action", .string (CStr.lit "wifi.sta_connect")),
     (CStr.lit "payload", .object
       [(CStr.lit "ssid", .string (CStr.lit "home")),
        (CStr.lit "password", .string (CStr.lit password))])]

def staConnectFrame (password : String) : Input (Datum ⊕ List Datum) :=
  .frame ⟨.text, (staConnectText password).toByteArray.data.toList⟩ 1

/-- The messages with these two passwords are parsed. -/
def parseStaConnect (s : CStr) : Option Json :=
  if s = CStr.lit (staConnectText "alpha") then some (staConnectRoot "alpha")
  else if s = CStr.lit (staConnectText "bravo!") then some (staConnectRoot "bravo!")
  else none

def twoPasswords : Firmware (Datum ⊕ List Datum) where
  config := Config.full
  platform :=
    { Platform.parsing (staConnectText "alpha") (staConnectRoot "alpha") with
      cJSONParse := parseStaConnect }
  espIp4addrNtoa _ := CStr.lit "192.168.4.2"
  reader := datumReader

/-- A board with this password in flash and this key in the active dataset. -/
def storing (password : String) (key : UInt8) : Board :=
  { Messages.oneClient with
    wifi := { Messages.oneClient.wifi with staPassword := some (CStr.lit password) }
    openThread := { Messages.oneClient.openThread with
      instanceExists := true
      activeDataset := some
        { activeTimestamp := 1
          networkName := CStr.lit "mesh"
          extendedPanId := Vector.replicate 8 1
          meshLocalPrefix := Vector.replicate 8 2
          networkKey := Vector.replicate 16 key
          pskc := Vector.replicate 16 key
          panId := 3
          channel := 15 } } }

set_option maxRecDepth 4000 in
theorem checkEnvelope_staConnect (password : String) :
    checkEnvelope (some (staConnectRoot password)) = .ok
      { requestId := CStr.lit "r1"
        action := CStr.lit "wifi.sta_connect"
        payload := .object
          [(CStr.lit "ssid", .string (CStr.lit "home")),
           (CStr.lit "password", .string (CStr.lit password))] } := by
  rfl

theorem frames_tell_no_secrets_storing :
    (twoPasswords.run [staConnectFrame "alpha", .event (.thread .datasetChanged)]
        (World.calm (storing "old" 1))).board.outbox =
      (twoPasswords.run [staConnectFrame "bravo!", .event (.thread .datasetChanged)]
        (World.calm (storing "older" 2))).board.outbox := by
  have hne : CStr.lit (staConnectText "bravo!") ≠ CStr.lit (staConnectText "alpha") := by
    decide +kernel
  have hparse : parseStaConnect (CStr.lit (staConnectText "alpha")) =
      some (staConnectRoot "alpha") := if_pos rfl
  have hparse' : parseStaConnect (CStr.lit (staConnectText "bravo!")) =
      some (staConnectRoot "bravo!") := (if_neg hne).trans (if_pos rfl)
  have hmessages : MessagesAlike (parseStaConnect (CStr.lit (staConnectText "alpha")))
      (parseStaConnect (CStr.lit (staConnectText "bravo!"))) := by
    rw [hparse, hparse']
    exact .command (checkEnvelope_staConnect "alpha") (checkEnvelope_staConnect "bravo!")
      (.staConnect (by decide) (by decide))
  have hinput : InputsAlike twoPasswords (staConnectFrame "alpha") (staConnectFrame "bravo!") := by
    refine .text 1 ?_ ?_ hmessages
    · decide +kernel
    · decide +kernel
  have hworlds : Alike (World.calm (storing "old" 1)) (World.calm (storing "older" 2)) := rfl
  have hinputs : List.Forall₂ (InputsAlike twoPasswords)
      [staConnectFrame "alpha", .event (.thread .datasetChanged)]
      [staConnectFrame "bravo!", .event (.thread .datasetChanged)] :=
    .cons hinput (.cons (.same _) .nil)
  exact (frames_tell_no_secrets twoPasswords hinputs hworlds).1

end Orchestrator.System
