import Orchestrator.Messages.Durable
import Orchestrator.Messages.Strings
import Orchestrator.System.Conversation

/-!
# Runs of the device as runs of its commands

As far as the registry goes, a run over frames and events is a run of the commands that its
frames carry: nothing else writes to flash.
-/

namespace Orchestrator.System

open Lib Handler Registry Server State Commands Messages Events

variable {E : Type} {f : Firmware E} {w start : World}

/-- The frame is a command message with this action and payload. -/
def Input.Carries (f : Firmware E) (action : CStr) (payload : Json) : Input E → Prop
  | .frame ⟨.text, bytes⟩ _ => ∃ requestId,
      checkEnvelope (f.platform.cJSONParse (CStr.ofBytes bytes)) = .ok ⟨requestId, action, payload⟩
  | _ => False

/-- The operation is a command that one of the inputs carries, or leaves the registry alone. -/
def Accounts (f : Firmware E) (inputs : List (Input E)) : Operation → Prop
  | .command action payload => ∃ input ∈ inputs, input.Carries f action payload
  | .restart _ => False
  | .elsewhere => True

/-- From one world to the other by such operations. -/
def Operates (f : Firmware E) (inputs : List (Input E)) : World → World → Prop :=
  Relation.ReflTransGen fun u v =>
    ∃ op, Occurs f.config f.platform op u v ∧ Accounts f inputs op

theorem Operates.elsewhere {inputs : List (Input E)} {u v : World} (h : Operates f inputs start u)
    (hregistry : v.board.registry = u.board.registry) : Operates f inputs start v :=
  h.tail ⟨.elsewhere, .elsewhere hregistry, trivial⟩

theorem Operates.mono {inputs more : List (Input E)} (hmore : inputs ⊆ more)
    (h : Operates f inputs start w) : Operates f more start w := by
  induction h with
  | refl => exact .refl
  | tail _ hstep ih =>
      obtain ⟨op, hoccurs, haccounts⟩ := hstep
      refine ih.tail ⟨op, hoccurs, ?_⟩
      cases op with
      | command action payload =>
          obtain ⟨input, hinput, hcarries⟩ := haccounts
          exact ⟨input, hmore hinput, hcarries⟩
      | restart persisted => exact haccounts
      | elsewhere => trivial

/-! ## One input -/

variable {inputs : List (Input E)}

theorem operates_unforeseen : UnforeseenNvs (Operates f inputs start) where
  allocs _ h := h.elsewhere rfl
  heap _ h := h.elsewhere rfl
  httpd _ h := h.elsewhere rfl
  stack _ h := h.elsewhere rfl
  nvs _ _ h := h.elsewhere rfl

theorem operates_eventInvariant : EventInvariant (Operates f inputs start) :=
  EventInvariant.of_queue operates_unforeseen (fun _ _ _ h => h.elsewhere rfl)
    (fun _ _ h => h.elsewhere rfl) (fun _ _ h => h.elsewhere rfl) fun _ h => h.elsewhere rfl

theorem Platform.strings_any (p : Platform) : p.Strings fun _ => True where
  parse _ root _ _ := Json.allStrings_of_forall (fun _ => trivial) root
  errorName _ := trivial
  role _ := trivial

/-- Any world will do where only the strings of a result matter. -/
theorem any_commandInvariant (p : Platform) :
    CommandInvariant p (fun _ => True) fun _ => True :=
  commandInvariant_of_running (unforeseen_board fun _ => True) (fun _ _ _ _ => trivial) p

theorem processCommandMessage_strings_true (cfg : Config) (p : Platform) (action : CStr)
    (payload : Json) (u : World) :
    (processCommandMessage cfg p action payload u).1.Strings fun _ => True := by
  by_cases hhandled : Handled cfg p action
  · exact ((processCommandMessage_handled (any_commandInvariant p) hhandled payload) u
      trivial).2.toStrings
  · rw [processCommandMessage_unhandled hhandled]
    exact unknownActionResult_strings trivial

theorem handleJsonInboundMessage_operates {bytes : List UInt8} {fd : Int}
    (hinput : .frame ⟨.text, bytes⟩ fd ∈ inputs) :
    Esp.Keeps (Operates f inputs start)
      (handleJsonInboundMessage f.config f.platform (CStr.ofBytes bytes) fd) fun _ => True := by
  refine handleJsonInboundMessage_keeps (P := fun _ => True) texts_true
    (Platform.strings_any f.platform) operates_unforeseen.toUnforeseen
    (fun _ _ _ _ h => h.elsewhere rfl) trivial ?_ fd
  intro envelope hcheck u hu
  refine ⟨hu.tail ⟨.command envelope.action envelope.payload, .command _ _ _, ?_⟩, ?_⟩
  · exact ⟨_, hinput, envelope.requestId, hcheck⟩
  · exact processCommandMessage_strings_true _ _ _ _ _

theorem handle_operates {input : Input E} (hinput : input ∈ inputs)
    (hw : Operates f inputs start w) : Operates f inputs start (f.handle input w).2 := by
  by_cases hmessage : input.IsMessage
  · obtain ⟨payload, fd, rfl, hpayload⟩ := exists_frame_of_isMessage hmessage
    rcases handle_message (f := f) (w := w) fd hpayload with ⟨heap, httpd, heq, -⟩ | heq
    · rw [heq]
      exact hw.elsewhere rfl
    · rw [heq]
      exact (handleJsonInboundMessage_operates hinput (received w) (hw.elsewhere rfl)).1
  · exact (handle_keeps operates_eventInvariant (fun _ _ _ h => h.elsewhere rfl) hmessage w hw).1

/-! ## Runs -/

theorem run_operates (f : Firmware E) (inputs : List (Input E)) (w : World) :
    Operates f inputs w (f.run inputs w) := by
  induction inputs using List.reverseRecOn with
  | nil => exact .refl
  | append_singleton inputs input ih =>
      rw [run_append]
      apply handle_operates (List.mem_append_right _ List.mem_cons_self)
      exact ih.mono (List.subset_append_left _ _)

/-- No input carries a command that writes the registry. -/
def ReadsOnly (f : Firmware E) (inputs : List (Input E)) : Prop :=
  ∀ name ∈ registryActions, ∀ payload, ∀ input ∈ inputs,
    ¬input.Carries f (CStr.lit name) payload

theorem Operates.registry_eq (hreads : ReadsOnly f inputs) (h : Operates f inputs start w) :
    w.board.registry = start.board.registry := by
  induction h with
  | refl => rfl
  | tail _ hstep ih =>
      obtain ⟨op, hoccurs, haccounts⟩ := hstep
      cases hoccurs with
      | command action payload u =>
          obtain ⟨input, hinput, hcarries⟩ := haccounts
          apply registry_of_read_command (fun n => n = start.board.registry) _ payload ih
          rintro name hname rfl
          exact hreads name hname payload input hinput hcarries
      | restart persisted => exact haccounts.elim
      | elsewhere h => exact h.trans ih

theorem Operates.regularFlash (hstart : RegularFlash start) (h : Operates f inputs start w) :
    RegularFlash w := by
  induction h with
  | refl => exact hstart
  | tail _ hstep ih =>
      obtain ⟨op, hoccurs, -⟩ := hstep
      exact regularFlash_occurs ih hoccurs

theorem run_of_append (f : Firmware E) (before after : List (Input E)) (w : World) :
    f.run (before ++ after) w = f.run after (f.run before w) :=
  List.foldl_append

def commandRoot (action : String) (payload : Json) : Json :=
  .object
    [(CStr.lit "type", .string (CStr.lit "command")),
     (CStr.lit "request_id", .string (CStr.lit "r1")),
     (CStr.lit "action", .string (CStr.lit action)),
     (CStr.lit "payload", payload)]

def commandText (action payload : String) : String :=
  "\x7b\"type\":\"command\",\"request_id\":\"r1\",\"action\":\"" ++ action ++
  "\",\"payload\":\x7b" ++ payload ++ "\x7d\x7d"

def pairingText : String :=
  commandText "matter.pair_ble_thread" ("\"node_id\":\"18446744073709551615\"," ++
    "\"setup_code\":\"20202021\",\"discriminator\":\"3840\"")

def relayText : String :=
  commandText "device.capability.add" ("\"device_id\":\"node-18446744073709551615\"," ++
    "\"capability_id\":\"heater\",\"semantic_type\":\"relay\"," ++
    "\"endpoint_id\":1,\"cluster_id\":6")

/-- These two texts are parsed. -/
def parseRelay (s : CStr) : Option Json :=
  if s = CStr.lit relayText then some (commandRoot "device.capability.add" relayPayload)
  else if s = CStr.lit pairingText then
    some (commandRoot "matter.pair_ble_thread" pairingPayload)
  else none

def relayFirmware : Firmware (Datum ⊕ List Datum) where
  config := Config.full
  platform := { Platform.parsing pairingText .null with cJSONParse := parseRelay }
  espIp4addrNtoa _ := CStr.lit "192.168.4.2"
  reader := datumReader

set_option maxRecDepth 4000 in
theorem checkEnvelope_relay :
    checkEnvelope (some (commandRoot "device.capability.add" relayPayload)) =
      .ok ⟨CStr.lit "r1", CStr.lit "device.capability.add", relayPayload⟩ := by
  rfl

def textFrame (text : String) : Input (Datum ⊕ List Datum) :=
  .frame ⟨.text, text.toByteArray.data.toList⟩ 1

theorem carries_textFrame {f : Firmware (Datum ⊕ List Datum)} {text : String} {e : Envelope}
    (h : checkEnvelope (f.platform.cJSONParse (CStr.lit text)) = .ok e) :
    (textFrame text).Carries f e.action e.payload := ⟨e.requestId, h⟩

/-- A client is connected to a border router with an empty registry. -/
def pairing : World :=
  World.calm { threadAttached with running := true, sessions := [(1, true)] }

/-- In every run from empty flash the registry loads and is regular, and only frames that
carry one of its own commands change it. -/
theorem registry_in_run (f : Firmware E) (hempty : EmptyRegistry start)
    (before after : List (Input E)) :
    (∃ s : RegistryStore, (f.run before start).board.registry.read = .ok s ∧ s.Regular) ∧
      (ReadsOnly f after →
        (f.run (before ++ after) start).board.registry = (f.run before start).board.registry) := by
  have hregular : RegularFlash (f.run before start) :=
    (run_operates f before start).regularFlash (regularFlash_of_empty hempty)
  obtain ⟨s, hread, hs, -⟩ := exists_read_of_regularFlash hregular
  refine ⟨⟨s, hread, hs⟩, fun hreads => ?_⟩
  rw [run_of_append]
  exact (run_operates f after _).registry_eq hreads

theorem readsOnly_event (event : Event) : ReadsOnly f [.event event] := by
  intro name _ payload input hinput
  rw [List.mem_singleton.mp hinput]
  exact id

theorem registry_in_run_pairing :
    (∃ s : RegistryStore, (relayFirmware.run [textFrame pairingText]
        pairing).board.registry.read = .ok s ∧ s.Regular) ∧
      (relayFirmware.run ([textFrame pairingText] ++ [.event (.wifi .staConnected)])
        pairing).board.registry =
      (relayFirmware.run [textFrame pairingText] pairing).board.registry := by
  have hempty : EmptyRegistry pairing := ⟨rfl, rfl⟩
  obtain ⟨hregular, hsame⟩ := registry_in_run relayFirmware hempty
    [textFrame pairingText] [.event (.wifi .staConnected)]
  exact ⟨hregular, hsame (readsOnly_event _)⟩

/-! ## What a reply acknowledges -/

variable {bytes : List UInt8} {fd : Int} {action : CStr} {payload : Json} {data : OperatorData}

theorem IsCommand.unique {root : Option Json} {e e' : Envelope} (h : IsCommand root e)
    (h' : IsCommand root e') : e = e' := by
  have hid := h.requestId.symm.trans h'.requestId
  have haction := h.action.symm.trans h'.action
  have hpayload := h.payload.symm.trans h'.payload
  simp only [Option.some.injEq, Json.string.injEq] at hid haction hpayload
  cases e
  cases e'
  simp_all

theorem commandResultObject_any (p : Platform) (envelope : Envelope)
    {result : CommandExecutionResult} (h : result.Strings fun _ => True) :
    (commandResultObject p envelope.requestId envelope.action result).Always
      fun out => ∀ o ∈ out, Built (fun _ => True) o :=
  commandResultObject_built texts_true (Platform.strings_any p) trivial trivial h

/-- Besides its command, a message changes nothing that is kept where a frame is queued. -/
theorem board_handleJsonInboundMessage {α : Type} (part : Board → α)
    (hqueue : ∀ fd message b, part (queueWork fd message b) = part b) {envelope : Envelope}
    {text : CStr} (hallocs : w.allocs = allSucceed)
    (hcheck : checkEnvelope (f.platform.cJSONParse text) = .ok envelope) :
    part ((handleJsonInboundMessage f.config f.platform text fd).run w).2.board =
      part (processCommandMessage f.config f.platform envelope.action
        envelope.payload w).2.board := by
  have hstrings := processCommandMessage_strings_true f.config f.platform envelope.action
    envelope.payload w
  obtain ⟨result, sending, hrun⟩ : ∃ result sending, processCommandMessage f.config f.platform
      envelope.action envelope.payload w = (result, sending) := ⟨_, _, rfl⟩
  rw [hrun] at hstrings ⊢
  unfold handleJsonInboundMessage
  rw [Esp.run_liftM_bind (allocate_eq hallocs (cJSONParse_yields f.platform text))]
  simp only [hcheck]
  rw [Esp.run_liftM_bind hrun]
  have hsend := sendBuilt_keeps (I := fun u => part u.board = part sending.board)
    (unforeseen_board fun b => part b = part sending.board).toUnforeseen
    (fun message _ fd u h => (hqueue fd message u.board).trans h)
    (commandResultObject_any f.platform envelope hstrings) fd
  exact (hsend sending rfl).1

/-- The device has replied to the frame that its command succeeded. -/
def Succeeds (f : Firmware E) (bytes : List UInt8) (fd : Int) (w : World) : Prop :=
  ∃ requestId action fields,
    replies (f.handle (.frame ⟨.text, bytes⟩ fd) w).2.board.outbox =
      replies w.board.outbox ++ [(fd, successTree requestId action fields)]

/-- A frame that is replied to has been received and handed to the message handler. -/
theorem handled_of_replied (hallocs : w.allocs = allSucceed)
    (hqueued : replies (f.handle (.frame ⟨.text, bytes⟩ fd) w).2.board.outbox ≠
      replies w.board.outbox) :
    bytes ≠ [] ∧ (f.handle (.frame ⟨.text, bytes⟩ fd) w).2 =
      ((handleJsonInboundMessage f.config f.platform (CStr.ofBytes bytes) fd).run
        (received w)).2 := by
  have hbytes : bytes ≠ [] := by
    intro hempty
    have hkept : Keeps (Replied (replies w.board.outbox))
        (f.handle (.frame ⟨.text, bytes⟩ fd)) fun _ => True := handle_replied (not_not_intro hempty)
    exact hqueued (hkept w ⟨hallocs, rfl⟩).1.replies
  rcases handle_message (f := f) (w := w) fd hbytes with ⟨heap, httpd, heq, -⟩ | heq
  · rw [heq] at hqueued
    exact absurd rfl hqueued
  · exact ⟨hbytes, heq⟩

/-- The success of a message is the success of its command. -/
theorem command_of_succeeds (hnames : f.platform.ErrorNames) (hallocs : w.allocs = allSucceed)
    (hcarries : (Input.frame ⟨.text, bytes⟩ fd : Input E).Carries f action payload)
    (hsucceeds : Succeeds f bytes fd w) :
    (processCommandMessage f.config f.platform action payload (received w)).1.err = .ok ⟨⟩ ∧
      (f.handle (.frame ⟨.text, bytes⟩ fd) w).2 =
        ((handleJsonInboundMessage f.config f.platform (CStr.ofBytes bytes) fd).run
          (received w)).2 := by
  obtain ⟨requestId, hcheck⟩ := hcarries
  obtain ⟨id, name, fields, hreply⟩ := hsucceeds
  have hqueued : replies (f.handle (.frame ⟨.text, bytes⟩ fd) w).2.board.outbox ≠
      replies w.board.outbox := by simp [hreply]
  obtain ⟨hbytes, heq⟩ := handled_of_replied hallocs hqueued
  rcases handle_message_replied fd hnames hbytes ⟨hallocs, rfl⟩ with
    ⟨hnone, -⟩ | ⟨reply, hanswer, hone⟩
  · exact absurd hnone.replies hqueued
  have hsame : reply = successTree id name fields := by
    simpa using List.append_cancel_left (hone.replies.symm.trans hreply)
  refine ⟨?_, heq⟩
  cases hanswer with
  | protocolError message h =>
      have htype : some (CStr.lit "error") = some (CStr.lit "command_result") :=
        congrArg messageType hsame
      exact absurd htype (by decide)
  | success h hcommand hhandled hok =>
      cases IsCommand.unique hcommand (isCommand_of_ok hcheck).2
      exact hok
  | failure h hcommand herr hcode hmessage hunknown =>
      have hok : some (Json.bool false) = some (Json.bool true) :=
        congrArg (fun message => member (some message) "ok") hsame
      cases hok

theorem acknowledges_of_succeeds (hnames : f.platform.ErrorNames)
    (hallocs : w.allocs = allSucceed)
    (hcarries : (Input.frame ⟨.text, bytes⟩ fd : Input E).Carries f action payload)
    (hsucceeds : Succeeds f bytes fd w) (hdata : storedData action payload = some data) :
    Acknowledges f.config f.platform action payload (received w) data ∧
      (f.handle (.frame ⟨.text, bytes⟩ fd) w).2.board.registry =
        (processCommandMessage f.config f.platform action payload
          (received w)).2.board.registry := by
  obtain ⟨hok, heq⟩ := command_of_succeeds hnames hallocs hcarries hsucceeds
  obtain ⟨requestId, hcheck⟩ := hcarries
  rw [heq]
  exact ⟨⟨hok, hdata⟩, board_handleJsonInboundMessage (w := received w)
    Board.registry (fun _ _ _ => rfl) hallocs hcheck⟩

/-- Where no send fails, a command that succeeds is replied to with success. -/
theorem succeeds_of_ok (hnames : f.platform.ErrorNames) (hallocs : w.allocs = allSucceed)
    (hsends : SendsSucceed w) (hbytes : bytes ≠ [])
    (hcarries : (Input.frame ⟨.text, bytes⟩ fd : Input E).Carries f action payload)
    (hok : (processCommandMessage f.config f.platform action payload (received w)).1.err = .ok ⟨⟩) :
    Succeeds f bytes fd w := by
  obtain ⟨requestId, hcheck⟩ := hcarries
  obtain ⟨hchecks, hcommand⟩ := isCommand_of_ok hcheck
  rcases handle_message_replied fd hnames hbytes ⟨hallocs, rfl⟩ with
    ⟨-, hfails⟩ | ⟨reply, hanswer, hone⟩
  · exact absurd hsends (hfails hsends.running).not_sendsSucceed
  cases hanswer with
  | protocolError message h => cases hchecks.symm.trans h
  | success => exact ⟨_, _, _, hone.replies⟩
  | failure h hother herr =>
      cases IsCommand.unique hother hcommand
      cases hok.symm.trans herr

theorem received_sendsSucceed (h : SendsSucceed w) : SendsSucceed (received w) :=
  sendsSucceed_unforeseen.heap _
    (sendsSucceed_unforeseen.httpd _ (sendsSucceed_unforeseen.httpd _ h))

theorem sendsSucceed_message (hnames : f.platform.ErrorNames) (hallocs : w.allocs = allSucceed)
    (hsends : SendsSucceed w) (hbytes : bytes ≠ []) :
    SendsSucceed (f.handle (.frame ⟨.text, bytes⟩ fd) w).2 := by
  rcases handle_message (f := f) (w := w) fd hbytes with ⟨heap, httpd, -, hfails⟩ | heq
  · exact absurd hsends hfails.not_sendsSucceed
  obtain ⟨reply, sending, -, hrun, -, -, hkept⟩ :=
    handleJsonInboundMessage_run (w := received w) f.config hnames (CStr.ofBytes bytes) fd hallocs
  have hsending := hkept _ (sendsSucceed_commandInvariant f.platform)
    (received_sendsSucceed hsends)
  rw [heq, hrun, websocketSendMessageToClient_succeeds hsending]
  exact { hsending with }

/-- No input carries a command that ends or overwrites the data. -/
def Spares (f : Firmware E) (inputs : List (Input E)) (data : OperatorData) : Prop :=
  ∀ action payload, ∀ input ∈ inputs, input.Carries f action payload →
    ¬data.EndedBy (.command action payload) ∧
      ∀ u, ¬data.OverwrittenBy u (.command action payload)

theorem Operates.dataFlash (hcut : data.Cut) (hspares : Spares f inputs data)
    (hstart : DataFlash data start) (h : Operates f inputs start w) : DataFlash data w := by
  induction h with
  | refl => exact hstart
  | tail _ hstep ih =>
      obtain ⟨op, hoccurs, haccounts⟩ := hstep
      cases op with
      | command action payload =>
          obtain ⟨input, hinput, hcarries⟩ := haccounts
          obtain ⟨hended, hover⟩ := hspares action payload input hinput hcarries
          exact dataFlash_step hcut ih hoccurs hended (hover _)
      | restart persisted => exact haccounts.elim
      | elsewhere =>
          refine dataFlash_step hcut ih hoccurs (fun h => ?_) fun h => ?_
          · cases data <;> exact h
          · cases h

/-- What a reply has acknowledged is returned after every further run whose frames carry no
command that ends or overwrites it. -/
theorem acknowledged_data_kept_in_run (f : Firmware E) (hnames : f.platform.ErrorNames)
    (hallocs : start.allocs = allSucceed) (hempty : EmptyRegistry start)
    (before after : List (Input E))
    (hcarries : (Input.frame ⟨.text, bytes⟩ fd : Input E).Carries f action payload)
    (hsucceeds : Succeeds f bytes fd (f.run before start))
    (hdata : storedData action payload = some data) (hspares : Spares f after data) :
    data.Returned f.config f.platform
      (f.run (before ++ .frame ⟨.text, bytes⟩ fd :: after) start).board := by
  have hregular : RegularFlash (f.run before start) :=
    (run_operates f before start).regularFlash (regularFlash_of_empty hempty)
  obtain ⟨rs, -, hreplied⟩ := exists_conversation f hnames before start hallocs
  obtain ⟨hack, hregistry⟩ :=
    acknowledges_of_succeeds hnames hreplied.allocs hcarries hsucceeds hdata
  obtain ⟨hheld, hcut⟩ :=
    dataFlash_of_acknowledges (w := received (f.run before start)) hregular hack
  have hstart : DataFlash data (f.handle (.frame ⟨.text, bytes⟩ fd) (f.run before start)).2 :=
    ⟨hregistry ▸ hheld.blobs, hregistry ▸ hheld.stored⟩
  rw [run_of_append]
  exact returned_of_dataFlash ((run_operates f after _).dataFlash hcut hspares hstart)

/-- The relay of a paired node is returned after the access point has reported a station. -/
theorem acknowledged_data_kept_in_run_relay :
    relayData.Returned relayFirmware.config relayFirmware.platform
      (relayFirmware.run ([textFrame pairingText] ++ textFrame relayText ::
        [.event (.wifi .staConnected)]) pairing).board := by
  have hnames : relayFirmware.platform.ErrorNames :=
    ⟨(Platform.errorNames_parsing pairingText .null).nonempty,
      (Platform.errorNames_parsing pairingText .null).ne_unknown⟩
  have hparse : parseRelay (CStr.lit relayText) =
      some (commandRoot "device.capability.add" relayPayload) := if_pos rfl
  have hplatform : relayFirmware.platform.cJSONParse = parseRelay := rfl
  have hcheck : checkEnvelope (relayFirmware.platform.cJSONParse (CStr.lit relayText)) =
      .ok ⟨CStr.lit "r1", CStr.lit "device.capability.add", relayPayload⟩ := by
    rw [hplatform, hparse]
    exact checkEnvelope_relay
  have hcarries := carries_textFrame hcheck
  have hnonempty : ∀ text ∈ [pairingText, relayText], text.toByteArray.data.toList ≠ [] := by
    decide +kernel
  have hstart : SendsSucceed pairing := ⟨rfl, rfl, rfl⟩
  have hpaired : SendsSucceed (relayFirmware.handle (textFrame pairingText) pairing).2 :=
    sendsSucceed_message hnames rfl hstart (hnonempty pairingText (by simp))
  obtain ⟨rs, -, hreplied⟩ :=
    exists_conversation relayFirmware hnames [textFrame pairingText] pairing rfl
  apply acknowledged_data_kept_in_run relayFirmware hnames rfl ⟨rfl, rfl⟩ _ _ hcarries
  · apply succeeds_of_ok hnames hreplied.allocs hpaired (hnonempty _ (by simp)) hcarries
    decide +kernel
  · rfl
  · intro action payload input hinput hcarries
    obtain rfl := List.mem_singleton.mp hinput
    exact hcarries.elim

end Orchestrator.System
