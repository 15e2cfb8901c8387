import Mathlib.Logic.Relation
import Orchestrator.Lib.Utf8
import Orchestrator.Messages.Strings
import Orchestrator.Registry.Calm

/-!
# UTF-8 from messages to messages

A text frame has to be valid UTF-8. Messages that are valid lead to valid frames
unless a buffer cuts one of their texts inside a character.
-/

namespace Orchestrator.Messages

open Lib Handler Registry Server State Commands Alloc

variable {cfg : Config} {p : Platform} {w w' : World}

theorem texts_utf8 : Texts CStr.Utf8 where
  lit := CStr.utf8_lit
  take_decimal := CStr.utf8_take_decimal
  append _ _ := CStr.utf8_append

/-- No text of the command is cut inside a character: neither one that is stored, nor
that of the reply to an unknown action. -/
structure CutCleanly (cfg : Config) (p : Platform) (n : RegistryNvs) (envelope : Envelope) :
    Prop where
  stored : Stores n envelope.action envelope.payload →
    ∀ s ∈ storedTexts envelope.action envelope.payload, CutsCleanly 31 s.bytes
  unknown : ¬Handled cfg p envelope.action →
    CutsCleanly 127 (CStr.lit "Unsupported command action: " ++ envelope.action).bytes

/-- The texts stay valid if and only if they are cut cleanly. -/
theorem cutsKept_utf8_iff {n : RegistryNvs} {envelope : Envelope}
    (haction : envelope.action.Utf8) (hpayload : envelope.payload.AllStrings CStr.Utf8) :
    CutsKept CStr.Utf8 cfg p n envelope ↔ CutCleanly cfg p n envelope := by
  have htext := CStr.utf8_append (CStr.utf8_lit "Unsupported command action: ") haction
  constructor
  · rintro ⟨hstored, hunknown⟩
    constructor
    · exact fun h s hs =>
        (CStr.utf8_take_iff (of_mem_storedTexts hpayload hs) 31).mp (hstored h s hs)
    · exact fun h => (CStr.utf8_take_iff htext 127).mp (hunknown h)
  · rintro ⟨hstored, hunknown⟩
    constructor
    · exact fun h s hs =>
        (CStr.utf8_take_iff (of_mem_storedTexts hpayload hs) 31).mpr (hstored h s hs)
    · exact fun h => (CStr.utf8_take_iff htext 127).mpr (hunknown h)

/-! ## Runs -/

/-- The command of a message, if it has one, is cut cleanly. -/
def CleanMessage (cfg : Config) (p : Platform) (n : RegistryNvs) (text : CStr) : Prop :=
  ∀ envelope, checkEnvelope (p.cJSONParse text) = .ok envelope → CutCleanly cfg p n envelope

/-- A message in valid UTF-8 that meets the side condition, the snapshot for a new
client, a restart, or a change elsewhere that leaves valid strings. -/
inductive Traffic (cfg : Config) (p : Platform) (good : RegistryNvs → CStr → Prop) :
    World → World → Prop
  | message (w : World) (text : CStr) (fd : Int) (htext : text.Utf8)
      (hgood : good w.board.registry text) :
      Traffic cfg p good w ((handleJsonInboundMessage cfg p text fd).run w).2
  | connect (w : World) (fd : Int) :
      Traffic cfg p good w ((orchestratorStateSendSnapshotToClient fd).run w).2
  | restart (w : World) (persisted : Bool) :
      Traffic cfg p good w (deviceRegistryInit.run (w.restarted persisted)).2
  | elsewhere {w w' : World} (hregistry : w'.board.registry = w.board.registry)
      (houtbox : w'.board.outbox = w.board.outbox) (hstate : w'.board.state.Strings CStr.Utf8)
      (hopenThread : w'.board.openThread.Strings CStr.Utf8) : Traffic cfg p good w w'

theorem sendSnapshot_strings (fd : Int) :
    Esp.Keeps (fun w => w.board.Strings CStr.Utf8) (orchestratorStateSendSnapshotToClient fd)
      fun _ => True := by
  have hI := strings_unforeseen (P := CStr.Utf8)
  apply Esp.Keeps.bind (Esp.Keeps.lift
    (getBoard_keeps (Q := fun b => b.state.Strings CStr.Utf8) fun _ hw => hw.state))
  intro board hboard
  apply Esp.Keeps.bind (Esp.Keeps.lift (hI.allocate (snapshotMessage_built texts_utf8 hboard)))
  rintro (- | json) hjson
  · exact Esp.Keeps.throw
  · exact websocketSendMessageToClient_keeps hI.toUnforeseen
      fun _ hw => hw.queueWork (hjson json rfl).strings fd

theorem traffic_strings (hp : p.Strings CStr.Utf8) (hw : w.board.Strings CStr.Utf8)
    (step : Traffic cfg p (CleanMessage cfg p) w w') : w'.board.Strings CStr.Utf8 := by
  cases step with
  | message text fd htext hgood =>
      apply message_strings texts_utf8 hp htext hw
      intro envelope hcheck
      obtain ⟨-, haction, hpayload⟩ := (isCommand_of_ok hcheck).2.strings (P := CStr.Utf8)
        fun root hroot => hp.parse text root htext hroot
      exact (cutsKept_utf8_iff haction hpayload).mpr (hgood envelope hcheck)
  | connect fd => exact (sendSnapshot_strings fd w hw).1
  | restart persisted =>
      have hstore := (strings_commandInvariant texts_utf8 hp).toStoreInvariant
      have hstarted : (w.restarted persisted).board.Strings CStr.Utf8 :=
        { hw with registry := hw.registry.restarted persisted }
      exact (deviceRegistryInit_keeps hstore _ hstarted).1
  | elsewhere hregistry houtbox hstate hopenThread =>
      exact ⟨hregistry ▸ hw.registry, hstate, hopenThread, houtbox ▸ hw.outbox⟩

/-- As long as every message is cut cleanly, every frame has valid strings. -/
theorem frames_are_utf8 (cfg : Config) (p : Platform) (hp : p.Strings CStr.Utf8) {w w' : World}
    (hw : w.board.Strings CStr.Utf8)
    (run : Relation.ReflTransGen (Traffic cfg p (CleanMessage cfg p)) w w') :
    ∀ frame ∈ w'.board.outbox, frame.2.AllStrings CStr.Utf8 := by
  have hboard : w'.board.Strings CStr.Utf8 := by
    induction run with
    | refl => exact hw
    | tail _ step ih => exact traffic_strings hp ih step
  exact hboard.outbox

theorem strings_erased : Board.erased.Strings CStr.Utf8 where
  registry := ⟨nofun, nofun⟩
  state := ⟨CStr.utf8_lit "", CStr.utf8_lit "disabled"⟩
  openThread := ⟨nofun, nofun, nofun⟩
  outbox := nofun

theorem strings_oneClient : oneClient.Strings CStr.Utf8 := { strings_erased with }

theorem strings_parsing {P : CStr → Prop} (ht : Texts P) (text : String) {root : Json}
    (hroot : root.AllStrings P) : (Platform.parsing text root).Strings P where
  parse s r _ hr := by
    have hparse : (if s = CStr.lit text then some root else none) = some r := hr
    split at hparse
    · cases hparse
      exact hroot
    · cases hparse
  errorName _ := ht.lit _
  role _ := ht.lit _

/-- An action that nothing handles, with a character of two bytes behind 98 others. -/
def unknownAction : String :=
  "aaaaaaaaaaaaaaaaaaaaaaaaaaaaaaaaaaaaaaaaaaaaaaaaa" ++
  "aaaaaaaaaaaaaaaaaaaaaaaaaaaaaaaaaaaaaaaaaaaaaaaaa\u00e9"

def unknownActionText : String :=
  "\x7b\"type\":\"command\",\"request_id\":\"r1\",\"action\":\"" ++ unknownAction ++
  "\",\"payload\":\x7b\x7d\x7d"

def unknownActionRoot : Json :=
  .object
    [(CStr.lit "type", .string (CStr.lit "command")),
     (CStr.lit "request_id", .string (CStr.lit "r1")),
     (CStr.lit "action", .string (CStr.lit unknownAction)),
     (CStr.lit "payload", .object [])]

theorem strings_unknownActionRoot : unknownActionRoot.AllStrings CStr.Utf8 :=
  FieldStrings.object <| .cons (texts_utf8.lit _) (.string (texts_utf8.lit _)) <|
    .cons (texts_utf8.lit _) (.string (texts_utf8.lit _)) <|
    .cons (texts_utf8.lit _) (.string (texts_utf8.lit _)) <|
    .cons (texts_utf8.lit _) (FieldStrings.object .nil) .nil

/-- The message of the error in a reply. -/
def replyMessage (reply : Json) : Option CStr :=
  Json.string? ((member (some reply) "error").bind fun error =>
    error.getObjectItemCaseSensitive (CStr.lit "message"))

theorem of_replyMessage {P : CStr → Prop} {reply : Json} {message : CStr}
    (hreply : reply.AllStrings P) (h : replyMessage reply = some message) : P message := by
  unfold replyMessage Json.string? at h
  split at h
  · next s hitem =>
    cases h
    obtain ⟨error, herror, hmessage⟩ := Option.bind_eq_some_iff.mp hitem
    exact ((hreply.getObjectItemCaseSensitive herror).getObjectItemCaseSensitive
      hmessage).of_string
  · cases h

/-- The world after the unknown action. -/
def afterUnknownAction : World :=
  ((handleJsonInboundMessage Config.full (Platform.parsing unknownActionText unknownActionRoot)
    (CStr.lit unknownActionText) 1).run (World.calm oneClient)).2

/-- The reply to the unknown action ends inside its last character. -/
theorem unknownAction_not_utf8 :
    (Platform.parsing unknownActionText unknownActionRoot).Strings CStr.Utf8 ∧
      oneClient.Strings CStr.Utf8 ∧
      Traffic Config.full (Platform.parsing unknownActionText unknownActionRoot)
        (fun _ _ => True) (World.calm oneClient) afterUnknownAction ∧
      ¬∀ frame ∈ afterUnknownAction.board.outbox, frame.2.AllStrings CStr.Utf8 := by
  refine ⟨strings_parsing texts_utf8 _ strings_unknownActionRoot, strings_oneClient,
    .message _ _ 1 (CStr.utf8_lit _) trivial, ?_⟩
  intro hall
  have hcut : (afterUnknownAction.board.outbox.any fun frame =>
      (replyMessage frame.2).any fun message => !decide message.Utf8) = true := by decide +kernel
  obtain ⟨frame, hframe, hmessage⟩ := List.any_eq_true.mp hcut
  obtain ⟨message, hsome, hinvalid⟩ := (Option.any_eq_true _ _).mp hmessage
  have hvalid := of_replyMessage (hall frame hframe) hsome
  simp [hvalid] at hinvalid

/-- The id of an air duct, 41 bytes of which 31 are kept: the cut falls between two characters. -/
def ductId : String :=
  "a\u00e9\u00e9\u00e9\u00e9\u00e9\u00e9\u00e9\u00e9\u00e9\u00e9\u00e9\u00e9\u00e9\u00e9\u00e9" ++
  "\u00e9\u00e9\u00e9\u00e9\u00e9"

/-- It is added to the device with the vent. -/
def ductText : String :=
  "\x7b\"type\":\"command\",\"request_id\":\"r1\",\"action\":\"device.capability.add\"," ++
  "\"payload\":\x7b\"device_id\":\"node-7\",\"capability_id\":\"" ++ ductId ++ "\"," ++
  "\"semantic_type\":\"relay\",\"endpoint_id\":3,\"cluster_id\":6\x7d\x7d"

def ductEnvelope : Envelope where
  requestId := CStr.lit "r1"
  action := CStr.lit "device.capability.add"
  payload := .object
    [(CStr.lit "device_id", .string (CStr.lit "node-7")),
     (CStr.lit "capability_id", .string (CStr.lit ductId)),
     (CStr.lit "semantic_type", .string (CStr.lit "relay")),
     (CStr.lit "endpoint_id", .number 3),
     (CStr.lit "cluster_id", .number 6)]

def ductRoot : Json :=
  .object
    [(CStr.lit "type", .string (CStr.lit "command")),
     (CStr.lit "request_id", .string ductEnvelope.requestId),
     (CStr.lit "action", .string ductEnvelope.action),
     (CStr.lit "payload", ductEnvelope.payload)]

theorem strings_ductRoot : ductRoot.AllStrings CStr.Utf8 :=
  FieldStrings.object <| .cons (texts_utf8.lit _) (.string (texts_utf8.lit _)) <|
    .cons (texts_utf8.lit _) (.string (texts_utf8.lit _)) <|
    .cons (texts_utf8.lit _) (.string (texts_utf8.lit _)) <|
    .cons (texts_utf8.lit _) (FieldStrings.object <|
      .cons (texts_utf8.lit _) (.string (texts_utf8.lit _)) <|
      .cons (texts_utf8.lit _) (.string (texts_utf8.lit _)) <|
      .cons (texts_utf8.lit _) (.string (texts_utf8.lit _)) <|
      .cons (texts_utf8.lit _) (.number _) <| .cons (texts_utf8.lit _) (.number _) .nil) .nil

theorem cleanMessage_duct (n : RegistryNvs) :
    CleanMessage Config.full (Platform.parsing ductText ductRoot) n (CStr.lit ductText) := by
  intro envelope hcheck
  rw [Platform.cJSONParse_parsing] at hcheck
  have henvelope : checkEnvelope (some ductRoot) = .ok ductEnvelope := rfl
  obtain rfl := Except.ok.inj (henvelope.symm.trans hcheck)
  constructor
  · intro _
    decide +kernel
  · intro hhandled
    apply absurd _ hhandled
    exact ⟨("device.capability.add", addCapabilityCommand),
      mem_branches_of_device (by simp [deviceBranches]), rfl⟩

/-- The greenhouse is registered, and one client is connected. -/
def ventilated : Board :=
  { Board.erased.withStore (singleStore greenhouse) with
    running := true
    sessions := [(1, true)] }

theorem strings_ventilated : ventilated.Strings CStr.Utf8 := by
  have hstored : StoredStrings CStr.Utf8 (singleStore greenhouse) := by
    refine ⟨by decide, fun r hr => ?_⟩
    rw [devices_singleStore, List.mem_singleton] at hr
    subst hr
    refine ⟨by decide, by decide, by decide, by decide, fun c hc => ?_⟩
    have hutf8 : ∀ c ∈ greenhouse.capabilityList,
        c.capabilityId.toCStr.Utf8 ∧ c.label.toCStr.Utf8 := by decide
    exact ⟨(hutf8 c hc).1, (hutf8 c hc).2⟩
  refine { strings_erased with registry := ⟨fun bytes hbytes => ?_, nofun⟩ }
  obtain rfl := Option.some.inj hbytes
  rw [loadBlob_encode (accepted_singleStore (by decide))]
  exact hstored

/-- The world after the client has added the duct. -/
def afterDuct : World :=
  ((handleJsonInboundMessage Config.full (Platform.parsing ductText ductRoot)
    (CStr.lit ductText) 1).run (World.calm ventilated)).2

/-- The id that the last message tells of, in its payload. -/
def lastId (w : World) : Option CStr := do
  let frame ← w.board.outbox.getLast?
  let payload ← member (some frame.2) "payload"
  Json.string? (member (some payload) "capability_id")

theorem frames_are_utf8_duct :
    lastId afterDuct = some ((CStr.lit ductId).take 31) ∧
      ∀ frame ∈ afterDuct.board.outbox, frame.2.AllStrings CStr.Utf8 := by
  constructor
  · decide +kernel
  · exact frames_are_utf8 _ _ (strings_parsing texts_utf8 _ strings_ductRoot)
      strings_ventilated (.single (.message _ _ 1 (CStr.utf8_lit _) (cleanMessage_duct _)))

end Orchestrator.Messages
