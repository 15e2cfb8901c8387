import Orchestrator.Messages.Directory
import Orchestrator.System.Boot
import Orchestrator.System.Operations

/-!
# The device as a directory of devices

What its clients see of the device is a directory, for as long as the device lives: each
command that is answered with success is answered from the directory that the commands before
it have left. The loss of power takes nothing from it but flash that has to be erased; a
command that has failed may then turn out to have been carried out.
-/

namespace Orchestrator.System

open Lib Handler Registry Server State Commands Messages Events

variable {E : Type} {f : Firmware E} {options : BootOptions} {life : Life} {w : World} {c : Flash}

/-- The directory in the life of a device: the replies that have been queued, and what is left
in flash. A command is answered with failure only where flash fails or the directory has no
answer. One whose reply is lost, because one of the calls for it fails, may have changed the
directory. -/
inductive Served (f : Firmware E) (options : BootOptions) (life : Life) (c : Flash) :
    List (Happening E) → List (Int × Json) → Flash → Prop
  | start : Served f options life c [] [] c
  | success {past : List (Happening E)} {rs : List (Int × Json)} {c₁ c₂ : Flash}
      {bytes : List UInt8} {fd : Int} {envelope : Envelope} {members : List (CStr × Json)}
      (h : Served f options life c past rs c₁)
      (hcheck : checkEnvelope (f.platform.cJSONParse (CStr.ofBytes bytes)) = .ok envelope)
      (hanswered : Answered (FlashWorks (f.live options past life).world) c₁ envelope.payload
        envelope.action members c₂) :
      Served f options life c (past ++ [.input (.frame ⟨.text, bytes⟩ fd)])
        (rs ++ [(fd, successTree envelope.requestId envelope.action members)]) c₂
  | failure {past : List (Happening E)} {rs : List (Int × Json)} {c₁ c₂ : Flash}
      {bytes : List UInt8} {fd : Int} {envelope : Envelope} {code message : CStr}
      (h : Served f options life c past rs c₁)
      (hcheck : checkEnvelope (f.platform.cJSONParse (CStr.ofBytes bytes)) = .ok envelope)
      (hfails : FailsFrom c₁ envelope.payload envelope.action c₂)
      (hrefused : FlashWorks (f.live options past life).world →
        Unanswerable c₁ envelope.payload envelope.action) :
      Served f options life c (past ++ [.input (.frame ⟨.text, bytes⟩ fd)])
        (rs ++ [(fd, failureTree envelope.requestId envelope.action code message)]) c₂
  | refusal {past : List (Happening E)} {rs : List (Int × Json)} {c₁ : Flash}
      {bytes : List UInt8} {fd : Int} {error : ProtocolError}
      (h : Served f options life c past rs c₁)
      (hcheck : checkEnvelope (f.platform.cJSONParse (CStr.ofBytes bytes)) = .error error) :
      Served f options life c (past ++ [.input (.frame ⟨.text, bytes⟩ fd)])
        (rs ++ [(fd, errorTree (CStr.lit error.code) (CStr.lit error.message))]) c₁
  | lost {past : List (Happening E)} {rs : List (Int × Json)} {c₁ c₂ : Flash}
      {bytes : List UInt8} {fd : Int} {envelope : Envelope}
      (h : Served f options life c past rs c₁)
      (hcheck : checkEnvelope (f.platform.cJSONParse (CStr.ofBytes bytes)) = .ok envelope)
      (hended : (∃ members, Answered (FlashWorks (f.live options past life).world) c₁
          envelope.payload envelope.action members c₂) ∨
        FailsFrom c₁ envelope.payload envelope.action c₂)
      (hlost : Unsent (f.live options past life).world
        (f.live options (past ++ [.input (.frame ⟨.text, bytes⟩ fd)]) life).world) :
      Served f options life c (past ++ [.input (.frame ⟨.text, bytes⟩ fd)]) rs c₂
  | silence {past : List (Happening E)} {rs : List (Int × Json)} {c₁ : Flash}
      {input : Input E} (h : Served f options life c past rs c₁)
      (hsilent : input.IsMessage → (f.live options past life).up = true →
        Unsent (f.live options past life).world
          (f.live options (past ++ [.input input]) life).world) :
      Served f options life c (past ++ [.input input]) rs c₁
  | powerCycle {past : List (Happening E)} {rs : List (Int × Json)} {c₁ : Flash} {m : DeviceMap}
      {persisted : Bool} (h : Served f options life c past rs c₁)
      (hm : m = c₁.directory ∨ persisted = true ∧ c₁.pending = some m ∨
        FlashErased (f.live options past life).world ∧ m = BoundedMap.empty) :
      Served f options life c (past ++ [.powerCycle persisted]) rs ⟨m, none⟩

/-! ## Replies -/

section Message

variable {cfg : Config} {p : Platform} {text : CStr} {envelope : Envelope}

theorem payloadOrEmpty_members {result : CommandExecutionResult} {P : CStr → Prop}
    (h : result.Strings P) :
    (payloadOrEmpty result.payload).Yields (some (.object result.members)) := by
  unfold CommandExecutionResult.members
  cases hpayload : result.payload with
  | none => exact cJSONCreateObject_yields
  | some out =>
      have hobject := (h.payload out hpayload).isObject
      cases out with
      | object members => exact Keeps.pure rfl
      | null | bool _ | number _ | string _ | array _ => cases hobject

theorem processCommandMessage_keepsAny (cfg : Config) {J : World → Prop}
    (hJ : CommandInvariant p (fun _ => True) J) (action : CStr) (payload : Json) :
    Keeps J (processCommandMessage cfg p action payload)
      (CommandExecutionResult.Strings fun _ => True) := by
  by_cases hhandled : Handled cfg p action
  · exact (processCommandMessage_handled hJ hhandled payload).weaken fun _ h => h.toStrings
  · rw [processCommandMessage_unhandled hhandled]
    exact Keeps.pure (unknownActionResult_strings trivial)

/-- The reply that is built of a result. -/
inductive ReplyTo (envelope : Envelope) (result : CommandExecutionResult) : Json → Prop
  | success (hok : result.err = .ok ⟨⟩) :
      ReplyTo envelope result (successTree envelope.requestId envelope.action result.members)
  | failure {err : EspErr} (code message : CStr) (herr : result.err = .error err) :
      ReplyTo envelope result (failureTree envelope.requestId envelope.action code message)

theorem ReplyTo.isReply {result : CommandExecutionResult} {reply : Json}
    (h : ReplyTo envelope result reply) : IsReply reply := by
  cases h with
  | success | failure => exact .inr rfl

theorem exists_replyTo (p : Platform) (envelope : Envelope) {result : CommandExecutionResult}
    (h : result.Strings fun _ => True) : ∃ reply, ReplyTo envelope result reply ∧
      (commandResultObject p envelope.requestId envelope.action result).Yields (some reply) := by
  cases herr : result.err with
  | ok _ =>
      exact ⟨_, .success herr, commandResultObject_success p _ _ herr (payloadOrEmpty_members h)⟩
  | error err => exact ⟨_, .failure _ _ herr, commandResultObject_failure p _ _ herr⟩

theorem onlyBroadcasts_self (hallocs : w.allocs = allSucceed) :
    OnlyBroadcasts w.board.outbox w :=
  ⟨hallocs, [], (List.append_nil _).symm, fun _ h => absurd h List.not_mem_nil⟩

/-- A command message ends with the transmission of the reply to its result. -/
theorem handleJsonInboundMessage_command {result : CommandExecutionResult} {sending : World}
    (fd : Int) (hallocs : w.allocs = allSucceed)
    (hcheck : checkEnvelope (p.cJSONParse text) = .ok envelope)
    (hrun : processCommandMessage cfg p envelope.action envelope.payload w = (result, sending)) :
    OnlyBroadcasts w.board.outbox sending ∧ ∃ reply, ReplyTo envelope result reply ∧
      (handleJsonInboundMessage cfg p text fd).run w =
        (websocketSendMessageToClient fd reply).run sending := by
  have hprocess := processCommandMessage_keepsAny cfg (onlyBroadcasts_commandInvariant p)
    envelope.action envelope.payload w (onlyBroadcasts_self hallocs)
  rw [hrun] at hprocess
  obtain ⟨hkept, hstrings⟩ := hprocess
  obtain ⟨reply, hreply, hbuilt⟩ := exists_replyTo p envelope hstrings
  refine ⟨hkept, reply, hreply, ?_⟩
  unfold handleJsonInboundMessage
  rw [Esp.run_liftM_bind (allocate_eq hallocs (cJSONParse_yields p text))]
  simp only [hcheck]
  rw [Esp.run_liftM_bind hrun]
  exact sendBuilt_run hkept.1 hbuilt fd

theorem handleJsonInboundMessage_refusal {error : ProtocolError} (fd : Int)
    (hallocs : w.allocs = allSucceed)
    (hcheck : checkEnvelope (p.cJSONParse text) = .error error) :
    (handleJsonInboundMessage cfg p text fd).run w =
      (websocketSendMessageToClient fd
        (errorTree (CStr.lit error.code) (CStr.lit error.message))).run w := by
  unfold handleJsonInboundMessage
  rw [Esp.run_liftM_bind (allocate_eq hallocs (cJSONParse_yields p text))]
  simp only [hcheck]
  exact sendBuilt_run hallocs (protocolErrorObject_yields _ _) fd

end Message

/-! ## One input -/

variable {rs : List (Int × Json)} {past : List (Happening E)} {bytes : List UInt8} {fd : Int}

/-- What has happened may have led to this world: the replies have been queued, and this is in
flash. -/
def Serving (f : Firmware E) (options : BootOptions) (life : Life) (c : Flash)
    (past : List (Happening E)) (u : World) : Prop :=
  ∃ rs c', Served f options life c past rs c' ∧
    Stands (replies life.world.board.outbox ++ rs) c' u

theorem inFlash_unforeseen (c : Flash) : UnforeseenNvs fun w => InFlash c w.board.registry :=
  unforeseen_board fun b => InFlash c b.registry

theorem flashWorks_received {u : World} (h : FlashWorks u) : FlashWorks (received u) where
  heap := (congrArg Stream'.tail h.heap).trans (Stream'.tail_const true)
  nvs := h.nvs

/-- An input that is no message changes no device and has no reply. -/
theorem handle_stands {input : Input E} (h : ¬input.IsMessage) (hw : Stands rs c w) :
    Stands rs c (f.handle input w).2 where
  toReplied := (handle_replied h w hw.toReplied).1
  flash := (handle_keeps (EventInvariant.of_queue (inFlash_unforeseen c) (fun _ _ _ h => h)
    (fun _ _ h => h) (fun _ _ h => h) fun _ h => h) (fun _ _ _ h => h) h w hw.flash).1

theorem send_inFlash {u : World} (fd : Int) (reply : Json) (hu : InFlash c u.board.registry) :
    InFlash c ((websocketSendMessageToClient fd reply).run u).2.board.registry :=
  (websocketSendMessageToClient_keeps (inFlash_unforeseen c).toUnforeseen (fun _ h => h) u hu).1

/-- A message that is no command is refused, and changes no device. -/
theorem serving_refusal {error : ProtocolError}
    (h : Serving f options life c past (f.live options past life).world)
    (hcheck : checkEnvelope (f.platform.cJSONParse (CStr.ofBytes bytes)) = .error error)
    (hlive : (f.live options (past ++ [.input (.frame ⟨.text, bytes⟩ fd)]) life).world =
      ((handleJsonInboundMessage f.config f.platform (CStr.ofBytes bytes) fd).run
        (received (f.live options past life).world)).2) :
    Serving f options life c (past ++ [.input (.frame ⟨.text, bytes⟩ fd)])
      ((handleJsonInboundMessage f.config f.platform (CStr.ofBytes bytes) fd).run
        (received (f.live options past life).world)).2 := by
  obtain ⟨rs, c₁, hserved, hstands⟩ := h
  let u := received (f.live options past life).world
  have hflash : InFlash c₁ u.board.registry := hstands.flash
  rw [handleJsonInboundMessage_refusal (w := u) fd hstands.allocs hcheck] at hlive ⊢
  have hkept := send_inFlash fd (errorTree (CStr.lit error.code) (CStr.lit error.message)) hflash
  have hreply : IsReply (errorTree (CStr.lit error.code) (CStr.lit error.message)) := .inl rfl
  rcases send_replied fd hstands.toReplied (onlyBroadcasts_self (w := u) hstands.allocs) hreply
    (since_received (f.live options past life).world) with ⟨hlost, hfails⟩ | hsent
  · exact ⟨rs, c₁, .silence hserved fun _ _ => hlive ▸ hfails, { hlost with flash := hkept }⟩
  · rw [List.append_assoc] at hsent
    exact ⟨_, c₁, .refusal hserved hcheck, { hsent with flash := hkept }⟩

/-- A command does on the directory what its reply says. -/
theorem serving_command {envelope : Envelope}
    (h : Serving f options life c past (f.live options past life).world)
    (hcheck : checkEnvelope (f.platform.cJSONParse (CStr.ofBytes bytes)) = .ok envelope)
    (hlive : (f.live options (past ++ [.input (.frame ⟨.text, bytes⟩ fd)]) life).world =
      ((handleJsonInboundMessage f.config f.platform (CStr.ofBytes bytes) fd).run
        (received (f.live options past life).world)).2) :
    Serving f options life c (past ++ [.input (.frame ⟨.text, bytes⟩ fd)])
      ((handleJsonInboundMessage f.config f.platform (CStr.ofBytes bytes) fd).run
        (received (f.live options past life).world)).2 := by
  obtain ⟨rs, c₁, hserved, hstands⟩ := h
  let u := received (f.live options past life).world
  obtain ⟨result, sending, hrun⟩ : ∃ result sending, processCommandMessage f.config f.platform
      envelope.action envelope.payload u = (result, sending) := ⟨_, _, rfl⟩
  have hperforms := processCommandMessage_answered (c := c₁) (w := u) f.config f.platform
    envelope.action envelope.payload hstands.allocs hstands.flash
  have hsince := (processCommandMessage_keepsAny f.config
    (since_commandInvariant (f.live options past life).world f.platform) envelope.action
    envelope.payload u (since_received _)).1
  rw [hrun] at hperforms hsince
  obtain ⟨honly, reply, hreply, hsend⟩ := handleJsonInboundMessage_command (w := u) fd
    hstands.allocs hcheck hrun
  rw [hsend] at hlive ⊢
  have hqueued := send_replied fd hstands.toReplied honly hreply.isReply hsince
  rw [List.append_assoc] at hqueued
  cases hreply with
  | success hok =>
      obtain ⟨-, c₂, hanswered, hc₂⟩ | ⟨⟨err, herr⟩, -⟩ := hperforms
      · have hkept := send_inFlash fd
          (successTree envelope.requestId envelope.action result.members) hc₂
        rcases hqueued with ⟨hlost, hfails⟩ | hsent
        · exact ⟨rs, c₂, .lost hserved hcheck (.inl ⟨_, hanswered.mono flashWorks_received⟩)
            (hlive ▸ hfails), { hlost with flash := hkept }⟩
        · exact ⟨_, c₂, .success hserved hcheck (hanswered.mono flashWorks_received),
            { hsent with flash := hkept }⟩
      · cases hok.symm.trans herr
  | failure code message herr =>
      obtain ⟨hok, -⟩ | ⟨-, ⟨c₂, hattempted, hc₂⟩, hrefused⟩ := hperforms
      · cases hok.symm.trans herr
      · have hkept := send_inFlash fd
          (failureTree envelope.requestId envelope.action code message) hc₂
        rcases hqueued with ⟨hlost, hfails⟩ | hsent
        · exact ⟨rs, c₂, .lost hserved hcheck (.inr hattempted) (hlive ▸ hfails),
            { hlost with flash := hkept }⟩
        · exact ⟨_, c₂, .failure hserved hcheck hattempted fun hworks =>
            hrefused (flashWorks_received hworks), { hsent with flash := hkept }⟩

theorem serving_input (input : Input E)
    (h : Serving f options life c past (f.live options past life).world)
    (hlive : (f.live options (past ++ [.input input]) life).world =
      (f.handle input (f.live options past life).world).2) :
    Serving f options life c (past ++ [.input input])
      (f.handle input (f.live options past life).world).2 := by
  by_cases hmessage : input.IsMessage
  · obtain ⟨bytes, fd, rfl, hbytes⟩ := exists_frame_of_isMessage hmessage
    rcases handle_message (f := f) (w := (f.live options past life).world) fd hbytes with
      ⟨heap, httpd, heq, hfails⟩ | heq
    · obtain ⟨rs, c₁, hserved, hstands⟩ := h
      refine ⟨rs, c₁, .silence hserved fun _ _ _ => hlive ▸ hfails, ?_⟩
      rw [heq]
      exact { hstands with }
    · rw [heq] at hlive ⊢
      cases hcheck : checkEnvelope (f.platform.cJSONParse (CStr.ofBytes bytes)) with
      | error error => exact serving_refusal h hcheck hlive
      | ok envelope => exact serving_command h hcheck hlive
  · obtain ⟨rs, c₁, hserved, hstands⟩ := h
    exact ⟨rs, c₁, .silence hserved fun hyes => absurd hyes hmessage,
      handle_stands hmessage hstands⟩

theorem serving_happen (happening : Happening E)
    (h : Serving f options life c past (f.live options past life).world) :
    Serving f options life c (past ++ [happening])
      (f.happen options (f.live options past life) happening).world := by
  cases happening with
  | input input =>
      have hlive := congrArg Life.world (f.live_append options past (.input input) life)
      unfold Firmware.happen at hlive ⊢
      dsimp only at hlive ⊢
      split
      · next hup => exact serving_input input h (by rw [hlive, if_pos hup])
      · next hdown =>
        obtain ⟨rs, c₁, hserved, hstands⟩ := h
        exact ⟨rs, c₁, .silence hserved fun _ hup => absurd hup hdown, hstands⟩
  | powerCycle persisted =>
      obtain ⟨rs, c₁, hserved, hstands⟩ := h
      obtain ⟨m, hm, hcycled⟩ := happen_powerCycle f options persisted hstands
      exact ⟨rs, ⟨m, none⟩, .powerCycle hserved hm, hcycled⟩

/-! ## A whole life -/

/-- From a directory in flash on, while cJSON has memory: whatever else fails, and however often
power does, the replies are those of the directory, and flash holds what they leave. -/
theorem life_is_served (f : Firmware E) (options : BootOptions) (happenings : List (Happening E))
    (life : Life) (c : Flash) (hallocs : life.world.allocs = allSucceed)
    (hflash : InFlash c life.world.board.registry) :
    ∃ rs c', Served f options life c happenings rs c' ∧
      replies (f.live options happenings life).world.board.outbox =
        replies life.world.board.outbox ++ rs ∧
      InFlash c' (f.live options happenings life).world.board.registry := by
  have hserving : Serving f options life c happenings (f.live options happenings life).world := by
    induction happenings using List.reverseRecOn with
    | nil =>
        refine ⟨[], c, .start, ?_⟩
        exact
          { allocs := hallocs
            replies := (List.append_nil _).symm
            flash := hflash }
    | append_singleton past happening ih =>
        rw [Firmware.live_append]
        exact serving_happen happening ih
  obtain ⟨rs, c', hserved, hstands⟩ := hserving
  exact ⟨rs, c', hserved, hstands.replies, hstands.flash⟩

def bootOptions : BootOptions where
  enableWifiAp := true
  wifiApSsidDefault := CStr.lit "orchestrator"
  wifiApPassDefault := CStr.lit "orchestrator"

/-- A node is paired, and power fails. -/
def pairedAndCycled : List (Happening (Datum ⊕ List Datum)) :=
  [.input (textFrame pairingText), .powerCycle false]

/-- The directory with the greenhouse. -/
def garden : DeviceMap := ⟨[greenhouse], List.nodup_singleton _, by decide⟩

/-- The greenhouse is registered, and a client is connected. -/
def gardenLife : Life where
  world := World.calm { threadAttached.withStore (singleStore greenhouse) with
    running := true
    sessions := [(1, true)] }
  up := true

theorem represents_singleStore {r : DeviceRecord} {m : DeviceMap} (hr : r.Proper)
    (hm : m.entries = [r]) : Represents (singleStore r) m where
  version := rfl
  count := Nat.le_of_ble_eq_true rfl
  devices := (devices_singleStore r).trans hm.symm
  proper r' hr' := by
    rw [hm] at hr'
    exact List.mem_singleton.mp hr' ▸ hr

theorem inFlash_gardenLife : InFlash ⟨garden, none⟩ gardenLife.world.board.registry :=
  inFlash_of_committed (represents_singleStore proper_greenhouse rfl)
    (read_withStore (b := threadAttached) (accepted_singleStore (by decide))) rfl

/-- From the greenhouse on, over the message that pairs a node and a power cycle. -/
theorem life_is_served_garden :
    ∃ rs c', Served relayFirmware bootOptions gardenLife ⟨garden, none⟩ pairedAndCycled rs c' ∧
      replies (relayFirmware.live bootOptions pairedAndCycled gardenLife).world.board.outbox =
        replies gardenLife.world.board.outbox ++ rs ∧
      InFlash c'
        (relayFirmware.live bootOptions pairedAndCycled gardenLife).world.board.registry :=
  life_is_served relayFirmware bootOptions pairedAndCycled gardenLife ⟨garden, none⟩ rfl
    inFlash_gardenLife

end Orchestrator.System
