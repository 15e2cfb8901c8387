import Orchestrator.Messages.Scripts
import Orchestrator.System.Operations

/-!
# What a run asks of the stacks

The Thread, Wi-Fi and Matter stacks are asked for something only by commands that frames
carry. The requests of a run are prefixes of the scripts of these commands, in their order.
-/

namespace Orchestrator.System

open Lib Handler Server State Commands Messages Events

variable {E : Type} {f : Firmware E} {w : World} {inputs : List (Input E)}
  {bytes : List UInt8} {fd : Int} {action : CStr} {payload : Json}

/-- Inputs and the requests that come of them. A command hands over a prefix of its script as
the board stands when it comes, and the whole of it where a reply says that it succeeded. -/
inductive Instructed (f : Firmware E) (w : World) : List (Input E) → List Request → Prop
  | start : Instructed f w [] []
  | command {inputs : List (Input E)} {requests made : List Request} {bytes : List UInt8}
      {fd : Int} {action : CStr} {payload : Json} (h : Instructed f w inputs requests)
      (hcarries : (Input.frame ⟨.text, bytes⟩ fd : Input E).Carries f action payload)
      (hmade : made <+: scriptOf f.config f.platform action payload (f.run inputs w).board)
      (hwhole : f.platform.ErrorNames → (f.run inputs w).allocs = allSucceed →
        Succeeds f bytes fd (f.run inputs w) →
        made = scriptOf f.config f.platform action payload (f.run inputs w).board) :
      Instructed f w (inputs ++ [.frame ⟨.text, bytes⟩ fd]) (requests ++ made)
  | other {inputs : List (Input E)} {requests : List Request} {input : Input E}
      (h : Instructed f w inputs requests)
      (hother : ∀ action payload, ¬input.Carries f action payload) :
      Instructed f w (inputs ++ [input]) requests

/-! ## One input -/

theorem exists_frame_of_carries {input : Input E} (h : input.Carries f action payload) :
    ∃ bytes fd, input = .frame ⟨.text, bytes⟩ fd := by
  unfold Input.Carries at h
  split at h
  · exact ⟨_, _, rfl⟩
  · exact h.elim

theorem handed_unforeseen (done : List Request) : UnforeseenNvs fun w => handed w = done :=
  unforeseen_board fun b => b.requests = done

theorem handed_eventInvariant (done : List Request) : EventInvariant fun w => handed w = done :=
  EventInvariant.of_queue (handed_unforeseen done) (fun _ _ _ h => h) (fun _ _ h => h)
    (fun _ _ h => h) fun _ h => h

/-- Without a message nothing is handed over. -/
theorem handed_handle {input : Input E} (h : ¬input.IsMessage) (w : World) :
    handed (f.handle input w).2 = handed w :=
  (handle_keeps (handed_eventInvariant (handed w)) (fun _ _ _ h => h) h w rfl).1

section Message

variable {envelope : Envelope} {text : CStr}

/-- A send hands nothing over. -/
theorem sendBuilt_handed {object : Alloc (Option Json)}
    (hobject : object.Always fun out => ∀ o ∈ out, Built (fun _ => True) o) (fd : Int)
    (w : World) : handed ((sendBuilt object fd).run w).2 = handed w :=
  (sendBuilt_keeps (handed_unforeseen (handed w)).toUnforeseen (fun _ _ _ _ h => h) hobject fd w
    rfl).1

theorem protocolError_handed (fd : Int) (error : ProtocolError) (w : World) :
    handed ((sendProtocolError fd error.code error.message).run w).2 = handed w :=
  sendBuilt_handed (protocolErrorObject_built texts_true _ _) fd w

/-- A message that is no command hands nothing over. -/
theorem handed_of_error {error : ProtocolError}
    (hcheck : checkEnvelope (f.platform.cJSONParse text) = .error error) (fd : Int) (w : World) :
    handed ((handleJsonInboundMessage f.config f.platform text fd).run w).2 = handed w :=
  (handleJsonInboundMessage_keeps (P := fun _ => True) texts_true
    (Platform.strings_any f.platform) (handed_unforeseen (handed w)).toUnforeseen
    (fun _ _ _ _ h => h) trivial (fun _ h => nomatch hcheck.symm.trans h) fd w rfl).1

/-- The requests of a message are a prefix of the script of its command. -/
theorem handed_of_command (hcheck : checkEnvelope (f.platform.cJSONParse text) = .ok envelope)
    (fd : Int) (w : World) :
    ∃ made, made <+: scriptOf f.config f.platform envelope.action envelope.payload w.board ∧
      handed ((handleJsonInboundMessage f.config f.platform text fd).run w).2 =
        handed w ++ made := by
  have hboard : Unforeseen fun u : World => u.board = w.board :=
    (unforeseen_board fun b => b = w.board).toUnforeseen
  obtain ⟨root, parsed, hparse⟩ : ∃ root parsed,
      allocate (cJSONParse f.platform text) w = (root, parsed) := ⟨_, _, rfl⟩
  have hkept := hboard.allocate (cJSONParse_always f.platform text) w rfl
  rw [hparse] at hkept
  obtain ⟨hsame, hroot⟩ : parsed.board = w.board ∧ _ := hkept
  unfold handleJsonInboundMessage
  rw [Esp.run_liftM_bind hparse]
  rcases hroot with rfl | rfl
  · obtain ⟨result, sending, hrun⟩ : ∃ result sending, processCommandMessage f.config f.platform
        envelope.action envelope.payload parsed = (result, sending) := ⟨_, _, rfl⟩
    have hstrings := processCommandMessage_strings_true f.config f.platform envelope.action
      envelope.payload parsed
    obtain ⟨made, hbegins, hmade, -⟩ := requests_of_command f.config f.platform envelope.action
      envelope.payload parsed
    rw [hrun] at hstrings hmade
    simp only [hcheck]
    rw [Esp.run_liftM_bind hrun]
    refine ⟨made, hsame ▸ hbegins, ?_⟩
    have hsend := sendBuilt_handed (commandResultObject_any f.platform envelope hstrings) fd
      sending
    calc handed _ = handed sending := hsend
      _ = handed parsed ++ made := hmade
      _ = handed w ++ made := by rw [handed, handed, hsame]
  · refine ⟨[], List.nil_prefix, ?_⟩
    have hsend := protocolError_handed fd ⟨"INVALID_JSON", "Message is not valid JSON"⟩ parsed
    calc handed _ = handed parsed := hsend
      _ = handed w ++ [] := by rw [handed, hsame, List.append_nil]; rfl

end Message

/-- The requests of a frame that carries a command. -/
theorem handed_of_carries
    (hcarries : (Input.frame ⟨.text, bytes⟩ fd : Input E).Carries f action payload) (w : World) :
    ∃ made, made <+: scriptOf f.config f.platform action payload w.board ∧
      handed (f.handle (.frame ⟨.text, bytes⟩ fd) w).2 = handed w ++ made ∧
      (f.platform.ErrorNames → w.allocs = allSucceed → Succeeds f bytes fd w →
        made = scriptOf f.config f.platform action payload w.board) := by
  obtain ⟨requestId, hcheck⟩ := id hcarries
  have hmade : ∃ made, made <+: scriptOf f.config f.platform action payload w.board ∧
      handed (f.handle (.frame ⟨.text, bytes⟩ fd) w).2 = handed w ++ made := by
    by_cases hbytes : bytes = []
    · have hnone : ¬(Input.frame ⟨.text, bytes⟩ fd : Input E).IsMessage := not_not_intro hbytes
      refine ⟨[], List.nil_prefix, ?_⟩
      rw [handed_handle hnone, List.append_nil]
    · rcases handle_message (f := f) (w := w) fd hbytes with ⟨heap, httpd, heq, -⟩ | heq
      · rw [heq]
        exact ⟨[], List.nil_prefix, (List.append_nil _).symm⟩
      · rw [heq]
        exact handed_of_command hcheck fd (received w)
  obtain ⟨made, hbegins, hhanded⟩ := hmade
  refine ⟨made, hbegins, hhanded, fun hnames hallocs hsucceeds => ?_⟩
  obtain ⟨hok, heq⟩ := command_of_succeeds hnames hallocs hcarries hsucceeds
  obtain ⟨whole, -, hwhole, hall⟩ := requests_of_command f.config f.platform action payload
    (received w)
  have hrequests : handed w ++ made = handed w ++ whole := by
    calc handed w ++ made = handed (f.handle (.frame ⟨.text, bytes⟩ fd) w).2 := hhanded.symm
      _ = handed (processCommandMessage f.config f.platform action payload (received w)).2 := by
          rw [heq]
          exact board_handleJsonInboundMessage (w := received w) Board.requests
            (fun _ _ _ => rfl) hallocs hcheck
      _ = handed w ++ whole := hwhole
  exact (List.append_cancel_left hrequests).trans (hall hok)

/-- An input that carries no command hands nothing over. -/
theorem handed_of_other {input : Input E}
    (h : ∀ action payload, ¬input.Carries f action payload) (w : World) :
    handed (f.handle input w).2 = handed w := by
  by_cases hmessage : input.IsMessage
  · obtain ⟨bytes, fd, rfl, hbytes⟩ := exists_frame_of_isMessage hmessage
    rcases handle_message (f := f) (w := w) fd hbytes with ⟨heap, httpd, heq, -⟩ | heq
    · rw [heq]
      rfl
    · rw [heq]
      cases hcheck : checkEnvelope (f.platform.cJSONParse (CStr.ofBytes bytes)) with
      | error error => exact handed_of_error hcheck fd (received w)
      | ok envelope =>
          exact absurd ⟨envelope.requestId, hcheck⟩ (h envelope.action envelope.payload)
  · exact handed_handle hmessage w

/-! ## Runs -/

/-- In every run from any world the stacks are asked for what the commands of its frames
script, in the order of the frames, and for nothing else. -/
theorem run_is_instructed (f : Firmware E) (inputs : List (Input E)) (w : World) :
    ∃ requests, Instructed f w inputs requests ∧
      handed (f.run inputs w) = handed w ++ requests := by
  induction inputs using List.reverseRecOn with
  | nil => exact ⟨[], .start, (List.append_nil _).symm⟩
  | append_singleton inputs input ih =>
      obtain ⟨requests, hinstructed, hhanded⟩ := ih
      rw [run_append]
      by_cases hother : ∀ action payload, ¬input.Carries f action payload
      · exact ⟨requests, .other hinstructed hother, (handed_of_other hother _).trans hhanded⟩
      · push Not at hother
        obtain ⟨action, payload, hcarries⟩ := hother
        obtain ⟨bytes, fd, rfl⟩ := exists_frame_of_carries hcarries
        obtain ⟨made, hbegins, hmade, hwhole⟩ := handed_of_carries hcarries (f.run inputs w)
        refine ⟨requests ++ made, .command hinstructed hcarries hbegins hwhole, ?_⟩
        rw [hmade, hhanded, List.append_assoc]

end Orchestrator.System
