import Orchestrator.Server.Lifecycle

/-!
# When every keep-alive call has a live handle

A start that comes up without a keep-alive instance calls
`wss_keep_alive_set_user_ctx` with the null handle, and a stop clears the handle
before the sessions it then closes remove themselves. These are the only two
ways in which a call is made without a live instance.
-/

namespace Orchestrator.Server

open Lib WebsocketServer

/-- Every call so far was made with the handle of an instance that had not been
told to stop. -/
def CallsValid : List LogEntry → Prop
  | [] => True
  | .call _ handle :: earlier =>
      (∃ h, handle = some h ∧ .told h ∉ earlier) ∧ CallsValid earlier
  | .told _ :: earlier => CallsValid earlier
  | .clientEvent _ _ :: earlier => CallsValid earlier
  | .message _ :: earlier => CallsValid earlier

/-- A start that brings the server up gets a keep-alive instance, and a running
server is stopped only when no session is open. -/
def keepsHandle (s : WebsocketServer) : Label → Prop
  | .start (some handlers) keepAliveStarts (.ok ()) =>
      s.server = false → handlers.messageHandler = true → keepAliveStarts = true
  | .start _ _ _ => True
  | .stop _ => s.server = true → s.sessions = []
  | .accept _ => True
  | .connect _ => True
  | .frame _ _ => True
  | .close _ => True

instance (s : WebsocketServer) (l : Label) : Decidable (keepsHandle s l) := by
  unfold keepsHandle
  split <;> infer_instance

theorem CallsValid.of_suffix {earlier log : List LogEntry} (hvalid : CallsValid log)
    (hsuffix : earlier <:+ log) : CallsValid earlier := by
  induction log with
  | nil =>
      rw [List.suffix_nil] at hsuffix
      exact hsuffix ▸ hvalid
  | cons entry log ih =>
      rcases List.suffix_cons_iff.mp hsuffix with heq | htail
      · exact heq ▸ hvalid
      · apply ih _ htail
        cases entry with
        | call function handle => exact hvalid.2
        | told h => exact hvalid
        | clientEvent event session => exact hvalid
        | message session => exact hvalid

/-! ## The log only grows -/

theorem suffix_emit (s : WebsocketServer) (entry : LogEntry) :
    s.log <:+ (s.emit entry).log :=
  List.suffix_cons entry s.log

theorem suffix_callKeepAlive (s : WebsocketServer) (function : KeepAliveFunction) :
    s.log <:+ (s.callKeepAlive function).log :=
  suffix_emit s _

theorem suffix_notifyClient (s : WebsocketServer) (event : WsClientEvent)
    (session : Session) : s.log <:+ (s.notifyClient event session).log := by
  unfold notifyClient
  split
  · exact suffix_emit s _
  · exact List.suffix_rfl

@[simp] theorem server_notifyClient (s : WebsocketServer) (event : WsClientEvent)
    (session : Session) : (s.notifyClient event session).server = s.server := by
  unfold notifyClient
  split <;> rfl

theorem suffix_onClientClose (s : WebsocketServer) (session : Session) :
    (s.callKeepAlive .removeClient).log <:+ (s.onClientClose session).log :=
  suffix_notifyClient _ _ _

theorem suffix_foldl_onClientClose (sessions : List Session) (s : WebsocketServer) :
    s.log <:+ (sessions.foldl onClientClose s).log := by
  induction sessions generalizing s with
  | nil => exact List.suffix_rfl
  | cons session sessions ih =>
      have hclose : s.log <:+ (s.onClientClose session).log :=
        (suffix_callKeepAlive s _).trans (suffix_onClientClose s session)
      exact hclose.trans (ih _)

theorem suffix_stopKeepAlive (s : WebsocketServer) : s.log <:+ s.stopKeepAlive.log := by
  unfold stopKeepAlive
  split
  · exact suffix_emit s _
  · exact List.suffix_rfl

theorem suffix_processFrame (s : WebsocketServer) (type : FrameType) (session : Session) :
    s.log <:+ (s.processFrame type session).log := by
  cases type with
  | text =>
      unfold processFrame
      dsimp only
      split
      · exact (suffix_callKeepAlive s _).trans (suffix_emit _ _)
      · exact suffix_emit s _
  | ping => exact suffix_callKeepAlive s _
  | pong => exact suffix_callKeepAlive s _
  | close => exact (suffix_callKeepAlive s _).trans (suffix_notifyClient _ _ _)
  | other => exact List.suffix_rfl

/-- A start changes nothing, or fails and stops the instance it made, or brings
the server up. -/
theorem websocketServerStart_cases (s : WebsocketServer)
    (handlers : Option WebsocketServerHandlers) (keepAliveStarts : Bool)
    (httpdSslStart : EspResult Unit) :
    (s.websocketServerStart handlers keepAliveStarts httpdSslStart).2 = s ∨
      (∃ h, s.server = false ∧
        (s.websocketServerStart handlers keepAliveStarts httpdSslStart).2 =
          ((s.installHandlers h).startKeepAlive keepAliveStarts).stopKeepAlive) ∨
      (∃ h, s.server = false ∧ handlers = some h ∧ h.messageHandler = true ∧
        httpdSslStart = .ok () ∧
        (s.websocketServerStart handlers keepAliveStarts httpdSslStart).2 =
          (((s.installHandlers h).startKeepAlive keepAliveStarts).setServer
            true).callKeepAlive .setUserCtx) := by
  unfold websocketServerStart
  split
  · exact .inl rfl
  · next hserver =>
    have hserver : s.server = false := by simpa using hserver
    cases handlers with
    | none => exact .inl rfl
    | some h =>
        dsimp only
        split
        · exact .inl rfl
        · next hmessage =>
          have hmessage : h.messageHandler = true := by simpa using hmessage
          cases httpdSslStart with
          | error ret => exact .inr (.inl ⟨h, hserver, rfl⟩)
          | ok _ => exact .inr (.inr ⟨h, hserver, rfl, hmessage, rfl, rfl⟩)

@[simp] theorem log_installHandlers (s : WebsocketServer)
    (handlers : WebsocketServerHandlers) : (s.installHandlers handlers).log = s.log := rfl

@[simp] theorem log_setServer (s : WebsocketServer) (running : Bool) :
    (s.setServer running).log = s.log := rfl

@[simp] theorem log_startKeepAlive (s : WebsocketServer) (starts : Bool) :
    (s.startKeepAlive starts).log = s.log := by
  cases starts <;> rfl

theorem suffix_websocketServerStart (s : WebsocketServer)
    (handlers : Option WebsocketServerHandlers) (keepAliveStarts : Bool)
    (httpdSslStart : EspResult Unit) :
    s.log <:+ (s.websocketServerStart handlers keepAliveStarts httpdSslStart).2.log := by
  rcases websocketServerStart_cases s handlers keepAliveStarts httpdSslStart with
    h | ⟨hs, -, h⟩ | ⟨hs, -, -, -, -, h⟩
  · exact h.symm ▸ List.suffix_rfl
  · have hstop := suffix_stopKeepAlive ((s.installHandlers hs).startKeepAlive keepAliveStarts)
    rw [h]
    simpa using hstop
  · have hcall := suffix_callKeepAlive
      (((s.installHandlers hs).startKeepAlive keepAliveStarts).setServer true) .setUserCtx
    rw [h]
    simpa using hcall

theorem suffix_websocketServerStop (s : WebsocketServer) (ret : EspResult Unit) :
    s.log <:+ (s.websocketServerStop ret).2.log := by
  unfold websocketServerStop
  split
  · exact List.suffix_rfl
  · exact (suffix_stopKeepAlive (s.setServer false)).trans (suffix_foldl_onClientClose _ _)

theorem suffix_of_step {s u : WebsocketServer} {l : Label} (hstep : step s l = some u) :
    s.log <:+ u.log := by
  cases l with
  | start handlers keepAliveStarts httpdSslStart =>
      obtain rfl := Option.some.inj hstep
      exact suffix_websocketServerStart s _ _ _
  | stop ret =>
      obtain rfl := Option.some.inj hstep
      exact suffix_websocketServerStop s ret
  | accept fd =>
      obtain ⟨-, hu⟩ := Option.ite_none_right_eq_some.mp hstep
      obtain rfl := Option.some.inj hu
      exact List.suffix_rfl
  | connect session =>
      obtain ⟨-, hu⟩ := Option.ite_none_right_eq_some.mp hstep
      obtain rfl := Option.some.inj hu
      exact (suffix_callKeepAlive s _).trans (suffix_notifyClient _ _ _)
  | frame type session =>
      obtain ⟨-, hu⟩ := Option.ite_none_right_eq_some.mp hstep
      obtain rfl := Option.some.inj hu
      exact suffix_processFrame s type session
  | close session =>
      obtain ⟨-, hu⟩ := Option.ite_none_right_eq_some.mp hstep
      obtain rfl := Option.some.inj hu
      exact (suffix_callKeepAlive s _).trans (suffix_onClientClose s session)


/-! ## The invariant of the runs that keep the handle -/

/-- While the server runs, the handle is an instance that was not told to stop. -/
structure HandleHeld (s : WebsocketServer) : Prop where
  valid : CallsValid s.log
  held : s.server = true → ∃ h, s.keepAlive = some h
  empty : s.server = false → s.sessions = []
  live : ∀ h, s.keepAlive = some h → .told h ∉ s.log
  made : ∀ h, .told h ∈ s.log → h < s.nextInstance
  current : ∀ h, s.keepAlive = some h → h < s.nextInstance

theorem handleHeld_initial : HandleHeld initial where
  valid := trivial
  held := by intro h; cases h
  empty := fun _ => rfl
  live := by intro h hh; cases hh
  made := by intro h hh; cases hh
  current := by intro h hh; cases hh

namespace HandleHeld

variable {s : WebsocketServer}

theorem callKeepAlive (hs : HandleHeld s) (hserver : s.server = true)
    (function : KeepAliveFunction) : HandleHeld (s.callKeepAlive function) where
  valid := by
    obtain ⟨h, hh⟩ := hs.held hserver
    exact ⟨⟨h, hh, hs.live h hh⟩, hs.valid⟩
  held := hs.held
  empty := hs.empty
  live h hh := by
    have hnot := hs.live h hh
    simpa [WebsocketServer.callKeepAlive, emit] using hnot
  made h hh := by
    apply hs.made h
    simpa [WebsocketServer.callKeepAlive, emit] using hh
  current := hs.current

theorem notifyClient (hs : HandleHeld s) (event : WsClientEvent) (session : Session) :
    HandleHeld (s.notifyClient event session) := by
  unfold WebsocketServer.notifyClient
  split
  · constructor
    · exact hs.valid
    · exact hs.held
    · exact hs.empty
    · intro h hh
      simpa [emit] using hs.live h hh
    · intro h hh
      apply hs.made h
      simpa [emit] using hh
    · exact hs.current
  · exact hs

theorem message (hs : HandleHeld s) (session : Session) :
    HandleHeld (s.emit (.message session)) where
  valid := hs.valid
  held := hs.held
  empty := hs.empty
  live h hh := by simpa [emit] using hs.live h hh
  made h hh := by
    apply hs.made h
    simpa [emit] using hh
  current := hs.current

theorem withSessions (hs : HandleHeld s) (hserver : s.server = true)
    (sessions : List (Session × Bool)) (nextSession : Nat) :
    HandleHeld { s with sessions := sessions, nextSession := nextSession } where
  valid := hs.valid
  held := hs.held
  empty h := by
    rw [hserver] at h
    cases h
  live := hs.live
  made := hs.made
  current := hs.current

theorem running (hs : HandleHeld s) {p : Session × Bool} (hp : p ∈ s.sessions) :
    s.server = true := by
  cases hserver : s.server with
  | true => rfl
  | false =>
      rw [hs.empty hserver] at hp
      cases hp

theorem processFrame (hs : HandleHeld s) (hserver : s.server = true) (type : FrameType)
    (session : Session) : HandleHeld (s.processFrame type session) := by
  cases type with
  | text =>
      have hactive := hs.callKeepAlive hserver .clientIsActive
      unfold WebsocketServer.processFrame
      dsimp only
      split
      · exact hactive.message session
      · exact hactive
  | ping => exact hs.callKeepAlive hserver .clientIsActive
  | pong => exact hs.callKeepAlive hserver .clientIsActive
  | close =>
      have hremoved := hs.callKeepAlive hserver .removeClient
      exact hremoved.notifyClient .disconnected session
  | other => exact hs

theorem installHandlers (hs : HandleHeld s) (handlers : WebsocketServerHandlers) :
    HandleHeld (s.installHandlers handlers) :=
  ⟨hs.valid, hs.held, hs.empty, hs.live, hs.made, hs.current⟩

/-- A new instance has a number that no instance told to stop has. -/
theorem startKeepAlive (hs : HandleHeld s) (hserver : s.server = false) (starts : Bool) :
    HandleHeld (s.startKeepAlive starts) := by
  cases starts with
  | true =>
      constructor
      · exact hs.valid
      · intro _
        exact ⟨s.nextInstance, rfl⟩
      · exact hs.empty
      · intro h hh htold
        obtain rfl := Option.some.inj hh
        exact Nat.lt_irrefl _ (hs.made _ htold)
      · intro h htold
        exact Nat.lt_succ_of_lt (hs.made h htold)
      · intro h hh
        obtain rfl := Option.some.inj hh
        exact Nat.lt_succ_self _
  | false =>
      constructor
      · exact hs.valid
      · intro htrue
        exact absurd (hserver.symm.trans htrue) Bool.false_ne_true
      · exact hs.empty
      · intro h hh
        cases hh
      · exact hs.made
      · intro h hh
        cases hh

theorem stopKeepAlive (hs : HandleHeld s) (hserver : s.server = false) :
    HandleHeld s.stopKeepAlive := by
  unfold WebsocketServer.stopKeepAlive
  split
  · next h hh =>
    constructor
    · exact hs.valid
    · intro htrue
      exact absurd (hserver.symm.trans htrue) Bool.false_ne_true
    · exact hs.empty
    · intro k hk
      cases hk
    · intro k hk
      rcases List.mem_cons.mp hk with heq | hlog
      · obtain rfl := LogEntry.told.inj heq
        exact hs.current _ hh
      · exact hs.made k hlog
    · intro k hk
      cases hk
  · exact hs

theorem comeUp (hs : HandleHeld s) (hheld : ∃ h, s.keepAlive = some h) :
    HandleHeld (s.setServer true) where
  valid := hs.valid
  held _ := hheld
  empty h := by cases h
  live := hs.live
  made := hs.made
  current := hs.current

theorem goDown (hs : HandleHeld s) (hempty : s.sessions = []) :
    HandleHeld (s.setServer false) where
  valid := hs.valid
  held h := by cases h
  empty _ := hempty
  live := hs.live
  made := hs.made
  current := hs.current

theorem websocketServerStart (hs : HandleHeld s) (handlers : Option WebsocketServerHandlers)
    (keepAliveStarts : Bool) (httpdSslStart : EspResult Unit)
    (hkeeps : keepsHandle s (.start handlers keepAliveStarts httpdSslStart)) :
    HandleHeld (s.websocketServerStart handlers keepAliveStarts httpdSslStart).2 := by
  rcases websocketServerStart_cases s handlers keepAliveStarts httpdSslStart with
    h | ⟨hs', hserver, h⟩ | ⟨hs', hserver, rfl, hmessage, rfl, h⟩
  · rw [h]
    exact hs
  · have hmade := (hs.installHandlers hs').startKeepAlive hserver keepAliveStarts
    rw [h]
    apply hmade.stopKeepAlive
    cases keepAliveStarts <;> exact hserver
  · obtain rfl : keepAliveStarts = true := hkeeps hserver hmessage
    have hmade := (hs.installHandlers hs').startKeepAlive hserver true
    rw [h]
    exact (hmade.comeUp ⟨s.nextInstance, rfl⟩).callKeepAlive rfl .setUserCtx

theorem websocketServerStop (hs : HandleHeld s) (ret : EspResult Unit)
    (hkeeps : keepsHandle s (.stop ret)) : HandleHeld (s.websocketServerStop ret).2 := by
  unfold WebsocketServer.websocketServerStop
  split
  · exact hs
  · next hserver =>
    have hempty : s.sessions = [] := hkeeps (by simpa using hserver)
    have hstopped := (hs.goDown hempty).stopKeepAlive rfl
    apply HandleHeld.installHandlers
    have hsessions : (s.setServer false).stopKeepAlive.sessions = [] := by
      unfold WebsocketServer.stopKeepAlive
      split <;> exact hempty
    unfold httpdSslStop
    rw [hsessions]
    exact ⟨hstopped.valid, hstopped.held, fun _ => rfl, hstopped.live, hstopped.made,
      hstopped.current⟩

theorem step {u : WebsocketServer} {l : Label} (hs : HandleHeld s) (hkeeps : keepsHandle s l)
    (hstep : Server.step s l = some u) : HandleHeld u := by
  cases l with
  | start handlers keepAliveStarts httpdSslStart =>
      obtain rfl := Option.some.inj hstep
      exact hs.websocketServerStart handlers keepAliveStarts httpdSslStart hkeeps
  | stop ret =>
      obtain rfl := Option.some.inj hstep
      exact hs.websocketServerStop ret hkeeps
  | accept fd =>
      obtain ⟨⟨hserver, -⟩, hu⟩ := Option.ite_none_right_eq_some.mp hstep
      obtain rfl := Option.some.inj hu
      exact hs.withSessions hserver _ _
  | connect session =>
      obtain ⟨hmem, hu⟩ := Option.ite_none_right_eq_some.mp hstep
      obtain rfl := Option.some.inj hu
      have hadded := (hs.callKeepAlive (hs.running hmem) .addClient).notifyClient
        .connected session
      apply hadded.withSessions
      rw [server_notifyClient]
      exact hs.running hmem
  | frame type session =>
      obtain ⟨hmem, hu⟩ := Option.ite_none_right_eq_some.mp hstep
      obtain rfl := Option.some.inj hu
      exact hs.processFrame (hs.running hmem) type session
  | close session =>
      obtain ⟨hmem, hu⟩ := Option.ite_none_right_eq_some.mp hstep
      obtain rfl := Option.some.inj hu
      obtain ⟨p, hp, -⟩ := List.mem_map.mp hmem
      have hremoved := (hs.callKeepAlive (hs.running hp) .removeClient).notifyClient
        .disconnected session
      apply hremoved.withSessions
      rw [server_notifyClient]
      exact hs.running hp

end HandleHeld

/-! ## A step that does not keep the handle makes an invalid call -/

theorem keepAlive_stopKeepAlive (s : WebsocketServer) : s.stopKeepAlive.keepAlive = none := by
  unfold stopKeepAlive
  split
  · rfl
  · assumption

theorem keepsHandle_start_of_callsValid {s : WebsocketServer}
    {handlers : WebsocketServerHandlers} {keepAliveStarts : Bool}
    (hvalid : CallsValid
      (s.websocketServerStart (some handlers) keepAliveStarts (.ok ())).2.log)
    (hserver : s.server = false) (hmessage : handlers.messageHandler = true) :
    keepAliveStarts = true := by
  cases keepAliveStarts with
  | true => rfl
  | false =>
      simp only [websocketServerStart, hserver, hmessage, Bool.false_eq_true,
        Bool.true_eq_false, if_false] at hvalid
      obtain ⟨⟨h, hnull, -⟩, -⟩ := hvalid
      cases hnull

theorem keepsHandle_stop_of_callsValid {s : WebsocketServer} {ret : EspResult Unit}
    (hvalid : CallsValid (s.websocketServerStop ret).2.log) (hserver : s.server = true) :
    s.sessions = [] := by
  cases hsessions : s.sessions with
  | nil => rfl
  | cons p rest =>
      have hstop : (s.websocketServerStop ret).2.log =
          ((p.1 :: rest.map Prod.fst).foldl onClientClose
            (s.setServer false).stopKeepAlive).log := by
        have hkept : (s.setServer false).stopKeepAlive.sessions = p :: rest := by
          unfold stopKeepAlive
          split <;> exact hsessions
        simp [websocketServerStop, hserver, httpdSslStop, hkept, installHandlers]
      rw [hstop] at hvalid
      -- The first session closed removes itself through the cleared handle.
      have hfirst := hvalid.of_suffix ((suffix_onClientClose _ p.1).trans
        (suffix_foldl_onClientClose (rest.map Prod.fst) _))
      obtain ⟨⟨h, hnull, -⟩, -⟩ := hfirst
      rw [keepAlive_stopKeepAlive] at hnull
      cases hnull

theorem keepsHandle_of_callsValid {s u : WebsocketServer} {l : Label}
    (hstep : step s l = some u) (hvalid : CallsValid u.log) : keepsHandle s l := by
  cases l with
  | start handlers keepAliveStarts httpdSslStart =>
      obtain rfl := Option.some.inj hstep
      cases handlers with
      | none => trivial
      | some handlers =>
          cases httpdSslStart with
          | error ret => trivial
          | ok _ => exact keepsHandle_start_of_callsValid hvalid
  | stop ret =>
      obtain rfl := Option.some.inj hstep
      exact keepsHandle_stop_of_callsValid hvalid
  | accept fd => trivial
  | connect session => trivial
  | frame type session => trivial
  | close session => trivial

/-- Every keep-alive call of a run is made with the handle of a live instance
exactly when every start that comes up got an instance and every stop of a
running server finds no open session. -/
theorem callsValid_iff_keepsHandle {labels : List Label} {s : WebsocketServer}
    (run : Run step unrestricted initial labels s) :
    CallsValid s.log ↔ Run step keepsHandle initial labels s := by
  constructor
  · induction run with
    | nil => exact fun _ => .nil
    | snoc _ _ hstep ih =>
        intro hvalid
        have hearlier := hvalid.of_suffix (suffix_of_step hstep)
        exact (ih hearlier).snoc (keepsHandle_of_callsValid hstep hvalid) hstep
  · intro hkeeps
    have hheld : HandleHeld s := hkeeps.invariant handleHeld_initial
      fun t l u hs hgood hstep => hs.step hgood hstep
    exact hheld.valid

/-- A client comes and goes, and the server is stopped after it left. -/
def emptyStop : List Label :=
  [.start (some ⟨true, true⟩) true (.ok ()), .accept 5, .connect ⟨5, 0⟩, .frame .text ⟨5, 0⟩,
    .close ⟨5, 0⟩, .stop (.ok ()), .start (some ⟨true, true⟩) true (.ok ())]

theorem callsValid_emptyStop :
    ∃ s, Run step unrestricted initial emptyStop s ∧ s.log.length = 9 ∧
      CallsValid s.log := by
  obtain ⟨s, hs⟩ := Option.isSome_iff_exists.mp
    (show (execGood step keepsHandle initial emptyStop).isSome by decide)
  have hlog : (execGood step keepsHandle initial emptyStop).map (·.log.length) = some 9 := by
    decide
  have hkeeps := Run.of_execGood step keepsHandle hs
  have run : Run step unrestricted initial emptyStop s := hkeeps.mono fun _ _ _ => trivial
  exact ⟨s, run, by simpa [hs] using hlog, (callsValid_iff_keepsHandle run).mpr hkeeps⟩

/-- The server is stopped while its client is connected. -/
def clientStop : List Label :=
  [.start (some ⟨true, true⟩) true (.ok ()), .accept 5, .connect ⟨5, 0⟩, .stop (.ok ())]

/-- The close callback of that client removes it through the null handle. -/
theorem not_callsValid_clientStop :
    ∃ s, Run step unrestricted initial clientStop s ∧ ¬ CallsValid s.log := by
  obtain ⟨s, hs⟩ := Option.isSome_iff_exists.mp
    (show (execGood step unrestricted initial clientStop).isSome by decide)
  have hlog : (execGood step unrestricted initial clientStop).map (·.log) =
      some [.clientEvent .disconnected ⟨5, 0⟩, .call .removeClient none, .told 0,
        .clientEvent .connected ⟨5, 0⟩, .call .addClient (some 0),
        .call .setUserCtx (some 0)] := by decide
  refine ⟨s, Run.of_execGood step unrestricted hs, fun hvalid => ?_⟩
  rw [hs, Option.map_some, Option.some_inj] at hlog
  rw [hlog] at hvalid
  obtain ⟨⟨h, hnull, -⟩, -⟩ := hvalid
  cases hnull

end Orchestrator.Server
