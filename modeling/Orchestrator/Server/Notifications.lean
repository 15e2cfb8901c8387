import Mathlib.Data.List.Nodup
import Orchestrator.Server.KeepAliveHandle

/-!
# When the notifications of connections pair up

A connection is announced when it is upgraded. Its end is reported by
`on_client_close`, whether or not it was announced, and by a CLOSE frame, after
which `on_client_close` reports it again.
-/

namespace Orchestrator.Server

open Lib WebsocketServer

/-! ## The property -/

/-- What an entry of the log tells the client event handler about a session. -/
def notification (session : Session) : LogEntry → Option WsClientEvent
  | .clientEvent event notified => if notified = session then some event else none
  | _ => none

/-- The notifications about a session, oldest first. -/
def WebsocketServer.eventsOf (s : WebsocketServer) (session : Session) : List WsClientEvent :=
  (s.log.filterMap (notification session)).reverse

def WebsocketServer.isOpen (s : WebsocketServer) (session : Session) : Prop :=
  session ∈ s.sessions.map Prod.fst

/-- After a run with these labels every connection was announced exactly when it was
upgraded, and its end was reported exactly once. -/
structure NotificationsPair (labels : List Label) (s : WebsocketServer) : Prop where
  never : ∀ session, .connect session ∉ labels → s.eventsOf session = []
  connected : ∀ session, .connect session ∈ labels → s.isOpen session →
    s.eventsOf session = [.connected]
  ended : ∀ session, .connect session ∈ labels → ¬s.isOpen session →
    s.eventsOf session = [.connected, .disconnected]

/-- The server comes up with a client event handler, no client sends a CLOSE frame, and
only sessions that were upgraded are closed. -/
def announced (s : WebsocketServer) : Label → Prop
  | .start handlers _ _ => s.server = false → ∀ h ∈ handlers, h.clientEventHandler = true
  | .stop _ => s.server = true → ∀ p ∈ s.sessions, p.2 = true
  | .accept _ => True
  | .connect _ => True
  | .frame type _ => type ≠ .close
  | .close session => (session, true) ∈ s.sessions

instance (s : WebsocketServer) (l : Label) : Decidable (announced s l) :=
  match l with
  | .start handlers _ _ =>
      inferInstanceAs (Decidable (s.server = false → ∀ h ∈ handlers, h.clientEventHandler = true))
  | .stop _ => inferInstanceAs (Decidable (s.server = true → ∀ p ∈ s.sessions, p.2 = true))
  | .accept _ => .isTrue trivial
  | .connect _ => .isTrue trivial
  | .frame type _ => inferInstanceAs (Decidable (type ≠ .close))
  | .close session => inferInstanceAs (Decidable ((session, true) ∈ s.sessions))

/-! ## What the operations leave alone -/

section Sessions

variable (s : WebsocketServer)

@[simp] theorem sessions_notifyClient (event : WsClientEvent) (session : Session) :
    (s.notifyClient event session).sessions = s.sessions := by
  unfold notifyClient
  split <;> rfl

@[simp] theorem nextSession_notifyClient (event : WsClientEvent) (session : Session) :
    (s.notifyClient event session).nextSession = s.nextSession := by
  unfold notifyClient
  split <;> rfl

@[simp] theorem clientEventHandler_notifyClient (event : WsClientEvent) (session : Session) :
    (s.notifyClient event session).clientEventHandler = s.clientEventHandler := by
  unfold notifyClient
  split <;> rfl

@[simp] theorem sessions_stopKeepAlive : s.stopKeepAlive.sessions = s.sessions := by
  unfold stopKeepAlive
  split <;> rfl

@[simp] theorem nextSession_stopKeepAlive : s.stopKeepAlive.nextSession = s.nextSession := by
  unfold stopKeepAlive
  split <;> rfl

@[simp] theorem server_stopKeepAlive : s.stopKeepAlive.server = s.server := by
  unfold stopKeepAlive
  split <;> rfl

@[simp] theorem clientEventHandler_stopKeepAlive :
    s.stopKeepAlive.clientEventHandler = s.clientEventHandler := by
  unfold stopKeepAlive
  split <;> rfl

end Sessions

/-! ## What is reported -/

section Events

variable (s : WebsocketServer) (session : Session)

@[simp] theorem eventsOf_emit (entry : LogEntry) :
    (s.emit entry).eventsOf session =
      s.eventsOf session ++ (notification session entry).toList := by
  unfold eventsOf emit
  cases h : notification session entry <;> simp [h]

@[simp] theorem eventsOf_callKeepAlive (function : KeepAliveFunction) :
    (s.callKeepAlive function).eventsOf session = s.eventsOf session := by
  simp [callKeepAlive, notification]

@[simp] theorem eventsOf_stopKeepAlive : s.stopKeepAlive.eventsOf session = s.eventsOf session := by
  unfold stopKeepAlive
  cases s.keepAlive with
  | none => rfl
  | some h => exact (eventsOf_emit s session (.told h)).trans (List.append_nil _)

theorem eventsOf_processFrame {type : FrameType} (htype : type ≠ .close) (sender : Session) :
    (s.processFrame type sender).eventsOf session = s.eventsOf session := by
  cases type with
  | text =>
      unfold processFrame
      dsimp only
      split <;> simp [notification]
  | ping => exact eventsOf_callKeepAlive s session _
  | pong => exact eventsOf_callKeepAlive s session _
  | close => exact absurd rfl htype
  | other => rfl

variable {s}

theorem eventsOf_notifyClient (h : s.clientEventHandler = true) (event : WsClientEvent)
    (notified : Session) : (s.notifyClient event notified).eventsOf session =
      s.eventsOf session ++ if notified = session then [event] else [] := by
  unfold notifyClient
  rw [if_pos h, eventsOf_emit]
  by_cases hnotified : notified = session <;> simp [notification, hnotified]

theorem eventsOf_onClientClose (h : s.clientEventHandler = true) (closed : Session) :
    (s.onClientClose closed).eventsOf session =
      s.eventsOf session ++ if closed = session then [.disconnected] else [] := by
  unfold onClientClose
  rw [eventsOf_notifyClient session (by exact h), eventsOf_callKeepAlive]

/-- Closing distinct sessions reports each of them once. -/
theorem eventsOf_foldl_onClientClose {sessions : List Session} (hnodup : sessions.Nodup)
    (h : s.clientEventHandler = true) :
    (sessions.foldl onClientClose s).eventsOf session =
      s.eventsOf session ++ if session ∈ sessions then [.disconnected] else [] := by
  induction sessions generalizing s with
  | nil => simp
  | cons closed rest ih =>
      obtain ⟨hclosed, hrest⟩ := List.nodup_cons.mp hnodup
      rw [List.foldl_cons, ih hrest (by simpa [onClientClose, callKeepAlive, emit] using h), eventsOf_onClientClose session h]
      by_cases heq : closed = session
      · subst heq
        simp [hclosed]
      · simp [heq, Ne.symm heq]

end Events

/-! ## The invariant -/

/-- What the labels and the sessions have to do with each other while the handler is
installed. -/
structure Tracked (labels : List Label) (s : WebsocketServer) : Prop where
  pair : NotificationsPair labels s
  distinct : (s.sessions.map Prod.fst).Nodup
  /-- Numbers are given once. -/
  numbered : ∀ session, s.isOpen session ∨ .connect session ∈ labels →
    session.number < s.nextSession
  upgraded : ∀ p ∈ s.sessions, p.2 = true ↔ .connect p.1 ∈ labels
  stopped : s.server = false → s.sessions = []
  handler : s.server = true → s.clientEventHandler = true

theorem tracked_initial : Tracked [] initial where
  pair :=
    { never := fun _ _ => rfl
      connected := nofun
      ended := nofun }
  distinct := List.nodup_nil
  numbered := by
    rintro session (h | h)
    · cases h
    · cases h
  upgraded := nofun
  stopped _ := rfl
  handler := nofun

section Step

variable {labels : List Label} {s u : WebsocketServer} {l : Label}

theorem connect_mem_append (hl : ∀ session, l ≠ .connect session) (session : Session) :
    .connect session ∈ labels ++ [l] ↔ .connect session ∈ labels := by
  simp [(hl session).symm]

/-- A step that upgrades no session and reports the end of those it closes. -/
theorem NotificationsPair.report (closed : List Session) (h : NotificationsPair labels s)
    (hl : ∀ session, l ≠ .connect session)
    (hclosed : ∀ session ∈ closed, s.isOpen session ∧ .connect session ∈ labels)
    (hevents : ∀ session, u.eventsOf session =
      s.eventsOf session ++ if session ∈ closed then [.disconnected] else [])
    (hsessions : ∀ session, .connect session ∈ labels →
      (u.isOpen session ↔ s.isOpen session ∧ session ∉ closed)) :
    NotificationsPair (labels ++ [l]) u := by
  constructor
  · intro session hnever
    rw [connect_mem_append hl] at hnever
    have hnot : session ∉ closed := fun hmem => hnever (hclosed session hmem).2
    simp [hevents, hnot, h.never session hnever]
  · intro session hmem hopen
    rw [connect_mem_append hl] at hmem
    obtain ⟨hopen, hnot⟩ := (hsessions session hmem).mp hopen
    simp [hevents, hnot, h.connected session hmem hopen]
  · intro session hmem hended
    rw [connect_mem_append hl] at hmem
    by_cases hnow : session ∈ closed
    · simp [hevents, hnow, h.connected session hmem (hclosed session hnow).1]
    · have hbefore : ¬s.isOpen session :=
        fun hopen => hended ((hsessions session hmem).mpr ⟨hopen, hnow⟩)
      simp [hevents, hnow, h.ended session hmem hbefore]

/-- A step that opens and upgrades no session and reports the end of those it closes. -/
theorem Tracked.report (closed : List Session) (h : Tracked labels s)
    (hl : ∀ session, l ≠ .connect session)
    (hclosed : ∀ session ∈ closed, (session, true) ∈ s.sessions)
    (hevents : ∀ session, u.eventsOf session =
      s.eventsOf session ++ if session ∈ closed then [.disconnected] else [])
    (hsessions : u.sessions = s.sessions.filter fun p => p.1 ∉ closed)
    (hnext : u.nextSession = s.nextSession) (hstopped : u.server = false → u.sessions = [])
    (hhandler : u.server = true → u.clientEventHandler = true) : Tracked (labels ++ [l]) u := by
  have hopen : ∀ session, u.isOpen session ↔ s.isOpen session ∧ session ∉ closed := by
    intro session
    simp [isOpen, hsessions]
  constructor
  · refine h.pair.report closed hl ?_ hevents fun session _ => hopen session
    intro session hsession
    have hmem := hclosed session hsession
    exact ⟨List.mem_map_of_mem (f := Prod.fst) hmem, (h.upgraded _ hmem).mp rfl⟩
  · rw [hsessions]
    exact h.distinct.sublist (List.filter_sublist.map Prod.fst)
  · intro session hsession
    rw [connect_mem_append hl, hopen] at hsession
    rw [hnext]
    exact h.numbered session (hsession.imp_left And.left)
  · intro p hp
    rw [hsessions] at hp
    rw [connect_mem_append hl]
    exact h.upgraded p (List.mem_of_mem_filter hp)
  · exact hstopped
  · exact hhandler

/-- A step that changes no session and reports nothing. -/
theorem Tracked.quiet (h : Tracked labels s) (hl : ∀ session, l ≠ .connect session)
    (hevents : ∀ session, u.eventsOf session = s.eventsOf session)
    (hsessions : u.sessions = s.sessions) (hnext : u.nextSession = s.nextSession)
    (hstopped : u.server = false → s.sessions = [])
    (hhandler : u.server = true → u.clientEventHandler = true) : Tracked (labels ++ [l]) u :=
  h.report [] hl nofun (by simp [hevents]) (by simp [hsessions]) hnext
    (fun hserver => hsessions.trans (hstopped hserver)) hhandler

theorem Tracked.start (h : Tracked labels s) {handlers : Option WebsocketServerHandlers}
    {keepAliveStarts : Bool} {httpdSslStart : EspResult Unit}
    (hgood : announced s (.start handlers keepAliveStarts httpdSslStart)) :
    Tracked (labels ++ [.start handlers keepAliveStarts httpdSslStart])
      (s.websocketServerStart handlers keepAliveStarts httpdSslStart).2 := by
  rcases websocketServerStart_cases s handlers keepAliveStarts httpdSslStart with
    hsame | ⟨installed, hserver, hfailed⟩ | ⟨installed, hserver, hhandlers, -, -, hup⟩
  · rw [hsame]
    exact h.quiet nofun (fun _ => rfl) rfl rfl h.stopped h.handler
  · rw [hfailed]
    refine h.quiet nofun ?_ ?_ ?_ (fun _ => h.stopped hserver) ?_
    · intro session
      cases keepAliveStarts <;> exact eventsOf_stopKeepAlive _ session
    · cases keepAliveStarts <;> exact sessions_stopKeepAlive _
    · cases keepAliveStarts <;> exact nextSession_stopKeepAlive _
    · cases keepAliveStarts <;> simp [startKeepAlive, installHandlers, hserver]
  · rw [hup]
    refine h.quiet nofun ?_ ?_ ?_ (fun _ => h.stopped hserver) fun _ => ?_
    · intro session
      cases keepAliveStarts <;> exact eventsOf_callKeepAlive _ session _
    · cases keepAliveStarts <;> rfl
    · cases keepAliveStarts <;> rfl
    · have hinstalled := hgood hserver installed hhandlers
      cases keepAliveStarts <;> exact hinstalled

/-- Open sessions belong to a server that runs. -/
theorem Tracked.running (h : Tracked labels s) {p : Session × Bool} (hp : p ∈ s.sessions) :
    s.server = true := by
  by_contra hserver
  rw [h.stopped (Bool.eq_false_iff.mpr hserver)] at hp
  cases hp

theorem Tracked.processFrame (h : Tracked labels s) {type : FrameType} {session : Session}
    (hopen : (session, true) ∈ s.sessions) (hgood : type ≠ .close) :
    Tracked (labels ++ [.frame type session]) (s.processFrame type session) := by
  have hrunning := h.running hopen
  have hsame : (s.processFrame type session).sessions = s.sessions ∧
      (s.processFrame type session).nextSession = s.nextSession ∧
      (s.processFrame type session).server = s.server ∧
      (s.processFrame type session).clientEventHandler = s.clientEventHandler := by
    cases type with
    | text =>
        unfold WebsocketServer.processFrame
        dsimp only
        split <;> exact ⟨rfl, rfl, rfl, rfl⟩
    | ping | pong | other => exact ⟨rfl, rfl, rfl, rfl⟩
    | close => exact absurd rfl hgood
  obtain ⟨hsessions, hnext, hserver, hhandler⟩ := hsame
  refine h.quiet nofun (fun other => eventsOf_processFrame s other hgood session) hsessions hnext
    ?_ ?_
  · intro hstopped
    cases hrunning.symm.trans (hserver.symm.trans hstopped)
  · intro _
    exact hhandler.trans (h.handler hrunning)

theorem Tracked.accept (h : Tracked labels s) {fd : Int} (hserver : s.server = true) :
    Tracked (labels ++ [.accept fd]) { s with
      sessions := s.sessions ++ [(⟨fd, s.nextSession⟩, false)]
      nextSession := s.nextSession + 1 } := by
  have hfresh : ∀ session, s.isOpen session ∨ .connect session ∈ labels →
      session ≠ ⟨fd, s.nextSession⟩ := by
    rintro session hsession rfl
    exact Nat.lt_irrefl _ (h.numbered _ hsession)
  constructor
  · refine h.pair.report [] nofun nofun (fun _ => (List.append_nil _).symm) ?_
    intro session hsession
    simp [isOpen, hfresh session (.inr hsession)]
  · rw [List.map_append, List.map_singleton, List.nodup_append]
    refine ⟨h.distinct, List.nodup_singleton _, ?_⟩
    intro session hopen new hnew
    rw [List.mem_singleton.mp hnew]
    exact hfresh session (.inl hopen)
  · intro session hsession
    rw [connect_mem_append (l := .accept fd) nofun, isOpen, List.map_append, List.mem_append, or_assoc] at hsession
    rcases hsession with hopen | hnew | hconnect
    · exact Nat.lt_succ_of_lt (h.numbered session (.inl hopen))
    · rw [List.mem_singleton.mp hnew]
      exact Nat.lt_succ_self _
    · exact Nat.lt_succ_of_lt (h.numbered session (.inr hconnect))
  · intro p hp
    rw [connect_mem_append (l := .accept fd) nofun]
    rcases List.mem_append.mp hp with hp | hp
    · exact h.upgraded p hp
    · rw [List.mem_singleton.mp hp]
      have hnever : .connect ⟨fd, s.nextSession⟩ ∉ labels := fun hmem => hfresh _ (.inr hmem) rfl
      simp [hnever]
  · intro hstopped
    cases hserver.symm.trans hstopped
  · exact h.handler

theorem connect_mem_append_connect (session other : Session) :
    .connect other ∈ labels ++ [Label.connect session] ↔
      .connect other ∈ labels ∨ other = session := by
  simp

/-- A step that upgrades an open session and reports it. -/
theorem NotificationsPair.connect (h : NotificationsPair labels s) {session : Session}
    (hnever : .connect session ∉ labels) (hsession : s.isOpen session)
    (hevents : ∀ other, u.eventsOf other =
      s.eventsOf other ++ if session = other then [.connected] else [])
    (hsessions : ∀ other, u.isOpen other ↔ s.isOpen other) :
    NotificationsPair (labels ++ [.connect session]) u := by
  constructor
  · intro other hother
    rw [connect_mem_append_connect, not_or] at hother
    have hne : session ≠ other := fun heq => hother.2 heq.symm
    simp [hevents, hne, h.never other hother.1]
  · intro other hother hopen
    rw [hsessions] at hopen
    by_cases heq : session = other
    · subst heq
      simp [hevents, h.never session hnever]
    · have hbefore := ((connect_mem_append_connect _ _).mp hother).resolve_right
        fun h => heq h.symm
      simp [hevents, heq, h.connected other hbefore hopen]
  · intro other hother hclosed
    rw [hsessions] at hclosed
    have hne : session ≠ other := by
      rintro rfl
      exact hclosed hsession
    have hbefore := ((connect_mem_append_connect _ _).mp hother).resolve_right
      fun h => hne h.symm
    simp [hevents, hne, h.ended other hbefore hclosed]

theorem Tracked.connect (h : Tracked labels s) {session : Session}
    (hopen : (session, false) ∈ s.sessions) :
    Tracked (labels ++ [.connect session]) { s.websocketHandlerGet session with
      sessions := s.sessions.map fun p => if p.1 = session then (session, true) else p } := by
  have hfirst : (s.sessions.map fun p => if p.1 = session then (session, true) else p).map
      Prod.fst = s.sessions.map Prod.fst := by
    rw [List.map_map]
    apply List.map_congr_left
    intro p _
    by_cases hp : p.1 = session <;> simp [hp]
  have hhandler := h.handler (h.running hopen)
  have hsession : s.isOpen session := List.mem_map_of_mem (f := Prod.fst) hopen
  constructor
  · refine h.pair.connect ?_ hsession ?_ fun other => by rw [isOpen, hfirst, isOpen]
    · intro hmem
      cases (h.upgraded _ hopen).mpr hmem
    · intro other
      show (s.websocketHandlerGet session).eventsOf other = _
      unfold websocketHandlerGet
      rw [eventsOf_notifyClient other (by exact hhandler), eventsOf_callKeepAlive]
  · exact hfirst.symm ▸ h.distinct
  · intro other hother
    rw [isOpen, hfirst, connect_mem_append_connect] at hother
    have hnext : (s.websocketHandlerGet session).nextSession = s.nextSession :=
      nextSession_notifyClient _ _ _
    show other.number < (s.websocketHandlerGet session).nextSession
    rw [hnext]
    rcases hother with hopen | hconnect | rfl
    · exact h.numbered other (.inl hopen)
    · exact h.numbered other (.inr hconnect)
    · exact h.numbered other (.inl hsession)
  · intro p hp
    rw [connect_mem_append_connect]
    obtain ⟨q, hq, rfl⟩ := List.mem_map.mp hp
    by_cases heq : q.1 = session
    · simp [heq]
    · simp [heq, h.upgraded q hq]
  · intro hstopped
    have hserver : (s.websocketHandlerGet session).server = s.server :=
      server_notifyClient _ _ _
    cases (h.running hopen).symm.trans (hserver.symm.trans hstopped)
  · intro _
    exact (clientEventHandler_notifyClient _ _ _).trans hhandler

theorem Tracked.close (h : Tracked labels s) {session : Session}
    (hopen : (session, true) ∈ s.sessions) :
    Tracked (labels ++ [.close session]) { s.onClientClose session with
      sessions := s.sessions.filter fun p => p.1 ≠ session } := by
  have hrunning := h.running hopen
  have hhandler := h.handler hrunning
  refine h.report [session] nofun ?_ ?_ ?_ (nextSession_notifyClient _ _ _) ?_ ?_
  · intro other hother
    exact List.mem_singleton.mp hother ▸ hopen
  · intro other
    refine (eventsOf_onClientClose other hhandler session).trans ?_
    simp [eq_comm]
  · simp
  · intro hstopped
    have hserver : (s.onClientClose session).server = s.server := server_notifyClient _ _ _
    cases hrunning.symm.trans (hserver.symm.trans hstopped)
  · intro _
    exact (clientEventHandler_notifyClient _ _ _).trans hhandler

theorem server_foldl_onClientClose (sessions : List Session) (s : WebsocketServer) :
    (sessions.foldl onClientClose s).server = s.server := by
  induction sessions generalizing s with
  | nil => rfl
  | cons session rest ih => exact (ih _).trans (server_notifyClient _ _ _)

theorem nextSession_foldl_onClientClose (sessions : List Session) (s : WebsocketServer) :
    (sessions.foldl onClientClose s).nextSession = s.nextSession := by
  induction sessions generalizing s with
  | nil => rfl
  | cons session rest ih => exact (ih _).trans (nextSession_notifyClient _ _ _)

theorem Tracked.stop (h : Tracked labels s) {ret : EspResult Unit}
    (hgood : announced s (.stop ret)) :
    Tracked (labels ++ [.stop ret]) (s.websocketServerStop ret).2 := by
  unfold websocketServerStop
  split
  · exact h.quiet nofun (fun _ => rfl) rfl rfl h.stopped h.handler
  · next hserver =>
    have hrunning : s.server = true := by simpa using hserver
    have hstopped : (s.setServer false).stopKeepAlive.sessions = s.sessions :=
      sessions_stopKeepAlive _
    have hhandler : (s.setServer false).stopKeepAlive.clientEventHandler = true :=
      (clientEventHandler_stopKeepAlive _).trans (h.handler hrunning)
    refine h.report (s.sessions.map Prod.fst) nofun ?_ ?_ ?_ ?_ (fun _ => rfl) ?_
    · intro session hsession
      obtain ⟨p, hp, rfl⟩ := List.mem_map.mp hsession
      have hupgraded : p = (p.1, true) := Prod.ext rfl (hgood hrunning p hp)
      exact hupgraded ▸ hp
    · intro session
      have hevents := eventsOf_foldl_onClientClose session h.distinct hhandler
      rw [eventsOf_stopKeepAlive] at hevents
      unfold httpdSslStop
      rw [hstopped]
      exact hevents
    · have hnone : (s.sessions.filter fun p => p.1 ∉ s.sessions.map Prod.fst) = [] := by
        rw [List.filter_eq_nil_iff]
        intro p hp
        simp only [decide_not, Bool.not_eq_true', decide_eq_false_iff_not, not_not]
        exact List.mem_map_of_mem hp
      rw [hnone]
      rfl
    · unfold httpdSslStop
      exact (nextSession_foldl_onClientClose _ _).trans (nextSession_stopKeepAlive _)
    · intro hserver'
      unfold httpdSslStop at hserver'
      have hfalse := (server_foldl_onClientClose ((s.setServer false).stopKeepAlive.sessions.map
        Prod.fst) (s.setServer false).stopKeepAlive).trans (server_stopKeepAlive _)
      cases hserver'.symm.trans hfalse

theorem Tracked.step (h : Tracked labels s) (hgood : announced s l)
    (hstep : step s l = some u) : Tracked (labels ++ [l]) u := by
  cases l with
  | start handlers keepAliveStarts httpdSslStart =>
      obtain rfl := Option.some.inj hstep
      exact h.start hgood
  | stop ret =>
      obtain rfl := Option.some.inj hstep
      exact h.stop hgood
  | accept fd =>
      simp only [Server.step, Option.ite_none_right_eq_some, Option.some.injEq] at hstep
      obtain ⟨⟨hserver, -⟩, rfl⟩ := hstep
      exact h.accept hserver
  | connect session =>
      simp only [Server.step, Option.ite_none_right_eq_some, Option.some.injEq] at hstep
      obtain ⟨hopen, rfl⟩ := hstep
      exact h.connect hopen
  | frame type session =>
      simp only [Server.step, Option.ite_none_right_eq_some, Option.some.injEq] at hstep
      obtain ⟨hopen, rfl⟩ := hstep
      exact h.processFrame hopen hgood
  | close session =>
      simp only [Server.step, Option.ite_none_right_eq_some, Option.some.injEq] at hstep
      obtain ⟨-, rfl⟩ := hstep
      exact h.close hgood

end Step

/-- In a run in which the handler is installed, no client sends a CLOSE frame and no
session ends that was never upgraded, the notifications of every connection pair up. -/
theorem notifications_pair {labels : List Label} {s : WebsocketServer}
    (run : Run step announced initial labels s) : NotificationsPair labels s := by
  have htracked : Tracked labels s := run.history_invariant tracked_initial
    fun labels t l u ht hgood hstep => ht.step hgood hstep
  exact htracked.pair

/-- Two clients, one of which is closed and one of which the stop finds open. -/
def pairedSession : List Label :=
  [.start (some ⟨true, true⟩) true (.ok ()), .accept 5, .connect ⟨5, 0⟩, .frame .text ⟨5, 0⟩,
    .accept 6, .connect ⟨6, 1⟩, .close ⟨5, 0⟩, .stop (.ok ())]

theorem notifications_pair_pairedSession :
    ∃ s, s.eventsOf ⟨6, 1⟩ = [.connected, .disconnected] ∧ NotificationsPair pairedSession s := by
  obtain ⟨s, hs⟩ := Option.isSome_iff_exists.mp
    (show (execGood step announced initial pairedSession).isSome by decide)
  have hevents : (execGood step announced initial pairedSession).map (·.eventsOf ⟨6, 1⟩) =
      some [.connected, .disconnected] := by decide
  refine ⟨s, ?_, notifications_pair (Run.of_execGood step announced hs)⟩
  simpa [hs] using hevents

/-- A client sends a CLOSE frame, after which the server closes the session. -/
def closeFrameSession : List Label :=
  [.start (some ⟨true, true⟩) true (.ok ()), .accept 5, .connect ⟨5, 0⟩, .frame .close ⟨5, 0⟩,
    .close ⟨5, 0⟩]

/-- A session ends before it was upgraded. -/
def plainSession : List Label :=
  [.start (some ⟨true, true⟩) true (.ok ()), .accept 5, .close ⟨5, 0⟩]

theorem not_notificationsPair :
    (∃ s, Run step unrestricted initial closeFrameSession s ∧
      ¬NotificationsPair closeFrameSession s) ∧
    ∃ s, Run step unrestricted initial plainSession s ∧ ¬NotificationsPair plainSession s := by
  constructor
  · obtain ⟨s, hs⟩ := Option.isSome_iff_exists.mp
      (show (execGood step unrestricted initial closeFrameSession).isSome by decide)
    have hevents : (execGood step unrestricted initial closeFrameSession).map
        (fun s => (s.sessions, s.eventsOf ⟨5, 0⟩)) =
          some ([], [.connected, .disconnected, .disconnected]) := by decide
    refine ⟨s, Run.of_execGood step unrestricted hs, fun h => ?_⟩
    rw [hs, Option.map_some, Option.some_inj, Prod.mk.injEq] at hevents
    have hended := h.ended ⟨5, 0⟩ (by simp [closeFrameSession]) (by simp [isOpen, hevents.1])
    cases hevents.2.symm.trans hended
  · obtain ⟨s, hs⟩ := Option.isSome_iff_exists.mp
      (show (execGood step unrestricted initial plainSession).isSome by decide)
    have hevents : (execGood step unrestricted initial plainSession).map
        (·.eventsOf ⟨5, 0⟩) = some [.disconnected] := by decide
    refine ⟨s, Run.of_execGood step unrestricted hs, fun h => ?_⟩
    rw [hs, Option.map_some, Option.some_inj] at hevents
    have hnever := h.never ⟨5, 0⟩ (by simp [plainSession])
    cases hevents.symm.trans hnever

end Orchestrator.Server
