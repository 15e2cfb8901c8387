import Orchestrator.Server.InOrder

/-!
# Each message once

As long as a client stays and nothing fails, what it got, what is queued for it and what is
still to be sent to it are together what the tasks meant for it, message by message.
-/

namespace Orchestrator.Server.Tasks

open Lib

/-- What a task has queued for a descriptor. -/
def State.queuedFor (s : State) (task : Task) (fd : Int) : List Json :=
  (s.work.filter fun arg => arg.task = task ∧ arg.clientFd = fd).map AsyncSendArg.message

/-- The message that a task will still send to a descriptor. -/
def State.awaited (s : State) (task : Task) (fd : Int) : List Json :=
  if fd ∈ (s.position task).ahead then (s.sent task).getLast?.toList.map Outgoing.message else []

/-- What a client got from a task, or is going to get. -/
def State.account (s : State) (task : Task) (client : Session) : List Json :=
  s.writtenTo task client ++ s.queuedFor task client.fd ++ s.awaited task client.fd

/-- The client stays, and no call fails. -/
def smooth (client : Session) (_ : State) : Label → Prop
  | .close session => session ≠ client
  | .broadcast _ _ listed => listed = true
  | .send _ outcome => outcome = .queued
  | .work sends => sends = true
  | _ => True

instance (client : Session) (s : State) (l : Label) : Decidable (smooth client s l) := by
  unfold smooth
  split <;> infer_instance

variable {s u : State} {task other : Task} {client : Session} {labels : List Label}

/-! ## One step -/

@[simp] theorem meantFor_nil (fd : Int) : meantFor fd [] = [] := rfl

theorem meantFor_append (fd : Int) (front back : List Outgoing) :
    meantFor fd (front ++ back) = meantFor fd front ++ meantFor fd back := by
  simp [meantFor]

/-- What the task sends from now on is added to the account. -/
def Accounted (client : Session) (s u : State) : Prop :=
  ∀ task, ∃ new, u.sent task = s.sent task ++ new ∧
    u.account task client = s.account task client ++ meantFor client.fd new

theorem Accounted.of_eq (hsent : u.sent = s.sent)
    (h : ∀ task, u.account task client = s.account task client) : Accounted client s u :=
  fun task => ⟨[], by simp [hsent], by simp [h task]⟩

theorem Accounted.trans {t : State} (h : Accounted client s t) (h' : Accounted client t u) :
    Accounted client s u := by
  intro task
  obtain ⟨front, hfront, hleft⟩ := h task
  obtain ⟨back, hback, hright⟩ := h' task
  refine ⟨front ++ back, ?_, ?_⟩
  · rw [hback, hfront, List.append_assoc]
  · rw [hright, hleft, meantFor_append, List.append_assoc]

/-- The position matters as far as the client is ahead of the task. -/
theorem account_goOn {position : Position}
    (h : client.fd ∈ position.ahead ↔ client.fd ∈ (s.position task).ahead) :
    (s.goOn task position).account other client = s.account other client := by
  have hawaited : (s.goOn task position).awaited other client.fd =
      s.awaited other client.fd := by
    rcases eq_or_ne other task with rfl | hne
    · simp [State.awaited, State.goOn, h]
    · simp [State.awaited, State.goOn, hne]
  rw [State.account, hawaited]
  rfl

theorem accounted_begin (hidle : s.position task = Position.idle) {outgoing : Outgoing}
    {position : Position} (h : client.fd ∈ position.ahead ↔ outgoing.IsFor client.fd) :
    Accounted client s (s.begin task outgoing position) := by
  intro other
  rcases eq_or_ne other task with rfl | hne
  · refine ⟨[outgoing], by simp [State.begin], ?_⟩
    have hnothing : s.awaited other client.fd = [] := by
      simp [State.awaited, hidle, Position.idle, Position.ahead]
    have hawaited : (s.begin other outgoing position).awaited other client.fd =
        meantFor client.fd [outgoing] := by
      by_cases hfor : outgoing.IsFor client.fd
      · simp [State.awaited, State.begin, State.goOn, meantFor, h, hfor]
      · simp [State.awaited, State.begin, State.goOn, meantFor, h, hfor]
    calc
      (s.begin other outgoing position).account other client =
          s.writtenTo other client ++ s.queuedFor other client.fd ++
            (s.begin other outgoing position).awaited other client.fd := rfl
      _ = s.account other client ++ meantFor client.fd [outgoing] := by
        rw [State.account, hnothing, hawaited, List.append_nil]
  · refine ⟨[], by simp [State.begin, hne], ?_⟩
    simp [State.account, State.awaited, State.begin, State.goOn, hne, State.writtenTo,
      State.framesTo, State.queuedFor]

/-- What was still to be sent is queued now. -/
theorem account_queue (h : Ordered s) {fd : Int} {fds : List Int}
    (hposition : s.position task = { sending := some fd, fds := fds }) :
    ((s.websocketSendMessageToClient task fd .queued).goOn task
      { sending := none, fds := fds }).account other client = s.account other client := by
  have hahead : (s.position task).ahead = fd :: fds := by rw [hposition]; rfl
  have hnodup : fd ∉ fds := (List.nodup_cons.mp (hahead ▸ h.ahead task)).1
  obtain ⟨outgoing, hlast, -⟩ := h.sending task fd (hahead ▸ List.mem_cons_self)
  rw [Option.mem_def] at hlast
  rw [websocketSendMessageToClient_queued hlast]
  by_cases hmine : task = other ∧ fd = client.fd
  · obtain ⟨rfl, rfl⟩ := hmine
    simp [State.account, State.awaited, State.goOn, hposition, Position.ahead, hnodup, hlast,
      State.writtenTo, State.framesTo, State.queuedFor, State.lastArg]
  · have hqueued : (s.work ++ [s.lastArg task fd outgoing]).filter
          (fun arg => arg.task = other ∧ arg.clientFd = client.fd) =
        s.work.filter fun arg => arg.task = other ∧ arg.clientFd = client.fd := by
      simp [State.lastArg, hmine]
    have hawaited : (s.goOn task { sending := none, fds := fds }).awaited other client.fd =
        s.awaited other client.fd := by
      rcases eq_or_ne other task with rfl | hne
      · have hfd : client.fd ≠ fd := fun heq => hmine ⟨rfl, heq.symm⟩
        simp [State.awaited, State.goOn, hposition, Position.ahead, hfd]
      · simp [State.awaited, State.goOn, hne]
    calc
      _ = s.writtenTo other client ++ ((s.work ++ [s.lastArg task fd outgoing]).filter
            fun arg => arg.task = other ∧ arg.clientFd = client.fd).map AsyncSendArg.message ++
          (s.goOn task { sending := none, fds := fds }).awaited other client.fd := rfl
      _ = s.account other client := by rw [hqueued, hawaited]; rfl

/-- While a client is there, nobody else holds its descriptor. -/
theorem holder_eq_client (h : Ordered s) (hopen : (client, true) ∈ s.sessions) {fd : Int}
    {session : Session × Bool}
    (hfind : s.sessions.find? (fun session => session.1.fd = fd) = some session) :
    session.1 = client ↔ fd = client.fd := by
  have hfd : session.1.fd = fd := by simpa using List.find?_some hfind
  constructor
  · rintro rfl
    exact hfd.symm
  · intro heq
    have hsame := List.inj_on_of_nodup_map h.clients (List.mem_of_find?_eq_some hfind) hopen
      (hfd.trans heq)
    rw [hsame]

/-- What was queued is written now. -/
theorem account_work (h : Ordered s) (hopen : (client, true) ∈ s.sessions)
    {arg : AsyncSendArg} {rest : List AsyncSendArg} (hwork : s.work = arg :: rest) :
    (State.asyncSendTask { s with work := rest } arg true).account task client =
      s.account task client := by
  unfold State.asyncSendTask
  cases hfind : s.sessions.find? fun session => session.1.fd = arg.clientFd with
  | none =>
      have hother : arg.clientFd ≠ client.fd := by
        have hall := List.find?_eq_none.mp hfind (client, true) hopen
        simpa [eq_comm] using hall
      simp [State.account, State.queuedFor, hwork, hother, State.writtenTo, State.framesTo,
        State.awaited]
  | some session =>
      have hholder := holder_eq_client h hopen hfind
      by_cases hmine : arg.task = task ∧ arg.clientFd = client.fd
      · simp [State.account, State.queuedFor, hwork, hmine, hholder.mpr hmine.2, State.writtenTo,
          State.framesTo, State.awaited]
      · have hnot : ¬(session.1 = client ∧ arg.task = task) := fun hboth =>
          hmine ⟨hboth.2, hholder.mp hboth.1⟩
        simp [State.account, State.queuedFor, hwork, hmine, hnot, State.writtenTo,
          State.framesTo, State.awaited]

/-- A client that is there is among those a broadcast lists. -/
theorem mem_clientList (hopen : (client, true) ∈ s.sessions) : client.fd ∈ s.clientList :=
  List.mem_map_of_mem hopen

theorem accounted_step (h : Ordered s) (hopen : (client, true) ∈ s.sessions) {l : Label}
    (hsmooth : smooth client s l) (hstep : step s l = some u) :
    Accounted client s u ∧ (client, true) ∈ u.sessions := by
  cases steps_of_step hstep with
  | accept hfree => exact ⟨.of_eq rfl fun _ => rfl, List.mem_append_left _ hopen⟩
  | upgrade session =>
      exact ⟨.of_eq rfl fun _ => rfl, List.mem_map.mpr ⟨(client, true), hopen, by simp⟩⟩
  | close session =>
      have hstays : client ≠ session := fun heq => hsmooth heq.symm
      exact ⟨.of_eq rfl fun _ => rfl, List.mem_filter.mpr ⟨hopen, by simpa using hstays⟩⟩
  | broadcast hidle message listed =>
      obtain rfl : listed = true := hsmooth
      refine ⟨accounted_begin hidle ?_, hopen⟩
      simp [Position.ahead, mem_clientList hopen, Outgoing.IsFor]
  | sendTo hidle fd message =>
      refine ⟨accounted_begin hidle ?_, hopen⟩
      simp [Position.ahead, Outgoing.IsFor, eq_comm]
  | @next task fd fds hposition =>
      refine ⟨.of_eq rfl fun _ => account_goOn ?_, hopen⟩
      have hwebsocket : client.fd = fd → s.isWebsocket fd = true := by
        rintro rfl
        exact List.any_eq_true.mpr ⟨(client, true), hopen, by simp⟩
      rw [hposition]
      by_cases hfd : client.fd = fd
      · simp [Position.ahead, hfd, hwebsocket hfd]
      · split
        · simp [Position.ahead]
        · simp [Position.ahead, hfd]
  | send hposition outcome =>
      obtain rfl : outcome = .queued := hsmooth
      exact ⟨.of_eq rfl fun _ => account_queue h hposition, hopen⟩
  | @work arg rest hwork sends =>
      obtain rfl : sends = true := hsmooth
      obtain ⟨hsessions, -, -, hsent⟩ :=
        asyncSendTask_frame (s := { s with work := rest }) arg true
      exact ⟨.of_eq hsent fun _ => account_work h hopen hwork, by rwa [hsessions]⟩

/-! ## Runs -/

/-- While a client stays and nothing fails, each message that a task means for it is written
to it once, in order, or is still on its way: none is lost, none is repeated. -/
theorem account_of_smooth_run {before labels : List Label} {s u : State} {client : Session}
    (reach : Run step unrestricted initial before s) (hopen : (client, true) ∈ s.sessions)
    (run : Run step (smooth client) s labels u) (task : Task) :
    ∃ new, u.sent task = s.sent task ++ new ∧
      u.account task client = s.account task client ++ meantFor client.fd new := by
  suffices h : Accounted client s u ∧ Ordered u ∧ (client, true) ∈ u.sessions from h.1 task
  refine run.invariant (P := fun u => Accounted client s u ∧ Ordered u ∧
    (client, true) ∈ u.sessions) ⟨.of_eq rfl fun _ => rfl, ordered_of_run reach, hopen⟩ ?_
  rintro t l u ⟨haccounted, hordered, hopen⟩ hsmooth hstep
  obtain ⟨hnew, hopen⟩ := accounted_step hordered hopen hsmooth hstep
  exact ⟨haccounted.trans hnew, hordered.step hstep, hopen⟩

/-- The client has come, and two tasks send to it at the same time. -/
def smoothSession : List Label :=
  [.broadcast 1 .null true, .next 1, .sendTo 2 5 (.bool true), .send 2 .queued, .send 1 .queued,
   .accept 6, .work true, .broadcast 2 (.bool false) true, .work true]

theorem account_of_smooth_run_smoothSession : ∃ s u : State, u.written.length = 2 ∧
    ∃ new, u.sent 2 = s.sent 2 ++ new ∧
      u.account 2 ⟨5, 0⟩ = s.account 2 ⟨5, 0⟩ ++ meantFor 5 new := by
  obtain ⟨s, hs⟩ := Option.isSome_iff_exists.mp
    (show (execGood step unrestricted initial [.accept 5, .upgrade ⟨5, 0⟩]).isSome by
      decide +kernel)
  have hopen : (execGood step unrestricted initial [.accept 5, .upgrade ⟨5, 0⟩]).map
      (fun s => decide ((⟨5, 0⟩, true) ∈ s.sessions)) = some true := by decide +kernel
  have hrest : (execGood step unrestricted initial [.accept 5, .upgrade ⟨5, 0⟩]).bind
      (fun s => (execGood step (smooth ⟨5, 0⟩) s smoothSession).map (·.written.length)) =
        some 2 := by decide +kernel
  rw [hs, Option.map_some, Option.some_inj, decide_eq_true_eq] at hopen
  rw [hs, Option.bind_some] at hrest
  obtain ⟨u, hu, hwritten⟩ := Option.map_eq_some_iff.mp hrest
  exact ⟨s, u, hwritten, account_of_smooth_run (Run.of_execGood step unrestricted hs) hopen
    (Run.of_execGood step (smooth ⟨5, 0⟩) hu) 2⟩

/-! ## A task that nobody interrupts -/

/-- The steps that a task takes itself. -/
def Label.IsBy (task : Task) : Label → Prop
  | .broadcast other _ _ => other = task
  | .sendTo other _ _ => other = task
  | .next other => other = task
  | .send other _ => other = task
  | _ => False

/-- Only this task takes steps. -/
def onlyBy (task : Task) (_ : State) (l : Label) : Prop := l.IsBy task

theorem run_one {l : Label} (hstep : step s l = some u) (hby : l.IsBy task) :
    Run step (onlyBy task) s [l] u :=
  Run.nil.snoc hby hstep

/-- What is queued, as the board has it. -/
def State.outbox (s : State) : List (Int × Json) :=
  s.work.map fun arg => (arg.clientFd, arg.message)

/-- The sessions, as the board has them. -/
def State.boardSessions (s : State) : List (Int × Bool) :=
  s.sessions.map fun session => (session.1.fd, session.2)

theorem isWebsocket_of_mem (h : Ordered s) {fd : Int} {websocket : Bool}
    (hmem : (fd, websocket) ∈ s.boardSessions) : s.isWebsocket fd = websocket := by
  obtain ⟨session, hsession, heq⟩ := List.mem_map.mp hmem
  obtain ⟨rfl, rfl⟩ : session.1.fd = fd ∧ session.2 = websocket := by simpa using heq
  have hsame : ∀ other ∈ s.sessions, other.1.fd = session.1.fd → other = session :=
    fun other hother hfd => List.inj_on_of_nodup_map h.clients hother hsession hfd
  cases hwebsocket : session.2 with
  | true => exact List.any_eq_true.mpr ⟨session, hsession, by simp [hwebsocket]⟩
  | false =>
      refine List.any_eq_false.mpr fun other hother => ?_
      by_cases hfd : other.1.fd = session.1.fd
      · simp [hsame other hother hfd, hwebsocket]
      · simp [hfd]

/-- One descriptor of the loop. -/
structure Advances (task : Task) (fds : List Int) (frames : List (Int × Json)) (s u : State) :
    Prop where
  run : ∃ labels, Run step (onlyBy task) s labels u
  ordered : Ordered u
  sessions : u.sessions = s.sessions
  sent : u.sent = s.sent
  position : u.position task = { sending := none, fds := fds }
  outbox : u.outbox = s.outbox ++ frames

theorem Advances.trans {fds fds' : List Int} {frames frames' : List (Int × Json)} {t : State}
    (h : Advances task fds frames s t) (h' : Advances task fds' frames' t u) :
    Advances task fds' (frames ++ frames') s u where
  run := by
    obtain ⟨front, hfront⟩ := h.run
    obtain ⟨back, hback⟩ := h'.run
    exact ⟨front ++ back, hfront.append hback⟩
  ordered := h'.ordered
  sessions := h'.sessions.trans h.sessions
  sent := h'.sent.trans h.sent
  position := h'.position
  outbox := by rw [h'.outbox, h.outbox, List.append_assoc]

theorem exists_send {message : Json} {fd : Int} {fds : List Int} (h : Ordered s)
    (hwebsocket : s.isWebsocket fd = true)
    (hposition : s.position task = { sending := none, fds := fd :: fds })
    (hlast : (s.sent task).getLast?.map Outgoing.message = some message)
    (outcome : SendOutcome) :
    ∃ u, Advances task fds (if outcome = .queued then [(fd, message)] else []) s u := by
  obtain ⟨outgoing, hfound, rfl⟩ := Option.map_eq_some_iff.mp hlast
  have hnext : step s (.next task) = some (s.goOn task { sending := some fd, fds := fds }) := by
    simp [step, hposition, hwebsocket]
  have hsend : step (s.goOn task { sending := some fd, fds := fds }) (.send task outcome) =
      some (((s.goOn task { sending := some fd, fds := fds }).websocketSendMessageToClient task
        fd outcome).goOn task { sending := none, fds := fds }) := by
    simp [step, State.goOn]
  refine ⟨_, ⟨_, (run_one hnext rfl).append (run_one hsend rfl)⟩, (h.step hnext).step hsend,
    ?_, ?_, ?_, ?_⟩
  · cases outcome <;> rfl
  · cases outcome <;> rfl
  · cases outcome <;> simp [State.goOn, State.websocketSendMessageToClient]
  · cases outcome <;>
      simp [State.goOn, State.websocketSendMessageToClient, State.outbox, hfound]

theorem exists_skip {fd : Int} {fds : List Int} (h : Ordered s)
    (hwebsocket : s.isWebsocket fd = false)
    (hposition : s.position task = { sending := none, fds := fd :: fds }) :
    ∃ u, Advances task fds [] s u := by
  have hnext : step s (.next task) = some (s.goOn task { sending := none, fds := fds }) := by
    simp [step, hposition, hwebsocket]
  refine ⟨_, ⟨_, run_one hnext rfl⟩, h.step hnext, rfl, rfl, ?_, ?_⟩
  · simp [State.goOn]
  · simp [State.outbox, State.goOn]

/-- The loop of a broadcast, with the outcomes of its calls. -/
theorem exists_loop (task : Task) (message : Json) (rest : List (Int × Bool)) (heap : Stream' Bool)
    (httpd : Stream' (Option EspErr)) {s : State} (h : Ordered s)
    (hrest : rest ⊆ s.boardSessions)
    (hposition : s.position task = { sending := none, fds := rest.map Prod.fst })
    (hlast : (s.sent task).getLast?.map Outgoing.message = some message) :
    ∃ u, Advances task [] ((sentTo rest heap httpd).map fun fd => (fd, message)) s u := by
  induction rest generalizing heap httpd s with
  | nil => exact ⟨s, ⟨[], .nil⟩, h, rfl, rfl, hposition, by simp [sentTo]⟩
  | cons session rest ih =>
      obtain ⟨fd, websocket⟩ := session
      have hwebsocket := isWebsocket_of_mem h (hrest List.mem_cons_self)
      have hgoOn : ∀ {frames : List (Int × Json)} {t : State},
          Advances task (rest.map Prod.fst) frames s t → ∀ heap httpd, ∃ u,
            Advances task [] (frames ++ (sentTo rest heap httpd).map fun fd => (fd, message)) s
              u := by
        intro frames t ht heap httpd
        have hsessions : t.boardSessions = s.boardSessions := by
          rw [State.boardSessions, State.boardSessions, ht.sessions]
        obtain ⟨u, hu⟩ := ih heap httpd ht.ordered
          (hsessions ▸ List.subset_of_cons_subset hrest) ht.position (ht.sent ▸ hlast)
        exact ⟨u, ht.trans hu⟩
      cases websocket with
      | false =>
          obtain ⟨t, hskip⟩ := exists_skip h hwebsocket hposition
          simpa [sentTo] using hgoOn hskip heap httpd
      | true =>
          have hsend := exists_send h hwebsocket hposition hlast
          rw [sentTo]
          split
          · obtain ⟨t, ht⟩ := hsend .noArg
            simpa using hgoOn ht heap.tail httpd
          · split
            · obtain ⟨t, ht⟩ := hsend .noCopy
              simpa using hgoOn ht heap.tail.tail httpd
            · cases httpd.head with
              | some err =>
                  obtain ⟨t, ht⟩ := hsend .notQueued
                  simpa using hgoOn ht heap.tail.tail httpd.tail
              | none =>
                  obtain ⟨t, ht⟩ := hsend .queued
                  simpa using hgoOn ht heap.tail.tail httpd.tail

/-- A broadcast that no other step comes between queues what `websocketBroadcastMessage`
queues on a board with the same sessions. -/
theorem exists_uninterrupted_broadcast (h : Ordered s) (hidle : s.position task = Position.idle)
    (message : Json) (w : World) (hrunning : w.board.running = true)
    (hsessions : w.board.sessions = s.boardSessions) :
    ∃ labels u, Run step (onlyBy task) s labels u ∧
      u.position task = Position.idle ∧
      ((websocketBroadcastMessage message).run w).2.board.outbox =
        w.board.outbox ++ u.outbox.drop s.outbox.length := by
  obtain ⟨r, heap, httpd, hrun⟩ := websocketBroadcastMessage_run message w
  rw [hrun]
  have hbegin : ∀ listed, step s (.broadcast task message listed) = some (s.begin task
      { fd := none, message := message }
      { sending := none, fds := if listed then s.clientList else [] }) := by
    simp [step, hidle]
  have hrunning : ¬w.board.running = false := by simp [hrunning]
  cases hlist : w.httpd.head with
  | some err =>
      refine ⟨_, _, run_one (hbegin false) rfl, ?_, ?_⟩
      · simp [State.begin, State.goOn, Position.idle]
      · simp [queueEach, broadcastTo, hrunning, hlist, State.outbox, State.begin, State.goOn]
  | none =>
      obtain ⟨u, hu⟩ := exists_loop task message w.board.sessions w.heap w.httpd.tail
        (h.step (hbegin true)) (by rw [hsessions]; exact List.Subset.refl _)
        (by simp [State.begin, State.goOn, hsessions, State.boardSessions, State.clientList,
          Function.comp_def])
        (by simp [State.begin])
      obtain ⟨labels, hlabels⟩ := hu.run
      refine ⟨_, u, (run_one (hbegin true) rfl).append hlabels, hu.position, ?_⟩
      rw [hu.outbox]
      simp [queueEach, broadcastTo, hrunning, hlist, State.outbox, State.begin, State.goOn]

end Orchestrator.Server.Tasks
