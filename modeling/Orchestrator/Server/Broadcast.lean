import Orchestrator.Server.Send

/-!
# A broadcast, call by call

`websocket_broadcast_message` asks the HTTP server for its open sessions and
sends the message to each that is in WebSocket mode. Here every send is on record
with what it returned, and the messages are texts.
-/

namespace Orchestrator.Server.Broadcast

open Lib

/-- A handle of the HTTP server that is not null. -/
abbrev HttpdHandle := Nat

/-- `MAX_CLIENTS` -/
def maxClients : Nat := 10

/-- `httpd_ws_client_info_t` -/
inductive HttpdWsClientInfo
  | invalid
  | http
  | websocket
  deriving DecidableEq, Repr

/-- What `httpd_get_client_list` writes into an array of `MAX_CLIENTS` descriptors. -/
structure ClientList where
  fds : List Int
  fits : fds.length ≤ maxClients

structure AsyncSendArg where
  httpdHandle : HttpdHandle
  clientFd : Int
  message : CStr
  deriving DecidableEq, Repr

/-- What a broadcast finds, and the outcomes of the calls it is going to make. -/
structure Environment where
  server : Option HttpdHandle
  clientList : ClientList
  wsInfo : Int → HttpdWsClientInfo
  heap : Stream' Bool
  httpd : Stream' (Option EspErr)

/-- A call of `websocket_send_message_to_client`, and what it returned. -/
structure Send where
  fd : Int
  message : Option CStr
  result : EspResult Unit

structure State extends Environment where
  sends : List Send
  /-- The work items that the HTTP server took, oldest first. -/
  queued : List AsyncSendArg

/-- Before the first call. -/
def Environment.start (e : Environment) : State where
  toEnvironment := e
  sends := []
  queued := []

/-! ## The calls -/

def malloc : StateM State Bool :=
  modifyGet fun s => (s.heap.head, { s with heap := s.heap.tail })

/-- `strdup`, which copies the text up to its terminator. -/
def strdup (message : CStr) : StateM State (Option CStr) := do
  return if ← malloc then some message else none

/-- The outcome of the next call of the HTTP server. -/
def httpdOutcome : StateM State (Option EspErr) :=
  modifyGet fun s => (s.httpd.head, { s with httpd := s.httpd.tail })

/-- `httpd_queue_work` with `async_send_task` -/
def httpdQueueWork (arg : AsyncSendArg) : StateM State (EspResult Unit) := do
  match ← httpdOutcome with
  | some err => return .error err
  | none =>
      modify fun s => { s with queued := s.queued ++ [arg] }
      return .ok ⟨⟩

/-- `httpd_get_client_list` -/
def httpdGetClientList : StateM State (EspResult ClientList) := do
  match ← httpdOutcome with
  | some err => return .error err
  | none => return .ok (← get).clientList

/-- `httpd_ws_get_fd_info` -/
def httpdWsGetFdInfo (fd : Int) : StateM State HttpdWsClientInfo := do
  return (← get).wsInfo fd

def record (send : Send) : StateM State Unit :=
  modify fun s => { s with sends := s.sends ++ [send] }

/-! ## The functions -/

/-- `websocket_send_message_to_client` -/
def websocketSendMessageToClient (fd : Int) (message : Option CStr) :
    StateM State (EspResult Unit) := do
  match (← get).server, message with
  | some server, some message =>
      if ← malloc then
        match ← strdup message with
        -- `free(arg)`
        | none => return .error EspErr.noMem
        | some copy => httpdQueueWork { httpdHandle := server, clientFd := fd, message := copy }
      else return .error EspErr.noMem
  | _, _ => return .error EspErr.invalidArg

/-- The loop over the descriptors. The result of a send is on record, and not looked at. -/
def sendToEach (message : Option CStr) : List Int → StateM State Unit
  | [] => return
  | fd :: fds => do
      if (← httpdWsGetFdInfo fd) = .websocket then
        let result ← websocketSendMessageToClient fd message
        record { fd := fd, message := message, result := result }
        sendToEach message fds
      else sendToEach message fds

/-- `websocket_broadcast_message` -/
def websocketBroadcastMessage (message : Option CStr) : StateM State (EspResult Unit) := do
  if (← get).server.isNone ∨ message.isNone then return .error EspErr.invalidArg
  else
    match ← httpdGetClientList with
    | .error _ => return .error EspErr.espFail
    | .ok clients =>
        sendToEach message clients.fds
        return .ok ⟨⟩

/-! ## What a broadcast promises -/

/-- The sessions in WebSocket mode. -/
def Environment.clients (e : Environment) : List Int :=
  e.clientList.fds.filter fun fd => e.wsInfo fd = .websocket

/-- The broadcast has a message to send, and gets the list of the sessions. -/
structure Environment.Lists (e : Environment) (message : Option CStr) : Prop where
  server : e.server.isSome
  message : message.isSome
  list : e.httpd.head = none

def Send.request (send : Send) : Int × Option CStr := (send.fd, send.message)

def AsyncSendArg.request (arg : AsyncSendArg) : Int × Option CStr :=
  (arg.clientFd, some arg.message)

/-- Every client gets one send of the whole message, and the result tells whether all of
them came into the queue. -/
structure CompleteAndHonest (message : Option CStr) (e : Environment) : Prop where
  complete : e.Lists message →
    (websocketBroadcastMessage message e.start).2.sends.map Send.request =
      e.clients.map fun fd => (fd, message)
  idle : ¬e.Lists message → (websocketBroadcastMessage message e.start).2.sends = []
  honest : (websocketBroadcastMessage message e.start).1 = .ok ⟨⟩ →
    (websocketBroadcastMessage message e.start).2.queued.map AsyncSendArg.request =
      e.clients.map fun fd => (fd, message)
  reports : (∃ send ∈ (websocketBroadcastMessage message e.start).2.sends,
      send.result ≠ .ok ⟨⟩) →
    (websocketBroadcastMessage message e.start).1 = .error EspErr.espFail

/-- Nothing that `n` sends call will fail: two allocations and one call of the server each. -/
structure Passes (n : Nat) (heap : Stream' Bool) (httpd : Stream' (Option EspErr)) : Prop where
  heap : ∀ k < 2 * n, heap.get k = true
  httpd : ∀ k < n, httpd.get k = none

/-! ## One send -/

theorem passes_zero (heap : Stream' Bool) (httpd : Stream' (Option EspErr)) :
    Passes 0 heap httpd := ⟨nofun, nofun⟩

theorem passes_succ {n : Nat} {heap : Stream' Bool} {httpd : Stream' (Option EspErr)} :
    Passes (n + 1) heap httpd ↔
      (heap.head = true ∧ heap.tail.head = true ∧ httpd.head = none) ∧
        Passes n heap.tail.tail httpd.tail := by
  constructor
  · intro h
    refine ⟨⟨h.heap 0 (by omega), h.heap 1 (by omega), h.httpd 0 (by omega)⟩, ?_, ?_⟩
    · exact fun k hk => h.heap (k + 2) (by omega)
    · exact fun k hk => h.httpd (k + 1) (by omega)
  · rintro ⟨⟨hfirst, hsecond, hcall⟩, hrest⟩
    constructor
    · intro k hk
      rcases k with - | - | k
      · exact hfirst
      · exact hsecond
      · exact hrest.heap k (by omega)
    · intro k hk
      cases k with
      | zero => exact hcall
      | succ k => exact hrest.httpd k (by omega)

variable {server : HttpdHandle} {text : CStr} {s s' : State}

theorem bind_apply {α β : Type} (m : StateM State α) (f : α → StateM State β) (s : State) :
    (m >>= f) s = f (m s).1 (m s).2 := rfl

theorem httpdQueueWork_apply (arg : AsyncSendArg) (s : State) :
    httpdQueueWork arg s = match s.httpd.head with
      | some err => (.error err, { s with httpd := s.httpd.tail })
      | none => (.ok ⟨⟩, { s with httpd := s.httpd.tail, queued := s.queued ++ [arg] }) := by
  unfold httpdQueueWork
  rw [bind_apply, show httpdOutcome s = (s.httpd.head, { s with httpd := s.httpd.tail }) from rfl]
  cases s.httpd.head with
  | some err => rfl
  | none => rfl

theorem httpdGetClientList_apply (s : State) : httpdGetClientList s =
    ((match s.httpd.head with
      | some err => .error err
      | none => .ok s.clientList), { s with httpd := s.httpd.tail }) := by
  unfold httpdGetClientList
  rw [bind_apply, show httpdOutcome s = (s.httpd.head, { s with httpd := s.httpd.tail }) from rfl]
  cases s.httpd.head with
  | some err => rfl
  | none => rfl

theorem websocketSendMessageToClient_apply (h : s.server = some server) (fd : Int)
    (text : CStr) : websocketSendMessageToClient fd (some text) s =
      if s.heap.head = false then (.error EspErr.noMem, { s with heap := s.heap.tail })
      else if s.heap.tail.head = false then
        (.error EspErr.noMem, { s with heap := s.heap.tail.tail })
      else match s.httpd.head with
        | some err => (.error err, { s with heap := s.heap.tail.tail, httpd := s.httpd.tail })
        | none => (.ok ⟨⟩, { s with
            heap := s.heap.tail.tail
            httpd := s.httpd.tail
            queued := s.queued ++
              [{ httpdHandle := server, clientFd := fd, message := text }] }) := by
  obtain ⟨⟨_, clientList, wsInfo, heap, httpd⟩, sends, queued⟩ := s
  cases h
  have hmalloc (heap : Stream' Bool) : malloc ⟨⟨some server, clientList, wsInfo, heap, httpd⟩,
      sends, queued⟩ = (heap.head, ⟨⟨some server, clientList, wsInfo, heap.tail, httpd⟩, sends,
        queued⟩) := rfl
  unfold websocketSendMessageToClient strdup
  rw [bind_apply, show (get : StateM State State) _ = (_, _) from rfl]
  dsimp only
  rw [bind_apply, hmalloc]
  cases heap.head with
  | false => rfl
  | true =>
      dsimp only [if_true]
      rw [if_pos rfl, if_neg (by decide), bind_apply, bind_apply, hmalloc]
      cases heap.tail.head with
      | false => rfl
      | true => exact httpdQueueWork_apply _ _

/-- A send fails when one of the calls that it makes does, and puts nothing into the queue. -/
theorem websocketSendMessageToClient_cases (h : s.server = some server) (fd : Int)
    (text : CStr) :
    (¬(s.heap.head = true ∧ s.heap.tail.head = true ∧ s.httpd.head = none) ∧
      ∃ err heap httpd, websocketSendMessageToClient fd (some text) s =
        (.error err, { s with heap := heap, httpd := httpd })) ∨
    ((s.heap.head = true ∧ s.heap.tail.head = true ∧ s.httpd.head = none) ∧
      websocketSendMessageToClient fd (some text) s = (.ok ⟨⟩, { s with
        heap := s.heap.tail.tail
        httpd := s.httpd.tail
        queued := s.queued ++ [⟨server, fd, text⟩] })) := by
  rw [websocketSendMessageToClient_apply h]
  split
  · next hfirst =>
    refine .inl ⟨fun hall => ?_, EspErr.noMem, s.heap.tail, s.httpd, rfl⟩
    exact Bool.false_ne_true (hfirst.symm.trans hall.1)
  · next hfirst =>
    split
    · next hsecond =>
      refine .inl ⟨fun hall => ?_, EspErr.noMem, s.heap.tail.tail, s.httpd, rfl⟩
      exact Bool.false_ne_true (hsecond.symm.trans hall.2.1)
    · next hsecond =>
      cases hcall : s.httpd.head with
      | some err =>
          exact .inl ⟨fun hall => (by cases hall.2.2), err, s.heap.tail.tail, s.httpd.tail, rfl⟩
      | none =>
          rw [Bool.not_eq_false] at hfirst hsecond
          exact .inr ⟨⟨hfirst, hsecond, rfl⟩, rfl⟩

/-! ## The loop -/

/-- The work item of a send. -/
def Send.arg (server : HttpdHandle) (text : CStr) (send : Send) : AsyncSendArg :=
  { httpdHandle := server, clientFd := send.fd, message := text }

def Send.succeeded (send : Send) : Bool := send.result.isOk

theorem Send.succeeded_iff {send : Send} : send.succeeded = true ↔ send.result = .ok ⟨⟩ := by
  unfold succeeded
  cases send.result with
  | error err => exact iff_of_false Bool.false_ne_true nofun
  | ok a => exact iff_of_true rfl rfl

/-- A send is made for each of these clients; those that succeed are in the queue, and all
do when nothing they call fails. -/
structure Accounts (server : HttpdHandle) (text : CStr) (clients : List Int) (s s' : State)
    (calls : List Send) : Prop where
  sends : s'.sends = s.sends ++ calls
  queued : s'.queued = s.queued ++ (calls.filter Send.succeeded).map (Send.arg server text)
  attempts : calls.map Send.request = clients.map fun fd => (fd, some text)
  passes : (∀ send ∈ calls, send.succeeded) ↔ Passes clients.length s.heap s.httpd

namespace Accounts

variable {clients : List Int} {calls : List Send} {s₁ : State} {fd : Int}

theorem nil (s : State) : Accounts server text [] s s [] where
  sends := (List.append_nil s.sends).symm
  queued := (List.append_nil s.queued).symm
  attempts := rfl
  passes := iff_of_true nofun (passes_zero s.heap s.httpd)

/-- A send that fails is on record, and the loop goes on. -/
theorem error {err : EspErr}
    (h : Accounts server text clients s₁ s' calls)
    (hfails : ¬(s.heap.head = true ∧ s.heap.tail.head = true ∧ s.httpd.head = none))
    (hsends : s₁.sends = s.sends ++ [⟨fd, some text, .error err⟩])
    (hqueued : s₁.queued = s.queued) :
    Accounts server text (fd :: clients) s s' (⟨fd, some text, .error err⟩ :: calls) where
  sends := by rw [h.sends, hsends, List.append_assoc, List.singleton_append]
  queued := by rw [h.queued, hqueued]; rfl
  attempts := congrArg ((fd, some text) :: ·) h.attempts
  passes := by
    apply iff_of_false
    · exact fun hall => Bool.false_ne_true (hall _ List.mem_cons_self)
    · exact fun hpasses => hfails (passes_succ.mp hpasses).1

theorem ok (h : Accounts server text clients s₁ s' calls)
    (hcalls : s.heap.head = true ∧ s.heap.tail.head = true ∧ s.httpd.head = none)
    (hheap : s₁.heap = s.heap.tail.tail) (hhttpd : s₁.httpd = s.httpd.tail)
    (hsends : s₁.sends = s.sends ++ [⟨fd, some text, .ok ⟨⟩⟩])
    (hqueued : s₁.queued = s.queued ++ [⟨server, fd, text⟩]) :
    Accounts server text (fd :: clients) s s' (⟨fd, some text, .ok ⟨⟩⟩ :: calls) where
  sends := by rw [h.sends, hsends, List.append_assoc, List.singleton_append]
  queued := by
    rw [h.queued, hqueued, List.append_assoc, List.filter_cons_of_pos rfl]
    rfl
  attempts := congrArg ((fd, some text) :: ·) h.attempts
  passes := by
    rw [List.forall_mem_cons, h.passes, hheap, hhttpd, List.length_cons, passes_succ]
    exact and_congr_left fun _ => iff_of_true rfl hcalls

end Accounts

theorem sendToEach_client {fd : Int} (h : s.wsInfo fd = .websocket) (message : Option CStr)
    (fds : List Int) : sendToEach message (fd :: fds) s =
      sendToEach message fds { (websocketSendMessageToClient fd message s).2 with
        sends := (websocketSendMessageToClient fd message s).2.sends ++
          [⟨fd, message, (websocketSendMessageToClient fd message s).1⟩] } := by
  rw [sendToEach, bind_apply, show httpdWsGetFdInfo fd s = (s.wsInfo fd, s) from rfl, if_pos h]
  rfl

theorem sendToEach_other {fd : Int} (h : s.wsInfo fd ≠ .websocket) (message : Option CStr)
    (fds : List Int) : sendToEach message (fd :: fds) s = sendToEach message fds s := by
  rw [sendToEach, bind_apply, show httpdWsGetFdInfo fd s = (s.wsInfo fd, s) from rfl, if_neg h]

/-- The loop does not stop at a send that fails. -/
theorem sendToEach_accounts (text : CStr) (h : s.server = some server) (fds : List Int) :
    ∃ calls, Accounts server text (fds.filter fun fd => s.wsInfo fd = .websocket) s
      (sendToEach (some text) fds s).2 calls := by
  induction fds generalizing s with
  | nil => exact ⟨[], Accounts.nil s⟩
  | cons fd fds ih =>
      by_cases hclient : s.wsInfo fd = .websocket
      swap
      · rw [sendToEach_other hclient, List.filter_cons_of_neg (by simpa using hclient)]
        exact ih h
      rw [sendToEach_client hclient, List.filter_cons_of_pos (by simpa using hclient)]
      rcases websocketSendMessageToClient_cases h fd text with
        ⟨hfails, err, heap, httpd, hsend⟩ | ⟨hpasses, hsend⟩
      · rw [hsend]
        obtain ⟨calls, hcalls⟩ := ih (s := { s with
          heap := heap
          httpd := httpd
          sends := s.sends ++ [⟨fd, some text, .error err⟩] }) h
        exact ⟨_, hcalls.error hfails rfl rfl⟩
      · rw [hsend]
        obtain ⟨calls, hcalls⟩ := ih (s := { s with
          heap := s.heap.tail.tail
          httpd := s.httpd.tail
          sends := s.sends ++ [⟨fd, some text, .ok ⟨⟩⟩]
          queued := s.queued ++ [⟨server, fd, text⟩] }) h
        exact ⟨_, hcalls.ok hpasses rfl rfl rfl rfl⟩

namespace Accounts

variable {clients : List Int} {calls : List Send}

theorem map_fd (h : Accounts server text clients s s' calls) : calls.map Send.fd = clients := by
  calc calls.map Send.fd
    _ = (calls.map Send.request).map Prod.fst := by rw [List.map_map]; rfl
    _ = (clients.map fun fd => (fd, some text)).map Prod.fst := by rw [h.attempts]
    _ = clients := by rw [List.map_map]; exact List.map_id clients

/-- All are in the queue just when no call failed. -/
theorem queued_eq_iff (h : Accounts server text clients s s' calls) :
    s'.queued.map AsyncSendArg.request =
        s.queued.map AsyncSendArg.request ++ clients.map (fun fd => (fd, some text)) ↔
      ∀ send ∈ calls, send.succeeded := by
  have hrequests (sends : List Send) :
      (sends.map (Send.arg server text)).map AsyncSendArg.request =
        (sends.map Send.fd).map fun fd => (fd, some text) := by
    rw [List.map_map, List.map_map]
    rfl
  rw [h.queued, List.map_append, List.append_cancel_left_eq, hrequests, ← h.map_fd]
  constructor
  · intro heq
    have hlength := congrArg List.length heq
    simp only [List.length_map] at hlength
    exact List.length_filter_eq_length_iff.mp hlength
  · intro hall
    rw [List.filter_eq_self.mpr hall]

end Accounts

/-! ## The broadcast -/

variable {e : Environment} {message : Option CStr}

/-- Without a server, a message or the list of sessions nothing is sent. -/
theorem websocketBroadcastMessage_idle (h : ¬e.Lists message) : ∃ err httpd,
    websocketBroadcastMessage message e.start =
      (.error err, { e.start with httpd := httpd }) := by
  unfold websocketBroadcastMessage
  rw [bind_apply, show (get : StateM State State) e.start = (e.start, e.start) from rfl]
  split
  · exact ⟨EspErr.invalidArg, e.httpd, rfl⟩
  · next hgiven =>
    rw [not_or, Bool.not_eq_true, Bool.not_eq_true, Option.isNone_eq_false_iff,
      Option.isNone_eq_false_iff] at hgiven
    rw [bind_apply, httpdGetClientList_apply]
    cases hlist : e.start.httpd.head with
    | some err => exact ⟨EspErr.espFail, e.httpd.tail, rfl⟩
    | none => exact absurd ⟨hgiven.1, hgiven.2, hlist⟩ h

theorem websocketBroadcastMessage_accounts (h : e.Lists message) : ∃ server text calls,
    message = some text ∧ (websocketBroadcastMessage message e.start).1 = .ok ⟨⟩ ∧
      Accounts server text e.clients { e.start with httpd := e.httpd.tail }
        (websocketBroadcastMessage message e.start).2 calls := by
  obtain ⟨server, hserver⟩ := Option.isSome_iff_exists.mp h.server
  obtain ⟨text, rfl⟩ := Option.isSome_iff_exists.mp h.message
  have hrun : websocketBroadcastMessage (some text) e.start =
      (.ok ⟨⟩, (sendToEach (some text) e.clientList.fds
        { e.start with httpd := e.httpd.tail }).2) := by
    unfold websocketBroadcastMessage
    rw [bind_apply, show (get : StateM State State) e.start = (e.start, e.start) from rfl]
    rw [if_neg (by simp [Environment.start, hserver]), bind_apply, httpdGetClientList_apply]
    rw [show e.start.httpd.head = none from h.list]
    rfl
  obtain ⟨calls, haccounts⟩ := sendToEach_accounts text
    (s := { e.start with httpd := e.httpd.tail }) hserver e.clientList.fds
  rw [hrun]
  exact ⟨server, text, calls, rfl, rfl, haccounts⟩

/-- Every client gets its send, whatever becomes of the others. -/
theorem websocketBroadcastMessage_complete (h : e.Lists message) :
    (websocketBroadcastMessage message e.start).2.sends.map Send.request =
      e.clients.map fun fd => (fd, message) := by
  obtain ⟨server, text, calls, rfl, -, haccounts⟩ := websocketBroadcastMessage_accounts h
  rw [haccounts.sends]
  exact haccounts.attempts

/-- A broadcast keeps its promise just when no send fails: it reports success in any case. -/
theorem completeAndHonest_iff (message : Option CStr) (e : Environment) :
    CompleteAndHonest message e ↔
      (e.Lists message → Passes e.clients.length e.heap e.httpd.tail) := by
  by_cases hlists : e.Lists message
  · obtain ⟨server, text, calls, rfl, hok, haccounts⟩ :=
      websocketBroadcastMessage_accounts hlists
    have hpasses := haccounts.passes
    have hqueued := haccounts.queued_eq_iff
    constructor
    · intro h _
      exact hpasses.mp (hqueued.mp (h.honest hok))
    · intro h
      have hall := hpasses.mpr (h hlists)
      constructor
      · exact websocketBroadcastMessage_complete
      · exact fun hidle => absurd hlists hidle
      · exact fun _ => hqueued.mpr hall
      · rintro ⟨send, hsend, hfailed⟩
        rw [haccounts.sends] at hsend
        exact absurd (Send.succeeded_iff.mp (hall send hsend)) hfailed
  · obtain ⟨err, httpd, hrun⟩ := websocketBroadcastMessage_idle hlists
    refine iff_of_true ?_ fun h => absurd h hlists
    constructor
    · exact fun h => absurd h hlists
    · intro _
      rw [hrun]
      rfl
    · intro hok
      rw [hrun] at hok
      cases hok
    · rintro ⟨send, hsend, -⟩
      rw [hrun] at hsend
      cases hsend

/-- Two clients, and a queue that does not take the first message. -/
def fullQueue : Environment where
  server := some 0
  clientList := ⟨[54, 55], by decide⟩
  wsInfo _ := .websocket
  heap := allSucceed
  httpd := Stream'.cons none (Stream'.cons (some EspErr.espFail) (Stream'.const none))

/-- One client does not get the message, and the broadcast reports success. -/
theorem fullQueue_reports_success :
    (websocketBroadcastMessage (some (CStr.lit "{}")) fullQueue.start).1 = .ok ⟨⟩ ∧
      (websocketBroadcastMessage (some (CStr.lit "{}")) fullQueue.start).2.queued.map
        AsyncSendArg.request = [(55, some (CStr.lit "{}"))] ∧
      ¬CompleteAndHonest (some (CStr.lit "{}")) fullQueue := by
  have hqueued : (websocketBroadcastMessage (some (CStr.lit "{}")) fullQueue.start).2.queued.map
      AsyncSendArg.request = [(55, some (CStr.lit "{}"))] := rfl
  refine ⟨rfl, hqueued, fun h => ?_⟩
  have hall := congrArg List.length (hqueued.symm.trans (h.honest rfl))
  exact absurd hall (by decide)

/-! ## The board -/

section Board

variable {json : Json} {outbox : List (Int × Json)} {w : World}

/-- The board has the frames that the work items will send, each as the tree its text was
printed from. -/
structure Represents (json : Json) (outbox : List (Int × Json)) (s : State) (w : World) :
    Prop where
  running : w.board.running = s.server.isSome
  heap : w.heap = s.heap
  httpd : w.httpd = s.httpd
  queued : w.board.outbox = outbox ++ s.queued.map fun arg => (arg.clientFd, json)

theorem Represents.send (h : Represents json outbox s w) (hserver : s.server = some server)
    (fd : Int) (text : CStr) :
    ((Server.websocketSendMessageToClient fd json).run w).1 =
        (websocketSendMessageToClient fd (some text) s).1 ∧
      Represents json outbox (websocketSendMessageToClient fd (some text) s).2
        ((Server.websocketSendMessageToClient fd json).run w).2 := by
  have hrunning : w.board.running = true := by rw [h.running, hserver]; rfl
  rw [Server.websocketSendMessageToClient_run hrunning, websocketSendMessageToClient_apply hserver,
    h.heap, h.httpd]
  split
  · exact ⟨rfl, { h with heap := rfl, httpd := rfl }⟩
  · split
    · exact ⟨rfl, { h with heap := rfl, httpd := rfl }⟩
    · cases s.httpd.head with
      | some err => exact ⟨rfl, { h with heap := rfl, httpd := rfl }⟩
      | none =>
          refine ⟨rfl, { h with heap := rfl, httpd := rfl, queued := ?_ }⟩
          simp [Server.queueWork, h.queued]

/-- A send changes the queue and what the next calls find, and nothing else. -/
theorem websocketSendMessageToClient_keeps (hserver : s.server = some server) (fd : Int)
    (text : CStr) :
    (websocketSendMessageToClient fd (some text) s).2.server = some server ∧
      (websocketSendMessageToClient fd (some text) s).2.wsInfo = s.wsInfo := by
  rcases websocketSendMessageToClient_cases hserver fd text with
    ⟨-, err, heap, httpd, hsend⟩ | ⟨-, hsend⟩
  · rw [hsend]
    exact ⟨hserver, rfl⟩
  · rw [hsend]
    exact ⟨hserver, rfl⟩

theorem Represents.sendToEach (h : Represents json outbox s w) (hserver : s.server = some server)
    (text : CStr) {sessions : List (Int × Bool)}
    (hinfo : ∀ session ∈ sessions, s.wsInfo session.1 = .websocket ↔ session.2 = true) :
    Represents json outbox (sendToEach (some text) (sessions.map Prod.fst) s).2
      (Server.sendToEach json sessions w).2 := by
  induction sessions generalizing s w with
  | nil => exact h
  | cons session sessions ih =>
      obtain ⟨fd, websocket⟩ := session
      rw [List.forall_mem_cons] at hinfo
      rw [List.map_cons]
      cases websocket with
      | false =>
          have hother : s.wsInfo fd ≠ .websocket := fun hfd =>
            Bool.false_ne_true (hinfo.1.mp hfd)
          rw [sendToEach_other hother]
          exact ih h hserver hinfo.2
      | true =>
          have hsend := (h.send hserver fd text).2
          obtain ⟨hserver', hinfo'⟩ := websocketSendMessageToClient_keeps hserver fd text
          rw [sendToEach_client (hinfo.1.mpr rfl)]
          refine ih { hsend with } hserver' ?_
          rw [show _ = s.wsInfo from hinfo']
          exact hinfo.2

/-- The handlers see the same result, and the same frames are queued. -/
theorem websocketBroadcastMessage_refines (h : Represents json outbox s w) (text : CStr)
    (hlist : s.clientList.fds = w.board.sessions.map Prod.fst)
    (hinfo : ∀ session ∈ w.board.sessions,
      s.wsInfo session.1 = .websocket ↔ session.2 = true) :
    ((Server.websocketBroadcastMessage json).run w).1 =
        (websocketBroadcastMessage (some text) s).1 ∧
      Represents json outbox (websocketBroadcastMessage (some text) s).2
        ((Server.websocketBroadcastMessage json).run w).2 := by
  unfold Server.websocketBroadcastMessage websocketBroadcastMessage
  rw [Esp.run_liftM_bind (m := Handler.getBoard) (w := w) rfl, bind_apply,
    show (get : StateM State State) s = (s, s) from rfl]
  cases hserver : s.server with
  | none =>
      have hrunning : w.board.running = false := by rw [h.running, hserver]; rfl
      rw [if_pos hrunning, if_pos (.inl rfl)]
      exact ⟨rfl, h⟩
  | some server =>
      rw [if_neg (by simp [h.running, hserver]), if_neg (by simp)]
      rw [Esp.run_liftM_bind (m := Handler.httpdOutcome) rfl, bind_apply, httpdGetClientList_apply,
        h.httpd]
      cases s.httpd.head with
      | some err => exact ⟨rfl, { h with httpd := rfl }⟩
      | none =>
          have hloop := Represents.sendToEach (s := { s with httpd := s.httpd.tail })
            (w := { w with httpd := s.httpd.tail }) { h with httpd := rfl } hserver text hinfo
          rw [← hlist] at hloop
          dsimp only
          rw [Esp.run_liftM_of (m := Server.sendToEach json w.board.sessions) rfl]
          exact ⟨rfl, hloop⟩

end Board

end Orchestrator.Server.Broadcast
