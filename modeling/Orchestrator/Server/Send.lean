import Orchestrator.World

/-!
# Queueing text frames

`websocket_send_message_to_client` copies a message and queues its
transmission; `websocket_broadcast_message` does so for every WebSocket client.
-/

namespace Orchestrator.Server

open Lib Handler

/-- A frame is in the queue of the HTTP server. -/
def queueWork (fd : Int) (message : Json) (b : Board) : Board :=
  { b with outbox := b.outbox ++ [(fd, message)] }

/-- `websocket_send_message_to_client` -/
def websocketSendMessageToClient (fd : Int) (message : Json) : Esp Unit := do
  if (← getBoard).running = false then throw EspErr.invalidArg
  -- the argument of the work item, and its copy of the message
  else if (← malloc) = false then throw EspErr.noMem
  else if (← malloc) = false then throw EspErr.noMem
  else
    match ← httpdOutcome with
    | some err => throw err
    | none => modifyBoard (queueWork fd message)

/-- The loop over the list of sessions, which ignores the result of each send. -/
def sendToEach (message : Json) : List (Int × Bool) → Handler Unit
  | [] => return
  | (fd, websocket) :: sessions => do
      if websocket then
        let _ ← (websocketSendMessageToClient fd message).run
        sendToEach message sessions
      else sendToEach message sessions

/-- `websocket_broadcast_message` -/
def websocketBroadcastMessage (message : Json) : Esp Unit := do
  let board ← getBoard
  if board.running = false then throw EspErr.invalidArg
  else
    match ← httpdOutcome with
    | some _ => throw EspErr.espFail
    | none => sendToEach message board.sessions

/-! ## Rules -/

variable {I : World → Prop} {message : Json}

theorem websocketSendMessageToClient_keeps {fd : Int} (hI : Unforeseen I)
    (hqueue : ∀ w, I w → I { w with board := queueWork fd message w.board }) :
    Esp.Keeps I (websocketSendMessageToClient fd message) fun _ => True := by
  unfold websocketSendMessageToClient
  apply Esp.Keeps.bind (Esp.Keeps.lift (getBoard_keeps (Q := fun _ => True) fun _ _ => trivial))
  rintro board -
  split
  · exact Esp.Keeps.throw
  · apply Esp.Keeps.bind (Esp.Keeps.lift hI.malloc)
    rintro ok -
    split
    · exact Esp.Keeps.throw
    · apply Esp.Keeps.bind (Esp.Keeps.lift hI.malloc)
      rintro ok -
      split
      · exact Esp.Keeps.throw
      · apply Esp.Keeps.bind (Esp.Keeps.lift hI.httpdOutcome)
        rintro (- | err) -
        · exact Esp.Keeps.lift (modifyBoard_keeps hqueue)
        · exact Esp.Keeps.throw

theorem sendToEach_keeps (hI : Unforeseen I)
    (hqueue : ∀ fd w, I w → I { w with board := queueWork fd message w.board })
    (sessions : List (Int × Bool)) : Keeps I (sendToEach message sessions) fun _ => True := by
  induction sessions with
  | nil => exact Keeps.pure trivial
  | cons session sessions ih =>
      obtain ⟨fd, websocket⟩ := session
      cases websocket with
      | true =>
          have hsend := websocketSendMessageToClient_keeps hI (hqueue fd)
          exact Keeps.bind hsend fun _ _ => ih
      | false => exact ih

theorem websocketBroadcastMessage_keeps (hI : Unforeseen I)
    (hqueue : ∀ fd w, I w → I { w with board := queueWork fd message w.board }) :
    Esp.Keeps I (websocketBroadcastMessage message) fun _ => True := by
  unfold websocketBroadcastMessage
  apply Esp.Keeps.bind (Esp.Keeps.lift (getBoard_keeps (Q := fun _ => True) fun _ _ => trivial))
  rintro board -
  split
  · exact Esp.Keeps.throw
  · apply Esp.Keeps.bind (Esp.Keeps.lift hI.httpdOutcome)
    rintro (- | err) -
    · exact Esp.Keeps.lift (sendToEach_keeps hI hqueue board.sessions)
    · exact Esp.Keeps.throw

/-- A send that succeeds has put exactly this frame into the queue. -/
theorem websocketSendMessageToClient_ends (b : Board) (fd : Int) (message : Json) :
    Esp.Ends (fun w => w.board = b) (websocketSendMessageToClient fd message) fun _ w =>
      w.board = queueWork fd message b := by
  have hI : UnforeseenNvs fun w => w.board = b := unforeseen_board fun board => board = b
  refine Esp.Ends.bindKeeps (Esp.Keeps.lift (getBoard_keeps (Q := fun _ => True) fun _ _ => trivial)) ?_
  rintro board -
  split
  · exact Esp.Ends.throw
  · refine Esp.Ends.bindKeeps (Esp.Keeps.lift hI.malloc) ?_
    rintro ok -
    split
    · exact Esp.Ends.throw
    · refine Esp.Ends.bindKeeps (Esp.Keeps.lift hI.malloc) ?_
      rintro ok -
      split
      · exact Esp.Ends.throw
      · refine Esp.Ends.bindKeeps (Esp.Keeps.lift hI.httpdOutcome) ?_
        rintro (- | err) -
        · apply Esp.Ends.lift
          rintro w rfl
          rfl
        · exact Esp.Ends.throw

/-- A send puts at most this frame into the queue. -/
theorem outbox_websocketSendMessageToClient (w : World) (fd : Int) (message : Json) :
    ((websocketSendMessageToClient fd message).run w).2.board.outbox = w.board.outbox ∨
      ((websocketSendMessageToClient fd message).run w).2.board.outbox =
        w.board.outbox ++ [(fd, message)] := by
  unfold websocketSendMessageToClient
  rw [Esp.run_liftM_bind (m := getBoard) (w := w) rfl]
  split
  · exact .inl rfl
  · rw [Esp.run_liftM_bind (m := malloc) (w := w) rfl]
    split
    · exact .inl rfl
    · rw [Esp.run_liftM_bind (m := malloc) rfl]
      split
      · exact .inl rfl
      · rw [Esp.run_liftM_bind (m := httpdOutcome) rfl]
        cases w.httpd.head with
        | some err => exact .inl rfl
        | none => exact .inr rfl

/-! ## Sends that succeed -/

/-- The server is running, and no allocation and no call of the HTTP server will fail. -/
structure SendsSucceed (w : World) : Prop where
  running : w.board.running = true
  heap : w.heap = allSucceed
  httpd : w.httpd = Stream'.const none

theorem sendsSucceed_unforeseen : UnforeseenNvs SendsSucceed where
  allocs _ h := { h with }
  heap _ h := { h with heap := (congrArg Stream'.tail h.heap).trans (Stream'.tail_const true) }
  httpd _ h := { h with httpd := (congrArg Stream'.tail h.httpd).trans (Stream'.tail_const none) }
  stack _ h := { h with }
  nvs _ _ h := { h with }

theorem malloc_succeeds {w : World} (h : SendsSucceed w) : malloc w = (true, w) := by
  obtain ⟨board, nvsFailures, allocs, heap, nvs, httpd, stack⟩ := w
  obtain ⟨-, rfl, -⟩ := h
  rfl

theorem httpdOutcome_succeeds {w : World} (h : SendsSucceed w) : httpdOutcome w = (none, w) := by
  obtain ⟨board, nvsFailures, allocs, heap, nvs, httpd, stack⟩ := w
  obtain ⟨-, -, rfl⟩ := h
  rfl

theorem websocketSendMessageToClient_succeeds {w : World} (h : SendsSucceed w) (fd : Int)
    (message : Json) : (websocketSendMessageToClient fd message).run w =
      (.ok ⟨⟩, { w with board := queueWork fd message w.board }) := by
  unfold websocketSendMessageToClient
  rw [Esp.run_liftM_bind (m := getBoard) (w := w) rfl]
  simp only [h.running, Bool.true_eq_false, if_false]
  rw [Esp.run_liftM_bind (malloc_succeeds h)]
  simp only [Bool.true_eq_false, if_false]
  rw [Esp.run_liftM_bind (malloc_succeeds h)]
  simp only [Bool.true_eq_false, if_false]
  rw [Esp.run_liftM_bind (httpdOutcome_succeeds h)]
  rfl

/-- The descriptors of the sessions that have become WebSocket clients. -/
def websocketClients (sessions : List (Int × Bool)) : List Int :=
  (sessions.filter Prod.snd).map Prod.fst

/-- A frame with the message is in the queue for each of these clients. -/
def queueEach (fds : List Int) (message : Json) (b : Board) : Board :=
  { b with outbox := b.outbox ++ fds.map fun fd => (fd, message) }

theorem queueEach_nil (message : Json) (b : Board) : queueEach [] message b = b := by
  simp [queueEach]

theorem SendsSucceed.queueWork {w : World} (h : SendsSucceed w) (fd : Int) (message : Json) :
    SendsSucceed { w with board := queueWork fd message w.board } := { h with }

theorem sendToEach_succeeds (message : Json) (sessions : List (Int × Bool)) {w : World}
    (h : SendsSucceed w) : sendToEach message sessions w =
      (⟨⟩, { w with board := queueEach (websocketClients sessions) message w.board }) := by
  induction sessions generalizing w with
  | nil =>
      rw [websocketClients, List.filter_nil, List.map_nil, queueEach_nil]
      rfl
  | cons session sessions ih =>
      obtain ⟨fd, websocket⟩ := session
      cases websocket with
      | false => exact ih h
      | true =>
          have hsend := websocketSendMessageToClient_succeeds h fd message
          rw [sendToEach, if_pos rfl, Handler.bind_apply, hsend]
          dsimp only
          rw [ih (h.queueWork fd message)]
          simp [websocketClients, queueEach, Server.queueWork]

/-- A broadcast reaches every client. -/
theorem websocketBroadcastMessage_succeeds {w : World} (h : SendsSucceed w) (message : Json) :
    (websocketBroadcastMessage message).run w =
      (.ok ⟨⟩, { w with
        board := queueEach (websocketClients w.board.sessions) message w.board }) := by
  unfold websocketBroadcastMessage
  rw [Esp.run_liftM_bind (m := getBoard) (w := w) rfl]
  simp only [h.running, Bool.true_eq_false, if_false]
  rw [Esp.run_liftM_bind (httpdOutcome_succeeds h)]
  exact Esp.run_liftM_of (sendToEach_succeeds message w.board.sessions h)

/-! ## Sends that may fail -/

theorem websocketSendMessageToClient_run {w : World} (h : w.board.running = true) (fd : Int)
    (message : Json) : (websocketSendMessageToClient fd message).run w =
      if w.heap.head = false then (.error EspErr.noMem, { w with heap := w.heap.tail })
      else if w.heap.tail.head = false then
        (.error EspErr.noMem, { w with heap := w.heap.tail.tail })
      else match w.httpd.head with
        | some err => (.error err, { w with heap := w.heap.tail.tail, httpd := w.httpd.tail })
        | none => (.ok ⟨⟩, { w with
            board := queueWork fd message w.board
            heap := w.heap.tail.tail
            httpd := w.httpd.tail }) := by
  unfold websocketSendMessageToClient
  rw [Esp.run_liftM_bind (m := getBoard) (w := w) rfl]
  simp only [h, Bool.true_eq_false, if_false]
  rw [Esp.run_liftM_bind (m := malloc) (w := w) rfl]
  split
  · rfl
  · rw [Esp.run_liftM_bind (m := malloc) rfl]
    split
    · rfl
    · rw [Esp.run_liftM_bind (m := httpdOutcome) rfl]
      cases w.httpd.head with
      | some err => rfl
      | none => rfl

/-- The clients whose frames get into the queue: those for which both allocations and the
call of the server succeed. -/
def sentTo : List (Int × Bool) → Stream' Bool → Stream' (Option EspErr) → List Int
  | [], _, _ => []
  | (_, false) :: sessions, heap, httpd => sentTo sessions heap httpd
  | (fd, true) :: sessions, heap, httpd =>
      if heap.head = false then sentTo sessions heap.tail httpd
      else if heap.tail.head = false then sentTo sessions heap.tail.tail httpd
      else match httpd.head with
        | some _ => sentTo sessions heap.tail.tail httpd.tail
        | none => fd :: sentTo sessions heap.tail.tail httpd.tail

theorem sendToEach_run (message : Json) (sessions : List (Int × Bool)) {w : World}
    (h : w.board.running = true) : ∃ heap httpd, sendToEach message sessions w = (⟨⟩, { w with
      board := queueEach (sentTo sessions w.heap w.httpd) message w.board
      heap := heap
      httpd := httpd }) := by
  induction sessions generalizing w with
  | nil =>
      refine ⟨w.heap, w.httpd, ?_⟩
      rw [sentTo, queueEach_nil]
      rfl
  | cons session sessions ih =>
      obtain ⟨fd, websocket⟩ := session
      cases websocket with
      | false => exact ih h
      | true =>
          have hsend := websocketSendMessageToClient_run h fd message
          rw [sendToEach, if_pos rfl, Handler.bind_apply, hsend, sentTo]
          split
          · exact ih (w := { w with heap := w.heap.tail }) h
          · split
            · exact ih (w := { w with heap := w.heap.tail.tail }) h
            · cases w.httpd.head with
              | some err =>
                  exact ih (w := { w with heap := w.heap.tail.tail, httpd := w.httpd.tail }) h
              | none =>
                  obtain ⟨heap, httpd, hrun⟩ := ih (w := { w with
                    board := queueWork fd message w.board
                    heap := w.heap.tail.tail
                    httpd := w.httpd.tail }) h
                  refine ⟨heap, httpd, hrun.trans ?_⟩
                  simp [queueEach, queueWork]

/-- The clients that a broadcast reaches. -/
def broadcastTo (w : World) : List Int :=
  if w.board.running = false then []
  else match w.httpd.head with
    | some _ => []
    | none => sentTo w.board.sessions w.heap w.httpd.tail

theorem sentTo_allSucceed (sessions : List (Int × Bool)) :
    sentTo sessions allSucceed (Stream'.const none) = websocketClients sessions := by
  induction sessions with
  | nil => rfl
  | cons session sessions ih =>
      obtain ⟨fd, websocket⟩ := session
      cases websocket with
      | false => exact ih
      | true => exact congrArg (fd :: ·) ih

/-- When nothing fails, a broadcast reaches every client. -/
theorem broadcastTo_succeeds {w : World} (h : SendsSucceed w) :
    broadcastTo w = websocketClients w.board.sessions := by
  unfold broadcastTo
  rw [if_neg (by rw [h.running]; decide), h.httpd, h.heap]
  exact sentTo_allSucceed w.board.sessions

theorem websocketBroadcastMessage_run (message : Json) (w : World) :
    ∃ r heap httpd, (websocketBroadcastMessage message).run w = (r, { w with
      board := queueEach (broadcastTo w) message w.board
      heap := heap
      httpd := httpd }) := by
  unfold websocketBroadcastMessage broadcastTo
  rw [Esp.run_liftM_bind (m := getBoard) (w := w) rfl]
  split
  · exact ⟨_, w.heap, w.httpd, by rw [queueEach_nil]; rfl⟩
  · next hrunning =>
    rw [Esp.run_liftM_bind (m := httpdOutcome) rfl]
    cases w.httpd.head with
    | some err => exact ⟨_, w.heap, w.httpd.tail, by rw [queueEach_nil]; rfl⟩
    | none =>
        obtain ⟨heap, httpd, hrun⟩ := sendToEach_run message w.board.sessions
          (w := { w with httpd := w.httpd.tail }) (Bool.not_eq_false _ ▸ hrunning)
        exact ⟨_, heap, httpd, Esp.run_liftM_of hrun⟩

end Orchestrator.Server
