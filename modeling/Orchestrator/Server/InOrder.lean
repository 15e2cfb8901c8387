import Orchestrator.Server.Tasks

/-!
# The order in which messages arrive

Whatever fails and however the tasks interleave, a client never gets the messages of a task in
another order than the task sent them. A message goes to a descriptor: what was under way when
a client left reaches the next one that is accepted on its descriptor.
-/

namespace Orchestrator.Server.Tasks

open Lib

variable {s u : State} {labels : List Label}

/-- The frames of a task that were written to a session, oldest first. -/
def State.framesTo (s : State) (task : Task) (client : Session) :
    List (Session × AsyncSendArg) :=
  s.written.filter fun frame => frame.1 = client ∧ frame.2.task = task

/-- What a session got from a task. -/
def State.writtenTo (s : State) (task : Task) (client : Session) : List Json :=
  (s.framesTo task client).map fun frame => frame.2.message

/-- The messages that are meant for the client with this descriptor. -/
def meantFor (fd : Int) (sent : List Outgoing) : List Json :=
  (sent.filter fun outgoing => outgoing.IsFor fd).map Outgoing.message

/-- What is found at increasing places of a list, the first of them at `k` or later, is a
sublist of what follows the first `k` elements. -/
theorem exists_sublist_of_increasing {α β γ : Type} {f : α → γ} {g : β → γ} {P : β → Prop}
    {place : α → Nat} {xs : List α} {l : List β} (hplaces : (xs.map place).Pairwise (· < ·))
    (h : ∀ x ∈ xs, ∃ b ∈ l[place x]?, g b = f x ∧ P b) {k : Nat} (hk : ∀ x ∈ xs, k ≤ place x) :
    ∃ bs : List β, bs.Sublist (l.drop k) ∧ bs.map g = xs.map f ∧ ∀ b ∈ bs, P b := by
  induction xs generalizing k with
  | nil => exact ⟨[], List.nil_sublist _, by simp⟩
  | cons x xs ih =>
      obtain ⟨b, hb, hvalue, hP⟩ := h x List.mem_cons_self
      obtain ⟨hlater, hrest⟩ := List.pairwise_cons.mp hplaces
      obtain ⟨bs, hbs, hmap, hall⟩ := ih hrest (fun y hy => h y (List.mem_cons_of_mem x hy))
        fun y hy => Nat.succ_le_of_lt (hlater _ (List.mem_map_of_mem hy))
      obtain ⟨hlt, rfl⟩ := List.getElem?_eq_some_iff.mp hb
      refine ⟨l[place x] :: bs, ?_, by simp [hmap, hvalue], by simpa using ⟨hP, hall⟩⟩
      calc
        (l[place x] :: bs).Sublist (l[place x] :: l.drop (place x + 1)) := hbs.cons_cons _
        _ = l.drop (place x) := (List.drop_eq_getElem_cons hlt).symm
        List.Sublist _ (l.drop k) := List.drop_sublist_drop_left l (hk x List.mem_cons_self)

/-- A frame was written to the session that held its descriptor. -/
theorem clientFd_of_written (run : Run step unrestricted initial labels s) :
    ∀ frame ∈ s.written, frame.2.clientFd = frame.1.fd := by
  refine run.invariant (P := fun s => ∀ frame ∈ s.written, frame.2.clientFd = frame.1.fd)
    (fun _ hframe => absurd hframe List.not_mem_nil) ?_
  intro t l u ht _ hstep
  rcases written_of_step hstep with hkept | ⟨sends, arg, rest, -, rfl⟩
  · rwa [hkept]
  · intro frame hframe
    rcases written_asyncSendTask hframe with hold | ⟨session, hfind, rfl⟩
    · exact ht frame hold
    · have hfd : session.1.fd = arg.clientFd := by simpa using List.find?_some hfind
      exact hfd.symm

theorem framesTo_numbers (run : Run step unrestricted initial labels s) (task : Task)
    (client : Session) : ((s.framesTo task client).map fun frame => frame.2.number).Sublist
      (numbers s.args task client.fd) := by
  have hmine : ∀ arg ∈ (s.framesTo task client).map Prod.snd,
      arg.task = task ∧ arg.clientFd = client.fd := by
    intro arg harg
    obtain ⟨frame, hframe, rfl⟩ := List.mem_map.mp harg
    obtain ⟨hwritten, hframe⟩ := List.mem_filter.mp hframe
    obtain ⟨rfl, rfl⟩ : frame.1 = client ∧ frame.2.task = task := by simpa using hframe
    exact ⟨rfl, clientFd_of_written run frame hwritten⟩
  have hargs : ((s.framesTo task client).map Prod.snd).Sublist s.args :=
    (List.filter_sublist.map _).trans (List.sublist_append_left _ _)
  have hnumbers : (s.framesTo task client).map (fun frame => frame.2.number) =
      numbers ((s.framesTo task client).map Prod.snd) task client.fd := by
    rw [numbers, List.filter_eq_self.mpr fun arg harg => by simpa using hmine arg harg,
      List.map_map]
    rfl
  rw [hnumbers]
  exact numbers_sublist hargs task client.fd

/-- The frames to a client carry messages from the `k`-th on: they are messages that the task
meant for the descriptor after its first `k`, in their order. -/
theorem writtenTo_sublist (run : Run step unrestricted initial labels s) (task : Task)
    (client : Session) {k : Nat} (hk : ∀ frame ∈ s.framesTo task client, k ≤ frame.2.number) :
    (s.writtenTo task client).Sublist (meantFor client.fd ((s.sent task).drop k)) := by
  have hordered := ordered_of_run run
  have hincreasing : ((s.framesTo task client).map fun frame => frame.2.number).Pairwise
      (· < ·) := (hordered.increasing task client.fd).sublist (framesTo_numbers run task client)
  have hcarried : ∀ frame ∈ s.framesTo task client,
      ∃ outgoing ∈ (s.sent task)[frame.2.number]?,
        outgoing.message = frame.2.message ∧ outgoing.IsFor client.fd := by
    intro frame hframe
    obtain ⟨hwritten, hmine⟩ := List.mem_filter.mp hframe
    obtain ⟨rfl, rfl⟩ : frame.1 = client ∧ frame.2.task = task := by simpa using hmine
    rw [← clientFd_of_written run frame hwritten]
    exact hordered.carried frame.2 (List.mem_append_left _ (List.mem_map_of_mem hwritten))
  obtain ⟨outgoings, hsublist, hmessages, hfor⟩ :=
    exists_sublist_of_increasing hincreasing hcarried hk
  have hmeant : outgoings.filter (fun outgoing => outgoing.IsFor client.fd) = outgoings :=
    List.filter_eq_self.mpr fun outgoing houtgoing => by simpa using hfor outgoing houtgoing
  calc
    s.writtenTo task client = (outgoings.filter fun outgoing =>
        outgoing.IsFor client.fd).map Outgoing.message := by
      rw [hmeant, hmessages, State.writtenTo]
    List.Sublist _ (meantFor client.fd ((s.sent task).drop k)) := (hsublist.filter _).map _

/-! ## A descriptor that is used again -/

/-- No message is under way to this descriptor: none is queued for it, and no task that is
sending has still to come to it. -/
structure State.Quiet (s : State) (fd : Int) : Prop where
  work : ∀ arg ∈ s.work, arg.clientFd ≠ fd
  ahead : ∀ task, fd ∉ (s.position task).ahead

/-- The sessions have the numbers that were given so far. -/
structure Numbered (s : State) : Prop where
  sessions : ∀ session ∈ s.sessions, session.1.number < s.nextSession
  written : ∀ frame ∈ s.written, frame.1.number < s.nextSession

/-- What goes to the client was sent after `t`. -/
structure Since (t : State) (client : Session) (s : State) : Prop where
  sent : ∀ task, (t.sent task).length ≤ (s.sent task).length
  ahead : ∀ task, client.fd ∈ (s.position task).ahead →
    (t.sent task).length < (s.sent task).length
  work : ∀ arg ∈ s.work, arg.clientFd = client.fd → (t.sent arg.task).length ≤ arg.number
  written : ∀ frame ∈ s.written, frame.1 = client →
    (t.sent frame.2.task).length ≤ frame.2.number

variable {t : State} {client : Session} {task : Task}

/-- A session is accepted with the next number, and no step makes another one. -/
theorem sessions_of_step {l : Label} (hstep : step s l = some u) :
    s.nextSession ≤ u.nextSession ∧ ∀ session ∈ u.sessions,
      session.1.number + 1 = u.nextSession ∨ ∃ before ∈ s.sessions, before.1 = session.1 := by
  cases steps_of_step hstep with
  | accept hfree =>
      refine ⟨Nat.le_succ _, fun session hsession => ?_⟩
      rcases List.mem_append.mp hsession with hold | hnew
      · exact .inr ⟨session, hold, rfl⟩
      · exact .inl (by rw [List.mem_singleton.mp hnew])
  | upgrade session =>
      refine ⟨Nat.le_refl _, fun session hsession => .inr ?_⟩
      obtain ⟨before, hbefore, rfl⟩ := List.mem_map.mp hsession
      exact ⟨before, hbefore, rfl⟩
  | close session =>
      exact ⟨Nat.le_refl _, fun session hsession =>
        .inr ⟨session, List.mem_of_mem_filter hsession, rfl⟩⟩
  | @work arg rest hwork sends =>
      obtain ⟨hsessions, hnext, -⟩ :=
        asyncSendTask_frame (s := { s with work := rest }) arg sends
      rw [hsessions, hnext]
      exact ⟨Nat.le_refl _, fun session hsession => .inr ⟨session, hsession, rfl⟩⟩
  | send hposition outcome =>
      cases outcome <;>
        exact ⟨Nat.le_refl _, fun session hsession => .inr ⟨session, hsession, rfl⟩⟩
  | _ => exact ⟨Nat.le_refl _, fun session hsession => .inr ⟨session, hsession, rfl⟩⟩

theorem Numbered.step {l : Label} (h : Numbered s) (hstep : Tasks.step s l = some u) :
    Numbered u := by
  obtain ⟨hnext, hsessions⟩ := sessions_of_step hstep
  refine ⟨fun session hsession => ?_, ?_⟩
  · rcases hsessions session hsession with hnew | ⟨before, hbefore, heq⟩
    · omega
    · rw [← heq]
      exact Nat.lt_of_lt_of_le (h.sessions before hbefore) hnext
  · rcases written_of_step hstep with hkept | ⟨sends, arg, rest, -, rfl⟩
    · rw [hkept]
      exact fun frame hframe => Nat.lt_of_lt_of_le (h.written frame hframe) hnext
    · intro frame hframe
      rcases written_asyncSendTask hframe with hold | ⟨session, hfind, rfl⟩
      · exact Nat.lt_of_lt_of_le (h.written frame hold) hnext
      · exact Nat.lt_of_lt_of_le (h.sessions session (List.mem_of_find?_eq_some hfind)) hnext

theorem numbered_of_run (run : Run step unrestricted initial labels s) : Numbered s := by
  refine run.invariant ⟨?_, ?_⟩ fun _ _ _ ht _ hstep => ht.step hstep
  · exact fun _ hsession => absurd hsession List.not_mem_nil
  · exact fun _ hframe => absurd hframe List.not_mem_nil

theorem Since.goOn (h : Since t client s) {position : Position}
    (hahead : position.ahead.Sublist (s.position task).ahead) :
    Since t client (s.goOn task position) where
  sent := h.sent
  ahead other hfd := by
    rcases eq_or_ne other task with rfl | hne
    · exact h.ahead other (hahead.subset (by simpa [State.goOn] using hfd))
    · exact h.ahead other (by simpa [State.goOn, hne] using hfd)
  work := h.work
  written := h.written

theorem Since.begin (h : Since t client s) (outgoing : Outgoing) (position : Position) :
    Since t client (s.begin task outgoing position) where
  sent other := by
    rcases eq_or_ne other task with rfl | hne
    · simpa [State.begin] using Nat.le_succ_of_le (h.sent other)
    · simpa [State.begin, hne] using h.sent other
  ahead other hfd := by
    rcases eq_or_ne other task with rfl | hne
    · simpa [State.begin] using Nat.lt_succ_of_le (h.sent other)
    · simpa [State.begin, hne] using
        h.ahead other (by simpa [State.begin, State.goOn, hne] using hfd)
  work := h.work
  written := h.written

/-- What a task queues for the descriptor is a message that it began to send after `t`. -/
theorem Since.send (h : Since t client s) {fd : Int} {fds : List Int} (outcome : SendOutcome)
    (hposition : s.position task = { sending := some fd, fds := fds }) :
    Since t client ((s.websocketSendMessageToClient task fd outcome).goOn task
      { sending := none, fds := fds }) := by
  have hahead : (s.position task).ahead = fd :: fds := by rw [hposition]; rfl
  have hrest : Since t client (s.goOn task { sending := none, fds := fds }) :=
    h.goOn (by rw [hahead]; exact List.sublist_cons_self fd fds)
  cases outcome with
  | noArg => exact hrest
  | noCopy => exact hrest
  | notQueued => exact { hrest with }
  | queued =>
      refine { hrest with work := ?_ }
      intro arg harg hfd
      rcases List.mem_append.mp harg with hold | hnew
      · exact h.work arg hold hfd
      · obtain ⟨outgoing, -, rfl⟩ := List.mem_map.mp hnew
        have hlt : (t.sent task).length < (s.sent task).length :=
          h.ahead task (by rw [hahead, ← hfd]; exact List.mem_cons_self)
        exact Nat.le_sub_one_of_lt hlt

/-- The execution of an item writes the item's message, to the session that it finds. -/
theorem Since.asyncSendTask (h : Since t client s) {arg : AsyncSendArg}
    {rest : List AsyncSendArg} (sends : Bool) (hwork : s.work = arg :: rest) :
    Since t client (State.asyncSendTask { s with work := rest } arg sends) := by
  obtain ⟨-, -, hposition, hsent⟩ :=
    asyncSendTask_frame (s := { s with work := rest }) arg sends
  have hleft := (blocks_asyncSendTask (s := { s with work := rest }) arg sends).2
  constructor
  · rw [hsent]
    exact h.sent
  · rw [hposition, hsent]
    exact h.ahead
  · rw [hleft]
    exact fun other hother => h.work other (hwork ▸ List.mem_cons_of_mem arg hother)
  · intro frame hframe hclient
    rcases written_asyncSendTask hframe with hold | ⟨session, hfind, rfl⟩
    · exact h.written frame hold hclient
    · have hfd : session.1.fd = arg.clientFd := by simpa using List.find?_some hfind
      exact h.work arg (hwork ▸ List.mem_cons_self) (hclient ▸ hfd.symm)

theorem Since.step {l : Label} (h : Since t client s) (hstep : Tasks.step s l = some u) :
    Since t client u := by
  cases steps_of_step hstep with
  | broadcast hidle message listed => exact h.begin _ _
  | sendTo hidle fd message => exact h.begin _ _
  | next hposition => exact h.goOn (ahead_next hposition)
  | send hposition outcome => exact h.send outcome hposition
  | work hwork sends => exact h.asyncSendTask sends hwork
  | _ => exact { h with }

theorem since_of_run (run : Run step unrestricted t labels s) (hnumbered : Numbered t)
    (hnew : t.nextSession ≤ client.number) (hquiet : t.Quiet client.fd) : Since t client s := by
  refine run.invariant (P := Since t client) ⟨?_, ?_, ?_, ?_⟩ fun _ _ _ h _ hstep => h.step hstep
  · exact fun task => Nat.le_refl _
  · exact fun task hfd => absurd hfd (hquiet.ahead task)
  · exact fun arg harg hfd => absurd hfd (hquiet.work arg harg)
  · intro frame hframe hclient
    have hlt := hnumbered.written frame hframe
    rw [hclient] at hlt
    omega

/-- However the tasks interleave, and whatever fails: what a client gets from a task are
messages that the task meant for its descriptor, in the order in which they were sent, and none
twice. Where no message was under way to the descriptor before the client was accepted, they
are messages that were sent after that. -/
theorem writtenTo_in_order {s : State} {labels : List Label}
    (run : Run step unrestricted initial labels s) (task : Task) (client : Session) :
    (s.writtenTo task client).Sublist (meantFor client.fd (s.sent task)) ∧
      ∀ t before after, Run step unrestricted initial before t →
        Run step unrestricted t after s → t.nextSession ≤ client.number →
        t.Quiet client.fd → (s.writtenTo task client).Sublist
          (meantFor client.fd ((s.sent task).drop (t.sent task).length)) := by
  constructor
  · simpa using writtenTo_sublist run task client fun _ _ => Nat.zero_le _
  · intro t before after hbefore hafter hnew hquiet
    have hsince := since_of_run hafter (numbered_of_run hbefore) hnew hquiet
    refine writtenTo_sublist run task client fun frame hframe => ?_
    obtain ⟨hwritten, hmine⟩ := List.mem_filter.mp hframe
    obtain ⟨rfl, rfl⟩ : frame.1 = client ∧ frame.2.task = task := by simpa using hmine
    exact hsince.written frame hwritten rfl

/-- A client leaves, and while two tasks broadcast the next one comes on its descriptor. -/
def reusedSession : List Label :=
  [.accept 5, .upgrade ⟨5, 0⟩, .broadcast 1 .null true, .next 1, .send 1 .queued, .work true,
   .close ⟨5, 0⟩]

def reusedSessionAgain : List Label :=
  [.broadcast 1 (.bool true) true, .accept 5, .upgrade ⟨5, 1⟩, .broadcast 2 .null true, .next 2,
   .send 2 .queued, .broadcast 1 (.bool false) true, .next 1, .work true, .send 1 .queued,
   .work true]

theorem writtenTo_in_order_reusedSession : ∃ t s : State,
    (s.sent 1).length = (t.sent 1).length + 2 ∧ (s.writtenTo 1 ⟨5, 1⟩).length = 1 ∧
      (s.writtenTo 1 ⟨5, 1⟩).Sublist (meantFor 5 ((s.sent 1).drop (t.sent 1).length)) := by
  obtain ⟨t, ht⟩ := Option.isSome_iff_exists.mp
    (show (execGood step unrestricted initial reusedSession).isSome by decide +kernel)
  have hposition : (execGood step unrestricted initial reusedSession).map State.position =
      some (Function.update (Function.update (Function.update (fun _ => Position.idle) 1
        { sending := none, fds := [5] }) 1 { sending := some 5, fds := [] }) 1
        Position.idle) := rfl
  have hwork : (execGood step unrestricted initial reusedSession).map
      (·.work.length) = some 0 := by decide +kernel
  have hquiet : t.Quiet 5 := by
    rw [ht, Option.map_some, Option.some.injEq] at hposition hwork
    refine ⟨by simp [List.length_eq_zero_iff.mp hwork], fun task => ?_⟩
    rw [hposition]
    rcases eq_or_ne task 1 with rfl | hne
    · simp [Position.ahead, Position.idle]
    · simp [hne, Position.ahead, Position.idle]
  obtain ⟨s, hs⟩ := Option.isSome_iff_exists.mp (show ((execGood step unrestricted initial
    reusedSession).bind fun t => execGood step unrestricted t reusedSessionAgain).isSome by
      decide +kernel)
  have hsent : (execGood step unrestricted initial reusedSession).bind (fun t =>
      (execGood step unrestricted t reusedSessionAgain).map fun s =>
        ((s.sent 1).length - (t.sent 1).length, (s.writtenTo 1 ⟨5, 1⟩).length, t.nextSession)) =
      some (2, 1, 1) := by decide +kernel
  rw [ht, Option.bind_some] at hs hsent
  rw [hs, Option.map_some, Option.some.injEq, Prod.mk.injEq, Prod.mk.injEq] at hsent
  obtain ⟨hlater, hwritten, hnext⟩ := hsent
  have hbefore := Run.of_execGood step unrestricted ht
  have hafter := Run.of_execGood step unrestricted hs
  exact ⟨t, s, by omega, hwritten, (writtenTo_in_order (hbefore.append hafter) 1 ⟨5, 1⟩).2 t _ _
    hbefore hafter hnext.le hquiet⟩

end Orchestrator.Server.Tasks
