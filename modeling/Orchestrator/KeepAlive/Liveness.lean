import Orchestrator.KeepAlive.Ownership
import Mathlib.Data.List.Nodup

/-!
# A live client is never expired

With no send lost, the slot of a descriptor belongs to the connection whose
addition was processed last, only a removal issued for that connection takes it
away, and a sweep expires it only when everything heard from the descriptor is
older than the allowed silence.
-/

namespace Orchestrator.KeepAlive

open Lib

/-- The action is a sign of life: an addition or an update. -/
def ClientFdAction.heard (a : ClientFdAction) : Prop :=
  a.type = .clientFdAdd ∨ a.type = .clientUpdate

/-- The call due for an active slot: one that has been silent for longer than allowed is reported
as not alive, and any other one is checked. -/
def ClientFdAction.sweepCall (notAliveAfterMs now : Nat) (c : ClientFdAction) : Callback :=
  if c.lastSeen + notAliveAfterMs < now then .clientNotAlive c.fd else .checkClientAlive c.fd

/-- Every sign of life of the connection was processed more than the allowed silence before the
time, or not before it. -/
def SilentAt (config : WssKeepAliveConfig) (s : System) (c : Connection) (t : Nat) : Prop :=
  ∀ p ∈ s.processed, p.1.conn = some c → p.1.action.heard →
    p.2 + config.notAliveAfterMs < t ∨ t ≤ p.2

/-- What the sweep at this time from one state to the next does. -/
structure SweepExact (config : WssKeepAliveConfig) (s u : System) (t : Nat) : Prop where
  /-- One call for each active slot, in slot order. -/
  calls : u.called = s.called ++
    (s.task.h.clients.filter fun c => c.type = .clientActive).map fun c =>
      (c.sweepCall config.notAliveAfterMs t, t)
  /-- No call is made twice. -/
  calls_nodup : ((s.task.h.clients.filter fun c => c.type = .clientActive).map
    (·.sweepCall config.notAliveAfterMs t)).Nodup
  /-- The slots that have been silent for too long are freed and the others are kept. -/
  slots : u.task.h.clients = s.task.h.clients.map fun c =>
    if c.type = .clientActive ∧ c.lastSeen + config.notAliveAfterMs < t then
      { c with type := .noClient } else c
  /-- A descriptor reported as not alive belongs to a connection that was last
  heard of more than the allowed silence ago. -/
  silent : ∀ fd, (.clientNotAlive fd, t) ∈ u.called.drop s.called.length →
    ∃ c, holder s.processed fd = some c ∧ ∀ p ∈ s.processed, p.1.conn = some c →
      p.1.action.heard → p.2 + config.notAliveAfterMs < t

/-- The slots of live connections are safe in this state, and no live connection has been
reported as not alive on the way to it. -/
structure LiveClientsKept (config : WssKeepAliveConfig) (s : System) : Prop where
  /-- No two active slots hold the same descriptor. -/
  nodup : (activeFds s.task.h.clients).Nodup
  /-- Processing an action takes a slot away only if it is a removal issued for
  the connection that owns the slot. -/
  removed : ∀ t u item rest, s.queue = item :: rest → step s (.receive t) = some u →
    ∀ fd ∈ activeFds s.task.h.clients, fd ∉ activeFds u.task.h.clients →
      item.action = ⟨.clientFdRemove, fd, item.action.lastSeen⟩ ∧
        ∃ c, holder s.processed fd = some c ∧ item.conn = some c
  /-- Every sweep that can come next is exact. -/
  sweep : ∀ t u, step s (.timeout t) = some u → SweepExact config s u t
  /-- No other step makes a call. -/
  uncalled : ∀ l u, (∀ t, l ≠ .timeout t) → step s l = some u → u.called = s.called
  /-- Each client that was reported as not alive was silent at that time. -/
  silent : ∀ fd t, (.clientNotAlive fd, t) ∈ s.called →
    ∃ c : Connection, c.fd = fd ∧ SilentAt config s c t

/-! ## Descriptors of connections -/

/-- Everything recorded for a connection carries its descriptor. -/
structure ConnectionFds (s : System) : Prop where
  opened : ∀ fd c, s.openConn fd = some c → c.fd = fd
  queued : ∀ item ∈ s.queue, ∀ c, item.conn = some c → c.fd = item.action.fd
  processed : ∀ p ∈ s.processed, ∀ c, p.1.conn = some c → c.fd = p.1.action.fd

theorem ConnectionFds.send {s u : System} {action : ClientFdAction}
    {conn : Option Connection} (h : ConnectionFds s) (hu : Issued s u action conn) :
    ConnectionFds u where
  opened := by
    intro fd c hc
    rcases hu.open_fd fd c hc with hs | hfd
    · exact h.opened fd c hs
    · exact hfd
  queued := by
    intro item hitem c hc
    rw [hu.queue, List.mem_append, List.mem_singleton] at hitem
    rcases hitem with hold | rfl
    · exact h.queued item hold c hc
    · rcases hu.conn_fd c hc with hs | hfd
      · exact h.opened _ c hs
      · exact hfd
  processed := by
    rw [hu.processed]
    exact h.processed

theorem ConnectionFds.receive {s : System} (h : ConnectionFds s) {item : QueuedAction}
    {rest : List QueuedAction} (hq : s.queue = item :: rest) (t : Nat) :
    ConnectionFds (s.received item rest t) where
  opened := h.opened
  queued := fun other hother => h.queued other (by rw [hq]; exact List.mem_cons_of_mem _ hother)
  processed := by
    intro p hp
    rcases List.mem_cons.mp hp with rfl | hold
    · exact h.queued item (by simp [hq])
    · exact h.processed p hold

/-! ## The last sign of life -/

/-- An active slot carries the time of the latest sign of life of its descriptor. -/
structure SeenLast (config : WssKeepAliveConfig) (s : System) : Prop where
  limit : s.task.h.notAliveAfterMs = config.notAliveAfterMs
  callbacks : s.task.h.clientNotAliveCb = config.clientNotAliveCb ∧
    s.task.h.checkClientAliveCb = config.checkClientAliveCb
  times : ∀ p ∈ s.processed, p.2 ≤ s.clock
  past : ∀ c ∈ s.task.h.clients, c.type = .clientActive → c.lastSeen ≤ s.clock
  latest : ∀ c ∈ s.task.h.clients, c.type = .clientActive → ∀ p ∈ s.processed,
    p.1.action.fd = c.fd → p.1.action.heard → p.2 ≤ c.lastSeen

theorem receive_config (task : KeepAliveTask) (action : ClientFdAction) (t : Nat) :
    (task.receive action t).h = { task.h with clients := (task.receive action t).h.clients } := by
  simp only [KeepAliveTask.receive]
  cases action.type <;> rfl

/-- An old slot that survives a receive is not the one that the action spoke for. -/
theorem Owned.latest_of_old {s : System} (h : Owned s) {item : QueuedAction}
    {rest : List QueuedAction} (hq : s.queue = item :: rest) {t : Nat} {c : ClientFdAction}
    (hnew : c ∈ (s.received item rest t).task.h.clients) (hold : c ∈ s.task.h.clients)
    (hactive : c.type = .clientActive) (hfd : item.action.fd = c.fd)
    (hheard : item.action.heard) : t ≤ c.lastSeen := by
  rcases hheard with hadd | hupdate
  · have hfree := (h.head_add hq hadd).1
    exact absurd (mem_activeFds.mpr ⟨c, hold, hactive, hfd.symm⟩) hfree
  · simp only [System.received, KeepAliveTask.receive, hupdate] at hnew
    exact Nat.le_of_eq (refreshClientStatus_slot h.nodup hnew hactive hfd.symm).symm

theorem SeenLast.receive {config : WssKeepAliveConfig} {s : System}
    (h : SeenLast config s) (howned : Owned s) {item : QueuedAction}
    {rest : List QueuedAction} (hq : s.queue = item :: rest) {t : Nat}
    (hclock : s.clock ≤ t) : SeenLast config (s.received item rest t) := by
  have hconfig := receive_config s.task item.action t
  have htimes : ∀ p ∈ (s.received item rest t).processed, p.2 ≤ t := by
    intro p hp
    rcases List.mem_cons.mp hp with rfl | hold
    · exact Nat.le_refl _
    · exact Nat.le_trans (h.times p hold) hclock
  refine ⟨?_, ?_, htimes, ?_, ?_⟩
  · exact (receive_notAliveAfterMs _ _ _).trans h.limit
  · change (s.task.receive item.action t).h.clientNotAliveCb = _ ∧
      (s.task.receive item.action t).h.checkClientAliveCb = _
    rw [hconfig]
    exact h.callbacks
  · intro c hc hactive
    rcases receive_slot hc hactive with hold | hnow
    · exact Nat.le_trans (h.past c hold hactive) hclock
    · exact Nat.le_of_eq hnow
  · intro c hc hactive p hp hfd hheard
    rcases receive_slot hc hactive with hold | hnow
    · rcases List.mem_cons.mp hp with rfl | hpold
      · exact howned.latest_of_old hq hc hold hactive hfd hheard
      · exact h.latest c hold hactive p hpold hfd hheard
    · rw [hnow]
      exact htimes p hp

theorem SeenLast.timeout {config : WssKeepAliveConfig} {s : System}
    (h : SeenLast config s) {t : Nat} (hclock : s.clock ≤ t) :
    SeenLast config (s.swept t) := by
  refine ⟨h.limit, h.callbacks, ?_, ?_, ?_⟩
  · intro p hp
    exact Nat.le_trans (h.times p hp) hclock
  · intro c hc hactive
    exact Nat.le_trans (h.past c (sweep_slot hc hactive).1 hactive) hclock
  · intro c hc hactive
    exact h.latest c (sweep_slot hc hactive).1 hactive

/-- All three invariants hold throughout a run without a lost send. -/
theorem seenLast_of_run {config : WssKeepAliveConfig} {t₀ : Nat} {labels : List Label}
    {s : System} (run : Run step sendFits (start config t₀) labels s) :
    Owned s ∧ ConnectionFds s ∧ SeenLast config s := by
  refine run.invariant (P := fun s => Owned s ∧ ConnectionFds s ∧ SeenLast config s) ?_ ?_
  · refine ⟨owned_start config t₀, ⟨?_, ?_, ?_⟩, ⟨rfl, ⟨rfl, rfl⟩, ?_, ?_, ?_⟩⟩ <;>
      simp [start, wssKeepAliveStart]
  · rintro s l u ⟨howned, hconns, hseen⟩ hfits hstep
    cases hissues : l.issues with
    | some action =>
        obtain ⟨conn, hu⟩ := step_server hissues (hfits (by simp [hissues])) hstep
        obtain ⟨htask, hclock, -, -⟩ := step_server_frame (by simp [hissues]) hstep
        refine ⟨howned.send hu.task hu.processed hu.queue hu.others hu.orderly,
          hconns.send hu, ⟨?_, ?_, ?_, ?_, ?_⟩⟩
        · rw [htask]; exact hseen.limit
        · rw [htask]; exact hseen.callbacks
        · rw [hu.processed, hclock]; exact hseen.times
        · rw [htask, hclock]; exact hseen.past
        · rw [htask, hu.processed]; exact hseen.latest
    | none =>
        cases l with
        | receive t =>
            obtain ⟨item, rest, hq, hread, rfl⟩ := step_receive hstep
            exact ⟨howned.receive hq t, hconns.receive hq t,
              hseen.receive howned hq hread.2.1⟩
        | timeout t =>
            obtain ⟨hread, rfl⟩ := step_timeout hstep
            have hsame : ConnectionFds (s.swept t) :=
              ⟨hconns.opened, hconns.queued, hconns.processed⟩
            exact ⟨howned.timeout t, hsame, hseen.timeout hread.2.1⟩
        | connect fd | frame fd | closeFrame fd | close fd | closePlain fd | stop =>
            cases hissues

/-! ## The sweep -/

/-- The wrapping comparison of the source is exact for a slot that was seen in the past. -/
theorem expired_iff {c : ClientFdAction} {limit t : Nat} (hpast : c.lastSeen ≤ t)
    (ht : t < 2 ^ 63) : c.expired limit t = true ↔ c.lastSeen + limit < t := by
  rw [ClientFdAction.expired, sub64_of_le hpast (by omega), decide_eq_true_iff]
  omega

/-- With both callbacks installed an active slot gets exactly one call. -/
theorem checkClient_fst {h : WssKeepAliveStorage} (hnot : h.clientNotAliveCb = true)
    (hcheck : h.checkClientAliveCb = true) {t : Nat} {c : ClientFdAction}
    (hexpired : c.type = .clientActive →
      (c.expired h.notAliveAfterMs t = true ↔ c.lastSeen + h.notAliveAfterMs < t)) :
    (checkClient h t c).1 =
      if c.type = .clientActive then [c.sweepCall h.notAliveAfterMs t] else [] := by
  by_cases hactive : c.type = .clientActive
  · by_cases hover : c.lastSeen + h.notAliveAfterMs < t <;>
      simp [checkClient, ClientFdAction.sweepCall, hactive, hexpired hactive, hover, hnot, hcheck]
  · simp [checkClient, hactive]

theorem checkClients_calls {h : WssKeepAliveStorage} (hnot : h.clientNotAliveCb = true)
    (hcheck : h.checkClientAliveCb = true) {t : Nat}
    (hexpired : ∀ c ∈ h.clients, c.type = .clientActive →
      (c.expired h.notAliveAfterMs t = true ↔ c.lastSeen + h.notAliveAfterMs < t)) :
    (checkClients h t).1 = (h.clients.filter fun c => c.type = .clientActive).map
      (·.sweepCall h.notAliveAfterMs t) := by
  show (h.clients.flatMap fun c => (checkClient h t c).1) = _
  induction hlist : h.clients generalizing h with
  | nil => rfl
  | cons c rest ih =>
      rw [hlist] at hexpired
      have hrest := ih (h := { h with clients := rest }) hnot hcheck
        (fun a ha => hexpired a (List.mem_cons_of_mem c ha)) rfl
      have hrest' : (rest.flatMap fun c => (checkClient h t c).1) =
          (rest.filter fun c => c.type = .clientActive).map (·.sweepCall h.notAliveAfterMs t) :=
        hrest
      rw [List.flatMap_cons, hrest', checkClient_fst hnot hcheck (hexpired c List.mem_cons_self)]
      by_cases hactive : c.type = .clientActive <;> simp [hactive]

/-- The descriptor a callback is made for. -/
def Callback.fd : Callback → Int
  | clientNotAlive fd => fd
  | checkClientAlive fd => fd

theorem sweepCall_fd (limit t : Nat) (c : ClientFdAction) :
    (c.sweepCall limit t).fd = c.fd := by
  simp only [ClientFdAction.sweepCall]
  split <;> rfl

section Sweep

variable {config : WssKeepAliveConfig} {s : System} {t : Nat}

theorem SeenLast.expired_iff (h : SeenLast config s) (hread : s.mayRead t) {c : ClientFdAction}
    (hc : c ∈ s.task.h.clients) (hactive : c.type = .clientActive) :
    c.expired config.notAliveAfterMs t = true ↔ c.lastSeen + config.notAliveAfterMs < t :=
  KeepAlive.expired_iff (Nat.le_trans (h.past c hc hactive) hread.2.1) hread.2.2

theorem SeenLast.calls (h : SeenLast config s) (hnot : config.clientNotAliveCb = true)
    (hcheck : config.checkClientAliveCb = true) (hread : s.mayRead t) :
    (checkClients s.task.h t).1 =
      (s.task.h.clients.filter fun c => c.type = .clientActive).map
        (·.sweepCall config.notAliveAfterMs t) := by
  rw [← h.limit]
  apply checkClients_calls (h.callbacks.1.trans hnot) (h.callbacks.2.trans hcheck)
  intro c hc hactive
  rw [h.limit]
  exact h.expired_iff hread hc hactive

/-- A connection that a sweep reports as not alive has been silent. -/
theorem SeenLast.silent (h : SeenLast config s) (howned : Owned s) (hconns : ConnectionFds s)
    {fd : Int} (hfd : .clientNotAlive fd ∈
      (s.task.h.clients.filter fun c => c.type = .clientActive).map
        (·.sweepCall config.notAliveAfterMs t)) :
    ∃ c, holder s.processed fd = some c ∧ c.fd = fd ∧ ∀ p ∈ s.processed, p.1.conn = some c →
      p.1.action.heard → p.2 + config.notAliveAfterMs < t := by
  obtain ⟨slot, hslot, hcall⟩ := List.mem_map.mp hfd
  obtain ⟨hmem, hactive⟩ : slot ∈ s.task.h.clients ∧ slot.type = .clientActive := by
    simpa using hslot
  obtain ⟨hover, rfl⟩ : slot.lastSeen + config.notAliveAfterMs < t ∧ slot.fd = fd := by
    simp only [ClientFdAction.sweepCall] at hcall
    split at hcall
    · next hover => exact ⟨hover, Callback.clientNotAlive.inj hcall⟩
    · cases hcall
  obtain ⟨c, hc⟩ := howned.held slot.fd (mem_activeFds.mpr ⟨slot, hmem, hactive, rfl⟩)
  have hfdc : c.fd = slot.fd := by
    obtain ⟨q, hfind, hqconn⟩ := Option.bind_eq_some_iff.mp hc
    have hqfd := List.find?_some hfind
    simp only [decide_eq_true_eq] at hqfd
    exact (hconns.processed q (List.mem_of_find?_eq_some hfind) c hqconn).trans hqfd.2
  refine ⟨c, hc, hfdc, fun p hp hconn hheard => ?_⟩
  have hlatest := h.latest slot hmem hactive p hp
    ((hconns.processed p hp c hconn).symm.trans hfdc) hheard
  omega

theorem SeenLast.sweepExact (h : SeenLast config s) (howned : Owned s) (hconns : ConnectionFds s)
    (hnot : config.clientNotAliveCb = true) (hcheck : config.checkClientAliveCb = true)
    (hread : s.mayRead t) : SweepExact config s (s.swept t) t := by
  have hcalls := h.calls hnot hcheck hread
  have hcalled : (s.swept t).called = s.called ++
      (s.task.h.clients.filter fun c => c.type = .clientActive).map fun c =>
        (c.sweepCall config.notAliveAfterMs t, t) := by
    simp [System.swept, hcalls]
  refine ⟨hcalled, ?_, ?_, ?_⟩
  · apply List.Nodup.of_map Callback.fd
    rw [List.map_map]
    have hfds := howned.nodup
    simpa only [activeFds, Function.comp_def, sweepCall_fd] using hfds
  · show (s.task.h.clients.map fun c => (checkClient s.task.h t c).2) = _
    apply List.map_congr_left
    intro c hc
    rw [checkClient_snd, h.limit]
    by_cases hactive : c.type = .clientActive
    · simp only [hactive, true_and, h.expired_iff hread hc hactive]
    · simp only [hactive, false_and]
  · intro fd hfd
    rw [hcalled, List.drop_left, List.mem_map] at hfd
    obtain ⟨slot, hslot, hcall⟩ := hfd
    obtain ⟨c, hc, -, hsilent⟩ := h.silent (t := t) howned hconns
      (List.mem_map.mpr ⟨slot, hslot, congrArg Prod.fst hcall⟩)
    exact ⟨c, hc, hsilent⟩

end Sweep

/-! ## The calls of a run -/

/-- The clients that have been reported as not alive were silent. -/
structure SilentCalls (config : WssKeepAliveConfig) (s : System) : Prop where
  times : ∀ call ∈ s.called, call.2 ≤ s.clock
  silent : ∀ fd t, (.clientNotAlive fd, t) ∈ s.called →
    ∃ c : Connection, c.fd = fd ∧ SilentAt config s c t

theorem SilentCalls.receive {config : WssKeepAliveConfig} {s : System}
    (h : SilentCalls config s) (item : QueuedAction) (rest : List QueuedAction) {t : Nat}
    (hclock : s.clock ≤ t) : SilentCalls config (s.received item rest t) where
  times call hcall := Nat.le_trans (h.times call hcall) hclock
  silent fd t' hcall := by
    obtain ⟨c, hfd, hsilent⟩ := h.silent fd t' hcall
    refine ⟨c, hfd, fun p hp hconn hheard => ?_⟩
    rcases List.mem_cons.mp hp with rfl | hold
    · exact .inr (Nat.le_trans (h.times _ hcall) hclock)
    · exact hsilent p hold hconn hheard

theorem SilentCalls.timeout {config : WssKeepAliveConfig} {s : System} {t : Nat}
    (h : SilentCalls config s) (howned : Owned s) (hconns : ConnectionFds s)
    (hseen : SeenLast config s) (hnot : config.clientNotAliveCb = true)
    (hcheck : config.checkClientAliveCb = true) (hread : s.mayRead t) :
    SilentCalls config (s.swept t) := by
  have hcalled := (hseen.sweepExact howned hconns hnot hcheck hread).calls
  constructor
  · intro call hcall
    rw [hcalled, List.mem_append, List.mem_map] at hcall
    rcases hcall with hold | ⟨slot, -, rfl⟩
    · exact Nat.le_trans (h.times call hold) hread.2.1
    · exact Nat.le_refl t
  · intro fd t' hcall
    rw [hcalled, List.mem_append, List.mem_map] at hcall
    rcases hcall with hold | ⟨slot, hslot, hnew⟩
    · exact h.silent fd t' hold
    · obtain rfl : t = t' := congrArg Prod.snd hnew
      obtain ⟨c, -, hfd, hsilent⟩ := hseen.silent (t := t) howned hconns
        (List.mem_map.mpr ⟨slot, hslot, congrArg Prod.fst hnew⟩)
      exact ⟨c, hfd, fun p hp hconn hheard => .inl (hsilent p hp hconn hheard)⟩

theorem silentCalls_of_run {config : WssKeepAliveConfig} {t₀ : Nat} {labels : List Label}
    {s : System} (hnot : config.clientNotAliveCb = true)
    (hcheck : config.checkClientAliveCb = true)
    (run : Run step sendFits (start config t₀) labels s) : SilentCalls config s := by
  induction run with
  | nil => exact ⟨fun call hcall => absurd hcall List.not_mem_nil,
      fun fd t hcall => absurd hcall List.not_mem_nil⟩
  | snoc run hfits hstep ih =>
      next labels s l u =>
      obtain ⟨howned, hconns, hseen⟩ := seenLast_of_run run
      cases hissues : l.issues with
      | some action =>
          obtain ⟨conn, hu⟩ := step_server hissues (hfits (by simp [hissues])) hstep
          obtain ⟨-, hclock, -, hcalled⟩ := step_server_frame (by simp [hissues]) hstep
          refine ⟨by rw [hcalled, hclock]; exact ih.times, ?_⟩
          intro fd t hcall
          obtain ⟨c, hfd, hsilent⟩ := ih.silent fd t (hcalled ▸ hcall)
          refine ⟨c, hfd, ?_⟩
          rw [SilentAt, hu.processed]
          exact hsilent
      | none =>
          cases l with
          | receive t =>
              obtain ⟨item, rest, -, hread, rfl⟩ := step_receive hstep
              exact ih.receive item rest hread.2.1
          | timeout t =>
              obtain ⟨hread, rfl⟩ := step_timeout hstep
              exact ih.timeout howned hconns hseen hnot hcheck hread
          | connect fd | frame fd | closeFrame fd | close fd | closePlain fd | stop =>
              cases hissues

/-- Only a sweep makes calls. -/
theorem called_of_step {s u : System} {l : Label} (hl : ∀ t, l ≠ .timeout t)
    (hstep : step s l = some u) : u.called = s.called := by
  cases l with
  | receive t =>
      obtain ⟨item, rest, -, -, rfl⟩ := step_receive hstep
      rfl
  | timeout t => exact absurd rfl (hl t)
  | connect fd | frame fd | closeFrame fd | close fd | closePlain fd | stop =>
      exact (step_server_frame rfl hstep).2.2.2

/-! ## The removal -/

theorem Owned.removed {s u : System} (h : Owned s) {t : Nat} {item : QueuedAction}
    {rest : List QueuedAction} (hq : s.queue = item :: rest)
    (hstep : step s (.receive t) = some u) {fd : Int}
    (hbefore : fd ∈ activeFds s.task.h.clients) (hafter : fd ∉ activeFds u.task.h.clients) :
    item.action = ⟨.clientFdRemove, fd, item.action.lastSeen⟩ ∧
      ∃ c, holder s.processed fd = some c ∧ item.conn = some c := by
  obtain ⟨item', rest', hq', -, rfl⟩ := step_receive hstep
  obtain ⟨rfl, rfl⟩ : item' = item ∧ rest' = rest := by
    simpa [hq] using hq'.symm
  simp only [System.received, KeepAliveTask.receive] at hafter
  cases htype : item'.action.type with
  | clientFdRemove =>
      simp only [htype, activeFds_unregisterClient] at hafter
      obtain rfl : item'.action.fd = fd := by
        by_contra hne
        exact hafter ((List.mem_erase_of_ne (Ne.symm hne)).mpr hbefore)
      obtain ⟨c, hc⟩ := h.held _ hbefore
      have howner : slotOwner s item'.action.fd = some c := by
        rw [slotOwner, if_pos hbefore, hc]
      exact ⟨by rw [← htype], c, hc, (h.head_remove hq htype).1 c howner⟩
  | clientFdAdd =>
      simp only [htype] at hafter
      rcases activeFds_registerClient s.task.h item'.action.fd t with heq | hperm
      · exact absurd (heq ▸ hbefore) hafter
      · exact absurd (hperm.mem_iff.mpr (List.mem_cons_of_mem _ hbefore)) hafter
  | clientUpdate =>
      simp only [htype, activeFds_refreshClientStatus] at hafter
      exact absurd hbefore hafter
  | stopTask | noClient | clientActive =>
      simp only [htype] at hafter
      exact absurd hbefore hafter

/-- With both callbacks installed, every run without a lost send keeps the
slots of live clients, and reports none of them as not alive. -/
theorem liveClientsKept_of_sends_fit {config : WssKeepAliveConfig} {t₀ : Nat}
    {labels : List Label} {s : System} (hnot : config.clientNotAliveCb = true)
    (hcheck : config.checkClientAliveCb = true)
    (run : Run step sendFits (start config t₀) labels s) : LiveClientsKept config s := by
  obtain ⟨howned, hconns, hseen⟩ := seenLast_of_run run
  refine ⟨howned.nodup, ?_, ?_, fun l u => called_of_step,
    (silentCalls_of_run hnot hcheck run).silent⟩
  · intro t u item rest hq hstep fd hbefore hafter
    exact howned.removed hq hstep hbefore hafter
  · intro t u hstep
    obtain ⟨hread, rfl⟩ := step_timeout hstep
    exact hseen.sweepExact howned hconns hnot hcheck hread

/-- The configuration of `websocket_server_start`: the default values with both
callbacks installed. -/
def serverConfig : WssKeepAliveConfig :=
  { checkClientAliveCb := true, clientNotAliveCb := true }

/-- Descriptor 1 is reused by a second connection after a doubled removal; that connection falls
silent, while client 2 goes on. -/
def reusedSession : List Label :=
  [.connect 1, .receive 0, .closeFrame 1, .close 1, .connect 1, .receive 10, .receive 20,
    .receive 30, .timeout 5030, .connect 2, .receive 6000, .frame 2, .receive 9000, .timeout 14000]

/-- The rule applies to a run in which a descriptor is reused and a silent client expires. -/
theorem liveClientsKept_reusedSession :
    ∃ s, Run step sendFits (start serverConfig 0) reusedSession s ∧
      s.called = [(.checkClientAlive 1, 5030), (.clientNotAlive 1, 14000),
        (.checkClientAlive 2, 14000)] ∧
      activeFds s.task.h.clients = [2] ∧ LiveClientsKept serverConfig s := by
  obtain ⟨s, hs⟩ := Option.isSome_iff_exists.mp
    (show (execGood step sendFits (start serverConfig 0) reusedSession).isSome by decide)
  have hseen : (execGood step sendFits (start serverConfig 0) reusedSession).map
      (fun s => (s.called, activeFds s.task.h.clients)) =
        some ([(.checkClientAlive 1, 5030), (.clientNotAlive 1, 14000),
          (.checkClientAlive 2, 14000)], [2]) := by decide
  obtain ⟨hcalled, hactive⟩ : s.called = [(.checkClientAlive 1, 5030),
      (.clientNotAlive 1, 14000), (.checkClientAlive 2, 14000)] ∧
      activeFds s.task.h.clients = [2] := by
    simpa [hs] using hseen
  have run := Run.of_execGood step sendFits hs
  exact ⟨s, run, hcalled, hactive, liveClientsKept_of_sends_fit rfl rfl run⟩

end Orchestrator.KeepAlive
