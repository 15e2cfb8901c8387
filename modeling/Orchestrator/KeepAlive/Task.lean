import Mathlib.Algebra.Order.Ring.Nat
import Mathlib.Data.List.Basic
import Mathlib.Data.List.Perm.Basic
import Mathlib.Tactic.Tauto

/-!
# The keep-alive task of the WebSocket server

One record type serves as a queue entry and as a client slot. The functions
follow `keep_alive.cpp` one by one: the wait computation, the three slot
updates, the sweep made when the queue receive times out, and one iteration of
the task loop.

Times are milliseconds read from the timer. The stored `last_seen` is a
`uint64_t`, so the two subtractions of the source wrap modulo `2^64` and are
written that way.
-/

namespace Orchestrator.KeepAlive

/-- Types of client FD actions. -/
inductive ActionType
  | noClient
  | clientFdAdd
  | clientFdRemove
  | clientUpdate
  | clientActive
  | stopTask
  deriving DecidableEq, Repr

/-- An action applied to a client file descriptor, and also a client slot. -/
structure ClientFdAction where
  type : ActionType
  fd : Int
  lastSeen : Nat
  deriving DecidableEq, Repr

/-- The configuration read by `wss_keep_alive_start`. A callback is recorded by
whether it is installed. -/
structure WssKeepAliveConfig where
  maxClients : Nat := 10
  keepAlivePeriodMs : Nat := 5000
  notAliveAfterMs : Nat := 10000
  checkClientAliveCb : Bool := false
  clientNotAliveCb : Bool := false
  deriving DecidableEq, Repr

/-- The number of entries of the action queue. -/
def WssKeepAliveConfig.queueSize (config : WssKeepAliveConfig) : Nat :=
  config.maxClients / 2

/-- The storage owned by the task. The queue is kept with the system, because
the server writes to it. -/
structure WssKeepAliveStorage where
  checkClientAliveCb : Bool
  clientNotAliveCb : Bool
  keepAlivePeriodMs : Nat
  notAliveAfterMs : Nat
  clients : List ClientFdAction
  deriving DecidableEq, Repr

/-- The storage that a successful `wss_keep_alive_start` hands to the task: the
configured values and `max_clients` zeroed slots. -/
def wssKeepAliveStart (config : WssKeepAliveConfig) : WssKeepAliveStorage where
  checkClientAliveCb := config.checkClientAliveCb
  clientNotAliveCb := config.clientNotAliveCb
  keepAlivePeriodMs := config.keepAlivePeriodMs
  notAliveAfterMs := config.notAliveAfterMs
  clients := List.replicate config.maxClients ⟨.noClient, 0, 0⟩

def defaultKeepAliveTimeoutMs : Nat := 30000

def minKeepAliveCheckMs : Nat := 1000

/-- Unsigned 64-bit subtraction. -/
def sub64 (a b : Nat) : Nat := (a + 2 ^ 64 - b) % 2 ^ 64

/-- The subtraction is exact when the clock has not gone back. -/
theorem sub64_of_le {a b : Nat} (h : b ≤ a) (ha : a < 2 ^ 64) : sub64 a b = a - b := by
  unfold sub64
  rw [show a + 2 ^ 64 - b = (a - b) + 2 ^ 64 by omega, Nat.add_mod_right]
  exact Nat.mod_eq_of_lt (by omega)

/-! ## The wait of one iteration -/

/-- The body of the loop of `calculate_next_check`. -/
def calculateNextCheckStep (keepAlivePeriodMs currentTime nextCheckTimeMs : Nat)
    (client : ClientFdAction) : Nat :=
  if client.type = .clientActive then
    let expectedNextCheck := (client.lastSeen + keepAlivePeriodMs) % 2 ^ 64
    let timeUntilCheck := sub64 expectedNextCheck currentTime
    if timeUntilCheck < nextCheckTimeMs then timeUntilCheck else nextCheckTimeMs
  else nextCheckTimeMs

def calculateNextCheck (h : WssKeepAliveStorage) (currentTime : Nat) : Nat :=
  h.clients.foldl (calculateNextCheckStep h.keepAlivePeriodMs currentTime)
    defaultKeepAliveTimeoutMs

def getNextKeepAliveCheck (h : WssKeepAliveStorage) (now : Nat) : Nat :=
  let checkAfterMs := calculateNextCheck h now
  if checkAfterMs < minKeepAliveCheckMs then minKeepAliveCheckMs else checkAfterMs

theorem calculateNextCheckStep_le (period now next : Nat) (client : ClientFdAction) :
    calculateNextCheckStep period now next client ≤ next := by
  simp only [calculateNextCheckStep]
  split
  · split <;> omega
  · exact Nat.le_refl _

theorem foldl_calculateNextCheckStep_le (period now next : Nat)
    (clients : List ClientFdAction) :
    clients.foldl (calculateNextCheckStep period now) next ≤ next := by
  induction clients generalizing next with
  | nil => exact Nat.le_refl _
  | cons client rest ih =>
      exact Nat.le_trans (ih _) (calculateNextCheckStep_le period now next client)

/-! ## The slot updates -/

/-- The slot of an active client with this descriptor. -/
def ClientFdAction.isActiveFd (fd : Int) (c : ClientFdAction) : Bool :=
  c.type = .clientActive ∧ c.fd = fd

/-- Each loop of the source rewrites the first slot that passes its test and
returns whether there was one. -/
def updateFirst (test : ClientFdAction → Bool) (update : ClientFdAction → ClientFdAction)
    (h : WssKeepAliveStorage) : Bool × WssKeepAliveStorage :=
  (h.clients.any test,
    { h with clients := h.clients.replaceF fun c => if test c then some (update c) else none })

def registerClient (h : WssKeepAliveStorage) (clientFd : Int) (now : Nat) :
    Bool × WssKeepAliveStorage :=
  updateFirst (fun c => c.type = .noClient)
    (fun _ => { type := .clientActive, fd := clientFd, lastSeen := now }) h

def unregisterClient (h : WssKeepAliveStorage) (clientFd : Int) :
    Bool × WssKeepAliveStorage :=
  updateFirst (·.isActiveFd clientFd) (fun c => { c with type := .noClient, fd := -1 }) h

def refreshClientStatus (h : WssKeepAliveStorage) (clientFd : Int) (now : Nat) :
    Bool × WssKeepAliveStorage :=
  updateFirst (·.isActiveFd clientFd) (fun c => { c with lastSeen := now }) h

/-! ## The task loop -/

/-- The calls the task makes on a timeout. -/
inductive Callback
  | clientNotAlive (fd : Int)
  | checkClientAlive (fd : Int)
  deriving DecidableEq, Repr

/-- The slot is past its allowed silence at this time. -/
def ClientFdAction.expired (notAliveAfterMs now : Nat) (c : ClientFdAction) : Bool :=
  notAliveAfterMs < sub64 now c.lastSeen

/-- One turn of the loop over the slots in the timeout branch. -/
def checkClient (h : WssKeepAliveStorage) (now : Nat) (c : ClientFdAction) :
    List Callback × ClientFdAction :=
  if c.type = .clientActive then
    if c.expired h.notAliveAfterMs now then
      (if h.clientNotAliveCb then [.clientNotAlive c.fd] else [],
        { c with type := .noClient })
    else
      (if h.checkClientAliveCb then [.checkClientAlive c.fd] else [], c)
  else ([], c)

/-- The slot left behind: an expired active slot is freed, any other is kept. -/
theorem checkClient_snd (h : WssKeepAliveStorage) (now : Nat) (c : ClientFdAction) :
    (checkClient h now c).2 =
      if c.type = .clientActive ∧ c.expired h.notAliveAfterMs now then
        { c with type := .noClient } else c := by
  by_cases hact : c.type = .clientActive <;>
    by_cases hexp : c.expired h.notAliveAfterMs now <;> simp [checkClient, hact, hexp]

/-- The timeout branch: the callbacks in slot order and the slots afterwards. -/
def checkClients (h : WssKeepAliveStorage) (now : Nat) :
    List Callback × WssKeepAliveStorage :=
  (h.clients.flatMap fun c => (checkClient h now c).1,
    { h with clients := h.clients.map fun c => (checkClient h now c).2 })

/-- The state of `keep_alive_task` between two iterations. -/
structure KeepAliveTask where
  h : WssKeepAliveStorage
  runTask : Bool
  deriving DecidableEq, Repr

/-- The branch of an iteration that received an action, at the time it read. -/
def KeepAliveTask.receive (task : KeepAliveTask) (action : ClientFdAction) (now : Nat) :
    KeepAliveTask :=
  match action.type with
  | .clientFdAdd => { task with h := (registerClient task.h action.fd now).2 }
  | .clientFdRemove => { task with h := (unregisterClient task.h action.fd).2 }
  | .clientUpdate => { task with h := (refreshClientStatus task.h action.fd now).2 }
  | .stopTask => { task with runTask := false }
  | .noClient => task
  | .clientActive => task

/-- The branch of an iteration whose receive timed out. -/
def KeepAliveTask.sweep (task : KeepAliveTask) (now : Nat) : KeepAliveTask :=
  { task with h := (checkClients task.h now).2 }

/-! ## The descriptors of the active slots -/

/-- The descriptors held by active slots, in slot order. -/
def activeFds (clients : List ClientFdAction) : List Int :=
  (clients.filter fun c => c.type = .clientActive).map (·.fd)

theorem mem_activeFds {clients : List ClientFdAction} {fd : Int} :
    fd ∈ activeFds clients ↔ ∃ c ∈ clients, c.type = .clientActive ∧ c.fd = fd := by
  simp [activeFds, and_assoc]

theorem activeFds_cons (c : ClientFdAction) (rest : List ClientFdAction) :
    activeFds (c :: rest) =
      if c.type = .clientActive then c.fd :: activeFds rest else activeFds rest := by
  by_cases hc : c.type = .clientActive <;> simp [activeFds, hc]

@[simp] theorem activeFds_start (config : WssKeepAliveConfig) :
    activeFds (wssKeepAliveStart config).clients = [] := by
  simp [activeFds, wssKeepAliveStart]

/-- Registration adds the descriptor once, or does nothing when no slot is free. -/
theorem activeFds_registerClient (h : WssKeepAliveStorage) (fd : Int) (now : Nat) :
    activeFds (registerClient h fd now).2.clients =
        activeFds h.clients ∨
      (activeFds (registerClient h fd now).2.clients).Perm
        (fd :: activeFds h.clients) := by
  simp only [registerClient, updateFirst]
  induction h.clients with
  | nil => exact Or.inl rfl
  | cons c rest ih =>
      by_cases hfree : c.type = .noClient
      · right
        simp [hfree, activeFds_cons]
      · simp only [List.replaceF_cons, hfree, decide_false, Bool.false_eq_true, if_false,
          activeFds_cons]
        split
        · rcases ih with ih | ih
          · exact Or.inl (by rw [ih])
          · exact Or.inr ((ih.cons _).trans (List.Perm.swap _ _ _))
        · exact ih

/-- Removal erases the first active slot with the descriptor. -/
theorem activeFds_unregisterClient (h : WssKeepAliveStorage) (fd : Int) :
    activeFds (unregisterClient h fd).2.clients = (activeFds h.clients).erase fd := by
  simp only [unregisterClient, updateFirst]
  induction h.clients with
  | nil => rfl
  | cons c rest ih =>
      by_cases hact : c.type = .clientActive
      · by_cases hfd : c.fd = fd
        · simp [ClientFdAction.isActiveFd, hact, hfd, activeFds_cons]
        · simp only [List.replaceF_cons, ClientFdAction.isActiveFd, hact, hfd, activeFds_cons,
            and_false, decide_false, Bool.false_eq_true, if_false, if_true]
          rw [List.erase_cons_tail (by simpa using hfd)]
          exact congrArg (List.cons c.fd) ih
      · simp only [List.replaceF_cons, ClientFdAction.isActiveFd, hact, false_and,
          decide_false, Bool.false_eq_true, if_false, activeFds_cons]
        exact ih

/-- A refresh keeps the active descriptors. -/
theorem activeFds_refreshClientStatus (h : WssKeepAliveStorage) (fd : Int) (now : Nat) :
    activeFds (refreshClientStatus h fd now).2.clients = activeFds h.clients := by
  simp only [refreshClientStatus, updateFirst]
  induction h.clients with
  | nil => rfl
  | cons c rest ih =>
      by_cases hc : c.isActiveFd fd
      · simp [hc, activeFds_cons]
      · simp only [List.replaceF_cons, hc, Bool.false_eq_true, if_false, activeFds_cons]
        rw [ih]

/-- A sweep only drops active descriptors. -/
theorem activeFds_checkClients (h : WssKeepAliveStorage) (now : Nat) :
    (activeFds (checkClients h now).2.clients).Sublist (activeFds h.clients) := by
  simp only [checkClients]
  induction h.clients with
  | nil => exact List.Sublist.refl _
  | cons c rest ih =>
      simp only [List.map_cons, activeFds_cons, checkClient_snd] at ih ⊢
      by_cases hact : c.type = .clientActive
      · by_cases hexp : c.expired h.notAliveAfterMs now
        · simpa only [hact, hexp, and_self, if_true, reduceCtorEq, if_false]
            using ih.cons c.fd
        · simpa only [hact, hexp, and_false, if_false, if_true, Bool.false_eq_true]
            using ih.cons_cons c.fd
      · simpa only [hact, false_and, if_false] using ih

/-! ## Members of an updated slot table -/

theorem mem_updateFirst {test : ClientFdAction → Bool}
    {update : ClientFdAction → ClientFdAction} {h : WssKeepAliveStorage}
    {c : ClientFdAction} (hc : c ∈ (updateFirst test update h).2.clients) :
    c ∈ h.clients ∨ ∃ a ∈ h.clients, test a ∧ c = update a := by
  simp only [updateFirst] at hc
  rcases List.exists_or_eq_self_of_replaceF
      (fun c => if test c then some (update c) else none) h.clients with
    heq | ⟨a, a', before, after, -, ha, hsplit, hreplaced⟩
  · exact Or.inl (heq ▸ hc)
  · rw [hreplaced] at hc
    have hmem : c ∈ before ++ a :: after ∨ c = a' := by
      simp only [List.mem_append, List.mem_cons] at hc ⊢
      tauto
    rcases hmem with hmem | rfl
    · exact Or.inl (hsplit ▸ hmem)
    · obtain ⟨htest, hupdate⟩ : test a = true ∧ update a = c := by simpa using ha
      exact Or.inr ⟨a, by simp [hsplit], htest, hupdate.symm⟩

/-- Processing an action leaves the configuration alone, and an active slot
afterwards was active before or was seen at this very time. -/
theorem receive_slot {task : KeepAliveTask} {action : ClientFdAction} {t : Nat}
    {c : ClientFdAction} (hc : c ∈ (task.receive action t).h.clients)
    (hactive : c.type = .clientActive) :
    c ∈ task.h.clients ∨ c.lastSeen = t := by
  simp only [KeepAliveTask.receive] at hc
  cases htype : action.type with
  | clientFdAdd =>
      simp only [htype, registerClient] at hc
      rcases mem_updateFirst hc with hold | ⟨a, -, -, rfl⟩
      · exact Or.inl hold
      · exact Or.inr rfl
  | clientFdRemove =>
      simp only [htype, unregisterClient] at hc
      rcases mem_updateFirst hc with hold | ⟨a, -, -, rfl⟩
      · exact Or.inl hold
      · cases hactive
  | clientUpdate =>
      simp only [htype, refreshClientStatus] at hc
      rcases mem_updateFirst hc with hold | ⟨a, -, -, rfl⟩
      · exact Or.inl hold
      · exact Or.inr rfl
  | stopTask => exact Or.inl (by simpa [htype] using hc)
  | noClient => exact Or.inl (by simpa [htype] using hc)
  | clientActive => exact Or.inl (by simpa [htype] using hc)

theorem receive_notAliveAfterMs (task : KeepAliveTask) (action : ClientFdAction) (t : Nat) :
    (task.receive action t).h.notAliveAfterMs = task.h.notAliveAfterMs := by
  simp only [KeepAliveTask.receive]
  cases action.type <;> rfl

/-- An active slot after a sweep was active before it and had not expired. -/
theorem sweep_slot {task : KeepAliveTask} {t : Nat} {c : ClientFdAction}
    (hc : c ∈ (task.sweep t).h.clients) (hactive : c.type = .clientActive) :
    c ∈ task.h.clients ∧ c.expired task.h.notAliveAfterMs t = false := by
  simp only [KeepAliveTask.sweep, checkClients, List.mem_map, checkClient_snd] at hc
  obtain ⟨a, ha, rfl⟩ := hc
  split at hactive
  · cases hactive
  · next hkeep =>
    rw [if_neg hkeep]
    exact ⟨ha, by simpa [hactive] using hkeep⟩

/-- After a refresh the slot of the descriptor carries the new time. -/
theorem refreshClientStatus_slot {h : WssKeepAliveStorage} {fd : Int} {t : Nat}
    (hnodup : (activeFds h.clients).Nodup) {c : ClientFdAction}
    (hc : c ∈ (refreshClientStatus h fd t).2.clients) (hactive : c.type = .clientActive)
    (hfd : c.fd = fd) : c.lastSeen = t := by
  simp only [refreshClientStatus, updateFirst] at hc
  induction hlist : h.clients generalizing h with
  | nil => simp [hlist] at hc
  | cons a rest ih =>
      rw [hlist, activeFds_cons] at hnodup
      rw [hlist] at hc
      by_cases ha : a.isActiveFd fd
      · obtain ⟨hatype, hafd⟩ : a.type = .clientActive ∧ a.fd = fd := by
          simpa [ClientFdAction.isActiveFd] using ha
        simp only [List.replaceF_cons, ha, if_true, List.mem_cons] at hc
        rcases hc with rfl | hrest
        · rfl
        · rw [if_pos hatype, List.nodup_cons, hafd] at hnodup
          exact absurd (mem_activeFds.mpr ⟨c, hrest, hactive, hfd⟩) hnodup.1
      · simp only [List.replaceF_cons, ha, Bool.false_eq_true, if_false, List.mem_cons] at hc
        rcases hc with rfl | hrest
        · exact absurd (by simp [ClientFdAction.isActiveFd, hactive, hfd]) ha
        · refine ih (h := { h with clients := rest }) ?_ hrest rfl
          split at hnodup
          · exact (List.nodup_cons.mp hnodup).2
          · exact hnodup

end Orchestrator.KeepAlive
