import Orchestrator.KeepAlive.System

/-!
# Which connection owns a slot

The task sees descriptors only. What ties a slot to a connection is the order
of the queue: for every descriptor, the actions still queued must be
processable one after another so that an addition finds no active slot, and a
removal or an update finds either no slot or the slot of the connection it was
issued for. `Orderly` says this by recursion on the queue; every step of the
system in which no send is lost preserves it.
-/

namespace Orchestrator.KeepAlive

open Lib

/-- The connection whose addition for this descriptor was processed last. -/
def holder (processed : List (QueuedAction × Nat)) (fd : Int) : Option Connection :=
  (processed.find? fun p => p.1.action.type = .clientFdAdd ∧ p.1.action.fd = fd).bind
    (·.1.conn)

/-- The connection that owns the active slot of the descriptor, if there is one. -/
def slotOwner (s : System) (fd : Int) : Option Connection :=
  if fd ∈ activeFds s.task.h.clients then holder s.processed fd else none

/-- From a slot with this owner, the queued actions of the descriptor are in
order and end with a slot that only the open connection can own. -/
def Orderly (fd : Int) : Option Connection → List QueuedAction → Option Connection → Prop
  | owner, [], opened => ∀ c, owner = some c → opened = some c
  | owner, item :: rest, opened =>
      if item.action.fd = fd then
        match item.action.type with
        | .clientFdAdd => owner = none ∧ ∃ c, item.conn = some c ∧ Orderly fd (some c) rest opened
        | .clientFdRemove =>
            (∀ c, owner = some c → item.conn = some c) ∧ Orderly fd none rest opened
        | .clientUpdate =>
            (∀ c, owner = some c → item.conn = some c) ∧ Orderly fd owner rest opened
        | _ => Orderly fd owner rest opened
      else Orderly fd owner rest opened

/-- Losing the slot early, by a sweep or a full table, keeps the queue in order. -/
theorem Orderly.forget {fd : Int} {owner : Option Connection} {queue : List QueuedAction}
    {opened : Option Connection} (h : Orderly fd owner queue opened) :
    Orderly fd none queue opened := by
  induction queue generalizing owner with
  | nil => simp [Orderly]
  | cons item rest ih =>
      simp only [Orderly] at h ⊢
      split at h
      · next hfd =>
        rw [if_pos hfd]
        split at h
        · exact ⟨trivial, h.2⟩
        · exact ⟨by simp, h.2⟩
        · exact ⟨by simp, ih h.2⟩
        · exact ih h
      · next hfd =>
        rw [if_neg hfd]
        exact ih h

/-- What an appended action does to the descriptor is decided by the slot that
the queue before it leaves. -/
theorem Orderly.append {fd : Int} {owner : Option Connection} {queue : List QueuedAction}
    {opened opened' : Option Connection} {item : QueuedAction}
    (h : Orderly fd owner queue opened)
    (hitem : ∀ last, (∀ c, last = some c → opened = some c) → Orderly fd last [item] opened') :
    Orderly fd owner (queue ++ [item]) opened' := by
  induction queue generalizing owner with
  | nil => exact hitem owner h
  | cons first rest ih =>
      simp only [List.cons_append, Orderly] at h ⊢
      split at h
      · next hfd =>
        rw [if_pos hfd]
        split at h
        · obtain ⟨hnone, c, hc, htail⟩ := h
          exact ⟨hnone, c, hc, ih htail⟩
        · exact ⟨h.1, ih h.2⟩
        · exact ⟨h.1, ih h.2⟩
        · exact ih h
      · next hfd =>
        rw [if_neg hfd]
        exact ih h

/-- The state of the slots and the queue that every run without a lost send keeps. -/
structure Owned (s : System) : Prop where
  nodup : (activeFds s.task.h.clients).Nodup
  held : ∀ fd ∈ activeFds s.task.h.clients, ∃ c, holder s.processed fd = some c
  orderly : ∀ fd, Orderly fd (slotOwner s fd) s.queue (s.openConn fd)

theorem owned_start (config : WssKeepAliveConfig) (t : Nat) : Owned (start config t) where
  nodup := by simp [start]
  held := by simp [start]
  orderly := by simp [start, slotOwner, Orderly]

/-! ## Sends -/

/-- A send that fits appends its entry and changes nothing else. -/
theorem xQueueSendToBack_of_fits {s : System} {item : QueuedAction}
    (h : s.queue.length < s.queueSize) :
    (xQueueSendToBack s item).2 = { s with queue := s.queue ++ [item] } := by
  simp [xQueueSendToBack, h]

/-- Appending an entry and changing one descriptor of the open table keeps
ownership, when the entry is in order for that descriptor. -/
theorem Owned.send {s u : System} {item : QueuedAction}
    (h : Owned s) (htask : u.task = s.task) (hproc : u.processed = s.processed)
    (hqueue : u.queue = s.queue ++ [item])
    (hother : ∀ g, g ≠ item.action.fd → u.openConn g = s.openConn g)
    (hitem : ∀ last, (∀ c, last = some c → s.openConn item.action.fd = some c) →
      Orderly item.action.fd last [item] (u.openConn item.action.fd)) : Owned u where
  nodup := by rw [htask]; exact h.nodup
  held := by rw [htask, hproc]; exact h.held
  orderly := by
    intro g
    have howner : slotOwner u g = slotOwner s g := by simp only [slotOwner, htask, hproc]
    rw [howner, hqueue]
    by_cases hg : g = item.action.fd
    · subst g
      exact (h.orderly _).append hitem
    · rw [hother g hg]
      refine (h.orderly g).append fun last hlast => ?_
      simpa [Orderly, Ne.symm hg] using hlast

/-! ## Steps of the task -/

theorem holder_cons (item : QueuedAction) (t : Nat) (processed : List (QueuedAction × Nat))
    (fd : Int) :
    holder ((item, t) :: processed) fd =
      if item.action.type = .clientFdAdd ∧ item.action.fd = fd then item.conn
      else holder processed fd := by
  by_cases h : item.action.type = .clientFdAdd ∧ item.action.fd = fd <;>
    simp [holder, h]

/-- A task step that may only drop active slots, and processes no addition,
keeps ownership. -/
theorem Owned.drop {s u : System} (h : Owned s)
    (hsub : (activeFds u.task.h.clients).Sublist (activeFds s.task.h.clients))
    (hholder : ∀ fd, holder u.processed fd = holder s.processed fd)
    (horderly : ∀ fd, Orderly fd (slotOwner u fd) u.queue (u.openConn fd)) : Owned u where
  nodup := h.nodup.sublist hsub
  held := by
    intro fd hfd
    rw [hholder]
    exact h.held fd (hsub.subset hfd)
  orderly := horderly

/-- An unchanged owner, or the loss of it, keeps the queue in order. -/
theorem Orderly.of_slotOwner {s u : System} {fd : Int} {queue : List QueuedAction}
    {opened : Option Connection}
    (hsub : (activeFds u.task.h.clients).Sublist (activeFds s.task.h.clients))
    (hholder : ∀ fd, holder u.processed fd = holder s.processed fd)
    (h : Orderly fd (slotOwner s fd) queue opened) :
    Orderly fd (slotOwner u fd) queue opened := by
  by_cases hu : fd ∈ activeFds u.task.h.clients
  · have hs : fd ∈ activeFds s.task.h.clients := hsub.subset hu
    simpa only [slotOwner, hu, hs, if_true, hholder] using h
  · simpa only [slotOwner, hu, if_false] using h.forget

/-- The state after a sweep. -/
def System.swept (s : System) (t : Nat) : System :=
  { s with
    task := s.task.sweep t
    clock := t
    sweptAt := t
    called := s.called ++ (checkClients s.task.h t).1.map fun call => (call, t) }

theorem Owned.timeout {s : System} (h : Owned s) (t : Nat) : Owned (s.swept t) := by
  have hsub := activeFds_checkClients s.task.h t
  exact h.drop hsub (fun _ => rfl) fun fd =>
    Orderly.of_slotOwner hsub (fun _ => rfl) (h.orderly fd)

/-- The order of the queue says what the first entry may meet. -/
theorem Owned.head_add {s : System} (h : Owned s) {item : QueuedAction}
    {rest : List QueuedAction} (hq : s.queue = item :: rest)
    (htype : item.action.type = .clientFdAdd) :
    item.action.fd ∉ activeFds s.task.h.clients ∧ ∃ c, item.conn = some c ∧
      Orderly item.action.fd (some c) rest (s.openConn item.action.fd) := by
  have ho := h.orderly item.action.fd
  simp only [hq, Orderly, if_true, htype] at ho
  refine ⟨fun hmem => ?_, ho.2⟩
  obtain ⟨c, hc⟩ := h.held _ hmem
  simp [slotOwner, hmem, hc] at ho

theorem Owned.head_remove {s : System} (h : Owned s) {item : QueuedAction}
    {rest : List QueuedAction} (hq : s.queue = item :: rest)
    (htype : item.action.type = .clientFdRemove) :
    (∀ c, slotOwner s item.action.fd = some c → item.conn = some c) ∧
      Orderly item.action.fd none rest (s.openConn item.action.fd) := by
  have ho := h.orderly item.action.fd
  simpa only [hq, Orderly, if_true, htype] using ho

/-- An entry other than an addition or a removal of this descriptor leaves its
owner to the rest of the queue. -/
theorem Owned.tail_of_other {s : System} (h : Owned s) {item : QueuedAction}
    {rest : List QueuedAction} (hq : s.queue = item :: rest) (fd : Int)
    (hother : item.action.fd = fd →
      item.action.type ≠ .clientFdAdd ∧ item.action.type ≠ .clientFdRemove) :
    Orderly fd (slotOwner s fd) rest (s.openConn fd) := by
  have ho := h.orderly fd
  simp only [hq, Orderly] at ho
  split at ho
  · next hfd =>
    obtain ⟨hadd, hremove⟩ := hother hfd
    split at ho
    · next htype => exact absurd htype hadd
    · next htype => exact absurd htype hremove
    · exact ho.2
    · exact ho
  · exact ho

/-- The state after the task processed the first entry of the queue. -/
def System.received (s : System) (item : QueuedAction) (rest : List QueuedAction)
    (t : Nat) : System :=
  { s with
    task := s.task.receive item.action t
    queue := rest
    clock := t
    processed := (item, t) :: s.processed }

theorem Owned.receive_add {s : System} (h : Owned s) {item : QueuedAction}
    {rest : List QueuedAction} (hq : s.queue = item :: rest) (t : Nat)
    (htype : item.action.type = .clientFdAdd) : Owned (s.received item rest t) := by
  obtain ⟨hfree, c, hc, htail⟩ := h.head_add hq htype
  have hclients : (s.received item rest t).task.h =
      (registerClient s.task.h item.action.fd t).2 := by
    simp [System.received, KeepAliveTask.receive, htype]
  have hfds := activeFds_registerClient s.task.h item.action.fd t
  rw [← hclients] at hfds
  have hmem : ∀ fd, fd ≠ item.action.fd →
      (fd ∈ activeFds (s.received item rest t).task.h.clients ↔
        fd ∈ activeFds s.task.h.clients) := by
    intro fd hne
    rcases hfds with heq | hperm
    · rw [heq]
    · simp [hperm.mem_iff, hne]
  have hholder : ∀ fd, holder (s.received item rest t).processed fd =
      if item.action.fd = fd then some c else holder s.processed fd := by
    intro fd
    simp [System.received, holder_cons, htype, hc]
  constructor
  · rcases hfds with heq | hperm
    · rw [heq]
      exact h.nodup
    · exact hperm.nodup_iff.mpr (List.nodup_cons.mpr ⟨hfree, h.nodup⟩)
  · intro fd hfd
    rw [hholder]
    by_cases hne : item.action.fd = fd
    · exact ⟨c, if_pos hne⟩
    · rw [if_neg hne]
      exact h.held fd ((hmem fd (Ne.symm hne)).mp hfd)
  · intro fd
    by_cases hne : item.action.fd = fd
    · subst hne
      by_cases hnew : item.action.fd ∈ activeFds (s.received item rest t).task.h.clients
      · rw [slotOwner, if_pos hnew, hholder, if_pos rfl]
        exact htail
      · rw [slotOwner, if_neg hnew]
        exact htail.forget
    · have howner : slotOwner (s.received item rest t) fd = slotOwner s fd := by
        simp only [slotOwner, hmem fd (Ne.symm hne), hholder, if_neg hne]
      rw [howner]
      exact h.tail_of_other hq fd fun heq => absurd heq hne

theorem Owned.receive_remove {s : System} (h : Owned s) {item : QueuedAction}
    {rest : List QueuedAction} (hq : s.queue = item :: rest) (t : Nat)
    (htype : item.action.type = .clientFdRemove) : Owned (s.received item rest t) := by
  have hfds : activeFds (s.received item rest t).task.h.clients =
      (activeFds s.task.h.clients).erase item.action.fd := by
    simp only [System.received, KeepAliveTask.receive, htype]
    exact activeFds_unregisterClient s.task.h item.action.fd
  have hsub : (activeFds (s.received item rest t).task.h.clients).Sublist
      (activeFds s.task.h.clients) := hfds ▸ List.erase_sublist
  have hholder : ∀ fd, holder (s.received item rest t).processed fd =
      holder s.processed fd := by
    intro fd
    simp [System.received, holder_cons, htype]
  refine h.drop hsub hholder fun fd => ?_
  by_cases hne : item.action.fd = fd
  · subst hne
    have hgone : item.action.fd ∉ activeFds (s.received item rest t).task.h.clients := by
      rw [hfds]
      exact h.nodup.not_mem_erase
    rw [slotOwner, if_neg hgone]
    exact (h.head_remove hq htype).2
  · exact Orderly.of_slotOwner hsub hholder
      (h.tail_of_other hq fd fun heq => absurd heq hne)

theorem Owned.receive_other {s : System} (h : Owned s) {item : QueuedAction}
    {rest : List QueuedAction} (hq : s.queue = item :: rest) (t : Nat)
    (hadd : item.action.type ≠ .clientFdAdd)
    (hremove : item.action.type ≠ .clientFdRemove) : Owned (s.received item rest t) := by
  have hfds : activeFds (s.received item rest t).task.h.clients =
      activeFds s.task.h.clients := by
    simp only [System.received, KeepAliveTask.receive]
    cases htype : item.action.type with
    | clientFdAdd => exact absurd htype hadd
    | clientFdRemove => exact absurd htype hremove
    | clientUpdate => exact activeFds_refreshClientStatus s.task.h item.action.fd t
    | stopTask => rfl
    | noClient => rfl
    | clientActive => rfl
  have hsub : (activeFds (s.received item rest t).task.h.clients).Sublist
      (activeFds s.task.h.clients) := hfds ▸ List.Sublist.refl _
  have hholder : ∀ fd, holder (s.received item rest t).processed fd =
      holder s.processed fd := by
    intro fd
    simp [System.received, holder_cons, hadd]
  exact h.drop hsub hholder fun fd => Orderly.of_slotOwner hsub hholder
    (h.tail_of_other hq fd fun _ => ⟨hadd, hremove⟩)

theorem Owned.receive {s : System} (h : Owned s) {item : QueuedAction}
    {rest : List QueuedAction} (hq : s.queue = item :: rest) (t : Nat) :
    Owned (s.received item rest t) := by
  by_cases hadd : item.action.type = .clientFdAdd
  · exact h.receive_add hq t hadd
  · by_cases hremove : item.action.type = .clientFdRemove
    · exact h.receive_remove hq t hremove
    · exact h.receive_other hq t hadd hremove

/-! ## Runs without a lost send -/

/-- Inversion of a receive. -/
theorem step_receive {s u : System} {t : Nat} (h : step s (.receive t) = some u) :
    ∃ item rest, s.queue = item :: rest ∧ s.mayRead t ∧ u = s.received item rest t := by
  simp only [step] at h
  split at h
  · cases h
  · next item rest hq =>
    split at h
    · next hread => exact ⟨item, rest, hq, hread, (Option.some.inj h).symm⟩
    · cases h

/-- Inversion of a timeout. -/
theorem step_timeout {s u : System} {t : Nat} (h : step s (.timeout t) = some u) :
    s.mayRead t ∧ u = s.swept t := by
  simp only [step] at h
  split at h
  · next hread => exact ⟨hread, (Option.some.inj h).symm⟩
  · cases h

/-- What a step of the server whose send fits does: it appends the issued action
and changes at most the open table, the handle and the connection counter. -/
structure Issued (s u : System) (action : ClientFdAction) (conn : Option Connection) :
    Prop where
  task : u.task = s.task
  processed : u.processed = s.processed
  queue : u.queue = s.queue ++ [⟨action, conn⟩]
  others : ∀ g, g ≠ action.fd → u.openConn g = s.openConn g
  orderly : ∀ last, (∀ c, last = some c → s.openConn action.fd = some c) →
    Orderly action.fd last [⟨action, conn⟩] (u.openConn action.fd)
  conn_fd : ∀ c, conn = some c → s.openConn action.fd = some c ∨ c.fd = action.fd
  open_fd : ∀ g c, u.openConn g = some c → s.openConn g = some c ∨ c.fd = g

/-- A step that leaves the open table alone. -/
theorem Issued.of_openConn_eq {s u : System} {action : ClientFdAction}
    {conn : Option Connection} (htask : u.task = s.task) (hprocessed : u.processed = s.processed)
    (hqueue : u.queue = s.queue ++ [⟨action, conn⟩]) (hopen : u.openConn = s.openConn)
    (horderly : ∀ last, (∀ c, last = some c → s.openConn action.fd = some c) →
      Orderly action.fd last [⟨action, conn⟩] (s.openConn action.fd))
    (hconn : ∀ c, conn = some c → s.openConn action.fd = some c) : Issued s u action conn where
  task := htask
  processed := hprocessed
  queue := hqueue
  others g _ := by rw [hopen]
  orderly last hlast := by
    rw [hopen]
    exact horderly last hlast
  conn_fd c hc := Or.inl (hconn c hc)
  open_fd g c hc := by
    rw [hopen] at hc
    exact Or.inl hc

theorem issued_connect {s : System} {fd : Int} (hclosed : s.openConn fd = none) :
    Issued s { s with
        queue := s.queue ++ [⟨⟨.clientFdAdd, fd, 0⟩, some ⟨fd, s.nextNumber⟩⟩]
        openConn := Function.update s.openConn fd (some ⟨fd, s.nextNumber⟩)
        nextNumber := s.nextNumber + 1 }
      ⟨.clientFdAdd, fd, 0⟩ (some ⟨fd, s.nextNumber⟩) where
  task := rfl
  processed := rfl
  queue := rfl
  others _ hg := Function.update_of_ne hg _ _
  orderly last hlast := by
    have hnone : last = none := by
      cases last with
      | none => rfl
      | some c => simpa [hclosed] using hlast c rfl
    simp [Orderly, hnone]
  conn_fd := by
    rintro c ⟨⟩
    exact Or.inr rfl
  open_fd g c hc := by
    by_cases hg : g = fd
    · subst hg
      obtain rfl : (⟨g, s.nextNumber⟩ : Connection) = c := by simpa using hc
      exact Or.inr rfl
    · exact Or.inl (by simpa [hg] using hc)

theorem issued_close (s : System) (fd : Int) :
    Issued s { s with
        queue := s.queue ++ [⟨⟨.clientFdRemove, fd, 0⟩, s.openConn fd⟩]
        openConn := Function.update s.openConn fd none }
      ⟨.clientFdRemove, fd, 0⟩ (s.openConn fd) where
  task := rfl
  processed := rfl
  queue := rfl
  others _ hg := Function.update_of_ne hg _ _
  orderly last hlast := by
    simp only [Orderly, if_true]
    exact ⟨hlast, by simp⟩
  conn_fd _ := Or.inl
  open_fd g c hc := by
    by_cases hg : g = fd
    · simp [hg] at hc
    · exact Or.inl (by simpa [hg] using hc)

theorem step_server {s u : System} {l : Label} {action : ClientFdAction}
    (hissues : l.issues = some action) (hfits : s.queue.length < s.queueSize)
    (h : step s l = some u) : ∃ conn, Issued s u action conn := by
  cases l with
  | connect fd =>
      obtain rfl := Option.some.inj hissues
      simp only [step, wssKeepAliveAddClient, xQueueSendToBack_of_fits hfits] at h
      split at h
      · next hclosed =>
        obtain rfl := Option.some.inj h
        exact ⟨_, issued_connect hclosed.2⟩
      · cases h
  | frame fd =>
      obtain rfl := Option.some.inj hissues
      simp only [step, wssKeepAliveClientIsActive, xQueueSendToBack_of_fits hfits] at h
      split at h
      · obtain rfl := Option.some.inj h
        refine ⟨_, .of_openConn_eq rfl rfl rfl rfl (fun last hlast => ?_) fun _ hc => hc⟩
        simp only [Orderly, if_true]
        exact ⟨hlast, hlast⟩
      · cases h
  | closeFrame fd =>
      obtain rfl := Option.some.inj hissues
      simp only [step, wssKeepAliveRemoveClient, xQueueSendToBack_of_fits hfits] at h
      split at h
      · obtain rfl := Option.some.inj h
        refine ⟨_, .of_openConn_eq rfl rfl rfl rfl (fun last hlast => ?_) fun _ hc => hc⟩
        simp only [Orderly, if_true]
        exact ⟨hlast, by simp⟩
      · cases h
  | close fd =>
      obtain rfl := Option.some.inj hissues
      simp only [step, wssKeepAliveRemoveClient, xQueueSendToBack_of_fits hfits] at h
      split at h
      · obtain rfl := Option.some.inj h
        exact ⟨_, issued_close s fd⟩
      · cases h
  | closePlain fd =>
      obtain rfl := Option.some.inj hissues
      simp only [step, wssKeepAliveRemoveClient, xQueueSendToBack_of_fits hfits] at h
      split at h
      · next hclosed =>
        obtain rfl := Option.some.inj h
        refine ⟨_, .of_openConn_eq rfl rfl rfl rfl (fun last hlast => ?_) nofun⟩
        simp only [Orderly, if_true]
        exact ⟨by simpa [hclosed.2] using hlast, by simp⟩
      · cases h
  | stop =>
      obtain rfl := Option.some.inj hissues
      simp only [step, wssKeepAliveStop, xQueueSendToBack_of_fits hfits] at h
      split at h
      · obtain rfl := Option.some.inj h
        refine ⟨_, .of_openConn_eq rfl rfl rfl rfl (fun last hlast => ?_) nofun⟩
        simpa only [Orderly, if_true] using hlast
      · cases h
  | receive t => cases hissues
  | timeout t => cases hissues

/-- The server steps leave the task, its clock and the callbacks alone, whether the send fits or
not. -/
theorem step_server_frame {s u : System} {l : Label} (hissues : l.issues.isSome)
    (h : step s l = some u) :
    u.task = s.task ∧ u.clock = s.clock ∧ u.sweptAt = s.sweptAt ∧ u.called = s.called := by
  have hsend : ∀ item, (xQueueSendToBack s item).2.task = s.task ∧
      (xQueueSendToBack s item).2.clock = s.clock ∧
      (xQueueSendToBack s item).2.sweptAt = s.sweptAt ∧
      (xQueueSendToBack s item).2.called = s.called := by
    intro item
    simp only [xQueueSendToBack]
    split <;> exact ⟨rfl, rfl, rfl, rfl⟩
  cases l with
  | receive t | timeout t => cases hissues
  | connect fd | frame fd | closeFrame fd | close fd | closePlain fd | stop =>
      simp only [step] at h
      split at h
      · obtain rfl := Option.some.inj h
        exact hsend _
      · cases h

/-- Ownership holds throughout every run in which no send is lost. -/
theorem owned_of_run {config : WssKeepAliveConfig} {t₀ : Nat} {labels : List Label}
    {s : System} (run : Run step sendFits (start config t₀) labels s) : Owned s := by
  refine run.invariant (owned_start config t₀) fun s l u hs hfits hstep => ?_
  cases hissues : l.issues with
  | some action =>
      obtain ⟨conn, hu⟩ := step_server hissues (hfits (by simp [hissues])) hstep
      exact hs.send hu.task hu.processed hu.queue hu.others hu.orderly
  | none =>
      cases l with
      | receive t =>
          obtain ⟨item, rest, hq, -, rfl⟩ := step_receive hstep
          exact hs.receive hq t
      | timeout t =>
          obtain ⟨-, rfl⟩ := step_timeout hstep
          exact hs.timeout t
      | connect fd | frame fd | closeFrame fd | close fd | closePlain fd | stop =>
          cases hissues

end Orchestrator.KeepAlive
