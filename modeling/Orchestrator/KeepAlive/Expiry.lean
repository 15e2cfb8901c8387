import Orchestrator.KeepAlive.Ownership

/-!
# How long a silent client keeps its slot

Only a sweep frees a slot, and a sweep happens only when a receive times out.
The bound on the age of a slot therefore holds as long as no action is received
more than the default timeout after the last sweep, and fails when the traffic
of other clients keeps the receives from timing out.
-/

namespace Orchestrator.KeepAlive

open Lib

/-- An action is received no later than the longest wait after the last sweep,
the start counting as one. Server steps and sweeps are not restricted. -/
def sweptRecently (s : System) : Label → Prop
  | .receive t => t ≤ s.sweptAt + defaultKeepAliveTimeoutMs
  | _ => True

instance (s : System) (l : Label) : Decidable (sweptRecently s l) := by
  cases l <;> unfold sweptRecently <;> infer_instance

/-- No active slot is older than its allowed silence plus the longest wait. -/
def DeadClientsExpire (config : WssKeepAliveConfig) (s : System) : Prop :=
  ∀ c ∈ s.task.h.clients, c.type = .clientActive →
    s.clock - c.lastSeen ≤ config.notAliveAfterMs + defaultKeepAliveTimeoutMs

/-! ## The bound -/

/-- An active slot was seen no later than now, and the last sweep found it
within its allowed silence. -/
structure SweptSlots (config : WssKeepAliveConfig) (s : System) : Prop where
  limit : s.task.h.notAliveAfterMs = config.notAliveAfterMs
  swept_le : s.sweptAt ≤ s.clock
  seen : ∀ c ∈ s.task.h.clients, c.type = .clientActive →
    c.lastSeen ≤ s.clock ∧ s.sweptAt ≤ c.lastSeen + config.notAliveAfterMs
  recent : DeadClientsExpire config s

theorem sweptSlots_start (config : WssKeepAliveConfig) (t : Nat) :
    SweptSlots config (start config t) := by
  have hnone : ∀ c ∈ (start config t).task.h.clients, c.type ≠ .clientActive := by
    intro c hc
    simp only [start, wssKeepAliveStart, List.mem_replicate] at hc
    simp [hc.2]
  refine ⟨rfl, Nat.le_refl _, ?_, ?_⟩
  · intro c hc hactive
    exact absurd hactive (hnone c hc)
  · intro c hc hactive
    exact absurd hactive (hnone c hc)

theorem SweptSlots.receive {config : WssKeepAliveConfig} {s : System}
    (h : SweptSlots config s) {item : QueuedAction} {rest : List QueuedAction} {t : Nat}
    (hread : s.mayRead t) (hrecent : t ≤ s.sweptAt + defaultKeepAliveTimeoutMs) :
    SweptSlots config (s.received item rest t) := by
  have hclock := hread.2.1
  have hseen : ∀ c ∈ (s.received item rest t).task.h.clients, c.type = .clientActive →
      c.lastSeen ≤ t ∧ s.sweptAt ≤ c.lastSeen + config.notAliveAfterMs := by
    intro c hc hactive
    rcases receive_slot hc hactive with hold | hnow
    · obtain ⟨hle, hswept⟩ := h.seen c hold hactive
      exact ⟨by omega, hswept⟩
    · have := h.swept_le
      exact ⟨by omega, by omega⟩
  refine ⟨?_, ?_, hseen, ?_⟩
  · exact (receive_notAliveAfterMs _ _ _).trans h.limit
  · exact Nat.le_trans h.swept_le hclock
  · intro c hc hactive
    obtain ⟨hle, hswept⟩ := hseen c hc hactive
    change t - c.lastSeen ≤ _
    omega

theorem SweptSlots.timeout {config : WssKeepAliveConfig} {s : System}
    (h : SweptSlots config s) {t : Nat} (hread : s.mayRead t) :
    SweptSlots config (s.swept t) := by
  have hclock := hread.2.1
  have hseen : ∀ c ∈ (s.task.sweep t).h.clients, c.type = .clientActive →
      c.lastSeen ≤ t ∧ t ≤ c.lastSeen + config.notAliveAfterMs := by
    intro c hc hactive
    obtain ⟨hold, hexp⟩ := sweep_slot hc hactive
    have hle : c.lastSeen ≤ t := Nat.le_trans (h.seen c hold hactive).1 hclock
    have ht : t < 2 ^ 64 := by
      have := hread.2.2
      omega
    simp only [ClientFdAction.expired, decide_eq_false_iff_not, sub64_of_le hle ht,
      h.limit] at hexp
    exact ⟨hle, by omega⟩
  refine ⟨h.limit, Nat.le_refl _, hseen, ?_⟩
  intro c hc hactive
  obtain ⟨hle, hswept⟩ := hseen c hc hactive
  change t - c.lastSeen ≤ _
  omega

/-- In every run that receives no action later than the longest wait after the
last sweep, no active slot outlives its allowed silence by more than that wait. -/
theorem deadClientsExpire_of_sweptRecently {config : WssKeepAliveConfig} {t₀ : Nat}
    {labels : List Label} {s : System}
    (run : Run step sweptRecently (start config t₀) labels s) :
    DeadClientsExpire config s := by
  have h : SweptSlots config s := by
    refine run.invariant (sweptSlots_start config t₀) fun s l u hs hgood hstep => ?_
    cases l with
    | receive t =>
        obtain ⟨item, rest, -, hread, rfl⟩ := step_receive hstep
        exact hs.receive hread hgood
    | timeout t =>
        obtain ⟨hread, rfl⟩ := step_timeout hstep
        exact hs.timeout hread
    | connect fd | frame fd | closeFrame fd | close fd | closePlain fd | stop =>
        obtain ⟨htask, hclock, hswept, -⟩ := step_server_frame rfl hstep
        have hrecent := hs.recent
        refine ⟨by rw [htask]; exact hs.limit, by rw [hclock, hswept]; exact hs.swept_le, ?_, ?_⟩
        · rw [htask, hclock, hswept]
          exact hs.seen
        · rw [DeadClientsExpire, htask, hclock]
          exact hrecent
  exact h.recent

/-- The rule applies to a run in which a silent client is swept in time. -/
theorem deadClientsExpire_swept :
    ∃ s, Run step sweptRecently (start {} 0)
        [.connect 1, .receive 0, .timeout 5000, .connect 2, .receive 9000, .timeout 14000] s ∧
      DeadClientsExpire {} s := by
  obtain ⟨s, hs⟩ := Option.isSome_iff_exists.mp
    (show (execGood step sweptRecently (start {} 0)
      [.connect 1, .receive 0, .timeout 5000, .connect 2, .receive 9000,
        .timeout 14000]).isSome by decide)
  have run := Run.of_execGood step sweptRecently hs
  exact ⟨s, run, deadClientsExpire_of_sweptRecently run⟩

/-- Client 1 falls silent at time 0 while client 2 sends a frame just before
each wait of the task ends, so that no receive ever times out. -/
def busySession : List Label :=
  [.connect 1, .receive 0, .connect 2, .receive 0] ++
    [4999, 5998, 10997, 15996, 20995, 25994, 30993, 35992, 40991].flatMap fun t =>
      [.frame 2, .receive t]

/-- A receive that ends within the wait the task asked for at its last reading. -/
def withinWait (s : System) : Label → Prop
  | .receive t => t ≤ s.clock + getNextKeepAliveCheck s.task.h s.clock
  | _ => True

instance (s : System) (l : Label) : Decidable (withinWait s l) := by
  cases l <;> unfold withinWait <;> infer_instance

/-- Every wait of the busy session ends as the task asked for it, and yet after
40.991 s of silence the slot of client 1 is still active. -/
theorem not_deadClientsExpire_busySession :
    ∃ s, Run step withinWait (start {} 0) busySession s ∧ ¬ DeadClientsExpire {} s := by
  obtain ⟨s, hs⟩ := Option.isSome_iff_exists.mp
    (show (execGood step withinWait (start {} 0) busySession).isSome by decide)
  have hslots : (execGood step withinWait (start {} 0) busySession).map
      (fun s => (s.clock, s.task.h.clients.head?)) =
        some (40991, some ⟨.clientActive, 1, 0⟩) := by decide
  obtain ⟨hclock, hhead⟩ :
      s.clock = 40991 ∧ s.task.h.clients.head? = some ⟨.clientActive, 1, 0⟩ := by
    simpa [hs] using hslots
  refine ⟨s, Run.of_execGood step withinWait hs, fun h => ?_⟩
  have hold := h _ (List.mem_of_mem_head? hhead) rfl
  rw [hclock] at hold
  revert hold
  decide

end Orchestrator.KeepAlive
