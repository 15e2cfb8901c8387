import Mathlib.Order.Defs.LinearOrder
import Orchestrator.KeepAlive.Task

/-!
# The wait until the next check

The check of a client is due one period after it was last seen. A client that is
overdue should end the wait at once, but the unsigned difference of a time that has
passed is larger than every timeout.
-/

namespace Orchestrator.KeepAlive

/-- The check of an active client, as far from now as it lies ahead. -/
def timeUntilDue (period now : Nat) (c : ClientFdAction) : Nat := c.lastSeen + period - now

/-- The check of the client should have been made before now. -/
def Overdue (period now : Nat) (c : ClientFdAction) : Prop := c.lastSeen + period < now

instance (period now : Nat) (c : ClientFdAction) : Decidable (Overdue period now c) :=
  inferInstanceAs (Decidable (_ < _))

/-- The earliest of the checks, or the default timeout when there is none before it. -/
def earliestDue (period now : Nat) (clients : List ClientFdAction) : Nat :=
  ((clients.filter fun c => c.type = .clientActive).map (timeUntilDue period now)).foldr min
    defaultKeepAliveTimeoutMs

/-- The wait that the comments of `get_next_keep_alive_check` describe. -/
def earliestCheck (h : WssKeepAliveStorage) (now : Nat) : Nat :=
  max minKeepAliveCheckMs (earliestDue h.keepAlivePeriodMs now h.clients)

/-- No deadline of an active client is beyond the range of the clock. -/
def DeadlinesFit (h : WssKeepAliveStorage) : Prop :=
  ∀ c ∈ h.clients, c.type = .clientActive → c.lastSeen + h.keepAlivePeriodMs < 2 ^ 64

/-! ## The two minima -/

variable {period now next n : Nat} {c : ClientFdAction} {h : WssKeepAliveStorage}

theorem le_foldr_min {values : List Nat} :
    n ≤ values.foldr min next ↔ n ≤ next ∧ ∀ value ∈ values, n ≤ value := by
  induction values with
  | nil => simp
  | cons value rest ih =>
      simp only [List.foldr_cons, Nat.le_min, ih, List.forall_mem_cons]
      exact and_left_comm

theorem le_earliestDue {clients : List ClientFdAction} :
    n ≤ earliestDue period now clients ↔ n ≤ defaultKeepAliveTimeoutMs ∧
      ∀ c ∈ clients, c.type = .clientActive → n ≤ timeUntilDue period now c := by
  simp only [earliestDue, le_foldr_min, List.forall_mem_map, List.mem_filter,
    decide_eq_true_eq, and_imp]

/-- The difference to a deadline that has passed wraps. -/
theorem sub64_of_lt {a b : Nat} (hlt : a < b) (hb : b < 2 ^ 63) : 2 ^ 63 < sub64 a b := by
  unfold sub64
  rw [Nat.mod_eq_of_lt (by omega)]
  omega

/-- A turn of the loop looks at the clients that are not overdue only. -/
theorem le_calculateNextCheckStep (hnow : now < 2 ^ 63)
    (hfits : c.type = .clientActive → c.lastSeen + period < 2 ^ 64)
    (hn : n ≤ defaultKeepAliveTimeoutMs) :
    n ≤ calculateNextCheckStep period now next c ↔
      n ≤ next ∧ (c.type = .clientActive → ¬Overdue period now c →
        n ≤ timeUntilDue period now c) := by
  unfold calculateNextCheckStep
  by_cases hactive : c.type = .clientActive
  · have hmod := Nat.mod_eq_of_lt (hfits hactive)
    have hdefault : n ≤ 30000 := hn
    simp only [hactive, if_true, hmod, true_imp_iff, Overdue, timeUntilDue]
    by_cases hover : c.lastSeen + period < now
    · have hwrap := sub64_of_lt hover hnow
      split <;> omega
    · have hexact := sub64_of_le (Nat.not_lt.mp hover) (hfits hactive)
      rw [hexact]
      split <;> omega
  · simp [hactive]

theorem le_foldl_calculateNextCheckStep (hnow : now < 2 ^ 63)
    (hn : n ≤ defaultKeepAliveTimeoutMs) {clients : List ClientFdAction}
    (hfits : ∀ c ∈ clients, c.type = .clientActive → c.lastSeen + period < 2 ^ 64) :
    n ≤ clients.foldl (calculateNextCheckStep period now) next ↔
      n ≤ next ∧ ∀ c ∈ clients, c.type = .clientActive → ¬Overdue period now c →
        n ≤ timeUntilDue period now c := by
  induction clients generalizing next with
  | nil => simp
  | cons c rest ih =>
      rw [List.foldl_cons, ih fun c hc => hfits c (List.mem_cons_of_mem _ hc),
        le_calculateNextCheckStep hnow (hfits c List.mem_cons_self) hn, List.forall_mem_cons,
        and_assoc]

/-- The loop finds the earliest check of the clients that are not overdue. -/
theorem le_calculateNextCheck (hnow : now < 2 ^ 63) (hfits : DeadlinesFit h) :
    n ≤ calculateNextCheck h now ↔ n ≤ defaultKeepAliveTimeoutMs ∧
      ∀ c ∈ h.clients, c.type = .clientActive → ¬Overdue h.keepAlivePeriodMs now c →
        n ≤ timeUntilDue h.keepAlivePeriodMs now c := by
  constructor
  · intro hle
    have hn := Nat.le_trans hle (foldl_calculateNextCheckStep_le _ _ _ _)
    exact (le_foldl_calculateNextCheckStep hnow hn hfits).mp hle
  · intro hall
    exact (le_foldl_calculateNextCheckStep hnow hall.1 hfits).mpr hall

/-! ## The wait -/

/-- An active client that is overdue. -/
def SomeOverdue (h : WssKeepAliveStorage) (now : Nat) : Prop :=
  ∃ c ∈ h.clients, c.type = .clientActive ∧ Overdue h.keepAlivePeriodMs now c

/-- An active client whose check is due within the minimal wait, and not overdue. -/
def SomeDueSoon (h : WssKeepAliveStorage) (now : Nat) : Prop :=
  ∃ c ∈ h.clients, c.type = .clientActive ∧ ¬Overdue h.keepAlivePeriodMs now c ∧
    timeUntilDue h.keepAlivePeriodMs now c ≤ minKeepAliveCheckMs

theorem getNextKeepAliveCheck_eq_max (h : WssKeepAliveStorage) (now : Nat) :
    getNextKeepAliveCheck h now = max minKeepAliveCheckMs (calculateNextCheck h now) := by
  simp only [getNextKeepAliveCheck]
  split <;> omega

theorem calculateNextCheck_eq_earliestDue (hnow : now < 2 ^ 63) (hfits : DeadlinesFit h)
    (hnone : ¬SomeOverdue h now) :
    calculateNextCheck h now = earliestDue h.keepAlivePeriodMs now h.clients := by
  refine eq_of_forall_le_iff fun n => ?_
  rw [le_calculateNextCheck hnow hfits, le_earliestDue]
  refine and_congr_right fun _ => forall₂_congr fun c hc => forall_congr' fun hactive => ?_
  exact forall_prop_of_true fun hover => hnone ⟨c, hc, hactive, hover⟩

/-- A client that is overdue leaves no time to wait. -/
theorem earliestDue_eq_zero (hsome : SomeOverdue h now) :
    earliestDue h.keepAlivePeriodMs now h.clients = 0 := by
  obtain ⟨c, hc, hactive, hover⟩ := hsome
  have hle := (le_earliestDue.mp
    (Nat.le_refl (earliestDue h.keepAlivePeriodMs now h.clients))).2 c hc hactive
  have hzero : timeUntilDue h.keepAlivePeriodMs now c = 0 := Nat.sub_eq_zero_of_le hover.le
  exact Nat.eq_zero_of_le_zero (hzero ▸ hle)

/-- The loop finds nothing within the minimal wait unless a client is due then. -/
theorem lt_calculateNextCheck (hnow : now < 2 ^ 63) (hfits : DeadlinesFit h)
    (hnone : ¬SomeDueSoon h now) : minKeepAliveCheckMs < calculateNextCheck h now := by
  refine (le_calculateNextCheck hnow hfits).mpr ⟨by decide, fun c hc hactive hover => ?_⟩
  exact Nat.lt_of_not_le fun hsoon => hnone ⟨c, hc, hactive, hover, hsoon⟩

/-- The wait ends with the earliest check exactly when no client is overdue, or another one
is due within the minimal wait anyway. -/
theorem getNextKeepAliveCheck_eq_earliestCheck_iff (hnow : now < 2 ^ 63)
    (hfits : DeadlinesFit h) :
    getNextKeepAliveCheck h now = earliestCheck h now ↔
      ¬SomeOverdue h now ∨ SomeDueSoon h now := by
  rw [getNextKeepAliveCheck_eq_max, earliestCheck]
  constructor
  · intro heq
    by_contra hneither
    obtain ⟨hsome, hnone⟩ := not_or.mp hneither
    have hlt := lt_calculateNextCheck hnow hfits hnone
    rw [earliestDue_eq_zero (not_not.mp hsome)] at heq
    omega
  · intro hcase
    by_cases hsome : SomeOverdue h now
    · obtain ⟨c, hc, hactive, hover, hsoon⟩ := hcase.resolve_left (not_not.mpr hsome)
      have hle := ((le_calculateNextCheck hnow hfits).mp (Nat.le_refl _)).2 c hc hactive hover
      have hloop := Nat.le_trans hle hsoon
      rw [earliestDue_eq_zero hsome]
      omega
    · rw [calculateNextCheck_eq_earliestDue hnow hfits hsome]

/-- One client that was last seen five seconds ago, with checks every second. -/
def overdueTable : WssKeepAliveStorage where
  checkClientAliveCb := true
  clientNotAliveCb := true
  keepAlivePeriodMs := 1000
  notAliveAfterMs := 10000
  clients := [⟨.clientActive, 54, 0⟩]

theorem getNextKeepAliveCheck_eq_earliestCheck_iff_overdueTable :
    (5000 < 2 ^ 63 ∧ DeadlinesFit overdueTable) ∧
      (getNextKeepAliveCheck overdueTable 5000 = earliestCheck overdueTable 5000 ↔
        ¬SomeOverdue overdueTable 5000 ∨ SomeDueSoon overdueTable 5000) := by
  have hfits : DeadlinesFit overdueTable := by
    intro c hc _
    obtain rfl := List.mem_singleton.mp hc
    decide
  exact ⟨⟨by decide, hfits⟩, getNextKeepAliveCheck_eq_earliestCheck_iff (by decide) hfits⟩

/-- The task sleeps for half a minute although the check of the client is overdue. -/
theorem overdueTable_sleeps :
    (∀ c ∈ overdueTable.clients, c.lastSeen ≤ 5000 ∧ c.lastSeen + 1000 < 2 ^ 64) ∧
      getNextKeepAliveCheck overdueTable 5000 = 30000 ∧
      earliestCheck overdueTable 5000 = 1000 := by
  decide

end Orchestrator.KeepAlive
