import Orchestrator.Registry.Attempt
import Orchestrator.Registry.Record
import Orchestrator.State.Broadcast

/-!
# Loading and saving the registry

Every operation of the registry loads the whole store from flash, checks it,
and saves the whole store when it changed something.
-/

namespace Orchestrator.Registry

open Lib Handler State

/-! ## NVS -/

/-- `nvs_open` for reading -/
def nvsOpenReadonly : Esp Unit := do
  match ← nvsOutcome with
  | some err => throw err
  | none =>
      if (← getBoard).registry.stored.isSome then return else throw EspErr.nvsNotFound

/-- `nvs_get_blob` into a buffer of `sizeof(RegistryStore)` bytes -/
def nvsGetBlob : Esp (List UInt8) := do
  match ← nvsOutcome with
  | some err => throw err
  | none =>
      match (← getBoard).registry.stored.join with
      | none => throw EspErr.nvsNotFound
      | some bytes =>
          if registryStoreLayout.size < bytes.length then throw EspErr.nvsInvalidLength
          else return bytes

/-- `nvs_open` for writing, which creates the namespace -/
def nvsOpenReadwrite : Esp Unit := do
  match ← nvsOutcome with
  | some err => throw err
  | none => modifyBoard fun b =>
      { b with registry := { stored := some b.registry.stored.join, staged := none } }

/-- `nvs_set_blob` -/
def nvsSetBlob (bytes : List UInt8) : Esp Unit := do
  match ← nvsOutcome with
  | some err => throw err
  | none => modifyBoard fun b => { b with registry.staged := some bytes }

/-- `nvs_commit` -/
def nvsCommit : Esp Unit := do
  match ← nvsOutcome with
  | some err => throw err
  | none => modifyBoard fun b =>
      { b with registry :=
        { stored := some (b.registry.staged.or b.registry.stored.join), staged := none } }

/-! ## The store -/

/-- The checks on a blob of at most the right length; one that fails them is
replaced by the empty store. -/
def loadBlob (bytes : List UInt8) : RegistryStore :=
  let store := registryStoreLayout.decode bytes
  if bytes.length ≠ registryStoreLayout.size ∨ store.version ≠ registryVersion ∨
      maxRecords < store.count.toNat then initEmptyStore
  else if store.devices.any fun r => deviceRegistryCapabilityMax < r.capabilityCount then
    initEmptyStore
  else store

/-- `load_store` -/
def loadStore : Esp RegistryStore :=
  tryCatch (do
    nvsOpenReadonly
    let bytes ← nvsGetBlob
    return loadBlob bytes) fun err =>
      if err = EspErr.nvsNotFound then return initEmptyStore else throw err

/-- `save_store` -/
def saveStore (store : RegistryStore) : Esp Unit := do
  nvsOpenReadwrite
  nvsSetBlob (registryStoreLayout.encode store)
  nvsCommit

/-- `save_and_notify` -/
def saveAndNotify (store : RegistryStore) : Esp Unit := do
  saveStore store
  ignore (orchestratorStateBroadcastEvent (CStr.lit "device.registry_changed") none)
  ignore orchestratorStateBroadcastSnapshot

/-- `alloc_store` -/
def allocStore : Esp Unit := do
  if ← malloc then return else throw EspErr.noMem

/-! ## What a load returns -/

theorem loadBlob_accepted (bytes : List UInt8) : (loadBlob bytes).Accepted := by
  unfold loadBlob
  dsimp only
  split
  · exact accepted_initEmptyStore
  · next h =>
    split
    · exact accepted_initEmptyStore
    · next hcapabilities =>
      rw [not_or, not_or, not_not, not_not, Nat.not_lt] at h
      obtain ⟨-, hversion, hcount⟩ := h
      constructor
      · exact hversion
      · exact hcount
      · intro r hr
        have hany : ¬ deviceRegistryCapabilityMax < r.capabilityCount := by
          intro hlt
          apply hcapabilities
          exact List.any_eq_true.mpr ⟨r, hr, by simpa using hlt⟩
        exact UInt32.not_lt.mp hany

/-- A store that was accepted is read back from its own bytes. -/
theorem loadBlob_encode {store : RegistryStore} (h : store.Accepted) :
    loadBlob (registryStoreLayout.encode store) = store := by
  have hcount : ¬ maxRecords < store.count.toNat := Nat.not_lt.mpr h.count
  have hcapabilities :
      ¬ (store.devices.any fun r => deviceRegistryCapabilityMax < r.capabilityCount) = true := by
    intro hany
    obtain ⟨r, hr, hlt⟩ := List.any_eq_true.mp hany
    exact UInt32.not_lt.mpr (h.capabilities r hr) (by simpa using hlt)
  unfold loadBlob
  simp only [Layout.decode_encode, Layout.length_encode, h.version, hcount, ne_eq,
    not_true_eq_false, or_self, if_false, hcapabilities, Bool.false_eq_true]

end Orchestrator.Registry

namespace Orchestrator

open Registry

/-- What a load returns when no call fails. -/
def RegistryNvs.read (n : RegistryNvs) : EspResult RegistryStore :=
  match n.stored.join with
  | none => .ok initEmptyStore
  | some bytes =>
      if registryStoreLayout.size < bytes.length then .error EspErr.nvsInvalidLength
      else .ok (loadBlob bytes)

/-- A store that was saved is what a load returns. -/
theorem RegistryNvs.read_encode {n : RegistryNvs} {s : RegistryStore} (hs : s.Accepted)
    (hstored : n.stored.join = some (registryStoreLayout.encode s)) : n.read = .ok s := by
  rw [read, hstored]
  dsimp only
  rw [registryStoreLayout.length_encode, if_neg (Nat.lt_irrefl _), loadBlob_encode hs]

theorem RegistryNvs.accepted_of_read {n : RegistryNvs} {s : RegistryStore}
    (h : n.read = .ok s) : s.Accepted := by
  unfold read at h
  split at h
  · obtain rfl := Except.ok.inj h
    exact accepted_initEmptyStore
  · split at h
    · cases h
    · obtain rfl := Except.ok.inj h
      exact loadBlob_accepted _

end Orchestrator

namespace Orchestrator.Registry

open Lib Handler State

/-! ## Loading and saving with failures -/

/-- What a load returns from this board. -/
def Reads (s : RegistryStore) (b : Board) : Prop := b.registry.read = .ok s

variable {calm : Prop} {s t : RegistryStore}

theorem initEmptyStore_of_reads {b : Board} (h : Reads s b)
    (hnone : b.registry.stored.join = none) : s = initEmptyStore := by
  unfold Reads RegistryNvs.read at h
  rw [hnone] at h
  exact (Except.ok.inj h).symm

theorem nvsOpenReadonly_attempt : Attempt calm (Reads s) (Reads s) nvsOpenReadonly fun r b =>
    Reads s b ∧ (r = .ok () ∨ r = .error EspErr.nvsNotFound ∧ s = initEmptyStore) := by
  refine Attempt.nvs (fun _ h => h) (fun _ => rfl) ?_
  refine Attempt.bind Attempt.getBoard ?_ ?_
  · intro board
    split
    · exact Attempt.pure fun b hb => ⟨hb.2, .inl rfl⟩
    · next h =>
      apply Attempt.throw
      rintro b ⟨heq, hb⟩
      obtain rfl := Except.ok.inj heq
      have hnone : board.registry.stored = none := by simpa using h
      exact ⟨hb, .inr ⟨rfl, initEmptyStore_of_reads hb (by rw [hnone]; rfl)⟩⟩
  · rintro e b ⟨heq, -⟩
    cases heq

theorem nvsGetBlob_attempt : Attempt calm (Reads s) (Reads s) nvsGetBlob fun r b =>
    Reads s b ∧ ((∃ bytes, r = .ok bytes ∧ loadBlob bytes = s) ∨
      r = .error EspErr.nvsNotFound ∧ s = initEmptyStore) := by
  refine Attempt.nvs (fun _ h => h) (fun _ => rfl) ?_
  refine Attempt.bind Attempt.getBoard ?_ ?_
  · intro board
    cases hstored : board.registry.stored.join with
    | none =>
        apply Attempt.throw
        rintro b ⟨heq, hb⟩
        obtain rfl := Except.ok.inj heq
        exact ⟨hb, .inr ⟨rfl, initEmptyStore_of_reads hb hstored⟩⟩
    | some bytes =>
        dsimp only
        split
        · next hlong =>
          apply Attempt.throw
          rintro b ⟨heq, hb⟩
          obtain rfl := Except.ok.inj heq
          unfold Reads RegistryNvs.read at hb
          simp only [hstored, hlong, if_true] at hb
          cases hb
        · next hshort =>
          apply Attempt.pure
          rintro b ⟨heq, hb⟩
          obtain rfl := Except.ok.inj heq
          refine ⟨hb, .inl ⟨bytes, rfl, ?_⟩⟩
          unfold Reads RegistryNvs.read at hb
          simp only [hstored, hshort, if_false] at hb
          exact Except.ok.inj hb
  · rintro e b ⟨heq, -⟩
    cases heq

/-- A load returns what is stored, or the error of the call that failed. -/
theorem loadStore_attempt :
    Attempt calm (Reads s) (Reads s) loadStore fun r b => r = .ok s ∧ Reads s b := by
  have hblob : Attempt calm (Reads s) (Reads s) (do
      nvsOpenReadonly
      let bytes ← nvsGetBlob
      return loadBlob bytes) fun r b =>
        Reads s b ∧ (r = .ok s ∨ r = .error EspErr.nvsNotFound ∧ s = initEmptyStore) := by
    refine Attempt.bind nvsOpenReadonly_attempt ?_ ?_
    · rintro -
      refine Attempt.bind (nvsGetBlob_attempt.weaken (fun b hb => hb.1) fun _ _ h => h) ?_ ?_
      · intro bytes
        apply Attempt.pure
        rintro b ⟨hb, ⟨_, heq, hload⟩ | ⟨heq, -⟩⟩
        · cases heq
          exact ⟨hb, .inl (congrArg _ hload)⟩
        · cases heq
      · rintro e b ⟨hb, ⟨_, heq, -⟩ | ⟨heq, hempty⟩⟩
        · cases heq
        · cases heq
          exact ⟨hb, .inr ⟨rfl, hempty⟩⟩
    · rintro e b ⟨hb, heq | ⟨heq, hempty⟩⟩
      · cases heq
      · cases heq
        exact ⟨hb, .inr ⟨rfl, hempty⟩⟩
  refine Attempt.tryCatch hblob ?_ ?_ ?_
  · intro e he
    exact if_neg he
  · rintro a b ⟨hb, heq | ⟨heq, -⟩⟩
    · exact ⟨heq, hb⟩
    · cases heq
  · intro e
    by_cases he : e = EspErr.nvsNotFound
    · rw [if_pos he]
      apply Attempt.pure
      rintro b ⟨hb, heq | ⟨-, hempty⟩⟩
      · cases heq
      · exact ⟨congrArg _ hempty.symm, hb⟩
    · rw [if_neg he]
      apply Attempt.throw
      rintro b ⟨hb, heq | ⟨heq, -⟩⟩
      · cases heq
      · cases heq
        exact absurd rfl he

/-- A blob of an accepted store has been set and not committed yet. -/
def Staged (s t : RegistryStore) (b : Board) : Prop :=
  Reads s b ∧ b.registry.staged = some (registryStoreLayout.encode t)

/-- A save replaces what is stored, or leaves it as it was. -/
theorem saveStore_attempt (ht : t.Accepted) :
    Attempt calm (Reads s) (Reads s) (saveStore t) fun r b => r = .ok ⟨⟩ ∧ Reads t b := by
  have hopen : Attempt calm (Reads s) (Reads s) nvsOpenReadwrite fun r b => r = .ok ⟨⟩ ∧ Reads s b := by
    refine Attempt.nvs (fun _ h => h) (fun _ => rfl) ?_
    apply Attempt.modifyBoard
    intro b hb
    exact hb
  have hset : Attempt calm (Reads s) (Reads s) (nvsSetBlob (registryStoreLayout.encode t))
      fun r b => r = .ok ⟨⟩ ∧ Staged s t b := by
    refine Attempt.nvs (fun _ h => h) (fun _ => rfl) ?_
    apply Attempt.modifyBoard
    intro b hb
    exact ⟨hb, rfl⟩
  have hcommit : Attempt calm (Reads s) (Staged s t) nvsCommit fun r b => r = .ok ⟨⟩ ∧ Reads t b := by
    refine Attempt.nvs (fun _ h => h.1) (fun _ => rfl) ?_
    apply Attempt.modifyBoard
    rintro b ⟨-, hstaged⟩
    apply RegistryNvs.read_encode ht
    simp only [hstaged, Option.or, Option.join_some]
  exact Attempt.bindOk hopen (Attempt.bindOk hset hcommit)

/-- Notifying the clients changes nothing that a load could see. -/
theorem saveAndNotify_attempt (ht : t.Accepted) :
    Attempt calm (Reads s) (Reads s) (saveAndNotify t) fun r b => r = .ok ⟨⟩ ∧ Reads t b := by
  have hevent : ∀ failures, Esp.Keeps (Ready calm (Reads t) failures)
      (orchestratorStateBroadcastEvent (CStr.lit "device.registry_changed") none)
      fun _ => True := by
    intro failures
    have hmessage : (eventMessage (CStr.lit "device.registry_changed") none).Always
        fun json => ∀ j, json = .ok j → Built (fun _ => True) j :=
      eventMessage_built texts_true trivial nofun
    exact orchestratorStateBroadcastEvent_keeps ready_unforeseen
      (ready_unforeseen.allocate hmessage) fun _ _ _ _ hw => hw.modifyBoard hw.board
  have hsnapshot : ∀ failures, Esp.Keeps (Ready calm (Reads t) failures)
      orchestratorStateBroadcastSnapshot fun _ => True := by
    intro failures
    have hmessage : ∀ b : Board, (snapshotMessage b.state).Always
        fun json => ∀ j ∈ json, Built (fun _ => True) j :=
      fun b => snapshotMessage_built texts_true ⟨trivial, trivial⟩
    exact orchestratorStateBroadcastSnapshot_keeps ready_unforeseen (B := fun _ => True)
      (fun _ _ => trivial) (fun b _ => ready_unforeseen.allocate (hmessage b))
      fun _ _ _ _ hw => hw.modifyBoard hw.board
  exact Attempt.bindOk (saveStore_attempt ht)
    (Attempt.bindOk (Attempt.ignore hevent) (Attempt.ignore hsnapshot))

theorem allocStore_attempt {P : Board → Prop} :
    Attempt calm P P allocStore fun r b => r = .ok ⟨⟩ ∧ P b :=
  Attempt.bindOk Attempt.malloc (Attempt.pure fun _ hb => ⟨rfl, hb⟩)

end Orchestrator.Registry
