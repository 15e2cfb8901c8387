import Orchestrator.Lib.Upsert
import Orchestrator.Registry.Announce
import Orchestrator.Registry.Calm
import Orchestrator.Registry.Rules

/-!
# When an update succeeds, and what a failed one leaves

An update loads the store, saves it and notifies the clients. It succeeds exactly when
the calls of the load and of the save do and the device is there or finds room. When
it fails, the blob and the frames that are queued are what they were.
-/

namespace Orchestrator.Registry

open Lib Handler State

variable {w : World} {s : RegistryStore} {α : Type}

/-! ## Calls into NVS -/

theorem nvs_run_of_passes {k : Option EspErr → Esp α} (h : w.nvsPasses 0) :
    (liftM nvsOutcome >>= k : Esp α).run w = (k none).run { w with nvs := w.nvs.tail } := by
  have hhead : w.nvs.head = none := Option.isNone_iff_eq_none.mp h
  have hrun : nvsOutcome w = (none, { w with nvs := w.nvs.tail }) := by
    unfold nvsOutcome
    simp only [modifyGet, MonadStateOf.modifyGet, StateT.modifyGet]
    rw [hhead]
    rfl
  exact Esp.run_liftM_bind hrun

/-- The shape of every NVS call: its failure is returned at once. -/
theorem nvs_run_of_not_passes {k : Option EspErr → Esp α} (h : w.nvsPasses 0 = false)
    (hfailed : ∀ e, k (some e) = throw e) : ∃ e w', e ≠ EspErr.nvsNotFound ∧
      w'.board = w.board ∧ (liftM nvsOutcome >>= k : Esp α).run w = (.error e, w') := by
  obtain ⟨failures, hrun⟩ := nvsOutcome_apply w
  have hpasses : w.nvsPasses 0 = w.nvs.head.isNone := rfl
  cases hhead : w.nvs.head with
  | none =>
      rw [hpasses, hhead] at h
      cases h
  | some failure =>
      rw [hhead] at hrun
      refine ⟨failure.err, { w with nvs := w.nvs.tail, nvsFailures := failures },
        failure.ne_notFound, rfl, ?_⟩
      rw [Esp.run_liftM_bind hrun]
      exact congrArg (fun m : Esp α => m.run _) (hfailed failure.err)

/-! ## Loading -/

/-- How many calls a load makes when none of them fails. -/
def loadCalls (w : World) : Nat := if w.board.registry.stored.isSome then 2 else 1

theorem nvsOpenReadonly_of_passes (h : w.nvsPasses 0) : nvsOpenReadonly.run w =
    (if w.board.registry.stored.isSome then .ok ⟨⟩ else .error EspErr.nvsNotFound,
      { w with nvs := w.nvs.tail }) := by
  refine (nvs_run_of_passes h).trans
    ((Esp.run_liftM_bind (m := getBoard) (w := { w with nvs := w.nvs.tail }) rfl).trans ?_)
  cases w.board.registry.stored with
  | none => rfl
  | some blob => rfl

theorem nvsGetBlob_of_passes (h : w.nvsPasses 0) : nvsGetBlob.run w =
    (match w.board.registry.stored.join with
      | none => .error EspErr.nvsNotFound
      | some bytes =>
          if registryStoreLayout.size < bytes.length then .error EspErr.nvsInvalidLength
          else .ok bytes, { w with nvs := w.nvs.tail }) := by
  refine (nvs_run_of_passes h).trans
    ((Esp.run_liftM_bind (m := getBoard) (w := { w with nvs := w.nvs.tail }) rfl).trans ?_)
  cases w.board.registry.stored.join with
  | none => rfl
  | some bytes =>
      dsimp only
      split
      · rfl
      · rfl

/-- A load whose calls succeed returns what is stored, or that it is too long. -/
theorem loadStore_of_passes (h : ∀ k < loadCalls w, w.nvsPasses k) :
    loadStore.run w =
      (w.board.registry.read, { w with nvs := w.nvs.drop (loadCalls w) }) := by
  have hpositive : 0 < loadCalls w := by
    unfold loadCalls
    split <;> decide
  unfold loadStore RegistryNvs.read
  rw [ExceptT.run_tryCatch, bind_apply, ExceptT.run_bind, bind_apply,
    nvsOpenReadonly_of_passes (h 0 hpositive)]
  unfold loadCalls at h ⊢
  cases hstored : w.board.registry.stored with
  | none => rfl
  | some blob =>
      rw [hstored] at h
      rw [Option.isSome_some, if_pos rfl]
      dsimp only
      rw [ExceptT.run_bind, bind_apply,
        nvsGetBlob_of_passes (w := { w with nvs := w.nvs.tail }) (h 1 (Nat.lt_succ_self 1)),
        hstored, Option.join_some]
      cases blob with
      | none => rfl
      | some bytes =>
          dsimp only
          split
          · rfl
          · rfl

/-- A load handles no error but that the namespace or the blob is missing. -/
theorem notHandled {e : EspErr} (he : e ≠ EspErr.nvsNotFound) (w : World) :
    ((if e = EspErr.nvsNotFound then pure initEmptyStore else throw e :
      Esp RegistryStore).run w).1 = .error e := by
  rw [if_neg he]
  rfl

/-- A load one of whose calls fails returns an error. -/
theorem loadStore_of_not_passes (h : ¬∀ k < loadCalls w, w.nvsPasses k) :
    ∃ e, (loadStore.run w).1 = .error e := by
  unfold loadStore
  rw [ExceptT.run_tryCatch, bind_apply, ExceptT.run_bind, bind_apply]
  cases hfirst : w.nvsPasses 0 with
  | false =>
      obtain ⟨e, w', he, -, hrun⟩ : ∃ e w', e ≠ EspErr.nvsNotFound ∧ w'.board = w.board ∧
          nvsOpenReadonly.run w = (.error e, w') := nvs_run_of_not_passes hfirst fun _ => rfl
      rw [hrun]
      exact ⟨e, notHandled he w'⟩
  | true =>
      rw [nvsOpenReadonly_of_passes hfirst]
      unfold loadCalls at h
      cases hstored : w.board.registry.stored with
      | none =>
          rw [hstored] at h
          refine absurd (fun k hk => ?_) h
          obtain rfl : k = 0 := Nat.lt_one_iff.mp hk
          exact hfirst
      | some blob =>
          rw [hstored] at h
          have hsecond : w.nvsPasses 1 = false := by
            refine eq_false_of_ne_true fun hsecond => h fun k hk => ?_
            have hk2 : k < 2 := hk
            rcases Nat.lt_succ_iff_lt_or_eq.mp hk2 with hk | rfl
            · obtain rfl : k = 0 := Nat.lt_one_iff.mp hk
              exact hfirst
            · exact hsecond
          obtain ⟨e, w', he, -, hrun⟩ : ∃ e w', e ≠ EspErr.nvsNotFound ∧
              w'.board = w.board ∧ nvsGetBlob.run { w with nvs := w.nvs.tail } =
                (.error e, w') :=
            nvs_run_of_not_passes (w := { w with nvs := w.nvs.tail }) hsecond fun _ => rfl
          rw [Option.isSome_some, if_pos rfl]
          dsimp only
          rw [ExceptT.run_bind, bind_apply, hrun]
          exact ⟨e, notHandled he w'⟩

/-- A load changes nothing on the board. -/
theorem board_loadStore (w : World) : (loadStore.run w).2.board = w.board := by
  have hI : UnforeseenNvs fun u => u.board = w.board := unforeseen_board fun b => b = w.board
  exact (loadStore_keeps (D := fun _ => True) hI (fun _ _ _ _ => trivial) w rfl).1

theorem allocStore_run (w : World) : allocStore.run w =
    (if w.heap.head then .ok ⟨⟩ else .error EspErr.noMem, { w with heap := w.heap.tail }) := by
  unfold allocStore
  rw [Esp.run_liftM_bind (m := malloc) (w := w) rfl]
  cases w.heap.head with
  | false => rfl
  | true => rfl

/-- Memory is there, the calls of the load succeed, and this store is what they read. -/
structure Loads (s : RegistryStore) (w : World) : Prop where
  allocated : w.heap.head = true
  passes : ∀ k < loadCalls w, w.nvsPasses k
  read : w.board.registry.read = .ok s

/-- The world when the store has been loaded. -/
def loadedWorld (w : World) : World :=
  { w with heap := w.heap.tail, nvs := w.nvs.drop (loadCalls w) }

/-- Every function of the registry that reads the store begins in this way. -/
theorem loaded_run {k : RegistryStore → Esp α} (h : Loads s w) :
    (allocStore >>= fun _ => loadStore >>= k).run w = (k s).run (loadedWorld w) := by
  have halloc := allocStore_run w
  rw [h.allocated] at halloc
  have hload := loadStore_of_passes (w := { w with heap := w.heap.tail }) h.passes
  have hstore : loadStore.run { w with heap := w.heap.tail } = (.ok s, loadedWorld w) :=
    hload.trans (congrArg (·, loadedWorld w) h.read)
  rw [Esp.run_bind_ok halloc, Esp.run_bind_ok hstore]

/-- Without the store the function fails, and the board is as it was. -/
theorem notLoaded_run (k : RegistryStore → Esp α) (h : ¬∃ s, Loads s w) :
    ∃ e w', (allocStore >>= fun _ => loadStore >>= k).run w = (.error e, w') ∧
      w'.board = w.board := by
  have halloc := allocStore_run w
  cases hheap : w.heap.head with
  | false =>
      rw [hheap] at halloc
      exact ⟨_, _, Esp.run_bind_error halloc, rfl⟩
  | true =>
  rw [hheap] at halloc
  rw [Esp.run_bind_ok halloc]
  obtain ⟨e, herror⟩ : ∃ e, (loadStore.run { w with heap := w.heap.tail }).1 = .error e := by
    by_cases hpasses : ∀ k < loadCalls w, w.nvsPasses k
    · have hload := loadStore_of_passes (w := { w with heap := w.heap.tail }) hpasses
      cases hread : w.board.registry.read with
      | error e => exact ⟨e, (congrArg Prod.fst hload).trans hread⟩
      | ok s => exact absurd ⟨s, hheap, hpasses, hread⟩ h
    · exact loadStore_of_not_passes (w := { w with heap := w.heap.tail }) hpasses
  exact ⟨e, _, Esp.run_bind_error (Prod.ext herror rfl),
    board_loadStore { w with heap := w.heap.tail }⟩

/-! ## Saving -/

/-- One call into NVS, which writes this to the board unless it fails. -/
def WritesOnce (m : Esp Unit) (f : Board → Board) : Prop :=
  ∀ w : World,
    (w.nvsPasses 0 ∧ m.run w = (.ok ⟨⟩, { w with nvs := w.nvs.tail, board := f w.board })) ∨
      w.nvsPasses 0 = false ∧ ∃ e w', w'.board = w.board ∧ m.run w = (.error e, w')

theorem WritesOnce.of_call {k : Option EspErr → Esp Unit} {f : Board → Board}
    (hfailed : ∀ e, k (some e) = throw e) (hdone : k none = liftM (modifyBoard f)) :
    WritesOnce (liftM nvsOutcome >>= k) f := by
  intro w
  cases hpasses : w.nvsPasses 0 with
  | true =>
      refine .inl ⟨rfl, ?_⟩
      rw [nvs_run_of_passes hpasses, hdone]
      rfl
  | false =>
      obtain ⟨e, w', -, hboard, hrun⟩ := nvs_run_of_not_passes hpasses hfailed
      exact .inr ⟨rfl, e, w', hboard, hrun⟩

theorem nvsOpenReadwrite_writes : WritesOnce nvsOpenReadwrite fun b =>
    { b with registry := { stored := some b.registry.stored.join, staged := none } } :=
  .of_call (fun _ => rfl) rfl

theorem nvsSetBlob_writes (bytes : List UInt8) : WritesOnce (nvsSetBlob bytes) fun b =>
    { b with registry.staged := some bytes } :=
  .of_call (fun _ => rfl) rfl

theorem nvsCommit_writes : WritesOnce nvsCommit fun b =>
    { b with registry :=
      { stored := some (b.registry.staged.or b.registry.stored.join), staged := none } } :=
  .of_call (fun _ => rfl) rfl

/-- The blob and the frames that are queued are what they were on `b`. -/
structure Undisturbed (b b' : Board) : Prop where
  stored : b'.registry.stored.join = b.registry.stored.join
  outbox : b'.outbox = b.outbox

theorem Undisturbed.refl (b : Board) : Undisturbed b b := ⟨rfl, rfl⟩

/-- A save succeeds when its three calls do, and changes no blob when one of them fails. -/
theorem saveStore_cases (s : RegistryStore) (w : World) :
    ((∀ k < 3, w.nvsPasses k) ∧ (saveStore s).run w = (.ok ⟨⟩, { w with
        board := w.board.withStore s
        nvs := w.nvs.drop 3 })) ∨
      (¬∀ k < 3, w.nvsPasses k) ∧ ∃ e w', (saveStore s).run w = (.error e, w') ∧
        Undisturbed w.board w'.board := by
  have hfails {k : Nat} (hk : k < 3) (hpasses : w.nvsPasses k = false) :
      ¬∀ k < 3, w.nvsPasses k := by
    intro hall
    have hpass := hall k hk
    rw [hpasses] at hpass
    cases hpass
  unfold saveStore
  obtain ⟨hopen, hrun⟩ | ⟨hopen, e, w', hboard, hrun⟩ := nvsOpenReadwrite_writes w
  swap
  · refine .inr ⟨hfails (by decide) hopen, e, w', Esp.run_bind_error hrun, ?_⟩
    rw [hboard]
    exact ⟨rfl, rfl⟩
  rw [Esp.run_bind_ok hrun]
  obtain ⟨hset, hrun⟩ | ⟨hset, e, w', hboard, hrun⟩ :=
    nvsSetBlob_writes (registryStoreLayout.encode s) _
  swap
  · refine .inr ⟨hfails (k := 1) (by decide) hset, e, w', Esp.run_bind_error hrun, ?_⟩
    rw [hboard]
    exact ⟨rfl, rfl⟩
  rw [Esp.run_bind_ok hrun]
  obtain ⟨hcommit, hrun⟩ | ⟨hcommit, e, w', hboard, hrun⟩ := nvsCommit_writes _
  swap
  · refine .inr ⟨hfails (k := 2) (by decide) hcommit, e, w', hrun, ?_⟩
    rw [hboard]
    exact ⟨rfl, rfl⟩
  refine .inl ⟨fun k hk => ?_, hrun⟩
  match k, hk with
  | 0, _ => exact hopen
  | 1, _ => exact hset
  | 2, _ => exact hcommit

/-- Whether the clients are told does not matter for the result. -/
theorem saveAndNotify_cases (s : RegistryStore) (w : World) :
    ((∀ k < 3, w.nvsPasses k) ∧ ∃ w', (saveAndNotify s).run w = (.ok ⟨⟩, w') ∧
        Announces { w with board := w.board.withStore s, nvs := w.nvs.drop 3 } w') ∨
      (¬∀ k < 3, w.nvsPasses k) ∧ ∃ e w', (saveAndNotify s).run w = (.error e, w') ∧
        Undisturbed w.board w'.board := by
  have hparts : saveAndNotify s = saveStore s >>= fun _ => announce := rfl
  rw [hparts]
  obtain ⟨hpasses, hrun⟩ | ⟨hfails, e, w', hrun, hsame⟩ := saveStore_cases s w
  · rw [Esp.run_bind_ok hrun]
    exact .inl ⟨hpasses, announce_run _⟩
  · exact .inr ⟨hfails, e, w', Esp.run_bind_error hrun, hsame⟩

/-! ## Finding -/

/-- A call that finds this record: memory is there and the calls of its load succeed. -/
structure Finds (deviceId : CStr) (s : RegistryStore) (r : DeviceRecord) (w : World) : Prop where
  allocated : w.heap.head = true
  passes : ∀ k < loadCalls w, w.nvsPasses k
  read : w.board.registry.read = .ok s
  found : s.devices.find? (hasId deviceId.bytes) = some r

theorem Finds.loads {deviceId : CStr} {r : DeviceRecord} (h : Finds deviceId s r w) :
    Loads s w := { h with }

/-- A record that is not found leaves the board as it was. -/
theorem deviceRegistryGetDevice_cases (deviceId : CStr) (w : World) :
    (∃ s r, Finds deviceId s r w ∧
        (deviceRegistryGetDevice deviceId).run w = (.ok r, loadedWorld w)) ∨
      (¬∃ s r, Finds deviceId s r w) ∧ ∃ e w',
        (deviceRegistryGetDevice deviceId).run w = (.error e, w') ∧ w'.board = w.board := by
  unfold deviceRegistryGetDevice
  by_cases hloads : ∃ s, Loads s w
  swap
  · exact .inr ⟨fun ⟨s, r, h⟩ => hloads ⟨s, h.loads⟩, notLoaded_run _ hloads⟩
  obtain ⟨s, hs⟩ := hloads
  rw [loaded_run hs]
  cases hfind : s.devices.find? (hasId deviceId.bytes) with
  | none =>
      refine .inr ⟨?_, _, _, rfl, rfl⟩
      rintro ⟨s', r, h⟩
      obtain rfl := Except.ok.inj (hs.read.symm.trans h.read)
      cases hfind.symm.trans h.found
  | some r => exact .inl ⟨s, r, { hs with found := hfind }, rfl⟩

/-! ## Updating -/

/-- Every update, with the store that it saves or the error that it returns instead. -/
def update (target : RegistryStore → EspResult RegistryStore) : Esp Unit := do
  allocStore
  let store ← loadStore
  match target store with
  | .error e => throw e
  | .ok t => saveAndNotify t

/-- The update of this store is saved: memory is there and its NVS calls succeed. -/
structure Saves (target : RegistryStore → EspResult RegistryStore) (s t : RegistryStore)
    (w : World) : Prop where
  allocated : w.heap.head = true
  passes : ∀ k < loadCalls w + 3, w.nvsPasses k
  read : w.board.registry.read = .ok s
  updated : target s = .ok t

theorem nvsPasses_of_drop {u : World} {n : Nat} (h : u.nvs = w.nvs.drop n) (k : Nat) :
    u.nvsPasses k = w.nvsPasses (n + k) := by
  unfold World.nvsPasses
  rw [h, Stream'.get_drop]

/-- The world when the store has been saved. -/
def savedWorld (t : RegistryStore) (w : World) : World :=
  { w with
    board := w.board.withStore t
    heap := w.heap.tail
    nvs := w.nvs.drop (loadCalls w + 3) }

theorem Saves.loads {target : RegistryStore → EspResult RegistryStore} {t : RegistryStore}
    (h : Saves target s t w) : Loads s w :=
  { h with passes := fun k hk => h.passes k (Nat.lt_add_right 3 hk) }

theorem saves_iff {target : RegistryStore → EspResult RegistryStore} {t : RegistryStore}
    (hs : Loads s w) (htarget : target s = .ok t) :
    Saves target s t w ↔ ∀ k < 3, (loadedWorld w).nvsPasses k := by
  have hrest := nvsPasses_of_drop (u := loadedWorld w) (w := w) rfl
  constructor
  · intro h k hk
    rw [hrest]
    exact h.passes (loadCalls w + k) (Nat.add_lt_add_left hk _)
  · intro h
    refine { hs with passes := fun k hk => ?_, updated := htarget }
    rcases Nat.lt_or_ge k (loadCalls w) with hlt | hge
    · exact hs.passes k hlt
    · have hpass := h (k - loadCalls w) (by omega)
      rwa [hrest, Nat.add_sub_cancel' hge] at hpass

/-- An update that is not saved fails, and disturbs nothing. -/
theorem update_cases (target : RegistryStore → EspResult RegistryStore) (w : World) :
    (∃ s t, Saves target s t w ∧ ∃ w', (update target).run w = (.ok ⟨⟩, w') ∧
        Announces (savedWorld t w) w') ∨
      (¬∃ s t, Saves target s t w) ∧ ∃ e w', (update target).run w = (.error e, w') ∧
        Undisturbed w.board w'.board := by
  unfold update
  by_cases hloads : ∃ s, Loads s w
  swap
  · obtain ⟨e, w', hrun, hboard⟩ := notLoaded_run (w := w) _ hloads
    exact .inr ⟨fun ⟨s, t, h⟩ => hloads ⟨s, h.loads⟩, e, w', hrun, hboard ▸ .refl w.board⟩
  obtain ⟨s, hs⟩ := hloads
  rw [loaded_run hs]
  have hunique {s' t : RegistryStore} (hsaves : Saves target s' t w) : s' = s :=
    Except.ok.inj (hsaves.read.symm.trans hs.read)
  cases htarget : target s with
  | error e =>
      refine .inr ⟨?_, e, _, rfl, .refl w.board⟩
      rintro ⟨s', t, hsaves⟩
      obtain rfl := hunique hsaves
      cases htarget.symm.trans hsaves.updated
  | ok t =>
      obtain ⟨hpasses, w', hrun, hsaved⟩ | ⟨hfails, e, w', hrun, hsame⟩ :=
        saveAndNotify_cases t (loadedWorld w)
      · refine .inl ⟨s, t, (saves_iff hs htarget).mpr hpasses, w', hrun, ?_⟩
        rwa [loadedWorld, Stream'.drop_drop] at hsaved
      · refine .inr ⟨?_, e, w', hrun, hsame⟩
        rintro ⟨s', t', hsaves⟩
        obtain rfl := hunique hsaves
        obtain rfl := Except.ok.inj (htarget.symm.trans hsaves.updated)
        exact hfails ((saves_iff hs htarget).mp hsaves)

/-- An update that succeeds has saved its store. -/
theorem update_saved {target : RegistryStore → EspResult RegistryStore}
    (hok : ((update target).run w).1 = .ok ⟨⟩) : ∃ s t, Saves target s t w ∧
      ((update target).run w).2.board.registry = (w.board.withStore t).registry := by
  obtain ⟨s, t, hsaves, w', hrun, hsaved⟩ | ⟨-, e, w', hrun, -⟩ := update_cases target w
  · rw [hrun]
    exact ⟨s, t, hsaves, hsaved.registry⟩
  · rw [hrun] at hok
    cases hok

/-! ## The three updates -/

/-- The store that `device_registry_upsert_device` saves. -/
def upsertTarget (record : DeviceRecord) (store : RegistryStore) : EspResult RegistryStore :=
  match findRecord store record.deviceId.toList with
  | some i => .ok { store with records := store.records.setIfInBounds i record }
  | none =>
      if maxRecords ≤ store.count.toNat then .error EspErr.noMem
      else .ok { store with
        count := store.count + 1
        records := store.records.setIfInBounds store.count.toNat record }

theorem devices_of_upsertTarget {record : DeviceRecord} {t : RegistryStore} (hs : s.Accepted)
    (h : upsertTarget record s = .ok t) :
    t.devices = upsert (hasId record.deviceId.toList) record s.devices := by
  have hfound : findRecord s record.deviceId.toList =
      s.devices.findIdx? (hasId record.deviceId.toList) :=
    CountedArray.findIndex_eq _ _ hs.count
  unfold upsertTarget at h
  cases hfind : findRecord s record.deviceId.toList with
  | some i =>
      rw [hfind] at h hfound
      obtain rfl := Except.ok.inj h
      rw [devices_set, upsert_of_some hfound.symm]
  | none =>
      rw [hfind] at h hfound
      dsimp only at h
      split at h
      · cases h
      · next hroom =>
        obtain rfl := Except.ok.inj h
        rw [devices_append (Nat.lt_of_not_le hroom), upsert_of_none hfound.symm]

theorem accepted_of_upsertTarget {record : DeviceRecord} {t : RegistryStore} (hs : s.Accepted)
    (hcount : record.capabilityCount ≤ deviceRegistryCapabilityMax)
    (h : upsertTarget record s = .ok t) : t.Accepted := by
  have hdevices := devices_of_upsertTarget hs h
  have hparts : t.version = s.version ∧ t.count.toNat ≤ maxRecords := by
    unfold upsertTarget at h
    split at h
    · obtain rfl := Except.ok.inj h
      exact ⟨rfl, hs.count⟩
    · split at h
      · cases h
      · next hroom =>
        obtain rfl := Except.ok.inj h
        have hlt := Nat.lt_of_not_le hroom
        exact ⟨rfl, (toNat_count_append hlt).symm ▸ hlt⟩
  refine ⟨hparts.1.trans hs.version, hparts.2, fun r hr => ?_⟩
  rw [hdevices] at hr
  rcases mem_of_mem_upsert hr with rfl | hr
  · exact hcount
  · exact hs.capabilities r hr

/-- A record that is found by an id is found by it again through its own copy of the id. -/
theorem hasId_of_found {deviceId : List UInt8} {r : DeviceRecord} (h : hasId deviceId r = true) :
    hasId r.deviceId.toList = hasId deviceId := by
  unfold hasId at h
  rw [strncmpEq_iff] at h
  funext r'
  rw [Bool.eq_iff_iff]
  unfold hasId
  rw [strncmpEq_iff, strncmpEq_iff, h]

/-- Only the blob matters for what a load returns. -/
theorem read_congr {m n : RegistryNvs} (h : m.stored.join = n.stored.join) : m.read = n.read := by
  unfold RegistryNvs.read
  rw [h]

/-- What a load returns after the store has been saved. -/
theorem read_of_saved {b : Board} {t : RegistryStore} (ht : t.Accepted)
    (h : b.registry = (w.board.withStore t).registry) : b.registry.read = .ok t := by
  rw [h]
  exact read_withStore ht

/-- The store that `device_registry_remove_device` saves. -/
def removeTarget (deviceId : CStr) (store : RegistryStore) : EspResult RegistryStore :=
  match findRecord store deviceId.bytes with
  | some i => .ok { store with
      records := CountedArray.shiftDown store.records i store.count.toNat
      count := store.count - 1 }
  | none => .error EspErr.notFound

/-- The store that `device_registry_rename_device` saves. -/
def renameTarget (deviceId label : CStr) (store : RegistryStore) : EspResult RegistryStore :=
  match findRecord store deviceId.bytes with
  | some i => .ok { store with records := setLabel store.records i label }
  | none => .error EspErr.notFound

theorem deviceRegistryUpsertDevice_eq {record : DeviceRecord}
    (h : ¬(record.deviceId.head = 0 ∨ deviceRegistryCapabilityMax < record.capabilityCount)) :
    deviceRegistryUpsertDevice record = update (upsertTarget record) := by
  have hvalid : ¬(record.deviceId[0] = 0 ∨
      deviceRegistryCapabilityMax < record.capabilityCount) := h
  unfold deviceRegistryUpsertDevice update upsertTarget
  rw [if_neg hvalid]
  congr 1
  funext _
  congr 1
  funext store
  cases findRecord store record.deviceId.toList with
  | some i => rfl
  | none =>
      dsimp only
      split
      · rfl
      · rfl

theorem deviceRegistryRemoveDevice_eq (deviceId : CStr) :
    deviceRegistryRemoveDevice deviceId = update (removeTarget deviceId) := by
  unfold deviceRegistryRemoveDevice update removeTarget
  congr 1
  funext _
  congr 1
  funext store
  cases findRecord store deviceId.bytes with
  | some i => rfl
  | none => rfl

theorem deviceRegistryRenameDevice_eq (deviceId label : CStr) :
    deviceRegistryRenameDevice deviceId label = update (renameTarget deviceId label) := by
  unfold deviceRegistryRenameDevice update renameTarget
  congr 1
  funext _
  congr 1
  funext store
  cases findRecord store deviceId.bytes with
  | some i => rfl
  | none => rfl

end Orchestrator.Registry
