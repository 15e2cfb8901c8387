import Orchestrator.Registry.Refinement
import Orchestrator.Registry.Update

/-!
# What an update does to the directory

The store that an update saves represents the directory after it. An update that fails, for
whatever reason, leaves flash with the directory that it found.
-/

namespace Orchestrator.Registry

open Lib Handler

variable {m m' : DeviceMap} {s t : RegistryStore} {b b' : Board} {w : World} {r : DeviceRecord}
  {deviceId : CStr}

/-! ## Targets -/

theorem represents_of_upsertTarget (hs : Represents s m) (hr : r.Proper)
    (h : upsertTarget r s = .ok t) :
    ∃ m', m.upsertDevice r = (.ok ⟨⟩, m') ∧ Represents t m' := by
  have hindex : findRecord s r.deviceId.toList =
      m.entries.findIdx? fun r' => r'.deviceId.toCStr = r.deviceId.toCStr := hs.findRecord_eq _
  unfold upsertTarget at h
  cases hfind : findRecord s r.deviceId.toList with
  | some i =>
      rw [hfind] at h hindex
      obtain rfl := Except.ok.inj h
      obtain ⟨m', hupsert, hentries⟩ := BoundedMap.upsert_of_present hindex.symm
      exact ⟨m', by rw [DeviceMap.upsertDevice, hupsert], hs.set hr hentries⟩
  | none =>
      rw [hfind] at h hindex
      dsimp only at h
      split at h
      · cases h
      · next hroom =>
        have hlt : s.count.toNat < maxRecords := Nat.lt_of_not_le hroom
        obtain rfl := Except.ok.inj h
        obtain ⟨m', hupsert, hentries⟩ :=
          BoundedMap.upsert_of_absent hindex.symm (by rw [hs.length_entries]; exact hlt)
        exact ⟨m', by rw [DeviceMap.upsertDevice, hupsert], hs.append hr hlt hentries⟩

theorem represents_of_removeTarget (hs : Represents s m) (h : removeTarget deviceId s = .ok t) :
    ∃ m', m.remove deviceId = (.ok ⟨⟩, m') ∧ Represents t m' := by
  unfold removeTarget at h
  cases hfind : findRecord s deviceId.bytes with
  | some i =>
      rw [hfind] at h
      obtain rfl := Except.ok.inj h
      obtain ⟨hi, hentry, r, hlookup, -⟩ := hs.found hfind
      refine ⟨m.erase deviceId, ?_, hs.eraseIdx hi (BoundedMap.entries_erase hentry)⟩
      rw [DeviceMap.remove, hlookup]
  | none =>
      rw [hfind] at h
      cases h

theorem represents_of_renameTarget {label : CStr} (hs : Represents s m)
    (h : renameTarget deviceId label s = .ok t) :
    ∃ m', m.rename deviceId label = (.ok ⟨⟩, m') ∧ Represents t m' := by
  unfold renameTarget at h
  cases hfind : findRecord s deviceId.bytes with
  | some i =>
      rw [hfind] at h
      obtain rfl := Except.ok.inj h
      obtain ⟨hi, hentry, r, hlookup, hr⟩ := hs.found hfind
      obtain ⟨r', hr', hset⟩ := setLabel_eq hi hs.count label
      obtain rfl : r' = r := by simpa [hs.devices, hr, eq_comm] using hr'
      refine ⟨_, by rw [DeviceMap.rename, hlookup], ?_⟩
      rw [hset]
      apply hs.set ((hs.proper r' (List.mem_of_getElem? hr)).relabel label)
      apply BoundedMap.entries_modify hentry
      intro a ha
      rw [Option.some.inj (ha.symm.trans hr), relabel_eq]
  | none =>
      rw [hfind] at h
      cases h

/-! ### Targets that exist -/

theorem exists_upsertTarget (hs : Represents s m) (h : m.upsertDevice r = (.ok ⟨⟩, m')) :
    ∃ t, upsertTarget r s = .ok t := by
  have hindex : findRecord s r.deviceId.toList =
      m.entries.findIdx? fun r' => r'.deviceId.toCStr = r.deviceId.toCStr := hs.findRecord_eq _
  unfold upsertTarget
  cases hfind : findRecord s r.deviceId.toList with
  | some i => exact ⟨_, rfl⟩
  | none =>
      rw [hfind] at hindex
      by_cases hroom : m.entries.length < maxRecords
      · rw [hs.length_entries] at hroom
        exact ⟨_, if_neg (Nat.not_le_of_lt hroom)⟩
      · rw [DeviceMap.upsertDevice, BoundedMap.upsert_of_full hindex.symm hroom] at h
        cases h

/-- Whether there is room for a record depends on its id only. -/
theorem upsertTarget_congr {r' : DeviceRecord} (hid : r'.deviceId = r.deviceId)
    (h : upsertTarget r s = .ok t) : ∃ t', upsertTarget r' s = .ok t' := by
  unfold upsertTarget at h ⊢
  rw [hid]
  cases hfind : findRecord s r.deviceId.toList with
  | some i => exact ⟨_, rfl⟩
  | none =>
      rw [hfind] at h
      dsimp only at h ⊢
      split at h
      · cases h
      · next hroom => exact ⟨_, if_neg hroom⟩

/-- A record is written, or there is no room for it. -/
theorem DeviceMap.upsertDevice_cases (m : DeviceMap) (r : DeviceRecord) :
    (∃ m', m.upsertDevice r = (.ok ⟨⟩, m')) ∨
      (m.upsertDevice r).1 = .error EspErr.noMem := by
  unfold DeviceMap.upsertDevice
  cases m.upsert r with
  | some m' => exact .inl ⟨m', rfl⟩
  | none => exact .inr rfl

theorem exists_removeTarget (hs : Represents s m) (h : m.remove deviceId = (.ok ⟨⟩, m')) :
    ∃ t, removeTarget deviceId s = .ok t := by
  unfold removeTarget
  cases hfind : findRecord s deviceId.bytes with
  | some i => exact ⟨_, rfl⟩
  | none =>
      rw [DeviceMap.remove, hs.notFound hfind] at h
      cases h

theorem exists_renameTarget {label : CStr} (hs : Represents s m)
    (h : m.rename deviceId label = (.ok ⟨⟩, m')) :
    ∃ t, renameTarget deviceId label s = .ok t := by
  unfold renameTarget
  cases hfind : findRecord s deviceId.bytes with
  | some i => exact ⟨_, rfl⟩
  | none =>
      rw [DeviceMap.rename, hs.notFound hfind] at h
      cases h

/-! ## Flash -/

/-- There is memory, and NVS can be opened, read and written. -/
structure FlashWorks (w : World) : Prop where
  heap : w.heap = allSucceed
  nvs : w.NvsWorks

theorem FlashWorks.passes (h : FlashWorks w) (k : Nat) : w.nvsPasses k := by
  have hnvs : w.nvs = Stream'.const none := h.nvs
  simp [World.nvsPasses, hnvs]

theorem FlashWorks.loads (h : FlashWorks w) (hread : Reads s w.board) : Loads s w where
  allocated := congrArg Stream'.head h.heap
  passes k _ := h.passes k
  read := hread

theorem FlashWorks.loaded (h : FlashWorks w) : FlashWorks (loadedWorld w) where
  heap := (congrArg Stream'.tail h.heap).trans (Stream'.tail_const true)
  nvs := by
    have hnvs : w.nvs = Stream'.const none := h.nvs
    simp [World.NvsWorks, loadedWorld, hnvs, Stream'.drop_const]

theorem Holds.represents (h : Holds m b) (hread : b.registry.read = .ok s) : Represents s m := by
  obtain ⟨s', hs', hread'⟩ := h
  obtain rfl := Except.ok.inj (hread.symm.trans hread')
  exact hs'

theorem get_eq_ok_iff : m.get deviceId = .ok r ↔ m.lookup deviceId = some r := by
  unfold DeviceMap.get
  cases m.lookup deviceId <;> simp

/-- What is found by an id is the entry of the directory. -/
theorem Finds.get (h : Finds deviceId s r w) (hm : Holds m w.board) :
    m.get deviceId = .ok r := by
  rw [get_eq_ok_iff, ← (hm.represents h.read).find?_eq]
  exact h.found

/-- When flash works, a record of the directory is found. -/
theorem finds_of_get (hw : FlashWorks w) (hm : Holds m w.board) (h : m.get deviceId = .ok r) :
    ∃ s, Finds deviceId s r w := by
  obtain ⟨s, hs, hread⟩ := hm
  exact ⟨s, { hw.loads hread with found := (hs.find?_eq deviceId).trans (get_eq_ok_iff.mp h) }⟩

/-- When flash works, an update of which the store exists is saved. -/
theorem saves_of_target {target : RegistryStore → EspResult RegistryStore} (hw : FlashWorks w)
    (hread : Reads s w.board) (h : target s = .ok t) : Saves target s t w :=
  (saves_iff (hw.loads hread) h).mpr fun k _ => hw.loaded.passes k

/-! ### A write on its way -/

/-- The directory in flash, and the one of a write that failed on its way: when power returns,
either may be there. -/
structure Flash where
  directory : DeviceMap
  pending : Option DeviceMap

/-- This is in flash. -/
structure InFlash (c : Flash) (n : RegistryNvs) : Prop where
  stored : ∃ s, Represents s c.directory ∧ n.read = .ok s
  staged : ∀ bytes, n.staged = some bytes → ∃ s m, bytes = registryStoreLayout.encode s ∧
    Represents s m ∧ (m = c.directory ∨ c.pending = some m)

variable {c : Flash}

theorem InFlash.holds (h : InFlash c b.registry) : Holds c.directory b := h.stored

/-- Nothing is on its way. -/
theorem inFlash_of_committed {n : RegistryNvs} (hs : Represents s m) (hread : n.read = .ok s)
    (hstaged : n.staged = none) : InFlash ⟨m, none⟩ n where
  stored := ⟨s, hs, hread⟩
  staged bytes hbytes := by cases hstaged.symm.trans hbytes

/-- After the power has been off, a write on its way has been done or not. -/
theorem InFlash.restarted {n : RegistryNvs} (h : InFlash c n) (persisted : Bool) :
    ∃ m, (m = c.directory ∨ persisted = true ∧ c.pending = some m) ∧
      InFlash ⟨m, none⟩ (n.restarted persisted) := by
  have hsame (hjoin : (n.restarted persisted).stored.join = n.stored.join) :
      InFlash ⟨c.directory, none⟩ (n.restarted persisted) := by
    obtain ⟨s, hs, hread⟩ := h.stored
    exact inFlash_of_committed hs ((read_congr hjoin).trans hread) rfl
  cases persisted with
  | false => exact ⟨c.directory, .inl rfl, hsame rfl⟩
  | true =>
      cases hstaged : n.staged with
      | none =>
          refine ⟨c.directory, .inl rfl, hsame ?_⟩
          simp [RegistryNvs.restarted, hstaged]
      | some bytes =>
          obtain ⟨s, m, rfl, hs, hm⟩ := h.staged bytes hstaged
          refine ⟨m, hm.imp_right fun hm => ⟨rfl, hm⟩, inFlash_of_committed hs ?_ rfl⟩
          apply RegistryNvs.read_encode hs.accepted
          simp [RegistryNvs.restarted, hstaged]

section Saving

variable {F : RegistryNvs → Prop}
  (hopen : ∀ n, F n → F { stored := some n.stored.join, staged := none })
  (hset : ∀ n, F n → F { n with staged := some (registryStoreLayout.encode t) })
  (hcommit : ∀ n, F n → F { stored := some (n.staged.or n.stored.join), staged := none })

include hopen hset hcommit

/-- What each call of a save keeps. -/
theorem saveStore_registry :
    Esp.Keeps (fun w => F w.board.registry) (saveStore t) fun _ => True := by
  have hI : UnforeseenNvs fun w => F w.board.registry := unforeseen_board fun b => F b.registry
  have hmodify {g : Board → Board} (hg : ∀ b, F b.registry → F (g b).registry) :
      Esp.Keeps (fun w => F w.board.registry) (liftM (modifyBoard g) : Esp Unit) fun _ => True :=
    Esp.Keeps.lift (modifyBoard_keeps fun w => hg w.board)
  apply Esp.Keeps.bind (nvs_keeps hI (fun _ => rfl) (hmodify fun b => hopen b.registry))
  rintro - -
  apply Esp.Keeps.bind (nvs_keeps hI (fun _ => rfl) (hmodify fun b => hset b.registry))
  rintro - -
  exact nvs_keeps hI (fun _ => rfl) (hmodify fun b => hcommit b.registry)

end Saving

/-- Saving the directory that is there leaves flash with it, however far the save comes. -/
theorem inFlash_storeInvariant (m : DeviceMap) :
    StoreInvariant (fun s => Represents s m) fun w => InFlash ⟨m, none⟩ w.board.registry where
  toUnforeseen := (unforeseen_board fun b => InFlash ⟨m, none⟩ b.registry).toUnforeseen
  load := loadStore_keeps (unforeseen_board fun b => InFlash ⟨m, none⟩ b.registry)
    fun w hw s hread => Holds.represents (b := w.board) hw.stored hread
  save t ht := by
    have hflash (n : RegistryNvs) (h : InFlash ⟨m, none⟩ n) :
        InFlash ⟨m, none⟩ { stored := some n.stored.join, staged := none } := by
      obtain ⟨s, hs, hread⟩ := h.stored
      exact inFlash_of_committed hs ((read_congr rfl).trans hread) rfl
    apply saveStore_registry hflash
    · intro n h
      refine ⟨h.stored, ?_⟩
      rintro bytes ⟨⟩
      exact ⟨t, m, rfl, ht, .inl rfl⟩
    · intro n h
      cases hstaged : n.staged with
      | none => exact hflash n h
      | some bytes =>
          obtain ⟨s, m', rfl, hs, rfl | hm⟩ := h.staged bytes hstaged
          · exact inFlash_of_committed hs (RegistryNvs.read_encode hs.accepted rfl) rfl
          · cases hm
  event := broadcastEvent_keeps
    (unforeseen_board fun b => InFlash ⟨m, none⟩ b.registry).toUnforeseen fun _ _ _ h => h
  snapshot := broadcastSnapshot_keeps
    (unforeseen_board fun b => InFlash ⟨m, none⟩ b.registry).toUnforeseen fun _ _ _ h => h

/-- A blob that is on its way after a save was on its way before, or is that of the store. -/
theorem saveAndNotify_staged {bytes : List UInt8}
    (h : ((saveAndNotify t).run w).2.board.registry.staged = some bytes) :
    w.board.registry.staged = some bytes ∨ bytes = registryStoreLayout.encode t := by
  let I (u : World) : Prop := ∀ bytes, u.board.registry.staged = some bytes →
    w.board.registry.staged = some bytes ∨ bytes = registryStoreLayout.encode t
  have hsave : Esp.Keeps I (saveStore t) fun _ => True := by
    apply saveStore_registry (F := fun n => ∀ bytes, n.staged = some bytes →
      w.board.registry.staged = some bytes ∨ bytes = registryStoreLayout.encode t)
    · exact fun _ _ => nofun
    · rintro n - bytes ⟨⟩
      exact .inr rfl
    · exact fun _ _ => nofun
  have hI : Unforeseen I := (unforeseen_board fun b => ∀ bytes, b.registry.staged = some bytes →
    w.board.registry.staged = some bytes ∨ bytes = registryStoreLayout.encode t).toUnforeseen
  have hnotify : Esp.Keeps I (saveAndNotify t) fun _ => True := by
    apply Esp.Keeps.bind hsave
    rintro - -
    apply Esp.Keeps.bind (broadcastEvent_keeps hI (fun _ _ _ h => h) _).ignore
    rintro - -
    exact (broadcastSnapshot_keeps hI fun _ _ _ h => h).ignore
  exact (hnotify w fun _ => .inl).1 bytes h

theorem update_staged {target : RegistryStore → EspResult RegistryStore} {bytes : List UInt8}
    (h : ((update target).run w).2.board.registry.staged = some bytes) :
    w.board.registry.staged = some bytes ∨ ∃ s t, w.board.registry.read = .ok s ∧
      target s = .ok t ∧ bytes = registryStoreLayout.encode t := by
  unfold update at h
  by_cases hloads : ∃ s, Loads s w
  · obtain ⟨s, hs⟩ := hloads
    rw [loaded_run hs] at h
    cases htarget : target s with
    | error e =>
        rw [htarget] at h
        exact .inl h
    | ok t =>
        rw [htarget] at h
        exact (saveAndNotify_staged h).imp_right fun heq => ⟨s, t, hs.read, htarget, heq⟩
  · obtain ⟨e, w', hrun, hboard⟩ := notLoaded_run (w := w) _ hloads
    rw [hrun] at h
    exact .inl (hboard ▸ h)

/-- What a write of a directory in `E` may leave when it fails. -/
def Attempted (E : DeviceMap → Prop) (c c' : Flash) : Prop :=
  c' = c ∨ ∃ m, E m ∧ c' = { c with pending := some m }

/-- A command that fails leaves the blob, and on its way one that was there or a new one. -/
theorem attempted_of_staged {E : DeviceMap → Prop} {n : RegistryNvs} (hc : InFlash c n)
    (hjoin : b.registry.stored.join = n.stored.join)
    (hstaged : ∀ bytes, b.registry.staged = some bytes → n.staged = some bytes ∨
      ∃ t m, bytes = registryStoreLayout.encode t ∧ Represents t m ∧ E m) :
    ∃ c', Attempted E c c' ∧ InFlash c' b.registry := by
  obtain ⟨s, hs, hread⟩ := hc.stored
  have hstored : b.registry.read = .ok s := (read_congr hjoin).trans hread
  cases hbytes : b.registry.staged with
  | none => exact ⟨c, .inl rfl, ⟨s, hs, hstored⟩, fun bytes h => by cases hbytes.symm.trans h⟩
  | some bytes =>
      rcases hstaged bytes hbytes with hold | ⟨t, m, hencode, ht, hm⟩
      · refine ⟨c, .inl rfl, ⟨s, hs, hstored⟩, fun bytes' h => ?_⟩
        obtain rfl := Option.some.inj (hbytes.symm.trans h)
        exact hc.staged bytes hold
      · refine ⟨_, .inr ⟨m, hm, rfl⟩, ⟨s, hs, hstored⟩, fun bytes' h => ?_⟩
        obtain rfl := Option.some.inj (hbytes.symm.trans h)
        exact ⟨t, m, hencode, ht, .inr rfl⟩

/-- An update returns in a directory that `E` allows, or fails in the one it found. When flash
works, it fails only where the store cannot be updated. -/
theorem update_inFlash {target : RegistryStore → EspResult RegistryStore} {E : DeviceMap → Prop}
    (htarget : ∀ s t, Represents s c.directory → target s = .ok t →
      ∃ m, E m ∧ Represents t m) (hc : InFlash c w.board.registry) :
    (∃ w', (update target).run w = (.ok ⟨⟩, w') ∧
        ∃ m, E m ∧ InFlash ⟨m, none⟩ w'.board.registry) ∨
      ∃ e w', (update target).run w = (.error e, w') ∧
        (∃ c', Attempted E c c' ∧ InFlash c' w'.board.registry) ∧
        (FlashWorks w → ∃ s, Represents s c.directory ∧ ¬∃ t, target s = .ok t) := by
  obtain ⟨s, t, hsaves, w', hrun, hannounces⟩ | ⟨hfails, e, w', hrun, hsame⟩ :=
    update_cases target w
  · obtain ⟨m, hm, ht⟩ := htarget s t (hc.holds.represents hsaves.read) hsaves.updated
    refine .inl ⟨w', hrun, m, hm, inFlash_of_committed ht ?_ ?_⟩
    · exact read_of_saved ht.accepted hannounces.registry
    · rw [hannounces.registry]
      rfl
  · refine .inr ⟨e, w', hrun, attempted_of_staged hc hsame.stored fun bytes hbytes => ?_, ?_⟩
    · have hstaged : ((update target).run w).2.board.registry.staged = some bytes := by
        rw [hrun]
        exact hbytes
      refine (update_staged hstaged).imp_right ?_
      rintro ⟨s, t, hread, hupdated, hencode⟩
      obtain ⟨m, hm, ht⟩ := htarget s t (hc.holds.represents hread) hupdated
      exact ⟨t, m, hencode, ht, hm⟩
    · intro hw
      obtain ⟨s, hs, hread⟩ := hc.stored
      exact ⟨s, hs, fun ⟨t, ht⟩ => hfails ⟨s, t, saves_of_target hw hread ht⟩⟩

end Orchestrator.Registry
