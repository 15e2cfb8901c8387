import Orchestrator.Registry.Calm

/-!
# The registry at boot

`device_registry_init` loads whatever an earlier firmware left in flash and
saves what it made of it. `app_main` aborts when it fails.
-/

namespace Orchestrator

open Lib Registry

/-- The blob of the key `records`. -/
def Board.blob (b : Board) : Option (List UInt8) := b.registry.stored.join

end Orchestrator

namespace Orchestrator.Registry

open Lib Handler

/-! ## Valid blobs -/

/-- A blob of a registry: of the right length, of this version, and with every count in
bounds, that of the devices and that of each of the sixteen records. -/
structure ValidBlob (bytes : List UInt8) : Prop where
  length : bytes.length = 13192
  version : (registryStoreLayout.decode bytes).version = 2
  count : (registryStoreLayout.decode bytes).count ≤ 16
  capabilityCounts : ∀ r ∈ (registryStoreLayout.decode bytes).records.toList,
    r.capabilityCount ≤ 8

/-- All is in bounds but the count of a record that is not in use. -/
structure StaleCount (bytes : List UInt8) : Prop where
  length : bytes.length = 13192
  version : (registryStoreLayout.decode bytes).version = 2
  count : (registryStoreLayout.decode bytes).count ≤ 16
  inUse : ∀ r ∈ (registryStoreLayout.decode bytes).records.toList.take
    (registryStoreLayout.decode bytes).count.toNat, r.capabilityCount ≤ 8
  unused : ∃ r ∈ (registryStoreLayout.decode bytes).records.toList.drop
    (registryStoreLayout.decode bytes).count.toNat, 8 < r.capabilityCount

/-- The blobs that `load_store` takes as they are: it checks the records in use only. -/
structure KeptBlob (bytes : List UInt8) : Prop where
  length : bytes.length = registryStoreLayout.size
  accepted : (registryStoreLayout.decode bytes).Accepted

theorem ValidBlob.kept {bytes : List UInt8} (h : ValidBlob bytes) : KeptBlob bytes where
  length := h.length
  accepted :=
    { version := h.version
      count := UInt32.le_iff_toNat_le.mp h.count
      capabilities := fun r hr => h.capabilityCounts r (List.mem_of_mem_take hr) }

theorem StaleCount.kept {bytes : List UInt8} (h : StaleCount bytes) : KeptBlob bytes where
  length := h.length
  accepted :=
    { version := h.version
      count := UInt32.le_iff_toNat_le.mp h.count
      capabilities := h.inUse }

theorem StaleCount.not_valid {bytes : List UInt8} (h : StaleCount bytes) : ¬ValidBlob bytes := by
  intro hvalid
  obtain ⟨r, hr, hlt⟩ := h.unused
  exact UInt32.not_lt.mpr (hvalid.capabilityCounts r (List.mem_of_mem_drop hr)) hlt

/-- The checks miss nothing else. -/
theorem KeptBlob.valid {bytes : List UInt8} (h : KeptBlob bytes) (hstale : ¬StaleCount bytes) :
    ValidBlob bytes where
  length := h.length
  version := h.accepted.version
  count := UInt32.le_iff_toNat_le.mpr h.accepted.count
  capabilityCounts := by
    intro r hr
    by_contra hlt
    rw [← List.take_append_drop (registryStoreLayout.decode bytes).count.toNat
      (registryStoreLayout.decode bytes).records.toList, List.mem_append] at hr
    rcases hr with hr | hr
    · exact hlt (h.accepted.capabilities r hr)
    · exact hstale
        { length := h.length
          version := h.accepted.version
          count := UInt32.le_iff_toNat_le.mpr h.accepted.count
          inUse := h.accepted.capabilities
          unused := ⟨r, hr, UInt32.not_le.mp hlt⟩ }

theorem valid_initEmptyStore : ValidBlob (registryStoreLayout.encode initEmptyStore) where
  length := registryStoreLayout.length_encode initEmptyStore
  version := by rw [Layout.decode_encode]; rfl
  count := by rw [Layout.decode_encode]; decide
  capabilityCounts := by
    rw [Layout.decode_encode]
    intro r hr
    obtain ⟨-, rfl⟩ : 16 ≠ 0 ∧ r = DeviceRecord.zero := List.mem_replicate.mp hr
    decide

theorem encode_loadBlob {bytes : List UInt8} (h : KeptBlob bytes) :
    registryStoreLayout.encode (loadBlob bytes) = bytes := by
  have hencode := registryStoreLayout.encode_decode_of_length h.length
  calc
    registryStoreLayout.encode (loadBlob bytes) =
        registryStoreLayout.encode
          (loadBlob (registryStoreLayout.encode (registryStoreLayout.decode bytes))) := by
      rw [hencode]
    _ = registryStoreLayout.encode (registryStoreLayout.decode bytes) := by
      rw [loadBlob_encode h.accepted]
    _ = bytes := hencode

/-- Any other blob fails a check. -/
theorem loadBlob_of_not_kept {bytes : List UInt8} (h : ¬KeptBlob bytes) :
    loadBlob bytes = initEmptyStore := by
  unfold loadBlob
  dsimp only
  split
  · rfl
  · next hheader =>
    split
    · rfl
    · next hcapabilities =>
      exfalso
      apply h
      rw [not_or, not_or, not_not, not_not, Nat.not_lt] at hheader
      obtain ⟨hlength, hversion, hcount⟩ := hheader
      constructor
      · exact hlength
      · constructor
        · exact hversion
        · exact hcount
        · intro r hr
          apply UInt32.not_lt.mp
          intro hlt
          exact hcapabilities (List.any_eq_true.mpr ⟨r, hr, by simpa using hlt⟩)

/-! ## Recovery -/

/-- The boot goes on with a valid blob in flash: the one that was there, or the
empty registry in place of anything else. -/
structure Recovers (w : World) (r : EspResult Unit) (w' : World) : Prop where
  ok : r = .ok ⟨⟩
  valid : ∃ bytes, w'.board.blob = some bytes ∧ ValidBlob bytes
  kept : ∀ bytes, w.board.blob = some bytes → ValidBlob bytes → w'.board.blob = some bytes
  replaced : (∀ bytes, w.board.blob = some bytes → ¬ValidBlob bytes) →
    w'.board.blob = some (registryStoreLayout.encode
      { version := 2, count := 0, records := Vector.replicate 16 DeviceRecord.zero })

/-- The blob fits the buffer, and no count is out of bounds behind the records in use. -/
def Recoverable (b : Board) : Prop :=
  ∀ bytes, b.blob = some bytes → bytes.length ≤ 13192 ∧ ¬StaleCount bytes

variable {w : World}

/-- What is loaded when the blob fits the buffer. -/
theorem read_of_fits (hfits : ∀ bytes, w.board.blob = some bytes →
      bytes.length ≤ registryStoreLayout.size) :
    ∃ s, w.board.registry.read = .ok s ∧
      (∀ bytes, w.board.blob = some bytes → s = loadBlob bytes) ∧
      (w.board.blob = none → s = initEmptyStore) := by
  unfold RegistryNvs.read
  cases hblob : w.board.registry.stored.join with
  | none =>
      refine ⟨initEmptyStore, rfl, ?_, fun _ => rfl⟩
      intro bytes hbytes
      cases hblob.symm.trans hbytes
  | some bytes =>
      refine ⟨loadBlob bytes, if_neg (Nat.not_lt.mpr (hfits bytes hblob)), ?_, ?_⟩
      · intro bytes' hbytes'
        rw [Option.some.inj (hblob.symm.trans hbytes')]
      · intro hnone
        cases hblob.symm.trans hnone

theorem allocStore_of_heap (hheap : w.heap.head = true) :
    allocStore.run w = (.ok ⟨⟩, { w with heap := w.heap.tail }) := by
  unfold allocStore
  rw [Esp.run_liftM_bind (m := malloc) (w := w) rfl, hheap]
  rfl

/-- The boot saves what it loads, and fails when it cannot load. -/
theorem deviceRegistryInit_run (hw : w.NvsWorks) (hheap : w.heap.head = true) :
    deviceRegistryInit.run w = match w.board.registry.read with
      | .ok s => (.ok ⟨⟩, { w with heap := w.heap.tail, board := w.board.withStore s })
      | .error err => (.error err, { w with heap := w.heap.tail }) := by
  have hload := loadStore_works (w := { w with heap := w.heap.tail }) hw
  unfold deviceRegistryInit
  rw [Esp.run_bind_ok (allocStore_of_heap hheap), ExceptT.run_bind, bind_apply, hload]
  cases w.board.registry.read with
  | error err => rfl
  | ok s => exact saveStore_works (w := { w with heap := w.heap.tail }) hw

/-- What the boot leaves in flash when the blob fits the buffer. -/
theorem blob_after_boot (hw : w.NvsWorks) (hheap : w.heap.head = true)
    (hfits : ∀ bytes, w.board.blob = some bytes → bytes.length ≤ registryStoreLayout.size) :
    ∃ s, (deviceRegistryInit.run w).1 = .ok ⟨⟩ ∧
      (deviceRegistryInit.run w).2.board.blob = some (registryStoreLayout.encode s) ∧
      (∀ bytes, w.board.blob = some bytes → s = loadBlob bytes) ∧
      (w.board.blob = none → s = initEmptyStore) := by
  obtain ⟨s, hread, hloaded, hempty⟩ := read_of_fits hfits
  have hrun := deviceRegistryInit_run hw hheap
  rw [hread] at hrun
  exact ⟨s, congrArg Prod.fst hrun, congrArg (fun run => run.2.board.blob) hrun, hloaded, hempty⟩

theorem recovers_of_recoverable (hw : w.NvsWorks) (hheap : w.heap.head = true)
    (h : Recoverable w.board) :
    Recovers w (deviceRegistryInit.run w).1 (deviceRegistryInit.run w).2 := by
  obtain ⟨s, hok, hblob, hloaded, hempty⟩ :=
    blob_after_boot hw hheap fun bytes hbytes => (h bytes hbytes).1
  -- a blob that is not valid is not kept either, since its counts are not stale
  have hreplaced : (∀ bytes, w.board.blob = some bytes → ¬ValidBlob bytes) →
      s = initEmptyStore := by
    intro hnone
    cases hstored : w.board.blob with
    | none => exact hempty hstored
    | some bytes =>
        have hnotKept : ¬KeptBlob bytes := fun hkept =>
          hnone bytes hstored (hkept.valid (h bytes hstored).2)
        rw [hloaded bytes hstored, loadBlob_of_not_kept hnotKept]
  constructor
  · exact hok
  · refine ⟨_, hblob, ?_⟩
    by_cases hvalid : ∃ bytes, w.board.blob = some bytes ∧ ValidBlob bytes
    · obtain ⟨bytes, hbytes, hvalid⟩ := hvalid
      rw [hloaded bytes hbytes, encode_loadBlob hvalid.kept]
      exact hvalid
    · rw [hreplaced fun bytes hbytes hbad => hvalid ⟨bytes, hbytes, hbad⟩]
      exact valid_initEmptyStore
  · intro bytes hbytes hvalid
    rw [hblob, hloaded bytes hbytes, encode_loadBlob hvalid.kept]
  · intro hnone
    rw [hblob, hreplaced hnone]
    rfl

/-- Without memory for the store the boot fails. -/
theorem deviceRegistryInit_of_noMem (hheap : w.heap.head = false) :
    (deviceRegistryInit.run w).1 = .error EspErr.noMem := by
  unfold deviceRegistryInit allocStore
  rw [ExceptT.run_bind, bind_apply, Esp.run_liftM_bind (m := malloc) (w := w) rfl, hheap]
  rfl

/-- A blob that does not fit the buffer is an error of the read, which is not
one of those that stand for an empty registry. -/
theorem deviceRegistryInit_of_long (hw : w.NvsWorks) (hheap : w.heap.head = true)
    {bytes : List UInt8} (hblob : w.board.blob = some bytes)
    (hlong : registryStoreLayout.size < bytes.length) :
    (deviceRegistryInit.run w).1 = .error EspErr.nvsInvalidLength := by
  have hread : w.board.registry.read = .error EspErr.nvsInvalidLength := by
    unfold RegistryNvs.read
    rw [show w.board.registry.stored.join = some bytes from hblob]
    exact if_pos hlong
  rw [deviceRegistryInit_run hw hheap, hread]

/-- A blob with a stale count is kept, so that flash holds no valid one. -/
theorem not_recovers_of_stale (hw : w.NvsWorks) (hheap : w.heap.head = true)
    {bytes : List UInt8} (hblob : w.board.blob = some bytes) (hstale : StaleCount bytes) :
    ¬Recovers w (deviceRegistryInit.run w).1 (deviceRegistryInit.run w).2 := by
  intro h
  have hfits : ∀ bytes', w.board.blob = some bytes' →
      bytes'.length ≤ registryStoreLayout.size := by
    intro bytes' hbytes'
    obtain rfl := Option.some.inj (hblob.symm.trans hbytes')
    exact Nat.le_of_eq hstale.length
  obtain ⟨s, -, hafter, hloaded, -⟩ := blob_after_boot hw hheap hfits
  rw [hloaded bytes hblob, encode_loadBlob hstale.kept] at hafter
  obtain ⟨bytes', hbytes', hvalid⟩ := h.valid
  obtain rfl := Option.some.inj (hafter.symm.trans hbytes')
  exact hstale.not_valid hvalid

/-- The boot recovers exactly when there is memory for the store, the blob in flash is not
longer than it, and no count is out of bounds behind the records in use. -/
theorem deviceRegistryInit_recovers_iff (hw : w.NvsWorks) :
    Recovers w (deviceRegistryInit.run w).1 (deviceRegistryInit.run w).2 ↔
      w.heap.head = true ∧ Recoverable w.board := by
  constructor
  · intro h
    have hheap : w.heap.head = true := by
      by_contra hfalse
      have hnoMem := deviceRegistryInit_of_noMem (Bool.eq_false_of_not_eq_true hfalse)
      cases h.ok.symm.trans hnoMem
    refine ⟨hheap, fun bytes hblob => ⟨?_, fun hstale => ?_⟩⟩
    · by_contra hlong
      have herror := deviceRegistryInit_of_long hw hheap hblob (Nat.lt_of_not_le hlong)
      cases h.ok.symm.trans herror
    · exact not_recovers_of_stale hw hheap hblob hstale h
  · rintro ⟨hheap, hrecoverable⟩
    exact recovers_of_recoverable hw hheap hrecoverable

/-- Flash with the greenhouse registered. -/
def greenhouseBoard : Board := Board.erased.withStore (singleStore greenhouse)

theorem deviceRegistryInit_recovers_greenhouse :
    Recovers (World.calm greenhouseBoard) (deviceRegistryInit.run (World.calm greenhouseBoard)).1
      (deviceRegistryInit.run (World.calm greenhouseBoard)).2 := by
  have hblob : greenhouseBoard.blob =
      some (registryStoreLayout.encode (singleStore greenhouse)) := rfl
  have hunused : ∀ r ∈ (singleStore greenhouse).records.toList.drop
      (singleStore greenhouse).count.toNat, ¬8 < r.capabilityCount := by
    decide +kernel
  refine (deviceRegistryInit_recovers_iff (w := World.calm greenhouseBoard) rfl).mpr ⟨rfl, ?_⟩
  intro bytes hbytes
  obtain rfl := Option.some.inj (hblob.symm.trans hbytes)
  refine ⟨(registryStoreLayout.length_encode _).le, fun hstale => ?_⟩
  obtain ⟨r, hr, hlt⟩ := hstale.unused
  rw [Layout.decode_encode] at hr
  exact hunused r hr hlt

/-- Flash as a firmware with a longer store left it. -/
def longBlobBoard : Board :=
  { Board.erased with registry :=
      { stored := some (some (List.replicate (registryStoreLayout.size + 1) 0)), staged := none } }

theorem longBlob_not_recovers : (World.calm longBlobBoard).NvsWorks ∧
    (World.calm longBlobBoard).heap.head = true ∧
    ¬Recovers (World.calm longBlobBoard) (deviceRegistryInit.run (World.calm longBlobBoard)).1
      (deviceRegistryInit.run (World.calm longBlobBoard)).2 := by
  refine ⟨rfl, rfl, fun h => ?_⟩
  have hlong : registryStoreLayout.size <
      (List.replicate (registryStoreLayout.size + 1) (0 : UInt8)).length := by
    rw [List.length_replicate]
    exact Nat.lt_succ_self _
  have herror := deviceRegistryInit_of_long (w := World.calm longBlobBoard) rfl rfl rfl hlong
  cases h.ok.symm.trans herror

end Orchestrator.Registry
