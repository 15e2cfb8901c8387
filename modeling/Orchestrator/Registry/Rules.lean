import Orchestrator.Registry.Api

/-!
# What the registry keeps

The rules for a predicate on stores that every update has to keep. The updates
that keep it are the premises of the rules.
-/

namespace Orchestrator

open Lib Registry

/-- Every blob that a load may come to see satisfies `B`. -/
structure RegistryNvs.All (B : List UInt8 → Prop) (n : RegistryNvs) : Prop where
  stored : ∀ bytes, n.stored.join = some bytes → B bytes
  staged : ∀ bytes, n.staged = some bytes → B bytes

/-- What is loaded from blobs that satisfy `B`. -/
theorem RegistryNvs.All.of_read {B : List UInt8 → Prop} {D : RegistryStore → Prop}
    {n : RegistryNvs} (h : n.All B) (hload : ∀ bytes, B bytes → D (loadBlob bytes))
    (hempty : D initEmptyStore) {s : RegistryStore} (hread : n.read = .ok s) : D s := by
  unfold read at hread
  split at hread
  · cases hread
    exact hempty
  · next bytes hstored =>
    split at hread
    · cases hread
    · cases hread
      exact hload bytes (h.stored bytes hstored)

/-- NVS after a restart; what was not committed may or may not have reached flash. -/
def RegistryNvs.restarted (persisted : Bool) (n : RegistryNvs) : RegistryNvs where
  stored := if persisted then some (n.staged.or n.stored.join) else n.stored
  staged := none

def World.restarted (persisted : Bool) (w : World) : World :=
  { w with board := { w.board with registry := w.board.registry.restarted persisted } }

theorem RegistryNvs.All.restarted {B : List UInt8 → Prop} {n : RegistryNvs} (h : n.All B)
    (persisted : Bool) : (n.restarted persisted).All B where
  stored bytes hbytes := by
    cases persisted with
    | false => exact h.stored bytes hbytes
    | true =>
        cases hstaged : n.staged with
        | none =>
            simp only [RegistryNvs.restarted, hstaged] at hbytes
            exact h.stored bytes hbytes
        | some staged =>
            simp only [RegistryNvs.restarted, hstaged] at hbytes
            exact h.staged bytes (hstaged.trans hbytes)
  staged _ hbytes := nomatch hbytes

theorem RegistryNvs.all_true (n : RegistryNvs) : n.All fun _ => True where
  stored _ _ := trivial
  staged _ _ := trivial

end Orchestrator

namespace Orchestrator.Registry

open Lib Handler Server State

variable {D : RegistryStore → Prop} {I : World → Prop}

/-- Loads return stores in `D`. -/
structure LoadInvariant (D : RegistryStore → Prop) (I : World → Prop) : Prop
    extends Unforeseen I where
  load : Esp.Keeps I loadStore D

/-- Saving a store in `D` and notifying keep `I` too. -/
structure StoreInvariant (D : RegistryStore → Prop) (I : World → Prop) : Prop
    extends LoadInvariant D I where
  save : ∀ s, D s → Esp.Keeps I (saveStore s) fun _ => True
  event : ∀ e : String, Esp.Keeps I (orchestratorStateBroadcastEvent (CStr.lit e) none)
    fun _ => True
  snapshot : Esp.Keeps I orchestratorStateBroadcastSnapshot fun _ => True

/-! ## Loading and saving -/

section Nvs

variable {B : List UInt8 → Prop} (hI : UnforeseenNvs I)
  (hread : ∀ w, I w → w.board.registry.All B)
  (hwrite : ∀ w n, I w → n.All B →
    (w.board.registry.stored.join.isSome → n.stored.join.isSome) →
    I { w with board := { w.board with registry := n } })

/-- The shape of every NVS call: its failure is returned at once. -/
theorem nvs_keeps {α : Type} {k : Option EspErr → Esp α} {Q : α → Prop} (hI : UnforeseenNvs I)
    (hfailed : ∀ e, k (some e) = throw e) (hdone : Esp.Keeps I (k none) Q) :
    Esp.Keeps I (liftM nvsOutcome >>= k) Q := by
  apply Esp.Keeps.bind (Q := fun _ => True)
  · exact Esp.Keeps.lift (hI.nvsOutcome.weaken fun _ _ => trivial)
  · rintro (- | e) -
    · exact hdone
    · rw [hfailed]
      exact Esp.Keeps.throw

/-- A store that is saved is read back, or rejected in favour of the empty store. -/
theorem loadBlob_encode_of {s : RegistryStore} (hempty : D initEmptyStore) (hs : D s) :
    D (loadBlob (registryStoreLayout.encode s)) := by
  unfold loadBlob
  simp only [Layout.decode_encode]
  split
  · exact hempty
  · split
    · exact hempty
    · exact hs

/-- What is known of the result of such a call, its own errors included. -/
theorem nvs_results {α : Type} {k : Option EspErr → Esp α} {R : EspResult α → Prop}
    (hI : UnforeseenNvs I) (hfailed : ∀ e, k (some e) = throw e)
    (herror : ∀ e, e ≠ EspErr.nvsNotFound → R (.error e))
    (hdone : Keeps I ((k none).run : Handler (EspResult α)) R) :
    Keeps I ((liftM nvsOutcome >>= k : Esp α).run : Handler (EspResult α)) R := by
  rw [ExceptT.run_bind, ExceptT.run_liftM, bind_map_left]
  refine Keeps.bind hI.nvsOutcome fun outcome houtcome => ?_
  cases outcome with
  | none => exact hdone
  | some e =>
      dsimp only
      rw [hfailed]
      exact Keeps.pure (herror e (houtcome e rfl))

section Load

variable (hload : ∀ w, I w → ∀ s, w.board.registry.read = .ok s → D s)

include hload in
theorem empty_of_load {w : World} (hw : I w) (hnone : w.board.registry.stored.join = none) :
    D initEmptyStore := by
  apply hload w hw
  rw [RegistryNvs.read, hnone]

include hI hload

theorem nvsOpenReadonly_results :
    Keeps I (nvsOpenReadonly.run : Handler (EspResult Unit)) fun r =>
      r = .error EspErr.nvsNotFound → D initEmptyStore := by
  apply nvs_results hI (fun _ => rfl) fun e he heq => absurd (Except.error.inj heq) he
  intro w hw
  rw [Esp.run_liftM_bind (m := getBoard) (w := w) rfl]
  cases hstored : w.board.registry.stored with
  | some stored => exact ⟨hw, nofun⟩
  | none => exact ⟨hw, fun _ => empty_of_load hload hw (by rw [hstored]; rfl)⟩

theorem nvsGetBlob_results :
    Keeps I (nvsGetBlob.run : Handler (EspResult (List UInt8))) fun r =>
      (∀ bytes, r = .ok bytes → D (loadBlob bytes)) ∧
        (r = .error EspErr.nvsNotFound → D initEmptyStore) := by
  apply nvs_results hI (fun _ => rfl) fun e he =>
    ⟨nofun, fun heq => absurd (Except.error.inj heq) he⟩
  intro w hw
  rw [Esp.run_liftM_bind (m := getBoard) (w := w) rfl]
  cases hstored : w.board.registry.stored.join with
  | none => exact ⟨hw, nofun, fun _ => empty_of_load hload hw hstored⟩
  | some bytes =>
      dsimp only
      split
      · exact ⟨hw, nofun, nofun⟩
      · next hsize =>
        refine ⟨hw, ?_, nofun⟩
        rintro _ ⟨⟩
        apply hload w hw
        rw [RegistryNvs.read, hstored]
        exact if_neg hsize

/-- The two calls of a load, before a missing key is taken for the empty store. -/
theorem loadCalls_results :
    Keeps I ((do
      nvsOpenReadonly
      let bytes ← nvsGetBlob
      return loadBlob bytes : Esp RegistryStore).run : Handler (EspResult RegistryStore)) fun r =>
        (∀ s, r = .ok s → D s) ∧ (r = .error EspErr.nvsNotFound → D initEmptyStore) := by
  rw [ExceptT.run_bind]
  refine Keeps.bind (nvsOpenReadonly_results hI hload) fun opened hopened => ?_
  cases opened with
  | error e => exact Keeps.pure ⟨nofun, fun heq => hopened (by rw [Except.error.inj heq])⟩
  | ok _ =>
      dsimp only
      rw [ExceptT.run_bind]
      refine Keeps.bind (nvsGetBlob_results hI hload) fun blob hread => ?_
      cases blob with
      | error e => exact Keeps.pure ⟨nofun, fun heq => hread.2 (by rw [Except.error.inj heq])⟩
      | ok bytes =>
          apply Keeps.pure
          refine ⟨?_, nofun⟩
          rintro _ ⟨⟩
          exact hread.1 bytes rfl

/-- A load that succeeds returns what is stored. -/
theorem loadStore_keeps : Esp.Keeps I loadStore D := by
  unfold Esp.Keeps loadStore
  rw [ExceptT.run_tryCatch]
  refine Keeps.bind (loadCalls_results hI hload) fun r hr => ?_
  cases r with
  | ok s => exact Keeps.pure hr.1
  | error e =>
      dsimp only
      split
      · next hnone =>
        subst hnone
        exact Esp.Keeps.pure (hr.2 rfl)
      · exact Esp.Keeps.throw

end Load

include hI hread hwrite in
theorem saveStore_keeps {s : RegistryStore} (hencode : B (registryStoreLayout.encode s)) :
    Esp.Keeps I (saveStore s) fun _ => True := by
  apply Esp.Keeps.bind (Q := fun _ => True)
  · apply nvs_keeps hI (fun _ => rfl)
    apply Esp.Keeps.lift (modifyBoard_keeps _)
    intro w hw
    exact hwrite w _ hw ⟨(hread w hw).stored, nofun⟩ id
  · rintro - -
    apply Esp.Keeps.bind (Q := fun _ => True)
    · apply nvs_keeps hI (fun _ => rfl)
      apply Esp.Keeps.lift (modifyBoard_keeps _)
      intro w hw
      refine hwrite w _ hw ⟨(hread w hw).stored, ?_⟩ id
      rintro bytes ⟨⟩
      exact hencode
    · rintro - -
      apply nvs_keeps hI (fun _ => rfl)
      apply Esp.Keeps.lift (modifyBoard_keeps _)
      intro w hw
      refine hwrite w _ hw ⟨?_, nofun⟩ fun hsome => by simp [hsome]
      intro bytes hbytes
      obtain ⟨hstored, hstaged⟩ := hread w hw
      cases hcase : w.board.registry.staged with
      | none =>
          rw [hcase] at hbytes
          exact hstored bytes (by simpa using hbytes)
      | some staged =>
          rw [hcase] at hbytes
          exact hstaged bytes (hcase.trans (by simpa using hbytes))

end Nvs

section Notifying

variable (hI : Unforeseen I) (hqueue : ∀ (message : Json) fd w, I w →
  I { w with board := queueWork fd message w.board })

include hI hqueue

/-- Frames do not matter for the predicate. -/
theorem broadcastEvent_keeps (e : String) :
    Esp.Keeps I (orchestratorStateBroadcastEvent (CStr.lit e) none) fun _ => True := by
  apply orchestratorStateBroadcastEvent_keeps (M := fun _ => True) hI
  · refine (hI.allocate (eventMessage_built texts_true trivial ?_)).weaken
      fun _ _ _ _ => trivial
    exact nofun
  · exact fun message _ => hqueue message

theorem broadcastSnapshot_keeps : Esp.Keeps I orchestratorStateBroadcastSnapshot fun _ => True := by
  apply orchestratorStateBroadcastSnapshot_keeps (M := fun _ => True) (B := fun _ => True) hI
  · exact fun _ _ => trivial
  · intro b _
    have hstrings : b.state.Strings fun _ => True := ⟨trivial, trivial⟩
    exact (hI.allocate (snapshotMessage_built texts_true hstrings)).weaken
      fun _ _ _ _ => trivial
  · exact fun message _ => hqueue message

end Notifying

/-- A predicate on the blobs in flash, which frames do not matter for. -/
theorem StoreInvariant.of_flash {B : List UInt8 → Prop} (hI : UnforeseenNvs I)
    (hread : ∀ w, I w → w.board.registry.All B)
    (hwrite : ∀ w n, I w → n.All B → I { w with board := { w.board with registry := n } })
    (hqueue : ∀ (message : Json) fd w, I w →
      I { w with board := queueWork fd message w.board })
    (hload : ∀ bytes, B bytes → D (loadBlob bytes))
    (hencode : ∀ s, D s → B (registryStoreLayout.encode s)) (hempty : D initEmptyStore) :
    StoreInvariant D I where
  toUnforeseen := hI.toUnforeseen
  load := loadStore_keeps hI fun w hw _ hs => (hread w hw).of_read hload hempty hs
  save s hs := saveStore_keeps hI hread (fun w n hw hn _ => hwrite w n hw hn) (hencode s hs)
  event := broadcastEvent_keeps hI.toUnforeseen hqueue
  snapshot := broadcastSnapshot_keeps hI.toUnforeseen hqueue

/-! ## Reading -/

section Reading

variable (h : LoadInvariant D I)

include h

theorem allocStore_keeps : Esp.Keeps I allocStore fun _ => True := by
  apply Esp.Keeps.bind (Esp.Keeps.lift h.malloc)
  rintro ok -
  split
  · exact Esp.Keeps.pure trivial
  · exact Esp.Keeps.throw

/-- The two calls with which every function begins. -/
theorem load_keeps {α : Type} {k : RegistryStore → Esp α} {Q : α → Prop}
    (hk : ∀ s, D s → Esp.Keeps I (k s) Q) :
    Esp.Keeps I (allocStore >>= fun _ => loadStore >>= k) Q :=
  Esp.Keeps.bind (allocStore_keeps h) fun _ _ => Esp.Keeps.bind h.load hk

/-- A device that is returned is the first with its id in a store of `D`. -/
theorem deviceRegistryGetDevice_keeps (deviceId : CStr) :
    Esp.Keeps I (deviceRegistryGetDevice deviceId) fun r =>
      ∃ s, D s ∧ s.devices.find? (hasId deviceId.bytes) = some r := by
  apply load_keeps h
  intro s hs
  cases hfind : s.devices.find? (hasId deviceId.bytes) with
  | some r => exact Esp.Keeps.pure ⟨s, hs, hfind⟩
  | none => exact Esp.Keeps.throw

theorem deviceRegistryFindCapability_keeps (deviceId : CStr)
    (semanticType : DeviceCapabilitySemanticType) :
    Esp.Keeps I (deviceRegistryFindCapability deviceId semanticType) fun _ => True := by
  apply Esp.Keeps.bind (deviceRegistryGetDevice_keeps h deviceId)
  rintro r -
  cases r.ofType semanticType with
  | some c => exact Esp.Keeps.pure trivial
  | none => exact Esp.Keeps.throw

theorem deviceRegistryToJson_keeps {P : CStr → Prop} (ht : Texts P)
    (hD : ∀ s, D s → ∀ r ∈ s.devices, r.Strings P) :
    Keeps I deviceRegistryToJson fun tree => ∀ t ∈ tree, Built P t := by
  apply Keeps.bind h.malloc
  rintro ok -
  split
  · apply Keeps.pure
    rintro t ⟨⟩
  · apply Keeps.bind h.load
    rintro (e | s) hs
    · apply Keeps.pure
      rintro t ⟨⟩
    · exact h.allocate (devicesToJson_built ht (hD s (hs s rfl)))

/-- No label is set when no store has the device. -/
theorem deviceRegistryRenameDevice_refused {deviceId : CStr} (label : CStr)
    (hnone : ∀ s, D s → findRecord s deviceId.bytes = none) :
    Esp.Keeps I (deviceRegistryRenameDevice deviceId label) fun _ => False := by
  apply load_keeps h
  intro s hs
  rw [hnone s hs]
  exact Esp.Keeps.throw

end Reading

/-! ## Writing -/

variable (h : StoreInvariant D I)

include h

theorem saveAndNotify_keeps {s : RegistryStore} (hs : D s) :
    Esp.Keeps I (saveAndNotify s) fun _ => True := by
  apply Esp.Keeps.bind (h.save s hs)
  rintro - -
  exact Esp.Keeps.bind (h.event _).ignore fun _ _ => h.snapshot.ignore

theorem deviceRegistryInit_keeps : Esp.Keeps I deviceRegistryInit fun _ => True :=
  load_keeps h.toLoadInvariant h.save

theorem deviceRegistryUpsertDevice_keeps {record : DeviceRecord}
    (hreplace : ∀ s i, D s → findRecord s record.deviceId.toList = some i →
      D { s with records := s.records.setIfInBounds i record })
    (happend : ∀ s, D s → findRecord s record.deviceId.toList = none →
      s.count.toNat < maxRecords → D { s with
        count := s.count + 1
        records := s.records.setIfInBounds s.count.toNat record }) :
    Esp.Keeps I (deviceRegistryUpsertDevice record) fun _ => True := by
  unfold deviceRegistryUpsertDevice
  split
  · exact Esp.Keeps.throw
  · apply load_keeps h.toLoadInvariant
    intro s hs
    cases hfind : findRecord s record.deviceId.toList with
    | some i => exact saveAndNotify_keeps h (hreplace s i hs hfind)
    | none =>
        dsimp only
        split
        · exact Esp.Keeps.throw
        · next hroom => exact saveAndNotify_keeps h (happend s hs hfind (Nat.lt_of_not_le hroom))

theorem deviceRegistryRemoveDevice_keeps {deviceId : CStr}
    (hremove : ∀ s i, D s → findRecord s deviceId.bytes = some i → D { s with
      records := CountedArray.shiftDown s.records i s.count.toNat
      count := s.count - 1 }) :
    Esp.Keeps I (deviceRegistryRemoveDevice deviceId) fun _ => True := by
  apply load_keeps h.toLoadInvariant
  intro s hs
  cases hfind : findRecord s deviceId.bytes with
  | some i => exact saveAndNotify_keeps h (hremove s i hs hfind)
  | none => exact Esp.Keeps.throw

theorem deviceRegistryRenameDevice_keeps {deviceId label : CStr}
    (hrename : ∀ s i, D s → findRecord s deviceId.bytes = some i →
      D { s with records := setLabel s.records i label }) :
    Esp.Keeps I (deviceRegistryRenameDevice deviceId label) fun _ => True := by
  apply load_keeps h.toLoadInvariant
  intro s hs
  cases hfind : findRecord s deviceId.bytes with
  | some i => exact saveAndNotify_keeps h (hrename s i hs hfind)
  | none => exact Esp.Keeps.throw

end Orchestrator.Registry
