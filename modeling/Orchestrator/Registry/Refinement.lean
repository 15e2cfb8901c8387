import Orchestrator.Registry.Directory

/-!
# The registry refines the directory

Each function of the registry, started on a board whose flash represents a
directory, gives the answer of the directory and leaves flash representing the
new one. An NVS failure in between is returned and changes nothing.
-/

namespace Orchestrator.Registry

open Lib Handler

variable {calm : Prop} {m m' : DeviceMap} {s : RegistryStore} {α : Type}

/-- What is stored on the board represents the directory. -/
def Holds (m : DeviceMap) (b : Board) : Prop := ∃ s, Represents s m ∧ Reads s b

/-- Without an NVS failure the function gives this answer and this directory. -/
def Answers (calm : Prop) (op : Esp α) (m : DeviceMap) (answer : EspResult α × DeviceMap) : Prop :=
  ∀ s, Represents s m →
    Attempt calm (Reads s) (Reads s) op fun r b => r = answer.1 ∧ Holds answer.2 b

theorem Answers.keeping {op : Esp α} {r : EspResult α}
    (h : ∀ s, Represents s m → Attempt calm (Reads s) (Reads s) op fun r' b => r' = r ∧ Reads s b) :
    Answers calm op m (r, m) := by
  intro s hs
  exact (h s hs).weaken (fun _ hb => hb) fun _ _ ⟨hr, hb⟩ => ⟨hr, s, hs, hb⟩

theorem saveAndNotify_holds {t : RegistryStore} (h : Represents t m') :
    Attempt calm (Reads s) (Reads s) (saveAndNotify t) fun r b => r = .ok ⟨⟩ ∧ Holds m' b :=
  (saveAndNotify_attempt h.accepted).weaken (fun _ hb => hb) fun _ _ ⟨hr, hb⟩ => ⟨hr, t, h, hb⟩

/-! ## Function by function -/

theorem deviceRegistryInit_answers : Answers calm deviceRegistryInit m (.ok ⟨⟩, m) := by
  apply Answers.keeping
  intro s hs
  apply Attempt.bindOk allocStore_attempt
  apply Attempt.bindOk loadStore_attempt
  exact saveStore_attempt hs.accepted

theorem deviceRegistryUpsertDevice_answers {r : DeviceRecord} (hr : r.Proper) :
    Answers calm (deviceRegistryUpsertDevice r) m (m.upsertDevice r) := by
  intro s hs
  have hvalid : ¬(r.deviceId[0] = 0 ∨ deviceRegistryCapabilityMax < r.capabilityCount) := by
    rintro (hzero | hlt)
    · exact hr.named hzero
    · exact UInt32.not_lt.mpr hr.capabilityCount hlt
  unfold deviceRegistryUpsertDevice
  rw [if_neg hvalid]
  refine Attempt.bindOk allocStore_attempt (Attempt.bindOk loadStore_attempt ?_)
  cases hfind : findRecord s r.deviceId.toList with
  | some i =>
      obtain ⟨m', hupsert, hentries⟩ :=
        BoundedMap.upsert_of_present (a := r) ((hs.findRecord_eq _).symm.trans hfind)
      have hanswer : m.upsertDevice r = (.ok ⟨⟩, m') := by
        unfold DeviceMap.upsertDevice
        rw [hupsert]
      rw [hanswer]
      exact saveAndNotify_holds (hs.set hr hentries)
  | none =>
      have habsent := (hs.findRecord_eq _).symm.trans hfind
      dsimp only
      split
      · next hfull =>
        have hanswer : m.upsertDevice r = (.error EspErr.noMem, m) := by
          unfold DeviceMap.upsertDevice
          rw [BoundedMap.upsert_of_full habsent
            (by rw [hs.length_entries]; exact Nat.not_lt.mpr hfull)]
        rw [hanswer]
        exact Attempt.throw fun b hb => ⟨rfl, s, hs, hb⟩
      · next hroom =>
        have hlt : s.count.toNat < maxRecords := Nat.lt_of_not_le hroom
        obtain ⟨m', hupsert, hentries⟩ :=
          BoundedMap.upsert_of_absent habsent (by rw [hs.length_entries]; exact hlt)
        have hanswer : m.upsertDevice r = (.ok ⟨⟩, m') := by
          unfold DeviceMap.upsertDevice
          rw [hupsert]
        rw [hanswer]
        exact saveAndNotify_holds (hs.append hr hlt hentries)

theorem deviceRegistryGetDevice_attempt (hs : Represents s m) (deviceId : CStr) :
    Attempt calm (Reads s) (Reads s) (deviceRegistryGetDevice deviceId) fun r b =>
      r = m.get deviceId ∧ Reads s b := by
  refine Attempt.bindOk allocStore_attempt (Attempt.bindOk loadStore_attempt ?_)
  unfold DeviceMap.get
  rw [hs.find?_eq]
  cases m.lookup deviceId with
  | some r => exact Attempt.pure fun b hb => ⟨rfl, hb⟩
  | none => exact Attempt.throw fun b hb => ⟨rfl, hb⟩

theorem deviceRegistryFindCapability_attempt (hs : Represents s m) (deviceId : CStr)
    (semanticType : DeviceCapabilitySemanticType) :
    Attempt calm (Reads s) (Reads s) (deviceRegistryFindCapability deviceId semanticType) fun r b =>
      r = m.findCapability deviceId semanticType ∧ Reads s b := by
  have hget : Attempt calm (Reads s) (Reads s) (deviceRegistryGetDevice deviceId) fun r b =>
      r = m.get deviceId ∧ Reads s b := deviceRegistryGetDevice_attempt hs deviceId
  unfold DeviceMap.get at hget
  unfold DeviceMap.findCapability
  cases hlookup : m.lookup deviceId with
  | some r =>
      rw [hlookup] at hget
      refine Attempt.bindOk hget ?_
      rw [ofType_eq]
      dsimp only
      cases (capabilitiesOf r).find? fun c => c.semanticType = semanticType with
      | some c => exact Attempt.pure fun b hb => ⟨rfl, hb⟩
      | none => exact Attempt.throw fun b hb => ⟨rfl, hb⟩
  | none =>
      rw [hlookup] at hget
      refine Attempt.bind hget ?_ ?_
      · intro r failures w hw
        cases hw.board.1
      · rintro e b ⟨heq, hb⟩
        exact ⟨congrArg Except.error (Except.error.inj heq), hb⟩

theorem deviceRegistryRemoveDevice_answers (deviceId : CStr) :
    Answers calm (deviceRegistryRemoveDevice deviceId) m (m.remove deviceId) := by
  intro s hs
  refine Attempt.bindOk allocStore_attempt (Attempt.bindOk loadStore_attempt ?_)
  unfold DeviceMap.remove
  cases hfind : findRecord s deviceId.bytes with
  | some i =>
      obtain ⟨hi, hentry, r, hlookup, -⟩ := hs.found hfind
      rw [hlookup]
      exact saveAndNotify_holds (hs.eraseIdx hi (BoundedMap.entries_erase hentry))
  | none =>
      rw [hs.notFound hfind]
      exact Attempt.throw fun b hb => ⟨rfl, s, hs, hb⟩

theorem DeviceRecord.Proper.relabel {r : DeviceRecord} (h : r.Proper) (label : CStr) :
    (r.relabel label).Proper :=
  { h with label := CharArray.terminated_copyField 31 label }

theorem deviceRegistryRenameDevice_answers (deviceId label : CStr) :
    Answers calm (deviceRegistryRenameDevice deviceId label) m (m.rename deviceId label) := by
  intro s hs
  refine Attempt.bindOk allocStore_attempt (Attempt.bindOk loadStore_attempt ?_)
  unfold DeviceMap.rename
  cases hfind : findRecord s deviceId.bytes with
  | some i =>
      obtain ⟨hi, hentry, r, hlookup, hr⟩ := hs.found hfind
      obtain ⟨r', hr', hset⟩ := setLabel_eq hi hs.count label
      rw [hs.devices, hr] at hr'
      cases hr'
      have hproper : r.Proper := hs.proper r (List.mem_of_getElem? hr)
      rw [hlookup]
      dsimp only
      rw [hset]
      apply saveAndNotify_holds
      refine hs.set (hproper.relabel label) (BoundedMap.entries_modify hentry ?_)
      intro a ha
      rw [hr] at ha
      cases ha
      exact (relabel_eq label r).symm
  | none =>
      rw [hs.notFound hfind]
      exact Attempt.throw fun b hb => ⟨rfl, s, hs, hb⟩

/-! ## Sequences of calls -/

inductive Call
  | init
  | upsertDevice (record : ProperRecord)
  | getDevice (deviceId : CStr)
  | removeDevice (deviceId : CStr)
  | renameDevice (deviceId label : CStr)
  | findCapability (deviceId : CStr) (semanticType : DeviceCapabilitySemanticType)
  | toJson

inductive Reply
  | done (result : EspResult Unit)
  | device (result : EspResult DeviceRecord)
  | capability (result : EspResult (DeviceRecord × DeviceCapability))
  | json (tree : Option Json)

namespace Call

/-- The call as the program makes it. -/
def run : Call → Handler Reply
  | init => Reply.done <$> deviceRegistryInit.run
  | upsertDevice record => Reply.done <$> (deviceRegistryUpsertDevice record.val).run
  | getDevice deviceId => Reply.device <$> (deviceRegistryGetDevice deviceId).run
  | removeDevice deviceId => Reply.done <$> (deviceRegistryRemoveDevice deviceId).run
  | renameDevice deviceId label => Reply.done <$> (deviceRegistryRenameDevice deviceId label).run
  | findCapability deviceId semanticType =>
      Reply.capability <$> (deviceRegistryFindCapability deviceId semanticType).run
  | toJson => Reply.json <$> deviceRegistryToJson

/-- The call on the directory. -/
def answer (m : DeviceMap) : Call → Reply × DeviceMap
  | init => (.done (.ok ⟨⟩), m)
  | upsertDevice record =>
      (.done (m.upsertDevice record.val).1, (m.upsertDevice record.val).2)
  | getDevice deviceId => (.device (m.get deviceId), m)
  | removeDevice deviceId => (.done (m.remove deviceId).1, (m.remove deviceId).2)
  | renameDevice deviceId label => (.done (m.rename deviceId label).1, (m.rename deviceId label).2)
  | findCapability deviceId semanticType =>
      (.capability (m.findCapability deviceId semanticType), m)
  | toJson => (.json (some m.toJson), m)

/-- The reply to a call in which an NVS call fails. -/
def failure (err : EspErr) : Call → Reply
  | init | upsertDevice _ | removeDevice _ | renameDevice _ _ => .done (.error err)
  | getDevice _ => .device (.error err)
  | findCapability _ _ => .capability (.error err)
  | toJson => .json none

/-- The call on the directory with the NVS failure that interrupts it, if there is one. -/
def answerWith (m : DeviceMap) (call : Call) : Option EspErr → Reply × DeviceMap
  | none => call.answer m
  | some err => (call.failure err, m)

end Call

/-- What is seen of a call: its reply and the NVS failures in it. -/
structure Observation where
  reply : Reply
  failures : List EspErr

def observe (call : Call) : Handler Observation := do
  let before ← get
  let reply ← call.run
  let after ← get
  return { reply, failures := after.nvsFailures.drop before.nvsFailures.length }

def observeAll : List Call → Handler (List Observation)
  | [] => return []
  | call :: calls => do
      let observation ← observe call
      let observations ← observeAll calls
      return observation :: observations

/-- The replies of the directory to a sequence of calls, and the directory after it. -/
def answerAll : DeviceMap → List (Call × Option EspErr) → List Reply × DeviceMap
  | m, [] => ([], m)
  | m, (call, fault) :: rest =>
      let answer := call.answerWith m fault
      let answers := answerAll answer.2 rest
      (answer.1 :: answers.1, answers.2)

/-! ## One call -/

variable {failures : List EspErr}

/-- The reply is that of the directory, up to the NVS failure on record. -/
def Refines (calm : Prop) (m : DeviceMap) (call : Call) (failures : List EspErr) (reply : Reply)
    (w : World) : Prop :=
  ∃ fault : Option EspErr, reply = (call.answerWith m fault).1 ∧
    Ready calm (Holds (call.answerWith m fault).2) (failures ++ fault.toList) w

/-- What a function answers is what the call that wraps it replies. -/
theorem Answers.refines {op : Esp α} {answer : EspResult α × DeviceMap} {call : Call}
    {wrap : EspResult α → Reply} (h : Answers calm op m answer)
    (hrun : call.run = wrap <$> op.run)
    (hanswer : call.answer m = (wrap answer.1, answer.2))
    (hfailure : ∀ e, call.failure e = wrap (.error e)) :
    Triple (Ready calm (Holds m) failures) call.run (Refines calm m call failures) := by
  intro w hw
  obtain ⟨s, hs, hreads⟩ := hw.board
  rw [hrun]
  rcases h s hs failures w { hw with board := hreads } with hdone | ⟨e, heq, -, -, hready⟩
  · refine ⟨none, ?_, ?_⟩
    · rw [Call.answerWith, hanswer]
      exact congrArg wrap hdone.board.1
    · rw [Call.answerWith, hanswer, Option.toList_none, List.append_nil]
      exact hdone.mono fun b hb => hb.2
  · refine ⟨some e, ?_, ?_⟩
    · rw [Call.answerWith, hfailure]
      exact congrArg wrap heq
    · exact hready.mono fun b hb => ⟨s, hs, hb⟩

theorem deviceRegistryToJson_ready :
    Triple (Ready calm (Reads s) failures) deviceRegistryToJson fun tree w =>
      (tree = some (devicesTree s.devices) ∧ Ready calm (Reads s) failures w) ∨
        ∃ e, tree = none ∧ Ready calm (Reads s) (failures ++ [e]) w := by
  refine Keeps.bindTriple malloc_ready ?_
  rintro _ rfl
  rw [if_neg Bool.noConfusion]
  refine Triple.bind (loadStore_attempt failures) ?_
  rintro (e | store) w (hready | ⟨e', heq, -, -, hready⟩)
  · cases hready.board.1
  · exact .inr ⟨e', rfl, hready⟩
  · obtain rfl := Except.ok.inj hready.board.1
    have htree : Keeps (Ready calm (Reads store) failures) (allocate (devicesToJson store.devices))
        fun tree => tree = some (devicesTree store.devices) :=
      Unforeseen.allocate_yields (fun w hw => hw.allocs) (devicesToJson_yields _)
    obtain ⟨hafter, heq⟩ := htree w (hready.mono fun b hb => hb.2)
    exact .inl ⟨heq, hafter⟩
  · cases heq

theorem deviceRegistryToJson_refines :
    Triple (Ready calm (Holds m) failures) Call.toJson.run
      (Refines calm m Call.toJson failures) := by
  intro w hw
  obtain ⟨s, hs, hreads⟩ := hw.board
  rcases deviceRegistryToJson_ready w { hw with board := hreads } with
    ⟨htree, hready⟩ | ⟨e, htree, hready⟩
  · rw [hs.devices, devicesTree_eq_toJson] at htree
    refine ⟨none, congrArg Reply.json htree, ?_⟩
    rw [Option.toList_none, List.append_nil]
    exact hready.mono fun b hb => ⟨s, hs, hb⟩
  · exact ⟨some e, congrArg Reply.json htree, hready.mono fun b hb => ⟨s, hs, hb⟩⟩

theorem run_refines (call : Call) :
    Triple (Ready calm (Holds m) failures) call.run (Refines calm m call failures) := by
  cases call with
  | init => exact deviceRegistryInit_answers.refines rfl rfl fun _ => rfl
  | upsertDevice record =>
      exact (deviceRegistryUpsertDevice_answers record.property).refines rfl rfl fun _ => rfl
  | getDevice deviceId =>
      have hget : Answers calm (deviceRegistryGetDevice deviceId) m (m.get deviceId, m) :=
        Answers.keeping fun s hs => deviceRegistryGetDevice_attempt hs deviceId
      exact hget.refines rfl rfl fun _ => rfl
  | removeDevice deviceId =>
      exact (deviceRegistryRemoveDevice_answers deviceId).refines rfl rfl fun _ => rfl
  | renameDevice deviceId label =>
      exact (deviceRegistryRenameDevice_answers deviceId label).refines rfl rfl fun _ => rfl
  | findCapability deviceId semanticType =>
      have hfind : Answers calm (deviceRegistryFindCapability deviceId semanticType) m
          (m.findCapability deviceId semanticType, m) :=
        Answers.keeping fun s hs => deviceRegistryFindCapability_attempt hs deviceId semanticType
      exact hfind.refines rfl rfl fun _ => rfl
  | toJson => exact deviceRegistryToJson_refines

/-! ## Whole runs -/

/-- What is seen of a sequence of calls is what the directory replies, with at
most one NVS failure for each call, and flash holds the directory after it. -/
theorem observeAll_refines (calls : List Call) : Triple (Ready calm (Holds m) failures)
    (observeAll calls) fun observations w =>
      ∃ faults : List (Option EspErr), faults.length = calls.length ∧
        observations.map Observation.failures = faults.map Option.toList ∧
        observations.map Observation.reply = (answerAll m (calls.zip faults)).1 ∧
        ∃ later, Ready calm (Holds (answerAll m (calls.zip faults)).2) later w := by
  induction calls generalizing m failures with
  | nil =>
      intro w hw
      exact ⟨[], rfl, rfl, rfl, failures, hw⟩
  | cons call calls ih =>
      have hobserve : Triple (Ready calm (Holds m) failures) (observe call) fun observation w =>
          ∃ fault : Option EspErr, observation.failures = fault.toList ∧
            observation.reply = (call.answerWith m fault).1 ∧
            Ready calm (Holds (call.answerWith m fault).2) (failures ++ fault.toList) w := by
        intro w hw
        obtain ⟨fault, hreply, hready⟩ := run_refines call w hw
        refine ⟨fault, ?_, hreply, hready⟩
        calc (observe call w).1.failures
          _ = (call.run w).2.nvsFailures.drop w.nvsFailures.length := rfl
          _ = (failures ++ fault.toList).drop failures.length := by
              rw [hready.failures, hw.failures]
          _ = fault.toList := List.drop_left
      refine Triple.bind hobserve ?_
      rintro observation w ⟨fault, hfault, hreply, hready⟩
      obtain ⟨faults, hlength, hfailures, hreplies, later, hlater⟩ := ih w hready
      refine ⟨fault :: faults, congrArg Nat.succ hlength, ?_, ?_, later, hlater⟩
      · exact congrArg₂ List.cons hfault hfailures
      · exact congrArg₂ List.cons hreply hreplies

theorem holds_empty {b : Board} (h : b.registry.stored.join = none) :
    Holds BoundedMap.empty b := by
  refine ⟨initEmptyStore, Represents.initEmptyStore, ?_⟩
  unfold Reads RegistryNvs.read
  rw [h]

/-- From an absent blob on, what is seen of the registry is what is seen of the
directory, whichever NVS calls fail, and what is stored represents it. -/
theorem registry_refines_directory (calls : List Call) (w : World)
    (hblob : w.board.registry.stored.join = none) (hallocs : w.allocs = allSucceed)
    (hheap : w.heap = allSucceed) :
    ∃ faults : List (Option EspErr), faults.length = calls.length ∧
      (observeAll calls w).1.map Observation.failures = faults.map Option.toList ∧
      (observeAll calls w).1.map Observation.reply =
        (answerAll BoundedMap.empty (calls.zip faults)).1 ∧
      Holds (answerAll BoundedMap.empty (calls.zip faults)).2 (observeAll calls w).2.board := by
  obtain ⟨faults, hlength, hfailures, hreplies, later, hlater⟩ :=
    observeAll_refines calls w ⟨hallocs, hheap, False.elim, holds_empty hblob, rfl⟩
  exact ⟨faults, hlength, hfailures, hreplies, hlater.board⟩

theorem proper_greenhouse : greenhouse.Proper where
  deviceId := by decide
  named := by decide
  label := by decide
  productName := by decide
  location := by decide
  capabilityCount := by decide
  capabilities := by decide

/-- Two nodes are stored; one is found, renamed beyond its field, listed and removed twice. -/
def gardenCalls : List Call :=
  let shed : DeviceRecord := { greenhouse with
    deviceId := CharArray.copyField 32 (CStr.lit "node-8")
    nodeId := 8 }
  have hshed : shed.Proper := { proper_greenhouse with
    deviceId := by decide
    named := by decide }
  [.init, .upsertDevice ⟨greenhouse, proper_greenhouse⟩, .upsertDevice ⟨shed, hshed⟩,
    .findCapability (CStr.lit "node-7") .relay,
    .renameDevice (CStr.lit "node-7") (CStr.lit "the greenhouse at the end of the long garden"),
    .findCapability (CStr.lit "node-7") .pressure, .toJson,
    .removeDevice (CStr.lit "node-7"), .getDevice (CStr.lit "node-7"),
    .removeDevice (CStr.lit "node-7"), .getDevice (CStr.lit "node-7"), .toJson]

/-- Erased flash, on which the first removal will not be committed. -/
def wornFlash : World :=
  let worn : NvsFailure := ⟨EspErr.espFail, EspErr.espFail_ne_nvsNotFound⟩
  { World.calm Board.erased with nvs := fun k => if k = 29 then some worn else none }

theorem registry_refines_directory_garden :
    ∃ faults : List (Option EspErr), faults.length = gardenCalls.length ∧
      (observeAll gardenCalls wornFlash).1.map Observation.failures = faults.map Option.toList ∧
      (observeAll gardenCalls wornFlash).1.map Observation.reply =
        (answerAll BoundedMap.empty (gardenCalls.zip faults)).1 ∧
      Holds (answerAll BoundedMap.empty (gardenCalls.zip faults)).2
        (observeAll gardenCalls wornFlash).2.board :=
  registry_refines_directory gardenCalls wornFlash rfl rfl rfl

end Orchestrator.Registry
