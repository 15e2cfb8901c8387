import Orchestrator.Commands.Thread
import Orchestrator.Lib.Hex

/-!
# The initial dataset, call by call

`thread_dataset_init` takes the lock of OpenThread and allocates a dataset before
it looks at the texts, and gives both back on every way out. Here the calls are on
record, the present flags are part of the dataset, and the hexadecimal texts are
decoded into the fields of the dataset in place.
-/

namespace Orchestrator.Commands.Dataset

open Lib Handler

/-! ## Hexadecimal texts -/

/-- The loop of `hex_string_to_bytes` from byte `i` on, with the size it returns. -/
def decodeFrom {n : Nat} (hexString : CStr) (i : Nat) (outputBuffer : Vector UInt8 n) :
    Vector UInt8 n × Nat :=
  if h : i < n then
    match hexCharToInt (hexString.bytes.getD (i * 2) 0),
        hexCharToInt (hexString.bytes.getD (i * 2 + 1) 0) with
    | some high, some low => decodeFrom hexString (i + 1) (outputBuffer.set i (high <<< 4 ||| low))
    | _, _ => (outputBuffer, 0)
  else (outputBuffer, n)
termination_by n - i

/-- `hex_string_to_bytes` -/
def hexStringToBuffer {n : Nat} (hexString : CStr) (outputBuffer : Vector UInt8 n) :
    Vector UInt8 n × Nat :=
  if hexString.length ≠ n * 2 then (outputBuffer, 0) else decodeFrom hexString 0 outputBuffer

/-- A text of exactly so many hexadecimal digits. -/
def IsHexString (digits : Nat) (s : CStr) : Prop :=
  s.length = digits ∧ ∀ c ∈ s.bytes, Hex.IsDigit c

/-! ### What the decoder accepts -/

section Hex

variable {c n : UInt8} {text bytes : List UInt8}

theorem hasValue_of_hexCharToInt (h : hexCharToInt c = some n) : Hex.HasValue c n := by
  have hall : ∀ i : Fin 256, ∀ n ∈ hexCharToInt (UInt8.ofFin i),
      n < 16 ∧ Hex.lower (UInt8.ofFin i) = Hex.digit n := by decide +kernel
  exact hall c.toFin n h

theorem hexCharToInt_eq_some_iff : hexCharToInt c = some n ↔ Hex.HasValue c n := by
  refine ⟨hasValue_of_hexCharToInt, fun h => ?_⟩
  have hall : ∀ i : Fin 256, (hexCharToInt (UInt8.ofFin i)).isSome ∨
      ∀ n : Fin 16, Hex.lower (UInt8.ofFin i) ≠ Hex.digit (UInt8.ofNat n) := by decide +kernel
  rcases hall c.toFin with hsome | hnone
  · obtain ⟨m, hm⟩ := Option.isSome_iff_exists.mp hsome
    rw [← (hasValue_of_hexCharToInt hm).unique h]
    exact hm
  · have hne := hnone ⟨n.toNat, h.1⟩
    rw [UInt8.ofNat_toNat] at hne
    exact absurd h.2 hne

theorem hexPairs_eq_some_iff : hexPairs text = some bytes ↔ Hex.Denotes text bytes := by
  induction text using List.twoStepInduction generalizing bytes with
  | nil => simp [hexPairs, Hex.denotes_nil, eq_comm]
  | singleton c => exact iff_of_false nofun Hex.not_denotes_singleton
  | cons_cons c d text ih _ =>
      rw [Hex.denotes_cons_cons]
      simp only [← hexCharToInt_eq_some_iff, ← ih]
      rw [hexPairs]
      cases hexCharToInt c with
      | none => simp
      | some high =>
          cases hexCharToInt d with
          | none => simp
          | some low => cases hexPairs text <;> simp [eq_comm]

/-- The text is decoded exactly when it is the hexadecimal form of the bytes. -/
theorem hexStringToBytes_eq_some_iff {outputSize : Nat} {s : CStr}
    {output : Vector UInt8 outputSize} :
    hexStringToBytes outputSize s = some output ↔ Hex.Denotes s.bytes output.toList := by
  unfold hexStringToBytes
  rw [← hexPairs_eq_some_iff]
  cases hexPairs s.bytes with
  | none => simp
  | some bytes =>
      simp only [Option.some.injEq]
      constructor
      · intro h
        split at h
        · cases h
          simp [Vector.toList]
        · cases h
      · intro h
        cases h
        exact dif_pos output.length_toList

theorem isSome_hexStringToBytes {m : Nat} {s : CStr} :
    (hexStringToBytes m s).isSome ↔ IsHexString (2 * m) s := by
  rw [Option.isSome_iff_exists]
  constructor
  · rintro ⟨output, h⟩
    have hdenotes := hexStringToBytes_eq_some_iff.mp h
    refine ⟨?_, Hex.isDigit_of_denotes hdenotes⟩
    have hlength := hdenotes.length_eq
    rwa [Vector.length_toList] at hlength
  · rintro ⟨hlength, hdigits⟩
    obtain ⟨bytes, rfl, hdenotes⟩ := Hex.exists_denotes hlength hdigits
    refine ⟨⟨bytes.toArray, by simp⟩, hexStringToBytes_eq_some_iff.mpr ?_⟩
    simpa [Vector.toList] using hdenotes

end Hex

/-! ### The loop -/

section Loop

variable {n i : Nat} {hexString : CStr}

theorem drop_eq_cons_cons {bytes : List UInt8} (hlength : bytes.length = n * 2) (hi : i < n) :
    bytes.drop (i * 2) =
      bytes.getD (i * 2) 0 :: bytes.getD (i * 2 + 1) 0 :: bytes.drop ((i + 1) * 2) := by
  have hhigh : i * 2 < bytes.length := by omega
  have hlow : i * 2 + 1 < bytes.length := by omega
  rw [List.drop_eq_getElem_cons hhigh, List.drop_eq_getElem_cons hlow,
    List.getD_eq_getElem?_getD, List.getD_eq_getElem?_getD, List.getElem?_eq_getElem hhigh,
    List.getElem?_eq_getElem hlow, Nat.succ_mul]
  rfl

/-- The bytes before `i` stay, and the others become what the rest of the text denotes. -/
theorem decodeFrom_spec (hlength : hexString.length = n * 2) (hi : i ≤ n)
    (outputBuffer : Vector UInt8 n) :
    match hexPairs (hexString.bytes.drop (i * 2)) with
    | some rest => ∃ output, decodeFrom hexString i outputBuffer = (output, n) ∧
        output.toList = outputBuffer.toList.take i ++ rest
    | none => (decodeFrom hexString i outputBuffer).2 = 0 := by
  induction i, outputBuffer using decodeFrom.induct hexString with
  | case1 i outputBuffer hlt high low hlow hhigh ih =>
      have hstep : decodeFrom hexString i outputBuffer =
          decodeFrom hexString (i + 1) (outputBuffer.set i (high <<< 4 ||| low)) := by
        rw [decodeFrom, dif_pos hlt, hhigh, hlow]
      rw [hstep, drop_eq_cons_cons hlength hlt, hexPairs, hhigh, hlow]
      have hnext := ih hlt
      cases hrest : hexPairs (hexString.bytes.drop ((i + 1) * 2)) with
      | none =>
          rw [hrest] at hnext
          exact hnext
      | some rest =>
          rw [hrest] at hnext
          obtain ⟨output, heq, hbytes⟩ := hnext
          refine ⟨output, heq, ?_⟩
          have hsize : i < outputBuffer.toList.length := by rwa [Vector.length_toList]
          rw [hbytes, Vector.toList_set, List.take_succ_eq_append_getElem (by simpa using hsize),
            List.take_set_of_le (Nat.le_refl i), List.getElem_set_self, List.append_assoc]
          rfl
  | case2 i outputBuffer hlt hnone =>
      rw [drop_eq_cons_cons hlength hlt, hexPairs, decodeFrom, dif_pos hlt]
      cases hhigh : hexCharToInt (hexString.bytes.getD (i * 2) 0) with
      | none => rfl
      | some high =>
          cases hlow : hexCharToInt (hexString.bytes.getD (i * 2 + 1) 0) with
          | none => rfl
          | some low => exact (hnone high low hhigh hlow).elim
  | case3 i outputBuffer hge =>
      obtain rfl : i = n := Nat.le_antisymm hi (Nat.not_lt.mp hge)
      rw [List.drop_of_length_le (Nat.le_of_eq hlength), hexPairs, decodeFrom, dif_neg hge]
      refine ⟨outputBuffer, rfl, ?_⟩
      rw [List.append_nil, List.take_of_length_le (Nat.le_of_eq outputBuffer.length_toList)]

/-- The buffer is filled when the text is accepted, and no size is returned otherwise. -/
theorem hexStringToBuffer_spec (hexString : CStr) (outputBuffer : Vector UInt8 n) :
    match hexStringToBytes n hexString with
    | some output => hexStringToBuffer hexString outputBuffer = (output, n)
    | none => (hexStringToBuffer hexString outputBuffer).2 = 0 := by
  unfold hexStringToBuffer
  by_cases hlength : hexString.length = n * 2
  · rw [if_neg (not_not.mpr hlength)]
    have hloop := decodeFrom_spec hlength (Nat.zero_le n) outputBuffer
    rw [Nat.zero_mul, List.drop_zero] at hloop
    cases hpairs : hexPairs hexString.bytes with
    | none =>
        rw [hpairs] at hloop
        rw [hexStringToBytes, hpairs]
        exact hloop
    | some bytes =>
        rw [hpairs] at hloop
        obtain ⟨output, heq, hbytes⟩ := hloop
        rw [List.take_zero, List.nil_append] at hbytes
        subst hbytes
        rw [hexStringToBytes_eq_some_iff.mpr (hexPairs_eq_some_iff.mp hpairs)]
        exact heq
  · rw [if_pos hlength]
    have hnone : hexStringToBytes n hexString = none := by
      rw [← Option.not_isSome_iff_eq_none, isSome_hexStringToBytes, Nat.mul_comm 2 n]
      exact fun h => hlength h.1
    rw [hnone]

end Loop

/-! ## The dataset and the calls -/

/-- `otOperationalDatasetComponents`, as far as the function sets them. -/
structure Components where
  isActiveTimestampPresent : Bool
  isNetworkNamePresent : Bool
  isExtendedPanIdPresent : Bool
  isMeshLocalPrefixPresent : Bool
  isNetworkKeyPresent : Bool
  isPskcPresent : Bool
  isPanIdPresent : Bool
  isChannelPresent : Bool
  deriving DecidableEq, Repr

structure OtOperationalDataset extends OperationalDataset where
  components : Components
  deriving DecidableEq, Repr

/-- The memory that `calloc` returns. -/
def OtOperationalDataset.zeroed : OtOperationalDataset where
  activeTimestamp := 0
  networkName := default
  extendedPanId := Vector.replicate 8 0
  meshLocalPrefix := Vector.replicate 8 0
  networkKey := Vector.replicate 16 0
  pskc := Vector.replicate 16 0
  panId := 0
  channel := 0
  components := ⟨false, false, false, false, false, false, false, false⟩

/-- What the function calls, and what came of it. -/
inductive Call
  | lockAcquire (acquired : Bool)
  | lockRelease
  | calloc (allocated : Bool)
  | free
  | datasetSetActive (dataset : OtOperationalDataset) (succeeded : Bool)
  deriving DecidableEq, Repr

structure Session where
  world : World
  calls : List Call
  activeDataset : Option OtOperationalDataset

/-- Before the first call. -/
def Session.start (w : World) (activeDataset : Option OtOperationalDataset) : Session where
  world := w
  calls := []
  activeDataset := activeDataset

/-- The functions that OpenThread parses texts with. The prefix is a whole address. -/
structure Parsers where
  networkNameFromString : CStr → Option CStr
  ip6PrefixFromString : CStr → Option (Vector UInt8 16)

/-- The mesh-local prefix has the first eight bytes of the address. -/
def Parsers.meshLocalPrefix (parsers : Parsers) (s : CStr) : Option (Vector UInt8 8) :=
  (parsers.ip6PrefixFromString s).map (·.take 8)

def record (call : Call) : StateM Session Unit :=
  modify fun s => { s with calls := s.calls ++ [call] }

def onWorld {α : Type} (m : Handler α) : StateM Session α :=
  modifyGet fun s => ((m s.world).1, { s with world := (m s.world).2 })

/-- `esp_openthread_lock_acquire`, which waits for five seconds. -/
def espOpenthreadLockAcquire : StateM Session Bool := do
  let acquired := (← onWorld stackOutcome).isNone
  record (.lockAcquire acquired)
  return acquired

/-- `esp_openthread_lock_release` -/
def espOpenthreadLockRelease : StateM Session Unit := record .lockRelease

/-- `calloc` of one dataset. -/
def callocDataset : StateM Session (Option OtOperationalDataset) := do
  let allocated ← onWorld malloc
  record (.calloc allocated)
  return if allocated then some OtOperationalDataset.zeroed else none

def freeDataset : StateM Session Unit := record .free

/-- `otDatasetSetActive` -/
def otDatasetSetActive (dataset : OtOperationalDataset) : StateM Session Bool := do
  onWorld (hand (.datasetSetActive dataset.toOperationalDataset))
  let succeeded := (← onWorld stackOutcome).isNone
  record (.datasetSetActive dataset succeeded)
  if succeeded then modify fun s => { s with activeDataset := some dataset }
  return succeeded

/-- What follows a text that is rejected. -/
def giveUp : StateM Session (Except EspErr Unit) := do
  freeDataset
  espOpenthreadLockRelease
  return .error EspErr.espFail

/-- `thread_dataset_init` from the allocated dataset on. -/
def fillAndSetActive (parsers : Parsers) (channel panId : UInt16) (texts : DatasetTexts)
    (dataset : OtOperationalDataset) : StateM Session (Except EspErr Unit) :=
  let dataset := { dataset with
    activeTimestamp := 1
    components.isActiveTimestampPresent := true }
  let dataset := { dataset with channel := channel, components.isChannelPresent := true }
  let dataset := { dataset with panId := panId, components.isPanIdPresent := true }
  match parsers.networkNameFromString texts.networkName with
  | none => giveUp
  | some networkName =>
  let dataset := { dataset with
    networkName := networkName
    components.isNetworkNamePresent := true }
  match hexStringToBuffer texts.extendedPanId dataset.extendedPanId with
  | (extendedPanId, size) =>
  if size ≠ 8 then giveUp else
  let dataset := { dataset with
    extendedPanId := extendedPanId
    components.isExtendedPanIdPresent := true }
  match parsers.ip6PrefixFromString texts.meshLocalPrefix with
  | none => giveUp
  | some address =>
  let dataset := { dataset with
    meshLocalPrefix := address.take 8
    components.isMeshLocalPrefixPresent := true }
  match hexStringToBuffer texts.networkKey dataset.networkKey with
  | (networkKey, size) =>
  if size ≠ 16 then giveUp else
  let dataset := { dataset with
    networkKey := networkKey
    components.isNetworkKeyPresent := true }
  match hexStringToBuffer texts.pskc dataset.pskc with
  | (pskc, size) =>
  if size ≠ 16 then giveUp else do
  let dataset := { dataset with pskc := pskc, components.isPskcPresent := true }
  let succeeded ← otDatasetSetActive dataset
  freeDataset
  espOpenthreadLockRelease
  return if succeeded then .ok ⟨⟩ else .error EspErr.espFail

/-- `thread_dataset_init` -/
def threadDatasetInit (parsers : Parsers) (channel panId : UInt16) (texts : DatasetTexts) :
    StateM Session (Except EspErr Unit) := do
  if !(← get).world.board.openThread.instanceExists then
    return .error EspErr.invalidState
  else if !(← espOpenthreadLockAcquire) then
    return .error EspErr.espFail
  else match ← callocDataset with
    | none => do
        espOpenthreadLockRelease
        return .error EspErr.noMem
    | some dataset => fillAndSetActive parsers channel panId texts dataset

/-! ## Every way through the function -/

variable {parsers : Parsers} {channel panId : UInt16} {texts : DatasetTexts}

/-- Every flag that the function sets. -/
def Components.all : Components := ⟨true, true, true, true, true, true, true, true⟩

/-- The dataset with all its fields, unless a text is rejected. -/
def givenDataset (parsers : Parsers) (channel panId : UInt16) (texts : DatasetTexts) :
    Option OtOperationalDataset := do
  let networkName ← parsers.networkNameFromString texts.networkName
  let extendedPanId ← hexStringToBytes 8 texts.extendedPanId
  let meshLocalPrefix ← parsers.meshLocalPrefix texts.meshLocalPrefix
  let networkKey ← hexStringToBytes 16 texts.networkKey
  let pskc ← hexStringToBytes 16 texts.pskc
  return {
    activeTimestamp := 1
    networkName := networkName
    extendedPanId := extendedPanId
    meshLocalPrefix := meshLocalPrefix
    networkKey := networkKey
    pskc := pskc
    panId := panId
    channel := channel
    components := Components.all }

/-- The last part, in which nothing is rejected any more. -/
def setActive (dataset : OtOperationalDataset) : StateM Session (Except EspErr Unit) := do
  let succeeded ← otDatasetSetActive dataset
  freeDataset
  espOpenthreadLockRelease
  return if succeeded then .ok ⟨⟩ else .error EspErr.espFail

theorem fillAndSetActive_eq (dataset : OtOperationalDataset) :
    fillAndSetActive parsers channel panId texts dataset =
      match givenDataset parsers channel panId texts with
      | none => giveUp
      | some dataset => setActive dataset := by
  unfold fillAndSetActive givenDataset Parsers.meshLocalPrefix
  cases parsers.networkNameFromString texts.networkName with
  | none => rfl
  | some networkName =>
  have hextendedPanId := hexStringToBuffer_spec texts.extendedPanId dataset.extendedPanId
  cases hext : hexStringToBytes 8 texts.extendedPanId with
  | none =>
      rw [hext] at hextendedPanId
      simp [hextendedPanId]
  | some extendedPanId =>
  rw [hext] at hextendedPanId
  cases parsers.ip6PrefixFromString texts.meshLocalPrefix with
  | none => simp [hextendedPanId]
  | some address =>
  have hnetworkKey := hexStringToBuffer_spec texts.networkKey dataset.networkKey
  cases hkey : hexStringToBytes 16 texts.networkKey with
  | none =>
      rw [hkey] at hnetworkKey
      simp [hextendedPanId, hnetworkKey]
  | some networkKey =>
  rw [hkey] at hnetworkKey
  have hpskc := hexStringToBuffer_spec texts.pskc dataset.pskc
  cases hps : hexStringToBytes 16 texts.pskc with
  | none =>
      rw [hps] at hpskc
      simp [hextendedPanId, hnetworkKey, hpskc]
  | some pskc =>
      rw [hps] at hpskc
      simp [hextendedPanId, hnetworkKey, hpskc]
      rfl

variable {w : World} {active : Option OtOperationalDataset}

theorem run_of_no_instance (h : w.board.openThread.instanceExists = false) :
    threadDatasetInit parsers channel panId texts (Session.start w active) =
      (.error EspErr.invalidState, Session.start w active) := by
  unfold threadDatasetInit
  show (if (!w.board.openThread.instanceExists) = true then _ else _ : StateM Session _) _ = _
  rw [h]
  rfl

theorem run_of_not_locked (h : w.board.openThread.instanceExists = true)
    (hlock : w.stack.head.isNone = false) :
    threadDatasetInit parsers channel panId texts (Session.start w active) =
      (.error EspErr.espFail,
        { world := { w with stack := w.stack.tail }
          calls := [.lockAcquire false]
          activeDataset := active }) := by
  unfold threadDatasetInit
  show (if (!w.board.openThread.instanceExists) = true then _ else _ : StateM Session _) _ = _
  rw [h]
  show (if (!w.stack.head.isNone) = true then _ else _ : StateM Session _) _ = _
  rw [hlock]
  show (_, Session.mk _ ([] ++ [Call.lockAcquire w.stack.head.isNone]) _) = _
  rw [hlock]
  rfl

/-- With the lock and a dataset in hand, the texts decide. -/
theorem run_of_locked (h : w.board.openThread.instanceExists = true)
    (hlock : w.stack.head.isNone = true) :
    threadDatasetInit parsers channel panId texts (Session.start w active) =
      (match if w.heap.head then some OtOperationalDataset.zeroed else none with
        | none => do
            espOpenthreadLockRelease
            return .error EspErr.noMem
        | some dataset => fillAndSetActive parsers channel panId texts dataset :
        StateM Session (Except EspErr Unit))
        { world := { w with stack := w.stack.tail, heap := w.heap.tail }
          calls := [.lockAcquire true, .calloc w.heap.head]
          activeDataset := active } := by
  unfold threadDatasetInit
  show (if (!w.board.openThread.instanceExists) = true then _ else _ : StateM Session _) _ = _
  rw [h]
  show (if (!w.stack.head.isNone) = true then _ else _ : StateM Session _)
    (Session.mk _ ([] ++ [Call.lockAcquire w.stack.head.isNone]) _) = _
  rw [hlock]
  rfl

theorem run_of_no_memory (h : w.board.openThread.instanceExists = true)
    (hlock : w.stack.head.isNone = true) (hheap : w.heap.head = false) :
    threadDatasetInit parsers channel panId texts (Session.start w active) =
      (.error EspErr.noMem,
        { world := { w with stack := w.stack.tail, heap := w.heap.tail }
          calls := [.lockAcquire true, .calloc false, .lockRelease]
          activeDataset := active }) := by
  rw [run_of_locked h hlock, hheap]
  rfl

theorem run_of_rejected (h : w.board.openThread.instanceExists = true)
    (hlock : w.stack.head.isNone = true) (hheap : w.heap.head = true)
    (htexts : givenDataset parsers channel panId texts = none) :
    threadDatasetInit parsers channel panId texts (Session.start w active) =
      (.error EspErr.espFail,
        { world := { w with stack := w.stack.tail, heap := w.heap.tail }
          calls := [.lockAcquire true, .calloc true, .free, .lockRelease]
          activeDataset := active }) := by
  rw [run_of_locked h hlock, hheap]
  simp only [if_true, fillAndSetActive_eq, htexts]
  rfl

theorem otDatasetSetActive_apply (dataset : OtOperationalDataset) (s : Session) :
    otDatasetSetActive dataset s =
      (s.world.stack.head.isNone,
        { world := { s.world with
            board.requests := s.world.board.requests ++
              [Request.datasetSetActive dataset.toOperationalDataset]
            stack := s.world.stack.tail }
          calls := s.calls ++ [.datasetSetActive dataset s.world.stack.head.isNone]
          activeDataset :=
            if s.world.stack.head.isNone then some dataset else s.activeDataset }) := by
  have hrun : otDatasetSetActive dataset s =
      (do
        if s.world.stack.head.isNone then
          modify fun s : Session => { s with activeDataset := some dataset }
        return s.world.stack.head.isNone : StateM Session Bool)
        { world := { s.world with
            board.requests := s.world.board.requests ++
              [Request.datasetSetActive dataset.toOperationalDataset]
            stack := s.world.stack.tail }
          calls := s.calls ++ [.datasetSetActive dataset s.world.stack.head.isNone]
          activeDataset := s.activeDataset } := rfl
  rw [hrun]
  split
  · rfl
  · rfl

/-- The texts are accepted, and the call of `otDatasetSetActive` decides. -/
theorem run_of_given {dataset : OtOperationalDataset}
    (h : w.board.openThread.instanceExists = true)
    (hlock : w.stack.head.isNone = true) (hheap : w.heap.head = true)
    (htexts : givenDataset parsers channel panId texts = some dataset) :
    threadDatasetInit parsers channel panId texts (Session.start w active) =
      (if w.stack.tail.head.isNone then .ok ⟨⟩ else .error EspErr.espFail,
        { world := { w with
            board.requests := w.board.requests ++
              [Request.datasetSetActive dataset.toOperationalDataset]
            stack := w.stack.tail.tail
            heap := w.heap.tail }
          calls := [.lockAcquire true, .calloc true,
            .datasetSetActive dataset w.stack.tail.head.isNone, .free, .lockRelease]
          activeDataset := if w.stack.tail.head.isNone then some dataset else active }) := by
  rw [run_of_locked h hlock, hheap]
  simp only [if_true, fillAndSetActive_eq, htexts]
  have hrun (s : Session) : setActive dataset s =
      (if (otDatasetSetActive dataset s).1 then .ok ⟨⟩ else .error EspErr.espFail,
        { (otDatasetSetActive dataset s).2 with
          calls := (otDatasetSetActive dataset s).2.calls ++ [.free] ++ [.lockRelease] }) := rfl
  rw [hrun, otDatasetSetActive_apply]
  rfl

/-! ## All or nothing -/

/-- Every condition for the dataset to be set. -/
structure Ready (parsers : Parsers) (texts : DatasetTexts) (w : World) : Prop where
  instanceExists : w.board.openThread.instanceExists = true
  locked : w.stack.head.isNone = true
  allocated : w.heap.head = true
  networkName : (parsers.networkNameFromString texts.networkName).isSome
  meshLocalPrefix : (parsers.ip6PrefixFromString texts.meshLocalPrefix).isSome
  extendedPanId : IsHexString 16 texts.extendedPanId
  networkKey : IsHexString 32 texts.networkKey
  pskc : IsHexString 32 texts.pskc

/-- The dataset has what the function is given, and says so. -/
structure HoldsGiven (parsers : Parsers) (channel panId : UInt16) (texts : DatasetTexts)
    (dataset : OtOperationalDataset) : Prop where
  channel : dataset.channel = channel
  panId : dataset.panId = panId
  activeTimestamp : dataset.activeTimestamp = 1
  networkName : parsers.networkNameFromString texts.networkName = some dataset.networkName
  extendedPanId : Hex.Denotes texts.extendedPanId.bytes dataset.extendedPanId.toList
  meshLocalPrefix : ∃ address, parsers.ip6PrefixFromString texts.meshLocalPrefix = some address ∧
    dataset.meshLocalPrefix.toList = address.toList.take 8
  networkKey : Hex.Denotes texts.networkKey.bytes dataset.networkKey.toList
  pskc : Hex.Denotes texts.pskc.bytes dataset.pskc.toList
  present : dataset.components = Components.all

/-- How the function ends when it starts with this active dataset. -/
structure AllOrNothing (parsers : Parsers) (channel panId : UInt16) (texts : DatasetTexts)
    (w : World) (active : Option OtOperationalDataset)
    (ending : Except EspErr Unit × Session) : Prop where
  set_iff : (∃ dataset succeeded, Call.datasetSetActive dataset succeeded ∈ ending.2.calls) ↔
    Ready parsers texts w
  holdsGiven : ∀ dataset succeeded, Call.datasetSetActive dataset succeeded ∈ ending.2.calls →
    HoldsGiven parsers channel panId texts dataset ∧
      ending.1 = (if succeeded then .ok ⟨⟩ else .error EspErr.espFail) ∧
      ending.2.activeDataset = if succeeded then some dataset else active
  untouched : ¬Ready parsers texts w →
    ending.2.activeDataset = active ∧ ∃ err, ending.1 = .error err
  released : ending.2.calls.count .lockRelease = ending.2.calls.count (.lockAcquire true)

theorem holdsGiven_of_givenDataset {dataset : OtOperationalDataset}
    (h : givenDataset parsers channel panId texts = some dataset) :
    HoldsGiven parsers channel panId texts dataset := by
  unfold givenDataset at h
  simp only [Option.bind_eq_bind, Option.bind_eq_some_iff, Option.pure_def, Option.some.injEq] at h
  obtain ⟨networkName, hname, extendedPanId, hext, meshLocalPrefix, hprefix, networkKey, hkey,
    pskc, hpskc, rfl⟩ := h
  obtain ⟨address, haddress, rfl⟩ := Option.map_eq_some_iff.mp hprefix
  exact {
    channel := rfl
    panId := rfl
    activeTimestamp := rfl
    networkName := hname
    extendedPanId := hexStringToBytes_eq_some_iff.mp hext
    meshLocalPrefix := ⟨address, haddress, Vector.toList_take⟩
    networkKey := hexStringToBytes_eq_some_iff.mp hkey
    pskc := hexStringToBytes_eq_some_iff.mp hpskc
    present := rfl }

theorem isSome_givenDataset : (givenDataset parsers channel panId texts).isSome ↔
    (parsers.networkNameFromString texts.networkName).isSome ∧
      IsHexString 16 texts.extendedPanId ∧
      (parsers.ip6PrefixFromString texts.meshLocalPrefix).isSome ∧
      IsHexString 32 texts.networkKey ∧ IsHexString 32 texts.pskc := by
  rw [← isSome_hexStringToBytes (m := 8), ← isSome_hexStringToBytes (m := 16),
    ← isSome_hexStringToBytes (m := 16)]
  unfold givenDataset Parsers.meshLocalPrefix
  simp only [Option.isSome_iff_exists, Option.bind_eq_bind, Option.bind_eq_some_iff,
    Option.map_eq_some_iff, Option.pure_def, Option.some.injEq]
  constructor
  · rintro ⟨_, networkName, hname, extendedPanId, hext, _, ⟨address, haddress, -⟩, networkKey,
      hkey, pskc, hpskc, -⟩
    exact ⟨⟨_, hname⟩, ⟨_, hext⟩, ⟨_, haddress⟩, ⟨_, hkey⟩, ⟨_, hpskc⟩⟩
  · rintro ⟨⟨_, hname⟩, ⟨_, hext⟩, ⟨_, haddress⟩, ⟨_, hkey⟩, ⟨_, hpskc⟩⟩
    exact ⟨_, _, hname, _, hext, _, ⟨_, haddress, rfl⟩, _, hkey, _, hpskc, rfl⟩

/-- Nothing is set when a condition fails. -/
theorem AllOrNothing.of_not_ready {err : EspErr} {s : Session} (hready : ¬Ready parsers texts w)
    (hset : ∀ dataset succeeded, Call.datasetSetActive dataset succeeded ∉ s.calls)
    (hactive : s.activeDataset = active)
    (hreleased : s.calls.count .lockRelease = s.calls.count (.lockAcquire true)) :
    AllOrNothing parsers channel panId texts w active (.error err, s) where
  set_iff := iff_of_false (fun ⟨dataset, succeeded, hmem⟩ => hset dataset succeeded hmem) hready
  holdsGiven dataset succeeded hmem := absurd hmem (hset dataset succeeded)
  untouched _ := ⟨hactive, err, rfl⟩
  released := hreleased

/-- Either every condition holds and the given dataset is set, or nothing is. The lock is
released on every way out. -/
theorem threadDatasetInit_allOrNothing (parsers : Parsers) (channel panId : UInt16)
    (texts : DatasetTexts) (w : World) (active : Option OtOperationalDataset) :
    AllOrNothing parsers channel panId texts w active
      (threadDatasetInit parsers channel panId texts (Session.start w active)) := by
  by_cases hinstance : w.board.openThread.instanceExists = true
  swap
  · rw [run_of_no_instance (eq_false_of_ne_true hinstance)]
    exact .of_not_ready (fun h => hinstance h.instanceExists) (by simp [Session.start]) rfl rfl
  by_cases hlock : w.stack.head.isNone = true
  swap
  · rw [run_of_not_locked hinstance (eq_false_of_ne_true hlock)]
    exact .of_not_ready (fun h => hlock h.locked) (by simp) rfl rfl
  by_cases hheap : w.heap.head = true
  swap
  · rw [run_of_no_memory hinstance hlock (eq_false_of_ne_true hheap)]
    exact .of_not_ready (fun h => hheap h.allocated) (by simp) rfl rfl
  cases htexts : givenDataset parsers channel panId texts with
  | none =>
      rw [run_of_rejected hinstance hlock hheap htexts]
      refine .of_not_ready (fun h => ?_) (by simp) rfl rfl
      have hsome : (givenDataset parsers channel panId texts).isSome :=
        isSome_givenDataset.mpr
          ⟨h.networkName, h.extendedPanId, h.meshLocalPrefix, h.networkKey, h.pskc⟩
      rw [htexts] at hsome
      cases hsome
  | some dataset =>
      rw [run_of_given hinstance hlock hheap htexts]
      obtain ⟨hname, hext, hprefix, hkey, hpskc⟩ :=
        isSome_givenDataset.mp (Option.isSome_of_eq_some htexts)
      have hready : Ready parsers texts w :=
        ⟨hinstance, hlock, hheap, hname, hprefix, hext, hkey, hpskc⟩
      constructor
      case set_iff => exact iff_of_true ⟨dataset, w.stack.tail.head.isNone, by simp⟩ hready
      case holdsGiven =>
        intro other succeeded hmem
        obtain ⟨rfl, rfl⟩ : other = dataset ∧ succeeded = w.stack.tail.head.isNone := by
          simpa using hmem
        exact ⟨holdsGiven_of_givenDataset htexts, rfl, rfl⟩
      case untouched => exact fun h => absurd hready h
      case released => rfl

/-! ## The function without the record -/

theorem parseDataset_eq_map {p : Platform}
    (hname : ∀ s, p.otNetworkNameFromString s = parsers.networkNameFromString s)
    (haddress : ∀ s, p.otIp6PrefixFromString s = parsers.meshLocalPrefix s) :
    parseDataset p channel panId texts =
      (givenDataset parsers channel panId texts).map OtOperationalDataset.toOperationalDataset := by
  unfold parseDataset givenDataset
  rw [hname, haddress]
  simp only [Option.map_bind, Option.bind_eq_bind, Option.pure_def, Function.comp_def,
    Option.map_some]

/-- The commands see the same results and requests. -/
theorem threadDatasetInit_refines {p : Platform}
    (hname : ∀ s, p.otNetworkNameFromString s = parsers.networkNameFromString s)
    (haddress : ∀ s, p.otIp6PrefixFromString s = parsers.meshLocalPrefix s) (w : World)
    (active : Option OtOperationalDataset) :
    (Commands.threadDatasetInit p channel panId texts).run w =
      ((threadDatasetInit parsers channel panId texts (Session.start w active)).1,
        (threadDatasetInit parsers channel panId texts (Session.start w active)).2.world) := by
  unfold Commands.threadDatasetInit
  by_cases hinstance : w.board.openThread.instanceExists = true
  swap
  · rw [run_of_no_instance (eq_false_of_ne_true hinstance), ExceptT.run_bind, Handler.bind_apply,
      requireInstance_run, if_neg hinstance]
    rfl
  have hrequire : (requireInstance EspErr.invalidState).run w =
      (.ok w.board.openThread, w) := by rw [requireInstance_run, if_pos hinstance]
  rw [Esp.run_bind_ok hrequire]
  by_cases hlock : w.stack.head.isNone = true
  swap
  · rw [run_of_not_locked hinstance (eq_false_of_ne_true hlock), ExceptT.run_bind,
      Handler.bind_apply, orFail_stackOutcome_run, if_neg hlock]
    rfl
  have hacquire := orFail_stackOutcome_run EspErr.espFail w
  rw [if_pos hlock] at hacquire
  rw [Esp.run_bind_ok hacquire]
  have halloc := mallocOrFail_run { w with stack := w.stack.tail }
  cases hheap : w.heap.head with
  | false =>
      rw [run_of_no_memory hinstance hlock hheap, ExceptT.run_bind, Handler.bind_apply, halloc]
      simp only [hheap]
      rfl
  | true =>
  simp only [hheap, if_true] at halloc
  rw [Esp.run_bind_ok halloc, parseDataset_eq_map hname haddress]
  cases htexts : givenDataset parsers channel panId texts with
  | none =>
      rw [run_of_rejected hinstance hlock hheap htexts]
      rfl
  | some dataset =>
      rw [run_of_given hinstance hlock hheap htexts]
      exact otCall_run _ _

end Orchestrator.Commands.Dataset
