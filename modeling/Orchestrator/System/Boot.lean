import Orchestrator.Registry.Commit
import Orchestrator.System.Conversation

/-!
# `app_main` and the loss of power

The device is switched off and on again at any time. `app_main` then sets everything up anew
from what is in flash, or resets the chip when flash or the registry cannot be had.
-/

namespace Orchestrator

open Lib

/-- The options of `sdkconfig` that only `app_main` reads. -/
structure BootOptions where
  enableWifiAp : Bool
  wifiApSsidDefault : CStr
  wifiApPassDefault : CStr

/-- What is there when power returns: flash, and the record of all that was queued and handed
over. OpenThread has its dataset in flash too. -/
def Board.powerCycled (persisted : Bool) (b : Board) : Board :=
  { Board.erased with
    registry := b.registry.restarted persisted
    wifi := b.wifi
    openThread :=
      { Board.erased.openThread with
        activeDataset := b.openThread.activeDataset
        activeDatasetTlvs := b.openThread.activeDatasetTlvs }
    outbox := b.outbox
    requests := b.requests }

def World.powerCycled (persisted : Bool) (w : World) : World :=
  { w with board := w.board.powerCycled persisted }

end Orchestrator

namespace Orchestrator.System

open Lib Handler Registry Server State Commands

/-! ## Set-up -/

/-- A set-up call that returns `esp_err_t`. -/
def setUpCall : Esp Unit := do
  match ← stackOutcome with
  | some err => throw err
  | none => return

/-- A set-up call that returns a pointer, which is null when it fails. -/
def setUpObject (err : EspErr) : Esp Unit := do
  if ← malloc then return else throw err

/-- `nvs_flash_init` -/
def nvsFlashInit : Esp Unit := do
  match ← nvsOutcome with
  | some err => throw err
  | none => return

/-- `nvs_flash_erase` -/
def nvsFlashErase : Esp Unit := do
  match ← nvsOutcome with
  | some err => throw err
  | none => modifyBoard fun b =>
      { b with
        registry := Board.erased.registry
        wifi := Board.erased.wifi
        openThread := Board.erased.openThread }

/-- These errors of `nvs_flash_init` have the flash erased. -/
def needsErase (err : EspErr) : Prop :=
  err = EspErr.nvsNoFreePages ∨ err = EspErr.nvsNewVersionFound

instance : DecidablePred needsErase := fun _ => instDecidableOr

/-- The first step of `app_main`. -/
def startNvsFlash : Esp Unit :=
  tryCatch nvsFlashInit fun err => do
    if needsErase err then
      nvsFlashErase
      nvsFlashInit
    else throw err

/-- `orchestrator_state_init` when there is no mutex yet. -/
def initOrchestratorState : Esp Unit := do
  setUpObject EspErr.noMem
  modifyBoard fun b => { b with state := orchestratorStateInit }

/-- `wifi_interface_init` when there are no interfaces yet. -/
def wifiInterfaceInit : Esp Unit := do
  setUpCall
  setUpCall
  setUpObject EspErr.espFail
  setUpObject EspErr.espFail
  setUpCall

/-- `thread_interface_init` -/
def threadInterfaceInit : Esp Unit := do
  -- the result of `esp_event_handler_register` is dropped
  ignore setUpCall
  setUpCall
  setUpObject EspErr.noMem
  setUpCall
  setUpCall
  modifyBoard fun b => { b with openThread.instanceExists := true }

/-- `matter_interface_init` when the stack has not been started. -/
def matterInterfaceInit : Esp Unit := do
  orFail stackOutcome EspErr.noMem
  orFail stackOutcome EspErr.espFail
  orFail stackOutcome EspErr.espFail

/-! ## `app_main` -/

/-- How `app_main` ends early: an abort resets the chip, other errors are logged. -/
inductive Halt
  | aborted
  | returned (err : EspErr)

abbrev Boot (α : Type) := ExceptT Halt (StateM World) α

def orHalt (halt : EspErr → Halt) (m : Esp Unit) : Boot Unit := ExceptT.mk do
  match ← (m.run : Handler (EspResult Unit)) with
  | .error err => return .error (halt err)
  | .ok _ => return .ok ⟨⟩

/-- `ESP_ERROR_CHECK` -/
def espErrorCheck (m : Esp Unit) : Boot Unit := orHalt (fun _ => .aborted) m

def orReturn (m : Esp Unit) : Boot Unit := orHalt .returned m

/-- `#if` -/
def ifConfigured (option : Bool) (m : Boot Unit) : Boot Unit := if option then m else pure ⟨⟩

/-- `app_main` once flash can be used. -/
def setUp (cfg : Config) (options : BootOptions) : Boot Unit := do
  espErrorCheck initOrchestratorState
  espErrorCheck deviceRegistryInit
  -- `esp_event_loop_create_default` and `esp_netif_init`
  orReturn setUpCall
  orReturn setUpCall
  ifConfigured (cfg.enableWifiStation || options.enableWifiAp) (orReturn wifiInterfaceInit)
  ifConfigured cfg.openthreadEnabled (orReturn threadInterfaceInit)
  orReturn matterInterfaceInit
  orReturn (ignore (wifiInterfaceStart options.wifiApSsidDefault options.wifiApPassDefault))

/-- `app_main` -/
def appMain (cfg : Config) (options : BootOptions) : Boot Unit := do
  espErrorCheck startNvsFlash
  setUp cfg options

/-! ## The life of a device -/

/-- A device in the course of time. -/
structure Life where
  world : World
  /-- `app_main` has not aborted. -/
  up : Bool

inductive Happening (E : Type)
  | input (input : Input E)
  /-- What has been set and not committed may have reached flash. -/
  | powerCycle (persisted : Bool)

variable {E : Type}

namespace Firmware

/-- Where power fails within a command, the calls that are not made any more have failed. -/
def happen (f : Firmware E) (options : BootOptions) (life : Life) : Happening E → Life
  | .input input => if life.up then { life with world := (f.handle input life.world).2 } else life
  | .powerCycle persisted =>
      let (r, w) := (appMain f.config options).run (life.world.powerCycled persisted)
      { world := w
        up := match r with
          | .error .aborted => false
          | _ => true }

/-- The device after these happenings. -/
def live (f : Firmware E) (options : BootOptions) (happenings : List (Happening E))
    (life : Life) : Life :=
  happenings.foldl (f.happen options) life

theorem live_append (f : Firmware E) (options : BootOptions) (happenings : List (Happening E))
    (happening : Happening E) (life : Life) : f.live options (happenings ++ [happening]) life =
      f.happen options (f.live options happenings life) happening := by
  simp [live]

end Firmware

/-! ## What the set-up keeps -/

section Keeps

variable {I : World → Prop} {cfg : Config} {options : BootOptions}

/-- The set-up keeps `I`, wherever it ends. -/
def SetsUp (I : World → Prop) (m : Boot Unit) : Prop :=
  Lib.Keeps I (m.run : Handler (Except Halt Unit)) fun _ => True

theorem SetsUp.bind {m : Boot Unit} {k : Unit → Boot Unit} (hm : SetsUp I m)
    (hk : SetsUp I (k ⟨⟩)) : SetsUp I (m >>= k) := by
  unfold SetsUp
  rw [ExceptT.run_bind]
  apply Lib.Keeps.bind hm
  rintro (halt | _) -
  · exact Lib.Keeps.pure trivial
  · exact hk

theorem orHalt_setsUp {halt : EspErr → Halt} {m : Esp Unit} (hm : Esp.Keeps I m fun _ => True) :
    SetsUp I (orHalt halt m) := by
  apply Lib.Keeps.bind hm
  rintro (err | _) -
  · exact Lib.Keeps.pure trivial
  · exact Lib.Keeps.pure trivial

theorem orHalt_run_ok {halt : EspErr → Halt} {m : Esp Unit} {k : Unit → Boot Unit} {w w' : World}
    (hm : m.run w = (.ok ⟨⟩, w')) : (orHalt halt m >>= k).run w = (k ⟨⟩).run w' := by
  unfold orHalt
  rw [ExceptT.run_bind, bind_apply, ExceptT.run_mk, bind_apply, hm]
  rfl

theorem orHalt_run_error {halt : EspErr → Halt} {m : Esp Unit} {k : Unit → Boot Unit}
    {err : EspErr} {w w' : World} (hm : m.run w = (.error err, w')) :
    (orHalt halt m >>= k).run w = (.error (halt err), w') := by
  unfold orHalt
  rw [ExceptT.run_bind, bind_apply, ExceptT.run_mk, bind_apply, hm]
  rfl

theorem SetsUp.ifConfigured (option : Bool) {m : Boot Unit} (hm : SetsUp I m) :
    SetsUp I (ifConfigured option m) := by
  unfold System.ifConfigured
  split
  · exact hm
  · exact Lib.Keeps.pure trivial

variable (hI : CallInvariant I)

include hI

theorem setUpCall_keeps : Esp.Keeps I setUpCall fun _ => True := by
  apply Esp.Keeps.bind (Esp.Keeps.lift hI.stackOutcome)
  rintro (- | err) -
  · exact Esp.Keeps.pure trivial
  · exact Esp.Keeps.throw

theorem setUpObject_keeps (err : EspErr) : Esp.Keeps I (setUpObject err) fun _ => True := by
  apply Esp.Keeps.bind (Esp.Keeps.lift hI.malloc)
  rintro allocated -
  split
  · exact Esp.Keeps.pure trivial
  · exact Esp.Keeps.throw

theorem wifiInterfaceInit_keeps : Esp.Keeps I wifiInterfaceInit fun _ => True :=
  Esp.Keeps.bind (setUpCall_keeps hI) fun _ _ =>
    Esp.Keeps.bind (setUpCall_keeps hI) fun _ _ =>
    Esp.Keeps.bind (setUpObject_keeps hI _) fun _ _ =>
    Esp.Keeps.bind (setUpObject_keeps hI _) fun _ _ => setUpCall_keeps hI

theorem matterInterfaceInit_keeps : Esp.Keeps I matterInterfaceInit fun _ => True :=
  Esp.Keeps.bind (orFail_keeps hI.toUnforeseen _) fun _ _ =>
    Esp.Keeps.bind (orFail_keeps hI.toUnforeseen _) fun _ _ => orFail_keeps hI.toUnforeseen _

theorem nvsGetStr_keeps (key : WifiNvs → Option CStr) (length : Nat) :
    Esp.Keeps I (nvsGetStr key length) fun _ => True := by
  apply nvs_keeps hI.toUnforeseenNvs (fun _ => rfl)
  apply Esp.Keeps.bind (Q := fun _ => True) (Esp.Keeps.lift (getBoard_keeps fun _ _ => trivial))
  rintro board -
  cases key board.wifi with
  | none => exact Esp.Keeps.throw
  | some s =>
      dsimp only
      split
      · exact Esp.Keeps.throw
      · exact Esp.Keeps.pure trivial

theorem getWifiCredentials_keeps (ssid password : WifiNvs → Option CStr) (ssidLen passLen : Nat) :
    Esp.Keeps I (getWifiCredentials ssid password ssidLen passLen) fun _ => True := by
  apply nvs_keeps hI.toUnforeseenNvs (fun _ => rfl)
  apply Esp.Keeps.tryCatch
  · exact Esp.Keeps.bind (nvsGetStr_keeps hI ssid ssidLen) fun _ _ =>
      Esp.Keeps.bind (nvsGetStr_keeps hI password passLen) fun _ _ => Esp.Keeps.pure trivial
  · exact fun _ => Esp.Keeps.throw

theorem loadStaConfigFromNvs_keeps : Esp.Keeps I loadStaConfigFromNvs fun _ => True := by
  apply Esp.Keeps.bind (Q := fun _ => True)
  · exact Esp.Keeps.tryCatch (getWifiCredentials_keeps hI _ _ _ _) fun _ => Esp.Keeps.throw
  · exact fun _ _ => espCall_keeps hI.toUnforeseen (hI.request _)

theorem loadApConfigFromNvs_keeps (ssidDefault passDefault : CStr) :
    Esp.Keeps I (loadApConfigFromNvs ssidDefault passDefault) fun _ => True := by
  apply Esp.Keeps.bind (Q := fun _ => True)
  · exact Esp.Keeps.tryCatch (getWifiCredentials_keeps hI _ _ _ _) fun _ => Esp.Keeps.pure trivial
  · exact fun _ _ => espCall_keeps hI.toUnforeseen (hI.request _)

theorem wifiInterfaceStart_keeps (ssidDefault passDefault : CStr) :
    Esp.Keeps I (wifiInterfaceStart ssidDefault passDefault) fun _ => True := by
  have hcall (request : Request) : Esp.Keeps I (espCall request) fun _ => True :=
    espCall_keeps hI.toUnforeseen (hI.request request)
  apply Esp.Keeps.bind (Q := fun _ => True)
  · apply Esp.Keeps.tryCatch (hcall .wifiStop)
    intro stopErr
    split
    · exact Esp.Keeps.pure trivial
    · exact Esp.Keeps.throw
  rintro - -
  apply Esp.Keeps.bind (hcall .wifiSetModeApsta)
  rintro - -
  apply Esp.Keeps.bind (loadApConfigFromNvs_keeps hI ssidDefault passDefault)
  rintro - -
  apply Esp.Keeps.bind (Q := fun _ => True)
  · apply Esp.Keeps.tryCatch
    · exact Esp.Keeps.bind (loadStaConfigFromNvs_keeps hI) fun _ _ => Esp.Keeps.pure trivial
    · exact fun _ => Esp.Keeps.pure trivial
  rintro hasStaCredentials -
  apply Esp.Keeps.bind (hcall .wifiStart)
  rintro - -
  split
  · exact (hcall .wifiConnect).ignore
  · exact Esp.Keeps.pure trivial

variable (hthread : ∀ w, I w →
    I { w with board := { w.board with openThread.instanceExists := true } })

include hthread

theorem threadInterfaceInit_keeps : Esp.Keeps I threadInterfaceInit fun _ => True :=
  Esp.Keeps.bind (setUpCall_keeps hI).ignore fun _ _ =>
    Esp.Keeps.bind (setUpCall_keeps hI) fun _ _ =>
    Esp.Keeps.bind (setUpObject_keeps hI _) fun _ _ =>
    Esp.Keeps.bind (setUpCall_keeps hI) fun _ _ =>
    Esp.Keeps.bind (setUpCall_keeps hI) fun _ _ =>
    Esp.Keeps.lift (modifyBoard_keeps hthread)

theorem setUp_keeps
    (hstate : ∀ w, I w → I { w with board := { w.board with state := orchestratorStateInit } })
    (hregistry : Esp.Keeps I deviceRegistryInit fun _ => True) :
    SetsUp I (setUp cfg options) := by
  have hcall : SetsUp I (orReturn setUpCall) := orHalt_setsUp (setUpCall_keeps hI)
  have hinit : Esp.Keeps I initOrchestratorState fun _ => True :=
    Esp.Keeps.bind (setUpObject_keeps hI _) fun _ _ => Esp.Keeps.lift (modifyBoard_keeps hstate)
  apply SetsUp.bind (orHalt_setsUp hinit)
  apply SetsUp.bind (orHalt_setsUp hregistry)
  apply SetsUp.bind hcall
  apply SetsUp.bind hcall
  apply SetsUp.bind (SetsUp.ifConfigured _ (orHalt_setsUp (wifiInterfaceInit_keeps hI)))
  apply SetsUp.bind (SetsUp.ifConfigured _ (orHalt_setsUp (threadInterfaceInit_keeps hI hthread)))
  apply SetsUp.bind (orHalt_setsUp (matterInterfaceInit_keeps hI))
  exact orHalt_setsUp (wifiInterfaceStart_keeps hI _ _).ignore

end Keeps

/-! ## Flash after the boot -/

variable {rs : List (Int × Json)} {c : Flash} {m : DeviceMap} {w : World}

/-- These are the replies so far, and this is in flash. -/
structure Stands (rs : List (Int × Json)) (c : Flash) (w : World) : Prop extends Replied rs w where
  flash : InFlash c w.board.registry

theorem stands_callInvariant : CallInvariant (Stands rs c) where
  allocs w h := { h with toReplied := replied_unforeseen.allocs w h.toReplied }
  heap _ h := { h with }
  httpd _ h := { h with }
  stack _ h := { h with }
  nvs _ _ h := { h with }
  request _ _ h := { h with }

/-- The load and the save at boot leave the directory in flash. -/
theorem deviceRegistryInit_stands :
    Esp.Keeps (Stands rs ⟨m, none⟩) deviceRegistryInit fun _ => True := by
  have hreplied : Esp.Keeps (Replied rs) deviceRegistryInit fun _ => True := by
    have hload : LoadInvariant (fun _ => True) (Replied rs) :=
      { replied_unforeseen.toUnforeseen with
        load := loadStore_keeps replied_unforeseen fun _ _ _ _ => trivial }
    refine load_keeps hload fun s _ => ?_
    exact saveStore_keeps (B := fun _ => True) replied_unforeseen
      (fun _ _ => RegistryNvs.all_true _) (fun _ _ h _ _ => { h with }) trivial
  intro w hw
  refine ⟨⟨(hreplied w hw.toReplied).1, ?_⟩, fun _ _ => trivial⟩
  exact (deviceRegistryInit_keeps (inFlash_storeInvariant m) w hw.flash).1

/-- Flash has to be erased before it can be used. -/
def FlashErased (w : World) : Prop := ∃ failure, w.nvs.head = some failure ∧ needsErase failure.err

theorem nvsFlashInit_keeps {I : World → Prop} (hI : UnforeseenNvs I) :
    Esp.Keeps I nvsFlashInit fun _ => True :=
  nvs_keeps hI (fun _ => rfl) (Esp.Keeps.pure trivial)

/-- An erase leaves flash empty. -/
theorem inFlash_erased : InFlash ⟨BoundedMap.empty, none⟩ Board.erased.registry where
  stored := ⟨initEmptyStore, Represents.initEmptyStore, rfl⟩
  staged := nofun

theorem startNvsFlash_keeps : Esp.Keeps
    (fun u => ∃ m', (m' = m ∨ m' = BoundedMap.empty) ∧ Stands rs ⟨m', none⟩ u)
    startNvsFlash fun _ => True := by
  have hI : UnforeseenNvs fun u =>
      ∃ m', (m' = m ∨ m' = BoundedMap.empty) ∧ Stands rs ⟨m', none⟩ u :=
    { allocs := fun u ⟨m', hm', h⟩ => ⟨m', hm', stands_callInvariant.allocs u h⟩
      heap := fun _ ⟨m', hm', h⟩ => ⟨m', hm', { h with }⟩
      httpd := fun _ ⟨m', hm', h⟩ => ⟨m', hm', { h with }⟩
      stack := fun _ ⟨m', hm', h⟩ => ⟨m', hm', { h with }⟩
      nvs := fun _ _ ⟨m', hm', h⟩ => ⟨m', hm', { h with }⟩ }
  apply Esp.Keeps.tryCatch (nvsFlashInit_keeps hI)
  intro err
  split
  · apply Esp.Keeps.bind (Q := fun _ => True)
    · refine nvs_keeps hI (fun _ => rfl) (Esp.Keeps.lift (modifyBoard_keeps ?_))
      rintro u ⟨m', -, h⟩
      exact ⟨BoundedMap.empty, .inr rfl, { h with flash := inFlash_erased }⟩
    · exact fun _ _ => nvsFlashInit_keeps hI
  · exact Esp.Keeps.throw

/-- Unless flash has to be erased, this step leaves everything as it is. -/
theorem startNvsFlash_of_not_flashErased (h : ¬FlashErased w) : ∃ failures,
    (startNvsFlash.run w).2 =
      { w with
        nvs := w.nvs.tail
        nvsFailures := failures } := by
  obtain ⟨failures, hrun⟩ := nvsOutcome_apply w
  refine ⟨failures, ?_⟩
  unfold startNvsFlash
  cases hhead : w.nvs.head with
  | none =>
      rw [hhead] at hrun
      have hinit : nvsFlashInit.run w = (.ok ⟨⟩, _) := Esp.run_liftM_bind hrun
      rw [Esp.run_tryCatch_ok hinit]
  | some failure =>
      rw [hhead] at hrun
      have hother : ¬needsErase failure.err := fun herase => h ⟨failure, hhead, herase⟩
      have hinit : nvsFlashInit.run w = (.error failure.err, _) := Esp.run_liftM_bind hrun
      rw [ExceptT.run_tryCatch, bind_apply, hinit]
      dsimp only
      rw [if_neg hother]
      rfl

theorem startNvsFlash_stands (hw : Stands rs ⟨m, none⟩ w) :
    ∃ m', (m' = m ∨ FlashErased w ∧ m' = BoundedMap.empty) ∧
      Stands rs ⟨m', none⟩ (startNvsFlash.run w).2 := by
  by_cases herased : FlashErased w
  · obtain ⟨⟨m', hm', hstands⟩, -⟩ := startNvsFlash_keeps w ⟨m, .inl rfl, hw⟩
    exact ⟨m', hm'.imp_right fun hm' => ⟨herased, hm'⟩, hstands⟩
  · obtain ⟨failures, hrun⟩ := startNvsFlash_of_not_flashErased herased
    rw [hrun]
    exact ⟨m, .inl rfl, { hw with }⟩

/-- After the boot flash has the directory, or an empty one in place of it. -/
theorem appMain_stands (cfg : Config) (options : BootOptions) (hw : Stands rs ⟨m, none⟩ w) :
    ∃ m', (m' = m ∨ FlashErased w ∧ m' = BoundedMap.empty) ∧
      Stands rs ⟨m', none⟩ ((appMain cfg options).run w).2 := by
  obtain ⟨m', hm', hstarted⟩ := startNvsFlash_stands hw
  refine ⟨m', hm', ?_⟩
  have hset : SetsUp (Stands rs ⟨m', none⟩) (setUp cfg options) :=
    setUp_keeps stands_callInvariant (fun _ h => { h with }) (fun _ h => { h with })
      deviceRegistryInit_stands
  unfold appMain espErrorCheck
  obtain ⟨r, u, hrun⟩ : ∃ r u, startNvsFlash.run w = (r, u) := ⟨_, _, rfl⟩
  rw [hrun] at hstarted
  cases r with
  | error err =>
      rw [orHalt_run_error hrun]
      exact hstarted
  | ok _ =>
      rw [orHalt_run_ok hrun]
      exact (hset u hstarted).1

/-- A power cycle brings up the directory, or that of a write on its way. -/
theorem happen_powerCycle {E : Type} (f : Firmware E) (options : BootOptions) {life : Life}
    (persisted : Bool) (hlife : Stands rs c life.world) :
    ∃ m, (m = c.directory ∨ persisted = true ∧ c.pending = some m ∨
        FlashErased life.world ∧ m = BoundedMap.empty) ∧
      Stands rs ⟨m, none⟩ (f.happen options life (.powerCycle persisted)).world := by
  obtain ⟨m, hm, hflash⟩ := hlife.flash.restarted persisted
  have hcycled : Stands rs ⟨m, none⟩ (life.world.powerCycled persisted) :=
    { allocs := hlife.allocs
      replies := hlife.replies
      flash := hflash }
  obtain ⟨m', hm', hstands⟩ := appMain_stands f.config options hcycled
  refine ⟨m', ?_, hstands⟩
  rcases hm' with rfl | herased
  · exact hm.imp_right .inl
  · exact .inr (.inr herased)

end Orchestrator.System
