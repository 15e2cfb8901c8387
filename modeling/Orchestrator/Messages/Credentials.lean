import Orchestrator.Commands.Rules
import Orchestrator.Commands.Saves
import Orchestrator.Messages.Dispatch

/-!
# Wi-Fi credentials across a restart

`wifi.sta_connect` hands its credentials to the driver and saves them;
`wifi_interface_start` loads them into two buffers and hands them over again.
-/

namespace Orchestrator

open Lib

/-- The station configuration in a request. -/
def Request.staConfig? : Request → Option (CStr × CStr)
  | .wifiSetConfig ssid password => some (ssid, password)
  | _ => none

/-- The configurations of the station that the driver was given. -/
def Board.staConfigs (b : Board) : List (CStr × CStr) := b.requests.filterMap Request.staConfig?

theorem Board.staConfigs_hand (b : Board) (request : Request) :
    Board.staConfigs { b with requests := b.requests ++ [request] } =
      b.staConfigs ++ request.staConfig?.toList := by
  unfold staConfigs
  rw [List.filterMap_append]
  cases hrequest : request.staConfig? <;> simp [hrequest]

end Orchestrator

namespace Orchestrator.Messages

open Lib Handler Commands Registry

/-! ## The property -/

/-- `wifi.sta_connect` with these credentials leads from `w` to `w'` and is
answered with `ok: true`. -/
def Connects (ssid password : CStr) (w w' : World) : Prop :=
  ∃ (cfg : Config) (p : Platform) (payload : Json) (result : CommandExecutionResult),
    cfg.enableWifiStation = true ∧
    requiredStringField payload "ssid" = some ssid ∧
    requiredStringField payload "password" = some password ∧
    processCommandMessage cfg p (CStr.lit "wifi.sta_connect") payload w = (result, w') ∧
    result.err = .ok ⟨⟩

/-- The driver gets the credentials as they were submitted, from the command
itself and from every start that finds them in NVS and succeeds. -/
structure CredentialsSurvive (ssid password : CStr) : Prop where
  connected : ∀ w w', w.NvsWorks → Connects ssid password w w' →
    w'.board.staConfigs = w.board.staConfigs ++ [(ssid, password)]
  restarted : ∀ w w' later ssidDefault passDefault, w.NvsWorks → Connects ssid password w w' →
    later.NvsWorks → later.board.wifi = w'.board.wifi →
    ((wifiInterfaceStart ssidDefault passDefault).run later).1 = .ok ⟨⟩ →
    ((wifiInterfaceStart ssidDefault passDefault).run later).2.board.staConfigs =
      later.board.staConfigs ++ [(ssid, password)]

/-- An accepted run of the command makes this configuration of the credentials. -/
def Configures (ssid password : CStr) (config : CStr × CStr) : Prop :=
  ∃ w w', w.NvsWorks ∧ Connects ssid password w w' ∧
    w'.board.staConfigs = w.board.staConfigs ++ [config]

/-! ## What is handed over -/

/-- NVS works and holds `n`, and the driver was given `configs`. -/
structure Stored (n : WifiNvs) (configs : List (CStr × CStr)) (w : World) : Prop where
  works : w.NvsWorks
  wifi : w.board.wifi = n
  configs : w.board.staConfigs = configs

variable {n : WifiNvs} {configs : List (CStr × CStr)} {ssid password : CStr}

theorem stored_unforeseen : Unforeseen (Stored n configs) where
  allocs _ hw := { hw with }
  heap _ hw := { hw with }
  httpd _ hw := { hw with }
  stack _ hw := { hw with }

theorem nvsOutcome_stored : Keeps (Stored n configs) nvsOutcome fun err => err = none := by
  intro w hw
  rw [nvsOutcome_works hw.works]
  exact ⟨hw, rfl⟩

/-- Only `wifiSetConfig` configures the station. -/
theorem stored_takes {request : Request} (h : request.staConfig? = none) :
    Takes (Stored n configs) request := by
  intro w hw
  constructor
  · exact hw.works
  · exact hw.wifi
  · rw [Board.staConfigs_hand, h, hw.configs]
    simp

/-- The fields of the driver have room for one byte less than they are long. -/
def driverConfig (ssid password : CStr) : CStr × CStr := (ssid.take 31, password.take 63)

theorem configureSta_stored (ssid password : CStr) : Triple (Stored n configs)
    ((configureSta ssid password).run : Handler (EspResult Unit))
    fun _ => Stored n (configs ++ [driverConfig ssid password]) := by
  intro w hw
  have hhand : Stored n (configs ++ [driverConfig ssid password]) { w with
      board := { w.board with
        requests := w.board.requests ++ [.wifiSetConfig (ssid.take 31) (password.take 63)] }
      stack := w.stack.tail } := by
    constructor
    · exact hw.works
    · exact hw.wifi
    · rw [Board.staConfigs_hand, hw.configs]
      rfl
  unfold configureSta espCall
  rw [Esp.run_liftM_bind (m := hand _) (w := w) rfl,
    Esp.run_liftM_bind (m := stackOutcome) rfl]
  cases w.stack.head with
  | none => exact hhand
  | some err => exact hhand

/-! ## The command -/

theorem wifiStaConnect_stored (n : WifiNvs) (configs : List (CStr × CStr)) :
    Esp.Ends (Stored n configs) (wifiStaConnect ssid password)
    fun _ => Stored { n with staSsid := some ssid, staPassword := some password }
      (configs ++ [driverConfig ssid password]) := by
  have hsave : Esp.Ends (Stored n configs) (saveWifiStaCredentials ssid password) fun _ =>
      Stored { n with staSsid := some ssid, staPassword := some password } configs := by
    intro w hw _ _
    obtain ⟨board, nvsFailures, allocs, heap, nvs, httpd, stack⟩ := w
    obtain ⟨rfl, rfl, rfl⟩ := hw
    exact ⟨rfl, rfl, rfl⟩
  refine hsave.bind fun _ => ?_
  refine Esp.Ends.bindKeeps (Esp.Keeps.lift (hand_keeps (stored_takes rfl))) fun _ _ => ?_
  refine Esp.Ends.bindKeeps (Esp.Keeps.lift stored_unforeseen.stackOutcome) fun _ _ => ?_
  have hconfigure : Esp.Ends (Stored { n with staSsid := some ssid, staPassword := some password }
      configs) (configureSta ssid password) fun _ =>
        Stored { n with staSsid := some ssid, staPassword := some password }
          (configs ++ [driverConfig ssid password]) :=
    (configureSta_stored ssid password).weaken (fun _ hw => hw) fun _ _ hw _ _ => hw
  refine hconfigure.bind fun _ => ?_
  intro w hw _ _
  exact (espCall_keeps stored_unforeseen (stored_takes rfl) w hw).1

/-- An accepted command has saved the credentials and given what fits to the driver. -/
theorem stored_of_connects {w w' : World} (hw : w.NvsWorks) (h : Connects ssid password w w') :
    w'.board.wifi.staSsid = some ssid ∧ w'.board.wifi.staPassword = some password ∧
      w'.board.staConfigs = w.board.staConfigs ++ [driverConfig ssid password] := by
  obtain ⟨cfg, p, payload, result, hcfg, hssid, hpassword, hrun, hok⟩ := h
  have hmem : ("wifi.sta_connect", wifiStaConnectBranch) ∈ branches cfg p := by
    simp [branches, hcfg]
  have hbranch : wifiStaConnectBranch payload w = (result, w') :=
    (congrFun (congrFun (processCommandMessage_of_mem hmem) payload) w).symm.trans hrun
  unfold wifiStaConnectBranch at hbranch
  rw [hssid, hpassword] at hbranch
  obtain ⟨rfl, rfl⟩ := Prod.ext_iff.mp hbranch
  have hends := wifiStaConnect_stored w.board.wifi w.board.staConfigs w ⟨hw, rfl, rfl⟩ ⟨⟩ hok
  refine ⟨?_, ?_, hends.configs⟩
  · exact congrArg WifiNvs.staSsid hends.wifi
  · exact congrArg WifiNvs.staPassword hends.wifi

/-- Credentials that are not empty are accepted when nothing fails. -/
theorem exists_connects (hssid : ssid.isEmpty = false) (hpassword : password.isEmpty = false) :
    ∃ w w', w.NvsWorks ∧ Connects ssid password w w' := by
  let payload : Json :=
    .object [(CStr.lit "ssid", .string ssid), (CStr.lit "password", .string password)]
  have hssidField : requiredStringField payload "ssid" = some ssid := by
    show nonEmptyString (some (.string ssid)) = some ssid
    simp [nonEmptyString, Json.string?, hssid]
  have hpasswordField : requiredStringField payload "password" = some password := by
    show nonEmptyString (some (.string password)) = some password
    simp [nonEmptyString, Json.string?, hpassword]
  refine ⟨World.calm Board.erased, _, rfl, Config.full, Platform.parsing "null" .null, payload, _,
    rfl, hssidField, hpasswordField, rfl, ?_⟩
  show (wifiStaConnectBranch payload (World.calm Board.erased)).1.err = .ok ⟨⟩
  unfold wifiStaConnectBranch
  rw [hssidField, hpasswordField]
  rfl

/-! ## The start -/

section Loading

variable {w : World} (hw : w.NvsWorks) (hssid : w.board.wifi.staSsid = some ssid)
  (hssidLen : ssid.length < wifiSsidMaxLen) (hpassword : w.board.wifi.staPassword = some password)
  (hpassLen : password.length < wifiPassMaxLen)

include hw hssid hssidLen hpassword hpassLen

theorem getWifiStaCredentials_works :
    (getWifiStaCredentials wifiSsidMaxLen wifiPassMaxLen).run w = (.ok (ssid, password), w) :=
  getWifiCredentials_works hw hssid hssidLen hpassword hpassLen

theorem loadStaConfigFromNvs_works :
    loadStaConfigFromNvs.run w = (configureSta ssid password).run w :=
  Esp.run_bind_ok (Esp.run_tryCatch_ok
    (getWifiStaCredentials_works hw hssid hssidLen hpassword hpassLen))

end Loading

/-- The credentials of the access point are only read. -/
theorem loadApConfigFromNvs_keeps (ssidDefault passDefault : CStr) :
    Esp.Keeps (Stored n configs) (loadApConfigFromNvs ssidDefault passDefault) fun _ => True := by
  have hget : ∀ key length, Esp.Keeps (Stored n configs) (nvsGetStr key length) fun _ => True := by
    intro key length
    apply Esp.Keeps.bind (Esp.Keeps.lift nvsOutcome_stored)
    rintro _ rfl
    apply Esp.Keeps.bind (Esp.Keeps.lift (getBoard_keeps (Q := fun _ => True) fun _ _ => trivial))
    intro board _
    split
    · exact Esp.Keeps.throw
    · split
      · exact Esp.Keeps.throw
      · exact Esp.Keeps.pure trivial
  have hcredentials : Esp.Keeps (Stored n configs)
      (getWifiApCredentials wifiSsidMaxLen wifiPassMaxLen) fun _ => True := by
    apply Esp.Keeps.bind (Esp.Keeps.lift nvsOutcome_stored)
    rintro _ rfl
    refine Esp.Keeps.tryCatch ?_ fun _ => Esp.Keeps.throw
    apply Esp.Keeps.bind (hget _ _)
    intro _ _
    apply Esp.Keeps.bind (hget _ _)
    intro _ _
    exact Esp.Keeps.pure trivial
  apply Esp.Keeps.bind (hcredentials.tryCatch fun _ => Esp.Keeps.pure trivial)
  intro _ _
  exact espCall_keeps stored_unforeseen (stored_takes rfl)

/-- A start that succeeds configures the station with the credentials it finds. -/
theorem wifiInterfaceStart_stored (configs : List (CStr × CStr)) (ssidDefault passDefault : CStr)
    (hssid : n.staSsid = some ssid) (hssidLen : ssid.length < wifiSsidMaxLen)
    (hpassword : n.staPassword = some password) (hpassLen : password.length < wifiPassMaxLen) :
    Esp.Ends (Stored n configs) (wifiInterfaceStart ssidDefault passDefault) fun _ =>
      Stored n (configs ++ [driverConfig ssid password]) := by
  have hcall : ∀ request configs, request.staConfig? = none →
      Esp.Keeps (Stored n configs) (espCall request) fun _ => True :=
    fun _ _ hrequest => espCall_keeps stored_unforeseen (stored_takes hrequest)
  have hload : Esp.Ends (Stored n configs) (tryCatch (do
      loadStaConfigFromNvs
      return true) fun _ => return false)
      fun _ => Stored n (configs ++ [driverConfig ssid password]) := by
    intro w hw found _
    have hrun := loadStaConfigFromNvs_works hw.works (hw.wifi ▸ hssid) hssidLen
      (hw.wifi ▸ hpassword) hpassLen
    have hstored := configureSta_stored ssid password w hw
    rw [ExceptT.run_tryCatch, bind_apply, ExceptT.run_bind, bind_apply, hrun]
    cases hresult : ((configureSta ssid password).run w).1 with
    | ok _ => exact hstored
    | error err => exact hstored
  unfold wifiInterfaceStart
  refine Esp.Ends.bindKeeps ((hcall .wifiStop _ rfl).tryCatch fun stopErr => ?_) fun _ _ => ?_
  · split
    · exact Esp.Keeps.pure trivial
    · exact Esp.Keeps.throw
  refine Esp.Ends.bindKeeps (hcall .wifiSetModeApsta _ rfl) fun _ _ => ?_
  refine Esp.Ends.bindKeeps (loadApConfigFromNvs_keeps ssidDefault passDefault) fun _ _ => ?_
  refine hload.bind fun hasStaCredentials => ?_
  refine Esp.Ends.bindKeeps (hcall .wifiStart _ rfl) fun _ _ => ?_
  split
  · intro w hw _ _
    exact ((hcall .wifiConnect _ rfl).ignore w hw).1
  · exact Esp.Ends.pure fun w hw => hw

/-! ## Survival -/

theorem driverConfig_eq (hssid : ssid.length ≤ 31) (hpassword : password.length ≤ 63) :
    driverConfig ssid password = (ssid, password) := by
  unfold driverConfig
  rw [CStr.take_eq_self hssid, CStr.take_eq_self hpassword]

theorem survive_of_fits (hssid : ssid.length ≤ 31) (hpassword : password.length ≤ 63) :
    CredentialsSurvive ssid password where
  connected w w' hw h := by
    obtain ⟨-, -, hconfigs⟩ := stored_of_connects hw h
    rw [hconfigs, driverConfig_eq hssid hpassword]
  restarted w w' later ssidDefault passDefault hw h hlater hwifi hok := by
    obtain ⟨hsavedSsid, hsavedPassword, -⟩ := stored_of_connects hw h
    have hends := wifiInterfaceStart_stored later.board.staConfigs ssidDefault
      passDefault hsavedSsid (Nat.lt_succ_of_le hssid) hsavedPassword (Nat.lt_succ_of_le hpassword)
    rw [(hends later ⟨hlater, hwifi, rfl⟩ ⟨⟩ hok).configs, driverConfig_eq hssid hpassword]

/-- The copy that the command hands over is cut where the fields of the driver end. -/
theorem fits_of_survive (hssid : ssid.isEmpty = false) (hpassword : password.isEmpty = false)
    (h : CredentialsSurvive ssid password) : ssid.length ≤ 31 ∧ password.length ≤ 63 := by
  obtain ⟨w, w', hw, hconnects⟩ := exists_connects hssid hpassword
  obtain ⟨-, -, hconfigs⟩ := stored_of_connects hw hconnects
  rw [h.connected w w' hw hconnects, List.append_cancel_left_eq, List.singleton_inj] at hconfigs
  obtain ⟨hcutSsid, hcutPassword⟩ := Prod.ext_iff.mp hconfigs
  constructor
  · calc
      ssid.length = (ssid.take 31).length := congrArg CStr.length hcutSsid
      _ ≤ 31 := CStr.length_take_le 31 ssid
  · calc
      password.length = (password.take 63).length := congrArg CStr.length hcutPassword
      _ ≤ 63 := CStr.length_take_le 63 password

/-- Credentials survive exactly when they leave room for a terminator, and those
that do are told apart by what they configure. -/
theorem credentials_survive_iff (hssid : ssid.isEmpty = false)
    (hpassword : password.isEmpty = false) :
    (CredentialsSurvive ssid password ↔ ssid.length ≤ 31 ∧ password.length ≤ 63) ∧
    ∀ ssid' password' config, CredentialsSurvive ssid password →
      CredentialsSurvive ssid' password' → Configures ssid password config →
      Configures ssid' password' config → ssid = ssid' ∧ password = password' := by
  constructor
  · constructor
    · exact fits_of_survive hssid hpassword
    · rintro ⟨hssidLen, hpassLen⟩
      exact survive_of_fits hssidLen hpassLen
  · rintro ssid' password' config h h' ⟨w, w', hw, hconnects, hconfig⟩
      ⟨v, v', hv, hconnects', hconfig'⟩
    rw [h.connected w w' hw hconnects, List.append_cancel_left_eq, List.singleton_inj] at hconfig
    rw [h'.connected v v' hv hconnects', List.append_cancel_left_eq,
      List.singleton_inj] at hconfig'
    exact Prod.ext_iff.mp (hconfig.trans hconfig'.symm)

theorem credentials_survive_short : CredentialsSurvive (CStr.lit "home") (CStr.lit "password") :=
  (credentials_survive_iff rfl rfl).1.mpr ⟨by decide, by decide⟩

/-- An SSID of 32 bytes, which is the longest that the standard allows. -/
theorem longSsid_not_survives :
    ¬CredentialsSurvive (CStr.lit "0123456789abcdef0123456789abcdef") (CStr.lit "password") := by
  intro h
  have hfits := (fits_of_survive rfl rfl h).1
  have hlength : (CStr.lit "0123456789abcdef0123456789abcdef").length = 32 := rfl
  omega

end Orchestrator.Messages
