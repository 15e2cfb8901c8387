import Mathlib.Data.List.Induction
import Orchestrator.Commands.Wifi
import Orchestrator.Registry.Calm
import Orchestrator.Registry.Rules

/-!
# Pairs of credentials in NVS

An SSID and its password are two keys. A save looks neither at the result of the
first nor of the second, and sets nothing back when it fails.
-/

namespace Orchestrator.Commands

open Lib Handler Registry

/-- The two interfaces that credentials are stored for. -/
inductive WifiInterface
  | sta
  | ap
  deriving DecidableEq, Repr

namespace WifiInterface

/-- `save_wifi_sta_credentials` or `save_wifi_ap_credentials` -/
def save : WifiInterface → CStr → CStr → Esp Unit
  | sta => saveWifiStaCredentials
  | ap => saveWifiApCredentials

/-- `get_wifi_sta_credentials` or `get_wifi_ap_credentials` -/
def get : WifiInterface → Nat → Nat → Esp (CStr × CStr)
  | sta => getWifiStaCredentials
  | ap => getWifiApCredentials

def ssid : WifiInterface → WifiNvs → Option CStr
  | sta => WifiNvs.staSsid
  | ap => WifiNvs.apSsid

def password : WifiInterface → WifiNvs → Option CStr
  | sta => WifiNvs.staPassword
  | ap => WifiNvs.apPassword

def setSsid : WifiInterface → CStr → WifiNvs → WifiNvs
  | sta, ssid, n => { n with staSsid := some ssid }
  | ap, ssid, n => { n with apSsid := some ssid }

def setPassword : WifiInterface → CStr → WifiNvs → WifiNvs
  | sta, password, n => { n with staPassword := some password }
  | ap, password, n => { n with apPassword := some password }

variable {i j : WifiInterface} {s t : CStr} {n : WifiNvs}

@[simp] theorem ssid_setSsid :
    ssid j (setSsid i s n) = if j = i then some s else ssid j n := by
  cases i <;> cases j <;> rfl

@[simp] theorem password_setSsid : password j (setSsid i s n) = password j n := by
  cases i <;> cases j <;> rfl

@[simp] theorem ssid_setPassword : ssid j (setPassword i s n) = ssid j n := by
  cases i <;> cases j <;> rfl

@[simp] theorem password_setPassword :
    password j (setPassword i s n) = if j = i then some s else password j n := by
  cases i <;> cases j <;> rfl

theorem save_eq (i : WifiInterface) (s t : CStr) :
    i.save s t = saveWifiCredentials (i.setSsid s) (i.setPassword t) := by
  cases i with
  | sta => exact saveWifiStaCredentials_eq s t
  | ap => rfl

theorem get_eq (i : WifiInterface) (ssidLen passLen : Nat) :
    i.get ssidLen passLen = getWifiCredentials i.ssid i.password ssidLen passLen := by
  cases i with
  | sta => rfl
  | ap => rfl

end WifiInterface

/-! ## One save -/

/-- What is stored after `nvs_set_str`. -/
def setWhen (passes : Bool) (set : WifiNvs → WifiNvs) (n : WifiNvs) : WifiNvs :=
  if passes then set n else n

theorem nvsSetStr_apply (set : WifiNvs → WifiNvs) (w : World) :
    ∃ failures, nvsSetStr set w = (⟨⟩, { w with
      board.wifi := setWhen (w.nvsPasses 0) set w.board.wifi
      nvs := w.nvs.tail
      nvsFailures := failures }) := by
  obtain ⟨failures, hrun⟩ := nvsOutcome_apply w
  refine ⟨failures, ?_⟩
  have hpasses : w.nvsPasses 0 = w.nvs.head.isNone := rfl
  unfold nvsSetStr
  rw [bind_apply, hrun, hpasses]
  cases w.nvs.head with
  | none => rfl
  | some failure => rfl

/-- What is stored after a save that starts in this world. -/
def savedBy (setSsid setPassword : WifiNvs → WifiNvs) (w : World) : WifiNvs :=
  if w.nvsPasses 0 then
    setWhen (w.nvsPasses 2) setPassword (setWhen (w.nvsPasses 1) setSsid w.board.wifi)
  else w.board.wifi

/-- Only the first and the last call decide about the result. -/
theorem saveWifiCredentials_spec (setSsid setPassword : WifiNvs → WifiNvs) (w : World) :
    (((saveWifiCredentials setSsid setPassword).run w).1 = .ok ⟨⟩ ↔
        w.nvsPasses 0 ∧ w.nvsPasses 3) ∧
      ((saveWifiCredentials setSsid setPassword).run w).2.board.wifi =
        savedBy setSsid setPassword w := by
  obtain ⟨_, hopen⟩ := nvsOutcome_apply w
  have hpasses : w.nvsPasses 0 = w.nvs.head.isNone := rfl
  unfold saveWifiCredentials savedBy
  rw [Esp.run_liftM_bind hopen, hpasses]
  cases w.nvs.head with
  | some failure => exact ⟨iff_of_false nofun (by simp), rfl⟩
  | none =>
  dsimp only [Option.map_none]
  obtain ⟨_, hssid⟩ := nvsSetStr_apply setSsid { w with nvs := w.nvs.tail, nvsFailures := _ }
  rw [Esp.run_liftM_bind hssid]
  obtain ⟨_, hpassword⟩ := nvsSetStr_apply setPassword _
  rw [Esp.run_liftM_bind hpassword]
  obtain ⟨_, hcommit⟩ := nvsOutcome_apply _
  rw [Esp.run_liftM_bind hcommit]
  have hlast : w.nvsPasses 3 = w.nvs.tail.tail.tail.head.isNone := rfl
  rw [hlast]
  dsimp only
  cases w.nvs.tail.tail.tail.head with
  | none => exact ⟨iff_of_true rfl ⟨rfl, rfl⟩, rfl⟩
  | some failure => exact ⟨iff_of_false nofun fun h => absurd h.2 nofun, rfl⟩

/-! ## Reading -/

variable {n : WifiNvs} {s : CStr}

theorem stored_unforeseenNvs (n : WifiNvs) : UnforeseenNvs fun w => w.board.wifi = n :=
  unforeseen_board fun b => b.wifi = n

theorem nvsGetStr_keeps (key : WifiNvs → Option CStr) (length : Nat) :
    Esp.Keeps (fun w => w.board.wifi = n) (nvsGetStr key length) fun s => key n = some s := by
  refine nvs_keeps (stored_unforeseenNvs n) (fun _ => rfl) ?_
  refine Esp.Keeps.bind (Esp.Keeps.lift (getBoard_keeps (Q := fun b => b.wifi = n)
    fun _ h => h)) fun b hb => ?_
  rw [hb]
  cases hkey : key n with
  | none => exact Esp.Keeps.throw
  | some s =>
      dsimp only
      split
      · exact Esp.Keeps.throw
      · exact Esp.Keeps.pure rfl

/-- Credentials that are returned are stored. -/
theorem getWifiCredentials_keeps (ssid password : WifiNvs → Option CStr) (ssidLen passLen : Nat) :
    Esp.Keeps (fun w => w.board.wifi = n) (getWifiCredentials ssid password ssidLen passLen)
      fun pair => ssid n = some pair.1 ∧ password n = some pair.2 := by
  refine nvs_keeps (stored_unforeseenNvs n) (fun _ => rfl) ?_
  refine Esp.Keeps.tryCatch ?_ fun _ => Esp.Keeps.throw
  refine Esp.Keeps.bind (nvsGetStr_keeps ssid ssidLen) fun s hs => ?_
  refine Esp.Keeps.bind (nvsGetStr_keeps password passLen) fun t ht => ?_
  exact Esp.Keeps.pure ⟨hs, ht⟩

theorem nvsGetStr_works {w : World} (hw : w.NvsWorks) {key : WifiNvs → Option CStr}
    {length : Nat} {s : CStr} (hkey : key w.board.wifi = some s) (hlength : s.length < length) :
    (nvsGetStr key length).run w = (.ok s, w) := by
  refine (nvs_works hw).trans ((Esp.run_liftM_bind (m := getBoard) (w := w) rfl).trans ?_)
  rw [hkey]
  dsimp only
  rw [if_neg (Nat.not_lt.mpr hlength)]
  rfl

theorem getWifiCredentials_works {w : World} (hw : w.NvsWorks)
    {ssid password : WifiNvs → Option CStr} {ssidLen passLen : Nat} {s t : CStr}
    (hssid : ssid w.board.wifi = some s) (hssidLen : s.length < ssidLen)
    (hpassword : password w.board.wifi = some t) (hpassLen : t.length < passLen) :
    (getWifiCredentials ssid password ssidLen passLen).run w = (.ok (s, t), w) := by
  refine (nvs_works hw).trans (Esp.run_tryCatch_ok ?_)
  rw [Esp.run_bind_ok (nvsGetStr_works hw hssid hssidLen),
    Esp.run_bind_ok (nvsGetStr_works hw hpassword hpassLen)]
  rfl

/-! ## Runs -/

/-- A call of `save_wifi_sta_credentials` or `save_wifi_ap_credentials`. -/
structure Save where
  interface : WifiInterface
  ssid : CStr
  password : CStr
  deriving DecidableEq, Repr

def Save.run (save : Save) (w : World) : EspResult Unit × World :=
  (save.interface.save save.ssid save.password).run w

/-- The world after the saves, on flash that held no credentials. -/
def reached (w : World) (saves : List Save) : World :=
  saves.foldl (fun w save => (save.run w).2)
    { w with board := { w.board with wifi := Board.erased.wifi } }

/-- Both values of the save are what is stored. -/
def Save.StoredIn (save : Save) (n : WifiNvs) : Prop :=
  save.interface.ssid n = some save.ssid ∧ save.interface.password n = some save.password

/-- Whatever the interface reads from what is stored, one of the saves was passed. -/
def ReadsBack (saves : List Save) (n : WifiNvs) : Prop :=
  ∀ (interface : WifiInterface) (ssidLen passLen : Nat) (w : World) (pair : CStr × CStr),
    w.board.wifi = n → ((interface.get ssidLen passLen).run w).1 = .ok pair →
      ⟨interface, pair.1, pair.2⟩ ∈ saves

/-- A save that returns `ESP_OK` has stored both values, and no pair is read that was not
saved together. -/
structure NeverMixed (w : World) (saves : List Save) : Prop where
  stored : ∀ before save after, saves = before ++ save :: after →
    (save.run (reached w before)).1 = .ok ⟨⟩ →
      save.StoredIn (reached w (before ++ [save])).board.wifi
  readsBack : ∀ before after, saves = before ++ after →
    ReadsBack before (reached w before).board.wifi

/-- The condition on a save, on the calls that are going to fail and on what is stored. -/
structure Whole (before : List Save) (save : Save) (w : World) : Prop where
  /-- A value that is not set is there already, or the commit fails too. -/
  reported : w.nvsPasses 3 → (w.nvsPasses 1 ∨ save.interface.ssid w.board.wifi = some save.ssid) ∧
    (w.nvsPasses 2 ∨ save.interface.password w.board.wifi = some save.password)
  /-- The password that stays was saved with the new SSID before. -/
  ssidOnly : w.nvsPasses 1 → w.nvsPasses 2 = false →
    ∀ password ∈ save.interface.password w.board.wifi,
      { save with password := password } ∈ before ++ [save]
  /-- The SSID that stays was saved with the new password before. -/
  passwordOnly : w.nvsPasses 1 = false → w.nvsPasses 2 →
    ∀ ssid ∈ save.interface.ssid w.board.wifi, { save with ssid := ssid } ∈ before ++ [save]

/-- Every save of the run that can open the namespace meets the condition. -/
def EachWhole (w : World) (saves : List Save) : Prop :=
  ∀ before save after, saves = before ++ save :: after →
    (reached w before).nvsPasses 0 → Whole before save (reached w before)

/-! ### One step -/

section Step

variable {w : World} {before saves : List Save} {save : Save}

/-- The pairs that are stored were saved together. -/
def Paired (saves : List Save) (n : WifiNvs) : Prop :=
  ∀ (interface : WifiInterface) (ssid password : CStr), interface.ssid n = some ssid →
    interface.password n = some password → ⟨interface, ssid, password⟩ ∈ saves

theorem readsBack_iff : ReadsBack saves n ↔ Paired saves n := by
  constructor
  · intro h interface ssid password hssid hpassword
    let w : World := World.calm { Board.erased with wifi := n }
    refine h interface (ssid.length + 1) (password.length + 1) w (ssid, password) rfl ?_
    rw [interface.get_eq, getWifiCredentials_works (w := w) rfl hssid (Nat.lt_succ_self _)
      hpassword (Nat.lt_succ_self _)]
  · intro h interface ssidLen passLen w pair hw hrun
    rw [interface.get_eq] at hrun
    have hget := (getWifiCredentials_keeps interface.ssid interface.password ssidLen passLen w
      hw).2 pair hrun
    exact h interface pair.1 pair.2 hget.1 hget.2

theorem reached_append (w : World) (before : List Save) (save : Save) :
    reached w (before ++ [save]) = (save.run (reached w before)).2 := by
  rw [reached, List.foldl_append]
  rfl

theorem run_eq_ok_iff : (save.run w).1 = .ok ⟨⟩ ↔ w.nvsPasses 0 ∧ w.nvsPasses 3 := by
  rw [Save.run, save.interface.save_eq]
  exact (saveWifiCredentials_spec _ _ w).1

/-- What each interface finds after a save that could open the namespace. -/
theorem stored_run (save : Save) (h : w.nvsPasses 0) (j : WifiInterface) :
    j.ssid (save.run w).2.board.wifi =
        (if j = save.interface ∧ w.nvsPasses 1 then some save.ssid else j.ssid w.board.wifi) ∧
      j.password (save.run w).2.board.wifi =
        if j = save.interface ∧ w.nvsPasses 2 then some save.password
        else j.password w.board.wifi := by
  rw [Save.run, save.interface.save_eq, (saveWifiCredentials_spec _ _ w).2, savedBy, if_pos h]
  cases w.nvsPasses 1 <;> cases w.nvsPasses 2 <;> simp [setWhen]

/-- A save that cannot open the namespace stores nothing. -/
theorem wifi_run_of_closed (h : w.nvsPasses 0 = false) :
    (save.run w).2.board.wifi = w.board.wifi := by
  rw [Save.run, save.interface.save_eq, (saveWifiCredentials_spec _ _ w).2, savedBy, h]
  rfl

theorem storedIn_run_iff (h : w.nvsPasses 0) :
    save.StoredIn (save.run w).2.board.wifi ↔
      (w.nvsPasses 1 ∨ save.interface.ssid w.board.wifi = some save.ssid) ∧
        (w.nvsPasses 2 ∨ save.interface.password w.board.wifi = some save.password) := by
  obtain ⟨hssid, hpassword⟩ := stored_run save h save.interface
  rw [Save.StoredIn, hssid, hpassword]
  cases w.nvsPasses 1 <;> cases w.nvsPasses 2 <;> simp

theorem Paired.mono (h : Paired before n) : Paired (before ++ [save]) n :=
  fun interface ssid password hssid hpassword =>
    List.mem_append_left [save] (h interface ssid password hssid hpassword)

/-- Only the interface of the save can be left with a new pair. -/
theorem paired_run_iff (h : w.nvsPasses 0) (hpaired : Paired before w.board.wifi) :
    Paired (before ++ [save]) (save.run w).2.board.wifi ↔
      ∀ ssid password, save.interface.ssid (save.run w).2.board.wifi = some ssid →
        save.interface.password (save.run w).2.board.wifi = some password →
          ⟨save.interface, ssid, password⟩ ∈ before ++ [save] := by
  refine ⟨fun hall => hall save.interface, fun hall interface ssid password hssid hpassword => ?_⟩
  by_cases hinterface : interface = save.interface
  · subst hinterface
    exact hall ssid password hssid hpassword
  · obtain ⟨hs, hp⟩ := stored_run save h interface
    rw [if_neg fun hand => hinterface hand.1] at hs hp
    rw [hs] at hssid
    rw [hp] at hpassword
    exact hpaired.mono interface ssid password hssid hpassword

/-- A new pair comes about when one of the two values is set and the other one is not. -/
theorem paired_run_iff_unmixed (h : w.nvsPasses 0) (hpaired : Paired before w.board.wifi) :
    Paired (before ++ [save]) (save.run w).2.board.wifi ↔
      (w.nvsPasses 1 → w.nvsPasses 2 = false →
        ∀ password ∈ save.interface.password w.board.wifi,
          { save with password := password } ∈ before ++ [save]) ∧
      (w.nvsPasses 1 = false → w.nvsPasses 2 →
        ∀ ssid ∈ save.interface.ssid w.board.wifi,
          { save with ssid := ssid } ∈ before ++ [save]) := by
  obtain ⟨hssid, hpassword⟩ := stored_run save h save.interface
  have hself : save ∈ before ++ [save] := List.mem_append_right before List.mem_cons_self
  rw [paired_run_iff h hpaired, hssid, hpassword]
  cases w.nvsPasses 1 with
  | false =>
      cases w.nvsPasses 2 with
      | false =>
          simp only [and_false, if_false, Bool.false_eq_true, false_implies, implies_true,
            and_self, iff_true]
          exact hpaired.mono save.interface
      | true => simp
  | true =>
      cases w.nvsPasses 2 with
      | false =>
          simp only [and_true, if_true, and_false, if_false, Bool.false_eq_true, true_implies,
            Option.some.injEq, Option.mem_def, reduceCtorEq, false_implies]
          constructor
          · exact fun hall password hold => hall save.ssid password rfl hold
          · rintro hall ssid password rfl hold
            exact hall password hold
      | true =>
          simp only [and_self, if_true, Option.some.injEq]
          refine iff_of_true ?_ ⟨nofun, nofun⟩
          rintro _ _ rfl rfl
          exact hself

/-- One save is never mixed exactly when the condition holds. -/
theorem step_iff (hpaired : Paired before w.board.wifi) :
    ((save.run w).1 = .ok ⟨⟩ → save.StoredIn (save.run w).2.board.wifi) ∧
        Paired (before ++ [save]) (save.run w).2.board.wifi ↔
      (w.nvsPasses 0 → Whole before save w) := by
  cases hopen : w.nvsPasses 0 with
  | false =>
      rw [run_eq_ok_iff, wifi_run_of_closed hopen, hopen]
      exact iff_of_true ⟨fun h => absurd h.1 nofun, hpaired.mono⟩ nofun
  | true =>
      rw [run_eq_ok_iff, storedIn_run_iff hopen, paired_run_iff_unmixed hopen hpaired, hopen]
      constructor
      · rintro ⟨hreported, hssidOnly, hpasswordOnly⟩ -
        exact ⟨fun hcommit => hreported ⟨rfl, hcommit⟩, hssidOnly, hpasswordOnly⟩
      · intro h
        obtain ⟨hreported, hssidOnly, hpasswordOnly⟩ := h rfl
        exact ⟨fun hcommit => hreported hcommit.2, hssidOnly, hpasswordOnly⟩

end Step

/-! ### Whole runs -/

variable {w : World} {saves : List Save}

theorem paired_reached_of_eachWhole (h : EachWhole w saves) :
    ∀ before after, saves = before ++ after → Paired before (reached w before).board.wifi := by
  intro before
  induction before using List.reverseRecOn with
  | nil =>
      intro after _ interface ssid password hssid _
      cases interface with
      | sta => cases hssid
      | ap => cases hssid
  | append_singleton before save ih =>
      intro after hsaves
      rw [List.append_assoc] at hsaves
      rw [reached_append]
      exact ((step_iff (ih _ hsaves)).mpr (h before save after hsaves)).2

/-- Credentials are never mixed exactly when every save meets the condition. -/
theorem neverMixed_iff (w : World) (saves : List Save) : NeverMixed w saves ↔ EachWhole w saves := by
  constructor
  · intro h before save after hsaves
    have hpaired := readsBack_iff.mp (h.readsBack before (save :: after) hsaves)
    have hafter := readsBack_iff.mp (h.readsBack (before ++ [save]) after (by simpa using hsaves))
    have hstored := h.stored before save after hsaves
    rw [reached_append] at hafter hstored
    exact (step_iff hpaired).mp ⟨hstored, hafter⟩
  · intro h
    have hpaired := paired_reached_of_eachWhole h
    constructor
    case stored =>
      intro before save after hsaves
      rw [reached_append]
      exact ((step_iff (hpaired before (save :: after) hsaves)).mpr
        (h before save after hsaves)).1
    case readsBack =>
      intro before after hsaves
      exact readsBack_iff.mpr (hpaired before after hsaves)

/-! ### Two networks -/

/-- One call of NVS fails, the one that sets the second password. -/
def secondPasswordFails : World :=
  { World.calm Board.erased with
    nvs := fun k => if k = 6 then some ⟨EspErr.espFail, EspErr.espFail_ne_nvsNotFound⟩ else none }

def homeNetwork : Save := ⟨.sta, CStr.lit "home", CStr.lit "password1"⟩

def officeNetwork : Save := ⟨.sta, CStr.lit "office", CStr.lit "password2"⟩

/-- The second save returns `ESP_OK`, and its SSID is read with the first password. -/
theorem officeNetwork_mixed :
    (officeNetwork.run (reached secondPasswordFails [homeNetwork])).1 = .ok ⟨⟩ ∧
      ((getWifiStaCredentials wifiSsidMaxLen wifiPassMaxLen).run
        (reached secondPasswordFails [homeNetwork, officeNetwork])).1 =
          .ok (officeNetwork.ssid, homeNetwork.password) ∧
      ¬NeverMixed secondPasswordFails [homeNetwork, officeNetwork] := by
  refine ⟨rfl, rfl, fun h => ?_⟩
  have hstored := h.stored [homeNetwork] officeNetwork [] rfl rfl
  exact absurd hstored.2 (by decide)

end Orchestrator.Commands
