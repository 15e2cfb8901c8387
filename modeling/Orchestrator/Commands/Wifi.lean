import Orchestrator.Commands.Platform

/-!
# The Wi-Fi command and the start of the interface

`wifi_commands.cpp` over `wifi_sta_connect`, and `wifi_interface_start`, which
configures the station from what the command saved.
-/

namespace Orchestrator.Commands

open Lib Handler

/-- `nvs_set_str` -/
def nvsSetStr (set : WifiNvs → WifiNvs) : Handler Unit := do
  match ← nvsOutcome with
  | some _ => return
  | none => modifyBoard fun b => { b with wifi := set b.wifi }

/-- `save_wifi_sta_credentials`, which looks only at the first and the last result. -/
def saveWifiStaCredentials (staSsid staPassword : CStr) : Esp Unit := do
  match ← nvsOutcome with
  | some err => throw err
  | none =>
      nvsSetStr fun n => { n with staSsid := some staSsid }
      nvsSetStr fun n => { n with staPassword := some staPassword }
      match ← nvsOutcome with
      | some err => throw err
      | none => return

/-- The body of both functions, with the two keys that are set. -/
def saveWifiCredentials (setSsid setPassword : WifiNvs → WifiNvs) : Esp Unit := do
  match ← nvsOutcome with
  | some err => throw err
  | none =>
      nvsSetStr setSsid
      nvsSetStr setPassword
      match ← nvsOutcome with
      | some err => throw err
      | none => return

/-- `save_wifi_ap_credentials` -/
def saveWifiApCredentials (apSsid apPassword : CStr) : Esp Unit :=
  saveWifiCredentials (fun n => { n with apSsid := some apSsid })
    fun n => { n with apPassword := some apPassword }

theorem saveWifiStaCredentials_eq (staSsid staPassword : CStr) :
    saveWifiStaCredentials staSsid staPassword =
      saveWifiCredentials (fun n => { n with staSsid := some staSsid })
        fun n => { n with staPassword := some staPassword } := rfl

/-- `configure_sta` -/
def configureSta (ssid password : CStr) : Esp Unit :=
  espCall (.wifiSetConfig (ssid.take 31) (password.take 63))

/-- `wifi_sta_connect` -/
def wifiStaConnect (ssid password : CStr) : Esp Unit := do
  saveWifiStaCredentials ssid password
  hand .wifiDisconnect
  let _ ← stackOutcome
  configureSta ssid password
  espCall .wifiConnect

/-! ## Start -/

def wifiSsidMaxLen : Nat := 32
def wifiPassMaxLen : Nat := 64

/-- `nvs_get_str` into a buffer of this length, in which the terminator needs room too. -/
def nvsGetStr (key : WifiNvs → Option CStr) (length : Nat) : Esp CStr := do
  match ← nvsOutcome with
  | some err => throw err
  | none =>
      match key (← getBoard).wifi with
      | none => throw EspErr.nvsNotFound
      | some s => if length < s.length + 1 then throw EspErr.nvsInvalidLength else return s

/-- The body of `get_wifi_ap_credentials` and `get_wifi_sta_credentials`. A namespace that
does not exist reads like one without keys, since no caller tells the two errors apart. -/
def getWifiCredentials (ssid password : WifiNvs → Option CStr) (ssidLen passLen : Nat) :
    Esp (CStr × CStr) := do
  match ← nvsOutcome with
  | some err => throw err
  | none =>
      tryCatch (do
        let ssid ← nvsGetStr ssid ssidLen
        let password ← nvsGetStr password passLen
        return (ssid, password)) fun _ => throw EspErr.espFail

/-- `get_wifi_ap_credentials` -/
def getWifiApCredentials (apSsidLen apPassLen : Nat) : Esp (CStr × CStr) :=
  getWifiCredentials WifiNvs.apSsid WifiNvs.apPassword apSsidLen apPassLen

/-- `get_wifi_sta_credentials` -/
def getWifiStaCredentials (staSsidLen staPassLen : Nat) : Esp (CStr × CStr) :=
  getWifiCredentials WifiNvs.staSsid WifiNvs.staPassword staSsidLen staPassLen

/-- `load_sta_config_from_nvs` -/
def loadStaConfigFromNvs : Esp Unit := do
  let found ← tryCatch (getWifiStaCredentials wifiSsidMaxLen wifiPassMaxLen)
    fun _ => throw EspErr.notFound
  configureSta found.1 found.2

/-- `configure_ap` -/
def configureAp (ssid password : CStr) : Esp Unit :=
  espCall (.wifiSetApConfig (ssid.take 31) (password.take 63))

/-- `load_ap_config_from_nvs`; the defaults are those of `sdkconfig`. -/
def loadApConfigFromNvs (ssidDefault passDefault : CStr) : Esp Unit := do
  let found ← tryCatch (getWifiApCredentials wifiSsidMaxLen wifiPassMaxLen)
    fun _ => return (ssidDefault, passDefault)
  configureAp found.1 found.2

/-- `wifi_interface_start` -/
def wifiInterfaceStart (ssidDefault passDefault : CStr) : Esp Unit := do
  tryCatch (espCall .wifiStop) fun stopErr =>
    if stopErr = EspErr.wifiNotStarted then return else throw stopErr
  espCall .wifiSetModeApsta
  loadApConfigFromNvs ssidDefault passDefault
  let hasStaCredentials ← tryCatch (do
    loadStaConfigFromNvs
    return true) fun _ => return false
  espCall .wifiStart
  if hasStaCredentials then ignore (espCall .wifiConnect)

end Orchestrator.Commands
