import Mathlib.Data.List.Basic

/-!
# Error codes

`esp_err_t` is split into success and a failing code: a function of the source
that returns `esp_err_t` returns `EspResult Unit` here, and one that also fills
an output argument returns its value on success.
-/

namespace Orchestrator

/-- A value of `esp_err_t` other than `ESP_OK`. -/
structure EspErr where
  code : Int
  failing : code ≠ 0
  deriving DecidableEq, Repr

abbrev EspResult (α : Type) := Except EspErr α

namespace EspErr

def espFail : EspErr := ⟨-1, by decide⟩
def noMem : EspErr := ⟨0x101, by decide⟩
def invalidArg : EspErr := ⟨0x102, by decide⟩
def invalidState : EspErr := ⟨0x103, by decide⟩
def invalidSize : EspErr := ⟨0x104, by decide⟩
def notFound : EspErr := ⟨0x105, by decide⟩
def notSupported : EspErr := ⟨0x106, by decide⟩
def timeout : EspErr := ⟨0x107, by decide⟩
def nvsNotFound : EspErr := ⟨0x1102, by decide⟩
def nvsInvalidLength : EspErr := ⟨0x110c, by decide⟩
def nvsNoFreePages : EspErr := ⟨0x110d, by decide⟩
def nvsNewVersionFound : EspErr := ⟨0x1110, by decide⟩
def wifiNotStarted : EspErr := ⟨0x3002, by decide⟩

theorem espFail_ne_nvsNotFound : espFail ≠ nvsNotFound := by decide

end EspErr

end Orchestrator
