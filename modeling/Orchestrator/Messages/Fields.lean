import Orchestrator.Platform.Json

/-!
# Reading the fields of a payload
-/

namespace Orchestrator.Messages

open Lib

/-- A string that is not empty. -/
def nonEmptyString (item : Option Json) : Option CStr :=
  match Json.string? item with
  | some s => if s.isEmpty then none else some s
  | none => none

/-- `required_string_field` -/
def requiredStringField (payload : Json) (name : String) : Option CStr :=
  nonEmptyString (payload.getObjectItem (CStr.lit name))

/-- `optional_string_field` -/
def optionalStringField (payload : Json) (name : String) : Option CStr :=
  Json.string? (payload.getObjectItem (CStr.lit name))

/-- `required_number_field` -/
def requiredNumberField (payload : Json) (name : String) : Option ℚ :=
  Json.number? (payload.getObjectItem (CStr.lit name))

/-! ## Numbers in strings -/

def isDigit (b : UInt8) : Bool := 48 ≤ b ∧ b ≤ 57

/-- The number that `strtoull` reads from these decimal digits. -/
def ofDigits (digits : List UInt8) : Nat :=
  digits.foldl (fun value b => 10 * value + (b - 48).toNat) 0

/-- `parse_uint64`, `parse_uint32` and `parse_uint16`: the text starts with a
digit, the digits go on to its end, and the number is within the bound. -/
def parseUnsigned (bound : Nat) (s : CStr) : Option Nat :=
  let digits := s.bytes.takeWhile isDigit
  if digits.isEmpty then none
  else if digits.length ≠ s.length then none
  else if bound < ofDigits digits then none
  else some (ofDigits digits)

/-- `required_uint64_string_field` -/
def requiredUint64StringField (payload : Json) (name : String) : Option UInt64 :=
  ((requiredStringField payload name).bind (parseUnsigned (2 ^ 64 - 1))).map UInt64.ofNat

/-- `required_uint32_string_field` -/
def requiredUint32StringField (payload : Json) (name : String) : Option UInt32 :=
  ((requiredStringField payload name).bind (parseUnsigned (2 ^ 32 - 1))).map UInt32.ofNat

/-- `required_uint16_string_field` -/
def requiredUint16StringField (payload : Json) (name : String) : Option UInt16 :=
  ((requiredStringField payload name).bind (parseUnsigned (2 ^ 16 - 1))).map UInt16.ofNat

/-! ## Numbers -/

/-- `static_cast<uint16_t>(item->valueint)` -/
def castUint16 (q : ℚ) : UInt16 := UInt16.ofInt (valueint q)

/-- `static_cast<uint32_t>(item->valueint)` -/
def castUint32 (q : ℚ) : UInt32 := UInt32.ofInt (valueint q)

/-! ## The strings of a payload -/

variable {P : CStr → Prop} {payload : Json} {name : String} {s : CStr}

theorem of_nonEmptyString {item : Option Json} (h : nonEmptyString item = some s) :
    item = some (.string s) ∧ s.isEmpty = false := by
  unfold nonEmptyString at h
  split at h
  · next s' hstring =>
    split at h
    · cases h
    · next hempty =>
      cases h
      refine ⟨?_, by simpa using hempty⟩
      unfold Json.string? at hstring
      split at hstring
      · cases hstring
        rfl
      · cases hstring
  · cases h

theorem isEmpty_of_requiredStringField (h : requiredStringField payload name = some s) :
    s.isEmpty = false :=
  (of_nonEmptyString h).2

theorem of_requiredStringField (hpayload : payload.AllStrings P)
    (h : requiredStringField payload name = some s) : P s :=
  (hpayload.getObjectItem (of_nonEmptyString h).1).of_string

theorem of_optionalStringField (hpayload : payload.AllStrings P)
    (h : optionalStringField payload name = some s) : P s := by
  unfold optionalStringField Json.string? at h
  split at h
  · next hitem =>
    cases h
    exact (hpayload.getObjectItem hitem).of_string
  · cases h

end Orchestrator.Messages
