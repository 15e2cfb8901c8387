import Mathlib.Data.Nat.Digits.Defs
import Orchestrator.Messages.Decimal
import Orchestrator.Messages.NodeIds

/-!
# The parsers of decimal numbers

`parse_uint64`, `parse_uint32` and `parse_uint16` look at the first byte, let the C
library convert the text, and look at where it stopped, at `errno` and at the size of
the number. How wide an `unsigned long` is depends on the platform.
-/

namespace Orchestrator.Messages

open Lib

/-! ## The library -/

/-- What `strtoul` returns, the index that `*endptr` points to, and whether `errno` becomes
`ERANGE`. -/
structure Conversion (w : Nat) where
  value : BitVec w
  stop : Nat
  erange : Bool

/-- `strtoul` for base ten and a result of `w` bits: spaces, a sign and digits. -/
def strtoul (w : Nat) (s : CStr) : Conversion w :=
  let spaces := s.bytes.takeWhile isSpace
  let rest := s.bytes.dropWhile isSpace
  let sign := if rest.head? = some 45 ∨ rest.head? = some 43 then 1 else 0
  let digits := (rest.drop sign).takeWhile isDigit
  -- without a digit nothing is converted, not even the spaces
  if digits.isEmpty then { value := 0, stop := 0, erange := false }
  else if 2 ^ w ≤ ofDigits digits then
    { value := BitVec.allOnes w
      stop := spaces.length + sign + digits.length
      erange := true }
  else
    { value :=
        if rest.head? = some 45 then -BitVec.ofNat w (ofDigits digits)
        else BitVec.ofNat w (ofDigits digits)
      stop := spaces.length + sign + digits.length
      erange := false }

/-- `strtoull`, whose result has 64 bits everywhere. -/
def strtoull (s : CStr) : Conversion 64 := strtoul 64 s

/-- The two sizes of `unsigned long`. -/
inductive DataModel
  | ilp32
  | lp64
  deriving DecidableEq, Repr

def DataModel.longBits : DataModel → Nat
  | ilp32 => 32
  | lp64 => 64

/-! ## The parsers -/

/-- `s[i]`, with the terminator at the end. -/
def charAt (s : CStr) (i : Nat) : UInt8 := s.bytes.getD i 0

/-- What the three parsers have in common. -/
def parseWith {α : Type} {w : Nat} (convert : CStr → Conversion w) (inRange : BitVec w → Bool)
    (cast : BitVec w → α) (s : Option CStr) (out : α) : Bool × α :=
  match s with
  | none => (false, out)
  | some s =>
      if charAt s 0 = 0 then (false, out)
      else if charAt s 0 < 48 ∨ 57 < charAt s 0 then (false, out)
      else if (convert s).stop = 0 ∨ charAt s (convert s).stop ≠ 0 ∨ (convert s).erange ∨
          ¬inRange (convert s).value then (false, out)
      else (true, cast (convert s).value)

/-- `parse_uint64` -/
def parseUint64 : Option CStr → UInt64 → Bool × UInt64 :=
  parseWith strtoull (fun _ => true) UInt64.ofBitVec

/-- `parse_uint32` -/
def parseUint32 (model : DataModel) : Option CStr → UInt32 → Bool × UInt32 :=
  parseWith (strtoul model.longBits) (fun val => val.toNat ≤ 4294967295)
    fun val => UInt32.ofNat val.toNat

/-- `parse_uint16` -/
def parseUint16 (model : DataModel) : Option CStr → UInt16 → Bool × UInt16 :=
  parseWith (strtoul model.longBits) (fun val => val.toNat ≤ 65535)
    fun val => UInt16.ofNat val.toNat

/-! ## What they accept -/

/-- The number that the digits stand for, the least significant one last. -/
def decimalValue (s : CStr) : Nat :=
  Nat.ofDigits 10 (s.bytes.reverse.map fun b => b.toNat - 48)

/-- A text of digits for a number of so many bits. -/
structure IsDecimal (bits : Nat) (s : CStr) : Prop where
  nonempty : s.bytes ≠ []
  digits : ∀ b ∈ s.bytes, 48 ≤ b ∧ b ≤ 57
  fits : decimalValue s < 2 ^ bits

/-- The parser accepts these texts, and changes the output only when it does. -/
structure ParsesExactly {α : Type} (bits : Nat) (toNat : α → Nat)
    (parse : Option CStr → α → Bool × α) : Prop where
  accepts : ∀ s out, (parse (some s) out).1 = true ↔ IsDecimal bits s
  stores : ∀ s out, IsDecimal bits s → toNat (parse (some s) out).2 = decimalValue s
  untouched : ∀ s out, ¬IsDecimal bits s → (parse (some s) out).2 = out

variable {bits w : Nat} {s : CStr}

theorem isDigit_iff {b : UInt8} : isDigit b = true ↔ 48 ≤ b ∧ b ≤ 57 := by
  simp [isDigit]

theorem isDecimal_iff : IsDecimal bits s ↔
    s.bytes.isEmpty = false ∧ s.bytes.all isDigit = true ∧ decimalValue s < 2 ^ bits := by
  simp only [List.isEmpty_eq_false_iff, List.all_eq_true, isDigit_iff]
  exact ⟨fun h => ⟨h.nonempty, h.digits, h.fits⟩, fun h => ⟨h.1, h.2.1, h.2.2⟩⟩

instance (bits : Nat) (s : CStr) : Decidable (IsDecimal bits s) :=
  decidable_of_iff _ isDecimal_iff.symm

theorem IsDecimal.all_isDigit (h : IsDecimal bits s) : ∀ b ∈ s.bytes, isDigit b = true :=
  fun b hb => isDigit_iff.mpr (h.digits b hb)

/-- Of a text of digits only the length and the value are left to look at. -/
theorem isDecimal_iff_fits (h : ∀ b ∈ s.bytes, isDigit b = true) :
    IsDecimal bits s ↔ s.bytes ≠ [] ∧ decimalValue s < 2 ^ bits := by
  constructor
  · exact fun hdecimal => ⟨hdecimal.nonempty, hdecimal.fits⟩
  · exact fun hfits => ⟨hfits.1, fun b hb => isDigit_iff.mp (h b hb), hfits.2⟩

theorem ofDigits_eq_decimalValue (h : ∀ b ∈ s.bytes, isDigit b = true) :
    ofDigits s.bytes = decimalValue s := by
  have hdigit : ∀ value, ∀ b ∈ s.bytes,
      10 * value + (b - 48).toNat = (b.toNat - 48) + 10 * value := by
    intro value b hb
    rw [UInt8.toNat_sub_of_le _ _ (isDigit_iff.mp (h b hb)).1, Nat.add_comm]
    rfl
  calc ofDigits s.bytes
    _ = s.bytes.foldl (fun value b => (b.toNat - 48) + 10 * value) 0 :=
        List.foldl_ext _ _ 0 hdigit
    _ = s.bytes.reverse.foldr (fun b value => (b.toNat - 48) + 10 * value) 0 :=
        List.foldr_reverse.symm
    _ = decimalValue s := by
        rw [decimalValue, Nat.ofDigits_eq_foldr, List.foldr_map]
        rfl

/-! ## A text that begins with a digit -/

/-- Neither spaces nor a sign come before the digits. -/
theorem strtoul_of_digit (hfirst : 48 ≤ charAt s 0 ∧ charAt s 0 ≤ 57) :
    strtoul w s =
      if 2 ^ w ≤ ofDigits (s.bytes.takeWhile isDigit) then
        { value := BitVec.allOnes w
          stop := (s.bytes.takeWhile isDigit).length
          erange := true }
      else
        { value := BitVec.ofNat w (ofDigits (s.bytes.takeWhile isDigit))
          stop := (s.bytes.takeWhile isDigit).length
          erange := false } := by
  cases hbytes : s.bytes with
  | nil => simp [charAt, hbytes] at hfirst
  | cons b bytes =>
      have hb : isDigit b = true := by simpa [charAt, hbytes, isDigit] using hfirst
      have hspace : isSpace b = false := not_isSpace_of_isDigit hb
      have hminus : b ≠ 45 := by rintro rfl; exact absurd hb (by decide)
      have hplus : b ≠ 43 := by rintro rfl; exact absurd hb (by decide)
      simp [strtoul, hbytes, hspace, hminus, hplus, hb]

/-- After the digits comes the terminator just when there is nothing but digits. -/
theorem getD_takeWhile_eq_zero {bytes : List UInt8} (h : 0 ∉ bytes) :
    bytes.getD (bytes.takeWhile isDigit).length 0 = 0 ↔ ∀ b ∈ bytes, isDigit b = true := by
  induction bytes with
  | nil => simp
  | cons b bytes ih =>
      rw [List.mem_cons, not_or] at h
      cases hb : isDigit b with
      | true =>
          rw [List.takeWhile_cons_of_pos hb, List.length_cons, List.getD_cons_succ, ih h.2,
            List.forall_mem_cons]
          exact (and_iff_right hb).symm
      | false =>
          rw [List.takeWhile_cons_of_neg (by simp [hb]), List.length_nil, List.getD_cons_zero]
          refine iff_of_false (Ne.symm h.1) fun hall => ?_
          exact Bool.false_ne_true (hb.symm.trans (hall b List.mem_cons_self))

variable {α : Type} {inRange : BitVec w → Bool} {cast : BitVec w → α}

theorem parseWith_of_not_digit {convert : CStr → Conversion w}
    (h : ¬(48 ≤ charAt s 0 ∧ charAt s 0 ≤ 57)) (out : α) :
    parseWith convert inRange cast (some s) out = (false, out) := by
  unfold parseWith
  dsimp only
  split
  · rfl
  · rw [if_pos]
    rwa [not_and_or, UInt8.not_le, UInt8.not_le] at h

theorem not_isDecimal_of_not_digit (h : ¬(48 ≤ charAt s 0 ∧ charAt s 0 ≤ 57)) :
    ¬IsDecimal bits s := by
  intro hdecimal
  cases hbytes : s.bytes with
  | nil => exact hdecimal.nonempty hbytes
  | cons b bytes =>
      have hb := hdecimal.digits b (hbytes ▸ List.mem_cons_self)
      exact h (by simpa [charAt, hbytes] using hb)

/-- The value of a text in a type that is wide enough. -/
theorem IsDecimal.toNat_ofNat (h : IsDecimal bits s) (hbits : bits ≤ w) :
    (BitVec.ofNat w (decimalValue s)).toNat = decimalValue s := by
  have hpow : 2 ^ bits ≤ 2 ^ w := Nat.pow_le_pow_right (by decide) hbits
  exact Nat.mod_eq_of_lt (Nat.lt_of_lt_of_le h.fits hpow)

theorem value_strtoul (hbits : bits ≤ w) (hfirst : 48 ≤ charAt s 0 ∧ charAt s 0 ≤ 57)
    (h : IsDecimal bits s) : (strtoul w s).value = BitVec.ofNat w (decimalValue s) := by
  have hpow : 2 ^ bits ≤ 2 ^ w := Nat.pow_le_pow_right (by decide) hbits
  have htake : s.bytes.takeWhile isDigit = s.bytes :=
    List.takeWhile_eq_self_iff.mpr h.all_isDigit
  rw [strtoul_of_digit hfirst, htake, ofDigits_eq_decimalValue h.all_isDigit,
    if_neg (not_le.mpr (Nat.lt_of_lt_of_le h.fits hpow))]

/-- The tests on what the library found hold of the decimal texts. -/
theorem accepts_iff (hbits : bits ≤ w)
    (hrange : ∀ val : BitVec w, inRange val = true ↔ val.toNat < 2 ^ bits)
    (hfirst : 48 ≤ charAt s 0 ∧ charAt s 0 ≤ 57) :
    ((strtoul w s).stop = 0 ∨ charAt s (strtoul w s).stop ≠ 0 ∨ (strtoul w s).erange ∨
      ¬inRange (strtoul w s).value) ↔ ¬IsDecimal bits s := by
  have hpow : 2 ^ bits ≤ 2 ^ w := Nat.pow_le_pow_right (by decide) hbits
  have hnonempty : s.bytes ≠ [] := by
    intro hnil
    simp [charAt, hnil] at hfirst
  by_cases hall : ∀ b ∈ s.bytes, isDigit b = true
  · have htake : s.bytes.takeWhile isDigit = s.bytes := List.takeWhile_eq_self_iff.mpr hall
    have hstop : charAt s s.bytes.length = 0 := by simp [charAt]
    rw [strtoul_of_digit hfirst, htake, ofDigits_eq_decimalValue hall, isDecimal_iff_fits hall]
    split
    · next hlarge => simp; omega
    · next hsmall =>
      have hvalue : (BitVec.ofNat w (decimalValue s)).toNat = decimalValue s :=
        Nat.mod_eq_of_lt (not_le.mp hsmall)
      simp [hstop, hrange, hvalue, hnonempty]
  · have hrest : charAt s (strtoul w s).stop ≠ 0 := by
      rw [strtoul_of_digit hfirst]
      split
      · exact fun h => hall ((getD_takeWhile_eq_zero s.noNul).mp h)
      · exact fun h => hall ((getD_takeWhile_eq_zero s.noNul).mp h)
    exact iff_of_true (.inr (.inl hrest)) fun h => hall h.all_isDigit

/-- The parser stores the number of a text that it accepts. -/
theorem parseWith_strtoul (hbits : bits ≤ w)
    (hrange : ∀ val : BitVec w, inRange val = true ↔ val.toNat < 2 ^ bits) (s : CStr) (out : α) :
    parseWith (strtoul w) inRange cast (some s) out =
      if IsDecimal bits s then (true, cast (BitVec.ofNat w (decimalValue s))) else (false, out) := by
  by_cases hfirst : 48 ≤ charAt s 0 ∧ charAt s 0 ≤ 57
  swap
  · rw [parseWith_of_not_digit hfirst, if_neg (not_isDecimal_of_not_digit hfirst)]
  have hzero : charAt s 0 ≠ 0 := by
    intro h
    rw [h] at hfirst
    exact absurd hfirst.1 (by decide)
  have hdigit : ¬(charAt s 0 < 48 ∨ 57 < charAt s 0) := by
    rwa [not_or, UInt8.not_lt, UInt8.not_lt]
  unfold parseWith
  dsimp only
  rw [if_neg hzero, if_neg hdigit]
  simp only [accepts_iff hbits hrange hfirst]
  by_cases hdecimal : IsDecimal bits s
  · rw [if_neg (not_not.mpr hdecimal), if_pos hdecimal, value_strtoul hbits hfirst hdecimal]
  · rw [if_pos hdecimal, if_neg hdecimal]

/-! ## The three parsers -/

theorem parseUint64_eq (s : CStr) (out : UInt64) : parseUint64 (some s) out =
    if IsDecimal 64 s then (true, UInt64.ofNat (decimalValue s)) else (false, out) :=
  parseWith_strtoul (le_refl 64) (fun val => iff_of_true rfl val.isLt) s out

theorem DataModel.longBits_ge (model : DataModel) : 32 ≤ model.longBits := by
  cases model with
  | ilp32 => exact le_refl 32
  | lp64 => decide

theorem parseUint32_eq (model : DataModel) (s : CStr) (out : UInt32) :
    parseUint32 model (some s) out =
      if IsDecimal 32 s then (true, UInt32.ofNat (decimalValue s)) else (false, out) := by
  have hbits := model.longBits_ge
  rw [parseUint32, parseWith_strtoul hbits fun val => by rw [decide_eq_true_iff]; omega]
  split
  · next h => rw [h.toNat_ofNat hbits]
  · rfl

/-- A number of 33 bits is rejected by the library or by the parser. -/
example : parseUint32 .ilp32 (some (CStr.lit "4294967296")) 7 = (false, 7) ∧
    parseUint32 .lp64 (some (CStr.lit "4294967296")) 7 = (false, 7) := by decide +kernel

theorem parseUint16_eq (model : DataModel) (s : CStr) (out : UInt16) :
    parseUint16 model (some s) out =
      if IsDecimal 16 s then (true, UInt16.ofNat (decimalValue s)) else (false, out) := by
  have hbits : 16 ≤ model.longBits := Nat.le_trans (by decide) model.longBits_ge
  rw [parseUint16, parseWith_strtoul hbits fun val => by rw [decide_eq_true_iff]; omega]
  split
  · next h => rw [h.toNat_ofNat hbits]
  · rfl

theorem parsesExactly {toNat : α → Nat} {ofNat : Nat → α} {parse : Option CStr → α → Bool × α}
    (heq : ∀ s out, parse (some s) out =
      if IsDecimal bits s then (true, ofNat (decimalValue s)) else (false, out))
    (hstored : ∀ n < 2 ^ bits, toNat (ofNat n) = n) : ParsesExactly bits toNat parse where
  accepts s out := by
    rw [heq]
    split
    · next h => exact iff_of_true rfl h
    · next h => exact iff_of_false Bool.false_ne_true h
  stores s out h := by
    rw [heq, if_pos h]
    exact hstored _ h.fits
  untouched s out h := by rw [heq, if_neg h]

/-! ## The fields -/

/-- What a caller has after a parser. -/
def stored (result : Bool × α) : Option α := if result.1 then some result.2 else none

/-- The parser as the commands use it accepts the same texts. -/
theorem parseUnsigned_eq (bits : Nat) (s : CStr) : parseUnsigned (2 ^ bits - 1) s =
    if IsDecimal bits s then some (decimalValue s) else none := by
  have hpos : 0 < 2 ^ bits := Nat.two_pow_pos bits
  unfold parseUnsigned
  dsimp only
  by_cases hall : ∀ b ∈ s.bytes, isDigit b = true
  · have htake : s.bytes.takeWhile isDigit = s.bytes := List.takeWhile_eq_self_iff.mpr hall
    have hdecimal : IsDecimal bits s ↔ s.bytes ≠ [] ∧ decimalValue s < 2 ^ bits :=
      isDecimal_iff_fits hall
    rw [htake, ofDigits_eq_decimalValue hall,
      if_neg (show ¬s.bytes.length ≠ s.length from not_not.mpr rfl)]
    by_cases hempty : s.bytes = []
    · rw [if_pos (List.isEmpty_iff.mpr hempty), if_neg fun h => (hdecimal.mp h).1 hempty]
    rw [if_neg fun h => hempty (List.isEmpty_iff.mp h)]
    by_cases hfits : decimalValue s < 2 ^ bits
    · rw [if_neg (by omega), if_pos (hdecimal.mpr ⟨hempty, hfits⟩)]
    · rw [if_pos (by omega), if_neg fun h => hfits h.fits]
  · have hlength : (s.bytes.takeWhile isDigit).length ≠ s.length := fun h =>
      hall (List.takeWhile_eq_self_iff.mp ((List.takeWhile_prefix isDigit).eq_of_length h))
    have hnot : ¬IsDecimal bits s := fun h => hall h.all_isDigit
    rw [if_pos hlength, if_neg hnot]
    split
    · rfl
    · rfl

theorem stored_parse {ofNat : Nat → α} {parse : Option CStr → α → Bool × α}
    (heq : ∀ s out, parse (some s) out =
      if IsDecimal bits s then (true, ofNat (decimalValue s)) else (false, out))
    (s : CStr) (out : α) :
    stored (parse (some s) out) = (parseUnsigned (2 ^ bits - 1) s).map ofNat := by
  rw [heq, parseUnsigned_eq]
  split
  · rfl
  · rfl

theorem requiredUint64StringField_eq (payload : Json) (name : String) (out : UInt64) :
    requiredUint64StringField payload name =
      (requiredStringField payload name).bind fun s => stored (parseUint64 (some s) out) := by
  simp only [requiredUint64StringField, Option.map_bind, stored_parse parseUint64_eq]
  rfl

theorem requiredUint32StringField_eq (model : DataModel) (payload : Json) (name : String)
    (out : UInt32) : requiredUint32StringField payload name =
      (requiredStringField payload name).bind fun s =>
        stored (parseUint32 model (some s) out) := by
  simp only [requiredUint32StringField, Option.map_bind, stored_parse (parseUint32_eq model)]
  rfl

theorem requiredUint16StringField_eq (model : DataModel) (payload : Json) (name : String)
    (out : UInt16) : requiredUint16StringField payload name =
      (requiredStringField payload name).bind fun s =>
        stored (parseUint16 model (some s) out) := by
  simp only [requiredUint16StringField, Option.map_bind, stored_parse (parseUint16_eq model)]
  rfl

/-! ## Node ids -/

/-- The digits of a printed number. -/
theorem isDecimal_decimal {n : Nat} (h : n < 2 ^ bits) :
    IsDecimal bits (CStr.decimal n) ∧ decimalValue (CStr.decimal n) = n := by
  have hdigits : ∀ b ∈ (CStr.decimal n).bytes, isDigit b = true :=
    fun _ => isDigit_of_mem_decimal
  have hvalue : decimalValue (CStr.decimal n) = n := by
    rw [← ofDigits_eq_decimalValue hdigits, ofDigits_decimal]
  exact ⟨(isDecimal_iff_fits hdigits).mpr ⟨decimal_ne_nil n, hvalue.symm ▸ h⟩, hvalue⟩

/-- An id is read as it was printed. -/
theorem parseUint64_decimal (nodeId out : UInt64) :
    parseUint64 (some (CStr.decimal nodeId.toNat)) out = (true, nodeId) := by
  obtain ⟨hdecimal, hvalue⟩ := isDecimal_decimal nodeId.toNat_lt
  rw [parseUint64_eq, if_pos hdecimal, hvalue, UInt64.ofNat_toNat]

/-- `snprintf(node_id, sizeof(node_id), "%" PRIu64, ...)` into 24 bytes. -/
def printNodeId (nodeId : UInt64) : CStr := (CStr.decimal nodeId.toNat).take 23

theorem printNodeId_eq (nodeId : UInt64) : printNodeId nodeId = CStr.decimal nodeId.toNat :=
  CStr.take_eq_self (Nat.le_trans (Commands.length_decimal_node nodeId) (by decide))

/-- The parsers are exact, and read the ids of the lists back. -/
theorem parseUint_exact (model : DataModel) :
    ParsesExactly 64 UInt64.toNat parseUint64 ∧
      ParsesExactly 32 UInt32.toNat (parseUint32 model) ∧
      ParsesExactly 16 UInt16.toNat (parseUint16 model) ∧
      ∀ (record : Registry.DeviceRecord) (nodeId out : UInt64),
        (NodeIdMessage.deviceListEntry record).nodeIdField nodeId =
            some (.string (printNodeId nodeId)) ∧
          (NodeIdMessage.deviceGetEntry record).nodeIdField nodeId =
            some (.string (printNodeId nodeId)) ∧
          parseUint64 (some (printNodeId nodeId)) out = (true, nodeId) := by
  refine ⟨parsesExactly parseUint64_eq ?_, parsesExactly (parseUint32_eq model) ?_,
    parsesExactly (parseUint16_eq model) ?_, ?_⟩
  · exact fun n hn => UInt64.toNat_ofNat_of_lt' hn
  · exact fun n hn => UInt32.toNat_ofNat_of_lt' hn
  · exact fun n hn => UInt16.toNat_ofNat_of_lt' hn
  · intro record nodeId out
    rw [printNodeId_eq]
    have hlist : (NodeIdMessage.deviceListEntry record).AsText := trivial
    have hget : (NodeIdMessage.deviceGetEntry record).AsText := trivial
    exact ⟨NodeIdMessage.nodeIdField_asText hlist nodeId,
      NodeIdMessage.nodeIdField_asText hget nodeId, parseUint64_decimal nodeId out⟩

end Orchestrator.Messages
