import Mathlib.Data.List.TakeWhile
import Orchestrator.Messages.Fields

/-!
# Signed decimal numbers as texts

The task that receives a report prints its integer, and the builder of the message reads
the text back.
-/

namespace Orchestrator.Messages

open Lib

/-- `%d` and its kin. -/
def decimalInt (v : Int) : CStr :=
  if v < 0 then CStr.lit "-" ++ CStr.decimal v.natAbs else CStr.decimal v.natAbs

/-- `isspace` in the C locale. -/
def isSpace (b : UInt8) : Bool := b = 32 ∨ 9 ≤ b ∧ b ≤ 13

/-- The digits with which these bytes begin. -/
def leadingNumber (bytes : List UInt8) : Int := ofDigits (bytes.takeWhile isDigit)

/-- The number behind an optional sign. -/
def signedNumber : List UInt8 → Int
  | [] => 0
  | b :: bytes =>
      if b = 45 then -leadingNumber bytes
      else if b = 43 then leadingNumber bytes
      else leadingNumber (b :: bytes)

/-- `atoi`, for which C fixes the result only within the bounds of `int`. The one of this
platform goes through a `long` of the same size, and saturates. -/
def atoi (s : CStr) : Int :=
  max intMin (min intMax (signedNumber (s.bytes.dropWhile isSpace)))

/-! ## Reading back -/

theorem isDigit_of_mem_decimal {n : Nat} {b : UInt8} (h : b ∈ (CStr.decimal n).bytes) :
    isDigit b = true := by
  have hdigit := CStr.decimal_digit h
  simpa [isDigit, UInt8.le_iff_toNat_le] using hdigit

theorem not_isSpace_of_isDigit {b : UInt8} (h : isDigit b = true) : isSpace b = false := by
  simp only [isDigit, isSpace, decide_eq_true_eq, decide_eq_false_iff_not] at h ⊢
  grind

theorem decimal_ne_nil (n : Nat) : (CStr.decimal n).bytes ≠ [] := by
  simp [CStr.decimal, Nat.toDigits_ne_nil]

/-- The value of a digit. -/
theorem toNat_digitByte_sub {c : Char} (h : c.isDigit = true) :
    (CStr.digitByte c - 48).toNat = c.toNat - '0'.toNat := by
  have htoNat := CStr.toNat_digitByte h
  have hge : 48 ≤ c.toNat := (Char.isDigit_iff_toNat.mp h).1
  have hle : (48 : UInt8) ≤ CStr.digitByte c := UInt8.le_iff_toNat_le.mpr (by simpa [htoNat])
  rw [UInt8.toNat_sub_of_le _ _ hle, htoNat]
  rfl

theorem foldl_digitByte {digits : List Char} (h : ∀ c ∈ digits, c.isDigit = true) (value : Nat) :
    (digits.map CStr.digitByte).foldl (fun value b => 10 * value + (b - 48).toNat) value =
      Nat.ofDigitChars 10 digits value := by
  induction digits generalizing value with
  | nil => rw [Nat.ofDigitChars_nil]; rfl
  | cons c digits ih =>
      rw [List.map_cons, List.foldl_cons, toNat_digitByte_sub (h c List.mem_cons_self),
        Nat.ofDigitChars_cons, ih fun d hd => h d (List.mem_cons_of_mem c hd)]

theorem ofDigits_decimal (n : Nat) : ofDigits (CStr.decimal n).bytes = n := by
  have hdigits : ∀ c ∈ Nat.toDigits 10 n, c.isDigit = true :=
    fun c hc => Nat.isDigit_of_mem_toDigits (by decide) (by decide) hc
  calc ofDigits (CStr.decimal n).bytes
    _ = Nat.ofDigitChars 10 (Nat.toDigits 10 n) 0 := foldl_digitByte hdigits 0
    _ = n := Nat.ofDigitChars_ten_toDigits

theorem leadingNumber_decimal (n : Nat) : leadingNumber (CStr.decimal n).bytes = n := by
  have hall : (CStr.decimal n).bytes.takeWhile isDigit = (CStr.decimal n).bytes :=
    List.takeWhile_eq_self_iff.mpr fun _ hb => isDigit_of_mem_decimal hb
  rw [leadingNumber, hall, ofDigits_decimal]

/-- A number without a sign. -/
theorem signedNumber_decimal (n : Nat) : signedNumber (CStr.decimal n).bytes = n := by
  have hnumber := leadingNumber_decimal n
  have hdigit := fun b => isDigit_of_mem_decimal (n := n) (b := b)
  cases hbytes : (CStr.decimal n).bytes with
  | nil => exact absurd hbytes (decimal_ne_nil n)
  | cons b bytes =>
      have hb : isDigit b = true := hdigit b (hbytes ▸ List.mem_cons_self)
      have hminus : b ≠ 45 := by
        rintro rfl
        exact absurd hb (by decide)
      have hplus : b ≠ 43 := by
        rintro rfl
        exact absurd hb (by decide)
      rw [signedNumber, if_neg hminus, if_neg hplus, ← hbytes, hnumber]

theorem signedNumber_decimalInt (v : Int) : signedNumber (decimalInt v).bytes = v := by
  unfold decimalInt
  split
  · have hbytes : (CStr.lit "-" ++ CStr.decimal v.natAbs).bytes =
        45 :: (CStr.decimal v.natAbs).bytes := rfl
    rw [hbytes, signedNumber, if_pos rfl, leadingNumber_decimal]
    omega
  · rw [signedNumber_decimal]
    omega

/-- There is no space to skip. -/
theorem dropWhile_decimalInt (v : Int) :
    (decimalInt v).bytes.dropWhile isSpace = (decimalInt v).bytes := by
  unfold decimalInt
  split
  · rfl
  · cases hbytes : (CStr.decimal v.natAbs).bytes with
    | nil => rfl
    | cons b bytes =>
        have hb := isDigit_of_mem_decimal (hbytes ▸ List.mem_cons_self)
        rw [List.dropWhile_cons_of_neg (by simp [not_isSpace_of_isDigit hb])]

/-- An integer within the bounds of `int` is read as it was printed. -/
theorem atoi_decimalInt {v : Int} (hlow : intMin ≤ v) (hhigh : v ≤ intMax) :
    atoi (decimalInt v) = v := by
  rw [atoi, dropWhile_decimalInt, signedNumber_decimalInt, Int.min_eq_right hhigh,
    Int.max_eq_right hlow]

/-- Different integers have different texts. -/
theorem decimalInt_injective : Function.Injective decimalInt := by
  intro v u h
  calc v
    _ = signedNumber (decimalInt v).bytes := (signedNumber_decimalInt v).symm
    _ = signedNumber (decimalInt u).bytes := by rw [h]
    _ = u := signedNumber_decimalInt u

end Orchestrator.Messages
