import Mathlib.Data.List.Basic
import Mathlib.Data.Nat.Digits.Defs

/-!
# C strings and the fixed buffers that hold them

A C string is a list of bytes without the terminator. A buffer of `n` bytes is
a vector; reading it as a string stops at its first NUL.
-/

namespace Orchestrator.Lib

/-- The bytes of a NUL-terminated string before its terminator. -/
structure CStr where
  bytes : List UInt8
  noNul : 0 ∉ bytes
  deriving DecidableEq, Repr

/-- `char buffer[n]`. -/
abbrev CharArray (n : Nat) := Vector UInt8 n

namespace CStr

@[ext] theorem ext {s t : CStr} (h : s.bytes = t.bytes) : s = t := by
  cases s
  cases t
  cases h
  rfl

/-- The bytes before the first NUL. -/
def beforeNul : List UInt8 → List UInt8
  | [] => []
  | b :: bytes => if b = 0 then [] else b :: beforeNul bytes

theorem zero_notMem_beforeNul (bytes : List UInt8) : 0 ∉ beforeNul bytes := by
  induction bytes with
  | nil => exact List.not_mem_nil
  | cons b bytes ih =>
      unfold beforeNul
      split
      · exact List.not_mem_nil
      · next hb =>
        intro hmem
        rcases List.mem_cons.mp hmem with h | h
        · exact hb h.symm
        · exact ih h

/-- Reading memory as a string. -/
def ofBytes (bytes : List UInt8) : CStr := ⟨beforeNul bytes, zero_notMem_beforeNul bytes⟩

/-- A string literal. -/
def lit (s : String) : CStr := ofBytes s.toByteArray.data.toList

def length (s : CStr) : Nat := s.bytes.length

/-- The first `n` bytes. -/
def take (n : Nat) (s : CStr) : CStr where
  bytes := s.bytes.take n
  noNul h := s.noNul (List.mem_of_mem_take h)

instance : Append CStr where
  append s t := ⟨s.bytes ++ t.bytes, by simp [s.noNul, t.noNul]⟩

instance : Inhabited CStr := ⟨⟨[], List.not_mem_nil⟩⟩

/-- `s[0] == '\0'`. -/
def isEmpty (s : CStr) : Bool := s.bytes.isEmpty

@[simp] theorem bytes_append (s t : CStr) : (s ++ t).bytes = s.bytes ++ t.bytes := rfl

@[simp] theorem bytes_take (n : Nat) (s : CStr) : (s.take n).bytes = s.bytes.take n := rfl

theorem take_eq_self {n : Nat} {s : CStr} (h : s.length ≤ n) : s.take n = s := by
  apply CStr.ext
  exact List.take_of_length_le h

/-- A prefix that fits is not cut. -/
theorem take_append {n : Nat} {s : CStr} (h : s.length ≤ n) (t : CStr) :
    (s ++ t).take n = s ++ t.take (n - s.length) := by
  apply CStr.ext
  rw [bytes_take, bytes_append, bytes_append, bytes_take, List.take_append,
    List.take_of_length_le h, length]

theorem length_take_le (n : Nat) (s : CStr) : (s.take n).length ≤ n := by
  simp [length]

theorem beforeNul_append_of_notMem {bytes : List UInt8} (h : 0 ∉ bytes) (rest : List UInt8) :
    beforeNul (bytes ++ rest) = bytes ++ beforeNul rest := by
  induction bytes with
  | nil => rfl
  | cons b bytes ih =>
      have hb : b ≠ 0 := fun hb => h (hb ▸ List.mem_cons_self)
      have hrest := ih fun hmem => h (List.mem_cons_of_mem b hmem)
      simp [beforeNul, hb, hrest]

theorem beforeNul_append_zero (bytes : List UInt8) :
    beforeNul (bytes ++ [0]) = beforeNul bytes := by
  induction bytes with
  | nil => rfl
  | cons b bytes ih => simp [beforeNul, ih]

@[simp] theorem ofBytes_bytes (s : CStr) : ofBytes s.bytes = s := by
  apply CStr.ext
  have h := beforeNul_append_of_notMem s.noNul []
  simpa [ofBytes, beforeNul] using h

theorem length_beforeNul_le (bytes : List UInt8) : (beforeNul bytes).length ≤ bytes.length := by
  induction bytes with
  | nil => exact Nat.le_refl 0
  | cons b bytes ih =>
      unfold beforeNul
      split
      · exact Nat.zero_le _
      · exact Nat.succ_le_succ ih

theorem length_beforeNul_lt {bytes : List UInt8} (h : 0 ∈ bytes) :
    (beforeNul bytes).length < bytes.length := by
  induction bytes with
  | nil => cases h
  | cons b bytes ih =>
      unfold beforeNul
      split
      · exact Nat.succ_pos _
      · next hb =>
        rcases List.mem_cons.mp h with h | h
        · exact absurd h.symm hb
        · exact Nat.succ_lt_succ (ih h)

end CStr

/-! ## Comparison -/

/-- `strncmp(a, b, n) == 0`; the end of a list reads as the terminator. -/
def strncmpEq : List UInt8 → List UInt8 → Nat → Bool
  | _, _, 0 => true
  | a, b, n + 1 =>
      if a.headD 0 ≠ b.headD 0 then false
      else if a.headD 0 = 0 then true
      else strncmpEq a.tail b.tail n

theorem strncmpEq_iff (a b : List UInt8) (n : Nat) :
    strncmpEq a b n = true ↔
      (CStr.beforeNul a).take n = (CStr.beforeNul b).take n := by
  induction n generalizing a b with
  | zero => simp [strncmpEq]
  | succ n ih =>
      rcases a with - | ⟨x, a⟩ <;> rcases b with - | ⟨y, b⟩
      · simp [strncmpEq, CStr.beforeNul]
      · by_cases hy : y = 0
        · simp [strncmpEq, CStr.beforeNul, hy]
        · simp [strncmpEq, CStr.beforeNul, hy, Ne.symm hy]
      · by_cases hx : x = 0 <;> simp [strncmpEq, CStr.beforeNul, hx]
      · have hrest := ih a b
        by_cases hxy : x = y
        · subst hxy
          by_cases hx : x = 0 <;> simp [strncmpEq, CStr.beforeNul, hx, hrest]
        · by_cases hx : x = 0
          · have hy : y ≠ 0 := fun hy => hxy (hx.trans hy.symm)
            simp [strncmpEq, CStr.beforeNul, hx, hy, Ne.symm hy]
          · by_cases hy : y = 0 <;> simp [strncmpEq, CStr.beforeNul, hx, hy, hxy]

/-! ## Buffers -/

namespace CharArray

variable {n : Nat}

/-- The string that starts at the first byte of the buffer. -/
def toCStr (buffer : CharArray n) : CStr := CStr.ofBytes buffer.toList

/-- A buffer that starts with the terminator holds the empty string. -/
theorem bytes_toCStr_of_head {buffer : CharArray (n + 1)} (h : buffer[0] = 0) :
    buffer.toCStr.bytes = [] := by
  have hfirst : buffer.toList[0]? = some 0 := by
    rw [Vector.getElem?_toList, Vector.getElem?_eq_getElem (Nat.succ_pos n), h]
  show CStr.beforeNul buffer.toList = []
  cases hbytes : buffer.toList with
  | nil => rfl
  | cons b bytes =>
      rw [hbytes] at hfirst
      obtain rfl : b = 0 := Option.some.inj hfirst
      rfl

/-- The buffer holds a terminator. -/
def Terminated (buffer : CharArray n) : Prop := 0 ∈ buffer.toList

instance (buffer : CharArray n) : Decidable buffer.Terminated :=
  inferInstanceAs (Decidable (_ ∈ _))

theorem length_toCStr_lt {buffer : CharArray n} (h : buffer.Terminated) :
    buffer.toCStr.length < n := by
  have hlt := CStr.length_beforeNul_lt h
  rwa [Vector.length_toList] at hlt

/-- Against a buffer of `n` bytes, comparing `n` bytes compares its string with as much of the
other one. -/
theorem strncmpEq_iff_take (buffer : CharArray n) (s : CStr) :
    strncmpEq buffer.toList s.bytes n = true ↔ buffer.toCStr = s.take n := by
  have hself : CStr.beforeNul s.bytes = s.bytes := congrArg CStr.bytes (CStr.ofBytes_bytes s)
  have hle := CStr.length_beforeNul_le buffer.toList
  rw [Vector.length_toList] at hle
  have hbuffer : (CStr.beforeNul buffer.toList).take n = buffer.toCStr.bytes :=
    List.take_of_length_le hle
  rw [strncmpEq_iff, hself, hbuffer, CStr.ext_iff, CStr.bytes_take]

/-- Against a buffer of `n` bytes that holds a terminator, comparing `n` bytes
compares the whole strings, however long the other one is. -/
theorem strncmpEq_iff_eq {buffer : CharArray n} (h : buffer.Terminated) (s : CStr) :
    strncmpEq buffer.toList s.bytes n = true ↔ buffer.toCStr = s := by
  have hlt := length_toCStr_lt h
  rw [strncmpEq_iff_take]
  constructor
  · intro heq
    -- The common part is shorter than `n`, so nothing of `s` was cut off.
    have hlength : (s.take n).length < n := heq ▸ hlt
    have hle : s.length ≤ n := by
      unfold CStr.length at hlength ⊢
      rw [CStr.bytes_take, List.length_take] at hlength
      omega
    rwa [CStr.take_eq_self hle] at heq
  · rintro rfl
    exact (CStr.take_eq_self hlt.le).symm

/-- The other string may itself be read from memory. -/
theorem strncmpEq_iff_ofBytes {buffer : CharArray n} (h : buffer.Terminated)
    (other : List UInt8) :
    strncmpEq buffer.toList other n = true ↔ buffer.toCStr = CStr.ofBytes other := by
  have hself : CStr.beforeNul (CStr.beforeNul other) = CStr.beforeNul other :=
    congrArg CStr.bytes (CStr.ofBytes_bytes (CStr.ofBytes other))
  rw [← strncmpEq_iff_eq h, strncmpEq_iff, strncmpEq_iff, CStr.ofBytes, hself]

/-- `strncpy(dest, src, len - 1); dest[len - 1] = '\0'` for a buffer of `len` bytes. -/
def copyField (len : Nat) (src : CStr) : CharArray len :=
  Vector.mk ((src.take (len - 1)).bytes ++
    List.replicate (len - (src.take (len - 1)).length) 0).toArray (by
      have hle := CStr.length_take_le (len - 1) src
      simp only [CStr.length] at hle ⊢
      simp only [List.size_toArray, List.length_append, List.length_replicate]
      omega)

theorem toList_copyField (len : Nat) (src : CStr) :
    (copyField len src).toList = (src.take (len - 1)).bytes ++
      List.replicate (len - (src.take (len - 1)).length) 0 := rfl

theorem toList_copyField_succ (len : Nat) (src : CStr) :
    ∃ padding, (copyField (len + 1) src).toList = (src.take len).bytes ++ 0 :: padding := by
  have hle := CStr.length_take_le len src
  have hsub : len + 1 - (src.take len).length = len - (src.take len).length + 1 := by omega
  refine ⟨List.replicate (len - (src.take len).length) 0, ?_⟩
  rw [toList_copyField, Nat.add_sub_cancel, hsub, List.replicate_succ]

theorem terminated_copyField (len : Nat) (src : CStr) :
    (copyField (len + 1) src).Terminated := by
  obtain ⟨padding, h⟩ := toList_copyField_succ len src
  unfold Terminated
  rw [h]
  exact List.mem_append_right _ List.mem_cons_self

/-- The copy is the source cut to what fits before the terminator. -/
theorem toCStr_copyField (len : Nat) (src : CStr) :
    (copyField (len + 1) src).toCStr = src.take len := by
  obtain ⟨padding, h⟩ := toList_copyField_succ len src
  apply CStr.ext
  calc (copyField (len + 1) src).toCStr.bytes
    _ = CStr.beforeNul ((src.take len).bytes ++ 0 :: padding) := congrArg CStr.beforeNul h
    _ = (src.take len).bytes ++ CStr.beforeNul (0 :: padding) :=
        CStr.beforeNul_append_of_notMem (src.take len).noNul _
    _ = (src.take len).bytes := by simp [CStr.beforeNul]

end CharArray

/-! ## Decimal numbers -/

namespace CStr

def digitByte (c : Char) : UInt8 := c.toNat.toUInt8

theorem toNat_digitByte {c : Char} (h : c.isDigit = true) : (digitByte c).toNat = c.toNat := by
  have hle : c.toNat ≤ 57 := (Char.isDigit_iff_toNat.mp h).2
  rw [digitByte, Nat.toUInt8_eq, UInt8.toNat_ofNat']
  omega

/-- `%u` and its kin: the decimal digits without leading zeros. -/
def decimal (n : Nat) : CStr where
  bytes := (Nat.toDigits 10 n).map digitByte
  noNul := by
    intro hmem
    obtain ⟨c, hc, hzero⟩ := List.mem_map.mp hmem
    have hdigit := Nat.isDigit_of_mem_toDigits (by decide) (by decide) hc
    have hge : 48 ≤ c.toNat := (Char.isDigit_iff_toNat.mp hdigit).1
    have htoNat := toNat_digitByte hdigit
    rw [hzero] at htoNat
    exact absurd htoNat (by simp; omega)

/-- Every byte of a decimal number is an ASCII digit. -/
theorem decimal_digit {n : Nat} {b : UInt8} (h : b ∈ (decimal n).bytes) :
    48 ≤ b.toNat ∧ b.toNat ≤ 57 := by
  obtain ⟨c, hc, rfl⟩ := List.mem_map.mp h
  have hdigit := Nat.isDigit_of_mem_toDigits (by decide) (by decide) hc
  rw [toNat_digitByte hdigit]
  exact Char.isDigit_iff_toNat.mp hdigit

/-- The characters a decimal number was made of. -/
theorem map_ofNat_decimal (n : Nat) :
    (decimal n).bytes.map (fun b => Char.ofNat b.toNat) = Nat.toDigits 10 n := by
  have hback : ∀ c ∈ Nat.toDigits 10 n,
      ((fun b : UInt8 => Char.ofNat b.toNat) ∘ digitByte) c = c := by
    intro c hc
    have hdigit := Nat.isDigit_of_mem_toDigits (by decide) (by decide) hc
    rw [Function.comp_apply, toNat_digitByte hdigit, Char.ofNat_toNat]
  calc (decimal n).bytes.map (fun b => Char.ofNat b.toNat)
    _ = (Nat.toDigits 10 n).map ((fun b : UInt8 => Char.ofNat b.toNat) ∘ digitByte) :=
        List.map_map
    _ = (Nat.toDigits 10 n).map id := List.map_congr_left hback
    _ = Nat.toDigits 10 n := List.map_id _

theorem decimal_injective : Function.Injective decimal := by
  intro m n h
  have hdigits : Nat.toDigits 10 m = Nat.toDigits 10 n := by
    rw [← map_ofNat_decimal m, ← map_ofNat_decimal n, h]
  calc m
    _ = Nat.ofDigitChars 10 (Nat.toDigits 10 m) 0 := Nat.ofDigitChars_ten_toDigits.symm
    _ = Nat.ofDigitChars 10 (Nat.toDigits 10 n) 0 := by rw [hdigits]
    _ = n := Nat.ofDigitChars_ten_toDigits

/-- Just the numbers below `10 ^ k` have at most `k` digits. -/
theorem length_decimal_le_iff {n k : Nat} (hk : 0 < k) : (decimal n).length ≤ k ↔ n < 10 ^ k := by
  simpa [length, decimal] using Nat.length_toDigits_le_iff (b := 10) (by decide) hk

theorem length_decimal_le {n k : Nat} (hk : 0 < k) (h : n < 10 ^ k) :
    (decimal n).length ≤ k :=
  (length_decimal_le_iff hk).mpr h

end CStr

end Orchestrator.Lib
