import Orchestrator.Commands.Dataset
import Orchestrator.Lib.Bounds
import Orchestrator.Messages.Outbound

/-!
# The two hexadecimal codecs

The builder of the messages prints bytes into a buffer that the caller provides, and the
Thread component reads such texts. Here the printer writes into the buffer byte by byte
and has no result when it leaves it.
-/

namespace Orchestrator.Messages

open Lib Commands Commands.Dataset

variable {hexSize : Nat}

/-! ## The encoder -/

/-- `snprintf(hex_str + at, 3, "%02X", b)`: two digits and the terminator. -/
def printByte (hexStr : Vector UInt8 hexSize) (pos : Nat) (b : UInt8) :
    Option (Vector UInt8 hexSize) := do
  let hexStr ← CountedArray.store hexStr pos (upperHexDigit (b / 16))
  let hexStr ← CountedArray.store hexStr (pos + 1) (upperHexDigit (b % 16))
  CountedArray.store hexStr (pos + 2) 0

/-- The loop of `binary_to_hex_string` from byte `i` on. -/
def printFrom (hexStr : Vector UInt8 hexSize) (i : Nat) :
    List UInt8 → Option (Vector UInt8 hexSize)
  | [] => some hexStr
  | b :: bin => do printFrom (← printByte hexStr (i * 2) b) (i + 1) bin

/-- `binary_to_hex_string` -/
def binaryToHexBuffer (bin : List UInt8) (hexStr : Vector UInt8 hexSize) :
    Option (Vector UInt8 hexSize) :=
  if hexSize < bin.length * 2 + 1 then some hexStr
  else do CountedArray.store (← printFrom hexStr 0 bin) (bin.length * 2) 0

/-- The digits of the bytes. -/
def hexDigits (bin : List UInt8) : List UInt8 := (Hex.encode bin).map Hex.upper

variable {hexStr : Vector UInt8 hexSize} {front rest bin : List UInt8} {a b c : UInt8} {i : Nat}

theorem upperHexDigit_eq (hn : b < 16) : upperHexDigit b = Hex.upper (Hex.digit b) := by
  have hall : ∀ i : Fin 16,
      upperHexDigit (UInt8.ofNat i) = Hex.upper (Hex.digit (UInt8.ofNat i)) := by decide
  simpa using hall ⟨b.toNat, hn⟩

theorem hexDigits_cons (b : UInt8) (bin : List UInt8) :
    hexDigits (b :: bin) = upperHexDigit (b / 16) :: upperHexDigit (b % 16) :: hexDigits bin := by
  obtain ⟨hhigh, hlow⟩ := Hex.nibbles_lt b
  rw [upperHexDigit_eq hhigh, upperHexDigit_eq hlow]
  rfl

theorem length_hexDigits (bin : List UInt8) : (hexDigits bin).length = 2 * bin.length := by
  rw [hexDigits, List.length_map, Hex.length_encode]

/-- A byte in the buffer takes the place of the one that was there. -/
theorem store_front (h : hexStr.toList = front ++ a :: rest) (b : UInt8) :
    ∃ out, CountedArray.store hexStr front.length b = some out ∧
      out.toList = front ++ b :: rest := by
  have hsize : front.length < hexSize := by
    rw [← hexStr.length_toList, h, List.length_append, List.length_cons]
    omega
  refine ⟨_, CountedArray.store_eq hexStr hsize b, ?_⟩
  rw [Vector.toList_setIfInBounds, h]
  simp

theorem printByte_eq {x y z : UInt8} (h : hexStr.toList = front ++ x :: y :: z :: rest)
    (b : UInt8) : ∃ out, printByte hexStr front.length b = some out ∧
      out.toList =
        (front ++ [upperHexDigit (b / 16), upperHexDigit (b % 16)]) ++ 0 :: rest := by
  obtain ⟨first, hfirst, hhigh⟩ := store_front h (upperHexDigit (b / 16))
  rw [List.append_cons] at hhigh
  obtain ⟨second, hsecond, hlow⟩ := store_front hhigh (upperHexDigit (b % 16))
  rw [List.append_cons] at hlow
  obtain ⟨third, hthird, hend⟩ := store_front hlow 0
  refine ⟨third, ?_, by simpa using hend⟩
  rw [List.length_append, List.length_singleton] at hsecond hthird
  rw [List.length_append, List.length_singleton] at hthird
  unfold printByte
  simp [hfirst, hsecond, hthird]

/-- The digits follow what is there already, and one byte behind them is written over. -/
theorem printFrom_eq (h : hexStr.toList = front ++ rest) (hfront : front.length = i * 2)
    (hrest : bin.length * 2 + 1 ≤ rest.length) :
    ∃ out x, printFrom hexStr i bin = some out ∧
      out.toList = front ++ hexDigits bin ++ x :: rest.drop (bin.length * 2 + 1) := by
  induction bin generalizing hexStr front rest i with
  | nil =>
      cases rest with
      | nil => simp at hrest
      | cons x rest => exact ⟨hexStr, x, rfl, by simpa [hexDigits] using h⟩
  | cons b bin ih =>
      rw [List.length_cons] at hrest
      obtain ⟨x, y, z, rest, rfl⟩ : ∃ x y z tail, rest = x :: y :: z :: tail := by
        rcases rest with - | ⟨x, - | ⟨y, - | ⟨z, tail⟩⟩⟩
        · simp at hrest
        · simp at hrest
        · simp at hrest
          omega
        · exact ⟨x, y, z, tail, rfl⟩
      simp only [List.length_cons] at hrest
      obtain ⟨next, hprint, hnext⟩ := printByte_eq h b
      obtain ⟨out, last, hout, hlist⟩ := ih hnext (i := i + 1) (by simp; omega)
        (by simp only [List.length_cons]; omega)
      refine ⟨out, last, ?_, ?_⟩
      · rw [printFrom, ← hfront, hprint]
        exact hout
      · rw [hlist, hexDigits_cons]
        simp [Nat.add_mul]

/-- The encoder writes the digits and a terminator, and leaves the bytes behind them. -/
theorem binaryToHexBuffer_eq (bin : List UInt8) (hexStr : Vector UInt8 hexSize)
    (h : bin.length * 2 + 1 ≤ hexSize) : ∃ out, binaryToHexBuffer bin hexStr = some out ∧
      out.toList = hexDigits bin ++ 0 :: hexStr.toList.drop (bin.length * 2 + 1) := by
  have hfrom : ∃ out x, printFrom hexStr 0 bin = some out ∧
      out.toList = [] ++ hexDigits bin ++ x :: hexStr.toList.drop (bin.length * 2 + 1) :=
    printFrom_eq rfl rfl (by simpa using h)
  obtain ⟨printed, x, hprint, hlist⟩ := hfrom
  rw [List.nil_append] at hlist
  obtain ⟨out, hout, hend⟩ := store_front hlist 0
  rw [length_hexDigits, Nat.mul_comm] at hout
  refine ⟨out, ?_, hend⟩
  rw [binaryToHexBuffer, if_neg (by omega), hprint]
  exact hout

/-! ## The text in the buffer -/

theorem upperHexDigit_ne_zero (hn : b < 16) : upperHexDigit b ≠ 0 := by
  have hall : ∀ i : Fin 16, upperHexDigit (UInt8.ofNat i) ≠ 0 := by decide
  simpa using hall ⟨b.toNat, hn⟩

theorem zero_notMem_hexDigits (bin : List UInt8) : 0 ∉ hexDigits bin := by
  induction bin with
  | nil => exact List.not_mem_nil
  | cons b bin ih =>
      obtain ⟨hhigh, hlow⟩ := Hex.nibbles_lt b
      rw [hexDigits_cons, List.mem_cons, List.mem_cons, not_or, not_or]
      exact ⟨(upperHexDigit_ne_zero hhigh).symm, (upperHexDigit_ne_zero hlow).symm, ih⟩

theorem flatMap_eq_hexDigits (bin : List UInt8) :
    (bin.flatMap fun b => [upperHexDigit (b / 16), upperHexDigit (b % 16)]) = hexDigits bin := by
  induction bin with
  | nil => rfl
  | cons b bin ih => rw [List.flatMap_cons, ih, hexDigits_cons]; rfl

theorem bytes_binaryToHexString (bin : List UInt8) :
    (binaryToHexString bin).bytes = hexDigits bin := by
  have hnul := CStr.beforeNul_append_of_notMem (zero_notMem_hexDigits bin) []
  rw [List.append_nil] at hnul
  rw [binaryToHexString, flatMap_eq_hexDigits]
  exact hnul.trans (List.append_nil _)

/-- What a reader finds in the buffer is the text that the messages carry. -/
theorem toCStr_binaryToHexBuffer (bin : List UInt8) (hexStr : Vector UInt8 hexSize)
    (h : bin.length * 2 + 1 ≤ hexSize) : ∃ out, binaryToHexBuffer bin hexStr = some out ∧
      out.toList.drop (bin.length * 2 + 1) = hexStr.toList.drop (bin.length * 2 + 1) ∧
      CharArray.toCStr out = binaryToHexString bin := by
  obtain ⟨out, hout, hlist⟩ := binaryToHexBuffer_eq bin hexStr h
  refine ⟨out, hout, ?_, ?_⟩
  · have hdigits : (hexDigits bin ++ [0]).length = bin.length * 2 + 1 := by
      rw [List.length_append, length_hexDigits, List.length_singleton, Nat.mul_comm]
    rw [hlist, List.append_cons, ← hdigits, List.drop_left]
  · apply CStr.ext
    show CStr.beforeNul out.toList = _
    rw [hlist, CStr.beforeNul_append_of_notMem (zero_notMem_hexDigits bin),
      bytes_binaryToHexString]
    exact List.append_nil _

/-! ## The decoder on such texts -/

/-- A text in upper case. -/
def upperCase (s : CStr) : CStr where
  bytes := s.bytes.map Hex.upper
  noNul := by
    intro hmem
    obtain ⟨c, hc, hzero⟩ := List.mem_map.mp hmem
    have hne : c ≠ 0 := by
      rintro rfl
      exact s.noNul hc
    exact Hex.upper_ne_zero hne hzero

/-- So many characters, all of them hexadecimal digits of either case. -/
structure IsHexText (n : Nat) (s : CStr) : Prop where
  length : s.bytes.length = n
  digits : ∀ c ∈ s.bytes, (48 ≤ c ∧ c ≤ 57) ∨ (65 ≤ c ∧ c ≤ 70) ∨ (97 ≤ c ∧ c ≤ 102)

variable {n : Nat} {s : CStr}

theorem isHexText_iff : IsHexText n s ↔ IsHexString n s := by
  constructor
  · exact fun h => ⟨h.length, fun c hc => Hex.isDigit_iff.mpr (h.digits c hc)⟩
  · exact fun h => ⟨h.1, fun c hc => Hex.isDigit_iff.mp (h.2 c hc)⟩

/-- Encoding and decoding undo each other, and nothing but hexadecimal texts is decoded. -/
structure CodecsInverse (n : Nat) : Prop where
  accepts : ∀ s (buffer : Vector UInt8 n),
    (hexStringToBuffer s buffer).2 = n ↔ IsHexText (2 * n) s
  rejects : ∀ s (buffer : Vector UInt8 n), ¬IsHexText (2 * n) s →
    (hexStringToBuffer s buffer).2 = 0
  decodes : ∀ (bin buffer : Vector UInt8 n) hexSize (hexStr : Vector UInt8 hexSize),
    2 * n + 1 ≤ hexSize → ∃ out, binaryToHexBuffer bin.toList hexStr = some out ∧
      out.toList.drop (2 * n + 1) = hexStr.toList.drop (2 * n + 1) ∧
      hexStringToBuffer (CharArray.toCStr out) buffer = (bin, n)
  encodes : ∀ s (buffer : Vector UInt8 n) hexSize (hexStr : Vector UInt8 hexSize),
    IsHexText (2 * n) s → 2 * n + 1 ≤ hexSize → ∃ out,
      binaryToHexBuffer (hexStringToBuffer s buffer).1.toList hexStr = some out ∧
      CharArray.toCStr out = upperCase s

/-- The decoder fills the buffer with the bytes that the text denotes, or returns zero. -/
theorem hexStringToBuffer_cases (s : CStr) (buffer : Vector UInt8 n) :
    (IsHexText (2 * n) s ∧ ∃ output : Vector UInt8 n, Hex.Denotes s.bytes output.toList ∧
      hexStringToBuffer s buffer = (output, n)) ∨
    (¬IsHexText (2 * n) s ∧ (hexStringToBuffer s buffer).2 = 0) := by
  have hspec := hexStringToBuffer_spec s buffer
  have hsome := isSome_hexStringToBytes (m := n) (s := s)
  rw [← isHexText_iff] at hsome
  cases hbytes : hexStringToBytes n s with
  | some output =>
      rw [hbytes] at hspec hsome
      exact .inl ⟨hsome.mp rfl, output, hexStringToBytes_eq_some_iff.mp hbytes, hspec⟩
  | none =>
      rw [hbytes] at hspec hsome
      exact .inr ⟨fun h => Bool.false_ne_true (hsome.mpr h), hspec⟩

/-- The digits of some bytes are decoded to these bytes. -/
theorem hexStringToBuffer_binaryToHexString (bin buffer : Vector UInt8 n) :
    hexStringToBuffer (binaryToHexString bin.toList) buffer = (bin, n) := by
  have hdenotes : Hex.Denotes (binaryToHexString bin.toList).bytes bin.toList := by
    rw [bytes_binaryToHexString]
    exact Hex.denotes_map_upper bin.toList
  have hspec := hexStringToBuffer_spec (binaryToHexString bin.toList) buffer
  rwa [hexStringToBytes_eq_some_iff.mpr hdenotes] at hspec

/-- The bytes that a text denotes are printed as that text in upper case. -/
theorem binaryToHexString_of_denotes {bin : List UInt8} (h : Hex.Denotes s.bytes bin) :
    binaryToHexString bin = upperCase s := by
  apply CStr.ext
  rw [bytes_binaryToHexString]
  exact h.map_upper.symm

theorem codecsInverse (hn : 1 ≤ n) : CodecsInverse n where
  accepts s buffer := by
    rcases hexStringToBuffer_cases s buffer with ⟨htext, output, -, hdecode⟩ | ⟨hnot, hzero⟩
    · exact iff_of_true (congrArg Prod.snd hdecode) htext
    · exact iff_of_false (by omega) hnot
  rejects s buffer hnot := by
    rcases hexStringToBuffer_cases s buffer with ⟨htext, -⟩ | ⟨-, hzero⟩
    · exact absurd htext hnot
    · exact hzero
  decodes bin buffer hexSize hexStr hsize := by
    have hlength : bin.toList.length * 2 = 2 * n := by
      rw [Vector.length_toList, Nat.mul_comm]
    obtain ⟨out, hout, hbehind, htext⟩ :=
      toCStr_binaryToHexBuffer bin.toList hexStr (hlength.symm ▸ hsize)
    rw [hlength] at hbehind
    refine ⟨out, hout, hbehind, ?_⟩
    rw [htext, hexStringToBuffer_binaryToHexString]
  encodes s buffer hexSize hexStr htext hsize := by
    rcases hexStringToBuffer_cases s buffer with ⟨-, output, hdenotes, hdecode⟩ | ⟨hnot, -⟩
    swap
    · exact absurd htext hnot
    have hlength : output.toList.length * 2 = 2 * n := by
      rw [Vector.length_toList, Nat.mul_comm]
    obtain ⟨out, hout, -, hprinted⟩ :=
      toCStr_binaryToHexBuffer output.toList hexStr (hlength.symm ▸ hsize)
    rw [hdecode]
    exact ⟨out, hout, hprinted.trans (binaryToHexString_of_denotes hdenotes)⟩

end Orchestrator.Messages
