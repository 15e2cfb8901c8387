import Orchestrator.Lib.CString

/-!
# UTF-8 in C strings

Valid UTF-8 may be cut exactly where a character begins.
-/

namespace Orchestrator.Lib

/-- Valid UTF-8. -/
def ValidUtf8 (bytes : List UInt8) : Prop := bytes.toByteArray.IsValidUTF8

/-- The byte behind the first `n`, if there is one, begins a character. -/
def CutsCleanly (n : Nat) (bytes : List UInt8) : Prop := ∀ b ∈ bytes[n]?, b.IsUTF8FirstByte

instance (bytes : List UInt8) : Decidable (ValidUtf8 bytes) :=
  inferInstanceAs (Decidable bytes.toByteArray.IsValidUTF8)

instance (n : Nat) (bytes : List UInt8) : Decidable (CutsCleanly n bytes) :=
  match h : bytes[n]? with
  | none => isTrue (by rw [CutsCleanly, h]; exact nofun)
  | some b => decidable_of_iff b.IsUTF8FirstByte (by
      rw [CutsCleanly, h]
      exact ⟨fun hb _ heq => Option.some.inj heq ▸ hb, fun hall => hall b rfl⟩)

theorem ValidUtf8.nil : ValidUtf8 [] := ByteArray.isValidUTF8_empty

theorem ValidUtf8.append {front back : List UInt8} (hfront : ValidUtf8 front)
    (hback : ValidUtf8 back) : ValidUtf8 (front ++ back) := by
  unfold ValidUtf8
  rw [List.toByteArray_append]
  exact ByteArray.IsValidUTF8.append hfront hback

theorem toByteArray_take (bytes : List UInt8) (n : Nat) :
    (bytes.take n).toByteArray = bytes.toByteArray.extract 0 n := by
  apply ByteArray.ext
  simp

/-- A cut keeps valid UTF-8 valid if and only if it falls between two characters. -/
theorem validUtf8_take_iff {bytes : List UInt8} (h : ValidUtf8 bytes) (n : Nat) :
    ValidUtf8 (bytes.take n) ↔ CutsCleanly n bytes := by
  rcases Nat.lt_or_ge n bytes.length with hn | hn
  · let s : String := ⟨bytes.toByteArray, h⟩
    have hend : s.rawEndPos.byteIdx = bytes.length := by
      simp [s, ← String.size_toByteArray]
    have hlt : (⟨n⟩ : String.Pos.Raw) < s.rawEndPos := by
      rw [String.Pos.Raw.lt_iff, hend]
      exact hn
    have hbyte : s.getUTF8Byte ⟨n⟩ hlt = bytes[n] := by
      simp [s, String.getUTF8Byte]
    have hvalid : (⟨n⟩ : String.Pos.Raw).IsValid s ↔ ValidUtf8 (bytes.take n) := by
      rw [String.Pos.Raw.isValid_iff_isValidUTF8_extract_zero, ValidUtf8, toByteArray_take]
      exact and_iff_right (String.Pos.Raw.le_iff.mpr (by rw [hend]; exact hn.le))
    rw [← hvalid, String.Pos.Raw.isValid_iff_isUTF8FirstByte, CutsCleanly,
      List.getElem?_eq_getElem hn]
    constructor
    · rintro (heq | ⟨_, hfirst⟩) b hb
      · rw [heq] at hlt
        exact absurd hlt (by simp [String.Pos.Raw.lt_iff])
      · cases hb
        rwa [hbyte] at hfirst
    · intro hfirst
      refine .inr ⟨hlt, ?_⟩
      rw [hbyte]
      exact hfirst _ rfl
  · rw [List.take_of_length_le hn, CutsCleanly, List.getElem?_eq_none hn]
    exact iff_of_true h nofun

theorem validUtf8_singleton {b : UInt8} (h : b.toNat < 128) : ValidUtf8 [b] := by
  have hall : ∀ n : Fin 128, ValidUtf8 [UInt8.ofNat n] := by decide +kernel
  have hb := hall ⟨b.toNat, h⟩
  rwa [UInt8.ofNat_toNat] at hb

/-- ASCII is valid UTF-8. -/
theorem validUtf8_of_ascii {bytes : List UInt8} (h : ∀ b ∈ bytes, b.toNat < 128) :
    ValidUtf8 bytes := by
  induction bytes with
  | nil => exact ValidUtf8.nil
  | cons b bytes ih =>
      have hb : ValidUtf8 [b] := validUtf8_singleton (h b List.mem_cons_self)
      exact hb.append (ih fun c hc => h c (List.mem_cons_of_mem b hc))

/-- Reading a string stops at its end or in front of a NUL. -/
theorem exists_take_eq_beforeNul (bytes : List UInt8) :
    ∃ n, CStr.beforeNul bytes = bytes.take n ∧ ∀ b ∈ bytes[n]?, b = 0 := by
  induction bytes with
  | nil => exact ⟨0, rfl, nofun⟩
  | cons b bytes ih =>
      unfold CStr.beforeNul
      split
      · next hb => exact ⟨0, rfl, fun c hc => (Option.some.inj hc).symm.trans hb⟩
      · obtain ⟨n, htake, hzero⟩ := ih
        refine ⟨n + 1, ?_, hzero⟩
        rw [htake, List.take_succ_cons]

theorem validUtf8_beforeNul {bytes : List UInt8} (h : ValidUtf8 bytes) :
    ValidUtf8 (CStr.beforeNul bytes) := by
  obtain ⟨n, htake, hzero⟩ := exists_take_eq_beforeNul bytes
  rw [htake, validUtf8_take_iff h]
  intro b hb
  rw [hzero b hb]
  decide

/-! ## C strings -/

namespace CStr

def Utf8 (s : CStr) : Prop := ValidUtf8 s.bytes

instance (s : CStr) : Decidable s.Utf8 := inferInstanceAs (Decidable (ValidUtf8 s.bytes))

theorem utf8_take_iff {s : CStr} (h : s.Utf8) (n : Nat) :
    (s.take n).Utf8 ↔ CutsCleanly n s.bytes :=
  validUtf8_take_iff h n

theorem utf8_append {s t : CStr} (hs : s.Utf8) (ht : t.Utf8) : (s ++ t).Utf8 :=
  ValidUtf8.append hs ht

theorem utf8_lit (s : String) : (lit s).Utf8 := by
  apply validUtf8_beforeNul
  have hbytes : s.toByteArray.data.toList.toByteArray = s.toByteArray := by
    apply ByteArray.ext
    simp
  unfold ValidUtf8
  rw [hbytes]
  exact s.isValidUTF8

theorem utf8_take_decimal (n k : Nat) : ((decimal n).take k).Utf8 := by
  apply validUtf8_of_ascii
  intro b hb
  exact Nat.lt_of_le_of_lt (decimal_digit (List.mem_of_mem_take hb)).2 (by decide)

end CStr

end Orchestrator.Lib
