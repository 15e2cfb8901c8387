import Mathlib.Data.List.Induction

/-!
# Hexadecimal text

A text denotes some bytes when its lower-case form is their hexadecimal form. So
both cases of a digit are the same digit.
-/

namespace Orchestrator.Lib.Hex

/-- The digit of a number below sixteen. -/
def digit (n : UInt8) : UInt8 := if n < 10 then 48 + n else 87 + n

/-- The digits above nine in one case. -/
def lower (c : UInt8) : UInt8 := if 65 ≤ c ∧ c ≤ 70 then c + 32 else c

/-- A letter in upper case. -/
def upper (c : UInt8) : UInt8 := if 97 ≤ c ∧ c ≤ 122 then c - 32 else c

/-- The character is a digit with this value. -/
def HasValue (c n : UInt8) : Prop := n < 16 ∧ lower c = digit n

def IsDigit (c : UInt8) : Prop := ∃ n, HasValue c n

/-- Two digits for each byte, the higher one first. -/
def encode (bytes : List UInt8) : List UInt8 :=
  bytes.flatMap fun b => [digit (b / 16), digit (b % 16)]

/-- The text is the hexadecimal form of the bytes. -/
def Denotes (text bytes : List UInt8) : Prop := text.map lower = encode bytes

variable {c n m high low b : UInt8} {text bytes : List UInt8}

/-! ## Digits -/

theorem forall_uint8 {P : UInt8 → Prop} (h : ∀ i : Fin 256, P (UInt8.ofFin i)) (b : UInt8) :
    P b := h b.toFin

theorem digit_injective (hn : n < 16) (hm : m < 16) (h : digit n = digit m) : n = m := by
  have hall : ∀ i j : Fin 16,
      digit (UInt8.ofNat i) = digit (UInt8.ofNat j) → i = j := by decide
  have heq := hall ⟨n.toNat, hn⟩ ⟨m.toNat, hm⟩ (by simpa using h)
  exact UInt8.toNat_inj.mp (Fin.mk.inj heq)

theorem HasValue.unique (hn : HasValue c n) (hm : HasValue c m) : n = m :=
  digit_injective hn.1 hm.1 (hn.2.symm.trans hm.2)

theorem nibbles_lt (b : UInt8) : b / 16 < 16 ∧ b % 16 < 16 :=
  forall_uint8 (P := fun b => b / 16 < 16 ∧ b % 16 < 16) (by decide +kernel) b

/-- A byte is put together from the values of its digits. -/
theorem nibbles_of_lt (hhigh : high < 16) (hlow : low < 16) :
    (high <<< 4 ||| low) / 16 = high ∧ (high <<< 4 ||| low) % 16 = low := by
  have hall : ∀ i j : Fin 16,
      ((UInt8.ofNat i) <<< 4 ||| UInt8.ofNat j) / 16 = UInt8.ofNat i ∧
        ((UInt8.ofNat i) <<< 4 ||| UInt8.ofNat j) % 16 = UInt8.ofNat j := by decide
  have h := hall ⟨high.toNat, hhigh⟩ ⟨low.toNat, hlow⟩
  simpa using h

theorem nibbles_join (b : UInt8) : (b / 16) <<< 4 ||| b % 16 = b :=
  forall_uint8 (P := fun b => (b / 16) <<< 4 ||| b % 16 = b) (by decide +kernel) b

/-! ## Texts -/

@[simp] theorem encode_nil : encode [] = [] := rfl

@[simp] theorem encode_cons :
    encode (b :: bytes) = digit (b / 16) :: digit (b % 16) :: encode bytes := rfl

theorem length_encode (bytes : List UInt8) : (encode bytes).length = 2 * bytes.length := by
  induction bytes with
  | nil => rfl
  | cons b bytes ih =>
      rw [encode_cons, List.length_cons, List.length_cons, ih, List.length_cons]
      omega

theorem Denotes.length_eq (h : Denotes text bytes) : text.length = 2 * bytes.length := by
  calc
    text.length = (text.map lower).length := (List.length_map lower).symm
    _ = (encode bytes).length := congrArg List.length h
    _ = 2 * bytes.length := length_encode bytes

theorem denotes_nil : Denotes [] bytes ↔ bytes = [] := by
  cases bytes with
  | nil => simp [Denotes]
  | cons b bytes => simp [Denotes]

theorem not_denotes_singleton : ¬Denotes [c] bytes := by
  intro h
  have hlength := h.length_eq
  simp only [List.length_singleton] at hlength
  omega

/-- The first two characters are the digits of the first byte. -/
theorem denotes_cons_cons {d : UInt8} :
    Denotes (c :: d :: text) bytes ↔ ∃ high low rest, HasValue c high ∧ HasValue d low ∧
      Denotes text rest ∧ bytes = (high <<< 4 ||| low) :: rest := by
  constructor
  · intro h
    cases bytes with
    | nil => simp [Denotes] at h
    | cons b bytes =>
        simp only [Denotes, List.map_cons, encode_cons, List.cons.injEq] at h
        obtain ⟨hc, hd, hrest⟩ := h
        obtain ⟨hhigh, hlow⟩ := nibbles_lt b
        exact ⟨b / 16, b % 16, bytes, ⟨hhigh, hc⟩, ⟨hlow, hd⟩, hrest, by rw [nibbles_join]⟩
  · rintro ⟨high, low, rest, ⟨hhigh, hc⟩, ⟨hlow, hd⟩, hrest, rfl⟩
    obtain ⟨hdiv, hmod⟩ := nibbles_of_lt hhigh hlow
    simp only [Denotes, List.map_cons, encode_cons, hdiv, hmod, hc, hd]
    rw [hrest]

theorem isDigit_of_denotes (h : Denotes text bytes) : ∀ c ∈ text, IsDigit c := by
  induction text using List.twoStepInduction generalizing bytes with
  | nil => exact fun c hc => absurd hc List.not_mem_nil
  | singleton d => exact absurd h not_denotes_singleton
  | cons_cons d e text ih _ =>
      obtain ⟨high, low, rest, hd, he, hrest, -⟩ := denotes_cons_cons.mp h
      intro c hc
      rcases List.mem_cons.mp hc with rfl | hc
      · exact ⟨high, hd⟩
      rcases List.mem_cons.mp hc with rfl | hc
      · exact ⟨low, he⟩
      · exact ih hrest c hc

/-- Every text of digits in pairs denotes bytes. -/
theorem exists_denotes {n : Nat} (hlength : text.length = 2 * n) (h : ∀ c ∈ text, IsDigit c) :
    ∃ bytes : List UInt8, bytes.length = n ∧ Denotes text bytes := by
  induction n generalizing text with
  | zero =>
      obtain rfl := List.eq_nil_of_length_eq_zero hlength
      exact ⟨[], rfl, rfl⟩
  | succ n ih =>
      obtain ⟨c, d, rest, rfl⟩ : ∃ c d rest, text = c :: d :: rest := by
        match text, hlength with
        | c :: d :: rest, _ => exact ⟨c, d, rest, rfl⟩
      obtain ⟨high, hc⟩ := h c List.mem_cons_self
      obtain ⟨low, hd⟩ := h d (List.mem_cons_of_mem c List.mem_cons_self)
      simp only [List.length_cons] at hlength
      obtain ⟨bytes, hbytes, hdenotes⟩ := @ih rest (by omega) fun e he =>
        h e (List.mem_cons_of_mem c (List.mem_cons_of_mem d he))
      refine ⟨(high <<< 4 ||| low) :: bytes, congrArg (· + 1) hbytes, ?_⟩
      exact denotes_cons_cons.mpr ⟨high, low, bytes, hc, hd, hdenotes, rfl⟩

/-! ## Upper case -/

theorem isDigit_iff :
    IsDigit c ↔ (48 ≤ c ∧ c ≤ 57) ∨ (65 ≤ c ∧ c ≤ 70) ∨ (97 ≤ c ∧ c ≤ 102) := by
  have hall : ∀ i : Fin 256,
      (∃ n : Fin 16, lower (UInt8.ofFin i) = digit (UInt8.ofNat n)) ↔
        (48 ≤ UInt8.ofFin i ∧ UInt8.ofFin i ≤ 57) ∨ (65 ≤ UInt8.ofFin i ∧ UInt8.ofFin i ≤ 70) ∨
          (97 ≤ UInt8.ofFin i ∧ UInt8.ofFin i ≤ 102) := by decide +kernel
  refine Iff.trans ?_ (hall c.toFin)
  constructor
  · rintro ⟨n, hn, hc⟩
    exact ⟨⟨n.toNat, hn⟩, by simpa using hc⟩
  · rintro ⟨n, hc⟩
    refine ⟨UInt8.ofNat n, ?_, hc⟩
    have hn := n.isLt
    rw [UInt8.lt_iff_toNat_lt, UInt8.toNat_ofNat_of_lt' (by simp [UInt8.size]; omega)]
    exact hn

theorem upper_lower (c : UInt8) : upper (lower c) = upper c :=
  forall_uint8 (P := fun c => upper (lower c) = upper c) (by decide +kernel) c

theorem lower_upper_digit (hn : n < 16) : lower (upper (digit n)) = digit n := by
  have hall : ∀ i : Fin 16,
      lower (upper (digit (UInt8.ofNat i))) = digit (UInt8.ofNat i) := by decide
  simpa using hall ⟨n.toNat, hn⟩

theorem upper_ne_zero (h : c ≠ 0) : upper c ≠ 0 :=
  forall_uint8 (P := fun c => c ≠ 0 → upper c ≠ 0) (by decide +kernel) c h

/-- Both cases of a text are the same in upper case. -/
theorem Denotes.map_upper (h : Denotes text bytes) :
    text.map upper = (encode bytes).map upper := by
  rw [← h, List.map_map]
  exact List.map_congr_left fun c _ => (upper_lower c).symm

/-- The hexadecimal form in upper case denotes the bytes, too. -/
theorem denotes_map_upper (bytes : List UInt8) : Denotes ((encode bytes).map upper) bytes := by
  induction bytes with
  | nil => rfl
  | cons b bytes ih =>
      obtain ⟨hhigh, hlow⟩ := nibbles_lt b
      rw [encode_cons, List.map_cons, List.map_cons]
      rw [denotes_cons_cons]
      refine ⟨b / 16, b % 16, bytes, ⟨hhigh, lower_upper_digit hhigh⟩,
        ⟨hlow, lower_upper_digit hlow⟩, ih, ?_⟩
      rw [nibbles_join]

end Orchestrator.Lib.Hex
