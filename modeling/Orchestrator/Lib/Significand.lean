import Mathlib.Algebra.Order.Ring.Nat
import Mathlib.Data.Nat.Dist
import Mathlib.Data.Nat.Log
import Mathlib.Tactic.Ring

/-!
# Natural numbers with a bounded significand

A number with a `p`-bit significand is a multiple `k * 2 ^ e` with `k ≤ 2 ^ p`. Other
numbers are rounded to the nearest one of these, and to the even significand when there
are two.
-/

namespace Orchestrator.Lib

/-- The quotient rounded to the nearest number, ties to even. -/
def divNearest (n s : Nat) : Nat :=
  if 2 * (n % s) < s then n / s
  else if s < 2 * (n % s) then n / s + 1
  else n / s + n / s % 2

/-- The binary digits that do not fit into `p` of them. -/
def excess (p n : Nat) : Nat := n.log2 + 1 - p

def roundToEven (p n : Nat) : Nat := divNearest n (2 ^ excess p n) * 2 ^ excess p n

/-- The number has a significand of `p` bits. -/
def Representable (p n : Nat) : Prop := ∃ k e, k ≤ 2 ^ p ∧ n = k * 2 ^ e

variable {p n m s e k : Nat}

/-! ## Quotients -/

theorem divNearest_mul_of_dvd (h : s ∣ n) : divNearest n s * s = n := by
  have hdiv := Nat.div_mul_cancel h
  rw [divNearest, Nat.mod_eq_zero_of_dvd h]
  rcases Nat.eq_zero_or_pos s with rfl | hs
  · simpa using hdiv
  · simpa [hs] using hdiv

theorem divNearest_cases (n s : Nat) :
    divNearest n s = n / s ∧ 2 * (n % s) ≤ s ∨
      divNearest n s = n / s + 1 ∧ s ≤ 2 * (n % s) := by
  unfold divNearest
  split
  · exact .inl ⟨rfl, by omega⟩
  · split
    · exact .inr ⟨rfl, by omega⟩
    · rcases Nat.mod_two_eq_zero_or_one (n / s) with h | h
      · exact .inl ⟨by omega, by omega⟩
      · exact .inr ⟨by omega, by omega⟩

/-- No multiple is closer than the one with the rounded quotient. -/
theorem dist_divNearest_le (n s q : Nat) :
    Nat.dist n (divNearest n s * s) ≤ Nat.dist n (q * s) := by
  have hn := Nat.div_add_mod' n s
  have hbelow : q ≤ n / s → q * s ≤ n / s * s := Nat.mul_le_mul_right s
  have habove : n / s + 1 ≤ q → (n / s + 1) * s ≤ q * s := Nat.mul_le_mul_right s
  have hsucc : (n / s + 1) * s = n / s * s + s := Nat.succ_mul _ _
  unfold Nat.dist
  rcases divNearest_cases n s with ⟨heq, hle⟩ | ⟨heq, hle⟩
  · rw [heq]
    rcases Nat.lt_or_ge q (n / s + 1) with hq | hq
    · have := hbelow (by omega)
      omega
    · have := habove hq
      omega
  · rw [heq]
    rcases Nat.lt_or_ge q (n / s + 1) with hq | hq
    · have := hbelow (by omega)
      rcases Nat.eq_zero_or_pos s with rfl | hs
      · omega
      · have := Nat.mod_lt n hs
        omega
    · have := habove hq
      rcases Nat.eq_zero_or_pos s with rfl | hs
      · omega
      · have := Nat.mod_lt n hs
        omega

/-! ## Binades -/

theorem excess_of_lt (hp : 0 < p) (h : n < 2 ^ p) : excess p n = 0 := by
  unfold excess
  rcases Nat.eq_zero_or_pos n with rfl | hn
  · rw [Nat.log2_zero]
    omega
  · have hlt := (Nat.log2_lt (Nat.ne_of_gt hn)).mpr h
    omega

theorem excess_of_le (hle : 2 ^ (p + e) ≤ n) (hlt : n < 2 ^ (p + e + 1)) :
    excess p n = e + 1 := by
  have hn : n ≠ 0 := Nat.ne_of_gt (Nat.lt_of_lt_of_le (Nat.two_pow_pos _) hle)
  have hlog := (Nat.log2_eq_iff hn).mpr ⟨hle, hlt⟩
  unfold excess
  omega

/-- A number that does not fit lies in a binade. -/
theorem exists_binade (h : 2 ^ p ≤ n) : ∃ e, 2 ^ (p + e) ≤ n ∧ n < 2 ^ (p + e + 1) := by
  have hn : n ≠ 0 := Nat.ne_of_gt (Nat.lt_of_lt_of_le (Nat.two_pow_pos _) h)
  have hlog := (Nat.le_log2 hn).mpr h
  refine ⟨n.log2 - p, ?_, ?_⟩
  · rw [Nat.add_sub_cancel' hlog]
    exact Nat.log2_self_le hn
  · rw [Nat.add_sub_cancel' hlog]
    exact Nat.lt_log2_self

/-- A number of the binade has a quotient with exactly `p` bits. -/
theorem div_binade (hp : 0 < p) (hle : 2 ^ (p + e) ≤ n) (hlt : n < 2 ^ (p + e + 1)) :
    2 ^ (p - 1) ≤ n / 2 ^ (e + 1) ∧ n / 2 ^ (e + 1) < 2 ^ p := by
  constructor
  · rw [Nat.le_div_iff_mul_le (Nat.two_pow_pos _), ← Nat.pow_add,
      show p - 1 + (e + 1) = p + e by omega]
    exact hle
  · rw [Nat.div_lt_iff_lt_mul (Nat.two_pow_pos _), ← Nat.pow_add]
    exact hlt

/-- A number with a `p`-bit significand is a multiple of the spacing of a binade, or lies
below the binade. -/
theorem Representable.dvd_or_le (h : Representable p m) (e : Nat) :
    2 ^ (e + 1) ∣ m ∨ m ≤ 2 ^ (p + e) := by
  obtain ⟨k, f, hk, rfl⟩ := h
  rcases Nat.lt_or_ge e f with hf | hf
  · exact .inl (Dvd.dvd.mul_left (Nat.pow_dvd_pow 2 hf) k)
  · right
    calc k * 2 ^ f
      _ ≤ 2 ^ p * 2 ^ e := Nat.mul_le_mul hk (Nat.pow_le_pow_right (by decide) hf)
      _ = 2 ^ (p + e) := (Nat.pow_add 2 p e).symm

/-! ## Rounding -/

theorem roundToEven_of_lt (hp : 0 < p) (h : n < 2 ^ p) : roundToEven p n = n := by
  rw [roundToEven, excess_of_lt hp h]
  exact divNearest_mul_of_dvd (Nat.one_dvd n)

theorem roundToEven_of_binade (hle : 2 ^ (p + e) ≤ n) (hlt : n < 2 ^ (p + e + 1)) :
    roundToEven p n = divNearest n (2 ^ (e + 1)) * 2 ^ (e + 1) := by
  rw [roundToEven, excess_of_le hle hlt]

theorem representable_roundToEven (hp : 0 < p) (n : Nat) : Representable p (roundToEven p n) := by
  rcases Nat.lt_or_ge n (2 ^ p) with hsmall | hlarge
  · exact ⟨n, 0, hsmall.le, by rw [roundToEven_of_lt hp hsmall, Nat.pow_zero, Nat.mul_one]⟩
  · obtain ⟨e, hle, hlt⟩ := exists_binade hlarge
    refine ⟨divNearest n (2 ^ (e + 1)), e + 1, ?_, roundToEven_of_binade hle hlt⟩
    have hquotient := (div_binade hp hle hlt).2
    rcases divNearest_cases n (2 ^ (e + 1)) with ⟨heq, -⟩ | ⟨heq, -⟩
    · exact heq ▸ hquotient.le
    · exact heq ▸ hquotient

/-- A number that is representable is not changed. -/
theorem Representable.roundToEven_eq (hp : 0 < p) (h : Representable p m) :
    roundToEven p m = m := by
  rcases Nat.lt_or_ge m (2 ^ p) with hsmall | hlarge
  · exact roundToEven_of_lt hp hsmall
  · obtain ⟨e, hle, hlt⟩ := exists_binade hlarge
    rw [roundToEven_of_binade hle hlt]
    rcases h.dvd_or_le e with hdvd | hm
    · exact divNearest_mul_of_dvd hdvd
    · obtain rfl := Nat.le_antisymm hm hle
      exact divNearest_mul_of_dvd (Nat.pow_dvd_pow 2 (by omega))

/-- No representable number is closer. -/
theorem dist_roundToEven_le (hp : 0 < p) (h : Representable p m) :
    Nat.dist n (roundToEven p n) ≤ Nat.dist n m := by
  rcases Nat.lt_or_ge n (2 ^ p) with hsmall | hlarge
  · rw [roundToEven_of_lt hp hsmall, Nat.dist_self]
    exact Nat.zero_le _
  · obtain ⟨e, hle, hlt⟩ := exists_binade hlarge
    rw [roundToEven_of_binade hle hlt]
    rcases h.dvd_or_le e with hdvd | hm
    · obtain ⟨q, rfl⟩ := hdvd
      rw [Nat.mul_comm _ q]
      exact dist_divNearest_le n _ q
    · -- The start of the binade lies between the two.
      have hstart : 2 ^ (p - 1) * 2 ^ (e + 1) = 2 ^ (p + e) := by
        rw [← Nat.pow_add]
        congr 1
        omega
      have hnear := dist_divNearest_le n (2 ^ (e + 1)) (2 ^ (p - 1))
      rw [hstart] at hnear
      refine Nat.le_trans hnear ?_
      unfold Nat.dist
      omega

/-! ## Numbers that nothing else is rounded to -/

/-- The numbers below the first binade, and every other even number of the first one. -/
def Unmistakable (p n : Nat) : Prop := n < 2 ^ p ∨ n < 2 ^ (p + 1) ∧ n % 4 = 2

instance (p n : Nat) : Decidable (Unmistakable p n) :=
  inferInstanceAs (Decidable (_ ∨ _))

/-- Odd numbers of the first binade are rounded to multiples of four. -/
theorem divNearest_two_mod (hodd : n % 2 = 1) : divNearest n 2 * 2 % 4 = 0 := by
  rw [divNearest, hodd]
  simp only [Nat.mul_one, Nat.lt_irrefl, if_false]
  omega

theorem Unmistakable.roundToEven_eq (hp : 0 < p) (h : Unmistakable p n) :
    roundToEven p n = n := by
  rcases h with hsmall | ⟨hlt, hmod⟩
  · exact roundToEven_of_lt hp hsmall
  · rcases Nat.lt_or_ge n (2 ^ p) with hsmall | hlarge
    · exact roundToEven_of_lt hp hsmall
    · rw [roundToEven_of_binade (e := 0) hlarge hlt]
      exact divNearest_mul_of_dvd (Nat.dvd_of_mod_eq_zero (by omega))

theorem Unmistakable.roundToEven_ne (hp : 0 < p) (h : Unmistakable p n) (hm : m ≠ n) :
    roundToEven p m ≠ roundToEven p n := by
  rw [h.roundToEven_eq hp]
  intro heq
  rcases Nat.lt_or_ge m (2 ^ p) with hsmall | hlarge
  · exact hm ((roundToEven_of_lt hp hsmall).symm.trans heq)
  · obtain ⟨e, hle, hlt⟩ := exists_binade hlarge
    rw [roundToEven_of_binade hle hlt] at heq
    have hstart : 2 ^ (p - 1) * 2 ^ (e + 1) = 2 ^ (p + e) := by
      rw [← Nat.pow_add]
      congr 1
      omega
    have hquotient : 2 ^ (p - 1) ≤ divNearest m (2 ^ (e + 1)) := by
      have hdiv := (div_binade hp hle hlt).1
      rcases divNearest_cases m (2 ^ (e + 1)) with ⟨hcase, -⟩ | ⟨hcase, -⟩ <;> omega
    have hn : 2 ^ (p + e) ≤ n := by
      rw [← hstart, ← heq]
      exact Nat.mul_le_mul_right _ hquotient
    rcases h with hbelow | ⟨hfirst, hmod⟩
    · have hpow := Nat.pow_le_pow_right (n := 2) (by decide) (Nat.le_add_right p e)
      omega
    · have he : e = 0 := by
        have hpow := (Nat.pow_lt_pow_iff_right (a := 2) (by decide)).mp
          (Nat.lt_of_le_of_lt hn hfirst)
        omega
      subst he
      rcases Nat.mod_two_eq_zero_or_one m with heven | hodd
      · exact hm ((divNearest_mul_of_dvd (Nat.dvd_of_mod_eq_zero heven)).symm.trans heq)
      · have hzero := divNearest_two_mod hodd
        rw [Nat.zero_add, Nat.pow_one] at heq
        omega

/-- The successor of a multiple is rounded down to it, unless it is the middle of two. -/
theorem divNearest_mul_add_one {q : Nat} (hs : 2 < s ∨ s = 2 ∧ q % 2 = 0) :
    divNearest (q * s + 1) s = q := by
  have hpos : 0 < s := by omega
  have hdiv : (q * s + 1) / s = q := by
    rw [Nat.mul_comm, Nat.mul_add_div hpos, Nat.div_eq_of_lt (by omega), Nat.add_zero]
  have hmod : (q * s + 1) % s = 1 := by
    rw [Nat.mul_comm, Nat.mul_add_mod, Nat.mod_eq_of_lt (by omega)]
  rw [divNearest, hdiv, hmod]
  rcases hs with hs | ⟨rfl, heven⟩
  · exact if_pos hs
  · simp [heven]

/-- Any other number shares its rounding with its successor or with the rounding itself. -/
theorem exists_roundToEven_eq (hp : 0 < p) (h : ¬Unmistakable p n) :
    ∃ m, m ≠ n ∧ roundToEven p m = roundToEven p n ∧ (m = n + 1 ∨ m = roundToEven p n) := by
  by_cases hround : roundToEven p n = n
  · obtain ⟨hlarge, hfirst⟩ := not_or.mp h
    obtain ⟨e, hle, hlt⟩ := exists_binade (Nat.not_lt.mp hlarge)
    refine ⟨n + 1, Nat.succ_ne_self n, ?_, .inl rfl⟩
    have hexact := hround
    rw [roundToEven_of_binade hle hlt] at hexact
    have hsucc : n + 1 < 2 ^ (p + e + 1) := by
      have htop : 2 ^ (p + e + 1) = 2 ^ p * 2 ^ (e + 1) := by rw [← Nat.pow_add, Nat.add_assoc]
      rw [htop, ← hexact] at hlt ⊢
      have hnext := Nat.mul_le_mul_right (2 ^ (e + 1)) (Nat.lt_of_mul_lt_mul_right hlt)
      have hspace := Nat.one_lt_two_pow (Nat.succ_ne_zero e)
      rw [Nat.succ_mul] at hnext
      omega
    have hspacing : 2 < 2 ^ (e + 1) ∨ 2 ^ (e + 1) = 2 ∧ divNearest n (2 ^ (e + 1)) % 2 = 0 := by
      cases e with
      | zero =>
          right
          refine ⟨rfl, ?_⟩
          have hother : ¬n % 4 = 2 := fun hmod => hfirst ⟨hlt, hmod⟩
          simp only [Nat.zero_add, Nat.pow_one] at hexact ⊢
          omega
      | succ e =>
          left
          have hpow := Nat.two_pow_pos e
          rw [Nat.pow_succ, Nat.pow_succ]
          omega
    rw [roundToEven_of_binade (Nat.le_succ_of_le hle) hsucc, hround]
    conv_lhs => rw [← hexact]
    rw [divNearest_mul_add_one hspacing, hexact]
  · exact ⟨roundToEven p n, hround, (representable_roundToEven hp n).roundToEven_eq hp, .inr rfl⟩

end Orchestrator.Lib
