import Mathlib.Data.List.Basic
import Mathlib.Logic.Equiv.Basic
import Mathlib.Data.Fin.Basic
import Mathlib.Algebra.Order.Ring.Nat

/-!
# Fixed-size memory layouts

A layout says how the values of a type lie in a fixed number of bytes. Every
value has bytes and every sequence of that many bytes is a value, as for a C
structure whose padding is part of the value.
-/

namespace Orchestrator.Lib

universe u v

/-- The bytes of a value, and the value that the first bytes of memory hold. -/
structure Layout (α : Type u) where
  size : Nat
  encode : α → List UInt8
  decode : List UInt8 → α
  length_encode : ∀ a, (encode a).length = size
  decode_append : ∀ a rest, decode (encode a ++ rest) = a
  encode_decode : ∀ bytes, size ≤ bytes.length → encode (decode bytes) = bytes.take size

namespace Layout

variable {α : Type u} {β : Type v}

theorem decode_encode (L : Layout α) (a : α) : L.decode (L.encode a) = a := by
  have h := L.decode_append a []
  rwa [List.append_nil] at h

/-- A sequence of exactly the right length is the bytes of what it holds. -/
theorem encode_decode_of_length (L : Layout α) {bytes : List UInt8}
    (h : bytes.length = L.size) : L.encode (L.decode bytes) = bytes := by
  rw [L.encode_decode bytes h.ge, ← h, List.take_length]

/-- The same bytes seen as another type. -/
def ofEquiv (L : Layout α) (e : α ≃ β) : Layout β where
  size := L.size
  encode b := L.encode (e.symm b)
  decode bytes := e (L.decode bytes)
  length_encode b := L.length_encode (e.symm b)
  decode_append b rest := by rw [L.decode_append, e.apply_symm_apply]
  encode_decode bytes h := by rw [e.symm_apply_apply, L.encode_decode bytes h]

/-- Two members, one after the other. -/
def prod (L : Layout α) (M : Layout β) : Layout (α × β) where
  size := L.size + M.size
  encode p := L.encode p.1 ++ M.encode p.2
  decode bytes := (L.decode bytes, M.decode (bytes.drop L.size))
  length_encode p := by rw [List.length_append, L.length_encode, M.length_encode]
  decode_append p rest := by
    have hdrop : (L.encode p.1 ++ (M.encode p.2 ++ rest)).drop L.size = M.encode p.2 ++ rest := by
      rw [← L.length_encode p.1, List.drop_left]
    rw [List.append_assoc, L.decode_append, hdrop, M.decode_append]
  encode_decode bytes h := by
    have hfirst := L.encode_decode bytes (by omega)
    have hsecond := M.encode_decode (bytes.drop L.size) (by
      rw [List.length_drop]
      omega)
    rw [hfirst, hsecond, List.take_add]

/-- One byte. -/
def byte : Layout UInt8 where
  size := 1
  encode b := [b]
  decode bytes := bytes.headD 0
  length_encode _ := rfl
  decode_append _ _ := rfl
  encode_decode bytes h := by
    cases bytes with
    | nil => cases h
    | cons b bytes => simp

/-! ## Arrays -/

/-- The elements of `n` consecutive cells. -/
def decodeCells (L : Layout α) : Nat → List UInt8 → List α
  | 0, _ => []
  | n + 1, bytes => L.decode bytes :: decodeCells L n (bytes.drop L.size)

theorem length_decodeCells (L : Layout α) (n : Nat) (bytes : List UInt8) :
    (L.decodeCells n bytes).length = n := by
  induction n generalizing bytes with
  | zero => rfl
  | succ n ih => simp [decodeCells, ih]

theorem length_flatMap_encode (L : Layout α) (cells : List α) :
    (cells.flatMap L.encode).length = cells.length * L.size := by
  induction cells with
  | nil => simp
  | cons a cells ih =>
      rw [List.flatMap_cons, List.length_append, L.length_encode, ih, List.length_cons,
        Nat.succ_mul, Nat.add_comm]

theorem decodeCells_flatMap (L : Layout α) (cells : List α) (rest : List UInt8) :
    L.decodeCells cells.length (cells.flatMap L.encode ++ rest) = cells := by
  induction cells with
  | nil => rfl
  | cons a cells ih =>
      have hdrop : (L.encode a ++ (cells.flatMap L.encode ++ rest)).drop L.size =
          cells.flatMap L.encode ++ rest := by
        rw [← L.length_encode a, List.drop_left]
      rw [List.length_cons, decodeCells, List.flatMap_cons, List.append_assoc, L.decode_append,
        hdrop, ih]

theorem flatMap_decodeCells (L : Layout α) (n : Nat) (bytes : List UInt8)
    (h : n * L.size ≤ bytes.length) :
    (L.decodeCells n bytes).flatMap L.encode = bytes.take (n * L.size) := by
  induction n generalizing bytes with
  | zero => simp [decodeCells]
  | succ n ih =>
      rw [Nat.succ_mul] at h
      have hrest := ih (bytes.drop L.size) (by
        rw [List.length_drop]
        omega)
      rw [decodeCells, List.flatMap_cons, L.encode_decode bytes (by omega), hrest,
        Nat.succ_mul, Nat.add_comm, List.take_add]

/-- An array of `n` elements. -/
def vector (L : Layout α) (n : Nat) : Layout (Vector α n) where
  size := n * L.size
  encode v := v.toList.flatMap L.encode
  decode bytes := Vector.mk (L.decodeCells n bytes).toArray (by
    rw [List.size_toArray, length_decodeCells])
  length_encode v := by rw [length_flatMap_encode, Vector.length_toList]
  decode_append v rest := by
    have h := L.decodeCells_flatMap v.toList rest
    rw [Vector.length_toList] at h
    apply Vector.toList_inj.mp
    exact h
  encode_decode bytes h := L.flatMap_decodeCells n bytes h

/-! ## Little-endian numbers -/

/-- The lowest byte of a number and the rest of it. -/
def lowByte (w : Nat) : UInt8 × Fin (256 ^ w) ≃ Fin (256 ^ (w + 1)) where
  toFun p := ⟨p.1.toNat + 256 * p.2.val, by
    have hlow := p.1.toNat_lt
    have hhigh := p.2.isLt
    rw [Nat.pow_succ]
    omega⟩
  invFun n := (UInt8.ofNat (n.val % 256), ⟨n.val / 256, by
    have hn := n.isLt
    have hpow : 256 ^ (w + 1) = 256 ^ w * 256 := Nat.pow_succ 256 w
    omega⟩)
  left_inv p := by
    have hlow := p.1.toNat_lt
    ext
    · rw [UInt8.toNat_ofNat']
      dsimp only
      omega
    · dsimp only
      omega
  right_inv n := by
    ext
    dsimp only
    rw [UInt8.toNat_ofNat']
    omega

/-- Numbers below `256 ^ w` in `w` bytes, the lowest byte first. -/
def littleEndian : (w : Nat) → Layout (Fin (256 ^ w))
  | 0 =>
      { size := 0
        encode := fun _ => []
        decode := fun _ => 0
        length_encode := fun _ => rfl
        decode_append := fun a _ => Subsingleton.elim (α := Fin 1) 0 a
        encode_decode := fun bytes _ => by rw [List.take_zero] }
  | w + 1 => (byte.prod (littleEndian w)).ofEquiv (lowByte w)

def uint16 : Layout UInt16 := (littleEndian 2).ofEquiv
  { toFun := fun n => UInt16.ofNat n.val
    invFun := fun x => ⟨x.toNat, x.toNat_lt⟩
    left_inv := fun n => by ext; exact UInt16.toNat_ofNat_of_lt n.isLt
    right_inv := fun x => UInt16.ofNat_toNat }

def uint32 : Layout UInt32 := (littleEndian 4).ofEquiv
  { toFun := fun n => UInt32.ofNat n.val
    invFun := fun x => ⟨x.toNat, x.toNat_lt⟩
    left_inv := fun n => by ext; exact UInt32.toNat_ofNat_of_lt n.isLt
    right_inv := fun x => UInt32.ofNat_toNat }

def uint64 : Layout UInt64 := (littleEndian 8).ofEquiv
  { toFun := fun n => UInt64.ofNat n.val
    invFun := fun x => ⟨x.toNat, x.toNat_lt⟩
    left_inv := fun n => by ext; exact UInt64.toNat_ofNat_of_lt n.isLt
    right_inv := fun x => UInt64.ofNat_toNat }

end Layout

end Orchestrator.Lib
