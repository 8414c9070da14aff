import Mathlib

/-! Two-adic roots of unity of an FFT field, and field division that panics on zero. -/

namespace StarkProver

/--
The two-adic structure of an FFT-friendly field, the `IsFFTField` trait of the field library.

The field holds a primitive root of unity of order `2 ^ twoAdicity`, and every root of unity of
a smaller power-of-two order is a power of it.
-/
class IsFFTField (F : Type) [Field F] where
  /-- `TWO_ADICITY`: the largest power-of-two order a root of unity can have in the field. -/
  twoAdicity : Nat
  /-- `TWO_ADIC_PRIMITIVE_ROOT_OF_UNITY`. -/
  twoAdicPrimitiveRootOfUnity : F
  /-- The root has order exactly `2 ^ twoAdicity`. -/
  primitive : IsPrimitiveRoot twoAdicPrimitiveRootOfUnity (2 ^ twoAdicity)

open IsFFTField

section Roots

variable {F : Type} [Field F] [IsFFTField F]

/-- The root of unity of order `2 ^ order`: the two-adic root squared `twoAdicity - order` times. -/
def primitiveRoot (order : Nat) : F :=
  twoAdicPrimitiveRootOfUnity ^ 2 ^ (twoAdicity F - order)

/-- `F::get_primitive_root_of_unity(order)`, which has no answer above the two-adicity. -/
def getPrimitiveRootOfUnity (order : Nat) : Option F :=
  if order ≤ twoAdicity F then some (primitiveRoot order) else none

/-- Below the two-adicity the lookup returns the root of that order. -/
theorem getPrimitiveRootOfUnity_of_le {order : Nat} (fits : order ≤ twoAdicity F) :
    getPrimitiveRootOfUnity order = some (primitiveRoot order : F) := by
  simp [getPrimitiveRootOfUnity, fits]

/-- Above the two-adicity the lookup fails. -/
theorem getPrimitiveRootOfUnity_of_lt {order : Nat} (exceeds : twoAdicity F < order) :
    getPrimitiveRootOfUnity order = (none : Option F) := by
  simp [getPrimitiveRootOfUnity, Nat.not_le.mpr exceeds]

/-- The root of order `2 ^ order` is primitive of that order. -/
theorem primitiveRoot_isPrimitiveRoot {order : Nat} (fits : order ≤ twoAdicity F) :
    IsPrimitiveRoot (primitiveRoot order : F) (2 ^ order) := by
  -- Raising a primitive root of order 2^A to 2^(A - k) leaves one of order 2^k.
  have divides : 2 ^ (twoAdicity F - order) ∣ 2 ^ twoAdicity F :=
    Nat.pow_dvd_pow 2 (Nat.sub_le _ _)
  have quotient : 2 ^ twoAdicity F / 2 ^ (twoAdicity F - order) = 2 ^ order := by
    rw [Nat.pow_div (Nat.sub_le _ _) (by decide), Nat.sub_sub_self fits]
  simpa [primitiveRoot, quotient] using
    (primitive (F := F)).pow_of_dvd (by positivity) divides

/-- Roots of smaller orders are powers of larger ones: `ω_k ^ 2^j = ω_(k - j)`. -/
theorem primitiveRoot_pow_two_pow {order gap : Nat} (within : gap ≤ order)
    (fits : order ≤ twoAdicity F) :
    (primitiveRoot order : F) ^ 2 ^ gap = primitiveRoot (order - gap) := by
  -- Both sides are the two-adic root raised to 2^(A - k + j).
  have exponent : twoAdicity F - (order - gap) = twoAdicity F - order + gap := by omega
  rw [primitiveRoot, primitiveRoot, ← pow_mul, ← pow_add, exponent]

/-- A root of order `2 ^ order` vanishes to the power of its order. -/
theorem primitiveRoot_pow_order {order : Nat} (fits : order ≤ twoAdicity F) :
    (primitiveRoot order : F) ^ 2 ^ order = 1 :=
  (primitiveRoot_isPrimitiveRoot fits).pow_eq_one

/-- Roots of unity are never zero. -/
theorem primitiveRoot_ne_zero (order : Nat) : (primitiveRoot order : F) ≠ 0 := by
  -- The two-adic root is a unit, so all its powers are nonzero.
  have nonzero : (twoAdicPrimitiveRootOfUnity : F) ≠ 0 :=
    (primitive (F := F)).ne_zero (by positivity)
  exact pow_ne_zero _ nonzero

end Roots

section Division

variable {F : Type} [Field F] [DecidableEq F]

/-- Division of field elements: it inverts the divisor, and panics when the divisor is zero. -/
def fieldDiv (numerator denominator : F) : Option F :=
  if denominator = 0 then none else some (numerator / denominator)

/-- A nonzero divisor gives the quotient. -/
@[simp] theorem fieldDiv_of_ne_zero {numerator denominator : F} (nonzero : denominator ≠ 0) :
    fieldDiv numerator denominator = some (numerator / denominator) := by
  simp [fieldDiv, nonzero]

/-- Division succeeds exactly when the divisor is nonzero. -/
theorem fieldDiv_eq_some {numerator denominator quotient : F} :
    fieldDiv numerator denominator = some quotient ↔
      denominator ≠ 0 ∧ numerator / denominator = quotient := by
  unfold fieldDiv
  split <;> simp_all

end Division

section SmallField

/-- The field of seventeen elements, with the inverse taken as `x ^ 15` (Fermat), so that
division evaluates by `decide` like the ring operations do. -/
def GF17 : Type := ZMod 17

instance : CommRing GF17 := inferInstanceAs (CommRing (ZMod 17))

instance : DecidableEq GF17 := inferInstanceAs (DecidableEq (ZMod 17))

instance : Fintype GF17 := inferInstanceAs (Fintype (ZMod 17))

instance : Field GF17 where
  inv x := x ^ 15
  exists_pair_ne := ⟨0, 1, by decide⟩
  mul_inv_cancel := by decide
  inv_zero := by decide
  nnqsmul := _
  qsmul := _

/-- The seventeen-element field as an FFT field: its multiplicative group has order `2 ^ 4` and
is generated by `3`. -/
instance : IsFFTField GF17 where
  twoAdicity := 4
  twoAdicPrimitiveRootOfUnity := 3
  primitive := by
    refine IsPrimitiveRoot.mk_of_lt 3 (by decide) (by decide) ?_
    intro l positive below
    interval_cases l <;> decide

end SmallField

end StarkProver
