import StarkProver.Math.FftField
import StarkProver.Math.Polynomial

/-! The offset FFT of the FFT engine, stated by what it computes. -/

namespace StarkProver

/-- `usize::next_power_of_two`: the smallest power of two at least `n`, found by doubling from
one. -/
def nextPowerOfTwo (n : Nat) : Nat := go n 1
where
  /-- Doubles `power` until it reaches `n`; `n` doublings always suffice. -/
  go : Nat → Nat → Nat
    | 0, power => power
    | fuel + 1, power => if power < n then go fuel (2 * power) else power

/-- The next power of two is a power of two, and at least `n`. -/
theorem nextPowerOfTwo_spec (n : Nat) : ∃ k, nextPowerOfTwo n = 2 ^ k ∧ n ≤ 2 ^ k := by
  -- From `2 ^ j` with `fuel` doublings left the search ends at a power of two at least `n`.
  have search : ∀ fuel j, n ≤ 2 ^ (j + fuel) →
      ∃ k, nextPowerOfTwo.go n fuel (2 ^ j) = 2 ^ k ∧ n ≤ 2 ^ k := by
    intro fuel
    induction fuel with
    | zero => exact fun j reaches => ⟨j, rfl, reaches⟩
    | succ fuel ih =>
      intro j reaches
      rw [nextPowerOfTwo.go]
      split
      · rw [← pow_succ']
        exact ih (j + 1) (by rwa [Nat.add_right_comm])
      · exact ⟨j, rfl, by omega⟩
  simpa using search n 0 (by simpa using (Nat.lt_two_pow n).le)

/-- A power of two is its own next power of two. -/
theorem nextPowerOfTwo_two_pow (k : Nat) : nextPowerOfTwo (2 ^ k) = 2 ^ k := by
  -- Doubling from one passes every smaller power and stops at `2 ^ k`.
  have search : ∀ fuel j, j ≤ k → k ≤ j + fuel → nextPowerOfTwo.go (2 ^ k) fuel (2 ^ j) = 2 ^ k := by
    intro fuel
    induction fuel with
    | zero => intro j below within; rw [show j = k by omega]; rfl
    | succ fuel ih =>
      intro j below within
      rw [nextPowerOfTwo.go]
      split
      · rename_i smaller
        have : j < k := (Nat.pow_lt_pow_iff_right (by decide)).mp smaller
        rw [← pow_succ']
        exact ih (j + 1) (by omega) (by omega)
      · rename_i reached
        have : k ≤ j := by
          by_contra more
          exact reached (Nat.pow_lt_pow_right (by decide) (by omega))
        rw [show j = k by omega]
  exact search (2 ^ k) 0 (Nat.zero_le k) (by simpa using (Nat.lt_two_pow k).le)

/-- `usize::trailing_zeros`, counted by halving while the number is even. -/
def trailingZeros (n : Nat) : Nat := go n n
where
  /-- Halves `m` while it is a nonzero even number. -/
  go : Nat → Nat → Nat
    | 0, _ => 0
    | fuel + 1, m => if m ≠ 0 ∧ m % 2 = 0 then go fuel (m / 2) + 1 else 0

/-- A power of two has its exponent as trailing zeros. -/
theorem trailingZeros_two_pow (k : Nat) : trailingZeros (2 ^ k) = k := by
  -- Each step of the loop halves an even number, so `2 ^ j` takes exactly `j` steps.
  have halving : ∀ fuel j, j ≤ fuel → trailingZeros.go fuel (2 ^ j) = j := by
    intro fuel
    induction fuel with
    | zero => intro j small; rw [show j = 0 by omega]; rfl
    | succ fuel ih =>
      intro j small
      rw [trailingZeros.go]
      cases j with
      | zero => simp
      | succ j =>
        have even : 2 ^ (j + 1) ≠ 0 ∧ 2 ^ (j + 1) % 2 = 0 :=
          ⟨by positivity, by rw [pow_succ]; simp⟩
        rw [if_pos even, pow_succ, Nat.mul_div_cancel _ (by decide), ih j (by omega)]
  exact halving (2 ^ k) k (Nat.lt_two_pow k).le

/-- Errors of the FFT engine. -/
inductive FFTError where
  /-- The field has no root of unity of order `2 ^ order`. -/
  | rootOfUnityError (order : Nat)
  /-- The radix-2 transform needs a power-of-two length. -/
  | inputError (size : Nat)
  deriving DecidableEq, Repr

section Engine

variable {F : Type} [Field F] [DecidableEq F] [IsFFTField F]

/-- The number of evaluations the offset FFT returns: the coefficient count or the requested
domain size, whichever is larger, rounded up to a power of two, times the blowup factor. -/
def fftLength (p : Polynomial F) (blowupFactor : Nat) (domainSize : Option Nat) : Nat :=
  nextPowerOfTwo (max p.coefficients.length (domainSize.getD 0)) * blowupFactor

/--
`Polynomial::evaluate_offset_fft(blowup_factor, domain_size, offset)`, stated by what it computes.

The polynomial is padded with zero coefficients to `fftLength` and evaluated at `offset · ω^i` for
every `i` below that length, `ω` the primitive root of unity of that order. The zero polynomial
gives zeros without a transform; otherwise the radix-2 transform fails on a length that is not a
power of two, and on an order the field has no root of unity for.
-/
def evaluateOffsetFft (p : Polynomial F) (blowupFactor : Nat) (domainSize : Option Nat)
    (offset : F) : Except FFTError (List F) :=
  let len := fftLength p blowupFactor domainSize
  if p.coefficients = [] then .ok (List.replicate len 0)
  else if len ≠ 2 ^ trailingZeros len then .error (.inputError len)
  else
    match getPrimitiveRootOfUnity (trailingZeros len) with
    | some root => .ok ((List.range len).map fun i => p.evaluate (offset * root ^ i))
    | none => .error (.rootOfUnityError (trailingZeros len))

/-- A nonzero polynomial whose padded length is a power of two the field supports is evaluated
at the powers of the root of that order. -/
theorem evaluateOffsetFft_of_fits {p : Polynomial F} {blowupFactor : Nat} {domainSize : Option Nat}
    {offset : F} {order : Nat} (length : fftLength p blowupFactor domainSize = 2 ^ order)
    (fits : order ≤ IsFFTField.twoAdicity F) :
    evaluateOffsetFft p blowupFactor domainSize offset =
      .ok ((List.range (2 ^ order)).map fun i => p.evaluate (offset * primitiveRoot order ^ i)) := by
  -- The zero polynomial takes the short path, and its values are zeros all the same.
  unfold evaluateOffsetFft
  simp only [length, trailingZeros_two_pow, ne_eq, not_true_eq_false, if_false,
    getPrimitiveRootOfUnity_of_le fits]
  split
  · rename_i zero
    congr 1
    apply List.ext_getElem (by simp)
    intro i _ _
    simp [Polynomial.evaluate_eq_horner, zero]
  · rfl

/-- A nonzero polynomial whose padded length is a power of two beyond the field's two-adicity is
rejected. -/
theorem evaluateOffsetFft_of_exceeds {p : Polynomial F} {blowupFactor : Nat}
    {domainSize : Option Nat} {offset : F} {order : Nat} (nonzero : p.coefficients ≠ [])
    (length : fftLength p blowupFactor domainSize = 2 ^ order)
    (exceeds : IsFFTField.twoAdicity F < order) :
    evaluateOffsetFft p blowupFactor domainSize offset = .error (.rootOfUnityError order) := by
  unfold evaluateOffsetFft
  simp only [length, trailingZeros_two_pow, nonzero, ne_eq, not_true_eq_false, if_false,
    getPrimitiveRootOfUnity_of_lt exceeds]

end Engine

end StarkProver
