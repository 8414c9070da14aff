import StarkProver.Domain

/-! `evaluate_polynomial_on_lde_domain`: the offset FFT, thinned out to the extended domain. -/

namespace StarkProver

open IsFFTField

section Stride

variable {F : Type} [Field F]

/-- `into_iter().step_by(step)`: the first entry and every `step`-th one after it. -/
def stepBy (xs : List F) (step : Nat) : List F :=
  (List.range ((xs.length + step - 1) / step)).map fun i => xs.getD (i * step) 0

/-- Taking every `k`-th value of `m · k` samples keeps the samples at multiples of `k`. -/
theorem stepBy_range_map (f : Nat → F) (m : Nat) {k : Nat} (positive : 0 < k) :
    stepBy ((List.range (m * k)).map f) k = (List.range m).map fun j => f (j * k) := by
  -- The `j`-th kept sample is the one at `j · k`, and exactly `m` of them are kept.
  have count : (m * k + k - 1) / k = m := by
    rw [Nat.add_sub_assoc positive, Nat.mul_comm, Nat.mul_add_div positive,
      Nat.div_eq_of_lt (by omega), Nat.add_zero]
  apply List.ext_getElem (by simp only [stepBy, List.length_map, List.length_range, count])
  intro j within _
  have inside : j * k < m * k := by
    simp only [stepBy, List.length_map, List.length_range, count] at within
    exact Nat.mul_lt_mul_of_pos_right within positive
  simp only [stepBy, List.getElem_map, List.getElem_range, List.getD_eq_getElem?_getD,
    List.getElem?_map, List.getElem?_range inside, Option.map_some', Option.getD_some]

/-- A stride of one keeps everything. -/
theorem stepBy_one (xs : List F) : stepBy xs 1 = xs := by
  apply List.ext_getElem (by simp [stepBy])
  intro j within _
  simp only [stepBy, List.length_map, List.length_range, Nat.add_sub_cancel, Nat.div_one] at within
  simp [stepBy, List.getD_eq_getElem?_getD, within]

end Stride

section Evaluation

variable {F : Type} [Field F] [DecidableEq F] [IsFFTField F]

/--
`evaluate_polynomial_on_lde_domain(p, blowup_factor, domain_size, offset)`: the offset FFT of `p`,
keeping every `step`-th value when the transform returns more than `domain_size · blowup_factor`
of them.

It panics (`none`) when `domain_size · blowup_factor` is zero, or when the transform returns fewer
values than that, so that `step_by` would be given a zero stride.
-/
def evaluatePolynomialOnLdeDomain (p : Polynomial F) (blowupFactor domainSize : Nat) (offset : F) :
    Option (Except FFTError (List F)) :=
  match evaluateOffsetFft p blowupFactor (some domainSize) offset with
  | .error e => some (.error e)
  | .ok evaluations =>
    if domainSize * blowupFactor = 0 then none
    else
      match evaluations.length / (domainSize * blowupFactor) with
      | 0 => none
      | 1 => some (.ok evaluations)
      | step => some (.ok (stepBy evaluations step))

omit [IsFFTField F] in
/-- For power-of-two sizes the transform's length is a power-of-two multiple of the extended
domain's size. -/
theorem fftLength_two_pow (p : Polynomial F) (r s : Nat) :
    ∃ t, r ≤ t ∧ fftLength p (2 ^ s) (some (2 ^ r)) = 2 ^ (t + s) := by
  -- The padded length is a power of two at least the domain size, times the blowup.
  obtain ⟨t, rounded, atLeast⟩ := nextPowerOfTwo_spec (max p.coefficients.length (2 ^ r))
  have above : r ≤ t :=
    (Nat.pow_le_pow_iff_right (by decide)).mp ((le_max_right _ _).trans atLeast)
  exact ⟨t, above, by rw [fftLength, Option.getD_some, rounded, pow_add]⟩

omit [IsFFTField F] in
/-- The zero polynomial's transform has exactly the extended domain's length. -/
theorem fftLength_zero {p : Polynomial F} (zero : p.coefficients = []) (r s : Nat) :
    fftLength p (2 ^ s) (some (2 ^ r)) = 2 ^ (r + s) := by
  simp [fftLength, zero, nextPowerOfTwo_two_pow, pow_add]

/-- When the transform fits the field, the result has one value per point of the extended
domain, the value of `p` at `offset · ω^i`. -/
theorem evaluatePolynomialOnLdeDomain_of_fits {p : Polynomial F} {r s : Nat} (offset : F)
    (fits : fftLength p (2 ^ s) (some (2 ^ r)) ≤ 2 ^ twoAdicity F) :
    evaluatePolynomialOnLdeDomain p (2 ^ s) (2 ^ r) offset =
      some (.ok ((List.range (2 ^ r * 2 ^ s)).map fun i =>
        p.evaluate (offset * primitiveRoot (r + s) ^ i))) := by
  -- The transform runs at order `t + s`; its stride `2 ^ (t - r)` lands on the order `r + s` root.
  obtain ⟨t, above, length⟩ := fftLength_two_pow p r s
  have order : t + s ≤ twoAdicity F := by
    rw [length] at fits
    exact (Nat.pow_le_pow_iff_right (by decide)).mp fits
  have split : 2 ^ (t + s) = 2 ^ r * 2 ^ s * 2 ^ (t - r) := by
    rw [← pow_add, ← pow_add]; congr 1; omega
  have stride : 2 ^ (t + s) / (2 ^ r * 2 ^ s) = 2 ^ (t - r) := by
    rw [split, Nat.mul_div_cancel_left _ (by positivity)]
  have thinned := stepBy_range_map (fun i => p.evaluate (offset * primitiveRoot (t + s) ^ i))
    (2 ^ r * 2 ^ s) (Nat.two_pow_pos (t - r))
  have roots : ∀ j, (primitiveRoot (t + s) : F) ^ (j * 2 ^ (t - r)) = primitiveRoot (r + s) ^ j := by
    intro j
    rw [Nat.mul_comm, pow_mul, primitiveRoot_pow_two_pow (by omega) order]
    congr 2; omega
  simp only [roots, ← split] at thinned
  unfold evaluatePolynomialOnLdeDomain
  rw [evaluateOffsetFft_of_fits length order]
  simp only [List.length_map, List.length_range, stride, mul_eq_zero, pow_eq_zero_iff',
    OfNat.ofNat_ne_zero, ne_eq, false_and, or_self, if_false]
  split
  · rename_i vanished
    exact absurd vanished (Nat.two_pow_pos _).ne'
  · rename_i once
    rw [← thinned, once, stepBy_one]
  · rw [thinned]

/-- The zero polynomial takes the transform's short path, whatever the field's two-adicity: one zero
per point of the extended domain, its value at each `offset · ω^i`. -/
theorem evaluatePolynomialOnLdeDomain_of_zero {p : Polynomial F} (zero : p.coefficients = [])
    (r s : Nat) (offset : F) :
    evaluatePolynomialOnLdeDomain p (2 ^ s) (2 ^ r) offset =
      some (.ok ((List.range (2 ^ r * 2 ^ s)).map fun i =>
        p.evaluate (offset * primitiveRoot (r + s) ^ i))) := by
  -- The padded length is the extended domain's size, so the stride is one.
  have zeros : (List.range (2 ^ r * 2 ^ s)).map (fun i => p.evaluate (offset * primitiveRoot (r + s) ^ i)) =
      List.replicate (2 ^ (r + s)) 0 := by
    apply List.ext_getElem (by simp [pow_add])
    intro i _ _
    simp [Polynomial.evaluate_eq_horner, zero]
  rw [zeros]
  unfold evaluatePolynomialOnLdeDomain evaluateOffsetFft
  simp only [zero, if_true, fftLength_zero zero, List.length_replicate, ← pow_add,
    Nat.div_self (Nat.two_pow_pos _), (Nat.two_pow_pos _).ne', if_false]

/-- When the transform would exceed the field's two-adicity, a nonzero polynomial is rejected
with the engine's root-of-unity error. -/
theorem evaluatePolynomialOnLdeDomain_of_exceeds {p : Polynomial F} {r s : Nat} (offset : F)
    (nonzero : p.coefficients ≠ []) (exceeds : 2 ^ twoAdicity F < fftLength p (2 ^ s) (some (2 ^ r))) :
    ∃ order, evaluatePolynomialOnLdeDomain p (2 ^ s) (2 ^ r) offset =
      some (.error (.rootOfUnityError order)) := by
  -- The transform has order `t + s` beyond the two-adicity, so the root lookup fails.
  obtain ⟨t, -, length⟩ := fftLength_two_pow p r s
  have order : twoAdicity F < t + s := by
    rw [length] at exceeds
    exact (Nat.pow_lt_pow_iff_right (by decide)).mp exceeds
  refine ⟨t + s, ?_⟩
  unfold evaluatePolynomialOnLdeDomain
  rw [evaluateOffsetFft_of_exceeds nonzero length order]

/--
Evaluation on a power-of-two extended domain, for a polynomial of any length.

When the polynomial is zero or its padded transform fits the field, the result has
`domain_size · blowup_factor` values, the `i`-th being `p(offset · ω^i)` for `ω` the root of unity of
that order, and the transform's length is that size times a power of two, the stride. A nonzero
polynomial whose transform does not fit is rejected with the engine's root-of-unity error.
-/
theorem evaluatePolynomialOnLdeDomain_coset (p : Polynomial F) (r s : Nat) (offset : F) :
    (p.coefficients = [] ∨ fftLength p (2 ^ s) (some (2 ^ r)) ≤ 2 ^ twoAdicity F →
      evaluatePolynomialOnLdeDomain p (2 ^ s) (2 ^ r) offset =
        some (.ok ((List.range (2 ^ r * 2 ^ s)).map fun i =>
          p.evaluate (offset * primitiveRoot (r + s) ^ i))) ∧
      ∃ k, fftLength p (2 ^ s) (some (2 ^ r)) = 2 ^ k * (2 ^ r * 2 ^ s)) ∧
    (p.coefficients ≠ [] → 2 ^ twoAdicity F < fftLength p (2 ^ s) (some (2 ^ r)) →
      ∃ order, evaluatePolynomialOnLdeDomain p (2 ^ s) (2 ^ r) offset =
        some (.error (.rootOfUnityError order))) := by
  -- The transform has `2 ^ (t + s)` points with `r ≤ t`, so the stride is `2 ^ (t - r)`.
  obtain ⟨t, above, length⟩ := fftLength_two_pow p r s
  refine ⟨fun admitted => ⟨?_, ⟨t - r, by rw [length, ← pow_add, ← pow_add]; congr 1; omega⟩⟩,
    fun nonzero exceeds => evaluatePolynomialOnLdeDomain_of_exceeds offset nonzero exceeds⟩
  rcases admitted with zero | fits
  · exact evaluatePolynomialOnLdeDomain_of_zero zero r s offset
  · exact evaluatePolynomialOnLdeDomain_of_fits offset fits

/-- The polynomial `X ^ 8` on eight rows with blowup two is padded to thirty-two points, more than
the seventeen-element field has roots of unity for: the evaluation returns the FFT engine's error
instead of values. -/
theorem evaluatePolynomialOnLdeDomain_monomial_rejected :
    evaluatePolynomialOnLdeDomain (Polynomial.newMonomial (1 : GF17) 8) 2 8 3 =
      some (.error (.rootOfUnityError 5)) :=
  rfl

/-- On a domain, a successful evaluation gives the value of `p` at each point of the coset, in
order. -/
theorem evaluatePolynomialOnLdeDomain_domain {p : Polynomial F} (domain : Domain F) {values : List F}
    (evaluated : evaluatePolynomialOnLdeDomain p domain.blowupFactor domain.interpolationDomainSize
      domain.cosetOffset = some (.ok values)) :
    values = domain.ldeRootsOfUnityCoset.map p.evaluate := by
  -- Either the transform fits and gives these values, or it is rejected and nothing returns.
  by_cases fits : fftLength p (2 ^ domain.blowupOrder) (some (2 ^ domain.rootOrder)) ≤
      2 ^ twoAdicity F
  · rw [Domain.blowupFactor, Domain.interpolationDomainSize,
      evaluatePolynomialOnLdeDomain_of_fits _ fits] at evaluated
    cases evaluated
    simp [Domain.ldeRootsOfUnityCoset, Domain.ldePrimitiveRoot, Domain.ldeRootOrder, pow_add]
  · have nonzero : p.coefficients ≠ [] := by
      intro zero
      rw [fftLength_zero zero] at fits
      exact fits (Nat.pow_le_pow_right (by decide) domain.fits)
    obtain ⟨order, rejected⟩ := evaluatePolynomialOnLdeDomain_of_exceeds domain.cosetOffset nonzero
      (Nat.lt_of_not_le fits)
    rw [Domain.blowupFactor, Domain.interpolationDomainSize, rejected] at evaluated
    cases evaluated

end Evaluation

end StarkProver
