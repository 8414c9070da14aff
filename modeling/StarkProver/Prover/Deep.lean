import StarkProver.Prover.Lde
import StarkProver.Proof
import StarkProver.Air.Context

/-! `interp_from_num_denom` and `compute_deep_composition_poly`: the DEEP polynomial, computed by
exact division and, beside it, by interpolating pointwise quotients. -/

namespace StarkProver

section Slices

variable {α : Type}

/-- `&xs[..stop]`: the first `stop` entries, panicking when there are fewer. -/
def sliceTo (xs : List α) (stop : Nat) : Option (List α) :=
  if stop ≤ xs.length then some (xs.take stop) else none

theorem sliceTo_of_le {xs : List α} {stop : Nat} (within : stop ≤ xs.length) :
    sliceTo xs stop = some (xs.take stop) := by
  simp [sliceTo, within]

theorem sliceTo_eq_some {xs ys : List α} {stop : Nat} :
    sliceTo xs stop = some ys ↔ stop ≤ xs.length ∧ ys = xs.take stop := by
  unfold sliceTo
  split <;> simp_all [eq_comm]

end Slices

section Interp

variable {F : Type} [Field F] [DecidableEq F] [IsFFTField F]

/-- `evaluate_polynomial_on_lde_domain(p, domain.blowup_factor, domain.interpolation_domain_size,
&domain.coset_offset).unwrap()`: `p` on the extended domain, panicking on an FFT error. -/
def ldeEvaluations (domain : Domain F) (p : Polynomial F) : Option (List F) :=
  evaluatePolynomialOnLdeDomain p domain.blowupFactor domain.interpolationDomainSize
    domain.cosetOffset >>= unwrap

/-- The number of points `interp_from_num_denom` interpolates through: the trace length, except when
forging with `bad_trace` on the honest path, where it is half the extended domain. -/
def targetDeg (domain : Domain F) (evil badTrace : Bool) : Nat :=
  if evil || !badTrace then domain.ldeRootsOfUnityCoset.length / domain.blowupFactor
  else domain.ldeRootsOfUnityCoset.length / 2

/--
`interp_from_num_denom(num, denom, domain, poly_sanity_check, evil, bad_trace)`.

It evaluates `num` and `denom` on the extended domain, divides pointwise, and interpolates the
quotients at the first `target_deg` points of the domain. On the honest path it then asserts that
the interpolant agrees with `poly_sanity_check` on every coefficient the two have in common.
-/
def interpFromNumDenom (num denom : Polynomial F) (domain : Domain F)
    (polySanityCheck : Polynomial F) (evil badTrace : Bool) : Option (Polynomial F) := do
  let targetDeg := targetDeg domain evil badTrace
  let numEvals ← ldeEvaluations domain num
  let denomEvals ← ldeEvaluations domain denom
  let evals ← (numEvals.zip denomEvals).mapM fun (num, denom) => fieldDiv num denom
  let nodes ← sliceTo domain.ldeRootsOfUnityCoset targetDeg
  let values ← sliceTo evals targetDeg
  let result ← unwrap (Polynomial.interpolate nodes values)
  if evil then pure result
  else if ∀ pair ∈ result.coefficients.zip polySanityCheck.coefficients, pair.1 = pair.2 then
    pure result
  else none

end Interp

section Deep

variable {F : Type} [Field F] [DecidableEq F] [IsFFTField F]

/-- `trace_terms = trace_terms + …; trace_terms_from_interp = trace_terms_from_interp + …`: one
term added to each of the two sums. -/
def addTerms (sums terms : Polynomial F × Polynomial F) : Polynomial F × Polynomial F :=
  (sums.1 + terms.1, sums.2 + terms.2)

/--
The body of the inner loop of `compute_deep_composition_poly`, for the `i`-th trace polynomial
`t_j` and the `j`-th frame row: the term `(t_j − t_j(z gᵏ)) / (X − z gᵏ)` and its interpolated
counterpart, each times the coefficient `trace_terms_gammas[i · frame_len + j]`.

The value `t_j(z gᵏ)` is read from the frame row, the coefficient from the list: both panic out of
bounds.
-/
def deepTraceTerm (domain : Domain F) (z primitiveRoot : F) (traceTermsGammas : List F)
    (frameLen : Nat) (evil badTrace : Bool) (column : Nat × Polynomial F)
    (row : Nat × List F × Nat) : Option (Polynomial F × Polynomial F) := do
  let (i, tJ) := column
  let (j, evaluations, offset) := row
  let x := Polynomial.newMonomial (1 : F) 1
  let tJZ ← evaluations[i]?
  let zShifted := z * primitiveRoot ^ offset
  let poly := (tJ - tJZ).ruffiniDivision zShifted
  let polyFromInterp ← interpFromNumDenom (tJ - tJZ) (x - zShifted) domain poly evil badTrace
  let gamma ← traceTermsGammas[i * frameLen + j]?
  pure (poly * gamma, polyFromInterp * gamma)

/--
`compute_deep_composition_poly(air, domain, trace_polys, round_2_result, round_3_result, z,
primitive_root, composition_poly_gammas, trace_terms_gammas, evil, bad_trace)`.

The composition terms `γ (H₁ − H₁(z²)) / (X − z²)` and `γ' (H₂ − H₂(z²)) / (X − z²)` are divided
exactly (the library's division by the linear factor `X − z²` is synthetic division at `z²`) and
also interpolated; the trace terms are summed over every trace polynomial and every frame row. The
result is the exact sum on the honest path, and on the adversarial path the interpolated
composition terms with the exact trace terms.
-/
def computeDeepCompositionPoly (context : AirContext) (domain : Domain F)
    (tracePolys : List (Polynomial F)) (round2Result : Round2 F) (round3Result : Round3 F)
    (z primitiveRoot : F) (compositionPolyGammas : F × F) (traceTermsGammas : List F)
    (evil badTrace : Bool) : Option (Polynomial F) := do
  let x := Polynomial.newMonomial (1 : F) 1
  let h1 := round2Result.compositionPolyEven
  let h1Z2 := round3Result.compositionPolyEvenOodEvaluation
  let h2 := round2Result.compositionPolyOdd
  let h2Z2 := round3Result.compositionPolyOddOodEvaluation
  let (gamma, gammaP) := compositionPolyGammas
  let zSquared := z * z
  let h1Term := (gamma * (h1 - h1Z2)).ruffiniDivision zSquared
  let h1FromInterp ←
    interpFromNumDenom (gamma * (h1 - h1Z2)) (x - zSquared) domain h1Term evil badTrace
  let h2Term := (gammaP * (h2 - h2Z2)).ruffiniDivision zSquared
  let h2FromInterp ←
    interpFromNumDenom (gammaP * (h2 - h2Z2)) (x - zSquared) domain h2Term evil badTrace
  let transitionOffsets := context.transitionOffsets
  let traceFrameEvaluations :=
    Frame.getTraceEvaluations tracePolys z transitionOffsets primitiveRoot
  let (traceTerms, _traceTermsFromInterp) ← tracePolys.enum.foldlM (fun sums column =>
      (traceFrameEvaluations.zip transitionOffsets).enum.foldlM (fun sums row =>
        (deepTraceTerm domain z primitiveRoot traceTermsGammas traceFrameEvaluations.length evil
          badTrace column row).map (addTerms sums)) sums)
    (Polynomial.zero, Polynomial.zero)
  let deep := h1Term + h2Term + traceTerms
  let deepFromInterp := h1FromInterp + h2FromInterp + traceTerms
  pure (if evil then deepFromInterp else deep)

end Deep

end StarkProver
