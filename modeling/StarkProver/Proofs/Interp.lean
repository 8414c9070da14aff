import StarkProver.Prover.Deep

/-! What `interp_from_num_denom` returns: the interpolant of the pointwise quotients, and the exact
quotient whenever the division is exact, the transforms fit the field and the quotient is short. -/

namespace StarkProver

open IsFFTField

section Lists

variable {α β : Type}

/-- Zipping a list with its own image pairs each entry with its image. -/
theorem zip_map_self (xs : List α) (f : α → β) : xs.zip (xs.map f) = xs.map fun x => (x, f x) := by
  induction xs with
  | nil => rfl
  | cons x xs ih => simp [ih]

/-- Every pair of a list zipped with itself is a repeated entry. -/
theorem fst_eq_snd_of_mem_zip_self {xs : List α} {pair : α × α} (member : pair ∈ xs.zip xs) :
    pair.1 = pair.2 := by
  -- A list zipped with itself is its map to the diagonal.
  have pairs := zip_map_self xs id
  rw [List.map_id] at pairs
  rw [pairs, List.mem_map] at member
  obtain ⟨x, -, rfl⟩ := member
  rfl

end Lists

section Evaluations

variable {F : Type} [Field F] [DecidableEq F] [IsFFTField F]

omit [IsFFTField F] in
/-- Pointwise division of two lists of values succeeds exactly when no divisor is zero, and then
gives the quotients. -/
theorem mapM_fieldDiv {xs : List F} {f g : F → F} {evals : List F} :
    (xs.map fun x => (f x, g x)).mapM (fun (a, b) => fieldDiv a b) = some evals ↔
      (∀ x ∈ xs, g x ≠ 0) ∧ evals = xs.map fun x => f x / g x := by
  -- Induction on the points: each division returns exactly when its denominator is nonzero.
  rw [mapM_eq_some, List.forall₂_map_left_iff]
  simp only [fieldDiv_eq_some]
  induction xs generalizing evals with
  | nil => simp [eq_comm]
  | cons x xs ih =>
    cases evals with
    | nil => simp
    | cons y ys =>
      rw [List.forall₂_cons, ih]
      simp only [List.map_cons, List.cons.injEq, List.forall_mem_cons]
      constructor
      · rintro ⟨⟨nonzero, rfl⟩, rest, rfl⟩
        exact ⟨⟨nonzero, rest⟩, rfl, rfl⟩
      · rintro ⟨⟨nonzero, rest⟩, rfl, rfl⟩
        exact ⟨⟨nonzero, rfl⟩, rest, rfl⟩

/-- Evaluations on the extended domain that do not panic are the values at the domain's points. -/
theorem ldeEvaluations_eq {domain : Domain F} {p : Polynomial F} {evals : List F}
    (evaluated : ldeEvaluations domain p = some evals) :
    evals = domain.ldeRootsOfUnityCoset.map p.evaluate := by
  simp only [ldeEvaluations, bind, Option.bind_eq_some, unwrap_eq_some] at evaluated
  obtain ⟨result, evaluated, rfl⟩ := evaluated
  exact evaluatePolynomialOnLdeDomain_domain domain evaluated

/-- A polynomial whose padded transform fits the field is evaluated on the whole domain. -/
theorem ldeEvaluations_of_fits {domain : Domain F} {p : Polynomial F}
    (fits : fftLength p domain.blowupFactor (some domain.interpolationDomainSize) ≤
      2 ^ twoAdicity F) :
    ldeEvaluations domain p = some (domain.ldeRootsOfUnityCoset.map p.evaluate) := by
  -- The fitting transform gives the values at the coset points, in order.
  rw [Domain.blowupFactor, Domain.interpolationDomainSize] at fits
  rw [ldeEvaluations, Domain.blowupFactor, Domain.interpolationDomainSize,
    evaluatePolynomialOnLdeDomain_of_fits _ fits]
  simp [Domain.ldeRootsOfUnityCoset, Domain.ldePrimitiveRoot, Domain.ldeRootOrder, pow_add]

omit [IsFFTField F] in
/-- The linear factor `X − a` evaluates to `x − a`. -/
@[simp] theorem evaluate_linearFactor (a x : F) :
    (Polynomial.newMonomial (1 : F) 1 - a).evaluate x = x - a := by
  simp

omit [DecidableEq F] in
/-- The target never exceeds the extended domain. -/
theorem targetDeg_le (domain : Domain F) (evil badTrace : Bool) :
    targetDeg domain evil badTrace ≤ domain.ldeRootsOfUnityCoset.length := by
  unfold targetDeg
  split <;> exact Nat.div_le_self _ _

omit [DecidableEq F] in
/-- On the adversarial path the target is the trace length, whatever `bad_trace` is. -/
theorem targetDeg_evil (domain : Domain F) (badTrace : Bool) :
    targetDeg domain true badTrace = domain.interpolationDomainSize := by
  have positive : 0 < domain.blowupFactor := by simp only [Domain.blowupFactor]; positivity
  simp [targetDeg, Domain.ldeSize_eq, Nat.mul_div_cancel _ positive]

end Evaluations

section Interp

variable {F : Type} [Field F] [DecidableEq F] [IsFFTField F]
variable {num denom sanity result : Polynomial F} {domain : Domain F} {evil badTrace : Bool}

/-- The nodes `interp_from_num_denom` interpolates at: the first `target_deg` points of the
extended domain. -/
def interpNodes (domain : Domain F) (evil badTrace : Bool) : List F :=
  domain.ldeRootsOfUnityCoset.take (targetDeg domain evil badTrace)

/--
What a call of `interp_from_num_denom` that returns has done: the denominator vanishes nowhere on
the extended domain, the result is the interpolant of `num / denom` at the first `target_deg`
points, and on the honest path it agrees with the sanity polynomial on their common coefficients.
-/
theorem interpFromNumDenom_spec
    (interpolated : interpFromNumDenom num denom domain sanity evil badTrace = some result) :
    (∀ x ∈ domain.ldeRootsOfUnityCoset, denom.evaluate x ≠ 0) ∧
      Polynomial.interpolate (interpNodes domain evil badTrace)
        ((interpNodes domain evil badTrace).map fun x => num.evaluate x / denom.evaluate x) =
          .ok result ∧
      (evil = false → ∀ pair ∈ result.coefficients.zip sanity.coefficients, pair.1 = pair.2) := by
  -- Peel the computation apart step by step; each panic is a `none` that cannot have happened.
  simp only [interpFromNumDenom, bind, Option.bind_eq_some, unwrap_eq_some] at interpolated
  obtain ⟨numEvals, numOk, denomEvals, denomOk, evals, divided, nodes, sliced, values, sliced',
    interpolant, interpolatedOk, checked⟩ := interpolated
  rw [ldeEvaluations_eq numOk, ldeEvaluations_eq denomOk, List.zip_map', mapM_fieldDiv] at divided
  obtain ⟨nonzero, rfl⟩ := divided
  obtain ⟨-, rfl⟩ := sliceTo_eq_some.mp sliced
  obtain ⟨-, rfl⟩ := sliceTo_eq_some.mp sliced'
  refine ⟨nonzero, ?_, ?_⟩
  · split_ifs at checked <;> cases checked
    all_goals simpa [interpNodes] using interpolatedOk
  · rintro rfl
    simp only [Bool.false_eq_true, if_false] at checked
    split_ifs at checked with agree
    cases checked
    exact agree

/-- A returned interpolant takes the pointwise quotient's value at each of its nodes. -/
theorem evaluate_interpFromNumDenom
    (interpolated : interpFromNumDenom num denom domain sanity evil badTrace = some result) :
    ∀ x ∈ interpNodes domain evil badTrace, result.evaluate x = num.evaluate x / denom.evaluate x := by
  -- The interpolation pairs every node with the quotient there.
  intro x member
  apply Polynomial.evaluate_interpolate (interpFromNumDenom_spec interpolated).2.1 (x, _)
  rw [zip_map_self]
  exact List.mem_map_of_mem (fun x => (x, num.evaluate x / denom.evaluate x)) member

/-- A returned interpolant has at most `target_deg` coefficients. -/
theorem length_interpFromNumDenom_le
    (interpolated : interpFromNumDenom num denom domain sanity evil badTrace = some result) :
    result.coefficients.length ≤ targetDeg domain evil badTrace :=
  (Polynomial.length_interpolate_le (interpFromNumDenom_spec interpolated).2.1).trans
    (List.length_take_le _ _)

/--
Prefix interpolation recovers an exact quotient. For a nonzero coset offset, a numerator `num`
vanishing at a point `a` off the extended domain, and transforms of `num` and of `X − a` that fit
the field, a quotient `num / (X − a)` with at most `target_deg` coefficients comes back exactly,
when the sanity polynomial is that quotient or the path is adversarial.
-/
theorem interpFromNumDenom_exact (nonzero : domain.cosetOffset ≠ 0) {a : F}
    (outside : a ∉ domain.ldeRootsOfUnityCoset) (root : num.evaluate a = 0)
    (numFits : fftLength num domain.blowupFactor (some domain.interpolationDomainSize) ≤
      2 ^ twoAdicity F)
    (denomFits : fftLength (Polynomial.newMonomial (1 : F) 1 - a) domain.blowupFactor
      (some domain.interpolationDomainSize) ≤ 2 ^ twoAdicity F)
    (checked : evil = true ∨ sanity = num.ruffiniDivision a)
    (short : (num.ruffiniDivision a).coefficients.length ≤ targetDeg domain evil badTrace) :
    interpFromNumDenom num (Polynomial.newMonomial (1 : F) 1 - a) domain sanity evil badTrace =
      some (num.ruffiniDivision a) := by
  -- Off `a` the pointwise quotient is the exact quotient, and the interpolant is the only short
  -- polynomial through its values.
  set q := num.ruffiniDivision a
  set nodes := domain.ldeRootsOfUnityCoset.take (targetDeg domain evil badTrace)
  have away : ∀ x ∈ domain.ldeRootsOfUnityCoset, x - a ≠ 0 :=
    fun x member => sub_ne_zero.mpr fun same => outside (same ▸ member)
  have divided : ((domain.ldeRootsOfUnityCoset.map num.evaluate).zip
      (domain.ldeRootsOfUnityCoset.map (Polynomial.newMonomial (1 : F) 1 - a).evaluate)).mapM
        (fun (n, d) => fieldDiv n d) = some (domain.ldeRootsOfUnityCoset.map q.evaluate) := by
    rw [List.zip_map', mapM_fieldDiv]
    refine ⟨fun x member => by simpa using away x member, List.map_congr_left fun x member => ?_⟩
    rw [evaluate_linearFactor, Polynomial.evaluate_ruffiniDivision_of_ne _
      (sub_ne_zero.mp (away x member)), root, sub_zero]
  have distinct : nodes.Nodup :=
    (domain.ldeRootsOfUnityCoset_nodup nonzero).sublist (List.take_sublist _ _)
  have interpolated : Polynomial.interpolate nodes
      ((domain.ldeRootsOfUnityCoset.map q.evaluate).take (targetDeg domain evil badTrace)) =
        .ok q := by
    rw [← List.map_take]
    have ok : Polynomial.interpolate nodes (nodes.map q.evaluate) = .ok _ :=
      Polynomial.interpolate_of_nodup (by simp) distinct
    rw [ok, Polynomial.interpolate_eq_of_agree ok
      (short.trans (by simpa [nodes] using targetDeg_le domain evil badTrace))]
    intro pair member
    rw [zip_map_self, List.mem_map] at member
    obtain ⟨x, -, rfl⟩ := member
    rfl
  simp only [interpFromNumDenom, ldeEvaluations_of_fits numFits, ldeEvaluations_of_fits denomFits,
    bind, Option.some_bind, divided, sliceTo_of_le (targetDeg_le domain evil badTrace),
    sliceTo_of_le ((targetDeg_le domain evil badTrace).trans_eq (List.length_map _ _).symm)]
  rw [interpolated, unwrap_ok, Option.some_bind]
  rcases checked with rfl | rfl
  · rfl
  · cases evil
    · rw [if_neg Bool.false_ne_true, if_pos fun pair member => fst_eq_snd_of_mem_zip_self member]
      rfl
    · rfl

/-- On the honest path with trace length two and blowup two, `(X² − 4) / (X − 2) = X + 2` is
recovered from the first two points of the coset `3 · ⟨13⟩`. -/
theorem interpFromNumDenom_exact_quadratic :
    let domain : Domain GF17 := ⟨1, 1, 3, by decide⟩
    let num := Polynomial.new [-4, 0, 1]
    (domain.cosetOffset ≠ 0 ∧ (2 : GF17) ∉ domain.ldeRootsOfUnityCoset ∧ num.evaluate 2 = 0 ∧
      fftLength num domain.blowupFactor (some domain.interpolationDomainSize) ≤
        2 ^ twoAdicity GF17 ∧
      fftLength (Polynomial.newMonomial (1 : GF17) 1 - (2 : GF17)) domain.blowupFactor
        (some domain.interpolationDomainSize) ≤ 2 ^ twoAdicity GF17 ∧
      (num.ruffiniDivision 2).coefficients.length ≤ targetDeg domain false false) ∧
    interpFromNumDenom num (Polynomial.newMonomial (1 : GF17) 1 - (2 : GF17)) domain (num.ruffiniDivision 2)
      false false = some (num.ruffiniDivision 2) :=
  ⟨⟨by decide, by decide, by decide, by decide, by decide, by decide⟩,
    interpFromNumDenom_exact (by decide) (by decide) (by decide) (by decide) (by decide)
      (Or.inr rfl) (by decide)⟩

/-- A numerator too long for the field's transforms: with trace length two and blowup four,
forging with `bad_trace` interpolates at four points, and `X⁴ / X = X³` has four coefficients, yet
the transform of `X⁴` needs thirty-two points and the call panics. -/
theorem interpFromNumDenom_long_numerator_rejected :
    let domain : Domain GF17 := ⟨1, 2, 3, by decide⟩
    let num := Polynomial.newMonomial (1 : GF17) 4
    (0 : GF17) ∉ domain.ldeRootsOfUnityCoset ∧ num.evaluate 0 = 0 ∧
      (num.ruffiniDivision 0).coefficients.length ≤ targetDeg domain false true ∧
      interpFromNumDenom num (Polynomial.newMonomial (1 : GF17) 1 - (0 : GF17)) domain
        (num.ruffiniDivision 0) false true = none := by
  decide

end Interp

end StarkProver
