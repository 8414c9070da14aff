import StarkProver.Proofs.Rounds

/-! What `compute_deep_composition_poly` returns: the exact DEEP polynomial on the honest path, the
interpolated one on the adversarial path, and where either panics. -/

namespace StarkProver

open IsFFTField

section Loop

variable {F : Type} [Field F] [DecidableEq F] {α β : Type}

/-- A fold that adds one pair of terms per row and panics with any row's term returns the sum of
every row's term. -/
theorem foldlM_addTerms {g : β → Option (Polynomial F × Polynomial F)} {rows : List β}
    {init result : Polynomial F × Polynomial F}
    (folded : rows.foldlM (fun sums row => (g row).map (addTerms sums)) init = some result) :
    (∀ row ∈ rows, (g row).isSome) ∧
      result = (rows.map fun row => (g row).getD (Polynomial.zero, Polynomial.zero)).foldl
        addTerms init := by
  -- Induction on the rows: a row whose term panics stops the fold.
  induction rows generalizing init with
  | nil =>
    cases folded
    exact ⟨by simp, rfl⟩
  | cons row rows ih =>
    rw [List.foldlM_cons] at folded
    cases found : g row with
    | none => simp [found, bind] at folded
    | some terms =>
      simp only [found, Option.map_some', bind, Option.some_bind] at folded
      obtain ⟨all, rfl⟩ := ih folded
      exact ⟨List.forall_mem_cons.mpr ⟨by simp [found], all⟩, by simp [found]⟩

/-- The nested fold of the DEEP loop returns the sum of the terms of every column and row, in
column-major order, and every term it reads was computed. -/
theorem foldlM_foldlM_addTerms {g : α → β → Option (Polynomial F × Polynomial F)} {cols : List α}
    {rows : List β} {init result : Polynomial F × Polynomial F}
    (folded : cols.foldlM (fun sums column =>
      rows.foldlM (fun sums row => (g column row).map (addTerms sums)) sums) init = some result) :
    (∀ column ∈ cols, ∀ row ∈ rows, (g column row).isSome) ∧
      result = (cols.flatMap fun column => rows.map fun row =>
        (g column row).getD (Polynomial.zero, Polynomial.zero)).foldl addTerms init := by
  -- Induction on the columns, each column folding its rows as in the single fold.
  induction cols generalizing init with
  | nil =>
    cases folded
    exact ⟨by simp, rfl⟩
  | cons column cols ih =>
    rw [List.foldlM_cons] at folded
    cases inner : rows.foldlM (fun sums row => (g column row).map (addTerms sums)) init with
    | none => simp [inner, bind] at folded
    | some sums =>
      simp only [inner, bind, Option.some_bind] at folded
      obtain ⟨allRows, rfl⟩ := foldlM_addTerms inner
      obtain ⟨all, rfl⟩ := ih folded
      refine ⟨List.forall_mem_cons.mpr ⟨allRows, all⟩, by simp⟩

/-- The first of the two running sums only ever adds first components. -/
theorem foldl_addTerms_fst (terms : List (Polynomial F × Polynomial F))
    (init : Polynomial F × Polynomial F) :
    (terms.foldl addTerms init).1 = (terms.map Prod.fst).foldl (· + ·) init.1 := by
  induction terms generalizing init with
  | nil => rfl
  | cons t ts ih => simp [ih, addTerms]

/-- A sum of polynomials evaluates to the sum of their values. -/
theorem evaluate_foldl_add (ps : List (Polynomial F)) (init : Polynomial F) (x : F) :
    (ps.foldl (· + ·) init).evaluate x = init.evaluate x + (ps.map fun p => p.evaluate x).sum := by
  induction ps generalizing init with
  | nil => simp
  | cons p ps ih => simp [ih, add_assoc]

/-- A sum of polynomials of bounded length stays within the bound. -/
theorem length_foldl_add_le (ps : List (Polynomial F)) (init : Polynomial F) {bound : Nat}
    (initShort : init.coefficients.length ≤ bound)
    (short : ∀ p ∈ ps, p.coefficients.length ≤ bound) :
    (ps.foldl (· + ·) init).coefficients.length ≤ bound := by
  -- Induction on the summands: a sum is no longer than the longer of its two parts.
  induction ps generalizing init with
  | nil => exact initShort
  | cons p ps ih =>
    rw [List.forall_mem_cons] at short
    exact ih _ ((Polynomial.length_add_le _ _).trans (max_le initShort short.1)) short.2

/-- A sum over a flattened list is the sum of the sums of its parts. -/
theorem sum_map_flatMap {M : Type} [AddCommMonoid M] (l : List α) (g : α → List β) (f : β → M) :
    ((l.flatMap g).map f).sum = (l.map fun a => ((g a).map f).sum).sum := by
  induction l with
  | nil => rfl
  | cons a l ih => simp [List.flatMap_cons, ih]

end Loop

section Frame

variable {F : Type} [Field F] [DecidableEq F]

/-- Zipping the frame with the offsets pairs each offset with its row. -/
theorem getTraceEvaluations_zip (tracePolys : List (Polynomial F)) (z primitiveRoot : F)
    (offsets : List Nat) :
    (Frame.getTraceEvaluations tracePolys z offsets primitiveRoot).zip offsets =
      offsets.map fun offset =>
        (tracePolys.map fun t => t.evaluate (z * primitiveRoot ^ offset), offset) := by
  induction offsets with
  | nil => rfl
  | cons offset offsets ih => simp [Frame.getTraceEvaluations] at ih ⊢; exact ih

end Frame

section Deep

variable {F : Type} [Field F] [DecidableEq F] [IsFFTField F]
variable {domain : Domain F} {z primitiveRoot : F} {traceTermsGammas : List F} {evil badTrace : Bool}

/-- The exact DEEP term of a trace polynomial at one frame row: `(t − t(z gᵏ)) / (X − z gᵏ)`
divided exactly, times its coefficient. -/
def exactTraceTerm (z primitiveRoot gamma : F) (t : Polynomial F) (offset : Nat) : Polynomial F :=
  (t - t.evaluate (z * primitiveRoot ^ offset)).ruffiniDivision (z * primitiveRoot ^ offset) * gamma

/-- The exact trace terms of every trace polynomial at every transition offset, in the loop's
order, with the coefficient `γ[j · |offsets| + k]` of column `j` and offset `k`. -/
def exactTraceTerms (z primitiveRoot : F) (gammas : List F) (tracePolys : List (Polynomial F))
    (offsets : List Nat) : List (Polynomial F) :=
  tracePolys.enum.flatMap fun (j, t) => offsets.enum.map fun (k, offset) =>
    exactTraceTerm z primitiveRoot (gammas.getD (j * offsets.length + k) 0) t offset

/-- What one body of the inner loop does when it returns: it reads the frame value of column `i`,
the coefficient at `i · frameLen + j`, interpolates the quotient, and scales both terms. -/
theorem deepTraceTerm_spec {frameLen i j offset : Nat} {tJ : Polynomial F}
    {evaluations : List F} {terms : Polynomial F × Polynomial F}
    (computed : deepTraceTerm domain z primitiveRoot traceTermsGammas frameLen evil badTrace
      (i, tJ) (j, evaluations, offset) = some terms) :
    ∃ tJZ gamma polyFromInterp, evaluations[i]? = some tJZ ∧
      traceTermsGammas[i * frameLen + j]? = some gamma ∧
      interpFromNumDenom (tJ - tJZ) (Polynomial.newMonomial (1 : F) 1 - z * primitiveRoot ^ offset)
        domain ((tJ - tJZ).ruffiniDivision (z * primitiveRoot ^ offset)) evil badTrace =
          some polyFromInterp ∧
      terms = ((tJ - tJZ).ruffiniDivision (z * primitiveRoot ^ offset) * gamma,
        polyFromInterp * gamma) := by
  simp only [deepTraceTerm, bind, Option.bind_eq_some, pure, Option.some.injEq] at computed
  obtain ⟨tJZ, found, polyFromInterp, interpolated, gamma, read, rfl⟩ := computed
  exact ⟨tJZ, gamma, polyFromInterp, found, read, interpolated, rfl⟩

omit [IsFFTField F] in
/-- The frame has one row per offset. -/
@[simp] theorem length_getTraceEvaluations (tracePolys : List (Polynomial F)) (x primitiveRoot : F)
    (offsets : List Nat) :
    (Frame.getTraceEvaluations tracePolys x offsets primitiveRoot).length = offsets.length := by
  simp [Frame.getTraceEvaluations]

/--
The loop over columns and frame rows, when it returns, has read a coefficient in bounds for every
column and offset, has found `x − z gᵏ` nonzero on the whole domain for every offset, and has summed
exactly the exact trace terms.
-/
theorem deepTraceLoop_spec {offsets : List Nat} {tracePolys : List (Polynomial F)}
    {traceTerms fromInterp : Polynomial F}
    (looped : tracePolys.enum.foldlM (fun sums column =>
      ((Frame.getTraceEvaluations tracePolys z offsets primitiveRoot).zip offsets).enum.foldlM
        (fun sums row => (deepTraceTerm domain z primitiveRoot traceTermsGammas
          (Frame.getTraceEvaluations tracePolys z offsets primitiveRoot).length evil badTrace column
            row).map (addTerms sums)) sums) (Polynomial.zero, Polynomial.zero) =
      some (traceTerms, fromInterp)) :
    (∀ column ∈ tracePolys.enum, ∀ row ∈ offsets.enum,
      column.1 * offsets.length + row.1 < traceTermsGammas.length ∧
      ∀ x ∈ domain.ldeRootsOfUnityCoset, x ≠ z * primitiveRoot ^ row.2) ∧
    traceTerms = (exactTraceTerms z primitiveRoot traceTermsGammas tracePolys offsets).foldl
      (· + ·) Polynomial.zero := by
  -- Every row of every column returned; read back what each body computed.
  obtain ⟨succeeded, result⟩ := foldlM_foldlM_addTerms looped
  rw [getTraceEvaluations_zip, List.enum_map, length_getTraceEvaluations] at succeeded result
  have term : ∀ column ∈ tracePolys.enum, ∀ row ∈ offsets.enum,
      (column.1 * offsets.length + row.1 < traceTermsGammas.length ∧
        ∀ x ∈ domain.ldeRootsOfUnityCoset, x ≠ z * primitiveRoot ^ row.2) ∧
      ((deepTraceTerm domain z primitiveRoot traceTermsGammas offsets.length evil badTrace column
        (Prod.map id (fun offset => (tracePolys.map fun t => t.evaluate (z * primitiveRoot ^ offset),
          offset)) row)).getD (Polynomial.zero, Polynomial.zero)).1 =
        exactTraceTerm z primitiveRoot (traceTermsGammas.getD (column.1 * offsets.length + row.1) 0)
          column.2 row.2 := by
    rintro ⟨j, t⟩ column ⟨k, offset⟩ row
    obtain ⟨terms, found⟩ :=
      Option.isSome_iff_exists.mp (succeeded (j, t) column _ (List.mem_map_of_mem _ row))
    obtain ⟨tJZ, gamma, polyFromInterp, read, gammaRead, interpolated, rfl⟩ :=
      deepTraceTerm_spec found
    dsimp only [Prod.map, id] at found gammaRead
    have column' := List.mk_mem_enum_iff_getElem?.mp column
    rw [List.getElem?_map, column', Option.map_some', Option.some.injEq] at read
    subst read
    obtain ⟨within, -⟩ := List.getElem?_eq_some_iff.mp gammaRead
    refine ⟨⟨within, fun x member => ?_⟩, ?_⟩
    · have nonzero := (interpFromNumDenom_spec interpolated).1 x member
      rw [evaluate_linearFactor] at nonzero
      exact sub_ne_zero.mp nonzero
    · simp [found, exactTraceTerm, List.getD_eq_getElem?_getD, gammaRead]
  refine ⟨fun column member row member' => (term column member row member').1, ?_⟩
  rw [show traceTerms = (traceTerms, fromInterp).1 from rfl, result, foldl_addTerms_fst,
    List.map_flatMap]
  congr 1
  refine List.flatMap_congr fun column member => ?_
  rw [List.map_map, List.map_map]
  exact List.map_congr_left fun row member' => (term column member row member').2

/--
What a call of `compute_deep_composition_poly` that returns has done: both composition terms were
interpolated, every trace term was read in bounds with its poles off the domain, and the result is
the exact sum on the honest path and the interpolated composition terms with the exact trace terms on
the adversarial path.
-/
theorem computeDeepCompositionPoly_spec {context : AirContext} {tracePolys : List (Polynomial F)}
    {round2Result : Round2 F} {round3Result : Round3 F} {gamma gammaP : F} {deep : Polynomial F}
    (computed : computeDeepCompositionPoly context domain tracePolys round2Result round3Result z
      primitiveRoot (gamma, gammaP) traceTermsGammas evil badTrace = some deep) :
    ∃ h1FromInterp h2FromInterp,
      interpFromNumDenom (gamma * (round2Result.compositionPolyEven -
          round3Result.compositionPolyEvenOodEvaluation)) (Polynomial.newMonomial (1 : F) 1 - z * z)
        domain ((gamma * (round2Result.compositionPolyEven -
          round3Result.compositionPolyEvenOodEvaluation)).ruffiniDivision (z * z)) evil badTrace =
        some h1FromInterp ∧
      interpFromNumDenom (gammaP * (round2Result.compositionPolyOdd -
          round3Result.compositionPolyOddOodEvaluation)) (Polynomial.newMonomial (1 : F) 1 - z * z)
        domain ((gammaP * (round2Result.compositionPolyOdd -
          round3Result.compositionPolyOddOodEvaluation)).ruffiniDivision (z * z)) evil badTrace =
        some h2FromInterp ∧
      (∀ column ∈ tracePolys.enum, ∀ row ∈ context.transitionOffsets.enum,
        column.1 * context.transitionOffsets.length + row.1 < traceTermsGammas.length ∧
        ∀ x ∈ domain.ldeRootsOfUnityCoset, x ≠ z * primitiveRoot ^ row.2) ∧
      deep = (if evil then h1FromInterp + h2FromInterp else
          (gamma * (round2Result.compositionPolyEven -
            round3Result.compositionPolyEvenOodEvaluation)).ruffiniDivision (z * z) +
          (gammaP * (round2Result.compositionPolyOdd -
            round3Result.compositionPolyOddOodEvaluation)).ruffiniDivision (z * z)) +
        (exactTraceTerms z primitiveRoot traceTermsGammas tracePolys
          context.transitionOffsets).foldl (· + ·) Polynomial.zero := by
  -- Peel the two interpolations and the loop apart; the result is one of the two sums.
  simp only [computeDeepCompositionPoly, bind, Option.bind_eq_some, pure, Option.some.injEq] at computed
  obtain ⟨h1FromInterp, h1Ok, h2FromInterp, h2Ok, ⟨traceTerms, fromInterp⟩, looped, rfl⟩ := computed
  obtain ⟨bounds, rfl⟩ := deepTraceLoop_spec looped
  refine ⟨h1FromInterp, h2FromInterp, h1Ok, h2Ok, bounds, ?_⟩
  cases evil <;> rfl

end Deep

section Values

variable {F : Type} [Field F] [DecidableEq F]

/-- The trace part of the DEEP function at `x`:
`Σⱼ Σₖ γ[j · |offsets| + k] (tⱼ(x) − f k j) / (x − z g^{offsetₖ})`, where `f k j` is the claimed
value of column `j` at frame row `k`. -/
def deepTraceValue (gammas : List F) (tracePolys : List (Polynomial F)) (frameValue : Nat → Nat → F)
    (z primitiveRoot : F) (offsets : List Nat) (x : F) : F :=
  (tracePolys.enum.map fun (j, t) => (offsets.enum.map fun (k, offset) =>
    gammas.getD (j * offsets.length + k) 0 * (t.evaluate x - frameValue k j) /
      (x - z * primitiveRoot ^ offset)).sum).sum

/-- The DEEP composition function at `x`, as the verifier recomputes it from the values in the
proof: `γ (H₁(x) − v₁)/(x − z²) + γ' (H₂(x) − v₂)/(x − z²)` plus the trace part. -/
def deepCompositionValue (gamma gammaP : F) (gammas : List F) (h1 h2 : Polynomial F) (v1 v2 : F)
    (tracePolys : List (Polynomial F)) (frameValue : Nat → Nat → F) (z primitiveRoot : F)
    (offsets : List Nat) (x : F) : F :=
  gamma * (h1.evaluate x - v1) / (x - z * z) + gammaP * (h2.evaluate x - v2) / (x - z * z) +
    deepTraceValue gammas tracePolys frameValue z primitiveRoot offsets x

/-- Off its pole, an exact trace term is the difference quotient. -/
theorem evaluate_exactTraceTerm {z primitiveRoot gamma x : F} {t : Polynomial F} {offset : Nat}
    (away : x ≠ z * primitiveRoot ^ offset) :
    (exactTraceTerm z primitiveRoot gamma t offset).evaluate x =
      gamma * (t.evaluate x - t.evaluate (z * primitiveRoot ^ offset)) /
        (x - z * primitiveRoot ^ offset) := by
  rw [exactTraceTerm, Polynomial.evaluate_mul_constant, Polynomial.evaluate_ruffiniDivision_of_ne _ away]
  simp only [Polynomial.evaluate_sub_constant, sub_self, sub_zero]
  ring

/-- Off `z²`, the exactly divided composition term is the difference quotient, when the value
subtracted is the half's own value at `z²`. -/
theorem evaluate_compositionTerm {gamma z x v : F} {h : Polynomial F} (away : x ≠ z * z)
    (exact : h.evaluate (z * z) = v) :
    ((gamma * (h - v)).ruffiniDivision (z * z)).evaluate x = gamma * (h.evaluate x - v) / (x - z * z) := by
  rw [Polynomial.evaluate_ruffiniDivision_of_ne _ away]
  simp [exact]

/-- The sum of the exact trace terms is the trace part of the DEEP function, at every point off
the poles, when the frame holds each column's value at each shifted point. -/
theorem evaluate_exactTraceTerms {z primitiveRoot x : F} {gammas : List F}
    {tracePolys : List (Polynomial F)} {offsets : List Nat} (frameValue : Nat → Nat → F)
    (away : ∀ column ∈ tracePolys.enum, ∀ row ∈ offsets.enum, x ≠ z * primitiveRoot ^ row.2)
    (frame : ∀ column ∈ tracePolys.enum, ∀ row ∈ offsets.enum,
      frameValue row.1 column.1 = column.2.evaluate (z * primitiveRoot ^ row.2)) :
    ((exactTraceTerms z primitiveRoot gammas tracePolys offsets).foldl (· + ·)
      Polynomial.zero).evaluate x = deepTraceValue gammas tracePolys frameValue z primitiveRoot offsets x := by
  -- Sum the terms column by column and row by row, each term being its difference quotient.
  rw [evaluate_foldl_add, Polynomial.evaluate_zero, zero_add, exactTraceTerms, sum_map_flatMap,
    deepTraceValue]
  congr 1
  refine List.map_congr_left fun column member => ?_
  rw [List.map_map]
  congr 1
  refine List.map_congr_left fun row member' => ?_
  simp only [Function.comp, evaluate_exactTraceTerm (away column member row member'),
    frame column member row member']

/-- The frame round 3 builds holds column `j` at row `k` as `tⱼ(z g^{offsetₖ})`. -/
theorem getRow_getTraceEvaluations {tracePolys : List (Polynomial F)} {z primitiveRoot : F}
    {offsets : List Nat} {column : Nat × Polynomial F} {row : Nat × Nat}
    (columnMember : column ∈ tracePolys.enum) (rowMember : row ∈ offsets.enum) :
    (((Frame.new (Frame.getTraceEvaluations tracePolys z offsets primitiveRoot).flatten
      tracePolys.length).getRow row.1).getD []).getD column.1 0 =
        column.2.evaluate (z * primitiveRoot ^ row.2) := by
  -- Row `k` of the frame is the columns evaluated at `z gᵏ`, and entry `j` is column `j`.
  obtain ⟨k, offset⟩ := row
  obtain ⟨j, t⟩ := column
  obtain ⟨kWithin, offsetAt⟩ := List.mem_enum rowMember
  have columnAt := List.mk_mem_enum_iff_getElem?.mp columnMember
  rw [Frame.getRow_new (by simp [Frame.getTraceEvaluations]) (by simpa using kWithin)]
  simp [Frame.getTraceEvaluations, List.getD_eq_getElem?_getD, columnAt, offsetAt]

end Values

section Lengths

variable {F : Type} [Field F] [DecidableEq F]

/-- An exact trace term has one coefficient fewer than its trace polynomial. -/
theorem length_exactTraceTerm_le (z primitiveRoot gamma : F) (t : Polynomial F) (offset : Nat) :
    (exactTraceTerm z primitiveRoot gamma t offset).coefficients.length ≤ t.degree := by
  -- Subtracting a constant keeps the length, dividing by `X − a` drops one, scaling keeps it.
  have scaled := Polynomial.length_mul_constant_le
    ((t - t.evaluate (z * primitiveRoot ^ offset)).ruffiniDivision (z * primitiveRoot ^ offset)) gamma
  have divided := Polynomial.length_ruffiniDivision_le (t - t.evaluate (z * primitiveRoot ^ offset))
    (z * primitiveRoot ^ offset)
  have shifted := Polynomial.length_sub_constant_le t (t.evaluate (z * primitiveRoot ^ offset))
  rw [exactTraceTerm, Polynomial.degree]
  omega

/-- An exactly divided composition term has one coefficient fewer than its half. -/
theorem length_compositionTerm_le (gamma v b : F) (h : Polynomial F) :
    ((gamma * (h - v)).ruffiniDivision b).coefficients.length ≤ h.degree := by
  -- Subtracting a constant and scaling keep the length; dividing by `X − b` drops one.
  have divided := Polynomial.length_ruffiniDivision_le (gamma * (h - v)) b
  have scaled := Polynomial.length_constant_mul_le gamma (h - v)
  have shifted := Polynomial.length_sub_constant_le h v
  rw [Polynomial.degree]
  omega

/-- With trace polynomials of degree at most `bound`, the sum of the exact trace terms has at most
`bound` coefficients. -/
theorem length_foldl_exactTraceTerms_le {z primitiveRoot : F} {gammas : List F}
    {tracePolys : List (Polynomial F)} {offsets : List Nat} {bound : Nat}
    (bounded : ∀ t ∈ tracePolys, t.degree ≤ bound) :
    ((exactTraceTerms z primitiveRoot gammas tracePolys offsets).foldl (· + ·)
      Polynomial.zero).coefficients.length ≤ bound := by
  -- Every term divides a polynomial of degree at most `bound` by a linear factor.
  refine length_foldl_add_le _ _ (Nat.zero_le _) ?_
  simp only [exactTraceTerms, List.mem_flatMap, List.mem_map]
  rintro p ⟨⟨j, t⟩, column, ⟨k, offset⟩, -, rfl⟩
  exact (length_exactTraceTerm_le z primitiveRoot _ t offset).trans
    (bounded t (List.snd_mem_of_mem_enum column))

/-- A polynomial of at most `N` coefficients has degree at most `N − 1`. -/
theorem degree_le_of_length_le {p : Polynomial F} {size : Nat}
    (short : p.coefficients.length ≤ size) : p.degree ≤ size - 1 :=
  Nat.sub_le_sub_right short 1

end Lengths

section Evaluation

variable {F RawTrace PublicInput RAPChallenges : Type} [Field F] [DecidableEq F] [IsFFTField F]
variable {collaborators : Collaborators F PublicInput RAPChallenges}
  {air : Air F RawTrace PublicInput RAPChallenges} {context : AirContext} {domain : Domain F}
  {publicInput : PublicInput} {round1Result : Round1 F RAPChallenges} {round2Result : Round2 F}
  {round3Result : Round3 F} {tracePolys : List (Polynomial F)} {z primitiveRoot : F}
  {rapChallenges : RAPChallenges} {boundaryCoeffs transitionCoeffs : List (F × F)}
  {gamma gammaP : F} {gammas : List F} {badTrace : Bool} {deep : Polynomial F} {x : F}

/-- On the honest path the DEEP polynomial, at every point of the extended domain, is the DEEP
function of the halves' values at `z²` and of the frame round 3 built. -/
theorem evaluate_computeDeepCompositionPoly_honest
    (computed3 : round3EvaluatePolynomialsInOutOfDomainElement collaborators air domain publicInput
      round1Result round2Result z rapChallenges boundaryCoeffs transitionCoeffs false =
        some round3Result)
    (computed : computeDeepCompositionPoly air.context domain round1Result.tracePolys round2Result
      round3Result z domain.tracePrimitiveRoot (gamma, gammaP) gammas false badTrace = some deep)
    (member : x ∈ domain.ldeRootsOfUnityCoset) :
    deep.evaluate x = deepCompositionValue gamma gammaP gammas round2Result.compositionPolyEven
      round2Result.compositionPolyOdd round3Result.compositionPolyEvenOodEvaluation
      round3Result.compositionPolyOddOodEvaluation round1Result.tracePolys
      (fun k j => ((round3Result.traceOodFrameEvaluations.getRow k).getD []).getD j 0)
      z domain.tracePrimitiveRoot air.context.transitionOffsets x := by
  -- Round 3 put the halves' own values at `z²` and every column's values into the frame; the
  -- interpolation of the first half ran, so `x − z²` vanishes nowhere on the domain.
  obtain ⟨frame, honest, -⟩ := round3_spec computed3
  obtain ⟨evenValue, oddValue⟩ := honest rfl
  obtain ⟨h1FromInterp, h2FromInterp, h1Ok, -, bounds, rfl⟩ :=
    computeDeepCompositionPoly_spec computed
  have awayZ2 : x ≠ z * z :=
    sub_ne_zero.mp (by simpa using (interpFromNumDenom_spec h1Ok).1 x member)
  simp only [Bool.false_eq_true, if_false, Polynomial.evaluate_add]
  rw [evaluate_compositionTerm awayZ2 evenValue.symm, evaluate_compositionTerm awayZ2 oddValue.symm,
    evaluate_exactTraceTerms
      (fun k j => ((round3Result.traceOodFrameEvaluations.getRow k).getD []).getD j 0)
      (fun column c row r => (bounds column c row r).2 x member)
      (fun column c row r => by rw [frame]; exact getRow_getTraceEvaluations c r)]
  rfl

/-- On the adversarial path the DEEP polynomial, at each of the first `N` points of the extended
domain, is the DEEP function of the values round 3 claimed at `z²`, with any frame that holds every
column's value at every shifted point. -/
theorem evaluate_computeDeepCompositionPoly_forged (frameValue : Nat → Nat → F)
    (frame : ∀ column ∈ tracePolys.enum, ∀ row ∈ context.transitionOffsets.enum,
      frameValue row.1 column.1 = column.2.evaluate (z * primitiveRoot ^ row.2))
    (computed : computeDeepCompositionPoly context domain tracePolys round2Result round3Result z
      primitiveRoot (gamma, gammaP) gammas true badTrace = some deep)
    (member : x ∈ domain.ldeRootsOfUnityCoset.take domain.interpolationDomainSize) :
    deep.evaluate x = deepCompositionValue gamma gammaP gammas round2Result.compositionPolyEven
      round2Result.compositionPolyOdd round3Result.compositionPolyEvenOodEvaluation
      round3Result.compositionPolyOddOodEvaluation tracePolys frameValue z primitiveRoot
      context.transitionOffsets x := by
  -- The first `N` points are the interpolation's nodes, where the interpolants are the quotients.
  obtain ⟨h1FromInterp, h2FromInterp, h1Ok, h2Ok, bounds, rfl⟩ :=
    computeDeepCompositionPoly_spec computed
  have node : x ∈ interpNodes domain true badTrace := by rwa [interpNodes, targetDeg_evil]
  simp only [if_true, Polynomial.evaluate_add]
  rw [evaluate_interpFromNumDenom h1Ok x node, evaluate_interpFromNumDenom h2Ok x node,
    evaluate_exactTraceTerms frameValue
      (fun column c row r => (bounds column c row r).2 x (List.mem_of_mem_take member)) frame]
  simp [deepCompositionValue, mul_div_assoc]

/-- On the honest path, when every trace polynomial has degree at most `bound`, the DEEP polynomial
has degree at most `max(deg H₁, deg H₂, bound) − 1`. -/
theorem degree_computeDeepCompositionPoly_honest_le {bound : Nat}
    (bounded : ∀ t ∈ tracePolys, t.degree ≤ bound)
    (computed : computeDeepCompositionPoly context domain tracePolys round2Result round3Result z
      primitiveRoot (gamma, gammaP) gammas false badTrace = some deep) :
    deep.degree ≤ max (max round2Result.compositionPolyEven.degree
      round2Result.compositionPolyOdd.degree) bound - 1 := by
  -- Each exactly divided term has a coefficient fewer than its source.
  obtain ⟨_, _, -, -, -, rfl⟩ := computeDeepCompositionPoly_spec computed
  simp only [Bool.false_eq_true, if_false]
  exact Nat.sub_le_sub_right ((Polynomial.length_add_le _ _).trans (max_le_max
    ((Polynomial.length_add_le _ _).trans (max_le_max (length_compositionTerm_le _ _ _ _)
      (length_compositionTerm_le _ _ _ _)))
    (length_foldl_exactTraceTerms_le bounded))) 1

/-- On the adversarial path, when every trace polynomial has degree at most `bound`, the DEEP
polynomial has degree below `max(N, bound)`. -/
theorem degree_computeDeepCompositionPoly_forged_lt {bound : Nat}
    (bounded : ∀ t ∈ tracePolys, t.degree ≤ bound)
    (computed : computeDeepCompositionPoly context domain tracePolys round2Result round3Result z
      primitiveRoot (gamma, gammaP) gammas true badTrace = some deep) :
    deep.degree < max domain.interpolationDomainSize bound := by
  -- The interpolants have at most `N` coefficients, the exact trace terms at most `bound`.
  obtain ⟨h1FromInterp, h2FromInterp, h1Ok, h2Ok, -, rfl⟩ :=
    computeDeepCompositionPoly_spec computed
  have positive : 0 < max domain.interpolationDomainSize bound :=
    lt_max_of_lt_left (by simp only [Domain.interpolationDomainSize]; positivity)
  have even := length_interpFromNumDenom_le h1Ok
  have odd := length_interpFromNumDenom_le h2Ok
  rw [targetDeg_evil] at even odd
  simp only [if_true]
  exact (Nat.sub_le_sub_right ((Polynomial.length_add_le _ _).trans (max_le
    ((Polynomial.length_add_le _ _).trans
      (max_le (even.trans (le_max_left _ _)) (odd.trans (le_max_left _ _))))
    ((length_foldl_exactTraceTerms_le bounded).trans (le_max_right _ _)))) 1).trans_lt
      (Nat.sub_lt positive Nat.one_pos)

end Evaluation

section Honest

variable {F RawTrace PublicInput RAPChallenges : Type} [Field F] [DecidableEq F] [IsFFTField F]

/--
The honest DEEP polynomial is the DEEP function the verifier recomputes, at every point of the
extended domain, from the values round 3 put into the proof: `H₁(z²)`, `H₂(z²)` and the frame. Every
coefficient index `j · |offsets| + k` the loop reads is in bounds and names one pair of column and
offset. When every trace polynomial has degree at most `bound` the polynomial has degree at most
`max(deg H₁, deg H₂, bound) − 1`: for trace polynomials of at most `N` coefficients, at most
`max(deg H₁, deg H₂, N − 1) − 1`.
-/
theorem computeDeepCompositionPoly_honest
    {collaborators : Collaborators F PublicInput RAPChallenges}
    {air : Air F RawTrace PublicInput RAPChallenges} {domain : Domain F} {publicInput : PublicInput}
    {round1Result : Round1 F RAPChallenges} {round2Result : Round2 F} {round3Result : Round3 F}
    {z : F} {rapChallenges : RAPChallenges} {boundaryCoeffs transitionCoeffs : List (F × F)}
    {gamma gammaP : F} {traceTermsGammas : List F} {badTrace : Bool} {deep : Polynomial F}
    (computed3 : round3EvaluatePolynomialsInOutOfDomainElement collaborators air domain publicInput
      round1Result round2Result z rapChallenges boundaryCoeffs transitionCoeffs false =
        some round3Result)
    (computed : computeDeepCompositionPoly air.context domain round1Result.tracePolys round2Result
      round3Result z domain.tracePrimitiveRoot (gamma, gammaP) traceTermsGammas false badTrace =
        some deep) :
    (∀ x ∈ domain.ldeRootsOfUnityCoset, deep.evaluate x = deepCompositionValue gamma gammaP
      traceTermsGammas round2Result.compositionPolyEven round2Result.compositionPolyOdd
      round3Result.compositionPolyEvenOodEvaluation round3Result.compositionPolyOddOodEvaluation
      round1Result.tracePolys
      (fun k j => ((round3Result.traceOodFrameEvaluations.getRow k).getD []).getD j 0)
      z domain.tracePrimitiveRoot air.context.transitionOffsets x) ∧
    (∀ j < round1Result.tracePolys.length, ∀ k < air.context.transitionOffsets.length,
      j * air.context.transitionOffsets.length + k < traceTermsGammas.length) ∧
    (∀ j k j' k', k < air.context.transitionOffsets.length →
      k' < air.context.transitionOffsets.length →
      j * air.context.transitionOffsets.length + k = j' * air.context.transitionOffsets.length + k' →
        j = j' ∧ k = k') ∧
    ∀ bound, (∀ t ∈ round1Result.tracePolys, t.degree ≤ bound) →
      deep.degree ≤ max (max round2Result.compositionPolyEven.degree
        round2Result.compositionPolyOdd.degree) bound - 1 := by
  -- The values and the degree hold of every honest call; the reads are the loop's.
  obtain ⟨-, -, -, -, bounds, -⟩ := computeDeepCompositionPoly_spec computed
  refine ⟨fun x member => evaluate_computeDeepCompositionPoly_honest computed3 computed member,
    fun j below k below' => ?_, fun j k j' k' below below' same => ?_,
    fun bound bounded => degree_computeDeepCompositionPoly_honest_le bounded computed⟩
  · -- Every pair of column and offset is read in the loop.
    exact (bounds (j, _) (List.mk_mem_enum_iff_getElem?.mpr (List.getElem?_eq_getElem below))
      (k, _) (List.mk_mem_enum_iff_getElem?.mpr (List.getElem?_eq_getElem below'))).1
  · -- Row-major indices: the column is the quotient by the number of offsets, the offset the rest.
    generalize air.context.transitionOffsets.length = m at below below' same
    have positive : 0 < m := by omega
    have column : ∀ j k, k < m → (j * m + k) / m = j := fun j k within => by
      rw [Nat.add_comm, Nat.add_mul_div_right _ _ positive, Nat.div_eq_of_lt within, zero_add]
    have offset : ∀ j k, k < m → (j * m + k) % m = k := fun j k within => by
      rw [Nat.add_comm, Nat.add_mul_mod_self_right, Nat.mod_eq_of_lt within]
    exact ⟨by rw [← column j k below, same, column j' k' below'],
      by rw [← offset j k below, same, offset j' k' below']⟩

/-- For the single-column AIR with trace `1 + 2X`, `H = 1 + 2X + 3X²`, `z = 2` and coefficients
`1, 1, [1, 2]`, the honest DEEP polynomial is the constant `9`. -/
theorem computeDeepCompositionPoly_honest_singleColumn :
    let domain : Domain GF17 := ⟨1, 1, 3, by decide⟩
    let round1Result : Round1 GF17 Unit := ⟨[Polynomial.new [1, 2]], ⟨[]⟩, [], [], ()⟩
    let even := Polynomial.new [(1 : GF17), 3]
    let odd := Polynomial.new [(2 : GF17)]
    let evenEvals := domain.ldeRootsOfUnityCoset.map even.evaluate
    let oddEvals := domain.ldeRootsOfUnityCoset.map odd.evaluate
    let round2Result : Round2 GF17 := ⟨even, evenEvals, MerkleTree.build evenEvals sumHasher,
      sumHasher.root evenEvals, odd, oddEvals, MerkleTree.build oddEvals sumHasher,
      sumHasher.root oddEvals⟩
    let round3Result : Round3 GF17 := ⟨Frame.new [5, 14] 1, 13, 2⟩
    let deep := Polynomial.new [(9 : GF17)]
    (round3EvaluatePolynomialsInOutOfDomainElement singleColumnCollaborators singleColumnAir domain
        () round1Result round2Result 2 () [] [] false = some round3Result ∧
      computeDeepCompositionPoly singleColumnAir.context domain round1Result.tracePolys
        round2Result round3Result 2 domain.tracePrimitiveRoot (1, 1) [1, 2] false false =
          some deep) ∧
    (∀ x ∈ domain.ldeRootsOfUnityCoset, deep.evaluate x = deepCompositionValue 1 1 [1, 2]
      round2Result.compositionPolyEven round2Result.compositionPolyOdd
      round3Result.compositionPolyEvenOodEvaluation round3Result.compositionPolyOddOodEvaluation
      round1Result.tracePolys
      (fun k j => ((round3Result.traceOodFrameEvaluations.getRow k).getD []).getD j 0)
      2 domain.tracePrimitiveRoot singleColumnAir.context.transitionOffsets x) ∧
    (∀ j < round1Result.tracePolys.length, ∀ k < singleColumnAir.context.transitionOffsets.length,
      j * singleColumnAir.context.transitionOffsets.length + k < [(1 : GF17), 2].length) ∧
    (∀ j k j' k', k < singleColumnAir.context.transitionOffsets.length →
      k' < singleColumnAir.context.transitionOffsets.length →
      j * singleColumnAir.context.transitionOffsets.length + k =
        j' * singleColumnAir.context.transitionOffsets.length + k' → j = j' ∧ k = k') ∧
    ∀ bound, (∀ t ∈ round1Result.tracePolys, t.degree ≤ bound) →
      deep.degree ≤ max (max round2Result.compositionPolyEven.degree
        round2Result.compositionPolyOdd.degree) bound - 1 :=
  ⟨⟨rfl, by decide⟩, computeDeepCompositionPoly_honest
    (rfl : round3EvaluatePolynomialsInOutOfDomainElement singleColumnCollaborators singleColumnAir
      _ () _ _ 2 () [] [] false = _)
    (by decide : computeDeepCompositionPoly _ _ _ _ _ _ _ _ _ false false = _)⟩

/-- A trace polynomial of more than `N` coefficients breaks the degree bound in `N`. Over the same
domain, with trace length two, the trace polynomial `1 + 2X + 3X²` (what round 1 interpolates from a
table of more rows than the trace length) has the exact trace term `3X + 9`, and the honest DEEP
polynomial `3 + 9X` has degree one, above `max(deg H₁, deg H₂, N − 1) − 1 = 0`. -/
theorem computeDeepCompositionPoly_honest_long_trace :
    let domain : Domain GF17 := ⟨1, 1, 3, by decide⟩
    let round1Result : Round1 GF17 Unit := ⟨[Polynomial.new [1, 2, 3]], ⟨[]⟩, [], [], ()⟩
    let even := Polynomial.new [(1 : GF17), 3]
    let odd := Polynomial.new [(2 : GF17)]
    let evenEvals := domain.ldeRootsOfUnityCoset.map even.evaluate
    let oddEvals := domain.ldeRootsOfUnityCoset.map odd.evaluate
    let round2Result : Round2 GF17 := ⟨even, evenEvals, MerkleTree.build evenEvals sumHasher,
      sumHasher.root evenEvals, odd, oddEvals, MerkleTree.build oddEvals sumHasher,
      sumHasher.root oddEvals⟩
    let round3Result : Round3 GF17 := ⟨Frame.new [0, 9] 1, 13, 2⟩
    let deep := Polynomial.new [(3 : GF17), 9]
    (2 : GF17) ∉ domain.ldeRootsOfUnityCoset ∧
    round3EvaluatePolynomialsInOutOfDomainElement singleColumnCollaborators singleColumnAir domain
      () round1Result round2Result 2 () [] [] false = some round3Result ∧
    computeDeepCompositionPoly singleColumnAir.context domain round1Result.tracePolys
      round2Result round3Result 2 domain.tracePrimitiveRoot (1, 1) [1, 2] false false = some deep ∧
    max (max round2Result.compositionPolyEven.degree round2Result.compositionPolyOdd.degree)
      (domain.interpolationDomainSize - 1) - 1 < deep.degree :=
  ⟨by decide, rfl, by decide, by decide⟩

/--
The forged DEEP polynomial, at each of the first `N` points of the extended domain, is the DEEP
function of the forged values: the exact value from the frame for `H₁(z²)`, zero for `H₂(z²)`, and
the true trace values. When every trace polynomial has degree at most `bound` it has degree below
`max(N, bound)`: for trace polynomials of at most `N` coefficients, below `N`.
-/
theorem computeDeepCompositionPoly_forged
    {collaborators : Collaborators F PublicInput RAPChallenges}
    {air : Air F RawTrace PublicInput RAPChallenges} {domain : Domain F} {publicInput : PublicInput}
    {round1Result : Round1 F RAPChallenges} {round2Result : Round2 F} {round3Result : Round3 F}
    {z : F} {rapChallenges : RAPChallenges} {boundaryCoeffs transitionCoeffs : List (F × F)}
    {gamma gammaP : F} {traceTermsGammas : List F} {badTrace : Bool} {deep : Polynomial F}
    (computed3 : round3EvaluatePolynomialsInOutOfDomainElement collaborators air domain publicInput
      round1Result round2Result z rapChallenges boundaryCoeffs transitionCoeffs true =
        some round3Result)
    (computed : computeDeepCompositionPoly air.context domain round1Result.tracePolys round2Result
      round3Result z domain.tracePrimitiveRoot (gamma, gammaP) traceTermsGammas true badTrace =
        some deep) :
    collaborators.compositionPolyOodEvaluationExactFromTrace round3Result.traceOodFrameEvaluations
        domain publicInput z rapChallenges boundaryCoeffs transitionCoeffs =
      some round3Result.compositionPolyEvenOodEvaluation ∧
    round3Result.compositionPolyOddOodEvaluation = 0 ∧
    (∀ bound, (∀ t ∈ round1Result.tracePolys, t.degree ≤ bound) →
      deep.degree < max domain.interpolationDomainSize bound) ∧
    ∀ x ∈ domain.ldeRootsOfUnityCoset.take domain.interpolationDomainSize,
      deep.evaluate x = deepCompositionValue gamma gammaP traceTermsGammas
        round2Result.compositionPolyEven round2Result.compositionPolyOdd
        round3Result.compositionPolyEvenOodEvaluation 0 round1Result.tracePolys
        (fun k j => (round1Result.tracePolys.getD j Polynomial.zero).evaluate
          (z * domain.tracePrimitiveRoot ^ air.context.transitionOffsets.getD k 0))
        z domain.tracePrimitiveRoot air.context.transitionOffsets x := by
  -- Round 3 forged `H₂(z²) = 0`; the trace values are each column's own at each shifted point.
  obtain ⟨exact, forged⟩ := (round3_spec computed3).2.2 rfl
  refine ⟨exact, forged,
    fun bound bounded => degree_computeDeepCompositionPoly_forged_lt bounded computed,
    fun x member => ?_⟩
  rw [evaluate_computeDeepCompositionPoly_forged
    (fun k j => (round1Result.tracePolys.getD j Polynomial.zero).evaluate
      (z * domain.tracePrimitiveRoot ^ air.context.transitionOffsets.getD k 0))
    (fun column c row r => by
      simp only [List.getD_eq_getElem?_getD, List.mk_mem_enum_iff_getElem?.mp c,
        List.mk_mem_enum_iff_getElem?.mp r, Option.getD_some]) computed member, forged]

/-- On the same input on the adversarial path, with the exact value `5` claimed for `H₁(z²)`, the
forged DEEP polynomial is `3 + 10X`. -/
theorem computeDeepCompositionPoly_forged_singleColumn :
    let domain : Domain GF17 := ⟨1, 1, 3, by decide⟩
    let round1Result : Round1 GF17 Unit := ⟨[Polynomial.new [1, 2]], ⟨[]⟩, [], [], ()⟩
    let even := Polynomial.new [(1 : GF17), 3]
    let odd := Polynomial.new [(2 : GF17)]
    let evenEvals := domain.ldeRootsOfUnityCoset.map even.evaluate
    let oddEvals := domain.ldeRootsOfUnityCoset.map odd.evaluate
    let round2Result : Round2 GF17 := ⟨even, evenEvals, MerkleTree.build evenEvals sumHasher,
      sumHasher.root evenEvals, odd, oddEvals, MerkleTree.build oddEvals sumHasher,
      sumHasher.root oddEvals⟩
    let round3Result : Round3 GF17 := ⟨Frame.new [5, 14] 1, 5, 0⟩
    let deep := Polynomial.new [(3 : GF17), 10]
    (round3EvaluatePolynomialsInOutOfDomainElement singleColumnCollaborators singleColumnAir domain
        () round1Result round2Result 2 () [] [] true = some round3Result ∧
      computeDeepCompositionPoly singleColumnAir.context domain round1Result.tracePolys
        round2Result round3Result 2 domain.tracePrimitiveRoot (1, 1) [1, 2] true false =
          some deep) ∧
    singleColumnCollaborators.compositionPolyOodEvaluationExactFromTrace
        round3Result.traceOodFrameEvaluations domain () 2 () [] [] =
      some round3Result.compositionPolyEvenOodEvaluation ∧
    round3Result.compositionPolyOddOodEvaluation = 0 ∧
    (∀ bound, (∀ t ∈ round1Result.tracePolys, t.degree ≤ bound) →
      deep.degree < max domain.interpolationDomainSize bound) ∧
    ∀ x ∈ domain.ldeRootsOfUnityCoset.take domain.interpolationDomainSize,
      deep.evaluate x = deepCompositionValue 1 1 [1, 2] round2Result.compositionPolyEven
        round2Result.compositionPolyOdd round3Result.compositionPolyEvenOodEvaluation 0
        round1Result.tracePolys
        (fun k j => (round1Result.tracePolys.getD j Polynomial.zero).evaluate
          (2 * domain.tracePrimitiveRoot ^ singleColumnAir.context.transitionOffsets.getD k 0))
        2 domain.tracePrimitiveRoot singleColumnAir.context.transitionOffsets x :=
  ⟨⟨rfl, by decide⟩, computeDeepCompositionPoly_forged
    (rfl : round3EvaluatePolynomialsInOutOfDomainElement singleColumnCollaborators singleColumnAir
      _ () _ _ 2 () [] [] true = _)
    (by decide : computeDeepCompositionPoly _ _ _ _ _ _ _ _ _ true false = _)⟩

/-- A trace polynomial of more than `N` coefficients breaks the degree bound on the adversarial path
too: the trace terms are divided exactly, not interpolated. With the trace polynomial `1 + X³` over
the same domain, the forged DEEP polynomial `9 + 8X + 3X²` has degree two, not below `N = 2`. -/
theorem computeDeepCompositionPoly_forged_long_trace :
    let domain : Domain GF17 := ⟨1, 1, 3, by decide⟩
    let round1Result : Round1 GF17 Unit := ⟨[Polynomial.new [1, 0, 0, 1]], ⟨[]⟩, [], [], ()⟩
    let even := Polynomial.new [(1 : GF17), 3]
    let odd := Polynomial.new [(2 : GF17)]
    let evenEvals := domain.ldeRootsOfUnityCoset.map even.evaluate
    let oddEvals := domain.ldeRootsOfUnityCoset.map odd.evaluate
    let round2Result : Round2 GF17 := ⟨even, evenEvals, MerkleTree.build evenEvals sumHasher,
      sumHasher.root evenEvals, odd, oddEvals, MerkleTree.build oddEvals sumHasher,
      sumHasher.root oddEvals⟩
    let round3Result : Round3 GF17 := ⟨Frame.new [9, 10] 1, 5, 0⟩
    let deep := Polynomial.new [(9 : GF17), 8, 3]
    (2 : GF17) ∉ domain.ldeRootsOfUnityCoset ∧
    round3EvaluatePolynomialsInOutOfDomainElement singleColumnCollaborators singleColumnAir domain
      () round1Result round2Result 2 () [] [] true = some round3Result ∧
    computeDeepCompositionPoly singleColumnAir.context domain round1Result.tracePolys
      round2Result round3Result 2 domain.tracePrimitiveRoot (1, 1) [1, 2] true false = some deep ∧
    domain.interpolationDomainSize ≤ deep.degree :=
  ⟨by decide, rfl, by decide, by decide⟩

/--
The honest-path assertion fires on an input the prover reaches. With trace length two, blowup four
and transition degree four (`N = 2`, `N · d = 8`), the constraint evaluator's `H = 1 + X + ⋯ + X⁷`
has the eight coefficients an interpolation on the eight points of the extended domain gives, and
degree below `N · d`. The raw trace `[3, 16]` interpolates to `t = 1 + 2X`, and the run draws
`z = 8`: off the coset `3 · ⟨9⟩`, off the trace domain, with `z² = 13` off the coset. The quotient
`(H₁ − H₁(z²)) / (X − z²)` has three coefficients, which two points cannot recover, so the
assertion fails and the DEEP polynomial and the whole honest run panic; the same interpolation and
the adversarial run return.
-/
theorem computeDeepCompositionPoly_assertion_fails :
    let context : AirContext := ⟨⟨4, 1, 3⟩, 2, 1, [4], [1], [0], 1⟩
    let domain : Domain GF17 := ⟨1, 2, 3, by decide⟩
    let compositionPoly := Polynomial.new (List.replicate 8 (1 : GF17))
    let collaborators : Collaborators GF17 Unit Unit :=
      { singleColumnCollaborators with compositionPoly := fun _ _ _ _ _ _ _ => some compositionPoly }
    let air : Air GF17 (List GF17) Unit Unit := { singleColumnAir with context := context }
    let t := Polynomial.new [(1 : GF17), 2]
    let even := compositionPoly.evenOddDecomposition.1
    let odd := compositionPoly.evenOddDecomposition.2
    let evenEvals := domain.ldeRootsOfUnityCoset.map even.evaluate
    let oddEvals := domain.ldeRootsOfUnityCoset.map odd.evaluate
    let round2Result : Round2 GF17 := ⟨even, evenEvals, MerkleTree.build evenEvals sumHasher,
      sumHasher.root evenEvals, odd, oddEvals, MerkleTree.build oddEvals sumHasher,
      sumHasher.root oddEvals⟩
    let z : GF17 := 8
    let round3Result : Round3 GF17 := ⟨Frame.new (Frame.getTraceEvaluations [t] z
      context.transitionOffsets domain.tracePrimitiveRoot).flatten 1, even.evaluate (z * z),
      odd.evaluate (z * z)⟩
    let h1Term := ((1 : GF17) * (even - even.evaluate (z * z))).ruffiniDivision (z * z)
    (Domain.new context = some domain ∧
      compositionPoly.coefficients.length ≤ domain.ldeRootsOfUnityCoset.length ∧
      compositionPoly.degree <
        domain.interpolationDomainSize * context.transitionDegrees.foldl max 0 ∧
      TraceTable.computeTracePolys ⟨[[3, 16]]⟩ = some [t] ∧
      t.coefficients.length ≤ domain.interpolationDomainSize ∧
      z ∉ domain.ldeRootsOfUnityCoset ∧ z ∉ domain.traceRootsOfUnity ∧
      z * z ∉ domain.ldeRootsOfUnityCoset) ∧
    h1Term.coefficients.length = 3 ∧
    interpFromNumDenom ((1 : GF17) * (even - even.evaluate (z * z)))
      (Polynomial.newMonomial (1 : GF17) 1 - z * z) domain h1Term false false = none ∧
    (interpFromNumDenom ((1 : GF17) * (even - even.evaluate (z * z)))
      (Polynomial.newMonomial (1 : GF17) 1 - z * z) domain h1Term true false).isSome ∧
    computeDeepCompositionPoly context domain [t] round2Result round3Result z
      domain.tracePrimitiveRoot (1, 1) [1] false false = none ∧
    prove collaborators 3 [3, 16] air () false false = none ∧
    (prove collaborators 3 [3, 16] air () true false).isSome :=
  ⟨⟨rfl, by decide⟩, by decide, by decide, by decide, by decide, rfl, rfl⟩

/--
The honest-path check passes an interpolant that is not the quotient, on an input the prover
reaches. With the same context and raw trace, the constraint evaluator's
`H = 1 + 12X² + 8X⁴ + X⁶` has seven coefficients, and `H₁ = (X − 3)(X − 10)(X − 13)`, `H₂ = 0`. At
the drawn `z = 8`, `z² = 13`, so the quotient `(X − 3)(X − 10)` vanishes at both nodes `3` and `10`:
the interpolant is zero, the zipped prefix is empty, and the check passes. The DEEP polynomial and
the whole honest run return.
-/
theorem computeDeepCompositionPoly_sanityCheck_misses :
    let context : AirContext := ⟨⟨4, 1, 3⟩, 2, 1, [4], [1], [0], 1⟩
    let domain : Domain GF17 := ⟨1, 2, 3, by decide⟩
    let compositionPoly := Polynomial.new [(1 : GF17), 0, 12, 0, 8, 0, 1]
    let collaborators : Collaborators GF17 Unit Unit :=
      { singleColumnCollaborators with compositionPoly := fun _ _ _ _ _ _ _ => some compositionPoly }
    let air : Air GF17 (List GF17) Unit Unit := { singleColumnAir with context := context }
    let t := Polynomial.new [(1 : GF17), 2]
    let even := compositionPoly.evenOddDecomposition.1
    let odd := compositionPoly.evenOddDecomposition.2
    let evenEvals := domain.ldeRootsOfUnityCoset.map even.evaluate
    let oddEvals := domain.ldeRootsOfUnityCoset.map odd.evaluate
    let round2Result : Round2 GF17 := ⟨even, evenEvals, MerkleTree.build evenEvals sumHasher,
      sumHasher.root evenEvals, odd, oddEvals, MerkleTree.build oddEvals sumHasher,
      sumHasher.root oddEvals⟩
    let z : GF17 := 8
    let round3Result : Round3 GF17 := ⟨Frame.new (Frame.getTraceEvaluations [t] z
      context.transitionOffsets domain.tracePrimitiveRoot).flatten 1, even.evaluate (z * z),
      odd.evaluate (z * z)⟩
    let h1Term := ((1 : GF17) * (even - even.evaluate (z * z))).ruffiniDivision (z * z)
    (Domain.new context = some domain ∧
      compositionPoly.coefficients.length ≤ domain.ldeRootsOfUnityCoset.length ∧
      TraceTable.computeTracePolys ⟨[[3, 16]]⟩ = some [t] ∧
      z ∉ domain.ldeRootsOfUnityCoset ∧ z ∉ domain.traceRootsOfUnity ∧
      z * z ∉ domain.ldeRootsOfUnityCoset) ∧
    interpFromNumDenom ((1 : GF17) * (even - even.evaluate (z * z)))
      (Polynomial.newMonomial (1 : GF17) 1 - z * z) domain h1Term false false =
        some Polynomial.zero ∧
    Polynomial.zero ≠ h1Term ∧
    (computeDeepCompositionPoly context domain [t] round2Result round3Result z
      domain.tracePrimitiveRoot (1, 1) [1] false false).isSome ∧
    ∃ proof after, prove collaborators 3 [3, 16] air () false false = some (.ok (proof, (), after)) :=
  ⟨⟨rfl, by decide⟩, by decide, by decide, by decide, _, _, rfl⟩

end Honest

section BadTrace

variable {F : Type} [Field F] [DecidableEq F] [IsFFTField F]
variable {context : AirContext} {domain : Domain F} {tracePolys : List (Polynomial F)}
  {round2Result : Round2 F} {round3Result : Round3 F} {z primitiveRoot gamma gammaP : F}
  {traceTermsGammas : List F}

/-- On the adversarial path the DEEP polynomial does not read `bad_trace`: every interpolation
targets the trace length either way. -/
theorem computeDeepCompositionPoly_evil_badTrace (badTrace : Bool) :
    computeDeepCompositionPoly context domain tracePolys round2Result round3Result z primitiveRoot
        (gamma, gammaP) traceTermsGammas true badTrace =
      computeDeepCompositionPoly context domain tracePolys round2Result round3Result z primitiveRoot
        (gamma, gammaP) traceTermsGammas true false := by
  cases badTrace <;> rfl

/-- Two runs that differ only in `bad_trace` and both return give the same DEEP polynomial: on the
honest path the interpolants are discarded, on the adversarial path nothing reads the flag. -/
theorem computeDeepCompositionPoly_badTrace_eq {evil badTrace badTrace' : Bool}
    {deep deep' : Polynomial F}
    (first : computeDeepCompositionPoly context domain tracePolys round2Result round3Result z
      primitiveRoot (gamma, gammaP) traceTermsGammas evil badTrace = some deep)
    (second : computeDeepCompositionPoly context domain tracePolys round2Result round3Result z
      primitiveRoot (gamma, gammaP) traceTermsGammas evil badTrace' = some deep') :
    deep = deep' := by
  -- The honest result never reads the interpolants; the adversarial one never reads the flag.
  cases evil
  · obtain ⟨-, -, -, -, -, rfl⟩ := computeDeepCompositionPoly_spec first
    obtain ⟨-, -, -, -, -, rfl⟩ := computeDeepCompositionPoly_spec second
    rfl
  · rw [computeDeepCompositionPoly_evil_badTrace] at first second
    exact Option.some.inj (first.symm.trans second)

end BadTrace

section Poles

variable {F : Type} [Field F] [DecidableEq F] [IsFFTField F]

omit [DecidableEq F] in
/-- For a `z` off the coset, no point of the coset is a pole of a trace term; a point of the coset
is a pole of the composition terms exactly when `z²` lies on the coset. -/
theorem deepDenominators_ne_zero {domain : Domain F} {z : F}
    (outside : z ∉ domain.ldeRootsOfUnityCoset) :
    (∀ x ∈ domain.ldeRootsOfUnityCoset, ∀ offset : Nat,
      x - z * domain.tracePrimitiveRoot ^ offset ≠ 0) ∧
    ((∀ x ∈ domain.ldeRootsOfUnityCoset, x - z * z ≠ 0) ↔ z * z ∉ domain.ldeRootsOfUnityCoset) := by
  -- A shift of `z` by a power of the trace's root stays off the coset; `z²` need not.
  refine ⟨fun x member offset =>
    sub_ne_zero.mpr (domain.ne_mul_tracePrimitiveRoot_pow outside member offset), ?_, ?_⟩
  · exact fun away member => away _ member (sub_self _)
  · exact fun squareOutside x member same => squareOutside (sub_eq_zero.mp same ▸ member)

/-- Over the coset `3 · ⟨13⟩`, `z = 2` is off the coset. -/
theorem deepDenominators_ne_zero_coset_three :
    let domain : Domain GF17 := ⟨1, 1, 3, by decide⟩
    (2 : GF17) ∉ domain.ldeRootsOfUnityCoset ∧
      (∀ x ∈ domain.ldeRootsOfUnityCoset, ∀ offset : Nat,
        x - 2 * domain.tracePrimitiveRoot ^ offset ≠ 0) ∧
      ((∀ x ∈ domain.ldeRootsOfUnityCoset, x - 2 * 2 ≠ 0) ↔
        (2 : GF17) * 2 ∉ domain.ldeRootsOfUnityCoset) :=
  ⟨by decide, deepDenominators_ne_zero (by decide)⟩

/-- Over the coset `2 · ⟨13⟩`, `z = 6` is off the coset and off the trace domain, yet `z² = 2` is
the coset's first point, so the division by `x − z²` panics. -/
theorem deepDenominator_vanishes_on_coset :
    let domain : Domain GF17 := ⟨1, 1, 2, by decide⟩
    (6 : GF17) ∉ domain.ldeRootsOfUnityCoset ∧ (6 : GF17) ∉ domain.traceRootsOfUnity ∧
      (2 : GF17) ∈ domain.ldeRootsOfUnityCoset ∧ (2 : GF17) - 6 * 6 = 0 ∧
      interpFromNumDenom (Polynomial.new [1]) (Polynomial.newMonomial (1 : GF17) 1 - (6 * 6 : GF17))
        domain Polynomial.zero false false = none := by
  decide

end Poles

end StarkProver
