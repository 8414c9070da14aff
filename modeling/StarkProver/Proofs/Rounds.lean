import StarkProver.Prover.Rounds
import StarkProver.Proofs.Interp

/-! What each round returns when it returns: its commitments, its transcript operations, and the
openings, each stated once so that the proofs about `prove` never unfold a round. -/

namespace StarkProver

section Specs

variable {F RawTrace PublicInput RAPChallenges : Type} [Field F] [DecidableEq F] [IsFFTField F]
  [ByteConversion F]

/-- The values of a list of polynomials on the extended domain, one list per polynomial. -/
def ldeColumns (domain : Domain F) (polys : List (Polynomial F)) : List (List F) :=
  polys.map fun p => domain.ldeRootsOfUnityCoset.map p.evaluate

/-- The transcript operations that append each value of a list, in order. -/
def appendEvents (values : List F) : List TranscriptEvent :=
  values.map fun value => .append (toBytesBe value)

omit [ByteConversion F] in
@[simp] theorem length_ldeColumns (domain : Domain F) (polys : List (Polynomial F)) :
    (ldeColumns domain polys).length = polys.length := by
  simp [ldeColumns]

omit [ByteConversion F] in
@[simp] theorem ldeColumns_append (domain : Domain F) (first second : List (Polynomial F)) :
    ldeColumns domain (first ++ second) = ldeColumns domain first ++ ldeColumns domain second := by
  simp [ldeColumns]

omit [Field F] [DecidableEq F] [IsFFTField F] in
@[simp] theorem appendEvents_append (first second : List F) :
    appendEvents (first ++ second) = appendEvents first ++ appendEvents second := by
  simp [appendEvents]

/-- `interpolate_and_commit` interpolates every column, extends each polynomial to the domain,
commits to each extension, and appends the roots in column order. -/
theorem interpolateAndCommit_spec {hasher : MerkleBackend F} {trace : TraceTable F}
    {domain : Domain F} {transcript after : Transcript F} {polys : List (Polynomial F)}
    {evals : List (List F)} {trees : List (MerkleTree F)} {roots : List F}
    (committed : interpolateAndCommit hasher trace domain transcript =
      some (polys, evals, trees, roots, after)) :
    trace.computeTracePolys = some polys ∧ evals = ldeColumns domain polys ∧
      trees = evals.map (MerkleTree.build · hasher) ∧ roots = evals.map hasher.root ∧
      after = transcript.extend (appendEvents roots) := by
  -- Every extension that succeeds is the polynomial's values on the domain.
  simp only [interpolateAndCommit, bind, Option.bind_eq_some, Option.some.injEq, Prod.mk.injEq,
    pure] at committed
  obtain ⟨polys', computed, evals', evaluated, rfl, rfl, rfl, rfl, rfl⟩ := committed
  have columns := mapM_eq_some_map (fun p _ e found => ldeEvaluations_eq found) evaluated
  refine ⟨computed, columns, rfl, by simp, ?_⟩
  rw [Transcript.foldl_append]
  rfl

/--
What round 1 returns: the main columns' polynomials, then the auxiliary ones; one extension, one
tree and one root per polynomial, in that order; the RAP challenges drawn right after the main
roots; and the transcript extended by the main roots, the RAP operations and the auxiliary roots.
-/
theorem round1_spec {air : Air F RawTrace PublicInput RAPChallenges} {hasher : MerkleBackend F}
    {rawTrace : RawTrace} {domain : Domain F} {publicInput publicInput' : PublicInput}
    {transcript after : Transcript F} {round1Result : Round1 F RAPChallenges}
    (built : round1RandomizedAirWithPreprocessing air hasher rawTrace domain publicInput transcript =
      some (.ok (round1Result, publicInput', after))) :
    ∃ mainTrace mainPolys auxPolys,
      air.buildMainTrace rawTrace publicInput = .ok (mainTrace, publicInput') ∧
      mainTrace.computeTracePolys = some mainPolys ∧ mainPolys ≠ [] ∧
      round1Result.tracePolys = mainPolys ++ auxPolys ∧
      round1Result.ldeTrace.cols = ldeColumns domain round1Result.tracePolys ∧
      round1Result.ldeTraceMerkleTrees =
        round1Result.ldeTrace.cols.map (MerkleTree.build · hasher) ∧
      round1Result.ldeTraceMerkleRoots = round1Result.ldeTrace.cols.map hasher.root ∧
      round1Result.rapChallenges = (air.buildRapChallenges (transcript.extend
        (appendEvents ((ldeColumns domain mainPolys).map hasher.root)))).1 ∧
      after = transcript.extend (appendEvents ((ldeColumns domain mainPolys).map hasher.root) ++
        (air.buildRapChallenges (transcript.extend
          (appendEvents ((ldeColumns domain mainPolys).map hasher.root)))).2 ++
        appendEvents ((ldeColumns domain auxPolys).map hasher.root)) ∧
      (auxPolys = [] ∨ (air.buildAuxiliaryTrace mainTrace round1Result.rapChallenges
        publicInput').computeTracePolys = some auxPolys) := by
  -- A built main trace is committed; the auxiliary trace is committed only when it has columns.
  unfold round1RandomizedAirWithPreprocessing at built
  split at built
  · cases built
  · rename_i mainTrace publicInput'' builtMain
    simp only [Functor.map, Option.map_eq_some', Except.ok.injEq] at built
    obtain ⟨result, computed, same⟩ := built
    simp only [bind, Option.bind_eq_some] at computed
    obtain ⟨⟨mainPolys, mainEvals, mainTrees, mainRoots, mainAfter⟩, mainCommitted, head, nonempty,
      computed⟩ := computed
    subst same
    obtain ⟨mainComputed, rfl, rfl, rfl, rfl⟩ := interpolateAndCommit_spec mainCommitted
    have nonempty' : mainPolys ≠ [] := by rintro rfl; cases nonempty
    dsimp only at computed
    split at computed
    · -- The auxiliary columns follow the main ones in every list.
      simp only [Option.bind_eq_some, pure, Option.some_bind, Option.some.injEq] at computed
      obtain ⟨⟨auxPolys, auxEvals, auxTrees, auxRoots, auxAfter⟩, auxCommitted, same⟩ := computed
      cases same
      obtain ⟨auxComputed, rfl, rfl, rfl, rfl⟩ := interpolateAndCommit_spec auxCommitted
      refine ⟨mainTrace, mainPolys, auxPolys, builtMain, mainComputed, nonempty', rfl, ?_, ?_, ?_,
        rfl, ?_, .inr auxComputed⟩
      all_goals simp [ldeColumns, appendEvents]
    · -- Without auxiliary columns nothing more is committed.
      simp only [pure, Option.some_bind, Option.some.injEq] at computed
      cases computed
      refine ⟨mainTrace, mainPolys, [], builtMain, mainComputed, nonempty', by simp, ?_, ?_, ?_,
        rfl, ?_, .inl rfl⟩
      all_goals simp [ldeColumns, appendEvents]

/-- When the AIR builds tables of `trace_length` rows from this raw trace, every trace polynomial
of round 1 has at most `trace_length` coefficients. -/
theorem round1_tracePolys_short_of_sized {air : Air F RawTrace PublicInput RAPChallenges}
    {hasher : MerkleBackend F} {rawTrace : RawTrace} {domain : Domain F}
    {publicInput publicInput' : PublicInput} {transcript after : Transcript F}
    {round1Result : Round1 F RAPChallenges} (sized : air.BuildsTraceLengthFrom rawTrace publicInput)
    (built : round1RandomizedAirWithPreprocessing air hasher rawTrace domain publicInput transcript =
      some (.ok (round1Result, publicInput', after))) :
    ∀ p ∈ round1Result.tracePolys, p.coefficients.length ≤ air.context.traceLength := by
  -- Main and auxiliary polynomials each interpolate a column of `trace_length` rows.
  obtain ⟨mainTrace, mainPolys, auxPolys, builtMain, mainComputed, -, polys, -, -, -, -, -, aux⟩ :=
    round1_spec built
  rw [polys, List.forall_mem_append]
  refine ⟨TraceTable.length_computeTracePolys_le mainComputed (sized _ _ builtMain).1, ?_⟩
  rcases aux with rfl | auxComputed
  · simp
  · exact TraceTable.length_computeTracePolys_le auxComputed ((sized _ _ builtMain).2 _ _)

omit [ByteConversion F] in
/-- What round 2 returns: the halves of the composition polynomial, their values on the domain,
and a tree and a root over each. -/
theorem round2_spec {collaborators : Collaborators F PublicInput RAPChallenges} {domain : Domain F}
    {round1Result : Round1 F RAPChallenges} {publicInput : PublicInput}
    {transitionCoeffs boundaryCoeffs : List (F × F)} {round2Result : Round2 F}
    (computed : round2ComputeCompositionPolynomial collaborators domain round1Result publicInput
      transitionCoeffs boundaryCoeffs = some round2Result) :
    ∃ compositionPoly, collaborators.compositionPoly domain round1Result.tracePolys
        round1Result.ldeTrace publicInput round1Result.rapChallenges transitionCoeffs
        boundaryCoeffs = some compositionPoly ∧
      round2Result.compositionPolyEven = compositionPoly.evenOddDecomposition.1 ∧
      round2Result.compositionPolyOdd = compositionPoly.evenOddDecomposition.2 ∧
      round2Result.ldeCompositionPolyEvenEvaluations =
        domain.ldeRootsOfUnityCoset.map round2Result.compositionPolyEven.evaluate ∧
      round2Result.ldeCompositionPolyOddEvaluations =
        domain.ldeRootsOfUnityCoset.map round2Result.compositionPolyOdd.evaluate ∧
      round2Result.compositionPolyEvenMerkleTree =
        MerkleTree.build round2Result.ldeCompositionPolyEvenEvaluations collaborators.hasher ∧
      round2Result.compositionPolyEvenRoot =
        collaborators.hasher.root round2Result.ldeCompositionPolyEvenEvaluations ∧
      round2Result.compositionPolyOddMerkleTree =
        MerkleTree.build round2Result.ldeCompositionPolyOddEvaluations collaborators.hasher ∧
      round2Result.compositionPolyOddRoot =
        collaborators.hasher.root round2Result.ldeCompositionPolyOddEvaluations := by
  -- The batch commitment of the two halves has two trees and two roots, read back in order.
  simp only [round2ComputeCompositionPolynomial, batchCommit_fst, batchCommit_snd, List.map_cons,
    List.map_nil, List.getElem?_cons_zero, List.getElem?_cons_succ, bind, Option.some_bind,
    Option.bind_eq_some, pure, Option.some.injEq] at computed
  obtain ⟨compositionPoly, found, evenEvals, evenOk, oddEvals, oddOk, rfl⟩ := computed
  exact ⟨compositionPoly, found, rfl, rfl, ldeEvaluations_eq evenOk, ldeEvaluations_eq oddOk, rfl,
    rfl, rfl, rfl⟩

omit [ByteConversion F] in
/-- What round 3 returns: the frame of every trace polynomial at `z gᵏ`, one row per offset, and
the halves at `z²`, or on the adversarial path the exact value from the frame and zero. -/
theorem round3_spec {collaborators : Collaborators F PublicInput RAPChallenges}
    {air : Air F RawTrace PublicInput RAPChallenges} {domain : Domain F} {publicInput : PublicInput}
    {round1Result : Round1 F RAPChallenges} {round2Result : Round2 F} {z : F}
    {rapChallenges : RAPChallenges} {boundaryCoeffs transitionCoeffs : List (F × F)} {evil : Bool}
    {round3Result : Round3 F}
    (computed : round3EvaluatePolynomialsInOutOfDomainElement collaborators air domain publicInput
      round1Result round2Result z rapChallenges boundaryCoeffs transitionCoeffs evil =
        some round3Result) :
    round3Result.traceOodFrameEvaluations = Frame.new (Frame.getTraceEvaluations
      round1Result.tracePolys z air.context.transitionOffsets domain.tracePrimitiveRoot).flatten
        round1Result.tracePolys.length ∧
    (evil = false → round3Result.compositionPolyEvenOodEvaluation =
        round2Result.compositionPolyEven.evaluate (z * z) ∧
      round3Result.compositionPolyOddOodEvaluation =
        round2Result.compositionPolyOdd.evaluate (z * z)) ∧
    (evil = true → collaborators.compositionPolyOodEvaluationExactFromTrace
        round3Result.traceOodFrameEvaluations domain publicInput z rapChallenges boundaryCoeffs
        transitionCoeffs = some round3Result.compositionPolyEvenOodEvaluation ∧
      round3Result.compositionPolyOddOodEvaluation = 0) := by
  -- The two paths differ only in the two values at `z²`.
  cases evil
  · cases computed
    exact ⟨rfl, fun _ => ⟨rfl, rfl⟩, Bool.noConfusion⟩
  · simp only [round3EvaluatePolynomialsInOutOfDomainElement, if_true, bind, Option.bind_eq_some,
      pure, Option.some_bind, Option.some.injEq] at computed
    obtain ⟨exact, found, rfl⟩ := computed
    exact ⟨rfl, Bool.noConfusion, fun _ => ⟨found, rfl⟩⟩

omit [ByteConversion F] in
/--
On the honest path the values at `z²` recombine to the composition polynomial at `z`, because the
halves interleave back to it coefficient by coefficient: `H(x) = H₁(x²) + x H₂(x²)`.
-/
theorem round3_oodEvaluations_recombine
    {collaborators : Collaborators F PublicInput RAPChallenges}
    {air : Air F RawTrace PublicInput RAPChallenges} {domain : Domain F} {publicInput : PublicInput}
    {round1Result : Round1 F RAPChallenges} {round2Result : Round2 F} {round3Result : Round3 F}
    {transitionCoeffs boundaryCoeffs boundaryCoeffs' transitionCoeffs' : List (F × F)} {z : F}
    {rapChallenges : RAPChallenges}
    (computed2 : round2ComputeCompositionPolynomial collaborators domain round1Result publicInput
      transitionCoeffs boundaryCoeffs = some round2Result)
    (computed3 : round3EvaluatePolynomialsInOutOfDomainElement collaborators air domain publicInput
      round1Result round2Result z rapChallenges boundaryCoeffs' transitionCoeffs' false =
        some round3Result) :
    ∃ compositionPoly, collaborators.compositionPoly domain round1Result.tracePolys
        round1Result.ldeTrace publicInput round1Result.rapChallenges transitionCoeffs
        boundaryCoeffs = some compositionPoly ∧
      round3Result.compositionPolyEvenOodEvaluation +
        z * round3Result.compositionPolyOddOodEvaluation = compositionPoly.evaluate z ∧
      ∀ j, compositionPoly.coefficients.getD (2 * j) 0 =
          round2Result.compositionPolyEven.coefficients.getD j 0 ∧
        compositionPoly.coefficients.getD (2 * j + 1) 0 =
          round2Result.compositionPolyOdd.coefficients.getD j 0 := by
  -- Round 2 splits `H`, round 3 evaluates the halves at `z²`.
  obtain ⟨compositionPoly, found, even, odd, -⟩ := round2_spec computed2
  obtain ⟨evenValue, oddValue⟩ := (round3_spec computed3).2.1 rfl
  refine ⟨compositionPoly, found, ?_, even ▸ odd ▸ compositionPoly.getD_evenOddDecomposition⟩
  rw [evenValue, oddValue, even, odd, ← Polynomial.evaluate_evenOddDecomposition]

/-- For `H = 1 + 2X + 3X²` committed over the coset `3 · ⟨13⟩`, the halves `1 + 3X` and `2` at
`z² = 4` give `H(2) = 17 = 0`. -/
theorem round3_oodEvaluations_recombine_singleColumn :
    let domain : Domain GF17 := ⟨1, 1, 3, by decide⟩
    let round1Result : Round1 GF17 Unit := ⟨[], ⟨[]⟩, [], [], ()⟩
    let even := Polynomial.new [(1 : GF17), 3]
    let odd := Polynomial.new [(2 : GF17)]
    let evenEvals := domain.ldeRootsOfUnityCoset.map even.evaluate
    let oddEvals := domain.ldeRootsOfUnityCoset.map odd.evaluate
    let round2Result : Round2 GF17 := ⟨even, evenEvals, MerkleTree.build evenEvals sumHasher,
      sumHasher.root evenEvals, odd, oddEvals, MerkleTree.build oddEvals sumHasher,
      sumHasher.root oddEvals⟩
    let round3Result : Round3 GF17 := ⟨Frame.new [] 0, even.evaluate 4, odd.evaluate 4⟩
    (round2ComputeCompositionPolynomial singleColumnCollaborators domain round1Result () [] [] =
        some round2Result ∧
      round3EvaluatePolynomialsInOutOfDomainElement singleColumnCollaborators singleColumnAir
        domain () round1Result round2Result 2 () [] [] false = some round3Result) ∧
    ∃ compositionPoly, singleColumnCollaborators.compositionPoly domain round1Result.tracePolys
        round1Result.ldeTrace () round1Result.rapChallenges [] [] = some compositionPoly ∧
      round3Result.compositionPolyEvenOodEvaluation +
        2 * round3Result.compositionPolyOddOodEvaluation = compositionPoly.evaluate 2 ∧
      ∀ j, compositionPoly.coefficients.getD (2 * j) 0 =
          round2Result.compositionPolyEven.coefficients.getD j 0 ∧
        compositionPoly.coefficients.getD (2 * j + 1) 0 =
          round2Result.compositionPolyOdd.coefficients.getD j 0 :=
  ⟨⟨rfl, rfl⟩, round3_oodEvaluations_recombine rfl (rfl : round3EvaluatePolynomialsInOutOfDomainElement
    singleColumnCollaborators singleColumnAir _ () _ _ 2 () [] [] false = _)⟩

omit [ByteConversion F] in
/-- The openings at a query: each half's value and its position proof in the tree over its
values, and every trace column's value and proof, all at the index reduced modulo the domain. -/
theorem openDeepCompositionPoly_spec {domain : Domain F} {round1Result : Round1 F RAPChallenges}
    {round2Result : Round2 F} {hasher : MerkleBackend F}
    (ldeTrace : round1Result.ldeTrace.cols = ldeColumns domain round1Result.tracePolys)
    (traceTrees : round1Result.ldeTraceMerkleTrees =
      round1Result.ldeTrace.cols.map (MerkleTree.build · hasher))
    (evenEvals : round2Result.ldeCompositionPolyEvenEvaluations =
      domain.ldeRootsOfUnityCoset.map round2Result.compositionPolyEven.evaluate)
    (oddEvals : round2Result.ldeCompositionPolyOddEvaluations =
      domain.ldeRootsOfUnityCoset.map round2Result.compositionPolyOdd.evaluate)
    (evenTree : round2Result.compositionPolyEvenMerkleTree =
      MerkleTree.build round2Result.ldeCompositionPolyEvenEvaluations hasher)
    (oddTree : round2Result.compositionPolyOddMerkleTree =
      MerkleTree.build round2Result.ldeCompositionPolyOddEvaluations hasher)
    (indexToOpen : Nat) :
    openDeepCompositionPoly domain round1Result round2Result indexToOpen = some
      ⟨⟨hasher.authenticationPath round2Result.ldeCompositionPolyEvenEvaluations
          (indexToOpen % domain.ldeRootsOfUnityCoset.length)⟩,
        round2Result.compositionPolyEven.evaluate (domain.ldeRootsOfUnityCoset.getD
          (indexToOpen % domain.ldeRootsOfUnityCoset.length) 0),
        ⟨hasher.authenticationPath round2Result.ldeCompositionPolyOddEvaluations
          (indexToOpen % domain.ldeRootsOfUnityCoset.length)⟩,
        round2Result.compositionPolyOdd.evaluate (domain.ldeRootsOfUnityCoset.getD
          (indexToOpen % domain.ldeRootsOfUnityCoset.length) 0),
        round1Result.ldeTrace.cols.map fun col =>
          ⟨hasher.authenticationPath col (indexToOpen % domain.ldeRootsOfUnityCoset.length)⟩,
        round1Result.tracePolys.map fun p => p.evaluate (domain.ldeRootsOfUnityCoset.getD
          (indexToOpen % domain.ldeRootsOfUnityCoset.length) 0)⟩ := by
  -- The index lies inside the domain, and every committed vector has one entry per point.
  have within : indexToOpen % domain.ldeRootsOfUnityCoset.length <
      domain.ldeRootsOfUnityCoset.length :=
    Nat.mod_lt _ (by simp only [Domain.length_ldeRootsOfUnityCoset]; positivity)
  simp only [openDeepCompositionPoly]
  generalize indexToOpen % domain.ldeRootsOfUnityCoset.length = index at within ⊢
  have read : ∀ p : Polynomial F, (domain.ldeRootsOfUnityCoset.map p.evaluate)[index]? =
      some (p.evaluate (domain.ldeRootsOfUnityCoset.getD index 0)) := by
    intro p
    simp [List.getD_eq_getElem?_getD, List.getElem?_eq_getElem within]
  have columns : ∀ col ∈ round1Result.ldeTrace.cols, index < col.length := by
    rw [ldeTrace]
    simp only [ldeColumns, List.mem_map]
    rintro col ⟨p, -, rfl⟩
    simpa using within
  have proofs : round1Result.ldeTraceMerkleTrees.mapM (·.getProofByPos index) =
      some (round1Result.ldeTrace.cols.map fun col => ⟨hasher.authenticationPath col index⟩) := by
    rw [traceTrees, mapM_of_forall (g := fun tree => ⟨tree.hasher.authenticationPath tree.leaves
      index⟩), List.map_map]
    · rfl
    · simp only [List.mem_map]
      rintro tree ⟨col, member, rfl⟩
      exact MerkleTree.getProofByPos_of_lt (columns col member)
  have row : round1Result.ldeTrace.getRow index = some (round1Result.tracePolys.map fun p =>
      p.evaluate (domain.ldeRootsOfUnityCoset.getD index 0)) := by
    rw [TraceTable.getRow_of_lt 0 columns, ldeTrace]
    simp [ldeColumns, List.getD_eq_getElem?_getD, List.getElem?_eq_getElem within]
  have evenProof : (MerkleTree.build round2Result.ldeCompositionPolyEvenEvaluations
      hasher).getProofByPos index = _ :=
    MerkleTree.getProofByPos_of_lt (by simpa [evenEvals] using within)
  have oddProof : (MerkleTree.build round2Result.ldeCompositionPolyOddEvaluations
      hasher).getProofByPos index = _ :=
    MerkleTree.getProofByPos_of_lt (by simpa [oddEvals] using within)
  rw [evenEvals] at evenProof
  rw [oddEvals] at oddProof
  simp only [bind, evenTree, oddTree, evenProof, oddProof, evenEvals, oddEvals, read, proofs, row,
    Option.some_bind, MerkleTree.leaves_build]
  rfl

end Specs

end StarkProver
