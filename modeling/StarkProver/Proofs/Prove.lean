import StarkProver.Proofs.Deep

/-! What a run of `prove` that returns has done: the order of its transcript operations, the
openings it puts into the proof, and its independence from `bad_trace`. -/

namespace StarkProver

section Frame

variable {F : Type} [ByteConversion F]

/-- Appending a frame of rows of one positive width appends its entries row by row. -/
theorem appendTraceOodFrame_new {rows : List (List F)} {width : Nat} (positive : 0 < width)
    (uniform : ∀ row ∈ rows, row.length = width) (transcript : Transcript F) :
    appendTraceOodFrame (Frame.new rows.flatten width) transcript =
      some (transcript.extend (appendEvents rows.flatten)) := by
  -- Each row appended extends the log by that row's entries; induct on the rows appended so far.
  have prefixes : ∀ n ≤ rows.length, (List.range n).foldlM (fun transcript i => do
      let row ← (Frame.new rows.flatten width).getRow i
      pure (row.foldl (fun transcript element => transcript.append (toBytesBe element))
        transcript)) transcript = some (transcript.extend (appendEvents (rows.take n).flatten)) := by
    intro n
    induction n with
    | zero => intro _; simp [appendEvents]
    | succ n ih =>
      intro within
      rw [List.range_succ, List.foldlM_append, ih (by omega)]
      simp only [bind, Option.some_bind, List.foldlM_cons, List.foldlM_nil,
        Frame.getRow_new uniform within, pure, Transcript.foldl_append, Transcript.extend_extend,
        List.take_succ, List.getElem?_eq_getElem within, Option.toList_some, List.flatten_append,
        List.flatten_singleton, appendEvents_append]
      rfl
  simp only [appendTraceOodFrame, Frame.numRows_new positive uniform, bind, Option.some_bind]
  exact (prefixes rows.length le_rfl).trans (by rw [List.take_length])

end Frame

section Rounds

variable {F RawTrace PublicInput RAPChallenges : Type} [Field F] [DecidableEq F] [IsFFTField F]
  [ByteConversion F]
variable {collaborators : Collaborators F PublicInput RAPChallenges}
  {air : Air F RawTrace PublicInput RAPChallenges} {domain : Domain F}
  {round1Result : Round1 F RAPChallenges} {round2Result : Round2 F} {round3Result : Round3 F}
  {z : F} {transcript : Transcript F} {evil : Bool}

omit [ByteConversion F] in
/--
What round 4 returns: the DEEP polynomial built with the coefficients drawn first, the FRI
commitment to it and the queries, the openings at the first query, and the transcript extended by
the draws of the coefficients and then FRI's operations.
-/
theorem round4_spec {badTrace : Bool} {round4Result : Round4 F} {after : Transcript F}
    (computed : round4ComputeAndRunFriOnTheDeepCompositionPolynomial collaborators air domain
      round1Result round2Result round3Result z transcript evil badTrace =
        some (round4Result, after)) :
    ∃ deep friLayers iota0 commitEvents queryEvents,
      computeDeepCompositionPoly air.context domain round1Result.tracePolys round2Result
        round3Result z domain.tracePrimitiveRoot
        (transcript.oracle transcript.log, transcript.oracle (transcript.log ++ [.challenge]))
        (batchSampleChallenges (air.context.transitionOffsets.length * air.context.traceColumns)
          (transcript.extend [.challenge, .challenge])).1 evil badTrace = some deep ∧
      collaborators.friCommitPhase domain.rootOrder deep domain.ldeRootsOfUnityCoset
        (transcript.extend (List.replicate
          (2 + air.context.transitionOffsets.length * air.context.traceColumns) .challenge)) =
        some (round4Result.friLastValue, friLayers, commitEvents) ∧
      collaborators.friQueryPhase air.context domain friLayers
        (transcript.extend (List.replicate
          (2 + air.context.transitionOffsets.length * air.context.traceColumns) .challenge ++
            commitEvents)) = some (round4Result.queryList, iota0, queryEvents) ∧
      round4Result.friLayersMerkleRoots = friLayers.map (·.merkleTree.root) ∧
      openDeepCompositionPoly domain round1Result round2Result iota0 =
        some round4Result.deepPolyOpenings ∧
      after = transcript.extend (List.replicate
        (2 + air.context.transitionOffsets.length * air.context.traceColumns) .challenge ++
          commitEvents ++ queryEvents) := by
  -- Peel the steps of round 4 apart; its draws are two challenges and then the trace coefficients.
  simp only [round4ComputeAndRunFriOnTheDeepCompositionPolynomial, bind, Option.bind_eq_some,
    transcriptToField_fst, transcriptToField_snd, batchSampleChallenges_snd,
    Transcript.oracle_extend, Transcript.log_extend, Transcript.extend_extend, pure,
    Option.some.injEq, Prod.mk.injEq] at computed
  obtain ⟨deep, deepOk, ⟨friLastValue, friLayers, commitEvents⟩, commitOk,
    ⟨queryList, iota0, queryEvents⟩, queryOk, openings, openOk, rfl, rfl⟩ := computed
  have draws : [TranscriptEvent.challenge] ++ [.challenge] ++
      List.replicate (air.context.transitionOffsets.length * air.context.traceColumns) .challenge =
        List.replicate (2 + air.context.transitionOffsets.length * air.context.traceColumns)
          .challenge := by
    rw [List.replicate_add]; rfl
  rw [draws] at commitOk queryOk
  exact ⟨deep, friLayers, iota0, commitEvents, queryEvents, deepOk, commitOk, queryOk, rfl, openOk,
    by rw [draws]⟩

omit [ByteConversion F] in
/-- Two runs of round 4 that differ only in `bad_trace` and both return agree. -/
theorem round4_badTrace_eq {badTrace badTrace' : Bool} {result result' : Round4 F × Transcript F}
    (first : round4ComputeAndRunFriOnTheDeepCompositionPolynomial collaborators air domain
      round1Result round2Result round3Result z transcript evil badTrace = some result)
    (second : round4ComputeAndRunFriOnTheDeepCompositionPolynomial collaborators air domain
      round1Result round2Result round3Result z transcript evil badTrace' = some result') :
    result = result' := by
  -- The DEEP polynomials agree, and everything after them reads only the DEEP polynomial.
  simp only [round4ComputeAndRunFriOnTheDeepCompositionPolynomial, bind] at first second
  obtain ⟨deep, deepOk, rest⟩ := Option.bind_eq_some.mp first
  obtain ⟨deep', deepOk', rest'⟩ := Option.bind_eq_some.mp second
  cases computeDeepCompositionPoly_badTrace_eq deepOk deepOk'
  exact Option.some.inj (rest.symm.trans rest')

end Rounds

section Prove

variable {F RawTrace PublicInput RAPChallenges : Type} [Field F] [DecidableEq F] [IsFFTField F]
  [ByteConversion F]
variable {collaborators : Collaborators F PublicInput RAPChallenges}
  {air : Air F RawTrace PublicInput RAPChallenges} {evil : Bool}

/-- The boundary and the transition coefficients `prove` draws after round 1: `boundaryCount`
alphas, as many betas, then `transitionCount` of each, paired. -/
def compositionCoeffs (boundaryCount transitionCount : Nat) (transcript : Transcript F) :
    List (F × F) × List (F × F) :=
  let alphas := batchSampleChallenges boundaryCount transcript
  let betas := batchSampleChallenges boundaryCount alphas.2
  let transitionAlphas := batchSampleChallenges transitionCount betas.2
  let transitionBetas := batchSampleChallenges transitionCount transitionAlphas.2
  (alphas.1.zip betas.1, transitionAlphas.1.zip transitionBetas.1)

omit [Field F] [DecidableEq F] [IsFFTField F] in
/-- The transcript `prove` draws `z` from: round 1's, then the draws of the boundary and transition
coefficients and the appended roots of the two halves. -/
theorem append_roots_batchSampleChallenges (transcript : Transcript F)
    (boundaryCount transitionCount : Nat) (evenRoot oddRoot : F) :
    ((batchSampleChallenges transitionCount (batchSampleChallenges transitionCount
      (batchSampleChallenges boundaryCount (batchSampleChallenges boundaryCount
        transcript).2).2).2).2.append (toBytesBe evenRoot)).append (toBytesBe oddRoot) =
      transcript.extend (List.replicate (2 * boundaryCount + 2 * transitionCount) .challenge ++
        appendEvents [evenRoot, oddRoot]) := by
  -- Each draw logs one challenge; each append logs one event.
  simp only [batchSampleChallenges_snd, Transcript.append_eq_extend, Transcript.extend_extend,
    two_mul, List.replicate_add, List.append_assoc]
  rfl

/--
What a run of `prove` that returns has done: it built the domain, ran round 1 on an empty
transcript, drew the coefficients, ran round 2, appended the roots of the halves, drew `z`, ran
round 3, appended `H₁(z²)`, `H₂(z²)` and the frame, ran round 4, and assembled the proof from the
rounds' results.
-/
theorem prove_spec {fuel : Nat} {trace : RawTrace} {publicInput publicInput' : PublicInput}
    {badTrace : Bool} {proof : StarkProof F} {after : Transcript F}
    (proved : prove collaborators fuel trace air publicInput evil badTrace =
      some (.ok (proof, publicInput', after))) :
    ∃ domain round1Result transcript1 round2Result z transcript3 round3Result transcript4
      round4Result,
      Domain.new air.context = some domain ∧
      round1RandomizedAirWithPreprocessing air collaborators.hasher trace domain publicInput
        (Transcript.new collaborators.challenge) =
          some (.ok (round1Result, publicInput', transcript1)) ∧
      round2ComputeCompositionPolynomial collaborators domain round1Result publicInput'
        (compositionCoeffs round1Result.tracePolys.length air.context.numTransitionConstraints
          transcript1).2
        (compositionCoeffs round1Result.tracePolys.length air.context.numTransitionConstraints
          transcript1).1 = some round2Result ∧
      sampleZOod domain.ldeRootsOfUnityCoset domain.traceRootsOfUnity fuel
        (transcript1.extend (List.replicate (2 * round1Result.tracePolys.length +
          2 * air.context.numTransitionConstraints) .challenge ++
            appendEvents [round2Result.compositionPolyEvenRoot, round2Result.compositionPolyOddRoot]))
        = some (z, transcript3) ∧
      round3EvaluatePolynomialsInOutOfDomainElement collaborators air domain publicInput'
        round1Result round2Result z round1Result.rapChallenges
        (compositionCoeffs round1Result.tracePolys.length air.context.numTransitionConstraints
          transcript1).1
        (compositionCoeffs round1Result.tracePolys.length air.context.numTransitionConstraints
          transcript1).2 evil = some round3Result ∧
      appendTraceOodFrame round3Result.traceOodFrameEvaluations
        (transcript3.extend (appendEvents [round3Result.compositionPolyEvenOodEvaluation,
          round3Result.compositionPolyOddOodEvaluation])) = some transcript4 ∧
      round4ComputeAndRunFriOnTheDeepCompositionPolynomial collaborators air domain round1Result
        round2Result round3Result z transcript4 evil badTrace = some (round4Result, after) ∧
      proof = ⟨round1Result.ldeTraceMerkleRoots, round3Result.traceOodFrameEvaluations,
        round2Result.compositionPolyEvenRoot, round3Result.compositionPolyEvenOodEvaluation,
        round2Result.compositionPolyOddRoot, round3Result.compositionPolyOddOodEvaluation,
        round4Result.friLayersMerkleRoots, round4Result.friLastValue, round4Result.queryList,
        round4Result.deepPolyOpenings⟩ := by
  -- Peel the steps of `prove` apart in the order it runs them.
  unfold prove at proved
  split at proved
  · cases proved
  · rename_i domain built
    dsimp only at proved
    split at proved
    · cases proved
    · cases proved
    · rename_i round1Result publicInput1 transcript1 round1Ok
      simp only [Functor.map, Option.map_eq_some', Except.ok.injEq] at proved
      obtain ⟨result, computed, same⟩ := proved
      cases same
      simp only [bind, Option.bind_eq_some, pure, Option.some.injEq] at computed
      obtain ⟨round2Result, round2Ok, ⟨z, transcript3⟩, zOk, round3Result, round3Ok, transcript4,
        frameOk, ⟨round4Result, after'⟩, round4Ok, same⟩ := computed
      cases same
      rw [append_roots_batchSampleChallenges] at zOk
      simp only [Transcript.append_eq_extend, Transcript.extend_extend, List.singleton_append]
        at frameOk
      exact ⟨domain, round1Result, transcript1, round2Result, z, transcript3, round3Result,
        transcript4, round4Result, built, round1Ok, round2Ok, zOk, round3Ok, frameOk, round4Ok, rfl⟩

/-- The proof the single-column AIR gets for the raw trace `[1, 2]`, with `z = 5`. -/
def singleColumnProof : StarkProof GF17 where
  ldeTraceMerkleRoots := [6]
  traceOodFrameEvaluations := ⟨[15, 5], 1⟩
  compositionPolyEvenRoot := 4
  compositionPolyEvenOodEvaluation := 12
  compositionPolyOddRoot := 8
  compositionPolyOddOodEvaluation := 2
  friLayersMerkleRoots := [13]
  friLastValue := 13
  queryList := []
  deepPolyOpenings := ⟨⟨[16, 9, 3]⟩, 16, ⟨[2, 2, 2]⟩, 2, [⟨[16, 3, 4]⟩], [16]⟩

/-- The transcript of that run: eighteen operations. -/
def singleColumnTranscript : Transcript GF17 :=
  ⟨[.append [6], .challenge, .challenge, .challenge, .challenge, .append [4], .append [8],
    .challenge, .append [12], .append [2], .append [15], .append [5], .challenge, .challenge,
    .challenge, .challenge, .append [0], .challenge], singleColumnCollaborators.challenge⟩

/--
The transcript replays the proof. A run that returns appends the main trace roots, lets the AIR draw
its RAP challenges, appends the auxiliary roots, draws the `2(m + a)` boundary and the
`2 · num_transition_constraints` transition coefficients, appends the roots of `H₁` and `H₂`,
draws `z` (after `k` rejected draws), appends `H₁(z²)`, `H₂(z²)` and the frame row by row, and
draws `γ`, `γ'` and the trace coefficients, all before FRI's first operation; every appended value
is the one the proof holds.
-/
theorem prove_transcript {fuel : Nat} {trace : RawTrace} {publicInput publicInput' : PublicInput}
    {badTrace : Bool} {proof : StarkProof F} {after : Transcript F}
    (proved : prove collaborators fuel trace air publicInput evil badTrace =
      some (.ok (proof, publicInput', after))) :
    ∃ mainTrace k rest,
      air.buildMainTrace trace publicInput = .ok (mainTrace, publicInput') ∧
      0 < mainTrace.cols.length ∧
      after.log =
        appendEvents (proof.ldeTraceMerkleRoots.take mainTrace.cols.length) ++
        (air.buildRapChallenges ((Transcript.new collaborators.challenge).extend
          (appendEvents (proof.ldeTraceMerkleRoots.take mainTrace.cols.length)))).2 ++
        appendEvents (proof.ldeTraceMerkleRoots.drop mainTrace.cols.length) ++
        List.replicate (2 * proof.ldeTraceMerkleRoots.length +
          2 * air.context.numTransitionConstraints) .challenge ++
        appendEvents [proof.compositionPolyEvenRoot, proof.compositionPolyOddRoot] ++
        List.replicate (k + 1) .challenge ++
        appendEvents ([proof.compositionPolyEvenOodEvaluation,
          proof.compositionPolyOddOodEvaluation] ++ proof.traceOodFrameEvaluations.data) ++
        List.replicate (2 + air.context.transitionOffsets.length * air.context.traceColumns)
          .challenge ++ rest := by
  -- Each round's operations, in the order `prove` runs them.
  obtain ⟨domain, round1Result, transcript1, round2Result, z, transcript3, round3Result, transcript4,
    round4Result, -, round1Ok, -, zOk, round3Ok, frameOk, round4Ok, rfl⟩ := prove_spec proved
  obtain ⟨mainTrace, mainPolys, auxPolys, builtMain, mainComputed, nonempty, polys, ldeTrace, -,
    roots, -, transcript1Eq, -⟩ := round1_spec round1Ok
  obtain ⟨k, -, -, -, rfl⟩ := sampleZOod_spec zOk
  obtain ⟨frame, -⟩ := round3_spec round3Ok
  obtain ⟨-, -, -, commitEvents, queryEvents, -, -, -, -, -, rfl⟩ := round4_spec round4Ok
  have columns : mainTrace.cols.length = mainPolys.length :=
    (TraceTable.computeTracePolys_spec mainComputed).length_eq
  have positive : 0 < round1Result.tracePolys.length := by
    rw [polys, List.length_append]
    exact Nat.lt_of_lt_of_le (List.length_pos.mpr nonempty) (Nat.le_add_right _ _)
  rw [frame, appendTraceOodFrame_new positive (by simp [Frame.getTraceEvaluations])] at frameOk
  cases frameOk
  have split : round1Result.ldeTraceMerkleRoots =
      (ldeColumns domain mainPolys).map collaborators.hasher.root ++
        (ldeColumns domain auxPolys).map collaborators.hasher.root := by
    rw [roots, ldeTrace, polys, ldeColumns_append, List.map_append]
  have mainLength : ((ldeColumns domain mainPolys).map collaborators.hasher.root).length =
      mainTrace.cols.length := by
    simp [columns]
  refine ⟨mainTrace, k, commitEvents ++ queryEvents, builtMain, columns ▸ List.length_pos.mpr nonempty, ?_⟩
  rw [split, List.take_left' mainLength, List.drop_left' mainLength, frame, transcript1Eq]
  simp [Transcript.new, polys, appendEvents]

/-- The openings at a query index: the values of `H₁`, `H₂` and every trace polynomial at the
point `i = index mod |D_LDE|` of the extended domain, each with the position-`i` path of the tree over
the vector holding it. -/
def deepOpenings (hasher : MerkleBackend F) (domain : Domain F) (tracePolys : List (Polynomial F))
    (even odd : Polynomial F) (indexToOpen : Nat) : DeepPolynomialOpenings F :=
  let i := indexToOpen % domain.ldeRootsOfUnityCoset.length
  let point := domain.ldeRootsOfUnityCoset.getD i 0
  ⟨⟨hasher.authenticationPath (domain.ldeRootsOfUnityCoset.map even.evaluate) i⟩,
    even.evaluate point,
    ⟨hasher.authenticationPath (domain.ldeRootsOfUnityCoset.map odd.evaluate) i⟩,
    odd.evaluate point,
    (ldeColumns domain tracePolys).map fun col => ⟨hasher.authenticationPath col i⟩,
    tracePolys.map fun p => p.evaluate point⟩

/-- The single-column run draws `z = 5` at the first try and logs eighteen operations. -/
theorem prove_transcript_singleColumn :
    prove singleColumnCollaborators 3 [1, 2] singleColumnAir () false false =
      some (.ok (singleColumnProof, (), singleColumnTranscript)) ∧
    ∃ mainTrace k rest,
      singleColumnAir.buildMainTrace [1, 2] () = .ok (mainTrace, ()) ∧
      0 < mainTrace.cols.length ∧
      singleColumnTranscript.log =
        appendEvents (singleColumnProof.ldeTraceMerkleRoots.take mainTrace.cols.length) ++
        (singleColumnAir.buildRapChallenges
          ((Transcript.new singleColumnCollaborators.challenge).extend
            (appendEvents (singleColumnProof.ldeTraceMerkleRoots.take mainTrace.cols.length)))).2 ++
        appendEvents (singleColumnProof.ldeTraceMerkleRoots.drop mainTrace.cols.length) ++
        List.replicate (2 * singleColumnProof.ldeTraceMerkleRoots.length +
          2 * singleColumnAir.context.numTransitionConstraints) .challenge ++
        appendEvents [singleColumnProof.compositionPolyEvenRoot,
          singleColumnProof.compositionPolyOddRoot] ++
        List.replicate (k + 1) .challenge ++
        appendEvents ([singleColumnProof.compositionPolyEvenOodEvaluation,
          singleColumnProof.compositionPolyOddOodEvaluation] ++
            singleColumnProof.traceOodFrameEvaluations.data) ++
        List.replicate (2 + singleColumnAir.context.transitionOffsets.length *
          singleColumnAir.context.traceColumns) .challenge ++ rest :=
  ⟨rfl, (prove_transcript (rfl : prove singleColumnCollaborators 3 [1, 2] singleColumnAir () false
    false = _) :)⟩

/--
The openings are the committed evaluations at one shared point. At every query index the openings of
a run that returns exist, and hold `H₁`, `H₂` and each trace polynomial, main then auxiliary, at
the point `index mod |D_LDE|` of the extended domain, each with the path of the tree over the very
vector whose root the proof holds; the proof holds the openings at FRI's first query.
-/
theorem prove_openings {fuel : Nat} {trace : RawTrace} {publicInput publicInput' : PublicInput}
    {badTrace : Bool} {proof : StarkProof F} {after : Transcript F}
    (proved : prove collaborators fuel trace air publicInput evil badTrace =
      some (.ok (proof, publicInput', after))) :
    ∃ domain round1Result round2Result iota0,
      Domain.new air.context = some domain ∧
      (∃ transcript1, round1RandomizedAirWithPreprocessing air collaborators.hasher trace domain
        publicInput (Transcript.new collaborators.challenge) =
          some (.ok (round1Result, publicInput', transcript1))) ∧
      (∃ coeffs : List (F × F) × List (F × F), round2ComputeCompositionPolynomial collaborators
        domain round1Result publicInput' coeffs.2 coeffs.1 = some round2Result) ∧
      proof.ldeTraceMerkleRoots =
        (ldeColumns domain round1Result.tracePolys).map collaborators.hasher.root ∧
      proof.compositionPolyEvenRoot = collaborators.hasher.root
        (domain.ldeRootsOfUnityCoset.map round2Result.compositionPolyEven.evaluate) ∧
      proof.compositionPolyOddRoot = collaborators.hasher.root
        (domain.ldeRootsOfUnityCoset.map round2Result.compositionPolyOdd.evaluate) ∧
      proof.deepPolyOpenings = deepOpenings collaborators.hasher domain round1Result.tracePolys
        round2Result.compositionPolyEven round2Result.compositionPolyOdd iota0 ∧
      ∀ indexToOpen, openDeepCompositionPoly domain round1Result round2Result indexToOpen =
        some (deepOpenings collaborators.hasher domain round1Result.tracePolys
          round2Result.compositionPolyEven round2Result.compositionPolyOdd indexToOpen) := by
  -- Rounds 1 and 2 committed each vector the openings read; round 4 opened at the first query.
  obtain ⟨domain, round1Result, transcript1, round2Result, z, transcript3, round3Result, transcript4,
    round4Result, built, round1Ok, round2Ok, -, -, -, round4Ok, rfl⟩ := prove_spec proved
  obtain ⟨-, -, -, -, -, -, -, ldeTrace, trees, roots, -⟩ := round1_spec round1Ok
  obtain ⟨-, -, -, -, evenEvals, oddEvals, evenTree, evenRoot, oddTree, oddRoot⟩ :=
    round2_spec round2Ok
  obtain ⟨-, -, iota0, -, -, -, -, -, -, openOk, -⟩ := round4_spec round4Ok
  have opened : ∀ indexToOpen, openDeepCompositionPoly domain round1Result round2Result indexToOpen =
      some (deepOpenings collaborators.hasher domain round1Result.tracePolys
        round2Result.compositionPolyEven round2Result.compositionPolyOdd indexToOpen) := by
    intro indexToOpen
    rw [openDeepCompositionPoly_spec ldeTrace trees evenEvals oddEvals evenTree oddTree, evenEvals,
      oddEvals, ldeTrace]
    rfl
  refine ⟨domain, round1Result, round2Result, iota0, built, ⟨transcript1, round1Ok⟩, ⟨_, round2Ok⟩,
    by rw [roots, ldeTrace], by rw [evenRoot, evenEvals], by rw [oddRoot, oddEvals],
    Option.some.inj ((opened iota0).symm.trans openOk).symm, opened⟩

/-- In the single-column run the openings are taken at FRI's first query `5`, the point `5 mod 4 = 1`
of the coset. -/
theorem prove_openings_singleColumn :
    prove singleColumnCollaborators 3 [1, 2] singleColumnAir () false false =
      some (.ok (singleColumnProof, (), singleColumnTranscript)) ∧
    ∃ domain round1Result round2Result iota0,
      Domain.new singleColumnAir.context = some domain ∧
      (∃ transcript1, round1RandomizedAirWithPreprocessing singleColumnAir sumHasher [1, 2] domain
        () (Transcript.new singleColumnCollaborators.challenge) =
          some (.ok (round1Result, (), transcript1))) ∧
      (∃ coeffs : List (GF17 × GF17) × List (GF17 × GF17), round2ComputeCompositionPolynomial
        singleColumnCollaborators domain round1Result () coeffs.2 coeffs.1 = some round2Result) ∧
      singleColumnProof.ldeTraceMerkleRoots =
        (ldeColumns domain round1Result.tracePolys).map sumHasher.root ∧
      singleColumnProof.compositionPolyEvenRoot = sumHasher.root
        (domain.ldeRootsOfUnityCoset.map round2Result.compositionPolyEven.evaluate) ∧
      singleColumnProof.compositionPolyOddRoot = sumHasher.root
        (domain.ldeRootsOfUnityCoset.map round2Result.compositionPolyOdd.evaluate) ∧
      singleColumnProof.deepPolyOpenings = deepOpenings sumHasher domain round1Result.tracePolys
        round2Result.compositionPolyEven round2Result.compositionPolyOdd iota0 ∧
      ∀ indexToOpen, openDeepCompositionPoly domain round1Result round2Result indexToOpen =
        some (deepOpenings sumHasher domain round1Result.tracePolys
          round2Result.compositionPolyEven round2Result.compositionPolyOdd indexToOpen) :=
  ⟨rfl, (prove_openings (rfl : prove singleColumnCollaborators 3 [1, 2] singleColumnAir () false
    false = _) :)⟩

/-- `bad_trace` never changes the proof: two runs that differ only in the flag (and the fuel of
the sampling loop) and both return give the same proof and the same public input. -/
theorem prove_badTrace_eq {fuel fuel' : Nat} {trace : RawTrace} {publicInput : PublicInput}
    {badTrace badTrace' : Bool} {proof proof' : StarkProof F}
    {publicInput' publicInput'' : PublicInput} {after after' : Transcript F}
    (first : prove collaborators fuel trace air publicInput evil badTrace =
      some (.ok (proof, publicInput', after)))
    (second : prove collaborators fuel' trace air publicInput evil badTrace' =
      some (.ok (proof', publicInput'', after'))) :
    proof = proof' ∧ publicInput' = publicInput'' := by
  -- Every step before round 4 is the same computation; round 4 does not read the flag.
  obtain ⟨domain, round1Result, transcript1, round2Result, z, transcript3, round3Result, transcript4,
    round4Result, built, round1Ok, round2Ok, zOk, round3Ok, frameOk, round4Ok, rfl⟩ :=
    prove_spec first
  obtain ⟨domain', round1Result', transcript1', round2Result', z', transcript3', round3Result',
    transcript4', round4Result', built', round1Ok', round2Ok', zOk', round3Ok', frameOk', round4Ok',
    rfl⟩ := prove_spec second
  cases Option.some.inj (built.symm.trans built')
  have round1Same := round1Ok.symm.trans round1Ok'
  simp only [Option.some.injEq, Except.ok.injEq, Prod.mk.injEq] at round1Same
  obtain ⟨rfl, rfl, rfl⟩ := round1Same
  cases Option.some.inj (round2Ok.symm.trans round2Ok')
  cases sampleZOod_deterministic zOk zOk'
  cases Option.some.inj (round3Ok.symm.trans round3Ok')
  cases Option.some.inj (frameOk.symm.trans frameOk')
  cases round4_badTrace_eq round4Ok round4Ok'
  exact ⟨rfl, rfl⟩

/-- The single-column run gives the same proof with `bad_trace` set and unset, and with more fuel. -/
theorem prove_badTrace_eq_singleColumn :
    prove singleColumnCollaborators 3 [1, 2] singleColumnAir () false true =
      some (.ok (singleColumnProof, (), singleColumnTranscript)) ∧
    prove singleColumnCollaborators 5 [1, 2] singleColumnAir () false false =
      some (.ok (singleColumnProof, (), singleColumnTranscript)) ∧
    singleColumnProof = singleColumnProof ∧ () = () :=
  ⟨rfl, rfl, (prove_badTrace_eq (rfl : prove singleColumnCollaborators 3 [1, 2] singleColumnAir ()
    false true = _) (rfl : prove singleColumnCollaborators 5 [1, 2] singleColumnAir () false
    false = _) :)⟩

end Prove

end StarkProver
