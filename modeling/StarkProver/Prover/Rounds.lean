import StarkProver.Prover.Deep
import StarkProver.Air.Traits

/-! The four rounds of the prover and `prove`, each threading the one transcript. -/

namespace StarkProver

section Rounds

variable {F RawTrace PublicInput RAPChallenges : Type} [Field F] [DecidableEq F] [IsFFTField F]
  [ByteConversion F]

/-- `interpolate_and_commit(trace, domain, transcript)`: the trace polynomials, their evaluations
on the extended domain, one Merkle tree per column and the roots, each root appended to the
transcript in column order. -/
def interpolateAndCommit (hasher : MerkleBackend F) (trace : TraceTable F) (domain : Domain F)
    (transcript : Transcript F) :
    Option (List (Polynomial F) × List (List F) × List (MerkleTree F) × List F × Transcript F) := do
  let tracePolys ← trace.computeTracePolys
  let ldeTraceEvaluations ← tracePolys.mapM (ldeEvaluations domain)
  let ldeTrace := TraceTable.newFromCols ldeTraceEvaluations
  let (ldeTraceMerkleTrees, ldeTraceMerkleRoots) := batchCommit hasher ldeTrace.cols
  let transcript := ldeTraceMerkleRoots.foldl
    (fun transcript root => transcript.append (toBytesBe root)) transcript
  pure (tracePolys, ldeTraceEvaluations, ldeTraceMerkleTrees, ldeTraceMerkleRoots, transcript)

/--
`round_1_randomized_air_with_preprocessing(air, raw_trace, domain, public_input, transcript)`.

The main trace is committed, the RAP challenges drawn, and a nonempty auxiliary trace committed
after it. Printing the first trace polynomial panics on a main trace without columns.
-/
def round1RandomizedAirWithPreprocessing (air : Air F RawTrace PublicInput RAPChallenges)
    (hasher : MerkleBackend F) (rawTrace : RawTrace) (domain : Domain F) (publicInput : PublicInput)
    (transcript : Transcript F) :
    Option (Except ProvingError (Round1 F RAPChallenges × PublicInput × Transcript F)) :=
  match air.buildMainTrace rawTrace publicInput with
  | .error e => some (.error e)
  | .ok (mainTrace, publicInput) => Except.ok <$> do
    let (tracePolys, evaluations, ldeTraceMerkleTrees, ldeTraceMerkleRoots, transcript) ←
      interpolateAndCommit hasher mainTrace domain transcript
    let _ ← tracePolys.head?
    let (rapChallenges, events) := air.buildRapChallenges transcript
    let transcript := transcript.extend events
    let auxTrace := air.buildAuxiliaryTrace mainTrace rapChallenges publicInput
    let (tracePolys, evaluations, ldeTraceMerkleTrees, ldeTraceMerkleRoots, transcript) ←
      if !auxTrace.isEmpty then do
        let (auxTracePolys, auxEvaluations, auxMerkleTrees, auxMerkleRoots, transcript) ←
          interpolateAndCommit hasher auxTrace domain transcript
        pure (tracePolys ++ auxTracePolys, evaluations ++ auxEvaluations,
          ldeTraceMerkleTrees ++ auxMerkleTrees, ldeTraceMerkleRoots ++ auxMerkleRoots, transcript)
      else pure (tracePolys, evaluations, ldeTraceMerkleTrees, ldeTraceMerkleRoots, transcript)
    let ldeTrace := TraceTable.newFromCols evaluations
    pure (⟨tracePolys, ldeTrace, ldeTraceMerkleTrees, ldeTraceMerkleRoots, rapChallenges⟩,
      publicInput, transcript)

/-- `round_2_compute_composition_polynomial(air, domain, round_1_result, public_input,
transition_coeffs, boundary_coeffs)`: the composition polynomial split into `H₁` and `H₂`, each
evaluated on the extended domain and committed. -/
def round2ComputeCompositionPolynomial
    (collaborators : Collaborators F PublicInput RAPChallenges) (domain : Domain F)
    (round1Result : Round1 F RAPChallenges) (publicInput : PublicInput)
    (transitionCoeffs boundaryCoeffs : List (F × F)) : Option (Round2 F) := do
  let compositionPoly ← collaborators.compositionPoly domain round1Result.tracePolys
    round1Result.ldeTrace publicInput round1Result.rapChallenges transitionCoeffs boundaryCoeffs
  let (compositionPolyEven, compositionPolyOdd) := compositionPoly.evenOddDecomposition
  let ldeCompositionPolyEvenEvaluations ← ldeEvaluations domain compositionPolyEven
  let ldeCompositionPolyOddEvaluations ← ldeEvaluations domain compositionPolyOdd
  let (compositionPolyMerkleTrees, compositionPolyRoots) := batchCommit collaborators.hasher
    [ldeCompositionPolyEvenEvaluations, ldeCompositionPolyOddEvaluations]
  let compositionPolyEvenMerkleTree ← compositionPolyMerkleTrees[0]?
  let compositionPolyEvenRoot ← compositionPolyRoots[0]?
  let compositionPolyOddMerkleTree ← compositionPolyMerkleTrees[1]?
  let compositionPolyOddRoot ← compositionPolyRoots[1]?
  pure ⟨compositionPolyEven, ldeCompositionPolyEvenEvaluations, compositionPolyEvenMerkleTree,
    compositionPolyEvenRoot, compositionPolyOdd, ldeCompositionPolyOddEvaluations,
    compositionPolyOddMerkleTree, compositionPolyOddRoot⟩

/-- `round_3_evaluate_polynomials_in_out_of_domain_element(air, domain, public_input,
round_1_result, round_2_result, z, rap_challenges, boundary_coeffs, transition_coeffs, evil)`:
the out-of-domain frame, and `H₁(z²)` and `H₂(z²)`, forged on the adversarial path as the exact
value recomputed from the frame and zero. -/
def round3EvaluatePolynomialsInOutOfDomainElement
    (collaborators : Collaborators F PublicInput RAPChallenges)
    (air : Air F RawTrace PublicInput RAPChallenges) (domain : Domain F) (publicInput : PublicInput)
    (round1Result : Round1 F RAPChallenges) (round2Result : Round2 F) (z : F)
    (rapChallenges : RAPChallenges) (boundaryCoeffs transitionCoeffs : List (F × F)) (evil : Bool) :
    Option (Round3 F) := do
  let oodTraceEvaluations := Frame.getTraceEvaluations round1Result.tracePolys z
    air.context.transitionOffsets domain.tracePrimitiveRoot
  let traceOodFrameEvaluations :=
    Frame.new oodTraceEvaluations.flatten round1Result.tracePolys.length
  let zSquared := z * z
  let (compositionPolyEvenOodEvaluation, compositionPolyOddOodEvaluation) ←
    if evil then do
      let hZExactFromTrace ← collaborators.compositionPolyOodEvaluationExactFromTrace
        traceOodFrameEvaluations domain publicInput z rapChallenges boundaryCoeffs transitionCoeffs
      pure (hZExactFromTrace, 0)
    else
      pure (round2Result.compositionPolyEven.evaluate zSquared,
        round2Result.compositionPolyOdd.evaluate zSquared)
  pure ⟨traceOodFrameEvaluations, compositionPolyEvenOodEvaluation,
    compositionPolyOddOodEvaluation⟩

/-- `open_deep_composition_poly(domain, round_1_result, round_2_result, index_to_open)`: the
proofs and values of `H₁`, `H₂` and every trace column at the index taken modulo the extended
domain's size. Each proof and each read panics out of range. -/
def openDeepCompositionPoly (domain : Domain F) (round1Result : Round1 F RAPChallenges)
    (round2Result : Round2 F) (indexToOpen : Nat) : Option (DeepPolynomialOpenings F) := do
  let index := indexToOpen % domain.ldeRootsOfUnityCoset.length
  let ldeCompositionPolyEvenProof ← round2Result.compositionPolyEvenMerkleTree.getProofByPos index
  let ldeCompositionPolyEvenEvaluation ← round2Result.ldeCompositionPolyEvenEvaluations[index]?
  let ldeCompositionPolyOddProof ← round2Result.compositionPolyOddMerkleTree.getProofByPos index
  let ldeCompositionPolyOddEvaluation ← round2Result.ldeCompositionPolyOddEvaluations[index]?
  let ldeTraceMerkleProofs ← round1Result.ldeTraceMerkleTrees.mapM (·.getProofByPos index)
  let ldeTraceEvaluations ← round1Result.ldeTrace.getRow index
  pure ⟨ldeCompositionPolyEvenProof, ldeCompositionPolyEvenEvaluation, ldeCompositionPolyOddProof,
    ldeCompositionPolyOddEvaluation, ldeTraceMerkleProofs, ldeTraceEvaluations⟩

/-- `round_4_compute_and_run_fri_on_the_deep_composition_polynomial(air, domain, round_1_result,
round_2_result, round_3_result, z, transcript, evil, bad_trace)`: the DEEP coefficients, the DEEP
polynomial, FRI on it, and the openings at the first query. -/
def round4ComputeAndRunFriOnTheDeepCompositionPolynomial
    (collaborators : Collaborators F PublicInput RAPChallenges)
    (air : Air F RawTrace PublicInput RAPChallenges) (domain : Domain F)
    (round1Result : Round1 F RAPChallenges) (round2Result : Round2 F) (round3Result : Round3 F)
    (z : F) (transcript : Transcript F) (evil badTrace : Bool) :
    Option (Round4 F × Transcript F) := do
  let (gamma, transcript) := transcriptToField transcript
  let (gammaP, transcript) := transcriptToField transcript
  let (traceTermsGammas, transcript) := batchSampleChallenges
    (air.context.transitionOffsets.length * air.context.traceColumns) transcript
  let deepCompositionPoly ← computeDeepCompositionPoly air.context domain round1Result.tracePolys
    round2Result round3Result z domain.tracePrimitiveRoot (gamma, gammaP) traceTermsGammas evil
    badTrace
  let (friLastValue, friLayers, events) ← collaborators.friCommitPhase domain.rootOrder
    deepCompositionPoly domain.ldeRootsOfUnityCoset transcript
  let transcript := transcript.extend events
  let (queryList, iota0, events) ← collaborators.friQueryPhase air.context domain friLayers transcript
  let transcript := transcript.extend events
  let friLayersMerkleRoots := friLayers.map (·.merkleTree.root)
  let deepPolyOpenings ← openDeepCompositionPoly domain round1Result round2Result iota0
  pure (⟨friLastValue, friLayersMerkleRoots, deepPolyOpenings, queryList⟩, transcript)

/-- The loop of `prove` that appends the out-of-domain frame to the transcript, row by row. -/
def appendTraceOodFrame (frame : Frame F) (transcript : Transcript F) : Option (Transcript F) := do
  let numRows ← frame.numRows
  (List.range numRows).foldlM (fun transcript i => do
    let row ← frame.getRow i
    pure (row.foldl (fun transcript element => transcript.append (toBytesBe element)) transcript))
    transcript

/--
`prove(trace, air, public_input, evil, bad_trace)`.

The domain is built from the AIR's context (a panic if it cannot be), the transcript starts
empty, and the four rounds run in order. The transcript's final state is returned beside the proof
and the public input; the function itself drops it. `fuel` bounds the draws of `sample_z_ood`.
-/
def prove (collaborators : Collaborators F PublicInput RAPChallenges) (fuel : Nat)
    (trace : RawTrace) (air : Air F RawTrace PublicInput RAPChallenges) (publicInput : PublicInput)
    (evil badTrace : Bool) :
    Option (Except ProvingError (StarkProof F × PublicInput × Transcript F)) :=
  match Domain.new air.context with
  | none => none
  | some domain =>
    let transcript := Transcript.new collaborators.challenge
    match round1RandomizedAirWithPreprocessing air collaborators.hasher trace domain publicInput
      transcript with
    | none => none
    | some (.error e) => some (.error e)
    | some (.ok (round1Result, publicInput, transcript)) => Except.ok <$> do
      let (boundaryCoeffsAlphas, transcript) :=
        batchSampleChallenges round1Result.tracePolys.length transcript
      let (boundaryCoeffsBetas, transcript) :=
        batchSampleChallenges round1Result.tracePolys.length transcript
      let (transitionCoeffsAlphas, transcript) :=
        batchSampleChallenges air.context.numTransitionConstraints transcript
      let (transitionCoeffsBetas, transcript) :=
        batchSampleChallenges air.context.numTransitionConstraints transcript
      let boundaryCoeffs := boundaryCoeffsAlphas.zip boundaryCoeffsBetas
      let transitionCoeffs := transitionCoeffsAlphas.zip transitionCoeffsBetas
      let round2Result ← round2ComputeCompositionPolynomial collaborators domain round1Result
        publicInput transitionCoeffs boundaryCoeffs
      let transcript := transcript.append (toBytesBe round2Result.compositionPolyEvenRoot)
      let transcript := transcript.append (toBytesBe round2Result.compositionPolyOddRoot)
      let (z, transcript) ← sampleZOod domain.ldeRootsOfUnityCoset domain.traceRootsOfUnity fuel
        transcript
      let round3Result ← round3EvaluatePolynomialsInOutOfDomainElement collaborators air domain
        publicInput round1Result round2Result z round1Result.rapChallenges boundaryCoeffs
        transitionCoeffs evil
      let transcript := transcript.append (toBytesBe round3Result.compositionPolyEvenOodEvaluation)
      let transcript := transcript.append (toBytesBe round3Result.compositionPolyOddOodEvaluation)
      let transcript ← appendTraceOodFrame round3Result.traceOodFrameEvaluations transcript
      let (round4Result, transcript) ← round4ComputeAndRunFriOnTheDeepCompositionPolynomial
        collaborators air domain round1Result round2Result round3Result z transcript evil badTrace
      pure (⟨round1Result.ldeTraceMerkleRoots, round3Result.traceOodFrameEvaluations,
        round2Result.compositionPolyEvenRoot, round3Result.compositionPolyEvenOodEvaluation,
        round2Result.compositionPolyOddRoot, round3Result.compositionPolyOddOodEvaluation,
        round4Result.friLayersMerkleRoots, round4Result.friLastValue, round4Result.queryList,
        round4Result.deepPolyOpenings⟩, publicInput, transcript)

end Rounds

end StarkProver
