import StarkProver.Proofs.Prove

/-! What a verifier replaying a returned proof finds: the challenges it draws again from the log,
the out-of-domain check, the DEEP check at the opened points, and the trace the roots commit to. -/

namespace StarkProver

section View

variable {F : Type} [Field F] [DecidableEq F] [ByteConversion F]

/-- The log a verifier rebuilds up to the DEEP coefficients: the history `zLog` at which `z` was
drawn, the draw of `z`, then `H₁(z²)`, `H₂(z²)` and the frame, entry by entry. -/
def oodLog (zLog : List TranscriptEvent) (proof : StarkProof F) : List TranscriptEvent :=
  zLog ++ [.challenge] ++ appendEvents ([proof.compositionPolyEvenOodEvaluation,
    proof.compositionPolyOddOodEvaluation] ++ proof.traceOodFrameEvaluations.data)

omit [Field F] [DecidableEq F] [ByteConversion F] in
/-- The DEEP coefficients drawn from a transcript: `γ`, `γ'`, then `count` trace coefficients. -/
def deepCoefficients (transcript : Transcript F) (count : Nat) : F × F × List F :=
  (transcript.oracle transcript.log, transcript.oracle (transcript.log ++ [.challenge]),
    (batchSampleChallenges count (transcript.extend [.challenge, .challenge])).1)

omit [DecidableEq F] [ByteConversion F] in
/-- The DEEP composition value a verifier computes at `x` from the proof alone: the opened values
of `H₁`, `H₂` and each trace column at `x`, against the claimed `H₁(z²)`, `H₂(z²)` and the
out-of-domain frame. -/
def deepValueFromOpenings (coefficients : F × F × List F) (openings : DeepPolynomialOpenings F)
    (proof : StarkProof F) (z primitiveRoot : F) (offsets : List Nat) (x : F) : F :=
  coefficients.1 * (openings.ldeCompositionPolyEvenEvaluation -
      proof.compositionPolyEvenOodEvaluation) / (x - z * z) +
    coefficients.2.1 * (openings.ldeCompositionPolyOddEvaluation -
      proof.compositionPolyOddOodEvaluation) / (x - z * z) +
    (openings.ldeTraceEvaluations.enum.map fun (j, value) => (offsets.enum.map fun (k, offset) =>
      coefficients.2.2.getD (j * offsets.length + k) 0 *
        (value - ((proof.traceOodFrameEvaluations.getRow k).getD []).getD j 0) /
          (x - z * primitiveRoot ^ offset)).sum).sum

omit [ByteConversion F] in
/-- Opened values that are the polynomials' values at `x` give the DEEP function of those
polynomials, with the frame's entries as the claimed trace values. -/
theorem deepValueFromOpenings_eq {gamma gammaP z primitiveRoot x : F} {gammas : List F}
    {openings : DeepPolynomialOpenings F} {proof : StarkProof F} {offsets : List Nat}
    {h1 h2 : Polynomial F} {tracePolys : List (Polynomial F)}
    (even : openings.ldeCompositionPolyEvenEvaluation = h1.evaluate x)
    (odd : openings.ldeCompositionPolyOddEvaluation = h2.evaluate x)
    (traces : openings.ldeTraceEvaluations = tracePolys.map fun p => p.evaluate x) :
    deepValueFromOpenings (gamma, gammaP, gammas) openings proof z primitiveRoot offsets x =
      deepCompositionValue gamma gammaP gammas h1 h2 proof.compositionPolyEvenOodEvaluation
        proof.compositionPolyOddOodEvaluation tracePolys
        (fun k j => ((proof.traceOodFrameEvaluations.getRow k).getD []).getD j 0)
        z primitiveRoot offsets x := by
  rw [deepValueFromOpenings, deepCompositionValue, deepTraceValue, even, odd, traces,
    List.enum_map, List.map_map]
  rfl

end View

section Trace

variable {F : Type} [Field F] [DecidableEq F] [IsFFTField F]

omit [DecidableEq F] in
/-- The trace's root is the primitive root of the trace length's order. -/
theorem Domain.tracePrimitiveRoot_eq (domain : Domain F) :
    domain.tracePrimitiveRoot = primitiveRoot domain.rootOrder := by
  rw [Domain.tracePrimitiveRoot, Domain.ldePrimitiveRoot, Domain.blowupFactor, Domain.ldeRootOrder,
    primitiveRoot_pow_two_pow (Nat.le_add_left _ _) domain.fits, Nat.add_sub_cancel]

omit [DecidableEq F] in
/-- The powers of the trace's root below the trace length are distinct. -/
theorem Domain.traceRootsOfUnity_nodup (domain : Domain F) : domain.traceRootsOfUnity.Nodup := by
  -- Powers of a primitive root below its order are distinct.
  have primitive : IsPrimitiveRoot domain.tracePrimitiveRoot domain.interpolationDomainSize := by
    rw [domain.tracePrimitiveRoot_eq]
    exact primitiveRoot_isPrimitiveRoot (by have := domain.fits; omega)
  refine (List.nodup_range _).map_on fun a below b below' same => ?_
  rw [List.mem_range] at below below'
  exact primitive.pow_inj below below' same

/-- A column of the trace length interpolates to the polynomial through its values at the powers of
the trace's root. -/
theorem evaluate_interpolateFft_tracePrimitiveRoot {domain : Domain F} {col : List F}
    {p : Polynomial F} (sized : col.length = domain.interpolationDomainSize)
    (interpolated : interpolateFft col = .ok p) (i : Nat) (within : i < col.length) :
    p.evaluate (domain.tracePrimitiveRoot ^ i) = col[i] := by
  rw [domain.tracePrimitiveRoot_eq, ← evaluate_interpolateFft interpolated i within, sized,
    Domain.interpolationDomainSize, trailingZeros_two_pow]

/-- Two polynomials of at most trace-length coefficients that agree at the powers of the trace's
root are equal. -/
theorem eq_of_agree_tracePrimitiveRoot {domain : Domain F} {p q : Polynomial F}
    (shortP : p.coefficients.length ≤ domain.interpolationDomainSize)
    (shortQ : q.coefficients.length ≤ domain.interpolationDomainSize)
    (agree : ∀ i < domain.interpolationDomainSize,
      p.evaluate (domain.tracePrimitiveRoot ^ i) = q.evaluate (domain.tracePrimitiveRoot ^ i)) :
    p = q := by
  -- The powers of the trace root below the trace length are enough distinct nodes.
  refine Polynomial.eq_of_agree (by simpa [Domain.traceRootsOfUnity] using shortP)
    (by simpa [Domain.traceRootsOfUnity] using shortQ) domain.traceRootsOfUnity_nodup ?_
  simp only [Domain.traceRootsOfUnity, List.mem_map, List.mem_range]
  rintro x ⟨i, within, rfl⟩
  exact agree i within

omit [DecidableEq F] in
/-- A query index names a point of the extended domain: the index modulo the domain's size. -/
theorem getD_mod_mem_ldeRootsOfUnityCoset (domain : Domain F) (index : Nat) :
    domain.ldeRootsOfUnityCoset.getD (index % domain.ldeRootsOfUnityCoset.length) 0 ∈
      domain.ldeRootsOfUnityCoset := by
  have within : index % domain.ldeRootsOfUnityCoset.length < domain.ldeRootsOfUnityCoset.length :=
    Nat.mod_lt _ (by simp only [Domain.length_ldeRootsOfUnityCoset]; positivity)
  rw [List.getD_eq_getElem _ _ within]
  exact List.getElem_mem within

omit [DecidableEq F] in
/-- A query index below the trace length, modulo the domain, names one of the first `N` points. -/
theorem getD_mod_mem_take_ldeRootsOfUnityCoset (domain : Domain F) {index : Nat}
    (early : index % domain.ldeRootsOfUnityCoset.length < domain.interpolationDomainSize) :
    domain.ldeRootsOfUnityCoset.getD (index % domain.ldeRootsOfUnityCoset.length) 0 ∈
      domain.ldeRootsOfUnityCoset.take domain.interpolationDomainSize := by
  -- The index modulo the domain is below `N`, so it names a point among the first `N`.
  have within : index % domain.ldeRootsOfUnityCoset.length < domain.ldeRootsOfUnityCoset.length :=
    Nat.mod_lt _ (by simp only [Domain.length_ldeRootsOfUnityCoset]; positivity)
  have inTake : index % domain.ldeRootsOfUnityCoset.length <
      (domain.ldeRootsOfUnityCoset.take domain.interpolationDomainSize).length := by
    simp only [List.length_take]; omega
  rw [List.getD_eq_getElem _ _ within]
  exact List.mem_iff_getElem.mpr ⟨_, inTake, by simp⟩

end Trace

section Run

variable {F RawTrace PublicInput RAPChallenges : Type} [Field F] [DecidableEq F] [IsFFTField F]
  [ByteConversion F]
variable {collaborators : Collaborators F PublicInput RAPChallenges}
  {air : Air F RawTrace PublicInput RAPChallenges} {evil : Bool}

/-- Round 1 commits one root per trace polynomial. -/
theorem length_ldeTraceMerkleRoots_round1 {hasher : MerkleBackend F} {rawTrace : RawTrace}
    {domain : Domain F} {publicInput publicInput' : PublicInput} {transcript after : Transcript F}
    {round1Result : Round1 F RAPChallenges}
    (built : round1RandomizedAirWithPreprocessing air hasher rawTrace domain publicInput
      transcript = some (.ok (round1Result, publicInput', after))) :
    round1Result.ldeTraceMerkleRoots.length = round1Result.tracePolys.length := by
  obtain ⟨_, _, _, -, -, -, -, ldeTrace, -, roots, -⟩ := round1_spec built
  rw [roots, List.length_map, ldeTrace, length_ldeColumns]

/--
A run of `prove` that returns, as a verifier replays it: round 1 on the empty transcript, the
coefficients drawn after it and round 2 with them, then `z`, drawn at the history `zLog` of
round 1's log, the coefficient draws, the roots of `H₁` and `H₂` and `k` rejected draws; round 3
at `z`, and round 4 on the log through the frame.
-/
theorem prove_run {fuel : Nat} {trace : RawTrace} {publicInput publicInput' : PublicInput}
    {badTrace : Bool} {proof : StarkProof F} {after : Transcript F}
    (proved : prove collaborators fuel trace air publicInput evil badTrace =
      some (.ok (proof, publicInput', after))) :
    ∃ domain round1Result transcript1 round2Result k zLog round3Result round4Result,
      Domain.new air.context = some domain ∧
      round1RandomizedAirWithPreprocessing air collaborators.hasher trace domain publicInput
        (Transcript.new collaborators.challenge) =
          some (.ok (round1Result, publicInput', transcript1)) ∧
      transcript1.oracle = collaborators.challenge ∧
      round2ComputeCompositionPolynomial collaborators domain round1Result publicInput'
        (compositionCoeffs round1Result.tracePolys.length air.context.numTransitionConstraints
          transcript1).2
        (compositionCoeffs round1Result.tracePolys.length air.context.numTransitionConstraints
          transcript1).1 = some round2Result ∧
      zLog = transcript1.log ++ List.replicate (2 * round1Result.tracePolys.length +
        2 * air.context.numTransitionConstraints) .challenge ++
          appendEvents [round2Result.compositionPolyEvenRoot,
            round2Result.compositionPolyOddRoot] ++ List.replicate k .challenge ∧
      sampleZOod domain.ldeRootsOfUnityCoset domain.traceRootsOfUnity fuel
        (transcript1.extend (List.replicate (2 * round1Result.tracePolys.length +
          2 * air.context.numTransitionConstraints) .challenge ++
            appendEvents [round2Result.compositionPolyEvenRoot,
              round2Result.compositionPolyOddRoot])) =
        some (collaborators.challenge zLog, ⟨zLog ++ [.challenge], collaborators.challenge⟩) ∧
      collaborators.challenge zLog ∉ domain.ldeRootsOfUnityCoset ∧
      collaborators.challenge zLog ∉ domain.traceRootsOfUnity ∧
      round3EvaluatePolynomialsInOutOfDomainElement collaborators air domain publicInput'
        round1Result round2Result (collaborators.challenge zLog) round1Result.rapChallenges
        (compositionCoeffs round1Result.tracePolys.length air.context.numTransitionConstraints
          transcript1).1
        (compositionCoeffs round1Result.tracePolys.length air.context.numTransitionConstraints
          transcript1).2 evil = some round3Result ∧
      round4ComputeAndRunFriOnTheDeepCompositionPolynomial collaborators air domain round1Result
        round2Result round3Result (collaborators.challenge zLog)
        ⟨oodLog zLog proof, collaborators.challenge⟩ evil badTrace =
          some (round4Result, after) ∧
      proof = ⟨round1Result.ldeTraceMerkleRoots, round3Result.traceOodFrameEvaluations,
        round2Result.compositionPolyEvenRoot, round3Result.compositionPolyEvenOodEvaluation,
        round2Result.compositionPolyOddRoot, round3Result.compositionPolyOddOodEvaluation,
        round4Result.friLayersMerkleRoots, round4Result.friLastValue, round4Result.queryList,
        round4Result.deepPolyOpenings⟩ := by
  -- Round 1 fixes the oracle, the sampler the history of `z`, round 3 the frame's shape.
  obtain ⟨domain, round1Result, transcript1, round2Result, z, transcript3, round3Result,
    transcript4, round4Result, built, round1Ok, round2Ok, zOk, round3Ok, frameOk, round4Ok, rfl⟩ :=
    prove_spec proved
  obtain ⟨_, mainPolys, auxPolys, -, -, nonempty, polys, -, -, -, -, transcript1Eq, -⟩ :=
    round1_spec round1Ok
  obtain ⟨k, rfl, outsideLde, outsideTrace, rfl⟩ := sampleZOod_spec zOk
  obtain ⟨frame, -⟩ := round3_spec round3Ok
  have oracle : transcript1.oracle = collaborators.challenge := by rw [transcript1Eq]; rfl
  have positive : 0 < round1Result.tracePolys.length := by
    rw [polys, List.length_append]
    exact Nat.lt_of_lt_of_le (List.length_pos.mpr nonempty) (Nat.le_add_right _ _)
  rw [frame, appendTraceOodFrame_new positive (by simp [Frame.getTraceEvaluations])] at frameOk
  cases frameOk
  refine ⟨domain, round1Result, transcript1, round2Result, k, _, round3Result, round4Result,
    built, round1Ok, oracle, round2Ok, rfl, ?_, ?_, ?_, ?_, ?_, rfl⟩
  all_goals simp only [Transcript.oracle_extend, Transcript.log_extend, oracle, List.append_assoc]
    at zOk outsideLde outsideTrace round3Ok round4Ok ⊢
  · convert zOk using 3
    apply Transcript.ext_log <;> simp [oracle, List.replicate_succ']
  · exact outsideLde
  · exact outsideTrace
  · exact round3Ok
  · convert round4Ok using 2
    apply Transcript.ext_log
    · simp [oodLog, frame, appendEvents, List.replicate_succ', oracle]
    · simp [oracle]

end Run

/-- The proof the adversarial single-column run gives: the same roots and frame as the honest one,
`H₁(z²)` forged as the exact value `5` and `H₂(z²)` as `0`. -/
def singleColumnForgedProof : StarkProof GF17 where
  ldeTraceMerkleRoots := [6]
  traceOodFrameEvaluations := ⟨[15, 5], 1⟩
  compositionPolyEvenRoot := 4
  compositionPolyEvenOodEvaluation := 5
  compositionPolyOddRoot := 8
  compositionPolyOddOodEvaluation := 0
  friLayersMerkleRoots := [8]
  friLastValue := 8
  queryList := []
  deepPolyOpenings := ⟨⟨[16, 9, 3]⟩, 16, ⟨[2, 2, 2]⟩, 2, [⟨[16, 3, 4]⟩], [16]⟩

/-- The transcript of that run: it differs from the honest one in `H₁(z²)` and `H₂(z²)`. -/
def singleColumnForgedTranscript : Transcript GF17 :=
  ⟨[.append [6], .challenge, .challenge, .challenge, .challenge, .append [4], .append [8],
    .challenge, .append [5], .append [0], .append [15], .append [5], .challenge, .challenge,
    .challenge, .challenge, .append [0], .challenge], singleColumnCollaborators.challenge⟩

/-- The honest single-column run returns `singleColumnProof` and its transcript. -/
theorem prove_singleColumn_honest :
    prove singleColumnCollaborators 3 [1, 2] singleColumnAir () false false =
      some (.ok (singleColumnProof, (), singleColumnTranscript)) := rfl

/-- The adversarial single-column run returns the forged proof and its transcript. -/
theorem prove_singleColumn_forged :
    prove singleColumnCollaborators 3 [1, 2] singleColumnAir () true false =
      some (.ok (singleColumnForgedProof, (), singleColumnForgedTranscript)) := rfl

section Checks

variable {F RawTrace PublicInput RAPChallenges : Type} [Field F] [DecidableEq F] [IsFFTField F]
  [ByteConversion F]
variable {collaborators : Collaborators F PublicInput RAPChallenges}
  {air : Air F RawTrace PublicInput RAPChallenges}

/--
The honest proof passes the DEEP check at every query. A verifier replaying the log finds `z`, the
draw at a history `zLog`, and `γ`, `γ'` and the trace coefficients, the draws right after the
frame. The polynomial FRI committed on the log `friLog` through those draws, giving the proof's
last value and layer roots, takes at the point of every query index the DEEP value the verifier
computes from the openings at that index and the proof's out-of-domain values; the proof holds
the openings at FRI's first query.
-/
theorem prove_deepCheck_honest {fuel : Nat} {trace : RawTrace}
    {publicInput publicInput' : PublicInput} {badTrace : Bool} {proof : StarkProof F}
    {after : Transcript F}
    (proved : prove collaborators fuel trace air publicInput false badTrace =
      some (.ok (proof, publicInput', after))) :
    ∃ (domain : Domain F) (round1Result : Round1 F RAPChallenges) (round2Result : Round2 F)
      (zLog friLog : List TranscriptEvent) (deep : Polynomial F) (friLayers : List (FriLayer F))
      (commitEvents queryEvents : List TranscriptEvent) (iota0 : Nat),
      Domain.new air.context = some domain ∧
      friLog = oodLog zLog proof ++ List.replicate
        (2 + air.context.transitionOffsets.length * air.context.traceColumns) .challenge ∧
      after.log = friLog ++ commitEvents ++ queryEvents ∧
      collaborators.friCommitPhase domain.rootOrder deep domain.ldeRootsOfUnityCoset
        ⟨friLog, collaborators.challenge⟩ = some (proof.friLastValue, friLayers, commitEvents) ∧
      proof.friLayersMerkleRoots = friLayers.map (·.merkleTree.root) ∧
      collaborators.friQueryPhase air.context domain friLayers
        ⟨friLog ++ commitEvents, collaborators.challenge⟩ =
          some (proof.queryList, iota0, queryEvents) ∧
      openDeepCompositionPoly domain round1Result round2Result iota0 = some proof.deepPolyOpenings ∧
      ∀ index openings,
        openDeepCompositionPoly domain round1Result round2Result index = some openings →
        deep.evaluate (domain.ldeRootsOfUnityCoset.getD
          (index % domain.ldeRootsOfUnityCoset.length) 0) =
          deepValueFromOpenings (deepCoefficients ⟨oodLog zLog proof, collaborators.challenge⟩
            (air.context.transitionOffsets.length * air.context.traceColumns)) openings proof
            (collaborators.challenge zLog) domain.tracePrimitiveRoot air.context.transitionOffsets
            (domain.ldeRootsOfUnityCoset.getD (index % domain.ldeRootsOfUnityCoset.length) 0) := by
  -- Round 4 built the DEEP polynomial with the draws after the frame and opened rounds 1 and 2.
  obtain ⟨domain, round1Result, _, round2Result, _, zLog, round3Result, round4Result, built,
    round1Ok, -, round2Ok, -, -, -, -, round3Ok, round4Ok, rfl⟩ := prove_run proved
  obtain ⟨_, _, _, -, -, -, -, ldeTrace, trees, -, -⟩ := round1_spec round1Ok
  obtain ⟨_, -, -, -, evenEvals, oddEvals, evenTree, -, oddTree, -⟩ := round2_spec round2Ok
  obtain ⟨deep, friLayers, iota0, commitEvents, queryEvents, deepOk, commitOk, queryOk, roots,
    openOk, rfl⟩ := round4_spec round4Ok
  refine ⟨domain, round1Result, round2Result, zLog, _, deep, friLayers, commitEvents, queryEvents,
    iota0, built, rfl, by simp [List.append_assoc], commitOk, roots,
    by rw [List.append_assoc]; exact queryOk, openOk, fun index openings opened => ?_⟩
  -- The openings are the committed values at the index's point, where the DEEP polynomial is
  -- the DEEP function.
  rw [openDeepCompositionPoly_spec ldeTrace trees evenEvals oddEvals evenTree oddTree] at opened
  cases opened
  rw [evaluate_computeDeepCompositionPoly_honest round3Ok deepOk
    (getD_mod_mem_ldeRootsOfUnityCoset domain index), deepCoefficients,
    deepValueFromOpenings_eq rfl rfl rfl]

/-- The honest single-column run passes the DEEP check at every query. -/
theorem prove_deepCheck_honest_singleColumn :
    prove singleColumnCollaborators 3 [1, 2] singleColumnAir () false false =
      some (.ok (singleColumnProof, (), singleColumnTranscript)) ∧
    ∃ (domain : Domain GF17) (round1Result : Round1 GF17 Unit) (round2Result : Round2 GF17)
      (zLog friLog : List TranscriptEvent) (deep : Polynomial GF17)
      (friLayers : List (FriLayer GF17)) (commitEvents queryEvents : List TranscriptEvent)
      (iota0 : Nat),
      Domain.new singleColumnAir.context = some domain ∧
      friLog = oodLog zLog singleColumnProof ++ List.replicate
        (2 + singleColumnAir.context.transitionOffsets.length *
          singleColumnAir.context.traceColumns) .challenge ∧
      singleColumnTranscript.log = friLog ++ commitEvents ++ queryEvents ∧
      singleColumnCollaborators.friCommitPhase domain.rootOrder deep domain.ldeRootsOfUnityCoset
        ⟨friLog, singleColumnCollaborators.challenge⟩ =
          some (singleColumnProof.friLastValue, friLayers, commitEvents) ∧
      singleColumnProof.friLayersMerkleRoots = friLayers.map (·.merkleTree.root) ∧
      singleColumnCollaborators.friQueryPhase singleColumnAir.context domain friLayers
        ⟨friLog ++ commitEvents, singleColumnCollaborators.challenge⟩ =
          some (singleColumnProof.queryList, iota0, queryEvents) ∧
      openDeepCompositionPoly domain round1Result round2Result iota0 =
        some singleColumnProof.deepPolyOpenings ∧
      ∀ index openings,
        openDeepCompositionPoly domain round1Result round2Result index = some openings →
        deep.evaluate (domain.ldeRootsOfUnityCoset.getD
          (index % domain.ldeRootsOfUnityCoset.length) 0) =
          deepValueFromOpenings (deepCoefficients
              ⟨oodLog zLog singleColumnProof, singleColumnCollaborators.challenge⟩
              (singleColumnAir.context.transitionOffsets.length *
                singleColumnAir.context.traceColumns))
            openings singleColumnProof (singleColumnCollaborators.challenge zLog)
            domain.tracePrimitiveRoot singleColumnAir.context.transitionOffsets
            (domain.ldeRootsOfUnityCoset.getD (index % domain.ldeRootsOfUnityCoset.length) 0) :=
  ⟨prove_singleColumn_honest, (prove_deepCheck_honest prove_singleColumn_honest :)⟩

/--
The out-of-domain check. A verifier replaying the log draws the boundary and transition
coefficients after round 1's operations, and `z` after the coefficient draws, the roots of `H₁`
and `H₂` and `k` rejected draws, off both domains; the frame holds every trace polynomial at
`z gᵏ`. The verifier's equation `exact(frame) = H₁(z²) + z · H₂(z²)` then holds on the adversarial
path for every input, and on the honest path exactly when the AIR's value from the frame is the
composition polynomial `H` of round 2 at `z`.
-/
theorem prove_oodCheck {fuel : Nat} {trace : RawTrace} {publicInput publicInput' : PublicInput}
    {evil badTrace : Bool} {proof : StarkProof F} {after : Transcript F}
    (proved : prove collaborators fuel trace air publicInput evil badTrace =
      some (.ok (proof, publicInput', after))) :
    ∃ (domain : Domain F) (round1Result : Round1 F RAPChallenges) (log1 : List TranscriptEvent)
      (boundaryCoeffs transitionCoeffs : List (F × F)) (compositionPoly : Polynomial F) (k : Nat)
      (zLog rest : List TranscriptEvent),
      Domain.new air.context = some domain ∧
      round1RandomizedAirWithPreprocessing air collaborators.hasher trace domain publicInput
        (Transcript.new collaborators.challenge) =
          some (.ok (round1Result, publicInput', ⟨log1, collaborators.challenge⟩)) ∧
      compositionCoeffs proof.ldeTraceMerkleRoots.length air.context.numTransitionConstraints
        ⟨log1, collaborators.challenge⟩ = (boundaryCoeffs, transitionCoeffs) ∧
      zLog = log1 ++ List.replicate (2 * proof.ldeTraceMerkleRoots.length +
        2 * air.context.numTransitionConstraints) .challenge ++
          appendEvents [proof.compositionPolyEvenRoot, proof.compositionPolyOddRoot] ++
            List.replicate k .challenge ∧
      after.log = oodLog zLog proof ++ rest ∧
      collaborators.challenge zLog ∉ domain.ldeRootsOfUnityCoset ∧
      collaborators.challenge zLog ∉ domain.traceRootsOfUnity ∧
      collaborators.compositionPoly domain round1Result.tracePolys round1Result.ldeTrace
        publicInput' round1Result.rapChallenges transitionCoeffs boundaryCoeffs =
          some compositionPoly ∧
      proof.traceOodFrameEvaluations = Frame.new (Frame.getTraceEvaluations round1Result.tracePolys
        (collaborators.challenge zLog) air.context.transitionOffsets
          domain.tracePrimitiveRoot).flatten round1Result.tracePolys.length ∧
      (evil = true →
        collaborators.compositionPolyOodEvaluationExactFromTrace proof.traceOodFrameEvaluations
          domain publicInput' (collaborators.challenge zLog) round1Result.rapChallenges
          boundaryCoeffs transitionCoeffs = some (proof.compositionPolyEvenOodEvaluation +
            collaborators.challenge zLog * proof.compositionPolyOddOodEvaluation)) ∧
      (evil = false →
        (collaborators.compositionPolyOodEvaluationExactFromTrace proof.traceOodFrameEvaluations
          domain publicInput' (collaborators.challenge zLog) round1Result.rapChallenges
          boundaryCoeffs transitionCoeffs = some (proof.compositionPolyEvenOodEvaluation +
            collaborators.challenge zLog * proof.compositionPolyOddOodEvaluation) ↔
        collaborators.compositionPolyOodEvaluationExactFromTrace proof.traceOodFrameEvaluations
          domain publicInput' (collaborators.challenge zLog) round1Result.rapChallenges
          boundaryCoeffs transitionCoeffs =
            some (compositionPoly.evaluate (collaborators.challenge zLog)))) := by
  -- Round 3 forged `H₂(z²) = 0` or evaluated the halves, which recombine to `H(z)`.
  obtain ⟨domain, round1Result, ⟨log1, oracle1⟩, round2Result, k, zLog, round3Result,
    round4Result, built, round1Ok, rfl, round2Ok, rfl, -, outsideLde, outsideTrace, round3Ok,
    round4Ok, rfl⟩ := prove_run proved
  obtain ⟨compositionPoly, found, even, odd, -⟩ := round2_spec round2Ok
  obtain ⟨frame, honest, forged⟩ := round3_spec round3Ok
  obtain ⟨-, -, -, commitEvents, queryEvents, -, -, -, -, -, rfl⟩ := round4_spec round4Ok
  have count := length_ldeTraceMerkleRoots_round1 round1Ok
  dsimp only at count ⊢
  rw [count]
  refine ⟨domain, round1Result, log1, _, _, compositionPoly, k, _, List.replicate
    (2 + air.context.transitionOffsets.length * air.context.traceColumns) .challenge ++
      commitEvents ++ queryEvents, built, round1Ok, Prod.mk.eta.symm, rfl,
    by simp [List.append_assoc],
    outsideLde, outsideTrace, found, frame, fun isEvil => ?_, fun isHonest => ?_⟩
  · obtain ⟨exact, zero⟩ := forged isEvil
    rw [exact, zero, mul_zero, add_zero]
  · obtain ⟨evenValue, oddValue⟩ := honest isHonest
    rw [evenValue, oddValue, even, odd, ← Polynomial.evaluate_evenOddDecomposition]

/-- The honest single-column run draws `z` off both domains, and its proof passes the
out-of-domain check exactly when the AIR's value from the frame is `H(z)`. -/
theorem prove_oodCheck_singleColumn :
    prove singleColumnCollaborators 3 [1, 2] singleColumnAir () false false =
      some (.ok (singleColumnProof, (), singleColumnTranscript)) ∧
    ∃ (domain : Domain GF17) (round1Result : Round1 GF17 Unit) (log1 : List TranscriptEvent)
      (boundaryCoeffs transitionCoeffs : List (GF17 × GF17)) (compositionPoly : Polynomial GF17)
      (k : Nat) (zLog rest : List TranscriptEvent),
      Domain.new singleColumnAir.context = some domain ∧
      round1RandomizedAirWithPreprocessing singleColumnAir singleColumnCollaborators.hasher
        [1, 2] domain () (Transcript.new singleColumnCollaborators.challenge) =
          some (.ok (round1Result, (), ⟨log1, singleColumnCollaborators.challenge⟩)) ∧
      compositionCoeffs singleColumnProof.ldeTraceMerkleRoots.length
        singleColumnAir.context.numTransitionConstraints
        ⟨log1, singleColumnCollaborators.challenge⟩ = (boundaryCoeffs, transitionCoeffs) ∧
      zLog = log1 ++ List.replicate (2 * singleColumnProof.ldeTraceMerkleRoots.length +
        2 * singleColumnAir.context.numTransitionConstraints) .challenge ++
          appendEvents [singleColumnProof.compositionPolyEvenRoot,
            singleColumnProof.compositionPolyOddRoot] ++ List.replicate k .challenge ∧
      singleColumnTranscript.log = oodLog zLog singleColumnProof ++ rest ∧
      singleColumnCollaborators.challenge zLog ∉ domain.ldeRootsOfUnityCoset ∧
      singleColumnCollaborators.challenge zLog ∉ domain.traceRootsOfUnity ∧
      singleColumnCollaborators.compositionPoly domain round1Result.tracePolys
        round1Result.ldeTrace () round1Result.rapChallenges transitionCoeffs boundaryCoeffs =
          some compositionPoly ∧
      singleColumnProof.traceOodFrameEvaluations =
        Frame.new (Frame.getTraceEvaluations round1Result.tracePolys
          (singleColumnCollaborators.challenge zLog) singleColumnAir.context.transitionOffsets
            domain.tracePrimitiveRoot).flatten round1Result.tracePolys.length ∧
      (false = true →
        singleColumnCollaborators.compositionPolyOodEvaluationExactFromTrace
          singleColumnProof.traceOodFrameEvaluations domain ()
          (singleColumnCollaborators.challenge zLog) round1Result.rapChallenges boundaryCoeffs
          transitionCoeffs = some (singleColumnProof.compositionPolyEvenOodEvaluation +
            singleColumnCollaborators.challenge zLog *
              singleColumnProof.compositionPolyOddOodEvaluation)) ∧
      (false = false →
        (singleColumnCollaborators.compositionPolyOodEvaluationExactFromTrace
          singleColumnProof.traceOodFrameEvaluations domain ()
          (singleColumnCollaborators.challenge zLog) round1Result.rapChallenges boundaryCoeffs
          transitionCoeffs = some (singleColumnProof.compositionPolyEvenOodEvaluation +
            singleColumnCollaborators.challenge zLog *
              singleColumnProof.compositionPolyOddOodEvaluation) ↔
        singleColumnCollaborators.compositionPolyOodEvaluationExactFromTrace
          singleColumnProof.traceOodFrameEvaluations domain ()
          (singleColumnCollaborators.challenge zLog) round1Result.rapChallenges boundaryCoeffs
          transitionCoeffs =
            some (compositionPoly.evaluate (singleColumnCollaborators.challenge zLog)))) :=
  ⟨prove_singleColumn_honest, (prove_oodCheck prove_singleColumn_honest :)⟩

/--
The trace roots commit to the trace. When the AIR builds tables of `trace_length` rows from this
raw trace, the proof's first roots, one per main column, are the roots over the extended domain of
the unique polynomials of at most `trace_length` coefficients through each main column at the
powers of the trace's root; and the frame holds those polynomials at `z gᵏ`, `z` the draw at the
history `zLog` the log holds.
-/
theorem prove_traceCommitment {fuel : Nat} {trace : RawTrace}
    {publicInput publicInput' : PublicInput} {evil badTrace : Bool} {proof : StarkProof F}
    {after : Transcript F} (sized : air.BuildsTraceLengthFrom trace publicInput)
    (proved : prove collaborators fuel trace air publicInput evil badTrace =
      some (.ok (proof, publicInput', after))) :
    ∃ (domain : Domain F) (mainTrace : TraceTable F) (mainPolys : List (Polynomial F))
      (zLog rest : List TranscriptEvent),
      Domain.new air.context = some domain ∧
      air.buildMainTrace trace publicInput = .ok (mainTrace, publicInput') ∧
      after.log = oodLog zLog proof ++ rest ∧
      proof.ldeTraceMerkleRoots.take mainTrace.cols.length =
        mainPolys.map (fun p => collaborators.hasher.root
          (domain.ldeRootsOfUnityCoset.map p.evaluate)) ∧
      List.Forall₂ (fun col (p : Polynomial F) =>
        p.coefficients.length ≤ air.context.traceLength ∧
        (∀ i (within : i < col.length), p.evaluate (domain.tracePrimitiveRoot ^ i) = col[i]) ∧
        ∀ q : Polynomial F, q.coefficients.length ≤ air.context.traceLength →
          (∀ i (within : i < col.length), q.evaluate (domain.tracePrimitiveRoot ^ i) = col[i]) →
            q = p) mainTrace.cols mainPolys ∧
      ∀ j p, mainPolys[j]? = some p →
        ∀ k offset, air.context.transitionOffsets[k]? = some offset →
          ((proof.traceOodFrameEvaluations.getRow k).getD []).getD j 0 =
            p.evaluate (collaborators.challenge zLog * domain.tracePrimitiveRoot ^ offset) := by
  -- Each main polynomial interpolates its column on the trace domain, which has `N` points.
  obtain ⟨domain, round1Result, _, _, _, zLog, round3Result, round4Result, built, round1Ok, -,
    -, -, -, -, -, round3Ok, round4Ok, rfl⟩ := prove_run proved
  obtain ⟨mainTrace, mainPolys, auxPolys, builtMain, mainComputed, -, polys, ldeTrace, -, roots,
    -, -, -⟩ := round1_spec round1Ok
  obtain ⟨-, -, -, commitEvents, queryEvents, -, -, -, -, -, rfl⟩ := round4_spec round4Ok
  obtain ⟨frame, -⟩ := round3_spec round3Ok
  have size := (Domain.new_sizes built).1
  have related := TraceTable.computeTracePolys_spec mainComputed
  have columns : mainTrace.cols.length = mainPolys.length := related.length_eq
  refine ⟨domain, mainTrace, mainPolys, zLog, List.replicate
    (2 + air.context.transitionOffsets.length * air.context.traceColumns) .challenge ++
      commitEvents ++ queryEvents, built, builtMain, by simp [List.append_assoc], ?_, ?_, ?_⟩
  · -- The main roots come first, one per main column.
    have mainLength : ((ldeColumns domain mainPolys).map collaborators.hasher.root).length =
        mainTrace.cols.length := by simp [columns]
    dsimp only
    rw [roots, ldeTrace, polys, ldeColumns_append, List.map_append, List.take_left' mainLength]
    simp [ldeColumns]
  · -- A column of `N` values has exactly one interpolant with at most `N` coefficients.
    refine ((List.forall₂_and_left _ _).mpr ⟨(sized _ _ builtMain).1, related⟩).imp ?_
    rintro col p ⟨colSized, interpolated⟩
    have short : p.coefficients.length ≤ air.context.traceLength :=
      colSized ▸ length_interpolateFft_le interpolated
    have through := evaluate_interpolateFft_tracePrimitiveRoot (colSized.trans size.symm)
      interpolated
    refine ⟨short, through, fun q shortQ throughQ => eq_of_agree_tracePrimitiveRoot
      (size ▸ shortQ) (size ▸ short) fun i within => ?_⟩
    have within' : i < col.length := by omega
    rw [throughQ i within', through i within']
  · -- Round 3 evaluated every trace polynomial, main ones first, at each shifted `z`.
    intro j p found k offset offsetAt
    have column : (j, p) ∈ round1Result.tracePolys.enum := by
      rw [List.mk_mem_enum_iff_getElem?, polys, List.getElem?_append_left
        (List.getElem?_eq_some_iff.mp found).1, found]
    have row : (k, offset) ∈ air.context.transitionOffsets.enum :=
      List.mk_mem_enum_iff_getElem?.mpr offsetAt
    dsimp only
    rw [frame, getRow_getTraceEvaluations column row]

/-- In the honest single-column run the trace root commits to the line through the trace
`[1, 2]`, and the frame holds that line at `z` and `z g`. -/
theorem prove_traceCommitment_singleColumn :
    singleColumnAir.BuildsTraceLengthFrom [1, 2] () ∧
    prove singleColumnCollaborators 3 [1, 2] singleColumnAir () false false =
      some (.ok (singleColumnProof, (), singleColumnTranscript)) ∧
    ∃ (domain : Domain GF17) (mainTrace : TraceTable GF17) (mainPolys : List (Polynomial GF17))
      (zLog rest : List TranscriptEvent),
      Domain.new singleColumnAir.context = some domain ∧
      singleColumnAir.buildMainTrace [1, 2] () = .ok (mainTrace, ()) ∧
      singleColumnTranscript.log = oodLog zLog singleColumnProof ++ rest ∧
      singleColumnProof.ldeTraceMerkleRoots.take mainTrace.cols.length =
        mainPolys.map (fun p => singleColumnCollaborators.hasher.root
          (domain.ldeRootsOfUnityCoset.map p.evaluate)) ∧
      List.Forall₂ (fun col (p : Polynomial GF17) =>
        p.coefficients.length ≤ singleColumnAir.context.traceLength ∧
        (∀ i (within : i < col.length), p.evaluate (domain.tracePrimitiveRoot ^ i) = col[i]) ∧
        ∀ q : Polynomial GF17, q.coefficients.length ≤ singleColumnAir.context.traceLength →
          (∀ i (within : i < col.length), q.evaluate (domain.tracePrimitiveRoot ^ i) = col[i]) →
            q = p) mainTrace.cols mainPolys ∧
      ∀ j p, mainPolys[j]? = some p →
        ∀ k offset, singleColumnAir.context.transitionOffsets[k]? = some offset →
          ((singleColumnProof.traceOodFrameEvaluations.getRow k).getD []).getD j 0 =
            p.evaluate (singleColumnCollaborators.challenge zLog *
              domain.tracePrimitiveRoot ^ offset) :=
  ⟨fun _ _ built => by cases built; simp [singleColumnAir], prove_singleColumn_honest,
    (prove_traceCommitment (fun _ _ built => by cases built; simp [singleColumnAir])
      prove_singleColumn_honest :)⟩

/--
The adversarial proof passes the degree test and the DEEP check on the first `N` points. When the
AIR builds tables of `trace_length` rows from this raw trace, the polynomial FRI committed has
degree below `N`, the proof claims `H₂(z²) = 0`, and at the point of every query index among the
first `N` points of the extended domain it takes the DEEP value the verifier computes from the
openings at that index and the proof's out-of-domain values.
-/
theorem prove_deepCheck_forged {fuel : Nat} {trace : RawTrace}
    {publicInput publicInput' : PublicInput} {badTrace : Bool} {proof : StarkProof F}
    {after : Transcript F} (sized : air.BuildsTraceLengthFrom trace publicInput)
    (proved : prove collaborators fuel trace air publicInput true badTrace =
      some (.ok (proof, publicInput', after))) :
    ∃ (domain : Domain F) (round1Result : Round1 F RAPChallenges) (round2Result : Round2 F)
      (zLog friLog : List TranscriptEvent) (deep : Polynomial F) (friLayers : List (FriLayer F))
      (commitEvents queryEvents : List TranscriptEvent) (iota0 : Nat),
      Domain.new air.context = some domain ∧
      friLog = oodLog zLog proof ++ List.replicate
        (2 + air.context.transitionOffsets.length * air.context.traceColumns) .challenge ∧
      after.log = friLog ++ commitEvents ++ queryEvents ∧
      collaborators.friCommitPhase domain.rootOrder deep domain.ldeRootsOfUnityCoset
        ⟨friLog, collaborators.challenge⟩ = some (proof.friLastValue, friLayers, commitEvents) ∧
      proof.friLayersMerkleRoots = friLayers.map (·.merkleTree.root) ∧
      collaborators.friQueryPhase air.context domain friLayers
        ⟨friLog ++ commitEvents, collaborators.challenge⟩ =
          some (proof.queryList, iota0, queryEvents) ∧
      openDeepCompositionPoly domain round1Result round2Result iota0 = some proof.deepPolyOpenings ∧
      deep.degree < domain.interpolationDomainSize ∧
      proof.compositionPolyOddOodEvaluation = 0 ∧
      ∀ index openings,
        index % domain.ldeRootsOfUnityCoset.length < domain.interpolationDomainSize →
        openDeepCompositionPoly domain round1Result round2Result index = some openings →
        deep.evaluate (domain.ldeRootsOfUnityCoset.getD
          (index % domain.ldeRootsOfUnityCoset.length) 0) =
          deepValueFromOpenings (deepCoefficients ⟨oodLog zLog proof, collaborators.challenge⟩
            (air.context.transitionOffsets.length * air.context.traceColumns)) openings proof
            (collaborators.challenge zLog) domain.tracePrimitiveRoot air.context.transitionOffsets
            (domain.ldeRootsOfUnityCoset.getD (index % domain.ldeRootsOfUnityCoset.length) 0) := by
  -- Round 4 interpolated the halves' terms at the first `N` points and opened rounds 1 and 2.
  obtain ⟨domain, round1Result, _, round2Result, _, zLog, round3Result, round4Result, built,
    round1Ok, -, round2Ok, -, -, -, -, round3Ok, round4Ok, rfl⟩ := prove_run proved
  obtain ⟨_, _, _, -, -, -, -, ldeTrace, trees, -, -⟩ := round1_spec round1Ok
  obtain ⟨_, -, -, -, evenEvals, oddEvals, evenTree, -, oddTree, -⟩ := round2_spec round2Ok
  obtain ⟨deep, friLayers, iota0, commitEvents, queryEvents, deepOk, commitOk, queryOk, roots,
    openOk, rfl⟩ := round4_spec round4Ok
  obtain ⟨frame, -, forged⟩ := round3_spec round3Ok
  have bounded : ∀ t ∈ round1Result.tracePolys, t.degree ≤ domain.interpolationDomainSize - 1 :=
    fun t member => degree_le_of_length_le
      ((Domain.new_sizes built).1 ▸ round1_tracePolys_short_of_sized sized round1Ok t member)
  refine ⟨domain, round1Result, round2Result, zLog, _, deep, friLayers, commitEvents, queryEvents,
    iota0, built, rfl, by simp [List.append_assoc], commitOk, roots,
    by rw [List.append_assoc]; exact queryOk, openOk,
    (degree_computeDeepCompositionPoly_forged_lt bounded deepOk).trans_eq
      (max_eq_left (Nat.sub_le _ 1)),
    (forged rfl).2, fun index openings early opened => ?_⟩
  -- The openings are the committed values at the index's point, one of the interpolation's nodes.
  rw [openDeepCompositionPoly_spec ldeTrace trees evenEvals oddEvals evenTree oddTree] at opened
  cases opened
  rw [evaluate_computeDeepCompositionPoly_forged
    (fun k j => ((round3Result.traceOodFrameEvaluations.getRow k).getD []).getD j 0)
    (fun column c row r => by rw [frame]; exact getRow_getTraceEvaluations c r) deepOk
    (getD_mod_mem_take_ldeRootsOfUnityCoset domain early), deepCoefficients,
    deepValueFromOpenings_eq rfl rfl rfl]

/-- The adversarial single-column run commits a DEEP polynomial of degree below two that passes
the DEEP check at the first two points. -/
theorem prove_deepCheck_forged_singleColumn :
    singleColumnAir.BuildsTraceLengthFrom [1, 2] () ∧
    prove singleColumnCollaborators 3 [1, 2] singleColumnAir () true false =
      some (.ok (singleColumnForgedProof, (), singleColumnForgedTranscript)) ∧
    ∃ (domain : Domain GF17) (round1Result : Round1 GF17 Unit) (round2Result : Round2 GF17)
      (zLog friLog : List TranscriptEvent) (deep : Polynomial GF17)
      (friLayers : List (FriLayer GF17)) (commitEvents queryEvents : List TranscriptEvent)
      (iota0 : Nat),
      Domain.new singleColumnAir.context = some domain ∧
      friLog = oodLog zLog singleColumnForgedProof ++ List.replicate
        (2 + singleColumnAir.context.transitionOffsets.length *
          singleColumnAir.context.traceColumns) .challenge ∧
      singleColumnForgedTranscript.log = friLog ++ commitEvents ++ queryEvents ∧
      singleColumnCollaborators.friCommitPhase domain.rootOrder deep domain.ldeRootsOfUnityCoset
        ⟨friLog, singleColumnCollaborators.challenge⟩ =
          some (singleColumnForgedProof.friLastValue, friLayers, commitEvents) ∧
      singleColumnForgedProof.friLayersMerkleRoots = friLayers.map (·.merkleTree.root) ∧
      singleColumnCollaborators.friQueryPhase singleColumnAir.context domain friLayers
        ⟨friLog ++ commitEvents, singleColumnCollaborators.challenge⟩ =
          some (singleColumnForgedProof.queryList, iota0, queryEvents) ∧
      openDeepCompositionPoly domain round1Result round2Result iota0 =
        some singleColumnForgedProof.deepPolyOpenings ∧
      deep.degree < domain.interpolationDomainSize ∧
      singleColumnForgedProof.compositionPolyOddOodEvaluation = 0 ∧
      ∀ index openings,
        index % domain.ldeRootsOfUnityCoset.length < domain.interpolationDomainSize →
        openDeepCompositionPoly domain round1Result round2Result index = some openings →
        deep.evaluate (domain.ldeRootsOfUnityCoset.getD
          (index % domain.ldeRootsOfUnityCoset.length) 0) =
          deepValueFromOpenings (deepCoefficients
              ⟨oodLog zLog singleColumnForgedProof, singleColumnCollaborators.challenge⟩
              (singleColumnAir.context.transitionOffsets.length *
                singleColumnAir.context.traceColumns))
            openings singleColumnForgedProof (singleColumnCollaborators.challenge zLog)
            domain.tracePrimitiveRoot singleColumnAir.context.transitionOffsets
            (domain.ldeRootsOfUnityCoset.getD (index % domain.ldeRootsOfUnityCoset.length) 0) :=
  ⟨fun _ _ built => by cases built; simp [singleColumnAir], prove_singleColumn_forged,
    (prove_deepCheck_forged (fun _ _ built => by cases built; simp [singleColumnAir])
      prove_singleColumn_forged :)⟩

end Checks

end StarkProver
