import StarkProver.Domain
import StarkProver.Proof
import StarkProver.Transcript

/-! What the prover consumes: the AIR, and the functions of the crate it calls but does not
define. -/

namespace StarkProver

/--
Modelled from the spec: the `AIR` trait, with its types `RawTrace`, `PublicInput` and
`RAPChallenges` as parameters.

`build_main_trace` takes the public input by mutable reference, so it returns the input as it
leaves it. `build_rap_challenges` may only append to and sample from the transcript: it returns
the challenges with the operations it made, in order.
-/
structure Air (F RawTrace PublicInput RAPChallenges : Type) where
  /-- `context()`. -/
  context : AirContext
  /-- `build_main_trace(raw_trace, public_input)`. -/
  buildMainTrace : RawTrace → PublicInput → Except ProvingError (TraceTable F × PublicInput)
  /-- `build_rap_challenges(transcript)`. -/
  buildRapChallenges : Transcript F → RAPChallenges × List TranscriptEvent
  /-- `build_auxiliary_trace(main_trace, rap_challenges, public_input)`, possibly empty. -/
  buildAuxiliaryTrace : TraceTable F → RAPChallenges → PublicInput → TraceTable F

/-- The trace tables the AIR builds from one raw trace and public input have `trace_length` rows:
the main table, and every auxiliary table built on it. -/
def Air.BuildsTraceLengthFrom {F RawTrace PublicInput RAPChallenges : Type}
    (air : Air F RawTrace PublicInput RAPChallenges) (rawTrace : RawTrace)
    (publicInput : PublicInput) : Prop :=
  ∀ mainTrace publicInput', air.buildMainTrace rawTrace publicInput = .ok (mainTrace, publicInput') →
    (∀ col ∈ mainTrace.cols, col.length = air.context.traceLength) ∧
    ∀ rapChallenges publicInput'',
      ∀ col ∈ (air.buildAuxiliaryTrace mainTrace rapChallenges publicInput'').cols,
        col.length = air.context.traceLength

/--
The functions of the crate that `prover.rs` calls but does not define, for one AIR.

Each may panic, except the transcript's hash and the Merkle hasher; FRI returns the operations it
made on the transcript with its results.
-/
structure Collaborators (F PublicInput RAPChallenges : Type) [Field F] [DecidableEq F]
    [IsFFTField F] where
  /-- The challenge `DefaultTranscript` draws after a history. -/
  challenge : List TranscriptEvent → F
  /-- `HASHER`, the Merkle hasher of the FRI module. -/
  hasher : MerkleBackend F
  /-- `ConstraintEvaluator::new(air, trace_polys, trace_primitive_root, public_input,
  rap_challenges).evaluate(lde_trace, lde_roots_of_unity_coset, transition_coeffs,
  boundary_coeffs, rap_challenges).compute_composition_poly(coset_offset)`: the composition
  polynomial `H`. -/
  compositionPoly : Domain F → List (Polynomial F) → TraceTable F → PublicInput → RAPChallenges →
    List (F × F) → List (F × F) → Option (Polynomial F)
  /-- `composition_poly_ood_evaluation_exact_from_trace(air, frame, domain, public_input, z,
  rap_challenges, boundary_coeffs, transition_coeffs)`, of the verifier. -/
  compositionPolyOodEvaluationExactFromTrace : Frame F → Domain F → PublicInput → F →
    RAPChallenges → List (F × F) → List (F × F) → Option F
  /-- `fri_commit_phase(number_layers, p_0, domain_0, transcript)`: the last value and the
  layers. -/
  friCommitPhase : Nat → Polynomial F → List F → Transcript F →
    Option (F × List (FriLayer F) × List TranscriptEvent)
  /-- `fri_query_phase(air, domain, fri_layers, transcript)`: the decommitments and the first
  query index `iota_0`. -/
  friQueryPhase : AirContext → Domain F → List (FriLayer F) → Transcript F →
    Option (List (FriDecommitment F) × Nat × List TranscriptEvent)

section SingleColumn

/-- A one-column AIR over the seventeen-element field: the main trace is the raw trace itself, of
two rows, extended with blowup two on the coset `3 · ⟨13⟩`, with frame offsets `0` and `1`. It
draws no RAP challenges and has no auxiliary trace. -/
def singleColumnAir : Air GF17 (List GF17) Unit Unit where
  context := ⟨⟨2, 1, 3⟩, 2, 1, [1], [1], [0, 1], 1⟩
  buildMainTrace rawTrace _ := .ok (⟨[rawTrace]⟩, ())
  buildRapChallenges _ := ((), [])
  buildAuxiliaryTrace _ _ _ := ⟨[]⟩

/-- A Merkle hasher over the seventeen-element field: the root sums the leaves, and the path of a
position is the leaves from it on. -/
def sumHasher : MerkleBackend GF17 := ⟨fun leaves => leaves.sum, fun leaves pos => leaves.drop pos⟩

/-- Collaborators for `singleColumnAir`: the transcript draws the length of its history, the
constraint evaluator returns `1 + 2X + 3X²`, the exact out-of-domain value is `5`, and FRI commits
to the DEEP polynomial's value at zero and queries position `5`. -/
def singleColumnCollaborators : Collaborators GF17 Unit Unit where
  challenge log := (log.length : GF17)
  hasher := sumHasher
  compositionPoly _ _ _ _ _ _ _ := some (Polynomial.new [1, 2, 3])
  compositionPolyOodEvaluationExactFromTrace _ _ _ _ _ _ _ := some 5
  friCommitPhase _ p _ _ :=
    some (p.evaluate 0, [⟨MerkleTree.build [p.evaluate 0] sumHasher⟩], [.append [0]])
  friQueryPhase _ _ _ _ := some ([], 5, [.challenge])

end SingleColumn

end StarkProver
