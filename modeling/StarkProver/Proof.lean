import StarkProver.Commitment
import StarkProver.Air.Trace

/-! The results of the four rounds, and the proof the prover assembles from them. -/

namespace StarkProver

/-- Modelled from the spec: `FriLayer`, of which the prover reads the Merkle tree. -/
structure FriLayer (F : Type) where
  /-- `merkle_tree`: the commitment to the layer's evaluations. -/
  merkleTree : MerkleTree F

/-- Modelled from the spec: `FriDecommitment`, a query's sibling evaluations and their Merkle
proofs at every layer. -/
structure FriDecommitment (F : Type) where
  /-- `layers_auth_paths_sym`. -/
  layersAuthPathsSym : List (Proof F)
  /-- `layers_evaluations_sym`. -/
  layersEvaluationsSym : List F
  deriving DecidableEq, Repr

/-- Modelled from the spec: `DeepPolynomialOpenings`, the Merkle proof and the value of `H₁`, of
`H₂` and of every trace column at one position of the extended domain. -/
structure DeepPolynomialOpenings (F : Type) where
  /-- `lde_composition_poly_even_proof`. -/
  ldeCompositionPolyEvenProof : Proof F
  /-- `lde_composition_poly_even_evaluation`. -/
  ldeCompositionPolyEvenEvaluation : F
  /-- `lde_composition_poly_odd_proof`. -/
  ldeCompositionPolyOddProof : Proof F
  /-- `lde_composition_poly_odd_evaluation`. -/
  ldeCompositionPolyOddEvaluation : F
  /-- `lde_trace_merkle_proofs`: one per trace column. -/
  ldeTraceMerkleProofs : List (Proof F)
  /-- `lde_trace_evaluations`: one per trace column. -/
  ldeTraceEvaluations : List F
  deriving DecidableEq, Repr

/-- Modelled from the spec: `StarkProof`. -/
structure StarkProof (F : Type) where
  /-- `lde_trace_merkle_roots`: `[tⱼ]`. -/
  ldeTraceMerkleRoots : List F
  /-- `trace_ood_frame_evaluations`: `tⱼ(zgᵏ)`. -/
  traceOodFrameEvaluations : Frame F
  /-- `composition_poly_even_root`: `[H₁]`. -/
  compositionPolyEvenRoot : F
  /-- `composition_poly_even_ood_evaluation`: `H₁(z²)`. -/
  compositionPolyEvenOodEvaluation : F
  /-- `composition_poly_odd_root`: `[H₂]`. -/
  compositionPolyOddRoot : F
  /-- `composition_poly_odd_ood_evaluation`: `H₂(z²)`. -/
  compositionPolyOddOodEvaluation : F
  /-- `fri_layers_merkle_roots`: `[pₖ]`. -/
  friLayersMerkleRoots : List F
  /-- `fri_last_value`: `pₙ`. -/
  friLastValue : F
  /-- `query_list`. -/
  queryList : List (FriDecommitment F)
  /-- `deep_poly_openings`. -/
  deepPolyOpenings : DeepPolynomialOpenings F
  deriving DecidableEq, Repr

section Rounds

variable (F : Type) [Field F] [DecidableEq F]

/-- `Round1`: the trace polynomials, main then auxiliary, their evaluations on the extended
domain, one tree and one root per column, and the RAP challenges. -/
structure Round1 (RAPChallenges : Type) where
  /-- `trace_polys`. -/
  tracePolys : List (Polynomial F)
  /-- `lde_trace`. -/
  ldeTrace : TraceTable F
  /-- `lde_trace_merkle_trees`. -/
  ldeTraceMerkleTrees : List (MerkleTree F)
  /-- `lde_trace_merkle_roots`. -/
  ldeTraceMerkleRoots : List F
  /-- `rap_challenges`. -/
  rapChallenges : RAPChallenges

/-- `Round2`: the halves `H₁` and `H₂` of the composition polynomial, their evaluations on the
extended domain, and their trees and roots. -/
structure Round2 where
  /-- `composition_poly_even`: `H₁`. -/
  compositionPolyEven : Polynomial F
  /-- `lde_composition_poly_even_evaluations`. -/
  ldeCompositionPolyEvenEvaluations : List F
  /-- `composition_poly_even_merkle_tree`. -/
  compositionPolyEvenMerkleTree : MerkleTree F
  /-- `composition_poly_even_root`. -/
  compositionPolyEvenRoot : F
  /-- `composition_poly_odd`: `H₂`. -/
  compositionPolyOdd : Polynomial F
  /-- `lde_composition_poly_odd_evaluations`. -/
  ldeCompositionPolyOddEvaluations : List F
  /-- `composition_poly_odd_merkle_tree`. -/
  compositionPolyOddMerkleTree : MerkleTree F
  /-- `composition_poly_odd_root`. -/
  compositionPolyOddRoot : F

/-- `Round3`: the out-of-domain frame and the values claimed for `H₁(z²)` and `H₂(z²)`. -/
structure Round3 where
  /-- `trace_ood_frame_evaluations`. -/
  traceOodFrameEvaluations : Frame F
  /-- `composition_poly_even_ood_evaluation`. -/
  compositionPolyEvenOodEvaluation : F
  /-- `composition_poly_odd_ood_evaluation`. -/
  compositionPolyOddOodEvaluation : F
  deriving DecidableEq

/-- `Round4`: what FRI returns, and the openings of the DEEP polynomial's parts. -/
structure Round4 where
  /-- `fri_last_value`. -/
  friLastValue : F
  /-- `fri_layers_merkle_roots`. -/
  friLayersMerkleRoots : List F
  /-- `deep_poly_openings`. -/
  deepPolyOpenings : DeepPolynomialOpenings F
  /-- `query_list`. -/
  queryList : List (FriDecommitment F)
  deriving DecidableEq

end Rounds

end StarkProver
