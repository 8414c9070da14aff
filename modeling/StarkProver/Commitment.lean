import Mathlib

/-! Merkle commitments to evaluation vectors, as far as the prover reads them. -/

namespace StarkProver

/-- The Merkle hasher `HASHER` of the FRI module, reduced to what the prover reads of the trees it
builds: the root over a list of leaves, and the authentication path of a position. -/
structure MerkleBackend (F : Type) where
  /-- The root of the tree over the leaves. -/
  root : List F → F
  /-- The authentication path of a position among the leaves. -/
  authenticationPath : List F → Nat → List F

/-- `Proof`: a Merkle authentication path. -/
structure Proof (F : Type) where
  /-- `merkle_path`. -/
  merklePath : List F
  deriving DecidableEq, Repr

/-- Modelled from the spec: `MerkleTree`, the tree over a vector of leaves built with a hasher. -/
structure MerkleTree (F : Type) where
  /-- The committed vector. -/
  leaves : List F
  /-- The hasher the tree was built with. -/
  hasher : MerkleBackend F

namespace MerkleTree

variable {F : Type}

/-- Modelled from the spec: `MerkleTree::build(leaves, hasher)`. -/
def build (leaves : List F) (hasher : MerkleBackend F) : MerkleTree F := ⟨leaves, hasher⟩

/-- Modelled from the spec: `root`, the hash of the whole tree. -/
def root (tree : MerkleTree F) : F := tree.hasher.root tree.leaves

/-- Modelled from the spec: `get_proof_by_pos(pos)`, which has no proof past the last leaf. -/
def getProofByPos (tree : MerkleTree F) (pos : Nat) : Option (Proof F) :=
  if pos < tree.leaves.length then some ⟨tree.hasher.authenticationPath tree.leaves pos⟩ else none

@[simp] theorem leaves_build (leaves : List F) (hasher : MerkleBackend F) :
    (build leaves hasher).leaves = leaves := rfl

@[simp] theorem root_build (leaves : List F) (hasher : MerkleBackend F) :
    (build leaves hasher).root = hasher.root leaves := rfl

/-- A position among the leaves has its authentication path as proof. -/
theorem getProofByPos_of_lt {tree : MerkleTree F} {pos : Nat} (within : pos < tree.leaves.length) :
    tree.getProofByPos pos = some ⟨tree.hasher.authenticationPath tree.leaves pos⟩ := by
  simp [getProofByPos, within]

end MerkleTree

section Batch

variable {F : Type}

/-- `batch_commit(vectors)`: one tree per vector, built with `HASHER`, and the trees' roots. -/
def batchCommit (hasher : MerkleBackend F) (vectors : List (List F)) :
    List (MerkleTree F) × List F :=
  let trees := vectors.map fun col => MerkleTree.build col hasher
  (trees, trees.map (·.root))

@[simp] theorem batchCommit_fst (hasher : MerkleBackend F) (vectors : List (List F)) :
    (batchCommit hasher vectors).1 = vectors.map fun col => MerkleTree.build col hasher := rfl

@[simp] theorem batchCommit_snd (hasher : MerkleBackend F) (vectors : List (List F)) :
    (batchCommit hasher vectors).2 = vectors.map hasher.root := by
  simp [batchCommit, Function.comp_def]

end Batch

end StarkProver
