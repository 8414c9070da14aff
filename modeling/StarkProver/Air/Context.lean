import Mathlib

/-! The AIR's configuration as the prover reads it, and the prover's own error. -/

namespace StarkProver

/-- `ProofOptions`: how the proof is built. -/
structure ProofOptions where
  /-- `blowup_factor`: the low-degree extension has this many points per trace row. -/
  blowupFactor : UInt8
  /-- `fri_number_of_queries`. -/
  friNumberOfQueries : Nat
  /-- `coset_offset`: the shift of the low-degree-extension domain, mapped into the field. -/
  cosetOffset : UInt64
  deriving DecidableEq, Repr

/-- `AirContext`: the shape of the trace and of its constraints. -/
structure AirContext where
  /-- `options`. -/
  options : ProofOptions
  /-- `trace_length`: the number of rows. -/
  traceLength : Nat
  /-- `trace_columns`: the number of columns, main and auxiliary. -/
  traceColumns : Nat
  /-- `transition_degrees`: the degree of each transition constraint. -/
  transitionDegrees : List Nat
  /-- `transition_exemptions`: the rows at the end each transition constraint skips. -/
  transitionExemptions : List Nat
  /-- `transition_offsets`: the rows, relative to the current one, a transition reads. -/
  transitionOffsets : List Nat
  /-- `num_transition_constraints`. -/
  numTransitionConstraints : Nat
  deriving DecidableEq, Repr

/-- `ProvingError`: the one error `prove` returns rather than panics on. -/
inductive ProvingError where
  /-- `WrongParameter(message)`. -/
  | wrongParameter (message : String)
  deriving DecidableEq, Repr

end StarkProver
