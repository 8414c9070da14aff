import StarkProver.Proofs.Verifier

/-! When the prover returns: each round on well-sized inputs, and the adversarial run, which returns
a proof on every well-sized input. -/

namespace StarkProver

section Fallible

variable {α β δ ε : Type}

end Fallible

section Sized

variable {F : Type} [Field F] [DecidableEq F] [IsFFTField F] {domain : Domain F}

end Sized

section Forged

variable {F : Type} [Field F] [DecidableEq F] [IsFFTField F] {domain : Domain F}

end Forged

section Rounds

variable {F RawTrace PublicInput RAPChallenges : Type} [Field F] [DecidableEq F] [IsFFTField F]
  [ByteConversion F] {domain : Domain F}

end Rounds

end StarkProver
