import StarkProver.Math.FftField
import StarkProver.Math.Polynomial
import StarkProver.Math.Division
import StarkProver.Math.Interpolation
import StarkProver.Math.Fft
import StarkProver.Air.Context
import StarkProver.Domain
import StarkProver.Prover.Lde
import StarkProver.Transcript
import StarkProver.Air.Trace
import StarkProver.Commitment
import StarkProver.Proof
import StarkProver.Prover.Deep
import StarkProver.Proofs.Interp
import StarkProver.Air.Traits
import StarkProver.Prover.Rounds
import StarkProver.Proofs.Rounds
import StarkProver.Proofs.Deep
import StarkProver.Proofs.Prove
import StarkProver.Proofs.Verifier
import StarkProver.Proofs.Progress
