import StarkProver.Math.FftField

/-! The Fiat–Shamir transcript as the log of what was appended and sampled, and the samplers the
prover draws its challenges with. -/

namespace StarkProver

/-- One operation on the transcript. -/
inductive TranscriptEvent where
  /-- `append(bytes)`: a prover message. -/
  | append (bytes : List UInt8)
  /-- `challenge()`: a value drawn from everything before it. -/
  | challenge
  deriving DecidableEq, Repr

/-- `ByteConversion`: the big-endian encoding in which the prover appends field elements. -/
class ByteConversion (F : Type) where
  /-- `to_bytes_be`. -/
  toBytesBe : F → List UInt8

export ByteConversion (toBytesBe)

/-- The seventeen-element field's elements fit one byte. -/
instance : ByteConversion GF17 := ⟨fun value => [UInt8.ofNat (ZMod.val (n := 17) value)]⟩

/--
A Fiat–Shamir transcript: the operations made on it so far, and the challenge it draws from a
history.

The `DefaultTranscript` hashes everything appended; its challenge after a history is a fixed
function of that history, here `oracle`.
-/
structure Transcript (F : Type) where
  /-- The operations made so far, oldest first. -/
  log : List TranscriptEvent
  /-- The challenge drawn after a given history. -/
  oracle : List TranscriptEvent → F

namespace Transcript

variable {F : Type} (transcript : Transcript F)

/-- `DefaultTranscript::new()`: nothing appended yet. -/
def new (oracle : List TranscriptEvent → F) : Transcript F := ⟨[], oracle⟩

/-- `transcript.append(bytes)`. -/
def append (bytes : List UInt8) : Transcript F :=
  { transcript with log := transcript.log ++ [.append bytes] }

/-- The transcript after another party (the AIR, FRI) made `events` on it. -/
def extend (events : List TranscriptEvent) : Transcript F :=
  { transcript with log := transcript.log ++ events }

@[simp] theorem log_append (bytes : List UInt8) :
    (transcript.append bytes).log = transcript.log ++ [.append bytes] := rfl

@[simp] theorem oracle_append (bytes : List UInt8) :
    (transcript.append bytes).oracle = transcript.oracle := rfl

@[simp] theorem log_extend (events : List TranscriptEvent) :
    (transcript.extend events).log = transcript.log ++ events := rfl

@[simp] theorem oracle_extend (events : List TranscriptEvent) :
    (transcript.extend events).oracle = transcript.oracle := rfl

@[simp] theorem extend_nil : transcript.extend [] = transcript := by
  simp [extend]

/-- An append is one operation made on the transcript. -/
theorem append_eq_extend (bytes : List UInt8) :
    transcript.append bytes = transcript.extend [.append bytes] := rfl

@[simp] theorem extend_extend (first second : List TranscriptEvent) :
    (transcript.extend first).extend second = transcript.extend (first ++ second) := by
  simp [extend]

/-- A transcript is its history and its oracle. -/
theorem ext_log {other : Transcript F} (sameLog : transcript.log = other.log)
    (sameOracle : transcript.oracle = other.oracle) : transcript = other := by
  cases transcript
  cases other
  simp_all

/-- Appending each value of a list in turn logs one append per value, in order. -/
theorem foldl_append [ByteConversion F] (values : List F) :
    values.foldl (fun transcript value => transcript.append (toBytesBe value)) transcript =
      transcript.extend (values.map fun value => .append (toBytesBe value)) := by
  -- Induction on the values: each append logs one event.
  induction values generalizing transcript with
  | nil => simp
  | cons value values ih =>
    rw [List.foldl_cons, ih]
    simp [append, extend]

end Transcript

section Sampling

variable {F : Type}

/-- Modelled from the spec: `transcript_to_field`, in the crate root, which draws a challenge and
reads it as a field element. -/
def transcriptToField (transcript : Transcript F) : F × Transcript F :=
  (transcript.oracle transcript.log, transcript.extend [.challenge])

/-- Modelled from the spec: `batch_sample_challenges(n, transcript)`, `n` challenges in a row. -/
def batchSampleChallenges : Nat → Transcript F → List F × Transcript F
  | 0, transcript => ([], transcript)
  | n + 1, transcript =>
    let (value, transcript) := transcriptToField transcript
    let (values, transcript) := batchSampleChallenges n transcript
    (value :: values, transcript)

@[simp] theorem transcriptToField_fst (transcript : Transcript F) :
    (transcriptToField transcript).1 = transcript.oracle transcript.log := rfl

@[simp] theorem transcriptToField_snd (transcript : Transcript F) :
    (transcriptToField transcript).2 = transcript.extend [.challenge] := rfl

/-- A batch of `n` challenges logs `n` draws. -/
@[simp] theorem batchSampleChallenges_snd (n : Nat) (transcript : Transcript F) :
    (batchSampleChallenges n transcript).2 =
      transcript.extend (List.replicate n .challenge) := by
  induction n generalizing transcript with
  | zero => simp [batchSampleChallenges]
  | succ n ih => simp [batchSampleChallenges, ih, List.replicate_succ]

variable [DecidableEq F]

/--
Modelled from the spec: `sample_z_ood(lde_roots_of_unity_coset, trace_roots_of_unity,
transcript)`, in the crate root, which draws until the value lies in neither list.

The loop has no bound: `fuel` bounds the draws, and a run that needs more does not return.
-/
def sampleZOod (ldeRootsOfUnityCoset traceRootsOfUnity : List F) :
    Nat → Transcript F → Option (F × Transcript F)
  | 0, _ => none
  | fuel + 1, transcript =>
    let (value, transcript) := transcriptToField transcript
    if value ∉ ldeRootsOfUnityCoset ∧ value ∉ traceRootsOfUnity then some (value, transcript)
    else sampleZOod ldeRootsOfUnityCoset traceRootsOfUnity fuel transcript

/-- A sampled point lies in neither list, and is the draw after some number `k` of rejected
draws: the transcript logs `k + 1` draws. -/
theorem sampleZOod_spec {ldeRoots traceRoots : List F} {fuel : Nat} {transcript : Transcript F}
    {z : F} {after : Transcript F}
    (sampled : sampleZOod ldeRoots traceRoots fuel transcript = some (z, after)) :
    ∃ k, z = transcript.oracle (transcript.log ++ List.replicate k .challenge) ∧
      z ∉ ldeRoots ∧ z ∉ traceRoots ∧
      after = transcript.extend (List.replicate (k + 1) .challenge) := by
  -- Each rejected draw adds one challenge in front of the draw that is kept.
  induction fuel generalizing transcript with
  | zero => cases sampled
  | succ fuel ih =>
    simp only [sampleZOod, transcriptToField_fst, transcriptToField_snd] at sampled
    split at sampled
    · rename_i outside
      cases sampled
      exact ⟨0, by simp, outside.1, outside.2, rfl⟩
    · obtain ⟨k, rfl, outsideLde, outsideTrace, rfl⟩ := ih sampled
      refine ⟨k + 1, by simp [List.replicate_succ], outsideLde, outsideTrace, ?_⟩
      simp [List.replicate_succ]

/-- More fuel does not change a draw that returns. -/
theorem sampleZOod_mono {ldeRoots traceRoots : List F} {fuel more : Nat}
    {transcript : Transcript F} {result : F × Transcript F}
    (sampled : sampleZOod ldeRoots traceRoots fuel transcript = some result) (enough : fuel ≤ more) :
    sampleZOod ldeRoots traceRoots more transcript = some result := by
  -- Induction on the fuel: a draw that returned with less fuel returns the same with more.
  induction fuel generalizing more transcript with
  | zero => cases sampled
  | succ fuel ih =>
    obtain ⟨more, rfl⟩ : ∃ rest, more = rest + 1 := ⟨more - 1, by omega⟩
    simp only [sampleZOod] at sampled ⊢
    split
    · rwa [if_pos ‹_›] at sampled
    · rw [if_neg ‹_›] at sampled
      exact ih sampled (by omega)

/-- Two runs that both return draw the same point: the fuel only decides whether one returns. -/
theorem sampleZOod_deterministic {ldeRoots traceRoots : List F} {fuel fuel' : Nat}
    {transcript : Transcript F} {result result' : F × Transcript F}
    (sampled : sampleZOod ldeRoots traceRoots fuel transcript = some result)
    (sampled' : sampleZOod ldeRoots traceRoots fuel' transcript = some result') :
    result = result' := by
  rcases Nat.le_total fuel fuel' with within | within
  · exact Option.some_injective _ ((sampleZOod_mono sampled within).symm.trans sampled')
  · exact Option.some_injective _ (sampled.symm.trans (sampleZOod_mono sampled' within))

end Sampling

end StarkProver
