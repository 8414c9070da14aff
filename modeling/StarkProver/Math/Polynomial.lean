import Mathlib

/-! The polynomial library the prover calls: coefficient lists, constant term first, trimmed of
zeros at the high end. -/

namespace StarkProver

section Coefficients

variable {F : Type} [Field F]

/-- Horner evaluation of a coefficient list, constant term first. -/
def horner : List F → F → F
  | [], _ => 0
  | c :: cs, x => c + x * horner cs x

@[simp] theorem horner_nil (x : F) : horner [] x = 0 := rfl

@[simp] theorem horner_cons (c : F) (cs : List F) (x : F) :
    horner (c :: cs) x = c + x * horner cs x := rfl

/-- Adds two coefficient lists position by position, the shorter one read as padded with zeros. -/
def addCoefficients : List F → List F → List F
  | [], ys => ys
  | xs, [] => xs
  | x :: xs, y :: ys => (x + y) :: addCoefficients xs ys

@[simp] theorem addCoefficients_nil_right (xs : List F) : addCoefficients xs [] = xs := by
  cases xs <;> rfl

/-- Adding coefficient lists adds the polynomials they stand for. -/
@[simp] theorem horner_addCoefficients (xs ys : List F) (x : F) :
    horner (addCoefficients xs ys) x = horner xs x + horner ys x := by
  -- The two lists are walked together, one position per step.
  induction xs generalizing ys with
  | nil => simp [addCoefficients]
  | cons a as ih =>
    cases ys with
    | nil => simp
    | cons b bs => simp only [addCoefficients, horner_cons, ih]; ring

/-- The sum is as long as the longer summand. -/
@[simp] theorem length_addCoefficients (xs ys : List F) :
    (addCoefficients xs ys).length = max xs.length ys.length := by
  induction xs generalizing ys with
  | nil => simp [addCoefficients]
  | cons a as ih =>
    cases ys with
    | nil => simp
    | cons b bs => simp [addCoefficients, ih, Nat.succ_max_succ]

/-- Each coefficient of the sum is the sum of the coefficients at that position. -/
theorem getD_addCoefficients (xs ys : List F) (i : Nat) :
    (addCoefficients xs ys).getD i 0 = xs.getD i 0 + ys.getD i 0 := by
  -- Induction on the first list; past either end the missing coefficient reads as zero.
  induction xs generalizing ys i with
  | nil => simp [addCoefficients]
  | cons a as ih =>
    cases ys with
    | nil => simp
    | cons b bs =>
      cases i <;> simp only [addCoefficients, List.getD_cons_zero, List.getD_cons_succ, ih]

/-- Scaling every coefficient scales the polynomial. -/
@[simp] theorem horner_map_mul (c : F) (xs : List F) (x : F) :
    horner (xs.map (c * ·)) x = c * horner xs x := by
  induction xs with
  | nil => simp
  | cons a as ih => simp only [List.map_cons, horner_cons, ih]; ring

/-- Negating every coefficient negates the polynomial. -/
@[simp] theorem horner_map_neg (xs : List F) (x : F) :
    horner (xs.map (- ·)) x = - horner xs x := by
  induction xs with
  | nil => simp
  | cons a as ih => simp only [List.map_cons, horner_cons, ih]; ring

end Coefficients

section Trimming

variable {F : Type} [Field F] [DecidableEq F]

/-- Drops the zeros at the high end, as `Polynomial::new` does. -/
def trimZeros : List F → List F
  | [] => []
  | c :: cs =>
    match trimZeros cs with
    | [] => if c = 0 then [] else [c]
    | rest => c :: rest

/-- One step of trimming: the head goes only when it is zero and nothing is left after it. -/
theorem trimZeros_cons (c : F) (cs : List F) :
    trimZeros (c :: cs) = if trimZeros cs = [] ∧ c = 0 then [] else c :: trimZeros cs := by
  -- Trimming the tail first decides whether the head is trailing.
  rw [trimZeros]
  cases tail : trimZeros cs with
  | nil => by_cases zero : c = 0 <;> simp [zero]
  | cons r rs => simp

/-- Trimming keeps the polynomial a list stands for. -/
@[simp] theorem horner_trimZeros (xs : List F) (x : F) : horner (trimZeros xs) x = horner xs x := by
  -- A dropped head is zero and stands before a tail that reads as zero.
  induction xs with
  | nil => rfl
  | cons c cs ih =>
    rw [trimZeros_cons]
    split_ifs with dropped
    · obtain ⟨empty, rfl⟩ := dropped
      rw [empty] at ih
      simp [← ih]
    · simp [ih]

/-- Trimming never lengthens a list. -/
theorem length_trimZeros_le (xs : List F) : (trimZeros xs).length ≤ xs.length := by
  -- Trimming only ever drops coefficients.
  induction xs with
  | nil => exact le_refl _
  | cons c cs ih =>
    rw [trimZeros_cons]
    split_ifs <;> simp [ih]

/-- Trimming keeps every coefficient, reading positions past the end as zero. -/
theorem getD_trimZeros (xs : List F) (i : Nat) : (trimZeros xs).getD i 0 = xs.getD i 0 := by
  -- Trimming drops only trailing zeros, which read as zero past the end anyway.
  induction xs generalizing i with
  | nil => rfl
  | cons c cs ih =>
    rw [trimZeros_cons]
    split_ifs with dropped
    · obtain ⟨empty, rfl⟩ := dropped
      cases i with
      | zero => simp
      | succ i => simpa [empty] using ih i
    · cases i <;> simp only [List.getD_cons_zero, List.getD_cons_succ, ih]

/-- A list trims to nothing exactly when all its entries are zero. -/
theorem trimZeros_eq_nil_iff (xs : List F) : trimZeros xs = [] ↔ ∀ c ∈ xs, c = 0 := by
  -- A head is dropped only when it is zero and everything after it trims away.
  induction xs with
  | nil => simp [trimZeros]
  | cons c cs ih =>
    rw [trimZeros_cons]
    split_ifs with dropped
    · simp only [true_iff, List.mem_cons, forall_eq_or_imp]
      exact ⟨dropped.2, ih.mp dropped.1⟩
    · simp only [List.mem_cons, forall_eq_or_imp, reduceCtorEq, false_iff, not_and]
      intro zero rest
      exact dropped ⟨ih.mpr rest, zero⟩

/-- Trimming a trimmed list changes nothing. -/
@[simp] theorem trimZeros_trimZeros (xs : List F) : trimZeros (trimZeros xs) = trimZeros xs := by
  induction xs with
  | nil => rfl
  | cons c cs ih =>
    rw [trimZeros_cons c cs]
    split_ifs with dropped
    · rfl
    · rw [trimZeros_cons, ih, if_neg dropped]

/-- The tail of a trimmed list is trimmed. -/
theorem trimZeros_tail {c : F} {cs : List F} (trimmed : trimZeros (c :: cs) = c :: cs) :
    trimZeros cs = cs := by
  rw [trimZeros_cons] at trimmed
  split_ifs at trimmed
  simpa using trimmed

/-- Two trimmed lists with the same coefficient at every position are equal. -/
theorem trimmed_ext {xs ys : List F} (trimmedXs : trimZeros xs = xs)
    (trimmedYs : trimZeros ys = ys) (same : ∀ i, xs.getD i 0 = ys.getD i 0) : xs = ys := by
  -- A trimmed list that reads as zero everywhere is empty, so the lists end together.
  have empty_of_zero : ∀ {zs : List F}, trimZeros zs = zs → (∀ i, zs.getD i 0 = 0) → zs = [] :=
    fun {zs} trimmed zero => by
      rw [← trimmed, trimZeros_eq_nil_iff]
      intro c member
      obtain ⟨i, within, rfl⟩ := List.getElem_of_mem member
      simpa [List.getD_eq_getElem?_getD, List.getElem?_eq_getElem within] using zero i
  induction xs generalizing ys with
  | nil => exact (empty_of_zero trimmedYs fun i => by simpa using (same i).symm).symm
  | cons x xs ih =>
    cases ys with
    | nil => exact empty_of_zero trimmedXs fun i => by simpa using same i
    | cons y ys =>
      have head : x = y := by simpa using same 0
      rw [head, ih (trimZeros_tail trimmedXs) (trimZeros_tail trimmedYs)
        fun i => by simpa using same (i + 1)]

end Trimming

/--
A polynomial as the library holds it: its `coefficients`, constant term first.

Every operation builds its result through `Polynomial::new`, which trims the zeros at the high
end, so the polynomials the prover handles carry no trailing zero.
-/
structure Polynomial (F : Type) [Field F] [DecidableEq F] where
  /-- The coefficients, constant term first. -/
  coefficients : List F
  /-- No zero at the high end. -/
  trimmed : trimZeros coefficients = coefficients

namespace Polynomial

variable {F : Type} [Field F] [DecidableEq F]

/-- Polynomials with the same coefficients are equal. -/
@[ext] theorem ext {p q : Polynomial F} (same : p.coefficients = q.coefficients) : p = q := by
  cases p; cases q; cases same; rfl

instance : DecidableEq (Polynomial F) := fun p q =>
  decidable_of_iff (p.coefficients = q.coefficients) ⟨ext, fun same => same ▸ rfl⟩

/-- `Polynomial::new`: the polynomial with these coefficients, trimmed. -/
def new (coefficients : List F) : Polynomial F :=
  ⟨trimZeros coefficients, trimZeros_trimZeros coefficients⟩

/-- `Polynomial::zero`. -/
def zero : Polynomial F := new []

/-- `Polynomial::new_monomial(coefficient, degree)`: `coefficient * X ^ degree`. -/
def newMonomial (coefficient : F) (degree : Nat) : Polynomial F :=
  new (List.replicate degree 0 ++ [coefficient])

/-- `Polynomial::evaluate`: Horner's rule from the leading coefficient down. -/
def evaluate (p : Polynomial F) (x : F) : F :=
  p.coefficients.reverse.foldl (fun acc coeff => acc * x + coeff) 0

/-- `Polynomial::degree`: one less than the number of coefficients, and zero for zero. -/
def degree (p : Polynomial F) : Nat := p.coefficients.length - 1

/-- Polynomial addition, `Add for Polynomial`. -/
instance : Add (Polynomial F) := ⟨fun p q => new (addCoefficients p.coefficients q.coefficients)⟩

/-- Polynomial negation, `Neg for Polynomial`. -/
instance : Neg (Polynomial F) := ⟨fun p => new (p.coefficients.map (- ·))⟩

/-- Polynomial subtraction adds the negation. -/
instance : Sub (Polynomial F) := ⟨fun p q => p + -q⟩

/-- `&Polynomial - &FieldElement` subtracts the constant polynomial. -/
instance : HSub (Polynomial F) F (Polynomial F) := ⟨fun p c => p - newMonomial c 0⟩

/-- `FieldElement * Polynomial` scales every coefficient. -/
instance : HMul F (Polynomial F) (Polynomial F) := ⟨fun c p => new (p.coefficients.map (c * ·))⟩

/-- `Polynomial * &FieldElement` scales every coefficient. -/
instance : HMul (Polynomial F) F (Polynomial F) := ⟨fun p c => c * p⟩

@[simp] theorem coefficients_new (coefficients : List F) :
    (new coefficients).coefficients = trimZeros coefficients := rfl

/-- A polynomial is rebuilt by `new` from its own coefficients. -/
@[simp] theorem new_coefficients (p : Polynomial F) : new p.coefficients = p :=
  ext p.trimmed

/-- The library's evaluation is Horner's rule on the coefficient list. -/
theorem evaluate_eq_horner (p : Polynomial F) (x : F) : p.evaluate x = horner p.coefficients x := by
  -- Folding the reversed list from the left is folding the list from the right.
  rw [evaluate, List.foldl_reverse]
  induction p.coefficients with
  | nil => rfl
  | cons c cs ih => rw [List.foldr_cons, ih, horner_cons]; ring

@[simp] theorem evaluate_new (coefficients : List F) (x : F) :
    (new coefficients).evaluate x = horner coefficients x := by
  rw [evaluate_eq_horner, coefficients_new, horner_trimZeros]

@[simp] theorem evaluate_zero (x : F) : (zero : Polynomial F).evaluate x = 0 := by
  simp [zero]

@[simp] theorem evaluate_add (p q : Polynomial F) (x : F) :
    (p + q).evaluate x = p.evaluate x + q.evaluate x := by
  show (new _).evaluate x = _
  simp [evaluate_eq_horner]

@[simp] theorem evaluate_neg (p : Polynomial F) (x : F) : (-p).evaluate x = - p.evaluate x := by
  show (new _).evaluate x = _
  simp [evaluate_eq_horner]

@[simp] theorem evaluate_sub (p q : Polynomial F) (x : F) :
    (p - q).evaluate x = p.evaluate x - q.evaluate x := by
  show (p + -q).evaluate x = _
  simp [sub_eq_add_neg]

@[simp] theorem evaluate_newMonomial (coefficient : F) (degree : Nat) (x : F) :
    (newMonomial coefficient degree).evaluate x = coefficient * x ^ degree := by
  -- Each leading zero multiplies the value by `x` once more.
  simp only [newMonomial, evaluate_new]
  induction degree with
  | zero => simp
  | succ degree ih => simp [List.replicate_succ, ih, pow_succ]; ring

@[simp] theorem evaluate_sub_constant (p : Polynomial F) (c x : F) :
    (p - c).evaluate x = p.evaluate x - c := by
  show (p - newMonomial c 0).evaluate x = _
  simp

@[simp] theorem evaluate_constant_mul (c : F) (p : Polynomial F) (x : F) :
    (c * p).evaluate x = c * p.evaluate x := by
  show (new _).evaluate x = _
  simp [evaluate_eq_horner]

@[simp] theorem evaluate_mul_constant (p : Polynomial F) (c x : F) :
    (p * c).evaluate x = p.evaluate x * c := by
  show (c * p).evaluate x = _
  simp [mul_comm]

/-- Building a polynomial never lengthens the coefficient list. -/
theorem length_new_le (coefficients : List F) :
    (new coefficients).coefficients.length ≤ coefficients.length :=
  length_trimZeros_le coefficients

theorem length_add_le (p q : Polynomial F) :
    (p + q).coefficients.length ≤ max p.coefficients.length q.coefficients.length := by
  simpa using length_new_le (addCoefficients p.coefficients q.coefficients)

theorem length_neg_le (p : Polynomial F) : (-p).coefficients.length ≤ p.coefficients.length := by
  simpa using length_new_le (p.coefficients.map (- ·))

theorem length_sub_le (p q : Polynomial F) :
    (p - q).coefficients.length ≤ max p.coefficients.length q.coefficients.length := by
  have sum := length_add_le p (-q)
  have negated := length_neg_le q
  show (p + -q).coefficients.length ≤ _
  omega

theorem length_newMonomial_le (c : F) (degree : Nat) :
    (newMonomial c degree).coefficients.length ≤ degree + 1 := by
  have bound := length_new_le (List.replicate degree 0 ++ [c])
  rwa [List.length_append, List.length_replicate, List.length_singleton] at bound

theorem length_sub_constant_le (p : Polynomial F) (c : F) :
    (p - c).coefficients.length ≤ max p.coefficients.length 1 := by
  have difference := length_sub_le p (newMonomial c 0)
  have constant := length_newMonomial_le c 0
  show (p - newMonomial c 0).coefficients.length ≤ _
  omega

theorem length_constant_mul_le (c : F) (p : Polynomial F) :
    (c * p).coefficients.length ≤ p.coefficients.length := by
  simpa using length_new_le (p.coefficients.map (c * ·))

theorem length_mul_constant_le (p : Polynomial F) (c : F) :
    (p * c).coefficients.length ≤ p.coefficients.length :=
  length_constant_mul_le c p

end Polynomial

end StarkProver
