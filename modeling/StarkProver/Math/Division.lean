import StarkProver.Math.Polynomial

/-! Division by a linear factor, and the even/odd split of a polynomial. -/

namespace StarkProver

section Coefficients

variable {F : Type} [Field F]

/-- One step of synthetic division: the remainder of the tail becomes the low coefficient of the
quotient, and `c` joins the remainder. -/
def ruffiniStep (b c : F) (tail : List F × F) : List F × F :=
  (tail.2 :: tail.1, c + b * tail.2)

/-- Synthetic division of a coefficient list by `X - b`: the quotient and the remainder. -/
def ruffini (b : F) : List F → List F × F
  | [] => ([], 0)
  | [c] => ([], c)
  | c :: c' :: cs => ruffiniStep b c (ruffini b (c' :: cs))

/-- The remainder of dividing by `X - b` is the value at `b`. -/
theorem ruffini_remainder (b : F) (xs : List F) : (ruffini b xs).2 = horner xs b := by
  -- Synthetic division carries Horner's evaluation in its remainder.
  induction xs using ruffini.induct b with
  | case1 => rfl
  | case2 c => simp [ruffini]
  | case3 c c' cs ih => simp only [ruffini, ruffiniStep, ih, horner_cons]

/-- A list is its quotient times `X - b` plus its remainder. -/
theorem horner_ruffini (b : F) (xs : List F) (x : F) :
    horner xs x = (x - b) * horner (ruffini b xs).1 x + (ruffini b xs).2 := by
  -- One more coefficient on the low end shifts the quotient up by one position.
  induction xs using ruffini.induct b with
  | case1 => simp [ruffini]
  | case2 c => simp [ruffini]
  | case3 c c' cs ih =>
    rw [horner_cons, ih]
    simp only [ruffini, ruffiniStep, horner_cons]
    ring

/-- The quotient has one coefficient fewer. -/
@[simp] theorem length_ruffini (b : F) (xs : List F) :
    (ruffini b xs).1.length = xs.length - 1 := by
  induction xs using ruffini.induct b with
  | case1 => rfl
  | case2 c => rfl
  | case3 c c' cs ih => simp [ruffini, ruffiniStep, ih]

/-- A zero quotient with a zero remainder comes only from a list of zeros. -/
theorem ruffini_zeros {b : F} {xs : List F} (quotient : ∀ c ∈ (ruffini b xs).1, c = 0)
    (remainder : (ruffini b xs).2 = 0) : ∀ c ∈ xs, c = 0 := by
  -- The remainder of the tail is the head of the quotient, so zeros travel down the list.
  induction xs using ruffini.induct b with
  | case1 => simp
  | case2 c => simpa [ruffini] using remainder
  | case3 c c' cs ih =>
    simp only [ruffini, ruffiniStep, List.mem_cons, forall_eq_or_imp] at quotient remainder
    rw [quotient.1, mul_zero, add_zero] at remainder
    exact List.forall_mem_cons.mpr ⟨remainder, ih quotient.2 quotient.1⟩

end Coefficients

section Split

variable {α : Type}

/-- `iter().step_by(2)`: the coefficients at even positions. -/
def evenCoefficients : List α → List α
  | [] => []
  | [c] => [c]
  | c :: _ :: cs => c :: evenCoefficients cs

/-- `iter().skip(1).step_by(2)`: the coefficients at odd positions. -/
def oddCoefficients (cs : List α) : List α := evenCoefficients cs.tail

@[simp] theorem oddCoefficients_cons_cons (c d : α) (cs : List α) :
    oddCoefficients (c :: d :: cs) = d :: oddCoefficients cs := by
  -- Skipping the head of `d :: cs` leaves the odd positions of `cs` behind `d`.
  match cs with
  | [] => rfl
  | [e] => rfl
  | e :: f :: cs => rfl

/-- The even part at `j` is the coefficient at `2j`. -/
theorem getD_evenCoefficients (xs : List α) (j : Nat) (fallback : α) :
    (evenCoefficients xs).getD j fallback = xs.getD (2 * j) fallback := by
  -- Two coefficients are dropped per step of the split and one kept, so index `j` moves to `2j`.
  induction xs using evenCoefficients.induct generalizing j with
  | case1 => rfl
  | case2 c => cases j <;> rfl
  | case3 c d cs ih =>
    cases j with
    | zero => rfl
    | succ j => simp only [evenCoefficients, List.getD_cons_succ, ih, Nat.mul_succ]

/-- The odd part at `j` is the coefficient at `2j + 1`. -/
theorem getD_oddCoefficients (xs : List α) (j : Nat) (fallback : α) :
    (oddCoefficients xs).getD j fallback = xs.getD (2 * j + 1) fallback := by
  cases xs with
  | nil => rfl
  | cons c cs => exact getD_evenCoefficients cs j fallback

end Split

section EvenOdd

variable {F : Type} [Field F]

/-- A polynomial is its even part at `x²` plus `x` times its odd part at `x²`. -/
theorem horner_even_odd (xs : List F) (x : F) :
    horner xs x = horner (evenCoefficients xs) (x * x) + x * horner (oddCoefficients xs) (x * x) := by
  -- Peel two coefficients at a time: `c + d x + x² p(x)` splits as `c + x² …` and `x (d + x² …)`.
  induction xs using evenCoefficients.induct with
  | case1 => simp [evenCoefficients, oddCoefficients]
  | case2 c => simp [evenCoefficients, oddCoefficients]
  | case3 c d cs ih =>
    rw [oddCoefficients_cons_cons, evenCoefficients, horner_cons, horner_cons, ih]
    simp only [horner_cons]
    ring

end EvenOdd

namespace Polynomial

variable {F : Type} [Field F] [DecidableEq F]

/-- `Polynomial::ruffini_division(b)`: the quotient of dividing by `X - b`. -/
def ruffiniDivision (p : Polynomial F) (b : F) : Polynomial F :=
  new (ruffini b p.coefficients).1

/-- `Polynomial::even_odd_decomposition`: the polynomials of the even and of the odd
coefficients, so that `p(x) = even(x²) + x · odd(x²)`. -/
def evenOddDecomposition (p : Polynomial F) : Polynomial F × Polynomial F :=
  (new (evenCoefficients p.coefficients), new (oddCoefficients p.coefficients))

/-- The division identity: `p(x) = (x - b) · q(x) + p(b)`. -/
theorem evaluate_ruffiniDivision (p : Polynomial F) (b x : F) :
    p.evaluate x = (x - b) * (p.ruffiniDivision b).evaluate x + p.evaluate b := by
  rw [ruffiniDivision, evaluate_new, evaluate_eq_horner, evaluate_eq_horner,
    ← ruffini_remainder b]
  exact horner_ruffini b p.coefficients x

/-- Away from `b`, the quotient is the difference quotient of `p`. -/
theorem evaluate_ruffiniDivision_of_ne (p : Polynomial F) {b x : F} (away : x ≠ b) :
    (p.ruffiniDivision b).evaluate x = (p.evaluate x - p.evaluate b) / (x - b) := by
  have nonzero : x - b ≠ 0 := sub_ne_zero.mpr away
  rw [evaluate_ruffiniDivision p b x, add_sub_cancel_right, mul_div_cancel_left₀ _ nonzero]

/-- Dividing by `X - b` takes one coefficient off. -/
theorem length_ruffiniDivision_le (p : Polynomial F) (b : F) :
    (p.ruffiniDivision b).coefficients.length ≤ p.coefficients.length - 1 := by
  simpa using length_new_le (ruffini b p.coefficients).1

/-- The even/odd split recombines: `p(x) = even(x²) + x · odd(x²)`. -/
theorem evaluate_evenOddDecomposition (p : Polynomial F) (x : F) :
    p.evaluate x = p.evenOddDecomposition.1.evaluate (x * x) +
      x * p.evenOddDecomposition.2.evaluate (x * x) := by
  simp only [evenOddDecomposition, evaluate_new]
  rw [evaluate_eq_horner]
  exact horner_even_odd p.coefficients x

/-- The split interleaves back: the coefficient of `X^(2j)` is the even part's `j`-th, the one of
`X^(2j+1)` the odd part's. -/
theorem getD_evenOddDecomposition (p : Polynomial F) (j : Nat) :
    p.coefficients.getD (2 * j) 0 = p.evenOddDecomposition.1.coefficients.getD j 0 ∧
      p.coefficients.getD (2 * j + 1) 0 = p.evenOddDecomposition.2.coefficients.getD j 0 := by
  simp only [evenOddDecomposition, coefficients_new, getD_trimZeros, getD_evenCoefficients,
    getD_oddCoefficients, and_self]

end Polynomial

end StarkProver
