import StarkProver.Math.Division
import Mathlib

/-! Interpolation through distinct nodes, and why the interpolant is the only short polynomial
through them. -/

namespace StarkProver

section Coefficients

variable {F : Type} [Field F]

/-- The coefficients of `(X - r) · q`. -/
def mulLinear (r : F) (q : List F) : List F :=
  addCoefficients (q.map (-r * ·)) (0 :: q)

@[simp] theorem horner_mulLinear (r : F) (q : List F) (x : F) :
    horner (mulLinear r q) x = (x - r) * horner q x := by
  simp only [mulLinear, horner_addCoefficients, horner_map_mul, horner_cons]
  ring

@[simp] theorem length_mulLinear (r : F) (q : List F) : (mulLinear r q).length = q.length + 1 := by
  simp [mulLinear]

/-- The coefficients of `∏ (X - r)` over the nodes. -/
def vanishing : List F → List F
  | [] => [1]
  | r :: rs => mulLinear r (vanishing rs)

@[simp] theorem horner_vanishing (nodes : List F) (x : F) :
    horner (vanishing nodes) x = (nodes.map (x - ·)).prod := by
  induction nodes with
  | nil => simp [vanishing]
  | cons r rs ih => simp [vanishing, ih]

@[simp] theorem length_vanishing (nodes : List F) : (vanishing nodes).length = nodes.length + 1 := by
  induction nodes with
  | nil => rfl
  | cons r rs ih => simp [vanishing, ih]

/-- The vanishing polynomial is zero at each node. -/
theorem horner_vanishing_of_mem {nodes : List F} {x : F} (member : x ∈ nodes) :
    horner (vanishing nodes) x = 0 := by
  rw [horner_vanishing]
  exact List.prod_eq_zero (List.mem_map.mpr ⟨x, member, sub_self x⟩)

/-- The vanishing polynomial is nonzero away from the nodes. -/
theorem horner_vanishing_ne_zero {nodes : List F} {x : F} (away : x ∉ nodes) :
    horner (vanishing nodes) x ≠ 0 := by
  -- A product of nonzero factors `x − r` is nonzero.
  rw [horner_vanishing, Ne, List.prod_eq_zero_iff]
  simp only [List.mem_map, sub_eq_zero, not_exists, not_and]
  rintro r member rfl
  exact away member

/-- One Newton step: correct the interpolant of the other nodes at `x` by a multiple of their
vanishing polynomial, which leaves its values at those nodes alone. -/
def newtonStep (x y : F) (nodes rest : List F) : List F :=
  addCoefficients rest
    ((vanishing nodes).map (((y - horner rest x) * (horner (vanishing nodes) x)⁻¹) * ·))

/-- The interpolant through the pairs of `xs` and `ys`, built in Newton's form. -/
def newtonCoefficients : List F → List F → List F
  | x :: xs, y :: ys => newtonStep x y xs (newtonCoefficients xs ys)
  | _, _ => []

/-- The interpolant has at most one coefficient per node. -/
theorem length_newtonCoefficients_le (xs ys : List F) :
    (newtonCoefficients xs ys).length ≤ xs.length := by
  -- Each Newton step adds a correction of the length of the nodes seen so far.
  induction xs generalizing ys with
  | nil => simp [newtonCoefficients]
  | cons x xs ih =>
    cases ys with
    | nil => simp [newtonCoefficients]
    | cons y ys =>
      have rest := ih ys
      simp only [newtonCoefficients, newtonStep, length_addCoefficients, List.length_map,
        length_vanishing, List.length_cons]
      omega

/-- The interpolant takes the value `y` at each node `x`. -/
theorem horner_newtonCoefficients {xs ys : List F} (distinct : xs.Nodup) :
    ∀ pair ∈ xs.zip ys, horner (newtonCoefficients xs ys) pair.1 = pair.2 := by
  -- The new node is fixed by the correction; the old ones see a zero correction.
  induction xs generalizing ys with
  | nil => simp
  | cons x xs ih =>
    cases ys with
    | nil => simp
    | cons y ys =>
      rw [List.nodup_cons] at distinct
      rintro ⟨x', y'⟩ member
      simp only [List.zip_cons_cons, List.mem_cons, Prod.mk.injEq] at member
      simp only [newtonCoefficients, newtonStep, horner_addCoefficients, horner_map_mul]
      rcases member with ⟨rfl, rfl⟩ | old
      · have nonzero := horner_vanishing_ne_zero distinct.1
        rw [mul_assoc, inv_mul_cancel₀ nonzero, mul_one, add_sub_cancel]
      · have vanishes := horner_vanishing_of_mem (List.of_mem_zip old).1
        rw [vanishes, mul_zero, add_zero]
        exact ih distinct.2 _ old

/-- A list with no more entries than there are distinct nodes, vanishing at all of them, is all
zeros. -/
theorem forall_zero_of_vanishes {xs nodes : List F} (short : xs.length ≤ nodes.length)
    (distinct : nodes.Nodup) (vanishes : ∀ x ∈ nodes, horner xs x = 0) : ∀ c ∈ xs, c = 0 := by
  -- Divide out one root at a time: the quotient is shorter and vanishes at the other nodes.
  induction nodes generalizing xs with
  | nil =>
    have empty : xs = [] := List.eq_nil_of_length_eq_zero (by simpa using short)
    simp [empty]
  | cons a nodes ih =>
    rw [List.nodup_cons] at distinct
    have root : (ruffini a xs).2 = 0 := by
      rw [ruffini_remainder]; exact vanishes a (List.mem_cons_self a nodes)
    have quotient : ∀ c ∈ (ruffini a xs).1, c = 0 := by
      apply ih (by simp only [length_ruffini]; simp at short; omega) distinct.2
      intro x member
      have away : x - a ≠ 0 := sub_ne_zero.mpr fun same => distinct.1 (same ▸ member)
      have value := horner_ruffini a xs x
      rw [vanishes x (List.mem_cons_of_mem a member), root, add_zero] at value
      exact (mul_eq_zero.mp value.symm).resolve_left away
    exact ruffini_zeros quotient root

/-- A list of zeros reads as zero at every position. -/
theorem getD_of_forall_zero {xs : List F} (zeros : ∀ c ∈ xs, c = 0) (i : Nat) :
    xs.getD i 0 = 0 := by
  rw [List.getD_eq_getElem?_getD]
  cases lookup : xs[i]? with
  | none => rfl
  | some c => exact zeros c (List.getElem?_mem lookup)

theorem getD_map_neg (xs : List F) (i : Nat) : (xs.map (- ·)).getD i 0 = - xs.getD i 0 := by
  induction xs generalizing i with
  | nil => simp
  | cons c cs ih => cases i <;> simp only [List.map_cons, List.getD_cons_zero,
      List.getD_cons_succ, ih]

end Coefficients

/-- Why `Polynomial::interpolate` refuses its input. -/
inductive InterpolateError where
  /-- There are not as many values as nodes. -/
  | unequalLengths (nodes values : Nat)
  /-- Two nodes coincide. -/
  | nonUniqueXs
  deriving DecidableEq, Repr

namespace Polynomial

variable {F : Type} [Field F] [DecidableEq F]

/--
`Polynomial::interpolate(xs, ys)`: the polynomial with at most `xs.length` coefficients taking
each value of `ys` at the node of `xs` in the same position.

The library sums the Lagrange basis; that polynomial is unique (`eq_of_agree`), and it is built
here in Newton's form.
-/
def interpolate (xs ys : List F) : Except InterpolateError (Polynomial F) :=
  if xs.length ≠ ys.length then .error (.unequalLengths xs.length ys.length)
  else if xs.Nodup then .ok (new (newtonCoefficients xs ys))
  else .error .nonUniqueXs

/-- Interpolation succeeds on as many distinct nodes as values. -/
theorem interpolate_of_nodup {xs ys : List F} (same : xs.length = ys.length) (distinct : xs.Nodup) :
    interpolate xs ys = .ok (new (newtonCoefficients xs ys)) := by
  simp [interpolate, same, distinct]

/-- Interpolation succeeds only on as many distinct nodes as values. -/
theorem interpolate_eq_ok {xs ys : List F} {result : Polynomial F}
    (interpolated : interpolate xs ys = .ok result) :
    xs.length = ys.length ∧ xs.Nodup ∧ result = new (newtonCoefficients xs ys) := by
  -- The only branch that returns has passed both checks.
  unfold interpolate at interpolated
  split_ifs at interpolated with same distinct
  cases interpolated
  exact ⟨not_not.mp same, distinct, rfl⟩

/-- The interpolant takes each value at its node. -/
theorem evaluate_interpolate {xs ys : List F} {result : Polynomial F}
    (interpolated : interpolate xs ys = .ok result) :
    ∀ pair ∈ xs.zip ys, result.evaluate pair.1 = pair.2 := by
  obtain ⟨-, distinct, rfl⟩ := interpolate_eq_ok interpolated
  simpa using horner_newtonCoefficients distinct

/-- The interpolant has at most one coefficient per node. -/
theorem length_interpolate_le {xs ys : List F} {result : Polynomial F}
    (interpolated : interpolate xs ys = .ok result) : result.coefficients.length ≤ xs.length := by
  obtain ⟨-, -, rfl⟩ := interpolate_eq_ok interpolated
  exact (length_new_le _).trans (length_newtonCoefficients_le xs ys)

/-- Two polynomials with no more coefficients than there are distinct nodes, agreeing at every
node, are the same polynomial, coefficient by coefficient. -/
theorem eq_of_agree {p q : Polynomial F} {nodes : List F}
    (shortP : p.coefficients.length ≤ nodes.length) (shortQ : q.coefficients.length ≤ nodes.length)
    (distinct : nodes.Nodup) (agree : ∀ x ∈ nodes, p.evaluate x = q.evaluate x) : p = q := by
  -- The difference of the coefficient lists vanishes at every node, so it is all zeros.
  let difference := addCoefficients p.coefficients (q.coefficients.map (- ·))
  have zeros : ∀ c ∈ difference, c = 0 := by
    refine forall_zero_of_vanishes ?_ distinct ?_
    · simp [difference]; omega
    · intro x member
      have same := agree x member
      simp only [evaluate_eq_horner] at same
      simp [difference, same]
  apply ext
  apply trimmed_ext p.trimmed q.trimmed
  intro i
  have position := getD_of_forall_zero zeros i
  rw [getD_addCoefficients, getD_map_neg] at position
  exact eq_of_sub_eq_zero (by simpa [sub_eq_add_neg] using position)

/-- A successful interpolation returns every short polynomial through the given values. -/
theorem interpolate_eq_of_agree {xs ys : List F} {result p : Polynomial F}
    (interpolated : interpolate xs ys = .ok result) (short : p.coefficients.length ≤ xs.length)
    (through : ∀ pair ∈ xs.zip ys, p.evaluate pair.1 = pair.2) : result = p := by
  -- Both polynomials are short and agree at every node, so they are equal.
  obtain ⟨same, distinct, -⟩ := interpolate_eq_ok interpolated
  apply eq_of_agree (length_interpolate_le interpolated) short distinct
  intro x member
  obtain ⟨i, within, rfl⟩ := List.getElem_of_mem member
  have bound : i < (xs.zip ys).length := by simp [List.length_zip, ← same, within]
  have pair := List.getElem_mem bound
  rw [List.getElem_zip] at pair
  rw [evaluate_interpolate interpolated _ pair, through _ pair]

end Polynomial

end StarkProver
