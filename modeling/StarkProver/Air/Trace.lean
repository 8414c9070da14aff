import StarkProver.Math.Fft
import StarkProver.Math.Interpolation
import Mathlib

/-! The trace table with its interpolation by the FFT engine, and the out-of-domain frame. -/

namespace StarkProver

section Panics

variable {ε α β : Type}

/-- `Result::unwrap`: the value, or a panic on an error. -/
def unwrap : Except ε α → Option α
  | .ok value => some value
  | .error _ => none

@[simp] theorem unwrap_ok (value : α) : unwrap (.ok value : Except ε α) = some value := rfl

@[simp] theorem unwrap_error (e : ε) : unwrap (.error e : Except ε α) = none := rfl

theorem unwrap_eq_some {result : Except ε α} {value : α} :
    unwrap result = some value ↔ result = .ok value := by
  cases result <;> simp [unwrap]

/-- A traversal that panics on any entry returns one value per entry, each the entry's own. -/
theorem mapM_eq_some {f : α → Option β} {xs : List α} {ys : List β} :
    xs.mapM f = some ys ↔ List.Forall₂ (fun x y => f x = some y) xs ys := by
  -- Induction on the entries: the traversal returns exactly when the head and the tail do.
  induction xs generalizing ys with
  | nil => rw [List.mapM_nil]; cases ys <;> simp [pure]
  | cons x xs ih =>
    rw [List.mapM_cons]
    cases ys with
    | nil =>
      simp only [List.forall₂_nil_right_iff, reduceCtorEq, iff_false]
      cases f x <;> cases xs.mapM f <;> simp [bind, pure]
    | cons y ys =>
      rw [List.forall₂_cons, ← ih]
      cases f x <;> cases xs.mapM f <;> simp [bind, pure]

/-- A traversal that stops at the first error returns one value per entry, each the entry's own. -/
theorem mapM_eq_ok {f : α → Except ε β} {xs : List α} {ys : List β} :
    xs.mapM f = .ok ys ↔ List.Forall₂ (fun x y => f x = .ok y) xs ys := by
  -- Induction on the entries: the traversal succeeds exactly when the head and the tail do.
  induction xs generalizing ys with
  | nil => rw [List.mapM_nil]; cases ys <;> simp [pure, Except.pure]
  | cons x xs ih =>
    rw [List.mapM_cons]
    cases ys with
    | nil =>
      simp only [List.forall₂_nil_right_iff, reduceCtorEq, iff_false]
      cases f x <;> cases xs.mapM f <;> simp [bind, pure, Except.bind, Except.pure]
    | cons y ys =>
      rw [List.forall₂_cons, ← ih]
      cases f x <;> cases xs.mapM f <;> simp [bind, pure, Except.bind, Except.pure]

/-- A traversal whose every entry succeeds is the map of the successes. -/
theorem mapM_of_forall {f : α → Option β} {g : α → β} {xs : List α}
    (succeeds : ∀ x ∈ xs, f x = some (g x)) : xs.mapM f = some (xs.map g) := by
  -- Each entry contributes its success, so the traversal rebuilds the map entry by entry.
  induction xs with
  | nil => rfl
  | cons x xs ih =>
    rw [List.mapM_cons, succeeds x (List.mem_cons_self x xs),
      ih fun y member => succeeds y (List.mem_cons_of_mem x member)]
    rfl

/-- A successful traversal whose every success is determined by its entry is that map. -/
theorem mapM_eq_some_map {f : α → Option β} {g : α → β} {xs : List α} {ys : List β}
    (agrees : ∀ x ∈ xs, ∀ y, f x = some y → y = g x) (traversed : xs.mapM f = some ys) :
    ys = xs.map g := by
  -- Each entry's value is forced, so the traversal is related entrywise to the map.
  induction xs generalizing ys with
  | nil => cases traversed; rfl
  | cons x xs ih =>
    rw [mapM_eq_some, List.forall₂_cons_left_iff] at traversed
    obtain ⟨y, ys, found, rest, rfl⟩ := traversed
    rw [agrees x (List.mem_cons_self x xs) y found,
      ih (fun x' member => agrees x' (List.mem_cons_of_mem x member)) (mapM_eq_some.mpr rest)]
    rfl

end Panics

section Interpolation

variable {F : Type} [Field F] [DecidableEq F] [IsFFTField F]

/--
`Polynomial::interpolate_fft(fft_evals)`, stated by what it computes.

It returns the polynomial with at most `n` coefficients taking the `i`-th value at `ω^i`, `n` the
number of values and `ω` the primitive root of unity of order `n`. A length that is not a power of
two, or an order the field has no root of unity for, is an error.
-/
def interpolateFft (fftEvals : List F) : Except FFTError (Polynomial F) :=
  let order := trailingZeros fftEvals.length
  if fftEvals.length ≠ 2 ^ order then .error (.inputError fftEvals.length)
  else
    match getPrimitiveRootOfUnity order with
    | some root =>
      .ok (Polynomial.new (newtonCoefficients ((List.range fftEvals.length).map (root ^ ·)) fftEvals))
    | none => .error (.rootOfUnityError order)

/-- The interpolant has at most one coefficient per value. -/
theorem length_interpolateFft_le {fftEvals : List F} {p : Polynomial F}
    (interpolated : interpolateFft fftEvals = .ok p) : p.coefficients.length ≤ fftEvals.length := by
  -- Every branch that returns interpolates through one node per value.
  unfold interpolateFft at interpolated
  dsimp only at interpolated
  split_ifs at interpolated
  split at interpolated
  · cases interpolated
    exact (Polynomial.length_new_le _).trans
      ((length_newtonCoefficients_le _ _).trans (by simp))
  · cases interpolated

/-- The interpolant takes the `i`-th value at the `i`-th power of the root of the values' order. -/
theorem evaluate_interpolateFft {fftEvals : List F} {p : Polynomial F}
    (interpolated : interpolateFft fftEvals = .ok p) (i : Nat) (within : i < fftEvals.length) :
    p.evaluate (primitiveRoot (trailingZeros fftEvals.length) ^ i) = fftEvals[i] := by
  -- The nodes are distinct powers of a primitive root, so Newton's interpolant goes through them.
  unfold interpolateFft at interpolated
  dsimp only at interpolated
  split_ifs at interpolated with power
  split at interpolated
  · rename_i root found
    cases interpolated
    have fits : trailingZeros fftEvals.length ≤ IsFFTField.twoAdicity F := by
      by_contra exceeds
      rw [getPrimitiveRootOfUnity_of_lt (Nat.lt_of_not_le exceeds)] at found
      cases found
    rw [getPrimitiveRootOfUnity_of_le fits] at found
    cases found
    have primitive := primitiveRoot_isPrimitiveRoot (F := F) fits
    rw [not_not] at power
    have distinct : ((List.range fftEvals.length).map (primitiveRoot (F := F)
        (trailingZeros fftEvals.length) ^ ·)).Nodup := by
      refine (List.nodup_range _).map_on fun a below b below' same => ?_
      rw [List.mem_range] at below below'
      exact primitive.pow_inj (power ▸ below) (power ▸ below') same
    have pair : (primitiveRoot (trailingZeros fftEvals.length) ^ i, fftEvals[i]) ∈
        ((List.range fftEvals.length).map (primitiveRoot (F := F)
          (trailingZeros fftEvals.length) ^ ·)).zip fftEvals := by
      have bound : i < (((List.range fftEvals.length).map (primitiveRoot (F := F)
          (trailingZeros fftEvals.length) ^ ·)).zip fftEvals).length := by simp [within]
      simpa using List.getElem_mem bound
    simpa [Polynomial.evaluate_eq_horner] using horner_newtonCoefficients distinct _ pair
  · cases interpolated

end Interpolation

/-- Modelled from the spec: `TraceTable`, in `air/trace.rs`, the trace as a list of columns in
order, each the column's values by row. -/
structure TraceTable (F : Type) where
  /-- `cols()`: the columns. -/
  cols : List (List F)

namespace TraceTable

variable {F : Type}

/-- Modelled from the spec: `TraceTable::new_from_cols(cols)`. -/
def newFromCols (cols : List (List F)) : TraceTable F := ⟨cols⟩

/-- Modelled from the spec: `is_empty()`, a table without columns. -/
def isEmpty (table : TraceTable F) : Bool := table.cols.isEmpty

/-- Modelled from the spec: `get_row(row_idx)`, the values of every column at one row; reading
past the end of a column panics. -/
def getRow (table : TraceTable F) (rowIdx : Nat) : Option (List F) :=
  table.cols.mapM (·[rowIdx]?)

/-- Modelled from the spec: `compute_trace_polys()`, the interpolant of each column in order,
unwrapping the FFT engine's result. -/
def computeTracePolys [Field F] [DecidableEq F] [IsFFTField F] (table : TraceTable F) :
    Option (List (Polynomial F)) :=
  unwrap (table.cols.mapM interpolateFft)

@[simp] theorem cols_newFromCols (cols : List (List F)) : (newFromCols cols).cols = cols := rfl

/-- A row inside every column reads each column at that row. -/
theorem getRow_of_lt {table : TraceTable F} {rowIdx : Nat} (fallback : F)
    (within : ∀ col ∈ table.cols, rowIdx < col.length) :
    table.getRow rowIdx = some (table.cols.map fun col => col.getD rowIdx fallback) :=
  mapM_of_forall fun col member => by simp [within col member]

/-- One polynomial per column, each with at most as many coefficients as the column has rows. -/
theorem computeTracePolys_spec [Field F] [DecidableEq F] [IsFFTField F] {table : TraceTable F}
    {polys : List (Polynomial F)} (computed : table.computeTracePolys = some polys) :
    List.Forall₂ (fun col (poly : Polynomial F) => interpolateFft col = .ok poly) table.cols polys :=
  mapM_eq_ok.mp (unwrap_eq_some.mp computed)

/-- A trace polynomial has no more coefficients than its column has rows. -/
theorem length_computeTracePolys_le [Field F] [DecidableEq F] [IsFFTField F] {table : TraceTable F}
    {polys : List (Polynomial F)} (computed : table.computeTracePolys = some polys) {rows : Nat}
    (uniform : ∀ col ∈ table.cols, col.length = rows) :
    ∀ p ∈ polys, p.coefficients.length ≤ rows := by
  -- Each polynomial interpolates its own column, which has `rows` values.
  have related := computeTracePolys_spec computed
  clear computed
  generalize table.cols = cols at related uniform
  induction related with
  | nil => simp
  | cons interpolated _ ih =>
    rw [List.forall_mem_cons] at uniform ⊢
    exact ⟨(length_interpolateFft_le interpolated).trans_eq uniform.1, ih uniform.2⟩

end TraceTable

/-- Modelled from the spec: `Frame`, in `air/frame.rs`, out-of-domain values stored row after
row, `rowWidth` to a row. -/
structure Frame (F : Type) where
  /-- The values, row after row. -/
  data : List F
  /-- `row_width`. -/
  rowWidth : Nat
  deriving DecidableEq, Repr

namespace Frame

variable {F : Type}

/-- Modelled from the spec: `Frame::new(data, row_width)`. -/
def new (data : List F) (rowWidth : Nat) : Frame F := ⟨data, rowWidth⟩

/-- Modelled from the spec: `num_rows()`, which divides by the row width and so panics on a
width of zero. -/
def numRows (frame : Frame F) : Option Nat :=
  if frame.rowWidth = 0 then none else some (frame.data.length / frame.rowWidth)

/-- Modelled from the spec: `get_row(row_idx)`, the slice of one row, which panics past the end. -/
def getRow (frame : Frame F) (rowIdx : Nat) : Option (List F) :=
  if (rowIdx + 1) * frame.rowWidth ≤ frame.data.length then
    some ((frame.data.drop (rowIdx * frame.rowWidth)).take frame.rowWidth)
  else none

/-- Modelled from the spec: `Frame::get_trace_evaluations(trace_polys, x, frame_offsets,
primitive_root)`, one row per offset `k` holding every trace polynomial at `x · g^k`. -/
def getTraceEvaluations [Field F] [DecidableEq F] (tracePolys : List (Polynomial F)) (x : F)
    (frameOffsets : List Nat) (primitiveRoot : F) : List (List F) :=
  frameOffsets.map fun offset => tracePolys.map fun poly => poly.evaluate (x * primitiveRoot ^ offset)

@[simp] theorem data_new (data : List F) (rowWidth : Nat) : (new data rowWidth).data = data := rfl

@[simp] theorem rowWidth_new (data : List F) (rowWidth : Nat) :
    (new data rowWidth).rowWidth = rowWidth := rfl

/-- A frame of rows of one positive width has as many rows as were flattened into it. -/
theorem numRows_new {rows : List (List F)} {width : Nat} (positive : 0 < width)
    (uniform : ∀ row ∈ rows, row.length = width) :
    (new rows.flatten width).numRows = some rows.length := by
  -- The data holds `width` values per row.
  have total : rows.flatten.length = rows.length * width := by
    rw [List.length_flatten, List.map_congr_left uniform, List.map_const', List.sum_replicate,
      smul_eq_mul]
  simp [numRows, positive.ne', total, Nat.mul_div_cancel _ positive]

/-- Reading a row of a flattened frame gives that row back. -/
theorem getRow_new {rows : List (List F)} {width : Nat} (uniform : ∀ row ∈ rows, row.length = width)
    {rowIdx : Nat} (within : rowIdx < rows.length) :
    (new rows.flatten width).getRow rowIdx = some rows[rowIdx] := by
  -- The rows before `rowIdx` take `rowIdx · width` values, and the row itself the next `width`.
  induction rows generalizing rowIdx with
  | nil => cases within
  | cons row rows ih =>
    have width_row := uniform row (List.mem_cons_self row rows)
    have rest := fun other member => uniform other (List.mem_cons_of_mem row member)
    cases rowIdx with
    | zero => simp [getRow, width_row]
    | succ rowIdx =>
      have inner := ih rest (by simpa using within)
      simp only [getRow, new, List.flatten_cons, List.length_append] at inner ⊢
      split_ifs at inner with fits
      · rw [if_pos (by rw [width_row]; simp only [Nat.add_mul, Nat.one_mul] at fits ⊢; omega)]
        have past : row.length ≤ rowIdx * width + width := by omega
        simpa [Nat.add_mul, width_row, List.drop_append_eq_append_drop,
          List.drop_eq_nil_of_le past] using inner

end Frame

end StarkProver
