import StarkProver.Air.Context
import StarkProver.Math.Fft

/-! The trace domain and the low-degree-extension coset, and which points stay off the coset. -/

namespace StarkProver

open IsFFTField

/--
Modelled from the spec: `Domain`, which `Domain::new` builds from the AIR context in the crate
root, not under src/.

The trace has `2 ^ rootOrder` rows and the blowup factor is `2 ^ blowupOrder`. The
low-degree-extension domain is the coset `cosetOffset · ⟨ω⟩` of `2 ^ (rootOrder + blowupOrder)`
points, `ω` the primitive root of that order, and the trace's primitive root is `ω` raised to
the blowup factor.
-/
structure Domain (F : Type) [Field F] [IsFFTField F] where
  /-- `root_order`: the base-2 logarithm of the trace length. -/
  rootOrder : Nat
  /-- The base-2 logarithm of the blowup factor. -/
  blowupOrder : Nat
  /-- `coset_offset`. -/
  cosetOffset : F
  /-- The field has a root of unity of the extended domain's order. -/
  fits : rootOrder + blowupOrder ≤ twoAdicity F

namespace Domain

variable {F : Type} [Field F] [IsFFTField F] (domain : Domain F)

/-- `lde_root_order`: the base-2 logarithm of the extended domain's size. -/
def ldeRootOrder : Nat := domain.rootOrder + domain.blowupOrder

/-- `interpolation_domain_size`: the trace length. -/
def interpolationDomainSize : Nat := 2 ^ domain.rootOrder

/-- `blowup_factor`. -/
def blowupFactor : Nat := 2 ^ domain.blowupOrder

/-- The primitive root of unity of the extended domain's order. -/
def ldePrimitiveRoot : F := primitiveRoot domain.ldeRootOrder

/-- `lde_roots_of_unity_coset`: the points `cosetOffset · ω^i`. -/
def ldeRootsOfUnityCoset : List F :=
  (List.range (2 ^ domain.ldeRootOrder)).map fun i => domain.cosetOffset * domain.ldePrimitiveRoot ^ i

/-- `trace_primitive_root`: the extended domain's root raised to the blowup factor. -/
def tracePrimitiveRoot : F := domain.ldePrimitiveRoot ^ domain.blowupFactor

/-- `trace_roots_of_unity`: the powers of the trace's primitive root. -/
def traceRootsOfUnity : List F :=
  (List.range domain.interpolationDomainSize).map fun i => domain.tracePrimitiveRoot ^ i

@[simp] theorem length_ldeRootsOfUnityCoset :
    domain.ldeRootsOfUnityCoset.length = 2 ^ domain.ldeRootOrder := by
  simp [ldeRootsOfUnityCoset]

/-- The extended domain has `blowupFactor` points per trace row. -/
theorem ldeSize_eq : 2 ^ domain.ldeRootOrder = domain.interpolationDomainSize * domain.blowupFactor :=
  pow_add 2 domain.rootOrder domain.blowupOrder

theorem getElem_ldeRootsOfUnityCoset {i : Nat} (within : i < domain.ldeRootsOfUnityCoset.length) :
    domain.ldeRootsOfUnityCoset[i] = domain.cosetOffset * domain.ldePrimitiveRoot ^ i := by
  simp [ldeRootsOfUnityCoset]

theorem mem_ldeRootsOfUnityCoset {x : F} : x ∈ domain.ldeRootsOfUnityCoset ↔
    ∃ i < 2 ^ domain.ldeRootOrder, domain.cosetOffset * domain.ldePrimitiveRoot ^ i = x := by
  simp [ldeRootsOfUnityCoset]

theorem ldePrimitiveRoot_isPrimitiveRoot :
    IsPrimitiveRoot domain.ldePrimitiveRoot (2 ^ domain.ldeRootOrder) :=
  primitiveRoot_isPrimitiveRoot domain.fits

/-- Powers of the extended domain's root repeat with the domain's size. -/
theorem ldePrimitiveRoot_pow_mod (n : Nat) :
    domain.ldePrimitiveRoot ^ n = domain.ldePrimitiveRoot ^ (n % 2 ^ domain.ldeRootOrder) :=
  pow_eq_pow_mod n domain.ldePrimitiveRoot_isPrimitiveRoot.pow_eq_one

/-- Multiplying a point of the coset by a power of its root stays on the coset. -/
theorem mul_pow_mem {x : F} (member : x ∈ domain.ldeRootsOfUnityCoset) (n : Nat) :
    x * domain.ldePrimitiveRoot ^ n ∈ domain.ldeRootsOfUnityCoset := by
  -- Multiplying by `ω^n` shifts the exponent, taken modulo the domain size.
  obtain ⟨i, -, rfl⟩ := domain.mem_ldeRootsOfUnityCoset.mp member
  refine domain.mem_ldeRootsOfUnityCoset.mpr ⟨(i + n) % 2 ^ domain.ldeRootOrder,
    Nat.mod_lt _ (by positivity), ?_⟩
  rw [← ldePrimitiveRoot_pow_mod, pow_add, mul_assoc]

/-- The trace's root is a power of the extended domain's root. -/
theorem tracePrimitiveRoot_pow (k : Nat) :
    domain.tracePrimitiveRoot ^ k = domain.ldePrimitiveRoot ^ (domain.blowupFactor * k) := by
  rw [tracePrimitiveRoot, ← pow_mul]

/-- A point off the coset stays off it after any shift by a power of the trace's root: no point
`x` of the coset is `z · g^k`. -/
theorem ne_mul_tracePrimitiveRoot_pow {z x : F} (outside : z ∉ domain.ldeRootsOfUnityCoset)
    (member : x ∈ domain.ldeRootsOfUnityCoset) (k : Nat) : x ≠ z * domain.tracePrimitiveRoot ^ k := by
  -- Shifting back by the inverse power `ω^(bk·(n-1))` would put `z` on the coset.
  intro shifted
  apply outside
  have back := domain.mul_pow_mem member
    (domain.blowupFactor * k * (2 ^ domain.ldeRootOrder - 1))
  have unit : domain.ldePrimitiveRoot ^ (domain.blowupFactor * k) *
      domain.ldePrimitiveRoot ^ (domain.blowupFactor * k * (2 ^ domain.ldeRootOrder - 1)) = 1 := by
    rw [← pow_add, show domain.blowupFactor * k + domain.blowupFactor * k *
        (2 ^ domain.ldeRootOrder - 1) = 2 ^ domain.ldeRootOrder * (domain.blowupFactor * k) by
      have positive : 0 < 2 ^ domain.ldeRootOrder := by positivity
      rw [Nat.mul_sub, Nat.mul_one, Nat.mul_comm (2 ^ _)]
      have : domain.blowupFactor * k ≤ domain.blowupFactor * k * 2 ^ domain.ldeRootOrder :=
        Nat.le_mul_of_pos_right _ positive
      omega]
    rw [pow_mul, domain.ldePrimitiveRoot_isPrimitiveRoot.pow_eq_one, one_pow]
  rwa [shifted, tracePrimitiveRoot_pow, mul_assoc, unit, mul_one] at back

/-- With a nonzero offset the coset has no repeated point. -/
theorem ldeRootsOfUnityCoset_nodup (nonzero : domain.cosetOffset ≠ 0) :
    domain.ldeRootsOfUnityCoset.Nodup := by
  -- Distinct powers of the primitive root stay distinct after the nonzero shift.
  apply (List.nodup_range _).map_on
  intro i below j below' same
  rw [List.mem_range] at below below'
  exact domain.ldePrimitiveRoot_isPrimitiveRoot.pow_inj below below'
    (mul_left_cancel₀ nonzero same)

end Domain

section Construction

variable {F : Type} [Field F] [IsFFTField F]

/--
Modelled from the spec: `Domain::new(air)`, from the trace length, the blowup factor and the coset
offset of the AIR context.

It fails when the trace length or the blowup factor is not a power of two, or when the field has
no root of unity of the extended domain's order.
-/
def Domain.new (context : AirContext) : Option (Domain F) :=
  let rootOrder := trailingZeros context.traceLength
  let blowupOrder := trailingZeros context.options.blowupFactor.toNat
  if valid : context.traceLength = 2 ^ rootOrder ∧
      context.options.blowupFactor.toNat = 2 ^ blowupOrder ∧ rootOrder + blowupOrder ≤ twoAdicity F
  then some ⟨rootOrder, blowupOrder, (context.options.cosetOffset.toNat : F), valid.2.2⟩
  else none

/-- A domain built from a context keeps the context's trace length and blowup factor. -/
theorem Domain.new_sizes {context : AirContext} {domain : Domain F}
    (built : Domain.new context = some domain) :
    domain.interpolationDomainSize = context.traceLength ∧
      domain.blowupFactor = context.options.blowupFactor.toNat ∧
      domain.cosetOffset = (context.options.cosetOffset.toNat : F) := by
  -- The only branch that returns builds the domain from the context's own sizes.
  unfold Domain.new at built
  dsimp only at built
  split at built
  · rename_i valid
    cases built
    exact ⟨valid.1.symm, valid.2.1.symm, rfl⟩
  · cases built

end Construction

end StarkProver
