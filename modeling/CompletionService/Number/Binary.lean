/-!
# Binary floating point, exactly

A finite number of a binary format is a sign and a whole number of *units*, where the unit is the
least positive number of the format. Three layers:

* formats — `Format`, with the two that are used, `binary32` and `binary64`, and the predicate
  `Format.Representable` on counts of units;
* rounding — `Format.nearest`, which takes any non-negative fraction to the representable count
  next to it, ties to the even significand;
* numbers — `Finite` and `Binary`, which adds the two infinities, and the operations on them, each
  one rounding of an exact result.

Widening multiplies the count of units and narrowing rounds it, so narrowing after widening gives
the number back (`Finite.convert_convert`).
-/

namespace CompletionService.Number

-- a power is that of the core library, whatever else is imported
attribute [local instance (high)] instPowNat

/-! ## Formats -/

/-- A binary format, by what bounds its finite numbers. -/
structure Format where
  /-- the number of bits of a significand -/
  precision : Nat
  /-- the unit is `2 ^ -scale` -/
  scale : Nat
  /-- every magnitude is below `2 ^ range` units -/
  range : Nat
  precision_pos : 0 < precision
  deriving DecidableEq

/-- Single precision. -/
def binary32 : Format := ⟨24, 149, 277, by decide⟩

/-- Double precision. -/
def binary64 : Format := ⟨53, 1074, 2098, by decide⟩

namespace Format

variable (f : Format)

/-- The exponent of the spacing, in units, of the numbers as large as `units`. -/
def gap (units : Nat) : Nat := units.log2 + 1 - f.precision

/-- Such a count of units is the magnitude of a finite number. -/
def Representable (units : Nat) : Prop := 2 ^ f.gap units ∣ units ∧ units < 2 ^ f.range

instance (units : Nat) : Decidable (f.Representable units) := by
  unfold Representable
  infer_instance

/-- Zero is a number of every format. -/
theorem representable_zero : f.Representable 0 :=
  ⟨Nat.dvd_zero _, Nat.two_pow_pos _⟩

/-- The spacing at a count is at most `2 ^ k` when the count has at most `precision` bits above
bit `k`. -/
theorem gap_le {units k : Nat} (h : units < 2 ^ (f.precision + k)) : f.gap units ≤ k := by
  unfold gap
  by_cases h0 : units = 0
  · subst h0
    have := f.precision_pos
    simp
    omega
  · have := (Nat.log2_lt h0).2 h
    omega

end Format

/-! ## Rounding -/

/-- The whole number next to a fraction, the even one of two that are equally near. -/
def nearestEven (num den : Nat) : Nat :=
  let q := num / den
  let r := num % den
  if 2 * r < den ∨ (2 * r = den ∧ q % 2 = 0) then q else q + 1

/-- A whole fraction is its own nearest number. -/
theorem nearestEven_mul_right (n : Nat) {den : Nat} (h : 0 < den) :
    nearestEven (n * den) den = n := by
  simp [nearestEven, Nat.mul_div_cancel _ h, h]

/-- What is below a whole number is rounded to at most that. -/
theorem nearestEven_le {num den k : Nat} (h : num < k * den) : nearestEven num den ≤ k := by
  have hq : num / den < k := by
    apply Nat.div_lt_of_lt_mul
    rwa [Nat.mul_comm]
  unfold nearestEven
  simp only
  split <;> omega

namespace Format

variable (f : Format)

/-- The representable count next to the fraction `num / den` of units, ties to the even
significand; it may lie beyond the range. -/
def nearest (num den : Nat) : Nat :=
  let spacing := 2 ^ f.gap (num / den)
  nearestEven num (den * spacing) * spacing

/-- A rounded count is a multiple of the spacing at its own size. -/
theorem gap_nearest_dvd (num den : Nat) : 2 ^ f.gap (f.nearest num den) ∣ f.nearest num den := by
  by_cases hd : den = 0
  · subst hd
    have hp := f.precision_pos
    have hz : f.gap 0 = 0 := by simp [gap]; omega
    have ho : f.gap 1 = 0 := by
      have h1 : Nat.log2 1 = 0 := by decide
      simp only [gap, h1]
      omega
    simp only [nearest, nearestEven, Nat.div_zero, Nat.zero_mul, hz]
    split <;> simp [hz, ho]
  · have hd : 0 < den := Nat.pos_of_ne_zero hd
    let g := f.gap (num / den)
    let m := nearestEven num (den * 2 ^ g)
    have hn : f.nearest num den = m * 2 ^ g := rfl
    have hm : m ≤ 2 ^ f.precision := by
      apply nearestEven_le
      have hq : num / den < 2 ^ (f.precision + g) := by
        have hg : g = (num / den).log2 + 1 - f.precision := rfl
        exact Nat.lt_of_lt_of_le Nat.lt_log2_self
          (Nat.pow_le_pow_right (by decide) (by omega))
      have : num < den * 2 ^ (f.precision + g) := by
        rw [Nat.mul_comm]
        exact (Nat.div_lt_iff_lt_mul hd).1 hq
      calc num < den * 2 ^ (f.precision + g) := this
        _ = 2 ^ f.precision * (den * 2 ^ g) := by
          rw [Nat.pow_add, ← Nat.mul_assoc, ← Nat.mul_assoc, Nat.mul_comm den]
    rw [hn]
    rcases Nat.lt_or_eq_of_le hm with hlt | heq
    · refine Nat.dvd_trans (Nat.pow_dvd_pow 2 (f.gap_le ?_)) (Nat.dvd_mul_left _ _)
      rw [Nat.pow_add]
      exact Nat.mul_lt_mul_of_pos_right hlt (Nat.two_pow_pos _)
    · have hp := f.precision_pos
      rw [heq, ← Nat.pow_add]
      refine Nat.pow_dvd_pow 2 ?_
      unfold gap
      rw [Nat.log2_two_pow]
      omega

/-- A representable count of units is its own nearest one. -/
theorem nearest_mul_right {units den : Nat} (hu : f.Representable units) (hd : 0 < den) :
    f.nearest (units * den) den = units := by
  obtain ⟨k, hk⟩ := hu.1
  unfold nearest
  simp only [Nat.mul_div_cancel _ hd]
  have : units * den = k * (den * 2 ^ f.gap units) := by
    conv => lhs; rw [hk]
    rw [Nat.mul_comm (2 ^ _) k, Nat.mul_assoc, Nat.mul_comm (2 ^ _) den]
  rw [this, nearestEven_mul_right _ (Nat.mul_pos hd (Nat.two_pow_pos _)), Nat.mul_comm]
  exact hk.symm

end Format

/-! ## Numbers -/

/-- A finite number of a format, the two zeros kept apart. -/
structure Finite (f : Format) where
  negative : Bool
  units : Nat
  representable : f.Representable units
  deriving DecidableEq

/-- A number of a format: finite, or an infinity. -/
inductive Binary (f : Format)
  | finite (x : Finite f)
  | infinite (negative : Bool)
  deriving DecidableEq

namespace Binary

variable {f : Format}

/-- The number next to the fraction `num / den` of units, with the given sign; infinite when that
lies beyond the range. -/
def round (f : Format) (negative : Bool) (num den : Nat) : Binary f :=
  if h : f.nearest num den < 2 ^ f.range then
    .finite ⟨negative, f.nearest num den, f.gap_nearest_dvd num den, h⟩
  else .infinite negative

/-- The number next to a whole number. -/
def ofInt (f : Format) (n : Int) : Binary f := round f (n < 0) (n.natAbs * 2 ^ f.scale) 1

/-- The number next to `digits * 10 ^ exponent`. -/
def ofDecimal (f : Format) (negative : Bool) (digits : Nat) (exponent : Int) : Binary f :=
  match exponent with
  | .ofNat e => round f negative (digits * 10 ^ e * 2 ^ f.scale) 1
  | .negSucc e => round f negative (digits * 2 ^ f.scale) (10 ^ (e + 1))

/-- The finite number, if it is one. -/
def finite? : Binary f → Option (Finite f)
  | .finite x => some x
  | .infinite _ => none

end Binary

namespace Finite

variable {f : Format}

/-- Positive zero. -/
def zero (f : Format) : Finite f := ⟨false, 0, f.representable_zero⟩

instance : Inhabited (Finite f) := ⟨zero f⟩

/-- The rounded product. -/
def mul (x y : Finite f) : Binary f :=
  .round f (x.negative != y.negative) (x.units * y.units) (2 ^ f.scale)

/-- The rounded quotient; the divisor is not zero. -/
def div (x y : Finite f) : Binary f :=
  .round f (x.negative != y.negative) (x.units * 2 ^ f.scale) y.units

/-- The number of another format next to this one. -/
def convert (x : Finite f) (g : Format) : Binary g :=
  .round g x.negative (x.units * 2 ^ g.scale) (2 ^ f.scale)

/-- A unit of single precision is `2 ^ widening` units of double precision. -/
def widening : Nat := binary64.scale - binary32.scale

/-- Widening is exact. -/
theorem convert_binary64 (x : Finite binary32) :
    ∃ y : Finite binary64, x.convert binary64 = .finite y ∧ y.negative = x.negative ∧
      y.units = x.units * 2 ^ widening := by
  have hr : binary64.Representable (x.units * 2 ^ widening) := by
    obtain ⟨hd, hlt⟩ := x.representable
    constructor
    · by_cases h0 : x.units = 0
      · simp [h0]
      · have hg : binary64.gap (x.units * 2 ^ widening) ≤ binary32.gap x.units + widening := by
          apply Format.gap_le
          have : x.units < 2 ^ (x.units.log2 + 1) := Nat.lt_log2_self
          refine Nat.lt_of_lt_of_le (Nat.mul_lt_mul_of_pos_right this (Nat.two_pow_pos _)) ?_
          rw [← Nat.pow_add]
          refine Nat.pow_le_pow_right (by decide) ?_
          simp only [Format.gap, widening, binary32, binary64]
          omega
        refine Nat.dvd_trans (Nat.pow_dvd_pow 2 hg) ?_
        rw [Nat.pow_add]
        exact Nat.mul_dvd_mul_right hd _
    · have : 2 ^ binary64.range = 2 ^ (binary64.range - widening) * 2 ^ widening := by
        rw [← Nat.pow_add, show binary64.range - widening + widening = binary64.range by decide]
      rw [this]
      refine Nat.mul_lt_mul_of_pos_right (Nat.lt_of_lt_of_le hlt ?_) (Nat.two_pow_pos _)
      exact Nat.pow_le_pow_right (by decide) (by decide)
  have hn : binary64.nearest (x.units * 2 ^ binary64.scale) (2 ^ binary32.scale) =
      x.units * 2 ^ widening := by
    have : x.units * 2 ^ binary64.scale = x.units * 2 ^ widening * 2 ^ binary32.scale := by
      rw [Nat.mul_assoc, ← Nat.pow_add, show widening + binary32.scale = binary64.scale by decide]
    rw [this, Format.nearest_mul_right _ hr (Nat.two_pow_pos _)]
  refine ⟨⟨x.negative, x.units * 2 ^ widening, hr⟩, ?_, rfl, rfl⟩
  simp only [convert, Binary.round, hn]
  rw [dif_pos hr.2]

/-- **Narrowing after widening** gives the number back. -/
theorem convert_convert {x : Finite binary32} {y : Finite binary64}
    (h : x.convert binary64 = .finite y) : y.convert binary32 = .finite x := by
  obtain ⟨z, hz, hneg, hunits⟩ := convert_binary64 x
  rw [hz, Binary.finite.injEq] at h
  subst h
  have hn : binary32.nearest (z.units * 2 ^ binary32.scale) (2 ^ binary64.scale) = x.units := by
    have : z.units * 2 ^ binary32.scale = x.units * 2 ^ binary64.scale := by
      rw [hunits, Nat.mul_assoc, ← Nat.pow_add,
        show widening + binary32.scale = binary64.scale by decide]
    rw [this, Format.nearest_mul_right _ x.representable (Nat.two_pow_pos _)]
  simp only [convert, Binary.round, hn, hneg]
  rw [dif_pos x.representable.2]

end Finite

end CompletionService.Number
