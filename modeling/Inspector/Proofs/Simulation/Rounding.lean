import Mathlib.Algebra.Order.Field.Basic
import Mathlib.Algebra.Order.Field.Power
import Mathlib.Algebra.Order.Ring.Abs
import Mathlib.Data.Rat.Cast.Order
import Mathlib.Tactic.FieldSimp
import Mathlib.Tactic.Linarith
import Mathlib.Tactic.Positivity
import Mathlib.Tactic.Ring
import Inspector.Simulation.Program.Extended.Basic

/-!
# Rounding to extended precision

Numbers of extended precision stand for rational numbers. `Rounds` says that one of them is nearest
to a given size, and that of two nearest ones it is the even one. Every quotient is rounded so
(`rounds_ofQuotient`), and with it the exact results of sums and products (`rounds_add`,
`rounds_mul`). Comparisons are exact (`isBelow_iff`).
-/

namespace Inspector.Program.Extended

/-! ## Quotients of whole numbers -/

section

variable {num den : Nat}

/-- A whole number nearest to a quotient is half of one away from it at most, and if it is half of
one away, it is even. -/
theorem nearestQuotient_close (pos : 0 < den) :
    |(num : ℚ) / den - nearestQuotient num den| ≤ 1 / 2 ∧
      (|(num : ℚ) / den - nearestQuotient num den| = 1 / 2 →
        nearestQuotient num den % 2 = 0) := by
  have positive : (0 : ℚ) < den := by exact_mod_cast pos
  have parts : (num : ℚ) / den = (num / den : Nat) + ((num % den : Nat) : ℚ) / den := by
    rw [div_eq_iff positive.ne', add_mul, div_mul_cancel₀ _ positive.ne']
    exact_mod_cast (Nat.div_add_mod' num den).symm
  have small : ((num % den : Nat) : ℚ) / den < 1 :=
    (div_lt_one positive).2 (by exact_mod_cast Nat.mod_lt num pos)
  have least : 0 ≤ ((num % den : Nat) : ℚ) / den := by positivity
  have half (rest : Nat) : (rest : ℚ) / den ≤ 1 / 2 ↔ 2 * rest ≤ den := by
    rw [div_le_div_iff₀ positive two_pos, one_mul, mul_comm]
    exact_mod_cast Iff.rfl
  have half' (rest : Nat) : 1 / 2 ≤ (rest : ℚ) / den ↔ den ≤ 2 * rest := by
    rw [div_le_div_iff₀ two_pos positive, one_mul, mul_comm]
    exact_mod_cast Iff.rfl
  rw [nearestQuotient, parts]
  split
  · rename_i up
    have above : 1 / 2 ≤ ((num % den : Nat) : ℚ) / den := (half' _).2 (by omega)
    have size : |((num / den : Nat) : ℚ) + ((num % den : Nat) : ℚ) / den -
        ((num / den + 1 : Nat) : ℚ)| = 1 - ((num % den : Nat) : ℚ) / den := by
      rw [abs_of_nonpos] <;> push_cast <;> linarith
    rw [size]
    refine ⟨by linarith, fun tie => ?_⟩
    have below := (half (num % den)).1 (by linarith)
    omega
  · rename_i down
    have below : ((num % den : Nat) : ℚ) / den ≤ 1 / 2 := (half _).2 (by omega)
    have size : |((num / den : Nat) : ℚ) + ((num % den : Nat) : ℚ) / den -
        ((num / den : Nat) : ℚ)| = ((num % den : Nat) : ℚ) / den := by
      rw [add_sub_cancel_left, abs_of_nonneg least]
    rw [size]
    refine ⟨below, fun tie => ?_⟩
    have above := (half' (num % den)).1 tie.ge
    omega

/-- No whole number is nearer, and if another one is as near, the one that is taken is even. -/
theorem nearestQuotient_nearest (pos : 0 < den) (n : Nat) :
    |(num : ℚ) / den - nearestQuotient num den| ≤ |(num : ℚ) / den - n| ∧
      (|(num : ℚ) / den - nearestQuotient num den| = |(num : ℚ) / den - n| →
        n = nearestQuotient num den ∨ nearestQuotient num den % 2 = 0) := by
  obtain ⟨close, tie⟩ := @nearestQuotient_close num _ pos
  by_cases same : n = nearestQuotient num den
  · rw [same]
    exact ⟨le_rfl, fun _ => .inl rfl⟩
  · have apart : (1 : ℚ) ≤ |(nearestQuotient num den : ℚ) - n| := by
      have differ : (1 : ℤ) ≤ |(nearestQuotient num den : ℤ) - n| :=
        Int.one_le_abs (by omega)
      exact_mod_cast differ
    have between := abs_sub_le (nearestQuotient num den : ℚ) ((num : ℚ) / den) n
    rw [abs_sub_comm _ ((num : ℚ) / den)] at between
    exact ⟨by linarith, fun equal => .inr (tie (by linarith))⟩

end

/-! ## Powers of two -/

theorem asQuotient_pos (n : Nat) (exponent : Int) : 0 < (asQuotient n exponent).2 := by
  simp [asQuotient, Nat.shiftLeft_eq]

theorem asQuotient_div (n : Nat) (exponent : Int) :
    ((asQuotient n exponent).1 : ℚ) / (asQuotient n exponent).2 = n * 2 ^ exponent := by
  have toPower : (2 : ℚ) ^ exponent = 2 ^ exponent.toNat / 2 ^ (-exponent).toNat := by
    rw [eq_div_iff (by positivity), ← zpow_natCast, ← zpow_natCast, ← zpow_add₀ two_ne_zero]
    congr 1
    omega
  simp only [asQuotient, Nat.shiftLeft_eq, Nat.cast_mul, Nat.cast_pow, Nat.cast_ofNat, one_mul]
  rw [toPower, mul_div_assoc]

theorem log2_bounds {n : Nat} (pos : 0 < n) :
    (2 : ℚ) ^ (n.log2 : ℤ) ≤ n ∧ (n : ℚ) < 2 ^ ((n.log2 : ℤ) + 1) := by
  have low := Nat.log2_self_le pos.ne'
  have high := @Nat.lt_log2_self n
  exact ⟨by exact_mod_cast low, by exact_mod_cast high⟩

/-- The quotient lies between the power of two and the next one. -/
theorem binaryMagnitude_bounds {num den : Nat} (num_pos : 0 < num) (den_pos : 0 < den) :
    (2 : ℚ) ^ binaryMagnitude num den ≤ num / den ∧
      (num : ℚ) / den < 2 ^ (binaryMagnitude num den + 1) := by
  have positive : (0 : ℚ) < den := by exact_mod_cast den_pos
  obtain ⟨num_low, num_high⟩ := log2_bounds num_pos
  obtain ⟨den_low, den_high⟩ := log2_bounds den_pos
  -- the guess from the lengths of both numbers is the magnitude or one more
  have above : (num : ℚ) / den < 2 ^ ((num.log2 : ℤ) - den.log2 + 1) := by
    rw [div_lt_iff₀ positive]
    calc (num : ℚ) < 2 ^ ((num.log2 : ℤ) + 1) := num_high
      _ = 2 ^ ((num.log2 : ℤ) - den.log2 + 1) * 2 ^ (den.log2 : ℤ) := by
        rw [← zpow_add₀ two_ne_zero]
        congr 1
        ring
      _ ≤ _ := by gcongr
  have below : (2 : ℚ) ^ ((num.log2 : ℤ) - den.log2 - 1) ≤ num / den := by
    rw [le_div_iff₀ positive]
    calc (2 : ℚ) ^ ((num.log2 : ℤ) - den.log2 - 1) * den
        ≤ 2 ^ ((num.log2 : ℤ) - den.log2 - 1) * 2 ^ ((den.log2 : ℤ) + 1) := by gcongr
      _ = 2 ^ (num.log2 : ℤ) := by
        rw [← zpow_add₀ two_ne_zero]
        congr 1
        ring
      _ ≤ _ := num_low
  have asked : den * (asQuotient 1 ((num.log2 : ℤ) - den.log2)).1 ≤
      num * (asQuotient 1 ((num.log2 : ℤ) - den.log2)).2 ↔
        (2 : ℚ) ^ ((num.log2 : ℤ) - den.log2) ≤ num / den := by
    have low := asQuotient_div 1 ((num.log2 : ℤ) - den.log2)
    have high : (0 : ℚ) < (asQuotient 1 ((num.log2 : ℤ) - den.log2)).2 := by
      exact_mod_cast asQuotient_pos ..
    rw [Nat.cast_one, one_mul] at low
    rw [← low, div_le_div_iff₀ high positive, mul_comm]
    exact_mod_cast Iff.rfl
  rw [binaryMagnitude]
  dsimp only
  rw [if_congr asked rfl rfl]
  split
  · exact ⟨‹_›, above⟩
  · rename_i less
    refine ⟨below, ?_⟩
    rw [sub_add_cancel]
    exact not_le.1 less

/-! ## Rounding -/

/-- The size of a number with this significand and exponent. -/
def size (significand : Nat) (exponent : Int) : ℚ := significand * 2 ^ exponent

/-- Of all numbers with so many bits, and with no bound on how large they are, this one is nearest
to the given size; no other one is as near unless this one is even. -/
structure IsNearest (x : ℚ) (significand : Nat) (exponent : Int) : Prop where
  bits : significand < 2 ^ precision
  least : minExponent ≤ exponent
  /-- The significand uses all its bits but for the smallest numbers. -/
  full : minExponent < exponent → 2 ^ (precision - 1) ≤ significand
  nearest : ∀ s e, s < 2 ^ precision → minExponent ≤ e →
    |x - size significand exponent| ≤ |x - size s e|
  even : ∀ s e, s < 2 ^ precision → minExponent ≤ e →
    |x - size significand exponent| = |x - size s e| →
      size s e = size significand exponent ∨ significand % 2 = 0

/-- What a size is rounded to: the number nearest to it, or infinity if that one is too large. -/
inductive Rounds (negative : Bool) (x : ℚ) : Extended → Prop
  | finite {significand : Nat} {exponent : Int} :
      IsNearest x significand exponent → exponent ≤ maxExponent →
      Rounds negative x (.finite negative significand exponent)
  | infinite {significand : Nat} {exponent : Int} :
      IsNearest x significand exponent → maxExponent < exponent →
      Rounds negative x (.infinite negative)

theorem isNearest_zero : IsNearest 0 0 minExponent where
  bits := by decide
  least := le_rfl
  full := fun less => absurd less (lt_irrefl _)
  nearest _ _ _ _ := by
    rw [size, Nat.cast_zero, zero_mul, sub_zero, abs_zero]
    exact abs_nonneg _
  even _ _ _ _ _ := .inr rfl

theorem size_of_le {s : Nat} {e unit : Int} (le : unit ≤ e) :
    size s e = (s * 2 ^ (e - unit).toNat : Nat) * 2 ^ unit := by
  have split : (2 : ℚ) ^ e = 2 ^ (e - unit).toNat * 2 ^ unit := by
    rw [← zpow_natCast, ← zpow_add₀ two_ne_zero]
    congr 1
    omega
  rw [size, split]
  push_cast
  ring

section

variable {x : ℚ} {q : Nat} {unit : Int}

theorem abs_sub_size (x : ℚ) (n : Nat) (unit : Int) :
    |x - size n unit| = |x / 2 ^ unit - n| * 2 ^ unit := by
  have positive : (0 : ℚ) < 2 ^ unit := by positivity
  rw [size, ← abs_of_pos positive, ← abs_mul, abs_of_pos positive, sub_mul,
    div_mul_cancel₀ _ positive.ne']

/-- Numbers with a smaller unit have less than 64 bits in this one. A size with 64 bits is farther
from them than from the nearest multiple of this unit. -/
theorem nearer_of_lt {s : Nat} {e : Int} (bits : s < 2 ^ precision) (less : e < unit)
    (above : 2 ^ 63 ≤ x / 2 ^ unit)
    (nearest : |x / 2 ^ unit - q| ≤ |x / 2 ^ unit - (2 ^ 63 : Nat)|) :
    |x - size q unit| < |x - size s e| := by
  have positive : (0 : ℚ) < 2 ^ unit := by positivity
  have whole : x / 2 ^ unit * 2 ^ unit = x := div_mul_cancel₀ _ positive.ne'
  have less : e + 1 ≤ unit := less
  have small : size s e < 2 ^ 63 * 2 ^ unit := by
    calc size s e < 2 ^ 64 * 2 ^ e := by
          have bits : (s : ℚ) < 2 ^ 64 := by exact_mod_cast bits
          rw [size]
          gcongr
      _ = 2 ^ 63 * 2 ^ (e + 1) := by
        rw [zpow_add₀ two_ne_zero]
        ring
      _ ≤ 2 ^ 63 * 2 ^ unit := by
        gcongr
        norm_num
  rw [Nat.cast_pow, Nat.cast_ofNat, abs_of_nonneg (sub_nonneg.2 above)] at nearest
  calc |x - size q unit| = |x / 2 ^ unit - q| * 2 ^ unit := abs_sub_size ..
    _ ≤ (x / 2 ^ unit - 2 ^ 63) * 2 ^ unit := by gcongr
    _ = x - 2 ^ 63 * 2 ^ unit := by rw [sub_mul, whole]
    _ < x - size s e := by linarith
    _ ≤ _ := le_abs_self _

/-- No number is nearer than the nearest multiple of a unit in which the size has 64 bits, or of the
smallest unit. -/
theorem nearest_of_unit (above : minExponent < unit → 2 ^ 63 ≤ x / 2 ^ unit)
    (nearest : ∀ n : Nat, |x / 2 ^ unit - q| ≤ |x / 2 ^ unit - n| ∧
      (|x / 2 ^ unit - q| = |x / 2 ^ unit - n| → n = q ∨ q % 2 = 0))
    (s : Nat) (e : Int) (bits : s < 2 ^ precision) (least : minExponent ≤ e) :
    |x - size q unit| ≤ |x - size s e| ∧
      (|x - size q unit| = |x - size s e| → size s e = size q unit ∨ q % 2 = 0) := by
  have positive : (0 : ℚ) < 2 ^ unit := by positivity
  by_cases le : unit ≤ e
  · obtain ⟨near, tie⟩ := nearest (s * 2 ^ (e - unit).toNat)
    rw [size_of_le le, ← size, abs_sub_size, abs_sub_size]
    refine ⟨by gcongr, fun equal => ?_⟩
    exact (tie (mul_right_cancel₀ positive.ne' equal)).imp (congrArg (size · unit)) id
  · have nearer := nearer_of_lt bits (not_le.1 le) (above (by omega)) (nearest _).1
    exact ⟨nearer.le, fun equal => absurd equal nearer.ne⟩

/-- A size is rounded in units in which it has 64 bits, or in the smallest ones. A significand that
comes to 65 bits so is halved. -/
theorem isNearest_of_unit (least : minExponent ≤ unit) (below : x / 2 ^ unit < 2 ^ 64)
    (above : minExponent < unit → 2 ^ 63 ≤ x / 2 ^ unit) (close : |x / 2 ^ unit - q| ≤ 1 / 2)
    (nearest : ∀ n : Nat, |x / 2 ^ unit - q| ≤ |x / 2 ^ unit - n| ∧
      (|x / 2 ^ unit - q| = |x / 2 ^ unit - n| → n = q ∨ q % 2 = 0)) :
    let carried := if q = 1 <<< precision then (q / 2, unit + 1) else (q, unit)
    IsNearest x carried.1 carried.2 := by
  have best := nearest_of_unit above nearest
  obtain ⟨lower, upper⟩ := abs_le.1 close
  dsimp only
  split
  · rename_i top
    have half : q / 2 = 2 ^ 63 := by
      rw [top]
      decide
    have same : size (q / 2) (unit + 1) = size q unit := by
      have whole : q = 2 ^ 63 * 2 := top
      rw [size, size, half, whole, zpow_add₀ two_ne_zero]
      push_cast
      ring
    have bits : 2 ^ 63 < 2 ^ precision := by decide
    have even : 2 ^ 63 % 2 = 0 := by decide
    refine ⟨half ▸ bits, by omega, fun _ => half ▸ le_rfl, fun s e bits least' => ?_,
      fun _ _ _ _ _ => .inr (half ▸ even)⟩
    rw [same]
    exact (best s e bits least').1
  · rename_i top
    refine ⟨?_, least, fun less => ?_, fun s e bits least' => (best s e bits least').1,
      fun s e bits least' => (best s e bits least').2⟩
    · have bound : (q : ℚ) < (2 ^ 64 + 1 : Nat) := by
        push_cast
        linarith
      have bound : q < 2 ^ 64 + 1 := by exact_mod_cast bound
      exact lt_of_le_of_ne (Nat.lt_succ_iff.1 bound) top
    · have bound : ((2 ^ 63 : Nat) : ℚ) < (q + 1 : Nat) := by
        have := above less
        push_cast
        linarith
      have bound : 2 ^ 63 < q + 1 := by exact_mod_cast bound
      exact Nat.lt_succ_iff.1 bound

/-- In the unit that a quotient is rounded in, it has 64 bits, or less if that is the smallest
unit. -/
theorem quotient_inUnit {num den : Nat} (num_pos : 0 < num) (den_pos : 0 < den)
    (unit_eq : max minExponent (binaryMagnitude num den - (precision - 1 : Nat)) = unit) :
    (num : ℚ) / den / 2 ^ unit < 2 ^ 64 ∧
      (minExponent < unit → (2 : ℚ) ^ 63 ≤ num / den / 2 ^ unit) := by
  obtain ⟨low, high⟩ := binaryMagnitude_bounds num_pos den_pos
  have positive : (0 : ℚ) < 2 ^ unit := by positivity
  simp only [precision] at unit_eq
  constructor
  · rw [div_lt_iff₀ positive, ← zpow_natCast, ← zpow_add₀ two_ne_zero]
    exact high.trans_le (zpow_le_zpow_right₀ one_le_two (by omega))
  · intro less
    rw [le_div_iff₀ positive, ← zpow_natCast, ← zpow_add₀ two_ne_zero]
    exact (zpow_le_zpow_right₀ one_le_two (by omega)).trans low

end

/-- A quotient is rounded to the number nearest to it. -/
theorem rounds_ofQuotient (negative : Bool) (num : Nat) {den : Nat} (pos : 0 < den) :
    Rounds negative (num / den) (ofQuotient negative num den) := by
  rw [ofQuotient]
  split
  · rename_i zero
    rw [zero, Nat.cast_zero, zero_div]
    exact .finite isNearest_zero (by decide)
  · rename_i nonzero
    dsimp only
    generalize unit_eq : max minExponent (binaryMagnitude num den - (precision - 1 : Nat)) = unit
    have least : minExponent ≤ unit := unit_eq ▸ le_max_left ..
    obtain ⟨below, above⟩ := quotient_inUnit (Nat.pos_of_ne_zero nonzero) pos unit_eq
    have one := asQuotient_div 1 unit
    have down_pos := asQuotient_pos 1 unit
    generalize asQuotient 1 unit = quotient at one down_pos ⊢
    obtain ⟨up, down⟩ := quotient
    rw [Nat.cast_one, one_mul] at one
    have up_pos : 0 < up := by
      have ratio : (0 : ℚ) < (up : ℚ) / down := one ▸ zpow_pos two_pos unit
      exact Nat.pos_of_ne_zero fun zero => by simp [zero] at ratio
    -- in units, the quotient is that of the two whole numbers that are divided
    have scaled : ((num * down : Nat) : ℚ) / (den * up : Nat) = num / den / 2 ^ unit := by
      rw [← one, div_div_div_eq]
      push_cast
      rfl
    have close := (@nearestQuotient_close (num * down) _ (Nat.mul_pos pos up_pos)).1
    have nearest := @nearestQuotient_nearest (num * down) _ (Nat.mul_pos pos up_pos)
    rw [scaled] at close
    simp only [scaled] at nearest
    have isNearest := isNearest_of_unit least below above close nearest
    dsimp only at isNearest ⊢
    generalize nearestQuotient (num * down) (den * up) = q at isNearest ⊢
    generalize (if q = 1 <<< precision then (q / 2, unit + 1) else (q, unit)) = carried
      at isNearest ⊢
    by_cases large : maxExponent < carried.2
    · rw [if_pos large]
      exact .infinite isNearest large
    · rw [if_neg large]
      exact .finite isNearest (not_lt.1 large)

theorem rounds_ofScaled (negative : Bool) (n : Nat) (exponent : Int) :
    Rounds negative (size n exponent) (ofScaled negative n exponent) := by
  have rounds := rounds_ofQuotient negative (asQuotient n exponent).1 (asQuotient_pos n exponent)
  rwa [asQuotient_div] at rounds

/-! ## Operations -/

/-- The value of a finite number. -/
def valueOf (negative : Bool) (significand : Nat) (exponent : Int) : ℚ :=
  if negative then -size significand exponent else size significand exponent

variable {n n' : Bool} {s s' : Nat} {e e' : Int}

theorem inUnits_mul {unit : Int} (le : unit ≤ e) :
    (inUnits unit n s e : ℚ) * 2 ^ unit = valueOf n s e := by
  have whole : ((s <<< (e - unit).toNat : Nat) : ℚ) * 2 ^ unit = size s e := by
    rw [size_of_le le, Nat.shiftLeft_eq]
  rw [inUnits, valueOf]
  split
  · rw [Int.cast_neg, Int.cast_natCast, neg_mul, whole]
  · rw [Int.cast_natCast, whole]

/-- A sum is the exact sum, rounded. A sum of zero is negative if both numbers are. -/
theorem rounds_add :
    let sum := valueOf n s e + valueOf n' s' e'
    Rounds (if sum = 0 then n && n' else sum < 0) |sum| ((finite n s e).add (finite n' s' e')) := by
  intro sum
  let unit := min e e'
  let total := inUnits unit n s e + inUnits unit n' s' e'
  have positive : (0 : ℚ) < 2 ^ unit := by positivity
  have whole : (total : ℚ) * 2 ^ unit = sum := by
    rw [Int.cast_add, add_mul, inUnits_mul (min_le_left e e'), inUnits_mul (min_le_right e e')]
  have size_total : size total.natAbs unit = |sum| := by
    rw [← whole, abs_mul, abs_of_pos positive, size, Nat.cast_natAbs, Int.cast_abs]
  have zero : sum = 0 ↔ total = 0 := by
    rw [← whole, mul_eq_zero_iff_right positive.ne', Int.cast_eq_zero]
  have below : sum < 0 ↔ total < 0 := by
    rw [← whole, ← zero_mul ((2 : ℚ) ^ unit), mul_lt_mul_iff_left₀ positive, Int.cast_lt_zero]
  simp only [zero, below, ← size_total]
  exact rounds_ofScaled ..

/-- A product is the exact product, rounded. -/
theorem rounds_mul : Rounds (n != n') |valueOf n s e * valueOf n' s' e'|
    ((finite n s e).mul (finite n' s' e')) := by
  have size_product : size (s * s') (e + e') = |valueOf n s e * valueOf n' s' e'| := by
    have size_nonneg (s : Nat) (e : Int) : 0 ≤ size s e := by
      rw [size]
      positivity
    have abs_valueOf (n : Bool) (s : Nat) (e : Int) : |valueOf n s e| = size s e := by
      rw [valueOf]
      split
      · rw [abs_neg, abs_of_nonneg (size_nonneg s e)]
      · exact abs_of_nonneg (size_nonneg s e)
    rw [abs_mul, abs_valueOf, abs_valueOf, size, size, size, zpow_add₀ two_ne_zero]
    push_cast
    ring
  rw [← size_product]
  exact rounds_ofScaled ..

/-- Comparing numbers is comparing their values. -/
theorem isBelow_iff : (finite n s e).isBelow (finite n' s' e') = true ↔
    valueOf n s e < valueOf n' s' e' := by
  have positive : (0 : ℚ) < 2 ^ min e e' := by positivity
  rw [isBelow, decide_eq_true_iff, ← inUnits_mul (min_le_left e e'),
    ← inUnits_mul (min_le_right e e'), mul_lt_mul_iff_left₀ positive, Int.cast_lt]

end Inspector.Program.Extended
