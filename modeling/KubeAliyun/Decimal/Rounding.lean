import Mathlib.Data.Rat.Floor
import Mathlib.Tactic.Linarith
import Mathlib.Tactic.Positivity
import Mathlib.Tactic.Ring

/-!
# Rounding scaled numbers up

A number `mantissa * base ^ exponent` is read at a larger or smaller unit, rounded up.
Towards a larger unit the digits are dropped one by one, with a flag for a digit that
was not zero.  On 64-bit words the operations are exact as long as the results fit.
-/

namespace KubeAliyun.Decimal

/-! ## Rounding up -/

def roundUp (number divisor : Int) : Int :=
  number / divisor + if number % divisor = 0 then 0 else 1

theorem ceil_div (number : Int) {divisor : Nat} (positive : 0 < divisor) :
    ⌈(number : ℚ) / divisor⌉ = roundUp number divisor := by
  have sign : (divisor : Int).sign = 1 := Int.sign_eq_one_of_pos (by exact_mod_cast positive)
  rw [Rat.ceil_intCast_div_natCast, Int.neg_ediv, sign, roundUp]
  by_cases exact : (divisor : Int) ∣ number
  · rw [if_pos exact, if_pos (Int.emod_eq_zero_of_dvd exact)]
    ring
  · rw [if_neg exact, if_neg fun zero => exact (Int.dvd_of_emod_eq_zero zero)]
    ring

@[simp] theorem roundUp_one (number : Int) : roundUp number 1 = number := by
  simp [roundUp]

theorem roundUp_le {number divisor : Int} (nonnegative : 0 ≤ number)
    (positive : 0 < divisor) : roundUp number divisor ≤ number := by
  rw [roundUp]
  split
  case isTrue => simpa using Int.ediv_le_self divisor nonnegative
  case isFalse remainder =>
    -- a remainder leaves the quotient strictly below the number
    have below := Int.emod_lt_of_pos number positive
    have rest := Int.emod_nonneg number positive.ne'
    have split := Int.mul_ediv_add_emod number divisor
    have quotient := Int.ediv_nonneg nonnegative positive.le
    nlinarith [lt_of_le_of_ne rest (Ne.symm remainder)]

/-- A number below the divisor is rounded to one, unless it is zero. -/
theorem roundUp_of_lt {number divisor : Int} (nonnegative : 0 ≤ number)
    (small : number < divisor) :
    roundUp number divisor = if number = 0 then 0 else 1 := by
  rw [roundUp, Int.ediv_eq_zero_of_lt nonnegative small, Int.emod_eq_of_lt nonnegative small,
    zero_add]

/-! ## Units -/

section Units

variable {base : Nat} (mantissa : Int) {exponent unit : Int}

/-- At a unit that divides the number's own. -/
theorem ceil_finer (positive : 0 < base) {shift : Nat} (finer : exponent = unit + shift) :
    ⌈(mantissa : ℚ) * (base : ℚ) ^ exponent / (base : ℚ) ^ unit⌉ =
      mantissa * (base : Int) ^ shift := by
  have nonzero : (base : ℚ) ≠ 0 := by positivity
  have same : (mantissa : ℚ) * (base : ℚ) ^ exponent / (base : ℚ) ^ unit =
      ((mantissa * (base : Int) ^ shift : Int) : ℚ) := by
    rw [mul_div_assoc, ← zpow_sub₀ nonzero, finer, add_sub_cancel_left, zpow_natCast]
    push_cast
    rfl
  rw [same, Int.ceil_intCast]

/-- At a unit that is a multiple of the number's own. -/
theorem ceil_coarser (positive : 0 < base) {shift : Nat} (coarser : unit = exponent + shift) :
    ⌈(mantissa : ℚ) * (base : ℚ) ^ exponent / (base : ℚ) ^ unit⌉ =
      roundUp mantissa ((base : Int) ^ shift) := by
  have nonzero : (base : ℚ) ≠ 0 := by positivity
  have same : (mantissa : ℚ) * (base : ℚ) ^ exponent / (base : ℚ) ^ unit =
      (mantissa : ℚ) / ((base ^ shift : Nat) : ℚ) := by
    rw [mul_div_assoc, ← zpow_sub₀ nonzero, coarser, sub_add_cancel_left, zpow_neg,
      zpow_natCast, ← div_eq_mul_inv]
    push_cast
    rfl
  rw [same, ceil_div mantissa (by positivity)]
  push_cast
  rfl

end Units

/-! ## Dropping digits -/

/-- What is left after dropping `count` digits, and whether one of them was not zero. -/
structure Dropped (base number : Int) (count : Nat) (value : Int) (fraction : Bool) : Prop where
  value_eq : value = number / base ^ count
  fraction_iff : fraction = true ↔ number % base ^ count ≠ 0

namespace Dropped

variable {base number value : Int} {count : Nat} {fraction : Bool}

theorem zero (base number : Int) : Dropped base number 0 number false := by
  constructor
  · simp
  · simp

theorem succ (dropped : Dropped base number count value fraction) (positive : 0 < base) :
    Dropped base number (count + 1) (value / base) (fraction || decide (value % base ≠ 0)) := by
  have power : 0 < base ^ count := pow_pos positive count
  constructor
  · rw [dropped.value_eq, pow_succ, Int.ediv_ediv_of_nonneg power.le]
  · have digits : number % base ^ (count + 1) =
        base ^ count * (value % base) + number % base ^ count := by
      rw [dropped.value_eq, pow_succ, Int.emod_def, Int.emod_def, Int.emod_def,
        ← Int.ediv_ediv_of_nonneg power.le]
      ring
    have low := Int.emod_nonneg number power.ne'
    have high := Int.emod_nonneg value positive.ne'
    have shifted := mul_nonneg power.le high
    rw [Bool.or_eq_true, decide_eq_true_iff, dropped.fraction_iff, digits]
    constructor
    · rintro (remainder | digit) zero
      · omega
      · have none : base ^ count * (value % base) = 0 := by omega
        rcases mul_eq_zero.mp none with degenerate | same
        · exact power.ne' degenerate
        · exact digit same
    · intro nonzero
      by_contra none
      push Not at none
      rw [none.1, none.2] at nonzero
      simp at nonzero

theorem value_nonneg (dropped : Dropped base number count value fraction)
    (positive : 0 < base) (nonnegative : 0 ≤ number) : 0 ≤ value := by
  rw [dropped.value_eq]
  exact Int.ediv_nonneg nonnegative (pow_pos positive count).le

theorem roundUp_eq (dropped : Dropped base number count value fraction) :
    roundUp number (base ^ count) = value + if fraction = true then 1 else 0 := by
  rw [roundUp, dropped.value_eq]
  congr 1
  by_cases exact : number % base ^ count = 0
  · rw [if_pos exact, if_neg fun lost => dropped.fraction_iff.mp lost exact]
  · rw [if_neg exact, if_pos (dropped.fraction_iff.mpr exact)]

/-- Once nothing is left, more digits change nothing. -/
theorem roundUp_of_vanished (dropped : Dropped base number count 0 fraction)
    (positive : 0 < base) (nonnegative : 0 ≤ number) {more : Nat} (later : count ≤ more) :
    roundUp number (base ^ more) = if fraction = true then 1 else 0 := by
  have power : 0 < base ^ count := pow_pos positive count
  have small : number < base ^ count := by
    by_contra large
    have one := Int.ediv_le_ediv power (not_lt.mp large)
    rw [← dropped.value_eq, Int.ediv_self power.ne'] at one
    omega
  have smaller : number < base ^ more :=
    lt_of_lt_of_le small (pow_le_pow_right₀ positive later)
  have lost : fraction = true ↔ number ≠ 0 := by
    rw [dropped.fraction_iff, Int.emod_eq_of_lt nonnegative small]
  rw [roundUp_of_lt nonnegative smaller]
  by_cases none : number = 0
  · rw [if_pos none, if_neg fun some => lost.mp some none]
  · rw [if_neg none, if_pos (lost.mpr none)]

end Dropped

/-! ## 64-bit words -/

section Words

variable {first second : Int64}

theorem toInt_mul_exact (lower : -2 ^ 63 ≤ first.toInt * second.toInt)
    (upper : first.toInt * second.toInt < 2 ^ 63) :
    (first * second).toInt = first.toInt * second.toInt := by
  rw [Int64.toInt_mul]
  exact Int.bmod_eq_of_le (by omega) (by omega)

theorem toInt_succ_exact (upper : first.toInt + 1 < 2 ^ 63) :
    (first + 1).toInt = first.toInt + 1 := by
  have lower := first.le_toInt
  rw [Int64.toInt_add, Int64.toInt_one]
  exact Int.bmod_eq_of_le (by omega) (by omega)

theorem toInt_div_exact (nonnegative : 0 ≤ first.toInt) (positive : 0 < second.toInt) :
    (first / second).toInt = first.toInt / second.toInt := by
  have quotient := Int.ediv_nonneg nonnegative positive.le
  have below := Int.ediv_le_self second.toInt nonnegative
  have bound := first.toInt_lt
  rw [Int64.toInt_div, Int.tdiv_eq_ediv_of_nonneg nonnegative]
  exact Int.bmod_eq_of_le (by omega) (by omega)

theorem toInt_mod_exact (nonnegative : 0 ≤ first.toInt) :
    (first % second).toInt = first.toInt % second.toInt := by
  rw [Int64.toInt_mod, Int.tmod_eq_emod_of_nonneg nonnegative]

end Words

end KubeAliyun.Decimal
