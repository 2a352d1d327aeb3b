import KubeAliyun.Decimal.Rounding
import KubeAliyun.Resource.Quantity

/-!
# Scaled values

The scaled value of a quantity that is not negative is the amount rounded up, as long
as it fits into 64 bits and the difference of the scales into 32.
-/

namespace KubeAliyun.Resource

open KubeAliyun.Decimal

/-! ## Towards a smaller unit -/

theorem int64MultiplyScale_exact {a b : Int64} (nonnegative : 0 ≤ a.toInt)
    (positive : 0 < b.toInt) (fits : a.toInt * b.toInt < 2 ^ 63) :
    (int64MultiplyScale a b).1.toInt = a.toInt * b.toInt ∧ (int64MultiplyScale a b).2 = true := by
  have lower := mul_nonneg nonnegative positive.le
  have product : (a * b).toInt = a.toInt * b.toInt := toInt_mul_exact (by omega) fits
  have back : a * b / b = a := by
    rw [← Int64.toInt_inj, toInt_div_exact (by omega) positive, product]
    exact Int.mul_ediv_cancel _ positive.ne'
  have least : a ≠ Int64.minValue := by
    rintro rfl
    exact absurd nonnegative (by decide)
  rw [int64MultiplyScale]
  by_cases trivial : a = 0 ∨ a = 1
  · rw [if_pos trivial]
    exact ⟨product, rfl⟩
  · rw [if_neg trivial, if_neg fun both => least both.1]
    exact ⟨product, beq_iff_eq.mpr back⟩

/-- The loop appends the zeros one by one. -/
theorem appendZeros_exact {count : Nat} {value : Int64} (nonnegative : 0 ≤ value.toInt)
    (fits : value.toInt * 10 ^ count < 2 ^ 63) :
    (appendZeros count value).1.toInt = value.toInt * 10 ^ count := by
  induction count generalizing value with
  | zero => simp [appendZeros]
  | succ left ih =>
      have ten : (10 : Int64).toInt = 10 := rfl
      have power : (1 : Int) ≤ 10 ^ left := one_le_pow₀ (by decide)
      have shifted : value.toInt * 10 ^ (left + 1) = value.toInt * 10 * 10 ^ left := by ring
      rw [shifted] at fits ⊢
      have step : value.toInt * 10 < 2 ^ 63 := by nlinarith
      obtain ⟨product, exact⟩ :=
        int64MultiplyScale_exact nonnegative (by decide : 0 < (10 : Int64).toInt) step
      rw [ten] at product
      rw [appendZeros, if_pos exact, ← product]
      exact ih (by omega) (by rwa [product])

theorem positiveScaleInt64_exact {base : Int64} {scale : Scale}
    (nonnegative : 0 ≤ base.toInt) (forward : 0 ≤ scale.toInt)
    (fits : base.toInt * 10 ^ scale.toInt.toNat < 2 ^ 63) :
    (positiveScaleInt64 base scale).1.toInt = base.toInt * 10 ^ scale.toInt.toNat := by
  -- the shortcuts multiply once, by the same power
  have shortcut : ∀ factor : Int64, 0 < factor.toInt →
      factor.toInt = 10 ^ scale.toInt.toNat →
      (int64MultiplyScale base factor).1.toInt = base.toInt * 10 ^ scale.toInt.toNat := by
    intro factor positive power
    rw [← power] at fits ⊢
    exact (int64MultiplyScale_exact nonnegative positive fits).1
  rw [positiveScaleInt64]
  split_ifs with zero one two three six nine
  · subst zero
    simp
  · subst one
    exact shortcut 10 (by decide) rfl
  · subst two
    exact shortcut 100 (by decide) rfl
  · subst three
    exact shortcut 1000 (by decide) rfl
  · subst six
    exact shortcut 1000000 (by decide) rfl
  · subst nine
    exact shortcut 1000000000 (by decide) rfl
  · exact appendZeros_exact nonnegative fits

/-! ## Towards a larger unit -/

/-- A number that lost a digit is not zero. -/
theorem positive_of_fraction {base : Int64} {count : Nat} {value : Int}
    (nonnegative : 0 ≤ base.toInt) (dropped : Dropped 10 base.toInt count value true) :
    base > 0 := by
  have remainder := dropped.fraction_iff.mp rfl
  have nonzero : base.toInt ≠ 0 := by
    intro zero
    rw [zero, Int.zero_emod] at remainder
    exact remainder rfl
  rw [gt_iff_lt, Int64.lt_iff_toInt_lt, Int64.toInt_zero]
  omega

/-- One round of the loop. -/
theorem dropped_step {base value : Int64} {fraction : Bool} {done : Nat}
    (nonnegative : 0 ≤ value.toInt)
    (dropped : Dropped 10 base.toInt done value.toInt fraction) :
    Dropped 10 base.toInt (done + 1) (value / 10).toInt (fraction || value % 10 != 0) := by
  have ten : (10 : Int64).toInt = 10 := rfl
  have digit : (value % 10 != 0) = decide (value.toInt % 10 ≠ 0) := by
    rw [Bool.eq_iff_iff, bne_iff_ne, decide_eq_true_iff, ne_eq, ne_eq, ← Int64.toInt_inj,
      toInt_mod_exact nonnegative, ten, Int64.toInt_zero]
  rw [toInt_div_exact nonnegative (by decide), ten, digit]
  exact dropped.succ (by decide)

/-- The loop drops the digits one by one; it stops early when none are left. -/
theorem dropDigits_exact {base value : Int64} {fraction : Bool} {done left : Nat}
    (nonnegative : 0 ≤ base.toInt)
    (dropped : Dropped 10 base.toInt done value.toInt fraction) :
    (dropDigits base left value fraction).1.toInt = roundUp base.toInt (10 ^ (done + left)) := by
  induction left generalizing value fraction done with
  | zero =>
      have rounded := dropped.roundUp_eq
      have lower := dropped.value_nonneg (by decide) nonnegative
      rw [Nat.add_zero, dropDigits]
      cases fraction with
      | false => simpa using rounded.symm
      | true =>
          -- rounding up does not exceed the number, so the addition is exact
          have below := roundUp_le nonnegative (by positivity : (0 : Int) < 10 ^ done)
          have bound := base.toInt_lt
          rw [if_pos rfl] at rounded
          rw [if_pos rfl, if_pos (positive_of_fraction nonnegative dropped), rounded,
            toInt_succ_exact (by omega)]
  | succ left ih =>
      have next := dropped_step (dropped.value_nonneg (by decide) nonnegative) dropped
      have later : done + 1 ≤ done + (left + 1) := by omega
      rw [dropDigits]
      by_cases empty : value / 10 = 0
      · rw [if_pos empty]
        rw [empty] at next
        rw [next.roundUp_of_vanished (by decide) nonnegative later]
        cases lost : (fraction || value % 10 != 0) with
        | false => rfl
        | true =>
            rw [lost] at next
            rw [if_pos rfl, if_pos (positive_of_fraction nonnegative next)]
            rfl
      · rw [if_neg empty, ih next, Nat.add_right_comm, Nat.add_assoc]

theorem negativeScaleInt64_exact {base : Int64} {scale : Scale} (nonnegative : 0 ≤ base.toInt) :
    (negativeScaleInt64 base scale).1.toInt = roundUp base.toInt (10 ^ scale.toInt.toNat) := by
  rw [negativeScaleInt64]
  split_ifs with zero
  · subst zero
    simp
  · rw [dropDigits_exact nonnegative (Dropped.zero 10 base.toInt), Nat.zero_add]

/-! ## Decimals -/

section Decimals

variable (outOfRange : Nat → Int64)

theorem pow10Int64_exact {exponent : Nat} (small : exponent < 19) :
    (pow10Int64 outOfRange exponent).toInt = 10 ^ exponent := by
  have bound : (10 : Int) ^ exponent ≤ 10 ^ 18 := pow_le_pow_right₀ (by decide) (by omega)
  have positive : (0 : Int) < 10 ^ exponent := by positivity
  rw [pow10Int64, if_pos small]
  exact Int64.toInt_ofInt_of_le (by omega) (by omega)

/-- A product that fits has a small power or is zero. -/
theorem scaleUp_exact {unscaled : Int} {shift : Nat} (nonnegative : 0 ≤ unscaled)
    (fits : unscaled * 10 ^ shift < 2 ^ 63) :
    (Int64.ofInt unscaled * pow10Int64 outOfRange shift).toInt = unscaled * 10 ^ shift := by
  by_cases zero : unscaled = 0
  · subst zero
    simp
  · have power : (1 : Int) ≤ 10 ^ shift := one_le_pow₀ (by decide)
    have word : (Int64.ofInt unscaled).toInt = unscaled :=
      Int64.toInt_ofInt_of_le (by omega) (by nlinarith)
    have small : shift < 19 := by
      by_contra large
      have least : 1 ≤ unscaled := by omega
      have huge : (10 : Int) ^ 19 ≤ 10 ^ shift := pow_le_pow_right₀ (by decide) (by omega)
      nlinarith
    have factor := pow10Int64_exact outOfRange small
    have lower := mul_nonneg nonnegative (by omega : (0 : Int) ≤ 10 ^ shift)
    rw [toInt_mul_exact, word, factor]
    · rw [word, factor]
      omega
    · rw [word, factor]
      exact fits

/-- The fast path on 64-bit words. -/
theorem scaleDown_exact {unscaled : Int} {shift : Nat} (nonnegative : 0 ≤ unscaled)
    (word : unscaled < 2 ^ 63 - 1) (small : shift < 19) :
    (if Int64.ofInt unscaled % pow10Int64 outOfRange shift ≠ 0 then
        Int64.ofInt unscaled / pow10Int64 outOfRange shift + 1
      else Int64.ofInt unscaled / pow10Int64 outOfRange shift).toInt =
      roundUp unscaled (10 ^ shift) := by
  have power : (0 : Int) < 10 ^ shift := by positivity
  have divide := pow10Int64_exact outOfRange small
  have number : (Int64.ofInt unscaled).toInt = unscaled :=
    Int64.toInt_ofInt_of_le (by omega) (by omega)
  have quotient : (Int64.ofInt unscaled / pow10Int64 outOfRange shift).toInt =
      unscaled / 10 ^ shift := by
    rw [toInt_div_exact (by omega) (by omega), number, divide]
  have remainder : Int64.ofInt unscaled % pow10Int64 outOfRange shift = 0 ↔
      unscaled % 10 ^ shift = 0 := by
    rw [← Int64.toInt_inj, toInt_mod_exact (by omega), number, divide, Int64.toInt_zero]
  have upper := Int.ediv_le_self (10 ^ shift) nonnegative
  rw [roundUp]
  by_cases exact : unscaled % 10 ^ shift = 0
  · rw [if_neg (not_not.mpr (remainder.mpr exact)), if_pos exact, quotient, add_zero]
  · rw [if_pos fun zero => exact (remainder.mp zero), if_neg exact,
      toInt_succ_exact (by omega), quotient]

/-- The slow path: only the result has to fit. -/
theorem bigDown_exact {unscaled divisor : Int} (nonnegative : 0 ≤ unscaled)
    (positive : 0 < divisor) (fits : roundUp unscaled divisor < 2 ^ 63) :
    (if unscaled % divisor ≠ 0 then Int64.ofInt (unscaled / divisor) + 1
      else Int64.ofInt (unscaled / divisor)).toInt = roundUp unscaled divisor := by
  have lower := Int.ediv_nonneg nonnegative positive.le
  rw [roundUp] at fits ⊢
  by_cases exact : unscaled % divisor = 0
  · rw [if_pos exact] at fits ⊢
    rw [if_neg (not_not.mpr exact), Int64.toInt_ofInt_of_le (by omega) (by omega), add_zero]
  · rw [if_neg exact] at fits ⊢
    have number : (Int64.ofInt (unscaled / divisor)).toInt = unscaled / divisor :=
      Int64.toInt_ofInt_of_le (by omega) (by omega)
    rw [if_pos exact, toInt_succ_exact (by omega), number]

/-- A decimal at a unit, where the result fits. -/
theorem scaledValue_exact {unscaled scale newScale : Int} (nonnegative : 0 ≤ unscaled)
    (fits : ⌈(unscaled : ℚ) * 10 ^ (-scale) / 10 ^ (-newScale)⌉ < 2 ^ 63) :
    (scaledValue outOfRange unscaled scale newScale).toInt =
      ⌈(unscaled : ℚ) * 10 ^ (-scale) / 10 ^ (-newScale)⌉ := by
  by_cases finer : scale ≤ newScale
  · have shift : -scale = -newScale + ((newScale - scale).toNat : Nat) := by omega
    have value := ceil_finer unscaled (by decide : 0 < 10) shift
    push_cast at value
    rw [value] at fits ⊢
    rw [scaledValue]
    by_cases same : scale - newScale = 0
    · have none : (newScale - scale).toNat = 0 := by omega
      rw [none, pow_zero, mul_one] at fits ⊢
      rw [if_pos same]
      exact Int64.toInt_ofInt_of_le (by omega) fits
    · have opposite : (-(scale - newScale)).toNat = (newScale - scale).toNat := by omega
      rw [if_neg same, if_pos (by omega), opposite]
      exact scaleUp_exact outOfRange nonnegative fits
  · have shift : -newScale = -scale + ((scale - newScale).toNat : Nat) := by omega
    have value := ceil_coarser unscaled (by decide : 0 < 10) shift
    push_cast at value
    rw [value] at fits ⊢
    rw [scaledValue, if_neg (by omega), if_neg (by omega)]
    by_cases fast : unscaled < 2 ^ 63 - 1 ∧ scale - newScale < 19
    · rw [if_pos fast]
      exact scaleDown_exact outOfRange nonnegative fast.1 (by omega)
    · rw [if_neg fast]
      exact bigDown_exact nonnegative (by positivity) fits

end Decimals

/-! ## 64-bit amounts -/

/-- An amount at a unit, where the difference of the scales and the result fit. -/
theorem asScaledInt64_exact {amount : Int64Amount} {scale : Scale}
    (nonnegative : 0 ≤ amount.value.toInt)
    (lower : -2 ^ 31 ≤ amount.scale.toInt - scale.toInt)
    (upper : amount.scale.toInt - scale.toInt < 2 ^ 31)
    (apart : scale.toInt - amount.scale.toInt < 2 ^ 31)
    (fits : ⌈(amount.value.toInt : ℚ) * 10 ^ amount.scale.toInt / 10 ^ scale.toInt⌉ < 2 ^ 63) :
    (amount.asScaledInt64 scale).1.toInt =
      ⌈(amount.value.toInt : ℚ) * 10 ^ amount.scale.toInt / 10 ^ scale.toInt⌉ := by
  rw [Int64Amount.asScaledInt64]
  by_cases coarser : amount.scale < scale
  · have order := Int32.lt_iff_toInt_lt.mp coarser
    have distance : (scale - amount.scale).toInt = scale.toInt - amount.scale.toInt := by
      rw [Int32.toInt_sub]
      exact Int.bmod_eq_of_le (by omega) (by omega)
    have shift : scale.toInt =
        amount.scale.toInt + ((scale - amount.scale).toInt.toNat : Nat) := by omega
    have value := ceil_coarser amount.value.toInt (by decide : 0 < 10) shift
    push_cast at value
    rw [if_pos coarser, value]
    exact negativeScaleInt64_exact nonnegative
  · have order : ¬ amount.scale.toInt < scale.toInt := fun less =>
      coarser (Int32.lt_iff_toInt_lt.mpr less)
    have distance : (amount.scale - scale).toInt = amount.scale.toInt - scale.toInt := by
      rw [Int32.toInt_sub]
      exact Int.bmod_eq_of_le (by omega) (by omega)
    have shift : amount.scale.toInt =
        scale.toInt + ((amount.scale - scale).toInt.toNat : Nat) := by omega
    have value := ceil_finer amount.value.toInt (by decide : 0 < 10) shift
    push_cast at value
    rw [value] at fits ⊢
    rw [if_neg coarser]
    exact positiveScaleInt64_exact nonnegative (by omega) fits

/-! ## Quantities -/

namespace Quantity

/-- The amount in units of `10 ^ 9`, rounded up. -/
def gigas (quantity : Quantity) : Int := ⌈quantity.amount / 10 ^ 9⌉

/-- The scale of a 64-bit amount is so small that its distance to giga does not fit
into 32 bits. -/
def Distant (quantity : Quantity) : Prop :=
  quantity.d = none ∧ quantity.i.scale.toInt < 10 - 2 ^ 31

theorem giga_toInt : giga.toInt = 9 := rfl

theorem amount_int {quantity : Quantity} (form : quantity.d = none) :
    quantity.amount = quantity.i.value.toInt * 10 ^ quantity.i.scale.toInt := by
  rw [amount, form]

theorem amount_dec {quantity : Quantity} {dec : Dec} (form : quantity.d = some dec) :
    quantity.amount = dec.unscaled * 10 ^ (-dec.scale.toInt) := by
  rw [amount, form]

/-- The sign of an amount is the sign of its mantissa. -/
theorem mantissa_nonneg {mantissa exponent : Int}
    (nonnegative : 0 ≤ (mantissa : ℚ) * 10 ^ exponent) : 0 ≤ mantissa := by
  have power : (0 : ℚ) < 10 ^ exponent := zpow_pos (by norm_num) exponent
  exact_mod_cast nonneg_of_mul_nonneg_left nonnegative power

/-- The scaled value of a quantity is its amount rounded up. -/
theorem scaledValue_giga (outOfRange : Nat → Int64) {quantity : Quantity}
    (nonnegative : 0 ≤ quantity.amount) (near : ¬ quantity.Distant)
    (fits : quantity.gigas < 2 ^ 63) :
    (quantity.scaledValue outOfRange giga).toInt = quantity.gigas := by
  cases form : quantity.d with
  | none =>
      have scale := not_lt.mp fun less => near ⟨form, less⟩
      have bound := quantity.i.scale.toInt_lt
      have unit : (10 : ℚ) ^ 9 = 10 ^ giga.toInt := rfl
      rw [amount_int form] at nonnegative
      rw [gigas, amount_int form, unit] at fits ⊢
      rw [scaledValue, form]
      apply asScaledInt64_exact (mantissa_nonneg nonnegative) _ _ _ fits
      all_goals
        rw [giga_toInt]
        omega
  | some dec =>
      have unit : (10 : ℚ) ^ 9 = 10 ^ (-(-giga).toInt) := rfl
      rw [amount_dec form] at nonnegative
      rw [gigas, amount_dec form, unit] at fits ⊢
      rw [scaledValue, form]
      exact scaledValue_exact outOfRange (mantissa_nonneg nonnegative) fits

/-- The wrapped difference leaves the mantissa as it is. -/
theorem scaledValue_distant (outOfRange : Nat → Int64) {quantity : Quantity}
    (distant : quantity.Distant) :
    quantity.scaledValue outOfRange giga = quantity.i.value := by
  obtain ⟨form, scale⟩ := distant
  have least := quantity.i.scale.le_toInt
  have order : quantity.i.scale < giga := by
    rw [Int32.lt_iff_toInt_lt, giga_toInt]
    omega
  have wrapped : (giga - quantity.i.scale).toInt < 0 := by
    rw [Int32.toInt_sub, giga_toInt, Int.bmod_def]
    split <;> omega
  rw [scaledValue, form]
  simp only [Int64Amount.asScaledInt64, if_pos order]
  rw [negativeScaleInt64, if_neg, Int.toNat_of_nonpos wrapped.le]
  · rfl
  · intro zero
    rw [zero] at wrapped
    exact absurd wrapped (by decide)

/-- Such an amount is below one. -/
theorem gigas_distant {quantity : Quantity} (nonnegative : 0 ≤ quantity.amount)
    (distant : quantity.Distant) : quantity.gigas ≤ 1 := by
  obtain ⟨form, scale⟩ := distant
  rw [amount_int form] at nonnegative
  have lower := mantissa_nonneg nonnegative
  have upper := quantity.i.value.toInt_lt
  have unit : (10 : ℚ) ^ 9 = 10 ^ giga.toInt := rfl
  have shift : giga.toInt =
      quantity.i.scale.toInt + ((giga.toInt - quantity.i.scale.toInt).toNat : Nat) := by
    rw [giga_toInt]
    omega
  have value := ceil_coarser quantity.i.value.toInt (by decide : 0 < 10) shift
  push_cast at value
  have large : (10 : Int) ^ 19 ≤ 10 ^ (giga.toInt - quantity.i.scale.toInt).toNat :=
    pow_le_pow_right₀ (by decide) (by rw [giga_toInt]; omega)
  rw [gigas, amount_int form, unit, value, roundUp_of_lt lower (by omega)]
  split <;> omega

end Quantity

end KubeAliyun.Resource
