import Mathlib.Data.Rat.Floor

/-!
# Resource quantities

The two representations of `resource.Quantity` and the conversion of a quantity to a
64-bit integer at a power of ten (`quantity.go`, `amount.go`, `math.go`,
`scale_int.go`).  The cached string and the format of a quantity play no part in it.
-/

namespace KubeAliyun.Resource

/-- `resource.Scale`: a power of ten. -/
abbrev Scale : Type := Int32

def giga : Scale := 9

/-! ## 64-bit amounts -/

/-- The amount `value * 10 ^ scale`. -/
structure Int64Amount where
  value : Int64
  scale : Scale
deriving DecidableEq, Repr

/-- The product and whether it did not overflow. -/
def int64MultiplyScale (a b : Int64) : Int64 × Bool :=
  if a = 0 ∨ a = 1 then (a * b, true)
  else if a = Int64.minValue ∧ b ≠ 1 then (0, false)
  else (a * b, a * b / b == a)

def int64MultiplyScale10 (a : Int64) : Int64 × Bool := int64MultiplyScale a 10

def int64MultiplyScale100 (a : Int64) : Int64 × Bool := int64MultiplyScale a 100

def int64MultiplyScale1000 (a : Int64) : Int64 × Bool := int64MultiplyScale a 1000

/-- The loop of `positiveScaleInt64`, by the rounds that are left. -/
def appendZeros : Nat → Int64 → Int64 × Bool
  | 0, value => (value, true)
  | left + 1, value =>
      if (int64MultiplyScale value 10).2 then appendZeros left (int64MultiplyScale value 10).1
      else (0, false)

/-- `base * 10 ^ scale`; a negative scale leaves the loop at once. -/
def positiveScaleInt64 (base : Int64) (scale : Scale) : Int64 × Bool :=
  if scale = 0 then (base, true)
  else if scale = 1 then int64MultiplyScale10 base
  else if scale = 2 then int64MultiplyScale100 base
  else if scale = 3 then int64MultiplyScale1000 base
  else if scale = 6 then int64MultiplyScale base 1000000
  else if scale = 9 then int64MultiplyScale base 1000000000
  else appendZeros scale.toInt.toNat base

/-- The loop of `negativeScaleInt64` and what follows it. -/
def dropDigits (base : Int64) : Nat → Int64 → Bool → Int64 × Bool
  | 0, value, fraction =>
      if fraction then (if base > 0 then value + 1 else value + -1, false)
      else (value, true)
  | left + 1, value, fraction =>
      let lost := fraction || value % 10 != 0
      let rest := value / 10
      if rest = 0 then
        if lost then (if base > 0 then 1 else -1, false) else (0, true)
      else dropDigits base left rest lost

/-- `base / 10 ^ scale` rounded away from zero, and whether it is exact. -/
def negativeScaleInt64 (base : Int64) (scale : Scale) : Int64 × Bool :=
  if scale = 0 then (base, true) else dropDigits base scale.toInt.toNat base false

/-- The difference of the scales is taken in 32 bits. -/
def Int64Amount.asScaledInt64 (amount : Int64Amount) (scale : Scale) : Int64 × Bool :=
  if amount.scale < scale then
    ((negativeScaleInt64 amount.value (scale - amount.scale)).1, true)
  else positiveScaleInt64 amount.value (amount.scale - scale)

/-! ## Decimals of any size -/

/-- `inf.Dec`: the amount `unscaled * 10 ^ (-scale)`. -/
structure Dec where
  unscaled : Int
  scale : Int32
deriving DecidableEq, Repr

/-- `int64(math.Pow10(exponent))`; what the conversion of a float out of range gives
depends on the machine. -/
def pow10Int64 (outOfRange : Nat → Int64) (exponent : Nat) : Int64 :=
  if exponent < 19 then Int64.ofInt (10 ^ exponent) else outOfRange exponent

/-- `scaledValue`; `(*big.Int).Int64` keeps the low 64 bits. -/
def scaledValue (outOfRange : Nat → Int64) (unscaled scale newScale : Int) : Int64 :=
  let dif := scale - newScale
  if dif = 0 then Int64.ofInt unscaled
  else if dif < 0 then Int64.ofInt unscaled * pow10Int64 outOfRange (-dif).toNat
  else if unscaled < 2 ^ 63 - 1 ∧ dif < 19 then
    let divide := pow10Int64 outOfRange dif.toNat
    let result := Int64.ofInt unscaled / divide
    if Int64.ofInt unscaled % divide ≠ 0 then result + 1 else result
  else
    let divisor : Int := 10 ^ dif.toNat
    if unscaled % divisor ≠ 0 then Int64.ofInt (unscaled / divisor) + 1
    else Int64.ofInt (unscaled / divisor)

/-! ## Quantities -/

/-- The decimal counts when there is one. -/
structure Quantity where
  i : Int64Amount := ⟨0, 0⟩
  d : Option Dec := none
deriving DecidableEq, Repr

namespace Quantity

/-- Overflow is not reported: the second result of `AsScaledInt64` is dropped. -/
def scaledValue (outOfRange : Nat → Int64) (quantity : Quantity) (scale : Scale) : Int64 :=
  match quantity.d with
  | none => (quantity.i.asScaledInt64 scale).1
  | some dec => Resource.scaledValue outOfRange dec.unscaled dec.scale.toInt (-scale).toInt

def setScaled (value : Int64) (scale : Scale) : Quantity := ⟨⟨value, scale⟩, none⟩

def amount (quantity : Quantity) : ℚ :=
  match quantity.d with
  | none => quantity.i.value.toInt * 10 ^ quantity.i.scale.toInt
  | some dec => dec.unscaled * 10 ^ (-dec.scale.toInt)

end Quantity

end KubeAliyun.Resource
