import KubeAliyun.Text.Strings
import KubeAliyun.Util.MapUtils
import Mathlib.Tactic.MkIffOfInductiveProp

/-!
# Decimal texts

Which texts `strconv.Atoi` accepts, and with which value, said without a parser.
-/

namespace KubeAliyun.Structs

open KubeAliyun.Util

/-- At least one digit and nothing else, with the value in base ten. -/
structure Numeral (digits : List Char) (number : Nat) : Prop where
  nonempty : digits ≠ []
  digit : ∀ letter ∈ digits, letter.isDigit = true
  value : Nat.ofDigitChars 10 digits 0 = number

inductive Signed : List Char → Int → Prop
  | bare {digits : List Char} {number : Nat} (numeral : Numeral digits number) :
      Signed digits number
  | plus {digits : List Char} {number : Nat} (numeral : Numeral digits number) :
      Signed ('+' :: digits) number
  | minus {digits : List Char} {number : Nat} (numeral : Numeral digits number) :
      Signed ('-' :: digits) (-number)

/-- A decimal integer with an optional sign, in the range of a 64-bit `int`. -/
@[mk_iff]
structure DecimalInt (text : String) (number : Int) : Prop where
  signed : Signed text.toList number
  lower : -2 ^ 63 ≤ number
  upper : number < 2 ^ 63

/-! ## Digits -/

theorem parseDigits_eq_some_iff (digits : List Char) (number : Nat) :
    parseDigits digits = some number ↔ Numeral digits number := by
  cases digits with
  | nil =>
      constructor
      · intro parsed
        cases parsed
      · intro numeral
        exact absurd rfl numeral.nonempty
  | cons first rest =>
      rw [parseDigits]
      · constructor
        · intro parsed
          obtain ⟨digit, value⟩ := Option.ite_none_right_eq_some.mp parsed
          exact ⟨List.cons_ne_nil _ _, List.all_eq_true.mp digit, Option.some.inj value⟩
        · intro numeral
          rw [if_pos (List.all_eq_true.mpr numeral.digit)]
          exact congrArg some numeral.value
      · exact List.cons_ne_nil _ _

theorem not_isDigit_plus : '+'.isDigit = false := by decide

theorem not_isDigit_minus : '-'.isDigit = false := by decide

/-- A sign is no digit, so a numeral does not start with one. -/
theorem Numeral.head_ne {letter : Char} {rest : List Char} {number : Nat}
    (sign : letter.isDigit = false) : ¬ Numeral (letter :: rest) number := by
  intro numeral
  have digit := numeral.digit letter List.mem_cons_self
  rw [sign] at digit
  cases digit

/-- The numeral of a natural number. -/
theorem numeral_repr (number : Nat) : Numeral number.repr.toList number where
  nonempty := by
    rw [Nat.toList_repr]
    exact Nat.toDigits_ne_nil
  digit _ member := Text.isDigit_of_mem_repr member
  value := by
    rw [Nat.toList_repr]
    exact Nat.ofDigitChars_toDigits (by decide) (by decide)

/-! ## Signs -/

/-- The digits as they are read into an `int`. -/
theorem parsed_eq_some_iff (digits : List Char) (value : Int) :
    ((parseDigits digits : Option Nat) : Option Int) = some value ↔
      ∃ number : Nat, Numeral digits number ∧ value = number := by
  constructor
  · intro parsed
    obtain ⟨number, read, same⟩ := Option.bind_eq_some_iff.mp parsed
    exact ⟨number, (parseDigits_eq_some_iff _ _).mp read, (Option.some.inj same).symm⟩
  · rintro ⟨number, numeral, rfl⟩
    rw [(parseDigits_eq_some_iff _ _).mpr numeral]
    rfl

/-- `Atoi` accepts the decimal integers in range. -/
theorem atoi_eq_some_iff (text : String) (number : Int) :
    atoi text = some number ↔ DecimalInt text number := by
  rw [atoi, Option.filter_eq_some_iff, decimalInt_iff]
  apply and_congr
  · generalize text.toList = letters
    -- a sign in front leaves the other two forms impossible
    split
    case h_1 digits =>
      simp only [Option.map_eq_some_iff, parsed_eq_some_iff]
      constructor
      · rintro ⟨_, ⟨value, numeral, rfl⟩, rfl⟩
        exact .minus numeral
      · intro signed
        cases signed with
        | bare numeral => exact absurd numeral (Numeral.head_ne not_isDigit_minus)
        | minus numeral => exact ⟨_, ⟨_, numeral, rfl⟩, rfl⟩
    case h_2 digits =>
      simp only [Option.map_eq_some_iff, parsed_eq_some_iff]
      constructor
      · rintro ⟨_, ⟨value, numeral, rfl⟩, rfl⟩
        exact .plus numeral
      · intro signed
        cases signed with
        | bare numeral => exact absurd numeral (Numeral.head_ne not_isDigit_plus)
        | plus numeral => exact ⟨_, ⟨_, numeral, rfl⟩, rfl⟩
    case h_3 noMinus noPlus =>
      simp only [Option.map_eq_some_iff, parsed_eq_some_iff]
      constructor
      · rintro ⟨_, ⟨value, numeral, rfl⟩, rfl⟩
        exact .bare numeral
      · intro signed
        cases signed with
        | bare numeral => exact ⟨_, ⟨_, numeral, rfl⟩, rfl⟩
        | plus => exact absurd rfl (noPlus _)
        | minus => exact absurd rfl (noMinus _)
  · exact decide_eq_true_iff

/-- The text that `%v` gives for an `int` is a decimal of it. -/
theorem signed_toString (number : Int) : Signed (toString number).toList number := by
  change Signed number.repr.toList number
  rw [Int.repr_eq_if]
  split
  case isTrue nonnegative =>
    have same : ((number.toNat : Nat) : Int) = number := by omega
    have signed := Signed.bare (numeral_repr number.toNat)
    rwa [same] at signed
  case isFalse negative =>
    have same : -(((-number).toNat : Nat) : Int) = number := by omega
    have signed := Signed.minus (numeral_repr (-number).toNat)
    rw [same] at signed
    rwa [String.toList_append]

theorem atoi_toString {number : Int} (lower : -2 ^ 63 ≤ number) (upper : number < 2 ^ 63) :
    atoi (toString number) = some number :=
  (atoi_eq_some_iff _ _).mpr ⟨signed_toString number, lower, upper⟩

end KubeAliyun.Structs
