import Mathlib.Algebra.Group.Int.Defs
import Mathlib.Data.List.Basic
import Mathlib.Logic.Function.Basic

/-!
# Structs and string maps

`MapToStruct` and `StructToMap` walk the fields of a struct by reflection.  A
struct is the list of its fields in declaration order, each with its `k8s` tag,
the kind that reflection reports and its value; `X` stands for the values of all
other types, floating-point numbers included.
-/

namespace KubeAliyun.Util

inductive FieldKind where
  | int
  | bool
  | float32
  | float64
  | string
  | unsupported
deriving DecidableEq, Repr

inductive FieldValue (X : Type) where
  | int (value : Int)
  | bool (value : Bool)
  | string (value : String)
  | other (value : X)
deriving DecidableEq, Repr

/-- One field; `assignable` fails for unexported fields and for named types,
whose assignment through `reflect` panics. -/
structure Field (X : Type) where
  name : String
  tag : String
  kind : FieldKind
  assignable : Bool
  value : FieldValue X
deriving DecidableEq, Repr

/-- The parts of `strconv` and `reflect` taken as given: floating-point parsing
and the texts of conversion errors and of recovered panics. -/
structure Conversions (X : Type) where
  parseFloat : FieldKind → String → Option X
  failure : FieldKind → String → String
  panic : String → String

/-! ## Parsers of `strconv` -/

def parseDigits : List Char → Option Nat
  | [] => none
  | digits =>
      if digits.all Char.isDigit then
        some (digits.foldl (fun value digit => 10 * value + (digit.toNat - 48)) 0)
      else none

/-- `strconv.Atoi` with a 64-bit `int`. -/
def atoi (text : String) : Option Int :=
  let parsed : Option Int :=
    match text.toList with
    | '-' :: digits => (parseDigits digits).map fun value => -(value : Int)
    | '+' :: digits => (parseDigits digits).map fun value => (value : Int)
    | digits => (parseDigits digits).map fun value => (value : Int)
  parsed.filter fun value => -2 ^ 63 ≤ value ∧ value < 2 ^ 63

def parseBool (text : String) : Option Bool :=
  if text ∈ ["1", "t", "T", "TRUE", "true", "True"] then some true
  else if text ∈ ["0", "f", "F", "FALSE", "false", "False"] then some false
  else none

/-! ## The loop over the fields -/

variable {X : Type}

def parseField (conversions : Conversions X) (kind : FieldKind) (text : String) :
    Except String (FieldValue X) :=
  let parsed : Option (FieldValue X) :=
    match kind with
    | .int => (atoi text).map .int
    | .bool => (parseBool text).map .bool
    | .float32 => (conversions.parseFloat .float32 text).map .other
    | .float64 => (conversions.parseFloat .float64 text).map .other
    | .string => some (.string text)
    | .unsupported => none
  match parsed with
  | some value => .ok value
  | none => .error (conversions.failure kind text)

/-- Set the named fields from the first on, up to the first error. -/
def fillFields (conversions : Conversions X) (input : String → Option String)
    (keyPrefix : String) : List (Field X) → List (Field X) × Option String
  | [] => ([], none)
  | field :: rest =>
      let tail := fillFields conversions input keyPrefix rest
      if field.tag = "" then (field :: tail.1, tail.2)
      else
        match input (keyPrefix ++ field.tag) with
        | none => (field :: tail.1, tail.2)
        | some text =>
            match parseField conversions field.kind text with
            | .error reason =>
                (field :: rest, some ("Unmatch type of field " ++ field.name ++ ": " ++ reason))
            | .ok value =>
                -- an unassignable field panics in `Set`, and the panic is recovered
                if field.assignable then ({ field with value } :: tail.1, tail.2)
                else (field :: rest, some ("Error: " ++ conversions.panic field.name))

/-- `MapToStruct` on a pointer to a struct: the fields after the call and the
error. -/
def mapToStruct (conversions : Conversions X) (input : Option (String → Option String))
    (fields : List (Field X)) (keyPrefix : String) :
    List (Field X) × Option String :=
  match input with
  | none => (fields, some "Can't convert to struct. in is nil")
  | some entries => fillFields conversions entries keyPrefix fields

/-! ## From a struct to a map -/

/-- A field as `StructToMap` meets it; only exported fields can be read and set. -/
structure StructField (X : Type) extends Field X where
  exported : Bool
  exported_of_assignable : assignable = true → exported = true

/-- The texts that `fmt` gives for values of other types and of named types, which
may have a `String` method, and the texts of recovered panics. -/
structure Formats (X : Type) where
  other : X → String
  named : Field X → String
  panic : String → String

/-- `%v` of the value of a field. -/
def formatValue (formats : Formats X) (field : Field X) : String :=
  if field.assignable then
    match field.value with
    | .int value => toString value
    | .bool value => if value then "true" else "false"
    | .string value => value
    | .other value => formats.other value
  else formats.named field

/-- Write the tagged fields from the first on; reading an unexported one panics. -/
def writeFields (formats : Formats X) (keyPrefix : String) :
    List (StructField X) → (String → Option String) →
      (String → Option String) × Option String
  | [], out => (out, none)
  | field :: rest, out =>
      if field.tag = "" then writeFields formats keyPrefix rest out
      else if field.exported then
        writeFields formats keyPrefix rest
          (Function.update out (keyPrefix ++ field.tag)
            (some (formatValue formats field.toField)))
      else (out, some ("Error: " ++ formats.panic field.name))

/-- `StructToMap` on a struct: the map after the call and the error. -/
def structToMap (formats : Formats X) (fields : List (StructField X))
    (out : Option (String → Option String)) (keyPrefix : String) :
    Option (String → Option String) × Option String :=
  match out with
  | none => (none, some "Can't convert to nil map. out is nil")
  | some entries =>
      let result := writeFields formats keyPrefix fields entries
      (some result.1, result.2)

end KubeAliyun.Util
