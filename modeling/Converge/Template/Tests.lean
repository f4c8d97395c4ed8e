import Converge.Template.Arguments
import Converge.Template.Names
import Converge.Template.Operators
import Converge.Text.Casing

/-!
# Tests of values

The tests that follow `is` in an expression. Where undefined values are faults, a test that reads a
text refuses one.
-/

namespace Converge.Template

namespace Value

open Arguments

/-- The items of a value; an undefined one has none, or is a fault where it must be. -/
def walk (strict : Bool) (v : Value) : Except Fault (List Value) :=
  match v with
  | undefined false => if strict then .error .undefinedValue else .ok []
  | v => match v.items? with
    | some vs => .ok vs
    | Option.none => .error .invalidOperation

/-- A test without arguments. -/
def simpleTest? : String → Option (Value → Bool)
  | "defined" => some fun v => !v.isUndefined
  | "undefined" => some isUndefined
  | "none" => some fun v => v.kind = .none
  | "safe" | "escaped" => some fun v => match v with
    | text _ safe => safe
    | _ => false
  | "boolean" => some fun v => v.kind = .bool
  | "odd" => some fun v => match v.toInt?.filter fits128 with
    | some i => i % 2 ≠ 0
    | Option.none => false
  | "even" => some fun v => match v.toInt?.filter fits128 with
    | some i => i % 2 = 0
    | Option.none => false
  | "number" => some fun v => v.kind = .number
  | "integer" | "int" => some fun v => match v with
    | int _ => true
    | _ => false
  | "float" => some fun v => match v with
    | float _ => true
    | _ => false
  | "string" => some fun v => v.kind = .text
  | "sequence" => some fun v => v.kind = .list
  | "mapping" => some fun v => v.kind = .map
  | "iterable" => some fun v => v.items?.isSome
  | "true" => some fun v => match v with
    | bool b => b
    | _ => false
  | "false" => some fun v => match v with
    | bool b => !b
    | _ => false
  | _ => Option.none

/-- A test that compares with one argument. -/
def comparison? : String → Option (Value → Value → Bool)
  | "eq" | "equalto" | "==" => some fun a b => a.eq b
  | "ne" | "!=" => some fun a b => !a.eq b
  | "lt" | "lessthan" | "<" => some fun a b => a.order b == .lt
  | "le" | "<=" => some fun a b => a.order b != .gt
  | "gt" | "greaterthan" | ">" => some fun a b => a.order b == .gt
  | "ge" | ">=" => some fun a b => a.order b != .lt
  | "sameas" => some same
  | _ => Option.none

/-- Whether a number is a multiple of another. -/
def isMultiple (a b : Value) : Bool :=
  match operands? false a b with
  | some (.ints i j) => j ≠ 0 && i % j = 0
  | some (.floats x y) => (FloatOps.rem x y).isZero
  | _ => false

/-- A test of texts with one argument. -/
def textTest? : String → Option (String → String → Bool)
  | "startingwith" => some fun s t => Text.startsWith t.toList s.toList
  | "endingwith" => some fun s t => (Text.before? t.toList s.toList).isSome
  | _ => Option.none

/-- A test of what a text is or names. -/
def exactTest? : String → Option (String → Bool)
  | "lower" => some fun s => s.toList.all Text.lowercase.contains
  | "upper" => some fun s => s.toList.all Text.uppercase.contains
  | "filter" => some isFilter
  | "test" => some isTest
  | _ => Option.none

/-- The answer of a test. -/
def test (strict : Bool) (name : String) (v : Value) (args : List Value) : Except Fault Bool :=
  match simpleTest? name, comparison? name, textTest? name, exactTest? name with
  | some f, _, _, _ => finish args (f v)
  | _, some f, _, _ => do
    let w ← required args.head?
    finish args.tail (f v w)
  | _, _, some f, _ => do
    let s ← textOf strict (some v)
    let t ← textOf strict args.head?
    finish args.tail (f s t)
  | _, _, _, some f => do
    let s ← exactText (some v)
    finish args (f s)
  | _, _, _, _ =>
    if name = "divisibleby" then do
      let w ← required args.head?
      finish args.tail (isMultiple v w)
    else if name = "in" then do
      let w ← required args.head?
      let () ← finish args.tail ()
      if strict && w.kind = .undefined then throw .undefinedValue
      return match w.holds v with
        | .ok b => b
        | .error _ => false
    else .error .unknownTest

end Value

end Converge.Template
