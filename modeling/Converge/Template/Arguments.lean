import Converge.Template.Fault
import Converge.Template.Value.Order
import Converge.Template.Value.Printed

/-!
# Arguments

How filters, tests and functions take their arguments. Named arguments come as one value behind the
others. Where undefined values are faults, an argument that is read as a text must be there; one
that may be missing may also be undefined or `none`.
-/

namespace Converge.Template.Arguments

/-- The text of an argument: any value but named arguments has one. -/
def textOf (strict : Bool) : Option Value → Except Fault String
  | none => .error .missingArgument
  | some (.undefined silent) =>
    if strict then .error .undefinedValue else .ok (Value.undefined silent).printed
  | some (.named _) => .error .invalidOperation
  | some v => .ok v.printed

/-- The text that an argument is. -/
def exactText : Option Value → Except Fault String
  | none => .error .missingArgument
  | some v => match v.asText? with
    | some s => .ok s
    | none => .error .invalidOperation

/-- An argument that may be missing. -/
def given? : Option Value → Option Value
  | some v => if v.isUndefined || v.kind = .none then none else some v
  | none => none

/-- The text of an argument that may be missing. -/
def optionalText (strict : Bool) (v : Option Value) : Except Fault (Option String) :=
  match given? v with
  | none => .ok none
  | some v => (textOf strict (some v)).map some

/-- The text that an argument is if it is there. -/
def optionalExactText (v : Option Value) : Except Fault (Option String) :=
  match given? v with
  | none => .ok none
  | some v => (exactText (some v)).map some

/-- The integer of 64 bits that an argument is if it is there. -/
def optionalInt (v : Option Value) : Except Fault (Option Int) :=
  match given? v with
  | none => .ok none
  | some v => match v.toWord? with
    | some i => .ok (some i)
    | none => .error .invalidOperation

/-- The truth value that an argument is if it is there. -/
def optionalBool (v : Option Value) : Except Fault (Option Bool) :=
  match given? v with
  | none => .ok none
  | some (.bool b) => .ok (some b)
  | some _ => .error .invalidOperation

/-- An argument that must be there. -/
def required : Option Value → Except Fault Value
  | none => .error .missingArgument
  | some v => .ok v

/-- A count that must be there. -/
def count (strict : Bool) : Option Value → Except Fault Nat
  | none => .error .missingArgument
  | some (.undefined false) => .error (if strict then .undefinedValue else .invalidOperation)
  | some v => match v.toInt? with
    | some i =>
      if 0 ≤ i && i ≤ Numeral.uint64Max then .ok i.toNat else .error .invalidOperation
    | none => .error .invalidOperation

/-- A result, unless arguments are left. -/
def finish {α : Type} (rest : List Value) (result : α) : Except Fault α :=
  if rest.isEmpty then .ok result else .error .tooManyArguments

/-- The arguments in their places, and the named ones behind them. -/
def split (args : List Value) : List Value × List (Value × Value) :=
  match args.getLast? with
  | some (.named es) => (args.dropLast, es)
  | _ => (args, [])

/-- The value of a named argument. -/
def byName? (given : List (Value × Value)) (name : String) : Option Value :=
  Value.lookup? (.ofText name) given

/-- A result, unless a named argument is none of those that are known. -/
def onlyNamed {α : Type} (known : List String) (given : List (Value × Value)) (result : α) :
    Except Fault α :=
  if given.all fun e => (e.1.asText?.map known.contains).getD true then .ok result
  else .error .tooManyArguments

/-- A truth value among the named arguments. -/
def flag (given : List (Value × Value)) (name : String) : Except Fault Bool :=
  (optionalBool (byName? given name)).map fun b => b.getD false

end Converge.Template.Arguments
