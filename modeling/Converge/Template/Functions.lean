import Converge.Template.Scope

/-!
# Functions

The functions that every template knows: `range`, `dict`, `namespace` and `debug`.
-/

namespace Converge.Template.Functions

/-- The integers from `start` up to or down to but not including `stop`. -/
def rangeValues (start stop step : Int) : Except Fault Value :=
  let count : Int :=
    if 0 < step then (stop - start + step - 1) / step else (start - stop - step - 1) / (-step)
  if step = 0 || 100000 < count then .error .invalidOperation
  else .ok (.derived ((List.range count.toNat).map fun (i : Nat) => .int (start + step * i)))

/-- The function `range`. -/
def range (strict : Bool) (args : List Value) : Except Fault Value := do
  let first ← Arguments.required args.head?
  let first ← first.present strict
  let lower ← match first.toWord? with
    | some i => pure i
    | none => throw Fault.invalidOperation
  let upper ← Arguments.optionalInt (args.drop 1).head?
  let step ← Arguments.optionalInt (args.drop 2).head?
  let () ← Arguments.finish (args.drop 3) ()
  match upper with
  | some u => rangeValues lower u (step.getD 1)
  | none => rangeValues 0 lower (step.getD 1)

/-- The function `dict`. -/
def dict (args : List Value) : Except Fault Value := do
  let (places, byName) := Arguments.split args
  let () ← Arguments.finish (places.drop 1) ()
  let es ← match Arguments.given? places.head? with
    | none => pure []
    | some v => v.pairs
  return .ofEntries (es ++ byName.filter fun e => e.1.asText?.isSome)

/-- The function `namespace`, which makes a record. -/
def record (args : List Value) : Eval Value := do
  let () ← (Arguments.finish args.tail () : Except Fault Unit)
  let es ← match Arguments.given? args.head? with
    | none => pure []
    | some v => (v.pairs : Except Fault (List (Value × Value)))
  let fields ← es.mapM fun (k, v) => match k.asText? with
    | some name => pure (name, v)
    | none => throw Fault.invalidOperation
  Eval.newRecord fields

/-- The function `debug`. -/
def debug (args : List Value) : Value :=
  .ofText (match args with
    | [] => ""
    | [v] => v.spread 0
    | vs => (Value.seq vs).spread 0)

/-- The value of a function by its name. -/
def call (strict : Bool) (name : String) (args : List Value) : Eval Value :=
  match name with
  | "range" => (range strict args : Except Fault Value)
  | "dict" => (dict args : Except Fault Value)
  | "namespace" => record args
  | "debug" => return debug args
  | _ => throw .invalidOperation

end Converge.Template.Functions
