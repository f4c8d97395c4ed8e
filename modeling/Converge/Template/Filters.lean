import Converge.Template.Filters.Format
import Converge.Template.Filters.Sequences
import Converge.Template.Filters.Texts

/-!
# Filters

The filters that follow a bar in an expression. A filter of texts takes any value as its text; a
filter of sequences walks through lists, map keys and characters alike.
-/

namespace Converge.Template.Value

open Arguments

/-- A value that must be there where undefined values are faults. -/
def present (strict : Bool) : Value → Except Fault Value
  | undefined false => if strict then .error .undefinedValue else .ok (undefined false)
  | v => .ok v

/-- A filter of a value without arguments. -/
def valueFilter? : String → Option (Bool → Value → Except Fault Value)
  | "safe" => some fun strict v => (textOf strict (some v)).map fun s => text s true
  | "escape" | "e" => some fun _ v => .ok v.escaped
  | "length" | "count" => some fun _ v => match v.length? with
    | some n => .ok (int n)
    | Option.none => .error .invalidOperation
  | "items" => some fun _ v => v.pairs.map fun es => derived (es.map ofPair)
  | "reverse" => some fun _ v => backwards v
  | "abs" => some fun _ v => absolute v
  | "int" => some fun _ v => toInteger v
  | "float" => some fun _ v => toFloating v
  | "first" => some fun _ v => firstItem v
  | "last" => some fun _ v => lastItem v
  | "string" => some fun strict v => (v.present strict).map fun v => match v with
    | text s safe => text s safe
    | v => ofText v.printed
  | "bool" => some fun strict v => (v.present strict).map fun v => bool v.isTrue
  | "pprint" => some fun _ v => .ok (ofText (v.spread 0))
  | _ => Option.none

/-- A filter of a sequence without arguments. Whether a fault of the walk is kept is told beside
it. -/
def sequenceFilter? : String → Option (Bool × (List Value → Except Fault Value))
  | "list" => some (false, fun vs => .ok (seq vs))
  | "min" => some (false, fun vs => .ok (least vs))
  | "max" => some (false, fun vs => .ok (greatest vs))
  | "sum" => some (true, total)
  | _ => Option.none

/-- The filter `default`. -/
def defaultFilter (v : Value) (args : List Value) : Except Fault Value := do
  let lax ← optionalBool (args.drop 1).head?
  finish (args.drop 2)
    (if v.isUndefined || (lax.getD false && !v.isTrue) then args.head?.getD (ofText "") else v)

/-- The filter `round`. -/
def roundFilter (v : Value) (args : List Value) : Except Fault Value := do
  let places ← optionalInt args.head?
  let () ← finish args.tail ()
  let places := places.getD 0
  if -2147483648 ≤ places ∧ places ≤ 2147483647 then rounded places v
  else throw .invalidOperation

/-- The filter `attr`. -/
def attrFilter (v : Value) (args : List Value) : Except Fault Value := do
  let key ← required args.head?
  let () ← finish args.tail ()
  v.item key

/-- A filter with arguments. -/
def richFilter? : String → Option (Bool → Value → List Value → Except Fault Value)
  | "trim" => some trimFilter
  | "replace" => some replaceFilter
  | "split" => some fun _ => splitFilter
  | "lines" => some fun _ => linesFilter
  | "indent" => some indentFilter
  | "join" => some joinFilter
  | "format" => some formatFilter
  | "default" | "d" => some fun _ => defaultFilter
  | "round" => some fun _ => roundFilter
  | "attr" => some fun _ => attrFilter
  | "dictsort" => some fun _ => dictsortFilter
  | "sort" => some sortFilter
  | "unique" => some uniqueFilter
  | "select" => some fun strict => chooseFilter strict false
  | "reject" => some fun strict => chooseFilter strict true
  | "selectattr" => some fun strict => chooseByFilter strict false
  | "rejectattr" => some fun strict => chooseByFilter strict true
  | "batch" => some batchFilter
  | "slice" => some sliceFilter
  | "groupby" => some fun _ => groupbyFilter
  | "chain" => some fun _ => chainFilter
  | "zip" => some zipFilter
  | _ => Option.none

/-- The result of a filter that applies no other filter. -/
def plainFilter (strict : Bool) (name : String) (v : Value) (args : List Value) :
    Except Fault Value :=
  match textFilter? name, valueFilter? name, sequenceFilter? name, richFilter? name with
  | some (keepsSafety, f), _, _, _ => do
    let s ← textOf strict (some v)
    finish args (text (f s) (keepsSafety && v.isSafe))
  | _, some f, _, _ => do
    let () ← finish args ()
    f strict v
  | _, _, some (keepsFault, f), _ => do
    let () ← finish args ()
    match v.walk strict with
    | .ok vs => f vs
    | .error e => throw (if keepsFault then e else .invalidOperation)
  | _, _, _, some f => f strict v args
  | _, _, _, _ => .error .unknownFilter

/-- Maps to what the items hold under the attribute among the named arguments. -/
def mapAttribute (strict : Bool) (key : Value) (args : List Value) (byName : List (Value × Value))
    (v : Value) : Except Fault Value := do
  let () ← finish args ()
  let held ← attributes strict key ((byName? byName "default").getD (undefined false)) v
  onlyNamed ["attribute", "default"] byName held

/-- The result of a filter. The filter `map` applies the filter that its first argument names to
each item, with the arguments in their places. -/
def filter (strict : Bool) : (args : List Value) → (name : String) → Value → Except Fault Value
  | [], name, v => if name = "map" then .error .invalidOperation else plainFilter strict name v []
  | a :: rest, name, v =>
    if name = "map" then
      let (places, byName) := split (a :: rest)
      match given? (byName? byName "attribute"), a with
      | some key, _ => mapAttribute strict key places byName v
      | Option.none, text inner _ => do
        if !isFilter inner then throw .unknownFilter
        let vs ← v.walk strict
        let ws ← vs.mapM fun w => filter strict (split rest).1 inner w
        return seq ws
      | Option.none, _ => .error .invalidOperation
    else plainFilter strict name v (a :: rest)
termination_by args => args.length
decreasing_by
  have : (split rest).1.length ≤ rest.length := by
    unfold split
    split <;> simp
  simp only [List.length_cons]
  omega

end Converge.Template.Value
