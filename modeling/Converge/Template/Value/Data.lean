import Converge.Template.Value.Printed
import Converge.Tree.Basic

/-!
# Values and data trees

A data tree becomes a value whose maps are sorted by key, so data that passes through an expression
comes out with its keys in order. A value becomes a data tree where its integers fit 64 bits and its
keys have a text.
-/

namespace Converge.Template.Value

mutual

/-- The value of a data tree. -/
def ofTree : Tree → Value
  | .null => none
  | .bool b => bool b
  | .int i => int i
  | .float x => float x
  | .text s => ofText s
  | .list vs => list (ofItems vs) .sequence dataTag
  | .map es => map ((Fields.sorted (ofFields es)).map fun (k, v) => (ofText k, v)) dataTag

/-- The values of items. -/
def ofItems : List Tree → List Value
  | [] => []
  | v :: rest => ofTree v :: ofItems rest

/-- The values of entries. -/
def ofFields : List (String × Tree) → List (String × Value)
  | [] => []
  | (k, v) :: rest => (k, ofTree v) :: ofFields rest

end

/-- The key of a data map that a value becomes. -/
def keyText? : Value → Option String
  | text s _ => some s
  | bool b => some (if b then "true" else "false")
  | int i => some (integerText i)
  | float x => if x.isFinite then some (DecimalLayout.data.text x) else Option.none
  | _ => Option.none

mutual

/-- The data tree that a value becomes: integers must fit 64 bits, and keys must have a text. -/
def toTree? : Value → Option Tree
  | undefined _ => some .null
  | none => some .null
  | bool b => some (.bool b)
  | int i =>
    if Numeral.int64Min ≤ i && i ≤ Numeral.uint64Max then some (.int i) else Option.none
  | float x => some (if x.isFinite then .float x else .null)
  | text s _ => some (.text s)
  | list vs _ _ => (treeItems? vs).map .list
  | map es _ => (treeEntries? es).map fun fs => .map (Fields.collect fs)
  | named es => (treeEntries? es).map fun fs => .map (Fields.collect fs)
  | record _ fs => (treeFields? fs).map fun fs => .map (Fields.collect fs)
  | routine m id cell visible => some (.text (routine m id cell visible).printed)
  | builtin name => some (.text (builtin name).printed)
  | loop id index depth vs => some (.text (loop id index depth vs).printed)

/-- The trees of items. -/
def treeItems? : List Value → Option (List Tree)
  | [] => some []
  | v :: rest => (toTree? v).bind fun t => (treeItems? rest).map (t :: ·)

/-- The trees of entries with their keys as texts. -/
def treeEntries? : List (Value × Value) → Option (List (String × Tree))
  | [] => some []
  | (k, v) :: rest =>
    (keyText? k).bind fun key =>
      (toTree? v).bind fun t => (treeEntries? rest).map ((key, t) :: ·)

/-- The trees of fields. -/
def treeFields? : List (String × Value) → Option (List (String × Tree))
  | [] => some []
  | (k, v) :: rest => (toTree? v).bind fun t => (treeFields? rest).map ((k, t) :: ·)

end

end Converge.Template.Value
