import Converge.Decimal.Numeral
import Converge.Template.Expr

/-!
# Values of templates

What expressions evaluate to. A map keeps its entries in ascending order of keys. Lists and maps
that were made in different places are different even where they hold the same: a tag tells them
apart, and the tag zero is that of a list or map that nothing refers to yet.
-/

namespace Converge.Template

/-- The part of a macro that its text gives. -/
structure MacroText where
  name : String
  params : List Parameter
  body : List Stmt
  /-- Whether the macro refers to the body that a call may bring along. -/
  usesCaller : Bool

/-- How a sequence came to be. -/
inductive Shape where
  /-- A list with all its items. -/
  | sequence
  /-- Items that are computed when the sequence is walked through. -/
  | derived
  /-- A group: the key `grouper` and the items `list`. -/
  | group
deriving DecidableEq

/-- A value. -/
inductive Value where
  /-- No value; a silent one is the value of a condition without an alternative. -/
  | undefined (silent : Bool)
  | none
  | bool (b : Bool)
  | int (i : Int)
  | float (x : Binary64)
  | text (s : String) (safe : Bool)
  | list (items : List Value) (shape : Shape) (tag : Nat)
  | map (entries : List (Value × Value)) (tag : Nat)
  /-- The named arguments of a call. -/
  | named (entries : List (Value × Value))
  /-- A record, whose fields can be set; the fields are those of the moment it was looked at. -/
  | record (id : Nat) (fields : List (String × Value))
  /-- A macro with the names that were visible where it was defined; names that are set there later
  are found in a cell. -/
  | routine (m : MacroText) (id cell : Nat) (visible : List (String × Value))
  /-- A function that every template knows. -/
  | builtin (name : String)
  /-- The state of a loop: its position, how deep it is started from itself, and its items. -/
  | loop (id index depth : Nat) (items : List Value)

namespace Value

instance : Inhabited Value := ⟨none⟩

/-- A plain text. -/
def ofText (s : String) : Value := text s false

/-- A list with all its items. -/
def seq (items : List Value) : Value := list items .sequence 0

/-- Items that are computed when the sequence is walked through. -/
def derived (items : List Value) : Value := list items .derived 0

/-- The tag of lists and maps in the data of a template. -/
def dataTag : Nat := 1

/-- Kinds of values in the order in which values of different kinds are compared. -/
inductive Kind where
  | undefined | none | bool | number | text | list | map | derived | plain
deriving DecidableEq

/-- The place of a kind in the order of kinds. -/
def Kind.rank : Kind → Nat
  | undefined => 0
  | none => 1
  | bool => 2
  | number => 3
  | text => 4
  | list => 5
  | map => 6
  | derived => 7
  | plain => 8

/-- The kind of a value. -/
def kind : Value → Kind
  | undefined _ => .undefined
  | none => .none
  | bool _ => .bool
  | int _ => .number
  | float _ => .number
  | text _ _ => .text
  | list _ shape _ => if shape = .derived then .derived else .list
  | map _ _ => .map
  | named _ => .map
  | record _ _ => .map
  | routine _ _ _ _ => .map
  | builtin _ => .plain
  | loop _ _ _ _ => .map

/-- Whether a value is undefined, silently or not. -/
def isUndefined : Value → Bool
  | undefined _ => true
  | _ => false

/-- The text that a value is. -/
def asText? : Value → Option String
  | text s _ => some s
  | _ => Option.none

/-! ### Entries -/

/-- The names under which a loop tells its state. -/
def loopNames : List String :=
  ["index0", "index", "length", "revindex", "revindex0", "first", "last", "depth", "depth0",
    "previtem", "nextitem"]

/-- The state of a loop under a name. -/
def loopField? (index depth : Nat) (vs : List Value) : String → Option Value
  | "index0" => some (int index)
  | "index" => some (int (index + 1))
  | "length" => some (int vs.length)
  | "revindex" => some (int (vs.length - index : Nat))
  | "revindex0" => some (int (vs.length - index - 1 : Nat))
  | "first" => some (bool (index == 0))
  | "last" => some (bool (index + 1 == vs.length))
  | "depth" => some (int (depth + 1))
  | "depth0" => some (int depth)
  | "previtem" => some (if index = 0 then undefined false else (vs[index - 1]?).getD (undefined false))
  | "nextitem" => some ((vs[index + 1]?).getD (undefined false))
  | _ => Option.none

/-- What a macro tells about itself under a name. -/
def macroField? (m : MacroText) : String → Option Value
  | "name" => some (ofText m.name)
  | "arguments" => some (seq (m.params.map fun p => ofText p.name))
  | "caller" => some (bool m.usesCaller)
  | _ => Option.none

/-- The entries that a function gives for some names. -/
def entriesOf (field? : String → Option Value) (names : List String) : List (Value × Value) :=
  names.filterMap fun name => (field? name).map fun v => (ofText name, v)

/-- The entries of whatever has entries. -/
def entries? : Value → Option (List (Value × Value))
  | map es _ => some es
  | named es => some es
  | record _ fs => some (fs.map fun (k, v) => (ofText k, v))
  | routine m _ _ _ => some (entriesOf (macroField? m) ["name", "arguments", "caller"])
  | loop _ index depth vs => some (entriesOf (loopField? index depth vs) loopNames)
  | _ => Option.none

/-- Whether a value counts as true. -/
def isTrue : Value → Bool
  | undefined _ => false
  | none => false
  | bool b => b
  | int i => i ≠ 0
  | float x => !x.isZero
  | text s _ => !s.isEmpty
  | list items _ _ => !items.isEmpty
  | map entries _ => !entries.isEmpty
  | named entries => !entries.isEmpty
  | record _ fields => !fields.isEmpty
  | routine _ _ _ _ => true
  | builtin _ => true
  | loop _ _ _ _ => true

/-- The count of characters, items or entries. -/
def length? (v : Value) : Option Nat :=
  match v with
  | text s _ => some s.length
  | list items _ _ => some items.length
  | v => v.entries?.map List.length

/-- What walking through an object visits: the items of a sequence, or the keys of entries. -/
def parts? (v : Value) : Option (List Value) :=
  match v with
  | list items _ _ => some items
  | v => v.entries?.map fun es => es.map Prod.fst

/-- What walking through a value visits: items, keys or characters; nothing for a missing value. -/
def items? (v : Value) : Option (List Value) :=
  match v with
  | undefined _ => some []
  | none => some []
  | text s _ => some (s.toList.map fun c => ofText (String.singleton c))
  | v => v.parts?

/-! ### Integers -/

/-- Whether an integer fits 128 bits with a sign. -/
def fits128 (i : Int) : Bool :=
  -170141183460469231731687303715884105728 ≤ i && i ≤ 170141183460469231731687303715884105727

/-- The integer that a truth value, an integer or a whole float is. Of floats those count that lie
within 64 bits, and the one just above them, which becomes the greatest integer of 64 bits. -/
def toInt? : Value → Option Int
  | bool b => some (if b then 1 else 0)
  | int i => some i
  | float x => (x.toInt?).bind fun i =>
    if Numeral.fitsInt64 i then some i
    else if i = Numeral.int64Max + 1 then some Numeral.int64Max else Option.none
  | _ => Option.none

/-- The integer of 64 bits with a sign that a value is. -/
def toWord? (v : Value) : Option Int := v.toInt?.filter Numeral.fitsInt64

end Value

end Converge.Template
