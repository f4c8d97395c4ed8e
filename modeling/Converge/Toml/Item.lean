import Converge.Record

/-!
# Items of a TOML document

Values as a TOML document writes them. A table remembers how it came to be, because that decides
what may be added to it later; as data its keys are in ascending order, a float that is not finite
is null, and a moment in time is its text under a key of its own.
-/

namespace Converge.Toml

/-- How a table came to be. -/
inductive TableKind where
  /-- Between braces; nothing may be added. -/
  | inline
  /-- By a header of its own. -/
  | headed
  /-- As the parent of a table with a header; it may still get one of its own. -/
  | implied
  /-- By a dotted key; further dotted keys may add to it. -/
  | dotted
deriving DecidableEq

/-- A value of a document. -/
inductive Item where
  | bool (b : Bool)
  | int (i : Int)
  | float (x : Binary64)
  | text (s : String)
  /-- A date, a time or both, by its text. -/
  | moment (s : String)
  | list (items : List Item)
  /-- Tables with headers of one name, in order. -/
  | rows (tables : List (List (String × Item)))
  | table (kind : TableKind) (entries : List (String × Item))

/-- The entries of a table. -/
abbrev Table := Fields Item

namespace Item

/-- The key under which data keeps the text of a moment in time. -/
def momentKey : String := "$__toml_private_datetime"

mutual

/-- The data tree of an item, when its integers fit 64 bits. -/
def toTree? : Item → Option Tree
  | bool b => some (.bool b)
  | int i => if Numeral.int64Min ≤ i && i ≤ Numeral.uint64Max then some (.int i) else none
  | float x => some (if x.isFinite then .float x else .null)
  | text s => some (.text s)
  | moment s => some (.map [(momentKey, .text s)])
  | list items => (trees? items).map .list
  | rows tables => (rows? tables).map .list
  | table _ entries => (fields? entries).map fun fs => .map (Fields.sorted fs)

/-- The data trees of items. -/
def trees? : List Item → Option (List Tree)
  | [] => some []
  | v :: rest => (toTree? v).bind fun t => (trees? rest).map (t :: ·)

/-- The data trees of tables. -/
def rows? : List (List (String × Item)) → Option (List Tree)
  | [] => some []
  | entries :: rest =>
    (fields? entries).bind fun fs => (rows? rest).map (.map (Fields.sorted fs) :: ·)

/-- The data trees of entries. -/
def fields? : List (String × Item) → Option (Fields Tree)
  | [] => some []
  | (k, v) :: rest => (toTree? v).bind fun t => (fields? rest).map ((k, t) :: ·)

end

instance : Source Item where
  form
    | .bool b => .bool b
    | .int _ => .number
    | .float _ => .number
    | .text s => .text (some s)
    | .moment s => .map [(some momentKey, .text s)]
    | .list items => .list items
    | .rows tables => .list (tables.map (.table .headed))
    | .table _ entries => .map (entries.map fun (k, v) => (some k, v))
  toTree? _ v := v.toTree?
  surplus := true

end Item

namespace Table

/-- Whether a table has no header of its own and may get one, or further dotted keys. -/
def isOpen : TableKind → Bool
  | .dotted => true
  | .implied => true
  | _ => false

/-- Changes the last of some tables. -/
def changeLast (change : Table → Option Table) : List Table → Option (List Table)
  | [] => none
  | [t] => (change t).map fun t => [t]
  | t :: rest => (changeLast change rest).map (t :: ·)

/-- Changes the table at the end of a dotted key's way, which is made where it is missing and belongs
to dotted keys from then on. The way leads into the last of several tables but does not end there. -/
def underKeys (change : Table → Option Table) : List String → Table → Option Table
  | [], fs => change fs
  | k :: ks, fs =>
    match Fields.get? k fs with
    | none => (underKeys change ks []).map fun t => fs.put k (.table .dotted t)
    | some (.table kind t) =>
      if isOpen kind then
        (underKeys change ks t).map fun t =>
          fs.put k (.table (if ks.isEmpty then .dotted else kind) t)
      else none
    | some (.rows ts) =>
      if ks.isEmpty then none
      else (changeLast (underKeys change ks) ts).map fun ts => fs.put k (.rows ts)
    | some _ => none

/-- Changes the table at the end of a header's way, which leads into the last of several tables. -/
def underHeader (change : Table → Option Table) : List String → Table → Option Table
  | [], fs => change fs
  | k :: ks, fs =>
    match Fields.get? k fs with
    | none => (underHeader change ks []).map fun t => fs.put k (.table .implied t)
    | some (.table .inline _) => none
    | some (.table kind t) => (underHeader change ks t).map fun t => fs.put k (.table kind t)
    | some (.rows ts) =>
      (changeLast (underHeader change ks) ts).map fun ts => fs.put k (.rows ts)
    | some _ => none

/-- Adds a value under a new key. -/
def add (key : String) (v : Item) (fs : Table) : Option Table :=
  if (Fields.get? key fs).isSome then none else some (fs.put key v)

/-- How many parts a key may have before its last. -/
def keyLimit : Nat := 79

/-- Adds a value under a dotted key. -/
def addUnder (keys : List String) (key : String) (v : Item) (fs : Table) : Option Table :=
  if keys.length ≤ keyLimit then underKeys (add key v) keys fs else none

/-- Changes the table that the table of a header goes into. -/
def underParent (keys : List String) (change : Table → Option Table) (fs : Table) : Option Table :=
  if keys.length ≤ keyLimit then underHeader change keys fs else none

/-- Opens the table of a header. -/
def openTable (keys : List String) (key : String) (fs : Table) : Option Table :=
  underParent keys (fun parent =>
    match Fields.get? key parent with
    | none => some (parent.put key (.table .headed []))
    | some (.table .implied t) => some (parent.put key (.table .headed t))
    | some _ => none) fs

/-- Opens one more table of a header between double brackets. -/
def openRow (keys : List String) (key : String) (fs : Table) : Option Table :=
  underParent keys (fun parent =>
    match Fields.get? key parent with
    | none => some (parent.put key (.rows [[]]))
    | some (.rows ts) => some (parent.put key (.rows (ts ++ [[]])))
    | some _ => none) fs

/-- The data tree of a table. -/
def toTree? (fs : Table) : Option Tree := (Item.table .headed fs).toTree?

end Table

end Converge.Toml
