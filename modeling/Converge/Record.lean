import Converge.Json.Node

/-!
# Reading records

A record is read from a map of its fields, or from a list of their values in order. Unknown fields
of a map are passed over unread; a known field must not come twice. What is missing reads as `none`,
and the record decides whether that is allowed.
-/

namespace Converge

/-- How a value looks to a reader of records. -/
inductive Form (α : Type) where
  | null
  | bool (b : Bool)
  /-- A text, unless it is ill formed. -/
  | text (s : Option String)
  | list (items : List α)
  | map (entries : List (Option String × α))
  | number

/-- Values from which records are read. -/
class Source (α : Type) where
  form : α → Form α
  /-- The data tree that a value writes, when lists and maps nest no deeper than allowed. -/
  toTree? : (depth : Nat) → α → Option Tree
  /-- Whether a list may have more items than the record has fields. -/
  surplus : Bool

instance : Source Tree where
  form
    | .null => .null
    | .bool b => .bool b
    | .int _ => .number
    | .float _ => .number
    | .text s => .text (some s)
    | .list items => .list items
    | .map entries => .map (entries.map fun (k, v) => (some k, v))
  toTree? _ t := some t
  surplus := false

instance : Source Json.Node where
  form
    | .null => .null
    | .bool b => .bool b
    | .number _ => .number
    | .text s => .text s
    | .list items => .list items
    | .map entries => .map entries
  toTree? := Json.Node.toTree?
  surplus := false

namespace Record

variable {α β : Type} [Source α]

/-- The value that is a text. -/
def text? (v : α) : Option String :=
  match Source.form v with
  | .text s => s
  | _ => none

/-- A word: a text, or a map whose only key is the word and that holds nothing under it. -/
def word? (v : α) : Option String :=
  match Source.form v with
  | .text s => s
  | .map [(some word, held)] =>
    match Source.form held with
    | .list [] => some word
    | .map [] => some word
    | _ => none
  | _ => none

/-- The value that is a truth value. -/
def bool? (v : α) : Option Bool :=
  match Source.form v with
  | .bool b => some b
  | _ => none

/-- The values of a list read one by one. -/
def items? (read : α → Option β) (v : α) : Option (List β) :=
  match Source.form v with
  | .list items => items.mapM read
  | _ => none

/-- A value that may be null. -/
def nullable? (read : α → Option β) (v : α) : Option (Option β) :=
  match Source.form v with
  | .null => some none
  | _ => (read v).map some

/-- A field that must be there. -/
def required (read : α → Option β) (v : Option α) : Option β := v.bind read

/-- A field that has a value of its own when it is missing. -/
def optional (missing : β) (read : α → Option β) : Option α → Option β
  | none => some missing
  | some v => read v

/-- The entries with known names, unless a key is ill formed or a known one comes twice. -/
def known (names : List String) : List (Option String × α) → Option (Fields α)
  | [] => some []
  | (none, _) :: _ => none
  | (some k, v) :: rest =>
    (known names rest).bind fun fs =>
      if !names.contains k then some fs
      else if (Fields.get? k fs).isSome then none
      else some ((k, v) :: fs)

/-- The values of named fields, in the order of the names, as a function of the place. -/
def fields? (names : List String) (v : α) : Option (Nat → Option α) :=
  match Source.form v with
  | .list items =>
    if items.length ≤ names.length || Source.surplus α then some fun i => items[i]? else none
  | .map entries =>
    (known names entries).map fun fs i => (names[i]?).bind fun name => Fields.get? name fs
  | _ => none

end Record

end Converge
