import Converge.Template.Value
import Converge.Text.Category

/-!
# Printed values

How a value looks in the output of a template. Inside lists and maps texts stand between quotes, and
characters that do not print are escaped.
-/

namespace Converge.Template.Value

/-- A character of a text between quotes. -/
def quotedChar (c : Char) : List Char :=
  match c with
  | '"' => ['\\', '"']
  | '\\' => ['\\', '\\']
  | '\n' => ['\\', 'n']
  | '\r' => ['\\', 'r']
  | '\t' => ['\\', 't']
  | '\x00' => ['\\', '0']
  | c =>
    if 0x20 ≤ c.toNat && c.toNat < 0x7f then [c]
    else if Text.graphemeExtend.contains c || Text.unprintable.contains c then
      ['\\', 'u', '\x7b'] ++ Nat.toDigits 16 c.toNat ++ ['\x7d']
    else [c]

/-- A text between quotes. -/
def quoted (s : String) : String :=
  String.ofList ('"' :: s.toList.flatMap quotedChar ++ ['"'])

/-- The text of a function that every template knows. -/
def builtinText (name : String) : String := "minijinja::functions::builtins::" ++ name

mutual

/-- A value as part of another. -/
def inner : Value → String
  | undefined _ => "undefined"
  | none => "None"
  | bool b => if b then "True" else "False"
  | int i => integerText i
  | float x => DecimalLayout.nested.text x
  | text s _ => quoted s
  | list vs _ _ => "[" ++ innerItems vs ++ "]"
  | map es _ => "\x7b" ++ innerEntries es ++ "\x7d"
  | named es => "\x7b" ++ innerEntries es ++ "\x7d"
  | record _ fs => "\x7b" ++ innerFields fs ++ "\x7d"
  | routine m _ _ _ => "<macro " ++ m.name ++ ">"
  | builtin name => builtinText name
  | loop _ index _ vs =>
    String.join ["<loop ", toString (index + 1), "/", toString vs.length, ">"]

/-- Items with commas between them. -/
def innerItems : List Value → String
  | [] => ""
  | [v] => inner v
  | v :: rest => inner v ++ ", " ++ innerItems rest

/-- Entries with commas between them. -/
def innerEntries : List (Value × Value) → String
  | [] => ""
  | [(k, v)] => inner k ++ ": " ++ inner v
  | (k, v) :: rest => inner k ++ ": " ++ inner v ++ ", " ++ innerEntries rest

/-- Fields with commas between them. -/
def innerFields : List (String × Value) → String
  | [] => ""
  | [(k, v)] => quoted k ++ ": " ++ inner v
  | (k, v) :: rest => quoted k ++ ": " ++ inner v ++ ", " ++ innerFields rest

end

/-- A value in the output of a template. -/
def printed : Value → String
  | undefined _ => ""
  | text s _ => s
  | float x => DecimalLayout.output.text x
  | v => inner v

/-! ### One part a line -/

/-- A line end with an indent. -/
def newLine (indent : Nat) : String := String.ofList ('\n' :: List.replicate (4 * indent) ' ')

mutual

/-- A value with each of its parts on a line of its own. -/
def spread (indent : Nat) : Value → String
  | list vs _ _ =>
    if vs.isEmpty then "[]" else "[" ++ spreadItems (indent + 1) vs ++ newLine indent ++ "]"
  | map es _ =>
    if es.isEmpty then "\x7b\x7d"
    else "\x7b" ++ spreadEntries (indent + 1) es ++ newLine indent ++ "\x7d"
  | named es =>
    if es.isEmpty then "\x7b\x7d"
    else "\x7b" ++ spreadEntries (indent + 1) es ++ newLine indent ++ "\x7d"
  | record _ fs =>
    if fs.isEmpty then "\x7b\x7d"
    else "\x7b" ++ spreadFields (indent + 1) fs ++ newLine indent ++ "\x7d"
  | v => inner v

/-- Items, each on a line of its own. -/
def spreadItems (indent : Nat) : List Value → String
  | [] => ""
  | v :: rest => newLine indent ++ spread indent v ++ "," ++ spreadItems indent rest

/-- Entries, each on a line of its own. -/
def spreadEntries (indent : Nat) : List (Value × Value) → String
  | [] => ""
  | (k, v) :: rest =>
    newLine indent ++ spread indent k ++ ": " ++ spread indent v ++ "," ++
      spreadEntries indent rest

/-- Fields, each on a line of its own. -/
def spreadFields (indent : Nat) : List (String × Value) → String
  | [] => ""
  | (k, v) :: rest =>
    newLine indent ++ quoted k ++ ": " ++ spread indent v ++ "," ++ spreadFields indent rest

end

/-! ### Markup -/

/-- A character of a text that is safe inside markup. -/
def escapedChar : Char → List Char
  | '<' => "&lt;".toList
  | '>' => "&gt;".toList
  | '&' => "&amp;".toList
  | '"' => "&quot;".toList
  | '\'' => "&#x27;".toList
  | '/' => "&#x2f;".toList
  | c => [c]

/-- A text that is safe inside markup. -/
def escapedText (s : String) : String := String.ofList (s.toList.flatMap escapedChar)

/-- A value in the output of a template that is markup. -/
def markup : Value → String
  | text s safe => if safe then s else escapedText s
  | v => escapedText v.printed

end Converge.Template.Value
