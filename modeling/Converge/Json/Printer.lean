import Converge.Decimal.Layout
import Converge.Tree.Basic

/-!
# JSON text of a tree

The compact form has no blanks; the indented form puts each item and entry on a line of its own. Of
the characters in a text only the quote, the backslash and the control characters are escaped.
-/

namespace Converge.Json

/-- A lower-case hexadecimal digit. -/
def hexDigit (n : Nat) : Char := Char.ofNat (if n < 10 then n + 48 else n + 87)

/-- A character of a quoted text. -/
def escapeChar (c : Char) : List Char :=
  match c with
  | '"' => ['\\', '"']
  | '\\' => ['\\', '\\']
  | '\x08' => ['\\', 'b']
  | '\x0c' => ['\\', 'f']
  | '\n' => ['\\', 'n']
  | '\r' => ['\\', 'r']
  | '\t' => ['\\', 't']
  | c =>
    if c.toNat < 0x20 then ['\\', 'u', '0', '0', hexDigit (c.toNat / 16), hexDigit (c.toNat % 16)]
    else [c]

/-- A text between quotes. -/
def quoted (s : String) : String :=
  String.ofList ('"' :: s.toList.flatMap escapeChar ++ ['"'])

/-- The text of a value without parts; lists and maps have none here. -/
def leafText : Tree → String
  | .null => "null"
  | .bool b => if b then "true" else "false"
  | .int i => integerText i
  | .float x => DecimalLayout.data.text x
  | .text s => quoted s
  | .list _ => ""
  | .map _ => ""

mutual

/-- The compact text of a tree. -/
def compact : Tree → String
  | .list items => "[" ++ compactItems items ++ "]"
  | .map entries => "\x7b" ++ compactFields entries ++ "\x7d"
  | leaf => leafText leaf

/-- Items with commas between them. -/
def compactItems : List Tree → String
  | [] => ""
  | [v] => compact v
  | v :: rest => compact v ++ "," ++ compactItems rest

/-- Entries with commas between them. -/
def compactFields : List (String × Tree) → String
  | [] => ""
  | [(k, v)] => quoted k ++ ":" ++ compact v
  | (k, v) :: rest => quoted k ++ ":" ++ compact v ++ "," ++ compactFields rest

end

/-- A new line with its indentation. -/
def newLine (depth : Nat) : String := String.ofList ('\n' :: List.replicate (2 * depth) ' ')

mutual

/-- The indented text of a tree whose own line is indented by `depth` steps. -/
def indented (depth : Nat) : Tree → String
  | .list [] => "[]"
  | .list items => "[" ++ indentedItems (depth + 1) items ++ newLine depth ++ "]"
  | .map [] => "\x7b\x7d"
  | .map entries => "\x7b" ++ indentedFields (depth + 1) entries ++ newLine depth ++ "\x7d"
  | leaf => leafText leaf

/-- Items on lines of their own. -/
def indentedItems (depth : Nat) : List Tree → String
  | [] => ""
  | [v] => newLine depth ++ indented depth v
  | v :: rest => newLine depth ++ indented depth v ++ "," ++ indentedItems depth rest

/-- Entries on lines of their own. -/
def indentedFields (depth : Nat) : List (String × Tree) → String
  | [] => ""
  | [(k, v)] => newLine depth ++ quoted k ++ ": " ++ indented depth v
  | (k, v) :: rest =>
    newLine depth ++ quoted k ++ ": " ++ indented depth v ++ "," ++ indentedFields depth rest

end

/-- The indented text of a tree. -/
def pretty (t : Tree) : String := indented 0 t

end Converge.Json
