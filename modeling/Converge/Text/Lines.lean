import Converge.Text.Blank

/-!
# Lines of a text

A line ends at a line feed, and one carriage return right before the line feed belongs to the line
end. The last line needs no line end; a text that ends with one has no further empty line.
-/

namespace Converge.Text

/-- The lines of a text, without their line ends. -/
def lines : List Char → List (List Char)
  | [] => []
  | '\n' :: rest => [] :: lines rest
  | '\r' :: '\n' :: rest => [] :: lines rest
  | c :: rest =>
    match lines rest with
    | [] => [[c]]
    | line :: more => (c :: line) :: more

/-- The lines of a text as texts. -/
def linesOf (s : String) : List String := (lines s.toList).map String.ofList

/-- The lines of a text without the blanks behind them; lines of blanks alone are left out. -/
def cleanLines (s : String) : List String :=
  ((lines s.toList).map trimEnd).filterMap fun line =>
    if line.isEmpty then none else some (String.ofList line)

end Converge.Text
