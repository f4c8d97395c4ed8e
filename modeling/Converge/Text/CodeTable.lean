import Converge.Decimal.Numeral
import Converge.Text.CodeSet
import Converge.Text.Find

/-!
# Tables of code points

Properties of characters are kept as compact texts of hexadecimal numbers. A table of ranges lists
`first-last` or single codes; a table of runs alternates the first code of a run with the run's
value; a table of shifts lists `first-last/step+shift`.
-/

namespace Converge.Text.CodeTable

/-- The words of a table, between blanks and line ends. -/
def words (table : String) : List (List Char) :=
  (splitOn ' ' (table.toList.map fun c => if c = '\n' then ' ' else c)).filter fun w => !w.isEmpty

/-- A hexadecimal number, zero when it is not one. -/
def hex (cs : List Char) : Nat := (Numeral.readNat? 16 cs).getD 0

/-- A range: two codes with a dash between them, or one code. -/
def range (w : List Char) : Nat × Nat :=
  match splitAt? ['-'] w with
  | some (a, b) => (hex a, hex b)
  | none => (hex w, hex w)

/-- The set of a table of ranges. -/
def readSet (table : String) : CodeSet := .ofRanges ((words table).map range)

/-- The runs of words that alternate codes and values: first code, last code, value. -/
def runs : List (List Char) → List (Nat × Nat × String)
  | code :: value :: [] => [(hex code, CodeSet.maxCode, String.ofList value)]
  | code :: value :: next :: rest =>
    (hex code, hex next - 1, String.ofList value) :: runs (next :: rest)
  | _ => []

/-- The runs of a table. -/
def readRuns (table : String) : List (Nat × Nat × String) := runs (words table)

/-- The set of the runs with a value that passes a test. -/
def setOf (table : List (Nat × Nat × String)) (test : String → Bool) : CodeSet :=
  .ofRanges ((table.filter fun (_, _, v) => test v).map fun (a, b, _) => (a, b))

/-- Codes from `first` to `last` in steps, each of which maps to itself plus a shift. -/
structure Shift where
  first : Nat
  last : Nat
  step : Nat
  shift : Int

namespace Shift

/-- A shift from its word. -/
def read? (w : List Char) : Option Shift :=
  (splitAt? ['/'] w).bind fun (codes, rest) =>
    let (a, b) := range codes
    match splitAt? ['+'] rest, splitAt? ['-'] rest with
    | some (step, up), _ => some ⟨a, b, hex step, hex up⟩
    | none, some (step, down) => some ⟨a, b, hex step, -(hex down : Int)⟩
    | none, none => none

/-- What a code maps to, when the shift covers it. -/
def image? (s : Shift) (n : Nat) : Option Nat :=
  if s.first ≤ n && n ≤ s.last && (n - s.first) % s.step == 0 then some ((n : Int) + s.shift).toNat
  else none

/-- The codes that a shift covers, with their images. -/
def pairs (s : Shift) : List (Nat × Nat) :=
  (List.range ((s.last - s.first) / s.step + 1)).map fun i =>
    let n := s.first + i * s.step
    (n, ((n : Int) + s.shift).toNat)

end Shift

/-- The shifts of a table. -/
def readShifts (table : String) : List Shift := (words table).filterMap Shift.read?

/-- What the first shift that covers a code maps it to. -/
def shifted? (shifts : List Shift) (n : Nat) : Option Nat := shifts.findSome? (·.image? n)

/-- An entry that maps one code to several: `code:first+second`. -/
def readSequence? (w : List Char) : Option (Nat × List Nat) :=
  (splitAt? [':'] w).map fun (code, images) => (hex code, (splitOn '+' images).map hex)

/-- The entries of a table of sequences. -/
def readSequences (table : String) : List (Nat × List Nat) := (words table).filterMap readSequence?

end Converge.Text.CodeTable
