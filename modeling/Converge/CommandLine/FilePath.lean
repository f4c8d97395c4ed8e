import Converge.Decimal.Numeral
import Converge.Text.Find

/-!
# Paths of files

Paths as they are written: a tilde for the home directory, and the ending of a file's name that
tells its format.
-/

namespace Converge.CommandLine.FilePath

/-- A path with a leading tilde replaced by the home directory. -/
def expanded (home : Option String) (path : String) : String :=
  match home, path.toList with
  | some home, ['~'] => home
  | some home, '~' :: '/' :: rest => home ++ "/" ++ String.ofList rest
  | _, _ => path

/-- The name of the file at a path. -/
def fileName (path : String) : List Char := ((Text.splitOn '/' path.toList).getLast?).getD []

/-- The ending of a file's name behind its last dot; a dot in front of the name does not count. -/
def ending? (path : String) : Option String :=
  match ((Text.splitOn '.' (fileName path)).reverse : List (List Char)) with
  | last :: first :: more =>
    if more.isEmpty && first.isEmpty then none else some (String.ofList last)
  | _ => none

/-- Whether a path ends as JSON files do, in letters of either case. -/
def endsAsJson (path : String) : Bool :=
  ((ending? path).map fun e => e.toList.map Numeral.lowerAscii) = some "json".toList

/-- Whether a path ends as TOML files do. -/
def endsAsToml (path : String) : Bool := ending? path = some "toml"

/-- Whether a path is a lone dash, which stands for the standard input. -/
def isDash (path : String) : Bool :=
  match Text.splitOn '/' path.toList with
  | ['-'] :: more => more.all fun segment => segment = [] || segment = ['.']
  | _ => false

end Converge.CommandLine.FilePath
