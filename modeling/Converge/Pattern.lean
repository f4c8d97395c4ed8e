import Converge.Pattern.Grammar
import Converge.Pattern.Program
import Converge.Pattern.Size

/-!
# Patterns of lines

A pattern is compiled once and then searched for in lines. A search gives the named captures of the
leftmost match, in the order in which the pattern names them; groups that took no part in the match
are left out.
-/

namespace Converge

/-- A compiled pattern. -/
structure Pattern where
  /-- The text of the pattern. -/
  source : String
  /-- The names of its groups in order. -/
  names : List String
  code : Pattern.Code
  start : Nat

namespace Pattern

/-- Compiles a pattern, unless its text is no pattern or it is too large. -/
def compile? (source : String) : Option Pattern :=
  (read? source).bind fun (t, names) =>
    if t.fits then
      let (start, code) := Program.compile names t 0 #[.accept]
      some ⟨source, names, code, start⟩
    else none

/-- The characters between two places. -/
def between (input : Array Char) (first last : Nat) : String :=
  String.ofList (input.extract first last).toList

/-- The captures under names, from the ends that a search found. -/
def namedCaptures (input : Array Char) (slots : Slots) (names : List String) :
    List (String × String) :=
  names.zipIdx.filterMap fun (name, i) =>
    match slots[2 * i]?, slots[2 * i + 1]? with
    | some (some first), some (some last) => some (name, between input first last)
    | _, _ => none

/-- The named captures of the leftmost match in a line, if there is a match. -/
def captures? (p : Pattern) (line : String) : Option (List (String × String)) :=
  let input := line.toList.toArray
  let tried := Array.replicate (p.code.size * (input.size + 1)) false
  (searchFrom p.code p.start (2 * p.names.length) input (input.size + 1) 0 tried).map fun slots =>
    namedCaptures input slots p.names

end Pattern

end Converge
