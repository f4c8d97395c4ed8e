import Converge.Rule.Table
import Converge.Tree.Merge

/-!
# Facts from lines

Each line contributes the filled result of the first rule that it matches, and the contributions
are merged in order. What a shared rule captures is in force for the lines that follow, up to the
next line of a shared rule; a line's own captures come before it.
-/

namespace Converge.Facts

/-- The values that the result of a rule is filled with: what the line captures, over what is in
force unless the rule is shared. -/
def context (inForce : Fields Tree) (r : Rule) (captures : Fields Tree) : Fields Tree :=
  if r.shared then captures else inForce.overlay captures

/-- The captures that are in force behind a line. -/
def inForceAfter (inForce : Fields Tree) (r : Rule) (captures : Fields Tree) : Fields Tree :=
  if r.shared then captures else inForce

/-- Facts with what a line contributes. -/
def extended (facts : Tree) : Option Tree → Tree
  | none => facts
  | some fragment => facts.merged fragment

/-- The facts of lines behind those that gave the facts so far. -/
def ofLinesFrom (t : RuleTable) (inForce : Fields Tree) (facts : Tree) :
    List String → Except Failure Tree
  | [] => .ok facts
  | line :: rest =>
    match t.firstMatch line with
    | none => ofLinesFrom t inForce facts rest
    | some (r, captures) =>
      (r.result.fill (.map (context inForce r captures))).bind fun fragment =>
        ofLinesFrom t (inForceAfter inForce r captures) (extended facts fragment) rest

/-- The facts of some lines. -/
def ofLines (t : RuleTable) (lines : List String) : Except Failure Tree :=
  ofLinesFrom t [] .empty lines

/-- The facts of the lines of a text. -/
def ofText (t : RuleTable) (s : String) : Except Failure Tree := ofLines t (Text.linesOf s)

end Converge.Facts
