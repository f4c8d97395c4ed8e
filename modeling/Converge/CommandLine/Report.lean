import Converge.CommandLine.Invocation
import Converge.LineDiff
import Converge.Resource
import Converge.Json.Printer

/-!
# Reports

What commands print about rule tables and runs.
-/

namespace Converge.CommandLine.Report

/-- A line of output. -/
def line (s : String) : String := s ++ "\n"

/-- A title, underlined, behind an empty line. -/
def header (title : String) : String :=
  line "" ++ line title ++ line (String.ofList (List.replicate title.length '─'))

/-- The title of a section behind an empty line. -/
def sectionTitle (title : String) : String := line "" ++ line title

/-- A named value. -/
def entry (name value : String) : String := line ("  " ++ name ++ ": " ++ value)

/-- An indented line. -/
def indented (s : String) : String := line ("  " ++ s)

/-- A truth value as a word. -/
def word (b : Bool) : String := if b then "true" else "false"

/-- Output that is left out when it is to be quiet. -/
def unlessQuiet (quiet : Bool) (s : String) : String := if quiet then "" else s

/-- A tree over several lines. -/
def pretty (t : Tree) : String := line (Json.pretty t)

/-- Some output for a part that may be absent. -/
def part {α : Type} (shown : α → String) : Option α → String
  | none => ""
  | some v => shown v

/-! ### Rule tables -/

/-- What a rule can do, in brackets. -/
def abilities (r : Rule) : String :=
  let words := (if r.shared then ["shared"] else []) ++
    (if r.setval.isSome then ["setval"] else []) ++ if r.remval.isSome then ["remval"] else []
  "[" ++ ", ".intercalate words ++ "]"

/-- The entry of a rule in a list. -/
def rule (r : Rule) : String :=
  let path := if r.path = r.name then "" else " -> " ++ r.path
  indented (r.name ++ path ++ " " ++ abilities r) ++ indented r.pattern.source

/-- What there is to say about a table that can be used. -/
def table (quiet list : Bool) (path : String) (t : RuleTable) : String :=
  let shared := (t.rules.filter Rule.shared).length
  let counts := Nat.repr t.rules.length ++ " total, " ++ Nat.repr shared ++ " shared, " ++
    Nat.repr t.commandRules.length ++ " with commands"
  unlessQuiet quiet (header "Rule Table" ++ entry "File" path ++ entry "Rules" counts) ++
    (if list then sectionTitle "Rules" ++ String.join (t.rules.map rule) else "") ++
    unlessQuiet quiet (line "" ++ line "✓ Rule table is valid")

/-! ### Runs -/

/-- The commands of a run. -/
def commands (checkMode : Bool) (cs : List String) : String :=
  if cs.isEmpty then line "✓ Already in desired state"
  else sectionTitle "Commands" ++ String.join (cs.map indented) ++
    if checkMode then
      line ("ℹ check mode: " ++ Nat.repr cs.length ++ " command(s) not pushed")
    else ""

/-- The facts before and after a run: their differences or, where nothing came after, those before
when more is to be said. -/
def facts (verbose : Bool) : (before after : Option Tree) → String
  | some before, some after =>
    sectionTitle "Facts" ++ LineDiff.report (pretty before) (pretty after)
  | some before, none => if verbose then sectionTitle "Facts" ++ indented (Json.compact before) else ""
  | none, _ => ""

/-- What there is to say about a run. -/
def outcome (verbose quiet checkMode : Bool) (resource : String) (state : State) (o : Outcome) :
    String :=
  unlessQuiet quiet (header (resource ++ " (" ++ state.name ++ ")")) ++
    String.join (o.warnings.map fun s => line ("⚠ " ++ s)) ++
    part pretty o.parsed ++ part pretty o.gathered ++
    part (fun lines => String.join (lines.map line)) o.rendered ++
    part (commands checkMode) o.commands ++
    facts verbose o.before o.after ++
    unlessQuiet quiet (part (fun b => entry "changed" (word b)) o.changed)

end Converge.CommandLine.Report
