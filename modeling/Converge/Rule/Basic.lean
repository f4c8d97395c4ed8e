import Converge.Pattern
import Converge.Skeleton

/-!
# Rules

A rule ties a pattern of lines to the facts that a matching line contributes and to the command text
that brings those facts about. A rule is first a record of texts; its pattern is compiled when the
rule is built.
-/

namespace Converge

/-- A rule as it is written. -/
structure RuleSpec where
  name : String
  pattern : String
  /-- What a matching line contributes; null contributes nothing. -/
  result : Tree
  /-- Whether the captures stay in force for the lines that follow. -/
  shared : Bool
  /-- The template of commands that set the facts. -/
  setval : Option String
  /-- The template of commands that remove the facts. -/
  remval : Option String
  /-- The path that is compared, when it is not the name. -/
  compval : Option String

/-- What the commands of a rule are made from. -/
inductive Setval where
  /-- A template that is evaluated over the data. -/
  | template (text : String)
  /-- A function of the data, whose value is taken as it is. -/
  | function (f : Tree → Tree)

/-- A rule with its pattern compiled. -/
structure Rule where
  name : String
  pattern : Pattern
  result : Skeleton
  shared : Bool
  setval : Option Setval
  remval : Option Setval
  compval : Option String

namespace Rule

/-- The rule that a record writes. -/
def ofSpec (s : RuleSpec) : Except Failure Rule :=
  match Pattern.compile? s.pattern with
  | none => .error (.invalidPattern s.name)
  | some p => .ok
    { name := s.name
      pattern := p
      result := match s.result with
        | .null => .empty
        | t => .ofTree t
      shared := s.shared
      setval := s.setval.map .template
      remval := s.remval.map .template
      compval := s.compval }

/-- A rule that comes of a record has what the record writes, its pattern compiled. -/
theorem exists_pattern_of_ofSpec {s : RuleSpec} {r : Rule} (h : ofSpec s = .ok r) :
    ∃ p, Pattern.compile? s.pattern = some p ∧ r =
      { name := s.name
        pattern := p
        result := match s.result with
          | .null => .empty
          | t => .ofTree t
        shared := s.shared
        setval := s.setval.map .template
        remval := s.remval.map .template
        compval := s.compval } := by
  unfold ofSpec at h
  split at h
  · cases h
  · rename_i p hp
    exact ⟨p, hp, (Except.ok.inj h).symm⟩

/-- The path of the compared field. -/
def path (r : Rule) : String := r.compval.getD r.name

/-- What a line captures under names, if it matches. -/
def captures? (r : Rule) (line : String) : Option (Fields Tree) :=
  (r.pattern.captures? line).map fun cs => cs.map fun (name, s) => (name, .text s)

end Rule

namespace Setval

/-- The value over some data: nothing for an empty template result or a null function value. -/
def value (data : Tree) : Setval → Except Failure (Option Tree)
  | template text => Placeholder.evaluate text data false
  | function f =>
    match f data with
    | .null => .ok none
    | t => .ok (some t)

end Setval

end Converge
