import Converge.Record
import Converge.Rendering
import Converge.Rule.Table

/-!
# Dialects

The command language of a device: a rule table, and the words that stand in front of commands that
set and commands that remove. Rendering a rule gives its command text for some data; it fails only
when the table has no such rule.
-/

namespace Converge

/-- The words in front of commands. -/
structure Prefixes where
  /-- In front of commands that set, if any. -/
  set : Option String
  /-- In front of commands that remove. -/
  remove : String
deriving DecidableEq

namespace Prefixes

/-- Nothing in front of commands that set, and `no` in front of those that remove. -/
def standard : Prefixes := ⟨none, "no"⟩

/-- The prefixes that a record of them writes. -/
def decode? {α : Type} [Source α] (v : α) : Option Prefixes := do
  let field ← Record.fields? ["set", "remove"] v
  let set ← Record.optional standard.set (Record.nullable? Record.text?) (field 0)
  let remove ← Record.optional standard.remove Record.text? (field 1)
  return { set, remove }

/-- The word that stands in front of commands, if any; an empty one for setting is none. -/
def word? (p : Prefixes) (negate : Bool) : Option String :=
  if negate then some p.remove else p.set.filter fun s => !s.isEmpty

/-- Command text with the word that fits in front of each line. -/
def apply (p : Prefixes) (negate : Bool) (r : Rendering) : Rendering :=
  match p.word? negate with
  | none => r
  | some w => r.withPrefix w

/-- Every line gets the word that stands in front. -/
theorem toLines_apply (p : Prefixes) (negate : Bool) (r : Rendering) :
    (p.apply negate r).toLines =
      match p.word? negate with
      | none => r.toLines
      | some w => r.toLines.map fun s => w ++ " " ++ s := by
  cases h : p.word? negate <;> simp [apply, h]

end Prefixes

namespace Rule

/-- What the commands of a rule are made from; a removal without a template of its own is made from
that for setting. -/
def setter (r : Rule) (negate : Bool) : Option Setval :=
  if negate then r.remval.or r.setval else r.setval

/-- The command text of a rule for some data, without prefixes. A template that does not evaluate
gives none. -/
def commandText (r : Rule) (negate : Bool) (data : Tree) : Rendering :=
  match r.setter negate with
  | none => .empty
  | some v =>
    match v.value data with
    | .ok t => .ofValue t
    | .error _ => .empty

end Rule

/-- The command language of a device. -/
structure Dialect where
  table : RuleTable
  prefixes : Prefixes

namespace Dialect

/-- The command text of a rule for some data. -/
def render (d : Dialect) (data : Tree) (name : String) (negate : Bool) :
    Except Failure Rendering :=
  (d.table.require name).map fun r => d.prefixes.apply negate (r.commandText negate data)

/-- Rendering fails exactly when the table has no such rule. -/
theorem render_eq_error_iff {d : Dialect} {data : Tree} {name : String} {negate : Bool}
    {f : Failure} :
    d.render data name negate = .error f ↔ d.table.get? name = none ∧ f = .unknownRule name := by
  unfold render RuleTable.require
  cases d.table.get? name with
  | none => simp [Except.map, eq_comm]
  | some r => simp [Except.map]

/-- Rendering the rule of a name. -/
theorem render_of_get? {d : Dialect} {name : String} {r : Rule} (h : d.table.get? name = some r)
    (data : Tree) (negate : Bool) :
    d.render data name negate = .ok (d.prefixes.apply negate (r.commandText negate data)) := by
  rw [render, RuleTable.require, h]
  rfl

end Dialect

end Converge
