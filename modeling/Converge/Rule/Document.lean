import Converge.Json.Reader
import Converge.Record
import Converge.Rule.Table
import Converge.Toml.Reader

/-!
# Rule documents

The written form of a rule table: a record with the field `rules`, each a record of a rule. Writing
leaves out the templates and the path that a rule does not have.
-/

namespace Converge

/-- The written form of a rule table. -/
structure RuleDocument where
  rules : List RuleSpec

namespace RuleSpec

/-- The names of a rule's fields in order. -/
def fieldNames : List String :=
  ["name", "pattern", "result", "shared", "setval", "remval", "compval"]

variable {α : Type} [Source α]

/-- The rule that a value writes. -/
def decode? (depth : Nat) (v : α) : Option RuleSpec := do
  let field ← Record.fields? fieldNames v
  let name ← Record.required Record.text? (field 0)
  let pattern ← Record.required Record.text? (field 1)
  let result ← Record.optional .null (Source.toTree? depth) (field 2)
  let shared ← Record.optional false Record.bool? (field 3)
  let setval ← Record.optional none (Record.nullable? Record.text?) (field 4)
  let remval ← Record.optional none (Record.nullable? Record.text?) (field 5)
  let compval ← Record.optional none (Record.nullable? Record.text?) (field 6)
  return { name, pattern, result, shared, setval, remval, compval }

/-- The entry of a field that is left out when it is absent. -/
def entry (name : String) : Option String → List (String × Tree)
  | none => []
  | some s => [(name, .text s)]

/-- The tree that writes a rule. -/
def encode (s : RuleSpec) : Tree :=
  .map ([("name", .text s.name), ("pattern", .text s.pattern), ("result", s.result),
      ("shared", .bool s.shared)] ++ entry "setval" s.setval ++ entry "remval" s.remval ++
    entry "compval" s.compval)

end RuleSpec

namespace RuleDocument

variable {α : Type} [Source α]

/-- The document that a value writes. The result of a rule stands below the document, its list of
rules and the rule. -/
def decode? (v : α) : Option RuleDocument := do
  let field ← Record.fields? ["rules"] v
  let rules ← Record.optional []
    (Record.items? (RuleSpec.decode? (Json.Node.nestingLimit - 3))) (field 0)
  return { rules }

/-- The tree that writes a document. -/
def encode (d : RuleDocument) : Tree := .map [("rules", .list (d.rules.map RuleSpec.encode))]

/-- The document of a JSON text. -/
def ofJson? (s : String) : Option RuleDocument := (Json.readNode? s).bind decode?

/-- The document of a TOML text. -/
def ofToml? (s : String) : Option RuleDocument :=
  (Toml.read? s).bind fun t => decode? (Toml.Item.table .headed t)

/-- The table of a document, when there is one. -/
def table : Option RuleDocument → Except Failure RuleTable
  | some d => RuleTable.ofSpecs d.rules
  | none => .error .ruleDocument

end RuleDocument

end Converge
