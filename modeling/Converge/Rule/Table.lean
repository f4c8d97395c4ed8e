import Converge.Rule.Basic
import Converge.Rule.Index

/-!
# Rule tables

Rules in order with distinct names. A line belongs to the first rule whose pattern it matches. A
name belongs to at most one rule, whose place the index of the table tells; the index is filled when
the table is built, in the pass that refuses a name that comes again.
-/

namespace Converge

/-- Rules in order, with the index of their names. -/
structure RuleTable where
  rules : List Rule
  index : Index
  /-- The index comes of entering the names one by one. -/
  entered : Index.enter 0 ∅ (rules.map Rule.name) = .ok index

namespace RuleTable

/-- The table without rules. -/
def empty : RuleTable := ⟨[], ∅, rfl⟩

/-- The table of some rules, unless a name is repeated. -/
def ofRules (rules : List Rule) : Except Failure RuleTable :=
  match h : Index.enter 0 ∅ (rules.map Rule.name) with
  | .error f => .error f
  | .ok index => .ok ⟨rules, index, h⟩

/-- The rules that some records write, up to the first whose pattern does not compile. -/
def compileAll : List RuleSpec → Except Failure (List Rule)
  | [] => .ok []
  | s :: rest => (Rule.ofSpec s).bind fun r => (compileAll rest).map fun rs => r :: rs

/-- The table of some records. All patterns are compiled before names are compared. -/
def ofSpecs (specs : List RuleSpec) : Except Failure RuleTable := (compileAll specs).bind ofRules

/-- The names of the rules in order. -/
def names (t : RuleTable) : List String := t.rules.map Rule.name

/-- The rule of a name: the one at the place that the index tells. -/
def get? (t : RuleTable) (name : String) : Option Rule :=
  t.index[name]?.bind fun (place : Nat) => t.rules[place]?

/-- The index agrees with the names of the rules. -/
theorem agrees (t : RuleTable) : t.index.Agrees t.names :=
  Index.agrees_of_enter Index.agrees_empty t.entered

theorem nodup (t : RuleTable) : t.names.Nodup := t.agrees.nodup

/-- A name is in the index with the place of a rule of that name, and with no other place. -/
theorem index_eq_some_iff {t : RuleTable} {name : String} {place : Nat} :
    t.index[name]? = some place ↔ ∃ r, t.rules[place]? = some r ∧ r.name = name := by
  rw [t.agrees name place, names, List.getElem?_map, Option.map_eq_some_iff]

theorem get?_eq_some_iff {t : RuleTable} {name : String} {r : Rule} :
    t.get? name = some r ↔ ∃ place : Nat, t.rules[place]? = some r ∧ r.name = name := by
  rw [get?, Option.bind_eq_some_iff]
  constructor
  · rintro ⟨place, hplace, hr⟩
    obtain ⟨found, hfound, hname⟩ := index_eq_some_iff.mp hplace
    obtain rfl : found = r := Option.some.inj (hfound.symm.trans hr)
    exact ⟨place, hr, hname⟩
  · rintro ⟨place, hr, hname⟩
    exact ⟨place, index_eq_some_iff.mpr ⟨r, hr, hname⟩, hr⟩

theorem mem_of_get? {t : RuleTable} {name : String} {r : Rule} (h : t.get? name = some r) :
    r ∈ t.rules ∧ r.name = name := by
  obtain ⟨place, hr, hname⟩ := get?_eq_some_iff.mp h
  exact ⟨List.mem_of_getElem? hr, hname⟩

theorem get?_of_mem {t : RuleTable} {r : Rule} (h : r ∈ t.rules) : t.get? r.name = some r := by
  obtain ⟨place, hr⟩ := List.mem_iff_getElem?.mp h
  exact get?_eq_some_iff.mpr ⟨place, hr, rfl⟩

/-- The names are those that have a rule. -/
theorem mem_names_iff {t : RuleTable} {name : String} :
    name ∈ t.names ↔ ∃ r, t.get? name = some r := by
  rw [names, List.mem_map]
  constructor
  · rintro ⟨r, hr, hname⟩
    exact ⟨r, hname ▸ get?_of_mem hr⟩
  · rintro ⟨r, hr⟩
    exact ⟨r, mem_of_get? hr⟩

/-- A name has no rule exactly when it is none of the names. -/
theorem get?_eq_none_iff {t : RuleTable} {name : String} : t.get? name = none ↔ name ∉ t.names := by
  rw [mem_names_iff, ← Option.isSome_iff_exists, Bool.not_eq_true, Option.isSome_eq_false_iff,
    Option.isNone_iff_eq_none]

/-- The rule of a name that must be in the table. -/
def require (t : RuleTable) (name : String) : Except Failure Rule :=
  match t.get? name with
  | some r => .ok r
  | none => .error (.unknownRule name)

/-- The names of the rules that can set facts, in order. -/
def commandRules (t : RuleTable) : List String :=
  (t.rules.filter fun r => r.setval.isSome).map Rule.name

/-- Rules that can set facts are rules of the table. -/
theorem commandRules_subset_names (t : RuleTable) : t.commandRules ⊆ t.names :=
  List.map_subset _ (List.filter_sublist.subset)

/-- The first rule that a line matches, with what the line captures. -/
def firstMatch (t : RuleTable) (line : String) : Option (Rule × Fields Tree) :=
  t.rules.findSome? fun r => (r.captures? line).map fun cs => (r, cs)

end RuleTable

end Converge
