import Converge.Proofs.Records
import Converge.Proofs.Tree.Folding
import Converge.Rule.Document

/-!
# Rule documents written and read again

One document has many spellings: fields in any order and among others, records as lists, values left
out where they say nothing. `Writes` says which trees are spellings of a document. Reading takes
exactly these (`decode?_eq_some_iff`), and writing gives one of them, in which nothing is lost and
only absent texts are left out. So a document that was read, from whatever spelling, is read from
what it writes again.

Main statement: `RuleDocument.reread_encode`.
-/

namespace Converge

open Record

namespace RuleSpec

/-! ## Rules -/

/-- That the values of fields are those of a rule. A missing result is null, a rule is not shared
unless it says so, and absent texts are missing or null. -/
structure Holds (field : Nat → Option Tree) (s : RuleSpec) : Prop where
  name : field 0 = some (.text s.name)
  pattern : field 1 = some (.text s.pattern)
  result : (field 2).getD .null = s.result
  shared : (field 3).getD (.bool false) = .bool s.shared
  setval : (field 4).getD .null = textOrNull s.setval
  remval : (field 5).getD .null = textOrNull s.remval
  compval : (field 6).getD .null = textOrNull s.compval

/-- That a tree is a spelling of a rule. -/
def Writes (j : Tree) (s : RuleSpec) : Prop := ∃ field, Written fieldNames j field ∧ Holds field s

/-- A rule is read from its spellings. -/
theorem decode?_eq_some_iff {depth : Nat} {j : Tree} {s : RuleSpec} :
    decode? depth j = some s ↔ Writes j s := by
  simp only [decode?, Option.bind_eq_bind, Option.bind_eq_some_iff, fields?_eq_some_iff,
    required_text?_eq_some_iff, optional_toTree?_eq_some_iff, optional_bool?_eq_some_iff,
    optional_text?_eq_some_iff]
  constructor
  · rintro ⟨field, hfield, name, hname, pattern, hpattern, result, hresult, shared, hshared,
      setval, hsetval, remval, hremval, compval, hcompval, h⟩
    cases h
    exact ⟨field, hfield, hname, hpattern, hresult, hshared, hsetval, hremval, hcompval⟩
  · rintro ⟨field, hfield, h⟩
    exact ⟨field, hfield, s.name, h.name, s.pattern, h.pattern, s.result, h.result, s.shared,
      h.shared, s.setval, h.setval, s.remval, h.remval, s.compval, h.compval, rfl⟩

theorem get?_entry (key name : String) (o : Option String) :
    Fields.get? key (entry name o) = if name = key then o.map .text else none := by
  cases o <;> simp [entry, Fields.get?]

/-- What is written of a rule: every value but those of absent texts, a null result included. -/
theorem field?_encode (s : RuleSpec) : fieldNames.map (fun name => s.encode.field? name) =
    [some (.text s.name), some (.text s.pattern), some s.result, some (.bool s.shared),
      s.setval.map .text, s.remval.map .text, s.compval.map .text] := by
  simp [fieldNames, encode, Tree.field?, Fields.get?_append, get?_entry, Fields.get?]

theorem getD_of_map_text {v : Option Tree} {o : Option String} (h : v = o.map .text) :
    v.getD .null = textOrNull o := by
  rw [h]
  cases o <;> rfl

/-- Writing a rule gives one of its spellings. -/
theorem writes_encode (s : RuleSpec) : Writes s.encode s := by
  have hfields := s.field?_encode
  simp only [fieldNames, List.map_cons, List.map_nil, List.cons.injEq] at hfields
  obtain ⟨hname, hpattern, hresult, hshared, hsetval, hremval, hcompval, -⟩ := hfields
  refine ⟨_, .map ?_, ?_⟩
  · cases s.setval <;> cases s.remval <;> cases s.compval <;>
      simp [entry, named, fieldNames, Fields.keys]
  · exact {
      name := hname
      pattern := hpattern
      result := congrArg (Option.getD · .null) hresult
      shared := congrArg (Option.getD · (.bool false)) hshared
      setval := getD_of_map_text hsetval
      remval := getD_of_map_text hremval
      compval := getD_of_map_text hcompval }

end RuleSpec

namespace RuleDocument

/-! ## Documents -/

/-- That a tree is a spelling of a document: a record whose rules, if it has any, are listed. -/
def Writes (j : Tree) (d : RuleDocument) : Prop :=
  ∃ field items, Written ["rules"] j field ∧ (field 0).getD (.list []) = .list items ∧
    List.Forall₂ RuleSpec.Writes items d.rules

/-- A document is read from its spellings. -/
theorem decode?_eq_some_iff {j : Tree} {d : RuleDocument} : decode? j = some d ↔ Writes j d := by
  simp only [decode?, Option.bind_eq_bind, Option.bind_eq_some_iff, fields?_eq_some_iff,
    optional_items?_eq_some_iff, RuleSpec.decode?_eq_some_iff]
  constructor
  · rintro ⟨field, hfield, rules, ⟨items, hitems, hrules⟩, h⟩
    cases h
    exact ⟨field, items, hfield, hitems, hrules⟩
  · rintro ⟨field, items, hfield, hitems, hrules⟩
    exact ⟨field, hfield, d.rules, ⟨items, hitems, hrules⟩, rfl⟩

/-- Writing a document gives one of its spellings. -/
theorem writes_encode (d : RuleDocument) : Writes d.encode d := by
  refine ⟨_, d.rules.map RuleSpec.encode, .map (by simp [named, Fields.keys]), rfl, ?_⟩
  exact List.forall₂_map_left_iff.mpr (List.forall₂_same.mpr fun s _ => s.writes_encode)

/-- **A document is read from what it writes.** Reading takes the spellings of a document, among them
the one that it writes: there every value of a rule stands under its name, a null result too, and
only absent texts are left out. So whatever spelling a document was read from, it is read again from
what it writes then, and builds the same table or fails in the same way. -/
theorem reread_encode (d : RuleDocument) :
    decode? d.encode = some d ∧
    (∀ s ∈ d.rules, RuleSpec.fieldNames.map (fun name => s.encode.field? name) =
      [some (.text s.name), some (.text s.pattern), some s.result, some (.bool s.shared),
        s.setval.map .text, s.remval.map .text, s.compval.map .text]) ∧
    ∀ j : Tree, (decode? j = some d ↔ Writes j d) ∧
      (decode? j = some d →
        decode? d.encode = decode? j ∧ table (decode? d.encode) = table (decode? j)) := by
  have hreread : decode? d.encode = some d := decode?_eq_some_iff.mpr d.writes_encode
  refine ⟨hreread, fun s _ => s.field?_encode, fun j => ⟨decode?_eq_some_iff, fun hj => ?_⟩⟩
  rw [hreread, hj]
  exact ⟨rfl, rfl⟩

/-- A document in a list, with a rule in a list and one in a map in another order and with a key of
its own. -/
example :
    decode? (Tree.list [.list [.list [.text "mtu", .text "^mtu"],
      .map [("pattern", .text "^off$"), ("since", .int 2), ("setval", .null),
        ("name", .text "off")]]]) =
      some ⟨[⟨"mtu", "^mtu", .null, false, none, none, none⟩,
        ⟨"off", "^off$", .null, false, none, none, none⟩]⟩ :=
  rfl

end RuleDocument

end Converge
