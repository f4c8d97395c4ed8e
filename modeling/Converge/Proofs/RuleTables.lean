import Converge.Proofs.DecisionTable
import Converge.Resource
import Mathlib.Data.List.Induction
import Mathlib.Data.List.Nodup

/-!
# Tables of records

A table is built from records in two passes: first every pattern is compiled, in order, then names
are compared. So a pattern that does not compile is reported before any name, and of several faults
of one kind the first. `Built` says what comes of records without following the passes.

The pass over the names fills the index of the table, which agrees with the rules for every name and
every place. So each name stands for the one place where a rule has it. Rules that can set facts are
found by their names, and the commands of a resource can be generated in every state.

Main statement: `RuleTable.ofSpecs_builds`.
-/

namespace Converge

/-- That the pattern of a record compiles. -/
def RuleSpec.Compiles (s : RuleSpec) : Prop := ∃ p, Pattern.compile? s.pattern = some p

namespace Rule

theorem ofSpec_of_not_compiles {s : RuleSpec} (h : ¬s.Compiles) :
    ofSpec s = .error (.invalidPattern s.name) := by
  have hnone : Pattern.compile? s.pattern = none :=
    Option.eq_none_iff_forall_ne_some.mpr fun p hp => h ⟨p, hp⟩
  rw [ofSpec, hnone]

theorem exists_ofSpec {s : RuleSpec} (h : s.Compiles) : ∃ r, ofSpec s = .ok r := by
  obtain ⟨p, hp⟩ := h
  rw [ofSpec, hp]
  exact ⟨_, rfl⟩

theorem name_of_ofSpec {s : RuleSpec} {r : Rule} (h : ofSpec s = .ok r) : r.name = s.name := by
  obtain ⟨p, -, rfl⟩ := exists_pattern_of_ofSpec h
  rfl

end Rule

namespace RuleTable

/-! ## What comes of records -/

/-- What comes of records. -/
inductive Built : List RuleSpec → Except Failure RuleTable → Prop
  /-- The first record whose pattern does not compile is reported. -/
  | uncompiled {before after : List RuleSpec} {s : RuleSpec} : (∀ b ∈ before, b.Compiles) →
      ¬s.Compiles → Built (before ++ s :: after) (.error (.invalidPattern s.name))
  /-- Where all patterns compile, the first name is reported that came before. -/
  | repeated {before after : List RuleSpec} {s : RuleSpec} :
      (∀ b ∈ before ++ s :: after, b.Compiles) → (before.map RuleSpec.name).Nodup →
      s.name ∈ before.map RuleSpec.name →
      Built (before ++ s :: after) (.error (.duplicateRule s.name))
  /-- Otherwise there is a table with the rules of the records in order. -/
  | table {specs : List RuleSpec} {t : RuleTable} : (∀ s ∈ specs, s.Compiles) →
      (specs.map RuleSpec.name).Nodup → specs.map Rule.ofSpec = t.rules.map .ok →
      Built specs (.ok t)

/-! ### Patterns -/

/-- Records are compiled when each of them is, to rules in the same order. -/
theorem compileAll_eq_ok_iff {specs : List RuleSpec} {rules : List Rule} :
    compileAll specs = .ok rules ↔ specs.map Rule.ofSpec = rules.map .ok := by
  induction specs generalizing rules with
  | nil => cases rules <;> simp [compileAll]
  | cons s rest ih =>
    rw [compileAll, Session.bind_eq_ok_iff]
    simp only [Session.map_eq_ok_iff, ih]
    constructor
    · rintro ⟨r, hr, rs, hrest, rfl⟩
      rw [List.map_cons, List.map_cons, hr, hrest]
    · intro h
      rcases rules with _ | ⟨r, rs⟩
      · cases h
      · obtain ⟨hr, hrest⟩ := List.cons.inj h
        exact ⟨r, hr, rs, hrest, rfl⟩

theorem compileAll_of_uncompiled {before : List RuleSpec} {s : RuleSpec}
    (hbefore : ∀ b ∈ before, b.Compiles) (hs : ¬s.Compiles) (after : List RuleSpec) :
    compileAll (before ++ s :: after) = .error (.invalidPattern s.name) := by
  induction before with
  | nil =>
    rw [List.nil_append, compileAll, Rule.ofSpec_of_not_compiles hs]
    rfl
  | cons b before ih =>
    rw [List.forall_mem_cons] at hbefore
    obtain ⟨r, hr⟩ := Rule.exists_ofSpec hbefore.1
    rw [List.cons_append, compileAll, hr, ih hbefore.2]
    rfl

theorem exists_compileAll {specs : List RuleSpec} (h : ∀ s ∈ specs, s.Compiles) :
    ∃ rules, compileAll specs = .ok rules := by
  induction specs with
  | nil => exact ⟨[], rfl⟩
  | cons s rest ih =>
    rw [List.forall_mem_cons] at h
    obtain ⟨r, hr⟩ := Rule.exists_ofSpec h.1
    obtain ⟨rules, hrules⟩ := ih h.2
    exact ⟨r :: rules, by rw [compileAll, hr, hrules]; rfl⟩

theorem names_of_map_ofSpec {specs : List RuleSpec} {rules : List Rule}
    (h : specs.map Rule.ofSpec = rules.map .ok) :
    rules.map Rule.name = specs.map RuleSpec.name := by
  induction specs generalizing rules with
  | nil => cases rules <;> simp_all
  | cons s rest ih =>
    rcases rules with _ | ⟨r, rules⟩
    · cases h
    · obtain ⟨hr, hrest⟩ := List.cons.inj h
      rw [List.map_cons, List.map_cons, Rule.name_of_ofSpec hr, ih hrest]

/-! ### Names -/

theorem ofRules_of_error {rules : List Rule} {f : Failure}
    (h : Index.enter 0 ∅ (rules.map Rule.name) = .error f) : ofRules rules = .error f := by
  unfold ofRules
  split
  · rename_i g hg
    cases hg.symm.trans h
    rfl
  · rename_i index hindex
    cases hindex.symm.trans h

theorem rules_of_ofRules {rules : List Rule} {t : RuleTable} (h : ofRules rules = .ok t) :
    t.rules = rules := by
  unfold ofRules at h
  split at h
  · cases h
  · cases h
    rfl

theorem ofRules_rules (t : RuleTable) : ofRules t.rules = .ok t := by
  unfold ofRules
  split
  · rename_i f hf
    cases hf.symm.trans t.entered
  · rename_i index hindex
    cases hindex.symm.trans t.entered
    rfl

/-- When a name comes again, those before it have been entered. -/
theorem ofRules_of_repeated {rules : List Rule} {before after : List String} {name : String}
    (hrules : rules.map Rule.name = before ++ name :: after) (hdistinct : before.Nodup)
    (hname : name ∈ before) : ofRules rules = .error (.duplicateRule name) := by
  obtain ⟨entered, hagrees, henter⟩ :=
    Index.exists_enter Index.agrees_empty hdistinct (name :: after)
  apply ofRules_of_error
  rw [hrules]
  exact henter.trans (Index.enter_of_mem hagrees hname after)

theorem exists_of_nodup {rules : List Rule} (h : (rules.map Rule.name).Nodup) :
    ∃ t : RuleTable, t.rules = rules := by
  obtain ⟨index, -, henter⟩ := Index.exists_enter Index.agrees_empty h []
  rw [List.append_nil] at henter
  exact ⟨⟨rules, index, henter⟩, rfl⟩

/-- Of records with a name that comes twice one is the first whose name came before. -/
theorem exists_repeated {specs : List RuleSpec} (h : ¬(specs.map RuleSpec.name).Nodup) :
    ∃ before s after, specs = before ++ s :: after ∧ (before.map RuleSpec.name).Nodup ∧
      s.name ∈ before.map RuleSpec.name := by
  induction specs using List.reverseRecOn with
  | nil => exact absurd List.nodup_nil h
  | append_singleton specs s ih =>
    by_cases hdistinct : (specs.map RuleSpec.name).Nodup
    · refine ⟨specs, s, [], rfl, hdistinct, ?_⟩
      by_contra hfresh
      have hlast : (specs.map RuleSpec.name ++ [s.name]).Nodup :=
        List.nodup_append_comm.mp (List.nodup_cons.mpr ⟨hfresh, hdistinct⟩)
      exact h (by simpa using hlast)
    · obtain ⟨before, repeated, after, rfl, hbefore, hmem⟩ := ih hdistinct
      exact ⟨before, repeated, after ++ [s], by simp, hbefore, hmem⟩

/-! ### Both passes -/

/-- The rules of a table of records are those of the records, in the same order. -/
theorem map_ofSpec_of_ofSpecs {specs : List RuleSpec} {t : RuleTable}
    (h : ofSpecs specs = .ok t) : specs.map Rule.ofSpec = t.rules.map .ok := by
  obtain ⟨rules, hrules, ht⟩ := Session.bind_eq_ok_iff.mp h
  rw [rules_of_ofRules ht, compileAll_eq_ok_iff.mp hrules]

/-- Every rule of a table of records is that of one of the records. -/
theorem exists_spec_of_mem {specs : List RuleSpec} {t : RuleTable} (h : ofSpecs specs = .ok t) :
    ∀ r ∈ t.rules, ∃ s ∈ specs, Rule.ofSpec s = .ok r := by
  intro r hr
  have hmem : .ok r ∈ specs.map Rule.ofSpec := map_ofSpec_of_ofSpecs h ▸ List.mem_map_of_mem hr
  exact List.mem_map.mp hmem

theorem ofSpecs_of_built {specs : List RuleSpec} {result : Except Failure RuleTable}
    (h : Built specs result) : ofSpecs specs = result := by
  cases h with
  | uncompiled hbefore hs =>
    rw [ofSpecs, compileAll_of_uncompiled hbefore hs]
    rfl
  | @repeated before after s hall hdistinct hmem =>
    obtain ⟨rules, hrules⟩ := exists_compileAll hall
    have hnames := names_of_map_ofSpec (compileAll_eq_ok_iff.mp hrules)
    rw [List.map_append, List.map_cons] at hnames
    rw [ofSpecs, hrules]
    exact ofRules_of_repeated hnames hdistinct hmem
  | @table _ t hall hdistinct hrules =>
    rw [ofSpecs, compileAll_eq_ok_iff.mpr hrules]
    exact ofRules_rules t

/-- From records always something comes in one of the three ways. -/
theorem exists_built (specs : List RuleSpec) : ∃ result, Built specs result := by
  rcases all_or_first_not RuleSpec.Compiles specs with hall | ⟨before, s, after, rfl, hbefore, hs⟩
  · by_cases hdistinct : (specs.map RuleSpec.name).Nodup
    · obtain ⟨rules, hrules⟩ := exists_compileAll hall
      have hmap := compileAll_eq_ok_iff.mp hrules
      have hnodup : (rules.map Rule.name).Nodup := names_of_map_ofSpec hmap ▸ hdistinct
      obtain ⟨t, rfl⟩ := exists_of_nodup hnodup
      exact ⟨.ok t, .table hall hdistinct hmap⟩
    · obtain ⟨before, s, after, rfl, hbefore, hmem⟩ := exists_repeated hdistinct
      exact ⟨_, .repeated hall hbefore hmem⟩
  · exact ⟨_, .uncompiled hbefore hs⟩

/-! ## Rules by name -/

/-- That names stand for rules without any confusion. -/
structure Indexed (t : RuleTable) : Prop where
  distinct : t.names.Nodup
  /-- The index has every name at the place of a rule of that name, and nothing else. -/
  index_eq_some_iff : ∀ (name : String) (place : Nat), t.index[name]? = some place ↔
    ∃ r, t.rules[place]? = some r ∧ r.name = name
  /-- A name stands for the rule that has it, in the only place where a rule has it. -/
  get?_eq_some_iff : ∀ name r, t.get? name = some r ↔
    ∃ i, t.rules[i]? = some r ∧ r.name = name ∧
      ∀ (j : Nat) s, t.rules[j]? = some s → s.name = name → j = i
  /-- Other names stand for no rule. -/
  get?_eq_none_iff : ∀ name, t.get? name = none ↔ name ∉ t.names
  /-- The index finds what a search through the rules finds. -/
  get?_eq_find? : ∀ name, t.get? name = t.rules.find? fun r => r.name = name
  /-- The name of a rule with commands stands for such a rule. -/
  commandRules : ∀ name ∈ t.commandRules, ∃ r, t.get? name = some r ∧ r.setval ≠ none
  /-- The commands of a resource that all rules describe are generated in every state. -/
  generates : ∀ prefixes resource state want current, ∃ commands,
    (Resource.ofDialect resource ⟨t, prefixes⟩).generate state want current = .ok commands

theorem get?_eq_find? (t : RuleTable) (name : String) :
    t.get? name = t.rules.find? fun r => r.name = name := by
  rcases hfind : t.rules.find? (fun r => r.name = name) with _ | r
  · rw [hfind, RuleTable.get?_eq_none_iff, names, List.mem_map]
    rintro ⟨r, hr, hname⟩
    exact List.find?_eq_none.mp hfind r hr (decide_eq_true hname)
  · have hname : r.name = name := by simpa using List.find?_some hfind
    have hr : r ∈ t.rules := List.mem_of_find?_eq_some hfind
    rw [hfind, ← hname, get?_of_mem hr]

/-- No two places have rules of one name: the index could tell but one of them. -/
theorem place_unique {t : RuleTable} {i j : Nat} {r s : Rule} (hr : t.rules[i]? = some r)
    (hs : t.rules[j]? = some s) (hname : s.name = r.name) : j = i := by
  have hfirst : t.index[r.name]? = some i := RuleTable.index_eq_some_iff.mpr ⟨r, hr, rfl⟩
  have hsecond : t.index[r.name]? = some j := RuleTable.index_eq_some_iff.mpr ⟨s, hs, hname⟩
  exact Option.some.inj (hsecond.symm.trans hfirst)

/-- Every table is indexed by the names of its rules. -/
theorem indexed (t : RuleTable) : t.Indexed where
  distinct := t.nodup
  index_eq_some_iff _ _ := RuleTable.index_eq_some_iff
  get?_eq_some_iff name r := by
    constructor
    · intro h
      obtain ⟨hmem, rfl⟩ := mem_of_get? h
      obtain ⟨i, hi⟩ := List.mem_iff_getElem?.mp hmem
      exact ⟨i, hi, rfl, fun j s hs hname => place_unique hi hs hname⟩
    · rintro ⟨i, hi, rfl, -⟩
      exact get?_of_mem (List.mem_of_getElem? hi)
  get?_eq_none_iff _ := RuleTable.get?_eq_none_iff
  get?_eq_find? := t.get?_eq_find?
  commandRules name h := by
    obtain ⟨r, hr, rfl⟩ := List.mem_map.mp h
    obtain ⟨hmem, hset⟩ := List.mem_filter.mp hr
    exact ⟨r, get?_of_mem hmem, Option.isSome_iff_ne_none.mp hset⟩
  generates prefixes resource state want current := by
    have hnames : ∀ name ∈ t.commandRules, name ∈ t.names :=
      fun _ h => commandRules_subset_names t h
    cases state <;> exact ⟨_, Comparison.commands_of_known hnames _ _⟩

/-- **What records build.** The first pattern that does not compile is reported, otherwise the first
name that came before, and otherwise there is a table with the rules and names of the records in
order, in which every name stands for its rule and from which commands can always be generated. -/
theorem ofSpecs_builds (specs : List RuleSpec) :
    (∀ result, ofSpecs specs = result ↔ Built specs result) ∧
    ∀ t, ofSpecs specs = .ok t →
      specs.map Rule.ofSpec = t.rules.map .ok ∧ t.names = specs.map RuleSpec.name ∧ t.Indexed := by
  refine ⟨fun result => ⟨?_, ofSpecs_of_built⟩, fun t ht => ?_⟩
  · rintro rfl
    obtain ⟨result, hbuilt⟩ := exists_built specs
    rwa [ofSpecs_of_built hbuilt]
  · have hrules := map_ofSpec_of_ofSpecs ht
    exact ⟨hrules, names_of_map_ofSpec hrules, t.indexed⟩

/-- A pattern that does not compile is reported before a name that came before it. -/
example :
    (ofSpecs [⟨"vlan", "^vlan", .null, false, none, none, none⟩,
      ⟨"vlan", "^no vlan", .null, false, none, none, none⟩,
      ⟨"mtu", "^mtu (", .null, false, none, none, none⟩]).map names =
      .error (.invalidPattern "mtu") := by
  cbv

end RuleTable

end Converge
