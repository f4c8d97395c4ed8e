import Converge.Proofs.Reapplied
import Converge.Proofs.Tree.KeyOrder

/-!
# Commands and the order of keys

The order in which keys stand in a configuration or in gathered facts never shows in commands that
templates make. Cleaning and merging may keep that order, but a rule looks values up by their keys,
compares them without it, and gives its template the data with keys in order.

Main statement: `generate_of_reordered`.
-/

namespace Converge

/-! ## Rules whose commands are templates -/

/-- That commands are made by a template and not by a function. -/
def Setval.IsTemplate : Setval → Prop
  | template _ => True
  | function _ => False

/-- That the commands of all rules are made by templates. -/
def RuleTable.Literal (t : RuleTable) : Prop :=
  ∀ r ∈ t.rules, (∀ v ∈ r.setval, v.IsTemplate) ∧ ∀ v ∈ r.remval, v.IsTemplate

/-- A table of records has templates alone. -/
theorem RuleTable.literal_ofSpecs {specs : List RuleSpec} {t : RuleTable}
    (h : RuleTable.ofSpecs specs = .ok t) : t.Literal := by
  intro r hr
  obtain ⟨s, -, hspec⟩ := RuleTable.exists_spec_of_mem h r hr
  obtain ⟨p, -, rfl⟩ := Rule.exists_pattern_of_ofSpec hspec
  simp [Setval.IsTemplate]

theorem Placeholder.evaluate_sorted {t : Tree} (ht : t.WellFormed) (s : String) (strict : Bool) :
    evaluate s t.sorted strict = evaluate s t strict := by
  unfold evaluate
  rw [Template.Value.ofTree_sorted ht]

theorem Setval.value_sorted {v : Setval} (hv : v.IsTemplate) {t : Tree} (ht : t.WellFormed) :
    v.value t.sorted = v.value t := by
  cases v with
  | template s => exact Placeholder.evaluate_sorted ht s false
  | function f => exact hv.elim

theorem Rule.commandText_sorted {r : Rule} {negate : Bool}
    (hr : ∀ v ∈ r.setter negate, v.IsTemplate) {t : Tree} (ht : t.WellFormed) :
    r.commandText negate t.sorted = r.commandText negate t := by
  unfold commandText
  cases hv : r.setter negate with
  | none => rfl
  | some v => simp only [Setval.value_sorted (hr v hv) ht]

theorem RuleTable.Literal.setter {t : RuleTable} (ht : t.Literal) {r : Rule} (hr : r ∈ t.rules)
    (negate : Bool) : ∀ v ∈ r.setter negate, v.IsTemplate := by
  obtain ⟨hset, hrem⟩ := ht r hr
  intro v hv
  cases negate with
  | false => exact hset v hv
  | true =>
    rcases Option.or_eq_some_iff.mp hv with hv | ⟨-, hv⟩
    · exact hrem v hv
    · exact hset v hv

/-- What templates make of data does not show the order of keys. -/
theorem Dialect.lines_sorted {d : Dialect} (hd : d.table.Literal) {t : Tree} (ht : t.WellFormed)
    (name : String) (negate : Bool) : d.lines t.sorted name negate = d.lines t name negate := by
  unfold lines render RuleTable.require
  cases hr : d.table.get? name with
  | none => rfl
  | some r =>
    have hmem : r ∈ d.table.rules := (RuleTable.mem_of_get? hr).1
    simp only [Except.map, Rule.commandText_sorted (hd.setter hmem negate) ht]

/-! ## What is compared -/

namespace Comparison

theorem lookup_sorted {t : Tree} (ht : t.WellFormed) (path : String) :
    lookup path t.sorted = (lookup path t).map Tree.sorted := by
  unfold lookup Tree.get?
  rw [Tree.walk?_sorted ht]
  cases Tree.walk? (Tree.segments path) t with
  | none => rfl
  | some u => cases u <;> rfl

theorem verdict_sorted {want current : Option Tree} (hw : ∀ w ∈ want, w.WellFormed)
    (hc : ∀ c ∈ current, c.WellFormed) :
    verdict (want.map Tree.sorted) (current.map Tree.sorted) = verdict want current := by
  cases want with
  | none =>
    cases current with
    | none => rfl
    | some c => cases c <;> rfl
  | some w =>
    have hsame : sameAs w.sorted (current.map Tree.sorted) = sameAs w current := by
      cases current with
      | none => rfl
      | some c => exact Tree.same_sorted (hw w rfl) (hc c rfl)
    have hthere : (current.map Tree.sorted).isNone = current.isNone := Option.isNone_map
    rw [Option.map_some]
    cases w with
    | bool b =>
      simp only [Tree.sorted] at hsame ⊢
      cases b <;> simp only [verdict, hsame, hthere]
    | _ =>
      simp only [Tree.sorted] at hsame ⊢
      simp only [verdict, hsame]

theorem needed_sorted {d : Dialect} (hd : d.table.Literal) {want current : Tree}
    (hw : want.WellFormed) (hc : current.WellFormed) (name : String) :
    needed d want.sorted current.sorted name = needed d want current name := by
  unfold needed
  cases d.table.get? name with
  | none => rfl
  | some r =>
    have hwant : ∀ w ∈ lookup r.path want, w.WellFormed := fun w h => wellFormed_lookup hw h
    have hcurrent : ∀ c ∈ lookup r.path current, c.WellFormed := fun c h => wellFormed_lookup hc h
    dsimp only
    rw [lookup_sorted hw, lookup_sorted hc, verdict_sorted hwant hcurrent]
    rcases verdict (lookup r.path want) (lookup r.path current) with _ | ⟨side, negate⟩
    · rfl
    · cases side with
      | want => exact Dialect.lines_sorted hd hw name negate
      | current => exact Dialect.lines_sorted hd hc name negate

end Comparison

/-! ## What is generated -/

namespace Resource

theorem goal_sorted {want current : Tree} (hw : want.WellFormed) (hc : current.WellFormed)
    (state : State) :
    (goal state want.sorted current.sorted).sorted = (goal state want current).sorted := by
  cases state with
  | merged => exact Tree.merged_sorted hc hw
  | deleted => rfl
  | purged => rfl
  | _ => exact Tree.sorted_sorted hw

/-- Commands are generated from the sorted forms of what is wanted and of what is there. -/
theorem generate_eq_of_sorted_eq {d : Dialect} (hd : d.table.Literal) {want want' current
    current' : Tree} (hw : want.WellFormed) (hw' : want'.WellFormed) (hc : current.WellFormed)
    (hc' : current'.WellFormed) (hwant : want.sorted = want'.sorted)
    (hcurrent : current.sorted = current'.sorted) (name : String) (state : State) :
    (ofDialect name d).generate state want current =
      (ofDialect name d).generate state want' current' := by
  have hgoal : (goal state want current).sorted = (goal state want' current').sorted := by
    rw [← goal_sorted hw hc, hwant, hcurrent, goal_sorted hw' hc']
  rw [generate_eq_goal, generate_eq_goal]
  refine congrArg Except.ok (List.flatMap_congr fun rule _ => ?_)
  rw [← Comparison.needed_sorted hd (wellFormed_goal hw hc) hc, hgoal, hcurrent,
    Comparison.needed_sorted hd (wellFormed_goal hw' hc') hc']

end Resource

open Converge.Tree in
/-- What configurations ask for that differ in the order of keys alone differs in it alone. -/
theorem Request.want_of_reordered {q q' : Request} (hq : Option.Rel Reordered q.config q'.config)
    (hdata : ∀ t ∈ q.config, t.WellFormed) :
    q.want.WellFormed ∧ q'.want.WellFormed ∧ q.want.sorted = q'.want.sorted := by
  unfold want
  generalize q.config = config at hq hdata
  generalize q'.config = config' at hq
  cases hq with
  | none => exact ⟨trivial, trivial, rfl⟩
  | @some t u h =>
    have ht := hdata t rfl
    obtain ⟨hu, hsorted⟩ := h.wellFormed_and_sorted_eq ht
    refine ⟨wellFormed_withoutEmpties ht, wellFormed_withoutEmpties hu, ?_⟩
    rw [Option.map_some, Option.map_some, Option.getD_some, Option.getD_some,
      ← withoutEmpties_sorted ht, hsorted, withoutEmpties_sorted hu]

namespace Run

open Converge.Tree

theorem factsOr_of_reordered {o : Options} (ho : o.emptyFacts.WellFormed) {g g' : Gathered}
    (hg : Reordered g.facts g'.facts) (hdata : g.facts.WellFormed) :
    (factsOr o g).WellFormed ∧ (factsOr o g').WellFormed ∧
      (factsOr o g).sorted = (factsOr o g').sorted := by
  obtain ⟨hdata', hsorted⟩ := hg.wellFormed_and_sorted_eq hdata
  have hempty : g.facts.isEmpty = g'.facts.isEmpty := by
    rw [← isEmpty_sorted, hsorted, isEmpty_sorted]
  unfold factsOr
  rw [hempty]
  split
  · exact ⟨ho, ho, rfl⟩
  · exact ⟨hdata, hdata', hsorted⟩

/-- **The order of keys never shows in commands.** From configurations and gathered facts that
differ in the order of keys alone, in maps at any depth, templates generate the same commands in
every state. -/
theorem generate_of_reordered {d : Dialect} (hd : d.table.Literal) (name : String) {o : Options}
    (ho : o.emptyFacts.WellFormed) {q q' : Request} (hs : q.state = q'.state)
    (hq : Option.Rel Reordered q.config q'.config) (hconfig : ∀ t ∈ q.config, t.WellFormed)
    {g g' : Gathered} (hg : Reordered g.facts g'.facts) (hfacts : g.facts.WellFormed) :
    ∃ commands,
      (Resource.ofDialect name d).generate q.state q.want (factsOr o g) = .ok commands ∧
      (Resource.ofDialect name d).generate q'.state q'.want (factsOr o g') = .ok commands := by
  obtain ⟨hw, hw', hwant⟩ := Request.want_of_reordered hq hconfig
  obtain ⟨hc, hc', hcurrent⟩ := factsOr_of_reordered ho hg hfacts
  have hgen := Resource.generate_eq_goal name d q.state q.want (factsOr o g)
  refine ⟨_, hgen, ?_⟩
  rw [← hgen, ← hs]
  exact (Resource.generate_eq_of_sorted_eq hd hw hw' hc hc' hwant hcurrent name q.state).symm

/-! ## Servers -/

/-- The language of some servers under their names: a line for each name. -/
def serverDialect : Dialect where
  table := (RuleTable.ofSpecs
    [⟨"servers", "^servers$", .null, false, some
        "\x7b% for name in servers %\x7dserver \x7b\x7b name \x7d\x7d\n\x7b% endfor %\x7d", none,
        none⟩]).toOption.getD .empty
  prefixes := .standard

theorem literal_serverDialect : serverDialect.table.Literal := by
  rw [serverDialect]
  dsimp only
  cases h : RuleTable.ofSpecs _ with
  | ok t => exact RuleTable.literal_ofSpecs h
  | error f => exact fun r hr => absurd hr List.not_mem_nil

/-- Some servers as data. -/
def servers (names : List String) : Tree :=
  .map [("servers", .map (names.map fun name => (name, .int 1)))]

theorem wellFormed_servers {names : List String} (h : names.Nodup) :
    (servers names).WellFormed := by
  have hone : (Tree.int 1).WellFormed := trivial
  simp [servers, Fields.keys, Function.comp_def, h, hone]

theorem reordered_servers {names names' : List String} (h : names.Perm names') :
    Reordered (servers names) (servers names') :=
  .value "servers" [] [] (.keys (h.map _))

/-- Servers are merged behind those that are there and written in the order of their names, however
either of them was ordered. -/
theorem generate_of_reordered_servers :
    (Resource.ofDialect "servers" serverDialect).generate .merged
        (Request.want ⟨.merged, some (servers ["d", "b"]), none⟩)
        (factsOr ⟨false, .empty⟩ ⟨servers ["c", "a"], []⟩) =
      .ok ["server a", "server b", "server c", "server d"] ∧
    (Resource.ofDialect "servers" serverDialect).generate .merged
        (Request.want ⟨.merged, some (servers ["b", "d"]), none⟩)
        (factsOr ⟨false, .empty⟩ ⟨servers ["a", "c"], []⟩) =
      .ok ["server a", "server b", "server c", "server d"] := by
  obtain ⟨commands, hfirst, hsecond⟩ := @generate_of_reordered serverDialect literal_serverDialect
    "servers" ⟨false, .empty⟩ wellFormed_empty
    ⟨.merged, some (servers ["d", "b"]), none⟩ ⟨.merged, some (servers ["b", "d"]), none⟩ rfl
    (.some (reordered_servers (.swap _ _ _)))
    (by simpa using wellFormed_servers (by decide))
    ⟨servers ["c", "a"], []⟩ ⟨servers ["a", "c"], []⟩ (reordered_servers (.swap _ _ _))
    (wellFormed_servers (by decide))
  have hcommands : (Resource.ofDialect "servers" serverDialect).generate .merged
      (Request.want ⟨.merged, some (servers ["d", "b"]), none⟩)
      (factsOr ⟨false, .empty⟩ ⟨servers ["c", "a"], []⟩) =
        .ok ["server a", "server b", "server c", "server d"] := by decide +kernel
  obtain rfl := Except.ok.inj (hfirst.symm.trans hcommands)
  exact ⟨hfirst, hsecond⟩

end Run

end Converge
