import Converge.Proofs.Sequencing

/-!
# The decision table of a comparison

`Row` lists the rows of the table: what the values of a rule in a wanted and in a current tree ask
for. `Contributes` adds what is then rendered. A comparison of named rules writes what they
contribute, one behind the other, behind what was written before; the first name without a rule
ends it and keeps the contributions of the names before.

Main statements:
* `row_iff_verdict`: the rows are exclusive and cover all values;
* `contributes_iff`: each rule contributes in one way;
* `run_compare`, `run_compare_unknown`: a whole comparison, with rules for all names or not;
* `compare_append`, `run_compare_eq_ok_iff`: comparisons in parts and in a fresh sequence.
-/

namespace Converge

/-- All elements of a list have a property, or one is the first without. -/
theorem all_or_first_not {α : Type} (P : α → Prop) (xs : List α) :
    (∀ x ∈ xs, P x) ∨ ∃ before x after, xs = before ++ x :: after ∧ (∀ b ∈ before, P b) ∧ ¬P x := by
  induction xs with
  | nil => exact Or.inl (List.forall_mem_nil P)
  | cons x rest ih =>
    by_cases hx : P x
    · rcases ih with hall | ⟨before, y, after, rfl, hbefore, hy⟩
      · exact Or.inl (List.forall_mem_cons.mpr ⟨hx, hall⟩)
      · exact Or.inr ⟨x :: before, y, after, rfl, List.forall_mem_cons.mpr ⟨hx, hbefore⟩, hy⟩
    · exact Or.inr ⟨[], x, rest, rfl, List.forall_mem_nil P, hx⟩

namespace Dialect

variable {d : Dialect}

/-- A rule of the table is rendered. -/
theorem exists_render {name : String} (h : name ∈ d.table.names) (data : Tree) (negate : Bool) :
    ∃ r, d.render data name negate = .ok r := by
  cases hr : d.render data name negate with
  | ok r => exact ⟨r, rfl⟩
  | error f =>
    have hnone := (render_eq_error_iff.mp hr).1
    exact absurd h (RuleTable.get?_eq_none_iff.mp hnone)

/-- The lines of a rule for some data, none where no rule has the name. -/
def lines (d : Dialect) (data : Tree) (name : String) (negate : Bool) : List String :=
  match d.render data name negate with
  | .ok r => r.toLines
  | .error _ => []

theorem lines_of_render {data : Tree} {name : String} {negate : Bool} {r : Rendering}
    (h : d.render data name negate = .ok r) : d.lines data name negate = r.toLines := by
  rw [lines, h]

end Dialect

namespace Comparison

/-! ## Rows -/

/-- The rows of the decision table. A row that renders needs the wanted value to differ from the
current one. -/
inductive Row : (want current : Option Tree) → Option (Side × Bool) → Prop
  | absent : Row none none none
  | equal {w c : Tree} : w.same c = true → Row (some w) (some c) none
  /-- A flag that is wanted off and is not there. -/
  | alreadyOff : Row (some (.bool false)) none none
  | flag {b : Bool} {current : Option Tree} : (∀ c ∈ current, (Tree.bool b).same c = false) →
      (b = true ∨ current ≠ none) → Row (some (.bool b)) current (some (.want, !b))
  | value {w : Tree} {current : Option Tree} : (∀ c ∈ current, w.same c = false) →
      (∀ b, w ≠ .bool b) → Row (some w) current (some (.want, false))
  | flagLeft {b : Bool} : Row none (some (.bool b)) (some (.current, b))
  | valueLeft {c : Tree} : (∀ b, c ≠ .bool b) → Row none (some c) (some (.current, true))

theorem sameAs_eq_false_iff {w : Tree} {current : Option Tree} :
    sameAs w current = false ↔ ∀ c ∈ current, w.same c = false := by
  cases current <;> simp [sameAs]

theorem verdict_of_row {want current : Option Tree} {action : Option (Side × Bool)}
    (h : Row want current action) : verdict want current = action := by
  cases h with
  | absent => rfl
  | equal hsame => simp [verdict, sameAs, hsame]
  | alreadyOff => rfl
  | @flag b _ hne hb =>
    have hdiff := sameAs_eq_false_iff.mpr hne
    cases b with
    | true => simp [verdict, hdiff]
    | false =>
      have hthere : current.isNone = false := by
        rcases hb with hb | hb
        · cases hb
        · simpa [Option.isSome_iff_ne_none] using hb
      simp [verdict, hdiff, hthere]
  | @value w _ hne hw =>
    have hdiff := sameAs_eq_false_iff.mpr hne
    cases w with
    | bool b => exact absurd rfl (hw b)
    | _ => simp [verdict, hdiff]
  | flagLeft => rfl
  | @valueLeft c hc =>
    cases c with
    | bool b => exact absurd rfl (hc b)
    | _ => rfl

/-- The verdict is the row of a wanted value that differs from the current one. -/
theorem row_of_differs {w : Tree} {current : Option Tree} (h : sameAs w current = false) :
    Row (some w) current (verdict (some w) current) := by
  have hne := sameAs_eq_false_iff.mp h
  cases w with
  | bool b =>
    cases b with
    | true =>
      have hv : verdict (some (.bool true)) current = some (.want, false) := by simp [verdict, h]
      exact hv ▸ Row.flag hne (Or.inl rfl)
    | false =>
      cases current with
      | none => exact Row.alreadyOff
      | some c =>
        have hv : verdict (some (.bool false)) (some c) = some (.want, true) := by
          simp [verdict, h]
        exact hv ▸ Row.flag hne (Or.inr (by simp))
  | _ =>
    simp only [verdict, h]
    exact Row.value hne (by simp)

theorem row_verdict (want current : Option Tree) : Row want current (verdict want current) := by
  match want, current with
  | none, none => exact Row.absent
  | none, some (.bool b) => exact Row.flagLeft
  | none, some .null => exact Row.valueLeft (by simp)
  | none, some (.int _) => exact Row.valueLeft (by simp)
  | none, some (.float _) => exact Row.valueLeft (by simp)
  | none, some (.text _) => exact Row.valueLeft (by simp)
  | none, some (.list _) => exact Row.valueLeft (by simp)
  | none, some (.map _) => exact Row.valueLeft (by simp)
  | some w, current =>
    cases hs : sameAs w current with
    | false => exact row_of_differs hs
    | true =>
      cases current with
      | none => cases hs
      | some c =>
        have hv : verdict (some w) (some c) = none := by simp [verdict, hs]
        exact hv ▸ Row.equal hs

/-- For any two values exactly one row applies, and the verdict follows it. -/
theorem row_iff_verdict {want current : Option Tree} {action : Option (Side × Bool)} :
    Row want current action ↔ verdict want current = action :=
  ⟨verdict_of_row, fun h => h ▸ row_verdict want current⟩

/-! ## Contributions -/

/-- The tree of a side. -/
def Side.data (want current : Tree) : Side → Tree
  | .want => want
  | .current => current

/-- The lines that a name adds to a comparison: those of its rule as the row of the rule's values
asks for. -/
inductive Contributes (d : Dialect) (want current : Tree) (name : String) : List String → Prop
  | nothing {r : Rule} : d.table.get? name = some r →
      Row (lookup r.path want) (lookup r.path current) none → Contributes d want current name []
  | rendered {r : Rule} {side : Side} {negate : Bool} {shown : Rendering} :
      d.table.get? name = some r →
      Row (lookup r.path want) (lookup r.path current) (some (side, negate)) →
      d.render (side.data want current) name negate = .ok shown →
      Contributes d want current name shown.toLines

/-- What a rule of some name contributes, computed. -/
def needed (d : Dialect) (want current : Tree) (name : String) : List String :=
  match d.table.get? name with
  | none => []
  | some r =>
    match verdict (lookup r.path want) (lookup r.path current) with
    | none => []
    | some (side, negate) => d.lines (side.data want current) name negate

variable {d : Dialect} {want current : Tree} {name : String}

theorem needed_of_contributes {ls : List String} (h : Contributes d want current name ls) :
    name ∈ d.table.names ∧ needed d want current name = ls := by
  cases h with
  | nothing hr hrow =>
    refine ⟨RuleTable.mem_names_iff.mpr ⟨_, hr⟩, ?_⟩
    simp only [needed, hr, verdict_of_row hrow]
  | rendered hr hrow hshown =>
    refine ⟨RuleTable.mem_names_iff.mpr ⟨_, hr⟩, ?_⟩
    simp only [needed, hr, verdict_of_row hrow, Dialect.lines_of_render hshown]

theorem contributes_needed (h : name ∈ d.table.names) :
    Contributes d want current name (needed d want current name) := by
  obtain ⟨r, hr⟩ := RuleTable.mem_names_iff.mp h
  have hrow := row_verdict (lookup r.path want) (lookup r.path current)
  rcases hv : verdict (lookup r.path want) (lookup r.path current) with _ | ⟨side, negate⟩
  · have hnone : needed d want current name = [] := by simp only [needed, hr, hv]
    exact hnone ▸ Contributes.nothing hr (hv ▸ hrow)
  · obtain ⟨shown, hshown⟩ := Dialect.exists_render h (side.data want current) negate
    have hlines : needed d want current name = shown.toLines := by
      simp only [needed, hr, hv, Dialect.lines_of_render hshown]
    exact hlines ▸ Contributes.rendered hr (hv ▸ hrow) hshown

/-- Exactly the names of rules contribute, each in one way. -/
theorem contributes_iff {ls : List String} :
    Contributes d want current name ls ↔
      name ∈ d.table.names ∧ needed d want current name = ls := by
  constructor
  · exact needed_of_contributes
  · rintro ⟨h, rfl⟩
    exact contributes_needed h

/-! ## Whole comparisons -/

theorem run_emit_of_mem (h : name ∈ d.table.names) (data : Tree) (negate : Bool)
    (written : List String) :
    (emit d data name negate).run written =
      (.ok (d.lines data name negate).length, written ++ d.lines data name negate) := by
  obtain ⟨r, hr⟩ := Dialect.exists_render h data negate
  rw [run_emit, hr, Dialect.lines_of_render hr]

/-- A rule writes what it contributes behind what was written. -/
theorem run_compareRule_of_mem (h : name ∈ d.table.names) (want current : Tree)
    (written : List String) :
    (compareRule d want current name).run written =
      (.ok (), written ++ needed d want current name) := by
  obtain ⟨r, hr⟩ := RuleTable.mem_names_iff.mp h
  have hreq : d.table.require name = .ok r := by rw [RuleTable.require, hr]
  rw [compareRule, hreq, Session.run_bind_ok (Session.run_lift _ _), needed, hr]
  dsimp only
  rcases verdict (lookup r.path want) (lookup r.path current) with _ | ⟨side, negate⟩
  · simp
  · cases side <;> exact Session.run_bind_ok (run_emit_of_mem h _ _ _)

theorem run_compareRule_of_not_mem (h : name ∉ d.table.names) (want current : Tree)
    (written : List String) :
    (compareRule d want current name).run written = (.error (.unknownRule name), written) := by
  have hreq : d.table.require name = .error (.unknownRule name) := by
    rw [RuleTable.require, RuleTable.get?_eq_none_iff.mpr h]
  rw [compareRule, hreq, Session.run_bind_error (Session.run_lift _ _)]

/-- Comparing lists of names one behind the other is one comparison. -/
theorem compare_append (d : Dialect) (want current : Tree) (names more : List String) :
    compare d want current (names ++ more) =
      (do compare d want current names; compare d want current more) := by
  induction names with
  | nil => simp [compare]
  | cons name rest ih => simp [compare, ih]

theorem run_compare_cons (h : name ∈ d.table.names) (want current : Tree) (rest : List String)
    (written : List String) :
    (compare d want current (name :: rest)).run written =
      (compare d want current rest).run (written ++ needed d want current name) :=
  Session.run_bind_ok (run_compareRule_of_mem h want current written)

/-- Names of rules write their contributions in order. -/
theorem run_compare {names : List String} (h : ∀ name ∈ names, name ∈ d.table.names)
    (want current : Tree) (written : List String) :
    (compare d want current names).run written =
      (.ok (), written ++ names.flatMap (needed d want current)) := by
  induction names generalizing written with
  | nil => simp [compare]
  | cons name rest ih =>
    rw [run_compare_cons (h name List.mem_cons_self),
      ih (fun n hn => h n (List.mem_cons_of_mem _ hn)), List.flatMap_cons, List.append_assoc]

/-- The first name without a rule ends a comparison; what the names before contribute stays. -/
theorem run_compare_unknown {before after : List String} {unknown : String}
    (h : ∀ name ∈ before, name ∈ d.table.names) (hu : unknown ∉ d.table.names)
    (want current : Tree) (written : List String) :
    (compare d want current (before ++ unknown :: after)).run written =
      (.error (.unknownRule unknown), written ++ before.flatMap (needed d want current)) := by
  rw [compare_append, Session.run_bind_ok (run_compare h want current written)]
  exact Session.run_bind_error (run_compareRule_of_not_mem hu want current _)

theorem commands_of_known {names : List String} (h : ∀ name ∈ names, name ∈ d.table.names)
    (want current : Tree) :
    commands d names want current = .ok (names.flatMap (needed d want current)) := by
  rw [commands, run_compare h]
  rfl

theorem commands_of_unknown {before after : List String} {unknown : String}
    (h : ∀ name ∈ before, name ∈ d.table.names) (hu : unknown ∉ d.table.names)
    (want current : Tree) :
    commands d (before ++ unknown :: after) want current = .error (.unknownRule unknown) := by
  rw [commands, run_compare_unknown h hu]

/-- A comparison that succeeds extends what was written by what it gives on its own. -/
theorem run_compare_eq_ok_iff {names : List String} {written after : List String} :
    (compare d want current names).run written = (.ok (), after) ↔
      ∃ fresh, commands d names want current = .ok fresh ∧
        (extend fresh).run written = (.ok (), after) := by
  rcases all_or_first_not (· ∈ d.table.names) names with
    h | ⟨before, unknown, rest, rfl, hb, hu⟩
  · simp [run_compare h, commands_of_known h, extend]
  · rw [run_compare_unknown hb hu, commands_of_unknown hb hu]
    constructor
    · intro h
      cases h
    · rintro ⟨_, h, _⟩
      cases h

/-- **A comparison follows its decision table** name by name and only adds to what was written. -/
theorem compare_follows_table (d : Dialect) (want current : Tree) (names written : List String) :
    (∀ name ls, Contributes d want current name ls ↔
      name ∈ d.table.names ∧ needed d want current name = ls) ∧
    ((∀ name ∈ names, name ∈ d.table.names) →
      (compare d want current names).run written =
        (.ok (), written ++ names.flatMap (needed d want current))) ∧
    (∀ before unknown after, names = before ++ unknown :: after →
      (∀ name ∈ before, name ∈ d.table.names) → unknown ∉ d.table.names →
      (compare d want current names).run written =
        (.error (.unknownRule unknown), written ++ before.flatMap (needed d want current))) ∧
    (∀ more, compare d want current (names ++ more) =
      (do compare d want current names; compare d want current more)) ∧
    (∀ after, (compare d want current names).run written = (.ok (), after) ↔
      ∃ fresh, commands d names want current = .ok fresh ∧
        (extend fresh).run written = (.ok (), after)) := by
  refine ⟨fun name ls => contributes_iff, fun h => run_compare h want current written, ?_,
    compare_append d want current names, fun after => run_compare_eq_ok_iff⟩
  rintro before unknown after rfl hb hu
  exact run_compare_unknown hb hu want current written

end Comparison

end Converge
