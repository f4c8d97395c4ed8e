import Converge.Proofs.BlankDevice
import Converge.Proofs.Watching

/-!
# Clearing a device

Deleting and purging compare the facts of a device with nothing. What the request wants of the
device plays no part: its configuration is cleaned but never read. A rule whose path has a segment
finds nothing wanted there, so its commands depend on the facts alone: what holds a value is
removed, while a flag that is off is set.

Main statement: `clears_regardless`.
-/

namespace Converge

namespace State

/-- The states that are to leave nothing of a resource on a device. -/
def clearing : List State := [deleted, purged]

theorem mem_clearing_iff {s : State} : s ∈ clearing ↔ s = deleted ∨ s = purged := by
  simp [clearing]

theorem isAction_of_clearing {s : State} (h : s ∈ clearing) : s.isAction = true := by
  rcases mem_clearing_iff.mp h with rfl | rfl <;> rfl

end State

/-- A missing device is the only fault of a request to clear one. -/
theorem Request.fault?_of_clearing {q : Request} (hs : q.state ∈ State.clearing)
    (connected : Bool) :
    q.fault? connected = if connected then none else some (.missingConnection q.state) := by
  unfold Request.fault?
  rcases State.mem_clearing_iff.mp hs with hs | hs <;> rw [hs] <;> cases connected <;> rfl

namespace Comparison

/-- What removes the value that some facts hold at the path of a rule. There is nothing to remove
where none or a null stands, and a flag that is off is set. -/
def removal (d : Dialect) (current : Tree) (r : Rule) : List String :=
  match current.get? r.path with
  | none => []
  | some .null => []
  | some (.bool false) => d.lines current r.name false
  | some _ => d.lines current r.name true

/-- What removes all that the rules with commands find in some facts. -/
def removals (d : Dialect) (current : Tree) : List String :=
  (d.table.rules.filter fun r => r.setval.isSome).flatMap (removal d current)

theorem needed_of_nothing_wanted {d : Dialect} {want current : Tree} {r : Rule}
    (hr : d.table.get? r.name = some r) (h : lookup r.path want = none) :
    needed d want current r.name = removal d current r := by
  simp only [needed, hr, h]
  rw [removal, lookup]
  rcases current.get? r.path with _ | c
  · rfl
  · cases c with
    | bool b => cases b <;> rfl
    | _ => rfl

/-- Where nothing is wanted, all that is there is removed, rule by rule. -/
theorem flatMap_needed_of_empty {d : Dialect}
    (hpaths : ∀ r ∈ d.table.rules, r.setval.isSome = true → Tree.segments r.path ≠ [])
    (current : Tree) :
    d.table.commandRules.flatMap (needed d .empty current) = removals d current := by
  refine RuleTable.flatMap_commandRules fun r hr hset => ?_
  have hnone : Tree.empty.get? r.path = none :=
    Tree.Blank.get?_eq_none (Or.inl rfl) (hpaths r hr hset)
  exact needed_of_nothing_wanted (RuleTable.get?_of_mem hr) (by rw [lookup, hnone])

end Comparison

namespace Resource

theorem goal_of_clearing {state : State} (hs : state ∈ State.clearing) (want current : Tree) :
    goal state want current = .empty := by
  rcases State.mem_clearing_iff.mp hs with rfl | rfl <;> rfl

theorem generate_of_clearing (name : String) (d : Dialect) {state : State}
    (hs : state ∈ State.clearing) (want current : Tree) :
    (ofDialect name d).generate state want current =
      .ok (d.table.commandRules.flatMap (Comparison.needed d .empty current)) := by
  rw [generate_eq_goal, goal_of_clearing hs]

end Resource

namespace Run

variable {ω : Type} {o : Options} {d : Dialect} {name : String} {q q' : Request}
  {source : FactSource ω}

/-- Of a request to clear a device the state alone matters. -/
theorem run_eq_of_clearing (hs : q.state ∈ State.clearing) (hq : q'.state = q.state)
    (device : Option (Device ω)) :
    run o (Resource.ofDialect name d) q' source device =
      run o (Resource.ofDialect name d) q source device := by
  have hs' : q'.state ∈ State.clearing := hq ▸ hs
  cases device with
  | none =>
    rw [run_refused (Request.fault?_of_clearing hs' false),
      run_refused (Request.fault?_of_clearing hs false), hq]
  | some device =>
    rw [run_action (Request.fault?_of_clearing hs' true) (State.isAction_of_clearing hs'),
      run_action (Request.fault?_of_clearing hs true) (State.isAction_of_clearing hs),
      change_eq, change_eq]
    simp only [Resource.generate_of_clearing name d hs', Resource.generate_of_clearing name d hs]

variable (ω o d name) in
/-- **Clearing a device removes what is there, whatever is wanted.** Requests in one of the states
that clear a device have the same runs, with the same asks, for all configurations and without one.
The commands depend on the facts alone and are always generated. Where the path of every rule has a
segment, they remove what is there, rule by rule, and a run that succeeds reports them. -/
theorem clears_regardless {state : State} (hs : state ∈ State.clearing) :
    (∀ (q q' : Request) (source : FactSource ω) (device : Option (Device ω)),
      q.state = state → q'.state = state →
      run o (Resource.ofDialect name d) q source device =
          run o (Resource.ofDialect name d) q' source device ∧
        ∀ s, watch o (Resource.ofDialect name d) q source device s =
          watch o (Resource.ofDialect name d) q' source device s) ∧
    (∀ current, ∃ commands, ∀ want,
      (Resource.ofDialect name d).generate state want current = .ok commands) ∧
    ((∀ r ∈ d.table.rules, r.setval.isSome = true → Tree.segments r.path ≠ []) →
      (∀ want current, (Resource.ofDialect name d).generate state want current =
        .ok (Comparison.removals d current)) ∧
      ∀ (q : Request) (source : FactSource ω) (device : Device ω) (s s₁ : ω) (g : Gathered),
        q.state = state → (source.live device name).run s = (.ok g, s₁) →
        (run o (Resource.ofDialect name d) q source (some device)).run s =
            (conclude o (Resource.ofDialect name d) source device g
              (Comparison.removals d (factsOr o g))).run s₁ ∧
          ∀ outcome s', (run o (Resource.ofDialect name d) q source (some device)).run s =
            (.ok outcome, s') → outcome.commands = some (Comparison.removals d (factsOr o g))) := by
  refine ⟨?_, ?_, fun hpaths => ?_⟩
  · intro q q' source device hq hq'
    have hsame : q.state = q'.state := hq.trans hq'.symm
    have hs' : q'.state ∈ State.clearing := hq' ▸ hs
    refine ⟨run_eq_of_clearing hs' hsame device, fun s => ?_⟩
    rw [watch, watch, run_eq_of_clearing hs' hsame]
  · exact fun current => ⟨_, fun want => Resource.generate_of_clearing name d hs want current⟩
  · have hgen : ∀ want current, (Resource.ofDialect name d).generate state want current =
        .ok (Comparison.removals d current) := by
      intro want current
      rw [Resource.generate_of_clearing name d hs, Comparison.flatMap_needed_of_empty hpaths]
    refine ⟨hgen, ?_⟩
    rintro q source device s s₁ g rfl hg
    have hgen' := hgen q.want (factsOr o g)
    rw [run_action (Request.fault?_of_clearing hs true) (State.isAction_of_clearing hs)]
    refine ⟨run_change_of_ok hg hgen', fun outcome s' hrun => ?_⟩
    obtain ⟨steps, hcourse⟩ := exists_changeCourse hrun
    obtain ⟨g', s₂, commands, hg', hc, hcommands, -⟩ := report_of_changeCourse hcourse
    rw [hcommands, generated_unique hg hgen' hg' hc]

/-! ## A port that is cleared -/

/-- The source that has the same to say of every device. -/
def knownFacts (facts : Tree) : FactSource ω :=
  ⟨fun _ _ => pure ⟨facts, []⟩, fun _ _ => pure ⟨facts, []⟩⟩

/-- The description of a port is removed and its flag set, though a description is wanted and the
flag is off. -/
theorem clears_port :
    (run ⟨true, .empty⟩ (Resource.ofDialect "port" portDialect)
        ⟨.deleted, some (.map [("port", .map [("description", .text "up")])]), none⟩
        (knownFacts (.map [("port", .map [("description", .text "up"), ("shutdown", .bool false),
          ("mtu", .null)])])) (some blankDevice)).run () =
      (.ok { Outcome.none with
        commands := some ["no description up", "shutdown"]
        before := some (.map [("port", .map [("description", .text "up"),
          ("shutdown", .bool false), ("mtu", .null)])])
        after := some (.map [("port", .map [("description", .text "up"),
          ("shutdown", .bool false), ("mtu", .null)])])
        changed := some true }, ()) := by
  have hs : State.deleted ∈ State.clearing := by decide
  obtain ⟨-, -, hremoved⟩ := clears_regardless Unit ⟨true, .empty⟩ portDialect "port" hs
  obtain ⟨-, hrun⟩ := hremoved (by decide +kernel)
  rw [(hrun _ _ _ _ _ _ rfl (Session.run_pure _ _)).1]
  have hcommands : Comparison.removals portDialect (.map [("port", .map
      [("description", .text "up"), ("shutdown", .bool false), ("mtu", .null)])]) =
      ["no description up", "shutdown"] := by decide +kernel
  rw [factsOr, if_neg (by decide), hcommands]
  rfl

end Run

end Converge
