import Converge.Proofs.Reapplied
import Converge.Proofs.Tree.Merging
import Mathlib.Data.List.Basic

/-!
# Rendering for a blank device

A blank device reports nothing, and its facts are taken to be the empty map or the empty list.
Merging over either gives the wanted tree, so the three states that bring wanted facts about all
compare the same two trees, and rendering, which asks no device, compares these as well. At a path
with a segment nothing is there on a blank device: only what is wanted there is set.

Main statement: `rendered_foretells_blank`.
-/

namespace Converge

namespace Tree

/-- The facts that stand for a device without any. -/
def Blank (t : Tree) : Prop := t = .empty ∨ t = .list []

theorem mergedFields_nil {fs : Fields Tree} (h : (Fields.keys fs).Nodup) :
    mergedFields [] fs = fs := by
  have hnil : (Fields.keys ([] : Fields Tree)).Nodup := List.nodup_nil
  refine Fields.ext_of_keys (nodup_keys_mergedFields hnil h) ?_ fun key => ?_
  · rw [keys_mergedFields h]
    simp [Fields.keys]
  · rw [get?_mergedFields h]
    simp [Fields.get?]

/-- What is merged over blank facts is left as it is. -/
theorem Blank.merged {blank want : Tree} (h : blank.Blank) (hw : want.WellFormed) :
    blank.merged want = want := by
  cases want with
  | map fs =>
    rcases h with rfl | rfl
    · rw [empty, Tree.merged, mergedFields_nil (wellFormed_map.mp hw).1]
    · simp only [Tree.merged]
  | _ => simp only [Tree.merged]

theorem Blank.get?_eq_none {blank : Tree} (h : blank.Blank) {path : String}
    (hpath : segments path ≠ []) : blank.get? path = none := by
  rw [Tree.get?]
  obtain ⟨segment, rest, hsegments⟩ := List.exists_cons_of_ne_nil hpath
  rw [hsegments, walk?]
  rcases h with rfl | rfl
  · rfl
  · rw [step?]
    cases Numeral.readIndex? segment.toList <;> rfl

end Tree

theorem RuleTable.flatMap_commandRules {α : Type} {t : RuleTable} {f : String → List α}
    {g : Rule → List α} (h : ∀ r ∈ t.rules, r.setval.isSome = true → f r.name = g r) :
    t.commandRules.flatMap f = (t.rules.filter fun r => r.setval.isSome).flatMap g := by
  rw [commandRules, List.flatMap_map]
  refine List.flatMap_congr fun r hr => ?_
  rw [List.mem_filter] at hr
  exact h r hr.1 hr.2

namespace Comparison

/-- Whether there is something to set for a rule: its path holds a value other than null and
false. -/
def Wanted (want : Tree) (r : Rule) : Prop :=
  ∃ v, want.get? r.path = some v ∧ v ≠ .null ∧ v ≠ .bool false

theorem wanted_iff {want : Tree} {r : Rule} :
    Wanted want r ↔ ∃ v, lookup r.path want = some v ∧ v ≠ .bool false := by
  unfold Wanted lookup
  rcases want.get? r.path with _ | u
  · simp
  · cases u <;> simp

instance (want : Tree) (r : Rule) : Decidable (Wanted want r) :=
  decidable_of_iff (∃ v ∈ lookup r.path want, v ≠ .bool false) (by simp [wanted_iff])

theorem needed_of_lookup_eq_none {d : Dialect} {want current : Tree} {r : Rule}
    (hr : d.table.get? r.name = some r) (h : lookup r.path current = none) :
    needed d want current r.name = if Wanted want r then d.lines want r.name false else [] := by
  simp only [needed, hr, h, wanted_iff]
  rcases lookup r.path want with _ | w
  · simp [verdict]
  · cases w with
    | bool b => cases b <;> simp [verdict, sameAs, Side.data]
    | _ => simp [verdict, sameAs, Side.data]

/-- On a blank device a comparison sets what is wanted, rule by rule. -/
theorem flatMap_needed_of_blank {d : Dialect} {want blank : Tree} (hblank : blank.Blank)
    (hpaths : ∀ r ∈ d.table.rules, r.setval.isSome = true → Tree.segments r.path ≠ []) :
    d.table.commandRules.flatMap (needed d want blank) =
      (d.table.rules.filter fun r => r.setval.isSome && decide (Wanted want r)).flatMap
        fun r => d.lines want r.name false := by
  have hneeded : ∀ r ∈ d.table.rules, r.setval.isSome = true → needed d want blank r.name =
      if Wanted want r then d.lines want r.name false else [] := by
    intro r hr hset
    have hnone := hblank.get?_eq_none (hpaths r hr hset)
    exact needed_of_lookup_eq_none (RuleTable.get?_of_mem hr) (by rw [lookup, hnone])
  -- What a rule needs is known by now, so the induction may forget that the rules are the table's.
  rw [RuleTable.flatMap_commandRules hneeded]
  induction d.table.rules with
  | nil => rfl
  | cons r rest ih =>
    by_cases hset : r.setval.isSome = true
    · by_cases hwanted : Wanted want r
      · simp [hset, hwanted, ih]
      · simp [hset, hwanted, ih]
    · simp [hset, ih]

end Comparison

namespace Resource

theorem target_of_blank {blank want : Tree} (h : blank.Blank) (hw : want.WellFormed)
    (state : State) : target state want blank = want := by
  unfold target
  split
  · exact h.merged hw
  · rfl

theorem generate_rendered (name : String) (d : Dialect) (want current : Tree) :
    (ofDialect name d).generate .rendered want current =
      .ok (d.table.commandRules.flatMap (Comparison.needed d want current)) :=
  generate_eq_goal name d .rendered want current

end Resource

namespace Run

variable {ω : Type} {o : Options} {r : Resource} {q : Request} {source : FactSource ω}

/-- A change whose commands are generated succeeds unless it has to push some and the device does
not take them or cannot be read again. -/
theorem change_succeeds_iff {device : Device ω} {s s₁ : ω} {g : Gathered} {commands : List String}
    (hg : (source.live device r.name).run s = (.ok g, s₁))
    (hc : r.generate q.state q.want (factsOr o g) = .ok commands) :
    (∃ outcome s', (change o r q source device).run s = (.ok outcome, s')) ↔
      commands = [] ∨ o.checkMode = true ∨
        ∃ s₂ g' s₃, (device.edit commands).run s₁ = (.ok (), s₂) ∧
          (source.live device r.name).run s₂ = (.ok g', s₃) := by
  constructor
  · rintro ⟨outcome, s', hrun⟩
    rw [run_change_of_ok hg hc] at hrun
    by_cases hne : commands = []
    · exact Or.inl hne
    cases hm : o.checkMode with
    | true => exact Or.inr (Or.inl rfl)
    | false =>
      rw [conclude_pushed hne hm] at hrun
      rcases hp : (device.edit commands).run s₁ with ⟨f | u, s₂⟩
      · rw [Session.run_bind_error hp] at hrun
        cases hrun
      rw [Session.run_bind_ok hp] at hrun
      rcases hg' : (source.live device r.name).run s₂ with ⟨f | g', s₃⟩
      · rw [Session.run_bind_error hg'] at hrun
        cases hrun
      · exact Or.inr (Or.inr ⟨s₂, g', s₃, rfl, hg'⟩)
  · intro h
    by_cases hne : commands = []
    · subst hne
      exact ⟨_, _, run_of_changeCourse (.settled hg hc)⟩
    cases hm : o.checkMode with
    | true => exact ⟨_, _, run_of_changeCourse (.checked hg hc hne hm)⟩
    | false =>
      rcases h with hnil | hcheck | ⟨s₂, g', s₃, hp, hg'⟩
      · exact absurd hnil hne
      · rw [hm] at hcheck
        cases hcheck
      · exact ⟨_, _, run_of_changeCourse (.pushed hg hc hne hm hp hg')⟩

section

variable {d : Dialect} {name : String} {config : Tree} (hconfig : config.WellFormed)
  (hleft : config.withoutEmpties.isEmpty = false) (hblank : o.emptyFacts.Blank)

include hleft in
theorem run_rendered_of_config (hs : q.state = .rendered) (hq : q.config = some config)
    (device : Option (Device ω)) (s : ω) :
    (run o (Resource.ofDialect name d) q source device).run s =
      (.ok { Outcome.none with rendered := some (d.table.commandRules.flatMap
        (Comparison.needed d config.withoutEmpties o.emptyFacts)) }, s) := by
  have hwant : q.want = config.withoutEmpties := by rw [Request.want, hq]; rfl
  have hfault : q.fault? device.isSome = none := by
    rw [Request.fault?_eq_none_iff, hs, hwant, hleft]
    exact ⟨fun _ => rfl, fun h => absurd h (by decide), fun h => absurd h (by decide)⟩
  have hgen := Resource.generate_rendered name d q.want o.emptyFacts
  rw [run_rendered hfault hs, hs, hgen, hwant]
  rfl

include hconfig hleft hblank

variable (d name) in
/-- From empty facts each state that brings wanted facts about generates the commands that are
rendered. -/
theorem generate_of_blank {g : Gathered} (hs : q.state ∈ State.wanting)
    (hq : q.config = some config) (hg : g.facts.isEmpty = true) :
    q.fault? true = none ∧
      (Resource.ofDialect name d).generate q.state q.want (factsOr o g) =
        .ok (d.table.commandRules.flatMap
          (Comparison.needed d config.withoutEmpties o.emptyFacts)) := by
  have hwant : q.want = config.withoutEmpties := by rw [Request.want, hq]; rfl
  have hfacts : factsOr o g = o.emptyFacts := by rw [factsOr, if_pos hg]
  constructor
  · rw [Request.fault?_of_wanting hs, hwant, hleft]
    rfl
  · rw [hwant, hfacts, Resource.generate_ofDialect hs,
      Resource.target_of_blank hblank (Tree.wellFormed_withoutEmpties hconfig)]

variable (ω d name) in
/-- **What is rendered is what a blank device needs.** Rendering always succeeds, with a device and
without one, and gives the commands of the merged, the replaced and the overridden state on empty
facts: a run generates them, reports them when it succeeds, and succeeds unless it has to push and
the device does not take them or cannot be read again. Where the path of every rule has a segment,
they set what is wanted, rule by rule. -/
theorem rendered_foretells_blank :
    ∃ commands : List String,
      (∀ (q : Request) (source : FactSource ω) (device : Option (Device ω)) (s : ω),
        q.state = .rendered → q.config = some config →
        (run o (Resource.ofDialect name d) q source device).run s =
          (.ok { Outcome.none with rendered := some commands }, s)) ∧
      (∀ (q : Request) (source : FactSource ω) (device : Device ω) (s s₁ : ω) (g : Gathered),
        q.state ∈ State.wanting → q.config = some config →
        (source.live device name).run s = (.ok g, s₁) → g.facts.isEmpty = true →
        (run o (Resource.ofDialect name d) q source (some device)).run s =
            (conclude o (Resource.ofDialect name d) source device g commands).run s₁ ∧
          (∀ outcome s', (run o (Resource.ofDialect name d) q source (some device)).run s =
            (.ok outcome, s') → outcome.commands = some commands) ∧
          ((∃ outcome s', (run o (Resource.ofDialect name d) q source (some device)).run s =
              (.ok outcome, s')) ↔
            commands = [] ∨ o.checkMode = true ∨
              ∃ s₂ g' s₃, (device.edit commands).run s₁ = (.ok (), s₂) ∧
                (source.live device name).run s₂ = (.ok g', s₃))) ∧
      ((∀ r ∈ d.table.rules, r.setval.isSome = true → Tree.segments r.path ≠ []) →
        commands = (d.table.rules.filter fun r =>
            r.setval.isSome && decide (Comparison.Wanted config.withoutEmpties r)).flatMap
          fun r => d.lines config.withoutEmpties r.name false) := by
  refine ⟨d.table.commandRules.flatMap (Comparison.needed d config.withoutEmpties o.emptyFacts),
    ?_, ?_, Comparison.flatMap_needed_of_blank hblank⟩
  · intro q source device s hs hq
    exact run_rendered_of_config hleft hs hq device s
  · intro q source device s s₁ g hs hq hserved hg
    obtain ⟨hfault, hgen⟩ := generate_of_blank d name hconfig hleft hblank hs hq hg
    rw [run_action hfault (State.isAction_of_wanting hs)]
    refine ⟨run_change_of_ok hserved hgen, ?_, change_succeeds_iff hserved hgen⟩
    -- Whatever course a successful run takes, it reports what was generated from the first reading.
    intro outcome s' hrun
    obtain ⟨steps, hcourse⟩ := exists_changeCourse hrun
    obtain ⟨g', s₂, commands, hg', hc, hcommands, -⟩ := report_of_changeCourse hcourse
    rw [hcommands, generated_unique hserved hgen hg' hc]

end

/-! ## A port -/

/-- The language of a port: its description, whether it is shut down, and its MTU. -/
def portDialect : Dialect where
  table := (RuleTable.ofSpecs
    [⟨"description", "^ description (.+)$", .null, false,
        some "description \x7b\x7b port.description \x7d\x7d", none, some "port.description"⟩,
      ⟨"shutdown", "^ shutdown$", .null, false, some "shutdown", none, some "port.shutdown"⟩,
      ⟨"mtu", "^ mtu ([0-9]+)$", .null, false, some "mtu \x7b\x7b port.mtu \x7d\x7d", none,
        some "port.mtu"⟩]).toOption.getD .empty
  prefixes := .standard

/-- A device that shows nothing and takes everything. -/
def blankDevice : Device Unit := ⟨fun _ => pure "", fun _ => pure ()⟩

/-- A port that is not to be shut down needs its description and its MTU alone. -/
theorem rendered_foretells_port :
    (run ⟨true, .list []⟩ (Resource.ofDialect "port" portDialect)
        ⟨.rendered, some (.map [("port", .map [("description", .text "up"), ("mtu", .int 9000),
          ("shutdown", .bool false)])]), none⟩
        (FactSource.ofTable portDialect.table "show") none).run () =
      (.ok { Outcome.none with rendered := some ["description up", "mtu 9000"] }, ()) ∧
    (run ⟨true, .list []⟩ (Resource.ofDialect "port" portDialect)
        ⟨.merged, some (.map [("port", .map [("description", .text "up"), ("mtu", .int 9000),
          ("shutdown", .bool false)])]), none⟩
        (FactSource.ofTable portDialect.table "show") (some blankDevice)).run () =
      (.ok { Outcome.none with
        commands := some ["description up", "mtu 9000"]
        before := some (.list [])
        after := some (.list [])
        changed := some true
        warnings := ["no port facts found in device output"] }, ()) := by
  have hconfig : (Tree.map [("port", .map [("description", .text "up"), ("mtu", .int 9000),
      ("shutdown", .bool false)])]).WellFormed := by
    simp [Tree.WellFormed, Tree.WellFormedFields, Fields.keys]
  have hserved : ((FactSource.ofTable portDialect.table "show").live blankDevice "port").run () =
      (.ok ⟨.empty, ["no port facts found in device output"]⟩, ()) := by
    show @Eq (Except Failure Gathered × Unit) _ _
    rfl
  have hblank : (Options.mk true (.list [])).emptyFacts.Blank := Or.inr rfl
  obtain ⟨commands, hrendered, hlive, hset⟩ :=
    rendered_foretells_blank Unit portDialect "port" hconfig (by decide) hblank
  have hcommands : commands = ["description up", "mtu 9000"] := by
    rw [hset (by decide +kernel)]
    decide +kernel
  subst hcommands
  refine ⟨hrendered _ _ _ _ rfl rfl, ?_⟩
  rw [(hlive _ _ _ _ _ _ (by decide) rfl hserved rfl).1]
  rfl

end Run

end Converge
