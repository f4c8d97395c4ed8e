import Converge.Proofs.DecisionTable
import Converge.Proofs.DeviceCalls
import Converge.Proofs.FactsData
import Converge.Proofs.Tree.Cleaning
import Mathlib.Control.Monad.Basic

/-!
# Applying gathered facts again

The facts of a device are wanted of it while it still answers the same. A run cleans what is wanted
and compares it with the facts as they were read, empty values included. So the device is left alone
exactly when no rule has anything to write on the way from the facts to what the run aims at: to
the cleaned facts, or in the merged state to those merged back over the facts.

Main statements:
* `needed_self`: data needs nothing to become itself;
* `run_leftAlone_iff`: when a run leaves a device alone;
* `target_of_clean`: where the target is the facts themselves, so that nothing is left to do.

The last section has a list that is left alone and one that is pushed, since it loses an empty item.
-/

namespace Converge

namespace Comparison

theorem wellFormed_lookup {path : String} {t u : Tree} (ht : t.WellFormed)
    (h : lookup path t = some u) : u.WellFormed := by
  unfold lookup at h
  split at h
  · cases h
  · exact Tree.wellFormed_get? ht h

theorem verdict_self {value : Option Tree} (h : ∀ u ∈ value, u.WellFormed) :
    verdict value value = none := by
  cases value with
  | none => rfl
  | some u => exact verdict_of_row (Row.equal (Tree.same_self (h u rfl)))

/-- Data needs no commands to become itself. -/
theorem needed_self (d : Dialect) {t : Tree} (h : t.WellFormed) (name : String) :
    needed d t t name = [] := by
  rw [needed]
  rcases d.table.get? name with _ | r
  · rfl
  · dsimp only
    rw [verdict_self fun u hu => wellFormed_lookup h hu]

end Comparison

namespace State

/-- The states that are to bring wanted facts about on a device. -/
def wanting : List State := [merged, replaced, overridden]

theorem mem_wanting_iff {s : State} :
    s ∈ wanting ↔ s = merged ∨ s = replaced ∨ s = overridden := by
  simp [wanting]

theorem isAction_of_wanting {s : State} (h : s ∈ wanting) : s.isAction = true := by
  rcases mem_wanting_iff.mp h with rfl | rfl | rfl <;> rfl

end State

/-- Where a device is there, wanting nothing is the only fault of a request that is to bring wanted
facts about. -/
theorem Request.fault?_of_wanting {q : Request} (hs : q.state ∈ State.wanting) :
    q.fault? true = if q.want.isEmpty then some (.emptyWant q.state) else none := by
  unfold Request.fault?
  rcases State.mem_wanting_iff.mp hs with hs | hs | hs <;> rw [hs] <;> cases q.want.isEmpty <;> rfl

namespace Resource

/-- The tree that a run aims at which is to bring wanted facts about. -/
def target (state : State) (want current : Tree) : Tree :=
  if state = .merged then current.merged want else want

/-- The tree that a run leads to in any state: nothing where something is deleted. -/
def goal (state : State) (want current : Tree) : Tree :=
  match state with
  | .deleted => .empty
  | .purged => .empty
  | _ => target state want current

theorem wellFormed_target {state : State} {want base : Tree} (hw : want.WellFormed)
    (hb : base.WellFormed) : (target state want base).WellFormed := by
  unfold target
  split
  · exact Tree.wellFormed_merged hb hw
  · exact hw

theorem wellFormed_goal {state : State} {want current : Tree} (hw : want.WellFormed)
    (hc : current.WellFormed) : (goal state want current).WellFormed := by
  unfold goal
  split
  · exact Tree.wellFormed_empty
  · exact Tree.wellFormed_empty
  · exact wellFormed_target hw hc

/-- The rules of a dialect generate what they need on the way to the goal, and never fail. -/
theorem generate_eq_goal (name : String) (d : Dialect) (state : State) (want current : Tree) :
    (ofDialect name d).generate state want current =
      .ok (d.table.commandRules.flatMap
        (Comparison.needed d (goal state want current) current)) := by
  have hcompared : (ofDialect name d).generate state want current =
      Comparison.commands d d.table.commandRules (goal state want current) current := by
    cases state <;> rfl
  rw [hcompared]
  exact Comparison.commands_of_known (fun n hn => d.table.commandRules_subset_names hn) _ _

/-- Where wanted facts are to be brought about, the goal is the target. -/
theorem generate_ofDialect {state : State} (hs : state ∈ State.wanting) (name : String)
    (d : Dialect) (want current : Tree) :
    (ofDialect name d).generate state want current =
      .ok (d.table.commandRules.flatMap
        (Comparison.needed d (target state want current) current)) := by
  rw [generate_eq_goal]
  rcases State.mem_wanting_iff.mp hs with rfl | rfl | rfl <;> rfl

/-- The target is the facts themselves where cleaning changes nothing of them, and in the merged
state where it changes no list but in whole. -/
theorem target_of_clean {f : Tree} (hdata : f.WellFormed) {state : State}
    (h : f.withoutEmpties = f ∨
      state = .merged ∧ f.ListsSettled ∧ f.withoutEmpties.isEmpty = false) :
    target state f.withoutEmpties f = f := by
  unfold target
  rcases h with hclean | ⟨rfl, hlists, hleft⟩
  · rw [hclean]
    split
    · exact Tree.merged_self hdata
    · rfl
  · rw [if_pos rfl]
    exact Tree.merged_withoutEmpties hdata hlists hleft

end Resource

namespace Run

variable {ω : Type}

/-- What a run reports that finds the facts as they are wanted. -/
def leftAlone (f : Tree) : Outcome :=
  { Outcome.none with commands := some [], before := some f, changed := some false }

/-! ## Reading the same facts again -/

theorem factsOr_of_full {f : Tree} (o : Options) (hfull : f.isEmpty = false)
    (warnings : List String) : factsOr o ⟨f, warnings⟩ = f := by
  simp [factsOr, hfull]

section

variable {d : Dialect} {o : Options} {name command output : String} {device : Device ω} {f : Tree}
  {q : Request} {s s' : ω}

theorem run_recording_of_get (hget : (device.get command).run s = (.ok output, s'))
    (calls : List Call) :
    (device.recording.get command).run (calls, s) =
      (.ok output, calls ++ [.get command], s') := by
  rw [Device.run_recording_get, hget]

variable (hget : (device.get command).run s = (.ok output, s'))
  (hf : Facts.ofText d.table output = .ok f) (hfull : f.isEmpty = false)

include hget hf hfull

theorem run_live_of_get (name : String) :
    ((FactSource.ofTable d.table command).live device name).run s = (.ok ⟨f, []⟩, s') := by
  have hout : FactSource.ofOutput d.table name output = .ok ⟨f, []⟩ := by
    simp [FactSource.ofOutput, hf, hfull]
  rw [run_live_of_output hget, hout]

theorem run_gathered_of_get (hs : q.state = .gathered) :
    (run o (Resource.ofDialect name d) q (FactSource.ofTable d.table command)
        (some device)).run s =
      (.ok { Outcome.none with gathered := some f, changed := some false }, s') := by
  have hlive := run_live_of_get hget hf hfull (Resource.ofDialect name d).name
  rw [run_gathered (Request.fault?_of_gathered hs) hs, Session.run_bind_ok hlive,
    factsOr_of_full o hfull]
  rfl

/-- A run leaves a device alone exactly when no rule needs anything. -/
theorem run_leftAlone_iff (hs : q.state ∈ State.wanting) (hw : q.want.isEmpty = false) :
    (run o (Resource.ofDialect name d) q (FactSource.ofTable d.table command)
        (some device)).run s = (.ok (leftAlone f), s') ↔
      ∀ rule ∈ d.table.commandRules,
        Comparison.needed d (Resource.target q.state q.want f) f rule = [] := by
  have hfault : q.fault? true = none := by
    rw [Request.fault?_of_wanting hs, hw]
    rfl
  have hlive := run_live_of_get hget hf hfull (Resource.ofDialect name d).name
  have hfacts := factsOr_of_full o hfull []
  have hgen : (Resource.ofDialect name d).generate q.state q.want (factsOr o ⟨f, []⟩) =
      .ok (d.table.commandRules.flatMap
        (Comparison.needed d (Resource.target q.state q.want f) f)) := by
    rw [hfacts]
    exact Resource.generate_ofDialect hs name d q.want f
  rw [run_action hfault (State.isAction_of_wanting hs), ← List.flatMap_eq_nil_iff]
  constructor
  · intro hran
    obtain ⟨steps, hcourse⟩ := exists_changeCourse hran
    obtain ⟨g, s₁, commands, hg, hc, hcommands, -⟩ := report_of_changeCourse hcourse
    -- The same facts were gathered, so the reported commands are those that the rules need.
    rw [generated_unique hlive hgen hg hc]
    exact (Option.some.inj hcommands).symm
  · intro hnone
    rw [hnone] at hgen
    have hran := run_of_changeCourse (ChangeCourse.settled hlive hgen)
    rw [report, hfacts] at hran
    exact hran

/-- Nothing is left to do where the target is the facts themselves. -/
theorem run_of_target_eq (ht : d.table.WellFormed) (hs : q.state ∈ State.wanting)
    (hw : q.want.isEmpty = false) (htarget : Resource.target q.state q.want f = f) :
    (run o (Resource.ofDialect name d) q (FactSource.ofTable d.table command)
        (some device)).run s = (.ok (leftAlone f), s') := by
  rw [run_leftAlone_iff hget hf hfull hs hw, htarget]
  intro rule _
  exact Comparison.needed_self d (Facts.wellFormed_ofText ht hf) rule

end

/-! ## Gathered facts -/

section

variable (d : Dialect) (o : Options) (name command : String) (device : Device ω)

/-- A run of the rules of a dialect on a recorded device whose facts the table of the dialect
reads. -/
def recordedRun (q : Request) : Session (List Call × ω) Outcome :=
  run o (Resource.ofDialect name d) q (FactSource.ofTable d.table command) (some device.recording)

/-- **Gathered facts that are applied again** while the device answers the same. They are refused
where cleaning leaves nothing of them. Otherwise the device is only read and left alone exactly when
no rule contributes a command between the target and the facts; so it is where cleaning changes
nothing, and in the merged state where it changes no list but in whole. -/
theorem reapply_gathered (ht : d.table.WellFormed) {output : String} {f : Tree}
    (hf : Facts.ofText d.table output = .ok f) (hfull : f.isEmpty = false) {s s' : ω}
    (hget : (device.get command).run s = (.ok output, s')) (calls : List Call) :
    (∀ q : Request, q.state = .gathered →
      (recordedRun d o name command device q).run (calls, s) =
        (.ok { Outcome.none with gathered := some f, changed := some false },
          calls ++ [.get command], s')) ∧
    ∀ q : Request, q.config = some f → q.state ∈ State.wanting →
      (f.withoutEmpties.isEmpty = true →
        (recordedRun d o name command device q).run (calls, s) =
          (.error (.emptyWant q.state), calls, s)) ∧
      (f.withoutEmpties.isEmpty = false →
        ((recordedRun d o name command device q).run (calls, s) =
            (.ok (leftAlone f), calls ++ [.get command], s') ↔
          ∀ rule ∈ d.table.commandRules, Comparison.Contributes d
            (Resource.target q.state f.withoutEmpties f) f rule [])) ∧
      (f.withoutEmpties = f ∨
          q.state = .merged ∧ f.ListsSettled ∧ f.withoutEmpties.isEmpty = false →
        (recordedRun d o name command device q).run (calls, s) =
          (.ok (leftAlone f), calls ++ [.get command], s')) := by
  have hread := run_recording_of_get hget calls
  refine ⟨fun q hs => run_gathered_of_get hread hf hfull hs, fun q hq hs => ?_⟩
  have hwant : q.want = f.withoutEmpties := by rw [Request.want, hq]; rfl
  refine ⟨?_, ?_, ?_⟩
  · intro hnone
    have hfault : q.fault? (some device.recording).isSome = some (.emptyWant q.state) := by
      rw [Option.isSome_some, Request.fault?_of_wanting hs, hwant, hnone]
      rfl
    rw [recordedRun, run_refused hfault]
    rfl
  · intro hleft
    rw [← hwant] at hleft ⊢
    rw [recordedRun, run_leftAlone_iff hread hf hfull hs hleft]
    refine forall₂_congr fun rule hrule => ?_
    rw [Comparison.contributes_iff]
    exact ⟨fun h => ⟨d.table.commandRules_subset_names hrule, h⟩, fun h => h.2⟩
  · intro hclean
    have hleft : q.want.isEmpty = false := by
      rcases hclean with hsame | ⟨-, -, hleft⟩
      · rw [hwant, hsame, hfull]
      · rw [hwant, hleft]
    refine run_of_target_eq hread hf hfull ht hs hleft ?_
    rw [hwant]
    exact Resource.target_of_clean (Facts.wellFormed_ofText ht hf) hclean

end

/-! ## Tags -/

/-- The language of one rule: the line `tags` stands for a list of tags. -/
def tagDialect (tags : List Tree) : Dialect where
  table := (RuleTable.ofSpecs
    [⟨"tags", "^tags$", .map [("tags", .list tags)], false, some "tags a", none, none⟩]
    ).toOption.getD .empty
  prefixes := .standard

/-- A device that always shows the line `tags` and takes everything. -/
def tagDevice : Device Unit := ⟨fun _ => pure "tags", fun _ => pure ()⟩

theorem wellFormed_tagDialect {tags : List Tree} (h : ∀ v ∈ tags, v.WellFormed) :
    (tagDialect tags).table.WellFormed := by
  rw [tagDialect]
  cases ht : RuleTable.ofSpecs
      [⟨"tags", "^tags$", .map [("tags", .list tags)], false, some "tags a", none, none⟩] with
  | ok t => exact RuleTable.wellFormed_ofSpecs (by simpa [Fields.keys] using h) ht
  | error f => exact fun r hr => absurd hr List.not_mem_nil

/-- A list without empty items is left alone. -/
theorem reapply_tags :
    (recordedRun (tagDialect [.text "a"]) ⟨false, .empty⟩ "tags" "show" tagDevice
        ⟨.replaced, some (.map [("tags", .list [.text "a"])]), none⟩).run ([], ()) =
      (.ok (leftAlone (.map [("tags", .list [.text "a"])])), [.get "show"], ()) := by
  have ht : (tagDialect [.text "a"]).table.WellFormed :=
    wellFormed_tagDialect (by simp [Tree.WellFormed])
  have hf : Facts.ofText (tagDialect [.text "a"]).table "tags" =
      .ok (.map [("tags", .list [.text "a"])]) := by decide +kernel
  have hget : (tagDevice.get "show").run () = (.ok "tags", ()) := Session.run_pure _ _
  have hclean : (Tree.map [("tags", .list [.text "a"])]).withoutEmpties =
      .map [("tags", .list [.text "a"])] := by decide
  have hreapplied := reapply_gathered (tagDialect [.text "a"]) ⟨false, .empty⟩ "tags" "show"
    tagDevice ht hf rfl hget []
  have hreplaced := hreapplied.2 ⟨.replaced, some (.map [("tags", .list [.text "a"])]), none⟩ rfl
    (by decide)
  exact hreplaced.2.2 (Or.inl hclean)

/-- A list that loses an empty item is pushed, though the facts were gathered from the device that
still shows the same. -/
theorem reapply_pushes :
    (recordedRun (tagDialect [.null, .text "a"]) ⟨false, .empty⟩ "tags" "show" tagDevice
        ⟨.gathered, none, none⟩).run ([], ()) =
      (.ok { Outcome.none with
          gathered := some (.map [("tags", .list [.null, .text "a"])]), changed := some false },
        [.get "show"], ()) ∧
    (recordedRun (tagDialect [.null, .text "a"]) ⟨false, .empty⟩ "tags" "show" tagDevice
        ⟨.merged, some (.map [("tags", .list [.null, .text "a"])]), none⟩).run ([], ()) =
      (.ok { Outcome.none with
          commands := some ["tags a"]
          before := some (.map [("tags", .list [.null, .text "a"])])
          after := some (.map [("tags", .list [.null, .text "a"])])
          changed := some true },
        [.get "show", .edit ["tags a"], .get "show"], ()) := by
  constructor
  · show @Eq (Except Failure Outcome × List Call × Unit) _ _
    decide +kernel
  · show @Eq (Except Failure Outcome × List Call × Unit) _ _
    decide +kernel

end Run

end Converge
