import Converge.Dialect
import Converge.Proofs.Text.OneLine

/-!
# Commands that set and commands that remove

The lines of a rule come from one template, or none, and get one word in front, or none. A template
that is missing or does not evaluate gives no lines; only a name without a rule is a failure. A rule
without a template of its own for removing is removed by the lines that set it: the two renderings
differ in the words in front alone, and these can be taken off again.

Main statement: `Dialect.render_mirrored`.
-/

namespace Converge

/-- The lines of what a template gives for some data: none where there is no template, where it does
not evaluate and where it gives nothing. -/
def Setval.rawLines (data : Tree) : Option Setval → List String
  | none => []
  | some v =>
    match v.value data with
    | .ok (some t) => Rendering.valueLines t
    | .ok none => []
    | .error _ => []

theorem Rule.toLines_commandText (r : Rule) (negate : Bool) (data : Tree) :
    (r.commandText negate data).toLines = Setval.rawLines data (r.setter negate) := by
  unfold commandText
  cases r.setter negate with
  | none => rfl
  | some v =>
    simp only [Setval.rawLines]
    cases v.value data with
    | error f => rfl
    | ok t =>
      cases t with
      | none => rfl
      | some t => exact Rendering.toLines_ofLines (Rendering.valueLines t)

namespace Prefixes

variable {p : Prefixes} {negate : Bool}

theorem isEmpty_apply (r : Rendering) : (p.apply negate r).isEmpty = r.isEmpty := by
  unfold apply
  split
  · rfl
  · cases r <;> rfl

/-- A line without the word in front and the space behind it, if it starts with both. -/
def takeOff? (p : Prefixes) (negate : Bool) (line : String) : Option String :=
  match p.word? negate with
  | none => some line
  | some w => (Text.after? (w ++ " ").toList line.toList).map String.ofList

/-- Without the words that were put in front, the lines are what they were. -/
theorem map_takeOff?_toLines_apply (r : Rendering) :
    (p.apply negate r).toLines.map (p.takeOff? negate) = r.toLines.map some := by
  rw [toLines_apply]
  cases hword : p.word? negate with
  | none => exact List.map_congr_left fun line _ => by rw [takeOff?, hword]
  | some w =>
    rw [List.map_map]
    refine List.map_congr_left fun line _ => ?_
    have hrest : Text.after? (w ++ " ").toList (w ++ " " ++ line).toList = some line.toList :=
      Text.after?_eq_some_iff.mpr String.toList_append
    simp only [Function.comp_apply, takeOff?, hword, hrest, Option.map_some, String.ofList_toList]

theorem word?_false_of_set {w : String} (hset : p.set = some w) (hw : w ≠ "") :
    p.word? false = some w := by
  simp [word?, hset, hw]

theorem word?_false_of_unset (h : ∀ w, p.set = some w → w = "") : p.word? false = none := by
  rw [word?, if_neg Bool.false_ne_true, Option.filter_eq_none_iff]
  intro w hw
  simp [h w hw]

end Prefixes

/-! ## Rules without a template for removing -/

namespace Rule

variable {r : Rule} (h : r.remval = none)

include h

theorem setter_of_remval (negate : Bool) : r.setter negate = r.setval := by
  cases negate <;> simp [setter, h]

theorem isEmpty_apply_commandText (p : Prefixes) (data : Tree) :
    (p.apply false (r.commandText false data)).isEmpty =
      (p.apply true (r.commandText true data)).isEmpty := by
  rw [Prefixes.isEmpty_apply, Prefixes.isEmpty_apply, commandText, commandText,
    setter_of_remval h, setter_of_remval h]

theorem map_takeOff?_commandText (p : Prefixes) (negate : Bool) (data : Tree) :
    (p.apply negate (r.commandText negate data)).toLines.map (p.takeOff? negate) =
      (Setval.rawLines data r.setval).map some := by
  rw [Prefixes.map_takeOff?_toLines_apply, toLines_commandText, setter_of_remval h]

theorem length_apply_commandText (p : Prefixes) (negate : Bool) (data : Tree) :
    (p.apply negate (r.commandText negate data)).toLines.length =
      (Setval.rawLines data r.setval).length := by
  have hlength := congrArg List.length (map_takeOff?_commandText h p negate data)
  rwa [List.length_map, List.length_map] at hlength

end Rule

namespace Dialect

/-- **What rendering gives.** It fails exactly for a name without a rule. Otherwise each line of the
template in force has the word for removing in front, or that for setting if there is one that is
not empty. Where a rule has no template for removing, setting and removing give no lines together,
and the same lines once the words in front are taken off. -/
theorem render_mirrored (d : Dialect) (data : Tree) (name : String) :
    (∀ negate f, d.render data name negate = .error f ↔
      name ∉ d.table.names ∧ f = .unknownRule name) ∧
    ∀ r, d.table.get? name = some r → ∃ setting removing,
      d.render data name false = .ok setting ∧ d.render data name true = .ok removing ∧
      removing.toLines = (Setval.rawLines data (r.remval.or r.setval)).map
        (fun line => d.prefixes.remove ++ " " ++ line) ∧
      (∀ w, d.prefixes.set = some w → w ≠ "" →
        setting.toLines = (Setval.rawLines data r.setval).map fun line => w ++ " " ++ line) ∧
      ((∀ w, d.prefixes.set = some w → w = "") →
        setting.toLines = Setval.rawLines data r.setval) ∧
      (r.remval = none →
        setting.isEmpty = removing.isEmpty ∧
        setting.toLines.length = removing.toLines.length ∧
        setting.toLines.map (d.prefixes.takeOff? false) =
          (Setval.rawLines data r.setval).map some ∧
        removing.toLines.map (d.prefixes.takeOff? true) =
          (Setval.rawLines data r.setval).map some) := by
  refine ⟨fun negate f => ?_, fun r hr => ?_⟩
  · rw [render_eq_error_iff, RuleTable.get?_eq_none_iff]
  · refine ⟨_, _, render_of_get? hr data false, render_of_get? hr data true, ?_, ?_, ?_, ?_⟩
    · rw [Prefixes.toLines_apply, Rule.toLines_commandText]
      rfl
    · intro w hset hw
      rw [Prefixes.toLines_apply, Prefixes.word?_false_of_set hset hw, Rule.toLines_commandText]
      rfl
    · intro hunset
      rw [Prefixes.toLines_apply, Prefixes.word?_false_of_unset hunset, Rule.toLines_commandText]
      rfl
    · intro hremval
      refine ⟨Rule.isEmpty_apply_commandText hremval d.prefixes data, ?_,
        Rule.map_takeOff?_commandText hremval d.prefixes false data,
        Rule.map_takeOff?_commandText hremval d.prefixes true data⟩
      rw [Rule.length_apply_commandText hremval, Rule.length_apply_commandText hremval]

end Dialect

/-! ## Some vlans -/

/-- A rule that sets the vlans of the data line by line and removes them by the same lines. -/
def vlanRule : Rule where
  name := "vlans"
  pattern := (Pattern.compile? "vlan").getD ⟨"vlan", [], #[], 0⟩
  result := .empty
  shared := false
  setval := some (.function fun data => (data.field? "vlans").getD .null)
  remval := none
  compval := none

/-- The language of some vlans, with a word in front of each command. -/
def vlanDialect : Dialect where
  table := ⟨[vlanRule], (∅ : Index).insert "vlans" 0, rfl⟩
  prefixes := ⟨some "set", "delete"⟩

/-- Two vlans are set and removed by the same two lines. -/
theorem Dialect.render_mirrored_vlans :
    let data := Tree.map [("vlans", .list [.text "vlan 10", .null, .text "vlan 20"])]
    vlanDialect.table.get? "vlans" = some vlanRule ∧ ∃ setting removing,
      vlanDialect.render data "vlans" false = .ok setting ∧
      vlanDialect.render data "vlans" true = .ok removing ∧
      setting.toLines = ["set vlan 10", "set vlan 20"] ∧
      removing.toLines = ["delete vlan 10", "delete vlan 20"] := by
  intro data
  have hvlans : vlanDialect.table.get? "vlans" = some vlanRule :=
    RuleTable.get?_of_mem (r := vlanRule) List.mem_cons_self
  have hraw : Setval.rawLines data vlanRule.setval = ["vlan 10", "vlan 20"] := by decide
  obtain ⟨setting, removing, hsetting, hremoving, hremoved, hset, -, -⟩ :=
    (render_mirrored vlanDialect data "vlans").2 vlanRule hvlans
  refine ⟨hvlans, setting, removing, hsetting, hremoving, ?_, ?_⟩
  · rw [hset "set" rfl (by decide), hraw]
    rfl
  · rw [hremoved, show vlanRule.remval.or vlanRule.setval = vlanRule.setval from rfl, hraw]
    rfl

end Converge
