import Converge.Proofs.Reapplied
import Converge.Proofs.Tree.Merging

/-!
# What a merged run removes

In the merged state what is wanted is laid over what is there, and so nothing is removed that the
wanted tree says nothing about: unless, above the path of a rule, the wanted tree and the current
one hold values that are not both maps. There the wanted value replaces the current one with all
that is below. So a rule removes exactly where the two trees clash.

Main statements:
* `rendersCurrent_merged_iff`: when a rule is rendered from the current tree;
* `needed_merged_of_unmentioned`: without a clash a rule that is not mentioned needs no command;
* `merged_removal`: both, of the commands that are generated in the merged state.
-/

namespace Converge

namespace Comparison

open Converge.Tree

theorem lookup_eq_none_iff {path : String} {t : Tree} :
    lookup path t = none ↔ ∀ u, t.get? path = some u → u = .null := by
  unfold lookup
  rcases t.get? path with _ | u
  · simp
  · cases u <;> simp

/-- Whether a rule is rendered from the current tree: nothing is wanted at its path, where something
is. -/
def RendersCurrent (want current : Tree) (r : Rule) : Prop :=
  ∃ negate, Row (lookup r.path want) (lookup r.path current) (some (.current, negate))

theorem rendersCurrent_iff {want current : Tree} {r : Rule} :
    RendersCurrent want current r ↔
      lookup r.path want = none ∧ ∃ v, current.get? r.path = some v ∧ v ≠ .null := by
  have hthere : (∃ v, current.get? r.path = some v ∧ v ≠ .null) ↔
      lookup r.path current ≠ none := by
    simp [lookup_eq_none_iff]
  rw [hthere]
  unfold RendersCurrent
  generalize lookup r.path want = w
  generalize lookup r.path current = c
  constructor
  · rintro ⟨negate, h⟩
    cases h with
    | flagLeft => exact ⟨rfl, by simp⟩
    | valueLeft _ => exact ⟨rfl, by simp⟩
  · rintro ⟨rfl, hc⟩
    cases c with
    | none => exact absurd rfl hc
    | some c =>
      cases c with
      | bool b => exact ⟨b, .flagLeft⟩
      | _ => exact ⟨true, .valueLeft (by simp)⟩

section

variable {config current : Tree} (hconfig : config.WellFormed)
  (hleft : config.withoutEmpties.isEmpty = false)

include hconfig hleft

/-- Where the wanted tree clashes with the current one on the way, it alone says what is there. -/
theorem lookup_merged_eq_none_of_clash {path : String}
    (h : Clash current config.withoutEmpties (segments path)) :
    lookup path (current.merged config.withoutEmpties) = none ↔
      config.withoutEmpties.get? path = none := by
  have hwalk := walk?_merged_of_clash (wellFormed_withoutEmpties hconfig) h
  rw [lookup_eq_none_iff, Tree.get?, hwalk, ← Tree.get?, Option.eq_none_iff_forall_ne_some]
  refine forall_congr' fun u => ⟨fun hnull hu => ?_, fun hnone hu => absurd hu hnone⟩
  have hfull := isEmpty_of_walk?_withoutEmpties hleft hu
  rw [hnull hu] at hfull
  cases hfull

/-- Without a clash nothing that is there is lost. -/
theorem lookup_merged_ne_none_of_not_clash {path : String}
    (h : ¬Clash current config.withoutEmpties (segments path)) {v : Tree}
    (hv : current.get? path = some v) (hnull : v ≠ .null) :
    lookup path (current.merged config.withoutEmpties) ≠ none := by
  have hw := wellFormed_withoutEmpties hconfig
  have hwalk := walk?_merged_of_not_clash hw h
  rw [ne_eq, lookup_eq_none_iff, Tree.get?, hwalk, ← Tree.get?, ← Tree.get?, hv]
  intro hall
  rcases hu : config.withoutEmpties.get? path with _ | u
  · exact hnull (hall v (by rw [hu]; rfl))
  · have hfull : (v.merged u).isEmpty = false := isEmpty_merged (wellFormed_get? hw hu)
      (isEmpty_of_walk?_withoutEmpties hleft hu)
    rw [hall (v.merged u) (by rw [hu]; rfl)] at hfull
    cases hfull

/-- A rule is rendered from the current tree exactly where it holds
something that is not wanted and that a wanted value above replaces. -/
theorem rendersCurrent_merged_iff {r : Rule} :
    RendersCurrent (current.merged config.withoutEmpties) current r ↔
      (∃ v, current.get? r.path = some v ∧ v ≠ .null) ∧
        config.withoutEmpties.get? r.path = none ∧
        Clash current config.withoutEmpties (segments r.path) := by
  rw [rendersCurrent_iff]
  constructor
  · rintro ⟨hnone, v, hv, hnull⟩
    have hclash : Clash current config.withoutEmpties (segments r.path) := by
      by_contra hclash
      exact lookup_merged_ne_none_of_not_clash hconfig hleft hclash hv hnull hnone
    exact ⟨⟨v, hv, hnull⟩, (lookup_merged_eq_none_of_clash hconfig hleft hclash).mp hnone, hclash⟩
  · rintro ⟨hthere, hnone, hclash⟩
    exact ⟨(lookup_merged_eq_none_of_clash hconfig hleft hclash).mpr hnone, hthere⟩

end

/-- What is not mentioned stays as it is where nothing clashes on the way. -/
theorem needed_merged_of_unmentioned {want current : Tree} {d : Dialect} {name : String} {r : Rule}
    (hw : want.WellFormed) (hcurrent : current.WellFormed) (hr : d.table.get? name = some r)
    (hnone : want.get? r.path = none) (hclash : ¬Clash current want (segments r.path)) :
    needed d (current.merged want) current name = [] := by
  have hsame : (current.merged want).get? r.path = current.get? r.path := by
    rw [Tree.get?, walk?_merged_of_not_clash hw hclash, ← Tree.get?, ← Tree.get?, hnone,
      Option.merge_none_right]
  have hlookup : lookup r.path (current.merged want) = lookup r.path current := by
    rw [lookup, lookup, hsame]
  simp only [needed, hr, hlookup]
  rw [verdict_self fun u hu => wellFormed_lookup hcurrent hu]

end Comparison

namespace Resource

open Comparison

/-- **What the commands of a merged run remove.** They are what the rules need one by one. A rule is
rendered from the current tree exactly where that holds something of which nothing is wanted and
the two trees hold values above that are not both maps. Where they hold no such values, a rule of
which nothing is wanted contributes no command. -/
theorem merged_removal (d : Dialect) (name : String) {config current : Tree}
    (hconfig : config.WellFormed) (hcurrent : current.WellFormed)
    (hleft : config.withoutEmpties.isEmpty = false) :
    (ofDialect name d).generate .merged config.withoutEmpties current =
        .ok (d.table.commandRules.flatMap
          (needed d (current.merged config.withoutEmpties) current)) ∧
      ∀ rule ∈ d.table.commandRules, ∃ r, d.table.get? rule = some r ∧
        (RendersCurrent (current.merged config.withoutEmpties) current r ↔
          (∃ v, current.get? r.path = some v ∧ v ≠ .null) ∧
            config.withoutEmpties.get? r.path = none ∧
            Tree.Clash current config.withoutEmpties (Tree.segments r.path)) ∧
        (config.withoutEmpties.get? r.path = none →
          ¬Tree.Clash current config.withoutEmpties (Tree.segments r.path) →
          Contributes d (current.merged config.withoutEmpties) current rule []) := by
  refine ⟨generate_ofDialect (by decide) name d _ _, fun rule hrule => ?_⟩
  have hmem := d.table.commandRules_subset_names hrule
  obtain ⟨r, hr⟩ := RuleTable.mem_names_iff.mp hmem
  refine ⟨r, hr, rendersCurrent_merged_iff hconfig hleft, fun hnone hclash => ?_⟩
  exact contributes_iff.mpr ⟨hmem, needed_merged_of_unmentioned
    (Tree.wellFormed_withoutEmpties hconfig) hcurrent hr hnone hclash⟩

/-! ## A domain -/

/-- The language of one rule: the name of a domain. -/
def domainDialect : Dialect where
  table := (RuleTable.ofSpecs
    [⟨"domain_name", "^ip domain name$", .null, false, some "ip domain name", none,
      some "domain.name"⟩]).toOption.getD .empty
  prefixes := .standard

/-- A domain that is wanted as a text replaces one that is a map, and the name in it is removed. -/
theorem merged_removal_domain :
    (ofDialect "domain" domainDialect).generate .merged (.map [("domain", .text "corp")])
        (.map [("domain", .map [("name", .text "lab")])]) = .ok ["no ip domain name"] ∧
      ∃ r, domainDialect.table.get? "domain_name" = some r ∧
        RendersCurrent (.map [("domain", .text "corp")])
          (.map [("domain", .map [("name", .text "lab")])]) r := by
  have hconfig : (Tree.map [("domain", .text "corp"), ("search", .null)]).WellFormed := by
    simp [Tree.WellFormed, Tree.WellFormedFields, Fields.keys]
  have hcurrent : (Tree.map [("domain", .map [("name", .text "lab")])]).WellFormed := by
    simp [Tree.WellFormed, Tree.WellFormedFields, Fields.keys]
  obtain ⟨-, hrules⟩ := merged_removal domainDialect "domain" hconfig hcurrent (by decide)
  obtain ⟨r, hr, hremoved, -⟩ := hrules "domain_name" (by decide +kernel)
  have hpath : (domainDialect.table.get? "domain_name").map Rule.path = some "domain.name" := by
    decide +kernel
  rw [hr, Option.map_some, Option.some.injEq] at hpath
  rw [hpath] at hremoved
  refine ⟨by decide +kernel, r, hr, hremoved.mpr ⟨⟨.text "lab", ?_, by simp⟩, ?_, ?_⟩⟩
  · decide +kernel
  · decide +kernel
  · exact ⟨["domain"], ["name"], by decide +kernel, by simp, .map [("name", .text "lab")],
      .text "corp", by decide +kernel, by decide +kernel, by simp [Tree.isMap]⟩

end Resource

end Converge
