import Converge.Proofs.Reapplied
import Converge.Proofs.Tree.Sameness
import Converge.Proofs.Watching

/-!
# A target that is reached

Once the facts are what a run aims at, the next run of the same request has nothing to do: merging
the wanted tree a second time changes nothing, and facts that equal the target hold equal values at
every path. The facts may come from any source and have their keys in any order.

Main statement: `reached_target_settled`.
-/

namespace Converge

namespace Comparison

open Converge.Tree

/-- Equal data has equal values at the path of every rule, a null being none. -/
theorem sameValue_lookup {t u : Tree} (ht : t.WellFormed) (hu : u.WellFormed)
    (h : t.same u = true) (path : String) : SameValue (lookup path t) (lookup path u) := by
  have hwalk := sameValue_walk? ht hu h (segments path)
  unfold lookup Tree.get?
  generalize walk? (segments path) t = x at hwalk ⊢
  generalize walk? (segments path) u = y at hwalk ⊢
  cases hwalk with
  | none => exact .none
  | @some v w hsame => cases v <;> cases w <;> first
    | exact .none
    | exact .some hsame
    | simp [same] at hsame

theorem verdict_of_sameValue {want current : Option Tree} (h : SameValue want current) :
    verdict want current = none := by
  cases h with
  | none => rfl
  | some hsame => exact verdict_of_row (Row.equal hsame)

/-- Data needs no command to become equal data. -/
theorem needed_of_same (d : Dialect) {want current : Tree} (hw : want.WellFormed)
    (hc : current.WellFormed) (h : want.same current = true) (name : String) :
    needed d want current name = [] := by
  rw [needed]
  rcases d.table.get? name with _ | r
  · rfl
  · dsimp only
    rw [verdict_of_sameValue (sameValue_lookup hw hc h r.path)]

end Comparison

namespace Resource

variable {state : State} {want base facts : Tree}

theorem isEmpty_target (hw : want.WellFormed) (hfull : want.isEmpty = false) :
    (target state want base).isEmpty = false := by
  unfold target
  split
  · exact Tree.isEmpty_merged hw hfull
  · exact hfull

/-- The target is reached where the facts equal it: aiming again leads to equal facts. -/
theorem same_target_of_reached (hw : want.WellFormed) (hb : base.WellFormed)
    (hf : facts.WellFormed) (h : facts.same (target state want base) = true) :
    (target state want facts).same facts = true := by
  have hback := Tree.same_symm hf (wellFormed_target hw hb) h
  unfold target at h hback ⊢
  split at h
  · rename_i hmerged
    rw [if_pos hmerged] at hback ⊢
    have htarget := Tree.wellFormed_merged hb hw
    have hagain := Tree.same_merged hf htarget hw hw h (Tree.same_self hw)
    rw [Tree.merged_merged_self hw] at hagain
    exact Tree.same_trans (Tree.wellFormed_merged hf hw) htarget hf hagain hback
  · rename_i hmerged
    rw [if_neg hmerged] at hback ⊢
    exact hback

end Resource

namespace Run

variable {ω : Type} {d : Dialect} {o : Options} {name : String} {config base : Tree} {q : Request}
  {source : FactSource ω} {device : Device ω} {s s₁ : ω} {g : Gathered}

section

variable (hconfig : config.WellFormed) (hbase : base.WellFormed)
  (hleft : config.withoutEmpties.isEmpty = false) (hq : q.config = some config)
  (hs : q.state ∈ State.wanting) (hserved : (source.live device name).run s = (.ok g, s₁))
  (hg : g.facts.WellFormed)
  (hreached : g.facts.same (Resource.target q.state config.withoutEmpties base) = true)

include hconfig hbase hleft hq hs hserved hg hreached

/-- A run that finds its target reached does nothing but gather. -/
theorem run_of_reached :
    (run o (Resource.ofDialect name d) q source (some device)).run s =
      (.ok { leftAlone g.facts with warnings := g.warnings }, s₁) := by
  have hclean := Tree.wellFormed_withoutEmpties hconfig
  have hwant : q.want = config.withoutEmpties := by rw [Request.want, hq]; rfl
  have hfault : q.fault? true = none := by
    rw [Request.fault?_of_wanting hs, hwant, hleft]
    rfl
  have hfull : g.facts.isEmpty = false := by
    rw [Tree.isEmpty_eq_of_same hreached, Resource.isEmpty_target hclean hleft]
  have hfacts : factsOr o g = g.facts := by simp [factsOr, hfull]
  have hgen : (Resource.ofDialect name d).generate q.state q.want (factsOr o g) = .ok [] := by
    rw [hfacts, hwant, Resource.generate_ofDialect hs, List.flatMap_eq_nil_iff.mpr]
    intro rule _
    exact Comparison.needed_of_same d (Resource.wellFormed_target hclean hg) hg
      (Resource.same_target_of_reached hclean hbase hg hreached) rule
  rw [run_action hfault (State.isAction_of_wanting hs),
    run_of_changeCourse (ChangeCourse.settled hserved hgen), report, hfacts]
  rfl

/-- **A run whose target is reached** changes nothing: it gathers, finds no command and pushes
none, whatever the source of the facts and the device do. What is merged is merged for good. -/
theorem reached_target_settled :
    (run o (Resource.ofDialect name d) q source (some device)).run s =
        (.ok { leftAlone g.facts with warnings := g.warnings }, s₁) ∧
      (watch o (Resource.ofDialect name d) q source (some device) s).asks = [.live name] ∧
      (base.merged config.withoutEmpties).merged config.withoutEmpties =
        base.merged config.withoutEmpties := by
  refine ⟨run_of_reached hconfig hbase hleft hq hs hserved hg hreached, ?_,
    Tree.merged_merged_self (Tree.wellFormed_withoutEmpties hconfig) base⟩
  have hwatched : (source.watched.live device.watched name).run ([], s) =
      (.ok g, [.live name], s₁) := by
    change (((source.live device name).run s).1, _, ((source.live device name).run s).2) = _
    rw [hserved]
    rfl
  rw [watch_eq_of_run (run_of_reached hconfig hbase hleft hq hs hwatched hg hreached)]

end

/-- Facts that are the merged tree in another order of keys, with a warning, are left alone. -/
theorem reached_tags :
    (run ⟨false, .empty⟩ (Resource.ofDialect "tags" (tagDialect []))
        ⟨.merged, some (.map [("tags", .list [.text "a"]), ("old", .null)]), none⟩
        ⟨fun _ _ => pure ⟨.map [("tags", .list [.text "a"]), ("name", .text "r1")], ["old"]⟩,
          fun _ _ => pure ⟨.null, []⟩⟩ (some tagDevice)).run () =
      (.ok { leftAlone (.map [("tags", .list [.text "a"]), ("name", .text "r1")]) with
        warnings := ["old"] }, ()) := by
  have hconfig : (Tree.map [("tags", .list [.text "a"]), ("old", .null)]).WellFormed := by
    simp [Tree.WellFormed, Tree.WellFormedFields, Tree.WellFormedItems, Fields.keys]
  have hbase : (Tree.map [("name", .text "r1"), ("tags", .text "b")]).WellFormed := by
    simp [Tree.WellFormed, Tree.WellFormedFields, Fields.keys]
  have hfacts : (Tree.map [("tags", .list [.text "a"]), ("name", .text "r1")]).WellFormed := by
    simp [Tree.WellFormed, Tree.WellFormedFields, Tree.WellFormedItems, Fields.keys]
  exact (reached_target_settled (q := ⟨.merged, some _, none⟩) (g := ⟨_, ["old"]⟩) hconfig hbase
    (by decide) rfl (by decide) (Session.run_pure _ _) hfacts (by decide)).1

end Run

end Converge
