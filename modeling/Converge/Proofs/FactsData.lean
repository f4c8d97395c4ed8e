import Converge.Proofs.RuleTables
import Converge.Proofs.Tree.Data

/-!
# Facts are data

Whatever a device answers, the facts that are read from its output are data, as long as the results
of the rules are. What is captured is data, so is what a placeholder stands for, and filling a
skeleton and merging fragments keep it that way.
-/

namespace Converge

/-! ## Values -/

/-- Captured text gives data: a float is only made of a text that writes a finite one. -/
theorem Tree.wellFormed_ofCaptured (s : String) : (Tree.ofCaptured s).WellFormed := by
  unfold Tree.ofCaptured
  split
  · split <;> simp [Tree.WellFormed]
  · split
    · split
      · rename_i hfinite
        rw [Bool.and_eq_true] at hfinite
        exact hfinite.1
      · simp [Tree.WellFormed]
    · simp [Tree.WellFormed]

theorem Tree.wellFormed_collect {entries : List (String × Tree)}
    (h : ∀ e ∈ entries, e.2.WellFormed) : (Tree.map (Fields.collect entries)).WellFormed := by
  have hnone : (Fields.keys ([] : Fields Tree)).Nodup := List.nodup_nil
  rw [Tree.wellFormed_map, Fields.collect_eq_overlay]
  refine ⟨Fields.nodup_keys_overlay hnone entries, fun e he => ?_⟩
  rcases Fields.mem_overlay he with hnil | hmem
  · cases hnil
  · exact h e hmem

namespace Template.Value

mutual

/-- A value becomes data: keys that collide are one key, and floats that are not finite are null. -/
theorem wellFormed_of_toTree? : ∀ {v : Value} {t : Tree}, v.toTree? = some t → t.WellFormed
  | undefined _, _, h | none, _, h | bool _, _, h | text _ _, _, h | routine _ _ _ _, _, h
  | builtin _, _, h | loop _ _ _ _, _, h => by
    cases h
    simp [Tree.WellFormed]
  | int i, _, h => by
    rw [toTree?] at h
    split at h
    · cases h
      simp [Tree.WellFormed]
    · cases h
  | float x, _, h => by
    cases h
    split
    · assumption
    · simp [Tree.WellFormed]
  | list vs _ _, _, h => by
    obtain ⟨ts, hts, rfl⟩ := Option.map_eq_some_iff.mp h
    exact Tree.wellFormed_list.mpr (wellFormed_of_treeItems? hts)
  | map es _, _, h | named es, _, h => by
    obtain ⟨fs, hfs, rfl⟩ := Option.map_eq_some_iff.mp h
    exact Tree.wellFormed_collect (wellFormed_of_treeEntries? hfs)
  | record _ fs, _, h => by
    obtain ⟨fs, hfs, rfl⟩ := Option.map_eq_some_iff.mp h
    exact Tree.wellFormed_collect (wellFormed_of_treeFields? hfs)

theorem wellFormed_of_treeItems? : ∀ {vs : List Value} {ts : List Tree},
    treeItems? vs = some ts → ∀ t ∈ ts, t.WellFormed
  | [], _, h => by
    cases h
    exact fun _ ht => nomatch ht
  | v :: rest, ts, h => by
    obtain ⟨t, ht, hrest⟩ := Option.bind_eq_some_iff.mp h
    obtain ⟨us, hus, rfl⟩ := Option.map_eq_some_iff.mp hrest
    exact List.forall_mem_cons.mpr ⟨wellFormed_of_toTree? ht, wellFormed_of_treeItems? hus⟩

theorem wellFormed_of_treeEntries? : ∀ {es : List (Value × Value)} {fs : List (String × Tree)},
    treeEntries? es = some fs → ∀ e ∈ fs, e.2.WellFormed
  | [], _, h => by
    cases h
    exact fun _ he => nomatch he
  | (k, v) :: rest, fs, h => by
    obtain ⟨key, -, hvalue⟩ := Option.bind_eq_some_iff.mp h
    obtain ⟨t, ht, hrest⟩ := Option.bind_eq_some_iff.mp hvalue
    obtain ⟨gs, hgs, rfl⟩ := Option.map_eq_some_iff.mp hrest
    exact List.forall_mem_cons.mpr ⟨wellFormed_of_toTree? ht, wellFormed_of_treeEntries? hgs⟩

theorem wellFormed_of_treeFields? : ∀ {vs : List (String × Value)} {fs : List (String × Tree)},
    treeFields? vs = some fs → ∀ e ∈ fs, e.2.WellFormed
  | [], _, h => by
    cases h
    exact fun _ he => nomatch he
  | (k, v) :: rest, fs, h => by
    obtain ⟨t, ht, hrest⟩ := Option.bind_eq_some_iff.mp h
    obtain ⟨gs, hgs, rfl⟩ := Option.map_eq_some_iff.mp hrest
    exact List.forall_mem_cons.mpr ⟨wellFormed_of_toTree? ht, wellFormed_of_treeFields? hgs⟩

end

end Template.Value

/-! ## Placeholders and skeletons -/

namespace Placeholder

theorem wellFormed_normalized {t u : Tree} (ht : t.WellFormed) (h : normalized t = some u) :
    u.WellFormed := by
  cases t with
  | null => cases h
  | text s =>
    rw [normalized] at h
    split at h
    · cases h
    · cases h
      exact Tree.wellFormed_ofCaptured s
  | _ =>
    cases h
    exact ht

/-- What a text stands for is data. -/
theorem wellFormed_evaluate {s : String} {context t : Tree} {strict : Bool}
    (h : evaluate s context strict = .ok (some t)) : t.WellFormed := by
  unfold evaluate at h
  split at h
  · cases h
    simp [Tree.WellFormed]
  · split at h
    · split at h <;> cases h
    · cases h
    · split at h <;> cases h
    · split at h
      · rename_i v _ u hu
        rw [Except.ok.injEq] at h
        exact wellFormed_normalized (Template.Value.wellFormed_of_toTree? hu) h
      · cases h

end Placeholder

namespace Skeleton

mutual

/-- Whether the values that a skeleton copies are data. -/
def WellFormed : Skeleton → Prop
  | scalar t => t.WellFormed
  | text _ => True
  | sequence items => WellFormedItems items
  | map entries => WellFormedFields entries

/-- The same of each item. -/
def WellFormedItems : List Skeleton → Prop
  | [] => True
  | v :: rest => WellFormed v ∧ WellFormedItems rest

/-- The same of each entry's value. -/
def WellFormedFields : List (String × Skeleton) → Prop
  | [] => True
  | (_, v) :: rest => WellFormed v ∧ WellFormedFields rest

end

mutual

/-- The skeleton that data writes copies data. -/
theorem wellFormed_ofTree : ∀ {t : Tree}, t.WellFormed → (ofTree t).WellFormed
  | .null, _ | .bool _, _ | .int _, _ => by simp [ofTree, WellFormed, Tree.WellFormed]
  | .float _, h => by simpa only [ofTree, WellFormed] using h
  | .text s, _ => by
    rw [ofTree]
    split <;> simp [WellFormed, Tree.WellFormed]
  | .list _, h => wellFormedItems_ofItems h
  | .map _, h => wellFormedFields_ofFields h.2

theorem wellFormedItems_ofItems : ∀ {vs : List Tree},
    Tree.WellFormedItems vs → WellFormedItems (ofItems vs)
  | [], _ => trivial
  | _ :: _, h => ⟨wellFormed_ofTree h.1, wellFormedItems_ofItems h.2⟩

theorem wellFormedFields_ofFields : ∀ {es : List (String × Tree)},
    Tree.WellFormedFields es → WellFormedFields (ofFields es)
  | [], _ => trivial
  | _ :: _, h => ⟨wellFormed_ofTree h.1, wellFormedFields_ofFields h.2⟩

end

variable {context : Tree}

mutual

/-- A filled skeleton is data. -/
theorem wellFormed_fill : ∀ {s : Skeleton} {t : Tree}, s.WellFormed →
    s.fill context = .ok (some t) → t.WellFormed
  | scalar _, _, hs, h => by
    cases h
    exact hs
  | text _, _, _, h => Placeholder.wellFormed_evaluate h
  | sequence _, t, hs, h => by
    obtain ⟨ts, hts, ht⟩ := Session.map_eq_ok_iff.mp h
    cases ht
    exact Tree.wellFormed_list.mpr (wellFormed_fillItems hs hts)
  | map _, t, hs, h => by
    obtain ⟨fs, hfs, ht⟩ := Session.map_eq_ok_iff.mp h
    cases ht
    exact wellFormed_fillFields hs Tree.wellFormed_empty hfs

theorem wellFormed_fillItems : ∀ {items : List Skeleton} {ts : List Tree}, WellFormedItems items →
    fillItems context items = .ok ts → ∀ t ∈ ts, t.WellFormed
  | [], _, _, h => by
    cases h
    exact fun _ ht => nomatch ht
  | v :: rest, ts, hs, h => by
    obtain ⟨filled, hfilled, hrest⟩ := Session.bind_eq_ok_iff.mp h
    obtain ⟨us, hus, rfl⟩ := Session.map_eq_ok_iff.mp hrest
    refine List.forall_mem_cons.mpr ⟨?_, wellFormed_fillItems hs.2 hus⟩
    cases filled with
    | none => simp [Tree.WellFormed]
    | some t => exact wellFormed_fill hs.1 hfilled

theorem wellFormed_fillFields : ∀ {entries : List (String × Skeleton)} {fs gs : Fields Tree},
    WellFormedFields entries → (Tree.map fs).WellFormed →
    fillFields context entries fs = .ok gs → (Tree.map gs).WellFormed
  | [], _, _, _, hfs, h => by
    cases h
    exact hfs
  | (k, v) :: rest, fs, gs, hs, hfs, h => by
    obtain ⟨filled, hfilled, h⟩ := Session.bind_eq_ok_iff.mp h
    cases filled with
    | none => exact wellFormed_fillFields hs.2 hfs h
    | some t =>
      obtain ⟨key, -, h⟩ := Session.bind_eq_ok_iff.mp h
      cases key with
      | none => exact wellFormed_fillFields hs.2 hfs h
      | some key =>
        refine wellFormed_fillFields hs.2 ?_ h
        rw [Tree.wellFormed_map] at hfs ⊢
        refine ⟨Fields.nodup_keys_put hfs.1 t, fun e he => ?_⟩
        rcases Fields.mem_put he with rfl | hold
        · exact wellFormed_fill hs.1 hfilled
        · exact hfs.2 e hold

end

end Skeleton

/-! ## Facts -/

/-- Whether the results of the rules are data. -/
def RuleTable.WellFormed (t : RuleTable) : Prop := ∀ r ∈ t.rules, r.result.WellFormed

theorem RuleTable.mem_of_firstMatch {t : RuleTable} {line : String} {r : Rule}
    {captures : Fields Tree} (h : t.firstMatch line = some (r, captures)) : r ∈ t.rules := by
  obtain ⟨r', hmem, hr'⟩ := List.exists_of_findSome?_eq_some h
  obtain ⟨cs, -, heq⟩ := Option.map_eq_some_iff.mp hr'
  cases heq
  exact hmem

theorem Rule.wellFormed_ofSpec {s : RuleSpec} {r : Rule} (hs : s.result.WellFormed)
    (h : Rule.ofSpec s = .ok r) : r.result.WellFormed := by
  obtain ⟨p, -, rfl⟩ := Rule.exists_pattern_of_ofSpec h
  dsimp only
  split
  · trivial
  · exact Skeleton.wellFormed_ofTree hs

/-- A table of records whose results are data. -/
theorem RuleTable.wellFormed_ofSpecs {specs : List RuleSpec} {t : RuleTable}
    (hs : ∀ s ∈ specs, s.result.WellFormed) (h : RuleTable.ofSpecs specs = .ok t) :
    t.WellFormed := by
  intro r hr
  obtain ⟨s, hmem, hspec⟩ := RuleTable.exists_spec_of_mem h r hr
  exact Rule.wellFormed_ofSpec (hs s hmem) hspec

namespace Facts

variable {t : RuleTable}

theorem wellFormed_extended {facts : Tree} {fragment : Option Tree} (hf : facts.WellFormed)
    (h : ∀ u ∈ fragment, u.WellFormed) : (extended facts fragment).WellFormed := by
  cases fragment with
  | none => exact hf
  | some u => exact Tree.wellFormed_merged hf (h u rfl)

theorem wellFormed_ofLinesFrom (ht : t.WellFormed) {lines : List String} {inForce : Fields Tree}
    {facts f : Tree} (hfacts : facts.WellFormed) (h : ofLinesFrom t inForce facts lines = .ok f) :
    f.WellFormed := by
  induction lines generalizing inForce facts with
  | nil =>
    cases h
    exact hfacts
  | cons line rest ih =>
    rw [ofLinesFrom] at h
    rcases hm : t.firstMatch line with _ | ⟨r, captures⟩ <;> rw [hm] at h
    · exact ih hfacts h
    · obtain ⟨fragment, hfill, h⟩ := Session.bind_eq_ok_iff.mp h
      refine ih (wellFormed_extended hfacts ?_) h
      rintro u rfl
      exact Skeleton.wellFormed_fill (ht r (RuleTable.mem_of_firstMatch hm)) hfill

/-- **Facts are data**, whatever the lines are. -/
theorem wellFormed_ofText (ht : t.WellFormed) {output : String} {f : Tree}
    (h : ofText t output = .ok f) : f.WellFormed :=
  wellFormed_ofLinesFrom ht Tree.wellFormed_empty h

end Facts

end Converge
