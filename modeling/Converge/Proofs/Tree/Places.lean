import Converge.Proofs.Tree.Merging

/-!
# Merged trees along map keys

What two trees hold at a path of map keys decides what the merged tree holds there. A value of the
later tree always counts, merged over the earlier one's where both are maps. Where the later tree
holds nothing, the earlier one's value stays as long as both trees hold maps above wherever the
later one holds something (`MapsAbove`); otherwise what stood below is gone.

Main statement: `merged_place_by_place`.
-/

namespace Converge.Tree

theorem wellFormed_atKeys? {path : List String} {t u : Tree} (ht : t.WellFormed)
    (h : t.atKeys? path = some u) : u.WellFormed := by
  induction path generalizing t with
  | nil =>
    cases h
    exact ht
  | cons key rest ih =>
    obtain ⟨v, hv, hu⟩ := Option.bind_eq_some_iff.mp h
    exact ih (wellFormed_field? ht hv) hu

/-- Only maps hold something below their own place. -/
theorem isMap_of_field? {key : String} {t u : Tree} (h : field? key t = some u) :
    t.isMap = true := by
  cases t with
  | map entries => rfl
  | _ => cases h

theorem isMap_of_atKeys? {key : String} {rest : List String} {t u : Tree}
    (h : t.atKeys? (key :: rest) = some u) : t.isMap = true := by
  obtain ⟨v, hv, -⟩ := Option.bind_eq_some_iff.mp h
  exact isMap_of_field? hv

/-- Both trees hold maps at every place above the end of a path at which the later one holds a
value. -/
def MapsAbove (base other : Tree) (path : List String) : Prop :=
  ∀ above below o, path = above ++ below → below ≠ [] → other.atKeys? above = some o →
    o.isMap = true ∧ ∃ b, base.atKeys? above = some b ∧ b.isMap = true

theorem mapsAbove_nil (base other : Tree) : MapsAbove base other [] := by
  intro above below o hpath hbelow _
  exact absurd (List.append_eq_nil_iff.mp hpath.symm).2 hbelow

/-- A missing value holds a map nowhere, and neither does null. -/
theorem exists_map_getD_iff {t : Option Tree} {path : List String} :
    (∃ b, t.bind (atKeys? path) = some b ∧ b.isMap = true) ↔
      ∃ b, (t.getD null).atKeys? path = some b ∧ b.isMap = true := by
  cases t with
  | some u => rfl
  | none =>
    constructor
    · rintro ⟨b, hb, -⟩
      cases hb
    · rintro ⟨b, hb, hmap⟩
      cases path with
      | nil =>
        cases hb
        cases hmap
      | cons key rest => cases hb

theorem mapsAbove_cons_iff {base other : Tree} {key : String} {rest : List String} :
    MapsAbove base other (key :: rest) ↔ (base.isMap = true ∧ other.isMap = true) ∧
      ∀ o, field? key other = some o → MapsAbove ((field? key base).getD null) o rest := by
  constructor
  · intro h
    obtain ⟨hother, b, hb, hbase⟩ := h [] (key :: rest) other rfl (List.cons_ne_nil key rest) rfl
    cases hb
    refine ⟨⟨hbase, hother⟩, ?_⟩
    intro o ho above below v hpath hbelow hv
    have hdeep : other.atKeys? (key :: above) = some v := by
      simp only [atKeys?, ho, Option.bind_some, hv]
    obtain ⟨hmap, hbase⟩ := h (key :: above) below v (by rw [hpath, List.cons_append]) hbelow hdeep
    exact ⟨hmap, exists_map_getD_iff.mp hbase⟩
  · rintro ⟨⟨hbase, hother⟩, hdeep⟩ above below v hpath hbelow hv
    cases above with
    | nil =>
      cases hv
      exact ⟨hother, base, rfl, hbase⟩
    | cons first above =>
      obtain ⟨rfl, hrest⟩ := List.cons.inj hpath
      obtain ⟨o, ho, hv⟩ := Option.bind_eq_some_iff.mp hv
      obtain ⟨hmap, hbase⟩ := hdeep o ho above below v hrest hbelow hv
      exact ⟨hmap, exists_map_getD_iff.mpr hbase⟩

/-! ## What the merged tree holds -/

/-- Below a key a missing value holds as much as null. -/
theorem atKeys?_cons {key : String} {rest : List String} (hrest : rest ≠ []) (t : Tree) :
    t.atKeys? (key :: rest) = ((field? key t).getD null).atKeys? rest := by
  rw [atKeys?]
  cases field? key t with
  | some u => rfl
  | none =>
    cases rest with
    | nil => exact absurd rfl hrest
    | cons next more => rfl

/-- One step down into a map that is merged over any tree. -/
theorem atKeys?_merged_map {fs : Fields Tree} (hd : (Fields.keys fs).Nodup) (base : Tree)
    (key : String) (rest : List String) :
    (base.merged (map fs)).atKeys? (key :: rest) = match Fields.get? key fs with
      | some o => (((field? key base).getD null).merged o).atKeys? rest
      | none => base.atKeys? (key :: rest) := by
  have hnull : ∀ o : Tree, null.merged o = o := merged_of_left_not_map Bool.false_ne_true
  cases base with
  | map es =>
    have hget : Fields.get? key (mergedFields es fs) = _ := get?_mergedFields hd
    simp only [merged, atKeys?, field?, hget]
    rcases Fields.get? key es with _ | b <;> rcases Fields.get? key fs with _ | o <;> simp [hnull]
  | _ =>
    -- The tree is replaced, and held nothing under a key before.
    simp only [merged, atKeys?, field?]
    cases Fields.get? key fs <;> simp [hnull]

section

variable {base other : Tree} {path : List String} (ho : other.WellFormed)

include ho

/-- A value that is merged in later counts wherever it stands. -/
theorem atKeys?_merged_of_some {v : Tree} (hv : other.atKeys? path = some v) :
    (base.merged other).atKeys? path = some (match base.atKeys? path with
      | some u => u.merged v
      | none => v) := by
  induction path generalizing base other with
  | nil =>
    cases hv
    rfl
  | cons key rest ih =>
    obtain ⟨o, hkey, hbelow⟩ := Option.bind_eq_some_iff.mp hv
    have hother : other.isMap = true := isMap_of_field? hkey
    have hwell : o.WellFormed := wellFormed_field? ho hkey
    by_cases hbase : base.isMap = true
    · have hstep := field?_merged ho ⟨hbase, hother⟩ key
      rw [hkey] at hstep
      simp only [atKeys?, hstep]
      cases hb : field? key base with
      | none => simpa using hbelow
      | some b => simpa using ih hwell hbelow
    · have hnone : base.atKeys? (key :: rest) = none := by
        by_contra hsome
        obtain ⟨u, hu⟩ := Option.ne_none_iff_exists'.mp hsome
        exact hbase (isMap_of_atKeys? hu)
      rw [merged_of_left_not_map hbase, hnone, hv]

/-- Where nothing is merged in and maps stand above, all stays as it was. -/
theorem atKeys?_merged_of_mapsAbove (hnone : other.atKeys? path = none)
    (h : MapsAbove base other path) :
    (base.merged other).atKeys? path = base.atKeys? path := by
  induction path generalizing base other with
  | nil => cases hnone
  | cons key rest ih =>
    obtain ⟨hmaps, hdeep⟩ := mapsAbove_cons_iff.mp h
    obtain ⟨fs, rfl⟩ := isMap_iff.mp hmaps.2
    rw [atKeys?_merged_map (wellFormed_map.mp ho).1]
    cases hkey : Fields.get? key fs with
    | none => rfl
    | some o =>
      have hbelow : o.atKeys? rest = none := by
        simpa only [atKeys?, field?, hkey, Option.bind_some] using hnone
      have hrest : rest ≠ [] := by
        rintro rfl
        cases hbelow
      rw [atKeys?_cons hrest base]
      exact ih (wellFormed_field? ho hkey) hbelow (hdeep o hkey)

/-- Where nothing is merged in but a value that is no map stands above, nothing is left. -/
theorem atKeys?_merged_of_not_mapsAbove (hnone : other.atKeys? path = none)
    (h : ¬MapsAbove base other path) : (base.merged other).atKeys? path = none := by
  induction path generalizing base other with
  | nil => exact absurd (mapsAbove_nil base other) h
  | cons key rest ih =>
    by_cases hmaps : base.isMap = true ∧ other.isMap = true
    · have hdeep : ∃ o, field? key other = some o ∧
          ¬MapsAbove ((field? key base).getD null) o rest := by
        by_contra hall
        push Not at hall
        exact h (mapsAbove_cons_iff.mpr ⟨hmaps, hall⟩)
      obtain ⟨o, hkey, hclash⟩ := hdeep
      have hbelow : o.atKeys? rest = none := by
        simpa only [atKeys?, hkey, Option.bind_some] using hnone
      obtain ⟨fs, rfl⟩ := isMap_iff.mp hmaps.2
      have hget : Fields.get? key fs = some o := hkey
      rw [atKeys?_merged_map (wellFormed_map.mp ho).1, hget]
      exact ih (wellFormed_field? ho hkey) hbelow hclash
    · rw [merged_of_isMap_eq_false hmaps, hnone]

end

/-- Where both trees hold maps, the merged one holds a map with the keys of the earlier one in their
order, and behind them the keys that only the later one has. -/
theorem keys_at_merged {base other : Tree} {path : List String} (hb : base.WellFormed)
    (ho : other.WellFormed) {es fs : Fields Tree} (hes : base.atKeys? path = some (map es))
    (hfs : other.atKeys? path = some (map fs)) :
    ∃ gs, (base.merged other).atKeys? path = some (map gs) ∧
      Fields.keys gs =
        Fields.keys es ++ (Fields.keys fs).filter (fun k => k ∉ Fields.keys es) ∧
      (Fields.keys gs).Nodup := by
  have hek : (Fields.keys es).Nodup := (wellFormed_map.mp (wellFormed_atKeys? hb hes)).1
  have hfk : (Fields.keys fs).Nodup := (wellFormed_map.mp (wellFormed_atKeys? ho hfs)).1
  refine ⟨mergedFields es fs, ?_, keys_mergedFields hfk, nodup_keys_mergedFields hek hfk⟩
  rw [atKeys?_merged_of_some ho hfs, hes]
  simp only [merged]

/-- **Merging, place by place.** At a path of map keys the merged tree holds what the later tree
holds there, merged over the earlier one's value where both are maps. Where the later tree holds
nothing, it holds what the earlier one does, unless some value above that the later tree holds is
not a map in both: then it holds nothing. Keys that are there keep their order, and new ones come
behind them. -/
theorem merged_place_by_place {base other : Tree} (hb : base.WellFormed) (ho : other.WellFormed)
    (path : List String) :
    (∀ v, other.atKeys? path = some v →
      (base.merged other).atKeys? path = some (match base.atKeys? path with
        | some u => if u.isMap = true ∧ v.isMap = true then u.merged v else v
        | none => v)) ∧
    (other.atKeys? path = none →
      (MapsAbove base other path → (base.merged other).atKeys? path = base.atKeys? path) ∧
      (¬MapsAbove base other path → (base.merged other).atKeys? path = none)) ∧
    (∀ es fs, base.atKeys? path = some (map es) → other.atKeys? path = some (map fs) →
      ∃ gs, (base.merged other).atKeys? path = some (map gs) ∧
        Fields.keys gs =
          Fields.keys es ++ (Fields.keys fs).filter (fun k => k ∉ Fields.keys es) ∧
        (Fields.keys gs).Nodup) := by
  refine ⟨?_, ?_, ?_⟩
  · intro v hv
    rw [atKeys?_merged_of_some ho hv]
    cases base.atKeys? path with
    | none => rfl
    | some u =>
      by_cases hmaps : u.isMap = true ∧ v.isMap = true
      · simp only [if_pos hmaps]
      · simp only [if_neg hmaps, merged_of_isMap_eq_false hmaps]
  · intro hnone
    exact ⟨atKeys?_merged_of_mapsAbove ho hnone, atKeys?_merged_of_not_mapsAbove ho hnone⟩
  · intro es fs hes hfs
    exact keys_at_merged hb ho hes hfs

/-- A port that becomes a text loses what stood in it, another one keeps its own beside what is new,
and the ports that are new come last. -/
theorem merged_place_by_place_ports :
    let base := map [("ports", map [("a", map [("mtu", int 1500)]), ("b", map [("mtu", int 9000)]),
      ("c", null)])]
    let other := map [("ports", map [("d", null), ("b", text "down"),
      ("a", map [("up", bool true)])])]
    (base.merged other).atKeys? ["ports", "a", "up"] = some (bool true) ∧
      (base.merged other).atKeys? ["ports", "a", "mtu"] = some (int 1500) ∧
      (base.merged other).atKeys? ["ports", "b", "mtu"] = none ∧
      ∃ gs, (base.merged other).atKeys? ["ports"] = some (map gs) ∧
        Fields.keys gs = ["a", "b", "c", "d"] := by
  intro base other
  have hbase : base.WellFormed := by
    simp [base, WellFormed, WellFormedFields, Fields.keys]
  have hother : other.WellFormed := by
    simp [other, WellFormed, WellFormedFields, Fields.keys]
  have hkept : MapsAbove base other ["ports", "a", "mtu"] := by
    simp [mapsAbove_cons_iff, mapsAbove_nil, base, other, field?, Fields.get?, isMap]
  have hlost : ¬MapsAbove base other ["ports", "b", "mtu"] := by
    simp [mapsAbove_cons_iff, base, other, field?, Fields.get?, isMap]
  obtain ⟨hup, -, -⟩ := merged_place_by_place hbase hother ["ports", "a", "up"]
  obtain ⟨-, hmtu, -⟩ := merged_place_by_place hbase hother ["ports", "a", "mtu"]
  obtain ⟨-, hgone, -⟩ := merged_place_by_place hbase hother ["ports", "b", "mtu"]
  obtain ⟨-, -, hports⟩ := merged_place_by_place hbase hother ["ports"]
  refine ⟨hup (bool true) rfl, (hmtu rfl).1 hkept, (hgone rfl).2 hlost, ?_⟩
  obtain ⟨gs, hgs, hkeys, -⟩ := hports _ _ rfl rfl
  exact ⟨gs, hgs, by simpa [Fields.keys] using hkeys⟩

end Converge.Tree
