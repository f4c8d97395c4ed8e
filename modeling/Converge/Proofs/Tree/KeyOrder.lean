import Converge.Proofs.Tree.Cleaning
import Converge.Proofs.Tree.Sameness
import Converge.Proofs.Tree.SortedFields
import Converge.Template.Value.Data

/-!
# Data in another order of keys

Trees that differ in the order of keys alone (`Reordered`) have one sorted form, and on data that is
all there is to them (`reordered_iff`). So a function does not look at the order of keys when it
does the same with a tree and with its sorted form, up to the order of keys of what it gives. That
is so of walking along a path, of equality, of leaving out empty values, of merging and of what a
template is given.
-/

namespace Converge

namespace Tree

/-- Trees that differ in the order of keys alone, in any maps at any depth. -/
inductive Reordered : Tree → Tree → Prop
  | refl (t : Tree) : Reordered t t
  | trans {t u v : Tree} : Reordered t u → Reordered u v → Reordered t v
  | item {v w : Tree} (front back : List Tree) : Reordered v w →
      Reordered (list (front ++ v :: back)) (list (front ++ w :: back))
  | value {v w : Tree} (key : String) (front back : Fields Tree) : Reordered v w →
      Reordered (map (front ++ (key, v) :: back)) (map (front ++ (key, w) :: back))
  | keys {es fs : Fields Tree} : es.Perm fs → Reordered (map es) (map fs)

/-! ## The sorted form -/

theorem sortedItems_eq (items : List Tree) : sortedItems items = items.map sorted := by
  induction items with
  | nil => rfl
  | cons v rest ih => rw [sortedItems, ih, List.map_cons]

theorem sortedFields_eq (entries : Fields Tree) :
    sortedFields entries = entries.map fun e => (e.1, e.2.sorted) := by
  induction entries with
  | nil => rfl
  | cons e rest ih => rw [sortedFields, ih, List.map_cons]

theorem sorted_list (items : List Tree) : (list items).sorted = list (items.map sorted) := by
  rw [sorted, sortedItems_eq]

theorem keys_sortedFields (entries : Fields Tree) :
    Fields.keys (sortedFields entries) = Fields.keys entries := by
  simp [sortedFields_eq, Fields.keys]

theorem get?_sortedFields (key : String) (entries : Fields Tree) :
    Fields.get? key (sortedFields entries) = (Fields.get? key entries).map sorted := by
  induction entries with
  | nil => rfl
  | cons e rest ih =>
    obtain ⟨k, v⟩ := e
    by_cases hk : k = key <;> simp [sortedFields, Fields.get?, hk, ih]

/-- Maps of data have one sorted form exactly when the values under each key have. -/
theorem sorted_map_eq_iff {es fs : Fields Tree} (hes : (Fields.keys es).Nodup)
    (hfs : (Fields.keys fs).Nodup) :
    (map es).sorted = (map fs).sorted ↔
      ∀ key, (Fields.get? key es).map sorted = (Fields.get? key fs).map sorted := by
  have hes' : (Fields.keys (sortedFields es)).Nodup := by rwa [keys_sortedFields]
  have hfs' : (Fields.keys (sortedFields fs)).Nodup := by rwa [keys_sortedFields]
  simp only [← get?_sortedFields]
  rw [sorted, sorted, ← Fields.perm_iff_get? hes' hfs', map.injEq]
  constructor
  · intro h
    exact (Fields.perm_sorted _).symm.trans (h ▸ Fields.perm_sorted _)
  · exact fun h => Fields.sorted_eq_of_perm h hes'

theorem nodup_keys_sorted_map {es : Fields Tree} (h : (Fields.keys es).Nodup) :
    (Fields.keys (Fields.sorted (sortedFields es))).Nodup :=
  Fields.nodup_keys_sorted (by rwa [keys_sortedFields])

theorem get?_sorted_map {es : Fields Tree} (h : (Fields.keys es).Nodup) (key : String) :
    Fields.get? key (Fields.sorted (sortedFields es)) = (Fields.get? key es).map sorted := by
  rw [Fields.get?_sorted (by rwa [keys_sortedFields]), get?_sortedFields]

namespace Reordered

variable {t u : Tree}

theorem symm (h : Reordered t u) : Reordered u t := by
  induction h with
  | refl t => exact .refl t
  | trans _ _ ih ih' => exact .trans ih' ih
  | item front back _ ih => exact .item front back ih
  | value key front back _ ih => exact .value key front back ih
  | keys h => exact .keys h.symm

/-- Reordered data is data and has the same sorted form. -/
theorem wellFormed_and_sorted_eq (h : Reordered t u) (ht : t.WellFormed) :
    u.WellFormed ∧ t.sorted = u.sorted := by
  induction h with
  | refl t => exact ⟨ht, rfl⟩
  | trans _ _ ih ih' =>
    obtain ⟨hu, hsorted⟩ := ih ht
    obtain ⟨hv, hsorted'⟩ := ih' hu
    exact ⟨hv, hsorted.trans hsorted'⟩
  | item front back _ ih =>
    simp only [wellFormed_list, List.forall_mem_append, List.forall_mem_cons] at ht ⊢
    obtain ⟨hfront, hv, hback⟩ := ht
    obtain ⟨hw, hsorted⟩ := ih hv
    refine ⟨⟨hfront, hw, hback⟩, ?_⟩
    simp only [sorted_list, List.map_append, List.map_cons, hsorted]
  | value key front back _ ih =>
    simp only [wellFormed_map, List.forall_mem_append, List.forall_mem_cons] at ht ⊢
    obtain ⟨hkeys, hfront, hv, hback⟩ := ht
    obtain ⟨hw, hsorted⟩ := ih hv
    refine ⟨⟨by simpa [Fields.keys] using hkeys, hfront, hw, hback⟩, ?_⟩
    simp only [sorted, sortedFields_eq, List.map_append, List.map_cons, hsorted]
  | keys h =>
    -- Entries of one key would be sorted in the order in which they stand.
    obtain ⟨hkeys, hvalues⟩ := wellFormed_map.mp ht
    have hkeys' := Fields.nodup_keys_of_perm h hkeys
    refine ⟨wellFormed_map.mpr ⟨hkeys', fun e he => hvalues e (h.mem_iff.mpr he)⟩, ?_⟩
    rw [sorted_map_eq_iff hkeys hkeys']
    exact fun key => congrArg _ ((Fields.perm_iff_get? hkeys hkeys').mp h key)

theorem items {f : Tree → Tree} {vs : List Tree} (h : ∀ v ∈ vs, Reordered v (f v))
    (front : List Tree) : Reordered (list (front ++ vs)) (list (front ++ vs.map f)) := by
  -- One item changes at a time, and those that have changed already stand in front.
  induction vs generalizing front with
  | nil => exact .refl _
  | cons v rest ih =>
    rw [List.forall_mem_cons] at h
    have htail := ih h.2 (front ++ [f v])
    rw [List.append_assoc, List.append_assoc] at htail
    exact .trans (.item front rest h.1) htail

theorem values {f : Tree → Tree} {es : Fields Tree} (h : ∀ e ∈ es, Reordered e.2 (f e.2))
    (front : Fields Tree) :
    Reordered (map (front ++ es)) (map (front ++ es.map fun e => (e.1, f e.2))) := by
  induction es generalizing front with
  | nil => exact .refl _
  | cons e rest ih =>
    rw [List.forall_mem_cons] at h
    have htail := ih h.2 (front ++ [(e.1, f e.2)])
    rw [List.append_assoc, List.append_assoc] at htail
    exact .trans (.value e.1 front rest h.1) htail

theorem to_sorted (t : Tree) : Reordered t t.sorted := by
  induction t with
  | list vs ih =>
    rw [sorted_list]
    exact items ih []
  | map es ih =>
    rw [sorted, sortedFields_eq]
    exact .trans (values ih []) (.keys (Fields.perm_sorted _).symm)
  | _ => exact .refl _

end Reordered

/-- **The order of keys is what sorting forgets.** -/
theorem reordered_iff {t u : Tree} (ht : t.WellFormed) :
    Reordered t u ↔ t.sorted = u.sorted := by
  constructor
  · exact fun h => (h.wellFormed_and_sorted_eq ht).2
  · exact fun h => .trans (.to_sorted t) (h ▸ (Reordered.to_sorted u).symm)

theorem wellFormed_sorted {t : Tree} (h : t.WellFormed) : t.sorted.WellFormed :=
  ((Reordered.to_sorted t).wellFormed_and_sorted_eq h).1

theorem sorted_sorted {t : Tree} (h : t.WellFormed) : t.sorted.sorted = t.sorted :=
  ((Reordered.to_sorted t).wellFormed_and_sorted_eq h).2.symm

/-! ## What does not look at the order -/

theorem isEmpty_sorted (t : Tree) : t.sorted.isEmpty = t.isEmpty := by
  cases t with
  | list items => cases items <;> rfl
  | map entries =>
    have hlength := (Fields.perm_sorted (sortedFields entries)).length_eq
    rw [sorted, isEmpty, isEmpty, Bool.eq_iff_iff, List.isEmpty_iff_length_eq_zero,
      List.isEmpty_iff_length_eq_zero, hlength, sortedFields_eq, List.length_map]
  | _ => rfl

theorem isMap_sorted (t : Tree) : t.sorted.isMap = t.isMap := by
  cases t <;> rfl

theorem step?_sorted {t : Tree} (ht : t.WellFormed) (segment : String) :
    step? segment t.sorted = (step? segment t).map sorted := by
  cases t with
  | list items =>
    rw [sorted_list, step?, step?]
    cases Numeral.readIndex? segment.toList with
    | none => rfl
    | some i => exact List.getElem?_map
  | map entries => exact get?_sorted_map (wellFormed_map.mp ht).1 segment
  | _ => rfl

theorem walk?_sorted {t : Tree} (ht : t.WellFormed) (path : List String) :
    walk? path t.sorted = (walk? path t).map sorted := by
  induction path generalizing t with
  | nil => rfl
  | cons segment rest ih =>
    rw [walk?, walk?, step?_sorted ht]
    cases hu : step? segment t with
    | none => rfl
    | some u => exact ih (wellFormed_step? ht hu)

theorem same_sorted_self {t : Tree} (ht : t.WellFormed) : t.same t.sorted = true := by
  induction t with
  | list items ih =>
    rw [wellFormed_list] at ht
    rw [sorted_list, same, sameItems_iff]
    intro i
    rw [List.getElem?_map]
    cases hv : items[i]? with
    | none => exact .none
    | some v =>
      have hmem := List.mem_of_getElem? hv
      exact .some (ih v hmem (ht v hmem))
  | map entries ih =>
    obtain ⟨hkeys, hvalues⟩ := wellFormed_map.mp ht
    rw [sorted, same_map_iff hkeys (nodup_keys_sorted_map hkeys)]
    intro key
    rw [get?_sorted_map hkeys]
    cases hv : Fields.get? key entries with
    | none => exact .none
    | some v =>
      have hmem := Fields.mem_of_get? hv
      exact .some (ih _ hmem (hvalues _ hmem))
  | _ => exact same_self ht

/-- Equality of values does not look at the order of keys. -/
theorem same_sorted {t u : Tree} (ht : t.WellFormed) (hu : u.WellFormed) :
    t.sorted.same u.sorted = t.same u := by
  have ht' := wellFormed_sorted ht
  have hu' := wellFormed_sorted hu
  have hself := same_sorted_self ht
  have hself' := same_sorted_self hu
  -- Equality is an equivalence, so either side may be replaced by its sorted form.
  rw [Bool.eq_iff_iff]
  constructor
  · intro h
    exact same_trans ht hu' hu (same_trans ht ht' hu' hself h) (same_symm hu hu' hself')
  · intro h
    exact same_trans ht' hu hu' (same_trans ht' ht hu (same_symm ht ht' hself) h) hself'

theorem map_sorted_kept? {t u : Tree} (h : t.withoutEmpties.sorted = u.withoutEmpties.sorted) :
    t.kept?.map sorted = u.kept?.map sorted := by
  have hempty : t.withoutEmpties.isEmpty = u.withoutEmpties.isEmpty := by
    rw [← isEmpty_sorted, h, isEmpty_sorted]
  unfold kept?
  rw [hempty]
  split
  · rfl
  · exact congrArg some h

/-- Leaving out empty values does not look at the order of keys. -/
theorem withoutEmpties_sorted {t : Tree} (ht : t.WellFormed) :
    t.sorted.withoutEmpties.sorted = t.withoutEmpties.sorted := by
  induction t with
  | list items ih =>
    rw [wellFormed_list] at ht
    simp only [sorted_list, withoutEmpties, withoutEmptyItems_eq, List.filterMap_map,
      List.map_filterMap]
    refine congrArg list (List.filterMap_congr fun v hv => ?_)
    exact map_sorted_kept? (ih v hv (ht v hv))
  | map entries ih =>
    obtain ⟨hkeys, hvalues⟩ := wellFormed_map.mp ht
    have hkeys' := nodup_keys_sorted_map hkeys
    rw [sorted, withoutEmpties, withoutEmpties,
      sorted_map_eq_iff (nodup_keys_withoutEmptyFields hkeys')
        (nodup_keys_withoutEmptyFields hkeys)]
    intro key
    rw [get?_withoutEmptyFields hkeys', get?_withoutEmptyFields hkeys, get?_sorted_map hkeys]
    cases hv : Fields.get? key entries with
    | none => rfl
    | some v =>
      have hmem := Fields.mem_of_get? hv
      exact map_sorted_kept? (ih _ hmem (hvalues _ hmem))
  | _ => rfl

theorem map_sorted_merge {x y : Option Tree}
    (h : ∀ v ∈ x, ∀ w ∈ y, (v.sorted.merged w.sorted).sorted = (v.merged w).sorted)
    (hx : ∀ v ∈ x, v.sorted.sorted = v.sorted) (hy : ∀ w ∈ y, w.sorted.sorted = w.sorted) :
    (Option.merge merged (x.map sorted) (y.map sorted)).map sorted =
      (Option.merge merged x y).map sorted := by
  cases x with
  | none =>
    cases y with
    | none => rfl
    | some w => simp [hy w rfl]
  | some v =>
    cases y with
    | none => simp [hx v rfl]
    | some w => simp [h v rfl w rfl]

theorem merged_sorted_of_isMap_eq_false {t u : Tree} (hu : u.WellFormed)
    (h : ¬(t.isMap = true ∧ u.isMap = true)) :
    (t.sorted.merged u.sorted).sorted = (t.merged u).sorted := by
  have h' : ¬(t.sorted.isMap = true ∧ u.sorted.isMap = true) := by
    rwa [isMap_sorted, isMap_sorted]
  rw [merged_of_isMap_eq_false h, merged_of_isMap_eq_false h', sorted_sorted hu]

/-- Merging does not look at the order of keys. -/
theorem merged_sorted {t u : Tree} (ht : t.WellFormed) (hu : u.WellFormed) :
    (t.sorted.merged u.sorted).sorted = (t.merged u).sorted := by
  induction u generalizing t with
  | map fs ih =>
    by_cases hmap : t.isMap = true
    · obtain ⟨es, rfl⟩ := isMap_iff.mp hmap
      obtain ⟨hes, hevs⟩ := wellFormed_map.mp ht
      obtain ⟨hfs, hfvs⟩ := wellFormed_map.mp hu
      have hes' := nodup_keys_sorted_map hes
      have hfs' := nodup_keys_sorted_map hfs
      rw [sorted, sorted, merged, merged, sorted_map_eq_iff (nodup_keys_mergedFields hes' hfs')
        (nodup_keys_mergedFields hes hfs)]
      intro key
      rw [get?_mergedFields hfs', get?_mergedFields hfs, get?_sorted_map hes, get?_sorted_map hfs]
      have hev : ∀ v ∈ Fields.get? key es, v.WellFormed := fun v hv =>
        hevs _ (Fields.mem_of_get? hv)
      have hfv : ∀ w ∈ Fields.get? key fs, w.WellFormed := fun w hw =>
        hfvs _ (Fields.mem_of_get? hw)
      refine map_sorted_merge (fun v hv w hw => ?_) (fun v hv => sorted_sorted (hev v hv))
        fun w hw => sorted_sorted (hfv w hw)
      exact ih _ (Fields.mem_of_get? hw) (hev v hv) (hfv w hw)
    · exact merged_sorted_of_isMap_eq_false hu fun hboth => hmap hboth.1
  | _ => exact merged_sorted_of_isMap_eq_false hu (by simp [isMap])

end Tree

namespace Template.Value

theorem ofItems_eq (items : List Tree) : ofItems items = items.map ofTree := by
  induction items with
  | nil => rfl
  | cons v rest ih => rw [ofItems, ih, List.map_cons]

theorem ofFields_eq (entries : Fields Tree) :
    ofFields entries = entries.map fun e => (e.1, ofTree e.2) := by
  induction entries with
  | nil => rfl
  | cons e rest ih => rw [ofFields, ih, List.map_cons]

/-- What a template is given does not depend on the order of keys. -/
theorem ofTree_sorted {t : Tree} (ht : t.WellFormed) : ofTree t.sorted = ofTree t := by
  induction t with
  | list items ih =>
    rw [Tree.wellFormed_list] at ht
    rw [Tree.sorted_list, ofTree, ofTree, ofItems_eq, ofItems_eq, List.map_map]
    exact congrArg (list · .sequence dataTag) (List.map_congr_left fun v hv => ih v hv (ht v hv))
  | map entries ih =>
    obtain ⟨hkeys, hvalues⟩ := Tree.wellFormed_map.mp ht
    have hvalue : ofFields (Tree.sortedFields entries) = ofFields entries := by
      rw [ofFields_eq, ofFields_eq, Tree.sortedFields_eq, List.map_map]
      exact List.map_congr_left fun e he => congrArg (e.1, ·) (ih e he (hvalues e he))
    have hperm :
        (ofFields (Fields.sorted (Tree.sortedFields entries))).Perm (ofFields entries) := by
      rw [← hvalue, ofFields_eq, ofFields_eq]
      exact (Fields.perm_sorted _).map _
    have hkeys' : (Fields.keys (ofFields entries)).Nodup := by
      simpa [ofFields_eq, Fields.keys, Function.comp_def] using hkeys
    rw [Tree.sorted, ofTree, ofTree, Fields.sorted_eq_of_perm hperm.symm hkeys']
  | _ => rfl

end Template.Value

end Converge
