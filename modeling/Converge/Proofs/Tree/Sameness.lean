import Converge.Proofs.Tree.Merging
import Mathlib.Data.List.Perm.Subperm

/-!
# Equal data

Equality of values does not look at the order of keys. On data it is an equivalence: two maps are
equal when they hold equal values under every key (`same_map_iff`). Equal data holds equal values
along every path, and merging equal data gives equal data.
-/

namespace Converge

theorem Binary64.numEq_iff {x y : Binary64} :
    x.numEq y = true ↔ x.isNaN = false ∧ y.isNaN = false ∧ x.orderKey = y.orderKey := by
  simp [numEq, and_assoc]

namespace Tree

/-- Both values are there and equal, or neither is there. -/
def SameValue : Option Tree → Option Tree → Prop := Option.Rel fun t u => t.same u = true

namespace SameValue

variable {x y z : Option Tree}

theorem isSome_eq (h : SameValue x y) : x.isSome = y.isSome := by
  cases h <;> rfl

theorem symm_of (h : SameValue x y) (back : ∀ t ∈ x, ∀ u ∈ y, t.same u = true → u.same t = true) :
    SameValue y x := by
  cases h with
  | none => exact .none
  | some hsame => exact .some (back _ rfl _ rfl hsame)

theorem trans_of (h : SameValue x y) (h' : SameValue y z)
    (through : ∀ t ∈ x, ∀ u ∈ y, ∀ v ∈ z, t.same u = true → u.same v = true → t.same v = true) :
    SameValue x z := by
  cases h with
  | none => exact h'
  | some hsame =>
    cases h' with
    | some hsame' => exact .some (through _ rfl _ rfl _ rfl hsame hsame')

theorem merge_of {x' y' : Option Tree} (h : SameValue x x') (h' : SameValue y y')
    (both : ∀ t ∈ x, ∀ t' ∈ x', ∀ u ∈ y, ∀ u' ∈ y', t.same t' = true → u.same u' = true →
      (t.merged u).same (t'.merged u') = true) :
    SameValue (Option.merge merged x y) (Option.merge merged x' y') := by
  cases h with
  | none => simpa using h'
  | some hsame =>
    cases h' with
    | none => exact .some hsame
    | some hsame' => exact .some (both _ rfl _ rfl _ rfl _ rfl hsame hsame')

end SameValue

/-! ## Lists and maps -/

theorem sameItems_iff {as bs : List Tree} :
    sameItems as bs = true ↔ ∀ i : Nat, SameValue as[i]? bs[i]? := by
  induction as generalizing bs with
  | nil =>
    cases bs with
    | nil => simp [sameItems, SameValue]
    | cons b bs =>
      simp only [sameItems, Bool.false_eq_true, false_iff, not_forall]
      refine ⟨0, fun h => ?_⟩
      cases h
  | cons a as ih =>
    cases bs with
    | nil =>
      simp only [sameItems, Bool.false_eq_true, false_iff, not_forall]
      refine ⟨0, fun h => ?_⟩
      cases h
    | cons b bs =>
      rw [sameItems, Bool.and_eq_true, ih]
      constructor
      · rintro ⟨hhead, htail⟩ i
        cases i with
        | zero => exact .some hhead
        | succ i => exact htail i
      · intro h
        refine ⟨?_, fun i => h (i + 1)⟩
        cases h 0 with
        | some hhead => exact hhead

theorem sameFields_iff {es fs : Fields Tree} :
    sameFields es fs = true ↔ ∀ e ∈ es, ∃ w, Fields.get? e.1 fs = some w ∧ e.2.same w = true := by
  induction es with
  | nil => simp [sameFields]
  | cons e rest ih =>
    rw [sameFields, Bool.and_eq_true, ih, List.forall_mem_cons]
    cases Fields.get? e.1 fs <;> simp

/-- Maps are equal when they hold equal values under every key. -/
theorem same_map_iff {es fs : Fields Tree} (hes : (Fields.keys es).Nodup)
    (hfs : (Fields.keys fs).Nodup) :
    (map es).same (map fs) = true ↔
      ∀ key, SameValue (Fields.get? key es) (Fields.get? key fs) := by
  rw [same, Bool.and_eq_true, beq_iff_eq, sameFields_iff]
  constructor
  · rintro ⟨hlength, hvalues⟩ key
    rcases hkey : Fields.get? key es with _ | v
    · -- There are as many keys on both sides, so the later map has no further one.
      have hsub : Fields.keys es ⊆ Fields.keys fs := by
        intro k hk
        obtain ⟨v, hv⟩ := Fields.mem_keys_iff.mp hk
        obtain ⟨w, hw, -⟩ := hvalues _ (Fields.mem_of_get? hv)
        exact Fields.mem_keys_iff.mpr ⟨w, hw⟩
      have hcount : (Fields.keys fs).length ≤ (Fields.keys es).length := by
        simp [Fields.keys, hlength]
      have hperm := (List.subperm_of_subset hes hsub).perm_of_length_le hcount
      have hnone : key ∉ Fields.keys fs := fun hmem =>
        Fields.get?_eq_none_iff.mp hkey (hperm.mem_iff.mpr hmem)
      rw [Fields.get?_eq_none_iff.mpr hnone]
      exact .none
    · obtain ⟨w, hw, hsame⟩ := hvalues _ (Fields.mem_of_get? hkey)
      rw [hw]
      exact .some hsame
  · intro h
    have hkeys : ∀ key, key ∈ Fields.keys es ↔ key ∈ Fields.keys fs := by
      intro key
      rw [Fields.mem_keys_iff, Fields.mem_keys_iff, ← Option.isSome_iff_exists,
        ← Option.isSome_iff_exists, (h key).isSome_eq]
    have hperm := (List.perm_ext_iff_of_nodup hes hfs).mpr hkeys
    refine ⟨by simpa [Fields.keys] using hperm.length_eq, fun e he => ?_⟩
    have hvalue := h e.1
    rw [Fields.get?_of_mem hes he] at hvalue
    rcases hget : Fields.get? e.1 fs with _ | w <;> rw [hget] at hvalue
    · cases hvalue
    · cases hvalue with
      | some hsame => exact ⟨w, rfl, hsame⟩

theorem isMap_eq_of_same {t u : Tree} (h : t.same u = true) : t.isMap = u.isMap := by
  cases t <;> cases u <;> first | rfl | simp [same] at h

theorem isEmpty_eq_of_same {t u : Tree} (h : t.same u = true) : t.isEmpty = u.isEmpty := by
  cases t <;> cases u <;> simp only [same, Bool.false_eq_true, Bool.and_eq_true, beq_iff_eq] at h
  case list.list as bs => cases as <;> cases bs <;> first | rfl | simp [sameItems] at h
  case map.map es fs => cases es <;> cases fs <;> first | rfl | simp at h
  all_goals simp [isEmpty, h]

/-! ## An equivalence -/

theorem same_symm {t u : Tree} (ht : t.WellFormed) (hu : u.WellFormed) (h : t.same u = true) :
    u.same t = true := by
  induction t generalizing u with
  | float x =>
    cases u with
    | float y =>
      obtain ⟨hx, hy, hkey⟩ := Binary64.numEq_iff.mp h
      exact Binary64.numEq_iff.mpr ⟨hy, hx, hkey.symm⟩
    | _ => simp [same] at h
  | list as ih =>
    cases u with
    | list bs =>
      rw [wellFormed_list] at ht hu
      rw [same, sameItems_iff] at h ⊢
      refine fun i => (h i).symm_of fun a ha b hb => ?_
      have hmem := List.mem_of_getElem? ha
      exact ih a hmem (ht a hmem) (hu b (List.mem_of_getElem? hb))
    | _ => simp [same] at h
  | map es ih =>
    cases u with
    | map fs =>
      obtain ⟨hes, hevs⟩ := wellFormed_map.mp ht
      obtain ⟨hfs, hfvs⟩ := wellFormed_map.mp hu
      rw [same_map_iff hes hfs] at h
      rw [same_map_iff hfs hes]
      refine fun key => (h key).symm_of fun v hv w hw => ?_
      have hmem := Fields.mem_of_get? hv
      exact ih _ hmem (hevs _ hmem) (hfvs _ (Fields.mem_of_get? hw))
    | _ => simp [same] at h
  | _ => cases u <;> simp_all [same]

theorem same_trans {t u v : Tree} (ht : t.WellFormed) (hu : u.WellFormed) (hv : v.WellFormed)
    (h : t.same u = true) (h' : u.same v = true) : t.same v = true := by
  induction t generalizing u v with
  | float x =>
    cases u with
    | float y =>
      cases v with
      | float z =>
        obtain ⟨hx, -, hkey⟩ := Binary64.numEq_iff.mp h
        obtain ⟨-, hz, hkey'⟩ := Binary64.numEq_iff.mp h'
        exact Binary64.numEq_iff.mpr ⟨hx, hz, hkey.trans hkey'⟩
      | _ => simp [same] at h'
    | _ => simp [same] at h
  | list as ih =>
    cases u with
    | list bs =>
      cases v with
      | list cs =>
        rw [wellFormed_list] at ht hu hv
        rw [same, sameItems_iff] at h h' ⊢
        refine fun i => (h i).trans_of (h' i) fun a ha b hb c hc => ?_
        have hmem := List.mem_of_getElem? ha
        exact ih a hmem (ht a hmem) (hu b (List.mem_of_getElem? hb))
          (hv c (List.mem_of_getElem? hc))
      | _ => simp [same] at h'
    | _ => simp [same] at h
  | map es ih =>
    cases u with
    | map fs =>
      cases v with
      | map gs =>
        obtain ⟨hes, hevs⟩ := wellFormed_map.mp ht
        obtain ⟨hfs, hfvs⟩ := wellFormed_map.mp hu
        obtain ⟨hgs, hgvs⟩ := wellFormed_map.mp hv
        rw [same_map_iff hes hfs] at h
        rw [same_map_iff hfs hgs] at h'
        rw [same_map_iff hes hgs]
        refine fun key => (h key).trans_of (h' key) fun a ha b hb c hc => ?_
        have hmem := Fields.mem_of_get? ha
        exact ih _ hmem (hevs _ hmem) (hfvs _ (Fields.mem_of_get? hb))
          (hgvs _ (Fields.mem_of_get? hc))
      | _ => simp [same] at h'
    | _ => simp [same] at h
  | _ =>
    -- Equal values of the other kinds are one value.
    cases u <;> first
      | exact h'
      | (simp only [same, beq_iff_eq] at h; subst h; exact h')
      | simp [same] at h

/-! ## Equal parts and equal results -/

theorem sameValue_step? {t u : Tree} (ht : t.WellFormed) (hu : u.WellFormed)
    (h : t.same u = true) (segment : String) : SameValue (step? segment t) (step? segment u) := by
  cases t with
  | list as =>
    cases u with
    | list bs =>
      simp only [step?]
      cases Numeral.readIndex? segment.toList with
      | none => exact .none
      | some i => exact sameItems_iff.mp h i
    | _ => simp [same] at h
  | map es =>
    cases u with
    | map fs => exact (same_map_iff (wellFormed_map.mp ht).1 (wellFormed_map.mp hu).1).mp h segment
    | _ => simp [same] at h
  | _ => cases u <;> first | exact .none | simp [same] at h

/-- Equal data holds equal values along every path. -/
theorem sameValue_walk? {t u : Tree} (ht : t.WellFormed) (hu : u.WellFormed)
    (h : t.same u = true) (path : List String) : SameValue (walk? path t) (walk? path u) := by
  induction path generalizing t u with
  | nil => exact .some h
  | cons segment rest ih =>
    have hstep := sameValue_step? ht hu h segment
    rw [walk?, walk?]
    rcases hv : step? segment t with _ | v <;> rcases hw : step? segment u with _ | w <;>
      rw [hv, hw] at hstep
    · exact .none
    · cases hstep
    · cases hstep
    · cases hstep with
      | some hvw => exact ih (wellFormed_step? ht hv) (wellFormed_step? hu hw) hvw

theorem same_merged_of_isMap_eq_false {t t' u u' : Tree} (h : t.same t' = true)
    (h' : u.same u' = true) (hmaps : ¬(t.isMap = true ∧ u.isMap = true)) :
    (t.merged u).same (t'.merged u') = true := by
  have hmaps' : ¬(t'.isMap = true ∧ u'.isMap = true) := by
    rwa [← isMap_eq_of_same h, ← isMap_eq_of_same h']
  rw [merged_of_isMap_eq_false hmaps, merged_of_isMap_eq_false hmaps']
  exact h'

/-- Merging equal data gives equal data. -/
theorem same_merged {t t' u u' : Tree} (ht : t.WellFormed) (ht' : t'.WellFormed)
    (hu : u.WellFormed) (hu' : u'.WellFormed) (h : t.same t' = true) (h' : u.same u' = true) :
    (t.merged u).same (t'.merged u') = true := by
  induction u generalizing t t' u' with
  | map fs ih =>
    by_cases hmap : t.isMap = true
    · obtain ⟨es, rfl⟩ := isMap_iff.mp hmap
      obtain ⟨es', rfl⟩ := isMap_iff.mp (isMap_eq_of_same h).symm
      obtain ⟨fs', rfl⟩ := isMap_iff.mp (isMap_eq_of_same h').symm
      obtain ⟨hes, hevs⟩ := wellFormed_map.mp ht
      obtain ⟨hes', hevs'⟩ := wellFormed_map.mp ht'
      obtain ⟨hfs, hfvs⟩ := wellFormed_map.mp hu
      obtain ⟨hfs', hfvs'⟩ := wellFormed_map.mp hu'
      rw [same_map_iff hes hes'] at h
      rw [same_map_iff hfs hfs'] at h'
      rw [merged, merged, same_map_iff (nodup_keys_mergedFields hes hfs)
        (nodup_keys_mergedFields hes' hfs')]
      intro key
      rw [get?_mergedFields hfs, get?_mergedFields hfs']
      refine (h key).merge_of (h' key) fun v hv v' hv' w hw w' hw' => ?_
      have hmem := Fields.mem_of_get? hw
      exact ih _ hmem (hevs _ (Fields.mem_of_get? hv)) (hevs' _ (Fields.mem_of_get? hv'))
        (hfvs _ hmem) (hfvs' _ (Fields.mem_of_get? hw'))
    · exact same_merged_of_isMap_eq_false h h' fun hboth => hmap hboth.1
  | _ => exact same_merged_of_isMap_eq_false h h' (by simp [isMap])

end Tree

end Converge
