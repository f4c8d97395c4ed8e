import Converge.Proofs.Tree.Data
import Converge.Tree.Empties

/-!
# Cleaning data and merging it back

Data without its empty values is data again. Merged over the data that it came from it changes
nothing but lists: a cleaned list replaces the whole one. So what comes out is the data itself where
every list below map keys alone either loses nothing or is left out as a whole (`ListsSettled`).
-/

namespace Converge.Tree

/-! ## What is kept -/

/-- What cleaning keeps of a value, if anything. -/
def kept? (t : Tree) : Option Tree :=
  if t.withoutEmpties.isEmpty then none else some t.withoutEmpties

theorem kept?_eq_some_iff {t u : Tree} :
    t.kept? = some u ↔ t.withoutEmpties = u ∧ u.isEmpty = false := by
  unfold kept?
  split
  · rename_i hnone
    constructor
    · exact fun h => nomatch h
    · rintro ⟨rfl, hu⟩
      rw [hnone] at hu
      cases hu
  · rename_i hsome
    constructor
    · intro h
      cases h
      exact ⟨rfl, Bool.eq_false_iff.mpr hsome⟩
    · rintro ⟨rfl, -⟩
      rfl

theorem withoutEmptyItems_eq (items : List Tree) :
    withoutEmptyItems items = items.filterMap kept? := by
  induction items with
  | nil => rfl
  | cons v rest ih =>
    rw [withoutEmptyItems, List.filterMap_cons, kept?, ih]
    cases v.withoutEmpties.isEmpty <;> rfl

theorem withoutEmptyFields_eq (entries : List (String × Tree)) :
    withoutEmptyFields entries = entries.filterMap fun e => e.2.kept?.map (e.1, ·) := by
  induction entries with
  | nil => rfl
  | cons e rest ih =>
    rw [withoutEmptyFields, List.filterMap_cons, kept?, ih]
    cases e.2.withoutEmpties.isEmpty <;> rfl

/-- A kept item is a cleaned item that is not empty. -/
theorem mem_withoutEmptyItems {items : List Tree} {v : Tree} :
    v ∈ withoutEmptyItems items ↔ ∃ u ∈ items, u.withoutEmpties = v ∧ v.isEmpty = false := by
  rw [withoutEmptyItems_eq, List.mem_filterMap]
  simp only [kept?_eq_some_iff]

/-- A kept entry has a cleaned value that is not empty, under the key that it had. -/
theorem mem_withoutEmptyFields {entries : List (String × Tree)} {e : String × Tree} :
    e ∈ withoutEmptyFields entries ↔
      ∃ u, (e.1, u) ∈ entries ∧ u.withoutEmpties = e.2 ∧ e.2.isEmpty = false := by
  rw [withoutEmptyFields_eq, List.mem_filterMap]
  constructor
  · rintro ⟨⟨k, u⟩, hmem, hmap⟩
    obtain ⟨v, hv, rfl⟩ := Option.map_eq_some_iff.mp hmap
    exact ⟨u, hmem, kept?_eq_some_iff.mp hv⟩
  · rintro ⟨u, hmem, hkept⟩
    exact ⟨(e.1, u), hmem, Option.map_eq_some_iff.mpr ⟨e.2, kept?_eq_some_iff.mpr hkept, rfl⟩⟩

theorem keys_withoutEmptyFields_sublist (entries : List (String × Tree)) :
    (Fields.keys (withoutEmptyFields entries)).Sublist (Fields.keys entries) := by
  induction entries with
  | nil => exact List.Sublist.refl _
  | cons e rest ih =>
    rw [withoutEmptyFields]
    cases e.2.withoutEmpties.isEmpty with
    | true => exact ih.cons e.1
    | false => exact ih.cons_cons e.1

theorem nodup_keys_withoutEmptyFields {entries : Fields Tree} (h : (Fields.keys entries).Nodup) :
    (Fields.keys (withoutEmptyFields entries)).Nodup :=
  h.sublist (keys_withoutEmptyFields_sublist entries)

/-- Cleaned entries hold under a key what cleaning keeps of the value there. -/
theorem get?_withoutEmptyFields {entries : Fields Tree} (h : (Fields.keys entries).Nodup)
    (key : String) :
    Fields.get? key (withoutEmptyFields entries) = (Fields.get? key entries).bind kept? := by
  induction entries with
  | nil => rfl
  | cons e rest ih =>
    obtain ⟨k, v⟩ := e
    obtain ⟨hk, hrest⟩ := List.nodup_cons.mp h
    have hkept : withoutEmptyFields ((k, v) :: rest) =
        (v.kept?.map (k, ·)).toList ++ withoutEmptyFields rest := by
      rw [withoutEmptyFields, kept?]
      cases v.withoutEmpties.isEmpty <;> rfl
    rw [hkept, Fields.get?]
    by_cases hkey : k = key
    · subst hkey
      have hnone : Fields.get? k rest = none := Fields.get?_eq_none_iff.mpr hk
      cases hv : v.kept? with
      | none => simp [ih hrest, hnone, hv]
      | some u => simp [Fields.get?, hv]
    · cases v.kept? with
      | none => simp [ih hrest, hkey]
      | some u => simp [Fields.get?, ih hrest, hkey]

/-- Cleaned data is data. -/
theorem wellFormed_withoutEmpties {t : Tree} (h : t.WellFormed) : t.withoutEmpties.WellFormed := by
  induction t with
  | list items ih =>
    rw [wellFormed_list] at h
    rw [withoutEmpties, wellFormed_list]
    intro v hv
    obtain ⟨u, hu, rfl, -⟩ := mem_withoutEmptyItems.mp hv
    exact ih u hu (h u hu)
  | map entries ih =>
    obtain ⟨hkeys, hvalues⟩ := wellFormed_map.mp h
    rw [withoutEmpties, wellFormed_map]
    refine ⟨nodup_keys_withoutEmptyFields hkeys, fun e he => ?_⟩
    obtain ⟨u, hu, hclean, -⟩ := mem_withoutEmptyFields.mp he
    exact hclean ▸ ih (e.1, u) hu (hvalues (e.1, u) hu)
  | _ => simpa only [withoutEmpties] using h

/-- What cleaned data holds is cleaned and not empty. -/
theorem step?_withoutEmpties {segment : String} {t u : Tree}
    (h : step? segment t.withoutEmpties = some u) :
    ∃ v : Tree, v.withoutEmpties = u ∧ u.isEmpty = false := by
  cases t with
  | list items =>
    obtain ⟨i, -, hi⟩ := Option.bind_eq_some_iff.mp h
    obtain ⟨v, -, hclean, hfull⟩ := mem_withoutEmptyItems.mp (List.mem_of_getElem? hi)
    exact ⟨v, hclean, hfull⟩
  | map entries =>
    obtain ⟨v, -, hclean, hfull⟩ := mem_withoutEmptyFields.mp (Fields.mem_of_get? h)
    exact ⟨v, hclean, hfull⟩
  | _ => cases h

/-- Nothing in cleaned data is empty, at any path, when something is left of it. -/
theorem isEmpty_of_walk?_withoutEmpties {path : List String} {t u : Tree}
    (hfull : t.withoutEmpties.isEmpty = false) (h : walk? path t.withoutEmpties = some u) :
    u.isEmpty = false := by
  induction path generalizing t with
  | nil =>
    cases h
    exact hfull
  | cons segment rest ih =>
    obtain ⟨v, hv, hu⟩ := Option.bind_eq_some_iff.mp h
    obtain ⟨w, rfl, hw⟩ := step?_withoutEmpties hv
    exact ih hw hu

/-! ## Merging back -/

/-- Entries that leave the values of their keys as they are leave all entries as they are. -/
theorem mergedFields_eq_self {es fs : List (String × Tree)}
    (h : ∀ e ∈ fs, ∃ v, Fields.get? e.1 es = some v ∧ v.merged e.2 = v) :
    mergedFields es fs = es := by
  induction fs with
  | nil => rw [mergedFields]
  | cons e rest ih =>
    obtain ⟨v, hget, hsame⟩ := h e List.mem_cons_self
    have hput : Fields.put e.1 (v.merged e.2) es = es := hsame.symm ▸ Fields.put_of_get? hget
    simp only [mergedFields, hget, hput]
    exact ih fun e' he' => h e' (List.mem_cons_of_mem _ he')

/-- Data merged over itself is itself. -/
theorem merged_self {t : Tree} (h : t.WellFormed) : t.merged t = t := by
  induction t with
  | map entries ih =>
    obtain ⟨hkeys, hvalues⟩ := wellFormed_map.mp h
    rw [merged, mergedFields_eq_self fun e he =>
      ⟨e.2, Fields.get?_of_mem hkeys he, ih e he (hvalues e he)⟩]
  | _ => simp [merged]

/-- Every list below map keys alone loses nothing when it is cleaned, or everything. -/
def ListsSettled (t : Tree) : Prop :=
  ∀ keys items, t.atKeys? keys = some (.list items) →
    withoutEmptyItems items = items ∨ withoutEmptyItems items = []

theorem ListsSettled.entry {entries : List (String × Tree)} {e : String × Tree}
    (h : (map entries).ListsSettled) (hkeys : (Fields.keys entries).Nodup) (he : e ∈ entries) :
    e.2.ListsSettled := by
  intro keys items hitems
  refine h (e.1 :: keys) items ?_
  simp only [atKeys?, field?, Fields.get?_of_mem hkeys he, Option.bind_some, hitems]

/-- Cleaned data merged back changes nothing where lists are settled. -/
theorem merged_withoutEmpties {t : Tree} (h : t.WellFormed) (hl : t.ListsSettled)
    (hfull : t.withoutEmpties.isEmpty = false) : t.merged t.withoutEmpties = t := by
  induction t with
  | list items _ =>
    rcases hl [] items rfl with hsame | hnone
    · simp [withoutEmpties, hsame, merged]
    · rw [withoutEmpties, hnone] at hfull
      cases hfull
  | map entries ih =>
    obtain ⟨hkeys, hvalues⟩ := wellFormed_map.mp h
    rw [withoutEmpties, merged, mergedFields_eq_self]
    intro e he
    obtain ⟨u, hu, hclean, hkept⟩ := mem_withoutEmptyFields.mp he
    rw [← hclean] at hkept ⊢
    exact ⟨u, Fields.get?_of_mem hkeys hu,
      ih (e.1, u) hu (hvalues (e.1, u) hu) (hl.entry hkeys hu) hkept⟩
  | _ => simp only [withoutEmpties, merged]

end Converge.Tree
