import Converge.Proofs.Tree.Parts
import Mathlib.Data.List.Basic

/-!
# What cleaning leaves

Cleaning drops every empty value below the root of a tree and nothing else. What it leaves is full
at every depth (`fullBelow_withoutEmpties`), full trees are just those that it leaves as they are
(`withoutEmpties_eq_self_iff`), and what a tree tells stays the same, in its order and under its
keys (`tellings_withoutEmpties`).

Main statement: `withoutEmpties_normal`.
-/

namespace Converge.Tree

/-! ## One level down -/

/-- The trees that stand directly in a tree, in order. -/
def children : Tree → List Tree
  | list items => items
  | map entries => entries.map Prod.snd
  | _ => []

theorem mem_children_map {entries : List (String × Tree)} {v : Tree} :
    v ∈ (map entries).children ↔ ∃ e ∈ entries, e.2 = v := by
  rw [children, List.mem_map]

/-- What holds of a tree when it holds of its children holds of every tree. -/
theorem induct_children {motive : Tree → Prop}
    (step : ∀ t : Tree, (∀ v ∈ t.children, motive v) → motive t) (t : Tree) : motive t := by
  induction t with
  | list items ih => exact step _ ih
  | map entries ih =>
    refine step _ fun v hv => ?_
    obtain ⟨e, he, rfl⟩ := mem_children_map.mp hv
    exact ih e he
  | _ => exact step _ (by simp [children])

/-- The children of a cleaned tree are cleaned children that are not empty. -/
theorem mem_children_withoutEmpties {t v : Tree} (h : v ∈ t.withoutEmpties.children) :
    ∃ u ∈ t.children, u.withoutEmpties = v ∧ v.isEmpty = false := by
  cases t with
  | list items => exact mem_withoutEmptyItems.mp h
  | map entries =>
    obtain ⟨e, he, rfl⟩ := mem_children_map.mp h
    obtain ⟨u, hu, hclean⟩ := mem_withoutEmptyFields.mp he
    exact ⟨u, mem_children_map.mpr ⟨(e.1, u), hu, rfl⟩, hclean⟩
  | _ => cases h

/-! ## Full below the root -/

/-- That a tree stands strictly below the root of another one, at any depth. -/
def Below (part whole : Tree) : Prop := ∃ v ∈ whole.children, Part part v

theorem part_iff {u t : Tree} : Part u t ↔ u = t ∨ Below u t := by
  constructor
  · intro h
    cases h with
    | self => exact Or.inl rfl
    | item hv hu => exact Or.inr ⟨_, hv, hu⟩
    | value he hu => exact Or.inr ⟨_, mem_children_map.mpr ⟨_, he, rfl⟩, hu⟩
  · rintro (rfl | ⟨v, hv, hu⟩)
    · exact .self u
    · cases t with
      | list items => exact .item hv hu
      | map entries =>
        obtain ⟨e, he, rfl⟩ := mem_children_map.mp hv
        exact .value he hu
      | _ => cases hv

/-- That no empty value stands strictly below the root. -/
def FullBelow (t : Tree) : Prop := ∀ u, Below u t → u.isEmpty = false

theorem fullBelow_iff {t : Tree} :
    t.FullBelow ↔ ∀ v ∈ t.children, v.isEmpty = false ∧ v.FullBelow := by
  constructor
  · intro h v hv
    exact ⟨h v ⟨v, hv, .self v⟩, fun u hu => h u ⟨v, hv, part_iff.mpr (Or.inr hu)⟩⟩
  · rintro h u ⟨v, hv, hu⟩
    obtain ⟨hfull, hbelow⟩ := h v hv
    rcases part_iff.mp hu with rfl | hu
    · exact hfull
    · exact hbelow u hu

theorem fullBelow_withoutEmpties (t : Tree) : t.withoutEmpties.FullBelow := by
  induction t using induct_children with
  | step t ih =>
    rw [fullBelow_iff]
    intro v hv
    obtain ⟨u, hu, rfl, hfull⟩ := mem_children_withoutEmpties hv
    exact ⟨hfull, ih u hu⟩

/-- Cleaning leaves a tree as it is exactly when nothing below its root is empty. -/
theorem withoutEmpties_eq_self_iff {t : Tree} : t.withoutEmpties = t ↔ t.FullBelow := by
  constructor
  · intro h
    rw [← h]
    exact fullBelow_withoutEmpties t
  · intro h
    induction t with
    | list items ih =>
      rw [fullBelow_iff] at h
      have hkept : ∀ v ∈ items, v.kept? = some v := by
        intro v hv
        obtain ⟨hfull, hbelow⟩ := h v hv
        exact kept?_eq_some_iff.mpr ⟨ih v hv hbelow, hfull⟩
      rw [withoutEmpties, withoutEmptyItems_eq, List.filterMap_congr hkept, List.filterMap_some]
    | map entries ih =>
      rw [fullBelow_iff] at h
      have hkept : ∀ e ∈ entries, e.2.kept?.map (e.1, ·) = some e := by
        intro e he
        obtain ⟨hfull, hbelow⟩ := h e.2 (mem_children_map.mpr ⟨e, he, rfl⟩)
        rw [kept?_eq_some_iff.mpr ⟨ih e he hbelow, hfull⟩, Option.map_some]
      rw [withoutEmpties, withoutEmptyFields_eq, List.filterMap_congr hkept, List.filterMap_some]
    | _ => simp only [withoutEmpties]

/-! ## What a tree tells -/

/-- What is told, seen from one key further up. -/
def under (key : String) (told : List (List String × Tree)) : List (List String × Tree) :=
  told.map fun (keys, leaf) => (key :: keys, leaf)

mutual

/-- The truth values, the numbers and the texts that are not empty, in order, each with the keys
that lead to it. Positions in lists do not count among these. -/
def tellings : Tree → List (List String × Tree)
  | null => []
  | bool b => [([], bool b)]
  | int i => [([], int i)]
  | float x => [([], float x)]
  | text s => if s = "" then [] else [([], text s)]
  | list items => itemTellings items
  | map entries => fieldTellings entries

/-- What the items tell, one after the other. -/
def itemTellings : List Tree → List (List String × Tree)
  | [] => []
  | v :: rest => tellings v ++ itemTellings rest

/-- What the entries tell, one after the other, each below its key. -/
def fieldTellings : List (String × Tree) → List (List String × Tree)
  | [] => []
  | (k, v) :: rest => under k (tellings v) ++ fieldTellings rest

end

theorem tellings_of_isEmpty {t : Tree} (h : t.isEmpty = true) : t.tellings = [] := by
  cases t with
  | null => rfl
  | text s => simpa [tellings, isEmpty] using h
  | list items =>
    rw [isEmpty, List.isEmpty_iff] at h
    rw [h, tellings, itemTellings]
  | map entries =>
    rw [isEmpty, List.isEmpty_iff] at h
    rw [h, tellings, fieldTellings]
  | _ => cases h

theorem itemTellings_withoutEmptyItems {items : List Tree}
    (h : ∀ v ∈ items, v.withoutEmpties.tellings = v.tellings) :
    itemTellings (withoutEmptyItems items) = itemTellings items := by
  induction items with
  | nil => rfl
  | cons v rest ih =>
    obtain ⟨hv, hrest⟩ := List.forall_mem_cons.mp h
    rw [withoutEmptyItems, itemTellings, ← hv, ← ih hrest]
    split
    · rename_i hnone
      rw [tellings_of_isEmpty hnone, List.nil_append]
    · rw [itemTellings]

theorem fieldTellings_withoutEmptyFields {entries : List (String × Tree)}
    (h : ∀ e ∈ entries, e.2.withoutEmpties.tellings = e.2.tellings) :
    fieldTellings (withoutEmptyFields entries) = fieldTellings entries := by
  induction entries with
  | nil => rfl
  | cons e rest ih =>
    obtain ⟨he, hrest⟩ := List.forall_mem_cons.mp h
    rw [withoutEmptyFields, fieldTellings, ← he, ← ih hrest]
    split
    · rename_i hnone
      rw [tellings_of_isEmpty hnone, under, List.map_nil, List.nil_append]
    · rw [fieldTellings]

/-- Cleaning loses nothing that a tree tells. -/
theorem tellings_withoutEmpties (t : Tree) : t.withoutEmpties.tellings = t.tellings := by
  induction t with
  | list items ih => rw [withoutEmpties, tellings, tellings, itemTellings_withoutEmptyItems ih]
  | map entries ih => rw [withoutEmpties, tellings, tellings, fieldTellings_withoutEmptyFields ih]
  | _ => simp only [withoutEmpties]

theorem isEmpty_iff {t : Tree} :
    t.isEmpty = true ↔ t = null ∨ t = text "" ∨ t = list [] ∨ t = map [] := by
  cases t <;> simp [isEmpty]

/-- **Cleaning is a normal form that loses nothing.** No null, empty text, empty list or empty map
stands below the root of a cleaned tree, at any depth. Cleaning it again changes nothing, and it
tells what the tree told, in the same order and under the same keys. -/
theorem withoutEmpties_normal (t : Tree) :
    (∀ u, Below u t.withoutEmpties → u ≠ null ∧ u ≠ text "" ∧ u ≠ list [] ∧ u ≠ map []) ∧
    t.withoutEmpties.withoutEmpties = t.withoutEmpties ∧
    t.withoutEmpties.tellings = t.tellings := by
  refine ⟨?_, ?_, ?_⟩
  · intro u hu
    have hfull : ¬u.isEmpty = true := by simp [fullBelow_withoutEmpties t u hu]
    rwa [isEmpty_iff, not_or, not_or, not_or] at hfull
  · exact withoutEmpties_eq_self_iff.mpr (fullBelow_withoutEmpties t)
  · exact tellings_withoutEmpties t

example :
    let t := map [("off", bool false), ("none", null), ("blank", text ""),
      ("nested", map [("gone", map [("inner", list [null])]), ("items", list [null, text "x"])])]
    t.withoutEmpties = map [("off", bool false), ("nested", map [("items", list [text "x"])])] ∧
      t.tellings = [(["off"], bool false), (["nested", "items"], text "x")] := by
  decide

end Converge.Tree
