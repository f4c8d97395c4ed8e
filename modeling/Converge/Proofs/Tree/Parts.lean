import Converge.Proofs.Tree.Cleaning

/-!
# Parts of a tree

A tree stands in itself, and what stands in an item or in a value stands in the list or the map.
Truth values, numbers and texts that are not empty carry information of their own. Nothing is left
of a tree without its empty values exactly when nothing of that kind stands in it, at any depth
(`isEmpty_withoutEmpties_iff`).
-/

namespace Converge.Tree

/-- That a tree stands in another one, at any depth. -/
inductive Part : (part whole : Tree) → Prop
  | self (t : Tree) : Part t t
  | item {items : List Tree} {u v : Tree} : v ∈ items → Part u v → Part u (list items)
  | value {entries : List (String × Tree)} {u : Tree} {e : String × Tree} : e ∈ entries →
      Part u e.2 → Part u (map entries)

/-- That a tree is a truth value, a number or a text that is not empty. -/
def Telling : Tree → Prop
  | bool _ => True
  | int _ => True
  | float _ => True
  | text s => s ≠ ""
  | _ => False

/-- That a truth value, a number or a text that is not empty stands in a tree. -/
def Informative (t : Tree) : Prop := ∃ u, Part u t ∧ u.Telling

theorem informative_of_telling {t : Tree} (h : t.Telling) : t.Informative := ⟨t, .self t, h⟩

theorem informative_list {items : List Tree} :
    (list items).Informative ↔ ∃ v ∈ items, v.Informative := by
  constructor
  · rintro ⟨u, hpart, htell⟩
    cases hpart with
    | self => exact htell.elim
    | item hv hu => exact ⟨_, hv, u, hu, htell⟩
  · rintro ⟨v, hv, u, hu, htell⟩
    exact ⟨u, .item hv hu, htell⟩

theorem informative_map {entries : List (String × Tree)} :
    (map entries).Informative ↔ ∃ e ∈ entries, e.2.Informative := by
  constructor
  · rintro ⟨u, hpart, htell⟩
    cases hpart with
    | self => exact htell.elim
    | value he hu => exact ⟨_, he, u, hu, htell⟩
  · rintro ⟨e, he, u, hu, htell⟩
    exact ⟨u, .value he hu, htell⟩

/-- A leaf other than null is informative unless it is the empty text. -/
theorem informative_text {s : String} : (text s).Informative ↔ s ≠ "" := by
  constructor
  · rintro ⟨u, hpart, htell⟩
    cases hpart
    exact htell
  · exact fun h => informative_of_telling h

theorem not_informative_null : ¬null.Informative := by
  rintro ⟨u, hpart, htell⟩
  cases hpart
  exact htell

theorem kept?_eq_none_iff {t : Tree} : t.kept? = none ↔ t.withoutEmpties.isEmpty = true := by
  simp [kept?]

/-- **What is left without empty values** is empty exactly where nothing was informative. -/
theorem isEmpty_withoutEmpties_iff {t : Tree} :
    t.withoutEmpties.isEmpty = true ↔ ¬t.Informative := by
  induction t with
  | null => simpa [withoutEmpties, isEmpty] using not_informative_null
  | bool b => simpa [withoutEmpties, isEmpty] using informative_of_telling (t := bool b) trivial
  | int i => simpa [withoutEmpties, isEmpty] using informative_of_telling (t := int i) trivial
  | float x => simpa [withoutEmpties, isEmpty] using informative_of_telling (t := float x) trivial
  | text s => simp [withoutEmpties, isEmpty, informative_text]
  | list items ih =>
    have hleft : withoutEmptyItems items = [] ↔ ∀ v ∈ items, v.withoutEmpties.isEmpty = true := by
      simp only [withoutEmptyItems_eq, List.filterMap_eq_nil_iff, kept?_eq_none_iff]
    rw [withoutEmpties, isEmpty, List.isEmpty_iff, hleft, informative_list]
    constructor
    · rintro hall ⟨v, hv, htell⟩
      exact (ih v hv).mp (hall v hv) htell
    · exact fun hnone v hv => (ih v hv).mpr fun htell => hnone ⟨v, hv, htell⟩
  | map entries ih =>
    have hleft : withoutEmptyFields entries = [] ↔
        ∀ e ∈ entries, e.2.withoutEmpties.isEmpty = true := by
      simp only [withoutEmptyFields_eq, List.filterMap_eq_nil_iff, Option.map_eq_none_iff,
        kept?_eq_none_iff]
    rw [withoutEmpties, isEmpty, List.isEmpty_iff, hleft, informative_map]
    constructor
    · rintro hall ⟨e, he, htell⟩
      exact (ih e he).mp (hall e he) htell
    · exact fun hnone e he => (ih e he).mpr fun htell => hnone ⟨e, he, htell⟩

end Converge.Tree
