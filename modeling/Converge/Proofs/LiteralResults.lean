import Converge.Proofs.PartialResults
import Converge.Proofs.Tree.Folding
import Converge.Proofs.Tree.Normal

/-!
# Literal results

A tree in which no text and no key holds a template marker writes a skeleton without placeholders.
Filling it evaluates nothing, so it gives the tree back whatever the context is: nulls and empty
values stay, texts that look like numbers stay texts, and entries keep their order.

Main statement: `fill_ofTree_of_literal`.
-/

namespace Converge

open Placeholder

namespace Tree

/-- That a tree is neither a text with a marker nor a map with a marker in a key. -/
def Unmarked : Tree → Prop
  | text s => ¬Marked s
  | map entries => ∀ e ∈ entries, ¬Marked e.1
  | _ => True

/-- That no text and no key in a tree holds a marker, at any depth. -/
def Literal (t : Tree) : Prop := ∀ u, Part u t → u.Unmarked

theorem literal_iff {t : Tree} : t.Literal ↔ t.Unmarked ∧ ∀ v ∈ t.children, v.Literal := by
  constructor
  · intro h
    refine ⟨h t (.self t), ?_⟩
    intro v hv u hu
    exact h u (part_iff.mpr (Or.inr ⟨v, hv, hu⟩))
  · rintro ⟨ht, hbelow⟩ u hu
    rcases part_iff.mp hu with rfl | ⟨v, hv, hu⟩
    · exact ht
    · exact hbelow v hv u hu

theorem literal_text {s : String} : (text s).Literal ↔ ¬Marked s := by
  simp [literal_iff (t := text s), Unmarked, children]

theorem literal_list {items : List Tree} : (list items).Literal ↔ ∀ v ∈ items, v.Literal := by
  rw [literal_iff]
  exact ⟨fun h => h.2, fun h => ⟨trivial, h⟩⟩

theorem literal_map {entries : List (String × Tree)} :
    (map entries).Literal ↔ ∀ e ∈ entries, ¬Marked e.1 ∧ e.2.Literal := by
  rw [literal_iff]
  constructor
  · rintro ⟨hkeys, hvalues⟩ e he
    exact ⟨hkeys e he, hvalues e.2 (mem_children_map.mpr ⟨e, he, rfl⟩)⟩
  · intro h
    refine ⟨fun e he => (h e he).1, ?_⟩
    intro v hv
    obtain ⟨e, he, rfl⟩ := mem_children_map.mp hv
    exact (h e he).2

end Tree

namespace Skeleton

variable {context : Tree}

theorem fillItems_ofItems {items : List Tree}
    (h : ∀ v ∈ items, (ofTree v).fill context = .ok (some v)) :
    fillItems context (ofItems items) = .ok items := by
  induction items with
  | nil => rfl
  | cons v rest ih =>
    rw [List.forall_mem_cons] at h
    rw [ofItems, fillItems, h.1, ih h.2]
    rfl

/-- Entries that stand for themselves are written over those that are there, in their order. -/
theorem fillFields_ofFields {entries : List (String × Tree)}
    (hkeys : ∀ e ∈ entries, ¬Marked e.1)
    (h : ∀ e ∈ entries, (ofTree e.2).fill context = .ok (some e.2)) (fs : Fields Tree) :
    fillFields context (ofFields entries) fs = .ok (fs.overlay entries) := by
  induction entries generalizing fs with
  | nil => rfl
  | cons e rest ih =>
    obtain ⟨k, v⟩ := e
    rw [List.forall_mem_cons] at hkeys h
    have hkey : filledKey k context = .ok (some k) :=
      filledKey_of_plain (hasMarkers_eq_false_iff.mpr hkeys.1) context
    have hrest := ih hkeys.2 h.2 (fs.put k v)
    simp only [ofFields, fillFields, h.1, hkey, Except.bind]
    exact hrest

/-- **Literal results are copied.** Where no text and no key of a tree holds a marker, its skeleton
is filled with the tree itself, over any context. -/
theorem fill_ofTree_of_literal {t : Tree} (ht : t.WellFormed) (h : t.Literal) (context : Tree) :
    (ofTree t).fill context = .ok (some t) := by
  induction t with
  | text s =>
    have hplain : hasMarkers s = false := hasMarkers_eq_false_iff.mpr (Tree.literal_text.mp h)
    rw [ofTree, hplain]
    rfl
  | list items ih =>
    have hitems : ∀ v ∈ items, (ofTree v).fill context = .ok (some v) := by
      intro v hv
      exact ih v hv (Tree.wellFormed_list.mp ht v hv) (Tree.literal_list.mp h v hv)
    rw [ofTree, fill, fillItems_ofItems hitems]
    rfl
  | map entries ih =>
    obtain ⟨hkeys, hvalues⟩ := Tree.wellFormed_map.mp ht
    have hentries : ∀ e ∈ entries, (ofTree e.2).fill context = .ok (some e.2) := by
      intro e he
      exact ih e he (hvalues e he) (Tree.literal_map.mp h e he).2
    have hplain : ∀ e ∈ entries, ¬Marked e.1 := fun e he => (Tree.literal_map.mp h e he).1
    -- Distinct keys find nothing to overwrite.
    have hsame : Fields.overlay [] entries = entries := Fields.collect_of_nodup hkeys
    rw [ofTree, fill, fillFields_ofFields hplain hentries, hsame]
    rfl
  | _ => rfl

/-- Null, empty values, a numeral and a single brace are copied over a context that is no map. -/
theorem fill_ofTree_of_literal_braces :
    let banner : Tree := .map [("text", .list [.text "\x7b a \x7d\x7d", .text "007", .text ""]),
      ("65000", .map [("", .null), ("rest", .list [])])]
    banner.WellFormed ∧ banner.Literal ∧
      (ofTree banner).fill (.text "over no map") = .ok (some banner) := by
  intro banner
  have hdata : banner.WellFormed := by
    simp [banner, Tree.WellFormed, Tree.WellFormedItems, Tree.WellFormedFields, Fields.keys]
  have hnull : Tree.null.Literal := by
    rintro u ⟨⟩
    exact trivial
  have hliteral : banner.Literal := by
    simp [banner, Tree.literal_map, Tree.literal_list, Tree.literal_text, hnull,
      ← hasMarkers_eq_false_iff, hasMarkers, hasMarkersIn]
  exact ⟨hdata, hliteral, fill_ofTree_of_literal hdata hliteral _⟩

end Skeleton

end Converge
