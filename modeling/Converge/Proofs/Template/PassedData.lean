import Converge.Proofs.Template.Variables
import Converge.Proofs.Tree.Folding
import Converge.Proofs.Tree.KeyOrder
import Converge.Proofs.Tree.Parts

/-!
# Data that passes through a placeholder

Data becomes a value of a template and data again with nothing changed but the order of keys, which
ascend in every map that comes out (`Value.toTree?_ofTree`). So a placeholder that is a variable
gives back the data under its name. Only a text at the top is looked at: the empty one is nothing,
and another may become a number, but no text is read as a template.

Main statement: `Placeholder.evaluate_passes`.
-/

namespace Converge

namespace Tree

/-- Whether the integers that stand in a tree fit 64 bits, with a sign or without. -/
def IntegersFit (t : Tree) : Prop :=
  ∀ i, Part (int i) t → Numeral.int64Min ≤ i ∧ i ≤ Numeral.uint64Max

/-- Whether the keys ascend in every map that stands in a tree. -/
def KeysAscend (t : Tree) : Prop :=
  ∀ entries, Part (map entries) t → (Fields.keys entries).Pairwise (· < ·)

theorem integersFit_int {i : Int} :
    (int i).IntegersFit ↔ Numeral.int64Min ≤ i ∧ i ≤ Numeral.uint64Max := by
  constructor
  · exact fun h => h i (.self _)
  · intro h j hj
    cases hj
    exact h

theorem integersFit_list {items : List Tree} :
    (list items).IntegersFit ↔ ∀ v ∈ items, v.IntegersFit := by
  constructor
  · exact fun h v hv i hi => h i (.item hv hi)
  · intro h i hi
    cases hi with
    | item hv hi => exact h _ hv i hi

theorem integersFit_map {entries : Fields Tree} :
    (map entries).IntegersFit ↔ ∀ e ∈ entries, e.2.IntegersFit := by
  constructor
  · exact fun h e he i hi => h i (.value he hi)
  · intro h i hi
    cases hi with
    | value he hi => exact h _ he i hi

/-- The sorted form of data has its keys in order at every depth. -/
theorem keysAscend_sorted {t : Tree} (ht : t.WellFormed) : t.sorted.KeysAscend := by
  induction t with
  | list items ih =>
    intro entries hpart
    rw [sorted_list] at hpart
    cases hpart with
    | item hmem hpart =>
      obtain ⟨v, hv, rfl⟩ := List.mem_map.mp hmem
      exact ih v hv (wellFormed_list.mp ht v hv) entries hpart
  | map fs ih =>
    obtain ⟨hkeys, hvalues⟩ := wellFormed_map.mp ht
    intro entries hpart
    rw [sorted] at hpart
    cases hpart with
    | self => exact Fields.pairwise_keys_sorted (by rwa [keys_sortedFields])
    | value hmem hpart =>
      rw [(Fields.perm_sorted _).mem_iff, sortedFields_eq] at hmem
      obtain ⟨e, he, rfl⟩ := List.mem_map.mp hmem
      exact ih e he (hvalues e he) entries hpart
  | _ =>
    intro entries hpart
    cases hpart

end Tree

/-! ## There and back -/

namespace Template.Value

theorem treeItems?_map {vs : List Tree} {f : Tree → Value} {g : Tree → Tree}
    (h : ∀ v ∈ vs, (f v).toTree? = some (g v)) : treeItems? (vs.map f) = some (vs.map g) := by
  induction vs with
  | nil => rfl
  | cons v rest ih =>
    rw [List.forall_mem_cons] at h
    simp only [List.map_cons, treeItems?, h.1, ih h.2, Option.bind_some, Option.map_some]

theorem treeEntries?_map {es : Fields Tree} {f : Tree → Value} {g : Tree → Tree}
    (h : ∀ e ∈ es, (f e.2).toTree? = some (g e.2)) :
    treeEntries? (es.map fun e => (ofText e.1, f e.2)) = some (es.map fun e => (e.1, g e.2)) := by
  induction es with
  | nil => rfl
  | cons e rest ih =>
    rw [List.forall_mem_cons] at h
    have hkey : keyText? (ofText e.1) = some e.1 := rfl
    simp only [List.map_cons, treeEntries?, hkey, h.1, ih h.2, Option.bind_some, Option.map_some]

/-- **Data through a template and back** is the same data with its keys in order. -/
theorem toTree?_ofTree {t : Tree} (ht : t.WellFormed) (hfit : t.IntegersFit) :
    (ofTree t).toTree? = some t.sorted := by
  induction t with
  | int i =>
    obtain ⟨hmin, hmax⟩ := Tree.integersFit_int.mp hfit
    simp [ofTree, toTree?, Tree.sorted, hmin, hmax]
  | float x =>
    have hfinite : x.isFinite = true := ht
    simp [ofTree, toTree?, Tree.sorted, hfinite]
  | list vs ih =>
    have hitems : ∀ v ∈ vs, (ofTree v).toTree? = some v.sorted := fun v hv =>
      ih v hv (Tree.wellFormed_list.mp ht v hv) (Tree.integersFit_list.mp hfit v hv)
    rw [ofTree, toTree?, ofItems_eq, treeItems?_map hitems, Tree.sorted_list, Option.map_some]
  | map es ih =>
    obtain ⟨hkeys, hvalues⟩ := Tree.wellFormed_map.mp ht
    have hentries : ∀ e ∈ Fields.sorted es, (ofTree e.2).toTree? = some e.2.sorted := by
      intro e he
      have hmem : e ∈ es := (Fields.perm_sorted es).mem_iff.mp he
      exact ih e hmem (hvalues e hmem) (Tree.integersFit_map.mp hfit e hmem)
    have hsorted : (Fields.sorted (ofFields es)).map (fun e => (ofText e.1, e.2)) =
        (Fields.sorted es).map fun e => (ofText e.1, ofTree e.2) := by
      rw [ofFields_eq, Fields.sorted_mapValues, List.map_map]
      rfl
    have hcollect : Fields.collect ((Fields.sorted es).map fun e => (e.1, e.2.sorted)) =
        Fields.sorted (Tree.sortedFields es) := by
      rw [Tree.sortedFields_eq, Fields.sorted_mapValues, Fields.collect_of_nodup]
      simpa [Fields.keys, Function.comp_def] using Fields.nodup_keys_sorted hkeys
    rw [ofTree, toTree?, hsorted, treeEntries?_map hentries, Option.map_some, hcollect, Tree.sorted]
  | _ => simp [ofTree, ofText, toTree?, Tree.sorted]

end Template.Value

namespace Placeholder

open Template

/-- **Data passes through a placeholder.** A placeholder that is a variable gives the data under its
name: nothing for null and the empty text, the number that a text writes or the text as it is, and
any other value with nothing changed but the order of keys, which ascend at every depth. -/
theorem evaluate_passes {fs : Fields Tree} (hd : (Fields.keys fs).Nodup) {name : String}
    (hname : isVariable name = true) {v : Tree} (hv : fs.get? name = some v) (hwell : v.WellFormed)
    (hfit : v.IntegersFit) (strict : Bool) :
    evaluate ("\x7b\x7b " ++ name ++ " \x7d\x7d") (.map fs) strict = .ok (match v with
      | .null => none
      | .text s => if s = "" then none else some (Tree.ofCaptured s)
      | v => some v.sorted) ∧
    Tree.Reordered v v.sorted ∧ v.sorted.KeysAscend := by
  have hchars : ("\x7b\x7b " ++ name ++ " \x7d\x7d").toList = Token.variableChars "" name := by
    simp [Token.variableChars]
  refine ⟨?_, .to_sorted v, Tree.keysAscend_sorted hwell⟩
  rw [evaluate_variable hd hv hname hchars, Value.toTree?_ofTree hwell hfit]
  cases v with
  | text s =>
    by_cases hs : s = ""
    · subst hs
      rfl
    · simp [Tree.sorted, normalized, hs]
  | _ => rfl

/-- Inside a list a text with markers, a quote and a line end comes out as it is, and so does a
numeral. The keys of a map come out in order. -/
theorem evaluate_passes_lines :
    let lines : Tree := .list [.text "\x7b\x7b other \x7d\x7d \"\n", .text "007",
      .map [("b", .int 1), ("a", .null)]]
    evaluate "\x7b\x7b lines \x7d\x7d" (.map [("other", .bool true), ("lines", lines)]) true =
      .ok (some (.list [.text "\x7b\x7b other \x7d\x7d \"\n", .text "007",
        .map [("a", .null), ("b", .int 1)]])) := by
  intro lines
  have hkeys : (Fields.keys [("other", Tree.bool true), ("lines", lines)]).Nodup := by
    simp [Fields.keys]
  have hwell : lines.WellFormed := by
    simp [lines, Tree.WellFormed, Tree.WellFormedItems, Tree.WellFormedFields, Fields.keys]
  have htext : ∀ s, (Tree.text s).IntegersFit := by
    intro s i hi
    cases hi
  have hnull : Tree.null.IntegersFit := by
    intro i hi
    cases hi
  have hfit : lines.IntegersFit := by
    simp [lines, Tree.integersFit_list, Tree.integersFit_map, Tree.integersFit_int, htext, hnull,
      Numeral.int64Min, Numeral.uint64Max]
  have hsorted : lines.sorted = .list [.text "\x7b\x7b other \x7d\x7d \"\n", .text "007",
      .map [("a", .null), ("b", .int 1)]] := by decide
  have hname : isVariable "lines" = true := rfl
  have hlines : Fields.get? "lines" [("other", Tree.bool true), ("lines", lines)] = some lines :=
    rfl
  obtain ⟨hvalue, -⟩ := evaluate_passes hkeys hname hlines hwell hfit true
  rw [← hsorted]
  exact hvalue

end Placeholder

end Converge
