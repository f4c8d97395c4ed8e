import Converge.Proofs.Tree.Places

/-!
# Layers of trees

Three trees are laid one over the other. Whether the upper two are merged first matters only where
the middle one holds a value that is no map between two maps: from the left this value wipes out
what the lowest tree held there, from the right it is gone before it meets the lowest tree. The two
orders agree exactly when what is wiped out adds nothing to the topmost tree.

Main statement: `merged_layers`.
-/

namespace Converge.Tree

variable {a b c : Tree}

/-- If the order does not matter, a value between two maps that is none hides nothing. -/
theorem hidesNothing_of_assoc (hb : b.WellFormed) (hc : c.WellFormed)
    (h : (a.merged b).merged c = a.merged (b.merged c)) : HidesNothing a b c := by
  intro path u v w hu hv hw _ hvmap _
  have hno : ¬v.isMap = true := Bool.eq_false_iff.mp hvmap
  have hlower : (a.merged b).atKeys? path = some v := by
    simp only [atKeys?_merged_of_some hb hv, hu, merged_of_right_not_map hno]
  have hupper : (b.merged c).atKeys? path = some w := by
    simp only [atKeys?_merged_of_some hc hw, hv, merged_of_left_not_map hno]
  have hleft : ((a.merged b).merged c).atKeys? path = some w := by
    simp only [atKeys?_merged_of_some hc hw, hlower, merged_of_left_not_map hno]
  have hright : (a.merged (b.merged c)).atKeys? path = some (u.merged w) := by
    simp only [atKeys?_merged_of_some (wellFormed_merged hb hc) hupper, hu]
  rw [h, hright] at hleft
  exact Option.some.inj hleft

/-- **When merging is associative.** Three trees are merged in either order with one result, key
order included, when no value that is no map stands between two maps. They are so exactly when each
such value hides only what adds nothing to the map behind it. -/
theorem merged_layers (ha : a.WellFormed) (hb : b.WellFormed) (hc : c.WellFormed) :
    (MapsMeet a b c → (a.merged b).merged c = a.merged (b.merged c)) ∧
    ((a.merged b).merged c = a.merged (b.merged c) ↔ HidesNothing a b c) := by
  refine ⟨merged_assoc ha hb hc, ?_, ?_⟩
  · exact hidesNothing_of_assoc hb hc
  · exact merged_assoc_of_hidesNothing ha hb hc

/-- Ports in three layers may be merged in either order. A port that is switched off in the middle
loses its size from the left only, and the order does not matter where it held nothing to lose. -/
theorem merged_layers_ports :
    let lower := map [("name", text "R1"), ("ports", map [("p", map [("mtu", int 1500)]),
      ("q", map [("mtu", int 9000)])])]
    let middle := map [("ports", map [("r", null), ("p", map [("up", bool true)])])]
    let upper := map [("ports", map [("q", map [("up", bool false)]),
      ("p", map [("mtu", int 9000)])]), ("name", map [("first", text "R")])]
    let sized := map [("p", map [("mtu", int 1500)])]
    let bare := map [("p", map [("up", null)])]
    let off := map [("p", text "off")]
    let on := map [("p", map [("up", bool true)])]
    (lower.merged middle).merged upper = lower.merged (middle.merged upper) ∧
      ¬HidesNothing sized off on ∧ ¬MapsMeet bare off on ∧ HidesNothing bare off on := by
  intro lower middle upper sized bare off on
  have hdata : ∀ t ∈ [lower, middle, upper, sized, bare, off, on], t.WellFormed := by
    simp [lower, middle, upper, sized, bare, off, on, WellFormed, WellFormedFields, Fields.keys]
  have hshape : SameShape middle upper := sameShape_of_shapesAgree rfl
  have hports := merged_layers (hdata lower (by simp)) (hdata middle (by simp))
    (hdata upper (by simp))
  have hsized := merged_layers (hdata sized (by simp)) (hdata off (by simp)) (hdata on (by simp))
  have hbare := merged_layers (hdata bare (by simp)) (hdata off (by simp)) (hdata on (by simp))
  refine ⟨hports.1 (hshape.mapsMeet lower), ?_, ?_, ?_⟩
  · exact fun hnothing => absurd (hsized.2.mpr hnothing) (by decide)
  · intro hmeet
    have hmap := hmeet ["p"] (map [("up", null)]) (text "off") (map [("up", bool true)]) rfl rfl rfl
    simp [isMap] at hmap
  · exact hbare.2.mp (by decide)

end Converge.Tree
