import Converge.Text.Find

/-!
# Pieces of a text

A text is split where a character occurs, so none of its pieces has that character. Pieces without
it come back when they are joined by it and split again.
-/

namespace Converge.Text

variable {mark : Char}

/-- Splitting at a character is splitting at whatever equals it. -/
theorem splitOn_eq (mark : Char) (cs : List Char) :
    splitOn mark cs = cs.splitOnP (· == mark) := by
  induction cs with
  | nil => rfl
  | cons c cs ih =>
    rw [splitOn, ih, List.splitOnP_cons_eq_if_modifyHead]
    by_cases hc : c = mark
    · simp [hc]
    · obtain ⟨piece, more, hpieces⟩ :=
        List.exists_cons_of_ne_nil (List.splitOnP_ne_nil (· == mark) cs)
      simp [hc, hpieces]

theorem not_mem_of_mem_splitOn {piece cs : List Char} (h : piece ∈ splitOn mark cs) :
    mark ∉ piece := by
  induction cs generalizing piece with
  | nil =>
    rw [splitOn, List.mem_singleton] at h
    simp [h]
  | cons c cs ih =>
    have hrest : ∀ other ∈ splitOn mark cs, mark ∉ other := fun _ hother => ih hother
    rw [splitOn] at h
    split at h
    · rcases List.mem_cons.mp h with rfl | hmem
      · exact List.not_mem_nil
      · exact ih hmem
    · rename_i hc
      split at h
      · rw [List.mem_singleton.mp h, List.mem_singleton]
        exact Ne.symm hc
      · rename_i first more hpieces
        rw [hpieces] at hrest
        rcases List.mem_cons.mp h with rfl | hmem
        · rw [List.mem_cons, not_or]
          exact ⟨Ne.symm hc, hrest first List.mem_cons_self⟩
        · exact hrest piece (List.mem_cons_of_mem _ hmem)

theorem splitOn_intercalate {pieces : List (List Char)} (hne : pieces ≠ [])
    (h : ∀ piece ∈ pieces, mark ∉ piece) : splitOn mark ([mark].intercalate pieces) = pieces := by
  rw [splitOn_eq]
  exact List.splitOn_intercalate mark h hne

end Converge.Text
