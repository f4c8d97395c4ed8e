import Converge.Proofs.Tree.Data
import Mathlib.Data.List.Nodup
import Mathlib.Data.List.Perm.Basic
import Mathlib.Data.String.Basic

/-!
# Entries in the order of their keys

Sorting entries by their keys only moves them. Where keys are distinct, entries are moved entries
exactly when they hold the same under every key (`perm_iff_get?`), and sorting forgets how they were
moved (`sorted_eq_of_perm`). Sorted keys ascend (`pairwise_keys_sorted`), and values may be replaced
before or after (`sorted_mapValues`).
-/

namespace Converge.Fields

variable {α : Type}

theorem perm_insertSorted (key : String) (v : α) (fs : Fields α) :
    (insertSorted key v fs).Perm ((key, v) :: fs) := by
  induction fs with
  | nil => exact .refl _
  | cons e rest ih =>
    obtain ⟨k, w⟩ := e
    rw [insertSorted]
    split
    · exact .refl _
    · exact (ih.cons (k, w)).trans (.swap (key, v) (k, w) rest)

theorem perm_sorted (fs : Fields α) : (sorted fs).Perm fs := by
  induction fs with
  | nil => exact .refl _
  | cons e rest ih => exact (perm_insertSorted e.1 e.2 (sorted rest)).trans (ih.cons e)

theorem nodup_keys_of_perm {es fs : Fields α} (h : es.Perm fs) (hd : (keys es).Nodup) :
    (keys fs).Nodup :=
  (h.map Prod.fst).nodup_iff.mp hd

theorem nodup_keys_sorted {fs : Fields α} (h : (keys fs).Nodup) : (keys (sorted fs)).Nodup :=
  nodup_keys_of_perm (perm_sorted fs).symm h

/-- Entries with different keys may be put in one after the other in either order. -/
theorem insertSorted_comm {k l : String} (h : k ≠ l) (v w : α) (fs : Fields α) :
    insertSorted k v (insertSorted l w fs) = insertSorted l w (insertSorted k v fs) := by
  induction fs with
  | nil =>
    rcases lt_or_gt_of_ne h with hlt | hlt
    · simp [insertSorted, hlt, hlt.not_gt]
    · simp [insertSorted, hlt, hlt.not_gt]
  | cons e rest ih =>
    obtain ⟨m, u⟩ := e
    by_cases hk : k < m <;> by_cases hl : l < m
    · rcases lt_or_gt_of_ne h with hlt | hlt
      · simp [insertSorted, hk, hl, hlt, hlt.not_gt]
      · simp [insertSorted, hk, hl, hlt, hlt.not_gt]
    · have hlt : k < l := hk.trans_le (le_of_not_gt hl)
      simp [insertSorted, hk, hl, hlt.not_gt]
    · have hlt : l < k := hl.trans_le (le_of_not_gt hk)
      simp [insertSorted, hk, hl, hlt.not_gt]
    · simp [insertSorted, hk, hl, ih]

/-- Sorting entries of distinct keys forgets their order. -/
theorem sorted_eq_of_perm {es fs : Fields α} (h : es.Perm fs) (hd : (keys es).Nodup) :
    sorted es = sorted fs := by
  induction h with
  | nil => rfl
  | cons e _ ih => rw [sorted, sorted, ih (List.nodup_cons.mp hd).2]
  | swap e f rest =>
    have hne : f.1 ≠ e.1 := fun heq => (List.nodup_cons.mp hd).1 (by simp [heq])
    exact insertSorted_comm hne f.2 e.2 (sorted rest)
  | trans h _ ih ih' => rw [ih hd, ih' (nodup_keys_of_perm h hd)]

/-- Entries of distinct keys are moved ones exactly when they hold the same under every key. -/
theorem perm_iff_get? {es fs : Fields α} (hes : (keys es).Nodup) (hfs : (keys fs).Nodup) :
    es.Perm fs ↔ ∀ key, get? key es = get? key fs := by
  have hmem : ∀ {gs : Fields α}, (keys gs).Nodup → ∀ e, e ∈ gs ↔ get? e.1 gs = some e.2 :=
    fun hgs e => ⟨fun he => get?_of_mem hgs he, fun hget => mem_of_get? hget⟩
  constructor
  · intro h key
    refine Option.ext fun v => ?_
    exact (hmem hes (key, v)).symm.trans ((h.mem_iff).trans (hmem hfs (key, v)))
  · intro h
    refine (List.perm_ext_iff_of_nodup (List.Nodup.of_map Prod.fst hes)
      (List.Nodup.of_map Prod.fst hfs)).mpr fun e => ?_
    rw [hmem hes, hmem hfs, h]

/-- Sorting entries by their keys keeps what is under a key. -/
theorem get?_sorted {fs : Fields α} (h : (keys fs).Nodup) (key : String) :
    get? key (sorted fs) = get? key fs :=
  (perm_iff_get? (nodup_keys_sorted h) h).mp (perm_sorted fs) key

/-- A new key is put in at its place in the order. -/
theorem pairwise_keys_insertSorted {key : String} {fs : Fields α} (hnew : key ∉ keys fs)
    (h : (keys fs).Pairwise (· < ·)) (v : α) :
    (keys (insertSorted key v fs)).Pairwise (· < ·) := by
  induction fs with
  | nil => exact List.pairwise_singleton _ _
  | cons e rest ih =>
    obtain ⟨k, w⟩ := e
    obtain ⟨hfirst, hrest⟩ := List.pairwise_cons.mp h
    obtain ⟨hne, hnew⟩ := not_or.mp (mt List.mem_cons.mpr hnew)
    rw [insertSorted]
    by_cases hlt : key < k
    · rw [if_pos hlt]
      refine List.pairwise_cons.mpr ⟨?_, h⟩
      intro l hl
      rcases List.mem_cons.mp hl with rfl | hl
      · exact hlt
      · exact hlt.trans (hfirst l hl)
    · rw [if_neg hlt]
      have hgt : k < key := lt_of_le_of_ne (le_of_not_gt hlt) (Ne.symm hne)
      refine List.pairwise_cons.mpr ⟨?_, ih hnew hrest⟩
      intro l hl
      have hmem : l ∈ key :: keys rest :=
        ((perm_insertSorted key v rest).map Prod.fst).mem_iff.mp hl
      rcases List.mem_cons.mp hmem with rfl | hl
      · exact hgt
      · exact hfirst l hl

/-- Distinct keys ascend once they are sorted. -/
theorem pairwise_keys_sorted {fs : Fields α} (h : (keys fs).Nodup) :
    (keys (sorted fs)).Pairwise (· < ·) := by
  induction fs with
  | nil => exact List.Pairwise.nil
  | cons e rest ih =>
    obtain ⟨hkey, hrest⟩ := List.nodup_cons.mp h
    have hnew : e.1 ∉ keys (sorted rest) := fun hmem =>
      hkey (((perm_sorted rest).map Prod.fst).mem_iff.mp hmem)
    exact pairwise_keys_insertSorted hnew (ih hrest) e.2

section

variable {β : Type} (f : α → β)

theorem insertSorted_mapValues (key : String) (v : α) (fs : Fields α) :
    insertSorted key (f v) (fs.map fun e => (e.1, f e.2)) =
      (insertSorted key v fs).map fun e => (e.1, f e.2) := by
  induction fs with
  | nil => rfl
  | cons e rest ih =>
    obtain ⟨k, w⟩ := e
    by_cases hk : key < k
    · simp [insertSorted, hk]
    · simp [insertSorted, hk, ih]

/-- Sorting does not look at the values. -/
theorem sorted_mapValues (fs : Fields α) :
    sorted (fs.map fun e => (e.1, f e.2)) = (sorted fs).map fun e => (e.1, f e.2) := by
  induction fs with
  | nil => rfl
  | cons e rest ih =>
    obtain ⟨k, v⟩ := e
    rw [List.map_cons, sorted, ih, insertSorted_mapValues]
    rfl

end

end Converge.Fields
