import Converge.Tree.Merge
import Converge.Tree.Path

/-!
# Trees that are data

In a well-formed tree the keys of every map are distinct and floats are finite, as in every value
that is read from a text or that a template gives. Well-formed trees equal themselves, their parts
are well formed, and so is what merging makes of them.
-/

namespace Converge

namespace Fields

variable {α : Type}

theorem mem_of_get? {key : String} {v : α} {fs : Fields α} (h : get? key fs = some v) :
    (key, v) ∈ fs := by
  induction fs with
  | nil => cases h
  | cons e rest ih =>
    obtain ⟨k, w⟩ := e
    by_cases hk : k = key
    · rw [get?, if_pos hk] at h
      cases h
      exact hk ▸ List.mem_cons_self
    · rw [get?, if_neg hk] at h
      exact List.mem_cons_of_mem _ (ih h)

/-- Where keys are distinct every entry is found under its key. -/
theorem get?_of_mem {key : String} {v : α} {fs : Fields α} (hd : (keys fs).Nodup)
    (h : (key, v) ∈ fs) : get? key fs = some v := by
  induction fs with
  | nil => cases h
  | cons e rest ih =>
    obtain ⟨k, w⟩ := e
    obtain ⟨hk, hrest⟩ := List.nodup_cons.mp hd
    rcases List.mem_cons.mp h with heq | hmem
    · cases heq
      simp [get?]
    · have hne : k ≠ key := by
        rintro rfl
        exact hk (List.mem_map.mpr ⟨_, hmem, rfl⟩)
      rw [get?, if_neg hne]
      exact ih hrest hmem

/-- Writing what is there changes nothing. -/
theorem put_of_get? {key : String} {v : α} {fs : Fields α} (h : get? key fs = some v) :
    put key v fs = fs := by
  induction fs with
  | nil => cases h
  | cons e rest ih =>
    obtain ⟨k, w⟩ := e
    by_cases hk : k = key
    · rw [get?, if_pos hk] at h
      cases h
      rw [put, if_pos hk, hk]
    · rw [get?, if_neg hk] at h
      rw [put, if_neg hk, ih h]

theorem mem_put {key : String} {v : α} {fs : Fields α} {e : String × α} (h : e ∈ put key v fs) :
    e = (key, v) ∨ e ∈ fs := by
  induction fs with
  | nil => exact Or.inl (List.mem_singleton.mp h)
  | cons head rest ih =>
    obtain ⟨k, w⟩ := head
    by_cases hk : k = key
    · rw [put, if_pos hk] at h
      rcases List.mem_cons.mp h with rfl | hmem
      · exact Or.inl (by rw [hk])
      · exact Or.inr (List.mem_cons_of_mem _ hmem)
    · rw [put, if_neg hk] at h
      rcases List.mem_cons.mp h with rfl | hmem
      · exact Or.inr List.mem_cons_self
      · exact (ih hmem).imp id (List.mem_cons_of_mem _)

theorem nodup_keys_overlay {fs : Fields α} (h : (keys fs).Nodup) (more : List (String × α)) :
    (keys (fs.overlay more)).Nodup := by
  induction more generalizing fs with
  | nil => exact h
  | cons e rest ih => exact ih (nodup_keys_put h e.2)

theorem mem_overlay {fs more : Fields α} {e : String × α} (h : e ∈ fs.overlay more) :
    e ∈ fs ∨ e ∈ more := by
  induction more generalizing fs with
  | nil => exact Or.inl h
  | cons head rest ih =>
    rcases ih h with hput | hrest
    · rcases mem_put hput with rfl | hfs
      · exact Or.inr List.mem_cons_self
      · exact Or.inl hfs
    · exact Or.inr (List.mem_cons_of_mem _ hrest)

/-- Collecting is writing over nothing. -/
theorem collect_eq_overlay (entries : List (String × α)) :
    collect entries = overlay [] entries := rfl

end Fields

namespace Tree

/-! ## Parts -/

theorem wellFormedItems_iff {items : List Tree} :
    WellFormedItems items ↔ ∀ v ∈ items, v.WellFormed := by
  induction items with
  | nil => simp [WellFormedItems]
  | cons v rest ih => simp [WellFormedItems, ih]

theorem wellFormedFields_iff {entries : List (String × Tree)} :
    WellFormedFields entries ↔ ∀ e ∈ entries, e.2.WellFormed := by
  induction entries with
  | nil => simp [WellFormedFields]
  | cons e rest ih => simp [WellFormedFields, ih]

@[simp]
theorem wellFormed_list {items : List Tree} :
    (list items).WellFormed ↔ ∀ v ∈ items, v.WellFormed := wellFormedItems_iff

@[simp]
theorem wellFormed_map {entries : List (String × Tree)} :
    (map entries).WellFormed ↔ (Fields.keys entries).Nodup ∧ ∀ e ∈ entries, e.2.WellFormed := by
  rw [WellFormed, wellFormedFields_iff]

theorem wellFormed_empty : empty.WellFormed :=
  wellFormed_map.mpr ⟨List.nodup_nil, fun _ h => nomatch h⟩

theorem wellFormed_step? {segment : String} {t u : Tree} (ht : t.WellFormed)
    (h : step? segment t = some u) : u.WellFormed := by
  cases t with
  | map entries => exact (wellFormed_map.mp ht).2 _ (Fields.mem_of_get? h)
  | list items =>
    obtain ⟨i, -, hi⟩ := Option.bind_eq_some_iff.mp h
    exact wellFormed_list.mp ht u (List.mem_of_getElem? hi)
  | _ => cases h

/-- What is found in data is data. -/
theorem wellFormed_get? {path : String} {t u : Tree} (ht : t.WellFormed)
    (h : t.get? path = some u) : u.WellFormed := by
  rw [get?] at h
  generalize segments path = along at h
  induction along generalizing t with
  | nil =>
    cases h
    exact ht
  | cons segment rest ih =>
    obtain ⟨v, hv, hu⟩ := Option.bind_eq_some_iff.mp h
    exact ih (wellFormed_step? ht hv) hu

/-! ## Equality -/

theorem numEq_self {x : Binary64} (h : x.isFinite = true) : x.numEq x = true := by
  have hnan : x.isNaN = false := by
    simp only [Binary64.isFinite, decide_eq_true_eq] at h
    simp [Binary64.isNaN, h]
  simp [Binary64.numEq, hnan]

theorem sameItems_self {items : List Tree} (h : ∀ v ∈ items, v.same v = true) :
    sameItems items items = true := by
  induction items with
  | nil => rfl
  | cons v rest ih =>
    rw [sameItems, h v List.mem_cons_self, ih fun u hu => h u (List.mem_cons_of_mem _ hu)]
    rfl

/-- Entries that are found with equal values are equal entry by entry. -/
theorem sameFields_of_get? {entries fs : List (String × Tree)}
    (h : ∀ e ∈ entries, Fields.get? e.1 fs = some e.2 ∧ e.2.same e.2 = true) :
    sameFields entries fs = true := by
  induction entries with
  | nil => rfl
  | cons e rest ih =>
    obtain ⟨hget, hsame⟩ := h e List.mem_cons_self
    simp only [sameFields, hget, hsame, Bool.true_and]
    exact ih fun e' he' => h e' (List.mem_cons_of_mem _ he')

/-- Data equals itself. -/
theorem same_self {t : Tree} (h : t.WellFormed) : t.same t = true := by
  induction t with
  | null => simp [same]
  | bool b => simp [same]
  | int i => simp [same]
  | float x => simpa [same] using numEq_self h
  | text s => simp [same]
  | list items ih =>
    rw [same]
    exact sameItems_self fun v hv => ih v hv (wellFormed_list.mp h v hv)
  | map entries ih =>
    obtain ⟨hkeys, hvalues⟩ := wellFormed_map.mp h
    rw [same, beq_self_eq_true, Bool.true_and]
    refine sameFields_of_get? fun e he => ?_
    exact ⟨Fields.get?_of_mem hkeys he, ih e he (hvalues e he)⟩

/-! ## Merging -/

/-- What holds of entries and of each value that is written holds of merged entries. -/
theorem mergedFields_induct {motive : List (String × Tree) → Prop} {fs : List (String × Tree)}
    (write : ∀ es e, e ∈ fs → motive es →
      motive (Fields.put e.1 (match Fields.get? e.1 es with
        | some old => merged old e.2
        | none => e.2) es))
    {es : List (String × Tree)} (h : motive es) : motive (mergedFields es fs) := by
  induction fs generalizing es with
  | nil => simpa [mergedFields] using h
  | cons e rest ih =>
    rw [mergedFields]
    exact ih (fun es' e' he' => write es' e' (List.mem_cons_of_mem _ he'))
      (write es e List.mem_cons_self h)

/-- Merging data gives data. -/
theorem wellFormed_merged {base other : Tree} (hb : base.WellFormed) (ho : other.WellFormed) :
    (base.merged other).WellFormed := by
  induction other generalizing base with
  | map fs ih =>
    obtain ⟨hkeys, hvalues⟩ := wellFormed_map.mp ho
    cases base with
    | map es =>
      rw [merged]
      rw [wellFormed_map] at hb ⊢
      refine mergedFields_induct (motive := fun es =>
        (Fields.keys es).Nodup ∧ ∀ e ∈ es, e.2.WellFormed) ?_ hb
      rintro es e he ⟨hnodup, hes⟩
      refine ⟨Fields.nodup_keys_put hnodup _, fun e' he' => ?_⟩
      rcases Fields.mem_put he' with rfl | hold
      · dsimp only
        cases hget : Fields.get? e.1 es with
        | none => exact hvalues e he
        | some old => exact ih e he (hes _ (Fields.mem_of_get? hget)) (hvalues e he)
      · exact hes e' hold
    | _ => simpa [merged] using ho
  | _ => simpa [merged] using ho

end Tree

end Converge
