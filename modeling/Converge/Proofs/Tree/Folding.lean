import Converge.Proofs.Tree.Sameness

/-!
# Trees merged one after the other

A list of trees is merged into a tree from first to last. Merging is neither associative nor
commutative, but what comes out is settled: the same list merged once more changes nothing, though
maps, texts and lists may overwrite each other at any place (`foldl_merged_again`).
The argument goes by the tree that comes out. Where some tree of the list is no map, what was before
it is forgotten. Where all are maps, what comes out under a key is again a list of trees merged one
after the other, those that stand under the key (`field?_foldl_merged`).

Maps without a common key do not touch each other: the one merged in later stands behind the other
(`foldl_merged_behind`), and in the other order the same value comes out (`same_map_append_comm`).
-/

namespace Converge

namespace Fields

variable {α : Type}

theorem get?_append (key : String) (es fs : Fields α) :
    get? key (es ++ fs) = (get? key es).or (get? key fs) := by
  induction es with
  | nil => rfl
  | cons e rest ih =>
    obtain ⟨k, v⟩ := e
    by_cases hk : k = key
    · simp [get?, hk]
    · simpa [get?, hk] using ih

theorem nodup_keys_append {es fs : Fields α} (hes : (keys es).Nodup) (hfs : (keys fs).Nodup)
    (h : ∀ key ∈ keys fs, key ∉ keys es) : (keys (es ++ fs)).Nodup := by
  rw [keys, List.map_append]
  refine List.nodup_append.mpr ⟨hes, hfs, ?_⟩
  rintro key hkey _ hother rfl
  exact h key hother hkey

theorem put_append {key : String} {es : Fields α} (h : key ∉ keys es) (v : α) (fs : Fields α) :
    put key v (es ++ fs) = es ++ put key v fs := by
  induction es with
  | nil => rfl
  | cons e rest ih =>
    obtain ⟨k, w⟩ := e
    have hk : k ≠ key := fun hk => h (by simp [keys, hk])
    have hrest : key ∉ keys rest := fun hm => h (List.mem_cons_of_mem _ hm)
    rw [List.cons_append, put, if_neg hk, ih hrest, List.cons_append]

theorem overlay_of_apart {fs more : Fields α} (h : (keys (fs ++ more)).Nodup) :
    overlay fs more = fs ++ more := by
  induction more generalizing fs with
  | nil => exact (List.append_nil fs).symm
  | cons e rest ih =>
    obtain ⟨k, v⟩ := e
    have hsplit : fs ++ (k, v) :: rest = (fs ++ [(k, v)]) ++ rest := by simp
    have hnew : k ∉ keys fs := by
      rw [keys, List.map_append, List.nodup_append] at h
      intro hk
      exact h.2.2 k hk k (by simp) rfl
    have hput : put k v fs = fs ++ [(k, v)] := by simpa [put] using put_append hnew v []
    rw [hsplit] at h ⊢
    rw [← ih h, ← hput]
    rfl

/-- Entries of distinct keys are collected as they are. -/
theorem collect_of_nodup {fs : Fields α} (h : (keys fs).Nodup) : collect fs = fs := by
  have hapart : (keys ([] ++ fs)).Nodup := h
  rw [collect_eq_overlay, overlay_of_apart hapart, List.nil_append]

end Fields

namespace Tree

/-! ## A list merged again -/

/-- A tree that is no map makes what was before it forgotten. -/
theorem foldl_merged_eq_of_mem {us : List Tree} {u : Tree} (hu : u ∈ us) (hmap : ¬u.isMap = true)
    (t t' : Tree) : us.foldl merged t = us.foldl merged t' := by
  induction us generalizing t t' with
  | nil => cases hu
  | cons v rest ih =>
    rw [List.foldl_cons, List.foldl_cons]
    rcases List.mem_cons.mp hu with rfl | hrest
    · rw [merged_of_right_not_map hmap, merged_of_right_not_map hmap]
    · exact ih hrest _ _

theorem isMap_foldl_merged {us : List Tree} {t : Tree} (ht : t.isMap = true)
    (hus : ∀ u ∈ us, u.isMap = true) : (us.foldl merged t).isMap = true := by
  induction us generalizing t with
  | nil => exact ht
  | cons u rest ih =>
    rw [List.forall_mem_cons] at hus
    exact ih (by rw [isMap_merged, hus.1]) hus.2

/-- Values merged one after the other over a value that may be missing. -/
def foldedOver : Option Tree → List Tree → Option Tree
  | some t, us => some (us.foldl merged t)
  | none, [] => none
  | none, u :: us => some (us.foldl merged u)

theorem isSome_foldedOver {us : List Tree} {u : Tree} (h : u ∈ us) (t : Option Tree) :
    (foldedOver t us).isSome = true := by
  rcases us with _ | ⟨v, rest⟩
  · cases h
  · cases t <;> rfl

/-- Under a key of maps that are merged one after the other, their values are. -/
theorem field?_foldl_merged {us : List Tree} {t : Tree} (ht : t.isMap = true)
    (hus : ∀ u ∈ us, u.WellFormed) (hmaps : ∀ u ∈ us, u.isMap = true) (key : String) :
    field? key (us.foldl merged t) = foldedOver (field? key t) (us.filterMap (field? key)) := by
  induction us generalizing t with
  | nil => cases h : field? key t <;> simp [foldedOver, h]
  | cons u rest ih =>
    rw [List.forall_mem_cons] at hus hmaps
    have hstep := field?_merged hus.1 ⟨ht, hmaps.1⟩ key
    have hmap : (t.merged u).isMap = true := by rw [isMap_merged, hmaps.1]
    rw [List.foldl_cons, ih hmap hus.2 hmaps.2, hstep, List.filterMap_cons]
    rcases field? key t with _ | v <;> rcases field? key u with _ | w <;> rfl

theorem isSome_field?_foldl_merged {us : List Tree} {t u : Tree} {key : String}
    (ht : t.isMap = true) (hus : ∀ v ∈ us, v.WellFormed) (hmaps : ∀ v ∈ us, v.isMap = true)
    (hu : u ∈ us) (hkey : (field? key u).isSome = true) :
    (field? key (us.foldl merged t)).isSome = true := by
  obtain ⟨v, hv⟩ := Option.isSome_iff_exists.mp hkey
  rw [field?_foldl_merged ht hus hmaps]
  exact isSome_foldedOver (List.mem_filterMap.mpr ⟨u, hu, hv⟩) _

theorem wellFormed_of_mem_filterMap_field? {us : List Tree} (hus : ∀ u ∈ us, u.WellFormed)
    (key : String) : ∀ v ∈ us.filterMap (field? key), v.WellFormed := by
  intro v hv
  obtain ⟨u, hu, hfield⟩ := List.mem_filterMap.mp hv
  exact wellFormed_field? (hus u hu) hfield

/-- Entries stay under their keys when maps with no other keys are merged over them. -/
theorem keys_foldl_merged {us : List Tree} {es : Fields Tree} (hus : ∀ u ∈ us, u.WellFormed)
    (hmaps : ∀ u ∈ us, u.isMap = true)
    (hkeys : ∀ u ∈ us, ∀ key, (field? key u).isSome = true → key ∈ Fields.keys es) :
    ∃ fs, us.foldl merged (map es) = map fs ∧ Fields.keys fs = Fields.keys es := by
  induction us generalizing es with
  | nil => exact ⟨es, rfl, rfl⟩
  | cons u rest ih =>
    rw [List.forall_mem_cons] at hus hmaps hkeys
    obtain ⟨gs, rfl⟩ := isMap_iff.mp hmaps.1
    have hnone : (Fields.keys gs).filter (fun k => k ∉ Fields.keys es) = [] := by
      rw [List.filter_eq_nil_iff]
      intro key hkey
      have hthere := hkeys.1 key (Option.isSome_iff_exists.mpr (Fields.mem_keys_iff.mp hkey))
      simpa using hthere
    have hsame : Fields.keys (mergedFields es gs) = Fields.keys es := by
      rw [keys_mergedFields (wellFormed_map.mp hus.1).1, hnone, List.append_nil]
    obtain ⟨fs, hfs, hfskeys⟩ := ih hus.2 hmaps.2 (hsame ▸ hkeys.2)
    refine ⟨fs, ?_, hfskeys.trans hsame⟩
    simpa only [List.foldl_cons, merged] using hfs

/-- What came out of maps holds what they hold, one after the other. -/
theorem exists_foldl_merged_of_field? {us : List Tree} {t v : Tree} {key : String}
    (ht : t.WellFormed) (hmap : t.isMap = true) (hus : ∀ u ∈ us, u.WellFormed)
    (hmaps : ∀ u ∈ us, u.isMap = true) (h : field? key (us.foldl merged t) = some v) :
    ∃ w : Tree, w.WellFormed ∧ (us.filterMap (field? key)).foldl merged w = v := by
  rw [field?_foldl_merged hmap hus hmaps] at h
  have hwell := wellFormed_of_mem_filterMap_field? hus key
  generalize us.filterMap (field? key) = vs at h hwell
  rcases hfield : field? key t with _ | w <;> rw [hfield] at h
  · rcases vs with _ | ⟨u, rest⟩
    · cases h
    · -- The first value merged over itself is itself.
      have hu := hwell u List.mem_cons_self
      refine ⟨u, hu, ?_⟩
      rw [List.foldl_cons, merged_self hu]
      exact Option.some.inj h
  · exact ⟨w, wellFormed_field? ht hfield, Option.some.inj h⟩

/-- Maps merged again over what came out of them, when their values are settled key by key. -/
theorem foldl_merged_again_of_isMap {us : List Tree} {t : Tree} {entries : Fields Tree}
    (ht : t.WellFormed) (hmap : t.isMap = true) (hus : ∀ u ∈ us, u.WellFormed)
    (hmaps : ∀ u ∈ us, u.isMap = true) (h : us.foldl merged t = map entries)
    (hsettled : ∀ key v, Fields.get? key entries = some v →
      (us.filterMap (field? key)).foldl merged v = v) :
    us.foldl merged (map entries) = map entries := by
  have hkeys : ∀ u ∈ us, ∀ key, (field? key u).isSome = true → key ∈ Fields.keys entries := by
    intro u hu key hkey
    have hthere := isSome_field?_foldl_merged hmap hus hmaps hu hkey
    rw [h] at hthere
    exact Fields.mem_keys_iff.mpr (Option.isSome_iff_exists.mp hthere)
  obtain ⟨fs, hfs, hsame⟩ := keys_foldl_merged hus hmaps hkeys
  have hwell : (map entries).WellFormed := h ▸ wellFormed_foldl_merged ht hus
  have hnodup : (Fields.keys fs).Nodup := hsame ▸ (wellFormed_map.mp hwell).1
  rw [hfs, Fields.ext_of_keys hnodup hsame]
  intro key
  have hagain := field?_foldl_merged (t := map entries) rfl hus hmaps key
  rw [hfs] at hagain
  change field? key (map fs) = field? key (map entries)
  rcases hget : Fields.get? key entries with _ | v
  · have hnone : key ∉ Fields.keys fs := by
      rw [hsame]
      exact Fields.get?_eq_none_iff.mp hget
    exact (Fields.get?_eq_none_iff.mpr hnone).trans hget.symm
  · rw [hagain]
    change foldedOver (Fields.get? key entries) _ = Fields.get? key entries
    rw [hget, foldedOver, hsettled key v hget]

theorem foldl_merged_again_of_not_isMap {us : List Tree} {t u : Tree} (hu : ¬u.isMap = true)
    (h : us.foldl merged t = u) : us.foldl merged u = u := by
  induction us using List.reverseRecOn with
  | nil => rfl
  | append_singleton before last _ =>
    have hlast : ¬last.isMap = true := by
      rw [List.foldl_append, List.foldl_cons, List.foldl_nil] at h
      rwa [← isMap_merged (before.foldl merged t) last, h]
    rw [foldl_merged_eq_of_mem (by simp) hlast u t, h]

/-- Trees that were merged into a tree change nothing when they are merged into it again. -/
theorem foldl_merged_again {us : List Tree} {t u : Tree} (ht : t.WellFormed)
    (hus : ∀ v ∈ us, v.WellFormed) (h : us.foldl merged t = u) : us.foldl merged u = u := by
  induction u generalizing us t with
  | map entries ih =>
    by_cases hmaps : ∀ v ∈ us, v.isMap = true
    · rcases us with _ | ⟨first, rest⟩
      · rfl
      have hfirst := hus first List.mem_cons_self
      -- What comes before the first map counts only when it is a map.
      obtain ⟨s, hs, hsmap, hsame⟩ : ∃ s : Tree, s.WellFormed ∧ s.isMap = true ∧
          (first :: rest).foldl merged s = map entries := by
        by_cases htmap : t.isMap = true
        · exact ⟨t, ht, htmap, h⟩
        · refine ⟨first, hfirst, hmaps first List.mem_cons_self, ?_⟩
          rw [← h, List.foldl_cons, List.foldl_cons, merged_self hfirst,
            merged_of_left_not_map htmap]
      -- Each entry came out of the values under its own key, so the induction is on the entries.
      refine foldl_merged_again_of_isMap hs hsmap hus hmaps hsame ?_
      intro key v hv
      have hfield : field? key ((first :: rest).foldl merged s) = some v := by rw [hsame]; exact hv
      obtain ⟨w, hw, hvalues⟩ := exists_foldl_merged_of_field? hs hsmap hus hmaps hfield
      exact ih (key, v) (Fields.mem_of_get? hv) hw
        (wellFormed_of_mem_filterMap_field? hus key) hvalues
    · push Not at hmaps
      obtain ⟨v, hv, hvmap⟩ := hmaps
      rw [foldl_merged_eq_of_mem hv hvmap _ t, h]
  | _ => exact foldl_merged_again_of_not_isMap (by simp [isMap]) h

/-! ## Maps apart -/

theorem mergedFields_append {es fs gs : Fields Tree}
    (h : ∀ key ∈ Fields.keys gs, key ∉ Fields.keys es) :
    mergedFields (es ++ fs) gs = es ++ mergedFields fs gs := by
  induction gs generalizing fs with
  | nil => simp only [mergedFields]
  | cons e rest ih =>
    obtain ⟨k, v⟩ := e
    have hk : k ∉ Fields.keys es := h k (by simp [Fields.keys])
    have hrest : ∀ key ∈ Fields.keys rest, key ∉ Fields.keys es := fun key hkey =>
      h key (List.mem_cons_of_mem _ hkey)
    rw [mergedFields, mergedFields, Fields.get?_append, Fields.get?_eq_none_iff.mpr hk,
      Option.none_or, Fields.put_append hk, ih hrest]

/-- Maps that are merged over entries under other keys leave these alone. -/
theorem foldl_merged_behind {us : List Tree} (es fs : Fields Tree)
    (hmaps : ∀ u ∈ us, u.isMap = true)
    (hapart : ∀ u ∈ us, ∀ key, (field? key u).isSome = true → key ∉ Fields.keys es) :
    ∃ gs, us.foldl merged (map fs) = map gs ∧
      us.foldl merged (map (es ++ fs)) = map (es ++ gs) := by
  induction us generalizing fs with
  | nil => exact ⟨fs, rfl, rfl⟩
  | cons u rest ih =>
    rw [List.forall_mem_cons] at hmaps hapart
    obtain ⟨hs, rfl⟩ := isMap_iff.mp hmaps.1
    have hkeys : ∀ key ∈ Fields.keys hs, key ∉ Fields.keys es := fun key hkey =>
      hapart.1 key (Option.isSome_iff_exists.mpr (Fields.mem_keys_iff.mp hkey))
    obtain ⟨gs, hgs, hbehind⟩ := ih (mergedFields fs hs) hmaps.2 hapart.2
    refine ⟨gs, ?_, ?_⟩
    · simpa only [List.foldl_cons, merged] using hgs
    · simpa only [List.foldl_cons, merged, mergedFields_append hkeys] using hbehind

/-- Entries under different keys make up the same value in either order. -/
theorem same_map_append_comm {es fs : Fields Tree} (hes : (map es).WellFormed)
    (hfs : (map fs).WellFormed) (hapart : ∀ key ∈ Fields.keys fs, key ∉ Fields.keys es) :
    (map (es ++ fs)).same (map (fs ++ es)) = true := by
  obtain ⟨hek, hev⟩ := wellFormed_map.mp hes
  obtain ⟨hfk, hfv⟩ := wellFormed_map.mp hfs
  have hapart' : ∀ key ∈ Fields.keys es, key ∉ Fields.keys fs := fun key he hf => hapart key hf he
  rw [same_map_iff (Fields.nodup_keys_append hek hfk hapart)
    (Fields.nodup_keys_append hfk hek hapart')]
  intro key
  rw [Fields.get?_append, Fields.get?_append]
  rcases he : Fields.get? key es with _ | v <;> rcases hf : Fields.get? key fs with _ | w
  · exact .none
  · exact .some (same_self (hfv _ (Fields.mem_of_get? hf)))
  · exact .some (same_self (hev _ (Fields.mem_of_get? he)))
  · exact absurd (Fields.mem_keys_iff.mpr ⟨v, he⟩) (hapart key (Fields.mem_keys_iff.mpr ⟨w, hf⟩))

end Tree

end Converge
