import Converge.Proofs.Tree.Cleaning
import Mathlib.Data.List.Induction

/-!
# Merged trees, place by place

What a merged tree holds under a key is what the two trees hold there, merged where both hold
something. This goes on along a path as long as the two trees are maps wherever both hold a value;
from the first place on where they are not (`Clash`), the later tree alone counts.

Merging a tree a second time changes nothing (`merged_merged_self`). Merging is associative unless a
value that is no map stands between two maps (`MapsMeet`, `merged_assoc`), and still is where such a
value hides nothing (`HidesNothing`). So merging a list of trees into a map is merging them with
each other first where they agree on which places are maps (`OneShape`, `foldl_merged`).
-/

namespace Converge

namespace Fields

variable {α : Type}

theorem mem_keys_iff {key : String} {fs : Fields α} :
    key ∈ keys fs ↔ ∃ v, get? key fs = some v := by
  rw [← Option.isSome_iff_exists, Option.isSome_iff_ne_none, ne_eq, get?_eq_none_iff,
    Decidable.not_not]

/-- Entries with the same distinct keys in the same order are told apart by a value. -/
theorem ext_of_keys {es fs : Fields α} (hd : (keys es).Nodup) (hkeys : keys es = keys fs)
    (hget : ∀ key, get? key es = get? key fs) : es = fs := by
  induction es generalizing fs with
  | nil => exact (List.map_eq_nil_iff.mp hkeys.symm).symm
  | cons e rest ih =>
    obtain ⟨k, v⟩ := e
    rcases fs with _ | ⟨⟨l, w⟩, more⟩
    · cases hkeys
    obtain ⟨rfl, hrest⟩ := List.cons.inj hkeys
    obtain ⟨hk, hd⟩ := List.nodup_cons.mp hd
    have hhead : v = w := by simpa [get?] using hget k
    have htail : rest = more := by
      refine ih hd hrest fun key => ?_
      by_cases hkey : k = key
      · subst hkey
        have hmore : k ∉ keys more := fun hm => hk (hrest ▸ hm)
        rw [get?_eq_none_iff.mpr hk, get?_eq_none_iff.mpr hmore]
      · simpa [get?, hkey] using hget key
    rw [hhead, htail]

end Fields

namespace Tree

/-! ## Key by key -/

theorem merged_of_isMap_eq_false {base other : Tree}
    (h : ¬(base.isMap = true ∧ other.isMap = true)) : base.merged other = other := by
  cases other with
  | map fs =>
    cases base with
    | map es => exact absurd ⟨rfl, rfl⟩ h
    | _ => simp only [merged]
  | _ => simp only [merged]

theorem merged_of_left_not_map {base : Tree} (h : ¬base.isMap = true) (other : Tree) :
    base.merged other = other :=
  merged_of_isMap_eq_false fun hboth => h hboth.1

theorem merged_of_right_not_map {other : Tree} (h : ¬other.isMap = true) (base : Tree) :
    base.merged other = other :=
  merged_of_isMap_eq_false fun hboth => h hboth.2

@[simp]
theorem isMap_merged (base other : Tree) : (base.merged other).isMap = other.isMap := by
  cases other with
  | map fs => cases base <;> simp only [merged, isMap]
  | _ => simp only [merged]

theorem isMap_iff {t : Tree} : t.isMap = true ↔ ∃ es, t = map es := by
  cases t <;> simp [isMap]

/-- What merged entries hold under a key. -/
theorem get?_mergedFields {key : String} {es fs : Fields Tree} (hd : (Fields.keys fs).Nodup) :
    Fields.get? key (mergedFields es fs) =
      Option.merge merged (Fields.get? key es) (Fields.get? key fs) := by
  induction fs generalizing es with
  | nil => simp [mergedFields, Fields.get?]
  | cons e rest ih =>
    obtain ⟨k, v⟩ := e
    obtain ⟨hk, hd⟩ := List.nodup_cons.mp hd
    rw [mergedFields, ih hd, Fields.get?]
    by_cases hkey : k = key
    · subst hkey
      rw [Fields.get?_eq_none_iff.mpr hk, if_pos rfl, Fields.get?_put_self]
      cases Fields.get? k es <;> rfl
    · rw [Fields.get?_put_of_ne hkey, if_neg hkey]

/-- Merged entries have the keys of the earlier ones, and behind them the new keys of the later
ones. -/
theorem keys_mergedFields {es fs : Fields Tree} (hd : (Fields.keys fs).Nodup) :
    Fields.keys (mergedFields es fs) =
      Fields.keys es ++ (Fields.keys fs).filter fun k => k ∉ Fields.keys es := by
  induction fs generalizing es with
  | nil => simp [mergedFields, Fields.keys]
  | cons e rest ih =>
    obtain ⟨k, v⟩ := e
    obtain ⟨hk, hd⟩ := List.nodup_cons.mp hd
    have hcons : Fields.keys ((k, v) :: rest) = k :: Fields.keys rest := rfl
    rw [mergedFields, ih hd, hcons]
    by_cases hold : k ∈ Fields.keys es
    · rw [Fields.keys_put_of_mem hold, List.filter_cons_of_neg (by simpa using hold)]
    · rw [Fields.keys_put_of_not_mem hold, List.filter_cons_of_pos (by simpa using hold),
        List.append_assoc]
      have hsame : (Fields.keys rest).filter (fun l => l ∉ Fields.keys es ++ [k]) =
          (Fields.keys rest).filter fun l => l ∉ Fields.keys es := by
        refine List.filter_congr fun l hl => ?_
        have hne : l ≠ k := fun h => hk (h ▸ hl)
        simp [hne]
      rw [hsame, List.singleton_append]

theorem nodup_keys_mergedFields {es fs : Fields Tree} (hes : (Fields.keys es).Nodup)
    (hfs : (Fields.keys fs).Nodup) : (Fields.keys (mergedFields es fs)).Nodup := by
  rw [keys_mergedFields hfs, List.nodup_append]
  refine ⟨hes, hfs.filter _, ?_⟩
  rintro k hk l hl rfl
  simp [hk] at hl

/-- What a merged map holds under a key. -/
theorem field?_merged {base other : Tree} (ho : other.WellFormed)
    (h : base.isMap = true ∧ other.isMap = true) (key : String) :
    field? key (base.merged other) = Option.merge merged (field? key base) (field? key other) := by
  obtain ⟨⟨es, rfl⟩, ⟨fs, rfl⟩⟩ := h.imp isMap_iff.mp isMap_iff.mp
  simp only [merged, field?, get?_mergedFields (wellFormed_map.mp ho).1]

theorem wellFormed_field? {key : String} {t u : Tree} (ht : t.WellFormed)
    (h : field? key t = some u) : u.WellFormed := by
  cases t with
  | map entries => exact (wellFormed_map.mp ht).2 _ (Fields.mem_of_get? h)
  | _ => cases h

theorem isEmpty_merged {base other : Tree} (ho : other.WellFormed) (h : other.isEmpty = false) :
    (base.merged other).isEmpty = false := by
  by_cases hmaps : base.isMap = true ∧ other.isMap = true
  · obtain ⟨⟨es, rfl⟩, ⟨fs, rfl⟩⟩ := hmaps.imp isMap_iff.mp isMap_iff.mp
    have hkeys : Fields.keys (mergedFields es fs) = _ := keys_mergedFields (wellFormed_map.mp ho).1
    rw [merged, isEmpty, List.isEmpty_eq_false_iff]
    intro hnone
    rw [hnone] at hkeys
    obtain ⟨hes, hnew⟩ := List.append_eq_nil_iff.mp hkeys.symm
    obtain rfl : es = [] := List.map_eq_nil_iff.mp hes
    have hall : ∀ k ∈ Fields.keys fs, k ∉ Fields.keys ([] : Fields Tree) := by simp [Fields.keys]
    rw [List.filter_eq_self.mpr (by simpa using hall)] at hnew
    obtain rfl : fs = [] := List.map_eq_nil_iff.mp hnew
    cases h
  · rw [merged_of_isMap_eq_false hmaps, h]

/-! ## Along a path -/

/-- Some place above the end of a path at which both trees hold values that are not both maps. -/
def Clash (base other : Tree) (path : List String) : Prop :=
  ∃ above below, path = above ++ below ∧ below ≠ [] ∧ ∃ b o,
    walk? above base = some b ∧ walk? above other = some o ∧ ¬(b.isMap = true ∧ o.isMap = true)

theorem not_clash_nil {base other : Tree} : ¬Clash base other [] := by
  rintro ⟨above, below, hpath, hbelow, -⟩
  exact hbelow (List.append_eq_nil_iff.mp hpath.symm).2

theorem clash_cons_iff {base other : Tree} {segment : String} {rest : List String} :
    Clash base other (segment :: rest) ↔ ¬(base.isMap = true ∧ other.isMap = true) ∨
      ∃ b o, step? segment base = some b ∧ step? segment other = some o ∧ Clash b o rest := by
  constructor
  · rintro ⟨above, below, hpath, hbelow, b, o, hb, ho, hkinds⟩
    rcases above with _ | ⟨first, above⟩
    · cases hb
      cases ho
      exact Or.inl hkinds
    · obtain ⟨rfl, hrest⟩ := List.cons.inj hpath
      obtain ⟨b', hb', hb⟩ := Option.bind_eq_some_iff.mp hb
      obtain ⟨o', ho', ho⟩ := Option.bind_eq_some_iff.mp ho
      exact Or.inr ⟨b', o', hb', ho', above, below, hrest, hbelow, b, o, hb, ho, hkinds⟩
  · rintro (hkinds | ⟨b', o', hb', ho', above, below, rfl, hbelow, b, o, hb, ho, hkinds⟩)
    · exact ⟨[], _, rfl, by simp, base, other, rfl, rfl, hkinds⟩
    · refine ⟨segment :: above, below, rfl, hbelow, b, o, ?_, ?_, hkinds⟩
      · simp only [walk?, hb', Option.bind_some, hb]
      · simp only [walk?, ho', Option.bind_some, ho]

theorem step?_merged {base other : Tree} (ho : other.WellFormed)
    (h : base.isMap = true ∧ other.isMap = true) (segment : String) :
    step? segment (base.merged other) =
      Option.merge merged (step? segment base) (step? segment other) := by
  obtain ⟨⟨es, rfl⟩, ⟨fs, rfl⟩⟩ := h.imp isMap_iff.mp isMap_iff.mp
  simp only [merged, step?, get?_mergedFields (wellFormed_map.mp ho).1]

/-- Below a clash the later tree alone counts. -/
theorem walk?_merged_of_clash {base other : Tree} {path : List String} (ho : other.WellFormed)
    (h : Clash base other path) : walk? path (base.merged other) = walk? path other := by
  induction path generalizing base other with
  | nil => exact absurd h not_clash_nil
  | cons segment rest ih =>
    by_cases hmaps : base.isMap = true ∧ other.isMap = true
    · obtain ⟨b, o, hb, hother, hclash⟩ := (clash_cons_iff.mp h).resolve_left (not_not_intro hmaps)
      simp only [walk?, step?_merged ho hmaps, hb, hother, Option.merge_some_some, Option.bind_some]
      exact ih (wellFormed_step? ho hother) hclash
    · rw [merged_of_isMap_eq_false hmaps]

/-- Where nothing clashes on the way, both trees count. -/
theorem walk?_merged_of_not_clash {base other : Tree} {path : List String} (ho : other.WellFormed)
    (h : ¬Clash base other path) :
    walk? path (base.merged other) = Option.merge merged (walk? path base) (walk? path other) := by
  induction path generalizing base other with
  | nil => rfl
  | cons segment rest ih =>
    rw [clash_cons_iff, not_or, Decidable.not_not] at h
    obtain ⟨hmaps, hbelow⟩ := h
    simp only [walk?, step?_merged ho hmaps]
    rcases hb : step? segment base with _ | b <;> rcases hother : step? segment other with _ | o
    · rfl
    · simp
    · simp
    · have hclash : ¬Clash b o rest := fun hclash => hbelow ⟨b, o, hb, hother, hclash⟩
      simpa using ih (wellFormed_step? ho hother) hclash

/-! ## Merging twice -/

/-- Merging the same data a second time changes nothing. -/
theorem merged_merged_self {other : Tree} (ho : other.WellFormed) (base : Tree) :
    (base.merged other).merged other = base.merged other := by
  induction other generalizing base with
  | map fs ih =>
    obtain ⟨hkeys, hvalues⟩ := wellFormed_map.mp ho
    cases base with
    | map es =>
      rw [merged, merged, mergedFields_eq_self]
      intro e he
      rw [get?_mergedFields hkeys, Fields.get?_of_mem hkeys he]
      rcases Fields.get? e.1 es with _ | old
      · exact ⟨e.2, rfl, merged_self (hvalues e he)⟩
      · exact ⟨old.merged e.2, rfl, ih e he (hvalues e he) old⟩
    | _ =>
      simp only [merged]
      exact merged_self ho
  | _ => simp only [merged]

/-- Wherever two trees hold maps at map keys, a third one between them holds a map if anything. -/
def MapsMeet (first between last : Tree) : Prop :=
  ∀ keys a b c, first.atKeys? keys = some a → between.atKeys? keys = some b →
    last.atKeys? keys = some c → a.isMap = true → c.isMap = true → b.isMap = true

/-- Wherever a value that is no map stands between two maps at map keys, the first map adds nothing
to the last one. -/
def HidesNothing (first between last : Tree) : Prop :=
  ∀ keys a b c, first.atKeys? keys = some a → between.atKeys? keys = some b →
    last.atKeys? keys = some c → a.isMap = true → b.isMap = false → c.isMap = true → a.merged c = c

theorem MapsMeet.hidesNothing {first between last : Tree} (h : MapsMeet first between last) :
    HidesNothing first between last := by
  intro keys a b c ha hb hc hamap hbmap hcmap
  rw [h keys a b c ha hb hc hamap hcmap] at hbmap
  cases hbmap

theorem HidesNothing.field {first between last a b c : Tree} {key : String}
    (h : HidesNothing first between last) (ha : field? key first = some a)
    (hb : field? key between = some b) (hc : field? key last = some c) : HidesNothing a b c := by
  intro keys x y z hx hy hz
  refine h (key :: keys) x y z ?_ ?_ ?_
  · simp only [atKeys?, ha, Option.bind_some, hx]
  · simp only [atKeys?, hb, Option.bind_some, hy]
  · simp only [atKeys?, hc, Option.bind_some, hz]

/-- Entries of three maps merge in either order when their values do. -/
theorem mergedFields_assoc {es fs gs : Fields Tree} (hes : (Fields.keys es).Nodup)
    (hfs : (Fields.keys fs).Nodup) (hgs : (Fields.keys gs).Nodup)
    (h : ∀ key a b c, Fields.get? key es = some a → Fields.get? key fs = some b →
      Fields.get? key gs = some c → (a.merged b).merged c = a.merged (b.merged c)) :
    mergedFields (mergedFields es fs) gs = mergedFields es (mergedFields fs gs) := by
  have hfirst := nodup_keys_mergedFields hes hfs
  have hlast := nodup_keys_mergedFields hfs hgs
  refine Fields.ext_of_keys (nodup_keys_mergedFields hfirst hgs) ?_ fun key => ?_
  · simp only [keys_mergedFields hfs, keys_mergedFields hgs, keys_mergedFields hlast,
      List.filter_append, List.filter_filter, List.append_assoc]
    congr 2
    refine List.filter_congr fun k _ => ?_
    by_cases hk : k ∈ Fields.keys es <;> simp [hk]
  · rw [get?_mergedFields hgs, get?_mergedFields hfs, get?_mergedFields hlast,
      get?_mergedFields hgs]
    rcases ha : Fields.get? key es with _ | a
    · simp
    rcases hb : Fields.get? key fs with _ | b
    · simp
    rcases hc : Fields.get? key gs with _ | c
    · simp
    · exact congrArg some (h key a b c ha hb hc)

/-- Merging is associative where a value between two maps that is none hides nothing. -/
theorem merged_assoc_of_hidesNothing {a b c : Tree} (ha : a.WellFormed) (hb : b.WellFormed)
    (hc : c.WellFormed) (h : HidesNothing a b c) :
    (a.merged b).merged c = a.merged (b.merged c) := by
  induction c generalizing a b with
  | map gs ih =>
    by_cases hbmap : b.isMap = true
    · by_cases hamap : a.isMap = true
      · obtain ⟨es, rfl⟩ := isMap_iff.mp hamap
        obtain ⟨fs, rfl⟩ := isMap_iff.mp hbmap
        obtain ⟨hes, haes⟩ := wellFormed_map.mp ha
        obtain ⟨hfs, hbfs⟩ := wellFormed_map.mp hb
        obtain ⟨hgs, hcgs⟩ := wellFormed_map.mp hc
        simp only [merged]
        rw [mergedFields_assoc hes hfs hgs]
        intro key x y z hx hy hz
        have hmem := Fields.mem_of_get? hz
        exact ih _ hmem (haes _ (Fields.mem_of_get? hx)) (hbfs _ (Fields.mem_of_get? hy))
          (hcgs _ hmem) (h.field hx hy hz)
      · rw [merged_of_left_not_map hamap, merged_of_left_not_map hamap]
    · -- The value between replaces the first tree, and the last one replaces it in turn.
      have hfirst : ¬(a.merged b).isMap = true := by rwa [isMap_merged]
      rw [merged_of_left_not_map hbmap, merged_of_left_not_map hfirst]
      by_cases hamap : a.isMap = true
      · have hnone : b.isMap = false := Bool.eq_false_iff.mpr hbmap
        exact (h [] a b (map gs) rfl rfl rfl hamap hnone rfl).symm
      · exact (merged_of_left_not_map hamap _).symm
  | _ => simp only [merged]

/-- Merging is associative unless a value that is no map stands between two maps. -/
theorem merged_assoc {a b c : Tree} (ha : a.WellFormed) (hb : b.WellFormed) (hc : c.WellFormed)
    (h : MapsMeet a b c) : (a.merged b).merged c = a.merged (b.merged c) :=
  merged_assoc_of_hidesNothing ha hb hc h.hidesNothing

/-! ## Trees of one shape -/

/-- Two trees hold maps at the same places, as far as both hold a value there. -/
def SameShape (t u : Tree) : Prop :=
  ∀ keys v w, t.atKeys? keys = some v → u.atKeys? keys = some w → v.isMap = w.isMap

mutual

/-- Whether two trees have one shape, found entry by entry. -/
def shapesAgree : Tree → Tree → Bool
  | map es, map fs => fieldsAgree es fs
  | t, u => !t.isMap && !u.isMap

/-- Whether the values under keys of both have one shape. -/
def fieldsAgree : List (String × Tree) → List (String × Tree) → Bool
  | [], _ => true
  | (k, v) :: rest, fs =>
    (match Fields.get? k fs with
      | some w => shapesAgree v w
      | none => true) && fieldsAgree rest fs

end

theorem shapesAgree_of_get? {key : String} {es fs : List (String × Tree)} {v w : Tree}
    (h : fieldsAgree es fs = true) (hv : (key, v) ∈ es) (hw : Fields.get? key fs = some w) :
    shapesAgree v w = true := by
  induction es with
  | nil => cases hv
  | cons e rest ih =>
    obtain ⟨k, u⟩ := e
    rw [fieldsAgree, Bool.and_eq_true] at h
    rcases List.mem_cons.mp hv with heq | hrest
    · cases heq
      simpa [hw] using h.1
    · exact ih h.2 hrest

theorem isMap_eq_of_shapesAgree {t u : Tree} (h : t.shapesAgree u = true) : t.isMap = u.isMap := by
  unfold shapesAgree at h
  split at h
  · rfl
  · simp only [Bool.and_eq_true, Bool.not_eq_true'] at h
    rw [h.1, h.2]

theorem shapesAgree_field? {t u v w : Tree} {key : String} (h : t.shapesAgree u = true)
    (hv : field? key t = some v) (hw : field? key u = some w) : v.shapesAgree w = true := by
  unfold shapesAgree at h
  split at h
  · exact shapesAgree_of_get? h (Fields.mem_of_get? hv) hw
  · -- Values that are no maps hold nothing under a key.
    cases t <;> first
      | cases h
      | cases hv

/-- Shapes that are found to agree are one shape. -/
theorem sameShape_of_shapesAgree {t u : Tree} (h : t.shapesAgree u = true) : SameShape t u := by
  intro keys v w hv hw
  induction keys generalizing t u with
  | nil =>
    cases hv
    cases hw
    exact isMap_eq_of_shapesAgree h
  | cons key rest ih =>
    obtain ⟨a, ha, hv⟩ := Option.bind_eq_some_iff.mp hv
    obtain ⟨b, hb, hw⟩ := Option.bind_eq_some_iff.mp hw
    exact ih (shapesAgree_field? h ha hb) hv hw

/-- What a merged tree holds is a map or none like what one of the two trees holds. -/
theorem atKeys?_merged {base other v : Tree} {keys : List String} (ho : other.WellFormed)
    (h : (base.merged other).atKeys? keys = some v) :
    ∃ u, (base.atKeys? keys = some u ∨ other.atKeys? keys = some u) ∧ u.isMap = v.isMap := by
  induction keys generalizing base other with
  | nil =>
    cases h
    exact ⟨other, Or.inr rfl, (isMap_merged base other).symm⟩
  | cons key rest ih =>
    by_cases hmaps : base.isMap = true ∧ other.isMap = true
    · rw [atKeys?, field?_merged ho hmaps] at h
      obtain ⟨m, hm, hv⟩ := Option.bind_eq_some_iff.mp h
      simp only [atKeys?]
      rcases hb : field? key base with _ | b <;> rcases hother : field? key other with _ | o <;>
        rw [hb, hother] at hm
      · cases hm
      · cases hm
        exact ⟨v, Or.inr hv, rfl⟩
      · cases hm
        exact ⟨v, Or.inl hv, rfl⟩
      · cases hm
        simpa using ih (wellFormed_field? ho hother) hv
    · rw [merged_of_isMap_eq_false hmaps] at h
      exact ⟨v, Or.inr h, rfl⟩

theorem SameShape.merged {base other t : Tree} (ho : other.WellFormed) (hb : SameShape base t)
    (hother : SameShape other t) : SameShape (base.merged other) t := by
  intro keys v w hv hw
  obtain ⟨u, hu, hkind⟩ := atKeys?_merged ho hv
  rw [← hkind]
  exact hu.elim (fun hu => hb keys u w hu hw) fun hu => hother keys u w hu hw

/-- A tree of the same shape never stands between two maps as something else. -/
theorem SameShape.mapsMeet {between last : Tree} (h : SameShape between last) (first : Tree) :
    MapsMeet first between last := by
  intro keys a b c _ hb hc _ hmap
  rw [h keys b c hb hc, hmap]

theorem wellFormed_foldl_merged {t : Tree} {us : List Tree} (ht : t.WellFormed)
    (hus : ∀ u ∈ us, u.WellFormed) : (us.foldl merged t).WellFormed := by
  induction us generalizing t with
  | nil => exact ht
  | cons u rest ih =>
    rw [List.forall_mem_cons] at hus
    exact ih (wellFormed_merged ht hus.1) hus.2

theorem sameShape_foldl_merged {t v : Tree} {us : List Tree} (hus : ∀ u ∈ us, u.WellFormed)
    (ht : SameShape t v) (h : ∀ u ∈ us, SameShape u v) : SameShape (us.foldl merged t) v := by
  induction us generalizing t with
  | nil => exact ht
  | cons u rest ih =>
    rw [List.forall_mem_cons] at hus h
    exact ih hus.2 (ht.merged hus.1 h.1) h.2

/-- Whether trees hold maps at the same places, as far as two of them hold values there. -/
def OneShape (us : List Tree) : Prop := ∀ u ∈ us, ∀ v ∈ us, SameShape u v

theorem OneShape.subset {us vs : List Tree} (h : OneShape vs) (hsub : us ⊆ vs) : OneShape us :=
  fun u hu v hv => h u (hsub hu) v (hsub hv)

/-- Trees that are merged into a map one by one may be merged with each other first, when they are
maps of one shape. -/
theorem foldl_merged {t : Tree} {us : List Tree} (ht : t.WellFormed) (hmap : t.isMap = true)
    (hus : ∀ u ∈ us, u.WellFormed) (h : OneShape (empty :: us)) :
    us.foldl merged t = t.merged (us.foldl merged empty) := by
  induction us using List.reverseRecOn with
  | nil =>
    obtain ⟨es, rfl⟩ := isMap_iff.mp hmap
    simp [empty, merged, mergedFields]
  | append_singleton us u ih =>
    have hbefore : ∀ v ∈ us, v.WellFormed := fun v hv => hus v (List.mem_append_left _ hv)
    have hlast : u.WellFormed := hus u (by simp)
    have hsub : empty :: us ⊆ empty :: (us ++ [u]) :=
      List.cons_subset_cons empty (List.subset_append_left us [u])
    have hshape : ∀ v ∈ empty :: us, SameShape v u := fun v hv => h v (hsub hv) u (by simp)
    rw [List.forall_mem_cons] at hshape
    rw [List.foldl_append, List.foldl_append, ih hbefore (h.subset hsub)]
    refine merged_assoc ht (wellFormed_foldl_merged wellFormed_empty hbefore) hlast ?_
    exact (sameShape_foldl_merged hbefore hshape.1 hshape.2).mapsMeet t

end Tree

end Converge
