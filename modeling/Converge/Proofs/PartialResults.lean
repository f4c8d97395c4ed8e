import Converge.Proofs.Sequencing
import Converge.Proofs.Tree.Places
import Converge.Skeleton

/-!
# Results that a line fills in part

A text of a skeleton that stands for nothing is left out of its map, so the fragment holds maps down
to the place of the text and nothing there. Merging such a fragment over facts leaves the place as
it was, whatever the facts hold on the way: where they hold a map at each step it stays, and where
they do not, nothing stood at the place before either.

Main statement: `merged_fill_of_missing`.
-/

namespace Converge.Skeleton

mutual

/-- Whether the keys of every map in a skeleton are distinct and without markers. -/
def PlainKeys : Skeleton → Prop
  | sequence items => PlainKeysInItems items
  | map entries => (Fields.keys entries).Nodup ∧ PlainKeysInFields entries
  | _ => True

/-- The same of each item. -/
def PlainKeysInItems : List Skeleton → Prop
  | [] => True
  | v :: rest => PlainKeys v ∧ PlainKeysInItems rest

/-- That no key has markers, and the same of each entry's value. -/
def PlainKeysInFields : List (String × Skeleton) → Prop
  | [] => True
  | (k, v) :: rest => Placeholder.hasMarkers k = false ∧ PlainKeys v ∧ PlainKeysInFields rest

end

/-- The part of a skeleton at a path of keys through its maps. -/
def atKeys? : List String → Skeleton → Option Skeleton
  | [], s => some s
  | key :: rest, map entries => (Fields.get? key entries).bind (atKeys? rest)
  | _ :: _, _ => none

theorem plainKeysInFields_iff {entries : List (String × Skeleton)} :
    PlainKeysInFields entries ↔
      ∀ e ∈ entries, Placeholder.hasMarkers e.1 = false ∧ e.2.PlainKeys := by
  induction entries with
  | nil => simp [PlainKeysInFields]
  | cons e rest ih => simp [PlainKeysInFields, ih, and_assoc]

/-- A key without markers stands for itself. -/
theorem filledKey_of_plain {key : String} (h : Placeholder.hasMarkers key = false)
    (context : Tree) : filledKey key context = .ok (some key) := by
  rw [filledKey, Placeholder.evaluate, h]
  rfl

variable {context : Tree}

theorem nodup_keys_fillFields {entries : List (String × Skeleton)} {fs gs : Fields Tree}
    (hd : (Fields.keys fs).Nodup) (h : fillFields context entries fs = .ok gs) :
    (Fields.keys gs).Nodup := by
  induction entries generalizing fs with
  | nil =>
    cases h
    exact hd
  | cons e rest ih =>
    obtain ⟨filled, -, h⟩ := Session.bind_eq_ok_iff.mp h
    cases filled with
    | none => exact ih hd h
    | some t =>
      obtain ⟨key, -, h⟩ := Session.bind_eq_ok_iff.mp h
      cases key with
      | none => exact ih hd h
      | some key => exact ih (Fields.nodup_keys_put hd t) h

/-- Filling an entry whose key has no markers: a value goes under the key, a missing one nowhere. -/
theorem fillFields_cons_of_plain {key : String} {v : Skeleton} {rest : List (String × Skeleton)}
    {fs gs : Fields Tree} (hkey : Placeholder.hasMarkers key = false)
    (h : fillFields context ((key, v) :: rest) fs = .ok gs) :
    ∃ filled, v.fill context = .ok filled ∧ fillFields context rest (match filled with
      | some t => fs.put key t
      | none => fs) = .ok gs := by
  obtain ⟨filled, hfilled, h⟩ := Session.bind_eq_ok_iff.mp h
  refine ⟨filled, hfilled, ?_⟩
  cases filled with
  | none => exact h
  | some t =>
    rw [filledKey_of_plain hkey] at h
    exact h

theorem get?_fillFields_of_not_mem {entries : List (String × Skeleton)} {fs gs : Fields Tree}
    (hplain : ∀ e ∈ entries, Placeholder.hasMarkers e.1 = false)
    (h : fillFields context entries fs = .ok gs) {key : String}
    (hkey : key ∉ Fields.keys entries) : Fields.get? key gs = Fields.get? key fs := by
  induction entries generalizing fs with
  | nil =>
    cases h
    rfl
  | cons e rest ih =>
    obtain ⟨k, v⟩ := e
    rw [List.forall_mem_cons] at hplain
    have hne : k ≠ key := fun heq => hkey (by simp [Fields.keys, heq])
    have hrest : key ∉ Fields.keys rest := fun hmem => hkey (List.mem_cons_of_mem _ hmem)
    obtain ⟨filled, -, h⟩ := fillFields_cons_of_plain hplain.1 h
    rw [ih hplain.2 h hrest]
    cases filled with
    | none => rfl
    | some t => exact Fields.get?_put_of_ne hne t fs

/-- Under a key of its own an entry has what its value stands for, or nothing. -/
theorem get?_fillFields {entries : List (String × Skeleton)} {fs gs : Fields Tree}
    (hd : (Fields.keys entries).Nodup)
    (hplain : ∀ e ∈ entries, Placeholder.hasMarkers e.1 = false)
    (h : fillFields context entries fs = .ok gs) {key : String} {v : Skeleton}
    (hv : Fields.get? key entries = some v) (hnew : Fields.get? key fs = none) :
    v.fill context = .ok (Fields.get? key gs) := by
  induction entries generalizing fs with
  | nil => cases hv
  | cons e rest ih =>
    obtain ⟨k, w⟩ := e
    obtain ⟨hk, hd⟩ := List.nodup_cons.mp hd
    rw [List.forall_mem_cons] at hplain
    obtain ⟨filled, hfilled, h⟩ := fillFields_cons_of_plain hplain.1 h
    by_cases hkey : k = key
    · subst hkey
      have hvalue : w = v := by simpa [Fields.get?] using hv
      subst hvalue
      rw [get?_fillFields_of_not_mem hplain.2 h hk, hfilled]
      cases filled with
      | none => rw [hnew]
      | some t => simp
    · have hrest : Fields.get? key rest = some v := by simpa [Fields.get?, hkey] using hv
      refine ih hd hplain.2 h hrest ?_
      cases filled with
      | none => exact hnew
      | some t => rw [← hnew, Fields.get?_put_of_ne hkey]

/-- A skeleton with something at a path of keys is a map, and is filled with a value. -/
theorem exists_fill_of_atKeys? {s u : Skeleton} {path : List String} {filled : Option Tree}
    (h : s.atKeys? path = some u) (hpath : path ≠ []) (hfill : s.fill context = .ok filled) :
    ∃ t, filled = some t := by
  cases path with
  | nil => exact absurd rfl hpath
  | cons key rest =>
    cases s with
    | map entries =>
      obtain ⟨fs, -, hmap⟩ := Session.map_eq_ok_iff.mp hfill
      exact ⟨.map fs, hmap.symm⟩
    | _ => cases h

/-- **A missing value leaves the facts alone.** Where a text of a skeleton stands for nothing, facts
with the filled fragment hold what they held before, a value or none. -/
theorem merged_fill_of_missing {s : Skeleton} {fragment : Tree} (hs : s.PlainKeys)
    (hfill : s.fill context = .ok (some fragment)) {path : List String} {t : String}
    (hleaf : s.atKeys? path = some (text t))
    (hnothing : Placeholder.evaluate t context false = .ok none) (r : Tree) :
    (r.merged fragment).atKeys? path = r.atKeys? path := by
  induction path generalizing s fragment r with
  | nil =>
    cases hleaf
    rw [fill, hnothing] at hfill
    cases hfill
  | cons key rest ih =>
    cases s with
    | map entries =>
      obtain ⟨v, hv, hbelow⟩ := Option.bind_eq_some_iff.mp hleaf
      obtain ⟨hd, hkeys⟩ := hs
      rw [plainKeysInFields_iff] at hkeys
      obtain ⟨fs, hfs, hfragment⟩ := Session.map_eq_ok_iff.mp hfill
      cases hfragment
      have hempty : (Fields.keys ([] : Fields Tree)).Nodup := List.nodup_nil
      have hnodup := nodup_keys_fillFields hempty hfs
      have hvalue := get?_fillFields hd (fun e he => (hkeys e he).1) hfs hv rfl
      rw [Tree.atKeys?_merged_map hnodup]
      by_cases hrest : rest = []
      · subst hrest
        cases hbelow
        rw [fill, hnothing] at hvalue
        rw [← Except.ok.inj hvalue]
      · -- A map is filled with a map, and the rest of the path goes on inside it.
        obtain ⟨inner, hinner⟩ := exists_fill_of_atKeys? hbelow hrest hvalue
        rw [hinner] at hvalue
        rw [hinner, Tree.atKeys?_cons hrest r]
        exact ih (hkeys _ (Fields.mem_of_get? hv)).2 hvalue hbelow _
    | _ => cases hleaf

/-- A line without a duplex mode leaves that of the port as it was, and where the facts hold a text
in place of the ports there was none. -/
theorem merged_fill_of_missing_duplex :
    let ports : Skeleton := map [("ports", map [("speed", text "\x7b\x7b speed \x7d\x7d"),
      ("duplex", text "\x7b\x7b duplex \x7d\x7d")])]
    let before : Tree := .map [("ports", .map [("duplex", .text "full"), ("speed", .int 10)])]
    ∃ fragment, ports.fill (.map [("speed", .text "100")]) = .ok (some fragment) ∧
      (before.merged fragment).atKeys? ["ports", "duplex"] = some (.text "full") ∧
      (before.merged fragment).atKeys? ["ports", "speed"] = some (.int 100) ∧
      ((Tree.map [("ports", .text "none")]).merged fragment).atKeys? ["ports", "duplex"] =
        none := by
  intro ports before
  have hplain : ports.PlainKeys := by
    simp [ports, PlainKeys, PlainKeysInFields, Fields.keys, Placeholder.hasMarkers,
      Placeholder.hasMarkersIn]
  have hfill : ports.fill (.map [("speed", .text "100")]) =
      .ok (some (.map [("ports", .map [("speed", .int 100)])])) := by decide +kernel
  have hnothing : Placeholder.evaluate "\x7b\x7b duplex \x7d\x7d" (.map [("speed", .text "100")])
      false = .ok none := by decide +kernel
  have hleaf : ports.atKeys? ["ports", "duplex"] = some (text "\x7b\x7b duplex \x7d\x7d") := rfl
  have hkept := merged_fill_of_missing hplain hfill hleaf hnothing
  exact ⟨_, hfill, hkept before, by decide, hkept _⟩

end Converge.Skeleton
