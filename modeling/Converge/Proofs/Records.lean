import Converge.Proofs.Tree.Data
import Converge.Record
import Mathlib.Data.List.Forall2

/-!
# Records written as trees

The values of a record's fields stand in a map under the names of the fields, in any order and among
other keys, or in a list in the order of the names. `Written` says so without reading; reading a
record finds exactly the values that are written (`fields?_eq_some_iff`). A field that may be null
may also be missing.
-/

namespace Converge.Record

variable {names : List String}

/-! ## Places of fields -/

/-- The entries of a map that stand under some names. -/
def named (names : List String) (entries : Fields Tree) : Fields Tree :=
  entries.filter fun e => names.contains e.1

theorem named_cons_of_mem {k : String} (h : k ∈ names) (v : Tree) (rest : Fields Tree) :
    named names ((k, v) :: rest) = (k, v) :: named names rest :=
  List.filter_cons_of_pos (by simpa using h)

theorem named_cons_of_not_mem {k : String} (h : k ∉ names) (v : Tree) (rest : Fields Tree) :
    named names ((k, v) :: rest) = named names rest :=
  List.filter_cons_of_neg (by simpa using h)

theorem get?_named {name : String} (h : name ∈ names) (entries : Fields Tree) :
    Fields.get? name (named names entries) = Fields.get? name entries := by
  induction entries with
  | nil => rfl
  | cons e rest ih =>
    obtain ⟨k, v⟩ := e
    by_cases hk : k ∈ names
    · rw [named_cons_of_mem hk, Fields.get?, Fields.get?, ih]
    · have hne : k ≠ name := fun heq => hk (heq ▸ h)
      rw [named_cons_of_not_mem hk, ih, Fields.get?, if_neg hne]

/-- The values that a tree writes for fields, by the places of their names. -/
inductive Written (names : List String) : Tree → (Nat → Option Tree) → Prop
  /-- A map in which no name comes twice; other keys do not count. -/
  | map {entries : Fields Tree} : (Fields.keys (named names entries)).Nodup →
      Written names (.map entries) fun i => names[i]?.bind fun name => Fields.get? name entries
  /-- A list, from which the last values may be missing. -/
  | list {items : List Tree} : items.length ≤ names.length →
      Written names (.list items) fun i => items[i]?

theorem known_eq_some_iff {entries fs : Fields Tree} :
    known names (entries.map fun (k, v) => (some k, v)) = some fs ↔
      (Fields.keys (named names entries)).Nodup ∧ named names entries = fs := by
  induction entries generalizing fs with
  | nil => simp [known, named, Fields.keys]
  | cons e rest ih =>
    obtain ⟨k, v⟩ := e
    rw [List.map_cons, known, Option.bind_eq_some_iff]
    simp only [ih]
    by_cases hk : k ∈ names
    · rw [named_cons_of_mem hk]
      constructor
      · rintro ⟨_, ⟨hdistinct, rfl⟩, h⟩
        rw [if_neg (by simpa using hk)] at h
        split at h
        · cases h
        · rename_i hfresh
          rw [Option.not_isSome_iff_eq_none, Fields.get?_eq_none_iff] at hfresh
          exact ⟨List.nodup_cons.mpr ⟨hfresh, hdistinct⟩, Option.some.inj h⟩
      · rintro ⟨hdistinct, rfl⟩
        obtain ⟨hfresh, hrest⟩ := List.nodup_cons.mp hdistinct
        refine ⟨_, ⟨hrest, rfl⟩, ?_⟩
        rw [if_neg (by simpa using hk), Fields.get?_eq_none_iff.mpr hfresh]
        rfl
    · rw [named_cons_of_not_mem hk]
      simp [hk]

theorem fields?_list (items : List Tree) :
    fields? names (Tree.list items) =
      if items.length ≤ names.length then some fun i => items[i]? else none := by
  simp [fields?, Source.form, Source.surplus]

/-- **Reading a record finds what is written.** -/
theorem fields?_eq_some_iff {j : Tree} {field : Nat → Option Tree} :
    fields? names j = some field ↔ Written names j field := by
  have hvalues (entries : Fields Tree) (i : Nat) :
      (names[i]?.bind fun name => Fields.get? name (named names entries)) =
        names[i]?.bind fun name => Fields.get? name entries :=
    Option.bind_congr fun name hname => get?_named (List.mem_of_getElem? hname) entries
  constructor
  · intro h
    cases j with
    | map entries =>
      obtain ⟨_, hknown, rfl⟩ := Option.map_eq_some_iff.mp h
      obtain ⟨hdistinct, rfl⟩ := known_eq_some_iff.mp hknown
      simp only [hvalues]
      exact .map hdistinct
    | list items =>
      rw [fields?_list] at h
      split at h
      · rename_i hlength
        cases h
        exact .list hlength
      · cases h
    | _ => cases h
  · rintro (hdistinct | hlength)
    · refine Option.map_eq_some_iff.mpr ⟨_, known_eq_some_iff.mpr ⟨hdistinct, rfl⟩, ?_⟩
      simp only [hvalues]
    · rw [fields?_list, if_pos hlength]

/-! ## Values of fields -/

/-- A text as a tree, null for none. -/
def textOrNull : Option String → Tree
  | none => .null
  | some s => .text s

theorem required_text?_eq_some_iff {v : Option Tree} {s : String} :
    required text? v = some s ↔ v = some (.text s) := by
  rcases v with _ | t
  · simp [required]
  · cases t <;> simp [required, text?, Source.form]

theorem optional_bool?_eq_some_iff {v : Option Tree} {missing b : Bool} :
    optional missing bool? v = some b ↔ v.getD (.bool missing) = .bool b := by
  rcases v with _ | t
  · simp [optional]
  · cases t <;> simp [optional, bool?, Source.form]

theorem optional_text?_eq_some_iff {v : Option Tree} {s : Option String} :
    optional none (nullable? text?) v = some s ↔ v.getD .null = textOrNull s := by
  rcases v with _ | t
  · cases s <;> simp [optional, textOrNull]
  · cases t <;> cases s <;> simp [optional, nullable?, text?, Source.form, textOrNull]

theorem optional_toTree?_eq_some_iff {depth : Nat} {v : Option Tree} {t : Tree} :
    optional .null (Source.toTree? depth) v = some t ↔ v.getD .null = t := by
  cases v <;> simp [optional, Source.toTree?]

theorem mapM_eq_some_iff {α β : Type} {read : α → Option β} {items : List α} {bs : List β} :
    items.mapM read = some bs ↔ List.Forall₂ (fun t b => read t = some b) items bs := by
  induction items generalizing bs with
  | nil => cases bs <;> simp
  | cons t rest ih =>
    rw [List.mapM_cons, Option.bind_eq_bind, Option.bind_eq_some_iff]
    constructor
    · rintro ⟨b, hb, h⟩
      obtain ⟨bs, hbs, h⟩ := Option.bind_eq_some_iff.mp h
      cases h
      exact .cons hb (ih.mp hbs)
    · rintro (_ | ⟨hb, hbs⟩)
      exact ⟨_, hb, Option.bind_eq_some_iff.mpr ⟨_, ih.mpr hbs, rfl⟩⟩

theorem optional_items?_eq_some_iff {β : Type} {read : Tree → Option β} {v : Option Tree}
    {bs : List β} :
    optional [] (items? read) v = some bs ↔ ∃ items, v.getD (.list []) = .list items ∧
      List.Forall₂ (fun t b => read t = some b) items bs := by
  have hitems (items : List Tree) : items? read (.list items) = items.mapM read := rfl
  rcases v with _ | t
  · cases bs <;> simp [optional]
  · cases t with
    | list items => simp [optional, hitems, mapM_eq_some_iff]
    | _ => simp [optional, items?, Source.form]

end Converge.Record
