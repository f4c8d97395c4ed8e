/-!
# Fields in insertion order

The entries of a map, in the order in which their keys first came. Writing a key that is there keeps
its place.
-/

namespace Converge

/-- Keyed entries in insertion order. -/
abbrev Fields (α : Type) := List (String × α)

namespace Fields

variable {α β : Type}

/-- The value under a key. -/
def get? (key : String) : Fields α → Option α
  | [] => none
  | (k, v) :: rest => if k = key then some v else get? key rest

/-- Writes a value under a key: in place when the key is there, at the end otherwise. -/
def put (key : String) (value : α) : Fields α → Fields α
  | [] => [(key, value)]
  | (k, v) :: rest => if k = key then (k, value) :: rest else (k, v) :: put key value rest

/-- The keys in order. -/
def keys (fs : Fields α) : List String := fs.map Prod.fst

/-- A written key has the written value. -/
@[simp]
theorem get?_put_self (key : String) (value : α) (fs : Fields α) :
    get? key (put key value fs) = some value := by
  induction fs with
  | nil => simp [put, get?]
  | cons e rest ih =>
    obtain ⟨k, v⟩ := e
    by_cases h : k = key <;> simp [put, get?, h, ih]

/-- Writing a key leaves the others alone. -/
theorem get?_put_of_ne {key other : String} (h : key ≠ other) (value : α) (fs : Fields α) :
    get? other (put key value fs) = get? other fs := by
  induction fs with
  | nil => simp [put, get?, h]
  | cons e rest ih =>
    obtain ⟨k, v⟩ := e
    by_cases hk : k = key
    · subst hk
      simp [put, get?, h]
    · simp only [put, if_neg hk, get?]
      split
      · rfl
      · exact ih

/-- The value that is written last stays. -/
theorem put_put_self (key : String) (first second : α) (fs : Fields α) :
    put key second (put key first fs) = put key second fs := by
  induction fs with
  | nil => simp [put]
  | cons e rest ih =>
    obtain ⟨k, v⟩ := e
    by_cases hk : k = key
    · simp [put, hk]
    · simp only [put, if_neg hk, ih]

/-- A key has no value exactly when it is none of the keys. -/
theorem get?_eq_none_iff {key : String} {fs : Fields α} :
    get? key fs = none ↔ key ∉ keys fs := by
  induction fs with
  | nil => simp [get?, keys]
  | cons e rest ih =>
    obtain ⟨k, v⟩ := e
    by_cases hk : k = key
    · simp [get?, keys, hk]
    · have hk' : key ≠ k := fun h => hk h.symm
      simp only [get?, if_neg hk, ih, keys, List.map_cons, List.mem_cons, not_or]
      exact ⟨fun h => ⟨hk', h⟩, fun h => h.2⟩

/-- A key that is there keeps its place. -/
theorem keys_put_of_mem {key : String} {fs : Fields α} (h : key ∈ keys fs) (value : α) :
    keys (put key value fs) = keys fs := by
  induction fs with
  | nil => cases h
  | cons e rest ih =>
    obtain ⟨k, v⟩ := e
    by_cases hk : k = key
    · simp [put, keys, hk]
    · have hrest : key ∈ keys rest := by
        rcases List.mem_cons.1 h with h | h
        · exact absurd h.symm hk
        · exact h
      simp only [put, if_neg hk, keys, List.map_cons]
      exact congrArg (k :: ·) (ih hrest)

/-- A new key comes last. -/
theorem keys_put_of_not_mem {key : String} {fs : Fields α} (h : key ∉ keys fs) (value : α) :
    keys (put key value fs) = keys fs ++ [key] := by
  induction fs with
  | nil => rfl
  | cons e rest ih =>
    obtain ⟨k, v⟩ := e
    have hk : k ≠ key := fun hk => h (by simp [keys, hk])
    have hrest : key ∉ keys rest := fun hm => h (List.mem_cons_of_mem _ hm)
    simp only [put, if_neg hk, keys, List.map_cons, List.cons_append]
    exact congrArg (k :: ·) (ih hrest)

/-- Distinct keys stay distinct. -/
theorem nodup_keys_put {key : String} {fs : Fields α} (h : (keys fs).Nodup) (value : α) :
    (keys (put key value fs)).Nodup := by
  by_cases hk : key ∈ keys fs
  · rw [keys_put_of_mem hk]
    exact h
  · rw [keys_put_of_not_mem hk, List.nodup_append]
    refine ⟨h, by simp, ?_⟩
    intro a ha b hb hab
    rw [List.mem_singleton.1 hb] at hab
    exact hk (hab ▸ ha)

/-- Collects entries in order; of entries with one key the last gives the value and the first the
place. -/
def collect (entries : List (String × α)) : Fields α :=
  entries.foldl (fun fs (k, v) => put k v fs) []

/-- Entries with other entries written over them in order. -/
def overlay (fs more : Fields α) : Fields α := more.foldl (fun fs (k, v) => put k v fs) fs

/-- Puts an entry among entries in ascending key order, before those with greater keys. -/
def insertSorted (key : String) (value : α) : Fields α → Fields α
  | [] => [(key, value)]
  | (k, v) :: rest =>
    if key < k then (key, value) :: (k, v) :: rest else (k, v) :: insertSorted key value rest

/-- The entries in ascending key order. -/
def sorted : Fields α → Fields α
  | [] => []
  | (k, v) :: rest => insertSorted k v (sorted rest)

end Fields

end Converge
