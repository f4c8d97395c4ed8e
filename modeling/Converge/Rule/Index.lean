import Converge.Failure
import Std.Data.TreeMap

/-!
# Indexes of names

An index tells at which place of a list a name stands. It is filled in one pass over the list, which
is also the pass that finds a name that comes a second time. Behind the pass the index and the list
agree for every name and every place, and so no name stands at two places.

Main statements: `agrees_of_enter`, `exists_enter`.
-/

namespace Converge

/-- The places of names. -/
abbrev Index := Std.TreeMap String Nat

namespace Index

/-- Enters names at places that follow one another, from one place on. A name that was there already
is a failure. -/
def enter (place : Nat) (ix : Index) : List String → Except Failure Index
  | [] => .ok ix
  | name :: rest =>
    match ix.containsThenInsert name place with
    | (true, _) => .error (.duplicateRule name)
    | (false, entered) => enter (place + 1) entered rest

/-- That an index has each name of a list at its place, and nothing else. -/
def Agrees (ix : Index) (names : List String) : Prop :=
  ∀ (name : String) (place : Nat), ix[name]? = some place ↔ names[place]? = some name

variable {ix entered : Index} {names rest : List String} {name : String}

theorem agrees_empty : Agrees ∅ [] := by
  intro name place
  simp

namespace Agrees

/-- Names at two places differ. -/
theorem nodup (h : Agrees ix names) : names.Nodup := by
  rw [List.nodup_iff_pairwise_ne, List.pairwise_iff_getElem]
  intro i j hi hj hij heq
  have hfirst : ix[names[i]]? = some i := (h _ i).mpr (List.getElem?_eq_getElem hi)
  have hsecond : ix[names[j]]? = some j := (h _ j).mpr (List.getElem?_eq_getElem hj)
  rw [heq, hsecond] at hfirst
  have hsame : j = i := Option.some.inj hfirst
  omega

theorem contains_iff (h : Agrees ix names) : ix.contains name = true ↔ name ∈ names := by
  rw [Std.TreeMap.contains_eq_isSome_getElem?, Option.isSome_iff_exists, List.mem_iff_getElem?]
  exact exists_congr fun place => h name place

/-- A name that is not there yet is entered behind the others. -/
theorem concat (h : Agrees ix names) (hfresh : name ∉ names) :
    Agrees (ix.insert name names.length) (names ++ [name]) := by
  intro other place
  have hinsert : (ix.insert name names.length)[other]? =
      if name = other then some names.length else ix[other]? := by
    simp [Std.TreeMap.getElem?_insert]
  have hother : names[place]? = some other → name ≠ other := by
    rintro hplace rfl
    exact hfresh (List.mem_of_getElem? hplace)
  rw [hinsert]
  rcases Nat.lt_trichotomy place names.length with hbefore | rfl | hbehind
  · rw [List.getElem?_append_left hbefore, ← h other place]
    split
    · rename_i hsame
      constructor
      · intro heq
        have hplace : names.length = place := Option.some.inj heq
        omega
      · intro hplace
        exact absurd hsame (hother ((h other place).mp hplace))
    · rfl
  · rw [List.getElem?_concat_length, Option.some.injEq]
    split
    · simp [*]
    · simp [h other, *]
  · have hnone : (names ++ [name])[place]? = none := by simp; omega
    have hnone' : names[place]? = none := by simp; omega
    rw [hnone]
    split
    · simp; omega
    · rw [h other place, hnone']

end Agrees

theorem enter_cons (place : Nat) (ix : Index) (name : String) (rest : List String) :
    enter place ix (name :: rest) = if ix.contains name = true then .error (.duplicateRule name)
      else enter (place + 1) (ix.insert name place) rest := by
  have hinsert : ix.containsThenInsert name place = (ix.contains name, ix.insert name place) :=
    Prod.ext Std.TreeMap.containsThenInsert_fst Std.TreeMap.containsThenInsert_snd
  rw [enter, hinsert]
  cases ix.contains name <;> rfl

theorem enter_of_mem (h : Agrees ix names) (hname : name ∈ names) (rest : List String) :
    enter names.length ix (name :: rest) = .error (.duplicateRule name) := by
  rw [enter_cons, if_pos (h.contains_iff.mpr hname)]

theorem enter_of_not_mem (h : Agrees ix names) (hname : name ∉ names) (rest : List String) :
    enter names.length ix (name :: rest) =
      enter (names ++ [name]).length (ix.insert name names.length) rest := by
  rw [enter_cons, if_neg (mt h.contains_iff.mp hname), List.length_append]
  rfl

/-- Names that are entered behind those that an index agrees with are agreed with as well. -/
theorem agrees_of_enter (h : Agrees ix names)
    (henter : enter names.length ix rest = .ok entered) : Agrees entered (names ++ rest) := by
  induction rest generalizing ix names with
  | nil =>
    cases henter
    rwa [List.append_nil]
  | cons name rest ih =>
    by_cases hname : name ∈ names
    · rw [enter_of_mem h hname] at henter
      cases henter
    · rw [enter_of_not_mem h hname] at henter
      have hrest := ih (h.concat hname) henter
      rwa [List.append_assoc] at hrest

/-- Distinct names are entered without a failure. -/
theorem exists_enter (h : Agrees ix names) (hdistinct : (names ++ rest).Nodup)
    (more : List String) : ∃ entered, Agrees entered (names ++ rest) ∧
      enter names.length ix (rest ++ more) = enter (names ++ rest).length entered more := by
  induction rest generalizing ix names with
  | nil => exact ⟨ix, by rwa [List.append_nil], by rw [List.append_nil, List.nil_append]⟩
  | cons name rest ih =>
    have hname : name ∉ names := fun hmem =>
      (List.nodup_append.mp hdistinct).2.2 name hmem name List.mem_cons_self rfl
    have hgroup : names ++ name :: rest = names ++ [name] ++ rest := by simp
    rw [hgroup] at hdistinct ⊢
    rw [List.cons_append, enter_of_not_mem h hname]
    exact ih (h.concat hname) hdistinct

end Index

end Converge
