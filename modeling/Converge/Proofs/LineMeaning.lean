import Converge.Facts
import Mathlib.Data.List.Basic
import Mathlib.Data.List.Induction

/-!
# What lines mean

The facts of lines, said without the captures that are carried from line to line. A line contributes
what the result of its rule stands for over the line's own captures and, unless the rule is shared,
the captures of the latest line before it that belongs to a shared rule (`contributionAt`). The
facts are the contributions merged in order; where one fails, the first failure is the answer.

`ofLinesFrom_append` cuts the reading of lines in two. From it everything is read off line by line
from the last one backwards, since the captures in force at a line depend on the lines before it
alone.
-/

namespace Converge

/-- A value written over entries is found before what was there; of values under one key the last
counts. -/
theorem Fields.get?_overlay {α : Type} (key : String) (fs more : Fields α) :
    get? key (fs.overlay more) = (get? key more.reverse).or (get? key fs) := by
  induction more using List.reverseRecOn with
  | nil => rfl
  | append_singleton more e ih =>
    obtain ⟨k, v⟩ := e
    have hsnoc : fs.overlay (more ++ [(k, v)]) = put k v (fs.overlay more) := by
      simp [overlay, List.foldl_append]
    rw [hsnoc, List.reverse_append, List.reverse_singleton, List.singleton_append, get?]
    by_cases hk : k = key
    · subst hk
      simp
    · rw [get?_put_of_ne hk, ih, if_neg hk]

namespace Facts

variable (t : RuleTable)

/-! ## Captures in force -/

/-- What a line captures when its rule is shared. -/
def sharedCaptures? (line : String) : Option (Fields Tree) :=
  match t.firstMatch line with
  | some (r, captures) => if r.shared then some captures else none
  | none => none

/-- The captures in force behind some lines, `inForce` being in force before them: those of the
latest line of a shared rule. -/
def inForceBehind (inForce : Fields Tree) (before : List String) : Fields Tree :=
  (before.reverse.findSome? (sharedCaptures? t)).getD inForce

/-- The captures of the latest line of a shared rule before a place, none when there is no such
line. -/
def InForce (lines : List String) (i : Nat) (captures : Fields Tree) : Prop :=
  (∃ j line, j < i ∧ lines[j]? = some line ∧ sharedCaptures? t line = some captures ∧
    ∀ k other, j < k → k < i → lines[k]? = some other → sharedCaptures? t other = none) ∨
  (captures = [] ∧ ∀ j line, j < i → lines[j]? = some line → sharedCaptures? t line = none)

theorem inForceBehind_cons (inForce : Fields Tree) (line : String) (rest : List String) :
    inForceBehind t inForce (line :: rest) =
      inForceBehind t ((sharedCaptures? t line).getD inForce) rest := by
  rw [inForceBehind, inForceBehind, List.reverse_cons, List.findSome?_append]
  cases rest.reverse.findSome? (sharedCaptures? t) with
  | some captures => rfl
  | none => cases h : sharedCaptures? t line <;> simp [h]

theorem inForceBehind_cons_of_none {line : String} (h : t.firstMatch line = none)
    (inForce : Fields Tree) (rest : List String) :
    inForceBehind t inForce (line :: rest) = inForceBehind t inForce rest := by
  rw [inForceBehind_cons, sharedCaptures?, h]
  rfl

theorem inForceBehind_cons_of_some {line : String} {r : Rule} {captures : Fields Tree}
    (h : t.firstMatch line = some (r, captures)) (inForce : Fields Tree) (rest : List String) :
    inForceBehind t inForce (line :: rest) =
      inForceBehind t (inForceAfter inForce r captures) rest := by
  rw [inForceBehind_cons, sharedCaptures?, h]
  cases hr : r.shared <;> simp [inForceAfter, hr]

theorem inForceBehind_append (inForce : Fields Tree) (before after : List String) :
    inForceBehind t inForce (before ++ after) =
      inForceBehind t (inForceBehind t inForce before) after := by
  induction before generalizing inForce with
  | nil => simp [inForceBehind]
  | cons line rest ih => rw [List.cons_append, inForceBehind_cons, ih, inForceBehind_cons]

/-- Looking back for a line of a shared rule finds the captures that are in force. -/
theorem inForce_inForceBehind (lines : List String) {i : Nat} (hi : i ≤ lines.length) :
    InForce t lines i (inForceBehind t [] (lines.take i)) := by
  induction i with
  | zero => exact Or.inr ⟨by simp [inForceBehind], fun j line hj => absurd hj (Nat.not_lt_zero j)⟩
  | succ i ih =>
    obtain ⟨line, hline⟩ : ∃ line, lines[i]? = some line := ⟨lines[i], by simp⟩
    have htake : lines.take (i + 1) = lines.take i ++ [line] := by
      rw [List.take_add_one, hline]
      rfl
    rw [htake, inForceBehind_append, inForceBehind_cons, inForceBehind]
    cases hs : sharedCaptures? t line with
    | some captures =>
      refine Or.inl ⟨i, line, Nat.lt_succ_self i, hline, hs, ?_⟩
      intro k other hk hki
      omega
    | none =>
      rcases ih (by omega) with ⟨j, found, hj, hfound, hcap, hlater⟩ | ⟨hnil, hnone⟩
      · refine Or.inl ⟨j, found, by omega, hfound, hcap, ?_⟩
        intro k other hjk hk hother
        rcases Nat.lt_succ_iff_lt_or_eq.mp hk with hlt | rfl
        · exact hlater k other hjk hlt hother
        · rw [hline] at hother
          cases hother
          exact hs
      · refine Or.inr ⟨hnil, ?_⟩
        intro j other hj hother
        rcases Nat.lt_succ_iff_lt_or_eq.mp hj with hlt | rfl
        · exact hnone j other hlt hother
        · rw [hline] at hother
          cases hother
          exact hs

/-! ## Contributions -/

/-- What the result of a line's rule stands for behind some lines, when a rule matches the line. -/
def lineContribution (before : List String) (line : String) :
    Option (Except Failure (Option Tree)) :=
  (t.firstMatch line).map fun (r, captures) =>
    r.result.fill (.map
      (if r.shared then captures else (inForceBehind t [] before).overlay captures))

/-- What the line at a place contributes, when a rule matches it. -/
def contributionAt (lines : List String) (i : Nat) : Option (Except Failure (Option Tree)) :=
  (lines[i]?).bind (lineContribution t (lines.take i))

/-- The place of the first contribution that fails, with its failure. -/
def FirstFailure (lines : List String) (i : Nat) (f : Failure) : Prop :=
  contributionAt t lines i = some (.error f) ∧
    ∀ j < i, ∀ g, contributionAt t lines j ≠ some (.error g)

/-- The fragment of a contribution that stands for something. -/
def fragment? : Option (Except Failure (Option Tree)) → Option Tree
  | some (.ok fragment) => fragment
  | _ => none

/-- The fragments that lines contribute, in order. -/
def fragments (lines : List String) : List Tree :=
  (List.range lines.length).filterMap fun i => fragment? (contributionAt t lines i)

theorem contributionAt_append_of_lt {lines : List String} {i : Nat} (hi : i < lines.length)
    (more : List String) : contributionAt t (lines ++ more) i = contributionAt t lines i := by
  rw [contributionAt, contributionAt, List.getElem?_append_left hi,
    List.take_append_of_le_length (Nat.le_of_lt hi)]

theorem contributionAt_length (lines : List String) (line : String) :
    contributionAt t (lines ++ [line]) lines.length = lineContribution t lines line := by
  simp [contributionAt]

theorem lt_of_contributionAt {lines : List String} {i : Nat}
    {outcome : Except Failure (Option Tree)} (h : contributionAt t lines i = some outcome) :
    i < lines.length := by
  by_contra hi
  simp [contributionAt, List.getElem?_eq_none (Nat.le_of_not_lt hi)] at h

theorem fragments_append_singleton (lines : List String) (line : String) :
    fragments t (lines ++ [line]) =
      fragments t lines ++ (fragment? (lineContribution t lines line)).toList := by
  have hold : (List.range lines.length).filterMap
      (fun i => fragment? (contributionAt t (lines ++ [line]) i)) = fragments t lines := by
    refine List.filterMap_congr ?_
    intro i hi
    rw [contributionAt_append_of_lt t (List.mem_range.mp hi)]
  rw [fragments, List.length_append, List.length_singleton, List.range_succ,
    List.filterMap_append, hold, List.filterMap_cons, contributionAt_length, List.filterMap_nil]
  cases fragment? (lineContribution t lines line) <;> rfl

/-! ## Reading in parts -/

/-- Facts with what a line contributes, if anything. -/
def extendedBy (facts : Tree) : Option (Except Failure (Option Tree)) → Except Failure Tree
  | none => .ok facts
  | some outcome => outcome.map (extended facts)

/-- Reading lines and then more lines is one reading. -/
theorem ofLinesFrom_append (inForce : Fields Tree) (facts : Tree) (lines more : List String) :
    ofLinesFrom t inForce facts (lines ++ more) =
      (ofLinesFrom t inForce facts lines).bind fun read =>
        ofLinesFrom t (inForceBehind t inForce lines) read more := by
  induction lines generalizing inForce facts with
  | nil => rfl
  | cons line rest ih =>
    rw [List.cons_append, ofLinesFrom, ofLinesFrom]
    rcases hm : t.firstMatch line with _ | ⟨r, captures⟩
    · rw [inForceBehind_cons_of_none t hm]
      exact ih inForce facts
    · rw [inForceBehind_cons_of_some t hm]
      dsimp only
      cases r.result.fill (.map (context inForce r captures)) with
      | error f => rfl
      | ok fragment => exact ih _ _

theorem ofLines_append_singleton (lines : List String) (line : String) :
    ofLines t (lines ++ [line]) =
      (ofLines t lines).bind fun facts => extendedBy facts (lineContribution t lines line) := by
  rw [ofLines, ofLinesFrom_append, ofLines]
  refine congrArg _ (funext fun facts => ?_)
  rw [ofLinesFrom, lineContribution]
  rcases t.firstMatch line with _ | ⟨r, captures⟩
  · rfl
  · simp only [Option.map_some, extendedBy, context, ofLinesFrom]
    rfl

/-- A line that no rule matches can be left out. -/
theorem ofLinesFrom_filter (inForce : Fields Tree) (facts : Tree) (lines : List String) :
    ofLinesFrom t inForce facts (lines.filter fun line => (t.firstMatch line).isSome) =
      ofLinesFrom t inForce facts lines := by
  induction lines generalizing inForce facts with
  | nil => rfl
  | cons line rest ih =>
    cases h : t.firstMatch line with
    | none => simp only [List.filter_cons, h, Option.isSome_none, Bool.false_eq_true, if_false,
        ofLinesFrom, ih]
    | some found => simp only [List.filter_cons, h, Option.isSome_some, if_true, ofLinesFrom, ih]

/-! ## The meaning -/

/-- Reading gives the first failure, or all fragments merged in order. -/
theorem ofLines_reads (lines : List String) :
    (∀ i f, FirstFailure t lines i f → ofLines t lines = .error f) ∧
    ((∀ i f, contributionAt t lines i ≠ some (.error f)) →
      ofLines t lines = .ok ((fragments t lines).foldl Tree.merged .empty)) := by
  induction lines using List.reverseRecOn with
  | nil =>
    exact ⟨fun i f h => absurd (lt_of_contributionAt t h.1) (Nat.not_lt_zero i), fun _ => rfl⟩
  | append_singleton lines line ih =>
    obtain ⟨hfail, hread⟩ := ih
    rw [ofLines_append_singleton]
    constructor
    · rintro i f ⟨hi, hbefore⟩
      have hlt := lt_of_contributionAt t hi
      rw [List.length_append, List.length_singleton] at hlt
      rcases Nat.lt_succ_iff_lt_or_eq.mp hlt with hlt | rfl
      · -- An earlier line fails, and the last one is not reached.
        have hfirst : FirstFailure t lines i f := by
          refine ⟨contributionAt_append_of_lt t hlt [line] ▸ hi, fun j hj g => ?_⟩
          exact contributionAt_append_of_lt t (Nat.lt_trans hj hlt) [line] ▸ hbefore j hj g
        rw [hfail i f hfirst]
        rfl
      · have hnone : ∀ j g, contributionAt t lines j ≠ some (.error g) := by
          intro j g hj
          have hjlt := lt_of_contributionAt t hj
          exact hbefore j hjlt g (contributionAt_append_of_lt t hjlt [line] ▸ hj)
        rw [contributionAt_length] at hi
        rw [hread hnone, hi]
        rfl
    · intro hnone
      have hbefore : ∀ j g, contributionAt t lines j ≠ some (.error g) := by
        intro j g hj
        exact hnone j g (contributionAt_append_of_lt t (lt_of_contributionAt t hj) [line] ▸ hj)
      have hlast := hnone lines.length
      rw [contributionAt_length] at hlast
      rw [hread hbefore, fragments_append_singleton, List.foldl_append]
      rcases hline : lineContribution t lines line with _ | (f | _ | fragment)
      · rfl
      · exact absurd hline (hlast f)
      · rfl
      · rfl

/-- **The facts of lines are the merged contributions of the lines**, or the first failure among
them. Lines that no rule matches count nowhere. -/
theorem ofLines_meaning (lines : List String) :
    (∀ i ≤ lines.length, InForce t lines i (inForceBehind t [] (lines.take i))) ∧
    (∀ (inForce captures : Fields Tree) (key : String), Fields.get? key (inForce.overlay captures) =
      (Fields.get? key captures.reverse).or (Fields.get? key inForce)) ∧
    (∀ i f, FirstFailure t lines i f → ofLines t lines = .error f) ∧
    ((∀ i f, contributionAt t lines i ≠ some (.error f)) →
      ofLines t lines = .ok ((fragments t lines).foldl Tree.merged .empty)) ∧
    (∀ others : List String, others.filter (fun line => (t.firstMatch line).isSome) =
        lines.filter (fun line => (t.firstMatch line).isSome) →
      ofLines t others = ofLines t lines) := by
  refine ⟨fun i hi => inForce_inForceBehind t lines hi,
    fun inForce captures key => Fields.get?_overlay key inForce captures,
    (ofLines_reads t lines).1, (ofLines_reads t lines).2, ?_⟩
  intro others h
  rw [ofLines, ← ofLinesFrom_filter, h, ofLinesFrom_filter, ofLines]

end Facts

end Converge
