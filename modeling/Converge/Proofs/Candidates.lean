import Converge.Proofs.DecisionTable

/-!
# The first candidate with commands

Candidates are rules that may express the same thing, tried in order. Whatever is tried before a
candidate is reached was silent, so it has written nothing: a candidate with commands adds its own
alone, and a name without a rule leaves what was written before as it was. What comes behind either
of the two is never looked at.

`Tried` says how candidates end without a word on how they are tried.

Main statement: `run_emitFirst_iff`.
-/

namespace Converge.Comparison

/-- That a name has a rule, and that the rule has no commands for some data. -/
def Silent (d : Dialect) (data : Tree) (negate : Bool) (name : String) : Prop :=
  ∃ shown, d.render data name negate = .ok shown ∧ shown.toLines = []

/-- How candidates end: what they answer, and the commands that they add. -/
inductive Tried (d : Dialect) (data : Tree) (negate : Bool) :
    List String → Except Failure Bool → List String → Prop
  /-- A candidate has commands, and those before it are silent. -/
  | chosen {before after : List String} {name : String} {shown : Rendering} :
      (∀ n ∈ before, Silent d data negate n) → d.render data name negate = .ok shown →
      shown.toLines ≠ [] → Tried d data negate (before ++ name :: after) (.ok true) shown.toLines
  /-- A name has no rule, and the candidates before it are silent. -/
  | unknown {before after : List String} {name : String} :
      (∀ n ∈ before, Silent d data negate n) → name ∉ d.table.names →
      Tried d data negate (before ++ name :: after) (.error (.unknownRule name)) []
  /-- All candidates are silent. -/
  | exhausted {candidates : List String} : (∀ n ∈ candidates, Silent d data negate n) →
      Tried d data negate candidates (.ok false) []

variable {d : Dialect} {data : Tree} {negate : Bool} {name : String}

/-! ## One candidate -/

theorem run_emitFirst_of_silent (h : Silent d data negate name) (rest written : List String) :
    (emitFirst d data negate (name :: rest)).run written =
      (emitFirst d data negate rest).run written := by
  obtain ⟨shown, hshown, hlines⟩ := h
  have hemit : (emit d data name negate).run written = (.ok 0, written) := by
    rw [run_emit, hshown]
    simp [hlines]
  rw [emitFirst, Session.run_bind_ok hemit, if_neg (Nat.lt_irrefl 0)]

theorem run_emitFirst_of_lines {shown : Rendering} (hshown : d.render data name negate = .ok shown)
    (hlines : shown.toLines ≠ []) (rest written : List String) :
    (emitFirst d data negate (name :: rest)).run written =
      (.ok true, written ++ shown.toLines) := by
  have hemit : (emit d data name negate).run written =
      (.ok shown.toLines.length, written ++ shown.toLines) := by rw [run_emit, hshown]
  rw [emitFirst, Session.run_bind_ok hemit, if_pos (List.length_pos_iff.mpr hlines)]
  rfl

theorem run_emitFirst_of_unknown (h : name ∉ d.table.names) (rest written : List String) :
    (emitFirst d data negate (name :: rest)).run written =
      (.error (.unknownRule name), written) := by
  have hfails : d.render data name negate = .error (.unknownRule name) :=
    Dialect.render_eq_error_iff.mpr ⟨RuleTable.get?_eq_none_iff.mpr h, rfl⟩
  exact Session.run_bind_error (by rw [run_emit, hfails])

/-! ## All candidates -/

/-- Silent candidates in front change nothing. -/
theorem run_emitFirst_append {before : List String} (h : ∀ n ∈ before, Silent d data negate n)
    (rest written : List String) :
    (emitFirst d data negate (before ++ rest)).run written =
      (emitFirst d data negate rest).run written := by
  induction before with
  | nil => rfl
  | cons name before ih =>
    rw [List.forall_mem_cons] at h
    rw [List.cons_append, run_emitFirst_of_silent h.1, ih h.2]

theorem run_emitFirst_of_tried {candidates ls : List String} {result : Except Failure Bool}
    (h : Tried d data negate candidates result ls) (written : List String) :
    (emitFirst d data negate candidates).run written = (result, written ++ ls) := by
  cases h with
  | chosen hbefore hshown hlines =>
    rw [run_emitFirst_append hbefore, run_emitFirst_of_lines hshown hlines]
  | unknown hbefore hname =>
    rw [run_emitFirst_append hbefore, run_emitFirst_of_unknown hname, List.append_nil]
  | exhausted hall =>
    have hnone := run_emitFirst_append hall [] written
    rw [List.append_nil] at hnone
    rw [hnone, List.append_nil]
    rfl

/-- Candidates always end in one of the three ways. -/
theorem exists_tried (d : Dialect) (data : Tree) (negate : Bool) (candidates : List String) :
    ∃ result ls, Tried d data negate candidates result ls := by
  rcases all_or_first_not (Silent d data negate) candidates with
    hall | ⟨before, name, after, rfl, hbefore, hspeaks⟩
  · exact ⟨_, _, .exhausted hall⟩
  · by_cases hname : name ∈ d.table.names
    · obtain ⟨shown, hshown⟩ := Dialect.exists_render hname data negate
      exact ⟨_, _, .chosen hbefore hshown fun hlines => hspeaks ⟨shown, hshown, hlines⟩⟩
    · exact ⟨_, _, .unknown hbefore hname⟩

/-- **One candidate writes its commands, or nothing is written.** The answer is true with the
commands of the first candidate that has any where those before it have rules, the failure of the
first name without a rule where that comes earlier, and false where all candidates are silent. What
was written stays in front. -/
theorem run_emitFirst_iff (d : Dialect) (data : Tree) (negate : Bool)
    (candidates written : List String) (result : Except Failure Bool) (after : List String) :
    (emitFirst d data negate candidates).run written = (result, after) ↔
      ∃ ls, Tried d data negate candidates result ls ∧ after = written ++ ls := by
  constructor
  · intro hrun
    obtain ⟨result', ls, htried⟩ := exists_tried d data negate candidates
    obtain ⟨rfl, rfl⟩ := Prod.mk.inj ((run_emitFirst_of_tried htried written).symm.trans hrun)
    exact ⟨ls, htried, rfl⟩
  · rintro ⟨ls, htried, rfl⟩
    exact run_emitFirst_of_tried htried written

end Converge.Comparison
